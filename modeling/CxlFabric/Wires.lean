import CxlFabric.Deployment
import CxlFabric.RequestReply

/-! # What is on the wires

The coordinator receives the frames of a worker in the order of its script, and the worker
receives the answers in the order in which they were sent, each after the frame it belongs
to. What is under way is what has been sent and not received. -/
namespace CxlFabric

namespace Deployment

open Coordinator Worker

/-- What the coordinator gets for the frames of some tasks. -/
def sentFor (o : Options) (ts : List Task) : List (Option Frame) := ts.map fun t => (o.frame t).wire

theorem sentFor_concat (o : Options) (ts : List Task) (t : Task) :
    sentFor o (ts ++ [t]) = sentFor o ts ++ [(o.frame t).wire] := List.map_append

/-- How a link stands to the conversation of its connection. `begun` lists the tasks whose
frames the worker has sent. -/
structure Wired (evts : List Event) (ended hung : Bool) (begun : List Task) (l : Link) : Prop where
  script : begun ++ l.process.todo = l.process.options.tasks
  awaited : begun.tail = l.process.heard.map Prod.fst ++ l.process.waiting.toList
  received : (requests evts).map some <+: sentFor l.process.options begun
  flight : ended = false → ∃ flight, l.up = flight ++ (if l.process.exited then [none] else []) ∧
    (requests evts).map some ++ flight <+: sentFor l.process.options begun ∧
    (l.process.exited = false →
      (requests evts).map some ++ flight = sentFor l.process.options begun)
  told : ∃ got lost, l.process.heard.map Prod.snd = got ++ List.replicate lost none ∧
    got ++ l.down <+: (replies evts).map Frame.wire ∧
    (lost = 0 → got ++ l.down = (replies evts).map Frame.wire) ∧
    (lost ≠ 0 → hung = true ∧ l.down = [])
  printed : ∀ ln ∈ l.process.printed, ∃ t resp beyond, (t, some resp) ∈ l.process.heard ∧
    line beyond t resp = some ln

section link
variable {evts : List Event} {ended hung ended' hung' : Bool} {begun : List Task} {l l' : Link}
  {t : Task} {beyond : ℕ → UInt8} {result : Option Frame}

theorem Wired.connected (o : Options) (ended hung : Bool) :
    Wired [] ended hung [] { process := o.process } := by
  refine ⟨rfl, rfl, List.prefix_rfl, ?_, ?_, ?_⟩
  · intro _
    exact ⟨[], rfl, List.prefix_rfl, fun _ => rfl⟩
  · exact ⟨[], 0, rfl, List.prefix_rfl, fun _ => rfl, fun h => absurd rfl h⟩
  · intro ln hln
    cases hln

/-- The first task of a script is the boot, and it comes once. -/
theorem begins_with_boot {o : Options} {todo : List Task}
    (h : begun ++ t :: todo = o.tasks) : t = .boot ↔ begun = [] := by
  have hnodup := tasks_nodup o
  cases begun with
  | nil =>
    have hhead : t :: todo = o.tasks := h
    unfold Options.tasks at hhead
    rw [List.cons.injEq] at hhead
    exact ⟨fun _ => rfl, fun _ => hhead.1⟩
  | cons t' begun =>
    constructor
    · rintro rfl
      have hhead : t' = .boot := by
        unfold Options.tasks at h
        rw [List.cons_append, List.cons.injEq] at h
        exact h.1
      rw [← h, hhead] at hnodup
      simp at hnodup
    · intro hnil
      cases hnil

theorem next_eq_some {p : Client} (h : p.next = some t) :
    p.exited = false ∧ p.waiting = none ∧ ∃ todo, p.todo = t :: todo := by
  unfold Client.next at h
  split at h
  · cases h
  · next hfree =>
    rw [not_or, Bool.not_eq_true, Option.not_isSome_iff_eq_none] at hfree
    obtain ⟨todo, htodo⟩ := List.head?_eq_some_iff.mp h
    exact ⟨hfree.1, hfree.2, todo, htodo⟩

theorem awaits_eq_some {p : Client} (h : p.awaits = some t) :
    p.exited = false ∧ p.waiting = some t := by
  unfold Client.awaits at h
  split at h
  · cases h
  · next hlive => exact ⟨by simpa using hlive, h⟩

/-- A worker sends, or fails to after the thread has gone. -/
theorem Wired.sends {sent : Bool} (h : Wired evts ended hung begun l)
    (hung_ended : hung = true → ended = true) (hl : Deployment.sends hung sent l = some l') :
    ∃ t, Wired evts ended hung (begun ++ [t]) l' := by
  obtain ⟨t, ht, hl⟩ := Option.bind_eq_some_iff.mp hl
  obtain ⟨hlive, hwaiting, todo, htodo⟩ := next_eq_some ht
  have hscript : begun ++ t :: todo = l.process.options.tasks := htodo ▸ h.script
  have hboot := begins_with_boot hscript
  have hawaited : (begun ++ [t]).tail = l.process.heard.map Prod.fst ++
      (if t = .boot then none else some t).toList := by
    have hbefore := h.awaited
    rw [hwaiting, Option.toList_none, List.append_nil] at hbefore
    rw [← hbefore]
    split
    · next heq => rw [hboot.mp heq]; rfl
    · next hne => rw [List.tail_append_of_ne_nil fun hnil => hne (hboot.mpr hnil)]; rfl
  have hreceived : (requests evts).map some <+: sentFor l.process.options (begun ++ [t]) := by
    rw [sentFor_concat]
    exact h.received.trans (List.prefix_append _ _)
  refine ⟨t, ?_⟩
  split at hl
  · cases hl
    refine ⟨?_, hawaited, hreceived, ?_, h.told, h.printed⟩
    · simpa [Link.goOn, Client.send, htodo] using hscript
    · intro hopen
      obtain ⟨flight, hup, -, hall⟩ := h.flight hopen
      rw [hlive] at hup
      have hmore : (requests evts).map some ++ (flight ++ [(l.process.options.frame t).wire]) =
          sentFor l.process.options (begun ++ [t]) := by
        rw [sentFor_concat, ← hall hlive, List.append_assoc]
      refine ⟨flight ++ [(l.process.options.frame t).wire], ?_, ?_, fun _ => hmore⟩
      · simp [Link.goOn, Client.send, hlive, hup]
      · exact hmore ▸ List.prefix_rfl
  · split at hl
    · next hhung =>
      cases hl
      refine ⟨?_, hawaited, hreceived, ?_, h.told, h.printed⟩
      · simpa [Link.goOn, Client.sendFailed, Client.send, htodo] using hscript
      · intro hopen
        rw [hung_ended hhung] at hopen
        cases hopen
    · cases hl

/-- A receive of the worker returns: the next answer, or none any more. -/
theorem Wired.hear (h : Wired evts ended hung begun l) {down : List (Option Frame)}
    (hawaits : l.process.awaits = some t)
    (hdown : (l.down = result :: down ∨ (result = none ∧ down = [] ∧ hung = true))) :
    Wired evts ended hung begun
      ({ l with down := down }.goOn (l.process.hear t beyond result) []) := by
  obtain ⟨hlive, hwaiting⟩ := awaits_eq_some hawaits
  refine ⟨h.script, ?_, h.received, ?_, ?_, ?_⟩
  · have hbefore := h.awaited
    rw [hwaiting] at hbefore
    simpa [Link.goOn, Client.hear] using hbefore
  · intro hopen
    obtain ⟨flight, hup, hfront, hall⟩ := h.flight hopen
    have hup' : l.up = flight := by simpa [hlive] using hup
    refine ⟨flight, ?_, hfront, fun _ => hall hlive⟩
    rw [Link.goOn_up, hup']
    rfl
  · obtain ⟨got, lost, hheard, hfront, hall, hgone⟩ := h.told
    have hheard' : (l.process.heard ++ [(t, result)]).map Prod.snd =
        got ++ List.replicate lost none ++ [result] := by
      rw [List.map_append, hheard]
      rfl
    rcases hdown with hnext | ⟨rfl, rfl, hhung⟩
    · -- Nothing has been lost as long as there is something left to be read.
      have hlost : lost = 0 := by
        by_contra hlost
        rw [(hgone hlost).2] at hnext
        cases hnext
      subst hlost
      rw [hnext, List.append_cons] at hfront
      refine ⟨got ++ [result], 0, ?_, hfront, ?_, fun h => absurd rfl h⟩
      · rw [List.replicate_zero, List.append_nil] at hheard' ⊢
        exact hheard'
      · intro _
        rw [← hall rfl, hnext]
        exact (List.append_cons _ _ _).symm
    · refine ⟨got, lost + 1, ?_, ?_, ?_, fun _ => ⟨hhung, rfl⟩⟩
      · rw [List.replicate_succ', ← List.append_assoc]
        exact hheard'
      · exact (List.prefix_append_right_inj got).mpr List.nil_prefix |>.trans hfront
      · intro hzero
        cases hzero
  · intro ln hln
    rcases List.mem_append.mp hln with hln | hln
    · obtain ⟨t', resp, beyond', hmem, hline⟩ := h.printed ln hln
      exact ⟨t', resp, beyond', List.mem_append_left _ hmem, hline⟩
    · cases result with
      | none => cases hln
      | some resp =>
        exact ⟨t, resp, beyond, List.mem_append_right _ List.mem_cons_self,
          Option.mem_toList.mp hln⟩

/-- The process ends on its own account or is killed. -/
theorem Wired.ends {may : Bool} (h : Wired evts ended hung begun l)
    (hl : Deployment.ends may l = some l') : Wired evts ended hung begun l' := by
  unfold Deployment.ends at hl
  split at hl
  · next hgo =>
    cases hl
    have hlive : l.process.exited = false := by simpa using hgo.2
    refine ⟨h.script, h.awaited, h.received, ?_, h.told, h.printed⟩
    intro hopen
    obtain ⟨flight, hup, hfront, -⟩ := h.flight hopen
    have hup' : l.up = flight := by simpa [hlive] using hup
    refine ⟨flight, ?_, hfront, ?_⟩
    · rw [Link.goOn_up, hup']
      rfl
    · intro hexited
      cases hexited
  · cases hl

theorem Wired.reset (h : Wired evts ended hung begun l) (hexited : l.process.exited = true) :
    Wired evts ended hung begun { l with up := [none] } := by
  refine ⟨h.script, h.awaited, h.received, ?_, h.told, h.printed⟩
  intro hopen
  obtain ⟨flight, hup, hfront, -⟩ := h.flight hopen
  refine ⟨[], by simp [hexited], ?_, ?_⟩
  · rw [List.append_nil]
    exact h.received
  · rw [hexited]
    intro hlive
    cases hlive

theorem requests_single (f : Frame) : requests [.request f] = [f] := rfl

theorem replies_single (resp : Frame) : replies [.reply resp] = [resp] := rfl

/-- The coordinator receives from the link, a frame or what is none. -/
theorem Wired.pop (h : Wired evts false hung begun l) (hup : l.up.head? = some result)
    (hung_same : hung = true → hung' = true) (hend : result = none → ended' = true) :
    Wired (evts ++ (result.map .request).toList) ended' hung' begun { l with up := l.up.tail } := by
  obtain ⟨up, hup⟩ := List.head?_eq_some_iff.mp hup
  obtain ⟨got, lost, hheard, hfront, hall, hgone⟩ := h.told
  cases result with
  | none =>
    rw [hend rfl, Option.map_none, Option.toList_none, List.append_nil]
    refine ⟨h.script, h.awaited, h.received, ?_, ?_, h.printed⟩
    · intro hopen
      cases hopen
    · exact ⟨got, lost, hheard, hfront, hall,
        fun hlost => ⟨hung_same (hgone hlost).1, (hgone hlost).2⟩⟩
  | some f =>
    obtain ⟨flight, hflight, hsent, hlive⟩ := h.flight rfl
    rw [hup] at hflight
    have hpop : ∃ flight', flight = some f :: flight' ∧
        up = flight' ++ if l.process.exited then [none] else [] := by
      cases flight with
      | nil => split at hflight <;> cases hflight
      | cons m flight' =>
        rw [List.cons_append, List.cons.injEq] at hflight
        exact ⟨flight', by rw [hflight.1], hflight.2⟩
    obtain ⟨flight', rfl, hrest⟩ := hpop
    have hrequests : (requests (evts ++ [.request f])).map some =
        (requests evts).map some ++ [some f] := by
      rw [requests_append, requests_single, List.map_append]
      rfl
    have hreplies : replies (evts ++ [.request f]) = replies evts := by
      rw [replies_append]
      exact List.append_nil _
    rw [List.append_cons] at hsent
    refine ⟨h.script, h.awaited, ?_, ?_, ?_, h.printed⟩
    · rw [Option.map_some, Option.toList_some, hrequests]
      exact (List.prefix_append _ _).trans hsent
    · intro _
      rw [Option.map_some, Option.toList_some, hrequests]
      refine ⟨flight', ?_, hsent, ?_⟩
      · rw [hup]
        exact hrest
      · intro hexited
        rw [← hlive hexited]
        exact (List.append_cons _ _ _).symm
    · rw [Option.map_some, Option.toList_some, hreplies]
      exact ⟨got, lost, hheard, hfront, hall,
        fun hlost => ⟨hung_same (hgone hlost).1, (hgone hlost).2⟩⟩

/-- The thread of the connection takes a step. -/
theorem Wired.advance {r : Report} {c : ConnId} {b : ℕ → UInt8} (h : Wired evts ended hung begun l)
    (ended_same : ended = true → ended' = true) (hung_same : hung = true → hung' = true)
    (hquiet : hung = true → ∀ resp, r ≠ .sent resp) (hl : l.pass (.advance c b) r = some l') :
    Wired (evts ++ heard r) ended' hung' begun l' := by
  have hopens (hopen : ended' = false) : ended = false := by
    cases hended : ended with
    | false => rfl
    | true =>
      rw [ended_same hended] at hopen
      cases hopen
  obtain ⟨got, lost, hheard, hfront, hall, hgone⟩ := h.told
  have hsame (hrequests : requests (evts ++ heard r) = requests evts)
      (hreplies : replies (evts ++ heard r) = replies evts) :
      Wired (evts ++ heard r) ended' hung' begun l := by
    refine ⟨h.script, h.awaited, ?_, ?_, ?_, h.printed⟩
    · rw [hrequests]
      exact h.received
    · intro hopen
      rw [hrequests]
      exact h.flight (hopens hopen)
    · rw [hreplies]
      exact ⟨got, lost, hheard, hfront, hall,
        fun hlost => ⟨hung_same (hgone hlost).1, (hgone hlost).2⟩⟩
  cases r with
  | silent =>
    cases hl
    exact hsame (by rw [heard, List.append_nil]) (by rw [heard, List.append_nil])
  | performed op out =>
    cases hl
    refine hsame ?_ ?_
    · rw [requests_append]
      exact List.append_nil _
    · rw [replies_append]
      exact List.append_nil _
  | sent resp =>
    cases hl
    have hlost : lost = 0 := by
      by_contra hlost
      exact hquiet (hgone hlost).1 resp rfl
    subst hlost
    have hrequests : requests (evts ++ heard (.sent resp)) = requests evts := by
      rw [requests_append]
      exact List.append_nil _
    have hreplies : got ++ (l.down ++ [resp.wire]) =
        (replies (evts ++ heard (.sent resp))).map Frame.wire := by
      rw [replies_append, heard, replies_single, List.map_append, ← hall rfl, List.append_assoc]
      rfl
    refine ⟨h.script, h.awaited, ?_, ?_, ?_, h.printed⟩
    · rw [hrequests]
      exact h.received
    · intro hopen
      rw [hrequests]
      exact h.flight (hopens hopen)
    · exact ⟨got, 0, hheard, hreplies ▸ List.prefix_rfl, fun _ => hreplies, fun h => absurd rfl h⟩

end link

section coordinator
variable {s s' : Coordinator} {a : Act} {r : Report} {c : ConnId} {b : ℕ → UInt8}
  {evts : List Event} {begun : List Task} {l l' : Link} {p : Phase}

/-- A thread that has hung up says nothing and does not come back. -/
theorem hungUp_step (hp : s.phaseOf c = some p) (hhung : p.hungUp = true)
    (hexec : s.exec (.advance c b) = some (s', r)) :
    (s'.phaseOf c).any Phase.hungUp = true ∧ ∀ resp, r ≠ .sent resp := by
  obtain ⟨w, hw, rfl⟩ := Option.map_eq_some_iff.mp hp
  cases hphase : w.phase with
  | leaving =>
    simp only [Coordinator.exec, Coordinator.advance, hw, hphase] at hexec
    split at hexec
    · cases hexec
    · obtain ⟨hnext, rfl⟩ := phaseOf_goto hexec
      exact ⟨by rw [hnext]; rfl, by intro resp hr; cases hr⟩
  | closed =>
    simp only [Coordinator.exec, Coordinator.advance, hw, hphase] at hexec
    cases hexec
  | _ =>
    rw [hphase] at hhung
    cases hhung

theorem ending_of_hungUp (hhung : p.hungUp = true) : p.ending = true := by
  cases p <;> first | rfl | cases hhung

/-- An action of the coordinator on the connection of a worker. -/
theorem Wired.pass (hc : a.conn = some c) (hexec : s.exec a = some (s', r))
    (hpass : l.pass a r = some l')
    (h : Wired evts ((s.phaseOf c).any Phase.ending) ((s.phaseOf c).any Phase.hungUp) begun l) :
    Wired (evts ++ (eventOf c (a, r)).toList) ((s'.phaseOf c).any Phase.ending)
      ((s'.phaseOf c).any Phase.hungUp) begun l' := by
  cases a with
  | accept k =>
    cases hc
    cases hpass
    have hevent : (eventOf c (.accept c, r)).toList = [] := rfl
    simp only [Coordinator.exec] at hexec
    split at hexec
    · next hfresh =>
      cases hexec
      have hbefore : s.phaseOf c = none := phaseOf_eq_none.mpr hfresh
      rw [hbefore] at h
      rw [hevent, List.append_nil, phaseOf_setWorker, if_pos rfl]
      exact h
    · cases hexec
  | receive k result =>
    cases hc
    have hpop : l.up.head? = some result ∧ l' = { l with up := l.up.tail } := by
      simp only [Link.pass] at hpass
      split at hpass
      · next hhead => exact ⟨hhead, (Option.some.inj hpass).symm⟩
      · cases hpass
    obtain ⟨hhead, rfl⟩ := hpop
    have hphase : ∃ p, s.phaseOf c = some p ∧ p.ending = false ∧
        (result = none → (s'.phaseOf c).any Phase.ending = true) := by
      have heffect := exec_effect hexec
      cases heffect with
      | booted here phase =>
        refine ⟨.greeting, by simp [phaseOf, here, phase], rfl, ?_⟩
        intro hnone
        cases hnone
      | refused here phase =>
        refine ⟨.greeting, by simp [phaseOf, here, phase], rfl, ?_⟩
        intro _
        rw [phaseOf_setWorker, if_pos rfl]
        rfl
      | received here phase =>
        refine ⟨.receiving, by simp [phaseOf, here, phase], rfl, ?_⟩
        intro hnone
        cases hnone
      | lost here phase =>
        refine ⟨.receiving, by simp [phaseOf, here, phase], rfl, ?_⟩
        intro _
        rw [phaseOf_setWorker, if_pos rfl]
        rfl
    obtain ⟨p, hp, hopen, hnone⟩ := hphase
    have hended : (s.phaseOf c).any Phase.ending = false := by rw [hp]; exact hopen
    have hhung : (s.phaseOf c).any Phase.hungUp = false := by
      rw [hp]
      by_contra hhung
      rw [ending_of_hungUp (by simpa using hhung)] at hopen
      cases hopen
    have hevent : (eventOf c (.receive c result, r)).toList = (result.map .request).toList := by
      cases result with
      | none => rfl
      | some f => simp [eventOf]
    rw [hended, hhung] at h
    rw [hevent]
    exact h.pop hhead (by intro hfalse; cases hfalse) hnone
  | advance k b =>
    cases hc
    rw [eventOf_advance]
    refine h.advance ?_ ?_ ?_ hpass
    · intro hended
      obtain ⟨p, hp, hending⟩ := (Option.any_eq_true _ _).mp hended
      obtain ⟨w, hw, rfl⟩ := Option.map_eq_some_iff.mp hp
      obtain ⟨⟨p', hp', hending'⟩, -⟩ := ending_step hw hending hexec
      rw [hp']
      exact hending'
    · intro hhung
      obtain ⟨p, hp, hhung⟩ := (Option.any_eq_true _ _).mp hhung
      exact (hungUp_step hp hhung hexec).1
    · intro hhung
      obtain ⟨p, hp, hhung⟩ := (Option.any_eq_true _ _).mp hhung
      exact (hungUp_step hp hhung hexec).2
  | signal => cases hc

end coordinator

section run
variable {d d' : Deployment} {tr : List (Move × Option (Act × Report))} {m : Move}
  {q : Option (Act × Report)} {c : ConnId} {l l' : Link}

theorem acts_concat_none (tr : List (Move × Option (Act × Report))) (m : Move) :
    acts (tr ++ [(m, none)]) = acts tr := by simp [acts]

theorem acts_concat_some (tr : List (Move × Option (Act × Report))) (m : Move) (a : Act)
    (r : Report) : acts (tr ++ [(m, some (a, r))]) = acts tr ++ [(a, r)] := by simp [acts]

/-- A step of a deployment is one of the coordinator or leaves the coordinator alone. -/
theorem exec_coordinator (h : d.exec m = some (d', q)) :
    (q = none ∧ d'.coordinator = d.coordinator) ∨
      ∃ a r, m = .serve a ∧ q = some (a, r) ∧ d.Served a r d' := by
  have hstep {c : ConnId} {f : Link → Option Link} (h : d.step c f = some (d', q)) :
      q = none ∧ d'.coordinator = d.coordinator := by
    obtain ⟨rfl, l, l', -, -, rfl⟩ := step_eq_some h
    exact ⟨rfl, rfl⟩
  cases m with
  | connect c o =>
    left
    obtain ⟨t, ht, heq⟩ := Option.map_eq_some_iff.mp h
    cases heq
    unfold Deployment.connect at ht
    split at ht
    · cases ht
      cases o <;> exact ⟨rfl, rfl⟩
    · cases ht
  | serve a =>
    right
    obtain ⟨r, rfl, hserved⟩ := serve_eq_some h
    exact ⟨a, r, rfl, rfl, hserved⟩
  | send c sent => exact .inl (hstep h)
  | recv c beyond => exact .inl (hstep h)
  | recvEnd c => exact .inl (hstep h)
  | exit c => exact .inl (hstep h)
  | kill c => exact .inl (hstep h)
  | reset c => exact .inl (hstep h)

/-- A run of a deployment is a run of its coordinator. -/
theorem run_coordinator (h : Run exec d tr d') :
    Run Coordinator.exec d.coordinator (acts tr) d'.coordinator := by
  induction h with
  | nil d => exact .nil d.coordinator
  | @cons d t u m q tr head tail ih =>
    rcases exec_coordinator head with ⟨rfl, hsame⟩ | ⟨a, r, rfl, rfl, hserved⟩
    · rw [← hsame]
      exact ih
    · exact .cons hserved.exec ih

/-- Every link fits the conversation of its connection. -/
def Wires (d : Deployment) (tr : List (Move × Option (Act × Report))) : Prop :=
  ∀ (c : ConnId) (l : Link), d.links[c]? = some l →
    ∃ begun, Wired (conversation c (acts tr)) ((d.coordinator.phaseOf c).any Phase.ending)
      ((d.coordinator.phaseOf c).any Phase.hungUp) begun l

theorem acts_append (tr tr' : List (Move × Option (Act × Report))) :
    acts (tr ++ tr') = acts tr ++ acts tr' := List.filterMap_append

/-- The links after an action of the coordinator. -/
theorem passLink_eq_some {a : Act} {r : Report} {links : Map ConnId Link}
    (h : d.passLink a r = some links) (hl : links[c]? = some l') :
    (a.conn ≠ some c ∧ d.links[c]? = some l') ∨
      (a.conn = some c ∧ ∃ l, d.links[c]? = some l ∧ l.pass a r = some l') := by
  unfold passLink at h
  split at h
  · next hconn =>
    cases h
    rw [hconn]
    exact .inl ⟨by simp, hl⟩
  · next k hconn =>
    rw [hconn, Option.some.injEq, ne_eq, Option.some.injEq]
    split at h
    · next hnone =>
      cases h
      refine .inl ⟨?_, hl⟩
      rintro rfl
      rw [hnone] at hl
      cases hl
    · next l hhere =>
      obtain ⟨t, ht, rfl⟩ := Option.map_eq_some_iff.mp h
      rw [getElem?_insert_eq] at hl
      split at hl
      · next hk =>
        subst hk
        cases hl
        exact .inr ⟨rfl, l, hhere, ht⟩
      · next hk => exact .inl ⟨hk, hl⟩

theorem Wires.stepped {f : Link → Option Link} (h : d.Wires tr) (hstep : d.Stepped c f d')
    (hacts : acts [(m, q)] = [])
    (hf : ∀ evts begun l l', Wired evts ((d.coordinator.phaseOf c).any Phase.ending)
      ((d.coordinator.phaseOf c).any Phase.hungUp) begun l → f l = some l' →
      ∃ begun', Wired evts ((d.coordinator.phaseOf c).any Phase.ending)
        ((d.coordinator.phaseOf c).any Phase.hungUp) begun' l') : d'.Wires (tr ++ [(m, q)]) := by
  obtain ⟨l, l', hl, hl', rfl⟩ := hstep.change
  intro k lk hk
  rw [acts_append, hacts, List.append_nil]
  have hk' : (d.links.insert c l')[k]? = some lk := hk
  rw [getElem?_insert_eq] at hk'
  split at hk'
  · next heq =>
    subst heq
    cases hk'
    obtain ⟨begun, hwired⟩ := h c l hl
    exact hf _ begun l l' hwired hl'
  · exact h k lk hk'

/-- The links go on fitting the conversations. -/
theorem Wires.step {s₀ : Coordinator} (h : d.Wires tr)
    (hconsistent : Consistent s₀ (acts tr) d.coordinator) (hexec : d.exec m = some (d', q)) :
    d'.Wires (tr ++ [(m, q)]) := by
  have hends {c : ConnId} {may : Link → Bool}
      (hstep : d.step c (fun l => ends (may l) l) = some (d', q)) : d'.Wires (tr ++ [(m, q)]) := by
    obtain ⟨rfl, hstepped⟩ := step_eq_some hstep
    exact h.stepped hstepped rfl fun _ begun _ _ hwired hl => ⟨begun, hwired.ends hl⟩
  cases m with
  | connect c o =>
    obtain ⟨t, ht, heq⟩ := Option.map_eq_some_iff.mp hexec
    cases heq
    rw [Wires, acts_concat_none]
    unfold Deployment.connect at ht
    split at ht
    · next hfresh =>
      cases ht
      cases o with
      | none => exact h
      | some o =>
        intro k lk hk
        have hk' : (d.links.insert c { process := o.process })[k]? = some lk := hk
        rw [getElem?_insert_eq] at hk'
        split at hk'
        · next heq =>
          subst heq
          cases hk'
          rw [hconsistent.unknown c hfresh.2.1]
          exact ⟨[], Wired.connected o _ _⟩
        · exact h k lk hk'
    · cases ht
  | serve a =>
    obtain ⟨r, rfl, hserved⟩ := serve_eq_some hexec
    intro k lk hk
    rw [acts_concat_some, conversation_append, conversation_single]
    rcases passLink_eq_some hserved.links hk with ⟨hother, hsame⟩ | ⟨hown, l, hl, hpass⟩
    · obtain ⟨begun, hwired⟩ := h k lk hsame
      rw [eventOf_other hother, Option.toList_none, List.append_nil,
        (exec_effect hserved.exec).phaseOf_other hother]
      exact ⟨begun, hwired⟩
    · obtain ⟨begun, hwired⟩ := h k l hl
      exact ⟨begun, hwired.pass hown hserved.exec hpass⟩
  | send c sent =>
    obtain ⟨rfl, hstepped⟩ := step_eq_some hexec
    refine h.stepped hstepped rfl ?_
    intro evts begun l l' hwired hl
    obtain ⟨t, hsent⟩ := hwired.sends (fun hhung => by
      obtain ⟨p, hp, hhung⟩ := (Option.any_eq_true _ _).mp hhung
      exact (Option.any_eq_true _ _).mpr ⟨p, hp, ending_of_hungUp hhung⟩) hl
    exact ⟨_, hsent⟩
  | recv c beyond =>
    obtain ⟨rfl, hstepped⟩ := step_eq_some hexec
    refine h.stepped hstepped rfl ?_
    intro evts begun l l' hwired hl
    obtain ⟨t, ht, hl⟩ := Option.bind_eq_some_iff.mp hl
    obtain ⟨result, hresult, rfl⟩ := Option.map_eq_some_iff.mp hl
    obtain ⟨down, hdown⟩ := List.head?_eq_some_iff.mp hresult
    refine ⟨begun, hwired.hear ht (.inl ?_)⟩
    rw [hdown]
    rfl
  | recvEnd c =>
    obtain ⟨rfl, hstepped⟩ := step_eq_some hexec
    refine h.stepped hstepped rfl ?_
    intro evts begun l l' hwired hl
    obtain ⟨t, ht, hl⟩ := Option.bind_eq_some_iff.mp hl
    split at hl
    · next hhung =>
      cases hl
      exact ⟨begun, hwired.hear ht (.inr ⟨rfl, rfl, hhung⟩)⟩
    · cases hl
  | exit c => exact hends hexec
  | kill c => exact hends hexec
  | reset c =>
    obtain ⟨rfl, hstepped⟩ := step_eq_some hexec
    refine h.stepped hstepped rfl ?_
    intro evts begun l l' hwired hl
    split at hl
    · next hexited =>
      cases hl
      exact ⟨begun, hwired.reset hexited⟩
    · cases hl

theorem wires_of_run {epoch : CoordinatorEpoch} {recovered : Option PersistedState}
    {persist : Bool} (hrun : Run exec (start epoch recovered persist) tr d) : d.Wires tr := by
  have hboth := hrun.invariant_trace (A := fun _ => True)
    (I := fun tr d => Run exec (start epoch recovered persist) tr d ∧ d.Wires tr)
    (fun _ _ _ => trivial) ?_ trivial ⟨.nil _, ?_⟩
  · exact hboth.2
  · rintro tr d m q d' - ⟨hrun, hwires⟩ hexec
    refine ⟨hrun.append (.single hexec), ?_⟩
    exact hwires.step (consistent_of_run (run_coordinator hrun)) hexec
  · intro c l hl
    have hnone : (start epoch recovered persist).links[c]? = none := Std.ExtTreeMap.getElem?_empty
    rw [hnone] at hl
    cases hl

end run

end Deployment

end CxlFabric
