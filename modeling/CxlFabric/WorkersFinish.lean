import CxlFabric.Quiescence
import CxlFabric.WorkerResults

/-! # No worker waits for ever

Left to themselves the processes of a deployment take finitely many steps, and where none
of them can take another one no worker is waiting: it has gone through its script, unless
the coordinator was stopped before it accepted the connection. -/
namespace CxlFabric

namespace Link

/-- What is still to be accepted, sent or received on a link, and the end of its worker. -/
def ahead (l : Link) : ℕ :=
  2 * l.process.todo.length + l.up.length + if l.process.exited then 0 else 2

/-- What a worker has still to hear. -/
def unheard (l : Link) : ℕ := l.down.length + if l.process.waiting.isSome then 1 else 0

/-- Less lies ahead, or no more of it and there is less to hear. -/
def Lower (l' l : Link) : Prop :=
  l'.ahead < l.ahead ∨ l'.ahead = l.ahead ∧ l'.unheard < l.unheard

theorem ahead_goOn (l : Link) (p : Worker.Client) (sent : List (Option Frame)) :
    (l.goOn p sent).ahead + (if p.exited then 1 else 0) =
      2 * p.todo.length + l.up.length + sent.length + 2 := by
  unfold ahead goOn
  dsimp only
  rw [List.length_append, List.length_append]
  split
  · rw [List.length_singleton]
    omega
  · rw [List.length_nil]
    omega

theorem ahead_of_live {l : Link} (hlive : l.process.exited = false) :
    l.ahead = 2 * l.process.todo.length + l.up.length + 2 := by simp [ahead, hlive]

end Link

namespace Deployment

open Coordinator Worker

/-- The moves of the processes themselves: nobody connects, nothing is killed or reset, and
other clients send nothing. The coordinator accepts connections as long as it runs. -/
def Own (d : Deployment) : Move → Prop
  | .serve (.accept _) => d.coordinator.running = true
  | .serve (.receive c _) => d.links[c]?.isSome
  | .serve (.advance _ _) | .send _ _ | .recv _ _ | .recvEnd _ | .exit _ => True
  | .serve .signal | .connect _ _ | .kill _ | .reset _ => False

def ahead (d : Deployment) : ℕ := d.backlog.length + sumBy Link.ahead d.links

def pending (d : Deployment) : ℕ := 2 * d.coordinator.work + sumBy Link.unheard d.links

def Lower (d' d : Deployment) : Prop :=
  d'.ahead < d.ahead ∨ d'.ahead = d.ahead ∧ d'.pending < d.pending

theorem lower_wf : WellFounded Lower := by
  have hlex : WellFounded (Prod.Lex (· < · : ℕ → ℕ → Prop) (· < · : ℕ → ℕ → Prop)) :=
    WellFounded.prod_lex wellFounded_lt wellFounded_lt
  refine Subrelation.wf ?_ (InvImage.wf (fun d : Deployment => (d.ahead, d.pending)) hlex)
  intro d' d h
  exact Prod.lex_def.mpr h

section steps
variable {d d' : Deployment} {m : Move} {q : Option (Act × Report)} {c : ConnId} {l l' : Link}
  {t : Task} {a : Act} {r : Report}

theorem Stepped.lower {f : Link → Option Link} (h : d.Stepped c f d')
    (hf : ∀ l l', f l = some l' → l'.Lower l) : Lower d' d := by
  obtain ⟨l, l', hl, hl', rfl⟩ := h.change
  have hahead := sumBy_insert_of_present Link.ahead l' hl
  have hunheard := sumBy_insert_of_present Link.unheard l' hl
  have hlower := hf l l' hl'
  unfold Link.Lower at hlower
  unfold Lower ahead pending setLink
  dsimp only
  omega

theorem sends_lower {hung sent : Bool} (h : sends hung sent l = some l') : l'.Lower l := by
  obtain ⟨t, ht, h⟩ := Option.bind_eq_some_iff.mp h
  obtain ⟨hlive, -, todo, htodo⟩ := next_eq_some ht
  have hbefore := Link.ahead_of_live hlive
  rw [htodo, List.length_cons] at hbefore
  left
  split at h
  · cases h
    have hafter := l.ahead_goOn (l.process.send t) [(l.process.options.frame t).wire]
    have hrest : (l.process.send t).todo = todo := by simp [Client.send, htodo]
    rw [hrest, List.length_singleton] at hafter
    omega
  · split at h
    · cases h
      have hafter := l.ahead_goOn (l.process.sendFailed t) []
      have hrest : (l.process.sendFailed t).todo = todo := by
        simp [Client.sendFailed, Client.send, htodo]
      rw [hrest, List.length_nil] at hafter
      omega
    · cases h

/-- A worker that hears something waits for it no more. -/
theorem hear_lower {down : List (Option Frame)} {beyond : ℕ → UInt8} {result : Option Frame}
    (ht : l.process.awaits = some t) (hdown : down.length ≤ l.down.length) :
    ({ l with down := down }.goOn (l.process.hear t beyond result) []).Lower l := by
  obtain ⟨hlive, hwaiting⟩ := awaits_eq_some ht
  have hbefore := Link.ahead_of_live hlive
  have hafter := Link.ahead_goOn { l with down := down } (l.process.hear t beyond result) []
  have hrest : (l.process.hear t beyond result).todo = l.process.todo := rfl
  have hup : ({ l with down := down } : Link).up = l.up := rfl
  rw [hrest, hup, List.length_nil] at hafter
  have hexit : (if (l.process.hear t beyond result).exited then 1 else 0) ≤ 1 := by split <;> simp
  have hheard : ({ l with down := down }.goOn (l.process.hear t beyond result) []).unheard =
      down.length := rfl
  have hunheard : l.unheard = l.down.length + 1 := by simp [Link.unheard, hwaiting]
  unfold Link.Lower
  omega

theorem ends_lower {may : Bool} (h : ends may l = some l') : l'.Lower l := by
  unfold Deployment.ends at h
  split at h
  · next hgo =>
    cases h
    have hlive : l.process.exited = false := by simpa using hgo.2
    have hbefore := Link.ahead_of_live hlive
    have hafter := l.ahead_goOn l.process.quit []
    have hrest : l.process.quit.todo = l.process.todo := rfl
    have hexited : l.process.quit.exited = true := rfl
    rw [hrest, hexited, if_pos rfl, List.length_nil] at hafter
    left
    omega
  · cases h

/-- The links after an action of the coordinator that is about one of them. -/
theorem passLink_sum {links : Map ConnId Link} (g : Link → ℕ) (hc : a.conn = some c)
    (h : d.passLink a r = some links) :
    (d.links[c]? = none ∧ links = d.links) ∨ ∃ l l', d.links[c]? = some l ∧
      l.pass a r = some l' ∧ sumBy g links + g l = sumBy g d.links + g l' := by
  unfold passLink at h
  rw [hc] at h
  dsimp only at h
  split at h
  · next hnone =>
    cases h
    exact .inl ⟨hnone, rfl⟩
  · next l hl =>
    obtain ⟨l', hl', rfl⟩ := Option.map_eq_some_iff.mp h
    exact .inr ⟨l, l', hl, hl', sumBy_insert_of_present g l' hl⟩

/-- The coordinator works on, and says at most one thing to one worker. -/
theorem serve_lower (hown : d.Own (.serve a)) (h : d.exec (.serve a) = some (d', q)) :
    Lower d' d := by
  obtain ⟨r, rfl, hexec, hlinks, hbacklog⟩ := serve_eq_some h
  have hsame {l l' : Link} (hpass : l.pass a r = some l') (hno : ∀ c b, a ≠ .advance c b)
      (hnot : ∀ c result, a ≠ .receive c result) : l' = l := by
    unfold Link.pass at hpass
    split at hpass
    · exact absurd rfl (hnot _ _)
    · exact absurd rfl (hno _ _)
    · exact (Option.some.inj hpass).symm
  cases a with
  | accept c =>
    left
    have hqueue : d.backlog.length = d'.backlog.length + 1 := by
      simp only [accepts] at hbacklog
      split at hbacklog
      · next hhead =>
        obtain ⟨rest, hrest⟩ := List.head?_eq_some_iff.mp hhead
        rw [← Option.some.inj hbacklog, hrest]
        rfl
      · cases hbacklog
    have hsum : sumBy Link.ahead d'.links = sumBy Link.ahead d.links := by
      rcases passLink_sum Link.ahead rfl hlinks with ⟨-, hlinks⟩ | ⟨l, l', -, hpass, hsum⟩
      · rw [hlinks]
      · rw [hsame hpass (by intro c b h; cases h) (by intro c b h; cases h)] at hsum
        omega
    unfold ahead
    omega
  | receive c result =>
    left
    obtain ⟨l, hl⟩ := Option.isSome_iff_exists.mp hown
    rcases passLink_sum Link.ahead rfl hlinks with ⟨hnone, -⟩ | ⟨l, l', -, hpass, hsum⟩
    · rw [hnone] at hl
      cases hl
    · simp only [Link.pass] at hpass
      split at hpass
      · next hhead =>
        cases hpass
        obtain ⟨up, hup⟩ := List.head?_eq_some_iff.mp hhead
        have hless : ({ l with up := l.up.tail } : Link).ahead + 1 = l.ahead := by
          simp only [Link.ahead, hup, List.tail_cons, List.length_cons]
          omega
        have hqueue : d'.backlog = d.backlog := (Option.some.inj hbacklog).symm
        unfold ahead
        rw [hqueue]
        omega
      · cases hpass
  | advance c b =>
    right
    have hwork := exec_work_lt rfl hexec
    have hqueue : d'.backlog = d.backlog := (Option.some.inj hbacklog).symm
    have hless : ∀ l l' : Link, l.pass (.advance c b) r = some l' →
        l'.ahead = l.ahead ∧ l'.unheard ≤ l.unheard + 1 := by
      intro l l' hpass
      cases r with
      | sent resp =>
        cases hpass
        refine ⟨rfl, ?_⟩
        simp only [Link.unheard, List.length_append, List.length_singleton]
        omega
      | silent | performed =>
        cases hpass
        exact ⟨rfl, Nat.le_succ _⟩
    unfold ahead pending
    rw [hqueue]
    rcases passLink_sum Link.ahead rfl hlinks with ⟨-, hlinks⟩ | ⟨l, l', hl, hpass, hsum⟩
    · rw [hlinks]
      omega
    · rcases passLink_sum Link.unheard rfl hlinks with ⟨hnone, -⟩ | ⟨k, k', hk, hpass', hsum'⟩
      · rw [hnone] at hl
        cases hl
      · obtain ⟨hahead, -⟩ := hless l l' hpass
        obtain ⟨-, hunheard⟩ := hless k k' hpass'
        omega
  | signal => cases hown

/-- Every own move of a process goes down. -/
theorem own_lower (hown : d.Own m) (h : d.exec m = some (d', q)) : Lower d' d := by
  cases m with
  | serve a => exact serve_lower hown h
  | send c sent => exact (step_eq_some h).2.lower fun _ _ hl => sends_lower hl
  | recv c beyond =>
    refine (step_eq_some h).2.lower ?_
    intro l l' hl
    obtain ⟨t, ht, hl⟩ := Option.bind_eq_some_iff.mp hl
    obtain ⟨result, hresult, rfl⟩ := Option.map_eq_some_iff.mp hl
    exact hear_lower ht (by simp)
  | recvEnd c =>
    refine (step_eq_some h).2.lower ?_
    intro l l' hl
    obtain ⟨t, ht, hl⟩ := Option.bind_eq_some_iff.mp hl
    split at hl
    · cases hl
      exact hear_lower ht (Nat.zero_le _)
    · cases hl
  | exit c => exact (step_eq_some h).2.lower fun _ _ hl => ends_lower hl
  | connect | kill | reset => cases hown

end steps

/-- The connections in the queue have not been accepted, and those of the workers that have
not been accepted are in the queue. -/
structure Queued (d : Deployment) : Prop where
  fresh : ∀ c ∈ d.backlog, d.coordinator.connections[c]? = none
  nodup : d.backlog.Nodup
  queued : ∀ (c : ConnId) (l : Link), d.links[c]? = some l →
    d.coordinator.connections[c]? = none → c ∈ d.backlog

section queue
variable {d d' : Deployment} {m : Move} {q : Option (Act × Report)} {c : ConnId}
  {tr : List (Move × Option (Act × Report))} {a : Act} {r : Report}

theorem Queued.stepped {f : Link → Option Link} (h : d.Queued) (hstep : d.Stepped c f d') :
    d'.Queued := by
  obtain ⟨l, l', hl, -, rfl⟩ := hstep.change
  refine ⟨h.fresh, h.nodup, ?_⟩
  intro k lk hk hnone
  have hk' : (d.links.insert c l')[k]? = some lk := hk
  rw [getElem?_insert_eq] at hk'
  split at hk'
  · next heq => exact h.queued k l (heq ▸ hl) hnone
  · exact h.queued k lk hk' hnone

theorem Queued.connect {o : Option Options} (h : d.Queued) (hconnect : d.connect c o = some d') :
    d'.Queued := by
  unfold Deployment.connect at hconnect
  split at hconnect
  · next hnew =>
    obtain ⟨hlink, hconn, hback⟩ := hnew
    have hfresh : ∀ k ∈ d.backlog ++ [c], d.coordinator.connections[k]? = none := by
      intro k hk
      rcases List.mem_append.mp hk with hk | hk
      · exact h.fresh k hk
      · rw [List.mem_singleton.mp hk]
        exact hconn
    have hnodup : (d.backlog ++ [c]).Nodup := by
      refine List.nodup_append.mpr ⟨h.nodup, List.nodup_singleton c, ?_⟩
      intro k hk k' hk' heq
      rw [List.mem_singleton.mp hk'] at heq
      exact hback (heq ▸ hk)
    cases hconnect
    cases o with
    | none =>
      refine ⟨hfresh, hnodup, ?_⟩
      intro k lk hk hnone
      exact List.mem_append_left _ (h.queued k lk hk hnone)
    | some o =>
      refine ⟨hfresh, hnodup, ?_⟩
      intro k lk hk hnone
      have hk' : (d.links.insert c { process := o.process })[k]? = some lk := hk
      rw [getElem?_insert_eq] at hk'
      split at hk'
      · next heq => exact heq ▸ List.mem_append_right _ List.mem_cons_self
      · exact List.mem_append_left _ (h.queued k lk hk' hnone)
  · cases hconnect

/-- A connection that is there stays there. -/
theorem known_stays {s₀ : Coordinator} {acts : List (Act × Report)} {w : WorkerState}
    {s s' : Coordinator} (hconsistent : Consistent s₀ acts s) (hexec : s.exec a = some (s', r))
    (hw : s.connections[c]? = some w) : s'.connections[c]? ≠ none := by
  by_cases hc : a.conn = some c
  · obtain ⟨w', hw', -⟩ := hconsistent.own hw hc hexec
    rw [hw']
    exact Option.some_ne_none w'
  · obtain ⟨dead, hw'⟩ := (exec_effect hexec).other hw hc
    rw [hw']
    exact Option.some_ne_none _

theorem Queued.serve {s₀ : Coordinator} (h : d.Queued)
    (hconsistent : Consistent s₀ (acts tr) d.coordinator) (hserved : d.Served a r d') :
    d'.Queued := by
  obtain ⟨hexec, hlinks, hbacklog⟩ := hserved
  have heffect := exec_effect hexec
  have hsub : ∀ k ∈ d'.backlog, k ∈ d.backlog ∧ a ≠ .accept k := by
    intro k hk
    cases a with
    | accept c =>
      simp only [accepts] at hbacklog
      split at hbacklog
      · next hhead =>
        obtain ⟨rest, hrest⟩ := List.head?_eq_some_iff.mp hhead
        have hnodup := h.nodup
        rw [hrest, List.nodup_cons] at hnodup
        rw [← Option.some.inj hbacklog, hrest] at hk
        refine ⟨hrest ▸ List.mem_cons_of_mem c hk, ?_⟩
        intro heq
        cases heq
        exact hnodup.1 hk
      · cases hbacklog
    | receive | advance | signal =>
      rw [← Option.some.inj hbacklog] at hk
      refine ⟨hk, ?_⟩
      intro heq
      cases heq
  have hkept : ∀ k ∈ d.backlog, a ≠ .accept k → k ∈ d'.backlog := by
    intro k hk hne
    cases a with
    | accept c =>
      simp only [accepts] at hbacklog
      split at hbacklog
      · next hhead =>
        obtain ⟨rest, hrest⟩ := List.head?_eq_some_iff.mp hhead
        rw [hrest] at hk
        rw [← Option.some.inj hbacklog, hrest]
        rcases List.mem_cons.mp hk with rfl | hk
        · exact absurd rfl hne
        · exact hk
      · cases hbacklog
    | receive | advance | signal =>
      rw [← Option.some.inj hbacklog]
      exact hk
  refine ⟨?_, ?_, ?_⟩
  · intro k hk
    obtain ⟨hold, hother⟩ := hsub k hk
    have hnone := h.fresh k hold
    by_cases hc : a.conn = some k
    · exact absurd (heffect.begins hc hnone).1 hother
    · exact phaseOf_eq_none.mp ((heffect.phaseOf_other hc).trans (phaseOf_eq_none.mpr hnone))
  · cases a with
    | accept c =>
      simp only [accepts] at hbacklog
      split at hbacklog
      · rw [← Option.some.inj hbacklog]
        exact h.nodup.sublist (List.tail_sublist _)
      · cases hbacklog
    | receive | advance | signal =>
      rw [← Option.some.inj hbacklog]
      exact h.nodup
  · intro k lk hk hnone
    have hbefore : d.coordinator.connections[k]? = none := by
      cases hw : d.coordinator.connections[k]? with
      | none => rfl
      | some w => exact absurd hnone (known_stays hconsistent hexec hw)
    have hlink : ∃ l, d.links[k]? = some l := by
      rcases passLink_eq_some hlinks hk with ⟨-, hl⟩ | ⟨-, l, hl, -⟩
      · exact ⟨lk, hl⟩
      · exact ⟨l, hl⟩
    obtain ⟨l, hl⟩ := hlink
    refine hkept k (h.queued k l hl hbefore) ?_
    rintro rfl
    have hnow := (heffect.begins rfl hbefore).2
    rw [hnow, setWorker_self] at hnone
    cases hnone

theorem queued_of_run {epoch : CoordinatorEpoch} {recovered : Option PersistedState}
    {persist : Bool} (hrun : Run exec (start epoch recovered persist) tr d) : d.Queued := by
  have hboth := hrun.invariant_trace (A := fun _ => True)
    (I := fun tr d => Run exec (start epoch recovered persist) tr d ∧ d.Queued)
    (fun _ _ _ => trivial) ?_ trivial ⟨.nil _, ?_⟩
  · exact hboth.2
  · rintro tr d m q d' - ⟨hrun, hqueued⟩ hexec
    refine ⟨hrun.append (.single hexec), ?_⟩
    cases m with
    | connect c o =>
      obtain ⟨t, ht, heq⟩ := Option.map_eq_some_iff.mp hexec
      cases heq
      exact hqueued.connect ht
    | serve a =>
      obtain ⟨r, rfl, hserved⟩ := serve_eq_some hexec
      exact hqueued.serve (consistent_of_run (run_coordinator hrun)) hserved
    | send | recv | recvEnd | exit | kill | reset => exact hqueued.stepped (step_eq_some hexec).2
  · refine ⟨?_, List.nodup_nil, ?_⟩
    · intro c hc
      cases hc
    · intro c l hl
      have hnone : (start epoch recovered persist).links[c]? = none :=
        Std.ExtTreeMap.getElem?_empty
      rw [hnone] at hl
      cases hl

end queue

/-- No process has a step to take. -/
def Final (d : Deployment) : Prop := ∀ m, d.Own m → d.exec m = none

section final
variable {d : Deployment} {c : ConnId} {l : Link} {w : WorkerState}
  {tr : List (Move × Option (Act × Report))}

theorem serve_ne_none {a : Act} {s' : Coordinator} {r : Report}
    (hexec : d.coordinator.exec a = some (s', r))
    (hpass : ∀ c l, a.conn = some c → d.links[c]? = some l → l.pass a r ≠ none)
    (haccepts : d.accepts a ≠ none) : d.exec (.serve a) ≠ none := by
  obtain ⟨backlog, hbacklog⟩ := Option.ne_none_iff_exists'.mp haccepts
  have hlinks : ∃ links, d.passLink a r = some links := by
    unfold passLink
    split
    · exact ⟨_, rfl⟩
    · next c hc =>
      split
      · exact ⟨_, rfl⟩
      · next l hl =>
        obtain ⟨l', hl'⟩ := Option.ne_none_iff_exists'.mp (hpass c l hc hl)
        exact ⟨_, by rw [hl', Option.map_some]⟩
  obtain ⟨links, hlinks⟩ := hlinks
  have hserve : d.serve a = some ({ coordinator := s', backlog, links }, some (a, r)) := by
    unfold serve
    rw [hexec, Option.bind_some, hlinks, Option.bind_some, hbacklog, Option.map_some]
  rw [exec, hserve]
  exact Option.some_ne_none _

theorem step_ne_none {f : Link → Option Link} (hl : d.links[c]? = some l) (hf : f l ≠ none) :
    d.step c f ≠ none := by
  obtain ⟨l', hl'⟩ := Option.ne_none_iff_exists'.mp hf
  unfold Deployment.step
  rw [hl, Option.bind_some, hl', Option.map_some]
  exact Option.some_ne_none _

/-- No thread of the coordinator has a step to take. -/
theorem Final.threads (h : d.Final) : d.coordinator.Final := by
  intro a ha
  cases a with
  | advance c b =>
    by_contra hsome
    obtain ⟨⟨s', r⟩, hexec⟩ := Option.ne_none_iff_exists'.mp hsome
    refine serve_ne_none hexec ?_ (Option.some_ne_none _) (h (.serve (.advance c b)) trivial)
    intro k l _ _
    cases r <;> exact Option.some_ne_none _
  | accept | receive | signal => cases ha

/-- A coordinator that runs has accepted every connection. -/
theorem Final.accepted (h : d.Final) (hqueued : d.Queued)
    (hrunning : d.coordinator.running = true) : d.backlog = [] := by
  cases hback : d.backlog with
  | nil => rfl
  | cons c rest =>
    have hfresh := hqueued.fresh c (hback ▸ List.mem_cons_self)
    have hexec : d.coordinator.exec (.accept c) = some (d.coordinator.setWorker c {}, .silent) := by
      simp only [Coordinator.exec, hfresh]
    refine absurd (h (.serve (.accept c)) hrunning) (serve_ne_none hexec ?_ ?_)
    · intro k l _ _
      exact Option.some_ne_none _
    · simp only [accepts, hback, List.head?_cons, if_true]
      exact Option.some_ne_none _

theorem exec_receive_ne_none (hw : d.coordinator.connections[c]? = some w)
    (hphase : w.phase = .greeting ∨ w.phase = .receiving) (result : Option Frame) :
    d.coordinator.exec (.receive c result) ≠ none := by
  rcases hphase with hphase | hphase
  · cases result with
    | none =>
      simp only [Coordinator.exec, Coordinator.receive, hw, hphase]
      exact Option.some_ne_none _
    | some f =>
      simp only [Coordinator.exec, Coordinator.receive, hw, hphase]
      split <;> exact Option.some_ne_none _
  · cases result <;> simp only [Coordinator.exec, Coordinator.receive, hw, hphase] <;>
      exact Option.some_ne_none _

/-- Nothing is under way to a thread that can receive. -/
theorem Final.received (h : d.Final) (hl : d.links[c]? = some l)
    (hw : d.coordinator.connections[c]? = some w)
    (hphase : w.phase = .greeting ∨ w.phase = .receiving) : l.up = [] := by
  cases hup : l.up with
  | nil => rfl
  | cons result up =>
    have hown : d.Own (.serve (.receive c result)) := Option.isSome_iff_exists.mpr ⟨l, hl⟩
    obtain ⟨⟨s', r⟩, hexec⟩ :=
      Option.ne_none_iff_exists'.mp (exec_receive_ne_none hw hphase result)
    refine absurd (h _ hown) (serve_ne_none hexec ?_ (Option.some_ne_none _))
    intro k lk hk hlk
    cases hk
    cases hl.symm.trans hlk
    simp only [Link.pass, hup, List.head?_cons, if_true]
    exact Option.some_ne_none _

/-- Where all requests of a worker have been received and answered, and all answers heard,
it does not wait. -/
theorem Wired.not_waiting {At : List Event → StateSnapshot → Prop} {ctx : AuthorityContext}
    {evts : List Event} {begun : List Task} {p : Phase} (h : Wired evts false false begun l)
    (hstands : Stands At ctx p evts) (hp : p.answering = false)
    (hlive : l.process.exited = false) (hup : l.up = []) (hdown : l.down = []) :
    l.process.waiting = none := by
  obtain ⟨flight, hflight, -, hall⟩ := h.flight rfl
  obtain ⟨got, lost, hheard, -, hsame, hgone⟩ := h.told
  have hlost : lost = 0 := by
    by_contra hlost
    cases (hgone hlost).1
  subst hlost
  have hempty : flight = [] := by
    rw [hup] at hflight
    exact (List.append_eq_nil_iff.mp hflight.symm).1
  have hsent : (requests evts).length = begun.length := by
    have hlength := congrArg List.length (hall hlive)
    simpa [hempty, sentFor] using hlength
  have hreplies : l.process.heard.length = (replies evts).length := by
    have hlength := congrArg List.length (hsame rfl)
    have hlength' := congrArg List.length hheard
    simp only [hdown, List.append_nil, List.length_map, List.replicate_zero] at hlength hlength'
    omega
  obtain ⟨answered, pending, hawaiting, hpairs, -, hnone⟩ := hstands.pairs
  rw [hnone hp, List.append_nil, h.awaiting_eq] at hawaiting
  have hanswered := hpairs.length_eq
  rw [← hawaiting, List.length_tail, hsent, ← List.length_tail, h.awaited] at hanswered
  cases hwaiting : l.process.waiting with
  | none => rfl
  | some t =>
    rw [hwaiting] at hanswered
    simp only [List.length_append, List.length_map, Option.toList_some, List.length_singleton]
      at hanswered
    omega

/-- A worker that has been accepted is through. -/
theorem Final.through {epoch : CoordinatorEpoch} {recovered : Option PersistedState}
    {persist : Bool} (hrun : Run exec (start epoch recovered persist) tr d) (h : d.Final)
    (room : d.coordinator.fabric.state.reservations.size < Fabric.maxReservations)
    (hl : d.links[c]? = some l) (hw : d.coordinator.connections[c]? = some w) :
    l.process.exited = true ∨ l.process.done = true ∧ l.process.options.stay = true := by
  have hcoordinator := run_coordinator hrun
  have hfree := h.threads.free (locked_of_run hcoordinator)
  have hrest : w.phase.resting = true :=
    resting_of_advance hw hfree room (h.threads (.advance c fun _ => 0) rfl)
  obtain ⟨begun, hwired⟩ := wires_of_run hrun c l hl
  cases hlive : l.process.exited with
  | true => exact .inl rfl
  | false =>
    right
    have hphase : d.coordinator.phaseOf c = some w.phase := by simp [phaseOf, hw]
    have hwaiting : l.process.waiting = none := by
      by_contra hsome
      obtain ⟨t, ht⟩ := Option.ne_none_iff_exists'.mp hsome
      have hawaits : l.process.awaits = some t := by simp [Client.awaits, hlive, ht]
      have hdown : l.down = [] := by
        cases hdown : l.down with
        | nil => rfl
        | cons result down =>
          refine absurd (h (.recv c fun _ => 0) trivial) (step_ne_none hl ?_)
          unfold hears
          rw [hawaits, Option.bind_some, hdown, List.head?_cons, Option.map_some]
          exact Option.some_ne_none _
      have hopen : w.phase.hungUp = false := by
        by_contra hhung
        refine absurd (h (.recvEnd c) trivial) (step_ne_none hl ?_)
        have hd : d.hungUp c = true := by
          rw [hungUp, hphase]
          simpa using hhung
        unfold hearsEnd
        rw [hawaits, Option.bind_some, hd, if_pos rfl]
        exact Option.some_ne_none _
      have hreceives : w.phase = .greeting ∨ w.phase = .receiving := by
        cases hp : w.phase with
        | greeting => exact .inl rfl
        | receiving => exact .inr rfl
        | closed =>
          rw [hp] at hopen
          cases hopen
        | _ =>
          rw [hp] at hrest
          cases hrest
      have hflags : w.phase.ending = false := by
        rcases hreceives with hp | hp <;> rw [hp] <;> rfl
      rw [hphase, Option.any_some, Option.any_some, hflags, hopen] at hwired
      have hstands := (consistent_of_run hcoordinator).known c w hw
      exact hsome (hwired.not_waiting hstands (answering_of_resting hrest) hlive
        (h.received hl hw hreceives) hdown)
    have htodo : l.process.todo = [] := by
      cases htodo : l.process.todo with
      | nil => rfl
      | cons t todo =>
        refine absurd (h (.send c true) trivial) (step_ne_none hl ?_)
        have hnext : l.process.next = some t := by
          simp [Client.next, hlive, hwaiting, htodo]
        unfold sends
        rw [hnext, Option.bind_some, if_pos rfl]
        exact Option.some_ne_none _
    have hdone : l.process.done = true := by simp [Client.done, htodo, hwaiting]
    refine ⟨hdone, ?_⟩
    by_contra hstay
    refine absurd (h (.exit c) trivial) (step_ne_none hl ?_)
    unfold ends
    rw [if_pos (by simp [hdone, hlive, hstay])]
    exact Option.some_ne_none _

/-- A worker that is through has had each of its receives return. -/
theorem heard_all {epoch : CoordinatorEpoch} {recovered : Option PersistedState}
    {persist : Bool} (hrun : Run exec (start epoch recovered persist) tr d)
    (hl : d.links[c]? = some l) (hdone : l.process.done = true) :
    l.process.heard.map Prod.fst = l.process.options.tasks.tail := by
  obtain ⟨begun, hwired⟩ := wires_of_run hrun c l hl
  simp only [Client.done, decide_eq_true_eq] at hdone
  have hawaited := hwired.awaited
  have hscript := hwired.script
  rw [hdone.2, Option.toList_none, List.append_nil] at hawaited
  rw [hdone.1, List.append_nil] at hscript
  rw [← hawaited, hscript]

/-- Left to themselves the processes stop after finitely many steps, whatever the order, and
then every worker has exited, or stays with all its receives returned, or has never been
accepted by a coordinator that was stopped. -/
theorem no_worker_waits_forever {epoch : CoordinatorEpoch} {recovered : Option PersistedState}
    {persist : Bool} (hrun : Run exec (start epoch recovered persist) tr d) :
    (∀ states : ℕ → Deployment,
      ¬∀ n, ∃ m q, (states n).Own m ∧ (states n).exec m = some (states (n + 1), q)) ∧
    (∃ tr' t, GuardedRun exec Own d tr' t ∧ t.Final) ∧
    ∀ tr' t, Run exec d tr' t → t.Final →
      t.coordinator.fabric.state.reservations.size < Fabric.maxReservations →
      ∀ (c : ConnId) (l : Link), t.links[c]? = some l → l.process.exited = true ∨
        (l.process.done = true ∧ l.process.options.stay = true ∧
          l.process.heard.map Prod.fst = l.process.options.tasks.tail) ∨
        (t.coordinator.connections[c]? = none ∧ t.coordinator.running = false) := by
  have hlower : ∀ (s : Deployment) m q s', s.Own m → s.exec m = some (s', q) → Lower s' s :=
    fun _ _ _ _ hown hexec => own_lower hown hexec
  refine ⟨GuardedRun.not_endless lower_wf hlower, GuardedRun.exists_final lower_wf hlower d, ?_⟩
  intro tr' t hrest hfinal room c l hl
  have hall := hrun.append hrest
  cases hw : t.coordinator.connections[c]? with
  | none =>
    right
    right
    refine ⟨rfl, ?_⟩
    by_contra hrunning
    have hqueued := queued_of_run hall
    have hmem := hqueued.queued c l hl hw
    rw [hfinal.accepted hqueued (by simpa using hrunning)] at hmem
    cases hmem
  | some w =>
    rcases hfinal.through hall room hl hw with hexited | ⟨hdone, hstay⟩
    · exact .inl hexited
    · exact .inr (.inl ⟨hdone, hstay, heard_all hall hl hdone⟩)

/-- Threads that rest and workers that are through take no step. -/
theorem final_of_resting (hrest : ∀ e ∈ d.coordinator.connections.toList, e.2.phase.resting = true)
    (hback : d.backlog = [])
    (hlinks : ∀ e ∈ d.links.toList, e.2.up = [] ∧ e.2.process.done = true ∧
      e.2.process.options.stay = true) : d.Final := by
  have hlink {c : ConnId} {l : Link} (hl : d.links[c]? = some l) :
      l.up = [] ∧ l.process.done = true ∧ l.process.options.stay = true :=
    hlinks (c, l) (Std.ExtTreeMap.mem_toList_iff_getElem?_eq_some.mpr hl)
  have hthrough {p : Client} (hdone : p.done = true) : p.next = none ∧ p.awaits = none := by
    simp only [Client.done, decide_eq_true_eq] at hdone
    constructor
    · simp [Client.next, hdone.1]
    · simp [Client.awaits, hdone.2]
  have hstep {c : ConnId} {f : Link → Option Link}
      (hf : ∀ l, d.links[c]? = some l → f l = none) : d.step c f = none := by
    unfold Deployment.step
    cases hl : d.links[c]? with
    | none => rfl
    | some l => rw [Option.bind_some, hf l hl, Option.map_none]
  intro m hown
  cases m with
  | serve a =>
    have hnone (h : d.coordinator.exec a = none ∨ (∀ r, d.passLink a r = none) ∨
        d.accepts a = none) : d.exec (.serve a) = none := by
      cases hserve : d.exec (.serve a) with
      | none => rfl
      | some q =>
        obtain ⟨r, -, hexec, hpass, haccepts⟩ := serve_eq_some hserve
        rcases h with h | h | h
        · rw [h] at hexec
          cases hexec
        · rw [h r] at hpass
          cases hpass
        · rw [h] at haccepts
          cases haccepts
    refine hnone ?_
    cases a with
    | accept c =>
      right
      right
      simp [accepts, hback]
    | receive c result =>
      right
      left
      intro r
      obtain ⟨l, hl⟩ := Option.isSome_iff_exists.mp hown
      simp [passLink, Act.conn, hl, Link.pass, (hlink hl).1]
    | advance c b => exact .inl (Coordinator.final_of_resting hrest _ rfl)
    | signal => cases hown
  | send c sent =>
    refine hstep ?_
    intro l hl
    unfold sends
    rw [(hthrough (hlink hl).2.1).1, Option.bind_none]
  | recv c beyond =>
    refine hstep ?_
    intro l hl
    unfold hears
    rw [(hthrough (hlink hl).2.1).2, Option.bind_none]
  | recvEnd c =>
    refine hstep ?_
    intro l hl
    unfold hearsEnd
    rw [(hthrough (hlink hl).2.1).2, Option.bind_none]
  | exit c =>
    refine hstep ?_
    intro l hl
    simp [ends, (hlink hl).2.2]
  | connect | kill | reset => cases hown

theorem no_worker_waits_forever_reservingRun :
    ∃ tr d l, Run exec (start ⟨1⟩ none false) tr d ∧ d.Final ∧ d.links[0]? = some l ∧
      (l.process.exited = true ∨ (l.process.done = true ∧ l.process.options.stay = true ∧
          l.process.heard.map Prod.fst = l.process.options.tasks.tail) ∨
        (d.coordinator.connections[0]? = none ∧ d.coordinator.running = false)) := by
  have hchecks : (reservingRun { reserveBytes := 4096, stay := true }).any (fun q =>
      q.2.links[0]?.isSome &&
      q.2.coordinator.connections.toList.all (fun e => e.2.phase.resting) &&
      decide (q.2.backlog = []) &&
      q.2.links.toList.all (fun e => decide (e.2.up = []) && e.2.process.done &&
        e.2.process.options.stay) &&
      decide (q.2.coordinator.fabric.state.reservations.size < Fabric.maxReservations)) = true := by
    decide +kernel
  obtain ⟨⟨tr, d⟩, hsteps, hd⟩ := (Option.any_eq_true _ _).mp hchecks
  simp only [Bool.and_eq_true, List.all_eq_true, decide_eq_true_eq] at hd
  obtain ⟨⟨⟨⟨hsome, hrest⟩, hback⟩, hlinks⟩, room⟩ := hd
  obtain ⟨l, hl⟩ := Option.isSome_iff_exists.mp hsome
  have hrun := Run.of_execAll hsteps
  have hfinal : d.Final := final_of_resting hrest hback fun e he =>
    ⟨(hlinks e he).1.1, (hlinks e he).1.2, (hlinks e he).2⟩
  exact ⟨tr, d, l, hrun, hfinal, hl,
    (no_worker_waits_forever hrun).2.2 [] d (.nil d) hfinal room 0 l hl⟩

end final

end Deployment

end CxlFabric
