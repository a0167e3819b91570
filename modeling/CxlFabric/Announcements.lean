import CxlFabric.RequestReply
import CxlFabric.ReservationHistory
import CxlFabric.WorkerReplies

/-! # Who learns of a reservation

A client learns the identity of its reservation from the reply, and commits and releases
by it. Every reservation in the ledger is announced to one client, once, and nothing else
is announced. -/
namespace CxlFabric

/-- The reservation that a call has made. -/
def Event.booked : Event → Option ReservationId
  | .call op out => Fabric.reservedId (op, out)
  | _ => none

/-- The reservation that a worker reads out of a reply, if it is told that it has one. -/
def Frame.announces (resp : Frame) : Option ReservationId :=
  if resp.type = .reserveResult then
    (Worker.readResult (fun _ => 0) resp.payload).bind fun r =>
      if r.2.2 = 1 then some ⟨r.1⟩ else none
  else none

def Event.announced : Event → Option ReservationId
  | .reply resp => resp.announces
  | _ => none

/-- The reply that the thread sends next. -/
def Phase.owed : Phase → Option Frame
  | .registered _ reason => some (Coordinator.ackFrame reason)
  | .reserved o => some (Coordinator.reserveFrame .reserveResult o)
  | .replying _ resp => some resp
  | _ => none

/-- The identity in the outcome of a reserve fits a string. -/
def Event.Named (e : Event) : Prop :=
  ∀ req ctx o, e = .call (.reserve req ctx) (.reservation o) →
    o.reservation.id.value.length ≤ maxString

namespace Fabric
variable {f f' : Fabric} {op : Op} {out : Outcome}

/-- A reserve that fails reports no identity, one that succeeds a number. -/
theorem reserve_named {req : AdmissionRequest} {ctx : AuthorityContext} {o : ReserveOutcome}
    (h : f.exec (.reserve req ctx) = some (f', .reservation o)) :
    o.reservation.id.value.length ≤ maxString := by
  have hnone : (({} : Reservation).id.value).length ≤ maxString := Nat.zero_le _
  obtain ⟨⟨g, o'⟩, hreserve, heq⟩ := Option.map_eq_some_iff.mp h
  cases heq
  unfold reserve at hreserve
  split at hreserve
  · cases hreserve
    exact hnone
  split at hreserve
  · cases hreserve
    exact hnone
  dsimp only at hreserve
  split at hreserve
  · cases hreserve
    exact hnone
  split at hreserve
  · split at hreserve
    · cases hreserve
      exact hnone
    split at hreserve
    · cases hreserve
      exact hnone
    split at hreserve
    · cases hreserve
    · cases hreserve
      exact length_reservationId_le _
  · cases hreserve
    exact hnone

/-- A reserve that succeeds has made a record that was not there. -/
theorem Effect.booked (h : f.Effect op out f') (hnum : Numbered f) {id : ReservationId}
    (hid : Fabric.reservedId (op, out) = some id) : f.state.reservations[id]? = none ∧
      ∃ res, f'.state.reservations[id]? = some res := by
  cases h with
  | refused fallible failed =>
    rw [(ids_of_failure op failed).1] at hid
    cases hid
  | @reserve req ctx c pool region dev epoch admission =>
    cases hid
    refine ⟨hnum.fresh admission.room, f.newReservation req ctx c dev, ?_⟩
    rw [book_reservations hnum admission.room, getElem?_insert_eq]
    exact if_pos rfl
  | _ => cases hid

theorem Effect.stored_iff (h : f.Effect op out f') (hnum : Numbered f)
    (himport : ∀ st, op ≠ .importPersisted st) (id : ReservationId) :
    (∃ res, f'.state.reservations[id]? = some res) ↔
      (∃ res, f.state.reservations[id]? = some res) ∨
        Fabric.reservedId (op, out) = some id := by
  constructor
  · rintro ⟨res', hres'⟩
    cases hres : f.state.reservations[id]? with
    | none =>
      obtain ⟨-, req, ctx, o, rfl, rfl, hok, -, hid⟩ := h.appears hres hres'
      right
      rw [Fabric.reservedId, hok, hid]
      rfl
    | some res => exact .inl ⟨res, rfl⟩
  · rintro (⟨res, hres⟩ | hid)
    · exact h.remains himport hres
    · exact (h.booked hnum hid).2

/-- The reservations of a run are the ones it has booked. -/
theorem booked_of_run {tr : List (Op × Outcome)} (hrun : Run exec f tr f') (hnum : Numbered f)
    (hempty : ∀ id : ReservationId, f.state.reservations[id]? = none)
    (himport : ∀ e ∈ tr, ∀ st, e.1 ≠ .importPersisted st) :
    (tr.filterMap reservedId).Nodup ∧ ∀ id : ReservationId,
      id ∈ tr.filterMap reservedId ↔ ∃ res, f'.state.reservations[id]? = some res := by
  refine (hrun.invariant_trace (A := fun tr => ∀ e ∈ tr, ∀ st, e.1 ≠ .importPersisted st)
    (I := fun tr g => Numbered g ∧ (tr.filterMap reservedId).Nodup ∧ ∀ id : ReservationId,
      id ∈ tr.filterMap reservedId ↔ ∃ res, g.state.reservations[id]? = some res)
    ?_ ?_ himport ⟨hnum, List.nodup_nil, ?_⟩).2
  · intro tr e hok e' he'
    exact hok e' (List.mem_append_left _ he')
  · rintro tr g op out g' hok ⟨hnum, hnodup, hids⟩ hexec
    have heffect := exec_effect hexec
    have hop : ∀ st, op ≠ .importPersisted st :=
      hok (op, out) (List.mem_append_right _ List.mem_cons_self)
    refine ⟨hnum.step heffect hop, ?_, ?_⟩
    · refine nodup_filterMap_concat hnodup ?_
      intro id hid hmem
      obtain ⟨res, hres⟩ := (hids id).mp hmem
      rw [(heffect.booked hnum hid).1] at hres
      cases hres
    · intro id
      rw [heffect.stored_iff hnum hop, ← hids, List.filterMap_append, List.mem_append]
      simp
  · intro id
    rw [hempty id]
    simp

end Fabric

namespace Coordinator

def bookings (evts : List Event) : List ReservationId := evts.filterMap Event.booked

def announcements (evts : List Event) : List ReservationId := evts.filterMap Event.announced

/-- The identity that the next reply announces. -/
def announcing (p : Phase) : List ReservationId := (p.owed.bind Frame.announces).toList

theorem bookings_append (evts evts' : List Event) :
    bookings (evts ++ evts') = bookings evts ++ bookings evts' := List.filterMap_append

theorem announcements_append (evts evts' : List Event) :
    announcements (evts ++ evts') = announcements evts ++ announcements evts' :=
  List.filterMap_append

@[simp] theorem bookings_call (op : Op) (out : Outcome) (evts : List Event) :
    bookings (.call op out :: evts) = (Fabric.reservedId (op, out)).toList ++ bookings evts := by
  unfold bookings
  rw [List.filterMap_cons, Event.booked]
  cases Fabric.reservedId (op, out) <;> rfl

@[simp] theorem bookings_reply (resp : Frame) (evts : List Event) :
    bookings (.reply resp :: evts) = bookings evts := rfl

@[simp] theorem bookings_request (f : Frame) (evts : List Event) :
    bookings (.request f :: evts) = bookings evts := rfl

@[simp] theorem announcements_call (op : Op) (out : Outcome) (evts : List Event) :
    announcements (.call op out :: evts) = announcements evts := rfl

@[simp] theorem announcements_request (f : Frame) (evts : List Event) :
    announcements (.request f :: evts) = announcements evts := rfl

@[simp] theorem announcements_reply (resp : Frame) (evts : List Event) :
    announcements (.reply resp :: evts) = resp.announces.toList ++ announcements evts := by
  unfold announcements
  rw [List.filterMap_cons, Event.announced]
  cases resp.announces <;> rfl

@[simp] theorem bookings_nil : bookings [] = [] := rfl

@[simp] theorem announcements_nil : announcements [] = [] := rfl

/-- What is announced is read out of the replies. -/
theorem announcements_eq (evts : List Event) :
    announcements evts = (replies evts).filterMap Frame.announces := by
  unfold announcements replies
  rw [List.filterMap_filterMap]
  congr 1
  funext e
  cases e <;> rfl

section talk
variable {At : StateSnapshot → Prop} {ctx : AuthorityContext} {f : Frame} {p : Phase}
  {x evts : List Event}

theorem announces_reserveFrame {o : ReserveOutcome}
    (h : o.reservation.id.value.length ≤ maxString) :
    (reserveFrame .reserveResult o).announces = if o.ok then some o.reservation.id else none := by
  unfold Frame.announces
  rw [if_pos (by rfl), Worker.readResult_reserveFrame h]
  cases o.ok <;> rfl

theorem announces_of_type {resp : Frame} (h : resp.type ≠ .reserveResult) :
    resp.announces = none := if_neg h

/-- Only the answer to a reserve can announce anything. -/
theorem Conveys.announces {type : FrameType} {out : Outcome} {resp : Frame}
    (h : Conveys type out resp) (htype : type ≠ .reserve) : resp.announces = none := by
  refine announces_of_type ?_
  rw [h.type_eq]
  cases type <;> first | exact absurd rfl htype | decide

/-- What an exchange books it announces. -/
theorem Exchange.announces (h : Exchange At ctx f x) (hnamed : ∀ e ∈ x, e.Named) :
    bookings x = announcements x := by
  cases h with
  | @served op out resp asks final answers =>
    have hreply : resp.announces = Fabric.reservedId (op, out) := by
      cases asks with
      | reserve type decoded =>
        rw [type] at answers
        cases answers with
        | decided reason publishes => simp at publishes
        | settled o settles => simp at settles
        | reserved o => exact announces_reserveFrame (hnamed _ List.mem_cons_self _ _ o rfl)
      | device type | commit type | release type | pool type | region type =>
        exact answers.announces (by rw [type]; decide)
    simp [hreply]
  | retried asks retries answers =>
    cases retries with
    | pool pool =>
      have hreply := answers.announces (by rw [asks.publishesPool]; decide)
      simp [hreply, Fabric.reservedId]
    | region region =>
      have hreply := answers.announces (by rw [asks.publishesRegion]; decide)
      simp [hreply, Fabric.reservedId]
  | @refused msg refuses =>
    have hreply : (errorFrame msg).announces = none := announces_of_type (by simp [errorFrame])
    simp [hreply]
  | @queried snap type seen =>
    have hreply : Frame.announces { type := .queryStateResult, payload := stateText snap } = none :=
      announces_of_type (by simp)
    simp [hreply]
  | stopped type => rfl

/-- A thread that owes an answer has announced nothing of what it has booked since the
request. -/
theorem Underway.announces (h : Underway At ctx f p x) (hnamed : ∀ e ∈ x, e.Named) :
    bookings x = announcing p ∧ announcements x = [] := by
  have hack (reason : DecisionReason) : (ackFrame reason).announces = none :=
    announces_of_type (by simp [ackFrame])
  cases h with
  | dispatching | duplicatePool asks | duplicateRegion asks => exact ⟨rfl, rfl⟩
  | @registered d reason asks => simp [announcing, Phase.owed, hack, Fabric.reservedId]
  | @reserved req o asks =>
    have hreply := announces_reserveFrame (hnamed _ List.mem_cons_self _ _ o rfl)
    simp [announcing, Phase.owed, hreply, Fabric.reservedId]
  | @replying resp x exchange =>
    have hsilent : announcements x = [] := by
      rw [announcements_eq, (Underway.replying exchange).pairs.2]
      rfl
    have hnamed' : ∀ e ∈ x ++ [.reply resp], e.Named := by
      intro e he
      rcases List.mem_append.mp he with he | he
      · exact hnamed e he
      · cases List.mem_singleton.mp he
        rintro req ctx o ⟨⟩
    have heq := exchange.announces hnamed'
    rw [bookings_append, announcements_append, hsilent] at heq
    simp only [bookings_reply, bookings_nil, announcements_reply, announcements_nil,
      List.append_nil, List.nil_append] at heq
    exact ⟨heq, hsilent⟩

theorem Fences.books_nothing {fences : List Event} (h : ∀ e ∈ fences, Fences e) :
    bookings fences = [] := by
  refine List.filterMap_eq_nil_iff.mpr ?_
  intro e he
  cases h e he
  rfl

variable {At : List Event → StateSnapshot → Prop}

theorem Talk.announces (h : Talk At ctx evts) (hnamed : ∀ e ∈ evts, e.Named) :
    bookings evts = announcements evts := by
  induction h with
  | boot => rfl
  | @exchange evts x f talk exchange ih =>
    rw [List.forall_mem_append, List.forall_mem_cons] at hnamed
    rw [bookings_append, announcements_append, ih hnamed.1, bookings_request,
      announcements_request, exchange.announces hnamed.2.2]

theorem announcing_eq_nil (h : p.idle = true ∨ p.ending = true) : announcing p = [] := by
  cases p <;> first | rfl | simp [Phase.idle, Phase.ending] at h

/-- What a connection has booked has been announced on it, except for the identity in the
next reply. -/
theorem Stands.announces (h : Stands At ctx p evts) (hnamed : ∀ e ∈ evts, e.Named) :
    bookings evts = announcements evts ++ announcing p := by
  cases h with
  | greeting | unheard | turnedAway type => rfl
  | between idle talk =>
    rw [announcing_eq_nil (.inl idle), List.append_nil]
    exact talk.announces hnamed
  | within talk underway =>
    rw [List.forall_mem_append, List.forall_mem_cons] at hnamed
    obtain ⟨hbooked, hsilent⟩ := underway.announces hnamed.2.2
    rw [bookings_append, announcements_append, bookings_request, announcements_request, hbooked,
      hsilent, List.append_nil, talk.announces hnamed.1]
  | ended ending talk fencing =>
    rw [List.forall_mem_append] at hnamed
    rw [bookings_append, announcements_append, Fences.books_nothing fencing,
      announcing_eq_nil (.inr ending), List.append_nil, List.append_nil, announcements_eq _,
      announcements_eq _, (Fences.silent fencing).2, List.filterMap_nil, List.append_nil,
      ← announcements_eq, talk.announces hnamed.1]

end talk

section run
variable {s s₀ : Coordinator} {tr : List (Act × Report)} {c : ConnId} {w : WorkerState}
  {o : Option ConnId}

/-- The reservation that a step has made, with the connection it was made for. -/
def owner (e : Act × Report) : Option (Option ConnId × ReservationId) :=
  (e.2.call.bind Fabric.reservedId).map fun id => (e.1.conn, id)

theorem map_owner (tr : List (Act × Report)) :
    (tr.filterMap owner).map Prod.snd = (calls tr).filterMap Fabric.reservedId := by
  unfold calls
  rw [List.map_filterMap, List.filterMap_filterMap]
  congr 1
  funext e
  simp [owner, Option.map_map, Function.comp_def]

/-- The engine is called by the step of a thread. -/
theorem Effect.advances {s s' : Coordinator} {a : Act} {r : Report} (h : s.Effect a r s')
    (hcall : r.call ≠ none) : ∃ c b, a = .advance c b := by
  cases h with
  | published | noted | served | moved | missed | found | fenced | unlocked | left | entered
  | looped => exact ⟨_, _, rfl⟩
  | accepted | signalled | booted | refused | received | lost => exact absurd rfl hcall

theorem eventOf_call {e : Act × Report} {op : Op} {out : Outcome}
    (h : eventOf c e = some (.call op out)) : e.2 = .performed op out := by
  unfold eventOf at h
  split at h
  · split at h <;> cases h
  · split at h
    · cases h
      rfl
    · cases h
  · split at h <;> cases h
  · cases h

theorem bookings_single {e : Act × Report} (h : e.2.call ≠ none → ∃ c b, e.1 = .advance c b) :
    bookings (conversation c [e]) = ((owner e).toList.filter (·.1 = some c)).map Prod.snd := by
  obtain ⟨a, r⟩ := e
  cases r with
  | performed op out =>
    obtain ⟨k, b, rfl⟩ := h (by simp [Report.call])
    have hconn : (Act.advance k b).conn = some k := rfl
    rw [conversation_single]
    by_cases hk : k = c
    · subst hk
      simp only [eventOf, if_true, owner, Report.call, Option.toList_some, bookings_call]
      cases hid : Fabric.reservedId (op, out) <;> simp [hconn, hid]
    · simp only [eventOf, if_neg hk, owner, Report.call]
      cases hid : Fabric.reservedId (op, out) <;> simp [hconn, hid, hk]
  | silent | sent =>
    rw [conversation_single]
    cases hevent : eventOf c (a, _) with
    | none => rfl
    | some event => cases event with
      | call op out => cases eventOf_call hevent
      | request f | reply resp => rfl

/-- The bookings of a connection are the ones that have it as their owner. -/
theorem bookings_conversation (h : ∀ e ∈ tr, e.2.call ≠ none → ∃ c b, e.1 = .advance c b) :
    bookings (conversation c tr) = ((tr.filterMap owner).filter (·.1 = some c)).map Prod.snd := by
  induction tr with
  | nil => rfl
  | cons e tr ih =>
    rw [List.forall_mem_cons] at h
    have hcons : (e :: tr).filterMap owner = (owner e).toList ++ tr.filterMap owner := by
      cases howner : owner e <;> simp [howner]
    rw [hcons, List.filter_append, List.map_append, ← ih h.2, ← bookings_single h.1,
      ← bookings_append, ← conversation_append]
    rfl

/-- The identity in a reserve of the conversation is one that the engine has given. -/
theorem named_of_run (hrun : Run exec s₀ tr s) :
    ∀ e ∈ conversation c tr, e.Named := by
  rintro e he req ctx o rfl
  obtain ⟨⟨a, r⟩, hmem, hevent⟩ := List.mem_filterMap.mp he
  have hreport : r = .performed (.reserve req ctx) (.reservation o) := eventOf_call hevent
  subst hreport
  obtain ⟨t, t', hexec⟩ := hrun.exec_of_mem hmem
  rcases (exec_effect hexec).fabric with ⟨op, out, heq, hcall⟩ | ⟨hnone, -⟩
  · cases heq
    exact Fabric.reserve_named hcall
  · cases hnone

theorem calls_not_import (hrun : Run exec s₀ tr s) :
    ∀ e ∈ calls tr, ∀ st, e.1 ≠ .importPersisted st := by
  rintro ⟨op, out⟩ he st
  obtain ⟨a, hmem⟩ := mem_calls.mp he
  obtain ⟨t, t', hexec⟩ := hrun.exec_of_mem hmem
  exact (exec_effect hexec).not_import st

theorem start_reservations (epoch : CoordinatorEpoch) (recovered : Option PersistedState)
    (persist : Bool) (id : ReservationId) :
    (start epoch recovered persist).fabric.state.reservations[id]? = none := by
  cases recovered <;> exact Std.ExtTreeMap.getElem?_empty

/-- The reserve behind an entry of the list of owners. -/
theorem of_owner {id : ReservationId} (hrun : Run exec s₀ tr s)
    (h : (o, id) ∈ tr.filterMap owner) : ∃ c b req ctx out, o = some c ∧
      (Act.advance c b, Report.performed (.reserve req ctx) (.reservation out)) ∈ tr ∧
      out.ok = true ∧ out.reservation.id = id := by
  obtain ⟨⟨a, r⟩, hmem, howner⟩ := List.mem_filterMap.mp h
  obtain ⟨id', hbind, heq⟩ := Option.map_eq_some_iff.mp howner
  cases heq
  obtain ⟨⟨op, out⟩, hcall, hid⟩ := Option.bind_eq_some_iff.mp hbind
  obtain ⟨t, t', hexec⟩ := hrun.exec_of_mem hmem
  obtain ⟨c, b, rfl⟩ := (exec_effect hexec).advances (by rw [hcall]; simp)
  have hreport : r = .performed op out := by
    cases r <;> simp_all [Report.call]
  subst hreport
  unfold Fabric.reservedId at hid
  split at hid
  · next heq =>
    cases heq
    split at hid
    · next hok =>
      cases hid
      exact ⟨c, b, _, _, _, rfl, hmem, hok, rfl⟩
    · cases hid
  · cases hid

theorem mem_owned {id : ReservationId} :
    id ∈ ((tr.filterMap owner).filter (·.1 = some c)).map Prod.snd ↔
      (some c, id) ∈ tr.filterMap owner := by
  constructor
  · intro h
    obtain ⟨⟨o, id'⟩, hmem, heq⟩ := List.mem_map.mp h
    obtain ⟨hmem, ho⟩ := List.mem_filter.mp hmem
    cases heq
    cases of_decide_eq_true ho
    exact hmem
  · intro h
    exact List.mem_map.mpr ⟨_, List.mem_filter.mpr ⟨h, decide_eq_true rfl⟩, rfl⟩

/-- Every reservation in the ledger has been announced on one connection, once, or the next
reply of that connection announces it; nothing else is announced, and the record is of the
boot id of the connection. -/
theorem announced_exactly_once {epoch : CoordinatorEpoch} {recovered : Option PersistedState}
    {persist : Bool} (hrun : Run exec (start epoch recovered persist) tr s) :
    (∀ (id : ReservationId), (∃ res, s.fabric.state.reservations[id]? = some res) ↔
      ∃ c w, s.connections[c]? = some w ∧
        id ∈ announcements (conversation c tr) ++ announcing w.phase) ∧
    (∀ (c : ConnId) (w : WorkerState), s.connections[c]? = some w →
      (announcements (conversation c tr) ++ announcing w.phase).Nodup ∧
      ∀ id ∈ announcements (conversation c tr) ++ announcing w.phase,
        (∃ res, s.fabric.state.reservations[id]? = some res ∧ res.workerBootId = w.boot) ∧
        ∀ (c' : ConnId) (w' : WorkerState), s.connections[c']? = some w' →
          id ∈ announcements (conversation c' tr) ++ announcing w'.phase → c' = c) := by
  have hnum := numbered_start epoch recovered persist
  have himport := calls_not_import hrun
  have hconsistent := consistent_of_run hrun
  have hadvances : ∀ e ∈ tr, e.2.call ≠ none → ∃ c b, e.1 = .advance c b := by
    intro e he hcall
    obtain ⟨t, t', hexec⟩ := hrun.exec_of_mem he
    exact (exec_effect hexec).advances hcall
  have howned {c : ConnId} {w : WorkerState} (hw : s.connections[c]? = some w) :
      announcements (conversation c tr) ++ announcing w.phase =
        ((tr.filterMap owner).filter (·.1 = some c)).map Prod.snd := by
    rw [← bookings_conversation hadvances]
    exact ((hconsistent.known c w hw).announces (named_of_run hrun)).symm
  obtain ⟨hnodup, hids⟩ := Fabric.booked_of_run (run_fabric hrun) hnum
    (start_reservations epoch recovered persist) himport
  rw [← map_owner] at hnodup hids
  refine ⟨?_, ?_⟩
  · intro id
    rw [← hids]
    constructor
    · intro h
      obtain ⟨⟨o, id'⟩, hmem, heq⟩ := List.mem_map.mp h
      cases heq
      obtain ⟨c, b, req, ctx, out, rfl, hcall, hok, hid⟩ := of_owner hrun hmem
      obtain ⟨w, hw, -⟩ := run_authority hrun hcall (.reserve _)
      refine ⟨c, w, hw, ?_⟩
      rw [howned hw]
      exact mem_owned.mpr hmem
    · rintro ⟨c, w, hw, h⟩
      rw [howned hw] at h
      exact List.mem_map_of_mem (mem_owned.mp h)
  · intro c w hw
    rw [howned hw]
    refine ⟨hnodup.sublist (List.filter_sublist.map _), ?_⟩
    intro id hid
    have hmem := mem_owned.mp hid
    refine ⟨?_, ?_⟩
    · obtain ⟨k, b, req, ctx, out, hk, hcall, hok, hid⟩ := of_owner hrun hmem
      cases hk
      obtain ⟨w', hw', hboot, -⟩ := run_authority hrun hcall (.reserve _)
      cases hw.symm.trans hw'
      obtain ⟨res, hres, hworker⟩ := Fabric.reserved_record (run_fabric hrun) hnum himport
        (mem_calls.mpr ⟨_, hcall⟩) hok
      rw [hid] at hres
      exact ⟨res, hres, hworker.trans hboot.symm⟩
    · intro c' w' hw' hid'
      rw [howned hw'] at hid'
      have hsame := List.inj_on_of_nodup_map hnodup (mem_owned.mp hid') hmem rfl
      exact Option.some.inj (congrArg Prod.fst hsame)

/-- The worker of the run has read the identity of its reservation. -/
theorem announced_exactly_once_committingRun :
    ∃ tr s w, Run exec (start ⟨1⟩ none false) tr s ∧ s.connections[0]? = some w ∧
      Fabric.reservationId 1 ∈ announcements (conversation 0 tr) ∧
      (announcements (conversation 0 tr) ++ announcing w.phase).Nodup ∧
      ∃ res, s.fabric.state.reservations[Fabric.reservationId 1]? = some res ∧
        res.workerBootId = w.boot := by
  have hannounced : (committingRun (str "w-1")).any (fun q =>
      q.2.connections[0]?.isSome && decide (Fabric.reservationId 1 ∈
        announcements (conversation 0 q.1))) = true := by decide +kernel
  obtain ⟨⟨tr, s⟩, hsteps, hchecks⟩ := (Option.any_eq_true _ _).mp hannounced
  obtain ⟨hsome, hmem⟩ := Bool.and_eq_true_iff.mp hchecks
  obtain ⟨w, hw⟩ := Option.isSome_iff_exists.mp hsome
  have hmem := of_decide_eq_true hmem
  have hrun := Run.of_execAll hsteps
  obtain ⟨hnodup, hrecords⟩ := (announced_exactly_once hrun).2 0 w hw
  exact ⟨tr, s, w, hrun, hw, hmem, hnodup, (hrecords _ (List.mem_append_left _ hmem)).1⟩

end run

end Coordinator

end CxlFabric
