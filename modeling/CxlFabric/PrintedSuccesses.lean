import CxlFabric.Announcements
import CxlFabric.WorkerResults

/-! # What has been printed stands

A reservation is made once, committed at most once and released at most once, and none of it
is undone. So a worker that was told of a success stays right about it, and no other worker
is told of the same one. -/
namespace CxlFabric

/-- What a client can have done to a reservation. -/
inductive Deed
  | reserve | commit | release
  deriving DecidableEq

namespace Deed

/-- The identity that an operation has done it to. -/
def idOf : Deed → Op × Outcome → Option ReservationId
  | reserve => Fabric.reservedId
  | commit => Fabric.committedId
  | release => Fabric.releasedId

/-- The states of a record to which it has been done. -/
def Done : Deed → ResumeState → Prop
  | reserve, _ => True
  | commit, a => a ≠ .reserved
  | release, a => a = .released

theorem Done.moves {k : Deed} {a b : ResumeState} (h : k.Done a) (hmove : a.Moves b) :
    k.Done b := by
  cases k with
  | reserve => exact trivial
  | commit => cases hmove <;> nofun
  | release =>
    cases h
    cases hmove

end Deed

namespace Fabric
variable {f f' : Fabric} {op : Op} {out : Outcome} {k : Deed} {id : ReservationId}

/-- The ledger has the reservation, and it has been done to it. -/
def Bears (f : Fabric) (k : Deed) (id : ReservationId) : Prop :=
  ∃ r, f.state.reservations[id]? = some r ∧ k.Done r.state

theorem Effect.bears (h : f.Effect op out f') (himport : ∀ st, op ≠ .importPersisted st)
    (hbears : f.Bears k id) : f'.Bears k id := by
  obtain ⟨r, hr, hdone⟩ := hbears
  obtain ⟨r', hr'⟩ := h.remains himport hr
  refine ⟨r', hr', ?_⟩
  rcases (h.follows hr hr').state with hsame | hmove
  · rw [hsame]
    exact hdone
  · exact hdone.moves hmove

/-- An operation that does it finds it not done. -/
theorem Effect.does (h : f.Effect op out f') (hnum : Numbered f)
    (hid : k.idOf (op, out) = some id) : ¬f.Bears k id ∧ f'.Bears k id := by
  cases k with
  | reserve =>
    obtain ⟨hnone, r, hr⟩ := h.booked hnum hid
    refine ⟨?_, r, hr, trivial⟩
    rintro ⟨r', hr', -⟩
    cases hnone.symm.trans hr'
  | commit =>
    obtain ⟨r, hr, hstate, hr'⟩ := h.committedId hid
    refine ⟨?_, _, hr', nofun⟩
    rintro ⟨r', hold, hdone⟩
    cases hr.symm.trans hold
    exact hdone hstate
  | release =>
    obtain ⟨r, hr, hlive, hr'⟩ := h.releasedId hid
    refine ⟨?_, _, hr', rfl⟩
    rintro ⟨r', hold, hdone⟩
    cases hr.symm.trans hold
    rw [show r.state = .released from hdone] at hlive
    rcases hlive with hlive | hlive <;> cases hlive

/-- The answer shows the identity that was asked for. -/
theorem Effect.shows {o : ReserveOutcome} (h : f.Effect op (.reservation o) f')
    (hnum : Numbered f) (hid : k.idOf (op, .reservation o) = some id) : o.reservation.id = id := by
  cases h with
  | refused fallible failed =>
    have hnone := ids_of_failure op failed
    cases k with
    | reserve => cases hnone.1.symm.trans hid
    | commit => cases hnone.2.1.symm.trans hid
    | release => cases hnone.2.2.symm.trans hid
  | reserve epoch admission =>
    cases k <;> cases hid
    rfl
  | commit guarded =>
    cases k <;> cases hid
    exact (hnum.ids _ _ guarded.stored).1
  | release guarded covered =>
    cases k <;> cases hid
    exact (hnum.ids _ _ guarded.stored).1
  | conflict guarded uncovered => cases k <;> cases hid

end Fabric

namespace Coordinator
variable {s s' : Coordinator} {tr : List (Act × Report)} {a : Act} {r : Report} {c : ConnId}
  {op : Op} {out : Outcome} {k : Deed} {id : ReservationId}

theorem exec_numbered (hnum : Fabric.Numbered s.fabric) (h : s.exec a = some (s', r)) :
    Fabric.Numbered s'.fabric := by
  rcases (exec_effect h).fabric with ⟨op, out, rfl, hcall⟩ | ⟨-, hsame⟩
  · exact hnum.step (Fabric.exec_effect hcall) (exec_effect h).not_import
  · rwa [hsame]

theorem exec_bears (hbears : s.fabric.Bears k id) (h : s.exec a = some (s', r)) :
    s'.fabric.Bears k id := by
  rcases (exec_effect h).fabric with ⟨op, out, rfl, hcall⟩ | ⟨-, hsame⟩
  · exact (Fabric.exec_effect hcall).bears (exec_effect h).not_import hbears
  · rwa [hsame]

theorem exec_performed (h : s.exec a = some (s', .performed op out)) :
    s.fabric.Effect op out s'.fabric := by
  rcases (exec_effect h).fabric with ⟨op, out, heq, hcall⟩ | ⟨hnone, -⟩
  · cases heq
    exact Fabric.exec_effect hcall
  · cases hnone

/-- A call in the conversation of a connection is a step of its thread. -/
theorem performed_of_conversation (h : .call op out ∈ conversation c tr) :
    ∃ b, (Act.advance c b, Report.performed op out) ∈ tr := by
  obtain ⟨e, hmem, hevent⟩ := List.mem_filterMap.mp h
  unfold eventOf at hevent
  split at hevent
  · split at hevent <;> cases hevent
  · split at hevent
    · next k b op' out' hk =>
      subst hk
      cases hevent
      exact ⟨b, hmem⟩
    · cases hevent
  · split at hevent <;> cases hevent
  · cases hevent

variable {epoch : CoordinatorEpoch} {recovered : Option PersistedState} {persist : Bool}

/-- What has been done to a reservation is never undone. -/
theorem bears_of_performed (hrun : Run exec (start epoch recovered persist) tr s)
    (hmem : (a, Report.performed op out) ∈ tr) (hid : k.idOf (op, out) = some id) :
    s.fabric.Bears k id :=
  hrun.mark_holds (I := fun s => Fabric.Numbered s.fabric) (Q := fun s => s.fabric.Bears k id)
    (fun _ _ _ _ hnum h => exec_numbered hnum h) (fun _ _ _ _ hbears h => exec_bears hbears h)
    (numbered_start epoch recovered persist) hmem
    fun _ _ hnum hexec => ((exec_performed hexec).does hnum hid).2

/-- Nothing is done to a reservation twice. -/
theorem performed_once {a' : Act} {op' : Op} {out' : Outcome}
    (hrun : Run exec (start epoch recovered persist) tr s)
    (hmem : (a, Report.performed op out) ∈ tr) (hid : k.idOf (op, out) = some id)
    (hmem' : (a', Report.performed op' out') ∈ tr) (hid' : k.idOf (op', out') = some id) :
    a = a' := by
  have hsame := hrun.mark_unique (I := fun s => Fabric.Numbered s.fabric)
    (Q := fun s => s.fabric.Bears k id) (fun _ _ _ _ hnum h => exec_numbered hnum h)
    (fun _ _ _ _ hbears h => exec_bears hbears h) (numbered_start epoch recovered persist)
    hmem hmem' (fun _ _ hnum hexec => (exec_performed hexec).does hnum hid)
    fun _ _ hnum hexec => (exec_performed hexec).does hnum hid'
  exact congrArg Prod.fst hsame

theorem shows_of_performed {o : ReserveOutcome}
    (hrun : Run exec (start epoch recovered persist) tr s)
    (hmem : (a, Report.performed op (.reservation o)) ∈ tr)
    (hid : k.idOf (op, .reservation o) = some id) : o.reservation.id = id := by
  obtain ⟨tr₁, tr₂, t, t', -, hbefore, hexec, -⟩ := hrun.split_mem hmem
  exact (exec_performed hexec).shows (hbefore.keeps (I := fun s => Fabric.Numbered s.fabric)
    (fun _ _ _ _ hnum h => exec_numbered hnum h) (numbered_start epoch recovered persist)) hid

/-- The record of a reserve keeps what the request was made with. -/
theorem record_of_performed {o : ReserveOutcome} {req : AdmissionRequest} {ctx : AuthorityContext}
    (hrun : Run exec (start epoch recovered persist) tr s)
    (hmem : (a, Report.performed (.reserve req ctx) (.reservation o)) ∈ tr) (hok : o.ok = true) :
    ∃ res, s.fabric.state.reservations[o.reservation.id]? = some res ∧ res.bytes = req.bytes ∧
      res.consumer = req.consumer ∧ res.workerBootId = ctx.workerBootId := by
  refine hrun.mark_holds (I := fun s => Fabric.Numbered s.fabric)
    (Q := fun s => ∃ res, s.fabric.state.reservations[o.reservation.id]? = some res ∧
      res.bytes = req.bytes ∧ res.consumer = req.consumer ∧
      res.workerBootId = ctx.workerBootId)
    (fun _ _ _ _ hnum h => exec_numbered hnum h) ?_ (numbered_start epoch recovered persist)
    hmem ?_
  · rintro t a r t' ⟨res, hres, hbytes, hconsumer, hboot⟩ hexec
    rcases (exec_effect hexec).fabric with ⟨op, out, rfl, hcall⟩ | ⟨-, hsame⟩
    · have heffect := Fabric.exec_effect hcall
      obtain ⟨res', hres'⟩ := heffect.remains (exec_effect hexec).not_import hres
      have hrest : res' = _ := (heffect.follows hres hres').rest
      refine ⟨res', hres', ?_⟩
      rw [hrest]
      exact ⟨hbytes, hconsumer, hboot⟩
    · rw [hsame]
      exact ⟨res, hres, hbytes, hconsumer, hboot⟩
  · intro t t' hnum hexec
    have heffect := exec_performed hexec
    generalize t'.fabric = g at heffect
    cases heffect with
    | refused fallible failed => simp [hok] at failed
    | @reserve _ _ c pool region dev epoch admission =>
      refine ⟨t.fabric.newReservation req ctx c dev, ?_, rfl, rfl, rfl⟩
      rw [Fabric.book_reservations hnum admission.room, getElem?_insert_eq]
      exact if_pos rfl

end Coordinator

namespace Worker

/-- The success that a line tells of. -/
def Line.success : Line → Option (Deed × ReservationId)
  | .reserved id _ ok => if ok = 1 then some (.reserve, ⟨id⟩) else none
  | .commitResult id _ ok => if ok = 1 then some (.commit, ⟨id⟩) else none
  | .releaseResult id _ ok => if ok = 1 then some (.release, ⟨id⟩) else none
  | .state _ => none

end Worker

namespace Deployment

open Coordinator Worker

variable {d : Deployment} {tr : List (Move × Option (Act × Report))} {c : ConnId} {l : Link}
  {ln : Line} {k : Deed} {id : ReservationId} {evts : List Event} {o : Options}
  {Seen : StateSnapshot → Prop}

/-- Behind a printed success is a call that succeeded. -/
theorem Tells.success (h : Tells Seen evts o ln) (hs : ln.success = some (k, id)) :
    ∃ op out id', .call op (.reservation out) ∈ evts ∧
      k.idOf (op, .reservation out) = some id' ∧ out.reservation.id = id := by
  have hok {out : ReserveOutcome} {k' : Deed} {id' : Str}
      (h : (if (if out.ok then (1 : UInt8) else 0) = 1 then some (k', (⟨id'⟩ : ReservationId))
        else none) = some (k, id)) : out.ok = true ∧ k' = k ∧ ⟨id'⟩ = id := by
    cases hout : out.ok with
    | false =>
      rw [hout] at h
      cases h
    | true =>
      rw [hout] at h
      cases h
      exact ⟨rfl, rfl, rfl⟩
  cases h with
  | @reserved ctx out boot call =>
    obtain ⟨hout, rfl, rfl⟩ := hok hs
    exact ⟨_, out, _, call, if_pos hout, rfl⟩
  | @commitResult ctx out boot call =>
    obtain ⟨hout, rfl, rfl⟩ := hok hs
    exact ⟨_, out, _, call, if_pos hout, rfl⟩
  | @releaseResult ctx out boot call =>
    obtain ⟨hout, rfl, rfl⟩ := hok hs
    exact ⟨_, out, _, call, if_pos hout, rfl⟩
  | state seen => cases hs

/-- The step of the coordinator behind a printed success. -/
theorem performed_of_printed {epoch : CoordinatorEpoch} {recovered : Option PersistedState}
    {persist : Bool} (hrun : Run exec (start epoch recovered persist) tr d)
    (hl : d.links[c]? = some l) (hln : ln ∈ l.process.printed) (hs : ln.success = some (k, id)) :
    ∃ b op out, (Act.advance c b, Report.performed op out) ∈ acts tr ∧
      k.idOf (op, out) = some id := by
  obtain ⟨op, out, id', hcall, hid, hshown⟩ := (tells_of_run hrun hl hln).success hs
  obtain ⟨b, hmem⟩ := performed_of_conversation hcall
  obtain rfl : id' = id :=
    (shows_of_performed (run_coordinator hrun) hmem hid).symm.trans hshown
  exact ⟨b, op, _, hmem, hid⟩

/-- A worker that has printed a success stays right about it: the ledger has the reservation
and the deed is done, to a record with what the worker has asked for if it is a reserve. No
two workers print the same success. -/
theorem printed_successes_stand {epoch : CoordinatorEpoch} {recovered : Option PersistedState}
    {persist : Bool} (hrun : Run exec (start epoch recovered persist) tr d) :
    (∀ (c : ConnId) (l : Link), d.links[c]? = some l → ∀ ln ∈ l.process.printed, ∀ k id,
      ln.success = some (k, id) → d.coordinator.fabric.Bears k id) ∧
    (∀ (c : ConnId) (l : Link), d.links[c]? = some l → ∀ ln ∈ l.process.printed, ∀ id,
      ln.success = some (.reserve, id) →
      ∃ res, d.coordinator.fabric.state.reservations[id]? = some res ∧
        res.bytes = l.process.options.reserveBytes ∧
        res.consumer = ⟨l.process.options.consumer⟩ ∧
        res.workerBootId = ⟨l.process.options.boot⟩) ∧
    ∀ (c c' : ConnId) (l l' : Link), d.links[c]? = some l → d.links[c']? = some l' →
      ∀ ln ∈ l.process.printed, ∀ ln' ∈ l'.process.printed, ln.success ≠ none →
        ln.success = ln'.success → c = c' := by
  have hcoordinator := run_coordinator hrun
  refine ⟨?_, ?_, ?_⟩
  · intro c l hl ln hln k id hs
    obtain ⟨b, op, out, hmem, hid⟩ := performed_of_printed hrun hl hln hs
    exact bears_of_performed hcoordinator hmem hid
  · intro c l hl ln hln id hs
    have htells := tells_of_run hrun hl hln
    cases htells with
    | @reserved ctx out boot call =>
      obtain ⟨b, hmem⟩ := performed_of_conversation call
      have hok : out.ok = true := by
        by_contra hfalse
        rw [Bool.not_eq_true] at hfalse
        rw [hfalse] at hs
        cases hs
      rw [hok] at hs
      cases hs
      have hrecord := record_of_performed hcoordinator hmem hok
      rwa [boot] at hrecord
    | @commitResult ctx out boot call =>
      unfold Line.success at hs
      dsimp only at hs
      split at hs <;> cases hs
    | @releaseResult ctx out boot call =>
      unfold Line.success at hs
      dsimp only at hs
      split at hs <;> cases hs
    | state seen => cases hs
  · intro c c' l l' hl hl' ln hln ln' hln' hsome hsame
    obtain ⟨⟨k, id⟩, hs⟩ := Option.ne_none_iff_exists'.mp hsome
    obtain ⟨b, op, out, hmem, hid⟩ := performed_of_printed hrun hl hln hs
    obtain ⟨b', op', out', hmem', hid'⟩ :=
      performed_of_printed hrun hl' hln' (hsame.symm.trans hs)
    have hact := performed_once hcoordinator hmem hid hmem' hid'
    cases hact
    rfl

/-- The worker of the run has printed that it has its reservation. -/
theorem printed_successes_stand_reservingRun :
    ∃ tr d, Run exec (start ⟨1⟩ none false) tr d ∧
      d.coordinator.fabric.Bears .reserve (Fabric.reservationId 1) ∧
      ∃ res, d.coordinator.fabric.state.reservations[Fabric.reservationId 1]? = some res ∧
        res.bytes = 4096 := by
  have hprinted : (reservingRun { reserveBytes := 4096 }).any (fun q => q.2.links[0]?.any fun l =>
      decide (l.process.options.reserveBytes = 4096) &&
        decide (.reserved (str "res-1") 0 1 ∈ l.process.printed)) = true := by decide +kernel
  obtain ⟨⟨tr, d⟩, hsteps, hd⟩ := (Option.any_eq_true _ _).mp hprinted
  obtain ⟨l, hl, hchecks⟩ := (Option.any_eq_true _ _).mp hd
  obtain ⟨hbytes, hln⟩ := Bool.and_eq_true_iff.mp hchecks
  have hbytes := of_decide_eq_true hbytes
  have hln := of_decide_eq_true hln
  have hsuccess : Line.success (.reserved (str "res-1") 0 1) =
      some (.reserve, Fabric.reservationId 1) := by decide +kernel
  have hrun := Run.of_execAll hsteps
  obtain ⟨hbears, hrecords, -⟩ := printed_successes_stand hrun
  obtain ⟨res, hres, hsame, -⟩ := hrecords 0 l hl _ hln _ hsuccess
  exact ⟨tr, d, hrun, hbears 0 l hl _ hln _ _ hsuccess, res, hres, hsame.trans hbytes⟩

end Deployment

end CxlFabric
