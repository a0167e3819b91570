import CxlFabric.CoordinatorSteps
import CxlFabric.Fencing
import CxlFabric.Reservations
import CxlFabric.Worker

/-! # The authority of a connection

A connection keeps the boot id of its first frame, and every call of the engine on its
behalf carries it. A reservation keeps the boot id of the connection that made it. -/
namespace CxlFabric
namespace Fabric
variable {f f' : Fabric} {op : Op} {out : Outcome}

/-- What a reserve has booked is still there at the end of the run, under the boot id of
its context. -/
theorem reserved_record {tr : List (Op × Outcome)} (hrun : Run exec f tr f') (hnum : Numbered f)
    (himport : ∀ e ∈ tr, ∀ st, e.1 ≠ .importPersisted st) {req : AdmissionRequest}
    {ctx : AuthorityContext} {o : ReserveOutcome}
    (hmem : (Op.reserve req ctx, Outcome.reservation o) ∈ tr) (hok : o.ok = true) :
    ∃ res, f'.state.reservations[o.reservation.id]? = some res ∧
      res.workerBootId = ctx.workerBootId := by
  induction hrun with
  | nil s => cases hmem
  | @cons s t u a b tr head tail ih =>
    have heffect := exec_effect head
    have hkeep : ∀ e ∈ tr, ∀ st, e.1 ≠ .importPersisted st :=
      fun e he => himport e (List.mem_cons_of_mem _ he)
    rcases List.mem_cons.mp hmem with hhead | hmem
    · cases hhead
      refine tail.invariant (I := fun g => ∃ res, g.state.reservations[o.reservation.id]? =
          some res ∧ res.workerBootId = ctx.workerBootId)
        (A := fun e => ∀ st, e.1 ≠ .importPersisted st) ?_ hkeep ?_
      · rintro g op out g' himport ⟨res, hres, hboot⟩ hexec
        obtain ⟨res', hres', hsame⟩ := (exec_effect hexec).authority_kept hres himport
        exact ⟨res', hres', hsame.workerBootId.trans hboot⟩
      · cases heffect with
        | refused fallible failed => simp [hok] at failed
        | @reserve _ _ c pool region dev epoch admission =>
          refine ⟨s.newReservation req ctx c dev, ?_, rfl⟩
          rw [book_reservations hnum admission.room, getElem?_insert_eq]
          exact if_pos rfl
    · exact ih (hnum.step heffect (himport _ List.mem_cons_self)) hkeep hmem

end Fabric

namespace Coordinator
variable {s s' : Coordinator} {a : Act} {r : Report} {c : ConnId} {w : WorkerState}

/-- A call on behalf of a connection carries the boot id of the connection. -/
theorem Effect.authority {b : ℕ → UInt8} {op : Op} {out : Outcome} {ctx : AuthorityContext}
    (h : s.Effect (.advance c b) (.performed op out) s') (hop : Serves ctx op) :
    ∃ w, s.connections[c]? = some w ∧ w.boot = ctx.workerBootId ∧ w.phase ≠ .greeting := by
  cases h with
  | published here phase exec => cases hop
  | fenced here phase exec => cases hop
  | moved here phase boot devices next report => cases report
  | @served _ w _ _ _ _ _ here phase serves exec next =>
    refine ⟨w, here, ?_, Phase.ne_greeting phase⟩
    have hctx : ctx = s.context w := by cases hop <;> cases serves <;> rfl
    rw [hctx]
    rfl

/-- The engine is never given a state to import after the start. -/
theorem Effect.not_import {op : Op} {out : Outcome} (h : s.Effect a (.performed op out) s')
    (st : PersistedState) : op ≠ .importPersisted st := by
  rintro rfl
  cases h with
  | served here phase serves exec next => cases serves
  | moved here phase boot devices next report => cases report

theorem mem_calls {tr : List (Act × Report)} {op : Op} {out : Outcome} :
    (op, out) ∈ calls tr ↔ ∃ a, (a, Report.performed op out) ∈ tr := by
  constructor
  · intro h
    obtain ⟨⟨a, r⟩, hmem, hcall⟩ := List.mem_filterMap.mp h
    cases r with
    | performed op' out' =>
      cases hcall
      exact ⟨a, hmem⟩
    | silent | sent => cases hcall
  · rintro ⟨a, hmem⟩
    exact List.mem_filterMap.mpr ⟨_, hmem, rfl⟩

/-- The boot id under which a call was made is the one its connection still has. -/
theorem run_authority {tr : List (Act × Report)} (hrun : Run exec s tr s') {b : ℕ → UInt8}
    {op : Op} {out : Outcome} {ctx : AuthorityContext}
    (hmem : (Act.advance c b, Report.performed op out) ∈ tr) (hop : Serves ctx op) :
    ∃ w, s'.connections[c]? = some w ∧ w.boot = ctx.workerBootId ∧ w.phase ≠ .greeting := by
  induction hrun with
  | nil s => cases hmem
  | @cons s t u a r tr head tail ih =>
    rcases List.mem_cons.mp hmem with hhead | hmem
    · cases hhead
      have heffect := exec_effect head
      obtain ⟨w, hw, hboot, hphase⟩ := heffect.authority hop
      obtain ⟨w', hw', hgoes⟩ := heffect.continues hw hphase
      refine tail.keeps (I := fun g => ∃ w, g.connections[c]? = some w ∧
        w.boot = ctx.workerBootId ∧ w.phase ≠ .greeting) ?_
        ⟨w', hw', hgoes.boot.trans hboot, hgoes.booted⟩
      rintro g a r g' ⟨v, hv, hbootv, hphasev⟩ hexec
      obtain ⟨v', hv', hgoesv⟩ := (exec_effect hexec).continues hv hphasev
      exact ⟨v', hv', hgoesv.boot.trans hbootv, hgoesv.booted⟩
    · exact ih hmem

theorem numbered_start (epoch : CoordinatorEpoch) (recovered : Option PersistedState)
    (persist : Bool) : (start epoch recovered persist).fabric.Numbered := by
  cases recovered with
  | none => exact Fabric.numbered_new epoch ⟨1⟩
  | some st =>
    refine ⟨?_, rfl⟩
    intro id r hr
    have hnone : (start epoch (some st) persist).fabric.state.reservations[id]? = none :=
      Std.ExtTreeMap.getElem?_empty
    rw [hnone] at hr
    cases hr

theorem eq_of_empty {t : IdTag} {i j : Id t} (hi : i.empty = true) (hj : j.empty = true) : i = j := by
  obtain ⟨v⟩ := i
  obtain ⟨v'⟩ := j
  have hv : v = [] := List.isEmpty_iff.mp hi
  have hv' : v' = [] := List.isEmpty_iff.mp hj
  rw [hv, hv']

/-- A commit that succeeds comes from a worker with the boot id of the reserving one if
and only if it has booted with a non-empty id, or both have booted with the empty one. -/
theorem commit_authority_iff {epoch : CoordinatorEpoch} {recovered : Option PersistedState}
    {persist : Bool} {tr : List (Act × Report)}
    (hrun : Run exec (start epoch recovered persist) tr s) {c' : ConnId} {b b' : ℕ → UInt8}
    {req : AdmissionRequest} {ctx ctx' : AuthorityContext} {o o' : ReserveOutcome}
    (hreserved : (Act.advance c' b', Report.performed (.reserve req ctx') (.reservation o')) ∈ tr)
    (hok' : o'.ok = true)
    (hcommit : s.exec (.advance c b) =
      some (s', .performed (.commit o'.reservation.id ctx) (.reservation o)))
    (hok : o.ok = true) :
    ∃ w w', s.connections[c]? = some w ∧ s.connections[c']? = some w' ∧
      (w.boot = w'.boot ↔ w.boot.empty = false ∨ w'.boot.empty = true) := by
  have heffect := exec_effect hcommit
  obtain ⟨w, hw, hboot, -⟩ := heffect.authority (.commit _)
  obtain ⟨w', hw', hboot', -⟩ := run_authority hrun hreserved (.reserve _)
  refine ⟨w, w', hw, hw', ?_⟩
  have himport : ∀ e ∈ calls tr, ∀ st, e.1 ≠ .importPersisted st := by
    rintro ⟨op, out⟩ he st
    obtain ⟨a, hmem⟩ := mem_calls.mp he
    obtain ⟨t, t', hexec⟩ := hrun.exec_of_mem hmem
    exact (exec_effect hexec).not_import st
  obtain ⟨res, hres, hresBoot⟩ := Fabric.reserved_record (run_fabric hrun)
    (numbered_start epoch recovered persist) himport (mem_calls.mpr ⟨_, hreserved⟩) hok'
  -- The guard of the commit that has just succeeded.
  have hworker : w.boot.empty = true ∨ w.boot = w'.boot := by
    rcases heffect.fabric with ⟨op, out, hreport, hexec⟩ | ⟨hnone, -⟩
    · cases hreport
      simp only [Fabric.exec, Option.some.injEq, Prod.mk.injEq, Outcome.reservation.injEq] at hexec
      rw [← hexec.2] at hok
      obtain ⟨res', pool, region, dev, hguard⟩ := Fabric.commit_ok hok
      cases hres.symm.trans hguard.stored
      rw [hboot, hboot', ← hresBoot]
      exact hguard.worker
    · cases hnone
  constructor
  · intro heq
    rw [← heq]
    cases w.boot.empty with
    | false => exact .inl rfl
    | true => exact .inr rfl
  · rintro (hnonempty | hempty)
    · rcases hworker with h | h
      · rw [hnonempty] at h
        cases h
      · exact h
    · rcases hworker with h | h
      · exact eq_of_empty h hempty
      · exact h

theorem exec_dispatch {f : Frame} (hw : s.connections[c]? = some w)
    (hphase : w.phase = .dispatching f) (b : ℕ → UInt8) :
    s.exec (.advance c b) = s.dispatch c w f b := by simp only [exec, advance, hw, hphase]

/-- The step that serves a commit. -/
theorem exec_commit {payload : Str} (hw : s.connections[c]? = some w)
    (hphase : w.phase = .dispatching { type := .commit, payload }) (b : ℕ → UInt8) :
    ∃ s', s.exec (.advance c b) = some (s', .performed (.commit ⟨payload⟩ (s.context w))
      (.reservation (s.fabric.commit ⟨payload⟩ (s.context w)).2)) := by
  rw [exec_dispatch hw hphase]
  exact ⟨_, rfl⟩

/-- The report of a reserve that booked the identity on a connection. -/
def reserves (c : ConnId) (id : ReservationId) : Act × Report → Bool
  | (.advance k _, .performed (.reserve _ _) (.reservation o)) =>
    k = c ∧ o.ok = true ∧ o.reservation.id = id
  | _ => false

theorem of_reserves {id : ReservationId} {e : Act × Report} (h : reserves c id e = true) :
    ∃ b req ctx o, e = (.advance c b, .performed (.reserve req ctx) (.reservation o)) ∧
      o.ok = true ∧ o.reservation.id = id := by
  unfold reserves at h
  split at h
  · next k b req ctx o =>
    simp only [decide_eq_true_eq] at h
    obtain ⟨rfl, hok, hid⟩ := h
    exact ⟨b, req, ctx, o, rfl, hok, hid⟩
  · cases h

/-- One worker reserves and another one is about to commit. -/
def committingRun (boot : Str) : Option (List (Act × Report) × Coordinator) :=
  execAll exec (start ⟨1⟩ none false) (Worker.publish 0 (str "w-1") ++
    Worker.serve 0 (Worker.reserveFrame 4096 (str "c0")) ++ Worker.connect 1 boot ++
    [.receive 1 (some (Worker.commitFrame (Fabric.reservationId 1)))])

/-- The second connection of the run is ready to commit, and will succeed. -/
def commits (q : List (Act × Report) × Coordinator) : Bool :=
  q.1.any (reserves 0 (Fabric.reservationId 1)) && match q.2.connections[1]? with
    | none => false
    | some w => w.phase = .dispatching (Worker.commitFrame (Fabric.reservationId 1)) ∧
      (q.2.fabric.commit (Fabric.reservationId 1) (q.2.context w)).2.ok = true

/-- What the two runs have in common: all that a commit of the second connection needs. -/
theorem committingRun_spec (boot : Str) (h : (committingRun boot).any commits = true) :
    ∃ tr s s' b b' req ctx' o' ctx o, Run exec (start ⟨1⟩ none false) tr s ∧
      (Act.advance 0 b', Report.performed (.reserve req ctx') (.reservation o')) ∈ tr ∧
      o'.ok = true ∧ s.exec (.advance 1 b) =
        some (s', .performed (.commit o'.reservation.id ctx) (.reservation o)) ∧
      o.ok = true ∧ committingRun boot = some (tr, s) := by
  obtain ⟨⟨tr, s⟩, hrun, hcommits⟩ := (Option.any_eq_true _ _).mp h
  simp only [commits, Bool.and_eq_true] at hcommits
  obtain ⟨hreserves, hready⟩ := hcommits
  obtain ⟨e, hmem, he⟩ := List.any_eq_true.mp hreserves
  obtain ⟨b', req, ctx', o', rfl, hok', hid⟩ := of_reserves he
  split at hready
  · cases hready
  · next w hw =>
    simp only [decide_eq_true_eq] at hready
    obtain ⟨hphase, hok⟩ := hready
    obtain ⟨s', hexec⟩ := exec_commit hw hphase fun _ => 0
    have hcommit : s.exec (.advance 1 fun _ => 0) =
        some (s', .performed (.commit o'.reservation.id (s.context w))
          (.reservation (s.fabric.commit (Fabric.reservationId 1) (s.context w)).2)) := by
      rw [hid]
      exact hexec
    exact ⟨tr, s, s', _, b', req, ctx', o', _, _, Run.of_execAll hrun, hmem, hok', hcommit, hok, hrun⟩

theorem commit_authority_iff_committingRun :
    ∃ (tr : List (Act × Report)) (s : Coordinator) (w w' : WorkerState),
      Run exec (start ⟨1⟩ none false) tr s ∧ s.connections[1]? = some w ∧
      s.connections[0]? = some w' ∧
      (w.boot = w'.boot ↔ w.boot.empty = false ∨ w'.boot.empty = true) := by
  obtain ⟨tr, s, s', b, b', req, ctx', o', ctx, o, hrun, hmem, hok', hexec, hok, -⟩ :=
    committingRun_spec (str "w-1") (by decide +kernel)
  obtain ⟨w, w', hw, hw', hiff⟩ := commit_authority_iff hrun hmem hok' hexec hok
  exact ⟨tr, s, w, w', hrun, hw, hw', hiff⟩

/-- A connection that has booted with an empty payload commits for a worker it is not. -/
theorem empty_boot_commits :
    ∃ tr s s' b b' req ctx' o' ctx o w w', Run exec (start ⟨1⟩ none false) tr s ∧
      (Act.advance 0 b', Report.performed (.reserve req ctx') (.reservation o')) ∈ tr ∧
      o'.ok = true ∧ s.exec (.advance 1 b) =
        some (s', .performed (.commit o'.reservation.id ctx) (.reservation o)) ∧
      o.ok = true ∧ s.connections[1]? = some w ∧ s.connections[0]? = some w' ∧
      w.boot ≠ w'.boot := by
  obtain ⟨tr, s, s', b, b', req, ctx', o', ctx, o, hrun, hmem, hok', hexec, hok, hrunEq⟩ :=
    committingRun_spec [] (by decide +kernel)
  have hboots : (committingRun []).map (fun q => (q.2.connections[1]?.map (·.boot),
      q.2.connections[0]?.map (·.boot))) = some (some ⟨[]⟩, some ⟨str "w-1"⟩) := by decide +kernel
  rw [hrunEq, Option.map_some, Option.some.injEq, Prod.mk.injEq] at hboots
  obtain ⟨w, hw, hboot⟩ := Option.map_eq_some_iff.mp hboots.1
  obtain ⟨w', hw', hboot'⟩ := Option.map_eq_some_iff.mp hboots.2
  refine ⟨tr, s, s', b, b', req, ctx', o', ctx, o, w, w', hrun, hmem, hok', hexec, hok, hw, hw', ?_⟩
  rw [hboot, hboot']
  decide

end Coordinator

end CxlFabric
