import CxlFabric.Conservation

/-! # Failed operations change nothing

Only a release in conflict writes before it fails. Conservation rules that branch out, so
an operation that reports a failure has left the whole state alone, and an operation
under a stale epoch always reports one. -/
namespace CxlFabric
namespace Fabric
variable {f f' : Fabric} {op : Op} {out : Outcome} {ctx : AuthorityContext} {healthy failed : ℕ}

/-- A step that reports a failure refused, or is a release in conflict. -/
theorem Effect.eq_of_failure (h : f.Effect op out f') (hout : out.success = false)
    (hcovers : ∀ (id : ReservationId) (res : Reservation), f.state.reservations[id]? = some res →
      res.live = true → f.uncovered res = false) : f' = f := by
  cases h with
  | refused => rfl
  | conflict guarded uncovered =>
    rw [hcovers _ _ guarded.stored guarded.live_eq] at uncovered
    cases uncovered
  | _ => cases hout

/-- Every write needs the current epoch. -/
theorem Effect.refused_of_stale (h : f.Effect op out f') (hctx : op.authority = some ctx)
    (hstale : ¬f.Authorized ctx) : out.success = false ∧ f' = f := by
  cases h with
  | refused fallible hout => exact ⟨hout, rfl⟩
  | setEpoch | setPolicyGeneration | advanceEvidenceGeneration | importPersisted => cases hctx
  | commit guarded | release guarded | conflict guarded =>
    cases hctx
    exact absurd guarded.epoch hstale
  | registerDevice epoch | createRegion epoch | updateRegion epoch | reconfigureRegion epoch
  | createPool epoch | addPoolMember epoch | removePoolMember epoch | markDeviceRevalidation epoch
  | markDeviceOnline epoch | markRegionDraining epoch | markPoolDraining epoch
  | reconcilePool epoch | revalidatePool epoch | revalidateRegion epoch | reserve epoch =>
    cases hctx
    exact absurd epoch hstale

/-- A stale reserve returns before it could fail to store anything. -/
theorem exec_isSome_of_stale (hctx : op.authority = some ctx) (hstale : ¬f.Authorized ctx) :
    (f.exec op).isSome = true := by
  cases op with
  | reserve req c =>
    cases hctx
    have hepoch : f.staleEpoch ctx = true := by simpa [staleEpoch, Authorized] using hstale
    simp [exec, reserve, hepoch]
  | _ => rfl

theorem failed_operations_change_nothing {epoch : CoordinatorEpoch} {policy : PolicyGeneration}
    {tr : List (Op × Outcome)} (hrun : Run exec (new epoch policy) tr f)
    (hstart : ∀ e ∈ tr, StartsPools e) (hbytes : passed (·.nominalBytes.toNat) tr < 2 ^ 64) :
    (∀ op f' out, f.exec op = some (f', out) → out.success = false → f' = f) ∧
    (∀ op ctx, op.authority = some ctx → ctx.coordinatorEpoch ≠ f.state.coordinatorEpoch →
      ∃ out, f.exec op = some (f, out) ∧ out.success = false) := by
  have hc := poolsConserved_of_run hrun hstart hbytes
  constructor
  · intro op f' out hexec hout
    exact (exec_effect hexec).eq_of_failure hout fun id res => hc.covers
  · intro op ctx hctx hstale
    obtain ⟨⟨f', out⟩, hexec⟩ := Option.isSome_iff_exists.mp (exec_isSome_of_stale hctx hstale)
    obtain ⟨hout, rfl⟩ := (exec_effect hexec).refused_of_stale hctx hstale
    exact ⟨out, hexec, hout⟩

/-- A second release of a reservation is refused and changes nothing. -/
theorem failed_operations_change_nothing_bookingRun :
    ∃ tr f, bookingRun = some (tr, f) ∧ (∀ e ∈ tr, StartsPools e) ∧
      passed (·.nominalBytes.toNat) tr < 2 ^ 64 ∧
      ∃ f' out, f.exec (.release (reservationId 1) (Synthetic.context ⟨1⟩)) = some (f', out) ∧
        out.success = false ∧ f' = f := by
  have hrun := Run.of_execAll (Option.some_get bookingRun_isSome).symm
  have hpools : ∀ e ∈ (bookingRun.get bookingRun_isSome).1, StartsPools e := by decide
  have hbytes : passed (·.nominalBytes.toNat) (bookingRun.get bookingRun_isSome).1 < 2 ^ 64 := by
    decide
  refine ⟨_, _, (Option.some_get bookingRun_isSome).symm, hpools, hbytes, _, _, rfl, by decide, ?_⟩
  exact (failed_operations_change_nothing hrun hpools hbytes).1
    (.release (reservationId 1) (Synthetic.context ⟨1⟩)) _ _ rfl (by decide)

end Fabric

end CxlFabric
