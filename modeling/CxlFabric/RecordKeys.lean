import CxlFabric.RecordChanges

/-! # Records are stored under their own identities

Every operation stores a record under the identity it carries, so a map that starts keyed
stays keyed. An import keeps the keys of the state it is given. -/
namespace CxlFabric

/-- Every record is stored under its own identity. -/
structure Keyed (devices : Map DeviceId CxlDevice) (regions : Map RegionId CxlRegion)
    (pools : Map PoolId CxlPool) : Prop where
  device : ∀ {k : DeviceId} {d : CxlDevice}, devices[k]? = some d → d.id = k
  region : ∀ {k : RegionId} {r : CxlRegion}, regions[k]? = some r → r.id = k
  pool : ∀ {k : PoolId} {p : CxlPool}, pools[k]? = some p → p.id = k

def PersistedState.Keyed (st : PersistedState) : Prop :=
  CxlFabric.Keyed st.devices st.regions st.pools

/-- An imported state keys its records by their identities, as a decoded one does. -/
def Op.ImportsKeyed : Op → Prop
  | .importPersisted st => st.Keyed
  | _ => True

theorem Op.importsKeyed_of_authority {op : Op} (h : op.authority ≠ none) : op.ImportsKeyed := by
  cases op with
  | importPersisted st => exact absurd rfl h
  | _ => trivial

namespace Fabric
variable {f f' : Fabric} {op : Op} {out : Outcome}

def RecordsKeyed (f : Fabric) : Prop := Keyed f.state.devices f.state.regions f.state.pools

theorem recordsKeyed_new (epoch : CoordinatorEpoch) (policy : PolicyGeneration) :
    RecordsKeyed (new epoch policy) := by
  refine ⟨?_, ?_, ?_⟩
  · intro k d hd
    simp [new] at hd
  · intro k r hr
    simp [new] at hr
  · intro k p hp
    simp [new] at hp

theorem DeviceChange.keyed {k : DeviceId} {old new : Option CxlDevice} {d' : CxlDevice}
    (h : DeviceChange k op out old new) (hnew : new = some d')
    (hold : ∀ d, old = some d → d.id = k) (himport : op.ImportsKeyed) : d'.id = k := by
  cases h with
  | same => exact hold d' hnew
  | registered key => cases hnew; exact key
  | @revalidation ctx d => cases hnew; exact hold d rfl
  | @online ctx d => cases hnew; exact hold d rfl
  | @imported st =>
    obtain ⟨d, hd, rfl⟩ := Option.map_eq_some_iff.mp hnew
    have hid : d.id = k := himport.device hd
    exact hid

theorem RegionChange.keyed {k : RegionId} {old new : Option CxlRegion} {r' : CxlRegion}
    (h : RegionChange k op out old new) (hnew : new = some r')
    (hold : ∀ r, old = some r → r.id = k) (himport : op.ImportsKeyed) : r'.id = k := by
  cases h with
  | same => exact hold r' hnew
  | created key => cases hnew; exact key
  | updated key => cases hnew; exact key
  | @imported st =>
    obtain ⟨r, hr, rfl⟩ := Option.map_eq_some_iff.mp hnew
    have hid : r.id = k := himport.region hr
    exact hid
  | @reconfigured _ r | @draining r | @revalidated r | @booked _ _ r =>
    cases hnew
    exact hold r rfl

theorem PoolChange.keyed {k : PoolId} {old new : Option CxlPool} {p' : CxlPool}
    (h : PoolChange k op out old new) (hnew : new = some p')
    (hold : ∀ p, old = some p → p.id = k) (himport : op.ImportsKeyed) : p'.id = k := by
  cases h with
  | same => exact hold p' hnew
  | created key => cases hnew; exact key
  | @imported st =>
    obtain ⟨p, hp, rfl⟩ := Option.map_eq_some_iff.mp hnew
    have hid : p.id = k := himport.pool hp
    exact hid
  | @added _ p | @removed _ p | @draining p | @reconciled p | @revalidated p | @booked _ _ p =>
    cases hnew
    exact hold p rfl

theorem RecordsKeyed.step (hk : RecordsKeyed f) (h : f.Effect op out f')
    (himport : op.ImportsKeyed) : RecordsKeyed f' := by
  refine ⟨?_, ?_, ?_⟩
  · intro k d hd
    exact (h.device k).keyed hd (fun _ => hk.device) himport
  · intro k r hr
    exact (h.region k).keyed hr (fun _ => hk.region) himport
  · intro k p hp
    exact (h.pool k).keyed hp (fun _ => hk.pool) himport

theorem recordsKeyed_of_run {epoch : CoordinatorEpoch} {policy : PolicyGeneration}
    {tr : List (Op × Outcome)} (hrun : Run exec (new epoch policy) tr f)
    (hkeyed : ∀ e ∈ tr, e.1.ImportsKeyed) : RecordsKeyed f :=
  hrun.invariant (A := fun e => e.1.ImportsKeyed)
    (fun _ _ _ _ hA hI hexec => hI.step (exec_effect hexec) hA) hkeyed
    (recordsKeyed_new epoch policy)

/-- An exported state can be imported again. -/
theorem RecordsKeyed.exportPersisted (h : RecordsKeyed f) : f.exportPersisted.Keyed := h

end Fabric

end CxlFabric
