import CxlFabric.FabricSteps
import CxlFabric.MapSums

/-! # What one step does to one record

The records of the engine change independently of each other, so the effect of a step is
read off per key: a device, a region or a pool keeps its record or takes one of the listed
new ones. -/
namespace CxlFabric

/-- The operations that move bytes between counters. -/
inductive Op.Books : Op → Prop
  | reserve (req : AdmissionRequest) (ctx : AuthorityContext) : Books (.reserve req ctx)
  | commit (id : ReservationId) (ctx : AuthorityContext) : Books (.commit id ctx)
  | release (id : ReservationId) (ctx : AuthorityContext) : Books (.release id ctx)

namespace Fabric

/-- The record of device `id` before and after an operation. -/
inductive DeviceChange (id : DeviceId) : Op → Outcome → Option CxlDevice → Option CxlDevice → Prop
  | same {op : Op} {out : Outcome} (d : Option CxlDevice) : DeviceChange id op out d d
  | registered {dev : CxlDevice} {ctx : AuthorityContext} {old : Option CxlDevice}
      (key : dev.id = id) (supersedes : ∀ d, old = some d → Supersedes d dev) :
      DeviceChange id (.registerDevice dev ctx) (.decision .ok) old (some dev)
  | revalidation {ctx : AuthorityContext} {d : CxlDevice}
      (valid : d.state.validTransition (.named .revalidationRequired) = true) :
      DeviceChange id (.markDeviceRevalidation id ctx) (.decision .ok) (some d)
        (some { d with state := .named .revalidationRequired, evidenceCurrent := false })
  | online {ctx : AuthorityContext} {d : CxlDevice}
      (valid : d.state.validTransition (.named .online) = true) :
      DeviceChange id (.markDeviceOnline id ctx) (.decision .ok) (some d)
        (some { d with state := .named .online, evidenceCurrent := true })
  | imported {st : PersistedState} {old : Option CxlDevice} :
      DeviceChange id (.importPersisted st) .done old (st.devices[id]?.map importedDevice)

/-- The record of region `id` before and after an operation. -/
inductive RegionChange (id : RegionId) : Op → Outcome → Option CxlRegion → Option CxlRegion → Prop
  | same {op : Op} {out : Outcome} (r : Option CxlRegion) : RegionChange id op out r r
  | created {region : CxlRegion} {ctx : AuthorityContext} (key : region.id = id) :
      RegionChange id (.createRegion region ctx) (.decision .ok) none (some region)
  | updated {region old : CxlRegion} {ctx : AuthorityContext} (key : region.id = id)
      (generation : old.generation ≤ region.generation) :
      RegionChange id (.updateRegion region ctx) (.decision .ok) (some old) (some region)
  | reconfigured {ms : List DeviceId} {old : CxlRegion} {ctx : AuthorityContext}
      {o : ReconfigureOutcome} (next : old.generation.next.empty = false) (ok : o.ok = true) :
      RegionChange id (.reconfigureRegion id ms ctx) (.reconfigured o) (some old)
        (some { old with
          generation := old.generation.next
          memberDevices := ms
          state := .named .reconfiguring
          evidenceCurrent := false })
  | draining {old : CxlRegion} {ctx : AuthorityContext}
      (valid : old.state.validTransition (.named .draining) = true) :
      RegionChange id (.markRegionDraining id ctx) (.decision .ok) (some old)
        (some { old with state := .named .draining })
  | revalidated {old : CxlRegion} {ctx : AuthorityContext}
      (valid : old.state.validTransition (.named .online) = true) :
      RegionChange id (.revalidateRegion id ctx) (.decision .ok) (some old) (some { old with
        state := .named .online, evidenceCurrent := true, health := .named .healthy })
  | booked {op : Op} {out : Outcome} {old : CxlRegion} (books : op.Books)
      (reserved committed : ByteCount) :
      RegionChange id op out (some old)
        (some { old with reservedBytes := reserved, committedBytes := committed })
  | imported {st : PersistedState} {old : Option CxlRegion} :
      RegionChange id (.importPersisted st) .done old (st.regions[id]?.map importedRegion)

/-- The record of pool `id` before and after an operation. -/
inductive PoolChange (id : PoolId) : Op → Outcome → Option CxlPool → Option CxlPool → Prop
  | same {op : Op} {out : Outcome} (p : Option CxlPool) : PoolChange id op out p p
  | created {pool : CxlPool} {ctx : AuthorityContext} (key : pool.id = id) :
      PoolChange id (.createPool pool ctx) (.decision .ok) none
        (some { recomputePool pool with state := .available, evidenceCurrent := true })
  | added {m : PoolMember} {old : CxlPool} {ctx : AuthorityContext} :
      PoolChange id (.addPoolMember id m ctx) (.decision .ok) (some old)
        (some (recomputePool { old with
          members := old.members ++ [m], generation := advance old.generation }))
  | removed {d : DeviceId} {old : CxlPool} {ctx : AuthorityContext} :
      PoolChange id (.removePoolMember id d ctx) (.decision .ok) (some old)
        (some (recomputePool { old with
          members := old.members.eraseP (·.device = d), generation := advance old.generation }))
  | draining {old : CxlPool} {ctx : AuthorityContext}
      (valid : old.state.validTransition .draining = true) :
      PoolChange id (.markPoolDraining id ctx) (.decision .ok) (some old)
        (some { old with state := .draining })
  | reconciled {old : CxlPool} {ctx : AuthorityContext} :
      PoolChange id (.reconcilePool id ctx) (.decision .ok) (some old) (some (recomputePool old))
  | revalidated {old : CxlPool} {ctx : AuthorityContext}
      (valid : old.state.validTransition .available = true) :
      PoolChange id (.revalidatePool id ctx) (.decision .ok) (some old)
        (some (recomputePool { old with
          state := .available, evidenceCurrent := true, healthSummary := .named .healthy }))
  | booked {op : Op} {out : Outcome} {old : CxlPool} (books : op.Books)
      (reserved committed : ByteCount) :
      PoolChange id op out (some old)
        (some { old with reservedBytes := reserved, committedBytes := committed })
  | imported {st : PersistedState} {old : Option CxlPool} :
      PoolChange id (.importPersisted st) .done old (st.pools[id]?.map importedPool)

@[simp] theorem drainPoolOf_devices (f : Fabric) (res : Reservation) :
    (f.drainPoolOf res).state.devices = f.state.devices := by unfold drainPoolOf; split <;> rfl

@[simp] theorem drainPoolOf_regions (f : Fabric) (res : Reservation) :
    (f.drainPoolOf res).state.regions = f.state.regions := by unfold drainPoolOf; split <;> rfl

@[simp] theorem drainPoolOf_reservations (f : Fabric) (res : Reservation) :
    (f.drainPoolOf res).state.reservations = f.state.reservations := by
  unfold drainPoolOf; split <;> rfl

@[simp] theorem drainPoolOf_epoch (f : Fabric) (res : Reservation) :
    (f.drainPoolOf res).state.coordinatorEpoch = f.state.coordinatorEpoch := by
  unfold drainPoolOf; split <;> rfl

@[simp] theorem drainPoolOf_sequence (f : Fabric) (res : Reservation) :
    (f.drainPoolOf res).sequence = f.sequence := by unfold drainPoolOf; split <;> rfl

@[simp] theorem drainRegionOf_devices (f : Fabric) (res : Reservation) :
    (f.drainRegionOf res).state.devices = f.state.devices := by unfold drainRegionOf; split <;> rfl

@[simp] theorem drainRegionOf_pools (f : Fabric) (res : Reservation) :
    (f.drainRegionOf res).state.pools = f.state.pools := by unfold drainRegionOf; split <;> rfl

@[simp] theorem drainRegionOf_reservations (f : Fabric) (res : Reservation) :
    (f.drainRegionOf res).state.reservations = f.state.reservations := by
  unfold drainRegionOf; split <;> rfl

@[simp] theorem drainRegionOf_epoch (f : Fabric) (res : Reservation) :
    (f.drainRegionOf res).state.coordinatorEpoch = f.state.coordinatorEpoch := by
  unfold drainRegionOf; split <;> rfl

@[simp] theorem drainRegionOf_sequence (f : Fabric) (res : Reservation) :
    (f.drainRegionOf res).sequence = f.sequence := by unfold drainRegionOf; split <;> rfl

theorem drainPoolOf_pools (f : Fabric) (res : Reservation) (id : PoolId) :
    (f.drainPoolOf res).state.pools[id]? =
      if res.pool = id then f.state.pools[id]?.map (drainPool · res.bytes)
      else f.state.pools[id]? := by
  unfold drainPoolOf
  split
  · next h =>
    split
    · next hid => subst hid; simp [h]
    · rfl
  · next pool h =>
    rw [setPool_state_pools, getElem?_insert_eq]
    split
    · next hid => subst hid; simp [h]
    · rfl

theorem drainRegionOf_regions (f : Fabric) (res : Reservation) (id : RegionId) :
    (f.drainRegionOf res).state.regions[id]? =
      if res.region = id then f.state.regions[id]?.map (drainRegion · res.bytes)
      else f.state.regions[id]? := by
  unfold drainRegionOf
  split
  · next h =>
    split
    · next hid => subst hid; simp [h]
    · rfl
  · next region h =>
    rw [setRegion_state_regions, getElem?_insert_eq]
    split
    · next hid => subst hid; simp [h]
    · rfl

@[simp] theorem importPersisted_devices (f : Fabric) (st : PersistedState) (id : DeviceId) :
    (f.importPersisted st).state.devices[id]? = st.devices[id]?.map importedDevice :=
  Std.ExtTreeMap.getElem?_map

@[simp] theorem importPersisted_regions (f : Fabric) (st : PersistedState) (id : RegionId) :
    (f.importPersisted st).state.regions[id]? = st.regions[id]?.map importedRegion :=
  Std.ExtTreeMap.getElem?_map

@[simp] theorem importPersisted_pools (f : Fabric) (st : PersistedState) (id : PoolId) :
    (f.importPersisted st).state.pools[id]? = st.pools[id]?.map importedPool :=
  Std.ExtTreeMap.getElem?_map

@[simp] theorem importPersisted_sequence (f : Fabric) (st : PersistedState) :
    (f.importPersisted st).sequence = f.sequence := rfl

variable {f f' : Fabric} {op : Op} {out : Outcome}

theorem Effect.device (h : f.Effect op out f') (id : DeviceId) :
    DeviceChange id op out f.state.devices[id]? f'.state.devices[id]? := by
  cases h with
  | @registerDevice dev ctx epoch named old =>
    rw [setDevice_state_devices, getElem?_insert_eq]
    split
    · next hid => subst hid; exact .registered rfl old
    · exact .same _
  | @markDeviceRevalidation d old ctx epoch present valid =>
    rw [setDevice_state_devices, getElem?_insert_eq]
    split
    · next hid => subst hid; rw [present]; exact .revalidation valid
    · exact .same _
  | @markDeviceOnline d old ctx epoch present valid =>
    rw [setDevice_state_devices, getElem?_insert_eq]
    split
    · next hid => subst hid; rw [present]; exact .online valid
    · exact .same _
  | importPersisted st => rw [importPersisted_devices]; exact .imported
  | conflict guarded uncovered => rw [drainPoolOf_devices]; exact .same _
  | release guarded covered => simp only [free, recomputeLedger_state_devices,
      setReservation_state_devices, drainRegionOf_devices, drainPoolOf_devices]; exact .same _
  | _ => exact .same _

theorem Effect.region (h : f.Effect op out f') (id : RegionId) :
    RegionChange id op out f.state.regions[id]? f'.state.regions[id]? := by
  cases h with
  | @createRegion region ctx pool epoch named fresh owner members =>
    rw [setRegion_state_regions, getElem?_insert_eq]
    split
    · next hid => subst hid; rw [fresh]; exact .created rfl
    · exact .same _
  | @updateRegion region old ctx epoch present generation =>
    rw [setRegion_state_regions, getElem?_insert_eq]
    split
    · next hid => subst hid; rw [present]; exact .updated rfl generation
    · exact .same _
  | @reconfigureRegion rid ms old ctx epoch present next =>
    rw [setRegion_state_regions, getElem?_insert_eq]
    split
    · next hid => subst hid; rw [present]; exact .reconfigured next rfl
    · exact .same _
  | @markRegionDraining rid old ctx epoch present valid =>
    rw [setRegion_state_regions, getElem?_insert_eq]
    split
    · next hid => subst hid; rw [present]; exact .draining valid
    · exact .same _
  | @revalidateRegion rid old ctx epoch present valid =>
    rw [setRegion_state_regions, getElem?_insert_eq]
    split
    · next hid => subst hid; rw [present]; exact .revalidated valid
    · exact .same _
  | @reserve req ctx c pool region dev epoch admission =>
    change RegionChange id _ _ _ ((f.state.regions.insert c.region _)[id]?)
    rw [getElem?_insert_eq]
    split
    · next hid => subst hid; rw [admission.regionRecord]; exact .booked (.reserve _ _) _ _
    · exact .same _
  | @commit rid ctx res pool region dev guarded =>
    change RegionChange id _ _ _ ((f.state.regions.insert res.region _)[id]?)
    rw [getElem?_insert_eq]
    split
    · next hid => subst hid; rw [guarded.regionRecord]; exact .booked (.commit _ _) _ _
    · exact .same _
  | @release rid ctx res guarded covered =>
    change RegionChange id _ _ _ (((f.drainPoolOf res).drainRegionOf res).state.regions[id]?)
    rw [drainRegionOf_regions, drainPoolOf_regions]
    split
    · cases f.state.regions[id]? with
      | none => exact .same _
      | some region => exact .booked (.release _ _) _ _
    · exact .same _
  | importPersisted st => rw [importPersisted_regions]; exact .imported
  | conflict guarded uncovered => rw [drainPoolOf_regions]; exact .same _
  | _ => exact .same _

theorem Effect.pool (h : f.Effect op out f') (id : PoolId) :
    PoolChange id op out f.state.pools[id]? f'.state.pools[id]? := by
  cases h with
  | @createPool pool ctx epoch named fresh members =>
    rw [recomputeLedger_state_pools, setPool_state_pools, getElem?_insert_eq]
    split
    · next hid => subst hid; rw [fresh]; exact .created rfl
    · exact .same _
  | @addPoolMember pid m old ctx epoch present registered named newHere newElsewhere =>
    rw [recomputeLedger_state_pools, setPool_state_pools, getElem?_insert_eq]
    split
    · next hid => subst hid; rw [present]; exact .added
    · exact .same _
  | @removePoolMember pid d old ctx epoch present member =>
    rw [recomputeLedger_state_pools, setPool_state_pools, getElem?_insert_eq]
    split
    · next hid => subst hid; rw [present]; exact .removed
    · exact .same _
  | @markPoolDraining pid old ctx epoch present valid =>
    rw [setPool_state_pools, getElem?_insert_eq]
    split
    · next hid => subst hid; rw [present]; exact .draining valid
    · exact .same _
  | @reconcilePool pid old ctx epoch present =>
    rw [recomputeLedger_state_pools, setPool_state_pools, getElem?_insert_eq]
    split
    · next hid => subst hid; rw [present]; exact .reconciled
    · exact .same _
  | @revalidatePool pid old ctx epoch present valid =>
    rw [recomputeLedger_state_pools, setPool_state_pools, getElem?_insert_eq]
    split
    · next hid => subst hid; rw [present]; exact .revalidated valid
    · exact .same _
  | @reserve req ctx c pool region dev epoch admission =>
    change PoolChange id _ _ _ ((f.state.pools.insert c.pool _)[id]?)
    rw [getElem?_insert_eq]
    split
    · next hid => subst hid; rw [admission.poolRecord]; exact .booked (.reserve _ _) _ _
    · exact .same _
  | @commit rid ctx res pool region dev guarded =>
    change PoolChange id _ _ _ ((f.state.pools.insert res.pool _)[id]?)
    rw [getElem?_insert_eq]
    split
    · next hid => subst hid; rw [guarded.poolRecord]; exact .booked (.commit _ _) _ _
    · exact .same _
  | @release rid ctx res guarded covered =>
    change PoolChange id _ _ _ (((f.drainPoolOf res).drainRegionOf res).state.pools[id]?)
    rw [drainRegionOf_pools, drainPoolOf_pools]
    split
    · cases f.state.pools[id]? with
      | none => exact .same _
      | some pool => exact .booked (.release _ _) _ _
    · exact .same _
  | @conflict rid ctx res guarded uncovered =>
    rw [drainPoolOf_pools]
    split
    · cases f.state.pools[id]? with
      | none => exact .same _
      | some pool => exact .booked (.release _ _) _ _
    · exact .same _
  | importPersisted st => rw [importPersisted_pools]; exact .imported
  | _ => exact .same _

/-- Pools are never removed. -/
theorem Effect.pool_isSome (h : f.Effect op out f') (himport : ∀ st, op ≠ .importPersisted st)
    {id : PoolId} (hp : f.state.pools[id]?.isSome) : f'.state.pools[id]?.isSome := by
  have hchange := h.pool id
  generalize f.state.pools[id]? = old at hchange hp
  generalize f'.state.pools[id]? = new at hchange
  cases hchange with
  | same => exact hp
  | @imported st => exact absurd rfl (himport st)
  | _ => rfl

theorem Effect.region_isSome (h : f.Effect op out f') (himport : ∀ st, op ≠ .importPersisted st)
    {id : RegionId} (hr : f.state.regions[id]?.isSome) : f'.state.regions[id]?.isSome := by
  have hchange := h.region id
  generalize f.state.regions[id]? = old at hchange hr
  generalize f'.state.regions[id]? = new at hchange
  cases hchange with
  | same => exact hr
  | @imported st => exact absurd rfl (himport st)
  | _ => rfl

/-- Only a booking touches the counters of a pool that is there before and after. -/
theorem PoolChange.counters {id : PoolId} {old new : Option CxlPool} {p' : CxlPool}
    (h : PoolChange id op out old new) (hnew : new = some p') (hbooks : ¬op.Books)
    (himport : ∀ st, op ≠ .importPersisted st) :
    (∃ p, old = some p ∧ p'.reservedBytes = p.reservedBytes ∧
      p'.committedBytes = p.committedBytes) ∨
    (∃ pool ctx, op = .createPool pool ctx ∧ out.success = true ∧ old = none ∧
      p'.reservedBytes = pool.reservedBytes ∧ p'.committedBytes = pool.committedBytes) := by
  cases h with
  | same => exact .inl ⟨p', hnew, rfl, rfl⟩
  | created key => cases hnew; exact .inr ⟨_, _, rfl, rfl, rfl, rfl, rfl⟩
  | booked books => exact absurd books hbooks
  | @imported st => exact absurd rfl (himport st)
  | _ => cases hnew; exact .inl ⟨_, rfl, rfl, rfl⟩

theorem RegionChange.counters {id : RegionId} {old new : Option CxlRegion} {r' : CxlRegion}
    (h : RegionChange id op out old new) (hnew : new = some r') (hbooks : ¬op.Books)
    (hupdate : ∀ r ctx, op ≠ .updateRegion r ctx) (himport : ∀ st, op ≠ .importPersisted st) :
    (∃ r, old = some r ∧ r'.reservedBytes = r.reservedBytes ∧
      r'.committedBytes = r.committedBytes ∧ r'.regionCapacityBytes = r.regionCapacityBytes) ∨
    (∃ ctx, op = .createRegion r' ctx ∧ out.success = true ∧ old = none) := by
  cases h with
  | same => exact .inl ⟨r', hnew, rfl, rfl, rfl⟩
  | created key => cases hnew; exact .inr ⟨_, rfl, rfl, rfl⟩
  | @updated region old ctx => exact absurd rfl (hupdate region ctx)
  | booked books => exact absurd books hbooks
  | @imported st => exact absurd rfl (himport st)
  | _ => cases hnew; exact .inl ⟨_, rfl, rfl, rfl, rfl⟩

end Fabric

end CxlFabric
