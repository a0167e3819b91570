import CxlFabric.Fabric
import CxlFabric.LabelledRuns

/-! # One step of the engine

An operation with its arguments is one step. `Effect` says everything a step can do:
refuse and leave the state alone, or write exactly one of the listed updates under the
listed guards. Every invariant of the engine is derived from it. -/
namespace CxlFabric

inductive Op
  | setEpoch (e : CoordinatorEpoch)
  | setPolicyGeneration (p : PolicyGeneration)
  | advanceEvidenceGeneration
  | registerDevice (dev : CxlDevice) (ctx : AuthorityContext)
  | createRegion (region : CxlRegion) (ctx : AuthorityContext)
  | updateRegion (region : CxlRegion) (ctx : AuthorityContext)
  | reconfigureRegion (id : RegionId) (newMembers : List DeviceId) (ctx : AuthorityContext)
  | createPool (pool : CxlPool) (ctx : AuthorityContext)
  | addPoolMember (id : PoolId) (member : PoolMember) (ctx : AuthorityContext)
  | removePoolMember (id : PoolId) (device : DeviceId) (ctx : AuthorityContext)
  | markDeviceRevalidation (d : DeviceId) (ctx : AuthorityContext)
  | markDeviceOnline (d : DeviceId) (ctx : AuthorityContext)
  | markRegionDraining (id : RegionId) (ctx : AuthorityContext)
  | markPoolDraining (id : PoolId) (ctx : AuthorityContext)
  | reconcilePool (id : PoolId) (ctx : AuthorityContext)
  | revalidatePool (id : PoolId) (ctx : AuthorityContext)
  | revalidateRegion (id : RegionId) (ctx : AuthorityContext)
  | reserve (req : AdmissionRequest) (ctx : AuthorityContext)
  | commit (id : ReservationId) (ctx : AuthorityContext)
  | release (id : ReservationId) (ctx : AuthorityContext)
  | importPersisted (st : PersistedState)
  deriving DecidableEq

/-- The context an operation is validated against; the four others take none. -/
def Op.authority : Op → Option AuthorityContext
  | .setEpoch _ | .setPolicyGeneration _ | .advanceEvidenceGeneration | .importPersisted _ => none
  | .registerDevice _ ctx | .createRegion _ ctx | .updateRegion _ ctx
  | .reconfigureRegion _ _ ctx | .createPool _ ctx | .addPoolMember _ _ ctx
  | .removePoolMember _ _ ctx | .markDeviceRevalidation _ ctx | .markDeviceOnline _ ctx
  | .markRegionDraining _ ctx | .markPoolDraining _ ctx | .reconcilePool _ ctx
  | .revalidatePool _ ctx | .revalidateRegion _ ctx | .reserve _ ctx | .commit _ ctx
  | .release _ ctx => some ctx

/-- What an operation reports; `done` is a `void` return. -/
inductive Outcome
  | done
  | decision (r : DecisionReason)
  | reconfigured (o : ReconfigureOutcome)
  | reservation (o : ReserveOutcome)
  deriving DecidableEq

def Outcome.success : Outcome → Bool
  | .done => true
  | .decision r => r = .ok
  | .reconfigured o => o.ok
  | .reservation o => o.ok

@[simp] theorem Outcome.success_done : Outcome.done.success = true := rfl

@[simp] theorem Outcome.success_decision (r : DecisionReason) :
    (Outcome.decision r).success = decide (r = .ok) := rfl

@[simp] theorem Outcome.success_reconfigured (o : ReconfigureOutcome) :
    (Outcome.reconfigured o).success = o.ok := rfl

@[simp] theorem Outcome.success_reservation (o : ReserveOutcome) :
    (Outcome.reservation o).success = o.ok := rfl

namespace Fabric

def decided (r : Fabric × DecisionReason) : Option (Fabric × Outcome) := some (r.1, .decision r.2)

/-- One operation. Only `reserve` can fail to return. -/
def exec (f : Fabric) : Op → Option (Fabric × Outcome)
  | .setEpoch e => some (f.setEpoch e, .done)
  | .setPolicyGeneration p => some (f.setPolicyGeneration p, .done)
  | .advanceEvidenceGeneration => some (f.advanceEvidenceGeneration, .done)
  | .registerDevice dev ctx => decided (f.registerDevice dev ctx)
  | .createRegion region ctx => decided (f.createRegion region ctx)
  | .updateRegion region ctx => decided (f.updateRegion region ctx)
  | .reconfigureRegion id ms ctx =>
    some ((f.reconfigureRegion id ms ctx).1, .reconfigured (f.reconfigureRegion id ms ctx).2)
  | .createPool pool ctx => decided (f.createPool pool ctx)
  | .addPoolMember id m ctx => decided (f.addPoolMember id m ctx)
  | .removePoolMember id d ctx => decided (f.removePoolMember id d ctx)
  | .markDeviceRevalidation d ctx => decided (f.markDeviceRevalidation d ctx)
  | .markDeviceOnline d ctx => decided (f.markDeviceOnline d ctx)
  | .markRegionDraining id ctx => decided (f.markRegionDraining id ctx)
  | .markPoolDraining id ctx => decided (f.markPoolDraining id ctx)
  | .reconcilePool id ctx => decided (f.reconcilePool id ctx)
  | .revalidatePool id ctx => decided (f.revalidatePool id ctx)
  | .revalidateRegion id ctx => decided (f.revalidateRegion id ctx)
  | .reserve req ctx => (f.reserve req ctx).map fun r => (r.1, .reservation r.2)
  | .commit id ctx => some ((f.commit id ctx).1, .reservation (f.commit id ctx).2)
  | .release id ctx => some ((f.release id ctx).1, .reservation (f.release id ctx).2)
  | .importPersisted st => some (f.importPersisted st, .done)

/-- The context carries the current epoch. -/
def Authorized (f : Fabric) (ctx : AuthorityContext) : Prop :=
  ctx.coordinatorEpoch = f.state.coordinatorEpoch

theorem staleEpoch_eq_false {f : Fabric} {ctx : AuthorityContext} :
    f.staleEpoch ctx = false ↔ f.Authorized ctx := by simp [staleEpoch, Authorized]

/-- How a registration may relate to the record it replaces. -/
def Supersedes (old dev : CxlDevice) : Prop :=
  (old.generation = dev.generation ∧ old.vendorDeviceId = dev.vendorDeviceId ∧
    old.totalPhysicalBytes = dev.totalPhysicalBytes) ∨
  (old.generation < dev.generation ∧ old.state.validTransition dev.state = true)

/-- The choice of a successful reserve: the best accepted candidate, its current records
and the capacity checks on them. -/
structure Admission (f : Fabric) (req : AdmissionRequest) (c : Candidate) (pool : CxlPool)
    (region : CxlRegion) (dev : CxlDevice) : Prop where
  selected : (buildSelection f.selectionSnapshot req).ok = true
  chosen : (buildSelection f.selectionSnapshot req).chosen = c
  poolRecord : f.state.pools[c.pool]? = some pool
  regionRecord : f.state.regions[c.region]? = some region
  deviceRecord : f.state.devices[c.device]? = some dev
  poolGeneration : pool.generation = c.poolGeneration
  regionGeneration : region.generation = c.regionGeneration
  deviceGeneration : dev.generation = c.deviceGeneration
  positive : req.bytes ≠ 0
  poolFits : req.bytes ≤ poolFree pool
  regionFits : req.bytes ≤ regionFree region
  room : f.state.reservations.size < maxReservations

/-- The authority a commit needs. -/
structure CommitGuard (f : Fabric) (id : ReservationId) (ctx : AuthorityContext)
    (res : Reservation) (pool : CxlPool) (region : CxlRegion) (dev : CxlDevice) : Prop where
  stored : f.state.reservations[id]? = some res
  reserved : res.state = .reserved
  epoch : f.Authorized ctx
  created : res.createdEpoch = f.state.coordinatorEpoch
  worker : ctx.workerBootId.empty = true ∨ ctx.workerBootId = res.workerBootId
  poolRecord : f.state.pools[res.pool]? = some pool
  regionRecord : f.state.regions[res.region]? = some region
  deviceRecord : f.state.devices[res.device]? = some dev
  poolGeneration : pool.generation = res.poolGeneration
  regionGeneration : region.generation = res.regionGeneration
  deviceGeneration : dev.generation = res.deviceGeneration
  covered : res.bytes ≤ pool.reservedBytes

/-- What a release checks before it touches a counter. -/
structure ReleaseGuard (f : Fabric) (id : ReservationId) (ctx : AuthorityContext)
    (res : Reservation) : Prop where
  stored : f.state.reservations[id]? = some res
  live : res.state = .committed ∨ res.state = .reserved
  epoch : f.Authorized ctx

inductive Effect (f : Fabric) : Op → Outcome → Fabric → Prop
  | refused {op : Op} {out : Outcome} (fallible : op.authority ≠ none)
      (failed : out.success = false) : Effect f op out f
  | setEpoch (e : CoordinatorEpoch) : Effect f (.setEpoch e) .done (f.setEpoch e)
  | setPolicyGeneration (p : PolicyGeneration) :
      Effect f (.setPolicyGeneration p) .done (f.setPolicyGeneration p)
  | advanceEvidenceGeneration :
      Effect f .advanceEvidenceGeneration .done f.advanceEvidenceGeneration
  | registerDevice {dev : CxlDevice} {ctx : AuthorityContext} (epoch : f.Authorized ctx)
      (named : dev.id.empty = false ∧ dev.generation.empty = false ∧ dev.bootId.empty = false)
      (old : ∀ d, f.state.devices[dev.id]? = some d → Supersedes d dev) :
      Effect f (.registerDevice dev ctx) (.decision .ok) (f.setDevice dev.id dev)
  | createRegion {region : CxlRegion} {ctx : AuthorityContext} {pool : CxlPool}
      (epoch : f.Authorized ctx)
      (named : region.id.empty = false ∧ region.generation.empty = false ∧
        region.pool.empty = false)
      (fresh : f.state.regions[region.id]? = none)
      (owner : f.state.pools[region.pool]? = some pool)
      (members : f.regionMemberError pool region.memberDevices = none) :
      Effect f (.createRegion region ctx) (.decision .ok) (f.setRegion region.id region)
  | updateRegion {region old : CxlRegion} {ctx : AuthorityContext} (epoch : f.Authorized ctx)
      (present : f.state.regions[region.id]? = some old)
      (generation : old.generation ≤ region.generation) :
      Effect f (.updateRegion region ctx) (.decision .ok) (f.setRegion region.id region)
  | reconfigureRegion {id : RegionId} {ms : List DeviceId} {old : CxlRegion}
      {ctx : AuthorityContext} (epoch : f.Authorized ctx)
      (present : f.state.regions[id]? = some old) (next : old.generation.next.empty = false) :
      Effect f (.reconfigureRegion id ms ctx)
        (.reconfigured { ok := true, newGeneration := old.generation.next })
        (f.setRegion id { old with
          generation := old.generation.next
          memberDevices := ms
          state := .named .reconfiguring
          evidenceCurrent := false })
  | createPool {pool : CxlPool} {ctx : AuthorityContext} (epoch : f.Authorized ctx)
      (named : pool.id.empty = false ∧ pool.generation.empty = false)
      (fresh : f.state.pools[pool.id]? = none)
      (members : f.poolMemberError [] pool.members = none) :
      Effect f (.createPool pool ctx) (.decision .ok)
        (f.setPool pool.id { recomputePool pool with
          state := .available, evidenceCurrent := true }).recomputeLedger
  | addPoolMember {id : PoolId} {m : PoolMember} {old : CxlPool} {ctx : AuthorityContext}
      (epoch : f.Authorized ctx) (present : f.state.pools[id]? = some old)
      (registered : f.state.devices.contains m.device = true)
      (named : m.deviceGeneration.empty = false)
      (newHere : old.members.any (·.device = m.device) = false)
      (newElsewhere : governedElsewhere f.state.pools (· = id) m.device = false) :
      Effect f (.addPoolMember id m ctx) (.decision .ok)
        (f.setPool id (recomputePool { old with
          members := old.members ++ [m]
          generation := advance old.generation })).recomputeLedger
  | removePoolMember {id : PoolId} {d : DeviceId} {old : CxlPool} {ctx : AuthorityContext}
      (epoch : f.Authorized ctx) (present : f.state.pools[id]? = some old)
      (member : old.members.any (·.device = d) = true) :
      Effect f (.removePoolMember id d ctx) (.decision .ok)
        (f.setPool id (recomputePool { old with
          members := old.members.eraseP (·.device = d)
          generation := advance old.generation })).recomputeLedger
  | markDeviceRevalidation {d : DeviceId} {old : CxlDevice} {ctx : AuthorityContext}
      (epoch : f.Authorized ctx) (present : f.state.devices[d]? = some old)
      (valid : old.state.validTransition (.named .revalidationRequired) = true) :
      Effect f (.markDeviceRevalidation d ctx) (.decision .ok) (f.setDevice d { old with
        state := .named .revalidationRequired, evidenceCurrent := false })
  | markDeviceOnline {d : DeviceId} {old : CxlDevice} {ctx : AuthorityContext}
      (epoch : f.Authorized ctx) (present : f.state.devices[d]? = some old)
      (valid : old.state.validTransition (.named .online) = true) :
      Effect f (.markDeviceOnline d ctx) (.decision .ok) (f.setDevice d { old with
        state := .named .online, evidenceCurrent := true })
  | markRegionDraining {id : RegionId} {old : CxlRegion} {ctx : AuthorityContext}
      (epoch : f.Authorized ctx) (present : f.state.regions[id]? = some old)
      (valid : old.state.validTransition (.named .draining) = true) :
      Effect f (.markRegionDraining id ctx) (.decision .ok)
        (f.setRegion id { old with state := .named .draining })
  | markPoolDraining {id : PoolId} {old : CxlPool} {ctx : AuthorityContext}
      (epoch : f.Authorized ctx) (present : f.state.pools[id]? = some old)
      (valid : old.state.validTransition .draining = true) :
      Effect f (.markPoolDraining id ctx) (.decision .ok)
        (f.setPool id { old with state := .draining })
  | reconcilePool {id : PoolId} {old : CxlPool} {ctx : AuthorityContext}
      (epoch : f.Authorized ctx) (present : f.state.pools[id]? = some old) :
      Effect f (.reconcilePool id ctx) (.decision .ok)
        (f.setPool id (recomputePool old)).recomputeLedger
  | revalidatePool {id : PoolId} {old : CxlPool} {ctx : AuthorityContext}
      (epoch : f.Authorized ctx) (present : f.state.pools[id]? = some old)
      (valid : old.state.validTransition .available = true) :
      Effect f (.revalidatePool id ctx) (.decision .ok)
        (f.setPool id (recomputePool { old with
          state := .available
          evidenceCurrent := true
          healthSummary := .named .healthy })).recomputeLedger
  | revalidateRegion {id : RegionId} {old : CxlRegion} {ctx : AuthorityContext}
      (epoch : f.Authorized ctx) (present : f.state.regions[id]? = some old)
      (valid : old.state.validTransition (.named .online) = true) :
      Effect f (.revalidateRegion id ctx) (.decision .ok) (f.setRegion id { old with
        state := .named .online, evidenceCurrent := true, health := .named .healthy })
  | reserve {req : AdmissionRequest} {ctx : AuthorityContext} {c : Candidate} {pool : CxlPool}
      {region : CxlRegion} {dev : CxlDevice} (epoch : f.Authorized ctx)
      (admission : f.Admission req c pool region dev) :
      Effect f (.reserve req ctx)
        (.reservation { ok := true, reservation := f.newReservation req ctx c dev })
        (f.book req c pool region (f.newReservation req ctx c dev))
  | commit {id : ReservationId} {ctx : AuthorityContext} {res : Reservation} {pool : CxlPool}
      {region : CxlRegion} {dev : CxlDevice}
      (guarded : f.CommitGuard id ctx res pool region dev) :
      Effect f (.commit id ctx) (.reservation { ok := true, reservation := f.committedRecord res })
        (f.settle id res pool region)
  | release {id : ReservationId} {ctx : AuthorityContext} {res : Reservation}
      (guarded : f.ReleaseGuard id ctx res) (covered : f.uncovered res = false) :
      Effect f (.release id ctx) (.reservation { ok := true, reservation := releasedRecord res })
        (f.free id res)
  | conflict {id : ReservationId} {ctx : AuthorityContext} {res : Reservation}
      (guarded : f.ReleaseGuard id ctx res) (uncovered : f.uncovered res = true) :
      Effect f (.release id ctx) (.reservation { reason := .reservationConflict })
        (f.drainPoolOf res)
  | importPersisted (st : PersistedState) :
      Effect f (.importPersisted st) .done (f.importPersisted st)

theorem regionMemberError_ne_ok {f : Fabric} {pool : CxlPool} {ds : List DeviceId}
    {r : DecisionReason} (h : f.regionMemberError pool ds = some r) : r ≠ .ok := by
  obtain ⟨d, _, hd⟩ := List.exists_of_findSome?_eq_some h
  split at hd
  · cases hd
    decide
  · split at hd
    · cases hd
      decide
    · cases hd

theorem poolMemberError_ne_ok {f : Fabric} {seen : List DeviceId} {ms : List PoolMember}
    {r : DecisionReason} (h : f.poolMemberError seen ms = some r) : r ≠ .ok := by
  induction ms generalizing seen with
  | nil => cases h
  | cons m ms ih =>
    rw [poolMemberError] at h
    split at h
    · cases h
      decide
    split at h
    · cases h
      decide
    split at h
    · cases h
      decide
    exact ih h

theorem registerDevice_effect (f : Fabric) (dev : CxlDevice) (ctx : AuthorityContext) :
    f.Effect (.registerDevice dev ctx) (.decision (f.registerDevice dev ctx).2)
      (f.registerDevice dev ctx).1 := by
  unfold registerDevice
  split
  · exact .refused nofun rfl
  next hstale =>
  split
  · exact .refused nofun rfl
  next hnamed =>
  have hepoch : f.Authorized ctx := staleEpoch_eq_false.mp (by simpa using hstale)
  simp only [Bool.or_eq_true, not_or, Bool.not_eq_true, and_assoc] at hnamed
  split
  · next habsent => exact .registerDevice hepoch hnamed (fun d hd => by simp [habsent] at hd)
  next existing hexisting =>
  have hold {P : CxlDevice → Prop} (hP : P existing) (d : CxlDevice)
      (hd : f.state.devices[dev.id]? = some d) : P d := by
    rw [hexisting, Option.some.injEq] at hd
    exact hd ▸ hP
  split
  · next hgen =>
    split
    · exact .refused nofun rfl
    next hvendor =>
    split
    · exact .refused nofun rfl
    next hbytes =>
    exact .registerDevice hepoch hnamed
      (hold (P := fun d => Supersedes d dev) (.inl ⟨hgen, not_not.mp hvendor, not_not.mp hbytes⟩))
  next hgen =>
  split
  · exact .refused nofun rfl
  next hlt =>
  split
  · exact .refused nofun rfl
  next hvalid =>
  have hnew : existing.generation < dev.generation := lt_of_le_of_ne (not_lt.mp hlt) hgen
  exact .registerDevice hepoch hnamed
    (hold (P := fun d => Supersedes d dev) (.inr ⟨hnew, by simpa using hvalid⟩))

theorem createRegion_effect (f : Fabric) (region : CxlRegion) (ctx : AuthorityContext) :
    f.Effect (.createRegion region ctx) (.decision (f.createRegion region ctx).2)
      (f.createRegion region ctx).1 := by
  unfold createRegion
  split
  · exact .refused nofun rfl
  next hstale =>
  split
  · exact .refused nofun rfl
  next hnamed =>
  split
  · exact .refused nofun rfl
  next hfresh =>
  split
  · exact .refused nofun rfl
  next pool howner =>
  split
  · next hbad => exact .refused nofun (by simpa using regionMemberError_ne_ok hbad)
  next hmembers =>
  simp only [Bool.or_eq_true, not_or, Bool.not_eq_true, and_assoc] at hnamed
  exact .createRegion (staleEpoch_eq_false.mp (by simpa using hstale)) hnamed
    (by simpa using hfresh) howner hmembers

theorem updateRegion_effect (f : Fabric) (region : CxlRegion) (ctx : AuthorityContext) :
    f.Effect (.updateRegion region ctx) (.decision (f.updateRegion region ctx).2)
      (f.updateRegion region ctx).1 := by
  unfold updateRegion
  split
  · exact .refused nofun rfl
  next hstale =>
  split
  · exact .refused nofun rfl
  next old hold =>
  split
  · exact .refused nofun rfl
  next hgen =>
  exact .updateRegion (staleEpoch_eq_false.mp (by simpa using hstale)) hold (not_lt.mp hgen)

theorem reconfigureRegion_effect (f : Fabric) (id : RegionId) (ms : List DeviceId)
    (ctx : AuthorityContext) :
    f.Effect (.reconfigureRegion id ms ctx) (.reconfigured (f.reconfigureRegion id ms ctx).2)
      (f.reconfigureRegion id ms ctx).1 := by
  unfold reconfigureRegion
  split
  · exact .refused nofun rfl
  next hstale =>
  split
  · exact .refused nofun rfl
  next old hold =>
  split
  · exact .refused nofun rfl
  next hnext =>
  exact .reconfigureRegion (staleEpoch_eq_false.mp (by simpa using hstale)) hold
    (by simpa using hnext)

theorem createPool_effect (f : Fabric) (pool : CxlPool) (ctx : AuthorityContext) :
    f.Effect (.createPool pool ctx) (.decision (f.createPool pool ctx).2)
      (f.createPool pool ctx).1 := by
  unfold createPool
  split
  · exact .refused nofun rfl
  next hstale =>
  split
  · exact .refused nofun rfl
  next hnamed =>
  split
  · exact .refused nofun rfl
  next hfresh =>
  split
  · next hbad => exact .refused nofun (by simpa using poolMemberError_ne_ok hbad)
  next hmembers =>
  simp only [Bool.or_eq_true, not_or, Bool.not_eq_true] at hnamed
  exact .createPool (staleEpoch_eq_false.mp (by simpa using hstale)) hnamed
    (by simpa using hfresh) hmembers

theorem addPoolMember_effect (f : Fabric) (id : PoolId) (m : PoolMember)
    (ctx : AuthorityContext) :
    f.Effect (.addPoolMember id m ctx) (.decision (f.addPoolMember id m ctx).2)
      (f.addPoolMember id m ctx).1 := by
  unfold addPoolMember
  split
  · exact .refused nofun rfl
  next hstale =>
  split
  · exact .refused nofun rfl
  next old hold =>
  split
  · exact .refused nofun rfl
  next hregistered =>
  split
  · exact .refused nofun rfl
  next hnamed =>
  split
  · exact .refused nofun rfl
  next hhere =>
  split
  · exact .refused nofun rfl
  next helsewhere =>
  exact .addPoolMember (staleEpoch_eq_false.mp (by simpa using hstale)) hold
    (by simpa using hregistered) (by simpa using hnamed) (by simpa using hhere)
    (by simpa using helsewhere)

theorem removePoolMember_effect (f : Fabric) (id : PoolId) (d : DeviceId)
    (ctx : AuthorityContext) :
    f.Effect (.removePoolMember id d ctx) (.decision (f.removePoolMember id d ctx).2)
      (f.removePoolMember id d ctx).1 := by
  unfold removePoolMember
  split
  · exact .refused nofun rfl
  next hstale =>
  split
  · exact .refused nofun rfl
  next old hold =>
  split
  · exact .refused nofun rfl
  next hmember =>
  exact .removePoolMember (staleEpoch_eq_false.mp (by simpa using hstale)) hold
    (by simpa using hmember)

theorem markDevice_cases (f : Fabric) (d : DeviceId) (ctx : AuthorityContext)
    (target : DeviceState) (current : Bool) :
    ((f.markDevice d ctx target current).2 ≠ .ok ∧ (f.markDevice d ctx target current).1 = f) ∨
    ∃ old, f.Authorized ctx ∧ f.state.devices[d]? = some old ∧
      old.state.validTransition target = true ∧ f.markDevice d ctx target current =
        (f.setDevice d { old with state := target, evidenceCurrent := current }, .ok) := by
  unfold markDevice
  split
  · exact .inl ⟨nofun, rfl⟩
  next hstale =>
  split
  · exact .inl ⟨nofun, rfl⟩
  next old hold =>
  split
  · exact .inl ⟨nofun, rfl⟩
  next hvalid =>
  exact .inr ⟨old, staleEpoch_eq_false.mp (by simpa using hstale), hold, by simpa using hvalid, rfl⟩

theorem markRegion_cases (f : Fabric) (id : RegionId) (ctx : AuthorityContext)
    (target : RegionState) (write : CxlRegion → CxlRegion) :
    ((f.markRegion id ctx target write).2 ≠ .ok ∧ (f.markRegion id ctx target write).1 = f) ∨
    ∃ old, f.Authorized ctx ∧ f.state.regions[id]? = some old ∧
      old.state.validTransition target = true ∧ f.markRegion id ctx target write =
        (f.setRegion id (write { old with state := target }), .ok) := by
  unfold markRegion
  split
  · exact .inl ⟨nofun, rfl⟩
  next hstale =>
  split
  · exact .inl ⟨nofun, rfl⟩
  next old hold =>
  split
  · exact .inl ⟨nofun, rfl⟩
  next hvalid =>
  exact .inr ⟨old, staleEpoch_eq_false.mp (by simpa using hstale), hold, by simpa using hvalid, rfl⟩

theorem markDeviceRevalidation_effect (f : Fabric) (d : DeviceId) (ctx : AuthorityContext) :
    f.Effect (.markDeviceRevalidation d ctx) (.decision (f.markDeviceRevalidation d ctx).2)
      (f.markDeviceRevalidation d ctx).1 := by
  obtain ⟨hne, heq⟩ | ⟨old, hepoch, hold, hvalid, heq⟩ :=
    f.markDevice_cases d ctx (.named .revalidationRequired) false
  · simp only [markDeviceRevalidation, heq]
    exact .refused nofun (by simpa using hne)
  · simp only [markDeviceRevalidation, heq]
    exact .markDeviceRevalidation hepoch hold hvalid

theorem markDeviceOnline_effect (f : Fabric) (d : DeviceId) (ctx : AuthorityContext) :
    f.Effect (.markDeviceOnline d ctx) (.decision (f.markDeviceOnline d ctx).2)
      (f.markDeviceOnline d ctx).1 := by
  obtain ⟨hne, heq⟩ | ⟨old, hepoch, hold, hvalid, heq⟩ :=
    f.markDevice_cases d ctx (.named .online) true
  · simp only [markDeviceOnline, heq]
    exact .refused nofun (by simpa using hne)
  · simp only [markDeviceOnline, heq]
    exact .markDeviceOnline hepoch hold hvalid

theorem markRegionDraining_effect (f : Fabric) (id : RegionId) (ctx : AuthorityContext) :
    f.Effect (.markRegionDraining id ctx) (.decision (f.markRegionDraining id ctx).2)
      (f.markRegionDraining id ctx).1 := by
  obtain ⟨hne, heq⟩ | ⟨old, hepoch, hold, hvalid, heq⟩ :=
    f.markRegion_cases id ctx (.named .draining) (fun r => r)
  · simp only [markRegionDraining, heq]
    exact .refused nofun (by simpa using hne)
  · simp only [markRegionDraining, heq]
    exact .markRegionDraining hepoch hold hvalid

theorem revalidateRegion_effect (f : Fabric) (id : RegionId) (ctx : AuthorityContext) :
    f.Effect (.revalidateRegion id ctx) (.decision (f.revalidateRegion id ctx).2)
      (f.revalidateRegion id ctx).1 := by
  obtain ⟨hne, heq⟩ | ⟨old, hepoch, hold, hvalid, heq⟩ :=
    f.markRegion_cases id ctx (.named .online)
      (fun r => { r with evidenceCurrent := true, health := .named .healthy })
  · simp only [revalidateRegion, heq]
    exact .refused nofun (by simpa using hne)
  · simp only [revalidateRegion, heq]
    exact .revalidateRegion hepoch hold hvalid

theorem markPoolDraining_effect (f : Fabric) (id : PoolId) (ctx : AuthorityContext) :
    f.Effect (.markPoolDraining id ctx) (.decision (f.markPoolDraining id ctx).2)
      (f.markPoolDraining id ctx).1 := by
  unfold markPoolDraining
  split
  · exact .refused nofun rfl
  next hstale =>
  split
  · exact .refused nofun rfl
  next old hold =>
  split
  · exact .refused nofun rfl
  next hvalid =>
  exact .markPoolDraining (staleEpoch_eq_false.mp (by simpa using hstale)) hold
    (by simpa using hvalid)

theorem reconcilePool_effect (f : Fabric) (id : PoolId) (ctx : AuthorityContext) :
    f.Effect (.reconcilePool id ctx) (.decision (f.reconcilePool id ctx).2)
      (f.reconcilePool id ctx).1 := by
  unfold reconcilePool
  split
  · exact .refused nofun rfl
  next hstale =>
  split
  · exact .refused nofun rfl
  next old hold => exact .reconcilePool (staleEpoch_eq_false.mp (by simpa using hstale)) hold

theorem revalidatePool_effect (f : Fabric) (id : PoolId) (ctx : AuthorityContext) :
    f.Effect (.revalidatePool id ctx) (.decision (f.revalidatePool id ctx).2)
      (f.revalidatePool id ctx).1 := by
  unfold revalidatePool
  split
  · exact .refused nofun rfl
  next hstale =>
  split
  · exact .refused nofun rfl
  next old hold =>
  split
  · exact .refused nofun rfl
  next hvalid =>
  exact .revalidatePool (staleEpoch_eq_false.mp (by simpa using hstale)) hold
    (by simpa using hvalid)

theorem reserve_effect {f f' : Fabric} {req : AdmissionRequest} {ctx : AuthorityContext}
    {o : ReserveOutcome} (h : f.reserve req ctx = some (f', o)) :
    f.Effect (.reserve req ctx) (.reservation o) f' := by
  have refuse {r : DecisionReason} (hr : some (f, ({ reason := r } : ReserveOutcome)) = some (f', o)) :
      f.Effect (.reserve req ctx) (.reservation o) f' := by
    cases hr
    exact .refused nofun rfl
  unfold reserve at h
  split at h
  · exact refuse h
  next hstale =>
  split at h
  · exact refuse h
  next hbytes =>
  dsimp only at h
  split at h
  · exact refuse h
  next hsel =>
  split at h
  · next pool region dev hpool hregion hdev =>
    split at h
    · exact refuse h
    next hgen =>
    split at h
    · exact refuse h
    next hfree =>
    split at h
    · cases h
    next hroom =>
    cases h
    simp only [not_or, not_not] at hgen
    simp only [not_or, gt_iff_lt, UInt64.not_lt] at hfree
    exact .reserve (staleEpoch_eq_false.mp (by simpa using hstale))
      ⟨by simpa using hsel, rfl, hpool, hregion, hdev, hgen.1, hgen.2.1, hgen.2.2, hbytes,
        hfree.1, hfree.2, Nat.lt_of_not_le hroom⟩
  · exact refuse h

theorem commit_effect (f : Fabric) (id : ReservationId) (ctx : AuthorityContext) :
    f.Effect (.commit id ctx) (.reservation (f.commit id ctx).2) (f.commit id ctx).1 := by
  unfold commit
  split
  · exact .refused nofun rfl
  next res hres =>
  split
  · exact .refused nofun rfl
  next hstate =>
  split
  · exact .refused nofun rfl
  next hstale =>
  split
  · exact .refused nofun rfl
  next hcreated =>
  split
  · exact .refused nofun rfl
  next hworker =>
  split
  · next pool region dev hpool hregion hdev =>
    split
    · exact .refused nofun rfl
    next hpgen =>
    split
    · exact .refused nofun rfl
    next hrgen =>
    split
    · exact .refused nofun rfl
    next hdgen =>
    split
    · exact .refused nofun rfl
    next hcovered =>
    have hboot : ctx.workerBootId.empty = true ∨ ctx.workerBootId = res.workerBootId := by
      by_cases he : ctx.workerBootId.empty = true
      · exact .inl he
      · right
        simpa [he] using hworker
    exact .commit ⟨hres, not_not.mp hstate, staleEpoch_eq_false.mp (by simpa using hstale),
      not_not.mp hcreated, hboot, hpool, hregion, hdev, not_not.mp hpgen, not_not.mp hrgen,
      not_not.mp hdgen, UInt64.not_lt.mp hcovered⟩
  · exact .refused nofun rfl

theorem release_effect (f : Fabric) (id : ReservationId) (ctx : AuthorityContext) :
    f.Effect (.release id ctx) (.reservation (f.release id ctx).2) (f.release id ctx).1 := by
  unfold release
  split
  · exact .refused nofun rfl
  next res hres =>
  split
  · exact .refused nofun rfl
  split
  · exact .refused nofun rfl
  next hstale =>
  split
  · exact .refused nofun rfl
  next hlive =>
  have hguard : f.ReleaseGuard id ctx res :=
    ⟨hres, by tauto, staleEpoch_eq_false.mp (by simpa using hstale)⟩
  split
  · next huncovered => exact .conflict hguard huncovered
  · next hcovered => exact .release hguard (by simpa using hcovered)

/-- A completed operation does exactly one of the listed effects. -/
theorem exec_effect {f f' : Fabric} {op : Op} {out : Outcome} (h : f.exec op = some (f', out)) :
    f.Effect op out f' := by
  cases op with
  | setEpoch e => cases h; exact .setEpoch e
  | setPolicyGeneration p => cases h; exact .setPolicyGeneration p
  | advanceEvidenceGeneration => cases h; exact .advanceEvidenceGeneration
  | registerDevice dev ctx => cases h; exact f.registerDevice_effect dev ctx
  | createRegion region ctx => cases h; exact f.createRegion_effect region ctx
  | updateRegion region ctx => cases h; exact f.updateRegion_effect region ctx
  | reconfigureRegion id ms ctx => cases h; exact f.reconfigureRegion_effect id ms ctx
  | createPool pool ctx => cases h; exact f.createPool_effect pool ctx
  | addPoolMember id m ctx => cases h; exact f.addPoolMember_effect id m ctx
  | removePoolMember id d ctx => cases h; exact f.removePoolMember_effect id d ctx
  | markDeviceRevalidation d ctx => cases h; exact f.markDeviceRevalidation_effect d ctx
  | markDeviceOnline d ctx => cases h; exact f.markDeviceOnline_effect d ctx
  | markRegionDraining id ctx => cases h; exact f.markRegionDraining_effect id ctx
  | markPoolDraining id ctx => cases h; exact f.markPoolDraining_effect id ctx
  | reconcilePool id ctx => cases h; exact f.reconcilePool_effect id ctx
  | revalidatePool id ctx => cases h; exact f.revalidatePool_effect id ctx
  | revalidateRegion id ctx => cases h; exact f.revalidateRegion_effect id ctx
  | reserve req ctx =>
    obtain ⟨⟨g, o⟩, hr, heq⟩ := Option.map_eq_some_iff.mp h
    cases heq
    exact reserve_effect hr
  | commit id ctx => cases h; exact f.commit_effect id ctx
  | release id ctx => cases h; exact f.release_effect id ctx
  | importPersisted st => cases h; exact .importPersisted st

end Fabric

end CxlFabric
