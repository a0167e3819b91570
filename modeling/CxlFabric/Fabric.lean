import CxlFabric.Lifecycle
import CxlFabric.Selection

/-! # The governance engine

Each public operation of the engine runs under one mutex, so it is a function of the
state. Operations that mutate before a failing return are modelled with that mutation.
The `const` member functions leave the state alone. -/
namespace CxlFabric

structure Fabric where
  state : StateSnapshot := {}
  sequence : UInt64 := 0
  deriving DecidableEq

structure ReserveOutcome where
  ok : Bool := false
  reason : DecisionReason := .ok
  reservation : Reservation := {}
  deriving DecidableEq

structure ReconfigureOutcome where
  ok : Bool := false
  reason : DecisionReason := .ok
  newGeneration : RegionGeneration := {}
  deriving DecidableEq

/-- One pool's contribution to the ledger; the first sum that would overflow skips the rest. -/
def addToLedger (g : CapacityLine) (p : CxlPool) : CapacityLine :=
  if p.state = .retired then g else
  match addChecked g.total p.totalGovernedBytes with
  | none => g
  | some t => let g := { g with total := t }
  match addChecked g.online p.totalGovernedBytes with
  | none => g
  | some t => let g := { g with online := t }
  match addChecked g.unavailable p.unavailableBytes with
  | none => g
  | some t => let g := { g with unavailable := t }
  match addChecked g.reserved p.reservedBytes with
  | none => g
  | some t => let g := { g with reserved := t }
  match addChecked g.committed p.committedBytes with
  | none => g
  | some t => let g := { g with committed := t }
  match addChecked g.draining p.drainingBytes with
  | none => g
  | some t => { g with draining := t }

def recomputeGlobal (pools : Map PoolId CxlPool) : CapacityLine :=
  pools.toList.foldl (fun g pk => addToLedger g pk.2) {}

/-- The running totals of `recompute_pool_locked` and the distinct failure domains. -/
structure MemberTotals where
  total : ByteCount := 0
  unavailable : ByteCount := 0
  domains : List Str := []

def addMember (acc : MemberTotals) (m : PoolMember) : MemberTotals :=
  if !m.online then acc else
  { total := (addChecked acc.total m.nominalBytes).getD acc.total
    unavailable := if m.healthOk then acc.unavailable
      else (addChecked acc.unavailable m.nominalBytes).getD acc.unavailable
    domains := if m.failureDomain.isEmpty || m.failureDomain ∈ acc.domains then acc.domains
      else acc.domains ++ [m.failureDomain] }

def recomputePool (pool : CxlPool) : CxlPool :=
  let acc := pool.members.foldl addMember {}
  { pool with
    totalGovernedBytes := acc.total
    unavailableBytes := acc.unavailable
    failureDomains := acc.domains }

/-- Keep the old generation where the successor is empty. -/
def advance {t : GenTag} (g : Generation t) : Generation t := if g.next.empty then g else g.next

namespace Fabric

def new (epoch : CoordinatorEpoch) (policy : PolicyGeneration) : Fabric where
  state := { coordinatorEpoch := epoch, policyGeneration := policy }

@[simps] def setDevice (f : Fabric) (id : DeviceId) (d : CxlDevice) : Fabric :=
  { f with state.devices := f.state.devices.insert id d }

@[simps] def setRegion (f : Fabric) (id : RegionId) (r : CxlRegion) : Fabric :=
  { f with state.regions := f.state.regions.insert id r }

@[simps] def setPool (f : Fabric) (id : PoolId) (p : CxlPool) : Fabric :=
  { f with state.pools := f.state.pools.insert id p }

@[simps] def recomputeLedger (f : Fabric) : Fabric :=
  { f with state.globalLedger := recomputeGlobal f.state.pools }

@[simps] def setEpoch (f : Fabric) (e : CoordinatorEpoch) : Fabric :=
  { f with state.coordinatorEpoch := e }

@[simps] def setPolicyGeneration (f : Fabric) (p : PolicyGeneration) : Fabric :=
  { f with state.policyGeneration := p }

@[simps] def advanceEvidenceGeneration (f : Fabric) : Fabric :=
  { f with state.evidenceGeneration := advance f.state.evidenceGeneration }

/-- `ctx.coordinator_epoch != state_.coordinator_epoch`. -/
def staleEpoch (f : Fabric) (ctx : AuthorityContext) : Bool :=
  ctx.coordinatorEpoch ≠ f.state.coordinatorEpoch

def registerDevice (f : Fabric) (dev : CxlDevice) (ctx : AuthorityContext) :
    Fabric × DecisionReason :=
  if f.staleEpoch ctx then (f, .reservationStale)
  else if dev.id.empty || dev.generation.empty || dev.bootId.empty then (f, .invalidArgument)
  else match f.state.devices[dev.id]? with
    | none => (f.setDevice dev.id dev, .ok)
    | some existing =>
      if existing.generation = dev.generation then
        if existing.vendorDeviceId ≠ dev.vendorDeviceId then (f, .conflictingFacts)
        else if existing.totalPhysicalBytes ≠ dev.totalPhysicalBytes then (f, .conflictingFacts)
        else (f.setDevice dev.id dev, .ok)
      else if dev.generation < existing.generation then (f, .deviceStale)
      else if !existing.state.validTransition dev.state then (f, .invalidArgument)
      else (f.setDevice dev.id dev, .ok)

/-- The first member device of a region that is unregistered or outside the owning pool. -/
def regionMemberError (f : Fabric) (pool : CxlPool) (members : List DeviceId) :
    Option DecisionReason :=
  members.findSome? fun d =>
    if !f.state.devices.contains d then some .deviceNotOnline
    else if !pool.members.any (·.device = d) then some .conflictingFacts
    else none

def createRegion (f : Fabric) (region : CxlRegion) (ctx : AuthorityContext) :
    Fabric × DecisionReason :=
  if f.staleEpoch ctx then (f, .reservationStale)
  else if region.id.empty || region.generation.empty || region.pool.empty then
    (f, .invalidArgument)
  else if f.state.regions.contains region.id then (f, .duplicateIdentity)
  else match f.state.pools[region.pool]? with
    | none => (f, .poolStale)
    | some pool => match f.regionMemberError pool region.memberDevices with
      | some reason => (f, reason)
      | none => (f.setRegion region.id region, .ok)

def updateRegion (f : Fabric) (region : CxlRegion) (ctx : AuthorityContext) :
    Fabric × DecisionReason :=
  if f.staleEpoch ctx then (f, .reservationStale)
  else match f.state.regions[region.id]? with
    | none => (f, .regionStale)
    | some existing =>
      if region.generation < existing.generation then (f, .regionStale)
      else (f.setRegion region.id region, .ok)

def reconfigureRegion (f : Fabric) (id : RegionId) (newMembers : List DeviceId)
    (ctx : AuthorityContext) : Fabric × ReconfigureOutcome :=
  if f.staleEpoch ctx then (f, { reason := .reservationStale })
  else match f.state.regions[id]? with
    | none => (f, { reason := .regionStale })
    | some region =>
      if region.generation.next.empty then (f, { reason := .invalidArgument })
      else
        (f.setRegion id { region with
          generation := region.generation.next
          memberDevices := newMembers
          state := .named .reconfiguring
          evidenceCurrent := false }, { ok := true, newGeneration := region.generation.next })

def governedElsewhere (pools : Map PoolId CxlPool) (skip : PoolId → Bool) (d : DeviceId) : Bool :=
  pools.toList.any fun pk => !skip pk.1 && pk.2.members.any (·.device = d)

/-- The first member of a new pool that is unregistered, repeated or governed already. -/
def poolMemberError (f : Fabric) : List DeviceId → List PoolMember → Option DecisionReason
  | _, [] => none
  | seen, m :: ms =>
    if !f.state.devices.contains m.device then some .deviceNotOnline
    else if m.device ∈ seen then some .duplicateIdentity
    else if governedElsewhere f.state.pools (fun _ => false) m.device then some .conflictingFacts
    else poolMemberError f (seen ++ [m.device]) ms

def createPool (f : Fabric) (pool : CxlPool) (ctx : AuthorityContext) : Fabric × DecisionReason :=
  if f.staleEpoch ctx then (f, .reservationStale)
  else if pool.id.empty || pool.generation.empty then (f, .invalidArgument)
  else if f.state.pools.contains pool.id then (f, .duplicateIdentity)
  else match f.poolMemberError [] pool.members with
    | some reason => (f, reason)
    | none =>
      ((f.setPool pool.id { recomputePool pool with
        state := .available, evidenceCurrent := true }).recomputeLedger, .ok)

def addPoolMember (f : Fabric) (poolId : PoolId) (member : PoolMember) (ctx : AuthorityContext) :
    Fabric × DecisionReason :=
  if f.staleEpoch ctx then (f, .reservationStale)
  else match f.state.pools[poolId]? with
    | none => (f, .poolStale)
    | some pool =>
      if !f.state.devices.contains member.device then (f, .deviceNotOnline)
      else if member.deviceGeneration.empty then (f, .invalidArgument)
      else if pool.members.any (·.device = member.device) then (f, .duplicateIdentity)
      else if governedElsewhere f.state.pools (· = poolId) member.device then (f, .conflictingFacts)
      else ((f.setPool poolId (recomputePool { pool with
        members := pool.members ++ [member]
        generation := advance pool.generation })).recomputeLedger, .ok)

def removePoolMember (f : Fabric) (poolId : PoolId) (device : DeviceId) (ctx : AuthorityContext) :
    Fabric × DecisionReason :=
  if f.staleEpoch ctx then (f, .reservationStale)
  else match f.state.pools[poolId]? with
    | none => (f, .poolStale)
    | some pool =>
      if !pool.members.any (·.device = device) then (f, .deviceNotOnline)
      else ((f.setPool poolId (recomputePool { pool with
        members := pool.members.eraseP (·.device = device)
        generation := advance pool.generation })).recomputeLedger, .ok)

/-- The two device marks: a validated transition together with the evidence it leaves. -/
def markDevice (f : Fabric) (d : DeviceId) (ctx : AuthorityContext) (target : DeviceState)
    (current : Bool) : Fabric × DecisionReason :=
  if f.staleEpoch ctx then (f, .reservationStale)
  else match f.state.devices[d]? with
    | none => (f, .deviceNotOnline)
    | some dev =>
      if !dev.state.validTransition target then (f, .invalidArgument)
      else (f.setDevice d { dev with state := target, evidenceCurrent := current }, .ok)

def markDeviceRevalidation (f : Fabric) (d : DeviceId) (ctx : AuthorityContext) :
    Fabric × DecisionReason := f.markDevice d ctx (.named .revalidationRequired) false

def markDeviceOnline (f : Fabric) (d : DeviceId) (ctx : AuthorityContext) :
    Fabric × DecisionReason := f.markDevice d ctx (.named .online) true

/-- A validated region transition followed by the writes particular to the operation. -/
def markRegion (f : Fabric) (id : RegionId) (ctx : AuthorityContext) (target : RegionState)
    (write : CxlRegion → CxlRegion) : Fabric × DecisionReason :=
  if f.staleEpoch ctx then (f, .reservationStale)
  else match f.state.regions[id]? with
    | none => (f, .regionStale)
    | some region =>
      if !region.state.validTransition target then (f, .invalidArgument)
      else (f.setRegion id (write { region with state := target }), .ok)

def markRegionDraining (f : Fabric) (id : RegionId) (ctx : AuthorityContext) :
    Fabric × DecisionReason := f.markRegion id ctx (.named .draining) (fun r => r)

def revalidateRegion (f : Fabric) (id : RegionId) (ctx : AuthorityContext) :
    Fabric × DecisionReason :=
  f.markRegion id ctx (.named .online)
    (fun r => { r with evidenceCurrent := true, health := .named .healthy })

def markPoolDraining (f : Fabric) (id : PoolId) (ctx : AuthorityContext) :
    Fabric × DecisionReason :=
  if f.staleEpoch ctx then (f, .reservationStale)
  else match f.state.pools[id]? with
    | none => (f, .poolStale)
    | some pool =>
      if !pool.state.validTransition .draining then (f, .invalidArgument)
      else (f.setPool id { pool with state := .draining }, .ok)

def reconcilePool (f : Fabric) (id : PoolId) (ctx : AuthorityContext) : Fabric × DecisionReason :=
  if f.staleEpoch ctx then (f, .reservationStale)
  else match f.state.pools[id]? with
    | none => (f, .poolStale)
    | some pool => ((f.setPool id (recomputePool pool)).recomputeLedger, .ok)

def revalidatePool (f : Fabric) (id : PoolId) (ctx : AuthorityContext) :
    Fabric × DecisionReason :=
  if f.staleEpoch ctx then (f, .reservationStale)
  else match f.state.pools[id]? with
    | none => (f, .poolStale)
    | some pool =>
      if !pool.state.validTransition .available then (f, .invalidArgument)
      else ((f.setPool id (recomputePool { pool with
        state := .available
        evidenceCurrent := true
        healthSummary := .named .healthy })).recomputeLedger, .ok)

/-- Selection sees the capacity-bearing records only. -/
def selectionSnapshot (f : Fabric) : StateSnapshot := { f.state with reservations := ∅ }

def select (f : Fabric) (req : AdmissionRequest) : SelectionOutcome :=
  buildSelection f.selectionSnapshot req

/-- The identity of the n-th reservation. -/
def reservationId (n : UInt64) : ReservationId := ⟨str "res-" ++ str (decimal n)⟩

/-- No `std::map` holds more elements than its difference type can count; one more
insertion throws. -/
def maxReservations : ℕ := 2 ^ 63 - 1

/-- The record a successful reserve stores for the chosen candidate. -/
def newReservation (f : Fabric) (req : AdmissionRequest) (ctx : AuthorityContext) (c : Candidate)
    (dev : CxlDevice) : Reservation where
  id := reservationId (f.sequence + 1)
  consumer := req.consumer
  consumerGeneration := ctx.consumerGeneration
  pool := c.pool
  poolGeneration := c.poolGeneration
  region := c.region
  regionGeneration := c.regionGeneration
  device := c.device
  deviceGeneration := c.deviceGeneration
  deviceBootId := dev.bootId
  bytes := req.bytes
  state := .reserved
  createdEpoch := f.state.coordinatorEpoch
  workerBootId := ctx.workerBootId
  evidenceCurrentAtReserve := dev.evidenceCurrent

/-- The state a successful reserve leaves. `emplace` keeps an entry that is already there. -/
def book (f : Fabric) (req : AdmissionRequest) (c : Candidate) (pool : CxlPool)
    (region : CxlRegion) (res : Reservation) : Fabric :=
  let g := (f.setPool c.pool { pool with reservedBytes := pool.reservedBytes + req.bytes }
    |>.setRegion c.region { region with reservedBytes := region.reservedBytes + req.bytes }
    |>.recomputeLedger)
  { g with
    sequence := f.sequence + 1
    state.reservations := f.state.reservations.insertIfNew res.id res }

/-- `none` when storing the reservation throws. -/
def reserve (f : Fabric) (req : AdmissionRequest) (ctx : AuthorityContext) :
    Option (Fabric × ReserveOutcome) :=
  if f.staleEpoch ctx then some (f, { reason := .reservationStale })
  else if req.bytes = 0 then some (f, { reason := .invalidArgument })
  else
    let sel := buildSelection f.selectionSnapshot req
    if !sel.ok then some (f, { reason := sel.result.reason })
    else
      let c := sel.chosen
      match f.state.pools[c.pool]?, f.state.regions[c.region]?, f.state.devices[c.device]? with
      | some pool, some region, some dev =>
        if pool.generation ≠ c.poolGeneration ∨ region.generation ≠ c.regionGeneration ∨
            dev.generation ≠ c.deviceGeneration then
          some (f, { reason := .poolGenerationStale })
        else if req.bytes > poolFree pool ∨ req.bytes > regionFree region then
          some (f, { reason := .capacityOvercommit })
        else if maxReservations ≤ f.state.reservations.size then none
        else
          let res := f.newReservation req ctx c dev
          some (f.book req c pool region res, { ok := true, reason := .ok, reservation := res })
      | _, _, _ => some (f, { reason := .unknownError })

@[simps] def setReservation (f : Fabric) (id : ReservationId) (res : Reservation) : Fabric :=
  { f with state.reservations := f.state.reservations.insert id res }

/-- The record a successful commit stores. -/
def committedRecord (f : Fabric) (res : Reservation) : Reservation :=
  { res with state := .committed, commitEpoch := f.state.coordinatorEpoch }

/-- The state a successful commit leaves. -/
def settle (f : Fabric) (id : ReservationId) (res : Reservation) (pool : CxlPool)
    (region : CxlRegion) : Fabric :=
  f.setPool res.pool { pool with
      reservedBytes := pool.reservedBytes - res.bytes
      committedBytes := pool.committedBytes + res.bytes }
    |>.setRegion res.region { region with
      reservedBytes := region.reservedBytes - res.bytes
      committedBytes := region.committedBytes + res.bytes }
    |>.setReservation id (f.committedRecord res)
    |>.recomputeLedger

def commit (f : Fabric) (id : ReservationId) (ctx : AuthorityContext) : Fabric × ReserveOutcome :=
  match f.state.reservations[id]? with
  | none => (f, { reason := .reservationStale })
  | some res =>
    if res.state ≠ .reserved then (f, { reason := .reservationStale })
    else if f.staleEpoch ctx then (f, { reason := .reservationStale })
    else if res.createdEpoch ≠ f.state.coordinatorEpoch then (f, { reason := .reservationStale })
    else if !ctx.workerBootId.empty && ctx.workerBootId ≠ res.workerBootId then
      (f, { reason := .reservationStale })
    else match f.state.pools[res.pool]?, f.state.regions[res.region]?,
        f.state.devices[res.device]? with
      | some pool, some region, some dev =>
        if pool.generation ≠ res.poolGeneration then (f, { reason := .poolGenerationStale })
        else if region.generation ≠ res.regionGeneration then (f, { reason := .regionStale })
        else if dev.generation ≠ res.deviceGeneration then (f, { reason := .deviceStale })
        else if res.bytes > pool.reservedBytes then (f, { reason := .capacityOvercommit })
        else
          (f.settle id res pool region,
            { ok := true, reason := .ok, reservation := f.committedRecord res })
      | _, _, _ => (f, { reason := .poolGenerationStale })

/-- The counters of one record after a release: committed bytes are drained first, then
reserved ones if they cover the remainder. -/
structure Drained where
  committed : ByteCount
  reserved : ByteCount
  remaining : ByteCount

def drain (bytes committed reserved : ByteCount) : Drained :=
  let take := if bytes > 0 ∧ committed > 0 then (if bytes < committed then bytes else committed)
    else 0
  let remaining := bytes - take
  if remaining > 0 ∧ remaining ≤ reserved then ⟨committed - take, reserved - remaining, 0⟩
  else ⟨committed - take, reserved, remaining⟩

def drainPool (pool : CxlPool) (bytes : ByteCount) : CxlPool :=
  let d := drain bytes pool.committedBytes pool.reservedBytes
  { pool with committedBytes := d.committed, reservedBytes := d.reserved }

def drainRegion (region : CxlRegion) (bytes : ByteCount) : CxlRegion :=
  let d := drain bytes region.committedBytes region.reservedBytes
  { region with committedBytes := d.committed, reservedBytes := d.reserved }

/-- The pool's counters do not cover the reservation. -/
def uncovered (f : Fabric) (res : Reservation) : Bool :=
  match f.state.pools[res.pool]? with
  | none => false
  | some pool => (drain res.bytes pool.committedBytes pool.reservedBytes).remaining ≠ 0

def drainPoolOf (f : Fabric) (res : Reservation) : Fabric :=
  match f.state.pools[res.pool]? with
  | none => f
  | some pool => f.setPool res.pool (drainPool pool res.bytes)

def drainRegionOf (f : Fabric) (res : Reservation) : Fabric :=
  match f.state.regions[res.region]? with
  | none => f
  | some region => f.setRegion res.region (drainRegion region res.bytes)

def releasedRecord (res : Reservation) : Reservation := { res with state := .released }

/-- The state a successful release leaves. -/
def free (f : Fabric) (id : ReservationId) (res : Reservation) : Fabric :=
  ((f.drainPoolOf res).drainRegionOf res).setReservation id (releasedRecord res) |>.recomputeLedger

def release (f : Fabric) (id : ReservationId) (ctx : AuthorityContext) : Fabric × ReserveOutcome :=
  match f.state.reservations[id]? with
  | none => (f, { reason := .reservationStale })
  | some res =>
    if res.state = .released then (f, { reason := .reservationStale })
    else if f.staleEpoch ctx then (f, { reason := .reservationStale })
    else if res.state ≠ .committed ∧ res.state ≠ .reserved then (f, { reason := .reservationStale })
    -- The pool has been drained already when the remainder is found not to be covered.
    else if f.uncovered res then (f.drainPoolOf res, { reason := .reservationConflict })
    else (f.free id res, { ok := true, reason := .ok, reservation := releasedRecord res })

def exportPersisted (f : Fabric) : PersistedState where
  policyGeneration := f.state.policyGeneration
  devices := f.state.devices
  regions := f.state.regions
  pools := f.state.pools

def importedDevice (d : CxlDevice) : CxlDevice :=
  { d with
    evidenceCurrent := false, state := .named .revalidationRequired, health := .named .unknown }

def importedRegion (r : CxlRegion) : CxlRegion :=
  { r with evidenceCurrent := false, state := .named .revalidationRequired }

def importedPool (p : CxlPool) : CxlPool :=
  { p with evidenceCurrent := false, state := .revalidationRequired }

/-- Reservations are dropped and nothing dynamic is current; the epoch, the evidence
generation and the sequence counter stay. -/
def importPersisted (f : Fabric) (st : PersistedState) : Fabric :=
  recomputeLedger { f with
    state.policyGeneration := st.policyGeneration
    state.devices := st.devices.map fun _ d => importedDevice d
    state.regions := st.regions.map fun _ r => importedRegion r
    state.pools := st.pools.map fun _ p => importedPool p
    state.reservations := ∅ }

end Fabric

end CxlFabric
