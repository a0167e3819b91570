import CxlFabric.Accounting

/-! # Candidate evaluation and deterministic selection

A candidate is a generation-bound triple of pool, region and device. Hard constraints
reject with a reason and a named factor; the survivors are ranked by a stable sort and
the first one is chosen. -/
namespace CxlFabric

/-- The records are pointers in the source; `none` is the null pointer. -/
structure Candidate where
  pool : PoolId := {}
  poolGeneration : PoolGeneration := {}
  region : RegionId := {}
  regionGeneration : RegionGeneration := {}
  device : DeviceId := {}
  deviceGeneration : DeviceGeneration := {}
  availableBytes : ByteCount := 0
  deviceRecord : Option CxlDevice := none
  regionRecord : Option CxlRegion := none
  poolRecord : Option CxlPool := none
  deriving DecidableEq

structure SelectionFactor where
  name : Str
  pass : Bool := true
  detail : Str
  deriving DecidableEq

structure SelectionResult where
  selected : Bool := false
  reason : DecisionReason := .ok
  pool : Str := []
  region : Str := []
  device : Str := []
  locality : Str := []
  freeBytes : ByteCount := 0
  health : HealthState := .named .unknown
  evidenceCurrent : Bool := false
  rejections : List DecisionReason := []
  factors : List SelectionFactor := []
  explanation : Str := []
  deriving DecidableEq

/-- Locality ordinal for deterministic ranking (lower is more local). -/
def localityOrdinal : LocalityClass → ℕ
  | .named .directLocal => 0
  | .named .sameHost => 1
  | .named .sameNumaDomain => 2
  | .named .remoteNumaDomain => 3
  | .named .sameCxlRoot => 4
  | .named .sameSwitch => 5
  | .named .switchRemote => 6
  | .named .multiHopCxl => 7
  | .named .crossHost => 8
  | .named .unknown => 9
  | .undeclared _ _ => 9

def localitySatisfies (offered need : LocalityClass) : Bool :=
  localityOrdinal offered ≤ localityOrdinal need

/-- Every rejection records its reason once as the result and once in the list. -/
def SelectionResult.reject (r : SelectionResult) (reason : DecisionReason)
    (factors : List SelectionFactor) : SelectionResult :=
  { r with
    selected := false
    reason := reason
    rejections := r.rejections ++ [reason]
    factors := r.factors ++ factors }

def failing (name : String) (detail : Str) : List SelectionFactor := [⟨str name, false, detail⟩]

def passing (name : String) (detail : Str) : List SelectionFactor := [⟨str name, true, detail⟩]

def unacceptableHealth (h : HealthState) : Bool := h = .named .failed || h = .named .poisoned

/-- The outcome of a candidate that met every hard constraint. -/
def passedResult (r : SelectionResult) (c : Candidate) (dev : CxlDevice) (reg : CxlRegion)
    (pool : CxlPool) : SelectionResult :=
  { r with
    selected := true
    reason := .ok
    pool := pool.id.value
    region := reg.id.value
    device := dev.id.value
    locality := str dev.economics.locality.toText
    freeBytes := c.availableBytes
    health := dev.health
    evidenceCurrent := dev.evidenceCurrent
    factors := r.factors ++ passing "locality" (str dev.economics.locality.toText) ++
      passing "capacity" (str (decimal c.availableBytes)) ++
      passing "failure_domain"
        (if dev.economics.notes.isEmpty then str "n/a" else dev.economics.notes) ++
      (if dev.economics.estimatedLatencyNs > 0 then
        passing "latency" (str (decimal dev.economics.estimatedLatencyNs) ++ str "ns") else []) ++
      (if dev.economics.estimatedBandwidthMbps > 0 then
        passing "bandwidth" (str (decimal dev.economics.estimatedBandwidthMbps) ++ str "MB/s")
        else []) }

/-- The hard constraints in their fixed order, on a candidate with all three records. -/
def evaluateRecords (r : SelectionResult) (c : Candidate) (dev : CxlDevice) (reg : CxlRegion)
    (pool : CxlPool) (req : AdmissionRequest) (poolEvidenceCurrent : Bool) : SelectionResult :=
  if !dev.evidenceCurrent || !reg.evidenceCurrent || !poolEvidenceCurrent then
    r.reject .evidenceStale (failing "evidence_current" (str "stale"))
  else if dev.state ≠ .named .online then
    r.reject .deviceNotOnline (failing "device_state" (str dev.state.toText))
  else if reg.state ≠ .named .online then
    r.reject .regionNotOnline (failing "region_state" (str reg.state.toText))
  else if pool.state ≠ .available ∧ pool.state ≠ .defined then
    r.reject .poolStale (failing "pool_state" (str pool.state.toText))
  else if dev.state = .named .draining then
    r.reject .draining (failing "device_draining" (str "true"))
  else if dev.state = .named .failed ∨ reg.state = .named .failed then
    r.reject .failed (failing "device_failed" (str "true"))
  else if dev.state = .named .revalidationRequired ∨ reg.state = .named .revalidationRequired ∨
      pool.state = .revalidationRequired then
    r.reject .revalidationRequired (failing "revalidation_required" (str "true"))
  else if unacceptableHealth dev.health || unacceptableHealth reg.health ||
      unacceptableHealth pool.healthSummary then
    r.reject .healthUnacceptable (failing "health" (str dev.health.toText))
  else if c.availableBytes < req.bytes then
    r.reject .capacityInsufficient (failing "capacity" (str (decimal c.availableBytes)))
  else if req.requirePersistence = true ∧ dev.volatility ≠ .named .persistent then
    r.reject .volatilityMismatch (failing "volatility" (str dev.volatility.toText))
  else if req.volatility ≠ .named .unknown ∧ dev.volatility ≠ .named .unknown ∧
      req.volatility ≠ dev.volatility then
    r.reject .volatilityMismatch (failing "volatility" (str dev.volatility.toText))
  else if req.host.empty = false ∧ dev.host.empty = false ∧ req.host ≠ dev.host then
    r.reject .hostIncompatible (failing "host" dev.host.value)
  else if req.sharing ≠ .named .unknown ∧ dev.sharing ≠ .named .unknown ∧
      req.sharing ≠ dev.sharing then
    r.reject .sharingMismatch (failing "sharing" (str dev.sharing.toText))
  else if req.requiredPool.any (· ≠ pool.id) then
    r.reject .poolStale (failing "required_pool" pool.id.value)
  else if req.minimumLocality.any (!localitySatisfies dev.economics.locality ·) then
    r.reject .requiredLocalityUnsatisfied
      (failing "locality" (str dev.economics.locality.toText))
  else if req.requiredTier.any (reg.tier ≠ ·) then
    r.reject .policyDenied (failing "tier" (str reg.tier.toText))
  else if req.acceleratorAccess.any (· ≠ dev.acceleratorAccess) then
    r.reject .acceleratorAccessUnsatisfied
      (failing "accelerator_access" (str dev.acceleratorAccess.toText))
  else if req.minimumBandwidthMbps > 0 ∧ dev.economics.estimatedBandwidthMbps ≠ 0 ∧
      dev.economics.estimatedBandwidthMbps < req.minimumBandwidthMbps then
    r.reject .policyDenied
      (failing "bandwidth" (str (decimal dev.economics.estimatedBandwidthMbps)))
  else if req.maximumLatencyNs > 0 ∧ dev.economics.estimatedLatencyNs ≠ 0 ∧
      dev.economics.estimatedLatencyNs > req.maximumLatencyNs then
    r.reject .policyDenied (failing "latency" (str (decimal dev.economics.estimatedLatencyNs)))
  else passedResult r c dev reg pool

def evaluateCandidate (c : Candidate) (req : AdmissionRequest) (poolEvidenceCurrent : Bool) :
    SelectionResult :=
  let r : SelectionResult :=
    { selected := true
      factors := passing "pool" c.pool.value ++ passing "region" c.region.value ++
        passing "device" c.device.value }
  match c.deviceRecord, c.regionRecord, c.poolRecord with
  | some dev, some reg, some pool => evaluateRecords r c dev reg pool req poolEvidenceCurrent
  | _, _, _ => r.reject .unknownError []

/-- A view of the governed state. -/
structure StateSnapshot where
  coordinatorEpoch : CoordinatorEpoch := {}
  policyGeneration : PolicyGeneration := {}
  devices : Map DeviceId CxlDevice := ∅
  regions : Map RegionId CxlRegion := ∅
  pools : Map PoolId CxlPool := ∅
  reservations : Map ReservationId Reservation := ∅
  evidenceGeneration : EvidenceGeneration := {}
  globalLedger : CapacityLine := {}
  deriving DecidableEq

structure SelectionOutcome where
  ok : Bool := false
  chosen : Candidate := {}
  result : SelectionResult := {}
  candidates : List SelectionResult := []
  deriving DecidableEq

def mkCandidate (pool : CxlPool) (region : CxlRegion) (dev : CxlDevice) : Candidate where
  pool := pool.id
  poolGeneration := pool.generation
  region := region.id
  regionGeneration := region.generation
  device := dev.id
  deviceGeneration := dev.generation
  availableBytes := regionFree region
  deviceRecord := some dev
  regionRecord := some region
  poolRecord := some pool

section constraints
variable {dev : CxlDevice} {reg : CxlRegion} {pool : CxlPool} {req : AdmissionRequest}

theorem reject_or_selected {p : Prop} [Decidable p] (r s : SelectionResult)
    (reason : DecisionReason) (factors : List SelectionFactor) :
    (if p then r.reject reason factors else s).selected = true ↔ ¬p ∧ s.selected = true := by
  split <;> simp [SelectionResult.reject, *]

theorem option_any_eq_false {α : Type*} (p : α → Bool) (o : Option α) :
    o.any p = false ↔ ∀ a ∈ o, p a = false := by
  cases o <;> simp

/-- The three records carry current evidence and are in a state and a health that admits. -/
@[mk_iff] structure InService (dev : CxlDevice) (reg : CxlRegion) (pool : CxlPool) : Prop where
  deviceEvidence : dev.evidenceCurrent = true
  regionEvidence : reg.evidenceCurrent = true
  poolEvidence : pool.evidenceCurrent = true
  deviceState : dev.state = .named .online
  regionState : reg.state = .named .online
  poolState : pool.state ≠ .available → pool.state = .defined
  deviceHealth : unacceptableHealth dev.health = false
  regionHealth : unacceptableHealth reg.health = false
  poolHealth : unacceptableHealth pool.healthSummary = false

/-- What a request asks of the device. An unknown or empty value neither asks nor refuses. -/
@[mk_iff] structure DeviceSuits (dev : CxlDevice) (req : AdmissionRequest) : Prop where
  persistence : req.requirePersistence = true → dev.volatility = .named .persistent
  volatility : req.volatility ≠ .named .unknown → dev.volatility ≠ .named .unknown →
    req.volatility = dev.volatility
  host : req.host.empty = false → dev.host.empty = false → req.host = dev.host
  sharing : req.sharing ≠ .named .unknown → dev.sharing ≠ .named .unknown →
    req.sharing = dev.sharing
  locality : ∀ need ∈ req.minimumLocality, localitySatisfies dev.economics.locality need = true
  accelerator : ∀ access ∈ req.acceleratorAccess, access = dev.acceleratorAccess
  bandwidth : req.minimumBandwidthMbps > 0 → dev.economics.estimatedBandwidthMbps ≠ 0 →
    req.minimumBandwidthMbps ≤ dev.economics.estimatedBandwidthMbps
  latency : req.maximumLatencyNs > 0 → dev.economics.estimatedLatencyNs ≠ 0 →
    dev.economics.estimatedLatencyNs ≤ req.maximumLatencyNs

/-- The hard constraints without their order and their reasons. -/
theorem evaluateCandidate_selected :
    (evaluateCandidate (mkCandidate pool reg dev) req pool.evidenceCurrent).selected = true ↔
      InService dev reg pool ∧ req.bytes ≤ regionFree reg ∧ DeviceSuits dev req ∧
      (∀ id ∈ req.requiredPool, id = pool.id) ∧ ∀ tier ∈ req.requiredTier, reg.tier = tier := by
  simp only [evaluateCandidate, mkCandidate, evaluateRecords, reject_or_selected, passedResult,
    inService_iff, deviceSuits_iff, option_any_eq_false, Bool.not_eq_true, Bool.or_eq_false_iff,
    Bool.not_eq_false', decide_eq_false_iff_not, ne_eq, not_and, not_not, not_or, UInt64.not_lt,
    gt_iff_lt]
  constructor
  · rintro ⟨⟨⟨hde, hre⟩, hpe⟩, hds, hrs, hps, -, -, -, ⟨⟨hdh, hrh⟩, hph⟩, hfree, hpersist, hvol,
      hhost, hshare, hpool, hlocal, htier, haccess, hband, hlat, -⟩
    exact ⟨⟨hde, hre, hpe, hds, hrs, hps, hdh, hrh, hph⟩, hfree,
      ⟨hpersist, hvol, hhost, hshare, hlocal, haccess, hband, hlat⟩, hpool, htier⟩
  · rintro ⟨⟨hde, hre, hpe, hds, hrs, hps, hdh, hrh, hph⟩, hfree,
      ⟨hpersist, hvol, hhost, hshare, hlocal, haccess, hband, hlat⟩, hpool, htier⟩
    have hpr : pool.state ≠ .revalidationRequired := by
      intro h
      rw [h] at hps
      cases hps nofun
    -- The later checks on the states are covered by the earlier ones.
    refine ⟨⟨⟨hde, hre⟩, hpe⟩, hds, hrs, hps, ?_, ?_, ?_, ⟨⟨hdh, hrh⟩, hph⟩, hfree, hpersist, hvol,
      hhost, hshare, hpool, hlocal, htier, haccess, hband, hlat, trivial⟩
    · simp [hds]
    · simp [hds, hrs]
    · simp [hds, hrs, hpr]

end constraints

def poolAdmits (pool : CxlPool) : Bool :=
  pool.evidenceCurrent && (pool.state = .available || pool.state = .defined)

def regionAdmits (pool : CxlPool) (region : CxlRegion) : Bool :=
  region.pool = pool.id && region.evidenceCurrent && region.state = .named .online

def deviceAdmits (dev : CxlDevice) : Bool := dev.evidenceCurrent && dev.state = .named .online

/-- The candidates of one region: its member devices in order, absent ones skipped. -/
def regionCandidates (snap : StateSnapshot) (pool : CxlPool) (region : CxlRegion) :
    List Candidate :=
  region.memberDevices.filterMap fun id => match snap.devices[id]? with
    | none => none
    | some dev => if deviceAdmits dev then some (mkCandidate pool region dev) else none

/-- The triple loop of the source over pools, regions and member devices. -/
def enumerateCandidates (snap : StateSnapshot) : List Candidate :=
  snap.pools.toList.flatMap fun pk =>
    if poolAdmits pk.2 then
      snap.regions.toList.flatMap fun rk =>
        if regionAdmits pk.2 rk.2 then regionCandidates snap pk.2 rk.2 else []
    else []

/-- The comparator: locality, latency, bandwidth, capacity, then the joined identities. -/
def ranksBefore (a b : Candidate) : Bool :=
  let ea := (a.deviceRecord.getD {}).economics
  let eb := (b.deviceRecord.getD {}).economics
  if localityOrdinal ea.locality ≠ localityOrdinal eb.locality then
    localityOrdinal ea.locality < localityOrdinal eb.locality
  else if ea.estimatedLatencyNs ≠ eb.estimatedLatencyNs then
    ea.estimatedLatencyNs < eb.estimatedLatencyNs
  else if ea.estimatedBandwidthMbps ≠ eb.estimatedBandwidthMbps then
    ea.estimatedBandwidthMbps > eb.estimatedBandwidthMbps
  else if a.availableBytes ≠ b.availableBytes then a.availableBytes > b.availableBytes
  else compare (a.pool.value ++ a.region.value ++ a.device.value)
    (b.pool.value ++ b.region.value ++ b.device.value) == .lt

/-- `std::stable_sort` with the comparator: equal elements keep their order. -/
def rank (cs : List Candidate) : List Candidate :=
  cs.insertionSort fun a b => ranksBefore b a = false

def matchesChosen (chosen : Candidate) (r : SelectionResult) : Bool :=
  r.pool = chosen.pool.value && r.region = chosen.region.value &&
    r.device = chosen.device.value && r.selected

def explained (r : SelectionResult) : SelectionResult :=
  if r.selected then { r with explanation := str "candidate passed" } else r

def buildSelection (snap : StateSnapshot) (req : AdmissionRequest) : SelectionOutcome :=
  let all := enumerateCandidates snap
  let results := all.map fun c =>
    explained (evaluateCandidate c req ((c.poolRecord.map CxlPool.evidenceCurrent).getD false))
  let selected := all.filter fun c =>
    (evaluateCandidate c req ((c.poolRecord.map CxlPool.evidenceCurrent).getD false)).selected
  match rank selected with
  | chosen :: _ =>
    { ok := true
      chosen
      result := (results.find? (matchesChosen chosen)).getD (results.headD {})
      candidates := results }
  | [] => match results with
    | first :: _ => { ok := false, result := { first with selected := false }, candidates := results }
    | [] => { ok := false, result := { selected := false, reason := .capacityInsufficient } }

end CxlFabric
