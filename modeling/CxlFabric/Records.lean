import CxlFabric.Identity
import CxlFabric.Enumerations

/-! # Devices, regions, pools, reservations and the authority that acts on them

Every record keeps the source's fields and defaults. The one floating-point field is
kept as its bit pattern, since it is only ever copied. -/
namespace CxlFabric

abbrev ByteCount := UInt64

structure Capability where
  klass : CapabilityClass := .named .memoryDevice
  state : SupportState := .named .unknown
  version : UInt64 := 0
  provenance : Provenance := .named .unsupported
  evidenceGeneration : EvidenceGeneration := {}
  evidenceCurrent : Bool := false
  constraints : Str := []
  deriving DecidableEq

abbrev Capabilities := Map CapabilityClass Capability

/-- Required capability is supported and, unless that is waived, its evidence is current. -/
def Capabilities.requiredSupported (caps : Capabilities) (k : CapabilityClass)
    (requireCurrentEvidence : Bool) : Bool :=
  match caps[k]? with
  | none => false
  | some c =>
    if c.state ≠ .named .supported then false
    else if requireCurrentEvidence && !c.evidenceCurrent then false
    else true

structure AccessEconomics where
  locality : LocalityClass := .named .unknown
  tier : TierClass := .named .cxlUnknown
  evidenceClass : EvidenceClass := .named .unknown
  provenance : Provenance := .named .unsupported
  estimatedLatencyNs : UInt64 := 0
  estimatedBandwidthMbps : UInt64 := 0
  hopCount : UInt32 := 0
  /-- IEEE-754 bits; the default is 1.0. -/
  accessPenaltyVsLocal : UInt64 := 0x3FF0000000000000
  migrationCostBytes : UInt64 := 0
  failsafeValid : Bool := false
  notes : Str := []
  deriving DecidableEq

structure CxlDevice where
  id : DeviceId := {}
  generation : DeviceGeneration := {}
  bootId : DeviceBootId := {}
  rawIdentity : Str := []
  vendorDeviceId : Str := []
  cxlDeviceClass : Str := []
  deviceType : Str := []
  host : HostId := {}
  ports : List PortId := []
  switchAncestry : List SwitchId := []
  totalPhysicalBytes : UInt64 := 0
  onlineBytes : UInt64 := 0
  volatility : VolatilityKind := .named .unknown
  sharing : SharingMode := .named .unknown
  multiHostCapable : Bool := false
  interleaveCapable : Bool := false
  acceleratorAccess : AcceleratorAccessState := .named .unknown
  health : HealthState := .named .unknown
  state : DeviceState := .named .discovered
  capabilities : Capabilities := ∅
  economics : AccessEconomics := {}
  provenance : Provenance := .named .unsupported
  evidenceGeneration : EvidenceGeneration := {}
  evidenceCurrent : Bool := false
  firmwareMetadata : Str := []
  lifecycleNote : Str := []
  deriving DecidableEq

structure CxlRegion where
  id : RegionId := {}
  generation : RegionGeneration := {}
  pool : PoolId := {}
  memberDevices : List DeviceId := []
  interleaveSet : Str := []
  regionCapacityBytes : UInt64 := 0
  interleaved : Bool := false
  state : RegionState := .named .defined
  decoders : List DecoderId := []
  windows : List WindowId := []
  accessMode : Str := []
  consumerScope : ConsumerId := {}
  locality : LocalityClass := .named .unknown
  tier : TierClass := .named .cxlUnknown
  health : HealthState := .named .unknown
  reservedBytes : UInt64 := 0
  committedBytes : UInt64 := 0
  provenance : Provenance := .named .unsupported
  evidenceGeneration : EvidenceGeneration := {}
  evidenceCurrent : Bool := false
  deviceLocal : Bool := false
  deriving DecidableEq

/-- A generation-bound reference to a device and the bytes it contributes. -/
structure PoolMember where
  device : DeviceId := {}
  deviceGeneration : DeviceGeneration := {}
  nominalBytes : UInt64 := 0
  online : Bool := false
  healthOk : Bool := false
  failureDomain : Str := []
  locality : LocalityClass := .named .unknown
  deriving DecidableEq

structure CxlPool where
  id : PoolId := {}
  generation : PoolGeneration := {}
  members : List PoolMember := []
  totalGovernedBytes : UInt64 := 0
  committedBytes : UInt64 := 0
  reservedBytes : UInt64 := 0
  drainingBytes : UInt64 := 0
  unavailableBytes : UInt64 := 0
  admissionPolicy : Str := []
  failureDomains : List Str := []
  localityDistribution : LocalityClass := .named .unknown
  healthSummary : HealthState := .named .unknown
  state : PoolState := .defined
  provenance : Provenance := .named .unsupported
  evidenceGeneration : EvidenceGeneration := {}
  evidenceCurrent : Bool := false
  lifecycleNote : Str := []
  deriving DecidableEq

structure AdmissionRequest where
  bytes : ByteCount := 0
  volatility : VolatilityKind := .named .unknown
  consumer : ConsumerId := {}
  host : HostId := {}
  requiredPool : Option PoolId := none
  minimumLocality : Option LocalityClass := none
  requiredTier : Option TierClass := none
  acceleratorAccess : Option AcceleratorAccessState := none
  failureDomainMinimum : Option FailureDomainLevel := none
  sharing : SharingMode := .named .unknown
  requireUniqueFailureDomain : Bool := false
  requirePersistence : Bool := false
  requireAcceleratorPath : Bool := false
  preferFallback : Bool := false
  policyClass : Str := []
  minimumBandwidthMbps : UInt64 := 0
  maximumLatencyNs : UInt64 := 0
  deriving DecidableEq

/-- A reservation captures the generations, epoch and worker that authorized it. -/
structure Reservation where
  id : ReservationId := {}
  consumer : ConsumerId := {}
  consumerGeneration : ConsumerGeneration := {}
  pool : PoolId := {}
  poolGeneration : PoolGeneration := {}
  region : RegionId := {}
  regionGeneration : RegionGeneration := {}
  device : DeviceId := {}
  deviceGeneration : DeviceGeneration := {}
  deviceBootId : DeviceBootId := {}
  bytes : ByteCount := 0
  state : ResumeState := .reserved
  createdEpoch : CoordinatorEpoch := {}
  commitEpoch : CoordinatorEpoch := {}
  workerBootId : WorkerBootId := {}
  evidenceCurrentAtReserve : Bool := false
  failedDeviceEntry : Bool := true
  deriving DecidableEq

/-- The context a mutating operation is validated against. An empty worker boot id
stands for in-process use. -/
structure AuthorityContext where
  coordinatorEpoch : CoordinatorEpoch := {}
  policyGeneration : PolicyGeneration := {}
  workerBootId : WorkerBootId := {}
  consumerGeneration : ConsumerGeneration := {}
  deriving DecidableEq

/-- The durable structural subset of the fabric state. -/
structure PersistedState where
  policyGeneration : PolicyGeneration := {}
  devices : Map DeviceId CxlDevice := ∅
  regions : Map RegionId CxlRegion := ∅
  pools : Map PoolId CxlPool := ∅
  deriving DecidableEq

end CxlFabric
