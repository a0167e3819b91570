import CxlFabric.FabricSteps

/-! # The synthetic topology

The record builders that the command line, the worker and the examples use. -/
namespace CxlFabric
namespace Synthetic

/-- The bits of `1.0 + double(hops) * 0.25`, which is exact: the value is `(4 + hops) / 4`. -/
def accessPenalty (hops : UInt32) : UInt64 :=
  let n := 4 + hops.toNat
  let e := Nat.log2 n
  UInt64.ofNat ((1021 + e) * 2 ^ 52 + (n - 2 ^ e) * 2 ^ (52 - e))

def capability (klass : CapabilityClass) (state : SupportState) : Capability where
  klass := klass
  state := state
  version := 1
  provenance := .named .synthetic
  evidenceCurrent := true
  evidenceGeneration := ⟨1⟩

def makeDevice (id : DeviceId) (gen : DeviceGeneration) (boot : DeviceBootId) (host : HostId)
    (bytes : UInt64) (vol : VolatilityKind) (sharing : SharingMode) (loc : LocalityClass)
    (latencyNs bwMbps : UInt64) (hops : UInt32) (failureDomain : Str) : CxlDevice where
  id := id
  generation := gen
  bootId := boot
  rawIdentity := str "synthetic:" ++ id.value
  vendorDeviceId := str "VEND:0001 DEVI:0001"
  cxlDeviceClass := str "Type-3"
  deviceType := str "memory"
  host := host
  totalPhysicalBytes := bytes
  onlineBytes := bytes
  volatility := vol
  sharing := sharing
  multiHostCapable := false
  interleaveCapable := vol = .named .volatile
  acceleratorAccess := .named .hostMediated
  health := .named .healthy
  state := .named .online
  provenance := .named .synthetic
  evidenceCurrent := true
  evidenceGeneration := ⟨1⟩
  lifecycleNote := str "synthetic"
  economics :=
    { locality := loc
      tier := if vol = .named .persistent then .named .cxlPersistent else .named .cxlCapacity
      evidenceClass := .named .synthetic
      provenance := .named .synthetic
      estimatedLatencyNs := latencyNs
      estimatedBandwidthMbps := bwMbps
      hopCount := hops
      accessPenaltyVsLocal := accessPenalty hops
      migrationCostBytes := bytes / 8
      failsafeValid := true
      notes := failureDomain }
  capabilities :=
    (∅ : Capabilities)
      |>.insert (.named .memoryDevice) (capability (.named .memoryDevice) (.named .supported))
      |>.insert (.named .type3Memory) (capability (.named .type3Memory) (.named .supported))
      |>.insert (.named .volatileCapacity)
        (capability (.named .volatileCapacity) (.named .supported))
      |>.insert (.named .dynamicCapacity)
        (capability (.named .dynamicCapacity) (.named .supported))
      -- This one is built without a version and an evidence generation.
      |>.insert (.named .persistentCapacity)
        { klass := .named .persistentCapacity
          state := if vol = .named .persistent then .named .supported else .named .unsupported
          provenance := .named .synthetic
          evidenceCurrent := true }

def makeRegion (id : RegionId) (gen : RegionGeneration) (pool : PoolId) (members : List DeviceId)
    (bytes : UInt64) (loc : LocalityClass) (tier : TierClass) (st : RegionState) : CxlRegion where
  id := id
  generation := gen
  pool := pool
  memberDevices := members
  regionCapacityBytes := bytes
  interleaved := members.length > 1
  state := st
  accessMode := str "dedicated"
  locality := loc
  tier := tier
  health := .named .healthy
  provenance := .named .synthetic
  evidenceCurrent := true
  evidenceGeneration := ⟨1⟩

def makePool (id : PoolId) (gen : PoolGeneration) (members : List PoolMember) : CxlPool where
  id := id
  generation := gen
  members := members
  admissionPolicy := str "default"
  state := .available
  healthSummary := .named .healthy
  provenance := .named .synthetic
  evidenceCurrent := true
  evidenceGeneration := ⟨1⟩

/-- 16 GiB, the size of the sample device. -/
def sampleBytes : UInt64 := 16 * 1024 * 1024 * 1024

def sampleDevice : CxlDevice :=
  makeDevice ⟨str "d1"⟩ ⟨1⟩ ⟨str "b1"⟩ ⟨str "host-r"⟩ sampleBytes (.named .volatile)
    (.named .dedicated) (.named .sameHost) 200 16000 1 (str "fd")

def samplePool : CxlPool :=
  makePool ⟨str "p-1"⟩ ⟨1⟩
    [{ device := ⟨str "d1"⟩, deviceGeneration := ⟨1⟩, nominalBytes := sampleBytes, online := true
       healthOk := true, failureDomain := str "fd", locality := .named .sameHost }]

def sampleRegion : CxlRegion :=
  makeRegion ⟨str "r1"⟩ ⟨1⟩ ⟨str "p-1"⟩ [⟨str "d1"⟩] sampleBytes (.named .sameHost)
    (.named .cxlNear) (.named .online)

/-- The in-process context of an epoch. -/
def context (epoch : CoordinatorEpoch) : AuthorityContext :=
  { coordinatorEpoch := epoch, policyGeneration := ⟨1⟩, consumerGeneration := ⟨1⟩ }

/-- 4 GiB for the sample consumer. -/
def sampleRequest : AdmissionRequest :=
  { bytes := 4 * 1024 * 1024 * 1024, consumer := ⟨str "svc"⟩ }

/-- One device governed by one pool with one region, registered under an epoch. -/
def setup (epoch : CoordinatorEpoch) : List Op :=
  [.registerDevice sampleDevice (context epoch), .createPool samplePool (context epoch),
    .createRegion sampleRegion (context epoch)]

/-- A second device with a pool and a region of its own. -/
def secondSetup (epoch : CoordinatorEpoch) : List Op :=
  [.registerDevice { sampleDevice with id := ⟨str "d2"⟩, bootId := ⟨str "b2"⟩ } (context epoch),
    .createPool (makePool ⟨str "p-2"⟩ ⟨1⟩
      [{ device := ⟨str "d2"⟩, deviceGeneration := ⟨1⟩, nominalBytes := sampleBytes, online := true
         healthOk := true, failureDomain := str "fd", locality := .named .sameHost }])
      (context epoch),
    .createRegion (makeRegion ⟨str "r2"⟩ ⟨1⟩ ⟨str "p-2"⟩ [⟨str "d2"⟩] sampleBytes
      (.named .sameHost) (.named .cxlNear) (.named .online)) (context epoch)]

end Synthetic

namespace Fabric

/-- One reservation on the sample pool. -/
def reservedRun : Option (List (Op × Outcome) × Fabric) :=
  execAll exec (new ⟨1⟩ ⟨1⟩) (Synthetic.setup ⟨1⟩ ++
    [.reserve Synthetic.sampleRequest (Synthetic.context ⟨1⟩)])

theorem reservedRun_isSome : reservedRun.isSome = true := by decide

end Fabric

end CxlFabric
