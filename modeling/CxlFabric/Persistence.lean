import CxlFabric.Protocol
import CxlFabric.Fabric
import CxlFabric.MapSums

/-! # The persisted form of the structural state

`serializeState` writes the durable fields of every record behind counts and length
prefixes, and a checksum at the end. `deserializeState` checks the checksum and reads the
fields back; what is not written takes its default. -/
namespace CxlFabric

namespace Persistence

/-- The bound on the number of records of a kind, and on every list of members. -/
def maxRecords : ℕ := 100000

def maxStrings : ℕ := 4096

/-- The bound on a payload that is written to disk, 16 MiB. -/
def maxPersistPayload : ℕ := 2 ^ 24

def maxCapabilities : ℕ := 256

def writeCapability (c : Capability) : List UInt8 :=
  putU32 c.klass.toUInt32 ++ putU32 c.state.toUInt32 ++ putU64 c.version ++
  putU32 c.provenance.toUInt32 ++ putU64 c.evidenceGeneration.value ++
  putBool c.evidenceCurrent ++ putStr c.constraints

def writeEconomics (e : AccessEconomics) : List UInt8 :=
  putU32 e.locality.toUInt32 ++ putU32 e.tier.toUInt32 ++ putU32 e.evidenceClass.toUInt32 ++
  putU32 e.provenance.toUInt32 ++ putU64 e.estimatedLatencyNs ++
  putU64 e.estimatedBandwidthMbps ++ putU32 e.hopCount ++ putU64 e.migrationCostBytes ++
  putBool e.failsafeValid ++ putStr e.notes

def writeDevice (d : CxlDevice) : List UInt8 :=
  putStr d.id.value ++ putU64 d.generation.value ++ putStr d.bootId.value ++
  putStr d.rawIdentity ++ putStr d.vendorDeviceId ++ putStr d.cxlDeviceClass ++
  putStr d.deviceType ++ putStr d.host.value ++
  -- Ports and switch ancestry are written as empty lists.
  putList putStr [] ++ putList putStr [] ++
  putU64 d.totalPhysicalBytes ++ putU64 d.onlineBytes ++ putU32 d.volatility.toUInt32 ++
  putU32 d.sharing.toUInt32 ++ putBool d.multiHostCapable ++ putBool d.interleaveCapable ++
  putU32 d.acceleratorAccess.toUInt32 ++ putU32 d.provenance.toUInt32 ++
  putU64 d.evidenceGeneration.value ++ putStr d.firmwareMetadata ++ putStr d.lifecycleNote ++
  putList writeCapability (d.capabilities.toList.map (·.2)) ++ writeEconomics d.economics

def writeRegion (r : CxlRegion) : List UInt8 :=
  putStr r.id.value ++ putU64 r.generation.value ++ putStr r.pool.value ++
  putList (fun m => putStr m.value) r.memberDevices ++ putStr r.interleaveSet ++
  putU64 r.regionCapacityBytes ++ putBool r.interleaved ++ putU32 r.provenance.toUInt32 ++
  putU64 r.evidenceGeneration.value ++ putBool r.deviceLocal

def writeMember (m : PoolMember) : List UInt8 :=
  putStr m.device.value ++ putU64 m.deviceGeneration.value ++ putU64 m.nominalBytes ++
  putBool m.online ++ putBool m.healthOk ++ putStr m.failureDomain ++ putU32 m.locality.toUInt32

def writePool (p : CxlPool) : List UInt8 :=
  putStr p.id.value ++ putU64 p.generation.value ++ putList writeMember p.members ++
  putU64 p.totalGovernedBytes ++ putU64 p.committedBytes ++ putU64 p.reservedBytes ++
  putU64 p.drainingBytes ++ putU64 p.unavailableBytes ++ putStr p.admissionPolicy ++
  putList putStr p.failureDomains ++ putU32 p.localityDistribution.toUInt32 ++
  putU32 p.healthSummary.toUInt32 ++ putU32 p.provenance.toUInt32 ++
  putU64 p.evidenceGeneration.value ++ putBool p.evidenceCurrent ++ putStr p.lifecycleNote

/-- Everything but the checksum. -/
def writeBody (st : PersistedState) : List UInt8 :=
  putU64 st.policyGeneration.value ++ putList writeDevice (st.devices.toList.map (·.2)) ++
  putList writeRegion (st.regions.toList.map (·.2)) ++
  putList writePool (st.pools.toList.map (·.2))

def serializeState (st : PersistedState) : Except String (List UInt8) :=
  if st.devices.size > maxRecords ∨ st.regions.size > maxRecords ∨ st.pools.size > maxRecords then
    .error "state exceeds persistence bounds"
  else .ok (writeBody st ++ putU32 (crc32 (writeBody st)))

def readCapability : Decoder Capability := do
  let klass ← read getU32 "cap klass"
  let state ← read getU32 "cap state"
  let version ← read getU64 "cap version"
  let provenance ← read getU32 "cap prov"
  let evidenceGeneration ← read getU64 "cap ev gen"
  let evidenceCurrent ← readBool "cap current"
  let constraints ← read getStr "cap constraints"
  pure
    { klass := .ofUInt32 klass, state := .ofUInt32 state, version
      provenance := .ofUInt32 provenance, evidenceGeneration := ⟨evidenceGeneration⟩
      evidenceCurrent, constraints }

def readEconomics : Decoder AccessEconomics := do
  let locality ← read getU32 "econ enum"
  let tier ← read getU32 "econ enum"
  let evidenceClass ← read getU32 "econ enum"
  let provenance ← read getU32 "econ enum"
  let estimatedLatencyNs ← read getU64 "econ"
  let estimatedBandwidthMbps ← read getU64 "econ"
  let hopCount ← read getU32 "econ2"
  let migrationCostBytes ← read getU64 "econ2"
  let failsafeValid ← readBool "econ failsafe"
  let notes ← read getStr "econ notes"
  pure
    { locality := .ofUInt32 locality, tier := .ofUInt32 tier
      evidenceClass := .ofUInt32 evidenceClass, provenance := .ofUInt32 provenance
      estimatedLatencyNs, estimatedBandwidthMbps, hopCount, migrationCostBytes, failsafeValid
      notes }

def readDevice : Decoder CxlDevice := do
  let id ← read getStr "device id"
  let generation ← read getU64 "device gen"
  let bootId ← read getStr "device boot"
  let rawIdentity ← read getStr "device strings"
  let vendorDeviceId ← read getStr "device strings"
  let cxlDeviceClass ← read getStr "device strings"
  let deviceType ← read getStr "device strings"
  let host ← read getStr "device host"
  let _ ← readList maxStrings (read getStr "device ports") "device ports"
  let _ ← readList maxStrings (read getStr "device switch") "device switch"
  let totalPhysicalBytes ← read getU64 "total"
  let onlineBytes ← read getU64 "online"
  let volatility ← read getU32 "vol"
  let sharing ← read getU32 "sharing"
  let multiHostCapable ← readBool "multi"
  let interleaveCapable ← readBool "interleave"
  let acceleratorAccess ← read getU32 "accel"
  let provenance ← read getU32 "prov"
  let evidenceGeneration ← read getU64 "evidence gen"
  let firmwareMetadata ← read getStr "device notes"
  let lifecycleNote ← read getStr "device notes"
  let capabilities ← readList maxCapabilities readCapability "cap count"
  let economics ← readEconomics
  pure
    { id := ⟨id⟩, generation := ⟨generation⟩, bootId := ⟨bootId⟩, rawIdentity, vendorDeviceId
      cxlDeviceClass, deviceType, host := ⟨host⟩, totalPhysicalBytes, onlineBytes
      volatility := .ofUInt32 volatility, sharing := .ofUInt32 sharing, multiHostCapable
      interleaveCapable, acceleratorAccess := .ofUInt32 acceleratorAccess
      provenance := .ofUInt32 provenance, evidenceGeneration := ⟨evidenceGeneration⟩
      firmwareMetadata, lifecycleNote, capabilities := collect Capability.klass capabilities
      economics }

def readRegion : Decoder CxlRegion := do
  let id ← read getStr "region id"
  let generation ← read getU64 "region gen"
  let pool ← read getStr "region pool"
  let memberDevices ← readList maxRecords (read getStr "region member") "region members"
  let interleaveSet ← read getStr "region interleave"
  let regionCapacityBytes ← read getU64 "region cap"
  let interleaved ← readBool "region interleaved"
  let provenance ← read getU32 "region prov"
  let evidenceGeneration ← read getU64 "region ev gen"
  let deviceLocal ← readBool "region device_local"
  pure
    { id := ⟨id⟩, generation := ⟨generation⟩, pool := ⟨pool⟩
      memberDevices := memberDevices.map Id.mk, interleaveSet, regionCapacityBytes, interleaved
      provenance := .ofUInt32 provenance, evidenceGeneration := ⟨evidenceGeneration⟩
      deviceLocal }

def readMember : Decoder PoolMember := do
  let device ← read getStr "pool member device"
  let deviceGeneration ← read getU64 "pool member gen"
  let nominalBytes ← read getU64 "pool member nominal"
  let online ← readBool "pool member online"
  let healthOk ← readBool "pool member health"
  let failureDomain ← read getStr "pool member fd"
  let locality ← read getU32 "pool member locality"
  pure
    { device := ⟨device⟩, deviceGeneration := ⟨deviceGeneration⟩, nominalBytes, online, healthOk
      failureDomain, locality := .ofUInt32 locality }

def readPool : Decoder CxlPool := do
  let id ← read getStr "pool id"
  let generation ← read getU64 "pool gen"
  let members ← readList maxRecords readMember "pool members"
  let totalGovernedBytes ← read getU64 "pool accounting"
  let committedBytes ← read getU64 "pool accounting"
  let reservedBytes ← read getU64 "pool accounting"
  let drainingBytes ← read getU64 "pool accounting"
  let unavailableBytes ← read getU64 "pool accounting"
  let admissionPolicy ← read getStr "pool policy"
  let failureDomains ← readList maxStrings (read getStr "pool domains") "pool domains"
  let localityDistribution ← read getU32 "pool locality dist"
  let healthSummary ← read getU32 "pool health"
  let provenance ← read getU32 "pool prov"
  let evidenceGeneration ← read getU64 "pool ev gen"
  let evidenceCurrent ← readBool "pool evidence"
  let lifecycleNote ← read getStr "pool note"
  pure
    { id := ⟨id⟩, generation := ⟨generation⟩, members, totalGovernedBytes, committedBytes
      reservedBytes, drainingBytes, unavailableBytes, admissionPolicy, failureDomains
      localityDistribution := .ofUInt32 localityDistribution
      healthSummary := .ofUInt32 healthSummary, provenance := .ofUInt32 provenance
      evidenceGeneration := ⟨evidenceGeneration⟩, evidenceCurrent, lifecycleNote }

def readBody : Decoder PersistedState := do
  let policyGeneration ← read getU64 "missing policy generation"
  let devices ← readList maxRecords readDevice "device count invalid"
  let regions ← readList maxRecords readRegion "region count"
  let pools ← readList maxRecords readPool "pool count"
  pure
    { policyGeneration := ⟨policyGeneration⟩, devices := collect CxlDevice.id devices
      regions := collect CxlRegion.id regions, pools := collect CxlPool.id pools }

/-- Reading a payload: the state or the error, and the fields that were asked for. -/
def deserialize (beyond : ℕ → UInt8) (payload : List UInt8) :
    Except String PersistedState × List Field :=
  if payload.length < 4 then (.error "payload too small", [])
  else
    let bodyLen := payload.length - 4
    let mem := payloadMemory payload beyond
    if crc32 (payload.take bodyLen) ≠ loadU32 (fun i => mem (bodyLen + i)) then
      (.error "payload checksum mismatch", [])
    else match readBody.run { mem, len := bodyLen } 0 with
      | (.error err, asked) => (.error err, asked)
      | (.ok (st, pos), asked) =>
        (if pos ≠ bodyLen then .error "trailing garbage" else .ok st, asked)

def deserializeState (beyond : ℕ → UInt8) (payload : List UInt8) :
    Except String PersistedState := (deserialize beyond payload).1

end Persistence

end CxlFabric
