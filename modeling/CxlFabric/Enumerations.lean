import CxlFabric.OpenEnums

/-! # Enumerations of the fabric

The first group crosses a process or disk boundary as a 32-bit word, so its objects
are open; the second group is only ever written by the fabric itself. Every
`to_string` of the source prints the enumerator's own name. -/
namespace CxlFabric

inductive Provenance.Name
  | real | derived | synthetic | unsupported
  deriving DecidableEq

instance : Enumerators Provenance.Name where
  table := [(.real, "REAL"), (.derived, "DERIVED"), (.synthetic, "SYNTHETIC"),
    (.unsupported, "UNSUPPORTED")]
  nodup := by decide
  complete e := by cases e <;> decide
  small := by decide

abbrev Provenance := OpenEnum Provenance.Name

inductive HealthState.Name
  | unknown | healthy | degraded | poisoned | failed
  | revalidationRequired
  deriving DecidableEq

instance : Enumerators HealthState.Name where
  table := [(.unknown, "UNKNOWN"), (.healthy, "HEALTHY"), (.degraded, "DEGRADED"),
    (.poisoned, "POISONED"), (.failed, "FAILED"), (.revalidationRequired, "REVALIDATION_REQUIRED")]
  nodup := by decide
  complete e := by cases e <;> decide
  small := by decide

abbrev HealthState := OpenEnum HealthState.Name

inductive DeviceState.Name
  | discovered | enumerated | available | online | degraded | draining
  | revalidationRequired | offline | failed | removed | retired
  deriving DecidableEq

instance : Enumerators DeviceState.Name where
  table := [(.discovered, "DISCOVERED"), (.enumerated, "ENUMERATED"), (.available, "AVAILABLE"),
    (.online, "ONLINE"), (.degraded, "DEGRADED"), (.draining, "DRAINING"),
    (.revalidationRequired, "REVALIDATION_REQUIRED"), (.offline, "OFFLINE"), (.failed, "FAILED"),
    (.removed, "REMOVED"), (.retired, "RETIRED")]
  nodup := by decide
  complete e := by cases e <;> decide
  small := by decide

abbrev DeviceState := OpenEnum DeviceState.Name

inductive RegionState.Name
  | defined | validating | online | degraded | draining | reconfiguring
  | revalidationRequired | offline | failed | retired
  deriving DecidableEq

instance : Enumerators RegionState.Name where
  table := [(.defined, "DEFINED"), (.validating, "VALIDATING"), (.online, "ONLINE"),
    (.degraded, "DEGRADED"), (.draining, "DRAINING"), (.reconfiguring, "RECONFIGURING"),
    (.revalidationRequired, "REVALIDATION_REQUIRED"), (.offline, "OFFLINE"), (.failed, "FAILED"),
    (.retired, "RETIRED")]
  nodup := by decide
  complete e := by cases e <;> decide
  small := by decide

abbrev RegionState := OpenEnum RegionState.Name

inductive CapabilityClass.Name
  | memoryDevice | type3Memory | hostManagedDeviceMemory
  | volatileCapacity | persistentCapacity | dynamicCapacity | hotplug | multiHostAccess
  | memoryPooling | interleave | deviceDecoder | hostDecoder | switchAttached | directAttached
  | errorReporting | poisonReporting | capacityResize | regionReconfiguration
  | acceleratorVisiblePath | cacheCoherentAccess
  deriving DecidableEq

instance : Enumerators CapabilityClass.Name where
  table := [(.memoryDevice, "MEMORY_DEVICE"), (.type3Memory, "TYPE3_MEMORY"),
    (.hostManagedDeviceMemory, "HOST_MANAGED_DEVICE_MEMORY"),
    (.volatileCapacity, "VOLATILE_CAPACITY"), (.persistentCapacity, "PERSISTENT_CAPACITY"),
    (.dynamicCapacity, "DYNAMIC_CAPACITY"), (.hotplug, "HOTPLUG"),
    (.multiHostAccess, "MULTI_HOST_ACCESS"), (.memoryPooling, "MEMORY_POOLING"),
    (.interleave, "INTERLEAVE"), (.deviceDecoder, "DEVICE_DECODER"),
    (.hostDecoder, "HOST_DECODER"), (.switchAttached, "SWITCH_ATTACHED"),
    (.directAttached, "DIRECT_ATTACHED"), (.errorReporting, "ERROR_REPORTING"),
    (.poisonReporting, "POISON_REPORTING"), (.capacityResize, "CAPACITY_RESIZE"),
    (.regionReconfiguration, "REGION_RECONFIGURATION"),
    (.acceleratorVisiblePath, "ACCELERATOR_VISIBLE_PATH"),
    (.cacheCoherentAccess, "CACHE_COHERENT_ACCESS")]
  nodup := by decide
  complete e := by cases e <;> decide
  small := by decide

abbrev CapabilityClass := OpenEnum CapabilityClass.Name

inductive SupportState.Name
  | supported | unsupported | unknown | revalidationRequired
  deriving DecidableEq

instance : Enumerators SupportState.Name where
  table := [(.supported, "SUPPORTED"), (.unsupported, "UNSUPPORTED"), (.unknown, "UNKNOWN"),
    (.revalidationRequired, "REVALIDATION_REQUIRED")]
  nodup := by decide
  complete e := by cases e <;> decide
  small := by decide

abbrev SupportState := OpenEnum SupportState.Name

inductive EvidenceClass.Name
  | measured | platformReported | configured | derived | synthetic
  | unknown
  deriving DecidableEq

instance : Enumerators EvidenceClass.Name where
  table := [(.measured, "MEASURED"), (.platformReported, "PLATFORM_REPORTED"),
    (.configured, "CONFIGURED"), (.derived, "DERIVED"), (.synthetic, "SYNTHETIC"),
    (.unknown, "UNKNOWN")]
  nodup := by decide
  complete e := by cases e <;> decide
  small := by decide

abbrev EvidenceClass := OpenEnum EvidenceClass.Name

inductive LocalityClass.Name
  | directLocal | sameHost | sameNumaDomain | remoteNumaDomain
  | sameCxlRoot | sameSwitch | switchRemote | multiHopCxl | crossHost | unknown
  deriving DecidableEq

instance : Enumerators LocalityClass.Name where
  table := [(.directLocal, "DIRECT_LOCAL"), (.sameHost, "SAME_HOST"),
    (.sameNumaDomain, "SAME_NUMA_DOMAIN"), (.remoteNumaDomain, "REMOTE_NUMA_DOMAIN"),
    (.sameCxlRoot, "SAME_CXL_ROOT"), (.sameSwitch, "SAME_SWITCH"),
    (.switchRemote, "SWITCH_REMOTE"), (.multiHopCxl, "MULTI_HOP_CXL"), (.crossHost, "CROSS_HOST"),
    (.unknown, "UNKNOWN")]
  nodup := by decide
  complete e := by cases e <;> decide
  small := by decide

abbrev LocalityClass := OpenEnum LocalityClass.Name

inductive TierClass.Name
  | cxlNear | cxlLocal | cxlShared | cxlRemote | cxlPersistent
  | cxlCapacity | cxlUnknown
  deriving DecidableEq

instance : Enumerators TierClass.Name where
  table := [(.cxlNear, "CXL_NEAR"), (.cxlLocal, "CXL_LOCAL"), (.cxlShared, "CXL_SHARED"),
    (.cxlRemote, "CXL_REMOTE"), (.cxlPersistent, "CXL_PERSISTENT"), (.cxlCapacity, "CXL_CAPACITY"),
    (.cxlUnknown, "CXL_UNKNOWN")]
  nodup := by decide
  complete e := by cases e <;> decide
  small := by decide

abbrev TierClass := OpenEnum TierClass.Name

inductive AcceleratorAccessState.Name
  | directSupported | indirectSupported | hostMediated
  | unsupported | unknown | revalidationRequired
  deriving DecidableEq

instance : Enumerators AcceleratorAccessState.Name where
  table := [(.directSupported, "DIRECT_SUPPORTED"), (.indirectSupported, "INDIRECT_SUPPORTED"),
    (.hostMediated, "HOST_MEDIATED"), (.unsupported, "UNSUPPORTED"), (.unknown, "UNKNOWN"),
    (.revalidationRequired, "REVALIDATION_REQUIRED")]
  nodup := by decide
  complete e := by cases e <;> decide
  small := by decide

abbrev AcceleratorAccessState := OpenEnum AcceleratorAccessState.Name

inductive VolatilityKind.Name
  | volatile | persistent | unknown
  deriving DecidableEq

instance : Enumerators VolatilityKind.Name where
  table := [(.volatile, "VOLATILE"), (.persistent, "PERSISTENT"), (.unknown, "UNKNOWN")]
  nodup := by decide
  complete e := by cases e <;> decide
  small := by decide

abbrev VolatilityKind := OpenEnum VolatilityKind.Name

inductive SharingMode.Name
  | dedicated | shared | unknown
  deriving DecidableEq

instance : Enumerators SharingMode.Name where
  table := [(.dedicated, "DEDICATED"), (.shared, "SHARED"), (.unknown, "UNKNOWN")]
  nodup := by decide
  complete e := by cases e <;> decide
  small := by decide

abbrev SharingMode := OpenEnum SharingMode.Name

inductive PoolState
  | defined | available | degraded | draining | revalidationRequired | failed | retired
  deriving DecidableEq

def PoolState.toText : PoolState → String
  | .defined => "DEFINED"
  | .available => "AVAILABLE"
  | .degraded => "DEGRADED"
  | .draining => "DRAINING"
  | .revalidationRequired => "REVALIDATION_REQUIRED"
  | .failed => "FAILED"
  | .retired => "RETIRED"

inductive ResumeState
  | reserved | committed | released | fenced
  deriving DecidableEq

def ResumeState.toText : ResumeState → String
  | .reserved => "RESERVED"
  | .committed => "COMMITTED"
  | .released => "RELEASED"
  | .fenced => "FENCED"

inductive FailureDomainLevel
  | none | device | port | switch | rootComplex | host | rack
  deriving DecidableEq

inductive DecisionReason
  | ok | deviceStale | regionStale | poolStale | deviceNotOnline | regionNotOnline
  | evidenceStale | capabilityUnsupported | capabilityUnknown | capacityInsufficient
  | volatilityMismatch | hostIncompatible | sharingMismatch | requiredLocalityUnsatisfied
  | acceleratorAccessUnsatisfied | healthUnacceptable | draining | failed | policyDenied
  | revalidationRequired | poolGenerationStale | reservationStale | duplicateIdentity
  | conflictingFacts | invalidArgument | reservationConflict | capacityOvercommit
  | persistenceCorrupt | protocolMalformed | protocolOversized | protocolInvalidEnum
  | protocolInvalidGeneration | protocolTrailingGarbage | unknownError
  deriving DecidableEq

/-- The cast to a 32-bit word: the declaration index. -/
def DecisionReason.toUInt32 (r : DecisionReason) : UInt32 := UInt32.ofNat r.ctorIdx

end CxlFabric
