import CxlFabric.Enumerations

/-! # Validated lifecycle transitions

One table per kind of record. A step to the same state is always allowed; an object
without a declared enumerator has no other transition. -/
namespace CxlFabric

def DeviceState.successors : DeviceState.Name → List DeviceState.Name
  | .discovered => [.enumerated]
  | .enumerated => [.available, .discovered, .offline, .failed, .retired]
  | .available => [.online, .degraded, .draining, .revalidationRequired, .offline, .failed,
      .removed, .retired]
  | .online => [.online, .degraded, .draining, .revalidationRequired, .offline, .failed,
      .removed, .retired]
  | .degraded => [.online, .available, .draining, .revalidationRequired, .offline, .failed,
      .removed, .retired]
  | .draining => [.online, .available, .revalidationRequired, .offline, .failed, .removed, .retired]
  | .revalidationRequired => [.online, .available, .revalidationRequired, .offline, .failed,
      .removed, .retired]
  | .offline => [.online, .available, .revalidationRequired, .removed, .retired]
  | .failed => [.removed, .retired]
  | .removed => [.retired]
  | .retired => []

def RegionState.successors : RegionState.Name → List RegionState.Name
  | .defined => [.validating, .retired]
  | .validating => [.online, .defined, .failed, .retired]
  | .online => [.degraded, .draining, .reconfiguring, .revalidationRequired, .offline, .failed,
      .retired]
  | .degraded => [.online, .draining, .reconfiguring, .revalidationRequired, .offline, .failed,
      .retired]
  | .draining => [.online, .revalidationRequired, .offline, .failed, .retired]
  | .reconfiguring => [.online, .validating, .revalidationRequired, .failed, .retired]
  | .revalidationRequired => [.online, .validating, .draining, .offline, .failed, .retired]
  | .offline => [.online, .validating, .revalidationRequired, .retired]
  | .failed => [.retired]
  | .retired => []

def PoolState.successors : PoolState → List PoolState
  | .defined => [.available, .failed, .retired]
  | .available => [.degraded, .draining, .revalidationRequired, .failed, .retired]
  | .degraded => [.available, .draining, .revalidationRequired, .failed, .retired]
  | .draining => [.available, .revalidationRequired, .failed, .retired]
  | .revalidationRequired => [.available, .degraded, .draining, .failed, .retired]
  | .failed => [.retired]
  | .retired => []

section
variable {E : Type} [DecidableEq E] [Enumerators E]

/-- A transition of an open enumeration along a table of declared successors. -/
def validOpenTransition (successors : E → List E) (source target : OpenEnum E) : Bool :=
  source == target || match source, target with
    | .named a, .named b => b ∈ successors a
    | _, _ => false

@[simp] theorem validOpenTransition_self (successors : E → List E) (a : OpenEnum E) :
    validOpenTransition successors a a = true := by simp [validOpenTransition]

theorem validOpenTransition_of_terminal {successors : E → List E} {a : E} (ha : successors a = [])
    {b : OpenEnum E} (h : validOpenTransition successors (.named a) b = true) : b = .named a := by
  cases b with
  | named b => simp [validOpenTransition, ha] at h; rw [h]
  | undeclared raw hraw => simp [validOpenTransition] at h

end

def DeviceState.validTransition : DeviceState → DeviceState → Bool :=
  validOpenTransition DeviceState.successors

def RegionState.validTransition : RegionState → RegionState → Bool :=
  validOpenTransition RegionState.successors

def PoolState.validTransition (source target : PoolState) : Bool :=
  source == target || target ∈ source.successors

@[simp] theorem DeviceState.validTransition_self (a : DeviceState) :
    DeviceState.validTransition a a = true := validOpenTransition_self _ a

@[simp] theorem RegionState.validTransition_self (a : RegionState) :
    RegionState.validTransition a a = true := validOpenTransition_self _ a

@[simp] theorem PoolState.validTransition_self (a : PoolState) :
    PoolState.validTransition a a = true := by simp [PoolState.validTransition]

theorem DeviceState.eq_retired_of_validTransition {b : DeviceState}
    (h : DeviceState.validTransition (.named .retired) b = true) : b = .named .retired :=
  validOpenTransition_of_terminal rfl h

theorem RegionState.eq_retired_of_validTransition {b : RegionState}
    (h : RegionState.validTransition (.named .retired) b = true) : b = .named .retired :=
  validOpenTransition_of_terminal rfl h

end CxlFabric
