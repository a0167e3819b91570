import Mathlib

/-! # Typed identities and generations

Strings of the source are byte strings; identities compare as their bytes do.
Generations are 64-bit counters in which zero is the invalid, empty generation. -/
namespace CxlFabric

abbrev Str := List UInt8

/-- The bytes of a string literal of the source. -/
def str (s : String) : Str := s.toUTF8.data.toList

theorem str_injective : Function.Injective str := by
  intro a b h
  have hdata : a.toUTF8.data = b.toUTF8.data := Array.toList_inj.mp h
  have hbytes : a.toUTF8 = b.toUTF8 := by
    cases ha : a.toUTF8
    cases hb : b.toUTF8
    simp_all
  exact String.toByteArray_inj.mp hbytes

/-- Decimal text, as `std::to_string` prints an unsigned integer. -/
def decimal (n : UInt64) : String := toString n.toNat

theorem decimal_injective : Function.Injective decimal := by
  intro a b h
  have hdigits : Nat.toDigits 10 a.toNat = Nat.toDigits 10 b.toNat := by
    have h' : a.toNat.repr.toList = b.toNat.repr.toList := congrArg String.toList h
    simpa only [Nat.toList_repr] using h'
  have hvalue := congrArg (fun ds => Nat.ofDigitChars 10 ds 0) hdigits
  simp only [Nat.ofDigitChars_ten_toDigits] at hvalue
  exact UInt64.toNat_inj.mp hvalue

/-- `std::map`: unique keys, iterated in the order of the keys. -/
abbrev Map (κ α : Type) [Ord κ] := Std.ExtTreeMap κ α compare

inductive IdTag
  | host | device | deviceBoot | port | switch | decoder | window | region | pool
  | reservation | consumer | workerBoot

structure Id (t : IdTag) where
  value : Str := []
  deriving DecidableEq

namespace Id
variable {t : IdTag}

def empty (i : Id t) : Bool := i.value.isEmpty

instance : Ord (Id t) := ⟨compareOn Id.value⟩

instance : Std.TransOrd (Id t) := inferInstanceAs (Std.TransCmp (compareOn Id.value))

instance : Std.LawfulEqOrd (Id t) := ⟨by
  rintro ⟨a⟩ ⟨b⟩ h
  exact congrArg Id.mk ((Std.LawfulEqOrd.compare_eq_iff_eq (α := Str)).mp h)⟩

end Id

abbrev HostId := Id .host
abbrev DeviceId := Id .device
abbrev DeviceBootId := Id .deviceBoot
abbrev PortId := Id .port
abbrev SwitchId := Id .switch
abbrev DecoderId := Id .decoder
abbrev WindowId := Id .window
abbrev RegionId := Id .region
abbrev PoolId := Id .pool
abbrev ReservationId := Id .reservation
abbrev ConsumerId := Id .consumer
abbrev WorkerBootId := Id .workerBoot

inductive GenTag
  | device | region | pool | consumer | coordinatorEpoch | evidence | policy

structure Generation (t : GenTag) where
  value : UInt64 := 0
  deriving DecidableEq

namespace Generation
variable {t : GenTag}

def empty (g : Generation t) : Bool := g.value == 0

instance : LT (Generation t) := ⟨fun a b => a.value < b.value⟩
instance : LE (Generation t) := ⟨fun a b => a.value ≤ b.value⟩
instance (a b : Generation t) : Decidable (a < b) := inferInstanceAs (Decidable (a.value < b.value))
instance (a b : Generation t) : Decidable (a ≤ b) := inferInstanceAs (Decidable (a.value ≤ b.value))

/-- `UINT64_MAX - 1`, the last generation that has a successor check. -/
def max : UInt64 := 18446744073709551614

/-- The next generation, or the empty one at the top of the range. -/
def next (g : Generation t) : Generation t :=
  if g.value = max then ⟨0⟩ else ⟨g.value + 1⟩

theorem le_iff {a b : Generation t} : a ≤ b ↔ a.value.toNat ≤ b.value.toNat := Iff.rfl
theorem lt_iff {a b : Generation t} : a < b ↔ a.value.toNat < b.value.toNat := Iff.rfl

instance : LinearOrder (Generation t) where
  le_refl a := Nat.le_refl a.value.toNat
  le_trans a b c := Nat.le_trans (n := a.value.toNat) (m := b.value.toNat) (k := c.value.toNat)
  lt_iff_le_not_ge a b := by simp only [le_iff, lt_iff]; omega
  le_antisymm a b hab hba := by
    obtain ⟨a⟩ := a
    obtain ⟨b⟩ := b
    exact congrArg Generation.mk (UInt64.toNat_inj.mp (Nat.le_antisymm hab hba))
  le_total a b := Nat.le_total a.value.toNat b.value.toNat
  toDecidableLE := inferInstance
  toDecidableEq := inferInstance
  toDecidableLT := inferInstance

/-- A successor that is not empty is strictly larger: the counter never wraps. -/
theorem lt_next {g : Generation t} (h : g.next.empty = false) : g < g.next := by
  unfold next at h ⊢
  split
  · next hmax => simp [hmax, empty] at h
  · next hmax =>
    rw [if_neg hmax] at h
    have hne : (g.value + 1).toNat ≠ 0 := by
      intro h0
      have : g.value + 1 = 0 := UInt64.toNat_inj.mp h0
      simp [empty, this] at h
    have hlt := g.value.toNat_lt
    rw [UInt64.toNat_add] at hne
    rw [lt_iff]
    simp only [UInt64.toNat_add, UInt64.reduceToNat] at hne ⊢
    omega

/-- Keeping the old generation where the successor is empty never moves backwards. -/
theorem le_next_or_self (g : Generation t) : g ≤ if g.next.empty then g else g.next := by
  split
  · exact le_refl g
  · next h => exact (lt_next (by simpa using h)).le

end Generation

abbrev DeviceGeneration := Generation .device
abbrev RegionGeneration := Generation .region
abbrev PoolGeneration := Generation .pool
abbrev ConsumerGeneration := Generation .consumer
abbrev CoordinatorEpoch := Generation .coordinatorEpoch
abbrev EvidenceGeneration := Generation .evidence
abbrev PolicyGeneration := Generation .policy

end CxlFabric
