import Mathlib

/-! # Scoped enumerations whose objects may hold any 32-bit value

A C++ `enum class` has a fixed underlying type, so a cast from a 32-bit word is
defined for every word and may leave the object without a declared enumerator.
`OpenEnum E` adds exactly those words to the declared enumerators `E`; a word that
does name an enumerator has only its declared form. -/
namespace CxlFabric

/-- The enumerators of a scoped enumeration in declaration order, with their texts. -/
class Enumerators (E : Type) where
  table : List (E × String)
  nodup : (table.map Prod.fst).Nodup
  complete : ∀ e, e ∈ table.map Prod.fst
  small : table.length < 2 ^ 32

namespace Enumerators
variable {E : Type} [Enumerators E]

def all (E : Type) [Enumerators E] : List E := (table (E := E)).map Prod.fst

theorem length_all_lt : (all E).length < 2 ^ 32 := by
  simpa only [all, List.length_map] using small (E := E)

end Enumerators

inductive OpenEnum (E : Type) [Enumerators E]
  | named (e : E)
  | undeclared (raw : UInt32) (h : (Enumerators.all E).length ≤ raw.toNat)
  deriving DecidableEq

namespace OpenEnum
variable {E : Type} [DecidableEq E] [Enumerators E]

instance : Coe E (OpenEnum E) := ⟨.named⟩

/-- The cast to a 32-bit word: the declaration index, or the undeclared word itself. -/
def toUInt32 : OpenEnum E → UInt32
  | .named e => UInt32.ofNat ((Enumerators.all E).idxOf e)
  | .undeclared raw _ => raw

/-- The cast from a 32-bit word. -/
def ofUInt32 (v : UInt32) : OpenEnum E :=
  if h : v.toNat < (Enumerators.all E).length then .named ((Enumerators.all E).get ⟨v.toNat, h⟩)
  else .undeclared v (Nat.le_of_not_lt h)

theorem toNat_toUInt32_named (e : E) :
    (toUInt32 (.named e)).toNat = (Enumerators.all E).idxOf e := by
  have hlt : (Enumerators.all E).idxOf e < (Enumerators.all E).length :=
    List.idxOf_lt_length_of_mem (Enumerators.complete e)
  have hsmall := Enumerators.length_all_lt (E := E)
  exact UInt32.toNat_ofNat_of_lt' (hlt.trans hsmall)

/-- Casting an enumeration object to a word and back never changes it. -/
@[simp] theorem ofUInt32_toUInt32 (x : OpenEnum E) : ofUInt32 x.toUInt32 = x := by
  cases x with
  | named e =>
    have hlt : (Enumerators.all E).idxOf e < (Enumerators.all E).length :=
      List.idxOf_lt_length_of_mem (Enumerators.complete e)
    have hcode := toNat_toUInt32_named e
    simp only [ofUInt32, hcode, hlt, dif_pos, named.injEq]
    exact List.idxOf_get hlt
  | undeclared raw h => exact dif_neg (Nat.not_lt.mpr h)

theorem toUInt32_injective : Function.Injective (toUInt32 (E := E)) :=
  Function.LeftInverse.injective ofUInt32_toUInt32

/-- The text of an enumerator; an object without one prints `UNKNOWN`. -/
def toText : OpenEnum E → String
  | .named e => ((Enumerators.table (E := E)).lookup e).getD "UNKNOWN"
  | .undeclared _ _ => "UNKNOWN"

/-- The underlying `int`, which orders the objects of the enumeration. -/
def toInt (x : OpenEnum E) : Int := x.toUInt32.toBitVec.toInt

theorem toInt_injective : Function.Injective (toInt (E := E)) := by
  intro x y h
  apply toUInt32_injective
  exact UInt32.toBitVec_inj.mp (BitVec.toInt_inj.mp h)

instance : Ord (OpenEnum E) := ⟨compareOn toInt⟩

instance : Std.TransOrd (OpenEnum E) := inferInstanceAs (Std.TransCmp (compareOn toInt))

instance : Std.LawfulEqOrd (OpenEnum E) := ⟨fun h =>
  toInt_injective ((Std.LawfulEqOrd.compare_eq_iff_eq (α := Int)).mp h)⟩

end OpenEnum

end CxlFabric
