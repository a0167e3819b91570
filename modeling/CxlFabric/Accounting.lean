import CxlFabric.Records

/-! # Overflow-safe capacity arithmetic

Byte counts are 64-bit words. `addChecked` refuses a sum that would wrap; the free-space
functions use plain word sums, exactly as the source does. -/
namespace CxlFabric

/-- The sum, unless it would exceed `UINT64_MAX`. -/
def addChecked (a b : ByteCount) : Option ByteCount :=
  if a > 18446744073709551615 - b then none else some (a + b)

theorem addChecked_eq_some_iff {a b t : ByteCount} :
    addChecked a b = some t ↔ a.toNat + b.toNat < 2 ^ 64 ∧ t.toNat = a.toNat + b.toNat := by
  have ha := a.toNat_lt
  have hb := b.toNat_lt
  have hle : b ≤ (18446744073709551615 : ByteCount) := by
    rw [UInt64.le_iff_toNat_le]
    simp only [UInt64.reduceToNat]
    omega
  have hgt : a > 18446744073709551615 - b ↔ 2 ^ 64 ≤ a.toNat + b.toNat := by
    rw [gt_iff_lt, UInt64.lt_iff_toNat_lt, UInt64.toNat_sub_of_le _ _ hle]
    simp only [UInt64.reduceToNat]
    omega
  unfold addChecked
  split
  · next h => simp only [reduceCtorEq, false_iff]; have := hgt.mp h; omega
  · next h =>
    have hlt : a.toNat + b.toNat < 2 ^ 64 := by
      by_contra hge
      exact h (hgt.mpr (Nat.le_of_not_lt hge))
    simp only [Option.some.injEq, hlt, true_and]
    constructor
    · rintro rfl
      rw [UInt64.toNat_add, Nat.mod_eq_of_lt hlt]
    · intro ht
      apply UInt64.toNat_inj.mp
      rw [UInt64.toNat_add, Nat.mod_eq_of_lt hlt, ht]

structure CapacityLine where
  total : ByteCount := 0
  online : ByteCount := 0
  unavailable : ByteCount := 0
  reserved : ByteCount := 0
  committed : ByteCount := 0
  draining : ByteCount := 0
  deriving DecidableEq

namespace CapacityLine

def free (g : CapacityLine) : ByteCount :=
  let used := g.unavailable + g.reserved + g.committed + g.draining
  if g.online ≤ used then 0 else g.online - used

/-- The first accounting invariant that the line breaks. -/
def audit (g : CapacityLine) : Option String :=
  let used := g.unavailable + g.reserved + g.committed + g.draining
  if g.online > g.total then some "online > total"
  else if used > g.online then some "used > online"
  else if g.free > g.online then some "free > online"
  else none

end CapacityLine

/-- `pool_free`: what a pool has left for new reservations. -/
def poolFree (p : CxlPool) : ByteCount :=
  let used := p.unavailableBytes + p.reservedBytes + p.committedBytes + p.drainingBytes
  if p.totalGovernedBytes ≤ used then 0 else p.totalGovernedBytes - used

/-- `region_free`: what a region has left for new reservations. -/
def regionFree (r : CxlRegion) : ByteCount :=
  let used := r.reservedBytes + r.committedBytes
  if r.regionCapacityBytes ≤ used then 0 else r.regionCapacityBytes - used

/-- Clamped word subtraction admits `n > 0` only when `n` fits above the used bytes. -/
theorem toNat_add_le_of_le_clampedSub {total used n : ByteCount} (hn : n ≠ 0)
    (h : n ≤ if total ≤ used then 0 else total - used) :
    n.toNat + used.toNat ≤ total.toNat := by
  have hpos : n.toNat ≠ 0 := fun h0 => hn (UInt64.toNat_inj.mp h0)
  split at h
  · rw [UInt64.le_iff_toNat_le] at h
    simp at h
    omega
  · next hlt =>
    have hle : used ≤ total := by
      rw [UInt64.le_iff_toNat_le] at hlt ⊢
      omega
    rw [UInt64.le_iff_toNat_le, UInt64.toNat_sub_of_le _ _ hle] at h
    rw [UInt64.le_iff_toNat_le] at hle
    omega

theorem toNat_add_of_lt {a b : ByteCount} (h : a.toNat + b.toNat < 2 ^ 64) :
    (a + b).toNat = a.toNat + b.toNat := by
  rw [UInt64.toNat_add, Nat.mod_eq_of_lt h]

/-- A pool whose used bytes do not wrap admits only what fits under its governed total. -/
theorem poolFree_spec {p : CxlPool} {n : ByteCount} (hn : n ≠ 0) (h : n ≤ poolFree p)
    (hused : p.unavailableBytes.toNat + p.reservedBytes.toNat + p.committedBytes.toNat +
      p.drainingBytes.toNat < 2 ^ 64) :
    n.toNat + (p.unavailableBytes.toNat + p.reservedBytes.toNat + p.committedBytes.toNat +
      p.drainingBytes.toNat) ≤ p.totalGovernedBytes.toNat := by
  have hfit := toNat_add_le_of_le_clampedSub hn h
  have h₁ : (p.unavailableBytes + p.reservedBytes).toNat =
      p.unavailableBytes.toNat + p.reservedBytes.toNat := toNat_add_of_lt (by omega)
  have h₂ : (p.unavailableBytes + p.reservedBytes + p.committedBytes).toNat =
      p.unavailableBytes.toNat + p.reservedBytes.toNat + p.committedBytes.toNat := by
    rw [toNat_add_of_lt (by omega), h₁]
  rwa [toNat_add_of_lt (by omega), h₂] at hfit

theorem regionFree_spec {r : CxlRegion} {n : ByteCount} (hn : n ≠ 0) (h : n ≤ regionFree r)
    (hused : r.reservedBytes.toNat + r.committedBytes.toNat < 2 ^ 64) :
    n.toNat + (r.reservedBytes.toNat + r.committedBytes.toNat) ≤ r.regionCapacityBytes.toNat := by
  have hfit := toNat_add_le_of_le_clampedSub hn h
  rwa [toNat_add_of_lt hused] at hfit

end CxlFabric
