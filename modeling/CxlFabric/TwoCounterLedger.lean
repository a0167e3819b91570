import Mathlib

/-! # A ledger kept in two counters

A ledger records live amounts, some of them pending and the rest settled, in two
counters. Freeing an amount drains the second counter first, whatever the amount was, so
the counters do not track the split: the sum is exact, and the first counter only bounds
the pending part from above. -/
namespace CxlFabric

structure Balanced (reserved committed live pending : ℕ) : Prop where
  sum : reserved + committed = live
  pending_le : pending ≤ reserved

namespace Balanced
variable {reserved committed live pending live' pending' n : ℕ}

theorem zero : Balanced 0 0 0 0 := ⟨rfl, Nat.le_refl 0⟩

theorem book (h : Balanced reserved committed live pending) (n : ℕ) :
    Balanced (reserved + n) committed (live + n) (pending + n) :=
  ⟨by have := h.sum; omega, by have := h.pending_le; omega⟩

theorem settle (h : Balanced reserved committed live pending) (hp : pending' + n = pending) :
    Balanced (reserved - n) (committed + n) live pending' :=
  ⟨by have := h.sum; have := h.pending_le; omega, by have := h.pending_le; omega⟩

/-- Every live amount is covered by the two counters together. -/
theorem covered (h : Balanced reserved committed live pending) (hn : n ≤ live) :
    n - min n committed ≤ reserved := by have := h.sum; omega

/-- Draining the second counter first keeps the balance, for a pending amount
(`pending' + n = pending`) as for a settled one (`pending' = pending`). -/
theorem drain (h : Balanced reserved committed live pending) (hl : live' + n = live)
    (hp : pending' ≤ live') (hle : pending' + n = pending ∨ pending' = pending) :
    Balanced (reserved - (n - min n committed)) (committed - min n committed) live' pending' := by
  have hsum := h.sum
  have hpending := h.pending_le
  constructor
  · omega
  · omega

theorem eq_zero (h : Balanced reserved committed 0 pending) : reserved = 0 ∧ committed = 0 := by
  have := h.sum; omega

end Balanced

/-- Two counters that hold at least the live amounts, and the first one at least the
pending ones. -/
structure Covered (reserved committed live pending : ℕ) : Prop where
  sum : live ≤ reserved + committed
  pending_le : pending ≤ reserved

namespace Covered
variable {reserved committed live pending live' pending' n : ℕ}

theorem book (h : Covered reserved committed live pending) (hl : live' ≤ live + n)
    (hp : pending' ≤ pending + n) : Covered (reserved + n) committed live' pending' :=
  ⟨by have := h.sum; omega, by have := h.pending_le; omega⟩

theorem settle (h : Covered reserved committed live pending) (hl : live' ≤ live)
    (hp : pending' + n ≤ pending) : Covered (reserved - n) (committed + n) live' pending' :=
  ⟨by have := h.sum; have := h.pending_le; omega, by have := h.pending_le; omega⟩

theorem drain (h : Covered reserved committed live pending) (hl : live' + n = live)
    (hp : pending' ≤ live') (hle : pending' ≤ pending) :
    Covered (reserved - (n - min n committed)) (committed - min n committed) live' pending' := by
  have hsum := h.sum
  have hpending := h.pending_le
  constructor
  · omega
  · omega

theorem mono (h : Covered reserved committed live pending) (hl : live' ≤ live)
    (hp : pending' ≤ pending) : Covered reserved committed live' pending' :=
  ⟨hl.trans h.sum, hp.trans h.pending_le⟩

end Covered

end CxlFabric
