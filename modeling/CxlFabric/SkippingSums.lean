import Mathlib

/-! # Sums that leave out what does not fit

An accumulator with a bound adds an amount only if the result stays below the bound, and
otherwise goes on with the next one. The result depends on the order of the amounts, and
it is the sum exactly when the sum is below the bound. -/
namespace CxlFabric

def addWithin (bound a x : ℕ) : ℕ := if a + x < bound then a + x else a

def sumWithin (bound : ℕ) (l : List ℕ) : ℕ := l.foldl (addWithin bound) 0

variable {bound a : ℕ} {l : List ℕ}

theorem addWithin_lt {x : ℕ} (h : a < bound) : addWithin bound a x < bound := by
  unfold addWithin
  split <;> assumption

theorem foldl_addWithin_lt (h : a < bound) : l.foldl (addWithin bound) a < bound := by
  induction l generalizing a with
  | nil => exact h
  | cons x l ih => exact ih (addWithin_lt h)

theorem foldl_addWithin_of_lt (h : a + l.sum < bound) :
    l.foldl (addWithin bound) a = a + l.sum := by
  induction l generalizing a with
  | nil => rfl
  | cons x l ih =>
    rw [List.sum_cons] at h
    have hx : addWithin bound a x = a + x := if_pos (by omega)
    rw [List.foldl_cons, hx, ih (by omega), List.sum_cons]
    omega

theorem sumWithin_of_lt (h : l.sum < bound) : sumWithin bound l = l.sum := by
  have hfold := @foldl_addWithin_of_lt bound 0 l (by omega)
  rwa [Nat.zero_add] at hfold

/-- Nothing is left out exactly when everything fits. -/
theorem sumWithin_eq_sum_iff (hbound : 0 < bound) : sumWithin bound l = l.sum ↔ l.sum < bound := by
  constructor
  · intro h
    rw [← h]
    exact foldl_addWithin_lt hbound
  · exact sumWithin_of_lt

/-- Two parts of each amount, and the second parts added up on their own. An amount that is
left out of the whole shows that the parts together reach the bound, and from then on the
whole cannot get past them. -/
theorem foldl_addWithin_parts_le {β : Type*} (h u : β → ℕ) (l : List β) {t v k : ℕ}
    (hle : t ≤ v + k) (hpast : v ≤ t ∨ bound ≤ v + k) :
    (l.map fun x => h x + u x).foldl (addWithin bound) t ≤
      (l.map u).foldl (addWithin bound) v + (k + (l.map h).sum) := by
  induction l generalizing t v k with
  | nil => simpa using hle
  | cons x l ih =>
    have hnext := @ih (addWithin bound t (h x + u x)) (addWithin bound v (u x)) (k + h x)
      (by unfold addWithin; split_ifs <;> omega) (by unfold addWithin; split_ifs <;> omega)
    simp only [List.map_cons, List.foldl_cons, List.sum_cons]
    omega

theorem sumWithin_parts_le {β : Type*} (h u : β → ℕ) (l : List β) :
    sumWithin bound (l.map fun x => h x + u x) ≤ sumWithin bound (l.map u) + (l.map h).sum := by
  have hparts :=
    @foldl_addWithin_parts_le bound β h u l 0 0 0 (Nat.le_refl 0) (.inl (Nat.le_refl 0))
  rwa [Nat.zero_add] at hparts

/-- An accumulator kept in another representation follows the one over the naturals. -/
theorem foldl_follows {α β : Type*} {add : α → β → α} (value : α → ℕ) (amount : β → ℕ)
    (hadd : ∀ a x, value (add a x) = addWithin bound (value a) (amount x)) (a : α)
    (l : List β) :
    value (l.foldl add a) = (l.map amount).foldl (addWithin bound) (value a) := by
  induction l generalizing a with
  | nil => rfl
  | cons x l ih => rw [List.foldl_cons, ih, List.map_cons, List.foldl_cons, hadd]

end CxlFabric
