import Mathlib

/-! # Ordered maps: sums over the values, rebuilding, rewriting key by key -/
namespace CxlFabric

open Std

variable {κ α : Type*} {cmp : κ → κ → Ordering} [TransCmp cmp] [LawfulEqCmp cmp]

/-- The sum of a weight over all values of a map. -/
def sumBy (f : α → ℕ) (m : ExtTreeMap κ α cmp) : ℕ := (m.toList.map fun e => f e.2).sum

omit [LawfulEqCmp cmp] in
theorem nodup_toList (m : ExtTreeMap κ α cmp) : m.toList.Nodup := by
  refine m.distinct_keys_toList.imp ?_
  rintro a b h rfl
  exact h ReflCmp.compare_self

theorem getElem?_insert_eq [DecidableEq κ] (m : ExtTreeMap κ α cmp) (k k' : κ) (v : α) :
    (m.insert k v)[k']? = if k = k' then some v else m[k']? := by
  rw [ExtTreeMap.getElem?_insert]
  simp only [LawfulEqCmp.compare_eq_iff_eq]

/-- What an insertion leaves under a key: the new value under its own, the old ones elsewhere. -/
theorem of_getElem?_insert [DecidableEq κ] {m : ExtTreeMap κ α cmp} {k k' : κ} {v v' : α}
    (h : (m.insert k v)[k']? = some v') : k = k' ∧ v = v' ∨ k ≠ k' ∧ m[k']? = some v' := by
  rw [getElem?_insert_eq] at h
  split at h
  · next hk => exact .inl ⟨hk, Option.some.inj h⟩
  · next hk => exact .inr ⟨hk, h⟩

theorem getElem?_insertIfNew_eq [DecidableEq κ] (m : ExtTreeMap κ α cmp) (k k' : κ) (v : α) :
    (m.insertIfNew k v)[k']? = if k = k' ∧ m[k']? = none then some v else m[k']? := by
  rw [ExtTreeMap.getElem?_insertIfNew]
  by_cases h : k = k'
  · subst h
    simp only [ReflCmp.compare_self, true_and, ExtTreeMap.mem_iff_isSome_getElem?,
      Option.not_isSome_iff_eq_none]
  · simp only [LawfulEqCmp.compare_eq_iff_eq, h, false_and, if_false]

theorem insertIfNew_of_absent [DecidableEq κ] {m : ExtTreeMap κ α cmp} {k : κ} (v : α)
    (h : m[k]? = none) : m.insertIfNew k v = m.insert k v := by
  apply ExtTreeMap.ext_getElem?
  intro a
  rw [getElem?_insertIfNew_eq, getElem?_insert_eq]
  by_cases hk : k = a
  · subst hk
    simp [h]
  · simp [hk]

omit [LawfulEqCmp cmp] in
theorem size_insert_of_absent {m : ExtTreeMap κ α cmp} {k : κ} (v : α) (h : m[k]? = none) :
    (m.insert k v).size = m.size + 1 := by
  rw [ExtTreeMap.size_insert, ← ExtTreeMap.isSome_getElem?_eq_contains, h]
  rfl

omit [LawfulEqCmp cmp] in
theorem size_insert_of_present {m : ExtTreeMap κ α cmp} {k : κ} {w : α} (v : α)
    (h : m[k]? = some w) : (m.insert k v).size = m.size := by
  rw [ExtTreeMap.size_insert, ← ExtTreeMap.isSome_getElem?_eq_contains, h]
  rfl

/-- Entries of an extended map: the new entry and the entries under other keys. -/
theorem toList_insert_perm [DecidableEq κ] (m : ExtTreeMap κ α cmp) (k : κ) (v : α) :
    (m.insert k v).toList.Perm ((k, v) :: m.toList.filter fun e => e.1 ≠ k) := by
  apply (List.perm_ext_iff_of_nodup (nodup_toList _) ?_).mpr
  · rintro ⟨a, b⟩
    simp only [ExtTreeMap.mem_toList_iff_getElem?_eq_some, getElem?_insert_eq, List.mem_cons,
      Prod.mk.injEq, List.mem_filter, decide_eq_true_eq]
    by_cases h : k = a
    · subst h
      simp [eq_comm]
    · simp [h, Ne.symm h]
  · rw [List.nodup_cons]
    exact ⟨by simp, (nodup_toList m).filter _⟩

theorem toList_perm_of_getElem? [DecidableEq κ] {m : ExtTreeMap κ α cmp} {k : κ} {v : α}
    (h : m[k]? = some v) : m.toList.Perm ((k, v) :: m.toList.filter fun e => e.1 ≠ k) := by
  have hsame : m.insert k v = m := by
    apply ExtTreeMap.ext_getElem?
    intro a
    rw [getElem?_insert_eq]
    split
    · next hk => rw [← hk, h]
    · rfl
  have hperm := toList_insert_perm m k v
  rwa [hsame] at hperm

theorem filter_toList_of_absent [DecidableEq κ] {m : ExtTreeMap κ α cmp} {k : κ}
    (h : m[k]? = none) : m.toList.filter (fun e => e.1 ≠ k) = m.toList := by
  apply List.filter_eq_self.mpr
  rintro ⟨a, b⟩ hmem
  rw [ExtTreeMap.mem_toList_iff_getElem?_eq_some] at hmem
  have hne : a ≠ k := by
    rintro rfl
    rw [h] at hmem
    cases hmem
  simpa using hne

omit [LawfulEqCmp cmp] in
@[simp] theorem sumBy_empty (f : α → ℕ) : sumBy f (∅ : ExtTreeMap κ α cmp) = 0 := by
  simp [sumBy, ExtTreeMap.toList_eq_nil_iff.mpr rfl]

theorem sumBy_insert_of_absent [DecidableEq κ] (f : α → ℕ) {m : ExtTreeMap κ α cmp} {k : κ}
    (v : α) (h : m[k]? = none) : sumBy f (m.insert k v) = sumBy f m + f v := by
  have hsum := ((toList_insert_perm m k v).map fun e => f e.2).sum_eq
  rw [filter_toList_of_absent h] at hsum
  simp only [List.map_cons, List.sum_cons] at hsum
  simp only [sumBy, hsum]
  omega

/-- Replacing a value moves the sum by the difference of the two weights. -/
theorem sumBy_insert_of_present [DecidableEq κ] (f : α → ℕ) {m : ExtTreeMap κ α cmp} {k : κ}
    {w : α} (v : α) (h : m[k]? = some w) : sumBy f (m.insert k v) + f w = sumBy f m + f v := by
  have hnew := ((toList_insert_perm m k v).map fun e => f e.2).sum_eq
  have hold := ((toList_perm_of_getElem? h).map fun e => f e.2).sum_eq
  simp only [List.map_cons, List.sum_cons] at hnew hold
  simp only [sumBy, hnew, hold]
  omega

theorem le_sumBy [DecidableEq κ] (f : α → ℕ) {m : ExtTreeMap κ α cmp} {k : κ} {v : α}
    (h : m[k]? = some v) : f v ≤ sumBy f m := by
  have hold := ((toList_perm_of_getElem? h).map fun e => f e.2).sum_eq
  simp only [List.map_cons, List.sum_cons] at hold
  simp only [sumBy, hold]
  omega

theorem sumBy_eq_zero (f : α → ℕ) {m : ExtTreeMap κ α cmp}
    (h : ∀ (k : κ) (v : α), m[k]? = some v → f v = 0) : sumBy f m = 0 := by
  apply List.sum_eq_zero
  intro n hn
  obtain ⟨⟨k, v⟩, hmem, rfl⟩ := List.mem_map.mp hn
  exact h k v (ExtTreeMap.mem_toList_iff_getElem?_eq_some.mp hmem)

omit [LawfulEqCmp cmp] in
theorem sumBy_mono {f g : α → ℕ} (hfg : ∀ v, f v ≤ g v) (m : ExtTreeMap κ α cmp) :
    sumBy f m ≤ sumBy g m := List.sum_le_sum fun e _ => hfg e.2

theorem sumBy_le_sumBy {f g : α → ℕ} {m : ExtTreeMap κ α cmp}
    (hfg : ∀ (k : κ) (v : α), m[k]? = some v → f v ≤ g v) : sumBy f m ≤ sumBy g m := by
  apply List.sum_le_sum
  rintro ⟨k, v⟩ hmem
  exact hfg k v (ExtTreeMap.mem_toList_iff_getElem?_eq_some.mp hmem)

omit [LawfulEqCmp cmp] in
theorem sumBy_add (f g : α → ℕ) (m : ExtTreeMap κ α cmp) :
    sumBy (fun v => f v + g v) m = sumBy f m + sumBy g m := by
  unfold sumBy
  exact List.sum_map_add

/-- A replaced or new value raises the sum by no more than its weight has grown. -/
theorem sumBy_insert_le [DecidableEq κ] (f : α → ℕ) {m : ExtTreeMap κ α cmp} {k : κ} {v : α}
    {n : ℕ} (habsent : m[k]? = none → f v ≤ n)
    (hpresent : ∀ w, m[k]? = some w → f v ≤ f w + n) :
    sumBy f (m.insert k v) ≤ sumBy f m + n := by
  cases hk : m[k]? with
  | none =>
    have := habsent hk
    rw [sumBy_insert_of_absent f v hk]
    omega
  | some w =>
    have hsum := sumBy_insert_of_present f v hk
    have := hpresent w hk
    omega

/-- A value that is kept out leaves the sum alone. -/
theorem sumBy_insertIfNew_le [DecidableEq κ] (f : α → ℕ) (m : ExtTreeMap κ α cmp) (k : κ) (v : α) :
    sumBy f (m.insertIfNew k v) ≤ sumBy f m + f v := by
  cases hk : m[k]? with
  | none => rw [insertIfNew_of_absent v hk, sumBy_insert_of_absent f v hk]
  | some w =>
    have hsame : m.insertIfNew k v = m := by
      apply ExtTreeMap.ext_getElem?
      intro a
      rw [getElem?_insertIfNew_eq, if_neg]
      rintro ⟨rfl, hnone⟩
      cases hk.symm.trans hnone
    rw [hsame]
    exact Nat.le_add_right _ _

/-- A lighter value in place of another one does not raise the sum. -/
theorem sumBy_replace_le [DecidableEq κ] (f : α → ℕ) {m : ExtTreeMap κ α cmp} {k : κ} {v w : α}
    (h : m[k]? = some w) (hle : f v ≤ f w) : sumBy f (m.insert k v) ≤ sumBy f m := by
  have hsum := sumBy_insert_of_present f v h
  omega

section collect
variable [DecidableEq κ] {key : α → κ}

/-- Store every record under its key, later ones over earlier ones. -/
def collect (key : α → κ) (xs : List α) : ExtTreeMap κ α cmp :=
  xs.foldl (fun m x => m.insert (key x) x) ∅

theorem foldl_insert_keyed {xs : List α} {m : ExtTreeMap κ α cmp}
    (hm : ∀ (k : κ) (v : α), m[k]? = some v → key v = k) {k : κ} {v : α}
    (h : (xs.foldl (fun m x => m.insert (key x) x) m)[k]? = some v) : key v = k := by
  induction xs generalizing m with
  | nil => exact hm k v h
  | cons x xs ih =>
    refine ih ?_ h
    intro k' v' h'
    obtain ⟨hk, rfl⟩ | ⟨-, h'⟩ := of_getElem?_insert h'
    · exact hk
    · exact hm k' v' h'

theorem collect_keyed {xs : List α} {k : κ} {v : α}
    (h : (collect key xs : ExtTreeMap κ α cmp)[k]? = some v) : key v = k := by
  refine foldl_insert_keyed (m := (∅ : ExtTreeMap κ α cmp)) ?_ h
  intro k' v' h'
  simp at h'

theorem foldl_insert_of_absent {xs : List α} {m : ExtTreeMap κ α cmp} {k : κ}
    (h : ∀ x ∈ xs, key x ≠ k) : (xs.foldl (fun m x => m.insert (key x) x) m)[k]? = m[k]? := by
  induction xs generalizing m with
  | nil => rfl
  | cons x xs ih =>
    rw [List.foldl_cons, ih fun y hy => h y (List.mem_cons_of_mem x hy), getElem?_insert_eq,
      if_neg (h x List.mem_cons_self)]

theorem foldl_insert_of_mem {xs : List α} {m : ExtTreeMap κ α cmp}
    (hdistinct : (xs.map key).Nodup) {x : α} (hx : x ∈ xs) :
    (xs.foldl (fun m x => m.insert (key x) x) m)[key x]? = some x := by
  induction xs generalizing m with
  | nil => cases hx
  | cons y xs ih =>
    rw [List.map_cons, List.nodup_cons] at hdistinct
    rw [List.foldl_cons]
    rcases List.mem_cons.mp hx with rfl | hx
    · rw [foldl_insert_of_absent, getElem?_insert_eq, if_pos rfl]
      intro z hz heq
      exact hdistinct.1 (List.mem_map.mpr ⟨z, hz, heq⟩)
    · exact ih hdistinct.2 hx

/-- A map whose values carry their keys is rebuilt from the list of its values, also after
a change of the values that keeps the keys. -/
theorem collect_toList {g : α → α} {m : ExtTreeMap κ α cmp}
    (hkey : ∀ (k : κ) (v : α), m[k]? = some v → key (g v) = k) :
    (collect key (m.toList.map fun e => g e.2) : ExtTreeMap κ α cmp) = m.map fun _ v => g v := by
  have hkeys : (m.toList.map fun e => g e.2).map key = m.toList.map (·.1) := by
    rw [List.map_map]
    apply List.map_congr_left
    rintro ⟨k, v⟩ hmem
    exact hkey k v (ExtTreeMap.mem_toList_iff_getElem?_eq_some.mp hmem)
  have hdistinct : ((m.toList.map fun e => g e.2).map key).Nodup := by
    rw [hkeys]
    apply List.pairwise_map.mpr
    refine m.distinct_keys_toList.imp ?_
    intro a b hne heq
    exact hne (LawfulEqCmp.compare_eq_iff_eq.mpr heq)
  apply ExtTreeMap.ext_getElem?
  intro k
  rw [ExtTreeMap.getElem?_map]
  cases hk : m[k]? with
  | some v =>
    have hmem : g v ∈ m.toList.map fun e => g e.2 :=
      List.mem_map.mpr ⟨(k, v), ExtTreeMap.mem_toList_iff_getElem?_eq_some.mpr hk, rfl⟩
    have := foldl_insert_of_mem (m := (∅ : ExtTreeMap κ α cmp)) hdistinct hmem
    rwa [hkey k v hk] at this
  | none =>
    unfold collect
    rw [foldl_insert_of_absent]
    · exact ExtTreeMap.getElem?_empty
    · intro x hx heq
      obtain ⟨⟨k', v⟩, hmem, rfl⟩ := List.mem_map.mp hx
      have hv := ExtTreeMap.mem_toList_iff_getElem?_eq_some.mp hmem
      rw [← heq, hkey k' v hv, hv] at hk
      cases hk

/-- What is found in the rebuilt map. -/
theorem getElem?_collect_toList {g : α → α} {m : ExtTreeMap κ α cmp}
    (hkey : ∀ (k : κ) (v : α), m[k]? = some v → key (g v) = k) (k : κ) :
    (collect key (m.toList.map fun e => g e.2) : ExtTreeMap κ α cmp)[k]? = m[k]?.map g := by
  rw [collect_toList hkey, ExtTreeMap.getElem?_map]

theorem mem_of_foldl_insert {xs : List α} {m : ExtTreeMap κ α cmp} {k : κ} {v : α}
    (h : (xs.foldl (fun m x => m.insert (key x) x) m)[k]? = some v) :
    v ∈ xs ∨ m[k]? = some v := by
  induction xs generalizing m with
  | nil => exact .inr h
  | cons x xs ih =>
    rcases ih h with hmem | hold
    · exact .inl (List.mem_cons_of_mem x hmem)
    · obtain ⟨-, rfl⟩ | ⟨-, hold⟩ := of_getElem?_insert hold
      · exact .inl List.mem_cons_self
      · exact .inr hold

/-- A map holds no records but those it was collected from. -/
theorem mem_of_collect {xs : List α} {v : α}
    (h : v ∈ (collect key xs : ExtTreeMap κ α cmp).toList.map (·.2)) : v ∈ xs := by
  obtain ⟨⟨k, v⟩, hmem, rfl⟩ := List.mem_map.mp h
  have hv := ExtTreeMap.mem_toList_iff_getElem?_eq_some.mp hmem
  rcases mem_of_foldl_insert (m := (∅ : ExtTreeMap κ α cmp)) hv with hxs | hempty
  · exact hxs
  · simp at hempty

theorem sumBy_foldl_insert_le (f : α → ℕ) (xs : List α) (m : ExtTreeMap κ α cmp) :
    sumBy f (xs.foldl (fun m x => m.insert (key x) x) m) ≤ sumBy f m + (xs.map f).sum := by
  induction xs generalizing m with
  | nil => exact Nat.le_refl _
  | cons x xs ih =>
    have hinsert : sumBy f (m.insert (key x) x) ≤ sumBy f m + f x :=
      sumBy_insert_le f (fun _ => Nat.le_refl _) fun _ _ => Nat.le_add_left _ _
    have hrest := ih (m.insert (key x) x)
    rw [List.foldl_cons, List.map_cons, List.sum_cons]
    omega

theorem sumBy_collect_le (f : α → ℕ) (xs : List α) :
    sumBy f (collect key xs : ExtTreeMap κ α cmp) ≤ (xs.map f).sum := by
  have h : sumBy f (collect key xs : ExtTreeMap κ α cmp) ≤
      sumBy f (∅ : ExtTreeMap κ α cmp) + (xs.map f).sum := sumBy_foldl_insert_le f xs ∅
  rwa [sumBy_empty, Nat.zero_add] at h

theorem size_collect_le (xs : List α) :
    (collect key xs : ExtTreeMap κ α cmp).size ≤ xs.length := by
  have h : sumBy (fun _ => 1) (collect key xs : ExtTreeMap κ α cmp) ≤ (xs.map fun _ => 1).sum :=
    sumBy_collect_le (fun _ => 1) xs
  simpa [sumBy] using h

/-- A collected map is collected from its own records again. -/
theorem collect_toList_collect (xs : List α) :
    collect key ((collect key xs : ExtTreeMap κ α cmp).toList.map (·.2)) =
      (collect key xs : ExtTreeMap κ α cmp) := by
  apply ExtTreeMap.ext_getElem?
  intro k
  rw [getElem?_collect_toList (g := fun v => v) fun k v hv => collect_keyed hv]
  simp

end collect

section rewriting
variable [DecidableEq κ] {g : α → α} {done : κ → Prop} {m₀ m : ExtTreeMap κ α cmp}

/-- The values of `m₀` under the keys that are done have been rewritten, the others not. -/
def RewrittenAt (g : α → α) (done : κ → Prop) (m₀ m : ExtTreeMap κ α cmp) : Prop :=
  ∀ k, (done k → m[k]? = m₀[k]?.map g) ∧ (¬done k → m[k]? = m₀[k]?)

namespace RewrittenAt

omit [LawfulEqCmp cmp] [DecidableEq κ] in
theorem start (g : α → α) (m : ExtTreeMap κ α cmp) (hdone : ∀ k, ¬done k) :
    RewrittenAt g done m m := fun k => ⟨fun h => absurd h (hdone k), fun _ => rfl⟩

omit [LawfulEqCmp cmp] [DecidableEq κ] in
theorem congr {done' : κ → Prop} (h : RewrittenAt g done m₀ m) (hiff : ∀ k, done' k ↔ done k) :
    RewrittenAt g done' m₀ m := by
  intro k
  rw [hiff k]
  exact h k

omit [LawfulEqCmp cmp] [DecidableEq κ] in
/-- A value that is found is the old one or the rewritten one. -/
theorem found (h : RewrittenAt g done m₀ m) {k : κ} {a : α} (hk : m[k]? = some a) :
    ∃ a₀, m₀[k]? = some a₀ ∧ (a = a₀ ∨ a = g a₀) := by
  by_cases hdone : done k
  · rw [(h k).1 hdone] at hk
    obtain ⟨a₀, ha₀, rfl⟩ := Option.map_eq_some_iff.mp hk
    exact ⟨a₀, ha₀, .inr rfl⟩
  · rw [(h k).2 hdone] at hk
    exact ⟨a, hk, .inl rfl⟩

/-- Rewriting the value of one more key. -/
theorem insert (hidem : ∀ a, g (g a) = g a) (h : RewrittenAt g done m₀ m) {k : κ} {a : α}
    (hk : m[k]? = some a) : RewrittenAt g (fun k' => k' = k ∨ done k') m₀ (m.insert k (g a)) := by
  intro k'
  rw [getElem?_insert_eq]
  by_cases hkk : k = k'
  · subst hkk
    obtain ⟨a₀, ha₀, rfl | rfl⟩ := h.found hk
    · simp [ha₀]
    · simp [ha₀, hidem]
  · rw [if_neg hkk]
    have hne : k' ≠ k := Ne.symm hkk
    simp only [hne, false_or]
    exact h k'

omit [LawfulEqCmp cmp] [DecidableEq κ] in
/-- There is nothing to rewrite under an absent key. -/
theorem absent (h : RewrittenAt g done m₀ m) {k : κ} (hk : m[k]? = none) :
    RewrittenAt g (fun k' => k' = k ∨ done k') m₀ m := by
  intro k'
  refine ⟨?_, fun hno => (h k').2 fun hdone => hno (.inr hdone)⟩
  rintro (rfl | hdone)
  · by_cases hdone : done k'
    · exact (h k').1 hdone
    · have hold := (h k').2 hdone
      rw [hk] at hold
      rw [hk, ← hold]
      rfl
  · exact (h k').1 hdone

end RewrittenAt

end rewriting

end CxlFabric
