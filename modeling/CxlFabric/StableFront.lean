import Mathlib

/-! # The front of a stable sort

For a total preorder, a stable sort puts the first of the best elements in front. Which
one that is does not depend on the order inside blocks that hold no two different best
elements. -/
namespace CxlFabric

variable {α : Type*} {r : α → α → Prop}

/-- The first of the best elements of a list: strictly better than what precedes it and at
least as good as what follows it. -/
def FirstBest (r : α → α → Prop) (l : List α) (x : α) : Prop :=
  ∃ pre post, l = pre ++ x :: post ∧ (∀ a ∈ pre, ¬r a x) ∧ ∀ a ∈ post, r x a

namespace FirstBest
variable {l : List α} {x y : α}

theorem mem (h : FirstBest r l x) : x ∈ l := by
  obtain ⟨pre, post, rfl, -, -⟩ := h
  simp

theorem le [Std.Total r] (h : FirstBest r l x) {a : α} (ha : a ∈ l) : r x a := by
  obtain ⟨pre, post, rfl, hpre, hpost⟩ := h
  rcases List.mem_append.mp ha with ha | ha
  · exact (Std.Total.total x a).resolve_right (hpre a ha)
  · rcases List.mem_cons.mp ha with rfl | ha
    · exact (Std.Total.total a a).elim id id
    · exact hpost a ha

/-- The first best element of a concatenation comes from the left part, or from the right
part and beats the whole left part. -/
theorem append {s t : List α} (h : FirstBest r (s ++ t) x) :
    x ∈ s ∨ (FirstBest r t x ∧ ∀ a ∈ s, ¬r a x) := by
  obtain ⟨pre, post, heq, hpre, hpost⟩ := h
  rcases List.append_eq_append_iff.mp heq with ⟨u, hpu, htu⟩ | ⟨u, hsu, hxu⟩
  · subst hpu
    exact .inr ⟨⟨u, post, htu, fun a ha => hpre a (by simp [ha]), hpost⟩,
      fun a ha => hpre a (by simp [ha])⟩
  · subst hsu
    cases u with
    | nil =>
      refine .inr ⟨⟨[], post, by simpa using hxu.symm, by simp, hpost⟩, ?_⟩
      simpa using hpre
    | cons b u =>
      cases hxu
      exact .inl (by simp)

theorem map {β : Type*} {s : β → β → Prop} {g : α → β} (hg : ∀ a b, r a b ↔ s (g a) (g b))
    (h : FirstBest r l x) : FirstBest s (l.map g) (g x) := by
  obtain ⟨pre, post, rfl, hpre, hpost⟩ := h
  refine ⟨pre.map g, post.map g, by simp, ?_, ?_⟩
  · intro b hb
    obtain ⟨a, ha, rfl⟩ := List.mem_map.mp hb
    exact fun hs => hpre a ha ((hg a x).mpr hs)
  · intro b hb
    obtain ⟨a, ha, rfl⟩ := List.mem_map.mp hb
    exact (hg x a).mp (hpost a ha)

/-- Reordering blocks inside does not change the first best element. -/
theorem of_blocks [Std.Total r] {bs bs' : List (List α)}
    (hblocks : List.Forall₂ List.Perm bs bs')
    (htie : ∀ b ∈ bs, ∀ a ∈ b, ∀ a' ∈ b, r a a' → r a' a → a = a')
    (h : FirstBest r bs.flatten x) (h' : FirstBest r bs'.flatten y) : x = y := by
  induction hblocks with
  | nil => simpa using h.mem
  | @cons b b' bs bs' hb hbs ih =>
    have hmem {a : α} : a ∈ (b :: bs).flatten ↔ a ∈ (b' :: bs').flatten :=
      (List.Perm.flatten_congr (.cons hb hbs)).mem_iff
    have hxy : r x y := h.le (hmem.mpr h'.mem)
    have hyx : r y x := h'.le (hmem.mp h.mem)
    rw [List.flatten_cons] at h h'
    obtain hx | ⟨hx, hbeats⟩ := h.append
    · obtain hy | ⟨-, hbeats'⟩ := h'.append
      · exact htie b List.mem_cons_self x hx y (hb.mem_iff.mpr hy) hxy hyx
      · exact absurd hxy (hbeats' x (hb.mem_iff.mp hx))
    · obtain hy | ⟨hy, -⟩ := h'.append
      · exact absurd hyx (hbeats y (hb.mem_iff.mpr hy))
      · exact ih (fun c hc => htie c (List.mem_cons_of_mem b hc)) hx hy

theorem unique [Std.Total r] (h : FirstBest r l x) (h' : FirstBest r l y) : x = y := by
  have hsingle : (l.map fun a => [a]).flatten = l := by
    rw [← List.flatMap_def, List.flatMap_singleton']
  have hblocks : List.Forall₂ List.Perm (l.map fun a => [a]) (l.map fun a => [a]) :=
    List.forall₂_same.mpr fun b _ => .refl b
  refine of_blocks hblocks ?_ (hsingle.symm ▸ h) (hsingle.symm ▸ h')
  intro b hb a ha a' ha' _ _
  obtain ⟨c, -, rfl⟩ := List.mem_map.mp hb
  rw [List.mem_singleton.mp ha, List.mem_singleton.mp ha']

end FirstBest

/-- A stable sort puts the first best element in front. -/
theorem firstBest_of_insertionSort [DecidableRel r] [Std.Total r] [IsTrans α r] {l rest : List α}
    {x : α} (h : l.insertionSort r = x :: rest) : FirstBest r l x := by
  induction l generalizing x rest with
  | nil => cases h
  | cons a l ih =>
    rw [List.insertionSort_cons] at h
    cases hsorted : l.insertionSort r with
    | nil =>
      have hl : l = [] := by
        have := List.length_insertionSort r l
        rw [hsorted] at this
        exact List.length_eq_zero_iff.mp this.symm
      subst hl
      rw [hsorted] at h
      cases h
      exact ⟨[], [], rfl, by simp, by simp⟩
    | cons b tail =>
      obtain ⟨pre, post, rfl, hpre, hpost⟩ := ih hsorted
      rw [hsorted, List.orderedInsert_cons] at h
      split at h
      · next hab =>
        cases h
        refine ⟨[], _, rfl, by simp, ?_⟩
        intro c hc
        rcases List.mem_append.mp hc with hc | hc
        · exact IsTrans.trans _ _ _ hab ((Std.Total.total b c).resolve_right (hpre c hc))
        · rcases List.mem_cons.mp hc with rfl | hc
          · exact hab
          · exact IsTrans.trans _ _ _ hab (hpost c hc)
      · next hab =>
        cases h
        refine ⟨a :: pre, post, rfl, ?_, hpost⟩
        intro c hc
        rcases List.mem_cons.mp hc with rfl | hc
        · exact hab
        · exact hpre c hc

end CxlFabric
