import Mathlib

/-! # Labelled runs of a partial deterministic machine

`exec s a = some (s', b)` performs the action `a` in the state `s` and reports `b`;
`none` means that the action does not return. A trace lists the actions of a run with
their reports. -/
namespace CxlFabric

variable {σ α β : Type*} {exec : σ → α → Option (σ × β)}

inductive Run (exec : σ → α → Option (σ × β)) : σ → List (α × β) → σ → Prop
  | nil (s : σ) : Run exec s [] s
  | cons {s s' s'' : σ} {a : α} {b : β} {tr : List (α × β)} (head : exec s a = some (s', b))
      (tail : Run exec s' tr s'') : Run exec s ((a, b) :: tr) s''

/-- Perform a list of actions, collecting the trace. -/
def execAll (exec : σ → α → Option (σ × β)) (s : σ) : List α → Option (List (α × β) × σ)
  | [] => some ([], s)
  | a :: as => (exec s a).bind fun r =>
    (execAll exec r.1 as).map fun q => ((a, r.2) :: q.1, q.2)

namespace Run

theorem of_execAll {s : σ} {as : List α} {q : List (α × β) × σ}
    (h : execAll exec s as = some q) : Run exec s q.1 q.2 := by
  induction as generalizing s q with
  | nil =>
    cases h
    exact .nil s
  | cons a as ih =>
    obtain ⟨r, hr, hmap⟩ := Option.bind_eq_some_iff.mp h
    obtain ⟨q', hq, rfl⟩ := Option.map_eq_some_iff.mp hmap
    exact .cons hr (ih hq)

theorem actions_of_execAll {s : σ} {as : List α} {q : List (α × β) × σ}
    (h : execAll exec s as = some q) : q.1.map (·.1) = as := by
  induction as generalizing s q with
  | nil =>
    cases h
    rfl
  | cons a as ih =>
    obtain ⟨r, hr, hmap⟩ := Option.bind_eq_some_iff.mp h
    obtain ⟨q', hq, rfl⟩ := Option.map_eq_some_iff.mp hmap
    exact congrArg (a :: ·) (ih hq)

/-- What a list of actions is computed to reach is reached by a run. -/
theorem exists_of_execAll {s : σ} {l : List α} {P : List (α × β) → σ → Prop}
    (h : ∃ q ∈ execAll exec s l, P q.1 q.2) : ∃ tr s', Run exec s tr s' ∧ P tr s' := by
  obtain ⟨q, hq, hP⟩ := h
  exact ⟨q.1, q.2, of_execAll hq, hP⟩

theorem single {s s' : σ} {a : α} {b : β} (h : exec s a = some (s', b)) :
    Run exec s [(a, b)] s' := .cons h (.nil s')

theorem append {s s' s'' : σ} {tr tr' : List (α × β)} (h : Run exec s tr s')
    (h' : Run exec s' tr' s'') : Run exec s (tr ++ tr') s'' := by
  induction h with
  | nil s => exact h'
  | cons head tail ih => exact .cons head (ih h')

theorem nil_iff {s s' : σ} : Run exec s [] s' ↔ s = s' := by
  constructor
  · intro h
    cases h
    rfl
  · rintro rfl
    exact .nil s

theorem cons_iff {s s'' : σ} {e : α × β} {tr : List (α × β)} :
    Run exec s (e :: tr) s'' ↔ ∃ s', exec s e.1 = some (s', e.2) ∧ Run exec s' tr s'' := by
  constructor
  · intro h
    cases h with
    | cons head tail => exact ⟨_, head, tail⟩
  · rintro ⟨s', head, tail⟩
    exact .cons head tail

theorem deterministic {s t u : σ} {tr : List (α × β)} (h : Run exec s tr t)
    (h' : Run exec s tr u) : t = u := by
  induction h with
  | nil s => exact nil_iff.mp h'
  | cons head tail ih =>
    obtain ⟨s', head', tail'⟩ := cons_iff.mp h'
    cases head.symm.trans head'
    exact ih tail'

/-- A run over a concatenated trace passes through a state between the two parts. -/
theorem split {s s'' : σ} {tr tr' : List (α × β)} (h : Run exec s (tr ++ tr') s'') :
    ∃ s', Run exec s tr s' ∧ Run exec s' tr' s'' := by
  induction tr generalizing s with
  | nil => exact ⟨s, .nil s, h⟩
  | cons e tr ih =>
    obtain ⟨t, head, tail⟩ := cons_iff.mp h
    obtain ⟨s', h₁, h₂⟩ := ih tail
    exact ⟨s', .cons head h₁, h₂⟩

/-- A run passes through the step of each label of its trace. -/
theorem split_mem {s s' : σ} {tr : List (α × β)} (h : Run exec s tr s') {e : α × β}
    (he : e ∈ tr) : ∃ tr₁ tr₂ t t', tr = tr₁ ++ e :: tr₂ ∧ Run exec s tr₁ t ∧
      exec t e.1 = some (t', e.2) ∧ Run exec t' tr₂ s' := by
  obtain ⟨tr₁, tr₂, rfl⟩ := List.append_of_mem he
  obtain ⟨t, h₁, h₂⟩ := h.split
  obtain ⟨t', head, tail⟩ := cons_iff.mp h₂
  exact ⟨tr₁, tr₂, t, t', rfl, h₁, head, tail⟩

/-- Each label of a trace is the label of a step. -/
theorem exec_of_mem {s s' : σ} {tr : List (α × β)} (h : Run exec s tr s') {e : α × β}
    (he : e ∈ tr) : ∃ t t', exec t e.1 = some (t', e.2) := by
  obtain ⟨tr₁, tr₂, t, t', -, -, head, -⟩ := h.split_mem he
  exact ⟨t, t', head⟩

/-- The invariant rule: what every allowed step preserves holds at the end of a run whose
steps are all allowed. -/
theorem invariant {I : σ → Prop} {A : α × β → Prop}
    (hstep : ∀ s a b s', A (a, b) → I s → exec s a = some (s', b) → I s')
    {s s' : σ} {tr : List (α × β)} (h : Run exec s tr s') (hok : ∀ e ∈ tr, A e) (hs : I s) :
    I s' := by
  induction h with
  | nil s => exact hs
  | cons head tail ih =>
    have hI := hstep _ _ _ _ (hok _ (by simp)) hs head
    exact ih (fun e he => hok e (by simp [he])) hI

/-- The invariant rule for what every action keeps. -/
theorem keeps {I : σ → Prop} (hstep : ∀ s a b s', I s → exec s a = some (s', b) → I s')
    {s s' : σ} {tr : List (α × β)} (h : Run exec s tr s') (hs : I s) : I s' := by
  induction h with
  | nil s => exact hs
  | cons head tail ih => exact ih (hstep _ _ _ _ hs head)

/-- The invariant rule for a property of the state and of the trace that led to it.
The step may assume that the extended trace is allowed. -/
theorem invariant_trace {I : List (α × β) → σ → Prop} {A : List (α × β) → Prop}
    (hinit : ∀ tr e, A (tr ++ [e]) → A tr)
    (hstep : ∀ tr s a b s', A (tr ++ [(a, b)]) → I tr s → exec s a = some (s', b) →
      I (tr ++ [(a, b)]) s')
    {s s' : σ} {tr : List (α × β)} (h : Run exec s tr s') (hok : A tr) (hs : I [] s) :
    I tr s' := by
  induction tr using List.reverseRecOn generalizing s' with
  | nil =>
    rw [nil_iff] at h
    exact h ▸ hs
  | append_singleton tr e ih =>
    obtain ⟨t, h₁, h₂⟩ := h.split
    obtain ⟨s₂, head, tail⟩ := cons_iff.mp h₂
    rw [nil_iff] at tail
    subst tail
    exact hstep tr t e.1 e.2 s₂ hok (ih h₁ (hinit tr e hok)) head

section marks
variable {I Q : σ → Prop} {s s' : σ} {tr : List (α × β)} {e e' : α × β}

/-- What a step of a run has brought about and no step undoes holds at the end. -/
theorem mark_holds (hI : ∀ s a b s', I s → exec s a = some (s', b) → I s')
    (hQ : ∀ s a b s', Q s → exec s a = some (s', b) → Q s') (h : Run exec s tr s') (hs : I s)
    (he : e ∈ tr) (hmark : ∀ t t', I t → exec t e.1 = some (t', e.2) → Q t') : Q s' := by
  obtain ⟨tr₁, tr₂, t, t', -, hbefore, hexec, hafter⟩ := h.split_mem he
  exact hafter.keeps hQ (hmark t t' (hbefore.keeps hI hs) hexec)

/-- What only happens while something does not hold, makes it hold and is not undone,
happens once. -/
theorem mark_unique (hI : ∀ s a b s', I s → exec s a = some (s', b) → I s')
    (hQ : ∀ s a b s', Q s → exec s a = some (s', b) → Q s') (h : Run exec s tr s') (hs : I s)
    (he : e ∈ tr) (he' : e' ∈ tr)
    (hmark : ∀ t t', I t → exec t e.1 = some (t', e.2) → ¬Q t ∧ Q t')
    (hmark' : ∀ t t', I t → exec t e'.1 = some (t', e'.2) → ¬Q t ∧ Q t') : e = e' := by
  obtain ⟨tr₁, tr₂, t, t', rfl, hbefore, hexec, hafter⟩ := h.split_mem he
  have ht := hbefore.keeps hI hs
  rcases List.mem_append.mp he' with hmem | hmem
  · -- The other one has happened before.
    have hheld := mark_holds hI hQ hbefore hs hmem fun u u' hu hu' => (hmark' u u' hu hu').2
    exact absurd hheld (hmark t t' ht hexec).1
  · rcases List.mem_cons.mp hmem with rfl | hmem
    · rfl
    · obtain ⟨tr₃, tr₄, u, u', -, hbetween, hexec', -⟩ := hafter.split_mem hmem
      have hheld := hbetween.keeps hQ (hmark t t' ht hexec).2
      exact absurd hheld (hmark' u u' (hbetween.keeps hI (hI _ _ _ _ ht hexec)) hexec').1

end marks

/-- The rule for reordering: where neighbours can be swapped, all steps can be taken in any
order, and lead to the same end with the same reports. -/
theorem perm {I : σ → Prop} {A : α × β → Prop} {D : α × β → α × β → Prop}
    (hsymm : ∀ {x y}, D x y → D y x)
    (hkeeps : ∀ s a b s', A (a, b) → I s → exec s a = some (s', b) → I s')
    (hswap : ∀ s u x y, A x → A y → D x y → I s → Run exec s [x, y] u → Run exec s [y, x] u)
    {tr tr' : List (α × β)} (hperm : tr.Perm tr') {s t : σ} (h : Run exec s tr t)
    (hA : ∀ e ∈ tr, A e) (hD : tr.Pairwise D) (hs : I s) : Run exec s tr' t := by
  induction hperm generalizing s t with
  | nil => exact h
  | cons x hperm ih =>
    obtain ⟨s', head, tail⟩ := cons_iff.mp h
    rw [List.pairwise_cons] at hD
    rw [List.forall_mem_cons] at hA
    exact .cons head (ih tail hA.2 hD.2 (hkeeps s x.1 x.2 s' hA.1 hs head))
  | swap x y tr =>
    have hboth : Run exec s ([y, x] ++ tr) t := h
    obtain ⟨u, hfirst, hrest⟩ := hboth.split
    have hyx : D y x := by
      rw [List.pairwise_cons] at hD
      exact hD.1 x List.mem_cons_self
    have hother := hswap s u y x (hA y (by simp)) (hA x (by simp)) hyx hs hfirst
    exact hother.append hrest
  | trans hperm₁ hperm₂ ih₁ ih₂ =>
    exact ih₂ (ih₁ h hA hD hs) (fun e he => hA e (hperm₁.mem_iff.mpr he))
      ((hperm₁.pairwise_iff hsymm).mp hD) hs

/-- Of the actions that lower a measure a run has no more than the measure. -/
theorem length_add_le {A : α → Prop} {μ : σ → ℕ}
    (hstep : ∀ s a b s', A a → exec s a = some (s', b) → μ s' < μ s)
    {s s' : σ} {tr : List (α × β)} (h : Run exec s tr s') (hA : ∀ e ∈ tr, A e.1) :
    tr.length + μ s' ≤ μ s := by
  induction h with
  | nil s => simp
  | cons head tail ih =>
    have hlt := hstep _ _ _ _ (hA _ List.mem_cons_self) head
    have hle := ih fun e he => hA e (List.mem_cons_of_mem _ he)
    rw [List.length_cons]
    omega

end Run

/-- The step from `t` to `t'` is one of the steps of the run with the trace. -/
def Occurs (exec : σ → α → Option (σ × β)) (s : σ) (tr : List (α × β)) (t : σ) (a : α) (t' : σ) :
    Prop :=
  ∃ tr₁ b tr₂, tr = tr₁ ++ (a, b) :: tr₂ ∧ Run exec s tr₁ t ∧ exec t a = some (t', b)

theorem Occurs.step {s t t' : σ} {tr : List (α × β)} {a : α} (h : Occurs exec s tr t a t') :
    ∃ b, exec t a = some (t', b) := by
  obtain ⟨tr₁, b, tr₂, -, -, hexec⟩ := h
  exact ⟨b, hexec⟩

theorem Occurs.head {s s' : σ} {a : α} {b : β} (h : exec s a = some (s', b))
    (tr : List (α × β)) : Occurs exec s ((a, b) :: tr) s a s' := ⟨[], b, tr, rfl, .nil s, h⟩

theorem Occurs.cons {s s' t t' : σ} {a a' : α} {b : β} {tr : List (α × β)}
    (h : exec s a = some (s', b)) (h' : Occurs exec s' tr t a' t') :
    Occurs exec s ((a, b) :: tr) t a' t' := by
  obtain ⟨tr₁, b', tr₂, rfl, hbefore, hexec⟩ := h'
  exact ⟨(a, b) :: tr₁, b', tr₂, rfl, .cons h hbefore, hexec⟩

/-- The first of the performed actions occurs in the initial state. -/
theorem Occurs.of_execAll {s : σ} {a : α} {as : List α} {q : List (α × β) × σ}
    (h : execAll exec s (a :: as) = some q) : ∃ t', Occurs exec s q.1 s a t' := by
  obtain ⟨r, hr, hmap⟩ := Option.bind_eq_some_iff.mp h
  obtain ⟨q', -, rfl⟩ := Option.map_eq_some_iff.mp hmap
  exact ⟨r.1, .head hr q'.1⟩

/-- A run goes on from the state after a step that occurs in it. -/
theorem Occurs.split {s s' t t' : σ} {tr : List (α × β)} {a : α} (h : Occurs exec s tr t a t')
    (hrun : Run exec s tr s') : ∃ tr₁ b tr₂, tr = tr₁ ++ (a, b) :: tr₂ ∧ Run exec s tr₁ t ∧
      exec t a = some (t', b) ∧ Run exec t' tr₂ s' := by
  obtain ⟨tr₁, b, tr₂, rfl, h₁, head⟩ := h
  refine ⟨tr₁, b, tr₂, rfl, h₁, head, ?_⟩
  obtain ⟨u, hu, h₂⟩ := hrun.split
  obtain ⟨u', head', tail⟩ := Run.cons_iff.mp h₂
  cases Run.deterministic h₁ hu
  cases head.symm.trans head'
  exact tail

/-- The runs whose actions all meet a condition on the state they are taken in. -/
inductive GuardedRun (exec : σ → α → Option (σ × β)) (P : σ → α → Prop) :
    σ → List (α × β) → σ → Prop
  | nil (s : σ) : GuardedRun exec P s [] s
  | cons {s s' s'' : σ} {a : α} {b : β} {tr : List (α × β)} (guard : P s a)
      (head : exec s a = some (s', b)) (tail : GuardedRun exec P s' tr s'') :
      GuardedRun exec P s ((a, b) :: tr) s''

namespace GuardedRun
variable {P : σ → α → Prop}

theorem run {s s' : σ} {tr : List (α × β)} (h : GuardedRun exec P s tr s') : Run exec s tr s' := by
  induction h with
  | nil s => exact .nil s
  | cons guard head tail ih => exact .cons head ih

theorem mono {Q : σ → α → Prop} {s s' : σ} {tr : List (α × β)} (hPQ : ∀ t a, P t a → Q t a)
    (h : GuardedRun exec P s tr s') : GuardedRun exec Q s tr s' := by
  induction h with
  | nil s => exact .nil s
  | cons guard head tail ih => exact .cons (hPQ _ _ guard) head ih

/-- A run is guarded if its steps meet the condition. -/
theorem of_occurs {s s' : σ} {tr : List (α × β)} (h : Run exec s tr s')
    (hP : ∀ t a t', Occurs exec s tr t a t' → P t a) : GuardedRun exec P s tr s' := by
  induction h with
  | nil s => exact .nil s
  | @cons s t u a b tr head tail ih =>
    refine .cons (hP s a t (.head head tr)) head (ih ?_)
    intro v a' v' hoccurs
    exact hP v a' v' (.cons head hoccurs)

/-- A run in which each action is checked before it is taken. -/
theorem of_check {check : σ → α → Bool} (hcheck : ∀ t a, check t a = true → P t a) {s s' : σ}
    {tr : List (α × β)} (h : Run (fun t a => if check t a then exec t a else none) s tr s') :
    GuardedRun exec P s tr s' := by
  induction h with
  | nil s => exact .nil s
  | cons head tail ih =>
    split at head
    · next hpass => exact .cons (hcheck _ _ hpass) head ih
    · cases head

/-- A guarded run meets the condition at each of its steps. -/
theorem split {s s'' : σ} {tr tr' : List (α × β)} (h : GuardedRun exec P s (tr ++ tr') s'') :
    ∃ s', GuardedRun exec P s tr s' ∧ GuardedRun exec P s' tr' s'' := by
  induction tr generalizing s with
  | nil => exact ⟨s, .nil s, h⟩
  | cons e tr ih =>
    cases h with
    | cons guard head tail =>
      obtain ⟨s', h₁, h₂⟩ := ih tail
      exact ⟨s', .cons guard head h₁, h₂⟩

/-- The condition holds wherever an action is taken in a guarded run. -/
theorem guard_of_occurs {s s' t t' : σ} {tr : List (α × β)} {a : α}
    (h : GuardedRun exec P s tr s') (ha : Occurs exec s tr t a t') : P t a := by
  obtain ⟨tr₁, b, tr₂, rfl, h₁, -⟩ := ha
  obtain ⟨u, hu, hrest⟩ := h.split
  cases Run.deterministic h₁ hu.run
  cases hrest with
  | cons guard head tail => exact guard

/-- The invariant rule for guarded runs. -/
theorem keeps {I : σ → Prop} (hstep : ∀ s a b s', P s a → I s → exec s a = some (s', b) → I s')
    {s s' : σ} {tr : List (α × β)} (h : GuardedRun exec P s tr s') (hs : I s) : I s' := by
  induction h with
  | nil s => exact hs
  | cons guard head tail ih => exact ih (hstep _ _ _ _ guard hs head)

/-- The invariant rule for guarded runs, with a condition on the labels as well. -/
theorem invariant {I : σ → Prop} {A : α × β → Prop}
    (hstep : ∀ s a b s', P s a → A (a, b) → I s → exec s a = some (s', b) → I s')
    {s s' : σ} {tr : List (α × β)} (h : GuardedRun exec P s tr s') (hA : ∀ e ∈ tr, A e)
    (hs : I s) : I s' := by
  induction h with
  | nil s => exact hs
  | cons guard head tail ih =>
    have hI := hstep _ _ _ _ guard (hA _ (by simp)) hs head
    exact ih (fun e he => hA e (by simp [he])) hI

/-- Taking actions that go down in a well-founded order leads to a state that has none. -/
theorem exists_final {r : σ → σ → Prop} (hwf : WellFounded r)
    (hstep : ∀ s a b s', P s a → exec s a = some (s', b) → r s' s) (s : σ) :
    ∃ tr s', GuardedRun exec P s tr s' ∧ ∀ a, P s' a → exec s' a = none := by
  induction s using hwf.induction with
  | _ s ih =>
    by_cases hfinal : ∀ a, P s a → exec s a = none
    · exact ⟨[], s, .nil s, hfinal⟩
    · push Not at hfinal
      obtain ⟨a, ha, hsome⟩ := hfinal
      obtain ⟨⟨t, b⟩, hexec⟩ := Option.ne_none_iff_exists'.mp hsome
      obtain ⟨tr, u, hrun, hfinal⟩ := ih t (hstep s a b t ha hexec)
      exact ⟨(a, b) :: tr, u, .cons ha hexec hrun, hfinal⟩

/-- There is no endless sequence of such actions. -/
theorem not_endless {r : σ → σ → Prop} (hwf : WellFounded r)
    (hstep : ∀ s a b s', P s a → exec s a = some (s', b) → r s' s) (states : ℕ → σ) :
    ¬∀ n, ∃ a b, P (states n) a ∧ exec (states n) a = some (states (n + 1), b) := by
  intro hall
  refine (wellFounded_iff_isEmpty_descending_chain.mp hwf).false ⟨states, ?_⟩
  intro n
  obtain ⟨a, b, ha, hexec⟩ := hall n
  exact hstep _ a b _ ha hexec

/-- The labels of a run that is guarded by a condition on the actions. -/
theorem allowed {A : α → Prop} {s s' : σ} {tr : List (α × β)}
    (h : GuardedRun exec (fun _ a => A a) s tr s') : ∀ e ∈ tr, A e.1 := by
  induction h with
  | nil s =>
    intro e he
    cases he
  | cons guard head tail ih =>
    intro e he
    rcases List.mem_cons.mp he with rfl | he
    · exact guard
    · exact ih e he

end GuardedRun

end CxlFabric
