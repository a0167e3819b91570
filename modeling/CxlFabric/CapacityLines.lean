import CxlFabric.LedgerAudit

/-! # The operations of a capacity line

A line is closed when its parts fit into what is online. Reserving, committing and releasing
keep it closed; a drain is admitted against reserved and committed bytes as well, and counts
them a second time. A refused operation leaves the line alone, but for a commit that runs
into the limit of the word. -/
namespace CxlFabric
namespace CapacityLine

/-- The operations return the line they leave, and whether they were admitted. -/
def reserve (g : CapacityLine) (n : ByteCount) : CapacityLine × Bool :=
  if n = 0 then (g, false)
  else if n > g.free then (g, false)
  else ({ g with reserved := g.reserved + n }, true)

def commit (g : CapacityLine) (n : ByteCount) : CapacityLine × Bool :=
  if n = 0 ∨ n > g.reserved then (g, false)
  else
    let g : CapacityLine := { g with reserved := g.reserved - n }
    -- The bytes have left `reserved` before the sum is checked.
    match addChecked g.committed n with
    | none => (g, false)
    | some c => ({ g with committed := c }, true)

def release (g : CapacityLine) (n : ByteCount) : CapacityLine × Bool :=
  let take := if n > 0 ∧ g.committed > 0 then (if n < g.committed then n else g.committed) else 0
  let c := g.committed - take
  let remaining := n - take
  if remaining > 0 then
    if remaining > g.reserved then (g, false)
    else ({ g with committed := c, reserved := g.reserved - remaining }, true)
  else ({ g with committed := c }, true)

def fenceDrain (g : CapacityLine) (n : ByteCount) : CapacityLine × Bool :=
  if n > g.free + g.reserved + g.committed then (g, false)
  else ({ g with draining := g.draining + n }, true)

/-- The parts of the line fit into what is online. -/
structure Closed (g : CapacityLine) : Prop where
  online : g.online.toNat ≤ g.total.toNat
  used : g.unavailable.toNat + g.reserved.toNat + g.committed.toNat + g.draining.toNat ≤
    g.online.toNat

/-- A drain that fits into what is free, or that is refused. -/
def DrainsFree (g : CapacityLine) (n : ByteCount) : Prop :=
  n ≤ g.free ∨ n > g.free + g.reserved + g.committed

inductive LineOp
  | reserve (n : ByteCount)
  | commit (n : ByteCount)
  | release (n : ByteCount)
  | fenceDrain (n : ByteCount)

def perform (g : CapacityLine) : LineOp → CapacityLine × Bool
  | .reserve n => g.reserve n
  | .commit n => g.commit n
  | .release n => g.release n
  | .fenceDrain n => g.fenceDrain n

/-- The line that a sequence of calls leaves. -/
def after (g : CapacityLine) (ops : List LineOp) : CapacityLine :=
  ops.foldl (fun line op => (line.perform op).1) g

section operations
variable {g : CapacityLine} {n : ByteCount}

theorem reserve_cases (g : CapacityLine) (n : ByteCount) : g.reserve n = (g, false) ∨
    n ≤ g.free ∧ g.reserve n = ({ g with reserved := g.reserved + n }, true) := by
  unfold reserve
  split
  · exact .inl rfl
  · split
    · exact .inl rfl
    · next hfit => exact .inr ⟨UInt64.not_lt.mp hfit, rfl⟩

theorem commit_of_none (hn : ¬(n = 0 ∨ n > g.reserved)) (h : addChecked g.committed n = none) :
    g.commit n = ({ g with reserved := g.reserved - n }, false) := by
  unfold commit
  rw [if_neg hn]
  revert h
  -- The kernel must not evaluate the checked sum.
  refine of_forall addChecked ?_
  intro add h
  simp only [h]

theorem commit_of_some {c : ByteCount} (hn : ¬(n = 0 ∨ n > g.reserved))
    (h : addChecked g.committed n = some c) :
    g.commit n = ({ g with reserved := g.reserved - n, committed := c }, true) := by
  unfold commit
  rw [if_neg hn]
  revert h
  refine of_forall addChecked ?_
  intro add h
  simp only [h]

theorem commit_cases (g : CapacityLine) (n : ByteCount) :
    ((n = 0 ∨ g.reserved < n) ∧ g.commit n = (g, false)) ∨
    (n ≠ 0 ∧ n ≤ g.reserved ∧ 2 ^ 64 ≤ g.committed.toNat + n.toNat ∧
      g.commit n = ({ g with reserved := g.reserved - n }, false)) ∨
    (n ≠ 0 ∧ n ≤ g.reserved ∧ ∃ c : ByteCount, c.toNat = g.committed.toNat + n.toNat ∧
      g.commit n = ({ g with reserved := g.reserved - n, committed := c }, true)) := by
  by_cases hn : n = 0 ∨ n > g.reserved
  · exact .inl ⟨hn, by rw [commit, if_pos hn]⟩
  have hfit : n ≤ g.reserved := UInt64.not_lt.mp (not_or.mp hn).2
  rcases hadd : addChecked g.committed n with _ | c
  · refine .inr (.inl ⟨(not_or.mp hn).1, hfit, ?_, commit_of_none hn hadd⟩)
    by_contra hlt
    have hsome : addChecked g.committed n = some (g.committed + n) :=
      addChecked_of_fits (Nat.lt_of_not_le hlt)
    rw [hadd] at hsome
    cases hsome
  · exact .inr (.inr ⟨(not_or.mp hn).1, hfit, c, (addChecked_eq_some_iff.mp hadd).2,
      commit_of_some hn hadd⟩)

/-- What a release takes from the committed bytes. -/
theorem release_take (c n : ByteCount) :
    (if n > 0 ∧ c > 0 then (if n < c then n else c) else 0) = if n < c then n else c := by
  split
  · rfl
  · next h =>
    simp only [gt_iff_lt, UInt64.lt_iff_toNat_lt, UInt64.toNat_zero] at h
    split
    · next hlt =>
      rw [UInt64.lt_iff_toNat_lt] at hlt
      exact UInt64.toNat_inj.mp (by simp only [UInt64.toNat_zero]; omega)
    · next hle =>
      rw [UInt64.lt_iff_toNat_lt] at hle
      exact UInt64.toNat_inj.mp (by simp only [UInt64.toNat_zero]; omega)

/-- A release is refused, or takes its bytes from `committed` and then from `reserved`. -/
theorem release_cases (g : CapacityLine) (n : ByteCount) : g.release n = (g, false) ∨
    ∃ c r : ByteCount, c.toNat ≤ g.committed.toNat ∧ r.toNat ≤ g.reserved.toNat ∧
      c.toNat + r.toNat + n.toNat = g.committed.toNat + g.reserved.toNat ∧
      g.release n = ({ g with committed := c, reserved := r }, true) := by
  unfold release
  rw [release_take]
  by_cases hlt : n < g.committed
  · rw [if_pos hlt]
    dsimp only
    rw [UInt64.sub_self, if_neg (UInt64.lt_irrefl 0)]
    have hle := UInt64.le_of_lt hlt
    have hsub := UInt64.toNat_sub_of_le _ _ hle
    rw [UInt64.le_iff_toNat_le] at hle
    exact .inr ⟨g.committed - n, g.reserved, by omega, le_rfl, by omega, rfl⟩
  · have hle : g.committed ≤ n := UInt64.not_lt.mp hlt
    have hsub := UInt64.toNat_sub_of_le _ _ hle
    rw [UInt64.le_iff_toNat_le] at hle
    rw [if_neg hlt]
    dsimp only
    rw [UInt64.sub_self]
    split
    · split
      · exact .inl rfl
      · next hfit =>
        have hrest := UInt64.not_lt.mp hfit
        have hreserved := UInt64.toNat_sub_of_le _ _ hrest
        rw [UInt64.le_iff_toNat_le] at hrest
        exact .inr ⟨0, g.reserved - (n - g.committed), Nat.zero_le _, by omega,
          by rw [UInt64.toNat_zero]; omega, rfl⟩
    · next hzero =>
      simp only [gt_iff_lt, UInt64.lt_iff_toNat_lt, UInt64.toNat_zero] at hzero
      exact .inr ⟨0, g.reserved, Nat.zero_le _, le_rfl, by rw [UInt64.toNat_zero]; omega, rfl⟩

theorem fenceDrain_cases (g : CapacityLine) (n : ByteCount) :
    (n > g.free + g.reserved + g.committed ∧ g.fenceDrain n = (g, false)) ∨
    (n ≤ g.free + g.reserved + g.committed ∧
      g.fenceDrain n = ({ g with draining := g.draining + n }, true)) := by
  unfold fenceDrain
  split
  · next hn => exact .inl ⟨hn, rfl⟩
  · next hn => exact .inr ⟨UInt64.not_lt.mp hn, rfl⟩

end operations

section closed
variable {g : CapacityLine} {n : ByteCount}

theorem Closed.toNat_free (h : g.Closed) : g.free.toNat + (g.unavailable.toNat +
    g.reserved.toNat + g.committed.toNat + g.draining.toNat) = g.online.toNat := by
  have hused := h.used
  have honline := g.online.toNat_lt
  have h₁ : (g.unavailable + g.reserved).toNat = g.unavailable.toNat + g.reserved.toNat :=
    toNat_add_of_lt (by omega)
  have h₂ : (g.unavailable + g.reserved + g.committed).toNat =
      g.unavailable.toNat + g.reserved.toNat + g.committed.toNat := by
    rw [toNat_add_of_lt (by omega), h₁]
  have h₃ : (g.unavailable + g.reserved + g.committed + g.draining).toNat =
      g.unavailable.toNat + g.reserved.toNat + g.committed.toNat + g.draining.toNat := by
    rw [toNat_add_of_lt (by omega), h₂]
  unfold free
  dsimp only
  split
  · next hle =>
    rw [UInt64.le_iff_toNat_le, h₃] at hle
    simp only [UInt64.toNat_zero]
    omega
  · next hle =>
    rw [UInt64.le_iff_toNat_le, h₃] at hle
    rw [UInt64.toNat_sub_of_le _ _ (by rw [UInt64.le_iff_toNat_le, h₃]; exact hused), h₃]
    omega

/-- What a drain is checked against does not wrap on a closed line. -/
theorem Closed.toNat_drainable (h : g.Closed) : (g.free + g.reserved + g.committed).toNat =
    g.free.toNat + g.reserved.toNat + g.committed.toNat := by
  have hfree := h.toNat_free
  have honline := g.online.toNat_lt
  have h₁ : (g.free + g.reserved).toNat = g.free.toNat + g.reserved.toNat :=
    toNat_add_of_lt (by omega)
  rw [toNat_add_of_lt (by omega), h₁]

theorem Closed.reserve (h : g.Closed) (n : ByteCount) : (g.reserve n).1.Closed := by
  rcases reserve_cases g n with heq | ⟨hfit, heq⟩
  · rw [heq]
    exact h
  · rw [heq]
    rw [UInt64.le_iff_toNat_le] at hfit
    have hfree := h.toNat_free
    have honline := g.online.toNat_lt
    refine ⟨h.online, ?_⟩
    dsimp only
    rw [toNat_add_of_lt (by omega)]
    omega

theorem Closed.commit (h : g.Closed) (n : ByteCount) : (g.commit n).1.Closed := by
  have hused := h.used
  rcases commit_cases g n with ⟨-, heq⟩ | ⟨-, hfit, -, heq⟩ | ⟨-, hfit, c, hc, heq⟩
  · rw [heq]
    exact h
  · rw [heq]
    have hsub := UInt64.toNat_sub_of_le _ _ hfit
    refine ⟨h.online, ?_⟩
    dsimp only
    omega
  · rw [heq]
    have hsub := UInt64.toNat_sub_of_le _ _ hfit
    rw [UInt64.le_iff_toNat_le] at hfit
    refine ⟨h.online, ?_⟩
    dsimp only
    omega

theorem Closed.release (h : g.Closed) (n : ByteCount) : (g.release n).1.Closed := by
  have hused := h.used
  rcases release_cases g n with heq | ⟨c, r, hc, hr, -, heq⟩
  · rw [heq]
    exact h
  · rw [heq]
    refine ⟨h.online, ?_⟩
    dsimp only
    omega

/-- A drain keeps the line closed exactly when it takes free bytes only. -/
theorem Closed.fenceDrain_iff (h : g.Closed) :
    (g.fenceDrain n).1.Closed ↔ g.DrainsFree n := by
  have hfree := h.toNat_free
  have honline := g.online.toNat_lt
  have hdrainable := h.toNat_drainable
  rcases fenceDrain_cases g n with ⟨hn, heq⟩ | ⟨hn, heq⟩
  · rw [heq]
    exact iff_of_true h (.inr hn)
  · have hout : ¬n > g.free + g.reserved + g.committed := UInt64.not_lt.mpr hn
    rw [heq, DrainsFree, or_iff_left hout]
    rw [UInt64.le_iff_toNat_le] at hn ⊢
    have hsum : (g.draining + n).toNat = g.draining.toNat + n.toNat := toNat_add_of_lt (by omega)
    constructor
    · intro hclosed
      have hused := hclosed.used
      dsimp only at hused
      omega
    · intro hfit
      refine ⟨h.online, ?_⟩
      dsimp only
      omega

theorem Closed.perform_iff (h : g.Closed) (op : LineOp) :
    (g.perform op).1.Closed ↔ ∀ n, op = .fenceDrain n → g.DrainsFree n := by
  cases op with
  | reserve n => exact iff_of_true (h.reserve n) (by simp)
  | commit n => exact iff_of_true (h.commit n) (by simp)
  | release n => exact iff_of_true (h.release n) (by simp)
  | fenceDrain n =>
    refine h.fenceDrain_iff.trans ⟨?_, fun hn => hn n rfl⟩
    rintro hfree m ⟨⟩
    exact hfree

theorem after_concat (g : CapacityLine) (ops : List LineOp) (op : LineOp) :
    g.after (ops ++ [op]) = ((g.after ops).perform op).1 := List.foldl_concat ..

/-- A closed line stays closed, and its parts and what is free add up to what is online,
exactly as long as every drain takes free bytes only or is refused. -/
theorem closed_throughout_iff (h : g.Closed) (ops : List LineOp) :
    (∀ pre, pre <+: ops → (g.after pre).Closed ∧
      (g.after pre).free.toNat + ((g.after pre).unavailable.toNat + (g.after pre).reserved.toNat +
        (g.after pre).committed.toNat + (g.after pre).draining.toNat) =
          (g.after pre).online.toNat) ↔
    ∀ pre n, pre ++ [.fenceDrain n] <+: ops → (g.after pre).DrainsFree n := by
  constructor
  · intro hclosed pre n hpre
    have hbefore := (hclosed pre ((List.prefix_append _ _).trans hpre)).1
    have hnext := (hclosed _ hpre).1
    rw [after_concat, hbefore.perform_iff] at hnext
    exact hnext n rfl
  · intro hdrains pre hpre
    have hclosed : (g.after pre).Closed := by
      induction pre using List.reverseRecOn with
      | nil => exact h
      | append_singleton pre op ih =>
        have hbefore := ih ((List.prefix_append _ _).trans hpre)
        rw [after_concat, hbefore.perform_iff]
        rintro n rfl
        exact hdrains pre n hpre
    exact ⟨hclosed, hclosed.toNat_free⟩

/-- Ten bytes online: all of them are reserved, and then drained. -/
theorem drain_breaks_line : ¬∀ (g : CapacityLine) (ops pre : List LineOp), g.Closed →
    pre <+: ops → (g.after pre).Closed := by
  intro hclosed
  have hused := (hclosed { total := 10, online := 10 } [.reserve 10, .fenceDrain 10] _
    ⟨by decide, by decide⟩ (List.prefix_refl _)).used
  exact absurd hused (by decide +kernel)

/-- A line with calls on it of every kind. The first drain takes free bytes only and the
second one is refused. -/
def drainedLine : CapacityLine := { total := 12, online := 10, unavailable := 1 }

def drainingCalls : List LineOp :=
  [.reserve 4, .commit 3, .fenceDrain 5, .release 2, .fenceDrain 20]

theorem drainingCalls_drainsFree (pre : List LineOp) (n : ByteCount)
    (hpre : pre ++ [.fenceDrain n] <+: drainingCalls) : (drainedLine.after pre).DrainsFree n := by
  obtain ⟨post, hpost⟩ := hpre
  have hcall : drainingCalls[pre.length]? = some (.fenceDrain n) := by
    rw [← hpost]
    simp
  have htake : drainingCalls.take pre.length = pre := by
    rw [← hpost, List.append_assoc, List.take_left]
  rw [← htake]
  generalize pre.length = k at hcall
  match k, hcall with
  | 2, hcall =>
    cases hcall
    exact .inl (by decide +kernel)
  | 4, hcall =>
    cases hcall
    exact .inr (by decide +kernel)

theorem closed_throughout_iff_drains :
    drainedLine.Closed ∧ ∀ pre, pre <+: drainingCalls → (drainedLine.after pre).Closed ∧
      (drainedLine.after pre).free.toNat + ((drainedLine.after pre).unavailable.toNat +
        (drainedLine.after pre).reserved.toNat + (drainedLine.after pre).committed.toNat +
        (drainedLine.after pre).draining.toNat) = (drainedLine.after pre).online.toNat := by
  have hclosed : drainedLine.Closed := ⟨by decide, by decide⟩
  exact ⟨hclosed, (closed_throughout_iff hclosed drainingCalls).mpr drainingCalls_drainsFree⟩

end closed

/-- No refused operation changes the line, and an admitted release takes exactly its bytes. -/
def Atomic (g : CapacityLine) (n : ByteCount) : Prop :=
  (∀ op ∈ [LineOp.reserve n, .commit n, .release n, .fenceDrain n],
    (g.perform op).2 = false → (g.perform op).1 = g) ∧
  ((g.release n).2 = true → (g.release n).1.committed.toNat + (g.release n).1.reserved.toNat +
    n.toNat = g.committed.toNat + g.reserved.toNat)

theorem commit_unchanged_iff (g : CapacityLine) (n : ByteCount) :
    ((g.commit n).2 = false → (g.commit n).1 = g) ↔
      (n ≠ 0 → n ≤ g.reserved → g.committed.toNat + n.toNat < 2 ^ 64) := by
  rcases commit_cases g n with ⟨hout, heq⟩ | ⟨hn, hfit, hover, heq⟩ | ⟨-, -, c, hc, heq⟩
  · rw [heq]
    refine iff_of_true (fun _ => rfl) ?_
    intro hn hfit
    exact absurd hfit (UInt64.not_le.mpr (hout.resolve_left hn))
  · rw [heq]
    refine iff_of_false ?_ fun hlt => absurd (hlt hn hfit) (Nat.not_lt.mpr hover)
    intro hsame
    have hreserved := congrArg (fun line => line.reserved.toNat) (hsame rfl)
    have hsub := UInt64.toNat_sub_of_le _ _ hfit
    have hpos : n.toNat ≠ 0 := fun h0 => hn (UInt64.toNat_inj.mp h0)
    rw [UInt64.le_iff_toNat_le] at hfit
    dsimp only at hreserved
    omega
  · rw [heq]
    refine iff_of_true (by simp) ?_
    intro hn hfit
    rw [← hc]
    exact c.toNat_lt

theorem atomic_iff (g : CapacityLine) (n : ByteCount) :
    g.Atomic n ↔ (n ≠ 0 → n ≤ g.reserved → g.committed.toNat + n.toNat < 2 ^ 64) := by
  rw [← commit_unchanged_iff]
  constructor
  · intro h
    exact h.1 (.commit n) (by simp)
  · intro hcommit
    refine ⟨?_, ?_⟩
    · intro op hop
      simp only [List.mem_cons, List.not_mem_nil, or_false] at hop
      rcases hop with rfl | rfl | rfl | rfl
      · rcases reserve_cases g n with heq | ⟨-, heq⟩ <;> simp [perform, heq]
      · exact hcommit
      · rcases release_cases g n with heq | ⟨c, r, -, -, -, heq⟩ <;> simp [perform, heq]
      · rcases fenceDrain_cases g n with ⟨-, heq⟩ | ⟨-, heq⟩ <;> simp [perform, heq]
    · rcases release_cases g n with heq | ⟨c, r, -, -, hsum, heq⟩
      · simp [heq]
      · rw [heq]
        exact fun _ => hsum

/-- A commit that would pass the limit of the word is refused and takes its bytes anyway. -/
theorem commit_overflow_changes_line : ¬∀ (g : CapacityLine) (n : ByteCount), g.Atomic n := by
  intro h
  have hcommit := (h { reserved := 1, committed := 18446744073709551615 } 1).1 (.commit 1) (by simp)
  exact absurd ((commit_unchanged_iff _ _).mp hcommit (by decide) (by decide)) (by decide)

end CapacityLine
end CxlFabric
