import CxlFabric.RecordChanges

/-! # What the members of a pool contribute

`recomputePool` sums the nominal bytes of the online members, and of the unhealthy ones
among them. While the bytes that have been passed in stay below `2 ^ 64` the checked sums
never skip a member, so the totals are exact. The bytes passed in so far are split into
those of healthy and of failed members: the first bound what a pool can hold in
reservations, the second what it can have unavailable. -/
namespace CxlFabric

/-- What an online healthy member adds to the capacity of its pool. -/
def healthyBytes (m : PoolMember) : ℕ := if m.online && m.healthOk then m.nominalBytes.toNat else 0

/-- What an online failed member adds to the unavailable bytes of its pool. -/
def failedBytes (m : PoolMember) : ℕ := if m.online && !m.healthOk then m.nominalBytes.toNat else 0

def memberSum (w : PoolMember → ℕ) (ms : List PoolMember) : ℕ := (ms.map w).sum

@[simp] theorem memberSum_nil (w : PoolMember → ℕ) : memberSum w [] = 0 := rfl

@[simp] theorem memberSum_cons (w : PoolMember → ℕ) (m : PoolMember) (ms : List PoolMember) :
    memberSum w (m :: ms) = w m + memberSum w ms := by simp [memberSum]

theorem memberSum_append (w : PoolMember → ℕ) (ms ms' : List PoolMember) :
    memberSum w (ms ++ ms') = memberSum w ms + memberSum w ms' := by simp [memberSum]

theorem memberSum_eraseP_le (w : PoolMember → ℕ) (p : PoolMember → Bool) (ms : List PoolMember) :
    memberSum w (ms.eraseP p) ≤ memberSum w ms := by
  apply List.Sublist.sum_le_sum
  · exact (List.eraseP_sublist (l := ms)).map w
  · exact fun _ _ => Nat.zero_le _

theorem addMember_of_fits (acc : MemberTotals) (m : PoolMember)
    (htotal : acc.total.toNat + (healthyBytes m + failedBytes m) < 2 ^ 64)
    (hunavailable : acc.unavailable.toNat + failedBytes m < 2 ^ 64) :
    (addMember acc m).total.toNat = acc.total.toNat + (healthyBytes m + failedBytes m) ∧
    (addMember acc m).unavailable.toNat = acc.unavailable.toNat + failedBytes m := by
  have hadd {a b : ByteCount} (h : a.toNat + b.toNat < 2 ^ 64) :
      ((addChecked a b).getD a).toNat = a.toNat + b.toNat := by
    obtain ⟨t, ht⟩ : ∃ t : ByteCount, t.toNat = a.toNat + b.toNat := ⟨a + b, toNat_add_of_lt h⟩
    rw [addChecked_eq_some_iff.mpr ⟨h, ht⟩]
    exact ht
  unfold addMember healthyBytes failedBytes at *
  cases honline : m.online with
  | false => simp
  | true =>
    cases hhealth : m.healthOk with
    | true =>
      simp only [honline, hhealth] at htotal ⊢
      exact ⟨hadd (by simpa using htotal), rfl⟩
    | false =>
      simp only [honline, hhealth] at htotal hunavailable ⊢
      refine ⟨?_, hadd (by simpa using hunavailable)⟩
      simpa using hadd (a := acc.total) (b := m.nominalBytes) (by simpa using htotal)

theorem foldl_addMember (ms : List PoolMember) (acc : MemberTotals)
    (htotal : acc.total.toNat + (memberSum healthyBytes ms + memberSum failedBytes ms) < 2 ^ 64)
    (hunavailable : acc.unavailable.toNat + memberSum failedBytes ms < 2 ^ 64) :
    (ms.foldl addMember acc).total.toNat =
      acc.total.toNat + (memberSum healthyBytes ms + memberSum failedBytes ms) ∧
    (ms.foldl addMember acc).unavailable.toNat =
      acc.unavailable.toNat + memberSum failedBytes ms := by
  induction ms generalizing acc with
  | nil => exact ⟨rfl, rfl⟩
  | cons m ms ih =>
    simp only [memberSum_cons] at htotal hunavailable ⊢
    obtain ⟨ht, hu⟩ := addMember_of_fits acc m (by omega) (by omega)
    obtain ⟨ht', hu'⟩ := ih (addMember acc m) (by omega) (by omega)
    rw [List.foldl_cons, ht', hu', ht, hu]
    constructor <;> omega

/-- A recompute is exact when the members together stay below `2 ^ 64`. -/
theorem recomputePool_spec {p : CxlPool}
    (h : memberSum healthyBytes p.members + memberSum failedBytes p.members < 2 ^ 64) :
    (recomputePool p).totalGovernedBytes.toNat =
      memberSum healthyBytes p.members + memberSum failedBytes p.members ∧
    (recomputePool p).unavailableBytes.toNat = memberSum failedBytes p.members := by
  have hzero : (0 : ByteCount).toNat = 0 := rfl
  have := foldl_addMember p.members {}
    (by simp only [hzero]; omega) (by simp only [hzero]; omega)
  simpa only [recomputePool, hzero, Nat.zero_add] using this

namespace Fabric

/-- The members an operation passes in. -/
def membersPassed : Op → List PoolMember
  | .createPool pool _ => pool.members
  | .addPoolMember _ m _ => [m]
  | _ => []

/-- What a trace has passed in, by a weight of members. -/
def passed (w : PoolMember → ℕ) (tr : List (Op × Outcome)) : ℕ :=
  (tr.map fun e => memberSum w (membersPassed e.1)).sum

theorem passed_concat (w : PoolMember → ℕ) (tr : List (Op × Outcome)) (e : Op × Outcome) :
    passed w (tr ++ [e]) = passed w tr + memberSum w (membersPassed e.1) := by simp [passed]

/-- The nominal bytes of a member count as healthy, as failed or not at all. -/
theorem passed_healthy_add_failed_le (tr : List (Op × Outcome)) :
    passed healthyBytes tr + passed failedBytes tr ≤ passed (·.nominalBytes.toNat) tr := by
  have hmember (m : PoolMember) : healthyBytes m + failedBytes m ≤ m.nominalBytes.toNat := by
    unfold healthyBytes failedBytes
    cases m.online <;> cases m.healthOk <;> simp
  have hlist (ms : List PoolMember) :
      memberSum healthyBytes ms + memberSum failedBytes ms ≤
        memberSum (·.nominalBytes.toNat) ms := by
    induction ms with
    | nil => exact Nat.le_refl _
    | cons m ms ih =>
      have := hmember m
      simp only [memberSum_cons]
      omega
  induction tr using List.reverseRecOn with
  | nil => exact Nat.le_refl _
  | append_singleton tr e ih =>
    have := hlist (membersPassed e.1)
    simp only [passed_concat]
    omega

/-- The totals of a pool whose members stay within `healthy` and `failed` bytes. -/
structure WithinBudget (healthy failed : ℕ) (p : CxlPool) : Prop where
  draining : p.drainingBytes = 0
  total : p.totalGovernedBytes.toNat =
    memberSum healthyBytes p.members + memberSum failedBytes p.members
  unavailable : p.unavailableBytes.toNat = memberSum failedBytes p.members
  healthy_le : memberSum healthyBytes p.members ≤ healthy
  failed_le : memberSum failedBytes p.members ≤ failed

namespace WithinBudget
variable {healthy failed healthy' failed' : ℕ} {p : CxlPool}

theorem mono (h : WithinBudget healthy failed p) (hh : healthy ≤ healthy') (hf : failed ≤ failed') :
    WithinBudget healthy' failed' p :=
  ⟨h.draining, h.total, h.unavailable, h.healthy_le.trans hh, h.failed_le.trans hf⟩

/-- The sum in `poolFree` does not wrap. -/
theorem used_lt (h : WithinBudget healthy failed p) (hlt : healthy + failed < 2 ^ 64)
    (hheld : p.reservedBytes.toNat + p.committedBytes.toNat ≤ healthy) :
    p.unavailableBytes.toNat + p.reservedBytes.toNat + p.committedBytes.toNat +
      p.drainingBytes.toNat < 2 ^ 64 := by
  have hfailed := h.failed_le
  rw [h.draining, h.unavailable, UInt64.toNat_zero]
  omega

/-- What a pool admits fits the bytes of its healthy members. -/
theorem admits (h : WithinBudget healthy failed p) (hlt : healthy + failed < 2 ^ 64)
    (hheld : p.reservedBytes.toNat + p.committedBytes.toNat ≤ healthy)
    {n : ByteCount} (hn : n ≠ 0) (hfree : n ≤ poolFree p) :
    p.reservedBytes.toNat + n.toNat + p.committedBytes.toNat ≤ healthy := by
  have hfit := poolFree_spec hn hfree (h.used_lt hlt hheld)
  have hhealthy := h.healthy_le
  rw [h.unavailable, h.total] at hfit
  omega

theorem recompute (hdraining : p.drainingBytes = 0)
    (hhealthy : memberSum healthyBytes p.members ≤ healthy)
    (hfailed : memberSum failedBytes p.members ≤ failed)
    (hlt : healthy + failed < 2 ^ 64) : WithinBudget healthy failed (recomputePool p) := by
  obtain ⟨ht, hu⟩ := recomputePool_spec (p := p) (by omega)
  exact ⟨hdraining, ht, hu, hhealthy, hfailed⟩

/-- A step keeps every pool within the budget it has extended. -/
theorem step {id : PoolId} {op : Op} {out : Outcome} {old new : Option CxlPool} {p' : CxlPool}
    (h : PoolChange id op out old new) (hnew : new = some p')
    (hold : ∀ p, old = some p → WithinBudget healthy failed p)
    (hzero : ∀ pool ctx, op = .createPool pool ctx → out.success = true → pool.drainingBytes = 0)
    (himport : ∀ st, op ≠ .importPersisted st)
    (hhealthy : healthy + memberSum healthyBytes (membersPassed op) ≤ healthy')
    (hfailed : failed + memberSum failedBytes (membersPassed op) ≤ failed')
    (hlt : healthy' + failed' < 2 ^ 64) : WithinBudget healthy' failed' p' := by
  have keep {p : CxlPool} (hp : WithinBudget healthy failed p) : WithinBudget healthy' failed' p :=
    hp.mono (by omega) (by omega)
  cases h with
  | same => exact keep (hold p' hnew)
  | @created pool ctx key =>
    cases hnew
    simp only [membersPassed] at hhealthy hfailed
    have hw : WithinBudget healthy' failed' (recomputePool pool) :=
      recompute (hzero pool ctx rfl rfl) (by omega) (by omega) hlt
    exact ⟨hw.draining, hw.total, hw.unavailable, hw.healthy_le, hw.failed_le⟩
  | @added m p ctx =>
    cases hnew
    have hp := hold p rfl
    have hph := hp.healthy_le
    have hpf := hp.failed_le
    simp only [membersPassed] at hhealthy hfailed
    refine recompute hp.draining ?_ ?_ hlt
    · rw [memberSum_append]; omega
    · rw [memberSum_append]; omega
  | @removed d p ctx =>
    cases hnew
    have hp := keep (hold p rfl)
    refine recompute hp.draining ?_ ?_ hlt
    · exact (memberSum_eraseP_le healthyBytes _ p.members).trans hp.healthy_le
    · exact (memberSum_eraseP_le failedBytes _ p.members).trans hp.failed_le
  | @draining p ctx valid =>
    cases hnew
    have hp := keep (hold p rfl)
    exact ⟨hp.draining, hp.total, hp.unavailable, hp.healthy_le, hp.failed_le⟩
  | @reconciled p ctx =>
    cases hnew
    have hp := keep (hold p rfl)
    exact recompute hp.draining hp.healthy_le hp.failed_le hlt
  | @revalidated p ctx valid =>
    cases hnew
    have hp := keep (hold p rfl)
    exact recompute hp.draining hp.healthy_le hp.failed_le hlt
  | @booked op out p books reserved committed =>
    cases hnew
    have hp := keep (hold p rfl)
    exact ⟨hp.draining, hp.total, hp.unavailable, hp.healthy_le, hp.failed_le⟩
  | @imported st => exact absurd rfl (himport st)

end WithinBudget

end Fabric

end CxlFabric
