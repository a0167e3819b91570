import CxlFabric.AuditVerdict

/-! # The arithmetic of a pool

The totals of a pool leave out the members that do not fit a word, and both free-space
functions take the used bytes as a word. The totals are exact when the online members fit,
and the free space is when the used bytes fit as well, or wrap to a word that still leaves
nothing free. -/
namespace CxlFabric

/-- `free_bytes`: what a pool reports as governable for new reservations. -/
def CxlPool.freeBytes (p : CxlPool) : ByteCount :=
  if p.totalGovernedBytes ≤ p.unavailableBytes then 0 else
  let used := p.unavailableBytes + p.reservedBytes + p.committedBytes + p.drainingBytes
  if p.totalGovernedBytes ≤ used then 0 else p.totalGovernedBytes - used

/-- What a member adds to the governed bytes of its pool. -/
def onlineBytes (m : PoolMember) : ℕ := if m.online then m.nominalBytes.toNat else 0

theorem addMember_follows (acc : MemberTotals) (m : PoolMember) :
    (addMember acc m).total.toNat = addWithin (2 ^ 64) acc.total.toNat (onlineBytes m) ∧
    (addMember acc m).unavailable.toNat =
      addWithin (2 ^ 64) acc.unavailable.toNat (failedBytes m) := by
  have hkeep (a : ByteCount) : a.toNat = addWithin (2 ^ 64) a.toNat 0 := by
    simp only [addWithin, Nat.add_zero, ite_self]
  have hadd := addChecked_getD
  unfold addMember onlineBytes failedBytes
  -- Only the two facts about a checked sum are used, never its value.
  generalize addWithin (2 ^ 64) = add at *
  revert hadd
  refine of_forall addChecked ?_
  intro addWord hadd
  cases m.online with
  | false => exact ⟨hkeep _, hkeep _⟩
  | true =>
    cases m.healthOk with
    | true => exact ⟨hadd _ _, hkeep _⟩
    | false => exact ⟨hadd _ _, hadd _ _⟩

theorem recomputePool_total (p : CxlPool) :
    (recomputePool p).totalGovernedBytes.toNat =
      sumWithin (2 ^ 64) (p.members.map onlineBytes) :=
  foldl_follows (fun acc : MemberTotals => acc.total.toNat) onlineBytes
    (fun acc m => (addMember_follows acc m).1) {} p.members

theorem recomputePool_unavailable (p : CxlPool) :
    (recomputePool p).unavailableBytes.toNat =
      sumWithin (2 ^ 64) (p.members.map failedBytes) :=
  foldl_follows (fun acc : MemberTotals => acc.unavailable.toNat) failedBytes
    (fun acc m => (addMember_follows acc m).2) {} p.members

/-- The totals of a pool are those its members give. -/
def Recomputed (p : CxlPool) : Prop :=
  p.totalGovernedBytes = (recomputePool p).totalGovernedBytes ∧
  p.unavailableBytes = (recomputePool p).unavailableBytes

instance (p : CxlPool) : Decidable (Recomputed p) := inferInstanceAs (Decidable (_ ∧ _))

theorem recomputed_recomputePool (p : CxlPool) : Recomputed (recomputePool p) := ⟨rfl, rfl⟩

theorem memberSum_failed_le_online (ms : List PoolMember) :
    memberSum failedBytes ms ≤ memberSum onlineBytes ms := by
  induction ms with
  | nil => exact Nat.le_refl 0
  | cons m ms ih =>
    have hm : failedBytes m ≤ onlineBytes m := by
      unfold failedBytes onlineBytes
      cases m.online <;> cases m.healthOk <;> simp
    simp only [memberSum_cons]
    omega

/-- The clamped difference of a total and a wrapped sum is exact. -/
theorem clampedSub_exact_iff {total used : ByteCount} {exact : ℕ}
    (h : used.toNat = exact % 2 ^ 64) :
    (if total ≤ used then 0 else total - used).toNat = total.toNat - exact ↔
      exact < 2 ^ 64 ∨ total.toNat ≤ exact % 2 ^ 64 := by
  have htotal := total.toNat_lt
  rw [← h]
  split
  · next hle =>
    rw [UInt64.le_iff_toNat_le] at hle
    rw [UInt64.toNat_zero]
    omega
  · next hlt =>
    rw [UInt64.le_iff_toNat_le, Nat.not_le] at hlt
    rw [UInt64.toNat_sub_of_le _ _ (UInt64.le_iff_toNat_le.mpr hlt.le)]
    omega

section pool
variable {p : CxlPool}

theorem poolFree_exact_iff : (poolFree p).toNat = p.totalGovernedBytes.toNat - p.used ↔
    p.used < 2 ^ 64 ∨ p.totalGovernedBytes.toNat ≤ p.used % 2 ^ 64 :=
  clampedSub_exact_iff (toNat_add_four _ _ _ _)

/-- Where `poolFree` is exact, so is what the pool reports. -/
theorem freeBytes_exact (h : (poolFree p).toNat = p.totalGovernedBytes.toNat - p.used) :
    p.freeBytes.toNat = p.totalGovernedBytes.toNat - p.used := by
  unfold CxlPool.freeBytes
  split
  · next hle =>
    rw [UInt64.le_iff_toNat_le] at hle
    have hused : p.unavailableBytes.toNat ≤ p.used := by
      unfold CxlPool.used
      omega
    rw [UInt64.toNat_zero]
    omega
  · exact h

/-- Totals and free space of a pool, in unbounded integers. -/
structure ExactArithmetic (p : CxlPool) : Prop where
  total : p.totalGovernedBytes.toNat = memberSum onlineBytes p.members
  unavailable : p.unavailableBytes.toNat = memberSum failedBytes p.members
  poolFree : (poolFree p).toNat = p.totalGovernedBytes.toNat - p.used
  freeBytes : p.freeBytes.toNat = p.totalGovernedBytes.toNat - p.used

theorem Recomputed.exact_iff (h : Recomputed p) :
    ExactArithmetic p ↔ memberSum onlineBytes p.members < 2 ^ 64 ∧
      (p.used < 2 ^ 64 ∨ p.totalGovernedBytes.toNat ≤ p.used % 2 ^ 64) := by
  have htotal : p.totalGovernedBytes.toNat = memberSum onlineBytes p.members ↔
      memberSum onlineBytes p.members < 2 ^ 64 := by
    rw [h.1, recomputePool_total]
    exact sumWithin_eq_sum_iff (by norm_num)
  have hunavailable : p.unavailableBytes.toNat = memberSum failedBytes p.members ↔
      memberSum failedBytes p.members < 2 ^ 64 := by
    rw [h.2, recomputePool_unavailable]
    exact sumWithin_eq_sum_iff (by norm_num)
  have hle := memberSum_failed_le_online p.members
  constructor
  · intro hexact
    exact ⟨htotal.mp hexact.total, poolFree_exact_iff.mp hexact.poolFree⟩
  · rintro ⟨hfits, hfree⟩
    have hpool := poolFree_exact_iff.mpr hfree
    exact ⟨htotal.mpr hfits, hunavailable.mpr (by omega), hpool, freeBytes_exact hpool⟩

end pool

namespace Fabric

/-- An imported state brings the totals its pools had when they were exported. -/
def ImportsRecomputed : Op × Outcome → Prop
  | (.importPersisted st, _) => ∀ (id : PoolId) (p : CxlPool), st.pools[id]? = some p → Recomputed p
  | _ => True

theorem StartsPools.importsRecomputed {e : Op × Outcome} (h : StartsPools e) :
    ImportsRecomputed e := by
  obtain ⟨op, out⟩ := e
  cases op with
  | importPersisted st => exact False.elim h
  | _ => trivial

/-- Every operation that touches the members of a pool recomputes it. -/
theorem PoolChange.recomputed {id : PoolId} {op : Op} {out : Outcome} {old : Option CxlPool}
    {p' : CxlPool} (h : PoolChange id op out old (some p'))
    (hold : ∀ p, old = some p → Recomputed p) (himport : ImportsRecomputed (op, out)) :
    Recomputed p' := by
  generalize hnew : some p' = new at h
  cases h with
  | same => exact hold p' hnew.symm
  | created | added | removed | reconciled | revalidated =>
    cases hnew
    exact recomputed_recomputePool _
  | @draining p =>
    cases hnew
    exact hold p rfl
  | @booked op out p =>
    cases hnew
    exact hold p rfl
  | @imported st =>
    obtain ⟨p, hp, rfl⟩ := Option.map_eq_some_iff.mp hnew.symm
    exact himport id p hp

variable {f : Fabric}

theorem recomputed_of_run {epoch : CoordinatorEpoch} {policy : PolicyGeneration}
    {tr : List (Op × Outcome)} (hrun : Run exec (new epoch policy) tr f)
    (himport : ∀ e ∈ tr, ImportsRecomputed e) {id : PoolId} {p : CxlPool}
    (hp : f.state.pools[id]? = some p) : Recomputed p :=
  pool_of_run (fun _ _ _ _ _ hchange hop hold => hchange.recomputed hold hop) hrun himport hp

/-- The arithmetic of a pool is exact when its online members fit a word, and its used
bytes do as well or leave nothing free. -/
theorem pool_arithmetic_exact_iff {epoch : CoordinatorEpoch} {policy : PolicyGeneration}
    {tr : List (Op × Outcome)} (hrun : Run exec (new epoch policy) tr f)
    (himport : ∀ e ∈ tr, ImportsRecomputed e) {id : PoolId} {p : CxlPool}
    (hp : f.state.pools[id]? = some p) :
    ExactArithmetic p ↔ memberSum onlineBytes p.members < 2 ^ 64 ∧
      (p.used < 2 ^ 64 ∨ p.totalGovernedBytes.toNat ≤ p.used % 2 ^ 64) :=
  (recomputed_of_run hrun himport hp).exact_iff

theorem pool_arithmetic_exact_sharedPool :
    ∃ tr f, Run exec (new ⟨1⟩ ⟨1⟩) tr f ∧
      ∃ p ∈ f.state.pools[(⟨str "p-1"⟩ : PoolId)]?, p.used = 4 * 2 ^ 30 ∧ ExactArithmetic p := by
  obtain ⟨tr, f, hrun, hstart, p, hp, hused, hfits⟩ :
      ∃ tr f, Run exec (new ⟨1⟩ ⟨1⟩) tr f ∧ (∀ e ∈ tr, StartsPools e) ∧
        ∃ p ∈ f.state.pools[(⟨str "p-1"⟩ : PoolId)]?,
          p.used = 4 * 2 ^ 30 ∧ memberSum onlineBytes p.members < 2 ^ 64 := by
    apply Run.exists_of_execAll (l := sharedPool)
    decide +kernel
  refine ⟨tr, f, hrun, p, hp, hused, ?_⟩
  have hiff := pool_arithmetic_exact_iff hrun (fun e he => (hstart e he).importsRecomputed) hp
  exact hiff.mpr ⟨hfits, .inl (by omega)⟩

/-- A device of the wrap-around runs, and the member it becomes. -/
def halfWordDevice (id : DeviceId) : Op :=
  .registerDevice { Synthetic.sampleDevice with id := id } (Synthetic.context ⟨1⟩)

def wordMember (id : DeviceId) (bytes : ByteCount) (healthOk : Bool) : PoolMember :=
  { device := id, deviceGeneration := ⟨1⟩, nominalBytes := bytes, online := true, healthOk }

/-- The second member does not fit the word of the total. -/
def skippedMember : List Op :=
  [halfWordDevice ⟨str "d1"⟩, halfWordDevice ⟨str "d2"⟩,
    .createPool (Synthetic.makePool ⟨str "p-1"⟩ ⟨1⟩ [wordMember ⟨str "d1"⟩ (2 ^ 63) true])
      (Synthetic.context ⟨1⟩),
    .addPoolMember ⟨str "p-1"⟩ (wordMember ⟨str "d2"⟩ (2 ^ 63) true) (Synthetic.context ⟨1⟩)]

/-- The only member leaves with all of its bytes reserved; a failed member of the same size
and a healthy one come in its place. -/
def refilledPool : List Op :=
  [halfWordDevice ⟨str "d1"⟩, halfWordDevice ⟨str "d2"⟩, halfWordDevice ⟨str "d3"⟩,
    .createPool (Synthetic.makePool ⟨str "p-1"⟩ ⟨1⟩ [wordMember ⟨str "d1"⟩ (2 ^ 63) true])
      (Synthetic.context ⟨1⟩),
    .createRegion { Synthetic.sampleRegion with regionCapacityBytes := 2 ^ 63 }
      (Synthetic.context ⟨1⟩),
    .reserve { Synthetic.sampleRequest with bytes := 2 ^ 63 } (Synthetic.context ⟨1⟩),
    .removePoolMember ⟨str "p-1"⟩ ⟨str "d1"⟩ (Synthetic.context ⟨1⟩),
    .addPoolMember ⟨str "p-1"⟩ (wordMember ⟨str "d2"⟩ (2 ^ 63) false) (Synthetic.context ⟨1⟩),
    .addPoolMember ⟨str "p-1"⟩ (wordMember ⟨str "d3"⟩ (2 ^ 62) true) (Synthetic.context ⟨1⟩)]

/-- A total can miss a member, and a full pool can show free space. -/
theorem pool_arithmetic_wrong :
    (∃ tr f, Run exec (new ⟨1⟩ ⟨1⟩) tr f ∧ (∀ e ∈ tr, StartsPools e) ∧
      ∃ p ∈ f.state.pools[(⟨str "p-1"⟩ : PoolId)]?,
        p.totalGovernedBytes = 2 ^ 63 ∧ memberSum onlineBytes p.members = 2 ^ 64) ∧
    (∃ tr f, Run exec (new ⟨1⟩ ⟨1⟩) tr f ∧ (∀ e ∈ tr, StartsPools e) ∧
      ∃ p ∈ f.state.pools[(⟨str "p-1"⟩ : PoolId)]?,
        p.totalGovernedBytes.toNat - p.used = 0 ∧ poolFree p = 3 * 2 ^ 62 ∧
        p.freeBytes = 3 * 2 ^ 62) := by
  constructor
  · apply Run.exists_of_execAll (l := skippedMember)
    decide +kernel
  · apply Run.exists_of_execAll (l := refilledPool)
    decide +kernel

end Fabric

end CxlFabric
