import CxlFabric.LedgerAudit
import CxlFabric.SkippingSums

/-! # The verdict of the audit

A pool is closed when its used bytes, added up without a bound, are within its governed
bytes. The audit adds the used bytes of a pool up in a word, and across the pools it
leaves out every addend that does not fit. So it can miss a pool that is not closed, and
it can report a ledger in which every pool is closed. -/
namespace CxlFabric

/-- The bytes of a pool that are not free. -/
def CxlPool.used (p : CxlPool) : ℕ :=
  p.unavailableBytes.toNat + p.reservedBytes.toNat + p.committedBytes.toNat + p.drainingBytes.toNat

/-- Every byte a pool uses is governed by it. -/
def CxlPool.Closed (p : CxlPool) : Prop := p.used ≤ p.totalGovernedBytes.toNat

instance (p : CxlPool) : Decidable p.Closed := inferInstanceAs (Decidable (_ ≤ _))

/-- What the audit adds up of a field: in the order of the pools, without the addends that
would make a sum exceed a word. -/
def keptSum (k : LedgerField) (pools : Map PoolId CxlPool) : ℕ :=
  sumWithin (2 ^ 64) (pools.toList.map fun e => counted k e.2)

theorem toNat_add_four (a b c d : ByteCount) :
    (a + b + c + d).toNat = (a.toNat + b.toNat + c.toNat + d.toNat) % 2 ^ 64 := by
  simp only [UInt64.toNat_add]
  omega

theorem addChecked_getD (a b : ByteCount) :
    ((addChecked a b).getD a).toNat = addWithin (2 ^ 64) a.toNat b.toNat := by
  unfold addWithin
  split
  · next h => rw [addChecked_of_fits h, Option.getD_some, toNat_add_of_lt h]
  · next h =>
    have hnone : addChecked a b = none := by
      rw [Option.eq_none_iff_forall_ne_some]
      intro t ht
      exact h (addChecked_eq_some_iff.mp ht).1
    rw [hnone, Option.getD_none]

theorem auditPool_get (g : CapacityLine) (p : CxlPool) (k : LedgerField) :
    ((auditPool g p).get k).toNat = addWithin (2 ^ 64) (g.get k).toNat (counted k p) := by
  by_cases hstate : p.state = .retired
  · simp only [auditPool, counted, if_pos hstate, addWithin, Nat.add_zero, ite_self]
  have hget (k : LedgerField) := addChecked_getD (g.get k) (p.share k)
  rw [auditPool, counted, if_neg hstate, if_neg hstate]
  revert hget
  refine of_forall addChecked ?_
  intro add hget
  cases k with
  | total => exact hget .total
  | online => exact hget .online
  | unavailable => exact hget .unavailable
  | reserved => exact hget .reserved
  | committed => exact hget .committed
  | draining => exact hget .draining

theorem poolErrors_eq_nil_iff (p : CxlPool) :
    poolErrors p = [] ↔ (p.state ≠ .retired → p.used % 2 ^ 64 ≤ p.totalGovernedBytes.toNat) := by
  by_cases hstate : p.state = .retired
  · simp [poolErrors, hstate]
  · have hused := toNat_add_four p.unavailableBytes p.reservedBytes p.committedBytes p.drainingBytes
    simp [poolErrors, hstate, UInt64.le_iff_toNat_le, hused, CxlPool.used]

/-- A line whose bytes are all online passes when its used word is within them. -/
theorem CapacityLine.audit_eq_none_iff {g : CapacityLine} (h : g.online = g.total) :
    g.audit = none ↔ (g.unavailable.toNat + g.reserved.toNat + g.committed.toNat +
      g.draining.toNat) % 2 ^ 64 ≤ g.online.toNat := by
  have hfree : g.free ≤ g.online := by
    rw [free]
    split
    · exact UInt64.zero_le
    · next hlt => exact UInt64.sub_le (UInt64.le_of_lt (UInt64.not_le.mp hlt))
  rw [← toNat_add_four, ← UInt64.le_iff_toNat_le]
  rw [h] at hfree
  simp [audit, h, UInt64.not_lt.mpr hfree]

namespace Fabric

/-- Every pool that is not retired is closed. -/
def LedgerClosed (f : Fabric) : Prop :=
  ∀ (id : PoolId) (p : CxlPool), f.state.pools[id]? = some p → p.state ≠ .retired → p.Closed

theorem ledgerClosed_iff_toList (f : Fabric) :
    (∀ e ∈ f.state.pools.toList, e.2.state ≠ .retired → e.2.Closed) ↔ f.LedgerClosed := by
  simp only [LedgerClosed, Prod.forall, Std.ExtTreeMap.mem_toList_iff_getElem?_eq_some]

instance (f : Fabric) : Decidable f.LedgerClosed := decidable_of_iff _ f.ledgerClosed_iff_toList

/-- What the audit has added up across the pools exceeds what it has found governed. -/
def GlobalAlarm (f : Fabric) : Prop :=
  keptSum .online f.state.pools < (keptSum .unavailable f.state.pools +
    keptSum .reserved f.state.pools + keptSum .committed f.state.pools +
    keptSum .draining f.state.pools) % 2 ^ 64

theorem audit_globalLedger_get (f : Fabric) (k : LedgerField) :
    (f.audit.globalLedger.get k).toNat = keptSum k f.state.pools := by
  have hfold := foldl_follows (fun g : CapacityLine => (g.get k).toNat)
    (fun e : PoolId × CxlPool => counted k e.2) (fun g e => auditPool_get g e.2 k) {}
    f.state.pools.toList
  rw [empty_get] at hfold
  exact hfold

theorem audit_globalLedger_passes (f : Fabric) :
    f.audit.globalLedger.audit = none ↔ ¬f.GlobalAlarm := by
  have hget := f.audit_globalLedger_get
  have hsame : f.audit.globalLedger.online = f.audit.globalLedger.total :=
    UInt64.toNat_inj.mp ((hget .online).trans (hget .total).symm)
  rw [CapacityLine.audit_eq_none_iff hsame, GlobalAlarm, Nat.not_lt, ← hget .online,
    ← hget .unavailable, ← hget .reserved, ← hget .committed, ← hget .draining]
  exact Iff.rfl

/-- What the audit checks. -/
theorem audit_ok_iff (f : Fabric) :
    f.audit.ok = true ↔ (∀ (id : PoolId) (p : CxlPool), f.state.pools[id]? = some p →
      p.state ≠ .retired → p.used % 2 ^ 64 ≤ p.totalGovernedBytes.toNat) ∧ ¬f.GlobalAlarm := by
  have hok : f.audit.ok = true ↔
      (f.state.pools.toList.flatMap fun pk => poolErrors pk.2) = [] ∧
        f.audit.globalLedger.audit = none := by
    simp [audit]
  rw [hok, audit_globalLedger_passes, List.flatMap_eq_nil_iff]
  simp only [poolErrors_eq_nil_iff, Prod.forall, Std.ExtTreeMap.mem_toList_iff_getElem?_eq_some]

/-- The audit and the ledger agree exactly when no sum that the audit leaves an addend out
of accuses a closed ledger, and when of the pools that are not closed one is caught by the
word its used bytes wrap to, or all of them by the sums across the pools. -/
theorem audit_verdict_iff (f : Fabric) :
    (f.audit.ok = true ↔ f.LedgerClosed) ↔
      (f.LedgerClosed → ¬f.GlobalAlarm) ∧
      (¬f.LedgerClosed → f.GlobalAlarm ∨ ∃ (id : PoolId) (p : CxlPool),
        f.state.pools[id]? = some p ∧ p.state ≠ .retired ∧
        p.totalGovernedBytes.toNat < p.used % 2 ^ 64) := by
  have hwords : f.LedgerClosed → ∀ (id : PoolId) (p : CxlPool), f.state.pools[id]? = some p →
      p.state ≠ .retired → p.used % 2 ^ 64 ≤ p.totalGovernedBytes.toNat := by
    intro h id p hp hstate
    exact (Nat.mod_le _ _).trans (h id p hp hstate)
  rw [audit_ok_iff]
  by_cases hclosed : f.LedgerClosed
  · have hw := hwords hclosed
    simp only [hclosed, iff_true, true_implies, not_true_eq_false, false_implies, and_true]
    exact and_iff_right hw
  · simp only [hclosed, iff_false, false_implies, true_and, not_false_eq_true, true_implies,
      not_and_or, not_not]
    rw [or_comm]
    apply or_congr_right
    push Not
    rfl

/-- One pool that is created with counters whose sum wraps to zero. -/
def wrappedCounters : List Op :=
  [.registerDevice Synthetic.sampleDevice (Synthetic.context ⟨1⟩),
    .createPool { Synthetic.samplePool with reservedBytes := 2 ^ 63, committedBytes := 2 ^ 63 }
      (Synthetic.context ⟨1⟩)]

/-- A pool of half a word with some of it reserved. -/
def halfWordPool (id : PoolId) (device : DeviceId) (reserved : ByteCount) : CxlPool :=
  { Synthetic.makePool id ⟨1⟩
      [{ device := device, deviceGeneration := ⟨1⟩, nominalBytes := 2 ^ 63, online := true
         healthOk := true }] with
    reservedBytes := reserved }

/-- The second of the two pools is left out of the total. -/
def halfWordPools : List Op :=
  [.registerDevice Synthetic.sampleDevice (Synthetic.context ⟨1⟩),
    .registerDevice { Synthetic.sampleDevice with id := ⟨str "d2"⟩ } (Synthetic.context ⟨1⟩),
    .createPool (halfWordPool ⟨str "p-1"⟩ ⟨str "d1"⟩ (2 ^ 62)) (Synthetic.context ⟨1⟩),
    .createPool (halfWordPool ⟨str "p-2"⟩ ⟨str "d2"⟩ (2 ^ 63)) (Synthetic.context ⟨1⟩)]

/-- The audit passes a pool that uses more than it governs, and rejects closed pools. -/
theorem audit_verdict_wrong :
    (∃ tr f, Run exec (new ⟨1⟩ ⟨1⟩) tr f ∧ f.audit.ok = true ∧ ¬f.LedgerClosed) ∧
    (∃ tr f, Run exec (new ⟨1⟩ ⟨1⟩) tr f ∧ f.audit.ok = false ∧ f.LedgerClosed) := by
  constructor
  · apply Run.exists_of_execAll (l := wrappedCounters)
    decide +kernel
  · apply Run.exists_of_execAll (l := halfWordPools)
    decide +kernel

/-! ## Membership changes -/

theorem keptSum_of_lt {k : LedgerField} {pools : Map PoolId CxlPool}
    (h : sumBy (counted k) pools < 2 ^ 64) : keptSum k pools = sumBy (counted k) pools :=
  sumWithin_of_lt h

/-- The pools of a closed ledger use no more than they govern, taken together. -/
theorem LedgerClosed.sums_le {f : Fabric} (h : f.LedgerClosed) :
    sumBy (counted .unavailable) f.state.pools + sumBy (counted .reserved) f.state.pools +
      sumBy (counted .committed) f.state.pools + sumBy (counted .draining) f.state.pools ≤
    sumBy (counted .online) f.state.pools := by
  rw [← sumBy_add, ← sumBy_add, ← sumBy_add]
  apply sumBy_le_sumBy
  intro id p hp
  by_cases hstate : p.state = .retired
  · simp [counted, hstate]
  · simp only [counted, if_neg hstate]
    exact h id p hp hstate

/-- While the used bytes of each pool and the governed bytes of all pools fit a word, the
audit is right. -/
theorem audit_ok_iff_closed {f : Fabric}
    (hused : ∀ (id : PoolId) (p : CxlPool), f.state.pools[id]? = some p → p.used < 2 ^ 64)
    (hgoverned : sumBy (counted .online) f.state.pools < 2 ^ 64) :
    f.audit.ok = true ↔ f.LedgerClosed := by
  rw [audit_verdict_iff]
  constructor
  · intro hclosed
    have hsums := hclosed.sums_le
    rw [GlobalAlarm, keptSum_of_lt hgoverned, keptSum_of_lt (by omega), keptSum_of_lt (by omega),
      keptSum_of_lt (by omega), keptSum_of_lt (by omega), Nat.mod_eq_of_lt (by omega)]
    omega
  · intro hopen
    right
    unfold LedgerClosed at hopen
    push Not at hopen
    obtain ⟨id, p, hp, hstate, hopen⟩ := hopen
    refine ⟨id, p, hp, hstate, ?_⟩
    rw [Nat.mod_eq_of_lt (hused id p hp)]
    exact Nat.lt_of_not_le hopen

section conserved
variable {f : Fabric} {healthy failed : ℕ}

/-- A pool with exact totals is closed when its healthy members cover its reservations. -/
theorem PoolsConserved.closed_iff (hc : PoolsConserved healthy failed f) {id : PoolId}
    {p : CxlPool} (hp : f.state.pools[id]? = some p) :
    p.Closed ↔ p.reservedBytes.toNat + p.committedBytes.toNat ≤
      memberSum healthyBytes p.members := by
  have hbudget := hc.budget hp
  rw [CxlPool.Closed, CxlPool.used, hbudget.draining, hbudget.unavailable, hbudget.total,
    UInt64.toNat_zero]
  omega

theorem WithinSums.audit_ok_iff (hs : WithinSums healthy failed f)
    (hc : PoolsConserved healthy failed f) (hlt : healthy + failed < 2 ^ 64) :
    f.audit.ok = true ↔ f.LedgerClosed :=
  audit_ok_iff_closed (fun _ _ hp => (hc.budget hp).used_lt hlt (hc.held hp)) (hs.fits hc hlt _)

end conserved

/-- The operations that recompute a pool from its members. -/
inductive Recomputes : Op → Prop
  | addPoolMember (id : PoolId) (m : PoolMember) (ctx : AuthorityContext) :
      Recomputes (.addPoolMember id m ctx)
  | removePoolMember (id : PoolId) (d : DeviceId) (ctx : AuthorityContext) :
      Recomputes (.removePoolMember id d ctx)
  | reconcilePool (id : PoolId) (ctx : AuthorityContext) : Recomputes (.reconcilePool id ctx)
  | revalidatePool (id : PoolId) (ctx : AuthorityContext) : Recomputes (.revalidatePool id ctx)

/-- After a removal the online healthy members that stay cover what the pool holds. -/
def RemainderCovers (f : Fabric) : Op → Prop
  | .removePoolMember id d _ => ∀ p : CxlPool, f.state.pools[id]? = some p →
    p.reservedBytes.toNat + p.committedBytes.toNat ≤
      memberSum healthyBytes (p.members.eraseP (·.device = d))
  | _ => True

variable {f f' : Fabric} {op : Op} {out : Outcome}

/-- No operation on a pool leads to retirement, and no pool is created retired. -/
theorem PoolChange.notRetired {id : PoolId} {old : Option CxlPool} {p' : CxlPool}
    (h : PoolChange id op out old (some p')) (hstart : StartsPools (op, out))
    (hold : ∀ p, old = some p → p.state ≠ .retired) : p'.state ≠ .retired := by
  generalize hnew : some p' = new at h
  cases h with
  | same => exact hold p' hnew.symm
  | created | draining | revalidated =>
    cases hnew
    simp [recomputePool]
  | imported => exact False.elim hstart
  | _ =>
    cases hnew
    simpa [recomputePool] using hold _ rfl

theorem notRetired_of_run {epoch : CoordinatorEpoch} {policy : PolicyGeneration}
    {tr : List (Op × Outcome)} (hrun : Run exec (new epoch policy) tr f)
    (hstart : ∀ e ∈ tr, StartsPools e) {id : PoolId} {p : CxlPool}
    (hp : f.state.pools[id]? = some p) : p.state ≠ .retired :=
  pool_of_run (Q := fun p => p.state ≠ .retired)
    (fun _ _ _ _ _ hchange hop hold => hchange.notRetired hop hold) hrun hstart hp

/-- A recompute keeps what a pool holds, and the healthy members of the other pools. -/
theorem Recomputes.covered (hop : Recomputes op) {id : PoolId} {old : Option CxlPool}
    {p' : CxlPool} (h : PoolChange id op out old (some p'))
    (hold : ∀ p, old = some p →
      p.reservedBytes.toNat + p.committedBytes.toNat ≤ memberSum healthyBytes p.members)
    (hremoved : ∀ d ctx p, op = .removePoolMember id d ctx → old = some p →
      p.reservedBytes.toNat + p.committedBytes.toNat ≤
        memberSum healthyBytes (p.members.eraseP (·.device = d))) :
    p'.reservedBytes.toNat + p'.committedBytes.toNat ≤ memberSum healthyBytes p'.members := by
  generalize hnew : some p' = new at h
  cases h with
  | same => exact hold p' hnew.symm
  | @added m p ctx =>
    cases hnew
    have hgrow : memberSum healthyBytes p.members ≤ memberSum healthyBytes (p.members ++ [m]) := by
      rw [memberSum_append]
      exact Nat.le_add_right _ _
    exact (hold p rfl).trans hgrow
  | @removed d p ctx =>
    cases hnew
    exact hremoved d ctx p rfl rfl
  | @reconciled p ctx =>
    cases hnew
    exact hold p rfl
  | @revalidated p ctx valid =>
    cases hnew
    exact hold p rfl
  | @booked op out p books =>
    cases hop with
    | addPoolMember | removePoolMember | reconcilePool | revalidatePool => cases books
  | created | draining | imported => cases hop

/-- A membership change that succeeds keeps the ledger closed exactly when it does not take
away healthy members whose bytes are held by reservations. -/
theorem membership_keeps_ledger_iff {epoch : CoordinatorEpoch} {policy : PolicyGeneration}
    {tr : List (Op × Outcome)} (hrun : Run exec (new epoch policy) tr f)
    (hstart : ∀ e ∈ tr, StartsPools e)
    (hbytes : passed (·.nominalBytes.toNat) (tr ++ [(op, out)]) < 2 ^ 64)
    (haudit : f.audit.ok = true) (hop : Recomputes op) (hexec : f.exec op = some (f', out))
    (hok : out.success = true) :
    (f'.audit.ok = true ∧
      ∀ (id : PoolId) (p : CxlPool), f'.state.pools[id]? = some p → p.Closed) ↔
      f.RemainderCovers op := by
  have heffect := exec_effect hexec
  have hrun' : Run exec (new epoch policy) (tr ++ [(op, out)]) f' := hrun.append (.single hexec)
  have hstart' : ∀ e ∈ tr ++ [(op, out)], StartsPools e := by
    intro e he
    rcases List.mem_append.mp he with he | he
    · exact hstart e he
    · rw [List.mem_singleton.mp he]
      cases hop with
      | addPoolMember | removePoolMember | reconcilePool | revalidatePool => trivial
  have hbefore : passed (·.nominalBytes.toNat) tr < 2 ^ 64 := by
    rw [passed_concat] at hbytes
    omega
  obtain ⟨hc, hs, -⟩ := ledgerCurrent_of_run hrun hstart hbefore
  obtain ⟨hc', hs', -⟩ := ledgerCurrent_of_run hrun' hstart' hbytes
  have hlt := lt_of_le_of_lt (passed_healthy_add_failed_le tr) hbefore
  have hlt' := lt_of_le_of_lt (passed_healthy_add_failed_le (tr ++ [(op, out)])) hbytes
  have hclosed := (hs.audit_ok_iff hc hlt).mp haudit
  constructor
  · rintro ⟨-, hclosed'⟩
    cases hop with
    | removePoolMember id d ctx =>
      intro p hp
      have hp' : f'.state.pools[id]? = some (recomputePool { p with
          members := p.members.eraseP (·.device = d), generation := advance p.generation }) := by
        cases heffect with
        | refused fallible failed => simp [failed] at hok
        | removePoolMember epoch present member =>
          cases present.symm.trans hp
          rw [recomputeLedger_state_pools, setPool_state_pools, getElem?_insert_eq, if_pos rfl]
      exact (hc'.closed_iff hp').mp (hclosed' id _ hp')
    | addPoolMember | reconcilePool | revalidatePool => trivial
  · intro hcovers
    have hall : ∀ (id : PoolId) (p : CxlPool), f'.state.pools[id]? = some p → p.Closed := by
      intro id p' hp'
      have hchange := heffect.pool id
      rw [hp'] at hchange
      refine (hc'.closed_iff hp').mpr (hop.covered hchange ?_ ?_)
      · intro p hp
        exact (hc.closed_iff hp).mp (hclosed id p hp (notRetired_of_run hrun hstart hp))
      · rintro d ctx p rfl hp
        exact hcovers p hp
    exact ⟨(hs'.audit_ok_iff hc' hlt').mpr (fun id p hp _ => hall id p hp), hall⟩

/-- A reservation on a pool of two members. -/
def sharedPool : List Op :=
  Synthetic.setup ⟨1⟩ ++
  [.registerDevice { Synthetic.sampleDevice with id := ⟨str "d2"⟩ } (Synthetic.context ⟨1⟩),
    .addPoolMember ⟨str "p-1"⟩
      { device := ⟨str "d2"⟩, deviceGeneration := ⟨1⟩, nominalBytes := Synthetic.sampleBytes
        online := true, healthOk := true } (Synthetic.context ⟨1⟩),
    .reserve Synthetic.sampleRequest (Synthetic.context ⟨1⟩)]

/-- One of two members can go while the other one covers the reservation. -/
theorem membership_keeps_ledger_sharedPool :
    ∃ tr f, Run exec (new ⟨1⟩ ⟨1⟩) tr f ∧
      (f.removePoolMember ⟨str "p-1"⟩ ⟨str "d2"⟩ (Synthetic.context ⟨1⟩)).2 = .ok ∧
      (f.removePoolMember ⟨str "p-1"⟩ ⟨str "d2"⟩ (Synthetic.context ⟨1⟩)).1.audit.ok = true := by
  obtain ⟨tr, f, hrun, hstart, hbytes, haudit, hok, hcovers⟩ :
      ∃ tr f, Run exec (new ⟨1⟩ ⟨1⟩) tr f ∧ (∀ e ∈ tr, StartsPools e) ∧
        passed (·.nominalBytes.toNat) tr < 2 ^ 64 ∧ f.audit.ok = true ∧
        (f.removePoolMember ⟨str "p-1"⟩ ⟨str "d2"⟩ (Synthetic.context ⟨1⟩)).2 = .ok ∧
        ∀ p ∈ f.state.pools[(⟨str "p-1"⟩ : PoolId)]?,
          p.reservedBytes.toNat + p.committedBytes.toNat ≤
            memberSum healthyBytes (p.members.eraseP (·.device = ⟨str "d2"⟩)) := by
    apply Run.exists_of_execAll (l := sharedPool)
    decide +kernel
  refine ⟨tr, f, hrun, hok, ?_⟩
  refine ((membership_keeps_ledger_iff hrun hstart ?_ haudit
    (.removePoolMember ⟨str "p-1"⟩ ⟨str "d2"⟩ (Synthetic.context ⟨1⟩)) rfl ?_).mpr hcovers).1
  · rw [passed_concat]
    exact hbytes
  · simpa using hok

/-- The sample pool loses its only member while 4 GiB of it are reserved. -/
theorem removal_opens_ledger : ∃ tr f, Run exec (new ⟨1⟩ ⟨1⟩) tr f ∧
    (∀ e ∈ tr, StartsPools e) ∧ passed (·.nominalBytes.toNat) tr < 2 ^ 64 ∧ f.audit.ok = true ∧
    (f.removePoolMember ⟨str "p-1"⟩ ⟨str "d1"⟩ (Synthetic.context ⟨1⟩)).2 = .ok ∧
    (f.removePoolMember ⟨str "p-1"⟩ ⟨str "d1"⟩ (Synthetic.context ⟨1⟩)).1.audit.ok = false := by
  apply Run.exists_of_execAll (l := Synthetic.setup ⟨1⟩ ++
    [.reserve Synthetic.sampleRequest (Synthetic.context ⟨1⟩)])
  decide +kernel

end Fabric

end CxlFabric
