import CxlFabric.Conservation

/-! # The published ledger and the audit

The ledger is a cache: every operation that moves bytes rebuilds it, by a loop that stops
at the first sum of a pool that would overflow. The audit adds the same pools up again and
leaves out single sums only. While the bytes passed in stay below `2 ^ 64` neither loop
leaves anything out. -/
namespace CxlFabric

/-- The fields of a capacity line. -/
inductive LedgerField
  | total
  | online
  | unavailable
  | reserved
  | committed
  | draining

def CapacityLine.get (g : CapacityLine) : LedgerField → ByteCount
  | .total => g.total
  | .online => g.online
  | .unavailable => g.unavailable
  | .reserved => g.reserved
  | .committed => g.committed
  | .draining => g.draining

theorem CapacityLine.ext_get {g g' : CapacityLine} (h : ∀ k, g.get k = g'.get k) : g = g' := by
  obtain ⟨t, o, u, r, c, d⟩ := g
  obtain ⟨t', o', u', r', c', d'⟩ := g'
  obtain rfl : t = t' := h .total
  obtain rfl : o = o' := h .online
  obtain rfl : u = u' := h .unavailable
  obtain rfl : r = r' := h .reserved
  obtain rfl : c = c' := h .committed
  obtain rfl : d = d' := h .draining
  rfl

/-- What a pool brings to a field; the governed bytes count as the total and as online. -/
def CxlPool.share (p : CxlPool) : LedgerField → ByteCount
  | .total | .online => p.totalGovernedBytes
  | .unavailable => p.unavailableBytes
  | .reserved => p.reservedBytes
  | .committed => p.committedBytes
  | .draining => p.drainingBytes

/-- The share of a pool that is not retired. -/
def counted (k : LedgerField) (p : CxlPool) : ℕ :=
  if p.state = .retired then 0 else (p.share k).toNat

structure AuditReport where
  ok : Bool := false
  errors : List Str := []
  globalLedger : CapacityLine := {}
  deriving DecidableEq

/-- One pool's contribution to the audit: each sum on its own. -/
def auditPool (g : CapacityLine) (p : CxlPool) : CapacityLine :=
  if p.state = .retired then g else
  { total := (addChecked g.total p.totalGovernedBytes).getD g.total
    online := (addChecked g.online p.totalGovernedBytes).getD g.online
    unavailable := (addChecked g.unavailable p.unavailableBytes).getD g.unavailable
    reserved := (addChecked g.reserved p.reservedBytes).getD g.reserved
    committed := (addChecked g.committed p.committedBytes).getD g.committed
    draining := (addChecked g.draining p.drainingBytes).getD g.draining }

def poolErrors (p : CxlPool) : List Str :=
  if p.state = .retired then []
  else if p.totalGovernedBytes <
      p.unavailableBytes + p.reservedBytes + p.committedBytes + p.drainingBytes then
    [str "pool " ++ p.id.value ++ str " used > governed"]
  else []

namespace Fabric

def snapshot (f : Fabric) : StateSnapshot := f.state

def audit (f : Fabric) : AuditReport :=
  let g := f.state.pools.toList.foldl (fun g pk => auditPool g pk.2) {}
  let errors := f.state.pools.toList.flatMap (fun pk => poolErrors pk.2) ++
    (g.audit.map fun err => str "global ledger: " ++ str err).toList
  { ok := errors.isEmpty, errors, globalLedger := g }

end Fabric

section exact
variable {g : CapacityLine} {p : CxlPool}

theorem addChecked_of_fits {a b : ByteCount} (h : a.toNat + b.toNat < 2 ^ 64) :
    addChecked a b = some (a + b) :=
  addChecked_eq_some_iff.mpr ⟨h, toNat_add_of_lt h⟩

/-- A line that adds the share of a pool to every field. -/
def addShares (g : CapacityLine) (p : CxlPool) : CapacityLine :=
  if p.state = .retired then g else
  { total := g.total + p.totalGovernedBytes
    online := g.online + p.totalGovernedBytes
    unavailable := g.unavailable + p.unavailableBytes
    reserved := g.reserved + p.reservedBytes
    committed := g.committed + p.committedBytes
    draining := g.draining + p.drainingBytes }

/-- No sum over a pool overflows. -/
def Fits (g : CapacityLine) (p : CxlPool) : Prop := ∀ k, (g.get k).toNat + counted k p < 2 ^ 64

theorem Fits.addChecked_eq (h : Fits g p) (hstate : p.state ≠ .retired) (k : LedgerField) :
    addChecked (g.get k) (p.share k) = some (g.get k + p.share k) := by
  apply addChecked_of_fits
  simpa [counted, hstate] using h k

/-- To prove a property of `a`, forget what `a` is. -/
@[elab_as_elim] theorem of_forall {α : Sort*} {motive : α → Prop} (a : α) (h : ∀ a, motive a) :
    motive a := h a

theorem addToLedger_of_fits (h : Fits g p) : addToLedger g p = addShares g p := by
  by_cases hstate : p.state = .retired
  · rw [addToLedger, addShares, if_pos hstate, if_pos hstate]
  have hk := h.addChecked_eq hstate
  rw [addToLedger, addShares, if_neg hstate, if_neg hstate]
  -- The kernel must not evaluate a checked sum: the literal in it is too large.
  revert hk
  refine of_forall addChecked ?_
  intro add hk
  have htotal := hk .total
  have honline := hk .online
  have hunavailable := hk .unavailable
  have hreserved := hk .reserved
  have hcommitted := hk .committed
  have hdraining := hk .draining
  simp only [CapacityLine.get, CxlPool.share] at *
  simp only [htotal, honline, hunavailable, hreserved, hcommitted, hdraining]

theorem auditPool_of_fits (h : Fits g p) : auditPool g p = addShares g p := by
  by_cases hstate : p.state = .retired
  · rw [auditPool, addShares, if_pos hstate, if_pos hstate]
  have hk := h.addChecked_eq hstate
  rw [auditPool, addShares, if_neg hstate, if_neg hstate]
  revert hk
  refine of_forall addChecked ?_
  intro add hk
  have hget (k : LedgerField) :
      (add (g.get k) (p.share k)).getD (g.get k) = g.get k + p.share k := by
    rw [hk k, Option.getD_some]
  apply CapacityLine.ext_get
  intro k
  cases k with
  | total => exact hget .total
  | online => exact hget .online
  | unavailable => exact hget .unavailable
  | reserved => exact hget .reserved
  | committed => exact hget .committed
  | draining => exact hget .draining

theorem addShares_get (h : Fits g p) (k : LedgerField) :
    ((addShares g p).get k).toNat = (g.get k).toNat + counted k p := by
  have hk := h k
  by_cases hstate : p.state = .retired
  · simp [addShares, counted, hstate]
  · simp only [counted, if_neg hstate] at hk ⊢
    rw [← toNat_add_of_lt hk]
    simp only [addShares, if_neg hstate]
    cases k <;> rfl

/-- A loop over pools that adds what fits is exact while all sums fit. -/
theorem foldl_ledger {add : CapacityLine → CxlPool → CapacityLine}
    (hadd : ∀ {g p}, Fits g p → add g p = addShares g p) (l : List (PoolId × CxlPool))
    (g : CapacityLine)
    (hfits : ∀ k, (g.get k).toNat + (l.map fun e => counted k e.2).sum < 2 ^ 64)
    (k : LedgerField) :
    ((l.foldl (fun g pk => add g pk.2) g).get k).toNat =
      (g.get k).toNat + (l.map fun e => counted k e.2).sum := by
  induction l generalizing g with
  | nil => simp
  | cons e l ih =>
    simp only [List.map_cons, List.sum_cons] at hfits ⊢
    have hfirst : Fits g e.2 := fun k => by
      have := hfits k
      omega
    have hget := addShares_get hfirst
    rw [List.foldl_cons, hadd hfirst, ih]
    · rw [hget k]
      omega
    · intro k'
      have := hfits k'
      rw [hget k']
      omega

theorem empty_get (k : LedgerField) : (({} : CapacityLine).get k).toNat = 0 := by cases k <;> rfl

theorem foldl_ledger_pools {add : CapacityLine → CxlPool → CapacityLine}
    (hadd : ∀ {g p}, Fits g p → add g p = addShares g p) {pools : Map PoolId CxlPool}
    (hfits : ∀ k, sumBy (counted k) pools < 2 ^ 64) (k : LedgerField) :
    ((pools.toList.foldl (fun g pk => add g pk.2) {}).get k).toNat = sumBy (counted k) pools := by
  have hfold := foldl_ledger hadd pools.toList {} ?_ k
  · rwa [empty_get, Nat.zero_add] at hfold
  · intro k'
    rw [empty_get, Nat.zero_add]
    exact hfits k'

end exact

namespace Fabric

/-- The ledger holds, field by field, what the pools that are not retired bring to it. -/
def LedgerCurrent (f : Fabric) : Prop :=
  ∀ k, (f.state.globalLedger.get k).toNat = sumBy (counted k) f.state.pools

/-- The bytes of healthy members that a pool needs: what it has, or what it once had and
still holds in reservations. -/
def healthyNeed (p : CxlPool) : ℕ :=
  max (p.reservedBytes.toNat + p.committedBytes.toNat) (memberSum healthyBytes p.members)

/-- The needs of all pools together stay within the bytes passed in. -/
structure WithinSums (healthy failed : ℕ) (f : Fabric) : Prop where
  healthy_le : sumBy healthyNeed f.state.pools ≤ healthy
  failed_le : sumBy (fun p => memberSum failedBytes p.members) f.state.pools ≤ failed

variable {f f' : Fabric} {op : Op} {out : Outcome} {healthy failed healthy' failed' : ℕ}

/-- What a pool within its budget brings to a field is covered by its needs. -/
theorem counted_le {p : CxlPool} (h : WithinBudget healthy failed p) (k : LedgerField) :
    counted k p ≤ healthyNeed p + memberSum failedBytes p.members := by
  unfold counted healthyNeed
  split
  · exact Nat.zero_le _
  cases k with
  | total | online =>
    simp only [CxlPool.share, h.total]
    omega
  | unavailable =>
    simp only [CxlPool.share, h.unavailable]
    omega
  | reserved | committed =>
    simp only [CxlPool.share]
    omega
  | draining =>
    simp only [CxlPool.share, h.draining, UInt64.toNat_zero]
    omega

theorem WithinSums.fits (h : WithinSums healthy failed f) (hc : PoolsConserved healthy failed f)
    (hlt : healthy + failed < 2 ^ 64) (k : LedgerField) :
    sumBy (counted k) f.state.pools < 2 ^ 64 := by
  have hle : sumBy (counted k) f.state.pools ≤
      sumBy (fun p => healthyNeed p + memberSum failedBytes p.members) f.state.pools :=
    sumBy_le_sumBy fun _ _ hp => counted_le (hc.budget hp) k
  rw [sumBy_add] at hle
  have := h.healthy_le
  have := h.failed_le
  omega

/-- A step without an import writes at most one pool. -/
theorem Effect.pools (h : f.Effect op out f') (himport : ∀ st, op ≠ .importPersisted st) :
    f'.state.pools = f.state.pools ∨ ∃ id p', f'.state.pools = f.state.pools.insert id p' := by
  cases h with
  | createPool | addPoolMember | removePoolMember | markPoolDraining | reconcilePool
  | revalidatePool | reserve | commit => exact .inr ⟨_, _, rfl⟩
  | @release id ctx res guarded covered =>
    have hpools : (f.free id res).state.pools = (f.drainPoolOf res).state.pools := by simp [free]
    rw [hpools, drainPoolOf]
    split
    · exact .inl rfl
    · exact .inr ⟨_, _, rfl⟩
  | @conflict id ctx res guarded uncovered =>
    rw [drainPoolOf]
    split
    · exact .inl rfl
    · exact .inr ⟨_, _, rfl⟩
  | importPersisted st => exact absurd rfl (himport st)
  | _ => exact .inl rfl

/-- The members of a pool grow by no more than what the operation passes in. -/
theorem PoolChange.memberSum_le {id : PoolId} {old : Option CxlPool} {p' : CxlPool}
    (h : PoolChange id op out old (some p')) (himport : ∀ st, op ≠ .importPersisted st)
    (w : PoolMember → ℕ) :
    memberSum w p'.members ≤
      (old.elim 0 fun p => memberSum w p.members) + memberSum w (membersPassed op) := by
  generalize hnew : some p' = new at h
  cases h with
  | same =>
    subst hnew
    exact Nat.le_add_right _ _
  | created key =>
    cases hnew
    exact Nat.le_add_left _ _
  | @added m old ctx =>
    cases hnew
    exact (memberSum_append w old.members [m]).le
  | @removed d old ctx =>
    cases hnew
    exact (memberSum_eraseP_le w _ old.members).trans (Nat.le_add_right _ _)
  | @imported st => exact absurd rfl (himport st)
  | _ =>
    cases hnew
    exact Nat.le_add_right _ _

/-- What a pool holds after a step fits what it held or what its healthy members have. -/
theorem PoolsConserved.held_step (hc : PoolsConserved healthy failed f) (h : f.Effect op out f')
    (hstart : StartsPools (op, out)) (hlt : healthy + failed < 2 ^ 64) {id : PoolId}
    {p' : CxlPool} (hp' : f'.state.pools[id]? = some p') :
    p'.reservedBytes.toNat + p'.committedBytes.toNat ≤ f.state.pools[id]?.elim 0 healthyNeed := by
  obtain ⟨p, hp, hstep⟩ | ⟨pool, ctx, rfl, hout, hnone, -, hr, hcm⟩ :=
    h.poolCounters hc.numbered hstart.not_import hp'
  · have hbudget := hc.budget hp
    have hheld := hc.held hp
    have hneed : healthyNeed p ≤ healthy := max_le hheld hbudget.healthy_le
    rw [hp]
    refine (hstep.accounts (hc.accounts hp) (le_max_left _ _) (by
      change healthyNeed p < 2 ^ 64
      omega) ?_).2
    intro n hn hfits
    have hfit := poolFree_spec hn hfits (hbudget.used_lt hlt hheld)
    rw [hbudget.unavailable, hbudget.total] at hfit
    refine le_trans ?_ (le_max_right _ _)
    omega
  · obtain ⟨hzero, hzero', -⟩ := hstart hout
    rw [hr, hcm, hzero, hzero']
    exact Nat.zero_le _

theorem WithinSums.step (hs : WithinSums healthy failed f) (hc : PoolsConserved healthy failed f)
    (h : f.Effect op out f') (hstart : StartsPools (op, out))
    (hlt : healthy + failed < 2 ^ 64) :
    WithinSums (healthy + memberSum healthyBytes (membersPassed op))
      (failed + memberSum failedBytes (membersPassed op)) f' := by
  have hhealthy := hs.healthy_le
  have hfailed := hs.failed_le
  obtain hsame | ⟨id, p', hinsert⟩ := h.pools hstart.not_import
  · rw [← hsame] at hhealthy hfailed
    exact ⟨by omega, by omega⟩
  have hp' : f'.state.pools[id]? = some p' := by rw [hinsert, getElem?_insert_eq, if_pos rfl]
  have hchange := h.pool id
  rw [hp'] at hchange
  have hheld := hc.held_step h hstart hlt hp'
  have hgrow := hchange.memberSum_le hstart.not_import
  constructor
  · rw [hinsert]
    refine (sumBy_insert_le _ ?_ ?_).trans (Nat.add_le_add_right hhealthy _)
    · intro hnone
      have := hgrow healthyBytes
      rw [hnone] at this hheld
      simp only [Option.elim_none] at this hheld
      exact max_le (by omega) (by omega)
    · intro p hp
      have := hgrow healthyBytes
      rw [hp] at this hheld
      simp only [Option.elim_some] at this hheld
      have : memberSum healthyBytes p.members ≤ healthyNeed p := le_max_right _ _
      exact max_le (by omega) (by omega)
  · rw [hinsert]
    refine (sumBy_insert_le _ ?_ ?_).trans (Nat.add_le_add_right hfailed _)
    · intro hnone
      have := hgrow failedBytes
      rw [hnone] at this
      simpa using this
    · intro p hp
      have := hgrow failedBytes
      rwa [hp] at this

/-- Every step rebuilds the ledger, or leaves it and the pools alone, or starts to drain a
pool, which moves no bytes. The exception is a release in conflict. -/
theorem Effect.ledger (h : f.Effect op out f') :
    f'.state.globalLedger = recomputeGlobal f'.state.pools ∨
    (f'.state.globalLedger = f.state.globalLedger ∧ f'.state.pools = f.state.pools) ∨
    (f'.state.globalLedger = f.state.globalLedger ∧ ∃ id old, f.state.pools[id]? = some old ∧
      old.state.validTransition .draining = true ∧
      f'.state.pools = f.state.pools.insert id { old with state := .draining }) ∨
    (∃ id ctx res, f.ReleaseGuard id ctx res ∧ f.uncovered res = true) := by
  cases h with
  | createPool | addPoolMember | removePoolMember | reconcilePool | revalidatePool | reserve
  | commit | release | importPersisted => exact .inl rfl
  | markPoolDraining epoch present valid =>
    exact .inr (.inr (.inl ⟨rfl, _, _, present, valid, rfl⟩))
  | conflict guarded uncovered => exact .inr (.inr (.inr ⟨_, _, _, guarded, uncovered⟩))
  | _ => exact .inr (.inl ⟨rfl, rfl⟩)

theorem LedgerCurrent.step (hf : LedgerCurrent f) (hc : PoolsConserved healthy failed f)
    (h : f.Effect op out f') (hfits : ∀ k, sumBy (counted k) f'.state.pools < 2 ^ 64) :
    LedgerCurrent f' := by
  obtain hrebuilt | ⟨hledger, hpools⟩ | ⟨hledger, id, old, hold, hvalid, hpools⟩ |
    ⟨id, ctx, res, hguard, huncovered⟩ := h.ledger
  · intro k
    rw [hrebuilt]
    exact foldl_ledger_pools addToLedger_of_fits hfits k
  · intro k
    rw [hledger, hpools]
    exact hf k
  · intro k
    have hstate : old.state ≠ .retired := by
      intro hretired
      rw [hretired] at hvalid
      cases hvalid
    have hsame : counted k { old with state := .draining } = counted k old := by
      simp only [counted, hstate, if_false]
      cases k <;> rfl
    have hsum := sumBy_insert_of_present (counted k) { old with state := .draining } hold
    rw [hsame] at hsum
    rw [hledger, hpools, hf k]
    exact (Nat.add_right_cancel hsum).symm
  · rw [hc.covers hguard.stored hguard.live_eq] at huncovered
    cases huncovered

theorem ledgerCurrent_new (epoch : CoordinatorEpoch) (policy : PolicyGeneration) :
    LedgerCurrent (new epoch policy) := by
  intro k
  have hempty : sumBy (counted k) (new epoch policy).state.pools = 0 := sumBy_empty _
  rw [hempty]
  exact empty_get k

theorem withinSums_new (epoch : CoordinatorEpoch) (policy : PolicyGeneration) :
    WithinSums 0 0 (new epoch policy) := ⟨(sumBy_empty _).le, (sumBy_empty _).le⟩

/-- The three invariants along a whole run. -/
theorem ledgerCurrent_of_run {epoch : CoordinatorEpoch} {policy : PolicyGeneration}
    {tr : List (Op × Outcome)} (hrun : Run exec (new epoch policy) tr f)
    (hstart : ∀ e ∈ tr, StartsPools e) (hbytes : passed (·.nominalBytes.toNat) tr < 2 ^ 64) :
    PoolsConserved (passed healthyBytes tr) (passed failedBytes tr) f ∧
      WithinSums (passed healthyBytes tr) (passed failedBytes tr) f ∧ LedgerCurrent f := by
  refine hrun.invariant_trace
    (I := fun tr f => PoolsConserved (passed healthyBytes tr) (passed failedBytes tr) f ∧
      WithinSums (passed healthyBytes tr) (passed failedBytes tr) f ∧ LedgerCurrent f)
    (A := fun tr => (∀ e ∈ tr, StartsPools e) ∧ passed (·.nominalBytes.toNat) tr < 2 ^ 64)
    ?_ ?_ ⟨hstart, hbytes⟩
    ⟨poolsConserved_new epoch policy, withinSums_new epoch policy, ledgerCurrent_new epoch policy⟩
  · rintro tr e ⟨hok, hlt⟩
    rw [passed_concat] at hlt
    exact ⟨fun a ha => hok a (by simp [ha]), by omega⟩
  · rintro tr s a b s' ⟨hok, hlt⟩ ⟨hc, hs, hl⟩ hexec
    have heffect := exec_effect hexec
    have hstep := hok (a, b) (by simp)
    have hsum := passed_healthy_add_failed_le (tr ++ [(a, b)])
    simp only [passed_concat] at hsum hlt ⊢
    have hc' := hc.step heffect hstep (Nat.le_refl _) (Nat.le_refl _) (by omega)
    have hs' := hs.step hc heffect hstep (by omega)
    exact ⟨hc', hs', hl.step hc heffect (hs'.fits hc' (by omega))⟩

/-- The published ledger is the one an audit computes, and both are the exact sums over
the pools that are not retired. -/
theorem ledger_up_to_date {epoch : CoordinatorEpoch} {policy : PolicyGeneration}
    {tr : List (Op × Outcome)} (hrun : Run exec (new epoch policy) tr f)
    (hpools : ∀ e ∈ tr, StartsPools e) (hbytes : passed (·.nominalBytes.toNat) tr < 2 ^ 64) :
    f.snapshot.globalLedger = f.audit.globalLedger ∧
    ∀ k, (f.snapshot.globalLedger.get k).toNat = sumBy (counted k) f.state.pools ∧
      (f.audit.globalLedger.get k).toNat = sumBy (counted k) f.state.pools := by
  obtain ⟨hc, hs, hledger⟩ := ledgerCurrent_of_run hrun hpools hbytes
  have hlt : passed healthyBytes tr + passed failedBytes tr < 2 ^ 64 :=
    lt_of_le_of_lt (passed_healthy_add_failed_le tr) hbytes
  have haudit : ∀ k, (f.audit.globalLedger.get k).toNat = sumBy (counted k) f.state.pools :=
    foldl_ledger_pools auditPool_of_fits (hs.fits hc hlt)
  refine ⟨?_, fun k => ⟨hledger k, haudit k⟩⟩
  apply CapacityLine.ext_get
  intro k
  apply UInt64.toNat_inj.mp
  exact (hledger k).trans (haudit k).symm

theorem ledger_up_to_date_bookingRun :
    ∃ tr f, bookingRun = some (tr, f) ∧ (∀ e ∈ tr, StartsPools e) ∧
      passed (·.nominalBytes.toNat) tr < 2 ^ 64 ∧
      sumBy (counted .reserved) f.state.pools + sumBy (counted .committed) f.state.pools =
        4 * 2 ^ 30 ∧
      f.snapshot.globalLedger = f.audit.globalLedger ∧
      f.audit.globalLedger.reserved.toNat + f.audit.globalLedger.committed.toNat = 4 * 2 ^ 30 := by
  have hrun := Run.of_execAll (Option.some_get bookingRun_isSome).symm
  have hpools : ∀ e ∈ (bookingRun.get bookingRun_isSome).1, StartsPools e := by decide
  have hbytes : passed (·.nominalBytes.toNat) (bookingRun.get bookingRun_isSome).1 < 2 ^ 64 := by
    decide
  have hsums : sumBy (counted .reserved) (bookingRun.get bookingRun_isSome).2.state.pools +
      sumBy (counted .committed) (bookingRun.get bookingRun_isSome).2.state.pools =
        4 * 2 ^ 30 := by decide
  obtain ⟨hsame, hfields⟩ := ledger_up_to_date hrun hpools hbytes
  refine ⟨_, _, (Option.some_get bookingRun_isSome).symm, hpools, hbytes, hsums, hsame, ?_⟩
  rw [← hsums, ← (hfields .reserved).2, ← (hfields .committed).2]
  rfl

end Fabric

end CxlFabric
