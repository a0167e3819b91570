import CxlFabric.Conservation
import CxlFabric.PersistenceRoundTrip

/-! # Restarting the coordinator

A new process starts with an empty engine and imports what the old one has saved. The
records and the counters of the pools come back, the reservations do not. -/
namespace CxlFabric

open Persistence

namespace Fabric

/-- What a new process reads back. A payload above the bound is not written. -/
def recover (beyond : ℕ → UInt8) (f : Fabric) : Except String PersistedState :=
  match serializeState f.exportPersisted with
  | .error err => .error err
  | .ok payload =>
    if payload.length > maxPersistPayload then .error "payload too large"
    else deserializeState beyond payload

/-- The engine of the new process. -/
def restart (epoch : CoordinatorEpoch) (policy : PolicyGeneration) (st : PersistedState) : Fabric :=
  (new epoch policy).importPersisted st

theorem recover_eq_ok {beyond : ℕ → UInt8} {f : Fabric} {st : PersistedState}
    (h : f.recover beyond = .ok st) : st = storedState f.exportPersisted := by
  unfold recover at h
  split at h
  · cases h
  · next payload hpayload =>
    split at h
    · cases h
    · next hlen =>
      have hlt : payload.length < 2 ^ 32 := by
        unfold maxPersistPayload at hlen
        omega
      rcases deserializeState_serializeState hpayload (.inl hlt) beyond with
        ⟨-, hok⟩ | ⟨-, err, herr⟩
      · rw [hok] at h
        exact (Except.ok.inj h).symm
      · rw [herr] at h
        cases h

/-- What is recovered was read from a payload. -/
theorem recover_reads {beyond : ℕ → UInt8} {f : Fabric} {st : PersistedState}
    (h : f.recover beyond = .ok st) :
    ∃ payload, deserializeState beyond payload = .ok st := by
  unfold recover at h
  split at h
  · cases h
  · next payload hpayload =>
    split at h
    · cases h
    · exact ⟨payload, h⟩

/-- A state within the bounds of the writer and of the reader is recovered. -/
theorem recover_of_fits {f : Fabric} (hfits : StateFits f.exportPersisted)
    (hlen : (writeBody f.exportPersisted).length + 4 ≤ maxPersistPayload) (beyond : ℕ → UInt8) :
    f.recover beyond = .ok (storedState f.exportPersisted) := by
  have hserialize := hfits.serializeState
  have hlt : (writeBody f.exportPersisted ++
      putU32 (crc32 (writeBody f.exportPersisted))).length ≤ maxPersistPayload := by
    rw [List.length_append, length_putU32]
    exact hlen
  unfold recover
  rw [hserialize]
  dsimp only
  rw [if_neg (Nat.not_lt.mpr hlt)]
  rcases deserializeState_serializeState hserialize (.inr hfits) beyond with ⟨-, hok⟩ | ⟨hno, -⟩
  · exact hok
  · exact absurd hfits hno

/-- The engines of a coordinator whose pools are created with their counters at zero, over
any number of restarts. -/
inductive Reached : Fabric → Prop
  | fresh (epoch : CoordinatorEpoch) (policy : PolicyGeneration) : Reached (new epoch policy)
  | step {f f' : Fabric} {op : Op} {out : Outcome} (before : Reached f)
      (starts : StartsPools (op, out)) (exec : f.exec op = some (f', out)) : Reached f'
  | restart {f : Fabric} {beyond : ℕ → UInt8} {st : PersistedState} (before : Reached f)
      (saved : f.recover beyond = .ok st) (epoch : CoordinatorEpoch) (policy : PolicyGeneration) :
      Reached (restart epoch policy st)

theorem Reached.of_run {epoch : CoordinatorEpoch} {policy : PolicyGeneration}
    {tr : List (Op × Outcome)} {f : Fabric} (h : Run exec (new epoch policy) tr f)
    (hstart : ∀ e ∈ tr, StartsPools e) : Reached f :=
  h.invariant (A := StartsPools) (fun _ _ _ _ hA hI hexec => hI.step hA hexec) hstart
    (.fresh epoch policy)

/-- The totals of the pool are the ones of its members, and nothing is draining. -/
structure Totalled (p : CxlPool) : Prop where
  draining : p.drainingBytes = 0
  recomputed : recomputePool p = p

theorem Totalled.step {id : PoolId} {op : Op} {out : Outcome} {old new : Option CxlPool}
    {p' : CxlPool} (h : PoolChange id op out old new) (hnew : new = some p')
    (hold : ∀ p, old = some p → Totalled p) (hstart : StartsPools (op, out)) : Totalled p' := by
  cases h with
  | same => exact hold p' hnew
  | @created pool ctx key =>
    cases hnew
    exact ⟨(hstart rfl).2.2, rfl⟩
  | @added m p | @removed d p | @reconciled p | @revalidated p =>
    cases hnew
    exact ⟨(hold p rfl).draining, rfl⟩
  | @draining p | @booked _ _ p =>
    cases hnew
    have hp := hold p rfl
    refine ⟨hp.draining, ?_⟩
    conv_rhs => rw [← hp.recomputed]
    rfl
  | @imported st => exact absurd rfl (hstart.not_import st)

/-- A pool keeps its counters and its totals over a restart. -/
def recoveredPool (p : CxlPool) : CxlPool := importedPool (storedPool p)

theorem Totalled.recovered {p : CxlPool} (h : Totalled p) : Totalled (recoveredPool p) := by
  refine ⟨h.draining, ?_⟩
  unfold recoveredPool importedPool storedPool
  conv_rhs => rw [← h.recomputed]
  rfl

section restarted
variable {f : Fabric} {beyond : ℕ → UInt8} {st : PersistedState}

theorem restart_pools (hk : RecordsKeyed f) (hsaved : f.recover beyond = .ok st)
    (epoch : CoordinatorEpoch) (policy : PolicyGeneration) (id : PoolId) :
    (restart epoch policy st).state.pools[id]? = f.state.pools[id]?.map recoveredPool := by
  rw [recover_eq_ok hsaved, restart, importPersisted_pools, storedState_pools hk.exportPersisted,
    Option.map_map]
  rfl

/-- A device and a region come back without the fields that are not written. -/
def recoveredDevice (d : CxlDevice) : CxlDevice := importedDevice (storedDevice d)

def recoveredRegion (r : CxlRegion) : CxlRegion := importedRegion (storedRegion r)

theorem restart_devices (hk : RecordsKeyed f) (hsaved : f.recover beyond = .ok st)
    (epoch : CoordinatorEpoch) (policy : PolicyGeneration) (id : DeviceId) :
    (restart epoch policy st).state.devices[id]? = f.state.devices[id]?.map recoveredDevice := by
  rw [recover_eq_ok hsaved, restart, importPersisted_devices,
    storedState_devices hk.exportPersisted, Option.map_map]
  rfl

theorem restart_regions (hk : RecordsKeyed f) (hsaved : f.recover beyond = .ok st)
    (epoch : CoordinatorEpoch) (policy : PolicyGeneration) (id : RegionId) :
    (restart epoch policy st).state.regions[id]? = f.state.regions[id]?.map recoveredRegion := by
  rw [recover_eq_ok hsaved, restart, importPersisted_regions,
    storedState_regions hk.exportPersisted, Option.map_map]
  rfl

theorem restart_reservations (epoch : CoordinatorEpoch) (policy : PolicyGeneration)
    (st : PersistedState) : (restart epoch policy st).state.reservations = ∅ := rfl

theorem Reached.records (h : Reached f) :
    RecordsKeyed f ∧ ∀ (id : PoolId) (p : CxlPool), f.state.pools[id]? = some p → Totalled p := by
  induction h with
  | fresh epoch policy =>
    refine ⟨recordsKeyed_new epoch policy, ?_⟩
    intro id p hp
    simp [new_pools] at hp
  | @step f f' op out before starts exec ih =>
    obtain ⟨hkeyed, htotals⟩ := ih
    have heffect := exec_effect exec
    refine ⟨hkeyed.step heffect ?_, ?_⟩
    · cases op with
      | importPersisted st => exact absurd rfl (starts.not_import st)
      | _ => trivial
    · intro id p hp
      exact Totalled.step (heffect.pool id) hp (htotals id) starts
  | @restart f beyond st before saved epoch policy ih =>
    obtain ⟨hkeyed, htotals⟩ := ih
    refine ⟨?_, ?_⟩
    · refine (recordsKeyed_new epoch policy).step (.importPersisted st) ?_
      rw [recover_eq_ok saved]
      exact storedState_keyed _
    · intro id p hp
      rw [restart_pools hkeyed saved] at hp
      obtain ⟨q, hq, rfl⟩ := Option.map_eq_some_iff.mp hp
      exact (htotals id q hq).recovered

end restarted

/-- The operations that leave the set of pools and their members alone: the bookings and
the revalidations are among them. -/
def KeepsMembers : Op → Prop
  | .createPool _ _ | .addPoolMember _ _ _ | .removePoolMember _ _ _ | .importPersisted _ => False
  | _ => True

instance : DecidablePred KeepsMembers
  | .createPool _ _ | .addPoolMember _ _ _ | .removePoolMember _ _ _ | .importPersisted _ =>
    inferInstanceAs (Decidable False)
  | .setEpoch _ | .setPolicyGeneration _ | .advanceEvidenceGeneration | .registerDevice _ _
  | .createRegion _ _ | .updateRegion _ _ | .reconfigureRegion _ _ _
  | .markDeviceRevalidation _ _ | .markDeviceOnline _ _ | .markRegionDraining _ _
  | .markPoolDraining _ _ | .reconcilePool _ _ | .revalidatePool _ _ | .revalidateRegion _ _
  | .reserve _ _ | .commit _ _ | .release _ _ => inferInstanceAs (Decidable True)

/-- Counters within the capacity that the members leave, and exact. -/
structure Resumed (f : Fabric) : Prop where
  numbered : Numbered f
  totals : ∀ {id : PoolId} {p : CxlPool}, f.state.pools[id]? = some p → Totalled p
  held : ∀ {id : PoolId} {p : CxlPool}, f.state.pools[id]? = some p →
    p.reservedBytes.toNat + p.committedBytes.toNat ≤
      p.totalGovernedBytes.toNat - p.unavailableBytes.toNat
  accounts : ∀ {id : PoolId} {p : CxlPool}, f.state.pools[id]? = some p →
    Accounts f.state.reservations (onPool id) p.reservedBytes p.committedBytes

/-- What a pool admits fits the capacity that its members leave. -/
theorem Totalled.admits {p : CxlPool} (h : Totalled p)
    (hheld : p.reservedBytes.toNat + p.committedBytes.toNat ≤
      p.totalGovernedBytes.toNat - p.unavailableBytes.toNat)
    {n : ByteCount} (hn : n ≠ 0) (hfree : n ≤ poolFree p) :
    p.reservedBytes.toNat + n.toNat + p.committedBytes.toNat ≤
      p.totalGovernedBytes.toNat - p.unavailableBytes.toNat := by
  have hdraining : p.drainingBytes.toNat = 0 := by rw [h.draining]; rfl
  have htotal := p.totalGovernedBytes.toNat_lt
  have hunavailable := p.unavailableBytes.toNat_lt
  have hfit := poolFree_spec hn hfree (by omega)
  omega

/-- The totals of a pool move with its members only. -/
theorem PoolChange.totals {id : PoolId} {op : Op} {out : Outcome} {old new : Option CxlPool}
    {p p' : CxlPool} (h : PoolChange id op out old new) (hold : old = some p) (hnew : new = some p')
    (hp : Totalled p) (hop : KeepsMembers op) :
    p'.totalGovernedBytes = p.totalGovernedBytes ∧ p'.unavailableBytes = p.unavailableBytes := by
  have htotal : (recomputePool p).totalGovernedBytes = p.totalGovernedBytes := by rw [hp.recomputed]
  have hunavailable : (recomputePool p).unavailableBytes = p.unavailableBytes := by
    rw [hp.recomputed]
  cases h with
  | same =>
    cases hold.symm.trans hnew
    exact ⟨rfl, rfl⟩
  | reconciled | revalidated =>
    cases hold
    cases hnew
    exact ⟨htotal, hunavailable⟩
  | draining | booked =>
    cases hold
    cases hnew
    exact ⟨rfl, rfl⟩
  | created | added | removed | imported => exact hop.elim

theorem Resumed.step {f f' : Fabric} {op : Op} {out : Outcome} (hr : Resumed f)
    (h : f.Effect op out f') (hop : KeepsMembers op) : Resumed f' := by
  have himport (st : PersistedState) : op ≠ .importPersisted st := by
    rintro rfl
    exact hop
  have hstart : StartsPools (op, out) := by
    cases op with
    | createPool pool ctx => exact hop.elim
    | importPersisted st => exact hop
    | _ => trivial
  have hcounters {id : PoolId} {p' : CxlPool} (hp' : f'.state.pools[id]? = some p') :
      Accounts f'.state.reservations (onPool id) p'.reservedBytes p'.committedBytes ∧
        p'.reservedBytes.toNat + p'.committedBytes.toNat ≤
          p'.totalGovernedBytes.toNat - p'.unavailableBytes.toNat := by
    obtain ⟨p, hp, hstep⟩ | ⟨pool, ctx, rfl, -⟩ := h.poolCounters hr.numbered himport hp'
    · have hheld := hr.held hp
      have hlt := p.totalGovernedBytes.toNat_lt
      obtain ⟨htotal, hunavailable⟩ := (h.pool id).totals hp hp' (hr.totals hp) hop
      rw [htotal, hunavailable]
      refine hstep.accounts (hr.accounts hp) hheld (by omega) ?_
      intro n hn hfree
      exact (hr.totals hp).admits hheld hn hfree
    · exact hop.elim
  refine ⟨hr.numbered.step h himport, ?_, fun hp' => (hcounters hp').2,
    fun hp' => (hcounters hp').1⟩
  intro id p' hp'
  exact Totalled.step (h.pool id) hp' (fun p hp => hr.totals hp) hstart

/-- The counters of every pool are the bytes of the live reservations on it. -/
def CountersLive (f : Fabric) : Prop :=
  ∀ (id : PoolId) (p : CxlPool), f.state.pools[id]? = some p →
    p.reservedBytes.toNat + p.committedBytes.toNat =
      sumBy (liveBytes (onPool id)) f.state.reservations

def CountersZero (f : Fabric) : Prop :=
  ∀ (id : PoolId) (p : CxlPool), f.state.pools[id]? = some p →
    p.reservedBytes = 0 ∧ p.committedBytes = 0

section restarted
variable {f : Fabric} {beyond : ℕ → UInt8} {st : PersistedState}

theorem resumed_restart (hreached : Reached f) (hsaved : f.recover beyond = .ok st)
    (hzero : CountersZero f) (epoch : CoordinatorEpoch) (policy : PolicyGeneration) :
    Resumed (restart epoch policy st) := by
  obtain ⟨hkeyed, htotals⟩ := hreached.records
  have hpool {id : PoolId} {p' : CxlPool}
      (hp' : (restart epoch policy st).state.pools[id]? = some p') :
      ∃ p, f.state.pools[id]? = some p ∧ p' = recoveredPool p := by
    rw [restart_pools hkeyed hsaved] at hp'
    obtain ⟨p, hp, rfl⟩ := Option.map_eq_some_iff.mp hp'
    exact ⟨p, hp, rfl⟩
  refine ⟨⟨?_, rfl⟩, ?_, ?_, ?_⟩
  · intro id r hr
    rw [restart_reservations] at hr
    simp at hr
  · intro id p' hp'
    obtain ⟨p, hp, rfl⟩ := hpool hp'
    exact (htotals id p hp).recovered
  · intro id p' hp'
    obtain ⟨p, hp, rfl⟩ := hpool hp'
    change p.reservedBytes.toNat + p.committedBytes.toNat ≤ _
    rw [(hzero id p hp).1, (hzero id p hp).2]
    exact Nat.zero_le _
  · intro id p' hp'
    obtain ⟨p, hp, rfl⟩ := hpool hp'
    change Accounts _ _ p.reservedBytes p.committedBytes
    rw [(hzero id p hp).1, (hzero id p hp).2]
    refine .empty ?_
    intro rid r hr
    rw [restart_reservations] at hr
    simp at hr

/-- A restart keeps the counters exact in every state that follows if and only if the
counters were all zero when the state was saved. -/
theorem restart_conserves_iff (hreached : Reached f) (hsaved : f.recover beyond = .ok st)
    (epoch : CoordinatorEpoch) (policy : PolicyGeneration) :
    (∀ tr f', Run exec (restart epoch policy st) tr f' → (∀ e ∈ tr, KeepsMembers e.1) →
      CountersLive f') ↔ CountersZero f := by
  constructor
  · intro hlive id p hp
    have hpool := restart_pools hreached.records.1 hsaved epoch policy id
    rw [hp] at hpool
    have hsum := hlive [] _ (.nil _) (by simp) id _ hpool
    rw [restart_reservations, sumBy_empty] at hsum
    change p.reservedBytes.toNat + p.committedBytes.toNat = 0 at hsum
    constructor
    · exact UInt64.toNat_inj.mp (Nat.eq_zero_of_add_eq_zero hsum).1
    · exact UInt64.toNat_inj.mp (Nat.eq_zero_of_add_eq_zero hsum).2
  · intro hzero tr f' hrun hkeeps id p hp
    have hresumed : Resumed f' :=
      hrun.invariant (A := fun e => KeepsMembers e.1)
        (fun _ _ _ _ hA hI hexec => hI.step (exec_effect hexec) hA) hkeeps
        (resumed_restart hreached hsaved hzero epoch policy)
    exact (hresumed.accounts hp).sum

end restarted

/-- The sample topology before its first reservation. -/
def idleRun : Option (List (Op × Outcome) × Fabric) :=
  execAll exec (new ⟨1⟩ ⟨1⟩) (Synthetic.setup ⟨1⟩)

theorem idleRun_isSome : idleRun.isSome = true := by decide

theorem idleRun_recovers : (idleRun.get idleRun_isSome).2.recover (fun _ => 0) =
    .ok (storedState (idleRun.get idleRun_isSome).2.exportPersisted) :=
  recover_of_fits (by decide +kernel) (by decide +kernel) _

theorem reservedRun_recovers : (reservedRun.get reservedRun_isSome).2.recover (fun _ => 0) =
    .ok (storedState (reservedRun.get reservedRun_isSome).2.exportPersisted) :=
  recover_of_fits (by decide +kernel) (by decide +kernel) _

/-- The evidence on the sample topology is renewed and a reservation is made. -/
def resumption (epoch : CoordinatorEpoch) : List Op :=
  [.markDeviceOnline ⟨str "d1"⟩ (Synthetic.context epoch),
    .revalidatePool ⟨str "p-1"⟩ (Synthetic.context epoch),
    .revalidateRegion ⟨str "r1"⟩ (Synthetic.context epoch),
    .reserve Synthetic.sampleRequest (Synthetic.context epoch)]

def resumedRun : Option (List (Op × Outcome) × Fabric) :=
  execAll exec (restart ⟨2⟩ ⟨1⟩ (storedState (idleRun.get idleRun_isSome).2.exportPersisted))
    (resumption ⟨2⟩)

theorem resumedRun_isSome : resumedRun.isSome = true := by decide +kernel

theorem restart_conserves_iff_resumedRun :
    ∃ f st tr f', Reached f ∧ f.recover (fun _ => 0) = .ok st ∧ CountersZero f ∧
      Run exec (restart ⟨2⟩ ⟨1⟩ st) tr f' ∧
      sumBy (liveBytes (onPool ⟨str "p-1"⟩)) f'.state.reservations = 4 * 2 ^ 30 ∧
      CountersLive f' := by
  have hbefore := Run.of_execAll (Option.some_get idleRun_isSome).symm
  have hreached : Reached (idleRun.get idleRun_isSome).2 := .of_run hbefore (by decide)
  have hzero : CountersZero (idleRun.get idleRun_isSome).2 := by
    intro id p hp
    have hall : ∀ e ∈ (idleRun.get idleRun_isSome).2.state.pools.toList,
        e.2.reservedBytes = 0 ∧ e.2.committedBytes = 0 := by decide
    exact hall (id, p) (Std.ExtTreeMap.mem_toList_iff_getElem?_eq_some.mpr hp)
  have hafter := Run.of_execAll (Option.some_get resumedRun_isSome).symm
  have hkeeps : ∀ e ∈ (resumedRun.get resumedRun_isSome).1, KeepsMembers e.1 := by decide +kernel
  refine ⟨_, _, _, _, hreached, idleRun_recovers, hzero, hafter, by decide +kernel, ?_⟩
  exact (restart_conserves_iff hreached idleRun_recovers ⟨2⟩ ⟨1⟩).mpr hzero _ _ hafter hkeeps

/-- 4 GiB stay booked after a restart although no reservation is left. -/
theorem restart_leaks_reserved_bytes :
    ∃ f st, Reached f ∧ f.recover (fun _ => 0) = .ok st ∧
      (restart ⟨2⟩ ⟨1⟩ st).state.reservations = ∅ ∧
      ((restart ⟨2⟩ ⟨1⟩ st).state.pools[(⟨str "p-1"⟩ : PoolId)]?.map CxlPool.reservedBytes) =
        some (4 * 1024 * 1024 * 1024) ∧
      ¬CountersLive (restart ⟨2⟩ ⟨1⟩ st) := by
  have hbefore := Run.of_execAll (Option.some_get reservedRun_isSome).symm
  have hreached : Reached (reservedRun.get reservedRun_isSome).2 := .of_run hbefore (by decide)
  have hpool : (restart ⟨2⟩ ⟨1⟩ (storedState (reservedRun.get
      reservedRun_isSome).2.exportPersisted)).state.pools[(⟨str "p-1"⟩ : PoolId)]?.map
        CxlPool.reservedBytes = some (4 * 1024 * 1024 * 1024) := by decide +kernel
  refine ⟨_, _, hreached, reservedRun_recovers, rfl, hpool, ?_⟩
  intro hlive
  obtain ⟨p, hp, hreserved⟩ := Option.map_eq_some_iff.mp hpool
  have hsum := hlive _ p hp
  rw [restart_reservations, sumBy_empty, hreserved] at hsum
  exact absurd (Nat.eq_zero_of_add_eq_zero hsum).1 (by decide)

/-- A reserve hands out a numbered identity. -/
theorem issued_number {f f' : Fabric} {tr : List (Op × Outcome)} (hrun : Run exec f tr f')
    {req : AdmissionRequest} {ctx : AuthorityContext} {o : ReserveOutcome}
    (hmem : (Op.reserve req ctx, Outcome.reservation o) ∈ tr) (hok : o.ok = true) :
    ∃ n, o.reservation.id = reservationId n := by
  obtain ⟨s, s', hexec⟩ := hrun.exec_of_mem hmem
  have heffect := exec_effect hexec
  cases heffect with
  | refused fallible failed => simp [hok] at failed
  | reserve epoch admission => exact ⟨s.sequence + 1, rfl⟩

/-- A commit or a release that changes nothing and fails. -/
structure Refuses (f : Fabric) (id : ReservationId) (ctx : AuthorityContext) : Prop where
  commit : (f.commit id ctx).2.ok = false ∧ (f.commit id ctx).1 = f
  release : (f.release id ctx).2.ok = false ∧ (f.release id ctx).1 = f

theorem refuses_of_absent {f : Fabric} {id : ReservationId}
    (h : f.state.reservations[id]? = none) (ctx : AuthorityContext) : Refuses f id ctx := by
  refine ⟨?_, ?_⟩
  · simp [commit, h]
  · simp [release, h]

/-- The identities in the new process have numbers up to the reserves that it has served. -/
theorem restart_idsIssued {epoch : CoordinatorEpoch} {policy : PolicyGeneration}
    {st : PersistedState} {tr : List (Op × Outcome)} {f : Fabric}
    (hrun : Run exec (restart epoch policy st) tr f) (hlt : (tr.map reserveCount).sum < 2 ^ 64) :
    IdsIssued f ∧ f.sequence.toNat = (tr.map reserveCount).sum := by
  refine hrun.invariant_trace
    (I := fun tr f => IdsIssued f ∧ f.sequence.toNat = (tr.map reserveCount).sum)
    (A := fun tr => (tr.map reserveCount).sum < 2 ^ 64) ?_ ?_ hlt ?_
  · intro tr e hlt
    simp only [List.map_append, List.sum_append] at hlt
    omega
  · rintro tr s a b s' hlt ⟨hids, hcount⟩ hexec
    simp only [List.map_append, List.sum_append, List.map_singleton, List.sum_singleton] at hlt ⊢
    rw [← hcount] at hlt ⊢
    have heffect := exec_effect hexec
    exact ⟨hids.step heffect hlt, heffect.toNat_sequence hlt⟩
  · refine ⟨?_, rfl⟩
    intro id r hr
    rw [restart_reservations] at hr
    simp at hr

/-- An identity from before a restart is refused as long as the new process has not
issued its number again. -/
theorem old_ids_refused {f₀ f : Fabric} {tr₀ : List (Op × Outcome)} (hbefore : Run exec f₀ tr₀ f)
    {req : AdmissionRequest} {ctx₀ : AuthorityContext} {o : ReserveOutcome}
    (hissued : (Op.reserve req ctx₀, Outcome.reservation o) ∈ tr₀) (hok : o.ok = true) :
    ∃ n, o.reservation.id = reservationId n ∧
      ∀ (epoch : CoordinatorEpoch) (policy : PolicyGeneration) (st : PersistedState)
        (tr : List (Op × Outcome)) (f' : Fabric), Run exec (restart epoch policy st) tr f' →
        (tr.map reserveCount).sum < n.toNat → ∀ ctx, Refuses f' o.reservation.id ctx := by
  obtain ⟨n, hn⟩ := issued_number hbefore hissued hok
  refine ⟨n, hn, ?_⟩
  intro epoch policy st tr f' hrun hcount ctx
  have hlt := n.toNat_lt
  obtain ⟨hids, hsequence⟩ := restart_idsIssued hrun (by omega)
  apply refuses_of_absent
  rw [hn]
  apply hids.absent
  rw [UInt64.lt_iff_toNat_lt, hsequence]
  exact hcount

/-- What a reserve, a commit or a release reports. -/
def reserveOutcome : Outcome → Option ReserveOutcome
  | .reservation o => some o
  | _ => none

/-- The answer of a last reserve that has succeeded is in the trace. -/
theorem issued_last {tr : List (Op × Outcome)} {req : AdmissionRequest} {ctx : AuthorityContext}
    {n : UInt64}
    (hlast : (tr.getLast?.map fun e =>
      (e.1, (reserveOutcome e.2).map fun o => (o.ok, o.reservation.id))) =
        some (.reserve req ctx, some (true, reservationId n))) :
    ∃ o, (Op.reserve req ctx, Outcome.reservation o) ∈ tr ∧ o.ok = true ∧
      o.reservation.id = reservationId n := by
  obtain ⟨⟨op, out⟩, he, hboth⟩ := Option.map_eq_some_iff.mp hlast
  simp only [Prod.mk.injEq] at hboth
  obtain ⟨rfl, hout⟩ := hboth
  cases out with
  | reservation o =>
    simp only [reserveOutcome, Option.map_some, Option.some.injEq, Prod.mk.injEq] at hout
    exact ⟨o, List.mem_of_getLast? he, hout⟩
  | done | decision r | reconfigured o => cases hout

/-- Two reservations before the restart. -/
def twiceReservedRun : Option (List (Op × Outcome) × Fabric) :=
  execAll exec (new ⟨1⟩ ⟨1⟩) (Synthetic.setup ⟨1⟩ ++
    List.replicate 2 (.reserve Synthetic.sampleRequest (Synthetic.context ⟨1⟩)))

theorem twiceReservedRun_isSome : twiceReservedRun.isSome = true := by decide +kernel

theorem twiceReservedRun_issues :
    ∃ o, (Op.reserve Synthetic.sampleRequest (Synthetic.context ⟨1⟩), Outcome.reservation o) ∈
      (twiceReservedRun.get twiceReservedRun_isSome).1 ∧ o.ok = true ∧
      o.reservation.id = reservationId 2 :=
  issued_last (by decide +kernel)

theorem twiceReservedRun_recovers :
    (twiceReservedRun.get twiceReservedRun_isSome).2.recover (fun _ => 0) =
      .ok (storedState (twiceReservedRun.get twiceReservedRun_isSome).2.exportPersisted) :=
  recover_of_fits (by decide +kernel) (by decide +kernel) _

/-- One more after it. -/
def onceReissuedRun : Option (List (Op × Outcome) × Fabric) :=
  execAll exec (restart ⟨2⟩ ⟨1⟩
    (storedState (twiceReservedRun.get twiceReservedRun_isSome).2.exportPersisted)) (resumption ⟨2⟩)

theorem onceReissuedRun_isSome : onceReissuedRun.isSome = true := by decide +kernel

theorem old_ids_refused_restart :
    ∃ f₀ tr₀ f o st tr f', Run exec f₀ tr₀ f ∧
      (Op.reserve Synthetic.sampleRequest (Synthetic.context ⟨1⟩), Outcome.reservation o) ∈ tr₀ ∧
      o.ok = true ∧ o.reservation.id = reservationId 2 ∧ f.recover (fun _ => 0) = .ok st ∧
      Run exec (restart ⟨2⟩ ⟨1⟩ st) tr f' ∧ (tr.map reserveCount).sum = 1 ∧
      ∀ ctx, Refuses f' o.reservation.id ctx := by
  have hbefore := Run.of_execAll (Option.some_get twiceReservedRun_isSome).symm
  have hafter := Run.of_execAll (Option.some_get onceReissuedRun_isSome).symm
  obtain ⟨o, hmem, hok, hid⟩ := twiceReservedRun_issues
  have hcount : ((onceReissuedRun.get onceReissuedRun_isSome).1.map reserveCount).sum = 1 := by
    decide +kernel
  refine ⟨_, _, _, o, _, _, _, hbefore, hmem, hok, hid, twiceReservedRun_recovers, hafter, hcount,
    ?_⟩
  obtain ⟨n, hn, hrefuses⟩ := old_ids_refused hbefore hmem hok
  have htwo : n = 2 := reservationId_injective (hn.symm.trans hid)
  refine hrefuses ⟨2⟩ ⟨1⟩ _ _ _ hafter ?_
  rw [htwo, hcount]
  decide

theorem reservedRun_issues :
    ∃ o, (Op.reserve Synthetic.sampleRequest (Synthetic.context ⟨1⟩), Outcome.reservation o) ∈
      (reservedRun.get reservedRun_isSome).1 ∧ o.ok = true ∧ o.reservation.id = reservationId 1 :=
  issued_last (by decide)

/-- The new process issues the first number again. -/
def reissuedRun : Option (List (Op × Outcome) × Fabric) :=
  execAll exec
    (restart ⟨2⟩ ⟨1⟩ (storedState (reservedRun.get reservedRun_isSome).2.exportPersisted))
    (resumption ⟨2⟩)

theorem reissuedRun_isSome : reissuedRun.isSome = true := by decide +kernel

/-- A holder of the first identity from before the restart frees the bytes of another. -/
theorem old_id_releases_new_reservation :
    ∃ f₀ tr₀ f o st tr f', Run exec f₀ tr₀ f ∧
      (Op.reserve Synthetic.sampleRequest (Synthetic.context ⟨1⟩), Outcome.reservation o) ∈ tr₀ ∧
      o.ok = true ∧ f.recover (fun _ => 0) = .ok st ∧ f.state.coordinatorEpoch < ⟨2⟩ ∧
      Run exec (restart ⟨2⟩ ⟨1⟩ st) tr f' ∧ f'.Authorized (Synthetic.context ⟨2⟩) ∧
      (Synthetic.context ⟨2⟩).workerBootId.empty = true ∧
      (f'.commit o.reservation.id (Synthetic.context ⟨2⟩)).2.ok = true ∧
      (f'.release o.reservation.id (Synthetic.context ⟨2⟩)).2.ok = true := by
  have hbefore := Run.of_execAll (Option.some_get reservedRun_isSome).symm
  obtain ⟨o, hmem, hok, hid⟩ := reservedRun_issues
  have hafter := Run.of_execAll (Option.some_get reissuedRun_isSome).symm
  refine ⟨_, _, _, o, _, _, _, hbefore, hmem, hok, reservedRun_recovers, by decide, hafter, ?_,
    rfl, ?_, ?_⟩
  · unfold Authorized
    decide +kernel
  · rw [hid]
    decide +kernel
  · rw [hid]
    decide +kernel

end Fabric

end CxlFabric
