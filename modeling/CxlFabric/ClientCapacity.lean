import CxlFabric.Announcements
import CxlFabric.AuditVerdict

/-! # Capacity under any clients

The frames of a client lead to few of the operations of the engine. None of them takes a
member out of a pool or overwrites a counter, and every record they create starts from
zero. So no traffic makes a pool or a region hold more than it has, and the audit passes
in every state. -/
namespace CxlFabric

/-- The calls that the frames of the clients, and the ends of their connections, lead to. -/
inductive Op.Remote : Op → Prop
  | registerDevice (dev : CxlDevice) (ctx : AuthorityContext) : Remote (.registerDevice dev ctx)
  | createPool {pool : CxlPool} (ctx : AuthorityContext) (reserved : pool.reservedBytes = 0)
      (committed : pool.committedBytes = 0) (draining : pool.drainingBytes = 0) :
      Remote (.createPool pool ctx)
  | createRegion {region : CxlRegion} (ctx : AuthorityContext) (reserved : region.reservedBytes = 0)
      (committed : region.committedBytes = 0) : Remote (.createRegion region ctx)
  | revalidatePool (id : PoolId) (ctx : AuthorityContext) : Remote (.revalidatePool id ctx)
  | revalidateRegion (id : RegionId) (ctx : AuthorityContext) : Remote (.revalidateRegion id ctx)
  | markDeviceRevalidation (d : DeviceId) (ctx : AuthorityContext) :
      Remote (.markDeviceRevalidation d ctx)
  | reserve (req : AdmissionRequest) (ctx : AuthorityContext) : Remote (.reserve req ctx)
  | commit (id : ReservationId) (ctx : AuthorityContext) : Remote (.commit id ctx)
  | release (id : ReservationId) (ctx : AuthorityContext) : Remote (.release id ctx)

namespace Fabric
variable {f f' : Fabric} {op : Op} {out : Outcome}

theorem startsPools_of_remote (h : op.Remote) (out : Outcome) : StartsPools (op, out) := by
  cases h with
  | createPool ctx reserved committed draining => exact fun _ => ⟨reserved, committed, draining⟩
  | _ => trivial

theorem startsRegions_of_remote (h : op.Remote) (out : Outcome) : StartsRegions (op, out) := by
  cases h with
  | createRegion ctx reserved committed => exact fun _ => ⟨reserved, committed⟩
  | _ => trivial

/-- The bytes of the members of all pools that are stored. -/
def storedSum (w : PoolMember → ℕ) (f : Fabric) : ℕ :=
  sumBy (fun p => memberSum w p.members) f.state.pools

/-- What a remote call does to a pool: it makes one, or keeps its members. -/
theorem PoolChange.members_kept {id : PoolId} {old : Option CxlPool} {p' : CxlPool}
    (h : PoolChange id op out old (some p')) (hop : op.Remote) :
    (∃ p, old = some p ∧ p'.members = p.members) ∨
      (old = none ∧ p'.members = membersPassed op) := by
  generalize hnew : some p' = new at h
  cases h with
  | same => exact .inl ⟨p', hnew.symm, rfl⟩
  | created key =>
    cases hnew
    exact .inr ⟨rfl, rfl⟩
  | added | removed | draining | reconciled | imported => cases hop
  | revalidated valid =>
    cases hnew
    exact .inl ⟨_, rfl, rfl⟩
  | booked books reserved committed =>
    cases hnew
    exact .inl ⟨_, rfl, rfl⟩

theorem Op.Remote.not_import (h : op.Remote) (st : PersistedState) : op ≠ .importPersisted st := by
  rintro rfl
  cases h

/-- A call that passes no members keeps the sums over the members. -/
theorem Effect.storedSum_kept (h : f.Effect op out f') (hop : op.Remote)
    (hnone : membersPassed op = []) (w : PoolMember → ℕ) :
    Fabric.storedSum w f' = Fabric.storedSum w f := by
  unfold Fabric.storedSum
  rcases h.pools (Op.Remote.not_import hop) with hsame | ⟨id, p', hinsert⟩
  · rw [hsame]
  have hstored : f'.state.pools[id]? = some p' := by
    rw [hinsert, getElem?_insert_eq]
    exact if_pos rfl
  have hchange := h.pool id
  rw [hstored] at hchange
  rw [hinsert]
  rcases PoolChange.members_kept hchange hop with ⟨p, hp, hmembers⟩ | ⟨hp, hmembers⟩
  · have hsum := sumBy_insert_of_present (fun p => memberSum w p.members) p' hp
    simp only [hmembers] at hsum
    omega
  · rw [sumBy_insert_of_absent _ _ hp, hmembers, hnone]
    rfl

/-- A remote call that passes members stores them, or changes nothing. -/
theorem Effect.storedSum (h : f.Effect op out f') (hop : op.Remote) (w : PoolMember → ℕ) :
    f' = f ∨ Fabric.storedSum w f' = Fabric.storedSum w f + memberSum w (membersPassed op) := by
  have hkept := h.storedSum_kept hop
  cases hop with
  | @createPool pool ctx reserved committed draining =>
    cases h with
    | refused fallible failed => exact .inl rfl
    | createPool epoch named fresh members =>
      right
      unfold Fabric.storedSum
      rw [recomputeLedger_state_pools, setPool_state_pools, sumBy_insert_of_absent _ _ fresh]
      rfl
  | _ => exact .inr (hkept rfl w)

theorem Effect.storedSum_le (h : f.Effect op out f') (hop : op.Remote) (w : PoolMember → ℕ) :
    Fabric.storedSum w f ≤ Fabric.storedSum w f' := by
  rcases h.storedSum hop w with hsame | hsum
  · rw [hsame]
  · omega

theorem storedSum_le_of_run {tr : List (Op × Outcome)} (hrun : Run exec f tr f')
    (hops : ∀ e ∈ tr, e.1.Remote) (w : PoolMember → ℕ) : storedSum w f ≤ storedSum w f' := by
  induction hrun with
  | nil s => exact le_refl _
  | cons head tail ih =>
    rw [List.forall_mem_cons] at hops
    exact ((exec_effect head).storedSum_le hops.1 w).trans (ih hops.2)

/-- An online member counts once, as healthy or as failed. -/
theorem storedSum_healthy_add_failed_le (f : Fabric) :
    storedSum healthyBytes f + storedSum failedBytes f ≤ storedSum (·.nominalBytes.toNat) f := by
  unfold storedSum
  rw [← sumBy_add]
  refine sumBy_mono ?_ _
  intro p
  induction p.members with
  | nil => simp
  | cons m ms ih =>
    simp only [memberSum_cons]
    have hm : healthyBytes m + failedBytes m ≤ m.nominalBytes.toNat := by
      unfold healthyBytes failedBytes
      cases m.online <;> cases m.healthOk <;> simp
    omega

/-- Every counter is funded: by the reservations it counts, and by members or capacity that
are there to hold them. -/
structure Funded (f : Fabric) : Prop where
  pools : PoolsConserved (storedSum healthyBytes f) (storedSum failedBytes f) f
  regions : RegionsConserved f
  covered : ∀ {id : PoolId} {p : CxlPool}, f.state.pools[id]? = some p →
    p.reservedBytes.toNat + p.committedBytes.toNat ≤ memberSum healthyBytes p.members
  current : LedgerCurrent f

theorem withinSums_of_covered (hcovered : ∀ {id : PoolId} {p : CxlPool},
    f.state.pools[id]? = some p →
      p.reservedBytes.toNat + p.committedBytes.toNat ≤ memberSum healthyBytes p.members) :
    WithinSums (storedSum healthyBytes f) (storedSum failedBytes f) f := by
  refine ⟨?_, le_refl _⟩
  refine sumBy_le_sumBy ?_
  intro id p hp
  exact max_le (hcovered hp) (le_refl _)

theorem Funded.covered_step (h : f.Funded) (heffect : f.Effect op out f') (hop : op.Remote)
    (hlt : Fabric.storedSum healthyBytes f + Fabric.storedSum failedBytes f < 2 ^ 64) {id : PoolId}
    {p' : CxlPool} (hp' : f'.state.pools[id]? = some p') :
    p'.reservedBytes.toNat + p'.committedBytes.toNat ≤ memberSum healthyBytes p'.members := by
  have hchange := heffect.pool id
  rw [hp'] at hchange
  have hmembers := PoolChange.members_kept hchange hop
  rcases heffect.poolCounters h.pools.numbered (Op.Remote.not_import hop) hp' with
    ⟨p, hp, hstep⟩ | ⟨pool, ctx, rfl, hout, hnone, -, hreserved, hcommitted⟩
  · have hkept : p'.members = p.members := by
      rcases hmembers with ⟨q, hq, hkept⟩ | ⟨hnone, -⟩
      · cases hp.symm.trans hq
        exact hkept
      · cases hp.symm.trans hnone
    have hbudget := h.pools.budget hp
    have hown : WithinBudget (memberSum healthyBytes p.members)
        (memberSum failedBytes p.members) p :=
      { hbudget with healthy_le := le_refl _, failed_le := le_refl _ }
    have hsum : memberSum healthyBytes p.members + memberSum failedBytes p.members < 2 ^ 64 := by
      have hhealthy := hbudget.healthy_le
      have hfailed := hbudget.failed_le
      omega
    rw [hkept]
    refine (hstep.accounts (h.pools.accounts hp) (h.covered hp) (by omega) ?_).2
    intro n hn hfits
    exact hown.admits hsum (h.covered hp) hn hfits
  · cases hop with
    | createPool ctx reserved committed draining =>
      rw [hreserved, hcommitted, reserved, committed]
      exact Nat.zero_le _

theorem Funded.step (h : f.Funded) (heffect : f.Effect op out f') (hop : op.Remote)
    (hlt : Fabric.storedSum healthyBytes f' + Fabric.storedSum failedBytes f' < 2 ^ 64) :
    f'.Funded := by
  rcases heffect.storedSum hop healthyBytes with hsame | hhealthy
  · rw [hsame]
    exact h
  rcases heffect.storedSum hop failedBytes with hsame | hfailed
  · rw [hsame]
    exact h
  have hpools : PoolsConserved (Fabric.storedSum healthyBytes f') (Fabric.storedSum failedBytes f')
      f' := h.pools.step heffect (startsPools_of_remote hop out) hhealthy.ge hfailed.ge hlt
  have hcovered {id : PoolId} {p' : CxlPool} (hp' : f'.state.pools[id]? = some p') :
      p'.reservedBytes.toNat + p'.committedBytes.toNat ≤ memberSum healthyBytes p'.members :=
    h.covered_step heffect hop (by omega) hp'
  refine ⟨hpools, ?_, hcovered, ?_⟩
  · exact h.regions.step h.pools.numbered heffect (startsRegions_of_remote hop out)
      (Op.Remote.not_import hop)
  · exact h.current.step h.pools heffect fun k =>
      (withinSums_of_covered hcovered).fits hpools hlt k

theorem funded_new (epoch : CoordinatorEpoch) (policy : PolicyGeneration) :
    (new epoch policy).Funded := by
  refine ⟨?_, regionsConserved_new epoch policy, ?_, ledgerCurrent_new epoch policy⟩
  · have hzero (w : PoolMember → ℕ) : storedSum w (new epoch policy) = 0 := sumBy_empty _
    rw [hzero, hzero]
    exact poolsConserved_new epoch policy
  · intro id p hp
    rw [new_pools] at hp
    cases hp

theorem Funded.run {tr : List (Op × Outcome)} (h : f.Funded) (hrun : Run exec f tr f')
    (hops : ∀ e ∈ tr, e.1.Remote) (hlt : Fabric.storedSum (·.nominalBytes.toNat) f' < 2 ^ 64) :
    f'.Funded := by
  induction hrun with
  | nil s => exact h
  | @cons s t u a b tr head tail ih =>
    rw [List.forall_mem_cons] at hops
    refine ih (h.step (exec_effect head) hops.1 ?_) hops.2 hlt
    have hgrows := storedSum_le_of_run tail hops.2 (·.nominalBytes.toNat)
    have hsplit := storedSum_healthy_add_failed_le t
    omega

/-- What is funded passes the audit. -/
theorem Funded.audit (h : f.Funded)
    (hlt : Fabric.storedSum (·.nominalBytes.toNat) f < 2 ^ 64) :
    f.LedgerClosed ∧ f.audit.ok = true := by
  have hsplit := storedSum_healthy_add_failed_le f
  have hclosed : f.LedgerClosed := fun id p hp _ => (h.pools.closed_iff hp).mpr (h.covered hp)
  refine ⟨hclosed, ?_⟩
  exact ((withinSums_of_covered h.covered).audit_ok_iff h.pools (by omega)).mpr hclosed

/-- The ledger of the snapshot is the one the audit computes. -/
theorem Funded.ledger (h : f.Funded)
    (hlt : Fabric.storedSum (·.nominalBytes.toNat) f < 2 ^ 64) :
    f.snapshot.globalLedger = f.audit.globalLedger := by
  have hsplit := storedSum_healthy_add_failed_le f
  have hfits := (withinSums_of_covered h.covered).fits h.pools (by omega)
  apply CapacityLine.ext_get
  intro k
  apply UInt64.toNat_inj.mp
  rw [audit_globalLedger_get, keptSum_of_lt (hfits k)]
  exact h.current k

end Fabric

namespace Coordinator

section talk
variable {ctx : AuthorityContext} {f : Frame} {p : Phase} {x evts : List Event} {op : Op}
  {out : Outcome}

/-- A region that comes over the wire holds nothing. -/
theorem decodeRegion_holds_nothing {b : ℕ → UInt8} {payload : List UInt8} {region : CxlRegion}
    (h : Codec.decodeRegion b payload = .ok region) :
    region.reservedBytes = 0 ∧ region.committedBytes = 0 := by
  have hyields : Yields Codec.getRegion
      fun region => region.reservedBytes = 0 ∧ region.committedBytes = 0 :=
    .bind fun _ => .bind fun _ => .bind fun _ => .bind fun _ => .bind fun _ => .bind fun _ =>
      .bind fun _ => .bind fun _ => .pure ⟨rfl, rfl⟩
  unfold Codec.decodeRegion Codec.decodeAll Codec.decodeRun at h
  generalize hrun : Codec.getRegion.run _ 0 = out at h
  rcases out with ⟨_ | ⟨read, pos⟩, asked⟩
  · cases h
  · dsimp only at h
    split at h
    · cases h
    · cases h
      exact hyields _ 0 (region, pos) (congrArg Prod.fst hrun)

theorem Asks.remote (h : Asks ctx f op) : op.Remote := by
  cases h with
  | device type decoded => exact .registerDevice _ _
  | reserve type decoded => exact .reserve _ _
  | commit type => exact .commit _ _
  | release type => exact .release _ _
  | pool type decoded => exact .createPool _ rfl rfl rfl
  | region type decoded =>
    obtain ⟨hreserved, hcommitted⟩ := decodeRegion_holds_nothing decoded
    exact .createRegion _ hreserved hcommitted

theorem Retries.remote {op' : Op} (h : Retries ctx op op') : op'.Remote := by
  cases h with
  | pool pool => exact .revalidatePool _ _
  | region region => exact .revalidateRegion _ _

theorem Exchange.remote {At : StateSnapshot → Prop} (h : Exchange At ctx f x)
    (hmem : .call op out ∈ x) : op.Remote := by
  cases h with
  | served asks final answers =>
    simp only [List.mem_cons, Event.call.injEq, reduceCtorEq, List.not_mem_nil, or_false] at hmem
    rw [hmem.1]
    exact asks.remote
  | retried asks retries answers =>
    simp only [List.mem_cons, Event.call.injEq, reduceCtorEq, List.not_mem_nil, or_false] at hmem
    rcases hmem with hmem | hmem
    · rw [hmem.1]
      exact asks.remote
    · rw [hmem.1]
      exact retries.remote
  | refused refuses | queried type seen => simp at hmem
  | stopped type => cases hmem

theorem Underway.remote {At : StateSnapshot → Prop} (h : Underway At ctx f p x)
    (hmem : .call op out ∈ x) : op.Remote := by
  cases h with
  | dispatching => cases hmem
  | registered asks | duplicatePool asks | duplicateRegion asks | reserved asks =>
    cases List.mem_singleton.mp hmem
    exact asks.remote
  | replying exchange => exact exchange.remote (List.mem_append_left _ hmem)

variable {At : List Event → StateSnapshot → Prop}

theorem Talk.remote (h : Talk At ctx evts) (hmem : .call op out ∈ evts) : op.Remote := by
  induction h with
  | boot => simp at hmem
  | exchange talk exchange ih =>
    rcases List.mem_append.mp hmem with hmem | hmem
    · exact ih hmem
    · rcases List.mem_cons.mp hmem with hmem | hmem
      · cases hmem
      · exact exchange.remote hmem

/-- Every call in a conversation is one of the remote ones. -/
theorem Stands.remote (h : Stands At ctx p evts) (hmem : .call op out ∈ evts) : op.Remote := by
  cases h with
  | greeting | unheard => cases hmem
  | turnedAway type => simp at hmem
  | between idle talk => exact talk.remote hmem
  | within talk underway =>
    rcases List.mem_append.mp hmem with hmem | hmem
    · exact talk.remote hmem
    · rcases List.mem_cons.mp hmem with hmem | hmem
      · cases hmem
      · exact underway.remote hmem
  | ended ending talk fencing =>
    rcases List.mem_append.mp hmem with hmem | hmem
    · exact talk.remote hmem
    · cases fencing _ hmem with
      | call d ctx reason => exact .markDeviceRevalidation d ctx

end talk

section run
variable {s : Coordinator} {tr : List (Act × Report)}

theorem calls_remote {epoch : CoordinatorEpoch} {recovered : Option PersistedState}
    {persist : Bool} (hrun : Run exec (start epoch recovered persist) tr s) :
    ∀ e ∈ calls tr, e.1.Remote := by
  rintro ⟨op, out⟩ he
  obtain ⟨a, hmem⟩ := mem_calls.mp he
  obtain ⟨t, t', hexec⟩ := hrun.exec_of_mem hmem
  obtain ⟨c, b, rfl⟩ := (exec_effect hexec).advances (by simp [Report.call])
  have hevent : .call op out ∈ conversation c tr :=
    List.mem_filterMap.mpr ⟨_, hmem, by simp [eventOf]⟩
  have hconsistent := consistent_of_run hrun
  cases hw : s.connections[c]? with
  | none =>
    rw [hconsistent.unknown c hw] at hevent
    cases hevent
  | some w => exact (hconsistent.known c w hw).remote hevent

/-- Whatever the clients send and however their threads interleave: as long as the stored
pools govern less than a word of bytes together, every counter is the sum of the
reservations behind it, nothing holds more than it has, and the audit agrees. -/
theorem traffic_keeps_capacity {epoch : CoordinatorEpoch} {persist : Bool}
    (hrun : Run exec (start epoch none persist) tr s)
    (hbytes : Fabric.storedSum (·.nominalBytes.toNat) s.fabric < 2 ^ 64) :
    s.fabric.audit.ok = true ∧ s.fabric.snapshot.globalLedger = s.fabric.audit.globalLedger ∧
    (∀ (id : PoolId) (p : CxlPool), s.fabric.state.pools[id]? = some p → p.Closed ∧
      p.reservedBytes.toNat + p.committedBytes.toNat =
        sumBy (liveBytes (onPool id)) s.fabric.state.reservations) ∧
    (∀ (id : RegionId) (r : CxlRegion), s.fabric.state.regions[id]? = some r →
      r.reservedBytes.toNat + r.committedBytes.toNat ≤ r.regionCapacityBytes.toNat ∧
      r.reservedBytes.toNat + r.committedBytes.toNat =
        sumBy (liveBytes (onRegion id)) s.fabric.state.reservations) ∧
    ∀ id ctx, (s.fabric.commit id ctx).2.reason ≠ .capacityOvercommit ∧
      (s.fabric.release id ctx).2.reason ≠ .reservationConflict := by
  have hfunded : s.fabric.Funded :=
    (Fabric.funded_new epoch ⟨1⟩).run (run_fabric hrun) (calls_remote hrun) hbytes
  obtain ⟨-, hok⟩ := hfunded.audit hbytes
  refine ⟨hok, hfunded.ledger hbytes, ?_, ?_, ?_⟩
  · intro id p hp
    exact ⟨(hfunded.pools.closed_iff hp).mpr (hfunded.covered hp), (hfunded.pools.accounts hp).sum⟩
  · intro id r hr
    exact ⟨hfunded.regions.held hr, (hfunded.regions.accounts hr).sum⟩
  · intro id ctx
    exact ⟨hfunded.pools.commit_ne_overcommit id ctx, hfunded.pools.release_ne_conflict id ctx⟩

theorem traffic_keeps_capacity_committingRun :
    ∃ tr s, Run exec (start ⟨1⟩ none false) tr s ∧
      Fabric.storedSum (·.nominalBytes.toNat) s.fabric < 2 ^ 64 ∧
      sumBy (liveBytes (onPool ⟨str "p-1"⟩)) s.fabric.state.reservations = 4096 ∧
      s.fabric.audit.ok = true := by
  have hsums : (committingRun (str "w-1")).any (fun q =>
      Fabric.storedSum (·.nominalBytes.toNat) q.2.fabric < 2 ^ 64 ∧
      sumBy (liveBytes (onPool ⟨str "p-1"⟩)) q.2.fabric.state.reservations = 4096) = true := by
    decide +kernel
  obtain ⟨⟨tr, s⟩, hsteps, hchecks⟩ := (Option.any_eq_true _ _).mp hsums
  obtain ⟨hbytes, hlive⟩ := of_decide_eq_true hchecks
  have hrun := Run.of_execAll hsteps
  exact ⟨tr, s, hrun, hbytes, hlive, (traffic_keeps_capacity hrun hbytes).1⟩

end run

end Coordinator

end CxlFabric
