import CxlFabric.Restart

/-! # Eligibility after a restart

After a restart nothing is in service until it is marked online or revalidated again. What
was accepted before the restart is then accepted again, unless the request asks for a tier:
the tier of a region is not written. -/
namespace CxlFabric

open Persistence

namespace Fabric

/-- The stored records of the triple are accepted for the request. -/
def Accepts (f : Fabric) (req : AdmissionRequest) (P : PoolId) (R : RegionId) (D : DeviceId) :
    Prop :=
  ∃ pool ∈ f.state.pools[P]?, ∃ reg ∈ f.state.regions[R]?, ∃ dev ∈ f.state.devices[D]?,
    (evaluateCandidate (mkCandidate pool reg dev) req pool.evidenceCurrent).selected = true

instance (f : Fabric) (req : AdmissionRequest) (P : PoolId) (R : RegionId) (D : DeviceId) :
    Decidable (f.Accepts req P R D) :=
  inferInstanceAs (Decidable (∃ pool ∈ f.state.pools[P]?, _))

def renewedDevice (d : CxlDevice) : CxlDevice :=
  { d with state := .named .online, evidenceCurrent := true }

def renewedRegion (r : CxlRegion) : CxlRegion :=
  { r with state := .named .online, evidenceCurrent := true, health := .named .healthy }

def renewedPool (p : CxlPool) : CxlPool :=
  recomputePool { p with
    state := .available, evidenceCurrent := true, healthSummary := .named .healthy }

@[simp] theorem renewedDevice_idem (d : CxlDevice) :
    renewedDevice (renewedDevice d) = renewedDevice d := rfl

@[simp] theorem renewedRegion_idem (r : CxlRegion) :
    renewedRegion (renewedRegion r) = renewedRegion r := rfl

@[simp] theorem renewedPool_idem (p : CxlPool) :
    renewedPool (renewedPool p) = renewedPool p := rfl

/-- The operations that renew what was in service. -/
def renewals (f : Fabric) (ctx : AuthorityContext) : List Op :=
  (f.state.devices.toList.filter (·.2.state = .named .online)).map
    (fun e => .markDeviceOnline e.1 ctx) ++
  (f.state.pools.toList.filter (·.2.state = .available)).map (fun e => .revalidatePool e.1 ctx) ++
  (f.state.regions.toList.filter (·.2.state = .named .online)).map
    (fun e => .revalidateRegion e.1 ctx)

/-- An operation that renews one record. -/
inductive Renews (ctx : AuthorityContext) : Op → Prop
  | device (id : DeviceId) : Renews ctx (.markDeviceOnline id ctx)
  | pool (id : PoolId) : Renews ctx (.revalidatePool id ctx)
  | region (id : RegionId) : Renews ctx (.revalidateRegion id ctx)

section renewals
variable {f : Fabric} {ctx : AuthorityContext}

theorem renews_of_mem {op : Op} (h : op ∈ renewals f ctx) : Renews ctx op := by
  simp only [renewals, List.mem_append, List.mem_map] at h
  rcases h with (⟨e, -, rfl⟩ | ⟨e, -, rfl⟩) | ⟨e, -, rfl⟩
  · exact .device e.1
  · exact .pool e.1
  · exact .region e.1

theorem device_mem_renewals {id : DeviceId} {d : CxlDevice} (h : f.state.devices[id]? = some d)
    (honline : d.state = .named .online) : .markDeviceOnline id ctx ∈ renewals f ctx := by
  apply List.mem_append_left
  apply List.mem_append_left
  refine List.mem_map.mpr ⟨(id, d), List.mem_filter.mpr ⟨?_, ?_⟩, rfl⟩
  · exact Std.ExtTreeMap.mem_toList_iff_getElem?_eq_some.mpr h
  · simpa using honline

theorem pool_mem_renewals {id : PoolId} {p : CxlPool} (h : f.state.pools[id]? = some p)
    (havailable : p.state = .available) : .revalidatePool id ctx ∈ renewals f ctx := by
  apply List.mem_append_left
  apply List.mem_append_right
  refine List.mem_map.mpr ⟨(id, p), List.mem_filter.mpr ⟨?_, ?_⟩, rfl⟩
  · exact Std.ExtTreeMap.mem_toList_iff_getElem?_eq_some.mpr h
  · simpa using havailable

theorem region_mem_renewals {id : RegionId} {r : CxlRegion} (h : f.state.regions[id]? = some r)
    (honline : r.state = .named .online) : .revalidateRegion id ctx ∈ renewals f ctx := by
  apply List.mem_append_right
  refine List.mem_map.mpr ⟨(id, r), List.mem_filter.mpr ⟨?_, ?_⟩, rfl⟩
  · exact Std.ExtTreeMap.mem_toList_iff_getElem?_eq_some.mpr h
  · simpa using honline

end renewals

section renewing
variable {g₀ g : Fabric} {ctx : AuthorityContext} {done : List Op}

/-- Every record waits for its revalidation. -/
structure Awaiting (f : Fabric) : Prop where
  device : ∀ {id : DeviceId} {d : CxlDevice}, f.state.devices[id]? = some d →
    d.state = .named .revalidationRequired
  region : ∀ {id : RegionId} {r : CxlRegion}, f.state.regions[id]? = some r →
    r.state = .named .revalidationRequired
  pool : ∀ {id : PoolId} {p : CxlPool}, f.state.pools[id]? = some p →
    p.state = .revalidationRequired

theorem awaiting_restart (epoch : CoordinatorEpoch) (policy : PolicyGeneration)
    (st : PersistedState) : Awaiting (restart epoch policy st) := by
  refine ⟨?_, ?_, ?_⟩
  · intro id d hd
    rw [restart, importPersisted_devices] at hd
    obtain ⟨d', -, rfl⟩ := Option.map_eq_some_iff.mp hd
    rfl
  · intro id r hr
    rw [restart, importPersisted_regions] at hr
    obtain ⟨r', -, rfl⟩ := Option.map_eq_some_iff.mp hr
    rfl
  · intro id p hp
    rw [restart, importPersisted_pools] at hp
    obtain ⟨p', -, rfl⟩ := Option.map_eq_some_iff.mp hp
    rfl

/-- The records named by the operations that are done have been renewed, the others wait. -/
structure Renewing (ctx : AuthorityContext) (g₀ : Fabric) (done : List Op) (g : Fabric) : Prop where
  authorized : g.Authorized ctx
  devices : RewrittenAt renewedDevice (.markDeviceOnline · ctx ∈ done) g₀.state.devices
    g.state.devices
  regions : RewrittenAt renewedRegion (.revalidateRegion · ctx ∈ done) g₀.state.regions
    g.state.regions
  pools : RewrittenAt renewedPool (.revalidatePool · ctx ∈ done) g₀.state.pools g.state.pools

theorem Renewing.markDeviceOnline (h : Renewing ctx g₀ done g) (hwait : Awaiting g₀)
    (id : DeviceId) :
    Renewing ctx g₀ (.markDeviceOnline id ctx :: done) (g.markDeviceOnline id ctx).1 := by
  unfold Fabric.markDeviceOnline markDevice
  rw [if_neg (by simp [staleEpoch_eq_false.mpr h.authorized])]
  cases hd : g.state.devices[id]? with
  | none =>
    exact ⟨h.authorized, (h.devices.absent hd).congr fun k => by simp,
      h.regions.congr fun k => by simp, h.pools.congr fun k => by simp⟩
  | some d =>
    have hvalid : d.state.validTransition (.named .online) = true := by
      obtain ⟨d₀, hd₀, rfl | rfl⟩ := h.devices.found hd
      · rw [hwait.device hd₀]
        decide
      · exact DeviceState.validTransition_self _
    simp only [hvalid, Bool.not_true, Bool.false_eq_true, if_false]
    have hdevices := h.devices.insert renewedDevice_idem hd
    exact ⟨h.authorized, hdevices.congr fun k => by simp, h.regions.congr fun k => by simp,
      h.pools.congr fun k => by simp⟩

theorem Renewing.revalidateRegion (h : Renewing ctx g₀ done g) (hwait : Awaiting g₀)
    (id : RegionId) :
    Renewing ctx g₀ (.revalidateRegion id ctx :: done) (g.revalidateRegion id ctx).1 := by
  unfold Fabric.revalidateRegion markRegion
  rw [if_neg (by simp [staleEpoch_eq_false.mpr h.authorized])]
  cases hr : g.state.regions[id]? with
  | none =>
    exact ⟨h.authorized, h.devices.congr fun k => by simp,
      (h.regions.absent hr).congr fun k => by simp, h.pools.congr fun k => by simp⟩
  | some r =>
    have hvalid : r.state.validTransition (.named .online) = true := by
      obtain ⟨r₀, hr₀, rfl | rfl⟩ := h.regions.found hr
      · rw [hwait.region hr₀]
        decide
      · exact RegionState.validTransition_self _
    simp only [hvalid, Bool.not_true, Bool.false_eq_true, if_false]
    have hregions := h.regions.insert renewedRegion_idem hr
    exact ⟨h.authorized, h.devices.congr fun k => by simp, hregions.congr fun k => by simp,
      h.pools.congr fun k => by simp⟩

theorem Renewing.revalidatePool (h : Renewing ctx g₀ done g) (hwait : Awaiting g₀) (id : PoolId) :
    Renewing ctx g₀ (.revalidatePool id ctx :: done) (g.revalidatePool id ctx).1 := by
  unfold Fabric.revalidatePool
  rw [if_neg (by simp [staleEpoch_eq_false.mpr h.authorized])]
  cases hp : g.state.pools[id]? with
  | none =>
    exact ⟨h.authorized, h.devices.congr fun k => by simp, h.regions.congr fun k => by simp,
      (h.pools.absent hp).congr fun k => by simp⟩
  | some p =>
    have hvalid : p.state.validTransition .available = true := by
      obtain ⟨p₀, hp₀, rfl | rfl⟩ := h.pools.found hp
      · rw [hwait.pool hp₀]
        decide
      · exact PoolState.validTransition_self _
    simp only [hvalid, Bool.not_true, Bool.false_eq_true, if_false]
    have hpools := h.pools.insert renewedPool_idem hp
    exact ⟨h.authorized, h.devices.congr fun k => by simp, h.regions.congr fun k => by simp,
      hpools.congr fun k => by simp⟩

/-- One more renewal is performed. -/
theorem Renewing.step (h : Renewing ctx g₀ done g) (hwait : Awaiting g₀) {op : Op}
    (hop : Renews ctx op) :
    ∃ g' out, g.exec op = some (g', out) ∧ Renewing ctx g₀ (op :: done) g' := by
  cases hop with
  | device id => exact ⟨_, _, rfl, h.markDeviceOnline hwait id⟩
  | pool id => exact ⟨_, _, rfl, h.revalidatePool hwait id⟩
  | region id => exact ⟨_, _, rfl, h.revalidateRegion hwait id⟩

/-- All the renewals are performed, in whatever order they come. -/
theorem Renewing.run (h : Renewing ctx g₀ done g) (hwait : Awaiting g₀) {ops : List Op}
    (hops : ∀ op ∈ ops, Renews ctx op) : ∃ tr g', execAll exec g ops = some (tr, g') ∧
      Renewing ctx g₀ (ops.reverse ++ done) g' := by
  induction ops generalizing g done with
  | nil => exact ⟨[], g, rfl, h⟩
  | cons op ops ih =>
    obtain ⟨g₁, out, hexec, h₁⟩ := h.step hwait (hops op List.mem_cons_self)
    obtain ⟨tr, g', hall, h'⟩ := ih h₁ fun op' hop' => hops op' (List.mem_cons_of_mem _ hop')
    refine ⟨(op, out) :: tr, g', ?_, ?_⟩
    · simp [execAll, hexec, hall]
    · simpa using h'

end renewing

/-- No pool is left in the state it is declared with: creating one makes it available. -/
def PoolsCreated (f : Fabric) : Prop :=
  ∀ (id : PoolId) (p : CxlPool), f.state.pools[id]? = some p → p.state ≠ .defined

theorem PoolChange.notDefined {id : PoolId} {op : Op} {out : Outcome} {old : Option CxlPool}
    {p' : CxlPool} (h : PoolChange id op out old (some p'))
    (hold : ∀ p, old = some p → p.state ≠ .defined) : p'.state ≠ .defined := by
  generalize hnew : some p' = new at h
  cases h with
  | same => exact hold p' hnew.symm
  | created | draining | revalidated =>
    cases hnew
    exact nofun
  | @added _ p | @removed _ p | @reconciled p | @booked _ _ p =>
    cases hnew
    exact hold p rfl
  | imported =>
    obtain ⟨p, -, rfl⟩ := Option.map_eq_some_iff.mp hnew.symm
    exact nofun

theorem poolsCreated_of_run {epoch : CoordinatorEpoch} {policy : PolicyGeneration}
    {tr : List (Op × Outcome)} {f : Fabric} (hrun : Run exec (new epoch policy) tr f) :
    PoolsCreated f := by
  intro id p hp
  refine pool_of_run (Q := fun p => p.state ≠ .defined) (A := fun _ => True) ?_ hrun
    (fun _ _ => trivial) hp
  exact fun _ _ _ _ _ hchange _ hold => hchange.notDefined hold

/-- A region without bookings has at least as much left. -/
theorem regionFree_le_recovered (r : CxlRegion) :
    regionFree r ≤ regionFree (renewedRegion (recoveredRegion r)) := by
  have hcapacity : regionFree (renewedRegion (recoveredRegion r)) = r.regionCapacityBytes := by
    change (if r.regionCapacityBytes ≤ 0 + 0 then 0 else r.regionCapacityBytes - (0 + 0)) = _
    simp only [UInt64.add_zero, UInt64.sub_zero, UInt64.le_zero_iff]
    split
    · next h => exact h.symm
    · rfl
  rw [hcapacity]
  unfold regionFree
  dsimp only
  split
  · exact UInt64.zero_le
  · next h => exact UInt64.sub_le (UInt64.le_of_lt (UInt64.not_le.mp h))

section acceptance
variable {pool : CxlPool} {reg : CxlRegion} {dev : CxlDevice} {req : AdmissionRequest}

/-- An accepted triple is accepted again after the restart and its renewal, up to the tier. -/
theorem selected_recovered_iff
    (h : (evaluateCandidate (mkCandidate pool reg dev) req pool.evidenceCurrent).selected = true) :
    (evaluateCandidate (mkCandidate (renewedPool (recoveredPool pool))
      (renewedRegion (recoveredRegion reg)) (renewedDevice (recoveredDevice dev))) req
      (renewedPool (recoveredPool pool)).evidenceCurrent).selected = true ↔
      ∀ tier ∈ req.requiredTier, tier = .named .cxlUnknown := by
  obtain ⟨-, hfree, hsuits, hpool, -⟩ := evaluateCandidate_selected.mp h
  rw [evaluateCandidate_selected]
  constructor
  · rintro ⟨-, -, -, -, htier⟩ tier hmem
    exact (htier tier hmem).symm
  · intro htier
    refine ⟨⟨rfl, rfl, rfl, rfl, rfl, fun hno => absurd rfl hno, rfl, rfl, rfl⟩, ?_, ?_, hpool, ?_⟩
    · exact UInt64.le_trans hfree (regionFree_le_recovered reg)
    -- Everything the request asks of the device is written.
    · exact ⟨hsuits.persistence, hsuits.volatility, hsuits.host, hsuits.sharing, hsuits.locality,
        hsuits.accelerator, hsuits.bandwidth, hsuits.latency⟩
    · intro tier hmem
      exact (htier tier hmem).symm

end acceptance

section recovery
variable {f g : Fabric} {beyond : ℕ → UInt8} {st : PersistedState} {epoch : CoordinatorEpoch}
  {policy : PolicyGeneration} {ctx : AuthorityContext}

theorem renewing_restart (policy : PolicyGeneration) (st : PersistedState)
    (hctx : ctx.coordinatorEpoch = epoch) :
    Renewing ctx (restart epoch policy st) [] (restart epoch policy st) :=
  ⟨hctx, .start _ _ (by simp), .start _ _ (by simp), .start _ _ (by simp)⟩

/-- The records of an accepted triple are the ones that are renewed. -/
theorem Accepts.recovered_iff {done : List Op} (hkeyed : RecordsKeyed f) (hpools : PoolsCreated f)
    (hsaved : f.recover beyond = .ok st) (hg : Renewing ctx (restart epoch policy st) done g)
    (hdone : ∀ op ∈ renewals f ctx, op ∈ done) {req : AdmissionRequest} {P : PoolId}
    {R : RegionId} {D : DeviceId} (h : f.Accepts req P R D) :
    g.Accepts req P R D ↔ ∀ tier ∈ req.requiredTier, tier = .named .cxlUnknown := by
  obtain ⟨pool, hpool, reg, hreg, dev, hdev, hselected⟩ := h
  obtain ⟨hservice, -⟩ := evaluateCandidate_selected.mp hselected
  have havailable : pool.state = .available := by
    by_contra hno
    exact hpools P pool hpool (hservice.poolState hno)
  have hpool' : g.state.pools[P]? = some (renewedPool (recoveredPool pool)) := by
    rw [(hg.pools P).1 (hdone _ (pool_mem_renewals hpool havailable)),
      restart_pools hkeyed hsaved, hpool]
    rfl
  have hreg' : g.state.regions[R]? = some (renewedRegion (recoveredRegion reg)) := by
    rw [(hg.regions R).1 (hdone _ (region_mem_renewals hreg hservice.regionState)),
      restart_regions hkeyed hsaved, hreg]
    rfl
  have hdev' : g.state.devices[D]? = some (renewedDevice (recoveredDevice dev)) := by
    rw [(hg.devices D).1 (hdone _ (device_mem_renewals hdev hservice.deviceState)),
      restart_devices hkeyed hsaved, hdev]
    rfl
  rw [← selected_recovered_iff hselected]
  constructor
  · rintro ⟨pool', hp, reg', hr, dev', hd, hsel⟩
    cases hpool'.symm.trans hp
    cases hreg'.symm.trans hr
    cases hdev'.symm.trans hd
    exact hsel
  · intro hsel
    exact ⟨_, hpool', _, hreg', _, hdev', hsel⟩

/-- A restart followed by the renewal of everything that was in service, in any order, keeps
an accepted triple exactly if the request asks for no tier but the unknown one. -/
theorem restart_keeps_eligible_iff {epoch₀ : CoordinatorEpoch} {policy₀ : PolicyGeneration}
    {tr : List (Op × Outcome)} (hrun : Run exec (new epoch₀ policy₀) tr f)
    (hkeyed : ∀ e ∈ tr, e.1.ImportsKeyed) (hsaved : f.recover beyond = .ok st)
    (policy : PolicyGeneration) (hctx : ctx.coordinatorEpoch = epoch) {ops : List Op}
    (hops : ∀ op, op ∈ ops ↔ op ∈ renewals f ctx) :
    ∃ tr' g, execAll exec (restart epoch policy st) ops = some (tr', g) ∧
      ∀ req P R D, f.Accepts req P R D →
        (g.Accepts req P R D ↔ ∀ tier ∈ req.requiredTier, tier = .named .cxlUnknown) := by
  obtain ⟨tr', g, hall, hg⟩ := (renewing_restart policy st hctx).run
    (awaiting_restart epoch policy st) fun op hop => renews_of_mem ((hops op).mp hop)
  refine ⟨tr', g, hall, ?_⟩
  intro req P R D haccepts
  refine haccepts.recovered_iff (recordsKeyed_of_run hrun hkeyed) (poolsCreated_of_run hrun) hsaved
    hg ?_
  intro op hop
  simpa using (hops op).mpr hop

end recovery

theorem idleRun_keyed : ∀ e ∈ (idleRun.get idleRun_isSome).1, e.1.ImportsKeyed := by
  intro e he
  fin_cases he <;> trivial

theorem restart_keeps_eligible_iff_idleRun :
    ∃ f st tr' g, f.recover (fun _ => 0) = .ok st ∧
      execAll exec (restart ⟨2⟩ ⟨1⟩ st) (renewals f (Synthetic.context ⟨2⟩)) = some (tr', g) ∧
      f.Accepts Synthetic.sampleRequest ⟨str "p-1"⟩ ⟨str "r1"⟩ ⟨str "d1"⟩ ∧
      g.Accepts Synthetic.sampleRequest ⟨str "p-1"⟩ ⟨str "r1"⟩ ⟨str "d1"⟩ := by
  have hrun := Run.of_execAll (Option.some_get idleRun_isSome).symm
  have haccepts : (idleRun.get idleRun_isSome).2.Accepts Synthetic.sampleRequest ⟨str "p-1"⟩
      ⟨str "r1"⟩ ⟨str "d1"⟩ := by decide +kernel
  obtain ⟨tr', g, hall, hiff⟩ := restart_keeps_eligible_iff hrun idleRun_keyed idleRun_recovers ⟨1⟩
    (rfl : (Synthetic.context ⟨2⟩).coordinatorEpoch = ⟨2⟩) fun _ => Iff.rfl
  exact ⟨_, _, tr', g, idleRun_recovers, hall, haccepts, (hiff _ _ _ _ haccepts).mpr nofun⟩

/-- The sample request for the tier that the sample region has. -/
def nearRequest : AdmissionRequest :=
  { Synthetic.sampleRequest with requiredTier := some (.named .cxlNear) }

/-- A request for the tier of the region is accepted before the restart and never after it. -/
theorem requested_tier_is_lost :
    ∃ tr f st tr' g, Run exec (new ⟨1⟩ ⟨1⟩) tr f ∧ (∀ e ∈ tr, e.1.ImportsKeyed) ∧
      f.state.reservations = ∅ ∧ f.recover (fun _ => 0) = .ok st ∧
      execAll exec (restart ⟨2⟩ ⟨1⟩ st) (renewals f (Synthetic.context ⟨2⟩)) = some (tr', g) ∧
      f.Accepts nearRequest ⟨str "p-1"⟩ ⟨str "r1"⟩ ⟨str "d1"⟩ ∧
      ¬g.Accepts nearRequest ⟨str "p-1"⟩ ⟨str "r1"⟩ ⟨str "d1"⟩ := by
  have hrun := Run.of_execAll (Option.some_get idleRun_isSome).symm
  have haccepts : (idleRun.get idleRun_isSome).2.Accepts nearRequest ⟨str "p-1"⟩ ⟨str "r1"⟩
      ⟨str "d1"⟩ := by decide +kernel
  obtain ⟨tr', g, hall, hg⟩ := (renewing_restart ⟨1⟩ (storedState (idleRun.get
    idleRun_isSome).2.exportPersisted) (rfl : (Synthetic.context ⟨2⟩).coordinatorEpoch = ⟨2⟩)).run
      (awaiting_restart _ _ _) fun op hop => renews_of_mem hop
  refine ⟨_, _, _, tr', g, hrun, idleRun_keyed, by decide +kernel, idleRun_recovers, hall, haccepts,
    ?_⟩
  rw [haccepts.recovered_iff (recordsKeyed_of_run hrun idleRun_keyed) (poolsCreated_of_run hrun)
    idleRun_recovers hg (by simp)]
  intro htier
  cases htier _ rfl

end Fabric

end CxlFabric
