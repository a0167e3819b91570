import CxlFabric.Conservation

/-! # The order of settlements

Commits and releases of different reservations can change places as long as they are of one
kind, or touch neither the same pool nor the same region. A release drains committed bytes
first, so a commit and a release on one pool can leave counters that depend on their order. -/
namespace CxlFabric
namespace Fabric

/-- The two operations that settle a reservation. -/
inductive Settlement
  | commit
  | release
  deriving DecidableEq

namespace Settlement

def op : Settlement → ReservationId → AuthorityContext → Op
  | .commit => .commit
  | .release => .release

/-- The record that is stored. -/
def record (f : Fabric) (res : Reservation) : Settlement → Reservation
  | .commit => f.committedRecord res
  | .release => releasedRecord res

/-- The counters of the pool afterwards. -/
def pool (n : ByteCount) (p : CxlPool) : Settlement → CxlPool
  | .commit => { p with
      reservedBytes := p.reservedBytes - n, committedBytes := p.committedBytes + n }
  | .release => drainPool p n

def region (n : ByteCount) (r : CxlRegion) : Settlement → CxlRegion
  | .commit => { r with
      reservedBytes := r.reservedBytes - n, committedBytes := r.committedBytes + n }
  | .release => drainRegion r n

/-- Everything the operation asks for. -/
def Guard (f : Fabric) (id : ReservationId) (ctx : AuthorityContext) (res : Reservation) :
    Settlement → Prop
  | .commit => ∃ pool region dev, f.CommitGuard id ctx res pool region dev
  | .release => f.ReleaseGuard id ctx res ∧ f.uncovered res = false

end Settlement

/-- A settlement touches its own record, one pool and one region, and nothing else. -/
structure Settled (k : Settlement) (id : ReservationId) (res : Reservation) (f f' : Fabric) :
    Prop where
  pools : ∀ j : PoolId, f'.state.pools[j]? =
    if res.pool = j then f.state.pools[j]?.map (k.pool res.bytes) else f.state.pools[j]?
  regions : ∀ j : RegionId, f'.state.regions[j]? =
    if res.region = j then f.state.regions[j]?.map (k.region res.bytes) else f.state.regions[j]?
  reservations : ∀ j : ReservationId, f'.state.reservations[j]? =
    if id = j then some (k.record f res) else f.state.reservations[j]?
  frame : f' = { f with
    state.pools := f'.state.pools
    state.regions := f'.state.regions
    state.reservations := f'.state.reservations
    state.globalLedger := recomputeGlobal f'.state.pools }

variable {f f' g : Fabric} {id : ReservationId} {ctx : AuthorityContext} {res : Reservation}
  {k : Settlement}

theorem settled_settle {pool : CxlPool} {region : CxlRegion}
    (hpool : f.state.pools[res.pool]? = some pool)
    (hregion : f.state.regions[res.region]? = some region) :
    Settled .commit id res f (f.settle id res pool region) := by
  refine ⟨?_, ?_, ?_, rfl⟩
  · intro j
    have hj : (f.settle id res pool region).state.pools[j]? = if res.pool = j then _ else _ :=
      getElem?_insert_eq _ _ _ _
    rw [hj]
    split
    · next h =>
      subst h
      rw [hpool]
      rfl
    · rfl
  · intro j
    have hj : (f.settle id res pool region).state.regions[j]? = if res.region = j then _ else _ :=
      getElem?_insert_eq _ _ _ _
    rw [hj]
    split
    · next h =>
      subst h
      rw [hregion]
      rfl
    · rfl
  · intro j
    exact getElem?_insert_eq _ _ _ _

theorem settled_free : Settled .release id res f (f.free id res) := by
  refine ⟨?_, ?_, ?_, ?_⟩
  · intro j
    have hj : (f.free id res).state.pools = (f.drainPoolOf res).state.pools := by simp [free]
    rw [hj, drainPoolOf_pools]
    rfl
  · intro j
    have hj : (f.free id res).state.regions =
        ((f.drainPoolOf res).drainRegionOf res).state.regions := by
      simp [free]
    rw [hj, drainRegionOf_regions, drainPoolOf_regions]
    rfl
  · intro j
    rw [free_reservations]
    exact getElem?_insert_eq _ _ _ _
  · unfold free drainRegionOf
    unfold drainPoolOf
    split <;> split <;> rfl

/-- The answer to a settlement that goes through. -/
def Settlement.outcome (k : Settlement) (f : Fabric) (res : Reservation) : Outcome :=
  .reservation { ok := true, reservation := k.record f res }

theorem staleEpoch_of_authorized (h : f.Authorized ctx) : f.staleEpoch ctx = false :=
  staleEpoch_eq_false.mpr h

/-- What the operation asks for is enough. -/
theorem Settlement.exec_of_guard (h : k.Guard f id ctx res) :
    ∃ f', f.exec (k.op id ctx) = some (f', k.outcome f res) ∧ Settled k id res f f' := by
  cases k with
  | commit =>
    obtain ⟨pool, region, dev, h⟩ := h
    refine ⟨_, ?_, settled_settle h.poolRecord h.regionRecord⟩
    have hworker : (!ctx.workerBootId.empty && ctx.workerBootId ≠ res.workerBootId) = false := by
      rcases h.worker with hempty | hsame
      · simp [hempty]
      · simp [hsame]
    have hcommit : f.commit id ctx = (f.settle id res pool region,
        { ok := true, reason := .ok, reservation := f.committedRecord res }) := by
      unfold Fabric.commit
      simp only [h.stored, h.reserved, h.poolRecord, h.regionRecord, h.deviceRecord,
        staleEpoch_of_authorized h.epoch, h.created, hworker, h.poolGeneration,
        h.regionGeneration, h.deviceGeneration, ne_eq, not_true_eq_false, if_false,
        Bool.false_eq_true, gt_iff_lt, UInt64.not_lt.mpr h.covered]
    simp only [op, exec, hcommit]
    rfl
  | release =>
    obtain ⟨h, hcovered⟩ := h
    refine ⟨_, ?_, settled_free⟩
    have hlive : res.state ≠ .released ∧ ¬(res.state ≠ .committed ∧ res.state ≠ .reserved) := by
      rcases h.live with hstate | hstate
      · simp [hstate]
      · simp [hstate]
    have hrelease : f.release id ctx = (f.free id res,
        { ok := true, reason := .ok, reservation := releasedRecord res }) := by
      unfold Fabric.release
      simp only [h.stored, hlive.1, hlive.2, staleEpoch_of_authorized h.epoch, hcovered, if_false,
        Bool.false_eq_true]
    simp only [op, exec, hrelease]
    rfl

/-- A settlement that has gone through had all it asks for. -/
theorem Settlement.guard_of_exec {o : ReserveOutcome}
    (h : f.exec (k.op id ctx) = some (f', .reservation o)) (hok : o.ok = true) :
    ∃ res, k.Guard f id ctx res ∧ .reservation o = k.outcome f res ∧ Settled k id res f f' := by
  have hsettled (res : Reservation) (hguard : k.Guard f id ctx res) :
      ∃ res, k.Guard f id ctx res ∧ .reservation o = k.outcome f res ∧ Settled k id res f f' := by
    obtain ⟨g, hexec, hg⟩ := exec_of_guard hguard
    cases h.symm.trans hexec
    exact ⟨res, hguard, rfl, hg⟩
  have heffect := exec_effect h
  cases k with
  | commit =>
    generalize hop : op .commit id ctx = a at heffect
    cases heffect with
    | commit guarded =>
      cases hop
      exact hsettled _ ⟨_, _, _, guarded⟩
    | refused fallible failed => exact absurd hok (by simpa [Outcome.success] using failed)
    | _ => cases hop
  | release =>
    generalize hop : op .release id ctx = a at heffect
    cases heffect with
    | release guarded covered =>
      cases hop
      exact hsettled _ ⟨guarded, covered⟩
    | refused fallible failed => exact absurd hok (by simpa [Outcome.success] using failed)
    | conflict => cases hok
    | _ => cases hop

/-- The counters of both kinds agree with the reservations. -/
def Conserved (f : Fabric) : Prop :=
  ∃ healthy failed, healthy + failed < 2 ^ 64 ∧ PoolsConserved healthy failed f ∧ RegionsConserved f

theorem Conserved.step (hc : f.Conserved) {out : Outcome}
    (h : f.exec (k.op id ctx) = some (f', out)) : f'.Conserved := by
  obtain ⟨healthy, failed, hlt, hpools, hregions⟩ := hc
  have heffect := exec_effect h
  refine ⟨healthy, failed, hlt, ?_, ?_⟩
  · cases k with
    | commit => exact hpools.step heffect trivial (le_refl _) (le_refl _) hlt
    | release => exact hpools.step heffect trivial (le_refl _) (le_refl _) hlt
  · cases k with
    | commit => exact hregions.step hpools.numbered heffect trivial nofun
    | release => exact hregions.step hpools.numbered heffect trivial nofun

/-- Apart from the counters, a settlement finds what another one has found. -/
structure Agree (f g : Fabric) : Prop where
  epoch : g.state.coordinatorEpoch = f.state.coordinatorEpoch
  devices : g.state.devices = f.state.devices
  pools : ∀ (j : PoolId) (p : CxlPool), f.state.pools[j]? = some p →
    ∃ q, g.state.pools[j]? = some q ∧ q.generation = p.generation
  regions : ∀ (j : RegionId) (r : CxlRegion), f.state.regions[j]? = some r →
    ∃ q, g.state.regions[j]? = some q ∧ q.generation = r.generation

theorem Settlement.generation_pool (k : Settlement) (n : ByteCount) (p : CxlPool) :
    (k.pool n p).generation = p.generation := by cases k <;> rfl

theorem Settlement.generation_region (k : Settlement) (n : ByteCount) (r : CxlRegion) :
    (k.region n r).generation = r.generation := by cases k <;> rfl

theorem Settled.epoch (h : Settled k id res f f') :
    f'.state.coordinatorEpoch = f.state.coordinatorEpoch := by rw [h.frame]

theorem Settled.devices (h : Settled k id res f f') : f'.state.devices = f.state.devices := by
  rw [h.frame]

theorem Settled.agree (h : Settled k id res f f') : Agree f f' := by
  refine ⟨h.epoch, h.devices, ?_, ?_⟩
  · intro j p hp
    rw [h.pools j, hp]
    split
    · exact ⟨_, rfl, k.generation_pool _ _⟩
    · exact ⟨p, rfl, rfl⟩
  · intro j r hr
    rw [h.regions j, hr]
    split
    · exact ⟨_, rfl, k.generation_region _ _⟩
    · exact ⟨r, rfl, rfl⟩

theorem Settled.agree_back (h : Settled k id res f f') : Agree f' f := by
  refine ⟨h.epoch.symm, h.devices.symm, ?_, ?_⟩
  · intro j p hp
    rw [h.pools j] at hp
    split at hp
    · obtain ⟨q, hq, rfl⟩ := Option.map_eq_some_iff.mp hp
      exact ⟨q, hq, (k.generation_pool _ _).symm⟩
    · exact ⟨p, hp, rfl⟩
  · intro j r hr
    rw [h.regions j] at hr
    split at hr
    · obtain ⟨q, hq, rfl⟩ := Option.map_eq_some_iff.mp hr
      exact ⟨q, hq, (k.generation_region _ _).symm⟩
    · exact ⟨r, hr, rfl⟩

/-- While the counters agree with the reservations, they cover what is still to be settled. -/
theorem Settlement.Guard.frame (h : k.Guard f id ctx res) (hagree : Agree f g)
    (hstored : g.state.reservations[id]? = f.state.reservations[id]?) (hc : g.Conserved) :
    k.Guard g id ctx res := by
  obtain ⟨healthy, failed, hlt, hpools, hregions⟩ := hc
  cases k with
  | commit =>
    obtain ⟨pool, region, dev, h⟩ := h
    obtain ⟨pool', hpool, hpgen⟩ := hagree.pools _ _ h.poolRecord
    obtain ⟨region', hregion, hrgen⟩ := hagree.regions _ _ h.regionRecord
    have hstored' := hstored.trans h.stored
    refine ⟨pool', region', dev, hstored', h.reserved, ?_, ?_, h.worker, hpool, hregion, ?_, ?_, ?_,
      h.deviceGeneration, ?_⟩
    · unfold Fabric.Authorized
      rw [hagree.epoch]
      exact h.epoch
    · rw [hagree.epoch]
      exact h.created
    · rw [hagree.devices]
      exact h.deviceRecord
    · rw [hpgen]
      exact h.poolGeneration
    · rw [hrgen]
      exact h.regionGeneration
    · exact (hpools.accounts hpool).bytes_le_reserved hstored' (by simp [onPool]) h.reserved
  | release =>
    obtain ⟨h, -⟩ := h
    have hstored' := hstored.trans h.stored
    refine ⟨⟨hstored', h.live, ?_⟩, hpools.covers hstored' h.live_eq⟩
    unfold Fabric.Authorized
    rw [hagree.epoch]
    exact h.epoch

section counters
variable {n m committed reserved : ByteCount}

/-- Two drains that the counters cover together can change places. -/
theorem drain_comm (h : n.toNat + m.toNat ≤ reserved.toNat + committed.toNat) :
    (drain m (drain n committed reserved).committed
        (drain n committed reserved).reserved).reserved =
      (drain n (drain m committed reserved).committed
        (drain m committed reserved).reserved).reserved ∧
    (drain m (drain n committed reserved).committed
        (drain n committed reserved).reserved).committed =
      (drain n (drain m committed reserved).committed
        (drain m committed reserved).reserved).committed := by
  have hn : n.toNat - min n.toNat committed.toNat ≤ reserved.toNat := by omega
  have hm : m.toNat - min m.toNat committed.toNat ≤ reserved.toNat := by omega
  obtain ⟨-, hcn, hrn⟩ := drain_spec hn
  obtain ⟨-, hcm, hrm⟩ := drain_spec hm
  generalize drain n committed reserved = dn at *
  generalize drain m committed reserved = dm at *
  have hnm : m.toNat - min m.toNat dn.committed.toNat ≤ dn.reserved.toNat := by omega
  have hmn : n.toNat - min n.toNat dm.committed.toNat ≤ dm.reserved.toNat := by omega
  obtain ⟨-, hcnm, hrnm⟩ := drain_spec hnm
  obtain ⟨-, hcmn, hrmn⟩ := drain_spec hmn
  constructor
  · rw [← UInt64.toNat_inj]
    omega
  · rw [← UInt64.toNat_inj]
    omega

/-- Two settlements of one kind change the counters alike in either order. -/
theorem Settlement.pool_comm {p : CxlPool} (k : Settlement)
    (h : n.toNat + m.toNat ≤ p.reservedBytes.toNat + p.committedBytes.toNat) :
    k.pool m (k.pool n p) = k.pool n (k.pool m p) := by
  cases k with
  | commit =>
    have hr : p.reservedBytes - n - m = p.reservedBytes - m - n := by grind
    have hc : p.committedBytes + n + m = p.committedBytes + m + n := by grind
    simp only [pool, hr, hc]
  | release =>
    obtain ⟨hr, hc⟩ := drain_comm h
    simp only [pool, drainPool, hr, hc]

theorem Settlement.region_comm {r : CxlRegion} (k : Settlement)
    (h : n.toNat + m.toNat ≤ r.reservedBytes.toNat + r.committedBytes.toNat) :
    k.region m (k.region n r) = k.region n (k.region m r) := by
  cases k with
  | commit =>
    have hr : r.reservedBytes - n - m = r.reservedBytes - m - n := by grind
    have hc : r.committedBytes + n + m = r.committedBytes + m + n := by grind
    simp only [region, hr, hc]
  | release =>
    obtain ⟨hr, hc⟩ := drain_comm h
    simp only [region, drainRegion, hr, hc]

end counters

/-- The counters cover two live reservations together. -/
theorem Accounts.covers_two {m : Map ReservationId Reservation} {on : Reservation → Bool}
    {reserved committed : ByteCount} {x y : ReservationId} {rx ry : Reservation}
    (h : Accounts m on reserved committed) (hxy : x ≠ y) (hx : m[x]? = some rx)
    (hy : m[y]? = some ry) (honx : on rx = true) (hony : on ry = true) (hlivex : rx.live = true)
    (hlivey : ry.live = true) :
    rx.bytes.toNat + ry.bytes.toNat ≤ reserved.toNat + committed.toNat := by
  -- Once the first has been released, the second still counts.
  have hsum := sumBy_insert_of_present (liveBytes on) (releasedRecord rx) hx
  have hrest : (m.insert x (releasedRecord rx))[y]? = some ry := by
    rw [getElem?_insert_eq, if_neg hxy]
    exact hy
  have hle := le_sumBy (liveBytes on) hrest
  have hbytesx : liveBytes on rx = rx.bytes.toNat := by simp [liveBytes, honx, hlivex]
  have hbytesy : liveBytes on ry = ry.bytes.toNat := by simp [liveBytes, hony, hlivey]
  have hdone : liveBytes on (releasedRecord rx) = 0 := by
    simp [liveBytes, Reservation.live, releasedRecord]
  have hlive := h.sum
  omega

theorem Settlement.Guard.stored (h : k.Guard f id ctx res) :
    f.state.reservations[id]? = some res := by
  cases k with
  | commit =>
    obtain ⟨pool, region, dev, h⟩ := h
    exact h.stored
  | release => exact h.1.stored

theorem Settlement.Guard.live (h : k.Guard f id ctx res) : res.live = true := by
  cases k with
  | commit =>
    obtain ⟨pool, region, dev, h⟩ := h
    simp [Reservation.live, h.reserved]
  | release => exact h.1.live_eq

theorem Settled.record (h : Settled k id res f f') (k' : Settlement) (r : Reservation) :
    k'.record f' r = k'.record f r := by
  cases k' with
  | commit => simp [Settlement.record, committedRecord, h.epoch]
  | release => rfl

section pairs
variable {x y : ReservationId} {rx ry : Reservation} {kx ky : Settlement} {fx fy u v : Fabric}

/-- Two settlements whose counters commute lead to one state. -/
theorem Settled.comm (hxy : x ≠ y) (hx : Settled kx x rx f fx) (hxy' : Settled ky y ry fx u)
    (hy : Settled ky y ry f fy) (hyx : Settled kx x rx fy v)
    (hpool : rx.pool = ry.pool → ∀ p, f.state.pools[rx.pool]? = some p →
      ky.pool ry.bytes (kx.pool rx.bytes p) = kx.pool rx.bytes (ky.pool ry.bytes p))
    (hregion : rx.region = ry.region → ∀ r, f.state.regions[rx.region]? = some r →
      ky.region ry.bytes (kx.region rx.bytes r) = kx.region rx.bytes (ky.region ry.bytes r)) :
    u = v := by
  have hpools : u.state.pools = v.state.pools := by
    apply Std.ExtTreeMap.ext_getElem?
    intro j
    rw [hxy'.pools, hx.pools, hyx.pools, hy.pools]
    by_cases hjx : rx.pool = j
    · by_cases hjy : ry.pool = j
      · subst hjx
        simp only [hjy, if_true, Option.map_map]
        cases hp : f.state.pools[rx.pool]? with
        | none => rfl
        | some p => exact congrArg some (hpool hjy.symm p hp)
      · simp only [hjx, hjy, if_true, if_false]
    · simp only [hjx, if_false]
  have hregions : u.state.regions = v.state.regions := by
    apply Std.ExtTreeMap.ext_getElem?
    intro j
    rw [hxy'.regions, hx.regions, hyx.regions, hy.regions]
    by_cases hjx : rx.region = j
    · by_cases hjy : ry.region = j
      · subst hjx
        simp only [hjy, if_true, Option.map_map]
        cases hr : f.state.regions[rx.region]? with
        | none => rfl
        | some r => exact congrArg some (hregion hjy.symm r hr)
      · simp only [hjx, hjy, if_true, if_false]
    · simp only [hjx, if_false]
  have hreservations : u.state.reservations = v.state.reservations := by
    apply Std.ExtTreeMap.ext_getElem?
    intro j
    rw [hxy'.reservations, hx.reservations, hyx.reservations, hy.reservations, hx.record,
      hy.record]
    by_cases hjx : x = j
    · have hjy : y ≠ j := hjx ▸ hxy.symm
      simp only [hjx, hjy, if_true, if_false]
    · simp only [hjx, if_false]
  rw [hxy'.frame, hyx.frame, hpools, hregions, hreservations, hx.frame, hy.frame]

/-- Settlements of two reservations that can change places. -/
def Settlement.Commute (kx ky : Settlement) (rx ry : Reservation) : Prop :=
  kx = ky ∨ rx.pool ≠ ry.pool ∧ rx.region ≠ ry.region

instance : Decidable (kx.Commute ky rx ry) := inferInstanceAs (Decidable (_ ∨ _ ∧ _))

variable {cx cy : AuthorityContext}

/-- One settlement after another goes through the other way round as well. -/
theorem Settlement.swap (hc : f.Conserved) (hxy : x ≠ y) (hcomm : kx.Commute ky rx ry)
    (hx : kx.Guard f x cx rx) (hfx : Settled kx x rx f fx) (hy : ky.Guard fx y cy ry)
    (hu : Settled ky y ry fx u) :
    Run exec f [(ky.op y cy, ky.outcome fx ry), (kx.op x cx, kx.outcome f rx)] u := by
  have hystored : f.state.reservations[y]? = fx.state.reservations[y]? := by
    rw [hfx.reservations, if_neg hxy]
  have hyguard := hy.frame hfx.agree_back hystored hc
  obtain ⟨fy, hfyexec, hfy⟩ := Settlement.exec_of_guard hyguard
  have hxstored : fy.state.reservations[x]? = f.state.reservations[x]? := by
    rw [hfy.reservations, if_neg hxy.symm]
  have hxguard := hx.frame hfy.agree hxstored (hc.step hfyexec)
  obtain ⟨v, hvexec, hv⟩ := Settlement.exec_of_guard hxguard
  have huv : u = v := by
    refine hfx.comm hxy hu hfy hv ?_ ?_
    · intro hpool p hp
      obtain rfl | hne := hcomm
      · obtain ⟨healthy, failed, -, hpools, -⟩ := hc
        refine kx.pool_comm ((hpools.accounts hp).covers_two hxy hx.stored hyguard.stored ?_ ?_
          hx.live hyguard.live)
        · simp [onPool]
        · simp [onPool, hpool]
      · exact absurd hpool hne.1
    · intro hregion r hr
      obtain rfl | hne := hcomm
      · obtain ⟨healthy, failed, -, -, hregions⟩ := hc
        refine kx.region_comm ((hregions.accounts hr).covers_two hxy hx.stored hyguard.stored ?_ ?_
          hx.live hyguard.live)
        · simp [onRegion]
        · simp [onRegion, hregion]
      · exact absurd hregion hne.2
  have houtx : kx.outcome fy rx = kx.outcome f rx := by
    simp only [Settlement.outcome, hfy.record]
  have houty : ky.outcome fx ry = ky.outcome f ry := by
    simp only [Settlement.outcome, hfx.record]
  rw [houty, huv]
  exact .cons hfyexec (.single (houtx ▸ hvexec))

end pairs

/-- The settlement that a label stands for, if it is one that has gone through. -/
def settlement : Op × Outcome → Option (Settlement × ReservationId × Reservation)
  | (.commit id _, .reservation o) => if o.ok then some (.commit, id, o.reservation) else none
  | (.release id _, .reservation o) => if o.ok then some (.release, id, o.reservation) else none
  | _ => none

/-- Two settlements of different reservations that are of one kind, or touch neither one pool
nor one region. -/
def Independent (e e' : Op × Outcome) : Prop :=
  ∀ s ∈ settlement e, ∀ s' ∈ settlement e', s.2.1 ≠ s'.2.1 ∧ s.1.Commute s'.1 s.2.2 s'.2.2

instance : DecidableRel Independent := fun e e' =>
  inferInstanceAs (Decidable (∀ s ∈ settlement e, ∀ s' ∈ settlement e', _ ∧ _))

theorem Independent.symm {e e' : Op × Outcome} (h : Independent e e') : Independent e' e := by
  intro s hs s' hs'
  obtain ⟨hne, hcomm⟩ := h s' hs' s hs
  refine ⟨hne.symm, ?_⟩
  obtain heq | ⟨hpool, hregion⟩ := hcomm
  · exact .inl heq.symm
  · exact .inr ⟨hpool.symm, hregion.symm⟩

/-- A label of this kind is an operation with its answer. -/
theorem settlement_spec {e : Op × Outcome} {s : Settlement × ReservationId × Reservation}
    (h : settlement e = some s) : ∃ ctx o, e = (s.1.op s.2.1 ctx, .reservation o) ∧
      o.ok = true ∧ o.reservation = s.2.2 := by
  unfold settlement at h
  split at h
  · next id ctx o =>
    split at h
    · next hok =>
      cases h
      exact ⟨ctx, o, rfl, hok, rfl⟩
    · cases h
  · next id ctx o =>
    split at h
    · next hok =>
      cases h
      exact ⟨ctx, o, rfl, hok, rfl⟩
    · cases h
  · cases h

/-- What the step of such a label found and did. -/
theorem guard_of_settlement {e : Op × Outcome} {s : Settlement × ReservationId × Reservation}
    (h : settlement e = some s) (hexec : f.exec e.1 = some (f', e.2)) :
    ∃ ctx res, e.1 = s.1.op s.2.1 ctx ∧ s.1.Guard f s.2.1 ctx res ∧ e.2 = s.1.outcome f res ∧
      Settled s.1 s.2.1 res f f' ∧ s.2.2 = s.1.record f res := by
  obtain ⟨ctx, o, rfl, hok, hres⟩ := settlement_spec h
  obtain ⟨res, hguard, hout, hsettled⟩ := Settlement.guard_of_exec hexec hok
  refine ⟨ctx, res, rfl, hguard, hout, hsettled, ?_⟩
  rw [← hres]
  cases hout
  rfl

theorem Settlement.record_pool (k : Settlement) (f : Fabric) (res : Reservation) :
    (k.record f res).pool = res.pool := by cases k <;> rfl

theorem Settlement.record_region (k : Settlement) (f : Fabric) (res : Reservation) :
    (k.record f res).region = res.region := by cases k <;> rfl

theorem run_swap {e e' : Op × Outcome} {u : Fabric} (hc : f.Conserved)
    (he : (settlement e).isSome) (he' : (settlement e').isSome) (hind : Independent e e')
    (h : Run exec f [e, e'] u) : Run exec f [e', e] u := by
  obtain ⟨fx, hfx, htail⟩ := Run.cons_iff.mp h
  obtain ⟨v, hu, hnil⟩ := Run.cons_iff.mp htail
  cases Run.nil_iff.mp hnil
  obtain ⟨s, hs⟩ := Option.isSome_iff_exists.mp he
  obtain ⟨s', hs'⟩ := Option.isSome_iff_exists.mp he'
  obtain ⟨hne, hcomm⟩ := hind s hs s' hs'
  obtain ⟨cx, rx, hopx, hguardx, houtx, hsettledx, hrecx⟩ := guard_of_settlement hs hfx
  obtain ⟨cy, ry, hopy, hguardy, houty, hsettledy, hrecy⟩ := guard_of_settlement hs' hu
  have hcommute : s.1.Commute s'.1 rx ry := by
    simpa only [Settlement.Commute, hrecx, hrecy, Settlement.record_pool,
      Settlement.record_region] using hcomm
  have hswap := Settlement.swap hc hne hcommute hguardx hsettledx hguardy hsettledy
  rw [← hopx, ← hopy, ← houtx, ← houty] at hswap
  exact hswap

/-- Settlements that a run performs one after another, any two of them independent, can be
performed in any order: each gets the same answer and the state at the end is the same. -/
theorem settlements_in_any_order {epoch : CoordinatorEpoch} {policy : PolicyGeneration}
    {before tr tr' : List (Op × Outcome)} (hrun : Run exec (new epoch policy) before f)
    (hpools : ∀ e ∈ before, StartsPools e) (hregions : ∀ e ∈ before, StartsRegions e)
    (hbytes : passed (·.nominalBytes.toNat) before < 2 ^ 64) (h : Run exec f tr f')
    (hsettle : ∀ e ∈ tr, (settlement e).isSome) (hind : tr.Pairwise Independent)
    (hperm : tr.Perm tr') : Run exec f tr' f' := by
  have hconserved : f.Conserved := ⟨_, _,
    lt_of_le_of_lt (passed_healthy_add_failed_le before) hbytes,
    poolsConserved_of_run hrun hpools hbytes, regionsConserved_of_run hrun hpools hregions⟩
  refine Run.perm (I := Conserved) (A := fun e => (settlement e).isSome) (D := Independent)
    Independent.symm ?_ ?_ hperm h hsettle hind hconserved
  · intro s a b s' ha hs hexec
    obtain ⟨sa, hsa⟩ := Option.isSome_iff_exists.mp ha
    obtain ⟨ctx, o, heq, -, -⟩ := settlement_spec hsa
    cases heq
    exact hs.step hexec
  · intro s u e e' he he' hee hs hboth
    exact run_swap hs he he' hee hboth

/-- Three reservations on the sample pool, and then the release of each of them. -/
def settlingRun : Option ((List (Op × Outcome) × Fabric) × List (Op × Outcome) × Fabric) :=
  (execAll exec (new ⟨1⟩ ⟨1⟩) (Synthetic.setup ⟨1⟩ ++
    [.reserve Synthetic.sampleRequest (Synthetic.context ⟨1⟩),
      .reserve Synthetic.sampleRequest (Synthetic.context ⟨1⟩),
      .reserve Synthetic.sampleRequest (Synthetic.context ⟨1⟩)])).bind fun q =>
  (execAll exec q.2 [.release (reservationId 1) (Synthetic.context ⟨1⟩),
    .release (reservationId 2) (Synthetic.context ⟨1⟩),
    .release (reservationId 3) (Synthetic.context ⟨1⟩)]).map (q, ·)

theorem settlements_in_any_order_settlingRun :
    ∃ f f' tr, Run exec f tr f' ∧ Run exec f tr.reverse f' ∧ tr.length = 3 ∧
      ∀ e ∈ tr, (settlement e).isSome := by
  have hrun : settlingRun.any (fun q => q.1.1.all (StartsPools ·) ∧ q.1.1.all (StartsRegions ·) ∧
      passed (·.nominalBytes.toNat) q.1.1 < 2 ^ 64 ∧ q.2.1.all (fun e => (settlement e).isSome) ∧
      q.2.1.Pairwise Independent ∧ q.2.1.length = 3) = true := by decide +kernel
  obtain ⟨⟨⟨before, f⟩, tr, f'⟩, hsteps, hchecks⟩ := (Option.any_eq_true _ _).mp hrun
  simp only [List.all_eq_true, decide_eq_true_eq] at hchecks
  obtain ⟨hpools, hregions, hbytes, hsettle, hind, hlength⟩ := hchecks
  obtain ⟨q, hq, hmap⟩ := Option.bind_eq_some_iff.mp hsteps
  obtain ⟨q', hq', heq⟩ := Option.map_eq_some_iff.mp hmap
  cases heq
  have h := Run.of_execAll hq'
  exact ⟨f, f', tr, h, settlements_in_any_order (Run.of_execAll hq) hpools hregions hbytes h
    hsettle hind (List.reverse_perm tr).symm, hlength, hsettle⟩

end Fabric

end CxlFabric
