import CxlFabric.Bookings
import CxlFabric.PoolBudget
import CxlFabric.Synthetic

/-! # Capacity conservation

Along every run the counters of a pool and of a region agree with the reservations on it.
The pool half holds for every run that imports no foreign state and starts its pools from
zero; the region half needs in addition that no operation overwrites region counters. -/
namespace CxlFabric
namespace Fabric

/-- A pool enters with all its counters at zero, and no state is imported. -/
def StartsPools : Op × Outcome → Prop
  | (.createPool pool _, out) => out.success = true →
    pool.reservedBytes = 0 ∧ pool.committedBytes = 0 ∧ pool.drainingBytes = 0
  | (.importPersisted _, _) => False
  | _ => True

/-- A region enters with its counters at zero, and no region record is overwritten. -/
def StartsRegions : Op × Outcome → Prop
  | (.createRegion region _, out) => out.success = true →
    region.reservedBytes = 0 ∧ region.committedBytes = 0
  | (.updateRegion _ _, _) => False
  | _ => True

instance : DecidablePred StartsPools
  | (.createPool _ _, _) => inferInstanceAs (Decidable (_ → _))
  | (.importPersisted _, _) => inferInstanceAs (Decidable False)
  | (.setEpoch _, _) | (.setPolicyGeneration _, _) | (.advanceEvidenceGeneration, _)
  | (.registerDevice _ _, _) | (.createRegion _ _, _) | (.updateRegion _ _, _)
  | (.reconfigureRegion _ _ _, _) | (.addPoolMember _ _ _, _) | (.removePoolMember _ _ _, _)
  | (.markDeviceRevalidation _ _, _) | (.markDeviceOnline _ _, _) | (.markRegionDraining _ _, _)
  | (.markPoolDraining _ _, _) | (.reconcilePool _ _, _) | (.revalidatePool _ _, _)
  | (.revalidateRegion _ _, _) | (.reserve _ _, _) | (.commit _ _, _) | (.release _ _, _) =>
    inferInstanceAs (Decidable True)

instance : DecidablePred StartsRegions
  | (.createRegion _ _, _) => inferInstanceAs (Decidable (_ → _))
  | (.updateRegion _ _, _) => inferInstanceAs (Decidable False)
  | (.setEpoch _, _) | (.setPolicyGeneration _, _) | (.advanceEvidenceGeneration, _)
  | (.registerDevice _ _, _) | (.createPool _ _, _) | (.importPersisted _, _)
  | (.reconfigureRegion _ _ _, _) | (.addPoolMember _ _ _, _) | (.removePoolMember _ _ _, _)
  | (.markDeviceRevalidation _ _, _) | (.markDeviceOnline _ _, _) | (.markRegionDraining _ _, _)
  | (.markPoolDraining _ _, _) | (.reconcilePool _ _, _) | (.revalidatePool _ _, _)
  | (.revalidateRegion _ _, _) | (.reserve _ _, _) | (.commit _ _, _) | (.release _ _, _) =>
    inferInstanceAs (Decidable True)

theorem StartsPools.not_import {op : Op} {out : Outcome} (h : StartsPools (op, out))
    (st : PersistedState) : op ≠ .importPersisted st := by
  rintro rfl
  exact h

theorem StartsRegions.not_update {op : Op} {out : Outcome} (h : StartsRegions (op, out))
    (r : CxlRegion) (ctx : AuthorityContext) : op ≠ .updateRegion r ctx := by
  rintro rfl
  exact h

structure PoolsConserved (healthy failed : ℕ) (f : Fabric) : Prop where
  numbered : Numbered f
  present : ∀ {id : ReservationId} {r : Reservation}, f.state.reservations[id]? = some r →
    f.state.pools[r.pool]?.isSome
  budget : ∀ {id : PoolId} {p : CxlPool}, f.state.pools[id]? = some p →
    WithinBudget healthy failed p
  held : ∀ {id : PoolId} {p : CxlPool}, f.state.pools[id]? = some p →
    p.reservedBytes.toNat + p.committedBytes.toNat ≤ healthy
  accounts : ∀ {id : PoolId} {p : CxlPool}, f.state.pools[id]? = some p →
    Accounts f.state.reservations (onPool id) p.reservedBytes p.committedBytes

structure RegionsConserved (f : Fabric) : Prop where
  present : ∀ {id : ReservationId} {r : Reservation}, f.state.reservations[id]? = some r →
    f.state.regions[r.region]?.isSome
  held : ∀ {id : RegionId} {r : CxlRegion}, f.state.regions[id]? = some r →
    r.reservedBytes.toNat + r.committedBytes.toNat ≤ r.regionCapacityBytes.toNat
  accounts : ∀ {id : RegionId} {r : CxlRegion}, f.state.regions[id]? = some r →
    Accounts f.state.reservations (onRegion id) r.reservedBytes r.committedBytes

section fresh
variable (epoch : CoordinatorEpoch) (policy : PolicyGeneration)

theorem new_pools (id : PoolId) : (new epoch policy).state.pools[id]? = none :=
  Std.ExtTreeMap.getElem?_empty

/-- What every change of a pool keeps holds of each pool that a run leads to. -/
theorem pool_of_run {epoch : CoordinatorEpoch} {policy : PolicyGeneration} {Q : CxlPool → Prop}
    {A : Op × Outcome → Prop}
    (hstep : ∀ (id : PoolId) (op : Op) (out : Outcome) (old : Option CxlPool) (p' : CxlPool),
      PoolChange id op out old (some p') → A (op, out) → (∀ p, old = some p → Q p) → Q p')
    {tr : List (Op × Outcome)} {f : Fabric} (hrun : Run exec (new epoch policy) tr f)
    (hA : ∀ e ∈ tr, A e) {id : PoolId} {p : CxlPool} (hp : f.state.pools[id]? = some p) : Q p := by
  have hall : ∀ p, f.state.pools[id]? = some p → Q p := by
    refine hrun.invariant (I := fun f => ∀ p, f.state.pools[id]? = some p → Q p) (A := A) ?_ hA ?_
    · intro s op out s' hop hs hexec p' hp'
      have hchange := (exec_effect hexec).pool id
      rw [hp'] at hchange
      exact hstep id op out _ p' hchange hop hs
    · intro p hp
      rw [new_pools] at hp
      cases hp
  exact hall p hp

theorem new_regions (id : RegionId) : (new epoch policy).state.regions[id]? = none :=
  Std.ExtTreeMap.getElem?_empty

theorem poolsConserved_new : PoolsConserved 0 0 (new epoch policy) := by
  refine ⟨numbered_new epoch policy, ?_, ?_, ?_, ?_⟩
  · intro id r hr
    simp [new_reservations] at hr
  all_goals
    intro id p hp
    simp [new_pools] at hp

theorem regionsConserved_new : RegionsConserved (new epoch policy) := by
  refine ⟨?_, ?_, ?_⟩
  · intro id r hr
    simp [new_reservations] at hr
  all_goals
    intro id r hr
    simp [new_regions] at hr

end fresh

variable {f f' : Fabric} {op : Op} {out : Outcome} {healthy failed healthy' failed' : ℕ}

/-- A reservation of the next state was there before under the same pool and region, or
was booked on records that are there. -/
theorem Effect.reservation_origin (h : f.Effect op out f') {id : ReservationId} {r : Reservation}
    (hr : f'.state.reservations[id]? = some r) :
    (∃ old, f.state.reservations[id]? = some old ∧ r.pool = old.pool ∧ r.region = old.region) ∨
    (f.state.pools[r.pool]?.isSome ∧ f.state.regions[r.region]?.isSome) := by
  have hchange := h.reservation id
  rw [hr] at hchange
  generalize hold : f.state.reservations[id]? = old at hchange
  cases hchange with
  | same => exact .inl ⟨r, rfl, rfl, rfl⟩
  | reserved admission key =>
    right
    exact ⟨by simp [newReservation, admission.poolRecord],
      by simp [newReservation, admission.regionRecord]⟩
  | @committed ctx res => exact .inl ⟨res, rfl, rfl, rfl⟩
  | @released ctx res => exact .inl ⟨res, rfl, rfl, rfl⟩

theorem PoolsConserved.step (hc : PoolsConserved healthy failed f) (h : f.Effect op out f')
    (hstart : StartsPools (op, out))
    (hhealthy : healthy + memberSum healthyBytes (membersPassed op) ≤ healthy')
    (hfailed : failed + memberSum failedBytes (membersPassed op) ≤ failed')
    (hlt : healthy' + failed' < 2 ^ 64) : PoolsConserved healthy' failed' f' := by
  have himport := hstart.not_import
  have hcounters {id : PoolId} {p' : CxlPool} (hp' : f'.state.pools[id]? = some p') :
      Accounts f'.state.reservations (onPool id) p'.reservedBytes p'.committedBytes ∧
        p'.reservedBytes.toNat + p'.committedBytes.toNat ≤ healthy := by
    obtain ⟨p, hp, hstep⟩ | ⟨pool, ctx, rfl, hout, hnone, hmap, hr, hcm⟩ :=
      h.poolCounters hc.numbered himport hp'
    · refine hstep.accounts (hc.accounts hp) (hc.held hp) (by omega) ?_
      intro n hn hfits
      exact (hc.budget hp).admits (by omega) (hc.held hp) hn hfits
    · -- No reservation can be on a pool that did not exist.
      obtain ⟨hzero, hzero', -⟩ := hstart hout
      rw [hr, hcm, hmap, hzero, hzero']
      refine ⟨.empty ?_, Nat.zero_le _⟩
      intro rid r hr
      have hsome := hc.present hr
      by_contra hon
      simp only [onPool, decide_eq_false_iff_not, not_not] at hon
      simp [hon, hnone] at hsome
  refine ⟨hc.numbered.step h himport, ?_, ?_, ?_, fun hp' => (hcounters hp').1⟩
  · intro id r hr
    apply h.pool_isSome himport
    obtain ⟨old, hold, hpool, -⟩ | ⟨hpool, -⟩ := h.reservation_origin hr
    · rw [hpool]
      exact hc.present hold
    · exact hpool
  · intro id p' hp'
    refine WithinBudget.step (h.pool id) hp' (fun p hp => hc.budget hp) ?_ himport hhealthy
      hfailed hlt
    rintro pool ctx rfl hout
    exact (hstart hout).2.2
  · intro id p' hp'
    have := (hcounters hp').2
    omega

theorem RegionsConserved.step (hc : RegionsConserved f) (hnum : Numbered f)
    (h : f.Effect op out f') (hstart : StartsRegions (op, out))
    (himport : ∀ st, op ≠ .importPersisted st) : RegionsConserved f' := by
  have hcounters {id : RegionId} {r' : CxlRegion} (hr' : f'.state.regions[id]? = some r') :
      Accounts f'.state.reservations (onRegion id) r'.reservedBytes r'.committedBytes ∧
        r'.reservedBytes.toNat + r'.committedBytes.toNat ≤ r'.regionCapacityBytes.toNat := by
    obtain ⟨r, hr, hstep, hcap⟩ | ⟨ctx, rfl, hout, hnone, hmap⟩ :=
      h.regionCounters hnum hstart.not_update himport hr'
    · have hheld := hc.held hr
      have hlt := r.regionCapacityBytes.toNat_lt
      rw [hcap]
      refine hstep.accounts (hc.accounts hr) hheld hlt ?_
      intro n hn hfits
      have := regionFree_spec hn hfits (by omega)
      omega
    · rw [hmap, (hstart hout).1, (hstart hout).2]
      refine ⟨.empty ?_, Nat.zero_le _⟩
      intro rid r hr
      have hsome := hc.present hr
      by_contra hon
      simp only [onRegion, decide_eq_false_iff_not, not_not] at hon
      simp [hon, hnone] at hsome
  refine ⟨?_, fun hr' => (hcounters hr').2, fun hr' => (hcounters hr').1⟩
  intro id r hr
  apply h.region_isSome himport
  obtain ⟨old, hold, -, hregion⟩ | ⟨-, hregion⟩ := h.reservation_origin hr
  · rw [hregion]
    exact hc.present hold
  · exact hregion

/-- The pool half along a whole run. -/
theorem poolsConserved_of_run {epoch : CoordinatorEpoch} {policy : PolicyGeneration}
    {tr : List (Op × Outcome)} (hrun : Run exec (new epoch policy) tr f)
    (hstart : ∀ e ∈ tr, StartsPools e) (hbytes : passed (·.nominalBytes.toNat) tr < 2 ^ 64) :
    PoolsConserved (passed healthyBytes tr) (passed failedBytes tr) f := by
  refine hrun.invariant_trace
    (I := fun tr f => PoolsConserved (passed healthyBytes tr) (passed failedBytes tr) f)
    (A := fun tr => (∀ e ∈ tr, StartsPools e) ∧ passed (·.nominalBytes.toNat) tr < 2 ^ 64)
    ?_ ?_ ⟨hstart, hbytes⟩ (poolsConserved_new epoch policy)
  · rintro tr e ⟨hok, hlt⟩
    rw [passed_concat] at hlt
    exact ⟨fun a ha => hok a (by simp [ha]), by omega⟩
  · rintro tr s a b s' ⟨hok, hlt⟩ hs hexec
    have hsum := passed_healthy_add_failed_le (tr ++ [(a, b)])
    refine hs.step (exec_effect hexec) (hok (a, b) (by simp)) ?_ ?_ (by omega)
    · rw [passed_concat]
    · rw [passed_concat]

theorem regionsConserved_of_run {epoch : CoordinatorEpoch} {policy : PolicyGeneration}
    {tr : List (Op × Outcome)} (hrun : Run exec (new epoch policy) tr f)
    (hpools : ∀ e ∈ tr, StartsPools e) (hregions : ∀ e ∈ tr, StartsRegions e) :
    RegionsConserved f := by
  have hboth := hrun.invariant (I := fun f => Numbered f ∧ RegionsConserved f)
    (A := fun e => StartsPools e ∧ StartsRegions e) ?_
    (fun e he => ⟨hpools e he, hregions e he⟩)
    ⟨numbered_new epoch policy, regionsConserved_new epoch policy⟩
  · exact hboth.2
  · rintro s a b s' ⟨hp, hr⟩ ⟨hnum, hs⟩ hexec
    have heffect := exec_effect hexec
    exact ⟨hnum.step heffect hp.not_import, hs.step hnum heffect hr hp.not_import⟩

/-- No word sum or difference of a booking in the state wraps: every sum stays below
`2 ^ 64` and nothing is subtracted from less. -/
structure BookingsExact (f : Fabric) : Prop where
  poolUsed : ∀ (id : PoolId) (p : CxlPool), f.state.pools[id]? = some p →
    p.unavailableBytes.toNat + p.reservedBytes.toNat + p.committedBytes.toNat +
      p.drainingBytes.toNat < 2 ^ 64
  regionUsed : ∀ (id : RegionId) (r : CxlRegion), f.state.regions[id]? = some r →
    r.reservedBytes.toNat + r.committedBytes.toNat < 2 ^ 64
  reserve : ∀ (req : AdmissionRequest) (ctx : AuthorityContext) (f' : Fabric) (o : ReserveOutcome),
    f.reserve req ctx = some (f', o) → o.ok = true →
    ∃ (p : CxlPool) (r : CxlRegion), f.state.pools[o.reservation.pool]? = some p ∧
      f.state.regions[o.reservation.region]? = some r ∧
      p.reservedBytes.toNat + req.bytes.toNat < 2 ^ 64 ∧
      r.reservedBytes.toNat + req.bytes.toNat < 2 ^ 64 ∧ f.sequence.toNat + 1 < 2 ^ 64
  commit : ∀ (id : ReservationId) (ctx : AuthorityContext), (f.commit id ctx).2.ok = true →
    ∃ (res : Reservation) (p : CxlPool) (r : CxlRegion),
      f.state.reservations[id]? = some res ∧ f.state.pools[res.pool]? = some p ∧
      f.state.regions[res.region]? = some r ∧
      res.bytes ≤ p.reservedBytes ∧ p.committedBytes.toNat + res.bytes.toNat < 2 ^ 64 ∧
      res.bytes ≤ r.reservedBytes ∧ r.committedBytes.toNat + res.bytes.toNat < 2 ^ 64
  release : ∀ (id : ReservationId) (ctx : AuthorityContext), (f.release id ctx).2.ok = true →
    ∃ (res : Reservation) (p : CxlPool) (r : CxlRegion),
      f.state.reservations[id]? = some res ∧ f.state.pools[res.pool]? = some p ∧
      f.state.regions[res.region]? = some r ∧
      (drainPool p res.bytes).reservedBytes.toNat + (drainPool p res.bytes).committedBytes.toNat +
        res.bytes.toNat = p.reservedBytes.toNat + p.committedBytes.toNat ∧
      (drainRegion r res.bytes).reservedBytes.toNat +
        (drainRegion r res.bytes).committedBytes.toNat + res.bytes.toNat =
          r.reservedBytes.toNat + r.committedBytes.toNat

theorem drain_sum {m : Map ReservationId Reservation} {on : Reservation → Bool}
    {reserved committed : ByteCount} {id : ReservationId} {res : Reservation}
    (ha : Accounts m on reserved committed) (hstored : m[id]? = some res) (hon : on res = true)
    (hlive : res.live = true) :
    (drain res.bytes committed reserved).reserved.toNat +
      (drain res.bytes committed reserved).committed.toNat + res.bytes.toNat =
        reserved.toNat + committed.toNat := by
  have hcovered := ha.covered hstored hon hlive
  obtain ⟨-, hcommitted, hreserved⟩ := drain_spec hcovered
  omega

/-- The pool and the region of an admission have room for it, computed in `ℕ`. -/
theorem Admission.fits {req : AdmissionRequest} {c : Candidate} {pool : CxlPool}
    {region : CxlRegion} {dev : CxlDevice} (h : f.Admission req c pool region dev)
    (hp : PoolsConserved healthy failed f) (hr : RegionsConserved f)
    (hlt : healthy + failed < 2 ^ 64) :
    req.bytes.toNat + (pool.unavailableBytes.toNat + pool.reservedBytes.toNat +
      pool.committedBytes.toNat + pool.drainingBytes.toNat) ≤ pool.totalGovernedBytes.toNat ∧
    req.bytes.toNat + (region.reservedBytes.toNat + region.committedBytes.toNat) ≤
      region.regionCapacityBytes.toNat := by
  constructor
  · apply poolFree_spec h.positive h.poolFits
    exact (hp.budget h.poolRecord).used_lt hlt (hp.held h.poolRecord)
  · apply regionFree_spec h.positive h.regionFits
    exact lt_of_le_of_lt (hr.held h.regionRecord) region.regionCapacityBytes.toNat_lt

theorem bookingsExact (hp : PoolsConserved healthy failed f) (hr : RegionsConserved f)
    (hlt : healthy + failed < 2 ^ 64) : BookingsExact f where
  poolUsed id p hpool := (hp.budget hpool).used_lt hlt (hp.held hpool)
  regionUsed id r hregion := lt_of_le_of_lt (hr.held hregion) r.regionCapacityBytes.toNat_lt
  reserve req ctx f' o h hok := by
    cases reserve_effect h with
    | refused fallible hout => simp [hok] at hout
    | @reserve _ _ c pool region dev epoch admission =>
      obtain ⟨hfit, hfit'⟩ := admission.fits hp hr hlt
      have htotal := pool.totalGovernedBytes.toNat_lt
      have hcap := region.regionCapacityBytes.toNat_lt
      exact ⟨pool, region, admission.poolRecord, admission.regionRecord, by omega, by omega,
        hp.numbered.lt admission.room⟩
  commit id ctx hok := by
    have heffect := f.commit_effect id ctx
    generalize (f.commit id ctx).1 = f', (f.commit id ctx).2 = o at heffect hok
    cases heffect with
    | refused fallible hout => simp [hok] at hout
    | @commit _ _ res pool region dev guarded =>
      have hon : onRegion res.region res = true := by simp [onRegion]
      have hregion := (hr.accounts guarded.regionRecord).bytes_le_reserved guarded.stored hon
        guarded.reserved
      have hheld := hp.held guarded.poolRecord
      have hheld' := hr.held guarded.regionRecord
      have hcap := region.regionCapacityBytes.toNat_lt
      have hle := UInt64.le_iff_toNat_le.mp guarded.covered
      have hle' := UInt64.le_iff_toNat_le.mp hregion
      exact ⟨res, pool, region, guarded.stored, guarded.poolRecord, guarded.regionRecord,
        guarded.covered, by omega, hregion, by omega⟩
  release id ctx hok := by
    have heffect := f.release_effect id ctx
    generalize (f.release id ctx).1 = f', (f.release id ctx).2 = o at heffect hok
    cases heffect with
    | refused fallible hout => simp [hok] at hout
    | conflict guarded uncovered => cases hok
    | @release _ _ res guarded covered =>
      obtain ⟨p, hpool⟩ := Option.isSome_iff_exists.mp (hp.present guarded.stored)
      obtain ⟨r, hregion⟩ := Option.isSome_iff_exists.mp (hr.present guarded.stored)
      exact ⟨res, p, r, guarded.stored, hpool, hregion,
        drain_sum (hp.accounts hpool) guarded.stored (by simp [onPool]) guarded.live_eq,
        drain_sum (hr.accounts hregion) guarded.stored (by simp [onRegion]) guarded.live_eq⟩

/-- The pool of a live reservation covers it, so a release is never in conflict. -/
theorem PoolsConserved.covers (hc : PoolsConserved healthy failed f) {id : ReservationId}
    {res : Reservation} (hstored : f.state.reservations[id]? = some res)
    (hlive : res.live = true) : f.uncovered res = false := by
  unfold uncovered
  split
  · rfl
  · next pool hpool =>
    have hon : onPool res.pool res = true := by simp [onPool]
    simpa using (drain_spec ((hc.accounts hpool).covered hstored hon hlive)).1

theorem PoolsConserved.release_ne_conflict (hc : PoolsConserved healthy failed f)
    (id : ReservationId) (ctx : AuthorityContext) :
    (f.release id ctx).2.reason ≠ .reservationConflict := by
  unfold release
  split
  · simp
  next res hres =>
  split
  · simp
  split
  · simp
  split
  · simp
  next hlive =>
  have hlive' : res.live = true := by
    simp only [Reservation.live, decide_eq_true_eq]
    tauto
  rw [hc.covers hres hlive']
  simp

theorem PoolsConserved.commit_ne_overcommit (hc : PoolsConserved healthy failed f)
    (id : ReservationId) (ctx : AuthorityContext) :
    (f.commit id ctx).2.reason ≠ .capacityOvercommit := by
  unfold commit
  split
  · simp
  next res hres =>
  split
  · simp
  next hstate =>
  split
  · simp
  split
  · simp
  split
  · simp
  split
  · next pool region dev hpool hregion hdev =>
    have hon : onPool res.pool res = true := by simp [onPool]
    have hcovered := (hc.accounts hpool).bytes_le_reserved hres hon (not_not.mp hstate)
    split
    · simp
    split
    · simp
    split
    · simp
    rw [if_neg (UInt64.not_lt.mpr hcovered)]
    simp
  · simp

/-- Counters equal reservations in every state reached, hence no booking fails on or
corrupts a counter and a state without live reservations has all counters at zero. -/
theorem capacity_conserved {epoch : CoordinatorEpoch} {policy : PolicyGeneration}
    {tr : List (Op × Outcome)} (hrun : Run exec (new epoch policy) tr f)
    (hpools : ∀ e ∈ tr, StartsPools e) (hregions : ∀ e ∈ tr, StartsRegions e)
    (hbytes : passed (·.nominalBytes.toNat) tr < 2 ^ 64) :
    (∀ (id : PoolId) (p : CxlPool), f.state.pools[id]? = some p →
      p.reservedBytes.toNat + p.committedBytes.toNat =
        sumBy (liveBytes (onPool id)) f.state.reservations ∧
      sumBy (pendingBytes (onPool id)) f.state.reservations ≤ p.reservedBytes.toNat) ∧
    (∀ (id : RegionId) (r : CxlRegion), f.state.regions[id]? = some r →
      r.reservedBytes.toNat + r.committedBytes.toNat =
        sumBy (liveBytes (onRegion id)) f.state.reservations ∧
      sumBy (pendingBytes (onRegion id)) f.state.reservations ≤ r.reservedBytes.toNat) ∧
    (∀ id ctx, (f.commit id ctx).2.reason ≠ .capacityOvercommit) ∧
    (∀ id ctx, (f.release id ctx).2.reason ≠ .reservationConflict) ∧
    BookingsExact f ∧
    ((∀ (id : ReservationId) (r : Reservation),
        f.state.reservations[id]? = some r → r.state = .released) →
      (∀ (id : PoolId) (p : CxlPool), f.state.pools[id]? = some p →
        p.reservedBytes = 0 ∧ p.committedBytes = 0) ∧
      (∀ (id : RegionId) (r : CxlRegion), f.state.regions[id]? = some r →
        r.reservedBytes = 0 ∧ r.committedBytes = 0)) := by
  have hp := poolsConserved_of_run hrun hpools hbytes
  have hr := regionsConserved_of_run hrun hpools hregions
  have hlt : passed healthyBytes tr + passed failedBytes tr < 2 ^ 64 :=
    lt_of_le_of_lt (passed_healthy_add_failed_le tr) hbytes
  refine ⟨?_, ?_, hp.commit_ne_overcommit, hp.release_ne_conflict, bookingsExact hp hr hlt, ?_⟩
  · intro id p hpool
    exact ⟨(hp.accounts hpool).sum, (hp.accounts hpool).pending_le⟩
  · intro id r hregion
    exact ⟨(hr.accounts hregion).sum, (hr.accounts hregion).pending_le⟩
  · intro hreleased
    have hdone (id : ReservationId) (r : Reservation) (h : f.state.reservations[id]? = some r) :
        r.live = false := by simp [Reservation.live, hreleased id r h]
    exact ⟨fun id p hpool => (hp.accounts hpool).eq_zero_of_released hdone,
      fun id r hregion => (hr.accounts hregion).eq_zero_of_released hdone⟩

/-- Reserve, commit, reserve again and release the first of two on the sample pool. -/
def bookingRun : Option (List (Op × Outcome) × Fabric) :=
  execAll exec (new ⟨1⟩ ⟨1⟩) (Synthetic.setup ⟨1⟩ ++
    [.reserve Synthetic.sampleRequest (Synthetic.context ⟨1⟩),
      .commit (reservationId 1) (Synthetic.context ⟨1⟩),
      .reserve Synthetic.sampleRequest (Synthetic.context ⟨1⟩),
      .release (reservationId 1) (Synthetic.context ⟨1⟩)])

theorem bookingRun_isSome : bookingRun.isSome = true := by decide

theorem capacity_conserved_bookingRun :
    ∃ tr f, bookingRun = some (tr, f) ∧ (∀ e ∈ tr, StartsPools e) ∧ (∀ e ∈ tr, StartsRegions e) ∧
      passed (·.nominalBytes.toNat) tr < 2 ^ 64 ∧
      sumBy (liveBytes (onPool ⟨str "p-1"⟩)) f.state.reservations = 4 * 2 ^ 30 ∧
      ∀ p, f.state.pools[(⟨str "p-1"⟩ : PoolId)]? = some p →
        p.reservedBytes.toNat + p.committedBytes.toNat = 4 * 2 ^ 30 := by
  have hrun := Run.of_execAll (Option.some_get bookingRun_isSome).symm
  have hpools : ∀ e ∈ (bookingRun.get bookingRun_isSome).1, StartsPools e := by decide
  have hregions : ∀ e ∈ (bookingRun.get bookingRun_isSome).1, StartsRegions e := by decide
  have hbytes : passed (·.nominalBytes.toNat) (bookingRun.get bookingRun_isSome).1 < 2 ^ 64 := by
    decide
  have hlive : sumBy (liveBytes (onPool ⟨str "p-1"⟩))
      (bookingRun.get bookingRun_isSome).2.state.reservations = 4 * 2 ^ 30 := by decide
  refine ⟨_, _, (Option.some_get bookingRun_isSome).symm, hpools, hregions, hbytes, hlive, ?_⟩
  intro p hp
  rw [((capacity_conserved hrun hpools hregions hbytes).1 _ p hp).1, hlive]

end Fabric

end CxlFabric
