import CxlFabric.Conservation

/-! # Which counter a release drains

A release takes its bytes from the committed counter first, whatever the state of the
reservation is. So it gives them back from the counter they were in only if nothing else
is committed, for a pending reservation, or if the committed counter still covers them,
for a committed one. -/
namespace CxlFabric

/-- A pair of counters gives back `n` bytes from the counter that belongs to the state. -/
structure GivesBack (state : ResumeState) (n : ByteCount)
    (reserved committed reserved' committed' : ByteCount) : Prop where
  pending : state = .reserved → reserved'.toNat + n.toNat = reserved.toNat ∧ committed' = committed
  settled : state = .committed →
    committed'.toNat + n.toNat = committed.toNat ∧ reserved' = reserved

/-- The committed counter holds nothing, or the bytes of a committed reservation. -/
structure Attributable (state : ResumeState) (n committed : ByteCount) : Prop where
  pending : state = .reserved → committed = 0
  settled : state = .committed → n ≤ committed

namespace Fabric
variable {reserved committed n : ByteCount} {state : ResumeState}

/-- Draining gives back from the right counter exactly when the committed bytes allow it. -/
theorem drain_givesBack_iff (hn : n ≠ 0)
    (hcovered : n.toNat - min n.toNat committed.toNat ≤ reserved.toNat) :
    GivesBack state n reserved committed (drain n committed reserved).reserved
      (drain n committed reserved).committed ↔ Attributable state n committed := by
  obtain ⟨-, hcommitted, hreserved⟩ := drain_spec hcovered
  generalize drain n committed reserved = d at hcommitted hreserved
  have hpos : n.toNat ≠ 0 := fun h => hn (UInt64.toNat_inj.mp h)
  have hzero : committed = 0 ↔ committed.toNat = 0 := by
    rw [← UInt64.toNat_inj, UInt64.toNat_zero]
  constructor
  · intro h
    refine ⟨?_, ?_⟩
    · intro hstate
      have hsame := congrArg UInt64.toNat (h.pending hstate).2
      rw [hzero]
      omega
    · intro hstate
      have hgiven := (h.settled hstate).1
      rw [UInt64.le_iff_toNat_le]
      omega
  · intro h
    refine ⟨?_, ?_⟩
    · intro hstate
      have hnone := hzero.mp (h.pending hstate)
      refine ⟨by omega, UInt64.toNat_inj.mp ?_⟩
      omega
    · intro hstate
      have hcover := UInt64.le_iff_toNat_le.mp (h.settled hstate)
      refine ⟨by omega, UInt64.toNat_inj.mp ?_⟩
      omega

variable {f f' : Fabric} {op : Op} {out : Outcome}

/-- A reserve of zero bytes is refused. -/
theorem bytes_ne_zero_of_run {epoch : CoordinatorEpoch} {policy : PolicyGeneration}
    {tr : List (Op × Outcome)} (hrun : Run exec (new epoch policy) tr f) {id : ReservationId}
    {res : Reservation} (hres : f.state.reservations[id]? = some res) : res.bytes ≠ 0 := by
  have hall : ∀ res, f.state.reservations[id]? = some res → res.bytes ≠ 0 := by
    refine hrun.keeps (I := fun f => ∀ res, f.state.reservations[id]? = some res → res.bytes ≠ 0)
      ?_ ?_
    · intro s op out s' hs hexec res' hres'
      have hchange := (exec_effect hexec).reservation id
      rw [hres'] at hchange
      generalize hold : s.state.reservations[id]? = old at hchange hs
      generalize hnew : some res' = new at hchange
      cases hchange with
      | same => exact hs res' hnew.symm
      | reserved admission =>
        cases hnew
        exact admission.positive
      | @committed ctx res =>
        cases hnew
        exact hs res rfl
      | @released ctx res =>
        cases hnew
        exact hs res rfl
      | imported => cases hnew
    · intro res hres
      rw [new_reservations] at hres
      cases hres
  exact hall res hres

theorem release_ok {id : ReservationId} {ctx : AuthorityContext} {res : Reservation}
    (hexec : f.exec (.release id ctx) = some (f', out)) (hok : out.success = true)
    (hres : f.state.reservations[id]? = some res) :
    f.ReleaseGuard id ctx res ∧ f' = f.free id res := by
  have heffect := exec_effect hexec
  cases heffect with
  | refused fallible failed => simp [failed] at hok
  | conflict guarded uncovered => cases hok
  | release guarded covered =>
    cases guarded.stored.symm.trans hres
    exact ⟨guarded, rfl⟩

/-- A release gives the bytes back from the counters that belong to the state of the
reservation exactly when nothing is committed beside a pending one, and the committed bytes
cover a committed one. -/
theorem release_returns_iff {epoch : CoordinatorEpoch} {policy : PolicyGeneration}
    {tr : List (Op × Outcome)} (hrun : Run exec (new epoch policy) tr f)
    (hpools : ∀ e ∈ tr, StartsPools e) (hregions : ∀ e ∈ tr, StartsRegions e)
    (hbytes : passed (·.nominalBytes.toNat) tr < 2 ^ 64) {id : ReservationId}
    {ctx : AuthorityContext} {res : Reservation}
    (hexec : f.exec (.release id ctx) = some (f', out)) (hok : out.success = true)
    (hres : f.state.reservations[id]? = some res) :
    ∃ (pool pool' : CxlPool) (region region' : CxlRegion),
      f.state.pools[res.pool]? = some pool ∧ f'.state.pools[res.pool]? = some pool' ∧
      f.state.regions[res.region]? = some region ∧ f'.state.regions[res.region]? = some region' ∧
      ((GivesBack res.state res.bytes pool.reservedBytes pool.committedBytes
          pool'.reservedBytes pool'.committedBytes ∧
        GivesBack res.state res.bytes region.reservedBytes region.committedBytes
          region'.reservedBytes region'.committedBytes) ↔
        Attributable res.state res.bytes pool.committedBytes ∧
        Attributable res.state res.bytes region.committedBytes) := by
  have hp := poolsConserved_of_run hrun hpools hbytes
  have hr := regionsConserved_of_run hrun hpools hregions
  have hn := bytes_ne_zero_of_run hrun hres
  obtain ⟨pool, hpool⟩ := Option.isSome_iff_exists.mp (hp.present hres)
  obtain ⟨region, hregion⟩ := Option.isSome_iff_exists.mp (hr.present hres)
  obtain ⟨guarded, rfl⟩ := release_ok hexec hok hres
  have hpoolCovered := (hp.accounts hpool).covered hres (by simp [onPool]) guarded.live_eq
  have hregionCovered := (hr.accounts hregion).covered hres (by simp [onRegion]) guarded.live_eq
  refine ⟨pool, drainPool pool res.bytes, region, drainRegion region res.bytes, hpool, ?_, hregion,
    ?_, ?_⟩
  · simp [free, drainPoolOf_pools, hpool]
  · simp [free, drainRegionOf_regions, hregion]
  · exact and_congr (drain_givesBack_iff hn hpoolCovered) (drain_givesBack_iff hn hregionCovered)

/-- A reservation that is still pending and a committed one on the same pool. -/
def mixedRun : List Op :=
  Synthetic.setup ⟨1⟩ ++
  [.reserve Synthetic.sampleRequest (Synthetic.context ⟨1⟩),
    .reserve Synthetic.sampleRequest (Synthetic.context ⟨1⟩),
    .commit (reservationId 2) (Synthetic.context ⟨1⟩)]

/-- The committed one is released from the committed counter. -/
theorem release_returns_mixedRun : ∃ tr f f' out, Run exec (new ⟨1⟩ ⟨1⟩) tr f ∧
    f.exec (.release (reservationId 2) (Synthetic.context ⟨1⟩)) = some (f', out) ∧
    ∃ (res : Reservation) (pool pool' : CxlPool),
      f.state.reservations[reservationId 2]? = some res ∧ res.state = .committed ∧
      f.state.pools[res.pool]? = some pool ∧ f'.state.pools[res.pool]? = some pool' ∧
      GivesBack res.state res.bytes pool.reservedBytes pool.committedBytes pool'.reservedBytes
        pool'.committedBytes := by
  obtain ⟨tr, f, hrun, hpools, hregions, hbytes, hok, res, hres, hstate, ⟨p, hp, hpc⟩, r, hr, hrc⟩ :
      ∃ tr f, Run exec (new ⟨1⟩ ⟨1⟩) tr f ∧ (∀ e ∈ tr, StartsPools e) ∧
        (∀ e ∈ tr, StartsRegions e) ∧ passed (·.nominalBytes.toNat) tr < 2 ^ 64 ∧
        (f.release (reservationId 2) (Synthetic.context ⟨1⟩)).2.ok = true ∧
        ∃ res ∈ f.state.reservations[reservationId 2]?, res.state = .committed ∧
          (∃ p ∈ f.state.pools[res.pool]?, res.bytes ≤ p.committedBytes) ∧
          ∃ r ∈ f.state.regions[res.region]?, res.bytes ≤ r.committedBytes := by
    apply Run.exists_of_execAll (l := mixedRun)
    decide +kernel
  have hexec : f.exec (.release (reservationId 2) (Synthetic.context ⟨1⟩)) =
      some ((f.release (reservationId 2) (Synthetic.context ⟨1⟩)).1,
        .reservation (f.release (reservationId 2) (Synthetic.context ⟨1⟩)).2) := rfl
  obtain ⟨pool, pool', region, region', hpool, hpool', hregion, hregion', hiff⟩ :=
    release_returns_iff hrun hpools hregions hbytes hexec hok hres
  cases hpool.symm.trans hp
  cases hregion.symm.trans hr
  have hpending {n c : ByteCount} (h : n ≤ c) : Attributable res.state n c :=
    ⟨by simp [hstate], fun _ => h⟩
  exact ⟨tr, f, _, _, hrun, hexec, res, p, pool', hres, hstate, hpool, hpool',
    (hiff.mpr ⟨hpending hpc, hpending hrc⟩).1⟩

/-- The pending one is released from the committed counter. -/
theorem release_drains_committed : ∃ tr f, Run exec (new ⟨1⟩ ⟨1⟩) tr f ∧
    (∀ e ∈ tr, StartsPools e) ∧ (∀ e ∈ tr, StartsRegions e) ∧
    passed (·.nominalBytes.toNat) tr < 2 ^ 64 ∧
    (f.release (reservationId 1) (Synthetic.context ⟨1⟩)).2.ok = true ∧
    (∃ res ∈ f.state.reservations[reservationId 1]?, res.state = .reserved) ∧
    (∃ p ∈ f.state.pools[(⟨str "p-1"⟩ : PoolId)]?,
      p.reservedBytes = 4 * 2 ^ 30 ∧ p.committedBytes = 4 * 2 ^ 30) ∧
    ∃ p ∈ (f.release (reservationId 1) (Synthetic.context ⟨1⟩)).1.state.pools[
        (⟨str "p-1"⟩ : PoolId)]?,
      p.reservedBytes = 4 * 2 ^ 30 ∧ p.committedBytes = 0 := by
  apply Run.exists_of_execAll (l := mixedRun)
  decide +kernel

end Fabric

end CxlFabric
