import CxlFabric.Conservation

/-! # What a successful reserve books

The capacity tests of a reserve are word sums and a clamped difference, on counters that a
removal of members can push above the governed total. What passes them still fits. -/
namespace CxlFabric
namespace Fabric

/-- The step from `f` to `f'` books `res` with `n` bytes and does nothing else. -/
structure BooksExactly (f : Fabric) (n : ByteCount) (res : Reservation) (f' : Fabric) : Prop where
  pool : ∃ p p', f.state.pools[res.pool]? = some p ∧ res.poolGeneration = p.generation ∧
    p' = { p with reservedBytes := p.reservedBytes + n } ∧
    p'.reservedBytes.toNat = p.reservedBytes.toNat + n.toNat ∧
    f'.state.pools = f.state.pools.insert res.pool p' ∧
    p'.unavailableBytes.toNat + p'.reservedBytes.toNat + p'.committedBytes.toNat +
      p'.drainingBytes.toNat ≤ p'.totalGovernedBytes.toNat
  region : ∃ r r', f.state.regions[res.region]? = some r ∧
    res.regionGeneration = r.generation ∧
    r' = { r with reservedBytes := r.reservedBytes + n } ∧
    r'.reservedBytes.toNat = r.reservedBytes.toNat + n.toNat ∧
    f'.state.regions = f.state.regions.insert res.region r' ∧
    r'.reservedBytes.toNat + r'.committedBytes.toNat ≤ r'.regionCapacityBytes.toNat
  device : ∃ d, f.state.devices[res.device]? = some d ∧ res.deviceGeneration = d.generation
  devices : f'.state.devices = f.state.devices
  reservation : res.state = .reserved ∧ res.bytes = n ∧ f.state.reservations[res.id]? = none ∧
    f'.state.reservations = f.state.reservations.insert res.id res
  sequence : f'.sequence.toNat = f.sequence.toNat + 1
  ledger : f'.state.globalLedger = recomputeGlobal f'.state.pools
  epoch : f'.state.coordinatorEpoch = f.state.coordinatorEpoch
  policy : f'.state.policyGeneration = f.state.policyGeneration
  evidence : f'.state.evidenceGeneration = f.state.evidenceGeneration

variable {f f' : Fabric} {healthy failed : ℕ}

theorem Admission.books {req : AdmissionRequest} {ctx : AuthorityContext} {c : Candidate}
    {pool : CxlPool} {region : CxlRegion} {dev : CxlDevice}
    (h : f.Admission req c pool region dev) (hp : PoolsConserved healthy failed f)
    (hr : RegionsConserved f) (hlt : healthy + failed < 2 ^ 64) :
    f.BooksExactly req.bytes (f.newReservation req ctx c dev)
      (f.book req c pool region (f.newReservation req ctx c dev)) := by
  obtain ⟨hpool, hregion⟩ := h.fits hp hr hlt
  have htotal := pool.totalGovernedBytes.toNat_lt
  have hcapacity := region.regionCapacityBytes.toNat_lt
  have hsum : (pool.reservedBytes + req.bytes).toNat =
      pool.reservedBytes.toNat + req.bytes.toNat := toNat_add_of_lt (by omega)
  have hsum' : (region.reservedBytes + req.bytes).toNat =
      region.reservedBytes.toNat + req.bytes.toNat := toNat_add_of_lt (by omega)
  refine
    { pool := ⟨pool, _, h.poolRecord, h.poolGeneration.symm, rfl, hsum, rfl, ?_⟩
      region := ⟨region, _, h.regionRecord, h.regionGeneration.symm, rfl, hsum', rfl, ?_⟩
      device := ⟨dev, h.deviceRecord, h.deviceGeneration.symm⟩
      devices := rfl
      reservation := ⟨rfl, rfl, hp.numbered.fresh h.room,
        book_reservations hp.numbered h.room req ctx c pool region dev⟩
      sequence := toNat_succ_sequence (hp.numbered.lt h.room)
      ledger := rfl
      epoch := rfl
      policy := rfl
      evidence := rfl }
  · dsimp only
    omega
  · dsimp only
    omega

/-- A reserve that succeeds never overcommits and changes nothing but what it books. -/
theorem admission_never_overcommits {epoch : CoordinatorEpoch} {policy : PolicyGeneration}
    {tr : List (Op × Outcome)} (hrun : Run exec (new epoch policy) tr f)
    (hpools : ∀ e ∈ tr, StartsPools e) (hregions : ∀ e ∈ tr, StartsRegions e)
    (hbytes : passed (·.nominalBytes.toNat) tr < 2 ^ 64) {req : AdmissionRequest}
    {ctx : AuthorityContext} {o : ReserveOutcome} (h : f.reserve req ctx = some (f', o))
    (hok : o.ok = true) : f.BooksExactly req.bytes o.reservation f' := by
  have hp := poolsConserved_of_run hrun hpools hbytes
  have hr := regionsConserved_of_run hrun hpools hregions
  have hlt : passed healthyBytes tr + passed failedBytes tr < 2 ^ 64 :=
    lt_of_le_of_lt (passed_healthy_add_failed_le tr) hbytes
  cases reserve_effect h with
  | refused fallible hout => simp [hok] at hout
  | reserve epoch admission => exact admission.books hp hr hlt

/-- A second reservation on the sample pool. -/
theorem admission_never_overcommits_reservedRun :
    ∃ tr f f' o, Run exec (new ⟨1⟩ ⟨1⟩) tr f ∧ (∀ e ∈ tr, StartsPools e) ∧
      (∀ e ∈ tr, StartsRegions e) ∧ passed (·.nominalBytes.toNat) tr < 2 ^ 64 ∧
      f.reserve Synthetic.sampleRequest (Synthetic.context ⟨1⟩) = some (f', o) ∧ o.ok = true ∧
      f.BooksExactly Synthetic.sampleRequest.bytes o.reservation f' := by
  have hrun := Run.of_execAll (Option.some_get reservedRun_isSome).symm
  have hpools : ∀ e ∈ (reservedRun.get reservedRun_isSome).1, StartsPools e := by decide
  have hregions : ∀ e ∈ (reservedRun.get reservedRun_isSome).1, StartsRegions e := by decide
  have hbytes : passed (·.nominalBytes.toNat) (reservedRun.get reservedRun_isSome).1 < 2 ^ 64 := by
    decide
  have hsome : ((reservedRun.get reservedRun_isSome).2.reserve Synthetic.sampleRequest
      (Synthetic.context ⟨1⟩)).isSome = true := by decide
  have hok : ∀ r ∈ (reservedRun.get reservedRun_isSome).2.reserve Synthetic.sampleRequest
      (Synthetic.context ⟨1⟩), r.2.ok = true := by decide
  obtain ⟨⟨f', o⟩, hres⟩ := Option.isSome_iff_exists.mp hsome
  exact ⟨_, _, f', o, hrun, hpools, hregions, hbytes, hres, hok _ hres,
    admission_never_overcommits hrun hpools hregions hbytes hres (hok _ hres)⟩

end Fabric

end CxlFabric
