import CxlFabric.Ranking

/-! # The triple that admission is decided on

A reserve looks at one triple only: the first of the best accepted ones. It then tests the
space of that triple's pool, which the ranking has not looked at. -/
namespace CxlFabric
namespace Fabric

/-- The accepted triple that ranks first, earlier ones in the enumeration before later ones
that rank the same. -/
def Leads (f : Fabric) (req : AdmissionRequest) (pool : CxlPool) (region : CxlRegion)
    (dev : CxlDevice) : Prop :=
  FirstBest RanksUpTo (acceptedCandidates f.selectionSnapshot req) (mkCandidate pool region dev)

variable {f f' : Fabric} {req : AdmissionRequest} {ctx : AuthorityContext} {pool : CxlPool}
  {region : CxlRegion} {dev : CxlDevice}

theorem RecordsKeyed.selectionSnapshot (h : RecordsKeyed f) : Keyed f.selectionSnapshot.devices
    f.selectionSnapshot.regions f.selectionSnapshot.pools := h

theorem Leads.select (h : f.Leads req pool region dev) :
    (f.select req).ok = true ∧ (f.select req).chosen = mkCandidate pool region dev := by
  have hok : (buildSelection f.selectionSnapshot req).ok = true :=
    buildSelection_ok_iff.mpr (List.ne_nil_of_mem h.mem)
  exact ⟨hok, (buildSelection_chosen hok).unique h⟩

theorem Leads.accepted (hk : RecordsKeyed f) (h : f.Leads req pool region dev) :
    Accepted f.selectionSnapshot req pool region dev := by
  obtain ⟨pool', region', dev', haccepted, heq⟩ :=
    (mem_acceptedCandidates_iff hk.selectionSnapshot).mp h.mem
  have hpool := congrArg Candidate.poolRecord heq
  have hregion := congrArg Candidate.regionRecord heq
  have hdev := congrArg Candidate.deviceRecord heq
  cases hpool
  cases hregion
  cases hdev
  exact haccepted

/-- A selection that succeeds has a leading triple. -/
theorem exists_leads (hk : RecordsKeyed f) (h : (f.select req).ok = true) :
    ∃ pool region dev, f.Leads req pool region dev := by
  have hfirst := buildSelection_chosen h
  obtain ⟨pool, region, dev, -, hchosen⟩ :=
    (mem_acceptedCandidates_iff hk.selectionSnapshot).mp hfirst.mem
  rw [hchosen] at hfirst
  exact ⟨pool, region, dev, hfirst⟩

/-- What an accepted triple has passed. -/
theorem regionFits_of_accepted (h : Accepted f.selectionSnapshot req pool region dev) :
    req.bytes ≤ regionFree region := (evaluateCandidate_selected.mp h.selected).2.1

/-- A reserve with authority is decided by the space of the leading triple's pool. -/
theorem Leads.reserve (hk : RecordsKeyed f) (h : f.Leads req pool region dev)
    (hepoch : f.Authorized ctx) (hbytes : req.bytes ≠ 0) :
    f.reserve req ctx =
      if poolFree pool < req.bytes then some (f, { reason := .capacityOvercommit })
      else if maxReservations ≤ f.state.reservations.size then none
      else some (f.book req (mkCandidate pool region dev) pool region
          (f.newReservation req ctx (mkCandidate pool region dev) dev),
        { ok := true, reservation := f.newReservation req ctx (mkCandidate pool region dev) dev }) := by
  obtain ⟨hok, hchosen⟩ := h.select
  have haccepted := h.accepted hk
  have hregion := regionFits_of_accepted haccepted
  have hpoolRecord : f.state.pools[pool.id]? = some pool := haccepted.triple.poolRecord
  have hregionRecord : f.state.regions[region.id]? = some region := haccepted.triple.regionRecord
  have hdeviceRecord : f.state.devices[dev.id]? = some dev := haccepted.triple.deviceRecord
  unfold Fabric.select at hok hchosen
  unfold Fabric.reserve
  rw [staleEpoch_eq_false.mpr hepoch]
  simp only [hok, hchosen, hbytes, Bool.false_eq_true, Bool.not_true, if_false]
  simp only [mkCandidate, hpoolRecord, hregionRecord, hdeviceRecord, ne_eq, not_true, or_self,
    if_false, gt_iff_lt, UInt64.not_lt.mpr hregion, or_false]

/-- Some accepted triple has space for the request, in its region and in its pool. -/
def HasRoom (f : Fabric) (req : AdmissionRequest) : Prop :=
  ∃ pool region dev, Accepted f.selectionSnapshot req pool region dev ∧
    req.bytes ≤ regionFree region ∧ req.bytes ≤ poolFree pool

theorem hasRoom_of_candidate (hk : RecordsKeyed f) {c : Candidate}
    (hc : c ∈ acceptedCandidates f.selectionSnapshot req)
    (hpool : ∀ p ∈ c.poolRecord, req.bytes ≤ poolFree p) : f.HasRoom req := by
  obtain ⟨pool, region, dev, haccepted, rfl⟩ :=
    (mem_acceptedCandidates_iff hk.selectionSnapshot).mp hc
  exact ⟨pool, region, dev, haccepted, regionFits_of_accepted haccepted, hpool pool rfl⟩

theorem HasRoom.exists_leads (hk : RecordsKeyed f) (h : f.HasRoom req) :
    ∃ pool region dev, f.Leads req pool region dev := by
  obtain ⟨pool, region, dev, haccepted, -⟩ := h
  apply Fabric.exists_leads hk
  exact buildSelection_ok_iff.mpr (List.ne_nil_of_mem
    ((mem_acceptedCandidates_iff hk.selectionSnapshot).mpr ⟨pool, region, dev, haccepted, rfl⟩))

/-- Where some accepted triple has room, a reserve succeeds exactly when the leading triple
is one whose pool has room and the reservations can take one more entry. -/
theorem admission_complete_iff {epoch : CoordinatorEpoch} {policy : PolicyGeneration}
    {tr : List (Op × Outcome)} (hrun : Run exec (new epoch policy) tr f)
    (hkeyed : ∀ e ∈ tr, e.1.ImportsKeyed) (hepoch : f.Authorized ctx) (hbytes : req.bytes ≠ 0) :
    (f.HasRoom req → ∃ f' o, f.reserve req ctx = some (f', o) ∧ o.ok = true) ↔
    (f.HasRoom req → f.state.reservations.size < maxReservations ∧
      ∀ pool region dev, f.Leads req pool region dev → req.bytes ≤ poolFree pool) := by
  have hk := recordsKeyed_of_run hrun hkeyed
  refine forall_congr' fun hroom => ?_
  obtain ⟨pool, region, dev, hleads⟩ := hroom.exists_leads hk
  rw [hleads.reserve hk hepoch hbytes]
  constructor
  · rintro ⟨f', o, hres, hok⟩
    split at hres
    · cases hres
      cases hok
    next hfits =>
    split at hres
    · cases hres
    next hsize =>
    refine ⟨Nat.lt_of_not_le hsize, ?_⟩
    intro pool' region' dev' hleads'
    have hsame := congrArg Candidate.poolRecord (FirstBest.unique hleads hleads')
    cases hsame
    exact UInt64.not_lt.mp hfits
  · rintro ⟨hsize, hfits⟩
    rw [if_neg (UInt64.not_lt.mpr (hfits pool region dev hleads)), if_neg (Nat.not_le.mpr hsize)]
    exact ⟨_, _, rfl, rfl⟩

/-- The leading pool of a selection. -/
theorem Leads.poolRecord (h : f.Leads req pool region dev) :
    (f.select req).chosen.poolRecord = some pool := by rw [h.select.2]; rfl

theorem admission_complete_iff_twoPoolRun :
    ∃ tr f, Run exec (new ⟨1⟩ ⟨1⟩) tr f ∧ (∀ e ∈ tr, e.1.ImportsKeyed) ∧
      f.Authorized (Synthetic.context ⟨1⟩) ∧ Synthetic.sampleRequest.bytes ≠ 0 ∧
      f.HasRoom Synthetic.sampleRequest ∧
      ∃ f' o, f.reserve Synthetic.sampleRequest (Synthetic.context ⟨1⟩) = some (f', o) ∧
        o.ok = true := by
  have hrun := twoPoolRun_run
  have hkeyed := twoPoolRun_importsKeyed
  have hepoch : (twoPoolRun.get twoPoolRun_isSome).2.Authorized (Synthetic.context ⟨1⟩) := by
    unfold Authorized
    decide
  have hbytes : Synthetic.sampleRequest.bytes ≠ 0 := by decide
  have hroom : (twoPoolRun.get twoPoolRun_isSome).2.HasRoom Synthetic.sampleRequest := by
    have hsome : ∃ c ∈ acceptedCandidates (twoPoolRun.get twoPoolRun_isSome).2.selectionSnapshot
        Synthetic.sampleRequest, ∀ p ∈ c.poolRecord,
          Synthetic.sampleRequest.bytes ≤ poolFree p := by decide +kernel
    obtain ⟨c, hc, hpool⟩ := hsome
    exact hasRoom_of_candidate (recordsKeyed_of_run hrun hkeyed) hc hpool
  have hsize : (twoPoolRun.get twoPoolRun_isSome).2.state.reservations.size < maxReservations := by
    decide +kernel
  have hfits : ∀ p ∈ ((twoPoolRun.get twoPoolRun_isSome).2.select
      Synthetic.sampleRequest).chosen.poolRecord, Synthetic.sampleRequest.bytes ≤ poolFree p := by
    decide +kernel
  refine ⟨_, _, hrun, hkeyed, hepoch, hbytes, hroom, ?_⟩
  refine (admission_complete_iff hrun hkeyed hepoch hbytes).mpr (fun _ => ⟨hsize, ?_⟩) hroom
  intro pool region dev hleads
  exact hfits pool hleads.poolRecord

/-- The only member of the first pool is unhealthy, so its region has space and the pool has
none. The second pool is free. -/
def shadowedRun : Option (List (Op × Outcome) × Fabric) :=
  execAll exec (new ⟨1⟩ ⟨1⟩) (
    [.registerDevice Synthetic.sampleDevice (Synthetic.context ⟨1⟩),
      .createPool { Synthetic.samplePool with
        members := Synthetic.samplePool.members.map fun m => { m with healthOk := false } }
        (Synthetic.context ⟨1⟩),
      .createRegion Synthetic.sampleRegion (Synthetic.context ⟨1⟩)] ++ Synthetic.secondSetup ⟨1⟩)

theorem shadowedRun_isSome : shadowedRun.isSome = true := by decide

theorem shadowedRun_refused :
    ¬∀ (tr : List (Op × Outcome)) (f : Fabric), Run exec (new ⟨1⟩ ⟨1⟩) tr f →
      ∀ req ctx, f.Authorized ctx → req.bytes ≠ 0 → f.HasRoom req →
        ∃ f' o, f.reserve req ctx = some (f', o) ∧ o.ok = true := by
  intro hall
  have hrun := Run.of_execAll (Option.some_get shadowedRun_isSome).symm
  have hops : ∀ e ∈ (shadowedRun.get shadowedRun_isSome).1, e.1.authority ≠ none := by decide
  have hk := recordsKeyed_of_run hrun fun e he => Op.importsKeyed_of_authority (hops e he)
  have hepoch : (shadowedRun.get shadowedRun_isSome).2.Authorized (Synthetic.context ⟨1⟩) := by
    unfold Authorized
    decide
  have hsome : ∃ c ∈ acceptedCandidates (shadowedRun.get shadowedRun_isSome).2.selectionSnapshot
      Synthetic.sampleRequest, ∀ p ∈ c.poolRecord,
        Synthetic.sampleRequest.bytes ≤ poolFree p := by decide +kernel
  obtain ⟨c, hc, hpool⟩ := hsome
  obtain ⟨f', o, hres, hok⟩ := hall _ _ hrun Synthetic.sampleRequest (Synthetic.context ⟨1⟩) hepoch
    (by decide) (hasRoom_of_candidate hk hc hpool)
  have hrefused : ∀ r ∈ (shadowedRun.get shadowedRun_isSome).2.reserve Synthetic.sampleRequest
      (Synthetic.context ⟨1⟩), r.2.ok = false := by decide +kernel
  have := hrefused _ hres
  rw [hok] at this
  cases this

end Fabric

end CxlFabric
