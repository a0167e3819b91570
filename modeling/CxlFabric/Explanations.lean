import CxlFabric.LeadingTriple

/-! # Why a request is refused

The hard constraints are a list that is checked from its front: what a candidate reports is
the first constraint that it does not meet. A refused request is told either what is wrong
with the request itself, or the report of the first candidate, or that the pool of the
leading triple is full. -/
namespace CxlFabric

/-- A hard constraint, and what a candidate reports that does not meet it. -/
structure Constraint where
  reason : DecisionReason
  factor : String
  shown : Str
  unmet : Bool

section constraints
variable {pool : CxlPool} {region : CxlRegion} {dev : CxlDevice} {req : AdmissionRequest}

/-- What a request asks of records that are in service, in the order in which it is checked. -/
def constraints (pool : CxlPool) (region : CxlRegion) (dev : CxlDevice) (req : AdmissionRequest) :
    List Constraint :=
  [⟨.healthUnacceptable, "health", str dev.health.toText, unacceptableHealth dev.health ||
      unacceptableHealth region.health || unacceptableHealth pool.healthSummary⟩,
    ⟨.capacityInsufficient, "capacity", str (decimal (regionFree region)),
      regionFree region < req.bytes⟩,
    ⟨.volatilityMismatch, "volatility", str dev.volatility.toText,
      req.requirePersistence = true ∧ dev.volatility ≠ .named .persistent⟩,
    ⟨.volatilityMismatch, "volatility", str dev.volatility.toText,
      req.volatility ≠ .named .unknown ∧ dev.volatility ≠ .named .unknown ∧
        req.volatility ≠ dev.volatility⟩,
    ⟨.hostIncompatible, "host", dev.host.value,
      req.host.empty = false ∧ dev.host.empty = false ∧ req.host ≠ dev.host⟩,
    ⟨.sharingMismatch, "sharing", str dev.sharing.toText,
      req.sharing ≠ .named .unknown ∧ dev.sharing ≠ .named .unknown ∧ req.sharing ≠ dev.sharing⟩,
    ⟨.poolStale, "required_pool", pool.id.value, req.requiredPool.any (· ≠ pool.id)⟩,
    ⟨.requiredLocalityUnsatisfied, "locality", str dev.economics.locality.toText,
      req.minimumLocality.any (!localitySatisfies dev.economics.locality ·)⟩,
    ⟨.policyDenied, "tier", str region.tier.toText, req.requiredTier.any (region.tier ≠ ·)⟩,
    ⟨.acceleratorAccessUnsatisfied, "accelerator_access", str dev.acceleratorAccess.toText,
      req.acceleratorAccess.any (· ≠ dev.acceleratorAccess)⟩,
    ⟨.policyDenied, "bandwidth", str (decimal dev.economics.estimatedBandwidthMbps),
      req.minimumBandwidthMbps > 0 ∧ dev.economics.estimatedBandwidthMbps ≠ 0 ∧
        dev.economics.estimatedBandwidthMbps < req.minimumBandwidthMbps⟩,
    ⟨.policyDenied, "latency", str (decimal dev.economics.estimatedLatencyNs),
      req.maximumLatencyNs > 0 ∧ dev.economics.estimatedLatencyNs ≠ 0 ∧
        dev.economics.estimatedLatencyNs > req.maximumLatencyNs⟩]

/-- The constraint that decides against a triple. -/
def firstUnmet (pool : CxlPool) (region : CxlRegion) (dev : CxlDevice) (req : AdmissionRequest) :
    Option Constraint :=
  (constraints pool region dev req).find? (·.unmet)

/-- What is reported of the first constraint that is not met, if there is one. -/
def reported (r passed : SelectionResult) : Option Constraint → SelectionResult
  | none => passed
  | some k => r.reject k.reason (failing k.factor k.shown)

/-- One check in front of the others. -/
theorem reported_cons {p : Prop} [Decidable p] {r passed s : SelectionResult}
    {reason : DecisionReason} {factor : String} {shown : Str} {unmet : Bool} {ks : List Constraint}
    (hunmet : unmet = true ↔ p) (h : s = reported r passed (ks.find? (·.unmet))) :
    (if p then r.reject reason (failing factor shown) else s) =
      reported r passed ((⟨reason, factor, shown, unmet⟩ :: ks).find? (·.unmet)) := by
  by_cases hp : p
  · rw [if_pos hp, List.find?_cons_of_pos (hunmet.mpr hp)]
    rfl
  · rw [if_neg hp, List.find?_cons_of_neg (fun hk => hp (hunmet.mp hk))]
    exact h

/-- The loops have made the checks of the evidence and of the states already. -/
theorem evaluateRecords_reported {snap : StateSnapshot} (h : Triple snap pool region dev)
    (r : SelectionResult) :
    evaluateRecords r (mkCandidate pool region dev) dev region pool req pool.evidenceCurrent =
      reported r (passedResult r (mkCandidate pool region dev) dev region pool)
        (firstUnmet pool region dev req) := by
  obtain ⟨-, -, -, hpool, hregion, hdev, -⟩ := h
  simp only [poolAdmits, regionAdmits, deviceAdmits, Bool.and_eq_true, Bool.or_eq_true,
    decide_eq_true_eq] at hpool hregion hdev
  have hpoolState : ¬(pool.state ≠ .available ∧ pool.state ≠ .defined) := by tauto
  have hpoolCurrent : pool.state ≠ .revalidationRequired := by
    intro hstate
    rw [hstate] at hpool
    exact absurd hpool.2 (by decide)
  rw [evaluateRecords, if_neg (by simp [hpool.1, hregion.1.2, hdev.1]), if_neg (by simp [hdev.2]),
    if_neg (by simp [hregion.2]), if_neg hpoolState, if_neg (by simp [hdev.2]),
    if_neg (by simp [hdev.2, hregion.2]), if_neg (by simp [hdev.2, hregion.2, hpoolCurrent])]
  unfold firstUnmet constraints
  iterate 12 refine reported_cons (by first | exact Iff.rfl | exact decide_eq_true_iff) ?_
  rfl

theorem evaluated_reported {snap : StateSnapshot} (h : Triple snap pool region dev) :
    evaluated req (mkCandidate pool region dev) =
      explained (reported (startResult (mkCandidate pool region dev))
        (passedResult (startResult (mkCandidate pool region dev)) (mkCandidate pool region dev) dev
          region pool) (firstUnmet pool region dev req)) :=
  congrArg explained (evaluateRecords_reported h (startResult (mkCandidate pool region dev)))

@[simp] theorem filter_passing (name : String) (detail : Str) :
    (passing name detail).filter (!·.pass) = [] := rfl

theorem passedResult_failing (r : SelectionResult) (c : Candidate) (dev : CxlDevice)
    (region : CxlRegion) (pool : CxlPool) :
    (passedResult r c dev region pool).factors.filter (!·.pass) = r.factors.filter (!·.pass) := by
  simp only [passedResult, List.filter_append, filter_passing, List.append_nil,
    apply_ite (List.filter fun x : SelectionFactor => !x.pass), List.filter_nil, ite_self]

/-- What a result says of a triple: that it passed, or one constraint that it does not meet. -/
structure Explains (r : SelectionResult) (pool : CxlPool) (region : CxlRegion) (dev : CxlDevice)
    (req : AdmissionRequest) : Prop where
  selected : r.selected = (firstUnmet pool region dev req).isNone
  reason : r.reason = (firstUnmet pool region dev req).elim .ok (·.reason)
  rejections : r.rejections = ((firstUnmet pool region dev req).map (·.reason)).toList
  failing : r.factors.filter (!·.pass) =
    ((firstUnmet pool region dev req).map fun k => ⟨str k.factor, false, k.shown⟩).toList
  explanation : r.explanation =
    (firstUnmet pool region dev req).elim (str "candidate passed") fun _ => []

theorem evaluated_explains {snap : StateSnapshot} (h : Triple snap pool region dev)
    (req : AdmissionRequest) :
    Explains (evaluated req (mkCandidate pool region dev)) pool region dev req := by
  rw [evaluated_reported h]
  constructor
  all_goals
    cases firstUnmet pool region dev req with
    | none => first | rfl | exact passedResult_failing _ _ dev region pool
    | some k => rfl

/-- The triples that meet every constraint are the accepted ones. -/
theorem accepted_iff {snap : StateSnapshot} : Accepted snap req pool region dev ↔
    Triple snap pool region dev ∧ firstUnmet pool region dev req = none := by
  constructor
  · intro h
    have hselected := (evaluated_explains h.triple req).selected
    rw [evaluated_selected] at hselected
    exact ⟨h.triple, Option.isNone_iff_eq_none.mp (hselected.symm.trans h.selected)⟩
  · rintro ⟨htriple, hnone⟩
    have hselected := (evaluated_explains htriple req).selected
    rw [evaluated_selected, hnone] at hselected
    exact ⟨htriple, hselected⟩

end constraints

/-- Where nothing is selected, the report of the first candidate stands for all. -/
theorem buildSelection_refused {snap : StateSnapshot} {req : AdmissionRequest}
    (h : (buildSelection snap req).ok = false) :
    (buildSelection snap req).result.reason = (enumerateCandidates snap).head?.elim
      .capacityInsufficient fun c => (evaluated req c).reason := by
  unfold buildSelection at h ⊢
  dsimp only at h ⊢
  split at h
  · cases h
  · cases enumerateCandidates snap with
    | nil => rfl
    | cons c cs => rfl

namespace Fabric
variable {f f' : Fabric} {req : AdmissionRequest} {ctx : AuthorityContext}

/-- The reasons for which a request is refused. -/
inductive Refused (f : Fabric) (req : AdmissionRequest) (ctx : AuthorityContext) :
    DecisionReason → Prop
  | stale (epoch : ¬f.Authorized ctx) : Refused f req ctx .reservationStale
  | nothing (epoch : f.Authorized ctx) (bytes : req.bytes = 0) : Refused f req ctx .invalidArgument
  | unserved (epoch : f.Authorized ctx) (bytes : req.bytes ≠ 0)
      (none : ∀ pool region dev, ¬Triple f.selectionSnapshot pool region dev) :
      Refused f req ctx .capacityInsufficient
  | unmet {pool : CxlPool} {region : CxlRegion} {dev : CxlDevice} {k : Constraint}
      (epoch : f.Authorized ctx) (bytes : req.bytes ≠ 0)
      (first : (enumerateCandidates f.selectionSnapshot).head? = some (mkCandidate pool region dev))
      (decides : firstUnmet pool region dev req = some k)
      (all : ∀ pool' region' dev', ¬Accepted f.selectionSnapshot req pool' region' dev') :
      Refused f req ctx k.reason
  | full {pool : CxlPool} {region : CxlRegion} {dev : CxlDevice} (epoch : f.Authorized ctx)
      (bytes : req.bytes ≠ 0) (leads : f.Leads req pool region dev)
      (short : poolFree pool < req.bytes) : Refused f req ctx .capacityOvercommit

theorem reserve_stale (h : ¬f.Authorized ctx) :
    f.reserve req ctx = some (f, { reason := .reservationStale }) := by
  have hstale : f.staleEpoch ctx = true := by
    by_contra hepoch
    exact h (staleEpoch_eq_false.mp (Bool.eq_false_iff.mpr hepoch))
  rw [reserve, if_pos hstale]

theorem reserve_nothing (h : f.Authorized ctx) (hbytes : req.bytes = 0) :
    f.reserve req ctx = some (f, { reason := .invalidArgument }) := by
  rw [reserve, staleEpoch_eq_false.mpr h, if_neg (by decide), if_pos hbytes]

theorem reserve_unselected (h : f.Authorized ctx) (hbytes : req.bytes ≠ 0)
    (hselect : (f.select req).ok = false) :
    f.reserve req ctx = some (f, { reason := (f.select req).result.reason }) := by
  unfold select at hselect ⊢
  rw [reserve, staleEpoch_eq_false.mpr h, if_neg (by decide), if_neg hbytes]
  simp only [hselect, Bool.not_false, if_true]

/-- Without an accepted triple nothing is selected. -/
theorem select_eq_false_iff (hk : RecordsKeyed f) : (f.select req).ok = false ↔
    ∀ pool region dev, ¬Accepted f.selectionSnapshot req pool region dev := by
  have hiff : (f.select req).ok = true ↔ acceptedCandidates f.selectionSnapshot req ≠ [] :=
    buildSelection_ok_iff
  rw [← Bool.not_eq_true, hiff, not_not]
  constructor
  · intro hnil pool region dev haccepted
    have hmem := (mem_acceptedCandidates_iff hk.selectionSnapshot).mpr
      ⟨pool, region, dev, haccepted, rfl⟩
    rw [hnil] at hmem
    cases hmem
  · intro hall
    refine List.eq_nil_iff_forall_not_mem.mpr fun c hc => ?_
    obtain ⟨pool, region, dev, haccepted, -⟩ :=
      (mem_acceptedCandidates_iff hk.selectionSnapshot).mp hc
    exact hall pool region dev haccepted

/-- The report of the first candidate, or of there being none. -/
theorem refused_of_unselected (hk : RecordsKeyed f) (h : f.Authorized ctx) (hbytes : req.bytes ≠ 0)
    (hselect : (f.select req).ok = false) :
    f.Refused req ctx (f.select req).result.reason := by
  have hall := (select_eq_false_iff hk).mp hselect
  have hreason : (f.select req).result.reason = _ := buildSelection_refused hselect
  rw [hreason]
  cases hcandidates : (enumerateCandidates f.selectionSnapshot).head? with
  | none =>
    refine .unserved h hbytes fun pool region dev htriple => ?_
    have hmem := (mem_enumerateCandidates_iff hk.selectionSnapshot).mpr
      ⟨pool, region, dev, htriple, rfl⟩
    rw [List.head?_eq_none_iff.mp hcandidates] at hmem
    cases hmem
  | some c =>
    obtain ⟨pool, region, dev, htriple, rfl⟩ :=
      (mem_enumerateCandidates_iff hk.selectionSnapshot).mp (List.mem_of_head? hcandidates)
    cases hunmet : firstUnmet pool region dev req with
    | none => exact absurd (accepted_iff.mpr ⟨htriple, hunmet⟩) (hall pool region dev)
    | some k =>
      have hk := (evaluated_explains htriple req).reason
      rw [hunmet] at hk
      rw [Option.elim_some, hk]
      exact .unmet h hbytes hcandidates hunmet hall

/-- Whatever speaks against a request is what it is refused for. -/
theorem Refused.reserve (hk : RecordsKeyed f) {reason : DecisionReason}
    (h : f.Refused req ctx reason) : f.reserve req ctx = some (f, { reason := reason }) := by
  cases h with
  | stale epoch => exact reserve_stale epoch
  | nothing epoch bytes => exact reserve_nothing epoch bytes
  | unserved epoch bytes none =>
    have hselect : (f.select req).ok = false :=
      (select_eq_false_iff hk).mpr fun pool region dev h => none pool region dev h.triple
    have hreason : (f.select req).result.reason = _ := buildSelection_refused hselect
    have hempty : enumerateCandidates f.selectionSnapshot = [] := by
      refine List.eq_nil_iff_forall_not_mem.mpr fun c hc => ?_
      obtain ⟨pool, region, dev, htriple, -⟩ :=
        (mem_enumerateCandidates_iff hk.selectionSnapshot).mp hc
      exact none pool region dev htriple
    rw [hempty] at hreason
    rw [reserve_unselected epoch bytes hselect, hreason]
    rfl
  | @unmet pool region dev k epoch bytes first decides all =>
    have hselect := (select_eq_false_iff hk).mpr all
    have hreason : (f.select req).result.reason = _ := buildSelection_refused hselect
    obtain ⟨pool', region', dev', htriple, heq⟩ :=
      (mem_enumerateCandidates_iff hk.selectionSnapshot).mp (List.mem_of_head? first)
    obtain rfl : pool = pool' := Option.some.inj (congrArg Candidate.poolRecord heq)
    obtain rfl : region = region' := Option.some.inj (congrArg Candidate.regionRecord heq)
    obtain rfl : dev = dev' := Option.some.inj (congrArg Candidate.deviceRecord heq)
    rw [first, Option.elim_some, (evaluated_explains htriple req).reason, decides] at hreason
    rw [reserve_unselected epoch bytes hselect, hreason]
    rfl
  | full epoch bytes leads short => rw [leads.reserve hk epoch bytes, if_pos short]

/-- A refused request has one of the reasons. -/
theorem refused_of_reserve (hk : RecordsKeyed f) {o : ReserveOutcome}
    (h : f.reserve req ctx = some (f', o)) (hrefused : o.ok = false) :
    f.Refused req ctx o.reason := by
  by_cases hepoch : f.Authorized ctx
  case neg =>
    rw [reserve_stale hepoch] at h
    cases h
    exact .stale hepoch
  by_cases hbytes : req.bytes = 0
  · rw [reserve_nothing hepoch hbytes] at h
    cases h
    exact .nothing hepoch hbytes
  cases hselect : (f.select req).ok with
  | false =>
    rw [reserve_unselected hepoch hbytes hselect] at h
    cases h
    exact refused_of_unselected hk hepoch hbytes hselect
  | true =>
    obtain ⟨pool, region, dev, hleads⟩ := exists_leads hk hselect
    rw [hleads.reserve hk hepoch hbytes] at h
    split at h
    · next hshort =>
      cases h
      exact .full hepoch hbytes hleads hshort
    · split at h
      · cases h
      · cases h
        cases hrefused

/-- A request is refused for exactly the reasons that speak against it; and whatever a
selection lists is a triple in service, with the first constraint that it does not meet. -/
theorem refusals_explained {epoch : CoordinatorEpoch} {policy : PolicyGeneration}
    {tr : List (Op × Outcome)} (hrun : Run exec (new epoch policy) tr f)
    (hkeyed : ∀ e ∈ tr, e.1.ImportsKeyed) (req : AdmissionRequest) :
    (∀ (ctx : AuthorityContext) (reason : DecisionReason),
      (∃ f' o, f.reserve req ctx = some (f', o) ∧ o.ok = false ∧ o.reason = reason) ↔
        f.Refused req ctx reason) ∧
    ∀ r ∈ (f.select req).candidates, ∃ pool region dev,
      Triple f.selectionSnapshot pool region dev ∧ Explains r pool region dev req ∧
        (r.selected = true ↔ Accepted f.selectionSnapshot req pool region dev) := by
  have hk := recordsKeyed_of_run hrun hkeyed
  refine ⟨fun ctx reason => ⟨?_, ?_⟩, ?_⟩
  · rintro ⟨f', o, hres, hrefused, rfl⟩
    exact refused_of_reserve hk hres hrefused
  · intro hrefused
    exact ⟨f, _, hrefused.reserve hk, rfl, rfl⟩
  · intro r hr
    have hcandidates : (f.select req).candidates = _ := buildSelection_candidates _ req
    rw [hcandidates] at hr
    obtain ⟨c, hc, rfl⟩ := List.mem_map.mp hr
    obtain ⟨pool, region, dev, htriple, rfl⟩ :=
      (mem_enumerateCandidates_iff hk.selectionSnapshot).mp hc
    have hexplains := evaluated_explains htriple req
    refine ⟨pool, region, dev, htriple, hexplains, ?_⟩
    rw [hexplains.selected, accepted_iff, Option.isNone_iff_eq_none]
    exact (and_iff_right htriple).symm

/-- The sample request of a client on another host. -/
def strangerRequest : AdmissionRequest := { Synthetic.sampleRequest with host := ⟨str "host-x"⟩ }

theorem refusals_explained_twoPoolRun :
    ∃ tr f, Run exec (new ⟨1⟩ ⟨1⟩) tr f ∧ (∀ e ∈ tr, e.1.ImportsKeyed) ∧
      f.Refused strangerRequest (Synthetic.context ⟨1⟩) .hostIncompatible ∧
      (f.select strangerRequest).candidates.length = 2 := by
  have hreserve : ∃ q ∈ (twoPoolRun.get twoPoolRun_isSome).2.reserve strangerRequest
      (Synthetic.context ⟨1⟩), q.2.ok = false ∧ q.2.reason = .hostIncompatible := by
    decide +kernel
  obtain ⟨⟨f', o⟩, hres, hrefused, hreason⟩ := hreserve
  have hexplained := refusals_explained twoPoolRun_run twoPoolRun_importsKeyed strangerRequest
  exact ⟨_, _, twoPoolRun_run, twoPoolRun_importsKeyed,
    (hexplained.1 _ _).mp ⟨f', o, hres, hrefused, hreason⟩, by decide +kernel⟩

end Fabric

end CxlFabric
