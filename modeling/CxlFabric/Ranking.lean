import CxlFabric.Eligibility
import CxlFabric.StableFront

/-! # Selection returns the best candidate

The comparator of the sort is the lexicographic order of five keys, so it is a strict weak
order and the front of the stable sort is the first of the best accepted candidates. The
result that is handed out with it is looked up by three identities; records stored under
their own identities make that lookup exact. -/
namespace CxlFabric

open Std

section order

/-- A comparison with the larger value first. -/
def descending {α : Type*} (cmp : α → α → Ordering) : α → α → Ordering := fun a b => cmp b a

instance {α : Type*} {cmp : α → α → Ordering} [TransCmp cmp] : TransCmp (descending cmp) :=
  @TransCmp.opposite α cmp _

namespace Candidate

def economics (c : Candidate) : AccessEconomics := (c.deviceRecord.getD {}).economics

/-- The identities that break a tie, written one after the other. -/
def joinedId (c : Candidate) : Str := c.pool.value ++ c.region.value ++ c.device.value

end Candidate

/-- Locality, latency, bandwidth (more first), free bytes of the region (more first), then
the joined identities. -/
def rankCmp : Candidate → Candidate → Ordering :=
  compareLex (compareOn fun c => localityOrdinal c.economics.locality) <|
  compareLex (compareOn fun c => c.economics.estimatedLatencyNs) <|
  compareLex (descending (compareOn fun c => c.economics.estimatedBandwidthMbps)) <|
  compareLex (descending (compareOn Candidate.availableBytes)) <|
  compareOn Candidate.joinedId

instance : TransCmp rankCmp :=
  inferInstanceAs (TransCmp (compareLex _ (compareLex _ (compareLex _ (compareLex _ _)))))

theorem compareLex_eq_lt_iff {α : Type*} {c₁ c₂ : α → α → Ordering} {a b : α} :
    compareLex c₁ c₂ a b = .lt ↔ c₁ a b = .lt ∨ (c₁ a b = .eq ∧ c₂ a b = .lt) := by
  simp only [compareLex]
  cases c₁ a b <;> simp

/-- One key of a comparator that is written with early returns. -/
theorem ite_ne_eq_true_iff {α : Type*} [DecidableEq α] {x y : α} {lt : Prop} [Decidable lt]
    {rest : Bool} (hne : lt → x ≠ y) :
    (if x ≠ y then decide lt else rest) = true ↔ lt ∨ (x = y ∧ rest = true) := by
  by_cases h : x = y
  · have hlt : ¬lt := fun hlt => hne hlt h
    simp [h, hlt]
  · simp [h]

/-- The comparator of the source is the lexicographic order. -/
theorem ranksBefore_iff {a b : Candidate} : ranksBefore a b = true ↔ rankCmp a b = .lt := by
  have hword {x y : UInt64} : compare x y = .lt ↔ x < y := by
    simp [compare, compareOfLessAndEq_eq_lt]
  have hne {x y : UInt64} (h : x < y) : x ≠ y := UInt64.ne_of_lt h
  simp only [rankCmp, compareLex_eq_lt_iff, compareOn, descending, Nat.compare_eq_lt, hword,
    LawfulEqOrd.compare_eq_iff_eq]
  unfold ranksBefore
  dsimp only
  rw [ite_ne_eq_true_iff Nat.ne_of_lt, ite_ne_eq_true_iff hne,
    ite_ne_eq_true_iff fun h => (hne h).symm, ite_ne_eq_true_iff fun h => (hne h).symm,
    beq_iff_eq]
  simp only [eq_comm]
  rfl

/-- The second does not rank before the first. -/
def RanksUpTo (a b : Candidate) : Prop := ranksBefore b a = false

instance : DecidableRel RanksUpTo :=
  fun a b => inferInstanceAs (Decidable (ranksBefore b a = false))

theorem ranksUpTo_iff {a b : Candidate} : RanksUpTo a b ↔ (rankCmp a b).isLE = true := by
  have hswap : rankCmp b a = (rankCmp a b).swap := OrientedCmp.eq_swap
  unfold RanksUpTo
  rw [Bool.eq_false_iff, ne_eq, ranksBefore_iff, hswap]
  cases rankCmp a b <;> simp

instance : Std.Total RanksUpTo := ⟨fun a b => by
  have hswap : rankCmp b a = (rankCmp a b).swap := OrientedCmp.eq_swap
  rw [ranksUpTo_iff, ranksUpTo_iff, hswap]
  cases rankCmp a b <;> simp⟩

instance : IsTrans Candidate RanksUpTo := ⟨fun a b c hab hbc => by
  rw [ranksUpTo_iff] at *
  exact TransCmp.isLE_trans hab hbc⟩

/-- Candidates that rank the same have the same joined identities. -/
theorem joinedId_eq_of_ranksUpTo {a b : Candidate} (hab : RanksUpTo a b) (hba : RanksUpTo b a) :
    a.joinedId = b.joinedId := by
  have hswap : rankCmp b a = (rankCmp a b).swap := OrientedCmp.eq_swap
  have heq : rankCmp a b = .eq := by
    rw [ranksUpTo_iff] at hab hba
    rw [hswap] at hba
    cases h : rankCmp a b with
    | lt => simp [h] at hba
    | eq => rfl
    | gt => simp [h] at hab
  simp only [rankCmp, compareLex_eq_eq] at heq
  exact LawfulEqOrd.compare_eq_iff_eq.mp heq.2.2.2.2

end order

section selection
variable {snap : StateSnapshot} {req : AdmissionRequest} {c : Candidate}

def acceptedBy (req : AdmissionRequest) (c : Candidate) : Bool :=
  (evaluateCandidate c req ((c.poolRecord.map CxlPool.evidenceCurrent).getD false)).selected

/-- The candidates that meet every hard constraint, in the order of their enumeration. -/
def acceptedCandidates (snap : StateSnapshot) (req : AdmissionRequest) : List Candidate :=
  (enumerateCandidates snap).filter (acceptedBy req)

/-- Selection succeeds exactly when the ranking has a front, and chooses it. -/
theorem buildSelection_rank (snap : StateSnapshot) (req : AdmissionRequest) :
    ((buildSelection snap req).ok = true ∧
      ∃ rest, rank (acceptedCandidates snap req) = (buildSelection snap req).chosen :: rest) ∨
    ((buildSelection snap req).ok = false ∧ rank (acceptedCandidates snap req) = []) := by
  unfold buildSelection
  dsimp only
  split
  · next chosen rest hrank => exact .inl ⟨rfl, rest, hrank⟩
  · next hrank =>
    right
    split
    · exact ⟨rfl, hrank⟩
    · exact ⟨rfl, hrank⟩

theorem buildSelection_ok_iff :
    (buildSelection snap req).ok = true ↔ acceptedCandidates snap req ≠ [] := by
  have hempty : rank (acceptedCandidates snap req) = [] ↔ acceptedCandidates snap req = [] := by
    rw [← List.length_eq_zero_iff, rank, List.length_insertionSort, List.length_eq_zero_iff]
  rw [ne_eq, ← hempty]
  obtain ⟨hok, rest, hrank⟩ | ⟨hok, hrank⟩ := buildSelection_rank snap req
  · simp [hok, hrank]
  · simp [hok, hrank]

/-- The choice is the first of the best accepted candidates. -/
theorem buildSelection_chosen (h : (buildSelection snap req).ok = true) :
    FirstBest RanksUpTo (acceptedCandidates snap req) (buildSelection snap req).chosen := by
  obtain ⟨-, rest, hrank⟩ | ⟨hok, -⟩ := buildSelection_rank snap req
  · exact firstBest_of_insertionSort hrank
  · rw [h] at hok
    cases hok

/-- A pool with current evidence that is available or defined, an online region of it with
current evidence and an online device with current evidence that the region lists. -/
structure Triple (snap : StateSnapshot) (pool : CxlPool) (region : CxlRegion) (dev : CxlDevice) :
    Prop where
  poolRecord : snap.pools[pool.id]? = some pool
  regionRecord : snap.regions[region.id]? = some region
  deviceRecord : snap.devices[dev.id]? = some dev
  poolServes : poolAdmits pool = true
  regionServes : regionAdmits pool region = true
  deviceServes : deviceAdmits dev = true
  listed : dev.id ∈ region.memberDevices

/-- A triple that meets every hard constraint of a request. -/
structure Accepted (snap : StateSnapshot) (req : AdmissionRequest) (pool : CxlPool)
    (region : CxlRegion) (dev : CxlDevice) : Prop where
  triple : Triple snap pool region dev
  selected :
    (evaluateCandidate (mkCandidate pool region dev) req pool.evidenceCurrent).selected = true

theorem mkCandidate_mem {kp : PoolId} {kr : RegionId} {kd : DeviceId} {pool : CxlPool}
    {region : CxlRegion} {dev : CxlDevice} (hpool : snap.pools[kp]? = some pool)
    (hregion : snap.regions[kr]? = some region) (hdev : snap.devices[kd]? = some dev)
    (hpa : poolAdmits pool = true) (hra : regionAdmits pool region = true)
    (hda : deviceAdmits dev = true) (hlisted : kd ∈ region.memberDevices) :
    mkCandidate pool region dev ∈ enumerateCandidates snap := by
  have hp := ExtTreeMap.mem_toList_iff_getElem?_eq_some.mpr hpool
  have hr := ExtTreeMap.mem_toList_iff_getElem?_eq_some.mpr hregion
  refine List.mem_flatMap.mpr ⟨(kp, pool), hp, ?_⟩
  rw [if_pos hpa]
  refine List.mem_flatMap.mpr ⟨(kr, region), hr, ?_⟩
  rw [if_pos hra]
  refine List.mem_filterMap.mpr ⟨kd, hlisted, ?_⟩
  simp [hdev, hda]

section keyed
variable (hk : Keyed snap.devices snap.regions snap.pools)
include hk

theorem mem_enumerateCandidates_iff :
    c ∈ enumerateCandidates snap ↔
      ∃ pool region dev, Triple snap pool region dev ∧ c = mkCandidate pool region dev := by
  constructor
  · intro h
    obtain ⟨kp, kr, kd, pool, region, dev, hp, hr, hd, hlisted, hpa, hra, hda, rfl⟩ :=
      mem_enumerateCandidates h
    obtain rfl : pool.id = kp := hk.pool hp
    obtain rfl : region.id = kr := hk.region hr
    obtain rfl : dev.id = kd := hk.device hd
    exact ⟨pool, region, dev, ⟨hp, hr, hd, hpa, hra, hda, hlisted⟩, rfl⟩
  · rintro ⟨pool, region, dev, h, rfl⟩
    exact mkCandidate_mem h.poolRecord h.regionRecord h.deviceRecord h.poolServes h.regionServes
      h.deviceServes h.listed

theorem mem_acceptedCandidates_iff :
    c ∈ acceptedCandidates snap req ↔
      ∃ pool region dev, Accepted snap req pool region dev ∧ c = mkCandidate pool region dev := by
  rw [acceptedCandidates, List.mem_filter, mem_enumerateCandidates_iff hk]
  constructor
  · rintro ⟨⟨pool, region, dev, h, rfl⟩, hselected⟩
    exact ⟨pool, region, dev, ⟨h, hselected⟩, rfl⟩
  · rintro ⟨pool, region, dev, ⟨h, hselected⟩, rfl⟩
    exact ⟨⟨pool, region, dev, h, rfl⟩, hselected⟩

end keyed

/-- A result is the one of a candidate that passed, or it carries the reason it failed for. -/
def Decided (passed r : SelectionResult) : Prop :=
  (r.selected = true ∧ r = passed) ∨ (r.selected = false ∧ r.reason ≠ .ok)

theorem decided_ite {p : Prop} [Decidable p] {passed r s : SelectionResult}
    {reason : DecisionReason} {factors : List SelectionFactor} (hreason : reason ≠ .ok)
    (h : Decided passed s) : Decided passed (if p then r.reject reason factors else s) := by
  split
  · exact .inr ⟨rfl, hreason⟩
  · exact h

theorem evaluateRecords_decided (r : SelectionResult) (c : Candidate) (dev : CxlDevice)
    (reg : CxlRegion) (pool : CxlPool) (req : AdmissionRequest) (current : Bool) :
    Decided (passedResult r c dev reg pool) (evaluateRecords r c dev reg pool req current) := by
  unfold evaluateRecords
  repeat refine decided_ite (by decide) ?_
  exact .inl ⟨rfl, rfl⟩

/-- What a passing candidate starts from. -/
def startResult (c : Candidate) : SelectionResult where
  selected := true
  factors := passing "pool" c.pool.value ++ passing "region" c.region.value ++
    passing "device" c.device.value

/-- A candidate that passes carries its identities. -/
theorem evaluateCandidate_passed {pool : CxlPool} {region : CxlRegion} {dev : CxlDevice}
    {current : Bool}
    (h : (evaluateCandidate (mkCandidate pool region dev) req current).selected = true) :
    evaluateCandidate (mkCandidate pool region dev) req current =
      passedResult (startResult (mkCandidate pool region dev)) (mkCandidate pool region dev) dev
        region pool := by
  have hdecided := evaluateRecords_decided (startResult (mkCandidate pool region dev))
    (mkCandidate pool region dev) dev region pool req current
  change (evaluateRecords (startResult _) _ dev region pool req current).selected = true at h
  obtain ⟨-, hpassed⟩ | ⟨hrejected, -⟩ := hdecided
  · exact hpassed
  · rw [h] at hrejected
    cases hrejected

/-- A candidate that is rejected carries a reason. -/
theorem evaluateCandidate_reason {current : Bool}
    (h : (evaluateCandidate c req current).selected = false) :
    (evaluateCandidate c req current).reason ≠ .ok := by
  unfold evaluateCandidate at h ⊢
  dsimp only at h ⊢
  split at h
  · next dev reg pool _ _ _ =>
    obtain ⟨hpassed, -⟩ | ⟨-, hreason⟩ := evaluateRecords_decided _ c dev reg pool req current
    · rw [h] at hpassed
      cases hpassed
    · exact hreason
  · simp [SelectionResult.reject]

/-- The evaluation of a candidate as it is kept. -/
def evaluated (req : AdmissionRequest) (c : Candidate) : SelectionResult :=
  explained (evaluateCandidate c req ((c.poolRecord.map CxlPool.evidenceCurrent).getD false))

theorem buildSelection_candidates (snap : StateSnapshot) (req : AdmissionRequest) :
    (buildSelection snap req).candidates = (enumerateCandidates snap).map (evaluated req) := by
  unfold buildSelection
  dsimp only
  split
  · rfl
  · split
    · rfl
    · next hnone => exact hnone.symm

theorem buildSelection_result (h : (buildSelection snap req).ok = true) :
    (buildSelection snap req).result = (((enumerateCandidates snap).map (evaluated req)).find?
      (matchesChosen (buildSelection snap req).chosen)).getD
        (((enumerateCandidates snap).map (evaluated req)).headD {}) := by
  unfold buildSelection at h ⊢
  dsimp only at h ⊢
  split at h
  · rfl
  · split at h
    · cases h
    · cases h

theorem evaluated_selected : (evaluated req c).selected = acceptedBy req c := by
  unfold evaluated explained acceptedBy
  split
  · rfl
  · rfl

/-- The kept evaluation of a triple that passes. -/
theorem evaluated_passed {pool : CxlPool} {region : CxlRegion} {dev : CxlDevice}
    (h : (evaluated req (mkCandidate pool region dev)).selected = true) :
    evaluated req (mkCandidate pool region dev) =
      { passedResult (startResult (mkCandidate pool region dev)) (mkCandidate pool region dev) dev
        region pool with explanation := str "candidate passed" } := by
  rw [evaluated_selected] at h
  have hpassed : evaluateCandidate _ req pool.evidenceCurrent = _ := evaluateCandidate_passed h
  change explained (evaluateCandidate _ req pool.evidenceCurrent) = _
  rw [hpassed]
  rfl

/-- Three identities find the evaluation of the chosen triple again. -/
theorem Triple.eq_of_ids {pool pool' : CxlPool} {region region' : CxlRegion} {dev dev' : CxlDevice}
    (h : Triple snap pool region dev) (h' : Triple snap pool' region' dev')
    (hp : pool'.id = pool.id) (hr : region'.id = region.id) (hd : dev'.id = dev.id) :
    pool' = pool ∧ region' = region ∧ dev' = dev := by
  refine ⟨?_, ?_, ?_⟩
  · have := h'.poolRecord
    rw [hp, h.poolRecord] at this
    exact (Option.some.inj this).symm
  · have := h'.regionRecord
    rw [hr, h.regionRecord] at this
    exact (Option.some.inj this).symm
  · have := h'.deviceRecord
    rw [hd, h.deviceRecord] at this
    exact (Option.some.inj this).symm

theorem buildSelection_result_chosen (hk : Keyed snap.devices snap.regions snap.pools)
    (h : (buildSelection snap req).ok = true) :
    (buildSelection snap req).result = evaluated req (buildSelection snap req).chosen := by
  obtain ⟨pool, region, dev, haccepted, hchosen⟩ :=
    (mem_acceptedCandidates_iff hk).mp (buildSelection_chosen h).mem
  have hselected : (evaluated req (mkCandidate pool region dev)).selected = true := by
    rw [evaluated_selected]
    exact haccepted.selected
  have hmem := (mem_enumerateCandidates_iff hk).mpr ⟨pool, region, dev, haccepted.triple, rfl⟩
  rw [buildSelection_result h, hchosen]
  cases hfind : ((enumerateCandidates snap).map (evaluated req)).find?
      (matchesChosen (mkCandidate pool region dev)) with
  | none =>
    have := List.find?_eq_none.mp hfind _ (List.mem_map_of_mem hmem)
    refine absurd ?_ this
    rw [evaluated_passed hselected]
    simp [matchesChosen, passedResult, mkCandidate]
  | some x =>
    have hmatches := List.find?_some hfind
    obtain ⟨c', hc', rfl⟩ := List.mem_map.mp (List.mem_of_find?_eq_some hfind)
    obtain ⟨pool', region', dev', htriple, rfl⟩ := (mem_enumerateCandidates_iff hk).mp hc'
    simp only [matchesChosen, Bool.and_eq_true, decide_eq_true_eq] at hmatches
    obtain ⟨⟨⟨hp, hr⟩, hd⟩, hselected'⟩ := hmatches
    rw [evaluated_passed hselected'] at hp hr hd
    have hid {t : IdTag} {a b : Id t} (hab : a.value = b.value) : a = b := by
      cases a
      cases b
      exact congrArg Id.mk hab
    obtain ⟨rfl, rfl, rfl⟩ := haccepted.triple.eq_of_ids htriple (hid hp) (hid hr) (hid hd)
    rfl

end selection

section permutation
variable {snap : StateSnapshot} {req : AdmissionRequest}
  (σ : RegionId → List DeviceId → List DeviceId)

/-- Each region lists its devices in another order. -/
def StateSnapshot.permuteMembers (snap : StateSnapshot) : StateSnapshot :=
  { snap with
    regions := snap.regions.map fun k r => { r with memberDevices := σ k r.memberDevices } }

/-- A candidate without the list of devices in its region record. -/
def Candidate.forgetMembers (c : Candidate) : Candidate :=
  { c with regionRecord := c.regionRecord.map fun r => { r with memberDevices := [] } }

theorem evaluated_forgetMembers (c : Candidate) :
    evaluated req c.forgetMembers = evaluated req c := by
  obtain ⟨_, _, _, _, _, _, _, dev, region, pool⟩ := c
  cases dev <;> cases region <;> cases pool <;> rfl

theorem acceptedBy_forgetMembers (c : Candidate) :
    acceptedBy req c.forgetMembers = acceptedBy req c := by
  rw [← evaluated_selected, ← evaluated_selected, evaluated_forgetMembers]

/-- The accepted candidates of one pool and one region. -/
def acceptedOf (snap : StateSnapshot) (req : AdmissionRequest) (pool : CxlPool)
    (region : CxlRegion) : List Candidate :=
  ((if poolAdmits pool && regionAdmits pool region then regionCandidates snap pool region
    else []).filter (acceptedBy req)).map Candidate.forgetMembers

theorem acceptedCandidates_blocks (snap : StateSnapshot) (req : AdmissionRequest) :
    (acceptedCandidates snap req).map Candidate.forgetMembers =
      ((snap.pools.toList.product snap.regions.toList).map fun e =>
        acceptedOf snap req e.1.2 e.2.2).flatten := by
  rw [acceptedCandidates, enumerateCandidates, List.filter_flatMap, List.map_flatMap,
    ← List.flatMap_def, List.product, List.flatMap_assoc]
  congr 1
  funext pk
  rw [List.flatMap_map]
  by_cases hpool : poolAdmits pk.2 = true
  · rw [if_pos hpool, List.filter_flatMap, List.map_flatMap]
    congr 1
    funext rk
    simp only [acceptedOf, hpool, Bool.true_and]
  · simp [acceptedOf, hpool]

/-- The candidate of one listed device. -/
def memberCandidate (devices : Map DeviceId CxlDevice) (pool : CxlPool) (region : CxlRegion)
    (id : DeviceId) : Option Candidate :=
  (devices[id]?.filter deviceAdmits).map (mkCandidate pool region)

theorem regionCandidates_eq (snap : StateSnapshot) (pool : CxlPool) (region : CxlRegion) :
    regionCandidates snap pool region =
      region.memberDevices.filterMap (memberCandidate snap.devices pool region) := by
  unfold regionCandidates
  congr 1
  funext id
  unfold memberCandidate
  cases snap.devices[id]? with
  | none => rfl
  | some dev => cases hdev : deviceAdmits dev <;> simp [hdev]

theorem filter_map_forgetMembers (cs : List Candidate) :
    (cs.filter (acceptedBy req)).map Candidate.forgetMembers =
      (cs.map Candidate.forgetMembers).filter (acceptedBy req) := by
  rw [List.filter_map]
  congr 2
  funext c
  exact (acceptedBy_forgetMembers c).symm

theorem acceptedOf_permuted {pool : CxlPool} {region : CxlRegion} {ms : List DeviceId}
    (h : ms.Perm region.memberDevices) :
    (acceptedOf snap req pool region).Perm
      (acceptedOf (snap.permuteMembers σ) req pool { region with memberDevices := ms }) := by
  have hforget : Candidate.forgetMembers ∘ mkCandidate pool { region with memberDevices := ms } =
      Candidate.forgetMembers ∘ mkCandidate pool region := rfl
  unfold acceptedOf
  change List.Perm (List.map _ (List.filter _ (if poolAdmits pool && regionAdmits pool region then _
    else _))) (List.map _ (List.filter _ (if poolAdmits pool && regionAdmits pool region then _
    else _)))
  split
  · rw [filter_map_forgetMembers, filter_map_forgetMembers, regionCandidates_eq,
      regionCandidates_eq, List.map_filterMap, List.map_filterMap]
    simp only [memberCandidate, Option.map_map, hforget]
    exact (h.symm.filterMap _).filter _
  · rfl

theorem acceptedCandidates_permuted_blocks (snap : StateSnapshot) (req : AdmissionRequest) :
    (acceptedCandidates (snap.permuteMembers σ) req).map Candidate.forgetMembers =
      ((snap.pools.toList.product snap.regions.toList).map fun e =>
        acceptedOf (snap.permuteMembers σ) req e.1.2
          { e.2.2 with memberDevices := σ e.2.1 e.2.2.memberDevices }).flatten := by
  have hregions : (snap.permuteMembers σ).regions.toList = snap.regions.toList.map fun e =>
      (e.1, { e.2 with memberDevices := σ e.1 e.2.memberDevices }) := ExtTreeMap.toList_map
  rw [acceptedCandidates_blocks, hregions]
  congr 1
  simp only [List.product, List.map_flatMap, List.map_map]
  rfl

/-- Two accepted candidates of one pool and one region that rank the same are the same. -/
theorem acceptedOf_tie (hk : Keyed snap.devices snap.regions snap.pools) {pool : CxlPool}
    {region : CxlRegion} {a b : Candidate} (ha : a ∈ acceptedOf snap req pool region)
    (hb : b ∈ acceptedOf snap req pool region) (hab : RanksUpTo a b) (hba : RanksUpTo b a) :
    a = b := by
  have hof {c : Candidate} (hc : c ∈ acceptedOf snap req pool region) :
      ∃ dev, snap.devices[dev.id]? = some dev ∧ c = (mkCandidate pool region dev).forgetMembers := by
    obtain ⟨c', hc', rfl⟩ := List.mem_map.mp hc
    have hlisted := (List.mem_filter.mp hc').1
    split at hlisted
    · rw [regionCandidates_eq] at hlisted
      obtain ⟨id, -, hid⟩ := List.mem_filterMap.mp hlisted
      obtain ⟨dev, hdev, rfl⟩ := Option.map_eq_some_iff.mp hid
      have hstored : snap.devices[id]? = some dev := (Option.filter_eq_some_iff.mp hdev).1
      have hkey : dev.id = id := hk.device hstored
      exact ⟨dev, hkey ▸ hstored, rfl⟩
    · cases hlisted
  obtain ⟨dev, hdev, rfl⟩ := hof ha
  obtain ⟨dev', hdev', rfl⟩ := hof hb
  have hjoined := joinedId_eq_of_ranksUpTo hab hba
  have hvalue : dev.id.value = dev'.id.value := List.append_cancel_left hjoined
  have hid : dev.id = dev'.id := congrArg Id.mk hvalue
  rw [hid, hdev'] at hdev
  cases hdev
  rfl

theorem keyed_permuteMembers (hk : Keyed snap.devices snap.regions snap.pools) :
    Keyed (snap.permuteMembers σ).devices (snap.permuteMembers σ).regions
      (snap.permuteMembers σ).pools := by
  refine ⟨hk.device, ?_, hk.pool⟩
  intro k r hr
  rw [StateSnapshot.permuteMembers, ExtTreeMap.getElem?_map] at hr
  obtain ⟨old, hstored, rfl⟩ := Option.map_eq_some_iff.mp hr
  have hid : old.id = k := hk.region hstored
  exact hid

/-- The order in which regions list their devices does not matter. -/
theorem buildSelection_permuteMembers (hk : Keyed snap.devices snap.regions snap.pools)
    (hσ : ∀ k ms, (σ k ms).Perm ms) (h : (buildSelection snap req).ok = true) :
    (buildSelection (snap.permuteMembers σ) req).ok = true ∧
    (buildSelection (snap.permuteMembers σ) req).chosen.forgetMembers =
      (buildSelection snap req).chosen.forgetMembers ∧
    (buildSelection (snap.permuteMembers σ) req).result = (buildSelection snap req).result := by
  have hblocks : List.Forall₂ List.Perm
      ((snap.pools.toList.product snap.regions.toList).map fun e =>
        acceptedOf snap req e.1.2 e.2.2)
      ((snap.pools.toList.product snap.regions.toList).map fun e =>
        acceptedOf (snap.permuteMembers σ) req e.1.2
          { e.2.2 with memberDevices := σ e.2.1 e.2.2.memberDevices }) := by
    rw [List.forall₂_map_left_iff, List.forall₂_map_right_iff, List.forall₂_same]
    intro e _
    exact acceptedOf_permuted σ (hσ _ _)
  have hok : (buildSelection (snap.permuteMembers σ) req).ok = true := by
    rw [buildSelection_ok_iff] at h ⊢
    intro hempty
    have hperm := List.Perm.flatten_congr hblocks
    rw [← acceptedCandidates_blocks, ← acceptedCandidates_permuted_blocks, hempty] at hperm
    exact h (List.map_eq_nil_iff.mp hperm.eq_nil)
  have hfirst := (buildSelection_chosen h).map (s := RanksUpTo) (g := Candidate.forgetMembers)
    fun _ _ => Iff.rfl
  have hfirst' := (buildSelection_chosen hok).map (s := RanksUpTo) (g := Candidate.forgetMembers)
    fun _ _ => Iff.rfl
  rw [acceptedCandidates_blocks] at hfirst
  rw [acceptedCandidates_permuted_blocks] at hfirst'
  have hchosen := FirstBest.of_blocks hblocks (fun b hb a ha a' ha' => by
    obtain ⟨e, -, rfl⟩ := List.mem_map.mp hb
    exact acceptedOf_tie hk ha ha') hfirst hfirst'
  refine ⟨hok, hchosen.symm, ?_⟩
  rw [buildSelection_result_chosen hk h, buildSelection_result_chosen (keyed_permuteMembers σ hk) hok,
    ← evaluated_forgetMembers, ← hchosen, evaluated_forgetMembers]

end permutation

/-- Selection succeeds exactly when some triple is accepted. It then chooses an accepted
triple that no accepted triple ranks before, hands out the evaluation of that triple, and
does not depend on the order in which regions list their devices. Every candidate that was
evaluated and not accepted carries a reason. -/
theorem selection_returns_best {snap : StateSnapshot}
    (hk : Keyed snap.devices snap.regions snap.pools) (req : AdmissionRequest) :
    ((buildSelection snap req).ok = true ↔
      ∃ pool region dev, Accepted snap req pool region dev) ∧
    ((buildSelection snap req).ok = true → ∃ pool region dev, Accepted snap req pool region dev ∧
      (buildSelection snap req).chosen = mkCandidate pool region dev ∧
      (∀ pool' region' dev', Accepted snap req pool' region' dev' →
        rankCmp (mkCandidate pool' region' dev') (mkCandidate pool region dev) ≠ .lt) ∧
      (buildSelection snap req).result =
        { evaluateCandidate (mkCandidate pool region dev) req pool.evidenceCurrent with
          explanation := (buildSelection snap req).result.explanation }) ∧
    (∀ r ∈ (buildSelection snap req).candidates, r.selected = false → r.reason ≠ .ok) ∧
    (∀ σ : RegionId → List DeviceId → List DeviceId, (∀ k ms, (σ k ms).Perm ms) →
      (buildSelection snap req).ok = true →
      (buildSelection (snap.permuteMembers σ) req).ok = true ∧
      (buildSelection (snap.permuteMembers σ) req).chosen.forgetMembers =
        (buildSelection snap req).chosen.forgetMembers ∧
      (buildSelection (snap.permuteMembers σ) req).result = (buildSelection snap req).result) := by
  refine ⟨?_, ?_, ?_, fun σ hσ hok => buildSelection_permuteMembers σ hk hσ hok⟩
  · rw [buildSelection_ok_iff]
    constructor
    · intro hne
      obtain ⟨c, hc⟩ := List.exists_mem_of_ne_nil _ hne
      obtain ⟨pool, region, dev, haccepted, -⟩ := (mem_acceptedCandidates_iff hk).mp hc
      exact ⟨pool, region, dev, haccepted⟩
    · rintro ⟨pool, region, dev, haccepted⟩
      exact List.ne_nil_of_mem
        ((mem_acceptedCandidates_iff hk).mpr ⟨pool, region, dev, haccepted, rfl⟩)
  · intro hok
    have hfirst := buildSelection_chosen hok
    obtain ⟨pool, region, dev, haccepted, hchosen⟩ := (mem_acceptedCandidates_iff hk).mp hfirst.mem
    refine ⟨pool, region, dev, haccepted, hchosen, ?_, ?_⟩
    · intro pool' region' dev' haccepted'
      have hle : RanksUpTo _ (mkCandidate pool' region' dev') :=
        hfirst.le ((mem_acceptedCandidates_iff hk).mpr ⟨pool', region', dev', haccepted', rfl⟩)
      rw [hchosen] at hle
      rw [ne_eq, ← ranksBefore_iff, Bool.not_eq_true]
      exact hle
    · have hpassed := evaluateCandidate_passed haccepted.selected
      have hselected : (evaluated req (mkCandidate pool region dev)).selected = true := by
        rw [evaluated_selected]
        exact haccepted.selected
      rw [buildSelection_result_chosen hk hok, hchosen, evaluated_passed hselected, hpassed]
  · intro r hr hrejected
    rw [buildSelection_candidates] at hr
    obtain ⟨c, -, rfl⟩ := List.mem_map.mp hr
    rw [evaluated_selected] at hrejected
    have hreason := evaluateCandidate_reason hrejected
    unfold acceptedBy at hrejected
    unfold evaluated explained
    rw [hrejected]
    exact hreason

/-- Two pools qualify; the tie is broken by the identities. -/
theorem selection_returns_best_twoPoolRun :
    ∃ snap : StateSnapshot, Keyed snap.devices snap.regions snap.pools ∧
      (buildSelection snap Synthetic.sampleRequest).ok = true ∧
      ∃ pool region dev, Accepted snap Synthetic.sampleRequest pool region dev ∧
        (buildSelection snap Synthetic.sampleRequest).chosen = mkCandidate pool region dev ∧
        pool.id = ⟨str "p-1"⟩ := by
  have hk : Keyed (Fabric.twoPoolRun.get Fabric.twoPoolRun_isSome).2.state.devices
      (Fabric.twoPoolRun.get Fabric.twoPoolRun_isSome).2.state.regions
      (Fabric.twoPoolRun.get Fabric.twoPoolRun_isSome).2.state.pools :=
    Fabric.twoPoolRun_exportPersisted_keyed
  have hok : (buildSelection (Fabric.twoPoolRun.get Fabric.twoPoolRun_isSome).2.state
      Synthetic.sampleRequest).ok = true := by decide +kernel
  have hpool : (buildSelection (Fabric.twoPoolRun.get Fabric.twoPoolRun_isSome).2.state
      Synthetic.sampleRequest).chosen.pool = ⟨str "p-1"⟩ := by decide +kernel
  obtain ⟨pool, region, dev, haccepted, hchosen, -⟩ :=
    (selection_returns_best hk Synthetic.sampleRequest).2.1 hok
  rw [hchosen] at hpool
  exact ⟨_, hk, hok, pool, region, dev, haccepted, hchosen, hpool⟩

end CxlFabric
