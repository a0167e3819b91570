import CxlFabric.LeadingTriple

/-! # Planning a failover

A failover plan runs its own loops over pools, regions and member devices. They leave out
the test of the pool's state and the ranking, and they skip the failed device. What they
accept is nevertheless what selection accepts. -/
namespace CxlFabric

open Std

inductive FailoverOutcome
  | keep | drain | failover | revalidate | reject | degraded | lost
  deriving DecidableEq

structure FailoverPlan where
  outcome : FailoverOutcome
  replacement : Option Candidate := none
  note : Str
  deriving DecidableEq

/-- The failure domain of the failed device, as its last membership states it. -/
def failedDomain (pools : Map PoolId CxlPool) (failedDevice : DeviceId) : Str :=
  pools.toList.foldl (fun domain kv =>
    kv.2.members.foldl (fun domain m =>
      if m.device = failedDevice then m.failureDomain else domain) domain) []

/-- The replacement that a member device of a region offers. -/
def failoverMember (snap : StateSnapshot) (req : AdmissionRequest) (failedDevice : DeviceId)
    (p : CxlPool) (region : CxlRegion) (did : DeviceId) : Option Candidate :=
  if did = failedDevice then none
  else match snap.devices[did]? with
    | none => none
    | some dev =>
      if !dev.evidenceCurrent then none
      else if dev.state ≠ .named .online then none
      else
        -- The source names the device by its key here and by its record in selection.
        let c := { mkCandidate p region dev with device := did }
        if (evaluateCandidate c req p.evidenceCurrent).selected then some c else none

/-- The triple loop of the source. The pool's state is not tested before the evaluation. -/
def failoverCandidates (snap : StateSnapshot) (poolId : PoolId) (failedDevice : DeviceId)
    (req : AdmissionRequest) : List Candidate :=
  snap.pools.toList.flatMap fun pk =>
    if poolId.empty = false ∧ pk.1 ≠ poolId then []
    else if !pk.2.evidenceCurrent then []
    else snap.regions.toList.flatMap fun rk =>
      if rk.2.pool ≠ pk.2.id then []
      else if rk.2.evidenceCurrent = false ∨ rk.2.state ≠ .named .online then []
      else rk.2.memberDevices.filterMap (failoverMember snap req failedDevice pk.2 rk.2)

/-- A replacement whose device notes the domain that failed. -/
def sameDomain (domain : Str) (c : Candidate) : Bool :=
  !domain.isEmpty && (c.deviceRecord.getD {}).economics.notes = domain

def Fabric.planFailover (f : Fabric) (poolId : PoolId) (failedDevice : DeviceId)
    (req : AdmissionRequest) (_ctx : AuthorityContext) : FailoverPlan :=
  let domain := failedDomain f.state.pools failedDevice
  let accepted := failoverCandidates f.state poolId failedDevice req
  match accepted.filter (!sameDomain domain ·) with
  | c :: _ =>
    { outcome := .failover, replacement := some c, note := str "cross-domain replacement found" }
  | [] => match accepted.filter (sameDomain domain) with
    | c :: _ =>
      { outcome := .degraded
        replacement := some c
        note := str "only same-failure-domain replacement available -> degraded fallback" }
    | [] =>
      { outcome := .reject, note := str "no replacement candidate satisfies the request" }

section loops
variable {snap : StateSnapshot} {req : AdmissionRequest} {c : Candidate} {P : PoolId}
  {F : DeviceId} {pool : CxlPool} {region : CxlRegion} {dev : CxlDevice}

/-- A triple that selection accepts, on another device than the failed one and in the pool
that is asked for. -/
structure Replaces (snap : StateSnapshot) (req : AdmissionRequest) (P : PoolId) (F : DeviceId)
    (pool : CxlPool) (region : CxlRegion) (dev : CxlDevice) : Prop where
  accepted : Accepted snap req pool region dev
  other : dev.id ≠ F
  asked : P.empty = false → pool.id = P

/-- What a member offers under its own key. -/
theorem failoverMember_eq (hdev : snap.devices[dev.id]? = some dev) :
    failoverMember snap req F pool region dev.id =
      if dev.id ≠ F ∧ deviceAdmits dev ∧ acceptedBy req (mkCandidate pool region dev) then
        some (mkCandidate pool region dev)
      else none := by
  unfold failoverMember deviceAdmits
  by_cases hF : dev.id = F
  · simp [hF]
  by_cases hevidence : dev.evidenceCurrent = true
  · by_cases hstate : dev.state = .named .online
    · have hsame : { mkCandidate pool region dev with device := dev.id } =
          mkCandidate pool region dev := rfl
      have haccepted : (evaluateCandidate (mkCandidate pool region dev) req
          pool.evidenceCurrent).selected = acceptedBy req (mkCandidate pool region dev) := rfl
      simp [hF, hdev, hevidence, hstate, hsame, haccepted]
    · simp [hF, hdev, hevidence, hstate]
  · simp [hF, hdev, hevidence]

/-- A pool that passes the evaluation has passed the test of selection's loop. -/
theorem InService.poolAdmits (h : InService dev region pool) : poolAdmits pool = true := by
  have hstate : pool.state = .available ∨ pool.state = .defined :=
    or_iff_not_imp_left.mpr h.poolState
  simpa [CxlFabric.poolAdmits, h.poolEvidence] using hstate

/-- A candidate on another device than the failed one, in the pool that is asked for. -/
def elsewhere (P : PoolId) (F : DeviceId) (c : Candidate) : Bool :=
  c.device ≠ F && (P.empty || c.pool = P)

theorem elsewhere_iff :
    elsewhere P F c = true ↔ c.device ≠ F ∧ (P.empty = false → c.pool = P) := by
  unfold elsewhere
  cases P.empty with
  | true => simp
  | false => simp

/-- What selection enumerates of one pool is on that pool. -/
theorem of_mem_poolCandidates (h : c ∈ snap.regions.toList.flatMap fun rk =>
      if regionAdmits pool rk.2 then regionCandidates snap pool rk.2 else []) :
    ∃ region dev, c = mkCandidate pool region dev := by
  obtain ⟨rk, -, hc⟩ := List.mem_flatMap.mp h
  split at hc
  · obtain ⟨did, -, hdid⟩ := List.mem_filterMap.mp hc
    split at hdid
    · cases hdid
    · next dev _ =>
      rw [Option.ite_none_right_eq_some, Option.some.injEq] at hdid
      exact ⟨rk.2, dev, hdid.2.symm⟩
  · cases hc

section keyed
variable (hk : Keyed snap.devices snap.regions snap.pools)
include hk

/-- What a plan accepts of one region is what selection accepts of it elsewhere. -/
theorem failoverRegion_eq (hasked : P.empty = false → pool.id = P) :
    (if region.pool ≠ pool.id then []
      else if region.evidenceCurrent = false ∨ region.state ≠ .named .online then []
      else region.memberDevices.filterMap (failoverMember snap req F pool region)) =
      ((if regionAdmits pool region then regionCandidates snap pool region else []).filter
        (acceptedBy req)).filter (elsewhere P F) := by
  by_cases hadmits : regionAdmits pool region = true
  · have htests := hadmits
    simp only [regionAdmits, Bool.and_eq_true, decide_eq_true_eq] at htests
    obtain ⟨⟨hof, hevidence⟩, hstate⟩ := htests
    simp only [hof, hevidence, hstate, hadmits, ne_eq, not_true, Bool.true_eq_false, or_self,
      if_false, if_true]
    unfold regionCandidates
    rw [List.filter_filterMap, List.filter_filterMap]
    apply List.filterMap_congr
    intro did _
    cases hdev : snap.devices[did]? with
    | none => simp [failoverMember, hdev]
    | some dev =>
      obtain rfl : dev.id = did := hk.device hdev
      have helsewhere : elsewhere P F (mkCandidate pool region dev) = decide (dev.id ≠ F) := by
        rw [Bool.eq_iff_iff, elsewhere_iff, decide_eq_true_iff]
        exact and_iff_left hasked
      rw [failoverMember_eq hdev]
      by_cases hdevice : deviceAdmits dev = true
      · by_cases haccepted : acceptedBy req (mkCandidate pool region dev) = true
        · simp [hdevice, haccepted, helsewhere, Option.filter_some]
        · simp [hdevice, haccepted, Option.filter_some]
      · simp [hdevice]
  · rw [if_neg hadmits]
    split
    · rfl
    next hof =>
    split
    · rfl
    next htests =>
    rw [not_or, Bool.not_eq_false, not_not] at htests
    exact absurd (by simp [regionAdmits, not_not.mp hof, htests]) hadmits

/-- The loops of the plan accept what the loops of selection accept elsewhere, in its order. -/
theorem failoverCandidates_eq :
    failoverCandidates snap P F req = (acceptedCandidates snap req).filter (elsewhere P F) := by
  unfold failoverCandidates acceptedCandidates enumerateCandidates
  rw [List.filter_flatMap, List.filter_flatMap]
  apply List.flatMap_congr
  rintro ⟨kp, pool⟩ hpool
  rw [ExtTreeMap.mem_toList_iff_getElem?_eq_some] at hpool
  obtain rfl : pool.id = kp := hk.pool hpool
  dsimp only
  split
  · next hskipped =>
    symm
    rw [List.filter_eq_nil_iff]
    intro c hc helsewhere
    rw [elsewhere_iff] at helsewhere
    have hlisted := (List.mem_filter.mp hc).1
    rw [List.mem_ite_nil_right] at hlisted
    obtain ⟨region, dev, rfl⟩ := of_mem_poolCandidates hlisted.2
    exact hskipped.2 (helsewhere.2 hskipped.1)
  next hnot =>
  have hasked : P.empty = false → pool.id = P := fun hP => by_contra fun hne => hnot ⟨hP, hne⟩
  rw [List.flatMap_congr fun rk _ => failoverRegion_eq hk hasked, ← List.filter_flatMap,
    ← List.filter_flatMap]
  by_cases hadmits : poolAdmits pool = true
  · have hevidence : pool.evidenceCurrent = true := by
      simp only [poolAdmits, Bool.and_eq_true] at hadmits
      exact hadmits.1
    simp [hadmits, hevidence]
  · -- Without the test of the pool's state the evaluation rejects what the pool offers.
    have hrejected : (snap.regions.toList.flatMap fun rk => if regionAdmits pool rk.2 then
        regionCandidates snap pool rk.2 else []).filter (acceptedBy req) = [] := by
      rw [List.filter_eq_nil_iff]
      intro c hc haccepted
      obtain ⟨region, dev, rfl⟩ := of_mem_poolCandidates hc
      exact hadmits (evaluateCandidate_selected.mp haccepted).1.poolAdmits
    rw [hrejected, if_neg hadmits]
    simp

theorem mem_failoverCandidates_iff :
    c ∈ failoverCandidates snap P F req ↔
      ∃ pool region dev, Replaces snap req P F pool region dev ∧
        c = mkCandidate pool region dev := by
  rw [failoverCandidates_eq hk, List.mem_filter, mem_acceptedCandidates_iff hk, elsewhere_iff]
  constructor
  · rintro ⟨⟨pool, region, dev, haccepted, rfl⟩, hother, hasked⟩
    exact ⟨pool, region, dev, ⟨haccepted, hother, hasked⟩, rfl⟩
  · rintro ⟨pool, region, dev, h, rfl⟩
    exact ⟨⟨pool, region, dev, h.accepted, rfl⟩, h.other, h.asked⟩

end keyed

end loops

namespace Fabric
variable {f : Fabric} {P : PoolId} {F : DeviceId} {req : AdmissionRequest} {ctx : AuthorityContext}

/-- What a plan makes of the replacements it accepts: the first one that does not note the
domain, or the first one if all note it. -/
inductive Plans (domain : Str) (accepted : List Candidate) :
    FailoverOutcome → Option Candidate → Prop
  | cross (c : Candidate) (first : accepted.find? (!sameDomain domain ·) = some c) :
      Plans domain accepted .failover (some c)
  | same (c : Candidate) (first : accepted.head? = some c)
      (noted : ∀ c ∈ accepted, sameDomain domain c = true) :
      Plans domain accepted .degraded (some c)
  | reject (empty : accepted = []) : Plans domain accepted .reject none

theorem planFailover_plans (f : Fabric) (P : PoolId) (F : DeviceId) (req : AdmissionRequest)
    (ctx : AuthorityContext) :
    Plans (failedDomain f.state.pools F) (failoverCandidates f.state P F req)
      (f.planFailover P F req ctx).outcome (f.planFailover P F req ctx).replacement := by
  unfold planFailover
  dsimp only
  split
  · next c rest hcross =>
    exact .cross c (by rw [← List.head?_filter, hcross, List.head?_cons])
  next hcross =>
  have hnoted : ∀ c ∈ failoverCandidates f.state P F req,
      sameDomain (failedDomain f.state.pools F) c = true := by
    intro c hc
    simpa using List.filter_eq_nil_iff.mp hcross c hc
  rw [List.filter_eq_self.mpr hnoted]
  split
  · next c rest hsame => exact .same c (by rw [hsame, List.head?_cons]) hnoted
  · next hsame => exact .reject hsame

/-- A plan has a replacement exactly if it accepts one, and otherwise rejects. -/
theorem Plans.replacement {domain : Str} {accepted : List Candidate} {outcome : FailoverOutcome}
    {replacement : Option Candidate} (h : Plans domain accepted outcome replacement) :
    (((outcome = .failover ∨ outcome = .degraded) ∧ accepted ≠ [] ∧
        ∃ c ∈ accepted, replacement = some c) ∨
      (outcome = .reject ∧ replacement = none ∧ accepted = [])) := by
  cases h with
  | cross c first =>
    have hc := List.mem_of_find?_eq_some first
    exact .inl ⟨.inl rfl, List.ne_nil_of_mem hc, c, hc, rfl⟩
  | same c first noted =>
    have hc := List.mem_of_head? first
    exact .inl ⟨.inr rfl, List.ne_nil_of_mem hc, c, hc, rfl⟩
  | reject empty => exact .inr ⟨rfl, rfl, empty⟩

/-- A plan replaces the failed device exactly when selection accepts a triple elsewhere. The
replacement is such a triple as the state holds it; without one the plan rejects. -/
theorem failover_agrees_with_selection {epoch : CoordinatorEpoch} {policy : PolicyGeneration}
    {tr : List (Op × Outcome)} (hrun : Run exec (new epoch policy) tr f)
    (hkeyed : ∀ e ∈ tr, e.1.ImportsKeyed) (P : PoolId) (F : DeviceId) (req : AdmissionRequest)
    (ctx : AuthorityContext) :
    (((f.planFailover P F req ctx).outcome = .failover ∨
        (f.planFailover P F req ctx).outcome = .degraded) ↔
      ∃ c ∈ acceptedCandidates f.selectionSnapshot req,
        c.device ≠ F ∧ (P.empty = false → c.pool = P)) ∧
    ((f.planFailover P F req ctx).replacement.isSome = true ↔
      ∃ c ∈ acceptedCandidates f.selectionSnapshot req,
        c.device ≠ F ∧ (P.empty = false → c.pool = P)) ∧
    (∀ c, (f.planFailover P F req ctx).replacement = some c →
      c ∈ acceptedCandidates f.selectionSnapshot req ∧ c.device ≠ F ∧
      (P.empty = false → c.pool = P) ∧
      (∃ pool, f.state.pools[c.pool]? = some pool ∧ c.poolGeneration = pool.generation) ∧
      (∃ region, f.state.regions[c.region]? = some region ∧
        c.regionGeneration = region.generation) ∧
      ∃ dev, f.state.devices[c.device]? = some dev ∧ c.deviceGeneration = dev.generation) ∧
    ((¬∃ c ∈ acceptedCandidates f.selectionSnapshot req,
        c.device ≠ F ∧ (P.empty = false → c.pool = P)) →
      (f.planFailover P F req ctx).outcome = .reject ∧
      (f.planFailover P F req ctx).replacement = none) := by
  have hk := (recordsKeyed_of_run hrun hkeyed).selectionSnapshot
  have hmem {c : Candidate} : c ∈ failoverCandidates f.state P F req ↔
      c ∈ acceptedCandidates f.selectionSnapshot req ∧ c.device ≠ F ∧
        (P.empty = false → c.pool = P) := by
    rw [← elsewhere_iff, ← List.mem_filter, ← failoverCandidates_eq hk]
    rfl
  have hiff : (∃ c ∈ acceptedCandidates f.selectionSnapshot req,
      c.device ≠ F ∧ (P.empty = false → c.pool = P)) ↔
      failoverCandidates f.state P F req ≠ [] := by
    constructor
    · rintro ⟨c, hc⟩
      exact List.ne_nil_of_mem (hmem.mpr hc)
    · intro hne
      obtain ⟨c, hc⟩ := List.exists_mem_of_ne_nil _ hne
      exact ⟨c, hmem.mp hc⟩
  rw [hiff]
  obtain ⟨houtcome, hne, c, hc, hreplacement⟩ | ⟨houtcome, hreplacement, hnone⟩ :=
    (planFailover_plans f P F req ctx).replacement
  · refine ⟨iff_of_true houtcome hne, iff_of_true ?_ hne, ?_, fun h => absurd hne h⟩
    · rw [hreplacement]
      rfl
    · intro c' hc'
      cases hreplacement.symm.trans hc'
      obtain ⟨haccepted, hother, hasked⟩ := hmem.mp hc
      obtain ⟨pool, region, dev, haccepted', rfl⟩ := (mem_acceptedCandidates_iff hk).mp haccepted
      have htriple := haccepted'.triple
      exact ⟨haccepted, hother, hasked, ⟨pool, htriple.poolRecord, rfl⟩,
        ⟨region, htriple.regionRecord, rfl⟩, ⟨dev, htriple.deviceRecord, rfl⟩⟩
  · have hempty : ¬failoverCandidates f.state P F req ≠ [] := not_not.mpr hnone
    refine ⟨iff_of_false ?_ hempty, iff_of_false ?_ hempty, ?_, fun _ => ⟨houtcome, hreplacement⟩⟩
    · simp [houtcome]
    · simp [hreplacement]
    · intro c hc
      cases hreplacement.symm.trans hc

theorem failover_agrees_with_selection_twoPoolRun :
    ∃ tr f, Run exec (new ⟨1⟩ ⟨1⟩) tr f ∧ (∀ e ∈ tr, e.1.ImportsKeyed) ∧
      ((f.planFailover {} ⟨str "d1"⟩ Synthetic.sampleRequest (Synthetic.context ⟨1⟩)).outcome =
          .failover ∨
        (f.planFailover {} ⟨str "d1"⟩ Synthetic.sampleRequest (Synthetic.context ⟨1⟩)).outcome =
          .degraded) ∧
      ∃ c ∈ acceptedCandidates f.selectionSnapshot Synthetic.sampleRequest,
        c.device ≠ ⟨str "d1"⟩ := by
  have hrun := twoPoolRun_run
  have hkeyed := twoPoolRun_importsKeyed
  have hdegraded : ((twoPoolRun.get twoPoolRun_isSome).2.planFailover {} ⟨str "d1"⟩
      Synthetic.sampleRequest (Synthetic.context ⟨1⟩)).outcome = .degraded := by decide +kernel
  have hagrees := failover_agrees_with_selection hrun hkeyed {} ⟨str "d1"⟩ Synthetic.sampleRequest
    (Synthetic.context ⟨1⟩)
  obtain ⟨c, hc, hother, -⟩ := hagrees.1.mp (.inr hdegraded)
  exact ⟨_, _, hrun, hkeyed, .inr hdegraded, c, hc, hother⟩

/-- Selection goes by the record and the plan by the name it is stored under. After an import
that has put another pool's record under the name asked for, the plan replaces where selection
accepts nothing. -/
theorem failover_replaces_under_another_name :
    ∃ tr f c, Run exec (new ⟨2⟩ ⟨1⟩) tr f ∧
      (f.planFailover ⟨str "p-1"⟩ ⟨str "d1"⟩ Synthetic.sampleRequest
        (Synthetic.context ⟨2⟩)).outcome = .failover ∧
      (f.planFailover ⟨str "p-1"⟩ ⟨str "d1"⟩ Synthetic.sampleRequest
        (Synthetic.context ⟨2⟩)).replacement = some c ∧ c.pool = ⟨str "p-2"⟩ ∧
      ¬∃ c ∈ acceptedCandidates f.selectionSnapshot Synthetic.sampleRequest,
        c.device ≠ ⟨str "d1"⟩ ∧ ((⟨str "p-1"⟩ : PoolId).empty = false → c.pool = ⟨str "p-1"⟩) := by
  have hrun := (Run.of_execAll (Option.some_get misfiledRun_isSome).symm).append
    (Run.of_execAll (Option.some_get revalidatedNameRun_isSome).symm)
  have hplan : ((revalidatedNameRun.get revalidatedNameRun_isSome).2.planFailover ⟨str "p-1"⟩
      ⟨str "d1"⟩ Synthetic.sampleRequest (Synthetic.context ⟨2⟩)).outcome = .failover := by
    decide +kernel
  have hreplacement : ∃ c ∈ ((revalidatedNameRun.get revalidatedNameRun_isSome).2.planFailover
      ⟨str "p-1"⟩ ⟨str "d1"⟩ Synthetic.sampleRequest (Synthetic.context ⟨2⟩)).replacement,
      c.pool = ⟨str "p-2"⟩ := by
    decide +kernel
  have hnone : ∀ c ∈ acceptedCandidates (revalidatedNameRun.get
      revalidatedNameRun_isSome).2.selectionSnapshot Synthetic.sampleRequest,
      c.pool ≠ ⟨str "p-1"⟩ := by
    decide +kernel
  obtain ⟨c, hc, hpool⟩ := hreplacement
  refine ⟨_, _, c, hrun, hplan, hc, hpool, ?_⟩
  rintro ⟨c', hc', -, hasked⟩
  exact hnone c' hc' (hasked rfl)

end Fabric

end CxlFabric
