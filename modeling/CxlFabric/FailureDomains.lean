import CxlFabric.Failover
import CxlFabric.CodecRoundTrip

/-! # Failover and failure domains

A plan reads the domain of the failed device from the memberships of the pools and that of
a replacement from the notes of its record, which a device published over the wire does not
carry. It respects the domains exactly if the notes tell what the memberships tell. -/
namespace CxlFabric
namespace Fabric

/-- Some pool lists the device in a failure domain with the property. -/
def Listed (f : Fabric) (d : DeviceId) (q : Str → Prop) : Prop :=
  ∃ (id : PoolId) (p : CxlPool) (m : PoolMember),
    f.state.pools[id]? = some p ∧ m ∈ p.members ∧ m.device = d ∧ q m.failureDomain

/-- What selection accepts elsewhere, in the order of its enumeration. -/
def replacements (f : Fabric) (P : PoolId) (F : DeviceId) (req : AdmissionRequest) :
    List Candidate :=
  (acceptedCandidates f.selectionSnapshot req).filter (elsewhere P F)

/-- A plan respects a domain: it fails over to a device that is listed in another domain, and
degrades only if no device that is eligible as a replacement is. -/
structure RespectsDomain (f : Fabric) (P : PoolId) (F : DeviceId) (req : AdmissionRequest)
    (plan : FailoverPlan) (domain : Str) : Prop where
  failover : plan.outcome = .failover →
    ∃ c, plan.replacement = some c ∧ f.Listed c.device (· ≠ domain)
  degraded : plan.outcome = .degraded → ¬∃ pool region dev,
    Replaces f.selectionSnapshot req P F pool region dev ∧ f.Listed dev.id (· ≠ domain)

/-- The first replacement that does not note the domain of the failed device is listed in
another one, and if all replacements note it, none is. -/
structure NotesTell (f : Fabric) (P : PoolId) (F : DeviceId) (req : AdmissionRequest)
    (domain : Str) : Prop where
  first : ∀ c ∈ (f.replacements P F req).find? (!sameDomain (failedDomain f.state.pools F) ·),
    f.Listed c.device (· ≠ domain)
  noted : (∀ c ∈ f.replacements P F req, sameDomain (failedDomain f.state.pools F) c = true) →
    ∀ c ∈ f.replacements P F req, ¬f.Listed c.device (· ≠ domain)

variable {f : Fabric} {P : PoolId} {F d : DeviceId} {req : AdmissionRequest}
  {ctx : AuthorityContext} {domain : Str}

theorem listed_iff {q : Str → Prop} : f.Listed d q ↔
    ∃ kv ∈ f.state.pools.toList, ∃ m ∈ kv.2.members, m.device = d ∧ q m.failureDomain := by
  constructor
  · rintro ⟨id, p, m, hp, hm, hd, hq⟩
    exact ⟨(id, p), Std.ExtTreeMap.mem_toList_iff_getElem?_eq_some.mpr hp, m, hm, hd, hq⟩
  · rintro ⟨⟨id, p⟩, hp, m, hm, hd, hq⟩
    exact ⟨id, p, m, Std.ExtTreeMap.mem_toList_iff_getElem?_eq_some.mp hp, hm, hd, hq⟩

instance {q : Str → Prop} [DecidablePred q] : Decidable (f.Listed d q) :=
  decidable_of_iff _ listed_iff.symm

theorem of_find?_not_sameDomain {l : List Candidate} {c : Candidate}
    (h : l.find? (!sameDomain domain ·) = some c) : c ∈ l ∧ ¬sameDomain domain c = true :=
  ⟨List.mem_of_find?_eq_some h, by simpa using List.find?_some h⟩

/-- Notes that agree with the memberships tell what these tell. -/
theorem notesTell_of_agree (h : ∀ c ∈ f.replacements P F req,
    sameDomain (failedDomain f.state.pools F) c = true ↔ ¬f.Listed c.device (· ≠ domain)) :
    f.NotesTell P F req domain := by
  constructor
  · intro c hc
    obtain ⟨hmem, hnot⟩ := of_find?_not_sameDomain hc
    by_contra hlisted
    exact hnot ((h c hmem).mpr hlisted)
  · exact fun hnoted c hc => (h c hc).mp (hnoted c hc)

theorem mem_replacements_iff (hk : RecordsKeyed f) {c : Candidate} :
    c ∈ f.replacements P F req ↔ ∃ pool region dev,
      Replaces f.selectionSnapshot req P F pool region dev ∧ c = mkCandidate pool region dev := by
  rw [replacements, ← failoverCandidates_eq hk.selectionSnapshot,
    mem_failoverCandidates_iff hk.selectionSnapshot]

/-- No eligible replacement is listed in another domain. -/
theorem not_exists_replaces_iff (hk : RecordsKeyed f) :
    (¬∃ pool region dev, Replaces f.selectionSnapshot req P F pool region dev ∧
        f.Listed dev.id (· ≠ domain)) ↔
      ∀ c ∈ f.replacements P F req, ¬f.Listed c.device (· ≠ domain) := by
  constructor
  · intro hnone c hc hlisted
    obtain ⟨pool, region, dev, hreplaces, rfl⟩ := (mem_replacements_iff hk).mp hc
    exact hnone ⟨pool, region, dev, hreplaces, hlisted⟩
  · rintro hall ⟨pool, region, dev, hreplaces, hlisted⟩
    exact hall _ ((mem_replacements_iff hk).mpr ⟨pool, region, dev, hreplaces, rfl⟩) hlisted

theorem respectsDomain_iff (hk : RecordsKeyed f) :
    f.RespectsDomain P F req (f.planFailover P F req ctx) domain ↔ f.NotesTell P F req domain := by
  have hplans := planFailover_plans f P F req ctx
  have hreplacements : failoverCandidates f.state P F req = f.replacements P F req :=
    failoverCandidates_eq hk.selectionSnapshot
  rw [hreplacements] at hplans
  generalize f.planFailover P F req ctx = plan at hplans
  obtain ⟨outcome, replacement, note⟩ := plan
  dsimp only at hplans
  cases hplans with
  | cross c first =>
    obtain ⟨hmem, hnot⟩ := of_find?_not_sameDomain first
    constructor
    · intro h
      obtain ⟨c', hc', hlisted⟩ := h.failover rfl
      cases hc'
      refine ⟨fun c' hc' => ?_, fun hnoted => absurd (hnoted c hmem) hnot⟩
      cases first.symm.trans hc'
      exact hlisted
    · intro h
      refine ⟨fun _ => ⟨c, rfl, h.first c first⟩, fun hdegraded => ?_⟩
      cases hdegraded
  | same c first noted =>
    constructor
    · intro h
      refine ⟨fun c' hc' => ?_, fun _ => (not_exists_replaces_iff hk).mp (h.degraded rfl)⟩
      obtain ⟨hmem, hnot⟩ := of_find?_not_sameDomain hc'
      exact absurd (noted c' hmem) hnot
    · intro h
      refine ⟨fun hfailover => ?_, fun _ => (not_exists_replaces_iff hk).mpr (h.noted noted)⟩
      cases hfailover
  | reject empty =>
    have hnone : ∀ c ∈ f.replacements P F req, ¬f.Listed c.device (· ≠ domain) := by
      rw [empty]
      exact List.forall_mem_nil _
    constructor
    · intro h
      refine ⟨fun c' hc' => ?_, fun _ => hnone⟩
      rw [empty] at hc'
      cases hc'
    · intro h
      refine ⟨fun hfailover => ?_, fun _ => (not_exists_replaces_iff hk).mpr hnone⟩
      cases hfailover

/-- Failover respects the failure domains of the failed device exactly if the notes of the
replacements tell in which domains these are listed. -/
theorem failover_respects_domains_iff {epoch : CoordinatorEpoch} {policy : PolicyGeneration}
    {tr : List (Op × Outcome)} (hrun : Run exec (new epoch policy) tr f)
    (hkeyed : ∀ e ∈ tr, e.1.ImportsKeyed) (P : PoolId) (F : DeviceId) (req : AdmissionRequest)
    (ctx : AuthorityContext) :
    (∀ domain : Str, domain ≠ [] → f.Listed F (· = domain) →
      f.RespectsDomain P F req (f.planFailover P F req ctx) domain) ↔
    ∀ domain : Str, domain ≠ [] → f.Listed F (· = domain) → f.NotesTell P F req domain := by
  have hk := recordsKeyed_of_run hrun hkeyed
  refine forall_congr' fun domain => ?_
  refine imp_congr_right fun _ => imp_congr_right fun _ => ?_
  exact respectsDomain_iff hk

/-- The sample topology, and a second device in a pool of its own that lists it in a domain. -/
def beside (dev : CxlDevice) (domain : Str) : List Op :=
  Synthetic.setup ⟨1⟩ ++ [.registerDevice dev (Synthetic.context ⟨1⟩),
    .createPool (Synthetic.makePool ⟨str "p-2"⟩ ⟨1⟩
      [{ device := dev.id, deviceGeneration := ⟨1⟩, nominalBytes := Synthetic.sampleBytes
         online := true, healthOk := true, failureDomain := domain }]) (Synthetic.context ⟨1⟩),
    .createRegion (Synthetic.makeRegion ⟨str "r2"⟩ ⟨1⟩ ⟨str "p-2"⟩ [dev.id] Synthetic.sampleBytes
      (.named .sameHost) (.named .cxlNear) (.named .online)) (Synthetic.context ⟨1⟩)]

/-- A second device with its own notes. -/
def notingDevice (notes : Str) : CxlDevice :=
  { Synthetic.sampleDevice with
    id := ⟨str "d2"⟩, bootId := ⟨str "b2"⟩
    economics := { Synthetic.sampleDevice.economics with notes } }

/-- The second device notes the other domain that it is listed in, and replaces the first. -/
theorem failover_respects_domains_beside : ∃ tr f, Run exec (new ⟨1⟩ ⟨1⟩) tr f ∧
    (∀ e ∈ tr, e.1.ImportsKeyed) ∧ f.Listed ⟨str "d1"⟩ (· = str "fd") ∧
    (f.planFailover {} ⟨str "d1"⟩ Synthetic.sampleRequest (Synthetic.context ⟨1⟩)).outcome =
      .failover ∧
    f.RespectsDomain {} ⟨str "d1"⟩ Synthetic.sampleRequest
      (f.planFailover {} ⟨str "d1"⟩ Synthetic.sampleRequest (Synthetic.context ⟨1⟩))
      (str "fd") := by
  obtain ⟨tr, f, hrun, hops, hlisted, houtcome, honly, hagree⟩ :
      ∃ tr f, Run exec (new ⟨1⟩ ⟨1⟩) tr f ∧ (∀ e ∈ tr, e.1.authority ≠ none) ∧
        f.Listed ⟨str "d1"⟩ (· = str "fd") ∧
        (f.planFailover {} ⟨str "d1"⟩ Synthetic.sampleRequest (Synthetic.context ⟨1⟩)).outcome =
          .failover ∧
        ¬f.Listed ⟨str "d1"⟩ (· ≠ str "fd") ∧
        ∀ c ∈ f.replacements {} ⟨str "d1"⟩ Synthetic.sampleRequest,
          sameDomain (failedDomain f.state.pools ⟨str "d1"⟩) c = true ↔
            ¬f.Listed c.device (· ≠ str "fd") := by
    apply Run.exists_of_execAll (l := beside (notingDevice (str "fd-b")) (str "fd-b"))
    decide +kernel
  have hkeyed : ∀ e ∈ tr, e.1.ImportsKeyed :=
    fun e he => Op.importsKeyed_of_authority (hops e he)
  have hiff := failover_respects_domains_iff hrun hkeyed {} ⟨str "d1"⟩ Synthetic.sampleRequest
    (Synthetic.context ⟨1⟩)
  refine ⟨tr, f, hrun, hkeyed, hlisted, houtcome, hiff.mpr ?_ (str "fd") (by decide) hlisted⟩
  rintro domain - ⟨id, p, m, hp, hm, hd, rfl⟩
  have hdomain : m.failureDomain = str "fd" :=
    by_contra fun hne => honly ⟨id, p, m, hp, hm, hd, hne⟩
  rw [hdomain]
  exact notesTell_of_agree hagree

/-- A second device in the domain that failed is failed over to if it was published over the
wire, and a second device in another domain is a degraded replacement if it notes the one
that failed. -/
theorem notes_mislead_failover :
    (∃ tr f, Run exec (new ⟨1⟩ ⟨1⟩) tr f ∧ f.Listed ⟨str "d1"⟩ (· = str "fd") ∧
      (f.planFailover {} ⟨str "d1"⟩ Synthetic.sampleRequest (Synthetic.context ⟨1⟩)).outcome =
        .failover ∧
      ∀ c ∈ (f.planFailover {} ⟨str "d1"⟩ Synthetic.sampleRequest
        (Synthetic.context ⟨1⟩)).replacement, ¬f.Listed c.device (· ≠ str "fd")) ∧
    ∃ tr f, Run exec (new ⟨1⟩ ⟨1⟩) tr f ∧ f.Listed ⟨str "d1"⟩ (· = str "fd") ∧
      (f.planFailover {} ⟨str "d1"⟩ Synthetic.sampleRequest (Synthetic.context ⟨1⟩)).outcome =
        .degraded ∧
      ∃ c ∈ f.replacements {} ⟨str "d1"⟩ Synthetic.sampleRequest,
        f.Listed c.device (· ≠ str "fd") := by
  constructor
  · apply Run.exists_of_execAll
      (l := beside (Codec.receivedDevice (notingDevice (str "fd"))) (str "fd"))
    decide +kernel
  · apply Run.exists_of_execAll (l := beside (notingDevice (str "fd")) (str "fd-b"))
    decide +kernel

end Fabric

end CxlFabric
