import CxlFabric.LeadingTriple

/-! # Requirements that can pass unchecked

A requirement of a request is tested only against a value that the device knows, and two
constraints are tested nowhere. What a grant then guarantees is read off the leading
triple. -/
namespace CxlFabric

/-- Each hard requirement of the request is met by a known value of the device. -/
structure MetByEvidence (dev : CxlDevice) (req : AdmissionRequest) : Prop where
  volatility : req.volatility ≠ .named .unknown → dev.volatility = req.volatility
  host : req.host.empty = false → dev.host = req.host
  sharing : req.sharing ≠ .named .unknown → dev.sharing = req.sharing
  bandwidth : req.minimumBandwidthMbps > 0 → dev.economics.estimatedBandwidthMbps ≠ 0 ∧
    req.minimumBandwidthMbps ≤ dev.economics.estimatedBandwidthMbps
  latency : req.maximumLatencyNs > 0 → dev.economics.estimatedLatencyNs ≠ 0 ∧
    dev.economics.estimatedLatencyNs ≤ req.maximumLatencyNs

/-- The device knows a value wherever the request has a requirement. -/
structure EvidenceKnown (dev : CxlDevice) (req : AdmissionRequest) : Prop where
  volatility : req.volatility ≠ .named .unknown → dev.volatility ≠ .named .unknown
  host : req.host.empty = false → dev.host.empty = false
  sharing : req.sharing ≠ .named .unknown → dev.sharing ≠ .named .unknown
  bandwidth : req.minimumBandwidthMbps > 0 → dev.economics.estimatedBandwidthMbps ≠ 0
  latency : req.maximumLatencyNs > 0 → dev.economics.estimatedLatencyNs ≠ 0

/-- The checks of selection let exactly the unknown values through. -/
theorem metByEvidence_iff {dev : CxlDevice} {req : AdmissionRequest} (h : DeviceSuits dev req) :
    MetByEvidence dev req ↔ EvidenceKnown dev req := by
  constructor
  · intro hmet
    refine ⟨?_, ?_, ?_, fun hb => (hmet.bandwidth hb).1, fun hl => (hmet.latency hl).1⟩
    · intro hv
      rw [hmet.volatility hv]
      exact hv
    · intro hh
      rw [hmet.host hh]
      exact hh
    · intro hs
      rw [hmet.sharing hs]
      exact hs
  · intro hknown
    refine ⟨?_, ?_, ?_, ?_, ?_⟩
    · intro hv
      exact (h.volatility hv (hknown.volatility hv)).symm
    · intro hh
      exact (h.host hh (hknown.host hh)).symm
    · intro hs
      exact (h.sharing hs (hknown.sharing hs)).symm
    · intro hb
      exact ⟨hknown.bandwidth hb, h.bandwidth hb (hknown.bandwidth hb)⟩
    · intro hl
      exact ⟨hknown.latency hl, h.latency hl (hknown.latency hl)⟩

/-- The scope of the region admits the consumer, and a required accelerator path is there. -/
structure ConstraintsMet (region : CxlRegion) (dev : CxlDevice) (req : AdmissionRequest) :
    Prop where
  scope : region.consumerScope.empty = true ∨ region.consumerScope = req.consumer
  path : req.requireAcceleratorPath = true →
    dev.acceleratorAccess = .named .directSupported ∨
      dev.acceleratorAccess = .named .indirectSupported

namespace Fabric
variable {f f' : Fabric} {req : AdmissionRequest} {ctx : AuthorityContext} {pool : CxlPool}
  {region : CxlRegion} {dev : CxlDevice} {o : ReserveOutcome}

/-- A grant is on the leading triple. -/
theorem reserve_leads (hk : RecordsKeyed f) (h : f.reserve req ctx = some (f', o))
    (hok : o.ok = true) :
    ∃ pool region dev, f.Leads req pool region dev ∧ o.reservation.region = region.id ∧
      o.reservation.device = dev.id ∧ req.bytes ≠ 0 ∧ req.bytes ≤ poolFree pool ∧
      f.state.reservations.size < maxReservations := by
  cases reserve_effect h with
  | refused fallible hout => simp [hok] at hout
  | @reserve _ _ c pool region dev epoch admission =>
    obtain ⟨pool', region', dev', hleads⟩ := exists_leads hk admission.selected
    have hchosen : c = mkCandidate pool' region' dev' := admission.chosen.symm.trans hleads.select.2
    subst hchosen
    have hpool := admission.poolRecord
    have hstored : f.state.pools[pool'.id]? = some pool' :=
      (hleads.accepted hk).triple.poolRecord
    cases hstored.symm.trans hpool
    exact ⟨pool, region', dev', hleads, rfl, rfl, admission.positive, admission.poolFits,
      admission.room⟩

theorem Leads.deviceSuits (hk : RecordsKeyed f) (h : f.Leads req pool region dev) :
    DeviceSuits dev req := (evaluateCandidate_selected.mp (h.accepted hk).selected).2.2.1

theorem Leads.deviceRecord (hk : RecordsKeyed f) (h : f.Leads req pool region dev) :
    f.state.devices[dev.id]? = some dev := (h.accepted hk).triple.deviceRecord

theorem Leads.regionRecord (hk : RecordsKeyed f) (h : f.Leads req pool region dev) :
    f.state.regions[region.id]? = some region := (h.accepted hk).triple.regionRecord

/-- The device that a selection or a reserve chooses meets every hard requirement by known
evidence exactly when the device of the leading triple is known where it is asked. -/
theorem unknown_fails_closed_iff {epoch : CoordinatorEpoch} {policy : PolicyGeneration}
    {tr : List (Op × Outcome)} (hrun : Run exec (new epoch policy) tr f)
    (hkeyed : ∀ e ∈ tr, e.1.ImportsKeyed) (req : AdmissionRequest) :
    (((f.select req).ok = true → ∀ dev, f.state.devices[(f.select req).chosen.device]? = some dev →
        MetByEvidence dev req) ∧
      ∀ ctx f' o, f.reserve req ctx = some (f', o) → o.ok = true →
        ∀ dev, f.state.devices[o.reservation.device]? = some dev → MetByEvidence dev req) ↔
    ∀ pool region dev, f.Leads req pool region dev → EvidenceKnown dev req := by
  have hk := recordsKeyed_of_run hrun hkeyed
  constructor
  · rintro ⟨hselect, -⟩ pool region dev hleads
    obtain ⟨hok, hchosen⟩ := hleads.select
    rw [← metByEvidence_iff (hleads.deviceSuits hk)]
    apply hselect hok
    rw [hchosen]
    exact hleads.deviceRecord hk
  · intro hknown
    have hmet {pool : CxlPool} {region : CxlRegion} {dev dev' : CxlDevice}
        (hleads : f.Leads req pool region dev) (hdev : f.state.devices[dev.id]? = some dev') :
        MetByEvidence dev' req := by
      cases (hleads.deviceRecord hk).symm.trans hdev
      exact (metByEvidence_iff (hleads.deviceSuits hk)).mpr (hknown _ _ _ hleads)
    constructor
    · intro hok dev hdev
      obtain ⟨pool', region', dev', hleads⟩ := exists_leads hk hok
      rw [hleads.select.2] at hdev
      exact hmet hleads hdev
    · intro ctx f' o hres hok dev hdev
      obtain ⟨pool', region', dev', hleads, -, hdevice, -⟩ := reserve_leads hk hres hok
      rw [hdevice] at hdev
      exact hmet hleads hdev

/-- A request with every requirement that the sample device meets. -/
def exactingRequest : AdmissionRequest :=
  { Synthetic.sampleRequest with
    volatility := .named .volatile
    host := ⟨str "host-r"⟩
    sharing := .named .dedicated
    minimumBandwidthMbps := 16000
    maximumLatencyNs := 200 }

theorem unknown_fails_closed_iff_twoPoolRun :
    ∃ tr f, Run exec (new ⟨1⟩ ⟨1⟩) tr f ∧ (∀ e ∈ tr, e.1.ImportsKeyed) ∧
      (f.select exactingRequest).ok = true ∧
      ∀ dev, f.state.devices[(f.select exactingRequest).chosen.device]? = some dev →
        MetByEvidence dev exactingRequest := by
  have hrun := twoPoolRun_run
  have hkeyed := twoPoolRun_importsKeyed
  have hok : ((twoPoolRun.get twoPoolRun_isSome).2.select exactingRequest).ok = true := by
    decide +kernel
  refine ⟨_, _, hrun, hkeyed, hok, ?_⟩
  apply ((unknown_fails_closed_iff hrun hkeyed exactingRequest).mpr ?_).1 hok
  have hknown : ∀ d ∈ ((twoPoolRun.get twoPoolRun_isSome).2.select
      exactingRequest).chosen.deviceRecord, d.volatility ≠ .named .unknown ∧
        d.host.empty = false ∧ d.sharing ≠ .named .unknown ∧
        d.economics.estimatedBandwidthMbps ≠ 0 ∧ d.economics.estimatedLatencyNs ≠ 0 := by
    decide +kernel
  intro pool region dev hleads
  have hrecord : dev ∈ ((twoPoolRun.get twoPoolRun_isSome).2.select
      exactingRequest).chosen.deviceRecord := by
    rw [hleads.select.2]
    rfl
  obtain ⟨hvolatility, hhost, hsharing, hbandwidth, hlatency⟩ := hknown dev hrecord
  exact ⟨fun _ => hvolatility, fun _ => hhost, fun _ => hsharing, fun _ => hbandwidth,
    fun _ => hlatency⟩

/-- The sample setup with a device of unknown volatility. -/
def unknownVolatilityRun : Option (List (Op × Outcome) × Fabric) :=
  execAll exec (new ⟨1⟩ ⟨1⟩)
    [.registerDevice { Synthetic.sampleDevice with volatility := .named .unknown }
        (Synthetic.context ⟨1⟩),
      .createPool Synthetic.samplePool (Synthetic.context ⟨1⟩),
      .createRegion Synthetic.sampleRegion (Synthetic.context ⟨1⟩)]

theorem unknownVolatilityRun_isSome : unknownVolatilityRun.isSome = true := by decide

theorem unknownVolatilityRun_selects :
    ¬∀ (tr : List (Op × Outcome)) (f : Fabric), Run exec (new ⟨1⟩ ⟨1⟩) tr f →
      ∀ req, (f.select req).ok = true →
        ∀ dev, f.state.devices[(f.select req).chosen.device]? = some dev →
          MetByEvidence dev req := by
  intro hall
  have hrun := Run.of_execAll (Option.some_get unknownVolatilityRun_isSome).symm
  have hchosen : ((unknownVolatilityRun.get unknownVolatilityRun_isSome).2.select
      exactingRequest).ok = true ∧
      ∃ d ∈ (unknownVolatilityRun.get unknownVolatilityRun_isSome).2.state.devices[
        ((unknownVolatilityRun.get unknownVolatilityRun_isSome).2.select
          exactingRequest).chosen.device]?, d.volatility = .named .unknown := by
    decide +kernel
  obtain ⟨hok, dev, hdev, hunknown⟩ := hchosen
  have hmet := hall _ _ hrun exactingRequest hok dev hdev
  have hvolatile := hmet.volatility (by decide)
  rw [hunknown] at hvolatile
  exact absurd hvolatile (by decide)

/-- A grant respects the scope of its region and a required accelerator path exactly when
the leading triple does, wherever it is one that a reserve books. -/
theorem constraints_enforced_iff {epoch : CoordinatorEpoch} {policy : PolicyGeneration}
    {tr : List (Op × Outcome)} (hrun : Run exec (new epoch policy) tr f)
    (hkeyed : ∀ e ∈ tr, e.1.ImportsKeyed) (req : AdmissionRequest) :
    (∀ ctx f' o, f.reserve req ctx = some (f', o) → o.ok = true →
      ∀ region dev, f.state.regions[o.reservation.region]? = some region →
        f.state.devices[o.reservation.device]? = some dev → ConstraintsMet region dev req) ↔
    (req.bytes ≠ 0 → f.state.reservations.size < maxReservations →
      ∀ pool region dev, f.Leads req pool region dev → req.bytes ≤ poolFree pool →
        ConstraintsMet region dev req) := by
  have hk := recordsKeyed_of_run hrun hkeyed
  constructor
  · intro hgrants hbytes hsize pool region dev hleads hfits
    have hepoch : f.Authorized { coordinatorEpoch := f.state.coordinatorEpoch } := rfl
    have hres := hleads.reserve hk hepoch hbytes
    rw [if_neg (UInt64.not_lt.mpr hfits), if_neg (Nat.not_le.mpr hsize)] at hres
    exact hgrants _ _ _ hres rfl region dev (hleads.regionRecord hk) (hleads.deviceRecord hk)
  · intro hmet ctx f' o hres hok region dev hregion hdev
    obtain ⟨pool', region', dev', hleads, hr, hd, hbytes, hfits, hsize⟩ :=
      reserve_leads hk hres hok
    rw [hr] at hregion
    rw [hd] at hdev
    cases (hleads.regionRecord hk).symm.trans hregion
    cases (hleads.deviceRecord hk).symm.trans hdev
    exact hmet hbytes hsize pool' region dev hleads hfits

theorem constraints_enforced_iff_twoPoolRun :
    ∃ tr f, Run exec (new ⟨1⟩ ⟨1⟩) tr f ∧ (∀ e ∈ tr, e.1.ImportsKeyed) ∧
      ∃ f' o, f.reserve Synthetic.sampleRequest (Synthetic.context ⟨1⟩) = some (f', o) ∧
        o.ok = true ∧
        ∀ region dev, f.state.regions[o.reservation.region]? = some region →
          f.state.devices[o.reservation.device]? = some dev →
            ConstraintsMet region dev Synthetic.sampleRequest := by
  have hrun := twoPoolRun_run
  have hkeyed := twoPoolRun_importsKeyed
  have hgrant : ∃ r ∈ (twoPoolRun.get twoPoolRun_isSome).2.reserve Synthetic.sampleRequest
      (Synthetic.context ⟨1⟩), r.2.ok = true := by decide +kernel
  obtain ⟨⟨f', o⟩, hres, hok⟩ := hgrant
  refine ⟨_, _, hrun, hkeyed, f', o, hres, hok, ?_⟩
  refine (constraints_enforced_iff hrun hkeyed Synthetic.sampleRequest).mpr ?_ _ _ _ hres hok
  have hscope : ∀ r ∈ ((twoPoolRun.get twoPoolRun_isSome).2.select
      Synthetic.sampleRequest).chosen.regionRecord, r.consumerScope.empty = true := by
    decide +kernel
  intro _ _ pool region dev hleads _
  refine ⟨Or.inl (hscope region ?_), ?_⟩
  · rw [hleads.select.2]
    rfl
  · intro hpath
    exact absurd hpath (by decide)

/-- The sample setup with a region that only `other` may use. -/
def scopedRun : Option (List (Op × Outcome) × Fabric) :=
  execAll exec (new ⟨1⟩ ⟨1⟩)
    [.registerDevice Synthetic.sampleDevice (Synthetic.context ⟨1⟩),
      .createPool Synthetic.samplePool (Synthetic.context ⟨1⟩),
      .createRegion { Synthetic.sampleRegion with consumerScope := ⟨str "other"⟩ }
        (Synthetic.context ⟨1⟩)]

theorem scopedRun_isSome : scopedRun.isSome = true := by decide

theorem scopedRun_grants :
    ¬∀ (tr : List (Op × Outcome)) (f : Fabric), Run exec (new ⟨1⟩ ⟨1⟩) tr f →
      ∀ req ctx f' o, f.reserve req ctx = some (f', o) → o.ok = true →
        ∀ region dev, f.state.regions[o.reservation.region]? = some region →
          f.state.devices[o.reservation.device]? = some dev → ConstraintsMet region dev req := by
  intro hall
  have hrun := Run.of_execAll (Option.some_get scopedRun_isSome).symm
  have hgrant : ∃ r ∈ (scopedRun.get scopedRun_isSome).2.reserve Synthetic.sampleRequest
      (Synthetic.context ⟨1⟩), r.2.ok = true ∧
      (∃ region ∈ (scopedRun.get scopedRun_isSome).2.state.regions[r.2.reservation.region]?,
        region.consumerScope.empty = false ∧
          region.consumerScope ≠ Synthetic.sampleRequest.consumer) ∧
      ((scopedRun.get scopedRun_isSome).2.state.devices[r.2.reservation.device]?).isSome := by
    decide +kernel
  obtain ⟨⟨f', o⟩, hres, hok, ⟨region, hregion, hnonempty, hother⟩, hdev⟩ := hgrant
  obtain ⟨dev, hdev⟩ := Option.isSome_iff_exists.mp hdev
  have hmet := hall _ _ hrun _ _ f' o hres hok region dev hregion hdev
  rcases hmet.scope with hempty | hsame
  · rw [hnonempty] at hempty
    cases hempty
  · exact hother hsame

end Fabric

end CxlFabric
