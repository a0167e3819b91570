import CxlFabric.Eligibility
import CxlFabric.Fencing

/-! # The evidence behind a commit

A reserve needs an ONLINE device and current evidence of device and region; a commit looks
at neither again. So what a commit relies on is what the operations since the reserve have
left: a monitor of the trace follows the freshness of a device and of a region. -/
namespace CxlFabric
namespace Fabric

/-- The device is ONLINE with current evidence. -/
def deviceFresh (f : Fabric) (d : DeviceId) : Bool := f.state.devices[d]?.any deviceAdmits

def regionCurrent (f : Fabric) (id : RegionId) : Bool :=
  f.state.regions[id]?.any (·.evidenceCurrent)

/-- How an operation that returned OK leaves device `d`. -/
def deviceEvidence (d : DeviceId) (fresh : Bool) : Op × Outcome → Bool
  | (.registerDevice dev _, out) => if out.success ∧ dev.id = d then deviceAdmits dev else fresh
  | (.markDeviceRevalidation id _, out) => if out.success ∧ id = d then false else fresh
  | (.markDeviceOnline id _, out) => if out.success ∧ id = d then true else fresh
  | _ => fresh

/-- How an operation that returned OK leaves the evidence of region `id`. -/
def regionEvidence (id : RegionId) (current : Bool) : Op × Outcome → Bool
  | (.createRegion region _, out) | (.updateRegion region _, out) =>
    if out.success ∧ region.id = id then region.evidenceCurrent else current
  | (.reconfigureRegion rid _ _, out) => if out.success ∧ rid = id then false else current
  | (.revalidateRegion rid _, out) => if out.success ∧ rid = id then true else current
  | _ => current

/-- The operations of the trace leave the device of a reservation fresh and the evidence of
its region current, if both were so before. -/
def LeftFresh (r : Reservation) (tr : List (Op × Outcome)) : Prop :=
  tr.foldl (deviceEvidence r.device) true = true ∧ tr.foldl (regionEvidence r.region) true = true

variable {f f' : Fabric} {op : Op} {out : Outcome}

theorem deviceEvidence_refused (h : out.success = false) (d : DeviceId) (fresh : Bool) :
    deviceEvidence d fresh (op, out) = fresh := by
  cases op with
  | _ => simp [deviceEvidence, h]

theorem regionEvidence_refused (h : out.success = false) (id : RegionId) (current : Bool) :
    regionEvidence id current (op, out) = current := by
  cases op with
  | _ => simp [regionEvidence, h]

theorem deviceFresh_setDevice (f : Fabric) (id d : DeviceId) (dev : CxlDevice) :
    (f.setDevice id dev).deviceFresh d = if id = d then deviceAdmits dev else f.deviceFresh d := by
  rw [deviceFresh, setDevice_state_devices, getElem?_insert_eq]
  split
  · rfl
  · rfl

theorem regionCurrent_insert (regions : Map RegionId CxlRegion) (rid id : RegionId)
    (r : CxlRegion) :
    (regions.insert rid r)[id]?.any (·.evidenceCurrent) =
      if rid = id then r.evidenceCurrent else regions[id]?.any (·.evidenceCurrent) := by
  rw [getElem?_insert_eq]
  split
  · rfl
  · rfl

theorem Effect.deviceFresh_eq (h : f.Effect op out f') (himport : ∀ st, op ≠ .importPersisted st)
    (d : DeviceId) : f'.deviceFresh d = deviceEvidence d (f.deviceFresh d) (op, out) := by
  cases h with
  | refused fallible failed => rw [deviceEvidence_refused failed]
  | registerDevice | markDeviceRevalidation | markDeviceOnline =>
    rw [deviceFresh_setDevice]
    simp [deviceEvidence, deviceAdmits]
  | release guarded covered => simp [deviceFresh, deviceEvidence, free]
  | conflict guarded uncovered => simp [deviceFresh, deviceEvidence]
  | importPersisted st => exact absurd rfl (himport st)
  | _ => rfl

/-- Writing a region with the evidence it has. -/
theorem regionCurrent_rewrite {rid id : RegionId} {old r : CxlRegion}
    (hold : f.state.regions[rid]? = some old) (hsame : r.evidenceCurrent = old.evidenceCurrent) :
    (f.state.regions.insert rid r)[id]?.any (·.evidenceCurrent) = f.regionCurrent id := by
  rw [regionCurrent_insert, hsame]
  split
  · next hid => rw [← hid, regionCurrent, hold, Option.any_some]
  · rfl

theorem Effect.regionCurrent_eq (h : f.Effect op out f')
    (himport : ∀ st, op ≠ .importPersisted st) (id : RegionId) :
    f'.regionCurrent id = regionEvidence id (f.regionCurrent id) (op, out) := by
  cases h with
  | refused fallible failed => rw [regionEvidence_refused failed]
  | createRegion | updateRegion | reconfigureRegion | revalidateRegion =>
    rw [regionCurrent, setRegion_state_regions, regionCurrent_insert]
    simp [regionEvidence, regionCurrent]
  | markRegionDraining epoch present valid => exact regionCurrent_rewrite present rfl
  | reserve epoch admission => exact regionCurrent_rewrite admission.regionRecord rfl
  | commit guarded => exact regionCurrent_rewrite guarded.regionRecord rfl
  | @release rid ctx res guarded covered =>
    change ((f.drainPoolOf res).drainRegionOf res).state.regions[id]?.any _ = f.regionCurrent id
    rw [drainRegionOf_regions, drainPoolOf_regions]
    split
    · rw [Option.any_map]
      rfl
    · rfl
  | conflict guarded uncovered => simp [regionCurrent, regionEvidence]
  | importPersisted st => exact absurd rfl (himport st)
  | _ => rfl

/-- The reserve that a stored record comes from, and what has become of its device and its
region since. -/
def Traced (tr : List (Op × Outcome)) (f : Fabric) (id : ReservationId) (r : Reservation) : Prop :=
  ∃ tr₁ req ctx o tr₂, tr = tr₁ ++ (.reserve req ctx, .reservation o) :: tr₂ ∧ o.ok = true ∧
    o.reservation.id = id ∧ SameAuthority o.reservation r ∧
    f.deviceFresh r.device = tr₂.foldl (deviceEvidence r.device) true ∧
    f.regionCurrent r.region = tr₂.foldl (regionEvidence r.region) true

theorem Traced.step {tr : List (Op × Outcome)} {id : ReservationId} {r r' : Reservation}
    (ht : Traced tr f id r) (h : f.Effect op out f') (himport : ∀ st, op ≠ .importPersisted st)
    (hsame : SameAuthority r r') : Traced (tr ++ [(op, out)]) f' id r' := by
  obtain ⟨tr₁, req, ctx, o, tr₂, rfl, hok, hid, horigin, hdevice, hregion⟩ := ht
  refine ⟨tr₁, req, ctx, o, tr₂ ++ [(op, out)], by simp, hok, hid, horigin.trans hsame, ?_, ?_⟩
  · rw [h.deviceFresh_eq himport, hsame.device, hdevice, List.foldl_append]
    rfl
  · rw [h.regionCurrent_eq himport, hsame.region, hregion, List.foldl_append]
    rfl

/-- A reserve starts on a fresh device and current evidence. -/
theorem Traced.reserved {tr : List (Op × Outcome)} {req : AdmissionRequest}
    {ctx : AuthorityContext} {c : Candidate} {pool : CxlPool} {region : CxlRegion}
    {dev : CxlDevice} (hk : RecordsKeyed f) (admission : f.Admission req c pool region dev)
    (h : f.Effect (.reserve req ctx)
      (.reservation { ok := true, reservation := f.newReservation req ctx c dev }) f') :
    Traced (tr ++ [(.reserve req ctx,
        .reservation { ok := true, reservation := f.newReservation req ctx c dev })])
      f' (reservationId (f.sequence + 1)) (f.newReservation req ctx c dev) := by
  obtain ⟨-, hregion, hdevice, -⟩ := admission.admits hk
  simp only [regionAdmits, Bool.and_eq_true] at hregion
  refine ⟨tr, req, ctx, _, [], rfl, rfl, rfl, .refl _, ?_, ?_⟩
  · rw [h.deviceFresh_eq (by simp)]
    change f.state.devices[c.device]?.any deviceAdmits = true
    rw [admission.deviceRecord, Option.any_some, hdevice]
  · rw [h.regionCurrent_eq (by simp)]
    change f.state.regions[c.region]?.any (·.evidenceCurrent) = true
    rw [admission.regionRecord, Option.any_some, hregion.1.2]

theorem traced_of_run {epoch : CoordinatorEpoch} {policy : PolicyGeneration}
    {tr : List (Op × Outcome)} (hrun : Run exec (new epoch policy) tr f)
    (hkeyed : ∀ e ∈ tr, e.1.ImportsKeyed) {id : ReservationId} {r : Reservation}
    (hr : f.state.reservations[id]? = some r) : Traced tr f id r := by
  have hboth := hrun.invariant_trace
    (I := fun tr f => RecordsKeyed f ∧ ∀ (id : ReservationId) (r : Reservation),
      f.state.reservations[id]? = some r → Traced tr f id r)
    (A := fun tr => ∀ e ∈ tr, e.1.ImportsKeyed) ?_ ?_ hkeyed ⟨recordsKeyed_new epoch policy, ?_⟩
  · exact hboth.2 id r hr
  · intro tr e h a ha
    exact h a (by simp [ha])
  · rintro tr s op out s' hok ⟨hk, hs⟩ hexec
    have heffect := exec_effect hexec
    refine ⟨hk.step heffect (hok (op, out) (by simp)), ?_⟩
    intro id r' hr'
    obtain ⟨r, hr, hsame, himport⟩ |
        ⟨req, ctx, c, pool, region, dev, rfl, admission, rfl, rfl, rfl⟩ :=
      heffect.authority_origin hr'
    · exact (hs id r hr).step heffect himport hsame
    · exact Traced.reserved hk admission heffect
  · intro id r hr
    rw [new_reservations] at hr
    cases hr

/-- A commit relies on fresh evidence exactly when the last operation since the reserve that
wrote the state of the device, and the last one that wrote the evidence of the region, left
them fresh. -/
theorem commit_fresh_iff {epoch : CoordinatorEpoch} {policy : PolicyGeneration}
    {tr : List (Op × Outcome)} (hrun : Run exec (new epoch policy) tr f)
    (hkeyed : ∀ e ∈ tr, e.1.ImportsKeyed) {id : ReservationId} {ctx : AuthorityContext}
    (hok : (f.commit id ctx).2.ok = true) :
    ∃ tr₁ req rctx o tr₂, tr = tr₁ ++ (.reserve req rctx, .reservation o) :: tr₂ ∧ o.ok = true ∧
      o.reservation.id = id ∧
      (∃ X, f.state.reservations[id]? = some X ∧ SameAuthority o.reservation X) ∧
      (f.deviceFresh o.reservation.device = true ∧ f.regionCurrent o.reservation.region = true ↔
        LeftFresh o.reservation tr₂) := by
  obtain ⟨X, pool, region, dev, hguard⟩ := commit_ok hok
  obtain ⟨tr₁, req, rctx, o, tr₂, htr, hreserved, hid, hsame, hdevice, hregion⟩ :=
    traced_of_run hrun hkeyed hguard.stored
  refine ⟨tr₁, req, rctx, o, tr₂, htr, hreserved, hid, ⟨X, hguard.stored, hsame⟩, ?_⟩
  rw [← hsame.device, ← hsame.region, hdevice, hregion, hsame.device, hsame.region]
  exact Iff.rfl

/-- The device of the reservation is in doubt for a while, and online again at the commit. -/
def deviceBack : List Op :=
  Synthetic.setup ⟨1⟩ ++ [.reserve Synthetic.sampleRequest (Synthetic.context ⟨1⟩),
    .markDeviceRevalidation ⟨str "d1"⟩ (Synthetic.context ⟨1⟩),
    .markDeviceOnline ⟨str "d1"⟩ (Synthetic.context ⟨1⟩)]

theorem commit_fresh_deviceBack : ∃ tr f, Run exec (new ⟨1⟩ ⟨1⟩) tr f ∧
    (∀ e ∈ tr, e.1.ImportsKeyed) ∧
    (f.commit (reservationId 1) (Synthetic.context ⟨1⟩)).2.ok = true ∧
    ∃ X, f.state.reservations[reservationId 1]? = some X ∧
      f.deviceFresh X.device = true ∧ f.regionCurrent X.region = true := by
  obtain ⟨tr, f, hrun, hok, hops, X, hX, hfresh⟩ : ∃ tr f, Run exec (new ⟨1⟩ ⟨1⟩) tr f ∧
      (f.commit (reservationId 1) (Synthetic.context ⟨1⟩)).2.ok = true ∧
      (∀ e ∈ tr, e.1.authority ≠ none) ∧
      ∃ X ∈ f.state.reservations[reservationId 1]?, ∀ t ∈ tr.tails,
        t.foldl (deviceEvidence X.device) true = true ∧
        t.foldl (regionEvidence X.region) true = true := by
    apply Run.exists_of_execAll (l := deviceBack)
    decide +kernel
  have hkeyed : ∀ e ∈ tr, e.1.ImportsKeyed :=
    fun e he => Op.importsKeyed_of_authority (hops e he)
  obtain ⟨tr₁, req, rctx, o, tr₂, htr, -, -, ⟨X', hX', hsame⟩, hiff⟩ :=
    commit_fresh_iff hrun hkeyed hok
  cases hX.symm.trans hX'
  have hsuffix : tr₂ ∈ tr.tails := by
    rw [List.mem_tails, htr]
    exact (List.suffix_cons _ tr₂).trans (List.suffix_append tr₁ _)
  have hleft : LeftFresh o.reservation tr₂ := by
    rw [LeftFresh, ← hsame.device, ← hsame.region]
    exact hfresh tr₂ hsuffix
  refine ⟨tr, f, hrun, hkeyed, hok, X, hX, ?_⟩
  rw [hsame.device, hsame.region]
  exact hiff.mpr hleft

/-- The sample device as failed, at the generation it has. -/
def failedSampleDevice : CxlDevice := { Synthetic.sampleDevice with state := .named .failed }

/-- The sample region with the bytes it has reserved, on evidence that is no longer current. -/
def staleRegion : CxlRegion :=
  { Synthetic.sampleRegion with
    reservedBytes := Synthetic.sampleRequest.bytes, evidenceCurrent := false }

/-- A reservation is committed while its device needs revalidation, after its device has
registered as failed, and on a region whose evidence is no longer current. -/
theorem stale_evidence_commits : ∃ tr f, Run exec (new ⟨1⟩ ⟨1⟩) tr f ∧
    ∃ X ∈ f.state.reservations[reservationId 1]?,
      ((f.markDeviceRevalidation X.device (Synthetic.context ⟨1⟩)).1.deviceFresh X.device = false ∧
        ((f.markDeviceRevalidation X.device (Synthetic.context ⟨1⟩)).1.commit (reservationId 1)
          (Synthetic.context ⟨1⟩)).2.ok = true) ∧
      (failedSampleDevice.id = X.device ∧ failedSampleDevice.generation = X.deviceGeneration ∧
        (f.registerDevice failedSampleDevice (Synthetic.context ⟨1⟩)).1.deviceFresh X.device =
          false ∧
        ((f.registerDevice failedSampleDevice (Synthetic.context ⟨1⟩)).1.commit (reservationId 1)
          (Synthetic.context ⟨1⟩)).2.ok = true) ∧
      staleRegion.id = X.region ∧
      (f.updateRegion staleRegion (Synthetic.context ⟨1⟩)).1.regionCurrent X.region = false ∧
      ((f.updateRegion staleRegion (Synthetic.context ⟨1⟩)).1.commit (reservationId 1)
        (Synthetic.context ⟨1⟩)).2.ok = true := by
  apply Run.exists_of_execAll (l := Synthetic.setup ⟨1⟩ ++
    [.reserve Synthetic.sampleRequest (Synthetic.context ⟨1⟩)])
  decide +kernel

end Fabric

end CxlFabric
