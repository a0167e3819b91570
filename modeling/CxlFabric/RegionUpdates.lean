import CxlFabric.Conservation

/-! # Region updates against reservations

An update replaces a region record together with its counters by the caller's copy. A copy
taken before a booking loses that booking. The accounts survive an update that brings the
stored sum back, and no commit wraps the reserved counter while every record written covers
the reservations that can still be committed on it. -/
namespace CxlFabric

/-- The reservations on a region that a region at generation `gen` can still commit. -/
def onRegionSince (id : RegionId) (gen : RegionGeneration) (r : Reservation) : Bool :=
  onRegion id r && gen ≤ r.regionGeneration

section weights
variable {id : RegionId} {gen gen' : RegionGeneration} {r : Reservation}

theorem liveBytes_le (on : Reservation → Bool) (r : Reservation) :
    liveBytes on r ≤ r.bytes.toNat := by
  unfold liveBytes
  split
  · exact Nat.le_refl _
  · exact Nat.zero_le _

theorem onRegionSince_off (h : onRegion id r = false) : onRegionSince id gen r = false := by
  simp [onRegionSince, h]

theorem pendingBytes_since_le (h : gen ≤ gen') (r : Reservation) :
    pendingBytes (onRegionSince id gen') r ≤ pendingBytes (onRegionSince id gen) r := by
  have himp : gen' ≤ r.regionGeneration → gen ≤ r.regionGeneration := h.trans
  simp only [pendingBytes, onRegionSince, Bool.and_eq_true, decide_eq_true_eq]
  split
  · next hon => rw [if_pos ⟨⟨hon.1.1, himp hon.1.2⟩, hon.2⟩]
  · exact Nat.zero_le _

theorem pendingBytes_since_le_live (r : Reservation) :
    pendingBytes (onRegionSince id gen) r ≤ liveBytes (onRegion id) r := by
  refine le_trans ?_ (pendingBytes_le_liveBytes (onRegion id) r)
  simp only [pendingBytes, onRegionSince, Bool.and_eq_true, decide_eq_true_eq]
  split
  · next hon => rw [if_pos ⟨hon.1.1, hon.2⟩]
  · exact Nat.zero_le _

end weights

namespace Fabric

/-- The counters of each region hold exactly the bytes of its live reservations. -/
def RegionsBalanced (f : Fabric) : Prop :=
  ∀ (id : RegionId) (r : CxlRegion), f.state.regions[id]? = some r →
    r.reservedBytes.toNat + r.committedBytes.toNat =
      sumBy (liveBytes (onRegion id)) f.state.reservations

theorem regionsBalanced_iff_toList (f : Fabric) :
    (∀ e ∈ f.state.regions.toList, e.2.reservedBytes.toNat + e.2.committedBytes.toNat =
      sumBy (liveBytes (onRegion e.1)) f.state.reservations) ↔ f.RegionsBalanced := by
  simp only [RegionsBalanced, Prod.forall, Std.ExtTreeMap.mem_toList_iff_getElem?_eq_some]

instance (f : Fabric) : Decidable f.RegionsBalanced :=
  decidable_of_iff _ f.regionsBalanced_iff_toList

/-- The counters of a region fit a word together, hold its live reservations, and the
reserved one those that can still be committed. -/
structure RegionCovered (m : Map ReservationId Reservation) (id : RegionId) (r : CxlRegion) :
    Prop where
  fits : r.reservedBytes.toNat + r.committedBytes.toNat < 2 ^ 64
  covered : Covered r.reservedBytes.toNat r.committedBytes.toNat
    (sumBy (liveBytes (onRegion id)) m)
    (sumBy (pendingBytes (onRegionSince id r.generation)) m)

/-- A step that brings a new record of region `id` in brings one that covers what is
reserved on it. -/
def WritesCovered (id : RegionId) (f : Fabric) : Op → Prop
  | .updateRegion region ctx => region.id = id → f.Authorized ctx →
    (∃ old : CxlRegion, f.state.regions[id]? = some old ∧ old.generation ≤ region.generation) →
    RegionCovered f.state.reservations id region
  | .createRegion region _ => region.id = id → f.state.regions[id]? = none →
    RegionCovered f.state.reservations id region
  | .importPersisted st => ∀ r : CxlRegion, st.regions[id]? = some r →
    r.reservedBytes.toNat + r.committedBytes.toNat < 2 ^ 64
  | _ => True

variable {f f' : Fabric} {op : Op} {out : Outcome} {id : RegionId}

/-- A reservation that a commit accepts is covered by the reserved counter. -/
theorem RegionCovered.bytes_le {rid : ReservationId} {res : Reservation} {r : CxlRegion}
    (h : RegionCovered f.state.reservations id r) (hres : f.state.reservations[rid]? = some res)
    (hregion : res.region = id) (hstate : res.state = .reserved)
    (hgen : r.generation = res.regionGeneration) : res.bytes.toNat ≤ r.reservedBytes.toNat := by
  have hweight : pendingBytes (onRegionSince id r.generation) res = res.bytes.toNat := by
    simp [pendingBytes, onRegionSince, onRegion, hregion, hstate, hgen]
  have hle := le_sumBy (pendingBytes (onRegionSince id r.generation)) hres
  have := h.covered.pending_le
  omega

/-- A record with the same counters and a generation no smaller covers as much. -/
theorem RegionCovered.same_counters {m : Map ReservationId Reservation} {r r' : CxlRegion}
    (h : RegionCovered m id r) (hr : r'.reservedBytes = r.reservedBytes)
    (hc : r'.committedBytes = r.committedBytes) (hgen : r.generation ≤ r'.generation) :
    RegionCovered m id r' := by
  refine ⟨?_, ?_⟩
  · rw [hr, hc]
    exact h.fits
  · rw [hr, hc]
    exact h.covered.mono (Nat.le_refl _) (sumBy_mono (pendingBytes_since_le hgen) m)

/-- A change of the reservations elsewhere leaves the region covered. -/
theorem RegionCovered.replace_off {m : Map ReservationId Reservation} {r : CxlRegion}
    {rid : ReservationId} {res new : Reservation} (h : RegionCovered m id r)
    (hres : m[rid]? = some res) (hoff : onRegion id new = false) :
    RegionCovered (m.insert rid new) id r := by
  have hlive : liveBytes (onRegion id) new = 0 := liveBytes_off hoff
  have hpending : pendingBytes (onRegionSince id r.generation) new = 0 :=
    pendingBytes_off (onRegionSince_off hoff)
  refine ⟨h.fits, h.covered.mono (sumBy_replace_le _ hres ?_) (sumBy_replace_le _ hres ?_)⟩
  · rw [hlive]
    exact Nat.zero_le _
  · rw [hpending]
    exact Nat.zero_le _

theorem RegionCovered.insertIfNew_off {m : Map ReservationId Reservation} {r : CxlRegion}
    {rid : ReservationId} {new : Reservation} (h : RegionCovered m id r)
    (hoff : onRegion id new = false) : RegionCovered (m.insertIfNew rid new) id r := by
  have hlive := sumBy_insertIfNew_le (liveBytes (onRegion id)) m rid new
  have hpending := sumBy_insertIfNew_le (pendingBytes (onRegionSince id r.generation)) m rid new
  rw [liveBytes_off hoff, Nat.add_zero] at hlive
  rw [pendingBytes_off (onRegionSince_off hoff), Nat.add_zero] at hpending
  exact ⟨h.fits, h.covered.mono hlive hpending⟩

theorem RegionCovered.book {region : CxlRegion} {key : ReservationId} {res : Reservation}
    (h : RegionCovered f.state.reservations id region) (hn : res.bytes ≠ 0)
    (hfits : res.bytes ≤ regionFree region) :
    RegionCovered (f.state.reservations.insertIfNew key res) id
      { region with reservedBytes := region.reservedBytes + res.bytes } := by
  have hroom := regionFree_spec hn hfits h.fits
  have hcapacity := region.regionCapacityBytes.toNat_lt
  have hsum : (region.reservedBytes + res.bytes).toNat =
      region.reservedBytes.toNat + res.bytes.toNat := toNat_add_of_lt (by omega)
  refine ⟨?_, ?_⟩
  · change (region.reservedBytes + res.bytes).toNat + region.committedBytes.toNat < 2 ^ 64
    omega
  · dsimp only
    rw [hsum]
    refine h.covered.book ?_ ?_
    · exact (sumBy_insertIfNew_le _ _ key res).trans (Nat.add_le_add_left (liveBytes_le _ res) _)
    · refine (sumBy_insertIfNew_le _ _ key res).trans (Nat.add_le_add_left ?_ _)
      exact (pendingBytes_le_liveBytes _ res).trans (liveBytes_le _ res)

theorem RegionCovered.settle {rid : ReservationId} {res : Reservation} {region : CxlRegion}
    (h : RegionCovered f.state.reservations id region)
    (hres : f.state.reservations[rid]? = some res) (hregion : res.region = id)
    (hstate : res.state = .reserved) (hgen : region.generation = res.regionGeneration) :
    RegionCovered (f.state.reservations.insert rid (f.committedRecord res)) id { region with
      reservedBytes := region.reservedBytes - res.bytes
      committedBytes := region.committedBytes + res.bytes } := by
  have hcovered := h.bytes_le hres hregion hstate hgen
  have hfits := h.fits
  have hreserved : (region.reservedBytes - res.bytes).toNat =
      region.reservedBytes.toNat - res.bytes.toNat :=
    UInt64.toNat_sub_of_le _ _ (UInt64.le_iff_toNat_le.mpr hcovered)
  have hcommitted : (region.committedBytes + res.bytes).toNat =
      region.committedBytes.toNat + res.bytes.toNat := toNat_add_of_lt (by omega)
  have hlive : liveBytes (onRegion id) (f.committedRecord res) = liveBytes (onRegion id) res := by
    simp [liveBytes, onRegion, Reservation.live, committedRecord, hregion, hstate]
  have hpending : pendingBytes (onRegionSince id region.generation) (f.committedRecord res) =
      0 := by
    simp [pendingBytes, committedRecord]
  have hpending' : pendingBytes (onRegionSince id region.generation) res = res.bytes.toNat := by
    simp [pendingBytes, onRegionSince, onRegion, hregion, hstate, hgen]
  refine ⟨?_, ?_⟩
  · dsimp only
    omega
  · dsimp only
    rw [hreserved, hcommitted]
    have hsum := sumBy_insert_of_present (pendingBytes (onRegionSince id region.generation))
      (f.committedRecord res) hres
    rw [hpending, hpending'] at hsum
    exact h.covered.settle (sumBy_replace_le _ hres hlive.le) (by omega)

theorem RegionCovered.drain {rid : ReservationId} {res : Reservation} {region : CxlRegion}
    (h : RegionCovered f.state.reservations id region)
    (hres : f.state.reservations[rid]? = some res) (hregion : res.region = id)
    (hlive : res.live = true) :
    RegionCovered (f.state.reservations.insert rid (releasedRecord res)) id
      (drainRegion region res.bytes) := by
  have hnew : liveBytes (onRegion id) (releasedRecord res) = 0 := by
    simp [liveBytes, Reservation.live, releasedRecord]
  have hnew' : pendingBytes (onRegionSince id region.generation) (releasedRecord res) = 0 := by
    simp [pendingBytes, releasedRecord]
  have hold : liveBytes (onRegion id) res = res.bytes.toNat := by
    simp [liveBytes, onRegion, hregion, hlive]
  have hsum := sumBy_insert_of_present (liveBytes (onRegion id)) (releasedRecord res) hres
  rw [hnew, hold, Nat.add_zero] at hsum
  have hheld := h.covered.sum
  have hfits := h.fits
  obtain ⟨-, hcommitted, hreserved⟩ :=
    @drain_spec res.bytes region.committedBytes region.reservedBytes (by omega)
  have hpending := sumBy_replace_le (pendingBytes (onRegionSince id region.generation)) hres
    (hnew'.le.trans (Nat.zero_le _))
  have hle := sumBy_mono (@pendingBytes_since_le_live id region.generation)
    (f.state.reservations.insert rid (releasedRecord res))
  refine ⟨?_, ?_⟩
  · dsimp only [drainRegion]
    omega
  · dsimp only [drainRegion]
    rw [hcommitted, hreserved]
    exact h.covered.drain hsum hle hpending

/-- A step whose written records cover the region keeps it covered. -/
theorem RegionCovered.step (h : f.Effect op out f') (hwrites : WritesCovered id f op)
    (hold : ∀ r, f.state.regions[id]? = some r → RegionCovered f.state.reservations id r)
    {r' : CxlRegion} (hr' : f'.state.regions[id]? = some r') :
    RegionCovered f'.state.reservations id r' := by
  cases h with
  | @createRegion region ctx pool epoch named fresh owner members =>
    obtain ⟨hid, rfl⟩ | ⟨-, hr'⟩ := of_getElem?_insert hr'
    · exact hwrites hid (hid ▸ fresh)
    · exact hold r' hr'
  | @updateRegion region old ctx epoch present generation =>
    obtain ⟨hid, rfl⟩ | ⟨-, hr'⟩ := of_getElem?_insert hr'
    · exact hwrites hid epoch ⟨old, hid ▸ present, generation⟩
    · exact hold r' hr'
  | @reconfigureRegion rid ms old ctx epoch present next =>
    obtain ⟨rfl, rfl⟩ | ⟨-, hr'⟩ := of_getElem?_insert hr'
    · exact (hold old present).same_counters rfl rfl (Generation.lt_next next).le
    · exact hold r' hr'
  | @markRegionDraining rid old ctx epoch present valid =>
    obtain ⟨rfl, rfl⟩ | ⟨-, hr'⟩ := of_getElem?_insert hr'
    · exact (hold old present).same_counters rfl rfl (le_refl _)
    · exact hold r' hr'
  | @revalidateRegion rid old ctx epoch present valid =>
    obtain ⟨rfl, rfl⟩ | ⟨-, hr'⟩ := of_getElem?_insert hr'
    · exact (hold old present).same_counters rfl rfl (le_refl _)
    · exact hold r' hr'
  | @reserve req ctx c pool region dev epoch admission =>
    obtain ⟨rfl, rfl⟩ | ⟨hid, hr'⟩ := of_getElem?_insert hr'
    · exact (hold region admission.regionRecord).book admission.positive admission.regionFits
    · have hoff : onRegion id (f.newReservation req ctx c dev) = false := by
        simp [onRegion, newReservation, hid]
      exact (hold r' hr').insertIfNew_off hoff
  | @commit rid ctx res pool region dev guarded =>
    obtain ⟨hid, rfl⟩ | ⟨hid, hr'⟩ := of_getElem?_insert hr'
    · have hregion : f.state.regions[id]? = some region := hid ▸ guarded.regionRecord
      exact (hold region hregion).settle guarded.stored hid guarded.reserved
        guarded.regionGeneration
    · have hoff : onRegion id (f.committedRecord res) = false := by
        simp [onRegion, committedRecord, hid]
      exact (hold r' hr').replace_off guarded.stored hoff
  | @release rid ctx res guarded covered =>
    have hmap := f.free_reservations rid res
    change ((f.drainPoolOf res).drainRegionOf res).state.regions[id]? = some r' at hr'
    rw [drainRegionOf_regions, drainPoolOf_regions] at hr'
    rw [hmap]
    split at hr'
    · next hid =>
      obtain ⟨r, hr, rfl⟩ := Option.map_eq_some_iff.mp hr'
      exact (hold r hr).drain guarded.stored hid guarded.live_eq
    · next hid =>
      have hoff : onRegion id (releasedRecord res) = false := by
        simp [onRegion, releasedRecord, hid]
      exact (hold r' hr').replace_off guarded.stored hoff
  | @conflict rid ctx res guarded uncovered =>
    rw [drainPoolOf_regions] at hr'
    rw [drainPoolOf_reservations]
    exact hold r' hr'
  | importPersisted st =>
    rw [importPersisted_regions] at hr'
    obtain ⟨r, hr, rfl⟩ := Option.map_eq_some_iff.mp hr'
    refine ⟨hwrites r hr, ?_⟩
    have hempty (w : Reservation → ℕ) : sumBy w (f.importPersisted st).state.reservations = 0 :=
      sumBy_empty w
    rw [hempty, hempty]
    exact ⟨Nat.zero_le _, Nat.zero_le _⟩
  | _ => exact hold r' hr'

/-- An accepted update writes the caller's record. -/
theorem update_ok {region : CxlRegion} {ctx : AuthorityContext}
    (hexec : f.exec (.updateRegion region ctx) = some (f', out)) (hok : out.success = true) :
    f' = f.setRegion region.id region := by
  have heffect := exec_effect hexec
  cases heffect with
  | refused fallible failed => simp [failed] at hok
  | updateRegion => rfl

theorem update_balanced_iff {region old : CxlRegion} (hbalanced : f.RegionsBalanced)
    (hold : f.state.regions[region.id]? = some old) :
    (f.setRegion region.id region).RegionsBalanced ↔
      region.reservedBytes.toNat + region.committedBytes.toNat =
        old.reservedBytes.toNat + old.committedBytes.toNat := by
  have hsum := hbalanced region.id old hold
  constructor
  · intro h
    have hnew := h region.id region
      (by rw [setRegion_state_regions, getElem?_insert_eq, if_pos rfl])
    rw [hsum]
    exact hnew
  · intro h id r hr
    obtain ⟨hid, rfl⟩ | ⟨-, hr⟩ := of_getElem?_insert hr
    · rw [h, hsum, hid]
      rfl
    · exact hbalanced id r hr

/-- An update keeps the accounts exactly when it brings the stored sum back. If the record
it writes covers the reservations on the region, and so does every later one, no commit on
the region wraps its reserved counter. -/
theorem region_updates_keep_accounts {region old : CxlRegion} {ctx : AuthorityContext}
    (hbalanced : f.RegionsBalanced) (hexec : f.exec (.updateRegion region ctx) = some (f', out))
    (hok : out.success = true) (hold : f.state.regions[region.id]? = some old) :
    (f'.RegionsBalanced ↔ region.reservedBytes.toNat + region.committedBytes.toNat =
      old.reservedBytes.toNat + old.committedBytes.toNat) ∧
    (RegionCovered f.state.reservations region.id region →
      ∀ (tr : List (Op × Outcome)) (g : Fabric),
        GuardedRun exec (WritesCovered region.id) f' tr g →
        ∀ (rid : ReservationId) (cctx : AuthorityContext) (res : Reservation),
          (g.commit rid cctx).2.ok = true → g.state.reservations[rid]? = some res →
          res.region = region.id → ∃ r : CxlRegion, g.state.regions[region.id]? = some r ∧
            res.bytes.toNat ≤ r.reservedBytes.toNat) := by
  obtain rfl := update_ok hexec hok
  refine ⟨update_balanced_iff hbalanced hold, ?_⟩
  intro hcovered tr g hrun rid cctx res hcommit hres hregion
  have hinit : ∀ r, (f.setRegion region.id region).state.regions[region.id]? = some r →
      RegionCovered (f.setRegion region.id region).state.reservations region.id r := by
    intro r hr
    rw [setRegion_state_regions, getElem?_insert_eq, if_pos rfl] at hr
    cases hr
    exact hcovered
  have hall : ∀ r, g.state.regions[region.id]? = some r →
      RegionCovered g.state.reservations region.id r := by
    refine hrun.keeps (I := fun g => ∀ r, g.state.regions[region.id]? = some r →
      RegionCovered g.state.reservations region.id r) ?_ hinit
    intro s op out s' hwrites hs hstep r hr
    exact RegionCovered.step (exec_effect hstep) hwrites hs hr
  have heffect := g.commit_effect rid cctx
  generalize (g.commit rid cctx).1 = g', (g.commit rid cctx).2 = o at heffect hcommit
  cases heffect with
  | refused fallible failed => simp [hcommit] at failed
  | @commit _ _ res' pool r dev guarded =>
    cases guarded.stored.symm.trans hres
    have hr : g.state.regions[region.id]? = some r := hregion ▸ guarded.regionRecord
    exact ⟨r, hr, (hall r hr).bytes_le hres hregion guarded.reserved guarded.regionGeneration⟩

/-- The sample region as it was created, with other reserved bytes. -/
def regionCopy (reserved : ByteCount) : CxlRegion :=
  { Synthetic.sampleRegion with reservedBytes := reserved }

/-- A copy taken after the reserve can be written back. -/
theorem region_updates_keep_accounts_regionCopy : ∃ tr f, Run exec (new ⟨1⟩ ⟨1⟩) tr f ∧
    (f.updateRegion (regionCopy Synthetic.sampleRequest.bytes) (Synthetic.context ⟨1⟩)).2 = .ok ∧
    (f.updateRegion (regionCopy Synthetic.sampleRequest.bytes)
      (Synthetic.context ⟨1⟩)).1.RegionsBalanced ∧
    ∃ r : CxlRegion, (f.updateRegion (regionCopy Synthetic.sampleRequest.bytes)
      (Synthetic.context ⟨1⟩)).1.state.regions[(⟨str "r1"⟩ : RegionId)]? = some r ∧
      4 * 2 ^ 30 ≤ r.reservedBytes.toNat := by
  obtain ⟨tr, f, hrun, hbalanced, hok, ⟨old, hold, hsum⟩, hlive, hpending, res, hres, hcommit, hregion,
      hbytes⟩ :
      ∃ tr f, Run exec (new ⟨1⟩ ⟨1⟩) tr f ∧ f.RegionsBalanced ∧
        (f.updateRegion (regionCopy Synthetic.sampleRequest.bytes) (Synthetic.context ⟨1⟩)).2 = .ok ∧
        (∃ old ∈ f.state.regions[(⟨str "r1"⟩ : RegionId)]?,
          4 * 2 ^ 30 = old.reservedBytes.toNat + old.committedBytes.toNat) ∧
        sumBy (liveBytes (onRegion ⟨str "r1"⟩)) f.state.reservations ≤ 4 * 2 ^ 30 ∧
        sumBy (pendingBytes (onRegionSince ⟨str "r1"⟩ ⟨1⟩)) f.state.reservations ≤ 4 * 2 ^ 30 ∧
        ∃ res ∈ (f.updateRegion (regionCopy Synthetic.sampleRequest.bytes)
            (Synthetic.context ⟨1⟩)).1.state.reservations[reservationId 1]?,
          ((f.updateRegion (regionCopy Synthetic.sampleRequest.bytes)
            (Synthetic.context ⟨1⟩)).1.commit (reservationId 1) (Synthetic.context ⟨1⟩)).2.ok = true ∧
          res.region = ⟨str "r1"⟩ ∧ res.bytes.toNat = 4 * 2 ^ 30 := by
    apply Run.exists_of_execAll (l := Synthetic.setup ⟨1⟩ ++
      [.reserve Synthetic.sampleRequest (Synthetic.context ⟨1⟩)])
    decide +kernel
  have hexec : f.exec (.updateRegion (regionCopy Synthetic.sampleRequest.bytes)
      (Synthetic.context ⟨1⟩)) = some (_, .decision _) := rfl
  obtain ⟨hiff, hlater⟩ := region_updates_keep_accounts hbalanced hexec (by simpa using hok) hold
  have hcovered : RegionCovered f.state.reservations ⟨str "r1"⟩
      (regionCopy Synthetic.sampleRequest.bytes) := ⟨by decide, hlive, hpending⟩
  obtain ⟨r, hr, hle⟩ := hlater hcovered [] _ (.nil _) _ _ res hcommit hres hregion
  exact ⟨tr, f, hrun, hok, hiff.mpr hsum, r, hr, hbytes ▸ hle⟩

/-- The copy that the region was created from loses a reserve, and the commit wraps. -/
theorem stale_region_update_wraps : ∃ tr f, Run exec (new ⟨1⟩ ⟨1⟩) tr f ∧ f.RegionsBalanced ∧
    (f.updateRegion (regionCopy 0) (Synthetic.context ⟨1⟩)).2 = .ok ∧
    ¬(f.updateRegion (regionCopy 0) (Synthetic.context ⟨1⟩)).1.RegionsBalanced ∧
    ((f.updateRegion (regionCopy 0) (Synthetic.context ⟨1⟩)).1.commit (reservationId 1)
      (Synthetic.context ⟨1⟩)).2.ok = true ∧
    ∃ r ∈ ((f.updateRegion (regionCopy 0) (Synthetic.context ⟨1⟩)).1.commit (reservationId 1)
      (Synthetic.context ⟨1⟩)).1.state.regions[(⟨str "r1"⟩ : RegionId)]?,
      r.reservedBytes.toNat = 2 ^ 64 - 4 * 2 ^ 30 := by
  apply Run.exists_of_execAll (l := Synthetic.setup ⟨1⟩ ++
    [.reserve Synthetic.sampleRequest (Synthetic.context ⟨1⟩)])
  decide +kernel

end Fabric

end CxlFabric
