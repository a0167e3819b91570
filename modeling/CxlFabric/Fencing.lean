import CxlFabric.Reservations
import CxlFabric.Synthetic

/-! # Fencing is permanent

A reservation is bound to the generations and the epoch that were current when it was
made. No step moves a generation back while the reservation exists, and a dropped
identity is never issued again, so a reservation that cannot be committed once stays so. -/
namespace CxlFabric
namespace Fabric
variable {f f' : Fabric} {op : Op} {out : Outcome}

theorem Effect.pool_generation_le (h : f.Effect op out f')
    (himport : ∀ st, op ≠ .importPersisted st) {id : PoolId} {p : CxlPool}
    (hp : f.state.pools[id]? = some p) :
    ∃ p', f'.state.pools[id]? = some p' ∧ p.generation ≤ p'.generation := by
  have hchange := h.pool id
  rw [hp] at hchange
  generalize f'.state.pools[id]? = new at hchange
  cases hchange with
  | same => exact ⟨p, rfl, le_refl _⟩
  | added => exact ⟨_, rfl, Generation.le_next_or_self p.generation⟩
  | removed => exact ⟨_, rfl, Generation.le_next_or_self p.generation⟩
  | @imported st => exact absurd rfl (himport st)
  | _ => exact ⟨_, rfl, le_refl _⟩

theorem Effect.region_generation_le (h : f.Effect op out f')
    (himport : ∀ st, op ≠ .importPersisted st) {id : RegionId} {r : CxlRegion}
    (hr : f.state.regions[id]? = some r) :
    ∃ r', f'.state.regions[id]? = some r' ∧ r.generation ≤ r'.generation := by
  have hchange := h.region id
  rw [hr] at hchange
  generalize f'.state.regions[id]? = new at hchange
  cases hchange with
  | same => exact ⟨r, rfl, le_refl _⟩
  | updated key generation => exact ⟨_, rfl, generation⟩
  | reconfigured next ok => exact ⟨_, rfl, (Generation.lt_next next).le⟩
  | @imported st => exact absurd rfl (himport st)
  | _ => exact ⟨_, rfl, le_refl _⟩

theorem Effect.device_generation_le (h : f.Effect op out f')
    (himport : ∀ st, op ≠ .importPersisted st) {id : DeviceId} {d : CxlDevice}
    (hd : f.state.devices[id]? = some d) :
    ∃ d', f'.state.devices[id]? = some d' ∧ d.generation ≤ d'.generation := by
  have hchange := h.device id
  rw [hd] at hchange
  generalize f'.state.devices[id]? = new at hchange
  cases hchange with
  | same => exact ⟨d, rfl, le_refl _⟩
  | registered key supersedes =>
    obtain ⟨heq, -⟩ | ⟨hlt, -⟩ := supersedes d rfl
    · exact ⟨_, rfl, heq.le⟩
    · exact ⟨_, rfl, hlt.le⟩
  | @imported st => exact absurd rfl (himport st)
  | _ => exact ⟨_, rfl, le_refl _⟩

/-- The records a reservation names are there, at its generations or later ones. -/
structure Anchored (f : Fabric) (r : Reservation) : Prop where
  pool : ∃ p, f.state.pools[r.pool]? = some p ∧ r.poolGeneration ≤ p.generation
  region : ∃ g, f.state.regions[r.region]? = some g ∧ r.regionGeneration ≤ g.generation
  device : ∃ d, f.state.devices[r.device]? = some d ∧ r.deviceGeneration ≤ d.generation

/-- Some record a reservation names is not there at the recorded generation. -/
def GenerationMoved (f : Fabric) (r : Reservation) : Prop :=
  f.state.pools[r.pool]?.map (·.generation) ≠ some r.poolGeneration ∨
  f.state.regions[r.region]?.map (·.generation) ≠ some r.regionGeneration ∨
  f.state.devices[r.device]?.map (·.generation) ≠ some r.deviceGeneration

instance (f : Fabric) (r : Reservation) : Decidable (GenerationMoved f r) :=
  inferInstanceAs (Decidable (_ ∨ _ ∨ _))

/-- The part of a reservation that is fixed when it is made. -/
structure SameAuthority (r r' : Reservation) : Prop where
  pool : r'.pool = r.pool
  poolGeneration : r'.poolGeneration = r.poolGeneration
  region : r'.region = r.region
  regionGeneration : r'.regionGeneration = r.regionGeneration
  device : r'.device = r.device
  deviceGeneration : r'.deviceGeneration = r.deviceGeneration
  createdEpoch : r'.createdEpoch = r.createdEpoch
  workerBootId : r'.workerBootId = r.workerBootId

theorem SameAuthority.refl (r : Reservation) : SameAuthority r r :=
  ⟨rfl, rfl, rfl, rfl, rfl, rfl, rfl, rfl⟩

theorem sameAuthority_committedRecord (f : Fabric) (r : Reservation) :
    SameAuthority r (f.committedRecord r) := ⟨rfl, rfl, rfl, rfl, rfl, rfl, rfl, rfl⟩

theorem sameAuthority_releasedRecord (r : Reservation) : SameAuthority r (releasedRecord r) :=
  ⟨rfl, rfl, rfl, rfl, rfl, rfl, rfl, rfl⟩

theorem SameAuthority.trans {r r' r'' : Reservation} (h : SameAuthority r r')
    (h' : SameAuthority r' r'') : SameAuthority r r'' :=
  ⟨h'.pool.trans h.pool, h'.poolGeneration.trans h.poolGeneration, h'.region.trans h.region,
    h'.regionGeneration.trans h.regionGeneration, h'.device.trans h.device,
    h'.deviceGeneration.trans h.deviceGeneration, h'.createdEpoch.trans h.createdEpoch,
    h'.workerBootId.trans h.workerBootId⟩

/-- A record of the next state has the authority of an older one under the same key, or
has just been reserved under the next number. -/
theorem Effect.authority_origin (h : f.Effect op out f') {id : ReservationId} {r' : Reservation}
    (hr' : f'.state.reservations[id]? = some r') :
    (∃ r, f.state.reservations[id]? = some r ∧ SameAuthority r r' ∧
      ∀ st, op ≠ .importPersisted st) ∨
    (∃ req ctx c pool region dev, op = .reserve req ctx ∧ f.Admission req c pool region dev ∧
      r' = f.newReservation req ctx c dev ∧ reservationId (f.sequence + 1) = id ∧
      out = .reservation { ok := true, reservation := r' }) := by
  have hchange := h.reservation id
  rw [hr'] at hchange
  generalize f.state.reservations[id]? = old at hchange
  cases hchange with
  | same _ kept => exact .inl ⟨r', rfl, .refl r', kept⟩
  | reserved admission key => exact .inr ⟨_, _, _, _, _, _, rfl, admission, rfl, key, rfl⟩
  | @committed ctx res => exact .inl ⟨res, rfl, sameAuthority_committedRecord f res, nofun⟩
  | @released ctx res => exact .inl ⟨res, rfl, sameAuthority_releasedRecord res, nofun⟩

/-- A reservation keeps its authority until the records are imported anew. -/
theorem Effect.authority_kept (h : f.Effect op out f') {id : ReservationId} {r : Reservation}
    (hr : f.state.reservations[id]? = some r) (himport : ∀ st, op ≠ .importPersisted st) :
    ∃ r', f'.state.reservations[id]? = some r' ∧ SameAuthority r r' := by
  have hchange := h.reservation id
  rw [hr] at hchange
  generalize f'.state.reservations[id]? = new at hchange
  cases hchange with
  | same => exact ⟨r, rfl, .refl r⟩
  | committed guarded => exact ⟨_, rfl, sameAuthority_committedRecord f r⟩
  | released guarded => exact ⟨_, rfl, sameAuthority_releasedRecord r⟩
  | @imported st => exact absurd rfl (himport st)

theorem Anchored.step {r r' : Reservation} (hr : Anchored f r) (h : f.Effect op out f')
    (hsame : SameAuthority r r') (himport : ∀ st, op ≠ .importPersisted st) : Anchored f' r' := by
  obtain ⟨p, hp, hple⟩ := hr.pool
  obtain ⟨g, hg, hgle⟩ := hr.region
  obtain ⟨d, hd, hdle⟩ := hr.device
  obtain ⟨p', hp', hple'⟩ := h.pool_generation_le himport hp
  obtain ⟨g', hg', hgle'⟩ := h.region_generation_le himport hg
  obtain ⟨d', hd', hdle'⟩ := h.device_generation_le himport hd
  constructor
  · rw [hsame.pool, hsame.poolGeneration]
    exact ⟨p', hp', hple.trans hple'⟩
  · rw [hsame.region, hsame.regionGeneration]
    exact ⟨g', hg', hgle.trans hgle'⟩
  · rw [hsame.device, hsame.deviceGeneration]
    exact ⟨d', hd', hdle.trans hdle'⟩

theorem anchored_newReservation {req : AdmissionRequest} {ctx : AuthorityContext} {c : Candidate}
    {pool : CxlPool} {region : CxlRegion} {dev : CxlDevice}
    (admission : f.Admission req c pool region dev) :
    Anchored f (f.newReservation req ctx c dev) :=
  ⟨⟨pool, admission.poolRecord, admission.poolGeneration.ge⟩,
    ⟨region, admission.regionRecord, admission.regionGeneration.ge⟩,
    ⟨dev, admission.deviceRecord, admission.deviceGeneration.ge⟩⟩

/-- If all stored reservations are anchored before a step, so they are after it. -/
theorem Effect.anchored (h : f.Effect op out f')
    (hold : ∀ (id : ReservationId) (r : Reservation), f.state.reservations[id]? = some r →
      Anchored f r) (id : ReservationId) (r' : Reservation)
    (hr' : f'.state.reservations[id]? = some r') : Anchored f' r' := by
  obtain ⟨r, hr, hsame, himport⟩ | ⟨req, ctx, c, pool, region, dev, rfl, admission, rfl, -⟩ :=
    h.authority_origin hr'
  · exact (hold id r hr).step h hsame himport
  · exact (anchored_newReservation admission).step h (.refl _) (by simp)

/-- A generation that has moved past the recorded one stays past it. -/
theorem GenerationMoved.step {r r' : Reservation} (hmoved : GenerationMoved f r)
    (hr : Anchored f r) (h : f.Effect op out f') (hsame : SameAuthority r r')
    (himport : ∀ st, op ≠ .importPersisted st) : GenerationMoved f' r' := by
  unfold GenerationMoved at hmoved ⊢
  rw [hsame.pool, hsame.poolGeneration, hsame.region, hsame.regionGeneration, hsame.device,
    hsame.deviceGeneration]
  rcases hmoved with hpool | hregion | hdevice
  · obtain ⟨p, hp, hle⟩ := hr.pool
    obtain ⟨p', hp', hle'⟩ := h.pool_generation_le himport hp
    have hlt : r.poolGeneration < p.generation := lt_of_le_of_ne hle (by simpa [hp, eq_comm] using hpool)
    left
    simpa [hp'] using (hlt.trans_le hle').ne'
  · obtain ⟨g, hg, hle⟩ := hr.region
    obtain ⟨g', hg', hle'⟩ := h.region_generation_le himport hg
    have hlt : r.regionGeneration < g.generation :=
      lt_of_le_of_ne hle (by simpa [hg, eq_comm] using hregion)
    right; left
    simpa [hg'] using (hlt.trans_le hle').ne'
  · obtain ⟨d, hd, hle⟩ := hr.device
    obtain ⟨d', hd', hle'⟩ := h.device_generation_le himport hd
    have hlt : r.deviceGeneration < d.generation :=
      lt_of_le_of_ne hle (by simpa [hd, eq_comm] using hdevice)
    right; right
    simpa [hd'] using (hlt.trans_le hle').ne'

/-- Every stored reservation is anchored and stored under an issued identity. -/
structure Bound (f : Fabric) : Prop where
  ids : IdsIssued f
  anchored : ∀ {id : ReservationId} {r : Reservation}, f.state.reservations[id]? = some r →
    Anchored f r

theorem bound_new (epoch : CoordinatorEpoch) (policy : PolicyGeneration) :
    Bound (new epoch policy) := by
  refine ⟨idsIssued_new epoch policy, ?_⟩
  intro id r hr
  simp [new_reservations] at hr

theorem Bound.step (hb : Bound f) (h : f.Effect op out f')
    (hlt : f.sequence.toNat + reserveCount (op, out) < 2 ^ 64) : Bound f' := by
  refine ⟨hb.ids.step h hlt, ?_⟩
  intro id r' hr'
  exact h.anchored (fun id r hr => hb.anchored hr) id r' hr'

/-- An identity whose number has been passed. -/
def Issued (f : Fabric) (id : ReservationId) : Prop := ∃ n ≤ f.sequence, id = reservationId n

/-- An issued number is not the next one. -/
theorem Issued.ne_next {id : ReservationId} (hissued : Issued f id)
    (hlt : f.sequence.toNat + 1 < 2 ^ 64) : reservationId (f.sequence + 1) ≠ id := by
  obtain ⟨n, hn, rfl⟩ := hissued
  intro heq
  have hnext : f.sequence + 1 = n := reservationId_injective heq
  rw [← hnext, UInt64.le_iff_toNat_le, toNat_succ_sequence hlt] at hn
  omega

theorem Issued.step {id : ReservationId} (hissued : Issued f id) (h : f.Effect op out f')
    (hlt : f.sequence.toNat + reserveCount (op, out) < 2 ^ 64) : Issued f' id := by
  obtain ⟨n, hn, heq⟩ := hissued
  refine ⟨n, UInt64.le_trans hn ?_, heq⟩
  rw [UInt64.le_iff_toNat_le, h.toNat_sequence hlt]
  omega

/-- What is stored under an issued identity was stored under it before. -/
theorem Issued.origin {id : ReservationId} (hissued : Issued f id) (h : f.Effect op out f')
    (hlt : f.sequence.toNat + reserveCount (op, out) < 2 ^ 64) {r' : Reservation}
    (hr' : f'.state.reservations[id]? = some r') :
    ∃ r, f.state.reservations[id]? = some r ∧ SameAuthority r r' ∧
      ∀ st, op ≠ .importPersisted st := by
  obtain horigin | ⟨req, ctx, c, pool, region, dev, rfl, -, -, hid, rfl⟩ := h.authority_origin hr'
  · exact horigin
  · exact absurd hid (hissued.ne_next hlt)

/-- A run with fewer than `2 ^ 64` reserves keeps what each of its steps keeps. -/
theorem run_bound {I : Fabric → Prop}
    (hstep : ∀ f op out f', Bound f → I f → f.Effect op out f' →
      f.sequence.toNat + reserveCount (op, out) < 2 ^ 64 → I f')
    {tr : List (Op × Outcome)} (hrun : Run exec f tr f') (hb : Bound f) (hI : I f)
    (hcount : f.sequence.toNat + (tr.map reserveCount).sum < 2 ^ 64) :
    Bound f' ∧ I f' ∧ f'.sequence.toNat = f.sequence.toNat + (tr.map reserveCount).sum := by
  induction hrun with
  | nil s => exact ⟨hb, hI, by simp⟩
  | @cons s s' s'' op out tr head tail ih =>
    have heffect := exec_effect head
    simp only [List.map_cons, List.sum_cons] at hcount ⊢
    have hlt : s.sequence.toNat + reserveCount (op, out) < 2 ^ 64 := by omega
    have hseq := heffect.toNat_sequence hlt
    obtain ⟨hb', hI', hs'⟩ := ih (hb.step heffect hlt) (hstep _ _ _ _ hb hI heffect hlt) (by omega)
    exact ⟨hb', hI', by omega⟩

/-- Nothing that could be committed is stored under an issued identity. -/
structure Fenced (id : ReservationId) (f : Fabric) : Prop where
  issued : Issued f id
  moved : ∀ {r : Reservation}, f.state.reservations[id]? = some r → GenerationMoved f r

theorem Fenced.step {id : ReservationId} (hf : Fenced id f) (hb : Bound f)
    (h : f.Effect op out f') (hlt : f.sequence.toNat + reserveCount (op, out) < 2 ^ 64) :
    Fenced id f' := by
  refine ⟨hf.issued.step h hlt, ?_⟩
  intro r' hr'
  obtain ⟨r, hr, hsame, himport⟩ := hf.issued.origin h hlt hr'
  exact (hf.moved hr).step (hb.anchored hr) h hsame himport

theorem commit_ok {id : ReservationId} {ctx : AuthorityContext}
    (hok : (f.commit id ctx).2.ok = true) :
    ∃ res pool region dev, f.CommitGuard id ctx res pool region dev := by
  have heffect := f.commit_effect id ctx
  generalize (f.commit id ctx).1 = f', (f.commit id ctx).2 = o at heffect hok
  cases heffect with
  | refused fallible hout => simp [hok] at hout
  | commit guarded => exact ⟨_, _, _, _, guarded⟩

theorem Fenced.commit_fails {id : ReservationId} (hf : Fenced id f) (ctx : AuthorityContext) :
    (f.commit id ctx).2.ok = false := by
  by_contra hok
  obtain ⟨res, pool, region, dev, hg⟩ := commit_ok (by simpa using hok)
  have hmoved := hf.moved hg.stored
  unfold GenerationMoved at hmoved
  rw [hg.poolRecord, hg.regionRecord, hg.deviceRecord] at hmoved
  simp [hg.poolGeneration, hg.regionGeneration, hg.deviceGeneration] at hmoved

end Fabric

/-- The epoch an operation sets. -/
def Op.newEpoch : Op → Option CoordinatorEpoch
  | .setEpoch e => some e
  | _ => none

namespace Fabric
variable {f f' : Fabric} {op : Op} {out : Outcome}

theorem Effect.epoch_eq (h : f.Effect op out f') :
    f'.state.coordinatorEpoch = op.newEpoch.getD f.state.coordinatorEpoch := by
  cases h with
  | refused fallible failed =>
    cases op with
    | setEpoch e => exact absurd rfl fallible
    | _ => rfl
  | release guarded covered => simp [free, Op.newEpoch]
  | conflict guarded uncovered => simp [Op.newEpoch]
  | _ => rfl

def epochsSet (tr : List (Op × Outcome)) : List CoordinatorEpoch := tr.filterMap (·.1.newEpoch)

/-- No operation of the trace sets an epoch below an earlier one. -/
def RisingEpochs (f : Fabric) (tr : List (Op × Outcome)) : Prop :=
  (f.state.coordinatorEpoch :: epochsSet tr).Pairwise (· ≤ ·)

theorem RisingEpochs.head {tr : List (Op × Outcome)} (hrise : RisingEpochs f ((op, out) :: tr))
    (h : f.Effect op out f') :
    f.state.coordinatorEpoch ≤ f'.state.coordinatorEpoch ∧ RisingEpochs f' tr := by
  unfold RisingEpochs epochsSet at *
  rw [h.epoch_eq]
  cases hnew : op.newEpoch with
  | none =>
    simp only [List.filterMap_cons, hnew] at hrise
    exact ⟨le_refl _, hrise⟩
  | some e =>
    simp only [List.filterMap_cons, hnew] at hrise
    rw [List.pairwise_cons] at hrise
    exact ⟨hrise.1 e (by simp), hrise.2⟩

theorem run_rising {tr tr' : List (Op × Outcome)} (hrun : Run exec f tr f')
    (hrise : RisingEpochs f (tr ++ tr')) :
    f.state.coordinatorEpoch ≤ f'.state.coordinatorEpoch ∧ RisingEpochs f' tr' := by
  induction hrun with
  | nil s => exact ⟨le_refl _, hrise⟩
  | cons head tail ih =>
    obtain ⟨hle, hrest⟩ := hrise.head (exec_effect head)
    obtain ⟨hle', hrest'⟩ := ih hrest
    exact ⟨hle.trans hle', hrest'⟩

/-- While the epoch never falls, no reservation is from a later epoch. -/
theorem run_createdEpoch_le {tr tr' : List (Op × Outcome)} (hrun : Run exec f tr f')
    (hrise : RisingEpochs f (tr ++ tr'))
    (hold : ∀ (id : ReservationId) (r : Reservation), f.state.reservations[id]? = some r →
      r.createdEpoch ≤ f.state.coordinatorEpoch) :
    ∀ (id : ReservationId) (r : Reservation), f'.state.reservations[id]? = some r →
      r.createdEpoch ≤ f'.state.coordinatorEpoch := by
  induction hrun with
  | nil s => exact hold
  | cons head tail ih =>
    have heffect := exec_effect head
    obtain ⟨hle, hrest⟩ := hrise.head heffect
    refine ih hrest ?_
    intro id r' hr'
    obtain ⟨r, hr, hsame, -⟩ | ⟨req, ctx, c, pool, region, dev, -, -, rfl, -⟩ :=
      heffect.authority_origin hr'
    · rw [hsame.createdEpoch]
      exact (hold id r hr).trans hle
    · exact hle

/-- A reservation whose pool, region or device has moved on, that has been dropped, or
whose epoch has passed, cannot be committed now or later. -/
theorem fencing_permanent {epoch : CoordinatorEpoch} {policy : PolicyGeneration}
    {tr₁ tr₂ tr₃ : List (Op × Outcome)} {f₁ f₂ f₃ : Fabric} {id : ReservationId} {X : Reservation}
    (h₁ : Run exec (new epoch policy) tr₁ f₁) (hX : f₁.state.reservations[id]? = some X)
    (h₂ : Run exec f₁ tr₂ f₂) (h₃ : Run exec f₂ tr₃ f₃)
    (hcount : ((tr₁ ++ tr₂ ++ tr₃).map reserveCount).sum < 2 ^ 64)
    (hfence : GenerationMoved f₂ X ∨ f₂.state.reservations[id]? = none ∨
      (RisingEpochs (new epoch policy) (tr₁ ++ tr₂ ++ tr₃) ∧
        f₂.state.coordinatorEpoch ≠ X.createdEpoch)) (ctx : AuthorityContext) :
    (f₃.commit id ctx).2.ok = false := by
  simp only [List.map_append, List.sum_append] at hcount
  have hzero : (new epoch policy).sequence.toNat = 0 := rfl
  obtain ⟨hb₁, -, hs₁⟩ := run_bound (I := fun _ => True) (fun _ _ _ _ _ _ _ _ => trivial) h₁
    (bound_new epoch policy) trivial (by omega)
  -- What is stored under the identity from now on has the authority of `X`.
  have hsame : Issued f₁ id ∧ ∀ r, f₁.state.reservations[id]? = some r → SameAuthority X r := by
    refine ⟨(hb₁.ids id X hX).2, ?_⟩
    intro r hr
    rw [hX] at hr
    cases hr
    exact .refl X
  have hstep : ∀ f op out f', Bound f →
      (Issued f id ∧ ∀ r, f.state.reservations[id]? = some r → SameAuthority X r) →
      f.Effect op out f' → f.sequence.toNat + reserveCount (op, out) < 2 ^ 64 →
      Issued f' id ∧ ∀ r, f'.state.reservations[id]? = some r → SameAuthority X r := by
    intro f op out f' _ hI h hlt
    refine ⟨hI.1.step h hlt, ?_⟩
    intro r' hr'
    obtain ⟨r, hr, hrr', -⟩ := hI.1.origin h hlt hr'
    exact (hI.2 r hr).trans hrr'
  obtain ⟨hb₂, hI₂, hs₂⟩ := run_bound hstep h₂ hb₁ hsame (by omega)
  obtain ⟨-, hI₃, -⟩ := run_bound hstep h₃ hb₂ hI₂ (by omega)
  have hfenced : Fenced id f₂ → (f₃.commit id ctx).2.ok = false := by
    intro hF
    obtain ⟨-, hF₃, -⟩ := run_bound (fun f op out f' hb hF h hlt => hF.step hb h hlt) h₃ hb₂ hF
      (by omega)
    exact hF₃.commit_fails ctx
  rcases hfence with hmoved | hdropped | ⟨hrise, hne⟩
  · refine hfenced ⟨hI₂.1, ?_⟩
    intro r hr
    have hrX := hI₂.2 r hr
    unfold GenerationMoved at hmoved ⊢
    rw [hrX.pool, hrX.poolGeneration, hrX.region, hrX.regionGeneration, hrX.device,
      hrX.deviceGeneration]
    exact hmoved
  · refine hfenced ⟨hI₂.1, ?_⟩
    intro r hr
    rw [hdropped] at hr
    cases hr
  · by_contra hok
    obtain ⟨res, pool, region, dev, hg⟩ := commit_ok (by simpa using hok)
    rw [List.append_assoc] at hrise
    have hle₁ := run_createdEpoch_le h₁ hrise
      (fun id r hr => by simp [new_reservations] at hr) id X hX
    obtain ⟨-, hrise₂⟩ := run_rising h₁ hrise
    obtain ⟨hle₂, hrise₃⟩ := run_rising h₂ hrise₂
    rw [← List.append_nil tr₃] at hrise₃
    obtain ⟨hle₃, -⟩ := run_rising h₃ hrise₃
    have hlt : X.createdEpoch < f₂.state.coordinatorEpoch :=
      lt_of_le_of_ne (hle₁.trans hle₂) hne.symm
    have hcreated := hg.created
    rw [(hI₃.2 res hg.stored).createdEpoch] at hcreated
    exact absurd (hcreated ▸ hle₃) (not_le.mpr hlt)

/-- Its region is reconfigured and brought online again. -/
def reconfiguredRun : Option (List (Op × Outcome) × Fabric) :=
  execAll exec (reservedRun.get reservedRun_isSome).2
    [.reconfigureRegion ⟨str "r1"⟩ [⟨str "d1"⟩] (Synthetic.context ⟨1⟩),
      .revalidateRegion ⟨str "r1"⟩ (Synthetic.context ⟨1⟩)]

theorem reconfiguredRun_isSome : reconfiguredRun.isSome = true := by decide

theorem fencing_permanent_reconfiguredRun :
    ∃ tr₁ f₁ tr₂ f₂ X, Run exec (new ⟨1⟩ ⟨1⟩) tr₁ f₁ ∧
      f₁.state.reservations[reservationId 1]? = some X ∧ Run exec f₁ tr₂ f₂ ∧
      ((tr₁ ++ tr₂ ++ []).map reserveCount).sum < 2 ^ 64 ∧ GenerationMoved f₂ X ∧
      (f₁.commit (reservationId 1) (Synthetic.context ⟨1⟩)).2.ok = true ∧
      (f₂.commit (reservationId 1) (Synthetic.context ⟨1⟩)).2.ok = false := by
  have h₁ := Run.of_execAll (Option.some_get reservedRun_isSome).symm
  have h₂ := Run.of_execAll (Option.some_get reconfiguredRun_isSome).symm
  have hstored : ((reservedRun.get reservedRun_isSome).2.state.reservations[reservationId 1]?).isSome =
    true := by decide
  have hcount : (((reservedRun.get reservedRun_isSome).1 ++
    (reconfiguredRun.get reconfiguredRun_isSome).1 ++ []).map reserveCount).sum < 2 ^ 64 := by decide
  have hmoved : ∀ X, (reservedRun.get reservedRun_isSome).2.state.reservations[reservationId 1]? =
      some X → GenerationMoved (reconfiguredRun.get reconfiguredRun_isSome).2 X := by decide
  obtain ⟨X, hX⟩ := Option.isSome_iff_exists.mp hstored
  refine ⟨_, _, _, _, X, h₁, hX, h₂, hcount, hmoved X hX, by decide, ?_⟩
  exact fencing_permanent h₁ hX h₂ (.nil _) hcount (.inl (hmoved X hX)) _

end Fabric

end CxlFabric
