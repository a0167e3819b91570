import CxlFabric.RecordKeys
import CxlFabric.Reservations
import CxlFabric.Synthetic

/-! # Lost eligibility comes back by explicit revalidation only

Selection consults the pool, the region and the device of a candidate. A record that is
absent, without current evidence or in the wrong state is never chosen, and no step
makes it eligible as a side effect. -/
namespace CxlFabric

section selection
variable {snap : StateSnapshot} {req : AdmissionRequest} {c : Candidate}

theorem mem_enumerateCandidates (h : c ∈ enumerateCandidates snap) :
    ∃ (kp : PoolId) (kr : RegionId) (kd : DeviceId) (pool : CxlPool) (region : CxlRegion)
      (dev : CxlDevice), snap.pools[kp]? = some pool ∧ snap.regions[kr]? = some region ∧
      snap.devices[kd]? = some dev ∧ kd ∈ region.memberDevices ∧ poolAdmits pool = true ∧
      regionAdmits pool region = true ∧ deviceAdmits dev = true ∧
      c = mkCandidate pool region dev := by
  obtain ⟨⟨kp, pool⟩, hpool, hc⟩ := List.mem_flatMap.mp h
  rw [Std.ExtTreeMap.mem_toList_iff_getElem?_eq_some] at hpool
  split at hc
  · next hadmits =>
    obtain ⟨⟨kr, region⟩, hregion, hc⟩ := List.mem_flatMap.mp hc
    rw [Std.ExtTreeMap.mem_toList_iff_getElem?_eq_some] at hregion
    split at hc
    · next hradmits =>
      obtain ⟨kd, hlisted, hdev⟩ := List.mem_filterMap.mp hc
      split at hdev
      · cases hdev
      · next dev hd =>
        split at hdev
        · next hdadmits =>
          cases hdev
          exact ⟨kp, kr, kd, pool, region, dev, hpool, hregion, hd, hlisted, hadmits, hradmits,
            hdadmits, rfl⟩
        · cases hdev
    · cases hc
  · cases hc

/-- A selection that succeeds chooses one of the enumerated candidates. -/
theorem chosen_mem (h : (buildSelection snap req).ok = true) :
    (buildSelection snap req).chosen ∈ enumerateCandidates snap := by
  unfold buildSelection at h ⊢
  dsimp only at h ⊢
  split at h
  · next chosen rest hrank =>
    have hmem : chosen ∈ rank _ := hrank ▸ List.mem_cons_self
    rw [rank, List.mem_insertionSort] at hmem
    exact (List.mem_filter.mp hmem).1
  · split at h
    · cases h
    · cases h

end selection

namespace Fabric
variable {f f' : Fabric} {op : Op} {out : Outcome}

/-- The records of an admission are the ones selection looked at. -/
theorem Admission.admits {req : AdmissionRequest} {c : Candidate} {pool : CxlPool}
    {region : CxlRegion} {dev : CxlDevice} (h : f.Admission req c pool region dev)
    (hk : RecordsKeyed f) :
    poolAdmits pool = true ∧ regionAdmits pool region = true ∧ deviceAdmits dev = true ∧
      c.device ∈ region.memberDevices := by
  obtain ⟨kp, kr, kd, p, r, d, hp, hr, hd, hlisted, hpa, hra, hda, hc⟩ :=
    mem_enumerateCandidates (h.chosen ▸ chosen_mem h.selected)
  have hpool := h.poolRecord
  have hregion := h.regionRecord
  have hdevice := h.deviceRecord
  subst hc
  have hpid : p.id = kp := hk.pool hp
  have hrid : r.id = kr := hk.region hr
  have hdid : d.id = kd := hk.device hd
  -- Each record is found again under the identity it carries.
  change f.state.pools[p.id]? = some pool at hpool
  change f.state.regions[r.id]? = some region at hregion
  change f.state.devices[d.id]? = some dev at hdevice
  rw [hpid] at hpool
  rw [hrid] at hregion
  rw [hdid] at hdevice
  cases hp.symm.trans hpool
  cases hr.symm.trans hregion
  cases hd.symm.trans hdevice
  rw [← hdid] at hlisted
  exact ⟨hpa, hra, hda, hlisted⟩

/-- Absent, without current evidence, or neither available nor just defined. -/
def PoolIneligible (f : Fabric) (P : PoolId) : Prop :=
  ∀ p, f.state.pools[P]? = some p →
    p.evidenceCurrent = false ∨ (p.state ≠ .available ∧ p.state ≠ .defined)

/-- Absent, without current evidence, or not online. -/
def RegionIneligible (f : Fabric) (R : RegionId) : Prop :=
  ∀ r, f.state.regions[R]? = some r → r.evidenceCurrent = false ∨ r.state ≠ .named .online

/-- Absent, without current evidence, or not online. -/
def DeviceIneligible (f : Fabric) (D : DeviceId) : Prop :=
  ∀ d, f.state.devices[D]? = some d → d.evidenceCurrent = false ∨ d.state ≠ .named .online

/-- The operations that bring a pool back. -/
def RestoresPool (P : PoolId) : Op → Prop
  | .revalidatePool id _ => id = P
  | .createPool pool _ => pool.id = P
  | _ => False

/-- The operations that bring a region back. -/
def RestoresRegion (R : RegionId) : Op → Prop
  | .revalidateRegion id _ => id = R
  | .updateRegion region _ => region.id = R
  | .createRegion region _ => region.id = R
  | _ => False

/-- The operations that bring a device back. -/
def RestoresDevice (D : DeviceId) : Op → Prop
  | .registerDevice dev _ => dev.id = D
  | .markDeviceOnline d _ => d = D
  | _ => False

instance (P : PoolId) : DecidablePred (RestoresPool P)
  | .revalidatePool id _ => inferInstanceAs (Decidable (id = P))
  | .createPool pool _ => inferInstanceAs (Decidable (pool.id = P))
  | .setEpoch _ | .setPolicyGeneration _ | .advanceEvidenceGeneration | .registerDevice _ _
  | .createRegion _ _ | .updateRegion _ _ | .reconfigureRegion _ _ _ | .addPoolMember _ _ _
  | .removePoolMember _ _ _ | .markDeviceRevalidation _ _ | .markDeviceOnline _ _
  | .markRegionDraining _ _ | .markPoolDraining _ _ | .reconcilePool _ _ | .revalidateRegion _ _
  | .reserve _ _ | .commit _ _ | .release _ _ | .importPersisted _ =>
    inferInstanceAs (Decidable False)

theorem PoolIneligible.step {P : PoolId} (hold : PoolIneligible f P) (h : f.Effect op out f')
    (hno : out.success = true → ¬RestoresPool P op) : PoolIneligible f' P := by
  intro p' hp'
  have hchange := h.pool P
  unfold PoolIneligible at hold
  generalize f.state.pools[P]? = old at hchange hold
  generalize f'.state.pools[P]? = new at hchange hp'
  cases hchange with
  | same => exact hold p' hp'
  | created key => exact absurd key (hno rfl)
  | revalidated => exact absurd rfl (hno rfl)
  | @added _ p | @removed _ p | @reconciled p | @booked _ _ p =>
    cases hp'
    exact hold p rfl
  | draining =>
    cases hp'
    exact .inr ⟨nofun, nofun⟩
  | imported =>
    obtain ⟨p, -, rfl⟩ := Option.map_eq_some_iff.mp hp'
    exact .inl rfl

theorem RegionIneligible.step {R : RegionId} (hold : RegionIneligible f R)
    (h : f.Effect op out f') (hno : out.success = true → ¬RestoresRegion R op) :
    RegionIneligible f' R := by
  intro r' hr'
  have hchange := h.region R
  unfold RegionIneligible at hold
  generalize f.state.regions[R]? = old at hchange hold
  generalize f'.state.regions[R]? = new at hchange hr'
  cases hchange with
  | same => exact hold r' hr'
  | created key => exact absurd key (hno rfl)
  | updated key => exact absurd key (hno rfl)
  | revalidated => exact absurd rfl (hno rfl)
  | reconfigured =>
    cases hr'
    exact .inl rfl
  | draining =>
    cases hr'
    exact .inr nofun
  | @booked _ _ r =>
    cases hr'
    exact hold r rfl
  | imported =>
    obtain ⟨r, -, rfl⟩ := Option.map_eq_some_iff.mp hr'
    exact .inl rfl

theorem DeviceIneligible.step {D : DeviceId} (hold : DeviceIneligible f D)
    (h : f.Effect op out f') (hno : out.success = true → ¬RestoresDevice D op) :
    DeviceIneligible f' D := by
  intro d' hd'
  have hchange := h.device D
  unfold DeviceIneligible at hold
  generalize f.state.devices[D]? = old at hchange hold
  generalize f'.state.devices[D]? = new at hchange hd'
  cases hchange with
  | same => exact hold d' hd'
  | registered key => exact absurd key (hno rfl)
  | online => exact absurd rfl (hno rfl)
  | revalidation =>
    cases hd'
    exact .inl rfl
  | imported =>
    obtain ⟨d, -, rfl⟩ := Option.map_eq_some_iff.mp hd'
    exact .inl rfl

/-- The record a successful reserve returns names records that selection admits. -/
theorem reserve_eligible (hk : RecordsKeyed f) {req : AdmissionRequest} {ctx : AuthorityContext}
    {o : ReserveOutcome} (h : f.reserve req ctx = some (f', o)) (hok : o.ok = true) :
    ¬PoolIneligible f o.reservation.pool ∧ ¬RegionIneligible f o.reservation.region ∧
      ¬DeviceIneligible f o.reservation.device := by
  cases reserve_effect h with
  | refused fallible hout => simp [hok] at hout
  | @reserve _ _ c pool region dev epoch admission =>
    obtain ⟨hp, hr, hd, -⟩ := admission.admits hk
    simp only [poolAdmits, Bool.and_eq_true, Bool.or_eq_true, decide_eq_true_eq] at hp
    simp only [regionAdmits, Bool.and_eq_true, decide_eq_true_eq] at hr
    simp only [deviceAdmits, Bool.and_eq_true, decide_eq_true_eq] at hd
    refine ⟨?_, ?_, ?_⟩
    · intro hin
      obtain hev | ⟨hna, hnd⟩ := hin pool admission.poolRecord
      · simp [hev] at hp
      · rcases hp.2 with ha | hdef
        · exact hna ha
        · exact hnd hdef
    · intro hin
      obtain hev | hne := hin region admission.regionRecord
      · simp [hev] at hr
      · exact hne hr.2
    · intro hin
      obtain hev | hne := hin dev admission.deviceRecord
      · simp [hev] at hd
      · exact hne hd.2

/-- Between a state in which a record is not eligible and a reservation on it stands an
explicit operation on that record that returned OK. -/
theorem eligibility_regained_explicitly {epoch : CoordinatorEpoch} {policy : PolicyGeneration}
    {tr₁ tr₂ : List (Op × Outcome)} {f₁ f₂ : Fabric} (h₁ : Run exec (new epoch policy) tr₁ f₁)
    (h₂ : Run exec f₁ tr₂ f₂) (hkeyed : ∀ e ∈ tr₁ ++ tr₂, e.1.ImportsKeyed) :
    (∀ P, PoolIneligible f₁ P → (∀ e ∈ tr₂, e.2.success = true → ¬RestoresPool P e.1) →
      ∀ req ctx f' o, f₂.reserve req ctx = some (f', o) → o.ok = true → o.reservation.pool ≠ P) ∧
    (∀ R, RegionIneligible f₁ R → (∀ e ∈ tr₂, e.2.success = true → ¬RestoresRegion R e.1) →
      ∀ req ctx f' o, f₂.reserve req ctx = some (f', o) → o.ok = true →
        o.reservation.region ≠ R) ∧
    (∀ D, DeviceIneligible f₁ D → (∀ e ∈ tr₂, e.2.success = true → ¬RestoresDevice D e.1) →
      ∀ req ctx f' o, f₂.reserve req ctx = some (f', o) → o.ok = true →
        o.reservation.device ≠ D) := by
  have hk : RecordsKeyed f₂ := recordsKeyed_of_run (h₁.append h₂) hkeyed
  refine ⟨?_, ?_, ?_⟩
  · rintro P hP hno req ctx f' o hres hok rfl
    have hP₂ := h₂.invariant (I := fun f => PoolIneligible f o.reservation.pool)
      (A := fun e => e.2.success = true → ¬RestoresPool o.reservation.pool e.1)
      (fun s a b s' hA hI hexec => hI.step (exec_effect hexec) hA) hno hP
    exact (reserve_eligible hk hres hok).1 hP₂
  · rintro R hR hno req ctx f' o hres hok rfl
    have hR₂ := h₂.invariant (I := fun f => RegionIneligible f o.reservation.region)
      (A := fun e => e.2.success = true → ¬RestoresRegion o.reservation.region e.1)
      (fun s a b s' hA hI hexec => hI.step (exec_effect hexec) hA) hno hR
    exact (reserve_eligible hk hres hok).2.1 hR₂
  · rintro D hD hno req ctx f' o hres hok rfl
    have hD₂ := h₂.invariant (I := fun f => DeviceIneligible f o.reservation.device)
      (A := fun e => e.2.success = true → ¬RestoresDevice o.reservation.device e.1)
      (fun s a b s' hA hI hexec => hI.step (exec_effect hexec) hA) hno hD
    exact (reserve_eligible hk hres hok).2.2 hD₂

/-- The sample pool beside a second one. -/
def twoPoolRun : Option (List (Op × Outcome) × Fabric) :=
  execAll exec (new ⟨1⟩ ⟨1⟩) (Synthetic.setup ⟨1⟩ ++ Synthetic.secondSetup ⟨1⟩)

theorem twoPoolRun_isSome : twoPoolRun.isSome = true := by decide

theorem twoPoolRun_run : Run exec (new ⟨1⟩ ⟨1⟩) (twoPoolRun.get twoPoolRun_isSome).1
    (twoPoolRun.get twoPoolRun_isSome).2 :=
  Run.of_execAll (Option.some_get twoPoolRun_isSome).symm

theorem twoPoolRun_importsKeyed :
    ∀ e ∈ (twoPoolRun.get twoPoolRun_isSome).1, e.1.ImportsKeyed := by
  have hops : ∀ e ∈ (twoPoolRun.get twoPoolRun_isSome).1, e.1.authority ≠ none := by decide
  exact fun e he => Op.importsKeyed_of_authority (hops e he)

/-- A restart imports both; nothing is eligible. -/
def importedRun : Option (List (Op × Outcome) × Fabric) :=
  execAll exec (new ⟨2⟩ ⟨1⟩)
    [.importPersisted (twoPoolRun.get twoPoolRun_isSome).2.exportPersisted]

theorem importedRun_isSome : importedRun.isSome = true := by decide

/-- Only the second pool is revalidated. -/
def revalidatedRun : Option (List (Op × Outcome) × Fabric) :=
  execAll exec (importedRun.get importedRun_isSome).2
    [.revalidatePool ⟨str "p-2"⟩ (Synthetic.context ⟨2⟩),
      .revalidateRegion ⟨str "r2"⟩ (Synthetic.context ⟨2⟩),
      .markDeviceOnline ⟨str "d2"⟩ (Synthetic.context ⟨2⟩)]

theorem revalidatedRun_isSome : revalidatedRun.isSome = true := by decide

theorem twoPoolRun_exportPersisted_keyed :
    (twoPoolRun.get twoPoolRun_isSome).2.exportPersisted.Keyed :=
  (recordsKeyed_of_run twoPoolRun_run twoPoolRun_importsKeyed).exportPersisted

theorem eligibility_regained_explicitly_revalidatedRun :
    ∃ tr₁ f₁ tr₂ f₂ f' o, Run exec (new ⟨2⟩ ⟨1⟩) tr₁ f₁ ∧ Run exec f₁ tr₂ f₂ ∧
      (∀ e ∈ tr₁ ++ tr₂, e.1.ImportsKeyed) ∧ PoolIneligible f₁ ⟨str "p-1"⟩ ∧
      f₂.reserve Synthetic.sampleRequest (Synthetic.context ⟨2⟩) = some (f', o) ∧ o.ok = true ∧
      o.reservation.pool ≠ ⟨str "p-1"⟩ := by
  have h₁ := Run.of_execAll (Option.some_get importedRun_isSome).symm
  have h₂ := Run.of_execAll (Option.some_get revalidatedRun_isSome).symm
  have hkeyed : ∀ e ∈ (importedRun.get importedRun_isSome).1 ++
      (revalidatedRun.get revalidatedRun_isSome).1, e.1.ImportsKeyed := by
    intro e he
    rcases List.mem_append.mp he with he | he
    · cases List.mem_singleton.mp he
      exact twoPoolRun_exportPersisted_keyed
    · have hops : ∀ e ∈ (revalidatedRun.get revalidatedRun_isSome).1, e.1.authority ≠ none := by
        decide
      exact Op.importsKeyed_of_authority (hops e he)
  have hpool : PoolIneligible (importedRun.get importedRun_isSome).2 ⟨str "p-1"⟩ := by
    unfold PoolIneligible
    decide
  have hno : ∀ e ∈ (revalidatedRun.get revalidatedRun_isSome).1, e.2.success = true →
      ¬RestoresPool ⟨str "p-1"⟩ e.1 := by
    decide
  have hsome : ((revalidatedRun.get revalidatedRun_isSome).2.reserve Synthetic.sampleRequest
      (Synthetic.context ⟨2⟩)).isSome = true := by decide
  have hok : ∀ r, (revalidatedRun.get revalidatedRun_isSome).2.reserve Synthetic.sampleRequest
      (Synthetic.context ⟨2⟩) = some r → r.2.ok = true := by decide
  obtain ⟨⟨f', o⟩, hres⟩ := Option.isSome_iff_exists.mp hsome
  refine ⟨_, _, _, _, f', o, h₁, h₂, hkeyed, hpool, hres, hok _ hres, ?_⟩
  exact (eligibility_regained_explicitly h₁ h₂ hkeyed).1 _ hpool hno _ _ _ _ hres (hok _ hres)

/-- A saved state that has the record of the second pool under the name of the first one as
well. -/
def misfiledState : PersistedState :=
  let st := (twoPoolRun.get twoPoolRun_isSome).2.exportPersisted
  { st with pools := st.pools.insert ⟨str "p-1"⟩ ((st.pools[(⟨str "p-2"⟩ : PoolId)]?).getD {}) }

def misfiledRun : Option (List (Op × Outcome) × Fabric) :=
  execAll exec (new ⟨2⟩ ⟨1⟩) [.importPersisted misfiledState]

theorem misfiledRun_isSome : misfiledRun.isSome = true := by decide +kernel

/-- What is under the name of the first pool is revalidated. -/
def revalidatedNameRun : Option (List (Op × Outcome) × Fabric) :=
  execAll exec (misfiledRun.get misfiledRun_isSome).2
    [.revalidatePool ⟨str "p-1"⟩ (Synthetic.context ⟨2⟩),
      .revalidateRegion ⟨str "r2"⟩ (Synthetic.context ⟨2⟩),
      .markDeviceOnline ⟨str "d2"⟩ (Synthetic.context ⟨2⟩)]

theorem revalidatedNameRun_isSome : revalidatedNameRun.isSome = true := by decide +kernel

/-- A record that an import has put under the name of another pool is revalidated under that
name, and the reservation is on the pool that it names, which nobody has revalidated. -/
theorem misfiled_pool_is_reserved :
    ∃ tr₁ f₁ tr₂ f₂ f' o, Run exec (new ⟨2⟩ ⟨1⟩) tr₁ f₁ ∧ Run exec f₁ tr₂ f₂ ∧
      PoolIneligible f₁ ⟨str "p-2"⟩ ∧
      (∀ e ∈ tr₂, e.2.success = true → ¬RestoresPool ⟨str "p-2"⟩ e.1) ∧
      f₂.reserve Synthetic.sampleRequest (Synthetic.context ⟨2⟩) = some (f', o) ∧ o.ok = true ∧
      o.reservation.pool = ⟨str "p-2"⟩ := by
  have h₁ := Run.of_execAll (Option.some_get misfiledRun_isSome).symm
  have h₂ := Run.of_execAll (Option.some_get revalidatedNameRun_isSome).symm
  have hpool : PoolIneligible (misfiledRun.get misfiledRun_isSome).2 ⟨str "p-2"⟩ := by
    unfold PoolIneligible
    decide +kernel
  have hno : ∀ e ∈ (revalidatedNameRun.get revalidatedNameRun_isSome).1, e.2.success = true →
      ¬RestoresPool ⟨str "p-2"⟩ e.1 := by
    decide +kernel
  have hreserve : ∃ q ∈ (revalidatedNameRun.get revalidatedNameRun_isSome).2.reserve
      Synthetic.sampleRequest (Synthetic.context ⟨2⟩), q.2.ok = true ∧
        q.2.reservation.pool = ⟨str "p-2"⟩ := by
    decide +kernel
  obtain ⟨⟨f', o⟩, hres, hok, hreserved⟩ := hreserve
  exact ⟨_, _, _, _, f', o, h₁, h₂, hpool, hno, hres, hok, hreserved⟩

end Fabric

end CxlFabric
