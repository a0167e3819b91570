import CxlFabric.MembershipFences

/-! # Commits and incarnations

A reservation records the boot id of its device and the generation of its consumer. A
commit compares the generation of the device, but neither of these: a device that
registers anew under another boot id escapes it exactly if it keeps its generation. -/
namespace CxlFabric
namespace Fabric

theorem commit_ok_iff (f : Fabric) (id : ReservationId) (ctx : AuthorityContext) :
    (f.commit id ctx).2.ok = true ↔
      ∃ res pool region dev, f.CommitGuard id ctx res pool region dev := by
  constructor
  · exact commit_ok
  · rintro ⟨res, pool, region, dev, h⟩
    have hworker : (!ctx.workerBootId.empty && decide (ctx.workerBootId ≠ res.workerBootId)) =
        false := by
      rcases h.worker with hempty | hsame
      · simp [hempty]
      · simp [hsame]
    unfold commit
    simp only [h.stored, h.reserved, ne_eq, not_true_eq_false, if_false,
      staleEpoch_eq_false.mpr h.epoch, h.created, hworker, h.poolRecord, h.regionRecord,
      h.deviceRecord, h.poolGeneration, h.regionGeneration, h.deviceGeneration,
      UInt64.not_lt.mpr h.covered, Bool.false_eq_true]

variable {f g : Fabric} {tr : List (Op × Outcome)} {id : ReservationId} {X : Reservation}

/-- A stored reservation stays stored along a run without an import. -/
theorem authority_kept_of_run (hrun : Run exec f tr g) (hX : f.state.reservations[id]? = some X)
    (himport : ∀ e ∈ tr, ∀ st, e.1 ≠ .importPersisted st) :
    ∃ X', g.state.reservations[id]? = some X' ∧ SameAuthority X X' := by
  refine hrun.invariant (A := fun e => ∀ st, e.1 ≠ .importPersisted st)
    (I := fun g => ∃ X', g.state.reservations[id]? = some X' ∧ SameAuthority X X') ?_ himport
    ⟨X, hX, .refl X⟩
  intro s op out s' hop hs hexec
  obtain ⟨r, hr, hsame⟩ := hs
  obtain ⟨r', hr', hsame'⟩ := (exec_effect hexec).authority_kept hr hop
  exact ⟨r', hr', hsame.trans hsame'⟩

/-- A device registers anew under another boot id than the reservation has recorded. -/
def Rebooted (X : Reservation) (tr : List (Op × Outcome)) : Prop :=
  ∃ dev ctx, (.registerDevice dev ctx, .decision .ok) ∈ tr ∧ dev.id = X.device ∧
    dev.bootId ≠ X.deviceBootId

/-- It does so at the generation that the reservation has recorded. -/
def RebootedInPlace (X : Reservation) (tr : List (Op × Outcome)) : Prop :=
  ∃ dev ctx, (.registerDevice dev ctx, .decision .ok) ∈ tr ∧ dev.id = X.device ∧
    dev.generation = X.deviceGeneration ∧ dev.bootId ≠ X.deviceBootId

theorem RebootedInPlace.rebooted (h : RebootedInPlace X tr) : Rebooted X tr := by
  obtain ⟨dev, ctx, hmem, hid, -, hboot⟩ := h
  exact ⟨dev, ctx, hmem, hid, hboot⟩

section reached
variable {epoch : CoordinatorEpoch} {policy : PolicyGeneration} {tr₁ tr₂ : List (Op × Outcome)}

/-- A device that has registered at another generation fences the reservation. -/
theorem reboot_fences (h₁ : Run exec (new epoch policy) tr₁ f)
    (hX : f.state.reservations[id]? = some X) (h₂ : Run exec f tr₂ g)
    (himport : ∀ e ∈ tr₂, ∀ st, e.1 ≠ .importPersisted st) {dev : CxlDevice}
    {rctx : AuthorityContext} (hmem : (.registerDevice dev rctx, .decision .ok) ∈ tr₂)
    (hid : dev.id = X.device) (hgen : dev.generation ≠ X.deviceGeneration)
    (ctx : AuthorityContext) : (g.commit id ctx).2.ok = false := by
  obtain ⟨before, after, s, s', rfl, hbefore, hexec, hafter⟩ := h₂.split_mem hmem
  obtain ⟨X', hX', hsame⟩ := authority_kept_of_run hbefore hX (fun e he => himport e (by simp [he]))
  have hanchored := anchored_of_run (h₁.append hbefore) hX'
  have heffect := exec_effect hexec
  obtain ⟨X'', hX'', hsame'⟩ := heffect.authority_kept hX' (by simp)
  have hmoved : GenerationMoved s' X'' := by
    obtain ⟨d, hd, hle⟩ := hanchored.device
    cases heffect with
    | refused fallible failed => cases failed
    | registerDevice epoch named old =>
      rw [hsame.device, ← hid] at hd
      have hnewer : d.generation ≤ dev.generation := by
        obtain ⟨heq, -⟩ | ⟨hlt, -⟩ := old d hd
        · exact heq.le
        · exact hlt.le
      rw [hsame.deviceGeneration] at hle
      have hlt : X.deviceGeneration < dev.generation :=
        lt_of_le_of_ne (hle.trans hnewer) hgen.symm
      right
      right
      rw [hsame'.device, hsame'.deviceGeneration, hsame.device, hsame.deviceGeneration,
        setDevice_state_devices, getElem?_insert_eq, if_pos hid, Option.map_some]
      exact fun heq => hlt.ne' (Option.some.inj heq)
  have hnever := neverCommitted_of_moved hX'' (hanchored.step heffect hsame' (by simp)) hmoved
  by_contra hok
  obtain ⟨st, hst⟩ := hnever after g ctx hafter (by simpa using hok)
  obtain ⟨e, he, heq⟩ := List.mem_map.mp hst
  exact himport e (by simp [he]) st heq

/-- An import drops the reservation, and its identity does not come back. -/
theorem import_drops (h₁ : Run exec (new epoch policy) tr₁ f)
    (hX : f.state.reservations[id]? = some X) (h₂ : Run exec f tr₂ g)
    (hcount : ((tr₁ ++ tr₂).map reserveCount).sum < 2 ^ 64) {e : Op × Outcome} (he : e ∈ tr₂)
    {st : PersistedState} (hst : e.1 = .importPersisted st) (ctx : AuthorityContext) :
    (g.commit id ctx).2.ok = false := by
  obtain ⟨op, out⟩ := e
  obtain rfl : op = .importPersisted st := hst
  obtain ⟨before, after, s, s', rfl, hbefore, hexec, hafter⟩ := h₂.split_mem he
  have hdropped : s'.state.reservations[id]? = none := by
    have hchange := (exec_effect hexec).reservation id
    generalize s'.state.reservations[id]? = new at hchange
    cases hchange with
    | same _ kept => exact absurd rfl (kept st)
    | imported => rfl
  refine fencing_permanent h₁ hX (hbefore.append (.single hexec)) hafter ?_ (.inr (.inl hdropped))
    ctx
  simpa [add_assoc] using hcount

/-- Commit is bound to the incarnation of device and consumer exactly when the device does
not come back in place under another boot id and the consumer is the same, or the commit
is refused for another reason. -/
theorem commit_incarnation_iff (h₁ : Run exec (new epoch policy) tr₁ f)
    (hX : f.state.reservations[id]? = some X) (h₂ : Run exec f tr₂ g)
    (hcount : (∃ e ∈ tr₂, ∃ st, e.1 = .importPersisted st) →
      ((tr₁ ++ tr₂).map reserveCount).sum < 2 ^ 64) (ctx : AuthorityContext) :
    (Rebooted X tr₂ ∨ ctx.consumerGeneration ≠ X.consumerGeneration →
      (g.commit id ctx).2.ok = false) ↔
    (¬RebootedInPlace X tr₂ ∧ ctx.consumerGeneration = X.consumerGeneration) ∨
      ¬∃ res pool region dev, g.CommitGuard id ctx res pool region dev := by
  rw [← commit_ok_iff, Bool.not_eq_true]
  constructor
  · intro hbound
    by_cases hok : (g.commit id ctx).2.ok = false
    · exact .inr hok
    · left
      constructor
      · exact fun hinplace => hok (hbound (.inl hinplace.rebooted))
      · by_contra hconsumer
        exact hok (hbound (.inr hconsumer))
  · rintro (⟨hinplace, hconsumer⟩ | hrefused) htrigger
    · obtain ⟨dev, rctx, hmem, hid, hboot⟩ := htrigger.resolve_right (not_not.mpr hconsumer)
      by_cases himport : ∃ e ∈ tr₂, ∃ st, e.1 = .importPersisted st
      · obtain ⟨e, he, st, hst⟩ := himport
        exact import_drops h₁ hX h₂ (hcount ⟨e, he, st, hst⟩) he hst ctx
      · have hnone : ∀ e ∈ tr₂, ∀ st, e.1 ≠ .importPersisted st :=
          fun e he st hst => himport ⟨e, he, st, hst⟩
        refine reboot_fences h₁ hX h₂ hnone hmem hid ?_ ctx
        exact fun hgen => hinplace ⟨dev, rctx, hmem, hid, hgen, hboot⟩
    · exact hrefused

end reached

/-- The sample device under another boot id. -/
def rebootedDevice (gen : DeviceGeneration) : CxlDevice :=
  { Synthetic.sampleDevice with generation := gen, bootId := ⟨str "b9"⟩ }

/-- The device comes back at the next generation, and its reservation cannot be committed. -/
theorem commit_incarnation_reboot : ∃ tr f, Run exec (new ⟨1⟩ ⟨1⟩) tr f ∧
    (f.commit (reservationId 1) (Synthetic.context ⟨1⟩)).2.ok = true ∧
    (f.registerDevice (rebootedDevice ⟨2⟩) (Synthetic.context ⟨1⟩)).2 = .ok ∧
    ((f.registerDevice (rebootedDevice ⟨2⟩) (Synthetic.context ⟨1⟩)).1.commit (reservationId 1)
      (Synthetic.context ⟨1⟩)).2.ok = false := by
  obtain ⟨tr, f, hrun, hcommit, hok, X, hX, hdevice, hgen, hboot, hconsumer⟩ :
      ∃ tr f, Run exec (new ⟨1⟩ ⟨1⟩) tr f ∧
        (f.commit (reservationId 1) (Synthetic.context ⟨1⟩)).2.ok = true ∧
        (f.registerDevice (rebootedDevice ⟨2⟩) (Synthetic.context ⟨1⟩)).2 = .ok ∧
        ∃ X ∈ f.state.reservations[reservationId 1]?, (rebootedDevice ⟨2⟩).id = X.device ∧
          (rebootedDevice ⟨2⟩).generation ≠ X.deviceGeneration ∧
          (rebootedDevice ⟨2⟩).bootId ≠ X.deviceBootId ∧
          (Synthetic.context ⟨1⟩).consumerGeneration = X.consumerGeneration := by
    apply Run.exists_of_execAll (l := Synthetic.setup ⟨1⟩ ++
      [.reserve Synthetic.sampleRequest (Synthetic.context ⟨1⟩)])
    decide +kernel
  have hexec : f.exec (.registerDevice (rebootedDevice ⟨2⟩) (Synthetic.context ⟨1⟩)) =
      some ((f.registerDevice (rebootedDevice ⟨2⟩) (Synthetic.context ⟨1⟩)).1, .decision .ok) := by
    rw [← hok]
    rfl
  have hinplace : ¬RebootedInPlace X
      [(.registerDevice (rebootedDevice ⟨2⟩) (Synthetic.context ⟨1⟩), .decision .ok)] := by
    rintro ⟨dev, ctx, hmem, -, hsame, -⟩
    cases List.mem_singleton.mp hmem
    exact hgen hsame
  have hiff := commit_incarnation_iff hrun hX (.single hexec) (by simp) (Synthetic.context ⟨1⟩)
  refine ⟨tr, f, hrun, hcommit, hok, hiff.mpr (.inl ⟨hinplace, hconsumer⟩) (.inl ?_)⟩
  exact ⟨_, _, List.mem_singleton_self _, hdevice, hboot⟩

/-- At its old generation the rebooted device is committed on, and so it is for another
generation of the consumer. -/
theorem other_incarnations_commit : ∃ tr f, Run exec (new ⟨1⟩ ⟨1⟩) tr f ∧
    ∃ X ∈ f.state.reservations[reservationId 1]?,
      (f.registerDevice (rebootedDevice ⟨1⟩) (Synthetic.context ⟨1⟩)).2 = .ok ∧
      (rebootedDevice ⟨1⟩).id = X.device ∧ (rebootedDevice ⟨1⟩).bootId ≠ X.deviceBootId ∧
      ((f.registerDevice (rebootedDevice ⟨1⟩) (Synthetic.context ⟨1⟩)).1.commit (reservationId 1)
        (Synthetic.context ⟨1⟩)).2.ok = true ∧
      (⟨2⟩ : ConsumerGeneration) ≠ X.consumerGeneration ∧
      (f.commit (reservationId 1)
        { Synthetic.context ⟨1⟩ with consumerGeneration := ⟨2⟩ }).2.ok = true := by
  apply Run.exists_of_execAll (l := Synthetic.setup ⟨1⟩ ++
    [.reserve Synthetic.sampleRequest (Synthetic.context ⟨1⟩)])
  decide +kernel

end Fabric

end CxlFabric
