import CxlFabric.CoordinatorSteps
import CxlFabric.RecordChanges
import CxlFabric.Worker

/-! # The death of a worker

When a receive fails, the coordinator looks the boot id of the connection up and fences the
devices of the state it finds. Other connections overwrite and erase the entries of the
table, so what it finds need not be the state of the connection that ended. -/
namespace CxlFabric
namespace Fabric
variable {f : Fabric} {d : DeviceId}

def DeviceOnline (f : Fabric) (d : DeviceId) : Prop :=
  ∃ dev, f.state.devices[d]? = some dev ∧ dev.state = .named .online

/-- The evidence of the device is no longer current. -/
def DeviceFenced (f : Fabric) (d : DeviceId) : Prop :=
  ∃ dev, f.state.devices[d]? = some dev ∧ dev.state = .named .revalidationRequired ∧
    dev.evidenceCurrent = false

theorem DeviceOnline.not_fenced (h : f.DeviceOnline d) : ¬f.DeviceFenced d := by
  rintro ⟨dev, hdev, hstate, -⟩
  obtain ⟨dev', hdev', honline⟩ := h
  cases hdev.symm.trans hdev'
  rw [hstate] at honline
  cases honline

/-- The mark succeeds on an online device, and on one that is fenced already. -/
theorem markDeviceRevalidation_fences {ctx : AuthorityContext} (hepoch : f.Authorized ctx)
    (h : f.DeviceOnline d ∨ f.DeviceFenced d) :
    (f.markDeviceRevalidation d ctx).1.DeviceFenced d := by
  obtain ⟨dev, hdev, hvalid⟩ : ∃ dev, f.state.devices[d]? = some dev ∧
      dev.state.validTransition (.named .revalidationRequired) = true := by
    rcases h with ⟨dev, hdev, hstate⟩ | ⟨dev, hdev, hstate, -⟩
    · refine ⟨dev, hdev, ?_⟩
      rw [hstate]
      rfl
    · refine ⟨dev, hdev, ?_⟩
      rw [hstate]
      exact DeviceState.validTransition_self _
  have hmark : f.markDeviceRevalidation d ctx = (f.setDevice d { dev with
      state := .named .revalidationRequired, evidenceCurrent := false }, .ok) := by
    simp [markDeviceRevalidation, markDevice, staleEpoch_eq_false.mpr hepoch, hdev, hvalid]
  rw [hmark]
  refine ⟨{ dev with state := .named .revalidationRequired, evidenceCurrent := false }, ?_, rfl, rfl⟩
  rw [setDevice_state_devices, getElem?_insert_eq, if_pos rfl]

end Fabric

/-- The phases of a connection whose end is being handled, or has been. -/
def Phase.Ended (p : Phase) : Prop :=
  p = .dying ∨ (∃ ds, p = .fencing ds) ∨ p = .leaving ∨ p = .closed

namespace Coordinator

/-- The connection whose publish of the device is reported as accepted. -/
def accepts (d : DeviceId) : Act × Report → Option ConnId
  | (.advance c _, .performed (.registerDevice dev _) (.decision .ok)) =>
    if dev.id = d then some c else none
  | _ => none

/-- The connection with the most recent accepted publish of the device. -/
def publisher (d : DeviceId) (tr : List (Act × Report)) : Option ConnId :=
  (tr.filterMap (accepts d)).getLast?

/-- The connection whose thread marks the device for revalidation. -/
def marks (d : DeviceId) : Act × Report → Option ConnId
  | (.advance c _, .performed (.markDeviceRevalidation id _) _) => if id = d then some c else none
  | _ => none

theorem of_accepts {d : DeviceId} {e : Act × Report} {k : ConnId} (h : accepts d e = some k) :
    ∃ b dev ctx, e = (.advance k b, .performed (.registerDevice dev ctx) (.decision .ok)) ∧
      dev.id = d := by
  unfold accepts at h
  split at h
  · next c b dev ctx =>
    obtain ⟨hid, hk⟩ := Option.ite_none_right_eq_some.mp h
    cases hk
    exact ⟨b, dev, ctx, rfl, hid⟩
  · cases h

theorem of_marks {d : DeviceId} {e : Act × Report} {k : ConnId} (h : marks d e = some k) :
    ∃ b ctx out, e = (.advance k b, .performed (.markDeviceRevalidation d ctx) out) := by
  unfold marks at h
  split at h
  · next c b id ctx out =>
    obtain ⟨rfl, hk⟩ := Option.ite_none_right_eq_some.mp h
    cases hk
    exact ⟨b, ctx, out, rfl⟩
  · cases h

theorem publisher_append_singleton (d : DeviceId) (tr : List (Act × Report)) (e : Act × Report) :
    publisher d (tr ++ [e]) = (accepts d e).or (publisher d tr) := by
  unfold publisher
  rw [List.filterMap_append]
  cases h : accepts d e <;> simp [h]

theorem publisher_eq_none {d : DeviceId} {tr : List (Act × Report)} :
    publisher d tr = none ↔ ∀ e ∈ tr, accepts d e = none := by
  unfold publisher
  rw [List.getLast?_eq_none_iff, List.filterMap_eq_nil_iff]

variable {s s' : Coordinator} {a : Act} {r : Report} {c : ConnId} {w : WorkerState} {d : DeviceId}

/-- A device changes by an accepted publish and by a mark, and by nothing else. -/
theorem Effect.device (h : s.Effect a r s') (d : DeviceId) :
    (∃ k, accepts d (a, r) = some k) ∨
    (marks d (a, r) = none ∧ s'.fabric.state.devices[d]? = s.fabric.state.devices[d]?) ∨
    (∃ k, marks d (a, r) = some k ∧
      (s.fabric.DeviceOnline d ∨ s.fabric.DeviceFenced d → s'.fabric.DeviceFenced d)) := by
  cases h with
  | @published c w b f dev fabric reason here phase exec =>
    have hchange := (Fabric.exec_effect exec).device d
    change Fabric.DeviceChange d _ _ _ fabric.state.devices[d]? at hchange
    generalize hnew : fabric.state.devices[d]? = new at hchange
    cases hchange with
    | same => exact .inr (.inl ⟨rfl, hnew⟩)
    | registered key supersedes => exact .inl ⟨c, if_pos key⟩
  | @served c w b op out fabric p here phase serves exec next =>
    have hchange := (Fabric.exec_effect exec).device d
    generalize hnew : fabric.state.devices[d]? = new at hchange
    right
    left
    cases serves <;> cases hchange <;> exact ⟨rfl, hnew⟩
  | @fenced c w b id ds fabric reason here phase exec =>
    by_cases hid : id = d
    · subst hid
      right
      right
      refine ⟨c, if_pos rfl, ?_⟩
      intro hdevice
      cases exec
      exact Fabric.markDeviceRevalidation_fences rfl hdevice
    · have hchange := (Fabric.exec_effect exec).device d
      generalize hold : s.fabric.state.devices[d]? = old at hchange
      generalize hnew : fabric.state.devices[d]? = new at hchange
      cases hchange with
      | same => exact .inr (.inl ⟨if_neg hid, hnew⟩)
      | revalidation valid => exact absurd rfl hid
  | moved here phase boot devices next report =>
    right
    left
    refine ⟨?_, rfl⟩
    cases r with
    | performed op out => cases report
    | silent | sent => rfl
  | _ => exact .inr (.inl ⟨rfl, rfl⟩)

/-- A fenced device stays fenced until a publish of it is accepted. -/
theorem Effect.deviceFenced (h : s.Effect a r s') (hquiet : accepts d (a, r) = none)
    (hfenced : s.fabric.DeviceFenced d) : s'.fabric.DeviceFenced d := by
  rcases h.device d with ⟨k, hk⟩ | ⟨-, hsame⟩ | ⟨k, -, hmark⟩
  · rw [hquiet] at hk
    cases hk
  · unfold Fabric.DeviceFenced
    rw [hsame]
    exact hfenced
  · exact hmark (.inr hfenced)

theorem Effect.marks_fences (h : s.Effect a r s') (hquiet : accepts d (a, r) = none) {k : ConnId}
    (hmark : marks d (a, r) = some k)
    (hdevice : s.fabric.DeviceOnline d ∨ s.fabric.DeviceFenced d) : s'.fabric.DeviceFenced d := by
  rcases h.device d with ⟨k, hk⟩ | ⟨hnone, -⟩ | ⟨k, -, hfences⟩
  · rw [hquiet] at hk
    cases hk
  · rw [hmark] at hnone
    cases hnone
  · exact hfences hdevice

/-- An online device stays online until a publish of it is accepted or it is marked. -/
theorem Effect.deviceOnline (h : s.Effect a r s') (hquiet : accepts d (a, r) = none)
    (hmark : marks d (a, r) = none) (honline : s.fabric.DeviceOnline d) :
    s'.fabric.DeviceOnline d := by
  rcases h.device d with ⟨k, hk⟩ | ⟨-, hsame⟩ | ⟨k, hk, -⟩
  · rw [hquiet] at hk
    cases hk
  · unfold Fabric.DeviceOnline
    rw [hsame]
    exact honline
  · rw [hmark] at hk
    cases hk

/-- The connection that published a device last has it on its list, or is about to. -/
theorem publisher_noted {epoch : CoordinatorEpoch} {recovered : Option PersistedState}
    {persist : Bool} {tr : List (Act × Report)}
    (hrun : Run exec (start epoch recovered persist) tr s) (hpub : publisher d tr = some c) :
    ∃ w, s.connections[c]? = some w ∧ w.phase ≠ .greeting ∧ Noted w d := by
  refine hrun.invariant_trace (A := fun _ => True)
    (I := fun tr s => ∀ c, publisher d tr = some c →
      ∃ w, s.connections[c]? = some w ∧ w.phase ≠ .greeting ∧ Noted w d)
    (fun _ _ _ => trivial) ?_ trivial nofun c hpub
  rintro tr s a r s' - ih hexec c hpub
  have heffect := exec_effect hexec
  rw [publisher_append_singleton] at hpub
  cases haccepts : accepts d (a, r) with
  | none =>
    rw [haccepts] at hpub
    obtain ⟨w, hw, hbooted, hnoted⟩ := ih c hpub
    obtain ⟨w', hw', hgoes⟩ := heffect.continues hw hbooted
    exact ⟨w', hw', hgoes.booted, hgoes.noted d hnoted⟩
  | some k =>
    rw [haccepts] at hpub
    cases hpub
    obtain ⟨b, dev, ctx, heq, rfl⟩ := of_accepts haccepts
    cases heq
    cases heffect with
    | published here phase exec => exact ⟨_, setWorker_self _ _ _, nofun, .inr rfl⟩
    | served here phase serves exec next => cases serves
    | moved here phase boot devices next report => cases report

/-- The table leads from the boot id of an ended connection to a state that is not marked
dead and is its own, or lists the device as well. -/
def Finds (s : Coordinator) (c : ConnId) (d : DeviceId) : Prop :=
  ∃ w k target, s.connections[c]? = some w ∧ w.phase = .dying ∧
    s.workers[w.boot.value]? = some k ∧ s.connections[k]? = some target ∧ target.dead = false ∧
    (k = c ∨ d ∈ target.devices)

/-- The end of the connection has been handled. -/
def Handled (s : Coordinator) (c : ConnId) : Prop :=
  ∃ w, s.connections[c]? = some w ∧ (w.phase = .leaving ∨ w.phase = .closed)

/-- What the thread of an ended connection does next, as far as its own state goes. -/
inductive EndStep (s : Coordinator) (c : ConnId) (w : WorkerState) :
    Act × Report → WorkerState → Prop
  | waits {e : Act × Report} (other : e.1.conn ≠ some c) (dead : Bool) :
      EndStep s c w e { w with dead := dead }
  | misses {b : ℕ → UInt8} (phase : w.phase = .dying)
      (none : ∀ k target, s.workers[w.boot.value]? = some k → s.connections[k]? = some target →
        target.dead = true) :
      EndStep s c w (.advance c b, .silent) { w with phase := .leaving }
  | finds {b : ℕ → UInt8} {k : ConnId} {target : WorkerState} {dead : Bool}
      (phase : w.phase = .dying) (entry : s.workers[w.boot.value]? = some k)
      (owner : s.connections[k]? = some target) (alive : target.dead = false) :
      EndStep s c w (.advance c b, .silent) { w with dead := dead, phase := .fencing target.devices }
  | marks {b : ℕ → UInt8} {out : Outcome} {id : DeviceId} {ds : List DeviceId}
      (phase : w.phase = .fencing (id :: ds)) :
      EndStep s c w (.advance c b, .performed (.markDeviceRevalidation id s.deathContext) out)
        { w with phase := .fencing ds }
  | unlocks {b : ℕ → UInt8} (phase : w.phase = .fencing []) :
      EndStep s c w (.advance c b, .silent) { w with phase := .leaving }
  | closes {b : ℕ → UInt8} (phase : w.phase = .leaving) :
      EndStep s c w (.advance c b, .silent) { w with phase := .closed }

theorem Effect.endStep (h : s.Effect a r s') (hw : s.connections[c]? = some w)
    (hended : w.phase.Ended) :
    ∃ w', s'.connections[c]? = some w' ∧ EndStep s c w (a, r) w' := by
  by_cases hc : a.conn = some c
  · have hsame {v : WorkerState} (hv : s.connections[c]? = some v) : v = w :=
      Option.some.inj (hv.symm.trans hw)
    cases h with
    | missed here phase free none =>
      cases hc
      cases hsame here
      exact ⟨_, setWorker_self _ _ _, .misses phase none⟩
    | @found _ k _ target b here phase free entry owner alive =>
      cases hc
      cases hsame here
      refine ⟨_, setWorker_self _ _ _, ?_⟩
      split
      · exact .finds phase entry owner alive
      · exact .finds phase entry owner alive
    | fenced here phase exec =>
      cases hc
      cases hsame here
      exact ⟨_, setWorker_self _ _ _, .marks phase⟩
    | unlocked here phase =>
      cases hc
      cases hsame here
      exact ⟨_, setWorker_self _ _ _, .unlocks phase⟩
    | left here phase free =>
      cases hc
      cases hsame here
      exact ⟨_, setWorker_self _ _ _, .closes phase⟩
    | accepted fresh =>
      cases hc
      rw [fresh] at hw
      cases hw
    | signalled => cases hc
    | served here phase | moved here phase =>
      cases hc
      cases hsame here
      rcases hended with hp | ⟨ds, hp⟩ | hp | hp <;> simp [hp, Phase.inService] at phase
    | booted here phase | refused here phase | received here phase | lost here phase
    | entered here phase | looped here phase | published here phase | noted here phase =>
      cases hc
      cases hsame here
      rcases hended with hp | ⟨ds, hp⟩ | hp | hp <;> simp [hp] at phase
  · obtain ⟨dead, hw'⟩ := h.other hw hc
    exact ⟨_, hw', .waits hc dead⟩

theorem EndStep.ended {w' : WorkerState} {e : Act × Report} (h : EndStep s c w e w')
    (hended : w.phase.Ended) : w'.phase.Ended ∧ w'.devices = w.devices := by
  refine ⟨?_, by cases h <;> rfl⟩
  cases h with
  | waits other dead => exact hended
  | misses phase | unlocks phase => exact .inr (.inr (.inl rfl))
  | finds phase entry owner alive => exact .inr (.inl ⟨_, rfl⟩)
  | marks phase => exact .inr (.inl ⟨_, rfl⟩)
  | closes phase => exact .inr (.inr (.inr rfl))

/-- Until the next publish of it an online or fenced device is online or fenced. -/
theorem Effect.online_or_fenced (h : s.Effect a r s') (hquiet : accepts d (a, r) = none)
    (hdevice : s.fabric.DeviceOnline d ∨ s.fabric.DeviceFenced d) :
    s'.fabric.DeviceOnline d ∨ s'.fabric.DeviceFenced d := by
  rcases hdevice with honline | hfenced
  · cases hmark : marks d (a, r) with
    | none => exact .inl (h.deviceOnline hquiet hmark honline)
    | some k => exact .inr (h.marks_fences hquiet hmark (.inl honline))
  · exact .inr (h.deviceFenced hquiet hfenced)

/-- The connection has ended, with the device on its list. -/
structure Pending (s : Coordinator) (c : ConnId) (d : DeviceId) : Prop where
  worker : ∃ w, s.connections[c]? = some w ∧ w.phase.Ended ∧ d ∈ w.devices
  device : s.fabric.DeviceOnline d ∨ s.fabric.DeviceFenced d

theorem Pending.step (h : s.Pending c d) (hquiet : accepts d (a, r) = none)
    (heffect : s.Effect a r s') : s'.Pending c d := by
  refine ⟨?_, heffect.online_or_fenced hquiet h.device⟩
  obtain ⟨w, hw, hended, hmem⟩ := h.worker
  obtain ⟨w', hw', hstep⟩ := heffect.endStep hw hended
  obtain ⟨hended', hdevices⟩ := hstep.ended hended
  refine ⟨w', hw', hended', ?_⟩
  rw [hdevices]
  exact hmem

theorem Pending.run {tr : List (Act × Report)} (h : s.Pending c d) (hrun : Run exec s tr s')
    (hquiet : ∀ e ∈ tr, accepts d e = none) : s'.Pending c d := by
  refine hrun.invariant (A := fun e => accepts d e = none) (I := fun s => s.Pending c d) ?_ hquiet h
  intro s a r s' hquiet h hexec
  exact h.step hquiet (exec_effect hexec)

/-- The device is fenced, or still to be marked by the thread of the connection. -/
def Fencing (s : Coordinator) (c : ConnId) (d : DeviceId) : Prop :=
  s.fabric.DeviceFenced d ∨ s.fabric.DeviceOnline d ∧
    ∃ w ds, s.connections[c]? = some w ∧ w.phase = .fencing ds ∧ d ∈ ds

theorem Fencing.step (h : s.Fencing c d) (hquiet : accepts d (a, r) = none)
    (heffect : s.Effect a r s') : s'.Fencing c d := by
  rcases h with hfenced | ⟨honline, w, ds, hw, hphase, hmem⟩
  · exact .inl (heffect.deviceFenced hquiet hfenced)
  cases hmark : marks d (a, r) with
  | some k => exact .inl (heffect.marks_fences hquiet hmark (.inl honline))
  | none =>
    refine .inr ⟨heffect.deviceOnline hquiet hmark honline, ?_⟩
    obtain ⟨w', hw', hstep⟩ := heffect.endStep hw (.inr (.inl ⟨ds, hphase⟩))
    cases hstep with
    | waits other dead => exact ⟨_, ds, hw', hphase, hmem⟩
    | @marks b out id rest phase =>
      cases hphase.symm.trans phase
      have hne : d ≠ id := by
        rintro rfl
        simp [Coordinator.marks] at hmark
      exact ⟨_, rest, hw', rfl, (List.mem_cons.mp hmem).resolve_left hne⟩
    | unlocks phase =>
      cases hphase.symm.trans phase
      cases hmem
    | misses phase | finds phase | closes phase => cases hphase.symm.trans phase

theorem Fencing.run {tr : List (Act × Report)} (h : s.Fencing c d) (hrun : Run exec s tr s')
    (hquiet : ∀ e ∈ tr, accepts d e = none) : s'.Fencing c d := by
  refine hrun.invariant (A := fun e => accepts d e = none) (I := fun s => s.Fencing c d) ?_ hquiet h
  intro s a r s' hquiet h hexec
  exact h.step hquiet (exec_effect hexec)

/-- The device is online, and the thread of the connection will not mark it unless it
finds a state that lists it. -/
def Overlooked (s : Coordinator) (c : ConnId) (d : DeviceId) : Prop :=
  s.fabric.DeviceOnline d ∧ ∃ w, s.connections[c]? = some w ∧ w.phase.Ended ∧
    ∀ ds, w.phase = .fencing ds → d ∉ ds

theorem Overlooked.step (h : s.Overlooked c d) (hquiet : accepts d (a, r) = none)
    (hothers : ∀ k, marks d (a, r) = some k → k = c)
    (hfinds : ∀ b, a = .advance c b → ¬s.Finds c d) (heffect : s.Effect a r s') :
    s'.Overlooked c d := by
  obtain ⟨honline, w, hw, hended, hlist⟩ := h
  obtain ⟨w', hw', hstep⟩ := heffect.endStep hw hended
  have hmark : marks d (a, r) = none := by
    cases hmark : marks d (a, r) with
    | none => rfl
    | some k =>
      cases hothers k hmark
      obtain ⟨b, ctx, out, heq⟩ := of_marks hmark
      cases heq
      cases hstep with
      | waits other dead => exact absurd rfl other
      | marks phase => exact absurd List.mem_cons_self (hlist _ phase)
  refine ⟨heffect.deviceOnline hquiet hmark honline, w', hw', (hstep.ended hended).1, ?_⟩
  intro ds hds
  cases hstep with
  | waits other dead => exact hlist ds hds
  | @finds b k target dead phase entry owner alive =>
    cases hds
    intro hmem
    exact hfinds b rfl ⟨w, k, target, hw, phase, entry, owner, alive, .inr hmem⟩
  | marks phase =>
    cases hds
    intro hmem
    exact hlist _ phase (List.mem_cons_of_mem _ hmem)
  | misses phase | unlocks phase | closes phase => cases hds

/-- From the state that the table leads to, the thread takes the device on. -/
theorem Finds.fencing {b : ℕ → UInt8} (hfinds : s.Finds c d) (hpending : s.Pending c d)
    (hquiet : accepts d (.advance c b, r) = none) (heffect : s.Effect (.advance c b) r s') :
    s'.Fencing c d := by
  obtain ⟨w, k, target, hw, hphase, hentry, howner, halive, hlists⟩ := hfinds
  obtain ⟨w', hw', hstep⟩ := heffect.endStep hw (.inl hphase)
  rcases heffect.online_or_fenced hquiet hpending.device with honline | hfenced
  · refine .inr ⟨honline, ?_⟩
    cases hstep with
    | waits other dead => exact absurd rfl other
    | misses phase none =>
      rw [none k target hentry howner] at halive
      cases halive
    | @finds b k' target' dead phase entry owner alive =>
      cases hentry.symm.trans entry
      cases howner.symm.trans owner
      refine ⟨_, _, hw', rfl, ?_⟩
      rcases hlists with rfl | hmem
      · obtain ⟨v, hv, -, hmem⟩ := hpending.worker
        cases hv.symm.trans owner
        exact hmem
      · exact hmem
    | marks phase | unlocks phase | closes phase => cases hphase.symm.trans phase
  · exact .inl hfenced

theorem Fencing.handled (h : s.Fencing c d) (hdone : s.Handled c) : s.fabric.DeviceFenced d := by
  rcases h with hfenced | ⟨-, w, ds, hw, hphase, -⟩
  · exact hfenced
  · obtain ⟨v, hv, hleft⟩ := hdone
    cases hw.symm.trans hv
    rw [hphase] at hleft
    simp at hleft

/-- The receive of the connection that published a device last fails. -/
theorem pending_of_lost {epoch : CoordinatorEpoch} {recovered : Option PersistedState}
    {persist : Bool} {tr : List (Act × Report)}
    (hrun : Run exec (start epoch recovered persist) tr s) (hpub : publisher d tr = some c)
    (honline : s.fabric.DeviceOnline d) (hlost : s.exec (.receive c none) = some (s', r)) :
    s'.fabric.DeviceOnline d ∧
      ∃ w, s'.connections[c]? = some w ∧ w.phase = .dying ∧ d ∈ w.devices := by
  obtain ⟨w, hw, hbooted, hnoted⟩ := publisher_noted hrun hpub
  cases exec_effect hlost with
  | refused here phase =>
    cases hw.symm.trans here
    exact absurd phase hbooted
  | lost here phase =>
    cases hw.symm.trans here
    refine ⟨honline, _, setWorker_self _ _ _, rfl, ?_⟩
    rcases hnoted with hmem | hphase
    · exact hmem
    · rw [phase] at hphase
      cases hphase

/-- The end of a connection that finds a state with the device fences the device. -/
theorem Pending.fenced_of_finds {tr : List (Act × Report)} {t t' : Coordinator} {b : ℕ → UInt8}
    (hpending : s.Pending c d) (hrun : Run exec s tr s') (hquiet : ∀ e ∈ tr, accepts d e = none)
    (hdone : s'.Handled c) (hoccurs : Occurs exec s tr t (.advance c b) t') (hfinds : t.Finds c d) :
    s'.fabric.DeviceFenced d := by
  obtain ⟨tr₁, r, tr₂, rfl, hbefore, hexec, hafter⟩ := hoccurs.split hrun
  have hpending' := hpending.run hbefore fun e he => hquiet e (by simp [he])
  have hstep := hquiet (.advance c b, r) (by simp)
  have hfencing := hfinds.fencing hpending' hstep (exec_effect hexec)
  exact (hfencing.run hafter fun e he => hquiet e (by simp [he])).handled hdone

/-- The end of the connection that published an online device last fences the device if
and only if the state found for it lists the device, or another dead worker has the device
marked meanwhile. -/
theorem worker_death_fences_iff {epoch : CoordinatorEpoch} {recovered : Option PersistedState}
    {persist : Bool} {tr tr' : List (Act × Report)} {s₁ s₂ : Coordinator}
    (hrun : Run exec (start epoch recovered persist) tr s) (hpub : publisher d tr = some c)
    (honline : s.fabric.DeviceOnline d) (hlost : s.exec (.receive c none) = some (s₁, r))
    (hrun' : Run exec s₁ tr' s₂) (hdone : s₂.Handled c) (hlater : publisher d tr' = none) :
    s₂.fabric.DeviceFenced d ↔
      (∃ t b t', Occurs exec s₁ tr' t (.advance c b) t' ∧ t.Finds c d) ∨
      ∃ e ∈ tr', ∃ k, marks d e = some k ∧ k ≠ c := by
  obtain ⟨honline₁, w, hw, hphase, hmem⟩ := pending_of_lost hrun hpub honline hlost
  rw [publisher_eq_none] at hlater
  have hpending : s₁.Pending c d := ⟨⟨w, hw, .inl hphase, hmem⟩, .inl honline₁⟩
  constructor
  · intro hfenced
    by_contra hnot
    push Not at hnot
    obtain ⟨hmisses, hothers⟩ := hnot
    -- Nobody marks the device, so it is still online at the end.
    have hguarded : GuardedRun exec (fun t a => ∀ b, a = .advance c b → ¬t.Finds c d) s₁ tr' s₂ := by
      refine .of_occurs hrun' ?_
      rintro t a t' hoccurs b rfl
      exact hmisses t b t' hoccurs
    have hover : s₂.Overlooked c d := by
      refine hguarded.invariant
        (A := fun e => accepts d e = none ∧ ∀ k, marks d e = some k → k = c)
        (I := fun s => s.Overlooked c d) ?_ (fun e he => ⟨hlater e he, hothers e he⟩) ?_
      · rintro s a r s' hfinds ⟨hquiet, hown⟩ h hexec
        exact h.step hquiet hown hfinds (exec_effect hexec)
      · refine ⟨honline₁, w, hw, .inl hphase, ?_⟩
        rw [hphase]
        nofun
    exact hover.1.not_fenced hfenced
  · rintro (⟨t, b, t', hoccurs, hfinds⟩ | ⟨e, he, k, hmark, -⟩)
    · exact hpending.fenced_of_finds hrun' hlater hdone hoccurs hfinds
    · obtain ⟨tr₁, tr₂, t, t', rfl, hbefore, hexec, hafter⟩ := hrun'.split_mem he
      have hpending' := hpending.run hbefore fun e he => hlater e (by simp [he])
      have hfenced : t'.fabric.DeviceFenced d :=
        (exec_effect hexec).marks_fences (hlater e (by simp)) hmark hpending'.device
      have hfencing : t'.Fencing c d := .inl hfenced
      exact (hfencing.run hafter fun e he => hlater e (by simp [he])).handled hdone

/-- The trace up to the failed receive of connection 0, the states around it and the trace
of the steps that its thread takes from there. -/
structure Death where
  before : List (Act × Report)
  source : Coordinator
  lost : Coordinator
  report : Report
  after : List (Act × Report)
  final : Coordinator

def death (acts : List Act) (n : ℕ) : Option Death :=
  (execAll exec (start ⟨1⟩ none false) acts).bind fun q =>
    (q.2.exec (.receive 0 none)).bind fun p =>
      (execAll exec p.1 (Worker.steps 0 n)).map fun q' => ⟨q.1, q.2, p.1, p.2, q'.1, q'.2⟩

/-- Connection 0 published the online device last, and its end has been handled. -/
def Death.handled (x : Death) (d : DeviceId) : Bool :=
  publisher d x.before = some 0 ∧ publisher d x.after = none ∧
    x.source.fabric.state.devices[d]?.any (·.state = .named .online) = true ∧
    x.final.connections[0]?.any (·.phase = .closed) = true

theorem death_spec {acts : List Act} {n : ℕ} {x : Death} (h : death acts n = some x)
    (hhandled : x.handled d = true) :
    Run exec (start ⟨1⟩ none false) x.before x.source ∧ publisher d x.before = some 0 ∧
      x.source.fabric.DeviceOnline d ∧
      x.source.exec (.receive 0 none) = some (x.lost, x.report) ∧
      execAll exec x.lost (Worker.steps 0 n) = some (x.after, x.final) ∧ x.final.Handled 0 ∧
      publisher d x.after = none := by
  obtain ⟨q, hq, hbind⟩ := Option.bind_eq_some_iff.mp h
  obtain ⟨p, hp, hmap⟩ := Option.bind_eq_some_iff.mp hbind
  obtain ⟨q', hq', rfl⟩ := Option.map_eq_some_iff.mp hmap
  simp only [Death.handled, decide_eq_true_eq] at hhandled
  obtain ⟨hbefore, hafter, honline, hclosed⟩ := hhandled
  obtain ⟨dev, hdev, hstate⟩ := (Option.any_eq_true _ _).mp honline
  obtain ⟨w, hw, hphase⟩ := (Option.any_eq_true _ _).mp hclosed
  exact ⟨Run.of_execAll hq, hbefore, ⟨dev, hdev, by simpa using hstate⟩, hp, hq',
    ⟨w, hw, .inr (by simpa using hphase)⟩, hafter⟩

/-- The boot id of connection 0 leads to its own state. -/
def Death.findsSelf (x : Death) : Bool :=
  x.lost.connections[0]?.any fun w =>
    w.phase = .dying ∧ x.lost.workers[w.boot.value]? = some 0 ∧ w.dead = false

/-- A worker that is alone dies, and its device is fenced. -/
theorem worker_death_fences_alone :
    ∃ x : Death, Run exec (start ⟨1⟩ none false) x.before x.source ∧
      publisher ⟨str "dev-1"⟩ x.before = some 0 ∧ x.source.fabric.DeviceOnline ⟨str "dev-1"⟩ ∧
      x.source.exec (.receive 0 none) = some (x.lost, x.report) ∧
      Run exec x.lost x.after x.final ∧ x.final.Handled 0 ∧
      publisher ⟨str "dev-1"⟩ x.after = none ∧ x.final.fabric.DeviceFenced ⟨str "dev-1"⟩ := by
  have hrun : (death (Worker.publish 0 (str "w-1")) 4).any (fun x =>
      x.handled ⟨str "dev-1"⟩ && x.findsSelf) = true := by decide +kernel
  obtain ⟨x, hx, hchecks⟩ := (Option.any_eq_true _ _).mp hrun
  obtain ⟨hhandled, hself⟩ := Bool.and_eq_true_iff.mp hchecks
  obtain ⟨hbefore, hpub, honline, hlost, hsteps, hdone, hlater⟩ := death_spec hx hhandled
  have hafter := Run.of_execAll hsteps
  refine ⟨x, hbefore, hpub, honline, hlost, hafter, hdone, hlater, ?_⟩
  refine (worker_death_fences_iff hbefore hpub honline hlost hafter hdone hlater).mpr (.inl ?_)
  obtain ⟨w, hw, hfinds⟩ := (Option.any_eq_true _ _).mp hself
  simp only [decide_eq_true_eq] at hfinds
  obtain ⟨hphase, hentry, halive⟩ := hfinds
  obtain ⟨t', hoccurs⟩ := Occurs.of_execAll hsteps
  exact ⟨x.lost, _, t', hoccurs, w, 0, w, hw, hphase, hentry, hw, halive, .inl rfl⟩

/-- A second connection boots with the same id before the end of the first is noticed, and
the device of the first stays online. -/
theorem overwritten_entry_keeps_evidence :
    ∃ x : Death, Run exec (start ⟨1⟩ none false) x.before x.source ∧
      publisher ⟨str "dev-1"⟩ x.before = some 0 ∧ x.source.fabric.DeviceOnline ⟨str "dev-1"⟩ ∧
      x.source.exec (.receive 0 none) = some (x.lost, x.report) ∧
      Run exec x.lost x.after x.final ∧ x.final.Handled 0 ∧
      publisher ⟨str "dev-1"⟩ x.after = none ∧ x.final.fabric.DeviceOnline ⟨str "dev-1"⟩ ∧
      ¬x.final.fabric.DeviceFenced ⟨str "dev-1"⟩ := by
  have hrun : (death (Worker.publish 0 (str "w-1") ++ Worker.connect 1 (str "w-1")) 3).any (fun x =>
      x.handled ⟨str "dev-1"⟩ && x.final.fabric.state.devices[(⟨str "dev-1"⟩ : DeviceId)]?.any
        fun dev => dev.state = .named .online ∧ dev.evidenceCurrent = true) = true := by
    decide +kernel
  obtain ⟨x, hx, hchecks⟩ := (Option.any_eq_true _ _).mp hrun
  obtain ⟨hhandled, hkept⟩ := Bool.and_eq_true_iff.mp hchecks
  obtain ⟨hbefore, hpub, honline, hlost, hsteps, hdone, hlater⟩ := death_spec hx hhandled
  have hafter := Run.of_execAll hsteps
  obtain ⟨dev, hdev, hstate⟩ := (Option.any_eq_true _ _).mp hkept
  simp only [decide_eq_true_eq] at hstate
  have hfinal : x.final.fabric.DeviceOnline ⟨str "dev-1"⟩ := ⟨dev, hdev, hstate.1⟩
  exact ⟨x, hbefore, hpub, honline, hlost, hafter, hdone, hlater, hfinal, hfinal.not_fenced⟩

end Coordinator

end CxlFabric
