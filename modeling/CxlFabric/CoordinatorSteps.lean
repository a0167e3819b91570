import CxlFabric.Coordinator

/-! # One step of the coordinator

`Effect` says everything an action can do. A step that calls the engine is one step of
the engine, so a run of the coordinator is a run of its engine. -/
namespace CxlFabric

/-- The thread is in its loop and has no registered device to note. -/
def Phase.inService : Phase → Bool
  | .looping | .receiving | .dispatching _ | .duplicatePool _ | .duplicateRegion _ | .reserved _
  | .replying _ _ | .exporting | .writing _ => true
  | _ => false

theorem Phase.ne_greeting {p : Phase} (h : p.inService = true) : p ≠ .greeting := by
  rintro rfl
  cases h

theorem Phase.ne_registered {p : Phase} (h : p.inService = true) (d : DeviceId)
    (r : DecisionReason) : p ≠ .registered d r := by
  rintro rfl
  cases h

@[simp] theorem inService_finish (t : FrameType) : (Coordinator.finish t).inService = true := by
  unfold Coordinator.finish
  split <;> rfl

/-- The connection an action belongs to. -/
def Act.conn : Act → Option ConnId
  | .accept c | .receive c _ | .advance c _ => some c
  | .signal => none

/-- The call of the engine that a report is about. -/
def Report.call : Report → Option (Op × Outcome)
  | .performed op out => some (op, out)
  | _ => none

namespace Coordinator

/-- The calls of the engine on behalf of a worker, apart from the registration. -/
inductive Serves (ctx : AuthorityContext) : Op → Prop
  | reserve (req : AdmissionRequest) : Serves ctx (.reserve req ctx)
  | commit (id : ReservationId) : Serves ctx (.commit id ctx)
  | release (id : ReservationId) : Serves ctx (.release id ctx)
  | createPool (pool : CxlPool) : Serves ctx (.createPool pool ctx)
  | createRegion (region : CxlRegion) : Serves ctx (.createRegion region ctx)
  | revalidatePool (id : PoolId) : Serves ctx (.revalidatePool id ctx)
  | revalidateRegion (id : RegionId) : Serves ctx (.revalidateRegion id ctx)

variable (s : Coordinator)

inductive Effect : Act → Report → Coordinator → Prop
  | accepted {c : ConnId} (fresh : s.connections[c]? = none) :
      Effect (.accept c) .silent (s.setWorker c {})
  | signalled : Effect .signal .silent { s with running := false }
  | booted {c : ConnId} {w : WorkerState} {f : Frame} (here : s.connections[c]? = some w)
      (phase : w.phase = .greeting) (type : f.type = .workerBoot) :
      Effect (.receive c (some f)) .silent
        (s.setWorker c { w with boot := ⟨f.payload⟩, phase := .booting })
  | refused {c : ConnId} {w : WorkerState} {result : Option Frame}
      (here : s.connections[c]? = some w) (phase : w.phase = .greeting) :
      Effect (.receive c result) .silent (s.setWorker c { w with phase := .closed })
  | received {c : ConnId} {w : WorkerState} {f : Frame} (here : s.connections[c]? = some w)
      (phase : w.phase = .receiving) :
      Effect (.receive c (some f)) .silent (s.setWorker c { w with phase := .dispatching f })
  | lost {c : ConnId} {w : WorkerState} (here : s.connections[c]? = some w)
      (phase : w.phase = .receiving) :
      Effect (.receive c none) .silent (s.setWorker c { w with phase := .dying })
  | entered {c : ConnId} {w : WorkerState} {b : ℕ → UInt8} (here : s.connections[c]? = some w)
      (phase : w.phase = .booting) (free : s.fencer = none) :
      Effect (.advance c b) .silent ({ s with workers := s.workers.insert w.boot.value c }.setWorker
        c { w with phase := .looping })
  | looped {c : ConnId} {w : WorkerState} {b : ℕ → UInt8} (here : s.connections[c]? = some w)
      (phase : w.phase = .looping) :
      Effect (.advance c b) .silent
        (s.setWorker c { w with phase := if s.running then .receiving else .leaving })
  | published {c : ConnId} {w : WorkerState} {b : ℕ → UInt8} {f : Frame} {d : CxlDevice}
      {fabric : Fabric} {r : DecisionReason} (here : s.connections[c]? = some w)
      (phase : w.phase = .dispatching f)
      (exec : s.fabric.exec (.registerDevice d (s.context w)) = some (fabric, .decision r)) :
      Effect (.advance c b) (.performed (.registerDevice d (s.context w)) (.decision r))
        ({ s with fabric := fabric }.setWorker c { w with phase := .registered d.id r })
  | noted {c : ConnId} {w : WorkerState} {b : ℕ → UInt8} {id : DeviceId} {r : DecisionReason}
      (here : s.connections[c]? = some w) (phase : w.phase = .registered id r) :
      Effect (.advance c b) (.sent (ackFrame r)) (s.setWorker c { w with
        devices := if r = .ok then w.devices ++ [id] else w.devices
        phase := finish .publishDevice })
  | served {c : ConnId} {w : WorkerState} {b : ℕ → UInt8} {op : Op} {out : Outcome}
      {fabric : Fabric} {p : Phase} (here : s.connections[c]? = some w)
      (phase : w.phase.inService = true) (serves : Serves (s.context w) op)
      (exec : s.fabric.exec op = some (fabric, out)) (next : p.inService = true) :
      Effect (.advance c b) (.performed op out)
        ({ s with fabric := fabric }.setWorker c { w with phase := p })
  | moved {c : ConnId} {w w' : WorkerState} {b : ℕ → UInt8} {r : Report} {running : Bool}
      {saved : Option (List UInt8)} (here : s.connections[c]? = some w)
      (phase : w.phase.inService = true) (boot : w'.boot = w.boot)
      (devices : w'.devices = w.devices) (next : w'.phase.inService = true)
      (report : r.call = none) (dead : w'.dead = w.dead) :
      Effect (.advance c b) r ({ s with running := running, saved := saved }.setWorker c w')
  | missed {c : ConnId} {w : WorkerState} {b : ℕ → UInt8} (here : s.connections[c]? = some w)
      (phase : w.phase = .dying) (free : s.fencer = none)
      (none : ∀ k target, s.workers[w.boot.value]? = some k → s.connections[k]? = some target →
        target.dead = true) :
      Effect (.advance c b) .silent (s.setWorker c { w with phase := .leaving })
  | found {c k : ConnId} {w target : WorkerState} {b : ℕ → UInt8}
      (here : s.connections[c]? = some w) (phase : w.phase = .dying) (free : s.fencer = none)
      (entry : s.workers[w.boot.value]? = some k) (owner : s.connections[k]? = some target)
      (alive : target.dead = false) :
      Effect (.advance c b) .silent
        ({ s with fencer := some c }.setWorker k { target with dead := true } |>.setWorker c
          { (if k = c then { w with dead := true } else w) with phase := .fencing target.devices })
  | fenced {c : ConnId} {w : WorkerState} {b : ℕ → UInt8} {d : DeviceId} {ds : List DeviceId}
      {fabric : Fabric} {r : DecisionReason} (here : s.connections[c]? = some w)
      (phase : w.phase = .fencing (d :: ds))
      (exec : s.fabric.exec (.markDeviceRevalidation d s.deathContext) =
        some (fabric, .decision r)) :
      Effect (.advance c b) (.performed (.markDeviceRevalidation d s.deathContext) (.decision r))
        ({ s with fabric := fabric }.setWorker c { w with phase := .fencing ds })
  | unlocked {c : ConnId} {w : WorkerState} {b : ℕ → UInt8} (here : s.connections[c]? = some w)
      (phase : w.phase = .fencing []) :
      Effect (.advance c b) .silent
        ({ s with fencer := none }.setWorker c { w with phase := .leaving })
  | left {c : ConnId} {w : WorkerState} {b : ℕ → UInt8} (here : s.connections[c]? = some w)
      (phase : w.phase = .leaving) (free : s.fencer = none) :
      Effect (.advance c b) .silent ({ s with workers := s.workers.erase w.boot.value }.setWorker
        c { w with phase := .closed })

variable {s : Coordinator} {s' : Coordinator} {c : ConnId} {w : WorkerState} {r : Report}
  {b : ℕ → UInt8}

theorem goto_effect {p : Phase} (here : s.connections[c]? = some w)
    (phase : w.phase.inService = true) (next : p.inService = true) (running : Bool)
    (saved : Option (List UInt8))
    (h : { s with running := running, saved := saved }.goto c w p = some (s', r)) :
    s.Effect (.advance c b) r s' := by
  cases h
  exact .moved here phase rfl rfl next rfl rfl

theorem perform_effect {p : Phase} {fabric : Fabric} {op : Op} {out : Outcome}
    (here : s.connections[c]? = some w) (phase : w.phase.inService = true)
    (serves : Serves (s.context w) op) (next : p.inService = true)
    (exec : s.fabric.exec op = some (fabric, out))
    (h : s.perform c w p fabric op out = some (s', r)) : s.Effect (.advance c b) r s' := by
  cases h
  exact .served here phase serves exec next

theorem dispatch_effect {f : Frame} (here : s.connections[c]? = some w)
    (phase : w.phase = .dispatching f) (h : s.dispatch c w f b = some (s', r)) :
    s.Effect (.advance c b) r s' := by
  have hservice : w.phase.inService = true := by
    rw [phase]
    rfl
  unfold dispatch at h
  dsimp only at h
  split at h
  · split at h
    · exact goto_effect here hservice rfl _ _ h
    · cases h
      exact .published here phase rfl
  · split at h
    · exact goto_effect here hservice rfl _ _ h
    · split at h
      · cases h
      · next hreserve =>
        refine perform_effect here hservice (.reserve _) rfl ?_ h
        simp only [Fabric.exec, hreserve, Option.map_some]
  · exact perform_effect here hservice (.commit _) rfl rfl h
  · exact perform_effect here hservice (.release _) rfl rfl h
  · exact goto_effect here hservice rfl _ _ h
  · split at h
    · exact goto_effect here hservice rfl _ _ h
    · refine perform_effect here hservice (.createPool _) ?_ rfl h
      split <;> rfl
  · split at h
    · exact goto_effect here hservice rfl _ _ h
    · refine perform_effect here hservice (.createRegion _) ?_ rfl h
      split <;> rfl
  · exact goto_effect here hservice (inService_finish _) _ _ h
  · exact goto_effect here hservice rfl _ _ h

theorem findDead_effect (here : s.connections[c]? = some w) (phase : w.phase = .dying)
    (free : s.fencer = none) (h : s.findDead c w = some (s', r)) :
    s.Effect (.advance c b) r s' := by
  unfold findDead at h
  split at h
  · next hnone =>
    cases h
    refine .missed here phase free ?_
    intro k target hk
    rw [hnone] at hk
    cases hk
  next k hentry =>
  split at h
  · next hnone =>
    cases h
    refine .missed here phase free ?_
    intro k' target hk htarget
    cases hentry.symm.trans hk
    rw [hnone] at htarget
    cases htarget
  next target howner =>
  split at h
  · next hdead =>
    cases h
    refine .missed here phase free ?_
    intro k' target' hk htarget
    cases hentry.symm.trans hk
    cases howner.symm.trans htarget
    exact hdead
  · next halive =>
    cases h
    exact .found here phase free hentry howner (by simpa using halive)

theorem advance_effect (h : s.advance c b = some (s', r)) : s.Effect (.advance c b) r s' := by
  unfold advance at h
  split at h
  · cases h
  next w here =>
  split at h
  · cases h
  · cases h
  · cases h
  · next phase =>
    split at h
    · cases h
    · next hfree =>
      cases h
      exact .entered here phase (by simpa using hfree)
  · next phase =>
    cases h
    exact .looped here phase
  · next f phase => exact dispatch_effect here phase h
  · next id reason phase =>
    cases h
    exact .noted here phase
  · next id phase =>
    exact perform_effect here (by rw [phase]; rfl) (.revalidatePool _) rfl rfl h
  · next id phase =>
    exact perform_effect here (by rw [phase]; rfl) (.revalidateRegion _) rfl rfl h
  · next o phase =>
    cases h
    exact .moved here (by rw [phase]; rfl) rfl rfl (inService_finish .reserve) rfl rfl
  · next type resp phase =>
    cases h
    exact .moved here (by rw [phase]; rfl) rfl rfl (inService_finish type) rfl rfl
  · next phase =>
    have hservice : w.phase.inService = true := by
      rw [phase]
      rfl
    split at h
    · exact goto_effect here hservice rfl _ _ h
    · split at h
      · exact goto_effect here hservice rfl _ _ h
      · exact goto_effect here hservice rfl _ _ h
  · next payload phase =>
    have hservice : w.phase.inService = true := by
      rw [phase]
      rfl
    split at h
    · exact goto_effect here hservice rfl _ _ h
    · exact goto_effect here hservice rfl _ _ h
  · next phase =>
    split at h
    · cases h
    · next hfree => exact findDead_effect here phase (by simpa using hfree) h
  · next phase =>
    cases h
    exact .unlocked here phase
  · next d ds phase =>
    cases h
    exact .fenced here phase rfl
  · next phase =>
    split at h
    · cases h
    · next hfree =>
      cases h
      exact .left here phase (by simpa using hfree)

theorem receive_effect {result : Option Frame} (h : s.receive c result = some (s', r)) :
    s.Effect (.receive c result) r s' := by
  unfold receive at h
  split at h
  · cases h
  next w here =>
  split at h
  · next f phase =>
    split at h
    · next type =>
      cases h
      exact .booted (w := w) here phase type
    · cases h
      exact .refused here phase
  · next phase =>
    cases h
    exact .refused here phase
  · next f phase =>
    cases h
    exact .received here phase
  · next phase =>
    cases h
    exact .lost here phase
  · cases h

theorem exec_effect {a : Act} (h : s.exec a = some (s', r)) : s.Effect a r s' := by
  cases a with
  | accept c =>
    simp only [exec] at h
    split at h
    · next fresh =>
      cases h
      exact .accepted fresh
    · cases h
  | receive c result => exact receive_effect h
  | advance c beyond => exact advance_effect h
  | signal =>
    cases h
    exact .signalled

theorem setWorker_connections (s : Coordinator) (c k : ConnId) (w : WorkerState) :
    (s.setWorker c w).connections[k]? = if c = k then some w else s.connections[k]? :=
  getElem?_insert_eq s.connections c k w

@[simp] theorem setWorker_self (s : Coordinator) (c : ConnId) (w : WorkerState) :
    (s.setWorker c w).connections[c]? = some w := by rw [setWorker_connections, if_pos rfl]

theorem setWorker_other (s : Coordinator) {c k : ConnId} (hk : c ≠ k) (w : WorkerState) :
    (s.setWorker c w).connections[k]? = s.connections[k]? := by
  rw [setWorker_connections, if_neg hk]

/-- An action of another connection can only mark the state of this one as dead. -/
theorem Effect.other {a : Act} (h : s.Effect a r s') (hw : s.connections[c]? = some w)
    (hc : a.conn ≠ some c) : ∃ dead, s'.connections[c]? = some { w with dead := dead } := by
  have hne {k : ConnId} (hk : some k ≠ some c) : k ≠ c := fun h => hk (congrArg some h)
  cases h with
  | signalled => exact ⟨w.dead, hw⟩
  | @found k t _ target b here phase free entry owner alive =>
    rw [setWorker_other _ (hne hc), setWorker_connections]
    split
    · next ht =>
      subst ht
      cases owner.symm.trans hw
      exact ⟨true, rfl⟩
    · exact ⟨w.dead, hw⟩
  | accepted | booted | refused | received | lost | entered | looped | published | noted | served
  | moved | missed | fenced | unlocked | left =>
    rw [setWorker_other _ (hne hc)]
    exact ⟨w.dead, hw⟩

/-- The device is on the list of the worker, or the thread is about to put it there. -/
def Noted (w : WorkerState) (d : DeviceId) : Prop := d ∈ w.devices ∨ w.phase = .registered d .ok

/-- What stays of the state of a worker that has booted. -/
structure Continues (w w' : WorkerState) : Prop where
  boot : w'.boot = w.boot
  booted : w'.phase ≠ .greeting
  noted : ∀ d, Noted w d → Noted w' d

theorem Continues.of_devices {w w' : WorkerState} (boot : w'.boot = w.boot)
    (booted : w'.phase ≠ .greeting) (devices : w'.devices = w.devices)
    (plain : ∀ d, w.phase ≠ .registered d .ok) : Continues w w' := by
  refine ⟨boot, booted, ?_⟩
  rintro d (hmem | hphase)
  · left
    rw [devices]
    exact hmem
  · exact absurd hphase (plain d)

theorem Effect.continues {a : Act} (h : s.Effect a r s') (hw : s.connections[c]? = some w)
    (hbooted : w.phase ≠ .greeting) : ∃ w', s'.connections[c]? = some w' ∧ Continues w w' := by
  by_cases hc : a.conn = some c
  · have hsame {v : WorkerState} (hv : s.connections[c]? = some v) : v = w :=
      Option.some.inj (hv.symm.trans hw)
    cases h with
    | accepted fresh =>
      cases hc
      rw [fresh] at hw
      cases hw
    | signalled => cases hc
    | booted here phase | refused here phase =>
      cases hc
      cases hsame here
      exact absurd phase hbooted
    | looped here phase =>
      cases hc
      cases hsame here
      refine ⟨_, setWorker_self _ _ _, .of_devices rfl ?_ rfl (by simp [phase])⟩
      dsimp only
      split <;> nofun
    | @noted _ _ _ id reason here phase =>
      cases hc
      cases hsame here
      refine ⟨_, setWorker_self _ _ _, rfl, Phase.ne_greeting (inService_finish .publishDevice), ?_⟩
      rintro d (hmem | hregistered)
      · left
        dsimp only
        split
        · exact List.mem_append_left _ hmem
        · exact hmem
      · rw [phase] at hregistered
        cases hregistered
        exact .inl (List.mem_append_right _ List.mem_cons_self)
    | served here phase serves exec next =>
      cases hc
      cases hsame here
      exact ⟨_, setWorker_self _ _ _,
        .of_devices rfl (Phase.ne_greeting next) rfl fun d => Phase.ne_registered phase d _⟩
    | moved here phase boot devices next report =>
      cases hc
      cases hsame here
      exact ⟨_, setWorker_self _ _ _,
        .of_devices boot (Phase.ne_greeting next) devices fun d => Phase.ne_registered phase d _⟩
    | @found _ k _ target b here phase free entry owner alive =>
      cases hc
      cases hsame here
      refine ⟨_, setWorker_self _ _ _, .of_devices ?_ nofun ?_ (by simp [phase])⟩
      · dsimp only
        split <;> rfl
      · dsimp only
        split <;> rfl
    | received here phase | lost here phase | entered here phase | published here phase
    | missed here phase | fenced here phase | unlocked here phase | left here phase =>
      cases hc
      cases hsame here
      exact ⟨_, setWorker_self _ _ _, .of_devices rfl nofun rfl (by simp [phase])⟩
  · obtain ⟨dead, hw'⟩ := h.other hw hc
    exact ⟨_, hw', rfl, hbooted, fun _ hnoted => hnoted⟩

/-- A step performs one operation of the engine and reports it, or leaves the engine alone. -/
theorem Effect.fabric {a : Act} (h : s.Effect a r s') :
    (∃ op out, r = .performed op out ∧ s.fabric.exec op = some (s'.fabric, out)) ∨
      (r.call = none ∧ s'.fabric = s.fabric) := by
  cases h with
  | published here phase exec => exact .inl ⟨_, _, rfl, exec⟩
  | served here phase serves exec next => exact .inl ⟨_, _, rfl, exec⟩
  | fenced here phase exec => exact .inl ⟨_, _, rfl, exec⟩
  | moved here phase boot devices next report => exact .inr ⟨report, rfl⟩
  | _ => exact .inr ⟨rfl, rfl⟩

/-- The calls of the engine in a trace. -/
def calls (tr : List (Act × Report)) : List (Op × Outcome) := tr.filterMap fun e => e.2.call

/-- A run of the coordinator is a run of its engine. -/
theorem run_fabric {tr : List (Act × Report)} (h : Run exec s tr s') :
    Run Fabric.exec s.fabric (calls tr) s'.fabric := by
  induction h with
  | nil s => exact .nil s.fabric
  | @cons s t u a r tr head tail ih =>
    rcases (exec_effect head).fabric with ⟨op, out, rfl, hexec⟩ | ⟨hnone, hsame⟩
    · exact .cons hexec ih
    · have hcalls : calls ((a, r) :: tr) = calls tr := by simp [calls, hnone]
      rw [hcalls, ← hsame]
      exact ih

end Coordinator

end CxlFabric
