import CxlFabric.CoordinatorAuthority
import CxlFabric.ThreadTurns
import CxlFabric.Worker

/-! # What a client hears

The conversation of a connection lists the frames it sends, the calls of the engine its
thread makes and the replies it gets. Whatever the other threads do, it is one exchange
after the other: a request, the calls it asks for, and the answer that the last of them
decided. The calls of all connections together are one run of the engine. -/
namespace CxlFabric

inductive Event
  | request (f : Frame)
  | call (op : Op) (out : Outcome)
  | reply (resp : Frame)
  deriving DecidableEq

/-- The thread has nothing to answer. -/
def Phase.idle : Phase → Bool
  | .booting | .looping | .receiving | .exporting | .writing _ => true
  | _ => false

/-- The thread receives nothing any more. -/
def Phase.ending : Phase → Bool
  | .dying | .fencing _ | .leaving | .closed => true
  | _ => false

namespace Coordinator

/-- The part of a step in the conversation of a connection. -/
def eventOf (c : ConnId) : Act × Report → Option Event
  | (.receive k (some f), _) => if k = c then some (.request f) else none
  | (.advance k _, .performed op out) => if k = c then some (.call op out) else none
  | (.advance k _, .sent resp) => if k = c then some (.reply resp) else none
  | _ => none

def conversation (c : ConnId) (tr : List (Act × Report)) : List Event := tr.filterMap (eventOf c)

/-- The frame types that `dispatch` has a case for. -/
def served (type : FrameType) : Bool :=
  type ∈ [FrameType.publishDevice, .reserve, .commit, .release, .queryState, .publishPool,
    .publishRegion, .shutdown]

/-- The frame is answered with an error, without a call of the engine. -/
inductive Refuses (f : Frame) : String → Prop
  | device {b : ℕ → UInt8} {msg : String} (type : f.type = .publishDevice)
      (failed : Codec.decodeDevice b f.payload = .error msg) : Refuses f msg
  | reserve {b : ℕ → UInt8} {msg : String} (type : f.type = .reserve)
      (failed : Codec.decodeReserve b f.payload = .error msg) : Refuses f msg
  | pool {b : ℕ → UInt8} {msg : String} (type : f.type = .publishPool)
      (failed : Codec.decodePool b f.payload = .error msg) : Refuses f msg
  | region {b : ℕ → UInt8} {msg : String} (type : f.type = .publishRegion)
      (failed : Codec.decodeRegion b f.payload = .error msg) : Refuses f msg
  | unsupported (type : served f.type = false) : Refuses f "unsupported frame type"

/-- The call that a frame asks for. -/
inductive Asks (ctx : AuthorityContext) (f : Frame) : Op → Prop
  | device {b : ℕ → UInt8} {d : CxlDevice} (type : f.type = .publishDevice)
      (decoded : Codec.decodeDevice b f.payload = .ok d) : Asks ctx f (.registerDevice d ctx)
  | reserve {b : ℕ → UInt8} {bytes : UInt64} {consumer : Str} (type : f.type = .reserve)
      (decoded : Codec.decodeReserve b f.payload = .ok (bytes, consumer)) :
      Asks ctx f (.reserve { bytes, consumer := ⟨consumer⟩ } ctx)
  | commit (type : f.type = .commit) : Asks ctx f (.commit ⟨f.payload⟩ ctx)
  | release (type : f.type = .release) : Asks ctx f (.release ⟨f.payload⟩ ctx)
  | pool {b : ℕ → UInt8} {id : PoolId} {generation : PoolGeneration} {members : List PoolMember}
      (type : f.type = .publishPool)
      (decoded : Codec.decodePool b f.payload = .ok (id, generation, members)) :
      Asks ctx f (.createPool (publishedPool id generation members) ctx)
  | region {b : ℕ → UInt8} {region : CxlRegion} (type : f.type = .publishRegion)
      (decoded : Codec.decodeRegion b f.payload = .ok region) :
      Asks ctx f (.createRegion region ctx)

/-- The second call for a publication whose identity is taken. -/
inductive Retries (ctx : AuthorityContext) : Op → Op → Prop
  | pool (pool : CxlPool) : Retries ctx (.createPool pool ctx) (.revalidatePool pool.id ctx)
  | region (region : CxlRegion) :
      Retries ctx (.createRegion region ctx) (.revalidateRegion region.id ctx)

/-- The answer that passes on what the engine has decided. -/
inductive Conveys : FrameType → Outcome → Frame → Prop
  | decided {type : FrameType} (reason : DecisionReason)
      (publishes : type ∈ [FrameType.publishDevice, .publishPool, .publishRegion]) :
      Conveys type (.decision reason) (ackFrame reason)
  | reserved (o : ReserveOutcome) :
      Conveys .reserve (.reservation o) (reserveFrame .reserveResult o)
  | settled {type : FrameType} (o : ReserveOutcome)
      (settles : type ∈ [FrameType.commit, .release]) :
      Conveys type (.reservation o) (reserveFrame .commitResult o)

/-- What may follow a request, up to its answer; `At` holds of the states the request has
seen. -/
inductive Exchange (At : StateSnapshot → Prop) (ctx : AuthorityContext) (f : Frame) :
    List Event → Prop
  | served {op : Op} {out : Outcome} {resp : Frame} (asks : Asks ctx f op)
      (final : ∀ op', Retries ctx op op' → out ≠ .decision .duplicateIdentity)
      (answers : Conveys f.type out resp) : Exchange At ctx f [.call op out, .reply resp]
  | retried {op op' : Op} {reason : DecisionReason} {resp : Frame} (asks : Asks ctx f op)
      (retries : Retries ctx op op') (answers : Conveys f.type (.decision reason) resp) :
      Exchange At ctx f [.call op (.decision .duplicateIdentity), .call op' (.decision reason),
        .reply resp]
  | refused {msg : String} (refuses : Refuses f msg) : Exchange At ctx f [.reply (errorFrame msg)]
  | queried {snap : StateSnapshot} (type : f.type = .queryState) (seen : At snap) :
      Exchange At ctx f [.reply { type := .queryStateResult, payload := stateText snap }]
  | stopped (type : f.type = .shutdown) : Exchange At ctx f []

/-- What has followed a request so far, by where the thread stands. -/
inductive Underway (At : StateSnapshot → Prop) (ctx : AuthorityContext) (f : Frame) :
    Phase → List Event → Prop
  | dispatching : Underway At ctx f (.dispatching f) []
  | registered {d : CxlDevice} {reason : DecisionReason}
      (asks : Asks ctx f (.registerDevice d ctx)) :
      Underway At ctx f (.registered d.id reason)
        [.call (.registerDevice d ctx) (.decision reason)]
  | duplicatePool {pool : CxlPool} (asks : Asks ctx f (.createPool pool ctx)) :
      Underway At ctx f (.duplicatePool pool.id)
        [.call (.createPool pool ctx) (.decision .duplicateIdentity)]
  | duplicateRegion {region : CxlRegion} (asks : Asks ctx f (.createRegion region ctx)) :
      Underway At ctx f (.duplicateRegion region.id)
        [.call (.createRegion region ctx) (.decision .duplicateIdentity)]
  | reserved {req : AdmissionRequest} {o : ReserveOutcome} (asks : Asks ctx f (.reserve req ctx)) :
      Underway At ctx f (.reserved o) [.call (.reserve req ctx) (.reservation o)]
  | replying {resp : Frame} {x : List Event} (exchange : Exchange At ctx f (x ++ [.reply resp])) :
      Underway At ctx f (.replying f.type resp) x

/-- The conversation of a connection that has booted and waits for no answer. -/
inductive Talk (At : List Event → StateSnapshot → Prop) (ctx : AuthorityContext) :
    List Event → Prop
  | boot : Talk At ctx [.request { type := .workerBoot, payload := ctx.workerBootId.value }]
  | exchange {evts x : List Event} {f : Frame} (talk : Talk At ctx evts)
      (exchange : Exchange (At (evts ++ [.request f])) ctx f x) :
      Talk At ctx (evts ++ .request f :: x)

/-- A call on behalf of a connection that has ended. -/
inductive Fences : Event → Prop
  | call (d : DeviceId) (ctx : AuthorityContext) (reason : DecisionReason) :
      Fences (.call (.markDeviceRevalidation d ctx) (.decision reason))

/-- The conversation of a connection, by where its thread stands. -/
inductive Stands (At : List Event → StateSnapshot → Prop) (ctx : AuthorityContext) :
    Phase → List Event → Prop
  | greeting : Stands At ctx .greeting []
  | unheard : Stands At ctx .closed []
  | turnedAway {f : Frame} (type : f.type ≠ .workerBoot) : Stands At ctx .closed [.request f]
  | between {p : Phase} {evts : List Event} (idle : p.idle = true) (talk : Talk At ctx evts) :
      Stands At ctx p evts
  | within {p : Phase} {evts x : List Event} {f : Frame} (talk : Talk At ctx evts)
      (underway : Underway (At (evts ++ [.request f])) ctx f p x) :
      Stands At ctx p (evts ++ .request f :: x)
  | ended {p : Phase} {evts fences : List Event} (ending : p.ending = true)
      (talk : Talk At ctx evts) (fencing : ∀ e ∈ fences, Fences e) :
      Stands At ctx p (evts ++ fences)

section monotone
variable {ctx : AuthorityContext} {f : Frame} {p : Phase} {x evts : List Event}

theorem Exchange.mono {At At' : StateSnapshot → Prop} (hAt : ∀ snap, At snap → At' snap)
    (h : Exchange At ctx f x) : Exchange At' ctx f x := by
  cases h with
  | served asks final answers => exact .served asks final answers
  | retried asks retries answers => exact .retried asks retries answers
  | refused refuses => exact .refused refuses
  | queried type seen => exact .queried type (hAt _ seen)
  | stopped type => exact .stopped type

theorem Underway.mono {At At' : StateSnapshot → Prop} (hAt : ∀ snap, At snap → At' snap)
    (h : Underway At ctx f p x) : Underway At' ctx f p x := by
  cases h with
  | dispatching => exact .dispatching
  | registered asks => exact .registered asks
  | duplicatePool asks => exact .duplicatePool asks
  | duplicateRegion asks => exact .duplicateRegion asks
  | reserved asks => exact .reserved asks
  | replying exchange => exact .replying (exchange.mono hAt)

variable {At At' : List Event → StateSnapshot → Prop}

theorem Talk.mono (hAt : ∀ evts snap, At evts snap → At' evts snap) (h : Talk At ctx evts) :
    Talk At' ctx evts := by
  induction h with
  | boot => exact .boot
  | exchange talk exchange ih => exact .exchange ih (exchange.mono (hAt _))

theorem Stands.mono (hAt : ∀ evts snap, At evts snap → At' evts snap) (h : Stands At ctx p evts) :
    Stands At' ctx p evts := by
  cases h with
  | greeting => exact .greeting
  | unheard => exact .unheard
  | turnedAway type => exact .turnedAway type
  | between idle talk => exact .between idle (talk.mono hAt)
  | within talk underway => exact .within (talk.mono hAt) (underway.mono (hAt _))
  | ended ending talk fencing => exact .ended ending (talk.mono hAt) fencing

end monotone

@[simp] theorem idle_finish (type : FrameType) : (finish type).idle = true := by
  unfold finish
  split <;> rfl

/-- The events that a step of a thread adds to its conversation. -/
def heard : Report → List Event
  | .silent => []
  | .performed op out => [.call op out]
  | .sent resp => [.reply resp]

section steps
variable {s s' : Coordinator} {c : ConnId} {w : WorkerState} {b : ℕ → UInt8} {r : Report}
  {f : Frame} {At : StateSnapshot → Prop} {x : List Event}

/-- After its step the thread still owes the answer, or it has just given it. -/
def Proceeds (At : StateSnapshot → Prop) (ctx : AuthorityContext) (f : Frame) (x : List Event)
    (s' : Coordinator) (c : ConnId) : Prop :=
  ∃ p, s'.phaseOf c = some p ∧ (Underway At ctx f p x ∨ Exchange At ctx f x ∧ p.idle = true)

theorem phaseOf_goto {t : Coordinator} {p : Phase} (h : t.goto c w p = some (s', r)) :
    s'.phaseOf c = some p ∧ r = .silent := by
  cases h
  rw [phaseOf_setWorker, if_pos rfl]
  exact ⟨rfl, rfl⟩

theorem phaseOf_perform {fabric : Fabric} {op : Op} {out : Outcome} {p : Phase}
    (h : s.perform c w p fabric op out = some (s', r)) :
    s'.phaseOf c = some p ∧ r = .performed op out := by
  cases h
  rw [phaseOf_setWorker, if_pos rfl]
  exact ⟨rfl, rfl⟩

theorem refused_proceeds {msg : String} (refuses : Refuses f msg)
    (h : s.goto c w (.replying f.type (errorFrame msg)) = some (s', r)) :
    Proceeds At (s.context w) f (heard r) s' c := by
  obtain ⟨hphase, rfl⟩ := phaseOf_goto h
  exact ⟨_, hphase, .inl (.replying (.refused refuses))⟩

theorem dispatch_proceeds (hAt : At s.fabric.state) (h : s.dispatch c w f b = some (s', r)) :
    Proceeds At (s.context w) f (heard r) s' c := by
  unfold dispatch at h
  dsimp only at h
  split at h
  · next type =>
    split at h
    · next hdecode => exact refused_proceeds (.device type hdecode) h
    · next d hdecode =>
      obtain ⟨hphase, rfl⟩ := phaseOf_perform h
      exact ⟨_, hphase, .inl (.registered (.device type hdecode))⟩
  · next type =>
    split at h
    · next hdecode => exact refused_proceeds (.reserve type hdecode) h
    · next bytes consumer hdecode =>
      split at h
      · cases h
      · obtain ⟨hphase, rfl⟩ := phaseOf_perform h
        exact ⟨_, hphase, .inl (.reserved (.reserve type hdecode))⟩
  · next type =>
    obtain ⟨hphase, rfl⟩ := phaseOf_perform h
    refine ⟨_, hphase, .inl (.replying (.served (.commit type) ?_ ?_))⟩
    · intro op' hretries
      cases hretries
    · exact .settled _ (by simp [type])
  · next type =>
    obtain ⟨hphase, rfl⟩ := phaseOf_perform h
    refine ⟨_, hphase, .inl (.replying (.served (.release type) ?_ ?_))⟩
    · intro op' hretries
      cases hretries
    · exact .settled _ (by simp [type])
  · next type =>
    obtain ⟨hphase, rfl⟩ := phaseOf_goto h
    exact ⟨_, hphase, .inl (.replying (.queried type hAt))⟩
  · next type =>
    split at h
    · next hdecode => exact refused_proceeds (.pool type hdecode) h
    · next id generation members hdecode =>
      obtain ⟨hphase, rfl⟩ := phaseOf_perform h
      have hasks : Asks (s.context w) f
          (.createPool (publishedPool id generation members) (s.context w)) := .pool type hdecode
      generalize (s.fabric.createPool (publishedPool id generation members) (s.context w)).2 =
        reason at hphase
      split at hphase
      · next hdup =>
        subst hdup
        exact ⟨_, hphase, .inl (.duplicatePool hasks)⟩
      · next hnew =>
        refine ⟨_, hphase, .inl (.replying (.served hasks ?_ (.decided _ (by simp [type]))))⟩
        rintro op' - ⟨⟩
        exact hnew rfl
  · next type =>
    split at h
    · next hdecode => exact refused_proceeds (.region type hdecode) h
    · next region hdecode =>
      obtain ⟨hphase, rfl⟩ := phaseOf_perform h
      have hasks : Asks (s.context w) f (.createRegion region (s.context w)) :=
        .region type hdecode
      generalize (s.fabric.createRegion region (s.context w)).2 = reason at hphase
      split at hphase
      · next hdup =>
        subst hdup
        exact ⟨_, hphase, .inl (.duplicateRegion hasks)⟩
      · next hnew =>
        refine ⟨_, hphase, .inl (.replying (.served hasks ?_ (.decided _ (by simp [type]))))⟩
        rintro op' - ⟨⟩
        exact hnew rfl
  · next type =>
    obtain ⟨hphase, rfl⟩ := phaseOf_goto h
    exact ⟨_, hphase, .inr ⟨.stopped type, idle_finish _⟩⟩
  · next hother =>
    refine refused_proceeds (.unsupported ?_) h
    cases htype : f.type <;> simp_all [served]

theorem Asks.publishesPool {ctx : AuthorityContext} {pool : CxlPool}
    (h : Asks ctx f (.createPool pool ctx)) : f.type = .publishPool := by
  cases h with
  | pool type decoded => exact type

theorem Asks.publishesRegion {ctx : AuthorityContext} {region : CxlRegion}
    (h : Asks ctx f (.createRegion region ctx)) : f.type = .publishRegion := by
  cases h with
  | region type decoded => exact type

theorem Asks.publishesDevice {ctx : AuthorityContext} {d : CxlDevice}
    (h : Asks ctx f (.registerDevice d ctx)) : f.type = .publishDevice := by
  cases h with
  | device type decoded => exact type

theorem Asks.reserves {ctx : AuthorityContext} {req : AdmissionRequest}
    (h : Asks ctx f (.reserve req ctx)) : f.type = .reserve := by
  cases h with
  | reserve type decoded => exact type

/-- A step of a thread that owes an answer. -/
theorem Underway.proceeds (h : Underway At (s.context w) f w.phase x)
    (hw : s.connections[c]? = some w) (hAt : w.phase = .dispatching f → At s.fabric.state)
    (hexec : s.exec (.advance c b) = some (s', r)) :
    Proceeds At (s.context w) f (x ++ heard r) s' c := by
  generalize hp : w.phase = p at h
  cases h with
  | dispatching =>
    rw [exec_dispatch hw hp] at hexec
    exact dispatch_proceeds (hAt hp) hexec
  | @registered d reason asks =>
    simp only [exec, advance, hw, hp, Option.some.injEq, Prod.mk.injEq] at hexec
    obtain ⟨rfl, rfl⟩ := hexec
    refine ⟨_, by rw [phaseOf_setWorker, if_pos rfl], .inr ⟨.served asks ?_ ?_, idle_finish _⟩⟩
    · intro op' hretries
      cases hretries
    · exact .decided reason (by simp [asks.publishesDevice])
  | @duplicatePool pool asks =>
    simp only [exec, advance, hw, hp] at hexec
    obtain ⟨hphase, rfl⟩ := phaseOf_perform hexec
    refine ⟨_, hphase, .inl ?_⟩
    rw [← asks.publishesPool]
    exact .replying (.retried asks (.pool pool) (.decided _ (by simp [asks.publishesPool])))
  | @duplicateRegion region asks =>
    simp only [exec, advance, hw, hp] at hexec
    obtain ⟨hphase, rfl⟩ := phaseOf_perform hexec
    refine ⟨_, hphase, .inl ?_⟩
    rw [← asks.publishesRegion]
    exact .replying (.retried asks (.region region) (.decided _ (by simp [asks.publishesRegion])))
  | @reserved req o asks =>
    simp only [exec, advance, hw, hp, Option.some.injEq, Prod.mk.injEq] at hexec
    obtain ⟨rfl, rfl⟩ := hexec
    refine ⟨_, by rw [phaseOf_setWorker, if_pos rfl], .inr ⟨.served asks ?_ ?_, idle_finish _⟩⟩
    · intro op' hretries
      cases hretries
    · rw [asks.reserves]
      exact .reserved o
  | replying exchange =>
    simp only [exec, advance, hw, hp, Option.some.injEq, Prod.mk.injEq] at hexec
    obtain ⟨rfl, rfl⟩ := hexec
    exact ⟨_, by rw [phaseOf_setWorker, if_pos rfl], .inr ⟨exchange, idle_finish _⟩⟩

/-- A step of a thread between two exchanges. -/
theorem idle_step (hw : s.connections[c]? = some w) (hidle : w.phase.idle = true)
    (h : s.exec (.advance c b) = some (s', r)) :
    r = .silent ∧ ∃ p, s'.phaseOf c = some p ∧ (p.idle = true ∨ p.ending = true) := by
  have hgoto {t : Coordinator} {p : Phase} (hp : p.idle = true ∨ p.ending = true)
      (h : t.goto c w p = some (s', r)) :
      r = .silent ∧ ∃ p, s'.phaseOf c = some p ∧ (p.idle = true ∨ p.ending = true) := by
    obtain ⟨hphase, rfl⟩ := phaseOf_goto h
    exact ⟨rfl, _, hphase, hp⟩
  cases hp : w.phase with
  | booting =>
    simp only [exec, advance, hw, hp] at h
    split at h
    · cases h
    · exact hgoto (.inl rfl) h
  | looping =>
    simp only [exec, advance, hw, hp] at h
    refine hgoto ?_ h
    split
    · exact .inl rfl
    · exact .inr rfl
  | receiving =>
    simp only [exec, advance, hw, hp] at h
    cases h
  | exporting =>
    simp only [exec, advance, hw, hp] at h
    split at h
    · exact hgoto (.inl rfl) h
    split at h
    · exact hgoto (.inl rfl) h
    · exact hgoto (.inl rfl) h
  | writing payload =>
    simp only [exec, advance, hw, hp] at h
    split at h
    · exact hgoto (.inl rfl) h
    · exact hgoto (.inl rfl) h
  | _ =>
    rw [hp] at hidle
    cases hidle

theorem fences_silent : ∀ e ∈ heard .silent, Fences e := by
  intro e he
  cases he

/-- A step of a thread whose connection has ended. -/
theorem ending_step (hw : s.connections[c]? = some w) (hending : w.phase.ending = true)
    (h : s.exec (.advance c b) = some (s', r)) :
    (∃ p, s'.phaseOf c = some p ∧ p.ending = true) ∧ ∀ e ∈ heard r, Fences e := by
  have hgoto {t : Coordinator} {p : Phase} (hp : p.ending = true)
      (h : t.goto c w p = some (s', r)) :
      (∃ p, s'.phaseOf c = some p ∧ p.ending = true) ∧ ∀ e ∈ heard r, Fences e := by
    obtain ⟨hphase, rfl⟩ := phaseOf_goto h
    exact ⟨⟨_, hphase, hp⟩, fences_silent⟩
  cases hp : w.phase with
  | dying =>
    simp only [exec, advance, hw, hp] at h
    split at h
    · cases h
    unfold findDead at h
    split at h
    · exact hgoto rfl h
    split at h
    · exact hgoto rfl h
    next target _ =>
    split at h
    · exact hgoto rfl h
    · cases h
      exact ⟨⟨.fencing target.devices, by rw [phaseOf_setWorker, if_pos rfl], rfl⟩, fences_silent⟩
  | fencing devices =>
    cases devices with
    | nil =>
      simp only [exec, advance, hw, hp] at h
      exact hgoto rfl h
    | cons d ds =>
      simp only [exec, advance, hw, hp] at h
      obtain ⟨hphase, rfl⟩ := phaseOf_perform h
      refine ⟨⟨_, hphase, rfl⟩, ?_⟩
      intro e he
      cases List.mem_singleton.mp he
      exact .call d _ _
  | leaving =>
    simp only [exec, advance, hw, hp] at h
    split at h
    · cases h
    · exact hgoto rfl h
  | closed =>
    simp only [exec, advance, hw, hp] at h
    cases h
  | _ =>
    rw [hp] at hending
    cases hending

end steps

end Coordinator

namespace Fabric
variable {f f' : Fabric} {op : Op} {out : Outcome}

theorem drainPoolOf_policy (f : Fabric) (res : Reservation) :
    (f.drainPoolOf res).state.policyGeneration = f.state.policyGeneration := by
  unfold drainPoolOf
  split <;> rfl

theorem drainRegionOf_policy (f : Fabric) (res : Reservation) :
    (f.drainRegionOf res).state.policyGeneration = f.state.policyGeneration := by
  unfold drainRegionOf
  split <;> rfl

/-- A call under an authority moves neither the epoch nor the policy. -/
theorem Effect.context_kept (h : f.Effect op out f') (hop : op.authority ≠ none) :
    f'.state.coordinatorEpoch = f.state.coordinatorEpoch ∧
      f'.state.policyGeneration = f.state.policyGeneration := by
  cases h with
  | setEpoch | setPolicyGeneration | advanceEvidenceGeneration | importPersisted =>
    exact absurd rfl hop
  | release guarded covered =>
    refine ⟨by simp [free], ?_⟩
    exact (drainRegionOf_policy _ _).trans (drainPoolOf_policy _ _)
  | conflict guarded uncovered => exact ⟨drainPoolOf_epoch _ _, drainPoolOf_policy _ _⟩
  | _ => exact ⟨rfl, rfl⟩

end Fabric

namespace Coordinator
variable {s s' s₀ : Coordinator} {c : ConnId} {w w' : WorkerState} {a : Act} {r : Report}
  {tr : List (Act × Report)}

theorem Serves.authority {ctx : AuthorityContext} {op : Op} (h : Serves ctx op) :
    op.authority ≠ none := by
  cases h <;> intro hop <;> cases hop

/-- The context of a connection stays as it is. -/
theorem Effect.context (h : s.Effect a r s') (hboot : w'.boot = w.boot) :
    s'.context w' = s.context w := by
  have hkept : s'.fabric.state.coordinatorEpoch = s.fabric.state.coordinatorEpoch ∧
      s'.fabric.state.policyGeneration = s.fabric.state.policyGeneration := by
    cases h with
    | published here phase exec =>
      exact (Fabric.exec_effect exec).context_kept (by intro hop; cases hop)
    | served here phase serves exec next =>
      exact (Fabric.exec_effect exec).context_kept serves.authority
    | fenced here phase exec =>
      exact (Fabric.exec_effect exec).context_kept (by intro hop; cases hop)
    | _ => exact ⟨rfl, rfl⟩
  unfold Coordinator.context
  rw [hkept.1, hkept.2, hboot]

/-- The conversation of the connection was this one in a state of the run with this
snapshot. -/
def Moment (s₀ : Coordinator) (c : ConnId) (tr : List (Act × Report)) (evts : List Event)
    (snap : StateSnapshot) : Prop :=
  ∃ tr₁ tr₂ t, tr = tr₁ ++ tr₂ ∧ Run exec s₀ tr₁ t ∧ conversation c tr₁ = evts ∧
    t.fabric.state = snap

theorem Moment.append {evts : List Event} {snap : StateSnapshot} (h : Moment s₀ c tr evts snap)
    (tr' : List (Act × Report)) : Moment s₀ c (tr ++ tr') evts snap := by
  obtain ⟨tr₁, tr₂, t, rfl, hrun, hevts, hsnap⟩ := h
  exact ⟨tr₁, tr₂ ++ tr', t, List.append_assoc _ _ _, hrun, hevts, hsnap⟩

theorem conversation_append (tr tr' : List (Act × Report)) :
    conversation c (tr ++ tr') = conversation c tr ++ conversation c tr' :=
  List.filterMap_append

/-- What a step adds to the conversation of a connection. -/
theorem conversation_single (e : Act × Report) : conversation c [e] = (eventOf c e).toList := by
  cases h : eventOf c e <;> simp [conversation, h]

theorem eventOf_other (hc : a.conn ≠ some c) : eventOf c (a, r) = none := by
  unfold eventOf
  split
  · next k f heq =>
    cases heq
    exact if_neg fun h => hc (congrArg some h)
  · next k b op out heq =>
    cases heq
    exact if_neg fun h => hc (congrArg some h)
  · next k b resp heq =>
    cases heq
    exact if_neg fun h => hc (congrArg some h)
  · rfl

theorem eventOf_advance (c : ConnId) (b : ℕ → UInt8) (r : Report) :
    (eventOf c (.advance c b, r)).toList = heard r := by
  cases r with
  | silent => rfl
  | performed op out => simp [eventOf, heard]
  | sent resp => simp [eventOf, heard]

section stands
variable {At : List Event → StateSnapshot → Prop} {ctx : AuthorityContext} {p : Phase}
  {evts : List Event} {b : ℕ → UInt8}

theorem Underway.not_idle {At : StateSnapshot → Prop} {f : Frame} {x : List Event}
    (h : Underway At ctx f p x) : p.idle = false ∧ p.ending = false ∧ p ≠ .greeting := by
  cases h <;> exact ⟨rfl, rfl, by intro hp; cases hp⟩

/-- Between two requests the conversation is complete. -/
theorem Stands.talk_of_idle (h : Stands At ctx p evts) (hidle : p.idle = true) :
    Talk At ctx evts := by
  cases h with
  | greeting | unheard | turnedAway type => cases hidle
  | between idle talk => exact talk
  | within talk underway =>
    rw [underway.not_idle.1] at hidle
    cases hidle
  | ended ending talk fencing => cases p <;> cases hidle <;> cases ending

theorem Stands.nil_of_greeting (h : Stands At ctx .greeting evts) : evts = [] := by
  cases h with
  | greeting => rfl
  | between idle talk => cases idle
  | within talk underway => exact absurd rfl underway.not_idle.2.2
  | ended ending talk fencing => cases ending

/-- A step of the thread itself. -/
theorem Stands.advance (h : Stands At (s.context w) w.phase evts)
    (hw : s.connections[c]? = some w) (hexec : s.exec (.advance c b) = some (s', r))
    (hAt : At evts s.fabric.state) :
    ∃ p, s'.phaseOf c = some p ∧ Stands At (s.context w) p (evts ++ heard r) := by
  have hnone (hp : w.phase = .greeting ∨ w.phase = .closed) :
      ∃ p, s'.phaseOf c = some p ∧ Stands At (s.context w) p (evts ++ heard r) := by
    rcases hp with hp | hp <;> simp only [exec, Coordinator.advance, hw, hp] at hexec <;>
      cases hexec
  generalize hp : w.phase = p at h
  cases h with
  | greeting => exact hnone (.inl hp)
  | unheard | turnedAway type => exact hnone (.inr hp)
  | between idle talk =>
    obtain ⟨rfl, p', hp', hnext⟩ := idle_step hw (by rw [hp]; exact idle) hexec
    refine ⟨p', hp', ?_⟩
    rcases hnext with hidle | hending
    · rw [heard, List.append_nil]
      exact .between hidle talk
    · exact .ended hending talk fences_silent
  | @within _ evts x f talk underway =>
    subst hp
    have hseen (hphase : w.phase = .dispatching f) : At (evts ++ [.request f]) s.fabric.state := by
      rw [hphase] at underway
      cases underway
      exact hAt
    obtain ⟨p', hp', hnext⟩ := underway.proceeds hw hseen hexec
    refine ⟨p', hp', ?_⟩
    rw [List.append_assoc, List.cons_append]
    rcases hnext with hunderway | ⟨hexchange, hidle⟩
    · exact .within talk hunderway
    · exact .between hidle (talk.exchange hexchange)
  | ended ending talk fencing =>
    obtain ⟨⟨p', hp', hending⟩, hfences⟩ := ending_step hw (by rw [hp]; exact ending) hexec
    refine ⟨p', hp', ?_⟩
    rw [List.append_assoc]
    refine .ended hending talk ?_
    intro e he
    rcases List.mem_append.mp he with he | he
    · exact fencing e he
    · exact hfences e he

/-- A frame arrives, or the end of the connection. -/
theorem Stands.receive {result : Option Frame} (h : Stands At (s.context w) w.phase evts)
    (hw : s.connections[c]? = some w) (hexec : s.exec (.receive c result) = some (s', r)) :
    ∃ w', s'.connections[c]? = some w' ∧ Stands At (s'.context w') w'.phase
      (evts ++ (eventOf c (.receive c result, r)).toList) := by
  have heffect := exec_effect hexec
  have hsame {v : WorkerState} (hv : s.connections[c]? = some v) : v = w :=
    Option.some.inj (hv.symm.trans hw)
  cases heffect with
  | @booted _ _ f here phase type =>
    cases hsame here
    rw [phase] at h
    cases h.nil_of_greeting
    refine ⟨_, setWorker_self _ _ _, .between rfl ?_⟩
    have hevent : (eventOf c (.receive c (some f), Report.silent)).toList =
        [.request { type := .workerBoot, payload := f.payload }] := by
      simp only [eventOf, if_true, Option.toList_some, ← type]
    rw [List.nil_append, hevent]
    exact .boot
  | refused here phase =>
    cases hsame here
    refine ⟨_, setWorker_self _ _ _, ?_⟩
    rw [phase] at h
    cases h.nil_of_greeting
    cases result with
    | none => exact .unheard
    | some f =>
      have htype : f.type ≠ .workerBoot := by
        intro htype
        simp only [exec, Coordinator.receive, here, phase, htype, if_true] at hexec
        have hphase := (phaseOf_goto hexec).1
        rw [phaseOf_setWorker, if_pos rfl] at hphase
        cases hphase
      rw [eventOf, if_pos rfl]
      exact .turnedAway htype
  | @received _ _ f here phase =>
    cases hsame here
    refine ⟨_, setWorker_self _ _ _, ?_⟩
    have hevent : (eventOf c (.receive c (some f), Report.silent)).toList = [.request f] := by
      simp only [eventOf, if_true, Option.toList_some]
    rw [hevent]
    exact .within (h.talk_of_idle (by rw [phase]; rfl)) .dispatching
  | lost here phase =>
    cases hsame here
    refine ⟨_, setWorker_self _ _ _, ?_⟩
    exact .ended rfl (h.talk_of_idle (by rw [phase]; rfl)) fences_silent

end stands

/-- What holds of the conversations in every state of a run. -/
structure Consistent (s₀ : Coordinator) (tr : List (Act × Report)) (s : Coordinator) : Prop where
  run : Run exec s₀ tr s
  known : ∀ (c : ConnId) (w : WorkerState), s.connections[c]? = some w →
    Stands (Moment s₀ c tr) (s.context w) w.phase (conversation c tr)
  unknown : ∀ c : ConnId, s.connections[c]? = none → conversation c tr = []

theorem phaseOf_eq_none : s.phaseOf c = none ↔ s.connections[c]? = none := Option.map_eq_none_iff

/-- A connection begins with an accept. -/
theorem Effect.begins (h : s.Effect a r s') (hc : a.conn = some c)
    (hnone : s.connections[c]? = none) : a = .accept c ∧ s' = s.setWorker c {} := by
  cases h with
  | accepted fresh =>
    cases hc
    exact ⟨rfl, rfl⟩
  | signalled => cases hc
  | booted here | refused here | received here | lost here | entered here | looped here
  | published here | noted here | served here | moved here | missed here | found here | fenced here
  | unlocked here | left here =>
    cases hc
    rw [hnone] at here
    cases here

/-- A step of the thread of a connection that is there. -/
theorem Consistent.own (h : Consistent s₀ tr s) (hw : s.connections[c]? = some w)
    (hc : a.conn = some c) (hexec : s.exec a = some (s', r)) :
    ∃ w', s'.connections[c]? = some w' ∧ Stands (Moment s₀ c tr) (s'.context w') w'.phase
      (conversation c tr ++ (eventOf c (a, r)).toList) := by
  have heffect := exec_effect hexec
  cases a with
  | accept k =>
    cases hc
    simp only [exec, hw] at hexec
    cases hexec
  | receive k result =>
    cases hc
    exact (h.known c w hw).receive hw hexec
  | advance k b =>
    cases hc
    have hnow : Moment s₀ c tr (conversation c tr) s.fabric.state :=
      ⟨tr, [], s, (List.append_nil tr).symm, h.run, rfl, rfl⟩
    obtain ⟨p, hp, hstands⟩ := (h.known c w hw).advance hw hexec hnow
    have hbooted : w.phase ≠ .greeting := by
      intro hgreeting
      simp only [exec, Coordinator.advance, hw, hgreeting] at hexec
      cases hexec
    obtain ⟨w', hw', hcontinues⟩ := heffect.continues hw hbooted
    refine ⟨w', hw', ?_⟩
    have hphase : w'.phase = p := by simpa [phaseOf, hw'] using hp
    rw [heffect.context hcontinues.boot, hphase, eventOf_advance]
    exact hstands
  | signal => cases hc

theorem Consistent.step (h : Consistent s₀ tr s) (hexec : s.exec a = some (s', r)) :
    Consistent s₀ (tr ++ [(a, r)]) s' := by
  have heffect := exec_effect hexec
  have hmoments (k : ConnId) (evts : List Event) (snap : StateSnapshot)
      (hm : Moment s₀ k tr evts snap) : Moment s₀ k (tr ++ [(a, r)]) evts snap := hm.append _
  have hsplit (k : ConnId) : conversation k (tr ++ [(a, r)]) =
      conversation k tr ++ (eventOf k (a, r)).toList := by
    rw [conversation_append, conversation_single]
  have hnothing {k : ConnId} (hk : a.conn ≠ some k) :
      conversation k (tr ++ [(a, r)]) = conversation k tr := by
    rw [hsplit, eventOf_other hk, Option.toList_none, List.append_nil]
  refine ⟨h.run.append (.single hexec), ?_, ?_⟩
  · intro k v hv
    by_cases hk : a.conn = some k
    · cases hw : s.connections[k]? with
      | none =>
        obtain ⟨rfl, rfl⟩ := heffect.begins hk hw
        cases (setWorker_self s k {}).symm.trans hv
        rw [hsplit, h.unknown k hw]
        exact .greeting
      | some w =>
        obtain ⟨w', hw', hstands⟩ := h.own hw hk hexec
        cases hw'.symm.trans hv
        rw [hsplit]
        exact hstands.mono (hmoments k)
    · rw [hnothing hk]
      cases hw : s.connections[k]? with
      | none =>
        have hnone := (heffect.phaseOf_other hk).trans (phaseOf_eq_none.mpr hw)
        rw [phaseOf_eq_none.mp hnone] at hv
        cases hv
      | some w =>
        obtain ⟨dead, hw'⟩ := heffect.other hw hk
        cases hw'.symm.trans hv
        rw [heffect.context rfl]
        exact (h.known k w hw).mono (hmoments k)
  · intro k hv
    have hk : a.conn ≠ some k := by
      intro hk
      cases hw : s.connections[k]? with
      | none =>
        obtain ⟨-, rfl⟩ := heffect.begins hk hw
        rw [setWorker_self] at hv
        cases hv
      | some w =>
        obtain ⟨w', hw', -⟩ := h.own hw hk hexec
        cases hw'.symm.trans hv
    rw [hnothing hk]
    refine h.unknown k (phaseOf_eq_none.mp ?_)
    rw [← heffect.phaseOf_other hk]
    exact phaseOf_eq_none.mpr hv

theorem consistent_of_run {epoch : CoordinatorEpoch} {recovered : Option PersistedState}
    {persist : Bool} (hrun : Run exec (start epoch recovered persist) tr s) :
    Consistent (start epoch recovered persist) tr s := by
  refine hrun.invariant_trace (A := fun _ => True) (fun _ _ _ => trivial) ?_ trivial ?_
  · intro tr s a r s' _ h hexec
    exact h.step hexec
  · refine ⟨.nil _, ?_, fun _ _ => rfl⟩
    intro c w hw
    have hnone : (start epoch recovered persist).connections[c]? = none :=
      Std.ExtTreeMap.getElem?_empty
    rw [hnone] at hw
    cases hw

/-- Every conversation is one exchange after the other, and the calls in all of them are
one run of the engine. -/
theorem conversations {epoch : CoordinatorEpoch} {recovered : Option PersistedState}
    {persist : Bool} (hrun : Run exec (start epoch recovered persist) tr s) :
    Run Fabric.exec (start epoch recovered persist).fabric (calls tr) s.fabric ∧
    ∀ (c : ConnId) (w : WorkerState), s.connections[c]? = some w →
      Stands (Moment (start epoch recovered persist) c tr) (s.context w) w.phase
        (conversation c tr) := ⟨run_fabric hrun, (consistent_of_run hrun).known⟩

theorem conversations_committingRun :
    ∃ tr s w, Run exec (start ⟨1⟩ none false) tr s ∧ s.connections[0]? = some w ∧
      Run Fabric.exec (start ⟨1⟩ none false).fabric (calls tr) s.fabric ∧
      Stands (Moment (start ⟨1⟩ none false) 0 tr) (s.context w) w.phase (conversation 0 tr) := by
  obtain ⟨tr, s, s', b, b', req, ctx', o', ctx, o, hrun, hmem, -⟩ :=
    committingRun_spec (str "w-1") (by decide +kernel)
  obtain ⟨w, hw, -⟩ := run_authority hrun hmem (.reserve _)
  obtain ⟨hengine, hstands⟩ := conversations hrun
  exact ⟨tr, s, w, hrun, hw, hengine, hstands 0 w hw⟩

end Coordinator

end CxlFabric
