import CxlFabric.CoordinatorSteps

/-! # One step of a thread, as far as the file goes

A thread persists in two steps: it exports the state, and later it writes what it has
exported. `Turn` says how a step moves between the phases around these two. -/
namespace CxlFabric

open Persistence

/-- The thread has registered a device or is about to persist, and has not written yet. -/
def Phase.pending : Phase → Bool
  | .registered _ _ | .exporting | .writing _ => true
  | _ => false

/-- The thread neither holds a payload nor is about to reply. -/
def Phase.quiet : Phase → Bool
  | .writing _ | .replying _ _ => false
  | _ => true

namespace Coordinator

def phaseOf (s : Coordinator) (c : ConnId) : Option Phase := s.connections[c]?.map (·.phase)

theorem ackFrame_ok {reason : DecisionReason} (h : ackFrame reason = ackFrame .ok) :
    reason = .ok := by
  cases reason with
  | ok => rfl
  | _ => revert h; decide

theorem phaseOf_setWorker (s : Coordinator) (c k : ConnId) (w : WorkerState) :
    (s.setWorker c w).phaseOf k = if c = k then some w.phase else s.phaseOf k := by
  unfold phaseOf
  rw [setWorker_connections]
  split
  · rfl
  · rfl

/-- A thread moves no other one. -/
theorem Effect.phaseOf_other {s s' : Coordinator} {a : Act} {r : Report} {k : ConnId}
    (h : s.Effect a r s') (hk : a.conn ≠ some k) : s'.phaseOf k = s.phaseOf k := by
  have hne {c : ConnId} (hc : some c ≠ some k) : c ≠ k := fun heq => hc (congrArg some heq)
  cases h with
  | signalled => rfl
  | @found c t w target b here phase free entry owner alive =>
    rw [phaseOf_setWorker, if_neg (hne hk), phaseOf_setWorker]
    split
    · next ht =>
      subst ht
      unfold phaseOf
      rw [owner]
      rfl
    · rfl
  | accepted | booted | refused | received | lost | entered | looped | published | noted | served
  | moved | missed | fenced | unlocked | left =>
    exact (phaseOf_setWorker _ _ _ _).trans (if_neg (hne hk))

/-- What one step of a thread does to its phase and to the file. -/
inductive Turn (s : Coordinator) : Report → Coordinator → Phase → Phase → Prop
  | exports {s' : Coordinator} {payload : List UInt8} (fabric : s'.fabric = s.fabric)
      (saved : s'.saved = s.saved)
      (serialized : serializeState s.fabric.exportPersisted = .ok payload) :
      Turn s .silent s' .exporting (.writing payload)
  | skips {s' : Coordinator} (fabric : s'.fabric = s.fabric) (saved : s'.saved = s.saved)
      (failed : s.persist = true → ∃ err, serializeState s.fabric.exportPersisted = .error err) :
      Turn s .silent s' .exporting .looping
  | writes {s' : Coordinator} {payload : List UInt8} (fabric : s'.fabric = s.fabric)
      (saved : s'.saved = some payload) (size : payload.length ≤ maxPersistPayload) :
      Turn s .silent s' (.writing payload) .looping
  | drops {s' : Coordinator} {payload : List UInt8} (fabric : s'.fabric = s.fabric)
      (saved : s'.saved = s.saved) (size : maxPersistPayload < payload.length) :
      Turn s .silent s' (.writing payload) .looping
  | notes {s' : Coordinator} {id : DeviceId} {reason : DecisionReason}
      (fabric : s'.fabric = s.fabric) (saved : s'.saved = s.saved) :
      Turn s (.sent (ackFrame reason)) s' (.registered id reason) .exporting
  | serves {s' : Coordinator} {r : Report} {p p' : Phase} (idle : p.pending = false)
      (saved : s'.saved = s.saved) (next : ∀ payload, p' ≠ .writing payload)
      (pool : p' = .replying .publishPool (ackFrame .ok) → ∃ op, r = .performed op (.decision .ok) ∧
        ((∃ pool ctx, op = .createPool pool ctx) ∨ ∃ id ctx, op = .revalidatePool id ctx))
      (region : p' = .replying .publishRegion (ackFrame .ok) →
        ∃ op, r = .performed op (.decision .ok) ∧
        ((∃ region ctx, op = .createRegion region ctx) ∨ ∃ id ctx, op = .revalidateRegion id ctx)) :
      Turn s r s' p p'

section turn
variable {s s' : Coordinator} {c : ConnId} {b : ℕ → UInt8} {r : Report} {w : WorkerState}
  {p p' : Phase}

/-- A step to a phase without a payload and without a reply. -/
theorem Turn.quietly (idle : p.pending = false) (saved : s'.saved = s.saved)
    (quiet : p'.quiet = true) : s.Turn r s' p p' := by
  refine .serves idle saved ?_ ?_ ?_
  · rintro payload rfl
    cases quiet
  · rintro rfl
    cases quiet
  · rintro rfl
    cases quiet

/-- The thread of a connection has taken a step. -/
def Turned (s : Coordinator) (r : Report) (s' : Coordinator) (c : ConnId) (p : Phase) : Prop :=
  s'.persist = s.persist ∧ ∃ p', s'.phaseOf c = some p' ∧ s.Turn r s' p p'

theorem Turn.turned {t : Coordinator} (persist : t.persist = s.persist) (next : w.phase = p')
    (h : s.Turn r (t.setWorker c w) p p') : s.Turned r (t.setWorker c w) c p := by
  refine ⟨persist, p', ?_, h⟩
  rw [phaseOf_setWorker, if_pos rfl, next]

/-- A reply to a frame that publishes neither a pool nor a region, or one that does not
acknowledge it. -/
theorem Turn.replies {type : FrameType} {resp : Frame} (idle : p.pending = false)
    (saved : s'.saved = s.saved)
    (other : resp = ackFrame .ok → type ≠ .publishPool ∧ type ≠ .publishRegion) :
    s.Turn r s' p (.replying type resp) := by
  refine .serves idle saved ?_ ?_ ?_
  · intro payload hp
    cases hp
  · intro hp
    cases hp
    exact absurd rfl (other rfl).1
  · intro hp
    cases hp
    exact absurd rfl (other rfl).2

/-- A step without a call of the engine. -/
theorem goto_turned {t : Coordinator} (idle : p.pending = false) (saved : t.saved = s.saved)
    (persist : t.persist = s.persist) (quiet : p'.quiet = true)
    (h : t.goto c w p' = some (s', r)) : s.Turned r s' c p := by
  cases h
  exact Turn.turned persist rfl (.quietly idle saved quiet)

theorem errorFrame_ne_ackFrame (msg : String) : errorFrame msg ≠ ackFrame .ok := by
  intro h
  have htype := congrArg Frame.type h
  cases htype

/-- A frame that does not decode. -/
theorem error_turned {type : FrameType} {msg : String} (idle : p.pending = false)
    (h : s.goto c w (.replying type (errorFrame msg)) = some (s', r)) : s.Turned r s' c p := by
  cases h
  refine Turn.turned rfl rfl (.replies idle rfl ?_)
  intro hack
  exact absurd hack (errorFrame_ne_ackFrame msg)

@[simp] theorem quiet_finish (type : FrameType) : (finish type).quiet = true := by
  unfold finish
  split <;> rfl

/-- The answer of the engine to a published pool or region is passed on. -/
theorem Turn.answers {op : Op} {reason : DecisionReason} {type : FrameType}
    (idle : p.pending = false) (saved : s'.saved = s.saved)
    (pool : type = .publishPool →
      (∃ pool ctx, op = .createPool pool ctx) ∨ ∃ id ctx, op = .revalidatePool id ctx)
    (region : type = .publishRegion →
      (∃ region ctx, op = .createRegion region ctx) ∨ ∃ id ctx, op = .revalidateRegion id ctx) :
    s.Turn (.performed op (.decision reason)) s' p (.replying type (ackFrame reason)) := by
  refine .serves idle saved ?_ ?_ ?_
  · intro payload hp
    cases hp
  · intro hp
    obtain ⟨htype, hack⟩ := Phase.replying.inj hp
    cases ackFrame_ok hack
    exact ⟨op, rfl, pool htype⟩
  · intro hp
    obtain ⟨htype, hack⟩ := Phase.replying.inj hp
    cases ackFrame_ok hack
    exact ⟨op, rfl, region htype⟩

theorem dispatch_turned {f : Frame} (hphase : w.phase = .dispatching f)
    (h : s.dispatch c w f b = some (s', r)) : s.Turned r s' c w.phase := by
  have hidle : w.phase.pending = false := by
    rw [hphase]
    rfl
  unfold dispatch at h
  dsimp only at h
  split at h
  · split at h
    · exact error_turned hidle h
    · cases h
      exact Turn.turned rfl rfl (.quietly hidle rfl rfl)
  · split at h
    · exact error_turned hidle h
    · split at h
      · cases h
      · cases h
        exact Turn.turned rfl rfl (.quietly hidle rfl rfl)
  · next htype =>
    cases h
    exact Turn.turned rfl rfl (.replies hidle rfl (by simp [htype]))
  · next htype =>
    cases h
    exact Turn.turned rfl rfl (.replies hidle rfl (by simp [htype]))
  · next htype =>
    cases h
    exact Turn.turned rfl rfl (.replies hidle rfl (by simp [htype]))
  · next htype =>
    split at h
    · exact error_turned hidle h
    · next id generation members hdecode =>
      cases h
      refine Turn.turned rfl rfl ?_
      split
      · exact .quietly hidle rfl rfl
      · exact .answers hidle rfl (fun _ => .inl ⟨_, _, rfl⟩) (by simp [htype])
  · next htype =>
    split at h
    · exact error_turned hidle h
    · next region hdecode =>
      cases h
      refine Turn.turned rfl rfl ?_
      split
      · exact .quietly hidle rfl rfl
      · exact .answers hidle rfl (by simp [htype]) fun _ => .inl ⟨_, _, rfl⟩
  · exact goto_turned (t := { s with running := false }) hidle rfl rfl (quiet_finish _) h
  · exact error_turned hidle h

theorem findDead_turned (hphase : w.phase = .dying) (h : s.findDead c w = some (s', r)) :
    s.Turned r s' c w.phase := by
  have hidle : w.phase.pending = false := by
    rw [hphase]
    rfl
  unfold findDead at h
  split at h
  · exact goto_turned hidle rfl rfl rfl h
  split at h
  · exact goto_turned hidle rfl rfl rfl h
  split at h
  · exact goto_turned hidle rfl rfl rfl h
  · cases h
    exact Turn.turned rfl rfl (.quietly hidle rfl rfl)

theorem advance_turned (hw : s.connections[c]? = some w) (h : s.advance c b = some (s', r)) :
    s.Turned r s' c w.phase := by
  unfold advance at h
  rw [hw] at h
  dsimp only at h
  split at h
  · cases h
  · cases h
  · cases h
  · next hphase =>
    split at h
    · cases h
    · cases h
      rw [hphase]
      exact Turn.turned rfl rfl (.quietly rfl rfl rfl)
  · next hphase =>
    cases h
    rw [hphase]
    refine Turn.turned rfl rfl (.quietly rfl rfl ?_)
    split <;> rfl
  · next f hphase => exact dispatch_turned hphase h
  · next id reason hphase =>
    cases h
    rw [hphase]
    exact Turn.turned rfl rfl (.notes rfl rfl)
  · next id hphase =>
    cases h
    rw [hphase]
    exact Turn.turned rfl rfl (.answers rfl rfl (fun _ => .inr ⟨_, _, rfl⟩) (by simp))
  · next id hphase =>
    cases h
    rw [hphase]
    exact Turn.turned rfl rfl (.answers rfl rfl (by simp) fun _ => .inr ⟨_, _, rfl⟩)
  · next o hphase =>
    cases h
    rw [hphase]
    exact Turn.turned rfl rfl (.quietly rfl rfl (quiet_finish .reserve))
  · next type resp hphase =>
    cases h
    rw [hphase]
    exact Turn.turned rfl rfl (.quietly rfl rfl (quiet_finish type))
  · next hphase =>
    rw [hphase]
    split at h
    · next hpersist =>
      cases h
      refine Turn.turned rfl rfl (.skips rfl rfl ?_)
      intro htrue
      simp [htrue] at hpersist
    · split at h
      · next err hserialize =>
        cases h
        exact Turn.turned rfl rfl (.skips rfl rfl fun _ => ⟨err, hserialize⟩)
      · next payload hserialize =>
        cases h
        exact Turn.turned rfl rfl (.exports rfl rfl hserialize)
  · next payload hphase =>
    rw [hphase]
    split at h
    · next hsize =>
      cases h
      exact Turn.turned rfl rfl (.drops rfl rfl hsize)
    · next hsize =>
      cases h
      exact Turn.turned rfl rfl (.writes rfl rfl (Nat.not_lt.mp hsize))
  · next hphase =>
    split at h
    · cases h
    · exact findDead_turned hphase h
  · next hphase =>
    cases h
    rw [hphase]
    exact Turn.turned rfl rfl (.quietly rfl rfl rfl)
  · next d ds hphase =>
    cases h
    rw [hphase]
    exact Turn.turned rfl rfl (.quietly rfl rfl rfl)
  · next hphase =>
    split at h
    · cases h
    · cases h
      rw [hphase]
      exact Turn.turned rfl rfl (.quietly rfl rfl rfl)

theorem receive_turned {result : Option Frame} (hw : s.connections[c]? = some w)
    (h : s.receive c result = some (s', r)) : s.Turned r s' c w.phase := by
  unfold receive at h
  rw [hw] at h
  dsimp only at h
  split at h
  · next f hphase =>
    rw [hphase]
    split at h
    · cases h
      exact Turn.turned rfl rfl (.quietly rfl rfl rfl)
    · exact goto_turned rfl rfl rfl rfl h
  · next hphase =>
    rw [hphase]
    exact goto_turned rfl rfl rfl rfl h
  · next f hphase =>
    rw [hphase]
    exact goto_turned rfl rfl rfl rfl h
  · next hphase =>
    rw [hphase]
    exact goto_turned rfl rfl rfl rfl h
  · cases h

/-- A step that belongs to a connection is a turn of its thread, once the connection is
there. -/
theorem exec_turned {a : Act} (hconn : a.conn = some c) (hphase : s.phaseOf c = some p)
    (h : s.exec a = some (s', r)) : s.Turned r s' c p := by
  obtain ⟨w, hw, rfl⟩ := Option.map_eq_some_iff.mp hphase
  cases a with
  | accept k =>
    cases hconn
    simp only [exec, hw] at h
    cases h
  | receive k result =>
    cases hconn
    exact receive_turned hw h
  | advance k b =>
    cases hconn
    exact advance_turned hw h
  | signal => cases hconn

/-- Nothing but a new connection. -/
structure Still (s s' : Coordinator) : Prop where
  fabric : s'.fabric = s.fabric
  saved : s'.saved = s.saved
  persist : s'.persist = s.persist
  phase : ∀ k, s'.phaseOf k = s.phaseOf k ∨ s'.phaseOf k = some .greeting ∧ s.phaseOf k = none

/-- A step is a turn of the thread it belongs to, unless it has none. -/
theorem exec_turned_or_still {a : Act} (h : s.exec a = some (s', r)) :
    (∃ c p, a.conn = some c ∧ s.phaseOf c = some p ∧ s.Turned r s' c p) ∨ s.Still s' := by
  cases a with
  | accept c =>
    simp only [exec] at h
    split at h
    · next hfresh =>
      cases h
      refine .inr ⟨rfl, rfl, rfl, ?_⟩
      intro k
      rw [phaseOf_setWorker]
      split
      · next hk =>
        subst hk
        refine .inr ⟨rfl, ?_⟩
        unfold phaseOf
        rw [hfresh]
        rfl
      · exact .inl rfl
    · cases h
  | receive c result =>
    cases hphase : s.phaseOf c with
    | none =>
      have hnone : s.connections[c]? = none := Option.map_eq_none_iff.mp hphase
      simp only [exec, receive, hnone] at h
      cases h
    | some p => exact .inl ⟨c, p, rfl, hphase, exec_turned rfl hphase h⟩
  | advance c b =>
    cases hphase : s.phaseOf c with
    | none =>
      have hnone : s.connections[c]? = none := Option.map_eq_none_iff.mp hphase
      simp only [exec, advance, hnone] at h
      cases h
    | some p => exact .inl ⟨c, p, rfl, hphase, exec_turned rfl hphase h⟩
  | signal =>
    cases h
    exact .inr ⟨rfl, rfl, rfl, fun _ => .inl rfl⟩

/-- A reply is sent, and that is all. -/
theorem exec_reply_keeps {a : Act} {type : FrameType} {resp : Frame} (hconn : a.conn = some c)
    (hphase : s.phaseOf c = some (.replying type resp)) (h : s.exec a = some (s', r)) :
    s'.fabric = s.fabric ∧ s'.saved = s.saved := by
  obtain ⟨w, hw, hreply⟩ := Option.map_eq_some_iff.mp hphase
  cases a with
  | accept k =>
    cases hconn
    simp only [exec, hw] at h
    cases h
  | receive k result =>
    cases hconn
    simp only [exec, receive, hw, hreply] at h
    cases h
  | advance k b =>
    cases hconn
    simp only [exec, advance, hw, hreply] at h
    cases h
    exact ⟨rfl, rfl⟩
  | signal => cases hconn

end turn

end Coordinator

end CxlFabric
