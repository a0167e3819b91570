import CxlFabric.WorkerDeath

/-! # Boot ids of their own

As long as every worker boots with an id that no open connection has, the table leads each
connection to its own state, and the end of a connection fences all that it published. -/
namespace CxlFabric

/-- The end of the connection has been noticed and looked up, or there was nothing to end. -/
def Phase.Settled (p : Phase) : Prop := (∃ ds, p = .fencing ds) ∨ p = .leaving ∨ p = .closed

/-- Between its first frame and its last step a connection is open. -/
def Phase.Open (p : Phase) : Prop := p ≠ .greeting ∧ p ≠ .closed

/-- The connection is in the table, and has not looked itself up there. -/
def Phase.Entered (p : Phase) : Prop := p.Open ∧ p ≠ .booting ∧ ¬p.Settled

theorem Phase.entered_of_inService {p : Phase} (h : p.inService = true) : p.Entered := by
  cases p <;> simp_all [Phase.inService, Phase.Entered, Phase.Open, Phase.Settled]

theorem Phase.entered_dying : Phase.dying.Entered := by
  simp [Phase.Entered, Phase.Open, Phase.Settled]

theorem Phase.entered_registered (d : DeviceId) (r : DecisionReason) :
    (Phase.registered d r).Entered := by simp [Phase.Entered, Phase.Open, Phase.Settled]

namespace Coordinator

/-- A worker boots with an id that no open connection has. -/
def FreshBoot (s : Coordinator) (a : Act) : Prop :=
  ∀ (c : ConnId) (w : WorkerState) (f : Frame), a = .receive c (some f) →
    s.connections[c]? = some w → w.phase = .greeting → f.type = .workerBoot →
    ∀ (k : ConnId) (v : WorkerState), s.connections[k]? = some v → v.phase.Open →
      v.boot ≠ ⟨f.payload⟩

structure Exclusive (s : Coordinator) : Prop where
  distinct : ∀ (k k' : ConnId) (w w' : WorkerState), s.connections[k]? = some w →
    s.connections[k']? = some w' → w.phase.Open → w'.phase.Open → w.boot = w'.boot → k = k'
  entry : ∀ (k : ConnId) (w : WorkerState), s.connections[k]? = some w → w.phase.Entered →
    s.workers[w.boot.value]? = some k
  alive : ∀ (k : ConnId) (w : WorkerState), s.connections[k]? = some w → ¬w.phase.Settled →
    w.dead = false

variable {s s' t : Coordinator} {a : Act} {r : Report} {c : ConnId} {w w' : WorkerState}

/-- What the new state of one connection has to meet. -/
theorem Exclusive.setWorker (h : s.Exclusive)
    (hothers : ∀ k, c ≠ k → t.connections[k]? = s.connections[k]?)
    (hboot : ∀ (k : ConnId) (v : WorkerState), k ≠ c → s.connections[k]? = some v → v.phase.Open →
      w'.phase.Open → v.boot ≠ w'.boot)
    (htable : ∀ (k : ConnId) (v : WorkerState), k ≠ c → s.connections[k]? = some v →
      v.phase.Open → t.workers[v.boot.value]? = s.workers[v.boot.value]?)
    (hentry : w'.phase.Entered → t.workers[w'.boot.value]? = some c)
    (halive : ¬w'.phase.Settled → w'.dead = false) : (t.setWorker c w').Exclusive := by
  have hlookup (k : ConnId) (v : WorkerState) (hv : (t.setWorker c w').connections[k]? = some v) :
      (k = c ∧ v = w') ∨ (k ≠ c ∧ s.connections[k]? = some v) := by
    rw [setWorker_connections] at hv
    split at hv
    · next hk =>
      cases hv
      exact .inl ⟨hk.symm, rfl⟩
    · next hk =>
      rw [hothers k hk] at hv
      exact .inr ⟨fun h => hk h.symm, hv⟩
  refine ⟨?_, ?_, ?_⟩
  · intro k k' v v' hv hv' hopen hopen' hboots
    rcases hlookup k v hv with ⟨hk, rfl⟩ | ⟨hk, hold⟩ <;>
      rcases hlookup k' v' hv' with ⟨hk', hw'⟩ | ⟨hk', hold'⟩
    · exact hk.trans hk'.symm
    · exact absurd hboots.symm (hboot k' v' hk' hold' hopen' hopen)
    · subst hw'
      exact absurd hboots (hboot k v hk hold hopen hopen')
    · exact h.distinct k k' v v' hold hold' hopen hopen' hboots
  · intro k v hv hentered
    rcases hlookup k v hv with ⟨rfl, rfl⟩ | ⟨hk, hold⟩
    · exact hentry hentered
    · exact (htable k v hk hold hentered.1).trans (h.entry k v hold hentered)
  · intro k v hv hsettled
    rcases hlookup k v hv with ⟨rfl, rfl⟩ | ⟨hk, hold⟩
    · exact halive hsettled
    · exact h.alive k v hold hsettled

/-- The rule for a step of an open connection, which touches the table at its own id only. -/
theorem Exclusive.setWorker_own (h : s.Exclusive) (here : s.connections[c]? = some w)
    (hopen : w.phase.Open) (boot : w'.boot = w.boot)
    (hothers : ∀ k, c ≠ k → t.connections[k]? = s.connections[k]?)
    (htable : ∀ b, b ≠ w.boot.value → t.workers[b]? = s.workers[b]?)
    (hentry : w'.phase.Entered → t.workers[w.boot.value]? = some c)
    (halive : ¬w'.phase.Settled → w'.dead = false) : (t.setWorker c w').Exclusive := by
  have hne (k : ConnId) (v : WorkerState) (hk : k ≠ c) (hv : s.connections[k]? = some v)
      (hvopen : v.phase.Open) : v.boot ≠ w.boot :=
    fun hboots => hk (h.distinct k c v w hv here hvopen hopen hboots)
  refine h.setWorker hothers ?_ ?_ ?_ halive
  · intro k v hk hv hvopen _
    rw [boot]
    exact hne k v hk hv hvopen
  · intro k v hk hv hvopen
    exact htable _ fun hvalue => hne k v hk hv hvopen (congrArg Id.mk hvalue)
  · rw [boot]
    exact hentry

/-- A step within the loop of the connection. -/
theorem Exclusive.setWorker_same (h : s.Exclusive) (here : s.connections[c]? = some w)
    (hentered : w.phase.Entered) (boot : w'.boot = w.boot) (dead : w'.dead = w.dead)
    (hconnections : t.connections = s.connections)
    (hworkers : t.workers = s.workers) : (t.setWorker c w').Exclusive := by
  refine h.setWorker_own here hentered.1 boot (fun k _ => by rw [hconnections])
    (fun b _ => by rw [hworkers]) ?_ ?_
  · intro _
    rw [hworkers]
    exact h.entry c w here hentered
  · intro _
    rw [dead]
    exact h.alive c w here hentered.2.2

/-- A step from the lookup on. -/
theorem Exclusive.setWorker_settled (h : s.Exclusive) (here : s.connections[c]? = some w)
    (hopen : w.phase.Open) (boot : w'.boot = w.boot) (hsettled : w'.phase.Settled)
    (hothers : ∀ k, c ≠ k → t.connections[k]? = s.connections[k]?)
    (htable : ∀ b, b ≠ w.boot.value → t.workers[b]? = s.workers[b]?) :
    (t.setWorker c w').Exclusive :=
  h.setWorker_own here hopen boot hothers htable (fun hentered => absurd hsettled hentered.2.2)
    (fun hnot => absurd hsettled hnot)

theorem Exclusive.step (h : s.Exclusive) (hfresh : s.FreshBoot a) (heffect : s.Effect a r s') :
    s'.Exclusive := by
  cases heffect with
  | accepted fresh =>
    refine h.setWorker (fun k _ => rfl) ?_ (fun _ _ _ _ _ => rfl) ?_ (fun _ => rfl)
    · intro k v hk hv hopen hnot
      exact absurd rfl hnot.1
    · intro hnot
      exact absurd rfl hnot.1.1
  | signalled => exact ⟨h.distinct, h.entry, h.alive⟩
  | @booted c w f here phase type =>
    refine h.setWorker (fun k _ => rfl) ?_ (fun _ _ _ _ _ => rfl) ?_ ?_
    · intro k v hk hv hopen _
      exact hfresh c w f rfl here phase type k v hv hopen
    · intro hnot
      exact absurd rfl hnot.2.1
    · intro _
      exact h.alive c w here (by simp [phase, Phase.Settled])
  | refused here phase =>
    refine h.setWorker (fun k _ => rfl) ?_ (fun _ _ _ _ _ => rfl) ?_ ?_
    · intro k v hk hv hopen hnot
      exact absurd rfl hnot.2
    · intro hnot
      exact absurd rfl hnot.1.2
    · intro hnot
      exact absurd (.inr (.inr rfl)) hnot
  | @entered c w b here phase free =>
    refine h.setWorker_own here (by simp [phase, Phase.Open]) rfl (fun k _ => rfl) ?_ ?_ ?_
    · intro b hb
      exact (getElem?_insert_eq s.workers _ _ _).trans (if_neg hb.symm)
    · intro _
      exact (getElem?_insert_eq s.workers _ _ _).trans (if_pos rfl)
    · intro _
      exact h.alive c w here (by simp [phase, Phase.Settled])
  | received here phase | lost here phase | looped here phase | published here phase =>
    exact h.setWorker_same here (Phase.entered_of_inService (by rw [phase]; rfl)) rfl rfl rfl rfl
  | served here phase serves exec next =>
    exact h.setWorker_same here (Phase.entered_of_inService phase) rfl rfl rfl rfl
  | moved here phase boot devices next report dead =>
    exact h.setWorker_same here (Phase.entered_of_inService phase) boot dead rfl rfl
  | noted here phase =>
    exact h.setWorker_same here (by rw [phase]; exact Phase.entered_registered _ _) rfl rfl rfl rfl
  | missed here phase free none =>
    exact h.setWorker_same here (by rw [phase]; exact Phase.entered_dying) rfl rfl rfl rfl
  | @found c k w target b here phase free entry owner alive =>
    have hentered : w.phase.Entered := by
      rw [phase]
      exact Phase.entered_dying
    -- The table leads the connection to itself.
    cases (h.entry c w here hentered).symm.trans entry
    refine h.setWorker_settled here hentered.1 ?_ (.inl ⟨_, rfl⟩) ?_ (fun b _ => rfl)
    · dsimp only
      split <;> rfl
    · intro k hk
      exact setWorker_other _ hk _
  | fenced here phase exec =>
    exact h.setWorker_settled here (by simp [phase, Phase.Open]) rfl (.inl ⟨_, rfl⟩) (fun k _ => rfl)
      (fun b _ => rfl)
  | unlocked here phase =>
    exact h.setWorker_settled here (by simp [phase, Phase.Open]) rfl (.inr (.inl rfl))
      (fun k _ => rfl) (fun b _ => rfl)
  | @left c w b here phase free =>
    refine h.setWorker_settled here (by simp [phase, Phase.Open]) rfl (.inr (.inr rfl))
      (fun k _ => rfl) ?_
    intro b hb
    change (s.workers.erase w.boot.value)[b]? = s.workers[b]?
    rw [Std.ExtTreeMap.getElem?_erase, if_neg]
    simpa using hb.symm

theorem exclusive_start (epoch : CoordinatorEpoch) (recovered : Option PersistedState)
    (persist : Bool) : (start epoch recovered persist).Exclusive := by
  have hnone (k : ConnId) : (start epoch recovered persist).connections[k]? = none :=
    Std.ExtTreeMap.getElem?_empty
  refine ⟨?_, ?_, ?_⟩
  · intro k k' w w' hw
    rw [hnone] at hw
    cases hw
  · intro k w hw
    rw [hnone] at hw
    cases hw
  · intro k w hw
    rw [hnone] at hw
    cases hw

theorem Exclusive.run {tr : List (Act × Report)} (h : s.Exclusive)
    (hrun : GuardedRun exec FreshBoot s tr s') : s'.Exclusive := by
  refine hrun.keeps (I := Exclusive) ?_ h
  intro s a r s' hfresh h hexec
  exact h.step hfresh (exec_effect hexec)

/-- The thread of an ended connection takes the lookup before its end has been handled. -/
theorem lookup_occurs {tr : List (Act × Report)} (hrun : GuardedRun exec FreshBoot s tr s')
    (h : s.Exclusive) (hw : s.connections[c]? = some w) (hphase : w.phase = .dying)
    (hdone : s'.Handled c) (d : DeviceId) :
    ∃ t b t', Occurs exec s tr t (.advance c b) t' ∧ t.Finds c d := by
  induction hrun generalizing w with
  | nil s =>
    obtain ⟨v, hv, hleft⟩ := hdone
    cases hw.symm.trans hv
    rw [hphase] at hleft
    simp at hleft
  | @cons s t u a r tr guard head tail ih =>
    have heffect := exec_effect head
    obtain ⟨w', hw', hstep⟩ := heffect.endStep hw (.inl hphase)
    have hentered : w.phase.Entered := by
      rw [hphase]
      exact Phase.entered_dying
    have hfinds : s.Finds c d := ⟨w, c, w, hw, hphase, h.entry c w hw hentered, hw,
      h.alive c w hw hentered.2.2, .inl rfl⟩
    cases hstep with
    | waits other dead =>
      obtain ⟨v, b, v', hoccurs, hfound⟩ := ih (h.step guard heffect) hw' hphase hdone
      exact ⟨v, b, v', .cons head hoccurs, hfound⟩
    | misses phase none => exact ⟨s, _, t, .head head tr, hfinds⟩
    | finds phase entry owner alive => exact ⟨s, _, t, .head head tr, hfinds⟩
    | marks phase | unlocks phase | closes phase => cases hphase.symm.trans phase

/-- Where workers boot with fresh ids, the end of the connection that published an online
device last fences the device until it is published again. -/
theorem fresh_boots_fence {epoch : CoordinatorEpoch} {recovered : Option PersistedState}
    {persist : Bool} {tr tr' : List (Act × Report)} {s₁ s₂ : Coordinator} {d : DeviceId}
    (hrun : GuardedRun exec FreshBoot (start epoch recovered persist) tr s)
    (hpub : publisher d tr = some c) (honline : s.fabric.DeviceOnline d)
    (hlost : s.exec (.receive c none) = some (s₁, r)) (hrun' : GuardedRun exec FreshBoot s₁ tr' s₂)
    (hdone : s₂.Handled c) (hlater : publisher d tr' = none) : s₂.fabric.DeviceFenced d := by
  obtain ⟨honline₁, w, hw, hphase, hmem⟩ := pending_of_lost hrun.run hpub honline hlost
  have hexclusive : s₁.Exclusive := by
    refine ((exclusive_start epoch recovered persist).run hrun).step ?_ (exec_effect hlost)
    rintro k v f ⟨⟩
  obtain ⟨t, b, t', hoccurs, hfinds⟩ := lookup_occurs hrun' hexclusive hw hphase hdone d
  have hpending : s₁.Pending c d := ⟨⟨w, hw, .inl hphase, hmem⟩, .inl honline₁⟩
  exact hpending.fenced_of_finds hrun'.run (publisher_eq_none.mp hlater) hdone hoccurs hfinds

end Coordinator

end CxlFabric
