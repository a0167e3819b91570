import CxlFabric.RequestReply

/-! # Coming to rest

A thread that is not waiting for its peer has a bounded number of steps left, whatever the
other threads do: the longest way goes from a received frame through the reply and the file
back to the loop, and from a lost connection over the devices to be fenced. The mutex is
held by a thread that can go on, so the only other thing that can stop a thread is an
engine without room for a reservation. -/
namespace CxlFabric

open Persistence

/-- The steps that a thread has left at most, when no list has more than `n` devices. -/
def Phase.work (n : ℕ) : Phase → ℕ
  | .greeting | .receiving | .closed => 0
  | .leaving => 1
  | .looping => 2
  | .booting | .writing _ => 3
  | .exporting => 4
  | .registered _ _ | .reserved _ | .replying _ _ => 5
  | .duplicatePool _ | .duplicateRegion _ => 6
  | .dispatching _ => 7
  | .fencing ds => ds.length + 2
  | .dying => n + 3

/-- The devices that a thread in this phase is about to register. -/
def Phase.arriving : Phase → ℕ
  | .dispatching _ | .registered _ _ => 1
  | _ => 0

/-- The devices on the list of a worker when its request is through. -/
def WorkerState.load (w : WorkerState) : ℕ := w.devices.length + w.phase.arriving

/-- The thread waits for its peer or has returned. -/
def Phase.resting : Phase → Bool
  | .greeting | .receiving | .closed => true
  | _ => false

/-- The thread fences the devices of a dead worker. -/
def Phase.fences : Phase → Bool
  | .fencing _ => true
  | _ => false

def Act.ofThread : Act → Bool
  | .advance _ _ => true
  | _ => false

theorem Phase.work_mono {m n : ℕ} (h : m ≤ n) (p : Phase) : p.work m ≤ p.work n := by
  cases p with
  | dying => exact Nat.add_le_add_right h 3
  | _ => exact le_refl _

namespace Coordinator

/-- A bound on the devices on all lists. -/
def load (s : Coordinator) : ℕ := sumBy WorkerState.load s.connections

/-- The steps that the threads have left at most. -/
def work (s : Coordinator) : ℕ := sumBy (fun w => w.phase.work s.load) s.connections

/-- The moving thread has less to do, and no more devices come in than were expected. -/
structure Lighter (n : ℕ) (w w' : WorkerState) : Prop where
  work : w'.phase.work n < w.phase.work n
  load : w'.load ≤ w.load

/-- One thread gets on; another one can at most be marked as dead, which no weight sees. -/
structure Advances (s s' : Coordinator) (w : WorkerState) : Prop where
  step : ∃ w', Lighter s.load w w' ∧ ∀ g : WorkerState → ℕ,
    (∀ v dead, g { v with dead := dead } = g v) →
    sumBy g s'.connections + g w = sumBy g s.connections + g w'

section work
variable {s s' t : Coordinator} {c : ConnId} {w w' : WorkerState} {r : Report} {b : ℕ → UInt8}
  {p : Phase}

theorem Advances.of_setWorker (hw : s.connections[c]? = some w)
    (ht : t.connections = s.connections) (hlight : Lighter s.load w w') :
    s.Advances (t.setWorker c w') w := by
  refine ⟨w', hlight, ?_⟩
  intro g hg
  have hconn : (t.setWorker c w').connections = s.connections.insert c w' := by
    rw [← ht]
    rfl
  rw [hconn]
  exact sumBy_insert_of_present g w' hw

/-- The thread goes on with its state as it is. -/
theorem Advances.of_phase (hw : s.connections[c]? = some w) (ht : t.connections = s.connections)
    (hwork : p.work s.load < w.phase.work s.load) (hload : p.arriving = 0) :
    s.Advances (t.setWorker c { w with phase := p }) w := by
  refine .of_setWorker hw ht ⟨hwork, ?_⟩
  unfold WorkerState.load
  dsimp only
  omega

/-- A step of a thread lowers the work that is left. -/
theorem Advances.work_lt (h : s.Advances s' w) : s'.work < s.work := by
  obtain ⟨w', hlight, hsum⟩ := h.step
  have hload : s'.load ≤ s.load := by
    have heq := hsum WorkerState.load (fun _ _ => rfl)
    have hle := hlight.load
    unfold load
    omega
  have hmono : s'.work ≤ sumBy (fun v => v.phase.work s.load) s'.connections :=
    sumBy_le_sumBy fun _ v _ => Phase.work_mono hload v.phase
  have heq := hsum (fun v => v.phase.work s.load) (fun _ _ => rfl)
  have hlt := hlight.work
  unfold work at hmono ⊢
  omega

theorem finish_light (n : ℕ) (type : FrameType) :
    (finish type).work n ≤ 4 ∧ (finish type).arriving = 0 := by
  unfold finish
  split
  · exact ⟨le_refl 4, rfl⟩
  · exact ⟨by simp [Phase.work], rfl⟩

theorem dispatch_advances {f : Frame} (hw : s.connections[c]? = some w)
    (hphase : w.phase = .dispatching f) (h : s.dispatch c w f b = some (s', r)) :
    s.Advances s' w := by
  have hwork : w.phase.work s.load = 7 := by
    rw [hphase]
    rfl
  have hnext {t : Coordinator} {p : Phase} (ht : t.connections = s.connections)
      (hp : p.work s.load < 7) (hload : p.arriving = 0) :
      s.Advances (t.setWorker c { w with phase := p }) w :=
    .of_phase hw ht (hwork ▸ hp) hload
  have herror (msg : String) (hgoto : s.goto c w (.replying f.type (errorFrame msg)) =
      some (s', r)) : s.Advances s' w := by
    cases hgoto
    exact hnext rfl (by simp [Phase.work]) rfl
  unfold dispatch at h
  dsimp only at h
  split at h
  · split at h
    · exact herror _ h
    · cases h
      refine .of_setWorker hw rfl ⟨?_, ?_⟩
      · rw [hwork]
        simp [Phase.work]
      · unfold WorkerState.load
        rw [hphase]
        exact le_refl _
  · split at h
    · exact herror _ h
    · split at h
      · cases h
      · cases h
        exact hnext rfl (by simp [Phase.work]) rfl
  · cases h
    exact hnext rfl (by simp [Phase.work]) rfl
  · cases h
    exact hnext rfl (by simp [Phase.work]) rfl
  · cases h
    exact hnext rfl (by simp [Phase.work]) rfl
  · split at h
    · exact herror _ h
    · cases h
      refine hnext rfl ?_ ?_
      · split <;> simp [Phase.work]
      · split <;> rfl
  · split at h
    · exact herror _ h
    · cases h
      refine hnext rfl ?_ ?_
      · split <;> simp [Phase.work]
      · split <;> rfl
  · cases h
    obtain ⟨hle, hload⟩ := finish_light s.load f.type
    exact hnext (t := { s with running := false }) rfl (by omega) hload
  · exact herror _ h

theorem findDead_advances (hw : s.connections[c]? = some w) (hphase : w.phase = .dying)
    (h : s.findDead c w = some (s', r)) : s.Advances s' w := by
  have hwork : w.phase.work s.load = s.load + 3 := by
    rw [hphase]
    rfl
  have hmissed (hgoto : s.goto c w .leaving = some (s', r)) : s.Advances s' w := by
    cases hgoto
    refine .of_phase hw rfl ?_ rfl
    rw [hwork]
    simp [Phase.work]
  unfold findDead at h
  split at h
  · exact hmissed h
  next k hk =>
  split at h
  · exact hmissed h
  next target htarget =>
  split at h
  · exact hmissed h
  cases h
  have hfound : s.load ≥ target.load := le_sumBy WorkerState.load htarget
  refine ⟨{ w with phase := .fencing target.devices }, ⟨?_, ?_⟩, ?_⟩
  · rw [hwork]
    unfold WorkerState.load at hfound
    simp only [Phase.work]
    omega
  · unfold WorkerState.load
    simp [Phase.arriving]
  · intro g hg
    have hmark := sumBy_insert_of_present g { target with dead := true } htarget
    rw [hg target true] at hmark
    have hhere : ∃ v, (s.connections.insert k { target with dead := true })[c]? = some v ∧
        g v = g w := by
      rw [getElem?_insert_eq]
      split
      · next hkc =>
        subst hkc
        cases hw.symm.trans htarget
        exact ⟨_, rfl, hg w true⟩
      · exact ⟨w, hw, rfl⟩
    obtain ⟨v, hv, hgv⟩ := hhere
    have hsum := sumBy_insert_of_present g
      { (if k = c then { w with dead := true } else w) with phase := .fencing target.devices } hv
    have hmoved : g { (if k = c then { w with dead := true } else w) with
        phase := .fencing target.devices } = g { w with phase := .fencing target.devices } := by
      split
      · exact hg { w with phase := .fencing target.devices } true
      · rfl
    rw [hmoved, hgv, Nat.add_right_cancel hmark] at hsum
    exact hsum

theorem advance_advances (hw : s.connections[c]? = some w) (h : s.advance c b = some (s', r)) :
    s.Advances s' w := by
  have hgoes {t : Coordinator} {p : Phase} (hphase : p.work s.load < w.phase.work s.load)
      (ht : t.connections = s.connections) (hload : p.arriving = 0) :
      s.Advances (t.setWorker c { w with phase := p }) w := .of_phase hw ht hphase hload
  unfold advance at h
  rw [hw] at h
  dsimp only at h
  split at h
  · cases h
  · cases h
  · cases h
  · next hphase =>
    split at h
    · cases h
    · cases h
      exact hgoes (by simp [hphase, Phase.work]) rfl rfl
  · next hphase =>
    cases h
    refine hgoes ?_ rfl ?_
    · rw [hphase]
      split <;> simp [Phase.work]
    · split <;> rfl
  · next f hphase => exact dispatch_advances hw hphase h
  · next id reason hphase =>
    cases h
    obtain ⟨hle, hload⟩ := finish_light s.load .publishDevice
    refine .of_setWorker hw rfl ⟨?_, ?_⟩
    · rw [hphase]
      exact Nat.lt_succ_of_le hle
    · unfold WorkerState.load
      dsimp only
      rw [hphase, hload]
      split
      · simp [Phase.arriving]
      · exact Nat.add_le_add_left (Nat.zero_le _) _
  · next id hphase =>
    cases h
    exact hgoes (by simp [hphase, Phase.work]) rfl rfl
  · next id hphase =>
    cases h
    exact hgoes (by simp [hphase, Phase.work]) rfl rfl
  · next o hphase =>
    cases h
    obtain ⟨hle, hload⟩ := finish_light s.load .reserve
    refine .of_setWorker hw rfl ⟨?_, ?_⟩
    · rw [hphase]
      exact Nat.lt_succ_of_le hle
    · unfold WorkerState.load
      dsimp only
      rw [hload]
      omega
  · next type resp hphase =>
    cases h
    obtain ⟨hle, hload⟩ := finish_light s.load type
    refine hgoes ?_ rfl hload
    rw [hphase]
    exact Nat.lt_succ_of_le hle
  · next hphase =>
    split at h
    · cases h
      exact hgoes (by simp [hphase, Phase.work]) rfl rfl
    · split at h
      · cases h
        exact hgoes (by simp [hphase, Phase.work]) rfl rfl
      · cases h
        exact hgoes (by simp [hphase, Phase.work]) rfl rfl
  · next payload hphase =>
    split at h
    · cases h
      exact hgoes (by simp [hphase, Phase.work]) rfl rfl
    · cases h
      exact hgoes (t := { s with saved := some payload }) (by simp [hphase, Phase.work]) rfl rfl
  · next hphase =>
    split at h
    · cases h
    · exact findDead_advances hw hphase h
  · next hphase =>
    cases h
    exact hgoes (t := { s with fencer := none }) (by simp [hphase, Phase.work]) rfl rfl
  · next d ds hphase =>
    cases h
    exact hgoes (by simp [hphase, Phase.work]) rfl rfl
  · next hphase =>
    split at h
    · cases h
    · cases h
      exact hgoes (by simp [hphase, Phase.work]) rfl rfl

theorem exec_work_lt {a : Act} (ha : a.ofThread = true) (h : s.exec a = some (s', r)) :
    s'.work < s.work := by
  cases a with
  | advance c b =>
    obtain ⟨w, hw⟩ : ∃ w, s.connections[c]? = some w := by
      cases hw : s.connections[c]? with
      | none =>
        simp only [exec, advance, hw] at h
        cases h
      | some w => exact ⟨w, rfl⟩
    exact (advance_advances hw h).work_lt
  | accept | receive | signal => cases ha

end work

/-! ## The mutex -/

def fencesAt (s : Coordinator) (k : ConnId) : Bool := (s.phaseOf k).any Phase.fences

/-- The thread that holds `workers_mu_` between two steps is the one that fences. -/
def Locked (s : Coordinator) : Prop := ∀ k, s.fencer = some k ↔ s.fencesAt k = true

section mutex
variable {s s' t : Coordinator} {a : Act} {r : Report} {c k : ConnId} {w w' : WorkerState}

theorem fencesAt_setWorker (s : Coordinator) (c k : ConnId) (w : WorkerState) :
    (s.setWorker c w).fencesAt k = if c = k then w.phase.fences else s.fencesAt k := by
  unfold fencesAt
  rw [phaseOf_setWorker]
  split
  · rfl
  · rfl

theorem fencesAt_eq (hw : s.connections[c]? = some w) : s.fencesAt c = w.phase.fences := by
  unfold fencesAt phaseOf
  rw [hw]
  rfl

theorem fences_of_inService {p : Phase} (hp : p.inService = true) : p.fences = false := by
  cases p with
  | fencing ds => cases hp
  | _ => rfl

theorem fencesAt_kept (hw : s.connections[c]? = some w) (ht : t.connections = s.connections)
    (hsame : w'.phase.fences = w.phase.fences) (k : ConnId) :
    (t.setWorker c w').fencesAt k = s.fencesAt k := by
  rw [fencesAt_setWorker]
  split
  · next hk =>
    subst hk
    rw [hsame, fencesAt_eq hw]
  · unfold fencesAt phaseOf
    rw [ht]

/-- A thread that begins to fence takes the mutex while it is free, one that has fenced
returns it; nothing else moves it. -/
theorem Effect.fencer (h : s.Effect a r s') :
    (s'.fencer = s.fencer ∧ ∀ k, s'.fencesAt k = s.fencesAt k) ∨
    (∃ c, s.fencer = none ∧ s'.fencer = some c ∧
      ∀ k, s'.fencesAt k = if c = k then true else s.fencesAt k) ∨
    ∃ c, s.fencesAt c = true ∧ s'.fencer = none ∧
      ∀ k, s'.fencesAt k = if c = k then false else s.fencesAt k := by
  cases h with
  | @accepted c fresh =>
    refine .inl ⟨rfl, ?_⟩
    intro k
    rw [fencesAt_setWorker]
    split
    · next hk =>
      subst hk
      unfold fencesAt phaseOf
      rw [fresh]
      rfl
    · rfl
  | signalled => exact .inl ⟨rfl, fun _ => rfl⟩
  | served here phase serves exec next =>
    refine .inl ⟨rfl, fencesAt_kept here rfl ?_⟩
    rw [fences_of_inService phase, fences_of_inService next]
  | moved here phase boot devices next =>
    refine .inl ⟨rfl, fencesAt_kept here rfl ?_⟩
    rw [fences_of_inService phase, fences_of_inService next]
  | looped here phase =>
    refine .inl ⟨rfl, fencesAt_kept here rfl ?_⟩
    rw [phase]
    dsimp only
    split <;> rfl
  | noted here phase =>
    refine .inl ⟨rfl, fencesAt_kept here rfl ?_⟩
    rw [phase]
    rfl
  | @found c t w target b here phase free entry owner alive =>
    refine .inr (.inl ⟨c, free, rfl, ?_⟩)
    intro k
    rw [fencesAt_setWorker]
    split
    · rfl
    · exact fencesAt_kept (t := { s with fencer := some c }) owner rfl (by rfl) k
  | @unlocked c w b here phase =>
    refine .inr (.inr ⟨c, ?_, rfl, ?_⟩)
    · rw [fencesAt_eq here, phase]
      rfl
    · intro k
      rw [fencesAt_setWorker]
      rfl
  | booted here phase | refused here phase | received here phase | lost here phase
  | entered here phase | published here phase | missed here phase | fenced here phase
  | left here phase =>
    refine .inl ⟨rfl, fencesAt_kept here rfl ?_⟩
    rw [phase]
    rfl

theorem locked_start (epoch : CoordinatorEpoch) (recovered : Option PersistedState)
    (persist : Bool) : (start epoch recovered persist).Locked := by
  intro k
  have hnone : (start epoch recovered persist).fencesAt k = false := by
    simp [fencesAt, phaseOf, start]
  rw [hnone]
  simp [start]

theorem Locked.step (hlock : s.Locked) (h : s.Effect a r s') : s'.Locked := by
  intro k
  rcases h.fencer with ⟨hsame, hfences⟩ | ⟨c, hfree, htaken, hfences⟩ | ⟨c, hheld, hback, hfences⟩
  · rw [hsame, hfences]
    exact hlock k
  · rw [htaken, hfences, Option.some.injEq]
    split
    · next hk => exact ⟨fun _ => rfl, fun _ => hk⟩
    · next hk =>
      have hother := hlock k
      rw [hfree] at hother
      simpa [hk] using hother
  · rw [hback, hfences]
    have hholder := (hlock c).mpr hheld
    split
    · simp
    · next hk =>
      have hother := hlock k
      rw [hholder, Option.some.injEq] at hother
      simpa [hk] using hother

theorem locked_of_run {epoch : CoordinatorEpoch} {recovered : Option PersistedState}
    {persist : Bool} {tr : List (Act × Report)}
    (hrun : Run exec (start epoch recovered persist) tr s) : s.Locked :=
  hrun.keeps (fun _ _ _ _ hlock hexec => hlock.step (exec_effect hexec))
    (locked_start epoch recovered persist)

end mutex

/-! ## Rest -/

/-- No thread has a step to take. -/
def Final (s : Coordinator) : Prop := ∀ a, a.ofThread = true → s.exec a = none

section rest
variable {s : Coordinator} {c : ConnId} {w : WorkerState} {b : ℕ → UInt8}

theorem reserve_ne_none {f : Fabric} {req : AdmissionRequest} {ctx : AuthorityContext}
    (room : f.state.reservations.size < Fabric.maxReservations) : f.reserve req ctx ≠ none := by
  unfold Fabric.reserve
  dsimp only
  repeat' split
  all_goals first | exact Option.some_ne_none _ | omega

theorem dispatch_ne_none (room : s.fabric.state.reservations.size < Fabric.maxReservations)
    (f : Frame) : s.dispatch c w f b ≠ none := by
  unfold dispatch
  dsimp only
  split
  · split
    · exact Option.some_ne_none _
    · exact Option.some_ne_none _
  · split
    · exact Option.some_ne_none _
    · split
      · next hnone => exact absurd hnone (reserve_ne_none room)
      · exact Option.some_ne_none _
  · exact Option.some_ne_none _
  · exact Option.some_ne_none _
  · exact Option.some_ne_none _
  · split
    · exact Option.some_ne_none _
    · exact Option.some_ne_none _
  · split
    · exact Option.some_ne_none _
    · exact Option.some_ne_none _
  · exact Option.some_ne_none _
  · exact Option.some_ne_none _

theorem findDead_ne_none : s.findDead c w ≠ none := by
  unfold findDead
  repeat' split
  all_goals exact Option.some_ne_none _

/-- A thread that can neither wait for the mutex nor for room gets on unless it rests. -/
theorem resting_of_advance (hw : s.connections[c]? = some w) (hfree : s.fencer = none)
    (room : s.fabric.state.reservations.size < Fabric.maxReservations)
    (h : s.advance c b = none) : w.phase.resting = true := by
  unfold advance at h
  rw [hw] at h
  dsimp only at h
  rw [hfree] at h
  split at h
  · next hphase => rw [hphase]; rfl
  · next hphase => rw [hphase]; rfl
  · next hphase => rw [hphase]; rfl
  · cases h
  · cases h
  · exact absurd h (dispatch_ne_none room _)
  · cases h
  · cases h
  · cases h
  · cases h
  · cases h
  · split at h
    · cases h
    · split at h
      · cases h
      · cases h
  · split at h
    · cases h
    · cases h
  · exact absurd h findDead_ne_none
  · cases h
  · cases h
  · cases h

/-- The mutex is free when no thread has a step to take. -/
theorem Final.free (hfinal : s.Final) (hlock : s.Locked) : s.fencer = none := by
  cases hk : s.fencer with
  | none => rfl
  | some k =>
    obtain ⟨p, hp, hfences⟩ := (Option.any_eq_true _ _).mp ((hlock k).mp hk)
    obtain ⟨w, hw, rfl⟩ := Option.map_eq_some_iff.mp hp
    have hnone := hfinal (.advance k fun _ => 0) rfl
    cases hphase : w.phase with
    | fencing ds =>
      cases ds with
      | nil =>
        simp only [exec, advance, hw, hphase] at hnone
        cases hnone
      | cons d ds =>
        simp only [exec, advance, hw, hphase] at hnone
        cases hnone
    | _ =>
      rw [hphase] at hfences
      cases hfences

/-- Threads that rest take no step. -/
theorem final_of_resting (hrest : ∀ e ∈ s.connections.toList, e.2.phase.resting = true) :
    s.Final := by
  intro a ha
  cases a with
  | advance c b =>
    simp only [exec, advance]
    split
    · rfl
    · next w hw =>
      have hphase := hrest (c, w) (Std.ExtTreeMap.mem_toList_iff_getElem?_eq_some.mpr hw)
      split
      all_goals first | rfl | (next hp => rw [hp] at hphase; cases hphase)
  | accept | receive | signal => cases ha

theorem answering_of_resting {p : Phase} (hp : p.resting = true) : p.answering = false := by
  cases p with
  | greeting | receiving | closed => rfl
  | _ => cases hp

variable {tr : List (Act × Report)}

/-- However the threads are scheduled, they come to rest within a number of steps that the
state bounds, and then every request that has come in has been answered. -/
theorem comes_to_rest {epoch : CoordinatorEpoch} {recovered : Option PersistedState}
    {persist : Bool} (hrun : Run exec (start epoch recovered persist) tr s) :
    (∀ tr' t, Run exec s tr' t → (∀ e ∈ tr', e.1.ofThread = true) →
      tr'.length + t.work ≤ s.work) ∧
    (∃ tr' t, Run exec s tr' t ∧ (∀ e ∈ tr', e.1.ofThread = true) ∧ t.Final) ∧
    ∀ tr' t, Run exec s tr' t → t.Final →
      t.fabric.state.reservations.size < Fabric.maxReservations →
      t.fencer = none ∧ ∀ c w, t.connections[c]? = some w → w.phase.resting = true ∧
        List.Forall₂ Suits (awaiting (conversation c (tr ++ tr')))
          (replies (conversation c (tr ++ tr'))) := by
  have hlower : ∀ (s : Coordinator) a r s', a.ofThread = true → s.exec a = some (s', r) →
      s'.work < s.work := fun _ _ _ _ ha hexec => exec_work_lt ha hexec
  obtain ⟨tr₁, t₁, hguarded, hend⟩ := GuardedRun.exists_final
    (P := fun _ (a : Act) => a.ofThread = true) (measure work).wf hlower s
  refine ⟨fun tr' t hown hA => hown.length_add_le hlower hA,
    ⟨tr₁, t₁, hguarded.run, hguarded.allowed, hend⟩, ?_⟩
  intro tr' t hown hfinal room
  have hall := hrun.append hown
  have hfree := hfinal.free (locked_of_run hall)
  refine ⟨hfree, ?_⟩
  intro c w hw
  have hrest : w.phase.resting = true :=
    resting_of_advance hw hfree room (hfinal (.advance c fun _ => 0) rfl)
  refine ⟨hrest, ?_⟩
  obtain ⟨answered, pending, hawaiting, hpairs, -, hnone⟩ :=
    ((consistent_of_run hall).known c w hw).pairs
  rw [hnone (answering_of_resting hrest), List.append_nil] at hawaiting
  rw [hawaiting]
  exact hpairs

/-- A worker has asked for the state; its thread answers and waits for the next frame. -/
def answeringRun : Option (List (Act × Report) × Coordinator) :=
  execAll exec (queryingRun.get queryingRun_isSome).2 (List.replicate 3 (.advance 0 fun _ => 0))

theorem comes_to_rest_queryingRun :
    ∃ tr s tr' t, Run exec (start ⟨1⟩ none false) tr s ∧ Run exec s tr' t ∧ t.Final ∧
      tr'.length + t.work ≤ s.work ∧ t.fencer = none ∧
      ∀ c w, t.connections[c]? = some w → w.phase.resting = true ∧
        List.Forall₂ Suits (awaiting (conversation c (tr ++ tr')))
          (replies (conversation c (tr ++ tr'))) := by
  have hrun := Run.of_execAll (Option.some_get queryingRun_isSome).symm
  have h : answeringRun.any (fun q => q.1.all (fun e => e.1.ofThread) &&
      q.2.connections.toList.all (fun e => e.2.phase.resting) &&
      decide (q.2.fabric.state.reservations.size < Fabric.maxReservations)) = true := by
    decide +kernel
  obtain ⟨⟨tr', t⟩, hsteps, hchecks⟩ := (Option.any_eq_true _ _).mp h
  have hown := Run.of_execAll hsteps
  simp only [Bool.and_eq_true, List.all_eq_true, decide_eq_true_eq] at hchecks
  obtain ⟨⟨hthreads, hresting⟩, room⟩ := hchecks
  have hfinal := final_of_resting hresting
  obtain ⟨hbound, -, hanswered⟩ := comes_to_rest hrun
  obtain ⟨hfree, hrest⟩ := hanswered tr' t hown hfinal room
  exact ⟨_, _, tr', t, hrun, hown, hfinal, hbound tr' t hown hthreads, hfree, hrest⟩

end rest

end Coordinator

end CxlFabric
