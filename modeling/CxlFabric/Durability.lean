import CxlFabric.CoordinatorAuthority
import CxlFabric.StoredStructure
import CxlFabric.ThreadTurns

/-! # What is on disk after an acknowledgement

The process persists after some of the frames and once more when it stops; a pool or a region
that is created waits for the next of these. What is acknowledged is on disk if no record has
been added since, no payload was overtaken by a new record, and every exported state can be
stored. -/
namespace CxlFabric

open Persistence

/-- A call that brings in a pool, a region, a device or a generation of a device, if it
succeeds. -/
def Fabric.adds (f : Fabric) : Op → Bool
  | .createPool _ _ | .createRegion _ _ => true
  | .registerDevice d _ => f.state.devices[d.id]?.map (·.generation) ≠ some d.generation
  | _ => false

/-- Where the main thread stands: it waits for the end, and then it persists. -/
inductive Stopping
  | waiting
  | writing (payload : List UInt8)
  | stopped
  deriving DecidableEq

/-- The threads of the connections and the main thread. -/
structure Process where
  coordinator : Coordinator
  main : Stopping := .waiting

inductive Move
  | thread (a : Act)
  | main

/-- The connection whose thread makes the move. -/
def Move.conn : Move → Option ConnId
  | .thread a => a.conn
  | .main => none

namespace Process

/-- The next step of `stop`. -/
def stop (p : Process) : Option (Process × Report) :=
  match p.main with
  | .waiting =>
    if p.coordinator.running then none
    else if !p.coordinator.persist then some ({ p with main := .stopped }, .silent)
    else match serializeState p.coordinator.fabric.exportPersisted with
      | .error _ => some ({ p with main := .stopped }, .silent)
      | .ok payload => some ({ p with main := .writing payload }, .silent)
  | .writing payload =>
    if payload.length > maxPersistPayload then some ({ p with main := .stopped }, .silent)
    else some ({ main := .stopped, coordinator := { p.coordinator with saved := some payload } },
      .silent)
  | .stopped => none

def exec (p : Process) : Move → Option (Process × Report)
  | .thread a => (p.coordinator.exec a).map fun r => ({ p with coordinator := r.1 }, r.2)
  | .main => p.stop

/-- A process that is started with `--persist`. `file` is the payload that an earlier process
has written, if there is one; it is imported unless it is rejected. -/
def boot (beyond : ℕ → UInt8) (epoch : CoordinatorEpoch) (file : Option (List UInt8)) : Process :=
  match file with
  | none => { coordinator := .start epoch none true }
  | some payload => match deserializeState beyond payload with
    | .error _ =>
      { coordinator := { Coordinator.start epoch none true with saved := some payload } }
    | .ok st =>
      { coordinator := { Coordinator.start epoch (some st) true with saved := some payload } }

def fabric (p : Process) : Fabric := p.coordinator.fabric

def phaseOf (p : Process) (c : ConnId) : Option Phase := p.coordinator.phaseOf c

/-- The payload on disk is read back with the structure that the engine has now. -/
def Durable (beyond : ℕ → UInt8) (p : Process) : Prop :=
  ∃ payload, p.coordinator.saved = some payload ∧ Loads beyond payload p.fabric.exportPersisted

/-- The thread has exported a payload and has not written it yet. -/
def Holds (p : Process) (c : ConnId) : Prop := ∃ payload, p.phaseOf c = some (.writing payload)

/-- A published pool or region is acknowledged, and with that `dispatch` returns. -/
def Confirms (p : Process) (m : Move) : Prop :=
  ∃ c type, m.conn = some c ∧
    p.phaseOf c = some (.replying type (Coordinator.ackFrame .ok)) ∧
    (type = .publishPool ∨ type = .publishRegion)

/-- `dispatch` returns from a frame after which it persists, as after every published
device. -/
def Persists (p : Process) (m : Move) (q : Process) : Prop :=
  ∃ c, m.conn = some c ∧
    (p.Holds c ∨ (p.phaseOf c = some .exporting ∧ q.phaseOf c = some .looping))

/-- The step adds a record. -/
def adds (p : Process) (m : Move) : Bool :=
  match p.exec m with
  | some (_, .performed op (.decision .ok)) => p.fabric.adds op
  | _ => false

/-- What a step has to respect for the file to keep up. -/
structure Orderly (p : Process) (m : Move) : Prop where
  /-- A record is added while no thread holds a payload. -/
  adds : p.adds m = true → (∀ c, ¬p.Holds c) ∧ ∀ payload, p.main ≠ .writing payload
  /-- What is exported can be stored. -/
  exports : ∀ c, m.conn = some c → p.phaseOf c = some .exporting →
    Storable p.fabric.exportPersisted
  stops : m = .main → p.main = .waiting → Storable p.fabric.exportPersisted

/-- An orderly step that adds no record. -/
structure Steady (p : Process) (m : Move) : Prop extends Orderly p m where
  keeps : p.adds m = false

end Process

/-- A step keeps the structure unless it adds a record. -/
theorem Coordinator.Effect.structure {s s' : Coordinator} {a : Act} {r : Report}
    (h : s.Effect a r s') : s.fabric.KeepsStructure s'.fabric ∨
      ∃ op, r = .performed op (.decision .ok) ∧ s.fabric.adds op = true := by
  cases h with
  | @published c w b f d fabric reason here phase exec =>
    rcases Fabric.registerDevice_structure (Fabric.exec_effect exec) with hkeeps | ⟨hok, hnew⟩
    · exact .inl hkeeps
    · cases hok
      exact .inr ⟨_, rfl, decide_eq_true hnew⟩
  | @served c w b op out fabric p here phase serves exec next =>
    have heffect := Fabric.exec_effect exec
    cases serves with
    | reserve req => exact .inl (heffect.keepsStructure (.reserve req _))
    | commit id => exact .inl (heffect.keepsStructure (.commit id _))
    | release id => exact .inl (heffect.keepsStructure (.release id _))
    | revalidatePool id => exact .inl (heffect.keepsStructure (.revalidatePool id _))
    | revalidateRegion id => exact .inl (heffect.keepsStructure (.revalidateRegion id _))
    | createPool pool =>
      by_cases hout : out = .decision .ok
      · exact .inr ⟨_, congrArg _ hout, rfl⟩
      · rw [Fabric.createPool_refused heffect hout]
        exact .inl (.refl _)
    | createRegion region =>
      by_cases hout : out = .decision .ok
      · exact .inr ⟨_, congrArg _ hout, rfl⟩
      · rw [Fabric.createRegion_refused heffect hout]
        exact .inl (.refl _)
  | @fenced c w b d ds fabric reason here phase exec =>
    exact .inl ((Fabric.exec_effect exec).keepsStructure (.markDeviceRevalidation d _))
  | accepted | signalled | booted | refused | received | lost | entered | looped | noted | moved
  | missed | found | unlocked | left => exact .inl (.refl _)

/-- No pool and no region. -/
structure Fabric.Blank (f : Fabric) : Prop where
  pool : ∀ id : PoolId, f.state.pools[id]? = none
  region : ∀ id : RegionId, f.state.regions[id]? = none

/-- What has no pool and no region keeps to that with its structure. -/
theorem Fabric.KeepsStructure.blank {f f' : Fabric} (h : f.KeepsStructure f') (hblank : f.Blank) :
    f'.Blank := by
  refine ⟨?_, ?_⟩
  · intro id
    have hmap : f.state.pools[id]?.map _ = f'.state.pools[id]?.map _ := h.pool id
    rw [hblank.pool] at hmap
    exact Option.map_eq_none_iff.mp hmap.symm
  · intro id
    have hmap : f.state.regions[id]?.map _ = f'.state.regions[id]?.map _ := h.region id
    rw [hblank.region] at hmap
    exact Option.map_eq_none_iff.mp hmap.symm

/-- Pools and regions stay. -/
theorem Coordinator.Effect.blank {s s' : Coordinator} {a : Act} {r : Report}
    (h : s.Effect a r s') (hblank : s'.fabric.Blank) : s.fabric.Blank := by
  rcases h.fabric with ⟨op, out, rfl, hop⟩ | ⟨-, hsame⟩
  · have heffect := Fabric.exec_effect hop
    refine ⟨?_, ?_⟩
    · intro id
      by_contra hthere
      have hstays := heffect.pool_isSome h.not_import (Option.isSome_iff_ne_none.mpr hthere)
      rw [hblank.pool] at hstays
      cases hstays
    · intro id
      by_contra hthere
      have hstays := heffect.region_isSome h.not_import (Option.isSome_iff_ne_none.mpr hthere)
      rw [hblank.region] at hstays
      cases hstays
  · rw [← hsame]
    exact hblank

/-- A pool that is created or found again is there. -/
theorem Fabric.Effect.pool_there {f f' : Fabric} {op : Op} (h : f.Effect op (.decision .ok) f')
    (hop : (∃ pool ctx, op = .createPool pool ctx) ∨ ∃ id ctx, op = .revalidatePool id ctx) :
    ¬f'.Blank := by
  intro hblank
  rcases hop with ⟨pool, ctx, rfl⟩ | ⟨id, ctx, rfl⟩
  · cases h with
    | refused fallible failed => cases failed
    | createPool => simpa using hblank.pool pool.id
  · cases h with
    | refused fallible failed => cases failed
    | revalidatePool => simpa using hblank.pool id

theorem Fabric.Effect.region_there {f f' : Fabric} {op : Op} (h : f.Effect op (.decision .ok) f')
    (hop : (∃ region ctx, op = .createRegion region ctx) ∨
      ∃ id ctx, op = .revalidateRegion id ctx) : ¬f'.Blank := by
  intro hblank
  rcases hop with ⟨region, ctx, rfl⟩ | ⟨id, ctx, rfl⟩
  · cases h with
    | refused fallible failed => cases failed
    | createRegion => simpa using hblank.region region.id
  · cases h with
    | refused fallible failed => cases failed
    | revalidateRegion => simpa using hblank.region id

namespace Process
variable {beyond : ℕ → UInt8} {p q : Process} {m : Move} {r : Report}

theorem exec_thread {a : Act} (hstep : p.exec (.thread a) = some (q, r)) :
    ∃ s', p.coordinator.exec a = some (s', r) ∧ q = { p with coordinator := s' } := by
  obtain ⟨⟨s', r'⟩, hexec, heq⟩ := Option.map_eq_some_iff.mp hstep
  cases heq
  exact ⟨s', hexec, rfl⟩

/-- The step of a connection is one of its thread. -/
theorem exec_of_conn {c : ConnId} (hconn : m.conn = some c) (hstep : p.exec m = some (q, r)) :
    ∃ a s', a.conn = some c ∧ p.coordinator.exec a = some (s', r) ∧
      q = { p with coordinator := s' } := by
  cases m with
  | main => cases hconn
  | thread a =>
    obtain ⟨s', hexec, rfl⟩ := exec_thread hstep
    exact ⟨a, s', hconn, hexec, rfl⟩

theorem adds_of_exec {op : Op} (h : p.exec m = some (q, .performed op (.decision .ok)))
    (hop : p.fabric.adds op = true) : p.adds m = true := by
  unfold adds
  rw [h]
  exact hop

/-- Every payload that is held carries the present structure, and a pool or a region that is
about to be acknowledged is there. -/
structure Kept (beyond : ℕ → UInt8) (p : Process) : Prop where
  keyed : p.fabric.RecordsKeyed
  persist : p.coordinator.persist = true
  held : ∀ c payload, p.phaseOf c = some (.writing payload) →
    payload.length ≤ maxPersistPayload ∧ Loads beyond payload p.fabric.exportPersisted
  heldMain : ∀ payload, p.main = .writing payload → Loads beyond payload p.fabric.exportPersisted
  answered : ∀ c type, type = .publishPool ∨ type = .publishRegion →
    p.phaseOf c = some (.replying type (Coordinator.ackFrame .ok)) → ¬p.fabric.Blank

/-- The main thread exports and writes like the others. -/
theorem Kept.stop (h : p.Kept beyond)
    (hstops : p.main = .waiting → Storable p.fabric.exportPersisted)
    (hstep : p.stop = some (q, r)) : q.Kept beyond := by
  unfold Process.stop at hstep
  split at hstep
  · next hmain =>
    obtain ⟨payload, hserialize, -, hloads⟩ :=
      (hstops hmain).serialize h.keyed.exportPersisted beyond
    have hexport : serializeState p.coordinator.fabric.exportPersisted = .ok payload := hserialize
    rw [hexport, h.persist] at hstep
    split at hstep
    · cases hstep
    · cases hstep
      refine ⟨h.keyed, h.persist, h.held, ?_, h.answered⟩
      intro payload' hpayload
      cases hpayload
      exact hloads
  · split at hstep
    · cases hstep
      exact ⟨h.keyed, h.persist, h.held, by simp, h.answered⟩
    · cases hstep
      exact ⟨h.keyed, h.persist, h.held, by simp, h.answered⟩
  · cases hstep

section threads
variable {s' : Coordinator} {c : ConnId} {phase phase' : Phase} {a : Act}

/-- A turn needs to be looked at in the phase it leads to only. -/
theorem Kept.turn (h : p.Kept beyond) (heffect : p.coordinator.Effect a r s')
    (keyed : s'.fabric.RecordsKeyed) (persist : s'.persist = p.coordinator.persist)
    (other : ∀ k, c ≠ k → s'.phaseOf k = p.phaseOf k) (own : s'.phaseOf c = some phase')
    (keeps : p.fabric.KeepsStructure s'.fabric ∨
      ((∀ c, ¬p.Holds c) ∧ ∀ payload, p.main ≠ .writing payload))
    (held : ∀ payload, phase' = .writing payload →
      payload.length ≤ maxPersistPayload ∧ Loads beyond payload s'.fabric.exportPersisted)
    (answered : ∀ type, type = .publishPool ∨ type = .publishRegion →
      phase' = .replying type (Coordinator.ackFrame .ok) → ¬s'.fabric.Blank) :
    Kept beyond { p with coordinator := s' } := by
  refine ⟨keyed, persist.trans h.persist, ?_, ?_, ?_⟩
  · intro k payload hk
    by_cases hck : c = k
    · subst hck
      exact held payload (Option.some.inj (own.symm.trans hk))
    · have hold := (other k hck).symm.trans hk
      rcases keeps with hkeeps | ⟨hfree, -⟩
      · obtain ⟨hsize, hloads⟩ := h.held k payload hold
        exact ⟨hsize, hloads.congr hkeeps⟩
      · exact absurd ⟨payload, hold⟩ (hfree k)
  · intro payload hmain
    rcases keeps with hkeeps | ⟨-, hfree⟩
    · exact (h.heldMain payload hmain).congr hkeeps
    · exact absurd hmain (hfree payload)
  · intro k type htype hk
    by_cases hck : c = k
    · subst hck
      exact answered type htype (Option.some.inj (own.symm.trans hk))
    · have hthere := h.answered k type htype ((other k hck).symm.trans hk)
      exact fun hblank => hthere (heffect.blank hblank)

/-- Nothing happens but that a connection is accepted or the process is told to stop. -/
theorem Kept.still (h : p.Kept beyond) (hstill : p.coordinator.Still s') :
    Kept beyond { p with coordinator := s' } := by
  have hphase {k : ConnId} {phase : Phase} (hk : s'.phaseOf k = some phase)
      (hne : phase ≠ .greeting) : p.phaseOf k = some phase := by
    rcases hstill.phase k with hsame | ⟨hnew, -⟩
    · exact hsame.symm.trans hk
    · exact absurd (Option.some.inj (hk.symm.trans hnew)) hne
  have hfabric : fabric { p with coordinator := s' } = p.fabric := hstill.fabric
  refine ⟨?_, hstill.persist.trans h.persist, ?_, ?_, ?_⟩
  · rw [hfabric]
    exact h.keyed
  · intro k payload hk
    rw [hfabric]
    exact h.held k payload (hphase hk (by simp))
  · intro payload hmain
    rw [hfabric]
    exact h.heldMain payload hmain
  · intro k type htype hk
    rw [hfabric]
    exact h.answered k type htype (hphase hk (by simp))

/-- A reply that acknowledges a pool or a region follows a call that has found it. -/
theorem answer_there {type : FrameType} (hstep : p.coordinator.exec a = some (s', r))
    (hturn : p.coordinator.Turn r s' phase (.replying type (Coordinator.ackFrame .ok)))
    (htype : type = .publishPool ∨ type = .publishRegion) : ¬s'.fabric.Blank := by
  have hcall {op : Op} (hr : r = .performed op (.decision .ok)) :
      p.fabric.Effect op (.decision .ok) s'.fabric := by
    rcases (Coordinator.exec_effect hstep).fabric with ⟨op', out, hr', hop⟩ | ⟨hr', -⟩
    · cases hr.symm.trans hr'
      exact Fabric.exec_effect hop
    · rw [hr] at hr'
      cases hr'
  cases hturn with
  | serves idle saved next pool region =>
    rcases htype with rfl | rfl
    · obtain ⟨op, hr, hop⟩ := pool rfl
      exact (hcall hr).pool_there hop
    · obtain ⟨op, hr, hop⟩ := region rfl
      exact (hcall hr).region_there hop

theorem Kept.thread (h : p.Kept beyond) (horderly : p.Orderly (.thread a))
    (hstep : p.coordinator.exec a = some (s', r)) : Kept beyond { p with coordinator := s' } := by
  have hexec : p.exec (.thread a) = some ({ p with coordinator := s' }, r) := by
    simp only [Process.exec, hstep, Option.map_some]
  have heffect := Coordinator.exec_effect hstep
  rcases Coordinator.exec_turned_or_still hstep with
    ⟨c, phase, hc, hphase, hpersist, phase', hown, hturn⟩ | hstill
  · have hother (k : ConnId) (hk : c ≠ k) : s'.phaseOf k = p.phaseOf k := by
      apply heffect.phaseOf_other
      rw [hc]
      exact fun heq => hk (Option.some.inj heq)
    have hkeyed : s'.fabric.RecordsKeyed := by
      rcases heffect.fabric with ⟨op, out, rfl, hop⟩ | ⟨-, hsame⟩
      · refine h.keyed.step (Fabric.exec_effect hop) ?_
        cases op with
        | importPersisted st => exact absurd rfl (heffect.not_import st)
        | _ => trivial
      · rw [hsame]
        exact h.keyed
    have hkeeps : p.fabric.KeepsStructure s'.fabric ∨
        ((∀ c, ¬p.Holds c) ∧ ∀ payload, p.main ≠ .writing payload) := by
      rcases heffect.structure with hkeeps | ⟨op, rfl, hadds⟩
      · exact .inl hkeeps
      · exact .inr (horderly.adds (adds_of_exec hexec hadds))
    refine h.turn heffect hkeyed hpersist hother hown hkeeps ?_ ?_
    · rintro payload rfl
      cases hturn with
      | exports hfabric hsaved hserialized =>
        obtain ⟨payload', hserialize, hsize, hloads⟩ :=
          (horderly.exports c hc hphase).serialize h.keyed.exportPersisted beyond
        cases hserialized.symm.trans hserialize
        rw [hfabric]
        exact ⟨hsize, hloads⟩
      | serves hidle hsaved hnext => exact absurd rfl (hnext payload)
    · rintro type htype rfl
      exact answer_there hstep hturn htype
  · exact h.still hstill

end threads

theorem Kept.step (h : p.Kept beyond) (horderly : p.Orderly m) (hstep : p.exec m = some (q, r)) :
    q.Kept beyond := by
  cases m with
  | main => exact h.stop (horderly.stops rfl) hstep
  | thread a =>
    obtain ⟨s', hexec, rfl⟩ := exec_thread hstep
    exact h.thread horderly hexec

theorem Kept.run {tr : List (Move × Report)} (h : p.Kept beyond)
    (hrun : GuardedRun exec Orderly p tr q) : q.Kept beyond := by
  refine hrun.keeps (I := Kept beyond) ?_ h
  intro t m r t' horderly hkept hstep
  exact hkept.step horderly hstep

/-- Before the first connection nothing is held and nothing is answered. -/
theorem kept_of_idle (keyed : p.fabric.RecordsKeyed) (persist : p.coordinator.persist = true)
    (idle : ∀ c, p.phaseOf c = none) (waiting : p.main = .waiting) : p.Kept beyond := by
  refine ⟨keyed, persist, ?_, ?_, ?_⟩
  · intro c payload hphase
    rw [idle c] at hphase
    cases hphase
  · intro payload hmain
    rw [waiting] at hmain
    cases hmain
  · intro c type _ hphase
    rw [idle c] at hphase
    cases hphase

/-- What is recovered is what the file holds. -/
theorem kept_boot (beyond : ℕ → UInt8) (epoch : CoordinatorEpoch) (file : Option (List UInt8)) :
    Kept beyond (boot beyond epoch file) ∧
      ((boot beyond epoch file).Durable beyond ∨ (boot beyond epoch file).fabric.Blank) := by
  have hblank : (Fabric.new epoch ⟨1⟩).Blank := ⟨fun _ => rfl, fun _ => rfl⟩
  have hkeyed := Fabric.recordsKeyed_new epoch ⟨1⟩
  unfold boot
  split
  · exact ⟨kept_of_idle hkeyed rfl (fun _ => rfl) rfl, .inr hblank⟩
  split
  · exact ⟨kept_of_idle hkeyed rfl (fun _ => rfl) rfl, .inr hblank⟩
  · next payload _ st hread =>
    have himport : (Op.importPersisted st).ImportsKeyed := deserializeState_keyed hread
    have hexec : (Fabric.new epoch ⟨1⟩).exec (.importPersisted st) =
      some ((Fabric.new epoch ⟨1⟩).importPersisted st, .done) := rfl
    have hkeyed' := hkeyed.step (Fabric.exec_effect hexec) himport
    refine ⟨kept_of_idle hkeyed' rfl (fun _ => rfl) rfl, ?_⟩
    exact .inl ⟨payload, rfl, st, hread, Fabric.importPersisted_sameStructure _ st⟩

/-- The main thread leaves the engine and the connections as they are. -/
theorem stop_cases (hstep : p.stop = some (q, r)) :
    q.fabric = p.fabric ∧ q.phaseOf = p.phaseOf ∧ (q.coordinator.saved = p.coordinator.saved ∨
      ∃ payload, p.main = .writing payload ∧ q.coordinator.saved = some payload) := by
  unfold stop at hstep
  split at hstep
  · split at hstep
    · cases hstep
    split at hstep
    · cases hstep
      exact ⟨rfl, rfl, .inl rfl⟩
    split at hstep
    · cases hstep
      exact ⟨rfl, rfl, .inl rfl⟩
    · cases hstep
      exact ⟨rfl, rfl, .inl rfl⟩
  · next payload hmain =>
    split at hstep
    · cases hstep
      exact ⟨rfl, rfl, .inl rfl⟩
    · cases hstep
      exact ⟨rfl, rfl, .inr ⟨payload, hmain, rfl⟩⟩
  · cases hstep

/-- The structure of the process stays unless the step adds a record. -/
theorem keepsStructure_of_exec (hadds : p.adds m = false) (hstep : p.exec m = some (q, r)) :
    p.fabric.KeepsStructure q.fabric := by
  cases m with
  | main =>
    rw [(stop_cases hstep).1]
    exact .refl _
  | thread a =>
    obtain ⟨s', hexec, rfl⟩ := exec_thread hstep
    rcases (Coordinator.exec_effect hexec).structure with hkeeps | ⟨op, rfl, hop⟩
    · exact hkeeps
    · rw [adds_of_exec hstep hop] at hadds
      cases hadds

/-- The file stays, or a payload that was held is written to it. -/
theorem saved_of_exec (hstep : p.exec m = some (q, r)) :
    q.coordinator.saved = p.coordinator.saved ∨ ∃ payload, q.coordinator.saved = some payload ∧
      (p.main = .writing payload ∨ ∃ c, p.phaseOf c = some (.writing payload)) := by
  cases m with
  | main =>
    obtain ⟨-, -, hsaved | ⟨payload, hmain, hsaved⟩⟩ := stop_cases hstep
    · exact .inl hsaved
    · exact .inr ⟨payload, hsaved, .inl hmain⟩
  | thread a =>
    obtain ⟨s', hexec, rfl⟩ := exec_thread hstep
    rcases Coordinator.exec_turned_or_still hexec with
      ⟨c, phase, -, hphase, -, phase', -, hturn⟩ | hstill
    · cases hturn with
      | exports _ hsaved | skips _ hsaved | drops _ hsaved | notes _ hsaved | serves _ hsaved =>
        exact .inl hsaved
      | @writes _ payload _ hsaved => exact .inr ⟨payload, hsaved, .inr ⟨c, hphase⟩⟩
    · exact .inl hstill.saved

theorem Durable.step (h : p.Durable beyond) (hkept : p.Kept beyond) (hadds : p.adds m = false)
    (hstep : p.exec m = some (q, r)) : q.Durable beyond := by
  have hkeeps := keepsStructure_of_exec hadds hstep
  rcases saved_of_exec hstep with hsaved | ⟨payload, hsaved, hmain | ⟨c, hphase⟩⟩
  · obtain ⟨payload, hold, hloads⟩ := h
    exact ⟨payload, hsaved.trans hold, hloads.congr hkeeps⟩
  · exact ⟨payload, hsaved, (hkept.heldMain payload hmain).congr hkeeps⟩
  · exact ⟨payload, hsaved, (hkept.held c payload hphase).2.congr hkeeps⟩

/-- The payload that a thread writes carries the present structure. -/
theorem Holds.written {c : ConnId} (h : p.Holds c) (hkept : p.Kept beyond)
    (hconn : m.conn = some c) (hstep : p.exec m = some (q, r)) : q.Durable beyond := by
  obtain ⟨payload, hphase⟩ := h
  obtain ⟨hsize, hloads⟩ := hkept.held c payload hphase
  obtain ⟨a, s', hthread, hexec, rfl⟩ := exec_of_conn hconn hstep
  obtain ⟨-, phase', -, hturn⟩ := Coordinator.exec_turned hthread hphase hexec
  cases hturn with
  | writes hfabric hsaved =>
    refine ⟨payload, hsaved, ?_⟩
    have hsame : fabric { p with coordinator := s' } = p.fabric := hfabric
    rw [hsame]
    exact hloads
  | drops hfabric hsaved hlong => exact absurd hsize (Nat.not_le.mpr hlong)
  | serves hidle => cases hidle

/-- A payload is held until it is written. -/
theorem Holds.step {c : ConnId} (h : p.Holds c) (hkept : p.Kept beyond)
    (hstep : p.exec m = some (q, r)) : q.Durable beyond ∨ q.Holds c := by
  by_cases hconn : m.conn = some c
  · exact .inl (h.written hkept hconn hstep)
  · obtain ⟨payload, hphase⟩ := h
    refine .inr ⟨payload, ?_⟩
    cases m with
    | main => rw [(stop_cases hstep).2.1, hphase]
    | thread a =>
      obtain ⟨s', hexec, rfl⟩ := exec_thread hstep
      exact ((Coordinator.exec_effect hexec).phaseOf_other hconn).trans hphase

/-- What is exported is kept until it is written. -/
theorem Kept.exported {c : ConnId} (h : p.Kept beyond) (horderly : p.Orderly m)
    (hconn : m.conn = some c) (hphase : p.phaseOf c = some .exporting)
    (hstep : p.exec m = some (q, r)) : q.phaseOf c ≠ some .looping := by
  obtain ⟨payload, hserialize, -⟩ :=
    (horderly.exports c hconn hphase).serialize h.keyed.exportPersisted beyond
  obtain ⟨a, s', hthread, hexec, rfl⟩ := exec_of_conn hconn hstep
  obtain ⟨-, phase', hnext, hturn⟩ := Coordinator.exec_turned hthread hphase hexec
  change s'.phaseOf c ≠ some .looping
  cases hturn with
  | exports =>
    rw [hnext]
    simp
  | skips hfabric hsaved hfailed =>
    obtain ⟨err, herr⟩ := hfailed h.persist
    cases herr.symm.trans hserialize
  | serves hidle => cases hidle

/-- What the file lacks at first, it has later on or still lacks. -/
theorem Kept.run_durable_or {tr : List (Move × Report)} {D : Process → Prop}
    (hD : ∀ t m r t', t.Steady m → t.Kept beyond → D t → t.exec m = some (t', r) →
      t'.Durable beyond ∨ D t')
    (h : p.Kept beyond) (hrun : GuardedRun exec Steady p tr q) (hp : p.Durable beyond ∨ D p) :
    q.Durable beyond ∨ D q := by
  have hboth : q.Kept beyond ∧ (q.Durable beyond ∨ D q) := by
    refine hrun.keeps (I := fun t => t.Kept beyond ∧ (t.Durable beyond ∨ D t)) ?_ ⟨h, hp⟩
    rintro t m r t' hsteady ⟨hkept, ht⟩ hstep
    refine ⟨hkept.step hsteady.toOrderly hstep, ?_⟩
    rcases ht with hdurable | ht
    · exact .inl (hdurable.step hkept hsteady.keeps hstep)
    · exact hD t m r t' hsteady hkept ht hstep
  exact hboth.2

/-- As long as no record is added, the file is that of the start. -/
theorem Kept.run_durable_or_blank {tr : List (Move × Report)} (h : p.Kept beyond)
    (hrun : GuardedRun exec Steady p tr q) (hp : p.Durable beyond ∨ p.fabric.Blank) :
    q.Durable beyond ∨ q.fabric.Blank := by
  refine h.run_durable_or (D := fun t => t.fabric.Blank) ?_ hrun hp
  intro t m r t' hsteady _ hblank hstep
  exact .inr ((keepsStructure_of_exec hsteady.keeps hstep).blank hblank)

/-- As long as no record is added, the file lacks nothing once the payload is written. -/
theorem Kept.run_durable_or_holds {tr : List (Move × Report)} {c : ConnId} (h : p.Kept beyond)
    (hrun : GuardedRun exec Steady p tr q) (hp : p.Holds c) : q.Durable beyond ∨ q.Holds c := by
  refine h.run_durable_or (D := fun t => t.Holds c) ?_ hrun (.inr hp)
  intro t m r t' _ hkept hholds hstep
  exact hholds.step hkept hstep

theorem Confirms.there (h : p.Confirms m) (hkept : p.Kept beyond) : ¬p.fabric.Blank := by
  obtain ⟨c, type, -, hphase, htype⟩ := h
  exact hkept.answered c type htype hphase

/-- An acknowledgement leaves the engine and the file as they are. -/
theorem Confirms.step (h : p.Confirms m) (hstep : p.exec m = some (q, r)) :
    q.fabric = p.fabric ∧ q.coordinator.saved = p.coordinator.saved := by
  obtain ⟨c, type, hconn, hphase, -⟩ := h
  obtain ⟨a, s', hthread, hexec, rfl⟩ := exec_of_conn hconn hstep
  exact Coordinator.exec_reply_keeps hthread hphase hexec

/-- In every orderly run, what is acknowledged is on disk when `dispatch` returns: at once
after a frame after which it persists, and after another one if no record has been added since
the start, or since a thread had exported what is written by now. -/
theorem acknowledged_structure_durable (beyond : ℕ → UInt8) (epoch : CoordinatorEpoch)
    (file : Option (List UInt8)) {p₁ : Process} {tr₁ tr₂ : List (Move × Report)}
    (hrun : GuardedRun exec Orderly (boot beyond epoch file) tr₁ p₁)
    (hrun' : GuardedRun exec Steady p₁ tr₂ p) (horderly : p.Orderly m)
    (hstep : p.exec m = some (q, r)) (hfinishes : p.Confirms m ∨ p.Persists m q)
    (hfrom : p.Confirms m → tr₁ = [] ∨ ∃ c, p₁.Holds c ∧ ¬p.Holds c) : q.Durable beyond := by
  obtain ⟨hboot, hfile⟩ := kept_boot beyond epoch file
  have hkept₁ := hboot.run hrun
  have hkept := hkept₁.run (hrun'.mono fun _ _ h => h.toOrderly)
  rcases hfinishes with hconfirms | ⟨c, hconn, hholds | ⟨hphase, hnext⟩⟩
  · have hp : p.Durable beyond := by
      rcases hfrom hconfirms with rfl | ⟨c, hholds, hwritten⟩
      · cases hrun
        exact (hboot.run_durable_or_blank hrun' hfile).resolve_right (hconfirms.there hkept)
      · exact (hkept₁.run_durable_or_holds hrun' hholds).resolve_right hwritten
    obtain ⟨hfabric, hsaved⟩ := hconfirms.step hstep
    obtain ⟨payload, hold, hloads⟩ := hp
    refine ⟨payload, hsaved.trans hold, ?_⟩
    rw [hfabric]
    exact hloads
  · exact hholds.written hkept hconn hstep
  · exact absurd hnext (hkept.exported horderly hconn hphase hstep)

/-- No thread has something to persist. -/
def emptyHanded (p : Process) : Bool :=
  p.coordinator.connections.toList.all (fun e => !e.2.phase.pending) && p.main = .waiting

theorem not_holds_of_emptyHanded (h : p.emptyHanded = true) :
    (∀ c, ¬p.Holds c) ∧ ∀ payload, p.main ≠ .writing payload := by
  obtain ⟨hthreads, hmain⟩ := Bool.and_eq_true_iff.mp h
  refine ⟨?_, ?_⟩
  · rintro c ⟨payload, hphase⟩
    obtain ⟨w, hw, hwriting⟩ := Option.map_eq_some_iff.mp hphase
    have hmem := Std.ExtTreeMap.mem_toList_iff_getElem?_eq_some.mpr hw
    have hquiet := List.all_eq_true.mp hthreads (c, w) hmem
    simp [hwriting, Phase.pending] at hquiet
  · intro payload hwriting
    rw [hwriting] at hmain
    cases hmain

/-- A check for orderly steps. -/
def passes (p : Process) (m : Move) : Bool :=
  (!p.adds m || p.emptyHanded) && StateFits p.fabric.exportPersisted &&
    (writeBody p.fabric.exportPersisted).length + 4 ≤ maxPersistPayload

theorem orderly_of_passes (h : p.passes m = true) : p.Orderly m := by
  simp only [passes, Bool.and_eq_true, Bool.or_eq_true, Bool.not_eq_true', decide_eq_true_eq] at h
  obtain ⟨⟨hadds, hfits⟩, hsize⟩ := h
  have hstorable : Storable p.fabric.exportPersisted := ⟨hfits, hsize⟩
  refine ⟨?_, fun _ _ _ => hstorable, fun _ _ => hstorable⟩
  intro hadded
  rcases hadds with hkeeps | hempty
  · rw [hkeeps] at hadded
    cases hadded
  · exact not_holds_of_emptyHanded hempty

/-- A worker publishes its device and its pool, and then the device once more; this time
the thread stops before it writes. -/
def republishing : List Act :=
  let boot := str "w-1"
  Worker.connect 0 boot ++ .receive 0 (some (Worker.deviceFrame boot)) :: Worker.steps 0 5 ++
    .receive 0 (some (Worker.poolFrame boot)) :: Worker.steps 0 3 ++
    .receive 0 (some (Worker.deviceFrame boot)) :: Worker.steps 0 3

/-- The thread writes, and the pool is published again. -/
def confirming : List Act :=
  Worker.steps 0 2 ++ .receive 0 (some (Worker.poolFrame (str "w-1"))) :: Worker.steps 0 2

def republishedRun : Option (List (Move × Report) × Process) :=
  execAll (fun p m => if p.passes m then p.exec m else none) (boot (fun _ => 0) ⟨1⟩ none)
    (republishing.map .thread)

theorem republishedRun_isSome : republishedRun.isSome = true := by decide +kernel

def confirmedRun : Option (List (Move × Report) × Process) :=
  execAll (fun p m => if p.passes m && !p.adds m then p.exec m else none)
    (republishedRun.get republishedRun_isSome).2 (confirming.map .thread)

theorem confirmedRun_isSome : confirmedRun.isSome = true := by decide +kernel

theorem steady_of_passes (h : (p.passes m && !p.adds m) = true) : p.Steady m := by
  obtain ⟨hpasses, hkeeps⟩ := Bool.and_eq_true_iff.mp h
  exact ⟨orderly_of_passes hpasses, Bool.eq_false_of_not_eq_true' hkeeps⟩

theorem holds_of_phaseOf {c : ConnId}
    (h : ∃ phase ∈ p.phaseOf c, phase.pending = true ∧ phase.quiet = false) : p.Holds c := by
  obtain ⟨phase, hphase, hpending, hquiet⟩ := h
  cases phase with
  | writing payload => exact ⟨payload, hphase⟩
  | replying type resp => cases hpending
  | _ => cases hquiet

theorem acknowledged_structure_durable_confirmedRun :
    ∃ tr₁ tr₂ p₁ p q r, GuardedRun exec Orderly (boot (fun _ => 0) ⟨1⟩ none) tr₁ p₁ ∧
      GuardedRun exec Steady p₁ tr₂ p ∧ p.Confirms (.thread (.advance 0 fun _ => 0)) ∧
      p.exec (.thread (.advance 0 fun _ => 0)) = some (q, r) ∧ q.Durable (fun _ => 0) := by
  have hrun := GuardedRun.of_check (fun _ _ => orderly_of_passes)
    (Run.of_execAll (Option.some_get republishedRun_isSome).symm)
  have hrun' := GuardedRun.of_check (fun _ _ => steady_of_passes)
    (Run.of_execAll (Option.some_get confirmedRun_isSome).symm)
  have hphase : (confirmedRun.get confirmedRun_isSome).2.phaseOf 0 =
      some (.replying .publishPool (Coordinator.ackFrame .ok)) := by decide +kernel
  have hpasses : (confirmedRun.get confirmedRun_isSome).2.passes
      (.thread (.advance 0 fun _ => 0)) = true := by decide +kernel
  have hsome : ((confirmedRun.get confirmedRun_isSome).2.exec
      (.thread (.advance 0 fun _ => 0))).isSome = true := by decide +kernel
  have hconfirms : (confirmedRun.get confirmedRun_isSome).2.Confirms
      (.thread (.advance 0 fun _ => 0)) := ⟨0, .publishPool, rfl, hphase, .inl rfl⟩
  have hholds : (republishedRun.get republishedRun_isSome).2.Holds 0 :=
    holds_of_phaseOf (by decide +kernel)
  have hwritten : ¬(confirmedRun.get confirmedRun_isSome).2.Holds 0 := by
    rintro ⟨payload, hholds⟩
    cases hphase.symm.trans hholds
  obtain ⟨⟨q, r⟩, hstep⟩ := Option.isSome_iff_exists.mp hsome
  exact ⟨_, _, _, _, q, r, hrun, hrun', hconfirms, hstep,
    acknowledged_structure_durable _ _ _ hrun hrun' (orderly_of_passes hpasses) hstep
      (.inl hconfirms) fun _ => .inr ⟨0, hholds, hwritten⟩⟩

/-- A worker has registered its device, and the thread stops before it writes. -/
def registeredRun : Option (List (Move × Report) × Process) :=
  execAll (fun p m => if p.passes m then p.exec m else none) (boot (fun _ => 0) ⟨1⟩ none)
    ((Worker.connect 0 (str "w-1") ++ .receive 0 (some (Worker.deviceFrame (str "w-1"))) ::
      Worker.steps 0 3).map .thread)

theorem registeredRun_isSome : registeredRun.isSome = true := by decide +kernel

def writtenRun : Option (List (Move × Report) × Process) :=
  execAll (fun p m => if p.passes m && !p.adds m then p.exec m else none)
    (registeredRun.get registeredRun_isSome).2 ((Worker.steps 0 2).map .thread)

theorem writtenRun_isSome : writtenRun.isSome = true := by decide +kernel

/-- The pool is published, and nothing is written meanwhile. -/
def publishedRun : Option (List (Move × Report) × Process) :=
  execAll (fun p m => if p.emptyHanded then p.exec m else none)
    (writtenRun.get writtenRun_isSome).2
    ((.receive 0 (some (Worker.poolFrame (str "w-1"))) :: Worker.steps 0 1).map .thread)

theorem publishedRun_isSome : publishedRun.isSome = true := by decide +kernel

theorem writtenRun_durable : (writtenRun.get writtenRun_isSome).2.Durable (fun _ => 0) := by
  have hkept := (kept_boot (fun _ => 0) ⟨1⟩ none).1.run
    (GuardedRun.of_check (fun _ _ => orderly_of_passes)
      (Run.of_execAll (Option.some_get registeredRun_isSome).symm))
  have hrun := GuardedRun.of_check (fun _ _ => steady_of_passes)
    (Run.of_execAll (Option.some_get writtenRun_isSome).symm)
  have hholds : (registeredRun.get registeredRun_isSome).2.Holds 0 :=
    holds_of_phaseOf (by decide +kernel)
  have hphase : (writtenRun.get writtenRun_isSome).2.phaseOf 0 = some .receiving := by
    decide +kernel
  refine (hkept.run_durable_or_holds hrun hholds).resolve_right ?_
  rintro ⟨payload, hwriting⟩
  cases hphase.symm.trans hwriting

/-- A thread that holds nothing writes nothing. -/
theorem saved_of_emptyHanded {tr : List (Move × Report)}
    (hrun : GuardedRun exec (fun p _ => p.emptyHanded = true) p tr q) :
    q.coordinator.saved = p.coordinator.saved := by
  refine hrun.keeps (I := fun t => t.coordinator.saved = p.coordinator.saved) ?_ rfl
  intro t m r t' hempty hsaved hstep
  obtain ⟨hthreads, hmain⟩ := not_holds_of_emptyHanded hempty
  rcases saved_of_exec hstep with hsame | ⟨payload, -, hwriting | ⟨c, hphase⟩⟩
  · exact hsame.trans hsaved
  · exact absurd hwriting (hmain payload)
  · exact absurd ⟨payload, hphase⟩ (hthreads c)

/-- A pool is acknowledged and is not in the file. -/
theorem acknowledged_pool_is_not_durable :
    ∃ tr p q, Run exec (boot (fun _ => 0) ⟨1⟩ none) tr p ∧
      p.Confirms (.thread (.advance 0 fun _ => 0)) ∧
      p.exec (.thread (.advance 0 fun _ => 0)) = some (q, .sent (Coordinator.ackFrame .ok)) ∧
      ¬q.Durable (fun _ => 0) := by
  have hregistered : GuardedRun exec Orderly _ _ _ := GuardedRun.of_check
    (fun _ _ => orderly_of_passes) (Run.of_execAll (Option.some_get registeredRun_isSome).symm)
  have hwritten : GuardedRun exec Steady _ _ _ := GuardedRun.of_check
    (fun _ _ => steady_of_passes) (Run.of_execAll (Option.some_get writtenRun_isSome).symm)
  have hpublished : GuardedRun exec (fun p _ => p.emptyHanded = true) _ _ _ :=
    GuardedRun.of_check (fun _ _ h => h) (Run.of_execAll (Option.some_get publishedRun_isSome).symm)
  have hphase : (publishedRun.get publishedRun_isSome).2.phaseOf 0 =
      some (.replying .publishPool (Coordinator.ackFrame .ok)) := by decide +kernel
  have hconfirms : (publishedRun.get publishedRun_isSome).2.Confirms
      (.thread (.advance 0 fun _ => 0)) := ⟨0, .publishPool, rfl, hphase, .inl rfl⟩
  have hbefore : (writtenRun.get writtenRun_isSome).2.fabric.exportPersisted.pools[
      (⟨str "p-1"⟩ : PoolId)]? = none := by decide +kernel
  have hstep : ∃ e ∈ (publishedRun.get publishedRun_isSome).2.exec
      (.thread (.advance 0 fun _ => 0)), e.2 = .sent (Coordinator.ackFrame .ok) ∧
        e.1.fabric.exportPersisted.pools[(⟨str "p-1"⟩ : PoolId)]? ≠ none := by decide +kernel
  obtain ⟨⟨q, r⟩, hstep, hsent, hafter⟩ := hstep
  cases hsent
  have hsaved := (hconfirms.step hstep).2.trans (saved_of_emptyHanded hpublished)
  refine ⟨_, _, q, hregistered.run.append (hwritten.run.append hpublished.run), hconfirms, hstep,
    ?_⟩
  rintro ⟨payload, hpayload, st, hread, hsame⟩
  obtain ⟨payload', hpayload', st', hread', hsame'⟩ := writtenRun_durable
  cases (hsaved.symm.trans hpayload).symm.trans hpayload'
  cases hread.symm.trans hread'
  have hpool := (hsame'.pool ⟨str "p-1"⟩).symm.trans (hsame.pool ⟨str "p-1"⟩)
  rw [hbefore] at hpool
  exact hafter (Option.map_eq_none_iff.mp hpool.symm)

end Process

end CxlFabric
