import CxlFabric.FileReplacement
import CxlFabric.PersistEnvelope

/-! # Writing the state file

`write_persisted` checks the size, writes the envelope under a temporary name and renames
it. It can fail or the process can end at every point. What is found under the name stays
whole as long as the threads of a coordinator do not save at the same time, which nothing in
the source sees to: all of them write under the one temporary name. -/
namespace CxlFabric

namespace Persistence

/-- The file that a save creates is the envelope of its payload. -/
def Saves : FileAct UInt8 → Prop
  | .create _ file => ∃ payload, writePersisted payload = .ok file
  | _ => True

variable {v v' : Volume UInt8} {tr : List (FileAct UInt8 × FileReport UInt8)}

theorem readPersisted_writePersisted {payload file : List UInt8}
    (h : writePersisted payload = .ok file) : readPersisted file = .ok payload := by
  obtain ⟨hlen, rfl⟩ := writePersisted_eq_ok_iff.mp h
  exact readPersisted_eq_ok_iff.mpr ⟨hlen, 0, rfl⟩

/-- Whatever fails and wherever the process ends, under the name is what was there before the
first completed save, and from then on what the last completed one has written, whole. -/
theorem whole_of_alone (hv : v.Found) (hrun : GuardedRun (Volume.exec 0) Volume.Alone v tr v')
    (hsaves : ∀ e ∈ tr, Saves e.1) :
    (∀ e ∈ tr, ∀ file, e.2 ≠ .replaced file) ∧ v'.contents = v.contents ∨
      ∃ e ∈ tr, ∃ file payload, e.2 = .replaced file ∧ v'.contents = some file ∧
        lastReplaced v.contents tr = some file ∧ readPersisted file = .ok payload := by
  have hcontents := hv.contents_eq hrun
  have hwhole := Volume.replaced_of_created
    (Q := fun file => ∃ payload, writePersisted payload = .ok file) hrun.run (by simp [hv.1])
    (by
      intro e he w file hcreate
      have hsave := hsaves e he
      rwa [hcreate] at hsave)
  rcases lastReplaced_cases v.contents tr with ⟨hnone, hsame⟩ | ⟨e, he, file, hreport, hlast⟩
  · exact .inl ⟨hnone, hcontents.trans hsame⟩
  · obtain ⟨payload, hwrite⟩ := hwhole e he file hreport
    exact .inr ⟨e, he, file, payload, hreport, hcontents.trans hlast, hlast,
      readPersisted_writePersisted hwrite⟩

theorem saves_envelope (w : WriterId) {payload : List UInt8}
    (h : payload.length ≤ maxPersistPayload) : Saves (.create w (envelope 0 payload)) :=
  ⟨payload, writePersisted_eq_ok_iff.mpr ⟨h, rfl⟩⟩

theorem saves_of_execAll {exec : Volume UInt8 → FileAct UInt8 →
      Option (Volume UInt8 × FileReport UInt8)} {acts : List (FileAct UInt8)}
    {q : List (FileAct UInt8 × FileReport UInt8) × Volume UInt8}
    (h : execAll exec v acts = some q) (hacts : ∀ a ∈ acts, Saves a) : ∀ e ∈ q.1, Saves e.1 := by
  intro e he
  have hact := List.mem_map_of_mem (f := fun e : FileAct UInt8 × FileReport UInt8 => e.1) he
  rw [Run.actions_of_execAll h] at hact
  exact hacts e.1 hact

/-- Two threads save at once: the second one empties the file of the first one, which goes on
at its own offset and renames what has come of it. -/
def overlappingActs : List (FileAct UInt8) :=
  [.create 0 (envelope 0 [1, 2, 3]), .write 0 12, .create 1 (envelope 0 [9]), .write 1 21,
    .write 0 11, .flush 0 true, .rename 0 true]

/-- Nobody can read the file that two overlapping saves leave. -/
theorem overlapping_saves_tear :
    ∃ tr v' file, Run (Volume.exec 0) ({} : Volume UInt8) tr v' ∧ (∀ e ∈ tr, Saves e.1) ∧
      v'.contents = some file ∧ ∀ payload, readPersisted file ≠ .ok payload := by
  have h : (execAll (Volume.exec 0) {} overlappingActs).any (fun q => q.2.contents.any fun file =>
      (readPersisted file).toOption.isNone) = true := by decide +kernel
  obtain ⟨⟨tr, v'⟩, hsteps, hchecks⟩ := (Option.any_eq_true _ _).mp h
  obtain ⟨file, hcontents, hread⟩ := (Option.any_eq_true _ _).mp hchecks
  refine ⟨tr, v', file, Run.of_execAll hsteps, saves_of_execAll hsteps ?_, hcontents, ?_⟩
  · intro a ha
    simp only [overlappingActs, List.mem_cons, List.not_mem_nil, or_false] at ha
    rcases ha with rfl | rfl | rfl | rfl | rfl | rfl | rfl <;>
      first | exact saves_envelope _ (by simp [maxPersistPayload]) | trivial
  · intro payload hok
    rw [hok] at hread
    cases hread

/-- As long as no save begins during another one, under the name is what was there before the
first completed save, and from then on what the last completed one has written, whole,
whatever fails and wherever the process ends. Saves that overlap, which nothing keeps the
threads from, can leave a file that nobody can read. -/
theorem saved_file_whole :
    (∀ {v v' : Volume UInt8} {tr : List (FileAct UInt8 × FileReport UInt8)}, v.Found →
      GuardedRun (Volume.exec 0) Volume.Alone v tr v' → (∀ e ∈ tr, Saves e.1) →
      (∀ e ∈ tr, ∀ file, e.2 ≠ .replaced file) ∧ v'.contents = v.contents ∨
        ∃ e ∈ tr, ∃ file payload, e.2 = .replaced file ∧ v'.contents = some file ∧
          lastReplaced v.contents tr = some file ∧ readPersisted file = .ok payload) ∧
    ∃ tr v' file, Run (Volume.exec 0) ({} : Volume UInt8) tr v' ∧ (∀ e ∈ tr, Saves e.1) ∧
      v'.contents = some file ∧ ∀ payload, readPersisted file ≠ .ok payload :=
  ⟨fun hv hrun hsaves => whole_of_alone hv hrun hsaves, overlapping_saves_tear⟩

/-- A save, the beginning of a second one, and the end of the process. -/
def interruptedActs : List (FileAct UInt8) :=
  [.create 0 (envelope 0 [1]), .write 0 20, .write 0 1, .flush 0 true, .rename 0 true,
    .create 1 (envelope 0 [2]), .write 1 7, .crash]

/-- After the process has ended in a second save, the file of the first one is there. -/
theorem saved_file_whole_interruptedActs :
    ∃ tr v' file payload, GuardedRun (Volume.exec 0) Volume.Alone {} tr v' ∧
      v'.temp.isSome = true ∧ v'.contents = some file ∧ readPersisted file = .ok payload := by
  have h : (execAll (fun (v : Volume UInt8) a => if decide (v.Alone a) then v.exec 0 a else none) {}
      interruptedActs).any (fun q => q.2.temp.isSome && q.2.contents.isSome) = true := by
    decide +kernel
  obtain ⟨⟨tr, v'⟩, hsteps, hchecks⟩ := (Option.any_eq_true _ _).mp h
  have hrun : GuardedRun (Volume.exec 0) Volume.Alone {} tr v' :=
    .of_check (fun _ _ hcheck => of_decide_eq_true hcheck) (Run.of_execAll hsteps)
  have hfound : Volume.Found ({} : Volume UInt8) := ⟨rfl, by simp, by simp⟩
  have hsaves : ∀ e ∈ tr, Saves e.1 := by
    refine saves_of_execAll hsteps ?_
    intro a ha
    simp only [interruptedActs, List.mem_cons, List.not_mem_nil, or_false] at ha
    rcases ha with rfl | rfl | rfl | rfl | rfl | rfl | rfl | rfl <;>
      first | exact saves_envelope _ (by simp [maxPersistPayload]) | trivial
  simp only [Bool.and_eq_true] at hchecks
  obtain ⟨htemp, hsome⟩ := hchecks
  rcases saved_file_whole.1 hfound hrun hsaves with
    ⟨-, hnone⟩ | ⟨-, -, file, payload, -, hcontents, -, hread⟩
  · rw [hnone] at hsome
    cases hsome
  · exact ⟨tr, v', file, payload, hrun, htemp, hcontents, hread⟩

end Persistence

end CxlFabric
