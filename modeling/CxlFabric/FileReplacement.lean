import CxlFabric.LabelledRuns
import CxlFabric.MapSums

/-! # Replacing a file by way of a temporary one

A writer opens the temporary name, which empties the file under it or makes a new one,
writes its bytes in pieces at its own offset, and in the end gives the file the name to be
replaced. A file stays with its writers when its name goes. At a crash all writers are
gone and the files are as they are. -/
namespace CxlFabric

open Std

abbrev FileId := ℕ

abbrev WriterId := ℕ

/-- A writer of the bytes, of which it has handed the first ones to the system. -/
structure FileWriter (β : Type) where
  file : FileId
  bytes : List β
  written : ℕ := 0
  flushed : Bool := false

structure Volume (β : Type) where
  files : ExtTreeMap FileId (List β) := ∅
  /-- The name to be replaced, and the temporary one. -/
  path : Option FileId := none
  temp : Option FileId := none
  fresh : FileId := 0
  writers : ExtTreeMap WriterId (FileWriter β) := ∅

inductive FileAct (β : Type)
  | create (w : WriterId) (bytes : List β)
  | write (w : WriterId) (n : ℕ)
  | flush (w : WriterId) (good : Bool)
  | rename (w : WriterId) (good : Bool)
  | crash

inductive FileReport (β : Type)
  | silent
  /-- The bytes have been given the name. -/
  | replaced (bytes : List β)
  | failed

/-- The contents after some bytes are written at an offset. A gap is filled up. -/
def overwrite {β : Type} (filler : β) (contents : List β) (offset : ℕ) (bytes : List β) : List β :=
  (contents ++ List.replicate (offset - contents.length) filler).take offset ++ bytes ++
    contents.drop (offset + bytes.length)

namespace Volume
variable {β : Type} (filler : β) (v : Volume β)

/-- What is read under the name. -/
def contents : Option (List β) := v.path.bind fun i => v.files[i]?

/-- The next piece of the bytes of a writer. -/
def piece (x : FileWriter β) (n : ℕ) : List β := (x.bytes.drop x.written).take n

def exec : FileAct β → Option (Volume β × FileReport β)
  | .create w bytes => match v.writers[w]? with
    | some _ => none
    | none =>
      let i := v.temp.getD v.fresh
      some ({ v with
        files := v.files.insert i []
        temp := some i
        fresh := if v.temp.isNone then v.fresh + 1 else v.fresh
        writers := v.writers.insert w { file := i, bytes } }, .silent)
  | .write w n => match v.writers[w]? with
    | none => none
    | some x =>
      let p := piece x n
      let old := (v.files[x.file]?).getD []
      some ({ v with
        files := v.files.insert x.file (overwrite filler old x.written p)
        writers := v.writers.insert w { x with written := x.written + p.length } }, .silent)
  | .flush w good => match v.writers[w]? with
    | none => none
    | some x =>
      if good then
        if x.written = x.bytes.length then
          some ({ v with writers := v.writers.insert w { x with flushed := true } }, .silent)
        else none
      else some ({ v with writers := v.writers.erase w }, .failed)
  | .rename w good => match v.writers[w]? with
    | none => none
    | some x =>
      if !x.flushed then none
      else match v.temp with
        -- Without the name the call throws, as it does for other reasons; the process ends.
        | none => some ({ v with writers := ∅ }, .failed)
        | some i =>
          if good then some ({ v with path := some i, temp := none, writers := v.writers.erase w },
            .replaced x.bytes)
          else some ({ v with writers := ∅ }, .failed)
  | .crash => some ({ v with writers := ∅ }, .silent)

/-- A writer comes in when there is no other one. -/
def Alone : FileAct β → Prop
  | .create _ _ => v.writers.isEmpty = true
  | _ => True

instance : DecidablePred v.Alone
  | .create _ _ => inferInstanceAs (Decidable (v.writers.isEmpty = true))
  | .write _ _ | .flush _ _ | .rename _ _ | .crash => inferInstanceAs (Decidable True)

end Volume

def FileReport.after {β : Type} (old : Option (List β)) : FileReport β → Option (List β)
  | .replaced bytes => some bytes
  | _ => old

/-- The bytes that were given the name last. -/
def lastReplaced {β : Type} (old : Option (List β)) (tr : List (FileAct β × FileReport β)) :
    Option (List β) := tr.foldl (fun o e => e.2.after o) old

theorem lastReplaced_cons {β : Type} (old : Option (List β)) (e : FileAct β × FileReport β)
    (tr : List (FileAct β × FileReport β)) :
    lastReplaced old (e :: tr) = lastReplaced (e.2.after old) tr := rfl

/-- The name has what was there before, or the last bytes that it was given on the way. -/
theorem lastReplaced_cases {β : Type} (old : Option (List β))
    (tr : List (FileAct β × FileReport β)) :
    ((∀ e ∈ tr, ∀ bytes, e.2 ≠ .replaced bytes) ∧ lastReplaced old tr = old) ∨
      ∃ e ∈ tr, ∃ bytes, e.2 = .replaced bytes ∧ lastReplaced old tr = some bytes := by
  induction tr generalizing old with
  | nil => exact .inl ⟨by simp, rfl⟩
  | cons e tr ih =>
    rw [lastReplaced_cons]
    rcases ih (e.2.after old) with ⟨hnone, hsame⟩ | ⟨e', he', bytes, hreport, hlast⟩
    · rw [hsame]
      cases hreport : e.2 with
      | replaced bytes => exact .inr ⟨e, List.mem_cons_self, bytes, hreport, rfl⟩
      | silent | failed =>
        refine .inl ⟨?_, rfl⟩
        intro e' he' bytes hbytes
        rcases List.mem_cons.mp he' with rfl | he'
        · cases hreport.symm.trans hbytes
        · exact hnone e' he' bytes hbytes
    · exact .inr ⟨e', List.mem_cons_of_mem e he', bytes, hreport, hlast⟩

namespace Volume
variable {β : Type} {filler : β} {v v' : Volume β} {old : Option (List β)}

/-- The file under the name is untouched by the writer at work, which has all it has written
under the temporary one. -/
structure Sound (v : Volume β) (old : Option (List β)) : Prop where
  contents : v.contents = old
  writer : ∀ (w : WriterId) (x : FileWriter β), v.writers[w]? = some x →
    v.temp = some x.file ∧ v.files[x.file]? = some (x.bytes.take x.written) ∧
    x.written ≤ x.bytes.length ∧ (x.flushed = true → x.written = x.bytes.length)
  single : ∀ (w w' : WriterId) (x x' : FileWriter β), v.writers[w]? = some x →
    v.writers[w']? = some x' → w = w'
  apart : ∀ i, v.path = some i → v.temp ≠ some i
  below : ∀ i, v.path = some i ∨ v.temp = some i → i < v.fresh

theorem overwrite_end (filler : β) (contents bytes : List β) :
    overwrite filler contents contents.length bytes = contents ++ bytes := by
  simp [overwrite]

theorem contents_insert {i : FileId} (hpath : v.path ≠ some i) (bytes : List β)
    (hv' : v'.files = v.files.insert i bytes) (hsame : v'.path = v.path) :
    v'.contents = v.contents := by
  unfold contents
  rw [hsame, hv']
  cases hp : v.path with
  | none => rfl
  | some j =>
    have hj : i ≠ j := by
      rintro rfl
      exact hpath hp
    rw [Option.bind_some, Option.bind_some, getElem?_insert_eq, if_neg hj]

theorem take_append_piece (x : FileWriter β) (n : ℕ) :
    x.bytes.take x.written ++ piece x n = x.bytes.take (x.written + (piece x n).length) := by
  rw [List.take_add]
  congr 1
  unfold piece
  rw [List.take_eq_take_iff, List.length_take]
  omega

theorem Sound.create {w : WriterId} {bytes : List β} {r : FileReport β} (h : v.Sound old)
    (halone : v.writers.isEmpty = true)
    (hexec : v.exec filler (.create w bytes) = some (v', r)) : v'.Sound (r.after old) := by
  rw [ExtTreeMap.isEmpty_iff] at halone
  simp only [exec, halone] at hexec
  cases hexec
  have hpath : v.path ≠ some (v.temp.getD v.fresh) := by
    intro hp
    cases htemp : v.temp with
    | none =>
      rw [htemp] at hp
      exact lt_irrefl _ (h.below _ (.inl hp))
    | some i =>
      rw [htemp] at hp
      exact h.apart i hp htemp
  refine ⟨(contents_insert hpath [] (by rfl) (by rfl)).trans h.contents, ?_, ?_, ?_, ?_⟩
  · intro k x hx
    obtain ⟨-, rfl⟩ | ⟨-, hx⟩ := of_getElem?_insert hx
    · exact ⟨rfl, by simp, Nat.zero_le _, by simp⟩
    · simp at hx
  · intro k k' x x' hx hx'
    obtain ⟨rfl, -⟩ | ⟨-, hx⟩ := of_getElem?_insert hx
    · obtain ⟨rfl, -⟩ | ⟨-, hx'⟩ := of_getElem?_insert hx'
      · rfl
      · simp at hx'
    · simp at hx
  · intro i hi heq
    exact hpath (hi.trans heq.symm)
  · intro i hi
    dsimp only at hi ⊢
    cases htemp : v.temp with
    | none =>
      rw [htemp] at hi
      simp only [Option.getD_none, Option.some.injEq] at hi
      simp only [Option.isNone_none, if_true]
      rcases hi with hi | rfl
      · exact (h.below i (.inl hi)).trans (Nat.lt_succ_self _)
      · exact Nat.lt_succ_self _
    | some j =>
      rw [htemp] at hi
      simp only [Option.getD_some, Option.some.injEq] at hi
      simp only [Option.isNone_some, Bool.false_eq_true, if_false]
      refine h.below i (hi.imp_right ?_)
      rintro rfl
      exact htemp

/-- A writer that goes on is still the only one. -/
theorem Sound.only {w k : WriterId} {x y z : FileWriter β} (h : v.Sound old)
    (hx : v.writers[w]? = some x) (hz : (v.writers.insert w y)[k]? = some z) : w = k ∧ y = z := by
  obtain hnew | ⟨hne, hz⟩ := of_getElem?_insert hz
  · exact hnew
  · exact absurd (h.single w k x z hx hz) hne

theorem Sound.none_left {w k : WriterId} {x z : FileWriter β} (h : v.Sound old)
    (hx : v.writers[w]? = some x) : (v.writers.erase w)[k]? ≠ some z := by
  rw [ExtTreeMap.getElem?_erase]
  split
  · simp
  · next hne =>
    intro hz
    exact hne (LawfulEqCmp.compare_eq_iff_eq.mpr (h.single w k x z hx hz))

theorem Sound.write {w : WriterId} {n : ℕ} {r : FileReport β} (h : v.Sound old)
    (hexec : v.exec filler (.write w n) = some (v', r)) : v'.Sound (r.after old) := by
  simp only [exec] at hexec
  split at hexec
  · cases hexec
  next x hx =>
  obtain ⟨htemp, hfile, hle, hflushed⟩ := h.writer w x hx
  cases hexec
  have hpath : v.path ≠ some x.file := fun hp => h.apart _ hp htemp
  have hpiece : (piece x n).length ≤ x.bytes.length - x.written := by
    unfold piece
    rw [List.length_take, List.length_drop]
    exact Nat.min_le_right _ _
  have hlen : (x.bytes.take x.written).length = x.written := by
    rw [List.length_take]
    omega
  have hbytes : overwrite filler ((v.files[x.file]?).getD []) x.written (piece x n) =
      x.bytes.take (x.written + (piece x n).length) := by
    rw [hfile, Option.getD_some, ← take_append_piece]
    have hend := overwrite_end filler (x.bytes.take x.written) (piece x n)
    rwa [hlen] at hend
  refine ⟨(contents_insert hpath _ (by rfl) (by rfl)).trans h.contents, ?_, ?_, h.apart, h.below⟩
  · intro k y hy
    obtain ⟨rfl, rfl⟩ := h.only hx hy
    refine ⟨htemp, ?_, ?_, ?_⟩
    · rw [getElem?_insert_eq, if_pos rfl, hbytes]
    · dsimp only
      omega
    · intro hf
      have := hflushed hf
      dsimp only
      omega
  · intro k k' y y' hy hy'
    exact (h.only hx hy).1.symm.trans (h.only hx hy').1

theorem Sound.flush {w : WriterId} {good : Bool} {r : FileReport β} (h : v.Sound old)
    (hexec : v.exec filler (.flush w good) = some (v', r)) : v'.Sound (r.after old) := by
  simp only [exec] at hexec
  split at hexec
  · cases hexec
  next x hx =>
  obtain ⟨htemp, hfile, hle, -⟩ := h.writer w x hx
  split at hexec
  · split at hexec
    · next hall =>
      cases hexec
      refine ⟨h.contents, ?_, ?_, h.apart, h.below⟩
      · intro k y hy
        obtain ⟨rfl, rfl⟩ := h.only hx hy
        exact ⟨htemp, hfile, hle, fun _ => hall⟩
      · intro k k' y y' hy hy'
        exact (h.only hx hy).1.symm.trans (h.only hx hy').1
    · cases hexec
  · cases hexec
    exact ⟨h.contents, fun _ _ hy => absurd hy (h.none_left hx),
      fun _ _ _ _ hy => absurd hy (h.none_left hx), h.apart, h.below⟩

theorem Sound.crash (h : v.Sound old) : Sound { v with writers := ∅ } old :=
  ⟨h.contents, by simp, by simp, h.apart, h.below⟩

theorem Sound.rename {w : WriterId} {good : Bool} {r : FileReport β} (h : v.Sound old)
    (hexec : v.exec filler (.rename w good) = some (v', r)) : v'.Sound (r.after old) := by
  simp only [exec] at hexec
  split at hexec
  · cases hexec
  next x hx =>
  obtain ⟨htemp, hfile, -, hflushed⟩ := h.writer w x hx
  split at hexec
  · cases hexec
  next hf =>
  rw [htemp] at hexec
  dsimp only at hexec
  split at hexec
  · cases hexec
    refine ⟨?_, fun _ _ hy => absurd hy (h.none_left hx),
      fun _ _ _ _ hy => absurd hy (h.none_left hx), by simp, ?_⟩
    · have hall := hflushed (by simpa using hf)
      rw [hall, List.take_length] at hfile
      exact hfile
    · intro i hi
      rcases hi with hi | hi
      · exact h.below i (.inr (htemp.trans hi))
      · cases hi
  · cases hexec
    have hcrash := h.crash
    rwa [htemp] at hcrash

/-- What one step keeps. -/
theorem Sound.step {a : FileAct β} {r : FileReport β} (h : v.Sound old) (halone : v.Alone a)
    (hexec : v.exec filler a = some (v', r)) : v'.Sound (r.after old) := by
  cases a with
  | create w bytes => exact h.create halone hexec
  | write w n => exact h.write hexec
  | flush w good => exact h.flush hexec
  | rename w good => exact h.rename hexec
  | crash =>
    cases hexec
    exact h.crash

/-- A volume as it is found: one file under the name or none, and whatever an earlier
writer has left. -/
def Found (v : Volume β) : Prop :=
  v.writers = ∅ ∧ (∀ i, v.path = some i → v.temp ≠ some i) ∧
    ∀ i, v.path = some i ∨ v.temp = some i → i < v.fresh

theorem Found.sound (h : v.Found) : v.Sound v.contents :=
  ⟨rfl, by simp [h.1], by simp [h.1], h.2.1, h.2.2⟩

theorem Sound.run {tr : List (FileAct β × FileReport β)} (h : v.Sound old)
    (hrun : GuardedRun (exec filler) Alone v tr v') : v'.Sound (lastReplaced old tr) := by
  induction hrun generalizing old with
  | nil v => exact h
  | cons guard head tail ih => exact ih (h.step guard head)

/-- The writers of a step and what it gives the name, by the writers before it. -/
theorem exec_bytes {Q : List β → Prop} {a : FileAct β} {r : FileReport β}
    (hexec : v.exec filler a = some (v', r))
    (hwriters : ∀ (w : WriterId) (x : FileWriter β), v.writers[w]? = some x → Q x.bytes)
    (hcreate : ∀ w bytes, a = .create w bytes → Q bytes) :
    (∀ (w : WriterId) (x : FileWriter β), v'.writers[w]? = some x → Q x.bytes) ∧
      ∀ bytes, r = .replaced bytes → Q bytes := by
  have hinsert {w : WriterId} {y : FileWriter β} (hy : Q y.bytes) (k : WriterId)
      (x : FileWriter β) (hx : (v.writers.insert w y)[k]? = some x) : Q x.bytes := by
    obtain ⟨-, rfl⟩ | ⟨-, hx⟩ := of_getElem?_insert hx
    · exact hy
    · exact hwriters k x hx
  have herase {w : WriterId} (k : WriterId) (x : FileWriter β)
      (hx : (v.writers.erase w)[k]? = some x) : Q x.bytes := by
    rw [ExtTreeMap.getElem?_erase] at hx
    split at hx
    · cases hx
    · exact hwriters k x hx
  cases a with
  | create w bytes =>
    simp only [exec] at hexec
    split at hexec
    · cases hexec
    · cases hexec
      exact ⟨hinsert (hcreate w bytes rfl), by simp⟩
  | write w n =>
    simp only [exec] at hexec
    split at hexec
    · cases hexec
    · next x hx =>
      cases hexec
      exact ⟨hinsert (hwriters w x hx), by simp⟩
  | flush w good =>
    simp only [exec] at hexec
    split at hexec
    · cases hexec
    next x hx =>
    split at hexec
    · split at hexec
      · cases hexec
        exact ⟨hinsert (hwriters w x hx), by simp⟩
      · cases hexec
    · cases hexec
      exact ⟨herase, by simp⟩
  | rename w good =>
    simp only [exec] at hexec
    split at hexec
    · cases hexec
    next x hx =>
    split at hexec
    · cases hexec
    split at hexec
    · cases hexec
      exact ⟨by simp, by simp⟩
    · split at hexec
      · cases hexec
        refine ⟨herase, ?_⟩
        intro bytes hbytes
        cases hbytes
        exact hwriters w x hx
      · cases hexec
        exact ⟨by simp, by simp⟩
  | crash =>
    cases hexec
    exact ⟨by simp, by simp⟩

/-- Only what a writer came in with is given the name. -/
theorem replaced_of_created {Q : List β → Prop} {tr : List (FileAct β × FileReport β)}
    (hrun : Run (exec filler) v tr v')
    (hwriters : ∀ (w : WriterId) (x : FileWriter β), v.writers[w]? = some x → Q x.bytes)
    (hcreate : ∀ e ∈ tr, ∀ w bytes, e.1 = .create w bytes → Q bytes) :
    ∀ e ∈ tr, ∀ bytes, e.2 = .replaced bytes → Q bytes := by
  induction hrun with
  | nil v => simp
  | @cons v u v'' a r tr head tail ih =>
    have hstep := exec_bytes head hwriters fun w bytes ha =>
      hcreate _ List.mem_cons_self w bytes ha
    have hrest := ih hstep.1 fun e he => hcreate e (List.mem_cons_of_mem _ he)
    intro e he bytes hreport
    rcases List.mem_cons.mp he with rfl | he
    · exact hstep.2 bytes hreport
    · exact hrest e he bytes hreport

/-- With one writer at a time the name leads to what it was given last, at every moment and
so after every crash. -/
theorem Found.contents_eq {tr : List (FileAct β × FileReport β)} (h : v.Found)
    (hrun : GuardedRun (exec filler) Alone v tr v') :
    v'.contents = lastReplaced v.contents tr := (h.sound.run hrun).contents

end Volume

end CxlFabric
