import Mathlib

/-! # Decoders over a region of memory

A decoder reads a buffer from a position and returns a value and the next position, or an
error, together with the fields it asked for on the way. A buffer is a start in memory and
a length: nothing but the check before each field keeps a decoder inside.
`Decodes P d w v` says that over the bytes `w` the decoder `d` yields `v` and stops at
their end where the bound `P` holds, and reports an error where it does not. -/
namespace CxlFabric

/-- A length of the buffer, and the memory from its first byte on. -/
structure Buffer where
  mem : ℕ → UInt8
  len : ℕ

/-- Subtraction of `std::size_t`. -/
def sizeSub (a b : ℕ) : ℕ := if b ≤ a then a - b else a + 2 ^ 64 - b

/-- The check before `n` bytes are read. The subtraction does not look for an underflow, as
the source does not: a buffer shorter than the field passes, and the reader goes on past
the end. -/
def Buffer.fits (b : Buffer) (pos n : ℕ) : Bool := !(b.len < pos || pos > sizeSub b.len n)

/-- A field that is asked for; its width is a `std::size_t`. -/
structure Field where
  pos : ℕ
  width : ℕ
  size : width < 2 ^ 64
  deriving DecidableEq

/-- Fields that are asked for one behind the other. All but the last one pass the check; a
trail that ends at a position has passed them all. -/
inductive Trail (b : Buffer) : ℕ → List Field → Option ℕ → Prop
  | done (pos : ℕ) : Trail b pos [] (some pos)
  | stopped (pos : ℕ) : Trail b pos [] none
  | refused {f : Field} (check : b.fits f.pos f.width = false) : Trail b f.pos [f] none
  | passed {f : Field} {asked : List Field} {last : Option ℕ}
      (check : b.fits f.pos f.width = true) (rest : Trail b (f.pos + f.width) asked last) :
      Trail b f.pos (f :: asked) last

theorem Trail.append {b : Buffer} {pos pos' : ℕ} {asked asked' : List Field} {last : Option ℕ}
    (h : Trail b pos asked (some pos')) (h' : Trail b pos' asked' last) :
    Trail b pos (asked ++ asked') last := by
  generalize hend : some pos' = e at h
  induction h with
  | done pos =>
    cases hend
    exact h'
  | stopped pos => cases hend
  | refused check => cases hend
  | passed check rest ih => exact .passed check (ih hend)

/-- The position a result leaves. -/
def position {ε α : Type} : Except ε (α × ℕ) → Option ℕ
  | .ok r => some r.2
  | .error _ => none

/-- The value or the error, and the fields that were asked for. -/
structure ByteDecoder (ε α : Type) where
  run : Buffer → ℕ → Except ε (α × ℕ) × List Field
  trail : ∀ b pos, Trail b pos (run b pos).2 (position (run b pos).1)

/-- A reader tells only whether it failed. -/
abbrev Reader := ByteDecoder Unit

abbrev Decoder := ByteDecoder String

namespace ByteDecoder
variable {ε α β : Type}

/-- Run a second decoder from where the first one stopped. -/
def andThen (d : ByteDecoder ε α) (k : α → ByteDecoder ε β) (b : Buffer) (pos : ℕ) :
    Except ε (β × ℕ) × List Field :=
  match d.run b pos with
  | (.error e, asked) => (.error e, asked)
  | (.ok r, asked) => (((k r.1).run b r.2).1, asked ++ ((k r.1).run b r.2).2)

theorem trail_andThen (d : ByteDecoder ε α) (k : α → ByteDecoder ε β) (b : Buffer) (pos : ℕ) :
    Trail b pos (d.andThen k b pos).2 (position (d.andThen k b pos).1) := by
  have hd := d.trail b pos
  unfold andThen
  generalize d.run b pos = out at hd
  rcases out with ⟨res, asked⟩
  cases res with
  | error e => exact hd
  | ok r => exact hd.append ((k r.1).trail b r.2)

instance : Monad (ByteDecoder ε) where
  pure a := { run := fun _ pos => (.ok (a, pos), []), trail := fun _ pos => .done pos }
  bind d k := { run := d.andThen k, trail := d.trail_andThen k }

theorem run_bind (d : ByteDecoder ε α) (k : α → ByteDecoder ε β) (b : Buffer) (pos : ℕ) :
    (d >>= k).run b pos = d.andThen k b pos := rfl

def fail (e : ε) : ByteDecoder ε α where
  run _ _ := (.error e, [])
  trail _ pos := .stopped pos

/-- Ask for `n` bytes at the position: the check, and then the memory behind it. -/
def take (n : ℕ) (size : n < 2 ^ 64) : Reader (ℕ → UInt8) where
  run b pos :=
    (if b.fits pos n then .ok (fun i => b.mem (pos + i), pos + n) else .error (), [⟨pos, n, size⟩])
  trail b pos := by
    split
    · next check => exact .passed (f := ⟨pos, n, size⟩) check (.done _)
    · next check => exact .refused (f := ⟨pos, n, size⟩) (by simpa using check)

end ByteDecoder

/-- A reader whose failure is reported as `err`. -/
def read {α : Type} (get : Reader α) (err : String) : Decoder α where
  run b pos := match get.run b pos with
    | (.error _, asked) => (.error err, asked)
    | (.ok r, asked) => (.ok r, asked)
  trail b pos := by
    have htrail := get.trail b pos
    generalize get.run b pos = out at htrail
    rcases out with ⟨res, asked⟩
    cases res with
    | error e => exact htrail
    | ok r => exact htrail

namespace Buffer

/-- The bytes lie inside the buffer at the position. -/
structure Holds (b : Buffer) (pos : ℕ) (bytes : List UInt8) : Prop where
  inside : pos + bytes.length ≤ b.len
  bytes_eq : ∀ i x, bytes[i]? = some x → b.mem (pos + i) = x

theorem Holds.left {b : Buffer} {pos : ℕ} {w w' : List UInt8} (h : b.Holds pos (w ++ w')) :
    b.Holds pos w := by
  have hinside := h.inside
  rw [List.length_append] at hinside
  refine ⟨by omega, ?_⟩
  intro i x hx
  have hi : i < w.length := (List.getElem?_eq_some_iff.mp hx).1
  exact h.bytes_eq i x (by rw [List.getElem?_append_left hi, hx])

theorem Holds.right {b : Buffer} {pos : ℕ} {w w' : List UInt8} (h : b.Holds pos (w ++ w')) :
    b.Holds (pos + w.length) w' := by
  have hinside := h.inside
  rw [List.length_append] at hinside
  refine ⟨by omega, ?_⟩
  intro i x hx
  rw [Nat.add_assoc]
  apply h.bytes_eq
  rw [List.getElem?_append_right (Nat.le_add_right _ _), Nat.add_sub_cancel_left, hx]

/-- Nothing behind the bytes is needed. -/
theorem Holds.cut {b : Buffer} {pos : ℕ} {w : List UInt8} (h : b.Holds pos w) :
    Holds { b with len := pos + w.length } pos w := ⟨Nat.le_refl _, h.bytes_eq⟩

end Buffer

/-- `d` reads `v` off the bytes `w` if `P` holds, and reports an error if it does not. -/
def Decodes {ε α : Type} (P : Prop) (d : ByteDecoder ε α) (w : List UInt8) (v : α) : Prop :=
  ∀ (b : Buffer) (pos : ℕ), b.Holds pos w →
    (P ∧ (d.run b pos).1 = .ok (v, pos + w.length)) ∨ (¬P ∧ ∃ e, (d.run b pos).1 = .error e)

namespace Decodes
variable {ε α β : Type} {P Q : Prop} {w w' : List UInt8}

theorem pure (v : α) : Decodes True (Pure.pure v : ByteDecoder ε α) [] v :=
  fun _ _ _ => .inl ⟨trivial, rfl⟩

theorem fail (v : α) (e : ε) : Decodes False (ByteDecoder.fail e : ByteDecoder ε α) w v :=
  fun _ _ _ => .inr ⟨not_false, e, rfl⟩

theorem congr {d : ByteDecoder ε α} {v : α} (h : Decodes P d w v) (hPQ : P ↔ Q) :
    Decodes Q d w v := propext hPQ ▸ h

theorem of_eq {d : ByteDecoder ε α} {v v' : α} (h : Decodes P d w v) (heq : v = v') :
    Decodes P d w v' := heq ▸ h

/-- Sequencing reads the concatenation. -/
theorem bind {d : ByteDecoder ε α} {k : α → ByteDecoder ε β} {v : α} {v' : β}
    (h : Decodes P d w v) (h' : Decodes Q (k v) w' v') :
    Decodes (P ∧ Q) (d >>= k) (w ++ w') v' := by
  intro b pos hb
  have hd := h b pos hb.left
  rw [ByteDecoder.run_bind, ByteDecoder.andThen]
  generalize d.run b pos = out at hd
  rcases out with ⟨res, asked⟩
  rcases hd with ⟨hP, rfl⟩ | ⟨hP, e, rfl⟩
  · rcases h' b (pos + w.length) hb.right with ⟨hQ, hok'⟩ | ⟨hQ, e, herr⟩
    · left
      rw [List.length_append, ← Nat.add_assoc]
      exact ⟨⟨hP, hQ⟩, hok'⟩
    · exact .inr ⟨fun hpq => hQ hpq.2, e, herr⟩
  · exact .inr ⟨fun hpq => hP hpq.1, e, rfl⟩

/-- A final step that only repackages the value reads nothing more. -/
theorem bind_pure {d : ByteDecoder ε α} {g : α → β} {v : α} (h : Decodes P d w v) :
    Decodes P (d >>= fun a => Pure.pure (g a)) w (g v) := by
  have hb := h.bind (k := fun a => Pure.pure (g a)) (Decodes.pure (g v))
  rw [List.append_nil] at hb
  exact hb.congr (and_iff_left trivial)

end Decodes

/-- Whatever the decoder reads has the property. -/
def Yields {ε α : Type} (d : ByteDecoder ε α) (P : α → Prop) : Prop :=
  ∀ (b : Buffer) (pos : ℕ) (r : α × ℕ), (d.run b pos).1 = .ok r → P r.1

namespace Yields
variable {ε α β : Type} {P : β → Prop}

theorem pure {v : β} (h : P v) : Yields (Pure.pure v : ByteDecoder ε β) P := by
  intro b pos r hr
  cases hr
  exact h

/-- What the last decoder of a sequence reads. -/
theorem bind {d : ByteDecoder ε α} {k : α → ByteDecoder ε β} (h : ∀ a, Yields (k a) P) :
    Yields (d >>= k) P := by
  intro b pos r hr
  rw [ByteDecoder.run_bind, ByteDecoder.andThen] at hr
  generalize d.run b pos = out at hr
  rcases out with ⟨res, asked⟩
  cases res with
  | error e => cases hr
  | ok q => exact h q.1 b q.2 r hr

end Yields

/-- Read a fixed number of records. -/
def decodeMany {ε α : Type} (d : ByteDecoder ε α) : ℕ → ByteDecoder ε (List α)
  | 0 => pure []
  | n + 1 => do
    let a ← d
    let as ← decodeMany d n
    pure (a :: as)

theorem Decodes.many {ε α β : Type} {P : β → Prop} {d : ByteDecoder ε α}
    {write : β → List UInt8} {read : β → α} {xs : List β}
    (h : ∀ x ∈ xs, Decodes (P x) d (write x) (read x)) :
    Decodes (∀ x ∈ xs, P x) (decodeMany d xs.length) (xs.flatMap write) (xs.map read) := by
  induction xs with
  | nil => exact (Decodes.pure []).congr (by simp)
  | cons x xs ih =>
    have hx := h x List.mem_cons_self
    have hxs := ih fun y hy => h y (List.mem_cons_of_mem x hy)
    exact (hx.bind hxs.bind_pure).congr List.forall_mem_cons.symm

/-- A run that goes well has the property, given the bytes it has moved over. -/
def Spends {ε α : Type} (d : ByteDecoder ε α) (P : ℕ → α → Prop) : Prop :=
  ∀ (b : Buffer) (pos pos' : ℕ) (v : α), (d.run b pos).1 = .ok (v, pos') →
    ∃ n, pos' = pos + n ∧ P n v

namespace Spends
variable {ε α β : Type} {P : ℕ → α → Prop} {Q : ℕ → β → Prop}

theorem pure {v : α} (h : P 0 v) : Spends (Pure.pure v : ByteDecoder ε α) P := by
  intro b pos pos' v' hrun
  cases hrun
  exact ⟨0, rfl, h⟩

theorem fail {e : ε} : Spends (ByteDecoder.fail e : ByteDecoder ε α) P := by
  intro b pos pos' v hrun
  cases hrun

theorem mono {P' : ℕ → α → Prop} {d : ByteDecoder ε α} (h : Spends d P)
    (hPP' : ∀ n v, P n v → P' n v) : Spends d P' := by
  intro b pos pos' v hrun
  obtain ⟨n, hpos, hP⟩ := h b pos pos' v hrun
  exact ⟨n, hpos, hPP' n v hP⟩

/-- What a sequence moves over adds up. -/
theorem bind {d : ByteDecoder ε α} {k : α → ByteDecoder ε β} (h : Spends d P)
    (h' : ∀ a n, P n a → Spends (k a) fun m v => Q (n + m) v) : Spends (d >>= k) Q := by
  intro b pos pos' v hrun
  rw [ByteDecoder.run_bind, ByteDecoder.andThen] at hrun
  generalize hout : d.run b pos = out at hrun
  rcases out with ⟨res, asked⟩
  cases res with
  | error e => cases hrun
  | ok r =>
    obtain ⟨n, hpos, hP⟩ := h b pos r.2 r.1 (by rw [hout])
    obtain ⟨m, hpos', hQ⟩ := h' r.1 n hP b r.2 pos' v hrun
    exact ⟨n + m, by omega, hQ⟩

theorem take {n : ℕ} {size : n < 2 ^ 64} :
    Spends (ByteDecoder.take n size) fun m _ => m = n := by
  intro b pos pos' p hrun
  simp only [ByteDecoder.take] at hrun
  split at hrun
  · cases hrun
    exact ⟨n, rfl, rfl⟩
  · cases hrun

theorem read {get : Reader α} (h : Spends get P) (err : String) :
    Spends (CxlFabric.read get err) P := by
  intro b pos pos' v hrun
  apply h b pos pos' v
  unfold CxlFabric.read at hrun
  dsimp only at hrun
  generalize get.run b pos = out at hrun
  rcases out with ⟨res, asked⟩
  cases res with
  | error e => cases hrun
  | ok r =>
    cases hrun
    rfl

/-- Records that each have the property, and bytes enough for the costs of all. -/
theorem many {F : α → Prop} {cost : α → ℕ} {d : ByteDecoder ε α}
    (h : Spends d fun n a => F a ∧ cost a ≤ n) (k : ℕ) :
    Spends (decodeMany d k) fun n as =>
      as.length = k ∧ (∀ a ∈ as, F a) ∧ (as.map cost).sum ≤ n := by
  induction k with
  | zero => exact pure ⟨rfl, by simp, by simp⟩
  | succ k ih =>
    refine h.bind fun a n ha => ih.bind fun as m has => pure ?_
    obtain ⟨hF, hcost⟩ := ha
    obtain ⟨hlen, hall, hsum⟩ := has
    refine ⟨by rw [List.length_cons, hlen], by simpa using ⟨hF, hall⟩, ?_⟩
    rw [List.map_cons, List.sum_cons]
    omega

end Spends

end CxlFabric
