import CxlFabric.ByteDecoders

/-! # The formats that decoders accept

A format relates the bytes a decoder runs over to the value it returns. The checks of a
decoder may let it read behind the end of its buffer, but a run never goes back: one that
ends inside has read bytes of the buffer only, and these have the format. -/
namespace CxlFabric

namespace Trail
variable {b : Buffer} {pos last : ℕ} {asked : List Field}

theorem le (h : Trail b pos asked (some last)) : pos ≤ last := by
  generalize hend : some last = e at h
  induction h with
  | done pos => cases hend; exact Nat.le_refl _
  | stopped pos => cases hend
  | refused check => cases hend
  | passed check rest ih => exact (Nat.le_add_right _ _).trans (ih hend)

end Trail

namespace Buffer
variable {b : Buffer} {pos : ℕ} {w w' : List UInt8}

theorem Holds.append (h : b.Holds pos w) (h' : b.Holds (pos + w.length) w') :
    b.Holds pos (w ++ w') := by
  have hinside := h'.inside
  refine ⟨by rw [List.length_append]; omega, ?_⟩
  intro i x hx
  by_cases hi : i < w.length
  · rw [List.getElem?_append_left hi] at hx
    exact h.bytes_eq i x hx
  · rw [List.getElem?_append_right (Nat.le_of_not_lt hi)] at hx
    have hmem := h'.bytes_eq _ x hx
    rwa [show pos + w.length + (i - w.length) = pos + i by omega] at hmem

theorem Holds.eq (h : b.Holds pos w) (h' : b.Holds pos w') (hlen : w.length = w'.length) :
    w = w' := by
  apply List.ext_getElem hlen
  intro i hi hi'
  rw [← h.bytes_eq i _ (List.getElem?_eq_getElem hi),
    ← h'.bytes_eq i _ (List.getElem?_eq_getElem hi')]

theorem holds_nil (h : pos ≤ b.len) : b.Holds pos [] := ⟨h, by simp⟩

end Buffer

/-- A run that ends inside the buffer has read bytes of the format, and its value. -/
def Consumes {ε α : Type} (d : ByteDecoder ε α) (F : List UInt8 → α → Prop) : Prop :=
  ∀ (b : Buffer) (pos pos' : ℕ) (v : α), (d.run b pos).1 = .ok (v, pos') → pos' ≤ b.len →
    ∃ w, b.Holds pos w ∧ pos' = pos + w.length ∧ F w v

/-- The format of a layout: its bytes and its value, where it is admissible. -/
def Layout {X α : Type} (P : X → Prop) (bytes : X → List UInt8) (value : X → α)
    (w : List UInt8) (v : α) : Prop := ∃ x, P x ∧ w = bytes x ∧ v = value x

namespace Consumes
variable {ε α β : Type} {F G : List UInt8 → α → Prop}

theorem mono {d : ByteDecoder ε α} (h : Consumes d F) (hFG : ∀ w v, F w v → G w v) :
    Consumes d G := by
  intro b pos pos' v hrun hlen
  obtain ⟨w, hw, hpos, hF⟩ := h b pos pos' v hrun hlen
  exact ⟨w, hw, hpos, hFG w v hF⟩

theorem pure (v : α) : Consumes (Pure.pure v : ByteDecoder ε α) fun w v' => w = [] ∧ v' = v := by
  intro b pos pos' v' hrun hlen
  cases hrun
  exact ⟨[], Buffer.holds_nil hlen, rfl, rfl, rfl⟩

theorem fail (e : ε) : Consumes (ByteDecoder.fail e : ByteDecoder ε α) F := by
  intro b pos pos' v hrun
  cases hrun

theorem ite {d d' : ByteDecoder ε α} {c : Prop} [Decidable c] (h : c → Consumes d F)
    (h' : ¬c → Consumes d' F) : Consumes (if c then d else d') F := by
  split
  · next hc => exact h hc
  · next hc => exact h' hc

theorem bind {d : ByteDecoder ε α} {k : α → ByteDecoder ε β} {H : α → List UInt8 → β → Prop}
    (h : Consumes d F) (h' : ∀ a, Consumes (k a) (H a)) :
    Consumes (d >>= k) fun w v => ∃ w₁ a w₂, F w₁ a ∧ H a w₂ v ∧ w = w₁ ++ w₂ := by
  intro b pos pos' v hrun hlen
  rw [ByteDecoder.run_bind, ByteDecoder.andThen] at hrun
  generalize hout : d.run b pos = out at hrun
  rcases out with ⟨res, asked⟩
  cases res with
  | error e => cases hrun
  | ok r =>
    -- The second run starts inside, since it does not go back on its way to the end.
    have htrail := (k r.1).trail b r.2
    rw [hrun] at htrail
    have hmid : r.2 ≤ b.len := htrail.le.trans hlen
    obtain ⟨w₁, hw₁, hpos₁, hF⟩ := h b pos r.2 r.1 (by rw [hout]) hmid
    obtain ⟨w₂, hw₂, hpos₂, hH⟩ := h' r.1 b r.2 pos' v hrun hlen
    rw [hpos₁] at hw₂ hpos₂
    refine ⟨w₁ ++ w₂, hw₁.append hw₂, ?_, w₁, r.1, w₂, hF, hH, rfl⟩
    rw [hpos₂, List.length_append, Nat.add_assoc]

/-- A final step that only repackages the value. -/
theorem bind_pure {d : ByteDecoder ε α} {g : α → β} (h : Consumes d F) :
    Consumes (d >>= fun a => Pure.pure (g a)) fun w v => ∃ a, F w a ∧ v = g a := by
  refine (h.bind fun a => pure (g a)).mono ?_
  rintro w v ⟨w₁, a, w₂, hF, ⟨rfl, rfl⟩, rfl⟩
  rw [List.append_nil]
  exact ⟨a, hF, rfl⟩

theorem take {n : ℕ} {size : n < 2 ^ 64} :
    Consumes (ByteDecoder.take n size) fun w p => w = (List.range n).map p := by
  intro b pos pos' p hrun hlen
  simp only [ByteDecoder.take] at hrun
  split at hrun
  · cases hrun
    refine ⟨_, ⟨by simpa using hlen, ?_⟩, by simp, rfl⟩
    intro i x hx
    simp only [List.getElem?_map, Option.map_eq_some_iff] at hx
    obtain ⟨j, hj, rfl⟩ := hx
    rw [(List.getElem?_eq_some_iff.mp hj).2.symm, List.getElem_range]
  · cases hrun

theorem many {X : Type} {P : X → Prop} {bytes : X → List UInt8} {value : X → α}
    {d : ByteDecoder ε α} (h : Consumes d (Layout P bytes value)) (n : ℕ) :
    Consumes (decodeMany d n)
      (Layout (fun xs : List X => xs.length = n ∧ ∀ x ∈ xs, P x) (List.flatMap bytes)
        (List.map value)) := by
  induction n with
  | zero =>
    refine (pure []).mono ?_
    rintro w v ⟨rfl, rfl⟩
    exact ⟨[], by simp, rfl, rfl⟩
  | succ n ih =>
    refine (h.bind fun a => ih.bind_pure).mono ?_
    rintro w v ⟨_, _, _, ⟨x, hx, rfl, rfl⟩, ⟨_, ⟨xs, ⟨hlen, hxs⟩, rfl, rfl⟩, rfl⟩, rfl⟩
    exact ⟨x :: xs, ⟨by rw [List.length_cons, hlen], by simpa using ⟨hx, hxs⟩⟩, rfl, rfl⟩

end Consumes

theorem Consumes.read {α : Type} {F : List UInt8 → α → Prop} {get : Reader α}
    (h : Consumes get F) (err : String) : Consumes (read get err) F := by
  intro b pos pos' v hrun
  apply h b pos pos' v
  unfold CxlFabric.read at hrun
  dsimp only at hrun
  generalize get.run b pos = out at hrun
  rcases out with ⟨res, asked⟩
  cases res with
  | error e => cases hrun
  | ok r =>
    cases hrun
    rfl

end CxlFabric
