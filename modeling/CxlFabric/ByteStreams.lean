import Mathlib

/-! # Reliable byte streams

A receiver is handed pieces of a stream, of any positive length up to what it asks for, in
order, until the peer has closed; a sender is told how much of its bytes has been taken.
The loops that receive and send an exact number of bytes hide the pieces. -/
namespace CxlFabric

/-- The receiving end of a stream with the bytes that are still to come. `none` is a call
that reports an error or a closed peer. -/
structure ByteSource (σ : Type) where
  recv : σ → ℕ → Option (List UInt8 × σ)
  pending : σ → List UInt8
  closed : ∀ {s : σ} {n : ℕ}, 0 < n → recv s n = none → pending s = []
  delivers : ∀ {s s' : σ} {n : ℕ} {bytes : List UInt8}, 0 < n → recv s n = some (bytes, s') →
    0 < bytes.length ∧ bytes.length ≤ n ∧ pending s = bytes ++ pending s'

/-- The sending end of a stream with the bytes that have been taken so far. -/
structure ByteSink (σ : Type) where
  send : σ → List UInt8 → Option (ℕ × σ)
  taken : σ → List UInt8
  takes : ∀ {s s' : σ} {data : List UInt8} {n : ℕ}, send s data = some (n, s') →
    0 < n ∧ n ≤ data.length ∧ taken s' = taken s ++ data.take n

namespace ByteSource
variable {σ : Type} (src : ByteSource σ)

/-- Receive exactly `len` bytes. Pieces that have arrived before an error are lost. -/
def recvExact (s : σ) (len : ℕ) : Option (List UInt8) × σ :=
  if hlen : len = 0 then (some [], s)
  else match hrecv : src.recv s len with
    | none => (none, s)
    | some (bytes, s') =>
      have := src.delivers (Nat.pos_of_ne_zero hlen) hrecv
      let r := recvExact s' (len - bytes.length)
      (r.1.map (bytes ++ ·), r.2)
termination_by len
decreasing_by omega

theorem recvExact_zero (s : σ) : src.recvExact s 0 = (some [], s) := by
  rw [recvExact, dif_pos rfl]

/-- The stream is cut behind the bytes, or it ends before them. -/
theorem recvExact_cases (s : σ) (len : ℕ) :
    (∃ w s', src.recvExact s len = (some w, s') ∧ w.length = len ∧
      src.pending s = w ++ src.pending s') ∨
    ((src.recvExact s len).1 = none ∧ (src.pending s).length < len) := by
  fun_induction src.recvExact s len with
  | case1 s => exact .inl ⟨[], s, rfl, rfl, rfl⟩
  | case2 s len hlen hrecv =>
    right
    rw [src.closed (Nat.pos_of_ne_zero hlen) hrecv]
    exact ⟨rfl, Nat.pos_of_ne_zero hlen⟩
  | case3 s len hlen bytes s' hrecv hdelivers r ih =>
    obtain ⟨hpos, hle, hpending⟩ := hdelivers
    rcases ih with ⟨w, s'', heq, hw, hrest⟩ | ⟨hnone, hshort⟩
    · left
      refine ⟨bytes ++ w, s'', ?_, ?_, ?_⟩
      · simp only [r, heq, Option.map_some]
      · rw [List.length_append]
        omega
      · rw [hpending, hrest, List.append_assoc]
    · right
      refine ⟨?_, ?_⟩
      · simp only [r, hnone, Option.map_none]
      · rw [hpending, List.length_append]
        omega

/-- Bytes that are on their way arrive. -/
theorem recvExact_append {s : σ} {w rest : List UInt8} (h : src.pending s = w ++ rest) :
    ∃ s', src.recvExact s w.length = (some w, s') ∧ src.pending s' = rest := by
  rcases src.recvExact_cases s w.length with ⟨w', s', heq, hlen, hpending⟩ | ⟨-, hshort⟩
  · obtain ⟨rfl, hrest⟩ := List.append_inj (h.symm.trans hpending) hlen.symm
    exact ⟨s', heq, hrest.symm⟩
  · rw [h, List.length_append] at hshort
    omega

end ByteSource

namespace ByteSink
variable {σ : Type} (sink : ByteSink σ)

/-- Send all bytes. -/
def sendAll (s : σ) (data : List UInt8) : Bool × σ :=
  if data = [] then (true, s)
  else match hsend : sink.send s data with
    | none => (false, s)
    | some (n, s') =>
      have := sink.takes hsend
      sendAll s' (data.drop n)
termination_by data.length
decreasing_by
  rw [List.length_drop]
  omega

theorem sendAll_taken {s s' : σ} {data : List UInt8} (h : sink.sendAll s data = (true, s')) :
    sink.taken s' = sink.taken s ++ data := by
  fun_induction sink.sendAll s data with
  | case1 s =>
    cases h
    rw [List.append_nil]
  | case2 s data hdata hsend => cases h
  | case3 s data hdata n s₁ hsend htakes ih =>
    rw [ih h, htakes.2.2, List.append_assoc, List.take_append_drop]

end ByteSink

end CxlFabric
