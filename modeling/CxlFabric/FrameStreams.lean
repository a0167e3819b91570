import CxlFabric.ByteStreams
import CxlFabric.Frames

/-! # Frames on a stream

A receiver takes the length of a frame from the header itself, collects the payload, and
decodes the whole once more. The two readings of the length agree, so that each call takes
exactly one frame off the stream. -/
namespace CxlFabric

namespace ByteSink
variable {σ : Type} (sink : ByteSink σ)

def sendFrame (s : σ) (f : WireFrame) : Bool × σ := sink.sendAll s (encode f)

/-- Send frames until one call fails. -/
def sendFrames (s : σ) : List WireFrame → Bool × σ
  | [] => (true, s)
  | f :: fs => match sink.sendFrame s f with
    | (true, s') => sendFrames s' fs
    | (false, s') => (false, s')

theorem sendFrames_taken {s s' : σ} {fs : List WireFrame}
    (h : sink.sendFrames s fs = (true, s')) :
    sink.taken s' = sink.taken s ++ fs.flatMap encode := by
  induction fs generalizing s with
  | nil =>
    cases h
    simp
  | cons f fs ih =>
    rw [sendFrames] at h
    split at h
    · next s₁ hsend =>
      rw [ih h, sink.sendAll_taken hsend, List.flatMap_cons, List.append_assoc]
    · cases h

end ByteSink

namespace ByteSource
variable {σ : Type} (src : ByteSource σ)

def recvFrame (s : σ) : DecodeResult × σ :=
  match src.recvExact s frameHeaderSize with
  | (none, s) => ({ status := .truncated, error := "peer closed or header truncated" }, s)
  | (some hdr, s) =>
    let len := loadU32 fun i => hdr.getD (8 + i) 0
    if len.toNat > maxPayloadBytes then
      ({ status := .oversized, error := "oversized frame" }, s)
    else
      match if len.toNat > 0 then src.recvExact s len.toNat else (some [], s) with
      | (none, s) => ({ status := .truncated, error := "payload truncated" }, s)
      | (some body, s) => (decodeFrame (hdr ++ body), s)

/-- So many calls, one after the other. -/
def recvFrames (s : σ) : ℕ → List DecodeResult × σ
  | 0 => ([], s)
  | n + 1 =>
    let r := src.recvFrame s
    let rs := recvFrames r.2 n
    (r.1 :: rs.1, rs.2)

theorem recvBody_eq (s : σ) (len : ℕ) :
    (if len > 0 then src.recvExact s len else (some [], s)) = src.recvExact s len := by
  cases len with
  | zero => rw [if_neg (by omega), recvExact_zero]
  | succ n => rw [if_pos (by omega)]

variable {src} {s : σ}

/-- At the end of the stream there is no header. -/
theorem recvFrame_end (h : src.pending s = []) : (src.recvFrame s).1.status = .truncated := by
  rcases src.recvExact_cases s frameHeaderSize with ⟨w, s', -, hlen, hpending⟩ | ⟨hnone, -⟩
  · rw [h] at hpending
    have hw := (List.append_eq_nil_iff.mp hpending.symm).1
    rw [hw] at hlen
    cases hlen
  · unfold recvFrame
    generalize src.recvExact s frameHeaderSize = out at hnone
    rcases out with ⟨res, s'⟩
    cases hnone
    rfl

/-- A frame at the head of the stream is taken off it. -/
theorem recvFrame_append {f : WireFrame} {rest : List UInt8} (hf : f.Sendable)
    (h : src.pending s = encode f ++ rest) :
    ∃ s', src.recvFrame s = ({ status := .ok, frame := f, consumed := (encode f).length }, s') ∧
      src.pending s' = rest := by
  let hdr := framed protocolMagic protocolVersion f.type (UInt32.ofNat f.payload.length)
    f.checksum []
  have hencode : encode f = hdr ++ f.payload := by
    rw [WireFrame.encode_eq hf.payload]
    simp only [hdr, framed, List.append_nil]
  have hlength : (loadU32 fun i => hdr.getD (8 + i) 0).toNat = f.payload.length := by
    rw [(load_framed _ _ _ _ _ []).2.2.2.1, WireFrame.toNat_payload_length hf.payload]
  rw [hencode, List.append_assoc] at h
  obtain ⟨s₁, hhdr, h₁⟩ := src.recvExact_append h
  obtain ⟨s₂, hbody, h₂⟩ := src.recvExact_append h₁
  refine ⟨s₂, ?_, h₂⟩
  have hdecode := hf.decode_append []
  rw [List.append_nil, if_pos rfl, hencode] at hdecode
  have hsize : frameHeaderSize = hdr.length := (length_framed _ _ _ _ _ []).symm
  unfold recvFrame
  rw [hsize, hhdr]
  dsimp only
  rw [hlength, if_neg (Nat.not_lt.mpr hf.payload), recvBody_eq, hbody, hencode]
  simp only [hdecode]

/-- What an accepted frame has taken off the stream. -/
theorem recvFrame_ok (h : (src.recvFrame s).1.status = .ok) :
    src.pending s = encode (src.recvFrame s).1.frame ++ src.pending (src.recvFrame s).2 := by
  have hheader := src.recvExact_cases s frameHeaderSize
  unfold recvFrame at h ⊢
  generalize src.recvExact s frameHeaderSize = out at hheader h
  rcases out with ⟨_ | hdr, s₁⟩
  · cases h
  obtain ⟨w, s', hw, -, hpending⟩ | ⟨hnone, -⟩ := hheader
  case inr => cases hnone
  cases hw
  dsimp only at h ⊢
  split at h
  · cases h
  next hmax =>
  rw [if_neg hmax]
  generalize hn : (loadU32 fun i => hdr.getD (8 + i) 0).toNat = n at h ⊢
  rw [recvBody_eq] at h ⊢
  have hbody := src.recvExact_cases s₁ n
  generalize src.recvExact s₁ n = out at hbody h
  rcases out with ⟨_ | body, s₂⟩
  · cases h
  obtain ⟨w, s', hw, -, hpending'⟩ | ⟨hnone, -⟩ := hbody
  case inr => cases hnone
  cases hw
  obtain ⟨-, hencode⟩ := eq_encode_of_ok h rfl
  dsimp only
  rw [← hencode, hpending, hpending', List.append_assoc]

theorem recvFrames_flatMap {frames : List WireFrame} (hframes : ∀ f ∈ frames, f.Sendable)
    (h : src.pending s = frames.flatMap encode) :
    (src.recvFrames s frames.length).1.map (·.frame) = frames ∧
    (∀ r ∈ (src.recvFrames s frames.length).1, r.status = .ok) ∧
    src.pending (src.recvFrames s frames.length).2 = [] := by
  induction frames generalizing s with
  | nil => exact ⟨rfl, nofun, h⟩
  | cons f frames ih =>
    rw [List.flatMap_cons] at h
    obtain ⟨s', hrecv, hrest⟩ := recvFrame_append (hframes f List.mem_cons_self) h
    obtain ⟨hmap, hok, hend⟩ := ih (fun g hg => hframes g (List.mem_cons_of_mem f hg)) hrest
    rw [List.length_cons, recvFrames, hrecv]
    refine ⟨?_, ?_, hend⟩
    · rw [List.map_cons, hmap]
    · intro r hr
      rcases List.mem_cons.mp hr with rfl | hr
      · rfl
      · exact hok r hr

/-- Whatever the pieces are, the frames that were put on a stream come off it in order and
the stream is at its end; and an accepted frame has taken exactly its encoding. -/
theorem stream_self_delimiting {σ : Type} (src : ByteSource σ) :
    (∀ (frames : List WireFrame) (s : σ), (∀ f ∈ frames, f.Sendable) →
      src.pending s = frames.flatMap encode →
      (src.recvFrames s frames.length).1.map (·.frame) = frames ∧
      (∀ r ∈ (src.recvFrames s frames.length).1, r.status = .ok) ∧
      (src.recvFrame (src.recvFrames s frames.length).2).1.status = .truncated) ∧
    ∀ s, (src.recvFrame s).1.status = .ok →
      src.pending s = encode (src.recvFrame s).1.frame ++ src.pending (src.recvFrame s).2 := by
  refine ⟨?_, fun s h => recvFrame_ok h⟩
  intro frames s hframes hpending
  obtain ⟨hmap, hok, hend⟩ := recvFrames_flatMap hframes hpending
  exact ⟨hmap, hok, recvFrame_end hend⟩

end ByteSource

/-- A stream that has been cut into pieces; none of them is empty. -/
structure Pieces where
  pieces : List (List UInt8)
  positive : ∀ p ∈ pieces, 0 < p.length

namespace Pieces

/-- Hand out the first piece, or as much of it as is asked for. -/
def recv (s : Pieces) (n : ℕ) : Option (List UInt8 × Pieces) :=
  match s with
  | ⟨[], _⟩ => none
  | ⟨p :: ps, hps⟩ =>
    if hn : n < p.length then
      some (p.take n, ⟨p.drop n :: ps, by
        intro q hq
        rcases List.mem_cons.mp hq with rfl | hq
        · rw [List.length_drop]
          omega
        · exact hps q (List.mem_cons_of_mem p hq)⟩)
    else some (p, ⟨ps, fun q hq => hps q (List.mem_cons_of_mem p hq)⟩)

def source : ByteSource Pieces where
  recv := recv
  pending s := s.pieces.flatten
  closed := by
    rintro ⟨_ | ⟨p, ps⟩, hps⟩ n hn h
    · rfl
    · rw [recv] at h
      split at h <;> cases h
  delivers := by
    rintro ⟨_ | ⟨p, ps⟩, hps⟩ s' n bytes hn h
    · cases h
    · have hp := hps p List.mem_cons_self
      rw [recv] at h
      split at h
      · cases h
        rw [List.length_take]
        refine ⟨by omega, by omega, ?_⟩
        simp [← List.append_assoc]
      · cases h
        exact ⟨hp, by omega, by simp⟩

/-- A stream that arrives byte by byte. -/
def bytewise (data : List UInt8) : Pieces where
  pieces := data.map ([·])
  positive := by
    intro p hp
    obtain ⟨x, -, rfl⟩ := List.mem_map.mp hp
    exact Nat.one_pos

theorem pending_bytewise (data : List UInt8) : source.pending (bytewise data) = data := by
  change (data.map ([·])).flatten = data
  rw [← List.flatMap_def, List.flatMap_singleton']

end Pieces

/-- Two frames, one of them without a payload, in pieces of one byte. -/
theorem stream_self_delimiting_bytewise :
    ∃ s : Pieces, s.pieces.length = 34 ∧
      (Pieces.source.recvFrames s 2).1.map (·.frame) = [⟨10, [1, 2]⟩, ⟨21, []⟩] ∧
      (Pieces.source.recvFrame (Pieces.source.recvFrames s 2).2).1.status = .truncated := by
  have hframes : ∀ f ∈ [(⟨10, [1, 2]⟩ : WireFrame), ⟨21, []⟩], f.Sendable := by
    intro f hf
    simp only [List.mem_cons, List.not_mem_nil, or_false] at hf
    rcases hf with rfl | rfl
    · exact ⟨⟨.reserve, rfl⟩, by decide⟩
    · exact ⟨⟨.ack, rfl⟩, by decide⟩
  obtain ⟨hmap, -, hend⟩ := (ByteSource.stream_self_delimiting Pieces.source).1 _ _ hframes
    (Pieces.pending_bytewise _)
  exact ⟨_, by decide, hmap, hend⟩

/-- What a sender has written is what a receiver gets. -/
theorem sent_frames_arrive {σ τ : Type} (sink : ByteSink σ) (src : ByteSource τ)
    {s s' : σ} {t : τ} {frames : List Frame}
    (hframes : ∀ f ∈ frames, f.payload.length ≤ maxPayloadBytes) (hempty : sink.taken s = [])
    (hsend : sink.sendFrames s (frames.map Frame.toWire) = (true, s'))
    (hwire : src.pending t = sink.taken s') :
    (src.recvFrames t frames.length).1.map (·.frame) = frames.map Frame.toWire := by
  rw [sink.sendFrames_taken hsend, hempty, List.nil_append] at hwire
  have hsendable : ∀ f ∈ frames.map Frame.toWire, f.Sendable := by
    intro f hf
    obtain ⟨g, hg, rfl⟩ := List.mem_map.mp hf
    exact ⟨⟨g.type, rfl⟩, hframes g hg⟩
  have hrecv := (ByteSource.recvFrames_flatMap hsendable hwire).1
  rwa [List.length_map] at hrecv

end CxlFabric
