import CxlFabric.Codec

/-! # Frames on the wire

A frame is a header of sixteen bytes (magic, version, type, length and checksum) and the
payload. The checksum covers the header in front of it and the payload. Decoding is exact:
it accepts the encodings of frames and nothing else. -/
namespace CxlFabric

def protocolMagic : UInt32 := 0x43584C46

def protocolVersion : UInt16 := 1

def frameHeaderSize : ℕ := 16

def maxPayloadBytes : ℕ := 65536

def FrameType.code : FrameType → UInt16
  | .hello => 1 | .workerBoot => 2 | .workerDead => 3 | .publishDevice => 4
  | .publishCapability => 5 | .publishRegion => 6 | .publishPool => 7 | .publishHealth => 8
  | .publishLocality => 9 | .reserve => 10 | .reserveResult => 11 | .commit => 12
  | .commitResult => 13 | .release => 14 | .releaseResult => 15 | .revalidate => 16
  | .revalidateResult => 17 | .epoch => 18 | .errorReport => 19 | .shutdown => 20 | .ack => 21
  | .queryState => 22 | .queryStateResult => 23

/-- A frame as the codec handles it: an object of the enumeration may hold any 16-bit word. -/
structure WireFrame where
  type : UInt16 := FrameType.hello.code
  payload : List UInt8 := []
  deriving DecidableEq

def Frame.toWire (f : Frame) : WireFrame where
  type := f.type.code
  payload := f.payload

/-- The type is one of the declared ones and the payload is within the bound. -/
structure WireFrame.Sendable (f : WireFrame) : Prop where
  type : ∃ t : FrameType, t.code = f.type
  payload : f.payload.length ≤ maxPayloadBytes

inductive DecodeStatus
  | ok | badMagic | badVersion | badType | badLength | oversized | truncated | badChecksum
  | trailingGarbage | malformed
  deriving DecidableEq

structure DecodeResult where
  status : DecodeStatus := .malformed
  frame : WireFrame := {}
  consumed : ℕ := 0
  error : String := ""
  deriving DecidableEq

def validType (t : UInt16) : Bool := t ≥ 1 && t ≤ FrameType.queryStateResult.code

/-- The header up to the checksum. -/
def frameHead (magic : UInt32) (version type : UInt16) (length : UInt32) : List UInt8 :=
  putU32 magic ++ putU16 version ++ putU16 type ++ putU32 length

def encodeFrame (f : WireFrame) (version : UInt16) : List UInt8 :=
  -- A payload beyond the bound leaves the length and the checksum of the header at zero.
  if f.payload.length > maxPayloadBytes then frameHead protocolMagic version f.type 0 ++ putU32 0
  else
    let head := frameHead protocolMagic version f.type (UInt32.ofNat f.payload.length)
    head ++ putU32 (crc32 (head ++ f.payload)) ++ f.payload

/-- With the default version of the declaration. -/
def encode (f : WireFrame) : List UInt8 := encodeFrame f protocolVersion

def decodeFrame (data : List UInt8) : DecodeResult :=
  if data.length < frameHeaderSize then { status := .truncated, error := "header truncated" }
  else
    let magic := loadU32 fun i => data.getD i 0
    let version := loadU16 fun i => data.getD (4 + i) 0
    let type := loadU16 fun i => data.getD (6 + i) 0
    let length := loadU32 fun i => data.getD (8 + i) 0
    let checksum := loadU32 fun i => data.getD (12 + i) 0
    if magic ≠ protocolMagic then { status := .badMagic, error := "bad magic" }
    else if version ≠ protocolVersion then { status := .badVersion, error := "bad version" }
    else if !validType type then { status := .badType, error := "bad type" }
    else if length.toNat > maxPayloadBytes then
      { status := .oversized, error := "oversized payload" }
    else
      let total := frameHeaderSize + length.toNat
      if total > data.length then { status := .truncated, error := "payload truncated" }
      else
        let payload := (data.take total).drop frameHeaderSize
        if crc32 (data.take 12 ++ payload) ≠ checksum then
          { status := .badChecksum, error := "checksum mismatch" }
        else
          let frame : WireFrame := { type, payload }
          if total ≠ data.length then
            { status := .trailingGarbage, frame, consumed := total, error := "trailing bytes" }
          else { status := .ok, frame, consumed := total }

theorem validType_iff (t : UInt16) : validType t = true ↔ ∃ k : FrameType, k.code = t := by
  constructor
  · intro h
    have hrange : 1 ≤ t.toNat ∧ t.toNat ≤ 23 := by
      simp only [validType, FrameType.code, ge_iff_le, Bool.and_eq_true, decide_eq_true_eq,
        UInt16.le_iff_toNat_le, UInt16.reduceToNat] at h
      exact h
    have ht : t = UInt16.ofNat t.toNat := UInt16.ofNat_toNat.symm
    obtain ⟨hlow, hhigh⟩ := hrange
    rw [ht]
    generalize t.toNat = n at hlow hhigh
    interval_cases n
    exacts [⟨.hello, rfl⟩, ⟨.workerBoot, rfl⟩, ⟨.workerDead, rfl⟩, ⟨.publishDevice, rfl⟩,
      ⟨.publishCapability, rfl⟩, ⟨.publishRegion, rfl⟩, ⟨.publishPool, rfl⟩,
      ⟨.publishHealth, rfl⟩, ⟨.publishLocality, rfl⟩, ⟨.reserve, rfl⟩, ⟨.reserveResult, rfl⟩,
      ⟨.commit, rfl⟩, ⟨.commitResult, rfl⟩, ⟨.release, rfl⟩, ⟨.releaseResult, rfl⟩,
      ⟨.revalidate, rfl⟩, ⟨.revalidateResult, rfl⟩, ⟨.epoch, rfl⟩, ⟨.errorReport, rfl⟩,
      ⟨.shutdown, rfl⟩, ⟨.ack, rfl⟩, ⟨.queryState, rfl⟩, ⟨.queryStateResult, rfl⟩]
  · rintro ⟨k, rfl⟩
    cases k <;> decide

section header
variable (magic : UInt32) (version type : UInt16) (length checksum : UInt32) (rest : List UInt8)

/-- The bytes of a header and what follows it. -/
def framed : List UInt8 := frameHead magic version type length ++ putU32 checksum ++ rest

theorem length_framed : (framed magic version type length checksum rest).length =
    frameHeaderSize + rest.length := by
  simp only [framed, frameHead, List.length_append, length_putU32, length_putU16, frameHeaderSize]

/-- The five words of a header are loaded from where they stand. -/
theorem load_framed :
    (loadU32 fun i => (framed magic version type length checksum rest).getD i 0) = magic ∧
    (loadU16 fun i => (framed magic version type length checksum rest).getD (4 + i) 0) = version ∧
    (loadU16 fun i => (framed magic version type length checksum rest).getD (6 + i) 0) = type ∧
    (loadU32 fun i => (framed magic version type length checksum rest).getD (8 + i) 0) = length ∧
    (loadU32 fun i => (framed magic version type length checksum rest).getD (12 + i) 0) =
      checksum :=
  ⟨loadU32_putU32 magic, loadU16_putU16 version, loadU16_putU16 type, loadU32_putU32 length,
    loadU32_putU32 checksum⟩

theorem take_framed : (framed magic version type length checksum rest).take 12 =
    frameHead magic version type length := rfl

theorem drop_take_framed (n : ℕ) :
    ((framed magic version type length checksum rest).take (frameHeaderSize + n)).drop
      frameHeaderSize = rest.take n := by
  have hlen : (frameHead magic version type length ++ putU32 checksum).length = frameHeaderSize :=
    rfl
  rw [List.drop_take, framed, ← hlen, List.drop_left, Nat.add_sub_cancel_left]

/-- Decoding in terms of the words of the header. -/
theorem decodeFrame_framed : decodeFrame (framed magic version type length checksum rest) =
    if magic ≠ protocolMagic then { status := .badMagic, error := "bad magic" }
    else if version ≠ protocolVersion then { status := .badVersion, error := "bad version" }
    else if !validType type then { status := .badType, error := "bad type" }
    else if length.toNat > maxPayloadBytes then
      { status := .oversized, error := "oversized payload" }
    else if length.toNat > rest.length then
      { status := .truncated, error := "payload truncated" }
    else if crc32 (frameHead magic version type length ++ rest.take length.toNat) ≠ checksum then
      { status := .badChecksum, error := "checksum mismatch" }
    else if length.toNat ≠ rest.length then
      { status := .trailingGarbage, frame := ⟨type, rest.take length.toNat⟩
        consumed := frameHeaderSize + length.toNat, error := "trailing bytes" }
    else
      { status := .ok, frame := ⟨type, rest.take length.toNat⟩
        consumed := frameHeaderSize + length.toNat } := by
  obtain ⟨hmagic, hversion, htype, hlength, hchecksum⟩ :=
    load_framed magic version type length checksum rest
  unfold decodeFrame
  rw [length_framed, if_neg (by omega)]
  simp only [hmagic, hversion, htype, hlength, hchecksum, drop_take_framed, take_framed,
    gt_iff_lt, Nat.add_lt_add_iff_left, ne_eq, Nat.add_left_cancel_iff]

end header

/-- Sixteen bytes are the header of some frame. -/
theorem eq_framed {b : List UInt8} (h : frameHeaderSize ≤ b.length) :
    ∃ magic version type length checksum,
      b = framed magic version type length checksum (b.drop frameHeaderSize) := by
  let at_ (k : ℕ) (i : ℕ) : UInt8 := b.getD (k + i) 0
  refine ⟨loadU32 (at_ 0), loadU16 (at_ 4), loadU16 (at_ 6), loadU32 (at_ 8), loadU32 (at_ 12), ?_⟩
  have hhead : b.take frameHeaderSize = frameHead (loadU32 (at_ 0)) (loadU16 (at_ 4))
      (loadU16 (at_ 6)) (loadU32 (at_ 8)) ++ putU32 (loadU32 (at_ 12)) := by
    rw [take_eq_map_getD h]
    simp only [frameHead, putU32_loadU32, putU16_loadU16, at_]
    rfl
  rw [framed, ← hhead, List.take_append_drop]

namespace WireFrame
variable {f : WireFrame}

/-- The checksum of a frame. -/
def checksum (f : WireFrame) : UInt32 :=
  crc32 (frameHead protocolMagic protocolVersion f.type (UInt32.ofNat f.payload.length) ++ f.payload)

theorem toNat_payload_length (h : f.payload.length ≤ maxPayloadBytes) :
    (UInt32.ofNat f.payload.length).toNat = f.payload.length :=
  UInt32.toNat_ofNat_of_lt' (lt_of_le_of_lt h (by decide))

theorem encode_eq (h : f.payload.length ≤ maxPayloadBytes) :
    encode f = framed protocolMagic protocolVersion f.type (UInt32.ofNat f.payload.length)
      f.checksum f.payload := by
  rw [encode, encodeFrame, if_neg (Nat.not_lt.mpr h)]
  rfl

theorem length_encode (h : f.payload.length ≤ maxPayloadBytes) :
    (encode f).length = frameHeaderSize + f.payload.length := by
  rw [encode_eq h, length_framed]

namespace Sendable

/-- The header of a frame passes every check of its words. -/
theorem decode_header (h : f.Sendable) (c : UInt32) (rest : List UInt8) :
    decodeFrame (framed protocolMagic protocolVersion f.type (UInt32.ofNat f.payload.length) c
      rest) =
    if f.payload.length > rest.length then { status := .truncated, error := "payload truncated" }
    else if crc32 (frameHead protocolMagic protocolVersion f.type
        (UInt32.ofNat f.payload.length) ++ rest.take f.payload.length) ≠ c then
      { status := .badChecksum, error := "checksum mismatch" }
    else if f.payload.length ≠ rest.length then
      { status := .trailingGarbage, frame := ⟨f.type, rest.take f.payload.length⟩
        consumed := frameHeaderSize + f.payload.length, error := "trailing bytes" }
    else
      { status := .ok, frame := ⟨f.type, rest.take f.payload.length⟩
        consumed := frameHeaderSize + f.payload.length } := by
  have htype : validType f.type = true := (validType_iff f.type).mpr h.type
  rw [decodeFrame_framed, if_neg (by simp), if_neg (by simp), if_neg (by simp [htype]),
    toNat_payload_length h.payload, if_neg (Nat.not_lt.mpr h.payload)]

/-- The whole frame is there; what stands behind it decides. -/
theorem decode_append (h : f.Sendable) (rest : List UInt8) :
    decodeFrame (encode f ++ rest) =
      if rest = [] then { status := .ok, frame := f, consumed := (encode f).length }
      else
        { status := .trailingGarbage, frame := f, consumed := (encode f).length
          error := "trailing bytes" } := by
  have hframed : encode f ++ rest = framed protocolMagic protocolVersion f.type
      (UInt32.ofNat f.payload.length) f.checksum (f.payload ++ rest) := by
    rw [encode_eq h.payload, framed, framed, List.append_assoc]
  rw [hframed, h.decode_header, List.take_left, length_encode h.payload,
    if_neg (by rw [List.length_append]; omega), if_neg (by simp [checksum])]
  cases rest with
  | nil => simp
  | cons x rest => simp

/-- A part of the frame is not enough. -/
theorem decode_part (h : f.Sendable) {part : List UInt8} (hpart : part <+: encode f)
    (hproper : part ≠ encode f) : (decodeFrame part).status = .truncated := by
  have hlt : part.length < (encode f).length :=
    lt_of_le_of_ne hpart.length_le fun heq => hproper (hpart.eq_of_length heq)
  by_cases hshort : part.length < frameHeaderSize
  · rw [decodeFrame, if_pos hshort]
  · obtain ⟨rest, hrest⟩ : ∃ rest, part = framed protocolMagic protocolVersion f.type
        (UInt32.ofNat f.payload.length) f.checksum rest := by
      refine ⟨f.payload.take (part.length - frameHeaderSize), ?_⟩
      have htake := List.prefix_iff_eq_take.mp hpart
      rw [encode_eq h.payload, framed, List.take_append,
        List.take_of_length_le (Nat.le_of_not_lt hshort)] at htake
      exact htake
    rw [length_encode h.payload, hrest, length_framed] at hlt
    rw [hrest, h.decode_header, if_pos (by omega)]

end Sendable

end WireFrame

/-- What decodes is the encoding of its frame. -/
theorem eq_encode_of_ok {b : List UInt8} {f : WireFrame} (hok : (decodeFrame b).status = .ok)
    (hframe : (decodeFrame b).frame = f) : f.Sendable ∧ b = encode f := by
  by_cases hshort : b.length < frameHeaderSize
  · rw [decodeFrame, if_pos hshort] at hok
    cases hok
  obtain ⟨magic, version, type, length, checksum, hb⟩ := eq_framed (Nat.le_of_not_lt hshort)
  generalize b.drop frameHeaderSize = rest at hb
  subst hb
  rw [decodeFrame_framed] at hok hframe
  split_ifs at hok hframe with hmagic hversion htype hmax hlong hcrc hend
  subst hframe
  rw [not_not] at hmagic hversion hcrc hend
  have htake : rest.take length.toNat = rest := by rw [hend, List.take_length]
  have hvalid : validType type = true := by simpa using htype
  have hs : WireFrame.Sendable ⟨type, rest.take length.toNat⟩ := by
    refine ⟨(validType_iff type).mp hvalid, ?_⟩
    rw [htake, ← hend]
    exact Nat.not_lt.mp hmax
  refine ⟨hs, ?_⟩
  rw [WireFrame.encode_eq hs.payload, WireFrame.checksum, hmagic, hversion]
  rw [hmagic, hversion, htake] at hcrc
  simp only [htake, ← hend, UInt32.ofNat_toNat, hcrc]

/-- Decoding accepts exactly the encodings of sendable frames; less than a frame is
truncated, and more than a frame is a frame with trailing bytes. -/
theorem decodeFrame_exact (b : List UInt8) (f : WireFrame) :
    (((decodeFrame b).status = .ok ∧ (decodeFrame b).frame = f ∧
        (decodeFrame b).consumed = b.length) ↔
      (∃ t : FrameType, t.code = f.type) ∧ f.payload.length ≤ maxPayloadBytes ∧ b = encode f) ∧
    ((∃ t : FrameType, t.code = f.type) → f.payload.length ≤ maxPayloadBytes →
      (∀ part, part <+: encode f → part ≠ encode f → (decodeFrame part).status = .truncated) ∧
      ∀ rest, rest ≠ [] →
        (decodeFrame (encode f ++ rest)).status = .trailingGarbage ∧
        (decodeFrame (encode f ++ rest)).frame = f ∧
        (decodeFrame (encode f ++ rest)).consumed = (encode f).length) := by
  refine ⟨⟨?_, ?_⟩, ?_⟩
  · rintro ⟨hok, hframe, -⟩
    obtain ⟨hs, rfl⟩ := eq_encode_of_ok hok hframe
    exact ⟨hs.type, hs.payload, rfl⟩
  · rintro ⟨htype, hpayload, rfl⟩
    have hdecode := (WireFrame.Sendable.mk htype hpayload).decode_append []
    rw [List.append_nil, if_pos rfl] at hdecode
    rw [hdecode]
    exact ⟨rfl, rfl, rfl⟩
  · intro htype hpayload
    have hs : f.Sendable := ⟨htype, hpayload⟩
    refine ⟨fun part hpart hproper => hs.decode_part hpart hproper, ?_⟩
    intro rest hrest
    rw [hs.decode_append, if_neg hrest]
    exact ⟨rfl, rfl, rfl⟩

end CxlFabric
