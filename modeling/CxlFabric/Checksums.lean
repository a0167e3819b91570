import CxlFabric.ReflectedCrc
import CxlFabric.Frames
import CxlFabric.PersistenceRoundTrip

/-! # What the checksum is, and what it finds

The table-driven loop computes the reflected check of 32 bits that feeds every byte lowest
bit first. Four bytes are as wide as its register, so two messages of one length that differ
within four bytes in a row never have the same checksum. -/
namespace CxlFabric
open ReflectedCrc Persistence

def crcPolynomial : BitVec 32 := 0xEDB88320#32

/-- The bits of a byte, the lowest one first. -/
def bitsOfByte (b : UInt8) : List Bool := (List.range 8).map fun i => b.toBitVec.getLsbD i

/-- The check bit by bit: the register starts with ones, and its complement is the result. -/
def serialCrc32 (data : List UInt8) : BitVec 32 :=
  ~~~ serial crcPolynomial (BitVec.allOnes 32) (data.flatMap bitsOfByte)

/-- The checksum of a message that goes on. -/
def continueCrc32 (crc : UInt32) (data : List UInt8) : UInt32 :=
  data.foldl crcStep (crc ^^^ 0xFFFFFFFF) ^^^ 0xFFFFFFFF

theorem msb_crcPolynomial : crcPolynomial.msb = true := by decide

section bytes

@[simp] theorem length_bitsOfByte (b : UInt8) : (bitsOfByte b).length = 8 := rfl

theorem wordOf_bitsOfByte (b : UInt8) : wordOf 32 (bitsOfByte b) = b.toUInt32.toBitVec := by
  apply BitVec.eq_of_getLsbD_eq
  intro i hi
  rw [getLsbD_wordOf, UInt8.toBitVec_toUInt32, BitVec.getLsbD_setWidth, decide_eq_true hi]
  by_cases hbyte : i < 8
  · rw [List.getD_eq_getElem _ _ (by simpa using hbyte)]
    simp [bitsOfByte]
  · rw [List.getD_eq_default _ _ (by simpa using hbyte), BitVec.getLsbD_of_ge _ _ (by omega)]

theorem bitsOfByte_injective : Function.Injective bitsOfByte := by
  intro a b h
  have hword := congrArg (wordOf 32) h
  rw [wordOf_bitsOfByte, wordOf_bitsOfByte] at hword
  exact UInt8.toUInt32_inj.mp (UInt32.toBitVec_inj.mp hword)

theorem length_flatMap_bitsOfByte (data : List UInt8) :
    (data.flatMap bitsOfByte).length = 8 * data.length := by
  induction data with
  | nil => rfl
  | cons b data ih =>
    rw [List.flatMap_cons, List.length_append, ih, length_bitsOfByte, List.length_cons]
    omega

theorem flatMap_bitsOfByte_injective : Function.Injective (List.flatMap bitsOfByte) := by
  intro u
  induction u with
  | nil =>
    intro v h
    have hlen := congrArg List.length h
    rw [length_flatMap_bitsOfByte, length_flatMap_bitsOfByte, List.length_nil] at hlen
    exact (List.eq_nil_of_length_eq_zero (by omega)).symm
  | cons a u ih =>
    intro v h
    cases v with
    | nil => cases h
    | cons b v =>
      rw [List.flatMap_cons, List.flatMap_cons] at h
      obtain ⟨hbyte, hrest⟩ := List.append_inj h rfl
      rw [bitsOfByte_injective hbyte, ih hrest]

/-- A round of the loop that fills the table. -/
def tableRound (c : UInt32) : UInt32 :=
  if c &&& 1 ≠ 0 then (0xEDB88320 : UInt32) ^^^ (c >>> 1) else c >>> 1

theorem and_one_ne_zero_iff (c : UInt32) : c &&& 1 ≠ 0 ↔ c.toBitVec.getLsbD 0 = true := by
  have hand : (c &&& 1).toBitVec = (BitVec.ofBool (c.toBitVec.getLsbD 0)).setWidth 32 :=
    BitVec.and_one_eq_setWidth_ofBool_getLsbD
  rw [ne_eq, ← UInt32.toBitVec_inj, hand]
  cases c.toBitVec.getLsbD 0 <;> decide

theorem toBitVec_tableRound (c : UInt32) :
    (tableRound c).toBitVec = shiftStep crcPolynomial c.toBitVec := by
  unfold tableRound shiftStep
  by_cases h : c &&& 1 ≠ 0
  · rw [if_pos h, if_pos ((and_one_ne_zero_iff c).mp h)]
    rfl
  · rw [if_neg h, if_neg (fun hbit => h ((and_one_ne_zero_iff c).mpr hbit))]
    rfl

theorem toBitVec_crcTable (i : UInt32) :
    (crcTable i).toBitVec = (shiftStep crcPolynomial)^[8] i.toBitVec := by
  have hrounds : crcTable i = tableRound^[8] i := List.foldl_const tableRound i (List.range 8)
  have hsemi : Function.Semiconj UInt32.toBitVec tableRound (shiftStep crcPolynomial) :=
    toBitVec_tableRound
  rw [hrounds, (hsemi.iterate_right 8).eq]

/-- A step of the loop over the message feeds the eight bits of a byte. -/
theorem toBitVec_crcStep (c : UInt32) (b : UInt8) :
    (crcStep c b).toBitVec = serial crcPolynomial c.toBitVec (bitsOfByte b) := by
  rw [serial_eq_table _ (by simp), wordOf_bitsOfByte, crcStep, UInt32.toBitVec_xor,
    toBitVec_crcTable]
  rfl

theorem toBitVec_foldl_crcStep (c : UInt32) (data : List UInt8) :
    (data.foldl crcStep c).toBitVec =
      serial crcPolynomial c.toBitVec (data.flatMap bitsOfByte) := by
  induction data generalizing c with
  | nil => rfl
  | cons b data ih =>
    rw [List.foldl_cons, ih, toBitVec_crcStep, List.flatMap_cons, serial_append]

end bytes

theorem crc32_append (a b : List UInt8) : crc32 (a ++ b) = continueCrc32 (crc32 a) b := by
  have hcancel (c : UInt32) : c ^^^ 0xFFFFFFFF ^^^ 0xFFFFFFFF = c := by
    rw [UInt32.xor_assoc, UInt32.xor_self, UInt32.xor_zero]
  rw [continueCrc32, crc32, crc32, hcancel, List.foldl_append]

theorem toBitVec_crc32 (data : List UInt8) : (crc32 data).toBitVec = serialCrc32 data := by
  rw [crc32, UInt32.toBitVec_xor, toBitVec_foldl_crcStep, serialCrc32, ← BitVec.xor_allOnes]
  rfl

/-- The checksum is the reflected check of 32 bits, bit by bit; it can be continued, and the
one in a header covers the header in front of it and then the payload. -/
theorem crc32_is_standard (data : List UInt8) :
    (crc32 data).toBitVec = serialCrc32 data ∧
    (∀ more : List UInt8, crc32 (data ++ more) = continueCrc32 (crc32 data) more) ∧
    ∀ (f : WireFrame) (version : UInt16), f.payload.length ≤ maxPayloadBytes →
      (loadU32 fun i => (encodeFrame f version).getD (12 + i) 0) =
        continueCrc32 (crc32 ((encodeFrame f version).take 12)) f.payload := by
  refine ⟨toBitVec_crc32 data, crc32_append data, ?_⟩
  intro f version hmax
  have hencode : encodeFrame f version = framed protocolMagic version f.type
      (UInt32.ofNat f.payload.length)
      (crc32 (frameHead protocolMagic version f.type (UInt32.ofNat f.payload.length) ++ f.payload))
      f.payload := by
    rw [encodeFrame, if_neg (Nat.not_lt.mpr hmax)]
    rfl
  rw [hencode, take_framed, ← crc32_append]
  exact (load_framed ..).2.2.2.2

theorem crc32_is_standard_hello :
    (loadU32 fun i => (encodeFrame { payload := [1, 2, 3] } 1).getD (12 + i) 0) =
      continueCrc32 (crc32 ((encodeFrame { payload := [1, 2, 3] } 1).take 12)) [1, 2, 3] :=
  (crc32_is_standard []).2.2 { payload := [1, 2, 3] } 1 (by decide)

/-- The check value of the standard: the digits from one to nine. -/
example : crc32 ((List.range 9).map fun i => UInt8.ofNat (0x31 + i)) = 0xCBF43926 := by
  decide +kernel

/-- Messages of one length that differ, all of it within four bytes in a row. -/
structure Corrupted (a b : List UInt8) : Prop where
  length : a.length = b.length
  differ : a ≠ b
  window : ∃ i, ∀ k, a[k]? ≠ b[k]? → i ≤ k ∧ k < i + 4

namespace Corrupted
variable {a b : List UInt8}

/-- What stands in front of the window and behind it is the same. -/
theorem split (h : Corrupted a b) : ∃ front u v back, a = front ++ u ++ back ∧
    b = front ++ v ++ back ∧ u.length = v.length ∧ u.length ≤ 4 ∧ u ≠ v := by
  obtain ⟨i, hi⟩ := h.window
  have hfront : a.take i = b.take i := by
    apply List.ext_getElem?
    intro k
    by_cases hk : k < i
    · rw [List.getElem?_take_of_lt hk, List.getElem?_take_of_lt hk]
      by_contra hne
      exact absurd (hi k hne).1 (Nat.not_le.mpr hk)
    · rw [List.getElem?_eq_none (by simp; omega), List.getElem?_eq_none (by simp; omega)]
  have hback : (a.drop i).drop 4 = (b.drop i).drop 4 := by
    apply List.ext_getElem?
    intro k
    rw [List.drop_drop, List.drop_drop, List.getElem?_drop, List.getElem?_drop]
    by_contra hne
    exact absurd (hi _ hne).2 (by omega)
  refine ⟨a.take i, (a.drop i).take 4, (b.drop i).take 4, (a.drop i).drop 4, ?_, ?_, ?_, ?_, ?_⟩
  · rw [List.append_assoc, List.take_append_drop, List.take_append_drop]
  · rw [hfront, hback, List.append_assoc, List.take_append_drop, List.take_append_drop]
  · simp [h.length]
  · simp
  · intro hmid
    apply h.differ
    rw [← List.take_append_drop i a, ← List.take_append_drop i b, hfront,
      ← List.take_append_drop 4 (a.drop i), ← List.take_append_drop 4 (b.drop i), hmid, hback]

/-- Nothing in front of the message hides the difference. -/
theorem crc32_ne (h : Corrupted a b) (head : List UInt8) :
    crc32 (head ++ a) ≠ crc32 (head ++ b) := by
  obtain ⟨front, u, v, back, rfl, rfl, hlen, hwindow, hne⟩ := h.split
  intro hcrc
  have hserial : serialCrc32 (head ++ (front ++ u ++ back)) =
      serialCrc32 (head ++ (front ++ v ++ back)) := by
    rw [← toBitVec_crc32, ← toBitVec_crc32, hcrc]
  simp only [serialCrc32, BitVec.not_inj, List.flatMap_append, serial_append] at hserial
  have hmid := eq_of_serial_eq msb_crcPolynomial
    (by rw [length_flatMap_bitsOfByte, length_flatMap_bitsOfByte, hlen])
    (by rw [length_flatMap_bitsOfByte]; omega) (serial_injective msb_crcPolynomial _ hserial)
  exact hne (flatMap_bitsOfByte_injective hmid)

end Corrupted

/-- A payload that no longer fits the checksum in front of it. -/
theorem WireFrame.Sendable.decode_corrupted {f : WireFrame} (h : f.Sendable)
    {payload : List UInt8} (hc : Corrupted f.payload payload) (rest : List UInt8) :
    decodeFrame ((encode f).take frameHeaderSize ++ payload ++ rest) =
      { status := .badChecksum, error := "checksum mismatch" } := by
  have hhead : (encode f).take frameHeaderSize ++ payload ++ rest =
      framed protocolMagic protocolVersion f.type (UInt32.ofNat f.payload.length) f.checksum
        (payload ++ rest) := by
    rw [encode_eq h.payload, framed, framed, ← List.append_assoc]
    rfl
  have htake : (payload ++ rest).take f.payload.length = payload := by
    rw [hc.length, List.take_left]
  have hcrc : crc32 (frameHead protocolMagic protocolVersion f.type
      (UInt32.ofNat f.payload.length) ++ payload) ≠ f.checksum := Ne.symm (hc.crc32_ne _)
  rw [hhead, h.decode_header, htake, if_neg (by rw [List.length_append, hc.length]; omega),
    if_pos hcrc]

theorem deserializeState_corrupted {st : PersistedState} {body body' footer : List UInt8}
    (hst : serializeState st = .ok (body ++ footer)) (hfooter : footer.length = 4)
    (h : Corrupted body body') (beyond : ℕ → UInt8) :
    deserializeState beyond (body' ++ footer) = .error "payload checksum mismatch" := by
  unfold serializeState at hst
  split at hst
  · cases hst
  simp only [Except.ok.injEq] at hst
  obtain ⟨rfl, rfl⟩ := List.append_inj' hst (by rw [hfooter, length_putU32])
  generalize writeBody st = body at h
  have hlength : (body' ++ putU32 (crc32 body)).length - 4 = body'.length := by
    rw [List.length_append, length_putU32, Nat.add_sub_cancel]
  have hcrc := loadU32_holds (payloadMemory_holds (body' ++ putU32 (crc32 body)) beyond).right
  rw [Nat.zero_add] at hcrc
  unfold deserializeState deserialize
  rw [if_neg (by rw [List.length_append, length_putU32]; omega)]
  dsimp only at hcrc ⊢
  have hne : crc32 body' ≠ crc32 body := Ne.symm (h.crc32_ne [])
  rw [hlength, List.take_left, hcrc, if_pos hne]

/-- Damage within four bytes in a row changes the checksum, so a frame and a saved state
that are damaged so are refused. -/
theorem crc32_detects {a b : List UInt8} (h : Corrupted a b) :
    crc32 a ≠ crc32 b ∧
    (∀ (f : WireFrame) (rest : List UInt8), f.Sendable → f.payload = a →
      (decodeFrame ((encode f).take frameHeaderSize ++ b ++ rest)).status = .badChecksum) ∧
    ∀ (st : PersistedState) (footer : List UInt8) (beyond : ℕ → UInt8), footer.length = 4 →
      serializeState st = .ok (a ++ footer) →
      deserializeState beyond (b ++ footer) = .error "payload checksum mismatch" := by
  refine ⟨h.crc32_ne [], ?_, ?_⟩
  · rintro f rest hs rfl
    rw [hs.decode_corrupted h]
  · intro st footer beyond hfooter hst
    exact deserializeState_corrupted hst hfooter h beyond

theorem crc32_detects_flip :
    (decodeFrame ((encode { payload := List.replicate 20 0 }).take frameHeaderSize ++
      ([1, 0, 0, 7] ++ List.replicate 16 0) ++ [])).status = .badChecksum ∧
    deserializeState (fun _ => 0) ([1, 0, 0, 7] ++ List.replicate 16 0 ++
      putU32 (crc32 (writeBody {}))) = .error "payload checksum mismatch" :=
  have hc : Corrupted (List.replicate 20 0) ([1, 0, 0, 7] ++ List.replicate 16 0) :=
    ⟨rfl, by decide, 0, fun k hk => by
      refine ⟨Nat.zero_le k, ?_⟩
      by_contra hout
      obtain ⟨j, rfl⟩ : ∃ j, k = j + 4 := ⟨k - 4, by omega⟩
      exact hk rfl⟩
  ⟨(crc32_detects hc).2.1 { payload := List.replicate 20 0 } [] ⟨⟨.hello, rfl⟩, by decide⟩ rfl,
    (crc32_detects hc).2.2 {} (putU32 (crc32 (writeBody {}))) (fun _ => 0) rfl rfl⟩

end CxlFabric
