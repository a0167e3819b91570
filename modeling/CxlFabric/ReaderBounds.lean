import CxlFabric.Codec
import CxlFabric.Persistence

/-! # Where the readers read

The check before a field subtracts the width from the length of the buffer. It is exact
when the buffer is at least as long as the field; when it is shorter the difference wraps
around, the check passes, and bytes behind the end are read. -/
namespace CxlFabric

namespace Buffer
variable {b : Buffer} {pos n : ℕ}

theorem fits_of_le (h : n ≤ b.len) : b.fits pos n = true ↔ pos + n ≤ b.len := by
  simp only [fits, sizeSub, if_pos h, Bool.not_eq_true', Bool.or_eq_false_iff,
    decide_eq_false_iff_not]
  omega

theorem fits_of_lt (h : b.len < n) (hn : n < 2 ^ 64) : b.fits pos n = true ↔ pos ≤ b.len := by
  simp only [fits, sizeSub, if_neg (Nat.not_le.mpr h), Bool.not_eq_true', Bool.or_eq_false_iff,
    decide_eq_false_iff_not]
  omega

/-- The byte at `i` is read: it belongs to a field that has passed its check. -/
def Reads (b : Buffer) (asked : List Field) (i : ℕ) : Prop :=
  ∃ f ∈ asked, b.fits f.pos f.width = true ∧ f.pos ≤ i ∧ i < f.pos + f.width

/-- No byte at an index from `bound` on is read. -/
def ReadsBelow (b : Buffer) (bound : ℕ) (asked : List Field) : Prop :=
  ∀ i, b.Reads asked i → i < bound

theorem readsBelow_nil (b : Buffer) (bound : ℕ) : b.ReadsBelow bound [] := by
  rintro i ⟨f, hf, -⟩
  cases hf

theorem readsBelow_cons {bound : ℕ} {f : Field} {asked : List Field} :
    b.ReadsBelow bound (f :: asked) ↔
      (b.fits f.pos f.width = true → 0 < f.width → f.pos + f.width ≤ bound) ∧
      b.ReadsBelow bound asked := by
  constructor
  · intro h
    refine ⟨?_, ?_⟩
    · intro hfits hpos
      have hlast := h (f.pos + f.width - 1) ⟨f, List.mem_cons_self, hfits, by omega, by omega⟩
      omega
    · rintro i ⟨g, hg, hi⟩
      exact h i ⟨g, List.mem_cons_of_mem f hg, hi⟩
  · rintro ⟨hf, hrest⟩ i ⟨g, hg, hfits, hlow, hhigh⟩
    rcases List.mem_cons.mp hg with rfl | hg
    · have hbound := hf hfits (by omega)
      omega
    · exact hrest i ⟨g, hg, hfits, hlow, hhigh⟩

end Buffer

/-- A trail that starts inside stays inside exactly if no field is wider than the buffer.
The bound may be behind the end by as much as the trail has behind it at its start. -/
theorem Trail.readsBelow_iff {b : Buffer} {pos : ℕ} {asked : List Field} {last : Option ℕ}
    (h : Trail b pos asked last) (hpos : pos ≤ b.len) {k : ℕ} (hk : k ≤ pos) :
    b.ReadsBelow (b.len + k) asked ↔ ∀ f ∈ asked, f.width ≤ b.len := by
  induction h with
  | done pos => exact ⟨nofun, fun _ => b.readsBelow_nil _⟩
  | stopped pos => exact ⟨nofun, fun _ => b.readsBelow_nil _⟩
  | @refused f check =>
    rw [Buffer.readsBelow_cons]
    constructor
    · intro _ g hg
      rw [List.mem_singleton.mp hg]
      -- A field that is too wide would have passed.
      by_contra hwide
      rw [(Buffer.fits_of_lt (Nat.not_le.mp hwide) f.size).mpr hpos] at check
      cases check
    · intro _
      refine ⟨?_, b.readsBelow_nil _⟩
      intro hfits
      rw [check] at hfits
      cases hfits
  | @passed f asked last check rest ih =>
    rw [Buffer.readsBelow_cons, List.forall_mem_cons]
    have hnarrow (hle : f.width ≤ b.len) : f.pos + f.width ≤ b.len :=
      (Buffer.fits_of_le hle).mp check
    constructor
    · rintro ⟨hf, hrest⟩
      have hle : f.width ≤ b.len := by
        by_contra hwide
        have hbound := hf check (by omega)
        omega
      exact ⟨hle, (ih (hnarrow hle) (by omega)).mp hrest⟩
    · rintro ⟨hle, hall⟩
      have hinside := hnarrow hle
      exact ⟨fun _ _ => by omega, (ih hinside (by omega)).mpr hall⟩

/-- Behind the end every check fails. -/
theorem Trail.readsBelow_of_lt {b : Buffer} {pos : ℕ} {asked : List Field} {last : Option ℕ}
    (h : Trail b pos asked last) (hpos : b.len < pos) (bound : ℕ) : b.ReadsBelow bound asked := by
  have hfails {f : Field} (hf : b.len < f.pos) : b.fits f.pos f.width = false := by
    simp [Buffer.fits, hf]
  cases h with
  | done => exact b.readsBelow_nil _
  | stopped => exact b.readsBelow_nil _
  | refused check =>
    rw [Buffer.readsBelow_cons]
    refine ⟨?_, b.readsBelow_nil _⟩
    intro hfits
    rw [check] at hfits
    cases hfits
  | passed check rest =>
    rw [hfails hpos] at check
    cases check

/-- A reader of `n` bytes succeeds exactly if they lie inside, and reads nothing else. -/
def ReadsField {α : Type} (r : Reader α) (n : ℕ) (b : Buffer) (pos : ℕ) : Prop :=
  ((r.run b pos).1.isOk = true ↔ pos + n ≤ b.len) ∧ b.ReadsBelow b.len (r.run b pos).2

/-- The length that a string at the position announces. -/
abbrev announced (b : Buffer) (pos : ℕ) : ℕ := (loadU32 fun i => b.mem (pos + i)).toNat

/-- A string is accepted only if its length and its bytes lie inside, and nothing else is
read. -/
def ReadsString (b : Buffer) (pos : ℕ) : Prop :=
  ((getStr.run b pos).1.isOk = true → pos + 4 ≤ b.len ∧ pos + 4 + announced b pos ≤ b.len) ∧
    b.ReadsBelow b.len (getStr.run b pos).2

section readers
variable {b : Buffer} {pos : ℕ}

theorem readsField_getWord_iff {α : Type} {n : ℕ} (size : n < 2 ^ 64) (load : (ℕ → UInt8) → α)
    (hpos : pos ≤ b.len) : ReadsField (getWord n size load) n b pos ↔ n ≤ b.len := by
  have hinside := ((getWord n size load).trail b pos).readsBelow_iff hpos (Nat.zero_le pos)
  rw [Nat.add_zero] at hinside
  rw [ReadsField, hinside, run_getWord]
  simp only [List.mem_singleton, forall_eq]
  constructor
  · rintro ⟨-, hle⟩
    exact hle
  · intro hle
    refine ⟨?_, hle⟩
    rw [← Buffer.fits_of_le hle]
    split
    · next hfits => exact ⟨fun _ => hfits, fun _ => rfl⟩
    · next hfits => exact ⟨nofun, fun h => absurd h hfits⟩

/-- The run of a string reader: the length, and its bytes if it is within the bound. -/
theorem run_getStr : getStr.run b pos =
    if b.fits pos 4 ∧ announced b pos ≤ maxString then
      (((getBytes (announced b pos) (toNat_lt_size _)).run b (pos + 4)).1,
        [⟨pos, 4, by norm_num⟩, ⟨pos + 4, announced b pos, toNat_lt_size _⟩])
    else (.error (), [⟨pos, 4, by norm_num⟩]) := by
  by_cases hfits : b.fits pos 4 = true
  · have hlength : getU32.run b pos =
        (.ok (loadU32 fun i => b.mem (pos + i), pos + 4), [⟨pos, 4, by norm_num⟩]) := by
      rw [getU32, run_getWord, if_pos hfits]
    rw [getStr, ByteDecoder.run_bind, ByteDecoder.andThen, hlength]
    dsimp only
    by_cases hmax : announced b pos ≤ maxString
    · rw [if_neg (Nat.not_lt.mpr hmax), if_pos ⟨hfits, hmax⟩]
      simp only [getBytes, run_getWord]
      rfl
    · rw [if_pos (Nat.not_le.mp hmax), if_neg fun h => hmax h.2]
      rfl
  · have hlength : getU32.run b pos = (.error (), [⟨pos, 4, by norm_num⟩]) := by
      rw [getU32, run_getWord, if_neg hfits]
    rw [getStr, ByteDecoder.run_bind, ByteDecoder.andThen, hlength, if_neg fun h => hfits h.1]

theorem readsString_iff (hpos : pos ≤ b.len) : ReadsString b pos ↔
    4 ≤ b.len ∧ (pos + 4 ≤ b.len → announced b pos ≤ maxString → announced b pos ≤ b.len) := by
  have hinside := (getStr.trail b pos).readsBelow_iff hpos (Nat.zero_le pos)
  rw [Nat.add_zero] at hinside
  rw [ReadsString, hinside, run_getStr]
  by_cases hread : b.fits pos 4 ∧ announced b pos ≤ maxString
  · rw [if_pos hread]
    simp only [List.forall_mem_cons, List.not_mem_nil, false_imp_iff, implies_true, and_true]
    constructor
    · rintro ⟨-, hfour, hbytes⟩
      exact ⟨hfour, fun _ _ => hbytes⟩
    · rintro ⟨hfour, hbytes⟩
      have hlength : pos + 4 ≤ b.len := (Buffer.fits_of_le hfour).mp hread.1
      have hle := hbytes hlength hread.2
      refine ⟨?_, hfour, hle⟩
      intro hok
      refine ⟨hlength, ?_⟩
      unfold getBytes at hok
      rw [run_getWord] at hok
      split at hok
      · next hfits => exact (Buffer.fits_of_le hle).mp hfits
      · cases hok
  · rw [if_neg hread]
    simp only [List.mem_singleton, forall_eq]
    constructor
    · rintro ⟨-, hfour⟩
      refine ⟨hfour, ?_⟩
      intro hlength hmax
      exact absurd ⟨(Buffer.fits_of_le hfour).mpr hlength, hmax⟩ hread
    · rintro ⟨hfour, -⟩
      refine ⟨?_, hfour⟩
      intro hok
      cases hok

end readers

/-- A payload in memory. -/
def payloadBuffer (beyond : ℕ → UInt8) (payload : List UInt8) : Buffer where
  mem := payloadMemory payload beyond
  len := payload.length

namespace Codec

/-- Nothing outside the payload is read. -/
def DecodesInside {α : Type} (d : Decoder α) (err : String) (beyond : ℕ → UInt8)
    (payload : List UInt8) : Prop :=
  (payloadBuffer beyond payload).ReadsBelow payload.length (decodeRun d err beyond payload).2

theorem asked_decodeRun {α : Type} (d : Decoder α) (err : String) (beyond : ℕ → UInt8)
    (payload : List UInt8) :
    (decodeRun d err beyond payload).2 = (d.run (payloadBuffer beyond payload) 0).2 := by
  unfold decodeRun payloadBuffer
  generalize d.run _ 0 = out
  rcases out with ⟨_ | r, asked⟩ <;> rfl

theorem decodesInside_iff {α : Type} (d : Decoder α) (err : String) (beyond : ℕ → UInt8)
    (payload : List UInt8) : DecodesInside d err beyond payload ↔
      ∀ f ∈ (decodeRun d err beyond payload).2, f.width ≤ payload.length := by
  rw [DecodesInside, asked_decodeRun]
  exact (d.trail (payloadBuffer beyond payload) 0).readsBelow_iff (Nat.zero_le _) (le_refl 0)

end Codec

namespace Persistence

/-- The part of a payload that the reader is given; the checksum lies behind it. -/
def bodyBuffer (beyond : ℕ → UInt8) (payload : List UInt8) : Buffer where
  mem := payloadMemory payload beyond
  len := payload.length - 4

/-- The payload has a checksum, and it is the right one. -/
def Checked (payload : List UInt8) : Prop :=
  4 ≤ payload.length ∧ crc32 (payload.take (payload.length - 4)) =
    loadU32 fun i => payload.getD (payload.length - 4 + i) 0

/-- Nothing outside the payload is read. -/
def DeserializesInside (beyond : ℕ → UInt8) (payload : List UInt8) : Prop :=
  (bodyBuffer beyond payload).ReadsBelow payload.length (deserialize beyond payload).2

theorem payloadMemory_eq (beyond : ℕ → UInt8) (payload : List UInt8) {i : ℕ}
    (hi : i < payload.length) : payloadMemory payload beyond i = payload.getD i 0 := by
  rw [payloadMemory, dif_pos hi, List.getD_eq_getElem?_getD, List.getElem?_eq_getElem hi]
  rfl

/-- The checksum at the end of a payload. -/
theorem load_checksum (beyond : ℕ → UInt8) {payload : List UInt8} (hlen : 4 ≤ payload.length) :
    loadU32 (fun i => payloadMemory payload beyond (payload.length - 4 + i)) =
      loadU32 fun i => payload.getD (payload.length - 4 + i) 0 := by
  apply loadU32_congr
  intro i hi
  exact payloadMemory_eq beyond payload (by omega)

theorem asked_deserialize_of_checked {beyond : ℕ → UInt8} {payload : List UInt8}
    (h : Checked payload) :
    (deserialize beyond payload).2 = (readBody.run (bodyBuffer beyond payload) 0).2 := by
  obtain ⟨hlen, hcrc⟩ := h
  unfold deserialize
  rw [if_neg (Nat.not_lt.mpr hlen)]
  dsimp only
  rw [if_neg (by rw [load_checksum beyond hlen, hcrc]; simp)]
  change _ = (readBody.run { mem := payloadMemory payload beyond, len := payload.length - 4 } 0).2
  generalize readBody.run _ 0 = out
  rcases out with ⟨_ | r, asked⟩ <;> rfl

theorem asked_deserialize_of_not_checked {beyond : ℕ → UInt8} {payload : List UInt8}
    (h : ¬Checked payload) : (deserialize beyond payload).2 = [] := by
  unfold deserialize
  split
  · rfl
  next hlen =>
  dsimp only
  split
  · rfl
  next hcrc =>
  rw [load_checksum beyond (Nat.le_of_not_lt hlen), not_not] at hcrc
  exact absurd ⟨Nat.le_of_not_lt hlen, hcrc⟩ h

/-- The policy generation is the first field of a payload. -/
theorem asked_readBody (b : Buffer) : ∃ asked last,
    (readBody.run b 0).2 = ⟨0, 8, by norm_num⟩ :: asked ∧
      (b.fits 0 8 = true → Trail b 8 asked last) := by
  by_cases hfits : b.fits 0 8 = true
  · have hfirst : (read getU64 "missing policy generation").run b 0 =
        (.ok (loadU64 fun i => b.mem (0 + i), 8), [⟨0, 8, by norm_num⟩]) := by
      simp only [read, getU64, run_getWord, if_pos hfits]
    unfold readBody
    rw [ByteDecoder.run_bind, ByteDecoder.andThen, hfirst]
    exact ⟨_, _, rfl, fun _ => ByteDecoder.trail _ b 8⟩
  · have hfirst : (read getU64 "missing policy generation").run b 0 =
        (.error "missing policy generation", [⟨0, 8, by norm_num⟩]) := by
      simp only [read, getU64, run_getWord, if_neg hfits]
    unfold readBody
    rw [ByteDecoder.run_bind, ByteDecoder.andThen, hfirst]
    exact ⟨[], none, rfl, fun h => absurd h hfits⟩

/-- With a body of four to seven bytes the first field ends with the checksum, and every
check behind it fails. -/
theorem deserializesInside_iff (beyond : ℕ → UInt8) (payload : List UInt8) :
    DeserializesInside beyond payload ↔
      (Checked payload → 8 ≤ payload.length ∧ (12 ≤ payload.length →
        ∀ f ∈ (deserialize beyond payload).2, f.width ≤ payload.length - 4)) := by
  by_cases hchecked : Checked payload
  case neg =>
    rw [DeserializesInside, asked_deserialize_of_not_checked hchecked]
    exact ⟨fun _ h => absurd h hchecked, fun _ => Buffer.readsBelow_nil _ _⟩
  have hlen := hchecked.1
  rw [DeserializesInside, asked_deserialize_of_checked hchecked]
  generalize hb : bodyBuffer beyond payload = b
  have hblen : b.len + 4 = payload.length := by
    rw [← hb]
    exact Nat.sub_add_cancel hlen
  obtain ⟨asked, last, hasked, htrail⟩ := asked_readBody b
  rw [hasked, Buffer.readsBelow_cons, List.forall_mem_cons]
  have hbody : payload.length - 4 = b.len := by omega
  rw [hbody, ← hblen]
  rcases Nat.lt_or_ge b.len 8 with hshort | hlong
  · -- The first field is wider than the body.
    have hfits : b.fits 0 8 = true := (Buffer.fits_of_lt hshort (by norm_num)).mpr (Nat.zero_le _)
    have hrest := (htrail hfits).readsBelow_of_lt hshort (b.len + 4)
    constructor
    · rintro ⟨hfirst, -⟩ -
      have := hfirst hfits (by norm_num)
      exact ⟨by omega, fun h => by omega⟩
    · intro h
      have := (h hchecked).1
      exact ⟨fun _ _ => by omega, hrest⟩
  · have hfits : b.fits 0 8 = true := (Buffer.fits_of_le hlong).mpr (by omega)
    rw [(htrail hfits).readsBelow_iff hlong (by norm_num)]
    constructor
    · rintro ⟨-, hall⟩ -
      exact ⟨by omega, fun _ => ⟨hlong, hall⟩⟩
    · intro h
      refine ⟨?_, ((h hchecked).2 (by omega)).2⟩
      intro _ _
      dsimp only
      omega

end Persistence

/-- Exactly when the readers and the decoders built from them stay inside. -/
theorem readers_stay_inside_iff {b : Buffer} {pos : ℕ} (hpos : pos ≤ b.len)
    (beyond : ℕ → UInt8) (payload : List UInt8) :
    (ReadsField getU8 1 b pos ↔ 1 ≤ b.len) ∧ (ReadsField getU16 2 b pos ↔ 2 ≤ b.len) ∧
    (ReadsField getU32 4 b pos ↔ 4 ≤ b.len) ∧ (ReadsField getU64 8 b pos ↔ 8 ≤ b.len) ∧
    (∀ n (size : n < 2 ^ 64), ReadsField (getBytes n size) n b pos ↔ n ≤ b.len) ∧
    (ReadsString b pos ↔ 4 ≤ b.len ∧
      (pos + 4 ≤ b.len → announced b pos ≤ maxString → announced b pos ≤ b.len)) ∧
    (Codec.DecodesInside Codec.getReserve "decode_reserve" beyond payload ↔
      ∀ f ∈ (Codec.decodeRun Codec.getReserve "decode_reserve" beyond payload).2,
        f.width ≤ payload.length) ∧
    (Codec.DecodesInside Codec.getDevice "decode_device" beyond payload ↔
      ∀ f ∈ (Codec.decodeRun Codec.getDevice "decode_device" beyond payload).2,
        f.width ≤ payload.length) ∧
    (Codec.DecodesInside Codec.getPool "decode_pool" beyond payload ↔
      ∀ f ∈ (Codec.decodeRun Codec.getPool "decode_pool" beyond payload).2,
        f.width ≤ payload.length) ∧
    (Codec.DecodesInside Codec.getRegion "decode_region" beyond payload ↔
      ∀ f ∈ (Codec.decodeRun Codec.getRegion "decode_region" beyond payload).2,
        f.width ≤ payload.length) ∧
    (Persistence.DeserializesInside beyond payload ↔
      (Persistence.Checked payload → 8 ≤ payload.length ∧ (12 ≤ payload.length →
        ∀ f ∈ (Persistence.deserialize beyond payload).2, f.width ≤ payload.length - 4))) :=
  ⟨readsField_getWord_iff _ _ hpos, readsField_getWord_iff _ _ hpos,
    readsField_getWord_iff _ _ hpos, readsField_getWord_iff _ _ hpos,
    fun _ size => readsField_getWord_iff size _ hpos, readsString_iff hpos,
    Codec.decodesInside_iff _ _ _ _, Codec.decodesInside_iff _ _ _ _,
    Codec.decodesInside_iff _ _ _ _, Codec.decodesInside_iff _ _ _ _,
    Persistence.deserializesInside_iff beyond payload⟩

/-- A word of four bytes in a buffer of four, and a request that announces what it has. -/
theorem readers_stay_inside_iff_exact :
    0 ≤ 4 ∧ ReadsField getU32 4 { mem := fun _ => 0, len := 4 } 0 ∧
    Codec.DecodesInside Codec.getReserve "decode_reserve" (fun _ => 0)
      [0, 0, 0, 0, 0, 0, 0, 0, 0, 0, 0, 1, 65] := by
  have hiff := readers_stay_inside_iff (b := { mem := fun _ => 0, len := 4 }) (Nat.zero_le 4)
    (fun _ => 0) [0, 0, 0, 0, 0, 0, 0, 0, 0, 0, 0, 1, 65]
  obtain ⟨-, -, hword, -, -, -, hreserve, -⟩ := hiff
  exact ⟨by norm_num, hword.mpr (by norm_num), hreserve.mpr (by decide)⟩

/-- A word of four bytes is read from a buffer of three, and a consumer of a hundred bytes
from a request of twelve. -/
theorem short_buffer_is_overread :
    ¬ReadsField getU32 4 { mem := fun _ => 0, len := 3 } 0 ∧
    ¬Codec.DecodesInside Codec.getReserve "decode_reserve" (fun _ => 0)
      [0, 0, 0, 0, 0, 0, 0, 0, 0, 0, 0, 100] := by
  refine ⟨?_, ?_⟩
  · unfold getU32
    rw [readsField_getWord_iff _ _ (by norm_num)]
    norm_num
  · rw [Codec.decodesInside_iff]
    decide

end CxlFabric
