import CxlFabric.Frames
import CxlFabric.Restart

/-! # The file around a saved payload

A file is a header of twenty bytes (magic, version, a length in two halves and a checksum)
and the payload, written whole and read back whole. The reader does not look at the high
half of the length, which the writer leaves at zero. -/
namespace CxlFabric
namespace Persistence

def persistMagic : UInt32 := 0x43584C50

def persistVersion : UInt32 := 1

def persistEnvelopeSize : ℕ := 20

/-- The header up to the checksum. -/
def persistHead (magic version len32 high : UInt32) : List UInt8 :=
  putU32 magic ++ putU32 version ++ putU32 len32 ++ putU32 high

/-- The contents of the file after a completed write. -/
def writePersisted (payload : List UInt8) : Except String (List UInt8) :=
  if payload.length > maxPersistPayload then .error "payload too large"
  else
    let head := persistHead persistMagic persistVersion (UInt32.ofNat payload.length) 0
    .ok (head ++ putU32 (crc32 (head ++ payload)) ++ payload)

def readPersisted (file : List UInt8) : Except String (List UInt8) :=
  if file.length < persistEnvelopeSize then .error "truncated header"
  else
    let magic := loadU32 fun i => file.getD i 0
    let version := loadU32 fun i => file.getD (4 + i) 0
    let len32 := loadU32 fun i => file.getD (8 + i) 0
    if magic ≠ persistMagic then .error "bad magic"
    else if version ≠ persistVersion then .error "bad version"
    else if len32.toNat > maxPersistPayload then .error "oversized payload"
    else
      let payload := (file.drop persistEnvelopeSize).take len32.toNat
      if payload.length ≠ len32.toNat then .error "truncated payload"
      else if file.length > persistEnvelopeSize + len32.toNat then .error "trailing garbage"
      else if crc32 (file.take 16 ++ payload) ≠ loadU32 (fun i => file.getD (16 + i) 0) then
        .error "checksum mismatch"
      else .ok payload

/-- A file with the words of its header and what follows it. -/
def enveloped (magic version len32 high crc : UInt32) (rest : List UInt8) : List UInt8 :=
  persistHead magic version len32 high ++ putU32 crc ++ rest

/-- The file of a payload, with any high half of the length and the checksum that fits. -/
def envelope (high : UInt32) (payload : List UInt8) : List UInt8 :=
  enveloped persistMagic persistVersion (UInt32.ofNat payload.length) high
    (crc32 (persistHead persistMagic persistVersion (UInt32.ofNat payload.length) high ++ payload))
    payload

section header
variable (magic version len32 high crc : UInt32) (rest : List UInt8)

theorem length_enveloped : (enveloped magic version len32 high crc rest).length =
    persistEnvelopeSize + rest.length := by
  simp only [enveloped, persistHead, List.length_append, length_putU32, persistEnvelopeSize]

/-- Reading in terms of the words of the header: the high half is only checksummed. -/
theorem readPersisted_enveloped : readPersisted (enveloped magic version len32 high crc rest) =
    if magic ≠ persistMagic then .error "bad magic"
    else if version ≠ persistVersion then .error "bad version"
    else if len32.toNat > maxPersistPayload then .error "oversized payload"
    else if rest.length < len32.toNat then .error "truncated payload"
    else if rest.length > len32.toNat then .error "trailing garbage"
    else if crc32 (persistHead magic version len32 high ++ rest) ≠ crc then
      .error "checksum mismatch"
    else .ok rest := by
  have hdrop : (enveloped magic version len32 high crc rest).drop persistEnvelopeSize = rest := rfl
  have htake : (enveloped magic version len32 high crc rest).take 16 =
      persistHead magic version len32 high := rfl
  have hmagic : (loadU32 fun i => (enveloped magic version len32 high crc rest).getD i 0) = magic :=
    loadU32_putU32 magic
  have hversion : (loadU32 fun i => (enveloped magic version len32 high crc rest).getD (4 + i) 0) =
      version := loadU32_putU32 version
  have hlen : (loadU32 fun i => (enveloped magic version len32 high crc rest).getD (8 + i) 0) =
      len32 := loadU32_putU32 len32
  have hcrc : (loadU32 fun i => (enveloped magic version len32 high crc rest).getD (16 + i) 0) =
      crc := loadU32_putU32 crc
  unfold readPersisted
  rw [length_enveloped, if_neg (by omega)]
  simp only [hmagic, hversion, hlen, hcrc, hdrop, htake, List.length_take, gt_iff_lt,
    Nat.add_lt_add_iff_left]
  rcases Nat.lt_trichotomy rest.length len32.toNat with hshort | hexact | hlong
  · rw [if_pos (show min len32.toNat rest.length ≠ len32.toNat by omega), if_pos hshort]
  · rw [← hexact, List.take_length, Nat.min_self]
    simp only [ne_eq, not_true_eq_false, if_false, Nat.lt_irrefl]
  · rw [if_neg (show ¬min len32.toNat rest.length ≠ len32.toNat by omega), if_pos hlong,
      if_neg (Nat.lt_asymm hlong), if_pos hlong]

end header

/-- Twenty bytes are the header of some file. -/
theorem eq_enveloped {b : List UInt8} (h : persistEnvelopeSize ≤ b.length) :
    ∃ magic version len32 high crc,
      b = enveloped magic version len32 high crc (b.drop persistEnvelopeSize) := by
  let at_ (k : ℕ) (i : ℕ) : UInt8 := b.getD (k + i) 0
  refine ⟨loadU32 (at_ 0), loadU32 (at_ 4), loadU32 (at_ 8), loadU32 (at_ 12), loadU32 (at_ 16), ?_⟩
  have hhead : b.take persistEnvelopeSize = persistHead (loadU32 (at_ 0)) (loadU32 (at_ 4))
      (loadU32 (at_ 8)) (loadU32 (at_ 12)) ++ putU32 (loadU32 (at_ 16)) := by
    rw [take_eq_map_getD h]
    simp only [persistHead, putU32_loadU32, at_]
    rfl
  rw [enveloped, ← hhead, List.take_append_drop]

section reading
variable {b p : List UInt8}

theorem toNat_length (h : p.length ≤ maxPersistPayload) :
    (UInt32.ofNat p.length).toNat = p.length :=
  UInt32.toNat_ofNat_of_lt' (lt_of_le_of_lt h (by decide))

theorem writePersisted_eq_ok_iff :
    writePersisted p = .ok b ↔ p.length ≤ maxPersistPayload ∧ b = envelope 0 p := by
  unfold writePersisted
  split
  · next hlong => exact iff_of_false (by simp) fun h => absurd h.1 (Nat.not_le.mpr hlong)
  · next hshort =>
    rw [Except.ok.injEq, and_iff_right (Nat.le_of_not_lt hshort)]
    exact eq_comm

/-- The files that are read are the envelopes, with any high half of the length. -/
theorem readPersisted_eq_ok_iff : readPersisted b = .ok p ↔
    p.length ≤ maxPersistPayload ∧ ∃ high, b = envelope high p := by
  constructor
  · intro h
    by_cases hshort : b.length < persistEnvelopeSize
    · rw [readPersisted, if_pos hshort] at h
      cases h
    obtain ⟨magic, version, len32, high, crc, hb⟩ := eq_enveloped (Nat.le_of_not_lt hshort)
    generalize b.drop persistEnvelopeSize = rest at hb
    subst hb
    rw [readPersisted_enveloped] at h
    split_ifs at h with hmagic hversion hmax htrunc htrail hcrc
    cases h
    rw [not_not] at hmagic hversion hcrc
    have hlen : p.length = len32.toNat := by omega
    refine ⟨by omega, high, ?_⟩
    rw [envelope, hlen, UInt32.ofNat_toNat, hmagic, hversion, ← hcrc, hmagic, hversion]
  · rintro ⟨hlen, high, rfl⟩
    rw [envelope, readPersisted_enveloped, toNat_length hlen, if_neg (by simp), if_neg (by simp),
      if_neg (Nat.not_lt.mpr hlen), if_neg (Nat.lt_irrefl _), if_neg (Nat.lt_irrefl _),
      if_neg (by simp)]

theorem envelope_injective (p : List UInt8) : Function.Injective fun high => envelope high p := by
  intro high high' h
  have hword := congrArg (fun b => loadU32 fun i => b.getD (12 + i) 0) h
  have hload (v : UInt32) : (loadU32 fun i => (envelope v p).getD (12 + i) 0) = v :=
    loadU32_putU32 v
  simpa only [hload] using hword

/-- A file is read exactly as it is written, unless it is an envelope of the payload whose
length has a high half. -/
theorem persisted_exact_iff (b p : List UInt8) :
    (readPersisted b = .ok p ↔ p.length ≤ maxPersistPayload ∧ writePersisted p = .ok b) ↔
      ∀ high, p.length ≤ maxPersistPayload → b = envelope high p → high = 0 := by
  rw [readPersisted_eq_ok_iff, writePersisted_eq_ok_iff]
  constructor
  · rintro h high hlen rfl
    have hzero := (h.mp ⟨hlen, high, rfl⟩).2.2
    exact envelope_injective p hzero
  · intro h
    constructor
    · rintro ⟨hlen, high, rfl⟩
      refine ⟨hlen, hlen, ?_⟩
      rw [h high hlen rfl]
    · rintro ⟨hlen, -, rfl⟩
      exact ⟨hlen, 0, rfl⟩

/-- The file of an empty payload with a length of `2 ^ 32`. -/
theorem reads_high_length : ¬∀ b p : List UInt8,
    readPersisted b = .ok p ↔ p.length ≤ maxPersistPayload ∧ writePersisted p = .ok b := by
  intro h
  have hread : readPersisted (envelope 1 []) = .ok [] :=
    readPersisted_eq_ok_iff.mpr ⟨by decide, 1, rfl⟩
  have hwrite := (writePersisted_eq_ok_iff.mp ((h _ _).mp hread).2).2
  exact absurd (envelope_injective [] hwrite) (by decide)

/-- The file between the two processes changes nothing. -/
theorem recover_through_file (beyond : ℕ → UInt8) (f : Fabric) : f.recover beyond =
    (do let payload ← serializeState f.exportPersisted
        let file ← writePersisted payload
        let contents ← readPersisted file
        deserializeState beyond contents) := by
  have hbind {α β : Type} (a : α) (k : α → Except String β) : (Except.ok a >>= k) = k a := rfl
  unfold Fabric.recover
  rcases serializeState f.exportPersisted with err | payload
  · rfl
  · rw [hbind]
    by_cases hlong : payload.length > maxPersistPayload
    · rw [writePersisted, if_pos hlong]
      exact if_pos hlong
    · have hlen := Nat.le_of_not_lt hlong
      rw [writePersisted_eq_ok_iff.mpr ⟨hlen, rfl⟩, hbind,
        readPersisted_eq_ok_iff.mpr ⟨hlen, 0, rfl⟩, hbind]
      exact if_neg hlong

end reading

end Persistence
end CxlFabric
