import Mathlib

/-! # Reflected cyclic redundancy checks

The register of a reflected check is a word that is shifted to the right; a one that falls
out adds the polynomial. The shift is linear, and when the polynomial has its highest bit it
loses nothing: the bit that falls out can be read off the highest bit of the result. Bits
that are fed one by one can therefore be added to the register at once, as long as they fit. -/
namespace CxlFabric
namespace ReflectedCrc
variable {w : ℕ} {poly : BitVec w}

def shiftStep (poly c : BitVec w) : BitVec w :=
  if c.getLsbD 0 then poly ^^^ (c >>> 1) else c >>> 1

/-- One bit of the message. -/
def serialStep (poly c : BitVec w) (bit : Bool) : BitVec w :=
  if c.getLsbD 0 ^^ bit then poly ^^^ (c >>> 1) else c >>> 1

def serial (poly c : BitVec w) (bits : List Bool) : BitVec w := bits.foldl (serialStep poly) c

/-- Bits as a word, the first one lowest. -/
def wordOf (w : ℕ) (bits : List Bool) : BitVec w :=
  BitVec.ofFnLE fun i : Fin w => bits.getD i false

/-- The lowest `k` bits. -/
def lowMask (w k : ℕ) : BitVec w := BitVec.allOnes w >>> (w - k)

section words
variable {bits bits' : List Bool}

theorem getLsbD_wordOf (bits : List Bool) (i : ℕ) :
    (wordOf w bits).getLsbD i = (decide (i < w) && bits.getD i false) := by
  by_cases hi : i < w
  · simp [wordOf, hi]
  · rw [BitVec.getLsbD_of_ge _ _ (Nat.le_of_not_lt hi)]
    simp [hi]

theorem wordOf_nil : wordOf w [] = 0#w := by
  apply BitVec.eq_of_getLsbD_eq
  intro i hi
  simp [getLsbD_wordOf]

theorem wordOf_cons (b : Bool) (bits : List Bool) :
    wordOf w (b :: bits) = wordOf w [b] ^^^ (wordOf w bits <<< 1) := by
  apply BitVec.eq_of_getLsbD_eq
  intro i hi
  simp only [BitVec.getLsbD_xor, BitVec.getLsbD_shiftLeft, getLsbD_wordOf]
  cases i with
  | zero => simp
  | succ i => simp [hi, Nat.lt_of_succ_lt hi]

/-- Nothing of a short list stands above it. -/
theorem getLsbD_wordOf_of_length_le {i : ℕ} (h : bits.length ≤ i) :
    (wordOf w bits).getLsbD i = false := by
  rw [getLsbD_wordOf, List.getD_eq_default _ _ h, Bool.and_false]

theorem wordOf_injective (hlen : bits.length = bits'.length) (hw : bits.length ≤ w)
    (h : wordOf w bits = wordOf w bits') : bits = bits' := by
  apply List.ext_getElem hlen
  intro i hi hi'
  have hbit := congrArg (fun x => x.getLsbD i) h
  simp only [getLsbD_wordOf, decide_eq_true (Nat.lt_of_lt_of_le hi hw), Bool.true_and,
    List.getD_eq_getElem _ _ hi, List.getD_eq_getElem _ _ hi'] at hbit
  exact hbit

theorem wordOf_shiftRight (bits : List Bool) : wordOf w bits >>> bits.length = 0#w := by
  apply BitVec.eq_of_getLsbD_eq
  intro i hi
  rw [BitVec.getLsbD_ushiftRight, getLsbD_wordOf_of_length_le (Nat.le_add_right _ _),
    BitVec.getLsbD_zero]

/-- A word is its lowest bits and the others put back in their place. -/
theorem low_xor_high (x : BitVec w) {k : ℕ} (hk : k ≤ w) :
    (x &&& lowMask w k) ^^^ ((x >>> k) <<< k) = x := by
  apply BitVec.eq_of_getLsbD_eq
  intro i hi
  simp only [lowMask, BitVec.getLsbD_xor, BitVec.getLsbD_and, BitVec.getLsbD_shiftLeft,
    BitVec.getLsbD_ushiftRight, BitVec.getLsbD_allOnes]
  by_cases hik : i < k
  · simp [hi, hik, show w - k + i < w by omega]
  · simp [hi, hik, show ¬w - k + i < w by omega, show k + (i - k) = i by omega]

end words

section shifts

theorem getLsbD_shiftStep (c : BitVec w) (i : ℕ) : (shiftStep poly c).getLsbD i =
    ((c.getLsbD 0 && poly.getLsbD i) ^^ c.getLsbD (i + 1)) := by
  unfold shiftStep
  cases hlow : c.getLsbD 0 <;> simp [Nat.add_comm 1 i]

theorem shiftStep_xor (a b : BitVec w) :
    shiftStep poly (a ^^^ b) = shiftStep poly a ^^^ shiftStep poly b := by
  apply BitVec.eq_of_getLsbD_eq
  intro i hi
  simp only [getLsbD_shiftStep, BitVec.getLsbD_xor, Bool.and_xor_distrib_right]
  rw [Bool.xor_assoc, Bool.xor_assoc, Bool.xor_left_comm (b.getLsbD 0 && poly.getLsbD i)]

/-- The bit that falls out is the highest one of the result. -/
theorem msb_shiftStep (hpoly : poly.msb = true) (c : BitVec w) :
    (shiftStep poly c).msb = c.getLsbD 0 := by
  cases w with
  | zero => simp [BitVec.eq_nil poly] at hpoly
  | succ n =>
    rw [BitVec.msb_eq_getLsbD_last] at hpoly ⊢
    rw [getLsbD_shiftStep, hpoly, BitVec.getLsbD_of_ge c (n + 1 - 1 + 1) (by omega),
      Bool.and_true, Bool.xor_false]

theorem shiftStep_injective (hpoly : poly.msb = true) : Function.Injective (shiftStep poly) := by
  intro a b hab
  have hlow : a.getLsbD 0 = b.getLsbD 0 := by
    rw [← msb_shiftStep hpoly a, hab, msb_shiftStep hpoly b]
  apply BitVec.eq_of_getLsbD_eq
  intro i hi
  cases i with
  | zero => exact hlow
  | succ i =>
    have hbit := congrArg (fun x => x.getLsbD i) hab
    simp only [getLsbD_shiftStep, hlow] at hbit
    exact Bool.xor_right_inj.mp hbit

/-- A word whose highest bit is free goes up and comes back. -/
theorem shiftStep_shiftLeft {x : BitVec w} (hx : x.msb = false) : shiftStep poly (x <<< 1) = x := by
  apply BitVec.eq_of_getLsbD_eq
  intro i hi
  simp only [getLsbD_shiftStep, BitVec.getLsbD_shiftLeft]
  by_cases hlast : i + 1 < w
  · simp [hlast]
  · have htop : i = w - 1 := by omega
    rw [BitVec.msb_eq_getLsbD_last, ← htop] at hx
    simp [hlast, hx]

theorem iterate_xor (n : ℕ) (a b : BitVec w) :
    (shiftStep poly)^[n] (a ^^^ b) = (shiftStep poly)^[n] a ^^^ (shiftStep poly)^[n] b := by
  induction n generalizing a b with
  | zero => rfl
  | succ n ih => rw [Function.iterate_succ_apply, shiftStep_xor, ih, Function.iterate_succ_apply,
      Function.iterate_succ_apply]

/-- Bits that leave the lowest `k` places free go up by `k` places and come back. -/
theorem iterate_shiftLeft {x : BitVec w} {k : ℕ} (hx : ∀ i, w ≤ i + k → x.getLsbD i = false) :
    (shiftStep poly)^[k] (x <<< k) = x := by
  induction k with
  | zero => simp
  | succ k ih =>
    have hmsb : (x <<< k).msb = false := by
      rw [BitVec.msb_eq_getLsbD_last, BitVec.getLsbD_shiftLeft, hx _ (by omega), Bool.and_false]
    rw [Function.iterate_succ_apply, BitVec.shiftLeft_add, shiftStep_shiftLeft hmsb]
    exact ih fun i hi => hx i (by omega)

/-- Only the lowest `k` bits meet the polynomial in `k` shifts. -/
theorem iterate_split (x : BitVec w) {k : ℕ} (hk : k ≤ w) :
    (shiftStep poly)^[k] x = (shiftStep poly)^[k] (x &&& lowMask w k) ^^^ (x >>> k) := by
  have hhigh : ∀ i, w ≤ i + k → (x >>> k).getLsbD i = false := by
    intro i hi
    rw [BitVec.getLsbD_ushiftRight, BitVec.getLsbD_of_ge x (k + i) (by omega)]
  conv_lhs => rw [← low_xor_high x hk, iterate_xor, iterate_shiftLeft hhigh]

end shifts

section messages
variable {bits bits' : List Bool}

theorem serialStep_eq (c : BitVec w) (bit : Bool) :
    serialStep poly c bit = shiftStep poly (c ^^^ wordOf w [bit]) := by
  rcases Nat.eq_zero_or_pos w with rfl | hw
  · exact Subsingleton.elim _ _
  · have hlow : (c ^^^ wordOf w [bit]).getLsbD 0 = (c.getLsbD 0 ^^ bit) := by
      rw [BitVec.getLsbD_xor, getLsbD_wordOf, decide_eq_true hw, Bool.true_and]
      rfl
    have hhigh : (c ^^^ wordOf w [bit]) >>> 1 = c >>> 1 := by
      have hgone : wordOf w [bit] >>> 1 = 0#w := wordOf_shiftRight [bit]
      rw [BitVec.ushiftRight_xor_distrib, hgone, BitVec.xor_zero]
    rw [serialStep, shiftStep, hlow, hhigh]

theorem serial_append (c : BitVec w) (bits bits' : List Bool) :
    serial poly c (bits ++ bits') = serial poly (serial poly c bits) bits' := List.foldl_append

/-- Bits that fit into the register can be added to it before the shifts. -/
theorem serial_eq (c : BitVec w) (h : bits.length ≤ w) :
    serial poly c bits = (shiftStep poly)^[bits.length] (c ^^^ wordOf w bits) := by
  induction bits generalizing c with
  | nil => rw [wordOf_nil, BitVec.xor_zero]; rfl
  | cons bit bits ih =>
    have hfree : (wordOf w bits).msb = false := by
      rw [BitVec.msb_eq_getLsbD_last]
      exact getLsbD_wordOf_of_length_le (Nat.le_sub_one_of_lt h)
    calc serial poly c (bit :: bits)
      _ = serial poly (serialStep poly c bit) bits := rfl
      _ = (shiftStep poly)^[bits.length] (serialStep poly c bit ^^^ wordOf w bits) :=
          ih _ (Nat.le_of_succ_le h)
      _ = (shiftStep poly)^[bits.length] (shiftStep poly (c ^^^ wordOf w [bit]) ^^^
            shiftStep poly (wordOf w bits <<< 1)) := by
          rw [serialStep_eq, shiftStep_shiftLeft hfree]
      _ = (shiftStep poly)^[bits.length] (shiftStep poly (c ^^^ wordOf w (bit :: bits))) := by
          rw [← shiftStep_xor, BitVec.xor_assoc, ← wordOf_cons]

/-- A group of bits at once: the shifted table entry of what meets the polynomial. -/
theorem serial_eq_table (c : BitVec w) (h : bits.length ≤ w) : serial poly c bits =
    (shiftStep poly)^[bits.length] ((c ^^^ wordOf w bits) &&& lowMask w bits.length) ^^^
      (c >>> bits.length) := by
  rw [serial_eq c h, iterate_split _ h, BitVec.ushiftRight_xor_distrib, wordOf_shiftRight,
    BitVec.xor_zero]

/-- The register before the message is determined by the one behind it. -/
theorem serial_injective (hpoly : poly.msb = true) (bits : List Bool) :
    Function.Injective fun c => serial poly c bits := by
  induction bits with
  | nil => exact fun a b h => h
  | cons bit bits ih =>
    intro a b h
    have hstep : serialStep poly a bit = serialStep poly b bit := ih h
    rw [serialStep_eq, serialStep_eq] at hstep
    exact (BitVec.xor_left_inj _).mp (shiftStep_injective hpoly hstep)

/-- Messages of one length that fit into the register are told apart. -/
theorem eq_of_serial_eq (hpoly : poly.msb = true) {c : BitVec w}
    (hlen : bits.length = bits'.length) (hw : bits.length ≤ w)
    (h : serial poly c bits = serial poly c bits') : bits = bits' := by
  rw [serial_eq c hw, serial_eq c (hlen ▸ hw), ← hlen] at h
  have hword := (shiftStep_injective hpoly).iterate bits.length h
  exact wordOf_injective hlen hw ((BitVec.xor_right_inj c).mp hword)

end messages

end ReflectedCrc
end CxlFabric
