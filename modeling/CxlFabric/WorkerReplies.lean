import CxlFabric.CodecRoundTrip
import CxlFabric.Coordinator

/-! # What a worker reads in a reply

A worker takes a result apart into the identity, the reason and the flag behind them. It
commits and releases by the bytes of the identity it has read. -/
namespace CxlFabric

theorem str_eq_flatMap (s : String) : str s = s.toList.flatMap String.utf8EncodeChar := by
  have hbytes : s.toList.utf8Encode = s.toByteArray := String.utf8Encode_toList
  unfold str
  rw [String.toUTF8, ← hbytes]
  simp [List.utf8Encode]

theorem length_str_le (s : String) : (str s).length ≤ 4 * s.length := by
  have hchars : ∀ n ∈ s.toList.map fun c => (String.utf8EncodeChar c).length, n ≤ 4 := by
    intro n hn
    obtain ⟨c, -, rfl⟩ := List.mem_map.mp hn
    rw [String.length_utf8EncodeChar]
    exact c.utf8Size_le_four
  have hsum := List.sum_le_card_nsmul _ 4 hchars
  rw [List.length_map, String.length_toList, smul_eq_mul, mul_comm] at hsum
  rw [str_eq_flatMap, List.length_flatMap]
  exact hsum

/-- The name of a reservation is within the bound of a string. -/
theorem length_reservationId_le (n : UInt64) :
    (Fabric.reservationId n).value.length ≤ maxString := by
  have hdigits : (decimal n).length ≤ 20 := by
    refine (Nat.length_repr_le_iff (by norm_num)).mpr (n.toNat_lt.trans (by norm_num))
  have hname : (str "res-").length = 4 := rfl
  have hnumber := length_str_le (decimal n)
  simp only [Fabric.reservationId, List.length_append, hname, maxString]
  omega

namespace Worker

/-- The identity and the reason at the front of a result. -/
def getResult : Decoder (Str × UInt32) := do
  let id ← read getStr "result"
  let reason ← read getU32 "result"
  pure (id, reason)

/-- The identity, the reason and the flag of a result; `none` where nothing is printed. -/
def readResult (beyond : ℕ → UInt8) (payload : List UInt8) : Option (Str × UInt32 × UInt8) :=
  match (getResult.run { mem := payloadMemory payload beyond, len := payload.length } 0).1 with
  | .error _ => none
  | .ok ((id, reason), pos) => payload[pos]?.map fun ok => (id, reason, ok)

theorem decodes_getResult {id : Str} (h : id.length < 2 ^ 32) (reason : UInt32) :
    Decodes (id.length ≤ maxString) getResult (putStr id ++ putU32 reason) (id, reason) :=
  (((decodes_getStr h).read "result").bind
    (((decodes_getU32 reason).read "result").bind_pure)).congr (by simp)

/-- A result whose identity is within the bound is read back as it was written. -/
theorem readResult_reserveFrame {type : FrameType} {o : ReserveOutcome}
    (h : o.reservation.id.value.length ≤ maxString) (beyond : ℕ → UInt8) :
    readResult beyond (Coordinator.reserveFrame type o).payload =
      some (o.reservation.id.value, o.reason.toUInt32, if o.ok then 1 else 0) := by
  have hlt := h.trans_lt Persistence.maxString_lt
  have hholds :=
    (Persistence.payloadMemory_holds (Coordinator.reserveFrame type o).payload beyond).left
  have hrun := decodes_getResult hlt o.reason.toUInt32 _ 0 hholds
  unfold readResult
  rcases hrun with ⟨-, hok⟩ | ⟨hlong, -⟩
  · have hflag (w : List UInt8) (x : UInt8) : (w ++ [x])[0 + w.length]? = some x := by simp
    rw [hok]
    dsimp only
    rw [Coordinator.reserveFrame, hflag, Option.map_some]
  · exact absurd h hlong

end Worker

end CxlFabric
