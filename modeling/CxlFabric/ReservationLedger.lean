import CxlFabric.Reservations
import CxlFabric.TwoCounterLedger

/-! # The bytes that reservations hold

A pool and a region keep two counters each, and the reservations keep the bytes. The
counters of one record are balanced when they agree with the reservations on it; booking,
committing and releasing one reservation keep a balanced pair balanced. -/
namespace CxlFabric

def Reservation.live (r : Reservation) : Bool := r.state = .reserved ∨ r.state = .committed

/-- The bytes a reservation holds if it counts for the record. -/
def liveBytes (on : Reservation → Bool) (r : Reservation) : ℕ :=
  if on r && r.live then r.bytes.toNat else 0

/-- The bytes of a reservation that has not been committed. -/
def pendingBytes (on : Reservation → Bool) (r : Reservation) : ℕ :=
  if on r && r.state = .reserved then r.bytes.toNat else 0

def onPool (id : PoolId) (r : Reservation) : Bool := r.pool = id

def onRegion (id : RegionId) (r : Reservation) : Bool := r.region = id

theorem pendingBytes_le_liveBytes (on : Reservation → Bool) (r : Reservation) :
    pendingBytes on r ≤ liveBytes on r := by
  unfold pendingBytes liveBytes Reservation.live
  split
  · next h =>
    simp only [Bool.and_eq_true, decide_eq_true_eq] at h
    simp [h.1, h.2]
  · exact Nat.zero_le _

section off
variable {on : Reservation → Bool} {r : Reservation}

theorem liveBytes_off (h : on r = false) : liveBytes on r = 0 := by simp [liveBytes, h]

theorem pendingBytes_off (h : on r = false) : pendingBytes on r = 0 := by simp [pendingBytes, h]

end off

namespace Fabric

/-- Two counters against the reservations that `on` selects. -/
def Accounts (m : Map ReservationId Reservation) (on : Reservation → Bool)
    (reserved committed : ByteCount) : Prop :=
  Balanced reserved.toNat committed.toNat (sumBy (liveBytes on) m) (sumBy (pendingBytes on) m)

/-- A drain that the two counters cover leaves no remainder. -/
theorem drain_spec {bytes committed reserved : ByteCount}
    (h : bytes.toNat - min bytes.toNat committed.toNat ≤ reserved.toNat) :
    (drain bytes committed reserved).remaining = 0 ∧
    (drain bytes committed reserved).committed.toNat =
      committed.toNat - min bytes.toNat committed.toNat ∧
    (drain bytes committed reserved).reserved.toNat =
      reserved.toNat - (bytes.toNat - min bytes.toNat committed.toNat) := by
  have hzero : (0 : ByteCount).toNat = 0 := rfl
  generalize htake : (if bytes > 0 ∧ committed > 0 then (if bytes < committed then bytes else committed)
    else 0 : ByteCount) = take
  have htakeNat : take.toNat = min bytes.toNat committed.toNat := by
    rw [← htake]
    simp only [gt_iff_lt, UInt64.lt_iff_toNat_lt, hzero]
    split
    · split <;> omega
    · rw [hzero]; omega
  have hrest : (bytes - take).toNat = bytes.toNat - min bytes.toNat committed.toNat := by
    rw [UInt64.toNat_sub_of_le, htakeNat]
    rw [UInt64.le_iff_toNat_le]
    omega
  have hcommitted : (committed - take).toNat = committed.toNat - min bytes.toNat committed.toNat := by
    rw [UInt64.toNat_sub_of_le, htakeNat]
    rw [UInt64.le_iff_toNat_le]
    omega
  simp only [drain, htake]
  split
  · next hpos =>
    refine ⟨rfl, hcommitted, ?_⟩
    rw [UInt64.toNat_sub_of_le _ _ hpos.2, hrest]
  · next hpos =>
    have hnone : (bytes - take).toNat = 0 := by
      simp only [gt_iff_lt, UInt64.lt_iff_toNat_lt, UInt64.le_iff_toNat_le, hzero] at hpos
      omega
    refine ⟨UInt64.toNat_inj.mp hnone, hcommitted, ?_⟩
    dsimp only
    omega

namespace Accounts
variable {m : Map ReservationId Reservation} {on : Reservation → Bool}
  {reserved committed : ByteCount} {id : ReservationId} {res : Reservation}

theorem empty (h : ∀ (id : ReservationId) (r : Reservation), m[id]? = some r → on r = false) :
    Accounts m on 0 0 := by
  have hlive : sumBy (liveBytes on) m = 0 := sumBy_eq_zero _ fun id r hr => liveBytes_off (h id r hr)
  have hpending : sumBy (pendingBytes on) m = 0 :=
    sumBy_eq_zero _ fun id r hr => pendingBytes_off (h id r hr)
  unfold Accounts
  rw [hlive, hpending]
  exact Balanced.zero

/-- A new record elsewhere does not touch the balance. -/
theorem insert_off (h : Accounts m on reserved committed) (habsent : m[id]? = none)
    (hoff : on res = false) : Accounts (m.insert id res) on reserved committed := by
  unfold Accounts
  rw [sumBy_insert_of_absent _ _ habsent, sumBy_insert_of_absent _ _ habsent, liveBytes_off hoff,
    pendingBytes_off hoff]
  exact h

/-- Neither does a change of a record elsewhere. -/
theorem replace_off {new : Reservation} (h : Accounts m on reserved committed)
    (hstored : m[id]? = some res) (hoff : on res = false) (hoff' : on new = false) :
    Accounts (m.insert id new) on reserved committed := by
  have hlive := sumBy_insert_of_present (liveBytes on) new hstored
  have hpending := sumBy_insert_of_present (pendingBytes on) new hstored
  rw [liveBytes_off hoff, liveBytes_off hoff'] at hlive
  rw [pendingBytes_off hoff, pendingBytes_off hoff'] at hpending
  unfold Accounts
  rw [Nat.add_right_cancel hlive, Nat.add_right_cancel hpending]
  exact h

theorem reserve (h : Accounts m on reserved committed) (habsent : m[id]? = none)
    (hon : on res = true) (hstate : res.state = .reserved)
    (hfit : reserved.toNat + res.bytes.toNat < 2 ^ 64) :
    Accounts (m.insert id res) on (reserved + res.bytes) committed := by
  have hlive : liveBytes on res = res.bytes.toNat := by
    simp [liveBytes, Reservation.live, hon, hstate]
  have hpending : pendingBytes on res = res.bytes.toNat := by simp [pendingBytes, hon, hstate]
  unfold Accounts
  rw [sumBy_insert_of_absent _ _ habsent, sumBy_insert_of_absent _ _ habsent, hlive, hpending,
    toNat_add_of_lt hfit]
  exact Balanced.book h _

/-- A stored pending reservation is covered by the first counter. -/
theorem bytes_le_reserved (h : Accounts m on reserved committed) (hstored : m[id]? = some res)
    (hon : on res = true) (hstate : res.state = .reserved) : res.bytes ≤ reserved := by
  have hle := le_sumBy (pendingBytes on) hstored
  have hpending : pendingBytes on res = res.bytes.toNat := by simp [pendingBytes, hon, hstate]
  rw [UInt64.le_iff_toNat_le]
  have := h.pending_le
  omega

theorem commit {new : Reservation} (h : Accounts m on reserved committed)
    (hstored : m[id]? = some res) (hon : on res = true) (hstate : res.state = .reserved)
    (hon' : on new = true) (hstate' : new.state = .committed) (hbytes : new.bytes = res.bytes)
    (hfit : reserved.toNat + committed.toNat < 2 ^ 64) :
    Accounts (m.insert id new) on (reserved - res.bytes) (committed + res.bytes) := by
  have hcovered := h.bytes_le_reserved hstored hon hstate
  have hlive := sumBy_insert_of_present (liveBytes on) new hstored
  have hpending := sumBy_insert_of_present (pendingBytes on) new hstored
  simp only [liveBytes, Reservation.live, hon, hon', hstate, hstate', hbytes] at hlive
  simp only [pendingBytes, hon, hon', hstate, hstate'] at hpending
  have hsum := Balanced.settle h (n := res.bytes.toNat) (by simpa using hpending)
  have hlive' : sumBy (liveBytes on) (m.insert id new) = sumBy (liveBytes on) m := by
    simpa [liveBytes, Reservation.live] using hlive
  unfold Accounts
  rw [UInt64.toNat_sub_of_le _ _ hcovered, toNat_add_of_lt, hlive']
  · exact hsum
  · rw [UInt64.le_iff_toNat_le] at hcovered
    omega

/-- A stored live reservation is covered by the two counters together. -/
theorem covered (h : Accounts m on reserved committed) (hstored : m[id]? = some res)
    (hon : on res = true) (hlive : res.live = true) :
    res.bytes.toNat - min res.bytes.toNat committed.toNat ≤ reserved.toNat := by
  have hold : liveBytes on res = res.bytes.toNat := by simp [liveBytes, hon, hlive]
  have hle : res.bytes.toNat ≤ sumBy (liveBytes on) m := hold ▸ le_sumBy (liveBytes on) hstored
  exact Balanced.covered h hle

theorem release {new : Reservation} (h : Accounts m on reserved committed)
    (hstored : m[id]? = some res) (hon : on res = true) (hlive : res.live = true)
    (hstate' : new.state = .released) :
    Accounts (m.insert id new) on (drain res.bytes committed reserved).reserved
      (drain res.bytes committed reserved).committed := by
  have hnew : liveBytes on new = 0 := by simp [liveBytes, Reservation.live, hstate']
  have hnew' : pendingBytes on new = 0 := by simp [pendingBytes, hstate']
  have hold : liveBytes on res = res.bytes.toNat := by simp [liveBytes, hon, hlive]
  have hlive_sum := sumBy_insert_of_present (liveBytes on) new hstored
  have hpending_sum := sumBy_insert_of_present (pendingBytes on) new hstored
  rw [hnew, hold, Nat.add_zero] at hlive_sum
  rw [hnew', Nat.add_zero] at hpending_sum
  have hpending : pendingBytes on res = res.bytes.toNat ∨ pendingBytes on res = 0 := by
    unfold pendingBytes
    split
    · exact .inl rfl
    · exact .inr rfl
  obtain ⟨-, hcommitted, hreserved⟩ := drain_spec (h.covered hstored hon hlive)
  have hmono := sumBy_mono (pendingBytes_le_liveBytes on) (m.insert id new)
  unfold Accounts
  rw [hcommitted, hreserved]
  refine Balanced.drain h hlive_sum hmono ?_
  obtain hp | hp := hpending
  · left; omega
  · right; omega

theorem eq_zero_of_released (h : Accounts m on reserved committed)
    (hdone : ∀ (id : ReservationId) (r : Reservation), m[id]? = some r → r.live = false) :
    reserved = 0 ∧ committed = 0 := by
  have hlive : sumBy (liveBytes on) m = 0 :=
    sumBy_eq_zero _ fun id r hr => by simp [liveBytes, hdone id r hr]
  unfold Accounts at h
  rw [hlive] at h
  exact ⟨UInt64.toNat_inj.mp h.eq_zero.1, UInt64.toNat_inj.mp h.eq_zero.2⟩

end Accounts

/-- What one step does to a pair of counters and to the reservations behind it. `room` is
the free space of the record before the step. -/
inductive CounterStep (m m' : Map ReservationId Reservation) (on : Reservation → Bool)
    (room reserved committed : ByteCount) : ByteCount → ByteCount → Prop
  | idle (same : m' = m) : CounterStep m m' on room reserved committed reserved committed
  | bookedElsewhere {id : ReservationId} {res : Reservation} (absent : m[id]? = none)
      (off : on res = false) (map : m' = m.insert id res) :
      CounterStep m m' on room reserved committed reserved committed
  | changedElsewhere {id : ReservationId} {res new : Reservation} (stored : m[id]? = some res)
      (off : on res = false) (off' : on new = false) (map : m' = m.insert id new) :
      CounterStep m m' on room reserved committed reserved committed
  | reserve {id : ReservationId} {res : Reservation} (absent : m[id]? = none)
      (here : on res = true) (state : res.state = .reserved) (positive : res.bytes ≠ 0)
      (fits : res.bytes ≤ room) (map : m' = m.insert id res) :
      CounterStep m m' on room reserved committed (reserved + res.bytes) committed
  | commit {id : ReservationId} {res new : Reservation} (stored : m[id]? = some res)
      (here : on res = true) (state : res.state = .reserved) (here' : on new = true)
      (state' : new.state = .committed) (bytes : new.bytes = res.bytes)
      (map : m' = m.insert id new) :
      CounterStep m m' on room reserved committed (reserved - res.bytes) (committed + res.bytes)
  | release {id : ReservationId} {res new : Reservation} (stored : m[id]? = some res)
      (here : on res = true) (live : res.live = true) (state' : new.state = .released)
      (map : m' = m.insert id new) :
      CounterStep m m' on room reserved committed (drain res.bytes committed reserved).reserved
        (drain res.bytes committed reserved).committed
  | conflict {id : ReservationId} {res : Reservation} (stored : m[id]? = some res)
      (here : on res = true) (live : res.live = true)
      (uncovered : (drain res.bytes committed reserved).remaining ≠ 0) :
      CounterStep m m' on room reserved committed (drain res.bytes committed reserved).reserved
        (drain res.bytes committed reserved).committed

/-- Counters that agree with the reservations and stay below a bound which new bookings
respect keep doing so. -/
theorem CounterStep.accounts {m m' : Map ReservationId Reservation} {on : Reservation → Bool}
    {room reserved committed reserved' committed' : ByteCount} {bound : ℕ}
    (h : CounterStep m m' on room reserved committed reserved' committed')
    (ha : Accounts m on reserved committed) (hheld : reserved.toNat + committed.toNat ≤ bound)
    (hbound : bound < 2 ^ 64)
    (hroom : ∀ n : ByteCount, n ≠ 0 → n ≤ room →
      reserved.toNat + n.toNat + committed.toNat ≤ bound) :
    Accounts m' on reserved' committed' ∧ reserved'.toNat + committed'.toNat ≤ bound := by
  cases h with
  | idle same => rw [same]; exact ⟨ha, hheld⟩
  | bookedElsewhere absent off map => rw [map]; exact ⟨ha.insert_off absent off, hheld⟩
  | changedElsewhere stored off off' map =>
    rw [map]
    exact ⟨ha.replace_off stored off off', hheld⟩
  | @reserve id res absent here state positive fits map =>
    have hfit := hroom res.bytes positive fits
    have hlt : reserved.toNat + res.bytes.toNat < 2 ^ 64 := by omega
    rw [map, toNat_add_of_lt hlt]
    exact ⟨ha.reserve absent here state hlt, hfit⟩
  | @commit id res new stored here state here' state' bytes map =>
    have hcovered := ha.bytes_le_reserved stored here state
    have hle := UInt64.le_iff_toNat_le.mp hcovered
    rw [map, UInt64.toNat_sub_of_le _ _ hcovered, toNat_add_of_lt (by omega)]
    refine ⟨ha.commit stored here state here' state' bytes (by omega), ?_⟩
    omega
  | @release id res new stored here live state' map =>
    obtain ⟨-, hcommitted, hreserved⟩ := drain_spec (ha.covered stored here live)
    rw [map, hreserved, hcommitted]
    refine ⟨ha.release stored here live state', ?_⟩
    omega
  | conflict stored here live uncovered =>
    exact absurd (drain_spec (ha.covered stored here live)).1 uncovered

end Fabric

end CxlFabric
