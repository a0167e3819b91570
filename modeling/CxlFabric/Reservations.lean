import CxlFabric.RecordChanges

/-! # Reservation records and their identities

A reservation is stored once under the next number of the sequence counter. Until the
counter wraps every stored identity has a number the counter has passed, so the next one
is free, and a record that has been dropped never comes back. -/
namespace CxlFabric
namespace Fabric

theorem reservationId_injective : Function.Injective reservationId := by
  intro a b h
  have hvalue : str "res-" ++ str (decimal a) = str "res-" ++ str (decimal b) := congrArg Id.value h
  exact decimal_injective (str_injective (List.append_cancel_left hvalue))

/-- One for a reserve that succeeded. -/
def reserveCount : Op × Outcome → ℕ
  | (.reserve _ _, out) => if out.success then 1 else 0
  | _ => 0

/-- The record under `id` before and after an operation. -/
inductive ReservationChange (f : Fabric) (id : ReservationId) :
    Op → Outcome → Option Reservation → Option Reservation → Prop
  | same {op : Op} {out : Outcome} (r : Option Reservation)
      (kept : ∀ st, op ≠ .importPersisted st) : ReservationChange f id op out r r
  | reserved {req : AdmissionRequest} {ctx : AuthorityContext} {c : Candidate} {pool : CxlPool}
      {region : CxlRegion} {dev : CxlDevice} (admission : f.Admission req c pool region dev)
      (key : reservationId (f.sequence + 1) = id) :
      ReservationChange f id (.reserve req ctx)
        (.reservation { ok := true, reservation := f.newReservation req ctx c dev })
        none (some (f.newReservation req ctx c dev))
  | committed {ctx : AuthorityContext} {res : Reservation} {pool : CxlPool} {region : CxlRegion}
      {dev : CxlDevice} {o : ReserveOutcome} (guarded : f.CommitGuard id ctx res pool region dev) :
      ReservationChange f id (.commit id ctx) (.reservation o) (some res)
        (some (f.committedRecord res))
  | released {ctx : AuthorityContext} {res : Reservation} {o : ReserveOutcome}
      (guarded : f.ReleaseGuard id ctx res) :
      ReservationChange f id (.release id ctx) (.reservation o) (some res)
        (some (releasedRecord res))
  | imported {st : PersistedState} {old : Option Reservation} :
      ReservationChange f id (.importPersisted st) .done old none

variable {f f' : Fabric} {op : Op} {out : Outcome}

theorem Effect.reservation (h : f.Effect op out f') (id : ReservationId) :
    ReservationChange f id op out f.state.reservations[id]? f'.state.reservations[id]? := by
  cases h with
  | @reserve req ctx c pool region dev epoch admission =>
    change ReservationChange f id _ _ _
      ((f.state.reservations.insertIfNew (reservationId (f.sequence + 1)) _)[id]?)
    rw [getElem?_insertIfNew_eq]
    split
    · next hid => rw [hid.2]; exact .reserved admission hid.1
    · exact .same _ (by simp)
  | @commit rid ctx res pool region dev guarded =>
    change ReservationChange f id _ _ _ ((f.state.reservations.insert rid _)[id]?)
    rw [getElem?_insert_eq]
    split
    · next hid => subst hid; rw [guarded.stored]; exact .committed guarded
    · exact .same _ (by simp)
  | @release rid ctx res guarded covered =>
    simp only [free, recomputeLedger_state_reservations, setReservation_state_reservations,
      drainRegionOf_reservations, drainPoolOf_reservations, getElem?_insert_eq]
    split
    · next hid => subst hid; rw [guarded.stored]; exact .released guarded
    · exact .same _ (by simp)
  | conflict guarded uncovered => rw [drainPoolOf_reservations]; exact .same _ (by simp)
  | importPersisted st =>
    have hempty : (f.importPersisted st).state.reservations[id]? = none :=
      Std.ExtTreeMap.getElem?_empty
    rw [hempty]
    exact .imported
  | refused fallible failed =>
    refine .same _ ?_
    rintro st rfl
    exact fallible rfl
  | _ => exact .same _ (by simp)

theorem Effect.sequence (h : f.Effect op out f') :
    f'.sequence = f.sequence + UInt64.ofNat (reserveCount (op, out)) := by
  cases h with
  | @refused op out fallible hout => cases op <;> simp [reserveCount, hout]
  | reserve epoch admission => rfl
  | release guarded covered => simp [free, reserveCount]
  | conflict guarded uncovered => simp [reserveCount]
  | importPersisted st => simp [reserveCount]
  | _ => simp [reserveCount, settle]

/-- The counter moves by the number of successful reserves until it wraps. -/
theorem Effect.toNat_sequence (h : f.Effect op out f')
    (hlt : f.sequence.toNat + reserveCount (op, out) < 2 ^ 64) :
    f'.sequence.toNat = f.sequence.toNat + reserveCount (op, out) := by
  have hcount : (UInt64.ofNat (reserveCount (op, out))).toNat = reserveCount (op, out) :=
    UInt64.toNat_ofNat_of_lt' (lt_of_le_of_lt (Nat.le_add_left _ _) hlt)
  rw [h.sequence, UInt64.toNat_add, hcount, Nat.mod_eq_of_lt hlt]

/-- Every record is stored under its own identity, whose number has been passed. -/
def IdsIssued (f : Fabric) : Prop :=
  ∀ (id : ReservationId) (r : Reservation), f.state.reservations[id]? = some r →
    r.id = id ∧ ∃ n ≤ f.sequence, id = reservationId n

theorem new_reservations (epoch : CoordinatorEpoch) (policy : PolicyGeneration)
    (id : ReservationId) : (new epoch policy).state.reservations[id]? = none :=
  Std.ExtTreeMap.getElem?_empty

theorem idsIssued_new (epoch : CoordinatorEpoch) (policy : PolicyGeneration) :
    IdsIssued (new epoch policy) := by
  intro id r h
  simp [new_reservations] at h

theorem toNat_succ_sequence (hlt : f.sequence.toNat + 1 < 2 ^ 64) :
    (f.sequence + 1).toNat = f.sequence.toNat + 1 := by
  rw [UInt64.toNat_add, UInt64.toNat_one, Nat.mod_eq_of_lt hlt]

/-- A number beyond the counter has no record. -/
theorem IdsIssued.absent (h : IdsIssued f) {n : UInt64} (hn : f.sequence < n) :
    f.state.reservations[reservationId n]? = none := by
  cases hr : f.state.reservations[reservationId n]? with
  | none => rfl
  | some r =>
    obtain ⟨_, m, hm, heq⟩ := h _ r hr
    have hnm : n = m := reservationId_injective heq
    subst hnm
    exact absurd hn (UInt64.not_lt.mpr hm)

theorem IdsIssued.fresh (h : IdsIssued f) (hlt : f.sequence.toNat + 1 < 2 ^ 64) :
    f.state.reservations[reservationId (f.sequence + 1)]? = none := by
  apply h.absent
  rw [UInt64.lt_iff_toNat_lt, toNat_succ_sequence hlt]
  omega

theorem IdsIssued.step (hids : IdsIssued f) (h : f.Effect op out f')
    (hlt : f.sequence.toNat + reserveCount (op, out) < 2 ^ 64) : IdsIssued f' := by
  have hseq : f.sequence ≤ f'.sequence := by
    rw [UInt64.le_iff_toNat_le, h.toNat_sequence hlt]
    omega
  intro id r hr
  have hchange := h.reservation id
  rw [hr] at hchange
  generalize hold : f.state.reservations[id]? = old at hchange
  -- The record is an older one under the same key, or the one just reserved.
  cases hchange with
  | same =>
    obtain ⟨hid, n, hn, heq⟩ := hids id r hold
    exact ⟨hid, n, UInt64.le_trans hn hseq, heq⟩
  | @reserved req ctx c pool region dev admission key =>
    refine ⟨key, f.sequence + 1, ?_, key.symm⟩
    rw [h.sequence]
    exact UInt64.le_refl _
  | @committed ctx res pool region dev o guarded =>
    obtain ⟨hid, n, hn, heq⟩ := hids id res hold
    exact ⟨hid, n, UInt64.le_trans hn hseq, heq⟩
  | @released ctx res o guarded =>
    obtain ⟨hid, n, hn, heq⟩ := hids id res hold
    exact ⟨hid, n, UInt64.le_trans hn hseq, heq⟩

/-- No number has been skipped or used twice: the counter is the number of records. The
limit on the number of entries then keeps it far from wrapping. -/
structure Numbered (f : Fabric) : Prop where
  ids : IdsIssued f
  count : f.sequence.toNat = f.state.reservations.size

theorem numbered_new (epoch : CoordinatorEpoch) (policy : PolicyGeneration) :
    Numbered (new epoch policy) := ⟨idsIssued_new epoch policy, rfl⟩

theorem Numbered.lt (hnum : Numbered f) (room : f.state.reservations.size < maxReservations) :
    f.sequence.toNat + 1 < 2 ^ 64 := by
  rw [hnum.count]
  unfold maxReservations at room
  omega

theorem Numbered.fresh (hnum : Numbered f) (room : f.state.reservations.size < maxReservations) :
    f.state.reservations[reservationId (f.sequence + 1)]? = none :=
  hnum.ids.fresh (hnum.lt room)

theorem book_reservations (hnum : Numbered f)
    (room : f.state.reservations.size < maxReservations) (req : AdmissionRequest)
    (ctx : AuthorityContext) (c : Candidate) (pool : CxlPool) (region : CxlRegion)
    (dev : CxlDevice) :
    (f.book req c pool region (f.newReservation req ctx c dev)).state.reservations =
      f.state.reservations.insert (reservationId (f.sequence + 1))
        (f.newReservation req ctx c dev) :=
  insertIfNew_of_absent _ (hnum.fresh room)

theorem Numbered.step (hnum : Numbered f) (h : f.Effect op out f')
    (himport : ∀ st, op ≠ .importPersisted st) : Numbered f' := by
  have hlt : f.sequence.toNat + reserveCount (op, out) < 2 ^ 64 := by
    have hsmall := f.sequence.toNat_lt
    cases h with
    | reserve epoch admission => exact hnum.lt admission.room
    | refused fallible hout => cases op <;> simp [reserveCount, hout, hsmall]
    | _ => exact hsmall
  refine ⟨hnum.ids.step h hlt, ?_⟩
  rw [h.toNat_sequence hlt, hnum.count]
  cases h with
  | @reserve req ctx c pool region dev epoch admission =>
    rw [book_reservations hnum admission.room, size_insert_of_absent _ (hnum.fresh admission.room)]
    rfl
  | refused fallible hout => cases op <;> simp [reserveCount, hout]
  | commit guarded => exact (size_insert_of_present _ guarded.stored).symm
  | @release rid ctx res guarded covered =>
    simp only [free, recomputeLedger_state_reservations, setReservation_state_reservations,
      drainRegionOf_reservations, drainPoolOf_reservations]
    exact (size_insert_of_present _ guarded.stored).symm
  | conflict guarded uncovered => rw [drainPoolOf_reservations]; rfl
  | importPersisted st => exact absurd rfl (himport st)
  | _ => rfl

end Fabric

end CxlFabric
