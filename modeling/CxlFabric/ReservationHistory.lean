import CxlFabric.Fencing

/-! # The history of a reservation

An identity is issued once. Its record moves from reserved to committed to released, or
from reserved to released, and keeps everything else it was made with until an import
drops it. So a commit and a release succeed at most once on it. -/
namespace CxlFabric

/-- The moves of a reservation. -/
inductive ResumeState.Moves : ResumeState → ResumeState → Prop
  | commit : Moves .reserved .committed
  | release : Moves .committed .released
  | abandon : Moves .reserved .released

/-- All but the state and the commit epoch is as it was. -/
def Reservation.SameRequest (r r' : Reservation) : Prop :=
  r' = { r with state := r'.state, commitEpoch := r'.commitEpoch }

theorem Reservation.SameRequest.refl (r : Reservation) : r.SameRequest r := rfl

theorem Reservation.SameRequest.trans {r r' r'' : Reservation} (h : r.SameRequest r')
    (h' : r'.SameRequest r'') : r.SameRequest r'' := by
  unfold SameRequest at *
  rw [h', h]

namespace Fabric
variable {f f' : Fabric} {op : Op} {out : Outcome}

/-- The identity that a reserve has issued. -/
def reservedId : Op × Outcome → Option ReservationId
  | (.reserve _ _, .reservation o) => if o.ok then some o.reservation.id else none
  | _ => none

/-- The identity that a commit has settled. -/
def committedId : Op × Outcome → Option ReservationId
  | (.commit id _, .reservation o) => if o.ok then some id else none
  | _ => none

/-- The identity that a release has freed. -/
def releasedId : Op × Outcome → Option ReservationId
  | (.release id _, .reservation o) => if o.ok then some id else none
  | _ => none

/-- An operation that fails issues, settles and frees nothing. -/
theorem ids_of_failure (op : Op) (h : out.success = false) :
    reservedId (op, out) = none ∧ committedId (op, out) = none ∧ releasedId (op, out) = none := by
  cases out with
  | reservation o =>
    have hok : o.ok = false := h
    cases op <;> simp [reservedId, committedId, releasedId, hok]
  | done | decision | reconfigured => cases op <;> exact ⟨rfl, rfl, rfl⟩

/-- What one step does to the record of a reservation. -/
structure Follows (r r' : Reservation) : Prop where
  state : r'.state = r.state ∨ r.state.Moves r'.state
  rest : r.SameRequest r'

theorem Effect.follows (h : f.Effect op out f') {id : ReservationId} {r r' : Reservation}
    (hr : f.state.reservations[id]? = some r) (hr' : f'.state.reservations[id]? = some r') :
    Follows r r' := by
  have hchange := h.reservation id
  rw [hr, hr'] at hchange
  generalize hold : some r = old, hnew : some r' = new at hchange
  cases hchange with
  | same =>
    cases hold.trans hnew.symm
    exact ⟨.inl rfl, .refl r⟩
  | reserved admission key => cases hold
  | committed guarded =>
    cases hold
    cases hnew
    refine ⟨.inr ?_, rfl⟩
    rw [guarded.reserved]
    exact .commit
  | released guarded =>
    cases hold
    cases hnew
    refine ⟨.inr ?_, rfl⟩
    rcases guarded.live with hlive | hlive
    · rw [hlive]
      exact .release
    · rw [hlive]
      exact .abandon
  | imported => cases hnew

/-- A record that was not there before has just been reserved. -/
theorem Effect.appears (h : f.Effect op out f') {id : ReservationId} {r' : Reservation}
    (hr : f.state.reservations[id]? = none) (hr' : f'.state.reservations[id]? = some r') :
    r'.state = .reserved ∧ ∃ req ctx o, op = .reserve req ctx ∧ out = .reservation o ∧
      o.ok = true ∧ o.reservation = r' ∧ o.reservation.id = id := by
  have hchange := h.reservation id
  rw [hr, hr'] at hchange
  generalize hold : (none : Option Reservation) = old, hnew : some r' = new at hchange
  cases hchange with
  | same => cases hold.trans hnew.symm
  | reserved admission key =>
    cases hnew
    exact ⟨rfl, _, _, _, rfl, rfl, rfl, rfl, key⟩
  | committed guarded => cases hold
  | released guarded => cases hold
  | imported => cases hnew

/-- The records stay until they are dropped. -/
theorem Effect.remains (h : f.Effect op out f') (himport : ∀ st, op ≠ .importPersisted st)
    {id : ReservationId} {r : Reservation} (hr : f.state.reservations[id]? = some r) :
    ∃ r', f'.state.reservations[id]? = some r' := by
  have hchange := h.reservation id
  rw [hr] at hchange
  generalize hold : some r = old at hchange
  generalize f'.state.reservations[id]? = new at hchange
  cases hchange with
  | same => exact ⟨r, hold.symm⟩
  | reserved admission key => cases hold
  | committed guarded => exact ⟨_, rfl⟩
  | released guarded => exact ⟨_, rfl⟩
  | @imported st => exact absurd rfl (himport st)

/-- What is stored under an issued identity follows what was stored there before. -/
theorem Issued.follows {id : ReservationId} (hissued : Issued f id) (h : f.Effect op out f')
    (hlt : f.sequence.toNat + reserveCount (op, out) < 2 ^ 64) {r' : Reservation}
    (hr' : f'.state.reservations[id]? = some r') :
    ∃ r, f.state.reservations[id]? = some r ∧ Follows r r' := by
  obtain ⟨r, hr, -, -⟩ := hissued.origin h hlt hr'
  exact ⟨r, hr, h.follows hr hr'⟩

theorem Effect.reservedId (h : f.Effect op out f') {id : ReservationId}
    (hid : Fabric.reservedId (op, out) = some id) :
    reservationId (f.sequence + 1) = id ∧ reserveCount (op, out) = 1 := by
  cases h with
  | refused fallible failed =>
    rw [(ids_of_failure op failed).1] at hid
    cases hid
  | reserve epoch admission =>
    cases hid
    exact ⟨rfl, rfl⟩
  | _ => cases hid

theorem Effect.committedId (h : f.Effect op out f') {id : ReservationId}
    (hid : Fabric.committedId (op, out) = some id) :
    ∃ r, f.state.reservations[id]? = some r ∧ r.state = .reserved ∧
      f'.state.reservations[id]? = some (f.committedRecord r) := by
  cases h with
  | refused fallible failed =>
    rw [(ids_of_failure op failed).2.1] at hid
    cases hid
  | @commit rid ctx res pool region dev guarded =>
    cases hid
    refine ⟨res, guarded.stored, guarded.reserved, ?_⟩
    change (f.state.reservations.insert id _)[id]? = _
    rw [getElem?_insert_eq, if_pos rfl]
  | _ => cases hid

theorem Effect.releasedId (h : f.Effect op out f') {id : ReservationId}
    (hid : Fabric.releasedId (op, out) = some id) :
    ∃ r, f.state.reservations[id]? = some r ∧ (r.state = .committed ∨ r.state = .reserved) ∧
      f'.state.reservations[id]? = some (releasedRecord r) := by
  cases h with
  | refused fallible failed =>
    rw [(ids_of_failure op failed).2.2] at hid
    cases hid
  | @release rid ctx res guarded covered =>
    cases hid
    refine ⟨res, guarded.stored, guarded.live, ?_⟩
    simp only [free, recomputeLedger_state_reservations, setReservation_state_reservations,
      getElem?_insert_eq, if_pos]
  | _ => cases hid

/-- A list of identities that grows by one that was not in it. -/
theorem nodup_filterMap_concat {g : Op × Outcome → Option ReservationId}
    {tr : List (Op × Outcome)} {e : Op × Outcome} (h : (tr.filterMap g).Nodup)
    (hnew : ∀ id, g e = some id → id ∉ tr.filterMap g) : ((tr ++ [e]).filterMap g).Nodup := by
  rw [List.filterMap_append]
  cases he : g e with
  | none => simpa [he] using h
  | some id => simpa [he, List.nodup_append, h] using fun x hx => ne_of_mem_of_not_mem hx (hnew id he)

theorem mem_filterMap_concat {g : Op × Outcome → Option ReservationId}
    {tr : List (Op × Outcome)} {e : Op × Outcome} {id : ReservationId}
    (h : id ∈ (tr ++ [e]).filterMap g) : id ∈ tr.filterMap g ∨ g e = some id := by
  rw [List.filterMap_append, List.mem_append] at h
  rcases h with h | h
  · exact .inl h
  · exact .inr (by simpa using h)

/-- The event has happened at most once to an identity, and left its record, if it is
still there, in one of the states `Q`. -/
def Once (g : Op × Outcome → Option ReservationId) (Q : ResumeState → Prop)
    (tr : List (Op × Outcome)) (f : Fabric) : Prop :=
  (tr.filterMap g).Nodup ∧ ∀ id ∈ tr.filterMap g,
    Issued f id ∧ ∀ r, f.state.reservations[id]? = some r → Q r.state

/-- An event that takes a record into states it cannot leave does not happen again. -/
theorem Once.step {g : Op × Outcome → Option ReservationId} {Q : ResumeState → Prop}
    {tr : List (Op × Outcome)} (h : Once g Q tr f) (heffect : f.Effect op out f')
    (hlt : f.sequence.toNat + reserveCount (op, out) < 2 ^ 64) (hids : IdsIssued f)
    (hmoves : ∀ a b, ResumeState.Moves a b → Q a → Q b)
    (hevent : ∀ id, g (op, out) = some id → ∃ r r', f.state.reservations[id]? = some r ∧
      ¬Q r.state ∧ f'.state.reservations[id]? = some r' ∧ Q r'.state) :
    Once g Q (tr ++ [(op, out)]) f' := by
  refine ⟨nodup_filterMap_concat h.1 ?_, ?_⟩
  · intro id hid hmem
    obtain ⟨r, r', hr, hbefore, -, -⟩ := hevent id hid
    exact hbefore ((h.2 id hmem).2 r hr)
  · intro id hmem
    rcases mem_filterMap_concat hmem with hold | hid
    · obtain ⟨hissued, hdone⟩ := h.2 id hold
      refine ⟨hissued.step heffect hlt, ?_⟩
      intro r' hr'
      obtain ⟨r, hr, hfollows⟩ := hissued.follows heffect hlt hr'
      rcases hfollows.state with hsame | hmove
      · rw [hsame]
        exact hdone r hr
      · exact hmoves _ _ hmove (hdone r hr)
    · obtain ⟨r, r', hr, -, hr', hafter⟩ := hevent id hid
      have hissued : Issued f id := (hids id r hr).2
      refine ⟨hissued.step heffect hlt, ?_⟩
      intro v hv
      cases hr'.symm.trans hv
      exact hafter

/-- What a trace from a fresh engine says about the records it has led to. -/
structure History (tr : List (Op × Outcome)) (f : Fabric) : Prop where
  count : f.sequence.toNat = (tr.map reserveCount).sum
  ids : IdsIssued f
  reserved : (tr.filterMap reservedId).Nodup ∧ ∀ id ∈ tr.filterMap reservedId, Issued f id
  committed : Once committedId (· ≠ .reserved) tr f
  released : Once releasedId (· = .released) tr f

theorem history_new (epoch : CoordinatorEpoch) (policy : PolicyGeneration) :
    History [] (new epoch policy) :=
  ⟨rfl, idsIssued_new epoch policy, ⟨.nil, nofun⟩, ⟨.nil, nofun⟩, ⟨.nil, nofun⟩⟩

theorem History.step {tr : List (Op × Outcome)} (h : History tr f) (heffect : f.Effect op out f')
    (hcount : ((tr ++ [(op, out)]).map reserveCount).sum < 2 ^ 64) :
    History (tr ++ [(op, out)]) f' := by
  simp only [List.map_append, List.map_cons, List.map_nil, List.sum_append, List.sum_cons,
    List.sum_nil, Nat.add_zero] at hcount
  have hlt : f.sequence.toNat + reserveCount (op, out) < 2 ^ 64 := by
    rw [h.count]
    exact hcount
  refine ⟨?_, h.ids.step heffect hlt, ⟨?_, ?_⟩, ?_, ?_⟩
  · rw [heffect.toNat_sequence hlt, h.count]
    simp
  · refine nodup_filterMap_concat h.reserved.1 ?_
    intro id hid hmem
    obtain ⟨hnext, hone⟩ := heffect.reservedId hid
    rw [hone] at hlt
    exact (h.reserved.2 id hmem).ne_next hlt hnext
  · intro id hmem
    rcases mem_filterMap_concat hmem with hold | hid
    · exact (h.reserved.2 id hold).step heffect hlt
    · obtain ⟨hnext, hone⟩ := heffect.reservedId hid
      refine ⟨f.sequence + 1, ?_, hnext.symm⟩
      rw [heffect.sequence, hone]
      exact UInt64.le_refl _
  · refine h.committed.step heffect hlt h.ids ?_ ?_
    · intro a b hmove _
      cases hmove <;> nofun
    · intro id hid
      obtain ⟨r, hr, hstate, hr'⟩ := heffect.committedId hid
      exact ⟨r, _, hr, not_not.mpr hstate, hr', nofun⟩
  · refine h.released.step heffect hlt h.ids ?_ ?_
    · rintro a b hmove rfl
      cases hmove
    · intro id hid
      obtain ⟨r, hr, hlive, hr'⟩ := heffect.releasedId hid
      refine ⟨r, _, hr, ?_, hr', rfl⟩
      rcases hlive with hstate | hstate <;> rw [hstate] <;> nofun

theorem history_of_run {epoch : CoordinatorEpoch} {policy : PolicyGeneration}
    {tr : List (Op × Outcome)} (hrun : Run exec (new epoch policy) tr f)
    (hcount : (tr.map reserveCount).sum < 2 ^ 64) : History tr f := by
  refine hrun.invariant_trace (A := fun tr => (tr.map reserveCount).sum < 2 ^ 64) (I := History) ?_
    ?_ hcount (history_new epoch policy)
  · intro tr e hlt
    rw [List.map_append, List.sum_append] at hlt
    omega
  · intro tr f op out f' hlt h hexec
    exact h.step (exec_effect hexec) hlt

variable {epoch : CoordinatorEpoch} {policy : PolicyGeneration} {tr : List (Op × Outcome)}

/-- A stored record was made by a reserve of the trace. -/
theorem stored_was_reserved (hrun : Run exec (new epoch policy) tr f) {id : ReservationId}
    {r : Reservation} (hr : f.state.reservations[id]? = some r) :
    ∃ req ctx o, (Op.reserve req ctx, Outcome.reservation o) ∈ tr ∧ o.ok = true ∧
      o.reservation.id = id ∧ o.reservation.SameRequest r := by
  refine hrun.invariant_trace (A := fun _ => True) (I := fun tr f => ∀ r : Reservation,
    f.state.reservations[id]? = some r → ∃ req ctx o,
      (Op.reserve req ctx, Outcome.reservation o) ∈ tr ∧ o.ok = true ∧
      o.reservation.id = id ∧ o.reservation.SameRequest r) (fun _ _ _ => trivial) ?_ trivial ?_ r hr
  · intro tr f op out f' _ ih hexec r' hr'
    have heffect := exec_effect hexec
    cases hr : f.state.reservations[id]? with
    | none =>
      obtain ⟨-, req, ctx, o, rfl, rfl, hok, rfl, hid⟩ := heffect.appears hr hr'
      exact ⟨req, ctx, o, by simp, hok, hid, .refl _⟩
    | some r =>
      obtain ⟨req, ctx, o, hmem, hok, hid, hsame⟩ := ih r hr
      exact ⟨req, ctx, o, List.mem_append_left _ hmem, hok, hid,
        hsame.trans (heffect.follows hr hr').rest⟩
  · intro r hr
    simp [new_reservations] at hr

/-- A reservation is there, with all that it was made with, until it is dropped. -/
theorem reserved_stays {tr₁ tr₂ : List (Op × Outcome)} {req : AdmissionRequest}
    {ctx : AuthorityContext} {o : ReserveOutcome}
    (hrun : Run exec (new epoch policy) (tr₁ ++ (.reserve req ctx, .reservation o) :: tr₂) f)
    (hcount : ((tr₁ ++ (.reserve req ctx, .reservation o) :: tr₂).map reserveCount).sum < 2 ^ 64)
    (hok : o.ok = true) (himport : ∀ e ∈ tr₂, ∀ st, e.1 ≠ .importPersisted st) :
    ∃ r, f.state.reservations[o.reservation.id]? = some r ∧ o.reservation.SameRequest r := by
  obtain ⟨t, hbefore, hrest⟩ := hrun.split
  obtain ⟨t', hexec, hafter⟩ := Run.cons_iff.mp hrest
  simp only [List.map_append, List.map_cons, List.sum_append, List.sum_cons] at hcount
  have hhistory := history_of_run hbefore (by omega)
  refine hafter.invariant (A := fun e => ∀ st, e.1 ≠ .importPersisted st)
    (I := fun g => ∃ r, g.state.reservations[o.reservation.id]? = some r ∧
      o.reservation.SameRequest r) ?_ himport ?_
  · rintro g op out g' hkeep ⟨r, hr, hsame⟩ hexec
    obtain ⟨r', hr'⟩ := (exec_effect hexec).remains hkeep hr
    exact ⟨r', hr', hsame.trans ((exec_effect hexec).follows hr hr').rest⟩
  · cases exec_effect hexec with
    | refused fallible failed => simp [hok] at failed
    | @reserve _ _ c pool region dev epoch admission =>
      rw [show reserveCount (_, Outcome.reservation _) = 1 from rfl] at hcount
      have hfresh : t.state.reservations[reservationId (t.sequence + 1)]? = none :=
        hhistory.ids.fresh (by rw [hhistory.count]; omega)
      refine ⟨_, ?_, .refl _⟩
      change (t.state.reservations.insertIfNew (reservationId (t.sequence + 1)) _)[_]? = _
      rw [getElem?_insertIfNew_eq]
      exact if_pos ⟨rfl, hfresh⟩

/-- Identities are issued once, records move forward only, a commit and a release succeed
at most once, and what a reserve has made stays as it was made. -/
theorem reservations_exactly_once (hrun : Run exec (new epoch policy) tr f)
    (hcount : (tr.map reserveCount).sum < 2 ^ 64) :
    (tr.filterMap reservedId).Nodup ∧
    (∀ t op t', Occurs exec (new epoch policy) tr t op t' →
      ∀ (id : ReservationId) (r' : Reservation), t'.state.reservations[id]? = some r' →
        t.state.reservations[id]? = none ∧ r'.state = .reserved ∨
        ∃ r, t.state.reservations[id]? = some r ∧
          (r'.state = r.state ∨ r.state.Moves r'.state)) ∧
    (tr.filterMap committedId).Nodup ∧ (tr.filterMap releasedId).Nodup ∧
    (∀ (id : ReservationId) (r : Reservation), f.state.reservations[id]? = some r →
      ∃ req ctx o, (Op.reserve req ctx, Outcome.reservation o) ∈ tr ∧ o.ok = true ∧
        o.reservation.id = id ∧ o.reservation.SameRequest r) ∧
    ∀ tr₁ req ctx o tr₂, tr = tr₁ ++ (.reserve req ctx, .reservation o) :: tr₂ → o.ok = true →
      (∀ e ∈ tr₂, ∀ st, e.1 ≠ .importPersisted st) →
      ∃ r, f.state.reservations[o.reservation.id]? = some r ∧ o.reservation.SameRequest r := by
  have hhistory := history_of_run hrun hcount
  refine ⟨hhistory.reserved.1, ?_, hhistory.committed.1, hhistory.released.1, ?_, ?_⟩
  · intro t op t' hoccurs id r' hr'
    obtain ⟨out, hexec⟩ := hoccurs.step
    cases hr : t.state.reservations[id]? with
    | none => exact .inl ⟨rfl, ((exec_effect hexec).appears hr hr').1⟩
    | some r => exact .inr ⟨r, rfl, ((exec_effect hexec).follows hr hr').state⟩
  · intro id r hr
    exact stored_was_reserved hrun hr
  · rintro tr₁ req ctx o tr₂ rfl hok himport
    exact reserved_stays hrun hcount hok himport

theorem reservations_exactly_once_reservedRun :
    ∃ tr f, Run exec (new ⟨1⟩ ⟨1⟩) tr f ∧ (tr.map reserveCount).sum < 2 ^ 64 ∧
      tr.filterMap reservedId = [reservationId 1] ∧ (tr.filterMap reservedId).Nodup := by
  have hrun := Run.of_execAll (Option.some_get reservedRun_isSome).symm
  have hcount : ((reservedRun.get reservedRun_isSome).1.map reserveCount).sum < 2 ^ 64 := by decide
  exact ⟨_, _, hrun, hcount, by decide, (reservations_exactly_once hrun hcount).1⟩

end Fabric

end CxlFabric
