import CxlFabric.ReservationLedger

/-! # How a step moves the counters of one record

A step of the engine books, settles or drains one reservation on a pool and on a region,
or leaves their counters and all reservations alone. -/
namespace CxlFabric
namespace Fabric

variable {f f' : Fabric} {op : Op} {out : Outcome}

theorem ReleaseGuard.live_eq {id : ReservationId} {ctx : AuthorityContext} {res : Reservation}
    (h : f.ReleaseGuard id ctx res) : res.live = true := by
  simpa [Reservation.live, or_comm] using h.live

theorem free_reservations (id : ReservationId) (res : Reservation) :
    (f.free id res).state.reservations = f.state.reservations.insert id (releasedRecord res) := by
  simp [free]

theorem Effect.reservations_eq (h : f.Effect op out f') (hbooks : ¬op.Books)
    (himport : ∀ st, op ≠ .importPersisted st) :
    f'.state.reservations = f.state.reservations := by
  cases h with
  | reserve => exact absurd (.reserve _ _) hbooks
  | commit => exact absurd (.commit _ _) hbooks
  | release => exact absurd (.release _ _) hbooks
  | conflict => exact absurd (.release _ _) hbooks
  | importPersisted st => exact absurd rfl (himport st)
  | _ => rfl

/-- What a step does to the counters of a pool: a booking, or nothing, or the pool is new. -/
theorem Effect.poolCounters (h : f.Effect op out f') (hnum : Numbered f)
    (himport : ∀ st, op ≠ .importPersisted st) {id : PoolId} {p' : CxlPool}
    (hp' : f'.state.pools[id]? = some p') :
    (∃ p, f.state.pools[id]? = some p ∧
      CounterStep f.state.reservations f'.state.reservations (onPool id) (poolFree p)
        p.reservedBytes p.committedBytes p'.reservedBytes p'.committedBytes) ∨
    (∃ pool ctx, op = .createPool pool ctx ∧ out.success = true ∧ f.state.pools[id]? = none ∧
      f'.state.reservations = f.state.reservations ∧
      p'.reservedBytes = pool.reservedBytes ∧ p'.committedBytes = pool.committedBytes) := by
  by_cases hbooks : op.Books
  · left
    cases h with
    | refused => exact ⟨p', hp', .idle rfl⟩
    | @reserve req ctx c pool region dev epoch admission =>
      have hmap := book_reservations hnum admission.room req ctx c pool region dev
      have habsent := hnum.fresh admission.room
      obtain ⟨rfl, rfl⟩ | ⟨hid, hp'⟩ := of_getElem?_insert hp'
      · have hon : onPool c.pool (f.newReservation req ctx c dev) = true := by
          simp [onPool, newReservation]
        exact ⟨pool, admission.poolRecord,
          .reserve habsent hon rfl admission.positive admission.poolFits hmap⟩
      · have hoff : onPool id (f.newReservation req ctx c dev) = false := by
          simp [onPool, newReservation, hid]
        exact ⟨p', hp', .bookedElsewhere habsent hoff hmap⟩
    | @commit rid ctx res pool region dev guarded =>
      obtain ⟨rfl, rfl⟩ | ⟨hid, hp'⟩ := of_getElem?_insert hp'
      · have hon : onPool res.pool res = true := by simp [onPool]
        have hon' : onPool res.pool (f.committedRecord res) = true := hon
        exact ⟨pool, guarded.poolRecord,
          .commit guarded.stored hon guarded.reserved hon' rfl rfl rfl⟩
      · have hoff : onPool id res = false := by simp [onPool, hid]
        have hoff' : onPool id (f.committedRecord res) = false := hoff
        exact ⟨p', hp', .changedElsewhere guarded.stored hoff hoff' rfl⟩
    | @release rid ctx res guarded covered =>
      have hmap := f.free_reservations rid res
      change ((f.drainPoolOf res).drainRegionOf res).state.pools[id]? = some p' at hp'
      rw [drainRegionOf_pools, drainPoolOf_pools] at hp'
      split at hp'
      · next hid =>
        subst hid
        obtain ⟨p, hp, rfl⟩ := Option.map_eq_some_iff.mp hp'
        have hon : onPool res.pool res = true := by simp [onPool]
        exact ⟨p, hp, .release guarded.stored hon guarded.live_eq rfl hmap⟩
      · next hid =>
        have hoff : onPool id res = false := by simp [onPool, hid]
        have hoff' : onPool id (releasedRecord res) = false := hoff
        exact ⟨p', hp', .changedElsewhere guarded.stored hoff hoff' hmap⟩
    | @conflict rid ctx res guarded uncovered =>
      rw [drainPoolOf_pools] at hp'
      split at hp'
      · next hid =>
        subst hid
        obtain ⟨p, hp, rfl⟩ := Option.map_eq_some_iff.mp hp'
        have hon : onPool res.pool res = true := by simp [onPool]
        have hrem : (drain res.bytes p.committedBytes p.reservedBytes).remaining ≠ 0 := by
          simpa [Fabric.uncovered, hp] using uncovered
        exact ⟨p, hp, .conflict guarded.stored hon guarded.live_eq hrem⟩
      · next hid => exact ⟨p', hp', .idle (f.drainPoolOf_reservations res)⟩
    | _ => cases hbooks
  · have hmap := h.reservations_eq hbooks himport
    obtain ⟨p, hp, hr, hc⟩ | ⟨pool, ctx, hop, hout, hnone, hr, hc⟩ :=
      (h.pool id).counters hp' hbooks himport
    · left
      rw [hr, hc]
      exact ⟨p, hp, .idle hmap⟩
    · exact .inr ⟨pool, ctx, hop, hout, hnone, hmap, hr, hc⟩

/-- What a step does to the counters of a region. -/
theorem Effect.regionCounters (h : f.Effect op out f') (hnum : Numbered f)
    (hupdate : ∀ r ctx, op ≠ .updateRegion r ctx) (himport : ∀ st, op ≠ .importPersisted st)
    {id : RegionId} {r' : CxlRegion} (hr' : f'.state.regions[id]? = some r') :
    (∃ r, f.state.regions[id]? = some r ∧
      CounterStep f.state.reservations f'.state.reservations (onRegion id) (regionFree r)
        r.reservedBytes r.committedBytes r'.reservedBytes r'.committedBytes ∧
      r'.regionCapacityBytes = r.regionCapacityBytes) ∨
    (∃ ctx, op = .createRegion r' ctx ∧ out.success = true ∧ f.state.regions[id]? = none ∧
      f'.state.reservations = f.state.reservations) := by
  by_cases hbooks : op.Books
  · cases h with
    | refused => exact .inl ⟨r', hr', .idle rfl, rfl⟩
    | @reserve req ctx c pool region dev epoch admission =>
      have hmap := book_reservations hnum admission.room req ctx c pool region dev
      have habsent := hnum.fresh admission.room
      obtain ⟨rfl, rfl⟩ | ⟨hid, hr'⟩ := of_getElem?_insert hr'
      · have hon : onRegion c.region (f.newReservation req ctx c dev) = true := by
          simp [onRegion, newReservation]
        exact .inl ⟨region, admission.regionRecord,
          .reserve habsent hon rfl admission.positive admission.regionFits hmap, rfl⟩
      · have hoff : onRegion id (f.newReservation req ctx c dev) = false := by
          simp [onRegion, newReservation, hid]
        exact .inl ⟨r', hr', .bookedElsewhere habsent hoff hmap, rfl⟩
    | @commit rid ctx res pool region dev guarded =>
      obtain ⟨rfl, rfl⟩ | ⟨hid, hr'⟩ := of_getElem?_insert hr'
      · have hon : onRegion res.region res = true := by simp [onRegion]
        have hon' : onRegion res.region (f.committedRecord res) = true := hon
        exact .inl ⟨region, guarded.regionRecord,
          .commit guarded.stored hon guarded.reserved hon' rfl rfl rfl, rfl⟩
      · have hoff : onRegion id res = false := by simp [onRegion, hid]
        have hoff' : onRegion id (f.committedRecord res) = false := hoff
        exact .inl ⟨r', hr', .changedElsewhere guarded.stored hoff hoff' rfl, rfl⟩
    | @release rid ctx res guarded covered =>
      have hmap := f.free_reservations rid res
      change ((f.drainPoolOf res).drainRegionOf res).state.regions[id]? = some r' at hr'
      rw [drainRegionOf_regions, drainPoolOf_regions] at hr'
      split at hr'
      · next hid =>
        subst hid
        obtain ⟨r, hr, rfl⟩ := Option.map_eq_some_iff.mp hr'
        have hon : onRegion res.region res = true := by simp [onRegion]
        exact .inl ⟨r, hr, .release guarded.stored hon guarded.live_eq rfl hmap, rfl⟩
      · next hid =>
        have hoff : onRegion id res = false := by simp [onRegion, hid]
        have hoff' : onRegion id (releasedRecord res) = false := hoff
        exact .inl ⟨r', hr', .changedElsewhere guarded.stored hoff hoff' hmap, rfl⟩
    | @conflict rid ctx res guarded uncovered =>
      rw [drainPoolOf_regions] at hr'
      exact .inl ⟨r', hr', .idle (f.drainPoolOf_reservations res), rfl⟩
    | _ => cases hbooks
  · have hmap := h.reservations_eq hbooks himport
    obtain ⟨r, hr, hres, hcom, hcap⟩ | ⟨ctx, hop, hout, hnone⟩ :=
      (h.region id).counters hr' hbooks hupdate himport
    · left
      rw [hres, hcom]
      exact ⟨r, hr, .idle hmap, hcap⟩
    · exact .inr ⟨ctx, hop, hout, hnone, hmap⟩

end Fabric

end CxlFabric
