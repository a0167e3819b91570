import CxlFabric.Bookings
import CxlFabric.CoordinatorAuthority

/-! # Who may release

A commit checks the epoch and the worker that made the reservation. A release checks
neither: the current epoch in the context is enough. -/
namespace CxlFabric
namespace Fabric

/-- The two checks of a commit on who made the reservation. -/
def WorkerFence (f : Fabric) (ctx : AuthorityContext) (res : Reservation) : Prop :=
  res.createdEpoch = f.state.coordinatorEpoch ∧
    (ctx.workerBootId.empty = true ∨ ctx.workerBootId = res.workerBootId)

/-- The record of a reservation and the counters of all pools and regions are as before. -/
structure Untouched (f f' : Fabric) (id : ReservationId) : Prop where
  reservation : f'.state.reservations[id]? = f.state.reservations[id]?
  pools : ∀ p : PoolId, f'.state.pools[p]?.map (fun q => (q.reservedBytes, q.committedBytes)) =
    f.state.pools[p]?.map fun q => (q.reservedBytes, q.committedBytes)
  regions : ∀ r : RegionId, f'.state.regions[r]?.map (fun q => (q.reservedBytes, q.committedBytes)) =
    f.state.regions[r]?.map fun q => (q.reservedBytes, q.committedBytes)

theorem Untouched.refl (f : Fabric) (id : ReservationId) : Untouched f f id :=
  ⟨rfl, fun _ => rfl, fun _ => rfl⟩

section release
variable {f : Fabric} {id : ReservationId} {res : Reservation}

/-- A release goes by the epoch in the context, the state of the reservation and the
counters of its pool, and by nothing else. -/
theorem release_cases (hstored : f.state.reservations[id]? = some res) (ctx : AuthorityContext) :
    (¬f.Authorized ctx ∨ res.live = false) ∧ (f.release id ctx).1 = f ∧
        (f.release id ctx).2.ok = false ∨
    f.Authorized ctx ∧ res.live = true ∧ f.uncovered res = true ∧
        (f.release id ctx).1 = f.drainPoolOf res ∧ (f.release id ctx).2.ok = false ∨
    f.Authorized ctx ∧ res.live = true ∧ f.uncovered res = false ∧
        (f.release id ctx).1 = f.free id res ∧ (f.release id ctx).2.ok = true := by
  unfold release
  rw [hstored]
  dsimp only
  split
  · next hreleased =>
    refine .inl ⟨.inr ?_, rfl, rfl⟩
    simp [Reservation.live, hreleased]
  split
  · next hstale =>
    refine .inl ⟨.inl ?_, rfl, rfl⟩
    rw [← staleEpoch_eq_false, hstale]
    simp
  next hstale =>
  have hauthorized : f.Authorized ctx := staleEpoch_eq_false.mp (by simpa using hstale)
  split
  · next hstate =>
    refine .inl ⟨.inr ?_, rfl, rfl⟩
    simp [Reservation.live, hstate]
  next hstate =>
  have hlive : res.live = true := by
    simp only [Reservation.live, decide_eq_true_eq]
    tauto
  split
  · next huncovered => exact .inr (.inl ⟨hauthorized, hlive, huncovered, rfl, rfl⟩)
  · next hcovered => exact .inr (.inr ⟨hauthorized, hlive, by simpa using hcovered, rfl, rfl⟩)

theorem release_ok_iff (hstored : f.state.reservations[id]? = some res) (ctx : AuthorityContext) :
    (f.release id ctx).2.ok = true ↔
      f.Authorized ctx ∧ res.live = true ∧ f.uncovered res = false := by
  rcases release_cases hstored ctx with ⟨hno, -, hok⟩ | ⟨ha, hl, hu, -, hok⟩ | ⟨ha, hl, hu, -, hok⟩
  · rw [hok]
    simp only [Bool.false_eq_true, false_iff, not_and]
    intro ha hl
    rcases hno with hno | hno
    · exact absurd ha hno
    · rw [hl] at hno
      cases hno
  · simp [hok, hu]
  · simp [hok, ha, hl, hu]

/-- A drain that leaves a remainder takes the committed bytes and nothing else. -/
theorem drain_uncovered {bytes committed reserved : ByteCount}
    (h : (drain bytes committed reserved).remaining ≠ 0) :
    (drain bytes committed reserved).reserved = reserved ∧
      ((drain bytes committed reserved).committed = committed ↔ committed = 0) := by
  simp only [drain] at h ⊢
  generalize htake : (if bytes > 0 ∧ committed > 0 then (if bytes < committed then bytes else committed)
    else 0 : ByteCount) = take at h ⊢
  split at h
  · exact absurd rfl h
  next hrest =>
  rw [if_neg hrest]
  refine ⟨rfl, ?_⟩
  have htake_zero : take = 0 ↔ committed = 0 := by
    constructor
    · intro hzero
      by_contra hcommitted
      have hbytes : bytes = 0 := by
        by_contra hbytes
        rw [if_pos ⟨UInt64.pos_iff_ne_zero.mpr hbytes, UInt64.pos_iff_ne_zero.mpr hcommitted⟩] at htake
        rw [hzero] at htake
        split at htake
        · exact hbytes htake
        · exact hcommitted htake
      simp [hbytes, hzero] at h
    · rintro rfl
      rw [← htake]
      simp
  rw [← htake_zero]
  constructor
  · intro heq
    have hnat := congrArg UInt64.toNat heq
    rw [UInt64.toNat_sub] at hnat
    have hlt := take.toNat_lt
    have hlt' := committed.toNat_lt
    apply UInt64.toNat_inj.mp
    rw [UInt64.toNat_zero]
    omega
  · rintro rfl
    exact UInt64.sub_zero committed

/-- A release in conflict leaves the counters alone only where nothing is committed. -/
theorem drainPoolOf_untouched_iff (huncovered : f.uncovered res = true) :
    Untouched f (f.drainPoolOf res) id ↔
      ∀ pool, f.state.pools[res.pool]? = some pool → pool.committedBytes = 0 := by
  unfold uncovered at huncovered
  split at huncovered
  · cases huncovered
  next pool hpool =>
  have hdrain := drain_uncovered (by simpa using huncovered)
  constructor
  · intro huntouched pool' hpool'
    cases hpool.symm.trans hpool'
    have hcounters := huntouched.pools res.pool
    rw [drainPoolOf_pools, if_pos rfl, hpool] at hcounters
    simp only [Option.map_some, drainPool, Option.some.injEq, Prod.mk.injEq] at hcounters
    exact hdrain.2.mp hcounters.2
  · intro hzero
    refine ⟨by rw [drainPoolOf_reservations], ?_, fun r => by rw [drainPoolOf_regions]⟩
    intro p
    rw [drainPoolOf_pools]
    split
    · next hp =>
      subst hp
      rw [hpool]
      simp only [Option.map_some, drainPool, hdrain.1, hdrain.2.mpr (hzero pool hpool)]
    · rfl

theorem release_untouched_iff (hstored : f.state.reservations[id]? = some res)
    {ctx : AuthorityContext} (hauthorized : f.Authorized ctx) :
    Untouched f (f.release id ctx).1 id ↔ res.live = false ∨ f.uncovered res = true ∧
      ∀ pool, f.state.pools[res.pool]? = some pool → pool.committedBytes = 0 := by
  rcases release_cases hstored ctx with ⟨hno, hsame, -⟩ | ⟨-, hl, hu, hsame, -⟩ | ⟨-, hl, hu, hsame, -⟩
  · have hdead : res.live = false := by
      rcases hno with hno | hno
      · exact absurd hauthorized hno
      · exact hno
    rw [hsame]
    exact iff_of_true (.refl f id) (.inl hdead)
  · rw [hsame, drainPoolOf_untouched_iff hu]
    simp [hl, hu]
  · rw [hsame]
    refine iff_of_false ?_ (by simp [hl, hu])
    intro huntouched
    have hrecord := huntouched.reservation
    rw [free_reservations, getElem?_insert_eq, if_pos rfl, hstored, Option.some.injEq] at hrecord
    have hstate : res.state = .released := by
      rw [← hrecord]
      rfl
    simp [Reservation.live, hstate] at hl

end release

end Fabric

namespace Coordinator

/-- A worker is about to release a reservation that a worker with another boot id made. -/
def ForeignRelease (s : Coordinator) (a : Act) (id : ReservationId) : Prop :=
  ∃ c b w res, a = .advance c b ∧ s.connections[c]? = some w ∧
    w.phase = .dispatching { type := .release, payload := id.value } ∧
    s.fabric.state.reservations[id]? = some res ∧ w.boot.empty = false ∧ w.boot ≠ res.workerBootId

/-- A release finds nothing to take: the reservation is not live, or its pool has nothing
committed and less reserved than it would take. -/
def NothingToRelease (f : Fabric) (id : ReservationId) : Prop :=
  ∀ res, f.state.reservations[id]? = some res → res.live = false ∨ f.uncovered res = true ∧
    ∀ pool, f.state.pools[res.pool]? = some pool → pool.committedBytes = 0

theorem ForeignRelease.untouched_iff {s s' : Coordinator} {a : Act} {r : Report}
    {id : ReservationId} (h : s.ForeignRelease a id) (hexec : s.exec a = some (s', r)) :
    s.fabric.Untouched s'.fabric id ↔ NothingToRelease s.fabric id := by
  obtain ⟨c, b, w, res, rfl, hw, hphase, hstored, -, -⟩ := h
  have hfabric : s'.fabric = (s.fabric.release id (s.context w)).1 := by
    rw [exec_dispatch hw hphase] at hexec
    cases hexec
    rfl
  have hauthorized : s.fabric.Authorized (s.context w) := rfl
  rw [hfabric, Fabric.release_untouched_iff hstored hauthorized]
  constructor
  · intro hnothing res' hstored'
    cases hstored.symm.trans hstored'
    exact hnothing
  · intro hnothing
    exact hnothing res hstored

/-- When a release respects the worker fence of a commit, and which runs keep foreign
workers from the reservations and the counters. -/
theorem release_fenced_iff (id : ReservationId) :
    (∀ (f : Fabric) (res : Reservation) (ctx : AuthorityContext),
      f.state.reservations[id]? = some res →
      (((f.release id ctx).2.ok = true → f.WorkerFence ctx res) ↔
        f.WorkerFence ctx res ∨ ¬f.Authorized ctx ∨ res.live = false ∨ f.uncovered res = true)) ∧
    ∀ (epoch : CoordinatorEpoch) (recovered : Option PersistedState) (persist : Bool)
      (tr : List (Act × Report)) (s : Coordinator),
      Run exec (start epoch recovered persist) tr s →
      ((∀ t a t', Occurs exec (start epoch recovered persist) tr t a t' → t.ForeignRelease a id →
        t.fabric.Untouched t'.fabric id) ↔
      ∀ t a t', Occurs exec (start epoch recovered persist) tr t a t' → t.ForeignRelease a id →
        NothingToRelease t.fabric id) := by
  constructor
  · intro f res ctx hstored
    rw [Fabric.release_ok_iff hstored]
    by_cases hfence : f.WorkerFence ctx res
    · simp [hfence]
    · simp only [hfence, imp_false, false_or, not_and_or, Bool.not_eq_true, Bool.not_eq_false]
  · intro epoch recovered persist tr s hrun
    constructor
    · intro huntouched t a t' hoccurs hforeign
      obtain ⟨r, hexec⟩ := hoccurs.step
      exact (hforeign.untouched_iff hexec).mp (huntouched t a t' hoccurs hforeign)
    · intro hnothing t a t' hoccurs hforeign
      obtain ⟨r, hexec⟩ := hoccurs.step
      exact (hforeign.untouched_iff hexec).mpr (hnothing t a t' hoccurs hforeign)

/-- One worker reserves and another one is about to release. -/
def releasingRun : Option (List (Act × Report) × Coordinator) :=
  execAll exec (start ⟨1⟩ none false) (Worker.publish 0 (str "w-1") ++
    Worker.serve 0 (Worker.reserveFrame 4096 (str "c0")) ++ Worker.connect 1 (str "w-2") ++
    [.receive 1 (some (Worker.releaseFrame (Fabric.reservationId 1)))])

/-- The second worker is about to release the live reservation of the first. -/
def releases (s : Coordinator) : Bool :=
  match s.connections[1]?, s.fabric.state.reservations[Fabric.reservationId 1]? with
  | some w, some res =>
    w.phase = .dispatching (Worker.releaseFrame (Fabric.reservationId 1)) ∧
      w.boot = ⟨str "w-2"⟩ ∧ res.workerBootId = ⟨str "w-1"⟩ ∧ res.live = true ∧
      s.fabric.uncovered res = false
  | _, _ => false

theorem releasingRun_releases : releasingRun.any (fun q => releases q.2) = true := by decide +kernel

/-- A worker frees the bytes of another one. -/
theorem foreign_worker_releases :
    ∃ tr s s' b r w res, Run exec (start ⟨1⟩ none false) tr s ∧
      s.exec (.advance 1 b) = some (s', r) ∧
      s.ForeignRelease (.advance 1 b) (Fabric.reservationId 1) ∧ s.connections[1]? = some w ∧
      s.fabric.state.reservations[Fabric.reservationId 1]? = some res ∧
      (s.fabric.release (Fabric.reservationId 1) (s.context w)).2.ok = true ∧
      ¬s.fabric.WorkerFence (s.context w) res ∧
      ¬s.fabric.Untouched s'.fabric (Fabric.reservationId 1) := by
  obtain ⟨⟨tr, s⟩, hrun, hreleases⟩ := (Option.any_eq_true _ _).mp releasingRun_releases
  dsimp only [releases] at hreleases
  split at hreleases
  · next w res hw hres =>
    simp only [decide_eq_true_eq] at hreleases
    obtain ⟨hphase, hboot, hresBoot, hlive, hcovered⟩ := hreleases
    have hdispatch := exec_dispatch hw hphase fun _ => 0
    have hforeign : s.ForeignRelease (.advance 1 fun _ => 0) (Fabric.reservationId 1) := by
      refine ⟨1, _, w, res, rfl, hw, hphase, hres, ?_, ?_⟩
      · rw [hboot]
        decide
      · rw [hboot, hresBoot]
        decide
    refine ⟨tr, s, _, _, _, w, res, Run.of_execAll hrun, hdispatch, hforeign, hw, hres, ?_, ?_, ?_⟩
    · exact (Fabric.release_ok_iff hres _).mpr ⟨rfl, hlive, hcovered⟩
    · have hctx : (s.context w).workerBootId = ⟨str "w-2"⟩ := hboot
      unfold Fabric.WorkerFence
      rw [hctx, hresBoot]
      rintro ⟨-, hworker⟩
      exact absurd hworker (by decide)
    · rw [hforeign.untouched_iff hdispatch]
      intro hnothing
      rcases hnothing res hres with hdead | ⟨huncovered, -⟩
      · rw [hlive] at hdead
        cases hdead
      · rw [hcovered] at huncovered
        cases huncovered
  · cases hreleases

end Coordinator

end CxlFabric
