import CxlFabric.Fencing

/-! # Membership changes as fences

A reservation is fenced when a record it names moves past the generation it was made at.
Adding or removing a pool member moves the pool unless its generation has no successor.
A reconfiguration moves the region, but an update may rewrite the members of a region at
the same generation. -/
namespace CxlFabric

theorem Generation.next_empty_iff {t : GenTag} {g : Generation t} :
    g.next.empty = false ↔ g.value < Generation.max := by
  have hlt := g.value.toNat_lt
  have hmax : Generation.max.toNat = 2 ^ 64 - 2 := rfl
  rw [UInt64.lt_iff_toNat_lt, hmax]
  constructor
  · intro h
    have hnext := lt_next h
    unfold next at h hnext
    split at h
    · cases h
    · next hne =>
      rw [if_neg hne, lt_iff, UInt64.toNat_add] at hnext
      have hother : g.value.toNat ≠ 2 ^ 64 - 2 := fun heq => hne (UInt64.toNat_inj.mp heq)
      simp only [UInt64.toNat_one] at hnext
      omega
  · intro h
    have hne : g.value ≠ Generation.max := by
      rintro heq
      rw [heq, hmax] at h
      omega
    have hsucc : (g.value + 1).toNat = g.value.toNat + 1 := by
      rw [UInt64.toNat_add, UInt64.toNat_one, Nat.mod_eq_of_lt (by omega)]
    have hpos : g.value + 1 ≠ 0 := by
      intro hzero
      rw [hzero, UInt64.toNat_zero] at hsucc
      omega
    simp [next, hne, empty, hpos]

namespace Fabric
variable {f f' : Fabric} {op : Op} {out : Outcome}

theorem anchored_of_run {epoch : CoordinatorEpoch} {policy : PolicyGeneration}
    {tr : List (Op × Outcome)} (hrun : Run exec (new epoch policy) tr f) {id : ReservationId}
    {r : Reservation} (hr : f.state.reservations[id]? = some r) : Anchored f r := by
  have hall : ∀ (id : ReservationId) (r : Reservation),
      f.state.reservations[id]? = some r → Anchored f r := by
    refine hrun.keeps (I := fun f => ∀ (id : ReservationId) (r : Reservation),
      f.state.reservations[id]? = some r → Anchored f r)
      (fun s op out s' hs hexec => (exec_effect hexec).anchored hs) ?_
    intro id r hr
    rw [new_reservations] at hr
    cases hr
  exact hall id r hr

/-- A commit finds the records at the generations of the reservation. -/
theorem CommitGuard.not_moved {id : ReservationId} {ctx : AuthorityContext} {res : Reservation}
    {pool : CxlPool} {region : CxlRegion} {dev : CxlDevice}
    (h : f.CommitGuard id ctx res pool region dev) : ¬GenerationMoved f res := by
  simp [GenerationMoved, h.poolRecord, h.regionRecord, h.deviceRecord, h.poolGeneration,
    h.regionGeneration, h.deviceGeneration]

/-- What is stored under `id` is never committed, whatever happens, until an import has
dropped it. -/
def NeverCommitted (f : Fabric) (id : ReservationId) : Prop :=
  ∀ (tr : List (Op × Outcome)) (g : Fabric) (ctx : AuthorityContext), Run exec f tr g →
    (g.commit id ctx).2.ok = true → ∃ st, .importPersisted st ∈ tr.map (·.1)

theorem neverCommitted_of_moved {id : ReservationId} {r : Reservation}
    (hr : f.state.reservations[id]? = some r) (hanchored : Anchored f r)
    (hmoved : GenerationMoved f r) : NeverCommitted f id := by
  intro tr g ctx hrun hok
  by_contra hnone
  have himport : ∀ e ∈ tr, ∀ st, e.1 ≠ .importPersisted st := by
    intro e he st heq
    exact hnone ⟨st, heq ▸ List.mem_map_of_mem he⟩
  have hkept : ∃ r, g.state.reservations[id]? = some r ∧ Anchored g r ∧ GenerationMoved g r := by
    refine hrun.invariant (A := fun e => ∀ st, e.1 ≠ .importPersisted st)
      (I := fun g => ∃ r, g.state.reservations[id]? = some r ∧ Anchored g r ∧ GenerationMoved g r)
      ?_ himport ⟨r, hr, hanchored, hmoved⟩
    intro s op out s' hop hs hexec
    have heffect := exec_effect hexec
    obtain ⟨r, hr, ha, hm⟩ := hs
    obtain ⟨r', hr', hsame⟩ := heffect.authority_kept hr hop
    exact ⟨r', hr', ha.step heffect hsame hop, hm.step ha heffect hsame hop⟩
  obtain ⟨r', hr', -, hm⟩ := hkept
  obtain ⟨res, pool, region, dev, hguard⟩ := commit_ok hok
  cases hguard.stored.symm.trans hr'
  exact hguard.not_moved hm

/-- The operations that change the members of a pool. -/
inductive ChangesMembers (id : PoolId) : Op → Prop
  | add (m : PoolMember) (ctx : AuthorityContext) : ChangesMembers id (.addPoolMember id m ctx)
  | remove (d : DeviceId) (ctx : AuthorityContext) :
      ChangesMembers id (.removePoolMember id d ctx)

theorem ChangesMembers.not_import {id : PoolId} (h : ChangesMembers id op) (st : PersistedState) :
    op ≠ .importPersisted st := by
  cases h with
  | add | remove => simp

theorem ChangesMembers.generation {id : PoolId} {p : CxlPool} (h : ChangesMembers id op)
    (hexec : f.exec op = some (f', out)) (hok : out.success = true)
    (hp : f.state.pools[id]? = some p) :
    ∃ p', f'.state.pools[id]? = some p' ∧ p'.generation = advance p.generation := by
  have heffect := exec_effect hexec
  cases h with
  | add m ctx =>
    cases heffect with
    | refused fallible failed => simp [failed] at hok
    | addPoolMember epoch present =>
      cases present.symm.trans hp
      rw [recomputeLedger_state_pools, setPool_state_pools, getElem?_insert_eq, if_pos rfl]
      exact ⟨_, rfl, rfl⟩
  | remove d ctx =>
    cases heffect with
    | refused fallible failed => simp [failed] at hok
    | removePoolMember epoch present =>
      cases present.symm.trans hp
      rw [recomputeLedger_state_pools, setPool_state_pools, getElem?_insert_eq, if_pos rfl]
      exact ⟨_, rfl, rfl⟩

theorem advance_lt_iff {t : GenTag} {g : Generation t} :
    g < advance g ↔ g.value < Generation.max := by
  rw [← Generation.next_empty_iff]
  unfold advance
  split
  · next h => simp [h]
  · next h =>
    have hnext : g.next.empty = false := by simpa using h
    simp [hnext, Generation.lt_next hnext]

/-- A membership change fences the reservations on the pool exactly when the generation of
the pool has a successor. -/
theorem membership_change_fences_iff {epoch : CoordinatorEpoch} {policy : PolicyGeneration}
    {tr : List (Op × Outcome)} (hrun : Run exec (new epoch policy) tr f) {id : PoolId}
    {p : CxlPool} (hop : ChangesMembers id op) (hexec : f.exec op = some (f', out))
    (hok : out.success = true) (hp : f.state.pools[id]? = some p) :
    ((∃ p', f'.state.pools[id]? = some p' ∧ p.generation < p'.generation) ∧
      ∀ (rid : ReservationId) (X : Reservation), f.state.reservations[rid]? = some X →
        X.pool = id → f'.NeverCommitted rid) ↔
      p.generation.value < Generation.max := by
  obtain ⟨p', hp', hgen⟩ := hop.generation hexec hok hp
  rw [← advance_lt_iff, ← hgen]
  constructor
  · rintro ⟨⟨q, hq, hlt⟩, -⟩
    cases hp'.symm.trans hq
    exact hlt
  · intro hlt
    refine ⟨⟨p', hp', hlt⟩, ?_⟩
    rintro rid X hX rfl
    have heffect := exec_effect hexec
    obtain ⟨X', hX', hsame⟩ := heffect.authority_kept hX hop.not_import
    have hanchored := anchored_of_run hrun hX
    obtain ⟨q, hq, hle⟩ := hanchored.pool
    cases hp.symm.trans hq
    refine neverCommitted_of_moved hX' (hanchored.step heffect hsame hop.not_import) (.inl ?_)
    rw [hsame.pool, hsame.poolGeneration, hp', Option.map_some]
    exact fun heq => (hle.trans_lt hlt).ne' (Option.some.inj heq)

/-- A reservation on the sample pool, and a new member for it. -/
def spareMember : PoolMember :=
  { device := ⟨str "d2"⟩, deviceGeneration := ⟨1⟩, nominalBytes := Synthetic.sampleBytes
    online := true, healthOk := true }

/-- The sample topology with the pool at a given generation, and a reservation on it. -/
def reservedAt (gen : UInt64) : List Op :=
  [.registerDevice Synthetic.sampleDevice (Synthetic.context ⟨1⟩),
    .registerDevice { Synthetic.sampleDevice with id := ⟨str "d2"⟩ } (Synthetic.context ⟨1⟩),
    .createPool { Synthetic.samplePool with generation := ⟨gen⟩ } (Synthetic.context ⟨1⟩),
    .createRegion Synthetic.sampleRegion (Synthetic.context ⟨1⟩),
    .reserve Synthetic.sampleRequest (Synthetic.context ⟨1⟩)]

theorem membership_change_fences_reservedAt : ∃ tr f, Run exec (new ⟨1⟩ ⟨1⟩) tr f ∧
    (f.commit (reservationId 1) (Synthetic.context ⟨1⟩)).2.ok = true ∧
    (f.addPoolMember ⟨str "p-1"⟩ spareMember (Synthetic.context ⟨1⟩)).2 = .ok ∧
    (f.addPoolMember ⟨str "p-1"⟩ spareMember (Synthetic.context ⟨1⟩)).1.NeverCommitted
      (reservationId 1) := by
  obtain ⟨tr, f, hrun, hcommit, hok, ⟨p, hp, hgen⟩, X, hX, hpool⟩ :
      ∃ tr f, Run exec (new ⟨1⟩ ⟨1⟩) tr f ∧
        (f.commit (reservationId 1) (Synthetic.context ⟨1⟩)).2.ok = true ∧
        (f.addPoolMember ⟨str "p-1"⟩ spareMember (Synthetic.context ⟨1⟩)).2 = .ok ∧
        (∃ p ∈ f.state.pools[(⟨str "p-1"⟩ : PoolId)]?, p.generation.value < Generation.max) ∧
        ∃ X ∈ f.state.reservations[reservationId 1]?, X.pool = ⟨str "p-1"⟩ := by
    apply Run.exists_of_execAll (l := reservedAt 1)
    decide +kernel
  have hexec : f.exec (.addPoolMember ⟨str "p-1"⟩ spareMember (Synthetic.context ⟨1⟩)) =
      some (_, .decision _) := rfl
  have hiff := membership_change_fences_iff hrun (.add _ _) hexec (by simpa using hok) hp
  exact ⟨tr, f, hrun, hcommit, hok, (hiff.mpr hgen).2 _ X hX hpool⟩

/-- At the last generation a new member fences nothing. -/
theorem last_generation_fences_nothing : ∃ tr f, Run exec (new ⟨1⟩ ⟨1⟩) tr f ∧
    (∃ p ∈ f.state.pools[(⟨str "p-1"⟩ : PoolId)]?, p.generation = ⟨Generation.max⟩) ∧
    (∃ X ∈ f.state.reservations[reservationId 1]?, X.pool = ⟨str "p-1"⟩) ∧
    (f.addPoolMember ⟨str "p-1"⟩ spareMember (Synthetic.context ⟨1⟩)).2 = .ok ∧
    (∃ p ∈ (f.addPoolMember ⟨str "p-1"⟩ spareMember
      (Synthetic.context ⟨1⟩)).1.state.pools[(⟨str "p-1"⟩ : PoolId)]?,
      p.generation = ⟨Generation.max⟩) ∧
    ((f.addPoolMember ⟨str "p-1"⟩ spareMember (Synthetic.context ⟨1⟩)).1.commit
      (reservationId 1) (Synthetic.context ⟨1⟩)).2.ok = true := by
  apply Run.exists_of_execAll (l := reservedAt Generation.max)
  decide +kernel

/-! ## Regions -/

/-- The members or the owner of a region are not what they were. -/
def Rewritten (r r' : CxlRegion) : Prop := r'.memberDevices ≠ r.memberDevices ∨ r'.pool ≠ r.pool

/-- An update that is accepted at the stored generation rewrites a region. -/
def RewritesInPlace (f : Fabric) : Op → Prop
  | .updateRegion region ctx => f.Authorized ctx ∧ ∃ old : CxlRegion,
    f.state.regions[region.id]? = some old ∧ old.generation = region.generation ∧
      Rewritten old region
  | _ => False

theorem updateRegion_eq {region old : CxlRegion} {ctx : AuthorityContext}
    (hepoch : f.Authorized ctx) (hold : f.state.regions[region.id]? = some old)
    (hgen : old.generation ≤ region.generation) :
    f.updateRegion region ctx = (f.setRegion region.id region, .ok) := by
  simp [updateRegion, staleEpoch_eq_false.mpr hepoch, hold, not_lt.mpr hgen]

theorem RegionChange.rewritten_generation_lt {id : RegionId} {r r' : CxlRegion}
    (h : RegionChange id op out (some r) (some r')) (himport : ∀ st, op ≠ .importPersisted st)
    (hupdate : ∀ ctx, op = .updateRegion r' ctx → r'.id = id → r.generation = r'.generation →
      ¬Rewritten r r')
    (hrewritten : Rewritten r r') : r.generation < r'.generation := by
  generalize hold : some r = old at h
  generalize hnew : some r' = new at h
  cases h with
  | same =>
    cases Option.some.inj (hold.trans hnew.symm)
    simp [Rewritten] at hrewritten
  | created => cases hold
  | @updated region old ctx key generation =>
    cases hold
    cases hnew
    exact lt_of_le_of_ne generation (fun heq => hupdate ctx rfl key heq hrewritten)
  | reconfigured next =>
    cases hold
    cases hnew
    exact Generation.lt_next next
  | draining | revalidated | booked =>
    cases hold
    cases hnew
    simp [Rewritten] at hrewritten
  | @imported st => exact absurd rfl (himport st)

/-- Whatever changes the members or the owner of a region fences the reservations on it,
unless it is an update at the stored generation. -/
theorem region_rewrite_fences_iff {epoch : CoordinatorEpoch} {policy : PolicyGeneration}
    {tr : List (Op × Outcome)} (hrun : Run exec (new epoch policy) tr f)
    (himport : ∀ st, op ≠ .importPersisted st) (hexec : f.exec op = some (f', out)) :
    (∀ (id : RegionId) (r r' : CxlRegion), f.state.regions[id]? = some r →
      f'.state.regions[id]? = some r' → Rewritten r r' → r.generation < r'.generation ∧
        ∀ (rid : ReservationId) (X : Reservation), f.state.reservations[rid]? = some X →
          X.region = id → f'.NeverCommitted rid) ↔
      ¬f.RewritesInPlace op := by
  have heffect := exec_effect hexec
  constructor
  · intro hfences hinplace
    cases op with
    | updateRegion region ctx =>
      obtain ⟨hepoch, old, hold, hgen, hrewritten⟩ := hinplace
      have hwritten : f' = f.setRegion region.id region := by
        have hdecided : f.exec (.updateRegion region ctx) =
            decided (f.updateRegion region ctx) := rfl
        rw [hdecided, updateRegion_eq hepoch hold hgen.le] at hexec
        cases hexec
        rfl
      have hnew : f'.state.regions[region.id]? = some region := by
        rw [hwritten, setRegion_state_regions, getElem?_insert_eq, if_pos rfl]
      exact (hfences region.id old region hold hnew hrewritten).1.ne hgen
    | _ => exact hinplace
  · intro hnot id r r' hr hr' hrewritten
    have hchange := heffect.region id
    rw [hr, hr'] at hchange
    have hlt : r.generation < r'.generation := by
      refine hchange.rewritten_generation_lt himport ?_ hrewritten
      rintro ctx rfl rfl hgen hrewritten
      apply hnot
      cases heffect with
      | refused =>
        cases hr.symm.trans hr'
        simp [Rewritten] at hrewritten
      | updateRegion epoch present => exact ⟨epoch, r, hr, hgen, hrewritten⟩
    refine ⟨hlt, ?_⟩
    rintro rid X hX rfl
    obtain ⟨X', hX', hsame⟩ := heffect.authority_kept hX himport
    have hanchored := anchored_of_run hrun hX
    obtain ⟨q, hq, hle⟩ := hanchored.region
    cases hr.symm.trans hq
    refine neverCommitted_of_moved hX' (hanchored.step heffect hsame himport) (.inr (.inl ?_))
    rw [hsame.region, hsame.regionGeneration, hr', Option.map_some]
    exact fun heq => (hle.trans_lt hlt).ne' (Option.some.inj heq)

/-- A reconfiguration of the sample region to no members fences the reservation on it. -/
theorem region_rewrite_fences_reservedAt : ∃ tr f, Run exec (new ⟨1⟩ ⟨1⟩) tr f ∧
    (f.commit (reservationId 1) (Synthetic.context ⟨1⟩)).2.ok = true ∧
    (f.reconfigureRegion ⟨str "r1"⟩ [] (Synthetic.context ⟨1⟩)).1.NeverCommitted
      (reservationId 1) := by
  obtain ⟨tr, f, hrun, hcommit, ⟨X, hX, hregion⟩, r, hr, r', hr', hmembers⟩ :
      ∃ tr f, Run exec (new ⟨1⟩ ⟨1⟩) tr f ∧
        (f.commit (reservationId 1) (Synthetic.context ⟨1⟩)).2.ok = true ∧
        (∃ X ∈ f.state.reservations[reservationId 1]?, X.region = ⟨str "r1"⟩) ∧
        ∃ r ∈ f.state.regions[(⟨str "r1"⟩ : RegionId)]?,
          ∃ r' ∈ (f.reconfigureRegion ⟨str "r1"⟩ []
              (Synthetic.context ⟨1⟩)).1.state.regions[(⟨str "r1"⟩ : RegionId)]?,
            r'.memberDevices ≠ r.memberDevices := by
    apply Run.exists_of_execAll (l := reservedAt 1)
    decide +kernel
  have hexec : f.exec (.reconfigureRegion ⟨str "r1"⟩ [] (Synthetic.context ⟨1⟩)) =
      some (_, .reconfigured _) := rfl
  have hiff := region_rewrite_fences_iff hrun (by simp) hexec
  exact ⟨tr, f, hrun, hcommit, (hiff.mpr id _ r r' hr hr' (.inl hmembers)).2 _ X hX hregion⟩

/-- The sample region on another device, with the counters and the generation it has. -/
def movedRegion : CxlRegion :=
  { Synthetic.sampleRegion with
    memberDevices := [⟨str "d2"⟩], reservedBytes := Synthetic.sampleRequest.bytes }

/-- An update moves a region to another device, and its reservation is committed. -/
theorem rewrite_in_place_fences_nothing : ∃ tr f, Run exec (new ⟨1⟩ ⟨1⟩) tr f ∧
    (f.updateRegion movedRegion (Synthetic.context ⟨1⟩)).2 = .ok ∧
    (∃ r ∈ f.state.regions[(⟨str "r1"⟩ : RegionId)]?,
      ∃ r' ∈ (f.updateRegion movedRegion
          (Synthetic.context ⟨1⟩)).1.state.regions[(⟨str "r1"⟩ : RegionId)]?,
        r'.memberDevices ≠ r.memberDevices ∧ r'.generation = r.generation) ∧
    (∃ X ∈ f.state.reservations[reservationId 1]?, X.region = ⟨str "r1"⟩) ∧
    ((f.updateRegion movedRegion (Synthetic.context ⟨1⟩)).1.commit (reservationId 1)
      (Synthetic.context ⟨1⟩)).2.ok = true := by
  apply Run.exists_of_execAll (l := reservedAt 1)
  decide +kernel

end Fabric

end CxlFabric
