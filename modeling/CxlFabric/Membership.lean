import CxlFabric.RecordHistory
import CxlFabric.Eligibility

/-! # No device is governed twice

The members of all pools together name pairwise distinct devices. A step adds members to
one pool at most, and only devices that no pool governed before it. -/
namespace CxlFabric

/-- The operations that bring members into a pool. -/
inductive Op.BringsMembers : Op → Prop
  | createPool (pool : CxlPool) (ctx : AuthorityContext) : BringsMembers (.createPool pool ctx)
  | addPoolMember (id : PoolId) (m : PoolMember) (ctx : AuthorityContext) :
      BringsMembers (.addPoolMember id m ctx)

namespace Fabric
variable {f f' : Fabric} {op : Op} {out : Outcome}

/-- The devices that a pool governs, one for each of its members. -/
def membersOf (f : Fabric) (id : PoolId) : List DeviceId :=
  (f.state.pools[id]?).elim [] fun p => p.members.map (·.device)

/-- The devices that the pools govern, one for each member of each pool. -/
def governedDevices (f : Fabric) : List DeviceId :=
  f.state.pools.toList.flatMap fun pk => pk.2.members.map (·.device)

theorem membersOf_eq {id : PoolId} {p : CxlPool} (h : f.state.pools[id]? = some p) :
    f.membersOf id = p.members.map (·.device) := by rw [membersOf, h]; rfl

theorem membersOf_congr {id : PoolId} (h : f'.state.pools[id]? = f.state.pools[id]?) :
    f'.membersOf id = f.membersOf id := by rw [membersOf, membersOf, h]

theorem mem_membersOf {id : PoolId} {d : DeviceId} :
    d ∈ f.membersOf id ↔ ∃ p, f.state.pools[id]? = some p ∧ ∃ m ∈ p.members, m.device = d := by
  constructor
  · intro h
    unfold membersOf at h
    cases hp : f.state.pools[id]? with
    | none => simp [hp] at h
    | some p =>
      rw [hp] at h
      exact ⟨p, rfl, List.mem_map.mp h⟩
  · rintro ⟨p, hp, hm⟩
    rw [membersOf_eq hp]
    exact List.mem_map.mpr hm

theorem governedElsewhere_eq_false {skip : PoolId → Bool} {d : DeviceId}
    (h : governedElsewhere f.state.pools skip d = false) {id : PoolId} (hid : skip id = false) :
    d ∉ f.membersOf id := by
  intro hd
  obtain ⟨p, hp, m, hm, rfl⟩ := mem_membersOf.mp hd
  have hmem : (id, p) ∈ f.state.pools.toList :=
    Std.ExtTreeMap.mem_toList_iff_getElem?_eq_some.mpr hp
  have hno := List.any_eq_false.mp h (id, p) hmem
  simp only [hid, Bool.not_false, Bool.true_and, List.any_eq_true, not_exists, not_and,
    decide_eq_true_eq] at hno
  exact hno m hm rfl

/-- What the scan of a new pool's members has established when it finds no error. -/
theorem poolMemberError_eq_none {seen : List DeviceId} {ms : List PoolMember}
    (h : f.poolMemberError seen ms = none) :
    (ms.map (·.device)).Nodup ∧ ∀ m ∈ ms, f.state.devices.contains m.device = true ∧
      m.device ∉ seen ∧ ∀ id, m.device ∉ f.membersOf id := by
  induction ms generalizing seen with
  | nil => exact ⟨List.nodup_nil, nofun⟩
  | cons m ms ih =>
    rw [poolMemberError] at h
    split at h
    · cases h
    next hregistered =>
    split at h
    · cases h
    next hseen =>
    split at h
    · cases h
    next helsewhere =>
    obtain ⟨hnodup, hall⟩ := ih h
    refine ⟨?_, ?_⟩
    · rw [List.map_cons, List.nodup_cons]
      refine ⟨?_, hnodup⟩
      intro hmem
      obtain ⟨m', hm', heq⟩ := List.mem_map.mp hmem
      exact (hall m' hm').2.1 (by simp [heq])
    · intro m' hm'
      rcases List.mem_cons.mp hm' with rfl | hm'
      · exact ⟨by simpa using hregistered, hseen, fun id =>
          governedElsewhere_eq_false (by simpa using helsewhere) rfl⟩
      · obtain ⟨hreg, hnew, hfree⟩ := hall m' hm'
        exact ⟨hreg, fun hs => hnew (List.mem_append_left _ hs), hfree⟩

/-- The devices that a step brings under a pool: registered, and governed by no pool. -/
structure Newcomers (f : Fabric) (fresh : List DeviceId) : Prop where
  nodup : fresh.Nodup
  registered : ∀ d ∈ fresh, f.state.devices.contains d = true
  free : ∀ d ∈ fresh, ∀ id, d ∉ f.membersOf id

theorem newcomers_nil (f : Fabric) : f.Newcomers [] := ⟨List.nodup_nil, nofun, nofun⟩

/-- A pool's members come from before, but for newcomers to one pool. -/
def MembersStep (f f' : Fabric) (target : PoolId) (fresh : List DeviceId) : Prop :=
  ∀ id, ∃ kept, kept.Sublist (f.membersOf id) ∧
    f'.membersOf id = kept ++ if id = target then fresh else []

theorem MembersStep.refl (f : Fabric) (target : PoolId) : MembersStep f f target [] :=
  fun id => ⟨f.membersOf id, .refl _, by simp⟩

theorem membersStep_setPool {g : Fabric} {id : PoolId} {p : CxlPool} {kept fresh : List DeviceId}
    (hpools : g.state.pools = f.state.pools.insert id p) (hkept : kept.Sublist (f.membersOf id))
    (hmembers : p.members.map (·.device) = kept ++ fresh) : MembersStep f g id fresh := by
  intro k
  by_cases hk : id = k
  · subst hk
    refine ⟨kept, hkept, ?_⟩
    rw [membersOf_eq (by rw [hpools, getElem?_insert_eq, if_pos rfl]), if_pos rfl, hmembers]
  · refine ⟨f.membersOf k, List.Sublist.refl _, ?_⟩
    rw [if_neg (Ne.symm hk), List.append_nil]
    exact membersOf_congr (by rw [hpools, getElem?_insert_eq, if_neg hk])

/-- Every other operation leaves a pool a part of its members. -/
theorem PoolChange.members_sublist {id : PoolId} {old new : Option CxlPool} {p' : CxlPool}
    (h : PoolChange id op out old new) (hnew : new = some p') (hbrings : ¬op.BringsMembers)
    (himport : ∀ st, op ≠ .importPersisted st) :
    ∃ p, old = some p ∧ p'.members.Sublist p.members := by
  cases h with
  | same => exact ⟨p', hnew, .refl _⟩
  | created key => exact absurd (.createPool _ _) hbrings
  | added => exact absurd (.addPoolMember _ _ _) hbrings
  | @imported st => exact absurd rfl (himport st)
  | @removed d p => cases hnew; exact ⟨p, rfl, List.eraseP_sublist⟩
  | _ => cases hnew; exact ⟨_, rfl, .refl _⟩

theorem Effect.members_of_not_brings (h : f.Effect op out f') (hbrings : ¬op.BringsMembers)
    (himport : ∀ st, op ≠ .importPersisted st) (target : PoolId) : MembersStep f f' target [] := by
  intro id
  refine ⟨f'.membersOf id, ?_, by simp⟩
  cases hp' : f'.state.pools[id]? with
  | none => simp [membersOf, hp']
  | some p' =>
    obtain ⟨p, hp, hsub⟩ := (h.pool id).members_sublist hp' hbrings himport
    rw [membersOf_eq hp', membersOf_eq hp]
    exact hsub.map _

theorem createPool_members {pool : CxlPool} {g : Fabric} {p : CxlPool}
    (hscan : f.poolMemberError [] pool.members = none)
    (hpools : g.state.pools = f.state.pools.insert pool.id p) (hp : p.members = pool.members) :
    ∃ target fresh, f.Newcomers fresh ∧ MembersStep f g target fresh := by
  obtain ⟨hnodup, hall⟩ := poolMemberError_eq_none hscan
  refine ⟨pool.id, pool.members.map (·.device), ⟨hnodup, ?_, ?_⟩,
    membersStep_setPool hpools (List.nil_sublist _) (by rw [hp, List.nil_append])⟩
  · intro d hd
    obtain ⟨m, hm, rfl⟩ := List.mem_map.mp hd
    exact (hall m hm).1
  · intro d hd
    obtain ⟨m, hm, rfl⟩ := List.mem_map.mp hd
    exact (hall m hm).2.2

theorem addPoolMember_members {id : PoolId} {m : PoolMember} {old p : CxlPool} {g : Fabric}
    (present : f.state.pools[id]? = some old)
    (registered : f.state.devices.contains m.device = true)
    (newHere : old.members.any (·.device = m.device) = false)
    (newElsewhere : governedElsewhere f.state.pools (· = id) m.device = false)
    (hpools : g.state.pools = f.state.pools.insert id p) (hp : p.members = old.members ++ [m]) :
    ∃ target fresh, f.Newcomers fresh ∧ MembersStep f g target fresh := by
  have hhere : m.device ∉ f.membersOf id := by
    intro hmem
    rw [membersOf_eq present] at hmem
    obtain ⟨m', hm', heq⟩ := List.mem_map.mp hmem
    have hno := List.any_eq_false.mp newHere m' hm'
    simp [heq] at hno
  refine ⟨id, [m.device], ⟨List.nodup_singleton _, ?_, ?_⟩,
    membersStep_setPool hpools (List.Sublist.refl (f.membersOf id)) ?_⟩
  · intro d hd
    rw [List.mem_singleton.mp hd]
    exact registered
  · intro d hd k
    rw [List.mem_singleton.mp hd]
    by_cases hk : k = id
    · exact hk ▸ hhere
    · exact governedElsewhere_eq_false newElsewhere (by simpa using hk)
  · rw [hp, membersOf_eq present, List.map_append]
    rfl

/-- One step: the members that are there already, and the newcomers. -/
theorem Effect.members (h : f.Effect op out f') (himport : ∀ st, op ≠ .importPersisted st) :
    ∃ target fresh, f.Newcomers fresh ∧ MembersStep f f' target fresh := by
  by_cases hbrings : op.BringsMembers
  · cases hbrings with
    | createPool pool ctx =>
      cases h with
      | refused => exact ⟨{}, [], f.newcomers_nil, .refl f {}⟩
      | createPool epoch named absent members => exact createPool_members members rfl rfl
    | addPoolMember id m ctx =>
      cases h with
      | refused => exact ⟨{}, [], f.newcomers_nil, .refl f {}⟩
      | addPoolMember epoch present registered named newHere newElsewhere =>
        exact addPoolMember_members present registered newHere newElsewhere rfl rfl
  · exact ⟨{}, [], f.newcomers_nil, h.members_of_not_brings hbrings himport {}⟩

/-- No device is a member twice, and the members are registered. -/
structure GovernedOnce (f : Fabric) : Prop where
  nodup : ∀ id, (f.membersOf id).Nodup
  apart : ∀ {id id' : PoolId} {d : DeviceId}, d ∈ f.membersOf id → d ∈ f.membersOf id' → id = id'
  registered : ∀ {id : PoolId} {d : DeviceId}, d ∈ f.membersOf id →
    f.state.devices.contains d = true

theorem governedOnce_new (epoch : CoordinatorEpoch) (policy : PolicyGeneration) :
    GovernedOnce (new epoch policy) := by
  have hnone (id : PoolId) : (new epoch policy).membersOf id = [] := by simp [membersOf, new]
  refine ⟨?_, ?_, ?_⟩
  · intro id
    rw [hnone]
    exact List.nodup_nil
  · intro id id' d hd
    simp [hnone] at hd
  · intro id d hd
    simp [hnone] at hd

theorem GovernedOnce.step (hf : GovernedOnce f) (h : f.Effect op out f')
    (himport : ∀ st, op ≠ .importPersisted st) : GovernedOnce f' := by
  obtain ⟨target, fresh, hfresh, hstep⟩ := h.members himport
  -- A member comes from the same pool, or it is a newcomer to the target.
  have hcases {id : PoolId} {d : DeviceId} (hd : d ∈ f'.membersOf id) :
      d ∈ f.membersOf id ∨ (id = target ∧ d ∈ fresh) := by
    obtain ⟨kept, hkept, heq⟩ := hstep id
    rw [heq, List.mem_append] at hd
    rcases hd with hd | hd
    · exact .inl (hkept.subset hd)
    · split at hd
      · next hid => exact .inr ⟨hid, hd⟩
      · cases hd
  refine ⟨?_, ?_, ?_⟩
  · intro id
    obtain ⟨kept, hkept, heq⟩ := hstep id
    rw [heq, List.nodup_append']
    refine ⟨(hf.nodup id).sublist hkept, ?_, ?_⟩
    · split
      · exact hfresh.nodup
      · exact List.nodup_nil
    · intro d hd hd'
      split at hd'
      · exact hfresh.free d hd' id (hkept.subset hd)
      · cases hd'
  · intro id id' d hd hd'
    rcases hcases hd with hold | ⟨hid, hnew⟩
    · rcases hcases hd' with hold' | ⟨-, hnew'⟩
      · exact hf.apart hold hold'
      · exact absurd hold (hfresh.free d hnew' id)
    · rcases hcases hd' with hold' | ⟨hid', -⟩
      · exact absurd hold' (hfresh.free d hnew id')
      · exact hid.trans hid'.symm
  · intro id d hd
    have hreg : f.state.devices.contains d = true := by
      rcases hcases hd with hold | ⟨-, hnew⟩
      · exact hf.registered hold
      · exact hfresh.registered d hnew
    rw [← Std.ExtTreeMap.isSome_getElem?_eq_contains] at hreg ⊢
    obtain ⟨dev, hdev⟩ := Option.isSome_iff_exists.mp hreg
    obtain ⟨dev', hdev', -⟩ := h.device_kept himport hdev
    rw [hdev']
    rfl

theorem GovernedOnce.governedDevices (hf : GovernedOnce f) :
    f.governedDevices.Nodup ∧ ∀ d ∈ f.governedDevices, f.state.devices.contains d = true := by
  have hentry {id : PoolId} {p : CxlPool} (h : (id, p) ∈ f.state.pools.toList) :
      f.membersOf id = p.members.map (·.device) :=
    membersOf_eq (Std.ExtTreeMap.mem_toList_iff_getElem?_eq_some.mp h)
  refine ⟨?_, ?_⟩
  · unfold Fabric.governedDevices
    rw [List.nodup_flatMap]
    refine ⟨?_, ?_⟩
    · rintro ⟨id, p⟩ hmem
      rw [← hentry hmem]
      exact hf.nodup id
    · refine (List.Pairwise.and_mem.mp f.state.pools.distinct_keys_toList).imp ?_
      rintro ⟨id, p⟩ ⟨id', p'⟩ ⟨hmem, hmem', hne⟩ d hd hd'
      dsimp only at hd hd'
      rw [← hentry hmem] at hd
      rw [← hentry hmem'] at hd'
      exact hne (Std.LawfulEqCmp.compare_eq_iff_eq.mpr (hf.apart hd hd'))
  · intro d hd
    obtain ⟨⟨id, p⟩, hmem, hd⟩ := List.mem_flatMap.mp hd
    rw [← hentry hmem] at hd
    exact hf.registered hd

/-- In every state that a run without an import reaches, each device occurs in at most one
member over all pools, and every member's device is registered. -/
theorem devices_governed_once {epoch : CoordinatorEpoch} {policy : PolicyGeneration}
    {tr : List (Op × Outcome)} (hrun : Run exec (new epoch policy) tr f)
    (himport : ∀ e ∈ tr, ∀ st, e.1 ≠ .importPersisted st) :
    f.governedDevices.Nodup ∧ ∀ d ∈ f.governedDevices, f.state.devices.contains d = true := by
  have hgoverned : GovernedOnce f :=
    hrun.invariant (A := fun e => ∀ st, e.1 ≠ .importPersisted st)
      (fun _ _ _ _ hA hI hexec => hI.step (exec_effect hexec) hA) himport
      (governedOnce_new epoch policy)
  exact hgoverned.governedDevices

/-- Two pools with a device each. -/
theorem devices_governed_once_twoPoolRun :
    ∃ tr f, Run exec (new ⟨1⟩ ⟨1⟩) tr f ∧ (∀ e ∈ tr, ∀ st, e.1 ≠ .importPersisted st) ∧
      f.governedDevices = [⟨str "d1"⟩, ⟨str "d2"⟩] ∧ f.governedDevices.Nodup := by
  have hrun := Run.of_execAll (Option.some_get twoPoolRun_isSome).symm
  have himport : ∀ e ∈ (twoPoolRun.get twoPoolRun_isSome).1, ∀ st, e.1 ≠ .importPersisted st := by
    have hnone : (twoPoolRun.get twoPoolRun_isSome).1.all (fun e => e.1.authority.isSome) = true := by
      decide
    intro e he st hst
    have := List.all_eq_true.mp hnone e he
    rw [hst] at this
    cases this
  exact ⟨_, _, hrun, himport, by decide, (devices_governed_once hrun himport).1⟩

end Fabric

end CxlFabric
