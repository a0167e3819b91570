import CxlFabric.Eligibility

/-! # Reservations and the members of their pools

Selection walks from a region to the devices it lists and never looks at the members of the
pool. A reservation lands on a current member of its pool as long as every step keeps the
devices of a region among the current members of the pool that owns it. -/
namespace CxlFabric

/-- The device is an online and healthy member at this generation. -/
def CxlPool.HasCurrent (p : CxlPool) (d : DeviceId) (g : DeviceGeneration) : Prop :=
  ∃ m ∈ p.members, m.device = d ∧ m.online = true ∧ m.healthOk = true ∧ m.deviceGeneration = g

instance (p : CxlPool) (d : DeviceId) (g : DeviceGeneration) : Decidable (p.HasCurrent d g) :=
  inferInstanceAs (Decidable (∃ m ∈ p.members, _))

/-- The registered ones among the devices are current members. -/
def MembersCurrent (devices : Map DeviceId CxlDevice) (p : CxlPool) (ds : List DeviceId) : Prop :=
  ∀ d ∈ ds, ∀ dev ∈ devices[d]?, p.HasCurrent d dev.generation

instance (devices : Map DeviceId CxlDevice) (p : CxlPool) (ds : List DeviceId) :
    Decidable (MembersCurrent devices p ds) := inferInstanceAs (Decidable (∀ d ∈ ds, _))

/-- The devices of every region are current members of the pool that owns it. -/
def Linked (devices : Map DeviceId CxlDevice) (regions : Map RegionId CxlRegion)
    (pools : Map PoolId CxlPool) : Prop :=
  ∀ (R : RegionId) (r : CxlRegion) (p : CxlPool), regions[R]? = some r →
    pools[r.pool]? = some p → MembersCurrent devices p r.memberDevices

namespace Linked
variable {devices : Map DeviceId CxlDevice} {regions : Map RegionId CxlRegion}
  {pools : Map PoolId CxlPool}

theorem insertDevice (h : Linked devices regions pools) {id : DeviceId} {dev : CxlDevice}
    (hdev : ∀ (R : RegionId) (r : CxlRegion) (p : CxlPool), regions[R]? = some r →
      pools[r.pool]? = some p → id ∈ r.memberDevices → p.HasCurrent id dev.generation) :
    Linked (devices.insert id dev) regions pools := by
  intro R r p hr hp d hd dev' hdev'
  obtain ⟨rfl, rfl⟩ | ⟨-, hdev'⟩ := of_getElem?_insert hdev'
  · exact hdev R r p hr hp hd
  · exact h R r p hr hp d hd dev' hdev'

theorem insertRegion (h : Linked devices regions pools) {id : RegionId} {region : CxlRegion}
    (hregion : ∀ p, pools[region.pool]? = some p →
      MembersCurrent devices p region.memberDevices) :
    Linked devices (regions.insert id region) pools := by
  intro R r p hr hp
  obtain ⟨-, rfl⟩ | ⟨-, hr⟩ := of_getElem?_insert hr
  · exact hregion p hp
  · exact h R r p hr hp

theorem insertPool (h : Linked devices regions pools) {id : PoolId} {pool : CxlPool}
    (hpool : ∀ (R : RegionId) (r : CxlRegion), regions[R]? = some r → r.pool = id →
      MembersCurrent devices pool r.memberDevices) :
    Linked devices regions (pools.insert id pool) := by
  intro R r p hr hp
  obtain ⟨heq, rfl⟩ | ⟨-, hp⟩ := of_getElem?_insert hp
  · exact hpool R r hr heq.symm
  · exact h R r p hr hp

/-- A device record of the same generation. -/
theorem replaceDevice (h : Linked devices regions pools) {id : DeviceId} {old dev : CxlDevice}
    (hold : devices[id]? = some old) (hgeneration : dev.generation = old.generation) :
    Linked (devices.insert id dev) regions pools := by
  apply h.insertDevice
  intro R r p hr hp hd
  rw [hgeneration]
  exact h R r p hr hp id hd old hold

/-- A region record with the same pool and the same devices. -/
theorem replaceRegion (h : Linked devices regions pools) {id : RegionId} {old region : CxlRegion}
    (hold : regions[id]? = some old) (hpool : region.pool = old.pool)
    (hdevices : region.memberDevices = old.memberDevices) :
    Linked devices (regions.insert id region) pools := by
  apply h.insertRegion
  intro p hp
  rw [hpool] at hp
  rw [hdevices]
  exact h id old p hold hp

/-- A pool record with the same members, or with more. -/
theorem replacePool (h : Linked devices regions pools) {id : PoolId} {old pool : CxlPool}
    (hold : pools[id]? = some old) (hmembers : old.members ⊆ pool.members) :
    Linked devices regions (pools.insert id pool) := by
  apply h.insertPool
  intro R r hr hid d hd dev hdev
  subst hid
  obtain ⟨m, hm, hcurrent⟩ := h R r old hr hold d hd dev hdev
  exact ⟨m, hmembers hm, hcurrent⟩

/-- Without the member of a device that no region of the pool lists. -/
theorem removeMember (h : Linked devices regions pools) {id : PoolId} {d : DeviceId}
    {old pool : CxlPool} (hold : pools[id]? = some old)
    (hmembers : pool.members = old.members.eraseP (·.device = d))
    (hunlisted : ∀ e ∈ regions.toList, e.2.pool = id → d ∉ e.2.memberDevices) :
    Linked devices regions (pools.insert id pool) := by
  apply h.insertPool
  intro R r hr hid d' hd' dev hdev
  have hno := hunlisted (R, r) (Std.ExtTreeMap.mem_toList_iff_getElem?_eq_some.mpr hr) hid
  subst hid
  obtain ⟨m, hm, hdevice, hcurrent⟩ := h R r old hr hold d' hd' dev hdev
  have hne : d' ≠ d := by
    rintro rfl
    exact hno hd'
  refine ⟨m, ?_, hdevice, hcurrent⟩
  rw [hmembers, List.mem_eraseP_of_neg (by simpa [hdevice] using hne)]
  exact hm

end Linked

namespace Fabric
variable {f f' : Fabric} {op : Op} {out : Outcome}

def MembersLinked (f : Fabric) : Prop := Linked f.state.devices f.state.regions f.state.pools

/-- The pool of the reservation has its device as a current member. -/
def LandsOnMember (f : Fabric) (res : Reservation) : Prop :=
  ∃ pool ∈ f.state.pools[res.pool]?, ∃ dev ∈ f.state.devices[res.device]?,
    pool.HasCurrent res.device dev.generation

instance (f : Fabric) (res : Reservation) : Decidable (f.LandsOnMember res) :=
  inferInstanceAs (Decidable (∃ pool ∈ f.state.pools[res.pool]?, _))

/-- What an operation must observe for the links to stay. The other operations leave them
alone. -/
def KeepsLinks (f : Fabric) : Op → Prop
  | .registerDevice dev _ => ∀ e ∈ f.state.regions.toList, ∀ p ∈ f.state.pools[e.2.pool]?,
    dev.id ∈ e.2.memberDevices → p.HasCurrent dev.id dev.generation
  | .createRegion region _ | .updateRegion region _ => ∀ p ∈ f.state.pools[region.pool]?,
    MembersCurrent f.state.devices p region.memberDevices
  | .reconfigureRegion id ms _ => ∀ r ∈ f.state.regions[id]?, ∀ p ∈ f.state.pools[r.pool]?,
    MembersCurrent f.state.devices p ms
  | .createPool pool _ => ∀ e ∈ f.state.regions.toList, e.2.pool = pool.id →
    MembersCurrent f.state.devices pool e.2.memberDevices
  | .removePoolMember id d _ => ∀ e ∈ f.state.regions.toList, e.2.pool = id →
    d ∉ e.2.memberDevices
  | .importPersisted st => st.Keyed ∧ Linked st.devices st.regions st.pools
  | _ => True

theorem MembersLinked.drainPoolOf (h : f.MembersLinked) (res : Reservation) :
    (f.drainPoolOf res).MembersLinked := by
  unfold Fabric.drainPoolOf
  cases hp : f.state.pools[res.pool]? with
  | none => exact h
  | some p => exact Linked.replacePool h hp (List.Subset.refl _)

theorem MembersLinked.drainRegionOf (h : f.MembersLinked) (res : Reservation) :
    (f.drainRegionOf res).MembersLinked := by
  unfold Fabric.drainRegionOf
  cases hr : f.state.regions[res.region]? with
  | none => exact h
  | some r => exact Linked.replaceRegion h hr rfl rfl

theorem MembersLinked.imported {st : PersistedState} (h : Linked st.devices st.regions st.pools)
    (f : Fabric) : (f.importPersisted st).MembersLinked := by
  intro R r' p' hr' hp' d hd dev' hdev'
  rw [importPersisted_regions] at hr'
  rw [importPersisted_pools] at hp'
  rw [Option.mem_def, importPersisted_devices] at hdev'
  obtain ⟨r, hr, rfl⟩ := Option.map_eq_some_iff.mp hr'
  obtain ⟨p, hp, rfl⟩ := Option.map_eq_some_iff.mp hp'
  obtain ⟨dev, hdev, rfl⟩ := Option.map_eq_some_iff.mp hdev'
  exact h R r p hr hp d hd dev hdev

/-- One step keeps the links if the operation is careful about them, or is refused. -/
theorem MembersLinked.step (hf : f.MembersLinked) (h : f.Effect op out f')
    (hkeeps : out.success = true → f.KeepsLinks op) : f'.MembersLinked := by
  cases h with
  | refused | setEpoch | setPolicyGeneration | advanceEvidenceGeneration => exact hf
  | registerDevice =>
    apply Linked.insertDevice hf
    intro R r p hr hp
    exact hkeeps rfl (R, r) (Std.ExtTreeMap.mem_toList_iff_getElem?_eq_some.mpr hr) p hp
  | createRegion | updateRegion => exact Linked.insertRegion hf (hkeeps rfl)
  | reconfigureRegion epoch present =>
    apply Linked.insertRegion hf
    intro p hp
    exact hkeeps rfl _ present p hp
  | createPool =>
    apply Linked.insertPool hf
    intro R r hr hid
    exact hkeeps rfl (R, r) (Std.ExtTreeMap.mem_toList_iff_getElem?_eq_some.mpr hr) hid
  | addPoolMember epoch present =>
    exact Linked.replacePool hf present (List.subset_append_left _ _)
  | removePoolMember epoch present => exact Linked.removeMember hf present rfl (hkeeps rfl)
  | markDeviceRevalidation epoch present | markDeviceOnline epoch present =>
    exact Linked.replaceDevice hf present rfl
  | markRegionDraining epoch present | revalidateRegion epoch present =>
    exact Linked.replaceRegion hf present rfl rfl
  | markPoolDraining epoch present | reconcilePool epoch present | revalidatePool epoch present =>
    exact Linked.replacePool hf present (List.Subset.refl _)
  | reserve epoch admission =>
    refine Linked.replaceRegion (Linked.replacePool hf admission.poolRecord ?_) admission.regionRecord
      ?_ ?_
    · exact List.Subset.refl _
    · rfl
    · rfl
  | commit guarded =>
    refine Linked.replaceRegion (Linked.replacePool hf guarded.poolRecord ?_) guarded.regionRecord
      ?_ ?_
    · exact List.Subset.refl _
    · rfl
    · rfl
  | release => exact (hf.drainPoolOf _).drainRegionOf _
  | conflict => exact hf.drainPoolOf _
  | importPersisted st => exact .imported (hkeeps rfl).2 f

/-- The operation is refused, or keeps the links. -/
def Careful (f : Fabric) (op : Op) : Prop :=
  ∀ f' out, f.exec op = some (f', out) → out.success = true → f.KeepsLinks op

theorem Careful.importsKeyed (h : f.Careful op) : op.ImportsKeyed := by
  cases op with
  | importPersisted st => exact (h _ _ rfl rfl).1
  | _ => trivial

theorem linked_of_run {epoch : CoordinatorEpoch} {policy : PolicyGeneration}
    {tr : List (Op × Outcome)} (hrun : GuardedRun exec Careful (new epoch policy) tr f) :
    RecordsKeyed f ∧ f.MembersLinked := by
  refine hrun.keeps (I := fun g => RecordsKeyed g ∧ g.MembersLinked) ?_
    ⟨recordsKeyed_new _ _, ?_⟩
  · rintro s op out s' hcareful ⟨hkeyed, hlinked⟩ hexec
    have heffect := exec_effect hexec
    exact ⟨hkeyed.step heffect hcareful.importsKeyed, hlinked.step heffect (hcareful s' out hexec)⟩
  · intro R r p hr
    simp [new] at hr

/-- What a reservation is made on is a member of the pool that owns its region. -/
theorem MembersLinked.lands (hlinked : f.MembersLinked) (hkeyed : RecordsKeyed f)
    {req : AdmissionRequest} {ctx : AuthorityContext} {o : ReserveOutcome}
    (hres : f.reserve req ctx = some (f', o)) (hok : o.ok = true) :
    f.LandsOnMember o.reservation := by
  cases reserve_effect hres with
  | refused fallible hout => simp [hok] at hout
  | @reserve _ _ c pool region dev epoch admission =>
    obtain ⟨-, hregion, -, hlisted⟩ := admission.admits hkeyed
    simp only [regionAdmits, Bool.and_eq_true, decide_eq_true_eq] at hregion
    have hpool : f.state.pools[region.pool]? = some pool := by
      rw [hregion.1.1, hkeyed.pool admission.poolRecord]
      exact admission.poolRecord
    exact ⟨pool, admission.poolRecord, dev, admission.deviceRecord,
      hlinked _ region pool admission.regionRecord hpool _ hlisted dev admission.deviceRecord⟩

/-- In every run whose steps are refused or keep the links, a reservation is made on a current
member of its pool. -/
theorem reservations_land_on_members {epoch : CoordinatorEpoch} {policy : PolicyGeneration}
    {tr : List (Op × Outcome)} (hrun : GuardedRun exec Careful (new epoch policy) tr f)
    {req : AdmissionRequest} {ctx : AuthorityContext} {o : ReserveOutcome}
    (hres : f.reserve req ctx = some (f', o)) (hok : o.ok = true) :
    f.LandsOnMember o.reservation := by
  obtain ⟨hkeyed, hlinked⟩ := linked_of_run hrun
  exact hlinked.lands hkeyed hres hok

/-- The steps that set up the sample topology keep the links. -/
theorem setup_careful : ∃ tr f f' o, GuardedRun exec Careful (new ⟨1⟩ ⟨1⟩) tr f ∧
    f.reserve Synthetic.sampleRequest (Synthetic.context ⟨1⟩) = some (f', o) ∧ o.ok = true := by
  have hrun : GuardedRun exec Careful (new ⟨1⟩ ⟨1⟩) [(_, _), (_, _), (_, _)] _ :=
    .cons (a := .registerDevice Synthetic.sampleDevice (Synthetic.context ⟨1⟩))
      (fun _ _ _ _ => by unfold KeepsLinks; decide +kernel) rfl <|
    .cons (a := .createPool Synthetic.samplePool (Synthetic.context ⟨1⟩))
      (fun _ _ _ _ => by unfold KeepsLinks; decide +kernel) rfl <|
    .cons (a := .createRegion Synthetic.sampleRegion (Synthetic.context ⟨1⟩))
      (fun _ _ _ _ => by unfold KeepsLinks; decide +kernel) rfl <| .nil _
  refine ⟨_, _, _, _, hrun, rfl, ?_⟩
  decide +kernel

theorem reservations_land_on_members_setup :
    ∃ tr f f' o, GuardedRun exec Careful (new ⟨1⟩ ⟨1⟩) tr f ∧
      f.reserve Synthetic.sampleRequest (Synthetic.context ⟨1⟩) = some (f', o) ∧ o.ok = true ∧
      f.LandsOnMember o.reservation := by
  obtain ⟨tr, f, f', o, hrun, hres, hok⟩ := setup_careful
  exact ⟨tr, f, f', o, hrun, hres, hok, reservations_land_on_members hrun hres hok⟩

/-- The sample device is registered again at a new generation. -/
def regeneratedRun : Option (List (Op × Outcome) × Fabric) :=
  execAll exec (new ⟨1⟩ ⟨1⟩) (Synthetic.setup ⟨1⟩ ++
    [.registerDevice { Synthetic.sampleDevice with generation := ⟨2⟩ } (Synthetic.context ⟨1⟩)])

theorem regeneratedRun_isSome : regeneratedRun.isSome = true := by decide

/-- The member of the pool still refers to the first generation, and the device is chosen. -/
theorem stale_member_is_reserved :
    ∃ tr f f' o, Run exec (new ⟨1⟩ ⟨1⟩) tr f ∧
      f.reserve Synthetic.sampleRequest (Synthetic.context ⟨1⟩) = some (f', o) ∧ o.ok = true ∧
      ¬f.LandsOnMember o.reservation := by
  have hrun := Run.of_execAll (Option.some_get regeneratedRun_isSome).symm
  have hsome : ((regeneratedRun.get regeneratedRun_isSome).2.reserve Synthetic.sampleRequest
      (Synthetic.context ⟨1⟩)).isSome = true := by decide +kernel
  have hlost : ∀ r, (regeneratedRun.get regeneratedRun_isSome).2.reserve Synthetic.sampleRequest
      (Synthetic.context ⟨1⟩) = some r → r.2.ok = true ∧
        ¬(regeneratedRun.get regeneratedRun_isSome).2.LandsOnMember r.2.reservation := by
    decide +kernel
  obtain ⟨⟨f', o⟩, hres⟩ := Option.isSome_iff_exists.mp hsome
  exact ⟨_, _, f', o, hrun, hres, hlost _ hres⟩

end Fabric

end CxlFabric
