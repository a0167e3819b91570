import CxlFabric.Fencing

/-! # Which steps respect the lifecycle tables

The marks and revalidations check their transition. A registration at an unchanged
generation, a region update and a region reconfiguration do not: they write the new state
whatever the old one was. A step respects the tables exactly when such a write happens to
be a valid transition. -/
namespace CxlFabric
namespace Fabric
variable {f f' g : Fabric} {op : Op} {out : Outcome}

/-- Every record that is there before and after moves along its table. -/
structure TransitionsValid (f f' : Fabric) : Prop where
  device : ∀ (id : DeviceId) (d d' : CxlDevice), f.state.devices[id]? = some d →
    f'.state.devices[id]? = some d' → d.state ≠ d'.state → d.state.validTransition d'.state = true
  region : ∀ (id : RegionId) (r r' : CxlRegion), f.state.regions[id]? = some r →
    f'.state.regions[id]? = some r' → r.state ≠ r'.state → r.state.validTransition r'.state = true
  pool : ∀ (id : PoolId) (p p' : CxlPool), f.state.pools[id]? = some p →
    f'.state.pools[id]? = some p' → p.state ≠ p'.state → p.state.validTransition p'.state = true

/-- The unchecked writes of the operation are valid transitions. -/
def WritesValid (f : Fabric) : Op → Prop
  | .registerDevice dev ctx => f.Authorized ctx → dev.id.empty = false →
    dev.generation.empty = false → dev.bootId.empty = false →
    ∀ old, f.state.devices[dev.id]? = some old → old.generation = dev.generation →
      old.vendorDeviceId = dev.vendorDeviceId → old.totalPhysicalBytes = dev.totalPhysicalBytes →
      old.state.validTransition dev.state = true
  | .updateRegion region ctx => f.Authorized ctx →
    ∀ old, f.state.regions[region.id]? = some old → old.generation ≤ region.generation →
      old.state.validTransition region.state = true
  | .reconfigureRegion id _ ctx => f.Authorized ctx →
    ∀ old, f.state.regions[id]? = some old → old.generation.next.empty = false →
      old.state.validTransition (.named .reconfiguring) = true
  | _ => True

theorem device_valid (h : f.Effect op out f') (hw : f.WritesValid op)
    (himport : ∀ st, op ≠ .importPersisted st) {id : DeviceId} {d d' : CxlDevice}
    (hd : f.state.devices[id]? = some d) (hd' : f'.state.devices[id]? = some d') :
    d.state.validTransition d'.state = true := by
  have hchange := h.device id
  rw [hd, hd'] at hchange
  generalize hnew : some d' = new at hchange
  cases hchange with
  | same => cases hnew; simp
  | @registered dev ctx _ key supersedes =>
    cases hnew
    obtain ⟨hgen, hvendor, hbytes⟩ | ⟨-, hvalid⟩ := supersedes d rfl
    · subst key
      cases h with
      | refused fallible failed => cases failed
      | registerDevice epoch named old =>
        exact hw epoch named.1 named.2.1 named.2.2 d hd hgen hvendor hbytes
    · exact hvalid
  | revalidation valid => cases hnew; exact valid
  | online valid => cases hnew; exact valid
  | @imported st => exact absurd rfl (himport st)

theorem region_valid (h : f.Effect op out f') (hw : f.WritesValid op)
    (himport : ∀ st, op ≠ .importPersisted st) {id : RegionId} {r r' : CxlRegion}
    (hr : f.state.regions[id]? = some r) (hr' : f'.state.regions[id]? = some r') :
    r.state.validTransition r'.state = true := by
  have hchange := h.region id
  rw [hr, hr'] at hchange
  generalize hnew : some r' = new at hchange
  cases hchange with
  | same => cases hnew; simp
  | @updated region _ ctx key generation =>
    cases hnew
    subst key
    cases h with
    | refused fallible failed => cases failed
    | updateRegion epoch present _ => exact hw epoch r hr generation
  | @reconfigured ms _ ctx o next ok =>
    cases hnew
    cases h with
    | refused fallible failed => simp [ok] at failed
    | reconfigureRegion epoch present _ => exact hw epoch r hr next
  | draining valid => cases hnew; exact valid
  | revalidated valid => cases hnew; exact valid
  | booked => cases hnew; simp
  | @imported st => exact absurd rfl (himport st)

theorem pool_valid (h : f.Effect op out f') (himport : ∀ st, op ≠ .importPersisted st)
    {id : PoolId} {p p' : CxlPool} (hp : f.state.pools[id]? = some p)
    (hp' : f'.state.pools[id]? = some p') : p.state.validTransition p'.state = true := by
  have hchange := h.pool id
  rw [hp, hp'] at hchange
  generalize hnew : some p' = new at hchange
  cases hchange with
  | draining valid => cases hnew; exact valid
  | revalidated valid => cases hnew; exact valid
  | @imported st => exact absurd rfl (himport st)
  | _ => cases hnew; exact PoolState.validTransition_self _

/-- An accepted write of one of the three unchecked kinds stores its state. -/
theorem writesValid_of_transitionsValid (hexec : f.exec op = some (f', out))
    (hvalid : TransitionsValid f f') : f.WritesValid op := by
  cases op with
  | registerDevice dev ctx =>
    intro hauth hid hgen hboot old hold hsame hvendor hbytes
    have hstale := staleEpoch_eq_false.mpr hauth
    simp only [exec, decided, registerDevice, hstale, hid, hgen, hboot, hold, hsame, hvendor,
      hbytes] at hexec
    cases hexec
    by_cases hne : old.state = dev.state
    · rw [hne]; simp
    · exact hvalid.device dev.id old dev hold (by simp) hne
  | updateRegion region ctx =>
    intro hauth old hold hle
    have hstale := staleEpoch_eq_false.mpr hauth
    have hlt : ¬region.generation < old.generation := not_lt.mpr hle
    simp only [exec, decided, updateRegion, hstale, hold, hlt] at hexec
    cases hexec
    by_cases hne : old.state = region.state
    · rw [hne]; simp
    · exact hvalid.region region.id old region hold (by simp) hne
  | reconfigureRegion id ms ctx =>
    intro hauth old hold hnext
    have hstale := staleEpoch_eq_false.mpr hauth
    simp only [exec, reconfigureRegion, hstale, hold, hnext] at hexec
    cases hexec
    by_cases hne : old.state = .named .reconfiguring
    · rw [hne]; simp
    · exact hvalid.region id old _ hold Std.ExtTreeMap.getElem?_insert_self hne
  | _ => trivial

theorem transitionsValid_iff (hexec : f.exec op = some (f', out))
    (himport : ∀ st, op ≠ .importPersisted st) : TransitionsValid f f' ↔ f.WritesValid op := by
  constructor
  · exact writesValid_of_transitionsValid hexec
  · intro hw
    have heffect := exec_effect hexec
    exact ⟨fun id d d' hd hd' _ => device_valid heffect hw himport hd hd',
      fun id r r' hr hr' _ => region_valid heffect hw himport hr hr',
      fun id p p' hp hp' _ => pool_valid heffect himport hp hp'⟩

def DeviceRetired (f : Fabric) (id : DeviceId) : Prop :=
  ∃ d, f.state.devices[id]? = some d ∧ d.state = .named .retired

def RegionRetired (f : Fabric) (id : RegionId) : Prop :=
  ∃ r, f.state.regions[id]? = some r ∧ r.state = .named .retired

/-- Retirement is final while the writes are valid. -/
theorem DeviceRetired.step {id : DeviceId} (hg : DeviceRetired f id) (h : f.Effect op out f')
    (hw : f.WritesValid op) (himport : ∀ st, op ≠ .importPersisted st) : DeviceRetired f' id := by
  obtain ⟨d, hd, hret⟩ := hg
  obtain ⟨d', hd', -⟩ := h.device_generation_le himport hd
  have hvalid := device_valid h hw himport hd hd'
  rw [hret] at hvalid
  exact ⟨d', hd', DeviceState.eq_retired_of_validTransition hvalid⟩

theorem RegionRetired.step {id : RegionId} (hg : RegionRetired f id) (h : f.Effect op out f')
    (hw : f.WritesValid op) (himport : ∀ st, op ≠ .importPersisted st) : RegionRetired f' id := by
  obtain ⟨r, hr, hret⟩ := hg
  obtain ⟨r', hr', -⟩ := h.region_generation_le himport hr
  have hvalid := region_valid h hw himport hr hr'
  rw [hret] at hvalid
  exact ⟨r', hr', RegionState.eq_retired_of_validTransition hvalid⟩

/-- A step moves every record along its table exactly when its unchecked writes do. So a
run of such steps takes only valid transitions, and retirement is permanent in it. -/
theorem transitions_validated_iff (f : Fabric) :
    (∀ op f' out, exec f op = some (f', out) → (∀ st, op ≠ .importPersisted st) →
      (TransitionsValid f f' ↔ WritesValid f op)) ∧
    (∀ tr₁ op out tr₂ g, GuardedRun exec WritesValid f (tr₁ ++ (op, out) :: tr₂) g →
      (∀ st, op ≠ .importPersisted st) →
      ∃ h h', Run exec f tr₁ h ∧ exec h op = some (h', out) ∧ Run exec h' tr₂ g ∧
        TransitionsValid h h') ∧
    (∀ tr g, GuardedRun exec WritesValid f tr g →
      (∀ e ∈ tr, ∀ st, e.1 ≠ .importPersisted st) →
      (∀ id, DeviceRetired f id → DeviceRetired g id) ∧
      (∀ id, RegionRetired f id → RegionRetired g id)) := by
  refine ⟨?_, ?_, ?_⟩
  · intro op f' out hexec himport
    exact transitionsValid_iff hexec himport
  · intro tr₁ op out tr₂ g hrun himport
    obtain ⟨h, h₁, hrest⟩ := hrun.split
    cases hrest with
    | @cons _ h' _ _ _ _ guard head tail =>
      exact ⟨h, h', h₁.run, head, tail.run, (transitionsValid_iff head himport).mpr guard⟩
  · intro tr g hrun himport
    constructor
    · intro id hretired
      exact hrun.invariant (A := fun e => ∀ st, e.1 ≠ .importPersisted st)
        (I := fun f => DeviceRetired f id)
        (fun s a b s' hw himp hI hexec => hI.step (exec_effect hexec) hw himp) himport hretired
    · intro id hretired
      exact hrun.invariant (A := fun e => ∀ st, e.1 ≠ .importPersisted st)
        (I := fun f => RegionRetired f id)
        (fun s a b s' hw himp hI hexec => hI.step (exec_effect hexec) hw himp) himport hretired

def retiredDevice : CxlDevice := { Synthetic.sampleDevice with state := .named .retired }

/-- A retired device registers again at its generation, now online. -/
theorem retired_device_returns :
    ∃ tr f f' d d', Run exec (new ⟨1⟩ ⟨1⟩) tr f ∧
      exec f (.registerDevice Synthetic.sampleDevice (Synthetic.context ⟨1⟩)) =
        some (f', .decision .ok) ∧
      f.state.devices[Synthetic.sampleDevice.id]? = some d ∧ d.state = .named .retired ∧
      f'.state.devices[Synthetic.sampleDevice.id]? = some d' ∧ d'.state = .named .online ∧
      d.state.validTransition d'.state = false := by
  refine ⟨[(.registerDevice retiredDevice (Synthetic.context ⟨1⟩), .decision .ok)],
    (new ⟨1⟩ ⟨1⟩).setDevice Synthetic.sampleDevice.id retiredDevice, _, retiredDevice,
    Synthetic.sampleDevice, Run.single (by decide), rfl, by decide, rfl, by decide, rfl, by decide⟩

def degradedDevice : CxlDevice := { Synthetic.sampleDevice with state := .named .degraded }

def retiredNeighbour : CxlDevice := { retiredDevice with id := ⟨str "d2"⟩, bootId := ⟨str "b2"⟩ }

/-- One device has registered as online and another one as retired. -/
def twoDevices : Fabric :=
  ((new ⟨1⟩ ⟨1⟩).setDevice ⟨str "d1"⟩ Synthetic.sampleDevice).setDevice ⟨str "d2"⟩ retiredNeighbour

theorem writesValid_of_absent {dev : CxlDevice} (habsent : f.state.devices[dev.id]? = none)
    (ctx : AuthorityContext) : f.WritesValid (.registerDevice dev ctx) := by
  intro _ _ _ _ old hold
  cases habsent.symm.trans hold

theorem twoDevices_run :
    GuardedRun exec WritesValid (new ⟨1⟩ ⟨1⟩)
      [(.registerDevice Synthetic.sampleDevice (Synthetic.context ⟨1⟩), .decision .ok),
        (.registerDevice retiredNeighbour (Synthetic.context ⟨1⟩), .decision .ok)] twoDevices :=
  .cons (writesValid_of_absent (by decide) _) rfl
    (.cons (writesValid_of_absent (by decide) _) rfl (.nil _))

/-- The online device registers again as degraded. The transition is one of the table, and the
retired device stays retired. -/
theorem transitions_validated_refresh :
    ∃ tr f g d d', GuardedRun exec WritesValid (new ⟨1⟩ ⟨1⟩) tr f ∧
      GuardedRun exec WritesValid f
        [(.registerDevice degradedDevice (Synthetic.context ⟨1⟩), .decision .ok)] g ∧
      f.state.devices[Synthetic.sampleDevice.id]? = some d ∧ d.state = .named .online ∧
      g.state.devices[Synthetic.sampleDevice.id]? = some d' ∧ d'.state = .named .degraded ∧
      TransitionsValid f g ∧ DeviceRetired g retiredNeighbour.id := by
  have honline : twoDevices.state.devices[Synthetic.sampleDevice.id]? =
      some Synthetic.sampleDevice := by decide
  have hretired : twoDevices.state.devices[retiredNeighbour.id]? = some retiredNeighbour := by
    decide
  have hwrites : WritesValid twoDevices
      (.registerDevice degradedDevice (Synthetic.context ⟨1⟩)) := by
    intro _ _ _ _ old hold _ _ _
    cases honline.symm.trans hold
    decide
  have hexec : exec twoDevices (.registerDevice degradedDevice (Synthetic.context ⟨1⟩)) =
      some (twoDevices.setDevice Synthetic.sampleDevice.id degradedDevice, .decision .ok) := rfl
  have hrun := GuardedRun.cons hwrites hexec (.nil _)
  refine ⟨_, _, _, _, degradedDevice, twoDevices_run, hrun, honline, rfl, by decide, rfl, ?_, ?_⟩
  · exact ((transitions_validated_iff _).1 _ _ _ hexec (by simp)).mpr hwrites
  · exact ((transitions_validated_iff _).2.2 _ _ hrun (by simp)).1 _ ⟨_, hretired, rfl⟩

end Fabric

end CxlFabric
