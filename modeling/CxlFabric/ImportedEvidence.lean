import CxlFabric.Ranking
import CxlFabric.Restart

/-! # Evidence after an import

An import clears the evidence of devices, regions and pools. The capabilities of a device
keep the flag that was saved with them. -/
namespace CxlFabric

open Persistence

theorem Capabilities.requiredSupported_eq_false {caps : Capabilities} {k : CapabilityClass} :
    caps.requiredSupported k true = false ↔
      ∀ c, caps[k]? = some c → c.state = .named .supported → c.evidenceCurrent = false := by
  unfold requiredSupported
  cases caps[k]? with
  | none => simp
  | some c =>
    by_cases hstate : c.state = .named .supported
    · simp [hstate]
    · simp [hstate]

namespace Fabric

/-- Nothing that has to be observed again counts as current, no reservation is left and no
request is served. -/
structure NothingCurrent (f : Fabric) : Prop where
  device : ∀ (id : DeviceId) (d : CxlDevice), f.state.devices[id]? = some d →
    d.evidenceCurrent = false
  region : ∀ (id : RegionId) (r : CxlRegion), f.state.regions[id]? = some r →
    r.evidenceCurrent = false
  pool : ∀ (id : PoolId) (p : CxlPool), f.state.pools[id]? = some p → p.evidenceCurrent = false
  capability : ∀ (id : DeviceId) (d : CxlDevice), f.state.devices[id]? = some d →
    ∀ k, d.capabilities.requiredSupported k true = false
  reservations : f.state.reservations = ∅
  select : ∀ req, (f.select req).ok = false

/-- Without current evidence on any pool there is no candidate. -/
theorem select_of_stale_pools {f : Fabric}
    (h : ∀ (id : PoolId) (p : CxlPool), f.state.pools[id]? = some p → p.evidenceCurrent = false)
    (req : AdmissionRequest) : (f.select req).ok = false := by
  rw [Bool.eq_false_iff]
  intro hok
  have hchosen : (f.select req).chosen ∈ enumerateCandidates f.selectionSnapshot := chosen_mem hok
  obtain ⟨kp, -, -, pool, -, -, hpool, -, -, -, hadmits, -⟩ := mem_enumerateCandidates hchosen
  have hstale := h kp pool hpool
  simp [poolAdmits, hstale] at hadmits

/-- Whatever is imported, the records themselves are stale. -/
theorem importPersisted_stale (f : Fabric) (st : PersistedState) :
    (∀ (id : DeviceId) (d : CxlDevice),
      (f.importPersisted st).state.devices[id]? = some d → d.evidenceCurrent = false) ∧
    (∀ (id : RegionId) (r : CxlRegion),
      (f.importPersisted st).state.regions[id]? = some r → r.evidenceCurrent = false) ∧
    ∀ (id : PoolId) (p : CxlPool),
      (f.importPersisted st).state.pools[id]? = some p → p.evidenceCurrent = false := by
  refine ⟨?_, ?_, ?_⟩
  · intro id d hd
    rw [importPersisted_devices] at hd
    obtain ⟨d', -, rfl⟩ := Option.map_eq_some_iff.mp hd
    rfl
  · intro id r hr
    rw [importPersisted_regions] at hr
    obtain ⟨r', -, rfl⟩ := Option.map_eq_some_iff.mp hr
    rfl
  · intro id p hp
    rw [importPersisted_pools] at hp
    obtain ⟨p', -, rfl⟩ := Option.map_eq_some_iff.mp hp
    rfl

/-- An import leaves nothing current exactly when no device was saved with a supported
capability whose evidence is marked current. -/
theorem import_leaves_nothing_current_iff (f : Fabric) (st : PersistedState) :
    NothingCurrent (f.importPersisted st) ↔
      ¬∃ (id : DeviceId) (d : CxlDevice) (k : CapabilityClass) (c : Capability),
        st.devices[id]? = some d ∧ d.capabilities[k]? = some c ∧
        c.state = .named .supported ∧ c.evidenceCurrent = true := by
  obtain ⟨hdevices, hregions, hpools⟩ := importPersisted_stale f st
  constructor
  · rintro h ⟨id, d, k, c, hd, hc, hsupported, hcurrent⟩
    have himported : (f.importPersisted st).state.devices[id]? = some (importedDevice d) := by
      rw [importPersisted_devices, hd]
      rfl
    have hcap := h.capability id _ himported k
    have hstale := Capabilities.requiredSupported_eq_false.mp hcap c hc hsupported
    rw [hcurrent] at hstale
    cases hstale
  · intro hnone
    refine ⟨hdevices, hregions, hpools, ?_, rfl, select_of_stale_pools hpools⟩
    intro id d hd k
    rw [importPersisted_devices] at hd
    obtain ⟨d', hd', rfl⟩ := Option.map_eq_some_iff.mp hd
    rw [Capabilities.requiredSupported_eq_false]
    intro c hc hsupported
    rw [Bool.eq_false_iff]
    intro hcurrent
    exact hnone ⟨id, d', k, c, hd', hc, hsupported, hcurrent⟩

/-- The sample device comes back from disk with capabilities that count as current. -/
theorem recovered_capability_is_current :
    ¬∀ (beyond : ℕ → UInt8) (payload : List UInt8) (st : PersistedState) (f : Fabric),
      deserializeState beyond payload = .ok st → NothingCurrent (f.importPersisted st) := by
  intro hall
  obtain ⟨payload, hread⟩ := recover_reads idleRun_recovers
  have hnothing := hall _ payload _ (new ⟨2⟩ ⟨1⟩) hread
  have hdevice : ∃ d ∈ ((new ⟨2⟩ ⟨1⟩).importPersisted (storedState
      (idleRun.get idleRun_isSome).2.exportPersisted)).state.devices[(⟨str "d1"⟩ : DeviceId)]?,
      d.capabilities.requiredSupported (.named .memoryDevice) true = true := by decide +kernel
  obtain ⟨d, hd, hsupported⟩ := hdevice
  have hunsupported := hnothing.capability _ d hd (.named .memoryDevice)
  rw [hsupported] at hunsupported
  cases hunsupported

end Fabric

end CxlFabric
