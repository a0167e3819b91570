import CxlFabric.PersistenceRoundTrip
import CxlFabric.Synthetic

/-! # Which states can be saved and loaded

The writer checks the number of records only; the reader has a bound on every string and on
every list. A state within all of them comes back with the unwritten fields at their
defaults, and one beyond the reader's bounds can be saved but not loaded. -/
namespace CxlFabric

/-- A device keeps each capability under its class. -/
def CxlDevice.CapabilitiesKeyed (d : CxlDevice) : Prop :=
  ∀ (k : CapabilityClass) (c : Capability), d.capabilities[k]? = some c → c.klass = k

namespace Persistence

/-- The unwritten fields of a device at their defaults. -/
def resetDevice (d : CxlDevice) : CxlDevice :=
  let fresh : CxlDevice := {}
  { d with
    ports := fresh.ports
    switchAncestry := fresh.switchAncestry
    health := fresh.health
    state := fresh.state
    evidenceCurrent := fresh.evidenceCurrent
    economics.accessPenaltyVsLocal := fresh.economics.accessPenaltyVsLocal }

def resetRegion (r : CxlRegion) : CxlRegion :=
  let fresh : CxlRegion := {}
  { r with
    state := fresh.state
    decoders := fresh.decoders
    windows := fresh.windows
    accessMode := fresh.accessMode
    consumerScope := fresh.consumerScope
    locality := fresh.locality
    tier := fresh.tier
    health := fresh.health
    reservedBytes := fresh.reservedBytes
    committedBytes := fresh.committedBytes
    evidenceCurrent := fresh.evidenceCurrent }

def resetPool (p : CxlPool) : CxlPool :=
  let fresh : CxlPool := {}
  { p with state := fresh.state }

def resetState (st : PersistedState) : PersistedState :=
  { st with
    devices := st.devices.map fun _ d => resetDevice d
    regions := st.regions.map fun _ r => resetRegion r
    pools := st.pools.map fun _ p => resetPool p }

theorem storedDevice_eq {d : CxlDevice} (h : d.CapabilitiesKeyed) :
    storedDevice d = resetDevice d := by
  have hcaps : (collect Capability.klass (d.capabilities.toList.map (·.2)) : Capabilities) =
      d.capabilities := by
    have hmap : (collect Capability.klass (d.capabilities.toList.map fun e => e.2) :
        Capabilities) = d.capabilities.map fun _ c => c := collect_toList (g := fun c => c) h
    rw [hmap]
    apply Std.ExtTreeMap.ext_getElem?
    intro k
    rw [Std.ExtTreeMap.getElem?_map, Option.map_id']
  unfold storedDevice
  rw [hcaps]
  rfl

theorem storedState_eq {st : PersistedState} (h : st.Keyed)
    (hcaps : ∀ d ∈ st.devices.toList.map (·.2), d.CapabilitiesKeyed) :
    storedState st = resetState st := by
  have hdevices : (collect CxlDevice.id (st.devices.toList.map fun e => storedDevice e.2) :
      Map DeviceId CxlDevice) = st.devices.map fun _ d => resetDevice d := by
    rw [collect_toList (g := storedDevice) fun k d hd => (h.device hd : d.id = k)]
    apply Std.ExtTreeMap.ext_getElem?
    intro k
    rw [Std.ExtTreeMap.getElem?_map, Std.ExtTreeMap.getElem?_map]
    cases hd : st.devices[k]? with
    | none => rfl
    | some d =>
      have hmem : d ∈ st.devices.toList.map (·.2) :=
        List.mem_map.mpr ⟨(k, d), Std.ExtTreeMap.mem_toList_iff_getElem?_eq_some.mpr hd, rfl⟩
      rw [Option.map_some, Option.map_some, storedDevice_eq (hcaps d hmem)]
  have hregions : (collect CxlRegion.id (st.regions.toList.map fun e => storedRegion e.2) :
      Map RegionId CxlRegion) = st.regions.map fun _ r => resetRegion r :=
    collect_toList fun k r hr => (h.region hr : r.id = k)
  have hpools : (collect CxlPool.id (st.pools.toList.map fun e => storedPool e.2) :
      Map PoolId CxlPool) = st.pools.map fun _ p => resetPool p :=
    collect_toList fun k p hp => (h.pool hp : p.id = k)
  unfold storedState
  rw [hdevices, hregions, hpools]
  rfl

/-- A state within the bounds is saved, and comes back with the unwritten fields reset. -/
theorem persistence_round_trip {st : PersistedState} (hkeyed : st.Keyed)
    (hcaps : ∀ d ∈ st.devices.toList.map (·.2), d.CapabilitiesKeyed) (hfits : StateFits st)
    (beyond : ℕ → UInt8) : ∃ payload, serializeState st = .ok payload ∧
      deserializeState beyond payload = .ok (resetState st) := by
  refine ⟨_, hfits.serializeState, ?_⟩
  rcases deserializeState_serializeState hfits.serializeState (.inr hfits) beyond with
    ⟨-, hok⟩ | ⟨hno, -⟩
  · rw [hok, storedState_eq hkeyed hcaps]
  · exact absurd hfits hno

/-- A state with one device and nothing else. -/
def soleDevice (d : CxlDevice) : PersistedState where
  devices := (∅ : Map DeviceId CxlDevice).insert d.id d

theorem soleDevice_values (d : CxlDevice) : (soleDevice d).devices.toList.map (·.2) = [d] := by
  have hperm := toList_insert_perm (∅ : Map DeviceId CxlDevice) d.id d
  have hempty : (∅ : Map DeviceId CxlDevice).toList = [] := Std.ExtTreeMap.toList_eq_nil_iff.mpr rfl
  rw [hempty, List.filter_nil, List.perm_singleton] at hperm
  rw [soleDevice, hperm]
  rfl

theorem soleDevice_keyed (d : CxlDevice) : (soleDevice d).Keyed := by
  refine ⟨?_, ?_, ?_⟩
  · intro k d' hd'
    obtain ⟨hk, rfl⟩ | ⟨-, hd'⟩ := of_getElem?_insert hd'
    · exact hk
    · simp at hd'
  · intro k r hr
    simp [soleDevice] at hr
  · intro k p hp
    simp [soleDevice] at hp

theorem soleDevice_regions (d : CxlDevice) : (soleDevice d).regions.toList = [] :=
  Std.ExtTreeMap.toList_eq_nil_iff.mpr rfl

theorem soleDevice_pools (d : CxlDevice) : (soleDevice d).pools.toList = [] :=
  Std.ExtTreeMap.toList_eq_nil_iff.mpr rfl

theorem soleDevice_size (d : CxlDevice) : (soleDevice d).devices.size = 1 := by
  rw [soleDevice, size_insert_of_absent _ (by simp)]
  rfl

theorem soleDevice_fits_iff (d : CxlDevice) : StateFits (soleDevice d) ↔ DeviceFits d := by
  rw [stateFits_iff, soleDevice_values, soleDevice_regions, soleDevice_pools, soleDevice_size]
  simp only [List.mem_singleton, forall_eq, List.map_nil, List.not_mem_nil, false_imp_iff,
    implies_true, and_true]
  constructor
  · rintro ⟨⟨-, hd⟩, -⟩
    exact hd
  · intro hd
    exact ⟨⟨by decide, hd⟩, Nat.zero_le _, Nat.zero_le _⟩

theorem length_soleDevice (d : CxlDevice) :
    (writeBody (soleDevice d)).length = 20 + (writeDevice d).length := by
  simp only [writeBody, soleDevice_values, soleDevice_regions, soleDevice_pools, List.length_append,
    length_putU64, length_putList, List.map_nil, List.flatMap_cons, List.flatMap_nil,
    List.length_nil]
  omega

/-- A device is saved whatever is written of it. -/
theorem serializeState_soleDevice (d : CxlDevice) : serializeState (soleDevice d) =
    .ok (writeBody (soleDevice d) ++ putU32 (crc32 (writeBody (soleDevice d)))) := by
  unfold serializeState
  rw [if_neg]
  rw [soleDevice_size]
  simp [soleDevice, maxRecords]

/-- What is saved of the sample topology with a reservation on its pool: a device with its
capabilities, a region and a pool. -/
def sampleState : PersistedState :=
  (Fabric.reservedRun.get Fabric.reservedRun_isSome).2.exportPersisted

theorem sampleState_keyed : sampleState.Keyed := by
  have hrun := Run.of_execAll (Option.some_get Fabric.reservedRun_isSome).symm
  have hops : ∀ e ∈ (Fabric.reservedRun.get Fabric.reservedRun_isSome).1,
      e.1.authority ≠ none := by decide
  exact (Fabric.recordsKeyed_of_run hrun
    fun e he => Op.importsKeyed_of_authority (hops e he)).exportPersisted

theorem sampleState_capabilitiesKeyed :
    ∀ d ∈ sampleState.devices.toList.map (·.2), d.CapabilitiesKeyed := by
  have hkeyed : ∀ d ∈ sampleState.devices.toList.map (·.2),
      ∀ e ∈ d.capabilities.toList, e.2.klass = e.1 := by decide +kernel
  intro d hd k c hc
  exact hkeyed d hd (k, c) (Std.ExtTreeMap.mem_toList_iff_getElem?_eq_some.mpr hc)

theorem sampleState_fits : StateFits sampleState := by decide +kernel

theorem persistence_round_trip_sampleState :
    sampleState.devices.size = 1 ∧ sampleState.regions.size = 1 ∧ sampleState.pools.size = 1 ∧
      ∃ payload, serializeState sampleState = .ok payload ∧
        deserializeState (fun _ => 0) payload = .ok (resetState sampleState) :=
  ⟨by decide +kernel, by decide +kernel, by decide +kernel,
    persistence_round_trip sampleState_keyed sampleState_capabilitiesKeyed sampleState_fits
      fun _ => 0⟩

/-- The strings that are written of a device. -/
def deviceStrings (d : CxlDevice) : List Str :=
  [d.id.value, d.bootId.value, d.rawIdentity, d.vendorDeviceId, d.cxlDeviceClass, d.deviceType,
    d.host.value, d.firmwareMetadata, d.lifecycleNote, d.economics.notes] ++
  d.capabilities.toList.map (·.2.constraints)

/-- The bounds on strings, member lists and failure domains, without the one on the
capabilities of a device. -/
structure ListedBounds (st : PersistedState) : Prop where
  devices : st.devices.size ≤ maxRecords ∧
    ∀ d ∈ st.devices.toList.map (·.2), ∀ s ∈ deviceStrings d, s.length ≤ maxString
  regions : st.regions.size ≤ maxRecords ∧ ∀ r ∈ st.regions.toList.map (·.2), RegionFits r
  pools : st.pools.size ≤ maxRecords ∧ ∀ p ∈ st.pools.toList.map (·.2), PoolFits p

/-- A device with some capabilities and a note on its firmware. -/
def plainDevice (caps : Capabilities) (note : Str) : CxlDevice where
  id := ⟨str "d1"⟩
  firmwareMetadata := note
  capabilities := caps

theorem length_plainDevice (caps : Capabilities) (note : Str) :
    (writeDevice (plainDevice caps note)).length =
      154 + note.length + (putList writeCapability (caps.toList.map (·.2))).length := by
  have hecon : (writeEconomics {}).length = 52 := by decide
  have hid : (str "d1").length = 2 := by decide
  unfold writeDevice
  simp only [plainDevice, List.length_append, length_putStr, length_putBool, length_putU32,
    length_putU64, length_putList, hecon, hid, List.length_nil, List.flatMap_nil]
  omega

theorem plainDevice_fits {caps : Capabilities} {note : Str}
    (h : DeviceFits (plainDevice caps note)) :
    caps.size ≤ maxCapabilities ∧ note.length ≤ maxString := by
  have hcaps := h.capabilities.1
  rw [List.length_map, Std.ExtTreeMap.length_toList] at hcaps
  exact ⟨hcaps, h.firmware⟩

/-- Beyond the bounds of the reader the device is saved and refused. -/
theorem plainDevice_refused {caps : Capabilities} {note : Str} (beyond : ℕ → UInt8)
    (hlen : (writeDevice (plainDevice caps note)).length + 24 ≤ maxPersistPayload)
    (hbeyond : maxCapabilities < caps.size ∨ maxString < note.length) :
    ∃ payload, serializeState (soleDevice (plainDevice caps note)) = .ok payload ∧
      payload.length ≤ maxPersistPayload ∧ ∃ err, deserializeState beyond payload = .error err := by
  have hsaved := serializeState_soleDevice (plainDevice caps note)
  have hpayload : (writeBody (soleDevice (plainDevice caps note)) ++
      putU32 (crc32 (writeBody (soleDevice (plainDevice caps note))))).length ≤
        maxPersistPayload := by
    rw [List.length_append, length_putU32, length_soleDevice]
    omega
  refine ⟨_, hsaved, hpayload, ?_⟩
  have hshort := lt_of_le_of_lt hpayload (by decide : maxPersistPayload < 2 ^ 32)
  rcases deserializeState_serializeState hsaved (.inl hshort) beyond with ⟨hfits, -⟩ | ⟨-, herr⟩
  · have hbounds := plainDevice_fits ((soleDevice_fits_iff _).mp hfits)
    omega
  · exact herr

theorem plainDevice_keyed {caps : Capabilities} {note : Str}
    (h : ∀ (k : CapabilityClass) (c : Capability), caps[k]? = some c → c.klass = k) :
    ∀ d ∈ (soleDevice (plainDevice caps note)).devices.toList.map (·.2), d.CapabilitiesKeyed := by
  rw [soleDevice_values]
  intro d hd
  rw [List.mem_singleton.mp hd]
  exact h

theorem plainDevice_listedBounds {caps : Capabilities}
    (h : ∀ e ∈ caps.toList, e.2.constraints = []) :
    ListedBounds (soleDevice (plainDevice caps [])) := by
  refine ⟨⟨by rw [soleDevice_size]; decide, ?_⟩, ⟨Nat.zero_le _, ?_⟩, ⟨Nat.zero_le _, ?_⟩⟩
  · rw [soleDevice_values]
    intro d hd s hs
    rw [List.mem_singleton.mp hd, deviceStrings, List.mem_append] at hs
    rcases hs with hs | hs
    · simp only [plainDevice, List.mem_cons, List.not_mem_nil, or_false] at hs
      rcases hs with rfl | rfl | rfl | rfl | rfl | rfl | rfl | rfl | rfl | rfl <;> decide
    · obtain ⟨e, he, rfl⟩ := List.mem_map.mp hs
      rw [h e he]
      exact Nat.zero_le _
  · simp [soleDevice_regions]
  · simp [soleDevice_pools]

/-- A device with too many capabilities is within the other bounds and does not come back. -/
theorem plainDevice_lost {caps : Capabilities}
    (hkeyed : ∀ (k : CapabilityClass) (c : Capability), caps[k]? = some c → c.klass = k)
    (hempty : ∀ e ∈ caps.toList, e.2.constraints = []) (hmany : maxCapabilities < caps.size)
    (hlength : (putList writeCapability (caps.toList.map (·.2))).length ≤ 10000) :
    ∃ st : PersistedState, st.Keyed ∧ (∀ d ∈ st.devices.toList.map (·.2), d.CapabilitiesKeyed) ∧
      ListedBounds st ∧ ¬∃ payload, serializeState st = .ok payload ∧
        deserializeState (fun _ => 0) payload = .ok (resetState st) := by
  refine ⟨_, soleDevice_keyed (plainDevice caps []), plainDevice_keyed hkeyed,
    plainDevice_listedBounds hempty, ?_⟩
  rintro ⟨payload, hsaved, hloaded⟩
  have hlen : (writeDevice (plainDevice caps [])).length + 24 ≤ maxPersistPayload := by
    rw [length_plainDevice]
    unfold maxPersistPayload
    simp only [List.length_nil]
    omega
  obtain ⟨payload', hsaved', -, err, herr⟩ := plainDevice_refused (fun _ => 0) hlen (.inl hmany)
  rw [hsaved] at hsaved'
  cases hsaved'
  rw [herr] at hloaded
  cases hloaded

/-- One capability more than the reader takes, of classes without a name. -/
def crowd : Capabilities :=
  collect Capability.klass
    ((List.range 257).map fun i => { klass := .ofUInt32 (UInt32.ofNat (1000 + i)) })

theorem crowd_spec : crowd.size = 257 ∧ ∀ e ∈ crowd.toList, e.2.constraints = [] := by
  decide +kernel

theorem crowd_keyed (k : CapabilityClass) (c : Capability) (h : crowd[k]? = some c) :
    c.klass = k := collect_keyed h

theorem length_crowd : (putList writeCapability (crowd.toList.map (·.2))).length ≤ 10000 := by
  obtain ⟨hsize, hempty⟩ := crowd_spec
  have hitem : ∀ n ∈ (crowd.toList.map (·.2)).map fun c => (writeCapability c).length, n ≤ 36 := by
    intro n hn
    obtain ⟨c, hc, rfl⟩ := List.mem_map.mp hn
    obtain ⟨e, he, rfl⟩ := List.mem_map.mp hc
    simp only [writeCapability, List.length_append, length_putU32, length_putU64, length_putStr,
      length_putBool, hempty e he, List.length_nil]
    omega
  have hsum := List.sum_le_card_nsmul _ 36 hitem
  rw [List.length_map, List.length_map, Std.ExtTreeMap.length_toList, hsize] at hsum
  rw [length_putList, List.length_flatMap]
  simp only [smul_eq_mul] at hsum
  omega

theorem crowded_device_is_refused :
    ¬∀ (st : PersistedState) (beyond : ℕ → UInt8), st.Keyed →
      (∀ d ∈ st.devices.toList.map (·.2), d.CapabilitiesKeyed) → ListedBounds st →
      ∃ payload, serializeState st = .ok payload ∧
        deserializeState beyond payload = .ok (resetState st) := by
  intro hclaim
  have hmany : maxCapabilities < crowd.size := by
    rw [crowd_spec.1]
    decide
  obtain ⟨st, hkeyed, hcaps, hbounds, hlost⟩ :=
    plainDevice_lost crowd_keyed crowd_spec.2 hmany length_crowd
  exact hlost (hclaim st (fun _ => 0) hkeyed hcaps hbounds)

/-- What has been saved can be loaded exactly if its records are within the bounds of the
reader. -/
theorem saved_loads_iff {st : PersistedState} {payload : List UInt8}
    (hsaved : serializeState st = .ok payload) (hlen : payload.length ≤ maxPersistPayload)
    (beyond : ℕ → UInt8) : (∃ st', deserializeState beyond payload = .ok st') ↔
      (∀ d ∈ st.devices.toList.map (·.2), DeviceFits d) ∧
      (∀ r ∈ st.regions.toList.map (·.2), RegionFits r) ∧
      ∀ p ∈ st.pools.toList.map (·.2), PoolFits p := by
  have hsizes : st.devices.size ≤ maxRecords ∧ st.regions.size ≤ maxRecords ∧
      st.pools.size ≤ maxRecords := by
    unfold serializeState at hsaved
    split at hsaved
    · cases hsaved
    · omega
  have hshort : payload.length < 2 ^ 32 := by
    unfold maxPersistPayload at hlen
    omega
  have hfits : StateFits st ↔ (∀ d ∈ st.devices.toList.map (·.2), DeviceFits d) ∧
      (∀ r ∈ st.regions.toList.map (·.2), RegionFits r) ∧
      ∀ p ∈ st.pools.toList.map (·.2), PoolFits p := by
    rw [stateFits_iff]
    simp only [hsizes, true_and]
  rw [← hfits]
  rcases deserializeState_serializeState hsaved (.inl hshort) beyond with
    ⟨hyes, hok⟩ | ⟨hno, err, herr⟩
  · exact iff_of_true ⟨_, hok⟩ hyes
  · refine iff_of_false ?_ hno
    rintro ⟨st', hst'⟩
    rw [herr] at hst'
    cases hst'

theorem saved_loads_iff_sampleState :
    ∃ payload, serializeState sampleState = .ok payload ∧ payload.length ≤ maxPersistPayload ∧
      ∃ st', deserializeState (fun _ => 0) payload = .ok st' := by
  have hlen : (writeBody sampleState ++ putU32 (crc32 (writeBody sampleState))).length ≤
      maxPersistPayload := by
    have hbody : (writeBody sampleState).length + 4 ≤ maxPersistPayload := by decide +kernel
    rw [List.length_append, length_putU32]
    exact hbody
  have hsaved := sampleState_fits.serializeState
  have hfits := stateFits_iff _ |>.mp sampleState_fits
  exact ⟨_, hsaved, hlen,
    (saved_loads_iff hsaved hlen _).mpr ⟨hfits.1.2, hfits.2.1.2, hfits.2.2.2⟩⟩

/-- A state whose note on the firmware is one byte too long is saved and cannot be loaded. -/
theorem long_note_is_lost :
    ∃ st payload, st.Keyed ∧ serializeState st = .ok payload ∧
      payload.length ≤ maxPersistPayload ∧
      ¬∃ st', deserializeState (fun _ => 0) payload = .ok st' := by
  have hlen : (writeDevice (plainDevice ∅ (List.replicate 65537 0))).length + 24 ≤
      maxPersistPayload := by
    rw [length_plainDevice, List.length_replicate]
    decide
  obtain ⟨payload, hsaved, hpayload, err, herr⟩ := plainDevice_refused (fun _ => 0) hlen
    (.inr (by rw [List.length_replicate]; decide))
  refine ⟨_, payload, soleDevice_keyed _, hsaved, hpayload, ?_⟩
  rintro ⟨st', hst'⟩
  rw [herr] at hst'
  cases hst'

end Persistence

end CxlFabric
