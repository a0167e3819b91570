import CxlFabric.PersistEnvelope

/-! # What loads can be saved

A payload that is accepted need not be one that was written: it may hold ports, records
that a later one replaces, or flags other than zero and one. The state that comes of it
is within all bounds, takes no more bytes than it was read from, and is read back as it is. -/
namespace CxlFabric

namespace Persistence

section fields
variable (err : String)

theorem spends_word {α : Type} {n : ℕ} {size : n < 2 ^ 64} {load : (ℕ → UInt8) → α} :
    Spends (getWord n size load) fun m _ => m = n :=
  Spends.take.bind fun _ _ hn => .pure (by rw [hn, Nat.add_zero])

theorem spends_u32 : Spends (read getU32 err) fun n _ => n = 4 := .read spends_word err

theorem spends_u64 : Spends (read getU64 err) fun n _ => n = 8 := .read spends_word err

theorem spends_bool : Spends (readBool err) fun n _ => n = 4 :=
  (spends_u32 err).bind fun _ _ hn => .pure (by rw [hn])

theorem spends_bytes {n : ℕ} {size : n < 2 ^ 64} :
    Spends (getBytes n size) fun m s => m = n ∧ s.length = n :=
  Spends.take.bind fun _ _ hn => .pure ⟨by rw [hn, Nat.add_zero], by simp⟩

theorem spends_str :
    Spends (read getStr err) fun n s => s.length ≤ maxString ∧ n = 4 + s.length := by
  refine Spends.read (spends_word.bind fun len n hn => ?_) err
  split
  · exact .fail
  · next hle =>
    refine spends_bytes.mono ?_
    rintro m s ⟨hm, hs⟩
    exact ⟨by omega, by omega⟩

theorem spends_count (max : ℕ) : Spends (readCount max err) fun n k => n = 4 ∧ k ≤ max := by
  refine (spends_u32 err).bind fun k n hn => ?_
  split
  · exact .fail
  · next hle => exact .pure ⟨hn, Nat.le_of_not_lt hle⟩

/-- A list takes its count and its records, at least what they take when they are written. -/
theorem spends_list {α : Type} {F : α → Prop} {write : α → List UInt8} {item : Decoder α}
    {max : ℕ} (h : Spends item fun n a => F a ∧ (write a).length ≤ n) :
    Spends (readList max item err) fun n xs =>
      xs.length ≤ max ∧ (∀ x ∈ xs, F x) ∧ (putList write xs).length ≤ n := by
  refine (spends_count err max).bind fun k n hk => (h.many k).mono ?_
  rintro m xs ⟨hlen, hall, hsum⟩
  refine ⟨by omega, hall, ?_⟩
  rw [length_putList, List.length_flatMap]
  omega

theorem spends_strings (err' : String) (max : ℕ) :
    Spends (readList max (read getStr err) err') fun n xs => xs.length ≤ max ∧
      (∀ s ∈ xs, s.length ≤ maxString) ∧ (putList putStr xs).length ≤ n := by
  refine spends_list err' ((spends_str err).mono ?_)
  rintro n s ⟨hmax, hn⟩
  exact ⟨hmax, by rw [length_putStr, hn]⟩

end fields

/-- The records that a map keeps of a list that was read. -/
theorem collect_loaded {κ α : Type} [Ord κ] [Std.TransOrd κ] [Std.LawfulEqOrd κ] [DecidableEq κ]
    {F : α → Prop} {write : α → List UInt8} {max n : ℕ} {xs : List α} (key : α → κ)
    (h : xs.length ≤ max ∧ (∀ x ∈ xs, F x) ∧ (putList write xs).length ≤ n) :
    (collect key xs : Map κ α).size ≤ max ∧
    (∀ x ∈ (collect key xs : Map κ α).toList.map (·.2), F x) ∧
    (putList write ((collect key xs : Map κ α).toList.map (·.2))).length ≤ n := by
  obtain ⟨hlen, hall, hbytes⟩ := h
  refine ⟨(size_collect_le xs).trans hlen, fun x hx => hall x (mem_of_collect hx), ?_⟩
  have hsum : sumBy (fun x => (write x).length) (collect key xs : Map κ α) ≤
      (xs.map fun x => (write x).length).sum := sumBy_collect_le _ xs
  rw [length_putList, List.length_flatMap] at hbytes ⊢
  rw [List.map_map]
  unfold sumBy at hsum
  refine le_trans (Nat.add_le_add_left ?_ 4) hbytes
  exact hsum

/-- Records that are the same when they are stored are collected again. -/
theorem collect_stored {κ α : Type} [Ord κ] [Std.TransOrd κ] [Std.LawfulEqOrd κ] [DecidableEq κ]
    {key : α → κ} {g : α → α} {xs : List α}
    (h : ∀ x ∈ (collect key xs : Map κ α).toList.map (·.2), g x = x) :
    collect key ((collect key xs : Map κ α).toList.map fun e => g e.2) =
      (collect key xs : Map κ α) := by
  have hsame : ((collect key xs : Map κ α).toList.map fun e => g e.2) =
      (collect key xs : Map κ α).toList.map (·.2) :=
    List.map_congr_left fun e he => h e.2 (List.mem_map_of_mem he)
  rw [hsame]
  exact collect_toList_collect xs

/-- A pool that has been read: in bounds, and the same when it is stored. -/
structure PoolLoaded (p : CxlPool) : Prop where
  fits : PoolFits p
  stored : storedPool p = p

theorem spends_member : Spends readMember fun n m => MemberFits m ∧ (writeMember m).length ≤ n := by
  unfold readMember
  refine (spends_str _).bind fun device _ hdevice => (spends_u64 _).bind fun _ _ _ =>
    (spends_u64 _).bind fun _ _ _ => (spends_bool _).bind fun _ _ _ =>
    (spends_bool _).bind fun _ _ _ => (spends_str _).bind fun domain _ hdomain =>
    (spends_u32 _).bind fun _ _ _ => .pure ⟨⟨hdevice.1, hdomain.1⟩, ?_⟩
  simp only [writeMember, List.length_append, length_putStr, length_putU64, length_putU32,
    length_putBool]
  omega

theorem spends_pool : Spends readPool fun n p => PoolLoaded p ∧ (writePool p).length ≤ n := by
  unfold readPool
  refine (spends_str _).bind fun id _ hid => (spends_u64 _).bind fun _ _ _ =>
    (spends_list _ spends_member).bind fun members _ hmembers =>
    (spends_u64 _).bind fun _ _ _ => (spends_u64 _).bind fun _ _ _ =>
    (spends_u64 _).bind fun _ _ _ => (spends_u64 _).bind fun _ _ _ =>
    (spends_u64 _).bind fun _ _ _ => (spends_str _).bind fun policy _ hpolicy =>
    (spends_strings _ _ _).bind fun domains _ hdomains => (spends_u32 _).bind fun _ _ _ =>
    (spends_u32 _).bind fun _ _ _ => (spends_u32 _).bind fun _ _ _ =>
    (spends_u64 _).bind fun _ _ _ => (spends_bool _).bind fun _ _ _ =>
    (spends_str _).bind fun note _ hnote => .pure ⟨⟨?_, rfl⟩, ?_⟩
  · exact ⟨hid.1, ⟨hmembers.1, hmembers.2.1⟩, hpolicy.1, ⟨hdomains.1, hdomains.2.1⟩, hnote.1⟩
  · have hm := hmembers.2.2
    have hd := hdomains.2.2
    simp only [writePool, List.length_append, length_putStr, length_putU64, length_putU32,
      length_putBool]
    omega

structure RegionLoaded (r : CxlRegion) : Prop where
  fits : RegionFits r
  stored : storedRegion r = r

theorem spends_region :
    Spends readRegion fun n r => RegionLoaded r ∧ (writeRegion r).length ≤ n := by
  unfold readRegion
  refine (spends_str _).bind fun id _ hid => (spends_u64 _).bind fun _ _ _ =>
    (spends_str _).bind fun pool _ hpool => (spends_strings _ _ _).bind fun members _ hmembers =>
    (spends_str _).bind fun interleave _ hinterleave => (spends_u64 _).bind fun _ _ _ =>
    (spends_bool _).bind fun _ _ _ => (spends_u32 _).bind fun _ _ _ =>
    (spends_u64 _).bind fun _ _ _ => (spends_bool _).bind fun _ _ _ => .pure ⟨⟨?_, rfl⟩, ?_⟩
  · refine ⟨hid.1, hpool.1, ⟨?_, ?_⟩, hinterleave.1⟩
    · rw [List.length_map]
      exact hmembers.1
    · simpa using hmembers.2.1
  · have hm := hmembers.2.2
    have hids : putList (fun m : DeviceId => putStr m.value) (members.map Id.mk) =
        putList putStr members := by simp only [putList, List.length_map, List.flatMap_map]
    simp only [writeRegion, hids, List.length_append, length_putStr, length_putU64, length_putU32,
      length_putBool]
    omega

theorem spends_capability : Spends readCapability fun n c =>
    c.constraints.length ≤ maxString ∧ (writeCapability c).length ≤ n := by
  unfold readCapability
  refine (spends_u32 _).bind fun _ _ _ => (spends_u32 _).bind fun _ _ _ =>
    (spends_u64 _).bind fun _ _ _ => (spends_u32 _).bind fun _ _ _ =>
    (spends_u64 _).bind fun _ _ _ => (spends_bool _).bind fun _ _ _ =>
    (spends_str _).bind fun constraints _ hconstraints => .pure ⟨hconstraints.1, ?_⟩
  simp only [writeCapability, List.length_append, length_putStr, length_putU64, length_putU32,
    length_putBool]
  omega

theorem spends_economics : Spends readEconomics fun n e =>
    (e.notes.length ≤ maxString ∧ storedEconomics e = e) ∧ (writeEconomics e).length ≤ n := by
  unfold readEconomics
  refine (spends_u32 _).bind fun _ _ _ => (spends_u32 _).bind fun _ _ _ =>
    (spends_u32 _).bind fun _ _ _ => (spends_u32 _).bind fun _ _ _ =>
    (spends_u64 _).bind fun _ _ _ => (spends_u64 _).bind fun _ _ _ =>
    (spends_u32 _).bind fun _ _ _ => (spends_u64 _).bind fun _ _ _ =>
    (spends_bool _).bind fun _ _ _ => (spends_str _).bind fun notes _ hnotes =>
    .pure ⟨⟨hnotes.1, rfl⟩, ?_⟩
  simp only [writeEconomics, List.length_append, length_putStr, length_putU64, length_putU32,
    length_putBool]
  omega

structure DeviceLoaded (d : CxlDevice) : Prop where
  fits : DeviceFits d
  stored : storedDevice d = d

theorem length_writeDevice (d : CxlDevice) : (writeDevice d).length =
    100 + d.id.value.length + d.bootId.value.length + d.rawIdentity.length +
      d.vendorDeviceId.length + d.cxlDeviceClass.length + d.deviceType.length +
      d.host.value.length + d.firmwareMetadata.length + d.lifecycleNote.length +
      (putList writeCapability (d.capabilities.toList.map (·.2))).length +
      (writeEconomics d.economics).length := by
  have hnone : (putList putStr []).length = 4 := rfl
  unfold writeDevice
  simp only [List.length_append, length_putStr, length_putU64, length_putU32, length_putBool,
    hnone]
  generalize (putList writeCapability _).length = c
  generalize (writeEconomics _).length = e
  omega

theorem spends_device :
    Spends readDevice fun n d => DeviceLoaded d ∧ (writeDevice d).length ≤ n := by
  unfold readDevice
  refine (spends_str _).bind fun id _ hid => (spends_u64 _).bind fun _ _ _ =>
    (spends_str _).bind fun boot _ hboot => (spends_str _).bind fun identity _ hidentity => ?_
  refine (spends_str _).bind fun vendor _ hvendor => (spends_str _).bind fun klass _ hklass =>
    (spends_str _).bind fun type _ htype => (spends_str _).bind fun host _ hhost => ?_
  refine (spends_strings _ _ _).bind fun ports _ hports =>
    (spends_strings _ _ _).bind fun switch _ hswitch => (spends_u64 _).bind fun _ _ _ =>
    (spends_u64 _).bind fun _ _ _ => ?_
  refine (spends_u32 _).bind fun _ _ _ => (spends_u32 _).bind fun _ _ _ =>
    (spends_bool _).bind fun _ _ _ => (spends_bool _).bind fun _ _ _ => ?_
  refine (spends_u32 _).bind fun _ _ _ => (spends_u32 _).bind fun _ _ _ =>
    (spends_u64 _).bind fun _ _ _ => (spends_str _).bind fun firmware _ hfirmware => ?_
  refine (spends_str _).bind fun note _ hnote =>
    (spends_list _ spends_capability).bind fun capabilities _ hcapabilities =>
    spends_economics.bind fun economics _ heconomics => .pure ⟨⟨?_, ?_⟩, ?_⟩
  all_goals have hloaded := collect_loaded Capability.klass hcapabilities
  · refine ⟨hid.1, hboot.1, hidentity.1, hvendor.1, hklass.1, htype.1, hhost.1, hfirmware.1,
      hnote.1, ⟨?_, hloaded.2.1⟩, heconomics.1.1⟩
    rw [List.length_map, Std.ExtTreeMap.length_toList]
    exact hloaded.1
  · simp only [storedDevice, heconomics.1.2, collect_toList_collect]
  · have hc := hloaded.2.2
    have he := heconomics.2
    have hp := hports.2.2
    have hs := hswitch.2.2
    rw [length_putList] at hp hs
    rw [length_writeDevice]
    dsimp only
    generalize (putList writeCapability _).length = c at hc ⊢
    generalize (writeEconomics _).length = e at he ⊢
    omega

/-- A state that has been read: in bounds, keyed, and the same when it is stored. -/
structure StateLoaded (st : PersistedState) : Prop where
  fits : StateFits st
  keyed : st.Keyed
  stored : storedState st = st

theorem spends_body : Spends readBody fun n st => StateLoaded st ∧ (writeBody st).length ≤ n := by
  unfold readBody
  refine (spends_u64 _).bind fun policy _ _ =>
    (spends_list _ spends_device).bind fun devices _ hds =>
    (spends_list _ spends_region).bind fun regions _ hrs =>
    (spends_list _ spends_pool).bind fun pools _ hps => .pure ⟨?_, ?_⟩
  all_goals
    have hd := collect_loaded CxlDevice.id hds
    have hr := collect_loaded CxlRegion.id hrs
    have hp := collect_loaded CxlPool.id hps
  · have hkeyed : PersistedState.Keyed
        { policyGeneration := ⟨policy⟩, devices := collect CxlDevice.id devices
          regions := collect CxlRegion.id regions, pools := collect CxlPool.id pools } := by
      exact ⟨fun h => collect_keyed h, fun h => collect_keyed h, fun h => collect_keyed h⟩
    refine ⟨⟨⟨hd.1, fun d h => (hd.2.1 d h).fits⟩, ⟨hr.1, fun r h => (hr.2.1 r h).fits⟩,
      ⟨hp.1, fun p h => (hp.2.1 p h).fits⟩⟩, hkeyed, ?_⟩
    simp only [storedState]
    rw [collect_stored fun d h => (hd.2.1 d h).stored,
      collect_stored fun r h => (hr.2.1 r h).stored,
      collect_stored fun p h => (hp.2.1 p h).stored]
  · have hd' := hd.2.2
    have hr' := hr.2.2
    have hp' := hp.2.2
    simp only [writeBody, List.length_append, length_putU64]
    generalize (putList writeDevice _).length = d at hd' ⊢
    generalize (putList writeRegion _).length = r at hr' ⊢
    generalize (putList writePool _).length = p at hp' ⊢
    omega

section loading
variable {beyond : ℕ → UInt8} {file payload : List UInt8} {st : PersistedState}

theorem loaded (h : deserializeState beyond payload = .ok st) :
    StateLoaded st ∧ (writeBody st).length + 4 ≤ payload.length := by
  unfold deserializeState deserialize at h
  split at h
  · cases h
  next hshort =>
  dsimp only at h
  split at h
  · cases h
  generalize hout : readBody.run _ 0 = out at h
  rcases out with ⟨res, asked⟩
  cases res with
  | error e => cases h
  | ok r =>
    obtain ⟨n, hpos, hloaded, hbytes⟩ := spends_body _ 0 r.2 r.1 (by rw [hout])
    dsimp only at h
    split at h
    · cases h
    next hend =>
    cases h
    exact ⟨hloaded, by omega⟩

/-- What loads is saved again, in no more bytes, and these load as the same state. -/
theorem loaded_saves_again (hfile : readPersisted file = .ok payload)
    (hload : deserializeState beyond payload = .ok st) :
    ∃ payload' file', serializeState st = .ok payload' ∧ writePersisted payload' = .ok file' ∧
      file'.length ≤ file.length ∧ readPersisted file' = .ok payload' ∧
      ∀ beyond', deserializeState beyond' payload' = .ok st := by
  obtain ⟨hloaded, hbytes⟩ := loaded hload
  obtain ⟨hmax, high, rfl⟩ := readPersisted_eq_ok_iff.mp hfile
  have hserialize := hloaded.fits.serializeState
  have hlen : (writeBody st ++ putU32 (crc32 (writeBody st))).length ≤ payload.length := by
    rw [List.length_append, length_putU32]
    exact hbytes
  have hmax' := hlen.trans hmax
  refine ⟨_, _, hserialize, writePersisted_eq_ok_iff.mpr ⟨hmax', rfl⟩, ?_,
    readPersisted_eq_ok_iff.mpr ⟨hmax', 0, rfl⟩, ?_⟩
  · rw [envelope, envelope, length_enveloped, length_enveloped]
    exact Nat.add_le_add_left hlen _
  · intro beyond'
    rcases deserializeState_serializeState hserialize (.inr hloaded.fits) beyond' with
      ⟨-, hok⟩ | ⟨hno, -⟩
    · rw [hok, hloaded.stored]
    · exact absurd hloaded.fits hno

/-! ## Starting again and again -/

theorem length_putList_map {κ α : Type} [Ord κ] [Std.TransOrd κ] (write : α → List UInt8)
    (g : α → α) (hg : ∀ x, (write (g x)).length = (write x).length) (m : Map κ α) :
    (putList write ((m.map fun _ x => g x).toList.map (·.2))).length =
      (putList write (m.toList.map (·.2))).length := by
  rw [length_putList, length_putList, List.length_flatMap, List.length_flatMap,
    Std.ExtTreeMap.toList_map, List.map_map, List.map_map, List.map_map]
  congr 2
  apply List.map_congr_left
  intro e he
  exact hg e.2

theorem fits_map {κ α : Type} [Ord κ] [Std.TransOrd κ] {F : α → Prop} {g : α → α} {max : ℕ}
    (hg : ∀ x, F x → F (g x)) {m : Map κ α}
    (h : m.size ≤ max ∧ ∀ x ∈ m.toList.map (·.2), F x) :
    (m.map fun _ x => g x).size ≤ max ∧
      ∀ x ∈ (m.map fun _ x => g x).toList.map (·.2), F x := by
  refine ⟨by rw [Std.ExtTreeMap.size_map]; exact h.1, ?_⟩
  intro x hx
  rw [Std.ExtTreeMap.toList_map, List.map_map] at hx
  obtain ⟨e, he, rfl⟩ := List.mem_map.mp hx
  exact hg e.2 (h.2 e.2 (List.mem_map_of_mem he))

theorem StateFits.restart (h : StateFits st) (epoch : CoordinatorEpoch)
    (policy : PolicyGeneration) : StateFits (Fabric.restart epoch policy st).exportPersisted where
  devices := fits_map (fun _ h => ⟨h.1, h.2, h.3, h.4, h.5, h.6, h.7, h.8, h.9, h.10, h.11⟩)
    h.devices
  regions := fits_map (fun _ h => ⟨h.1, h.2, h.3, h.4⟩) h.regions
  pools := fits_map (fun _ h => ⟨h.1, h.2, h.3, h.4, h.5⟩) h.pools

theorem length_writeBody_restart (st : PersistedState) (epoch : CoordinatorEpoch)
    (policy : PolicyGeneration) :
    (writeBody (Fabric.restart epoch policy st).exportPersisted).length =
      (writeBody st).length := by
  have hdevices := length_putList_map writeDevice Fabric.importedDevice
    (fun _ => rfl) st.devices
  have hregions := length_putList_map writeRegion Fabric.importedRegion
    (fun _ => rfl) st.regions
  have hpools := length_putList_map writePool Fabric.importedPool
    (fun _ => by simp only [writePool, Fabric.importedPool, List.length_append, length_putBool])
    st.pools
  have hbody : writeBody (Fabric.restart epoch policy st).exportPersisted =
      putU64 st.policyGeneration.value ++
      putList writeDevice ((st.devices.map fun _ d => Fabric.importedDevice d).toList.map (·.2)) ++
      putList writeRegion ((st.regions.map fun _ r => Fabric.importedRegion r).toList.map (·.2)) ++
      putList writePool ((st.pools.map fun _ p => Fabric.importedPool p).toList.map (·.2)) := rfl
  rw [hbody]
  unfold writeBody
  simp only [List.length_append, length_putU64, hdevices, hregions, hpools]

/-- What a coordinator can hold of a state that it has read, and can write again. -/
structure Durable (st : PersistedState) : Prop where
  loaded : StateLoaded st
  room : (writeBody st).length + 4 ≤ maxPersistPayload

theorem durable_of_load (h : deserializeState beyond payload = .ok st)
    (hlen : payload.length ≤ maxPersistPayload) : Durable st := by
  obtain ⟨hloaded, hbytes⟩ := Persistence.loaded h
  exact ⟨hloaded, hbytes.trans hlen⟩

theorem recover_payload {f : Fabric} (h : f.recover beyond = .ok st) :
    ∃ payload, payload.length ≤ maxPersistPayload ∧ deserializeState beyond payload = .ok st := by
  unfold Fabric.recover at h
  split at h
  · cases h
  · next payload _ =>
    split at h
    · cases h
    · next hlen => exact ⟨payload, Nat.le_of_not_lt hlen, h⟩

theorem durable_of_recover {f : Fabric} (h : f.recover beyond = .ok st) : Durable st := by
  obtain ⟨payload, hlen, hload⟩ := recover_payload h
  exact durable_of_load hload hlen

theorem restart_keyed (hst : st.Keyed) (epoch : CoordinatorEpoch) (policy : PolicyGeneration) :
    (Fabric.restart epoch policy st).exportPersisted.Keyed :=
  ((Fabric.recordsKeyed_new epoch policy).step (.importPersisted st) hst).exportPersisted

/-- The engine depends on what an import keeps of the records. -/
theorem restart_congr {st' : PersistedState} (hpolicy : st.policyGeneration = st'.policyGeneration)
    (hdevices : ∀ id : DeviceId, st.devices[id]?.map Fabric.importedDevice =
      st'.devices[id]?.map Fabric.importedDevice)
    (hregions : ∀ id : RegionId, st.regions[id]?.map Fabric.importedRegion =
      st'.regions[id]?.map Fabric.importedRegion)
    (hpools : ∀ id : PoolId, st.pools[id]?.map Fabric.importedPool =
      st'.pools[id]?.map Fabric.importedPool)
    (epoch : CoordinatorEpoch) (policy : PolicyGeneration) :
    Fabric.restart epoch policy st = Fabric.restart epoch policy st' := by
  have hd : (st.devices.map fun _ d => Fabric.importedDevice d) =
      st'.devices.map fun _ d => Fabric.importedDevice d := by
    apply Std.ExtTreeMap.ext_getElem?
    intro id
    rw [Std.ExtTreeMap.getElem?_map, Std.ExtTreeMap.getElem?_map, hdevices]
  have hr : (st.regions.map fun _ r => Fabric.importedRegion r) =
      st'.regions.map fun _ r => Fabric.importedRegion r := by
    apply Std.ExtTreeMap.ext_getElem?
    intro id
    rw [Std.ExtTreeMap.getElem?_map, Std.ExtTreeMap.getElem?_map, hregions]
  have hp : (st.pools.map fun _ p => Fabric.importedPool p) =
      st'.pools.map fun _ p => Fabric.importedPool p := by
    apply Std.ExtTreeMap.ext_getElem?
    intro id
    rw [Std.ExtTreeMap.getElem?_map, Std.ExtTreeMap.getElem?_map, hpools]
  unfold Fabric.restart Fabric.importPersisted
  rw [hd, hr, hp, hpolicy]

/-- A record that is the same when it is stored is imported as itself after a restart. -/
theorem StateLoaded.reimported {κ α : Type} [Ord κ] [Std.TransOrd κ] {m m' : Map κ α}
    {imported : α → α} (stored : α → α) (hstored : ∀ id : κ, m[id]? = m[id]?.map stored)
    (hm' : ∀ id : κ, m'[id]? = (m[id]?.map imported).map stored)
    (hsame : ∀ x, imported (stored (imported x)) = imported (stored x)) (id : κ) :
    m'[id]?.map imported = m[id]?.map imported := by
  rw [hm' id]
  cases hid : m[id]? with
  | none => rfl
  | some x =>
    have hx := hstored id
    rw [hid] at hx
    simp only [Option.map_some, Option.some.injEq] at hx ⊢
    rw [hsame, ← hx]

/-- A second start gives the engine of the first one. -/
theorem StateLoaded.restart_restart (h : StateLoaded st) (epoch epoch' : CoordinatorEpoch)
    (policy policy' : PolicyGeneration) :
    Fabric.restart epoch' policy'
      (storedState (Fabric.restart epoch policy st).exportPersisted) =
      Fabric.restart epoch' policy' st := by
  have hkeyed := restart_keyed h.keyed epoch policy
  have hstored := h.stored
  refine restart_congr ?_ ?_ ?_ ?_ epoch' policy'
  · rfl
  · refine StateLoaded.reimported storedDevice ?_ ?_ fun _ => rfl
    · intro id
      rw [← storedState_devices h.keyed, hstored]
    · intro id
      rw [storedState_devices hkeyed]
      exact congrArg _ (Fabric.importPersisted_devices (.new epoch policy) st id)
  · refine StateLoaded.reimported storedRegion ?_ ?_ fun _ => rfl
    · intro id
      rw [← storedState_regions h.keyed, hstored]
    · intro id
      rw [storedState_regions hkeyed]
      exact congrArg _ (Fabric.importPersisted_regions (.new epoch policy) st id)
  · refine StateLoaded.reimported storedPool ?_ ?_ fun _ => rfl
    · intro id
      rw [← storedState_pools h.keyed, hstored]
    · intro id
      rw [storedState_pools hkeyed]
      exact congrArg _ (Fabric.importPersisted_pools (.new epoch policy) st id)

/-- What a restarted coordinator saves at once is what it reads back. -/
theorem Durable.recover (h : Durable st) (epoch : CoordinatorEpoch) (policy : PolicyGeneration)
    (beyond : ℕ → UInt8) : (Fabric.restart epoch policy st).recover beyond =
      .ok (storedState (Fabric.restart epoch policy st).exportPersisted) := by
  refine Fabric.recover_of_fits (h.loaded.fits.restart epoch policy) ?_ beyond
  rw [length_writeBody_restart]
  exact h.room

end loading

/-- The saved state of the sample topology is read, saved again and read again. -/
theorem loaded_saves_again_idleRun :
    ∃ file payload st payload' file', readPersisted file = .ok payload ∧
      deserializeState (fun _ => 0) payload = .ok st ∧ st.pools.size = 1 ∧
      serializeState st = .ok payload' ∧ file'.length ≤ file.length ∧
      readPersisted file' = .ok payload' ∧ ∀ beyond, deserializeState beyond payload' = .ok st := by
  obtain ⟨payload, hlen, hload⟩ := recover_payload Fabric.idleRun_recovers
  have hfile := readPersisted_eq_ok_iff.mpr ⟨hlen, 0, rfl⟩
  obtain ⟨payload', file', hserialize, -, hle, hread, hagain⟩ := loaded_saves_again hfile hload
  exact ⟨_, payload, _, payload', file', hfile, hload, by decide +kernel, hserialize, hle, hread,
    hagain⟩

/-- A coordinator is stopped, which saves its state, and started again. -/
structure Start where
  epoch : CoordinatorEpoch
  policy : PolicyGeneration
  beyond : ℕ → UInt8

def startAgain (f : Fabric) : List Start → Except String Fabric
  | [] => .ok f
  | s :: starts => do
    let st ← f.recover s.beyond
    startAgain (Fabric.restart s.epoch s.policy st) starts

/-- However often a coordinator is stopped and started again after it has recovered, it
comes up with the engine that its last start would have made of the recovered state. -/
theorem startAgain_eq {beyond : ℕ → UInt8} {payload : List UInt8} {st : PersistedState}
    (hload : deserializeState beyond payload = .ok st)
    (hlen : payload.length ≤ maxPersistPayload) (first : Start) (starts : List Start) :
    startAgain (Fabric.restart first.epoch first.policy st) starts =
      .ok (Fabric.restart ((first :: starts).getLast (List.cons_ne_nil _ _)).epoch
        ((first :: starts).getLast (List.cons_ne_nil _ _)).policy st) := by
  have hdurable := durable_of_load hload hlen
  clear hload hlen
  induction starts generalizing first st with
  | nil => rfl
  | cons next starts ih =>
    have hrecover := hdurable.recover first.epoch first.policy next.beyond
    have hrest := ih next (durable_of_recover hrecover)
    simp only [hdurable.loaded.restart_restart] at hrest
    rw [startAgain, hrecover]
    exact (congrArg (startAgain · starts)
      (hdurable.loaded.restart_restart first.epoch next.epoch first.policy next.policy)).trans hrest

theorem startAgain_eq_idleRun :
    ∃ payload st, deserializeState (fun _ => 0) payload = .ok st ∧ st.pools.size = 1 ∧
      startAgain (Fabric.restart ⟨2⟩ ⟨1⟩ st) [⟨⟨3⟩, ⟨1⟩, fun _ => 0⟩, ⟨⟨4⟩, ⟨1⟩, fun _ => 0⟩] =
        .ok (Fabric.restart ⟨4⟩ ⟨1⟩ st) := by
  obtain ⟨payload, hlen, hload⟩ := recover_payload Fabric.idleRun_recovers
  exact ⟨payload, _, hload, by decide +kernel, startAgain_eq hload hlen ⟨⟨2⟩, ⟨1⟩, fun _ => 0⟩ _⟩

end Persistence

end CxlFabric
