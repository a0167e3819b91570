import CxlFabric.Persistence
import CxlFabric.RecordKeys

/-! # What is serialized is read back

A state whose strings and lists are within the reader's bounds decodes to itself with the
unwritten fields at their defaults. Beyond the bounds the reader reports an error, as long
as every length fits its 32-bit prefix: a text below `2 ^ 32` bytes has no other lengths,
and neither has a state within the bounds. -/
namespace CxlFabric
namespace Persistence

section fields
variable (err : String)

theorem decodes_u32 (v : UInt32) : Decodes True (read getU32 err) (putU32 v) v :=
  (decodes_getU32 v).read err

theorem decodes_u64 (v : UInt64) : Decodes True (read getU64 err) (putU64 v) v :=
  (decodes_getU64 v).read err

theorem decodes_bool (v : Bool) : Decodes True (readBool err) (putBool v) v := by
  refine Decodes.of_eq (decodes_u32 err (if v then 1 else 0)).bind_pure ?_
  cases v <;> rfl

theorem decodes_str {s : List UInt8} (hlen : s.length < 2 ^ 32) :
    Decodes (s.length ≤ maxString) (read getStr err) (putStr s) s :=
  (decodes_getStr hlen).read err

theorem decodes_count {max n : ℕ} (hn : n < 2 ^ 32) :
    Decodes (n ≤ max) (readCount max err) (putU32 (UInt32.ofNat n)) n := by
  have htoNat : (UInt32.ofNat n).toNat = n := UInt32.toNat_ofNat_of_lt' hn
  have hbound : Decodes (n ≤ max) (if (UInt32.ofNat n).toNat > max then .fail err
      else pure (UInt32.ofNat n).toNat : Decoder ℕ) [] n := by
    rw [htoNat]
    split
    · next hmax => exact (Decodes.fail n err).congr (iff_of_false not_false (Nat.not_le.mpr hmax))
    · next hmax => exact (Decodes.pure n).congr (iff_of_true trivial (Nat.not_lt.mp hmax))
  have hcount := (decodes_u32 err (UInt32.ofNat n)).bind
    (k := fun m => if m.toNat > max then .fail err else pure m.toNat) hbound
  rw [List.append_nil] at hcount
  exact hcount.congr (and_iff_right trivial)

end fields

/-- A record written in a short list is short. -/
theorem length_le_flatMap {α : Type} (write : α → List UInt8) {xs : List α} {x : α}
    (hx : x ∈ xs) : (write x).length ≤ (xs.flatMap write).length := by
  induction xs with
  | nil => cases hx
  | cons y xs ih =>
    rw [List.flatMap_cons, List.length_append]
    rcases List.mem_cons.mp hx with rfl | hx
    · omega
    · have := ih hx
      omega

/-- Records that take a byte each are no more than the bytes. -/
theorem length_le_length_flatMap {α : Type} {write : α → List UInt8}
    (hpos : ∀ x, 0 < (write x).length) (xs : List α) : xs.length ≤ (xs.flatMap write).length := by
  induction xs with
  | nil => exact Nat.zero_le _
  | cons x xs ih =>
    have := hpos x
    rw [List.flatMap_cons, List.length_append, List.length_cons]
    omega

theorem length_putStr (s : List UInt8) : (putStr s).length = 4 + s.length := by simp [putStr]

theorem length_putBool (b : Bool) : (putBool b).length = 4 := rfl

theorem length_putList {α : Type} (write : α → List UInt8) (xs : List α) :
    (putList write xs).length = 4 + (xs.flatMap write).length := by simp [putList]

theorem maxString_lt : maxString < 2 ^ 32 := by decide

theorem maxStrings_lt : maxStrings < 2 ^ 32 := by decide

theorem maxRecords_lt : maxRecords < 2 ^ 32 := by decide

theorem maxCapabilities_lt : maxCapabilities < 2 ^ 32 := by decide

/-- A list is read back whose text is short, or whose length and records are in bounds. -/
theorem decodes_list {α β : Type} {P : β → Prop} {item : Decoder α} {w : β → List UInt8}
    {g : β → α} {max : ℕ} {xs : List β} (err : String) (hmax : max < 2 ^ 32)
    (hitem : ∀ x, (w x).length < 2 ^ 32 ∨ P x → Decodes (P x) item (w x) (g x))
    (hpos : ∀ x, 0 < (w x).length)
    (h : (putList w xs).length < 2 ^ 32 ∨ (xs.length ≤ max ∧ ∀ x ∈ xs, P x)) :
    Decodes (xs.length ≤ max ∧ ∀ x ∈ xs, P x) (readList max item err) (putList w xs)
      (xs.map g) := by
  rw [length_putList] at h
  have hlen := length_le_length_flatMap hpos xs
  refine (decodes_count err ?_).bind (Decodes.many ?_)
  · rcases h with h | h
    · omega
    · exact lt_of_le_of_lt h.1 hmax
  · intro x hx
    apply hitem
    rcases h with h | h
    · left
      have := length_le_flatMap w hx
      omega
    · exact .inr (h.2 x hx)

/-- A string that is read back, alone or in a list. -/
theorem decodes_item {s : List UInt8} (err : String)
    (h : (putStr s).length < 2 ^ 32 ∨ s.length ≤ maxString) :
    Decodes (s.length ≤ maxString) (read getStr err) (putStr s) s := by
  apply decodes_str
  rcases h with h | h
  · rw [length_putStr] at h
    omega
  · exact lt_of_le_of_lt h maxString_lt

theorem putStr_pos (s : List UInt8) : 0 < (putStr s).length := by
  rw [length_putStr]
  omega

/-- Strings of a list are read back. -/
theorem decodes_strings {max : ℕ} {xs : List (List UInt8)} (err err' : String) (hmax : max < 2 ^ 32)
    (h : (putList putStr xs).length < 2 ^ 32 ∨
      (xs.length ≤ max ∧ ∀ s ∈ xs, s.length ≤ maxString)) :
    Decodes (xs.length ≤ max ∧ ∀ s ∈ xs, s.length ≤ maxString)
      (readList max (read getStr err) err') (putList putStr xs) xs :=
  (decodes_list (g := fun s => s) err' hmax (fun _ hs => decodes_item err hs) putStr_pos h).of_eq
    (List.map_id' xs)

def MemberFits (m : PoolMember) : Prop :=
  m.device.value.length ≤ maxString ∧ m.failureDomain.length ≤ maxString

theorem decodes_member {m : PoolMember} (h : (writeMember m).length < 2 ^ 32 ∨ MemberFits m) :
    Decodes (MemberFits m) readMember (writeMember m) m := by
  have hlengths : m.device.value.length < 2 ^ 32 ∧ m.failureDomain.length < 2 ^ 32 := by
    rcases h with h | ⟨hdevice, hdomain⟩
    · simp only [writeMember, List.length_append, length_putStr] at h
      omega
    · exact ⟨lt_of_le_of_lt hdevice maxString_lt, lt_of_le_of_lt hdomain maxString_lt⟩
  simp only [writeMember, List.append_assoc]
  refine (((decodes_str _ hlengths.1).bind <| (decodes_u64 _ _).bind <| (decodes_u64 _ _).bind <|
    (decodes_bool _ _).bind <| (decodes_bool _ _).bind <| (decodes_str _ hlengths.2).bind <|
    (decodes_u32 _ _).bind_pure).of_eq ?_).congr ?_
  · simp
  · simp only [MemberFits, true_and, and_true]

theorem writeMember_pos (m : PoolMember) : 0 < (writeMember m).length := by
  simp only [writeMember, List.length_append, length_putU32]
  omega

@[mk_iff] structure PoolFits (p : CxlPool) : Prop where
  id : p.id.value.length ≤ maxString
  members : p.members.length ≤ maxRecords ∧ ∀ m ∈ p.members, MemberFits m
  policy : p.admissionPolicy.length ≤ maxString
  domains : p.failureDomains.length ≤ maxStrings ∧ ∀ s ∈ p.failureDomains, s.length ≤ maxString
  note : p.lifecycleNote.length ≤ maxString

instance : DecidablePred MemberFits := fun _ => inferInstanceAs (Decidable (_ ∧ _))

instance : DecidablePred PoolFits := fun p => decidable_of_iff _ (poolFits_iff p).symm

/-- The pool as it comes back: the lifecycle state is not written. -/
def storedPool (p : CxlPool) : CxlPool := { p with state := .defined }

theorem decodes_pool {p : CxlPool} (h : (writePool p).length < 2 ^ 32 ∨ PoolFits p) :
    Decodes (PoolFits p) readPool (writePool p) (storedPool p) := by
  have hlengths : p.id.value.length < 2 ^ 32 ∧ p.admissionPolicy.length < 2 ^ 32 ∧
      p.lifecycleNote.length < 2 ^ 32 := by
    rcases h with h | h
    · simp only [writePool, List.length_append, length_putStr] at h
      omega
    · exact ⟨lt_of_le_of_lt h.id maxString_lt, lt_of_le_of_lt h.policy maxString_lt,
        lt_of_le_of_lt h.note maxString_lt⟩
  have hmembers : Decodes (p.members.length ≤ maxRecords ∧ ∀ m ∈ p.members, MemberFits m)
      (readList maxRecords readMember "pool members") (putList writeMember p.members)
      p.members := by
    refine (decodes_list (w := writeMember) (g := fun m => m) "pool members" maxRecords_lt
      (fun m hm => decodes_member hm) writeMember_pos ?_).of_eq (List.map_id' _)
    refine h.imp ?_ fun h => h.members
    intro h
    simp only [writePool, List.length_append] at h
    omega
  have hdomains : Decodes (p.failureDomains.length ≤ maxStrings ∧
        ∀ s ∈ p.failureDomains, s.length ≤ maxString)
      (readList maxStrings (read getStr "pool domains") "pool domains")
      (putList putStr p.failureDomains) p.failureDomains := by
    refine decodes_strings _ _ maxStrings_lt (h.imp ?_ fun h => h.domains)
    intro h
    simp only [writePool, List.length_append] at h
    omega
  simp only [writePool, List.append_assoc]
  refine (((decodes_str _ hlengths.1).bind <| (decodes_u64 _ _).bind <| hmembers.bind <|
    (decodes_u64 _ _).bind <| (decodes_u64 _ _).bind <| (decodes_u64 _ _).bind <|
    (decodes_u64 _ _).bind <| (decodes_u64 _ _).bind <| (decodes_str _ hlengths.2.1).bind <|
    hdomains.bind <| (decodes_u32 _ _).bind <| (decodes_u32 _ _).bind <|
    (decodes_u32 _ _).bind <| (decodes_u64 _ _).bind <| (decodes_bool _ _).bind <|
    (decodes_str _ hlengths.2.2).bind_pure).of_eq ?_).congr ?_
  · simp [storedPool]
  · simp only [poolFits_iff, true_and]

@[mk_iff] structure RegionFits (r : CxlRegion) : Prop where
  id : r.id.value.length ≤ maxString
  pool : r.pool.value.length ≤ maxString
  members : r.memberDevices.length ≤ maxRecords ∧
    ∀ m ∈ r.memberDevices, m.value.length ≤ maxString
  interleave : r.interleaveSet.length ≤ maxString

instance : DecidablePred RegionFits := fun r => decidable_of_iff _ (regionFits_iff r).symm

/-- The region as it comes back: the counters and all dynamic fields are not written. -/
def storedRegion (r : CxlRegion) : CxlRegion where
  id := r.id
  generation := r.generation
  pool := r.pool
  memberDevices := r.memberDevices
  interleaveSet := r.interleaveSet
  regionCapacityBytes := r.regionCapacityBytes
  interleaved := r.interleaved
  provenance := r.provenance
  evidenceGeneration := r.evidenceGeneration
  deviceLocal := r.deviceLocal

theorem decodes_region {r : CxlRegion} (h : (writeRegion r).length < 2 ^ 32 ∨ RegionFits r) :
    Decodes (RegionFits r) readRegion (writeRegion r) (storedRegion r) := by
  have hlengths : r.id.value.length < 2 ^ 32 ∧ r.pool.value.length < 2 ^ 32 ∧
      r.interleaveSet.length < 2 ^ 32 := by
    rcases h with h | h
    · simp only [writeRegion, List.length_append, length_putStr] at h
      omega
    · exact ⟨lt_of_le_of_lt h.id maxString_lt, lt_of_le_of_lt h.pool maxString_lt,
        lt_of_le_of_lt h.interleave maxString_lt⟩
  have hmembers : Decodes (r.memberDevices.length ≤ maxRecords ∧
        ∀ m ∈ r.memberDevices, m.value.length ≤ maxString)
      (readList maxRecords (read getStr "region member") "region members")
      (putList (fun m => putStr m.value) r.memberDevices) (r.memberDevices.map Id.value) := by
    refine decodes_list (w := fun m : DeviceId => putStr m.value) "region members" maxRecords_lt
      (fun m hm => decodes_item _ hm) (fun m => putStr_pos m.value) ?_
    refine h.imp ?_ fun h => h.members
    intro h
    simp only [writeRegion, List.length_append] at h
    omega
  simp only [writeRegion, List.append_assoc]
  refine (((decodes_str _ hlengths.1).bind <| (decodes_u64 _ _).bind <|
    (decodes_str _ hlengths.2.1).bind <| hmembers.bind <| (decodes_str _ hlengths.2.2).bind <|
    (decodes_u64 _ _).bind <| (decodes_bool _ _).bind <| (decodes_u32 _ _).bind <|
    (decodes_u64 _ _).bind <| (decodes_bool _ _).bind_pure).of_eq ?_).congr ?_
  · simp [storedRegion, Function.comp_def]
  · simp only [regionFits_iff, true_and, and_true]

theorem decodes_capability {c : Capability}
    (h : (writeCapability c).length < 2 ^ 32 ∨ c.constraints.length ≤ maxString) :
    Decodes (c.constraints.length ≤ maxString) readCapability (writeCapability c) c := by
  have hlength : c.constraints.length < 2 ^ 32 := by
    rcases h with h | h
    · simp only [writeCapability, List.length_append, length_putStr] at h
      omega
    · exact lt_of_le_of_lt h maxString_lt
  simp only [writeCapability, List.append_assoc]
  refine (((decodes_u32 _ _).bind <| (decodes_u32 _ _).bind <| (decodes_u64 _ _).bind <|
    (decodes_u32 _ _).bind <| (decodes_u64 _ _).bind <| (decodes_bool _ _).bind <|
    (decodes_str _ hlength).bind_pure).of_eq ?_).congr ?_
  · simp
  · simp only [true_and]

theorem writeCapability_pos (c : Capability) : 0 < (writeCapability c).length := by
  simp only [writeCapability, List.length_append, length_putU32]
  omega

/-- The access economics as they come back: the penalty is not written. -/
def storedEconomics (e : AccessEconomics) : AccessEconomics :=
  { e with accessPenaltyVsLocal := ({} : AccessEconomics).accessPenaltyVsLocal }

theorem decodes_economics {e : AccessEconomics}
    (h : (writeEconomics e).length < 2 ^ 32 ∨ e.notes.length ≤ maxString) :
    Decodes (e.notes.length ≤ maxString) readEconomics (writeEconomics e)
      (storedEconomics e) := by
  have hlength : e.notes.length < 2 ^ 32 := by
    rcases h with h | h
    · simp only [writeEconomics, List.length_append, length_putStr] at h
      omega
    · exact lt_of_le_of_lt h maxString_lt
  simp only [writeEconomics, List.append_assoc]
  refine (((decodes_u32 _ _).bind <| (decodes_u32 _ _).bind <| (decodes_u32 _ _).bind <|
    (decodes_u32 _ _).bind <| (decodes_u64 _ _).bind <| (decodes_u64 _ _).bind <|
    (decodes_u32 _ _).bind <| (decodes_u64 _ _).bind <| (decodes_bool _ _).bind <|
    (decodes_str _ hlength).bind_pure).of_eq ?_).congr ?_
  · simp [storedEconomics]
  · simp only [true_and]

@[mk_iff] structure DeviceFits (d : CxlDevice) : Prop where
  id : d.id.value.length ≤ maxString
  boot : d.bootId.value.length ≤ maxString
  identity : d.rawIdentity.length ≤ maxString
  vendor : d.vendorDeviceId.length ≤ maxString
  klass : d.cxlDeviceClass.length ≤ maxString
  type : d.deviceType.length ≤ maxString
  host : d.host.value.length ≤ maxString
  firmware : d.firmwareMetadata.length ≤ maxString
  note : d.lifecycleNote.length ≤ maxString
  capabilities : (d.capabilities.toList.map (·.2)).length ≤ maxCapabilities ∧
    ∀ c ∈ d.capabilities.toList.map (·.2), c.constraints.length ≤ maxString
  economics : d.economics.notes.length ≤ maxString

instance : DecidablePred DeviceFits := fun d => decidable_of_iff _ (deviceFits_iff d).symm

/-- The device as it comes back: ports, switches and all dynamic fields are not written,
and the capabilities are stored under their classes again. -/
def storedDevice (d : CxlDevice) : CxlDevice where
  id := d.id
  generation := d.generation
  bootId := d.bootId
  rawIdentity := d.rawIdentity
  vendorDeviceId := d.vendorDeviceId
  cxlDeviceClass := d.cxlDeviceClass
  deviceType := d.deviceType
  host := d.host
  totalPhysicalBytes := d.totalPhysicalBytes
  onlineBytes := d.onlineBytes
  volatility := d.volatility
  sharing := d.sharing
  multiHostCapable := d.multiHostCapable
  interleaveCapable := d.interleaveCapable
  acceleratorAccess := d.acceleratorAccess
  provenance := d.provenance
  evidenceGeneration := d.evidenceGeneration
  firmwareMetadata := d.firmwareMetadata
  lifecycleNote := d.lifecycleNote
  capabilities := collect Capability.klass (d.capabilities.toList.map (·.2))
  economics := storedEconomics d.economics

theorem decodes_device {d : CxlDevice} (h : (writeDevice d).length < 2 ^ 32 ∨ DeviceFits d) :
    Decodes (DeviceFits d) readDevice (writeDevice d) (storedDevice d) := by
  have hlengths : (d.id.value.length < 2 ^ 32 ∧ d.bootId.value.length < 2 ^ 32 ∧
      d.rawIdentity.length < 2 ^ 32 ∧ d.vendorDeviceId.length < 2 ^ 32) ∧
      (d.cxlDeviceClass.length < 2 ^ 32 ∧ d.deviceType.length < 2 ^ 32 ∧
      d.host.value.length < 2 ^ 32) ∧
      (d.firmwareMetadata.length < 2 ^ 32 ∧ d.lifecycleNote.length < 2 ^ 32) ∧
      ((putList writeCapability (d.capabilities.toList.map (·.2))).length < 2 ^ 32 ∨
        ((d.capabilities.toList.map (·.2)).length ≤ maxCapabilities ∧
          ∀ c ∈ d.capabilities.toList.map (·.2), c.constraints.length ≤ maxString)) ∧
      ((writeEconomics d.economics).length < 2 ^ 32 ∨ d.economics.notes.length ≤ maxString) := by
    rcases h with h | h
    · unfold writeDevice at h
      simp only [List.length_append, length_putStr] at h
      omega
    · have hlt {s : Str} (hs : s.length ≤ maxString) : s.length < 2 ^ 32 :=
        lt_of_le_of_lt hs maxString_lt
      exact ⟨⟨hlt h.id, hlt h.boot, hlt h.identity, hlt h.vendor⟩,
        ⟨hlt h.klass, hlt h.type, hlt h.host⟩, ⟨hlt h.firmware, hlt h.note⟩,
        .inr h.capabilities, .inr h.economics⟩
  obtain ⟨⟨hid, hboot, hidentity, hvendor⟩, ⟨hklass, htype, hhost⟩, ⟨hfirmware, hnote⟩,
    hcapabilities, heconomics⟩ := hlengths
  have hempty : Decodes _ (readList maxStrings (read getStr "device ports") "device ports")
      (putList putStr []) [] := decodes_strings _ _ maxStrings_lt (.inl (by decide))
  have hempty' : Decodes _ (readList maxStrings (read getStr "device switch") "device switch")
      (putList putStr []) [] := decodes_strings _ _ maxStrings_lt (.inl (by decide))
  have hcaps : Decodes _ (readList maxCapabilities readCapability "cap count")
      (putList writeCapability (d.capabilities.toList.map (·.2)))
      (d.capabilities.toList.map (·.2)) :=
    (decodes_list (w := writeCapability) (g := fun c => c) "cap count" maxCapabilities_lt
      (fun c hc => decodes_capability hc) writeCapability_pos hcapabilities).of_eq (List.map_id' _)
  unfold writeDevice
  simp only [List.append_assoc]
  refine (((decodes_str _ hid).bind <| (decodes_u64 _ _).bind <| (decodes_str _ hboot).bind <|
    (decodes_str _ hidentity).bind <| (decodes_str _ hvendor).bind <|
    (decodes_str _ hklass).bind <| (decodes_str _ htype).bind <| (decodes_str _ hhost).bind <|
    hempty.bind <| hempty'.bind <| (decodes_u64 _ _).bind <| (decodes_u64 _ _).bind <|
    (decodes_u32 _ _).bind <| (decodes_u32 _ _).bind <| (decodes_bool _ _).bind <|
    (decodes_bool _ _).bind <| (decodes_u32 _ _).bind <| (decodes_u32 _ _).bind <|
    (decodes_u64 _ _).bind <| (decodes_str _ hfirmware).bind <| (decodes_str _ hnote).bind <|
    hcaps.bind <| (decodes_economics heconomics).bind_pure).of_eq ?_).congr ?_
  · simp [storedDevice]
  · simp only [deviceFits_iff, List.length_nil, Nat.zero_le, List.not_mem_nil, false_imp_iff,
      implies_true, true_and, and_true]

/-- Every string and every list of the state is within the bounds of the reader. -/
@[mk_iff] structure StateFits (st : PersistedState) : Prop where
  devices : st.devices.size ≤ maxRecords ∧ ∀ d ∈ st.devices.toList.map (·.2), DeviceFits d
  regions : st.regions.size ≤ maxRecords ∧ ∀ r ∈ st.regions.toList.map (·.2), RegionFits r
  pools : st.pools.size ≤ maxRecords ∧ ∀ p ∈ st.pools.toList.map (·.2), PoolFits p

instance : DecidablePred StateFits := fun st => decidable_of_iff _ (stateFits_iff st).symm

/-- The state as it comes back. -/
def storedState (st : PersistedState) : PersistedState where
  policyGeneration := st.policyGeneration
  devices := collect CxlDevice.id (st.devices.toList.map fun e => storedDevice e.2)
  regions := collect CxlRegion.id (st.regions.toList.map fun e => storedRegion e.2)
  pools := collect CxlPool.id (st.pools.toList.map fun e => storedPool e.2)

theorem writeDevice_pos (d : CxlDevice) : 0 < (writeDevice d).length := by
  unfold writeDevice
  simp only [List.length_append, length_putU64]
  omega

theorem writeRegion_pos (r : CxlRegion) : 0 < (writeRegion r).length := by
  simp only [writeRegion, List.length_append, length_putU64]
  omega

theorem writePool_pos (p : CxlPool) : 0 < (writePool p).length := by
  simp only [writePool, List.length_append, length_putU64]
  omega

/-- The records of a map that are written behind each other are read back. -/
theorem decodes_records {κ α : Type} [Ord κ] [Std.TransOrd κ] {P : α → Prop} {item : Decoder α}
    {w : α → List UInt8} {g : α → α} {m : Map κ α} (err : String)
    (hitem : ∀ x, (w x).length < 2 ^ 32 ∨ P x → Decodes (P x) item (w x) (g x))
    (hpos : ∀ x, 0 < (w x).length)
    (h : (putList w (m.toList.map (·.2))).length < 2 ^ 32 ∨
      (m.size ≤ maxRecords ∧ ∀ x ∈ m.toList.map (·.2), P x)) :
    Decodes (m.size ≤ maxRecords ∧ ∀ x ∈ m.toList.map (·.2), P x) (readList maxRecords item err)
      (putList w (m.toList.map (·.2))) (m.toList.map fun e => g e.2) := by
  have hsize : (m.toList.map (·.2)).length = m.size := by
    rw [List.length_map, Std.ExtTreeMap.length_toList]
  rw [← hsize] at h ⊢
  refine (decodes_list err maxRecords_lt hitem hpos h).of_eq ?_
  rw [List.map_map]
  rfl

theorem decodes_body {st : PersistedState} (h : (writeBody st).length < 2 ^ 32 ∨ StateFits st) :
    Decodes (StateFits st) readBody (writeBody st) (storedState st) := by
  have hlengths {n : ℕ} (hn : n ≤ (writeBody st).length) : n < 2 ^ 32 ∨ StateFits st :=
    h.imp_left (lt_of_le_of_lt hn)
  have hdevices := decodes_records (w := writeDevice) "device count invalid"
    (fun d hd => decodes_device hd) writeDevice_pos
    ((hlengths (by simp only [writeBody, List.length_append]; omega)).imp_right
      fun h => h.devices)
  have hregions := decodes_records (w := writeRegion) "region count" (fun r hr => decodes_region hr)
    writeRegion_pos ((hlengths (by simp only [writeBody, List.length_append]; omega)).imp_right
      fun h => h.regions)
  have hpools := decodes_records (w := writePool) "pool count" (fun p hp => decodes_pool hp)
    writePool_pos ((hlengths (by simp only [writeBody, List.length_append]; omega)).imp_right
      fun h => h.pools)
  simp only [writeBody, List.append_assoc]
  refine (((decodes_u64 _ _).bind <| hdevices.bind <| hregions.bind <|
    hpools.bind_pure).of_eq ?_).congr ?_
  · simp only [storedState]
  · simp only [stateFits_iff, true_and]

/-- A state within the bounds of the reader is within those of the writer. -/
theorem StateFits.serializeState {st : PersistedState} (h : StateFits st) :
    serializeState st = .ok (writeBody st ++ putU32 (crc32 (writeBody st))) := by
  unfold Persistence.serializeState
  rw [if_neg]
  have hdevices := h.devices.1
  have hregions := h.regions.1
  have hpools := h.pools.1
  omega

theorem payloadMemory_holds (payload : List UInt8) (beyond : ℕ → UInt8) :
    Buffer.Holds { mem := payloadMemory payload beyond, len := payload.length } 0 payload := by
  refine ⟨by simp, ?_⟩
  intro i x hx
  obtain ⟨hi, rfl⟩ := List.getElem?_eq_some_iff.mp hx
  simp [payloadMemory, hi]

/-- What has been serialized is read back exactly if it is within the bounds of the reader,
provided that every length fits its prefix. -/
theorem deserializeState_serializeState {st : PersistedState} {payload : List UInt8}
    (h : serializeState st = .ok payload) (hlen : payload.length < 2 ^ 32 ∨ StateFits st)
    (beyond : ℕ → UInt8) :
    (StateFits st ∧ deserializeState beyond payload = .ok (storedState st)) ∨
      (¬StateFits st ∧ ∃ err, deserializeState beyond payload = .error err) := by
  unfold serializeState at h
  split at h
  · cases h
  cases h
  generalize hbody : writeBody st = body at hlen
  have hdecodes : Decodes (StateFits st) readBody (writeBody st) (storedState st) := by
    refine decodes_body (hlen.imp_left ?_)
    intro hlt
    rw [List.length_append, length_putU32] at hlt
    rw [hbody]
    omega
  rw [hbody] at hdecodes
  have hlength : (body ++ putU32 (crc32 body)).length - 4 = body.length := by
    rw [List.length_append, length_putU32, Nat.add_sub_cancel]
  have hpayload := payloadMemory_holds (body ++ putU32 (crc32 body)) beyond
  have hcrc := loadU32_holds hpayload.right
  rw [Nat.zero_add] at hcrc
  unfold deserializeState deserialize
  rw [if_neg (by rw [List.length_append, length_putU32]; omega)]
  dsimp only at hcrc ⊢
  rw [hlength, List.take_left, hcrc, if_neg (by simp)]
  have hread := hdecodes _ 0 hpayload.left.cut
  rw [Nat.zero_add] at hread
  dsimp only at hread
  generalize readBody.run _ 0 = out at hread
  rcases out with ⟨res, asked⟩
  rcases hread with ⟨hfits, rfl⟩ | ⟨hfits, err, rfl⟩
  · left
    simp [hfits]
  · exact .inr ⟨hfits, err, rfl⟩

theorem storedState_keyed (st : PersistedState) : (storedState st).Keyed :=
  ⟨collect_keyed, collect_keyed, collect_keyed⟩

theorem storedState_devices {st : PersistedState} (h : st.Keyed) (id : DeviceId) :
    (storedState st).devices[id]? = st.devices[id]?.map storedDevice :=
  getElem?_collect_toList (fun k d hd => (h.device hd : d.id = k)) id

theorem storedState_regions {st : PersistedState} (h : st.Keyed) (id : RegionId) :
    (storedState st).regions[id]? = st.regions[id]?.map storedRegion :=
  getElem?_collect_toList (fun k r hr => (h.region hr : r.id = k)) id

theorem storedState_pools {st : PersistedState} (h : st.Keyed) (id : PoolId) :
    (storedState st).pools[id]? = st.pools[id]?.map storedPool :=
  getElem?_collect_toList (fun k p hp => (h.pool hp : p.id = k)) id

end Persistence

end CxlFabric
