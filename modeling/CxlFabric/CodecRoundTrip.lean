import CxlFabric.Codec
import CxlFabric.PersistenceRoundTrip

/-! # What a worker sends is what the coordinator decodes -/
namespace CxlFabric
namespace Codec

open Persistence

/-- A decoder that reads a whole payload accepts it. -/
theorem decodeAll_of_decodes {α : Type} {d : Decoder α} {P : Prop} {w : List UInt8} {v : α}
    (h : Decodes P d w v) (hP : P) (err : String) (beyond : ℕ → UInt8) :
    decodeAll d err beyond w = .ok v := by
  have hrun := h _ 0 (payloadMemory_holds w beyond)
  rw [Nat.zero_add] at hrun
  unfold decodeAll decodeRun
  generalize d.run _ 0 = out at hrun
  rcases out with ⟨res, asked⟩
  rcases hrun with ⟨-, rfl⟩ | ⟨hnot, -⟩
  · simp
  · exact absurd hP hnot

/-- Nothing may stand behind what a decoder reads. -/
theorem decodeAll_append {α : Type} {d : Decoder α} {P : Prop} {w suffix : List UInt8} {v : α}
    (h : Decodes P d w v) (hP : P) (hsuffix : suffix ≠ []) (err : String) (beyond : ℕ → UInt8) :
    decodeAll d err beyond (w ++ suffix) = .error err := by
  have hrun := h _ 0 (payloadMemory_holds (w ++ suffix) beyond).left
  rw [Nat.zero_add] at hrun
  have hlong : w.length ≠ (w ++ suffix).length := by
    rw [List.length_append]
    exact fun heq => hsuffix (List.eq_nil_of_length_eq_zero (by omega))
  unfold decodeAll decodeRun
  generalize d.run _ 0 = out at hrun
  rcases out with ⟨res, asked⟩
  rcases hrun with ⟨-, rfl⟩ | ⟨hnot, -⟩
  · simp only [if_pos hlong]
  · exact absurd hP hnot

/-- A payload decodes to a value, and to nothing with more bytes behind it. -/
def ReadsAs {α : Type} (decode : (ℕ → UInt8) → List UInt8 → Except String α)
    (payload : List UInt8) (v : α) : Prop :=
  ∀ beyond, decode beyond payload = .ok v ∧
    ∀ suffix, suffix ≠ [] → ∃ err, decode beyond (payload ++ suffix) = .error err

theorem readsAs_of_decodes {α : Type} {d : Decoder α} {P : Prop} {w : List UInt8} {v : α}
    {err : String} (h : Decodes P d w v) (hP : P) : ReadsAs (decodeAll d err) w v :=
  fun beyond => ⟨decodeAll_of_decodes h hP err beyond,
    fun _ hsuffix => ⟨err, decodeAll_append h hP hsuffix err beyond⟩⟩

/-- The device as the coordinator builds it from the payload. -/
def receivedDevice (d : CxlDevice) : CxlDevice where
  id := d.id
  generation := d.generation
  bootId := ⟨d.id.value ++ str "-boot"⟩
  rawIdentity := str "control:" ++ d.id.value
  vendorDeviceId := str "VEND:0001 DEVI:0001"
  cxlDeviceClass := str "Type-3"
  deviceType := str "memory"
  host := d.host
  totalPhysicalBytes := d.totalPhysicalBytes
  onlineBytes := d.onlineBytes
  volatility := d.volatility
  acceleratorAccess := d.acceleratorAccess
  health := .named .healthy
  state := d.state
  economics := { locality := d.economics.locality }
  provenance := d.provenance
  evidenceCurrent := d.evidenceCurrent
  lifecycleNote := str "multiprocess"

theorem decodes_getDevice {d : CxlDevice} (hid : d.id.value.length < 2 ^ 32)
    (hhost : d.host.value.length < 2 ^ 32) :
    Decodes (d.id.value.length ≤ maxString ∧ d.host.value.length ≤ maxString)
      getDevice (encodeDevice d) (receivedDevice d) := by
  unfold encodeDevice
  simp only [List.append_assoc]
  refine (((decodes_u64 _ _).bind <| (decodes_u64 _ _).bind <| (decodes_u64 _ _).bind <|
    (decodes_str _ hid).bind <| (decodes_str _ hhost).bind <|
    (decodes_u32 _ _).bind <| (decodes_u32 _ _).bind <| (decodes_u32 _ _).bind <|
    (decodes_u32 _ _).bind <| (decodes_u32 _ _).bind <| (decodes_bool _ _).bind <|
    (decodes_bool _ _).bind_pure).of_eq ?_).congr ?_
  · by_cases hstate : d.state = .named .online
    · simp [receivedDevice, hstate]
    · simp [receivedDevice, hstate]
  · simp only [true_and, and_true]

theorem lt_of_le_maxString {n : ℕ} (h : n ≤ maxString) : n < 2 ^ 32 := lt_of_le_of_lt h maxString_lt

theorem readsAs_device {d : CxlDevice} (hid : d.id.value.length ≤ maxString)
    (hhost : d.host.value.length ≤ maxString) :
    ReadsAs decodeDevice (encodeDevice d) (receivedDevice d) :=
  readsAs_of_decodes (decodes_getDevice (lt_of_le_maxString hid) (lt_of_le_maxString hhost))
    ⟨hid, hhost⟩

theorem decodeDevice_encodeDevice {d : CxlDevice} (hid : d.id.value.length ≤ maxString)
    (hhost : d.host.value.length ≤ maxString) (beyond : ℕ → UInt8) :
    decodeDevice beyond (encodeDevice d) = .ok (receivedDevice d) :=
  (readsAs_device hid hhost beyond).1

theorem readsAs_reserve {bytes : UInt64} {consumer : Str} (h : consumer.length ≤ maxString) :
    ReadsAs decodeReserve (encodeReserve bytes consumer) (bytes, consumer) :=
  readsAs_of_decodes ((decodes_u64 _ bytes).bind (decodes_str _ (lt_of_le_maxString h)).bind_pure)
    ⟨trivial, h⟩

theorem maxMembers_lt : maxMembers < 2 ^ 32 := by decide

theorem decodes_poolMember {m : PoolMember}
    (h : (putPoolMember m).length < 2 ^ 32 ∨ MemberFits m) :
    Decodes (MemberFits m) getPoolMember (putPoolMember m) m := by
  have hlengths : m.device.value.length < 2 ^ 32 ∧ m.failureDomain.length < 2 ^ 32 := by
    rcases h with h | ⟨hdevice, hdomain⟩
    · simp only [putPoolMember, List.length_append, length_putStr] at h
      omega
    · exact ⟨lt_of_le_maxString hdevice, lt_of_le_maxString hdomain⟩
  simp only [putPoolMember, List.append_assoc]
  refine (((decodes_str _ hlengths.1).bind <| (decodes_u64 _ _).bind <| (decodes_u64 _ _).bind <|
    (decodes_bool _ _).bind <| (decodes_bool _ _).bind <| (decodes_str _ hlengths.2).bind <|
    (decodes_u32 _ _).bind_pure).of_eq ?_).congr ?_
  · simp
  · simp only [MemberFits, true_and, and_true]

theorem putPoolMember_pos (m : PoolMember) : 0 < (putPoolMember m).length := by
  simp only [putPoolMember, List.length_append, length_putU32]
  omega

theorem readsAs_pool {id : PoolId} {generation : PoolGeneration} {members : List PoolMember}
    (hid : id.value.length ≤ maxString) (hcount : members.length ≤ maxMembers)
    (hmembers : ∀ m ∈ members, MemberFits m) :
    ReadsAs decodePool (encodePool id generation members) (id, generation, members) := by
  have hlist : Decodes (members.length ≤ maxMembers ∧ ∀ m ∈ members, MemberFits m)
      (readList maxMembers getPoolMember "decode_pool") (putList putPoolMember members) members :=
    (decodes_list (g := fun m => m) "decode_pool" maxMembers_lt
      (fun m hm => decodes_poolMember hm) putPoolMember_pos (.inr ⟨hcount, hmembers⟩)).of_eq
      (List.map_id' _)
  unfold encodePool
  rw [List.append_assoc]
  exact readsAs_of_decodes ((decodes_str _ (lt_of_le_maxString hid)).bind <|
    (decodes_u64 _ _).bind hlist.bind_pure) ⟨hid, trivial, hcount, hmembers⟩

/-- The region as the coordinator builds it from the payload. -/
def receivedRegion (id : RegionId) (generation : RegionGeneration) (pool : PoolId)
    (members : List DeviceId) (bytes : UInt64) (locality : LocalityClass) (tier : TierClass)
    (state : RegionState) : CxlRegion where
  id := id
  generation := generation
  pool := pool
  memberDevices := members
  regionCapacityBytes := bytes
  locality := locality
  tier := tier
  state := state
  interleaved := members.length > 1
  health := .named .healthy
  provenance := .named .synthetic
  evidenceCurrent := true
  evidenceGeneration := ⟨1⟩

theorem readsAs_region {id : RegionId} {generation : RegionGeneration} {pool : PoolId}
    {members : List DeviceId} {bytes : UInt64} {locality : LocalityClass} {tier : TierClass}
    {state : RegionState} (hid : id.value.length ≤ maxString)
    (hpool : pool.value.length ≤ maxString) (hcount : members.length ≤ maxMembers)
    (hmembers : ∀ m ∈ members, m.value.length ≤ maxString) :
    ReadsAs decodeRegion (encodeRegion id generation pool members bytes locality tier state)
      (receivedRegion id generation pool members bytes locality tier state) := by
  have hlist : Decodes (members.length ≤ maxMembers ∧ ∀ m ∈ members, m.value.length ≤ maxString)
      (readList maxMembers (read getStr "decode_region") "decode_region")
      (putList (fun m : DeviceId => putStr m.value) members) (members.map (·.value)) :=
    decodes_list (P := fun m : DeviceId => m.value.length ≤ maxString) "decode_region"
      maxMembers_lt (fun m hm => decodes_item _ hm) (fun m => putStr_pos m.value)
      (.inr ⟨hcount, hmembers⟩)
  unfold encodeRegion
  simp only [List.append_assoc]
  refine readsAs_of_decodes (((decodes_str _ (lt_of_le_maxString hid)).bind <|
    (decodes_u64 _ _).bind <| (decodes_str _ (lt_of_le_maxString hpool)).bind <| hlist.bind <|
    (decodes_u64 _ _).bind <| (decodes_u32 _ _).bind <| (decodes_u32 _ _).bind <|
    (decodes_u32 _ _).bind_pure).of_eq ?_)
    ⟨hid, trivial, hpool, ⟨hcount, hmembers⟩, trivial, trivial, trivial, trivial⟩
  have hback : (members.map (·.value)).map Id.mk = members :=
    (List.map_map ..).trans (List.map_id' members)
  simp [receivedRegion, hback]

/-- What a published device keeps on its way to the coordinator. -/
structure Preserved (d r : CxlDevice) : Prop where
  id : r.id = d.id
  generation : r.generation = d.generation
  totalPhysicalBytes : r.totalPhysicalBytes = d.totalPhysicalBytes
  onlineBytes : r.onlineBytes = d.onlineBytes
  host : r.host = d.host
  volatility : r.volatility = d.volatility
  state : r.state = d.state
  provenance : r.provenance = d.provenance
  locality : r.economics.locality = d.economics.locality
  acceleratorAccess : r.acceleratorAccess = d.acceleratorAccess
  evidenceCurrent : r.evidenceCurrent = d.evidenceCurrent

theorem codecs_round_trip :
    (∀ d : CxlDevice, d.id.value.length ≤ maxString → d.host.value.length ≤ maxString →
      ∃ r, ReadsAs decodeDevice (encodeDevice d) r ∧ Preserved d r) ∧
    (∀ (id : PoolId) (generation : PoolGeneration) (members : List PoolMember),
      id.value.length ≤ maxString → members.length ≤ maxMembers →
      (∀ m ∈ members, m.device.value.length ≤ maxString ∧ m.failureDomain.length ≤ maxString) →
      ReadsAs decodePool (encodePool id generation members) (id, generation, members)) ∧
    (∀ (id : RegionId) (generation : RegionGeneration) (pool : PoolId) (members : List DeviceId)
      (bytes : UInt64) (locality : LocalityClass) (tier : TierClass) (state : RegionState),
      id.value.length ≤ maxString → pool.value.length ≤ maxString → members.length ≤ maxMembers →
      (∀ m ∈ members, m.value.length ≤ maxString) →
      ∃ r, ReadsAs decodeRegion
          (encodeRegion id generation pool members bytes locality tier state) r ∧
        r.id = id ∧ r.generation = generation ∧ r.pool = pool ∧ r.memberDevices = members ∧
        r.regionCapacityBytes = bytes ∧ r.locality = locality ∧ r.tier = tier ∧
        r.state = state) ∧
    ∀ (bytes : UInt64) (consumer : Str), consumer.length ≤ maxString →
      ReadsAs decodeReserve (encodeReserve bytes consumer) (bytes, consumer) := by
  refine ⟨?_, ?_, ?_, ?_⟩
  · intro d hid hhost
    exact ⟨receivedDevice d, readsAs_device hid hhost,
      ⟨rfl, rfl, rfl, rfl, rfl, rfl, rfl, rfl, rfl, rfl, rfl⟩⟩
  · intro id generation members hid hcount hmembers
    exact readsAs_pool hid hcount hmembers
  · intro id generation pool members bytes locality tier state hid hpool hcount hmembers
    exact ⟨_, readsAs_region hid hpool hcount hmembers, rfl, rfl, rfl, rfl, rfl, rfl, rfl, rfl⟩
  · intro bytes consumer hconsumer
    exact readsAs_reserve hconsumer

/-- A persistent device that is degraded and partly online. -/
def degradedPersistentDevice : CxlDevice where
  id := ⟨str "d1"⟩
  generation := ⟨7⟩
  host := ⟨str "host-r"⟩
  totalPhysicalBytes := 16384
  onlineBytes := 12288
  volatility := .named .persistent
  state := .named .degraded
  provenance := .named .derived
  acceleratorAccess := .named .hostMediated
  evidenceCurrent := true
  economics := { locality := .named .crossHost }

/-- Two members in different failure domains, one of them offline and unhealthy. -/
def twoMembers : List PoolMember :=
  [{ device := ⟨str "d1"⟩, deviceGeneration := ⟨7⟩, nominalBytes := 12288, online := true
     healthOk := true, failureDomain := str "fd-1", locality := .named .sameHost },
    { device := ⟨str "d2"⟩, deviceGeneration := ⟨3⟩, nominalBytes := 4096
      failureDomain := str "fd-2", locality := .named .crossHost }]

theorem codecs_round_trip_members :
    (∃ r, ReadsAs decodeDevice (encodeDevice degradedPersistentDevice) r ∧
      Preserved degradedPersistentDevice r) ∧
    ReadsAs decodePool (encodePool ⟨str "p-1"⟩ ⟨5⟩ twoMembers) (⟨str "p-1"⟩, ⟨5⟩, twoMembers) ∧
    (∃ r, ReadsAs decodeRegion (encodeRegion ⟨str "r1"⟩ ⟨4⟩ ⟨str "p-1"⟩
        [⟨str "d1"⟩, ⟨str "d2"⟩] 8192 (.named .sameHost) (.named .cxlNear) (.named .online)) r ∧
      r.id = ⟨str "r1"⟩ ∧ r.generation = ⟨4⟩ ∧ r.pool = ⟨str "p-1"⟩ ∧
      r.memberDevices = [⟨str "d1"⟩, ⟨str "d2"⟩] ∧ r.regionCapacityBytes = 8192 ∧
      r.locality = .named .sameHost ∧ r.tier = .named .cxlNear ∧ r.state = .named .online) ∧
    ReadsAs decodeReserve (encodeReserve 4096 (str "svc")) (4096, str "svc") :=
  ⟨codecs_round_trip.1 degradedPersistentDevice (by decide) (by decide),
    codecs_round_trip.2.1 ⟨str "p-1"⟩ ⟨5⟩ twoMembers (by decide) (by decide) (by decide),
    codecs_round_trip.2.2.1 ⟨str "r1"⟩ ⟨4⟩ ⟨str "p-1"⟩ [⟨str "d1"⟩, ⟨str "d2"⟩] 8192
      (.named .sameHost) (.named .cxlNear) (.named .online) (by decide) (by decide) (by decide)
      (by decide),
    codecs_round_trip.2.2.2 4096 (str "svc") (by decide)⟩

end Codec

end CxlFabric
