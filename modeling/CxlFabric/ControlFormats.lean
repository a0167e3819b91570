import CxlFabric.ByteFormats
import CxlFabric.CodecRoundTrip

/-! # The payloads the control plane accepts

A payload decodes exactly when it is the layout of some words and strings that are short
enough. The words of the enumerations and the generations are taken as they come, so the
layouts with an undeclared word or a zero generation are accepted as well. -/
namespace CxlFabric
namespace Codec
open Persistence

section fields
variable (err : String)

theorem consumes_word {α : Type} {n : ℕ} {size : n < 2 ^ 64} {load : (ℕ → UInt8) → α}
    {put : α → List UInt8} (hput : ∀ p, put (load p) = (List.range n).map p) :
    Consumes (getWord n size load) fun w v => w = put v := by
  refine Consumes.take.bind_pure.mono ?_
  rintro w v ⟨p, rfl, rfl⟩
  exact (hput p).symm

theorem consumes_getU32 : Consumes getU32 fun w v => w = putU32 v :=
  consumes_word putU32_loadU32

theorem consumes_u32 : Consumes (read getU32 err) fun w v => w = putU32 v :=
  consumes_getU32.read err

theorem consumes_u64 : Consumes (read getU64 err) fun w v => w = putU64 v :=
  (consumes_word putU64_loadU64).read err

theorem consumes_getBytes {n : ℕ} (size : n < 2 ^ 64) :
    Consumes (getBytes n size) fun w s => w = s ∧ s.length = n := by
  refine Consumes.take.bind_pure.mono ?_
  rintro w s ⟨p, rfl, rfl⟩
  exact ⟨rfl, by simp⟩

theorem consumes_str :
    Consumes (read getStr err) fun w s => w = putStr s ∧ s.length ≤ maxString := by
  have hbody (n : UInt32) : Consumes (if n.toNat > maxString then .fail () else
      getBytes n.toNat (toNat_lt_size n)) fun w s => w = s ∧ s.length = n.toNat ∧
        s.length ≤ maxString := by
    refine Consumes.ite (fun _ => .fail ()) fun hn => (consumes_getBytes _).mono ?_
    rintro w s ⟨hw, hlen⟩
    exact ⟨hw, hlen, hlen ▸ Nat.le_of_not_lt hn⟩
  refine Consumes.read ((consumes_getU32.bind hbody).mono ?_) err
  rintro w s ⟨_, n, _, rfl, ⟨rfl, hlen, hmax⟩, rfl⟩
  refine ⟨?_, hmax⟩
  rw [putStr, hlen, UInt32.ofNat_toNat]

/-- A flag is any word; it is set unless the word is zero. -/
theorem consumes_bool :
    Consumes (readBool err) fun w v => ∃ u : UInt32, w = putU32 u ∧ v = decide (u ≠ 0) :=
  (consumes_u32 err).bind_pure

theorem consumes_count (max : ℕ) :
    Consumes (readCount max err) fun w n => w = putU32 (UInt32.ofNat n) ∧ n ≤ max := by
  have hbody (n : UInt32) : Consumes (if n.toNat > max then .fail err else pure n.toNat : Decoder ℕ)
      fun w k => w = [] ∧ k = n.toNat ∧ k ≤ max := by
    refine Consumes.ite (fun _ => .fail err) fun hn => (Consumes.pure _).mono ?_
    rintro w k ⟨hw, hk⟩
    exact ⟨hw, hk, hk ▸ Nat.le_of_not_lt hn⟩
  refine ((consumes_u32 err).bind hbody).mono ?_
  rintro w k ⟨_, n, _, rfl, ⟨rfl, rfl, hmax⟩, rfl⟩
  rw [UInt32.ofNat_toNat, List.append_nil]
  exact ⟨rfl, hmax⟩

theorem consumes_list {X α : Type} {P : X → Prop} {bytes : X → List UInt8} {value : X → α}
    {item : Decoder α} (max : ℕ) (h : Consumes item (Layout P bytes value)) :
    Consumes (readList max item err) (Layout
      (fun xs : List X => xs.length ≤ max ∧ ∀ x ∈ xs, P x) (putList bytes) (List.map value)) := by
  refine ((consumes_count err max).bind fun n => h.many n).mono ?_
  rintro w v ⟨_, n, _, ⟨rfl, hn⟩, ⟨xs, ⟨rfl, hxs⟩, rfl, rfl⟩, rfl⟩
  exact ⟨xs, ⟨hn, hxs⟩, rfl, rfl⟩

/-- A decoder whose format is a layout accepts a payload exactly when it is laid out so. -/
theorem decodeAll_eq_ok_iff {X α : Type} {P : X → Prop} {bytes : X → List UInt8} {value : X → α}
    {d : Decoder α} {err : String} (hread : Consumes d (Layout P bytes value))
    (hwrite : ∀ x, P x → Decodes True d (bytes x) (value x)) (beyond : ℕ → UInt8)
    (payload : List UInt8) (v : α) :
    decodeAll d err beyond payload = .ok v ↔ Layout P bytes value payload v := by
  constructor
  · intro h
    unfold decodeAll decodeRun at h
    generalize hrun : d.run _ 0 = out at h
    rcases out with ⟨_ | ⟨v', pos⟩, asked⟩
    · cases h
    · dsimp only at h
      split at h
      · cases h
      · next hend =>
        cases h
        rw [not_not] at hend
        subst hend
        obtain ⟨w, hw, hlen, hlayout⟩ := hread _ 0 _ v (by rw [hrun]) (Nat.le_refl _)
        rw [Nat.zero_add] at hlen
        rwa [(payloadMemory_holds payload beyond).eq hw hlen]
  · rintro ⟨x, hx, rfl, rfl⟩
    exact decodeAll_of_decodes (hwrite x hx) trivial err beyond

theorem decodes_flag (u : UInt32) : Decodes True (readBool err) (putU32 u) (decide (u ≠ 0)) :=
  (decodes_u32 err u).bind_pure

theorem decodes_listing {X α : Type} {P : X → Prop} {bytes : X → List UInt8} {value : X → α}
    {item : Decoder α} {max : ℕ} {xs : List X} (hmax : max < 2 ^ 32)
    (hitem : ∀ x, P x → Decodes True item (bytes x) (value x))
    (hxs : xs.length ≤ max ∧ ∀ x ∈ xs, P x) :
    Decodes True (readList max item err) (putList bytes xs) (xs.map value) := by
  have hmany : Decodes (∀ x ∈ xs, True) (decodeMany item xs.length) (xs.flatMap bytes)
      (xs.map value) := Decodes.many fun x hx => hitem x (hxs.2 x hx)
  exact ((decodes_count err (lt_of_le_of_lt hxs.1 hmax)).bind hmany).congr (by simp [hxs.1])

end fields

/-- The word names an enumerator. -/
def DeclaredWord (E : Type) [Enumerators E] (w : UInt32) : Prop :=
  w.toNat < (Enumerators.all E).length

/-- The object is a declared enumerator. -/
def Declared {E : Type} [Enumerators E] (x : OpenEnum E) : Prop := ∃ e, x = .named e

theorem declared_ofUInt32_iff {E : Type} [DecidableEq E] [Enumerators E] (w : UInt32) :
    Declared (.ofUInt32 w : OpenEnum E) ↔ DeclaredWord E w := by
  unfold Declared DeclaredWord OpenEnum.ofUInt32
  split
  · next h => exact iff_of_true ⟨_, rfl⟩ h
  · next h => exact iff_of_false (by simp) h

/-- The words and strings of a published device, in the order they stand. -/
structure DeviceLayout where
  generation : UInt64
  bytes : UInt64
  online : UInt64
  id : Str
  host : Str
  volatility : UInt32
  state : UInt32
  provenance : UInt32
  locality : UInt32
  accel : UInt32
  evidenceCurrent : UInt32
  isOnline : UInt32

namespace DeviceLayout

def Fits (x : DeviceLayout) : Prop := x.id.length ≤ maxString ∧ x.host.length ≤ maxString

def written (x : DeviceLayout) : List UInt8 :=
  putU64 x.generation ++ putU64 x.bytes ++ putU64 x.online ++ putStr x.id ++ putStr x.host ++
  putU32 x.volatility ++ putU32 x.state ++ putU32 x.provenance ++ putU32 x.locality ++
  putU32 x.accel ++ putU32 x.evidenceCurrent ++ putU32 x.isOnline

def device (x : DeviceLayout) : CxlDevice where
  id := ⟨x.id⟩
  host := ⟨x.host⟩
  generation := ⟨x.generation⟩
  totalPhysicalBytes := x.bytes
  onlineBytes := x.online
  volatility := .ofUInt32 x.volatility
  state := if decide (x.isOnline ≠ 0) then .named .online else .ofUInt32 x.state
  provenance := .ofUInt32 x.provenance
  economics := { locality := .ofUInt32 x.locality }
  acceleratorAccess := .ofUInt32 x.accel
  evidenceCurrent := decide (x.evidenceCurrent ≠ 0)
  bootId := ⟨x.id ++ str "-boot"⟩
  cxlDeviceClass := str "Type-3"
  deviceType := str "memory"
  vendorDeviceId := str "VEND:0001 DEVI:0001"
  rawIdentity := str "control:" ++ x.id
  health := .named .healthy
  lifecycleNote := str "multiprocess"

/-- The generation and the words of the enumerations that reach the device. -/
structure Sound (x : DeviceLayout) : Prop where
  generation : x.generation ≠ 0
  volatility : DeclaredWord VolatilityKind.Name x.volatility
  state : x.isOnline = 0 → DeclaredWord DeviceState.Name x.state
  provenance : DeclaredWord Provenance.Name x.provenance
  locality : DeclaredWord LocalityClass.Name x.locality
  accel : DeclaredWord AcceleratorAccessState.Name x.accel

theorem consumes : Consumes getDevice (Layout Fits written device) := by
  refine ((consumes_u64 _).bind fun _ => (consumes_u64 _).bind fun _ =>
    (consumes_u64 _).bind fun _ => (consumes_str _).bind fun _ => (consumes_str _).bind fun _ =>
    (consumes_u32 _).bind fun _ => (consumes_u32 _).bind fun _ => (consumes_u32 _).bind fun _ =>
    (consumes_u32 _).bind fun _ => (consumes_u32 _).bind fun _ => (consumes_bool _).bind fun _ =>
    (consumes_bool _).bind_pure).mono ?_
  rintro w d ⟨_, generation, _, rfl, h, rfl⟩
  obtain ⟨_, bytes, _, rfl, h, rfl⟩ := h
  obtain ⟨_, online, _, rfl, h, rfl⟩ := h
  obtain ⟨_, id, _, ⟨rfl, hid⟩, h, rfl⟩ := h
  obtain ⟨_, host, _, ⟨rfl, hhost⟩, h, rfl⟩ := h
  obtain ⟨_, volatility, _, rfl, h, rfl⟩ := h
  obtain ⟨_, state, _, rfl, h, rfl⟩ := h
  obtain ⟨_, provenance, _, rfl, h, rfl⟩ := h
  obtain ⟨_, locality, _, rfl, h, rfl⟩ := h
  obtain ⟨_, accel, _, rfl, h, rfl⟩ := h
  obtain ⟨_, _, _, ⟨evidenceCurrent, rfl, rfl⟩, ⟨_, ⟨isOnline, rfl, rfl⟩, rfl⟩, rfl⟩ := h
  refine ⟨⟨generation, bytes, online, id, host, volatility, state, provenance, locality, accel,
    evidenceCurrent, isOnline⟩, ⟨hid, hhost⟩, ?_, rfl⟩
  simp only [written, List.append_assoc]

theorem decodes {x : DeviceLayout} (h : x.Fits) : Decodes True getDevice x.written x.device := by
  simp only [written, List.append_assoc]
  refine ((decodes_u64 _ _).bind <| (decodes_u64 _ _).bind <| (decodes_u64 _ _).bind <|
    (decodes_str _ (lt_of_le_maxString h.1)).bind <|
    (decodes_str _ (lt_of_le_maxString h.2)).bind <| (decodes_u32 _ _).bind <|
    (decodes_u32 _ _).bind <| (decodes_u32 _ _).bind <| (decodes_u32 _ _).bind <|
    (decodes_u32 _ _).bind <| (decodes_flag _ _).bind <| (decodes_flag _ _).bind_pure).congr ?_
  simp only [true_and, and_true, iff_true]
  exact h

theorem decodeDevice_eq_ok_iff (beyond : ℕ → UInt8) (payload : List UInt8) (d : CxlDevice) :
    decodeDevice beyond payload = .ok d ↔ Layout Fits written device payload d :=
  decodeAll_eq_ok_iff consumes (fun _ h => decodes h) beyond payload d

end DeviceLayout

structure MemberLayout where
  device : Str
  deviceGeneration : UInt64
  nominalBytes : UInt64
  online : UInt32
  healthOk : UInt32
  failureDomain : Str
  locality : UInt32

namespace MemberLayout

def Fits (x : MemberLayout) : Prop :=
  x.device.length ≤ maxString ∧ x.failureDomain.length ≤ maxString

def written (x : MemberLayout) : List UInt8 :=
  putStr x.device ++ putU64 x.deviceGeneration ++ putU64 x.nominalBytes ++ putU32 x.online ++
  putU32 x.healthOk ++ putStr x.failureDomain ++ putU32 x.locality

def member (x : MemberLayout) : PoolMember where
  device := ⟨x.device⟩
  deviceGeneration := ⟨x.deviceGeneration⟩
  nominalBytes := x.nominalBytes
  online := decide (x.online ≠ 0)
  healthOk := decide (x.healthOk ≠ 0)
  failureDomain := x.failureDomain
  locality := .ofUInt32 x.locality

structure Sound (x : MemberLayout) : Prop where
  deviceGeneration : x.deviceGeneration ≠ 0
  locality : DeclaredWord LocalityClass.Name x.locality

theorem consumes : Consumes getPoolMember (Layout Fits written member) := by
  refine ((consumes_str _).bind fun _ => (consumes_u64 _).bind fun _ =>
    (consumes_u64 _).bind fun _ => (consumes_bool _).bind fun _ => (consumes_bool _).bind fun _ =>
    (consumes_str _).bind fun _ => (consumes_u32 _).bind_pure).mono ?_
  rintro w m ⟨_, device, _, ⟨rfl, hdevice⟩, h, rfl⟩
  obtain ⟨_, deviceGeneration, _, rfl, h, rfl⟩ := h
  obtain ⟨_, nominalBytes, _, rfl, h, rfl⟩ := h
  obtain ⟨_, _, _, ⟨online, rfl, rfl⟩, h, rfl⟩ := h
  obtain ⟨_, _, _, ⟨healthOk, rfl, rfl⟩, h, rfl⟩ := h
  obtain ⟨_, failureDomain, _, ⟨rfl, hdomain⟩, ⟨locality, rfl, rfl⟩, rfl⟩ := h
  refine ⟨⟨device, deviceGeneration, nominalBytes, online, healthOk, failureDomain, locality⟩,
    ⟨hdevice, hdomain⟩, ?_, rfl⟩
  simp only [written, List.append_assoc]

theorem decodes {x : MemberLayout} (h : x.Fits) :
    Decodes True getPoolMember x.written x.member := by
  simp only [written, List.append_assoc]
  refine ((decodes_str _ (lt_of_le_maxString h.1)).bind <| (decodes_u64 _ _).bind <|
    (decodes_u64 _ _).bind <| (decodes_flag _ _).bind <| (decodes_flag _ _).bind <|
    (decodes_str _ (lt_of_le_maxString h.2)).bind <| (decodes_u32 _ _).bind_pure).congr ?_
  simp only [true_and, and_true, iff_true]
  exact h

end MemberLayout

structure PoolLayout where
  id : Str
  generation : UInt64
  members : List MemberLayout

namespace PoolLayout

def Fits (x : PoolLayout) : Prop :=
  x.id.length ≤ maxString ∧ x.members.length ≤ maxMembers ∧ ∀ m ∈ x.members, m.Fits

def written (x : PoolLayout) : List UInt8 :=
  putStr x.id ++ putU64 x.generation ++ putList MemberLayout.written x.members

def pool (x : PoolLayout) : PoolId × PoolGeneration × List PoolMember :=
  (⟨x.id⟩, ⟨x.generation⟩, x.members.map MemberLayout.member)

structure Sound (x : PoolLayout) : Prop where
  generation : x.generation ≠ 0
  members : ∀ m ∈ x.members, m.Sound

theorem consumes : Consumes getPool (Layout Fits written pool) := by
  refine ((consumes_str _).bind fun _ => (consumes_u64 _).bind fun _ =>
    (consumes_list _ _ MemberLayout.consumes).bind_pure).mono ?_
  rintro w p ⟨_, id, _, ⟨rfl, hid⟩, ⟨_, generation, _, rfl, ⟨_, ⟨members, hmembers, rfl, rfl⟩, rfl⟩,
    rfl⟩, rfl⟩
  refine ⟨⟨id, generation, members⟩, ⟨hid, hmembers⟩, ?_, rfl⟩
  simp only [written, List.append_assoc]

theorem decodes {x : PoolLayout} (h : x.Fits) : Decodes True getPool x.written x.pool := by
  have hlist := decodes_listing "decode_pool" maxMembers_lt
    (fun _ hm => MemberLayout.decodes hm) h.2
  simp only [written, List.append_assoc]
  refine ((decodes_str _ (lt_of_le_maxString h.1)).bind <| (decodes_u64 _ _).bind <|
    hlist.bind_pure).congr ?_
  simpa only [true_and, and_true, iff_true] using h.1

theorem decodePool_eq_ok_iff (beyond : ℕ → UInt8) (payload : List UInt8)
    (p : PoolId × PoolGeneration × List PoolMember) :
    decodePool beyond payload = .ok p ↔ Layout Fits written pool payload p :=
  decodeAll_eq_ok_iff consumes (fun _ h => decodes h) beyond payload p

end PoolLayout

structure RegionLayout where
  id : Str
  generation : UInt64
  pool : Str
  members : List Str
  bytes : UInt64
  locality : UInt32
  tier : UInt32
  state : UInt32

namespace RegionLayout

def Fits (x : RegionLayout) : Prop :=
  x.id.length ≤ maxString ∧ x.pool.length ≤ maxString ∧ x.members.length ≤ maxMembers ∧
    ∀ m ∈ x.members, m.length ≤ maxString

def written (x : RegionLayout) : List UInt8 :=
  putStr x.id ++ putU64 x.generation ++ putStr x.pool ++ putList putStr x.members ++
  putU64 x.bytes ++ putU32 x.locality ++ putU32 x.tier ++ putU32 x.state

def region (x : RegionLayout) : CxlRegion :=
  receivedRegion ⟨x.id⟩ ⟨x.generation⟩ ⟨x.pool⟩ (x.members.map Id.mk) x.bytes
    (.ofUInt32 x.locality) (.ofUInt32 x.tier) (.ofUInt32 x.state)

structure Sound (x : RegionLayout) : Prop where
  generation : x.generation ≠ 0
  locality : DeclaredWord LocalityClass.Name x.locality
  tier : DeclaredWord TierClass.Name x.tier
  state : DeclaredWord RegionState.Name x.state

theorem consumes : Consumes getRegion (Layout Fits written region) := by
  have hitem : Consumes (read getStr "decode_region")
      (Layout (fun s : List UInt8 => s.length ≤ maxString) putStr fun s => s) :=
    (consumes_str _).mono fun w s h => ⟨s, h.2, h.1, rfl⟩
  refine ((consumes_str _).bind fun _ => (consumes_u64 _).bind fun _ =>
    (consumes_str _).bind fun _ => (consumes_list _ _ hitem).bind fun _ =>
    (consumes_u64 _).bind fun _ => (consumes_u32 _).bind fun _ => (consumes_u32 _).bind fun _ =>
    (consumes_u32 _).bind_pure).mono ?_
  rintro w r ⟨_, id, _, ⟨rfl, hid⟩, h, rfl⟩
  obtain ⟨_, generation, _, rfl, h, rfl⟩ := h
  obtain ⟨_, pool, _, ⟨rfl, hpool⟩, h, rfl⟩ := h
  obtain ⟨_, _, _, ⟨members, hmembers, rfl, rfl⟩, h, rfl⟩ := h
  obtain ⟨_, bytes, _, rfl, h, rfl⟩ := h
  obtain ⟨_, locality, _, rfl, h, rfl⟩ := h
  obtain ⟨_, tier, _, rfl, ⟨state, rfl, rfl⟩, rfl⟩ := h
  refine ⟨⟨id, generation, pool, members, bytes, locality, tier, state⟩, ⟨hid, hpool, hmembers⟩,
    ?_, ?_⟩
  · simp only [written, List.append_assoc]
  · simp [region, receivedRegion]

theorem decodes {x : RegionLayout} (h : x.Fits) : Decodes True getRegion x.written x.region := by
  have hlist : Decodes True (readList maxMembers (read getStr "decode_region") "decode_region")
      (putList putStr x.members) (x.members.map fun s => s) :=
    decodes_listing (P := fun s => s.length ≤ maxString) "decode_region" maxMembers_lt
      (fun s hs => (decodes_str _ (lt_of_le_maxString hs)).congr (by simp [hs])) h.2.2
  simp only [written, List.append_assoc]
  refine (((decodes_str _ (lt_of_le_maxString h.1)).bind <| (decodes_u64 _ _).bind <|
    (decodes_str _ (lt_of_le_maxString h.2.1)).bind <| hlist.bind <| (decodes_u64 _ _).bind <|
    (decodes_u32 _ _).bind <| (decodes_u32 _ _).bind <|
    (decodes_u32 _ _).bind_pure).congr ?_).of_eq ?_
  · simp only [true_and, and_true, iff_true]
    exact ⟨h.1, h.2.1⟩
  · simp [region, receivedRegion]

theorem decodeRegion_eq_ok_iff (beyond : ℕ → UInt8) (payload : List UInt8) (r : CxlRegion) :
    decodeRegion beyond payload = .ok r ↔ Layout Fits written region payload r :=
  decodeAll_eq_ok_iff consumes (fun _ h => decodes h) beyond payload r

end RegionLayout

/-- What is decoded has a generation and holds declared enumerators. -/
structure DeviceValid (d : CxlDevice) : Prop where
  generation : d.generation.value ≠ 0
  volatility : Declared d.volatility
  state : Declared d.state
  provenance : Declared d.provenance
  locality : Declared d.economics.locality
  acceleratorAccess : Declared d.acceleratorAccess

structure PoolValid (p : PoolId × PoolGeneration × List PoolMember) : Prop where
  generation : p.2.1.value ≠ 0
  members : ∀ m ∈ p.2.2, m.deviceGeneration.value ≠ 0 ∧ Declared m.locality

structure RegionValid (r : CxlRegion) : Prop where
  generation : r.generation.value ≠ 0
  locality : Declared r.locality
  tier : Declared r.tier
  state : Declared r.state

section valid

theorem deviceValid_iff (x : DeviceLayout) : DeviceValid x.device ↔ x.Sound := by
  have hstate : Declared x.device.state ↔
      (x.isOnline = 0 → DeclaredWord DeviceState.Name x.state) := by
    by_cases hflag : x.isOnline = 0
    · simp [DeviceLayout.device, hflag, declared_ofUInt32_iff]
    · simp [DeviceLayout.device, hflag, Declared]
  constructor
  · intro h
    exact ⟨h.generation, (declared_ofUInt32_iff _).mp h.volatility, hstate.mp h.state,
      (declared_ofUInt32_iff _).mp h.provenance, (declared_ofUInt32_iff _).mp h.locality,
      (declared_ofUInt32_iff _).mp h.acceleratorAccess⟩
  · intro h
    exact ⟨h.generation, (declared_ofUInt32_iff _).mpr h.volatility, hstate.mpr h.state,
      (declared_ofUInt32_iff _).mpr h.provenance, (declared_ofUInt32_iff _).mpr h.locality,
      (declared_ofUInt32_iff _).mpr h.accel⟩

theorem poolValid_iff (x : PoolLayout) : PoolValid x.pool ↔ x.Sound := by
  have hmember (m : MemberLayout) : (m.member.deviceGeneration.value ≠ 0 ∧
      Declared m.member.locality) ↔ m.Sound :=
    ⟨fun h => ⟨h.1, (declared_ofUInt32_iff _).mp h.2⟩,
      fun h => ⟨h.deviceGeneration, (declared_ofUInt32_iff _).mpr h.locality⟩⟩
  have hmembers : (∀ m ∈ x.pool.2.2, m.deviceGeneration.value ≠ 0 ∧ Declared m.locality) ↔
      ∀ m ∈ x.members, m.Sound := by
    simp only [PoolLayout.pool, List.forall_mem_map, hmember]
  exact ⟨fun h => ⟨h.generation, hmembers.mp h.members⟩,
    fun h => ⟨h.generation, hmembers.mpr h.members⟩⟩

theorem regionValid_iff (x : RegionLayout) : RegionValid x.region ↔ x.Sound := by
  constructor
  · intro h
    exact ⟨h.generation, (declared_ofUInt32_iff _).mp h.locality,
      (declared_ofUInt32_iff _).mp h.tier, (declared_ofUInt32_iff _).mp h.state⟩
  · intro h
    exact ⟨h.generation, (declared_ofUInt32_iff _).mpr h.locality,
      (declared_ofUInt32_iff _).mpr h.tier, (declared_ofUInt32_iff _).mpr h.state⟩

/-- A decoder delivers valid values only, exactly if no layout behind the payload is unsound. -/
theorem forall_layout_iff {X α : Type} {P S : X → Prop} {bytes : X → List UInt8} {value : X → α}
    {V : α → Prop} (hV : ∀ x, V (value x) ↔ S x) (payload : List UInt8) :
    (∀ v, Layout P bytes value payload v → V v) ↔ ∀ x, P x → payload = bytes x → S x := by
  constructor
  · intro h x hx heq
    exact (hV x).mp (h _ ⟨x, hx, heq, rfl⟩)
  · rintro h v ⟨x, hx, heq, rfl⟩
    exact (hV x).mpr (h x hx heq)

end valid

/-- Decoding is strict exactly on the payloads that are not laid out with a zero generation
or an undeclared word of an enumeration. -/
theorem decoders_strict_iff (beyond : ℕ → UInt8) (payload : List UInt8) :
    ((∀ d, decodeDevice beyond payload = .ok d → DeviceValid d) ↔
      ∀ x : DeviceLayout, x.Fits → payload = x.written → x.Sound) ∧
    ((∀ p, decodePool beyond payload = .ok p → PoolValid p) ↔
      ∀ x : PoolLayout, x.Fits → payload = x.written → x.Sound) ∧
    ((∀ r, decodeRegion beyond payload = .ok r → RegionValid r) ↔
      ∀ x : RegionLayout, x.Fits → payload = x.written → x.Sound) := by
  simp only [DeviceLayout.decodeDevice_eq_ok_iff, PoolLayout.decodePool_eq_ok_iff,
    RegionLayout.decodeRegion_eq_ok_iff]
  exact ⟨forall_layout_iff deviceValid_iff payload, forall_layout_iff poolValid_iff payload,
    forall_layout_iff regionValid_iff payload⟩

/-- The encoding of a pool of generation zero is taken. -/
theorem decodes_zero_generation : ¬∀ (beyond : ℕ → UInt8) (payload : List UInt8),
    (∀ d, decodeDevice beyond payload = .ok d → DeviceValid d) ∧
    (∀ p, decodePool beyond payload = .ok p → PoolValid p) ∧
    ∀ r, decodeRegion beyond payload = .ok r → RegionValid r := by
  intro h
  have hread : ReadsAs decodePool (encodePool ⟨str "p1"⟩ ⟨0⟩ []) (⟨str "p1"⟩, ⟨0⟩, []) :=
    readsAs_pool (by decide) (by decide) (by decide)
  exact ((h (fun _ => 0) _).2.1 _ (hread _).1).generation rfl

end Codec
end CxlFabric
