import CxlFabric.Protocol
import CxlFabric.Records

/-! # Frames and the payloads of the control plane

What a worker sends to the coordinator. A payload that does not decode is answered with
the name of the decoder that refused it. -/
namespace CxlFabric

inductive FrameType
  | hello | workerBoot | workerDead | publishDevice | publishCapability | publishRegion
  | publishPool | publishHealth | publishLocality | reserve | reserveResult | commit
  | commitResult | release | releaseResult | revalidate | revalidateResult | epoch
  | errorReport | shutdown | ack | queryState | queryStateResult
  deriving DecidableEq

structure Frame where
  type : FrameType := .hello
  payload : List UInt8 := []
  deriving DecidableEq

namespace Codec

def encodeDevice (d : CxlDevice) : List UInt8 :=
  putU64 d.generation.value ++ putU64 d.totalPhysicalBytes ++ putU64 d.onlineBytes ++
  putStr d.id.value ++ putStr d.host.value ++ putU32 d.volatility.toUInt32 ++
  putU32 d.state.toUInt32 ++ putU32 d.provenance.toUInt32 ++ putU32 d.economics.locality.toUInt32 ++
  putU32 d.acceleratorAccess.toUInt32 ++ putBool d.evidenceCurrent ++
  putBool (d.state = .named .online)

def encodeReserve (bytes : UInt64) (consumer : Str) : List UInt8 := putU64 bytes ++ putStr consumer

def putPoolMember (m : PoolMember) : List UInt8 :=
  putStr m.device.value ++ putU64 m.deviceGeneration.value ++ putU64 m.nominalBytes ++
  putBool m.online ++ putBool m.healthOk ++ putStr m.failureDomain ++ putU32 m.locality.toUInt32

def encodePool (id : PoolId) (generation : PoolGeneration) (members : List PoolMember) :
    List UInt8 := putStr id.value ++ putU64 generation.value ++ putList putPoolMember members

def encodeRegion (id : RegionId) (generation : RegionGeneration) (pool : PoolId)
    (members : List DeviceId) (bytes : UInt64) (locality : LocalityClass) (tier : TierClass)
    (state : RegionState) : List UInt8 :=
  putStr id.value ++ putU64 generation.value ++ putStr pool.value ++
  putList (fun m => putStr m.value) members ++ putU64 bytes ++ putU32 locality.toUInt32 ++
  putU32 tier.toUInt32 ++ putU32 state.toUInt32

/-- Decode a whole payload; bytes that are left over are refused like a short payload. -/
def decodeRun {α : Type} (d : Decoder α) (err : String) (beyond : ℕ → UInt8)
    (payload : List UInt8) : Except String α × List Field :=
  match d.run { mem := payloadMemory payload beyond, len := payload.length } 0 with
  | (.error e, asked) => (.error e, asked)
  | (.ok (a, pos), asked) => (if pos ≠ payload.length then .error err else .ok a, asked)

def decodeAll {α : Type} (d : Decoder α) (err : String) (beyond : ℕ → UInt8)
    (payload : List UInt8) : Except String α := (decodeRun d err beyond payload).1

def getDevice : Decoder CxlDevice := do
  let err := "decode_device"
  let generation ← read getU64 err
  let bytes ← read getU64 err
  let online ← read getU64 err
  let id ← read getStr err
  let host ← read getStr err
  let volatility ← read getU32 err
  let state ← read getU32 err
  let provenance ← read getU32 err
  let locality ← read getU32 err
  let accel ← read getU32 err
  let evidenceCurrent ← readBool err
  let isOnline ← readBool err
  pure
    { id := ⟨id⟩, host := ⟨host⟩, generation := ⟨generation⟩, totalPhysicalBytes := bytes
      onlineBytes := online, volatility := .ofUInt32 volatility
      -- The flag at the end overrides the state.
      state := if isOnline then .named .online else .ofUInt32 state
      provenance := .ofUInt32 provenance
      economics := { locality := .ofUInt32 locality }
      acceleratorAccess := .ofUInt32 accel, evidenceCurrent
      bootId := ⟨id ++ str "-boot"⟩, cxlDeviceClass := str "Type-3", deviceType := str "memory"
      vendorDeviceId := str "VEND:0001 DEVI:0001", rawIdentity := str "control:" ++ id
      health := .named .healthy, lifecycleNote := str "multiprocess" }

def decodeDevice (beyond : ℕ → UInt8) (payload : List UInt8) : Except String CxlDevice :=
  decodeAll getDevice "decode_device" beyond payload

def getReserve : Decoder (UInt64 × Str) := do
  let bytes ← read getU64 "decode_reserve"
  let consumer ← read getStr "decode_reserve"
  pure (bytes, consumer)

def decodeReserve (beyond : ℕ → UInt8) (payload : List UInt8) : Except String (UInt64 × Str) :=
  decodeAll getReserve "decode_reserve" beyond payload

/-- The bound on the members of a published pool or region. -/
def maxMembers : ℕ := 100000

def getPoolMember : Decoder PoolMember := do
  let err := "decode_pool"
  let device ← read getStr err
  let deviceGeneration ← read getU64 err
  let nominalBytes ← read getU64 err
  let online ← readBool err
  let healthOk ← readBool err
  let failureDomain ← read getStr err
  let locality ← read getU32 err
  pure
    { device := ⟨device⟩, deviceGeneration := ⟨deviceGeneration⟩, nominalBytes, online, healthOk
      failureDomain, locality := .ofUInt32 locality }

def getPool : Decoder (PoolId × PoolGeneration × List PoolMember) := do
  let id ← read getStr "decode_pool"
  let generation ← read getU64 "decode_pool"
  let members ← readList maxMembers getPoolMember "decode_pool"
  pure (⟨id⟩, ⟨generation⟩, members)

def decodePool (beyond : ℕ → UInt8) (payload : List UInt8) :
    Except String (PoolId × PoolGeneration × List PoolMember) :=
  decodeAll getPool "decode_pool" beyond payload

def getRegion : Decoder CxlRegion := do
  let err := "decode_region"
  let id ← read getStr err
  let generation ← read getU64 err
  let pool ← read getStr err
  let members ← readList maxMembers (read getStr err) err
  let bytes ← read getU64 err
  let locality ← read getU32 err
  let tier ← read getU32 err
  let state ← read getU32 err
  pure
    { id := ⟨id⟩, generation := ⟨generation⟩, pool := ⟨pool⟩, memberDevices := members.map Id.mk
      regionCapacityBytes := bytes, locality := .ofUInt32 locality, tier := .ofUInt32 tier
      state := .ofUInt32 state, interleaved := members.length > 1, health := .named .healthy
      provenance := .named .synthetic, evidenceCurrent := true, evidenceGeneration := ⟨1⟩ }

def decodeRegion (beyond : ℕ → UInt8) (payload : List UInt8) : Except String CxlRegion :=
  decodeAll getRegion "decode_region" beyond payload

end Codec

end CxlFabric
