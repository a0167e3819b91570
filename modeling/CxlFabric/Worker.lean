import CxlFabric.Coordinator
import CxlFabric.Synthetic

/-! # The frames of a worker

What `cxl_fabric_worker` sends, and the actions of the coordinator that serve it when no
other connection comes in between. -/
namespace CxlFabric
namespace Worker

def bootFrame (boot : Str) : Frame := { type := .workerBoot, payload := boot }

/-- The device every worker publishes. -/
def base (boot : Str) : CxlDevice :=
  Synthetic.makeDevice ⟨str "dev-1"⟩ ⟨1⟩ ⟨boot ++ str "-boot-1"⟩ ⟨str "host-control"⟩
    Synthetic.sampleBytes (.named .volatile) (.named .dedicated) (.named .sameHost) 180 32000 1
    (str "fd-root-a")

def deviceFrame (boot : Str) : Frame :=
  { type := .publishDevice, payload := Codec.encodeDevice (base boot) }

def poolFrame (boot : Str) : Frame :=
  let d := base boot
  { type := .publishPool
    payload := Codec.encodePool ⟨str "p-1"⟩ ⟨1⟩
      [{ device := d.id, deviceGeneration := d.generation, nominalBytes := d.totalPhysicalBytes
         online := true, healthOk := true, failureDomain := str "fd-control"
         locality := d.economics.locality }] }

def regionFrame (boot : Str) : Frame :=
  let d := base boot
  { type := .publishRegion
    payload := Codec.encodeRegion ⟨str "r-1"⟩ ⟨1⟩ ⟨str "p-1"⟩ [d.id] d.totalPhysicalBytes
      d.economics.locality (.named .cxlNear) (.named .online) }

def reserveFrame (bytes : UInt64) (consumer : Str) : Frame :=
  { type := .reserve, payload := Codec.encodeReserve bytes consumer }

def commitFrame (id : ReservationId) : Frame := { type := .commit, payload := id.value }

def releaseFrame (id : ReservationId) : Frame := { type := .release, payload := id.value }

/-- Steps of one thread, with zeroes behind every payload. -/
def steps (c : ConnId) (n : ℕ) : List Act := List.replicate n (.advance c fun _ => 0)

/-- A connection is accepted and boots, up to its next receive. -/
def connect (c : ConnId) (boot : Str) : List Act :=
  [.accept c, .receive c (some (bootFrame boot))] ++ steps c 2

/-- A frame is served, up to the next receive. -/
def serve (c : ConnId) (f : Frame) : List Act :=
  .receive c (some f) :: steps c (if Coordinator.persisted f.type then 4 else 3)

/-- A worker connects and publishes its device, its pool and its region. -/
def publish (c : ConnId) (boot : Str) : List Act :=
  connect c boot ++ serve c (deviceFrame boot) ++ serve c (poolFrame boot) ++
    serve c (regionFrame boot)

end Worker

end CxlFabric
