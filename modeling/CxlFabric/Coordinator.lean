import CxlFabric.Codec
import CxlFabric.FabricSteps
import CxlFabric.Persistence

/-! # The coordinator process

One thread serves each connection. An action is what one thread does between two points at
which another one can come in: a call of the engine, an access to the worker table under
its mutex, a received frame, a reply. The state file is a copy of the state text and is
left out. -/
namespace CxlFabric

open Persistence

/-- The number of an accepted connection. -/
abbrev ConnId := ℕ

/-- Where the thread of a connection stands. -/
inductive Phase
  | greeting
  | booting
  | looping
  | receiving
  | dispatching (f : Frame)
  | registered (id : DeviceId) (reason : DecisionReason)
  | duplicatePool (id : PoolId)
  | duplicateRegion (id : RegionId)
  | reserved (o : ReserveOutcome)
  | replying (type : FrameType) (resp : Frame)
  | exporting
  | writing (payload : List UInt8)
  | dying
  | fencing (devices : List DeviceId)
  | leaving
  | closed
  deriving DecidableEq

structure WorkerState where
  boot : WorkerBootId := {}
  devices : List DeviceId := []
  reservations : List ReservationId := []
  dead : Bool := false
  phase : Phase := .greeting
  deriving DecidableEq

structure Coordinator where
  fabric : Fabric
  /-- `workers_`: the connection whose state a boot id leads to. -/
  workers : Map Str ConnId := ∅
  connections : Map ConnId WorkerState := ∅
  /-- The connection that holds `workers_mu_` while it fences a dead worker. -/
  fencer : Option ConnId := none
  running : Bool := true
  persist : Bool := false
  /-- The payload of the last file that was written. -/
  saved : Option (List UInt8) := none

inductive Act
  | accept (c : ConnId)
  /-- `recv_frame` returns a frame, or anything but `OK`. -/
  | receive (c : ConnId) (result : Option Frame)
  /-- The thread goes on; `beyond` is what lies in memory behind the payload it decodes. -/
  | advance (c : ConnId) (beyond : ℕ → UInt8)
  | signal

inductive Report
  | silent
  | performed (op : Op) (out : Outcome)
  | sent (resp : Frame)
  deriving DecidableEq

namespace Coordinator

/-- The text a query is answered with. -/
def stateText (snap : StateSnapshot) : Str :=
  str "epoch=" ++ str (decimal snap.coordinatorEpoch.value) ++ str "\n" ++
  str "devices=" ++ str (decimal (.ofNat snap.devices.size)) ++ str "\n" ++
  str "reservations=" ++ str (decimal (.ofNat snap.reservations.size)) ++ str "\n" ++
  (snap.devices.toList.flatMap fun e =>
    str "device " ++ e.1.value ++ str " state=" ++ str e.2.state.toText ++
    str " evidence_current=" ++ str (if e.2.evidenceCurrent then "1" else "0") ++ str "\n") ++
  (snap.reservations.toList.flatMap fun e =>
    str "reservation " ++ e.1.value ++ str " state=" ++ str e.2.state.toText ++ str "\n")

def ackFrame (r : DecisionReason) : Frame := { type := .ack, payload := putU32 r.toUInt32 }

def errorFrame (msg : String) : Frame := { type := .errorReport, payload := str msg }

/-- The answer to a reserve, and under another type the answer to a commit or a release. -/
def reserveFrame (type : FrameType) (o : ReserveOutcome) : Frame where
  type := type
  payload := putStr o.reservation.id.value ++ putU32 o.reason.toUInt32 ++ [if o.ok then 1 else 0]

/-- The frames after which the state is persisted, whether they were accepted or not. -/
def persisted (type : FrameType) : Bool :=
  type ∈ [FrameType.publishDevice, .reserve, .commit, .release, .revalidate]

/-- The end of `dispatch`. -/
def finish (type : FrameType) : Phase := if persisted type then .exporting else .looping

variable (s : Coordinator)

/-- The context of a request; nothing in the coordinator moves the epoch. -/
def context (w : WorkerState) : AuthorityContext where
  coordinatorEpoch := s.fabric.state.coordinatorEpoch
  policyGeneration := s.fabric.state.policyGeneration
  workerBootId := w.boot
  consumerGeneration := ⟨1⟩

def deathContext : AuthorityContext where
  coordinatorEpoch := s.fabric.state.coordinatorEpoch
  policyGeneration := s.fabric.state.policyGeneration

def setWorker (c : ConnId) (w : WorkerState) : Coordinator :=
  { s with connections := s.connections.insert c w }

/-- The engine returns and the thread goes on at `p`. -/
def perform (c : ConnId) (w : WorkerState) (p : Phase) (f : Fabric) (op : Op) (out : Outcome) :
    Option (Coordinator × Report) :=
  some ({ s with fabric := f }.setWorker c { w with phase := p }, .performed op out)

def goto (c : ConnId) (w : WorkerState) (p : Phase) : Option (Coordinator × Report) :=
  some (s.setWorker c { w with phase := p }, .silent)

def publishedPool (id : PoolId) (generation : PoolGeneration) (members : List PoolMember) :
    CxlPool where
  id := id
  generation := generation
  members := members
  admissionPolicy := str "default"
  state := .available
  healthSummary := .named .healthy
  provenance := .named .synthetic
  evidenceCurrent := true
  evidenceGeneration := ⟨1⟩

/-- The part of `dispatch` up to the first return of the engine. -/
def dispatch (c : ConnId) (w : WorkerState) (f : Frame) (beyond : ℕ → UInt8) :
    Option (Coordinator × Report) :=
  let ctx := s.context w
  match f.type with
  | .publishDevice => match Codec.decodeDevice beyond f.payload with
    | .error msg => s.goto c w (.replying f.type (errorFrame msg))
    | .ok d =>
      let r := s.fabric.registerDevice d ctx
      s.perform c w (.registered d.id r.2) r.1 (.registerDevice d ctx) (.decision r.2)
  | .reserve => match Codec.decodeReserve beyond f.payload with
    | .error msg => s.goto c w (.replying f.type (errorFrame msg))
    | .ok (bytes, consumer) =>
      let req : AdmissionRequest := { bytes, consumer := ⟨consumer⟩ }
      match s.fabric.reserve req ctx with
      | none => none
      | some (fabric, o) => s.perform c w (.reserved o) fabric (.reserve req ctx) (.reservation o)
  | .commit =>
    let r := s.fabric.commit ⟨f.payload⟩ ctx
    s.perform c w (.replying f.type (reserveFrame .commitResult r.2)) r.1 (.commit ⟨f.payload⟩ ctx)
      (.reservation r.2)
  | .release =>
    let r := s.fabric.release ⟨f.payload⟩ ctx
    s.perform c w (.replying f.type (reserveFrame .commitResult r.2)) r.1
      (.release ⟨f.payload⟩ ctx) (.reservation r.2)
  | .queryState =>
    let resp : Frame := { type := .queryStateResult, payload := stateText s.fabric.state }
    s.goto c w (.replying f.type resp)
  | .publishPool => match Codec.decodePool beyond f.payload with
    | .error msg => s.goto c w (.replying f.type (errorFrame msg))
    | .ok (id, generation, members) =>
      let pool := publishedPool id generation members
      let r := s.fabric.createPool pool ctx
      let next := if r.2 = .duplicateIdentity then .duplicatePool id
        else .replying f.type (ackFrame r.2)
      s.perform c w next r.1 (.createPool pool ctx) (.decision r.2)
  | .publishRegion => match Codec.decodeRegion beyond f.payload with
    | .error msg => s.goto c w (.replying f.type (errorFrame msg))
    | .ok region =>
      let r := s.fabric.createRegion region ctx
      let next := if r.2 = .duplicateIdentity then .duplicateRegion region.id
        else .replying f.type (ackFrame r.2)
      s.perform c w next r.1 (.createRegion region ctx) (.decision r.2)
  | .shutdown => { s with running := false }.goto c w (finish f.type)
  | _ => s.goto c w (.replying f.type (errorFrame "unsupported frame type"))

/-- The beginning of `appl_worker_death`: the state that the boot id leads to is marked
dead, whichever connection it belongs to, and its devices are to be fenced. -/
def findDead (c : ConnId) (w : WorkerState) : Option (Coordinator × Report) :=
  match s.workers[w.boot.value]? with
  | none => s.goto c w .leaving
  | some k => match s.connections[k]? with
    | none => s.goto c w .leaving
    | some target =>
      if target.dead then s.goto c w .leaving
      else
        let w := if k = c then { w with dead := true } else w
        { s with fencer := some c }.setWorker k { target with dead := true }
          |>.goto c w (.fencing target.devices)

/-- The next step of the thread of a connection. Steps that need `workers_mu_` wait while
it is held. -/
def advance (c : ConnId) (beyond : ℕ → UInt8) : Option (Coordinator × Report) :=
  match s.connections[c]? with
  | none => none
  | some w => match w.phase with
    | .greeting | .receiving | .closed => none
    | .booting =>
      if s.fencer.isSome then none
      else { s with workers := s.workers.insert w.boot.value c }.goto c w .looping
    | .looping => s.goto c w (if s.running then .receiving else .leaving)
    | .dispatching f => s.dispatch c w f beyond
    | .registered id reason =>
      let devices := if reason = .ok then w.devices ++ [id] else w.devices
      some (s.setWorker c { w with devices, phase := finish .publishDevice },
        .sent (ackFrame reason))
    | .duplicatePool id =>
      let r := s.fabric.revalidatePool id (s.context w)
      s.perform c w (.replying .publishPool (ackFrame r.2)) r.1 (.revalidatePool id (s.context w))
        (.decision r.2)
    | .duplicateRegion id =>
      let r := s.fabric.revalidateRegion id (s.context w)
      s.perform c w (.replying .publishRegion (ackFrame r.2)) r.1
        (.revalidateRegion id (s.context w)) (.decision r.2)
    | .reserved o =>
      let reservations := if o.ok then w.reservations ++ [o.reservation.id] else w.reservations
      some (s.setWorker c { w with reservations, phase := finish .reserve },
        .sent (reserveFrame .reserveResult o))
    | .replying type resp => some (s.setWorker c { w with phase := finish type }, .sent resp)
    | .exporting =>
      if !s.persist then s.goto c w .looping
      else match serializeState s.fabric.exportPersisted with
        | .error _ => s.goto c w .looping
        | .ok payload => s.goto c w (.writing payload)
    | .writing payload =>
      if payload.length > maxPersistPayload then s.goto c w .looping
      else { s with saved := some payload }.goto c w .looping
    | .dying => if s.fencer.isSome then none else s.findDead c w
    | .fencing [] => { s with fencer := none }.goto c w .leaving
    | .fencing (d :: ds) =>
      let r := s.fabric.markDeviceRevalidation d s.deathContext
      s.perform c w (.fencing ds) r.1 (.markDeviceRevalidation d s.deathContext) (.decision r.2)
    | .leaving =>
      if s.fencer.isSome then none
      else { s with workers := s.workers.erase w.boot.value }.goto c w .closed

/-- A frame arrives, or the connection ends. -/
def receive (c : ConnId) (result : Option Frame) : Option (Coordinator × Report) :=
  match s.connections[c]? with
  | none => none
  | some w => match w.phase, result with
    | .greeting, some f =>
      if f.type = .workerBoot then s.goto c { w with boot := ⟨f.payload⟩ } .booting
      else s.goto c w .closed
    | .greeting, none => s.goto c w .closed
    | .receiving, some f => s.goto c w (.dispatching f)
    | .receiving, none => s.goto c w .dying
    | _, _ => none

def exec : Act → Option (Coordinator × Report)
  | .accept c => match s.connections[c]? with
    | none => some (s.setWorker c {}, .silent)
    | some _ => none
  | .receive c result => s.receive c result
  | .advance c beyond => s.advance c beyond
  | .signal => some ({ s with running := false }, .silent)

end Coordinator

/-- The coordinator as it starts, with the durable state it has recovered, if any. -/
def Coordinator.start (epoch : CoordinatorEpoch) (recovered : Option PersistedState)
    (persist : Bool) : Coordinator where
  fabric := match recovered with
    | none => .new epoch ⟨1⟩
    | some st => (Fabric.new epoch ⟨1⟩).importPersisted st
  persist := persist

end CxlFabric
