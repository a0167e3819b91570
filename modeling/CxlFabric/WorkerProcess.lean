import CxlFabric.QueryReplies
import CxlFabric.WorkerReplies

/-! # The worker process

The command line fixes the frames that a worker sends. After every frame but the first it
waits for one reply, and goes on whatever the reply says, except where it could not
register its device and where the reply to its reservation does not come. -/
namespace CxlFabric

/-- What the receiver of a frame gets. A payload beyond the bound leaves a header without a
checksum, which no receiver takes for a frame. -/
def Frame.wire (f : Frame) : Option Frame :=
  if f.payload.length ≤ maxPayloadBytes then some f else none

theorem Frame.wire_eq_some {f g : Frame} :
    f.wire = some g ↔ f = g ∧ f.payload.length ≤ maxPayloadBytes := by
  unfold Frame.wire
  split
  · next hle => simp [hle]
  · next hlong => simp [hlong]

namespace Worker

/-- What the command line says. -/
structure Options where
  boot : Str := str "worker-boot"
  doPublish : Bool := false
  reserveBytes : UInt64 := 0
  consumer : Str := str "c0"
  stay : Bool := false
  doQuery : Bool := false
  commitRid : Str := []
  releaseRid : Str := []
  reserveCommit : Bool := false

/-- The frames of a worker, by what they are for. -/
inductive Task
  | boot | device | pool | region | reserve | commit | release | query
  deriving DecidableEq

/-- What a worker prints; the reason and the flag are the bytes of the reply. -/
inductive Line
  | reserved (id : Str) (reason : UInt32) (ok : UInt8)
  | commitResult (id : Str) (reason : UInt32) (ok : UInt8)
  | releaseResult (id : Str) (reason : UInt32) (ok : UInt8)
  | state (text : Str)
  deriving DecidableEq

namespace Options
variable (o : Options)

def reserves : Bool := o.reserveBytes > 0 || o.reserveCommit

def publishes : Bool := o.doPublish || o.reserves

/-- What the worker does, in this order. -/
def tasks : List Task :=
  .boot :: ((if o.publishes then [.device, .pool, .region] else []) ++
    (if o.reserves then [.reserve] else []) ++ (if o.commitRid = [] then [] else [.commit]) ++
    (if o.releaseRid = [] then [] else [.release]) ++ if o.doQuery then [.query] else [])

def frame : Task → Frame
  | .boot => bootFrame o.boot
  | .device => deviceFrame o.boot
  | .pool => poolFrame o.boot
  | .region => regionFrame o.boot
  | .reserve => reserveFrame o.reserveBytes o.consumer
  | .commit => commitFrame ⟨o.commitRid⟩
  | .release => releaseFrame ⟨o.releaseRid⟩
  | .query => { type := .queryState }

end Options

/-- What is printed for a reply. -/
def line (beyond : ℕ → UInt8) : Task → Frame → Option Line
  | .reserve, f => if f.type = .reserveResult then
      (readResult beyond f.payload).map fun r => .reserved r.1 r.2.1 r.2.2
    else none
  | .commit, f => if f.type = .commitResult then
      (readResult beyond f.payload).map fun r => .commitResult r.1 r.2.1 r.2.2
    else none
  | .release, f => if f.type = .commitResult then
      (readResult beyond f.payload).map fun r => .releaseResult r.1 r.2.1 r.2.2
    else none
  | .query, f => if f.type = .queryStateResult then some (.state f.payload) else none
  | _, _ => none

/-- The worker gives up where its device is not acknowledged and where the answer to its
reservation does not arrive. -/
def Task.givesUp : Task → Option Frame → Bool
  | .device, result => !result.any (·.type = .ack)
  | .reserve, result => result.isNone
  | _, _ => false

/-- The frames that a worker does not go on without having sent. -/
def Task.mustSend (t : Task) : Bool := t = .boot ∨ t = .device

/-- `heard` lists what the receives have returned, by the task they were for. -/
structure Client where
  options : Options
  todo : List Task
  waiting : Option Task := none
  heard : List (Task × Option Frame) := []
  printed : List Line := []
  exited : Bool := false

/-- The process as it has connected. -/
def Options.process (o : Options) : Client where
  options := o
  todo := o.tasks

namespace Client
variable (p : Client)

/-- The task whose frame is sent next. -/
def next : Option Task := if p.exited ∨ p.waiting.isSome then none else p.todo.head?

/-- The task whose reply the process waits for. -/
def awaits : Option Task := if p.exited then none else p.waiting

/-- The frame of a task has gone out. -/
def send (t : Task) : Client :=
  { p with todo := p.todo.tail, waiting := if t = .boot then none else some t }

/-- It has not, since the coordinator has closed the connection. -/
def sendFailed (t : Task) : Client := { p.send t with exited := t.mustSend }

/-- A receive returns. -/
def hear (t : Task) (beyond : ℕ → UInt8) (result : Option Frame) : Client :=
  { p with
    waiting := none
    heard := p.heard ++ [(t, result)]
    printed := p.printed ++ (result.bind (line beyond t)).toList
    exited := t.givesUp result }

/-- The process ends. -/
def quit : Client := { p with exited := true }

/-- There is nothing left to do. -/
def done : Bool := p.todo = [] ∧ p.waiting = none

end Client

theorem task_type_injective (o : Options) : Function.Injective fun t => (o.frame t).type := by
  intro t t' h
  cases t <;> cases t' <;> first | rfl | cases h

theorem tasks_nodup (o : Options) : o.tasks.Nodup := by
  unfold Options.tasks
  split <;> split <;> split <;> split <;> split <;> decide

theorem frame_not_shutdown (o : Options) (t : Task) : (o.frame t).type ≠ .shutdown := by
  cases t <;> intro h <;> cases h

/-- What a worker reads is what was written. -/
theorem readResult_eq_some {beyond : ℕ → UInt8} {type : FrameType} {o : ReserveOutcome}
    {r : Str × UInt32 × UInt8} (hlength : (Coordinator.reserveFrame type o).payload.length ≤
      maxPayloadBytes)
    (h : readResult beyond (Coordinator.reserveFrame type o).payload = some r) :
    r = (o.reservation.id.value, o.reason.toUInt32, if o.ok then 1 else 0) := by
  have hid : o.reservation.id.value.length ≤ maxString := by
    have hle : o.reservation.id.value.length ≤
        (Coordinator.reserveFrame type o).payload.length := by
      simp only [Coordinator.reserveFrame, putStr, List.length_append]
      omega
    exact hle.trans hlength
  rw [readResult_reserveFrame hid] at h
  exact (Option.some.inj h).symm

end Worker

end CxlFabric
