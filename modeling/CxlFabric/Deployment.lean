import CxlFabric.RequestReply
import CxlFabric.WorkerProcess

/-! # Workers and the coordinator

The whole of a deployment: the coordinator, worker processes, and on each connection the
frames that are under way. Any process can take the next step; other clients send what they
like, and a worker can be killed anywhere. -/
namespace CxlFabric

/-- A connection of a worker: the frames under way to the coordinator and to the worker. A
missing frame stands for what a receiver rejects, and for the end of the stream. -/
structure Link where
  up : List (Option Frame) := []
  down : List (Option Frame) := []
  process : Worker.Client

structure Deployment where
  coordinator : Coordinator
  /-- The connections that wait to be accepted. -/
  backlog : List ConnId := []
  links : Map ConnId Link := ∅

inductive Deployment.Move
  /-- A worker connects, or another client. -/
  | connect (c : ConnId) (o : Option Worker.Options)
  /-- An action of the coordinator. -/
  | serve (a : Act)
  /-- A worker sends its next frame; the send can fail once the coordinator has hung up. -/
  | send (c : ConnId) (sent : Bool)
  | recv (c : ConnId) (beyond : ℕ → UInt8)
  /-- A worker receives nothing any more. -/
  | recvEnd (c : ConnId)
  | exit (c : ConnId)
  | kill (c : ConnId)
  /-- What a worker that is gone has sent is dropped. -/
  | reset (c : ConnId)

namespace Link
variable (l : Link)

/-- The process goes on; when it ends its socket is closed. -/
def goOn (p : Worker.Client) (sent : List (Option Frame)) : Link :=
  { l with process := p, up := l.up ++ sent ++ if p.exited then [none] else [] }

theorem goOn_up (l : Link) (p : Worker.Client) :
    (l.goOn p []).up = l.up ++ if p.exited then [none] else [] := by simp [goOn]

/-- The part of an action of the coordinator on the link. -/
def pass : Act → Report → Option Link
  | .receive _ result, _ => if l.up.head? = some result then some { l with up := l.up.tail }
    else none
  | .advance _ _, .sent resp => some { l with down := l.down ++ [resp.wire] }
  | _, _ => some l

end Link

/-- The thread has closed its socket. -/
def Phase.hungUp : Phase → Bool
  | .leaving | .closed => true
  | _ => false

namespace Deployment
variable (d : Deployment)

def hungUp (c : ConnId) : Bool := (d.coordinator.phaseOf c).any Phase.hungUp

def setLink (c : ConnId) (l : Link) : Deployment := { d with links := d.links.insert c l }

def connect (c : ConnId) (o : Option Worker.Options) : Option Deployment :=
  if d.links[c]? = none ∧ d.coordinator.connections[c]? = none ∧ c ∉ d.backlog then
    let d' := { d with backlog := d.backlog ++ [c] }
    some (match o with
      | none => d'
      | some o => d'.setLink c { process := o.process })
  else none

/-- The link of the connection that an action is about, after the action. -/
def passLink (a : Act) (r : Report) : Option (Map ConnId Link) :=
  match a.conn with
  | none => some d.links
  | some c => match d.links[c]? with
    | none => some d.links
    | some l => (l.pass a r).map (d.links.insert c ·)

/-- The listen queue after an action. -/
def accepts (a : Act) : Option (List ConnId) :=
  match a with
  | .accept c => if d.backlog.head? = some c then some d.backlog.tail else none
  | _ => some d.backlog

def serve (a : Act) : Option (Deployment × Option (Act × Report)) :=
  (d.coordinator.exec a).bind fun q => (d.passLink a q.2).bind fun links =>
    (d.accepts a).map fun backlog =>
      ({ coordinator := q.1, backlog := backlog, links := links }, some (a, q.2))

/-- A worker takes a step of its own. -/
def step (c : ConnId) (f : Link → Option Link) : Option (Deployment × Option (Act × Report)) :=
  d.links[c]?.bind fun l => (f l).map fun l' => (d.setLink c l', none)

/-- The worker of a link sends. -/
def sends (hung sent : Bool) (l : Link) : Option Link :=
  l.process.next.bind fun t =>
    if sent then some (l.goOn (l.process.send t) [(l.process.options.frame t).wire])
    else if hung then some (l.goOn (l.process.sendFailed t) []) else none

def hears (beyond : ℕ → UInt8) (l : Link) : Option Link :=
  l.process.awaits.bind fun t => l.down.head?.map fun result =>
    { l with down := l.down.tail }.goOn (l.process.hear t beyond result) []

/-- What has not been read when the connection ends may be lost. -/
def hearsEnd (hung : Bool) (l : Link) : Option Link :=
  l.process.awaits.bind fun t =>
    if hung then some ({ l with down := [] }.goOn (l.process.hear t (fun _ => 0) none) []) else none

def ends (may : Bool) (l : Link) : Option Link :=
  if may ∧ !l.process.exited then some (l.goOn l.process.quit []) else none

def exec : Move → Option (Deployment × Option (Act × Report))
  | .connect c o => (d.connect c o).map fun d' => (d', none)
  | .serve a => d.serve a
  | .send c sent => d.step c (sends (d.hungUp c) sent)
  | .recv c beyond => d.step c (hears beyond)
  | .recvEnd c => d.step c (hearsEnd (d.hungUp c))
  | .exit c => d.step c fun l => ends (l.process.done ∧ !l.process.options.stay) l
  | .kill c => d.step c (ends true)
  | .reset c => d.step c fun l => if l.process.exited then some { l with up := [none] } else none

/-- The coordinator has started and nobody has connected. -/
def start (epoch : CoordinatorEpoch) (recovered : Option PersistedState) (persist : Bool) :
    Deployment where
  coordinator := .start epoch recovered persist

/-- The actions of the coordinator in a run. -/
def acts (tr : List (Move × Option (Act × Report))) : List (Act × Report) := tr.filterMap (·.2)

variable {d} {d' : Deployment} {tr : List (Move × Option (Act × Report))}

/-- What an action of the coordinator changes in the deployment. -/
structure Served (d : Deployment) (a : Act) (r : Report) (d' : Deployment) : Prop where
  exec : d.coordinator.exec a = some (d'.coordinator, r)
  links : d.passLink a r = some d'.links
  backlog : d.accepts a = some d'.backlog

theorem serve_eq_some {a : Act} {q : Option (Act × Report)} (h : d.serve a = some (d', q)) :
    ∃ r, q = some (a, r) ∧ d.Served a r d' := by
  obtain ⟨⟨s, r⟩, hexec, h⟩ := Option.bind_eq_some_iff.mp h
  obtain ⟨links, hlinks, h⟩ := Option.bind_eq_some_iff.mp h
  obtain ⟨backlog, hbacklog, h⟩ := Option.map_eq_some_iff.mp h
  cases h
  exact ⟨r, rfl, hexec, hlinks, hbacklog⟩

/-- A step of a worker is about its link only. -/
structure Stepped (d : Deployment) (c : ConnId) (f : Link → Option Link) (d' : Deployment) :
    Prop where
  change : ∃ l l', d.links[c]? = some l ∧ f l = some l' ∧ d' = d.setLink c l'

theorem step_eq_some {c : ConnId} {f : Link → Option Link} {q : Option (Act × Report)}
    (h : d.step c f = some (d', q)) : q = none ∧ d.Stepped c f d' := by
  obtain ⟨l, hl, h⟩ := Option.bind_eq_some_iff.mp h
  obtain ⟨l', hl', h⟩ := Option.map_eq_some_iff.mp h
  cases h
  exact ⟨rfl, l, l', hl, hl', rfl⟩

end Deployment

end CxlFabric
