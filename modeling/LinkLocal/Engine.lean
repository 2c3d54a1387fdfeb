import LinkLocal.Config
import LinkLocal.Detector
import LinkLocal.Queue

/-!
The link-local engine at rest: what it remembers between two operations, and the events that it has
for its owner. The events wait in a queue, oldest first, until the owner takes them.
-/
namespace LinkLocal

/-! ## Events -/

/-- What the engine reports to its owner. -/
inductive Event where
  /-- The candidate survived its probe. The owner configures it and then has it announced. -/
  | ready (address : IPv4)
  /-- A claim by another host was answered. For information only. -/
  | defended (claim : Packet)
  /-- The address was lost to another host. The owner stops using it at once. -/
  | conflict (claim : Packet)
  /-- The link became unusable and the engine stopped. -/
  | down
  deriving DecidableEq, Repr

def Event.text : Event → String
  | .ready a => s!"ready {a.text}"
  | .defended p => s!"defended {p.target.text} against {p.sender.text}"
  | .conflict p => s!"lost {p.target.text} to {p.sender.text}"
  | .down => "down"

/-! ## The engine -/

namespace Engine

/-- Where the engine is in its life. -/
inductive State where
  | idle
  | running
  deriving DecidableEq, Repr

def State.title : State → String
  | .idle => "Idle"
  | .running => "Running"

end Engine

/-- What the engine remembers. -/
structure Engine where
  /-- The candidate sequence of the present run. -/
  selector : Selector := .ofSeed 0
  /-- The probe of the present run, or of the last one. -/
  probe : Option Probe := none
  /-- What to do after an announced address is lost. -/
  policy : ConflictPolicy := .reselect
  /-- Where the engine is in its life. -/
  state : Engine.State := .idle
  /-- The events that have not been taken yet. -/
  pending : Queue Event := {}
  deriving DecidableEq, Repr

/-- What the engine answers when it is asked for its next event. -/
inductive Popped where
  /-- This is the next one. -/
  | event (e : Event)
  /-- There is none now, and the engine is running. -/
  | done
  /-- There is none, and the engine is stopped: only a new start brings more. -/
  | stopped
  deriving DecidableEq, Repr

/-- A name between braces with fields in front of the closing one. -/
def braced (name : String) (fields : List String) : String :=
  name ++ " \x7b " ++ String.intercalate ", " fields ++ " \x7d"

/-- The name of a transport with a capital letter, as it stands in descriptions. -/
def Transport.title : Transport → String
  | .ethernet => "Ethernet"
  | .infiniband => "Infiniband"

def Probe.description (p : Probe) : String :=
  braced "AcdConfig" [s!"ifindex: {p.ifindex}", s!"mac: {p.mac.description}",
    s!"transport: {p.transport.title}", s!"ip: {p.address.text}",
    s!"timeout_msec: {p.timeoutMsec}"]

namespace Engine

/-- The candidate of the present run, or of the last one. -/
def address (e : Engine) : Option IPv4 := e.probe.map Probe.address

def push (event : Event) (e : Engine) : Engine := { e with pending := e.pending.push event }

def pop (e : Engine) : Popped × Engine :=
  match e.pending.pop?, e.state with
  | some (event, rest), _ => (.event event, { e with pending := rest })
  | none, .running => (.done, e)
  | none, .idle => (.stopped, e)

/-- Takes all events that wait: the events, and how the queue ended. -/
def drain (e : Engine) : List Event × Popped × Engine :=
  let rested := { e with pending := {} }
  (e.pending.toList, rested.pop)

def description (e : Engine) : String :=
  let probe := match e.probe with
    | some p => s!"Some({p.description})"
    | none => "None"
  braced "Ipv4ll" [s!"state: {e.state.title}", s!"config: {probe}",
    s!"conflict_policy: {e.policy.title}", s!"pending_events: {e.pending.length}", ".."]

end Engine
end LinkLocal
