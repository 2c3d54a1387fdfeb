import LinkLocal.Detector

/-!
Notices: what the engine, the simulated link and the daemon say while they work. Each notice is a
value; its level and its wording are given here and nowhere else. A world in which notices can be
left is a journal.
-/
namespace LinkLocal

/-- How important a notice is, the most important last. -/
inductive Level where
  | trace
  | debug
  | info
  | warn
  | error
  deriving DecidableEq, Repr

namespace Level

/-- All levels, the least important first. -/
def all : List Level := [.trace, .debug, .info, .warn, .error]

def rank : Level → Nat
  | .trace => 0
  | .debug => 1
  | .info => 2
  | .warn => 3
  | .error => 4

def title : Level → String
  | .trace => "TRACE"
  | .debug => "DEBUG"
  | .info => "INFO"
  | .warn => "WARN"
  | .error => "ERROR"

def name : Level → String
  | .trace => "trace"
  | .debug => "debug"
  | .info => "info"
  | .warn => "warn"
  | .error => "error"

end Level

/-- Something worth saying. -/
inductive Notice where
  | created
  | released (pending : Nat)
  | stopped
  | wentIdle
  | dispatchFailed (fault : DetectorFault)
  | started (a : IPv4) (ifindex : UInt32) (requested : Bool)
  | restarted (a : IPv4) (ifindex : UInt32)
  | restartFailed (a : IPv4) (fault : DetectorFault)
  | noProbe
  | wentDown
  | ready (a : IPv4)
  | readyUnconfigured
  | defended (claim : Packet)
  | lost (claim : Packet)
  | inUse (claim : Packet)
  | announcing (a : IPv4)
  | registered (name : String)
  | probing (a : IPv4) (timeout : Duration)
  | probeSucceeded (a : IPv4)
  | held (a : IPv4) (holder : LinkAddress)
  | claimedEarly (claim : Packet)
  | defending (claim : Packet)
  | yielded (claim : Packet)
  | announced (a : IPv4) (policy : DefendPolicy)
  | carrierLost (a : IPv4)
  | disarmFailed (fault : SystemFault)
  | wakeFailed (fault : SystemFault)
  | occupied (a : IPv4) (holder : LinkAddress)
  | carrier (up : Bool)
  | daemonStarting
  | daemonConfigured (ifindex : UInt32) (backend : String)
  | registeringSimulation
  | contender (a : IPv4) (holder : LinkAddress)
  | daemonReady
  | claiming (a : IPv4)
  | notAnnouncing (a : IPv4) (e : Error)
  | stopUsing (claim : Packet)
  | linkDown
  | restarting (seconds : UInt64)
  | signalled (name : String)
  | shuttingDown
  | daemonFailed (message : String)
  deriving DecidableEq, Repr

namespace Notice

def level : Notice → Level
  | .created | .released _ | .stopped | .wentIdle | .inUse _ | .registered _ | .probing ..
  | .probeSucceeded _ | .held .. | .claimedEarly _ | .defending _ | .occupied .. | .carrier _ =>
    .debug
  | .started .. | .restarted .. | .wentDown | .ready _ | .defended _ | .announcing _ | .yielded _
  | .announced .. | .carrierLost _ | .daemonStarting | .daemonConfigured .. | .registeringSimulation
  | .contender .. | .daemonReady | .claiming _ | .signalled _ | .shuttingDown => .info
  | .dispatchFailed _ | .restartFailed .. | .noProbe | .readyUnconfigured | .lost _
  | .disarmFailed _ | .wakeFailed _ | .notAnnouncing .. | .stopUsing _ | .linkDown
  | .restarting _ => .warn
  | .daemonFailed _ => .error

def text : Notice → String
  | .created => "Created IPv4LL context"
  | .released n => s!"IPv4LL context released ({n} pending event(s) dropped)"
  | .stopped => "IPv4LL engine stopped"
  | .wentIdle => "ACD engine stopped, IPv4LL going idle"
  | .dispatchFailed fault => s!"ACD dispatch failed: {fault.text}"
  | .started a i true => s!"Probing {a.text} on ifindex {i} (requested)"
  | .started a i false => s!"Probing {a.text} on ifindex {i} (selected)"
  | .restarted a i => s!"Probing {a.text} on ifindex {i}"
  | .restartFailed a fault => s!"Failed to restart ACD with {a.text}: {fault.text}"
  | .noProbe => "No probe configuration to restart from"
  | .wentDown => "IPv4LL engine down"
  | .ready a => s!"{a.text} is ready"
  | .readyUnconfigured => "ACD reported ready without a configured address"
  | .defended p => s!"Defended {p.target.text} against {p.sender.text}"
  | .lost p => s!"Lost {p.target.text} to {p.sender.text}"
  | .inUse p => s!"{p.target.text} already in use by {p.sender.text}"
  | .announcing a => s!"Announcing {a.text}"
  | .registered name => s!"Registering ACD backend '{name}'"
  | .probing a d => s!"Probing {a.text} for {d.text}"
  | .probeSucceeded a => s!"Probe for {a.text} succeeded"
  | .held a m => s!"{a.text} is held by {m.text}"
  | .claimedEarly p => s!"{p.target.text} claimed by {p.sender.text} before announcement"
  | .defending p => s!"Defending {p.target.text} against {p.sender.text}"
  | .yielded p => s!"Lost {p.target.text} to {p.sender.text}"
  | .announced a policy => s!"Announced {a.text} ({policy.name})"
  | .carrierLost a => s!"Carrier lost, giving up {a.text}"
  | .disarmFailed fault => s!"Failed to disarm ACD timer: {fault.text}"
  | .wakeFailed fault => s!"Failed to wake simulated ACD engine: {fault.text}"
  | .occupied a m => s!"{m.text} occupies {a.text}"
  | .carrier true => "Carrier up"
  | .carrier false => "Carrier down"
  | .daemonStarting => "Starting ipv4lld daemon"
  | .daemonConfigured i backend => s!"Configuration loaded: ifindex {i}, backend {backend}"
  | .registeringSimulation => "Registering simulated ACD backend"
  | .contender a m => s!"Simulated host {m.text} holds {a.text}"
  | .daemonReady => "Daemon initialized successfully"
  | .claiming a => s!"Claiming {a.text}"
  | .notAnnouncing a e => s!"Not announcing {a.text}: {e.text}"
  | .stopUsing p => s!"Lost {p.target.text} to {p.sender.text}, stop using it"
  | .linkDown => "Link down"
  | .restarting n => s!"Engine stopped, restarting in {n}s"
  | .signalled name => s!"Received shutdown signal: {name}"
  | .shuttingDown => "Shutting down daemon"
  | .daemonFailed message => s!"Daemon error: {message}"

end Notice

/-- A world in which notices can be left. -/
class Journal (σ : Type) where
  /-- Leaves a notice. -/
  note : Notice → σ → σ

end LinkLocal
