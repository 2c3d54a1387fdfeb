import LinkLocal.Daemon.Settings
import LinkLocal.Host.Stream
import LinkLocal.Registry
import LinkLocal.Simulation.Detection

/-!
The daemon's supervision of its engine: it announces what is ready, starts a stopped engine again
after a delay, and ends at a signal or at an error. The daemon lives on a simulated link of its own,
on which simulated neighbours hold the first candidates.

A supervisor makes one move at a time, and none while there is nothing to do before the clock moves;
it says when that is. Running it moves the clock from one such time to the next.
-/
namespace LinkLocal.Daemon

open Simulation (Network)

/-! ## Preparation -/

def simulatedBackend : String := "sim"

/-- The hardware address of a simulated neighbour. -/
def neighbour (n : Nat) : LinkAddress := ⟨[2, 0, 0, 0, 0, UInt8.ofNat n + 1]⟩

/-- Lets simulated neighbours hold addresses, one each. -/
def settleNeighbours : (n : Nat) → List IPv4 → Network → Network
  | _, [], net => net
  | n, a :: rest, net =>
    settleNeighbours (n + 1) rest
      ((net.note (.contender a (neighbour n))).occupy a (neighbour n))

/-- A registry with every backend that there is. The neighbours sit on the first candidates of the
sequence that the engine will try; with settings that give no engine there are none. -/
def buildRegistry (s : Settings) (net : Network) : Registry Network Nat × Network :=
  let net := net.note .registeringSimulation
  let net := match s.engineConfig with
    | .ok c =>
      settleNeighbours 0 ((Selector.ofSeed c.enumeration).take s.contenders.toNat) net
    | .error _ => net
  Registry.register simulatedBackend Network.factory {} net

/-! ## Events -/

/-- What the daemon does about an event. A ready event may be stale by the time it is handled,
because the engine lost the candidate and went on; its announcement is then refused, and the next
ready event is awaited. -/
def handle {σ : Type} [Journal σ] (d : Detector σ) (e : Event) (h : Host σ) :
    Except Error Unit × Host σ :=
  match e with
  | .ready a =>
    match (h.note (.claiming a)).announce d with
    | (.ok _, h) => (.ok (), h)
    | (.error e, h) => if e.isFatal then (.error e, h) else (.ok (), h.note (.notAnnouncing a e))
  | .defended claim => (.ok (), h.note (.defended claim))
  | .conflict claim => (.ok (), h.note (.stopUsing claim))
  | .down => (.ok (), h.note .linkDown)

/-! ## Supervision -/

/-- The signals that end the daemon. -/
inductive Signal where
  | terminate
  | interrupt
  deriving DecidableEq, Repr

def Signal.name : Signal → String
  | .terminate => "SIGTERM"
  | .interrupt => "SIGINT"

/-- How the daemon ended. -/
inductive ExitCode where
  | clean
  | configuration
  | runtime
  deriving DecidableEq, Repr

def ExitCode.number : ExitCode → UInt32
  | .clean => 0
  | .configuration => 1
  | .runtime => 2

/-- What a supervisor is about. -/
inductive Stage where
  | serving
  | resting (due : Nat)
  | ended (code : ExitCode)
  deriving DecidableEq, Repr

/-- A daemon at work. -/
structure Supervisor where
  settings : Settings
  config : Config
  tap : Nat
  host : Host Network
  stage : Stage

namespace Supervisor

def detector (s : Supervisor) : Detector Network := Network.detector s.tap

def now (s : Supervisor) : Nat := s.host.world.now

def note (n : Notice) (s : Supervisor) : Supervisor := { s with host := s.host.note n }

def advanceTo (time : Nat) (s : Supervisor) : Supervisor :=
  { s with host := { s.host with world := s.host.world.advanceTo time } }

/-- The notices that were left since they were taken last, each with its time, the earliest first. -/
def takeNotices (s : Supervisor) : List (Nat × Notice) × Supervisor :=
  let journal := s.host.world.journal
  (journal.reverse, { s with host := { s.host with world := { s.host.world with journal := [] } } })

def release (s : Supervisor) : Supervisor :=
  { s with host := { s.host with world := s.host.release s.detector } }

def fail (cause : Error) (s : Supervisor) : Supervisor :=
  { s.release.note (.daemonFailed (Fault.engine cause).text) with stage := .ended .runtime }

def shutDown (signal : Signal) (s : Supervisor) : Supervisor :=
  let s := (s.note (.signalled signal.name)).note .shuttingDown
  let s := { s with host := s.host.stop s.detector }
  { s.release with stage := .ended .clean }

def start (s : Supervisor) : Supervisor :=
  match s.host.start s.detector s.config with
  | (.ok _, host) => { s with host, stage := .serving }
  | (.error e, host) => fail e { s with host }

/-- Waits for the time to start the engine again. -/
def rest (s : Supervisor) : Supervisor :=
  { s.note (.restarting s.settings.restartDelaySecs) with
    stage := .resting (s.now + s.settings.restartDelay.nanoseconds) }

def move? (s : Supervisor) : Option Supervisor :=
  match s.stage with
  | .ended _ => none
  | .resting due => if due ≤ s.now then some s.start else none
  | .serving =>
    match s.host.look s.detector with
    | (.pending, _) => none
    | (.again, host) => some { s with host }
    | (.ended, host) => some (rest { s with host })
    | (.failed e, host) => some (fail e { s with host })
    | (.event e, host) =>
      match handle s.detector e host with
      | (.ok _, host) => some { s with host }
      | (.error e, host) => some (fail e { s with host })

/-- The time of the next move, if one will come by itself. -/
def due? (s : Supervisor) : Option Nat :=
  match s.stage with
  | .ended _ => none
  | .resting due => some due
  | .serving => (s.host.world.link.timer s.tap).untold

/-- Moves, and moves the clock from one move to the next, until the time of a signal, making at most
the given number of steps. -/
def run (signal : Signal) (time : Nat) : (steps : Nat) → Supervisor → Supervisor
  | 0, s => (s.advanceTo time).shutDown signal
  | steps + 1, s =>
    match s.move? with
    | some s => run signal time steps s
    | none =>
      match s.stage, s.due? with
      | .ended _, _ => s
      | _, some due =>
        if due < time then run signal time steps (s.advanceTo due)
        else (s.advanceTo time).shutDown signal
      | _, none => (s.advanceTo time).shutDown signal

/-- How many steps a run can take: at each time before the signal a few. -/
def stepBound (time : Nat) : Nat := 8 * (time + 1)

end Supervisor

/-! ## The whole daemon -/

/-- What a run of the daemon leaves behind. -/
structure Outcome where
  code : ExitCode
  stderr : String
  journal : List (Nat × Notice)
  deriving DecidableEq, Repr

/-- The settings and the configuration that an environment asks for, or the line that tells what is
wrong with it. -/
def configure (env : Environment) : Except String (Settings × Config) :=
  match Settings.ofEnvironment env with
  | .error fault => .error s!"Configuration error: {fault.text}"
  | .ok s =>
    match s.validate, s.engineConfig with
    | .error fault, _ | _, .error fault => .error s!"Configuration validation error: {fault.text}"
    | .ok _, .ok config => .ok (s, config)

/-- Makes the engine and starts it for the first time. Where that fails the daemon ends at once. -/
def launch (s : Settings) (config : Config) (net : Network) :
    Except (ExitCode × Network) Supervisor :=
  let net := (net.note .daemonStarting).note (.daemonConfigured s.ifindex s.backend)
  let (registry, net) := buildRegistry s net
  match registry.createEngine s.backend net with
  | (.error e, net) =>
    .error (.runtime, net.note (.daemonFailed (Fault.creation s.backend e).text))
  | (.ok (tap, engine), net) =>
    let s := Supervisor.start ⟨s, config, tap, ⟨engine, net⟩, .serving⟩
    match s.stage with
    | .ended code => .error (code, s.host.world)
    | _ => .ok (s.note .daemonReady)

/-- Runs the daemon until it ends, with a signal at the given time. -/
def serve (signal : Signal) (time : Nat) (s : Settings) (config : Config) (net : Network) :
    ExitCode × Network :=
  match launch s config net with
  | .error ended => ended
  | .ok s =>
    let s := s.run signal time (Supervisor.stepBound time)
    match s.stage with
    | .ended code => (code, s.host.world)
    | _ => (.runtime, s.host.world)

/-- Whether a notice is important enough for the settings. -/
def Settings.reports (s : Settings) (n : Notice) : Bool :=
  (s.level?.getD .info).rank ≤ n.level.rank

/-- The daemon from its environment to its end, with a signal at the given time. -/
def run (env : Environment) (signal : Signal) (time : Nat) (faults : Simulation.Faults) :
    Outcome :=
  match configure env with
  | .error line => ⟨.configuration, line ++ "\n", []⟩
  | .ok (s, config) =>
    let (code, net) := serve signal time s config { faults }
    ⟨code, "", net.journal.reverse.filter fun entry => s.reports entry.2⟩

end LinkLocal.Daemon
