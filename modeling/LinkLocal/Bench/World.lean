import LinkLocal.Daemon.Supervisor
import LinkLocal.Scripted

/-!
A world with several links and several scripts under one clock. Each link, seen together with the
clock and the rules for timers, is a network of its own, and so a detector on one of the links is a
detector of the whole world; likewise a detector that follows one of the scripts.
-/
namespace LinkLocal.Bench

open Simulation

/-! ## Places -/

/-- Where a link is. -/
inductive Place where
  | named (name : String)
  | own (serial : Nat)
  deriving DecidableEq, Repr

/-- Links and scripts that share a clock, the rules for timers, and a journal. -/
structure World extends Surroundings where
  /-- The links. A link that is not in here is as a new one. -/
  sites : Table Place Site := {}
  /-- The scripts. A script that is not in here is empty. -/
  scripts : Table String Scripted := {}

instance : Inhabited World := ⟨{}⟩

instance : Journal World where
  note x w := { w with journal := (w.now, x) :: w.journal }

namespace World

def network (place : Place) (w : World) : Network :=
  { w.toSurroundings, (w.sites.get? place).getD {} with }

def putNetwork (place : Place) (n : Network) (w : World) : World :=
  { w with toSurroundings := n.toSurroundings, sites := w.sites.insert place n.toSite }

def onNetwork (place : Place) (f : Network → Network) (w : World) : World :=
  w.putNetwork place (f (w.network place))

def script (name : String) (w : World) : Scripted := (w.scripts.get? name).getD {}

def putScript (name : String) (s : Scripted) (w : World) : World :=
  { w with scripts := w.scripts.insert name s }

def onScript (name : String) (f : Scripted → Scripted) (w : World) : World :=
  w.putScript name (f (w.script name))

/-- Moves the clock to a time, unless it is past it. -/
def advanceTo (time : Nat) (w : World) : World := { w with now := max w.now time }

def advance (d : Duration) (w : World) : World := { w with now := w.now + d.nanoseconds }

/-- Lays down a rule for the coming calls on timers. -/
def lay (call : TimerCall) (r : FaultRule) (w : World) : World :=
  { w with faults := w.faults.lay call r }

/-- The notices that were left since they were taken last, the earliest first. -/
def takeNotices (w : World) : List Notice × World :=
  ((w.journal.map Prod.snd).reverse, { w with journal := [] })

end World

/-! ## Detectors -/

/-- What stands behind a detector. -/
inductive Backing where
  | tap (place : Place) (tap : Nat)
  | script (name : String)
  deriving DecidableEq, Repr

namespace Backing

def detector : Backing → Detector World
  | .tap place p => (Network.detector p).within (World.network place) (World.putNetwork place)
  | .script name => Scripted.detector.within (World.script name) (World.putScript name)

/-- The time at which the descriptor becomes readable by itself, if a timer is armed. -/
def expiry (w : World) : Backing → Option Nat
  | .tap place p => ((w.network place).link.timer p).expiry
  | .script _ => none

/-- Waits until the descriptor is readable: how long it took, if it becomes readable by itself. -/
def await (b : Backing) (w : World) : Option Nat × World :=
  if b.detector.readable w then (some 0, w)
  else match b.expiry w with
    | some time => (some (time - w.now), w.advanceTo time)
    | none => (none, w)

end Backing

/-! ## Factories -/

/-- The factory of detectors on the link at a place. -/
def linkFactory (place : Place) : Factory World Backing :=
  Network.factory.within (World.network place) (World.putNetwork place) (.tap place)

/-- The factory of detectors that follow the script of a name, or that cannot be made. -/
def scriptFactory (name : String) (fault? : Option DetectorFault) : Factory World Backing :=
  (Scripted.factory fault?).within (World.script name) (World.putScript name) fun _ =>
    .script name

end LinkLocal.Bench
