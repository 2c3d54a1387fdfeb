import LinkLocal.Bench.World

/-!
A bench: engines and bare detectors, known by their names, side by side on simulated links or on
scripts. It is the place to try out how several hosts get along.
-/
namespace LinkLocal

open Bench Simulation

/-- A detector at the bench, with the engine that drives it. Without an engine the detector is
bare. -/
structure Bench.Node where
  backing : Backing
  engine : Option Engine
  deriving DecidableEq, Repr

/-- Named nodes in a world. -/
structure Bench where
  world : World := {}
  nodes : Table String Node := {}
  daemons : Nat := 0

instance : Inhabited Bench := ⟨{}⟩

namespace Bench

/-! ## Making nodes -/

/-- What a detector is made on. -/
inductive Ground where
  | link (place : Place)
  | script (name : String) (fault? : Option DetectorFault)
  deriving DecidableEq, Repr

/-- The way in which a node is put together. -/
inductive Assembly where
  /-- A detector without an engine. -/
  | bare
  /-- An engine around a detector that is there already. -/
  | wrapped
  /-- An engine that has its detector made by a factory. -/
  | built
  /-- An engine that a registry makes, with the one backend of this name. -/
  | registered (backend : String)
  deriving DecidableEq, Repr

/-- Why a node cannot be made. -/
inductive Fault where
  | system (cause : SystemFault)
  | engine (cause : Error)
  | settings (cause : Daemon.Fault)
  deriving DecidableEq, Repr

def Ground.factory : Ground → Factory World Backing
  | .link place => linkFactory place
  | .script name fault? => scriptFactory name fault?

def Ground.attach (w : World) : Ground → Except Fault Backing × World
  | .link place =>
    let (r, n) := (w.network place).attach
    ((r.map (.tap place)).mapError .system, w.putNetwork place n)
  | .script name _ => (.ok (.script name), w.onScript name .join)

def Assembly.make (ground : Ground) (w : World) : Assembly → Except Fault Node × World
  | .bare =>
    match ground.attach w with
    | (.ok b, w) => (.ok ⟨b, none⟩, w)
    | (.error fault, w) => (.error fault, w)
  | .wrapped =>
    match ground.attach w with
    | (.ok b, w) => let h := Host.create w; (.ok ⟨b, some h.engine⟩, h.world)
    | (.error fault, w) => (.error fault, w)
  | .built =>
    let (r, w) := Host.build ground.factory w
    ((r.map fun (b, e) => ⟨b, some e⟩).mapError .engine, w)
  | .registered backend =>
    let (registry, w) := Registry.register backend ground.factory {} w
    let (r, w) := registry.createEngine backend w
    ((r.map fun (b, e) => ⟨b, some e⟩).mapError .engine, w)

/-- Makes a node as the daemon does, on a link at a place. -/
def makeDaemon (env : Daemon.Environment) (place : Place) (w : World) :
    Except Fault Node × World :=
  match Daemon.Settings.ofEnvironment env with
  | .error cause => (.error (.settings cause), w)
  | .ok s =>
    let (registry, n) := Daemon.buildRegistry s (w.network place)
    let (r, n) := registry.createEngine s.backend n
    ((r.map fun (p, e) => ⟨.tap place p, some e⟩).mapError .engine, w.putNetwork place n)

def Node.release (n : Node) (w : World) : World :=
  match n.engine with
  | some e => Host.release n.backing.detector ⟨e, w⟩
  | none => n.backing.detector.close w

/-- Gives up the node of a name, if there is one. -/
def drop (name : String) (b : Bench) : Bench :=
  match b.nodes.get? name with
  | some n => { b with world := n.release b.world, nodes := b.nodes.erase name }
  | none => b

/-- Gives a name to a node, in the place of the one that had it. -/
def enlist (name : String) (r : Except Fault Node × World) (b : Bench) :
    Except Fault Unit × Bench :=
  match r with
  | (.ok n, world) =>
    let b := ({ b with world } : Bench).drop name
    (.ok (), { b with nodes := b.nodes.insert name n })
  | (.error fault, world) => (.error fault, ({ b with world } : Bench).drop name)

def create (name : String) (how : Assembly) (ground : Ground) (b : Bench) :
    Except Fault Unit × Bench :=
  b.enlist name (how.make ground b.world)

/-- Makes a node of a name as the daemon does, on a link of its own. -/
def createDaemon (name : String) (env : Daemon.Environment) (b : Bench) :
    Except Fault Unit × Bench :=
  { b with daemons := b.daemons + 1 }.enlist name (makeDaemon env (.own b.daemons) b.world)

/-! ## Working with nodes -/

def node? (b : Bench) (name : String) : Option Node := b.nodes.get? name

def engine? (b : Bench) (name : String) : Option Engine := (b.node? name).bind Node.engine

/-- Works with the engine of a node, if the node has one. -/
def onHost {α : Type} (name : String) (work : Detector World → Host World → α × Host World)
    (b : Bench) : Option (α × Bench) :=
  match b.nodes.get? name with
  | some ⟨backing, some engine⟩ =>
    let (r, h) := work backing.detector ⟨engine, b.world⟩
    some (r, { b with world := h.world, nodes := b.nodes.insert name ⟨backing, some h.engine⟩ })
  | _ => none

/-- Works with the detector of a node, if there is such a node. -/
def onDetector {α : Type} (name : String) (work : Detector World → World → α × World)
    (b : Bench) : Option (α × Bench) :=
  (b.nodes.get? name).map fun n =>
    let (r, world) := work n.backing.detector b.world
    (r, { b with world })

/-- Waits until the descriptor of a node is readable. -/
def await (name : String) (b : Bench) : Option (Option Nat × Bench) :=
  (b.nodes.get? name).map fun n =>
    let (r, world) := n.backing.await b.world
    (r, { b with world })

/-! ## Working with the world -/

def network (place : Place) (b : Bench) : Network := b.world.network place

def onNetwork (place : Place) (f : Network → Network) (b : Bench) : Bench :=
  { b with world := b.world.onNetwork place f }

def onScript (name : String) (f : Scripted → Scripted) (b : Bench) : Bench :=
  { b with world := b.world.onScript name f }

def advance (d : Duration) (b : Bench) : Bench := { b with world := b.world.advance d }

/-- Lays down a rule for the coming calls on timers. -/
def lay (call : TimerCall) (r : FaultRule) (b : Bench) : Bench :=
  { b with world := b.world.lay call r }

/-- The notices that were left since they were taken last, the earliest first. -/
def takeNotices (b : Bench) : List Notice × Bench :=
  let (notices, world) := b.world.takeNotices
  (notices, { b with world })

end Bench
end LinkLocal
