import LinkLocal.Simulation.Link

/-!
A network: one simulated link with its surroundings and the detectors attached to it. Whatever
happens on the link wakes the detectors that must look at it, by setting their timers to go off at
once; the one timer of a detector thus serves its probe and its waking.
-/
namespace LinkLocal.Simulation

/-! ## Detectors at rest -/

/-- Where a simulated detector is between a probe and its announcement. -/
inductive Phase where
  | idle
  | probing (deadline : Nat)
  | ready
  | announced (policy : DefendPolicy) (lastDefense : Option Nat)
  deriving DecidableEq, Repr

/-- What a simulated detector remembers: where it is, its present or last probe, and what it found
and was not asked for yet. -/
structure Prober where
  phase : Phase := .idle
  probe : Option Probe := none
  found : Queue Detection := {}
  deriving DecidableEq, Repr

/-! ## Networks -/

/-- A link with its detectors, known by their taps. -/
structure Site where
  link : Link := {}
  probers : Table Nat Prober := {}

/-- A site with its surroundings. -/
structure Network extends Surroundings, Site

instance : Inhabited Network := ⟨{}⟩

instance : Journal Network where
  note x n := { n with journal := (n.now, x) :: n.journal }

namespace Network

def note (x : Notice) (n : Network) : Network := Journal.note x n

def onLink (f : Link → Link) (n : Network) : Network := { n with link := f n.link }

def prober (p : Nat) (n : Network) : Prober := (n.probers.get? p).getD {}

def onProber (p : Nat) (f : Prober → Prober) (n : Network) : Network :=
  { n with probers := n.probers.modify p f }

/-! ## Timers -/

def setTimer (p : Nat) (t : Timer) (n : Network) : Except SystemFault Unit × Network :=
  match n.faults.next .set with
  | (some fault, faults) => (.error fault, { n with faults })
  | (none, faults) => (.ok (), { n with faults, link := n.link.setTimer p t })

/-- Sets the timer of a tap to go off after a delay. -/
def arm (p delay : Nat) (n : Network) : Except SystemFault Unit × Network :=
  n.setTimer p (.after n.now delay)

def disarm (p : Nat) (n : Network) : Except SystemFault Unit × Network := n.setTimer p .disarmed

/-- Takes the expiry of a tap's timer, if it has gone off. A read that would have to wait has
nothing to take. -/
def drain (p : Nat) (n : Network) : Except SystemFault Unit × Network :=
  match n.faults.next .read with
  | (some fault, faults) =>
    (if fault = .wouldBlock then .ok () else .error fault, { n with faults })
  | (none, faults) =>
    (.ok (), { n with faults, link := n.link.setTimer p ((n.link.timer p).drained n.now) })

/-- Whether the descriptor of the detector at a tap is readable. -/
def isReadable (p : Nat) (n : Network) : Bool := (n.link.timer p).isReadable n.now

def hasNews (p : Nat) (n : Network) : Bool := (n.link.timer p).hasNews n.now

/-- Marks the news of the timer of a tap as told. -/
def tell (p : Nat) (n : Network) : Network :=
  n.onLink fun l => l.setTimer p ((l.timer p).tell n.now)

/-- Marks what there is to tell of the timer of a tap as news. -/
def renew (p : Nat) (n : Network) : Network := n.onLink fun l => l.setTimer p (l.timer p).renew

def wake (p : Nat) (n : Network) : Network :=
  match n.arm p 0 with
  | (.ok _, n) => n
  | (.error fault, n) => n.note (.wakeFailed fault)

/-! ## What happens on the link -/

/-- Delivers a packet to a tap and makes its detector look. -/
def deliver (c : Packet) (n : Network) (p : Nat) : Network := (n.onLink (.deliver c p)).wake p

/-- Another host sends a packet: it is logged and delivered to every tap. -/
def claim (c : Packet) (n : Network) : Network :=
  n.link.taps.keys.foldl (deliver c) (n.onLink (.record c))

/-- The detector at a tap sends a packet: it is logged and delivered to every other tap. -/
def send (p : Nat) (c : Packet) (n : Network) : Network :=
  (n.link.taps.keys.filter (· ≠ p)).foldl (deliver c) (n.onLink (.record c))

/-- Raises or drops the carrier. All detectors look when it drops. -/
def setCarrier (up : Bool) (n : Network) : Network :=
  if n.link.carrier = up then n
  else
    let n := (n.note (.carrier up)).onLink fun l => { l with carrier := up }
    if up then n else n.link.taps.keys.foldl (fun n p => n.wake p) n

/-- Lets a host hold an address. Probes of that address find it in use. -/
def occupy (a : IPv4) (m : LinkAddress) (n : Network) : Network :=
  (n.note (.occupied a m)).onLink (.take a m)

def release (a : IPv4) (n : Network) : Network := n.onLink (.release a)

def advance (nanoseconds : Nat) (n : Network) : Network :=
  { n with now := n.now + nanoseconds }

/-- Moves the clock to a time, unless it is past it. -/
def advanceTo (time : Nat) (n : Network) : Network := { n with now := max n.now time }

end Network
end LinkLocal.Simulation
