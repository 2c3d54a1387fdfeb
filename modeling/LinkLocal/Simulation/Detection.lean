import LinkLocal.Simulation.Network

/-!
Conflict detection on a simulated link. A probe lasts for its timeout; if another host holds the
address when it ends, or claims it before, the address is in use, else it is ready. Announcing
takes the address on the link and defends it from then on, by the policy and the defend interval.
Whoever loses the carrier goes down.

A detector attends to its mailbox before it looks at its own deadline, and what arrived before a
probe began does not concern it.
-/
namespace LinkLocal.Simulation.Network

/-! ## Parts of the work -/

def report (p : Nat) (d : Detection) (n : Network) : Network :=
  n.onProber p fun s => { s with found := s.found.push d }

def enter (p : Nat) (phase : Phase) (n : Network) : Network :=
  n.onProber p fun s => { s with phase }

/-- Gives up the address that the detector at a tap has announced, if there is one. -/
def giveUp (p : Nat) (n : Network) : Network :=
  match (n.prober p).phase, (n.prober p).probe with
  | .announced .., some c => n.onLink (.giveUp c.address c.mac)
  | _, _ => n

/-- Stops the detector at a tap. What it has found can still be taken. -/
def halt (p : Nat) (n : Network) : Network :=
  match ((n.giveUp p).enter p .idle).disarm p with
  | (.ok _, n) => n
  | (.error fault, n) => n.note (.disarmFailed fault)

/-- The packet with which a host announces or defends its address. -/
def announcement (c : Probe) : Packet := ⟨Packet.request, c.mac, c.address⟩

/-- Whether an announced address is defended at a time. -/
def defends (policy : DefendPolicy) (lastDefense : Option Nat) (now : Nat) : Bool :=
  match policy with
  | .never => false
  | .always => true
  | .once => lastDefense.all fun last => defendInterval.nanoseconds ≤ now - last

/-- Whether a packet is a claim of another host to the probed address. -/
def concerns (c : Probe) (claim : Packet) : Bool :=
  claim.target = c.address && claim.sender ≠ c.mac

/-- Takes a claim of another host to the address of the detector at a tap. -/
def face (p : Nat) (c : Probe) (claim : Packet) (n : Network) : Network :=
  match (n.prober p).phase with
  | .idle => n
  | .probing _ | .ready => ((n.note (.claimedEarly claim)).report p (.used claim)).halt p
  | .announced policy lastDefense =>
    if defends policy lastDefense n.now then
      (((n.enter p (.announced policy (some n.now))).send p (announcement c)).note
        (.defending claim)).report p (.defended claim)
    else ((n.note (.yielded claim)).report p (.conflict claim)).halt p

/-- Takes the packets of a mailbox in order, as long as the detector at the tap is not stopped. -/
def attend (p : Nat) (c : Probe) (packets : List Packet) (n : Network) : Network :=
  packets.foldl (fun n claim => if concerns c claim then n.face p c claim else n) n

/-- Looks at the deadline of the detector at a tap: before it, sets the timer for the rest; at it,
looks who holds the address. -/
def conclude (p : Nat) (c : Probe) (n : Network) : Except DetectorFault Unit × Network :=
  match (n.prober p).phase with
  | .probing deadline =>
    if n.now < deadline then
      match n.arm p (deadline - n.now) with
      | (.ok _, n) => (.ok (), n)
      | (.error fault, n) => (.error (.io fault), n)
    else match (n.link.owner c.address).filter (· ≠ c.mac) with
      | some holder =>
        (.ok (), ((n.note (.held c.address holder)).report p
          (.used ⟨Packet.reply, holder, c.address⟩)).halt p)
      | none =>
        (.ok (), ((n.note (.probeSucceeded c.address)).enter p .ready).report p .ready)
  | _ => (.ok (), n)

/-! ## Operations -/

def start (p : Nat) (c : Probe) (n : Network) : Except DetectorFault Unit × Network :=
  if (n.prober p).phase ≠ .idle then (.error .busy, n)
  else if c.mac.isEmpty then (.error (.invalidArgument .emptyAddress), n)
  else if c.transport ≠ .ethernet then (.error (.invalidArgument (.transport c.transport)), n)
  else if clockRange ≤ n.now + c.timeout.nanoseconds then
    (.error (.invalidArgument (.timeout c.timeout)), n)
  else match n.arm p c.timeout.nanoseconds with
    | (.error fault, n) => (.error (.io fault), n)
    | (.ok _, n) =>
      let begun : Prober := ⟨.probing (n.now + c.timeout.nanoseconds), some c, {}⟩
      (.ok (), ((n.onLink (.clearInbox p)).onProber p fun _ => begun).note
        (.probing c.address c.timeout))

/-- Stops the detector at a tap and forgets what it has found. -/
def stop (p : Nat) (n : Network) : Network :=
  (n.halt p).onProber p fun s => { s with found := {} }

/-- Attends to whatever made the descriptor of the detector at a tap readable. -/
def dispatch (p : Nat) (n : Network) : Except DetectorFault Unit × Network :=
  match n.drain p with
  | (.error fault, n) => (.error (.io fault), n)
  | (.ok _, n) =>
    let packets := n.link.inbox p
    let n := n.onLink (.clearInbox p)
    match (n.prober p).phase, (n.prober p).probe with
    | .idle, _ => (.ok (), n)
    | _, none => (.error (.unexpected .runningUnconfigured), n)
    | _, some c =>
      if n.link.carrier then (n.attend p c packets).conclude p c
      else (.ok (), ((n.note (.carrierLost c.address)).report p .down).halt p)

/-- Takes the next finding of the detector at a tap. -/
def poll (p : Nat) (n : Network) : Except DetectorFault Poll × Network :=
  match (n.prober p).found.pop?, (n.prober p).phase with
  | some (d, rest), _ => (.ok (.found d), n.onProber p fun s => { s with found := rest })
  | none, .idle => (.ok .stopped, n)
  | none, _ => (.ok .done, n)

/-- Announces the address of the detector at a tap. -/
def announce (p : Nat) (policy : DefendPolicy) (n : Network) :
    Except DetectorFault Unit × Network :=
  match (n.prober p).phase, (n.prober p).probe with
  | .ready, some c =>
    (.ok (), (((n.onLink (.take c.address c.mac)).send p (announcement c)).note
      (.announced c.address policy)).enter p (.announced policy none))
  | .ready, none => (.error (.unexpected .readyUnconfigured), n)
  | _, _ => (.error .busy, n)

def attach (n : Network) : Except SystemFault Nat × Network :=
  match n.faults.next .create with
  | (some fault, faults) => (.error fault, { n with faults })
  | (none, faults) =>
    (.ok n.link.nextTap,
      { n with
        faults
        link := n.link.attach
        probers := n.probers.insert n.link.nextTap {} })

def close (p : Nat) (n : Network) : Network :=
  let n := n.halt p
  { n with link := n.link.detach p, probers := n.probers.erase p }

def detector (p : Nat) : Detector Network where
  start := start p
  stop := stop p
  dispatch := dispatch p
  poll := poll p
  announce := announce p
  close := close p
  readable := isReadable p
  hasNews := hasNews p
  tell := tell p
  renew := renew p
  backlog n := (n.prober p).found.length

/-- The factory of detectors on the link. A detector is known by its tap. -/
def factory : Factory Network Nat where
  create n :=
    match n.attach with
    | (.ok p, n) => (.ok p, n)
    | (.error fault, n) => (.error (.io fault), n)

end LinkLocal.Simulation.Network
