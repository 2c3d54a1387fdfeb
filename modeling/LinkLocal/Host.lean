import LinkLocal.Engine
import LinkLocal.Notice

/-!
A host: the link-local engine together with the world of the detector that it drives. A start picks
a candidate and has it probed; a dispatch takes what the detector found through the policy below,
which may pick the next candidate and probe again, or leave an event for the owner.

| finding    | reaction                                                  |
|------------|-----------------------------------------------------------|
| `ready`    | an event with the present candidate                       |
| `defended` | an event                                                  |
| `conflict` | an event, then the next candidate, or a stop, by policy   |
| `used`     | the next candidate                                        |
| `down`     | an event, and the engine is idle                          |

Where the next candidate cannot be probed, the engine goes down, so that one finding can leave both
a conflict and a down event.
-/
namespace LinkLocal

/-- An engine and the world of its detector. -/
structure Host (σ : Type) where
  engine : Engine
  world : σ

namespace Host

variable {σ δ : Type} [Journal σ]

def note (n : Notice) (h : Host σ) : Host σ := { h with world := Journal.note n h.world }

/-! ## Creation -/

/-- A fresh engine in a world with a stopped detector. -/
def create (s : σ) : Host σ := (⟨{}, s⟩ : Host σ).note .created

/-- A fresh engine with a detector that is made for it, known by its handle. -/
def build (f : Factory σ δ) (s : σ) : Except Error (δ × Engine) × σ :=
  match f.create s with
  | (.ok handle, s) => let h := create s; (.ok (handle, h.engine), h.world)
  | (.error fault, s) => (.error (.ofDetector fault), s)

/-! ## The policy -/

/-- The link is gone: leaves the event, and the engine is idle. -/
def goDown (h : Host σ) : Host σ :=
  ({ h with engine := { h.engine.push .down with state := .idle } } : Host σ).note .wentDown

/-- Picks the next candidate and has it probed; where that fails, the engine goes down. -/
def reselect (d : Detector σ) (h : Host σ) : Host σ :=
  let (a, selector) := h.engine.selector.next
  let h : Host σ := { h with engine := { h.engine with selector } }
  match h.engine.probe with
  | none => (h.note .noProbe).goDown
  | some p =>
    let p := { p with address := a }
    match d.start p h.world with
    | (.ok _, s) =>
      (⟨{ h.engine with probe := some p }, s⟩ : Host σ).note (.restarted a p.ifindex)
    | (.error fault, s) =>
      ((⟨{ h.engine with probe := some p }, s⟩ : Host σ).note (.restartFailed a fault)).goDown

/-- Ends the run. Events that wait can still be taken. -/
def stop (d : Detector σ) (h : Host σ) : Host σ :=
  let h : Host σ := { h with world := d.stop h.world }
  let h := if h.engine.state = .running then h.note .stopped else h
  { h with engine := { h.engine with state := .idle } }

/-- Takes one finding of the detector through the policy. -/
def react (d : Detector σ) (found : Detection) (h : Host σ) : Host σ :=
  match found with
  | .ready =>
    match h.engine.address with
    | some a =>
      let h := h.note (.ready a)
      { h with engine := h.engine.push (.ready a) }
    | none => (h.note .readyUnconfigured).goDown
  | .defended claim =>
    let h := h.note (.defended claim)
    { h with engine := h.engine.push (.defended claim) }
  | .conflict claim =>
    let h := h.note (.lost claim)
    let h : Host σ := { h with engine := h.engine.push (.conflict claim) }
    match h.engine.policy with
    | .reselect => h.reselect d
    | .stop => h.stop d
  | .used claim => (h.note (.inUse claim)).reselect d
  | .down => h.goDown

/-! ## Operations -/

/-- The probe of a configuration for a candidate. -/
def probeOf (c : Config) (a : IPv4) : Probe :=
  ⟨c.ifindex, c.linkAddress, c.transport, a, c.timeoutMsec⟩

/-- The first candidate of a run and the candidate sequence behind it. A requested address comes
before the sequence. -/
def firstCandidate (c : Config) : IPv4 × Selector :=
  let selector := Selector.ofSeed c.enumeration
  match c.requestedAddress with
  | some a => (a, selector)
  | none => selector.next

/-- Begins a run. The engine has to be idle, with all events of the last run taken, and the
configuration acceptable. The candidate sequence begins anew even if the detector then refuses. -/
def start (d : Detector σ) (c : Config) (h : Host σ) : Except Error Unit × Host σ :=
  if h.engine.state = .running then (.error (.busy .running), h)
  else if ¬ h.engine.pending.isEmpty then (.error (.busy (.pending h.engine.pending.length)), h)
  else match c.validate with
    | .error cause => (.error (.invalidArgument cause), h)
    | .ok _ =>
      let (a, selector) := firstCandidate c
      let h : Host σ := { h with engine := { h.engine with selector } }
      let p := probeOf c a
      match d.start p h.world with
      | (.error fault, s) => (.error (.ofRequest fault), { h with world := s })
      | (.ok _, s) =>
        let h := ({ h with world := s } : Host σ).note
          (.started a c.ifindex c.requestedAddress.isSome)
        (.ok (), { h with engine :=
          { h.engine with probe := some p, policy := c.conflictPolicy, state := .running } })

/-- Takes findings through the policy until the detector has no more, but at most the given
number. A detector that has stopped leaves the engine idle. -/
def settle (d : Detector σ) : (findings : Nat) → Host σ → Except Error Unit × Host σ
  | 0, h => (.ok (), h)
  | n + 1, h =>
    match d.poll h.world with
    | (.error fault, s) => (.error (.ofDetector fault), { h with world := s })
    | (.ok (.found found), s) => settle d n (react d found { h with world := s })
    | (.ok .done, s) => (.ok (), { h with world := s })
    | (.ok .stopped, s) =>
      let h : Host σ := { h with world := s }
      let h := if h.engine.state = .running then h.note .wentIdle else h
      (.ok (), { h with engine := { h.engine with state := .idle } })

/-- Attends to the detector after its descriptor became readable. -/
def dispatch (d : Detector σ) (h : Host σ) : Except Error Unit × Host σ :=
  match d.dispatch h.world with
  | (.error fault, s) =>
    (.error (.ofDetector fault), ({ h with world := s } : Host σ).note (.dispatchFailed fault))
  | (.ok _, s) => settle d (d.backlog s + 1) { h with world := s }

/-- Announces the candidate and has it defended once per conflict. It answers a ready event, once
the address is configured. -/
def announce (d : Detector σ) (h : Host σ) : Except Error Unit × Host σ :=
  if h.engine.state = .idle then (.error (.busy .notRunning), h)
  else match d.announce .once h.world with
    | (.error fault, s) => (.error (.ofRequest fault), { h with world := s })
    | (.ok _, s) =>
      let h : Host σ := { h with world := s }
      match h.engine.address with
      | some a => (.ok (), h.note (.announcing a))
      | none => (.ok (), h)

omit [Journal σ] in
def pop (h : Host σ) : Popped × Host σ :=
  let (r, engine) := h.engine.pop
  (r, { h with engine })

/-- Gives up the engine and its detector: any probe is stopped, and no event is left. -/
def release (d : Detector σ) (h : Host σ) : σ :=
  let h := h.stop d
  d.close (h.note (.released h.engine.pending.length)).world

end Host
end LinkLocal
