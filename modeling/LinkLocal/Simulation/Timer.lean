import LinkLocal.Notice

/-!
One-shot timers on a virtual clock, and faults that make calls on them fail. A timer is readable
once the clock has reached its expiry and until it is drained; setting it forgets an earlier
expiry. A call that fails leaves its timer as it was.

There are two ways to wait for a timer. Who asks for its level finds it readable as long as it is
not drained; who is told of its edges hears once of every time that it is set and goes off.
-/
namespace LinkLocal.Simulation

/-! ## Timers -/

/-- A one-shot timer. -/
structure Timer where
  /-- The time at which it goes off, in nanoseconds, if it is armed and not drained. -/
  expiry : Option Nat := none
  /-- Whether it was told that it has gone off since it was set. -/
  told : Bool := false
  deriving DecidableEq, Repr

namespace Timer

/-- Whether a timer has gone off and was not drained. -/
def isReadable (now : Nat) (t : Timer) : Bool := t.expiry.any (· ≤ now)

/-- The shortest delay that a timer can be set to, in nanoseconds. -/
def shortestDelay : Nat := 1

/-- A timer that goes off after a delay. The shortest delay stands for none at all: a timer that is
set to it, or to less, goes off at once. -/
def after (now delay : Nat) : Timer :=
  { expiry := some (if delay ≤ shortestDelay then now else now + delay) }

def disarmed : Timer := {}

/-- A timer after its expiry was taken, if it has gone off. -/
def drained (now : Nat) (t : Timer) : Timer := if t.isReadable now then disarmed else t

def untold (t : Timer) : Option Nat := if t.told then none else t.expiry

/-- Whether a timer has gone off and nobody was told. -/
def hasNews (now : Nat) (t : Timer) : Bool := t.untold.any (· ≤ now)

/-- A timer after its news were told, if there are any. -/
def tell (now : Nat) (t : Timer) : Timer := if t.isReadable now then { t with told := true } else t

def renew (t : Timer) : Timer := { t with told := false }

theorem isReadable_drained (now : Nat) (t : Timer) : (t.drained now).isReadable now = false := by
  unfold drained
  split
  · rfl
  · next h => simpa using h

/-- Telling does not change when a timer goes off. -/
theorem expiry_tell (now : Nat) (t : Timer) : (t.tell now).expiry = t.expiry := by
  unfold tell
  split <;> rfl

theorem isReadable_tell (now later : Nat) (t : Timer) :
    (t.tell now).isReadable later = t.isReadable later := by
  rw [isReadable, expiry_tell, isReadable]

/-- There is no news of a timer once they were told. -/
theorem hasNews_tell (now : Nat) (t : Timer) : (t.tell now).hasNews now = false := by
  unfold tell
  split
  · rfl
  · next h =>
    unfold hasNews untold
    split
    · rfl
    · simpa [isReadable] using h

/-- Whoever begins to watch a timer has news of it exactly if it is readable. -/
theorem hasNews_renew (now : Nat) (t : Timer) : t.renew.hasNews now = t.isReadable now := rfl

end Timer

/-! ## Faults -/

/-- The calls on timers that can fail. -/
inductive TimerCall where
  | create
  | set
  | read
  deriving DecidableEq, Repr

/-- Which of the coming calls of a kind fail: after some that succeed, a number of them. -/
structure FaultRule where
  /-- How many calls succeed first. -/
  after : Nat
  /-- How many calls fail then. -/
  count : Nat
  /-- What they fail with. -/
  fault : SystemFault
  deriving DecidableEq, Repr

/-- The rules for the coming calls on timers. For each kind of call, a rule takes over when those
in front of it are used up. -/
structure Faults where
  create : List FaultRule := []
  set : List FaultRule := []
  read : List FaultRule := []
  deriving DecidableEq, Repr

/-- What rules do to the next call: the fault, if it fails, and the rules for the calls after. -/
def FaultRule.apply : List FaultRule → Option SystemFault × List FaultRule
  | [] => (none, [])
  | r :: rest =>
    match r.after, r.count with
    | after + 1, _ => (none, { r with after } :: rest)
    | 0, count + 1 => (some r.fault, { r with count } :: rest)
    | 0, 0 => apply rest

namespace Faults

/-- Lays down a rule for the coming calls of a kind, in the place of the earlier ones. -/
def lay (call : TimerCall) (r : FaultRule) (f : Faults) : Faults :=
  match call with
  | .create => { f with create := [r] }
  | .set => { f with set := [r] }
  | .read => { f with read := [r] }

/-- What happens to the next call of a kind, and the rules for the calls after it. -/
def next (call : TimerCall) (f : Faults) : Option SystemFault × Faults :=
  match call with
  | .create => let (fault, rules) := FaultRule.apply f.create; (fault, { f with create := rules })
  | .set => let (fault, rules) := FaultRule.apply f.set; (fault, { f with set := rules })
  | .read => let (fault, rules) := FaultRule.apply f.read; (fault, { f with read := rules })

end Faults

/-! ## Surroundings -/

/-- What all parts of a simulation share. -/
structure Surroundings where
  /-- The time in nanoseconds. -/
  now : Nat := 0
  /-- The rules for calls on timers. -/
  faults : Faults := {}
  /-- The notices that were left, each with its time, the latest first. -/
  journal : List (Nat × Notice) := []
  deriving DecidableEq, Repr

/-- The time beyond which the clock has no values. -/
def clockRange : Nat := Nat.pow 2 63 * 1000000000

/-- The least time between two defenses of an address. -/
def defendInterval : Duration := .ofSeconds 10

end LinkLocal.Simulation
