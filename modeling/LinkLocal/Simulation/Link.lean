import LinkLocal.Queue
import LinkLocal.Simulation.PacketLog
import LinkLocal.Simulation.Timer
import LinkLocal.Table

/-!
A simulated link: a shared medium that knows which host holds which address, keeps a log of the
latest packets, and has a tap for every detector that is attached to it. A tap has a mailbox for
the packets of others and the timer that serves as the detector's descriptor. Main statements: what
a mailbox holds and who holds an address after each operation.
-/
namespace LinkLocal.Simulation

/-- The place on a link at which a detector is attached. -/
structure Tap where
  /-- The timer that makes the detector look. -/
  timer : Timer := {}
  /-- The packets that it has not looked at, oldest first. -/
  inbox : Queue Packet := {}
  deriving DecidableEq, Repr

/-- A simulated link. -/
structure Link where
  carrier : Bool := true
  owners : Table IPv4 LinkAddress := {}
  log : PacketLog := {}
  taps : Table Nat Tap := {}
  nextTap : Nat := 0

namespace Link

def record (c : Packet) (l : Link) : Link := { l with log := l.log.record c }

def deliver (c : Packet) (p : Nat) (l : Link) : Link :=
  { l with taps := l.taps.modify p fun tap => { tap with inbox := tap.inbox.push c } }

/-- The packets in the mailbox of a tap, oldest first. -/
def inbox (p : Nat) (l : Link) : List Packet :=
  ((l.taps.get? p).map fun tap => tap.inbox.toList).getD []

def clearInbox (p : Nat) (l : Link) : Link :=
  { l with taps := l.taps.modify p fun tap => { tap with inbox := {} } }

def timer (p : Nat) (l : Link) : Timer := ((l.taps.get? p).map Tap.timer).getD {}

def setTimer (p : Nat) (t : Timer) (l : Link) : Link :=
  { l with taps := l.taps.modify p fun tap => { tap with timer := t } }

/-- Attaches a tap with a mailbox and a timer of its own. -/
def attach (l : Link) : Link :=
  { l with taps := l.taps.insert l.nextTap {}, nextTap := l.nextTap + 1 }

def detach (p : Nat) (l : Link) : Link := { l with taps := l.taps.erase p }

def owner (a : IPv4) (l : Link) : Option LinkAddress := l.owners.get? a

/-- Lets a host hold an address, whoever held it before. -/
def take (a : IPv4) (m : LinkAddress) (l : Link) : Link := { l with owners := l.owners.insert a m }

def release (a : IPv4) (l : Link) : Link := { l with owners := l.owners.erase a }

/-- Forgets who holds an address if it is this host. -/
def giveUp (a : IPv4) (m : LinkAddress) (l : Link) : Link :=
  if l.owner a = some m then l.release a else l

/-! ## What a mailbox holds -/

variable (l : Link) (c : Packet) (p q : Nat)

@[simp] theorem inbox_setTimer (t : Timer) : (l.setTimer p t).inbox q = l.inbox q := by
  simp only [inbox, setTimer, Table.get?_modify]
  split
  · cases l.taps.get? q <;> rfl
  · rfl

theorem inbox_of_not_mem (none : q ∉ l.taps.keys) : l.inbox q = [] := by
  rw [Table.mem_keys_iff, Option.not_isSome_iff_eq_none] at none
  rw [inbox, none]
  rfl

/-- A packet comes last in the mailbox that it is put into, if there is one. -/
theorem inbox_deliver : (l.deliver c p).inbox q =
    if p = q ∧ q ∈ l.taps.keys then l.inbox q ++ [c] else l.inbox q := by
  simp only [inbox, deliver, Table.get?_modify, Table.mem_keys_iff]
  by_cases same : p = q
  · cases l.taps.get? q <;> simp [same]
  · simp [same]

theorem inbox_clearInbox : (l.clearInbox p).inbox q = if p = q then [] else l.inbox q := by
  simp only [inbox, clearInbox, Table.get?_modify]
  split
  · cases l.taps.get? q <;> rfl
  · rfl

theorem inbox_attach : l.attach.inbox q = if l.nextTap = q then [] else l.inbox q := by
  simp only [inbox, attach, Table.get?_insert]
  split <;> rfl

theorem inbox_detach : (l.detach p).inbox q = if p = q then [] else l.inbox q := by
  simp only [inbox, detach, Table.get?_erase]
  split <;> rfl

/-! ## Who holds an address -/

variable (a b : IPv4) (m : LinkAddress)

theorem owner_take : (l.take a m).owner b = if a = b then some m else l.owner b :=
  Table.get?_insert l.owners a b m

theorem owner_release : (l.release a).owner b = if a = b then none else l.owner b :=
  Table.get?_erase l.owners a b

/-- Giving up an address takes away the own hold on it, and nothing else. -/
theorem owner_giveUp : (l.giveUp a m).owner b =
    if a = b ∧ l.owner a = some m then none else l.owner b := by
  unfold giveUp
  by_cases held : l.owner a = some m
  · simp [held, owner_release]
  · simp [held]

@[simp] theorem taps_giveUp : (l.giveUp a m).taps = l.taps := by
  unfold giveUp
  split <;> rfl

end Link
end LinkLocal.Simulation
