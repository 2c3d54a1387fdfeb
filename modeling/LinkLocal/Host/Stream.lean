import LinkLocal.Host

/-!
A host as a stream of events, for an owner that waits for descriptors. The stream hands out events
while there are any; when they run out and there is news of the descriptor, it attends to the
detector and looks again. It ends when the engine is idle and no event is left, and goes on after a
new start.

News are of edges, not of levels: there is one for each time that something makes the descriptor
readable. A reactor hears of them for the stream, whenever it runs, and what it heard is kept until
the stream attends to the detector. So a poll attends at most once, and it may do so although
nothing makes the descriptor readable any more: a stream whose engine is idle attends to nothing,
and a new start may come between the news and the poll. A descriptor that stays readable, because
the detector could not attend to what made it so, is left alone until something makes it readable
anew.
-/
namespace LinkLocal

variable {σ : Type} [Journal σ]

namespace Host

/-- What one look at a stream gives. -/
inductive Look where
  /-- The next event. -/
  | event (e : Event)
  /-- The stream is over for now: the engine is idle. -/
  | ended
  /-- Nothing to do before there is news of the descriptor. -/
  | pending
  /-- The detector was attended to, so that it is worth to look again. -/
  | again
  /-- The detector failed. -/
  | failed (e : Error)
  deriving DecidableEq, Repr

/-- A look with a reactor that hears of the descriptor just when it is asked. -/
def look (d : Detector σ) (h : Host σ) : Look × Host σ :=
  match h.pop with
  | (.event e, h) => (.event e, h)
  | (.stopped, h) => (.ended, h)
  | (.done, h) =>
    if d.hasNews h.world then
      match dispatch d { h with world := d.tell h.world } with
      | (.ok _, h) => (.again, h)
      | (.error e, h) => (.failed e, h)
    else (.pending, h)

end Host

/-- A host as a stream. -/
structure EventStream (σ : Type) where
  host : Host σ
  /-- Whether the reactor heard of the descriptor and the detector was not attended to since. -/
  ready : Bool := false

namespace EventStream

open Host (Look)

/-- The reactor runs: if there is news of the descriptor, it hears of them. -/
def turn (d : Detector σ) (s : EventStream σ) : EventStream σ :=
  if d.hasNews s.host.world then ⟨{ s.host with world := d.tell s.host.world }, true⟩ else s

/-- One round of a poll. Attending to the detector uses up what the reactor heard. -/
def round (d : Detector σ) (s : EventStream σ) : Look × EventStream σ :=
  match s.host.pop with
  | (.event e, h) => (.event e, { s with host := h })
  | (.stopped, h) => (.ended, { s with host := h })
  | (.done, h) =>
    if s.ready then
      match h.dispatch d with
      | (.ok _, h) => (.again, ⟨h, false⟩)
      | (.error e, h) => (.failed e, ⟨h, false⟩)
    else (.pending, { s with host := h })

/-- Rounds until one of them gives an answer, at most the given number. -/
def rounds (d : Detector σ) : (limit : Nat) → EventStream σ → Look × EventStream σ
  | 0, s => (.again, s)
  | n + 1, s =>
    match s.round d with
    | (.again, s) => rounds d n s
    | r => r

/-- Asks for the next event, without waiting. If the first round attends to the detector, the second
one cannot, and gives an answer. -/
def poll (d : Detector σ) (s : EventStream σ) : Look × EventStream σ := s.rounds d 2

/-- Waits for the next event while no time passes: polls, and once more each time that the reactor
then hears of the descriptor, at most the given number of times. -/
def wait (d : Detector σ) : (turns : Nat) → EventStream σ → Look × EventStream σ
  | 0, s => s.poll d
  | n + 1, s =>
    match s.poll d with
    | (.pending, s) => if d.hasNews s.host.world then wait d n (s.turn d) else (.pending, s)
    | r => r

end EventStream

/-- What an owner gets who waits for the next event while no time passes, with a reactor that runs
while he waits. Each poll that gives nothing attends to the detector, which then has either a new
candidate or nothing more to attend to; the reactor runs for as many candidates as there are
addresses, and once more. A detector that makes its descriptor readable through all of them is left
unanswered until the stream is asked again. The reactor runs only before a poll that attends, so
that nothing it heard is left when he has his answer. -/
def Host.next (d : Detector σ) (h : Host σ) : Host.Look × Host σ :=
  let (r, s) := EventStream.wait d (IPv4.usableCount + 1) ⟨h, false⟩
  (r, s.host)

end LinkLocal
