import LinkLocal.Engine
import LinkLocal.Simulation.Detection

/-! The story of a host, as its notices tell it. Of all the notices that are left on a link
while a host is at work, those are marks in its story that tell of a probe that begins, of an
announcement, and of an event that it queues for its owner. -/
namespace LinkLocal

/-- What is told of a host. -/
inductive Mark where
  /-- It begins to probe a candidate. -/
  | probed (a : IPv4)
  /-- It announces its candidate. -/
  | announced
  /-- It has an event for its owner. -/
  | queued (event : Event)
  deriving DecidableEq, Repr

def Mark.event : Mark → Option Event
  | .queued event => some event
  | _ => none

/-- The mark that a notice is, if it is one. -/
def Notice.mark : Notice → Option Mark
  | .probing a _ => some (.probed a)
  | .announced .. => some .announced
  | .ready a => some (.queued (.ready a))
  | .defended claim => some (.queued (.defended claim))
  | .lost claim => some (.queued (.conflict claim))
  | .wentDown => some (.queued .down)
  | _ => none

/-- A notice that is no mark. -/
def Notice.Plain (x : Notice) : Prop := x.mark = none

/-- The events among marks. -/
def events (marks : List Mark) : List Event := marks.filterMap Mark.event

theorem events_append (ms ms' : List Mark) : events (ms ++ ms') = events ms ++ events ms' :=
  List.filterMap_append

namespace Simulation.Network

variable {n n' n'' : Network} {p : Nat} {ms ms' : List Mark}

/-- The marks that were left between two networks, oldest first. -/
def marks (n n' : Network) : List Mark :=
  (n'.journal.take (n'.journal.length - n.journal.length)).reverse.filterMap fun x => x.2.mark

/-- From one network to another notices were left, and these are the marks among them. -/
def Tells (ms : List Mark) (n n' : Network) : Prop :=
  ∃ new, n'.journal = new ++ n.journal ∧ new.reverse.filterMap (fun x => x.2.mark) = ms

theorem Tells.marks_eq (tells : Tells ms n n') : marks n n' = ms := by
  obtain ⟨new, journal, rfl⟩ := tells
  rw [marks, journal, List.length_append, Nat.add_sub_cancel, List.take_left']
  rfl

theorem Tells.of_same (same : n'.journal = n.journal) : Tells [] n n' := ⟨[], same, rfl⟩

theorem Tells.refl (n : Network) : Tells [] n n := .of_same rfl

theorem Tells.trans (first : Tells ms n n') (second : Tells ms' n' n'') :
    Tells (ms ++ ms') n n'' := by
  obtain ⟨new, journal, rfl⟩ := first
  obtain ⟨new', journal', rfl⟩ := second
  refine ⟨new' ++ new, ?_, ?_⟩
  · rw [journal', journal, List.append_assoc]
  · rw [List.reverse_append, List.filterMap_append]

theorem tells_note (x : Notice) (n : Network) : Tells x.mark.toList n (n.note x) := by
  refine ⟨[(n.now, x)], rfl, ?_⟩
  cases mark : x.mark <;> simp [mark]

theorem Tells.plain {x : Notice} (plain : x.Plain) (n : Network) : Tells [] n (n.note x) := by
  have noted := tells_note x n
  rwa [show x.mark = none from plain] at noted

/-! ## What leaves no mark -/

theorem tells_setTimer (p : Nat) (t : Timer) (n : Network) : Tells [] n (n.setTimer p t).2 := by
  unfold setTimer
  split <;> exact .of_same rfl

theorem tells_drain (p : Nat) (n : Network) : Tells [] n (n.drain p).2 := by
  unfold drain
  split <;> exact .of_same rfl

theorem tells_wake (p : Nat) (n : Network) : Tells [] n (n.wake p) := by
  have armed : Tells [] n (n.arm p 0).2 := tells_setTimer p _ n
  unfold wake
  split
  · next eq => rwa [eq] at armed
  · next fault _ eq =>
    rw [eq] at armed
    exact armed.trans (.plain (x := .wakeFailed fault) rfl _)

theorem tells_deliverAll (k : Packet) (ps : List Nat) (n : Network) :
    Tells [] n (ps.foldl (deliver k) n) := by
  induction ps generalizing n with
  | nil => exact .refl n
  | cons p ps ih =>
    have delivered : Tells [] n (n.deliver k p) := tells_wake p (n.onLink (.deliver k p))
    exact delivered.trans (ih _)

theorem tells_send (p : Nat) (k : Packet) (n : Network) : Tells [] n (n.send p k) :=
  tells_deliverAll k _ (n.onLink (.record k))

/-! ## What leaves one -/

/-- A probe that begins leaves its mark, and one that is refused leaves none. -/
theorem tells_start (p : Nat) (c : Probe) (n : Network) :
    ((n.start p c).1 = .ok () ∧ Tells [.probed c.address] n (n.start p c).2) ∨
      ∃ fault, (n.start p c).1 = .error fault ∧ Tells [] n (n.start p c).2 := by
  have armed : Tells [] n (n.arm p c.timeout.nanoseconds).2 := tells_setTimer p _ n
  unfold start
  split
  · exact .inr ⟨_, rfl, .refl n⟩
  · split
    · exact .inr ⟨_, rfl, .refl n⟩
    · split
      · exact .inr ⟨_, rfl, .refl n⟩
      · split
        · exact .inr ⟨_, rfl, .refl n⟩
        · split
          · next eq => exact .inr ⟨_, rfl, by rwa [eq] at armed⟩
          · next eq =>
            rw [eq] at armed
            exact .inl ⟨rfl, armed.trans (tells_note (.probing c.address c.timeout) _)⟩

/-- An announcement leaves its mark. -/
theorem tells_announce {policy : DefendPolicy} (announced : (n.announce p policy).1 = .ok ()) :
    Tells [.announced] n (n.announce p policy).2 := by
  unfold announce at announced ⊢
  split at announced
  · next c _ _ =>
    have sent := tells_send p (announcement c) (n.onLink (.take c.address c.mac))
    exact sent.trans (tells_note (.announced c.address policy) _)
  · cases announced
  · cases announced

end Simulation.Network
end LinkLocal
