import LinkLocal.Proofs.Network.Happening
import Mathlib.Data.List.DropRight

/-! The history of a link. Every packet that is put on it goes to the log and to the mailboxes of
the taps that are attached, but for the one that it came from; mailboxes are taken one batch at a
time, at any moment. The log and all the mailboxes record the same traffic, each with cuts of its
own: the log forgets what is beyond its room, a mailbox begins when its tap is attached, leaves
out what its own detector sends, and has lost what was taken from it.

One deed on the link keeps a balance: what is taken from a mailbox, and what is in it then, is
what was in it before, and the packet that was heard. The history of a whole run adds up from it. -/
namespace LinkLocal.Simulation.Network

/-! ## Deeds on a link -/

/-- What can be done on a link. Nobody asks whether a tap that takes its mail, sends, or is
detached is there. -/
inductive Deed where
  | attach
  | detach (p : Nat)
  | claim (k : Packet)
  | send (p : Nat) (k : Packet)
  /-- The packets in the mailbox of a tap are taken. -/
  | collect (p : Nat)
  | occupy (a : IPv4) (m : LinkAddress)
  | release (a : IPv4)
  | carrier (up : Bool)
  | pass (nanoseconds : Nat)
  /-- The coming calls on timers fail by new rules. -/
  | spoil (faults : Faults)
  deriving DecidableEq

namespace Deed

def perform (n : Network) : Deed → Network
  | .attach => n.onLink .attach
  | .detach p => n.onLink (.detach p)
  | .claim k => n.claim k
  | .send p k => n.send p k
  | .collect p => n.onLink (.clearInbox p)
  | .occupy a m => n.occupy a m
  | .release a => n.release a
  | .carrier up => n.setCarrier up
  | .pass nanoseconds => n.advance nanoseconds
  | .spoil faults => { n with faults }

/-- The packet that a deed puts on the link. -/
def packet : Deed → Option Packet
  | .claim k | .send _ k => some k
  | _ => none

/-- The packet of a deed as the detector at a tap hears it: its own packets it does not. -/
def heardAt (p : Nat) : Deed → Option Packet
  | .claim k => some k
  | .send q k => if q = p then none else some k
  | _ => none

/-- The batch that a deed takes from the mailbox of a tap, if it does. -/
def batch? (p : Nat) (n : Network) : Deed → Option (List Packet)
  | .collect q => if q = p then some (n.link.inbox p) else none
  | _ => none

end Deed

/-- The network after deeds are done in a row. -/
def through (deeds : List Deed) (n : Network) : Network := deeds.foldl Deed.perform n

/-- The packets that deeds put on the link, in order. -/
def traffic (deeds : List Deed) : List Packet := deeds.filterMap Deed.packet

/-- The packets of deeds as the detector at a tap hears them, in order. -/
def heard (p : Nat) (deeds : List Deed) : List Packet := deeds.filterMap (Deed.heardAt p)

/-- The batches that are taken from the mailbox of a tap in the course of deeds. -/
def batches (p : Nat) : List Deed → Network → List (List Packet)
  | [], _ => []
  | deed :: deeds, n => (deed.batch? p n).toList ++ batches p deeds (deed.perform n)

/-- No tap is attached under a number that is still to come. -/
def Numbered (n : Network) : Prop := ∀ p ∈ n.link.taps.keys, p < n.link.nextTap

variable {n : Network} {p : Nat} {deed : Deed} {deeds rest : List Deed}

theorem through_cons (deed : Deed) (deeds : List Deed) (n : Network) :
    through (deed :: deeds) n = through deeds (deed.perform n) := rfl

theorem through_append (deeds rest : List Deed) (n : Network) :
    through (deeds ++ rest) n = through rest (through deeds n) := List.foldl_append

theorem batches_append (p : Nat) (deeds rest : List Deed) (n : Network) :
    batches p (deeds ++ rest) n = batches p deeds n ++ batches p rest (through deeds n) := by
  induction deeds generalizing n with
  | nil => rfl
  | cons deed deeds ih =>
    rw [List.cons_append, batches, batches, ih, through_cons, List.append_assoc]

/-! ## One deed -/

/-- The carrier has nothing to do with packets. -/
private theorem traffic_setCarrier (up : Bool) (n : Network) :
    (n.setCarrier up).link.log = n.link.log ∧
      (∀ q, (n.setCarrier up).link.inbox q = n.link.inbox q) ∧
      (n.setCarrier up).link.taps.keys = n.link.taps.keys ∧
      (n.setCarrier up).link.nextTap = n.link.nextTap := by
  simp only [setCarrier]
  split
  · exact ⟨rfl, fun _ => rfl, rfl, rfl⟩
  · split
    · exact ⟨rfl, fun _ => rfl, rfl, rfl⟩
    · have woken := quiet_wakeAll n.link.taps.keys
        ((n.note (.carrier up)).onLink fun l => { l with carrier := up })
      exact ⟨woken.log, woken.inbox, woken.taps, woken.nextTap⟩

/-- What a deed puts on the link comes first in the log. -/
theorem log_perform (deed : Deed) (n : Network) : (deed.perform n).link.log.latest =
    (deed.packet.toList ++ n.link.log.latest).take PacketLog.capacity := by
  have full : n.link.log.latest.take PacketLog.capacity = n.link.log.latest :=
    List.take_of_length_le (List.length_take_le ..)
  cases deed with
  | claim k =>
    rw [Deed.perform, claim, log_deliverAll]
    exact PacketLog.latest_record k n.link.log
  | send p k =>
    rw [Deed.perform, send, log_deliverAll]
    exact PacketLog.latest_record k n.link.log
  | carrier up =>
    rw [Deed.perform, (traffic_setCarrier up n).1]
    exact full.symm
  | _ => exact full.symm

/-- The taps after a deed: a new number comes in when one is attached, and one that is detached
goes. -/
theorem mem_keys_perform (deed : Deed) (n : Network) (p : Nat) :
    p ∈ (deed.perform n).link.taps.keys ↔ deed = .attach ∧ p = n.link.nextTap ∨
      deed ≠ .detach p ∧ p ∈ n.link.taps.keys := by
  cases deed with
  | attach => simp [Deed.perform, onLink, Link.attach, Table.mem_keys_insert]
  | detach q =>
    simp [Deed.perform, onLink, Link.detach, Table.mem_keys_erase, eq_comm]
  | claim k => simp [Deed.perform, (still_claim k n).taps]
  | send q k => simp [Deed.perform, (still_send q k n).taps]
  | collect q => simp [Deed.perform, onLink, Link.clearInbox]
  | carrier up => simp [Deed.perform, (traffic_setCarrier up n).2.2.1]
  | occupy a m => simp [Deed.perform, occupy, onLink, Link.take, note, Journal.note]
  | release a => simp [Deed.perform, release, onLink, Link.release]
  | pass nanoseconds => simp [Deed.perform, advance]
  | spoil faults => simp [Deed.perform]

theorem nextTap_perform (deed : Deed) (n : Network) : (deed.perform n).link.nextTap =
    if deed = .attach then n.link.nextTap + 1 else n.link.nextTap := by
  cases deed with
  | claim k => exact (still_claim k n).nextTap
  | send q k => exact (still_send q k n).nextTap
  | carrier up => exact (traffic_setCarrier up n).2.2.2
  | _ => rfl

theorem numbered_perform (numbered : Numbered n) (deed : Deed) : Numbered (deed.perform n) := by
  intro p attached
  rw [nextTap_perform]
  rcases (mem_keys_perform deed n p).mp attached with ⟨rfl, rfl⟩ | ⟨_, before⟩
  · simp
  · have := numbered p before
    split <;> omega

/-- The balance of a mailbox over a deed: what is taken, and what is in it then, is what was in it
before, and the packet that was heard. -/
theorem inbox_perform (numbered : Numbered n) (attached : p ∈ n.link.taps.keys)
    (stays : deed ≠ .detach p) :
    ((deed.batch? p n).getD []) ++ (deed.perform n).link.inbox p =
      n.link.inbox p ++ (deed.heardAt p).toList := by
  have earlier := numbered p attached
  cases deed with
  | attach =>
    have other : n.link.nextTap ≠ p := by omega
    simp [Deed.batch?, Deed.perform, Deed.heardAt, onLink, Link.inbox_attach, other]
  | detach q =>
    have other : q ≠ p := fun same => stays (same ▸ rfl)
    simp [Deed.batch?, Deed.perform, Deed.heardAt, onLink, Link.inbox_detach, other]
  | claim k => simp [Deed.batch?, Deed.perform, Deed.heardAt, inbox_claim, attached]
  | send q k =>
    by_cases own : q = p
    · simp [Deed.batch?, Deed.perform, Deed.heardAt, inbox_send, own]
    · simp [Deed.batch?, Deed.perform, Deed.heardAt, inbox_send, own, Ne.symm own, attached]
  | collect q =>
    by_cases own : q = p
    · simp [Deed.batch?, Deed.perform, Deed.heardAt, onLink, Link.inbox_clearInbox, own]
    · simp [Deed.batch?, Deed.perform, Deed.heardAt, onLink, Link.inbox_clearInbox, own]
  | carrier up =>
    simp [Deed.batch?, Deed.perform, Deed.heardAt, (traffic_setCarrier up n).2.1]
  | _ => exact (List.append_nil _).symm

/-! ## Deeds in a row -/

theorem numbered_through (numbered : Numbered n) (deeds : List Deed) :
    Numbered (through deeds n) := by
  induction deeds generalizing n with
  | nil => exact numbered
  | cons deed deeds ih => exact ih (numbered_perform numbered deed)

theorem nextTap_le_through (deeds : List Deed) (n : Network) :
    n.link.nextTap ≤ (through deeds n).link.nextTap := by
  induction deeds generalizing n with
  | nil => exact Nat.le_refl _
  | cons deed deeds ih =>
    refine Nat.le_trans ?_ (ih (deed.perform n))
    rw [nextTap_perform]
    split <;> omega

/-- The log after deeds, whatever was in it before. -/
theorem log_through (deeds : List Deed) (n : Network) : (through deeds n).link.log.latest =
    ((traffic deeds).reverse ++ n.link.log.latest).take PacketLog.capacity := by
  induction deeds generalizing n with
  | nil => exact (List.take_of_length_le (List.length_take_le ..)).symm
  | cons deed deeds ih =>
    have put : traffic (deed :: deeds) = deed.packet.toList ++ traffic deeds := by
      rw [traffic, List.filterMap_cons]
      cases deed.packet <;> rfl
    have turned : deed.packet.toList.reverse = deed.packet.toList := by
      cases deed.packet <;> rfl
    rw [through_cons, ih, log_perform, take_append_take, put, List.reverse_append, turned,
      List.append_assoc]

/-- The balance of a mailbox over deeds that do not detach its tap. -/
theorem inbox_through (numbered : Numbered n) (attached : p ∈ n.link.taps.keys)
    (stays : .detach p ∉ deeds) :
    (batches p deeds n).flatten ++ (through deeds n).link.inbox p =
      n.link.inbox p ++ heard p deeds := by
  induction deeds generalizing n with
  | nil => simp [batches, through, heard]
  | cons deed deeds ih =>
    have here : deed ≠ .detach p := fun same => stays (same ▸ List.mem_cons_self)
    have attached' : p ∈ (deed.perform n).link.taps.keys :=
      (mem_keys_perform deed n p).mpr (.inr ⟨here, attached⟩)
    have later := ih (numbered_perform numbered deed) attached' fun late => stays (.tail _ late)
    have now := inbox_perform numbered attached here
    have taken : (deed.batch? p n).toList.flatten = (deed.batch? p n).getD [] := by
      cases deed.batch? p n <;> simp
    have told : heard p (deed :: deeds) = (deed.heardAt p).toList ++ heard p deeds := by
      rw [heard, List.filterMap_cons]
      cases deed.heardAt p <;> rfl
    calc (batches p (deed :: deeds) n).flatten ++ (through (deed :: deeds) n).link.inbox p
        = (deed.batch? p n).getD [] ++ ((batches p deeds (deed.perform n)).flatten ++
            (through deeds (deed.perform n)).link.inbox p) := by
          rw [batches, List.flatten_append, taken, through_cons, List.append_assoc]
      _ = ((deed.batch? p n).getD [] ++ (deed.perform n).link.inbox p) ++ heard p deeds := by
          rw [later, List.append_assoc]
      _ = n.link.inbox p ++ heard p (deed :: deeds) := by
          rw [now, told, List.append_assoc]

/-- Whoever is attached has been all along, or came by one of the deeds. -/
theorem attached_since (deeds : List Deed) (n : Network)
    (attached : p ∈ (through deeds n).link.taps.keys) :
    p ∈ n.link.taps.keys ∧ .detach p ∉ deeds ∨ ∃ before later, deeds = before ++ .attach :: later ∧
      (through before n).link.nextTap = p ∧ .detach p ∉ later := by
  induction deeds generalizing n with
  | nil => exact .inl ⟨attached, List.not_mem_nil⟩
  | cons deed deeds ih =>
    rcases ih (deed.perform n) attached with ⟨there, stays⟩ | ⟨before, later, rfl, named, stays⟩
    · rcases (mem_keys_perform deed n p).mp there with ⟨rfl, rfl⟩ | ⟨here, before⟩
      · exact .inr ⟨[], deeds, rfl, rfl, stays⟩
      · refine .inl ⟨before, fun member => ?_⟩
        rcases List.mem_cons.mp member with same | later
        · exact here same.symm
        · exact stays later
    · exact .inr ⟨deed :: before, later, rfl, named, stays⟩

/-- A number that was given out is not given out again. -/
theorem absent_through (absent : p ∉ n.link.taps.keys) (old : p < n.link.nextTap)
    (deeds : List Deed) : p ∉ (through deeds n).link.taps.keys := by
  intro attached
  rcases attached_since deeds n attached with ⟨there, _⟩ | ⟨before, later, _, named, _⟩
  · exact absent there
  · have := nextTap_le_through before n
    omega

/-- As long as there is no tap of a number, all that is taken from it are empty batches. -/
theorem batches_of_absent
    (absent : ∀ before later, deeds = before ++ later → p ∉ (through before n).link.taps.keys) :
    ∀ batch ∈ batches p deeds n, batch = [] := by
  induction deeds generalizing n with
  | nil => exact fun _ member => absurd member List.not_mem_nil
  | cons deed deeds ih =>
    intro batch member
    rcases List.mem_append.mp member with now | later
    · have empty := Link.inbox_of_not_mem n.link p (absent [] (deed :: deeds) rfl)
      cases deed with
      | collect q =>
        simp only [Deed.batch?] at now
        split at now
        · simpa [empty] using now
        · cases now
      | _ => cases now
    · refine ih (fun before rest split => ?_) batch later
      exact absent (deed :: before) rest (congrArg (deed :: ·) split)

/-! ## The history of a link -/

/-- A link with nothing on it. -/
theorem numbered_empty (around : Surroundings) : Numbered ⟨around, {}⟩ := by
  simp [Numbered, Table.keys]

/-- What was put on a link since it was made, by whatever deeds: the log shows the last of it, as
far as there is room, oldest first. Whoever is attached came by some deed; all that was taken from
its mailbox, and what is in it now, is what it has heard since, in order, and that is every packet
but its own. Whoever is detached gets nothing any more. -/
theorem link_history (around : Surroundings) (deeds : List Deed) :
    (through deeds ⟨around, {}⟩).link.log.toList = (traffic deeds).rtake PacketLog.capacity ∧
    (∀ p ∈ (through deeds ⟨around, {}⟩).link.taps.keys, ∃ before later,
      deeds = before ++ .attach :: later ∧
      (through before ⟨around, {}⟩).link.nextTap = p ∧ .detach p ∉ later ∧
      (batches p deeds ⟨around, {}⟩).flatten ++ (through deeds ⟨around, {}⟩).link.inbox p =
        heard p later) ∧
    ∀ p before later, deeds = before ++ .detach p :: later →
      p < (through before ⟨around, {}⟩).link.nextTap →
      (through deeds ⟨around, {}⟩).link.inbox p = [] ∧
      ∀ batch ∈ batches p later (through (before ++ [.detach p]) ⟨around, {}⟩), batch = [] := by
  generalize made : (⟨around, {}⟩ : Network) = n
  have numbered : Numbered n := made ▸ numbered_empty around
  have blank : n.link.log.latest = [] ∧ n.link.taps.keys = [] := made ▸ ⟨rfl, rfl⟩
  refine ⟨?log, fun p attached => ?mail, fun p before later split old => ?detached⟩
  case log =>
    rw [PacketLog.toList, log_through, blank.1, List.append_nil, List.rtake_eq_reverse_take_reverse]
  case mail =>
    rcases attached_since deeds n attached with ⟨there, _⟩ | ⟨before, later, rfl, rfl, stays⟩
    · rw [blank.2] at there
      cases there
    refine ⟨before, later, rfl, rfl, stays, ?_⟩
    generalize named : (through before n).link.nextTap = p at *
    have numbered' := numbered_through numbered before
    -- Before it is attached, a number has no mailbox, and the first deed makes an empty one.
    have nothing : (batches p before n).flatten = [] := by
      refine List.flatten_eq_nil_iff.mpr (batches_of_absent fun first rest split attached => ?_)
      have below := numbered_through numbered first p attached
      have := nextTap_le_through rest (through first n)
      rw [← through_append, ← split] at this
      omega
    have fresh : (Deed.attach.perform (through before n)).link.inbox p = [] := by
      simp [Deed.perform, onLink, Link.inbox_attach, named]
    have balance := inbox_through (numbered_perform numbered' .attach)
      ((mem_keys_perform .attach (through before n) p).mpr (.inl ⟨rfl, named.symm⟩)) stays
    rw [batches_append, List.flatten_append, nothing, through_append, through_cons]
    simpa [batches, Deed.batch?, fresh] using balance
  case detached =>
    have gone : p ∉ (through (before ++ [.detach p]) n).link.taps.keys := by
      rw [through_append]
      simp [through, mem_keys_perform]
    have old' : p < (through (before ++ [.detach p]) n).link.nextTap := by
      have := nextTap_le_through [.detach p] (through before n)
      rw [through_append]
      omega
    have whole : through deeds n = through later (through (before ++ [.detach p]) n) := by
      rw [split, ← through_append, List.append_assoc]
      rfl
    refine ⟨?_, batches_of_absent fun first _ _ => absent_through gone old' first⟩
    rw [whole]
    exact Link.inbox_of_not_mem _ p (absent_through gone old' later)

end LinkLocal.Simulation.Network
