import LinkLocal.Proofs.Network.Conduct
import Mathlib.Data.Nat.Basic
import Mathlib.Order.Basic

/-! Timers when no call on them fails. How many calls are still to fail is written in the
rules for them, and each failing call takes one away, so that a stretch of work in which
none fails is told by its two ends. In such a stretch, whatever is put into a mailbox
makes the timer beside it go off at once. -/
namespace LinkLocal.Simulation

/-! ## Calls that fail -/

/-- How many calls rules still make fail. -/
def FaultRule.left : List FaultRule → Nat
  | [] => 0
  | r :: rest => r.count + left rest

theorem FaultRule.left_apply (rs : List FaultRule) :
    (∃ fault rs', apply rs = (some fault, rs') ∧ left rs' < left rs) ∨
      ∃ rs', apply rs = (none, rs') ∧ left rs' = left rs := by
  induction rs with
  | nil => exact .inr ⟨[], rfl, rfl⟩
  | cons r rest ih =>
    obtain ⟨after, count, fault⟩ := r
    cases after with
    | succ after => exact .inr ⟨_, rfl, rfl⟩
    | zero =>
      cases count with
      | succ count =>
        refine .inl ⟨_, _, rfl, ?_⟩
        simp only [left]
        omega
      | zero => simpa only [apply, left, Nat.zero_add] using ih

namespace Network

/-- How many calls that set or read a timer are still to fail. -/
def toFail (n : Network) : Nat := FaultRule.left n.faults.set + FaultRule.left n.faults.read

/-- Calls on timers may have failed between two networks, and if none did, this holds. -/
def Unfailing (r : Network → Network → Prop) (n n' : Network) : Prop :=
  n'.toFail ≤ n.toFail ∧ (n'.toFail = n.toFail → r n n')

variable {n n' n'' : Network} {p q : Nat} {c : Probe} {r : Network → Network → Prop}

theorem Unfailing.trans (trans : ∀ {n n' n''}, r n n' → r n' n'' → r n n'')
    (first : Unfailing r n n') (second : Unfailing r n' n'') : Unfailing r n n'' := by
  refine ⟨second.1.trans first.1, fun same => ?_⟩
  have := first.1
  have := second.1
  exact trans (first.2 (by omega)) (second.2 (by omega))

theorem Unfailing.mono {r' : Network → Network → Prop} (imp : r n n' → r' n n')
    (unfailing : Unfailing r n n') : Unfailing r' n n' :=
  ⟨unfailing.1, imp ∘ unfailing.2⟩

theorem Unfailing.holds (unfailing : Unfailing r n n') (same : n'.toFail = n.toFail) : r n n' :=
  unfailing.2 same

theorem Unfailing.of_same (same : n'.faults = n.faults) (holds : r n n') : Unfailing r n n' :=
  ⟨Nat.le_of_eq (by rw [toFail, toFail, same]), fun _ => holds⟩

/-- A timer is set, or the call failed. -/
theorem setTimer_cases (p : Nat) (t : Timer) (n : Network) :
    (∃ fault faults, n.setTimer p t = (.error fault, { n with faults }) ∧
      ({ n with faults } : Network).toFail < n.toFail) ∨
    ∃ faults, n.setTimer p t = (.ok (), { n with faults, link := n.link.setTimer p t }) ∧
      ({ n with faults, link := n.link.setTimer p t } : Network).toFail = n.toFail := by
  rcases FaultRule.left_apply n.faults.set with ⟨fault, rs, eq, less⟩ | ⟨rs, eq, same⟩
  · refine .inl ⟨fault, { n.faults with set := rs }, ?_, ?_⟩
    · simp only [setTimer, Faults.next, eq]
    · simp only [toFail]
      omega
  · refine .inr ⟨{ n.faults with set := rs }, ?_, ?_⟩
    · simp only [setTimer, Faults.next, eq]
    · simp only [toFail, same]

/-- A timer is drained, or the call failed. -/
theorem drain_cases (p : Nat) (n : Network) :
    (∃ r faults, n.drain p = (r, { n with faults }) ∧
      ({ n with faults } : Network).toFail < n.toFail) ∨
    ∃ faults, n.drain p = (.ok (), { n with
        faults, link := n.link.setTimer p ((n.link.timer p).drained n.now) }) ∧
      ({ n with faults, link := n.link.setTimer p ((n.link.timer p).drained n.now) }
        : Network).toFail = n.toFail := by
  rcases FaultRule.left_apply n.faults.read with ⟨fault, rs, eq, less⟩ | ⟨rs, eq, same⟩
  · refine .inl ⟨if fault = .wouldBlock then .ok () else .error fault,
      { n.faults with read := rs }, ?_, ?_⟩
    · simp only [drain, Faults.next, eq]
    · simp only [toFail]
      omega
  · refine .inr ⟨{ n.faults with read := rs }, ?_, ?_⟩
    · simp only [drain, Faults.next, eq]
    · simp only [toFail, same]

/-! ## Timers and mailboxes -/

theorem timer_setTimer (l : Link) (p q : Nat) (t : Timer) : (l.setTimer p t).timer q =
    if p = q ∧ q ∈ l.taps.keys then t else l.timer q := by
  simp only [Link.timer, Link.setTimer, Table.get?_modify, Table.mem_keys_iff]
  by_cases same : p = q
  · cases l.taps.get? q <;> simp [same]
  · simp [same]

@[simp] theorem timer_clearInbox (l : Link) (p q : Nat) :
    (l.clearInbox p).timer q = l.timer q := by
  simp only [Link.timer, Link.clearInbox, Table.get?_modify]
  split
  · cases l.taps.get? q <;> rfl
  · rfl

@[simp] theorem timer_deliver (l : Link) (k : Packet) (p q : Nat) :
    (l.deliver k p).timer q = l.timer q := by
  simp only [Link.timer, Link.deliver, Table.get?_modify]
  split
  · cases l.taps.get? q <;> rfl
  · rfl

theorem timer_detach (l : Link) {p q : Nat} (other : q ≠ p) : (l.detach p).timer q = l.timer q := by
  rw [Link.timer, Link.detach, Table.get?_erase, if_neg (Ne.symm other), Link.timer]

/-- A new tap has a timer that is not set, as if it were not there. -/
theorem timer_attach (l : Link) {q : Nat} (free : l.nextTap ∉ l.taps.keys) :
    l.attach.timer q = l.timer q := by
  rw [Link.timer, Link.attach, Table.get?_insert, Link.timer]
  split
  · next new =>
    rw [Table.mem_keys_iff, Option.not_isSome_iff_eq_none, new] at free
    rw [free]
    rfl
  · rfl

theorem timer_congr {l l' : Link} (taps : l'.taps = l.taps) (q : Nat) :
    l'.timer q = l.timer q := by
  rw [Link.timer, Link.timer, taps]

theorem inbox_congr {l l' : Link} (taps : l'.taps = l.taps) (q : Nat) :
    l'.inbox q = l.inbox q := by
  rw [Link.inbox, Link.inbox, taps]

/-- The timer of a tap goes off at a time. -/
def GoesOff (q : Nat) (t : Nat) (n : Network) : Prop := (n.link.timer q).expiry = some t

theorem isReadable_iff : n.isReadable q = true ↔ ∃ t, GoesOff q t n ∧ t ≤ n.now := by
  simp [isReadable, Timer.isReadable, GoesOff, Option.any_eq_true]

/-- Between two networks a tap was left alone, but for the clock, or its timer has gone
off. -/
structure Stirred (q : Nat) (n n' : Network) : Prop where
  now : n.now ≤ n'.now
  tap : n'.link.inbox q = n.link.inbox q ∧ (n'.link.timer q).expiry = (n.link.timer q).expiry ∨
    n'.isReadable q = true

theorem Stirred.of_same (now : n.now ≤ n'.now) (inbox : n'.link.inbox q = n.link.inbox q)
    (timer : n'.link.timer q = n.link.timer q) : Stirred q n n' :=
  ⟨now, .inl ⟨inbox, congrArg Timer.expiry timer⟩⟩

theorem Stirred.refl (q : Nat) (n : Network) : Stirred q n n := .of_same le_rfl rfl rfl

/-- A timer that has gone off stays so until somebody looks. -/
theorem Stirred.readable (stirred : Stirred q n n') (before : n.isReadable q = true) :
    n'.isReadable q = true := by
  rcases stirred.tap with ⟨_, expiry⟩ | after
  · obtain ⟨t, goes, due⟩ := isReadable_iff.mp before
    exact isReadable_iff.mpr ⟨t, expiry.trans goes, due.trans stirred.now⟩
  · exact after

theorem Stirred.trans (first : Stirred q n n') (second : Stirred q n' n'') :
    Stirred q n n'' := by
  refine ⟨first.now.trans second.now, ?_⟩
  rcases first.tap with ⟨inbox, expiry⟩ | between
  · rcases second.tap with ⟨inbox', expiry'⟩ | after
    · exact .inl ⟨inbox'.trans inbox, expiry'.trans expiry⟩
    · exact .inr after
  · exact .inr (second.readable between)

/-- Setting a timer leaves the other taps alone. -/
theorem stirred_setTimer (other : q ≠ p) (t : Timer) (n : Network) :
    Unfailing (Stirred q) n (n.setTimer p t).2 := by
  rcases setTimer_cases p t n with ⟨fault, faults, eq, less⟩ | ⟨faults, eq, same⟩
  · rw [eq]
    exact ⟨less.le, fun same => absurd same less.ne⟩
  · rw [eq]
    refine ⟨same.le, fun _ => .of_same le_rfl (Link.inbox_setTimer ..) ?_⟩
    rw [timer_setTimer, if_neg fun both => other both.1.symm]

theorem stirred_drain (other : q ≠ p) (n : Network) :
    Unfailing (Stirred q) n (n.drain p).2 := by
  rcases drain_cases p n with ⟨_, faults, eq, less⟩ | ⟨faults, eq, same⟩
  · rw [eq]
    exact ⟨less.le, fun same => absurd same less.ne⟩
  · rw [eq]
    refine ⟨same.le, fun _ => .of_same le_rfl (Link.inbox_setTimer ..) ?_⟩
    rw [timer_setTimer, if_neg fun both => other both.1.symm]

/-- Whoever is woken and is there has a timer that has gone off. -/
theorem wake_cases (p : Nat) (n : Network) : (n.wake p).toFail < n.toFail ∨
    (n.wake p).toFail = n.toFail ∧ (p ∈ n.link.taps.keys → (n.wake p).isReadable p = true) ∧
      ∀ q, q ≠ p ∨ q ∉ n.link.taps.keys → (n.wake p).link.timer q = n.link.timer q := by
  rcases setTimer_cases p (.after n.now 0) n with ⟨fault, faults, eq, less⟩ | ⟨faults, eq, same⟩
  · refine .inl ?_
    rw [wake, arm, eq]
    exact less
  · refine .inr ?_
    rw [wake, arm, eq]
    refine ⟨same, fun attached => isReadable_iff.mpr ⟨n.now, ?_, le_rfl⟩, fun q elsewhere => ?_⟩
    · rw [GoesOff, timer_setTimer, if_pos ⟨rfl, attached⟩]
      rfl
    · rw [timer_setTimer, if_neg]
      rintro ⟨rfl, attached⟩
      exact elsewhere.elim (absurd rfl) (absurd attached)

theorem stirred_wake (p q : Nat) (n : Network) : Unfailing (Stirred q) n (n.wake p) := by
  have quiet := quiet_wake p n
  rcases wake_cases p n with less | ⟨same, woken, alone⟩
  · exact ⟨less.le, fun same => absurd same less.ne⟩
  · refine ⟨same.le, fun _ => ⟨quiet.now.ge, ?_⟩⟩
    by_cases own : q = p ∧ q ∈ n.link.taps.keys
    · obtain ⟨rfl, attached⟩ := own
      exact .inr (woken attached)
    · exact .inl ⟨quiet.inbox q, congrArg Timer.expiry (alone q (not_and_or.mp own))⟩

/-- Whoever gets a packet is woken. -/
theorem stirred_deliver (k : Packet) (n : Network) (p q : Nat) :
    Unfailing (Stirred q) n (n.deliver k p) := by
  have still := still_deliver k n p
  have put : (n.onLink (.deliver k p)).link.taps.keys = n.link.taps.keys := Table.keys_modify ..
  rcases wake_cases p (n.onLink (.deliver k p)) with less | ⟨same, woken, alone⟩
  · exact ⟨less.le, fun same => absurd same less.ne⟩
  · refine ⟨same.le, fun _ => ⟨still.now.ge, ?_⟩⟩
    rw [put] at woken alone
    by_cases own : q = p ∧ q ∈ n.link.taps.keys
    · obtain ⟨rfl, attached⟩ := own
      exact .inr (woken attached)
    · refine .inl ⟨?_, ?_⟩
      · rw [inbox_deliver, if_neg fun both => own ⟨both.1.symm, both.2⟩]
      · rw [deliver, alone q (not_and_or.mp own)]
        exact congrArg Timer.expiry (timer_deliver ..)

theorem stirred_deliverAll (k : Packet) (ps : List Nat) (q : Nat) (n : Network) :
    Unfailing (Stirred q) n (ps.foldl (deliver k) n) := by
  induction ps generalizing n with
  | nil => exact .of_same rfl (.refl q n)
  | cons p ps ih => exact (stirred_deliver k n p q).trans Stirred.trans (ih _)

theorem stirred_send (p : Nat) (k : Packet) (q : Nat) (n : Network) :
    Unfailing (Stirred q) n (n.send p k) :=
  have recorded : Unfailing (Stirred q) n (n.onLink (.record k)) :=
    .of_same rfl (.of_same le_rfl rfl rfl)
  recorded.trans Stirred.trans (stirred_deliverAll k _ q _)

theorem stirred_claim (k : Packet) (q : Nat) (n : Network) :
    Unfailing (Stirred q) n (n.claim k) :=
  have recorded : Unfailing (Stirred q) n (n.onLink (.record k)) :=
    .of_same rfl (.of_same le_rfl rfl rfl)
  recorded.trans Stirred.trans (stirred_deliverAll k _ q _)

theorem stirred_wakeAll (ps : List Nat) (q : Nat) (n : Network) :
    Unfailing (Stirred q) n (ps.foldl (fun n p => n.wake p) n) := by
  induction ps generalizing n with
  | nil => exact .of_same rfl (.refl q n)
  | cons p ps ih => exact (stirred_wake p q n).trans Stirred.trans (ih _)

/-- Each of the taps that are woken has a timer that has gone off. -/
theorem readable_wakeAll {ps : List Nat} (member : q ∈ ps) (attached : q ∈ n.link.taps.keys) :
    Unfailing (fun _ n' => n'.isReadable q = true) n (ps.foldl (fun n p => n.wake p) n) := by
  induction ps generalizing n with
  | nil => cases member
  | cons p ps ih =>
    have rest := stirred_wakeAll ps q (n.wake p)
    by_cases own : q = p
    · subst own
      rcases wake_cases q n with less | ⟨same, woken, _⟩
      · exact ⟨rest.1.trans less.le, fun same => absurd same (rest.1.trans_lt less).ne⟩
      · refine ⟨rest.1.trans same.le, fun unfailing => ?_⟩
        exact (rest.2 (unfailing.trans same.symm)).readable (woken attached)
    · have later := ih ((List.mem_cons.mp member).resolve_left own)
        ((quiet_wake p n).taps.symm ▸ attached)
      have first := (stirred_wake p q n).1
      exact ⟨later.1.trans first, fun same => later.2 (later.1.antisymm (first.trans same.ge))⟩

theorem stirred_setCarrier (up : Bool) (q : Nat) (n : Network) :
    Unfailing (Stirred q) n (n.setCarrier up) := by
  unfold setCarrier
  split
  · exact .of_same rfl (.refl q n)
  · split
    · exact .of_same rfl (.of_same le_rfl rfl rfl)
    · have dropped : Unfailing (Stirred q) n
          ((n.note (.carrier up)).onLink fun l => { l with carrier := up }) :=
        .of_same rfl (.of_same le_rfl rfl rfl)
      exact dropped.trans Stirred.trans (stirred_wakeAll _ q _)

/-- When the carrier drops, everybody has to look. -/
theorem readable_setCarrier (up : n.link.carrier = true) (attached : q ∈ n.link.taps.keys) :
    Unfailing (fun _ n' => n'.isReadable q = true) n (n.setCarrier false) := by
  have drops : ¬ n.link.carrier = false := by simp [up]
  rw [setCarrier, if_neg drops]
  exact readable_wakeAll attached attached

end Network
end LinkLocal.Simulation
