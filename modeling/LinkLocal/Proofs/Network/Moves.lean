import LinkLocal.Proofs.Network.Frame
import Mathlib.Logic.Relation

/-! All that a detector can do to its network, apart from announcing: every
operation of a detector is a chain of a few moves. What each move keeps is kept by
every operation, whichever branches it takes and whichever of its calls fail. -/
namespace LinkLocal.Simulation

/-- Whether a detector has announced and defends. -/
def Phase.isAnnounced : Phase → Bool
  | .announced .. => true
  | _ => false

namespace Network

/-- The detector at a tap has announced the address of this probe and defends it. -/
def Announced (p : Nat) (c : Probe) (n : Network) : Prop :=
  (n.prober p).phase.isAnnounced = true ∧ (n.prober p).probe = some c

instance (p : Nat) (c : Probe) (n : Network) : Decidable (Announced p c n) :=
  inferInstanceAs (Decidable (_ ∧ _))

/-- Ends whatever the detector at a tap is doing, apart from its timer. -/
def retire (p : Nat) (n : Network) : Network := (n.giveUp p).enter p .idle

/-- One move of the detector at a tap. -/
inductive Move (p : Nat) : Network → Network → Prop where
  /-- It uses its timer, meets a fault, or leaves a notice. -/
  | quiet {n n' : Network} (h : Quiet n n') : Move p n n'
  /-- It takes its mail. -/
  | collect {n : Network} : Move p n (n.onLink (.clearInbox p))
  /-- It begins a probe, at rest. -/
  | begin {n : Network} {deadline : Nat} {c : Probe} (idle : (n.prober p).phase = .idle) :
      Move p n (n.onProber p fun _ => ⟨.probing deadline, some c, {}⟩)
  /-- It notes down a finding, or hands one over. -/
  | find {n : Network} (found : Queue Detection → Queue Detection) :
      Move p n (n.onProber p fun s => { s with found := found s.found })
  /-- Its probe ends well. -/
  | succeed {n : Network} {deadline : Nat} (probing : (n.prober p).phase = .probing deadline) :
      Move p n (n.enter p .ready)
  /-- It answers a claim to its address. -/
  | defend {n : Network} {policy : DefendPolicy} {last : Option Nat} {c : Probe}
      (announced : (n.prober p).phase = .announced policy last)
      (probe : (n.prober p).probe = some c) :
      Move p n ((n.enter p (.announced policy (some n.now))).send p (announcement c))
  /-- It ends whatever it is doing. -/
  | retire {n : Network} : Move p n (n.retire p)

/-- A chain of moves of the detector at a tap. -/
def Moves (p : Nat) : Network → Network → Prop := Relation.ReflTransGen (Move p)

variable {n n' n'' : Network} {p q : Nat} {a : IPv4} {c d : Probe}

namespace Moves

theorem refl (n : Network) : Moves p n n := Relation.ReflTransGen.refl

theorem trans (first : Moves p n n') (second : Moves p n' n'') : Moves p n n'' :=
  Relation.ReflTransGen.trans first second

theorem move (moves : Moves p n n') (last : Move p n' n'') : Moves p n n'' :=
  Relation.ReflTransGen.tail moves last

theorem quiet (moves : Moves p n n') (h : Quiet n' n'') : Moves p n n'' := moves.move (.quiet h)

theorem note (moves : Moves p n n') (x : Notice) : Moves p n (n'.note x) :=
  moves.quiet (quiet_note x n')

theorem report (moves : Moves p n n') (f : Detection) : Moves p n (n'.report p f) :=
  moves.move (.find fun found => found.push f)

/-- What holds between a network and itself, is handed on, and holds across each
move, holds across every chain of moves. -/
theorem lift {r : Network → Network → Prop} (refl : ∀ n, r n n)
    (trans : ∀ {n n' n''}, r n n' → r n' n'' → r n n'')
    (step : ∀ {n n'}, Move p n n' → r n n') (moves : Moves p n n') : r n n' := by
  unfold Moves at moves
  induction moves with
  | refl => exact refl n
  | tail _ last ih => exact trans ih (step last)

end Moves

/-! ## Every operation is a chain of moves -/

/-- Halting is retiring, as far as anybody can see. -/
theorem quiet_halt (p : Nat) (n : Network) : Quiet (n.retire p) (n.halt p) := by
  have disarmed : Quiet (n.retire p) ((n.retire p).disarm p).2 := quiet_setTimer p _ _
  unfold halt retire at *
  split
  · next eq => rwa [eq] at disarmed
  · next eq =>
    rw [eq] at disarmed
    exact disarmed.trans (quiet_note _ _)

theorem Moves.halt (moves : Moves p n n') : Moves p n (n'.halt p) :=
  (moves.move .retire).quiet (quiet_halt p n')

theorem moves_face (k : Packet) (probe : (n.prober p).probe = some c) :
    Moves p n (n.face p c k) := by
  unfold face
  split
  · exact .refl n
  · exact (((Moves.refl n).note _).report _).halt
  · exact (((Moves.refl n).note _).report _).halt
  · next announced =>
    split
    · exact (((Moves.refl n).move (.defend announced probe)).note _).report _
    · exact (((Moves.refl n).note _).report _).halt

theorem probe_retire (p q : Nat) (n : Network) :
    ((n.retire p).prober q).probe = (n.prober q).probe := by
  have given : (n.giveUp p).prober q = n.prober q := by
    unfold giveUp
    split <;> rfl
  have entered := onProber_keeps (n := n.giveUp p) (p := p) (g := Prober.probe)
    (f := fun s => { s with phase := .idle }) (fun _ => rfl) q
  exact entered.trans (congrArg Prober.probe given)

theorem probe_halt (p q : Nat) (n : Network) :
    ((n.halt p).prober q).probe = (n.prober q).probe := by
  rw [(quiet_halt p n).prober, probe_retire]

theorem phase_find (p q : Nat) (found : Queue Detection → Queue Detection) (n : Network) :
    ((n.onProber p fun s => { s with found := found s.found }).prober q).phase =
      (n.prober q).phase :=
  onProber_keeps (g := Prober.phase) (f := fun s => { s with found := found s.found })
    (fun _ => rfl) q

theorem probe_find (p q : Nat) (found : Queue Detection → Queue Detection) (n : Network) :
    ((n.onProber p fun s => { s with found := found s.found }).prober q).probe =
      (n.prober q).probe :=
  onProber_keeps (g := Prober.probe) (f := fun s => { s with found := found s.found })
    (fun _ => rfl) q

theorem probe_report (p q : Nat) (f : Detection) (n : Network) :
    ((n.report p f).prober q).probe = (n.prober q).probe :=
  probe_find p q (fun found => found.push f) n

theorem probe_enter (p q : Nat) (phase : Phase) (n : Network) :
    ((n.enter p phase).prober q).probe = (n.prober q).probe :=
  onProber_keeps (g := Prober.probe) (f := fun s => { s with phase }) (fun _ => rfl) q

/-- Facing a claim does not change what a detector is probing for. -/
theorem probe_face (p q : Nat) (c : Probe) (k : Packet) (n : Network) :
    ((n.face p c k).prober q).probe = (n.prober q).probe := by
  unfold face
  split
  · rfl
  · rw [probe_halt, probe_report]; rfl
  · rw [probe_halt, probe_report]; rfl
  · split
    · rw [probe_report, (quiet_note _ _).prober, (still_send _ _ _).prober, probe_enter]
    · rw [probe_halt, probe_report]; rfl

/-- Attending to packets, one of them first. -/
theorem attend_cons (p : Nat) (c : Probe) (k : Packet) (ks : List Packet) (n : Network) :
    n.attend p c (k :: ks) = (if concerns c k then n.face p c k else n).attend p c ks := rfl

theorem moves_attend (ks : List Packet) (probe : (n.prober p).probe = some c) :
    Moves p n (n.attend p c ks) ∧ ((n.attend p c ks).prober p).probe = some c := by
  induction ks generalizing n with
  | nil => exact ⟨.refl n, probe⟩
  | cons k ks ih =>
    rw [attend_cons]
    split
    · have kept : ((n.face p c k).prober p).probe = some c := by rw [probe_face, probe]
      exact ⟨(moves_face k probe).trans (ih kept).1, (ih kept).2⟩
    · exact ih probe

theorem moves_conclude (p : Nat) (c : Probe) (n : Network) : Moves p n (n.conclude p c).2 := by
  unfold conclude
  split
  · next deadline probing =>
    split
    · have armed : Quiet n (n.arm p (deadline - n.now)).2 := quiet_setTimer p _ n
      split <;> next eq => rw [eq] at armed; exact (Moves.refl n).quiet armed
    · split
      · exact (((Moves.refl n).note _).report _).halt
      · exact (((Moves.refl n).note _).move (.succeed probing)).report _
  · exact .refl n

theorem moves_start (p : Nat) (c : Probe) (n : Network) : Moves p n (n.start p c).2 := by
  have armed : Quiet n (n.arm p c.timeout.nanoseconds).2 := quiet_setTimer p _ n
  unfold start
  split
  · exact .refl n
  · next idle =>
    split
    · exact .refl n
    · split
      · exact .refl n
      · split
        · exact .refl n
        · split
          · next eq => rw [eq] at armed; exact (Moves.refl n).quiet armed
          · next n' eq =>
            rw [eq] at armed
            have rest : ((n'.onLink (.clearInbox p)).prober p).phase = .idle := by
              rw [show (n'.onLink (.clearInbox p)).prober p = n.prober p from armed.prober p]
              exact Decidable.not_not.mp idle
            exact ((((Moves.refl n).quiet armed).move .collect).move (.begin rest)).note _

theorem moves_stop (p : Nat) (n : Network) : Moves p n (n.stop p) :=
  (Moves.refl n).halt.move (.find fun _ => {})

theorem moves_poll (p : Nat) (n : Network) : Moves p n (n.poll p).2 := by
  unfold poll
  split
  · next rest _ => exact (Moves.refl n).move (.find fun _ => rest)
  · exact .refl n
  · exact .refl n

/-- How a dispatch can go: it fails to drain the timer, finds the detector at rest or
without a probe, finds no carrier, or attends to the mail and looks at the deadline. -/
inductive Dispatched (p : Nat) (n : Network) : Except DetectorFault Unit → Network → Prop where
  | fault {f : SystemFault} {n₁ : Network} (drained : n.drain p = (.error f, n₁)) :
      Dispatched p n (.error (.io f)) n₁
  | resting {u : Unit} {n₁ : Network} (drained : n.drain p = (.ok u, n₁))
      (idle : (n.prober p).phase = .idle) :
      Dispatched p n (.ok ()) (n₁.onLink (.clearInbox p))
  | unconfigured {u : Unit} {n₁ : Network} (drained : n.drain p = (.ok u, n₁))
      (working : (n.prober p).phase ≠ .idle) (nothing : (n.prober p).probe = none) :
      Dispatched p n (.error (.unexpected .runningUnconfigured)) (n₁.onLink (.clearInbox p))
  | carrierless {u : Unit} {n₁ : Network} {c : Probe} (drained : n.drain p = (.ok u, n₁))
      (working : (n.prober p).phase ≠ .idle) (probe : (n.prober p).probe = some c)
      (carrier : n.link.carrier = false) :
      Dispatched p n (.ok ()) ((((n₁.onLink (.clearInbox p)).note (.carrierLost c.address)).report
        p .down).halt p)
  | attended {u : Unit} {n₁ : Network} {c : Probe} (drained : n.drain p = (.ok u, n₁))
      (working : (n.prober p).phase ≠ .idle) (probe : (n.prober p).probe = some c)
      (carrier : n.link.carrier = true) :
      Dispatched p n
        (((n₁.onLink (.clearInbox p)).attend p c (n.link.inbox p)).conclude p c).1
        (((n₁.onLink (.clearInbox p)).attend p c (n.link.inbox p)).conclude p c).2

/-- What a drain that succeeds leaves behind. -/
theorem quiet_of_drained {r : Except SystemFault Unit} (drained : n.drain p = (r, n')) :
    Quiet n n' := by
  have quiet := quiet_drain p n
  rwa [drained] at quiet

private theorem dispatch_goes (p : Nat) (n : Network) :
    Dispatched p n (n.dispatch p).1 (n.dispatch p).2 := by
  unfold dispatch
  split
  · next f n₁ drained => exact .fault drained
  · next u n₁ drained =>
    have quiet := quiet_of_drained drained
    have same : (n₁.onLink (.clearInbox p)).prober p = n.prober p := quiet.prober p
    simp only [same, quiet.inbox p]
    split
    · next idle => exact .resting drained idle
    · next nothing working => exact .unconfigured drained working nothing
    · next c probe working =>
      split
      · next carrier => exact .attended drained working probe (quiet.carrier ▸ carrier)
      · next carrier =>
        refine .carrierless drained working probe ?_
        exact quiet.carrier ▸ Bool.eq_false_iff.mpr carrier

theorem dispatched {r : Except DetectorFault Unit} (eq : n.dispatch p = (r, n')) :
    Dispatched p n r n' := by
  have goes := dispatch_goes p n
  rwa [eq] at goes

theorem moves_dispatch (p : Nat) (n : Network) : Moves p n (n.dispatch p).2 := by
  have collected {r : Except SystemFault Unit} {n₁ : Network} (drained : n.drain p = (r, n₁)) :
      Moves p n (n₁.onLink (.clearInbox p)) :=
    ((Moves.refl n).quiet (quiet_of_drained drained)).move .collect
  rcases eq : n.dispatch p with ⟨r, n'⟩
  cases dispatched eq with
  | fault drained => exact (Moves.refl n).quiet (quiet_of_drained drained)
  | resting drained _ => exact collected drained
  | unconfigured drained _ _ => exact collected drained
  | carrierless drained _ _ _ => exact (((collected drained).note _).report _).halt
  | @attended _ n₁ c drained _ probe _ =>
    have same : ((n₁.onLink (.clearInbox p)).prober p).probe = some c :=
      ((quiet_of_drained drained).prober p).symm ▸ probe
    exact ((collected drained).trans (moves_attend _ same).1).trans (moves_conclude p _ _)

end Network
end LinkLocal.Simulation
