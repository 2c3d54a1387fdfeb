import LinkLocal.Proofs.Network.Conduct

/-! Everything that can happen on a link at one stroke. Detectors come and go, one of
them is at work or announces, or something happens beside them all: a packet of
another host, an address taken or released by hand, the carrier, the clock. Whatever
it is, the detectors that it is not about stay as they are. -/
namespace LinkLocal.Simulation.Network

variable {n n' n'' : Network} {p q : Nat} {a : IPv4} {m : LinkAddress} {c d : Probe}

/-! ## Beside the detectors -/

/-- Between two networks no detector was at work. New ones may have come, at rest, and
new mail. -/
structure Aside (n n' : Network) : Prop where
  prober : ∀ q, n'.prober q = n.prober q
  attached : ∀ q ∈ n.probers.keys, q ∈ n'.probers.keys
  mail : ∀ q, n.link.inbox q <+: n'.link.inbox q
  formed : WellFormed n → WellFormed n'

theorem Aside.trans (first : Aside n n') (second : Aside n' n'') : Aside n n'' where
  prober q := (second.prober q).trans (first.prober q)
  attached q held := second.attached q (first.attached q held)
  mail q := (first.mail q).trans (second.mail q)
  formed := second.formed ∘ first.formed

theorem Still.formed (still : Still n n') (formed : WellFormed n) : WellFormed n' where
  attached q := by rw [still.probers, still.taps]; exact formed.attached q
  earlier q member := by
    rw [still.nextTap]
    exact formed.earlier q (still.taps ▸ member)
  configured q working := by
    rw [still.prober] at working ⊢
    exact formed.configured q working

theorem Still.aside (still : Still n n') (mail : ∀ q, n.link.inbox q <+: n'.link.inbox q) :
    Aside n n' :=
  ⟨still.prober, fun _ held => still.probers ▸ held, mail, still.formed⟩

theorem Quiet.aside (quiet : Quiet n n') : Aside n n' :=
  quiet.toStill.aside fun q => quiet.inbox q ▸ List.prefix_refl _

theorem aside_claim (k : Packet) (n : Network) : Aside n (n.claim k) := by
  refine (still_claim k n).aside fun q => ?_
  rw [inbox_claim]
  split
  · exact List.prefix_append _ _
  · exact List.prefix_refl _

/-- Who holds an address, the carrier and the clock are nothing to a detector at rest. -/
private theorem aside_same (probers : n'.probers = n.probers) (taps : n'.link.taps = n.link.taps)
    (nextTap : n'.link.nextTap = n.link.nextTap) : Aside n n' := by
  have same (q : Nat) : n'.prober q = n.prober q := by
    rw [Network.prober, Network.prober, probers]
  refine ⟨same, fun q held => probers ▸ held, fun q => ?_, fun formed => ⟨?_, ?_, ?_⟩⟩
  · have mail : n'.link.inbox q = n.link.inbox q := by rw [Link.inbox, Link.inbox, taps]
    exact mail ▸ List.prefix_refl _
  · rw [probers, taps]
    exact formed.attached
  · rw [taps, nextTap]
    exact formed.earlier
  · intro q working
    rw [same] at working ⊢
    exact formed.configured q working

theorem aside_occupy (a : IPv4) (m : LinkAddress) (n : Network) : Aside n (n.occupy a m) :=
  aside_same rfl rfl rfl

theorem aside_release (a : IPv4) (n : Network) : Aside n (n.release a) :=
  aside_same rfl rfl rfl

theorem aside_advance (nanoseconds : Nat) (n : Network) : Aside n (n.advance nanoseconds) :=
  aside_same rfl rfl rfl

theorem quiet_wakeAll (ps : List Nat) (n : Network) :
    Quiet n (ps.foldl (fun n p => n.wake p) n) := by
  induction ps generalizing n with
  | nil => exact Quiet.refl n
  | cons p ps ih => exact (quiet_wake p n).trans (ih _)

theorem aside_setCarrier (up : Bool) (n : Network) : Aside n (n.setCarrier up) := by
  have raised : Aside n ((n.note (.carrier up)).onLink fun l => { l with carrier := up }) :=
    aside_same rfl rfl rfl
  unfold setCarrier
  split
  · exact (Quiet.refl n).aside
  · split
    · exact raised
    · exact raised.trans (quiet_wakeAll _ _).aside

theorem carrier_setCarrier (up : Bool) (n : Network) : (n.setCarrier up).link.carrier = up := by
  unfold setCarrier
  split
  · assumption
  · split
    · rfl
    · exact (quiet_wakeAll _ _).carrier

theorem owner_setCarrier (up : Bool) (n : Network) (a : IPv4) :
    (n.setCarrier up).link.owner a = n.link.owner a := by
  unfold setCarrier
  split
  · rfl
  · split
    · rfl
    · exact (quiet_wakeAll _ _).owner a

/-! ## Coming and going -/

/-- An attempt to attach a detector fails without a trace, or takes the next tap. -/
theorem attach_cases (n : Network) : Quiet n n.attach.2 ∨ ∃ faults, n.attach.2 =
    { n with faults, link := n.link.attach, probers := n.probers.insert n.link.nextTap {} } := by
  unfold attach
  split
  · exact .inl (quiet_faults _ n)
  · exact .inr ⟨_, rfl⟩

theorem owner_attach (n : Network) (a : IPv4) :
    n.attach.2.link.owner a = n.link.owner a := by
  rcases attach_cases n with quiet | ⟨faults, eq⟩
  · exact quiet.owner a
  · rw [eq]; rfl

/-- A new detector is at rest and without mail, like one that is not there. -/
theorem aside_attach (formed : WellFormed n) : Aside n n.attach.2 := by
  rcases attach_cases n with quiet | ⟨faults, eq⟩
  · exact quiet.aside
  have free : n.link.nextTap ∉ n.link.taps.keys := fun member =>
    Nat.lt_irrefl _ (formed.earlier _ member)
  have absent : n.prober n.link.nextTap = {} := by
    have nobody := mt (formed.attached _).mp free
    rw [Table.mem_keys_iff, Option.not_isSome_iff_eq_none] at nobody
    rw [Network.prober, nobody]
    rfl
  have same (q : Nat) : n.attach.2.prober q = n.prober q := by
    rw [eq, Network.prober, Table.get?_insert]
    split
    · next new => exact (new ▸ absent).symm
    · rfl
  refine ⟨same, fun q held => ?_, fun q => ?_, fun _ => ⟨fun q => ?_, fun q member => ?_, ?_⟩⟩
  · rw [eq]
    exact (Table.mem_keys_insert ..).mpr (.inr held)
  · rw [eq, Link.inbox_attach]
    split
    · next new => exact Link.inbox_of_not_mem n.link q (new ▸ free) ▸ List.prefix_refl _
    · exact List.prefix_refl _
  · rw [eq, Table.mem_keys_insert, formed.attached]
    exact (Table.mem_keys_insert ..).symm
  · rw [eq] at member ⊢
    rcases (Table.mem_keys_insert ..).mp member with rfl | earlier
    · exact Nat.lt_succ_self _
    · exact Nat.lt_succ_of_lt (formed.earlier q earlier)
  · intro q working
    rw [same] at working ⊢
    exact formed.configured q working

/-- Halting announces nothing. -/
theorem conduct_halt (p : Nat) (n : Network) : Conduct p n (n.halt p) :=
  .of_moves (Moves.refl n).halt fun _ announced =>
    absurd announced (not_announced_of_idle (phase_halt p n))

theorem prober_close_self (p : Nat) (n : Network) : (n.close p).prober p = {} := by
  rw [close, Network.prober, Table.get?_erase, if_pos rfl]
  rfl

theorem prober_close_of_ne (n : Network) (other : q ≠ p) :
    (n.close p).prober q = n.prober q := by
  rw [← (conduct_halt p n).apart.prober q other, close, Network.prober, Table.get?_erase,
    if_neg (Ne.symm other), Network.prober]

/-- Whoever is closed gives up its address, and is gone. -/
theorem yielding_close (p : Nat) (n : Network) : Yielding n (n.close p) := by
  refine (conduct_halt p n).yielding.trans (.of_same (fun q c => ?_) fun _ => rfl)
  by_cases same : q = p
  · subst same
    refine iff_of_false (fun after => ?_) (not_announced_of_idle (phase_halt q n))
    rw [Announced, prober_close_self] at after
    cases after.1
  · refine announced_congr ?_
    rw [prober_close_of_ne n same, (conduct_halt p n).apart.prober q same]

theorem mail_close (n : Network) (other : q ≠ p) :
    n.link.inbox q <+: (n.close p).link.inbox q := by
  have detached : (n.close p).link.inbox q = (n.halt p).link.inbox q :=
    (Link.inbox_detach ..).trans (if_neg (Ne.symm other))
  exact detached ▸ (conduct_halt p n).apart.mail q other

theorem attached_close (n : Network) (other : q ≠ p) (held : q ∈ n.probers.keys) :
    q ∈ (n.close p).probers.keys :=
  (Table.mem_keys_erase ..).mpr ⟨other, (conduct_halt p n).apart.attached ▸ held⟩

theorem formed_close (p : Nat) (formed : WellFormed n) : WellFormed (n.close p) := by
  have halted := (conduct_halt p n).formed formed
  refine ⟨fun q => ?_, fun q member => ?_, fun q working => ?_⟩
  · refine (Table.mem_keys_erase ..).trans (Iff.trans ?_ (Table.mem_keys_erase ..).symm)
    exact and_congr_right fun _ => halted.attached q
  · exact halted.earlier q ((Table.mem_keys_erase ..).mp member).2
  · by_cases same : q = p
    · rw [same, prober_close_self] at working
      exact absurd rfl working
    · rw [prober_close_of_ne n same] at working ⊢
      exact formed.configured q working

/-! ## Happenings -/

theorem Announcing.formed (announcing : Announcing p c n n') (formed : WellFormed n) :
    WellFormed n' :=
  formed.of_apart announcing.apart fun _ => ⟨c, announcing.announced.2⟩

/-- What can happen on a link: which detector it is about, and whether somebody's hand
may be at work who gives and takes addresses. -/
inductive Happening : Option Nat → Bool → Network → Network → Prop where
  /-- Something happens beside the detectors. -/
  | aside {byHand : Bool} {n n' : Network} (h : Aside n n')
      (owner : byHand = false → ∀ a, n'.link.owner a = n.link.owner a) :
      Happening none byHand n n'
  /-- A detector is at work. -/
  | work {p : Nat} {n n' : Network} (h : Conduct p n n') : Happening (some p) false n n'
  /-- A detector announces its address. -/
  | announce {p : Nat} {c : Probe} {n n' : Network} (h : Announcing p c n n') :
      Happening (some p) false n n'
  /-- A detector goes, after some work. -/
  | close {p : Nat} {n n' : Network} (h : Conduct p n n') :
      Happening (some p) false n (n'.close p)

namespace Happening

variable {about : Option Nat} {byHand : Bool}

theorem formed (happening : Happening about byHand n n') (formed : WellFormed n) :
    WellFormed n' := by
  cases happening with
  | aside h _ => exact h.formed formed
  | work h => exact h.formed formed
  | announce h => exact h.formed formed
  | close h => exact formed_close _ (h.formed formed)

private theorem other {p : Nat} (elsewhere : some p ≠ some q) : q ≠ p :=
  fun same => elsewhere (same ▸ rfl)

/-- A detector is as it was, whatever happens to others. -/
theorem prober (happening : Happening about byHand n n') (elsewhere : about ≠ some q) :
    n'.prober q = n.prober q := by
  cases happening with
  | aside h _ => exact h.prober q
  | work h => exact h.apart.prober q (other elsewhere)
  | announce h => exact h.apart.prober q (other elsewhere)
  | close h => rw [prober_close_of_ne _ (other elsewhere), h.apart.prober q (other elsewhere)]

/-- A detector stays, whatever happens to others. -/
theorem attached (happening : Happening about byHand n n') (elsewhere : about ≠ some q)
    (held : q ∈ n.probers.keys) : q ∈ n'.probers.keys := by
  cases happening with
  | aside h _ => exact h.attached q held
  | work h => exact h.apart.attached ▸ held
  | announce h => exact h.apart.attached ▸ held
  | close h => exact attached_close _ (other elsewhere) (h.apart.attached ▸ held)

/-- Whatever happens to others adds to the mail of a detector at most. -/
theorem mail (happening : Happening about byHand n n') (elsewhere : about ≠ some q) :
    n.link.inbox q <+: n'.link.inbox q := by
  cases happening with
  | aside h _ => exact h.mail q
  | work h => exact h.apart.mail q (other elsewhere)
  | announce h => exact h.apart.mail q (other elsewhere)
  | close h => exact (h.apart.mail q (other elsewhere)).trans (mail_close _ (other elsewhere))

/-- Whatever a detector does, it does not touch the carrier. -/
theorem carrier (happening : Happening (some p) byHand n n') :
    n'.link.carrier = n.link.carrier := by
  cases happening with
  | work h => exact h.apart.carrier
  | announce h => exact h.apart.carrier
  | close h => exact (conduct_halt p _).apart.carrier.trans h.apart.carrier

/-- Without anybody's hand, nobody announces, or one detector does. -/
theorem yielding_or_announcing (happening : Happening about false n n') :
    Yielding n n' ∨ ∃ p c, Announcing p c n n' := by
  cases happening with
  | aside h owner => exact .inl (.of_same (fun q c => announced_congr (h.prober q)) (owner rfl))
  | work h => exact .inl h.yielding
  | announce h => exact .inr ⟨_, _, h⟩
  | close h => exact .inl (h.yielding.trans (yielding_close _ _))

end Happening

end LinkLocal.Simulation.Network
