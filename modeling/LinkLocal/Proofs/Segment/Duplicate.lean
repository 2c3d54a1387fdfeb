import LinkLocal.Proofs.Segment

/-! Duplicate addresses. Nothing keeps two hosts from announcing one address, since
both may have probed it at the same time. But they cannot stay unaware of each other:
an announcement is put into every other mailbox, and a detector that takes its mail and
goes on defending has told everybody so. -/
namespace LinkLocal.Simulation

open Network

variable {n n' : Network} {p q : Nat} {c d : Probe}

/-- There is mail for a detector that the host of a probe has the address of that probe. -/
def Network.Warned (p : Nat) (c : Probe) (n : Network) : Prop :=
  ∃ k ∈ n.link.inbox p, k.sender = c.mac ∧ k.target = c.address

instance (p : Nat) (c : Probe) (n : Network) : Decidable (n.Warned p c) :=
  inferInstanceAs (Decidable (∃ k ∈ _, _))

/-- Of any two hosts that defend one address, one has mail from the other. -/
def Network.Detects (n : Network) : Prop :=
  ∀ p q c d, Announced p c n → Announced q d n → c.address = d.address → c.mac ≠ d.mac →
    n.Warned p d ∨ n.Warned q c

namespace Network

theorem Warned.mono (warned : n.Warned p c) (mail : n.link.inbox p <+: n'.link.inbox p) :
    n'.Warned p c := by
  obtain ⟨k, held, rest⟩ := warned
  exact ⟨k, mail.subset held, rest⟩

theorem warned_of_announcement (held : announcement c ∈ n.link.inbox p) : n.Warned p c :=
  ⟨announcement c, held, rfl, rfl⟩

/-- Warnings to others stay; a warning to the detector itself stays or has been answered. -/
theorem Conduct.warned (conduct : Conduct p n n') (formed : WellFormed n) {r : Nat}
    (first : Announced r c n') (second : Announced q d n')
    (same : c.address = d.address) (macs : c.mac ≠ d.mac) (warned : n.Warned r d) :
    n'.Warned r d ∨ n'.Warned q c := by
  by_cases own : r = p
  · -- The detector itself was at work: if it has taken the warning, it has answered it.
    subst own
    obtain ⟨k, held, sender, target⟩ := warned
    have concerned : concerns c k = true := by
      simp [concerns, target, sender, same, Ne.symm macs]
    rcases conduct.answered c first k held concerned with kept | answered
    · exact .inl ⟨k, kept, sender, target⟩
    · have other : q ≠ r := by
        intro eq
        subst eq
        exact macs (congrArg Probe.mac (first.unique second))
      have stood := conduct.yielding.stood q d second
      have tap := (formed.attached q).mp (attached_of_working stood.working)
      exact .inr (warned_of_announcement (answered q tap other))
  · exact .inl (warned.mono (conduct.apart.mail r own))

theorem Detects.conduct (detects : Detects n) (formed : WellFormed n)
    (conduct : Conduct p n n') : Detects n' := by
  intro q r c d first second same macs
  have first' := conduct.yielding.stood q c first
  have second' := conduct.yielding.stood r d second
  rcases detects q r c d first' second' same macs with warned | warned
  · exact conduct.warned formed first second same macs warned
  · exact (conduct.warned formed second first same.symm macs.symm warned).symm

theorem Detects.aside (detects : Detects n) (aside : Aside n n') : Detects n' := by
  intro q r c d first second same macs
  rw [announced_congr (aside.prober q)] at first
  rw [announced_congr (aside.prober r)] at second
  rcases detects q r c d first second same macs with warned | warned
  · exact .inl (warned.mono (aside.mail q))
  · exact .inr (warned.mono (aside.mail r))

theorem Detects.announcing (detects : Detects n) (formed : WellFormed n)
    (announcing : Announcing p c n n') : Detects n' := by
  have before {q d} (other : q ≠ p) : Announced q d n' → Announced q d n :=
    (announced_congr (announcing.apart.prober q other)).mp
  have told {q d} (other : q ≠ p) (announced : Announced q d n') : n'.Warned q c := by
    have stood := before other announced
    have tap := (formed.attached q).mp (attached_of_working stood.working)
    exact warned_of_announcement (announcing.told q tap other)
  have own {d} (announced : Announced p d n') : d = c :=
    announced.unique announcing.announced
  intro q r d e first second same macs
  by_cases left : q = p <;> by_cases right : r = p
  · subst left right
    exact absurd (congrArg Probe.mac ((own first).trans (own second).symm)) macs
  · subst left
    exact .inr (own first ▸ told right second)
  · subst right
    exact .inl (own second ▸ told left first)
  · rcases detects q r d e (before left first) (before right second) same macs with
      warned | warned
    · exact .inl (warned.mono (announcing.apart.mail q left))
    · exact .inr (warned.mono (announcing.apart.mail r right))

theorem Detects.close (detects : Detects n) : Detects (n.close p) := by
  intro q r c d first second same macs
  have other {q c} (announced : Announced q c (n.close p)) : q ≠ p := by
    intro own
    rw [Announced, own, prober_close_self] at announced
    cases announced.1
  have first' := (yielding_close p n).stood q c first
  have second' := (yielding_close p n).stood r d second
  rcases detects q r c d first' second' same macs with warned | warned
  · exact .inl (warned.mono (mail_close n (other first)))
  · exact .inr (warned.mono (mail_close n (other second)))

theorem Detects.happening {about : Option Nat} {byHand : Bool} (detects : Detects n)
    (formed : WellFormed n) (happening : Happening about byHand n n') : Detects n' := by
  cases happening with
  | aside h _ => exact detects.aside h
  | work h => exact detects.conduct formed h
  | announce h => exact detects.announcing formed h
  | close h => exact (detects.conduct formed h).close

end Network

namespace Segment

variable {s : Segment} {past : List Segment} {allowed : Segment → Act → Prop}

/-- Whatever is done on a segment, of any two hosts that defend one address one has mail
from the other, not looked at yet. -/
theorem no_undetected_duplicate (run : Run allowed (s :: past)) {p q : Nat} {c d : Probe}
    (first : Announced p c s.network) (second : Announced q d s.network)
    (same : c.address = d.address) (macs : c.mac ≠ d.mac) :
    (∃ k ∈ s.network.link.inbox p, k.sender = d.mac ∧ k.target = d.address) ∨
      ∃ k ∈ s.network.link.inbox q, k.sender = c.mac ∧ k.target = c.address := by
  have detects : s.network.Detects := by
    refine run.induction (g := fun s _ => s.network.Detects) (fun _ => ?_) ?_
    · intro p q c d first _ _ _
      cases first.1
    · intro s past act run _ detects
      exact detects.happening run.wellFormed (happening run.wellFormed act)
  exact detects p q c d first second same macs

/-- Two hosts have announced one address, and the second one has taken its mail. -/
theorem duplicate_detected : ∃ s past, Run (fun _ _ => True) (s :: past) ∧
    Announced 0 (probeBy 1) s.network ∧ Announced 1 (probeBy 2) s.network ∧
    ((∃ k ∈ s.network.link.inbox 0,
        k.sender = (probeBy 2).mac ∧ k.target = (probeBy 2).address) ∨
      ∃ k ∈ s.network.link.inbox 1,
        k.sender = (probeBy 1).mac ∧ k.target = (probeBy 1).address) := by
  have run : Run (fun _ _ => True) (trail [.attach, .attach, .use 0 (.start (probeBy 1)),
      .use 1 (.start (probeBy 2)), .pass 10000000, .use 0 .dispatch, .use 1 .dispatch,
      .use 0 (.announce .once), .use 1 (.announce .always), .use 1 .dispatch] fresh []) :=
    Run.trail (.fresh {}) _ (by decide +kernel)
  exact ⟨_, _, run, by decide +kernel, by decide +kernel,
    no_undetected_duplicate run (by decide +kernel) (by decide +kernel) rfl (by decide)⟩

end Segment
end LinkLocal.Simulation
