import LinkLocal.Proofs.Host.Starting
import LinkLocal.Proofs.Network.Attention

/-! Calls of a detector that meet no fault. As long as no call on a timer fails, a dispatch never
fails, and a start fails only for a reason that can be told in advance. An announcement makes no
call that could fail its caller, so that it fails only because the detector is busy, whatever
happens. None of them meets a detector at work without a probe. -/
namespace LinkLocal

/-- A probe that ends within the range of the clock if it begins at this time. -/
def Probe.InTime (now : Nat) (c : Probe) : Prop :=
  now + c.timeout.nanoseconds < Simulation.clockRange

instance (now : Nat) (c : Probe) : Decidable (c.InTime now) := inferInstanceAs (Decidable (_ < _))

namespace Simulation.Network

variable {n n' : Network} {p : Nat} {c : Probe}

/-- A look at the deadline fails only if the timer cannot be set for the rest. -/
theorem conclude_ok (spared : (n.conclude p c).2.toFail = n.toFail) :
    (n.conclude p c).1 = .ok () := by
  by_cases before : ∃ t, (n.prober p).phase = .probing t
  case neg =>
    rw [conclude_of_not_probing fun t phase => before ⟨t, phase⟩]
  obtain ⟨t, phase⟩ := before
  by_cases waiting : n.now < t
  · simp only [conclude, phase, if_pos waiting] at spared ⊢
    rcases setTimer_cases p (.after n.now (t - n.now)) n with
      ⟨fault, faults, eq, less⟩ | ⟨faults, eq, same⟩
    · rw [arm, eq] at spared
      exact absurd spared less.ne
    · rw [arm, eq]
  · exact (conclude_due phase (Nat.not_lt.mp waiting)).1

/-- A dispatch fails only if a call on a timer does. -/
theorem dispatch_ok (formed : WellFormed n) (spared : (n.dispatch p).2.toFail = n.toFail) :
    (n.dispatch p).1 = .ok () := by
  obtain ⟨_, ok, _⟩ := drained_of_spared spared
  rcases eq : n.dispatch p with ⟨r, n'⟩
  rw [eq] at spared
  cases dispatched eq with
  | fault failed => cases ok.symm.trans failed
  | resting _ _ => rfl
  | unconfigured _ working nothing =>
    obtain ⟨c, probe⟩ := formed.configured p working
    cases nothing.symm.trans probe
  | carrierless _ _ _ _ => rfl
  | @attended _ n₁ c drained _ probe _ =>
    have collected : Strokes Notice.Plain p n (n₁.onLink (.clearInbox p)) :=
      (strokes_drained drained).stroke .collect
    have attended := strokes_attend (p := p) c (n.link.inbox p) (n₁.onLink (.clearInbox p))
    generalize (n₁.onLink (.clearInbox p)).attend p c (n.link.inbox p) = m at *
    have fewer := (collected.trans attended).toFail_le
    have fewest := (strokes_conclude (p := p) c m).toFail_le
    have whole : (m.conclude p c).2.toFail = n.toFail := spared
    exact conclude_ok (by omega)

/-- A detector at rest has no reason to refuse an eligible probe that ends within the range of the
clock. -/
theorem acceptable (eligible : c.Eligible) (early : c.InTime n.now)
    (idle : (n.prober p).phase = .idle) : ¬ Refuses p c n := by
  rintro (working | empty | other | late)
  · exact working idle
  · rw [eligible.1] at empty
    cases empty
  · exact other eligible.2
  · exact absurd early (Nat.not_lt.mpr late)

/-- A probe that there is no reason to refuse begins, unless the timer cannot be set. -/
theorem spoiled_of_failed (acceptable : ¬ Refuses p c n) {fault : DetectorFault}
    (failed : n.start p c = (.error fault, n')) : n'.toFail < n.toFail := by
  rcases start_cases p c n with ⟨_, _, refuses⟩ | ⟨_, _, eq, less⟩ | ⟨_, ok, _⟩
  · exact absurd refuses acceptable
  · cases eq.symm.trans failed
    exact less
  · cases ok.symm.trans failed

/-- An announcement is refused at the wrong time only. -/
theorem announce_busy (formed : WellFormed n) (policy : DefendPolicy) {fault : DetectorFault}
    (refused : n.announce p policy = (.error fault, n')) :
    fault = .busy ∧ (n.prober p).phase ≠ .ready := by
  rw [announce] at refused
  split at refused
  · cases refused
  · next ready nothing =>
    obtain ⟨c, probe⟩ := formed.configured p (by rw [ready]; nofun)
    cases nothing.symm.trans probe
  · next _ unready _ =>
    cases refused
    refine ⟨rfl, fun ready => ?_⟩
    obtain ⟨c, probe⟩ := formed.configured p (by rw [ready]; nofun)
    exact unready c ready probe

end Simulation.Network
end LinkLocal
