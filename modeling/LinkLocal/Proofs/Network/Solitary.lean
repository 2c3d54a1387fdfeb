import LinkLocal.Proofs.Host.Search

/-! A detector that is alone on its link. Nothing happens there but what it does itself: it
gets no mail, the carrier stays, and nobody is woken by what it sends. So all that is left to
say of a dispatch is whether the timer could be read and who holds the address that is probed,
and the announcements on the link are its own. -/
namespace LinkLocal

/-- The address that a notice tells the announcement of, if it tells of one. -/
def Notice.announced? : Notice → Option IPv4
  | .announced a _ => some a
  | _ => none

namespace Simulation.Network

variable {n n' : Network} {p : Nat} {c : Probe}

/-! ## Announcements -/

/-- The addresses that were announced on the link, each with its time, the earliest first. -/
def announcements (n : Network) : List (Nat × IPv4) :=
  n.journal.reverse.filterMap fun x => x.2.announced?.map (x.1, ·)

theorem announcements_note (x : Notice) (n : Network) :
    (n.note x).announcements = n.announcements ++ (x.announced?.map (n.now, ·)).toList := by
  have journal : (n.note x).journal.reverse = n.journal.reverse ++ [(n.now, x)] :=
    List.reverse_cons
  rw [announcements, journal, List.filterMap_append, ← announcements]
  cases other : x.announced? <;> simp [other]

theorem announcements_note_of_none {x : Notice} (other : x.announced? = none) (n : Network) :
    (n.note x).announcements = n.announcements := by
  rw [announcements_note, other]
  exact List.append_nil _

theorem announcements_congr (same : n'.journal = n.journal) :
    n'.announcements = n.announcements := by
  rw [announcements, announcements, same]

/-- An announcement leaves its mark. -/
theorem Tells.announcements_eq {ms : List Mark} (tells : Tells ms n n') (none : .announced ∉ ms) :
    n'.announcements = n.announcements := by
  obtain ⟨new, journal, rfl⟩ := tells
  rw [announcements, announcements, journal, List.reverse_append, List.filterMap_append]
  refine List.append_right_eq_self.mpr (List.filterMap_eq_nil_iff.mpr fun x member => ?_)
  cases announced : x.2.announced? with
  | none => rfl
  | some a =>
    refine absurd (List.mem_filterMap.mpr ⟨x, member, ?_⟩) none
    obtain ⟨t, x⟩ := x
    cases x <;> cases announced
    rfl

/-- Between two networks time stood still and nothing was announced. -/
structure Silent (n n' : Network) : Prop where
  now : n'.now = n.now
  announcements : n'.announcements = n.announcements
  toFail : n'.toFail ≤ n.toFail

theorem Silent.refl (n : Network) : Silent n n := ⟨rfl, rfl, le_rfl⟩

theorem Silent.trans {n'' : Network} (first : Silent n n') (second : Silent n' n'') :
    Silent n n'' where
  now := second.now.trans first.now
  announcements := second.announcements.trans first.announcements
  toFail := second.toFail.trans first.toFail

theorem Silent.note {x : Notice} (other : x.announced? = none) (n : Network) :
    Silent n (n.note x) := ⟨rfl, announcements_note_of_none other n, le_rfl⟩

theorem Silent.of_work (moves : Moves p n n') (strokes : Strokes Notice.Plain p n n') :
    Silent n n' where
  now := moves.apart.now
  announcements := strokes.tells.announcements_eq List.not_mem_nil
  toFail := strokes.toFail_le

/-! ## The clock -/

theorem advanceTo_eq_advance (time : Nat) (n : Network) :
    n.advanceTo time = n.advance (time - n.now) := by
  have clock : max n.now time = n.now + (time - n.now) := by omega
  rw [advanceTo, advance, clock]

/-! ## Solitude -/

/-- A network in order, on which this tap is the only one, with the carrier up and without
mail. -/
structure Solitary (p : Nat) (n : Network) : Prop where
  formed : WellFormed n
  alone : n.link.taps.keys = [p]
  carrier : n.link.carrier = true
  silence : n.link.inbox p = []

namespace Solitary

theorem tap (solitary : Solitary p n) : p ∈ n.link.taps.keys := by
  rw [solitary.alone]
  exact List.mem_singleton.mpr rfl

theorem attached (solitary : Solitary p n) : p ∈ n.probers.keys :=
  (solitary.formed.attached p).mpr solitary.tap

theorem of_apart (solitary : Solitary p n) (apart : Apart p n n') (formed : WellFormed n')
    (mail : n'.link.inbox p = n.link.inbox p ∨ n'.link.inbox p = []) : Solitary p n' where
  formed := formed
  alone := apart.taps.trans solitary.alone
  carrier := apart.carrier.trans solitary.carrier
  silence := mail.elim (·.trans solitary.silence) id

/-- A detector stays alone when it works. -/
theorem work {speaks : Notice → Prop} (solitary : Solitary p n) (moves : Moves p n n')
    (strokes : Strokes speaks p n n') : Solitary p n' :=
  solitary.of_apart moves.apart (moves.wellFormed solitary.formed) strokes.mail

theorem quiet (solitary : Solitary p n) (quiet : Quiet n n') : Solitary p n' :=
  solitary.of_apart (quiet.apart p) (quiet.formed solitary.formed) (.inl (quiet.inbox p))

theorem note (solitary : Solitary p n) (x : Notice) : Solitary p (n.note x) :=
  solitary.quiet (quiet_note x n)

theorem advanceTo (solitary : Solitary p n) (time : Nat) : Solitary p (n.advanceTo time) where
  formed := by
    rw [advanceTo_eq_advance]
    exact (aside_advance _ n).formed solitary.formed
  alone := solitary.alone
  carrier := solitary.carrier
  silence := solitary.silence

end Solitary

/-! ## The own timer -/

/-- The timer of a tap, of which there is nothing more to tell. -/
def Unheard (p : Nat) (n : Network) : Prop := (n.link.timer p).untold = none

theorem Unheard.of_timer {t : Timer} (unheard : Unheard p n)
    (timer : t = .disarmed ∨ t = n.link.timer p) : t.untold = none := by
  rcases timer with rfl | rfl
  · rfl
  · exact unheard

/-- A timer of which everything is told when it is due. -/
theorem unheard_tell (tap : p ∈ n.link.taps.keys) {t : Nat}
    (untold : (n.link.timer p).untold = some t) (due : t ≤ n.now) : Unheard p (n.tell p) := by
  have goes : (n.link.timer p).expiry = some t := by
    rw [Timer.untold] at untold
    split at untold
    · cases untold
    · exact untold
  have readable : (n.link.timer p).isReadable n.now = true := isReadable_iff.mpr ⟨t, goes, due⟩
  rw [Unheard, tell, onLink, timer_setTimer, if_pos ⟨rfl, tap⟩, Timer.tell, if_pos readable]
  rfl

/-- A timer after its expiry was taken, if it could be read. -/
theorem unheard_of_drained {r : Except SystemFault Unit} (unheard : Unheard p n)
    (drained : n.drain p = (r, n')) : Unheard p n' := by
  rw [drain] at drained
  split at drained <;> obtain ⟨-, rfl⟩ := Prod.mk.inj drained
  · exact unheard
  · refine unheard.of_timer ?_
    rw [timer_setTimer]
    split
    · unfold Timer.drained
      split
      · exact .inl rfl
      · exact .inr rfl
    · exact .inr rfl

end Simulation.Network
end LinkLocal
