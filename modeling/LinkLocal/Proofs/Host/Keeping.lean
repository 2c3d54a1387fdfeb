import LinkLocal.Host.Stream

/-! What a host does to the world of its detector. A host touches that world only through
its detector and by leaving notices, so whatever holds across each call of the detector
holds across every operation of the host, however many calls it makes and whichever of
them fail. Announcing is kept apart: it is the one operation that changes who holds an
address. -/
namespace LinkLocal

/-- A relation between worlds that a detector keeps as long as it announces nothing. -/
structure Detector.Keeps {σ : Type} [Journal σ] (d : Detector σ) (r : σ → σ → Prop) : Prop where
  refl : ∀ s, r s s
  trans : ∀ {s s' s''}, r s s' → r s' s'' → r s s''
  note : ∀ x s, r s (Journal.note x s)
  start : ∀ c s, r s (d.start c s).2
  stop : ∀ s, r s (d.stop s)
  dispatch : ∀ s, r s (d.dispatch s).2
  poll : ∀ s, r s (d.poll s).2
  tell : ∀ s, r s (d.tell s)
  renew : ∀ s, r s (d.renew s)

namespace Host

variable {σ : Type} [Journal σ] {d : Detector σ} {r : σ → σ → Prop}

theorem keeps_note (keeps : d.Keeps r) (x : Notice) (h : Host σ) : r h.world (h.note x).world :=
  keeps.note x h.world

theorem keeps_goDown (keeps : d.Keeps r) (h : Host σ) : r h.world h.goDown.world :=
  keeps.note .wentDown h.world

theorem keeps_reselect (keeps : d.Keeps r) (h : Host σ) : r h.world (h.reselect d).world := by
  rcases next : h.engine.selector.next with ⟨a, selector⟩
  simp only [reselect, next]
  split
  · exact keeps.trans (keeps_note keeps _ _) (keeps_goDown keeps _)
  · next probe _ =>
    have started := keeps.start { probe with address := a } h.world
    split
    · next eq =>
      rw [eq] at started
      exact keeps.trans started (keeps.note _ _)
    · next eq =>
      rw [eq] at started
      exact keeps.trans (keeps.trans started (keeps.note _ _)) (keeps.note _ _)

theorem keeps_stop (keeps : d.Keeps r) (h : Host σ) : r h.world (h.stop d).world := by
  have stopped := keeps.stop h.world
  simp only [stop]
  split
  · exact keeps.trans stopped (keeps.note _ _)
  · exact stopped

theorem keeps_react (keeps : d.Keeps r) (found : Detection) (h : Host σ) :
    r h.world (react d found h).world := by
  cases found with
  | ready =>
    simp only [react]
    split
    · exact keeps.note _ _
    · exact keeps.trans (keeps_note keeps _ h) (keeps_goDown keeps _)
  | defended claim => exact keeps.note _ _
  | conflict claim =>
    have lost : r h.world (Host.mk (h.engine.push (.conflict claim))
        (h.note (.lost claim)).world).world := keeps.note (.lost claim) h.world
    simp only [react]
    split
    · exact keeps.trans lost (keeps_reselect keeps _)
    · exact keeps.trans lost (keeps_stop keeps _)
  | used claim => exact keeps.trans (keeps_note keeps _ h) (keeps_reselect keeps _)
  | down => exact keeps_goDown keeps h

theorem keeps_start (keeps : d.Keeps r) (c : Config) (h : Host σ) :
    r h.world (h.start d c).2.world := by
  rcases first : firstCandidate c with ⟨a, selector⟩
  simp only [start, first]
  split
  · exact keeps.refl _
  · split
    · exact keeps.refl _
    · split
      · exact keeps.refl _
      · have started := keeps.start (probeOf c a) h.world
        split
        · next eq => rwa [eq] at started
        · next eq =>
          rw [eq] at started
          exact keeps.trans started (keeps.note _ _)

/-- The induction is on the number of findings that may still be taken. -/
theorem keeps_settle (keeps : d.Keeps r) (findings : Nat) (h : Host σ) :
    r h.world (settle d findings h).2.world := by
  induction findings generalizing h with
  | zero => exact keeps.refl _
  | succ findings ih =>
    have polled := keeps.poll h.world
    unfold settle
    split
    · next eq => rwa [eq] at polled
    · next found s eq =>
      rw [eq] at polled
      have reacted := keeps_react keeps found { h with world := s }
      exact keeps.trans (keeps.trans polled reacted) (ih _)
    · next eq => rwa [eq] at polled
    · next s eq =>
      rw [eq] at polled
      simp only
      split
      · exact keeps.trans polled (keeps.note _ _)
      · exact polled

theorem keeps_dispatch (keeps : d.Keeps r) (h : Host σ) :
    r h.world (h.dispatch d).2.world := by
  have attended := keeps.dispatch h.world
  unfold dispatch
  split
  · next eq =>
    rw [eq] at attended
    exact keeps.trans attended (keeps.note _ _)
  · next s eq =>
    rw [eq] at attended
    exact keeps.trans attended (keeps_settle keeps _ { h with world := s })

theorem keeps_look (keeps : d.Keeps r) (h : Host σ) : r h.world (h.look d).2.world := by
  have popped : h.pop.2.world = h.world := rfl
  unfold look
  split
  · next eq => rw [eq] at popped; exact popped ▸ keeps.refl _
  · next eq => rw [eq] at popped; exact popped ▸ keeps.refl _
  · next h' eq =>
    rw [eq] at popped
    have told := keeps.trans (keeps.tell h'.world)
      (keeps_dispatch keeps { h' with world := d.tell h'.world })
    rw [show h'.world = h.world from popped] at told ⊢
    split
    · split <;> next eq => rwa [eq] at told
    · exact popped ▸ keeps.refl _

/-- An announcement through a host is one of its detector, with a notice at most. -/
theorem announce_world (d : Detector σ) (h : Host σ) :
    (h.announce d).2.world = h.world ∨
      (h.announce d).2.world = (d.announce .once h.world).2 ∨
      ∃ x, (h.announce d).2.world = Journal.note x (d.announce .once h.world).2 := by
  unfold announce
  split
  · exact .inl rfl
  · split
    · next eq => exact .inr (.inl (by rw [eq]))
    · next eq =>
      simp only
      split
      · exact .inr (.inr ⟨_, by rw [eq]; rfl⟩)
      · exact .inr (.inl (by rw [eq]))

end Host
end LinkLocal
