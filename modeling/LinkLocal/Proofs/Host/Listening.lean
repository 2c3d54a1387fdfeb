import LinkLocal.Proofs.Host.Tending

/-! Two ways to be served by a host. One asks the stream until it has nothing more; the other
attends to the detector if its descriptor is readable, and takes all events. The stream hands out
the events that wait before it attends, attends to a host at work only, and does so on what its
reactor heard, be it earlier or later than the other one looks. Where both attend, they do so with
the same to attend to. Where only one of them does, there is nothing to attend to, and all that it
changes is the timer, to which nobody pays attention as long as there is a carrier. -/
namespace LinkLocal

/-- Attends to the detector if its descriptor is readable, and takes all events. -/
def Host.manual {σ : Type} [Journal σ] (d : Detector σ) (h : Host σ) : List Event × Host σ :=
  let h := if d.readable h.world then (h.dispatch d).2 else h
  let (events, _, engine) := h.engine.drain
  (events, { h with engine })

theorem Host.manual_eq {σ : Type} [Journal σ] {d : Detector σ} {h h' : Host σ}
    (attended : (if d.readable h.world then (h.dispatch d).2 else h) = h') :
    h.manual d = (h'.engine.pending.toList, ⟨{ h'.engine with pending := {} }, h'.world⟩) := by
  simp only [manual, attended, Engine.drain]
  cases h'.engine.state <;> simp only [Engine.pop] <;> rfl

theorem Host.keeps_manual {σ : Type} [Journal σ] {d : Detector σ} {r : σ → σ → Prop}
    (keeps : d.Keeps r) (h : Host σ) : r h.world (h.manual d).2.world := by
  rw [manual_eq rfl]
  dsimp only
  split
  · exact keeps_dispatch keeps h
  · exact keeps.refl _

namespace Simulation

open Network EventStream

variable {p : Nat} {n n' : Network} {h h' : Host Network} {s s' : EventStream Network}

/-! ## Streams that have nothing to attend to -/

/-- To hear of the timer makes no difference to a network that matches. -/
theorem matched_turn (matched : Matched p (s.ready = true) s.host.world n) :
    Matched p ((s.turn (detector p)).ready = true) (s.turn (detector p)).host.world n := by
  rw [EventStream.turn]
  split
  · next news =>
    have readable := ((hasNews_iff p _).mp news).2
    have heard : Twins p (ownRegard p True s.host.world) s.host.world n :=
      Twins.mono matched id id fun _ => trivial
    have told := heard.sets (sets_tell p _) (.refl p n)
      (fun _ _ => ⟨trivial, (Timer.isReadable_tell ..).trans readable⟩) (absurd rfl)
      fun _ minded => (heard.expiry minded).trans (Timer.expiry_tell ..).symm
    exact told.mono id id fun _ => rfl
  · exact matched

/-- There is nothing to attend to for a stream, or it will not attend before something happens. -/
def Rested (p : Nat) (s : EventStream Network) : Prop :=
  Undue p s.host.world ∨ s.ready = false ∧ s.host.world.isReadable p = false

/-- A stream hands out some events, and rests. Whatever else it does makes no difference to any
network that matches its own. -/
structure Drifts (p : Nat) (s : EventStream Network) (events : List Event)
    (k : EventStream Network) : Prop where
  engine : k.host.engine.Ahead events s.host.engine
  tended : Tended p k
  rested : Rested p k
  matched : ∀ {m}, Matched p (s.ready = true) s.host.world m →
    Matched p (k.ready = true) k.host.world m

namespace Drifts

variable {k l : EventStream Network} {events later : List Event}

theorem refl (tended : Tended p s) (rested : Rested p s) : Drifts p s [] s :=
  ⟨.refl _, tended, rested, id⟩

theorem trans (first : Drifts p s events k) (second : Drifts p k later l) :
    Drifts p s (events ++ later) l :=
  ⟨second.engine.trans first.engine, second.tended, second.rested,
    fun matched => second.matched (first.matched matched)⟩

theorem turn (tended : Tended p s) (rested : Rested p s) :
    Drifts p s [] (s.turn (detector p)) := by
  have engine : (s.turn (detector p)).host.engine = s.host.engine := engine_turn _ s
  refine ⟨engine ▸ .refl _, tended.turn, ?_, matched_turn⟩
  rw [EventStream.turn]
  split
  · next news =>
    have readable := ((hasNews_iff p _).mp news).2
    rcases rested with undue | ⟨_, unreadable⟩
    · exact .inl (undue.quiet (quiet_tell p _))
    · cases unreadable.symm.trans readable
  · exact rested

/-- The stream attends to its detector in vain. -/
theorem attend (tended : Tended p s) (undue : Undue p s.host.world)
    (working : (s.host.world.prober p).phase ≠ .idle) :
    Drifts p s [] ⟨(s.host.dispatch (detector p)).2, false⟩ := by
  have unminded : ¬ (ownRegard p (s.ready = true) s.host.world).timer := fun minded => by
    cases (undue working).1.symm.trans minded.2
  obtain ⟨ok, vain⟩ := (tended.twins _ _).dispatch_left undue tended.formed working unminded
  have dispatched := dispatch_agreed tended.agrees ok (vain.prober p).symm
  refine ⟨?_, tended.attend, .inl tended.undue, fun {m} matched => ?_⟩
  · rw [dispatched]
    exact .refl _
  · obtain ⟨_, after⟩ := Twins.dispatch_left matched undue tended.formed working unminded
    rw [dispatched]
    exact after.mono (fun _ => working) (fun minded => ⟨working, vain.carrier.trans minded.2⟩)
      False.elim

theorem answers (tended : Tended p s) (rested : Rested p s)
    {r : Host.Look × EventStream Network} (answers : s.Answers r) : Drifts p s r.1.handed r.2 := by
  have left := tended.answers answers
  cases answers with
  | event pending => exact ⟨⟨_, rfl, pending⟩, left, rested, id⟩
  | ended | pending => exact refl tended rested

/-- A poll hands out an event at most. -/
theorem poll (tended : Tended p s) (rested : Rested p s) :
    ∃ k, Drifts p s [] k ∧ k.Answers (s.poll (detector p)) := by
  rcases tended.polled rfl with answers | attends
  · exact ⟨s, refl tended rested, answers⟩
  · have undue := rested.resolve_right fun unready => by cases attends.ready.symm.trans unready.1
    have vain := attend tended undue (tended.agrees.2.running.mp attends.running)
    exact ⟨_, attends.left ▸ vain, attends.answers⟩

end Drifts

/-- A stream that has nothing to attend to hands out the events that wait. The induction is on how
it is asked. -/
theorem Tended.listens_rested {turned : Bool} {events : List Event} (tended : Tended p s)
    (rested : Rested p s) (listens : Listens (detector p) turned s events s') :
    Drifts p s events s' ∧ s'.host.engine.pending.toList = [] := by
  have polled {s s' : EventStream Network} {r : Host.Look} (tended : Tended p s)
      (rested : Rested p s) (eq : s.poll (detector p) = (r, s')) : Drifts p s r.handed s' ∧
        (r.handed = [] → s'.host.engine.pending.toList = []) := by
    obtain ⟨k, drifts, answers⟩ := Drifts.poll tended rested
    rw [eq] at answers
    refine ⟨drifts.trans (.answers drifts.tended drifts.rested answers), fun nothing => ?_⟩
    cases answers with
    | event => cases nothing
    | ended none | pending none => exact none
  induction listens with
  | turn _ ih =>
    have turned := Drifts.turn tended rested
    obtain ⟨later, none⟩ := ih turned.tended turned.rested
    exact ⟨turned.trans later, none⟩
  | event poll _ ih | early poll _ ih =>
    have first := (polled tended rested poll).1
    obtain ⟨later, none⟩ := ih first.tended first.rested
    exact ⟨first.trans later, none⟩
  | pending poll | ended poll => exact (polled tended rested poll).imp_right fun none => none rfl

/-! ## Streams that have something to attend to -/

/-- The reactor of a stream hears of a descriptor that is readable, if it did not before. -/
theorem Tended.turn_readable (tended : Tended p s) (readable : s.host.world.isReadable p = true) :
    (s.turn (detector p)).ready = true ∧
      (s.turn (detector p)).host.engine = s.host.engine ∧
      (s.turn (detector p)).host.world.isReadable p = true ∧
      (s.turn (detector p)).attended (detector p) = s.attended (detector p) := by
  rw [EventStream.turn]
  split
  · have same := dispatch_congr (dispatch_tell readable tended.spared)
      { s.host.engine with pending := {} }
    exact ⟨rfl, rfl, (isReadable_tell p _).trans readable,
      congrArg (fun r => (⟨r.2, false⟩ : EventStream Network)) same⟩
  · next silent =>
    have told : (s.host.world.link.timer p).told = true := by
      refine Bool.eq_true_of_not_eq_false fun untold => silent ?_
      exact (hasNews_iff p _).mpr ⟨untold, readable⟩
    exact ⟨(tended.told told).1, rfl, readable, rfl⟩

/-- A stream whose descriptor is readable hands out the events that wait, then attends, and goes on
from there. Its reactor heard of the descriptor before, or does so now. The induction is on how the
stream is asked until it attends. -/
theorem Tended.listens_readable {turned : Bool} {events : List Event} (tended : Tended p s)
    (running : s.host.engine.state = .running) (readable : s.host.world.isReadable p = true)
    (heard : turned = true → s.ready = true)
    (listens : Listens (detector p) turned s events s') :
    ∃ later, events = s.host.engine.pending.toList ++ later ∧
      Listens (detector p) true (s.attended (detector p)) later s' := by
  induction listens with
  | turn _ ih =>
    obtain ⟨ready, engine, still, same⟩ := tended.turn_readable readable
    rw [← engine, ← same]
    exact ih tended.turn (engine ▸ running) still fun _ => ready
  | event poll later ih =>
    rcases tended.polled poll with answers | attends
    · cases answers with
      | event pending =>
        obtain ⟨rest, rfl, onward⟩ :=
          ih (tended.holding ⟨[_], pending.symm⟩) running readable heard
        exact ⟨rest, by rw [pending]; rfl, onward⟩
    · exact ⟨_, by rw [attends.none]; rfl, .event attends.later later.mono⟩
  | early poll later ih =>
    rcases tended.polled poll with answers | attends
    · cases answers with
      | pending => exact ih tended running readable heard
    · exact ⟨_, by rw [attends.none]; rfl, .early attends.later later.mono⟩
  | pending poll =>
    rcases tended.polled poll with answers | attends
    · cases answers with
      | pending _ _ unready => cases unready.symm.trans (heard rfl)
    · exact ⟨[], by rw [attends.none]; rfl, .pending attends.later⟩
  | ended poll =>
    rcases tended.polled poll with answers | attends
    · cases answers with
      | ended _ idle => cases idle.symm.trans running
    · exact ⟨[], by rw [attends.none]; rfl, .ended attends.later⟩

/-! ## Both ways -/

/-- A stream that is tended, whose detector looks in time. What its reactor heard still holds where
that matters: without a carrier, a detector at work has a readable descriptor then. -/
structure Wary (p : Nat) (s : EventStream Network) : Prop extends Tended p s where
  vigilant : Vigilant p s.host.world
  founded : s.ready = true → (s.host.world.prober p).phase ≠ .idle →
    s.host.world.link.carrier = false → s.host.world.isReadable p = true

namespace Wary

theorem turn (wary : Wary p s) : Wary p (s.turn (detector p)) := by
  have turned := wary.toTended.turn
  rw [EventStream.turn] at turned ⊢
  split
  · next news =>
    rw [if_pos news] at turned
    have readable := ((hasNews_iff p _).mp news).2
    have spared := turned.spared.trans wary.spared.symm
    exact ⟨turned, (staysVigilant_tell p _).2 spared wary.vigilant,
      fun _ _ _ => (isReadable_tell p _).trans readable⟩
  · exact wary

theorem attend (wary : Wary p s) : Wary p ⟨(s.host.dispatch (detector p)).2, false⟩ := by
  have attended := wary.toTended.attend
  have stays := Host.keeps_dispatch (keeps_vigilant p) s.host
  exact ⟨attended, stays.2 (attended.spared.trans wary.spared.symm) wary.vigilant, nofun⟩

theorem answers (wary : Wary p s) {r : Host.Look × EventStream Network} (answers : s.Answers r) :
    Wary p r.2 := by
  have left := wary.toTended.answers answers
  cases answers with
  | event => exact ⟨left, wary.vigilant, wary.founded⟩
  | ended | pending => exact wary

theorem poll (wary : Wary p s) : Wary p (s.poll (detector p)).2 := by
  rcases wary.toTended.polled rfl with answers | attends
  · exact wary.answers answers
  · exact (attends.left ▸ wary.attend).answers attends.answers

theorem listens {turned : Bool} {events : List Event} (wary : Wary p s)
    (listens : Listens (detector p) turned s events s') : Wary p s' :=
  listens.preserves turn poll wary

end Wary

/-- By hand, a host that has nothing to attend to is attended to in vain. -/
theorem Tended.manual_undue (tended : Tended p s) {told : Prop}
    (matched : Matched p told s.host.world n) (undue : Undue p s.host.world) {e : Engine}
    (ahead : s.host.engine.Ahead [] e) :
    ∃ m, (if (detector p).readable n then (Host.dispatch (detector p) ⟨e, n⟩).2
      else ⟨e, n⟩) = ⟨e, m⟩ ∧ Matched p told s.host.world m := by
  obtain ⟨pending, rfl, same⟩ := ahead
  split
  case isFalse => exact ⟨n, rfl, matched⟩
  obtain ⟨ok, after⟩ : (n.dispatch p).1 = .ok () ∧ Matched p told s.host.world (n.dispatch p).2 := by
    by_cases idle : (s.host.world.prober p).phase = .idle
    · exact Twins.dispatch_resting matched ((congrArg _ (matched.prober p)).trans idle)
        (absurd idle ·) (absurd idle ·.1)
    · refine Twins.dispatch_right matched ((Twins.undue_iff matched id).mpr undue)
        (Still.formed matched.toStill tended.formed) ?_ fun minded => ?_
      · exact fun rests => idle ((congrArg _ (matched.prober p)).symm.trans rests)
      · cases (undue idle).1.symm.trans minded.2
  have agrees : Agrees p ⟨{ s.host.engine with pending }, n⟩ :=
    tended.agrees.twin (congrArg Table.keys matched.probers) (matched.prober p)
      (same ▸ List.suffix_rfl)
  refine ⟨(n.dispatch p).2, ?_, after⟩
  rw [dispatch_agreed agrees ok ((after.prober p).trans (matched.prober p).symm)]

/-- A stream that rests gives the events that wait, as one gets them by hand from a host that was
attended to in vain. -/
theorem Tended.serves_rested {e : Engine} {m : Network} {events : List Event}
    (tended : Tended p s) (rested : Rested p s)
    (listens : Listens (detector p) false s events s') (ahead : s.host.engine.Ahead [] e)
    (attended : (if (detector p).readable n then (Host.dispatch (detector p) ⟨e, n⟩).2
      else ⟨e, n⟩) = ⟨e, m⟩) (matched : Matched p (s.ready = true) s.host.world m) :
    events = (Host.manual (detector p) ⟨e, n⟩).1 ∧
      Host.Beside (Matched p (s'.ready = true)) [] s'.host (Host.manual (detector p) ⟨e, n⟩).2 := by
  obtain ⟨drifts, none⟩ := tended.listens_rested rested listens
  obtain ⟨pending, rfl, whole⟩ := drifts.engine.trans ahead
  rw [none, List.append_nil, List.nil_append] at whole
  rw [Host.manual_eq attended]
  exact ⟨whole.symm, ⟨{}, rfl, none.symm⟩, drifts.matched matched⟩

/-- A host gives the same events both ways, and is left the same but for what does not matter. -/
theorem Wary.serves {events : List Event} (wary : Wary p s) (vigilant : Vigilant p h.world)
    (beside : Host.Beside (Matched p (s.ready = true)) [] s.host h)
    (listens : Listens (detector p) false s events s') :
    events = (h.manual (detector p)).1 ∧
      Host.Beside (Matched p (s'.ready = true)) [] s'.host (h.manual (detector p)).2 := by
  obtain ⟨e, n⟩ := h
  obtain ⟨ahead, matched⟩ := beside
  have tended := wary.toTended
  by_cases undue : Undue p s.host.world
  · obtain ⟨m, attended, matched⟩ := tended.manual_undue matched undue ahead
    exact tended.serves_rested (.inl undue) listens ahead attended matched
  have working : (s.host.world.prober p).phase ≠ .idle := fun idle => undue (absurd idle)
  by_cases readable : s.host.world.isReadable p = true
  case neg =>
    -- Only the loss of the carrier is there to attend to, and neither of the two sees it.
    have lost : s.host.world.link.carrier = false := Bool.eq_false_iff.mpr fun up =>
      undue (undue_of_unreadable wary.vigilant readable fun _ => up)
    have unready : s.ready = false := Bool.eq_false_iff.mpr fun ready =>
      readable (wary.founded ready working lost)
    have same := Twins.readable matched ⟨working, lost⟩
    exact tended.serves_rested (.inr ⟨unready, Bool.eq_false_iff.mpr readable⟩) listens ahead
      (if_neg fun found => readable (same ▸ found)) matched
  have found : n.isReadable p = true := Decidable.not_not.mp fun unreadable => by
    have up : n.link.carrier = true := Bool.eq_true_of_not_eq_false fun lost => unreadable <|
      (Twins.readable matched ⟨working, matched.carrier.symm.trans lost⟩).trans readable
    exact undue ((Twins.undue_iff matched id).mp
      (undue_of_unreadable vigilant unreadable fun _ => up))
  obtain ⟨later, rfl, onward⟩ := tended.listens_readable (tended.agrees.2.running.mpr working)
    readable (absurd · Bool.false_ne_true) listens
  have handed : Tended p (s.holding {}) := tended.holding List.nil_suffix
  have attended : Tended p (s.attended (detector p)) := handed.attend
  obtain ⟨drifts, none⟩ := attended.listens_rested (.inl handed.undue) onward
  have begun : Host.Beside (Matched p (s.ready = true)) s.host.engine.pending.toList
      (s.holding {}).host ⟨e, n⟩ := by
    obtain ⟨pending, rfl, whole⟩ := ahead
    exact ⟨⟨pending, rfl, by rw [whole]; exact (List.append_nil _).symm⟩, matched⟩
  obtain ⟨engine, world⟩ := (begun.dispatch (mirrors_matched p _)).2
  have matched : Matched p ((s.attended (detector p)).ready = true) _ _ :=
    { Twins.mono world id id id with told := attended.told }
  rw [Host.manual_eq (if_pos found)]
  generalize (Host.dispatch (detector p) ⟨e, n⟩).2 = h at *
  obtain ⟨e, n⟩ := h
  obtain ⟨pending, rfl, whole⟩ := drifts.engine.trans engine
  rw [none, List.append_nil] at whole
  exact ⟨whole.symm, ⟨{}, rfl, none.symm⟩, drifts.matched matched⟩

/-- A stream whose reactor heard of the descriptor is soon asked until it has nothing more: it hands
out the events that wait, attends, and goes on without having heard of anything. -/
theorem Tended.exists_listens_ready (tended : Tended p s) (running : s.host.engine.state = .running)
    (ready : s.ready = true) :
    ∃ events s', Listens (detector p) true s events s' ∧ s'.ready = false := by
  generalize waiting : s.host.engine.pending.toList = es
  induction es generalizing s with
  | nil =>
    generalize poll : s.poll (detector p) = r
    rcases tended.polled poll with answers | attends
    · cases answers with
      | event pending => cases waiting.symm.trans pending
      | ended _ idle => cases idle.symm.trans running
      | pending _ _ unready => cases unready.symm.trans ready
    · exact exists_listens_unready _ (poll.trans attends.later.symm) rfl (.inl rfl)
  | cons e es ih =>
    generalize poll : s.poll (detector p) = r
    rcases tended.polled poll with answers | attends
    · cases answers with
      | event pending =>
        obtain ⟨rfl, rest⟩ := List.cons.inj (waiting.symm.trans pending)
        obtain ⟨events, s', later, unready⟩ :=
          ih (tended.holding ⟨[_], pending.symm⟩) running ready rest.symm
        exact ⟨_, s', .event poll later, unready⟩
      | ended none | pending none => cases none.symm.trans waiting
    · cases attends.none.symm.trans waiting

/-- A stream can always be asked until it has nothing more. If its reactor runs only while there is
somebody to attend for, it has heard of nothing afterwards. -/
theorem Tended.exists_listens (tended : Tended p s) (unready : s.ready = false) :
    ∃ events s', Listens (detector p) false s events s' ∧ s'.ready = false := by
  cases state : s.host.engine.state with
  | idle => exact exists_listens_unready _ rfl unready (.inr state)
  | running =>
    suffices later : ∃ events s', Listens (detector p) true (s.turn (detector p)) events s' ∧
        s'.ready = false by
      obtain ⟨events, s', later, rest⟩ := later
      exact ⟨events, s', .turn later, rest⟩
    cases ready : (s.turn (detector p)).ready with
    | false => exact exists_listens_unready _ rfl ready (.inl rfl)
    | true =>
      exact tended.turn.exists_listens_ready (engine_turn _ s ▸ state) ready

end Simulation
end LinkLocal
