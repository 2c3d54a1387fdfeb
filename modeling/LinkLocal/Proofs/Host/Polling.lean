import LinkLocal.Proofs.Host.Orders

/-! Polls of a stream. A poll goes round as long as it attends to the detector, and it attends only
on what its reactor has heard of the descriptor. Attending uses that up, and no reactor runs within
a poll, so that a poll is over after its second round and attends at most once. An owner may ask his
stream as often as he likes, and the reactor may run whenever it does: what he gets until there is
nothing more is said by a relation that leaves both open. -/
namespace LinkLocal

variable {σ : Type} [Journal σ] {d : Detector σ}

/-- What an owner gets who asks a host for its next event, and what is left of the host. -/
inductive Host.Pops (h : Host σ) : Popped × Host σ → Prop where
  | event {event : Event} {left : Queue Event}
      (pending : h.engine.pending.toList = event :: left.toList) :
      Pops h (.event event, { h with engine := { h.engine with pending := left } })
  | stopped (none : h.engine.pending.toList = []) (idle : h.engine.state = .idle) :
      Pops h (.stopped, h)
  | done (none : h.engine.pending.toList = []) (running : h.engine.state = .running) :
      Pops h (.done, h)

omit [Journal σ] in
theorem Host.pops (h : Host σ) : h.Pops h.pop := by
  cases popped : h.engine.pending.pop? with
  | none =>
    have none := (Queue.pop?_eq_none_iff _).mp popped
    cases state : h.engine.state with
    | idle =>
      simp only [pop, Engine.pop, popped, state]
      exact .stopped none state
    | running =>
      simp only [pop, Engine.pop, popped, state]
      exact .done none state
  | some front =>
    simp only [pop, Engine.pop, popped]
    exact .event (Queue.toList_of_pop? popped)

namespace EventStream

open Host (Look)

variable {s s' : EventStream σ} {answer : Look}

/-- A stream that has these events to hand out. -/
def holding (left : Queue Event) (s : EventStream σ) : EventStream σ :=
  { s with host := { s.host with engine := { s.host.engine with pending := left } } }

/-- A stream that has handed out the events that wait and attended to its detector then. -/
def attended (d : Detector σ) (s : EventStream σ) : EventStream σ :=
  ⟨((s.holding {}).host.dispatch d).2, false⟩

omit [Journal σ] in
theorem engine_turn (d : Detector σ) (s : EventStream σ) :
    (s.turn d).host.engine = s.host.engine := by
  unfold turn
  split <;> rfl

/-! ## Rounds -/

/-- What a stream answers without attending to the detector. -/
inductive Answers (s : EventStream σ) : Look × EventStream σ → Prop where
  | event {event : Event} {left : Queue Event}
      (pending : s.host.engine.pending.toList = event :: left.toList) :
      Answers s (.event event, s.holding left)
  | ended (none : s.host.engine.pending.toList = []) (idle : s.host.engine.state = .idle) :
      Answers s (.ended, s)
  | pending (none : s.host.engine.pending.toList = []) (running : s.host.engine.state = .running)
      (unready : s.ready = false) : Answers s (.pending, s)

/-- What one round of a poll comes to. -/
inductive Rounded (d : Detector σ) (s : EventStream σ) : Look × EventStream σ → Prop where
  | answer {r : Look × EventStream σ} (answers : s.Answers r) : Rounded d s r
  | attended {h : Host σ} (none : s.host.engine.pending.toList = [])
      (running : s.host.engine.state = .running) (ready : s.ready = true)
      (attended : s.host.dispatch d = (.ok (), h)) : Rounded d s (.again, ⟨h, false⟩)
  | failed {error : Error} {h : Host σ} (ready : s.ready = true)
      (attended : s.host.dispatch d = (.error error, h)) : Rounded d s (.failed error, ⟨h, false⟩)

theorem rounded (d : Detector σ) (s : EventStream σ) : Rounded d s (s.round d) := by
  have pops := s.host.pops
  unfold round
  generalize s.host.pop = result at pops ⊢
  cases pops with
  | event pending => exact .answer (.event pending)
  | stopped none idle => exact .answer (.ended none idle)
  | done none running =>
    dsimp only
    split
    · next ready =>
      rcases attended : s.host.dispatch d with ⟨error | ⟨⟩, h⟩
      · exact .failed ready attended
      · exact .attended none running ready attended
    · next unready => exact .answer (.pending none running (Bool.eq_false_iff.mpr unready))

/-- While the engine runs and nothing waits to be handed out, a look at a host is a round of its
stream, after the reactor has run. -/
theorem round_turn {h : Host σ} (none : h.engine.pending.toList = [])
    (running : h.engine.state = .running) :
    ((⟨h, false⟩ : EventStream σ).turn d).round d = ((h.look d).1, ⟨(h.look d).2, false⟩) := by
  have done (s : σ) : (⟨h.engine, s⟩ : Host σ).pop = (.done, ⟨h.engine, s⟩) := by
    have popped := (Queue.pop?_eq_none_iff _).mpr none
    simp only [Host.pop, Engine.pop, popped, running]
  rw [turn, Host.look, done h.world]
  dsimp only
  split
  · simp only [round, done, if_true]
    rcases Host.dispatch d ⟨h.engine, d.tell h.world⟩ with ⟨error | ⟨⟩, h'⟩ <;> rfl
  · rw [round, done h.world]
    rfl

/-- A round that attends to the detector leaves nothing that would make the next one attend. -/
theorem ready_of_again (again : s.round d = (.again, s')) :
    s.ready = true ∧ s'.ready = false := by
  have rounded := rounded d s
  rw [again] at rounded
  cases rounded with
  | answer answers => cases answers
  | attended _ _ ready _ => exact ⟨ready, rfl⟩

theorem round_unready (unready : s.ready = false) : (s.round d).1 ≠ .again := fun again =>
  Bool.noConfusion (unready.symm.trans (ready_of_again (Prod.ext again rfl)).1)

theorem rounds_of_answer (answer : (s.round d).1 ≠ .again) (n : Nat) :
    s.rounds d (n + 1) = s.round d := by
  rw [rounds]
  generalize s.round d = result at answer ⊢
  obtain ⟨r, s'⟩ := result
  cases r with
  | again => exact absurd rfl answer
  | _ => rfl

/-- A poll is over after two rounds, however many it may go. -/
theorem rounds_eq_poll (n : Nat) : s.rounds d (n + 2) = s.poll d := by
  by_cases answer : (s.round d).1 ≠ .again
  · rw [poll, rounds_of_answer answer, rounds_of_answer answer]
  · have again : s.round d = (.again, (s.round d).2) := Prod.ext (Decidable.not_not.mp answer) rfl
    have unready := round_unready (d := d) (ready_of_again again).2
    rw [poll, rounds, rounds, again]
    dsimp only
    rw [rounds_of_answer unready, rounds_of_answer unready]

theorem poll_of_answer (answer : (s.round d).1 ≠ .again) : s.poll d = s.round d :=
  rounds_of_answer answer 1

/-- After a round that attends, a poll goes on as one that begins there. -/
theorem poll_of_again (again : s.round d = (.again, s')) : s.poll d = s'.poll d := by
  rw [poll_of_answer (round_unready (ready_of_again again).2), poll, rounds, again]
  exact rounds_of_answer (round_unready (ready_of_again again).2) 0

theorem poll_ne_again : (s.poll d).1 ≠ .again := by
  by_cases answer : (s.round d).1 ≠ .again
  · exact poll_of_answer answer ▸ answer
  · have again : s.round d = (.again, (s.round d).2) := Prod.ext (Decidable.not_not.mp answer) rfl
    have unready := round_unready (d := d) (ready_of_again again).2
    rw [poll_of_again again, poll_of_answer unready]
    exact unready

/-- How often the detector is attended to in a number of rounds: in those that have no answer, and
in one that fails. -/
def dispatches (d : Detector σ) : (limit : Nat) → EventStream σ → Nat
  | 0, _ => 0
  | n + 1, s =>
    match s.round d with
    | (.again, s) => dispatches d n s + 1
    | (.failed _, _) => 1
    | _ => 0

theorem dispatches_unready (unready : s.ready = false) (n : Nat) : s.dispatches d n = 0 := by
  cases n with
  | zero => rfl
  | succ n =>
    have rounded := rounded d s
    rw [dispatches]
    generalize s.round d = result at rounded ⊢
    cases rounded with
    | answer answers => cases answers <;> rfl
    | attended _ _ ready | failed ready => cases unready.symm.trans ready

theorem dispatches_le_one (d : Detector σ) (n : Nat) (s : EventStream σ) :
    s.dispatches d n ≤ 1 := by
  cases n with
  | zero => exact Nat.zero_le 1
  | succ n =>
    have rounded := rounded d s
    rw [dispatches]
    generalize s.round d = result at rounded ⊢
    cases rounded with
    | answer answers => cases answers <;> exact Nat.zero_le 1
    | attended =>
      dsimp only
      rw [dispatches_unready rfl]
    | failed => exact Nat.le_refl 1

/-! ## Polls -/

/-- A stream whose reactor heard nothing answers without attending to the detector. -/
theorem answers_unready (d : Detector σ) (unready : s.ready = false) : s.Answers (s.poll d) := by
  have rounded := rounded d s
  rw [poll_of_answer (round_unready unready)]
  generalize s.round d = result at rounded ⊢
  cases rounded with
  | answer answers => exact answers
  | attended _ _ ready | failed ready => cases unready.symm.trans ready

/-- What a poll comes to: if it attends to the detector, it goes on as a poll of what that leaves. -/
inductive Polled (d : Detector σ) (s : EventStream σ) : Look × EventStream σ → Prop where
  | answer {r : Look × EventStream σ} (answers : s.Answers r) : Polled d s r
  | attended {h : Host σ} {r : Look × EventStream σ} (none : s.host.engine.pending.toList = [])
      (running : s.host.engine.state = .running) (ready : s.ready = true)
      (attended : s.host.dispatch d = (.ok (), h))
      (later : (⟨h, false⟩ : EventStream σ).poll d = r)
      (answers : (⟨h, false⟩ : EventStream σ).Answers r) : Polled d s r
  | failed {error : Error} {h : Host σ} (ready : s.ready = true)
      (attended : s.host.dispatch d = (.error error, h)) : Polled d s (.failed error, ⟨h, false⟩)

theorem polled (d : Detector σ) (s : EventStream σ) : Polled d s (s.poll d) := by
  have rounded := rounded d s
  rcases eq : s.round d with ⟨r, s'⟩
  rw [eq] at rounded
  have answered (answer : r ≠ .again) : s.poll d = (r, s') := by
    rw [poll_of_answer (by rwa [eq]), eq]
  cases rounded with
  | answer answers => exact answered (by rintro rfl; cases answers) ▸ .answer answers
  | attended none running ready attended =>
    exact .attended none running ready attended (poll_of_again eq).symm
      (poll_of_again eq ▸ answers_unready d rfl)
  | failed ready attended => exact answered nofun ▸ .failed ready attended

/-- A poll uses up what the reactor heard when nothing waits to be handed out from an engine that
runs. -/
theorem ready_poll (d : Detector σ) (used : s.ready = false ∨
    s.host.engine.pending.toList = [] ∧ s.host.engine.state = .running) :
    (s.poll d).2.ready = false := by
  have polled := polled d s
  generalize s.poll d = result at polled ⊢
  cases polled with
  | answer answers =>
    cases answers with
    | event pending => exact used.resolve_right fun waits => by cases pending.symm.trans waits.1
    | ended _ idle => exact used.resolve_right fun waits => by cases idle.symm.trans waits.2
    | pending _ _ unready => exact unready
  | attended _ _ _ _ _ answers => cases answers <;> rfl
  | failed => rfl

/-- Whoever is made to wait is so by an engine that runs and has nothing to hand out. -/
theorem waits_of_pending (pending : s.poll d = (.pending, s')) :
    s'.host.engine.pending.toList = [] ∧ s'.host.engine.state = .running := by
  have polled := polled d s
  rw [pending] at polled
  cases polled with
  | answer answers | attended _ _ _ _ _ answers =>
    cases answers with
    | pending none running => exact ⟨none, running⟩

/-- Whoever waits until he has an answer leaves nothing that the reactor heard: it runs only when
the next poll attends. So what is left of the stream then is its host. -/
theorem ready_wait (d : Detector σ) (n : Nat) (used : s.ready = false ∨
    s.host.engine.pending.toList = [] ∧ s.host.engine.state = .running) :
    (s.wait d n).2.ready = false := by
  induction n generalizing s with
  | zero => exact ready_poll d used
  | succ n ih =>
    have unready := ready_poll d used
    rw [wait]
    rcases poll : s.poll d with ⟨r, k⟩
    rw [poll] at unready
    cases r with
    | pending =>
      dsimp only
      split
      · exact ih (.inr (engine_turn d k ▸ waits_of_pending poll))
      · exact unready
    | _ => exact unready

/-- A stream that is polled attends to the detector at most once, and gives an answer that is no
error. It makes its owner wait only when there is nothing to hand out from an engine that runs; if
no news were left for the reactor to hear of, then the descriptor is not readable, except at a
moment that may be excepted. It is over only when there is nothing to hand out from an idle
engine. -/
structure Polls (d : Detector σ) (excepted : Prop) (s : EventStream σ) : Prop where
  once : ∀ limit, s.dispatches d limit ≤ 1
  answers : (s.poll d).1 ≠ .again
  succeeds : ∀ error, (s.poll d).1 ≠ .failed error
  waits : (s.poll d).1 = .pending →
    (s.poll d).2.host.engine.pending.toList = [] ∧ (s.poll d).2.host.engine.state = .running
  unreadable : ¬ excepted → d.hasNews s.host.world = false → (s.poll d).1 = .pending →
    d.readable (s.poll d).2.host.world = false
  ends : (s.poll d).1 = .ended →
    (s.poll d).2.host.engine.pending.toList = [] ∧ (s.poll d).2.host.engine.state = .idle

/-! ## Asking until there is nothing more -/

/-- A stream is polled until it has nothing more to hand out: the events, and the stream that is
left. The reactor may run at any time in between. To be made to wait is an answer for good only if
it has run at all, and before that the owner may ask again. -/
inductive Listens (d : Detector σ) : (turned : Bool) → EventStream σ → List Event →
    EventStream σ → Prop where
  | turn {turned : Bool} {s s' : EventStream σ} {events : List Event}
      (later : Listens d true (s.turn d) events s') : Listens d turned s events s'
  | event {turned : Bool} {s s' s'' : EventStream σ} {event : Event} {events : List Event}
      (poll : s.poll d = (.event event, s')) (later : Listens d turned s' events s'') :
      Listens d turned s (event :: events) s''
  | early {turned : Bool} {s s' s'' : EventStream σ} {events : List Event}
      (poll : s.poll d = (.pending, s')) (later : Listens d turned s' events s'') :
      Listens d turned s events s''
  | pending {s s' : EventStream σ} (poll : s.poll d = (.pending, s')) : Listens d true s [] s'
  | ended {turned : Bool} {s s' : EventStream σ} (poll : s.poll d = (.ended, s')) :
      Listens d turned s [] s'

theorem Listens.mono {turned : Bool} {events : List Event} (listens : Listens d turned s events s') :
    Listens d true s events s' := by
  induction listens with
  | turn later => exact .turn later
  | event poll _ ih => exact .event poll ih
  | early poll _ ih => exact .early poll ih
  | pending poll => exact .pending poll
  | ended poll => exact .ended poll

/-- What the reactor and every poll keep is kept until there is nothing more. -/
theorem Listens.preserves {g : EventStream σ → Prop} {turned : Bool} {events : List Event}
    (listens : Listens d turned s events s') (turn : ∀ {s : EventStream σ}, g s → g (s.turn d))
    (poll : ∀ {s : EventStream σ}, g s → g (s.poll d).2) (holds : g s) : g s' := by
  have polled {s s' : EventStream σ} {r : Look} (eq : s.poll d = (r, s')) (holds : g s) : g s' := by
    have kept := poll holds
    rwa [eq] at kept
  induction listens with
  | turn _ ih => exact ih (turn holds)
  | event eq _ ih => exact ih (polled eq holds)
  | early eq _ ih => exact ih (polled eq holds)
  | pending eq => exact polled eq holds
  | ended eq => exact polled eq holds

/-- A stream whose reactor heard nothing is soon asked until it has nothing more, and its reactor
has heard nothing then: the events that wait are handed out one by one. Another stream that is polled
alike will do to begin with. -/
theorem exists_listens_unready {turned : Bool} {s₀ : EventStream σ} (d : Detector σ)
    (same : s₀.poll d = s.poll d) (unready : s.ready = false)
    (rests : turned = true ∨ s.host.engine.state = .idle) :
    ∃ events s', Listens d turned s₀ events s' ∧ s'.ready = false := by
  generalize waiting : s.host.engine.pending.toList = es
  induction es generalizing s s₀ with
  | nil =>
    have answers := answers_unready d unready
    rw [← same] at answers
    generalize eq : s₀.poll d = result at answers
    cases answers with
    | event pending => cases waiting.symm.trans pending
    | ended => exact ⟨[], s, .ended eq, unready⟩
    | pending none running =>
      obtain rfl := rests.resolve_right (by simp [running])
      exact ⟨[], s, .pending eq, unready⟩
  | cons e es ih =>
    have answers := answers_unready d unready
    rw [← same] at answers
    generalize eq : s₀.poll d = result at answers
    cases answers with
    | @event _ left pending =>
      obtain ⟨rfl, rest⟩ := List.cons.inj (waiting.symm.trans pending)
      obtain ⟨events, s', later, unready⟩ := ih (s := s.holding left) rfl unready rests rest.symm
      exact ⟨_, s', .event eq later, unready⟩
    | ended none | pending none => cases none.symm.trans waiting

/-- Whoever waits for the next event polls the stream, with a reactor that runs in between. The
induction is on how often it may run. -/
theorem Listens.wait {turned : Bool} {n : Nat} {event : Event} {events : List Event}
    {s'' : EventStream σ} (wait : s.wait d n = (.event event, s'))
    (later : Listens d turned s' events s'') : Listens d turned s (event :: events) s'' := by
  have waited (n : Nat) : ∀ {turned : Bool} {s : EventStream σ},
      s.wait d n = (.event event, s') → Listens d turned s' events s'' →
      Listens d turned s (event :: events) s'' := by
    induction n with
    | zero => exact fun wait later => .event wait later
    | succ n ih =>
      intro turned s wait later
      rw [EventStream.wait] at wait
      rcases poll : s.poll d with ⟨r, k⟩
      rw [poll] at wait
      cases r with
      | pending =>
        dsimp only at wait
        split at wait
        · exact .early poll (.turn (ih wait later.mono))
        · cases wait
      | event => exact .event (poll.trans wait) later
      | _ => cases wait
  exact waited n wait later

end EventStream
end LinkLocal
