import LinkLocal.Daemon.Supervisor
import LinkLocal.Proofs.Host.Episodes

/-! A supervisor at work, turn by turn. In a turn it makes its move, or if there is none to
make, the clock goes to the time of the next one or to that of the signal. There are few
situations that a daemon on its own link can be in, and each leads to few others; on the way
the clock moves, or the move was one of a few that can be made at one time. So a run ends, and
the steps that it may take are enough for it. -/
namespace LinkLocal.Daemon.Supervisor

open Simulation Simulation.Network

variable {signal : Signal} {time : Nat} {s : Supervisor}

/-! ## Turns -/

/-- What a supervisor does next, with a signal at the given time. -/
def turn (signal : Signal) (time : Nat) (s : Supervisor) : Supervisor :=
  match s.move? with
  | some s => s
  | none =>
    match s.stage, s.due? with
    | .ended _, _ => s
    | _, some due => if due < time then s.advanceTo due else (s.advanceTo time).shutDown signal
    | _, none => (s.advanceTo time).shutDown signal

/-- Whether a supervisor has come to its end. -/
def Ended (s : Supervisor) : Prop := ∃ code, s.stage = .ended code

theorem Ended.run_eq (ended : s.Ended) (steps : Nat) : s.run signal time (steps + 1) = s := by
  obtain ⟨code, stage⟩ := ended
  simp only [run, move?, stage]

theorem Ended.turn_eq (ended : s.Ended) : s.turn signal time = s := by
  obtain ⟨code, stage⟩ := ended
  simp only [turn, move?, stage]

theorem ended_shutDown (signal : Signal) (s : Supervisor) : (s.shutDown signal).Ended :=
  ⟨.clean, rfl⟩

/-- A run is one turn after the other. -/
theorem run_succ_succ (steps : Nat) :
    s.run signal time (steps + 2) = (s.turn signal time).run signal time (steps + 1) := by
  have stays (s : Supervisor) :
      s.shutDown signal = (s.shutDown signal).run signal time (steps + 1) :=
    ((ended_shutDown signal s).run_eq steps).symm
  have later (due : Nat) : (if due < time then (s.advanceTo due).run signal time (steps + 1)
      else (s.advanceTo time).shutDown signal) =
      (if due < time then s.advanceTo due else (s.advanceTo time).shutDown signal).run signal time
        (steps + 1) := by
    split
    · rfl
    · exact stays _
  rw [run, turn]
  cases moves : s.move? with
  | some s' => rfl
  | none =>
    cases stage : s.stage with
    | ended code => exact (Ended.run_eq ⟨code, stage⟩ steps).symm
    | serving =>
      cases s.due? with
      | none => exact stays _
      | some due => exact later due
    | resting _ =>
      cases s.due? with
      | none => exact stays _
      | some due => exact later due

/-- A run that has more steps to make than it needs turns ends where the turns do. -/
theorem run_eq_iterate {n steps : Nat} (ended : ((turn signal time)^[n] s).Ended)
    (enough : n < steps) : s.run signal time steps = (turn signal time)^[n] s := by
  induction n generalizing s steps with
  | zero =>
    obtain ⟨steps, rfl⟩ : ∃ m, steps = m + 1 := ⟨steps - 1, by omega⟩
    exact ended.run_eq steps
  | succ n ih =>
    obtain ⟨steps, rfl⟩ : ∃ m, steps = m + 2 := ⟨steps - 2, by omega⟩
    rw [run_succ_succ, Function.iterate_succ_apply]
    exact ih ended (by omega)

/-! ## Moves -/

theorem turn_of_move {s' : Supervisor} (move : s.move? = some s') : s.turn signal time = s' := by
  rw [turn, move]

/-- Without a move to make, the clock goes to the time of the next one, if that is before the
signal. -/
theorem turn_of_due {due : Nat} (move : s.move? = none) (awake : ¬ s.Ended)
    (next : s.due? = some due) : s.turn signal time =
      if due < time then s.advanceTo due else (s.advanceTo time).shutDown signal := by
  rw [turn, move, next]
  cases stage : s.stage with
  | ended code => exact absurd ⟨code, stage⟩ awake
  | _ => rfl

/-- Without any move to come, the signal ends the run. -/
theorem turn_of_not_due (move : s.move? = none) (awake : ¬ s.Ended) (next : s.due? = none) :
    s.turn signal time = (s.advanceTo time).shutDown signal := by
  rw [turn, move, next]
  cases stage : s.stage with
  | ended code => exact absurd ⟨code, stage⟩ awake
  | _ => rfl

theorem not_ended_of_serving (serving : s.stage = .serving) : ¬ s.Ended := by
  rintro ⟨code, ended⟩
  cases serving.symm.trans ended

theorem not_ended_of_resting {due : Nat} (resting : s.stage = .resting due) : ¬ s.Ended := by
  rintro ⟨code, ended⟩
  cases resting.symm.trans ended

/-! ## Situations -/

/-- A supervisor whose configuration is acceptable, and which rests and probes for some time. -/
structure Sound (s : Supervisor) : Prop where
  valid : s.config.validate = .ok ()
  probes : 0 < probeTime s.config
  rests : 0 < s.settings.restartDelay.nanoseconds

/-- The situations of a supervisor. Each has a number, which grows less with every turn until
the clock moves. -/
inductive Situation (s : Supervisor) : Nat → Prop where
  | waiting {i t : Nat} (serving : s.stage = .serving) (probing : Probing s.tap s.config i t s.host)
      (early : s.now < t) : Situation s 1
  | due {i t : Nat} (serving : s.stage = .serving) (probing : Probing s.tap s.config i t s.host)
      (due : t ≤ s.now) : Situation s 5
  | offering {i : Nat} (serving : s.stage = .serving)
      (offering : Offering s.tap s.config i s.host) : Situation s 3
  | settled (serving : s.stage = .serving) (settled : Settled s.tap s.host) : Situation s 1
  | fallen (serving : s.stage = .serving) (fallen : Resting s.tap [.down] s.host) : Situation s 4
  | stopped (serving : s.stage = .serving) (stopped : Resting s.tap [] s.host) : Situation s 3
  | resting {due : Nat} (stage : s.stage = .resting due) (resting : Resting s.tap [] s.host)
      (early : s.now < due) : Situation s 1
  | rested {due : Nat} (stage : s.stage = .resting due) (resting : Resting s.tap [] s.host)
      (rested : due ≤ s.now) : Situation s 2
  | ended {code : ExitCode} (stage : s.stage = .ended code) : Situation s 0

/-! ## One turn -/

section

variable (signal time)

/-- A probe that is not over is waited for. -/
theorem turn_waiting {i t : Nat} (serving : s.stage = .serving)
    (probing : Probing s.tap s.config i t s.host) (early : s.now < t) : s.turn signal time =
      if t < time then s.advanceTo t else (s.advanceTo time).shutDown signal := by
  have looked := look_pending (p := s.tap) probing.running probing.pending fun t' untold => by
    cases probing.untold.symm.trans untold
    exact early
  refine turn_of_due ?_ (not_ended_of_serving serving) ?_
  · simp only [move?, serving, detector, looked]
  · simp only [due?, serving, probing.untold]

/-- A host that has announced is left alone until the signal. -/
theorem turn_settled (serving : s.stage = .serving) (settled : Settled s.tap s.host) :
    s.turn signal time = (s.advanceTo time).shutDown signal := by
  have quiet : (s.host.world.link.timer s.tap).untold = none := settled.unheard
  have looked := look_pending (p := s.tap) settled.running settled.pending fun t untold => by
    cases quiet.symm.trans untold
  refine turn_of_not_due ?_ (not_ended_of_serving serving) ?_
  · simp only [move?, serving, detector, looked]
  · simp only [due?, serving, quiet]

/-- At the end of a probe the host goes on, or its failure is the end of the run. -/
theorem turn_due (serving : s.stage = .serving) {i : Nat} {r : Host.Look} {h : Host Network}
    (looked : s.host.look s.detector = (r, h)) (concluded : Concluded s.tap s.config i s.host r h) :
    r = .again ∧ s.turn signal time = { s with host := h } ∨
      ∃ e, r = .failed e ∧ s.turn signal time = fail e { s with host := h } := by
  cases concluded with
  | @failed error _ _ _ =>
    exact .inr ⟨error, rfl, turn_of_move (by simp only [move?, serving, looked])⟩
  | _ => exact .inl ⟨rfl, turn_of_move (by simp only [move?, serving, looked])⟩

/-- A candidate that is offered is announced. -/
theorem turn_offering {i : Nat} (serving : s.stage = .serving)
    (offering : Offering s.tap s.config i s.host) : ∃ h, s.turn signal time = { s with host := h } ∧
      Settled s.tap h ∧ h.world.now = s.now ∧ h.world.toFail = s.host.world.toFail ∧
      h.world.announcements =
        s.host.world.announcements ++ [(s.now, s.config.candidate i)] := by
  obtain ⟨left, empty, looked⟩ := look_event (p := s.tap) offering.pending
  generalize taken : ({ s.host.engine with pending := left } : Engine) = e at looked
  have running : e.state = .running := by rw [← taken, offering.running]
  have pending : e.pending.toList = [] := by rw [← taken, empty]
  obtain ⟨h, claimed, same, timer, now, calls, announcements⟩ := host_announce_ready
    (h := (⟨e, s.host.world⟩ : Host Network).note (.claiming (s.config.candidate i)))
    (offering.solitary.note _) running offering.phase offering.probe
  refine ⟨h, turn_of_move ?_, ⟨?_, same ▸ running, same ▸ pending⟩, now, calls, ?_⟩
  · simp only [move?, serving, detector, looked, handle, claimed]
  · rw [Unheard, timer]
    exact offering.unheard
  · rw [announcements]
    exact congrArg (· ++ _) (announcements_note_of_none (by rfl) s.host.world)

/-- Who has fallen tells of it. -/
theorem turn_fallen (serving : s.stage = .serving) (fallen : Resting s.tap [.down] s.host) :
    ∃ h, s.turn signal time = { s with host := h } ∧ Resting s.tap [] h ∧
      h.world = s.host.world.note .linkDown := by
  obtain ⟨left, empty, looked⟩ := look_event (p := s.tap) fallen.pending
  refine ⟨(⟨{ s.host.engine with pending := left }, s.host.world⟩ : Host Network).note .linkDown,
    turn_of_move (by simp only [move?, serving, detector, looked, handle]),
    ⟨fallen.solitary.note _, fallen.phase, fallen.idle, empty⟩, rfl⟩

/-- Who has told of its fall rests. -/
theorem turn_stopped (serving : s.stage = .serving) (stopped : Resting s.tap [] s.host) :
    s.turn signal time = s.rest := by
  refine turn_of_move ?_
  simp only [move?, serving, detector, look_ended stopped]
  rw [← serving]

theorem turn_resting {due : Nat} (stage : s.stage = .resting due) (early : s.now < due) :
    s.turn signal time =
      if due < time then s.advanceTo due else (s.advanceTo time).shutDown signal := by
  refine turn_of_due ?_ (not_ended_of_resting stage) ?_
  · simp only [move?, stage, if_neg (Nat.not_le.mpr early)]
  · simp only [due?, stage]

theorem turn_rested {due : Nat} (stage : s.stage = .resting due) (rested : due ≤ s.now) :
    s.turn signal time = s.start :=
  turn_of_move (by simp only [move?, stage, if_pos rested])

end

theorem advanceTo_now (time : Nat) (s : Supervisor) (later : s.now ≤ time) :
    (s.advanceTo time).now = time := Nat.max_eq_right later

/-! ## The end of a run -/

theorem silent_stop (p : Nat) (h : Host Network) :
    Silent h.world (h.stop (Network.detector p)).world := by
  have stopped : Silent h.world (h.world.stop p) :=
    .of_work (moves_stop p h.world) (strokes_stop p h.world)
  rw [Host.stop]
  dsimp only
  split
  · exact stopped.trans (.note (by rfl) _)
  · exact stopped

/-- Giving up the engine and its detector tells nothing to the link. -/
theorem silent_release (p : Nat) (h : Host Network) :
    Silent h.world (h.release (Network.detector p)) := by
  have stopped := (silent_stop p h).trans
    (.note (x := .released (h.stop (Network.detector p)).engine.pending.length) (by rfl) _)
  -- Closing a detector halts it, and removes it from the link without a word.
  have halted (n : Network) : Silent n (n.halt p) :=
    .of_work (Moves.refl n).halt (Strokes.refl n).halt
  have closed (n : Network) : Silent n (n.close p) :=
    ⟨(halted n).now, (halted n).announcements, (halted n).toFail⟩
  exact stopped.trans (closed _)

/-- A supervisor that fails gives up its engine. -/
theorem fail_eq (e : Error) (s : Supervisor) : s.fail e =
    ⟨s.settings, s.config, s.tap,
      (⟨s.host.engine, s.host.release (Network.detector s.tap)⟩ : Host Network).note
        (.daemonFailed (Fault.engine e).text), .ended .runtime⟩ := by
  simp only [fail, release, note, detector]

/-- A supervisor that shuts down stops its engine and gives it up. -/
theorem shutDown_eq (signal : Signal) (s : Supervisor) :
    let h := ((s.host.note (.signalled signal.name)).note .shuttingDown).stop
      (Network.detector s.tap)
    s.shutDown signal = ⟨s.settings, s.config, s.tap,
      ⟨h.engine, h.release (Network.detector s.tap)⟩, .ended .clean⟩ := by
  simp only [shutDown, release, note, detector]

theorem ended_fail (e : Error) (s : Supervisor) : (s.fail e).Ended := by
  rw [fail_eq]
  exact ⟨.runtime, rfl⟩

theorem silent_fail (e : Error) (s : Supervisor) :
    Silent s.host.world (s.fail e).host.world := by
  rw [fail_eq]
  exact (silent_release s.tap s.host).trans
    (.note (x := .daemonFailed (Fault.engine e).text) (by rfl) _)

theorem silent_shutDown (signal : Signal) (s : Supervisor) :
    Silent s.host.world (s.shutDown signal).host.world := by
  have noted : Silent s.host.world
      ((s.host.note (.signalled signal.name)).note .shuttingDown).world :=
    (Silent.note (x := .signalled signal.name) (by rfl) _).trans
      (.note (x := .shuttingDown) (by rfl) _)
  rw [shutDown_eq]
  exact (noted.trans (silent_stop s.tap _)).trans (silent_release s.tap _)

/-- Who shuts down has stopped the engine. -/
theorem idle_shutDown (signal : Signal) (s : Supervisor) :
    (s.shutDown signal).host.engine.state = .idle := by
  rw [shutDown_eq, Host.stop]

/-! ## From situation to situation -/

/-- What stays through a turn of a supervisor, and what goes one way only. The clock goes no further
than to the signal. -/
structure Goes (time : Nat) (s s' : Supervisor) : Prop where
  settings : s'.settings = s.settings
  config : s'.config = s.config
  tap : s'.tap = s.tap
  now : s.now ≤ s'.now
  within : s'.now ≤ max s.now time
  toFail : s'.host.world.toFail ≤ s.host.world.toFail

theorem Goes.of_now {s' : Supervisor} (settings : s'.settings = s.settings)
    (config : s'.config = s.config) (tap : s'.tap = s.tap) (now : s'.now = s.now)
    (toFail : s'.host.world.toFail ≤ s.host.world.toFail) : Goes time s s' :=
  ⟨settings, config, tap, now.ge, now.trans_le (Nat.le_max_left ..), toFail⟩

theorem Goes.refl (time : Nat) (s : Supervisor) : Goes time s s := .of_now rfl rfl rfl rfl le_rfl

theorem Goes.trans {s s' s'' : Supervisor} (first : Goes time s s') (second : Goes time s' s'') :
    Goes time s s'' where
  settings := second.settings.trans first.settings
  config := second.config.trans first.config
  tap := second.tap.trans first.tap
  now := first.now.trans second.now
  within := second.within.trans (max_le first.within (Nat.le_max_right ..))
  toFail := second.toFail.trans first.toFail

theorem Goes.of_host {h : Host Network} (unmoved : Unmoved s.host.world h.world) :
    Goes time s { s with host := h } := .of_now rfl rfl rfl unmoved.now unmoved.toFail

theorem goes_advanceTo {t : Nat} (within : t ≤ time) (s : Supervisor) :
    Goes time s (s.advanceTo t) :=
  ⟨rfl, rfl, rfl, Nat.le_max_left .., max_le_max_left _ within, le_rfl⟩

theorem goes_shutDown (signal : Signal) (time : Nat) (s : Supervisor) :
    Goes time s (s.shutDown signal) := by
  obtain ⟨now, -, toFail⟩ := silent_shutDown signal s
  rw [shutDown_eq] at now toFail ⊢
  exact .of_now rfl rfl rfl now toFail

theorem goes_fail (e : Error) (time : Nat) (s : Supervisor) : Goes time s (s.fail e) := by
  obtain ⟨now, -, toFail⟩ := silent_fail e s
  rw [fail_eq] at now toFail ⊢
  exact .of_now rfl rfl rfl now toFail

/-- A start is an end, or the first candidate is probed. -/
theorem start_cases (valid : s.config.validate = .ok ()) (resting : Resting s.tap [] s.host) :
    (∃ e h, s.host.start s.detector s.config = (.error e, h) ∧
        s.start = fail e { s with host := h } ∧ Hindered s.config s.host.world h.world ∧
        Unmoved s.host.world h.world) ∨
      ∃ h, s.host.start s.detector s.config = (.ok (), h) ∧
        s.start = { s with host := h, stage := .serving } ∧ Unmoved s.host.world h.world ∧
        Probing s.tap s.config 0 (s.now + probeTime s.config) h := by
  rcases host_start_resting resting valid with
    ⟨e, h, eq, hindered, unmoved⟩ | ⟨h, eq, unmoved, probing⟩
  · refine .inl ⟨e, h, eq, ?_, hindered, unmoved⟩
    simp only [start, show s.host.start s.detector s.config = _ from eq]
  · refine .inr ⟨h, eq, ?_, unmoved, probing⟩
    simp only [start, show s.host.start s.detector s.config = _ from eq]

/-- How far a supervisor is from the end of its run, at most: the clock first. -/
def distance (time : Nat) (s : Supervisor) (number : Nat) : Nat := 8 * (time - s.now) + number

/-- One supervisor is in a situation that is closer to the end of the run than another one. -/
def Closer (time : Nat) (s : Supervisor) (number : Nat) (s' : Supervisor) : Prop :=
  ∃ number', Situation s' number' ∧ s'.distance time number' < s.distance time number

theorem Closer.of_now {number number' : Nat} {s' : Supervisor} (situation : Situation s' number')
    (now : s'.now = s.now) (less : number' < number) : Closer time s number s' := by
  refine ⟨number', situation, ?_⟩
  rw [distance, distance, now]
  omega

theorem Closer.of_later {number number' : Nat} {s' : Supervisor} (situation : Situation s' number')
    (later : s.now < s'.now) (within : s'.now ≤ time) (few : number' < 8) :
    Closer time s number s' := by
  refine ⟨number', situation, ?_⟩
  rw [distance, distance]
  omega

theorem Closer.of_ended {number : Nat} {s' : Supervisor} (ended : s'.Ended)
    (goes : Goes time s s') (positive : 0 < number) : Closer time s number s' := by
  obtain ⟨code, stage⟩ := ended
  have later := goes.now
  refine ⟨0, .ended stage, ?_⟩
  rw [distance, distance]
  omega

/-- The signal is the end. -/
theorem closer_signalled (signal : Signal) (time : Nat) (s : Supervisor) {number : Nat}
    (positive : 0 < number) : Goes time s ((s.advanceTo time).shutDown signal) ∧
      Closer time s number ((s.advanceTo time).shutDown signal) := by
  have goes := (goes_advanceTo le_rfl s).trans (goes_shutDown signal time _)
  exact ⟨goes, .of_ended (ended_shutDown signal _) goes positive⟩

/-- A failure is the end. -/
theorem closer_failed {e : Error} {h : Host Network} {number : Nat}
    (unmoved : Unmoved s.host.world h.world) (positive : 0 < number) :
    Goes time s (fail e { s with host := h }) ∧
      Closer time s number (fail e { s with host := h }) := by
  have goes := (Goes.of_host unmoved).trans (goes_fail e time { s with host := h })
  exact ⟨goes, .of_ended (ended_fail e _) goes positive⟩

/-- The end of a probe leads on. -/
theorem closer_due {i t : Nat} (sound : s.Sound) (serving : s.stage = .serving)
    (probing : Probing s.tap s.config i t s.host) (due : t ≤ s.now) (signal : Signal) (time : Nat) :
    Goes time s (s.turn signal time) ∧ Closer time s 5 (s.turn signal time) := by
  obtain ⟨unmoved, concluded⟩ := probing.look sound.valid due
  rcases looked : s.host.look s.detector with ⟨r, h⟩
  rw [show s.host.look (Network.detector s.tap) = _ from looked] at unmoved concluded
  rcases turn_due signal time serving looked concluded with ⟨rfl, eq⟩ | ⟨e, rfl, eq⟩
  · rw [eq]
    have now : Supervisor.now { s with host := h } = s.now := unmoved.now
    refine ⟨.of_host unmoved, ?_⟩
    cases concluded with
    | offering _ offering => exact .of_now (.offering serving offering) now (by omega)
    | next _ probing =>
      refine .of_now (.waiting serving probing ?_) now (by omega)
      rw [now]
      exact Nat.lt_add_of_pos_right sound.probes
    | fallen _ fallen => exact .of_now (.fallen serving fallen) now (by omega)
  · rw [eq]
    exact closer_failed unmoved (by omega)

/-- The end of a rest leads on. -/
theorem closer_rested {due : Nat} (sound : s.Sound) (stage : s.stage = .resting due)
    (resting : Resting s.tap [] s.host) (rested : due ≤ s.now) (signal : Signal) (time : Nat) :
    Goes time s (s.turn signal time) ∧ Closer time s 2 (s.turn signal time) := by
  rw [turn_rested signal time stage rested]
  rcases start_cases sound.valid resting with
    ⟨e, h, _, eq, _, unmoved⟩ | ⟨h, _, eq, unmoved, probing⟩
  · rw [eq]
    exact closer_failed unmoved (by omega)
  · rw [eq]
    have now : Supervisor.now { s with host := h, stage := .serving } = s.now := unmoved.now
    refine ⟨.of_now rfl rfl rfl now unmoved.toFail, .of_now (.waiting rfl probing ?_) now ?_⟩
    · rw [now]
      exact Nat.lt_add_of_pos_right sound.probes
    · omega

/-- Before the end, a turn leads to another situation, closer to the end. -/
theorem Situation.closer {number : Nat} (situation : Situation s number) (signal : Signal)
    (time : Nat) (sound : s.Sound) (awake : ¬ s.Ended) :
    Goes time s (s.turn signal time) ∧ Closer time s number (s.turn signal time) := by
  cases situation with
  | @waiting i t serving probing early =>
    rw [turn_waiting signal time serving probing early]
    split
    · next before =>
      have now := advanceTo_now t s early.le
      have after : Probing s.tap s.config i t (s.advanceTo t).host := probing.advanceTo t
      refine ⟨goes_advanceTo before.le s, .of_later (.due serving after now.ge) ?_ ?_ (by omega)⟩
      · rwa [now]
      · exact now.trans_le before.le
    · exact closer_signalled signal time s one_pos
  | due serving probing due =>
    exact closer_due sound serving probing due signal time
  | offering serving offering =>
    obtain ⟨h, eq, settled, now, calls, _⟩ := turn_offering signal time serving offering
    rw [eq]
    exact ⟨.of_now rfl rfl rfl now calls.le, .of_now (.settled serving settled) now (by omega)⟩
  | settled serving settled =>
    rw [turn_settled signal time serving settled]
    exact closer_signalled signal time s one_pos
  | fallen serving fallen =>
    obtain ⟨h, eq, stopped, world⟩ := turn_fallen signal time serving fallen
    have unmoved : Unmoved s.host.world h.world := world ▸ .note (by rfl) _
    rw [eq]
    exact ⟨.of_host unmoved, .of_now (.stopped serving stopped) unmoved.now (by omega)⟩
  | stopped serving stopped =>
    rw [turn_stopped signal time serving stopped]
    have now : s.rest.now = s.now := rfl
    have rested : Resting s.tap [] s.rest.host := stopped.note _
    have early : s.rest.now < s.now + s.settings.restartDelay.nanoseconds :=
      Nat.lt_add_of_pos_right sound.rests
    exact ⟨.of_now rfl rfl rfl now le_rfl, .of_now (.resting rfl rested early) now (by omega)⟩
  | @resting due stage resting early =>
    rw [turn_resting signal time stage early]
    split
    · next before =>
      have now := advanceTo_now due s early.le
      have after : Resting s.tap [] (s.advanceTo due).host := resting.advanceTo due
      refine ⟨goes_advanceTo before.le s, .of_later (.rested stage after now.ge) ?_ ?_ (by omega)⟩
      · rwa [now]
      · exact now.trans_le before.le
    · exact closer_signalled signal time s one_pos
  | rested stage resting rested =>
    exact closer_rested sound stage resting rested signal time
  | ended stage => exact absurd ⟨_, stage⟩ awake

/-- A turn leads from one situation to another. -/
theorem Situation.step {number : Nat} (situation : Situation s number) (signal : Signal)
    (time : Nat) (sound : s.Sound) :
    Goes time s (s.turn signal time) ∧ ∃ number', Situation (s.turn signal time) number' := by
  by_cases ended : s.Ended
  · rw [ended.turn_eq]
    exact ⟨.refl time s, number, situation⟩
  · obtain ⟨goes, number', situation', _⟩ := situation.closer signal time sound ended
    exact ⟨goes, number', situation'⟩

end LinkLocal.Daemon.Supervisor
