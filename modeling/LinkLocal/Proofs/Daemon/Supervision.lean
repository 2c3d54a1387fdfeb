import LinkLocal.Proofs.Daemon.Launch

/-! The daemon's supervision of its engine, whatever calls on the timer fail. The engine stops by
itself in one way only, when a detector whose candidate was taken refuses the next one; the daemon
is told, rests, and starts the engine anew with the same configuration, unless the signal comes
first. And a run ends in three ways: by the signal, by a start that is refused, and by a detector
that cannot be attended to, in which case nothing was reselected. -/
namespace LinkLocal.Daemon

open Simulation Simulation.Network

namespace Supervisor

variable {signal : Signal} {time : Nat} {s : Supervisor}

/-! ## The course of a run -/

theorem Sound.of_goes {s' : Supervisor} (sound : s.Sound) (goes : Goes time s s') : s'.Sound := by
  obtain ⟨valid, probes, rests⟩ := sound
  exact ⟨goes.config.symm ▸ valid, goes.config.symm ▸ probes, goes.settings.symm ▸ rests⟩

/-- A supervisor is in one of its situations all the time. -/
theorem Situation.iterate {number : Nat} (situation : Situation s number) (signal : Signal)
    (time : Nat) (sound : s.Sound) (n : Nat) : Goes time s ((turn signal time)^[n] s) ∧
      ∃ number', Situation ((turn signal time)^[n] s) number' := by
  induction n with
  | zero => exact ⟨.refl time s, number, situation⟩
  | succ n ih =>
    obtain ⟨goes, number', situation'⟩ := ih
    rw [Function.iterate_succ_apply']
    exact (situation'.step signal time (sound.of_goes goes)).imp_left goes.trans

/-- A run comes to its end, in as many turns as it is far from it at most. -/
theorem Situation.exists_end {number : Nat} (situation : Situation s number) (signal : Signal)
    (time : Nat) (sound : s.Sound) :
    ∃ n ≤ s.distance time number, ((turn signal time)^[n] s).Ended ∧
      ∀ i < n, ¬ ((turn signal time)^[i] s).Ended := by
  generalize bound : s.distance time number = d
  induction d using Nat.strong_induction_on generalizing s number with
  | _ d ih =>
    subst bound
    by_cases ended : s.Ended
    · exact ⟨0, Nat.zero_le _, ended, fun i early => absurd early (Nat.not_lt_zero i)⟩
    · obtain ⟨goes, number', situation', less⟩ := situation.closer signal time sound ended
      obtain ⟨n, within, last, before⟩ := ih _ less situation' (sound.of_goes goes) rfl
      refine ⟨n + 1, by omega, by rwa [Function.iterate_succ_apply], ?_⟩
      intro i early
      cases i with
      | zero => exact ended
      | succ i =>
        rw [Function.iterate_succ_apply]
        exact before i (by omega)

/-! ## How a run ends -/

/-- The ways in which a turn can end a run. -/
inductive Ends (signal : Signal) (time : Nat) (s : Supervisor) : ExitCode → Supervisor → Prop where
  | signalled : Ends signal time s .clean ((s.advanceTo time).shutDown signal)
  | startRefused {due : Nat} {e : Error} {h : Host Network} (stage : s.stage = .resting due)
      (refused : s.host.start s.detector s.config = (.error e, h)) :
      Ends signal time s .runtime (fail e { s with host := h })
  /-- The detector could not be attended to, and the engine is as it was. -/
  | dispatchFailed {e : Error} {h : Host Network} (stage : s.stage = .serving)
      (failed : s.host.look s.detector = (.failed e, h)) (same : h.engine = s.host.engine) :
      Ends signal time s .runtime (fail e { s with host := h })

theorem Ends.stage {code : ExitCode} {s' : Supervisor} (ends : Ends signal time s code s') :
    s'.stage = .ended code := by
  cases ends with
  | signalled => rfl
  | startRefused => rw [fail_eq]
  | dispatchFailed => rw [fail_eq]

theorem Ends.idle {s' : Supervisor} (ends : Ends signal time s .clean s') :
    s'.host.engine.state = .idle := by
  cases ends with
  | signalled => exact idle_shutDown signal _

/-- A turn ends the run in one of its ways, or does not end it. -/
theorem Situation.ends {number : Nat} (situation : Situation s number) (sound : s.Sound)
    (awake : ¬ s.Ended) (ended : (s.turn signal time).Ended) :
    ∃ code, Ends signal time s code (s.turn signal time) := by
  have serving {h : Host Network} (stage : s.stage = .serving) :
      ¬ Supervisor.Ended { s with host := h } := not_ended_of_serving stage
  cases situation with
  | waiting stage probing early =>
    rw [turn_waiting signal time stage probing early] at ended ⊢
    split at ended
    · exact absurd ended (not_ended_of_serving stage)
    · next after => exact ⟨.clean, if_neg after ▸ .signalled⟩
  | due stage probing due =>
    obtain ⟨_, concluded⟩ := probing.look sound.valid due
    rcases looked : s.host.look s.detector with ⟨r, h⟩
    rw [show s.host.look (Network.detector s.tap) = _ from looked] at concluded
    rcases turn_due signal time stage looked concluded with
      ⟨rfl, eq⟩ | ⟨e, rfl, eq⟩
    · rw [eq] at ended
      exact absurd ended (serving stage)
    · rw [eq]
      cases concluded with
      | failed same _ => exact ⟨.runtime, .dispatchFailed stage looked same⟩
  | offering stage offering =>
    obtain ⟨h, eq, _⟩ := turn_offering signal time stage offering
    rw [eq] at ended
    exact absurd ended (serving stage)
  | settled stage settled =>
    rw [turn_settled signal time stage settled]
    exact ⟨.clean, .signalled⟩
  | fallen stage fallen =>
    obtain ⟨h, eq, _⟩ := turn_fallen signal time stage fallen
    rw [eq] at ended
    exact absurd ended (serving stage)
  | stopped stage stopped =>
    rw [turn_stopped signal time stage stopped] at ended
    exact absurd ended (not_ended_of_resting rfl)
  | resting stage resting early =>
    rw [turn_resting signal time stage early] at ended ⊢
    split at ended
    · exact absurd ended (not_ended_of_resting stage)
    · next after => exact ⟨.clean, if_neg after ▸ .signalled⟩
  | rested stage resting rested =>
    rw [turn_rested signal time stage rested] at ended ⊢
    rcases start_cases sound.valid resting with ⟨e, h, refused, eq, _⟩ | ⟨h, _, eq, _⟩
    · rw [eq]
      exact ⟨.runtime, .startRefused stage refused⟩
    · rw [eq] at ended
      exact absurd ended (not_ended_of_serving rfl)
  | ended stage => exact absurd ⟨_, stage⟩ awake

/-! ## When the engine stops by itself -/

/-- The engine is running before a turn and idle behind it, and it was not the signal that
stopped it. -/
def StopsByItself (signal : Signal) (time : Nat) (s : Supervisor) : Prop :=
  s.host.engine.state = .running ∧ (s.turn signal time).host.engine.state = .idle ∧
    s.turn signal time ≠ (s.advanceTo time).shutDown signal

/-- The engine stops by itself when a candidate was taken and the next one is refused. The daemon
goes on with the event of that. -/
theorem Situation.fallen_of_stops {number : Nat} (situation : Situation s number)
    (sound : s.Sound) (stops : StopsByItself signal time s) :
    (s.turn signal time).stage = .serving ∧
      Resting (s.turn signal time).tap [.down] (s.turn signal time).host ∧
      (s.turn signal time).now = s.now ∧ ∃ a fault rest, (s.turn signal time).host.world.journal =
        (s.now, .wentDown) :: (s.now, .restartFailed a fault) :: rest := by
  obtain ⟨running, idle, self⟩ := stops
  have contradiction {h : Host Network} (still : h.engine.state = .running)
      (idle : h.engine.state = .idle) : False := by cases still.symm.trans idle
  cases situation with
  | waiting stage probing early =>
    rw [turn_waiting signal time stage probing early] at idle self
    split at idle
    · exact (contradiction (h := s.host) running idle).elim
    · next after => exact absurd (if_neg after) self
  | due stage probing due =>
    obtain ⟨unmoved, concluded⟩ := probing.look sound.valid due
    rcases looked : s.host.look s.detector with ⟨r, h⟩
    rw [show s.host.look (Network.detector s.tap) = _ from looked] at unmoved concluded
    rcases turn_due signal time stage looked concluded with
      ⟨rfl, eq⟩ | ⟨e, rfl, eq⟩
    · rw [eq] at idle ⊢
      cases concluded with
      | offering _ offering => exact (contradiction offering.running idle).elim
      | next _ probing => exact (contradiction probing.running idle).elim
      | fallen _ fallen _ refused => exact ⟨stage, fallen, unmoved.now, _, _, _, refused⟩
    · rw [eq, fail_eq] at idle
      cases concluded with
      | failed same _ =>
        exact (contradiction (h := h) (congrArg Engine.state same ▸ running) idle).elim
  | offering stage offering =>
    obtain ⟨h, eq, settled, _⟩ := turn_offering signal time stage offering
    rw [eq] at idle
    exact (contradiction settled.running idle).elim
  | settled stage settled => exact absurd (turn_settled signal time stage settled) self
  | fallen stage fallen => exact (contradiction running fallen.idle).elim
  | stopped stage stopped => exact (contradiction running stopped.idle).elim
  | resting stage resting early => exact (contradiction running resting.idle).elim
  | rested stage resting rested => exact (contradiction running resting.idle).elim
  | ended stage =>
    rw [Ended.turn_eq ⟨_, stage⟩] at idle
    exact (contradiction running idle).elim

/-- What comes of a rest of the daemon: when it ends, the engine is started anew, and either that
is refused or the first candidate is probed; or the signal comes before. -/
structure Resumes (signal : Signal) (time due : Nat) (s : Supervisor) : Prop where
  starts : due < time →
    (s.turn signal time).now = due ∧ (turn signal time)^[2] s = (s.turn signal time).start
  begins : due < time →
    (∃ h, (s.turn signal time).host.start s.detector s.config = (.ok (), h) ∧
      h.engine.probe = some (probeAt s.config 0) ∧ h.engine.selector = s.config.position 0) ∨
    ∃ e h, (s.turn signal time).host.start s.detector s.config = (.error e, h) ∧
      ((turn signal time)^[2] s).stage = .ended .runtime
  signalled : time ≤ due → s.turn signal time = (s.advanceTo time).shutDown signal

theorem resumes_of_resting {due : Nat} (valid : s.config.validate = .ok ())
    (stage : s.stage = .resting due) (resting : Resting s.tap [] s.host) (early : s.now < due) :
    Resumes signal time due s := by
  have turned := turn_resting signal time stage early
  have clock := advanceTo_now due s early.le
  have started : (s.advanceTo due).turn signal time = (s.advanceTo due).start :=
    turn_rested signal time stage clock.ge
  have twice : (turn signal time)^[2] s = (s.turn signal time).turn signal time := rfl
  constructor
  · intro before
    rw [if_pos before] at turned
    rw [twice, turned]
    exact ⟨clock, started⟩
  · intro before
    rw [if_pos before] at turned
    rw [twice, turned, started]
    rcases start_cases (s := s.advanceTo due) valid (resting.advanceTo due) with
      ⟨e, h, refused, failed, _⟩ | ⟨h, started, _, _, probing⟩
    · exact .inr ⟨e, h, refused, by rw [failed, fail_eq]⟩
    · exact .inl ⟨h, started, probing.probe, probing.position⟩
  · intro after
    rw [turned, if_neg (Nat.not_lt.mpr after)]

/-- What comes after the engine has stopped by itself in the next turn of a supervisor: it was
refused a restart, the daemon is told that it is down, rests for the delay, and resumes with the
same configuration. -/
structure Restarts (signal : Signal) (time : Nat) (s : Supervisor) : Prop where
  refused : ∃ a fault rest, (s.turn signal time).host.world.journal =
    (s.now, .wentDown) :: (s.now, .restartFailed a fault) :: rest
  serving : (s.turn signal time).stage = .serving
  pending : (s.turn signal time).host.engine.pending.toList = [.down]
  told : ((turn signal time)^[2] s).host.world.journal =
    (s.now, .linkDown) :: (s.turn signal time).host.world.journal
  rests : ((turn signal time)^[3] s).stage =
    .resting (s.now + s.settings.restartDelay.nanoseconds)
  same : ((turn signal time)^[3] s).config = s.config
  resumes : Resumes signal time (s.now + s.settings.restartDelay.nanoseconds)
    ((turn signal time)^[3] s)

/-- Once the engine has stopped by itself, the daemon starts it anew. -/
theorem Situation.restarts {number : Nat} (situation : Situation s number) (sound : s.Sound)
    (stops : StopsByItself signal time s) : Restarts signal time s := by
  obtain ⟨serving, fallen, now, refused⟩ := situation.fallen_of_stops sound stops
  obtain ⟨goes, -⟩ := situation.step signal time sound
  obtain ⟨h, second, stopped, world⟩ := turn_fallen signal time serving fallen
  -- The supervisor that has told of the fall, and the one that rests behind it.
  generalize first : s.turn signal time = s₁ at *
  have third : ({ s₁ with host := h } : Supervisor).turn signal time = _ :=
    turn_stopped signal time serving stopped
  have iterate₂ : (turn signal time)^[2] s = { s₁ with host := h } := by
    rw [Function.iterate_succ_apply, first]
    exact second
  have iterate₃ : (turn signal time)^[3] s = rest { s₁ with host := h } := by
    rw [Function.iterate_succ_apply', iterate₂, third]
  have clock : h.world.now = s.now := (congrArg (·.now) world).trans now
  have stage : (rest { s₁ with host := h }).stage =
      .resting (s.now + s.settings.restartDelay.nanoseconds) := by
    rw [← clock, ← goes.settings]
    rfl
  have early : (rest { s₁ with host := h }).now <
      s.now + s.settings.restartDelay.nanoseconds := by
    rw [← clock]
    exact Nat.lt_add_of_pos_right sound.rests
  have valid : s₁.config.validate = .ok () := goes.config.symm ▸ sound.valid
  refine ⟨first ▸ refused, first ▸ serving, first ▸ fallen.pending, ?_, ?_, ?_, ?_⟩
  · rw [iterate₂, first, ← now]
    exact congrArg Surroundings.journal (congrArg Network.toSurroundings world)
  · rw [iterate₃, stage]
  · rw [iterate₃]
    exact goes.config
  · rw [iterate₃]
    exact resumes_of_resting valid stage (stopped.note _) early

/-! ## A whole run -/

/-- A run goes from the first start of the engine turn by turn to the one that ends it. -/
structure Course (signal : Signal) (time : Nat) (first : Supervisor) (m : Nat) (code : ExitCode)
    (net : Network) : Prop where
  awake : ∀ i ≤ m, ¬ ((turn signal time)^[i] first).Ended
  ends : Ends signal time ((turn signal time)^[m] first) code ((turn signal time)^[m + 1] first)
  world : net = ((turn signal time)^[m + 1] first).host.world
  clock : ∀ i, ((turn signal time)^[i] first).now ≤ time
  stops : code = .clean → ((turn signal time)^[m + 1] first).host.engine.state = .idle
  settings : ∀ i, ((turn signal time)^[i] first).settings = first.settings
  config : ∀ i, ((turn signal time)^[i] first).config = first.config
  restarts : ∀ i, StopsByItself signal time ((turn signal time)^[i] first) →
    Restarts signal time ((turn signal time)^[i] first)

/-- The steps that a run may take are enough for its course. -/
theorem Situation.course (situation : Situation s 1) (signal : Signal) (time : Nat)
    (sound : s.Sound) (awake : ¬ s.Ended) (begins : s.now = 0) :
    ∃ m code net, (s.run signal time (stepBound time)).stage = .ended code ∧
      (s.run signal time (stepBound time)).host.world = net ∧ Course signal time s m code net := by
  obtain ⟨n, within, ended, before⟩ := situation.exists_end signal time sound
  cases n with
  | zero => exact absurd ended awake
  | succ m =>
    have enough : m + 1 < stepBound time := by
      simp only [distance] at within
      simp only [stepBound]
      omega
    obtain ⟨goes, number, situation'⟩ := situation.iterate signal time sound m
    rw [run_eq_iterate ended enough]
    have last : (turn signal time)^[m + 1] s = ((turn signal time)^[m] s).turn signal time :=
      Function.iterate_succ_apply' ..
    obtain ⟨code, ends⟩ :=
      situation'.ends (sound.of_goes goes) (before m m.lt_succ_self) (last ▸ ended)
    rw [← last] at ends
    refine ⟨m, code, _, ends.stage, rfl, ?_⟩
    constructor
    case awake =>
      intro i early
      exact before i (by omega)
    case ends => exact ends
    case world => rfl
    case clock =>
      intro i
      have within := (situation.iterate signal time sound i).1.within
      rwa [begins, Nat.zero_max] at within
    case stops =>
      rintro rfl
      exact ends.idle
    case settings =>
      intro i
      exact (situation.iterate signal time sound i).1.settings
    case config =>
      intro i
      exact (situation.iterate signal time sound i).1.config
    case restarts =>
      intro i stops
      obtain ⟨goes, number, situation⟩ := situation.iterate signal time sound i
      exact situation.restarts (sound.of_goes goes) stops

end Supervisor

open Supervisor

/-- Serving ends at once where the launch failed, and is a course from there otherwise. -/
inductive Serves (signal : Signal) (time : Nat) (s : Settings) (config : Config)
    (faults : Faults) : ExitCode × Network → Prop where
  | refused {net : Network} (launched : launch s config { faults } = .error (.runtime, net)) :
      Serves signal time s config faults (.runtime, net)
  | ran {first : Supervisor} {m : Nat} {code : ExitCode} {net : Network}
      (launched : launch s config { faults } = .ok first)
      (course : Course signal time first m code net) :
      Serves signal time s config faults (code, net)

theorem serves {s : Settings} {config : Config} (accepted : s.Acceptable)
    (made : s.engineConfig = .ok config) (faults : Faults) (signal : Signal) (time : Nat) :
    Serves signal time s config faults (serve signal time s config { faults }) := by
  have launched := launched accepted made faults
  rw [serve]
  generalize eq : launch s config { faults } = launched' at launched
  cases launched with
  | uncreated => exact .refused eq
  | unstarted => exact .refused eq
  | @started h h' prepared _ unmoved probing =>
    have sound := sound_starting accepted made 0 (h'.note .daemonReady)
    have now := unmoved.now.trans prepared.now
    have situation : Situation (starting s config 0 (h'.note .daemonReady)) 1 :=
      .waiting rfl probing (now.trans_lt sound.probes)
    obtain ⟨m, code, net, stage, world, course⟩ :=
      situation.course signal time sound (not_ended_of_serving rfl) now
    simp only [stage, world]
    exact .ran eq course

/-- The course of the daemon for settings that it accepts. Either the engine cannot be made or
not be started, or the daemon supervises it to the end: when the engine has stopped by itself,
it is started anew after the delay, with the same configuration. -/
theorem supervision {env : Environment} {s : Settings} {config : Config}
    (accepted : configure env = .ok (s, config)) (faults : Faults) (signal : Signal) (time : Nat) :
    (run env signal time faults).code = (serve signal time s config { faults }).1 ∧
      ((∃ net, launch s config { faults } = .error (.runtime, net) ∧
          serve signal time s config { faults } = (.runtime, net) ∧
          ((∃ fault, (faults.next .create).1 = some fault) ∨ ∃ h e h', Prepared s config faults h ∧
            h.start (Network.detector 0) config = (.error e, h'))) ∨
        ∃ first m code net, launch s config { faults } = .ok first ∧ first.settings = s ∧
          first.config = config ∧ serve signal time s config { faults } = (code, net) ∧
          Course signal time first m code net) := by
  obtain ⟨read, valid, made⟩ := (configure_eq_ok_iff env s config).mp accepted
  refine ⟨by simp only [run, accepted], ?_⟩
  have acceptable := s.validate_eq_ok_iff.mp valid
  have serves := serves acceptable made faults signal time
  have launched := launched acceptable made faults
  generalize serve signal time s config { faults } = served at serves ⊢
  cases serves with
  | refused eq =>
    rw [eq] at launched
    refine .inl ⟨_, eq, rfl, ?_⟩
    cases launched with
    | uncreated refused => exact .inl ⟨_, refused⟩
    | unstarted prepared refused => exact .inr ⟨_, _, _, prepared, refused⟩
  | ran eq course =>
    rw [eq] at launched
    cases launched with
    | started => exact .inr ⟨_, _, _, _, eq, rfl, rfl, rfl, course⟩

/-! ### A run with a refused restart -/

/-- The environment of a daemon with one neighbour, which sits on its first candidate. -/
def crowded : Environment
  | .linkAddress => some "02:00:5e:10:00:01"
  | .timeout => some "10"
  | .contenders => some "1"
  | .restartDelay => some "1"
  | _ => none

def crowdedSettings : Settings where
  ifindex := 1
  linkAddress := "02:00:5e:10:00:01"
  enumeration := none
  timeoutMsec := 10
  requestedAddress := none
  conflictPolicy := "reselect"
  backend := "sim"
  contenders := 1
  restartDelaySecs := 1
  logLevel := "info"

def crowdedConfig : Config where
  ifindex := 1
  linkAddress := ⟨[2, 0, 0x5e, 0x10, 0, 1]⟩
  enumeration := (⟨[2, 0, 0x5e, 0x10, 0, 1]⟩ : LinkAddress).seed
  timeoutMsec := 10

theorem configure_crowded : configure crowded = .ok (crowdedSettings, crowdedConfig) := by
  decide +kernel

/-- The rules by which the third call that sets a timer fails. -/
def stumbling : Faults := { set := [⟨2, 1, .code 12⟩] }

/-- The probe of the second candidate is refused; the daemon begins with the first one again a
second later, and ends by the signal. -/
theorem supervision_stumbling : ∃ first m net,
    launch crowdedSettings crowdedConfig { faults := stumbling } = .ok first ∧
    serve .terminate 5000000000 crowdedSettings crowdedConfig { faults := stumbling } =
      (.clean, net) ∧
    Course .terminate 5000000000 first m .clean net ∧
    StopsByItself .terminate 5000000000 (first.turn .terminate 5000000000) ∧
    Restarts .terminate 5000000000 (first.turn .terminate 5000000000) ∧
    ((turn .terminate 5000000000)^[5] first).now = 1010000000 := by
  have serves : (launch crowdedSettings crowdedConfig { faults := stumbling }).toOption.map
      (fun first => ((first.turn .terminate 5000000000).host.engine.state,
        ((turn .terminate 5000000000)^[2] first).host.engine.state,
        ((turn .terminate 5000000000)^[2] first).stage,
        ((turn .terminate 5000000000)^[5] first).now)) =
      some (.running, .idle, .serving, 1010000000) := by
    decide +kernel
  have ends : (serve .terminate 5000000000 crowdedSettings crowdedConfig
      { faults := stumbling }).1 = .clean := by
    decide +kernel
  obtain ⟨-, ⟨net, failed, -⟩ | ⟨first, m, code, net, launched, -, -, served, course⟩⟩ :=
    supervision configure_crowded stumbling .terminate 5000000000
  · rw [failed] at serves
    cases serves
  rw [launched] at serves
  rw [served] at ends
  simp only [Except.toOption, Option.map_some, Option.some.injEq, Prod.mk.injEq] at serves
  obtain ⟨running, idle, stage, now⟩ := serves
  obtain rfl : code = .clean := ends
  have stops : StopsByItself .terminate 5000000000 (first.turn .terminate 5000000000) := by
    refine ⟨running, idle, fun signalled => ?_⟩
    have ended : ((turn .terminate 5000000000)^[2] first).stage = .ended .clean :=
      congrArg Supervisor.stage signalled
    cases stage.symm.trans ended
  exact ⟨first, m, net, launched, served, course, stops, course.restarts 1 stops, now⟩

end LinkLocal.Daemon
