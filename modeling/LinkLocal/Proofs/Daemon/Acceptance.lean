import LinkLocal.Proofs.Daemon.Spared

/-! What the daemon accepts. An environment that does not give valid settings is complained of in
one message, before there is an engine and whatever else may happen. Any other environment gives a
configuration and a backend that there is, and with them the daemon runs into no error of its own:
as long as no call on the engine's timer fails, every start succeeds, the detector can be attended
to, and every event can be handled. -/
namespace LinkLocal.Daemon

open Simulation Simulation.Network Supervisor

variable {env : Environment} {s : Settings} {config : Config} {faults : Faults} {line : String}

/-- The complaints about an environment. -/
inductive Complaint (env : Environment) : String → Prop where
  | unread {fault : Fault} (unread : Settings.ofEnvironment env = .error fault) :
      Complaint env s!"Configuration error: {fault.text}"
  | invalid {s : Settings} {fault : Fault} (read : Settings.ofEnvironment env = .ok s)
      (invalid : s.validate = .error fault) :
      Complaint env s!"Configuration validation error: {fault.text}"

/-- Checking the settings finds everything that keeps a configuration from being made. -/
theorem configure_eq_error_iff (env : Environment) (line : String) :
    configure env = .error line ↔ Complaint env line := by
  constructor
  · intro refused
    unfold configure at refused
    split at refused
    · next fault unread =>
      cases refused
      exact .unread unread
    · next s read =>
      split at refused
      · next fault invalid =>
        cases refused
        exact .invalid read invalid
      · next fault unmade faultless =>
        have valid : s.validate = .ok () := by
          cases checked : s.validate with
          | error fault => exact (faultless fault checked).elim
          | ok => rfl
        obtain ⟨config, made⟩ := (s.validate_eq_ok_iff.mp valid).engine
        cases unmade.symm.trans made
      · cases refused
  · rintro (unread | ⟨read, invalid⟩)
    · simp only [configure, unread]
    · simp only [configure, read, invalid]

theorem registered (accepted : s.Acceptable) (net : Network) :
    (buildRegistry s net).1.has s.backend = true := by
  have backend : s.backend = simulatedBackend := List.mem_singleton.mp accepted.backend
  have found : (({} : Table String (Factory Network Nat)).insert simulatedBackend
      Network.factory).contains s.backend = true := by
    rw [backend, Table.contains, Table.get?_insert_self, Option.isSome_some]
  exact found

/-- A daemon that serves does not find fault with its configuration. -/
theorem serve_ne_configuration (accepted : s.Acceptable) (made : s.engineConfig = .ok config)
    (faults : Faults) (signal : Signal) (time : Nat) :
    (serve signal time s config { faults }).1 ≠ .configuration := by
  have serves := serves accepted made faults signal time
  generalize serve signal time s config { faults } = served at serves ⊢
  cases serves with
  | refused =>
    intro complained
    cases complained
  | ran _ course =>
    rintro rfl
    cases course.ends

/-- Where no call fails, the engine starts at once and need not be started again, everything is
attended to and handled, and the signal ends the run well. -/
theorem smooth_of_spared (accepted : s.Acceptable) (made : s.engineConfig = .ok config)
    (signal : Signal) (time : Nat)
    (spared : Spared faults (serve signal time s config { faults }).2) :
    (serve signal time s config { faults }).1 = .clean ∧
      ∃ h h' first n, Prepared s config faults h ∧
        h.start (Network.detector 0) config = (.ok (), h') ∧
        launch s config { faults } = .ok first ∧
        (∀ i ≤ n, Smooth ((turn signal time)^[i] first)) ∧
        ((turn signal time)^[n + 1] first).stage = .ended .clean := by
  obtain ⟨h, h', first, m, n, net, prepared, _, started, launched, _, served, course, stretches⟩ :=
    spared_run accepted made signal time spared
  refine ⟨by rw [served], h, h', first, n, prepared, started, launched, ?_, course.ends.stage⟩
  intro i within
  have serving : ((turn signal time)^[i] first).stage = .serving :=
    (stretches i (by omega)).stage.resolve_right fun ended => course.awake i within ⟨_, ended⟩
  have next := (stretches (i + 1) (by omega)).stage
  rw [Function.iterate_succ_apply'] at next
  have well : (turn signal time ((turn signal time)^[i] first)).stage ≠ .ended .runtime := by
    intro failed
    rcases next with next | next <;> cases next.symm.trans failed
  exact Smooth.of_turn serving well

/-- The daemon ends for its configuration exactly if there is a complaint about the environment,
which is then all that it leaves behind. Checked settings make a configuration and name a backend
that there is; and if no call on the timer fails, every start succeeds, everything is attended to
and handled, and the run ends well. -/
theorem complains_or_runs_well (env : Environment) (faults : Faults) (signal : Signal)
    (time : Nat) :
    ((run env signal time faults).code = .configuration ↔ ∃ line, Complaint env line) ∧
    (∀ line, Complaint env line →
      run env signal time faults = ⟨.configuration, line ++ "\n", []⟩) ∧
    ∀ s, Settings.ofEnvironment env = .ok s → s.validate = .ok () →
      ∃ config, s.engineConfig = .ok config ∧
        (∀ net, (buildRegistry s net).1.has s.backend = true) ∧
        (run env signal time faults).stderr = "" ∧
        (Spared faults (serve signal time s config { faults }).2 →
          (run env signal time faults).code = .clean ∧
          ∃ h h' first n, Prepared s config faults h ∧
            h.start (Network.detector 0) config = (.ok (), h') ∧
            launch s config { faults } = .ok first ∧
            (∀ i ≤ n, Smooth ((turn signal time)^[i] first)) ∧
            ((turn signal time)^[n + 1] first).stage = .ended .clean) := by
  have complained (line : String) (complaint : Complaint env line) :
      run env signal time faults = ⟨.configuration, line ++ "\n", []⟩ := by
    rw [run, (configure_eq_error_iff env line).mpr complaint]
  have ran {s : Settings} {config : Config} (configured : configure env = .ok (s, config)) :
      (run env signal time faults).code = (serve signal time s config { faults }).1 ∧
        (run env signal time faults).stderr = "" := by
    simp only [run, configured, and_self]
  refine ⟨⟨?_, ?_⟩, complained, ?_⟩
  · intro code
    cases configured : configure env with
    | error line => exact ⟨line, (configure_eq_error_iff env line).mp configured⟩
    | ok made =>
      obtain ⟨s, config⟩ := made
      obtain ⟨_, valid, made⟩ := (configure_eq_ok_iff env s config).mp configured
      rw [(ran configured).1] at code
      exact absurd code (serve_ne_configuration (s.validate_eq_ok_iff.mp valid) made _ _ _)
  · rintro ⟨line, complaint⟩
    rw [complained line complaint]
  · intro s read valid
    have accepted := s.validate_eq_ok_iff.mp valid
    obtain ⟨config, made⟩ := accepted.engine
    obtain ⟨code, stderr⟩ := ran ((configure_eq_ok_iff env s config).mpr ⟨read, valid, made⟩)
    refine ⟨config, made, registered accepted, stderr, ?_⟩
    intro spared
    rw [code]
    exact smooth_of_spared accepted made signal time spared

/-- A daemon with a neighbour on its first candidate runs well while the hundredth call that sets a
timer, which would fail, is not reached; one without a hardware address complains. -/
theorem crowded_runs_well :
    (run crowded .terminate 5000000000 { set := [⟨99, 1, .code 12⟩] }).code = .clean ∧
    (∃ h h' first n, Prepared crowdedSettings crowdedConfig { set := [⟨99, 1, .code 12⟩] } h ∧
      h.start (Network.detector 0) crowdedConfig = (.ok (), h') ∧
      launch crowdedSettings crowdedConfig { faults := { set := [⟨99, 1, .code 12⟩] } } =
        .ok first ∧
      (∀ i ≤ n, Smooth ((turn .terminate 5000000000)^[i] first)) ∧
      ((turn .terminate 5000000000)^[n + 1] first).stage = .ended .clean) ∧
    run (fun _ => none) .interrupt 0 {} = ⟨.configuration, "Configuration error: " ++
      "IPV4LL_LINK_ADDRESS is required. Set it via: export IPV4LL_LINK_ADDRESS=02:00:5e:10:00:01" ++
      "\n", []⟩ := by
  obtain ⟨read, valid, made⟩ :=
    (configure_eq_ok_iff crowded crowdedSettings crowdedConfig).mp configure_crowded
  obtain ⟨-, -, runs⟩ := complains_or_runs_well crowded { set := [⟨99, 1, .code 12⟩] } .terminate
    5000000000
  obtain ⟨config, made', -, -, well⟩ := runs crowdedSettings read valid
  cases made.symm.trans made'
  obtain ⟨code, course⟩ := well ⟨by decide +kernel, by decide +kernel⟩
  obtain ⟨-, complains, -⟩ := complains_or_runs_well (fun _ => none) {} .interrupt 0
  have unread : Settings.ofEnvironment (fun _ => none) = .error .noLinkAddress := rfl
  exact ⟨code, course, complains _ (.unread unread)⟩

end LinkLocal.Daemon
