import LinkLocal.Daemon.Supervisor

/-! Settings that the daemon accepts. Checking them comes down to a few ranges and names and to
what the engine demands, and whatever passes makes a configuration that the engine accepts. -/
namespace LinkLocal.Daemon

namespace Settings

variable {s : Settings} {config : Config}

/-- What settings must be to be accepted. -/
structure Acceptable (s : Settings) : Prop where
  ifindex : s.ifindex ≠ 0
  timeout : 10 ≤ s.timeoutMsec ∧ s.timeoutMsec ≤ 60000
  backend : s.backend ∈ supportedBackends
  contenders : s.contenders ≤ 64
  restartDelay : 1 ≤ s.restartDelaySecs ∧ s.restartDelaySecs ≤ 300
  level : s.level?.isSome = true
  engine : ∃ config, s.engineConfig = .ok config

theorem validate_eq_ok_iff (s : Settings) : s.validate = .ok () ↔ s.Acceptable := by
  unfold validate
  simp only [bind, Except.bind, pure, Except.pure, throw, throwThe, MonadExceptOf.throw]
  constructor
  · intro accepted
    split at accepted
    · cases accepted
    next ifindex =>
    split at accepted
    case isFalse => cases accepted
    next timeout =>
    split at accepted
    case isFalse => cases accepted
    next backend =>
    split at accepted
    case isFalse => cases accepted
    next contenders =>
    split at accepted
    case isFalse => cases accepted
    next restartDelay =>
    split at accepted
    case isFalse => cases accepted
    next level =>
    split at accepted
    · cases accepted
    next config engine =>
      exact ⟨ifindex, timeout, backend, contenders, restartDelay, level, config, engine⟩
  · rintro ⟨ifindex, timeout, backend, contenders, restartDelay, level, config, engine⟩
    simp only [if_neg ifindex, if_pos timeout, if_pos backend, if_pos contenders,
      if_pos restartDelay, if_pos level, engine]

/-- What makes a configuration of settings, step by step. -/
theorem engineConfig_eq_ok (made : s.engineConfig = .ok config) : config.validate = .ok () ∧
    config.timeoutMsec = s.timeoutMsec ∧
    config.enumeration = s.enumeration.getD config.linkAddress.seed := by
  have checked {c : Config} {u : Unit} (kept : c.validate.mapError Fault.rejected = .ok u) :
      c.validate = .ok () := by
    cases valid : c.validate with
    | error cause =>
      rw [valid] at kept
      cases kept
    | ok u => rfl
  unfold engineConfig at made
  simp only [bind, Except.bind, pure, Except.pure] at made
  split at made
  · cases made
  split at made
  · cases made
  split at made
  · split at made
    · cases made
    · next valid =>
      cases made
      exact ⟨checked valid, rfl, rfl⟩
  · split at made
    · split at made
      · cases made
      · next valid =>
        cases made
        exact ⟨checked valid, rfl, rfl⟩
    · cases made

end Settings

theorem configure_eq_ok_iff (env : Environment) (s : Settings) (config : Config) :
    configure env = .ok (s, config) ↔ Settings.ofEnvironment env = .ok s ∧ s.validate = .ok () ∧
      s.engineConfig = .ok config := by
  unfold configure
  split
  · next fault read => simp [read]
  · next s' read =>
    rw [read]
    cases checked : s'.validate with
    | error fault =>
      simp only [Except.ok.injEq, reduceCtorEq, false_iff, not_and]
      rintro rfl valid
      cases checked.symm.trans valid
    | ok u =>
      cases made : s'.engineConfig with
      | error fault =>
        simp only [Except.ok.injEq, reduceCtorEq, false_iff, not_and]
        rintro rfl _ made'
        cases made.symm.trans made'
      | ok config' =>
        simp only [Except.ok.injEq, Prod.mk.injEq]
        constructor
        · rintro ⟨rfl, rfl⟩
          exact ⟨rfl, checked, made⟩
        · rintro ⟨rfl, _, made'⟩
          cases made.symm.trans made'
          exact ⟨rfl, rfl⟩

end LinkLocal.Daemon
