import LinkLocal.Proofs.Daemon.Acceptance

/-! Whether the daemon keeps off the addresses of its neighbours. It passes by every candidate that
a neighbour holds under another hardware address than its own; but the hardware addresses of the
neighbours are made up without regard to that of the daemon, and a candidate that a neighbour holds
under the same one it takes for its own. So it keeps off its neighbours' addresses exactly if no
candidate before the first free one is held by such a namesake, or the signal comes before it is
probed. -/
namespace LinkLocal.Daemon

open Simulation Simulation.Network Supervisor

variable {s : Settings} {config : Config} {faults : Faults} {as : List IPv4} {a : IPv4}

/-! ## Holders -/

theorem LastAt.unique {i j : Nat} (last : LastAt as i a) (last' : LastAt as j a) : i = j := by
  rcases Nat.lt_trichotomy i j with before | same | behind
  · exact absurd last'.here (last.last j before)
  · exact same
  · exact absurd last.here (last'.last i behind)

theorem exists_lastAt (member : a ∈ as) : ∃ j, LastAt as j a := by
  classical
  obtain ⟨i, here⟩ := List.mem_iff_getElem?.mp member
  have within {i : Nat} (here : as[i]? = some a) : i ≤ as.length :=
    (List.getElem?_eq_some_iff.mp here).1.le
  refine ⟨Nat.findGreatest (fun j => as[j]? = some a) as.length,
    Nat.findGreatest_spec (P := fun j => as[j]? = some a) (within here) here, ?_⟩
  intro j later there
  exact Nat.findGreatest_is_greatest later (within there) there

/-- An address whose holder has the hardware address of the daemon. -/
def Namesake (s : Settings) (config : Config) (a : IPv4) : Prop :=
  ∃ j, LastAt (s.contested config) j a ∧ neighbour j = config.linkAddress

/-- The daemon passes by an address exactly if a neighbour holds it and is no namesake. -/
theorem Prepared.not_free_iff {h : Host Network} (prepared : Prepared s config faults h)
    (i : Nat) : ¬ Free (probeAt config i) h.world ↔
      config.candidate i ∈ s.contested config ∧ ¬ Namesake s config (config.candidate i) := by
  rw [prepared.free_iff, not_forall]
  constructor
  · rintro ⟨j, held⟩
    obtain ⟨last, other⟩ := Classical.not_imp.mp held
    refine ⟨List.mem_of_getElem? last.here, fun ⟨j', last', same⟩ => other ?_⟩
    rwa [last.unique last']
  · rintro ⟨member, none⟩
    obtain ⟨j, last⟩ := exists_lastAt member
    exact ⟨j, Classical.not_imp.mpr ⟨last, fun same => none ⟨j, last, same⟩⟩⟩

/-! ## Announcements -/

theorem claimed_of_lt {m time : Nat} (early : (m + 1) * probeTime config < time) :
    claimed config m time = [((m + 1) * probeTime config, config.candidate m)] := if_pos early

theorem claimed_of_le {m time : Nat} (late : time ≤ (m + 1) * probeTime config) :
    claimed config m time = [] := if_neg (Nat.not_lt.mpr late)

/-- What it takes for an address to be announced in the place of a later one. -/
theorem claimed_iff {k m time : Nat} (below : ∀ i < k, config.candidate i ∈ s.contested config)
    (other : config.candidate k ∉ s.contested config) (within : m ≤ k)
    (earlier : ∀ i < m, ¬ Namesake s config (config.candidate i))
    (namesake : m < k → Namesake s config (config.candidate m)) :
    (claimed config m time = claimed config k time ∧
        ∀ x ∈ claimed config m time, x.2 ∉ s.contested config) ↔
      ∀ i < k, Namesake s config (config.candidate i) → time ≤ (i + 1) * probeTime config := by
  have later {i j : Nat} (before : i ≤ j) :
      (i + 1) * probeTime config ≤ (j + 1) * probeTime config :=
    Nat.mul_le_mul_right _ (by omega)
  rcases Nat.lt_or_eq_of_le within with before | rfl
  · rcases Nat.lt_or_ge ((m + 1) * probeTime config) time with early | late
    · rw [claimed_of_lt early]
      refine iff_of_false (fun ⟨_, off⟩ => ?_) fun waits => ?_
      · exact off _ (List.mem_singleton_self _) (below m before)
      · exact absurd (waits m before (namesake before)) (Nat.not_le.mpr early)
    · rw [claimed_of_le late, claimed_of_le (late.trans (later within))]
      refine iff_of_true ⟨rfl, fun x member => absurd member List.not_mem_nil⟩ fun i _ held => ?_
      have reached : m ≤ i := Nat.not_lt.mp fun before => earlier i before held
      exact late.trans (later reached)
  · refine iff_of_true ⟨rfl, fun x member => ?_⟩ fun i before held => absurd held (earlier i before)
    rcases Nat.lt_or_ge ((m + 1) * probeTime config) time with early | late
    · rw [claimed_of_lt early, List.mem_singleton] at member
      rwa [member]
    · rw [claimed_of_le late] at member
      exact absurd member List.not_mem_nil

/-- In a run without failing calls the daemon announces one address, if the signal does not come
before: the first of its candidates that no neighbour holds under another hardware address. That is
the first one that no neighbour holds at all, and the daemon keeps off the addresses of its
neighbours, exactly if no namesake's address is probed before. -/
theorem keeps_off_neighbours_iff {env : Environment}
    (accepted : configure env = .ok (s, config)) (signal : Signal) (time : Nat)
    (spared : Spared faults (serve signal time s config { faults }).2) :
    ∃ k m, (∀ i < k, config.candidate i ∈ s.contested config) ∧
      config.candidate k ∉ s.contested config ∧
      m ≤ k ∧ (∀ i < m, ¬ Namesake s config (config.candidate i)) ∧
      (m < k → Namesake s config (config.candidate m)) ∧
      (serve signal time s config { faults }).2.announcements = claimed config m time ∧
      ((serve signal time s config { faults }).2.announcements = claimed config k time ∧
          (∀ x ∈ (serve signal time s config { faults }).2.announcements,
            x.2 ∉ s.contested config) ↔
        ∀ i < k, Namesake s config (config.candidate i) → time ≤ (i + 1) * probeTime config) := by
  classical
  obtain ⟨_, valid, made⟩ := (configure_eq_ok_iff env s config).mp accepted
  have acceptable := s.validate_eq_ok_iff.mp valid
  obtain ⟨h, _, first, m, n, net, prepared, first_free, -, -, same, served, course, stretches⟩ :=
    spared_run acceptable made signal time spared
  obtain ⟨passed, free⟩ := first_free
  have announced : net.announcements = claimed config m time := by
    have stage := course.ends.stage
    rw [course.world, ← same, ← course.config (n + 1)]
    cases stretches (n + 1) le_rfl with
    | ended _ announced => exact announced
    | _ => cases stage.symm.trans ‹_›
  rw [served, announced]
  have exists_other : ∃ i, config.candidate i ∉ s.contested config :=
    (exists_candidate_notMem acceptable config).imp fun _ => And.right
  have below (i : Nat) (before : i < Nat.find exists_other) :
      config.candidate i ∈ s.contested config := not_not.mp (Nat.find_min exists_other before)
  have other := Nat.find_spec exists_other
  have held (i : Nat) (before : i < m) := (prepared.not_free_iff i).mp (passed i before)
  have within : m ≤ Nat.find exists_other :=
    Nat.not_lt.mp fun before => other (held _ before).1
  have namesake (before : m < Nat.find exists_other) :
      Namesake s config (config.candidate m) := by
    by_contra none
    exact (prepared.not_free_iff m).mpr ⟨below m before, none⟩ free
  exact ⟨_, m, below, other, within, fun i before => (held i before).2, namesake, rfl,
    claimed_iff below other within (fun i before => (held i before).2) namesake⟩

/-- A daemon with one neighbour keeps off its address and announces the next candidate. -/
theorem crowded_keeps_off :
    Spared {} (serve .terminate 5000000000 crowdedSettings crowdedConfig { faults := {} }).2 ∧
    crowdedConfig.candidate 0 ∈ crowdedSettings.contested crowdedConfig ∧
    (serve .terminate 5000000000 crowdedSettings crowdedConfig {}).2.announcements =
      [(20000000, crowdedConfig.candidate 1)] ∧
    ∀ x ∈ (serve .terminate 5000000000 crowdedSettings crowdedConfig {}).2.announcements,
      x.2 ∉ crowdedSettings.contested crowdedConfig := by
  have spared : Spared {}
      (serve .terminate 5000000000 crowdedSettings crowdedConfig { faults := {} }).2 :=
    ⟨by decide +kernel, by decide +kernel⟩
  have first : crowdedConfig.candidate 0 ∈ crowdedSettings.contested crowdedConfig := by
    decide +kernel
  have second : crowdedConfig.candidate 1 ∉ crowdedSettings.contested crowdedConfig := by
    decide +kernel
  obtain ⟨k, m, below, other, _, _, _, _, keeps⟩ :=
    keeps_off_neighbours_iff configure_crowded .terminate 5000000000 spared
  obtain rfl : k = 1 := by
    rcases Nat.lt_trichotomy k 1 with none | one | more
    · obtain rfl : k = 0 := Nat.lt_one_iff.mp none
      exact absurd first other
    · exact one
    · exact absurd (below 1 more) second
  obtain ⟨announced, off⟩ := keeps.mpr fun i before ⟨j, last, same⟩ => by
    have length : (crowdedSettings.contested crowdedConfig).length = 1 := rfl
    have within := (List.getElem?_eq_some_iff.mp last.here).1
    obtain rfl : j = 0 := by omega
    cases same
  exact ⟨spared, first, announced.trans (by decide +kernel), off⟩

/-- The environment of a daemon with one neighbour, which has the same hardware address. -/
def doubled : Environment
  | .linkAddress => some "02:00:00:00:00:01"
  | .timeout => some "10"
  | .contenders => some "1"
  | _ => none

def doubledSettings : Settings :=
  { crowdedSettings with linkAddress := "02:00:00:00:00:01", restartDelaySecs := 5 }

def doubledConfig : Config :=
  { crowdedConfig with
    linkAddress := ⟨[2, 0, 0, 0, 0, 1]⟩
    enumeration := (⟨[2, 0, 0, 0, 0, 1]⟩ : LinkAddress).seed }

/-- The daemon announces the address of its neighbour, and not the next candidate, which nobody
holds. -/
theorem announces_neighbours_address : configure doubled = .ok (doubledSettings, doubledConfig) ∧
    Spared {} (serve .terminate 105000000 doubledSettings doubledConfig {}).2 ∧
    doubledConfig.candidate 0 ∈ doubledSettings.contested doubledConfig ∧
    doubledConfig.candidate 1 ∉ doubledSettings.contested doubledConfig ∧
    (serve .terminate 105000000 doubledSettings doubledConfig {}).2.announcements =
      [(10000000, doubledConfig.candidate 0)] ∧
    claimed doubledConfig 1 105000000 = [(20000000, doubledConfig.candidate 1)] :=
  ⟨by decide +kernel, ⟨by decide +kernel, by decide +kernel⟩, by decide +kernel, by decide +kernel,
    by decide +kernel, by decide +kernel⟩

end LinkLocal.Daemon
