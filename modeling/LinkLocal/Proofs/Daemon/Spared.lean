import LinkLocal.Proofs.Daemon.Supervision

/-! Runs of the daemon in which no call on the engine's timer fails. The engine probes one
candidate after the other, each for the same time, until it comes to the first one that nobody
holds under another hardware address; that one is announced, and nothing is left to do before the
signal. Neither the detector nor the handling of an event fails on the way, and the engine never
stops by itself. -/
namespace LinkLocal.Daemon

open Simulation Simulation.Network

variable {n n' : Network} {config : Config} {m time : Nat}

/-! ## The first free candidate -/

/-- Of the candidates of a configuration, this one is the first that no other host holds. -/
structure First (config : Config) (n : Network) (m : Nat) : Prop where
  held : ∀ i < m, ¬ Free (probeAt config i) n
  free : Free (probeAt config m) n

theorem First.of_owner (first : First config n m)
    (owner : ∀ a, n'.link.owner a = n.link.owner a) : First config n' m := by
  obtain ⟨held, free⟩ := first
  constructor
  · simpa only [Free, owner] using held
  · simpa only [Free, owner] using free

/-- The announcements of a run without failing calls: the first free candidate, once it is probed,
if the signal has not come before. -/
def claimed (config : Config) (m time : Nat) : List (Nat × IPv4) :=
  if (m + 1) * probeTime config < time then [((m + 1) * probeTime config, config.candidate m)]
  else []

variable {s : Settings} {faults : Faults}

/-- Neighbours are too few to hold all candidates of a turn. -/
theorem exists_candidate_notMem (accepted : s.Acceptable) (config : Config) :
    ∃ i ≤ IPv4.usableCount * 2 ^ 32, config.candidate i ∉ s.contested config := by
  have few : (s.contested config).length < IPv4.usableCount := by
    have most : s.contenders.toNat ≤ 64 := UInt64.le_iff_toNat_le.mp accepted.contenders
    have count : IPv4.usableCount = 65024 := rfl
    rw [Settings.contested, Selector.take_eq_map, List.length_map, List.length_range]
    omega
  obtain ⟨a, usable, other⟩ := IPv4.exists_isUsable_notMem few
  obtain ⟨i, within, rfl⟩ := config.exists_candidate_eq_of_le usable
  exact ⟨i, within, other⟩

/-- To a daemon a candidate is free that no neighbour holds under another hardware address. -/
theorem Prepared.free_iff {h : Host Network} (prepared : Prepared s config faults h) (i : Nat) :
    Free (probeAt config i) h.world ↔
      ∀ j, LastAt (s.contested config) j (config.candidate i) →
        neighbour j = config.linkAddress := by
  constructor
  · exact fun free j last => free _ ((prepared.owner _ _).mpr ⟨j, last, rfl⟩)
  · intro same m held
    obtain ⟨j, last, rfl⟩ := (prepared.owner _ m).mp held
    exact same j last

theorem Prepared.exists_first {h : Host Network} (prepared : Prepared s config faults h)
    (accepted : s.Acceptable) : ∃ m ≤ IPv4.usableCount * 2 ^ 32, First config h.world m := by
  classical
  obtain ⟨i, within, other⟩ := exists_candidate_notMem accepted config
  have free : Free (probeAt config i) h.world :=
    (prepared.free_iff i).mpr fun j last => absurd (List.mem_of_getElem? last.here) other
  have exists_free : ∃ i, Free (probeAt config i) h.world := ⟨i, free⟩
  exact ⟨Nat.find exists_free, (Nat.find_min' exists_free free).trans within,
    ⟨fun i => Nat.find_min exists_free, Nat.find_spec exists_free⟩⟩

/-- The clock does not come to its end while the candidates of a turn are probed. -/
theorem lt_clockRange (accepted : s.Acceptable) (made : s.engineConfig = .ok config)
    (within : m ≤ IPv4.usableCount * 2 ^ 32) : (m + 1) * probeTime config < clockRange := by
  obtain ⟨_, timeout, _⟩ := Settings.engineConfig_eq_ok made
  have longest : config.timeoutMsec.toNat ≤ 60000 :=
    timeout ▸ UInt64.le_iff_toNat_le.mp accepted.timeout.2
  have time : probeTime config ≤ 60000 * 1000000 := Nat.mul_le_mul_right _ longest
  calc (m + 1) * probeTime config
      ≤ (IPv4.usableCount * 2 ^ 32 + 1) * (60000 * 1000000) := Nat.mul_le_mul (by omega) time
    _ < clockRange := by decide

namespace Supervisor

variable {signal : Signal} {s : Supervisor}

/-! ## Stretches -/

/-- The stretches of a run in which no call on the timer fails. -/
inductive Stretch (m time : Nat) (s : Supervisor) : Prop where
  | waiting {i : Nat} (serving : s.stage = .serving) (within : i ≤ m)
      (probing : Probing s.tap s.config i ((i + 1) * probeTime s.config) s.host)
      (now : s.now = i * probeTime s.config) (first : First s.config s.host.world m)
      (silent : s.host.world.announcements = []) : Stretch m time s
  | due {i : Nat} (serving : s.stage = .serving) (within : i ≤ m)
      (probing : Probing s.tap s.config i ((i + 1) * probeTime s.config) s.host)
      (now : s.now = (i + 1) * probeTime s.config) (early : s.now < time)
      (first : First s.config s.host.world m) (silent : s.host.world.announcements = []) :
      Stretch m time s
  | offering (serving : s.stage = .serving) (offering : Offering s.tap s.config m s.host)
      (now : s.now = (m + 1) * probeTime s.config) (early : s.now < time)
      (silent : s.host.world.announcements = []) : Stretch m time s
  | settled (serving : s.stage = .serving) (settled : Settled s.tap s.host)
      (announced : s.host.world.announcements = claimed s.config m time) : Stretch m time s
  | ended (stage : s.stage = .ended .clean)
      (announced : s.host.world.announcements = claimed s.config m time) : Stretch m time s

theorem Stretch.stage (stretch : Stretch m time s) :
    s.stage = .serving ∨ s.stage = .ended .clean := by
  cases stretch with
  | ended stage => exact .inr stage
  | _ => exact .inl ‹_›

/-- The signal ends a stretch. -/
theorem stretch_shutDown (announced : s.host.world.announcements = claimed s.config m time) :
    Stretch m time ((s.advanceTo time).shutDown signal) := by
  obtain ⟨-, announcements, -⟩ := silent_shutDown signal (s.advanceTo time)
  refine .ended (by rw [shutDown_eq]) ?_
  have same : (s.advanceTo time).host.world.announcements = s.host.world.announcements := rfl
  rw [announcements, same, announced, shutDown_eq]
  rfl

/-- At the end of a probe, if no call fails, the host has its first free candidate or probes the
next one. -/
theorem stretch_due {i : Nat} (serving : s.stage = .serving) (sound : s.Sound) (within : i ≤ m)
    (probing : Probing s.tap s.config i ((i + 1) * probeTime s.config) s.host)
    (now : s.now = (i + 1) * probeTime s.config) (early : s.now < time)
    (first : First s.config s.host.world m) (silent : s.host.world.announcements = [])
    (soon : (m + 1) * probeTime s.config < clockRange)
    (spared : (s.turn signal time).host.world.toFail = s.host.world.toFail) :
    Stretch m time (s.turn signal time) := by
  obtain ⟨unmoved, concluded⟩ := probing.look sound.valid now.ge
  rcases looked : s.host.look s.detector with ⟨r, h⟩
  rw [show s.host.look (Network.detector s.tap) = _ from looked] at unmoved concluded
  have same : Supervisor.now { s with host := h } = s.now := unmoved.now
  have later : s.now + probeTime s.config = (i + 1 + 1) * probeTime s.config := by
    rw [now, Nat.succ_mul (i + 1)]
  rcases turn_due signal time serving looked concluded with
    ⟨rfl, eq⟩ | ⟨e, rfl, eq⟩
  · rw [eq] at spared ⊢
    cases concluded with
    | offering free offering =>
      obtain rfl : i = m := by
        by_contra other
        exact first.held i (lt_of_le_of_ne within other) free
      exact .offering serving offering (same.trans now) (same.trans_lt early)
        (unmoved.announcements.trans silent)
    | next taken probing =>
      have other : i ≠ m := by
        rintro rfl
        exact taken first.free
      rw [show s.host.world.now = s.now from rfl, later] at probing
      exact .waiting serving (lt_of_le_of_ne within other) probing (same.trans now)
        (first.of_owner unmoved.owner) (unmoved.announcements.trans silent)
    | fallen taken fallen hindered _ =>
      exfalso
      have other : i ≠ m := by
        rintro rfl
        exact taken first.free
      rcases hindered with less | late
      · exact less.ne spared
      · rw [show s.host.world.now = s.now from rfl, later] at late
        have before : (i + 1 + 1) * probeTime s.config ≤ (m + 1) * probeTime s.config :=
          Nat.mul_le_mul_right _ (by omega)
        omega
  · exfalso
    rw [eq] at spared
    have after := (silent_fail e { s with host := h }).toFail
    cases concluded with
    | failed _ fewer => exact (after.trans_lt fewer).ne spared

/-- A turn in which no call fails leads from one stretch to another. -/
theorem Stretch.step (stretch : Stretch m time s) (sound : s.Sound)
    (soon : (m + 1) * probeTime s.config < clockRange)
    (spared : (s.turn signal time).host.world.toFail = s.host.world.toFail) :
    Stretch m time (s.turn signal time) := by
  cases stretch with
  | @waiting i serving within probing now first silent =>
    have early : s.now < (i + 1) * probeTime s.config := by
      rw [now, Nat.succ_mul]
      exact Nat.lt_add_of_pos_right sound.probes
    rw [turn_waiting signal time serving probing early]
    split
    · next before =>
      have clock := advanceTo_now _ s early.le
      exact .due serving within (probing.advanceTo _) clock (clock.trans_lt before)
        (first.of_owner fun _ => rfl) silent
    · next after =>
      refine stretch_shutDown (silent.trans (if_neg fun before => after ?_).symm)
      exact (Nat.mul_le_mul_right _ (by omega)).trans_lt before
  | due serving within probing now early first silent =>
    exact stretch_due serving sound within probing now early first silent soon spared
  | offering serving offering now early silent =>
    obtain ⟨h, eq, settled, _, _, announcements⟩ :=
      turn_offering signal time serving offering
    rw [eq]
    refine .settled serving settled ?_
    rw [now] at early announcements
    rw [announcements, silent, claimed, if_pos early]
    rfl
  | settled serving settled announced =>
    rw [turn_settled signal time serving settled]
    exact stretch_shutDown announced
  | ended stage announced =>
    rw [Ended.turn_eq ⟨_, stage⟩]
    exact .ended stage announced

/-! ## Smoothness -/

/-- Neither the detector nor the handling of an event fails in the next turn. -/
structure Smooth (s : Supervisor) : Prop where
  serving : s.stage = .serving
  attends : ∀ e h, s.host.look s.detector ≠ (.failed e, h)
  handles : ∀ event h, s.host.look s.detector = (.event event, h) →
    ∃ h', handle s.detector event h = (.ok (), h')

/-- A turn in which something fails ends the run with an error. -/
theorem Smooth.of_turn (serving : s.stage = .serving)
    (well : (s.turn signal time).stage ≠ .ended .runtime) : s.Smooth := by
  have failing {e : Error} {h : Host Network}
      (move : s.move? = some (fail e { s with host := h })) : False := by
    rw [turn_of_move move, fail_eq] at well
    exact well rfl
  refine ⟨serving, fun e h looked => ?_, fun event h looked => ?_⟩
  · exact failing (e := e) (h := h) (by simp only [move?, serving, looked])
  · rcases handled : handle s.detector event h with ⟨e | _, h'⟩
    · exact (failing (e := e) (h := h') (by simp only [move?, serving, looked, handled])).elim
    · exact ⟨h', rfl⟩

/-- Turn by turn, the number of calls that are still to fail only falls. -/
theorem Situation.antitone_toFail {number : Nat} (situation : Situation s number)
    (signal : Signal) (time : Nat) (sound : s.Sound) :
    Antitone fun i => ((turn signal time)^[i] s).host.world.toFail := by
  refine antitone_nat_of_succ_le fun i => ?_
  obtain ⟨goes, number, situation⟩ := situation.iterate signal time sound i
  rw [Function.iterate_succ_apply']
  exact (situation.step signal time (sound.of_goes goes)).1.toFail

/-- From stretch to stretch, as long as no call fails. -/
theorem Stretch.iterate {number : Nat} (stretch : Stretch m time s) (sound : s.Sound)
    (situation : Situation s number) (soon : (m + 1) * probeTime s.config < clockRange) (n : Nat)
    (spared : ((turn signal time)^[n] s).host.world.toFail = s.host.world.toFail) :
    ∀ i ≤ n, Stretch m time ((turn signal time)^[i] s) := by
  have falling := situation.antitone_toFail signal time sound
  have same (i : Nat) (within : i ≤ n) :
      ((turn signal time)^[i] s).host.world.toFail = s.host.world.toFail :=
    le_antisymm (falling i.zero_le) (spared.symm.trans_le (falling within))
  intro i within
  induction i with
  | zero => exact stretch
  | succ i ih =>
    obtain ⟨goes, _⟩ := situation.iterate signal time sound i
    have step := (same (i + 1) within).trans (same i (by omega)).symm
    rw [Function.iterate_succ_apply'] at step ⊢
    exact (ih (by omega)).step (sound.of_goes goes) (goes.config.symm ▸ soon) step

end Supervisor

open Supervisor

/-! ## Whole runs -/

/-- No call on a timer has failed on the way from these rules to a network. -/
structure Spared (faults : Faults) (net : Network) : Prop where
  create : FaultRule.left net.faults.create = FaultRule.left faults.create
  toFail : net.toFail = ({ faults } : Network).toFail

theorem Prepared.toFail_eq {h : Host Network} (prepared : Prepared s config faults h) :
    h.world.toFail = ({ faults } : Network).toFail := by
  simp only [toFail, prepared.set, prepared.read]

/-- Without a failing call, a launch is not refused. -/
theorem not_refused_of_spared {net : Network} (accepted : s.Acceptable)
    (made : s.engineConfig = .ok config) (spared : Spared faults net) :
    ¬ Launched s config faults (.error (.runtime, net)) := by
  intro launched
  cases launched with
  | uncreated refused less => exact less.ne spared.create
  | unstarted prepared refused hindered =>
    rcases hindered with less | late
    · exact less.ne (spared.toFail.trans prepared.toFail_eq.symm)
    · have soon : (0 + 1) * probeTime config < clockRange :=
        lt_clockRange accepted made (Nat.zero_le _)
      rw [prepared.now] at late
      omega

/-- The course of a daemon whose engine was started goes from stretch to stretch, if no call fails
on it. -/
theorem stretches_of_course {h h' : Host Network} {n time : Nat} {signal : Signal} {code : ExitCode}
    {net : Network} (accepted : s.Acceptable) (made : s.engineConfig = .ok config)
    (prepared : Prepared s config faults h) (unmoved : Unmoved h.world h'.world)
    (probing : Probing 0 config 0 (probeTime config) h')
    (course : Course signal time (starting s config 0 h') n code net)
    (spared : Spared faults net) : ∃ m, First config h.world m ∧
      ∀ i ≤ n + 1, Stretch m time ((turn signal time)^[i] (starting s config 0 h')) := by
  obtain ⟨m, within, first⟩ := prepared.exists_first accepted
  have sound := sound_starting accepted made 0 h'
  have now : h'.world.now = 0 := unmoved.now.trans prepared.now
  have stretch : Stretch m time (starting s config 0 h') := by
    refine .waiting (i := 0) rfl m.zero_le ?_ (now.trans (Nat.zero_mul _).symm)
      (first.of_owner unmoved.owner) (unmoved.announcements.trans prepared.announcements)
    rw [Nat.zero_add, Nat.one_mul]
    exact probing
  have situation : Situation (starting s config 0 h') 1 :=
    .waiting rfl probing (now.trans_lt sound.probes)
  have last : net.toFail = h.world.toFail := spared.toFail.trans prepared.toFail_eq.symm
  rw [course.world] at last
  refine ⟨m, first, stretch.iterate sound situation (lt_clockRange accepted made within) (n + 1) ?_⟩
  exact le_antisymm (situation.antitone_toFail signal time sound (n + 1).zero_le)
    (unmoved.toFail.trans last.ge)

/-- A run in which no call fails: the daemon comes up, the engine is never refused anything, and the
signal ends it. -/
theorem spared_run (accepted : s.Acceptable) (made : s.engineConfig = .ok config)
    (signal : Signal) (time : Nat)
    (spared : Spared faults (serve signal time s config { faults }).2) :
    ∃ h h' first m n net, Prepared s config faults h ∧ First config h.world m ∧
      h.start (Network.detector 0) config = (.ok (), h') ∧
      launch s config { faults } = .ok first ∧ first.config = config ∧
      serve signal time s config { faults } = (.clean, net) ∧
      Course signal time first n .clean net ∧
      ∀ i ≤ n + 1, Stretch m time ((turn signal time)^[i] first) := by
  have serves := serves accepted made faults signal time
  have launched := launched accepted made faults
  generalize serve signal time s config { faults } = served at serves spared ⊢
  cases serves with
  | refused eq => exact absurd (eq ▸ launched) (not_refused_of_spared accepted made spared)
  | @ran _ n code net eq course =>
    rw [eq] at launched
    cases launched with
    | @started h h' prepared started unmoved probing =>
      obtain ⟨m, first, stretches⟩ :=
        stretches_of_course accepted made prepared unmoved probing course spared
      obtain rfl : code = .clean := by
        rcases (stretches (n + 1) le_rfl).stage with serving | ended
        · cases course.ends.stage.symm.trans serving
        · cases course.ends.stage.symm.trans ended
          rfl
      exact ⟨h, h', _, m, n, net, prepared, first, started, eq, rfl, rfl, course, stretches⟩

end LinkLocal.Daemon
