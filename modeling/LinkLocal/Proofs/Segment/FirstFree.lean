import LinkLocal.Proofs.Host.Search
import LinkLocal.Proofs.Segment.Serving

/-! The first free candidate wins. An engine that is started on a quiet link, and whose owner
attends to the detector whenever its descriptor becomes readable, tells of one address and
then rests: the first of its candidates that no other host holds, a probe's time for each
candidate after the start. That it comes to one at all rests on the candidate sequence, which
meets every usable address. -/
namespace LinkLocal.Simulation

open Network

variable {p : Nat} {h : Host Network} {config : Config}

/-- A run that begins without a failing call begins with the first candidate. -/
theorem trying_of_start (formed : WellFormed h.world) (attached : p ∈ h.world.probers.keys)
    (carrier : h.world.link.carrier = true) (resting : (h.world.prober p).phase = .idle)
    (idle : h.engine.state = .idle) (taken : h.engine.pending.toList = [])
    (valid : config.validate = .ok ()) (early : h.world.now + probeTime config < clockRange)
    (spared : (h.start (detector p) config).2.world.toFail = h.world.toFail) :
    (h.start (detector p) config).1 = .ok () ∧
      Trying p config 0 (h.start (detector p) config).2 ∧
      (h.start (detector p) config).2.world.now = h.world.now ∧
      ∀ a, (h.start (detector p) config).2.world.link.owner a = h.world.link.owner a := by
  have first : Host.firstProbe config = probeAt config 0 := by
    rw [Host.firstProbe, config.firstCandidate_eq]
    rfl
  have behind : (Host.firstCandidate config).2 = config.position 0 := by
    rw [config.firstCandidate_eq]
  have moves := moves_start p (probeAt config 0) h.world
  have started := Host.started (detector p) config h
  generalize (h.start (detector p) config).1 = r at started ⊢
  generalize (h.start (detector p) config).2 = h' at started spared ⊢
  cases started with
  | refused error reason =>
    rcases reason with running | waiting | invalid
    · rw [idle] at running; cases running
    · exact absurd taken waiting
    · exact absurd valid invalid
  | @failed fault n _ _ _ failed =>
    rw [first] at failed
    exact absurd spared (spoiled_of_failed (not_refuses valid resting early) failed).ne
  | @begun n _ _ _ begun =>
    rw [first] at begun
    rw [show h.world.start p _ = _ from begun] at moves
    have begun := begun_of_started begun
    have tap := (formed.attached p).mp attached
    have underway := begun.underway (moves.wellFormed formed) attached tap carrier
    exact ⟨rfl, ⟨underway.note _, rfl, congrArg some first, behind, taken⟩, begun.apart.now,
      begun.owner⟩

/-- A running host at a time, that has these events for its owner, and whose descriptor
becomes readable after a delay, or not at all. -/
structure Waits (p : Nat) (events : List Event) (time : Nat) (delay : Option Nat)
    (h : Host Network) : Prop where
  running : h.engine.state = .running
  events : h.engine.pending.toList = events
  now : h.world.now = time
  readable : ∀ d, (h.world.advance d).isReadable p = true ↔ ∃ x ∈ delay, x ≤ d

theorem Trying.waits {i time : Nat} (trying : Trying p config i h) (now : h.world.now = time) :
    Waits p [] time (some (probeTime config)) h where
  running := trying.running
  events := trying.pending
  now := now
  readable d := by
    rw [trying.underway.readable_iff, timeout_probeAt]
    simp

theorem Found.waits {a : IPv4} {time : Nat} (found : Found p a h) (now : h.world.now = time) :
    Waits p [.ready a] time none h where
  running := found.running
  events := found.pending
  now := now
  readable d := by simp [found.not_isReadable d]

namespace Segment

variable {s : Segment} {past : List Segment} {e : Engine}

/-- An engine that is started on a quiet link comes to the first of its candidates that no
other host holds: each earlier one takes the time of a probe, and once the owner is told of
that one there is nothing more to attend to. -/
theorem first_free_candidate_wins (run : Run Engaging (s :: past))
    (engine : s.engines.get? p = some e) (idle : e.state = .idle)
    (taken : e.pending.toList = []) (valid : config.validate = .ok ())
    (carrier : s.network.link.carrier = true)
    (available : ∃ a : IPv4, a.isUsable = true ∧
      ∀ m, s.network.link.owner a = some m → m = config.linkAddress) :
    ∃ k, (∀ i < k, ∃ m, s.network.link.owner (config.candidate i) = some m ∧
        m ≠ config.linkAddress) ∧
      (∀ m, s.network.link.owner (config.candidate k) = some m → m = config.linkAddress) ∧
      (s.network.now + (k + 1) * probeTime config < clockRange →
        ∀ r h, Host.start (detector p) config ⟨e, s.network⟩ = (r, h) →
          (∀ j ≤ k + 1, ((tend p)^[j] h).world.toFail = s.network.toFail) →
          r = .ok () ∧
          (∀ j ≤ k, Waits p [] (s.network.now + j * probeTime config)
            (some (probeTime config)) ((tend p)^[j] h)) ∧
          ∀ j > k, Waits p [.ready (config.candidate k)]
            (s.network.now + (k + 1) * probeTime config) none ((tend p)^[j] h)) := by
  classical
  -- The candidate sequence meets the address that is available, so there is a first one.
  have exists_free : ∃ k, Free (probeAt config k) s.network := by
    obtain ⟨a, usable, free⟩ := available
    obtain ⟨k, rfl⟩ := config.exists_candidate_eq usable
    exact ⟨k, free⟩
  have held : ∀ i < Nat.find exists_free, ¬ Free (probeAt config i) s.network :=
    fun i => Nat.find_min exists_free
  refine ⟨Nat.find exists_free, fun i earlier => ?_, Nat.find_spec exists_free,
    fun early r h started spared => ?_⟩
  · obtain ⟨m, other⟩ := Classical.not_forall.mp (held i earlier)
    exact ⟨m, Classical.not_imp.mp other⟩
  have free := Nat.find_spec exists_free
  generalize Nat.find exists_free = k at *
  have agree := run.agree engine
  have resting : (s.network.prober p).phase = .idle := by
    refine Decidable.not_not.mp fun working => ?_
    rw [agree.running.mpr working] at idle
    cases idle
  have soon : s.network.now + probeTime config < clockRange := by
    have one : probeTime config ≤ (k + 1) * probeTime config := Nat.le_mul_of_pos_left _ k.succ_pos
    omega
  have begun := trying_of_start (h := ⟨e, s.network⟩) run.wellFormed (run.serving engine) carrier
    resting idle taken valid soon
  rw [started] at begun
  obtain ⟨ok, trying, now, owner⟩ := begun (spared 0 (Nat.zero_le _))
  have calls : h.world.toFail = s.network.toFail := spared 0 (Nat.zero_le _)
  have now : h.world.now = s.network.now := now
  have same (i : Nat) : Free (probeAt config i) h.world ↔ Free (probeAt config i) s.network := by
    simp only [Free, owner]
  simp only [← same] at held free
  simp only [← calls] at spared
  simp only [← now] at early ⊢
  refine ⟨ok, fun j within => ?_, fun j beyond => ?_⟩
  · obtain ⟨trying, now, _⟩ := trying_after trying valid held early spared j within
    exact trying.waits now
  · obtain ⟨found, now⟩ := found_after trying valid held free early spared j beyond
    exact found.waits now

/-- A host that is about to start, on a link where another one holds its first candidate. -/
def contested : List Act :=
  [.attach, .engage 0, .occupy (.linkLocal 0xdee9) (probeBy 9).mac]

/-- The host comes to its second candidate after two probes. -/
theorem second_candidate_wins : ∃ s past h, Run Engaging (s :: past) ∧
    s.engines.get? 0 = some {} ∧
    s.network.link.owner (brief.candidate 0) = some (probeBy 9).mac ∧
    s.network.link.owner (brief.candidate 1) = none ∧
    Host.start (detector 0) brief ⟨{}, s.network⟩ = (.ok (), h) ∧
    Waits 0 [] 0 (some 10000000) h ∧
    Waits 0 [.ready (brief.candidate 1)] 20000000 none ((tend 0)^[2] h) := by
  have run : Run Engaging (trail contested fresh []) :=
    Run.trail (.fresh {}) _ (by decide +kernel)
  have first : (after contested fresh).network.link.owner (brief.candidate 0) =
      some (probeBy 9).mac := by
    decide +kernel
  have second : (after contested fresh).network.link.owner (brief.candidate 1) = none := by
    decide +kernel
  have valid : brief.validate = .ok () := rfl
  obtain ⟨k, held, free, wins⟩ := first_free_candidate_wins (p := 0)
    (s := after contested fresh) (e := {}) run (by decide +kernel) rfl rfl valid
    (by decide +kernel) ⟨brief.candidate 1, by decide +kernel, by simp [second]⟩
  obtain rfl : k = 1 := by
    rcases Nat.lt_trichotomy k 1 with below | same | above
    · obtain rfl : k = 0 := Nat.lt_one_iff.mp below
      exact absurd (free _ first) (by decide)
    · exact same
    · obtain ⟨m, owned, _⟩ := held 1 above
      rw [second] at owned
      cases owned
  obtain ⟨ok, searching, found⟩ := wins (by decide) _ _ rfl (by decide +kernel)
  refine ⟨_, _, _, run, by decide +kernel, first, second, Prod.ext ok rfl, ?_, ?_⟩
  · exact searching 0 (by decide)
  · exact found 2 (by decide)

end Segment
end LinkLocal.Simulation
