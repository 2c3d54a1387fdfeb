import LinkLocal.Proofs.Host.Agreement
import LinkLocal.Proofs.Segment

/-! Engines on a segment. An engine that was created for a detector at rest agrees with
it all through a run, whatever the other hosts do and whichever calls fail: it is
running exactly if the detector is at work, for the probe that the engine asked for,
and it has taken everything that the detector found. -/
namespace LinkLocal.Simulation

open Network

variable {p : Nat}

/-- Every order leaves the engine and its detector in agreement. -/
theorem agrees_order {h : Host Network} (agrees : Agrees p h) (order : Host.Order) :
    Agrees p (order.perform (detector p) h) := by
  cases order with
  | start config => exact agrees_start agrees config
  | stop => exact agrees_stop agrees.1
  | dispatch => exact agrees_dispatch agrees
  | announce => exact agrees_announce agrees
  | pop => exact agrees_pop agrees
  | watch =>
    have quiet := quiet_renew p h.world
    exact ⟨quiet.probers.symm ▸ agrees.1, quiet.prober p ▸ agrees.2⟩
  | look => exact agrees_look agrees

namespace Segment

variable {s : Segment} {past : List Segment} {e : Engine}

/-- The tap of the detector that an engine is created for, if one is. -/
def Act.engaged : Act → Option Nat
  | .engage p => some p
  | _ => none

/-- Engines are created for detectors at rest only, of which nothing is left to take. -/
def Engaging (s : Segment) (act : Act) : Prop :=
  ∀ p ∈ act.engaged,
    (s.network.prober p).phase = .idle ∧ (s.network.prober p).found.toList = []

instance : DecidableRel Engaging := fun _ _ => inferInstanceAs (Decidable (∀ p ∈ _, _))

theorem Run.agree (run : Run Engaging (s :: past)) (engine : s.engines.get? p = some e) :
    Agree e (s.network.prober p) := by
  revert p e
  refine run.induction (g := fun s _ => ∀ {p e}, s.engines.get? p = some e →
    Agree e (s.network.prober p)) (fun _ p e engine => ?_)
    fun {s _} act run engaging agree p e engine => ?_
  · cases engine
  cases engine_after s act engine with
  | elsewhere other before =>
    rw [(happening run.wellFormed act).prober other]
    exact agree before
  | refused same before => exact same.symm ▸ agree before
  | created engages _ quiet =>
    obtain ⟨idle, taken⟩ := engaging p (engages ▸ rfl)
    rw [quiet.prober]
    exact agree_idle rfl idle taken
  | @ordered e' order before world =>
    have agrees : Agrees p ⟨e', s.network⟩ := ⟨run.serving before, agree before⟩
    rw [world]
    exact (agrees_order agrees order).2

/-- An engine is running exactly if its detector is at work, has taken all that the
detector found, and remembers the probe that the detector works on. -/
theorem engine_agrees_with_detector (run : Run Engaging (s :: past))
    (engine : s.engines.get? p = some e) :
    (e.state = .running ↔ (s.network.prober p).phase ≠ .idle) ∧
      (s.network.prober p).found.toList = [] ∧
      (e.state = .running → ∃ c, e.probe = some c ∧ (s.network.prober p).probe = some c) := by
  obtain ⟨running, taken, probe, _⟩ := run.agree engine
  exact ⟨running, taken, probe⟩

/-- A host whose first candidate is claimed between its probe and its announcement, and
that then probes its second one. -/
def reselection : List Act :=
  [.attach, .engage 0,
    .order 0 (.start ⟨1, .ethernet, (probeBy 1).mac, 1, 10, none, .reselect⟩),
    .pass 10000000, .order 0 .dispatch,
    .claim ⟨Packet.request, (probeBy 9).mac, .linkLocal 0xdee9⟩, .order 0 .dispatch,
    .pass 10000000, .order 0 .dispatch]

theorem run_reselection : Run Engaging (trail reselection fresh []) :=
  Run.trail (.fresh {}) _ (by decide +kernel)

/-- The engine of a host after it has probed its second candidate. -/
def reselected : Engine where
  selector := ⟨⟨206026503483683⟩⟩
  probe := some ⟨1, (probeBy 1).mac, .ethernet, .linkLocal 0xf3ec, 10⟩
  state := .running
  pending := ⟨[], [.ready (.linkLocal 0xf3ec), .ready (.linkLocal 0xdee9)]⟩

/-- Engine and detector have both gone over to the second candidate. -/
theorem reselected_agrees_with_detector : ∃ s past, Run Engaging (s :: past) ∧
    s.engines.get? 0 = some reselected ∧
    (reselected.state = .running ↔ (s.network.prober 0).phase ≠ .idle) ∧
    (s.network.prober 0).found.toList = [] ∧
    (reselected.state = .running →
      ∃ c, reselected.probe = some c ∧ (s.network.prober 0).probe = some c) := by
  refine ⟨_, _, run_reselection, ?_, engine_agrees_with_detector run_reselection ?_⟩
  · decide +kernel
  · decide +kernel

end Segment
end LinkLocal.Simulation
