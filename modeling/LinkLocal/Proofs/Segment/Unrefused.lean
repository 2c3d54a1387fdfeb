import LinkLocal.Proofs.Host.Unrefused
import LinkLocal.Proofs.Segment.Serving

/-! Engines that are not refused. Wherever a run has led, an order during which no call on a timer
fails, and whose probes end within the range of the clock, fails only with an excuse that the engine
can give itself. What the other hosts do does not matter, nor which calls failed before. -/
namespace LinkLocal.Simulation.Segment

open Network

variable {allowed : Segment → Act → Prop} {s : Segment} {past : List Segment} {p : Nat} {e : Engine}

theorem Run.eligible (run : Run allowed (s :: past)) (engine : s.engines.get? p = some e) :
    ∀ c ∈ e.probe, c.Eligible := by
  revert p e
  refine run.induction (g := fun s _ => ∀ {p e}, s.engines.get? p = some e →
    ∀ c ∈ e.probe, c.Eligible) (fun _ p e engine => by cases engine)
    fun {s _} act run _ eligible p e engine => ?_
  cases engine_after s act engine with
  | elsewhere _ before => exact eligible before
  | refused _ before => exact eligible before
  | created => exact nofun
  | @ordered e' order before _ => exact eligible_perform (h := ⟨e', s.network⟩) (eligible before) order

/-- An order during which no call on a timer fails fails with an excuse only. A finding that it
takes meets an engine with a candidate, and the detector refuses nothing that the engine makes of
it. A detector at work knows its probe. -/
theorem failures_are_excused (run : Run Engaging (s :: past))
    (engine : s.engines.get? p = some e) {order : Host.Order}
    (early : order.InTime e s.network.now)
    (spared : (s.perform (.order p order)).network.toFail = s.network.toFail) :
    (∀ error ∈ (order.answer (detector p) ⟨e, s.network⟩).error?,
        Excused e (s.network.prober p).phase order error) ∧
      (∀ t ∈ order.takings (detector p) ⟨e, s.network⟩, t.Unrefused p) ∧
      ((s.network.prober p).phase ≠ .idle → ∃ c, (s.network.prober p).probe = some c) := by
  have agrees : Agrees p ⟨e, s.network⟩ := ⟨run.serving engine, run.agree engine⟩
  simp only [perform, engine] at spared
  obtain ⟨excused, unrefused⟩ :=
    order_unrefused (h := ⟨e, s.network⟩) run.wellFormed agrees (run.eligible engine) early spared
  exact ⟨excused, unrefused, run.wellFormed.configured p⟩

/-- The engine of a host whose candidate was claimed before it was announced, and that has not
heard of it yet. -/
def claimed : Engine where
  selector := ⟨⟨25214903928⟩⟩
  probe := some ⟨1, (probeBy 1).mac, .ethernet, .linkLocal 0xdee9, 10⟩
  state := .running
  pending := ⟨[], [.ready (.linkLocal 0xdee9)]⟩

/-- A candidate that is taken is no reason to refuse the next one. -/
theorem next_candidate_is_not_refused : ∃ s past, Run Engaging (s :: past) ∧
    s.engines.get? 0 = some claimed ∧
    Host.Order.dispatch.InTime claimed s.network.now ∧
    (s.perform (.order 0 .dispatch)).network.toFail = s.network.toFail ∧
    (Host.Order.dispatch.takings (detector 0) ⟨claimed, s.network⟩).map (·.finding) =
      [.used ⟨Packet.request, (probeBy 9).mac, .linkLocal 0xdee9⟩] ∧
    (∀ error ∈ (Host.Order.dispatch.answer (detector 0) ⟨claimed, s.network⟩).error?,
      Excused claimed (s.network.prober 0).phase .dispatch error) ∧
    (∀ t ∈ Host.Order.dispatch.takings (detector 0) ⟨claimed, s.network⟩, t.Unrefused 0) ∧
    ((s.network.prober 0).phase ≠ .idle → ∃ c, (s.network.prober 0).probe = some c) := by
  have run : Run Engaging (trail (reselection.take 6) fresh []) :=
    Run.trail (.fresh {}) _ (by decide +kernel)
  refine ⟨_, _, run, ?_, ?_, ?_, ?_, failures_are_excused run ?_ ?_ ?_⟩
  all_goals decide +kernel

end LinkLocal.Simulation.Segment
