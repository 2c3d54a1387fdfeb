import LinkLocal.Proofs.Segment.Attending
import LinkLocal.Proofs.Segment.Overtaking

/-! Losing the carrier. Nobody keeps a record of who has to go down when the carrier drops: every
detector is woken, and looks at the carrier when it is dispatched. So a detector that was at work
when the carrier dropped goes down at its next dispatch exactly if the carrier is down then; if it
was raised in between, the loss goes unnoticed. -/
namespace LinkLocal.Simulation

open Network

variable {n : Network} {p : Nat}

/-- A dispatch of the detector at a tap finds that the link went away and nothing else. Then the
detector is at rest and holds no address. -/
structure Network.GoesDown (p : Nat) (n : Network) : Prop where
  finds : (n.prober p).Finds [.down] .idle ((n.dispatch p).2.prober p)
  silent : ∀ c, ¬ Announced p c (n.dispatch p).2
  left : ∀ c, Announced p c n → (n.dispatch p).2.link.owner c.address ≠ some c.mac

namespace Network

/-- As long as there is a carrier, nobody finds that the link went away. -/
theorem not_down_of_carrier (formed : WellFormed n) (up : n.link.carrier = true) :
    ¬ Emits p .down n (n.dispatch p).2 := by
  intro emits
  obtain ⟨c, probe⟩ := formed.configured p emits.working
  obtain ⟨fs, phase, member, outcome⟩ := emits.outcome probe
  generalize (n.dispatch p).1 = r at outcome
  cases outcome with
  | carrierLost lost => rw [lost] at up; cases up
  | _ => simp at member

/-- A detector at work goes down at a dispatch that succeeds exactly if there is no carrier. -/
theorem goesDown_iff_carrier (formed : WellFormed n) (working : (n.prober p).phase ≠ .idle)
    (succeeds : (n.dispatch p).1 = .ok ()) : GoesDown p n ↔ n.link.carrier = false := by
  constructor
  · intro down
    refine Bool.eq_false_iff.mpr fun up => not_down_of_carrier (p := p) formed up ?_
    exact ⟨[.down], down.finds.found, List.mem_singleton.mpr rfl⟩
  · intro lost
    have finds := dispatch_carrierless working lost succeeds
    have silent : ∀ c, ¬ Announced p c (n.dispatch p).2 := fun c =>
      not_announced_of_idle finds.phase
    have yielding := (moves_dispatch p n).yielding
    exact ⟨finds, silent, fun c announced => yielding.left p c announced (silent c)⟩

end Network

namespace Segment

variable {s : Segment} {past : List Segment} {allowed : Segment → Act → Prop}

/-- The carrier stays as it is as long as nobody sets it. -/
theorem carrier_perform (s : Segment) (formed : WellFormed s.network) {act : Act}
    (unset : ∀ up, act ≠ .carrier up) :
    (s.perform act).network.link.carrier = s.network.link.carrier := by
  have happens := happening formed act
  cases about : act.about with
  | some q => exact (about ▸ happens).carrier
  | none =>
    cases act with
    | attach =>
      simp only [perform]
      rcases attach_cases s.network with quiet | ⟨faults, eq⟩
      · exact quiet.carrier
      · rw [eq]
        rfl
    | claim k => exact (still_claim k s.network).carrier
    | carrier up => exact absurd rfl (unset up)
    | occupy | release | pass | spoil => rfl
    | _ => cases about

/-- A carrier that is down stays down as long as nobody raises it. -/
theorem carrierless_perform (formed : WellFormed s.network) (down : s.network.link.carrier = false)
    {act : Act} (unraised : act ≠ .carrier true) :
    (s.perform act).network.link.carrier = false := by
  by_cases sets : ∃ up, act = .carrier up
  · obtain ⟨up, rfl⟩ := sets
    cases up with
    | false => exact carrier_setCarrier false s.network
    | true => exact absurd rfl unraised
  · exact (carrier_perform s formed fun up same => sets ⟨up, same⟩).trans down

/-- A carrier is lost when somebody drops it. -/
theorem drops_of_lost (formed : WellFormed s.network) {act : Act} (up : s.network.link.carrier = true)
    (lost : (s.perform act).network.link.carrier = false) : act = .carrier false := by
  by_cases sets : ∃ raised, act = .carrier raised
  · obtain ⟨raised, rfl⟩ := sets
    exact congrArg Act.carrier ((carrier_setCarrier raised s.network).symm.trans lost)
  · have same := carrier_perform s formed fun raised same => sets ⟨raised, same⟩
    cases (same.trans up).symm.trans lost

theorem carrierless_after (formed : WellFormed s.network) (down : s.network.link.carrier = false)
    {acts : List Act} (unraised : .carrier true ∉ acts) :
    (after acts s).network.link.carrier = false := by
  induction acts generalizing s with
  | nil => exact down
  | cons act acts ih =>
    have now := carrierless_perform formed down fun same => unraised (same ▸ List.mem_cons_self)
    exact ih (formed_perform formed act) now fun later => unraised (.tail _ later)

/-- A detector that is at work when the carrier drops, and is neither stopped nor dropped nor
dispatched with success before, goes down at the first dispatch that succeeds exactly if the
carrier is down at that time, whatever else is done on the segment in between. So it does as long
as nobody has raised the carrier again. -/
theorem goes_down_iff (run : Run allowed (s :: past))
    (working : (s.network.prober p).phase ≠ .idle) {acts : List Act}
    (leaves : Lawful (Leaves p) acts (s.perform (.carrier false))) {act : Act}
    (attends : act.attending p (after acts (s.perform (.carrier false))) = some n)
    (succeeds : (n.dispatch p).1 = .ok ()) :
    (GoesDown p n ↔
        (after acts (s.perform (.carrier false))).network.link.carrier = false) ∧
      (.carrier true ∉ acts → GoesDown p n) := by
  have formed := formed_perform run.wellFormed (.carrier false)
  have down : (s.perform (.carrier false)).network.link.carrier = false :=
    carrier_setCarrier false s.network
  rw [← (happening run.wellFormed (.carrier false)).prober (q := p) (by simp [Act.about])] at working
  have working' := working_after formed working leaves
  have formed' := formed_after formed acts
  have quiet := quiet_attending attends
  have goes := goesDown_iff_carrier (quiet.formed formed') (quiet.prober p ▸ working') succeeds
  rw [quiet.carrier] at goes
  exact ⟨goes, fun unraised => goes.mpr (carrierless_after formed down unraised)⟩

/-- A host announces its address. -/
def settling : List Act :=
  [.attach, .engage 0, .order 0 (.start brief), .pass 10000000, .order 0 .dispatch,
    .order 0 .announce]

/-- Another host claims the address, and the first dispatch fails to read the timer. -/
def stumbling : List Act :=
  [.claim ⟨Packet.request, (probeBy 2).mac, .linkLocal 0xdee9⟩,
    .spoil { read := [⟨0, 1, .code 9⟩] }, .order 0 .dispatch]

private theorem run_settling : Run (fun _ _ => True) (trail settling fresh []) :=
  Run.trail (.fresh {}) _ (by decide +kernel)

/-- The host goes down at the dispatch after the one that fails, although there is a claim to answer
as well. -/
theorem down_after_stumbling : ∃ s past, Run (fun _ _ => True) (s :: past) ∧
    (s.network.prober 0).phase ≠ .idle ∧
    Lawful (Leaves 0) stumbling (s.perform (.carrier false)) ∧
    .carrier true ∉ stumbling ∧
    ∃ n, (Act.order 0 .dispatch).attending 0 (after stumbling (s.perform (.carrier false))) = some n ∧
      (n.dispatch 0).1 = .ok () ∧ GoesDown 0 n := by
  obtain ⟨s, past, visited, working, leaves, attended, succeeds⟩ : ∃ s past,
      s :: past = trail settling fresh [] ∧ (s.network.prober 0).phase ≠ .idle ∧
      Lawful (Leaves 0) stumbling (s.perform (.carrier false)) ∧
      ((Act.order 0 .dispatch).attending 0
        (after stumbling (s.perform (.carrier false)))).isSome = true ∧
      ∀ n ∈ (Act.order 0 .dispatch).attending 0 (after stumbling (s.perform (.carrier false))),
        (n.dispatch 0).1 = .ok () :=
    ⟨_, _, rfl, by decide +kernel, by decide +kernel, by decide +kernel, by decide +kernel⟩
  have run : Run (fun _ _ => True) (s :: past) := visited ▸ run_settling
  have unraised : .carrier true ∉ stumbling := by simp [stumbling]
  obtain ⟨n, attends⟩ := Option.isSome_iff_exists.mp attended
  have down := goes_down_iff run working leaves attends (succeeds n attends)
  exact ⟨s, past, run, working, leaves, unraised, n, attends, succeeds n attends,
    down.2 unraised⟩

/-- A probe that is under way when the carrier drops and is raised again. -/
private theorem blink : ∃ s past, s :: past = trail [.attach, .use 0 (.start (probeBy 1))] fresh [] ∧
    s.network.link.carrier = true ∧ (s.network.prober 0).phase ≠ .idle ∧
    ∃ n, (Act.use 0 .dispatch).attending 0 ((s.perform (.carrier false)).perform (.carrier true)) =
      some n ∧ (n.dispatch 0).1 = .ok () ∧ ((n.dispatch 0).2.prober 0).phase ≠ .idle :=
  ⟨_, _, rfl, by decide +kernel, by decide +kernel, _, rfl, by decide +kernel, by decide +kernel⟩

/-- A carrier that drops and is raised again at once takes nobody down. -/
theorem loss_unnoticed : ¬ ∀ s past, Run (fun _ _ => True) (s :: past) →
    ∀ (p : Nat) (acts : List Act) (act : Act) (n : Network),
      s.network.link.carrier = true → (s.network.prober p).phase ≠ .idle →
      Lawful (Leaves p) acts (s.perform (.carrier false)) →
      act.attending p (after acts (s.perform (.carrier false))) = some n →
      (n.dispatch p).1 = .ok () → GoesDown p n := by
  intro always
  obtain ⟨s, past, visited, up, working, n, attends, succeeds, stays⟩ := blink
  have run : Run (fun _ _ => True) (trail [.attach, .use 0 (.start (probeBy 1))] fresh []) :=
    Run.trail (.fresh {}) _ (by decide +kernel)
  have leaves : Lawful (Leaves 0) [.carrier true] (s.perform (.carrier false)) :=
    ⟨⟨rfl, nofun⟩, trivial⟩
  have down := always s past (visited ▸ run) 0 [.carrier true] (.use 0 .dispatch) n up working
    leaves attends succeeds
  exact stays down.finds.phase

end Segment
end LinkLocal.Simulation
