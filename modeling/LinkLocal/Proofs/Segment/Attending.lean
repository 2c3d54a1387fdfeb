import LinkLocal.Proofs.Host.Orders
import LinkLocal.Proofs.Network.Findings

/-! Attending to a detector. A detector is dispatched by whoever uses it as it is, or by the
host that it serves, on an order to dispatch or to look. In either way it is dispatched once at
most in an act, before anything else is done that could matter to it. A dispatch that fails
leaves the detector as it was, and so does everything else that its owner can order, as long as
the detector is at work and is not stopped. -/
namespace LinkLocal.Simulation

open Network

variable {n : Network} {p : Nat}

namespace Network

theorem working_announce (working : (n.prober p).phase ≠ .idle) (policy : DefendPolicy) :
    ((n.announce p policy).2.prober p).phase ≠ .idle := by
  rcases announce_cases p policy n with ⟨⟨fault, refused⟩, _⟩ | ⟨_, c, announcing⟩
  · rwa [refused]
  · exact announcing.announced.working

theorem working_poll (working : (n.prober p).phase ≠ .idle) :
    ((n.poll p).2.prober p).phase ≠ .idle := by
  unfold poll
  split
  · next rest _ => rwa [phase_find p p (fun _ => rest)]
  · exact working
  · exact working

end Network

/-! ## Orders -/

section Orders

variable {h : Host Network}

/-- A dispatch in vain leaves a detector at work. -/
theorem working_dispatch (formed : WellFormed h.world) (working : (h.world.prober p).phase ≠ .idle)
    (fails : (h.world.dispatch p).1 ≠ .ok ()) :
    (((h.dispatch (detector p)).2.world).prober p).phase ≠ .idle := by
  have kept := (dispatch_failed formed fails).phase
  rcases attended : h.world.dispatch p with ⟨fault | ⟨⟩, n⟩
  · rw [attended] at kept
    have same : (h.dispatch (detector p)).2.world = n.note (.dispatchFailed fault) := by
      simp only [Host.dispatch, detector, attended]
      rfl
    rw [same, (quiet_note _ _).prober, kept]
    exact working
  · rw [attended] at fails
    exact absurd rfl fails

/-- Whatever is ordered, a detector at work stays so, if it is not stopped and only dispatched in
vain. -/
theorem working_order (formed : WellFormed h.world) (working : (h.world.prober p).phase ≠ .idle)
    {order : Host.Order} (goes : order ≠ .stop)
    (vain : ∀ h' ∈ order.attending (detector p) h, (h'.world.dispatch p).1 ≠ .ok ()) :
    (((order.perform (detector p) h).world).prober p).phase ≠ .idle := by
  cases order with
  | start config =>
    have started := Host.started (detector p) config h
    have busy := start_of_working working
    simp only [Host.Order.perform]
    generalize h.start (detector p) config = result at started ⊢
    obtain ⟨r, h'⟩ := result
    cases started with
    | refused => exact working
    | @failed fault n _ _ _ tried =>
      obtain rfl : h.world = n := congrArg Prod.snd ((busy _).symm.trans tried)
      exact working
    | begun _ _ _ begun => cases (busy _).symm.trans begun
  | stop => exact absurd rfl goes
  | dispatch => exact working_dispatch formed working (vain h rfl)
  | announce =>
    have announced := working_announce working .once
    simp only [Host.Order.perform]
    rcases Host.announce_world (detector p) h with same | same | ⟨x, same⟩ <;> rw [same]
    · exact working
    · exact announced
    · exact announced
  | pop => exact working
  | watch => exact (quiet_renew p h.world).prober p ▸ working
  | look =>
    simp only [Host.Order.perform, Host.look_eq]
    cases attending : Host.Order.look.attending (detector p) h with
    | none => exact working
    | some h' =>
      have fails := vain h' attending
      obtain ⟨rfl, _⟩ := Host.attending_look attending
      have told := quiet_tell p h.world
      exact working_dispatch (h := ⟨h.engine, h.world.tell p⟩) (told.formed formed)
        (told.prober p ▸ working) fails

end Orders

/-! ## Acts -/

namespace Segment

variable {s : Segment}

/-- The network in which a call of a detector dispatches it, if it does. -/
def attendingCall (n : Network) : Call → Option Network
  | .dispatch => some n
  | _ => none

/-- The network in which the detector at a tap is dispatched in an act, if it is. -/
def Act.attending (p : Nat) (s : Segment) : Act → Option Network
  | .use q .dispatch => if q = p ∧ s.engines.get? p = none then some s.network else none
  | .order q given =>
    if q = p then
      (s.engines.get? p).bind fun e =>
        (given.attending (detector p) ⟨e, s.network⟩).map Host.world
    else none
  | _ => none

theorem attending_use (free : s.engines.get? p = none) (call : Call) :
    (Act.use p call).attending p s = attendingCall s.network call := by
  cases call with
  | dispatch => exact if_pos ⟨rfl, free⟩
  | _ => rfl

theorem attending_use_of_taken (taken : s.engines.get? p ≠ none) (call : Call) :
    (Act.use p call).attending p s = none := by
  cases call with
  | dispatch => exact if_neg fun both => taken both.2
  | _ => rfl

theorem attending_order (p : Nat) (order : Host.Order) (s : Segment) :
    (Act.order p order).attending p s = (s.engines.get? p).bind fun e =>
      (order.attending (detector p) ⟨e, s.network⟩).map Host.world := if_pos rfl

/-- Nothing happens before the detector is dispatched but that somebody is told of its timer. -/
theorem quiet_attending {act : Act} (attends : act.attending p s = some n) :
    Quiet s.network n := by
  cases act with
  | use q call =>
    cases call with
    | dispatch =>
      rw [Act.attending] at attends
      split at attends
      · cases attends
        exact .refl _
      · cases attends
    | _ => cases attends
  | order q order =>
    rw [Act.attending] at attends
    split at attends
    · obtain ⟨e, _, inner⟩ := Option.bind_eq_some_iff.mp attends
      obtain ⟨h, attending, rfl⟩ := Option.map_eq_some_iff.mp inner
      cases order with
      | dispatch =>
        cases attending
        exact .refl _
      | look =>
        obtain ⟨rfl, _⟩ := Host.attending_look attending
        exact quiet_tell p s.network
      | _ => cases attending
    · cases attends
  | _ => cases attends

/-- Whether an act stops or drops the detector at a tap. -/
def Act.ends (p : Nat) : Act → Bool
  | .use q .stop | .order q .stop | .drop q => q = p
  | _ => false

/-- An act does not end the work of the detector at a tap by itself, and if the detector is
dispatched, then in vain. -/
def Leaves (p : Nat) (s : Segment) (act : Act) : Prop :=
  act.ends p = false ∧ ∀ n ∈ act.attending p s, (n.dispatch p).1 ≠ .ok ()

instance (p : Nat) : DecidableRel (Leaves p) := fun _ _ => inferInstanceAs (Decidable (_ ∧ _))

theorem working_perform (formed : WellFormed s.network)
    (working : (s.network.prober p).phase ≠ .idle) {act : Act} (leaves : Leaves p s act) :
    ((s.perform act).network.prober p).phase ≠ .idle := by
  by_cases elsewhere : act.about ≠ some p
  · rwa [(happening formed act).prober elsewhere]
  have about := Decidable.not_not.mp elsewhere
  obtain ⟨goes, vain⟩ := leaves
  cases act with
  | engage q =>
    cases about
    simp only [perform]
    split <;> exact working
  | use q call =>
    cases about
    simp only [perform]
    split
    · next free =>
      cases call with
      | start c => rwa [Call.perform, start_of_working working]
      | stop => simp [Act.ends] at goes
      | dispatch =>
        have fails := vain s.network (if_pos ⟨rfl, free⟩)
        rwa [Call.perform, (dispatch_failed formed fails).phase]
      | poll => exact working_poll working
      | announce policy => exact working_announce working policy
    · exact working
  | order q order =>
    cases about
    simp only [perform]
    split
    · exact working
    · next e engine =>
      refine working_order formed working (fun stops => ?_) fun h attending => vain h.world ?_
      · subst stops
        simp [Act.ends] at goes
      · rw [attending_order, engine, Option.bind_some, attending]
        rfl
  | drop q =>
    cases about
    simp [Act.ends] at goes
  | _ => cases about

/-- A detector at work stays so through acts that leave it to its work. -/
theorem working_after (formed : WellFormed s.network)
    (working : (s.network.prober p).phase ≠ .idle) {acts : List Act}
    (leaves : Lawful (Leaves p) acts s) : ((after acts s).network.prober p).phase ≠ .idle := by
  induction acts generalizing s with
  | nil => exact working
  | cons act acts ih =>
    exact ih (formed_perform formed act) (working_perform formed working leaves.1) leaves.2

end Segment
end LinkLocal.Simulation
