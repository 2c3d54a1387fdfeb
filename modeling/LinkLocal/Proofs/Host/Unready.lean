import LinkLocal.Proofs.Host.Agreement
import LinkLocal.Proofs.Host.Episodes
import LinkLocal.Proofs.Host.Search

/-! A ready event comes alone. What a detector finds at one time is the good end of its
probe and nothing else, or it is something else; and a host that looks for its findings
only when no event waits is never told of a candidate that it has lost by then. -/
namespace LinkLocal.Simulation

open Network

variable {p : Nat} {h : Host Network} {n : Network}

/-- Nothing about a host tells of a candidate that waits for its announcement. -/
structure Unready (p : Nat) (h : Host Network) : Prop where
  attached : p ∈ h.world.probers.keys
  phase : (h.world.prober p).phase ≠ .ready
  found : .ready ∉ (h.world.prober p).found.toList
  pending : ∀ a, .ready a ∉ h.engine.pending.toList

/-- The present candidate of a host waits for its announcement, and its event is the only
one that waits. -/
structure Awaiting (p : Nat) (h : Host Network) : Prop where
  ready : (h.world.prober p).phase = .ready
  pending : ∃ c, (h.world.prober p).probe = some c ∧ h.engine.pending.toList = [.ready c.address]

/-! ## The policy -/

theorem Unready.push (unready : Unready p h) (event : Event) (other : ∀ a, event ≠ .ready a) :
    Unready p { h with engine := h.engine.push event } := by
  refine ⟨unready.attached, unready.phase, unready.found, fun a member => ?_⟩
  rw [Engine.push, Queue.toList_push] at member
  obtain member | member := List.mem_append.mp member
  · exact unready.pending a member
  · exact other a (List.mem_singleton.mp member).symm

theorem Unready.goDown (unready : Unready p h) : Unready p h.goDown := by
  obtain ⟨attached, phase, found, pending⟩ := unready.push .down (by simp)
  exact ⟨attached, phase, found, pending⟩

/-- A probe that begins is not over, and one that is refused changes nothing. -/
theorem Unready.reselect (unready : Unready p h) : Unready p (h.reselect (detector p)) := by
  obtain ⟨attached, phase, found, pending⟩ := unready
  rcases next : h.engine.selector.next with ⟨a, selector⟩
  cases probe : h.engine.probe with
  | none =>
    simp only [Host.reselect, next, probe]
    exact Unready.goDown ⟨attached, phase, found, pending⟩
  | some c =>
    have moved := (moves_start p { c with address := a } h.world).apart.attached
    rcases start_own attached { c with address := a } with
      ⟨fault, n', refused, same⟩ | ⟨t, n', started, probing⟩
    · rw [refused] at moved
      simp only [Host.reselect, next, probe, detector, refused]
      exact Unready.goDown ⟨moved ▸ attached, same ▸ phase, same ▸ found, pending⟩
    · rw [started] at moved
      simp only [Host.reselect, next, probe, detector, started]
      refine ⟨moved ▸ attached, ?_, ?_, pending⟩
      · change (n'.prober p).phase ≠ .ready
        simp [probing]
      · change .ready ∉ (n'.prober p).found.toList
        simp [probing]

/-- A detector that is stopped has no candidate. -/
theorem unready_stop (attached : p ∈ h.world.probers.keys)
    (pending : ∀ a, .ready a ∉ h.engine.pending.toList) : Unready p (h.stop (detector p)) := by
  have moved := (moves_stop p h.world).apart.attached
  have stopped := stop_own attached
  have same : ((h.stop (detector p)).world.prober p) = (h.world.stop p).prober p ∧
      (h.stop (detector p)).world.probers = (h.world.stop p).probers ∧
      (h.stop (detector p)).engine.pending = h.engine.pending := by
    simp only [Host.stop, detector]
    split <;> exact ⟨rfl, rfl, rfl⟩
  obtain ⟨prober, probers, events⟩ := same
  refine ⟨?_, ?_, ?_, events ▸ pending⟩
  · rw [probers, moved]
    exact attached
  · simp [prober, stopped]
  · simp [prober, stopped]

/-- Only the good end of a probe leaves a ready event. -/
theorem Unready.react (unready : Unready p h) {f : Detection} (other : f ≠ .ready) :
    Unready p (Host.react (detector p) f h) := by
  cases f with
  | ready => exact absurd rfl other
  | defended claim =>
    obtain ⟨attached, phase, found, pending⟩ := unready.push (.defended claim) (by simp)
    exact ⟨attached, phase, found, pending⟩
  | conflict claim =>
    have lost : Unready p (({ h.note (.lost claim) with
        engine := h.engine.push (.conflict claim) } : Host Network)) := by
      obtain ⟨attached, phase, found, pending⟩ :=
        unready.push (.conflict claim) (by simp)
      exact ⟨attached, phase, found, pending⟩
    simp only [Host.react]
    split
    · exact lost.reselect
    · exact unready_stop lost.attached lost.pending
  | used claim =>
    obtain ⟨attached, phase, found, pending⟩ := unready
    exact Unready.reselect ⟨attached, phase, found, pending⟩
  | down => exact unready.goDown

/-- Taking the findings of a detector leaves no ready event where none of them is the good end
of a probe. The induction is on how many may be taken. -/
theorem Unready.settle (unready : Unready p h) (findings : Nat) :
    Unready p (Host.settle (detector p) findings h).2 := by
  induction findings generalizing h with
  | zero => exact unready
  | succ findings ih =>
    have attached := unready.attached
    cases waiting : (h.world.prober p).found.toList with
    | nil =>
      obtain ⟨_, phase, found, pending⟩ := unready
      by_cases idle : (h.world.prober p).phase = .idle
      · simp only [Host.settle, detector, poll_nil waiting, if_pos idle]
        split <;> exact ⟨attached, phase, found, pending⟩
      · simp only [Host.settle, detector, poll_nil waiting, if_neg idle]
        exact ⟨attached, phase, found, pending⟩
    | cons f fs =>
      obtain ⟨n', rest, polled, taken, own⟩ := poll_cons attached waiting
      have moved := (moves_poll p h.world).apart.attached
      rw [polled] at moved
      have other : f ≠ .ready ∧ .ready ∉ fs := by
        have none := unready.found
        rw [waiting] at none
        exact ⟨fun same => none (same ▸ List.mem_cons_self), fun member =>
          none (List.mem_cons_of_mem f member)⟩
      have between : Unready p ⟨h.engine, n'⟩ := by
        refine ⟨moved ▸ attached, ?_, ?_, unready.pending⟩
        · exact own ▸ unready.phase
        · exact own ▸ taken.symm ▸ other.2
      simp only [Host.settle, detector, polled]
      exact ih (between.react other.1)

/-- The good end of a probe is taken into its event, and nothing else. -/
theorem awaiting_settle {e : Engine} {c : Probe} (attached : p ∈ n.probers.keys)
    (ready : (n.prober p).phase = .ready) (found : (n.prober p).found.toList = [.ready])
    (probe : e.probe = some c) (probed : (n.prober p).probe = some c)
    (pending : e.pending.toList = []) :
    ∃ h, Host.settle (detector p) ((detector p).backlog n + 1) ⟨e, n⟩ = (.ok (), h) ∧
      Awaiting p h := by
  obtain ⟨rest, taken, settled⟩ := settle_single (e := e) found
  have own := prober_onProber_self (fun s : Prober => { s with found := rest }) attached
  have address : e.address = some c.address := by rw [Engine.address, probe]; rfl
  rw [settled]
  simp only [Host.react, address]
  rw [settle_nothing 0]
  · refine ⟨_, rfl, (congrArg Prober.phase own).trans ready, c, ?_, ?_⟩
    · exact (congrArg Prober.probe own).trans probed
    · exact (Queue.toList_push _ e.pending).trans (congrArg (· ++ [_]) pending)
  · exact (congrArg (fun s : Prober => s.found.toList) own).trans taken
  · exact (congrArg Prober.phase own).trans ready ▸ by simp

/-! ## Dispatching and looking -/

/-- A dispatch for which no event waits leaves a ready event alone, or none. -/
theorem dispatch_awaiting (agrees : Agrees p h) (unready : Unready p h)
    (working : (h.world.prober p).phase ≠ .idle) (pending : h.engine.pending.toList = []) :
    Unready p (h.dispatch (detector p)).2 ∨
      (h.dispatch (detector p)).1 = .ok () ∧ Awaiting p (h.dispatch (detector p)).2 := by
  obtain ⟨c, probe, probe'⟩ := agrees.2.probe (agrees.2.running.mpr working)
  obtain ⟨fs, phase, finds, outcome⟩ := dispatch_outcome working probe'
  have moved := (moves_dispatch p h.world).apart.attached
  rcases eq : h.world.dispatch p with ⟨r, n⟩
  rw [eq] at moved finds outcome
  have attached : p ∈ n.probers.keys := moved ▸ unready.attached
  have found : (n.prober p).found.toList = fs := by
    rw [finds.found, agrees.2.taken, List.nil_append]
  -- Without the good end of a probe, whatever was found is taken without a ready event.
  have otherwise (other : phase ≠ .ready ∧ .ready ∉ fs) :
      Unready p (h.dispatch (detector p)).2 := by
    have between : Unready p ⟨h.engine, n⟩ :=
      ⟨attached, finds.phase.symm ▸ other.1, found.symm ▸ other.2, unready.pending⟩
    cases r with
    | error fault =>
      simp only [Host.dispatch, detector, eq]
      exact ⟨between.attached, between.phase, between.found, between.pending⟩
    | ok u =>
      simp only [Host.dispatch, detector, eq]
      exact between.settle _
  cases outcome with
  | nothing => exact .inl (otherwise ⟨unready.phase, List.not_mem_nil⟩)
  | carrierLost _ => exact .inl (otherwise (by simp))
  | taken k _ => exact .inl (otherwise (by simp))
  | defended claims _ _ _ => exact .inl (otherwise (by simp))
  | yielded claims k _ _ _ => exact .inl (otherwise (by simp))
  | succeeded _ _ =>
    obtain ⟨h', settled, awaiting⟩ := awaiting_settle attached finds.phase found probe
      (finds.probe.trans probe') pending
    have dispatched : h.dispatch (detector p) = (.ok (), h') := by
      simp only [Host.dispatch, detector, eq]
      exact settled
    rw [dispatched]
    exact .inr ⟨rfl, awaiting⟩

end LinkLocal.Simulation
