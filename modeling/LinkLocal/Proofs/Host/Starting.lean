import LinkLocal.Host

/-! How the beginning of a probe can go. An order to begin a run is refused before the
detector hears of it, the detector refuses its probe, or the run begins; the probe of the
next candidate begins, or the engine goes down. -/
namespace LinkLocal

/-- A probe that a detector at rest can refuse for its length only. -/
def Probe.Eligible (c : Probe) : Prop := c.mac.isEmpty = false ∧ c.transport = .ethernet

namespace Host

variable {σ : Type} [Journal σ]

/-- The probe with which a run begins. -/
def firstProbe (c : Config) : Probe := probeOf c (firstCandidate c).1

/-- What an engine has checked is eligible, whatever the address. -/
theorem eligible_probeOf {config : Config} (valid : config.validate = .ok ()) (a : IPv4) :
    (probeOf config a).Eligible := by
  obtain ⟨transport, length, _⟩ := config.validate_eq_ok_iff.mp valid
  refine ⟨?_, transport⟩
  rw [LinkAddress.length] at length
  exact List.isEmpty_eq_false_iff.mpr (List.ne_nil_of_length_eq_add_one length)

/-- The engine at the beginning of a run, where it was so before. -/
def beginning (c : Config) (e : Engine) : Engine where
  selector := (firstCandidate c).2
  probe := some (firstProbe c)
  policy := c.conflictPolicy
  state := .running
  pending := e.pending

/-- The ways in which an order to begin a run can go. -/
inductive Started (d : Detector σ) (c : Config) (h : Host σ) :
    Except Error Unit → Host σ → Prop where
  | refused (error : Error) (reason : h.engine.state = .running ∨
      h.engine.pending.toList ≠ [] ∨ c.validate ≠ .ok ()) : Started d c h (.error error) h
  | failed {fault : DetectorFault} {s : σ} (idle : h.engine.state = .idle)
      (taken : h.engine.pending.toList = []) (valid : c.validate = .ok ())
      (tried : d.start (firstProbe c) h.world = (.error fault, s)) :
      Started d c h (.error (.ofRequest fault))
        ⟨{ h.engine with selector := (firstCandidate c).2 }, s⟩
  | begun {s : σ} (idle : h.engine.state = .idle) (taken : h.engine.pending.toList = [])
      (valid : c.validate = .ok ()) (begun : d.start (firstProbe c) h.world = (.ok (), s)) :
      Started d c h (.ok ()) ⟨beginning c h.engine,
        Journal.note (.started (firstCandidate c).1 c.ifindex c.requestedAddress.isSome) s⟩

theorem started (d : Detector σ) (c : Config) (h : Host σ) :
    Started d c h (h.start d c).1 (h.start d c).2 := by
  rw [start]
  split
  · next running => exact .refused _ (.inl running)
  · next state =>
    have idle : h.engine.state = .idle := by
      cases same : h.engine.state with
      | idle => rfl
      | running => exact absurd same state
    split
    · next pending => exact .refused _ (.inr (.inl (mt (Queue.isEmpty_iff _).mpr pending)))
    · next pending =>
      have taken := (Queue.isEmpty_iff _).mp (Decidable.not_not.mp pending)
      split
      · next invalid => exact .refused _ (.inr (.inr (by simp [invalid])))
      · next valid =>
        split
        next a selector first =>
        obtain ⟨rfl, rfl⟩ : (firstCandidate c).1 = a ∧ (firstCandidate c).2 = selector := by
          rw [first]
          exact ⟨rfl, rfl⟩
        rcases tried : d.start (probeOf c (firstCandidate c).1) h.world with ⟨fault | ⟨⟩, s⟩
        · simp only [tried]
          exact .failed idle taken valid tried
        · simp only [tried]
          exact .begun idle taken valid tried

/-- The engine after it has picked the next candidate, where it was so before. -/
def passing (c : Probe) (e : Engine) : Engine :=
  { e with selector := e.selector.next.2, probe := some { c with address := e.selector.next.1 } }

/-- The ways in which picking the next candidate can go. -/
inductive Reselected (d : Detector σ) (h : Host σ) : Host σ → Prop where
  | begun {c : Probe} {s : σ} (probe : h.engine.probe = some c)
      (begun : d.start { c with address := h.engine.selector.next.1 } h.world = (.ok (), s)) :
      Reselected d h ((⟨passing c h.engine, s⟩ : Host σ).note
        (.restarted h.engine.selector.next.1 c.ifindex))
  | failed {c : Probe} {fault : DetectorFault} {s : σ} (probe : h.engine.probe = some c)
      (tried : d.start { c with address := h.engine.selector.next.1 } h.world =
        (.error fault, s)) :
      Reselected d h ((⟨passing c h.engine, s⟩ : Host σ).note
        (.restartFailed h.engine.selector.next.1 fault)).goDown
  | unconfigured (probe : h.engine.probe = none) :
      Reselected d h ((⟨{ h.engine with selector := h.engine.selector.next.2 }, h.world⟩
        : Host σ).note .noProbe).goDown

theorem reselected (d : Detector σ) (h : Host σ) : Reselected d h (h.reselect d) := by
  rw [reselect]
  split
  next a selector next =>
  obtain ⟨rfl, rfl⟩ : h.engine.selector.next.1 = a ∧ h.engine.selector.next.2 = selector := by
    rw [next]
    exact ⟨rfl, rfl⟩
  dsimp only
  split
  · next nothing => exact .unconfigured nothing
  · next c probe =>
    rcases tried : d.start { c with address := h.engine.selector.next.1 } h.world with
      ⟨fault | ⟨⟩, s⟩
    · exact .failed probe tried
    · exact .begun probe tried

end Host
end LinkLocal
