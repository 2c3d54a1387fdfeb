import LinkLocal.Proofs.Segment.Serving

/-! The announcement that answers a ready event. Events wait until the owner of an engine
takes them, and until then the engine may have lost a candidate, picked another and
probed that one. What is announced is the present candidate, which is the one of the
latest event: it is the one that the owner was told of exactly if no later event tells
of another. -/
namespace LinkLocal.Simulation.Segment

open Network

variable {s s' : Segment} {past : List Segment} {p : Nat} {e e' : Engine} {a : IPv4}

/-- What is done on a segment, other than with the detector at a tap and its engine. -/
inductive Meanwhile (p : Nat) : Segment → Segment → Prop where
  | refl (s : Segment) : Meanwhile p s s
  | act {s s' : Segment} (meanwhile : Meanwhile p s s') (act : Act)
      (elsewhere : act.about ≠ some p) : Meanwhile p s (s'.perform act)

/-- A host and its detector do not change by themselves. -/
theorem Meanwhile.kept (meanwhile : Meanwhile p s s') (formed : WellFormed s.network) :
    WellFormed s'.network ∧ s'.engines.get? p = s.engines.get? p ∧
      s'.network.prober p = s.network.prober p := by
  induction meanwhile with
  | refl => exact ⟨formed, rfl, rfl⟩
  | act _ act elsewhere ih =>
    obtain ⟨formed, engine, prober⟩ := ih
    have happens := happening formed act
    refine ⟨happens.formed formed, ?_, (happens.prober elsewhere).trans prober⟩
    exact (engines_perform _ act elsewhere).trans engine

/-- An announcement that is not refused is one of the detector. -/
theorem announcing_of_ok {h : Host Network}
    (answered : (h.announce (detector p)).1 = .ok ()) :
    ∃ c, Announcing p c h.world (h.announce (detector p)).2.world := by
  by_cases state : h.engine.state = .idle
  · simp only [Host.announce, state, if_true] at answered
    cases answered
  rcases announce_cases p .once h.world with ⟨⟨fault, refused⟩, _⟩ | ⟨ok, c, announcing⟩
  · simp only [Host.announce, state, if_false, detector, refused] at answered
    cases answered
  · refine ⟨c, ?_⟩
    rcases eq : h.world.announce p .once with ⟨r, n'⟩
    rw [eq] at ok announcing
    cases ok
    simp only [Host.announce, state, if_false, detector, eq]
    split
    · exact announcing.quiet (quiet_note _ n')
    · exact announcing

/-- A host whose detector waits for its announcement has been told of the present
candidate, or has the event that tells of it as its latest. -/
theorem latest_of_ready {c : Probe} (agree : Agree e (s.network.prober p))
    (popped : e.pop = (.event (.ready a), e')) (ready : (s.network.prober p).phase = .ready)
    (probe : (s.network.prober p).probe = some c) :
    (Event.ready a :: e'.pending.toList).getLast? = some (.ready c.address) := by
  obtain ⟨held, _⟩ := pop_event popped
  rw [List.getLast?_cons]
  refine congrArg some ?_
  obtain ⟨d, probe', same⟩ := agree.newest ready _ (held ▸ List.getLast?_cons)
  rw [probe] at probe'
  cases probe'
  exact same

/-- An announcement right after a ready event announces the address of the latest event
that waits, and the one of that event exactly if no later event tells of another. -/
theorem announced_iff_latest (run : Run Engaging (s :: past))
    (engine : s.engines.get? p = some e) (popped : e.pop = (.event (.ready a), e'))
    (meanwhile : Meanwhile p (s.perform (.order p .pop)) s')
    (answered : (Host.announce (detector p) ⟨e', s'.network⟩).1 = .ok ()) :
    ∃ c, Announced p c (s'.perform (.order p .announce)).network ∧
      (s'.perform (.order p .announce)).network.link.owner c.address = some c.mac ∧
      (Event.ready a :: e'.pending.toList).getLast? = some (.ready c.address) ∧
      (c.address = a ↔
        ∀ event, e'.pending.toList.getLast? = some event → event = .ready a) := by
  have order : s.perform (.order p .pop) = ⟨s.network, s.engines.insert p e'⟩ := by
    simp only [perform, engine, Host.Order.perform, Host.pop, popped]
  rw [order] at meanwhile
  obtain ⟨_, engine', prober⟩ := meanwhile.kept run.wellFormed
  rw [Table.get?_insert_self] at engine'
  have network : (s'.perform (.order p .announce)).network =
      (Host.announce (detector p) ⟨e', s'.network⟩).2.world := by
    simp only [perform, engine', Host.Order.perform]
  obtain ⟨c, announcing⟩ := announcing_of_ok answered
  have latest := latest_of_ready (run.agree engine) popped
    (prober ▸ announcing.ready) (prober ▸ announcing.probe)
  rw [network]
  refine ⟨c, announcing.announced, ?_, latest, ?_⟩
  · rw [announcing.owner, if_pos rfl]
  · rw [List.getLast?_cons] at latest
    cases waiting : e'.pending.toList.getLast? with
    | none =>
      rw [waiting, Option.getD_none, Option.some.injEq, Event.ready.injEq] at latest
      simp [latest]
    | some event =>
      rw [waiting, Option.getD_some, Option.some.injEq] at latest
      simp [latest]

/-- The engine of a host whose owner was told of its first candidate, after it has probed
its second one. -/
def notified : Engine := { reselected with pending := ⟨[.ready (.linkLocal 0xf3ec)], []⟩ }

private theorem told_of_first : ∃ s past s', Run Engaging (s :: past) ∧
    s.engines.get? 0 = some reselected ∧
    reselected.pop = (.event (.ready (.linkLocal 0xdee9)), notified) ∧
    Meanwhile 0 (s.perform (.order 0 .pop)) s' ∧
    (Host.announce (detector 0) ⟨notified, s'.network⟩).1 = .ok () ∧
    Announced 0 ⟨1, (probeBy 1).mac, .ethernet, .linkLocal 0xf3ec, 10⟩
      (s'.perform (.order 0 .announce)).network := by
  have meanwhile (s : Segment) := (Meanwhile.refl (p := 0) s)
    |>.act (.claim ⟨Packet.request, (probeBy 9).mac, .linkLocal 0xdee9⟩) (by decide)
    |>.act (.pass 1000000) (by decide)
  refine ⟨_, _, _, run_reselection, ?_, rfl, meanwhile _, rfl, ?_⟩
  · decide +kernel
  · decide +kernel

/-- An announcement right after a ready event can be one of another address, which the
owner was not told of yet. -/
theorem announced_without_notice : ¬ ∀ s past, Run Engaging (s :: past) →
    ∀ p e e' a s', s.engines.get? p = some e → e.pop = (.event (.ready a), e') →
      Meanwhile p (s.perform (.order p .pop)) s' →
      (Host.announce (detector p) ⟨e', s'.network⟩).1 = .ok () →
      ∀ c, Announced p c (s'.perform (.order p .announce)).network → c.address = a := by
  intro always
  obtain ⟨s, past, s', run, engine, popped, meanwhile, answered, announced⟩ := told_of_first
  have same := always s past run 0 _ _ _ s' engine popped meanwhile answered _ announced
  exact absurd same (by decide)

/-- The second candidate is announced, and its event still waits. -/
theorem announced_before_notice : ∃ s past s', Run Engaging (s :: past) ∧
    s.engines.get? 0 = some reselected ∧
    reselected.pop = (.event (.ready (.linkLocal 0xdee9)), notified) ∧
    Meanwhile 0 (s.perform (.order 0 .pop)) s' ∧
    (Host.announce (detector 0) ⟨notified, s'.network⟩).1 = .ok () ∧
    ∃ c, Announced 0 c (s'.perform (.order 0 .announce)).network ∧
      (s'.perform (.order 0 .announce)).network.link.owner c.address = some c.mac ∧
      (Event.ready (.linkLocal 0xdee9) :: notified.pending.toList).getLast? =
        some (.ready c.address) ∧
      (c.address = .linkLocal 0xdee9 ↔
        ∀ event, notified.pending.toList.getLast? = some event →
          event = .ready (.linkLocal 0xdee9)) := by
  obtain ⟨s, past, s', run, engine, popped, meanwhile, answered, _⟩ := told_of_first
  exact ⟨s, past, s', run, engine, popped, meanwhile, answered,
    announced_iff_latest run engine popped meanwhile answered⟩

end LinkLocal.Simulation.Segment
