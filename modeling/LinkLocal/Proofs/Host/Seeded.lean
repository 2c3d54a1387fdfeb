import LinkLocal.Proofs.Host.Lasting
import LinkLocal.Proofs.Host.Record
import LinkLocal.Proofs.Selector.Candidates

/-! The candidates of a run are the seeded sequence. Whatever a detector answers and finds, and
whenever the engine picks another candidate, the probes that the detector is asked for are those of
the requested address, if there is one, and of the candidate sequence behind it, each of them once
and in order. A run goes on until the detector is asked for a new one: a stop does not end it, and
neither does an order to start that the engine refuses by itself. -/
namespace LinkLocal.Host

open Simulation.Segment (brief probeBy)

variable {σ : Type} [Journal σ] {d : Detector σ} {config : Config}

/-! ## Runs -/

/-- The probes among some exchanges. -/
def probesIn (exchanges : List Exchange) : List Probe := exchanges.filterMap Exchange.probe?

/-- The probes that a detector is asked for when orders are given in a row. -/
def probes (d : Detector σ) (orders : List Order) (h : Host σ) : List Probe :=
  probesIn (exchanges d orders h)

/-- No order asks the detector for a new run when its turn comes. -/
def Within (d : Detector σ) : List Order → Host σ → Prop
  | [], _ => True
  | order :: orders, h => ¬ order.Asks h.engine ∧ Within d orders (order.perform d h)

instance Within.decide (d : Detector σ) :
    (orders : List Order) → (h : Host σ) → Decidable (Within d orders h)
  | [], _ => .isTrue trivial
  | order :: orders, h =>
    have := Within.decide d orders (order.perform d h)
    inferInstanceAs (Decidable (_ ∧ _))

theorem probesIn_turn {r r' : Recorded σ} (turn : d.recorded.Turns r r') :
    probesIn r'.exchanges = probesIn r.exchanges := by
  cases turn with
  | note | tell | renew => rfl
  | stop | dispatch | poll | announce => exact (List.filterMap_append ..).trans (List.append_nil _)

/-! ## The sequence -/

/-- Behind a candidate an engine passes to the next one. -/
theorem passing_candidate {e : Engine} {c : Probe} {n : Nat} (probe : e.probe = some c)
    (current : e.probe = some (probeOf config (config.candidate n)))
    (position : e.selector = config.position n) : passing c e =
      { e with
        selector := config.position (n + 1)
        probe := some (probeOf config (config.candidate (n + 1))) } := by
  obtain rfl : c = probeOf config (config.candidate n) :=
    Option.some.inj (probe.symm.trans current)
  rw [passing, position, config.next_position n]
  rfl

/-- A host that has asked for the probes of the first candidates of a configuration. -/
def Seeded (config : Config) (h : Host (Recorded σ)) : Prop :=
  ∃ n, h.engine.probe = some (probeOf config (config.candidate n)) ∧
    h.engine.selector = config.position n ∧
    probesIn h.world.exchanges =
      (List.range (n + 1)).map fun i => probeOf config (config.candidate i)

theorem seeded_start {h : Host (Recorded σ)} (none : h.world.exchanges = [])
    (begins : (h.start d.recorded config).1 = .ok ()) :
    Seeded config (h.start d.recorded config).2 := by
  have started := started d.recorded config h
  generalize h.start d.recorded config = result at begins started ⊢
  obtain ⟨r, h'⟩ := result
  cases started with
  | refused => cases begins
  | failed => cases begins
  | begun _ _ _ begun =>
    have first := config.firstCandidate_eq
    refine ⟨0, ?_, ?_, ?_⟩
    · rw [beginning, firstProbe, first]
    · rw [beginning, first]
    · refine (congrArg probesIn (exchanges_of_start begun)).trans ?_
      rw [none, firstProbe, first]
      rfl

/-- Nothing but a new run ends the sequence. A candidate whose probe is refused has its place in it
as well. -/
theorem lasting_seeded (d : Detector σ) (config : Config) :
    Lasting d.recorded (Seeded (σ := σ) config) where
  world turn := fun ⟨n, probe, position, probed⟩ =>
    ⟨n, probe, position, (probesIn_turn turn).trans probed⟩
  idle seeded := seeded
  push _ seeded := seeded
  pop _ seeded := seeded
  pass {e r c answer r'} probe tried := by
    rintro ⟨n, current, position, probed⟩
    have passed := passing_candidate probe current position
    have following := Option.some.inj (congrArg Engine.probe passed)
    refine ⟨n + 1, congrArg Engine.probe passed, congrArg Engine.selector passed, ?_⟩
    rw [exchanges_of_start tried, following, List.range_succ, List.map_append, ← probed]
    exact List.filterMap_append
  skip none := fun ⟨_, current, _⟩ => by cases none.symm.trans current

theorem seeded_after {orders : List Order} {h : Host (Recorded σ)} (seeded : Seeded config h)
    (within : Within d orders (h.seen Recorded.world)) :
    Seeded config (after d.recorded orders h) := by
  induction orders generalizing h with
  | nil => exact seeded
  | cons order orders ih =>
    obtain ⟨unasked, within⟩ := within
    rw [(seen_order d.recorded_shows h order).2] at within
    refine ih ((lasting_seeded d config).perform seeded fun config' same => ?_) within
    rw [start_of_not_asks (same ▸ unasked)]
    exact seeded

/-! ## The range -/

/-- A host that has asked for probes of usable addresses only. -/
structure Proper (h : Host (Recorded σ)) : Prop where
  probed : ∀ c ∈ probesIn h.world.exchanges, c.address.isUsable = true
  candidate : ∀ a, h.engine.address = some a → a.isUsable = true
  pending : ∀ a, Event.ready a ∈ h.engine.pending.toList → a.isUsable = true

omit [Journal σ] in
theorem Proper.probed_of_start {e : Engine} {r r' : Recorded σ} (proper : Proper ⟨e, r⟩) {c : Probe}
    {answer : Except DetectorFault Unit} (tried : d.recorded.start c r = (answer, r'))
    (usable : c.address.isUsable = true) :
    ∀ c' ∈ probesIn r'.exchanges, c'.address.isUsable = true := by
  rw [exchanges_of_start tried, probesIn, List.filterMap_append]
  intro c' member
  rcases List.mem_append.mp member with earlier | same
  · exact proper.probed c' earlier
  · rwa [List.mem_singleton.mp same]

theorem lasting_proper (d : Detector σ) : Lasting d.recorded (Proper (σ := σ)) where
  world turn := fun ⟨probed, candidate, pending⟩ =>
    ⟨(probesIn_turn turn).symm ▸ probed, candidate, pending⟩
  idle := fun ⟨probed, candidate, pending⟩ => ⟨probed, candidate, pending⟩
  push fits := fun ⟨probed, candidate, pending⟩ => by
    refine ⟨probed, candidate, fun a member => ?_⟩
    rw [Engine.push, Queue.toList_push] at member
    rcases List.mem_append.mp member with earlier | same
    · exact pending a earlier
    · exact candidate a (fits a (List.mem_singleton.mp same).symm)
  pop rest := fun ⟨probed, candidate, pending⟩ =>
    ⟨probed, candidate, fun a member => pending a (rest.subset member)⟩
  pass {e r c answer r'} _ tried proper := by
    have usable := e.selector.isUsable_next
    refine ⟨proper.probed_of_start tried usable, fun a same => ?_, proper.pending⟩
    exact Option.some.inj same ▸ usable
  skip _ := fun ⟨probed, candidate, pending⟩ => ⟨probed, candidate, pending⟩

theorem proper_start {h : Host (Recorded σ)} (config : Config) (proper : Proper h) :
    Proper (h.start d.recorded config).2 := by
  have started := started d.recorded config h
  have usable (valid : config.validate = .ok ()) : (firstProbe config).address.isUsable = true := by
    cases requested : config.requestedAddress with
    | none =>
      simp only [firstProbe, probeOf, firstCandidate, requested]
      exact Selector.isUsable_next _
    | some a =>
      simp only [firstProbe, probeOf, firstCandidate, requested]
      exact (config.validate_eq_ok_iff.mp valid).2.2 a requested
  generalize h.start d.recorded config = result at started ⊢
  obtain ⟨r, h'⟩ := result
  cases started with
  | refused => exact proper
  | failed _ _ valid tried =>
    exact ⟨proper.probed_of_start tried (usable valid), proper.candidate, proper.pending⟩
  | begun _ _ valid begun =>
    have probed := proper.probed_of_start begun (usable valid)
    refine ⟨probed, fun a same => ?_, proper.pending⟩
    exact Option.some.inj same ▸ usable valid

theorem ready_handed {h : Host (Recorded σ)} (proper : Proper h) (orders : List Order) {a : IPv4}
    (handed : .ready a ∈ handedOut d.recorded orders h) : a.isUsable = true := by
  induction orders generalizing h with
  | nil => cases handed
  | cons order orders ih =>
    rcases List.mem_append.mp handed with now | later
    · exact proper.pending a (mem_pending_of_handed now)
    · exact ih ((lasting_proper d).perform proper fun config _ => proper_start config proper) later

/-- The probes of a run, from an order to start that succeeds to the next one that passes all
checks, are those of the requested address, if there is one, and of the candidate sequence of the
seed, in order and as the configuration has them. Every address that a host asks to probe, has as
its candidate or tells of as ready is usable. -/
theorem probes_seeded (d : Detector σ) :
    (∀ (h : Host σ) (config : Config) (orders : List Order),
      (h.start d config).1 = .ok () → Within d orders (h.start d config).2 →
      ∃ n, probes d (.start config :: orders) h <+:
        (config.requestedAddress.toList ++ (Selector.ofSeed config.enumeration).take n).map
          (probeOf config)) ∧
    ∀ (s : σ) (orders : List Order),
      (∀ c ∈ probes d orders (create s), c.address.isUsable = true) ∧
      (∀ a, (after d orders (create s)).engine.address = some a → a.isUsable = true) ∧
      ∀ a, .ready a ∈ handedOut d orders (create s) ++
        (after d orders (create s)).engine.pending.toList → a.isUsable = true := by
  constructor
  · intro h config orders begins within
    have started := seen_start d.recorded_shows config h.recording
    have begins' : (h.recording.start d.recorded config).1 = .ok () :=
      (congrArg Prod.fst started).symm.trans begins
    have seeded := seeded_start rfl begins'
    rw [show h.start d config = _ from started] at within
    obtain ⟨n, _, _, probed⟩ := seeded_after seeded within
    have asked : probes d (.start config :: orders) h =
        (List.range (n + 1)).map (probeOf config ∘ config.candidate) := probed
    refine ⟨n + 1, ?_⟩
    rw [asked, ← List.map_map]
    exact (config.candidates_prefix (n + 1)).map (probeOf config)
  · intro s orders
    obtain ⟨answers, _, same⟩ := recorded_after d orders (create s)
    have proper : Proper (create s).recording :=
      ⟨List.forall_mem_nil _, fun _ none => (nomatch none),
        fun _ member => absurd member List.not_mem_nil⟩
    have proper' := (lasting_proper d).after (fun config => proper_start config) orders proper
    refine ⟨proper'.probed, fun a candidate => ?_, fun a told => ?_⟩
    · rw [← same] at candidate
      exact proper'.candidate a candidate
    · rw [← same, handedOut, ← answers] at told
      rcases List.mem_append.mp told with handed | pending
      · exact ready_handed proper orders handed
      · exact proper'.pending a pending

/-- A script in which the first candidate is in use. -/
def crowded : Scripted := { outcomes := { front := [.used (probeBy 9).mac] } }

/-- Orders that come to the second candidate of a run, stop it, and try in vain to begin another
one. -/
def detour : List Order := [.dispatch, .stop, .start { brief with transport := .infiniband }]

theorem probes_seeded_crowded :
    ((create crowded).start Scripted.detector brief).1 = .ok () ∧
      Within Scripted.detector detour ((create crowded).start Scripted.detector brief).2 ∧
      probes Scripted.detector (.start brief :: detour) (create crowded) =
        [probeOf brief (.linkLocal 0xdee9), probeOf brief (.linkLocal 0xf3ec)] ∧
      ∃ n, probes Scripted.detector (.start brief :: detour) (create crowded) <+:
        (brief.requestedAddress.toList ++ (Selector.ofSeed brief.enumeration).take n).map
          (probeOf brief) := by
  have begins : ((create crowded).start Scripted.detector brief).1 = .ok () := by decide +kernel
  have within : Within Scripted.detector detour
      ((create crowded).start Scripted.detector brief).2 := by decide +kernel
  have asked : probes Scripted.detector (.start brief :: detour) (create crowded) =
      [probeOf brief (.linkLocal 0xdee9), probeOf brief (.linkLocal 0xf3ec)] := by decide +kernel
  exact ⟨begins, within, asked,
    (probes_seeded Scripted.detector).1 (create crowded) brief detour begins within⟩

end LinkLocal.Host
