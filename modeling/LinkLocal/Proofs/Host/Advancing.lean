import LinkLocal.Proofs.Host.Seeded
import LinkLocal.Proofs.Host.Stray
import LinkLocal.Proofs.Selector.Repeats

/-! Whether a host moves on. A host that loses its candidate picks the next one of its run and does
not look which one it has lost. So it begins with another address exactly if the candidates of the
run do not repeat at that place; the detector has no part in this, whatever it finds and answers. -/
namespace LinkLocal.Host

open Simulation.Segment (brief)

variable {σ : Type} [Journal σ] {d : Detector σ} {config : Config} {h : Host σ} {n : Nat}

/-! ## Moving on -/

/-- Any probe that a finding makes a host ask for is for another address than its candidate, which
is lost. -/
def Taking.MovesOn (d : Detector σ) (t : Taking σ) : Prop :=
  ∀ c answer, Exchange.start c answer ∈ t.exchanges d → t.host.engine.address ≠ some c.address

/-- A host moves on exactly if the next candidate, where it picks it, is not the one that it has. -/
theorem Taking.movesOn_iff (t : Taking σ) : t.MovesOn d ↔
    (t.seeks = true → t.host.engine.address ≠ some t.host.engine.selector.next.1) := by
  have effect := (reacted d.recorded t.finding t.host.recording).effect
  rw [Taking.MovesOn, Taking.exchanges]
  generalize react d.recorded t.finding t.host.recording = h' at effect ⊢
  have asks {c : Probe} {answer : Except DetectorFault Unit} (seeks : t.seeks = true)
      (asked : h'.world.exchanges = [.start c answer])
      (next : c.address = t.host.engine.selector.next.1) :
      (∀ c answer, Exchange.start c answer ∈ h'.world.exchanges →
        t.host.engine.address ≠ some c.address) ↔
      (t.seeks = true → t.host.engine.address ≠ some t.host.engine.selector.next.1) := by
    simp only [asked, List.mem_singleton, Exchange.start.injEq, and_imp, forall_eq_apply_imp_iff,
      forall_eq, seeks, true_imp_iff, next]
  have silent (unasked : ∀ c answer, Exchange.start c answer ∉ h'.world.exchanges)
      (vain : t.seeks = false ∨ t.host.engine.probe = none) :
      (∀ c answer, Exchange.start c answer ∈ h'.world.exchanges →
        t.host.engine.address ≠ some c.address) ↔
      (t.seeks = true → t.host.engine.address ≠ some t.host.engine.selector.next.1) := by
    refine iff_of_true (fun c answer member => absurd member (unasked c answer)) fun seeks same => ?_
    rcases vain with settles | unconfigured
    · cases settles.symm.trans seeks
    · rw [Engine.address, unconfigured] at same
      cases same
  cases effect with
  | restarted seeks asked _ _ _ next => exact asks seeks asked next
  | refused seeks asked _ next => exact asks seeks asked next
  | unconfigured _ asked _ before =>
    exact silent (fun _ _ member => by rw [asked] at member; cases member) (.inr before)
  | stopped settles asked =>
    exact silent (fun _ _ member => by simp [asked, recording] at member) (.inl settles)
  | down settles asked | told settles asked =>
    exact silent (fun _ _ member => by rw [asked] at member; cases member) (.inl settles)

/-! ## Candidates in a row -/

/-- A host stands at a candidate of a run. -/
structure Standing (config : Config) (n : Nat) (h : Host σ) : Prop where
  probe : h.engine.probe = some (probeOf config (config.candidate n))
  selector : h.engine.selector = config.position n

/-- Takings meet a host at one candidate of a run after another. -/
def Along (config : Config) : Nat → List (Taking σ) → Prop
  | _, [] => True
  | n, t :: ts => Standing config n t.host ∧ Along config (if t.seeks then n + 1 else n) ts

omit [Journal σ] in
/-- The place that takings lead to is the one that the first leads to, and on from there. -/
theorem place_cons (n : Nat) (t : Taking σ) (ts : List (Taking σ)) :
    n + (t :: ts).countP Taking.seeks =
      (if t.seeks then n + 1 else n) + ts.countP Taking.seeks := by
  rw [List.countP_cons]
  split <;> omega

omit [Journal σ] in
theorem Along.append {n : Nat} {ts ts' : List (Taking σ)} (along : Along config n ts)
    (along' : Along config (n + ts.countP Taking.seeks) ts') : Along config n (ts ++ ts') := by
  induction ts generalizing n with
  | nil => exact along'
  | cons t ts ih =>
    rw [place_cons] at along'
    exact ⟨along.1, ih along.2 along'⟩

/-- Where the candidates of a run do not repeat, a host that stands there moves on. -/
theorem Standing.movesOn_iff {t : Taking σ} (standing : Standing config n t.host) :
    t.MovesOn d ↔ (t.seeks = true → ¬ config.Repeats n) := by
  rw [t.movesOn_iff, Engine.address, standing.probe, standing.selector, config.next_position,
    ← config.candidate_succ_eq_iff]
  refine imp_congr_right fun _ => not_congr ?_
  rw [Option.map_some, Option.some_inj]
  exact eq_comm

/-- Along a run, a host always moves on exactly if no candidates repeat where it picks another. -/
theorem Along.movesOn_iff {ts : List (Taking σ)} (along : Along config n ts) :
    (∀ t ∈ ts, t.MovesOn d) ↔ ∀ k < ts.countP Taking.seeks, ¬ config.Repeats (n + k) := by
  induction ts generalizing n with
  | nil => simp
  | cons t ts ih =>
    rw [List.forall_mem_cons, along.1.movesOn_iff, ih along.2]
    cases seeks : t.seeks with
    | true =>
      rw [List.countP_cons_of_pos seeks, Nat.forall_lt_succ_left]
      simp only [true_imp_iff, if_true, Nat.add_zero, Nat.add_assoc, Nat.add_comm 1]
    | false =>
      rw [List.countP_cons_of_neg (by simp [seeks])]
      simp

/-- A host that picks another candidate stands at the next one. -/
theorem Standing.reselect (standing : Standing config n h) :
    Standing config (n + 1) (h.reselect d) := by
  have reselected := reselected d h
  generalize h.reselect d = h' at reselected ⊢
  have passed {c : Probe} (probe : h.engine.probe = some c) :=
    passing_candidate probe standing.probe standing.selector
  cases reselected with
  | begun probe _ =>
    exact ⟨congrArg Engine.probe (passed probe), congrArg Engine.selector (passed probe)⟩
  | failed probe _ =>
    exact ⟨congrArg Engine.probe (passed probe), congrArg Engine.selector (passed probe)⟩
  | unconfigured none => cases none.symm.trans standing.probe

/-- A finding leaves a host where it stands, or makes it pick another candidate. -/
theorem Standing.react {t : Taking σ} (standing : Standing config n t.host) :
    Standing config (if t.seeks then n + 1 else n) (t.reaction d) := by
  obtain ⟨h, f⟩ := t
  have reacted := reacted d f h
  rw [Taking.reaction]
  generalize Host.react d f h = h' at reacted ⊢
  obtain ⟨probe, selector⟩ := standing
  cases reacted with
  | ready candidate => exact ⟨probe, selector⟩
  | unconfigured none => exact ⟨probe, selector⟩
  | defended claim => exact ⟨probe, selector⟩
  | lost claim policy =>
    have seeks : (Taking.mk h (.conflict claim)).seeks = true := decide_eq_true policy
    rw [if_pos seeks]
    exact Standing.reselect ⟨probe, selector⟩
  | yielded claim policy =>
    have settles : ¬ (Taking.mk h (.conflict claim)).seeks = true := by
      simp [Taking.seeks, policy]
    rw [if_neg settles, stop_eq]
    exact ⟨probe, selector⟩
  | used claim => exact Standing.reselect ⟨probe, selector⟩
  | down => exact ⟨probe, selector⟩

/-! ## Orders in a row -/

theorem Settled.along {m : Nat} {h' : Host σ} {ts : List (Taking σ)} {r : Except Error Unit}
    (settled : Settled d m h ts r h') (standing : Standing config n h) :
    Along config n ts ∧ Standing config (n + ts.countP Taking.seeks) h' := by
  induction settled generalizing n with
  | enough => exact ⟨trivial, standing⟩
  | @taken _ h _ f s ts _ polled _ ih =>
    have met : Standing config n (⟨h.engine, s⟩ : Host σ) := ⟨standing.probe, standing.selector⟩
    obtain ⟨later, ended⟩ := ih (Standing.react (t := ⟨_, f⟩) met)
    rw [place_cons]
    exact ⟨⟨met, later⟩, ended⟩
  | done polled => exact ⟨trivial, standing.probe, standing.selector⟩
  | stopped polled => exact ⟨trivial, standing.probe, standing.selector⟩
  | failed polled => exact ⟨trivial, standing.probe, standing.selector⟩

theorem dispatch_along (standing : Standing config n h) :
    Along config n (dispatchTakings d h) ∧
      Standing config (n + (dispatchTakings d h).countP Taking.seeks) (h.dispatch d).2 := by
  have dispatched := dispatched d h
  generalize h.dispatch d = result, dispatchTakings d h = ts at dispatched ⊢
  obtain ⟨r, h'⟩ := result
  cases dispatched with
  | failed attended => exact ⟨trivial, standing.probe, standing.selector⟩
  | settled attended settled => exact settled.along ⟨standing.probe, standing.selector⟩

/-- An order makes a host go along its run, unless it asks the detector for a new one. -/
theorem order_along (standing : Standing config n h) {order : Order}
    (unasked : ¬ order.Asks h.engine) : Along config n (order.takings d h) ∧
      Standing config (n + (order.takings d h).countP Taking.seeks) (order.perform d h) := by
  have untaken (elsewhere : order.attending d h = none)
      (stays : Standing config n (order.perform d h)) : Along config n (order.takings d h) ∧
        Standing config (n + (order.takings d h).countP Taking.seeks) (order.perform d h) := by
    rw [takings_of_not_attending elsewhere]
    exact ⟨trivial, stays⟩
  have popped : Standing config n h.pop.2 := by
    constructor
    · rw [pop_engine]
      exact standing.probe
    · rw [pop_engine]
      exact standing.selector
  cases order with
  | start config' =>
    refine untaken rfl ?_
    rw [Order.perform, start_of_not_asks unasked]
    exact standing
  | stop =>
    refine untaken rfl ?_
    rw [Order.perform, stop_eq]
    exact ⟨standing.probe, standing.selector⟩
  | dispatch => exact dispatch_along standing
  | announce =>
    refine untaken rfl ⟨?_, ?_⟩
    · rw [Order.perform, announce_engine, standing.probe]
    · rw [Order.perform, announce_engine, standing.selector]
  | pop => exact untaken rfl popped
  | watch => exact untaken rfl ⟨standing.probe, standing.selector⟩
  | look =>
    cases attending : Order.look.attending d h with
    | none =>
      refine untaken attending ?_
      simp only [Order.perform, look_eq, attending]
      exact popped
    | some h' =>
      rw [takings_of_attending attending]
      simp only [Order.perform, look_eq, attending]
      obtain ⟨rfl, _⟩ := attending_look attending
      exact dispatch_along (h := ⟨h.engine, _⟩) ⟨standing.probe, standing.selector⟩

theorem takings_along {orders : List Order} (standing : Standing config n h)
    (within : Within d orders h) : Along config n (takings d orders h) := by
  induction orders generalizing h n with
  | nil => trivial
  | cons order orders ih =>
    obtain ⟨now, later⟩ := order_along (d := d) standing within.1
    exact now.append (ih later within.2)

theorem standing_start (begins : (h.start d config).1 = .ok ()) :
    Standing config 0 (h.start d config).2 := by
  have started := started d config h
  generalize h.start d config = result at begins started ⊢
  obtain ⟨r, h'⟩ := result
  cases started with
  | refused => cases begins
  | failed => cases begins
  | begun =>
    have first := config.firstCandidate_eq
    exact ⟨by rw [beginning, firstProbe, first], by rw [beginning, first]⟩

/-- Whatever host takes a finding, it moves on exactly if the next candidate, where it picks it, is
not the one that it has. So in a run, from an order to start that succeeds to the next one that
passes all checks, a host always moves on exactly if no candidates of the configuration repeat at
the places where it picks another one. -/
theorem moves_on_iff (d : Detector σ) :
    (∀ t : Taking σ, t.MovesOn d ↔
      (t.seeks = true → t.host.engine.address ≠ some t.host.engine.selector.next.1)) ∧
    ∀ (h : Host σ) (config : Config) (orders : List Order),
      (h.start d config).1 = .ok () → Within d orders (h.start d config).2 →
      ((∀ t ∈ takings d orders (h.start d config).2, t.MovesOn d) ↔
        ∀ k < (takings d orders (h.start d config).2).countP Taking.seeks, ¬ config.Repeats k) := by
  refine ⟨fun t => t.movesOn_iff, fun h config orders begins within => ?_⟩
  have along := takings_along (standing_start begins) within
  have moves := along.movesOn_iff (d := d)
  simp only [Nat.zero_add] at moves
  exact moves

/-- A host whose first candidate is in use moves on to the second one. -/
theorem moves_on_crowded :
    ((create crowded).start Scripted.detector brief).1 = .ok () ∧
      Within Scripted.detector detour ((create crowded).start Scripted.detector brief).2 ∧
      (takings Scripted.detector detour
        ((create crowded).start Scripted.detector brief).2).countP Taking.seeks = 1 ∧
      ∀ t ∈ takings Scripted.detector detour ((create crowded).start Scripted.detector brief).2,
        t.MovesOn Scripted.detector := by
  have begins : ((create crowded).start Scripted.detector brief).1 = .ok () := by decide +kernel
  have within : Within Scripted.detector detour
      ((create crowded).start Scripted.detector brief).2 := by decide +kernel
  have once : (takings Scripted.detector detour
      ((create crowded).start Scripted.detector brief).2).countP Taking.seeks = 1 := by
    decide +kernel
  have moves := (moves_on_iff Scripted.detector).2 (create crowded) brief detour begins within
  refine ⟨begins, within, once, moves.mpr fun k below => ?_⟩
  obtain rfl : k = 0 := by omega
  rw [← brief.candidate_succ_eq_iff]
  decide +kernel

/-- The address is requested with which the sequence begins anyway. -/
def anyway : Config := { brief with requestedAddress := some (.linkLocal 0xdee9) }

/-- The first two draws have the same fold. -/
def doubled : Config := { brief with enumeration := 21460 }

/-- A host whose first candidate is in use begins with the same address again, with a requested
address or without one. -/
theorem stands_still :
    (anyway.validate = .ok () ∧
      ∃ t ∈ takings Scripted.detector [.start anyway, .dispatch] (create crowded),
        ¬ t.MovesOn Scripted.detector) ∧
    (doubled.validate = .ok () ∧
      ∃ t ∈ takings Scripted.detector [.start doubled, .dispatch] (create crowded),
        ¬ t.MovesOn Scripted.detector) := by
  simp only [Taking.movesOn_iff]
  decide +kernel

end LinkLocal.Host
