import LinkLocal.Proofs.Host.Record

/-! Orders to start that fail. The engine begins the candidate sequence anew before it asks the
detector, so a detector that refuses leaves the engine with another candidate sequence than before.
Nothing else changes, and an order that does not get as far as the detector changes nothing at all.
The other sequence shows only if a finding makes the engine pick a candidate from it: the next order
to start that gets as far as the detector begins the sequence anew again. -/
namespace LinkLocal.Host

open Simulation.Segment (brief)

variable {σ : Type} [Journal σ] {d : Detector σ} {h : Host σ}

/-- A host with another candidate sequence. -/
def reseeded (selector : Selector) (h : Host σ) : Host σ := ⟨{ h.engine with selector }, h.world⟩

/-- A taking by a host with another candidate sequence. -/
def Taking.reseeded (selector : Selector) (t : Taking σ) : Taking σ :=
  ⟨t.host.reseeded selector, t.finding⟩

/-- No finding makes the engine pick another candidate, until an order to start gets as far as the
detector. -/
def Unsought (d : Detector σ) : List Order → Host σ → Prop
  | [], _ => True
  | order :: orders, h => order.Asks h.engine ∨
      (∀ t ∈ order.takings d h, t.seeks = false) ∧ Unsought d orders (order.perform d h)

instance Unsought.decide (d : Detector σ) :
    (orders : List Order) → (h : Host σ) → Decidable (Unsought d orders h)
  | [], _ => .isTrue trivial
  | order :: orders, h =>
    have := Unsought.decide d orders (order.perform d h)
    inferInstanceAs (Decidable (_ ∨ _ ∧ _))

/-! ## Refusals -/

section Refusals

variable {config : Config}

theorem start_of_running (running : h.engine.state = .running) :
    h.start d config = (.error (.busy .running), h) := by
  rw [start, if_pos running]

theorem start_of_waiting (idle : h.engine.state = .idle) (waiting : h.engine.pending.toList ≠ []) :
    h.start d config = (.error (.busy (.pending h.engine.pending.length)), h) := by
  have running : h.engine.state ≠ .running := by rw [idle]; nofun
  rw [start, if_neg running, if_pos (mt (Queue.isEmpty_iff _).mp waiting)]

theorem start_of_invalid {cause : InvalidArgument} (idle : h.engine.state = .idle)
    (taken : h.engine.pending.toList = []) (invalid : config.validate = .error cause) :
    h.start d config = (.error (.invalidArgument cause), h) := by
  have running : h.engine.state ≠ .running := by rw [idle]; nofun
  rw [start, if_neg running, if_neg (not_not_intro ((Queue.isEmpty_iff _).mpr taken)), invalid]

end Refusals

/-! ## Other sequences -/

theorem stop_reseeded (d : Detector σ) (h : Host σ) (selector : Selector) :
    (h.reseeded selector).stop d = (h.stop d).reseeded selector := by
  rw [stop_eq, stop_eq]
  rfl

/-- The candidate sequence does not matter to a finding that makes the engine pick no candidate. -/
theorem Reacted.reseeded {f : Detection} {h' : Host σ} (reacted : Reacted d h f h')
    (settles : (Taking.mk h f).seeks = false) (selector : Selector) :
    Reacted d (h.reseeded selector) f (h'.reseeded selector) := by
  cases reacted with
  | ready candidate => exact .ready candidate
  | unconfigured none => exact .unconfigured none
  | defended claim => exact .defended claim
  | lost claim policy => exact absurd policy (of_decide_eq_false settles)
  | yielded claim policy =>
    rw [← stop_reseeded]
    exact .yielded claim policy
  | used claim => cases settles
  | down => exact .down

theorem Settled.reseeded {n : Nat} {h' : Host σ} {ts : List (Taking σ)} {r : Except Error Unit}
    (settled : Settled d n h ts r h') (settles : ∀ t ∈ ts, t.seeks = false)
    (selector : Selector) :
    Settled d n (h.reseeded selector) (ts.map (Taking.reseeded selector)) r
      (h'.reseeded selector) := by
  induction settled with
  | enough h => exact .enough _
  | @taken _ h _ f s _ _ polled _ ih =>
    have reacted := (reacted d f ⟨h.engine, s⟩).reseeded (settles _ (.head _)) selector
    have later := ih fun t member => settles t (.tail _ member)
    rw [← reacted.eq] at later
    exact .taken polled later
  | done polled => exact .done polled
  | stopped polled => exact .stopped polled
  | failed polled => exact .failed polled

theorem dispatch_reseeded (settles : ∀ t ∈ dispatchTakings d h, t.seeks = false)
    (selector : Selector) :
    (h.reseeded selector).dispatch d = ((h.dispatch d).1, (h.dispatch d).2.reseeded selector) := by
  have dispatched := dispatched d h
  generalize h.dispatch d = result, dispatchTakings d h = ts at dispatched settles ⊢
  obtain ⟨r, h'⟩ := result
  cases dispatched with
  | failed attended => exact (Dispatched.failed (h := h.reseeded selector) attended).eq.2
  | settled attended settled =>
    exact (Dispatched.settled (h := h.reseeded selector) attended (settled.reseeded settles selector)).eq.2

theorem start_reseeded {config : Config} (unasked : ¬ (Order.start config).Asks h.engine)
    (selector : Selector) : (h.reseeded selector).start d config =
      ((h.start d config).1, (h.start d config).2.reseeded selector) := by
  cases state : h.engine.state with
  | running => rw [start_of_running state, start_of_running (h := h.reseeded selector) state]
  | idle =>
    by_cases taken : h.engine.pending.toList = []
    · cases valid : config.validate with
      | error cause =>
        rw [start_of_invalid state taken valid,
          start_of_invalid (h := h.reseeded selector) state taken valid]
      | ok => exact absurd ⟨state, taken, valid⟩ unasked
    · rw [start_of_waiting state taken, start_of_waiting (h := h.reseeded selector) state taken]
      rfl

/-- The candidate sequence does not matter to an order to start that gets as far as the detector. -/
theorem start_reseeded_of_asks {config : Config} (asks : (Order.start config).Asks h.engine)
    (selector : Selector) : (h.reseeded selector).start d config = h.start d config := by
  obtain ⟨idle, taken, valid⟩ := asks
  have empty : h.engine.pending.isEmpty = true := (Queue.isEmpty_iff _).mpr taken
  simp only [start, reseeded, idle, empty, valid, reduceCtorEq, not_true, if_false]

theorem announce_reseeded (d : Detector σ) (h : Host σ) (selector : Selector) :
    (h.reseeded selector).announce d =
      ((h.announce d).1, (h.announce d).2.reseeded selector) := by
  obtain ⟨⟨_, probe, policy, state, pending⟩, s⟩ := h
  cases state with
  | idle => rfl
  | running =>
    rcases tried : d.announce .once s with ⟨fault | _, s'⟩
    · simp only [announce, reseeded, tried, reduceCtorEq, if_false]
    · simp only [announce, reseeded, tried, reduceCtorEq, if_false]
      cases probe <;> rfl

omit [Journal σ] in
theorem pop_reseeded (h : Host σ) (selector : Selector) :
    (h.reseeded selector).pop = (h.pop.1, h.pop.2.reseeded selector) := by
  obtain ⟨⟨_, probe, policy, state, pending⟩, s⟩ := h
  cases front : pending.pop? with
  | some taken => simp only [pop, Engine.pop, reseeded, front]
  | none => cases state <;> simp only [pop, Engine.pop, reseeded, front]

theorem look_reseeded (settles : ∀ t ∈ Order.look.takings d h, t.seeks = false)
    (selector : Selector) :
    (h.reseeded selector).look d = ((h.look d).1, (h.look d).2.reseeded selector) := by
  have attending : Order.look.attending d (h.reseeded selector) =
      (Order.look.attending d h).map (reseeded selector) := by
    simp only [Order.attending, pop_reseeded]
    rw [apply_ite (Option.map (reseeded selector))]
    rfl
  simp only [look_eq, attending, pop_reseeded]
  rw [Order.takings] at settles
  cases same : Order.look.attending d h with
  | none => rfl
  | some h' =>
    rw [same] at settles
    simp only [Option.map_some, dispatch_reseeded settles]

/-- The candidate sequence does not matter to an order that does not get a run begun and takes no
finding that makes the engine pick a candidate. -/
theorem order_reseeded {order : Order} (unasked : ¬ order.Asks h.engine)
    (settles : ∀ t ∈ order.takings d h, t.seeks = false) (selector : Selector) :
    order.answer d (h.reseeded selector) = order.answer d h ∧
      order.perform d (h.reseeded selector) = (order.perform d h).reseeded selector := by
  cases order with
  | start config => simp only [Order.answer, Order.perform, start_reseeded unasked, and_self]
  | stop => exact ⟨rfl, stop_reseeded d h selector⟩
  | dispatch => simp only [Order.answer, Order.perform, dispatch_reseeded settles, and_self]
  | announce => simp only [Order.answer, Order.perform, announce_reseeded, and_self]
  | pop => simp only [Order.answer, Order.perform, pop_reseeded, and_self]
  | watch => exact ⟨rfl, rfl⟩
  | look => simp only [Order.answer, Order.perform, look_reseeded settles, and_self]

theorem asks_reseeded {order : Order} (asks : order.Asks h.engine) (selector : Selector) :
    order.answer d (h.reseeded selector) = order.answer d h ∧
      order.perform d (h.reseeded selector) = order.perform d h := by
  cases order with
  | start config =>
    simp only [Order.answer, Order.perform, start_reseeded_of_asks asks, and_self]
  | _ => cases asks

/-- A host with another candidate sequence does as it would with its own, until an order to start
gets as far as the detector, if no finding makes it pick a candidate before; and from then on anyway.
-/
theorem after_reseeded {orders : List Order} (unsought : Unsought d orders h)
    (selector : Selector) :
    answers d orders (h.reseeded selector) = answers d orders h ∧
      ∃ selector', after d orders (h.reseeded selector) =
        (after d orders h).reseeded selector' := by
  induction orders generalizing h with
  | nil => exact ⟨rfl, selector, rfl⟩
  | cons order orders ih =>
    by_cases asks : order.Asks h.engine
    · obtain ⟨answer, perform⟩ := asks_reseeded (d := d) asks selector
      rw [answers, answer, perform, after, List.foldl_cons, perform]
      exact ⟨rfl, _, rfl⟩
    · obtain ⟨settles, unsought⟩ := unsought.resolve_left asks
      obtain ⟨answer, perform⟩ := order_reseeded asks settles selector
      obtain ⟨answers, after⟩ := ih unsought
      rw [← perform] at answers after
      exact ⟨congrArg₂ List.cons answer answers, after⟩

/-! ## Failures -/

/-- An order to start that fails changes nothing in the engine but the candidate sequence, and that
only if it gets as far as the detector and the sequence was another one. From there on the host
answers and does what it would do with its own sequence, as long as no finding makes it pick a
candidate before the next order to start that gets as far as the detector. -/
theorem failed_start (d : Detector σ) (config : Config) (h : Host σ) {error : Error}
    (fails : (h.start d config).1 = .error error) :
    (h.start d config).2.engine =
        { h.engine with selector := (h.start d config).2.engine.selector } ∧
      ((h.start d config).2.engine = h.engine ↔
        ¬ (Order.start config).Asks h.engine ∨
          (firstCandidate config).2 = h.engine.selector) ∧
      ∀ orders, Unsought d orders ⟨h.engine, (h.start d config).2.world⟩ →
        answers d orders (h.start d config).2 =
            answers d orders ⟨h.engine, (h.start d config).2.world⟩ ∧
          ∃ selector, after d orders (h.start d config).2 =
            (after d orders ⟨h.engine, (h.start d config).2.world⟩).reseeded selector := by
  have started := started d config h
  generalize h.start d config = result at started fails ⊢
  obtain ⟨r, h'⟩ := result
  cases started with
  | refused _ reason =>
    refine ⟨rfl, iff_of_true rfl (.inl ?_), fun _ _ => ⟨rfl, _, rfl⟩⟩
    rintro ⟨idle, taken, valid⟩
    rcases reason with running | waiting | invalid
    · cases idle.symm.trans running
    · exact waiting taken
    · exact invalid valid
  | failed idle taken valid _ =>
    have asks : (Order.start config).Asks h.engine := ⟨idle, taken, valid⟩
    refine ⟨rfl, ⟨fun same => .inr (congrArg Engine.selector same), fun same => ?_⟩,
      fun orders unsought => after_reseeded unsought (firstCandidate config).2⟩
    rw [same.resolve_left (not_not_intro asks)]
  | begun => cases fails

/-- A host that has stopped, with a detector that refuses the next probe and then has a finding left
to tell. -/
def refused (found : Detection) : Host Scripted :=
  let h := after Scripted.detector [.start brief, .stop] (create {})
  ⟨h.engine, (h.world.fail .start .busy 1).inject ⟨found, false⟩⟩

/-- The same configuration with the candidate sequence of the default seed. -/
def unseeded : Config := { brief with enumeration := 0 }

theorem failed_start_defended :
    let h := refused (.defended foreign)
    let orders : List Order := [.dispatch, .start brief, .dispatch]
    (h.start Scripted.detector unseeded).1 = .error (.ofRequest .busy) ∧
      Unsought Scripted.detector orders ⟨h.engine, (h.start Scripted.detector unseeded).2.world⟩ ∧
      answers Scripted.detector orders (h.start Scripted.detector unseeded).2 =
        answers Scripted.detector orders
          ⟨h.engine, (h.start Scripted.detector unseeded).2.world⟩ := by
  intro h orders
  have fails : (h.start Scripted.detector unseeded).1 = .error (.ofRequest .busy) := by
    decide +kernel
  have unsought : Unsought Scripted.detector orders
      ⟨h.engine, (h.start Scripted.detector unseeded).2.world⟩ := by decide +kernel
  exact ⟨fails, unsought,
    ((failed_start Scripted.detector unseeded h fails).2.2 orders unsought).1⟩

/-- After an order to start that the detector refuses, a host has another candidate sequence, and
picks another candidate from it than it would have picked before. -/
theorem failed_start_reseeds :
    let h := refused (.used foreign)
    let h' := (h.start Scripted.detector unseeded).2
    (h.start Scripted.detector unseeded).1 = .error (.ofRequest .busy) ∧
      h'.engine.selector ≠ h.engine.selector ∧
      (after Scripted.detector [.dispatch] h').engine.address ≠
        (after Scripted.detector [.dispatch] ⟨h.engine, h'.world⟩).engine.address := by
  decide +kernel

end LinkLocal.Host
