import LinkLocal.Proofs.Host.Orders
import LinkLocal.Proofs.Host.Starting

/-! How a host attends to its detector: it takes one finding after another, and each of them goes
through the policy before the next one is asked for. A taking is one such moment, with the finding
and the host as the finding meets it. The takings of an order, and of orders in a row, are all that
can make a difference between what an owner ordered and what a host does. -/
namespace LinkLocal.Host

variable {σ : Type} [Journal σ] {d : Detector σ} {h : Host σ}

/-! ## Reactions -/

/-- A host that leaves an event for its owner, with a notice. -/
def leave (e : Event) (x : Notice) (h : Host σ) : Host σ :=
  ⟨h.engine.push e, Journal.note x h.world⟩

/-- A host that is idle now, with a notice if it was running. -/
def rest (x : Notice) (h : Host σ) : Host σ :=
  ⟨{ h.engine with state := .idle },
    if h.engine.state = .running then Journal.note x h.world else h.world⟩

theorem stop_eq (d : Detector σ) (h : Host σ) :
    h.stop d = rest .stopped ⟨h.engine, d.stop h.world⟩ := by
  simp only [stop, rest]
  split <;> rfl

/-- The ways in which a finding can go through the policy. -/
inductive Reacted (d : Detector σ) (h : Host σ) : Detection → Host σ → Prop where
  | ready {a : IPv4} (candidate : h.engine.address = some a) :
      Reacted d h .ready (h.leave (.ready a) (.ready a))
  | unconfigured (none : h.engine.address = none) :
      Reacted d h .ready (h.note .readyUnconfigured).goDown
  | defended (claim : Packet) :
      Reacted d h (.defended claim) (h.leave (.defended claim) (.defended claim))
  | lost (claim : Packet) (policy : h.engine.policy = .reselect) :
      Reacted d h (.conflict claim) ((h.leave (.conflict claim) (.lost claim)).reselect d)
  | yielded (claim : Packet) (policy : h.engine.policy = .stop) :
      Reacted d h (.conflict claim) ((h.leave (.conflict claim) (.lost claim)).stop d)
  | used (claim : Packet) : Reacted d h (.used claim) ((h.note (.inUse claim)).reselect d)
  | down : Reacted d h .down h.goDown

/-- A finding can go through the policy in one way only. -/
theorem Reacted.eq {f : Detection} {h' : Host σ} (reacted : Reacted d h f h') :
    react d f h = h' := by
  cases reacted with
  | ready candidate => rw [react, candidate]; rfl
  | unconfigured none => rw [react, none]
  | lost claim policy => simp only [react, note, Engine.push, policy, leave]
  | yielded claim policy => simp only [react, note, Engine.push, policy, leave]
  | _ => rfl

theorem reacted (d : Detector σ) (f : Detection) (h : Host σ) : Reacted d h f (react d f h) := by
  cases f with
  | ready =>
    rw [react]
    split
    · next candidate => exact .ready candidate
    · next none => exact .unconfigured none
  | defended claim => exact .defended claim
  | conflict claim =>
    cases policy : h.engine.policy with
    | reselect => exact (Reacted.lost claim policy).eq ▸ .lost claim policy
    | stop => exact (Reacted.yielded claim policy).eq ▸ .yielded claim policy
  | used claim => exact .used claim
  | down => exact .down

/-! ## Takings -/

/-- A finding, and the host as the finding meets it. -/
structure Taking (σ : Type) where
  host : Host σ
  finding : Detection

/-- The host after a finding has gone through the policy. -/
def Taking.reaction (d : Detector σ) (t : Taking σ) : Host σ := react d t.finding t.host

/-- Whether a finding makes the engine pick another candidate. -/
def Taking.seeks (t : Taking σ) : Bool :=
  match t.finding with
  | .used _ => true
  | .conflict _ => t.host.engine.policy = .reselect
  | _ => false

/-- The takings of a host that may take so many findings. -/
def takingsOf (d : Detector σ) : (findings : Nat) → Host σ → List (Taking σ)
  | 0, _ => []
  | n + 1, h =>
    match d.poll h.world with
    | (.ok (.found f), s) => ⟨⟨h.engine, s⟩, f⟩ :: takingsOf d n (react d f ⟨h.engine, s⟩)
    | _ => []

/-- The takings of a dispatch. -/
def dispatchTakings (d : Detector σ) (h : Host σ) : List (Taking σ) :=
  match d.dispatch h.world with
  | (.ok _, s) => takingsOf d (d.backlog s + 1) ⟨h.engine, s⟩
  | (.error _, _) => []

/-- The takings of an order. -/
def Order.takings (d : Detector σ) (h : Host σ) (order : Order) : List (Taking σ) :=
  ((order.attending d h).map (dispatchTakings d)).getD []

theorem takings_of_attending {order : Order} {h' : Host σ}
    (attending : order.attending d h = some h') : order.takings d h = dispatchTakings d h' := by
  rw [Order.takings, attending]
  rfl

theorem takings_of_not_attending {order : Order} (elsewhere : order.attending d h = none) :
    order.takings d h = [] := by
  rw [Order.takings, elsewhere]
  rfl

/-- The ways in which the findings of a detector can be taken. -/
inductive Settled (d : Detector σ) : Nat → Host σ → List (Taking σ) → Except Error Unit →
    Host σ → Prop where
  | enough (h : Host σ) : Settled d 0 h [] (.ok ()) h
  | taken {n : Nat} {h h' : Host σ} {f : Detection} {s : σ} {ts : List (Taking σ)}
      {r : Except Error Unit} (polled : d.poll h.world = (.ok (.found f), s))
      (later : Settled d n (react d f ⟨h.engine, s⟩) ts r h') :
      Settled d (n + 1) h (⟨⟨h.engine, s⟩, f⟩ :: ts) r h'
  | done {n : Nat} {h : Host σ} {s : σ} (polled : d.poll h.world = (.ok .done, s)) :
      Settled d (n + 1) h [] (.ok ()) ⟨h.engine, s⟩
  | stopped {n : Nat} {h : Host σ} {s : σ} (polled : d.poll h.world = (.ok .stopped, s)) :
      Settled d (n + 1) h [] (.ok ()) (rest .wentIdle ⟨h.engine, s⟩)
  | failed {n : Nat} {h : Host σ} {fault : DetectorFault} {s : σ}
      (polled : d.poll h.world = (.error fault, s)) :
      Settled d (n + 1) h [] (.error (.ofDetector fault)) ⟨h.engine, s⟩

theorem settle_of_stopped {n : Nat} {s : σ} (polled : d.poll h.world = (.ok .stopped, s)) :
    settle d (n + 1) h = (.ok (), rest .wentIdle ⟨h.engine, s⟩) := by
  simp only [settle, polled, rest]
  split <;> rfl

theorem settled (d : Detector σ) (findings : Nat) (h : Host σ) :
    Settled d findings h (takingsOf d findings h) (settle d findings h).1
      (settle d findings h).2 := by
  induction findings generalizing h with
  | zero => exact .enough h
  | succ n ih =>
    rcases polled : d.poll h.world with ⟨fault | ⟨f | _ | _⟩, s⟩
    · simp only [takingsOf, settle, polled]
      exact .failed polled
    · simp only [takingsOf, settle, polled]
      exact .taken polled (ih _)
    · simp only [takingsOf, settle, polled]
      exact .done polled
    · rw [settle_of_stopped polled]
      simp only [takingsOf, polled]
      exact .stopped polled

/-- The findings of a detector can be taken in one way only. -/
theorem Settled.eq {n : Nat} {h' : Host σ} {ts : List (Taking σ)} {r : Except Error Unit}
    (settled : Settled d n h ts r h') : takingsOf d n h = ts ∧ settle d n h = (r, h') := by
  induction settled with
  | enough => exact ⟨rfl, rfl⟩
  | taken polled _ ih =>
    simp only [takingsOf, settle, polled]
    exact ⟨congrArg _ ih.1, ih.2⟩
  | done polled => exact ⟨by simp only [takingsOf, polled], by simp only [settle, polled]⟩
  | stopped polled => exact ⟨by simp only [takingsOf, polled], settle_of_stopped polled⟩
  | failed polled => exact ⟨by simp only [takingsOf, polled], by simp only [settle, polled]⟩

/-- The ways in which a dispatch can go. -/
inductive Dispatched (d : Detector σ) (h : Host σ) : List (Taking σ) → Except Error Unit →
    Host σ → Prop where
  | failed {fault : DetectorFault} {s : σ} (attended : d.dispatch h.world = (.error fault, s)) :
      Dispatched d h [] (.error (.ofDetector fault)) ⟨h.engine, Journal.note (.dispatchFailed fault) s⟩
  | settled {s : σ} {ts : List (Taking σ)} {r : Except Error Unit} {h' : Host σ}
      (attended : d.dispatch h.world = (.ok (), s))
      (settled : Settled d (d.backlog s + 1) ⟨h.engine, s⟩ ts r h') : Dispatched d h ts r h'

theorem dispatched (d : Detector σ) (h : Host σ) :
    Dispatched d h (dispatchTakings d h) (h.dispatch d).1 (h.dispatch d).2 := by
  rcases attended : d.dispatch h.world with ⟨fault | ⟨⟩, s⟩
  · simp only [dispatch, dispatchTakings, attended]
    exact .failed attended
  · simp only [dispatch, dispatchTakings, attended]
    exact .settled attended (settled d _ _)

/-- A dispatch can go in one way only. -/
theorem Dispatched.eq {h' : Host σ} {ts : List (Taking σ)} {r : Except Error Unit}
    (dispatched : Dispatched d h ts r h') : dispatchTakings d h = ts ∧ h.dispatch d = (r, h') := by
  cases dispatched with
  | failed attended =>
    exact ⟨by simp only [dispatchTakings, attended], by simp only [dispatch, attended]; rfl⟩
  | settled attended settled =>
    simp only [dispatch, dispatchTakings, attended]
    exact settled.eq

theorem announce_engine (d : Detector σ) (h : Host σ) : (h.announce d).2.engine = h.engine := by
  rw [announce]
  split
  · rfl
  · split
    · rfl
    · dsimp only
      split <;> rfl

/-! ## Orders to start -/

/-- Whether an order is one to start that passes all checks, so that the detector is asked. -/
def Order.Asks (e : Engine) : Order → Prop
  | .start config => e.state = .idle ∧ e.pending.toList = [] ∧ config.validate = .ok ()
  | _ => False

instance Order.Asks.decide (e : Engine) : (order : Order) → Decidable (order.Asks e)
  | .start _ => inferInstanceAs (Decidable (_ ∧ _ ∧ _))
  | .stop | .dispatch | .announce | .pop | .watch | .look => .isFalse id

/-- An order that does not pass all checks changes nothing. -/
theorem start_of_not_asks {config : Config} (unasked : ¬ (Order.start config).Asks h.engine) :
    (h.start d config).2 = h := by
  have started := started d config h
  generalize h.start d config = result at started ⊢
  obtain ⟨r, h'⟩ := result
  cases started with
  | refused => rfl
  | failed idle taken valid _ => exact absurd ⟨idle, taken, valid⟩ unasked
  | begun idle taken valid _ => exact absurd ⟨idle, taken, valid⟩ unasked

/-! ## Orders in a row -/

/-- What an owner is answered to an order. -/
inductive Answer where
  | nothing
  | request (r : Except Error Unit)
  | popped (r : Popped)
  | looked (r : Look)

/-- The event that an answer hands out, if there is one. -/
def Answer.handed : Answer → List Event
  | .popped r => r.handed
  | .looked r => r.handed
  | _ => []

/-- The answer to an order. -/
def Order.answer (d : Detector σ) (h : Host σ) : Order → Answer
  | .start config => .request (h.start d config).1
  | .stop | .watch => .nothing
  | .dispatch => .request (h.dispatch d).1
  | .announce => .request (h.announce d).1
  | .pop => .popped h.pop.1
  | .look => .looked (h.look d).1

/-- A host after orders in a row. -/
def after (d : Detector σ) (orders : List Order) (h : Host σ) : Host σ :=
  orders.foldl (Order.perform d) h

/-- The answers to orders in a row. -/
def answers (d : Detector σ) : List Order → Host σ → List Answer
  | [], _ => []
  | order :: orders, h => order.answer d h :: answers d orders (order.perform d h)

/-- The takings when orders are given in a row. -/
def takings (d : Detector σ) : List Order → Host σ → List (Taking σ)
  | [], _ => []
  | order :: orders, h => order.takings d h ++ takings d orders (order.perform d h)

/-- The events that are handed out to the owner when orders are given in a row. -/
def handedOut (d : Detector σ) (orders : List Order) (h : Host σ) : List Event :=
  (answers d orders h).flatMap Answer.handed

/-- Nothing is handed out that was not waiting. -/
theorem mem_pending_of_handed {order : Order} {event : Event}
    (handed : event ∈ (order.answer d h).handed) : event ∈ h.engine.pending.toList := by
  have popped (member : event ∈ h.pop.1.handed) : event ∈ h.engine.pending.toList :=
    pop_handed h ▸ List.mem_append_left _ member
  cases order with
  | pop => exact popped handed
  | look =>
    simp only [Order.answer, Answer.handed, look_eq] at handed
    split at handed
    · rw [handed_ofDispatch] at handed
      cases handed
    · rw [handed_ofPopped] at handed
      exact popped handed
  | _ => cases handed

end LinkLocal.Host
