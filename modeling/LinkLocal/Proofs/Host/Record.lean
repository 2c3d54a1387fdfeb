import LinkLocal.Proofs.Host.Takings
import LinkLocal.Scripted

/-! The record of a detector. Whatever a host asks of its detector can be written down, with the
answer that it got. The host does not notice: it answers its owner as it would without the record,
and is the same afterwards. So what is true of the record is true of all that passes between a host
and any detector. -/
namespace LinkLocal

variable {σ τ : Type}

/-- What a host asks of its detector, and the answer. -/
inductive Exchange where
  | start (c : Probe) (answer : Except DetectorFault Unit)
  | stop
  | dispatch (answer : Except DetectorFault Unit)
  | poll (answer : Except DetectorFault Poll)
  | announce (policy : DefendPolicy) (answer : Except DetectorFault Unit)

/-- The probe that is asked for, if one is. -/
def Exchange.probe? : Exchange → Option Probe
  | .start c _ => some c
  | _ => none

/-- The finding that is answered, if one is. -/
def Exchange.finding? : Exchange → Option Detection
  | .poll (.ok (.found f)) => some f
  | _ => none

/-- A world with the record of a detector in it. -/
structure Recorded (σ : Type) where
  world : σ
  /-- What was asked of the detector, the oldest first. -/
  exchanges : List Exchange := []

/-- Writes an exchange into the record. -/
def Recorded.enter {α : Type} (exchange : α → Exchange) (r : Recorded σ) (answered : α × σ) :
    α × Recorded σ :=
  (answered.1, ⟨answered.2, r.exchanges ++ [exchange answered.1]⟩)

/-- A detector with a record. -/
def Detector.recorded (d : Detector σ) : Detector (Recorded σ) where
  start c r := r.enter (.start c) (d.start c r.world)
  stop r := ⟨d.stop r.world, r.exchanges ++ [.stop]⟩
  dispatch r := r.enter .dispatch (d.dispatch r.world)
  poll r := r.enter .poll (d.poll r.world)
  announce policy r := r.enter (.announce policy) (d.announce policy r.world)
  close r := { r with world := d.close r.world }
  readable r := d.readable r.world
  hasNews r := d.hasNews r.world
  tell r := { r with world := d.tell r.world }
  renew r := { r with world := d.renew r.world }
  backlog r := d.backlog r.world

theorem exchanges_of_start {d : Detector σ} {c : Probe} {r r' : Recorded σ}
    {answer : Except DetectorFault Unit} (tried : d.recorded.start c r = (answer, r')) :
    r'.exchanges = r.exchanges ++ [.start c answer] := by
  cases tried
  rfl

theorem exchanges_of_poll {d : Detector σ} {r r' : Recorded σ} {answer : Except DetectorFault Poll}
    (polled : d.recorded.poll r = (answer, r')) : r'.exchanges = r.exchanges ++ [.poll answer] := by
  cases polled
  rfl

theorem exchanges_of_dispatch {d : Detector σ} {r r' : Recorded σ}
    {answer : Except DetectorFault Unit} (attended : d.recorded.dispatch r = (answer, r')) :
    r'.exchanges = r.exchanges ++ [.dispatch answer] := by
  cases attended
  rfl

variable [Journal σ] [Journal τ]

instance : Journal (Recorded σ) where
  note x r := { r with world := Journal.note x r.world }

/-- A script alone keeps no notices. -/
instance : Journal Scripted where
  note _ s := s

/-- A detector that does what another one does, as far as a view of the world of the other one
shows. -/
structure Detector.Shows (d : Detector σ) (view : σ → τ) (d' : Detector τ) : Prop where
  note : ∀ x s, view (Journal.note x s) = Journal.note x (view s)
  start : ∀ c s, d'.start c (view s) = ((d.start c s).1, view (d.start c s).2)
  stop : ∀ s, d'.stop (view s) = view (d.stop s)
  dispatch : ∀ s, d'.dispatch (view s) = ((d.dispatch s).1, view (d.dispatch s).2)
  poll : ∀ s, d'.poll (view s) = ((d.poll s).1, view (d.poll s).2)
  announce : ∀ p s, d'.announce p (view s) = ((d.announce p s).1, view (d.announce p s).2)
  hasNews : ∀ s, d'.hasNews (view s) = d.hasNews s
  tell : ∀ s, d'.tell (view s) = view (d.tell s)
  renew : ∀ s, d'.renew (view s) = view (d.renew s)
  backlog : ∀ s, d'.backlog (view s) = d.backlog s

/-- The record does not change what a detector does. -/
theorem Detector.recorded_shows (d : Detector σ) : d.recorded.Shows Recorded.world d where
  note _ _ := rfl
  start _ _ := rfl
  stop _ := rfl
  dispatch _ := rfl
  poll _ := rfl
  announce _ _ := rfl
  hasNews _ := rfl
  tell _ := rfl
  renew _ := rfl
  backlog _ := rfl

/-- A record with other exchanges in front. -/
def Recorded.behind (past : List Exchange) (r : Recorded σ) : Recorded σ :=
  ⟨r.world, past ++ r.exchanges⟩

/-- What a detector does does not depend on its record. -/
theorem Detector.recorded_shows_behind (d : Detector σ) (past : List Exchange) :
    d.recorded.Shows (Recorded.behind past) d.recorded where
  note _ _ := rfl
  start _ _ := by simp only [recorded, Recorded.enter, Recorded.behind, List.append_assoc]
  stop _ := by simp only [recorded, Recorded.behind, List.append_assoc]
  dispatch _ := by simp only [recorded, Recorded.enter, Recorded.behind, List.append_assoc]
  poll _ := by simp only [recorded, Recorded.enter, Recorded.behind, List.append_assoc]
  announce _ _ := by simp only [recorded, Recorded.enter, Recorded.behind, List.append_assoc]
  hasNews _ := rfl
  tell _ := rfl
  renew _ := rfl
  backlog _ := rfl

namespace Host

/-- A host with an empty record of its detector. -/
def recording (h : Host σ) : Host (Recorded σ) := ⟨h.engine, ⟨h.world, []⟩⟩

/-- What is asked of the detector when orders are given in a row. -/
def exchanges (d : Detector σ) (orders : List Order) (h : Host σ) : List Exchange :=
  (after d.recorded orders h.recording).world.exchanges

/-- A host, with a view of its world in the place of the world. -/
def seen (view : σ → τ) (h : Host σ) : Host τ := ⟨h.engine, view h.world⟩

theorem exchanges_rest (x : Notice) (h : Host (Recorded σ)) :
    (h.rest x).world.exchanges = h.world.exchanges := by
  rw [rest]
  split <;> rfl

theorem exchanges_stop (d : Detector σ) (h : Host (Recorded σ)) :
    (h.stop d.recorded).world.exchanges = h.world.exchanges ++ [.stop] := by
  rw [stop_eq, exchanges_rest]
  rfl

/-! ## Views -/

section Views

variable {d : Detector σ} {d' : Detector τ} {view : σ → τ}

theorem seen_note (shows : d.Shows view d') (x : Notice) (h : Host σ) :
    (h.note x).seen view = (h.seen view).note x := by
  simp only [seen, note, shows.note]

theorem seen_leave (shows : d.Shows view d') (e : Event) (x : Notice) (h : Host σ) :
    (h.leave e x).seen view = (h.seen view).leave e x := by
  simp only [seen, leave, shows.note]

theorem seen_rest (shows : d.Shows view d') (x : Notice) (h : Host σ) :
    (h.rest x).seen view = (h.seen view).rest x := by
  by_cases running : h.engine.state = .running
  · simp only [seen, rest, running, if_true, shows.note]
  · simp only [seen, rest, running, if_false]

theorem seen_goDown (shows : d.Shows view d') (h : Host σ) :
    h.goDown.seen view = (h.seen view).goDown := seen_note shows .wentDown _

theorem seen_stop (shows : d.Shows view d') (h : Host σ) :
    (h.stop d).seen view = (h.seen view).stop d' := by
  rw [stop_eq, stop_eq, seen_rest shows, seen, seen, shows.stop]

theorem seen_reselect (shows : d.Shows view d') (h : Host σ) :
    (h.reselect d).seen view = (h.seen view).reselect d' := by
  rcases next : h.engine.selector.next with ⟨a, selector⟩
  cases probe : h.engine.probe with
  | none => simp only [reselect, seen, note, goDown, next, probe, shows.note]
  | some c =>
    rcases started : d.start { c with address := a } h.world with ⟨fault | _, s⟩ <;>
      simp only [reselect, seen, note, goDown, next, probe, shows.note, shows.start, started]

theorem Reacted.seen (shows : d.Shows view d') {f : Detection} {h h' : Host σ}
    (reacted : Reacted d h f h') : Reacted d' (h.seen view) f (h'.seen view) := by
  cases reacted with
  | ready candidate =>
    rw [seen_leave shows]
    exact .ready candidate
  | unconfigured none =>
    rw [seen_goDown shows, seen_note shows]
    exact .unconfigured none
  | defended claim =>
    rw [seen_leave shows]
    exact .defended claim
  | lost claim policy =>
    rw [seen_reselect shows, seen_leave shows]
    exact .lost claim policy
  | yielded claim policy =>
    rw [seen_stop shows, seen_leave shows]
    exact .yielded claim policy
  | used claim =>
    rw [seen_reselect shows, seen_note shows]
    exact .used claim
  | down =>
    rw [seen_goDown shows]
    exact .down

theorem seen_react (shows : d.Shows view d') (f : Detection) (h : Host σ) :
    react d' f (h.seen view) = (react d f h).seen view := ((reacted d f h).seen shows).eq

/-- A taking, with a view of the world of its host in the place of the world. -/
def Taking.seen (view : σ → τ) (t : Taking σ) : Taking τ := ⟨t.host.seen view, t.finding⟩

theorem Settled.seen (shows : d.Shows view d') {n : Nat} {h h' : Host σ} {ts : List (Taking σ)}
    {r : Except Error Unit} (settled : Settled d n h ts r h') :
    Settled d' n (h.seen view) (ts.map (Taking.seen view)) r (h'.seen view) := by
  have polled' {h : Host σ} {answered : Except DetectorFault Poll × σ}
      (polled : d.poll h.world = answered) :
      d'.poll (h.seen view).world = (answered.1, view answered.2) := polled ▸ shows.poll h.world
  induction settled with
  | enough h => exact .enough _
  | taken polled _ ih =>
    rw [← seen_react shows] at ih
    exact .taken (polled' polled) ih
  | done polled => exact .done (polled' polled)
  | stopped polled =>
    rw [seen_rest shows]
    exact .stopped (polled' polled)
  | failed polled => exact .failed (polled' polled)

theorem Dispatched.seen (shows : d.Shows view d') {h h' : Host σ} {ts : List (Taking σ)}
    {r : Except Error Unit} (dispatched : Dispatched d h ts r h') :
    Dispatched d' (h.seen view) (ts.map (Taking.seen view)) r (h'.seen view) := by
  have attended' : d'.dispatch (h.seen view).world = _ := shows.dispatch h.world
  cases dispatched with
  | failed attended =>
    rw [attended] at attended'
    simp only [Host.seen, shows.note]
    exact .failed attended'
  | settled attended settled =>
    rw [attended] at attended'
    exact .settled attended' (shows.backlog _ ▸ settled.seen shows)

theorem seen_dispatch (shows : d.Shows view d') (h : Host σ) :
    (h.seen view).dispatch d' = ((h.dispatch d).1, (h.dispatch d).2.seen view) ∧
      dispatchTakings d' (h.seen view) = (dispatchTakings d h).map (Taking.seen view) :=
  ((dispatched d h).seen shows).eq.symm

theorem seen_start (shows : d.Shows view d') (c : Config) (h : Host σ) :
    (h.seen view).start d' c = ((h.start d c).1, (h.start d c).2.seen view) := by
  have tried := shows.start (probeOf c (firstCandidate c).1) h.world
  rcases eq : d.start (probeOf c (firstCandidate c).1) h.world with ⟨fault | _, s⟩ <;>
    rw [eq] at tried
  all_goals
    simp only [start, seen, note, tried, eq]
    repeat' split
    all_goals simp only [shows.note]

theorem seen_announce (shows : d.Shows view d') (h : Host σ) :
    (h.seen view).announce d' = ((h.announce d).1, (h.announce d).2.seen view) := by
  have tried := shows.announce .once h.world
  rcases eq : d.announce .once h.world with ⟨fault | _, s⟩ <;> rw [eq] at tried
  all_goals
    simp only [announce, seen, note, tried, eq]
    repeat' split
    all_goals simp only [shows.note]

theorem seen_attending (shows : d.Shows view d') (h : Host σ) (order : Order) :
    order.attending d' (h.seen view) = (order.attending d h).map (seen view) := by
  cases order with
  | look =>
    simp only [Order.attending, apply_ite (Option.map (seen view))]
    simp only [seen, shows.hasNews, shows.tell, Option.map_some, Option.map_none]
    rfl
  | _ => rfl

theorem seen_look (shows : d.Shows view d') (h : Host σ) :
    (h.seen view).look d' = ((h.look d).1, (h.look d).2.seen view) := by
  simp only [look_eq, seen_attending shows]
  cases Order.look.attending d h with
  | none => rfl
  | some h' => simp only [Option.map_some, seen_dispatch shows]

theorem seen_takings (shows : d.Shows view d') (h : Host σ) (order : Order) :
    order.takings d' (h.seen view) = (order.takings d h).map (Taking.seen view) := by
  simp only [Order.takings, seen_attending shows]
  cases order.attending d h with
  | none => rfl
  | some h' => exact (seen_dispatch shows h').2

/-- An order has the same answer and the same effect, as far as a view shows. -/
theorem seen_order (shows : d.Shows view d') (h : Host σ) (order : Order) :
    order.answer d' (h.seen view) = order.answer d h ∧
      order.perform d' (h.seen view) = (order.perform d h).seen view := by
  cases order with
  | start config => simp only [Order.answer, Order.perform, seen_start shows, and_self]
  | stop => exact ⟨rfl, (seen_stop shows h).symm⟩
  | dispatch => simp only [Order.answer, Order.perform, seen_dispatch shows, and_self]
  | announce => simp only [Order.answer, Order.perform, seen_announce shows, and_self]
  | pop => exact ⟨rfl, rfl⟩
  | watch => exact ⟨rfl, by simp only [Order.perform, seen, shows.renew]⟩
  | look => simp only [Order.answer, Order.perform, seen_look shows, and_self]

/-- Orders in a row have the same answers, the same takings and the same effect, as far as a view
shows. -/
theorem seen_after (shows : d.Shows view d') (orders : List Order) (h : Host σ) :
    answers d' orders (h.seen view) = answers d orders h ∧
      takings d' orders (h.seen view) = (takings d orders h).map (Taking.seen view) ∧
      after d' orders (h.seen view) = (after d orders h).seen view := by
  induction orders generalizing h with
  | nil => exact ⟨rfl, rfl, rfl⟩
  | cons order orders ih =>
    obtain ⟨answer, perform⟩ := seen_order shows h order
    obtain ⟨answers, takings, after⟩ := ih (order.perform d h)
    rw [← perform] at answers takings after
    refine ⟨?_, ?_, after⟩
    · exact congrArg₂ List.cons answer answers
    · rw [Host.takings, Host.takings, List.map_append, ← seen_takings shows, ← takings]

end Views

/-- The record changes nothing: with it, a host answers its owner as without, takes the same
findings and ends up the same. -/
theorem recorded_after (d : Detector σ) (orders : List Order) (h : Host σ) :
    answers d.recorded orders h.recording = answers d orders h ∧
      (takings d.recorded orders h.recording).map (Taking.seen Recorded.world) =
        takings d orders h ∧
      (after d.recorded orders h.recording).seen Recorded.world = after d orders h := by
  obtain ⟨answers, takings, after⟩ := seen_after d.recorded_shows orders h.recording
  exact ⟨answers.symm, takings.symm, after.symm⟩

/-- A claim of a usable address by a host that has no part in anything else. -/
def foreign : Packet := ⟨Packet.request, (Simulation.Segment.probeBy 9).mac, .linkLocal 0xdee9⟩

end Host
end LinkLocal
