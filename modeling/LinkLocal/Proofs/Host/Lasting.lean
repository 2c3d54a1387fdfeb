import LinkLocal.Proofs.Host.Takings

/-! What lasts from order to order. Between two orders to start, a host changes in few ways: its
world changes by calls that begin no probe, its engine goes idle, leaves an event or hands some out,
or it picks another candidate. What is kept by each of these is kept by every order. -/
namespace LinkLocal

variable {σ : Type} [Journal σ] {d : Detector σ}

/-- What can become of the world of a detector without a probe. -/
inductive Detector.Turns (d : Detector σ) (s : σ) : σ → Prop where
  | note (x : Notice) : d.Turns s (Journal.note x s)
  | stop : d.Turns s (d.stop s)
  | dispatch : d.Turns s (d.dispatch s).2
  | poll : d.Turns s (d.poll s).2
  | announce : d.Turns s (d.announce .once s).2
  | tell : d.Turns s (d.tell s)
  | renew : d.Turns s (d.renew s)

namespace Host

/-- What lasts when a host does anything but begin a run. An event of a good end is about the
present candidate, and events are handed out from the front. A host without a candidate picks one in
vain. -/
structure Lasting (d : Detector σ) (g : Host σ → Prop) : Prop where
  world : ∀ {e s s'}, d.Turns s s' → g ⟨e, s⟩ → g ⟨e, s'⟩
  idle : ∀ {e s}, g ⟨e, s⟩ → g ⟨{ e with state := .idle }, s⟩
  push : ∀ {e s event}, (∀ a, event = .ready a → e.address = some a) → g ⟨e, s⟩ → g ⟨e.push event, s⟩
  pop : ∀ {e s pending}, pending.toList <:+ e.pending.toList → g ⟨e, s⟩ → g ⟨{ e with pending }, s⟩
  pass : ∀ {e s c answer s'}, e.probe = some c →
    d.start { c with address := e.selector.next.1 } s = (answer, s') → g ⟨e, s⟩ →
    g ⟨passing c e, s'⟩
  skip : ∀ {e s}, e.probe = none → g ⟨e, s⟩ → g ⟨{ e with selector := e.selector.next.2 }, s⟩

variable {g : Host σ → Prop} {h : Host σ}

namespace Lasting

theorem note (lasting : Lasting d g) (x : Notice) (holds : g h) : g (h.note x) :=
  lasting.world (.note x) holds

theorem leave (lasting : Lasting d g) {event : Event} (x : Notice)
    (fits : ∀ a, event = .ready a → h.engine.address = some a) (holds : g h) :
    g (h.leave event x) :=
  lasting.push fits (lasting.note x holds)

theorem rest (lasting : Lasting d g) (x : Notice) (holds : g h) : g (h.rest x) := by
  rw [Host.rest]
  split
  · exact lasting.idle (lasting.note x holds)
  · exact lasting.idle holds

theorem goDown (lasting : Lasting d g) (holds : g h) : g h.goDown :=
  lasting.note .wentDown (lasting.idle (lasting.push nofun holds))

theorem stop (lasting : Lasting d g) (holds : g h) : g (h.stop d) := by
  rw [stop_eq]
  exact lasting.rest .stopped (lasting.world .stop holds)

theorem reselect (lasting : Lasting d g) (holds : g h) : g (h.reselect d) := by
  have reselected := reselected d h
  generalize h.reselect d = h' at reselected ⊢
  cases reselected with
  | begun probe begun => exact lasting.note _ (lasting.pass probe begun holds)
  | failed probe tried => exact lasting.goDown (lasting.note _ (lasting.pass probe tried holds))
  | unconfigured none => exact lasting.goDown (lasting.note _ (lasting.skip none holds))

theorem react (lasting : Lasting d g) (f : Detection) (holds : g h) : g (react d f h) := by
  have reacted := reacted d f h
  generalize Host.react d f h = h' at reacted ⊢
  cases reacted with
  | ready candidate => exact lasting.leave _ (fun _ same => by cases same; exact candidate) holds
  | unconfigured none => exact lasting.goDown (lasting.note _ holds)
  | defended claim => exact lasting.leave _ nofun holds
  | lost claim policy => exact lasting.reselect (lasting.leave _ nofun holds)
  | yielded claim policy => exact lasting.stop (lasting.leave _ nofun holds)
  | used claim => exact lasting.reselect (lasting.note _ holds)
  | down => exact lasting.goDown holds

theorem settled (lasting : Lasting d g) {n : Nat} {h h' : Host σ} {ts : List (Taking σ)}
    {r : Except Error Unit} (settled : Settled d n h ts r h') (holds : g h) : g h' := by
  have polled' {h : Host σ} {answered : Except DetectorFault Poll × σ}
      (polled : d.poll h.world = answered) (holds : g h) : g ⟨h.engine, answered.2⟩ :=
    polled ▸ lasting.world .poll holds
  induction settled with
  | enough => exact holds
  | taken polled _ ih => exact ih (lasting.react _ (polled' polled holds))
  | done polled => exact polled' polled holds
  | stopped polled => exact lasting.rest _ (polled' polled holds)
  | failed polled => exact polled' polled holds

theorem dispatch (lasting : Lasting d g) (holds : g h) : g (h.dispatch d).2 := by
  have attended' {answered : Except DetectorFault Unit × σ}
      (attended : d.dispatch h.world = answered) : g ⟨h.engine, answered.2⟩ :=
    attended ▸ lasting.world .dispatch holds
  have dispatched := dispatched d h
  generalize h.dispatch d = result, dispatchTakings d h = ts at dispatched ⊢
  obtain ⟨r, h'⟩ := result
  cases dispatched with
  | failed attended => exact lasting.note _ (attended' attended)
  | settled attended settled => exact lasting.settled settled (attended' attended)

theorem announce (lasting : Lasting d g) (holds : g h) : g (h.announce d).2 := by
  have tried : g ⟨h.engine, (d.announce .once h.world).2⟩ := lasting.world .announce holds
  rcases eq : d.announce .once h.world with ⟨r, s⟩
  have announced : g ⟨h.engine, s⟩ := by rwa [eq] at tried
  cases r with
  | error fault =>
    simp only [Host.announce, eq]
    split
    · exact holds
    · exact announced
  | ok =>
    simp only [Host.announce, eq]
    split
    · exact holds
    · split
      · exact lasting.note _ announced
      · exact announced

theorem popped (lasting : Lasting d g) (holds : g h) : g h.pop.2 := by
  have popped := lasting.pop ⟨_, pop_handed h⟩ holds
  rw [← pop_engine] at popped
  exact popped

/-- What lasts is kept by every order but one to start. -/
theorem perform (lasting : Lasting d g) {order : Order} (holds : g h)
    (started : ∀ config, order = .start config → g (h.start d config).2) :
    g (order.perform d h) := by
  cases order with
  | start config => exact started config rfl
  | stop => exact lasting.stop holds
  | dispatch => exact lasting.dispatch holds
  | announce => exact lasting.announce holds
  | pop => exact lasting.popped holds
  | watch => exact lasting.world .renew holds
  | look =>
    simp only [Order.perform, look_eq]
    split
    · next h' attending =>
      obtain ⟨rfl, _⟩ := attending_look attending
      exact lasting.dispatch (lasting.world .tell holds)
    · exact lasting.popped holds

/-- What lasts, and is kept by every order to start, is kept by orders in a row. -/
theorem after (lasting : Lasting d g) (started : ∀ {h} config, g h → g (h.start d config).2)
    (orders : List Order) (holds : g h) : g (after d orders h) := by
  induction orders generalizing h with
  | nil => exact holds
  | cons order orders ih => exact ih (lasting.perform holds fun config _ => started config holds)

end Lasting
end Host
end LinkLocal
