import LinkLocal.Proofs.Host.Telling
import LinkLocal.Proofs.Segment

/-! A story goes on from order to order. Whatever its owner orders, a host that has told a
story goes on with it, as long as no new run begins; an order that turns the host idle is a
stop, or it has just told how the run ends. -/
namespace LinkLocal

/-- The event that an answer hands out, if there is one. -/
def Popped.handed : Popped → List Event
  | .event e => [e]
  | _ => []

namespace Host

variable {σ : Type} [Journal σ] {d : Detector σ} {h : Host σ}

/-- The event that a look hands out, if there is one. -/
def Look.handed : Look → List Event
  | .event e => [e]
  | _ => []

/-- The events that an order hands out to the owner. -/
def Order.handed (d : Detector σ) (h : Host σ) : Order → List Event
  | .pop => h.pop.1.handed
  | .look => (h.look d).1.handed
  | _ => []

/-- Whether an order begins a new run. -/
def Order.Begins (d : Detector σ) (h : Host σ) : Order → Prop
  | .start config => (h.start d config).1 = .ok ()
  | _ => False

/-- The host that attends to its detector when it gets an order, if it does so. -/
def Order.attending (d : Detector σ) (h : Host σ) : Order → Option (Host σ)
  | .dispatch => some h
  | .look =>
    if h.pop.1 = .done ∧ d.hasNews h.world = true then some ⟨h.engine, d.tell h.world⟩ else none
  | _ => none

/-! ## Taking events -/

omit [Journal σ] in
/-- What is handed out was waiting in front. -/
theorem pop_handed (h : Host σ) :
    h.pop.1.handed ++ h.pop.2.engine.pending.toList = h.engine.pending.toList := by
  rcases eq : h.engine.pop with ⟨r, e⟩
  simp only [pop, eq]
  cases r with
  | event event => exact (Simulation.pop_event eq).1.symm
  | done => rw [Simulation.pop_nothing eq (by simp)]; rfl
  | stopped => rw [Simulation.pop_nothing eq (by simp)]; rfl

omit [Journal σ] in
/-- Nothing changes but the events that wait. -/
theorem pop_engine (h : Host σ) :
    h.pop.2.engine = { h.engine with pending := h.pop.2.engine.pending } := by
  rcases eq : h.engine.pop with ⟨r, e⟩
  simp only [pop, eq]
  cases r with
  | event event => exact (Simulation.pop_event eq).2
  | done => rw [Simulation.pop_nothing eq (by simp)]
  | stopped => rw [Simulation.pop_nothing eq (by simp)]

omit [Journal σ] in
theorem pop_done (done : h.pop.1 = .done) : h.engine.state = .running := by
  simp only [pop, Engine.pop] at done
  split at done
  · cases done
  · assumption
  · cases done

/-! ## Looks -/

/-- The answer of a look to an owner who asks for an event, if nothing has to be attended to. -/
def Look.ofPopped : Popped → Look
  | .event e => .event e
  | .done => .pending
  | .stopped => .ended

/-- The answer of a look that has attended to the detector. -/
def Look.ofDispatch : Except Error Unit → Look
  | .ok _ => .again
  | .error e => .failed e

/-- A look is like asking for an event, or it is a dispatch. -/
theorem look_eq (d : Detector σ) (h : Host σ) :
    h.look d = match Order.look.attending d h with
      | some h' => (.ofDispatch (h'.dispatch d).1, (h'.dispatch d).2)
      | none => (.ofPopped h.pop.1, h.pop.2) := by
  rcases popped : h.engine.pop with ⟨r, e⟩
  have pop : h.pop = (r, ⟨e, h.world⟩) := by rw [Host.pop, popped]
  cases r with
  | event event => simp only [look, Order.attending, pop, reduceCtorEq, false_and, if_false]; rfl
  | stopped => simp only [look, Order.attending, pop, reduceCtorEq, false_and, if_false]; rfl
  | done =>
    obtain rfl := Simulation.pop_nothing popped (by simp)
    simp only [look, Order.attending, pop, true_and]
    split
    · rcases dispatched : dispatch d ⟨h.engine, d.tell h.world⟩ with ⟨fault | ⟨⟩, h'⟩ <;>
        simp only [dispatched] <;> rfl
    · rfl

@[simp]
theorem handed_ofPopped (r : Popped) : (Look.ofPopped r).handed = r.handed := by
  cases r <;> rfl

@[simp]
theorem handed_ofDispatch (r : Except Error Unit) : (Look.ofDispatch r).handed = [] := by
  cases r <;> rfl

omit [Journal σ] in
/-- A host attends to its detector at a look only while it runs. -/
theorem attending_look {h' : Host σ} (attending : Order.look.attending d h = some h') :
    h' = ⟨h.engine, d.tell h.world⟩ ∧ h.engine.state = .running := by
  rw [Order.attending] at attending
  split at attending
  · next news => exact ⟨(Option.some.inj attending).symm, pop_done news.1⟩
  · cases attending

end Host

namespace Simulation

open Network

variable {p : Nat} {policy : ConflictPolicy} {story ms : List Mark} {h h' : Host Network}

/-- A host that has told a story, at work or at rest. -/
def HasTold (p : Nat) (policy : ConflictPolicy) (story : List Mark) (h : Host Network) : Prop :=
  AtWork p policy story h ∨ AtRest p policy story h

/-- From one state of a host to another these marks were told, and what was handed out of the
events that waited was handed out from the front. -/
structure Passing (handed : List Event) (ms : List Mark) (h h' : Host Network) : Prop where
  told : Tells ms h.world h'.world
  queued : handed ++ h'.engine.pending.toList = h.engine.pending.toList ++ events ms

theorem Telling.passing (telling : Telling ms h h') : Passing [] ms h h' :=
  ⟨telling.told, telling.queued⟩

theorem Passing.nothing (h : Host Network) : Passing [] [] h h :=
  Telling.passing (.nothing (.refl _) rfl)

/-- Nothing but the events that wait has changed. -/
theorem AtWork.same (work : AtWork p policy story h) (attached : p ∈ h'.world.probers.keys)
    (prober : h'.world.prober p = h.world.prober p)
    (engine : h'.engine = { h.engine with pending := h'.engine.pending }) :
    AtWork p policy story h' := by
  obtain ⟨⟨_, running, acting, chapters, undisputed⟩, taken⟩ := work
  refine ⟨⟨attached, ?_, ?_, ?_, undisputed⟩, prober ▸ taken⟩
  · rw [engine]; exact running
  · rw [engine]; exact acting
  · rw [engine, prober]; exact chapters

theorem AtRest.same (ended : AtRest p policy story h) (attached : p ∈ h'.world.probers.keys)
    (prober : h'.world.prober p = h.world.prober p) (idle : h'.engine.state = .idle) :
    AtRest p policy story h' :=
  ⟨attached, idle, prober ▸ ended.resting, prober ▸ ended.taken, ended.whole, ended.conflictLast⟩

theorem AtWork.goesOn (work : AtWork p policy story h) : GoesOn p policy story [] h :=
  .inl ((List.append_nil story).symm ▸ work)

/-! ## Taking events -/

theorem pop_passing (h : Host Network) : Passing h.pop.1.handed [] h h.pop.2 ∧
    h.pop.2.engine = { h.engine with pending := h.pop.2.engine.pending } :=
  ⟨⟨.refl _, (Host.pop_handed h).trans (List.append_nil _).symm⟩, Host.pop_engine h⟩

/-- A look is like asking for an event, or it is a dispatch of a host at work. -/
theorem look_cases (d : Detector Network) (h : Host Network) :
    ((h.look d).1.handed = h.pop.1.handed ∧ (h.look d).2 = h.pop.2) ∨
      h.engine.state = .running ∧ (h.look d).1.handed = [] ∧
        (h.look d).2 = (Host.dispatch d { h with world := d.tell h.world }).2 := by
  rw [Host.look_eq]
  cases attending : Host.Order.look.attending d h with
  | none => exact .inl ⟨Host.handed_ofPopped _, rfl⟩
  | some h' =>
    obtain ⟨rfl, running⟩ := Host.attending_look attending
    exact .inr ⟨running, Host.handed_ofDispatch _, rfl⟩

/-! ## Orders -/

/-- An announcement that succeeds is told of, and any other one changes nothing. -/
theorem announce_goesOn (work : AtWork p policy story h) :
    ∃ ms, Telling ms h (h.announce (detector p)).2 ∧
      GoesOn p policy story ms (h.announce (detector p)).2 := by
  rcases announce_own (n := h.world) (p := p) .once with
    ⟨fault, refused⟩ | ⟨_, n, announced, ready, _, own⟩
  · refine ⟨[], ?_⟩
    simp only [Host.announce, work.running, detector, refused, reduceCtorEq, if_false]
    exact ⟨.nothing (.refl _) rfl, work.goesOn⟩
  have told : Tells [.announced] h.world (h.world.announce p .once).2 :=
    tells_announce (by rw [announced])
  rw [announced] at told
  obtain ⟨⟨_, running, acting, ⟨c, whole, told', probe, probe', before, ahead, rfl⟩, undisputed⟩,
    taken⟩ := work
  obtain ⟨current⟩ := ahead
  rw [ready] at current
  cases current
  have phase : (n.prober p).phase = .announced .once none := by rw [own]
  have there : p ∈ n.probers.keys := attached_of_working (by simp [phase])
  have address : h.engine.address = some c.address := by rw [Engine.address, probe]; rfl
  simp only [Host.announce, running, detector, announced, address, reduceCtorEq, if_false]
  have spoken : Telling [.announced] h ⟨h.engine, n⟩ := ⟨told, (List.append_nil _).symm⟩
  refine ⟨_, spoken.note rfl, .inl ⟨⟨there, running, acting, ?_, fun stops => ?_⟩,
    (congrArg (fun s => (Prober.found s).toList) own).trans taken⟩⟩
  · refine ⟨c, whole, defending c.address [], probe, (congrArg Prober.probe own).trans probe',
      before, ?_, List.append_assoc ..⟩
    exact phase.symm ▸ .none (.announced [] (by simp))
  · exact (undisputed stops).append (by simp [Undisputed])

/-- At work, a host goes on with its story at any order but a stop. -/
theorem AtWork.order (work : AtWork p policy story h) {order : Host.Order}
    (goes : order ≠ .stop) : ∃ ms, Passing (order.handed (detector p) h) ms h
      (order.perform (detector p) h) ∧
        GoesOn p policy story ms (order.perform (detector p) h) := by
  obtain ⟨popping, rest⟩ := pop_passing h
  have work' : AtWork p policy story h.pop.2 := work.same work.attached rfl rest
  have popped : GoesOn p policy story [] h.pop.2 := work'.goesOn
  cases order with
  | start config =>
    have refused : h.start (detector p) config = (.error (.busy .running), h) := by
      rw [Host.start, if_pos work.running]
    simp only [Host.Order.perform, refused]
    exact ⟨[], .nothing h, work.goesOn⟩
  | stop => exact absurd rfl goes
  | dispatch =>
    obtain ⟨ms, telling, goes⟩ := dispatch_goesOn work
    exact ⟨ms, telling.passing, goes⟩
  | announce =>
    obtain ⟨ms, telling, goes⟩ := announce_goesOn work
    exact ⟨ms, telling.passing, goes⟩
  | pop => exact ⟨[], popping, popped⟩
  | watch =>
    have quiet := quiet_renew p h.world
    have renewed : Telling [] h ⟨h.engine, h.world.renew p⟩ := .nothing (.of_same rfl) rfl
    have work' : AtWork p policy story ⟨h.engine, h.world.renew p⟩ :=
      work.same (quiet.probers.symm ▸ work.attached) (quiet.prober p) rfl
    exact ⟨[], renewed.passing, work'.goesOn⟩
  | look =>
    simp only [Host.Order.handed, Host.Order.perform]
    rcases look_cases (detector p) h with ⟨same, taken⟩ | ⟨_, none, attends⟩
    · rw [same, taken]
      exact ⟨[], popping, popped⟩
    · have quiet := quiet_tell p h.world
      have told : Telling [] h ⟨h.engine, h.world.tell p⟩ :=
        .nothing (strokes_tell p h.world).tells rfl
      have work' : AtWork p policy story ⟨h.engine, h.world.tell p⟩ :=
        work.same (quiet.probers.symm ▸ work.attached) (quiet.prober p) rfl
      obtain ⟨ms, telling, goes⟩ := dispatch_goesOn work'
      rw [none, attends]
      exact ⟨ms, (told.trans telling).passing, goes⟩

/-- A dispatch of a host at rest tells nothing. -/
theorem AtRest.dispatch (ended : AtRest p policy story h) :
    Telling [] h (h.dispatch (detector p)).2 ∧
      AtRest p policy story (h.dispatch (detector p)).2 := by
  have same := dispatch_resting ended.resting
  have there := (moves_dispatch p h.world).apart.attached ▸ ended.attached
  have silent := (strokes_dispatch p h.world).tells
  rcases eq : h.world.dispatch p with ⟨r, n⟩
  rw [eq] at same there silent
  have attended : Telling [] h ⟨h.engine, n⟩ := .nothing silent rfl
  have ended' : AtRest p policy story ⟨h.engine, n⟩ := ended.same there same ended.idle
  cases r with
  | error fault =>
    simp only [Host.dispatch, detector, eq]
    exact ⟨attended.note rfl, ended'.same there rfl ended.idle⟩
  | ok u =>
    simp only [Host.dispatch, detector, eq]
    have settled := ended'.settle ((detector p).backlog n + 1)
    rw [detector] at settled
    rw [settled]
    exact ⟨attended, ended'⟩

/-- At rest, nothing is told. -/
theorem AtRest.order (ended : AtRest p policy story h) {order : Host.Order}
    (same : ¬ order.Begins (detector p) h) :
    Passing (order.handed (detector p) h) [] h (order.perform (detector p) h) ∧
      AtRest p policy story (order.perform (detector p) h) := by
  obtain ⟨popping, rest⟩ := pop_passing h
  have popped : AtRest p policy story h.pop.2 :=
    ended.same ended.attached rfl ((congrArg Engine.state rest).trans ended.idle)
  cases order with
  | start config =>
    have started := Host.started (detector p) config h
    simp only [Host.Order.perform]
    generalize eq : h.start (detector p) config = result at started ⊢
    obtain ⟨r, h'⟩ := result
    cases started with
    | refused => exact ⟨.nothing _, ended⟩
    | @failed fault n idle _ _ tried =>
      obtain ⟨there, same, told⟩ := tells_of_refused ended.attached tried
      have silent : Telling [] h
          ⟨{ h.engine with selector := (Host.firstCandidate config).2 }, n⟩ := .nothing told rfl
      exact ⟨silent.passing, ended.same there same idle⟩
    | begun => exact absurd (congrArg Prod.fst eq) same
  | stop =>
    obtain ⟨silent, ended⟩ := stop_atRest ended.attached ended.whole ended.conflictLast
    exact ⟨silent.passing, ended⟩
  | dispatch =>
    obtain ⟨silent, ended⟩ := ended.dispatch
    exact ⟨silent.passing, ended⟩
  | announce =>
    have refused : h.announce (detector p) = (.error (.busy .notRunning), h) := by
      rw [Host.announce, if_pos ended.idle]
    simp only [Host.Order.perform, refused]
    exact ⟨.nothing h, ended⟩
  | pop => exact ⟨popping, popped⟩
  | watch =>
    have quiet := quiet_renew p h.world
    have renewed : Telling [] h ⟨h.engine, h.world.renew p⟩ := .nothing (.of_same rfl) rfl
    exact ⟨renewed.passing,
      ended.same (quiet.probers.symm ▸ ended.attached) (quiet.prober p) ended.idle⟩
  | look =>
    simp only [Host.Order.handed, Host.Order.perform]
    rcases look_cases (detector p) h with ⟨same, taken⟩ | ⟨running, _⟩
    · rw [same, taken]
      exact ⟨popping, popped⟩
    · cases ended.idle.symm.trans running

theorem HasTold.order (told : HasTold p policy story h) {order : Host.Order}
    (same : ¬ order.Begins (detector p) h) : ∃ ms,
    Passing (order.handed (detector p) h) ms h (order.perform (detector p) h) ∧
      HasTold p policy (story ++ ms) (order.perform (detector p) h) := by
  rcases told with work | ended
  · by_cases stops : order = .stop
    · subst stops
      obtain ⟨silent, ended⟩ := stop_atRest work.attached work.isStory
        fun stops => (work.undisputed stops).conflictLast
      exact ⟨[], silent.passing, .inr ((List.append_nil story).symm ▸ ended)⟩
    · obtain ⟨ms, passing, goes⟩ := work.order stops
      exact ⟨ms, passing, goes.imp_right And.left⟩
  · obtain ⟨passing, ended'⟩ := ended.order same
    exact ⟨[], passing, .inr ((List.append_nil story).symm ▸ ended')⟩

/-- An order that is no stop turns a host idle exactly if it tells how the run ends. -/
theorem AtWork.idle_iff (work : AtWork p policy story h) {order : Host.Order}
    (goes : order ≠ .stop) : (order.perform (detector p) h).engine.state = .idle ↔
      EndsRun policy (marks h.world (order.perform (detector p) h).world) := by
  obtain ⟨ms, passing, work' | ⟨ended, ends⟩⟩ := work.order goes
  · rw [passing.told.marks_eq, work'.running]
    exact iff_of_false (by simp) work'.not_endsRun
  · rw [passing.told.marks_eq]
    exact iff_of_true ended.idle ends

/-- A run begins with the probe of the first candidate. -/
theorem start_atWork {config : Config} (attached : p ∈ h.world.probers.keys)
    (begins : (h.start (detector p) config).1 = .ok ()) :
    Telling [.probed (Host.firstCandidate config).1] h (h.start (detector p) config).2 ∧
      h.engine.pending.toList = [] ∧
      AtWork p config.conflictPolicy [.probed (Host.firstCandidate config).1]
        (h.start (detector p) config).2 := by
  have started := Host.started (detector p) config h
  generalize h.start (detector p) config = result at begins started ⊢
  obtain ⟨r, h'⟩ := result
  cases started with
  | refused => cases begins
  | failed => cases begins
  | @begun n idle none valid begun =>
    obtain ⟨there, ⟨t, probing⟩, told⟩ := tells_of_begun attached begun
    have first : Telling [.probed (Host.firstCandidate config).1] h
        ⟨Host.beginning config h.engine, n⟩ := ⟨told, (List.append_nil _).symm⟩
    have undisputed : config.conflictPolicy = .stop → Undisputed [] :=
      fun _ => by simp [Undisputed]
    refine ⟨first.note rfl, none, ?_⟩
    rw [← List.nil_append [Mark.probed _]]
    exact atWork_probed (c := Host.firstProbe config) there rfl rfl rfl probing .none undisputed

end Simulation
end LinkLocal
