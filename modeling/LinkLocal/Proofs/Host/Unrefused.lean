import LinkLocal.Proofs.Host.Accounting
import LinkLocal.Proofs.Host.Agreement
import LinkLocal.Proofs.Host.Refusal
import LinkLocal.Proofs.Network.Sparing
import LinkLocal.Proofs.Network.Waiting

/-! A host and a detector that never refuses it. An engine checks a configuration before it hands a
probe to its detector, and asks for another probe only when the detector has stopped. So as long as
no call on a timer fails, and each probe would end within the range of the clock, the detector has
no reason to fail its engine: not when a run begins, not when another candidate is picked, and not
when it is attended to. -/
namespace LinkLocal

/-- A finding that meets an engine with a candidate, and goes through the policy without the detector
refusing anything. -/
structure Host.Taking.Unrefused (p : Nat) (t : Host.Taking Simulation.Network) : Prop where
  configured : t.host.engine.address ≠ none
  unstranded : Host.stranded t.host.engine (t.exchanges (Simulation.Network.detector p)) = false

/-- The error of an answer, if it is one. -/
def Host.Answer.error? : Answer → Option Error
  | .request (.error error) | .looked (.failed error) => some error
  | _ => none

theorem Host.Answer.mem_error?_request {r : Except Error Unit} {error : Error} :
    error ∈ (Answer.request r).error? ↔ r = .error error := by
  cases r <;> simp [error?]

theorem Host.Answer.error?_ofPopped (r : Popped) : (Answer.looked (.ofPopped r)).error? = none := by
  cases r <;> rfl

/-- Whether the probes that an order may begin end within the range of the clock. -/
def Host.Order.InTime (e : Engine) (now : Nat) : Order → Prop
  | .start config => (firstProbe config).InTime now
  | .dispatch | .look => ∀ c ∈ e.probe, c.InTime now
  | _ => True

instance (e : Engine) (now : Nat) : (order : Host.Order) → Decidable (order.InTime e now)
  | .start _ => inferInstanceAs (Decidable (Probe.InTime _ _))
  | .dispatch | .look => inferInstanceAs (Decidable (∀ _ ∈ _, _))
  | .stop | .announce | .pop | .watch => .isTrue trivial

namespace Simulation

open Network

variable {p : Nat} {n n' : Network} {h h' : Host Network} {error : Error}

/-! ## The probe of an engine -/

/-- An engine remembers a probe of this kind only, if any. -/
def Remembers (P : Nat → Probe → Prop) (h : Host Network) : Prop :=
  ∀ c ∈ h.engine.probe, P h.world.now c

/-- A detector works without time going by. -/
theorem now_turns (turns : (detector p).Turns n n') : n'.now = n.now := by
  cases turns with
  | note | tell | renew => rfl
  | stop => exact (moves_stop p n).apart.now
  | dispatch => exact (moves_dispatch p n).apart.now
  | poll => exact (moves_poll p n).apart.now
  | announce => exact now_announce p .once n

/-- Between two orders to start, an engine remembers a probe of one kind, if the address does not
matter. -/
theorem lasting_probe (p : Nat) {P : Nat → Probe → Prop}
    (anywhere : ∀ {t c} a, P t c → P t { c with address := a }) :
    Host.Lasting (detector p) (Remembers P) where
  world turns remembers c probe := by
    rw [now_turns turns]
    exact remembers c probe
  idle remembers := remembers
  push _ remembers := remembers
  pop _ remembers := remembers
  pass {e n c answer n'} probe tried remembers := by
    have now : n'.now = n.now := by
      have moved := (moves_start p { c with address := e.selector.next.1 } n).apart.now
      rw [show n.start p _ = (answer, n') from tried] at moved
      exact moved
    intro c' picked
    cases picked
    rw [now]
    exact anywhere _ (remembers c probe)
  skip _ remembers := remembers

/-- An engine whose probe can begin again, with any address. -/
abbrev Startable : Host Network → Prop := Remembers fun now c => c.Eligible ∧ c.InTime now

theorem lasting_startable (p : Nat) : Host.Lasting (detector p) Startable :=
  lasting_probe p fun _ startable => startable

/-- No order leaves an engine with a probe that was not checked. -/
theorem eligible_perform (eligible : ∀ c ∈ h.engine.probe, c.Eligible) (order : Host.Order) :
    ∀ c ∈ (order.perform (detector p) h).engine.probe, c.Eligible := by
  have lasting := lasting_probe p (P := fun _ c => c.Eligible) fun _ eligible => eligible
  refine lasting.perform eligible fun config _ => ?_
  have started := Host.started (detector p) config h
  generalize h.start (detector p) config = result at started
  obtain ⟨r, h'⟩ := result
  cases started with
  | refused => exact eligible
  | failed => exact eligible
  | begun _ _ valid _ =>
    intro c first
    cases first
    exact Host.eligible_probeOf valid _

/-! ## Findings -/

/-- The exchanges of a host that picks another candidate, if it may have one, are no refusals. -/
theorem unstranded_of_reselected {h h' : Host (Recorded Network)}
    (reselected : Host.Reselected (detector p).recorded h h')
    (unasked : h.world.exchanges = []) (probe : ∃ c, h.engine.probe = some c)
    (startable : Startable ⟨h.engine, h.world.world⟩)
    (idle : (h.world.world.prober p).phase = .idle)
    (spared : h'.world.world.toFail = h.world.world.toFail) :
    Host.stranded h.engine h'.world.exchanges = false := by
  cases reselected with
  | @begun c r probe begun =>
    have asked := exchanges_of_start begun
    change Host.stranded h.engine r.exchanges = false
    rw [Host.stranded, probe, asked, unasked]
    rfl
  | @failed c fault r probe tried =>
    obtain ⟨eligible, early⟩ := startable c probe
    have failed : h.world.world.start p { c with address := h.engine.selector.next.1 } =
        (.error fault, r.world) := congrArg (Prod.map id Recorded.world) tried
    have acceptable : ¬ Refuses p { c with address := h.engine.selector.next.1 } h.world.world :=
      acceptable eligible early idle
    exact absurd spared (spoiled_of_failed acceptable failed).ne
  | unconfigured nothing =>
    obtain ⟨c, probe⟩ := probe
    rw [nothing] at probe
    cases probe

theorem unrefused_of_midway {f : Detection} {fs : List Detection} (midway : Midway p (f :: fs) h)
    (startable : Startable h)
    (spared : (Host.react (detector p) f h).world.toFail = h.world.toFail) :
    (Host.Taking.mk h f).Unrefused p := by
  obtain ⟨attached, running, ⟨c, probe, _⟩, remaining, _⟩ := midway
  refine ⟨by rw [Engine.address, probe]; exact Option.some_ne_none _, ?_⟩
  have seen := Host.seen_react (detector p).recorded_shows f h.recording
  have reacted := Host.reacted (detector p).recorded f h.recording
  rw [Host.Taking.exchanges]
  rw [show h.recording.seen Recorded.world = h from rfl] at seen
  rw [seen] at spared
  generalize Host.react (detector p).recorded f h.recording = h' at *
  generalize standing : (h.world.prober p).phase = phase at remaining
  have safe {exchanges : List Exchange} (unrefused : exchanges.any Exchange.refuses = false) :
      Host.stranded h.engine exchanges = false := by
    rw [Host.stranded, probe, unrefused]
    rfl
  cases reacted with
  | ready | unconfigured | defended | down => exact safe rfl
  | yielded claim policy =>
    refine safe ?_
    rw [Host.exchanges_stop]
    rfl
  | lost claim policy =>
    cases remaining
    exact unstranded_of_reselected (Host.reselected _ _) rfl ⟨c, probe⟩ startable standing spared
  | used claim =>
    cases remaining
    exact unstranded_of_reselected (Host.reselected _ _) rfl ⟨c, probe⟩ startable standing spared

/-- The findings that a host takes are no reason for its detector to refuse anything. The induction
is on the takings: each leaves the host with the others yet to take, and the engine with a probe
that can begin again. -/
theorem unrefused_of_settled {findings : Nat} {ts : List (Host.Taking Network)}
    {r : Except Error Unit} (settled : Host.Settled (detector p) findings h ts r h')
    (settling : Settling p h) (startable : Startable h)
    (spared : h'.world.toFail = h.world.toFail) : ∀ t ∈ ts, t.Unrefused p := by
  induction settled with
  | enough | done | stopped | failed => exact fun _ member => by cases member
  | @taken m h h' f n ts r polled later ih =>
    have polled : h.world.poll p = (.ok (.found f), n) := polled
    have first : n.toFail ≤ h.world.toFail := by
      have fewer := (strokes_poll p h.world).toFail_le
      rwa [polled] at fewer
    have second := (Host.keeps_react (keeps_strokes p) f ⟨h.engine, n⟩).toFail_le
    have third := (Host.keeps_settle (keeps_strokes p) m
      (Host.react (detector p) f ⟨h.engine, n⟩)).toFail_le
    rw [later.eq.2] at third
    have turned : Startable ⟨h.engine, n⟩ := by
      have turns : (detector p).Turns h.world (h.world.poll p).2 := .poll
      rw [polled] at turns
      exact (lasting_startable p).world turns startable
    obtain ⟨midway, _⟩ := midway_of_polled settling polled
    obtain ⟨settling', _⟩ := react_settles (h := ⟨h.engine, n⟩) midway
    dsimp only at second third
    intro t member
    rcases List.mem_cons.mp member with rfl | member
    · exact unrefused_of_midway midway turned (by dsimp only; omega)
    · exact ih settling' ((lasting_startable p).react f turned) (by omega) t member

/-- A host attends to its detector without fail. -/
theorem dispatch_unrefused (formed : WellFormed h.world) (agrees : Agrees p h)
    (startable : Startable h)
    (spared : (h.dispatch (detector p)).2.world.toFail = h.world.toFail) :
    (h.dispatch (detector p)).1 = .ok () ∧
      ∀ t ∈ Host.dispatchTakings (detector p) h, t.Unrefused p := by
  have dispatched := Host.dispatched (detector p) h
  generalize h.dispatch (detector p) = result, Host.dispatchTakings (detector p) h = ts
    at dispatched spared ⊢
  obtain ⟨r, h'⟩ := result
  cases dispatched with
  | @failed fault n attended =>
    have attended : h.world.dispatch p = (.error fault, n) := attended
    have ok := dispatch_ok (p := p) formed (by rw [attended]; exact spared)
    rw [attended] at ok
    cases ok
  | @settled n _ _ _ attended settled =>
    have attended : h.world.dispatch p = (.ok (), n) := attended
    obtain ⟨settling, _⟩ := settling_of_dispatch agrees attended
    have first := (strokes_dispatch p h.world).toFail_le
    have second := (Host.keeps_settle (keeps_strokes p) ((detector p).backlog n + 1)
      ⟨h.engine, n⟩).toFail_le
    rw [attended] at first
    rw [settled.eq.2] at second
    have turned : Startable ⟨h.engine, n⟩ := by
      have turns : (detector p).Turns h.world (h.world.dispatch p).2 := .dispatch
      rw [attended] at turns
      exact (lasting_startable p).world turns startable
    refine ⟨?_, unrefused_of_settled settled settling turned ?_⟩
    · have taken := (settle_agrees ((detector p).backlog n + 1) settling (by
        rw [Queue.length_toList]
        exact Nat.lt_succ_self _)).1
      rw [settled.eq.2] at taken
      exact taken
    · dsimp only at first second spared ⊢
      omega

/-- A host looks without fail. -/
theorem look_unrefused (formed : WellFormed h.world) (agrees : Agrees p h)
    (startable : Startable h)
    (spared : (Host.Order.look.perform (detector p) h).world.toFail = h.world.toFail) :
    (Host.Order.look.answer (detector p) h).error? = none ∧
      ∀ t ∈ Host.Order.look.takings (detector p) h, t.Unrefused p := by
  rw [Host.Order.perform] at spared
  rw [Host.Order.answer]
  simp only [Host.look_eq] at spared ⊢
  cases attending : Host.Order.look.attending (detector p) h with
  | none =>
    rw [Host.takings_of_not_attending attending]
    exact ⟨Host.Answer.error?_ofPopped _, fun _ member => by cases member⟩
  | some h' =>
    simp only [attending] at spared
    obtain ⟨rfl, _⟩ := Host.attending_look attending
    have quiet := quiet_tell p h.world
    have told : WellFormed (h.world.tell p) := (quiet.conduct p).formed formed
    have agrees' : Agrees p ⟨h.engine, h.world.tell p⟩ :=
      ⟨quiet.probers.symm ▸ agrees.1, quiet.prober p ▸ agrees.2⟩
    obtain ⟨ok, taken⟩ := dispatch_unrefused told agrees' startable spared
    rw [Host.takings_of_attending attending]
    refine ⟨?_, taken⟩
    change (Host.Answer.looked (.ofDispatch
      (Host.dispatch (detector p) ⟨h.engine, h.world.tell p⟩).1)).error? = none
    rw [ok]
    rfl

/-! ## Orders -/

/-- An order to start is excused while the engine is busy or by a configuration that it does not
accept, and an announcement while there is nothing to announce. No other failure is excused. -/
inductive Excused (e : Engine) (phase : Phase) : Host.Order → Error → Prop where
  | running {config : Config} (state : e.state = .running) :
      Excused e phase (.start config) (.busy .running)
  | waiting {config : Config} (pending : e.pending.toList ≠ []) :
      Excused e phase (.start config) (.busy (.pending e.pending.length))
  | invalid {config : Config} {cause : InvalidArgument} (fails : config.validate = .error cause) :
      Excused e phase (.start config) (.invalidArgument cause)
  | idle (state : e.state = .idle) : Excused e phase .announce (.busy .notRunning)
  | unready (unready : phase ≠ .ready) : Excused e phase .announce (.busy .detector)

theorem excused_start {config : Config} (agrees : Agrees p h)
    (early : (Host.firstProbe config).InTime h.world.now)
    (spared : (h.start (detector p) config).2.world.toFail = h.world.toFail)
    (failed : (h.start (detector p) config).1 = .error error) :
    Excused h.engine (h.world.prober p).phase (.start config) error := by
  cases state : h.engine.state with
  | running =>
    rw [Host.start_of_running state] at failed
    cases failed
    exact .running state
  | idle =>
    by_cases taken : h.engine.pending.toList = []
    case neg =>
      rw [Host.start_of_waiting state taken] at failed
      cases failed
      exact .waiting taken
    cases valid : config.validate with
    | error cause =>
      rw [Host.start_of_invalid state taken valid] at failed
      cases failed
      exact .invalid valid
    | ok =>
      have idle : (h.world.prober p).phase = .idle := by
        by_contra working
        exact absurd ((agrees.2.running.mpr working).symm.trans state) nofun
      have started := Host.started (detector p) config h
      generalize h.start (detector p) config = result at started spared failed
      obtain ⟨r, h'⟩ := result
      cases started with
      | refused _ reason =>
        rcases reason with running | pending | invalid
        · exact absurd (running.symm.trans state) nofun
        · exact absurd taken pending
        · exact absurd valid invalid
      | @failed fault n _ _ _ tried =>
        have acceptable := acceptable (Host.eligible_probeOf valid _) early idle
        exact absurd spared (spoiled_of_failed acceptable tried).ne
      | begun => cases failed

theorem excused_announce (formed : WellFormed h.world)
    (failed : (h.announce (detector p)).1 = .error error) :
    Excused h.engine (h.world.prober p).phase .announce error := by
  rw [Host.announce] at failed
  split at failed
  · next state =>
    cases failed
    exact .idle state
  · split at failed
    · next fault n refused =>
      obtain ⟨rfl, unready⟩ := announce_busy formed .once refused
      cases failed
      exact .unready unready
    · dsimp only at failed
      split at failed <;> cases failed

/-- An order fails with an excuse only, and no finding that it takes is a reason for the detector to
refuse anything. -/
theorem order_unrefused (formed : WellFormed h.world) (agrees : Agrees p h)
    (eligible : ∀ c ∈ h.engine.probe, c.Eligible) {order : Host.Order}
    (early : order.InTime h.engine h.world.now)
    (spared : (order.perform (detector p) h).world.toFail = h.world.toFail) :
    (∀ error ∈ (order.answer (detector p) h).error?,
        Excused h.engine (h.world.prober p).phase order error) ∧
      ∀ t ∈ order.takings (detector p) h, t.Unrefused p := by
  have unfailing : ∀ error ∈ (none : Option Error),
      Excused h.engine (h.world.prober p).phase order error := fun _ error => by cases error
  have untaken (elsewhere : order.attending (detector p) h = none) :
      ∀ t ∈ order.takings (detector p) h, t.Unrefused p := by
    rw [Host.takings_of_not_attending elsewhere]
    exact fun _ member => by cases member
  cases order with
  | start config =>
    refine ⟨fun error answered => ?_, untaken rfl⟩
    exact excused_start agrees early spared (Host.Answer.mem_error?_request.mp answered)
  | announce =>
    refine ⟨fun error answered => ?_, untaken rfl⟩
    exact excused_announce formed (Host.Answer.mem_error?_request.mp answered)
  | stop | pop | watch => exact ⟨unfailing, untaken rfl⟩
  | dispatch =>
    obtain ⟨ok, taken⟩ := dispatch_unrefused formed agrees
      (fun c probe => ⟨eligible c probe, early c probe⟩) spared
    refine ⟨fun error answered => ?_, taken⟩
    cases ok.symm.trans (Host.Answer.mem_error?_request.mp answered)
  | look =>
    obtain ⟨answered, taken⟩ := look_unrefused formed agrees
      (fun c probe => ⟨eligible c probe, early c probe⟩) spared
    rw [answered]
    exact ⟨unfailing, taken⟩

end Simulation
end LinkLocal
