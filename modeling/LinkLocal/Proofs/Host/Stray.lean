import LinkLocal.Proofs.Host.Accounting

/-! Probes of an idle host. Only an order to start makes an idle host run, but a finding can make it
probe: the policy does not ask whether the engine is running before it picks another candidate. So
a finding that was left from before a stop, or comes after the link went away, can leave a host that
is idle with a probe of its own outstanding. This happens exactly if a host takes a finding that
makes it pick another candidate while it is idle, and the detector accepts the new probe. -/
namespace LinkLocal

variable {σ : Type} [Journal σ] {d : Detector σ}

/-- Whether a detector begins a probe in an exchange. -/
def Exchange.begins : Exchange → Bool
  | .start _ (.ok _) => true
  | _ => false

/-- Whether a probe is outstanding after an exchange: a detector begins one when it accepts it, and
has none when it is stopped or says that it has stopped by itself. -/
def Exchange.outstanding (before : Bool) : Exchange → Bool
  | .start _ (.ok _) => true
  | .stop | .poll (.ok .stopped) => false
  | .poll (.ok (.found (.conflict _))) | .poll (.ok (.found (.used _)))
  | .poll (.ok (.found .down)) => false
  | _ => before

/-- Whether a probe is outstanding after some exchanges with a fresh detector. -/
def outstanding (exchanges : List Exchange) : Bool := exchanges.foldl Exchange.outstanding false

theorem outstanding_concat (exchanges : List Exchange) (x : Exchange) :
    outstanding (exchanges ++ [x]) = x.outstanding (outstanding exchanges) := by
  rw [outstanding, List.foldl_append]
  rfl

namespace Host

open Simulation.Segment (brief)

/-- A host that is idle with a probe of its own outstanding. -/
def Stray (h : Host (Recorded σ)) : Prop :=
  h.engine.state = .idle ∧ outstanding h.world.exchanges = true

instance (h : Host (Recorded σ)) : Decidable (Stray h) := inferInstanceAs (Decidable (_ ∧ _))

/-- Whether a finding makes a host begin a probe. -/
def Taking.restarts (d : Detector σ) (t : Taking σ) : Bool := (t.exchanges d).any Exchange.begins

/-! ## Reactions and what is outstanding -/

/-- What a finding makes of a host and of what is outstanding. -/
inductive Effect (f : Detection) (h h' : Host (Recorded σ)) : Prop where
  | restarted {c : Probe} (seeks : (Taking.mk h f).seeks = true)
      (asked : h'.world.exchanges = h.world.exchanges ++ [.start c (.ok ())])
      (state : h'.engine.state = h.engine.state) (probe : h'.engine.probe ≠ none)
      (before : h.engine.probe ≠ none) (next : c.address = h.engine.selector.next.1)
  | refused {c : Probe} {fault : DetectorFault} (seeks : (Taking.mk h f).seeks = true)
      (asked : h'.world.exchanges = h.world.exchanges ++ [.start c (.error fault)])
      (idle : h'.engine.state = .idle) (next : c.address = h.engine.selector.next.1)
  | unconfigured (seeks : (Taking.mk h f).seeks = true)
      (asked : h'.world.exchanges = h.world.exchanges) (idle : h'.engine.state = .idle)
      (before : h.engine.probe = none)
  | stopped (settles : (Taking.mk h f).seeks = false)
      (asked : h'.world.exchanges = h.world.exchanges ++ [.stop]) (idle : h'.engine.state = .idle)
  | down (settles : (Taking.mk h f).seeks = false)
      (asked : h'.world.exchanges = h.world.exchanges) (idle : h'.engine.state = .idle)
      (reason : f = .down ∨ h.engine.probe = none)
  | told (settles : (Taking.mk h f).seeks = false)
      (asked : h'.world.exchanges = h.world.exchanges) (state : h'.engine.state = h.engine.state)
      (probe : h'.engine.probe = h.engine.probe)

theorem Reselected.effect {f : Detection} {h h' h'' : Host (Recorded σ)}
    (reselected : Reselected d.recorded h' h'') (seeks : (Taking.mk h f).seeks = true)
    (asked : h'.world.exchanges = h.world.exchanges)
    (state : h'.engine.state = h.engine.state) (same : h'.engine.probe = h.engine.probe)
    (place : h'.engine.selector = h.engine.selector) : Effect f h h'' := by
  cases reselected with
  | begun probe begun =>
    have asked' := exchanges_of_start begun
    rw [asked] at asked'
    exact .restarted seeks (asked' :) state (Option.some_ne_none _)
      (by rw [← same, probe]; exact Option.some_ne_none _) (place ▸ rfl)
  | failed probe tried =>
    have asked' := exchanges_of_start tried
    rw [asked] at asked'
    exact .refused seeks (asked' :) rfl (place ▸ rfl)
  | unconfigured none => exact .unconfigured seeks asked rfl (same ▸ none)

theorem Reacted.effect {f : Detection} {h h' : Host (Recorded σ)}
    (reacted : Reacted d.recorded h f h') : Effect f h h' := by
  cases reacted with
  | ready candidate => exact .told rfl rfl rfl rfl
  | unconfigured none => exact .down rfl rfl rfl (.inr (Option.map_eq_none_iff.mp none))
  | defended claim => exact .told rfl rfl rfl rfl
  | lost claim policy =>
    have seeks : (Taking.mk h (.conflict claim)).seeks = true := decide_eq_true policy
    exact (reselected d.recorded _).effect seeks rfl rfl rfl rfl
  | yielded claim policy =>
    have settles : (Taking.mk h (.conflict claim)).seeks = false :=
      decide_eq_false (by rw [policy]; nofun)
    exact .stopped settles (exchanges_stop d _) (by rw [stop_eq]; rfl)
  | used claim => exact (reselected d.recorded _).effect rfl rfl rfl rfl rfl
  | down => exact .down rfl rfl rfl (.inl rfl)

/-- A finding makes a host begin a probe exactly if it makes the host pick another candidate and
does not leave it stranded. -/
theorem Taking.restarts_iff (t : Taking σ) : t.restarts d = true ↔
    t.seeks = true ∧ stranded t.host.engine (t.exchanges d) = false := by
  have effect := (reacted d.recorded t.finding t.host.recording).effect
  rw [Taking.restarts, Taking.exchanges]
  generalize react d.recorded t.finding t.host.recording = h' at effect ⊢
  have settled (settles : t.seeks = false)
      (none : h'.world.exchanges.any Exchange.begins = false) :
      h'.world.exchanges.any Exchange.begins = true ↔
        t.seeks = true ∧ stranded t.host.engine h'.world.exchanges = false :=
    iff_of_false (ne_true_of_eq_false none) fun both => ne_true_of_eq_false settles both.1
  have failed (none : h'.world.exchanges.any Exchange.begins = false)
      (fails : stranded t.host.engine h'.world.exchanges = true) :
      h'.world.exchanges.any Exchange.begins = true ↔
        t.seeks = true ∧ stranded t.host.engine h'.world.exchanges = false :=
    iff_of_false (ne_true_of_eq_false none) fun both => ne_true_of_eq_false both.2 fails
  cases effect with
  | restarted seeks asked _ _ before =>
    have safe : h'.world.exchanges.any Exchange.refuses = false := by rw [asked]; rfl
    have accepted : h'.world.exchanges.any Exchange.begins = true := by rw [asked]; rfl
    exact iff_of_true accepted ⟨seeks, Bool.or_eq_false_iff.mpr ⟨decide_eq_false before, safe⟩⟩
  | refused _ asked =>
    have refuses : h'.world.exchanges.any Exchange.refuses = true := by rw [asked]; rfl
    exact failed (by rw [asked]; rfl) (Bool.or_eq_true_iff.mpr (.inr refuses))
  | unconfigured _ asked _ before =>
    exact failed (by rw [asked]; rfl) (Bool.or_eq_true_iff.mpr (.inl (decide_eq_true before)))
  | stopped settles asked => exact settled settles (by rw [asked]; rfl)
  | down settles asked => exact settled settles (by rw [asked]; rfl)
  | told settles asked => exact settled settles (by rw [asked]; rfl)

/-- With another record in front, a reaction adds the same exchanges. -/
theorem reaction_exchanges (d : Detector σ) (t : Taking (Recorded σ)) :
    (t.reaction d.recorded).world.exchanges =
      t.host.world.exchanges ++ (t.seen Recorded.world).exchanges d := by
  have shows := d.recorded_shows_behind t.host.world.exchanges
  have same := seen_react shows t.finding (t.host.seen Recorded.world).recording
  have whole : (t.host.seen Recorded.world).recording.seen
      (Recorded.behind t.host.world.exchanges) = t.host := by
    simp only [seen, recording, Recorded.behind, List.append_nil]
  rw [whole] at same
  rw [Taking.reaction, same]
  rfl

theorem stray_of_restarts {t : Taking (Recorded σ)} (idle : t.host.engine.state = .idle)
    (restarts : (t.seen Recorded.world).restarts d = true) : Stray (t.reaction d.recorded) := by
  have effect := (reacted d.recorded t.finding t.host).effect
  have added := reaction_exchanges d t
  rw [Taking.restarts] at restarts
  rw [Taking.reaction] at added ⊢
  generalize (t.seen Recorded.world).exchanges d = exchanges at restarts added
  generalize react d.recorded t.finding t.host = h' at effect added ⊢
  have other {x : List Exchange} (asked : h'.world.exchanges = t.host.world.exchanges ++ x)
      (none : x.any Exchange.begins = false) : Stray h' := by
    rw [List.append_cancel_left (added.symm.trans asked), none] at restarts
    cases restarts
  cases effect with
  | restarted _ asked state =>
    refine ⟨state.trans idle, ?_⟩
    rw [asked, outstanding_concat]
    rfl
  | refused _ asked => exact other asked rfl
  | stopped _ asked => exact other asked rfl
  | unconfigured _ asked | down _ asked | told _ asked =>
    exact other (asked.trans (List.append_nil _).symm) rfl

/-! ## Sober hosts -/

/-- A host whose probe is outstanding only while it runs. -/
def Sober (h : Host (Recorded σ)) : Prop :=
  outstanding h.world.exchanges = true → h.engine.state = .running ∧ h.engine.probe ≠ none

omit [Journal σ] in
theorem Sober.not_stray {h : Host (Recorded σ)} (sober : Sober h) : ¬ Stray h := by
  rintro ⟨idle, probing⟩
  cases idle.symm.trans (sober probing).1

omit [Journal σ] in
theorem sober_of_none {h : Host (Recorded σ)} (none : outstanding h.world.exchanges = false) :
    Sober h := fun probing => absurd probing (ne_true_of_eq_false none)

/-- No finding that is taken while the host is idle makes it begin a probe. -/
def Taking.Rests (d : Detector σ) (t : Taking σ) : Prop :=
  t.host.engine.state = .idle → t.restarts d = false

instance (d : Detector σ) (t : Taking σ) : Decidable (t.Rests d) :=
  inferInstanceAs (Decidable (_ → _))

/-- A finding makes an idle host rest exactly if it makes the host pick no other candidate, or
leaves it stranded. -/
theorem Taking.rests_iff (t : Taking σ) : t.Rests d ↔ (t.host.engine.state = .idle →
    t.seeks = true → stranded t.host.engine (t.exchanges d) = true) := by
  refine forall_congr' fun _ => ?_
  rw [← Bool.not_eq_true, t.restarts_iff, not_and, Bool.not_eq_false]

/-- A sober host stays so through a finding that makes it rest if it is idle. -/
theorem sober_reaction {t : Taking (Recorded σ)} (sober : Sober t.host)
    (silent : t.seeks = true ∨ t.finding = .down → outstanding t.host.world.exchanges = false)
    (rests : (t.seen Recorded.world).Rests d) : Sober (t.reaction d.recorded) := by
  have effect := (reacted d.recorded t.finding t.host).effect
  have added := reaction_exchanges d t
  rw [Taking.Rests, Taking.restarts] at rests
  rw [Taking.reaction] at added ⊢
  generalize (t.seen Recorded.world).exchanges d = exchanges at rests added
  generalize react d.recorded t.finding t.host = h' at effect added ⊢
  cases effect with
  | @restarted c _ asked state probe =>
    have running : t.host.engine.state = .running := by
      cases state : t.host.engine.state with
      | running => rfl
      | idle =>
        have accepted := rests state
        rw [List.append_cancel_left (added.symm.trans asked)] at accepted
        cases accepted
    exact fun _ => ⟨state.trans running, probe⟩
  | refused seeks asked =>
    refine sober_of_none ?_
    rw [asked, outstanding_concat]
    exact silent (.inl seeks)
  | unconfigured seeks asked =>
    exact sober_of_none (asked ▸ silent (.inl seeks))
  | stopped _ asked =>
    refine sober_of_none ?_
    rw [asked, outstanding_concat]
    rfl
  | down _ asked _ reason =>
    rcases reason with down | none
    · exact sober_of_none (asked ▸ silent (.inr down))
    · exact fun probing => absurd none (sober (asked ▸ probing)).2
  | told _ asked state probe =>
    rw [Sober, asked, state, probe]
    exact sober

omit [Journal σ] in
/-- A detector that hands out a finding after which it has stopped has no probe outstanding. -/
theorem sober_polled {h : Host (Recorded σ)} (sober : Sober h) {f : Detection} {r : Recorded σ}
    (polled : d.recorded.poll h.world = (.ok (.found f), r)) : Sober ⟨h.engine, r⟩ ∧
      ((Taking.mk ⟨h.engine, r⟩ f).seeks = true ∨ f = .down → outstanding r.exchanges = false) := by
  have asked := exchanges_of_poll polled
  rw [Sober, asked, outstanding_concat]
  cases f with
  | ready | defended =>
    refine ⟨sober, fun ends => ?_⟩
    rcases ends with seeks | down
    · cases seeks
    · cases down
  | conflict | used | down =>
    exact ⟨fun probing => absurd probing Bool.false_ne_true, fun _ => rfl⟩

theorem Settled.sober {n : Nat} {h h' : Host (Recorded σ)} {ts : List (Taking (Recorded σ))}
    {r : Except Error Unit} (settled : Settled d.recorded n h ts r h') (sober : Sober h)
    (rests : ∀ t ∈ ts, (t.seen Recorded.world).Rests d) :
    Sober h' ∧ ∀ t ∈ ts, Sober (t.reaction d.recorded) := by
  induction settled with
  | enough => exact ⟨sober, List.forall_mem_nil _⟩
  | taken polled _ ih =>
    obtain ⟨sober', silent⟩ := sober_polled sober polled
    have reacted := sober_reaction sober' silent (rests _ (.head _))
    obtain ⟨ended, later⟩ := ih reacted fun t member => rests t (.tail _ member)
    exact ⟨ended, List.forall_mem_cons.mpr ⟨reacted, later⟩⟩
  | done polled =>
    refine ⟨?_, List.forall_mem_nil _⟩
    rw [Sober, exchanges_of_poll polled, outstanding_concat]
    exact sober
  | stopped polled =>
    refine ⟨sober_of_none ?_, List.forall_mem_nil _⟩
    rw [exchanges_rest, exchanges_of_poll polled, outstanding_concat]
    rfl
  | failed polled =>
    refine ⟨?_, List.forall_mem_nil _⟩
    rw [Sober, exchanges_of_poll polled, outstanding_concat]
    exact sober

theorem dispatch_sober {h : Host (Recorded σ)} (sober : Sober h)
    (rests : ∀ t ∈ dispatchTakings d.recorded h, (t.seen Recorded.world).Rests d) :
    Sober (h.dispatch d.recorded).2 ∧
      ∀ t ∈ dispatchTakings d.recorded h, Sober (t.reaction d.recorded) := by
  have attended' {answer : Except DetectorFault Unit} {r : Recorded σ}
      (attended : d.recorded.dispatch h.world = (answer, r)) : Sober ⟨h.engine, r⟩ := by
    rw [Sober, exchanges_of_dispatch attended, outstanding_concat]
    exact sober
  have dispatched := dispatched d.recorded h
  generalize h.dispatch d.recorded = result, dispatchTakings d.recorded h = ts at dispatched rests ⊢
  obtain ⟨r, h'⟩ := result
  cases dispatched with
  | failed attended => exact ⟨(attended' attended :), List.forall_mem_nil _⟩
  | settled attended settled => exact settled.sober (attended' attended) rests

/-- A sober host stays so through an order, if every finding that the order takes makes it rest if
it is idle. -/
theorem order_sober {h : Host (Recorded σ)} (sober : Sober h) {order : Order}
    (rests : ∀ t ∈ order.takings d.recorded h, (t.seen Recorded.world).Rests d) :
    Sober (order.perform d.recorded h) ∧
      ∀ t ∈ order.takings d.recorded h, Sober (t.reaction d.recorded) := by
  have untaken (elsewhere : order.attending d.recorded h = none) :
      ∀ t ∈ order.takings d.recorded h, Sober (t.reaction d.recorded) := by
    rw [takings_of_not_attending elsewhere]
    exact List.forall_mem_nil _
  have popped : Sober h.pop.2 := by
    rw [Sober, pop_engine]
    exact sober
  cases order with
  | start config =>
    refine ⟨?_, untaken rfl⟩
    have started := started d.recorded config h
    simp only [Order.perform]
    generalize h.start d.recorded config = result at started ⊢
    obtain ⟨r, h'⟩ := result
    cases started with
    | refused => exact sober
    | failed _ _ _ tried =>
      rw [Sober, exchanges_of_start tried, outstanding_concat]
      exact sober
    | begun => exact fun _ => ⟨rfl, Option.some_ne_none _⟩
  | stop =>
    refine ⟨sober_of_none ?_, untaken rfl⟩
    rw [Order.perform, exchanges_stop, outstanding_concat]
    rfl
  | dispatch => exact dispatch_sober sober rests
  | announce =>
    refine ⟨?_, untaken rfl⟩
    have announced : outstanding (d.recorded.announce .once h.world).2.exchanges =
        outstanding h.world.exchanges := outstanding_concat ..
    simp only [Order.perform]
    rw [Sober, announce_engine]
    rcases announce_world d.recorded h with same | same | ⟨x, same⟩ <;> rw [same]
    · exact sober
    · exact fun probing => sober (announced.symm.trans probing)
    · exact fun probing => sober (announced.symm.trans probing)
  | pop => exact ⟨popped, untaken rfl⟩
  | watch => exact ⟨sober, untaken rfl⟩
  | look =>
    cases attending : Order.look.attending d.recorded h with
    | none =>
      refine ⟨?_, untaken attending⟩
      simp only [Order.perform, look_eq, attending]
      exact popped
    | some h' =>
      rw [takings_of_attending attending] at rests ⊢
      simp only [Order.perform, look_eq, attending]
      obtain ⟨rfl, _⟩ := attending_look attending
      exact dispatch_sober (h := ⟨h.engine, _⟩) sober rests

theorem after_sober {h : Host (Recorded σ)} (sober : Sober h) (orders : List Order)
    (rests : ∀ t ∈ takings d.recorded orders h, (t.seen Recorded.world).Rests d) :
    Sober (after d.recorded orders h) ∧
      ∀ t ∈ takings d.recorded orders h, Sober (t.reaction d.recorded) := by
  induction orders generalizing h with
  | nil => exact ⟨sober, List.forall_mem_nil _⟩
  | cons order orders ih =>
    rw [takings, List.forall_mem_append] at rests ⊢
    obtain ⟨sober', now⟩ := order_sober sober rests.1
    obtain ⟨ended, later⟩ := ih sober' rests.2
    exact ⟨ended, now, later⟩

/-! ## Idle hosts -/

theorem lasting_idle (d : Detector σ) : Lasting d fun h => h.engine.state = .idle where
  world _ idle := idle
  idle _ := rfl
  push _ idle := idle
  pop _ idle := idle
  pass _ _ idle := idle
  skip _ idle := idle

/-- Only an order that begins a run makes an idle host run. -/
theorem idle_perform {h : Host σ} (idle : h.engine.state = .idle) {order : Order}
    (same : ¬ order.Begins d h) : (order.perform d h).engine.state = .idle := by
  refine (lasting_idle d).perform idle fun config start => ?_
  subst start
  have started := started d config h
  rw [Order.Begins] at same
  generalize h.start d config = result at started same ⊢
  obtain ⟨r, h'⟩ := result
  cases started with
  | refused => exact idle
  | failed => exact idle
  | begun => exact absurd rfl same

/-- A host is never left idle with a probe of its own outstanding exactly if no finding that it
takes while it is idle makes it begin a probe, which is so exactly if each of them that makes it
pick another candidate leaves it stranded. Then no order leaves it so either. And only an order that
begins a run ever makes an idle host run. -/
theorem never_stray_iff (d : Detector σ) (s : σ) (orders : List Order) :
    ((∀ t ∈ takings d.recorded orders (create s).recording, ¬ Stray (t.reaction d.recorded)) ↔
      ∀ t ∈ takings d orders (create s), t.Rests d) ∧
    ((∀ t ∈ takings d orders (create s), t.Rests d) ↔
      ∀ t ∈ takings d orders (create s), t.host.engine.state = .idle → t.seeks = true →
        stranded t.host.engine (t.exchanges d) = true) ∧
    ((∀ t ∈ takings d orders (create s), t.Rests d) →
      ¬ Stray (after d.recorded orders (create s).recording)) ∧
    ∀ (h : Host σ) (order : Order), h.engine.state = .idle → ¬ order.Begins d h →
      (order.perform d h).engine.state = .idle := by
  have seen := (recorded_after d orders (create s)).2.1
  have sober : (∀ t ∈ takings d orders (create s), t.Rests d) →
      Sober (after d.recorded orders (create s).recording) ∧
        ∀ t ∈ takings d.recorded orders (create s).recording, Sober (t.reaction d.recorded) := by
    intro rests
    rw [← seen, List.forall_mem_map] at rests
    exact after_sober (sober_of_none rfl) orders rests
  refine ⟨⟨fun never => ?_, fun rests t member => ((sober rests).2 t member).not_stray⟩,
    forall₂_congr fun t _ => t.rests_iff, fun rests => (sober rests).1.not_stray,
    fun h order idle => idle_perform idle⟩
  rw [← seen, List.forall_mem_map]
  intro t member idle
  by_contra restarts
  exact never t member (stray_of_restarts idle (Bool.of_not_eq_false restarts))

/-- A script that has a finding left to tell when the detector is dispatched. -/
def leaving (found : Detection) : Scripted := { injected := { front := [⟨found, false⟩] } }

/-- Orders with which a host that has stopped takes what was left. -/
def stopping : List Order := [.start brief, .stop, .dispatch]

theorem never_stray_defended :
    (∀ t ∈ takings Scripted.detector stopping (create (leaving (.defended foreign))),
      t.Rests Scripted.detector) ∧
    ¬ Stray (after Scripted.detector.recorded stopping
      (create (leaving (.defended foreign))).recording) := by
  have rests : ∀ t ∈ takings Scripted.detector stopping (create (leaving (.defended foreign))),
      t.Rests Scripted.detector := by decide +kernel
  exact ⟨rests, (never_stray_iff Scripted.detector _ stopping).2.2.1 rests⟩

/-- A host that has stopped takes a finding that was left, and is idle with a probe of its own
outstanding. -/
theorem stray_after_stop :
    (∃ t ∈ takings Scripted.detector stopping (create (leaving (.used foreign))),
      t.host.engine.state = .idle ∧ t.restarts Scripted.detector = true) ∧
    Stray (after Scripted.detector.recorded stopping
      (create (leaving (.used foreign))).recording) := by
  decide +kernel

end Host
end LinkLocal
