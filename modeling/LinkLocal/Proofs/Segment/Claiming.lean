import LinkLocal.Daemon.Supervisor
import LinkLocal.Proofs.Host.Unready
import LinkLocal.Proofs.Segment.Answering
import LinkLocal.Proofs.Segment.Story

/-! The daemon's answer to a ready event. The owner of a stream who has every ready event
handled before he does anything else with that stream is never told of a candidate that
his engine has lost: the stream attends to the detector only when no event waits, a ready
event then comes alone, and nothing that others do changes the engine or its detector.
Each ready event is therefore answered by the announcement of just its address. -/
namespace LinkLocal.Simulation.Segment

open Network

/-- What the owner of a stream has to do before anything else with it. -/
inductive Duty where
  /-- Nothing: he may do as he pleases. -/
  | none
  /-- To look again: the detector was attended to, and left an event. -/
  | poll
  /-- To have the event handled that told him of a ready address. -/
  | handle (a : IPv4)
  deriving DecidableEq

/-- The duty that the answer to a look leaves. -/
def Duty.after : Host.Look × Host Network → Duty
  | (.event (.ready a), _) => .handle a
  | (.again, h) => if h.engine.pending.isEmpty then .none else .poll
  | _ => .none

/-- The duty after a look at the stream of the engine at a tap. -/
def duty (p : Nat) (s : Segment) : Duty :=
  match s.engines.get? p with
  | none => .none
  | some e => .after (Host.look (detector p) ⟨e, s.network⟩)

/-- A segment after the daemon has handled an event of the engine at a tap. -/
def handle (p : Nat) (event : Event) (s : Segment) : Segment :=
  match s.engines.get? p with
  | none => s
  | some e =>
    let h := (Daemon.handle (detector p) event ⟨e, s.network⟩).2
    { network := h.world, engines := s.engines.insert p h.engine }

/-- What the owner of a stream orders besides looking at it. -/
def Owned : Host.Order → Prop
  | .start _ | .stop | .announce | .watch => True
  | .dispatch | .pop | .look => False

/-- A segment with an engine whose owner has got all of its events from a stream, and the duty
that he has. The engine was created for any detector, on any segment; and at any time anything
may be done on the segment that is not about it. A reactor may hear of the descriptor at any time,
and the stream may act on that at any later time at which it asks for readiness. -/
inductive Streamed (p : Nat) : Duty → Segment → Prop where
  | engage {s : Segment} {past : List Segment} {allowed : Segment → Act → Prop}
      (run : Run allowed (s :: past)) (attached : p ∈ s.network.probers.keys)
      (unused : s.engines.get? p = none) : Streamed p .none (s.perform (.engage p))
  | elsewhere {d : Duty} {s : Segment} (streamed : Streamed p d s) (act : Act)
      (elsewhere : act.about ≠ some p) : Streamed p d (s.perform act)
  | order {s : Segment} (streamed : Streamed p .none s) (order : Host.Order)
      (owned : Owned order) : Streamed p .none (s.perform (.order p order))
  | look {d d' : Duty} {s : Segment} (streamed : Streamed p d s) (handled : ∀ a, d ≠ .handle a)
      (left : s.duty p = d') : Streamed p d' (s.perform (.order p .look))
  /-- The reactor is told of the descriptor. -/
  | hear {d : Duty} {s : Segment} (streamed : Streamed p d s) :
      Streamed p d { s with network := s.network.tell p }
  /-- The stream acts on what its reactor heard, which may be out of date by now. -/
  | attend {d : Duty} {s : Segment} {e : Engine} {r : Except Error Unit} {h : Host Network}
      (streamed : Streamed p d s) (handled : ∀ a, d ≠ .handle a)
      (engine : s.engines.get? p = some e) (running : e.state = .running)
      (none : e.pending.toList = [])
      (attended : Host.dispatch (detector p) ⟨e, s.network⟩ = (r, h)) :
      Streamed p (.after (.ofDispatch r, h)) (s.perform (.order p .dispatch))
  | handle {d : Duty} {s : Segment} (streamed : Streamed p d s) (event : Event)
      (due : d = .none ∨ ∃ a, d = .handle a ∧ event = .ready a) :
      Streamed p .none (s.handle p event)

variable {s : Segment} {p : Nat} {a : IPv4} {d : Duty} {h : Host Network} {n : Network}

/-! ## Engine and detector -/

/-- An idle engine for which no event waits, with a detector in any state. -/
structure Asleep (p : Nat) (h : Host Network) : Prop where
  attached : p ∈ h.world.probers.keys
  idle : h.engine.state = .idle
  pending : h.engine.pending.toList = []

/-- The present candidate of a host waits for its announcement, and its owner was told. -/
structure Informed (p : Nat) (a : IPv4) (h : Host Network) : Prop where
  ready : (h.world.prober p).phase = .ready
  probe : ∃ c, (h.world.prober p).probe = some c ∧ c.address = a
  pending : h.engine.pending.toList = []

/-- How a host stands whose owner has a duty. -/
def Meets (p : Nat) (h : Host Network) : Duty → Prop
  | .none => Asleep p h ∨ Agrees p h ∧ Unready p h
  | .poll => Agrees p h ∧ (Unready p h ∨ Awaiting p h)
  | .handle a => Agrees p h ∧ Informed p a h

/-- What others do does not change it. -/
theorem Meets.congr (meets : Meets p h d) (attached : p ∈ n.probers.keys)
    (same : n.prober p = h.world.prober p) : Meets p ⟨h.engine, n⟩ d := by
  have agrees (agrees : Agrees p h) : Agrees p ⟨h.engine, n⟩ :=
    ⟨attached, same.symm ▸ agrees.2⟩
  have unready (unready : Unready p h) : Unready p ⟨h.engine, n⟩ :=
    ⟨attached, same.symm ▸ unready.phase, same.symm ▸ unready.found, unready.pending⟩
  cases d with
  | none =>
    rcases meets with ⟨_, idle, pending⟩ | ⟨agreed, other⟩
    · exact .inl ⟨attached, idle, pending⟩
    · exact .inr ⟨agrees agreed, unready other⟩
  | poll =>
    obtain ⟨agreed, other | ⟨ready, c, probe, pending⟩⟩ := meets
    · exact ⟨agrees agreed, .inl (unready other)⟩
    · exact ⟨agrees agreed, .inr ⟨same.symm ▸ ready, c, same.symm ▸ probe, pending⟩⟩
  | handle a =>
    obtain ⟨agreed, ready, ⟨c, probe, address⟩, pending⟩ := meets
    exact ⟨agrees agreed, same.symm ▸ ready, ⟨c, same.symm ▸ probe, address⟩, pending⟩

/-! ## Orders -/

/-- Without a candidate that waits for it, an announcement is refused without a trace. -/
theorem announce_refused (meets : Meets p h .none) :
    ∃ error, h.announce (detector p) = (.error error, h) := by
  by_cases state : h.engine.state = .idle
  · exact ⟨_, by rw [Host.announce, if_pos state]⟩
  · have other : (h.world.prober p).phase ≠ .ready := by
      rcases meets with asleep | ⟨_, unready⟩
      · exact absurd asleep.idle state
      · exact unready.phase
    rcases announce_cases p .once h.world with ⟨⟨fault, refused⟩, _⟩ | ⟨_, c, announcing⟩
    · exact ⟨.ofRequest fault, by simp only [Host.announce, if_neg state, detector, refused]⟩
    · exact absurd announcing.ready other

/-- A start is refused without a trace on the detector, or its probe has begun. -/
theorem start_begins (attached : p ∈ h.world.probers.keys) (config : Config) :
    let h' := (h.start (detector p) config).2
    p ∈ h'.world.probers.keys ∧
      (h'.world.prober p = h.world.prober p ∧ h'.engine.state = h.engine.state ∧
          h'.engine.pending = h.engine.pending ∨
        Agrees p h' ∧ Unready p h') := by
  rcases first : Host.firstCandidate config with ⟨a, selector⟩
  simp only [Host.start, first]
  split
  · exact ⟨attached, .inl ⟨rfl, rfl, rfl⟩⟩
  · split
    · exact ⟨attached, .inl ⟨rfl, rfl, rfl⟩⟩
    · next empty =>
      split
      · exact ⟨attached, .inl ⟨rfl, rfl, rfl⟩⟩
      · have moved := (moves_start p (Host.probeOf config a) h.world).apart.attached
        rcases start_own attached (Host.probeOf config a) with
          ⟨fault, n', refused, same⟩ | ⟨t, n', started, probing⟩
        · rw [refused] at moved
          simp only [detector, refused]
          exact ⟨moved ▸ attached, .inl ⟨same, trivial, trivial⟩⟩
        · rw [started] at moved
          have there : p ∈ n'.probers.keys := moved ▸ attached
          have nothing : h.engine.pending.toList = [] :=
            (Queue.isEmpty_iff _).mp (Decidable.not_not.mp empty)
          simp only [detector, started]
          refine ⟨there, .inr ⟨⟨there, agree_probing rfl rfl probing⟩, ⟨there, ?_, ?_, ?_⟩⟩⟩
          · change (n'.prober p).phase ≠ .ready
            simp [probing]
          · change .ready ∉ (n'.prober p).found.toList
            simp [probing]
          · exact fun a => nothing ▸ List.not_mem_nil

theorem Meets.attached (meets : Meets p h d) : p ∈ h.world.probers.keys := by
  cases d with
  | none => exact meets.elim Asleep.attached fun agreed => agreed.1.1
  | poll => exact meets.1.1
  | handle a => exact meets.1.1

theorem meets_start (meets : Meets p h .none) (config : Config) :
    Meets p (h.start (detector p) config).2 .none := by
  obtain ⟨attached, ⟨same, state, pending⟩ | begun⟩ := start_begins meets.attached config
  · rcases meets with ⟨_, idle, nothing⟩ | ⟨agrees, unready⟩
    · exact .inl ⟨attached, state.trans idle, pending ▸ nothing⟩
    · exact .inr ⟨agrees_start agrees config, attached, same.symm ▸ unready.phase,
        same.symm ▸ unready.found, pending.symm ▸ unready.pending⟩
  · exact .inr begun

theorem meets_stop (meets : Meets p h .none) : Meets p (h.stop (detector p)) .none := by
  refine .inr ⟨agrees_stop meets.attached, unready_stop meets.attached ?_⟩
  rcases meets with asleep | ⟨_, unready⟩
  · exact fun a => asleep.pending ▸ List.not_mem_nil
  · exact unready.pending

/-! ## Looks -/

/-- A host attends to its detector when nothing waits to be handed out: if a ready event comes of
it, then it is the only one. -/
theorem meets_dispatch (agrees : Agrees p h) (unready : Unready p h)
    (running : h.engine.state = .running) (pending : h.engine.pending.toList = []) :
    Meets p (h.dispatch (detector p)).2
      (.after (.ofDispatch (h.dispatch (detector p)).1, (h.dispatch (detector p)).2)) := by
  have left := dispatch_awaiting agrees unready (agrees.2.running.mp running) pending
  have after := agrees_dispatch agrees
  generalize h.dispatch (detector p) = result at left after ⊢
  obtain ⟨fault | u, h'⟩ := result
  · rcases left with unready | ⟨failed, _⟩
    · exact .inr ⟨after, unready⟩
    · cases failed
  · simp only [Host.Look.ofDispatch, Duty.after]
    rcases left with unready | ⟨_, awaiting⟩
    · split
      · exact .inr ⟨after, unready⟩
      · exact ⟨after, .inl unready⟩
    · have waiting : h'.engine.pending.isEmpty ≠ true := by
        obtain ⟨_, c, _, one⟩ := awaiting
        rw [ne_eq, Queue.isEmpty_iff, one]
        exact List.cons_ne_nil _ _
      rw [if_neg waiting]
      exact ⟨after, .inr awaiting⟩

/-- While nothing tells of a candidate, a look hands out another event, or it attends to the
detector. -/
theorem look_unready (agrees : Agrees p h) (unready : Unready p h) :
    Meets p (h.look (detector p)).2 (.after (h.look (detector p))) := by
  have agreed := agrees_look agrees
  cases pending : h.engine.pending.toList with
  | cons event events =>
    obtain ⟨left, rest, looked⟩ := look_event (p := p) pending
    rw [looked] at agreed ⊢
    have others : ∀ a, .ready a ∉ event :: events := pending ▸ unready.pending
    have left : Unready p { h with engine := { h.engine with pending := left } } :=
      ⟨unready.attached, unready.phase, unready.found,
        fun a member => others a (List.mem_cons_of_mem event (rest ▸ member))⟩
    cases event with
    | ready a => exact absurd List.mem_cons_self (others a)
    | defended _ | conflict _ | down => exact .inr ⟨agreed, left⟩
  | nil =>
    cases state : h.engine.state with
    | idle =>
      simp only [Host.look, pop_stopped state pending]
      exact .inr ⟨agrees, unready⟩
    | running =>
      by_cases news : (detector p).hasNews h.world = true
      · have quiet := quiet_tell p h.world
        have told : Agrees p ⟨h.engine, h.world.tell p⟩ :=
          ⟨quiet.probers.symm ▸ agrees.1, quiet.prober p ▸ agrees.2⟩
        have still : Unready p ⟨h.engine, h.world.tell p⟩ :=
          ⟨told.1, quiet.prober p ▸ unready.phase, quiet.prober p ▸ unready.found, unready.pending⟩
        have attending : Host.Order.look.attending (detector p) h =
            some ⟨h.engine, h.world.tell p⟩ := by
          rw [Host.Order.attending, if_pos ⟨by rw [pop_done state pending], news⟩]
          rfl
        simp only [Host.look_eq, attending]
        exact meets_dispatch told still state pending
      · simp only [Host.look, pop_done state pending, if_neg news]
        exact .inr ⟨agrees, unready⟩

/-- The only event is handed out. -/
theorem look_awaiting (agrees : Agrees p h) (awaiting : Awaiting p h) :
    Meets p (h.look (detector p)).2 (.after (h.look (detector p))) := by
  have agreed := agrees_look agrees
  obtain ⟨ready, c, probe, pending⟩ := awaiting
  obtain ⟨left, rest, looked⟩ := look_event (p := p) pending
  rw [looked] at agreed ⊢
  exact ⟨agreed, ready, ⟨c, probe, rfl⟩, rest⟩

theorem meets_look (meets : Meets p h d) (handled : ∀ a, d ≠ .handle a) :
    Meets p (h.look (detector p)).2 (.after (h.look (detector p))) := by
  cases d with
  | none =>
    rcases meets with asleep | ⟨agrees, unready⟩
    · simp only [Host.look, pop_stopped asleep.idle asleep.pending]
      exact .inl asleep
    · exact look_unready agrees unready
  | poll =>
    obtain ⟨agrees, unready | awaiting⟩ := meets
    · exact look_unready agrees unready
    · exact look_awaiting agrees awaiting
  | handle a => exact absurd rfl (handled a)

/-- The stream attends to the detector without a look at its descriptor. -/
theorem meets_attend (meets : Meets p h d) (handled : ∀ a, d ≠ .handle a)
    (running : h.engine.state = .running) (none : h.engine.pending.toList = []) :
    Meets p (h.dispatch (detector p)).2
      (.after (.ofDispatch (h.dispatch (detector p)).1, (h.dispatch (detector p)).2)) := by
  cases d with
  | none =>
    rcases meets with asleep | ⟨agrees, unready⟩
    · cases asleep.idle.symm.trans running
    · exact meets_dispatch agrees unready running none
  | poll =>
    obtain ⟨agrees, unready | ⟨_, _, _, one⟩⟩ := meets
    · exact meets_dispatch agrees unready running none
    · cases none.symm.trans one
  | handle a => exact absurd rfl (handled a)

/-! ## Handling -/

/-- Without a candidate that waits for it, handling an event leaves notices and nothing else. -/
theorem handle_refused (meets : Meets p h .none) (event : Event) :
    Quiet h.world (Daemon.handle (detector p) event h).2.world ∧
      (Daemon.handle (detector p) event h).2.engine = h.engine := by
  cases event with
  | defended _ | conflict _ | down => exact ⟨quiet_note _ _, rfl⟩
  | ready a =>
    have noted := quiet_note (.claiming a) h.world
    have same : Meets p (h.note (.claiming a)) .none := Meets.congr meets meets.attached rfl
    obtain ⟨error, refused⟩ := announce_refused same
    simp only [Daemon.handle, refused]
    split
    · exact ⟨noted, rfl⟩
    · exact ⟨noted.trans (quiet_note _ _), rfl⟩

/-- A candidate that waits for its announcement is announced. -/
theorem announce_informed (agrees : Agrees p h) (informed : Informed p a h) :
    ∃ c h', h.engine.probe = some c ∧ c.address = a ∧ h.announce (detector p) = (.ok (), h') ∧
      h'.engine = h.engine ∧ Announcing p c h.world h'.world := by
  obtain ⟨ready, ⟨c, probe, address⟩, _⟩ := informed
  have running : h.engine.state = .running := agrees.2.running.mpr (by simp [ready])
  obtain ⟨d, own, probe'⟩ := agrees.2.probe running
  obtain rfl : c = d := Option.some.inj (probe.symm.trans probe')
  rcases announce_cases p .once h.world with ⟨_, unconfigured⟩ | ⟨ok, d, announcing⟩
  · rw [unconfigured ready] at probe
    cases probe
  · obtain rfl : c = d := Option.some.inj (probe.symm.trans announcing.probe)
    rcases eq : h.world.announce p .once with ⟨r, n⟩
    rw [eq] at ok announcing
    cases ok
    have candidate : h.engine.address = some c.address := by rw [Engine.address, own]; rfl
    refine ⟨c, (⟨h.engine, n⟩ : Host Network).note (.announcing c.address), own, address, ?_, rfl,
      announcing.quiet (quiet_note _ n)⟩
    simp only [Host.announce, running, reduceCtorEq, if_false, detector, eq, candidate]

/-- The event that tells of the candidate that waits is answered by its announcement. -/
theorem handle_informed (agrees : Agrees p h) (informed : Informed p a h) :
    ∃ c h', h.engine.probe = some c ∧ c.address = a ∧
      (h.note (.claiming a)).announce (detector p) = (.ok (), h') ∧
      Daemon.handle (detector p) (.ready a) h = (.ok (), h') ∧
      h'.engine = h.engine ∧ Announcing p c (h.note (.claiming a)).world h'.world := by
  have same : Meets p (h.note (.claiming a)) (.handle a) :=
    Meets.congr (h := h) ⟨agrees, informed⟩ agrees.1 rfl
  obtain ⟨c, h', probe, address, announced, engine, announcing⟩ := announce_informed same.1 same.2
  refine ⟨c, h', probe, address, announced, ?_, engine, announcing⟩
  simp only [Daemon.handle, announced]

/-- Whatever event is handled, the detector stays in place. If the event was the one to handle, its
address is announced; and nothing waits to be announced afterwards. -/
theorem meets_handle (formed : WellFormed h.world) (meets : Meets p h d) {event : Event}
    (due : d = .none ∨ ∃ a, d = .handle a ∧ event = .ready a) :
    WellFormed (Daemon.handle (detector p) event h).2.world ∧
      Meets p (Daemon.handle (detector p) event h).2 .none := by
  rcases due with rfl | ⟨a, rfl, rfl⟩
  · obtain ⟨quiet, same⟩ := handle_refused meets event
    generalize (Daemon.handle (detector p) event h).2 = h' at quiet same ⊢
    obtain ⟨e, n⟩ := h'
    obtain rfl : e = h.engine := same
    exact ⟨quiet.toStill.formed formed,
      meets.congr (quiet.probers.symm ▸ meets.attached) (quiet.prober p)⟩
  · obtain ⟨agrees, informed⟩ := meets
    obtain ⟨c, h', _, _, announced, handled, same, announcing⟩ := handle_informed agrees informed
    have agreed := agrees_announce (h := h.note (.claiming a)) agrees
    rw [announced] at agreed
    rw [handled]
    refine ⟨announcing.formed ((quiet_note _ _).toStill.formed formed),
      .inr ⟨agreed, agreed.1, ?_, ?_, ?_⟩⟩
    · intro ready
      have standing := announcing.announced.1
      rw [ready] at standing
      cases standing
    · exact agreed.2.taken ▸ List.not_mem_nil
    · rw [same]
      exact fun _ => informed.pending ▸ List.not_mem_nil

/-- What the owner of a stream does, and what others do, leaves the engine as the duty says. -/
theorem Streamed.meets (streamed : Streamed p d s) : WellFormed s.network ∧
    ∃ e, s.engines.get? p = some e ∧ Meets p ⟨e, s.network⟩ d := by
  induction streamed with
  | @engage s past allowed run attached unused =>
    have created : s.perform (.engage p) =
        ⟨(Host.create s.network).world, s.engines.insert p (Host.create s.network).engine⟩ := by
      simp only [perform, if_pos (And.intro attached unused)]
    refine ⟨formed_perform run.wellFormed _, {}, ?_⟩
    rw [created]
    exact ⟨Table.get?_insert_self .., .inl ⟨attached, rfl, rfl⟩⟩
  | elsewhere _ act elsewhere ih =>
    obtain ⟨formed, e, engine, meets⟩ := ih
    have happens := happening formed act
    refine ⟨happens.formed formed, e, (engines_perform _ act elsewhere).trans engine, ?_⟩
    exact meets.congr (happens.attached elsewhere meets.attached) (happens.prober elsewhere)
  | @order s _ order owned ih =>
    obtain ⟨formed, e, engine, meets⟩ := ih
    refine ⟨formed_perform formed _, _, engine_order engine order, ?_⟩
    rw [perform_order engine]
    cases order with
    | start config => exact meets_start meets config
    | stop => exact meets_stop meets
    | announce =>
      obtain ⟨error, refused⟩ := announce_refused meets
      simp only [Host.Order.perform, refused]
      exact meets
    | watch =>
      have quiet := quiet_renew p s.network
      exact meets.congr (quiet.probers.symm ▸ meets.attached) (quiet.prober p)
    | dispatch | pop | look => exact owned.elim
  | @look d _ s _ handled left ih =>
    obtain ⟨formed, e, engine, meets⟩ := ih
    refine ⟨formed_perform formed _, _, engine_order engine .look, ?_⟩
    rw [perform_order engine, ← left]
    simp only [duty, engine]
    exact meets_look meets handled
  | @hear d s _ ih =>
    obtain ⟨formed, e, engine, meets⟩ := ih
    have quiet := quiet_tell p s.network
    exact ⟨quiet.formed formed, e, engine,
      meets.congr (quiet.probers.symm ▸ meets.attached) (quiet.prober p)⟩
  | @attend d s e r h _ handled engine running none attended ih =>
    obtain ⟨formed, e', engine', meets⟩ := ih
    obtain rfl := Option.some.inj (engine.symm.trans engine')
    have left := meets_attend meets handled running none
    rw [attended] at left
    refine ⟨formed_perform formed _, _, engine_order engine .dispatch, ?_⟩
    rw [perform_order engine, Host.Order.perform, attended]
    exact left
  | @handle d s _ event due ih =>
    obtain ⟨formed, e, engine, meets⟩ := ih
    simp only [Segment.handle, engine, Table.get?_insert_self]
    obtain ⟨formed', meets'⟩ := meets_handle (h := ⟨e, s.network⟩) formed meets due
    exact ⟨formed', _, rfl, meets'⟩

/-- Every ready event that the owner of a stream is told of is answered by the announcement of
its address, and of no other: it is not refused, and right afterwards the host holds the address
on the link. -/
theorem ready_is_announced (streamed : Streamed p (.handle a) s) :
    ∃ e c, s.engines.get? p = some e ∧ e.probe = some c ∧ c.address = a ∧
      (Host.announce (detector p) (Host.note (.claiming a) ⟨e, s.network⟩)).1 = .ok () ∧
      (Daemon.handle (detector p) (.ready a) ⟨e, s.network⟩).1 = .ok () ∧
      Announced p c (s.handle p (.ready a)).network ∧
      (s.handle p (.ready a)).network.link.owner a = some c.mac := by
  obtain ⟨_, e, engine, agrees, informed⟩ := streamed.meets
  obtain ⟨c, h', probe, address, announced, handled, _, announcing⟩ :=
    handle_informed agrees informed
  refine ⟨e, c, engine, probe, address, by rw [announced], by rw [handled], ?_⟩
  simp only [handle, engine, handled]
  exact ⟨announcing.announced, by rw [announcing.owner, if_pos address]⟩

/-- A claim of another host. -/
def rivalry (offset : UInt16) : Act :=
  .claim ⟨Packet.request, (probeBy 9).mac, .linkLocal offset⟩

/-- An owner whose first candidate was claimed is told of the second one, which is claimed too
before the event is taken and before it is handled, while calls on timers begin to fail. -/
theorem second_candidate_is_announced : ∃ s, Streamed 0 (.handle (.linkLocal 0xf3ec)) s ∧
    ∃ e c, s.engines.get? 0 = some e ∧ e.probe = some c ∧ c.address = .linkLocal 0xf3ec ∧
      (Host.announce (detector 0)
        (Host.note (.claiming (.linkLocal 0xf3ec)) ⟨e, s.network⟩)).1 = .ok () ∧
      (Daemon.handle (detector 0) (.ready (.linkLocal 0xf3ec)) ⟨e, s.network⟩).1 = .ok () ∧
      Announced 0 c (s.handle 0 (.ready (.linkLocal 0xf3ec))).network ∧
      (s.handle 0 (.ready (.linkLocal 0xf3ec))).network.link.owner (.linkLocal 0xf3ec) =
        some c.mac := by
  have run : Run (fun _ _ => True) (trail [.attach, .attach] fresh []) :=
    Run.trail (.fresh {}) _ ⟨trivial, trivial, trivial⟩
  have started : Streamed 0 .none _ :=
    ((Streamed.engage run (by decide +kernel) (by decide +kernel)).order .watch trivial).order
      (.start brief) trivial
  have reselected : Streamed 0 .none _ :=
    (started.elsewhere (rivalry 0xdee9) (by decide)).look (by simp) (by decide +kernel)
  have ended : Streamed 0 .poll _ :=
    (reselected.elsewhere (.pass 10000000) (by decide)).look (by simp) (by decide +kernel)
  have failing := (ended.elsewhere (rivalry 0xf3ec) (by decide)).elsewhere
    (.spoil ⟨[], [⟨0, 9, .code 5⟩], [⟨0, 9, .code 5⟩]⟩) (by decide)
  have told : Streamed 0 (.handle (.linkLocal 0xf3ec)) _ :=
    failing.look (by simp) (by decide +kernel)
  have meanwhile := told.elsewhere (rivalry 0xf3ec) (by decide)
  exact ⟨_, meanwhile, ready_is_announced meanwhile⟩

end LinkLocal.Simulation.Segment
