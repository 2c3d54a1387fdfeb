import LinkLocal.Proofs.Host.Listening
import LinkLocal.Proofs.Segment.CarrierLoss
import LinkLocal.Proofs.Segment.Claiming
import LinkLocal.Proofs.Segment.Wakeup

/-! Streams on a segment. An owner who asks his stream until it has nothing more after each thing
that happens gets the events, in the same order, that he would get on the same segment if he
attended to the detector whenever its descriptor is readable, and then took all events. The reactor
of the stream may run whenever it does. The two segments may differ in what the tap holds while its
detector is at rest, and in when its timer goes off while there is a carrier; everything else stays
the same, so that all that happens on one of them happens on the other. -/
namespace LinkLocal

/-- Whether a probe that an order begins takes some time. -/
def Host.Order.Timed : Order → Prop
  | .start config => config.timeoutMsec ≠ 0
  | _ => True

namespace Simulation

open Network

variable {p q : Nat} {own : Regard} {told : Prop} {n n' : Network} {h h' : Host Network}

/-! ## Orders -/

/-- A call of another detector is answered alike, and leaves the networks alike. -/
theorem twins_call (other : q ≠ p) (twins : Twins p own n n') (call : Call) :
    Twins p own (call.perform q n) (call.perform q n') := by
  cases call with
  | start c => exact (twins.start q c).1.2
  | stop => exact twins.stop q
  | dispatch => exact (twins.dispatch q fun mine => absurd mine other).2
  | poll => exact (twins.poll q).2
  | announce policy => exact (twins.announce q policy).2

/-- Orders to another host are answered alike, and leave it alike. -/
theorem beside_order (other : q ≠ p) (beside : Host.Beside (Twins p own) [] h h')
    (order : Host.Order) :
    Host.Beside (Twins p own) [] (order.perform (detector q) h)
      (order.perform (detector q) h') := by
  have mirrors : (detector q).Mirrors (Twins p own) := mirrors_twins other
  cases order with
  | start config => exact (beside.start mirrors config).2
  | stop => exact beside.stop mirrors
  | dispatch => exact (beside.dispatch mirrors).2
  | announce => exact (beside.announce mirrors).2
  | pop => exact beside.pop.2
  | watch => exact ⟨beside.engine, beside.world.renew q⟩
  | look =>
    have news : (detector q).hasNews h'.world = (detector q).hasNews h.world := by
      simp only [detector, hasNews, beside.world.timer q other, beside.world.now]
    exact (beside.look mirrors news (beside.world.tell other)).2

/-- What the owner of a stream orders himself does the same with the stream and without it. -/
theorem beside_owned (beside : Host.Beside (Matched p told) [] h h') {order : Host.Order}
    (owned : Segment.Owned order) :
    Host.Beside (Matched p told) [] (order.perform (detector p) h)
      (order.perform (detector p) h') := by
  have mirrors := mirrors_matched p told
  cases order with
  | start config => exact (beside.start mirrors config).2
  | stop => exact beside.stop mirrors
  | announce => exact (beside.announce mirrors).2
  | watch => exact ⟨beside.engine, Twins.renew beside.world p⟩
  | dispatch | pop | look => cases owned

/-- A look at a host that attends to the detector leaves what a dispatch does: the news that it hears
of are used up. -/
theorem Tended.look {ready : Bool} (tended : Tended p ⟨h, ready⟩) :
    ((h.look (detector p)).2.world.link.timer p).told = true →
      ready = true ∧ (h.look (detector p)).2.world.isReadable p = true := by
  rw [Host.look_eq, Host.Order.attending]
  split
  · next h' attending =>
    split at attending
    · next news =>
      cases attending
      have readable := ((hasNews_iff p h.world).mp news.2).2
      have same : Host.dispatch (detector p) ⟨h.engine, (detector p).tell h.world⟩ =
          h.dispatch (detector p) := dispatch_congr (dispatch_tell readable tended.spared) _
      rw [same]
      exact tended.dispatch.told
    · cases attending
  · exact tended.told

/-- A stream that is tended stays so with every order to its host. -/
theorem Tended.order {ready : Bool} (tended : Tended p ⟨h, ready⟩) {order : Host.Order}
    (timed : order.Timed) : Tended p ⟨order.perform (detector p) h, ready⟩ := by
  have beside := tended.beside
  have mirrors := mirrors_matched p (ready = true)
  have told : ((order.perform (detector p) h).world.link.timer p).told = true →
      ready = true ∧ (order.perform (detector p) h).world.isReadable p = true := by
    cases order with
    | start config => exact (beside.start mirrors config).2.world.told
    | stop => exact (beside.stop mirrors).world.told
    | dispatch => exact tended.dispatch.told
    | announce => exact (beside.announce mirrors).2.world.told
    | pop => exact tended.told
    | watch => exact (Twins.renew beside.world p).told
    | look => exact tended.look
  obtain ⟨formed, agrees, brief, spared, _⟩ := tended
  refine ⟨?_, agrees_order agrees order, ?_, ?_, told⟩
  · rcases Segment.order_goes p h order with conduct | ⟨c, announcing⟩
    · exact conduct.formed formed
    · exact announcing.formed formed
  · refine (lasting_timed p).perform brief fun config begin => ?_
    subst begin
    have started := Host.started (detector p) config h
    generalize h.start (detector p) config = result at started
    obtain ⟨r, h'⟩ := result
    cases started with
    | refused | failed => exact brief
    | begun =>
      intro c first
      cases first
      exact timed
  · have strokes := Host.keeps_order (keeps_strokes p) (strokes_announce p) h order
    exact Nat.le_zero.mp (spared ▸ strokes.toFail_le)

namespace Segment

variable {s s' : Segment} {past : List Segment} {e e' : Engine} {act : Act} {acts : List Act}
variable {ready : Bool} {events : List Event} {lists : List (List Event)}

/-! ## What happens -/

/-- An act that leaves the host at a tap in place, with probes that take some time, and lets no call
on a timer fail. -/
def Untroubled (p : Nat) : Act → Prop
  | .spoil faults => FaultRule.left faults.set + FaultRule.left faults.read = 0
  | .drop q => q ≠ p
  | .order q order => q = p → order.Timed
  | _ => True

/-- An act in which nobody attends to the detector at a tap or takes events: both are left to the
stream, or to the loop by hand. -/
def Scheduled (p : Nat) (act : Act) : Prop :=
  Untroubled p act ∧ ∀ order, act = .order p order → Owned order

/-- What the reactor of a stream heard is not left over from before when a probe begins without a
carrier. Nothing else makes the stream attend to what a readable descriptor would not show. -/
def UpToDate (p : Nat) (ready : Bool) (s : Segment) (act : Act) : Prop :=
  ready = true → s.network.link.carrier = false → ¬ act.Attends p s

/-- A segment after the host at a tap was left like this. -/
def leave (p : Nat) (h : Host Network) (s : Segment) : Segment :=
  { network := h.world, engines := s.engines.insert p h.engine }

/-- A segment in whose past no call on a timer failed, and on which none is to fail, with an engine
for the detector at a tap, whose probe takes some time if it has one. -/
structure Streamable (p : Nat) (s : Segment) (e : Engine) : Prop where
  run : ∃ past, Run Engaging (s :: past) ∧ Run Spared (s :: past)
  engine : s.engines.get? p = some e
  spared : s.network.toFail = 0
  timed : ∀ c ∈ e.probe, c.timeoutMsec ≠ 0

/-- What becomes of a segment with a stream, and of what its reactor heard, from when the owner of
the host at a tap begins to stream: anything may be done that no trouble comes from, the reactor
runs, and the stream is polled. -/
inductive Reaches (p : Nat) (s₀ : Segment) : (ready : Bool) → Segment → Prop where
  | watch : Reaches p s₀ false (s₀.perform (.order p .watch))
  | act {ready : Bool} {s : Segment} (reaches : Reaches p s₀ ready s) (act : Act)
      (untroubled : Untroubled p act) : Reaches p s₀ ready (s.perform act)
  | turn {ready : Bool} {s : Segment} {e : Engine} {k : EventStream Network}
      (reaches : Reaches p s₀ ready s) (engine : s.engines.get? p = some e)
      (turn : EventStream.turn (detector p) ⟨⟨e, s.network⟩, ready⟩ = k) :
      Reaches p s₀ k.ready (s.leave p k.host)
  | poll {ready : Bool} {s : Segment} {e : Engine} {r : Host.Look} {k : EventStream Network}
      (reaches : Reaches p s₀ ready s) (engine : s.engines.get? p = some e)
      (poll : EventStream.poll (detector p) ⟨⟨e, s.network⟩, ready⟩ = (r, k)) :
      Reaches p s₀ k.ready (s.leave p k.host)

/-- After each of several acts in a row, the owner of the host at a tap asks his stream until it has
nothing more: the events that he gets each time. The reactor may run in between. -/
inductive Streams (p : Nat) (allowed : Bool → Segment → Act → Prop) :
    (ready : Bool) → List Act → Segment → List (List Event) → Prop where
  | done {ready : Bool} {s : Segment} : Streams p allowed ready [] s []
  | turn {ready : Bool} {acts : List Act} {s : Segment} {e : Engine} {k : EventStream Network}
      {lists : List (List Event)} (engine : s.engines.get? p = some e)
      (turn : EventStream.turn (detector p) ⟨⟨e, s.network⟩, ready⟩ = k)
      (later : Streams p allowed k.ready acts (s.leave p k.host) lists) :
      Streams p allowed ready acts s lists
  | act {ready : Bool} {act : Act} {acts : List Act} {s : Segment} {e : Engine}
      {k : EventStream Network} {events : List Event} {lists : List (List Event)}
      (fits : allowed ready s act) (engine : (s.perform act).engines.get? p = some e)
      (listens : EventStream.Listens (detector p) false ⟨⟨e, (s.perform act).network⟩, ready⟩
        events k)
      (later : Streams p allowed k.ready acts ((s.perform act).leave p k.host) lists) :
      Streams p allowed ready (act :: acts) s (events :: lists)

/-- After each of several acts in a row, the owner of the host at a tap attends to its detector if
the descriptor is readable, and takes all events: the events that he gets each time. -/
def manual (p : Nat) : List Act → Segment → List (List Event)
  | [], _ => []
  | act :: acts, s =>
    match (s.perform act).engines.get? p with
    | none => []
    | some e =>
      let (events, h) := Host.manual (detector p) ⟨e, (s.perform act).network⟩
      events :: manual p acts ((s.perform act).leave p h)

/-! ## Two segments -/

/-- Two segments that are the same but for one tap, and there too as far as it is minded. -/
structure Parallel (p : Nat) (own : Regard) (s s' : Segment) : Prop where
  network : Twins p own s.network s'.network
  engines : ∀ q, Option.Rel (Engine.Ahead []) (s.engines.get? q) (s'.engines.get? q)

/-- Two segments that are the same but for what does not matter to the detector at a tap. -/
def Paired (p : Nat) (told : Prop) (s s' : Segment) : Prop :=
  Parallel p (ownRegard p told s.network) s s'

theorem free_iff {found found' : Option Engine} (same : Option.Rel (Engine.Ahead []) found found') :
    found' = none ↔ found = none := by
  cases same <;> simp

theorem rel_refl (t : Table Nat Engine) (q : Nat) :
    Option.Rel (Engine.Ahead []) (t.get? q) (t.get? q) := by
  cases t.get? q
  · exact .none
  · exact .some (.refl _)

theorem rel_insert {t t' : Table Nat Engine}
    (engines : ∀ q, Option.Rel (Engine.Ahead []) (t.get? q) (t'.get? q)) (ahead : e.Ahead [] e')
    (p q : Nat) :
    Option.Rel (Engine.Ahead []) ((t.insert p e).get? q) ((t'.insert p e').get? q) := by
  rw [Table.get?_insert, Table.get?_insert]
  split
  · exact .some ahead
  · exact engines q

/-- Whatever happens elsewhere happens in both. -/
theorem Parallel.elsewhere (parallel : Parallel p own s s') (formed : WellFormed s.network)
    (untroubled : Untroubled p act) (elsewhere : act.about ≠ some p) :
    Parallel p own (s.perform act) (s'.perform act) := by
  obtain ⟨twins, engines⟩ := parallel
  have other {q : Nat} (elsewhere : some q ≠ some p) : q ≠ p := fun same => elsewhere (same ▸ rfl)
  cases act with
  | attach => exact ⟨twins.attach formed, engines⟩
  | engage q =>
    simp only [perform, twins.probers, free_iff (engines q)]
    split
    · exact ⟨twins.note _ _, rel_insert engines (.refl _) q⟩
    · exact ⟨twins, engines⟩
  | use q call =>
    simp only [perform, free_iff (engines q)]
    split
    · exact ⟨twins_call (other elsewhere) twins call, engines⟩
    · exact ⟨twins, engines⟩
  | order q order =>
    have same := engines q
    simp only [perform]
    generalize s.engines.get? q = found, s'.engines.get? q = found' at same
    cases same with
    | none => exact ⟨twins, engines⟩
    | @some e e' ahead =>
      have beside : Host.Beside (Twins p own) [] ⟨e, s.network⟩ ⟨e', s'.network⟩ := ⟨ahead, twins⟩
      have after := beside_order (other elsewhere) beside order
      exact ⟨after.world, rel_insert engines after.engine q⟩
  | drop q =>
    have same := engines q
    simp only [perform]
    generalize s.engines.get? q = found, s'.engines.get? q = found' at same
    cases same with
    | none => exact ⟨twins.close untroubled, engines⟩
    | @some e e' ahead =>
      have beside : Host.Beside (Twins p own) [] ⟨e, s.network⟩ ⟨e', s'.network⟩ := ⟨ahead, twins⟩
      have stopped := beside.stop (mirrors_twins untroubled)
      refine ⟨(stopped.world.note _ _).close untroubled, fun q' => ?_⟩
      rw [Table.get?_erase, Table.get?_erase]
      split
      · exact .none
      · exact engines q'
  | claim k => exact ⟨twins.claim k, engines⟩
  | occupy a m => exact ⟨twins.occupy a m, engines⟩
  | release a => exact ⟨twins.release a, engines⟩
  | carrier up => exact ⟨twins.setCarrier up, engines⟩
  | pass nanoseconds => exact ⟨twins.advance nanoseconds, engines⟩
  | spoil faults =>
    exact ⟨{ twins with spared := untroubled, spared' := untroubled, create := rfl }, engines⟩

/-- An act about a host that stays is an order to it, or does nothing. -/
theorem untroubled_cases (untroubled : Untroubled p act) :
    act.about ≠ some p ∨ (∃ order, act = .order p order ∧ order.Timed) ∨
      ∀ {s : Segment} {e : Engine}, s.engines.get? p = some e → s.perform act = s := by
  by_cases elsewhere : act.about ≠ some p
  · exact .inl elsewhere
  have about := Decidable.not_not.mp elsewhere
  cases act with
  | engage q =>
    cases about
    exact .inr (.inr fun taken => if_neg fun free => by rw [taken] at free; cases free.2)
  | use q call =>
    cases about
    exact .inr (.inr fun taken => if_neg fun free => by rw [taken] at free; cases free)
  | order q order =>
    cases about
    exact .inr (.inl ⟨order, rfl, untroubled rfl⟩)
  | drop q =>
    cases about
    exact absurd rfl untroubled
  | _ => cases about

/-! ## A stream that is tended -/

/-- A stream that is tended stays so, whatever is done that no trouble comes from. -/
theorem tended_perform (engine : s.engines.get? p = some e)
    (tended : Tended p ⟨⟨e, s.network⟩, ready⟩) (untroubled : Untroubled p act) :
    ∃ e', (s.perform act).engines.get? p = some e' ∧
      Tended p ⟨⟨e', (s.perform act).network⟩, ready⟩ := by
  rcases untroubled_cases untroubled with elsewhere | ⟨order, rfl, timed⟩ | nothing
  · have happens := happening tended.formed act
    have parallel : Parallel p ⟨True, True, ready = true⟩ s s :=
      ⟨tended.twins True True, rel_refl s.engines⟩
    have after := (parallel.elsewhere tended.formed untroubled elsewhere).network
    exact ⟨e, engines_perform s act elsewhere ▸ engine, happens.formed tended.formed,
      ⟨happens.attached elsewhere tended.agrees.1, happens.prober elsewhere ▸ tended.agrees.2⟩,
      tended.timed, after.spared, after.told⟩
  · refine ⟨_, engine_order engine order, ?_⟩
    rw [perform_order engine]
    exact tended.order timed
  · rw [nothing engine]
    exact ⟨e, engine, tended⟩

/-- A stream is tended when its owner begins to stream. -/
theorem Streamable.tended (able : Streamable p s e) :
    (s.perform (.order p .watch)).engines.get? p = some e ∧
      Tended p ⟨⟨e, (s.perform (.order p .watch)).network⟩, false⟩ := by
  obtain ⟨⟨past, run, _⟩, engine, spared, timed⟩ := able
  have formed := formed_perform run.wellFormed (.order p .watch)
  have agrees : Agrees p ⟨e, s.network⟩ := ⟨run.serving engine, run.agree engine⟩
  have twins : Twins p ⟨True, True, False⟩ (s.network.renew p) s.network := twins_renew spared
  refine ⟨engine_order engine .watch, ?_⟩
  rw [perform_order engine] at formed ⊢
  exact ⟨formed, agrees_order agrees .watch, timed, twins.spared,
    fun heard => (twins.told heard).1.elim⟩

theorem Reaches.after {s₀ : Segment} (reaches : Reaches p s₀ ready s)
    (untroubled : ∀ act ∈ acts, Untroubled p act) : Reaches p s₀ ready (after acts s) := by
  induction acts generalizing s with
  | nil => exact reaches
  | cons act acts ih =>
    exact ih (reaches.act act (untroubled act (.head _))) fun act member =>
      untroubled act (.tail _ member)

/-- However far it comes, a stream is tended. The induction is on the steps that lead there. -/
theorem Reaches.tended {s₀ : Segment} (reaches : Reaches p s₀ ready s) (able : Streamable p s₀ e) :
    ∃ e', s.engines.get? p = some e' ∧ Tended p ⟨⟨e', s.network⟩, ready⟩ := by
  induction reaches with
  | watch => exact ⟨e, able.tended⟩
  | act _ act untroubled ih =>
    obtain ⟨e', engine', tended⟩ := ih
    exact tended_perform engine' tended untroubled
  | turn _ found turn ih =>
    obtain ⟨e', engine', tended⟩ := ih
    obtain rfl := Option.some.inj (engine'.symm.trans found)
    exact ⟨_, Table.get?_insert_self .., turn ▸ tended.turn⟩
  | poll _ found poll ih =>
    obtain ⟨e', engine', tended⟩ := ih
    obtain rfl := Option.some.inj (engine'.symm.trans found)
    have left := tended.poll
    rw [poll] at left
    exact ⟨_, Table.get?_insert_self .., left⟩

/-- The detector at a tap looks in time if no call on a timer failed. -/
theorem Run.vigilant (run : Run Spared (s :: past)) (p : Nat) : Vigilant p s.network :=
  run.induction (g := fun s _ => Vigilant p s.network)
    (fun around => ⟨formed_fresh around, fun working => absurd rfl working⟩)
    fun _ _ spared vigilant => vigilant_perform vigilant spared

/-- What the reactor heard holds on, whatever is done: news of before a probe begins do not matter
as long as there is a carrier, and when the carrier drops the descriptor becomes readable. -/
theorem wary_perform (engine : s.engines.get? p = some e) (wary : Wary p ⟨⟨e, s.network⟩, ready⟩)
    (untroubled : Untroubled p act) (fits : UpToDate p ready s act) :
    ∃ e', (s.perform act).engines.get? p = some e' ∧
      Wary p ⟨⟨e', (s.perform act).network⟩, ready⟩ := by
  obtain ⟨e', engine', tended⟩ := tended_perform engine wary.toTended untroubled
  have same : (s.perform act).network.toFail = s.network.toFail :=
    tended.spared.trans wary.spared.symm
  have spared : Spared s act := .inr same
  refine ⟨e', engine', tended, vigilant_perform wary.vigilant spared, fun heard working lost => ?_⟩
  dsimp only at heard working lost
  cases up : s.network.link.carrier with
  | false =>
    exact readable_perform wary.formed spared (fits heard up)
      (fun busy => wary.founded heard busy up) working
  | true =>
    obtain rfl := drops_of_lost wary.formed up lost
    have tap := (wary.formed.attached p).mp wary.agrees.1
    exact (readable_setCarrier up tap).holds same

/-! ## Both ways -/

theorem Paired.engine (paired : Paired p told s s') (engine : s.engines.get? p = some e) :
    ∃ e', s'.engines.get? p = some e' ∧ e.Ahead [] e' := by
  have same := paired.engines p
  rw [engine] at same
  generalize s'.engines.get? p = found at same
  cases same with
  | some ahead => exact ⟨_, rfl, ahead⟩

/-- Whatever is scheduled leaves two segments paired. -/
theorem Paired.perform (paired : Paired p told s s') (engine : s.engines.get? p = some e)
    (formed : WellFormed s.network) (attached : p ∈ s.network.probers.keys)
    (scheduled : Scheduled p act) : Paired p told (s.perform act) (s'.perform act) := by
  obtain ⟨untroubled, owned⟩ := scheduled
  obtain ⟨e', engine', ahead⟩ := paired.engine engine
  rcases untroubled_cases untroubled with elsewhere | ⟨order, rfl, timed⟩ | nothing
  · have same := (happening formed act).prober elsewhere
    have busy : ((s.perform act).network.prober p).phase ≠ .idle →
        (s.network.prober p).phase ≠ .idle := same ▸ id
    obtain ⟨twins, engines⟩ := Parallel.elsewhere paired formed untroubled elsewhere
    refine ⟨?_, engines⟩
    by_cases dropped : s.network.link.carrier = true ∧ act = .carrier false
    · -- Only now the timer begins to matter, and it is set in both.
      obtain ⟨up, rfl⟩ := dropped
      have tap := (formed.attached p).mp attached
      exact (paired.network.dropCarrier up tap).mono busy (fun _ => trivial) id
    · refine twins.mono busy (fun minded => ⟨busy minded.1, ?_⟩) id
      refine Bool.eq_false_iff.mpr fun up => dropped ⟨up, drops_of_lost formed up minded.2⟩
  · have beside : Host.Beside (Matched p told) [] ⟨e, s.network⟩ ⟨e', s'.network⟩ :=
      ⟨ahead, paired.network⟩
    have after := beside_owned beside (owned order rfl)
    rw [perform_order engine, perform_order engine']
    exact ⟨after.world, rel_insert paired.engines after.engine p⟩
  · rw [nothing engine, nothing engine']
    exact paired

/-- Both ways the host gives the same events, and the segments are left paired. -/
theorem Paired.serves {k : EventStream Network} (paired : Paired p (ready = true) s s')
    (engine : s.engines.get? p = some e) (wary : Wary p ⟨⟨e, s.network⟩, ready⟩)
    (vigilant : Vigilant p s'.network)
    (listens : EventStream.Listens (detector p) false ⟨⟨e, s.network⟩, ready⟩ events k) :
    ∃ e', s'.engines.get? p = some e' ∧
      events = (Host.manual (detector p) ⟨e', s'.network⟩).1 ∧
      Paired p (k.ready = true) (s.leave p k.host)
        (s'.leave p (Host.manual (detector p) ⟨e', s'.network⟩).2) ∧
      Vigilant p (Host.manual (detector p) ⟨e', s'.network⟩).2.world := by
  obtain ⟨e', engine', ahead⟩ := paired.engine engine
  have beside : Host.Beside (Matched p (ready = true)) [] ⟨e, s.network⟩ ⟨e', s'.network⟩ :=
    ⟨ahead, paired.network⟩
  obtain ⟨same, after⟩ := wary.serves vigilant beside listens
  refine ⟨e', engine', same, ⟨after.world, rel_insert paired.engines after.engine p⟩, ?_⟩
  have stays := Host.keeps_manual (keeps_vigilant p) ⟨e', s'.network⟩
  exact stays.2 (after.world.spared'.trans paired.network.spared'.symm) vigilant

/-- The reactor of the stream runs, and the loop by hand knows nothing of it. -/
theorem Paired.turn {k : EventStream Network} (paired : Paired p (ready = true) s s')
    (engine : s.engines.get? p = some e)
    (turn : EventStream.turn (detector p) ⟨⟨e, s.network⟩, ready⟩ = k) :
    Paired p (k.ready = true) (s.leave p k.host) s' := by
  subst turn
  obtain ⟨e', engine', ahead⟩ := paired.engine engine
  refine ⟨matched_turn paired.network, fun q => ?_⟩
  rw [leave, EventStream.engine_turn, Table.get?_insert]
  split
  · next own =>
    subst own
    rw [engine']
    exact .some ahead
  · exact paired.engines q

/-- The events of a stream are those of the loop by hand. The induction is on how the stream is
asked: each act leaves the segments paired, and so does each time that the host is served. -/
theorem Paired.streams (paired : Paired p (ready = true) s s') (engine : s.engines.get? p = some e)
    (wary : Wary p ⟨⟨e, s.network⟩, ready⟩) (vigilant : Vigilant p s'.network)
    (scheduled : ∀ act ∈ acts, Scheduled p act)
    (streams : Streams p (UpToDate p) ready acts s lists) : lists = manual p acts s' := by
  induction streams generalizing s' e with
  | done => rfl
  | turn found turn _ ih =>
    obtain rfl := Option.some.inj (engine.symm.trans found)
    exact ih (paired.turn engine turn) (Table.get?_insert_self ..) (turn ▸ wary.turn) vigilant
      scheduled
  | @act ready act acts s e₁ k events lists fits found listens later ih =>
    have first := scheduled act (.head _)
    obtain ⟨e₂, engine₂, wary₂⟩ := wary_perform engine wary first.1 fits
    obtain rfl := Option.some.inj (engine₂.symm.trans found)
    have performed := paired.perform engine wary.formed wary.agrees.1 first
    have spared : Spared s' act :=
      .inr (performed.network.spared'.trans paired.network.spared'.symm)
    obtain ⟨e', engine', rfl, after, vigilant⟩ :=
      performed.serves engine₂ wary₂ (vigilant_perform vigilant spared) listens
    rw [manual, engine']
    refine congrArg _ (ih after (Table.get?_insert_self ..) (wary₂.listens listens) vigilant ?_)
    exact fun act member => scheduled act (.tail _ member)

/-- However a stream is asked, it can be done so that its reactor has heard of nothing each time that
something happens. The induction is on the acts that are still to come. -/
theorem exists_streams (engine : s.engines.get? p = some e)
    (tended : Tended p ⟨⟨e, s.network⟩, false⟩) (scheduled : ∀ act ∈ acts, Scheduled p act) :
    ∃ lists, Streams p (UpToDate p) false acts s lists := by
  induction acts generalizing s e with
  | nil => exact ⟨[], .done⟩
  | cons act acts ih =>
    obtain ⟨e', engine', tended⟩ := tended_perform engine tended (scheduled act (.head _)).1
    obtain ⟨events, ⟨h, ready⟩, listens, unready⟩ := tended.exists_listens rfl
    have left := tended.listens listens
    obtain rfl : ready = false := unready
    obtain ⟨lists, later⟩ := ih (s := (s.perform act).leave p h) (Table.get?_insert_self ..) left
      fun act member => scheduled act (.tail _ member)
    exact ⟨events :: lists, .act nofun engine' listens later⟩

theorem paired_watch (engine : s.engines.get? p = some e) (spared : s.network.toFail = 0) :
    Paired p told (s.perform (.order p .watch)) s := by
  rw [perform_order engine]
  refine ⟨twins_renew spared, fun q => ?_⟩
  rw [Table.get?_insert]
  split
  · next same =>
    subst same
    rw [engine]
    exact .some (.refl e)
  · exact rel_refl s.engines q

/-! ## The loop by hand -/

/-- However far it comes, a stream that is polled attends to the detector at most once, gives an
answer that is no error, makes its owner wait only with nothing to hand out and the engine running,
and ends only with nothing to hand out and the engine idle. If its reactor has heard all that there
is to hear, then the descriptor is unreadable when its owner is made to wait, except at the last
moment of a probe. Asked after each thing that happens until it has nothing more, it gives exactly
the events of the loop by hand, whenever its reactor runs; what is left out are starts without a
carrier while the reactor remembers news of before. -/
theorem stream_is_manual_loop (able : Streamable p s e) :
    (∀ ready s', Reaches p s ready s' → ∃ e', s'.engines.get? p = some e' ∧
      EventStream.Polls (detector p) (Verging p s'.network) ⟨⟨e', s'.network⟩, ready⟩) ∧
    ∀ acts, (∀ act ∈ acts, Scheduled p act) → ∀ lists,
      Streams p (UpToDate p) false acts (s.perform (.order p .watch)) lists ↔
        lists = manual p acts s := by
  obtain ⟨engine, tended⟩ := able.tended
  refine ⟨fun ready s' reaches => ?_, fun acts scheduled lists => ?_⟩
  · obtain ⟨e', engine', tended'⟩ := reaches.tended able
    exact ⟨e', engine', tended'.polls⟩
  · obtain ⟨⟨past, _, unfailing⟩, engine₀, spared, _⟩ := able
    have vigilant := unfailing.vigilant p
    have watched : Vigilant p (s.perform (.order p .watch)).network :=
      vigilant_perform vigilant (.inr (tended.spared.trans spared.symm))
    have wary : Wary p ⟨⟨e, (s.perform (.order p .watch)).network⟩, false⟩ :=
      ⟨tended, watched, nofun⟩
    have same {lists : List (List Event)}
        (streams : Streams p (UpToDate p) false acts (s.perform (.order p .watch)) lists) :
        lists = manual p acts s :=
      (paired_watch engine₀ spared).streams engine wary vigilant scheduled streams
    refine ⟨same, ?_⟩
    rintro rfl
    obtain ⟨lists, streams⟩ := exists_streams engine tended scheduled
    exact same streams ▸ streams

private theorem streamable_equipped : Streamable 0 equipped {} where
  run := ⟨[after [.attach] fresh, fresh],
    Run.trail (.fresh {}) [.attach, .engage 0] (by decide +kernel),
    Run.trail (.fresh {}) [.attach, .engage 0] (by decide +kernel)⟩
  engine := by decide +kernel
  spared := by decide +kernel
  timed := nofun

/-- The host defends its address once and then loses it, and the link goes down. -/
def contest : List Act :=
  [.begin 0 brief, .pass 10000000, .order 0 .announce, .claim rivalClaim, .claim rivalClaim,
    .carrier false]

/-- What the stream hands out in a contest. -/
theorem contest_streams : Streamable 0 equipped {} ∧
    Streams 0 (UpToDate 0) false contest (equipped.perform (.order 0 .watch))
      [[], [.ready (.linkLocal 0xdee9)], [], [.defended rivalClaim], [.conflict rivalClaim],
        [.down]] ∧
    ∃ e, (after contest (equipped.perform (.order 0 .watch))).engines.get? 0 = some e ∧
      EventStream.Polls (detector 0)
        (Verging 0 (after contest (equipped.perform (.order 0 .watch))).network)
        ⟨⟨e, (after contest (equipped.perform (.order 0 .watch))).network⟩, false⟩ := by
  have scheduled : ∀ act ∈ contest, Scheduled 0 act := by
    simp [contest, Scheduled, Untroubled, Act.begin, Host.Order.Timed, Owned, brief]
  have reaches : Reaches 0 equipped false (after contest (equipped.perform (.order 0 .watch))) :=
    Reaches.watch.after fun act member => (scheduled act member).1
  obtain ⟨polls, streams⟩ := stream_is_manual_loop streamable_equipped
  refine ⟨streamable_equipped, (streams contest scheduled _).mpr ?_, polls _ _ reaches⟩
  decide +kernel

/-- A probe comes to its end before the reactor of the stream has run. -/
def punctual : List Act := [.begin 0 brief, .pass 10000000]

private theorem unheard : ∃ ready s' e, Reaches 0 equipped ready s' ∧
    s'.engines.get? 0 = some e ∧ ¬ Verging 0 s'.network ∧
    (EventStream.poll (detector 0) ⟨⟨e, s'.network⟩, ready⟩).1 = .pending ∧
    (detector 0).readable (EventStream.poll (detector 0) ⟨⟨e, s'.network⟩, ready⟩).2.host.world =
      true := by
  have untroubled : ∀ act ∈ punctual, Untroubled 0 act := by
    simp [punctual, Untroubled, Act.begin, Host.Order.Timed, brief]
  have reaches : Reaches 0 equipped false
      (after punctual (equipped.perform (.order 0 .watch))) := Reaches.watch.after untroubled
  have found := engine_order (engine_order streamable_equipped.engine .watch) (.start brief)
  refine ⟨_, _, _, reaches, found, ?_, by decide +kernel, by decide +kernel⟩
  rintro ⟨t, probing, due⟩
  have ends : ((after punctual (equipped.perform (.order 0 .watch))).network.prober 0).phase =
      .probing 10000000 := by decide +kernel
  rw [ends, Phase.probing.injEq] at probing
  subst probing
  exact absurd due (by decide +kernel)

/-- A packet that is not about its address comes to a host at the last moment of its probe. -/
def distraction : List Act :=
  [.begin 0 brief, .pass 9999999, .claim ⟨Packet.request, (probeBy 9).mac, .linkLocal 0x0707⟩]

/-- The stream attends to the packet in vain and makes its owner wait, and that leaves the timer
readable. -/
private theorem distracted : ∃ ready s' e, Reaches 0 equipped ready s' ∧
    s'.engines.get? 0 = some e ∧ (detector 0).hasNews s'.network = false ∧
    (EventStream.poll (detector 0) ⟨⟨e, s'.network⟩, ready⟩).1 = .pending ∧
    (detector 0).readable (EventStream.poll (detector 0) ⟨⟨e, s'.network⟩, ready⟩).2.host.world =
      true := by
  have untroubled : ∀ act ∈ distraction, Untroubled 0 act := by
    simp [distraction, Untroubled, Act.begin, Host.Order.Timed, brief]
  have reaches : Reaches 0 equipped false
      (after distraction (equipped.perform (.order 0 .watch))) := Reaches.watch.after untroubled
  have found := engine_order (engine_order streamable_equipped.engine .watch) (.start brief)
  exact ⟨_, _, _, reaches.turn found rfl, Table.get?_insert_self .., by decide +kernel,
    by decide +kernel, by decide +kernel⟩

/-- The carrier drops while the engine is idle, and then its owner starts it. -/
def darkness : List Act := [.carrier false, .begin 0 brief]

/-- A segment whose carrier dropped after the owner of an idle engine began to stream. -/
def dimmed : Segment := (equipped.perform (.order 0 .watch)).perform (.carrier false)

/-- What is left of the stream that was asked there, after its reactor heard of the carrier. -/
def alarmed : EventStream Network :=
  (EventStream.poll (detector 0) (EventStream.turn (detector 0) ⟨⟨{}, dimmed.network⟩, false⟩)).2

/-- The segment after the engine was started in the dark. -/
def benighted : Segment := (dimmed.leave 0 alarmed.host).perform (.begin 0 brief)

/-- The stream still remembers the alarm, and tells of the loss of the carrier at once; the loop by
hand is silent. -/
private theorem alarmed_streams :
    Streams 0 (fun _ _ _ => True) false darkness (equipped.perform (.order 0 .watch))
      [[], [.down]] ∧ manual 0 darkness equipped = [[], []] := by
  have polled {s : EventStream Network} {r : Host.Look} (answer : (s.poll (detector 0)).1 = r) :
      s.poll (detector 0) = (r, (s.poll (detector 0)).2) := Prod.ext answer rfl
  have first : EventStream.Listens (detector 0) false ⟨⟨{}, dimmed.network⟩, false⟩ [] alarmed :=
    .turn (.ended (polled (by decide +kernel)))
  obtain ⟨e, engine, told, ends⟩ : ∃ e, benighted.engines.get? 0 = some e ∧
      (EventStream.poll (detector 0) ⟨⟨e, benighted.network⟩, alarmed.ready⟩).1 = .event .down ∧
      ((EventStream.poll (detector 0) ⟨⟨e, benighted.network⟩, alarmed.ready⟩).2.poll
        (detector 0)).1 = .ended :=
    ⟨_, engine_order (Table.get?_insert_self ..) _, by decide +kernel, by decide +kernel⟩
  exact ⟨.act trivial (by decide +kernel) first
    (.act trivial engine (.event (polled told) (.ended (polled ends))) .done), by decide +kernel⟩

/-- Each of the exceptions has to be made. An owner may be made to wait with a readable descriptor
before the reactor has run, or at the last moment of a probe although the reactor has heard all that
there is to hear; and the events are others if a probe begins without a carrier on news of before. -/
theorem exceptions_are_needed :
    (¬ ∀ s e, Streamable 0 s e → ∀ ready s', Reaches 0 s ready s' → ∀ e',
      s'.engines.get? 0 = some e' → ¬ Verging 0 s'.network →
      (EventStream.poll (detector 0) ⟨⟨e', s'.network⟩, ready⟩).1 = .pending →
      (detector 0).readable
        (EventStream.poll (detector 0) ⟨⟨e', s'.network⟩, ready⟩).2.host.world = false) ∧
    (¬ ∀ s e, Streamable 0 s e → ∀ ready s', Reaches 0 s ready s' → ∃ e',
      s'.engines.get? 0 = some e' ∧
      EventStream.Polls (detector 0) False ⟨⟨e', s'.network⟩, ready⟩) ∧
    ¬ ∀ s e, Streamable 0 s e → ∀ acts, (∀ act ∈ acts, Scheduled 0 act) → ∀ lists,
      Streams 0 (fun _ _ _ => True) false acts (s.perform (.order 0 .watch)) lists →
        lists = manual 0 acts s := by
  refine ⟨fun polls => ?_, fun polls => ?_, fun streams => ?_⟩
  · obtain ⟨ready, s, e, reaches, engine, ordinary, waits, readable⟩ := unheard
    have unreadable := polls _ _ streamable_equipped ready s reaches e engine ordinary waits
    cases unreadable.symm.trans readable
  · obtain ⟨ready, s, e, reaches, engine, silent, waits, readable⟩ := distracted
    obtain ⟨e', engine', polled⟩ := polls _ _ streamable_equipped ready s reaches
    obtain rfl := Option.some.inj (engine.symm.trans engine')
    cases (polled.unreadable id silent waits).symm.trans readable
  · have scheduled : ∀ act ∈ darkness, Scheduled 0 act := by
      simp [darkness, Scheduled, Untroubled, Act.begin, Host.Order.Timed, Owned, brief]
    have same := streams _ _ streamable_equipped darkness scheduled _ alarmed_streams.1
    rw [alarmed_streams.2] at same
    cases same

end Segment
end Simulation
end LinkLocal
