import LinkLocal.Proofs.Host.Episodes
import LinkLocal.Proofs.Host.Polling
import LinkLocal.Proofs.Host.Unrefused
import LinkLocal.Proofs.Network.Lull

/-! Streams that are tended. Where no call on a timer fails, no dispatch does, and a dispatch leaves
nothing to attend to; a reactor that was told of a timer remembers it for as long as the timer is
readable. So a poll of a stream never fails, and makes its owner wait only when the descriptor is
unreadable or its news have not come to the reactor yet, the last moment of a probe excepted. -/
namespace LinkLocal

theorem Queue.eq_empty {α : Type} {q : Queue α} (none : q.toList = []) : q = {} := by
  obtain ⟨front, back⟩ := q
  simp only [toList, List.append_eq_nil_iff, List.reverse_eq_nil_iff] at none
  obtain ⟨rfl, rfl⟩ := none
  rfl

namespace Simulation

open Network EventStream

variable {p : Nat} {n n' : Network} {h h' : Host Network} {s s' : EventStream Network}

/-! ## Streams that are tended -/

/-- A stream on a network in which no call on a timer fails, with probes that take some time. If its
reactor was told of the timer, then the timer has gone off, and the detector was not attended to
since. -/
structure Tended (p : Nat) (s : EventStream Network) : Prop where
  formed : WellFormed s.host.world
  agrees : Agrees p s.host
  timed : ∀ c ∈ s.host.engine.probe, c.timeoutMsec ≠ 0
  spared : s.host.world.toFail = 0
  told : (s.host.world.link.timer p).told = true →
    s.ready = true ∧ s.host.world.isReadable p = true

theorem Tended.twins (tended : Tended p s) (mail timer : Prop) :
    Twins p ⟨mail, timer, s.ready = true⟩ s.host.world s.host.world :=
  .refl tended.spared tended.told

theorem Tended.beside (tended : Tended p s) :
    Host.Beside (Matched p (s.ready = true)) [] s.host s.host :=
  ⟨.refl _, tended.twins _ _⟩

/-- There are no news of a descriptor that is not readable, and whatever the reactor was told of is
none. -/
theorem hasNews_iff (p : Nat) (n : Network) :
    (detector p).hasNews n = true ↔ (n.link.timer p).told = false ∧ n.isReadable p = true := by
  simp only [detector, hasNews, Timer.hasNews, Timer.untold, isReadable, Timer.isReadable]
  cases (n.link.timer p).told <;> simp

/-- What is left of a host after its detector was attended to. -/
structure Lulled (p : Nat) (h : Host Network) : Prop where
  formed : WellFormed h.world
  spared : h.world.toFail = 0
  timed : ∀ c ∈ h.engine.probe, c.timeoutMsec ≠ 0
  lull : Lull p h.world
  undue : h.world.link.carrier = true → Undue p h.world

/-- What becomes of a network without a probe, as long as no call on a timer fails. -/
private theorem formed_turns (formed : WellFormed n) (spared : n.toFail = 0)
    (turns : (detector p).Turns n n') :
    WellFormed n' ∧ n'.toFail = 0 ∧ n'.link.carrier = n.link.carrier := by
  have conduct (conduct : Conduct p n n') (strokes : Strokes Whatever p n n') :
      WellFormed n' ∧ n'.toFail = 0 ∧ n'.link.carrier = n.link.carrier :=
    ⟨conduct.formed formed, Nat.le_zero.mp (spared ▸ strokes.toFail_le), conduct.apart.carrier⟩
  have keeps := Segment.keeps_conduct p
  have strokes := keeps_strokes p
  cases turns with
  | note x => exact conduct (keeps.note x n) (strokes.note x n)
  | stop => exact conduct (keeps.stop n) (strokes.stop n)
  | dispatch => exact conduct (keeps.dispatch n) (strokes.dispatch n)
  | poll => exact conduct (keeps.poll n) (strokes.poll n)
  | tell => exact conduct (keeps.tell n) (strokes.tell n)
  | renew => exact conduct (keeps.renew n) (strokes.renew n)
  | announce =>
    have fewer : (n.announce p .once).2.toFail = 0 :=
      Nat.le_zero.mp (spared ▸ (strokes_announce p .once n).toFail_le)
    rcases Segment.announce_goes p .once n with conduct | ⟨c, announcing⟩
    · exact ⟨conduct.formed formed, fewer, conduct.apart.carrier⟩
    · exact ⟨announcing.formed formed, fewer, announcing.apart.carrier⟩

theorem lasting_lulled (p : Nat) : Host.Lasting (detector p) (Lulled p) where
  world turns lulled := by
    obtain ⟨formed, spared, timed, lull, undue⟩ := lulled
    obtain ⟨formed', spared', carrier⟩ := formed_turns formed spared turns
    suffices after : Lull p _ ∧ (_ → Undue p _) from ⟨formed', spared', timed, after.1, after.2⟩
    dsimp only at carrier ⊢
    rw [carrier]
    cases turns with
    | note x => exact ⟨lull.of_same rfl rfl rfl, fun up => (undue up).quiet (quiet_note x _)⟩
    | stop =>
      have idle := phase_stop p
      exact ⟨fun working => absurd (idle _) working, fun _ working => absurd (idle _) working⟩
    | dispatch =>
      exact ⟨lull_dispatch formed spared, fun _ => undue_dispatch formed (spared'.trans spared.symm)⟩
    | poll => exact ⟨lull.poll, fun up => (undue up).poll⟩
    | announce => exact ⟨lull.announce .once, fun up => (undue up).announce .once⟩
    | tell => exact ⟨lull.tell, fun up => (undue up).quiet (quiet_tell p _)⟩
    | renew =>
      exact ⟨(sets_renew p _).lull lull rfl, fun up => (undue up).quiet (quiet_renew p _)⟩
  idle lulled := ⟨lulled.formed, lulled.spared, lulled.timed, lulled.lull, lulled.undue⟩
  push _ lulled := ⟨lulled.formed, lulled.spared, lulled.timed, lulled.lull, lulled.undue⟩
  pop _ lulled := ⟨lulled.formed, lulled.spared, lulled.timed, lulled.lull, lulled.undue⟩
  pass {e n c answer n'} probe tried lulled := by
    obtain ⟨formed, spared, timed, lull, undue⟩ := lulled
    have timed' : ∀ c' ∈ (Host.passing c e).probe, c'.timeoutMsec ≠ 0 := by
      intro c' same
      cases same
      exact timed c probe
    change n.start p _ = _ at tried
    have formed' := (conduct_start p { c with address := e.selector.next.1 } n).formed formed
    rw [tried] at formed'
    rcases start_cases p { c with address := e.selector.next.1 } n with
      ⟨fault, eq, _⟩ | ⟨fault, m, eq, less⟩ | ⟨m, eq, begun⟩
    · obtain ⟨-, rfl⟩ := Prod.mk.inj (eq.symm.trans tried)
      exact ⟨formed, spared, timed', lull, undue⟩
    · rw [show n.toFail = 0 from spared] at less
      cases less
    · obtain ⟨-, rfl⟩ := Prod.mk.inj (eq.symm.trans tried)
      exact ⟨formed', begun.toFail.trans spared, timed', begun.lull formed (timed c probe),
        fun up => begun.undue up (timed c probe)⟩
  skip _ lulled := ⟨lulled.formed, lulled.spared, lulled.timed, lulled.lull, lulled.undue⟩

/-- Between two orders to start, the probe of a host takes as long as before. -/
theorem lasting_timed (p : Nat) :
    Host.Lasting (detector p) (Remembers fun _ c => c.timeoutMsec ≠ 0) :=
  lasting_probe p fun _ timed => timed

/-! ## Attending -/

/-- What a host makes of a dispatch depends on nothing but the dispatch. -/
theorem dispatch_congr (same : n'.dispatch p = n.dispatch p) (e : Engine) :
    Host.dispatch (detector p) ⟨e, n'⟩ = Host.dispatch (detector p) ⟨e, n⟩ := by
  have same : (detector p).dispatch n' = (detector p).dispatch n := same
  simp only [Host.dispatch, same]

/-- Nobody was told of the timer after the detector was attended to. If somebody was before, it goes
as if nobody had been. -/
theorem unheard_dispatch (spared : h.world.toFail = 0)
    (told : (h.world.link.timer p).told = true → h.world.isReadable p = true) :
    (((h.dispatch (detector p)).2.world).link.timer p).told = false := by
  have unheard {h : Host Network} (spared : h.world.toFail = 0)
      (untold : (h.world.link.timer p).told ≠ true) :
      (((h.dispatch (detector p)).2.world).link.timer p).told = false := by
    have beside : Host.Beside (Matched p False) [] h h :=
      ⟨.refl _, .refl spared fun heard => absurd heard untold⟩
    have after := (beside.dispatch (mirrors_matched p False)).2.world
    exact Bool.eq_false_iff.mpr fun heard => (after.told heard).1
  by_cases heard : (h.world.link.timer p).told = true
  · have fresh := sets_renew p h.world
    have same : (h.world.renew p).dispatch p = h.world.dispatch p :=
      dispatch_told rfl (told heard) spared
    have untold : ((h.world.renew p).link.timer p).told ≠ true := by
      rw [fresh.timer]
      split <;> nofun
    have renewed := unheard (h := ⟨h.engine, h.world.renew p⟩) (fresh.toFail.trans spared) untold
    rwa [dispatch_congr same] at renewed
  · exact unheard spared heard

theorem Tended.dispatch (tended : Tended p s) :
    Tended p ⟨(s.host.dispatch (detector p)).2, s.ready⟩ := by
  have matched := (tended.beside.dispatch (mirrors_matched p _)).2.world
  refine ⟨(Host.keeps_dispatch (Segment.keeps_conduct p) s.host).formed tended.formed,
    agrees_dispatch tended.agrees, ?_, matched.spared, matched.told⟩
  exact (lasting_timed p).dispatch tended.timed

/-- A stream attends to its detector and forgets what its reactor heard. -/
theorem Tended.attend (tended : Tended p s) :
    Tended p ⟨(s.host.dispatch (detector p)).2, false⟩ := by
  have unheard := unheard_dispatch tended.spared fun heard => (tended.told heard).2
  exact { tended.dispatch with told := fun heard => by cases unheard.symm.trans heard }

/-- A dispatch of a host that is tended does not fail, and a lull follows. -/
theorem Tended.lulled (tended : Tended p s) : (s.host.dispatch (detector p)).1 = .ok () ∧
    Lulled p (s.host.dispatch (detector p)).2 := by
  obtain ⟨h, ready⟩ := s
  obtain ⟨formed, agrees, timed, spared, _⟩ := tended
  have spared' : (h.world.dispatch p).2.toFail = 0 :=
    Nat.le_zero.mp (spared ▸ (strokes_dispatch p h.world).toFail_le)
  have ok := dispatch_ok formed (spared'.trans spared.symm)
  have formed' := (conduct_dispatch p h.world).formed formed
  have lull : Lull p (h.world.dispatch p).2 := lull_dispatch formed spared
  have undue : Undue p (h.world.dispatch p).2 := undue_dispatch formed (spared'.trans spared.symm)
  rcases eq : h.world.dispatch p with ⟨r, n⟩
  rw [eq] at spared' ok formed' lull undue
  subst ok
  obtain ⟨settling, _⟩ := settling_of_dispatch agrees eq
  have settled := Host.settled (detector p) ((detector p).backlog n + 1) ⟨h.engine, n⟩
  simp only [Host.dispatch, show (detector p).dispatch h.world = _ from eq]
  refine ⟨(settle_agrees _ settling ?_).1,
    (lasting_lulled p).settled settled ⟨formed', spared', timed, lull, fun _ => undue⟩⟩
  rw [Queue.length_toList]
  exact Nat.lt_succ_self _

/-- It is the last moment of a probe after a dispatch only if it was so before: a probe that the
dispatch begins takes longer. -/
theorem Tended.verging (tended : Tended p s)
    (verging : Verging p (s.host.dispatch (detector p)).2.world) : Verging p s.host.world := by
  obtain ⟨t, probing, due⟩ := verging
  have proceeds := proceeds_order p s.host .dispatch
  simp only [Host.Order.perform] at proceeds
  rw [proceeds.now] at due
  cases begun : lastBegun (Host.exchanges (detector p) [.dispatch] s.host) with
  | none => exact ⟨t, (proceeds.waits begun t probing).1, due⟩
  | some c =>
    obtain ⟨late, probe⟩ := proceeds.begins c begun t probing
    obtain ⟨_, ⟨_, agree⟩, timed, _, _⟩ := tended.dispatch
    obtain ⟨c', known, probe'⟩ := agree.probe (agree.running.mpr (by simp [probing]))
    obtain rfl : c = c' := Option.some.inj (probe.symm.trans probe')
    have long := shortestDelay_lt_timeout (timed c known)
    omega

/-! ## Dispatches that find nothing -/

/-- There is nothing to take for a host that agrees with its detector. -/
theorem settle_agreed (agrees : Agrees p h) (findings : Nat) :
    Host.settle (detector p) (findings + 1) h = (.ok (), h) := by
  obtain ⟨_, agree⟩ := agrees
  by_cases idle : (h.world.prober p).phase = .idle
  · have state := agree.state_of_idle idle
    simp only [Host.settle, detector, poll_nil agree.taken, if_pos idle, state, reduceCtorEq,
      if_false]
    rw [← state]
  · exact settle_nothing findings agree.taken idle

theorem dispatch_agreed (agrees : Agrees p h) (ok : (h.world.dispatch p).1 = .ok ())
    (same : (h.world.dispatch p).2.prober p = h.world.prober p) :
    h.dispatch (detector p) = (.ok (), ⟨h.engine, (h.world.dispatch p).2⟩) := by
  have attached := (moves_dispatch p h.world).apart.attached
  rcases eq : h.world.dispatch p with ⟨r, n⟩
  rw [eq] at ok same attached
  subst ok
  simp only [Host.dispatch, show (detector p).dispatch h.world = _ from eq]
  exact settle_agreed ⟨attached ▸ agrees.1, same ▸ agrees.2⟩ _

/-- A host without a carrier is at rest after its detector was attended to. -/
theorem idle_carrierless (agrees : Agrees p h) (ok : (h.world.dispatch p).1 = .ok ())
    (lost : h.world.link.carrier = false) :
    ((h.dispatch (detector p)).2.world.prober p).phase = .idle := by
  by_cases idle : (h.world.prober p).phase = .idle
  · have resting := dispatch_resting idle
    rw [dispatch_agreed agrees ok resting]
    exact (congrArg _ resting).trans idle
  have finds := dispatch_carrierless idle lost ok
  have attached := (moves_dispatch p h.world).apart.attached
  rcases eq : h.world.dispatch p with ⟨r, n⟩
  rw [eq] at ok finds attached
  subst ok
  have waiting : (n.prober p).found.toList = [.down] := by rw [finds.found, agrees.2.taken]; rfl
  obtain ⟨found, none, settled⟩ := settle_single (e := h.engine) waiting
  simp only [Host.dispatch, show (detector p).dispatch h.world = _ from eq]
  rw [settled]
  have there : p ∈ n.probers.keys := attached ▸ agrees.1
  have own := prober_onProber_self (fun s : Prober => { s with found }) there
  have idle : ((n.onProber p fun s => { s with found }).prober p).phase = .idle :=
    (congrArg Prober.phase own).trans finds.phase
  have taken : ((n.onProber p fun s => { s with found }).prober p).found.toList = [] :=
    (congrArg (fun s => s.found.toList) own).trans none
  have fallen : Agrees p (Host.goDown ⟨h.engine, n.onProber p fun s => { s with found }⟩) :=
    ⟨(keys_onProber _).symm ▸ there, agree_idle rfl idle taken⟩
  rw [Host.react, settle_agreed fallen 0]
  exact idle

/-- Nothing is left to attend to after a host was attended to. -/
theorem Tended.undue (tended : Tended p s) : Undue p (s.host.dispatch (detector p)).2.world := by
  have lulled := tended.lulled.2
  have carrier := (Host.keeps_dispatch (Segment.keeps_conduct p) s.host).apart.carrier
  cases up : s.host.world.link.carrier with
  | true => exact lulled.undue (carrier.trans up)
  | false =>
    have fewer : (s.host.world.dispatch p).2.toFail = 0 :=
      Nat.le_zero.mp (tended.spared ▸ (strokes_dispatch p s.host.world).toFail_le)
    have ok := dispatch_ok tended.formed (fewer.trans tended.spared.symm)
    exact fun working => absurd (idle_carrierless tended.agrees ok up) working

/-! ## Steps of a stream -/

/-- The reactor hears of the descriptor, or there is nothing to hear. -/
theorem Tended.turn (tended : Tended p s) : Tended p (s.turn (detector p)) := by
  rw [EventStream.turn]
  split
  · next news =>
    have readable := ((hasNews_iff p _).mp news).2
    have quiet := quiet_tell p s.host.world
    refine ⟨quiet.formed tended.formed, ⟨quiet.probers ▸ tended.agrees.1, ?_⟩, tended.timed,
      ?_, fun _ => ⟨rfl, ?_⟩⟩
    · exact (quiet.prober p).symm ▸ tended.agrees.2
    · exact (sets_tell p _).toFail.trans tended.spared
    · exact (isReadable_tell p _).trans readable
  · exact tended

/-! ## Polls -/

/-- A poll attends to the detector, and goes on as one of what is left then. -/
structure Attends (p : Nat) (s : EventStream Network) (r : Host.Look × EventStream Network) :
    Prop where
  none : s.host.engine.pending.toList = []
  running : s.host.engine.state = .running
  ready : s.ready = true
  left : s.attended (detector p) = ⟨(s.host.dispatch (detector p)).2, false⟩
  later : (s.attended (detector p)).poll (detector p) = r
  answers : (s.attended (detector p)).Answers r

/-- A poll of a stream that is tended does not fail. -/
theorem Tended.polled (tended : Tended p s) {r : Host.Look × EventStream Network}
    (poll : s.poll (detector p) = r) : s.Answers r ∨ Attends p s r := by
  have polled := EventStream.polled (detector p) s
  rw [poll] at polled
  cases polled with
  | answer answers => exact .inl answers
  | attended none running ready attended later answers =>
    have left : s.attended (detector p) = ⟨(s.host.dispatch (detector p)).2, false⟩ := by
      rw [EventStream.attended, EventStream.holding, ← Queue.eq_empty none]
    have after := left.trans (by rw [attended])
    exact .inr ⟨none, running, ready, left, after ▸ later, after ▸ answers⟩
  | failed _ attended => cases tended.lulled.1.symm.trans (congrArg Prod.fst attended)

/-- Whoever holds the last of the events that wait agrees with the detector as before. -/
theorem Agrees.twin (agrees : Agrees p h) (attached : n.probers.keys = h.world.probers.keys)
    (prober : n.prober p = h.world.prober p) {left : Queue Event}
    (rest : left.toList <:+ h.engine.pending.toList) :
    Agrees p ⟨{ h.engine with pending := left }, n⟩ := by
  obtain ⟨there, agree⟩ := agrees
  refine ⟨attached ▸ there, ?_⟩
  rw [prober]
  refine ⟨agree.running, agree.taken, agree.probe, fun ready event last => ?_⟩
  obtain ⟨front, whole⟩ := rest
  refine agree.newest ready event ?_
  rw [← whole, List.getLast?_append, last]
  rfl

theorem Tended.holding (tended : Tended p s) {left : Queue Event}
    (rest : left.toList <:+ s.host.engine.pending.toList) : Tended p (s.holding left) :=
  ⟨tended.formed, tended.agrees.twin rfl rfl rest, tended.timed, tended.spared, tended.told⟩

theorem Tended.answers (tended : Tended p s) {r : Host.Look × EventStream Network}
    (answers : s.Answers r) : Tended p r.2 := by
  cases answers with
  | event pending => exact tended.holding ⟨[_], pending.symm⟩
  | ended | pending => exact tended

theorem Tended.poll (tended : Tended p s) : Tended p (s.poll (detector p)).2 := by
  rcases tended.polled rfl with answers | attends
  · exact tended.answers answers
  · exact (attends.left ▸ tended.attend).answers attends.answers

theorem Tended.listens {turned : Bool} {events : List Event} (tended : Tended p s)
    (listens : Listens (detector p) turned s events s') : Tended p s' :=
  listens.preserves Tended.turn Tended.poll tended

/-- What a poll of a stream does. After it has attended to the detector, the descriptor is not
readable, unless it is the last moment of the probe. -/
theorem Tended.polls (tended : Tended p s) : Polls (detector p) (Verging p s.host.world) s := by
  obtain ⟨k, answers, left⟩ : ∃ k, k.Answers (s.poll (detector p)) ∧
      (k = s ∨ k = ⟨(s.host.dispatch (detector p)).2, false⟩) := by
    rcases tended.polled rfl with answers | attends
    · exact ⟨s, answers, .inl rfl⟩
    · exact ⟨_, attends.answers, .inr attends.left⟩
  refine ⟨fun limit => dispatches_le_one _ limit s, poll_ne_again, ?_,
    fun waits => waits_of_pending (Prod.ext waits rfl), ?_, ?_⟩
  all_goals generalize s.poll (detector p) = result at answers ⊢
  · cases answers <;> nofun
  · intro ordinary silent waits
    cases answers with
    | event | ended => cases waits
    | pending _ running unready =>
      rcases left with rfl | rfl
      · refine Bool.eq_false_iff.mpr fun readable => Bool.eq_false_iff.mp silent ?_
        refine (hasNews_iff p _).mpr ⟨Bool.eq_false_iff.mpr fun told => ?_, readable⟩
        cases unready.symm.trans (tended.told told).1
      · have working := tended.dispatch.agrees.2.running.mp running
        refine (tended.lulled.2.lull working).resolve_right fun verging => ?_
        exact ordinary (tended.verging verging)
  · cases answers with
    | ended none idle => exact fun _ => ⟨none, idle⟩
    | event | pending => nofun

end Simulation
end LinkLocal
