import LinkLocal.Proofs.Host.Agreement
import LinkLocal.Proofs.Host.Orders
import LinkLocal.Proofs.Network.Solitary

/-! The episodes in the life of a host whose detector is alone on its link. It probes a
candidate; then it has the candidate to offer to its owner, or probes the next one, or has
fallen because the next probe was refused; and what its owner has taken it keeps. Calls on the
timer may fail at any time: a failure to read it is told to the owner and changes nothing else,
and a failure to set it is what makes a host fall. -/
namespace LinkLocal.Simulation

open Network

variable {p i t : Nat} {h h' : Host Network} {n n' : Network} {config : Config}

/-! ## Episodes -/

/-- The host probes a candidate until a time, of which its owner was not told yet. -/
structure Probing (p : Nat) (config : Config) (i t : Nat) (h : Host Network) : Prop where
  solitary : Solitary p h.world
  prober : h.world.prober p = ⟨.probing t, some (probeAt config i), {}⟩
  untold : (h.world.link.timer p).untold = some t
  running : h.engine.state = .running
  probe : h.engine.probe = some (probeAt config i)
  position : h.engine.selector = config.position i
  pending : h.engine.pending.toList = []

/-- The host has a candidate for its owner. -/
structure Offering (p : Nat) (config : Config) (i : Nat) (h : Host Network) : Prop where
  solitary : Solitary p h.world
  unheard : Unheard p h.world
  phase : (h.world.prober p).phase = .ready
  probe : (h.world.prober p).probe = some (probeAt config i)
  running : h.engine.state = .running
  pending : h.engine.pending.toList = [.ready (config.candidate i)]

/-- The host has announced a candidate and waits for nothing. -/
structure Settled (p : Nat) (h : Host Network) : Prop where
  unheard : Unheard p h.world
  running : h.engine.state = .running
  pending : h.engine.pending.toList = []

/-- The host is at rest, with these events for its owner. -/
structure Resting (p : Nat) (events : List Event) (h : Host Network) : Prop where
  solitary : Solitary p h.world
  phase : (h.world.prober p).phase = .idle
  idle : h.engine.state = .idle
  pending : h.engine.pending.toList = events

theorem Probing.note (probing : Probing p config i t h) (x : Notice) :
    Probing p config i t (h.note x) :=
  ⟨probing.solitary.note x, probing.prober, probing.untold, probing.running, probing.probe,
    probing.position, probing.pending⟩

theorem Probing.advanceTo (probing : Probing p config i t h) (time : Nat) :
    Probing p config i t ⟨h.engine, h.world.advanceTo time⟩ :=
  ⟨probing.solitary.advanceTo time, probing.prober, probing.untold, probing.running,
    probing.probe, probing.position, probing.pending⟩

theorem Resting.note {events : List Event} (resting : Resting p events h) (x : Notice) :
    Resting p events (h.note x) :=
  ⟨resting.solitary.note x, resting.phase, resting.idle, resting.pending⟩

theorem Resting.advanceTo {events : List Event} (resting : Resting p events h) (time : Nat) :
    Resting p events ⟨h.engine, h.world.advanceTo time⟩ :=
  ⟨resting.solitary.advanceTo time, resting.phase, resting.idle, resting.pending⟩

/-- Between two networks nothing was announced, and no address was given or taken. -/
structure Unmoved (n n' : Network) : Prop extends Silent n n' where
  owner : ∀ a, n'.link.owner a = n.link.owner a

namespace Unmoved

theorem refl (n : Network) : Unmoved n n := ⟨.refl n, fun _ => rfl⟩

theorem trans {n'' : Network} (first : Unmoved n n') (second : Unmoved n' n'') :
    Unmoved n n'' :=
  ⟨first.toSilent.trans second.toSilent, fun a => (second.owner a).trans (first.owner a)⟩

theorem note {x : Notice} (other : x.announced? = none) (n : Network) : Unmoved n (n.note x) :=
  ⟨.note other n, fun _ => rfl⟩

/-- A detector that defends nothing leaves the addresses alone. -/
theorem of_work (moves : Moves p n n') (strokes : Strokes Notice.Plain p n n')
    (silent : ∀ c, ¬ Announced p c n) : Unmoved n n' :=
  ⟨.of_work moves strokes, moves.owner_of_silent silent⟩

end Unmoved

/-- What has to go wrong for a probe to be refused to a host at rest: a call on the timer fails,
or the clock comes to its end. -/
def Hindered (config : Config) (n n' : Network) : Prop :=
  n'.toFail < n.toFail ∨ clockRange ≤ n.now + probeTime config

theorem not_announced_probing {c : Probe} (phase : (n.prober p).phase = .probing t) :
    ¬ Announced p c n := by
  simp [Announced, phase, Phase.isAnnounced]

/-! ## Beginning to probe -/

/-- A solitary detector at rest is refused a probe, or begins it. -/
theorem start_resting (solitary : Solitary p n) (idle : (n.prober p).phase = .idle)
    (valid : config.validate = .ok ()) (i : Nat) :
    (∃ fault n', n.start p (probeAt config i) = (.error fault, n') ∧ Hindered config n n' ∧
        Unmoved n n' ∧ Solitary p n' ∧ n'.prober p = n.prober p) ∨
      ∃ n', n.start p (probeAt config i) = (.ok (), n') ∧ Unmoved n n' ∧ Solitary p n' ∧
        n'.prober p = ⟨.probing (n.now + probeTime config), some (probeAt config i), {}⟩ ∧
        (n'.link.timer p).untold = some (n.now + probeTime config) := by
  have moves := moves_start p (probeAt config i) n
  have strokes := strokes_start (p := p) (probeAt config i) n
  have tells := tells_start p (probeAt config i) n
  have own := start_own solitary.attached (probeAt config i)
  have after := solitary.work moves strokes
  have silent (c : Probe) : ¬ Announced p c n := not_announced_of_idle idle
  have unmoved : Unmoved n (n.start p (probeAt config i)).2 := by
    refine ⟨⟨moves.apart.now, ?_, strokes.toFail_le⟩, moves.owner_of_silent silent⟩
    rcases tells with ⟨_, tells⟩ | ⟨_, _, tells⟩
    · exact tells.announcements_eq (by simp)
    · exact tells.announcements_eq List.not_mem_nil
  rcases start_cases p (probeAt config i) n with ⟨fault, eq, refuses⟩ | ⟨fault, n', eq, less⟩ |
    ⟨n', eq, begun⟩
  · refine .inl ⟨fault, n, eq, .inr ?_, .refl n, solitary, rfl⟩
    by_contra early
    exact not_refuses valid idle (Nat.not_le.mp early) refuses
  · rw [eq] at unmoved after
    refine .inl ⟨fault, n', eq, .inl less, unmoved, after, ?_⟩
    rcases own with ⟨_, _, eq', same⟩ | ⟨_, _, eq', _⟩
    · cases eq.symm.trans eq'
      exact same
    · cases eq.symm.trans eq'
  · rw [eq] at unmoved after
    refine .inr ⟨n', eq, unmoved, after, begun.prober solitary.attached, ?_⟩
    have underway := begun.underway after.formed solitary.attached solitary.tap solitary.carrier
    have goes := underway.expiry
    rw [GoesOff, begun.apart.now, begun.timer solitary.tap] at goes
    rw [begun.timer solitary.tap]
    exact goes

/-- A host at rest is refused its run, or begins it with the first candidate. -/
theorem host_start_resting (resting : Resting p [] h) (valid : config.validate = .ok ()) :
    (∃ e h', h.start (detector p) config = (.error e, h') ∧ Hindered config h.world h'.world ∧
        Unmoved h.world h'.world) ∨
      ∃ h', h.start (detector p) config = (.ok (), h') ∧ Unmoved h.world h'.world ∧
        Probing p config 0 (h.world.now + probeTime config) h' := by
  have first : Host.firstProbe config = probeAt config 0 := by
    rw [Host.firstProbe, config.firstCandidate_eq]
    rfl
  have behind : (Host.firstCandidate config).2 = config.position 0 := by
    rw [config.firstCandidate_eq]
  have tried := start_resting resting.solitary resting.phase valid 0
  have started := Host.started (detector p) config h
  rcases eq : h.start (detector p) config with ⟨r, h'⟩
  rw [eq] at started
  cases started with
  | refused error reason =>
    rcases reason with running | waiting | invalid
    · rw [resting.idle] at running; cases running
    · exact absurd resting.pending waiting
    · exact absurd valid invalid
  | @failed fault n _ _ _ failed =>
    rw [first] at failed
    rw [show h.world.start p _ = _ from failed] at tried
    rcases tried with ⟨_, _, same, hindered, unmoved, _, _⟩ | ⟨_, ok, _⟩
    · cases same
      exact .inl ⟨_, _, rfl, hindered, unmoved⟩
    · cases ok
  | @begun n _ _ _ begun =>
    rw [first] at begun
    rw [show h.world.start p _ = _ from begun] at tried
    rcases tried with ⟨_, _, failed, _⟩ | ⟨_, ok, unmoved, solitary, prober, untold⟩
    · cases failed
    · cases ok
      exact .inr ⟨_, rfl, unmoved.trans (.note (by rfl) _), solitary.note _, prober, untold, rfl,
        congrArg some first, behind, resting.pending⟩

/-! ## The end of a probe -/

/-- A solitary detector whose probe is over cannot read its timer, or finds out about its
address. -/
theorem dispatch_over {c : Probe} (solitary : Solitary p n) (unheard : Unheard p n)
    (prober : n.prober p = ⟨.probing t, some c, {}⟩) (due : t ≤ n.now) :
    (∃ fault n', n.dispatch p = (.error (.io fault), n') ∧ Unmoved n n' ∧
        n'.toFail < n.toFail) ∨
      ∃ n', n.dispatch p = (.ok (), n') ∧ Unmoved n n' ∧ Solitary p n' ∧ Unheard p n' ∧
        (Free c n ∧ (n.prober p).Finds [.ready] .ready (n'.prober p) ∨
          ¬ Free c n ∧ ∃ k, (n.prober p).Finds [.used k] .idle (n'.prober p)) := by
  have phase : (n.prober p).phase = .probing t := by rw [prober]
  have moves := moves_dispatch p n
  have strokes := strokes_dispatch p n
  have unmoved := Unmoved.of_work moves strokes fun c => not_announced_probing phase
  have after := solitary.work moves strokes
  rcases drained : n.drain p with ⟨fault | u, n₁⟩
  · have eq : n.dispatch p = (.error (.io fault), n₁) := by rw [dispatch, drained]
    rw [eq] at unmoved
    refine .inl ⟨fault, n₁, eq, unmoved, ?_⟩
    rcases drain_cases p n with ⟨_, _, failed, less⟩ | ⟨_, ok, _⟩
    · rw [drained, Prod.mk.injEq] at failed
      rw [failed.2]
      exact less
    · rw [drained] at ok
      cases ok
  · have eq := dispatch_eq_conclude drained (by rw [phase]; simp) (by rw [prober]) solitary.carrier
      solitary.silence
    have quiet := quiet_of_drained drained
    have still := unheard_of_drained unheard drained
    rw [eq] at unmoved after
    have same : (n₁.onLink (.clearInbox p)).prober p = n.prober p := quiet.prober p
    have timer : (n₁.onLink (.clearInbox p)).link.timer p = n₁.link.timer p := timer_clearInbox ..
    have owner : ∀ a, (n₁.onLink (.clearInbox p)).link.owner a = n.link.owner a := quiet.owner
    have now : (n₁.onLink (.clearInbox p)).now = n.now := quiet.now
    generalize n₁.onLink (.clearInbox p) = m at *
    have probing : (m.prober p).phase = .probing t := by rw [same, phase]
    obtain ⟨ok, outcome⟩ := conclude_due (c := c) probing (by omega)
    have free : Free c m ↔ Free c n := by simp only [Free, owner]
    rw [free, same] at outcome
    refine .inr ⟨_, eq.trans (Prod.ext ok rfl), unmoved, after, ?_, outcome⟩
    have kept := timer_conclude (c := c) probing (by omega)
    rw [timer] at kept
    exact still.of_timer kept

/-- A host takes the one thing that its detector has found, and then does about it what has to be
done. -/
theorem take_single {e : Engine} {f : Detection} (solitary : Solitary p n)
    (silent : ∀ c, ¬ Announced p c n) (found : (n.prober p).found.toList = [f]) :
    ∃ m left, Host.settle (detector p) ((detector p).backlog n + 1) ⟨e, n⟩ =
        Host.settle (detector p) 1 (Host.react (detector p) f ⟨e, m⟩) ∧
      Unmoved n m ∧ Solitary p m ∧ m.link = n.link ∧
      m.prober p = { n.prober p with found := left } ∧ left.toList = [] := by
  obtain ⟨left, taken, settled⟩ := settle_single (e := e) found
  have moves : Moves p n (n.onProber p fun s => { s with found := left }) :=
    (Moves.refl n).move (.find fun _ => left)
  have strokes : Strokes Notice.Plain p n (n.onProber p fun s => { s with found := left }) :=
    (Strokes.refl n).stroke (.change _)
  exact ⟨_, left, settled, .of_work moves strokes silent, solitary.work moves strokes, rfl,
    prober_onProber_self _ solitary.attached, taken⟩

/-- The candidate is free: the host has it for its owner. -/
theorem offering_of_ready {e : Engine} (running : e.state = .running)
    (probe : e.probe = some (probeAt config i)) (pending : e.pending.toList = [])
    (solitary : Solitary p n) (unheard : Unheard p n) (phase : (n.prober p).phase = .ready)
    (probed : (n.prober p).probe = some (probeAt config i))
    (found : (n.prober p).found.toList = [.ready]) :
    ∃ h', Host.settle (detector p) ((detector p).backlog n + 1) ⟨e, n⟩ = (.ok (), h') ∧
      Unmoved n h'.world ∧ Offering p config i h' := by
  obtain ⟨m, left, settled, unmoved, after, link, prober, taken⟩ := take_single (e := e) solitary
    (by simp [Announced, phase, Phase.isAnnounced]) found
  have address : e.address = some (config.candidate i) := by rw [Engine.address, probe]; rfl
  have same : (m.note (.ready (config.candidate i))).prober p =
      { n.prober p with found := left } := prober
  rw [settled]
  simp only [Host.react, address]
  rw [settle_nothing 0]
  · refine ⟨_, rfl, unmoved.trans (.note (by rfl) _), after.note _, ?_, ?_, ?_, running, ?_⟩
    · exact unheard.of_timer (.inr (congrArg (Link.timer p) link))
    · exact (congrArg Prober.phase same).trans phase
    · exact (congrArg Prober.probe same).trans probed
    · exact (Queue.toList_push _ _).trans (congrArg (· ++ [_]) pending)
  · exact (congrArg (fun s => (Prober.found s).toList) same).trans taken
  · exact (congrArg Prober.phase same).trans phase ▸ by simp

/-- A host at rest, whose detector has nothing to tell, changes nothing. -/
theorem settle_resting {events : List Event} (resting : Resting p events h)
    (taken : (h.world.prober p).found.toList = []) :
    Host.settle (detector p) (0 + 1) h = (.ok (), h) := by
  simp only [Host.settle, detector, poll_nil taken, if_pos resting.phase, resting.idle,
    reduceCtorEq, if_false]
  rw [← resting.idle]

/-- A host falls whose detector is at rest, and tells its owner. -/
theorem resting_goDown (solitary : Solitary p h.world) (phase : (h.world.prober p).phase = .idle)
    (pending : h.engine.pending.toList = []) : Resting p [.down] h.goDown where
  solitary := solitary.note .wentDown
  phase := phase
  idle := rfl
  pending := (Queue.toList_push ..).trans (congrArg (· ++ [_]) pending)

/-- A host whose detector has come to rest probes its next candidate, or falls because that is
refused. -/
theorem reselect_resting {e : Engine} (valid : config.validate = .ok ())
    (running : e.state = .running) (probe : e.probe = some (probeAt config i))
    (position : e.selector = config.position i) (pending : e.pending.toList = [])
    (solitary : Solitary p n) (phase : (n.prober p).phase = .idle)
    (taken : (n.prober p).found.toList = []) :
    Unmoved n (Host.reselect (detector p) ⟨e, n⟩).world ∧
      (Probing p config (i + 1) (n.now + probeTime config) (Host.reselect (detector p) ⟨e, n⟩) ∨
        Resting p [.down] (Host.reselect (detector p) ⟨e, n⟩) ∧
          ((Host.reselect (detector p) ⟨e, n⟩).world.prober p).found.toList = [] ∧
          Hindered config n (Host.reselect (detector p) ⟨e, n⟩).world ∧
          ∃ fault rest, (Host.reselect (detector p) ⟨e, n⟩).world.journal = (n.now, .wentDown) ::
            (n.now, .restartFailed (config.candidate (i + 1)) fault) :: rest) := by
  have next : { probeAt config i with address := e.selector.next.1 } = probeAt config (i + 1) := by
    rw [position, config.next_position]
    rfl
  have tried := start_resting solitary phase valid (i + 1)
  have reselected := Host.reselected (detector p) ⟨e, n⟩
  generalize Host.reselect (detector p) ⟨e, n⟩ = h' at reselected ⊢
  cases reselected with
  | @begun c n' probe' begun =>
    cases probe.symm.trans probe'
    rw [next] at begun
    rw [show n.start p _ = _ from begun] at tried
    rcases tried with ⟨_, _, failed, _⟩ | ⟨_, ok, unmoved, alone, prober, untold⟩
    · cases failed
    · cases ok
      have behind : e.selector.next.2 = config.position (i + 1) := by
        rw [position, config.next_position]
      exact ⟨unmoved.trans (.note (by rfl) _), .inl
        ⟨alone.note _, prober, untold, running, congrArg some next, behind, pending⟩⟩
  | @failed c fault n' probe' failed =>
    cases probe.symm.trans probe'
    rw [next] at failed
    rw [show n.start p _ = _ from failed] at tried
    rcases tried with ⟨_, _, same, hindered, unmoved, alone, prober⟩ | ⟨_, ok, _⟩
    · cases same
      have address : e.selector.next.1 = config.candidate (i + 1) := congrArg Probe.address next
      have fallen := resting_goDown (h := (⟨Host.passing (probeAt config i) e, n'⟩ :
        Host Network).note (.restartFailed e.selector.next.1 fault)) (alone.note _)
        (show (n'.prober p).phase = .idle from prober ▸ phase) pending
      refine ⟨(unmoved.trans (.note (by rfl) _)).trans (.note (by rfl) _), .inr
        ⟨fallen, ?_, hindered, fault, n'.journal, ?_⟩⟩
      · exact (congrArg (·.found.toList) prober).trans taken
      · rw [← address, ← unmoved.now]
        rfl
    · cases ok
  | unconfigured nothing => cases probe.symm.trans nothing

/-- The candidate is taken: the host probes the next one, or falls because that is refused. -/
theorem probing_or_fallen_of_used {k : Packet} {e : Engine} (valid : config.validate = .ok ())
    (running : e.state = .running) (probe : e.probe = some (probeAt config i))
    (position : e.selector = config.position i) (pending : e.pending.toList = [])
    (solitary : Solitary p n) (phase : (n.prober p).phase = .idle)
    (found : (n.prober p).found.toList = [.used k]) :
    ∃ h', Host.settle (detector p) ((detector p).backlog n + 1) ⟨e, n⟩ = (.ok (), h') ∧
      Unmoved n h'.world ∧
      (Probing p config (i + 1) (n.now + probeTime config) h' ∨
        Resting p [.down] h' ∧ Hindered config n h'.world ∧ ∃ fault rest, h'.world.journal =
          (n.now, .wentDown) ::
            (n.now, .restartFailed (config.candidate (i + 1)) fault) :: rest) := by
  obtain ⟨m, left, settled, unmoved, after, _, prober, taken⟩ := take_single (e := e) solitary
    (fun c => not_announced_of_idle phase) found
  have reacted : Host.react (detector p) (.used k) ⟨e, m⟩ =
    Host.reselect (detector p) ⟨e, m.note (.inUse k)⟩ := rfl
  rw [settled, reacted]
  replace after := after.note (.inUse k)
  have before : Unmoved n (m.note (.inUse k)) := unmoved.trans (.note (by rfl) _)
  replace prober : (m.note (.inUse k)).prober p = { n.prober p with found := left } := prober
  generalize m.note (.inUse k) = m' at reacted after before prober ⊢
  obtain ⟨unmoved, outcome⟩ := reselect_resting valid running probe position pending after
    (prober ▸ phase) (prober ▸ taken)
  generalize Host.reselect (detector p) ⟨e, m'⟩ = h' at unmoved outcome ⊢
  rw [before.now] at outcome
  rcases outcome with probing | ⟨fallen, nothing, hindered, refused⟩
  · rw [settle_nothing 0 (probing.prober ▸ rfl) (probing.prober ▸ by simp)]
    exact ⟨h', rfl, before.trans unmoved, .inl probing⟩
  · rw [settle_resting fallen nothing]
    refine ⟨h', rfl, before.trans unmoved, .inr ⟨fallen, ?_, refused⟩⟩
    refine hindered.imp (lt_of_lt_of_le · before.toFail) fun late => ?_
    rwa [before.now] at late

/-! ## Looking at the stream -/

theorem pop_done (running : h.engine.state = .running) (pending : h.engine.pending.toList = []) :
    h.pop = (.done, h) := by
  have popped := (Queue.pop?_eq_none_iff _).mpr pending
  simp only [Host.pop, Engine.pop, popped, running]

theorem pop_stopped (idle : h.engine.state = .idle) (pending : h.engine.pending.toList = []) :
    h.pop = (.stopped, h) := by
  have popped := (Queue.pop?_eq_none_iff _).mpr pending
  simp only [Host.pop, Engine.pop, popped, idle]

theorem look_pending (running : h.engine.state = .running) (pending : h.engine.pending.toList = [])
    (quiet : ∀ t, (h.world.link.timer p).untold = some t → h.world.now < t) :
    h.look (detector p) = (.pending, h) := by
  have none : (detector p).hasNews h.world = false := by
    change (h.world.link.timer p).untold.any (· ≤ h.world.now) = false
    cases untold : (h.world.link.timer p).untold with
    | none => rfl
    | some t => simpa using quiet t untold
  simp only [Host.look, pop_done running pending, none, Bool.false_eq_true, if_false]

theorem look_ended (resting : Resting p [] h) : h.look (detector p) = (.ended, h) := by
  simp only [Host.look, pop_stopped resting.idle resting.pending]

/-- An event is handed out, and nothing else happens. -/
theorem look_event {event : Event} {events : List Event}
    (pending : h.engine.pending.toList = event :: events) :
    ∃ left : Queue Event, left.toList = events ∧
      h.look (detector p) =
        (.event event, { h with engine := { h.engine with pending := left } }) := by
  rcases popped : h.engine.pending.pop? with _ | ⟨event', left⟩
  · rw [Queue.pop?_eq_none_iff, pending] at popped
    cases popped
  · have held := Queue.toList_of_pop? popped
    rw [pending, List.cons.injEq] at held
    obtain ⟨rfl, rest⟩ := held
    refine ⟨left, rest.symm, ?_⟩
    simp only [Host.look, Host.pop, Engine.pop, popped]

/-- Telling of a timer changes nothing else. -/
theorem Unmoved.tell (p : Nat) (n : Network) : Unmoved n (n.tell p) :=
  ⟨⟨rfl, announcements_congr rfl, (strokes_tell p n).toFail_le⟩, (quiet_tell p n).owner⟩

/-- What the owner of a host can see who looks when a probe is over. -/
inductive Concluded (p : Nat) (config : Config) (i : Nat) (h : Host Network) :
    Host.Look → Host Network → Prop where
  /-- The timer cannot be read. -/
  | failed {error : Error} {h' : Host Network} (same : h'.engine = h.engine)
      (fewer : h'.world.toFail < h.world.toFail) : Concluded p config i h (.failed error) h'
  | offering {h' : Host Network} (free : Free (probeAt config i) h.world)
      (offering : Offering p config i h') : Concluded p config i h .again h'
  | next {h' : Host Network} (taken : ¬ Free (probeAt config i) h.world)
      (probing : Probing p config (i + 1) (h.world.now + probeTime config) h') :
      Concluded p config i h .again h'
  /-- The next probe is refused. -/
  | fallen {h' : Host Network} {fault : DetectorFault} {rest : List (Nat × Notice)}
      (taken : ¬ Free (probeAt config i) h.world) (fallen : Resting p [.down] h')
      (hindered : Hindered config h.world h'.world)
      (refused : h'.world.journal = (h.world.now, .wentDown) ::
        (h.world.now, .restartFailed (config.candidate (i + 1)) fault) :: rest) :
      Concluded p config i h .again h'

theorem Probing.look (probing : Probing p config i t h) (valid : config.validate = .ok ())
    (due : t ≤ h.world.now) : Unmoved h.world (h.look (detector p)).2.world ∧
      Concluded p config i h (h.look (detector p)).1 (h.look (detector p)).2 := by
  have news : (detector p).hasNews h.world = true := by
    change (h.world.link.timer p).untold.any (· ≤ h.world.now) = true
    rw [probing.untold]
    simpa using due
  have quiet := quiet_tell p h.world
  have told := Unmoved.tell p h.world
  have prober : (h.world.tell p).prober p = ⟨.probing t, some (probeAt config i), {}⟩ :=
    (quiet.prober p).trans probing.prober
  have nothing : ((h.world.tell p).prober p).found.toList = [] := by
    rw [prober]
    exact Queue.toList_empty
  have free : Free (probeAt config i) (h.world.tell p) ↔ Free (probeAt config i) h.world := by
    simp only [Free, quiet.owner]
  have attended := dispatch_over (probing.solitary.quiet quiet)
    (unheard_tell probing.solitary.tap probing.untold due) prober due
  simp only [Host.look, pop_done probing.running probing.pending, news, if_true, Host.dispatch]
  rcases attended with ⟨fault, n, eq, unmoved, less⟩ | ⟨n, eq, unmoved, alone, still, outcome⟩
  · simp only [show (detector p).dispatch ((detector p).tell h.world) = _ from eq]
    exact ⟨(told.trans unmoved).trans (.note (by rfl) _), .failed rfl less⟩
  · simp only [show (detector p).dispatch ((detector p).tell h.world) = _ from eq]
    have before := told.trans unmoved
    rw [free] at outcome
    rcases outcome with ⟨free, finds⟩ | ⟨taken, k, finds⟩
    · have found := finds.found
      rw [nothing, List.nil_append] at found
      obtain ⟨h', settles, later, offering⟩ := offering_of_ready probing.running probing.probe
        probing.pending alone still finds.phase (finds.probe.trans (by rw [prober])) found
      rw [settles]
      exact ⟨before.trans later, .offering free offering⟩
    · have found := finds.found
      rw [nothing, List.nil_append] at found
      obtain ⟨h', settles, later, outcome⟩ := probing_or_fallen_of_used valid probing.running
        probing.probe probing.position probing.pending alone finds.phase found
      rw [settles]
      refine ⟨before.trans later, ?_⟩
      rw [before.now] at outcome
      rcases outcome with probing | ⟨fallen, hindered, fault, rest, refused⟩
      · exact .next taken probing
      · refine .fallen taken fallen (hindered.imp (lt_of_lt_of_le · before.toFail) ?_) refused
        rw [before.now]
        exact id

/-! ## Announcing -/

/-- A solitary detector that is ready announces its address, and nobody hears of it. -/
theorem announce_ready {c : Probe} (solitary : Solitary p n) (phase : (n.prober p).phase = .ready)
    (probe : (n.prober p).probe = some c) :
    ∃ n', n.announce p .once = (.ok (), n') ∧ n'.link.timer p = n.link.timer p ∧
      n'.now = n.now ∧ n'.toFail = n.toFail ∧
      n'.announcements = n.announcements ++ [(n.now, c.address)] := by
  have nobody : n.link.taps.keys.filter (· ≠ p) = [] := by
    rw [solitary.alone]
    simp
  have sent : (n.onLink (.take c.address c.mac)).send p (announcement c) =
      (n.onLink (.take c.address c.mac)).onLink (.record (announcement c)) := by
    rw [send,
      show (n.onLink (.take c.address c.mac)).link.taps.keys.filter (· ≠ p) = [] from nobody,
      List.foldl_nil]
  have eq : n.announce p .once = (.ok (), (((n.onLink (.take c.address c.mac)).onLink
      (.record (announcement c))).note (.announced c.address .once)).enter p
        (.announced .once none)) := by
    simp only [Network.announce, phase, probe, sent]
  exact ⟨_, eq, rfl, rfl, rfl, announcements_note (.announced c.address .once) _⟩

theorem host_announce_ready {c : Probe} (solitary : Solitary p h.world)
    (running : h.engine.state = .running) (phase : (h.world.prober p).phase = .ready)
    (probe : (h.world.prober p).probe = some c) :
    ∃ h', h.announce (detector p) = (.ok (), h') ∧ h'.engine = h.engine ∧
      h'.world.link.timer p = h.world.link.timer p ∧ h'.world.now = h.world.now ∧
      h'.world.toFail = h.world.toFail ∧
      h'.world.announcements = h.world.announcements ++ [(h.world.now, c.address)] := by
  obtain ⟨n, announced, timer, now, calls, announcements⟩ := announce_ready solitary phase probe
  simp only [Host.announce, running, reduceCtorEq, if_false,
    show (detector p).announce .once h.world = _ from announced]
  cases h.engine.address with
  | none => exact ⟨_, rfl, rfl, timer, now, calls, announcements⟩
  | some a =>
    refine ⟨_, rfl, rfl, timer, now, calls, ?_⟩
    exact (announcements_note_of_none (by rfl) n).trans announcements

end LinkLocal.Simulation
