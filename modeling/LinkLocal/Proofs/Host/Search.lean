import LinkLocal.Proofs.Host.Starting
import LinkLocal.Proofs.Network.Sparing
import LinkLocal.Proofs.Selector.Candidates

/-! The search for an address. On a link where nothing else happens, a host that attends to
its detector whenever that has to be looked at goes through its candidates one probe after
the other, and is ready with the first one that nobody else holds. -/
namespace LinkLocal.Simulation

open Network

variable {n n' : Network} {p : Nat} {c : Probe}

/-! ## One probe -/

namespace Network

/-- Whoever did not defend anything leaves the owners alone when it works. -/
theorem Moves.owner_of_silent (moves : Moves p n n') (silent : ∀ c, ¬ Announced p c n)
    (a : IPv4) : n'.link.owner a = n.link.owner a := by
  rcases moves.yielding.owner a with same | ⟨_, q, c, before, later, _⟩
  · exact same
  · by_cases own : q = p
    · exact absurd (own ▸ before) (silent c)
    · exact absurd ((announced_congr (moves.apart.prober q own)).mpr before) later

/-- The timer of a detector that halts is off, or as it was. -/
theorem timer_halt (p : Nat) (n : Network) : (n.halt p).link.timer p = .disarmed ∨
    (n.halt p).link.timer p = n.link.timer p := by
  have given : ((n.giveUp p).enter p .idle).link.timer p = n.link.timer p := by
    rw [link_enter, timer_congr (giveUp_taps p n)]
  rw [halt, disarm]
  rcases setTimer_cases p .disarmed ((n.giveUp p).enter p .idle) with
    ⟨fault, faults, eq, _⟩ | ⟨faults, eq, _⟩
  · rw [eq]
    exact .inr given
  · rw [eq]
    dsimp only
    rw [timer_setTimer]
    split
    · exact .inl rfl
    · exact .inr given

/-- The timer of a probe whose time is over is off, or as it was. -/
theorem timer_conclude {deadline : Nat} (probing : (n.prober p).phase = .probing deadline)
    (due : deadline ≤ n.now) : (n.conclude p c).2.link.timer p = .disarmed ∨
      (n.conclude p c).2.link.timer p = n.link.timer p := by
  simp only [conclude, probing, if_neg (Nat.not_lt.mpr due)]
  split
  · exact timer_halt p _
  · exact .inr rfl

/-- A probe whose time is over needs its timer no more. -/
theorem expiry_conclude {deadline : Nat} (probing : (n.prober p).phase = .probing deadline)
    (due : deadline ≤ n.now) (off : (n.link.timer p).expiry = none) :
    ((n.conclude p c).2.link.timer p).expiry = none := by
  rcases timer_conclude (c := c) probing due with disarmed | same
  · rw [disarmed]
    rfl
  · rw [same, off]

/-- A detector at work without mail looks at its deadline at once. -/
theorem dispatch_eq_conclude {u : Unit} (drained : n.drain p = (.ok u, n'))
    (working : (n.prober p).phase ≠ .idle) (probe : (n.prober p).probe = some c)
    (carrier : n.link.carrier = true) (silence : n.link.inbox p = []) :
    n.dispatch p = (n'.onLink (.clearInbox p)).conclude p c := by
  rcases eq : n.dispatch p with ⟨r, m⟩
  cases dispatched eq with
  | fault failed => rw [drained] at failed; cases failed
  | resting _ idle => exact absurd idle working
  | unconfigured _ _ nothing => rw [probe] at nothing; cases nothing
  | carrierless _ _ _ down => rw [carrier] at down; cases down
  | attended drained' _ probe' _ =>
    rw [drained] at drained'
    rw [probe] at probe'
    cases drained'
    cases probe'
    rw [silence]
    rfl

/-- A probe that has just begun. -/
structure Underway (p : Nat) (c : Probe) (n : Network) : Prop where
  formed : WellFormed n
  carrier : n.link.carrier = true
  prober : n.prober p = ⟨.probing (n.now + c.timeout.nanoseconds), some c, {}⟩
  silence : n.link.inbox p = []
  expiry : GoesOff p (n.now + c.timeout.nanoseconds) n

theorem Underway.note (underway : Underway p c n) (x : Notice) : Underway p c (n.note x) :=
  ⟨((quiet_note x n).conduct p).formed underway.formed, underway.carrier, underway.prober,
    underway.silence, underway.expiry⟩

theorem Begun.underway (begun : Begun p c n n') (formed : WellFormed n')
    (attached : p ∈ n.probers.keys) (tap : p ∈ n.link.taps.keys)
    (carrier : n.link.carrier = true) : Underway p c n' where
  formed := formed
  carrier := begun.apart.carrier.trans carrier
  prober := by rw [begun.prober attached, begun.apart.now]
  silence := begun.inbox
  expiry := by
    rw [GoesOff, begun.timer tap, begun.apart.now, Timer.after]
    refine congrArg some ?_
    -- A timeout is no time at all, or some milliseconds, which the timer keeps to.
    simp only [Timer.shortestDelay, Probe.timeout, Duration.ofMilliseconds]
    exact ite_eq_right_iff.mpr (by omega)

theorem Underway.working (underway : Underway p c n) : (n.prober p).phase ≠ .idle := by
  intro idle
  rw [underway.prober] at idle
  cases idle

/-- Time passes for all detectors alike, and does nothing else to them. -/
theorem prober_advance (d p : Nat) (n : Network) : (n.advance d).prober p = n.prober p := rfl

theorem link_advance (d : Nat) (n : Network) : (n.advance d).link = n.link := rfl

theorem now_advance (d : Nat) (n : Network) : (n.advance d).now = n.now + d := rfl

theorem toFail_advance (d : Nat) (n : Network) : (n.advance d).toFail = n.toFail := rfl

/-- The descriptor of a detector becomes readable at the end of its probe. -/
theorem Underway.readable_iff (underway : Underway p c n) (d : Nat) :
    (n.advance d).isReadable p = true ↔ c.timeout.nanoseconds ≤ d := by
  rw [isReadable_iff, now_advance]
  simp only [GoesOff, link_advance]
  constructor
  · rintro ⟨t, goes, due⟩
    cases goes.symm.trans underway.expiry
    exact Nat.le_of_add_le_add_left due
  · intro long
    exact ⟨_, underway.expiry, Nat.add_le_add_left long _⟩

/-- A probe whose time is over: the timer is off, and who holds the address decides. -/
structure Over (p : Nat) (c : Probe) (n n' : Network) : Prop where
  moves : Moves p n n'
  strokes : Strokes Notice.Plain p n n'
  owner : ∀ a, n'.link.owner a = n.link.owner a
  silence : n'.link.inbox p = []
  expiry : (n'.link.timer p).expiry = none
  outcome : Free c n ∧ (n.prober p).Finds [.ready] .ready (n'.prober p) ∨
    ¬ Free c n ∧ ∃ k, (n.prober p).Finds [.used k] .idle (n'.prober p)

/-- A probe that goes on undisturbed until its time is over. -/
theorem Underway.over (underway : Underway p c n)
    (elapsed : n' = n.advance c.timeout.nanoseconds)
    (spared : (n'.dispatch p).2.toFail = n'.toFail) :
    ∃ n'', n'.dispatch p = (.ok (), n'') ∧ Over p c n' n'' := by
  have now : n'.now = n.now + c.timeout.nanoseconds := by rw [elapsed, now_advance]
  have link : n'.link = n.link := by rw [elapsed, link_advance]
  have prober : n'.prober p = ⟨.probing n'.now, some c, {}⟩ := by
    rw [now, elapsed, prober_advance, underway.prober]
  have carrier : n'.link.carrier = true := link ▸ underway.carrier
  have silence : n'.link.inbox p = [] := link ▸ underway.silence
  have goes : GoesOff p n'.now n' := by
    rw [GoesOff, now, link]
    exact underway.expiry
  have formed : WellFormed n' := elapsed ▸ (aside_advance _ n).formed underway.formed
  clear elapsed now link
  have working : (n'.prober p).phase ≠ .idle := by simp [prober]
  have probe : (n'.prober p).probe = some c := by rw [prober]
  have tap := (formed.attached p).mp (attached_of_working working)
  have moves := moves_dispatch p n'
  have strokes := strokes_dispatch p n'
  have silent : ∀ d, ¬ Announced p d n' := by simp [Announced, prober, Phase.isAnnounced]
  rcases drain_cases p n' with ⟨r, faults, failed, less⟩ | ⟨faults, drained, _⟩
  · have fewer := (strokes_of_drained failed).toFail_le
    omega
  have eq := dispatch_eq_conclude drained working probe carrier silence
  have quiet := quiet_of_drained drained
  rw [eq] at moves strokes
  generalize collected : Network.onLink (.clearInbox p) _ = m at eq moves strokes
  have inbox : m.link.inbox p = [] := by
    rw [← collected]
    exact (Link.inbox_clearInbox ..).trans (if_pos rfl)
  have same : m.prober p = n'.prober p := collected ▸ quiet.prober p
  have owner : ∀ a, m.link.owner a = n'.link.owner a := collected ▸ quiet.owner
  have off : (m.link.timer p).expiry = none := by
    have readable : (n'.link.timer p).isReadable n'.now = true :=
      isReadable_iff.mpr ⟨_, goes, le_rfl⟩
    rw [← collected, onLink, timer_clearInbox, timer_setTimer, Timer.drained, if_pos readable]
    rw [if_pos ⟨rfl, tap⟩]
    rfl
  have probing : (m.prober p).phase = .probing n'.now := by rw [same, prober]
  have due : n'.now ≤ m.now := by
    rw [← collected]
    exact le_rfl
  obtain ⟨ok, outcome⟩ := conclude_due (c := c) probing due
  refine ⟨_, eq.trans (Prod.ext ok rfl), moves, strokes, moves.owner_of_silent silent, ?_,
    expiry_conclude probing due off, ?_⟩
  · rcases strokes.mail with kept | none
    · exact kept.trans silence
    · exact none
  · have free : Free c m ↔ Free c n' := by simp only [Free, owner]
    rwa [free, same] at outcome

/-- Taking the oldest finding changes nothing else. -/
theorem poll_takes {f : Detection} {fs : List Detection}
    (waiting : (n.prober p).found.toList = f :: fs) : ∃ found : Queue Detection,
      n.poll p = (.ok (.found f), n.onProber p fun s => { s with found }) ∧
        found.toList = fs := by
  rcases popped : (n.prober p).found.pop? with _ | ⟨f', rest⟩
  · rw [Queue.pop?_eq_none_iff, waiting] at popped
    cases popped
  · have held := Queue.toList_of_pop? popped
    rw [waiting, List.cons.injEq] at held
    obtain ⟨rfl, rfl⟩ := held
    exact ⟨rest, by rw [poll, popped], rfl⟩

end Network

/-! ## One candidate after the other -/

variable {config : Config} {i : Nat} {h : Host Network}

/-- The owner of a host waits until the descriptor of its detector is readable, and then
attends to it. -/
def tend (p : Nat) (h : Host Network) : Host Network :=
  match (h.world.link.timer p).expiry with
  | none => h
  | some t => (Host.dispatch (detector p) { h with world := h.world.advanceTo t }).2

/-- The probe of a configuration for one of its candidates. -/
def probeAt (config : Config) (i : Nat) : Probe := Host.probeOf config (config.candidate i)

/-- The time that each probe of a configuration takes. -/
def probeTime (config : Config) : Nat :=
  (Duration.ofMilliseconds config.timeoutMsec.toNat).nanoseconds

theorem timeout_probeAt (config : Config) (i : Nat) :
    (probeAt config i).timeout.nanoseconds = probeTime config := rfl

/-- A host that has just begun to probe one of its candidates. -/
structure Trying (p : Nat) (config : Config) (i : Nat) (h : Host Network) : Prop where
  underway : Underway p (probeAt config i) h.world
  running : h.engine.state = .running
  probe : h.engine.probe = some (probeAt config i)
  position : h.engine.selector = config.position i
  pending : h.engine.pending.toList = []

/-- A host that has told its owner of an address and waits for nothing. -/
structure Found (p : Nat) (a : IPv4) (h : Host Network) : Prop where
  running : h.engine.state = .running
  pending : h.engine.pending.toList = [.ready a]
  expiry : (h.world.link.timer p).expiry = none

theorem strokes_settled (p : Nat) (h : Host Network) :
    Strokes Whatever p (h.world.dispatch p).2 (Host.dispatch (detector p) h).2.world := by
  rw [Host.dispatch]
  split
  · next eq =>
    rw [show h.world.dispatch p = _ from eq]
    exact (Strokes.refl _).note trivial
  · next s eq =>
    rw [show h.world.dispatch p = _ from eq]
    exact Host.keeps_settle (keeps_strokes p) _ ⟨h.engine, s⟩

theorem Trying.tend_eq (trying : Trying p config i h) : tend p h =
    (Host.dispatch (detector p)
      { h with world := h.world.advance (probeTime config) }).2 := by
  have goes : (h.world.link.timer p).expiry = some _ := trying.underway.expiry
  rw [timeout_probeAt] at goes
  simp only [tend, goes, advanceTo, advance, Nat.max_eq_right (Nat.le_add_right _ _)]

/-- A single finding is taken through the policy, and then the detector is asked whether it
has more. -/
theorem settle_single {e : Engine} {f : Detection} (waiting : (n.prober p).found.toList = [f]) :
    ∃ found : Queue Detection, found.toList = [] ∧
      Host.settle (detector p) ((detector p).backlog n + 1) ⟨e, n⟩ =
        Host.settle (detector p) 1
          (Host.react (detector p) f ⟨e, n.onProber p fun s => { s with found }⟩) := by
  obtain ⟨found, polled, rest⟩ := poll_takes waiting
  have one : (n.prober p).found.length = 1 := by rw [← Queue.length_toList, waiting]; rfl
  refine ⟨found, rest, ?_⟩
  simp only [detector, one]
  rw [Host.settle]
  simp only [polled]

/-- A detector at work that has nothing to tell changes nothing. -/
theorem settle_nothing (findings : Nat) (taken : (h.world.prober p).found.toList = [])
    (working : (h.world.prober p).phase ≠ .idle) :
    Host.settle (detector p) (findings + 1) h = (.ok (), h) := by
  simp only [Host.settle, detector, poll_nil taken, if_neg working]

/-- The present candidate is free: the owner has an event, and the detector waits for it. -/
theorem found_of_ready {e : Engine} (running : e.state = .running)
    (probe : e.probe = some (probeAt config i)) (pending : e.pending.toList = [])
    (expiry : (n.link.timer p).expiry = none) (ready : (n.prober p).phase = .ready)
    (found : (n.prober p).found.toList = [.ready]) :
    ∃ h, Host.settle (detector p) ((detector p).backlog n + 1) ⟨e, n⟩ = (.ok (), h) ∧
      Found p (config.candidate i) h ∧ h.world.now = n.now := by
  have attached : p ∈ n.probers.keys := attached_of_working (by simp [ready])
  obtain ⟨rest, taken, settled⟩ := settle_single (e := e) found
  have own := prober_onProber_self (fun s : Prober => { s with found := rest }) attached
  have address : e.address = some (config.candidate i) := by rw [Engine.address, probe]; rfl
  rw [settled]
  simp only [Host.react, address]
  rw [settle_nothing 0]
  · refine ⟨_, rfl, ⟨running, ?_, expiry⟩, rfl⟩
    exact (Queue.toList_push _ e.pending).trans (congrArg (· ++ [_]) pending)
  · exact (congrArg (fun s : Prober => s.found.toList) own).trans taken
  · exact (congrArg Prober.phase own).trans ready ▸ by simp

/-- An acceptable configuration is not refused by a detector at rest. -/
theorem not_refuses (valid : config.validate = .ok ()) (idle : (n.prober p).phase = .idle)
    (early : n.now + probeTime config < clockRange) :
    ¬ Refuses p (probeAt config i) n :=
  acceptable (Host.eligible_probeOf valid _) early idle

/-- A host whose detector has stopped goes over to its next candidate. -/
theorem trying_of_reselect (valid : config.validate = .ok ()) (formed : WellFormed h.world)
    (attached : p ∈ h.world.probers.keys) (carrier : h.world.link.carrier = true)
    (idle : (h.world.prober p).phase = .idle) (running : h.engine.state = .running)
    (probe : h.engine.probe = some (probeAt config i))
    (position : h.engine.selector = config.position i) (pending : h.engine.pending.toList = [])
    (early : h.world.now + probeTime config < clockRange)
    (spared : (h.reselect (detector p)).world.toFail = h.world.toFail) :
    Trying p config (i + 1) (h.reselect (detector p)) ∧
      (h.reselect (detector p)).world.now = h.world.now ∧
      ∀ a, (h.reselect (detector p)).world.link.owner a = h.world.link.owner a := by
  have next : { probeAt config i with address := h.engine.selector.next.1 } =
      probeAt config (i + 1) := by
    rw [position, config.next_position]
    rfl
  have moves := moves_start p (probeAt config (i + 1)) h.world
  have reselected := Host.reselected (detector p) h
  generalize h.reselect (detector p) = h' at reselected spared ⊢
  cases reselected with
  | @begun c n probe' begun =>
    rw [probe] at probe'
    cases probe'
    rw [next] at begun
    rw [show h.world.start p _ = _ from begun] at moves
    have begun := begun_of_started begun
    have tap := (formed.attached p).mp attached
    have underway := begun.underway (moves.wellFormed formed) attached tap carrier
    refine ⟨⟨underway.note _, running, ?_, ?_, pending⟩, begun.apart.now, begun.owner⟩
    · exact congrArg some next
    · change h.engine.selector.next.2 = _
      rw [position, config.next_position]
  | @failed c fault n probe' failed =>
    rw [probe] at probe'
    cases probe'
    rw [next] at failed
    exact absurd spared (spoiled_of_failed (not_refuses valid idle early) failed).ne
  | unconfigured nothing =>
    rw [probe] at nothing
    cases nothing

/-- The present candidate is taken: the host begins to probe the next one. -/
theorem trying_of_used {e : Engine} {k : Packet} (valid : config.validate = .ok ())
    (running : e.state = .running) (probe : e.probe = some (probeAt config i))
    (position : e.selector = config.position i) (pending : e.pending.toList = [])
    (formed : WellFormed n) (attached : p ∈ n.probers.keys) (carrier : n.link.carrier = true)
    (idle : (n.prober p).phase = .idle) (found : (n.prober p).found.toList = [.used k])
    (early : n.now + probeTime config < clockRange)
    (spared : (Host.settle (detector p) ((detector p).backlog n + 1) ⟨e, n⟩).2.world.toFail =
      n.toFail) :
    ∃ h, Host.settle (detector p) ((detector p).backlog n + 1) ⟨e, n⟩ = (.ok (), h) ∧
      Trying p config (i + 1) h ∧ h.world.now = n.now ∧
        ∀ a, h.world.link.owner a = n.link.owner a := by
  obtain ⟨rest, taken, settled⟩ := settle_single (e := e) found
  have own := prober_onProber_self (fun s : Prober => { s with found := rest }) attached
  have reacted : Host.react (detector p) (.used k)
      ⟨e, n.onProber p fun s => { s with found := rest }⟩ =
    Host.reselect (detector p)
      ⟨e, (n.onProber p fun s => { s with found := rest }).note (.inUse k)⟩ := rfl
  rw [settled, reacted] at spared ⊢
  have moved : Moves p n ((n.onProber p fun s => { s with found := rest }).note (.inUse k)) :=
    ((Moves.refl n).move (.find fun _ => rest)).note _
  have calls : ((n.onProber p fun s => { s with found := rest }).note (.inUse k)).toFail =
    n.toFail := rfl
  have links : ((n.onProber p fun s => { s with found := rest }).note (.inUse k)).link =
    n.link := rfl
  have rests : (((n.onProber p fun s => { s with found := rest }).note (.inUse k)).prober p).phase =
    .idle := (congrArg Prober.phase own).trans idle
  generalize (n.onProber p fun s => { s with found := rest }).note (.inUse k) = m at *
  have later := Host.keeps_settle (keeps_strokes p) 1 (Host.reselect (detector p) ⟨e, m⟩)
  have first := (Host.keeps_reselect (keeps_strokes p) (⟨e, m⟩ : Host Network)).toFail_le
  have fewer := later.toFail_le
  have spared' : (Host.reselect (detector p) ⟨e, m⟩).world.toFail = m.toFail := by
    refine Nat.le_antisymm first ?_
    rw [calls, ← spared]
    exact fewer
  obtain ⟨trying, now, owner⟩ := trying_of_reselect (h := ⟨e, m⟩) valid (moved.wellFormed formed)
    (moved.apart.attached.symm ▸ attached) (moved.apart.carrier.trans carrier) rests running probe
    position pending (moved.apart.now.symm ▸ early) spared'
  rw [settle_nothing 0]
  · exact ⟨_, rfl, trying, now.trans moved.apart.now, fun a => (owner a).trans (by rw [links])⟩
  · rw [trying.underway.prober]
    rfl
  · rw [trying.underway.prober]
    simp

/-- The owner of a host attends to a probe whose time is over, and has what it found yet to
take. -/
theorem Trying.over (trying : Trying p config i h)
    (spared : (tend p h).world.toFail = h.world.toFail) :
    ∃ n, tend p h = (Host.settle (detector p) ((detector p).backlog n + 1) ⟨h.engine, n⟩).2 ∧
      n.toFail = h.world.toFail ∧
      Over p (probeAt config i) (h.world.advance (probeTime config)) n := by
  rw [trying.tend_eq] at spared ⊢
  have settled : _ ≤ ((h.world.advance (probeTime config)).dispatch p).2.toFail :=
    (strokes_settled p { h with world := h.world.advance (probeTime config) }).toFail_le
  have first := (strokes_dispatch p (h.world.advance (probeTime config))).toFail_le
  rw [toFail_advance] at first
  have same := Nat.le_antisymm first (spared ▸ settled)
  obtain ⟨n, dispatched, passed⟩ := trying.underway.over (by rw [timeout_probeAt])
    (same.trans (toFail_advance ..).symm)
  rw [dispatched] at same
  refine ⟨n, ?_, same, passed⟩
  simp only [Host.dispatch, show (detector p).dispatch _ = _ from dispatched]

theorem Trying.taken (trying : Trying p config i h) :
    ((h.world.advance (probeTime config)).prober p).found.toList = [] := by
  rw [prober_advance, trying.underway.prober, Queue.toList_empty]

/-- A candidate that nobody else holds is found. -/
theorem Trying.found (trying : Trying p config i h)
    (spared : (tend p h).world.toFail = h.world.toFail)
    (free : Free (probeAt config i) h.world) : Found p (config.candidate i) (tend p h) ∧
      (tend p h).world.now = h.world.now + probeTime config := by
  obtain ⟨n, settles, _, passed⟩ := trying.over spared
  rcases passed.outcome with ⟨_, finds⟩ | ⟨held, _⟩
  · have waiting := finds.found
    rw [trying.taken, List.nil_append] at waiting
    obtain ⟨h', eq, found, now⟩ := found_of_ready trying.running trying.probe trying.pending
      passed.expiry finds.phase waiting
    rw [settles, eq]
    exact ⟨found, now.trans (passed.moves.apart.now.trans (now_advance ..))⟩
  · rw [Free, link_advance] at held
    exact absurd free held

/-- After a candidate that somebody else holds, the next one is tried. -/
theorem Trying.next (trying : Trying p config i h) (valid : config.validate = .ok ())
    (spared : (tend p h).world.toFail = h.world.toFail)
    (held : ¬ Free (probeAt config i) h.world)
    (early : h.world.now + 2 * probeTime config < clockRange) :
    Trying p config (i + 1) (tend p h) ∧
      (tend p h).world.now = h.world.now + probeTime config ∧
      ∀ a, (tend p h).world.link.owner a = h.world.link.owner a := by
  obtain ⟨n, settles, same, passed⟩ := trying.over spared
  rcases passed.outcome with ⟨free, _⟩ | ⟨_, k, finds⟩
  · rw [Free, link_advance] at free
    exact absurd free held
  · have waiting := finds.found
    rw [trying.taken, List.nil_append] at waiting
    have apart := passed.moves.apart
    have working : ((h.world.advance (probeTime config)).prober p).phase ≠ .idle := by
      rw [prober_advance]
      exact trying.underway.working
    have carrier : n.link.carrier = true := by
      rw [apart.carrier, link_advance, trying.underway.carrier]
    have owners : ∀ a, n.link.owner a = h.world.link.owner a := fun a => by
      rw [passed.owner, link_advance]
    have attached : p ∈ n.probers.keys := apart.attached.symm ▸ attached_of_working working
    have formed := passed.moves.wellFormed
      ((aside_advance (probeTime config) h.world).formed trying.underway.formed)
    have now : n.now = h.world.now + probeTime config := apart.now.trans (now_advance ..)
    rw [settles] at spared
    obtain ⟨h', eq, next, now', owner⟩ := trying_of_used valid trying.running trying.probe
      trying.position trying.pending formed attached carrier
      finds.phase waiting (by omega) (spared.trans same.symm)
    rw [settles, eq]
    exact ⟨next, now'.trans now, fun a => (owner a).trans (owners a)⟩

/-- Whoever waits for nothing is left alone. -/
theorem Found.tend {a : IPv4} (found : Found p a h) : tend p h = h := by
  simp only [Simulation.tend, found.expiry]

theorem Found.not_isReadable {a : IPv4} (found : Found p a h) (d : Nat) :
    (h.world.advance d).isReadable p = false := by
  simp [isReadable, Timer.isReadable, advance, found.expiry]

/-! ## The search -/

/-- As long as the candidates are taken, one is tried after the other. -/
theorem trying_after {k : Nat} (trying : Trying p config 0 h) (valid : config.validate = .ok ())
    (held : ∀ i < k, ¬ Free (probeAt config i) h.world)
    (early : h.world.now + (k + 1) * probeTime config < clockRange)
    (spared : ∀ j ≤ k + 1, ((tend p)^[j] h).world.toFail = h.world.toFail)
    (j : Nat) (within : j ≤ k) : Trying p config j ((tend p)^[j] h) ∧
      ((tend p)^[j] h).world.now = h.world.now + j * probeTime config ∧
      ∀ a, ((tend p)^[j] h).world.link.owner a = h.world.link.owner a := by
  induction j with
  | zero => exact ⟨trying, by simp, fun _ => rfl⟩
  | succ j ih =>
    obtain ⟨trying, now, owner⟩ := ih (by omega)
    have same := (spared (j + 1) (by omega)).trans (spared j (by omega)).symm
    have taken : ¬ Free (probeAt config j) ((tend p)^[j] h).world := by
      simpa only [Free, owner] using held j within
    rw [Function.iterate_succ_apply'] at same ⊢
    have whole : (j + 1 + 1) * probeTime config ≤ (k + 1) * probeTime config :=
      Nat.mul_le_mul_right _ (by omega)
    rw [Nat.add_mul, Nat.add_mul] at whole
    obtain ⟨next, now', owner'⟩ := trying.next valid same taken (by omega)
    refine ⟨next, ?_, fun a => (owner' a).trans (owner a)⟩
    rw [now', now, Nat.add_mul]
    omega

/-- The first candidate that nobody else holds is found, and then there is nothing more to
attend to. -/
theorem found_after {k : Nat} (trying : Trying p config 0 h) (valid : config.validate = .ok ())
    (held : ∀ i < k, ¬ Free (probeAt config i) h.world)
    (free : Free (probeAt config k) h.world)
    (early : h.world.now + (k + 1) * probeTime config < clockRange)
    (spared : ∀ j ≤ k + 1, ((tend p)^[j] h).world.toFail = h.world.toFail)
    (j : Nat) (beyond : k < j) : Found p (config.candidate k) ((tend p)^[j] h) ∧
      ((tend p)^[j] h).world.now = h.world.now + (k + 1) * probeTime config := by
  induction j, beyond using Nat.le_induction with
  | base =>
    obtain ⟨last, now, owner⟩ := trying_after trying valid held early spared k le_rfl
    have same := (spared (k + 1) le_rfl).trans (spared k (Nat.le_succ k)).symm
    rw [Nat.succ_eq_add_one, Function.iterate_succ_apply'] at *
    obtain ⟨found, now'⟩ := last.found same (by simpa only [Free, owner] using free)
    refine ⟨found, ?_⟩
    rw [now', now, Nat.add_mul]
    omega
  | succ j _ ih =>
    rw [Function.iterate_succ_apply', ih.1.tend]
    exact ih

end LinkLocal.Simulation
