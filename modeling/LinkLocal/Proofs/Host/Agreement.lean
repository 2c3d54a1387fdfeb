import LinkLocal.Host.Stream
import LinkLocal.Proofs.Network.Findings

/-! An engine and the detector that works for it. The detector stops by itself when it
loses its address or the link, and the engine learns of it only when it takes the
findings; taking them may set the detector to work again. Between two operations both
agree on whether there is work, and on which. -/
namespace LinkLocal.Simulation

open Network

/-- The latest event that waits in an engine, if any does, is the good end of the probe
of its detector. -/
def Newest (e : Engine) (s : Prober) : Prop :=
  ∀ event, e.pending.toList.getLast? = some event →
    ∃ c, s.probe = some c ∧ event = .ready c.address

/-- An engine and its detector agree. -/
structure Agree (e : Engine) (s : Prober) : Prop where
  running : e.state = .running ↔ s.phase ≠ .idle
  taken : s.found.toList = []
  probe : e.state = .running → ∃ c, e.probe = some c ∧ s.probe = some c
  newest : s.phase = .ready → Newest e s

/-- The findings that a detector in a phase can have for its engine: a last one only
where it has stopped, and the good end of a probe only where it stands. -/
inductive Remaining : List Detection → Phase → Prop where
  | none {phase : Phase} (working : phase ≠ .idle) : Remaining [] phase
  | ready : Remaining [.ready] .ready
  | defended (claim : Packet) {fs : List Detection} {phase : Phase} (rest : Remaining fs phase)
      (later : phase ≠ .ready) : Remaining (.defended claim :: fs) phase
  | conflict (claim : Packet) : Remaining [.conflict claim] .idle
  | used (claim : Packet) : Remaining [.used claim] .idle
  | down : Remaining [.down] .idle

/-- A host whose engine agrees with its detector. -/
def Agrees (p : Nat) (h : Host Network) : Prop :=
  p ∈ h.world.probers.keys ∧ Agree h.engine (h.world.prober p)

/-- A host that has these findings yet to take. -/
structure Midway (p : Nat) (fs : List Detection) (h : Host Network) : Prop where
  attached : p ∈ h.world.probers.keys
  running : h.engine.state = .running
  probe : ∃ c, h.engine.probe = some c ∧ (h.world.prober p).probe = some c
  remaining : Remaining fs (h.world.prober p).phase
  newest : fs = [] → (h.world.prober p).phase = .ready → Newest h.engine (h.world.prober p)

/-- A host whose detector has stopped by itself. -/
structure Lapsed (p : Nat) (h : Host Network) : Prop where
  attached : p ∈ h.world.probers.keys
  running : h.engine.state = .running
  probe : ∃ c, h.engine.probe = some c ∧ (h.world.prober p).probe = some c
  idle : (h.world.prober p).phase = .idle
  taken : (h.world.prober p).found.toList = []

variable {p : Nat} {h : Host Network} {e : Engine} {s : Prober}

/-- An idle engine agrees with a detector at rest, whatever else they remember. -/
theorem agree_idle (state : e.state = .idle) (idle : s.phase = .idle)
    (taken : s.found.toList = []) : Agree e s where
  running := iff_of_false (by simp [state]) (by simp [idle])
  taken := taken
  probe running := by rw [state] at running; cases running
  newest ready := by rw [idle] at ready; cases ready

/-- A running engine agrees with a detector that probes for it. -/
theorem agree_probing {t : Nat} {c : Probe} (state : e.state = .running)
    (probe : e.probe = some c) (probing : s = ⟨.probing t, some c, {}⟩) : Agree e s where
  running := iff_of_true state (by simp [probing])
  taken := by rw [probing]; rfl
  probe _ := ⟨c, probe, by rw [probing]⟩
  newest ready := by rw [probing] at ready; cases ready

theorem Agree.state_of_idle (agree : Agree e s) (idle : s.phase = .idle) : e.state = .idle := by
  cases state : e.state with
  | idle => rfl
  | running => exact absurd idle (agree.running.mp state)

theorem Midway.agrees (midway : Midway p [] h) (taken : (h.world.prober p).found.toList = []) :
    Agrees p h := by
  refine ⟨midway.attached, iff_of_true midway.running ?_, taken, fun _ => midway.probe,
    midway.newest rfl⟩
  cases remaining : midway.remaining with
  | none working => exact working

/-! ## The policy -/

theorem Lapsed.agrees_goDown (lapsed : Lapsed p h) : Agrees p h.goDown :=
  ⟨lapsed.attached, agree_idle rfl lapsed.idle lapsed.taken⟩

/-- The next candidate is probed by both, or by none. -/
theorem Lapsed.agrees_reselect (lapsed : Lapsed p h) : Agrees p (h.reselect (detector p)) := by
  obtain ⟨attached, running, ⟨c, probe, _⟩, idle, taken⟩ := lapsed
  rcases next : h.engine.selector.next with ⟨a, selector⟩
  have moved := (moves_start p { c with address := a } h.world).apart.attached
  rcases start_own attached { c with address := a } with
    ⟨fault, n', refused, same⟩ | ⟨t, n', started, probing⟩
  · rw [refused] at moved
    simp only [Host.reselect, next, probe, detector, refused]
    exact ⟨moved ▸ attached, agree_idle rfl (same ▸ idle) (same ▸ taken)⟩
  · rw [started] at moved
    simp only [Host.reselect, next, probe, detector, started]
    exact ⟨moved ▸ attached, agree_probing running rfl probing⟩

theorem agrees_stop (attached : p ∈ h.world.probers.keys) : Agrees p (h.stop (detector p)) := by
  have moved := (moves_stop p h.world).apart.attached
  have stopped := stop_own attached
  have agree (e : Engine) (state : e.state = .idle) : Agree e ((h.world.stop p).prober p) :=
    agree_idle state (by rw [stopped]) (by rw [stopped]; rfl)
  simp only [Host.stop, detector]
  split
  · exact ⟨moved ▸ attached, agree _ rfl⟩
  · exact ⟨moved ▸ attached, agree _ rfl⟩

/-- A host that agrees with its detector already, or has all of its findings yet to
take. -/
def Settling (p : Nat) (h : Host Network) : Prop :=
  Midway p (h.world.prober p).found.toList h ∨ Agrees p h

/-- Taking one finding is a step towards agreement. -/
theorem react_settles {f : Detection}
    (midway : Midway p (f :: (h.world.prober p).found.toList) h) :
    Settling p (Host.react (detector p) f h) ∧
      ((Host.react (detector p) f h).world.prober p).found.toList.length ≤
        (h.world.prober p).found.toList.length := by
  obtain ⟨attached, running, ⟨c, probe, probe'⟩, remaining, _⟩ := midway
  have agreed {h' : Host Network} (agrees : Agrees p h') : Settling p h' ∧
      (h'.world.prober p).found.toList.length ≤ (h.world.prober p).found.toList.length := by
    refine ⟨.inr agrees, ?_⟩
    rw [agrees.2.taken]
    exact Nat.zero_le _
  generalize waiting : (h.world.prober p).found.toList = fs at remaining agreed
  generalize standing : (h.world.prober p).phase = phase at remaining
  cases remaining with
  | ready =>
    have address : h.engine.address = some c.address := by rw [Engine.address, probe]; rfl
    simp only [Host.react, address]
    refine ⟨.inl ⟨attached, running, ⟨c, probe, probe'⟩, ?_, fun _ _ => ?_⟩,
      waiting ▸ Nat.le_refl _⟩
    · change Remaining (h.world.prober p).found.toList (h.world.prober p).phase
      rw [waiting, standing]
      exact .none (by simp)
    · intro event last
      rw [Engine.push, Queue.toList_push, List.getLast?_concat] at last
      cases last
      exact ⟨c, probe', rfl⟩
  | defended claim rest later =>
    refine ⟨.inl ⟨attached, running, ⟨c, probe, probe'⟩, ?_, fun _ ready => ?_⟩,
      waiting ▸ Nat.le_refl _⟩
    · change Remaining (h.world.prober p).found.toList (h.world.prober p).phase
      rw [waiting, standing]
      exact rest
    · exact absurd (standing.symm.trans ready) later
  | conflict claim =>
    simp only [Host.react]
    split
    · exact agreed (Lapsed.agrees_reselect
        ⟨attached, running, ⟨c, probe, probe'⟩, standing, waiting⟩)
    · exact agreed (agrees_stop attached)
  | used claim =>
    exact agreed (Lapsed.agrees_reselect
      ⟨attached, running, ⟨c, probe, probe'⟩, standing, waiting⟩)
  | down =>
    exact agreed (Lapsed.agrees_goDown
      ⟨attached, running, ⟨c, probe, probe'⟩, standing, waiting⟩)

/-- A finding that is handed out leaves its host with the others yet to take. -/
theorem midway_of_polled (settling : Settling p h) {f : Detection} {n : Network}
    (polled : h.world.poll p = (.ok (.found f), n)) :
    Midway p (f :: (n.prober p).found.toList) ⟨h.engine, n⟩ ∧
      (h.world.prober p).found.toList = f :: (n.prober p).found.toList := by
  rcases waiting : (h.world.prober p).found.toList with _ | ⟨g, fs⟩
  · rw [poll_nil waiting, Prod.mk.injEq] at polled
    by_cases idle : (h.world.prober p).phase = .idle <;> simp [idle] at polled
  rcases settling with midway | agrees
  · rw [waiting] at midway
    obtain ⟨attached, running, probe, remaining, _⟩ := midway
    obtain ⟨n', found, polled', rest, own⟩ := poll_cons attached waiting
    cases polled.symm.trans polled'
    have moved := (moves_poll p h.world).apart.attached
    rw [polled] at moved
    simp only [own, rest]
    refine ⟨⟨moved ▸ attached, running, ?_, ?_, fun none => by cases none⟩, trivial⟩
    · simpa only [own] using probe
    · simpa only [own] using remaining
  · rw [agrees.2.taken] at waiting
    cases waiting

/-- A host that may take one more finding than there are takes them all, and ends in
agreement with its detector. The induction is on how many it may take. -/
theorem settle_agrees (findings : Nat) (settling : Settling p h)
    (enough : (h.world.prober p).found.toList.length < findings) :
    (Host.settle (detector p) findings h).1 = .ok () ∧
      Agrees p (Host.settle (detector p) findings h).2 := by
  induction findings generalizing h with
  | zero => omega
  | succ findings ih =>
    cases waiting : (h.world.prober p).found.toList with
    | nil =>
      -- Nothing is left to take: the detector only says whether it is at work.
      have agrees : Agrees p h := by
        rcases settling with midway | agrees
        · exact (waiting ▸ midway).agrees waiting
        · exact agrees
      obtain ⟨attached, agree⟩ := agrees
      simp only [Host.settle, detector, poll_nil waiting]
      by_cases idle : (h.world.prober p).phase = .idle
      · simp only [idle, if_true]
        have state := agree.state_of_idle idle
        simp only [state, reduceCtorEq, if_false]
        exact ⟨trivial, attached, agree_idle rfl idle waiting⟩
      · simp only [idle, if_false]
        exact ⟨trivial, attached, agree⟩
    | cons f fs =>
      rcases polled : h.world.poll p with ⟨r, n⟩
      obtain rfl : r = .ok (.found f) := by
        have attached : p ∈ h.world.probers.keys := settling.elim Midway.attached And.left
        obtain ⟨n', found, polled', _⟩ := poll_cons attached waiting
        exact (Prod.mk.inj (polled.symm.trans polled')).1
      obtain ⟨midway, held⟩ := midway_of_polled settling polled
      obtain ⟨settling, fewer⟩ := react_settles (h := ⟨h.engine, n⟩) midway
      simp only [Host.settle, detector, polled]
      refine ih settling (Nat.lt_of_le_of_lt fewer ?_)
      rw [held, List.length_cons] at enough
      exact Nat.lt_of_succ_lt_succ enough

/-! ## The operations -/

theorem remaining_defenses (claims : List Packet) {fs : List Detection} {phase : Phase}
    (rest : Remaining fs phase) (later : phase ≠ .ready) :
    Remaining (claims.map .defended ++ fs) phase := by
  induction claims with
  | nil => exact rest
  | cons claim claims ih => exact .defended claim ih later

/-- What a dispatch finds is what an engine can take. -/
theorem remaining_of_outcome {n : Network} {c : Probe} {r : Except DetectorFault Unit}
    {fs : List Detection} {phase : Phase} (working : (n.prober p).phase ≠ .idle)
    (outcome : Outcome p c n r fs phase) : Remaining fs phase := by
  cases outcome with
  | nothing => exact .none working
  | carrierLost => exact .down
  | taken k _ => exact .used k
  | succeeded _ _ => exact .ready
  | @defended claims policy _ last _ _ =>
    have rest : Remaining [] (.announced policy last) := .none (by simp)
    exact List.append_nil (claims.map Detection.defended) ▸ remaining_defenses claims rest (by simp)
  | yielded claims k _ _ _ => exact remaining_defenses claims (.conflict k) (by simp)

/-- What a dispatch of a detector at work leaves for its engine to take. -/
theorem midway_of_dispatch (agrees : Agrees p h) (working : (h.world.prober p).phase ≠ .idle)
    {r : Except DetectorFault Unit} {n : Network} (dispatched : h.world.dispatch p = (r, n)) :
    Midway p (n.prober p).found.toList ⟨h.engine, n⟩ ∧
      (r ≠ .ok () → (n.prober p).found.toList = []) := by
  obtain ⟨attached, agree⟩ := agrees
  have moved := (moves_dispatch p h.world).apart.attached
  have running := agree.running.mpr working
  obtain ⟨c, probe, probe'⟩ := agree.probe running
  obtain ⟨fs, phase, finds, outcome⟩ := dispatch_outcome working probe'
  rw [dispatched] at moved finds outcome
  have found : (n.prober p).found.toList = fs := by
    rw [finds.found, agree.taken, List.nil_append]
  -- A probe that has ended well earlier still stands, and so does its event.
  have newest : fs = [] → phase = .ready → Newest h.engine (n.prober p) := by
    intro none ready
    have before : (h.world.prober p).phase = .ready := by
      cases outcome with
      | nothing => exact ready
      | succeeded _ _ => cases none
      | _ => cases ready
    intro event last
    rw [finds.probe]
    exact agree.newest before event last
  rw [found]
  constructor
  · refine ⟨moved ▸ attached, running, ⟨c, probe, finds.probe.trans probe'⟩, ?_, ?_⟩
    · exact finds.phase.symm ▸ remaining_of_outcome working outcome
    · exact fun none ready => newest none (finds.phase.symm.trans ready)
  · intro failed
    cases outcome with
    | nothing => rfl
    | _ => exact absurd rfl failed

/-- There are as many findings to take as are counted, so one more is enough. -/
theorem settling_agrees (settling : Settling p h) :
    Agrees p (Host.settle (detector p) ((detector p).backlog h.world + 1) h).2 := by
  refine (settle_agrees _ settling ?_).2
  rw [Queue.length_toList]
  exact Nat.lt_succ_self _

/-- After its detector was attended to, a host has the findings to take; if that failed, there are
none. -/
theorem settling_of_dispatch (agrees : Agrees p h) {r : Except DetectorFault Unit} {n : Network}
    (dispatched : h.world.dispatch p = (r, n)) :
    Settling p ⟨h.engine, n⟩ ∧ (r ≠ .ok () → Agrees p ⟨h.engine, n⟩) := by
  by_cases idle : (h.world.prober p).phase = .idle
  · have moved := (moves_dispatch p h.world).apart.attached
    have same := dispatch_resting idle
    rw [dispatched] at moved same
    have agrees' : Agrees p ⟨h.engine, n⟩ := ⟨moved ▸ agrees.1, same ▸ agrees.2⟩
    exact ⟨.inr agrees', fun _ => agrees'⟩
  · obtain ⟨midway, failed⟩ := midway_of_dispatch agrees idle dispatched
    refine ⟨.inl midway, fun error => ?_⟩
    have nothing := failed error
    exact (nothing ▸ midway).agrees nothing

theorem agrees_dispatch (agrees : Agrees p h) : Agrees p (h.dispatch (detector p)).2 := by
  rcases eq : h.world.dispatch p with ⟨r, n⟩
  obtain ⟨settling, failed⟩ := settling_of_dispatch agrees eq
  cases r with
  | error fault =>
    simp only [Host.dispatch, detector, eq]
    exact failed (by simp)
  | ok u =>
    simp only [Host.dispatch, detector, eq]
    exact settling_agrees settling

theorem agrees_start (agrees : Agrees p h) (config : Config) :
    Agrees p (h.start (detector p) config).2 := by
  obtain ⟨attached, agree⟩ := agrees
  rcases first : Host.firstCandidate config with ⟨a, selector⟩
  simp only [Host.start, first]
  split
  · exact ⟨attached, agree⟩
  · next state =>
    split
    · exact ⟨attached, agree⟩
    · split
      · exact ⟨attached, agree⟩
      · have moved := (moves_start p (Host.probeOf config a) h.world).apart.attached
        rcases start_own attached (Host.probeOf config a) with
          ⟨fault, n', refused, same⟩ | ⟨t, n', started, probing⟩
        · rw [refused] at moved
          simp only [detector, refused]
          refine ⟨moved ▸ attached, ?_⟩
          obtain ⟨running, taken, probe, newest⟩ := agree
          exact same ▸ ⟨running, taken, probe, newest⟩
        · rw [started] at moved
          simp only [detector, started]
          exact ⟨moved ▸ attached, agree_probing rfl rfl probing⟩

theorem agrees_announce (agrees : Agrees p h) : Agrees p (h.announce (detector p)).2 := by
  obtain ⟨attached, agree⟩ := agrees
  by_cases state : h.engine.state = .idle
  · simp only [Host.announce, state, if_true]
    exact ⟨attached, agree⟩
  rcases announce_own (n := h.world) (p := p) .once with
    ⟨fault, refused⟩ | ⟨_, n', announced, _, _, own⟩
  · simp only [Host.announce, state, if_false, detector, refused]
    exact ⟨attached, agree⟩
  · have working : (n'.prober p).phase ≠ .idle := by simp [own]
    have running : h.engine.state = .running := by
      cases same : h.engine.state with
      | idle => exact absurd same state
      | running => rfl
    have agrees' : Agrees p ⟨h.engine, n'⟩ := by
      refine ⟨attached_of_working working, iff_of_true running working, ?_, ?_, ?_⟩
      · rw [own, agree.taken]
      · intro running
        rw [own]
        exact agree.probe running
      · intro ready
        rw [own] at ready
        cases ready
    simp only [Host.announce, state, if_false, detector, announced]
    split
    · exact agrees'
    · exact agrees'

/-- What is left of the events ends like all of them did. -/
theorem Newest.of_cons {e' : Engine} {event : Event} (newest : Newest e s)
    (held : e.pending.toList = event :: e'.pending.toList) : Newest e' s := by
  intro last there
  refine newest last ?_
  rw [held, List.getLast?_cons, there]
  rfl

/-- An event that is taken was the first one, and nothing else changes. -/
theorem pop_event {e' : Engine} {event : Event} (popped : e.pop = (.event event, e')) :
    e.pending.toList = event :: e'.pending.toList ∧
      e' = { e with pending := e'.pending } := by
  rw [Engine.pop] at popped
  split at popped
  · next front =>
    cases popped
    exact ⟨Queue.toList_of_pop? front, rfl⟩
  · cases popped
  · cases popped

/-- Without an event, nothing changes. -/
theorem pop_nothing {e' : Engine} {r : Popped} (popped : e.pop = (r, e'))
    (none : ∀ event, r ≠ .event event) : e' = e := by
  rw [Engine.pop] at popped
  split at popped
  · cases popped
    exact absurd rfl (none _)
  · cases popped; rfl
  · cases popped; rfl

theorem agrees_pop (agrees : Agrees p h) : Agrees p h.pop.2 := by
  obtain ⟨attached, agree⟩ := agrees
  rcases eq : h.engine.pop with ⟨r, e'⟩
  simp only [Host.pop, eq]
  refine ⟨attached, ?_⟩
  cases r with
  | event event =>
    obtain ⟨held, rest⟩ := pop_event eq
    obtain ⟨running, taken, probe, newest⟩ := agree
    rw [rest]
    exact ⟨running, taken, probe, fun ready => (newest ready).of_cons held⟩
  | done => exact pop_nothing eq (by simp) ▸ agree
  | stopped => exact pop_nothing eq (by simp) ▸ agree

theorem agrees_look (agrees : Agrees p h) : Agrees p (h.look (detector p)).2 := by
  have popped := agrees_pop agrees
  unfold Host.look
  split
  · next eq => rwa [eq] at popped
  · next eq => rwa [eq] at popped
  · next h' eq =>
    rw [eq] at popped
    obtain ⟨attached, agree⟩ := popped
    split
    · have quiet := quiet_tell p h'.world
      have told : Agrees p ⟨h'.engine, h'.world.tell p⟩ :=
        ⟨quiet.probers.symm ▸ attached, quiet.prober p ▸ agree⟩
      have dispatched := agrees_dispatch told
      split
      · next eq =>
        rw [detector] at eq
        rwa [detector, eq] at dispatched
      · next eq =>
        rw [detector] at eq
        rwa [detector, eq] at dispatched
    · exact ⟨attached, agree⟩

end LinkLocal.Simulation
