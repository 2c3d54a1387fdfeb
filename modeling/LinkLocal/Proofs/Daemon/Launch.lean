import LinkLocal.Proofs.Daemon.Settings
import LinkLocal.Proofs.Daemon.Turns

/-! How a daemon comes to life. Its neighbours sit down on the first candidates, where a later
one takes the place of an earlier one; then the engine is made, which fails exactly if its timer
cannot be made; and then the engine is started, alone on the link. -/
namespace LinkLocal.Daemon

open Simulation Simulation.Network

variable {s : Settings} {config : Config} {faults : Faults}

/-! ## Neighbours -/

/-- The addresses that the neighbours of a daemon hold, in the order in which they took them. -/
def Settings.contested (s : Settings) (config : Config) : List IPv4 :=
  (Selector.ofSeed config.enumeration).take s.contenders.toNat

/-- This is the last place of an address in a list. -/
structure LastAt (as : List IPv4) (j : Nat) (a : IPv4) : Prop where
  here : as[j]? = some a
  last : ∀ i > j, as[i]? ≠ some a

/-- Between two networks neighbours took addresses, and nothing else happened. -/
structure Peopled (net net' : Network) : Prop where
  now : net'.now = net.now
  faults : net'.faults = net.faults
  probers : net'.probers = net.probers
  taps : net'.link.taps = net.link.taps
  nextTap : net'.link.nextTap = net.link.nextTap
  carrier : net'.link.carrier = net.link.carrier
  announcements : net'.announcements = net.announcements

theorem peopled_settleNeighbours (n : Nat) (as : List IPv4) (net : Network) :
    Peopled net (settleNeighbours n as net) := by
  induction as generalizing n net with
  | nil => exact ⟨rfl, rfl, rfl, rfl, rfl, rfl, rfl⟩
  | cons a as ih =>
    obtain ⟨now, faults, probers, taps, nextTap, carrier, announcements⟩ :=
      ih (n + 1) ((net.note (.contender a (neighbour n))).occupy a (neighbour n))
    refine ⟨now, faults, probers, taps, nextTap, carrier, announcements.trans ?_⟩
    exact (announcements_note_of_none (x := .occupied a (neighbour n)) (by rfl) _).trans
      (announcements_note_of_none (x := .contender a (neighbour n)) (by rfl) net)

/-- Of the neighbours that sit down on an address, the last one holds it, and without any
whoever held it before. -/
theorem owner_settleNeighbours (n : Nat) (as : List IPv4) (net : Network) (a : IPv4)
    (m : LinkAddress) : (settleNeighbours n as net).link.owner a = some m ↔
      (∃ j, LastAt as j a ∧ neighbour (n + j) = m) ∨
        a ∉ as ∧ net.link.owner a = some m := by
  induction as generalizing n net with
  | nil =>
    have nowhere (j : Nat) : ¬ LastAt [] j a := fun last => by cases last.here
    simp [settleNeighbours, nowhere]
  | cons b as ih =>
    have seated : ((net.note (.contender b (neighbour n))).occupy b (neighbour n)).link.owner a =
        if b = a then some (neighbour n) else net.link.owner a := Link.owner_take ..
    rw [settleNeighbours, ih, seated]
    constructor
    · rintro (⟨j, ⟨here, last⟩, rfl⟩ | ⟨absent, held⟩)
      · refine .inl ⟨j + 1, ⟨here, fun i later => ?_⟩, congrArg neighbour (by omega)⟩
        obtain ⟨i, rfl⟩ : ∃ k, i = k + 1 := ⟨i - 1, by omega⟩
        exact last i (by omega)
      · split at held
        · next same =>
          refine .inl ⟨0, ⟨congrArg some same, fun i later there => ?_⟩, Option.some.inj held⟩
          obtain ⟨i, rfl⟩ : ∃ k, i = k + 1 := ⟨i - 1, by omega⟩
          exact absent (List.mem_of_getElem? there)
        · next other => exact .inr ⟨List.not_mem_cons_of_ne_of_not_mem (Ne.symm other) absent, held⟩
    · rintro (⟨j, ⟨here, last⟩, rfl⟩ | ⟨absent, held⟩)
      · cases j with
        | zero =>
          obtain rfl : b = a := Option.some.inj here
          refine .inr ⟨fun member => ?_, if_pos rfl⟩
          obtain ⟨i, there⟩ := List.mem_iff_getElem?.mp member
          exact last (i + 1) i.succ_pos there
        | succ j =>
          refine .inl ⟨j, ⟨here, fun i later => last (i + 1) (by omega)⟩, congrArg neighbour ?_⟩
          omega
      · have other := List.ne_of_not_mem_cons absent
        exact .inr ⟨List.not_mem_of_not_mem_cons absent, (if_neg (Ne.symm other)).trans held⟩

/-! ## Launching -/

/-- A daemon whose engine was made and not started yet. -/
structure Prepared (s : Settings) (config : Config) (faults : Faults) (h : Host Network) :
    Prop where
  resting : Resting 0 [] h
  now : h.world.now = 0
  announcements : h.world.announcements = []
  set : h.world.faults.set = faults.set
  read : h.world.faults.read = faults.read
  owner : ∀ a m, h.world.link.owner a = some m ↔
    ∃ j, LastAt (s.contested config) j a ∧ neighbour j = m

/-- A supervisor before the engine is started for the first time. -/
def starting (s : Settings) (config : Config) (tap : Nat) (h : Host Network) : Supervisor :=
  ⟨s, config, tap, h, .serving⟩

/-- The network on which the engine is made. -/
def groundwork (s : Settings) (config : Config) (faults : Faults) : Network :=
  (settleNeighbours 0 (s.contested config) (((({ faults } : Network).note .daemonStarting).note
    (.daemonConfigured s.ifindex s.backend)).note .registeringSimulation)).note
      (.registered simulatedBackend)

theorem buildRegistry_eq (made : s.engineConfig = .ok config) (faults : Faults) :
    buildRegistry s ((({ faults } : Network).note .daemonStarting).note
      (.daemonConfigured s.ifindex s.backend)) =
      (⟨({} : Table _ _).insert simulatedBackend Network.factory⟩, groundwork s config faults) := by
  simp only [buildRegistry, made]
  rfl

/-- What comes of a launch is up to the timer of the engine, and then to its start. -/
theorem launch_eq (accepted : s.Acceptable) (made : s.engineConfig = .ok config)
    (faults : Faults) : launch s config { faults } =
      match (groundwork s config faults).attach with
      | (.error fault, net) =>
        .error (.runtime, net.note (.daemonFailed (Fault.creation s.backend (.io fault)).text))
      | (.ok tap, net) =>
        let started := (starting s config tap (Host.create net)).start
        match started.stage with
        | .ended code => .error (code, started.host.world)
        | _ => .ok (started.note .daemonReady) := by
  have backend : s.backend = simulatedBackend := List.mem_singleton.mp accepted.backend
  have found : (({} : Table _ _).insert simulatedBackend Network.factory).get? s.backend =
      some Network.factory := by
    rw [backend, Table.get?_insert_self]
  simp only [launch, buildRegistry_eq made, Registry.createEngine, Registry.createDetector, found]
  rcases attached : (groundwork s config faults).attach with ⟨fault | tap, net⟩
  · simp only [Network.factory, attached]
    rfl
  · simp only [Network.factory, attached]
    rfl

/-- Making a timer changes the rules for making timers only. -/
theorem next_create_cases (f : Faults) :
    (∃ fault f', f.next .create = (some fault, f') ∧
        FaultRule.left f'.create < FaultRule.left f.create) ∨
      ∃ f', f.next .create = (none, f') ∧ f'.set = f.set ∧ f'.read = f.read := by
  rcases FaultRule.left_apply f.create with ⟨fault, rules, eq, less⟩ | ⟨rules, eq, _⟩
  · exact .inl ⟨fault, { f with create := rules }, by simp only [Faults.next, eq], less⟩
  · exact .inr ⟨{ f with create := rules }, by simp only [Faults.next, eq], rfl, rfl⟩

/-- The first detector on a link is alone there. -/
theorem solitary_attach {net : Network} {rules : Faults} (taps : net.link.taps = {})
    (probers : net.probers = {}) (nextTap : net.link.nextTap = 0)
    (carrier : net.link.carrier = true) (attached : net.faults.next .create = (none, rules)) :
    Solitary 0 net.attach.2 ∧ (net.attach.2.prober 0).phase = .idle := by
  have nobody (q : Nat) : net.prober q = {} := by
    rw [prober, probers]
    rfl
  have formed : WellFormed net := by
    refine ⟨fun q => ?_, fun q member => ?_, fun q working => ?_⟩
    · rw [taps, probers]
      exact iff_of_false List.not_mem_nil List.not_mem_nil
    · rw [taps] at member
      exact absurd member List.not_mem_nil
    · rw [nobody] at working
      exact absurd rfl working
  have aside := aside_attach formed
  refine ⟨⟨aside.formed formed, ?_, ?_, ?_⟩, ?_⟩
  · simp only [attach, attached, Link.attach, taps, nextTap]
    rfl
  · simp only [attach, attached]
    exact carrier
  · simp only [attach, attached]
    rw [Link.inbox_attach, if_pos nextTap]
  · rw [aside.prober, nobody]

/-- An engine that was made waits to be started. -/
theorem prepared_of_attach {tap : Nat} {net : Network}
    (attached : (groundwork s config faults).attach = (.ok tap, net)) :
    tap = 0 ∧ Prepared s config faults (Host.create net) := by
  obtain ⟨now, rules, probers, taps, nextTap, carrier, announcements⟩ :=
    peopled_settleNeighbours 0 (s.contested config) (((({ faults } : Network).note
      .daemonStarting).note (.daemonConfigured s.ifindex s.backend)).note .registeringSimulation)
  have owner := owner_settleNeighbours 0 (s.contested config) (((({ faults } : Network).note
    .daemonStarting).note (.daemonConfigured s.ifindex s.backend)).note .registeringSimulation)
  simp only [groundwork] at attached
  generalize settleNeighbours 0 (s.contested config) _ = people at *
  rcases next_create_cases faults with ⟨fault, rules', next, _⟩ | ⟨rules', next, set, read⟩
  · have next : (people.note (.registered simulatedBackend)).faults.next .create = _ :=
      (congrArg (·.next .create) rules).trans next
    simp only [attach, next] at attached
    cases attached
  · have next : (people.note (.registered simulatedBackend)).faults.next .create = _ :=
      (congrArg (·.next .create) rules).trans next
    obtain ⟨solitary, phase⟩ := solitary_attach
      (show (people.note (.registered simulatedBackend)).link.taps = {} from taps) probers nextTap
      carrier next
    rw [attached] at solitary phase
    simp only [attach, next, Prod.mk.injEq, Except.ok.injEq] at attached
    obtain ⟨rfl, rfl⟩ := attached
    refine ⟨nextTap, ⟨⟨solitary.note _, phase, rfl, rfl⟩, now, ?_, set, read, fun a m => ?_⟩⟩
    · exact (announcements_note_of_none (x := .created) (by rfl) _).trans
        ((announcements_note_of_none (x := .registered simulatedBackend) (by rfl) people).trans
          announcements)
    · refine (owner a m).trans ?_
      simp only [Nat.zero_add]
      exact or_iff_left fun both => by cases both.2

/-- The ways in which a launch can go. -/
inductive Launched (s : Settings) (config : Config) (faults : Faults) :
    Except (ExitCode × Network) Supervisor → Prop where
  /-- The engine cannot be made. -/
  | uncreated {fault : SystemFault} {net : Network}
      (refused : (faults.next .create).1 = some fault)
      (less : FaultRule.left net.faults.create < FaultRule.left faults.create) :
      Launched s config faults (.error (.runtime, net))
  /-- The engine cannot be started. -/
  | unstarted {h h' : Host Network} {e : Error} {net : Network}
      (prepared : Prepared s config faults h)
      (refused : h.start (Network.detector 0) config = (.error e, h'))
      (hindered : Hindered config h.world net) :
      Launched s config faults (.error (.runtime, net))
  /-- The engine probes its first candidate. -/
  | started {h h' : Host Network} (prepared : Prepared s config faults h)
      (started : h.start (Network.detector 0) config = (.ok (), h'))
      (unmoved : Unmoved h.world (h'.note .daemonReady).world)
      (probing : Probing 0 config 0 (probeTime config) (h'.note .daemonReady)) :
      Launched s config faults (.ok (starting s config 0 (h'.note .daemonReady)))

theorem launched (accepted : s.Acceptable) (made : s.engineConfig = .ok config)
    (faults : Faults) : Launched s config faults (launch s config { faults }) := by
  have launched := launch_eq accepted made faults
  have same : (groundwork s config faults).faults = faults :=
    (peopled_settleNeighbours 0 (s.contested config) _).faults
  rcases next_create_cases faults with ⟨fault, rules, next, less⟩ | ⟨rules, next, _⟩
  · have attached : (groundwork s config faults).attach =
        (.error fault, { groundwork s config faults with faults := rules }) := by
      simp only [attach, same, next]
    rw [attached] at launched
    rw [launched]
    exact .uncreated (congrArg Prod.fst next) less
  rcases attached : (groundwork s config faults).attach with ⟨fault | tap, net⟩
  · simp only [attach, same, next] at attached
    cases attached
  obtain ⟨rfl, prepared⟩ := prepared_of_attach attached
  rw [attached] at launched
  dsimp only at launched
  generalize Host.create net = h at launched prepared
  obtain ⟨valid, _⟩ := Settings.engineConfig_eq_ok made
  rw [launched]
  rcases Supervisor.start_cases (s := starting s config 0 h) valid prepared.resting with
    ⟨e, h', refused, failed, hindered, _⟩ | ⟨h', started, served, unmoved, probing⟩
  · have fewer := (Supervisor.silent_fail e { starting s config 0 h with host := h' }).toFail
    rw [failed]
    exact .unstarted prepared refused (hindered.imp_left (fewer.trans_lt ·))
  · rw [served]
    have probing : Probing 0 config 0 (h.world.now + probeTime config) h' := probing
    rw [prepared.now, Nat.zero_add] at probing
    exact .started prepared started (unmoved.trans (.note (by rfl) _)) (probing.note .daemonReady)

/-! ## Soundness -/

/-- Settings that are acceptable make a sound supervisor. -/
theorem sound_starting (accepted : s.Acceptable) (made : s.engineConfig = .ok config) (tap : Nat)
    (h : Host Network) : (starting s config tap h).Sound := by
  obtain ⟨valid, timeout, _⟩ := Settings.engineConfig_eq_ok made
  have shortest : 10 ≤ s.timeoutMsec.toNat := UInt64.le_iff_toNat_le.mp accepted.timeout.1
  have rests : 1 ≤ s.restartDelaySecs.toNat := UInt64.le_iff_toNat_le.mp accepted.restartDelay.1
  refine ⟨valid, ?_, ?_⟩
  · change 0 < config.timeoutMsec.toNat * 1000000
    rw [timeout]
    omega
  · change 0 < s.restartDelaySecs.toNat * 1000000000
    omega

end LinkLocal.Daemon
