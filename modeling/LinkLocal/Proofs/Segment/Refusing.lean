import LinkLocal.Proofs.Network.Sparing
import LinkLocal.Proofs.Segment

/-! Requests that a detector refuses. A detector can be asked to start a probe and to announce an
address. It looks at everything that speaks against the request before it changes anything, and the
call that sets its timer is the last thing that can fail. So a request that is refused, for whatever
reason and in whatever phase, leaves the detector, the link and all other detectors as they were.
All that can be told of it later is that a call on a timer that was to fail has failed. -/
namespace LinkLocal.Simulation

namespace Network

/-- What a detector can refuse. -/
inductive Request where
  | start (c : Probe)
  | announce (policy : DefendPolicy)

/-- The answer to a request, and the network after it. -/
def Request.ask (p : Nat) (n : Network) : Request → Except DetectorFault Unit × Network
  | .start c => n.start p c
  | .announce policy => n.announce p policy

/-- A request as a call of a detector. -/
def Request.call : Request → Call
  | .start c => .start c
  | .announce policy => .announce policy

/-- What is wrong with a probe that is to begin at a time. The address is looked at first, then the
transport, then the end of the probe. -/
inductive Flaw (now : Nat) (c : Probe) : ProbeFault → Prop where
  | noAddress (empty : c.mac.isEmpty = true) : Flaw now c .emptyAddress
  | transport (there : c.mac.isEmpty = false) (other : c.transport ≠ .ethernet) :
      Flaw now c (.transport c.transport)
  | late (eligible : c.Eligible) (late : ¬ c.InTime now) : Flaw now c (.timeout c.timeout)

/-- The requests that the detector at a tap refuses, and the faults that it reports. -/
inductive Refused (p : Nat) (n : Network) : Request → DetectorFault → Prop where
  /-- It is at work already. -/
  | atWork {c : Probe} (working : (n.prober p).phase ≠ .idle) : Refused p n (.start c) .busy
  /-- There is something wrong with the probe. -/
  | flawed {c : Probe} {cause : ProbeFault} (idle : (n.prober p).phase = .idle)
      (flaw : Flaw n.now c cause) : Refused p n (.start c) (.invalidArgument cause)
  /-- Its timer cannot be set. -/
  | spoiled {c : Probe} {fault : SystemFault} (idle : (n.prober p).phase = .idle)
      (eligible : c.Eligible) (early : c.InTime n.now)
      (fails : (n.faults.next .set).1 = some fault) : Refused p n (.start c) (.io fault)
  /-- It has no address that is ready. -/
  | unready {policy : DefendPolicy} (unready : (n.prober p).phase ≠ .ready) :
      Refused p n (.announce policy) .busy
  /-- It has an address that is ready and does not know which. -/
  | unconfigured {policy : DefendPolicy} (ready : (n.prober p).phase = .ready)
      (unknown : (n.prober p).probe = none) :
      Refused p n (.announce policy) (.unexpected .readyUnconfigured)

/-- The second network is the first one, apart from the rules for calls on timers. -/
structure Untouched (n n' : Network) : Prop where
  /-- The carrier, the owners, the log, all taps with their mail and their timers, and all
  detectors with their phases, probes and findings. -/
  site : n'.toSite = n.toSite
  now : n'.now = n.now
  journal : n'.journal = n.journal

variable {n : Network} {p : Nat} {c : Probe} {request : Request} {fault : DetectorFault}

/-! ## Refusals -/

/-- A timer is set, or the call fails and changes nothing but the rules for the calls to come. -/
theorem arm_cases (p delay : Nat) (n : Network) :
    (∃ fault faults, (n.faults.next .set).1 = some fault ∧
      n.arm p delay = (.error fault, { n with faults })) ∨
    (n.faults.next .set).1 = none ∧ ∃ n', n.arm p delay = (.ok (), n') := by
  rw [arm, setTimer]
  rcases n.faults.next .set with ⟨_ | fault, faults⟩
  · exact .inr ⟨rfl, _, rfl⟩
  · exact .inl ⟨fault, faults, rfl, rfl⟩

theorem start_flawed {cause : ProbeFault} (idle : (n.prober p).phase = .idle)
    (flaw : Flaw n.now c cause) : n.start p c = (.error (.invalidArgument cause), n) := by
  rw [start, if_neg (not_not_intro idle)]
  cases flaw with
  | noAddress empty => rw [if_pos empty]
  | transport there other => rw [if_neg (Bool.eq_false_iff.mp there), if_pos other]
  | late eligible late =>
    rw [if_neg (Bool.eq_false_iff.mp eligible.1), if_neg (not_not_intro eligible.2),
      if_pos (Nat.not_lt.mp late)]

/-- A probe that passes all checks begins exactly if the timer can be set. -/
theorem start_armed (idle : (n.prober p).phase = .idle) (eligible : c.Eligible)
    (early : c.InTime n.now) :
    (∀ {fault n'}, n.arm p c.timeout.nanoseconds = (.error fault, n') →
      n.start p c = (.error (.io fault), n')) ∧
    ∀ {n'}, n.arm p c.timeout.nanoseconds = (.ok (), n') → (n.start p c).1 = .ok () := by
  have there := Bool.eq_false_iff.mp eligible.1
  rw [start, if_neg (not_not_intro idle), if_neg there, if_neg (not_not_intro eligible.2),
    if_neg (Nat.not_le.mpr early)]
  constructor
  · intro fault n' failed
    rw [failed]
  · intro n' armed
    rw [armed]

/-- A probe is flawed, or it may begin. -/
theorem flaw_or_eligible (now : Nat) (c : Probe) :
    (∃ cause, Flaw now c cause) ∨ c.Eligible ∧ c.InTime now := by
  cases there : c.mac.isEmpty with
  | true => exact .inl ⟨_, .noAddress there⟩
  | false =>
    by_cases transport : c.transport = .ethernet
    · by_cases early : c.InTime now
      · exact .inr ⟨⟨there, transport⟩, early⟩
      · exact .inl ⟨_, .late ⟨there, transport⟩ early⟩
    · exact .inl ⟨_, .transport there transport⟩

/-- A request is refused for one of the reasons, and changes at most the rules for calls on timers,
or it is granted. -/
theorem ask_cases (p : Nat) (n : Network) (request : Request) :
    (∃ fault faults, Refused p n request fault ∧
      request.ask p n = (.error fault, { n with faults })) ∨ (request.ask p n).1 = .ok () := by
  cases request with
  | start c =>
    by_cases idle : (n.prober p).phase = .idle
    case neg => exact .inl ⟨.busy, n.faults, .atWork idle, if_pos idle⟩
    rcases flaw_or_eligible n.now c with ⟨cause, flaw⟩ | ⟨eligible, early⟩
    · exact .inl ⟨_, n.faults, .flawed idle flaw, start_flawed idle flaw⟩
    · obtain ⟨refuses, begins⟩ := start_armed (p := p) idle eligible early
      rcases arm_cases p c.timeout.nanoseconds n with ⟨fault, faults, fails, eq⟩ | ⟨_, n', eq⟩
      · exact .inl ⟨_, faults, .spoiled idle eligible early fails, refuses eq⟩
      · exact .inr (begins eq)
  | announce policy =>
    simp only [Request.ask, announce]
    split
    · exact .inr rfl
    · next ready unknown =>
      exact .inl ⟨_, n.faults, .unconfigured ready unknown, rfl⟩
    · next configured unconfigured =>
      refine .inl ⟨_, n.faults, .unready fun ready => ?_, rfl⟩
      cases probe : (n.prober p).probe with
      | none => exact unconfigured ready probe
      | some c => exact configured c ready probe

/-- There is only one reason for which a request can be refused, and none for one that is
granted. -/
theorem Refused.answer_eq (refused : Refused p n request fault) :
    (request.ask p n).1 = .error fault := by
  cases refused with
  | atWork working => exact congrArg Prod.fst (if_pos working)
  | flawed idle flaw => exact congrArg Prod.fst (start_flawed idle flaw)
  | @spoiled c fault idle eligible early fails =>
    rcases arm_cases p c.timeout.nanoseconds n with ⟨_, _, fails', eq⟩ | ⟨succeeds, _⟩
    · cases fails.symm.trans fails'
      exact congrArg Prod.fst ((start_armed idle eligible early).1 eq)
    · cases fails.symm.trans succeeds
  | unready unready =>
    simp only [Request.ask, announce]
    split
    · next ready _ => exact absurd ready unready
    · next ready _ => exact absurd ready unready
    · rfl
  | unconfigured ready unknown =>
    simp only [Request.ask, announce, ready, unknown]

theorem answer_eq_iff : (request.ask p n).1 = .error fault ↔ Refused p n request fault := by
  constructor
  · intro answer
    rcases ask_cases p n request with ⟨fault', faults, refused, eq⟩ | granted
    · rw [eq] at answer
      cases answer
      exact refused
    · cases answer.symm.trans granted
  · intro refused
    exact refused.answer_eq

/-- A refused request changes at most the rules for calls on timers. -/
theorem ask_of_refused (answer : (request.ask p n).1 = .error fault) :
    ∃ faults, (request.ask p n).2 = { n with faults } := by
  rcases ask_cases p n request with ⟨_, faults, _, eq⟩ | granted
  · exact ⟨faults, congrArg Prod.snd eq⟩
  · cases answer.symm.trans granted

/-- A request is refused for one of the reasons, whose fault is the answer, and for no other, and a
request that is refused leaves the network as it was. This holds of every network, in whatever
phase the detector is and whatever waits for it. -/
theorem refused_leaves_no_trace (n : Network) (p : Nat) (request : Request)
    (fault : DetectorFault) :
    ((request.ask p n).1 = .error fault ↔ Refused p n request fault) ∧
      ((request.ask p n).1 = .error fault → Untouched n (request.ask p n).2) := by
  refine ⟨answer_eq_iff, fun answer => ?_⟩
  obtain ⟨faults, eq⟩ := ask_of_refused answer
  rw [eq]
  exact ⟨rfl, rfl, rfl⟩

end Network

namespace Segment

open Network

variable {allowed : Segment → Act → Prop} {s : Segment} {past : List Segment} {p : Nat}
variable {request : Request} {fault : DetectorFault}

/-- A request that a bare detector refuses is no more than a change of the rules for calls on
timers: whatever is done later goes as it does after such a change. -/
theorem after_refused (bare : s.engines.get? p = none)
    (answer : (request.ask p s.network).1 = .error fault) (acts : List Act) :
    ∃ faults, after (.use p request.call :: acts) s = after (.spoil faults :: acts) s := by
  obtain ⟨faults, eq⟩ := ask_of_refused answer
  have called : request.call.perform p s.network = (request.ask p s.network).2 := by
    cases request <;> rfl
  refine ⟨faults, congrArg (after acts) ?_⟩
  rw [perform, if_pos bare, called, eq]
  rfl

/-- In a run a detector never has an address ready without knowing which. -/
theorem Run.fault_of_refused (run : Run allowed (s :: past))
    (refused : Refused p s.network request fault) (cause : InternalFault) :
    fault ≠ .unexpected cause := by
  cases refused with
  | unconfigured ready unknown =>
    obtain ⟨c, probe⟩ := run.wellFormed.configured p (by rw [ready]; nofun)
    cases unknown.symm.trans probe
  | _ => nofun

/-- A detector that has lost its candidate, with the loss still to be told and more mail. -/
def beaten : List Act :=
  [.attach, .attach, .use 0 (.start (probeBy 1)),
    .claim ⟨Packet.request, (probeBy 9).mac, (probeBy 1).address⟩, .use 0 .dispatch,
    .claim ⟨Packet.reply, (probeBy 8).mac, (probeBy 1).address⟩,
    .spoil { set := [⟨0, 1, .code 9⟩] }]

/-- The detector cannot set its timer for another probe, and has all that it had. -/
theorem spoiled_start_leaves_no_trace : ∃ s past, Run (fun _ _ => True) (s :: past) ∧
    (s.network.prober 0).found.toList ≠ [] ∧ s.network.link.inbox 0 ≠ [] ∧
    s.network.isReadable 0 = true ∧
    ((Request.start (probeBy 1)).ask 0 s.network).1 = .error (.io (.code 9)) ∧
    Untouched s.network ((Request.start (probeBy 1)).ask 0 s.network).2 := by
  have run : Run (fun _ _ => True) (trail beaten fresh []) :=
    Run.trail (.fresh {}) _ (by decide +kernel)
  have refused : ((Request.start (probeBy 1)).ask 0 (after beaten fresh).network).1 =
      .error (.io (.code 9)) := by decide +kernel
  exact ⟨_, _, run, by decide +kernel, by decide +kernel, by decide +kernel, refused,
    (refused_leaves_no_trace _ 0 (.start (probeBy 1)) (.io (.code 9))).2 refused⟩

end Segment
end LinkLocal.Simulation
