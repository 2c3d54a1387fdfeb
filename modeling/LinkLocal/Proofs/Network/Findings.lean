import LinkLocal.Proofs.Network.Conduct

/-! What a dispatch finds. A detector at work that attends to its mail and its deadline
finds nothing, the end of its work after any number of defenses, or the good end of its
probe. The last is told apart exactly: it takes a deadline that has passed, a silent
mailbox and an address without another owner. -/
namespace LinkLocal.Simulation

/-- From one state of a detector to another these findings were added, and nothing was
done to its probe. -/
structure Prober.Finds (s : Prober) (fs : List Detection) (phase : Phase) (s' : Prober) :
    Prop where
  phase : s'.phase = phase
  probe : s'.probe = s.probe
  found : s'.found.toList = s.found.toList ++ fs

namespace Prober.Finds

variable {s s' s'' : Prober} {fs gs : List Detection} {phase phase' : Phase}

theorem nothing (same : s' = s) : s.Finds [] s.phase s' := by
  subst same
  exact ⟨rfl, rfl, (List.append_nil _).symm⟩

theorem trans (first : s.Finds fs phase s') (second : s'.Finds gs phase' s'') :
    s.Finds (fs ++ gs) phase' s'' where
  phase := second.phase
  probe := second.probe.trans first.probe
  found := by rw [second.found, first.found, List.append_assoc]

end Prober.Finds

namespace Network

variable {n n' : Network} {p : Nat} {c : Probe}

/-! ## Facing claims -/

theorem prober_halt (attached : p ∈ n.probers.keys) :
    (n.halt p).prober p = { n.prober p with phase := .idle } := by
  have given : p ∈ (n.giveUp p).probers.keys := by rwa [giveUp_probers]
  rw [(quiet_halt p n).prober, retire, enter, prober_onProber_self _ given, prober,
    giveUp_probers, prober]

/-- A last finding, with which a detector stops. -/
theorem finds_halt (attached : p ∈ n.probers.keys) (f : Detection) :
    (n.prober p).Finds [f] .idle (((n.report p f).halt p).prober p) := by
  have reported : p ∈ (n.report p f).probers.keys := by rwa [report, keys_onProber]
  rw [prober_halt reported, report, prober_onProber_self _ attached]
  exact ⟨rfl, rfl, Queue.toList_push f _⟩

/-- A finding with which a detector enters a phase. -/
theorem finds_enter (attached : p ∈ n.probers.keys) (phase : Phase) (f : Detection) :
    (n.prober p).Finds [f] phase (((n.enter p phase).report p f).prober p) := by
  have entered : p ∈ (n.enter p phase).probers.keys := by rwa [enter, keys_onProber]
  rw [report, prober_onProber_self _ entered, enter, prober_onProber_self _ attached]
  exact ⟨rfl, rfl, Queue.toList_push f _⟩

theorem finds_send (attached : p ∈ n.probers.keys) (phase : Phase) (k : Packet) (x : Notice)
    (f : Detection) : (n.prober p).Finds [f] phase
      (((((n.enter p phase).send p k).note x).report p f).prober p) := by
  have still := (still_send p k (n.enter p phase)).trans
    (quiet_note x ((n.enter p phase).send p k)).toStill
  have entered : p ∈ (n.enter p phase).probers.keys := by rwa [enter, keys_onProber]
  have sent : p ∈ (((n.enter p phase).send p k).note x).probers.keys := by
    rwa [still.probers]
  rw [report, prober_onProber_self _ sent, still.prober, enter,
    prober_onProber_self _ attached]
  exact ⟨rfl, rfl, Queue.toList_push f _⟩

/-- Before its announcement, a claim to its address stops a detector. -/
theorem face_early (early : (n.prober p).phase = .ready ∨ ∃ t, (n.prober p).phase = .probing t)
    (k : Packet) : (n.prober p).Finds [.used k] .idle ((n.face p c k).prober p) := by
  have attached : p ∈ n.probers.keys := by
    apply attached_of_working
    rcases early with ready | ⟨t, probing⟩ <;> simp [*]
  have faced : n.face p c k = ((n.note (.claimedEarly k)).report p (.used k)).halt p := by
    rcases early with ready | ⟨t, probing⟩ <;> simp [face, *]
  rw [faced]
  exact finds_halt (n := n.note (.claimedEarly k)) attached (.used k)

/-- After its announcement, a detector answers a claim to its address or yields to it. -/
theorem face_announced {policy : DefendPolicy} {last : Option Nat}
    (announced : (n.prober p).phase = .announced policy last) (k : Packet) :
    (n.prober p).Finds [.defended k] (.announced policy (some n.now))
        ((n.face p c k).prober p) ∨
      (n.prober p).Finds [.conflict k] .idle ((n.face p c k).prober p) := by
  have attached : p ∈ n.probers.keys := attached_of_working (by simp [announced])
  simp only [face, announced]
  split
  · exact .inl (finds_send attached _ _ _ _)
  · exact .inr (finds_halt (n := n.note (.yielded k)) attached (.conflict k))

/-- A detector at rest does not care about packets. -/
theorem attend_idle (idle : (n.prober p).phase = .idle) (ks : List Packet) :
    n.attend p c ks = n := by
  induction ks with
  | nil => rfl
  | cons k ks ih =>
    have faced : n.face p c k = n := by simp [face, idle]
    rw [attend_cons, faced, ite_self]
    exact ih

/-- Before its announcement, the first claim to its address stops a detector. -/
theorem attend_early
    (early : (n.prober p).phase = .ready ∨ ∃ t, (n.prober p).phase = .probing t)
    (ks : List Packet) :
    (∀ k ∈ ks, concerns c k = false) ∧ n.attend p c ks = n ∨
      (∃ k ∈ ks, concerns c k = true) ∧
        ∃ k, (n.prober p).Finds [.used k] .idle ((n.attend p c ks).prober p) := by
  induction ks with
  | nil => exact .inl ⟨by simp, rfl⟩
  | cons k ks ih =>
    rw [attend_cons]
    cases concerned : concerns c k with
    | true =>
      have faced := face_early (c := c) early k
      simp only [if_true]
      rw [attend_idle faced.phase]
      exact .inr ⟨⟨k, List.mem_cons_self, concerned⟩, k, faced⟩
    | false =>
      simp only [Bool.false_eq_true, if_false]
      rcases ih with ⟨silent, same⟩ | ⟨⟨k', member, concerned'⟩, found⟩
      · refine .inl ⟨fun k' member => ?_, same⟩
        rcases List.mem_cons.mp member with rfl | member
        · exact concerned
        · exact silent k' member
      · exact .inr ⟨⟨k', List.mem_cons_of_mem k member, concerned'⟩, found⟩

theorem target_of_concerns {k : Packet} (concerned : concerns c k = true) :
    k.target = c.address := by
  simp only [concerns, Bool.and_eq_true, decide_eq_true_eq] at concerned
  exact concerned.1

/-- After its announcement, a detector answers claims to its address until it yields to
one. -/
theorem attend_announced {policy : DefendPolicy} {last : Option Nat}
    (announced : (n.prober p).phase = .announced policy last) (ks : List Packet) :
    ∃ claims : List Packet, (∀ k ∈ claims, k.target = c.address) ∧
      ((∃ last, (n.prober p).Finds (claims.map .defended) (.announced policy last)
        ((n.attend p c ks).prober p)) ∨
      ∃ k, k.target = c.address ∧ (n.prober p).Finds (claims.map .defended ++ [.conflict k]) .idle
        ((n.attend p c ks).prober p)) := by
  induction ks generalizing n last with
  | nil => exact ⟨[], by simp, .inl ⟨last, announced ▸ Prober.Finds.nothing rfl⟩⟩
  | cons k ks ih =>
    rw [attend_cons]
    split
    · next concerned =>
      have target := target_of_concerns concerned
      rcases face_announced (c := c) announced k with defended | yielded
      · obtain ⟨claims, aimed, outcome⟩ := ih defended.phase
        refine ⟨k :: claims, List.forall_mem_cons.mpr ⟨target, aimed⟩, ?_⟩
        rcases outcome with ⟨last, found⟩ | ⟨k', target', found⟩
        · exact .inl ⟨last, defended.trans found⟩
        · exact .inr ⟨k', target', defended.trans found⟩
      · rw [attend_idle yielded.phase]
        exact ⟨[], by simp, .inr ⟨k, target, yielded⟩⟩
    · exact ih announced

/-! ## The outcome of a dispatch -/

/-- Nothing keeps the detector at a tap from looking who holds its address: its timer can
be drained, there is a carrier, its probe is over, and nobody has claimed the address. -/
structure Undisturbed (p : Nat) (c : Probe) (n : Network) : Prop where
  drained : (n.drain p).1 = .ok ()
  carrier : n.link.carrier = true
  due : ∃ deadline, (n.prober p).phase = .probing deadline ∧ deadline ≤ n.now
  silence : ∀ k ∈ n.link.inbox p, concerns c k = false

/-- Nobody but the host of the probe holds its address. -/
def Free (c : Probe) (n : Network) : Prop := ∀ m, n.link.owner c.address = some m → m = c.mac

/-- What a dispatch of a detector at work can find, and the phase that it ends in. -/
inductive Outcome (p : Nat) (c : Probe) (n : Network) :
    Except DetectorFault Unit → List Detection → Phase → Prop where
  | nothing {r : Except DetectorFault Unit} : Outcome p c n r [] (n.prober p).phase
  | carrierLost (lost : n.link.carrier = false) : Outcome p c n (.ok ()) [.down] .idle
  | taken (k : Packet) (before : (n.prober p).phase.isAnnounced = false) :
      Outcome p c n (.ok ()) [.used k] .idle
  | succeeded (undisturbed : Undisturbed p c n) (free : Free c n) :
      Outcome p c n (.ok ()) [.ready] .ready
  | defended (claims : List Packet) {policy : DefendPolicy} {last : Option Nat}
      (last' : Option Nat) (before : (n.prober p).phase = .announced policy last)
      (aimed : ∀ k ∈ claims, k.target = c.address) :
      Outcome p c n (.ok ()) (claims.map .defended) (.announced policy last')
  | yielded (claims : List Packet) (k : Packet) {policy : DefendPolicy} {last : Option Nat}
      (before : (n.prober p).phase = .announced policy last)
      (aimed : ∀ k ∈ claims, k.target = c.address) (target : k.target = c.address) :
      Outcome p c n (.ok ()) (claims.map .defended ++ [.conflict k]) .idle

theorem conclude_of_not_probing (rest : ∀ t, (n.prober p).phase ≠ .probing t) :
    n.conclude p c = (.ok (), n) := by
  unfold conclude
  split
  · next t probing => exact absurd probing (rest t)
  · rfl

theorem free_iff : Free c n ↔ (n.link.owner c.address).filter (· ≠ c.mac) = none := by
  simp [Free, Option.filter_eq_none_iff]

/-- How a probe ends whose deadline has passed. -/
theorem conclude_due {deadline : Nat} (probing : (n.prober p).phase = .probing deadline)
    (due : deadline ≤ n.now) : (n.conclude p c).1 = .ok () ∧
      (Free c n ∧ (n.prober p).Finds [.ready] .ready ((n.conclude p c).2.prober p) ∨
        ¬ Free c n ∧ ∃ k, (n.prober p).Finds [.used k] .idle ((n.conclude p c).2.prober p)) := by
  have attached : p ∈ n.probers.keys := attached_of_working (by simp [probing])
  simp only [conclude, probing, if_neg (Nat.not_lt.mpr due), free_iff]
  split
  · next holder held =>
    have taken : ¬ (n.link.owner c.address).filter (· ≠ c.mac) = none := by
      rw [held]
      simp
    refine ⟨rfl, .inr ⟨taken, ⟨Packet.reply, holder, c.address⟩, ?_⟩⟩
    exact finds_halt (n := n.note (.held c.address holder)) attached _
  · next held =>
    refine ⟨rfl, .inl ⟨held, ?_⟩⟩
    exact finds_enter (n := n.note (.probeSucceeded c.address)) attached .ready .ready

/-- Before the deadline of a probe, nothing is found. -/
theorem conclude_waiting {deadline : Nat} (probing : (n.prober p).phase = .probing deadline)
    (waiting : n.now < deadline) : (n.conclude p c).2.prober p = n.prober p := by
  have armed : Quiet n (n.arm p (deadline - n.now)).2 := quiet_setTimer p _ n
  simp only [conclude, probing, if_pos waiting]
  split <;> next eq => rw [eq] at armed; exact armed.prober p

/-- The mail and the deadline of a probe that goes on. -/
private theorem attended_probing {deadline : Nat}
    (probing : (n.prober p).phase = .probing deadline) (ks : List Packet) :
    (∃ fs phase, (n.prober p).Finds fs phase (((n.attend p c ks).conclude p c).2.prober p) ∧
      (fs = [] ∧ phase = (n.prober p).phase ∨
        ((n.attend p c ks).conclude p c).1 = .ok () ∧ ∃ k, fs = [.used k] ∧ phase = .idle)) ∨
    ((n.attend p c ks).conclude p c).1 = .ok () ∧ deadline ≤ n.now ∧
      (∀ k ∈ ks, concerns c k = false) ∧ Free c n ∧
      (n.prober p).Finds [.ready] .ready (((n.attend p c ks).conclude p c).2.prober p) := by
  rcases attend_early (c := c) (.inr ⟨deadline, probing⟩) ks with ⟨silent, same⟩ | ⟨_, k, found⟩
  · rw [same]
    by_cases waiting : n.now < deadline
    · have kept := conclude_waiting (c := c) probing waiting
      exact .inl ⟨[], _, Prober.Finds.nothing kept, .inl ⟨rfl, rfl⟩⟩
    · have due := Nat.not_lt.mp waiting
      obtain ⟨ok, ⟨free, found⟩ | ⟨_, k, found⟩⟩ := conclude_due (c := c) probing due
      · exact .inr ⟨ok, due, silent, free, found⟩
      · exact .inl ⟨_, _, found, .inr ⟨ok, k, rfl, rfl⟩⟩
  · have rest : ∀ t, ((n.attend p c ks).prober p).phase ≠ .probing t := by
      intro t
      rw [found.phase]
      simp
    rw [conclude_of_not_probing rest]
    exact .inl ⟨_, _, found, .inr ⟨rfl, k, rfl, rfl⟩⟩

/-- A dispatch leaves a detector at rest as it is. -/
theorem dispatch_resting (idle : (n.prober p).phase = .idle) :
    (n.dispatch p).2.prober p = n.prober p := by
  rcases eq : n.dispatch p with ⟨r, n'⟩
  cases dispatched eq with
  | fault drained => exact (quiet_of_drained drained).prober p
  | resting drained _ => exact (quiet_of_drained drained).prober p
  | unconfigured _ working _ => exact absurd idle working
  | carrierless _ working _ _ => exact absurd idle working
  | attended _ working _ _ => exact absurd idle working

private theorem finds_lost {u : Unit} {n₁ : Network} (drained : n.drain p = (.ok u, n₁))
    (working : (n.prober p).phase ≠ .idle) (a : IPv4) : (n.prober p).Finds [.down] .idle
      (((((n₁.onLink (.clearInbox p)).note (.carrierLost a)).report p .down).halt p).prober p) := by
  have same := (quiet_of_drained drained).prober p
  have attached : p ∈ n₁.probers.keys := attached_of_working (same ▸ working)
  have found := finds_halt (n := (n₁.onLink (.clearInbox p)).note (.carrierLost a)) attached .down
  exact same ▸ found

/-- What a dispatch finds is one of the outcomes. -/
theorem dispatch_outcome (working : (n.prober p).phase ≠ .idle)
    (probe : (n.prober p).probe = some c) :
    ∃ fs phase, (n.prober p).Finds fs phase ((n.dispatch p).2.prober p) ∧
      Outcome p c n (n.dispatch p).1 fs phase := by
  rcases eq : n.dispatch p with ⟨r, n'⟩
  cases dispatched eq with
  | fault drained =>
    exact ⟨_, _, Prober.Finds.nothing ((quiet_of_drained drained).prober p), .nothing⟩
  | resting _ idle => exact absurd idle working
  | unconfigured _ _ nothing => rw [probe] at nothing; cases nothing
  | carrierless drained _ _ lost => exact ⟨_, _, finds_lost drained working _, .carrierLost lost⟩
  | @attended _ n₁ d drained _ probe' carrier =>
    obtain rfl : c = d := Option.some.inj (probe.symm.trans probe')
    have quiet := quiet_of_drained drained
    generalize collected : n₁.onLink (.clearInbox p) = m
    have same : m.prober p = n.prober p := collected ▸ quiet.prober p
    have now : m.now = n.now := collected ▸ quiet.now
    have owner : ∀ a, m.link.owner a = n.link.owner a := collected ▸ quiet.owner
    cases phase : (n.prober p).phase with
    | idle => exact absurd phase working
    | probing deadline =>
      rw [← same] at phase
      rcases attended_probing (c := c) phase (n.link.inbox p) with
        ⟨fs, phase', found, ⟨rfl, rfl⟩ | ⟨ok, k, rfl, rfl⟩⟩ | ⟨ok, due, silent, free, found⟩
      · exact ⟨_, _, same ▸ found, .nothing⟩
      · exact ⟨_, _, same ▸ found, ok ▸ .taken k (same ▸ phase ▸ rfl)⟩
      · refine ⟨_, _, same ▸ found, ok ▸ .succeeded ⟨?_, carrier, ?_, silent⟩ ?_⟩
        · rw [drained]
        · exact ⟨deadline, same ▸ phase, now ▸ due⟩
        · exact fun holder held => free holder ((owner _).trans held)
    | ready =>
      rw [← same] at phase
      rcases attend_early (c := c) (.inl phase) (n.link.inbox p) with
        ⟨_, unchanged⟩ | ⟨_, k, found⟩
      · rw [unchanged, conclude_of_not_probing (by simp [phase])]
        exact ⟨_, _, Prober.Finds.nothing same, .nothing⟩
      · rw [conclude_of_not_probing (by simp [found.phase])]
        exact ⟨_, _, same ▸ found, .taken k (same ▸ phase ▸ rfl)⟩
    | announced policy last =>
      rw [← same] at phase
      obtain ⟨claims, aimed, ⟨last', found⟩ | ⟨k, target, found⟩⟩ :=
        attend_announced (c := c) phase (n.link.inbox p)
      · rw [conclude_of_not_probing (by simp [found.phase])]
        exact ⟨_, _, same ▸ found, .defended claims last' (same ▸ phase) aimed⟩
      · rw [conclude_of_not_probing (by simp [found.phase])]
        exact ⟨_, _, same ▸ found, .yielded claims k (same ▸ phase) aimed target⟩

/-- A dispatch that fails finds nothing and changes nothing of the detector. -/
theorem dispatch_failed (formed : WellFormed n) (fails : (n.dispatch p).1 ≠ .ok ()) :
    (n.prober p).Finds [] (n.prober p).phase ((n.dispatch p).2.prober p) := by
  by_cases idle : (n.prober p).phase = .idle
  · exact .nothing (dispatch_resting idle)
  · obtain ⟨c, probe⟩ := formed.configured p idle
    obtain ⟨fs, phase, found, outcome⟩ := dispatch_outcome idle probe
    generalize (n.dispatch p).1 = r at outcome fails
    cases outcome with
    | nothing => exact found
    | _ => exact absurd rfl fails

/-- Without a carrier, a detector at work finds just that. -/
theorem dispatch_carrierless (working : (n.prober p).phase ≠ .idle)
    (lost : n.link.carrier = false) (succeeds : (n.dispatch p).1 = .ok ()) :
    (n.prober p).Finds [.down] .idle ((n.dispatch p).2.prober p) := by
  rcases eq : n.dispatch p with ⟨r, n'⟩
  rw [eq] at succeeds
  cases dispatched eq with
  | fault => cases succeeds
  | resting _ idle => exact absurd idle working
  | unconfigured => cases succeeds
  | carrierless drained => exact finds_lost drained working _
  | attended _ _ _ up => rw [lost] at up; cases up

/-- An undisturbed probe for a free address ends well. -/
theorem dispatch_undisturbed (undisturbed : Undisturbed p c n) (free : Free c n)
    (probe : (n.prober p).probe = some c) :
    (n.prober p).Finds [.ready] .ready ((n.dispatch p).2.prober p) := by
  obtain ⟨deadline, probing, due⟩ := undisturbed.due
  rcases eq : n.dispatch p with ⟨r, n'⟩
  cases dispatched eq with
  | fault drained =>
    have ok := undisturbed.drained
    rw [drained] at ok
    cases ok
  | resting _ idle => rw [probing] at idle; cases idle
  | unconfigured _ _ nothing => rw [probe] at nothing; cases nothing
  | carrierless _ _ _ down => rw [undisturbed.carrier] at down; cases down
  | @attended _ n₁ d drained _ probe' carrier =>
    obtain rfl : c = d := Option.some.inj (probe.symm.trans probe')
    have quiet := quiet_of_drained drained
    generalize collected : n₁.onLink (.clearInbox p) = m
    have same : m.prober p = n.prober p := collected ▸ quiet.prober p
    have now : m.now = n.now := collected ▸ quiet.now
    have owner : ∀ a, m.link.owner a = n.link.owner a := collected ▸ quiet.owner
    rw [← same] at probing
    rcases attend_early (c := c) (.inr ⟨deadline, probing⟩) (n.link.inbox p) with
      ⟨_, unchanged⟩ | ⟨⟨k, member, concerned⟩, _⟩
    · rw [unchanged]
      obtain ⟨_, ⟨_, found⟩ | ⟨held, _⟩⟩ := conclude_due (c := c) probing (now ▸ due)
      · exact same ▸ found
      · exact absurd (fun holder own => free holder ((owner _).symm.trans own)) held
    · rw [undisturbed.silence k member] at concerned
      cases concerned

/-! ## The detector after the other operations -/

/-- A detector at work refuses a probe. -/
theorem start_of_working (working : (n.prober p).phase ≠ .idle) (c : Probe) :
    n.start p c = (.error .busy, n) := by
  rw [start, if_pos working]

/-- A probe is refused without a trace on the detector, or it is the present one. -/
theorem start_own (attached : p ∈ n.probers.keys) (c : Probe) :
    (∃ fault n', n.start p c = (.error fault, n') ∧ n'.prober p = n.prober p) ∨
      ∃ t n', n.start p c = (.ok (), n') ∧ n'.prober p = ⟨.probing t, some c, {}⟩ := by
  have armed : Quiet n (n.arm p c.timeout.nanoseconds).2 := quiet_setTimer p _ n
  unfold start
  split
  · exact .inl ⟨_, _, rfl, rfl⟩
  · split
    · exact .inl ⟨_, _, rfl, rfl⟩
    · split
      · exact .inl ⟨_, _, rfl, rfl⟩
      · split
        · exact .inl ⟨_, _, rfl, rfl⟩
        · split
          · next eq =>
            rw [eq] at armed
            exact .inl ⟨_, _, rfl, armed.prober p⟩
          · next n₁ eq =>
            rw [eq] at armed
            have there : p ∈ (n₁.onLink (.clearInbox p)).probers.keys := by
              change p ∈ n₁.probers.keys
              rwa [armed.probers]
            exact .inr ⟨_, _, rfl, prober_onProber_self _ there⟩

theorem stop_own (attached : p ∈ n.probers.keys) :
    (n.stop p).prober p = { n.prober p with phase := .idle, found := {} } := by
  have there : p ∈ (n.halt p).probers.keys := (Moves.refl n).halt.apart.attached ▸ attached
  rw [stop, prober_onProber_self _ there, prober_halt attached]

theorem poll_nil (nothing : (n.prober p).found.toList = []) :
    n.poll p = (.ok (if (n.prober p).phase = .idle then .stopped else .done), n) := by
  have popped := (Queue.pop?_eq_none_iff _).mpr nothing
  cases phase : (n.prober p).phase <;> simp [poll, popped, phase]

/-- The oldest finding is handed out, and the rest stays. -/
theorem poll_cons (attached : p ∈ n.probers.keys) {f : Detection} {fs : List Detection}
    (waiting : (n.prober p).found.toList = f :: fs) :
    ∃ n' found, n.poll p = (.ok (.found f), n') ∧ found.toList = fs ∧
      n'.prober p = { n.prober p with found } := by
  rcases popped : (n.prober p).found.pop? with _ | ⟨f', rest⟩
  · rw [Queue.pop?_eq_none_iff, waiting] at popped
    cases popped
  · have held := Queue.toList_of_pop? popped
    rw [waiting, List.cons.injEq] at held
    obtain ⟨rfl, rfl⟩ := held
    refine ⟨_, rest, by rw [poll, popped], rfl, ?_⟩
    exact prober_onProber_self (fun s => { s with found := rest }) attached

/-- An announcement is refused without a trace, or the detector had its address ready and defends
it from now on. -/
theorem announce_own (policy : DefendPolicy) :
    (∃ fault, n.announce p policy = (.error fault, n)) ∨
      ∃ c n', n.announce p policy = (.ok (), n') ∧ (n.prober p).phase = .ready ∧
        (n.prober p).probe = some c ∧
        n'.prober p = { n.prober p with phase := .announced policy none } := by
  unfold announce
  split
  · next c ready probe =>
    have still := still_send p (announcement c) (n.onLink (.take c.address c.mac))
    generalize (n.onLink (.take c.address c.mac)).send p (announcement c) = m at still
    have same : (m.note (.announced c.address policy)).prober p = n.prober p := still.prober p
    have attached : p ∈ (m.note (.announced c.address policy)).probers.keys := by
      apply attached_of_working
      rw [same, ready]
      simp
    refine .inr ⟨c, _, rfl, ready, probe, ?_⟩
    rw [enter, prober_onProber_self _ attached, same]
  · exact .inl ⟨_, rfl⟩
  · exact .inl ⟨_, rfl⟩

end Network
end LinkLocal.Simulation
