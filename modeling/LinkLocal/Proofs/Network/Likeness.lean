import LinkLocal.Proofs.Network.Attention

/-! Networks that look alike to a detector. A detector looks at the clock, the carrier, the owners,
what it remembers, and the claims to its address. Timers, faults and notices make no difference to
what it does when it is attended to, nor does mail that is none of its business, as long as no call
on a timer fails. So networks that look alike to it still do after the same has been done in both,
and a dispatch that has nothing to do leaves a network that looks as before. -/
namespace LinkLocal.Simulation

/-- What is to be seen of a detector that goes over to another phase, or finds something. -/
structure Moment where
  time : Nat
  phase : Phase
  found : List Detection
  deriving DecidableEq, Repr

namespace Network

variable {n n' n'' m m' : Network} {p : Nat} {c : Probe}

/-- Two networks look alike to the detector at a tap, which probes or holds an address. Mail does
not matter to a detector at rest. -/
structure Alike (p : Nat) (c : Probe) (n n' : Network) : Prop where
  attached : p ∈ n.probers.keys
  attached' : p ∈ n'.probers.keys
  now : n'.now = n.now
  carrier : n'.link.carrier = n.link.carrier
  prober : n'.prober p = n.prober p
  owner : ∀ a, n'.link.owner a = n.link.owner a
  mail : (n.prober p).phase ≠ .idle →
    (n'.link.inbox p).filter (concerns c) = (n.link.inbox p).filter (concerns c)

namespace Alike

theorem refl (attached : p ∈ n.probers.keys) : Alike p c n n :=
  ⟨attached, attached, rfl, rfl, rfl, fun _ => rfl, fun _ => rfl⟩

theorem symm (alike : Alike p c n n') : Alike p c n' n where
  attached := alike.attached'
  attached' := alike.attached
  now := alike.now.symm
  carrier := alike.carrier.symm
  prober := alike.prober.symm
  owner a := (alike.owner a).symm
  mail working := (alike.mail (alike.prober ▸ working)).symm

theorem trans (first : Alike p c n n') (second : Alike p c n' n'') : Alike p c n n'' where
  attached := first.attached
  attached' := second.attached'
  now := second.now.trans first.now
  carrier := second.carrier.trans first.carrier
  prober := second.prober.trans first.prober
  owner a := (second.owner a).trans (first.owner a)
  mail working := (second.mail (first.prober ▸ working)).trans (first.mail working)

/-- What happens beside a detector does not matter to it, if the claims to its address stay. -/
theorem of_still (still : Still n n') (attached : p ∈ n.probers.keys)
    (mail : (n'.link.inbox p).filter (concerns c) = (n.link.inbox p).filter (concerns c)) :
    Alike p c n n' :=
  ⟨attached, still.probers ▸ attached, still.now, still.carrier, still.prober p, still.owner,
    fun _ => mail⟩

theorem of_quiet (quiet : Quiet n n') (attached : p ∈ n.probers.keys) : Alike p c n n' :=
  of_still quiet.toStill attached (by rw [quiet.inbox])

theorem quiet (alike : Alike p c n n') (first : Quiet n m) (second : Quiet n' m') :
    Alike p c m m' :=
  ((of_quiet first alike.attached).symm.trans alike).trans (of_quiet second alike.attached')

theorem note (alike : Alike p c n n') (x : Notice) : Alike p c (n.note x) (n'.note x) :=
  alike.quiet (quiet_note x n) (quiet_note x n')

/-! ## Parts of the work -/

theorem onProber (alike : Alike p c n n') (f : Prober → Prober)
    (resting : ∀ s, s.phase = .idle → (f s).phase = .idle) :
    Alike p c (n.onProber p f) (n'.onProber p f) where
  attached := (keys_onProber f).symm ▸ alike.attached
  attached' := (keys_onProber f).symm ▸ alike.attached'
  now := alike.now
  carrier := alike.carrier
  prober := by
    rw [prober_onProber_self f alike.attached, prober_onProber_self f alike.attached', alike.prober]
  owner := alike.owner
  mail working := by
    rw [prober_onProber_self f alike.attached] at working
    exact alike.mail fun idle => working (resting _ idle)

theorem report (alike : Alike p c n n') (f : Detection) :
    Alike p c (n.report p f) (n'.report p f) := alike.onProber _ fun _ idle => idle

/-- A detector that is at work already may go over to any phase. -/
theorem enter (alike : Alike p c n n') (phase : Phase)
    (working : (n.prober p).phase = .idle → phase = .idle) :
    Alike p c (n.enter p phase) (n'.enter p phase) where
  attached := (keys_onProber _).symm ▸ alike.attached
  attached' := (keys_onProber _).symm ▸ alike.attached'
  now := alike.now
  carrier := alike.carrier
  prober := by
    rw [Network.enter, Network.enter, prober_onProber_self _ alike.attached,
      prober_onProber_self _ alike.attached', alike.prober]
  owner := alike.owner
  mail busy := by
    rw [Network.enter, prober_onProber_self _ alike.attached] at busy
    exact alike.mail fun idle => busy (working idle)

/-- A change of the owners of the same kind in both networks makes no difference. -/
theorem onOwners (alike : Alike p c n n') {f : Link → Link} (taps : ∀ l, (f l).taps = l.taps)
    (carrier : ∀ l, (f l).carrier = l.carrier)
    (owner : ∀ {l l' : Link}, (∀ a, l'.owner a = l.owner a) → ∀ a, (f l').owner a = (f l).owner a) :
    Alike p c (n.onLink f) (n'.onLink f) where
  attached := alike.attached
  attached' := alike.attached'
  now := alike.now
  carrier := (carrier _).trans (alike.carrier.trans (carrier _).symm)
  prober := alike.prober
  owner := owner alike.owner
  mail working := by
    rw [Network.onLink, Network.onLink, inbox_congr (taps _), inbox_congr (taps _)]
    exact alike.mail working

theorem take (alike : Alike p c n n') (a : IPv4) (m : LinkAddress) :
    Alike p c (n.onLink (.take a m)) (n'.onLink (.take a m)) :=
  alike.onOwners (fun _ => rfl) (fun _ => rfl) fun same b => by
    rw [Link.owner_take, Link.owner_take, same]

theorem release (alike : Alike p c n n') (a : IPv4) :
    Alike p c (n.release a) (n'.release a) :=
  alike.onOwners (fun _ => rfl) (fun _ => rfl) fun same b => by
    rw [Link.owner_release, Link.owner_release, same]

theorem giveUp (alike : Alike p c n n') : Alike p c (n.giveUp p) (n'.giveUp p) := by
  rw [Network.giveUp, Network.giveUp, alike.prober]
  split
  · refine alike.onOwners (fun _ => Link.taps_giveUp ..) (fun l => ?_) fun same b => ?_
    · unfold Link.giveUp
      split <;> rfl
    · rw [Link.owner_giveUp, Link.owner_giveUp, same, same]
  · exact alike

theorem halt (alike : Alike p c n n') : Alike p c (n.halt p) (n'.halt p) :=
  (alike.giveUp.enter .idle fun _ => rfl).quiet (quiet_halt p n) (quiet_halt p n')

/-- What a detector sends does not come back to it. -/
theorem of_send (k : Packet) (attached : p ∈ n.probers.keys) : Alike p c n (n.send p k) :=
  of_still (still_send p k n) attached (by rw [inbox_send, if_neg (fun both => both.1 rfl)])

theorem send (alike : Alike p c n n') (k : Packet) : Alike p c (n.send p k) (n'.send p k) :=
  ((of_send k alike.attached).symm.trans alike).trans (of_send k alike.attached')

theorem face (alike : Alike p c n n') (k : Packet) : Alike p c (n.face p c k) (n'.face p c k) := by
  rw [Network.face, Network.face, alike.prober, alike.now]
  split
  · exact alike
  · exact ((alike.note _).report _).halt
  · exact ((alike.note _).report _).halt
  · next announced =>
    split
    · refine (((alike.enter _ fun idle => ?_).send _).note _).report _
      cases announced.symm.trans idle
    · exact ((alike.note _).report _).halt

end Alike

/-- A detector takes the claims to its address, and no other packets. -/
theorem attend_eq (ks : List Packet) (n : Network) :
    n.attend p c ks = (ks.filter (concerns c)).foldl (fun n k => n.face p c k) n := by
  rw [attend, List.foldl_filter]

namespace Alike

theorem attend (alike : Alike p c n n') {ks ks' : List Packet}
    (claims : ks'.filter (concerns c) = ks.filter (concerns c)) :
    Alike p c (n.attend p c ks) (n'.attend p c ks') := by
  rw [attend_eq, attend_eq, claims]
  induction ks.filter (concerns c) generalizing n n' with
  | nil => exact alike
  | cons k ks ih => exact ih (alike.face k)

/-- Whether the timer can be set does not matter: a detector looks at its deadline again when it is
attended to. -/
theorem conclude (alike : Alike p c n n') :
    Alike p c (n.conclude p c).2 (n'.conclude p c).2 := by
  have armed (d : Nat) : Alike p c (n.arm p d).2 (n'.arm p d).2 :=
    alike.quiet (quiet_setTimer p _ n) (quiet_setTimer p _ n')
  rw [Network.conclude, Network.conclude, alike.prober, alike.now, alike.owner]
  split
  · next t probing =>
    split
    · have waits := armed (t - n.now)
      rcases eq : n.arm p (t - n.now) with ⟨_ | _, m⟩ <;>
        rcases eq' : n'.arm p (t - n.now) with ⟨_ | _, m'⟩ <;>
        rw [eq, eq'] at waits <;> exact waits
    · split
      · exact ((alike.note _).report _).halt
      · refine ((alike.note _).enter .ready fun idle => ?_).report _
        cases probing.symm.trans idle
  · exact alike

end Alike

/-! ## Dispatches -/

namespace Alike

theorem collect (alike : Alike p c n n') :
    Alike p c (n.onLink (.clearInbox p)) (n'.onLink (.clearInbox p)) where
  attached := alike.attached
  attached' := alike.attached'
  now := alike.now
  carrier := alike.carrier
  prober := alike.prober
  owner := alike.owner
  mail _ := by
    rw [Network.onLink, Network.onLink, Link.inbox_clearInbox, Link.inbox_clearInbox, if_pos rfl,
      if_pos rfl]

theorem dispatch (alike : Alike p c n n')
    (probe : (n.prober p).phase ≠ .idle → (n.prober p).probe = some c)
    (spared : (n.dispatch p).2.toFail = n.toFail)
    (spared' : (n'.dispatch p).2.toFail = n'.toFail) :
    Alike p c (n.dispatch p).2 (n'.dispatch p).2 := by
  obtain ⟨m, drained, quiet⟩ := drained_of_spared spared
  obtain ⟨m', drained', quiet'⟩ := drained_of_spared spared'
  have taken := (alike.quiet quiet quiet').collect
  simp only [Network.dispatch, drained, drained', taken.prober, taken.carrier, quiet.inbox,
    quiet'.inbox]
  have same : (m.onLink (.clearInbox p)).prober p = n.prober p := quiet.prober p
  rw [← same] at probe
  have mail := alike.mail
  rw [← same] at mail
  generalize m.onLink (.clearInbox p) = k, m'.onLink (.clearInbox p) = k' at taken probe mail ⊢
  split
  · exact taken
  · exact taken
  · next d known working =>
    obtain rfl : c = d := Option.some.inj ((probe working).symm.trans known)
    split
    · exact (taken.attend (mail working)).conclude
    · exact ((taken.note _).report _).halt

end Alike

/-! ## Detectors with nothing to do -/

/-- The detector at a tap has nothing to do if it is attended to now. -/
def NothingDue (p : Nat) (c : Probe) (n : Network) : Prop :=
  (n.prober p).phase ≠ .idle → n.link.carrier = true ∧
    (n.link.inbox p).filter (concerns c) = [] ∧ ∀ t, (n.prober p).phase = .probing t → n.now < t

theorem NothingDue.congr (rested : NothingDue p c n) (alike : Alike p c n n') : NothingDue p c n' := by
  intro working
  rw [alike.prober] at working ⊢
  obtain ⟨carrier, mail, early⟩ := rested working
  exact ⟨alike.carrier.trans carrier, (alike.mail working).trans mail, alike.now ▸ early⟩

/-- Attending to a detector that has nothing to do makes no difference. -/
theorem NothingDue.dispatch (rested : NothingDue p c n) (attached : p ∈ n.probers.keys)
    (probe : (n.prober p).phase ≠ .idle → (n.prober p).probe = some c)
    (spared : (n.dispatch p).2.toFail = n.toFail) : Alike p c n (n.dispatch p).2 := by
  obtain ⟨m, drained, quiet⟩ := drained_of_spared spared
  have same : (m.onLink (.clearInbox p)).prober p = n.prober p := quiet.prober p
  have collected : Alike p c n (m.onLink (.clearInbox p)) := by
    refine ⟨attached, quiet.probers ▸ attached, quiet.now, quiet.carrier, same, quiet.owner, ?_⟩
    intro working
    rw [(rested working).2.1, onLink, Link.inbox_clearInbox, if_pos rfl]
    rfl
  simp only [Network.dispatch, drained, same]
  split
  · exact collected
  · exact collected
  · next d known working =>
    obtain rfl : c = d := Option.some.inj ((probe working).symm.trans known)
    obtain ⟨carrier, mail, early⟩ := rested working
    rw [if_pos (collected.carrier.trans carrier), attend_eq, quiet.inbox, mail]
    refine collected.trans ?_
    generalize m.onLink (.clearInbox p) = k at same collected
    have armed (d : Nat) : Alike p c k (k.arm p d).2 :=
      .of_quiet (quiet_setTimer p _ k) collected.attached'
    rw [List.foldl_nil, conclude, same]
    split
    · next t probing =>
      rw [if_pos (collected.now.symm ▸ early t probing)]
      have waits := armed (t - k.now)
      rcases eq : k.arm p (t - k.now) with ⟨_ | _, k'⟩ <;> rw [eq] at waits <;> exact waits
    · exact .refl collected.attached'

/-- A probe that is still going on after a look at its deadline has time left. -/
theorem early_of_conclude {t : Nat} (probing : ((n.conclude p c).2.prober p).phase = .probing t) :
    n.now < t := by
  by_cases before : ∃ t', (n.prober p).phase = .probing t'
  case neg =>
    rw [conclude_of_not_probing fun t' phase => before ⟨t', phase⟩] at probing
    exact absurd ⟨t, probing⟩ before
  obtain ⟨t', phase⟩ := before
  by_cases waiting : n.now < t'
  · rw [conclude_waiting phase waiting, phase] at probing
    cases probing
    exact waiting
  · rcases (conclude_due (c := c) phase (Nat.not_lt.mp waiting)).2 with
      ⟨_, found⟩ | ⟨_, _, found⟩
    · cases found.phase.symm.trans probing
    · cases found.phase.symm.trans probing

/-- There is nothing at all for the detector at a tap to attend to now. -/
def Undue (p : Nat) (n : Network) : Prop :=
  (n.prober p).phase ≠ .idle → n.link.carrier = true ∧ n.link.inbox p = [] ∧
    ∀ t, (n.prober p).phase = .probing t → n.now < t

theorem Undue.nothingDue (undue : Undue p n) : NothingDue p c n := by
  intro working
  obtain ⟨carrier, empty, early⟩ := undue working
  exact ⟨carrier, by rw [empty]; rfl, early⟩

theorem Undue.mono (undue : Undue p n)
    (working : (n'.prober p).phase ≠ .idle → (n.prober p).phase ≠ .idle)
    (carrier : n'.link.carrier = n.link.carrier) (inbox : n'.link.inbox p = n.link.inbox p)
    (now : n'.now = n.now)
    (probing : ∀ t, (n'.prober p).phase = .probing t → (n.prober p).phase = .probing t) :
    Undue p n' := by
  intro busy
  obtain ⟨up, empty, early⟩ := undue (working busy)
  exact ⟨carrier.trans up, inbox.trans empty, fun t phase => now ▸ early t (probing t phase)⟩

theorem Undue.quiet (undue : Undue p n) (quiet : Quiet n n') : Undue p n' :=
  undue.mono (quiet.prober p ▸ id) quiet.carrier (quiet.inbox p) quiet.now
    fun _ probing => quiet.prober p ▸ probing

/-- Whoever looks in time has nothing to attend to while the descriptor is not readable, as long as
there is a carrier. -/
theorem undue_of_unreadable (vigilant : Vigilant p n) (unreadable : n.isReadable p ≠ true)
    (carrier : (n.prober p).phase ≠ .idle → n.link.carrier = true) : Undue p n := by
  intro working
  have alert := vigilant.alert working
  refine ⟨carrier working, Decidable.not_not.mp fun mail => unreadable (alert.mail mail),
    fun t probing => ?_⟩
  rcases alert.deadline t probing with readable | ⟨x, early, goes⟩
  · exact absurd readable unreadable
  · refine lt_of_lt_of_le (Nat.not_le.mp fun due => unreadable ?_) early
    exact isReadable_iff.mpr ⟨x, goes, due⟩

/-- Nothing is left to attend to after a detector was attended to. -/
theorem undue_dispatch (formed : WellFormed n)
    (spared : (n.dispatch p).2.toFail = n.toFail) : Undue p (n.dispatch p).2 := by
  have kept := (moves_dispatch p n).apart
  obtain ⟨n₁, drained, quiet⟩ := drained_of_spared spared
  rcases eq : n.dispatch p with ⟨r, n'⟩
  rw [eq] at kept
  intro working
  dsimp only at kept working ⊢
  cases dispatched eq with
  | fault failed => cases drained.symm.trans failed
  | resting drained idle => exact absurd ((quiet_of_drained drained).prober p ▸ idle) working
  | unconfigured _ busy nothing =>
    obtain ⟨d, probe⟩ := formed.configured p busy
    cases probe.symm.trans nothing
  | carrierless => exact absurd (phase_halt p _) working
  | @attended _ n₁ d _ _ _ carrier =>
    refine ⟨kept.carrier.trans carrier, ?_, fun t probing => ?_⟩
    · have strokes := (strokes_attend d (n.link.inbox p) (n₁.onLink (.clearInbox p))).trans
        (strokes_conclude (p := p) d _)
      have empty : (n₁.onLink (.clearInbox p)).link.inbox p = [] :=
        (Link.inbox_clearInbox ..).trans (if_pos rfl)
      exact strokes.mail.elim (fun same => same.trans empty) id
    · rw [(moves_conclude p d _).apart.now]
      exact early_of_conclude probing

/-! ## What else happens -/

namespace Alike

theorem poll (alike : Alike p c n n') : Alike p c (n.poll p).2 (n'.poll p).2 := by
  rw [Network.poll, Network.poll, alike.prober]
  split
  · exact alike.onProber _ fun _ idle => idle
  · exact alike
  · exact alike

theorem announce (alike : Alike p c n n') (policy : DefendPolicy) :
    Alike p c (n.announce p policy).2 (n'.announce p policy).2 := by
  rw [Network.announce, Network.announce, alike.prober]
  split
  · next ready _ =>
    refine (((alike.take _ _).send _).note _).enter _ fun idle => ?_
    rw [(quiet_note _ _).prober, (still_send p _ _).prober] at idle
    cases ready.symm.trans idle
  · exact alike
  · exact alike

theorem claim (alike : Alike p c n n') (tap : p ∈ n.link.taps.keys) (tap' : p ∈ n'.link.taps.keys)
    (k : Packet) : Alike p c (n.claim k) (n'.claim k) where
  attached := (still_claim k n).probers ▸ alike.attached
  attached' := (still_claim k n').probers ▸ alike.attached'
  now := by rw [(still_claim k n).now, (still_claim k n').now, alike.now]
  carrier := by rw [(still_claim k n).carrier, (still_claim k n').carrier, alike.carrier]
  prober := by rw [(still_claim k n).prober, (still_claim k n').prober, alike.prober]
  owner a := by rw [(still_claim k n).owner, (still_claim k n').owner, alike.owner]
  mail working := by
    rw [(still_claim k n).prober] at working
    rw [inbox_claim, inbox_claim, if_pos tap, if_pos tap', List.filter_append, List.filter_append,
      alike.mail working]

/-- A packet that is no claim to the address makes no difference. -/
theorem of_claim {k : Packet} (ignored : concerns c k = false) (attached : p ∈ n.probers.keys) :
    Alike p c n (n.claim k) := by
  refine of_still (still_claim k n) attached ?_
  rw [inbox_claim]
  split
  · rw [List.filter_append, List.filter_cons_of_neg (by simp [ignored]), List.filter_nil,
      List.append_nil]
  · rfl

theorem setCarrier (alike : Alike p c n n') (up : Bool) :
    Alike p c (n.setCarrier up) (n'.setCarrier up) := by
  have changed : Alike p c
      ((n.note (.carrier up)).onLink fun l => { l with carrier := up })
      ((n'.note (.carrier up)).onLink fun l => { l with carrier := up }) :=
    { alike with carrier := rfl }
  rw [Network.setCarrier, Network.setCarrier, alike.carrier]
  split
  · exact alike
  · dsimp only
    split
    · exact changed
    · exact changed.quiet (quiet_wakeAll _ _) (quiet_wakeAll _ _)

theorem occupy (alike : Alike p c n n') (a : IPv4) (m : LinkAddress) :
    Alike p c (n.occupy a m) (n'.occupy a m) := (alike.note _).take a m

theorem advance (alike : Alike p c n n') (nanoseconds : Nat) :
    Alike p c (n.advance nanoseconds) (n'.advance nanoseconds) :=
  { alike with now := congrArg (· + nanoseconds) alike.now }

end Alike

/-! ## What is to be seen -/

/-- What is to be seen of the detector at a tap from one network to the next. Findings come in at
the back, behind those that wait. -/
def moment (p : Nat) (n n' : Network) : List Moment :=
  let phase := (n'.prober p).phase
  let found := (n'.prober p).found.toList.drop (n.prober p).found.toList.length
  if phase = (n.prober p).phase ∧ found = [] then [] else [⟨n'.now, phase, found⟩]

theorem moment_of_same (same : n'.prober p = n.prober p) : n.moment p n' = [] := by
  simp [moment, same]

theorem Alike.moment (before : Alike p c n m) (later : Alike p c n' m') :
    m.moment p m' = n.moment p n' := by
  rw [Network.moment, Network.moment, before.prober, later.prober, later.now]

/-! ## Going on -/

/-- A detector at rest begins nothing by itself, and one at work keeps to its probe. -/
theorem probe_dispatch (formed : WellFormed n) (working : ((n.dispatch p).2.prober p).phase ≠ .idle) :
    (n.prober p).phase ≠ .idle ∧ ((n.dispatch p).2.prober p).probe = (n.prober p).probe := by
  by_cases idle : (n.prober p).phase = .idle
  · rw [dispatch_resting idle] at working
    exact absurd idle working
  · obtain ⟨c, probe⟩ := formed.configured p idle
    obtain ⟨_, _, finds, _⟩ := dispatch_outcome idle probe
    exact ⟨idle, finds.probe⟩

theorem probe_poll (p : Nat) (n : Network) :
    ((n.poll p).2.prober p).probe = (n.prober p).probe := by
  unfold poll
  split
  · next rest _ => exact probe_find p p (fun _ => rest) n
  · rfl
  · rfl

theorem probe_announce {policy : DefendPolicy}
    (working : ((n.announce p policy).2.prober p).phase ≠ .idle) :
    (n.prober p).phase ≠ .idle ∧ ((n.announce p policy).2.prober p).probe = (n.prober p).probe := by
  rcases announce_cases p policy n with ⟨⟨fault, refused⟩, _⟩ | ⟨_, d, announcing⟩
  · rw [refused] at working ⊢
    exact ⟨working, rfl⟩
  · refine ⟨by rw [announcing.ready]; nofun, announcing.announced.2.trans announcing.probe.symm⟩

end Network
end LinkLocal.Simulation
