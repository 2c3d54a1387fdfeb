import LinkLocal.Proofs.Host.Keeping
import LinkLocal.Proofs.Network.Findings
import LinkLocal.Proofs.Network.Happening
import LinkLocal.Proofs.Network.Strokes

/-! Detectors look in time. The one timer of a detector serves its probe and its waking:
being woken overwrites the deadline, attending takes the expiry away and has to set the
rest of the probe anew. As long as no call on a timer fails, a detector at work with mail
has a timer that has gone off, and the timer of a probe goes off by its deadline. -/
namespace LinkLocal.Simulation.Network

variable {n n' : Network} {p : Nat} {c : Probe}

/-- The detector at a tap looks in time: at its mail at once, and at its probe by the
deadline. -/
structure Alert (p : Nat) (n : Network) : Prop where
  mail : n.link.inbox p ≠ [] → n.isReadable p = true
  deadline : ∀ t, (n.prober p).phase = .probing t →
    n.isReadable p = true ∨ ∃ x ≤ t, GoesOff p x n

/-- A network in order, in which the detector at a tap looks in time if it is at work. -/
structure Vigilant (p : Nat) (n : Network) : Prop where
  formed : WellFormed n
  alert : (n.prober p).phase ≠ .idle → Alert p n

/-- Whoever looked in time still does, if it was left alone or woken. -/
theorem Alert.stirred (alert : Alert p n) (stirred : Stirred p n n')
    (probing : ∀ t, (n'.prober p).phase = .probing t → (n.prober p).phase = .probing t) :
    Alert p n' := by
  refine ⟨fun mail => ?_, fun t phase => ?_⟩
  · rcases stirred.tap with ⟨inbox, _⟩ | readable
    · exact stirred.readable (alert.mail (inbox ▸ mail))
    · exact readable
  · rcases stirred.tap with ⟨_, expiry⟩ | readable
    · rcases alert.deadline t (probing t phase) with readable | ⟨x, due, goes⟩
      · exact .inl (stirred.readable readable)
      · exact .inr ⟨x, due, expiry.trans goes⟩
    · exact .inl readable

theorem Vigilant.stirred (vigilant : Vigilant p n) (formed : WellFormed n')
    (stirred : Stirred p n n') (same : (n'.prober p).phase = (n.prober p).phase) :
    Vigilant p n' :=
  ⟨formed, fun working => (vigilant.alert (same ▸ working)).stirred stirred
    fun _ probing => same ▸ probing⟩

/-- Between two networks a detector that looked in time goes on to do so, if no call on a
timer failed. -/
def StaysVigilant (p : Nat) : Network → Network → Prop :=
  Unfailing fun n n' => Vigilant p n → Vigilant p n'

theorem StaysVigilant.trans {n'' : Network} (first : StaysVigilant p n n')
    (second : StaysVigilant p n' n'') : StaysVigilant p n n'' :=
  Unfailing.trans (fun first second vigilant => second (first vigilant)) first second

/-- What leaves the tap alone, or wakes it, and does not begin a probe. -/
theorem StaysVigilant.of_stirred (moves : WellFormed n → WellFormed n')
    (stirred : Unfailing (Stirred p) n n')
    (phase : (n'.prober p).phase = (n.prober p).phase) : StaysVigilant p n n' :=
  ⟨stirred.1, fun same vigilant => vigilant.stirred (moves vigilant.formed) (stirred.2 same) phase⟩

/-! ## Beginning a probe -/

/-- A probe begins: the timer is set for its length, and older mail is gone. -/
structure Begun (p : Nat) (c : Probe) (n n' : Network) : Prop where
  idle : (n.prober p).phase = .idle
  apart : Apart p n n'
  owner : ∀ a, n'.link.owner a = n.link.owner a
  prober : p ∈ n.probers.keys →
    n'.prober p = ⟨.probing (n.now + c.timeout.nanoseconds), some c, {}⟩
  inbox : n'.link.inbox p = []
  timer : p ∈ n.link.taps.keys → n'.link.timer p = .after n.now c.timeout.nanoseconds
  toFail : n'.toFail = n.toFail

/-- What a detector refuses to probe, or when. -/
def Refuses (p : Nat) (c : Probe) (n : Network) : Prop :=
  (n.prober p).phase ≠ .idle ∨ c.mac.isEmpty = true ∨ c.transport ≠ .ethernet ∨
    clockRange ≤ n.now + c.timeout.nanoseconds

/-- A probe is refused without a trace, cannot begin because the timer fails, or begins. -/
theorem start_cases (p : Nat) (c : Probe) (n : Network) :
    (∃ fault, n.start p c = (.error fault, n) ∧ Refuses p c n) ∨
      (∃ fault n', n.start p c = (.error fault, n') ∧ n'.toFail < n.toFail) ∨
      ∃ n', n.start p c = (.ok (), n') ∧ Begun p c n n' := by
  by_cases idle : (n.prober p).phase = .idle
  case neg => exact .inl ⟨.busy, by rw [start, if_pos idle], .inl idle⟩
  rw [start, if_neg (not_not_intro idle)]
  by_cases empty : c.mac.isEmpty = true
  · exact .inl ⟨_, if_pos empty, .inr (.inl empty)⟩
  rw [if_neg empty]
  by_cases transport : c.transport = .ethernet
  case neg => exact .inl ⟨_, if_pos transport, .inr (.inr (.inl transport))⟩
  rw [if_neg (not_not_intro transport)]
  by_cases late : clockRange ≤ n.now + c.timeout.nanoseconds
  · exact .inl ⟨_, if_pos late, .inr (.inr (.inr late))⟩
  rw [if_neg late]
  have quiet := quiet_setTimer p (.after n.now c.timeout.nanoseconds) n
  rcases setTimer_cases p (.after n.now c.timeout.nanoseconds) n with
    ⟨fault, faults, eq, less⟩ | ⟨faults, eq, same⟩
  · rw [arm, eq]
    exact .inr (.inl ⟨_, _, rfl, less⟩)
  rw [arm, eq]
  rw [eq] at quiet
  refine .inr (.inr ⟨_, rfl, ⟨idle, ?_, quiet.owner, fun attached => ?_, ?_, fun tap => ?_, same⟩⟩)
  · have cleared : Move p _ _ := .collect (p := p) (n := { n with
      faults, link := n.link.setTimer p (.after n.now c.timeout.nanoseconds) })
    exact (((quiet.apart p).trans cleared.apart).trans (apart_onProber _ _)).trans
      ((quiet_note _ _).apart p)
  · exact prober_onProber_self _ attached
  · exact (Link.inbox_clearInbox ..).trans (if_pos rfl)
  · exact (timer_clearInbox ..).trans ((timer_setTimer ..).trans (if_pos ⟨rfl, tap⟩))

/-- A probe begins where its start succeeds. -/
theorem begun_of_started (started : n.start p c = (.ok (), n')) : Begun p c n n' := by
  rcases start_cases p c n with ⟨_, refused, _⟩ | ⟨_, _, failed, _⟩ | ⟨_, ok, begun⟩
  · cases refused.symm.trans started
  · cases failed.symm.trans started
  · cases ok.symm.trans started
    exact begun

theorem Begun.alert (begun : Begun p c n n') (formed : WellFormed n) (attached : p ∈ n.probers.keys) :
    Alert p n' := by
  have tap := (formed.attached p).mp attached
  refine ⟨fun mail => absurd begun.inbox mail, fun t probing => .inr ?_⟩
  rw [begun.prober attached, Phase.probing.injEq] at probing
  subst probing
  refine ⟨_, ?_, by rw [GoesOff, begun.timer tap]; rfl⟩
  split
  · exact Nat.le_add_right ..
  · exact le_rfl

theorem staysVigilant_start (p : Nat) (c : Probe) (n : Network) :
    StaysVigilant p n (n.start p c).2 := by
  refine ⟨(strokes_start c n).toFail_le, fun same vigilant => ?_⟩
  refine ⟨(moves_start p c n).wellFormed vigilant.formed, fun working => ?_⟩
  rcases start_cases p c n with ⟨fault, eq, _⟩ | ⟨fault, n', eq, less⟩ | ⟨n', eq, begun⟩
  · rw [eq] at working ⊢
    exact vigilant.alert working
  · rw [eq] at same
    exact absurd same less.ne
  · rw [eq] at working ⊢
    have attached := begun.apart.attached ▸ attached_of_working working
    exact begun.alert vigilant.formed attached

/-! ## Attending -/

/-- A probe that goes on has its timer set for the rest of it. -/
theorem conclude_goesOff {t : Nat} (tap : p ∈ n.link.taps.keys)
    (spared : (n.conclude p c).2.toFail = n.toFail)
    (probing : ((n.conclude p c).2.prober p).phase = .probing t) :
    ∃ x ≤ t, GoesOff p x (n.conclude p c).2 := by
  by_cases before : ∃ d, (n.prober p).phase = .probing d
  · obtain ⟨d, phase⟩ := before
    by_cases waiting : n.now < d
    · rw [conclude_waiting phase waiting, phase, Phase.probing.injEq] at probing
      subst probing
      simp only [conclude, phase, if_pos waiting] at spared ⊢
      rcases setTimer_cases p (.after n.now (d - n.now)) n with
        ⟨fault, faults, eq, less⟩ | ⟨faults, eq, same⟩
      · rw [arm, eq] at spared
        exact absurd spared less.ne
      · rw [arm, eq]
        refine ⟨_, ?_, (congrArg Timer.expiry ((timer_setTimer ..).trans (if_pos ⟨rfl, tap⟩)))⟩
        split <;> omega
    · obtain ⟨_, ⟨_, found⟩ | ⟨_, k, found⟩⟩ := conclude_due (c := c) phase (Nat.not_lt.mp waiting)
      · rw [found.phase] at probing
        cases probing
      · rw [found.phase] at probing
        cases probing
  · have rest : ∀ d, (n.prober p).phase ≠ .probing d := fun d phase => before ⟨d, phase⟩
    rw [conclude_of_not_probing rest] at probing
    exact absurd probing (rest t)

/-- Whoever has attended looks in time afterwards. -/
theorem alert_dispatch (formed : WellFormed n) (spared : (n.dispatch p).2.toFail = n.toFail)
    (working : ((n.dispatch p).2.prober p).phase ≠ .idle) : Alert p (n.dispatch p).2 := by
  obtain ⟨_, ok, _⟩ := drained_of_spared spared
  rcases eq : n.dispatch p with ⟨r, n'⟩
  rw [eq] at spared working
  cases dispatched eq with
  | fault failed => cases ok.symm.trans failed
  | resting drained idle =>
    exact absurd (((quiet_of_drained drained).prober p).symm ▸ idle) working
  | unconfigured _ busy nothing =>
    obtain ⟨c, probe⟩ := formed.configured p busy
    rw [nothing] at probe
    cases probe
  | carrierless _ _ _ _ => exact absurd (phase_halt p _) working
  | @attended _ n₁ c drained busy probe _ =>
    have quiet := quiet_of_drained drained
    generalize collected : n₁.onLink (.clearInbox p) = m at *
    have inbox : m.link.inbox p = [] := by
      rw [← collected]
      exact (Link.inbox_clearInbox ..).trans (if_pos rfl)
    have own : (m.prober p).probe = some c := by
      rw [← collected]
      exact (quiet.prober p).symm ▸ probe
    have tap : p ∈ m.link.taps.keys := by
      have there := (formed.attached p).mp (attached_of_working busy)
      have kept : m.link.taps.keys = n₁.link.taps.keys := collected ▸ Table.keys_modify ..
      exact kept ▸ quiet.taps ▸ there
    have first : Strokes Notice.Plain p n m := collected ▸ (strokes_drained drained).stroke .collect
    have second := strokes_attend (p := p) c (n.link.inbox p) m
    have attended := (moves_attend (n.link.inbox p) own).1
    generalize m.attend p c (n.link.inbox p) = m' at *
    have third := strokes_conclude (p := p) c m'
    refine ⟨fun mail => absurd ?_ mail, fun t probing => .inr ?_⟩
    · rcases (second.trans third).mail with same | none
      · exact same.trans inbox
      · exact none
    · have fewer := (first.trans second).toFail_le
      have fewest := third.toFail_le
      have whole : (m'.conclude p c).2.toFail = n.toFail := spared
      exact conclude_goesOff (attended.apart.taps.symm ▸ tap) (by omega) probing

/-! ## The operations -/

theorem staysVigilant_note (x : Notice) (n : Network) : StaysVigilant p n (n.note x) :=
  .of_stirred ((quiet_note x n).conduct p).formed (.of_same rfl (.of_same le_rfl rfl rfl)) rfl

theorem staysVigilant_stop (p : Nat) (n : Network) : StaysVigilant p n (n.stop p) := by
  refine ⟨(strokes_stop p n).toFail_le, fun _ vigilant => ?_⟩
  refine ⟨(moves_stop p n).wellFormed vigilant.formed, fun working => absurd ?_ working⟩
  exact (phase_find p p (fun _ => {}) (n.halt p)).trans (phase_halt p n)

theorem staysVigilant_dispatch (p : Nat) (n : Network) :
    StaysVigilant p n (n.dispatch p).2 := by
  refine ⟨(strokes_dispatch p n).toFail_le, fun same vigilant => ?_⟩
  exact ⟨(moves_dispatch p n).wellFormed vigilant.formed,
    alert_dispatch vigilant.formed same⟩

theorem stirred_poll (p q : Nat) (n : Network) : Unfailing (Stirred q) n (n.poll p).2 := by
  unfold poll
  split <;> exact .of_same rfl (.of_same le_rfl rfl rfl)

theorem phase_poll (p q : Nat) (n : Network) :
    ((n.poll p).2.prober q).phase = (n.prober q).phase := by
  unfold poll
  split
  · next rest _ => exact phase_find p q (fun _ => rest) n
  · rfl
  · rfl

theorem staysVigilant_poll (p : Nat) (n : Network) : StaysVigilant p n (n.poll p).2 :=
  .of_stirred (moves_poll p n).wellFormed (stirred_poll p p n) (phase_poll p p n)

/-- Being told of a timer does not change when it goes off. -/
theorem stirred_told {t : Timer} (same : t.expiry = (n.link.timer p).expiry) :
    Stirred p n (n.onLink (.setTimer p t)) := by
  refine ⟨le_rfl, .inl ⟨Link.inbox_setTimer .., ?_⟩⟩
  rw [onLink, timer_setTimer]
  split
  · exact same
  · rfl

theorem staysVigilant_tell (p : Nat) (n : Network) : StaysVigilant p n (n.tell p) := by
  refine .of_stirred ((quiet_tell p n).conduct p).formed (.of_same rfl (stirred_told ?_)) rfl
  exact Timer.expiry_tell ..

theorem staysVigilant_renew (p : Nat) (n : Network) : StaysVigilant p n (n.renew p) :=
  .of_stirred ((quiet_renew p n).conduct p).formed (.of_same rfl (stirred_told rfl)) rfl

/-- The sender of an announcement hears nothing of it, and all others are woken. -/
theorem stirred_announce (p : Nat) (policy : DefendPolicy) (q : Nat) (n : Network) :
    Unfailing (Stirred q) n (n.announce p policy).2 := by
  unfold announce
  split
  · next c _ _ =>
    have taken : Unfailing (Stirred q) n (n.onLink (.take c.address c.mac)) :=
      .of_same rfl (.of_same le_rfl rfl rfl)
    have sent : Unfailing (Stirred q) n _ :=
      taken.trans Stirred.trans (stirred_send p (announcement c) q _)
    exact sent.trans Stirred.trans (.of_same rfl (.of_same le_rfl rfl rfl))
  · exact .of_same rfl (.refl q n)
  · exact .of_same rfl (.refl q n)

theorem staysVigilant_announce (p : Nat) (policy : DefendPolicy) (n : Network) :
    StaysVigilant p n (n.announce p policy).2 := by
  have stirred := stirred_announce p policy p n
  refine ⟨stirred.1, fun same vigilant => ?_⟩
  rcases announce_cases p policy n with ⟨⟨fault, refused⟩, _⟩ | ⟨_, c, announcing⟩
  · rw [refused]
    exact vigilant
  · refine ⟨announcing.formed vigilant.formed, fun _ => ?_⟩
    have working : (n.prober p).phase ≠ .idle := by simp [announcing.ready]
    refine (vigilant.alert working).stirred (stirred.2 same) fun t probing => ?_
    have stands := announcing.announced.1
    rw [probing] at stands
    cases stands

/-- A detector that looks in time goes on to do so, whatever its host does. -/
theorem keeps_vigilant (p : Nat) : (detector p).Keeps (StaysVigilant p) where
  refl _ := .of_same rfl id
  trans := .trans
  note := staysVigilant_note
  start := staysVigilant_start p
  stop := staysVigilant_stop p
  dispatch := staysVigilant_dispatch p
  poll := staysVigilant_poll p
  tell := staysVigilant_tell p
  renew := staysVigilant_renew p

end LinkLocal.Simulation.Network
