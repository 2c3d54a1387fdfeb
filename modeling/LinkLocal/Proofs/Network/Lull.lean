import LinkLocal.Proofs.Host.Search
import LinkLocal.Proofs.Network.Likeness
import LinkLocal.Proofs.Network.Twins
import LinkLocal.Proofs.Network.Waiting

/-! What a dispatch leaves of the descriptor, when no call on a timer fails. A detector that is at
work afterwards has nothing to attend to, and its descriptor is not readable, with one exception:
a timer cannot be set to less than the shortest delay, and it goes off at once when it is set to
that. So at the last moment before the end of a probe every dispatch leaves the timer readable. A
detector that has nothing to attend to may be dispatched all the same, in a network or in its twin
alone, and all that this changes is its timer. -/
namespace LinkLocal.Simulation.Network

variable {n n' m : Network} {p q : Nat} {c : Probe} {own : Regard}

/-- A probe that takes some time takes longer than the shortest delay. -/
theorem shortestDelay_lt_timeout (timed : c.timeoutMsec ≠ 0) :
    Timer.shortestDelay < c.timeout.nanoseconds := by
  have long : c.timeoutMsec.toNat ≠ 0 := fun zero => timed (UInt64.toNat_inj.mp zero)
  have length : c.timeout.nanoseconds = c.timeoutMsec.toNat * 1000000 := rfl
  rw [length, Timer.shortestDelay]
  omega

/-- A timer that is set to more than the shortest delay does not go off at once. -/
theorem isReadable_after {delay : Nat} (long : Timer.shortestDelay < delay) (now : Nat) :
    (Timer.after now delay).isReadable now = false := by
  rw [Timer.isReadable, Timer.after, if_neg (Nat.not_le.mpr long)]
  simp only [Option.any_some, decide_eq_false_iff_not]
  omega

/-- It is the last moment before the end of the probe under way. -/
def Verging (p : Nat) (n : Network) : Prop :=
  ∃ t, (n.prober p).phase = .probing t ∧ t = n.now + Timer.shortestDelay

/-- The detector at a tap is at rest, or its descriptor is not readable, or it is the last moment of
its probe. -/
def Lull (p : Nat) (n : Network) : Prop :=
  (n.prober p).phase ≠ .idle → n.isReadable p = false ∨ Verging p n

theorem Lull.of_same (lull : Lull p n) (now : n'.now = n.now)
    (phase : (n'.prober p).phase = (n.prober p).phase)
    (expiry : (n'.link.timer p).expiry = (n.link.timer p).expiry) : Lull p n' := by
  intro working
  refine (lull (phase ▸ working)).imp (fun unreadable => ?_) fun ⟨t, probing, due⟩ => ?_
  · rw [isReadable, Timer.isReadable, expiry, now]
    exact unreadable
  · exact ⟨t, phase.trans probing, now.symm ▸ due⟩

theorem Sets.lull {t : Timer} (sets : Sets p t n n') (lull : Lull p n)
    (expiry : t.expiry = (n.link.timer p).expiry) : Lull p n' := by
  refine lull.of_same sets.now (congrArg _ (sets.prober p)) ?_
  rw [sets.timer]
  split
  · exact expiry
  · next absent => rw [timer_of_absent absent]

/-! ## The timer of a detector that attends -/

theorem timer_wake_of_ne (other : p ≠ q) (n : Network) :
    (n.wake q).link.timer p = n.link.timer p := by
  rw [wake, arm]
  rcases setTimer_cases q (.after n.now 0) n with ⟨fault, faults, eq, _⟩ | ⟨faults, eq, _⟩
  · rw [eq]
    rfl
  · rw [eq]
    exact (timer_setTimer ..).trans (if_neg fun both => other both.1.symm)

/-- What a detector sends does not come back to it. -/
theorem timer_send (p : Nat) (k : Packet) (n : Network) :
    (n.send p k).link.timer p = n.link.timer p := by
  have delivered (qs : List Nat) (others : ∀ q ∈ qs, p ≠ q) (m : Network) :
      (qs.foldl (deliver k) m).link.timer p = m.link.timer p := by
    induction qs generalizing m with
    | nil => rfl
    | cons q qs ih =>
      rw [List.foldl_cons, ih (fun q member => others q (.tail _ member)), deliver,
        timer_wake_of_ne (others q (.head _))]
      exact timer_deliver ..
  refine delivered _ (fun q member => ?_) _
  have other := (List.mem_filter.mp member).2
  exact Ne.symm (by simpa using other)

/-- Between two networks the timer of a tap was switched off, if it was touched at all. -/
def Eased (p : Nat) (n n' : Network) : Prop :=
  n'.link.timer p = .disarmed ∨ n'.link.timer p = n.link.timer p

theorem Eased.trans {n'' : Network} (first : Eased p n n') (second : Eased p n' n'') :
    Eased p n n'' := by
  rcases second with off | same
  · exact .inl off
  · exact first.imp same.trans same.trans

theorem eased_attend (c : Probe) (ks : List Packet) (n : Network) :
    Eased p n (n.attend p c ks) := by
  have faced (k : Packet) (n : Network) : Eased p n (n.face p c k) := by
    unfold face
    split
    · exact .inr rfl
    · exact timer_halt p _
    · exact timer_halt p _
    · split
      · exact .inr (timer_send p _ _)
      · exact timer_halt p _
  induction ks generalizing n with
  | nil => exact .inr rfl
  | cons k ks ih =>
    rw [attend_cons]
    split
    · exact (faced k n).trans (ih _)
    · exact ih n

/-- A timer that was switched off is not readable. -/
theorem Eased.unreadable (eased : Eased p n n') (now : n'.now = n.now)
    (unreadable : n.isReadable p = false) : n'.isReadable p = false := by
  rw [isReadable]
  rcases eased with off | same
  · rw [off]
    rfl
  · rw [same, now]
    exact unreadable

theorem Sets.unreadable (drained : Sets p ((n.link.timer p).drained n.now) n n') :
    n'.isReadable p = false := by
  rw [isReadable, drained.timer, drained.now]
  split
  · exact Timer.isReadable_drained ..
  · rfl

/-- A look at the deadline leaves the descriptor unreadable, or the deadline is at the next
moment. -/
theorem unreadable_conclude (spared : n.toFail = 0) (tap : p ∈ n.link.taps.keys)
    (unreadable : n.isReadable p = false) :
    (n.conclude p c).2.isReadable p = false ∨ Verging p (n.conclude p c).2 := by
  by_cases before : ∃ t, (n.prober p).phase = .probing t
  case neg =>
    rw [conclude_of_not_probing fun t phase => before ⟨t, phase⟩]
    exact .inl unreadable
  obtain ⟨t, phase⟩ := before
  by_cases waiting : n.now < t
  case neg =>
    have due := Nat.not_lt.mp waiting
    have eased : Eased p n (n.conclude p c).2 := timer_conclude phase due
    exact .inl (eased.unreadable (moves_conclude p c n).apart.now unreadable)
  obtain ⟨m, set, sets⟩ := sets_setTimer spared p (.after n.now (t - n.now))
  simp only [conclude, phase, if_pos waiting, arm, set]
  by_cases near : t - n.now = Timer.shortestDelay
  · refine .inr ⟨t, sets.prober p ▸ phase, ?_⟩
    rw [sets.now]
    omega
  · refine .inl ?_
    have later : Timer.shortestDelay < t - n.now := by
      simp only [Timer.shortestDelay] at near ⊢
      omega
    rw [isReadable, sets.timer, if_pos tap, sets.now]
    exact isReadable_after later _

/-- A detector that is at work after a dispatch is left alone by its descriptor, or it is the last
moment of its probe. -/
theorem lull_dispatch (formed : WellFormed n) (spared : n.toFail = 0) :
    Lull p (n.dispatch p).2 := by
  obtain ⟨n₁, ok, sets⟩ := sets_drain spared p
  rcases eq : n.dispatch p with ⟨r, n'⟩
  intro working
  dsimp only at working ⊢
  cases dispatched eq with
  | fault failed => cases ok.symm.trans failed
  | resting drained idle => exact absurd ((quiet_of_drained drained).prober p ▸ idle) working
  | unconfigured _ busy nothing =>
    obtain ⟨c, probe⟩ := formed.configured p busy
    cases probe.symm.trans nothing
  | carrierless => exact absurd (phase_halt p _) working
  | @attended _ _ c drained busy probe up =>
    cases ok.symm.trans drained
    have unread : (n₁.onLink (.clearInbox p)).isReadable p = false := by
      rw [isReadable, onLink, timer_clearInbox]
      exact sets.unreadable
    have tap : p ∈ (n₁.onLink (.clearInbox p)).link.taps.keys := by
      have there := (formed.attached p).mp (attached_of_working busy)
      have same : (n₁.onLink (.clearInbox p)).link.taps.keys = n₁.link.taps.keys :=
        Table.keys_modify ..
      exact same ▸ sets.taps ▸ there
    have own : ((n₁.onLink (.clearInbox p)).prober p).probe = some c :=
      (congrArg Prober.probe (sets.prober p)).trans probe
    have toFail : (n₁.onLink (.clearInbox p)).toFail = 0 := sets.toFail.trans spared
    generalize n₁.onLink (.clearInbox p) = m at *
    have strokes := strokes_attend (p := p) c (n.link.inbox p) m
    have eased := eased_attend (p := p) c (n.link.inbox p) m
    have attended := (moves_attend (n.link.inbox p) own).1.apart
    generalize m.attend p c (n.link.inbox p) = m' at *
    have fewer := strokes.toFail_le
    exact unreadable_conclude (show m'.toFail = 0 by omega) (attended.taps.symm ▸ tap)
      (eased.unreadable attended.now unread)

/-! ## Dispatches that find nothing -/

/-- To throw the mail away is nothing where there is none. -/
theorem Sets.collect {t : Timer} (sets : Sets p t n n') (empty : n.link.inbox p = []) :
    Sets p t n (n'.onLink (.clearInbox p)) where
  toStill := sets.toStill.trans ⟨rfl, rfl, fun _ => rfl, rfl, Table.keys_modify .., rfl⟩
  inbox q := by
    rw [onLink, Link.inbox_clearInbox]
    split
    · next same => rw [← same, empty]
    · exact sets.inbox q
  log := sets.log
  create := sets.create
  toFail := sets.toFail
  timer := (timer_clearInbox ..).trans sets.timer
  others q other := (timer_clearInbox ..).trans (sets.others q other)

/-- A timer that is set by a look at the deadline, if it is set at all, was not told of. -/
private theorem sets_conclude (spared : n.toFail = 0)
    (early : ∀ t, (n.prober p).phase = .probing t → n.now < t) :
    ∃ t m, n.conclude p c = (.ok (), m) ∧ Sets p t n m ∧
      (t.told = true → t = n.link.timer p) := by
  by_cases probing : ∃ t, (n.prober p).phase = .probing t
  case neg =>
    rw [conclude_of_not_probing fun t phase => probing ⟨t, phase⟩]
    exact ⟨_, n, rfl, .refl p n, fun _ => rfl⟩
  obtain ⟨t, phase⟩ := probing
  obtain ⟨m, set, sets⟩ := sets_setTimer spared p (.after n.now (t - n.now))
  refine ⟨_, m, ?_, sets, nofun⟩
  simp only [conclude, phase, if_pos (early t phase), arm, set]

/-- A dispatch that finds nothing sets the timer, if it is told of then it was so before, and the
timer had not gone off. -/
theorem sets_dispatch (undue : Undue p n) (formed : WellFormed n) (spared : n.toFail = 0)
    (working : (n.prober p).phase ≠ .idle) :
    ∃ t m, n.dispatch p = (.ok (), m) ∧ Sets p t n m ∧
      (t.told = true → (n.link.timer p).told = true ∧ n.isReadable p = false) := by
  obtain ⟨up, empty, early⟩ := undue working
  obtain ⟨c, probe⟩ := formed.configured p working
  obtain ⟨m, drained, first⟩ := sets_drain spared p
  rw [dispatch_eq_conclude drained working probe up empty]
  replace first := first.collect empty
  generalize m.onLink (.clearInbox p) = k at *
  obtain ⟨t, m, concluded, last, told⟩ := sets_conclude (p := p) (c := c)
    (first.toFail.trans spared) fun t phase => first.now ▸ early t (first.prober p ▸ phase)
  refine ⟨t, m, concluded, first.trans last, fun heard => ?_⟩
  rw [told heard, first.timer] at heard
  split at heard
  · rw [Timer.drained] at heard
    split at heard
    · cases heard
    · next unreadable => exact ⟨heard, Bool.eq_false_iff.mpr unreadable⟩
  · cases heard

/-- Twins have the same to attend to. -/
theorem Twins.undue_iff (twins : Twins p own n n') (mail : (n.prober p).phase ≠ .idle → own.mail) :
    Undue p n' ↔ Undue p n := by
  rw [Undue, Undue, twins.prober, twins.carrier, twins.now]
  exact forall_congr' fun working => by rw [twins.inbox p fun _ => mail working]

/-- What finds nothing makes no difference to twins in which the timer of the tap is not minded:
the detector may be dispatched in the first of them alone. Nobody was told of its timer then. -/
theorem Twins.dispatch_left (twins : Twins p own n n') (undue : Undue p n) (formed : WellFormed n)
    (working : (n.prober p).phase ≠ .idle) (unminded : ¬ own.timer) :
    (n.dispatch p).1 = .ok () ∧ Twins p { own with told := False } (n.dispatch p).2 n' := by
  obtain ⟨t, m, attended, sets, told⟩ := sets_dispatch undue formed twins.spared working
  rw [attended]
  have unheard (heard : t.told = true) : False := by
    obtain ⟨before, unreadable⟩ := told heard
    cases unreadable.symm.trans (twins.told before).2
  refine ⟨rfl, ?_⟩
  have after := twins.sets sets (.refl p n') (fun _ heard => (unheard heard).elim) (absurd rfl)
    fun _ minded => absurd minded unminded
  refine { after with told := fun heard => ?_ }
  rw [sets.timer] at heard
  split at heard
  · exact (unheard heard).elim
  · cases heard

/-- It may be dispatched in the second of them alone. -/
theorem Twins.dispatch_right (twins : Twins p own n n') (undue : Undue p n')
    (formed : WellFormed n') (working : (n'.prober p).phase ≠ .idle) (unminded : ¬ own.timer) :
    (n'.dispatch p).1 = .ok () ∧ Twins p own n (n'.dispatch p).2 := by
  obtain ⟨t, m, attended, sets, _⟩ := sets_dispatch undue formed twins.spared' working
  rw [attended]
  exact ⟨rfl, twins.sets (.refl p n) sets (fun _ => twins.told) (absurd rfl)
    fun _ minded => absurd minded unminded⟩

/-- So may a detector at rest, if neither its mail nor its timer is minded. -/
theorem Twins.dispatch_resting (twins : Twins p own n n') (idle : (n'.prober p).phase = .idle)
    (mail : ¬ own.mail) (timer : ¬ own.timer) :
    (n'.dispatch p).1 = .ok () ∧ Twins p own n (n'.dispatch p).2 := by
  obtain ⟨m, drained, sets⟩ := sets_drain twins.spared' p
  have taken := twins.sets (.refl p n) sets (fun _ => twins.told) (absurd rfl) fun _ => (absurd · timer)
  have same : (m.onLink (.clearInbox p)).prober p = n'.prober p := sets.prober p
  simp only [Network.dispatch, drained, same, idle]
  refine ⟨trivial, taken.relink (l := n.link) ?_ (fun _ => rfl) (fun _ => timer_clearInbox ..)
    fun q minded => ?_⟩
  · exact taken.toStill.trans ⟨rfl, rfl, fun _ => rfl, rfl, Table.keys_modify .., rfl⟩
  · rw [Link.inbox_clearInbox, if_neg fun mine => mail (minded mine.symm), taken.inbox q minded]

/-! ## Lulls last -/

/-- Asking for a finding changes nothing but what the detector remembers. -/
theorem link_poll (p : Nat) (n : Network) :
    (n.poll p).2.link = n.link ∧ (n.poll p).2.now = n.now := by
  unfold Network.poll
  split <;> exact ⟨rfl, rfl⟩

theorem Lull.poll (lull : Lull p n) : Lull p (n.poll p).2 := by
  obtain ⟨link, now⟩ := link_poll p n
  exact lull.of_same now (phase_poll p p n) (by rw [link])

theorem expiry_tell (p : Nat) (n : Network) :
    ((n.tell p).link.timer p).expiry = (n.link.timer p).expiry := by
  rw [tell, onLink, timer_setTimer]
  split
  · exact Timer.expiry_tell ..
  · rfl

theorem isReadable_tell (p : Nat) (n : Network) : (n.tell p).isReadable p = n.isReadable p := by
  rw [isReadable, Timer.isReadable, expiry_tell]
  rfl

theorem Lull.tell (lull : Lull p n) : Lull p (n.tell p) := lull.of_same rfl rfl (expiry_tell p n)

theorem Lull.announce (lull : Lull p n) (policy : DefendPolicy) :
    Lull p (n.announce p policy).2 := by
  unfold Network.announce
  split
  · next c ready probe =>
    intro _
    have before : (n.prober p).phase ≠ .idle := by rw [ready]; nofun
    rcases lull before with unreadable | ⟨t, probing, _⟩
    · refine .inl ?_
      have still := still_send p (announcement c) (n.onLink (.take c.address c.mac))
      have timer := timer_send p (announcement c) (n.onLink (.take c.address c.mac))
      exact (Eased.unreadable (.inr timer) still.now unreadable :)
    · cases ready.symm.trans probing
  · exact lull
  · exact lull

/-- A probe that takes some time begins with a lull. -/
theorem Begun.lull (begun : Begun p c n n') (formed : WellFormed n) (timed : c.timeoutMsec ≠ 0) :
    Lull p n' := by
  intro working
  have attached : p ∈ n.probers.keys := begun.apart.attached ▸ attached_of_working working
  refine .inl ?_
  rw [isReadable, begun.timer ((formed.attached p).mp attached), begun.apart.now]
  exact isReadable_after (shortestDelay_lt_timeout timed) _

/-! ## Detectors with nothing to attend to -/

theorem Undue.poll (undue : Undue p n) : Undue p (n.poll p).2 := by
  obtain ⟨link, now⟩ := link_poll p n
  have phase := phase_poll p p n
  exact undue.mono (phase ▸ id) (congrArg _ link) (congrArg _ link) now
    fun t probing => phase ▸ probing

theorem Undue.announce (undue : Undue p n) (policy : DefendPolicy) :
    Undue p (n.announce p policy).2 := by
  rcases announce_cases p policy n with ⟨⟨fault, refused⟩, _⟩ | ⟨_, c, announcing⟩
  · rw [refused]
    exact undue
  · have working : (n.prober p).phase ≠ .idle := by rw [announcing.ready]; nofun
    obtain ⟨_, empty, _⟩ := undue working
    refine undue.mono (fun _ => working) announcing.apart.carrier ?_ announcing.apart.now
      fun t probing => ?_
    · exact (strokes_announce p policy n).mail.elim id (·.trans empty.symm)
    · have stands := announcing.announced.1
      rw [probing] at stands
      cases stands

/-- A probe that takes some time begins with nothing to attend to, if there is a carrier. -/
theorem Begun.undue (begun : Begun p c n n') (up : n'.link.carrier = true)
    (timed : c.timeoutMsec ≠ 0) : Undue p n' := by
  intro working
  have attached : p ∈ n.probers.keys := begun.apart.attached ▸ attached_of_working working
  refine ⟨up, begun.inbox, fun t probing => ?_⟩
  rw [begun.prober attached, Phase.probing.injEq] at probing
  rw [begun.apart.now, ← probing]
  exact Nat.lt_add_of_pos_right (Nat.lt_of_le_of_lt (Nat.zero_le _) (shortestDelay_lt_timeout timed))

/-! ## News -/

/-- What a timer was set to before does not matter to what it is set to. -/
theorem setTimer_setTimer (l : Link) (p : Nat) (t t' : Timer) :
    (l.setTimer p t).setTimer p t' = l.setTimer p t' := by
  have twice (es : List (Nat × Tap)) :
      Table.modifyEntries p (fun tap => { tap with timer := t' })
        (Table.modifyEntries p (fun tap => { tap with timer := t }) es) =
      Table.modifyEntries p (fun tap => { tap with timer := t' }) es := by
    rw [Table.modifyEntries, Table.modifyEntries, Table.modifyEntries, List.map_map]
    refine List.map_congr_left fun e _ => ?_
    by_cases own : e.1 = p
    · simp [own]
    · simp [own]
  simp only [Link.setTimer, Table.modify, twice]

/-- It makes no difference to a dispatch whether somebody was told of the timer that it takes the
expiry of. -/
theorem dispatch_told {t : Timer} (same : t.expiry = (n.link.timer p).expiry)
    (readable : n.isReadable p = true) (spared : n.toFail = 0) :
    (n.onLink (.setTimer p t)).dispatch p = n.dispatch p := by
  have told : ((n.link.setTimer p t).timer p).drained n.now = .disarmed := by
    refine if_pos ?_
    rw [timer_setTimer]
    split
    · rw [Timer.isReadable, same]
      exact readable
    · exact readable
  have off : (n.link.timer p).drained n.now = .disarmed := if_pos readable
  have drained : (n.onLink (.setTimer p t)).drain p = n.drain p := by
    rcases FaultRule.left_apply n.faults.read with ⟨_, _, _, less⟩ | ⟨rules, eq, _⟩
    · rw [toFail] at spared
      omega
    · simp only [Network.drain, onLink, Faults.next, eq, told, off, setTimer_setTimer]
  simp only [Network.dispatch, drained]

theorem dispatch_tell (readable : n.isReadable p = true) (spared : n.toFail = 0) :
    (n.tell p).dispatch p = n.dispatch p := dispatch_told (Timer.expiry_tell ..) readable spared

end LinkLocal.Simulation.Network
