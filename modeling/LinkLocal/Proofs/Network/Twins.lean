import LinkLocal.Proofs.Host.Lockstep
import LinkLocal.Proofs.Network.Sparing

/-! Networks that are the same but for one tap. All other detectors find the same in both, and so
does the one at the tap, as far as it minds what is there. A detector at rest minds neither its mail
nor its timer, since it forgets both when a probe begins; one at work minds its mail, and its timer
only without a carrier, since all else that it has to look at is there to be found whenever it looks.
No call on a timer fails in either network. Whatever is done in both then gives the same answers and
leaves them the same, and a dispatch that has nothing to look at may be made in one of them alone. -/
namespace LinkLocal.Simulation.Network

variable {n n' m m' : Network} {p q : Nat} {t : Timer}

/-- What is minded of a tap. -/
structure Regard where
  /-- Its mail. -/
  mail : Prop
  /-- When its timer goes off. -/
  timer : Prop
  /-- That somebody in the first network was told of its timer. -/
  told : Prop

/-- Two networks in which no call on a timer fails are the same but for faults, notices and the tap,
and there too as far as it is minded. In the first one nobody was told of the timer of the tap but
when it has gone off, and only if that is minded. -/
structure Twins (p : Nat) (own : Regard) (n n' : Network) : Prop extends Still n n' where
  spared : n.toFail = 0
  spared' : n'.toFail = 0
  create : n'.faults.create = n.faults.create
  told : (n.link.timer p).told = true → own.told ∧ n.isReadable p = true
  timer : ∀ q, q ≠ p → n'.link.timer q = n.link.timer q
  expiry : own.timer → (n'.link.timer p).expiry = (n.link.timer p).expiry
  inbox : ∀ q, (q = p → own.mail) → n'.link.inbox q = n.link.inbox q

variable {own own' : Regard}

/-! ## Calls on timers -/

/-- There is no timer where there is no tap. -/
theorem timer_of_absent {l : Link} (absent : q ∉ l.taps.keys) : l.timer q = {} := by
  rw [Table.mem_keys_iff, Option.not_isSome_iff_eq_none] at absent
  rw [Link.timer, absent]
  rfl

/-- From one network to the next the timer of a tap was set, and nothing else was done. -/
structure Sets (q : Nat) (t : Timer) (n m : Network) : Prop extends Quiet n m where
  create : m.faults.create = n.faults.create
  toFail : m.toFail = n.toFail
  timer : m.link.timer q = if q ∈ n.link.taps.keys then t else {}
  others : ∀ q', q' ≠ q → m.link.timer q' = n.link.timer q'

private theorem sets_link {f : Faults} (quiet : Quiet n { n with
      faults := f, link := n.link.setTimer q t }) (create : f.create = n.faults.create)
    (toFail : ({ n with faults := f, link := n.link.setTimer q t } : Network).toFail = n.toFail) :
    Sets q t n { n with faults := f, link := n.link.setTimer q t } where
  toQuiet := quiet
  create := create
  toFail := toFail
  timer := by
    rw [timer_setTimer]
    by_cases tap : q ∈ n.link.taps.keys
    · rw [if_pos ⟨rfl, tap⟩, if_pos tap]
    · rw [if_neg (tap ·.2), if_neg tap, timer_of_absent tap]
  others q' other := (timer_setTimer ..).trans (if_neg fun both => other both.1.symm)

theorem Sets.refl (q : Nat) (n : Network) : Sets q (n.link.timer q) n n where
  toQuiet := .refl n
  create := rfl
  toFail := rfl
  timer := by
    split
    · rfl
    · next absent => exact timer_of_absent absent
  others _ _ := rfl

theorem Sets.trans {t' : Timer} (first : Sets q t n m) (second : Sets q t' m m') :
    Sets q t' n m' where
  toQuiet := first.toQuiet.trans second.toQuiet
  create := second.create.trans first.create
  toFail := second.toFail.trans first.toFail
  timer := first.taps ▸ second.timer
  others q' other := (second.others q' other).trans (first.others q' other)

/-- A call that sets a timer does not fail where none does. -/
theorem sets_setTimer (spared : n.toFail = 0) (q : Nat) (t : Timer) :
    ∃ m, n.setTimer q t = (.ok (), m) ∧ Sets q t n m := by
  have quiet := quiet_setTimer q t n
  have create : (n.setTimer q t).2.faults.create = n.faults.create := by
    rcases eq : FaultRule.apply n.faults.set with ⟨_ | fault, rules⟩ <;>
      simp only [setTimer, Faults.next, eq]
  rcases setTimer_cases q t n with ⟨_, _, _, less⟩ | ⟨faults, eq, same⟩
  · omega
  · rw [eq] at quiet create
    exact ⟨_, eq, sets_link quiet create same⟩

/-- Nor does one that takes the expiry of a timer. -/
theorem sets_drain (spared : n.toFail = 0) (q : Nat) :
    ∃ m, n.drain q = (.ok (), m) ∧ Sets q ((n.link.timer q).drained n.now) n m := by
  have quiet := quiet_drain q n
  have create : (n.drain q).2.faults.create = n.faults.create := by
    rcases eq : FaultRule.apply n.faults.read with ⟨_ | fault, rules⟩ <;>
      simp only [drain, Faults.next, eq]
  rcases drain_cases q n with ⟨_, _, _, less⟩ | ⟨faults, eq, same⟩
  · omega
  · rw [eq] at quiet create
    exact ⟨_, eq, sets_link quiet create same⟩

theorem sets_tell (q : Nat) (n : Network) : Sets q ((n.link.timer q).tell n.now) n (n.tell q) :=
  sets_link (quiet_tell q n) rfl rfl

theorem sets_renew (q : Nat) (n : Network) : Sets q (n.link.timer q).renew n (n.renew q) :=
  sets_link (quiet_renew q n) rfl rfl

/-- It makes no difference to a network that somebody begins to watch a timer. -/
theorem twins_renew (spared : n.toFail = 0) : Twins p own (n.renew p) n := by
  have sets := sets_renew p n
  exact {
    now := sets.now.symm
    carrier := sets.carrier.symm
    owner := fun a => (sets.owner a).symm
    nextTap := sets.nextTap.symm
    taps := sets.taps.symm
    probers := sets.probers.symm
    spared := sets.toFail.trans spared
    spared' := spared
    create := sets.create.symm
    told := fun heard => by
      rw [sets.timer] at heard
      split at heard <;> cases heard
    timer := fun q other => (sets.others q other).symm
    expiry := fun _ => by
      rw [sets.timer]
      split
      · rfl
      · next absent => rw [timer_of_absent absent]
    inbox := fun q _ => (sets.inbox q).symm }

theorem Still.beside (still : Still n n') (first : Still n m) (second : Still n' m') :
    Still m m' where
  now := second.now.trans (still.now.trans first.now.symm)
  carrier := second.carrier.trans (still.carrier.trans first.carrier.symm)
  owner a := (second.owner a).trans ((still.owner a).trans (first.owner a).symm)
  nextTap := second.nextTap.trans (still.nextTap.trans first.nextTap.symm)
  taps := second.taps.trans (still.taps.trans first.taps.symm)
  probers := second.probers.trans (still.probers.trans first.probers.symm)

namespace Twins

theorem mono (twins : Twins p own n n') (mail : own'.mail → own.mail)
    (timer : own'.timer → own.timer) (told : own.told → own'.told) : Twins p own' n n' :=
  { twins with
    told := fun heard => (twins.told heard).imp_left told
    expiry := fun minded => twins.expiry (timer minded)
    inbox := fun q minded => twins.inbox q fun same => mail (minded same) }

/-- A network in which no call on a timer fails is its own twin. -/
theorem refl (spared : n.toFail = 0)
    (told : (n.link.timer p).told = true → own.told ∧ n.isReadable p = true) :
    Twins p own n n where
  toStill := .refl n
  spared := spared
  spared' := spared
  create := rfl
  told := told
  timer _ _ := rfl
  expiry _ := rfl
  inbox _ _ := rfl

/-- Twins at whose tap the timer and the mail are the same are twins there too. -/
theorem whole (twins : Twins p own n n')
    (expiry : (n'.link.timer p).expiry = (n.link.timer p).expiry)
    (inbox : n'.link.inbox p = n.link.inbox p) :
    Twins p { own with mail := True, timer := True } n n' where
  toStill := twins.toStill
  spared := twins.spared
  spared' := twins.spared'
  create := twins.create
  told := twins.told
  timer := twins.timer
  expiry _ := expiry
  inbox q _ := by
    by_cases same : q = p
    · rw [same, inbox]
    · exact twins.inbox q fun mine => absurd mine same

theorem readable (twins : Twins p own n n') (minded : own.timer) :
    n'.isReadable p = n.isReadable p := by
  rw [isReadable, isReadable, Timer.isReadable, Timer.isReadable, twins.expiry minded, twins.now]

theorem note (twins : Twins p own n n') (x y : Notice) : Twins p own (n.note x) (n'.note y) :=
  { twins with }

/-- A timer is set in both. -/
theorem sets (twins : Twins p own n n') {t t' : Timer} (first : Sets q t n m)
    (second : Sets q t' n' m')
    (told : q = p → t.told = true → own.told ∧ t.isReadable n.now = true) (same : q ≠ p → t' = t)
    (expiry : q = p → own.timer → t'.expiry = t.expiry) : Twins p own m m' where
  toStill := twins.toStill.beside first.toStill second.toStill
  spared := first.toFail.trans twins.spared
  spared' := second.toFail.trans twins.spared'
  create := second.create.trans (twins.create.trans first.create.symm)
  told heard := by
    rw [isReadable, first.now]
    by_cases other : p = q
    · subst other
      rw [first.timer] at heard ⊢
      split at heard
      · next tap => exact if_pos tap ▸ told rfl heard
      · cases heard
    · rw [first.others p other] at heard ⊢
      exact twins.told heard
  timer q' elsewhere := by
    by_cases other : q' = q
    · subst other
      rw [first.timer, second.timer, twins.taps, same elsewhere]
    · rw [first.others q' other, second.others q' other, twins.timer q' elsewhere]
  expiry minded := by
    by_cases other : p = q
    · subst other
      rw [first.timer, second.timer, twins.taps, apply_ite Timer.expiry, apply_ite Timer.expiry,
        expiry rfl minded]
    · rw [first.others p other, second.others p other, twins.expiry minded]
  inbox q' minded := (second.inbox q').trans ((twins.inbox q' minded).trans (first.inbox q').symm)

theorem setTimer (twins : Twins p own n n') (q : Nat) {t : Timer} (untold : t.told = false) :
    ∃ m m', n.setTimer q t = (.ok (), m) ∧ n'.setTimer q t = (.ok (), m') ∧
      Twins p own m m' ∧ m'.link.timer q = m.link.timer q := by
  obtain ⟨m, set, first⟩ := sets_setTimer twins.spared q t
  obtain ⟨m', set', second⟩ := sets_setTimer twins.spared' q t
  refine ⟨m, m', set, set', twins.sets first second (fun _ heard => ?_) (fun _ => rfl)
    (fun _ _ => rfl), ?_⟩
  · cases untold.symm.trans heard
  rw [first.timer, second.timer, twins.taps]

theorem arm (twins : Twins p own n n') (q delay : Nat) :
    ∃ m m', n.arm q delay = (.ok (), m) ∧ n'.arm q delay = (.ok (), m') ∧
      Twins p own m m' ∧ m'.link.timer q = m.link.timer q := by
  rw [Network.arm, Network.arm, twins.now]
  exact twins.setTimer q rfl

theorem drain (twins : Twins p own n n') (q : Nat) :
    ∃ m m', n.drain q = (.ok (), m) ∧ n'.drain q = (.ok (), m') ∧ Twins p own m m' := by
  obtain ⟨m, drained, first⟩ := sets_drain twins.spared q
  obtain ⟨m', drained', second⟩ := sets_drain twins.spared' q
  refine ⟨m, m', drained, drained', twins.sets first second (fun mine heard => ?_)
    (fun other => ?_) fun mine minded => ?_⟩
  · rw [mine, Timer.drained] at heard
    split at heard
    · cases heard
    · next unreadable => exact absurd (twins.told heard).2 unreadable
  · rw [twins.timer q other, twins.now]
  · rw [mine, Timer.drained, Timer.drained, Timer.isReadable, Timer.isReadable, twins.now,
      apply_ite Timer.expiry, apply_ite Timer.expiry, twins.expiry minded]

theorem wake (twins : Twins p own n n') (q : Nat) : Twins p own (n.wake q) (n'.wake q) := by
  obtain ⟨m, m', armed, armed', twins, _⟩ := twins.arm q 0
  simpa only [Network.wake, armed, armed'] using twins

/-- Another one is told of its timer. -/
theorem tell (twins : Twins p own n n') (other : q ≠ p) : Twins p own (n.tell q) (n'.tell q) := by
  refine twins.sets (sets_tell q n) (sets_tell q n') (absurd · other) (fun _ => ?_)
    fun mine => absurd mine other
  rw [twins.timer q other, twins.now]

/-- Somebody begins to watch a timer. -/
theorem renew (twins : Twins p own n n') (q : Nat) : Twins p own (n.renew q) (n'.renew q) := by
  refine twins.sets (sets_renew q n) (sets_renew q n') (fun _ => nofun) (fun other => ?_)
    fun mine minded => ?_
  · rw [twins.timer q other]
  · exact mine ▸ twins.expiry minded

/-! ## Links -/

/-- What leaves the timers alone leaves twins behind, if it does the same to the rest. -/
theorem relink (twins : Twins p own n n') {l l' : Link}
    (still : Still { n with link := l } { n' with link := l' })
    (timer : ∀ q, l.timer q = n.link.timer q) (timer' : ∀ q, l'.timer q = n'.link.timer q)
    (inbox : ∀ q, (q = p → own.mail) → l'.inbox q = l.inbox q) :
    Twins p own { n with link := l } { n' with link := l' } where
  toStill := still
  spared := twins.spared
  spared' := twins.spared'
  create := twins.create
  told heard := by
    rw [isReadable, timer]
    exact twins.told (timer p ▸ heard)
  timer q other := (timer' q).trans ((twins.timer q other).trans (timer q).symm)
  expiry minded := by rw [timer, timer', twins.expiry minded]
  inbox := inbox

/-- The mail of a tap is thrown away in both. -/
theorem collect (twins : Twins p own n n') (q : Nat) :
    Twins p own (n.onLink (.clearInbox q)) (n'.onLink (.clearInbox q)) := by
  have cleared (m : Network) : Still m (m.onLink (.clearInbox q)) :=
    ⟨rfl, rfl, fun _ => rfl, rfl, Table.keys_modify .., rfl⟩
  refine twins.relink (twins.toStill.beside (cleared n) (cleared n')) (fun _ => timer_clearInbox ..)
    (fun _ => timer_clearInbox ..) fun q' minded => ?_
  rw [Link.inbox_clearInbox, Link.inbox_clearInbox, twins.inbox q' minded]

/-- A packet is put into the mailbox of a tap in both. -/
theorem deliver (twins : Twins p own n n') (k : Packet) (q : Nat) :
    Twins p own (n.deliver k q) (n'.deliver k q) := by
  have put (m : Network) : Still m (m.onLink (.deliver k q)) :=
    ⟨rfl, rfl, fun _ => rfl, rfl, Table.keys_modify .., rfl⟩
  refine (twins.relink (twins.toStill.beside (put n) (put n')) (fun _ => timer_deliver ..)
    (fun _ => timer_deliver ..) fun q' minded => ?_).wake q
  rw [Link.inbox_deliver, Link.inbox_deliver, twins.taps, twins.inbox q' minded]

theorem deliverAll (twins : Twins p own n n') (k : Packet) (qs : List Nat) :
    Twins p own (qs.foldl (Network.deliver k) n) (qs.foldl (Network.deliver k) n') := by
  induction qs generalizing n n' with
  | nil => exact twins
  | cons q qs ih => exact ih (twins.deliver k q)

theorem record (twins : Twins p own n n') (k : Packet) :
    Twins p own (n.onLink (.record k)) (n'.onLink (.record k)) :=
  twins.relink { twins.toStill with } (fun _ => rfl) (fun _ => rfl) twins.inbox

theorem send (twins : Twins p own n n') (q : Nat) (k : Packet) :
    Twins p own (n.send q k) (n'.send q k) := by
  rw [Network.send, Network.send, twins.taps]
  exact (twins.record k).deliverAll k _

theorem claim (twins : Twins p own n n') (k : Packet) :
    Twins p own (n.claim k) (n'.claim k) := by
  rw [Network.claim, Network.claim, twins.taps]
  exact (twins.record k).deliverAll k _

/-- A change of the owners of the same kind in both makes no difference. -/
theorem onOwners (twins : Twins p own n n') {f : Link → Link} (taps : ∀ l, (f l).taps = l.taps)
    (carrier : ∀ l, (f l).carrier = l.carrier) (nextTap : ∀ l, (f l).nextTap = l.nextTap)
    (owner : ∀ {l l' : Link}, (∀ a, l'.owner a = l.owner a) → ∀ a, (f l').owner a = (f l).owner a) :
    Twins p own (n.onLink f) (n'.onLink f) := by
  refine twins.relink ⟨twins.now, ?_, owner twins.owner, ?_, ?_, twins.probers⟩
    (timer_congr (taps _)) (timer_congr (taps _)) fun q minded => ?_
  · exact (carrier _).trans (twins.carrier.trans (carrier _).symm)
  · exact (nextTap _).trans (twins.nextTap.trans (nextTap _).symm)
  · exact (congrArg Table.keys (taps _)).trans
      (twins.taps.trans (congrArg Table.keys (taps _)).symm)
  · rw [inbox_congr (taps _), inbox_congr (taps _), twins.inbox q minded]

theorem take (twins : Twins p own n n') (a : IPv4) (k : LinkAddress) :
    Twins p own (n.onLink (.take a k)) (n'.onLink (.take a k)) :=
  twins.onOwners (fun _ => rfl) (fun _ => rfl) (fun _ => rfl) fun same b => by
    rw [Link.owner_take, Link.owner_take, same]

theorem release (twins : Twins p own n n') (a : IPv4) : Twins p own (n.release a) (n'.release a) :=
  twins.onOwners (fun _ => rfl) (fun _ => rfl) (fun _ => rfl) fun same b => by
    rw [Link.owner_release, Link.owner_release, same]

theorem giveUp (twins : Twins p own n n') (q : Nat) : Twins p own (n.giveUp q) (n'.giveUp q) := by
  rw [Network.giveUp, Network.giveUp, twins.prober]
  split
  · refine twins.onOwners (fun _ => Link.taps_giveUp ..) (fun l => ?_) (fun l => ?_)
      fun same b => ?_
    · unfold Link.giveUp
      split <;> rfl
    · unfold Link.giveUp
      split <;> rfl
    · rw [Link.owner_giveUp, Link.owner_giveUp, same, same]
  · exact twins

theorem occupy (twins : Twins p own n n') (a : IPv4) (k : LinkAddress) :
    Twins p own (n.occupy a k) (n'.occupy a k) := (twins.note _ _).take a k

theorem wakeAll (twins : Twins p own n n') (qs : List Nat) :
    Twins p own (qs.foldl (fun n q => n.wake q) n) (qs.foldl (fun n q => n.wake q) n') := by
  induction qs generalizing n n' with
  | nil => exact twins
  | cons q qs ih => exact ih (twins.wake q)

/-- A timer goes off alike after it was set alike. -/
theorem wake_self (twins : Twins p own n n') :
    Twins p { own with timer := True } (n.wake p) (n'.wake p) := by
  obtain ⟨m, m', armed, armed', twins, same⟩ := twins.arm p 0
  simp only [Network.wake, armed, armed']
  exact { twins with expiry := fun _ => congrArg Timer.expiry same }

theorem wakeAll_self (twins : Twins p own n n') {qs : List Nat} (member : p ∈ qs) :
    Twins p { own with timer := True } (qs.foldl (fun n q => n.wake q) n)
      (qs.foldl (fun n q => n.wake q) n') := by
  induction qs generalizing n n' with
  | nil => cases member
  | cons q qs ih =>
    rcases List.mem_cons.mp member with rfl | member
    · exact twins.wake_self.wakeAll qs
    · exact ih (twins.wake q) member

private theorem carried (twins : Twins p own n n') (up : Bool) : Twins p own
    ((n.note (.carrier up)).onLink fun l => { l with carrier := up })
    ((n'.note (.carrier up)).onLink fun l => { l with carrier := up }) :=
  (twins.note _ _).relink { twins.toStill with carrier := rfl } (fun _ => rfl) (fun _ => rfl)
    twins.inbox

theorem setCarrier (twins : Twins p own n n') (up : Bool) :
    Twins p own (n.setCarrier up) (n'.setCarrier up) := by
  have changed := twins.carried up
  rw [Network.setCarrier, Network.setCarrier, twins.carrier]
  split
  · exact twins
  · dsimp only
    split
    · exact changed
    · rw [changed.taps]
      exact changed.wakeAll _

/-- When the carrier drops, the timer of the tap is set in both. -/
theorem dropCarrier (twins : Twins p own n n') (up : n.link.carrier = true)
    (tap : p ∈ n.link.taps.keys) :
    Twins p { own with timer := True } (n.setCarrier false) (n'.setCarrier false) := by
  have changed := twins.carried false
  have drops : ¬ n.link.carrier = false := by simp [up]
  rw [Network.setCarrier, Network.setCarrier, twins.carrier, if_neg drops, if_neg drops]
  simp only [Bool.false_eq_true, if_false, changed.taps]
  exact changed.wakeAll_self tap

theorem advance (twins : Twins p own n n') (nanoseconds : Nat) :
    Twins p own (n.advance nanoseconds) (n'.advance nanoseconds) :=
  { twins with
    now := congrArg (· + nanoseconds) twins.now
    told := fun heard => by
      obtain ⟨minded, readable⟩ := twins.told heard
      obtain ⟨x, goes, due⟩ := isReadable_iff.mp readable
      exact ⟨minded, isReadable_iff.mpr ⟨x, goes, Nat.le_add_right_of_le due⟩⟩ }

/-! ## Detectors -/

theorem onProber (twins : Twins p own n n') (q : Nat) (f : Prober → Prober) :
    Twins p own (n.onProber q f) (n'.onProber q f) :=
  { twins with probers := congrArg (fun t => Table.modify t q f) twins.probers }

theorem report (twins : Twins p own n n') (q : Nat) (f : Detection) :
    Twins p own (n.report q f) (n'.report q f) := twins.onProber q _

theorem enter (twins : Twins p own n n') (q : Nat) (phase : Phase) :
    Twins p own (n.enter q phase) (n'.enter q phase) := twins.onProber q _

theorem halt (twins : Twins p own n n') (q : Nat) : Twins p own (n.halt q) (n'.halt q) := by
  have idle := (twins.giveUp q).enter q .idle
  obtain ⟨m, m', set, set', stopped, _⟩ := idle.setTimer q (t := .disarmed) rfl
  simpa only [Network.halt, Network.disarm, set, set'] using stopped

theorem face (twins : Twins p own n n') (q : Nat) (c : Probe) (k : Packet) :
    Twins p own (n.face q c k) (n'.face q c k) := by
  rw [Network.face, Network.face, twins.prober, twins.now]
  split
  · exact twins
  · exact ((twins.note _ _).report q _).halt q
  · exact ((twins.note _ _).report q _).halt q
  · split
    · exact (((twins.enter q _).send q _).note _ _).report q _
    · exact ((twins.note _ _).report q _).halt q

theorem attend (twins : Twins p own n n') (q : Nat) (c : Probe) (ks : List Packet) :
    Twins p own (n.attend q c ks) (n'.attend q c ks) := by
  induction ks generalizing n n' with
  | nil => exact twins
  | cons k ks ih =>
    rw [attend_cons, attend_cons]
    split
    · exact ih (twins.face q c k)
    · exact ih twins

theorem conclude (twins : Twins p own n n') (q : Nat) (c : Probe) :
    InStep (Twins p own) (n.conclude q c) (n'.conclude q c) := by
  rw [Network.conclude, Network.conclude, twins.prober, twins.now, twins.owner]
  split
  · next t _ =>
    split
    · obtain ⟨m, m', armed, armed', twins, _⟩ := twins.arm q (t - n.now)
      rw [armed, armed']
      exact ⟨rfl, twins⟩
    · split
      · exact ⟨rfl, ((twins.note _ _).report q _).halt q⟩
      · exact ⟨rfl, ((twins.note _ _).enter q _).report q _⟩
  · exact ⟨rfl, twins⟩

/-! ## Operations -/

/-- A probe that begins does so with an empty mailbox and a timer that is set anew. -/
theorem start (twins : Twins p own n n') (q : Nat) (c : Probe) :
    InStep (Twins p own) (n.start q c) (n'.start q c) ∧
      (q = p → (n.start q c).1 = .ok () → Twins p { own with mail := True, timer := True }
        (n.start q c).2 (n'.start q c).2) := by
  obtain ⟨m, m', armed, armed', begun, timer⟩ := twins.arm q c.timeout.nanoseconds
  rw [Network.start, Network.start, twins.prober, twins.now, armed, armed']
  split
  · exact ⟨⟨rfl, twins⟩, fun _ begun => by cases begun⟩
  · split
    · exact ⟨⟨rfl, twins⟩, fun _ begun => by cases begun⟩
    · split
      · exact ⟨⟨rfl, twins⟩, fun _ begun => by cases begun⟩
      · split
        · exact ⟨⟨rfl, twins⟩, fun _ begun => by cases begun⟩
        · dsimp only
          rw [begun.now]
          have collected := begun.collect q
          refine ⟨⟨rfl, (collected.onProber q _).note _ _⟩, fun same _ => ?_⟩
          refine ((collected.whole ?_ ?_).onProber q _).note _ _
          · rw [onLink, onLink, timer_clearInbox, timer_clearInbox, ← same, timer]
          · rw [onLink, onLink, Link.inbox_clearInbox, Link.inbox_clearInbox, if_pos same,
              if_pos same]

theorem stop (twins : Twins p own n n') (q : Nat) : Twins p own (n.stop q) (n'.stop q) :=
  (twins.halt q).onProber q _

theorem poll (twins : Twins p own n n') (q : Nat) :
    InStep (Twins p own) (n.poll q) (n'.poll q) := by
  rw [Network.poll, Network.poll, twins.prober]
  split
  · exact ⟨rfl, twins.onProber q _⟩
  · exact ⟨rfl, twins⟩
  · exact ⟨rfl, twins⟩

theorem announce (twins : Twins p own n n') (q : Nat) (policy : DefendPolicy) :
    InStep (Twins p own) (n.announce q policy) (n'.announce q policy) := by
  rw [Network.announce, Network.announce, twins.prober]
  split
  · exact ⟨rfl, (((twins.take _ _).send q _).note _ _).enter q _⟩
  · exact ⟨rfl, twins⟩
  · exact ⟨rfl, twins⟩

/-- A detector at rest throws its mail away, and any other has to mind it. -/
theorem dispatch (twins : Twins p own n n') (q : Nat)
    (minded : q = p → (n.prober q).phase ≠ .idle → own.mail) :
    InStep (Twins p own) (n.dispatch q) (n'.dispatch q) := by
  obtain ⟨m, m', drained, drained', taken⟩ := twins.drain q
  have collected := taken.collect q
  have same : (m.onLink (.clearInbox q)).prober q = n.prober q :=
    (quiet_of_drained drained).prober q
  simp only [Network.dispatch, drained, drained', collected.prober, collected.carrier]
  split
  · exact ⟨rfl, collected⟩
  · exact ⟨rfl, collected⟩
  · next d _ working =>
    split
    · rw [taken.inbox q fun mine => minded mine (same ▸ working)]
      exact (collected.attend q d _).conclude q d
    · exact ⟨rfl, ((collected.note _ _).report q _).halt q⟩

/-! ## Taps that come and go -/

theorem attach (twins : Twins p own n n') (formed : WellFormed n) :
    Twins p own n.attach.2 n'.attach.2 := by
  have free : n.link.nextTap ∉ n.link.taps.keys := fun taken =>
    absurd (formed.earlier _ taken) (Nat.lt_irrefl _)
  have free' : n'.link.nextTap ∉ n'.link.taps.keys := by rwa [twins.nextTap, twins.taps]
  rcases eq : FaultRule.apply n.faults.create with ⟨_ | fault, rules⟩
  · simp only [Network.attach, Faults.next, twins.create, eq]
    exact {
      now := twins.now
      carrier := twins.carrier
      owner := twins.owner
      nextTap := congrArg (· + 1) twins.nextTap
      taps := by
        rw [Link.attach, Link.attach, Table.keys_insert_of_not_mem _ _ free,
          Table.keys_insert_of_not_mem _ _ free', twins.taps, twins.nextTap]
      probers := by rw [twins.probers, twins.nextTap]
      spared := twins.spared
      spared' := twins.spared'
      create := rfl
      told := fun heard => by
        rw [isReadable, timer_attach _ free]
        exact twins.told (timer_attach n.link free ▸ heard)
      timer := fun q other => by
        rw [timer_attach _ free, timer_attach _ free', twins.timer q other]
      expiry := fun minded => by
        rw [timer_attach _ free, timer_attach _ free', twins.expiry minded]
      inbox := fun q minded => by
        rw [Link.inbox_attach, Link.inbox_attach, twins.inbox q minded, twins.nextTap] }
  · simp only [Network.attach, Faults.next, twins.create, eq]
    exact { twins with create := rfl }

/-- Another detector is given up in both. -/
theorem close (twins : Twins p own n n') (other : q ≠ p) :
    Twins p own (n.close q) (n'.close q) := by
  have stopped := twins.halt q
  rw [Network.close, Network.close]
  generalize n.halt q = m, n'.halt q = m' at stopped
  have timer (l : Link) : (l.detach q).timer q = {} :=
    timer_of_absent fun there => ((Table.mem_keys_erase ..).mp there).1 rfl
  exact {
    now := stopped.now
    carrier := stopped.carrier
    owner := stopped.owner
    nextTap := stopped.nextTap
    taps := by rw [Link.detach, Link.detach, Table.keys_erase, Table.keys_erase, stopped.taps]
    probers := congrArg (Table.erase · q) stopped.probers
    spared := stopped.spared
    spared' := stopped.spared'
    create := stopped.create
    told := fun heard => by
      rw [isReadable, timer_detach _ other.symm]
      exact stopped.told (timer_detach m.link other.symm ▸ heard)
    timer := fun q' elsewhere => by
      by_cases same : q' = q
      · rw [same, timer, timer]
      · rw [timer_detach _ same, timer_detach _ same, stopped.timer q' elsewhere]
    expiry := fun minded => by
      rw [timer_detach _ other.symm, timer_detach _ other.symm, stopped.expiry minded]
    inbox := fun q' minded => by
      rw [Link.inbox_detach, Link.inbox_detach, stopped.inbox q' minded] }

end Twins

/-! ## What keeps networks alike -/

/-- Whatever another detector does keeps twins. -/
theorem mirrors_twins (other : q ≠ p) : (detector q).Mirrors (Twins p own) where
  note x twins := twins.note x x
  start c twins := (twins.start q c).1
  stop twins := twins.stop q
  dispatch twins := twins.dispatch q fun mine => absurd mine other
  poll twins := twins.poll q
  announce policy twins := twins.announce q policy
  backlog twins := congrArg (fun s => Queue.length (Prober.found s)) (twins.prober q)

/-- What of a tap matters to its own detector: nothing to one at rest, the mail to one at work, and
the timer only without a carrier. -/
def ownRegard (p : Nat) (told : Prop) (n : Network) : Regard where
  mail := (n.prober p).phase ≠ .idle
  timer := (n.prober p).phase ≠ .idle ∧ n.link.carrier = false
  told := told

/-- Two networks are the same but for what does not matter to the detector at the tap. -/
def Matched (p : Nat) (told : Prop) (n n' : Network) : Prop := Twins p (ownRegard p told n) n n'

variable {told told' : Prop}

/-- What does not matter to a detector that comes to work does not matter before. -/
theorem Twins.matched (twins : Twins p (ownRegard p told n) m m')
    (working : (m.prober p).phase ≠ .idle → (n.prober p).phase ≠ .idle)
    (carrier : m.link.carrier = n.link.carrier) : Matched p told m m' :=
  twins.mono working (And.imp working (carrier ▸ id)) id

/-- All that matters is the same after the timer was set and the mail taken in both. -/
theorem Twins.matched_of_whole {own : Regard} (twins : Twins p own m m') (mail : own.mail)
    (timer : own.timer) (imp : own.told → told) : Matched p told m m' :=
  twins.mono (fun _ => mail) (fun _ => timer) imp

theorem phase_stop (p : Nat) (n : Network) : ((n.stop p).prober p).phase = .idle :=
  (phase_find p p (fun _ => {}) (n.halt p)).trans (phase_halt p n)

/-- Whatever the detector itself does keeps them matched. If it begins no probe, it is at work only
if it was before. -/
theorem mirrors_matched (p : Nat) (told : Prop) : (detector p).Mirrors (Matched p told) where
  note x matched := Twins.note matched x x
  start {n _} c matched := by
    obtain ⟨⟨answer, after⟩, begun⟩ := Twins.start matched p c
    refine ⟨answer, ?_⟩
    rcases start_cases p c n with ⟨fault, eq, _⟩ | ⟨fault, m, eq, less⟩ | ⟨m, eq, _⟩
    · change Matched p told (n.start p c).2 _
      rw [eq] at after ⊢
      exact after
    · rw [Twins.spared matched] at less
      cases less
    · exact (begun rfl (by rw [eq])).matched_of_whole trivial trivial id
  stop {n _} matched :=
    (Twins.stop matched p).mono (absurd (phase_stop p n)) (fun minded => absurd (phase_stop p n) minded.1)
      id
  dispatch {n _} matched := by
    obtain ⟨answer, after⟩ := Twins.dispatch matched p fun _ => id
    refine ⟨answer, after.matched (fun working idle => working ?_) (moves_dispatch p n).apart.carrier⟩
    exact (congrArg Prober.phase (dispatch_resting idle)).trans idle
  poll {n _} matched := by
    obtain ⟨answer, after⟩ := Twins.poll matched p
    exact ⟨answer, after.matched (phase_poll p p n ▸ id) (moves_poll p n).apart.carrier⟩
  announce {n _} policy matched := by
    obtain ⟨answer, after⟩ := Twins.announce matched p policy
    refine ⟨answer, ?_⟩
    rcases announce_cases p policy n with ⟨⟨fault, refused⟩, _⟩ | ⟨_, c, announcing⟩
    · exact after.matched (by rw [refused]; exact id) (by rw [refused])
    · refine after.matched (fun _ idle => ?_) announcing.apart.carrier
      cases announcing.ready.symm.trans idle
  backlog matched := congrArg (fun s => Queue.length (Prober.found s)) (matched.prober p)

end LinkLocal.Simulation.Network
