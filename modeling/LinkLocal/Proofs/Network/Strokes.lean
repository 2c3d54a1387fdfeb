import LinkLocal.Proofs.Host.Keeping
import LinkLocal.Proofs.Network.Marks
import LinkLocal.Proofs.Network.Timing

/-! The work of a detector, stroke by stroke. Each operation is a chain of single strokes:
a call on the own timer, a notice, a packet that is sent, and so on. What each stroke does
to timers and mailboxes, and what the notices say, is thereby said for every operation,
whichever branches it takes. -/
namespace LinkLocal.Simulation.Network

variable {n n' n'' : Network} {p q : Nat} {c : Probe} {speaks : Notice → Prop}

/-- One stroke of the detector at a tap, with which it says no more than it may. -/
inductive Stroke (speaks : Notice → Prop) (p : Nat) : Network → Network → Prop where
  | note {n : Network} (x : Notice) (said : speaks x) : Stroke speaks p n (n.note x)
  | set {n : Network} (t : Timer) : Stroke speaks p n (n.setTimer p t).2
  | drain {n : Network} : Stroke speaks p n (n.drain p).2
  /-- Somebody is told of the timer, or begins to watch it. -/
  | told {n : Network} (t : Timer) (same : t.expiry = (n.link.timer p).expiry) :
      Stroke speaks p n (n.onLink (.setTimer p t))
  | collect {n : Network} : Stroke speaks p n (n.onLink (.clearInbox p))
  /-- It takes an address, or gives one up. -/
  | hold {n : Network} (f : Link → Link) (taps : (f n.link).taps = n.link.taps) :
      Stroke speaks p n (n.onLink f)
  | change {n : Network} (f : Prober → Prober) : Stroke speaks p n (n.onProber p f)
  | send {n : Network} (k : Packet) : Stroke speaks p n (n.send p k)

/-- A chain of strokes of the detector at a tap. -/
def Strokes (speaks : Notice → Prop) (p : Nat) : Network → Network → Prop :=
  Relation.ReflTransGen (Stroke speaks p)

/-- Any notice at all. -/
def Whatever (_ : Notice) : Prop := True

namespace Strokes

theorem refl (n : Network) : Strokes speaks p n n := Relation.ReflTransGen.refl

theorem trans (first : Strokes speaks p n n') (second : Strokes speaks p n' n'') : Strokes speaks p n n'' :=
  Relation.ReflTransGen.trans first second

theorem stroke (strokes : Strokes speaks p n n') (last : Stroke speaks p n' n'') : Strokes speaks p n n'' :=
  Relation.ReflTransGen.tail strokes last

/-- What holds between a network and itself, is handed on, and holds across each stroke,
holds across every chain of strokes. -/
theorem lift {r : Network → Network → Prop} (refl : ∀ n, r n n)
    (trans : ∀ {n n' n''}, r n n' → r n' n'' → r n n'')
    (step : ∀ {n n'}, Stroke speaks p n n' → r n n') (strokes : Strokes speaks p n n') : r n n' := by
  unfold Strokes at strokes
  induction strokes with
  | refl => exact refl n
  | tail _ last ih => exact trans ih (step last)

theorem whatever (strokes : Strokes speaks p n n') : Strokes Whatever p n n' := by
  refine strokes.lift .refl .trans fun stroke => (Strokes.refl _).stroke ?_
  cases stroke with
  | note x _ => exact .note x trivial
  | set t => exact .set t
  | drain => exact .drain
  | told t same => exact .told t same
  | collect => exact .collect
  | hold f taps => exact .hold f taps
  | change f => exact .change f
  | send k => exact .send k

end Strokes

/-! ## Every operation is a chain of strokes -/

theorem strokes_setTimer {r : Except SystemFault Unit} {t : Timer}
    (set : n.setTimer p t = (r, n')) : Strokes speaks p n n' := by
  have stroke : Stroke speaks p n (n.setTimer p t).2 := .set t
  rw [set] at stroke
  exact (Strokes.refl n).stroke stroke

theorem Strokes.giveUp (strokes : Strokes speaks p n n') : Strokes speaks p n (n'.giveUp p) := by
  refine strokes.trans ?_
  unfold Network.giveUp
  split
  · exact (Strokes.refl _).stroke (.hold _ (Link.taps_giveUp ..))
  · exact .refl _

theorem Strokes.halt (strokes : Strokes Notice.Plain p n n') : Strokes Notice.Plain p n (n'.halt p) := by
  have entered : Strokes Notice.Plain p n ((n'.giveUp p).enter p .idle) := strokes.giveUp.stroke (.change _)
  unfold Network.halt
  split
  · next eq => exact entered.trans (strokes_setTimer eq)
  · next eq => exact (entered.trans (strokes_setTimer eq)).stroke (.note (.disarmFailed _) rfl)

theorem Strokes.report (strokes : Strokes speaks p n n') (f : Detection) :
    Strokes speaks p n (n'.report p f) := strokes.stroke (.change _)

theorem Strokes.note (strokes : Strokes speaks p n n') {x : Notice} (said : speaks x) :
    Strokes speaks p n (n'.note x) :=
  strokes.stroke (.note x said)

theorem Strokes.plain (strokes : Strokes Notice.Plain p n n') (x : Notice) (plain : x.mark = none) :
    Strokes Notice.Plain p n (n'.note x) := strokes.note plain

theorem strokes_face (c : Probe) (k : Packet) (n : Network) : Strokes Notice.Plain p n (n.face p c k) := by
  unfold face
  split
  · exact .refl n
  · exact (((Strokes.refl n).plain (.claimedEarly k) rfl).report _).halt
  · exact (((Strokes.refl n).plain (.claimedEarly k) rfl).report _).halt
  · split
    · exact ((((Strokes.refl n).stroke (.change _)).stroke (.send _)).plain
        (.defending k) rfl).report _
    · exact (((Strokes.refl n).plain (.yielded k) rfl).report _).halt

theorem strokes_attend (c : Probe) (ks : List Packet) (n : Network) :
    Strokes Notice.Plain p n (n.attend p c ks) := by
  induction ks generalizing n with
  | nil => exact .refl n
  | cons k ks ih =>
    rw [attend_cons]
    split
    · exact (strokes_face c k n).trans (ih _)
    · exact ih n

theorem strokes_conclude (c : Probe) (n : Network) : Strokes Notice.Plain p n (n.conclude p c).2 := by
  unfold conclude
  split
  · split
    · split <;> next eq => exact strokes_setTimer eq
    · split
      · exact (((Strokes.refl n).plain (.held ..) rfl).report _).halt
      · exact ((((Strokes.refl n).plain (.probeSucceeded _) rfl).stroke (.change _)).report _)
  · exact .refl n

theorem strokes_start (c : Probe) (n : Network) : Strokes Whatever p n (n.start p c).2 := by
  unfold start
  split
  · exact .refl n
  · split
    · exact .refl n
    · split
      · exact .refl n
      · split
        · exact .refl n
        · split
          · next eq => exact strokes_setTimer eq
          · next eq =>
            exact (((strokes_setTimer eq).stroke .collect).stroke (.change _)).note trivial

theorem strokes_stop (p : Nat) (n : Network) : Strokes Notice.Plain p n (n.stop p) :=
  (Strokes.refl n).halt.stroke (.change _)

theorem strokes_poll (p : Nat) (n : Network) : Strokes Notice.Plain p n (n.poll p).2 := by
  unfold poll
  split
  · exact (Strokes.refl n).stroke (.change _)
  · exact .refl n
  · exact .refl n

theorem strokes_announce (p : Nat) (policy : DefendPolicy) (n : Network) :
    Strokes Whatever p n (n.announce p policy).2 := by
  unfold announce
  split
  · exact ((((Strokes.refl n).stroke (.hold _ rfl)).stroke (.send _)).note trivial).stroke
      (.change _)
  · exact .refl n
  · exact .refl n

theorem strokes_drained {r : Except SystemFault Unit} (drained : n.drain p = (r, n')) :
    Strokes Notice.Plain p n n' := by
  have stroke : Stroke Notice.Plain p n (n.drain p).2 := .drain
  rw [drained] at stroke
  exact (Strokes.refl n).stroke stroke

/-- What a dispatch does after it has tried to take the expiry of the timer. -/
theorem strokes_of_drained {r : Except SystemFault Unit} (drained : n.drain p = (r, n')) :
    Strokes Notice.Plain p n' (n.dispatch p).2 := by
  have same {r' : Except SystemFault Unit} {m : Network} (drained' : n.drain p = (r', m)) :
      m = n' := (Prod.mk.inj (drained'.symm.trans drained)).2
  rcases eq : n.dispatch p with ⟨r, n'⟩
  cases dispatched eq with
  | fault drained' => exact same drained' ▸ .refl _
  | resting drained' _ => exact same drained' ▸ (Strokes.refl _).stroke .collect
  | unconfigured drained' _ _ => exact same drained' ▸ (Strokes.refl _).stroke .collect
  | carrierless drained' _ _ _ =>
    exact same drained' ▸
      ((((Strokes.refl _).stroke .collect).plain (.carrierLost _) rfl).report _).halt
  | attended drained' _ _ _ =>
    exact same drained' ▸
      (((Strokes.refl _).stroke .collect).trans (strokes_attend _ _ _)).trans (strokes_conclude _ _)

theorem strokes_dispatch (p : Nat) (n : Network) : Strokes Notice.Plain p n (n.dispatch p).2 :=
  (strokes_drained rfl).trans (strokes_of_drained rfl)

theorem strokes_tell (p : Nat) (n : Network) : Strokes Notice.Plain p n (n.tell p) := by
  refine (Strokes.refl n).stroke (.told _ ?_)
  unfold Timer.tell
  split <;> rfl

theorem strokes_renew (p : Nat) (n : Network) : Strokes Notice.Plain p n (n.renew p) :=
  (Strokes.refl n).stroke (.told _ rfl)

/-- Whatever a detector does for its host is a chain of strokes. -/
theorem keeps_strokes (p : Nat) : (detector p).Keeps (Strokes Whatever p) where
  refl := .refl
  trans := .trans
  note _ n := (Strokes.refl n).note trivial
  start := strokes_start
  stop n := (strokes_stop p n).whatever
  dispatch n := (strokes_dispatch p n).whatever
  poll n := (strokes_poll p n).whatever
  tell n := (strokes_tell p n).whatever
  renew n := (strokes_renew p n).whatever

/-! ## What strokes do -/

theorem Stroke.stirred (stroke : Stroke speaks p n n') (other : q ≠ p) :
    Unfailing (Stirred q) n n' := by
  cases stroke with
  | note x _ => exact .of_same rfl (.of_same le_rfl rfl rfl)
  | set t => exact stirred_setTimer other t n
  | drain => exact stirred_drain other n
  | told t same =>
    refine .of_same rfl (.of_same le_rfl (Link.inbox_setTimer ..) ?_)
    exact (timer_setTimer ..).trans (if_neg fun both => other both.1.symm)
  | collect =>
    refine .of_same rfl (.of_same le_rfl ?_ (timer_clearInbox ..))
    exact (Link.inbox_clearInbox ..).trans (if_neg (Ne.symm other))
  | hold f taps => exact .of_same rfl (.of_same le_rfl (inbox_congr taps q) (timer_congr taps q))
  | change f => exact .of_same rfl (.of_same le_rfl rfl rfl)
  | send k => exact stirred_send p k q n

/-- A detector at work leaves another tap alone, or wakes it. -/
theorem Strokes.stirred (strokes : Strokes speaks p n n') (other : q ≠ p) :
    Unfailing (Stirred q) n n' :=
  strokes.lift (fun n => .of_same rfl (.refl q n)) (fun first => first.trans Stirred.trans)
    (fun stroke => stroke.stirred other)

/-- The work of a detector does not bring more calls to fail. -/
theorem Strokes.toFail_le (strokes : Strokes speaks p n n') : n'.toFail ≤ n.toFail :=
  (strokes.stirred (Nat.succ_ne_self p)).1

/-- A dispatch during which no call on a timer fails begins with taking the expiry and the mail. -/
theorem drained_of_spared (spared : (n.dispatch p).2.toFail = n.toFail) :
    ∃ m, n.drain p = (.ok (), m) ∧ Quiet n m := by
  rcases drain_cases p n with ⟨r, faults, drained, less⟩ | ⟨faults, drained, _⟩
  · have fewer := (strokes_of_drained drained).toFail_le
    omega
  · exact ⟨_, drained, quiet_of_drained drained⟩

/-- A detector takes its mail or leaves it where it is. -/
theorem Strokes.mail (strokes : Strokes speaks p n n') :
    n'.link.inbox p = n.link.inbox p ∨ n'.link.inbox p = [] := by
  refine strokes.lift (r := fun n n' => n'.link.inbox p = n.link.inbox p ∨ n'.link.inbox p = [])
    (fun _ => .inl rfl) ?_ ?_
  · rintro n n' n'' first (same | none)
    · exact same ▸ first
    · exact .inr none
  · intro n n' stroke
    cases stroke with
    | note x _ => exact .inl rfl
    | set t => exact .inl ((quiet_setTimer p t n).inbox p)
    | drain => exact .inl ((quiet_drain p n).inbox p)
    | told t same => exact .inl (Link.inbox_setTimer ..)
    | collect => exact .inr ((Link.inbox_clearInbox ..).trans (if_pos rfl))
    | hold f taps => exact .inl (inbox_congr taps p)
    | change f => exact .inl rfl
    | send k => exact .inl ((inbox_send p k n p).trans (if_neg fun both => both.1 rfl))

/-- Plain notices leave no mark. -/
theorem Strokes.tells (strokes : Strokes Notice.Plain p n n') : Tells [] n n' := by
  refine strokes.lift .refl .trans fun stroke => ?_
  cases stroke with
  | note x plain => exact .plain plain _
  | set t => exact tells_setTimer p t _
  | drain => exact tells_drain p _
  | send k => exact tells_send p k _
  | _ => exact .of_same rfl

end LinkLocal.Simulation.Network
