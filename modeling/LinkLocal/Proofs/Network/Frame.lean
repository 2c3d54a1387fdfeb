import LinkLocal.Simulation.Detection

/-! What the work of one detector leaves alone. Timers, faults and notices never
touch the mail, the owners or the detectors; a packet that is sent touches only
the mail; and what a detector does to itself does not touch the others. -/
namespace LinkLocal.Simulation.Network

variable {n n' n'' : Network} {p q : Nat} {a : IPv4} {c : Probe}

/-! ## Networks that differ in little -/

/-- The second network has the clock, the carrier, the owners, the taps and the
detectors of the first. Its mail, timers, faults and notices may differ. -/
structure Still (n n' : Network) : Prop where
  now : n'.now = n.now
  carrier : n'.link.carrier = n.link.carrier
  owner : ∀ a, n'.link.owner a = n.link.owner a
  nextTap : n'.link.nextTap = n.link.nextTap
  taps : n'.link.taps.keys = n.link.taps.keys
  probers : n'.probers = n.probers

/-- The second network differs from the first at most in timers, in the rules for
calls on them, and in notices. -/
structure Quiet (n n' : Network) : Prop extends Still n n' where
  inbox : ∀ q, n'.link.inbox q = n.link.inbox q
  log : n'.link.log = n.link.log

theorem Still.refl (n : Network) : Still n n := ⟨rfl, rfl, fun _ => rfl, rfl, rfl, rfl⟩

theorem Still.trans (first : Still n n') (second : Still n' n'') : Still n n'' where
  now := second.now.trans first.now
  carrier := second.carrier.trans first.carrier
  owner a := (second.owner a).trans (first.owner a)
  nextTap := second.nextTap.trans first.nextTap
  taps := second.taps.trans first.taps
  probers := second.probers.trans first.probers

theorem Still.prober (still : Still n n') (q : Nat) : n'.prober q = n.prober q := by
  rw [Network.prober, Network.prober, still.probers]

theorem Quiet.refl (n : Network) : Quiet n n := ⟨Still.refl n, fun _ => rfl, rfl⟩

theorem Quiet.trans (first : Quiet n n') (second : Quiet n' n'') : Quiet n n'' where
  toStill := first.toStill.trans second.toStill
  inbox q := (second.inbox q).trans (first.inbox q)
  log := second.log.trans first.log

/-! ## Timers, faults and notices -/

theorem quiet_note (x : Notice) (n : Network) : Quiet n (n.note x) :=
  ⟨⟨rfl, rfl, fun _ => rfl, rfl, rfl, rfl⟩, fun _ => rfl, rfl⟩

theorem quiet_faults (f : Faults) (n : Network) : Quiet n { n with faults := f } :=
  ⟨⟨rfl, rfl, fun _ => rfl, rfl, rfl, rfl⟩, fun _ => rfl, rfl⟩

private theorem quiet_linkTimer (p : Nat) (t : Timer) (f : Faults) (n : Network) :
    Quiet n { n with faults := f, link := n.link.setTimer p t } :=
  ⟨⟨rfl, rfl, fun _ => rfl, rfl, Table.keys_modify .., rfl⟩,
    fun q => Link.inbox_setTimer n.link p q t, rfl⟩

theorem quiet_setTimer (p : Nat) (t : Timer) (n : Network) : Quiet n (n.setTimer p t).2 := by
  unfold setTimer
  split
  · exact quiet_faults _ n
  · exact quiet_linkTimer p t _ n

theorem quiet_drain (p : Nat) (n : Network) : Quiet n (n.drain p).2 := by
  unfold drain
  split
  · exact quiet_faults _ n
  · exact quiet_linkTimer p _ _ n

theorem quiet_wake (p : Nat) (n : Network) : Quiet n (n.wake p) := by
  have armed : Quiet n (n.arm p 0).2 := quiet_setTimer p _ n
  unfold wake
  split
  · next eq => rwa [eq] at armed
  · next eq =>
    rw [eq] at armed
    exact armed.trans (quiet_note _ _)

theorem quiet_tell (p : Nat) (n : Network) : Quiet n (n.tell p) :=
  quiet_linkTimer p _ n.faults n

theorem quiet_renew (p : Nat) (n : Network) : Quiet n (n.renew p) :=
  quiet_linkTimer p _ n.faults n

/-! ## Mail -/

theorem still_deliver (k : Packet) (n : Network) (p : Nat) : Still n (n.deliver k p) :=
  have put : Still n (n.onLink (.deliver k p)) :=
    ⟨rfl, rfl, fun _ => rfl, rfl, Table.keys_modify .., rfl⟩
  put.trans (quiet_wake p _).toStill

theorem inbox_deliver (k : Packet) (n : Network) (p q : Nat) :
    (n.deliver k p).link.inbox q =
      if p = q ∧ q ∈ n.link.taps.keys then n.link.inbox q ++ [k] else n.link.inbox q := by
  rw [deliver, (quiet_wake p _).inbox q]
  exact Link.inbox_deliver n.link k p q

/-- Delivering a packet to several taps touches only the mail. -/
theorem still_deliverAll (k : Packet) (ps : List Nat) (n : Network) :
    Still n (ps.foldl (deliver k) n) := by
  induction ps generalizing n with
  | nil => exact Still.refl n
  | cons p ps ih => exact (still_deliver k n p).trans (ih _)

/-- Each of the taps that a packet is delivered to has it last in its mailbox. -/
theorem inbox_deliverAll (k : Packet) (ps : List Nat) (distinct : ps.Nodup) (n : Network)
    (q : Nat) : (ps.foldl (deliver k) n).link.inbox q =
      if q ∈ ps ∧ q ∈ n.link.taps.keys then n.link.inbox q ++ [k] else n.link.inbox q := by
  induction ps generalizing n with
  | nil => simp
  | cons p ps ih =>
    obtain ⟨head, tail⟩ := List.nodup_cons.mp distinct
    rw [List.foldl_cons, ih tail, (still_deliver k n p).taps, inbox_deliver]
    by_cases same : p = q
    · subst same
      simp [head]
    · simp [same, Ne.symm same]

/-- Delivering a packet does not log it. -/
theorem log_deliverAll (k : Packet) (ps : List Nat) (n : Network) :
    (ps.foldl (deliver k) n).link.log = n.link.log := by
  induction ps generalizing n with
  | nil => rfl
  | cons p ps ih => exact (ih _).trans (quiet_wake p _).log

/-- What a log cannot show it does not show later either, when other packets are in front. -/
theorem take_append_take (new shown : List Packet) :
    (new ++ shown.take PacketLog.capacity).take PacketLog.capacity =
      (new ++ shown).take PacketLog.capacity := by
  rw [List.take_append, List.take_append, List.take_take,
    Nat.min_eq_left (Nat.sub_le PacketLog.capacity _)]

theorem still_send (p : Nat) (k : Packet) (n : Network) : Still n (n.send p k) :=
  have recorded : Still n (n.onLink (.record k)) := ⟨rfl, rfl, fun _ => rfl, rfl, rfl, rfl⟩
  recorded.trans (still_deliverAll k _ _)

theorem still_claim (k : Packet) (n : Network) : Still n (n.claim k) :=
  have recorded : Still n (n.onLink (.record k)) := ⟨rfl, rfl, fun _ => rfl, rfl, rfl, rfl⟩
  recorded.trans (still_deliverAll k _ _)

/-- A packet that a detector sends reaches every other tap, and not its own. -/
theorem inbox_send (p : Nat) (k : Packet) (n : Network) (q : Nat) :
    (n.send p k).link.inbox q =
      if q ≠ p ∧ q ∈ n.link.taps.keys then n.link.inbox q ++ [k] else n.link.inbox q := by
  rw [send, inbox_deliverAll k _ (n.link.taps.nodup_keys.filter _)]
  simp only [onLink, Link.record, List.mem_filter, decide_eq_true_eq]
  by_cases other : q ≠ p <;> by_cases attached : q ∈ n.link.taps.keys <;>
    simp [other, attached] <;> rfl

/-- A packet of another host reaches every tap. -/
theorem inbox_claim (k : Packet) (n : Network) (q : Nat) :
    (n.claim k).link.inbox q =
      if q ∈ n.link.taps.keys then n.link.inbox q ++ [k] else n.link.inbox q := by
  rw [claim, inbox_deliverAll k _ n.link.taps.nodup_keys]
  simp only [onLink, Link.record, and_self]
  rfl

/-! ## The detectors -/

@[simp] theorem keys_onProber (f : Prober → Prober) :
    (n.onProber p f).probers.keys = n.probers.keys := Table.keys_modify ..

/-- What is done to one detector does not touch another. -/
theorem prober_onProber_of_ne (f : Prober → Prober) (other : q ≠ p) :
    (n.onProber p f).prober q = n.prober q := by
  rw [prober, onProber, Table.get?_modify, if_neg (Ne.symm other), prober]

theorem prober_onProber_self (f : Prober → Prober) (attached : p ∈ n.probers.keys) :
    (n.onProber p f).prober p = f (n.prober p) := by
  obtain ⟨s, held⟩ := Option.isSome_iff_exists.mp ((Table.mem_keys_iff _ _).mp attached)
  rw [prober, onProber, Table.get?_modify, if_pos rfl, held, prober, held]
  rfl

/-- A detector that is changed is as the change makes it, or was never there. -/
theorem prober_onProber_self_or (f : Prober → Prober) (p : Nat) (n : Network) :
    (n.onProber p f).prober p = f (n.prober p) ∨
      (n.onProber p f).prober p = {} ∧ n.prober p = {} := by
  rw [prober, onProber, Table.get?_modify, if_pos rfl, prober]
  cases n.probers.get? p with
  | none => exact .inr ⟨rfl, rfl⟩
  | some s => exact .inl rfl

/-- What a change to a detector keeps of it is kept of every detector. -/
theorem onProber_keeps {α : Type} {g : Prober → α} {f : Prober → Prober}
    (keeps : ∀ s, g (f s) = g s) (q : Nat) :
    g ((n.onProber p f).prober q) = g (n.prober q) := by
  by_cases same : q = p
  · subst same
    rcases prober_onProber_self_or f q n with changed | ⟨absent, absent'⟩
    · rw [changed, keeps]
    · rw [absent, absent']
  · rw [prober_onProber_of_ne f same]

/-- A detector that is at work is attached. -/
theorem attached_of_working (working : (n.prober p).phase ≠ .idle) : p ∈ n.probers.keys := by
  rw [Table.mem_keys_iff]
  cases held : n.probers.get? p with
  | some s => rfl
  | none => simp [prober, held] at working

@[simp] theorem link_report (d : Detection) : (n.report p d).link = n.link := rfl

@[simp] theorem link_enter (phase : Phase) : (n.enter p phase).link = n.link := rfl

end LinkLocal.Simulation.Network
