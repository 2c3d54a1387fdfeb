import LinkLocal.Proofs.Network.Moves
import Mathlib.Tactic.ByContra

/-! What no chain of moves can break. A detector leaves the others alone and never
takes their mail; nobody comes to defend an address without announcing it; and an
address loses its owner only when that owner stops defending it. -/
namespace LinkLocal.Simulation.Network

variable {n n' n'' : Network} {p q : Nat} {a : IPv4} {c d : Probe}

/-! ## Retiring -/

theorem giveUp_of_announced (announced : Announced p c n) :
    n.giveUp p = n.onLink (.giveUp c.address c.mac) := by
  obtain ⟨stands, probe⟩ := announced
  cases phase : (n.prober p).phase <;> simp [Phase.isAnnounced, phase] at stands
  simp [giveUp, phase, probe]

theorem giveUp_of_not_announced (silent : ∀ c, ¬ Announced p c n) : n.giveUp p = n := by
  unfold giveUp
  split
  · next c phase probe => exact absurd ⟨by rw [phase]; rfl, probe⟩ (silent c)
  · rfl

@[simp] theorem giveUp_probers (p : Nat) (n : Network) : (n.giveUp p).probers = n.probers := by
  unfold giveUp
  split <;> rfl

@[simp] theorem giveUp_taps (p : Nat) (n : Network) : (n.giveUp p).link.taps = n.link.taps := by
  unfold giveUp
  split
  · exact Link.taps_giveUp ..
  · rfl

/-- Whoever retires is at rest. -/
theorem phase_retire (p : Nat) (n : Network) : ((n.retire p).prober p).phase = .idle := by
  by_cases attached : p ∈ (n.giveUp p).probers.keys
  · rw [retire, enter, prober_onProber_self _ attached]
  · have working := mt (attached_of_working (n := n.retire p) (p := p))
      (by rwa [retire, enter, keys_onProber])
    exact Decidable.not_not.mp working

theorem prober_retire_of_ne (n : Network) (other : q ≠ p) :
    (n.retire p).prober q = n.prober q := by
  rw [retire, enter, prober_onProber_of_ne _ other, prober, giveUp_probers, prober]

theorem not_announced_of_idle (idle : (n.prober p).phase = .idle) : ¬ Announced p c n := by
  simp [Announced, idle, Phase.isAnnounced]

theorem Announced.working (announced : Announced p c n) : (n.prober p).phase ≠ .idle :=
  fun idle => not_announced_of_idle idle announced

theorem Announced.unique (first : Announced p c n) (second : Announced p d n) : c = d :=
  Option.some.inj (first.2.symm.trans second.2)

/-! ## The other detectors -/

/-- Between two networks only the detector at this tap was at work. -/
structure Apart (p : Nat) (n n' : Network) : Prop where
  now : n'.now = n.now
  carrier : n'.link.carrier = n.link.carrier
  nextTap : n'.link.nextTap = n.link.nextTap
  taps : n'.link.taps.keys = n.link.taps.keys
  attached : n'.probers.keys = n.probers.keys
  prober : ∀ q, q ≠ p → n'.prober q = n.prober q
  mail : ∀ q, q ≠ p → n.link.inbox q <+: n'.link.inbox q

theorem Apart.refl (p : Nat) (n : Network) : Apart p n n :=
  ⟨rfl, rfl, rfl, rfl, rfl, fun _ _ => rfl, fun _ _ => List.prefix_refl _⟩

theorem Apart.trans (first : Apart p n n') (second : Apart p n' n'') : Apart p n n'' where
  now := second.now.trans first.now
  carrier := second.carrier.trans first.carrier
  nextTap := second.nextTap.trans first.nextTap
  taps := second.taps.trans first.taps
  attached := second.attached.trans first.attached
  prober q other := (second.prober q other).trans (first.prober q other)
  mail q other := (first.mail q other).trans (second.mail q other)

theorem apart_onProber (f : Prober → Prober) (n : Network) :
    Apart p n (n.onProber p f) where
  now := rfl
  carrier := rfl
  nextTap := rfl
  taps := rfl
  attached := keys_onProber f
  prober _ other := prober_onProber_of_ne f other
  mail _ _ := List.prefix_refl _

theorem Quiet.apart (quiet : Quiet n n') (p : Nat) : Apart p n n' where
  now := quiet.now
  carrier := quiet.carrier
  nextTap := quiet.nextTap
  taps := quiet.taps
  attached := congrArg Table.keys quiet.probers
  prober q _ := quiet.prober q
  mail q _ := quiet.inbox q ▸ List.prefix_refl _

theorem apart_send (p : Nat) (k : Packet) (n : Network) : Apart p n (n.send p k) where
  now := (still_send p k n).now
  carrier := (still_send p k n).carrier
  nextTap := (still_send p k n).nextTap
  taps := (still_send p k n).taps
  attached := congrArg Table.keys (still_send p k n).probers
  prober q _ := (still_send p k n).prober q
  mail q _ := by
    rw [inbox_send]
    split
    · exact List.prefix_append _ _
    · exact List.prefix_refl _

theorem apart_giveUp (p : Nat) (n : Network) : Apart p n (n.giveUp p) where
  now := by unfold giveUp; split <;> rfl
  carrier := by
    unfold giveUp
    split
    · simp only [onLink, Link.giveUp]; split <;> rfl
    · rfl
  nextTap := by
    unfold giveUp
    split
    · simp only [onLink, Link.giveUp]; split <;> rfl
    · rfl
  taps := congrArg Table.keys (giveUp_taps p n)
  attached := congrArg Table.keys (giveUp_probers p n)
  prober q _ := by rw [prober, giveUp_probers, prober]
  mail q _ := by
    have same : (n.giveUp p).link.inbox q = n.link.inbox q := by
      rw [Link.inbox, Link.inbox, giveUp_taps]
    exact same ▸ List.prefix_refl _

theorem Move.apart (move : Move p n n') : Apart p n n' := by
  cases move with
  | quiet h => exact h.apart p
  | collect =>
    refine ⟨rfl, rfl, rfl, Table.keys_modify .., rfl, fun _ _ => rfl, fun q other => ?_⟩
    have same := (Link.inbox_clearInbox n.link p q).trans (if_neg (Ne.symm other))
    exact same ▸ List.prefix_refl _
  | begin _ => exact apart_onProber _ n
  | find _ => exact apart_onProber _ n
  | succeed _ => exact apart_onProber _ n
  | defend _ _ => exact (apart_onProber _ n).trans (apart_send p _ _)
  | retire => exact (apart_giveUp p n).trans (apart_onProber _ _)

/-- A detector's work leaves the other detectors alone, and adds to their mail at most. -/
theorem Moves.apart (moves : Moves p n n') : Apart p n n' :=
  moves.lift (Apart.refl p) Apart.trans Move.apart

/-! ## Announcements and owners -/

/-- Between two networks nobody announces, and an address loses its owner exactly
when that owner stops defending it. -/
structure Yielding (n n' : Network) : Prop where
  stood : ∀ q c, Announced q c n' → Announced q c n
  owner : ∀ a, n'.link.owner a = n.link.owner a ∨ n'.link.owner a = none ∧
    ∃ q c, Announced q c n ∧ ¬ Announced q c n' ∧ c.address = a ∧ n.link.owner a = some c.mac
  left : ∀ q c, Announced q c n → ¬ Announced q c n' → n'.link.owner c.address ≠ some c.mac

theorem Yielding.of_same (same : ∀ q c, Announced q c n' ↔ Announced q c n)
    (owner : ∀ a, n'.link.owner a = n.link.owner a) : Yielding n n' where
  stood q c := (same q c).mp
  owner a := .inl (owner a)
  left q c before after := absurd ((same q c).mpr before) after

theorem Yielding.refl (n : Network) : Yielding n n := .of_same (fun _ _ => Iff.rfl) fun _ => rfl

theorem Yielding.trans (first : Yielding n n') (second : Yielding n' n'') : Yielding n n'' where
  stood q c after := first.stood q c (second.stood q c after)
  owner a := by
    rcases first.owner a with kept | ⟨gone, q, c, before, after, rest⟩
    · rcases second.owner a with kept' | ⟨gone, q, c, before, after, here, held⟩
      · exact .inl (kept'.trans kept)
      · exact .inr ⟨gone, q, c, first.stood q c before, after, here, kept ▸ held⟩
    · have gone' : n''.link.owner a = none := by
        rcases second.owner a with kept | ⟨gone', _⟩
        · exact kept.trans gone
        · exact gone'
      exact .inr ⟨gone', q, c, before, fun late => after (second.stood q c late), rest⟩
  left q c before after := by
    -- Nobody comes back to an address that it has left: that would take an announcement.
    by_cases between : Announced q c n'
    · exact second.left q c between after
    · intro held
      rcases second.owner c.address with kept | ⟨gone, _⟩
      · exact first.left q c before between (kept ▸ held)
      · rw [gone] at held; cases held

theorem announced_congr {r : Nat} (same : n'.prober r = n.prober r) :
    Announced r c n' ↔ Announced r c n := by rw [Announced, Announced, same]

/-- Networks that differ in one detector, which does not begin or end to defend. -/
private theorem yielding_at (others : ∀ q, q ≠ p → n'.prober q = n.prober q)
    (own : ∀ c, Announced p c n' ↔ Announced p c n)
    (owner : ∀ a, n'.link.owner a = n.link.owner a) : Yielding n n' := by
  refine .of_same (fun q c => ?_) owner
  by_cases same : q = p
  · exact same ▸ own c
  · exact announced_congr (others q same)

theorem yielding_retire (p : Nat) (n : Network) : Yielding n (n.retire p) := by
  have resting : ∀ c, ¬ Announced p c (n.retire p) :=
    fun c => not_announced_of_idle (phase_retire p n)
  by_cases silent : ∀ c, ¬ Announced p c n
  · refine yielding_at (p := p) (fun q other => prober_retire_of_ne n other)
      (fun c => iff_of_false (resting c) (silent c)) fun a => ?_
    rw [retire, giveUp_of_not_announced silent, link_enter]
  · obtain ⟨c, announced⟩ := Classical.not_forall_not.mp silent
    have owner : ∀ a, (n.retire p).link.owner a =
        if c.address = a ∧ n.link.owner c.address = some c.mac then none else n.link.owner a := by
      intro a
      rw [retire, giveUp_of_announced announced, link_enter]
      exact Link.owner_giveUp n.link c.address a c.mac
    refine ⟨fun q d after => ?_, fun a => ?_, fun q d before after => ?_⟩
    · by_cases same : q = p
      · exact absurd (same ▸ after) (resting d)
      · exact (announced_congr (prober_retire_of_ne n same)).mp after
    · rw [owner a]
      split
      · next held => exact .inr ⟨rfl, p, c, announced, resting c, held.1, held.1 ▸ held.2⟩
      · exact .inl rfl
    · have same : q = p := by
        by_contra other
        exact after ((announced_congr (prober_retire_of_ne n other)).mpr before)
      subst same
      obtain rfl : c = d := announced.unique before
      rw [owner c.address]
      simp

theorem Move.yielding (move : Move p n n') : Yielding n n' := by
  cases move with
  | quiet h => exact .of_same (fun q c => announced_congr (h.prober q)) h.owner
  | collect => exact .of_same (fun _ _ => Iff.rfl) fun _ => rfl
  | @begin deadline c idle =>
    refine yielding_at (fun q => prober_onProber_of_ne _) (fun d => ?_) fun _ => rfl
    refine iff_of_false (fun after => ?_) (not_announced_of_idle idle)
    rcases prober_onProber_self_or (fun _ => ⟨.probing deadline, some c, {}⟩) p n with
      changed | ⟨absent, _⟩
    · rw [Announced, changed] at after; cases after.1
    · rw [Announced, absent] at after; cases after.1
  | find found =>
    refine yielding_at (fun q => prober_onProber_of_ne _) (fun c => ?_) fun _ => rfl
    rw [Announced, Announced, phase_find, probe_find]
  | @succeed deadline probing =>
    refine yielding_at (fun q => prober_onProber_of_ne _) (fun c => ?_) fun _ => rfl
    refine iff_of_false (fun after => ?_) fun before => ?_
    · rcases prober_onProber_self_or (fun s => { s with phase := .ready }) p n with
        changed | ⟨absent, _⟩
      · rw [Announced, enter, changed] at after; cases after.1
      · rw [Announced, enter, absent] at after; cases after.1
    · rw [Announced, probing] at before; cases before.1
  | @defend policy last c announced probe =>
    have sent := still_send p (announcement c) (n.enter p (.announced policy (some n.now)))
    refine yielding_at (p := p) (fun q other => ?_) (fun d => ?_) sent.owner
    · rw [sent.prober, enter, prober_onProber_of_ne _ other]
    · rw [Announced, Announced, sent.prober, probe_enter, enter,
        prober_onProber_self _ (attached_of_working (by rw [announced]; simp)), announced]
      rfl
  | retire => exact yielding_retire p n

/-- A detector at work announces nothing, and gives up at most its own address. -/
theorem Moves.yielding (moves : Moves p n n') : Yielding n n' :=
  moves.lift Yielding.refl Yielding.trans Move.yielding

/-! ## Networks in order -/

/-- Taps and detectors belong together, taps are numbered in the order in which they
came, and a detector at work has something to probe or to defend. -/
structure WellFormed (n : Network) : Prop where
  attached : ∀ q, q ∈ n.probers.keys ↔ q ∈ n.link.taps.keys
  earlier : ∀ q ∈ n.link.taps.keys, q < n.link.nextTap
  configured : ∀ q, (n.prober q).phase ≠ .idle → ∃ c, (n.prober q).probe = some c

theorem WellFormed.of_apart (formed : WellFormed n) (apart : Apart p n n')
    (own : (n'.prober p).phase ≠ .idle → ∃ c, (n'.prober p).probe = some c) :
    WellFormed n' where
  attached q := by rw [apart.attached, apart.taps]; exact formed.attached q
  earlier q member := by
    rw [apart.nextTap]
    exact formed.earlier q (apart.taps ▸ member)
  configured q working := by
    by_cases same : q = p
    · subst same; exact own working
    · rw [apart.prober q same] at working ⊢
      exact formed.configured q working

theorem Move.wellFormed (move : Move p n n') (formed : WellFormed n) : WellFormed n' := by
  refine formed.of_apart move.apart fun working => ?_
  cases move with
  | quiet h =>
    rw [h.prober] at working ⊢
    exact formed.configured p working
  | collect => exact formed.configured p working
  | @begin deadline c idle =>
    rcases prober_onProber_self_or (fun _ => ⟨.probing deadline, some c, {}⟩) p n with
      changed | ⟨absent, _⟩
    · exact ⟨c, by rw [changed]⟩
    · rw [absent] at working; exact absurd rfl working
  | find found =>
    rw [phase_find] at working
    rw [probe_find]
    exact formed.configured p working
  | succeed probing =>
    rw [probe_enter]
    exact formed.configured p (by rw [probing]; simp)
  | @defend policy last c announced probe =>
    rw [(still_send _ _ _).prober, probe_enter]
    exact ⟨c, probe⟩
  | retire => exact absurd (phase_retire p n) working

theorem Moves.wellFormed (moves : Moves p n n') (formed : WellFormed n) : WellFormed n' :=
  moves.lift (r := fun n n' => WellFormed n → WellFormed n') (fun _ => id)
    (fun first second formed => second (first formed)) Move.wellFormed formed

end LinkLocal.Simulation.Network
