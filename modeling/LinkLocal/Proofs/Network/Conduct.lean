import LinkLocal.Proofs.Network.Kept

/-! What the operations of a detector amount to for everybody on the link, and what
else can happen there. A detector never swallows a claim to the address that it
defends: after it has taken its mail it either defends no longer, or every other
tap has its answer. -/
namespace LinkLocal.Simulation.Network

variable {n n' n'' : Network} {p q : Nat} {c d : Probe}

/-- What the work of one detector does to its network when it announces nothing. -/
structure Conduct (p : Nat) (n n' : Network) : Prop where
  apart : Apart p n n'
  yielding : Yielding n n'
  formed : WellFormed n → WellFormed n'
  answered : ∀ c, Announced p c n' → ∀ k ∈ n.link.inbox p, concerns c k = true →
    k ∈ n'.link.inbox p ∨ ∀ q ∈ n.link.taps.keys, q ≠ p → announcement c ∈ n'.link.inbox q

theorem Conduct.refl (p : Nat) (n : Network) : Conduct p n n :=
  ⟨.refl p n, .refl n, id, fun _ _ _ held _ => .inl held⟩

theorem Conduct.trans (first : Conduct p n n') (second : Conduct p n' n'') : Conduct p n n'' where
  apart := first.apart.trans second.apart
  yielding := first.yielding.trans second.yielding
  formed := second.formed ∘ first.formed
  answered c announced k held concerned := by
    rcases first.answered c (second.yielding.stood p c announced) k held concerned with
      kept | answered
    · rcases second.answered c announced k kept concerned with kept | answered
      · exact .inl kept
      · exact .inr fun q tap other => answered q (first.apart.taps ▸ tap) other
    · exact .inr fun q tap other => (second.apart.mail q other).subset (answered q tap other)

/-- Moves that leave the own mail in place. -/
theorem Conduct.of_moves (moves : Moves p n n')
    (mail : ∀ c, Announced p c n' → n'.link.inbox p = n.link.inbox p) : Conduct p n n' :=
  ⟨moves.apart, moves.yielding, moves.wellFormed,
    fun c announced _ held _ => .inl (mail c announced ▸ held)⟩

theorem Quiet.conduct (quiet : Quiet n n') (p : Nat) : Conduct p n n' :=
  .of_moves ((Moves.refl n).quiet quiet) fun _ _ => quiet.inbox p

/-! ## Answering claims -/

theorem phase_halt (p : Nat) (n : Network) : ((n.halt p).prober p).phase = .idle := by
  rw [(quiet_halt p n).prober, phase_retire]

/-- A detector that still defends after a claim has answered it. -/
theorem face_answers {k : Packet} (announced : Announced p c (n.face p c k))
    (tap : q ∈ n.link.taps.keys) (other : q ≠ p) :
    announcement c ∈ (n.face p c k).link.inbox q := by
  have halted (m : Network) : ¬ Announced p c (m.halt p) := not_announced_of_idle (phase_halt p m)
  unfold face at announced ⊢
  split at announced
  · next idle => exact absurd announced (not_announced_of_idle idle)
  · exact absurd announced (halted _)
  · exact absurd announced (halted _)
  · next policy last phase =>
    split at announced
    · next defends =>
      rw [if_pos defends, link_report, (quiet_note _ _).inbox, inbox_send, if_pos ⟨other, tap⟩]
      exact List.mem_append_right _ (List.mem_singleton.mpr rfl)
    · exact absurd announced (halted _)

/-- A detector that still defends after a batch of packets has answered every claim
among them. -/
theorem attend_answers (ks : List Packet) (probe : (n.prober p).probe = some c)
    (announced : Announced p c (n.attend p c ks)) {k : Packet} (member : k ∈ ks)
    (concerned : concerns c k = true) (tap : q ∈ n.link.taps.keys) (other : q ≠ p) :
    announcement c ∈ (n.attend p c ks).link.inbox q := by
  induction ks generalizing n with
  | nil => cases member
  | cons first rest ih =>
    rw [attend_cons] at announced ⊢
    have between : Moves p n (if concerns c first then n.face p c first else n) ∧
        ((if concerns c first then n.face p c first else n).prober p).probe = some c := by
      split
      · exact ⟨moves_face first probe, by rw [probe_face, probe]⟩
      · exact ⟨.refl n, probe⟩
    generalize faced : (if concerns c first then n.face p c first else n) = n' at *
    obtain ⟨moves, probe'⟩ := between
    rcases List.mem_cons.mp member with rfl | later
    · rw [if_pos concerned] at faced
      subst faced
      have rested := (moves_attend rest probe').1
      have answered := face_answers (rested.yielding.stood p c announced) tap other
      exact (rested.apart.mail q other).subset answered
    · exact ih probe' announced later (moves.apart.taps ▸ tap)

/-! ## The operations -/

theorem conduct_start (p : Nat) (c : Probe) (n : Network) : Conduct p n (n.start p c).2 := by
  refine .of_moves (moves_start p c n) fun d announced => ?_
  have before := (moves_start p c n).yielding.stood p d announced
  rw [start, if_pos before.working]

theorem conduct_stop (p : Nat) (n : Network) : Conduct p n (n.stop p) := by
  refine .of_moves (moves_stop p n) fun c announced => ?_
  have resting : ((n.stop p).prober p).phase = .idle :=
    (phase_find p p (fun _ => {}) (n.halt p)).trans (phase_halt p n)
  exact absurd announced (not_announced_of_idle resting)

theorem conduct_poll (p : Nat) (n : Network) : Conduct p n (n.poll p).2 := by
  refine .of_moves (moves_poll p n) fun _ _ => ?_
  unfold poll
  split <;> rfl

theorem conduct_dispatch (p : Nat) (n : Network) : Conduct p n (n.dispatch p).2 := by
  have moves := moves_dispatch p n
  refine ⟨moves.apart, moves.yielding, moves.wellFormed, fun c announced k held concerned => ?_⟩
  obtain ⟨stands, probe⟩ := moves.yielding.stood p c announced
  rcases eq : n.dispatch p with ⟨r, n'⟩
  rw [eq] at announced
  cases dispatched eq with
  | fault drained => exact .inl (by rwa [(quiet_of_drained drained).inbox p])
  | resting _ idle => rw [idle] at stands; cases stands
  | unconfigured _ _ nothing => rw [nothing] at probe; cases probe
  | carrierless _ _ _ _ => exact absurd announced (not_announced_of_idle (phase_halt p _))
  | @attended _ n₁ d drained _ probe' _ =>
    obtain rfl : c = d := Option.some.inj (probe.symm.trans probe')
    have quiet := quiet_of_drained drained
    have configured : ((n₁.onLink (.clearInbox p)).prober p).probe = some c :=
      (quiet.prober p).symm ▸ probe
    have concluded := moves_conclude p c
      ((n₁.onLink (.clearInbox p)).attend p c (n.link.inbox p))
    have attended := concluded.yielding.stood p c announced
    have taps : (n₁.onLink (.clearInbox p)).link.taps.keys = n.link.taps.keys :=
      (Table.keys_modify ..).trans quiet.taps
    refine .inr fun q tap other => (concluded.apart.mail q other).subset ?_
    exact attend_answers _ configured attended held concerned (taps ▸ tap) other

/-! ## Announcing -/

/-- What the announcement of a probe does. -/
structure Announcing (p : Nat) (c : Probe) (n n' : Network) : Prop where
  apart : Apart p n n'
  ready : (n.prober p).phase = .ready
  probe : (n.prober p).probe = some c
  announced : Announced p c n'
  owner : ∀ a, n'.link.owner a = if c.address = a then some c.mac else n.link.owner a
  told : ∀ q ∈ n.link.taps.keys, q ≠ p → announcement c ∈ n'.link.inbox q
  own : n'.link.inbox p = n.link.inbox p

theorem Announcing.quiet (announcing : Announcing p c n n') (quiet : Quiet n' n'') :
    Announcing p c n n'' where
  apart := announcing.apart.trans (quiet.apart p)
  ready := announcing.ready
  probe := announcing.probe
  announced := (announced_congr (quiet.prober p)).mpr announcing.announced
  owner a := (quiet.owner a).trans (announcing.owner a)
  told q tap other := quiet.inbox q ▸ announcing.told q tap other
  own := (quiet.inbox p).trans announcing.own

/-- An announcement is refused without a trace, or it is one. -/
theorem announce_cases (p : Nat) (policy : DefendPolicy) (n : Network) :
    ((∃ fault, n.announce p policy = (.error fault, n)) ∧
      ((n.prober p).phase = .ready → (n.prober p).probe = none)) ∨
    (n.announce p policy).1 = .ok () ∧ ∃ c, Announcing p c n (n.announce p policy).2 := by
  unfold announce
  split
  · next c ready probe =>
    refine .inr ⟨rfl, c, ?_⟩
    generalize sent : (n.onLink (.take c.address c.mac)).send p (announcement c) = m
    have taken : Apart p n (n.onLink (.take c.address c.mac)) :=
      ⟨rfl, rfl, rfl, rfl, rfl, fun _ _ => rfl, fun _ _ => List.prefix_refl _⟩
    have still := still_send p (announcement c) (n.onLink (.take c.address c.mac))
    have apart : Apart p n m := sent ▸ taken.trans (apart_send p _ _)
    have inbox := inbox_send p (announcement c) (n.onLink (.take c.address c.mac))
    rw [sent] at still inbox
    have same : (m.note (.announced c.address policy)).prober p = n.prober p := still.prober p
    have attached : p ∈ (m.note (.announced c.address policy)).probers.keys := by
      refine attached_of_working ?_
      rw [same, ready]
      simp
    refine ⟨(apart.trans ((quiet_note _ m).apart p)).trans (apart_onProber _ _), ready, probe,
      ?_, fun a => ?_, fun q tap other => ?_, ?_⟩
    · rw [Announced, probe_enter, same, enter, prober_onProber_self _ attached]
      exact ⟨rfl, probe⟩
    · exact (still.owner a).trans (Link.owner_take n.link c.address a c.mac)
    · have filled := inbox q
      rw [if_pos ⟨other, tap⟩] at filled
      exact filled ▸ List.mem_append_right _ (List.mem_singleton.mpr rfl)
    · have kept := inbox p
      rw [if_neg fun both => both.1 rfl] at kept
      exact kept
  · next nothing => exact .inl ⟨⟨_, rfl⟩, fun _ => nothing⟩
  · next configured unconfigured =>
    refine .inl ⟨⟨_, rfl⟩, fun ready => ?_⟩
    cases probe : (n.prober p).probe with
    | none => rfl
    | some c => exact absurd ready (configured c · probe)

end LinkLocal.Simulation.Network
