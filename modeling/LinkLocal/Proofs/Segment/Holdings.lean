import LinkLocal.Proofs.Segment

/-! Nothing is left behind on a link. A tap is there for as long as its detector is, and
an address is held by a detector that has announced it and defends it still: whichever
way a detector ends its work, it gives up what it had announced, unless somebody else
has taken it or let go of it in between. Addresses given to hosts by hand are apart from
this, since no detector knows of them. -/
namespace LinkLocal.Simulation

open Network

variable {n n' : Network} {p : Nat} {c : Probe}

/-- Whoever holds an address is a detector that has announced it and defends it, with the
hardware address that is known for it. -/
def Network.Backed (n : Network) : Prop :=
  ∀ a m, n.link.owner a = some m → ∃ p c, Announced p c n ∧ c.address = a ∧ c.mac = m

namespace Network

/-- Whoever stops defending an address does not hold it any longer. -/
theorem Backed.yielding (backed : Backed n) (yielding : Yielding n n') : Backed n' := by
  intro a m held
  have before : n.link.owner a = some m := by
    rcases yielding.owner a with kept | ⟨gone, _⟩
    · exact kept ▸ held
    · rw [gone] at held
      cases held
  obtain ⟨p, c, announced, rfl, rfl⟩ := backed a m before
  by_cases stands : Announced p c n'
  · exact ⟨p, c, stands, rfl, rfl⟩
  · exact absurd held (yielding.left p c announced stands)

/-- Whoever announces an address holds it, and the holders of others go on. -/
theorem Backed.announcing (backed : Backed n) (announcing : Announcing p c n n') :
    Backed n' := by
  intro a m held
  rw [announcing.owner] at held
  split at held
  · next own =>
    cases held
    exact ⟨p, c, announcing.announced, own, rfl⟩
  · obtain ⟨q, d, announced, here, mac⟩ := backed a m held
    have other : q ≠ p := by
      rintro rfl
      have stands := announced.1
      rw [announcing.ready] at stands
      cases stands
    exact ⟨q, d, (announced_congr (announcing.apart.prober q other)).mpr announced, here, mac⟩

/-- An address that was taken from its holder by hand is not held at all. -/
theorem Backed.release (backed : Backed n) (a : IPv4) : Backed (n.release a) := by
  intro b m held
  have before : n.link.owner b = some m := by
    rw [show (n.release a).link.owner b = _ from Link.owner_release ..] at held
    split at held
    · cases held
    · exact held
  exact backed b m before

/-- A detector that is made has the next tap. -/
theorem taps_attach (formed : WellFormed n) : n.attach.2.link.taps.keys =
    match n.attach.1 with
    | .ok p => n.link.taps.keys ++ [p]
    | .error _ => n.link.taps.keys := by
  have fresh : n.link.nextTap ∉ n.link.taps.keys := fun member =>
    Nat.lt_irrefl _ (formed.earlier _ member)
  unfold attach
  split
  · rfl
  · exact Table.keys_insert_of_not_mem _ _ fresh

theorem taps_close (p : Nat) (n : Network) :
    (n.close p).link.taps.keys = n.link.taps.keys.filter (· ≠ p) := by
  rw [close, Link.detach, Table.keys_erase, (conduct_halt p n).apart.taps]

theorem taps_setCarrier (up : Bool) (n : Network) :
    (n.setCarrier up).link.taps.keys = n.link.taps.keys := by
  unfold setCarrier
  split
  · rfl
  · split
    · rfl
    · exact (quiet_wakeAll _ _).taps

end Network

namespace Segment

variable {s : Segment}

/-- Whether an act gives an address to a host by hand. -/
def Act.occupies : Act → Bool
  | .occupy .. => true
  | _ => false

/-- The taps of the detectors that live on after an act, where these lived before it. -/
def Act.survivors (s : Segment) (living : List Nat) : Act → List Nat
  | .attach =>
    match s.network.attach.1 with
    | .ok p => living ++ [p]
    | .error _ => living
  | .drop p => living.filter (· ≠ p)
  | _ => living

/-- The taps of the detectors that were made in acts done in a row and not dropped since,
behind those that lived before. -/
def living : List Act → Segment → List Nat → List Nat
  | [], _, before => before
  | act :: acts, s, before => living acts (s.perform act) (act.survivors s before)

/-- The taps on a link change only when a detector is made or dropped. -/
theorem taps_perform (formed : WellFormed s.network) (act : Act) :
    (s.perform act).network.link.taps.keys = act.survivors s s.network.link.taps.keys := by
  have goes {p : Nat} {n' : Network}
      (goes : Conduct p s.network n' ∨ ∃ c, Announcing p c s.network n') :
      n'.link.taps.keys = s.network.link.taps.keys := by
    rcases goes with conduct | ⟨c, announcing⟩
    · exact conduct.apart.taps
    · exact announcing.apart.taps
  cases act with
  | attach => exact taps_attach formed
  | engage p =>
    simp only [perform]
    split <;> rfl
  | use p call =>
    simp only [perform]
    split
    · exact goes (call_goes p s.network call)
    · rfl
  | order p order =>
    simp only [perform]
    split
    · rfl
    · exact goes (order_goes p ⟨_, s.network⟩ order)
  | drop p =>
    simp only [perform, Act.survivors]
    split
    · exact taps_close p s.network
    · next e _ =>
      obtain ⟨n', conduct, released⟩ := conduct_released p e s.network
      rw [released, taps_close, conduct.apart.taps]
  | claim k => exact (still_claim k s.network).taps
  | carrier up => exact taps_setCarrier up s.network
  | occupy | release | pass | spoil => rfl

theorem backed_perform (backed : Backed s.network) (formed : WellFormed s.network) {act : Act}
    (unoccupied : act.occupies = false) : Backed (s.perform act).network := by
  cases byHand : act.byHand with
  | false =>
    rcases (byHand ▸ happening formed act).yielding_or_announcing with
      yielding | ⟨p, c, announcing⟩
    · exact backed.yielding yielding
    · exact backed.announcing announcing
  | true =>
    cases act with
    | release a => exact backed.release a
    | occupy => cases unoccupied
    | _ => cases byHand

/-- Acts in a row keep the taps of the detectors that live, and no others. -/
theorem taps_after (formed : WellFormed s.network) (acts : List Act) :
    (after acts s).network.link.taps.keys = living acts s s.network.link.taps.keys := by
  induction acts generalizing s with
  | nil => rfl
  | cons act acts ih =>
    rw [after_cons, ih (formed_perform formed act), taps_perform formed]
    rfl

theorem backed_after (backed : Backed s.network) (formed : WellFormed s.network)
    {acts : List Act} (unoccupied : ∀ act ∈ acts, act.occupies = false) :
    Backed (after acts s).network := by
  induction acts generalizing s with
  | nil => exact backed
  | cons act acts ih =>
    obtain ⟨now, later⟩ := List.forall_mem_cons.mp unoccupied
    exact ih (backed_perform backed formed now) (formed_perform formed act) later

/-- Whatever is done on a segment where no address is given to a host by hand, the taps on
the link are those of the detectors that were made and not dropped, each of them once, and
whoever holds an address is one of these detectors that has announced just that address with
just that hardware address, and defends it. -/
theorem nothing_left_behind (around : Surroundings) (acts : List Act)
    (unoccupied : ∀ act ∈ acts, act.occupies = false)
    (reached : after acts ⟨⟨around, {}⟩, {}⟩ = s) :
    s.network.link.taps.keys = living acts ⟨⟨around, {}⟩, {}⟩ [] ∧
      s.network.link.taps.keys.Nodup ∧
      ∀ a m, s.network.link.owner a = some m → ∃ p ∈ living acts ⟨⟨around, {}⟩, {}⟩ [], ∃ c,
        Announced p c s.network ∧ c.address = a ∧ c.mac = m := by
  subst reached
  have fresh : WellFormed ⟨around, {}⟩ := formed_fresh around
  have nobody : Backed ⟨around, {}⟩ := nofun
  have taps := taps_after (s := ⟨⟨around, {}⟩, {}⟩) fresh acts
  have formed := formed_after (s := ⟨⟨around, {}⟩, {}⟩) fresh acts
  have backed := backed_after (s := ⟨⟨around, {}⟩, {}⟩) nobody fresh unoccupied
  refine ⟨taps, Table.nodup_keys _, fun a m held => ?_⟩
  obtain ⟨p, c, announced, here, mac⟩ := backed a m held
  have tap := (formed.attached p).mp (attached_of_working announced.working)
  exact ⟨p, taps ▸ tap, c, announced, here, mac⟩

/-- Two hosts announce one address, the first of them stops, and a third detector that was
never used is dropped. -/
def partings : List Act :=
  [.attach, .attach, .attach, .use 0 (.start (probeBy 1)), .use 1 (.start (probeBy 2)),
    .pass 10000000, .use 0 .dispatch, .use 1 .dispatch, .use 0 (.announce .always),
    .use 1 (.announce .always), .use 0 .stop, .drop 2]

/-- The second host still holds the address, and two detectors live. -/
theorem left_behind_by_partings : ∃ s, (∀ act ∈ partings, act.occupies = false) ∧
    after partings fresh = s ∧ living partings fresh [] = [0, 1] ∧
    s.network.link.owner (probeBy 2).address = some (probeBy 2).mac ∧
    s.network.link.taps.keys = living partings fresh [] ∧
    ∃ p ∈ living partings fresh [], ∃ c, Announced p c s.network ∧
      c.address = (probeBy 2).address ∧ c.mac = (probeBy 2).mac := by
  have unoccupied : ∀ act ∈ partings, act.occupies = false := by decide
  have held : (after partings fresh).network.link.owner (probeBy 2).address =
      some (probeBy 2).mac := by decide +kernel
  obtain ⟨taps, _, backed⟩ := nothing_left_behind {} partings unoccupied rfl
  exact ⟨_, unoccupied, rfl, by decide +kernel, held, taps, backed _ _ held⟩

end Segment
end LinkLocal.Simulation
