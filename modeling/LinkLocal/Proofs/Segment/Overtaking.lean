import LinkLocal.Proofs.Network.Findings
import LinkLocal.Proofs.Segment

/-! Who holds an address that several hosts have announced. The link remembers one
owner for an address: whoever announced it last, as long as that one defends it. A
host that was overtaken by a later announcement goes on defending, but when the later
one yields, the address is free again as far as probes can tell. -/
namespace LinkLocal.Simulation

open Network

variable {n n' : Network} {p q : Nat} {a : IPv4} {c d : Probe}

/-- The detector at a tap has announced an address and defends it. -/
def Network.Defending (p : Nat) (a : IPv4) (n : Network) : Prop :=
  ∃ c, Announced p c n ∧ c.address = a

/-- Between two networks the detector at a tap found something. -/
def Network.Emits (p : Nat) (f : Detection) (n n' : Network) : Prop :=
  ∃ fs, (n'.prober p).found.toList = (n.prober p).found.toList ++ fs ∧ f ∈ fs

/-- Detectors at work have hardware addresses of their own. -/
def Network.Distinct (n : Network) : Prop :=
  ∀ p ∈ n.probers.keys, ∀ q ∈ n.probers.keys, p ≠ q →
    (n.prober p).phase ≠ .idle → (n.prober q).phase ≠ .idle →
    ∀ c ∈ (n.prober p).probe, ∀ d ∈ (n.prober q).probe, c.mac ≠ d.mac

instance (n : Network) : Decidable n.Distinct :=
  inferInstanceAs (Decidable (∀ p ∈ _, ∀ q ∈ _, _))

namespace Network

theorem Distinct.macs_ne (distinct : n.Distinct) (other : p ≠ q)
    (working : (n.prober p).phase ≠ .idle) (working' : (n.prober q).phase ≠ .idle)
    (probe : (n.prober p).probe = some c) (probe' : (n.prober q).probe = some d) :
    c.mac ≠ d.mac :=
  distinct p (attached_of_working working) q (attached_of_working working') other
    working working' c probe d probe'

theorem not_defending_of_silent (silent : (n.prober p).phase.isAnnounced = false) :
    ¬ Defending p a n := by
  rintro ⟨c, ⟨stands, _⟩, _⟩
  rw [silent] at stands
  cases stands

theorem defending_congr (same : n'.prober p = n.prober p) :
    Defending p a n' ↔ Defending p a n := by
  simp only [Defending, Announced, same]

theorem Yielding.defending (yielding : Yielding n n') (later : Defending p a n') :
    Defending p a n := by
  obtain ⟨c, announced, rfl⟩ := later
  exact ⟨c, yielding.stood p c announced, rfl⟩

/-- Whoever finds something when it is dispatched is at work. -/
theorem Emits.working {f : Detection} (emits : Emits p f n (n.dispatch p).2) :
    (n.prober p).phase ≠ .idle := by
  intro idle
  obtain ⟨fs, grown, member⟩ := emits
  rw [dispatch_resting idle, List.self_eq_append_right] at grown
  subst grown
  cases member

theorem Emits.outcome {f : Detection} (emits : Emits p f n (n.dispatch p).2)
    (probe : (n.prober p).probe = some c) :
    ∃ fs phase, f ∈ fs ∧ Outcome p c n (n.dispatch p).1 fs phase := by
  obtain ⟨gs, phase, found, outcome⟩ := dispatch_outcome emits.working probe
  obtain ⟨fs, grown, member⟩ := emits
  obtain rfl : fs = gs := List.append_cancel_left (grown.symm.trans found.found)
  exact ⟨fs, phase, member, outcome⟩

/-- A dispatch that ends a probe well finds it undisturbed and its address free, and the
other way round. -/
theorem emits_ready_iff (probe : (n.prober p).probe = some c) :
    Emits p .ready n (n.dispatch p).2 ↔ Undisturbed p c n ∧ Free c n := by
  constructor
  · intro emits
    obtain ⟨fs, phase, member, outcome⟩ := emits.outcome probe
    generalize (n.dispatch p).1 = r at outcome
    cases outcome with
    | succeeded undisturbed free => exact ⟨undisturbed, free⟩
    | _ => simp at member
  · rintro ⟨undisturbed, free⟩
    have found := dispatch_undisturbed undisturbed free probe
    exact ⟨[.ready], found.found, List.mem_singleton.mpr rfl⟩

end Network

namespace Segment

variable {s s' : Segment} {past : List Segment} {allowed : Segment → Act → Prop}

/-- Addresses are held by announcement only, by hosts with hardware addresses of their
own. -/
def Fair (s : Segment) (act : Act) : Prop :=
  act.byHand = false ∧ (s.perform act).network.Distinct

instance : DecidableRel Fair := fun _ _ => inferInstanceAs (Decidable (_ ∧ _))

/-- The last one to announce an address, in a run, was the detector at a tap. -/
inductive LastToAnnounce (a : IPv4) (p : Nat) : List Segment → Prop where
  | now {s s' : Segment} {past : List Segment} (before : ¬ Defending p a s.network)
      (after : Defending p a s'.network) : LastToAnnounce a p (s' :: s :: past)
  | earlier {s s' : Segment} {past : List Segment} (last : LastToAnnounce a p (s :: past))
      (silent : ∀ q, Defending q a s'.network → Defending q a s.network) :
      LastToAnnounce a p (s' :: s :: past)

/-! ## One owner at a time -/

/-- In a fair act nobody announces, or one detector does. -/
theorem Run.yielding_or_announcing (run : Run allowed (s :: past)) {act : Act}
    (fair : Fair s act) : Yielding s.network (s.perform act).network ∨
      ∃ p c, Announcing p c s.network (s.perform act).network :=
  (fair.1 ▸ happening run.wellFormed act).yielding_or_announcing

/-- Whoever announces did not defend before, and is the only one who begins to. -/
theorem begins_iff_of_announcing (announcing : Announcing p c n n') :
    Defending q a n' ∧ ¬ Defending q a n ↔ q = p ∧ c.address = a := by
  constructor
  · rintro ⟨later, before⟩
    by_cases own : q = p
    · subst own
      obtain ⟨d, announced, rfl⟩ := later
      rw [announced.unique announcing.announced]
      exact ⟨rfl, rfl⟩
    · exact absurd ((defending_congr (announcing.apart.prober q own)).mp later) before
  · rintro ⟨rfl, rfl⟩
    refine ⟨⟨c, announcing.announced, rfl⟩, not_defending_of_silent ?_⟩
    rw [announcing.ready]
    rfl

theorem Run.distinct (run : Run Fair (s :: past)) : s.network.Distinct := by
  refine run.induction (g := fun s _ => s.network.Distinct) (fun _ p attached => ?_) ?_
  · cases attached
  · intro s past act _ fair _
    exact fair.2

/-- The owner of an address is who announced it last, as long as that one defends it. -/
def OwnerIsLast (s : Segment) (past : List Segment) : Prop :=
  ∀ a m, s.network.link.owner a = some m ↔
    ∃ r c, LastToAnnounce a r (s :: past) ∧ Announced r c s.network ∧ c.address = a ∧ c.mac = m

private theorem ownerIsLast_yielding (yielding : Yielding s.network s'.network)
    (distinct : s.network.Distinct) (known : OwnerIsLast s past) :
    OwnerIsLast s' (s :: past) := by
  intro a m
  constructor
  · intro held
    rcases yielding.owner a with kept | ⟨gone, _⟩
    · obtain ⟨r, c, last, announced, rfl, rfl⟩ := (known a m).mp (kept ▸ held)
      refine ⟨r, c, .earlier last fun q => yielding.defending, ?_, rfl, rfl⟩
      exact Decidable.not_not.mp fun left => yielding.left r c announced left held
    · rw [gone] at held
      cases held
  · rintro ⟨r, c, last, announced, rfl, rfl⟩
    have stood := yielding.stood r c announced
    cases last with
    | now before _ => exact absurd ⟨c, stood, rfl⟩ before
    | earlier last _ =>
      have held := (known c.address c.mac).mpr ⟨r, c, last, stood, rfl, rfl⟩
      rcases yielding.owner c.address with kept | ⟨_, q, d, before, after, _, held'⟩
      · exact kept.trans held
      · -- Whoever has let go of the address held it, with the hardware address of the owner.
        have other : q ≠ r := by
          rintro rfl
          exact after (before.unique stood ▸ announced)
        have macs := distinct.macs_ne other before.working stood.working before.2 stood.2
        exact absurd (Option.some.inj (held'.symm.trans held)) macs

private theorem ownerIsLast_announcing (announcing : Announcing p c s.network s'.network)
    (known : OwnerIsLast s past) : OwnerIsLast s' (s :: past) := by
  intro a m
  rw [announcing.owner a]
  by_cases own : c.address = a
  · have begun := begins_iff_of_announcing announcing (q := p) (a := a)
    obtain ⟨after, before⟩ := begun.mpr ⟨rfl, own⟩
    rw [if_pos own]
    -- The announcement is the last one from here on, whoever announced before.
    constructor
    · rintro ⟨rfl⟩
      exact ⟨p, c, .now before after, announcing.announced, own, rfl⟩
    · rintro ⟨r, d, last, announced, here, rfl⟩
      have same : r = p := by
        cases last with
        | now before after => exact ((begins_iff_of_announcing announcing).mp ⟨after, before⟩).1
        | earlier _ silent => exact absurd (silent p after) before
      subst same
      rw [announced.unique announcing.announced]
  · have others {r d} (announced : Announced r d s'.network) (here : d.address = a) :
        Announced r d s.network := by
      refine (announced_congr (announcing.apart.prober r ?_)).mp announced
      rintro rfl
      exact own (announced.unique announcing.announced ▸ here)
    have silent (q : Nat) : Defending q a s'.network → Defending q a s.network := by
      rintro ⟨d, announced, here⟩
      exact ⟨d, others announced here, here⟩
    rw [if_neg own, known a m]
    constructor
    · rintro ⟨r, d, last, announced, here, mac⟩
      refine ⟨r, d, .earlier last silent, ?_, here, mac⟩
      refine (announced_congr (announcing.apart.prober r ?_)).mpr announced
      rintro rfl
      have stands := announced.1
      rw [announcing.ready] at stands
      cases stands
    · rintro ⟨r, d, last, announced, here, mac⟩
      cases last with
      | now before after => exact absurd (silent r after) before
      | earlier last _ => exact ⟨r, d, last, others announced here, here, mac⟩

theorem Run.ownerIsLast (run : Run Fair (s :: past)) : OwnerIsLast s past := by
  refine run.induction (g := OwnerIsLast) (fun around a m => ?_) ?_
  · constructor
    · intro held
      cases held
    · rintro ⟨r, c, last, _⟩
      cases last
  · intro s past act run fair known
    rcases run.yielding_or_announcing fair with yielding | ⟨p, c, announcing⟩
    · exact ownerIsLast_yielding yielding run.distinct known
    · exact ownerIsLast_announcing announcing known

/-! ## The last one to announce -/

/-- An address that is defended was announced by somebody last. -/
theorem Run.exists_last (run : Run allowed (s :: past)) (defending : Defending q a s.network) :
    ∃ r, LastToAnnounce a r (s :: past) := by
  revert q
  refine run.induction (g := fun s past => ∀ {q}, Defending q a s.network →
    ∃ r, LastToAnnounce a r (s :: past)) (fun around q defending => ?_) ?_
  · obtain ⟨c, announced, _⟩ := defending
    exact absurd rfl announced.working
  · intro s past act _ _ exists_last q defending
    by_cases silent : ∀ q, Defending q a (s.perform act).network → Defending q a s.network
    · obtain ⟨r, last⟩ := exists_last (silent q defending)
      exact ⟨r, .earlier last silent⟩
    · obtain ⟨r, begun⟩ := Classical.not_forall.mp silent
      obtain ⟨after, before⟩ := Classical.not_imp.mp begun
      exact ⟨r, .now before after⟩

theorem Run.last_unique (run : Run Fair (s :: past)) {r r' : Nat}
    (last : LastToAnnounce a r (s :: past)) (last' : LastToAnnounce a r' (s :: past)) :
    r = r' := by
  revert r r'
  refine run.induction (g := fun s past => ∀ {r r'}, LastToAnnounce a r (s :: past) →
    LastToAnnounce a r' (s :: past) → r = r') (fun around r r' last _ => ?_) ?_
  · cases last
  · intro s past act run fair unique r r' last last'
    cases last with
    | now before after =>
      cases last' with
      | now before' after' =>
        rcases run.yielding_or_announcing fair with yielding | ⟨p, c, announcing⟩
        · exact absurd (yielding.defending after) before
        · have first := (begins_iff_of_announcing announcing).mp ⟨after, before⟩
          have second := (begins_iff_of_announcing announcing).mp ⟨after', before'⟩
          exact first.1.trans second.1.symm
      | earlier _ silent => exact absurd (silent r after) before
    | earlier last silent =>
      cases last' with
      | now before' after' => exact absurd (silent r' after') before'
      | earlier last' _ => exact unique last last'

/-- A probe ends well over an address that somebody defends exactly if nothing disturbs
it, and whoever announced that address last defends it no longer. -/
theorem ready_over_defended_iff (run : Run Fair (s :: past))
    (probe : (s.network.prober p).probe = some c) :
    Emits p .ready s.network (s.network.dispatch p).2 ∧
        Defending q c.address (s.network.dispatch p).2 ↔
      Undisturbed p c s.network ∧ Defending q c.address s.network ∧
        ∃ r, LastToAnnounce c.address r (s :: past) ∧ ¬ Defending r c.address s.network := by
  have known := run.ownerIsLast
  have conduct := conduct_dispatch p s.network
  rw [emits_ready_iff probe]
  constructor
  · rintro ⟨⟨undisturbed, free⟩, defending⟩
    have before := conduct.yielding.defending defending
    obtain ⟨r, last⟩ := run.exists_last before
    refine ⟨undisturbed, before, r, last, ?_⟩
    rintro ⟨d, announced, here⟩
    have mac := free d.mac ((known _ _).mpr ⟨r, d, last, announced, here, rfl⟩)
    obtain ⟨deadline, probing, _⟩ := undisturbed.due
    have other : r ≠ p := by
      rintro rfl
      have stands := announced.1
      rw [probing] at stands
      cases stands
    have working : (s.network.prober p).phase ≠ .idle := by simp [probing]
    exact run.distinct.macs_ne other announced.working working announced.2 probe mac
  · rintro ⟨undisturbed, defending, r, last, left⟩
    obtain ⟨deadline, probing, _⟩ := undisturbed.due
    have other : q ≠ p := by
      rintro rfl
      refine not_defending_of_silent ?_ defending
      rw [probing]
      rfl
    refine ⟨⟨undisturbed, fun m held => ?_⟩, ?_⟩
    · obtain ⟨r', d, last', announced, here, _⟩ := (known _ _).mp held
      exact absurd ⟨d, announced, here⟩ (run.last_unique last last' ▸ left)
    · exact (defending_congr (conduct.apart.prober q other)).mpr defending

/-- Two hosts announce one address. The later one yields, the earlier one answers and
goes on defending, and a third one probes the address until its time is over. -/
def overtaking : List Act :=
  [.attach, .attach, .attach, .use 0 (.start (probeBy 1)), .use 1 (.start (probeBy 2)),
    .pass 10000000, .use 0 .dispatch, .use 1 .dispatch, .use 0 (.announce .always),
    .use 1 (.announce .never), .use 1 .dispatch, .use 0 .dispatch,
    .use 2 (.start (probeBy 3)), .pass 10000000]

private theorem run_overtaking : Run Fair (trail overtaking fresh []) :=
  Run.trail (.fresh {}) _ (by decide +kernel)

private theorem overtaken_ready : ∃ s past, s :: past = trail overtaking fresh [] ∧
    (s.network.prober 2).probe = some (probeBy 3) ∧
    Emits 2 .ready s.network (s.network.dispatch 2).2 ∧
    Defending 0 (probeBy 3).address (s.network.dispatch 2).2 :=
  ⟨_, _, rfl, by decide +kernel, ⟨[.ready], by decide +kernel, by decide⟩,
    probeBy 1, by decide +kernel, rfl⟩

/-- Probes do end well over defended addresses, by hosts with different hardware
addresses and without anybody's hand. -/
theorem probe_ends_well_over_defended : ¬ ∀ s past, Run Fair (s :: past) →
    ∀ p q c, p ≠ q → (s.network.prober p).probe = some c →
      Emits p .ready s.network (s.network.dispatch p).2 →
      ¬ Defending q c.address (s.network.dispatch p).2 := by
  intro never
  obtain ⟨s, past, visited, probe, emits, defending⟩ := overtaken_ready
  have run : Run Fair (s :: past) := visited ▸ run_overtaking
  exact never s past run 2 0 (probeBy 3) (by decide) probe emits defending

/-- The last one to announce the address has yielded, which is why the third probe ends
well. -/
theorem ready_over_defended_by_first : ∃ s past, Run Fair (s :: past) ∧
    (s.network.prober 2).probe = some (probeBy 3) ∧
    Undisturbed 2 (probeBy 3) s.network ∧ Defending 0 (probeBy 3).address s.network ∧
    ∃ r, LastToAnnounce (probeBy 3).address r (s :: past) ∧
      ¬ Defending r (probeBy 3).address s.network := by
  obtain ⟨s, past, visited, probe, emitted⟩ := overtaken_ready
  have run : Run Fair (s :: past) := visited ▸ run_overtaking
  exact ⟨s, past, run, probe, (ready_over_defended_iff run probe).mp emitted⟩

end Segment
end LinkLocal.Simulation
