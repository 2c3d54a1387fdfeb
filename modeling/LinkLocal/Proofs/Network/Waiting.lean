import LinkLocal.Proofs.Host.Record
import LinkLocal.Proofs.Network.Attention

/-! A probe that goes on. As long as no new probe begins, a detector that is probing was so
before, for the same address and until the same time, and has every claim to that address still in
its mailbox: whoever takes such a claim while it is probing stops. When a new probe begins, its time
counts from there. This is said for whatever passes between a host and its detector, with the
exchanges as the record has them. -/
namespace LinkLocal

/-- The probe that a detector begins in an exchange, if it does. -/
def Exchange.begun? : Exchange → Option Probe
  | .start c (.ok _) => some c
  | _ => none

/-- The last probe that a detector began in some exchanges. -/
def lastBegun (exchanges : List Exchange) : Option Probe :=
  (exchanges.filterMap Exchange.begun?).getLast?

theorem lastBegun_append (xs ys : List Exchange) :
    lastBegun (xs ++ ys) = (lastBegun ys).or (lastBegun xs) := by
  rw [lastBegun, List.filterMap_append, List.getLast?_append]
  rfl

namespace Simulation.Network

variable {n n' n'' : Network} {p : Nat} {c : Probe} {xs ys : List Exchange}

/-! ## Waiting -/

/-- If the detector at a tap is probing in the second network, it was so in the first one, for the
same address and until the same time, and has kept the claims to it that it had. -/
def Waits (p : Nat) (n n' : Network) : Prop :=
  ∀ t, (n'.prober p).phase = .probing t → (n.prober p).phase = .probing t ∧
    (n'.prober p).probe = (n.prober p).probe ∧
    ∀ c, (n.prober p).probe = some c → ∀ k ∈ n.link.inbox p, concerns c k = true →
      k ∈ n'.link.inbox p

theorem Waits.trans (first : Waits p n n') (second : Waits p n' n'') : Waits p n n'' := by
  intro t probing
  obtain ⟨probing', same', kept'⟩ := second t probing
  obtain ⟨probing'', same, kept⟩ := first t probing'
  refine ⟨probing'', same'.trans same, fun c probe k held concerned => ?_⟩
  exact kept' c (same.trans probe) k (kept c probe k held concerned) concerned

theorem Waits.of_same (prober : n'.prober p = n.prober p)
    (mail : n.link.inbox p <+: n'.link.inbox p) : Waits p n n' := by
  intro t probing
  rw [prober] at probing ⊢
  exact ⟨probing, rfl, fun _ _ _ held _ => mail.subset held⟩

theorem Waits.refl (p : Nat) (n : Network) : Waits p n n := .of_same rfl (List.prefix_refl _)

theorem Quiet.waits (quiet : Quiet n n') (p : Nat) : Waits p n n' :=
  .of_same (quiet.prober p) (quiet.inbox p ▸ List.prefix_refl _)

/-- Whoever is not probing has nothing to wait for. -/
theorem Waits.of_rest (rest : ∀ t, (n'.prober p).phase ≠ .probing t) : Waits p n n' :=
  fun t probing => absurd probing (rest t)

theorem Waits.of_idle (idle : (n'.prober p).phase = .idle) : Waits p n n' :=
  .of_rest fun t probing => by cases idle.symm.trans probing

/-! ## The operations -/

/-- A probe that is refused leaves a detector to the one that it has. -/
theorem waits_refused {fault : DetectorFault} (refused : n.start p c = (.error fault, n')) :
    Waits p n n' := by
  by_cases working : (n.prober p).phase ≠ .idle
  · rw [start_of_working working] at refused
    cases refused
    exact .refl p n
  have idle := Decidable.not_not.mp working
  refine .of_idle ?_
  by_cases attached : p ∈ n'.probers.keys
  · have apart := (moves_start p c n).apart
    rw [refused] at apart
    rcases start_own (apart.attached ▸ attached) c with ⟨_, m, eq, same⟩ | ⟨_, _, eq, _⟩
    · cases refused.symm.trans eq
      rw [same, idle]
    · cases refused.symm.trans eq
  · exact Decidable.not_not.mp (mt attached_of_working attached)

theorem waits_stop (p : Nat) (n : Network) : Waits p n (n.stop p) :=
  .of_idle ((phase_find p p (fun _ => {}) (n.halt p)).trans (phase_halt p n))

theorem waits_poll (p : Nat) (n : Network) : Waits p n (n.poll p).2 := by
  unfold poll
  split
  · next rest _ =>
    intro t probing
    rw [phase_find p p (fun _ => rest)] at probing
    exact ⟨probing, probe_find p p (fun _ => rest) n, fun _ _ _ held _ => held⟩
  · exact .refl p n
  · exact .refl p n

theorem now_announce (p : Nat) (policy : DefendPolicy) (n : Network) :
    (n.announce p policy).2.now = n.now := by
  rcases announce_cases p policy n with ⟨⟨fault, refused⟩, _⟩ | ⟨_, c, announcing⟩
  · rw [refused]
  · exact announcing.apart.now

theorem waits_announce (p : Nat) (policy : DefendPolicy) (n : Network) :
    Waits p n (n.announce p policy).2 := by
  rcases announce_cases p policy n with ⟨⟨fault, refused⟩, _⟩ | ⟨_, c, announcing⟩
  · rw [refused]
    exact .refl p n
  · refine .of_rest fun t probing => ?_
    have stands := announcing.announced.1
    rw [probing] at stands
    cases stands

/-- A detector that goes on probing after it has taken its mail found no claim in it. -/
theorem waits_dispatch (p : Nat) (n : Network) : Waits p n (n.dispatch p).2 := by
  intro t probing
  rcases eq : n.dispatch p with ⟨r, n'⟩
  cases dispatched eq with
  | fault drained =>
    rw [eq] at probing
    exact (quiet_of_drained drained).waits p t probing
  | resting _ idle =>
    rw [dispatch_resting idle, idle] at probing
    cases probing
  | @unconfigured _ n₁ drained _ nothing =>
    have same : (n₁.onLink (.clearInbox p)).prober p = n.prober p :=
      (quiet_of_drained drained).prober p
    rw [eq, same] at probing
    exact ⟨probing, congrArg Prober.probe same, fun _ probe => by cases nothing.symm.trans probe⟩
  | carrierless _ _ _ _ =>
    rw [eq, phase_halt] at probing
    cases probing
  | @attended _ n₁ c drained working probe _ =>
    obtain ⟨fs, phase, found, outcome⟩ := dispatch_outcome working probe
    rw [found.phase] at probing
    generalize (n.dispatch p).1 = r at outcome
    have before : (n.prober p).phase = .probing t := by
      cases outcome with
      | nothing => exact probing
      | _ => cases probing
    subst probing
    rw [eq] at found
    refine ⟨before, found.probe, fun d probe' k held concerned => ?_⟩
    obtain rfl : d = c := Option.some.inj (probe'.symm.trans probe)
    have same : (n₁.onLink (.clearInbox p)).prober p = n.prober p :=
      (quiet_of_drained drained).prober p
    rcases attend_early (c := d) (.inr ⟨t, same ▸ before⟩) (n.link.inbox p) with
      ⟨silent, _⟩ | ⟨_, _, used⟩
    · rw [silent k held] at concerned
      cases concerned
    · have stopped := found.phase
      rw [conclude_of_not_probing (by simp [used.phase]), used.phase] at stopped
      cases stopped

/-! ## Exchanges -/

/-- If the detector at a tap is probing, it does so by this probe, which began at this time. -/
def Begins (p : Nat) (c : Probe) (since : Nat) (n : Network) : Prop :=
  ∀ t, (n.prober p).phase = .probing t →
    t = since + c.timeout.nanoseconds ∧ (n.prober p).probe = some c

theorem Begins.waits {since : Nat} (begins : Begins p c since n) (waits : Waits p n n') :
    Begins p c since n' := by
  intro t probing
  obtain ⟨before, same, _⟩ := waits t probing
  obtain ⟨due, probe⟩ := begins t before
  exact ⟨due, same.trans probe⟩

/-- What comes of the detector at a tap in some exchanges with its host, which take no time. -/
structure Proceeds (p : Nat) (xs : List Exchange) (n n' : Network) : Prop where
  now : n'.now = n.now
  waits : lastBegun xs = none → Waits p n n'
  begins : ∀ c, lastBegun xs = some c → Begins p c n.now n'

theorem Proceeds.waiting (now : n'.now = n.now) (waits : Waits p n n')
    (unbegun : lastBegun xs = none) : Proceeds p xs n n' :=
  ⟨now, fun _ => waits, fun c begun => by cases unbegun.symm.trans begun⟩

theorem Proceeds.trans (first : Proceeds p xs n n') (second : Proceeds p ys n' n'') :
    Proceeds p (xs ++ ys) n n'' := by
  refine ⟨second.now.trans first.now, fun unbegun => ?_, fun c begun => ?_⟩
  · rw [lastBegun_append, Option.or_eq_none_iff] at unbegun
    exact (first.waits unbegun.2).trans (second.waits unbegun.1)
  · rw [lastBegun_append, Option.or_eq_some_iff] at begun
    rcases begun with later | ⟨unbegun, earlier⟩
    · exact first.now ▸ second.begins c later
    · exact (first.begins c earlier).waits (second.waits unbegun)

theorem proceeds_start (p : Nat) (c : Probe) (n : Network) :
    Proceeds p [.start c (n.start p c).1] n (n.start p c).2 := by
  have now := (moves_start p c n).apart.now
  rcases start_cases p c n with ⟨fault, eq, _⟩ | ⟨fault, n', eq, _⟩ | ⟨n', eq, begun⟩
  · exact .waiting now (eq ▸ waits_refused eq) (by rw [eq]; rfl)
  · exact .waiting now (eq ▸ waits_refused eq) (by rw [eq]; rfl)
  · rw [eq] at now ⊢
    refine ⟨now, nofun, fun d same => ?_⟩
    cases same
    intro t probing
    have attached : p ∈ n.probers.keys :=
      begun.apart.attached ▸ attached_of_working (by simp [probing])
    rw [begun.prober attached] at probing ⊢
    cases probing
    exact ⟨rfl, rfl⟩

/-- From one state of a record to another, the detector at a tap has come to what the exchanges in
between say. -/
def Follows (p : Nat) (r r' : Recorded Network) : Prop :=
  ∃ xs, r'.exchanges = r.exchanges ++ xs ∧ Proceeds p xs r.world r'.world

private theorem follows_quiet {r : Recorded Network} (quiet : Quiet r.world n) :
    Follows p r ⟨n, r.exchanges⟩ :=
  ⟨[], (List.append_nil _).symm, .waiting quiet.now (quiet.waits p) rfl⟩

private theorem follows_announce (p : Nat) (policy : DefendPolicy) (r : Recorded Network) :
    Follows p r ((detector p).recorded.announce policy r).2 :=
  ⟨_, rfl, .waiting (now_announce p policy r.world) (waits_announce p policy r.world) rfl⟩

theorem keeps_follows (p : Nat) : (detector p).recorded.Keeps (Follows p) where
  refl r := follows_quiet (.refl r.world)
  trans := by
    rintro r r' r'' ⟨xs, asked, first⟩ ⟨ys, asked', second⟩
    exact ⟨xs ++ ys, by rw [asked', asked, List.append_assoc], first.trans second⟩
  note x r := follows_quiet (quiet_note x r.world)
  start c r := ⟨_, rfl, proceeds_start p c r.world⟩
  stop r := ⟨_, rfl, .waiting (moves_stop p r.world).apart.now (waits_stop p r.world) rfl⟩
  dispatch r :=
    ⟨_, rfl, .waiting (moves_dispatch p r.world).apart.now (waits_dispatch p r.world) rfl⟩
  poll r := ⟨_, rfl, .waiting (moves_poll p r.world).apart.now (waits_poll p r.world) rfl⟩
  tell r := follows_quiet (quiet_tell p r.world)
  renew r := follows_quiet (quiet_renew p r.world)

/-- What comes of a detector when its host gets an order. -/
theorem proceeds_order (p : Nat) (h : Host Network) (order : Host.Order) :
    Proceeds p (Host.exchanges (detector p) [order] h) h.world
      (order.perform (detector p) h).world := by
  obtain ⟨xs, asked, proceeds⟩ :=
    Host.keeps_order (keeps_follows p) (follows_announce p) h.recording order
  have seen := (Host.seen_order (detector p).recorded_shows h.recording order).2
  have whole : Host.exchanges (detector p) [order] h = xs := asked
  have same : (order.perform (detector p) h).world =
      (order.perform (detector p).recorded h.recording).world.world := congrArg Host.world seen
  rw [whole, same]
  exact proceeds

end Simulation.Network
end LinkLocal
