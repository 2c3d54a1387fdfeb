import LinkLocal.Proofs.Network.Defense
import LinkLocal.Proofs.Network.Waiting

/-! A host with a detector that stands by an address. As long as its detector defends, all that it
finds is taken without touching it; so whatever the host is ordered, apart from a stop, its detector
judges the claims in its mailbox when it is dispatched, and does nothing else that anybody could
see. When it has yielded, its host may have it probe the next candidate, or stop it: then it is at
rest, if it has not begun another probe. -/
namespace LinkLocal

/-- A finding with which a detector stops. -/
def Detection.isLast : Detection → Bool
  | .conflict _ | .used _ | .down => true
  | _ => false

namespace Simulation

open Network

variable {n n' n'' : Network} {p : Nat} {c : Probe} {k : Packet} {policy : DefendPolicy}
variable {last : Option Nat} {stance : Option (Option Nat)}

/-! ## What a detector at work has found -/

namespace Network

/-- A detector at work has found nothing with which it would have stopped. -/
def Unstopped (p : Nat) (n : Network) : Prop :=
  (n.prober p).phase ≠ .idle → ∀ f ∈ (n.prober p).found.toList, f.isLast = false

theorem Unstopped.of_same (before : Unstopped p n) (same : n'.prober p = n.prober p) :
    Unstopped p n' := by
  rwa [Unstopped, same]

theorem Unstopped.of_idle (idle : (n.prober p).phase = .idle) : Unstopped p n :=
  fun working => absurd idle working

theorem Unstopped.finds {fs : List Detection} {phase : Phase} (before : Unstopped p n)
    (working : (n.prober p).phase ≠ .idle) (found : (n.prober p).Finds fs phase (n'.prober p))
    (lasting : phase ≠ .idle → ∀ f ∈ fs, f.isLast = false) : Unstopped p n' := by
  intro working' f member
  rw [found.found] at member
  rcases List.mem_append.mp member with earlier | new
  · exact before working f earlier
  · exact lasting (found.phase ▸ working') f new

theorem unstopped_start (c : Probe) (before : Unstopped p n) :
    Unstopped p (n.start p c).2 := by
  intro working
  have attached : p ∈ n.probers.keys :=
    (moves_start p c n).apart.attached ▸ attached_of_working working
  revert working
  change Unstopped p _
  rcases start_own attached c with ⟨fault, n', eq, same⟩ | ⟨t, n', eq, own⟩
  · rw [eq]
    exact before.of_same same
  · rw [eq]
    intro _ f member
    rw [own] at member
    cases member

theorem unstopped_dispatch (before : Unstopped p n) : Unstopped p (n.dispatch p).2 := by
  by_cases working : (n.prober p).phase ≠ .idle
  case neg => exact before.of_same (dispatch_resting (Decidable.not_not.mp working))
  cases probe : (n.prober p).probe with
  | none =>
    rcases eq : n.dispatch p with ⟨r, n'⟩
    cases dispatched eq with
    | fault drained => exact before.of_same ((quiet_of_drained drained).prober p)
    | resting _ idle => exact absurd idle working
    | unconfigured drained _ _ => exact before.of_same ((quiet_of_drained drained).prober p)
    | carrierless _ _ probe' _ => cases probe.symm.trans probe'
    | attended _ _ probe' _ => cases probe.symm.trans probe'
  | some c =>
    obtain ⟨fs, phase, found, outcome⟩ := dispatch_outcome working probe
    refine before.finds working found fun working' f member => ?_
    generalize (n.dispatch p).1 = r at outcome
    cases outcome with
    | nothing => cases member
    | succeeded _ _ => rw [List.mem_singleton.mp member]; rfl
    | defended claims _ _ _ =>
      obtain ⟨k, _, rfl⟩ := List.mem_map.mp member
      rfl
    | _ => exact absurd rfl working'

theorem unstopped_poll (before : Unstopped p n) : Unstopped p (n.poll p).2 := by
  intro working f member
  rw [phase_poll] at working
  refine before working f ?_
  rcases waiting : (n.prober p).found.toList with _ | ⟨g, fs⟩
  · rwa [poll_nil waiting, waiting] at member
  · obtain ⟨n', found, polled, rest, own⟩ := poll_cons (attached_of_working working) waiting
    rw [polled, own, rest] at member
    exact List.mem_cons_of_mem g member

theorem unstopped_announce (policy : DefendPolicy) (before : Unstopped p n) :
    Unstopped p (n.announce p policy).2 := by
  rcases announce_own (n := n) (p := p) policy with ⟨fault, refused⟩ | ⟨_, n', eq, ready, _, own⟩
  · rwa [refused]
  · have working : (n.prober p).phase ≠ .idle := by simp [ready]
    rw [eq]
    intro _ f member
    rw [own] at member
    exact before working f member

theorem keeps_unstopped (p : Nat) :
    (detector p).Keeps fun n n' => Unstopped p n → Unstopped p n' where
  refl _ := id
  trans first second before := second (first before)
  note _ _ before := before.of_same rfl
  start c _ := unstopped_start c
  stop n _ := .of_idle ((phase_find p p (fun _ => {}) (n.halt p)).trans (phase_halt p n))
  dispatch _ := unstopped_dispatch
  poll _ := unstopped_poll
  tell n before := before.of_same ((quiet_tell p n).prober p)
  renew n before := before.of_same ((quiet_renew p n).prober p)

/-! ## Calm detectors -/

/-- The detector at a tap has no probe under way: it defends its address, or is at rest. -/
def Calm (p : Nat) (c : Probe) (n : Network) : Prop :=
  ((n.prober p).phase = .idle ∨ (n.prober p).phase.isAnnounced = true) ∧
    (n.prober p).probe = some c

theorem Calm.of_same (calm : Calm p c n) (same : n'.prober p = n.prober p) : Calm p c n' := by
  rwa [Calm, same]

theorem Calm.attached (calm : Calm p c n) : p ∈ n.probers.keys := by
  rw [Table.mem_keys_iff]
  cases held : n.probers.get? p with
  | some s => rfl
  | none =>
    have probe := calm.2
    rw [prober, held] at probe
    cases probe

theorem Calm.refuses (calm : Calm p c n) (policy : DefendPolicy) :
    (n.announce p policy).2 = n := by
  rcases announce_cases p policy n with ⟨⟨fault, refused⟩, _⟩ | ⟨_, d, announcing⟩
  · rw [refused]
  · rcases calm.1 with idle | announced
    · cases announcing.ready.symm.trans idle
    · rw [announcing.ready] at announced
      cases announced

theorem Stands.calm (stands : Stands p c policy stance n) : Calm p c n := by
  refine ⟨?_, stands.2⟩
  cases stance with
  | none => exact .inl stands.1
  | some last => exact .inr stands.announced.1

theorem calm_dispatch (calm : Calm p c n) : Calm p c (n.dispatch p).2 := by
  rcases calm.1 with idle | announced
  · exact calm.of_same (dispatch_resting idle)
  · have working : (n.prober p).phase ≠ .idle := Announced.working ⟨announced, calm.2⟩
    obtain ⟨fs, phase, found, outcome⟩ := dispatch_outcome working calm.2
    refine ⟨?_, found.probe.trans calm.2⟩
    rw [found.phase]
    generalize (n.dispatch p).1 = r at outcome
    cases outcome with
    | nothing => exact .inr announced
    | succeeded undisturbed _ =>
      obtain ⟨t, probing, _⟩ := undisturbed.due
      rw [probing] at announced
      cases announced
    | defended => exact .inr rfl
    | _ => exact .inl rfl

/-! ## Judging claims -/

/-- From one network to another, the detector at a tap was dispatched in some networks and judged
the claims that it took there: it has sent the answers to them and nothing else, and if no other
probe is under way, it stands where they have left it. -/
structure Judges (p : Nat) (c : Probe) (policy : DefendPolicy) (stance : Option (Option Nat))
    (attended : List Network) (n n' : Network) : Prop where
  sends : Sends p (announcement c) (answered (attended.flatMap (findings p))) n n'
  stands : Calm p c n' → Stands p c policy
    (stance.bind (lastAnswer policy · (attended.flatMap (faced p c)))) n'

/-- A detector that is not dispatched stays where it stands. -/
theorem Judges.nothing (sends : Sends p (announcement c) 0 n n')
    (stays : Calm p c n' → Stands p c policy stance n') : Judges p c policy stance [] n n' :=
  ⟨sends, fun calm => (unanswered policy stance).symm ▸ stays calm⟩

theorem Judges.of_quiet (before : Stands p c policy stance n) (quiet : Quiet n n') :
    Judges p c policy stance [] n n' :=
  .nothing (quiet.sends p _) fun _ => before.of_same (quiet.prober p)

theorem Judges.refl (before : Stands p c policy stance n) : Judges p c policy stance [] n n :=
  .of_quiet before (.refl n)

theorem Judges.before_quiet {attended : List Network}
    (judges : Judges p c policy stance attended n n') (quiet : Quiet n' n'') :
    Judges p c policy stance attended n n'' where
  sends := judges.sends.trans (quiet.sends p _)
  stands calm :=
    (judges.stands (calm.of_same (quiet.prober p).symm)).of_same (quiet.prober p)

theorem Judges.after_quiet {attended : List Network} (quiet : Quiet n n')
    (judges : Judges p c policy stance attended n' n'') :
    Judges p c policy stance attended n n'' where
  sends := by
    have sent := (quiet.sends p (announcement c)).trans judges.sends
    rwa [Nat.zero_add] at sent
  stands := judges.stands

/-- A start puts another probe under way, or changes nothing about the detector. -/
theorem judges_start (before : Stands p c policy stance n) (d : Probe) :
    Judges p c policy stance [] n (n.start p d).2 := by
  refine .nothing (sends_start p _ d n) fun calm => ?_
  rcases start_own before.calm.attached d with ⟨fault, n', eq, same⟩ | ⟨t, n', eq, own⟩
  · rw [eq]
    exact before.of_same same
  · rw [eq] at calm
    have under := calm.1
    rw [own] at under
    rcases under with idle | announced
    · cases idle
    · cases announced

theorem judges_dispatch (before : Stands p c policy stance n) (carrier : n.link.carrier = true) :
    Judges p c policy stance [n] n (n.dispatch p).2 := by
  obtain ⟨_, after, sends⟩ := dispatch_verdicts before carrier
  constructor
  · rwa [List.flatMap_singleton]
  · intro _
    rwa [List.flatMap_singleton]

/-- Whoever announces an address stands by it, and has answered nobody yet. -/
theorem stands_announce (ok : (n.announce p policy).1.isOk = true) :
    ∃ c, Stands p c policy (some none) (n.announce p policy).2 := by
  rcases announce_own (n := n) (p := p) policy with ⟨fault, refused⟩ | ⟨c, n', eq, _, probe, own⟩
  · rw [refused] at ok
    cases ok
  · rw [eq]
    exact ⟨c, congrArg Prober.phase own, (congrArg Prober.probe own).trans probe⟩

/-! ## Beginning no probe -/

/-- From one state of a record to another, the detector at a tap has begun a probe, or still has
none under way. -/
def Abides (p : Nat) (c : Probe) (r r' : Recorded Network) : Prop :=
  ∃ xs, r'.exchanges = r.exchanges ++ xs ∧
    (lastBegun xs = none → Calm p c r.world → Calm p c r'.world)

private theorem abides_same {r : Recorded Network} (same : n.prober p = r.world.prober p) :
    Abides p c r ⟨n, r.exchanges⟩ :=
  ⟨[], (List.append_nil _).symm, fun _ calm => calm.of_same same⟩

private theorem abides_announce (p : Nat) (c : Probe) (policy : DefendPolicy)
    (r : Recorded Network) : Abides p c r ((detector p).recorded.announce policy r).2 :=
  ⟨_, rfl, fun _ calm => calm.of_same (congrArg (Network.prober p) (calm.refuses policy))⟩

theorem keeps_abides (p : Nat) (c : Probe) : (detector p).recorded.Keeps (Abides p c) where
  refl r := abides_same rfl
  trans := by
    rintro r r' r'' ⟨xs, asked, first⟩ ⟨ys, asked', second⟩
    refine ⟨xs ++ ys, by rw [asked', asked, List.append_assoc], fun unbegun calm => ?_⟩
    rw [lastBegun_append, Option.or_eq_none_iff] at unbegun
    exact second unbegun.1 (first unbegun.2 calm)
  note x r := abides_same rfl
  start d r := by
    refine ⟨_, rfl, fun unbegun calm => ?_⟩
    rcases start_own calm.attached d with ⟨fault, n', eq, same⟩ | ⟨t, n', eq, _⟩
    · simp only [Detector.recorded, Recorded.enter, detector, eq]
      exact calm.of_same same
    · simp only [detector, eq] at unbegun
      cases unbegun
  stop r := by
    refine ⟨_, rfl, fun _ calm => ?_⟩
    have stopped := stop_own calm.attached
    exact ⟨.inl (congrArg Prober.phase stopped), (congrArg Prober.probe stopped).trans calm.2⟩
  dispatch r := ⟨_, rfl, fun _ => calm_dispatch⟩
  poll r := by
    refine ⟨_, rfl, fun _ calm => ?_⟩
    rcases waiting : (r.world.prober p).found.toList with _ | ⟨f, fs⟩
    · exact calm.of_same (by simp only [Detector.recorded, Recorded.enter, detector,
        poll_nil waiting])
    · obtain ⟨n', found, polled, _, own⟩ := poll_cons calm.attached waiting
      simp only [Detector.recorded, Recorded.enter, detector, polled]
      rwa [Calm, own]
  tell r := abides_same ((quiet_tell p r.world).prober p)
  renew r := abides_same ((quiet_renew p r.world).prober p)

end Network

/-! ## Orders -/

section Orders

variable {h : Host Network} {order : Host.Order}

/-- An order in which a detector begins no probe leaves it without one. -/
theorem calm_order (calm : Calm p c h.world)
    (unbegun : lastBegun (Host.exchanges (detector p) [order] h) = none) :
    Calm p c (order.perform (detector p) h).world := by
  obtain ⟨xs, asked, abides⟩ :=
    Host.keeps_order (keeps_abides p c) (abides_announce p c) h.recording order
  have seen := (Host.seen_order (detector p).recorded_shows h.recording order).2
  have whole : Host.exchanges (detector p) [order] h = xs := asked
  have same : (order.perform (detector p) h).world =
      (order.perform (detector p).recorded h.recording).world.world := congrArg Host.world seen
  rw [same]
  exact abides (whole ▸ unbegun) calm

theorem sends_reselect (k : Packet) (h : Host Network) :
    Sends p k 0 h.world (h.reselect (detector p)).world := by
  have reselected := Host.reselected (detector p) h
  generalize h.reselect (detector p) = h' at reselected
  cases reselected with
  | @begun d n _ begun =>
    have sent := sends_start p k { d with address := h.engine.selector.next.1 } h.world
    rw [show h.world.start p _ = _ from begun] at sent
    exact sent.trans ((quiet_note _ n).sends p k)
  | @failed d fault n _ tried =>
    have sent := sends_start p k { d with address := h.engine.selector.next.1 } h.world
    rw [show h.world.start p _ = _ from tried] at sent
    exact sent.trans (((quiet_note _ n).trans (quiet_note _ _)).sends p k)
  | unconfigured _ => exact ((quiet_note _ h.world).trans (quiet_note _ _)).sends p k

theorem sends_rest (k : Packet) (x : Notice) (h : Host Network) :
    Sends p k 0 h.world (h.rest x).world := by
  simp only [Host.rest]
  split
  · exact (quiet_note x h.world).sends p k
  · exact .refl p k h.world

/-- Whatever a host does about a finding, its detector sends nothing. -/
theorem sends_react (k : Packet) (f : Detection) (h : Host Network) :
    Sends p k 0 h.world (Host.react (detector p) f h).world := by
  have noted (x : Notice) (n : Network) : Sends p k 0 n (n.note x) := (quiet_note x n).sends p k
  have reacted := Host.reacted (detector p) f h
  generalize Host.react (detector p) f h = h' at reacted
  cases reacted with
  | ready _ => exact noted _ h.world
  | unconfigured _ => exact (noted _ h.world).trans (noted _ _)
  | defended claim => exact noted _ h.world
  | lost claim _ =>
    exact (noted (.lost claim) h.world).trans
      (sends_reselect k (h.leave (.conflict claim) (.lost claim)))
  | yielded claim _ =>
    have stopped := (noted (.lost claim) h.world).trans (sends_stop p k _)
    rw [Host.stop_eq]
    exact stopped.trans
      (sends_rest k .stopped ⟨h.engine.push (.conflict claim), (h.world.note _).stop p⟩)
  | used claim => exact (noted (.inUse claim) h.world).trans (sends_reselect k (h.note _))
  | down => exact noted _ h.world

theorem sends_settle (k : Packet) (findings : Nat) (h : Host Network) :
    Sends p k 0 h.world (Host.settle (detector p) findings h).2.world := by
  have settled := Host.settled (detector p) findings h
  generalize Host.takingsOf (detector p) findings h = ts at settled
  generalize Host.settle (detector p) findings h = result at settled
  obtain ⟨r, h'⟩ := result
  have polled' {h : Host Network} {answer : Except DetectorFault Poll} {n : Network}
      (polled : (detector p).poll h.world = (answer, n)) : Sends p k 0 h.world n := by
    have sent := sends_poll p k h.world
    rwa [show h.world.poll p = _ from polled] at sent
  dsimp only at settled ⊢
  induction settled with
  | enough h => exact .refl p k h.world
  | @taken n h _ f s _ _ polled _ ih =>
    exact ((polled' polled).trans (sends_react k f ⟨h.engine, s⟩)).trans ih
  | done polled => exact polled' polled
  | @stopped n h s polled => exact (polled' polled).trans (sends_rest k .wentIdle ⟨h.engine, s⟩)
  | failed polled => exact polled' polled

/-- A finding with which a detector does not stop is no reason for its host to touch it. -/
theorem quiet_react {f : Detection} (lasting : f.isLast = false) (h : Host Network) :
    Quiet h.world (Host.react (detector p) f h).world := by
  have reacted := Host.reacted (detector p) f h
  generalize Host.react (detector p) f h = h' at reacted
  cases reacted with
  | ready _ => exact quiet_note _ h.world
  | unconfigured _ => exact (quiet_note _ h.world).trans (quiet_note _ _)
  | defended claim => exact quiet_note _ h.world
  | _ => cases lasting

/-- Taking what a detector has found that defends its address does not disturb it. The induction is
on how many findings may be taken. -/
theorem stands_settle_of_defending (findings : Nat) {h : Host Network}
    (stands : Stands p c policy (some last) h.world) (unstopped : Unstopped p h.world) :
    Stands p c policy (some last) (Host.settle (detector p) findings h).2.world := by
  induction findings generalizing h with
  | zero => exact stands
  | succ findings ih =>
    have working := stands.announced.working
    cases waiting : (h.world.prober p).found.toList with
    | nil =>
      simp only [Host.settle, detector, poll_nil waiting, working, if_false]
      exact stands
    | cons f fs =>
      obtain ⟨n', found, polled, rest, own⟩ := poll_cons stands.calm.attached waiting
      have lasting : f.isLast = false := unstopped working f (waiting ▸ List.mem_cons_self)
      have stands' : Stands p c policy (some last) n' := by rwa [Stands, own]
      have unstopped' : Unstopped p n' := by
        have kept := unstopped_poll unstopped
        rwa [polled] at kept
      have same := (quiet_react (p := p) lasting ⟨h.engine, n'⟩).prober p
      simp only [Host.settle, show (detector p).poll h.world = _ from polled]
      exact ih (stands'.of_same same) (unstopped'.of_same same)

/-- Taking what a detector has found leaves it where it stands, if no other probe is under way
afterwards. -/
theorem stands_settle (findings : Nat) (stands : Stands p c policy stance h.world)
    (unstopped : Unstopped p h.world)
    (calm : Calm p c (Host.settle (detector p) findings h).2.world) :
    Stands p c policy stance (Host.settle (detector p) findings h).2.world := by
  cases stance with
  | some last => exact stands_settle_of_defending findings stands unstopped
  | none =>
    -- Whoever has yielded does not announce again by this.
    have conduct := Host.keeps_settle (Segment.keeps_conduct p) findings h
    refine ⟨calm.1.resolve_right fun announced => ?_, calm.2⟩
    exact not_announced_of_idle stands.1 (conduct.yielding.stood p c ⟨announced, calm.2⟩)

/-- A host that attends to its detector has it judge the claims in its mailbox. -/
theorem judges_attention (before : Stands p c policy stance h.world)
    (unstopped : Unstopped p h.world) (carrier : h.world.link.carrier = true) :
    Judges p c policy stance [h.world] h.world (h.dispatch (detector p)).2.world := by
  have judged := judges_dispatch before carrier
  have after := judged.stands (calm_dispatch before.calm)
  have unstopped' := unstopped_dispatch unstopped
  rcases attended : h.world.dispatch p with ⟨fault | u, n⟩ <;>
    rw [attended] at judged after unstopped'
  · have failed : (h.dispatch (detector p)).2.world = n.note (.dispatchFailed fault) := by
      simp only [Host.dispatch, detector, attended]
      rfl
    rw [failed]
    exact judged.before_quiet (quiet_note _ n)
  · have settling : (h.dispatch (detector p)).2 =
        (Host.settle (detector p) ((detector p).backlog n + 1) ⟨h.engine, n⟩).2 := by
      simp only [Host.dispatch, show (detector p).dispatch h.world = _ from attended]
    rw [settling]
    exact ⟨judged.sends.trans (sends_settle _ _ ⟨h.engine, n⟩),
      stands_settle _ (h := ⟨h.engine, n⟩) after unstopped'⟩

/-- A detector without a probe under way refuses to announce an address. -/
theorem quiet_announce (calm : Calm p c h.world) :
    Quiet h.world (h.announce (detector p)).2.world := by
  have refused : ((detector p).announce .once h.world).2 = h.world := calm.refuses .once
  rcases Host.announce_world (detector p) h with same | same | ⟨x, same⟩
  · exact same ▸ .refl _
  · exact (same.trans refused) ▸ .refl _
  · rw [same, refused]
    exact quiet_note x _

/-- Whatever a host is ordered, apart from a stop, its detector judges the claims that it takes. -/
theorem judges_order (before : Stands p c policy stance h.world) (unstopped : Unstopped p h.world)
    (goes : order ≠ .stop)
    (carrier : ∀ h' ∈ order.attending (detector p) h, h'.world.link.carrier = true) :
    Judges p c policy stance ((order.attending (detector p) h).map Host.world).toList h.world
      (order.perform (detector p) h).world := by
  cases order with
  | start config =>
    have judged := judges_start before (Host.firstProbe config)
    have started := Host.started (detector p) config h
    simp only [Host.Order.perform]
    generalize h.start (detector p) config = result at started ⊢
    obtain ⟨r, h'⟩ := result
    cases started with
    | refused => exact .refl before
    | failed _ _ _ tried =>
      rwa [show h.world.start p (Host.firstProbe config) = _ from tried] at judged
    | @begun n _ _ _ begun =>
      rw [show h.world.start p (Host.firstProbe config) = _ from begun] at judged
      exact judged.before_quiet (quiet_note _ n)
  | stop => exact absurd rfl goes
  | dispatch => exact judges_attention before unstopped (carrier h rfl)
  | announce => exact .of_quiet before (quiet_announce before.calm)
  | pop => exact .refl before
  | watch => exact .of_quiet before (quiet_renew p h.world)
  | look =>
    simp only [Host.Order.perform, Host.look_eq]
    cases attending : Host.Order.look.attending (detector p) h with
    | none => exact .refl before
    | some h' =>
      have up := carrier h' attending
      obtain ⟨rfl, _⟩ := Host.attending_look attending
      have told := quiet_tell p h.world
      exact .after_quiet told (judges_attention (h := ⟨h.engine, h.world.tell p⟩)
        (before.of_same (told.prober p)) (unstopped.of_same (told.prober p)) up)

/-- A host that announces the address of its detector has it stand by that address. -/
theorem stands_ordered (ok : (h.announce (detector p)).1.isOk = true) :
    ∃ c, Stands p c .once (some none) (h.announce (detector p)).2.world := by
  simp only [Host.announce] at ok ⊢
  split at ok
  · cases ok
  · next running =>
    rw [if_neg running]
    have stands (granted : (h.world.announce p .once).1.isOk = true) := stands_announce granted
    rcases tried : (detector p).announce .once h.world with ⟨fault | ⟨⟩, n⟩
    · simp only [tried] at ok
      cases ok
    · rw [show h.world.announce p .once = _ from tried] at stands
      obtain ⟨c, stands⟩ := stands rfl
      simp only
      split
      · exact ⟨c, stands.of_same rfl⟩
      · exact ⟨c, stands⟩

end Orders
end Simulation
end LinkLocal
