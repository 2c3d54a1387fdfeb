import LinkLocal.Proofs.Network.Likeness
import LinkLocal.Proofs.Network.Sparing
import LinkLocal.Proofs.Segment.Wakeup

/-! Irrelevant traffic. A detector that is attended to whenever its descriptor is readable shows the
same, at the same times, if packets that are no claims to its address are put in between, and if it
is attended to more often. The one thing that its descriptor does not tell of is a carrier that was
down already when the probe began: that is noticed at the next dispatch, whatever the reason for
it. -/
namespace LinkLocal.Simulation.Segment

open Network

/-- What can be done while a detector goes on with a probe, or with the defense that follows it, and
no other detector is used. -/
inductive Act.Solo (p : Nat) : Act → Prop where
  | dispatch : Solo p (.use p .dispatch)
  | poll : Solo p (.use p .poll)
  | announce (policy : DefendPolicy) : Solo p (.use p (.announce policy))
  | claim (k : Packet) : Solo p (.claim k)
  | occupy (a : IPv4) (m : LinkAddress) : Solo p (.occupy a m)
  | release (a : IPv4) : Solo p (.release a)
  | carrier (up : Bool) : Solo p (.carrier up)
  | pass (nanoseconds : Nat) : Solo p (.pass nanoseconds)
  | spoil (faults : Faults) : Solo p (.spoil faults)

/-- The detector at a tap is attended to at once when something else than that leaves its descriptor
readable. -/
def Attentive (p : Nat) : List Act → Segment → Prop
  | [], _ => True
  | act :: acts, s =>
    (act ≠ .use p .dispatch → (s.perform act).network.isReadable p = true →
      ∃ rest, acts = .use p .dispatch :: rest) ∧ Attentive p acts (s.perform act)

/-- The second row of acts is the first with dispatches put in, and packets that are no claims to
the address of the probe. -/
inductive Padded (p : Nat) (c : Probe) : List Act → List Act → Prop where
  | nil : Padded p c [] []
  | keep {acts acts' : List Act} (act : Act) (rest : Padded p c acts acts') :
      Padded p c (act :: acts) (act :: acts')
  | claim {acts acts' : List Act} {k : Packet} (ignored : concerns c k = false)
      (rest : Padded p c acts acts') : Padded p c acts (.claim k :: acts')
  | dispatch {acts acts' : List Act} (rest : Padded p c acts acts') :
      Padded p c acts (.use p .dispatch :: acts')

/-- What is to be seen of the detector at a tap while acts are done in a row. -/
def chronicle (p : Nat) : List Act → Segment → List Moment
  | [], _ => []
  | act :: acts, s => s.network.moment p (s.perform act).network ++ chronicle p acts (s.perform act)

/-- Two rows of acts show the same of the detector at a tap, and leave the same owners. -/
structure Indistinct (p : Nat) (acts : List Act) (s : Segment) (acts' : List Act) (s' : Segment) :
    Prop where
  chronicle : chronicle p acts' s' = chronicle p acts s
  owner : ∀ a, (after acts' s').network.link.owner a = (after acts s).network.link.owner a

variable {n : Network} {p : Nat} {c : Probe} {s s' : Segment} {act : Act} {acts acts' : List Act}

/-- The detector at a tap is used by itself, and has worked on one probe since it began. -/
structure Going (p : Nat) (c : Probe) (s : Segment) : Prop where
  free : s.engines.get? p = none
  attached : p ∈ s.network.probers.keys
  vigilant : Vigilant p s.network
  probe : (s.network.prober p).phase ≠ .idle → (s.network.prober p).probe = some c

theorem Going.tap (going : Going p c s) : p ∈ s.network.link.taps.keys :=
  (going.vigilant.formed.attached p).mp going.attached

/-- What an act of a row does to a detector that is used by itself. -/
theorem use_network (free : s.engines.get? p = none) (call : Call) :
    (s.perform (.use p call)).network = call.perform p s.network := by
  rw [perform, if_pos free]

theorem engines_solo (solo : act.Solo p) : (s.perform act).engines = s.engines := by
  cases solo with
  | dispatch | poll | announce => rw [perform]; split <;> rfl
  | _ => rfl

/-- A detector that is at work after an act was so before, on the same probe. -/
theorem probe_solo (solo : act.Solo p) (going : Going p c s)
    (working : ((s.perform act).network.prober p).phase ≠ .idle) :
    (s.network.prober p).phase ≠ .idle ∧
      ((s.perform act).network.prober p).probe = (s.network.prober p).probe := by
  have formed := going.vigilant.formed
  have aside (elsewhere : act.about ≠ some p) : (s.network.prober p).phase ≠ .idle ∧
      ((s.perform act).network.prober p).probe = (s.network.prober p).probe := by
    rw [(happening formed act).prober elsewhere] at working ⊢
    exact ⟨working, rfl⟩
  cases solo with
  | dispatch =>
    rw [use_network going.free] at working ⊢
    exact probe_dispatch formed working
  | poll =>
    rw [use_network going.free] at working ⊢
    exact ⟨phase_poll p p s.network ▸ working, probe_poll p s.network⟩
  | announce =>
    rw [use_network going.free] at working ⊢
    exact probe_announce working
  | _ => exact aside nofun

theorem Going.perform (going : Going p c s) (solo : act.Solo p) (spared : Spared s act) :
    Going p c (s.perform act) where
  free := engines_solo (s := s) solo ▸ going.free
  attached := by
    have aside (elsewhere : act.about ≠ some p) : p ∈ (s.perform act).network.probers.keys :=
      (happening going.vigilant.formed act).attached elsewhere going.attached
    have used (call : Call) : p ∈ (s.perform (.use p call)).network.probers.keys := by
      rw [use_network going.free]
      rcases call_goes p s.network call with conduct | ⟨_, announcing⟩
      · exact conduct.apart.attached ▸ going.attached
      · exact announcing.apart.attached ▸ going.attached
    cases solo with
    | dispatch | poll | announce => exact used _
    | _ => exact aside nofun
  vigilant := vigilant_perform going.vigilant spared
  probe working := by
    obtain ⟨before, same⟩ := probe_solo solo going working
    exact same.trans (going.probe before)

/-- The same act leaves alike what was alike before. -/
theorem alike_perform (going : Going p c s) (going' : Going p c s') (solo : act.Solo p)
    (spared : Spared s act) (spared' : Spared s' act) (alike : Alike p c s.network s'.network) :
    Alike p c (s.perform act).network (s'.perform act).network := by
  cases solo with
  | dispatch =>
    rw [Spared, use_network going.free] at spared
    rw [Spared, use_network going'.free] at spared'
    rw [use_network going.free, use_network going'.free]
    exact alike.dispatch going.probe (spared.resolve_left nofun) (spared'.resolve_left nofun)
  | poll =>
    rw [use_network going.free, use_network going'.free]
    exact alike.poll
  | announce policy =>
    rw [use_network going.free, use_network going'.free]
    exact alike.announce policy
  | claim k => exact alike.claim going.tap going'.tap k
  | occupy a m => exact alike.occupy a m
  | release a => exact alike.release a
  | carrier up => exact alike.setCarrier up
  | pass nanoseconds => exact alike.advance nanoseconds
  | spoil faults => exact alike.quiet (quiet_faults faults _) (quiet_faults faults _)

/-- A detector with nothing to do has nothing to do after an act either, if its descriptor is not
readable then. -/
theorem nothingDue_perform (going : Going p c s) (rested : NothingDue p c s.network)
    (solo : act.Solo p) (other : act ≠ .use p .dispatch) (spared : Spared s act)
    (unreadable : (s.perform act).network.isReadable p ≠ true) :
    NothingDue p c (s.perform act).network := by
  refine (undue_of_unreadable (vigilant_perform going.vigilant spared) unreadable
    fun working => ?_).nothingDue
  have up := (rested (probe_solo solo going working).1).1
  have used {call : Call} : (s.perform (.use p call)).network.link.carrier = true :=
    (happening going.vigilant.formed (.use p call)).carrier.trans up
  cases solo with
  | dispatch => exact absurd rfl other
  | poll | announce => exact used
  | claim k => exact (still_claim k s.network).carrier.trans up
  | carrier raised =>
    cases raised with
    | true => exact carrier_setCarrier true s.network
    | false =>
      -- The drop of the carrier makes the descriptor readable.
      have same := spared.resolve_left nofun
      exact absurd ((readable_setCarrier up going.tap).holds same) unreadable
  | _ => exact up

/-- After an act of an attentive row there is nothing to do, or the row goes on with a dispatch. -/
theorem due_perform (going : Going p c s) (solo : act.Solo p) (spared : Spared s act)
    (attentive : Attentive p (act :: acts) s)
    (due : NothingDue p c s.network ∨ ∃ rest, act :: acts = .use p .dispatch :: rest) :
    NothingDue p c (s.perform act).network ∨ ∃ rest, acts = .use p .dispatch :: rest := by
  by_cases attends : act = .use p .dispatch
  · subst attends
    have same := spared.resolve_left nofun
    rw [use_network going.free] at same ⊢
    exact .inl (undue_dispatch going.vigilant.formed same).nothingDue
  by_cases readable : (s.perform act).network.isReadable p = true
  · exact .inr (attentive.1 attends readable)
  rcases due with rested | ⟨rest, first⟩
  · exact .inl (nothingDue_perform going rested solo attends spared readable)
  · exact absurd (List.cons.inj first).1 attends

/-! ## Rows of acts -/

/-- Where a row begins with a dispatch, one that is put in earlier may count as that one, and that
one as put in. -/
theorem Padded.behind (padded : Padded p c (.use p .dispatch :: acts) acts') :
    Padded p c acts acts' := by
  generalize whole : Act.use p .dispatch :: acts = row at padded
  induction padded with
  | nil => cases whole
  | keep _ rest _ => cases whole; exact .dispatch rest
  | claim ignored _ ih => exact .claim ignored (ih whole)
  | dispatch _ ih => exact .dispatch (ih whole)

theorem Indistinct.cons (moment : s'.network.moment p (s'.perform act).network =
      s.network.moment p (s.perform act).network)
    (later : Indistinct p acts (s.perform act) acts' (s'.perform act)) :
    Indistinct p (act :: acts) s (act :: acts') s' :=
  ⟨congrArg₂ (· ++ ·) moment later.chronicle, later.owner⟩

/-- An act that makes no difference to the detector is not to be seen. -/
theorem Indistinct.pad (same : (s'.perform act).network.prober p = s'.network.prober p)
    (later : Indistinct p acts s acts' (s'.perform act)) :
    Indistinct p acts s (act :: acts') s' :=
  ⟨(congrArg (· ++ _) (moment_of_same same)).trans later.chronicle, later.owner⟩

/-- The induction is on the padded row. Both rows stay alike, and whenever the first one does not go
on with a dispatch there is nothing to do, so that a dispatch that is put in makes no difference. -/
theorem indistinct_of_padded (padded : Padded p c acts acts') (going : Going p c s)
    (going' : Going p c s') (solo : ∀ act ∈ acts, act.Solo p) (attentive : Attentive p acts s)
    (spared : Lawful Spared acts s) (spared' : Lawful Spared acts' s')
    (alike : Alike p c s.network s'.network)
    (due : NothingDue p c s.network ∨ ∃ rest, acts = .use p .dispatch :: rest) :
    Indistinct p acts s acts' s' := by
  induction acts' generalizing acts s s' with
  | nil =>
    cases padded
    exact ⟨rfl, alike.owner⟩
  | cons act acts' ih =>
    have keep {rest : List Act} (first : acts = act :: rest) (behind : Padded p c rest acts') :
        Indistinct p acts s (act :: acts') s' := by
      subst first
      have alone := solo act (.head _)
      have later := alike_perform going going' alone spared.1 spared'.1 alike
      exact .cons (alike.moment later) (ih behind (going.perform alone spared.1)
        (going'.perform alone spared'.1) (fun act member => solo act (.tail _ member))
        attentive.2 spared.2 spared'.2 later (due_perform going alone spared.1 attentive due))
    cases padded with
    | keep _ rest => exact keep rfl rest
    | claim ignored rest =>
      have same := Alike.of_claim ignored going'.attached
      exact .pad same.prober (ih rest going (going'.perform (.claim _) spared'.1) solo attentive
        spared spared'.2 (alike.trans same) due)
    | dispatch rest =>
      rcases due with rested | ⟨acts, rfl⟩
      · have idle : Alike p c s'.network (s'.perform (.use p .dispatch)).network := by
          have same := spared'.1.resolve_left nofun
          rw [use_network going'.free] at same ⊢
          exact (rested.congr alike).dispatch going'.attached going'.probe same
        exact .pad idle.prober (ih rest going (going'.perform .dispatch spared'.1) solo attentive
          spared spared'.2 (alike.trans idle) (.inl rested))
      · exact keep rfl rest.behind

/-- A probe that begins goes on by itself. -/
theorem going_of_started (free : s.engines.get? p = none)
    (attached : p ∈ s.network.probers.keys) (formed : WellFormed s.network)
    (began : s.network.start p c = (.ok (), n)) : Going p c (s.perform (.use p (.start c))) := by
  have begun := begun_of_started began
  have network : (s.perform (.use p (.start c))).network = n := by
    rw [use_network free, Call.perform, began]
  refine ⟨?_, ?_, ?_, ?_⟩
  · rw [perform, if_pos free]
    exact free
  · rw [network, begun.apart.attached]
    exact attached
  · refine ⟨formed_perform formed _, fun _ => ?_⟩
    rw [network]
    exact begun.alert formed attached
  · rw [network, begun.prober attached]
    exact fun _ => rfl

/-- The descriptor of a detector is readable at the beginning of a probe exactly if the probe takes
no time. -/
theorem readable_of_begun {n' : Network} (begun : Begun p c n n')
    (tap : p ∈ n.link.taps.keys) : n'.isReadable p = true ↔ c.timeoutMsec = 0 := by
  have zero : c.timeoutMsec = 0 ↔ c.timeoutMsec.toNat = 0 := by
    rw [← UInt64.toNat_inj, UInt64.toNat_zero]
  have length : c.timeout.nanoseconds = c.timeoutMsec.toNat * 1000000 := rfl
  have shortest : Timer.shortestDelay = 1 := rfl
  rw [isReadable, begun.timer tap, begun.apart.now, zero, Timer.isReadable, Timer.after,
    Option.any_some, decide_eq_true_eq]
  split <;> omega

/-- A detector at work without a carrier shows it as soon as it is attended to and no call on a timer
fails. -/
theorem distinct_of_carrierless (going : Going p c s) (working : (s.network.prober p).phase ≠ .idle)
    (down : s.network.link.carrier = false) :
    Lawful Spared [.spoil {}, .use p .dispatch] s ∧
      chronicle p [.spoil {}, .use p .dispatch] s ≠ chronicle p [.spoil {}] s := by
  have going' := going.perform (.spoil {}) (.inl rfl)
  have network := use_network going'.free .dispatch
  generalize unspoiled : s.perform (.spoil {}) = s' at going' network
  have unfailing : s'.network.toFail = 0 := unspoiled ▸ rfl
  have spared : (s'.network.dispatch p).2.toFail = s'.network.toFail :=
    Nat.le_antisymm (strokes_dispatch p s'.network).toFail_le (by rw [unfailing]; exact Nat.zero_le _)
  have busy : (s'.network.prober p).phase ≠ .idle := unspoiled ▸ working
  have ok := dispatch_ok going'.vigilant.formed spared
  have finds := dispatch_carrierless busy (unspoiled ▸ down) ok
  refine ⟨⟨.inl rfl, .inr ?_, trivial⟩, fun same => ?_⟩
  · rw [unspoiled, network]
    exact spared
  · have unseen := List.append_cancel_left same
    rw [unspoiled, chronicle, chronicle, chronicle, List.append_nil, network, Call.perform, moment]
      at unseen
    split at unseen
    · next same => exact busy (same.1.symm.trans finds.phase)
    · cases unseen

/-- Whether the carrier is up when a probe begins, or the probe is no more than a look, decides whether
dispatches and packets that are put in make a difference to what a detector shows that is attended
to whenever its descriptor is readable. Others may be attached to the link, as long as they are not
used. Time that passes in one act can pass in two as well, so that acts can be put in at any time. -/
theorem irrelevant_traffic_iff {past : List Segment} {allowed : Segment → Act → Prop}
    (run : Run allowed (s :: past)) (free : s.engines.get? p = none)
    (attached : p ∈ s.network.probers.keys) (started : (s.network.start p c).1 = .ok ()) :
    (∀ acts acts' : List Act, (∀ act ∈ acts, act.Solo p) →
        Attentive p (.use p (.start c) :: acts) s → Padded p c acts acts' →
        Lawful Spared (.use p (.start c) :: acts) s → Lawful Spared (.use p (.start c) :: acts') s →
        Indistinct p (.use p (.start c) :: acts) s (.use p (.start c) :: acts') s) ↔
      s.network.link.carrier = true ∨ c.timeoutMsec = 0 := by
  have formed := run.wellFormed
  obtain ⟨n, began⟩ : ∃ n, s.network.start p c = (.ok (), n) := ⟨_, Prod.ext started rfl⟩
  have begun := begun_of_started began
  have going := going_of_started free attached formed began
  have network : (s.perform (.use p (.start c))).network = n := by
    rw [use_network free, Call.perform, began]
  have readable : (s.perform (.use p (.start c))).network.isReadable p = true ↔ c.timeoutMsec = 0 := by
    rw [network]
    exact readable_of_begun begun ((formed.attached p).mp attached)
  constructor
  · intro same
    by_contra neither
    obtain ⟨down, long⟩ := not_or.mp neither
    have down := Bool.eq_false_iff.mpr down
    have working : ((s.perform (.use p (.start c))).network.prober p).phase ≠ .idle := by
      rw [network, begun.prober attached]
      nofun
    have lost : (s.perform (.use p (.start c))).network.link.carrier = false := by
      rw [network, begun.apart.carrier]
      exact down
    have spared : Spared s (.use p (.start c)) := .inr (network ▸ begun.toFail)
    obtain ⟨lawful, distinct⟩ := distinct_of_carrierless going working lost
    have seen := same [.spoil {}] [.spoil {}, .use p .dispatch]
      (List.forall_mem_singleton.mpr (.spoil {}))
      ⟨fun _ due => absurd (readable.mp due) long, fun _ due => absurd (readable.mp due) long, trivial⟩
      (.keep _ (.dispatch .nil)) ⟨spared, .inl rfl, trivial⟩ ⟨spared, lawful⟩
    exact distinct (List.append_cancel_left seen.chronicle)
  · intro seen acts acts' solo attentive padded spared spared'
    refine .cons rfl (indistinct_of_padded padded going going solo attentive.2 spared.2 spared'.2
      (.refl going.attached) ?_)
    by_cases due : (s.perform (.use p (.start c))).network.isReadable p = true
    · exact .inr (attentive.1 nofun due)
    · refine .inl (undue_of_unreadable going.vigilant due fun _ => ?_).nothingDue
      rw [network, begun.apart.carrier]
      exact seen.resolve_right (mt readable.mpr due)

/-- A probe that is attended to when its time is over. -/
def patient : List Act := [.use 0 (.start (probeBy 1)), .pass 10000000, .use 0 .dispatch]

/-- The same with a claim to another address, and the dispatch that it calls for. -/
def bothered : List Act :=
  [.use 0 (.start (probeBy 1)), .claim ⟨Packet.request, (probeBy 9).mac, .linkLocal 0x0808⟩,
    .use 0 .dispatch, .pass 10000000, .use 0 .dispatch]

/-- The finding of a probe is taken, and its address is announced. -/
def succeeding : List Act := [.use 0 .poll, .use 0 (.announce .once)]

/-- A link with a carrier, with one detector. -/
def plugged : Segment := after [.attach] fresh

/-- On a link with a carrier, a claim to another address makes no difference to a probe of ten
milliseconds and to what follows. -/
theorem irrelevant_with_carrier : Run (fun _ _ => True) [plugged, fresh] ∧
    plugged.engines.get? 0 = none ∧ 0 ∈ plugged.network.probers.keys ∧
    (plugged.network.start 0 (probeBy 1)).1 = .ok () ∧ plugged.network.link.carrier = true ∧
    (∀ act ∈ patient.tail ++ succeeding, act.Solo 0) ∧
    Attentive 0 (patient ++ succeeding) plugged ∧
    Padded 0 (probeBy 1) (patient.tail ++ succeeding) (bothered.tail ++ succeeding) ∧
    Lawful Spared (patient ++ succeeding) plugged ∧
    Lawful Spared (bothered ++ succeeding) plugged ∧
    Indistinct 0 (patient ++ succeeding) plugged (bothered ++ succeeding) plugged := by
  have run : Run (fun _ _ => True) [plugged, fresh] :=
    Run.trail (.fresh {}) [.attach] (by decide +kernel)
  have free : plugged.engines.get? 0 = none := by decide +kernel
  have attached : 0 ∈ plugged.network.probers.keys := by decide +kernel
  have started : (plugged.network.start 0 (probeBy 1)).1 = .ok () := by decide +kernel
  have solo : ∀ act ∈ patient.tail ++ succeeding, act.Solo 0 := List.forall_mem_cons.mpr
    ⟨.pass _, List.forall_mem_cons.mpr ⟨.dispatch, List.forall_mem_cons.mpr
      ⟨.poll, List.forall_mem_singleton.mpr (.announce _)⟩⟩⟩
  have attentive : Attentive 0 (patient ++ succeeding) plugged :=
    ⟨fun _ due => absurd due (by decide +kernel), fun _ _ => ⟨_, rfl⟩, fun other => absurd rfl other,
      fun _ due => absurd due (by decide +kernel), fun _ due => absurd due (by decide +kernel),
      trivial⟩
  have padded : Padded 0 (probeBy 1) (patient.tail ++ succeeding) (bothered.tail ++ succeeding) :=
    .claim (by decide +kernel)
      (.dispatch (.keep _ (.keep _ (.keep _ (.keep _ .nil)))))
  have spared : Lawful Spared (patient ++ succeeding) plugged := by decide +kernel
  have spared' : Lawful Spared (bothered ++ succeeding) plugged := by decide +kernel
  exact ⟨run, free, attached, started, rfl, solo, attentive, padded, spared, spared',
    (irrelevant_traffic_iff run free attached started).mpr (.inl rfl) _ _ solo attentive padded
      spared spared'⟩

/-- A link without a carrier, with one detector. -/
def unplugged : Segment := after [.attach, .carrier false] fresh

/-- Without a carrier, a claim to another address makes a detector go down before its time. -/
theorem irrelevant_claim_interferes :
    (unplugged.network.start 0 (probeBy 1)).1 = .ok () ∧ (∀ act ∈ patient.tail, act.Solo 0) ∧
      Attentive 0 patient unplugged ∧ Attentive 0 bothered unplugged ∧
      Padded 0 (probeBy 1) patient.tail bothered.tail ∧
      Lawful Spared patient unplugged ∧ Lawful Spared bothered unplugged ∧
      ¬ Indistinct 0 patient unplugged bothered unplugged := by
  refine ⟨by decide +kernel, ?_, ?_, ?_, ?_, by decide +kernel, by decide +kernel, ?_⟩
  · exact List.forall_mem_cons.mpr ⟨.pass _, List.forall_mem_singleton.mpr .dispatch⟩
  · refine ⟨fun _ due => absurd due (by decide +kernel), fun _ _ => ⟨_, rfl⟩, ?_, trivial⟩
    exact fun other => absurd rfl other
  · refine ⟨fun _ due => absurd due (by decide +kernel), fun _ _ => ⟨_, rfl⟩, ?_,
      fun _ _ => ⟨_, rfl⟩, ?_, trivial⟩
    · exact fun other => absurd rfl other
    · exact fun other => absurd rfl other
  · exact .claim (by decide +kernel) (.dispatch (.keep _ (.keep _ .nil)))
  · exact fun same => absurd same.chronicle (by decide +kernel)

end LinkLocal.Simulation.Segment
