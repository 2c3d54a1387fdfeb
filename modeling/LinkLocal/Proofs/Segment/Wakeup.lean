import LinkLocal.Proofs.Host.Starting
import LinkLocal.Proofs.Network.Attention
import LinkLocal.Proofs.Segment

/-! No lost wakeup. Whoever waits for the descriptor of a detector before attending to it
misses nothing: as long as no call on a timer fails, the descriptor is readable whenever
there is mail or the carrier has dropped, and the end of a probe makes it so in time. -/
namespace LinkLocal

/-- Whether an order makes the detector of a host begin a probe or attend to what there
is. -/
def Host.Order.Attends {σ : Type} [Journal σ] (d : Detector σ) (h : Host σ) :
    Host.Order → Prop
  | .start config => (h.start d config).1 = .ok ()
  | .dispatch => True
  | .look => h.pop.1 = .done ∧ d.hasNews h.world = true
  | _ => False

namespace Simulation

namespace Network

variable {n n' n'' : Network} {p q : Nat}

/-- Whether a call of the detector at a tap begins a probe or attends to what there is. -/
def Call.Attends (p : Nat) (n : Network) : Call → Prop
  | .start c => (n.start p c).1 = .ok ()
  | .dispatch => True
  | _ => False

/-- Between two networks the detector at a tap began no probe and attended to nothing. -/
def Dozes (p : Nat) : Network → Network → Prop := Unfailing fun n n' =>
  (n'.prober p).phase ≠ .idle → (n.prober p).phase ≠ .idle ∧ Stirred p n n'

theorem Dozes.trans (first : Dozes p n n') (second : Dozes p n' n'') : Dozes p n n'' := by
  refine Unfailing.trans (fun first second working => ?_) first second
  obtain ⟨between, later⟩ := second working
  exact ⟨(first between).1, (first between).2.trans later⟩

theorem Dozes.of_stirred (stirred : Unfailing (Stirred p) n n')
    (working : (n'.prober p).phase ≠ .idle → (n.prober p).phase ≠ .idle) : Dozes p n n' :=
  stirred.mono fun stirred later => ⟨working later, stirred⟩

theorem Dozes.refl (p : Nat) (n : Network) : Dozes p n n := .of_stirred (.of_same rfl (.refl p n)) id

theorem dozes_note (x : Notice) (n : Network) : Dozes p n (n.note x) :=
  .of_stirred (.of_same rfl (.of_same le_rfl rfl rfl)) id

/-- A probe that is refused does not change when the detector has to look. -/
theorem dozes_refused {c : Probe} (refused : (n.start p c).1 ≠ .ok ()) :
    Dozes p n (n.start p c).2 := by
  rcases start_cases p c n with ⟨fault, eq, _⟩ | ⟨fault, n', eq, less⟩ | ⟨n', eq, _⟩
  · rw [eq]
    exact .refl p n
  · rw [eq]
    exact ⟨less.le, fun same => absurd same less.ne⟩
  · exact absurd (congrArg Prod.fst eq) refused

theorem dozes_stop (p : Nat) (n : Network) : Dozes p n (n.stop p) := by
  refine ⟨(strokes_stop p n).toFail_le, fun _ working => absurd ?_ working⟩
  exact (phase_find p p (fun _ => {}) (n.halt p)).trans (phase_halt p n)

theorem dozes_announce (p : Nat) (policy : DefendPolicy) (n : Network) :
    Dozes p n (n.announce p policy).2 := by
  refine .of_stirred (stirred_announce p policy p n) fun working => ?_
  rcases announce_cases p policy n with ⟨⟨fault, refused⟩, _⟩ | ⟨_, c, announcing⟩
  · rwa [refused] at working
  · simp [announcing.ready]

end Network

namespace Segment

open Network

variable {s : Segment} {p : Nat}

/-- Whether an act makes the detector at a tap begin a probe or attend to what there is. -/
def Act.Attends (p : Nat) (s : Segment) : Act → Prop
  | .use q call => q = p ∧ s.engines.get? p = none ∧ call.Attends p s.network
  | .order q given => q = p ∧
      ∃ e, s.engines.get? p = some e ∧ given.Attends (detector p) ⟨e, s.network⟩
  | _ => False

/-- Whether an act lays down new rules for calls on timers. -/
def Act.spoils : Act → Bool
  | .spoil _ => true
  | _ => false

/-- No call that sets or reads a timer fails in an act. New rules for such calls may be
laid down. -/
def Spared (s : Segment) (act : Act) : Prop :=
  act.spoils = true ∨ (s.perform act).network.toFail = s.network.toFail

instance : DecidableRel Spared := fun _ _ => inferInstanceAs (Decidable (_ ∨ _))

/-! ## Acts -/

/-- What an act about a tap amounts to for the network. -/
inductive Done (p : Nat) (s : Segment) : Act → Network → Prop where
  | nothing {act : Act} : Done p s act s.network
  | engaged : Done p s (.engage p) (s.network.note .created)
  | called (call : Call) (free : s.engines.get? p = none) :
      Done p s (.use p call) (call.perform p s.network)
  | ordered {e : Engine} (order : Host.Order) (engine : s.engines.get? p = some e) :
      Done p s (.order p order) (order.perform (detector p) ⟨e, s.network⟩).world
  | dropped {n : Network} (strokes : Strokes Whatever p s.network n) : Done p s (.drop p) (n.close p)

theorem done {act : Act} (about : act.about = some p) :
    Done p s act (s.perform act).network := by
  cases act with
  | engage q =>
    cases about
    simp only [perform]
    split
    · exact .engaged
    · exact .nothing
  | use q call =>
    cases about
    simp only [perform]
    split
    · next free => exact .called call free
    · exact .nothing
  | order q order =>
    cases about
    simp only [perform]
    split
    · exact .nothing
    · next e engine => exact .ordered order engine
  | drop q =>
    cases about
    simp only [perform]
    split
    · exact .dropped (.refl _)
    · next e _ =>
      have stopped := Host.keeps_stop (keeps_strokes p) ⟨e, s.network⟩
      exact .dropped (stopped.note trivial)
  | _ => cases about

theorem strokes_call (p : Nat) (n : Network) (call : Call) :
    Strokes Whatever p n (call.perform p n) := by
  cases call with
  | start c => exact strokes_start c n
  | stop => exact (strokes_stop p n).whatever
  | dispatch => exact (strokes_dispatch p n).whatever
  | poll => exact (strokes_poll p n).whatever
  | announce policy => exact strokes_announce p policy n

theorem stirred_close (other : p ≠ q) (n : Network) : Unfailing (Stirred p) n (n.close q) := by
  have halted := ((Strokes.refl n).halt (p := q)).stirred other
  refine halted.trans Stirred.trans (.of_same rfl (.of_same le_rfl ?_ (timer_detach _ other)))
  exact (Link.inbox_detach ..).trans (if_neg (Ne.symm other))

theorem stirred_attach (p : Nat) {n : Network} (formed : WellFormed n) :
    Unfailing (Stirred p) n n.attach.2 := by
  have free : n.link.nextTap ∉ n.link.taps.keys := fun member =>
    Nat.lt_irrefl _ (formed.earlier _ member)
  rcases rules : FaultRule.apply n.faults.create with ⟨_ | fault, rest⟩
  · simp only [attach, Faults.next, rules]
    refine ⟨le_rfl, fun _ => .of_same le_rfl ?_ (timer_attach n.link free)⟩
    rw [Link.inbox_attach]
    split
    · next new => exact (Link.inbox_of_not_mem n.link p (new ▸ free)).symm
    · rfl
  · simp only [attach, Faults.next, rules]
    exact ⟨le_rfl, fun _ => .of_same le_rfl rfl rfl⟩

/-- What is done at another tap leaves a tap alone, or wakes it. -/
theorem Done.stirred {act : Act} {n : Network} (done : Done q s act n) (other : p ≠ q) :
    Unfailing (Stirred p) s.network n := by
  cases done with
  | nothing => exact .of_same rfl (.refl p _)
  | engaged => exact .of_same rfl (.of_same le_rfl rfl rfl)
  | called call free => exact (strokes_call q _ call).stirred other
  | @ordered e order engine =>
    have strokes := Host.keeps_order (keeps_strokes q) (strokes_announce q) ⟨e, s.network⟩ order
    exact strokes.stirred other
  | dropped strokes => exact (strokes.stirred other).trans Stirred.trans (stirred_close other _)

/-- An act leaves the taps alone that it is not about, or wakes them. -/
theorem stirred_elsewhere {act : Act} (formed : WellFormed s.network) (spared : Spared s act)
    (elsewhere : act.about ≠ some p) : Stirred p s.network (s.perform act).network := by
  rcases spared with spoils | same
  · cases act <;> cases spoils
    exact .of_same le_rfl rfl rfl
  refine Unfailing.holds ?_ same
  cases about : act.about with
  | some q => exact (done about).stirred fun own => elsewhere (own ▸ about)
  | none =>
    cases act with
    | attach => exact stirred_attach p formed
    | claim k => exact stirred_claim k p _
    | occupy a m => exact .of_same rfl (.of_same le_rfl rfl rfl)
    | release a => exact .of_same rfl (.of_same le_rfl rfl rfl)
    | carrier up => exact stirred_setCarrier up p _
    | pass nanoseconds => exact .of_same rfl (.of_same (Nat.le_add_right ..) rfl rfl)
    | spoil faults => exact ⟨same.le, fun _ => .of_same le_rfl rfl rfl⟩
    | _ => cases about

/-! ## Looking in time -/

theorem staysVigilant_call (p : Nat) (n : Network) (call : Call) :
    StaysVigilant p n (call.perform p n) := by
  cases call with
  | start c => exact staysVigilant_start p c n
  | stop => exact staysVigilant_stop p n
  | dispatch => exact staysVigilant_dispatch p n
  | poll => exact staysVigilant_poll p n
  | announce policy => exact staysVigilant_announce p policy n

/-- A detector that looks in time goes on to do so, whatever is done. -/
theorem vigilant_perform {act : Act} (vigilant : Vigilant p s.network) (spared : Spared s act) :
    Vigilant p (s.perform act).network := by
  have happens := happening vigilant.formed act
  by_cases elsewhere : act.about ≠ some p
  · have stirred := stirred_elsewhere vigilant.formed spared elsewhere
    exact vigilant.stirred (happens.formed vigilant.formed) stirred
      (congrArg Prober.phase (happens.prober elsewhere))
  have about := Decidable.not_not.mp elsewhere
  rcases spared with spoils | same
  · cases act <;> cases spoils
    cases about
  have formed := happens.formed vigilant.formed
  have done := done (s := s) about
  generalize (s.perform act).network = n at done same formed
  cases done with
  | nothing => exact vigilant
  | engaged => exact (staysVigilant_note .created s.network).2 same vigilant
  | called call free => exact (staysVigilant_call p s.network call).2 same vigilant
  | @ordered e order engine =>
    have stays := Host.keeps_order (keeps_vigilant p) (staysVigilant_announce p) ⟨e, s.network⟩ order
    exact stays.2 same vigilant
  | @dropped n strokes =>
    refine ⟨formed, fun working => absurd ?_ working⟩
    rw [prober_close_self]

/-! ## Dozing -/

theorem dozes_call (p : Nat) (n : Network) (call : Call) (unattended : ¬ call.Attends p n) :
    Dozes p n (call.perform p n) := by
  cases call with
  | start c => exact dozes_refused unattended
  | stop => exact dozes_stop p n
  | dispatch => exact absurd trivial unattended
  | poll => exact .of_stirred (stirred_poll p p n) (phase_poll p p n ▸ id)
  | announce policy => exact dozes_announce p policy n

theorem dozes_order (h : Host Network) (order : Host.Order)
    (unattended : ¬ order.Attends (detector p) h) :
    Dozes p h.world (order.perform (detector p) h).world := by
  cases order with
  | start config =>
    have started := Host.started (detector p) config h
    simp only [Host.Order.Attends] at unattended
    simp only [Host.Order.perform]
    generalize (h.start (detector p) config).1 = r at started unattended
    generalize (h.start (detector p) config).2 = h' at started
    cases started with
    | refused error => exact .refl p _
    | @failed fault n _ _ _ tried =>
      have refused := dozes_refused (p := p) (n := h.world) (c := Host.firstProbe config)
      rw [show h.world.start p _ = _ from tried] at refused
      exact refused (by simp)
    | begun _ _ _ _ => exact absurd rfl unattended
  | stop =>
    simp only [Host.Order.perform, Host.stop]
    split
    · exact (dozes_stop p h.world).trans (dozes_note _ _)
    · exact dozes_stop p h.world
  | dispatch => exact absurd trivial unattended
  | pop => exact .refl p _
  | watch => exact .of_stirred (.of_same rfl (stirred_told rfl)) id
  | look =>
    have popped : h.pop.2.world = h.world := rfl
    simp only [Host.Order.perform, Host.look]
    split
    · next eq => exact (eq ▸ popped : _ = h.world) ▸ .refl p h.world
    · next eq => exact (eq ▸ popped : _ = h.world) ▸ .refl p h.world
    · next h' eq =>
      rw [eq] at popped
      have silent : ¬ (detector p).hasNews h'.world = true := fun news =>
        unattended ⟨congrArg Prod.fst eq, popped ▸ news⟩
      rw [if_neg silent]
      exact popped.symm ▸ .refl p h.world
  | announce =>
    have announced := dozes_announce p .once h.world
    simp only [Host.Order.perform]
    rcases Host.announce_world (detector p) h with same | same | ⟨x, same⟩ <;> rw [same]
    · exact .refl p _
    · exact announced
    · exact announced.trans (dozes_note x _)

/-- As long as the detector at a tap does not attend to what there is, its descriptor stays
readable. -/
theorem readable_perform {act : Act} (formed : WellFormed s.network) (spared : Spared s act)
    (unattended : ¬ act.Attends p s)
    (readable : (s.network.prober p).phase ≠ .idle → s.network.isReadable p = true)
    (working : ((s.perform act).network.prober p).phase ≠ .idle) :
    (s.perform act).network.isReadable p = true := by
  by_cases elsewhere : act.about ≠ some p
  · rw [(happening formed act).prober elsewhere] at working
    exact (stirred_elsewhere formed spared elsewhere).readable (readable working)
  have about := Decidable.not_not.mp elsewhere
  rcases spared with spoils | same
  · cases act <;> cases spoils
    cases about
  have done := done (s := s) about
  generalize (s.perform act).network = n at done same working
  have dozing (dozes : Dozes p s.network n) : n.isReadable p = true := by
    obtain ⟨before, stirred⟩ := dozes.2 same working
    exact stirred.readable (readable before)
  cases done with
  | nothing => exact dozing (.refl p _)
  | engaged => exact dozing (dozes_note _ _)
  | called call free =>
    exact dozing (dozes_call p _ call fun attends => unattended ⟨rfl, free, attends⟩)
  | @ordered e order engine =>
    exact dozing (dozes_order _ order fun attends => unattended ⟨rfl, e, engine, attends⟩)
  | @dropped n strokes =>
    rw [prober_close_self] at working
    exact absurd rfl working

/-! ## Stretches of acts -/

/-- Among acts that are done in a row, the carrier drops, and from there on the detector at
a tap begins no probe and attends to nothing. -/
def CarrierLost (p : Nat) (acts : List Act) (s : Segment) : Prop :=
  ∃ before later, acts = before ++ .carrier false :: later ∧
    (after before s).network.link.carrier = true ∧
    Lawful (fun s act => ¬ act.Attends p s) later ((after before s).perform (.carrier false))

theorem vigilant_after {acts : List Act} (vigilant : Vigilant p s.network)
    (spared : Lawful Spared acts s) : Vigilant p (after acts s).network := by
  induction acts generalizing s with
  | nil => exact vigilant
  | cons act acts ih => exact ih (vigilant_perform vigilant spared.1) spared.2

theorem readable_after {acts : List Act} (formed : WellFormed s.network)
    (spared : Lawful Spared acts s) (unattended : Lawful (fun s act => ¬ act.Attends p s) acts s)
    (readable : (s.network.prober p).phase ≠ .idle → s.network.isReadable p = true)
    (working : ((after acts s).network.prober p).phase ≠ .idle) :
    (after acts s).network.isReadable p = true := by
  induction acts generalizing s with
  | nil => exact readable working
  | cons act acts ih =>
    have next := readable_perform formed spared.1 unattended.1 readable
    exact ih ((happening formed act).formed formed) spared.2 unattended.2 next working

/-- Whatever is done on a segment, as long as no call on a timer fails: a detector at work
that has mail, or has lost the carrier since it last began a probe or attended to anything,
has a readable descriptor; and the descriptor of one that probes is readable, or becomes so
by the end of its probe. -/
theorem no_lost_wakeup (around : Surroundings) (acts : List Act)
    (spared : Lawful Spared acts ⟨⟨around, {}⟩, {}⟩) (p : Nat)
    (reached : after acts ⟨⟨around, {}⟩, {}⟩ = s) (working : (s.network.prober p).phase ≠ .idle) :
    (s.network.link.inbox p ≠ [] ∨ CarrierLost p acts ⟨⟨around, {}⟩, {}⟩ →
        s.network.isReadable p = true) ∧
      ∀ deadline, (s.network.prober p).phase = .probing deadline →
        s.network.isReadable p = true ∨
          ∃ t ≤ deadline, (s.network.link.timer p).expiry = some t := by
  subst reached
  have begins : Run Spared [⟨⟨around, {}⟩, {}⟩] := .fresh around
  have fresh : Vigilant p (⟨around, {}⟩ : Network) :=
    ⟨begins.wellFormed, fun working => absurd rfl working⟩
  have alert := (vigilant_after fresh spared).alert working
  refine ⟨fun need => ?_, alert.deadline⟩
  rcases need with mail | ⟨before, later, rfl, up, unattended⟩
  · exact alert.mail mail
  · -- The drop of the carrier wakes everybody, and nobody who does not attend falls asleep.
    obtain ⟨earlier, drop, rest⟩ := Lawful.append_iff.mp spared
    have formed := (vigilant_after fresh earlier).formed
    have happens := happening formed (.carrier false)
    rw [after_append, after_cons] at working ⊢
    refine readable_after (happens.formed formed) rest unattended (fun busy => ?_) working
    rw [happens.prober (by simp [Act.about])] at busy
    have tap := (formed.attached p).mp (attached_of_working busy)
    exact (readable_setCarrier up tap).holds (drop.resolve_left (by simp [Act.spoils]))

/-- A probe whose carrier drops and comes back before anybody attends to it. -/
def interruption : List Act :=
  [.attach, .use 0 (.start (probeBy 1)), .carrier false, .use 0 .poll, .carrier true,
    .pass 5000000]

private theorem interruption_lost : CarrierLost 0 interruption fresh :=
  ⟨[.attach, .use 0 (.start (probeBy 1))], [.use 0 .poll, .carrier true, .pass 5000000],
    rfl, by decide +kernel, fun attends => attends.2.2, id, id, trivial⟩

/-- The prober has to look, although the carrier is back and its time is not over. -/
theorem interruption_noticed : ∃ s, Lawful Spared interruption fresh ∧
    after interruption fresh = s ∧ (s.network.prober 0).phase = .probing 10000000 ∧
    s.network.now = 5000000 ∧ CarrierLost 0 interruption fresh ∧
    s.network.isReadable 0 = true := by
  have spared : Lawful Spared interruption fresh := by decide +kernel
  have probing : ((after interruption fresh).network.prober 0).phase = .probing 10000000 := by
    decide +kernel
  have seen := no_lost_wakeup {} interruption spared 0 rfl (probing ▸ by simp)
  exact ⟨_, spared, rfl, probing, by decide +kernel, interruption_lost,
    seen.1 (.inr interruption_lost)⟩

end Segment
end Simulation
end LinkLocal
