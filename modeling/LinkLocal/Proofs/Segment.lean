import LinkLocal.Proofs.Host.Keeping
import LinkLocal.Proofs.Network.Happening

/-! A segment: one link with everything on it, and all that can be done there, in any
order. Some detectors are used as they are, others serve an engine; other hosts send
packets and hold addresses; the carrier and the clock move, and calls on timers fail
when they please. -/
namespace LinkLocal

/-- What the owner of a host can order. -/
inductive Host.Order where
  | start (config : Config)
  | stop
  | dispatch
  | announce
  | pop
  | watch
  | look

/-- A host after an order. -/
def Host.Order.perform {σ : Type} [Journal σ] (d : Detector σ) (h : Host σ) : Order → Host σ
  | .start config => (h.start d config).2
  | .stop => h.stop d
  | .dispatch => (h.dispatch d).2
  | .announce => (h.announce d).2
  | .pop => h.pop.2
  | .watch => { h with world := d.renew h.world }
  | .look => (h.look d).2

/-- What holds across every call of a detector, announcing included, holds across every
order to its host. -/
theorem Host.keeps_order {σ : Type} [Journal σ] {d : Detector σ} {r : σ → σ → Prop}
    (keeps : d.Keeps r) (announce : ∀ policy s, r s (d.announce policy s).2) (h : Host σ)
    (order : Host.Order) : r h.world (order.perform d h).world := by
  cases order with
  | start config => exact keeps_start keeps config h
  | stop => exact keeps_stop keeps h
  | dispatch => exact keeps_dispatch keeps h
  | pop => exact keeps.refl _
  | watch => exact keeps.renew _
  | look => exact keeps_look keeps h
  | announce =>
    have announced := announce .once h.world
    simp only [Host.Order.perform]
    rcases announce_world d h with same | same | ⟨x, same⟩ <;> rw [same]
    · exact keeps.refl _
    · exact announced
    · exact keeps.trans announced (keeps.note x _)

namespace Simulation

/-- What the user of a detector can ask of it. -/
inductive Network.Call where
  | start (c : Probe)
  | stop
  | dispatch
  | poll
  | announce (policy : DefendPolicy)

/-- A network after a call of the detector at a tap. -/
def Network.Call.perform (p : Nat) (n : Network) : Call → Network
  | .start c => (n.start p c).2
  | .stop => n.stop p
  | .dispatch => (n.dispatch p).2
  | .poll => (n.poll p).2
  | .announce policy => (n.announce p policy).2

/-- A link with everything on it. Engines are known by the taps of their detectors. -/
structure Segment where
  network : Network
  engines : Table Nat Engine := {}

namespace Segment

open Network

/-- What can be done on a segment. -/
inductive Act where
  /-- A detector is attached. -/
  | attach
  /-- An engine is created for the detector at a tap. -/
  | engage (p : Nat)
  /-- A detector that serves no engine is used. -/
  | use (p : Nat) (call : Call)
  /-- The host with the detector at a tap gets an order. -/
  | order (p : Nat) (order : Host.Order)
  /-- The detector at a tap is dropped, with the engine that it serves. -/
  | drop (p : Nat)
  /-- Another host sends a packet. -/
  | claim (k : Packet)
  /-- An address is given to a host by hand. -/
  | occupy (a : IPv4) (m : LinkAddress)
  /-- An address is taken from whoever holds it by hand. -/
  | release (a : IPv4)
  | carrier (up : Bool)
  | pass (nanoseconds : Nat)
  /-- The coming calls on timers fail by new rules. -/
  | spoil (faults : Faults)

/-- The tap that an act is about. -/
def Act.about : Act → Option Nat
  | .engage p | .use p _ | .order p _ | .drop p => some p
  | _ => none

/-- Whether an act gives or takes addresses by hand. -/
def Act.byHand : Act → Bool
  | .occupy .. | .release _ => true
  | _ => false

/-- A segment after an act. Nobody can use a detector that serves an engine, and nobody
can create an engine where there is no detector or one that serves already. -/
def perform (s : Segment) : Act → Segment
  | .attach => { s with network := s.network.attach.2 }
  | .engage p =>
    if p ∈ s.network.probers.keys ∧ s.engines.get? p = none then
      let h := Host.create s.network
      { network := h.world, engines := s.engines.insert p h.engine }
    else s
  | .use p call =>
    if s.engines.get? p = none then { s with network := call.perform p s.network } else s
  | .order p order =>
    match s.engines.get? p with
    | none => s
    | some e =>
      let h := order.perform (detector p) ⟨e, s.network⟩
      { network := h.world, engines := s.engines.insert p h.engine }
  | .drop p =>
    match s.engines.get? p with
    | none => { s with network := s.network.close p }
    | some e =>
      { network := Host.release (detector p) ⟨e, s.network⟩, engines := s.engines.erase p }
  | .claim k => { s with network := s.network.claim k }
  | .occupy a m => { s with network := s.network.occupy a m }
  | .release a => { s with network := s.network.release a }
  | .carrier up => { s with network := s.network.setCarrier up }
  | .pass nanoseconds => { s with network := s.network.advance nanoseconds }
  | .spoil faults => { s with network := { s.network with faults } }

/-- The segments that a run goes through, the latest first. A run begins with an empty
link, at any time and with any rules for failing calls. -/
inductive Run (allowed : Segment → Act → Prop) : List Segment → Prop where
  | fresh (around : Surroundings) : Run allowed [⟨⟨around, {}⟩, {}⟩]
  | step {s : Segment} {past : List Segment} (run : Run allowed (s :: past)) (act : Act)
      (ok : allowed s act) : Run allowed (s.perform act :: s :: past)

/-- A fresh segment, at the beginning of time. -/
def fresh : Segment := ⟨⟨{}, {}⟩, {}⟩

/-- The segments that are gone through when acts are done in a row, the latest first. -/
def trail : List Act → Segment → List Segment → List Segment
  | [], s, past => s :: past
  | act :: acts, s, past => trail acts (s.perform act) (s :: past)

/-- Each of the acts is allowed when its turn comes. -/
def Lawful (allowed : Segment → Act → Prop) : List Act → Segment → Prop
  | [], _ => True
  | act :: acts, s => allowed s act ∧ Lawful allowed acts (s.perform act)

instance Lawful.decide (allowed : Segment → Act → Prop) [∀ s act, Decidable (allowed s act)] :
    (acts : List Act) → (s : Segment) → Decidable (Lawful allowed acts s)
  | [], _ => .isTrue trivial
  | act :: acts, s =>
    have := Lawful.decide allowed acts (s.perform act)
    inferInstanceAs (Decidable (_ ∧ _))

/-- The segment after acts are done in a row. -/
def after (acts : List Act) (s : Segment) : Segment := acts.foldl perform s

/-- A probe of always the same address, by hosts that differ in the last byte of theirs. -/
def probeBy (host : UInt8) : Probe :=
  ⟨1, ⟨[2, 0, 0, 0, 0, host]⟩, .ethernet, .linkLocal 0x0707, 10⟩

/-- The configuration of a host with probes of ten milliseconds. -/
def brief : Config := ⟨1, .ethernet, (probeBy 1).mac, 1, 10, none, .reselect⟩

variable {s : Segment} {past : List Segment} {allowed : Segment → Act → Prop}
variable {p : Nat} {e : Engine} {n : Network}

theorem after_cons (act : Act) (acts : List Act) (s : Segment) :
    after (act :: acts) s = after acts (s.perform act) := rfl

theorem after_append (acts rest : List Act) (s : Segment) :
    after (acts ++ rest) s = after rest (after acts s) := List.foldl_append

theorem Lawful.append_iff {acts rest : List Act} : Lawful allowed (acts ++ rest) s ↔
    Lawful allowed acts s ∧ Lawful allowed rest (after acts s) := by
  induction acts generalizing s with
  | nil => exact Iff.intro (fun lawful => ⟨trivial, lawful⟩) And.right
  | cons act acts ih => exact (and_congr_right fun _ => ih).trans and_assoc.symm

/-- Lawful acts in a row make a run. -/
theorem Run.trail (run : Run allowed (s :: past)) (acts : List Act)
    (lawful : Lawful allowed acts s) : Run allowed (trail acts s past) := by
  induction acts generalizing s past with
  | nil => exact run
  | cons act acts ih => exact ih (run.step act lawful.1) lawful.2

/-! ## Acts are happenings -/

/-- What a detector does for its host is conduct. -/
theorem keeps_conduct (p : Nat) : (detector p).Keeps (Conduct p) where
  refl := Conduct.refl p
  trans := Conduct.trans
  note x n := (quiet_note x n).conduct p
  start := conduct_start p
  stop := conduct_stop p
  dispatch := conduct_dispatch p
  poll := conduct_poll p
  tell n := (quiet_tell p n).conduct p
  renew n := (quiet_renew p n).conduct p

theorem announce_goes (p : Nat) (policy : DefendPolicy) (n : Network) :
    Conduct p n (n.announce p policy).2 ∨ ∃ c, Announcing p c n (n.announce p policy).2 := by
  rcases announce_cases p policy n with ⟨⟨fault, refused⟩, _⟩ | ⟨_, announcing⟩
  · rw [refused]
    exact .inl (Conduct.refl p n)
  · exact .inr announcing

/-- A call of a detector is conduct or an announcement. -/
theorem call_goes (p : Nat) (n : Network) (call : Call) :
    Conduct p n (call.perform p n) ∨ ∃ c, Announcing p c n (call.perform p n) := by
  cases call with
  | start c => exact .inl (conduct_start p c n)
  | stop => exact .inl (conduct_stop p n)
  | dispatch => exact .inl (conduct_dispatch p n)
  | poll => exact .inl (conduct_poll p n)
  | announce policy => exact announce_goes p policy n

/-- An order to a host is conduct of its detector or an announcement. -/
theorem order_goes (p : Nat) (h : Host Network) (order : Host.Order) :
    Conduct p h.world (order.perform (detector p) h).world ∨
      ∃ c, Announcing p c h.world (order.perform (detector p) h).world := by
  have keeps := keeps_conduct p
  cases order with
  | start config => exact .inl (Host.keeps_start keeps config h)
  | stop => exact .inl (Host.keeps_stop keeps h)
  | dispatch => exact .inl (Host.keeps_dispatch keeps h)
  | pop => exact .inl (Conduct.refl p _)
  | watch => exact .inl (keeps.renew _)
  | look => exact .inl (Host.keeps_look keeps h)
  | announce =>
    have announced := announce_goes p .once h.world
    simp only [Host.Order.perform]
    rcases Host.announce_world (detector p) h with same | same | ⟨x, same⟩ <;> rw [same]
    · exact .inl (Conduct.refl p _)
    · exact announced
    · have noted := quiet_note x (h.world.announce p .once).2
      rcases announced with conduct | ⟨c, announcing⟩
      · exact .inl (conduct.trans (noted.conduct p))
      · exact .inr ⟨c, announcing.quiet noted⟩

theorem conduct_released (p : Nat) (e : Engine) (n : Network) :
    ∃ n', Conduct p n n' ∧ Host.release (detector p) ⟨e, n⟩ = n'.close p := by
  have stopped := Host.keeps_stop (keeps_conduct p) ⟨e, n⟩
  exact ⟨_, stopped.trans ((quiet_note _ _).conduct p), rfl⟩

private theorem happening_of_goes {n' : Network}
    (goes : Conduct p n n' ∨ ∃ c, Announcing p c n n') : Happening (some p) false n n' := by
  rcases goes with conduct | ⟨c, announcing⟩
  · exact .work conduct
  · exact .announce announcing

/-- Every act is a happening about the tap that it is about. -/
theorem happening (formed : WellFormed s.network) (act : Act) :
    Happening act.about act.byHand s.network (s.perform act).network := by
  cases act with
  | attach => exact .aside (aside_attach formed) fun _ => owner_attach _
  | engage p =>
    simp only [perform, Act.about, Act.byHand]
    split
    · exact .work ((quiet_note _ _).conduct p)
    · exact .work (Conduct.refl p _)
  | use p call =>
    simp only [perform, Act.about, Act.byHand]
    split
    · exact happening_of_goes (call_goes p s.network call)
    · exact .work (Conduct.refl p _)
  | order p order =>
    simp only [perform, Act.about, Act.byHand]
    split
    · exact .work (Conduct.refl p _)
    · exact happening_of_goes (order_goes p ⟨_, s.network⟩ order)
  | drop p =>
    simp only [perform, Act.about, Act.byHand]
    split
    · exact .close (Conduct.refl p _)
    · next e _ =>
      obtain ⟨n', conduct, released⟩ := conduct_released p e s.network
      rw [released]
      exact .close conduct
  | claim k => exact .aside (aside_claim k _) fun _ => (still_claim k _).owner
  | occupy a m => exact .aside (aside_occupy a m _) fun byHand => by cases byHand
  | release a => exact .aside (aside_release a _) fun byHand => by cases byHand
  | carrier up => exact .aside (aside_setCarrier up _) fun _ => owner_setCarrier up _
  | pass nanoseconds => exact .aside (aside_advance nanoseconds _) fun _ _ => rfl
  | spoil faults => exact .aside (quiet_faults faults _).aside fun _ _ => rfl

/-- What holds of an empty link, and is kept by every act, holds all through a run. -/
theorem Run.induction {g : Segment → List Segment → Prop}
    (fresh : ∀ around, g ⟨⟨around, {}⟩, {}⟩ [])
    (step : ∀ {s past} act, Run allowed (s :: past) → allowed s act → g s past →
      g (s.perform act) (s :: past))
    (run : Run allowed (s :: past)) : g s past := by
  generalize visited : s :: past = states at run
  induction run generalizing s past with
  | fresh around => cases visited; exact fresh around
  | step run act ok ih => cases visited; exact step act run ok (ih rfl)

theorem formed_fresh (around : Surroundings) : WellFormed ⟨around, {}⟩ :=
  ⟨fun _ => Iff.rfl, by simp [Table.keys], fun _ working => absurd rfl working⟩

theorem formed_perform (formed : WellFormed s.network) (act : Act) :
    WellFormed (s.perform act).network := (happening formed act).formed formed

theorem formed_after (formed : WellFormed s.network) (acts : List Act) :
    WellFormed (after acts s).network := by
  induction acts generalizing s with
  | nil => exact formed
  | cons act acts ih => exact ih (formed_perform formed act)

theorem Run.wellFormed (run : Run allowed (s :: past)) : WellFormed s.network :=
  run.induction (g := fun s _ => WellFormed s.network) formed_fresh
    fun act _ _ formed => formed_perform formed act

/-! ## Engines and their detectors -/

/-- Acts leave the engines alone that they are not about. -/
theorem engines_perform (s : Segment) (act : Act) (elsewhere : act.about ≠ some p) :
    (s.perform act).engines.get? p = s.engines.get? p := by
  have other {q : Nat} (elsewhere : some q ≠ some p) : q ≠ p := fun same => elsewhere (same ▸ rfl)
  cases act with
  | engage q =>
    simp only [perform]
    split
    · exact Table.get?_insert_of_ne _ _ (other elsewhere)
    · rfl
  | use q call =>
    simp only [perform]
    split <;> rfl
  | order q order =>
    simp only [perform]
    split
    · rfl
    · exact Table.get?_insert_of_ne _ _ (other elsewhere)
  | drop q =>
    simp only [perform]
    split
    · rfl
    · exact (Table.get?_erase ..).trans (if_neg (other elsewhere))
  | _ => rfl

/-- How an engine comes to be at a tap: it was there before, it was created just now, or
it has had an order. -/
inductive EngineAfter (p : Nat) (s : Segment) (act : Act) : Engine → Prop where
  | elsewhere {e : Engine} (other : act.about ≠ some p) (before : s.engines.get? p = some e) :
      EngineAfter p s act e
  | refused {e : Engine} (same : s.perform act = s) (before : s.engines.get? p = some e) :
      EngineAfter p s act e
  | created (engages : act = .engage p) (attached : p ∈ s.network.probers.keys)
      (quiet : Quiet s.network (s.perform act).network) : EngineAfter p s act {}
  | ordered {e : Engine} {order : Host.Order} (before : s.engines.get? p = some e)
      (world : (s.perform act).network = (order.perform (detector p) ⟨e, s.network⟩).world) :
      EngineAfter p s act (order.perform (detector p) ⟨e, s.network⟩).engine

theorem engine_after (s : Segment) (act : Act)
    (engine : (s.perform act).engines.get? p = some e) : EngineAfter p s act e := by
  by_cases elsewhere : act.about ≠ some p
  · exact .elsewhere elsewhere (engines_perform s act elsewhere ▸ engine)
  have about := Decidable.not_not.mp elsewhere
  cases act with
  | engage q =>
    cases about
    simp only [perform] at engine
    split at engine
    · next free =>
      rw [Table.get?_insert_self] at engine
      cases engine
      refine .created rfl free.1 ?_
      simp only [perform, if_pos free]
      exact quiet_note _ _
    · next taken => exact .refused (by simp only [perform, if_neg taken]) engine
  | use q call =>
    cases about
    simp only [perform] at engine
    split at engine
    · next free => rw [free] at engine; cases engine
    · next taken => exact .refused (by simp only [perform, if_neg taken]) engine
  | order q order =>
    cases about
    simp only [perform] at engine
    split at engine
    · next none => rw [none] at engine; cases engine
    · next e' found =>
      rw [Table.get?_insert_self] at engine
      cases engine
      exact .ordered found (by simp only [perform, found])
  | drop q =>
    cases about
    simp only [perform] at engine
    split at engine
    · next none => rw [none] at engine; cases engine
    · rw [Table.get?_erase, if_pos rfl] at engine; cases engine
  | _ => cases about

/-- The detector of an engine is attached as long as there is the engine. -/
theorem Run.serving (run : Run allowed (s :: past)) (engine : s.engines.get? p = some e) :
    p ∈ s.network.probers.keys := by
  revert p e
  refine run.induction (g := fun s _ => ∀ {p e}, s.engines.get? p = some e →
    p ∈ s.network.probers.keys) (fun _ p e engine => ?_)
    fun {s _} act run _ serving p e engine => ?_
  · cases engine
  cases engine_after s act engine with
  | elsewhere other before => exact (happening run.wellFormed act).attached other (serving before)
  | refused same before => exact same.symm ▸ serving before
  | created _ attached quiet => exact quiet.probers.symm ▸ attached
  | @ordered e' order before world =>
    have attached := serving before
    rw [world]
    rcases order_goes p ⟨e', s.network⟩ order with conduct | ⟨c, announcing⟩
    · exact conduct.apart.attached ▸ attached
    · exact announcing.apart.attached ▸ attached

end Segment
end Simulation
end LinkLocal
