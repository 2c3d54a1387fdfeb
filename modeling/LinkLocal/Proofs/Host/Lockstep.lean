import LinkLocal.Proofs.Host.Agreement

/-! Two hosts in lockstep. A host that gets the same answers from its detector does the same, so
that a relation between two worlds that every call of the detector keeps, with the same answer in
both, is kept by every operation of two hosts with the same engine. The one thing in which their
engines may differ is that one of them has events yet to hand out that the other has handed out
already: no operation that takes findings looks at them. -/
namespace LinkLocal

variable {σ : Type} {d : Detector σ} {r : σ → σ → Prop} {before : List Event}

/-- The answer is the same in both worlds, and the worlds after it are related. -/
def InStep {α : Type} (r : σ → σ → Prop) (x x' : α × σ) : Prop := x'.1 = x.1 ∧ r x.2 x'.2

theorem InStep.cases {α : Type} {x x' : α × σ} (instep : InStep r x x') :
    ∃ a s s', x = (a, s) ∧ x' = (a, s') ∧ r s s' :=
  ⟨x.1, x.2, x'.2, rfl, Prod.ext instep.1 rfl, instep.2⟩

/-- A relation between worlds that every call of a detector keeps, with the same answer in both. -/
structure Detector.Mirrors [Journal σ] (d : Detector σ) (r : σ → σ → Prop) : Prop where
  note : ∀ {s s'} x, r s s' → r (Journal.note x s) (Journal.note x s')
  start : ∀ {s s'} c, r s s' → InStep r (d.start c s) (d.start c s')
  stop : ∀ {s s'}, r s s' → r (d.stop s) (d.stop s')
  dispatch : ∀ {s s'}, r s s' → InStep r (d.dispatch s) (d.dispatch s')
  poll : ∀ {s s'}, r s s' → InStep r (d.poll s) (d.poll s')
  announce : ∀ {s s'} policy, r s s' → InStep r (d.announce policy s) (d.announce policy s')
  backlog : ∀ {s s'}, r s s' → d.backlog s' = d.backlog s

/-- The second engine is the first, but with these events in front of the others. -/
def Engine.Ahead (before : List Event) (e e' : Engine) : Prop :=
  ∃ pending, e' = { e with pending } ∧ pending.toList = before ++ e.pending.toList

theorem Engine.Ahead.refl (e : Engine) : e.Ahead [] e := ⟨e.pending, rfl, rfl⟩

theorem Engine.Ahead.trans {before' : List Event} {e e' e'' : Engine} (first : e.Ahead before e')
    (second : e'.Ahead before' e'') : e.Ahead (before' ++ before) e'' := by
  obtain ⟨pending, rfl, ahead⟩ := first
  obtain ⟨pending', rfl, ahead'⟩ := second
  exact ⟨pending', rfl, by rw [ahead', ahead, List.append_assoc]⟩

theorem Engine.Ahead.push {e e' : Engine} (ahead : e.Ahead before e') (event : Event) :
    (e.push event).Ahead before (e'.push event) := by
  obtain ⟨pending, rfl, ahead⟩ := ahead
  refine ⟨pending.push event, rfl, ?_⟩
  rw [Engine.push, Queue.toList_push, Queue.toList_push, ahead, List.append_assoc]

namespace Host

/-- Two hosts in related worlds, with the same engine but for events that the second one has in
front. -/
structure Beside (r : σ → σ → Prop) (before : List Event) (h h' : Host σ) : Prop where
  engine : h.engine.Ahead before h'.engine
  world : r h.world h'.world

variable {h h' : Host σ}

/-- Two hosts with the same events hand out the same one. -/
theorem Beside.pop (beside : Beside r [] h h') : InStep (Beside r []) h.pop h'.pop := by
  obtain ⟨e, s⟩ := h
  obtain ⟨_, s'⟩ := h'
  obtain ⟨⟨pending, rfl, ahead⟩, world⟩ := beside
  rw [List.nil_append] at ahead
  cases popped : e.pending.pop? with
  | none =>
    have popped' : pending.pop? = none := by
      rw [Queue.pop?_eq_none_iff] at popped ⊢
      exact ahead.trans popped
    cases state : e.state <;> simp only [Host.pop, Engine.pop, popped, popped', state] <;>
      exact ⟨rfl, ⟨pending, by simp only [state], ahead⟩, world⟩
  | some front =>
    obtain ⟨event, rest⟩ := front
    have held := Queue.toList_of_pop? popped
    obtain ⟨event', rest', popped'⟩ : ∃ event' rest', pending.pop? = some (event', rest') := by
      cases none : pending.pop? with
      | none =>
        rw [Queue.pop?_eq_none_iff, ahead, held] at none
        cases none
      | some front => exact ⟨front.1, front.2, rfl⟩
    have held' := Queue.toList_of_pop? popped'
    rw [ahead, held, List.cons.injEq] at held'
    obtain ⟨rfl, same⟩ := held'
    simp only [Host.pop, Engine.pop, popped, popped']
    exact ⟨rfl, ⟨rest', rfl, same.symm⟩, world⟩

variable [Journal σ]

namespace Beside

/-! ## The policy -/

theorem note (beside : Beside r before h h') (mirrors : d.Mirrors r) (x : Notice) :
    Beside r before (h.note x) (h'.note x) :=
  ⟨beside.engine, mirrors.note x beside.world⟩

theorem goDown (beside : Beside r before h h') (mirrors : d.Mirrors r) :
    Beside r before h.goDown h'.goDown := by
  obtain ⟨pending, left, ahead⟩ := beside.engine.push .down
  refine ⟨⟨pending, ?_, ahead⟩, mirrors.note .wentDown beside.world⟩
  simp only [Host.goDown, Host.note, left]

theorem reselect (beside : Beside r before h h') (mirrors : d.Mirrors r) :
    Beside r before (h.reselect d) (h'.reselect d) := by
  obtain ⟨e, s⟩ := h
  obtain ⟨_, s'⟩ := h'
  obtain ⟨⟨pending, rfl, ahead⟩, world⟩ := beside
  rcases next : e.selector.next with ⟨a, selector⟩
  cases probe : e.probe with
  | none =>
    simp only [Host.reselect, next, probe]
    refine (Beside.note ?_ mirrors .noProbe).goDown mirrors
    exact ⟨⟨pending, rfl, ahead⟩, world⟩
  | some c =>
    obtain ⟨answer, t, t', started, started', world⟩ :=
      (mirrors.start { c with address := a } world).cases
    cases answer with
    | error fault =>
      simp only [Host.reselect, next, probe, started, started']
      refine (Beside.note ?_ mirrors _).goDown mirrors
      exact ⟨⟨pending, rfl, ahead⟩, world⟩
    | ok =>
      simp only [Host.reselect, next, probe, started, started']
      refine Beside.note ?_ mirrors _
      exact ⟨⟨pending, rfl, ahead⟩, world⟩

theorem stop (beside : Beside r before h h') (mirrors : d.Mirrors r) :
    Beside r before (h.stop d) (h'.stop d) := by
  obtain ⟨e, s⟩ := h
  obtain ⟨_, s'⟩ := h'
  obtain ⟨⟨pending, rfl, ahead⟩, world⟩ := beside
  have stopped := mirrors.stop world
  simp only [Host.stop]
  split
  · exact ⟨⟨pending, rfl, ahead⟩, mirrors.note _ stopped⟩
  · exact ⟨⟨pending, rfl, ahead⟩, stopped⟩

theorem react (beside : Beside r before h h') (mirrors : d.Mirrors r) (f : Detection) :
    Beside r before (Host.react d f h) (Host.react d f h') := by
  have left (x : Notice) (event : Event) : Beside r before
      ⟨h.engine.push event, Journal.note x h.world⟩
      ⟨h'.engine.push event, Journal.note x h'.world⟩ :=
    ⟨beside.engine.push event, mirrors.note x beside.world⟩
  have same := beside
  obtain ⟨e, s⟩ := h
  obtain ⟨_, s'⟩ := h'
  obtain ⟨⟨pending, rfl, ahead⟩, world⟩ := same
  cases f with
  | ready =>
    simp only [Host.react, Engine.address]
    split
    · exact left _ _
    · exact (beside.note mirrors _).goDown mirrors
  | defended claim => exact left _ _
  | conflict claim =>
    have lost := left (.lost claim) (.conflict claim)
    simp only [Host.react, Host.note, Engine.push]
    split
    · exact lost.reselect mirrors
    · exact lost.stop mirrors
  | used claim => exact (beside.note mirrors _).reselect mirrors
  | down => exact beside.goDown mirrors

/-! ## Operations -/

/-- The induction is on the number of findings that may still be taken. -/
theorem settle (beside : Beside r before h h') (mirrors : d.Mirrors r) (findings : Nat) :
    InStep (Beside r before) (Host.settle d findings h) (Host.settle d findings h') := by
  induction findings generalizing h h' with
  | zero => exact ⟨rfl, beside⟩
  | succ findings ih =>
    obtain ⟨answer, s, s', polled, polled', world⟩ := (mirrors.poll beside.world).cases
    have taken : Beside r before { h with world := s } { h' with world := s' } :=
      ⟨beside.engine, world⟩
    match answer with
    | .error fault =>
      simp only [Host.settle, polled, polled']
      exact ⟨rfl, taken⟩
    | .ok (.found f) =>
      simp only [Host.settle, polled, polled']
      exact ih (taken.react mirrors f)
    | .ok .done =>
      simp only [Host.settle, polled, polled']
      exact ⟨rfl, taken⟩
    | .ok .stopped =>
      simp only [Host.settle, polled, polled']
      obtain ⟨e, _⟩ := h
      obtain ⟨_, _⟩ := h'
      obtain ⟨⟨pending, rfl, ahead⟩, world⟩ := taken
      refine ⟨rfl, ?_⟩
      dsimp only
      split
      · exact ⟨⟨pending, rfl, ahead⟩, mirrors.note _ world⟩
      · exact ⟨⟨pending, rfl, ahead⟩, world⟩

theorem dispatch (beside : Beside r before h h') (mirrors : d.Mirrors r) :
    InStep (Beside r before) (h.dispatch d) (h'.dispatch d) := by
  obtain ⟨answer, s, s', attended, attended', world⟩ := (mirrors.dispatch beside.world).cases
  have taken : Beside r before { h with world := s } { h' with world := s' } :=
    ⟨beside.engine, world⟩
  cases answer with
  | error fault =>
    simp only [Host.dispatch, attended, attended']
    exact ⟨rfl, taken.note mirrors _⟩
  | ok =>
    simp only [Host.dispatch, attended, attended', mirrors.backlog world]
    exact taken.settle mirrors _

theorem announce (beside : Beside r before h h') (mirrors : d.Mirrors r) :
    InStep (Beside r before) (h.announce d) (h'.announce d) := by
  obtain ⟨e, s⟩ := h
  obtain ⟨_, s'⟩ := h'
  obtain ⟨⟨pending, rfl, ahead⟩, world⟩ := beside
  obtain ⟨answer, t, t', announced, announced', taken⟩ := (mirrors.announce .once world).cases
  have address : ({ e with pending } : Engine).address = e.address := rfl
  simp only [Host.announce, announced, announced', address]
  split
  · exact ⟨rfl, ⟨pending, rfl, ahead⟩, world⟩
  · cases answer with
    | error fault => exact ⟨rfl, ⟨pending, rfl, ahead⟩, taken⟩
    | ok =>
      dsimp only
      split
      · exact ⟨rfl, ⟨pending, rfl, ahead⟩, mirrors.note _ taken⟩
      · exact ⟨rfl, ⟨pending, rfl, ahead⟩, taken⟩

/-- A run does not begin while there are events to hand out, so that both have to have the same. -/
theorem start (beside : Beside r [] h h') (mirrors : d.Mirrors r) (config : Config) :
    InStep (Beside r []) (h.start d config) (h'.start d config) := by
  obtain ⟨e, s⟩ := h
  obtain ⟨_, s'⟩ := h'
  obtain ⟨⟨pending, rfl, ahead⟩, world⟩ := beside
  have length : pending.length = e.pending.length := by
    rw [← Queue.length_toList, ← Queue.length_toList, ahead, List.nil_append]
  have empty : pending.isEmpty = e.pending.isEmpty := by
    rw [Bool.eq_iff_iff, Queue.isEmpty_iff, Queue.isEmpty_iff, ahead, List.nil_append]
  rcases first : firstCandidate config with ⟨a, selector⟩
  obtain ⟨answer, t, t', started, started', begun⟩ :=
    (mirrors.start (probeOf config a) world).cases
  simp only [Host.start, empty, length, first, started, started']
  split
  · exact ⟨rfl, ⟨pending, rfl, ahead⟩, world⟩
  · split
    · exact ⟨rfl, ⟨pending, rfl, ahead⟩, world⟩
    · split
      · exact ⟨rfl, ⟨pending, rfl, ahead⟩, world⟩
      · cases answer with
        | error fault => exact ⟨rfl, ⟨pending, rfl, ahead⟩, begun⟩
        | ok => exact ⟨rfl, ⟨pending, rfl, ahead⟩, mirrors.note _ begun⟩

/-- Two hosts look alike if both hear of news or neither does. -/
theorem look (beside : Beside r [] h h') (mirrors : d.Mirrors r)
    (news : d.hasNews h'.world = d.hasNews h.world)
    (told : r (d.tell h.world) (d.tell h'.world)) :
    InStep (Beside r []) (h.look d) (h'.look d) := by
  obtain ⟨answer, k, k', popped, popped', left⟩ := beside.pop.cases
  have world : k.world = h.world := congrArg (fun x => Host.world (Prod.snd x)) popped.symm
  have world' : k'.world = h'.world := congrArg (fun x => Host.world (Prod.snd x)) popped'.symm
  cases answer with
  | event event =>
    simp only [Host.look, popped, popped']
    exact ⟨rfl, left⟩
  | stopped =>
    simp only [Host.look, popped, popped']
    exact ⟨rfl, left⟩
  | done =>
    simp only [Host.look, popped, popped', world, world', news]
    split
    · have heard : Beside r [] { k with world := d.tell h.world }
          { k' with world := d.tell h'.world } := ⟨left.engine, told⟩
      obtain ⟨answer, g, g', attended, attended', after⟩ := (heard.dispatch mirrors).cases
      rw [attended, attended']
      cases answer with
      | error error => exact ⟨rfl, after⟩
      | ok => exact ⟨rfl, after⟩
    · exact ⟨rfl, left⟩

end Beside
end Host
end LinkLocal
