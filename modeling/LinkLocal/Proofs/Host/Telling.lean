import LinkLocal.Proofs.Host.Agreement
import LinkLocal.Proofs.Host.Chapters
import LinkLocal.Proofs.Host.Starting
import LinkLocal.Proofs.Network.Strokes

/-! A host tells its story. While it is at work, the story so far is a number of whole
chapters and a beginning of the present one, and where the detector stands says how far that
one is told. What a dispatch finds is what is ahead in it; taking the findings one by one,
the host tells it, and perhaps begins the next chapter or comes to the end. -/
namespace LinkLocal.Simulation

open Network

/-! ## The present chapter -/

/-- What is told of a candidate when its detector stands here. -/
inductive Current (a : IPv4) : Phase → List Mark → Prop where
  | probing (deadline : Nat) : Current a (.probing deadline) [.probed a]
  | ready : Current a .ready [.probed a, .queued (.ready a)]
  | announced {policy : DefendPolicy} {last : Option Nat} (claims : List Packet)
      (aimed : ∀ k ∈ claims, k.target = a) :
      Current a (.announced policy last) (defending a claims)

/-- What is ahead, where this much is told of a candidate: the findings yet to take, and where
the detector stands behind them. -/
inductive Ahead (a : IPv4) : List Mark → List Detection → Phase → Prop where
  | none {told : List Mark} {phase : Phase} (current : Current a phase told) :
      Ahead a told [] phase
  | ready : Ahead a [.probed a] [.ready] .ready
  | taken {told : List Mark} (claim : Packet) (whole : Chapter a told) :
      Ahead a told [.used claim] .idle
  | down {told : List Mark} {before : Phase} (current : Current a before told) :
      Ahead a told [.down] .idle
  | defended {claims : List Packet} {claim : Packet} {fs : List Detection} {phase : Phase}
      (later : Ahead a (defending a (claims ++ [claim])) fs phase) :
      Ahead a (defending a claims) (.defended claim :: fs) phase
  | yielded {claims : List Packet} {claim : Packet} (aimed : ∀ k ∈ claims, k.target = a)
      (target : claim.target = a) : Ahead a (defending a claims) [.conflict claim] .idle

variable {a : IPv4} {phase : Phase} {told : List Mark} {fs : List Detection}

theorem Current.working (current : Current a phase told) : phase ≠ .idle := by
  cases current <;> simp

theorem Current.ne_nil (current : Current a phase told) : told ≠ [] := by
  cases current <;> simp [defending]

/-- What is told of a candidate is the beginning of a chapter. -/
theorem Current.chapter (current : Current a phase told) : ∃ rest, Chapter a (told ++ rest) := by
  cases current with
  | probing => exact ⟨[], .taken⟩
  | ready => exact ⟨[], .lost⟩
  | announced claims aimed =>
    exact ⟨[.queued (.conflict ⟨Packet.request, default, a⟩)], .yielded claims _ aimed rfl⟩

/-- Before its announcement, a candidate can be given up without a word. -/
theorem Current.whole (current : Current a phase told) (early : phase.isAnnounced = false) :
    Chapter a told := by
  cases current with
  | probing => exact .taken
  | ready => exact .lost
  | announced => cases early

/-- As long as the detector is at work, the story has not come to its end. -/
theorem Current.not_endsRun {policy : ConflictPolicy} (current : Current a phase told)
    (before : List Mark) : ¬ EndsRun policy (before ++ told) := by
  have open_ended {x : Mark} (last : (before ++ told).getLast? = some x) :
      x ≠ .queued .down ∧ ∀ claim, x ≠ .queued (.conflict claim) := by
    rw [List.getLast?_append_of_ne_nil _ current.ne_nil] at last
    have member := List.mem_of_getLast? last
    cases current <;> simp [defending] at member <;> grind
  rintro (down | ⟨_, claim, lost⟩)
  · exact (open_ended down).1 rfl
  · exact (open_ended lost).2 claim rfl

theorem defending_concat (a : IPv4) (claims : List Packet) (claim : Packet) :
    defending a (claims ++ [claim]) = defending a claims ++ [.queued (.defended claim)] := by
  simp [defending]

/-- Claims that are answered are ahead, before whatever comes behind them. -/
theorem ahead_defenses (claims more : List Packet)
    (later : Ahead a (defending a (claims ++ more)) fs phase) :
    Ahead a (defending a claims) (more.map .defended ++ fs) phase := by
  induction more generalizing claims with
  | nil => rwa [List.append_nil] at later
  | cons claim more ih =>
    refine .defended (ih (claims ++ [claim]) ?_)
    rwa [List.append_assoc]

/-- What a dispatch finds is ahead. -/
theorem ahead_of_outcome {p : Nat} {c : Probe} {n : Network} {r : Except DetectorFault Unit}
    (current : Current c.address (n.prober p).phase told) (outcome : Outcome p c n r fs phase) :
    Ahead c.address told fs phase := by
  cases outcome with
  | nothing => exact .none current
  | carrierLost => exact .down current
  | taken k before => exact .taken k (current.whole before)
  | succeeded undisturbed _ =>
    obtain ⟨deadline, probing, _⟩ := undisturbed.due
    rw [probing] at current
    cases current
    exact .ready
  | defended claims last before aimed =>
    rw [before] at current
    cases current with
    | announced earlier aimed' =>
      have all : ∀ k ∈ earlier ++ claims, k.target = c.address :=
        List.forall_mem_append.mpr ⟨aimed', aimed⟩
      rw [← List.append_nil (claims.map Detection.defended)]
      exact ahead_defenses earlier claims (.none (.announced _ all))
  | yielded claims k before aimed target =>
    rw [before] at current
    cases current with
    | announced earlier aimed' =>
      exact ahead_defenses earlier claims
        (.yielded (List.forall_mem_append.mpr ⟨aimed', aimed⟩) target)

/-! ## The story so far -/

/-- A host at work of which this story is told, and that has these findings yet to take. -/
structure Going (p : Nat) (policy : ConflictPolicy) (story : List Mark) (fs : List Detection)
    (h : Host Network) : Prop where
  attached : p ∈ h.world.probers.keys
  running : h.engine.state = .running
  acting : h.engine.policy = policy
  chapters : ∃ c whole current, h.engine.probe = some c ∧ (h.world.prober p).probe = some c ∧
    Chapters whole ∧ Ahead c.address current fs (h.world.prober p).phase ∧
      story = whole ++ current
  undisputed : policy = .stop → Undisputed story

/-- A host at work that has taken all findings. -/
structure AtWork (p : Nat) (policy : ConflictPolicy) (story : List Mark) (h : Host Network) :
    Prop extends Going p policy story [] h where
  taken : (h.world.prober p).found.toList = []

/-- A host at rest of which this story is told. -/
structure AtRest (p : Nat) (policy : ConflictPolicy) (story : List Mark) (h : Host Network) :
    Prop where
  attached : p ∈ h.world.probers.keys
  idle : h.engine.state = .idle
  resting : (h.world.prober p).phase = .idle
  taken : (h.world.prober p).found.toList = []
  whole : IsStory story
  conflictLast : policy = .stop → ConflictLast story

/-- The story of a host goes on by these marks: either the host is still at work, or they
have ended the run. -/
def GoesOn (p : Nat) (policy : ConflictPolicy) (story ms : List Mark) (h : Host Network) : Prop :=
  AtWork p policy (story ++ ms) h ∨ AtRest p policy (story ++ ms) h ∧ EndsRun policy ms

/-- From one state of a host to another it told these marks, and queued their events. -/
structure Telling (ms : List Mark) (h h' : Host Network) : Prop where
  told : Tells ms h.world h'.world
  queued : h'.engine.pending.toList = h.engine.pending.toList ++ events ms

variable {p : Nat} {policy : ConflictPolicy} {story ms ms' whole last rest : List Mark}
variable {h h' h'' : Host Network}

theorem Telling.nothing (told : Tells [] h.world h'.world)
    (same : h'.engine.pending = h.engine.pending) : Telling [] h h' :=
  ⟨told, by rw [same]; exact (List.append_nil _).symm⟩

theorem Telling.trans (first : Telling ms h h') (second : Telling ms' h' h'') :
    Telling (ms ++ ms') h h'' where
  told := first.told.trans second.told
  queued := by rw [second.queued, first.queued, List.append_assoc, events_append]

theorem Telling.note (telling : Telling ms h h') {x : Notice} (plain : x.mark = none) :
    Telling ms h (h'.note x) where
  told := by
    have noted := telling.told.trans (Tells.plain plain h'.world)
    rwa [List.append_nil] at noted
  queued := telling.queued

/-- Leaving the notice of an event and queueing it is telling of it. -/
theorem telling_push {x : Notice} {event : Event} (mark : x.mark = some (.queued event))
    (h : Host Network) :
    Telling [.queued event] h ⟨h.engine.push event, h.world.note x⟩ where
  told := by
    have noted := tells_note x h.world
    rwa [mark] at noted
  queued := Queue.toList_push event _

/-- A story that breaks off in a chapter. -/
theorem isStory_of_chapter (before : Chapters whole) (chapter : Chapter a (last ++ rest))
    (begun : last ≠ []) : IsStory (whole ++ last) :=
  ⟨whole, last, rest, [], a, (List.append_nil _).symm, before, chapter, begun, .inl rfl⟩

theorem AtWork.isStory (work : AtWork p policy story h) : IsStory story := by
  obtain ⟨c, whole, told, _, _, before, ahead, rfl⟩ := work.chapters
  cases ahead with
  | none current =>
    obtain ⟨rest, chapter⟩ := current.chapter
    exact isStory_of_chapter before chapter current.ne_nil

theorem AtWork.not_endsRun (work : AtWork p policy (story ++ ms) h) : ¬ EndsRun policy ms := by
  obtain ⟨c, whole, told, _, _, before, ahead, same⟩ := work.chapters
  cases ahead with
  | none current =>
    intro ends
    have all := ends.append story
    rw [same] at all
    exact current.not_endsRun whole all

/-- A probe that begins leaves its mark. -/
theorem tells_of_begun {n n' : Network} {c : Probe} (attached : p ∈ n.probers.keys)
    (begun : n.start p c = (.ok (), n')) : p ∈ n'.probers.keys ∧
      (∃ t, n'.prober p = ⟨.probing t, some c, {}⟩) ∧ Tells [.probed c.address] n n' := by
  have there : p ∈ (n.start p c).2.probers.keys := (moves_start p c n).apart.attached ▸ attached
  have tells := tells_start p c n
  rw [begun] at there tells
  rcases tells with ⟨_, told⟩ | ⟨_, failed, _⟩
  · rcases start_own attached c with ⟨_, _, failed, _⟩ | ⟨t, _, same, probing⟩
    · cases begun.symm.trans failed
    · cases begun.symm.trans same
      exact ⟨there, ⟨t, probing⟩, told⟩
  · cases failed

/-- A probe that is refused leaves no trace. -/
theorem tells_of_refused {n n' : Network} {c : Probe} {fault : DetectorFault}
    (attached : p ∈ n.probers.keys) (refused : n.start p c = (.error fault, n')) :
    p ∈ n'.probers.keys ∧ n'.prober p = n.prober p ∧ Tells [] n n' := by
  have there : p ∈ (n.start p c).2.probers.keys := (moves_start p c n).apart.attached ▸ attached
  have tells := tells_start p c n
  rw [refused] at there tells
  rcases tells with ⟨ok, _⟩ | ⟨_, _, told⟩
  · cases ok
  · rcases start_own attached c with ⟨_, _, same, kept⟩ | ⟨_, _, ok, _⟩
    · cases refused.symm.trans same
      exact ⟨there, kept, told⟩
    · cases refused.symm.trans ok

/-- A host whose detector has just begun a probe begins a chapter. -/
theorem atWork_probed {t : Nat} {c : Probe} (attached : p ∈ h.world.probers.keys)
    (running : h.engine.state = .running) (acting : h.engine.policy = policy)
    (probe : h.engine.probe = some c) (probing : h.world.prober p = ⟨.probing t, some c, {}⟩)
    (before : Chapters whole) (undisputed : policy = .stop → Undisputed whole) :
    AtWork p policy (whole ++ [.probed c.address]) h := by
  refine ⟨⟨attached, running, acting, ?_, fun stops => ?_⟩, by rw [probing]; rfl⟩
  · exact ⟨c, whole, _, probe, by rw [probing], before, .none (probing ▸ .probing t), rfl⟩
  · exact (undisputed stops).append (by simp [Undisputed])

/-- A host whose detector has stopped goes down. -/
theorem goDown_goesOn (attached : p ∈ h.world.probers.keys)
    (resting : (h.world.prober p).phase = .idle)
    (taken : (h.world.prober p).found.toList = []) (before : Chapters whole)
    (chapter : Chapter a (last ++ rest)) (begun : last ≠ [])
    (undisputed : policy = .stop → Undisputed (whole ++ last)) :
    Telling [.queued .down] h h.goDown ∧
      GoesOn p policy (whole ++ last) [.queued .down] h.goDown := by
  refine ⟨⟨tells_note .wentDown h.world, Queue.toList_push Event.down _⟩,
    .inr ⟨⟨attached, rfl, resting, taken, ?_, fun stops => ?_⟩, .inl rfl⟩⟩
  · exact ⟨whole, last, rest, [.queued .down], a, rfl, before, chapter, begun, .inr rfl⟩
  · have down : Undisputed [.queued .down] := by simp [Undisputed]
    exact ((undisputed stops).append down).conflictLast

/-- A host whose present chapter is whole begins the next one, or goes down. -/
theorem reselect_goesOn (lapsed : Lapsed p h) (acting : h.engine.policy = policy)
    (before : Chapters whole) (chapter : Chapter a last)
    (undisputed : policy = .stop → Undisputed (whole ++ last)) :
    ∃ ms, Telling ms h (h.reselect (detector p)) ∧
      GoesOn p policy (whole ++ last) ms (h.reselect (detector p)) := by
  obtain ⟨attached, running, ⟨c, probe, _⟩, resting, taken⟩ := lapsed
  have reselected := Host.reselected (detector p) h
  generalize h.reselect (detector p) = h' at reselected ⊢
  cases reselected with
  | unconfigured nothing => rw [probe] at nothing; cases nothing
  | @begun d n present begun =>
    obtain ⟨there, ⟨t, probing⟩, told⟩ := tells_of_begun attached begun
    have next : Telling [.probed h.engine.selector.next.1] h ⟨Host.passing d h.engine, n⟩ :=
      ⟨told, (List.append_nil _).symm⟩
    exact ⟨_, next.note rfl, .inl (atWork_probed
      (c := { d with address := h.engine.selector.next.1 }) there running acting rfl probing
      (before.more chapter) undisputed)⟩
  | @failed d fault n present tried =>
    obtain ⟨there, same, told⟩ := tells_of_refused attached tried
    have restless : Telling [] h ⟨Host.passing d h.engine, n⟩ := .nothing told rfl
    have begun : last ≠ [] := by cases chapter <;> simp [defending]
    rw [← List.append_nil last] at chapter
    have down := goDown_goesOn (p := p)
      (h := (⟨Host.passing d h.engine, n⟩ : Host Network).note
        (.restartFailed h.engine.selector.next.1 fault))
      there (same ▸ resting) (same ▸ taken) before chapter begun undisputed
    exact ⟨_, (restless.note rfl).trans down.1, down.2⟩

/-- A host that is stopped tells nothing more. -/
theorem stop_atRest (attached : p ∈ h.world.probers.keys) (told : IsStory story)
    (conflictLast : policy = .stop → ConflictLast story) :
    Telling [] h (h.stop (detector p)) ∧ AtRest p policy story (h.stop (detector p)) := by
  have there := (moves_stop p h.world).apart.attached ▸ attached
  have own := stop_own attached
  have stopped : Telling [] h ⟨h.engine, h.world.stop p⟩ :=
    .nothing (strokes_stop p h.world).tells rfl
  have resting : ((h.world.stop p).prober p).phase = .idle := by rw [own]
  have taken : ((h.world.stop p).prober p).found.toList = [] := by rw [own]; rfl
  simp only [Host.stop, detector]
  split
  · exact ⟨⟨(stopped.note (x := .stopped) rfl).told, stopped.queued⟩,
      ⟨there, rfl, resting, taken, told, conflictLast⟩⟩
  · exact ⟨⟨stopped.told, stopped.queued⟩, ⟨there, rfl, resting, taken, told, conflictLast⟩⟩

/-! ## Taking the findings -/

theorem GoesOn.after (goes : GoesOn p policy (story ++ ms) ms' h) :
    GoesOn p policy story (ms ++ ms') h := by
  rw [GoesOn, List.append_assoc] at goes
  exact goes.imp_right fun ⟨ended, ends⟩ => ⟨ended, ends.append ms⟩

/-- Taking one finding tells of it, and what is ahead gets less. -/
theorem react_goesOn {f : Detection}
    (going : Going p policy story (f :: (h.world.prober p).found.toList) h) :
    ∃ ms, Telling ms h (Host.react (detector p) f h) ∧
      (Going p policy (story ++ ms) (h.world.prober p).found.toList
          (Host.react (detector p) f h) ∧
        (Host.react (detector p) f h).world.prober p = h.world.prober p ∨
      GoesOn p policy story ms (Host.react (detector p) f h)) := by
  obtain ⟨attached, running, acting, ⟨c, whole, told, probe, probe', before, ahead, rfl⟩,
    undisputed⟩ := going
  generalize waiting : (h.world.prober p).found.toList = fs at ahead ⊢
  generalize standing : (h.world.prober p).phase = phase at ahead
  cases ahead with
  | ready =>
    have address : h.engine.address = some c.address := by rw [Engine.address, probe]; rfl
    simp only [Host.react, address]
    refine ⟨_, telling_push (x := .ready c.address) rfl h, .inl ⟨⟨attached, running, acting,
      ?_, fun stops => (undisputed stops).append (by simp [Undisputed])⟩, rfl⟩⟩
    refine ⟨c, whole, _, probe, probe', before, .none ?_, List.append_assoc ..⟩
    exact standing.symm ▸ Current.ready
  | @defended claims claim _ _ later =>
    refine ⟨_, telling_push (x := .defended claim) rfl h, .inl ⟨⟨attached, running, acting,
      ?_, fun stops => (undisputed stops).append (by simp [Undisputed])⟩, rfl⟩⟩
    refine ⟨c, whole, _, probe, probe', before, standing.symm ▸ later, ?_⟩
    rw [defending_concat, List.append_assoc]
  | @yielded claims claim aimed target =>
    have chapter := Chapter.yielded claims claim aimed target
    have lost := telling_push (x := .lost claim) rfl h
    simp only [Host.react]
    split
    · next reselects =>
      have next := reselect_goesOn (p := p)
        (h := ⟨h.engine.push (.conflict claim), h.world.note (.lost claim)⟩)
        ⟨attached, running, ⟨c, probe, probe'⟩, standing, waiting⟩ acting before chapter
        fun stops => by cases reselects.symm.trans (acting.trans stops)
      obtain ⟨ms, telling, goes⟩ := next
      rw [← List.append_assoc] at goes
      exact ⟨_, lost.trans telling, .inr goes.after⟩
    · next stops =>
      have told := isStory_of_chapter before
        (show Chapter c.address (_ ++ []) by rwa [List.append_nil]) (by simp [defending])
      obtain ⟨silent, ended⟩ := stop_atRest (p := p)
        (h := ⟨h.engine.push (.conflict claim), h.world.note (.lost claim)⟩) attached told
        fun stops => by
          rw [← List.append_assoc]
          exact (undisputed stops).conflictLast_concat claim
      rw [← List.append_assoc] at ended
      refine ⟨_, lost.trans silent, .inr (.inr ⟨?_, ?_⟩)⟩
      · rwa [List.append_nil]
      · exact .inr ⟨acting.symm.trans stops, claim, rfl⟩
  | taken claim chapter =>
    have silent : Telling [] h (h.note (.inUse claim)) :=
      (Telling.nothing (.refl _) rfl : Telling [] h h).note rfl
    obtain ⟨ms, telling, goes⟩ := reselect_goesOn (p := p)
      (h := h.note (.inUse claim)) ⟨attached, running, ⟨c, probe, probe'⟩, standing, waiting⟩
      acting before chapter undisputed
    exact ⟨_, silent.trans telling, .inr goes⟩
  | down current =>
    obtain ⟨rest, chapter⟩ := current.chapter
    have down := goDown_goesOn attached standing waiting before chapter current.ne_nil undisputed
    exact ⟨_, down.1, .inr down.2⟩

theorem AtWork.working (work : AtWork p policy story h) : (h.world.prober p).phase ≠ .idle := by
  obtain ⟨c, whole, told, _, _, _, ahead, _⟩ := work.chapters
  cases ahead with
  | none current => exact current.working

/-- Where nothing is left to take, and the engine knows whether its detector is at work,
nothing happens. -/
theorem settle_known (taken : (h.world.prober p).found.toList = [])
    (known : h.engine.state = .running ↔ (h.world.prober p).phase ≠ .idle) (findings : Nat) :
    Host.settle (detector p) findings h = (.ok (), h) := by
  cases findings with
  | zero => rfl
  | succ findings =>
    simp only [Host.settle, detector, poll_nil taken]
    by_cases idle : (h.world.prober p).phase = .idle
    · have rests : h.engine.state = .idle := by
        cases state : h.engine.state with
        | idle => rfl
        | running => exact absurd idle (known.mp state)
      simp only [idle, if_true, rests, reduceCtorEq, if_false]
      rw [← rests]
    · simp only [idle, if_false]

theorem AtRest.settle (ended : AtRest p policy story h) (findings : Nat) :
    Host.settle (detector p) findings h = (.ok (), h) := by
  refine settle_known ended.taken (iff_of_false ?_ (not_not.mpr ended.resting)) findings
  simp [ended.idle]

theorem GoesOn.settle (goes : GoesOn p policy story ms h) (findings : Nat) :
    Host.settle (detector p) findings h = (.ok (), h) := by
  rcases goes with work | ⟨ended, _⟩
  · exact settle_known work.taken (iff_of_true work.running work.working) findings
  · exact ended.settle findings

/-- The oldest finding is taken from the detector in silence. -/
theorem Going.poll {f : Detection} {fs : List Detection} (going : Going p policy story (f :: fs) h)
    (waiting : (h.world.prober p).found.toList = f :: fs) :
    ∃ n, (detector p).poll h.world = (.ok (.found f), n) ∧ Telling [] h ⟨h.engine, n⟩ ∧
      (n.prober p).found.toList = fs ∧ Going p policy story (f :: fs) ⟨h.engine, n⟩ := by
  obtain ⟨n, found, polled, rest, own⟩ := poll_cons going.attached waiting
  have there := (moves_poll p h.world).apart.attached ▸ going.attached
  have silent := (strokes_poll p h.world).tells
  rw [polled] at there silent
  obtain ⟨_, running, acting, chapters, undisputed⟩ := going
  refine ⟨n, polled, .nothing silent rfl, by rw [own, rest], there, running, acting, ?_,
    undisputed⟩
  simpa only [own] using chapters

/-- A host that may take one more finding than there are tells of them all. The induction is
on how many it may take. -/
theorem settle_goesOn (findings : Nat)
    (going : Going p policy story (h.world.prober p).found.toList h)
    (enough : (h.world.prober p).found.toList.length < findings) :
    ∃ ms, Telling ms h (Host.settle (detector p) findings h).2 ∧
      GoesOn p policy story ms (Host.settle (detector p) findings h).2 := by
  induction findings generalizing story h with
  | zero => omega
  | succ findings ih =>
    cases waiting : (h.world.prober p).found.toList with
    | nil =>
      rw [waiting] at going
      have goes : GoesOn p policy story [] h :=
        .inl ⟨(List.append_nil story).symm ▸ going, waiting⟩
      rw [goes.settle]
      exact ⟨[], .nothing (.refl _) rfl, goes⟩
    | cons f fs =>
      rw [waiting] at going enough
      obtain ⟨n, polled, taken, left, going⟩ := going.poll waiting
      have reacted := react_goesOn (h := ⟨h.engine, n⟩) (left.symm ▸ going)
      simp only [Host.settle, polled]
      generalize Host.react (detector p) f ⟨h.engine, n⟩ = h' at reacted ⊢
      obtain ⟨ms, telling, ⟨going, same⟩ | goes⟩ := reacted
      · rw [← same] at going left
        have fewer : (h'.world.prober p).found.toList.length < findings :=
          left ▸ Nat.lt_of_succ_lt_succ enough
        obtain ⟨ms', telling', goes⟩ := ih going fewer
        exact ⟨_, taken.trans (telling.trans telling'), goes.after⟩
      · rw [goes.settle]
        exact ⟨_, taken.trans telling, goes⟩

/-- A dispatch of a host at work tells of what the detector found. -/
theorem dispatch_goesOn (work : AtWork p policy story h) :
    ∃ ms, Telling ms h (h.dispatch (detector p)).2 ∧
      GoesOn p policy story ms (h.dispatch (detector p)).2 := by
  obtain ⟨⟨attached, running, acting, chapters, undisputed⟩, taken⟩ := work
  obtain ⟨c, whole, told, probe, probe', before, ahead, same⟩ := chapters
  obtain ⟨current⟩ := ahead
  obtain ⟨fs, phase, finds, outcome⟩ := dispatch_outcome current.working probe'
  have there := (moves_dispatch p h.world).apart.attached ▸ attached
  have silent := (strokes_dispatch p h.world).tells
  rcases eq : h.world.dispatch p with ⟨r, n⟩
  rw [eq] at finds outcome there silent
  have found : (n.prober p).found.toList = fs := by rw [finds.found, taken, List.nil_append]
  have attended : Telling [] h ⟨h.engine, n⟩ := .nothing silent rfl
  have going : Going p policy story fs ⟨h.engine, n⟩ := by
    refine ⟨there, running, acting, ⟨c, whole, told, probe, finds.probe.trans probe', before,
      ?_, same⟩, undisputed⟩
    exact finds.phase.symm ▸ ahead_of_outcome current outcome
  cases r with
  | error fault =>
    obtain rfl : fs = [] := by cases outcome; rfl
    simp only [Host.dispatch, detector, eq]
    obtain ⟨there, running, acting, chapters, undisputed⟩ := going
    refine ⟨[], attended.note rfl, .inl ?_⟩
    rw [List.append_nil]
    exact ⟨⟨there, running, acting, chapters, undisputed⟩, found⟩
  | ok u =>
    simp only [Host.dispatch, detector, eq]
    obtain ⟨ms, telling, goes⟩ := settle_goesOn (h := ⟨h.engine, n⟩)
      ((detector p).backlog n + 1) (found.symm ▸ going) (by
        rw [Queue.length_toList]
        exact Nat.lt_succ_self _)
    exact ⟨ms, attended.trans telling, goes⟩

end LinkLocal.Simulation
