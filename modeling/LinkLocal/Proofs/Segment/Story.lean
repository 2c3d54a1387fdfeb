import LinkLocal.Proofs.Host.Orders

/-! The story of a run. From an order that begins a run to the next one, whatever is done on
the segment, the host tells a story: a chapter for each candidate that is probed, in this
order, of which only the last one may break off, and at most one word that the link has gone
down, at the very end. The events of the story are what its owner is handed, in order, and a
host that is not stopped comes to rest exactly when it tells how the run ends. -/
namespace LinkLocal.Simulation.Segment

open Network

/-! ## What is told and handed out -/

/-- The marks that the host with the detector at a tap leaves in an act. -/
def told (p : Nat) (s : Segment) (act : Act) : List Mark :=
  match act with
  | .order q _ => if q = p then marks s.network (s.perform act).network else []
  | _ => []

/-- The events that it hands out in an act. -/
def handed (p : Nat) (s : Segment) : Act → List Event
  | .order q order =>
    if q = p then (s.engines.get? p).elim [] fun e => order.handed (detector p) ⟨e, s.network⟩
    else []
  | _ => []

/-- What there is in each of several acts in a row, one after another. -/
def gather {α : Type} (f : Segment → Act → List α) : List Act → Segment → List α
  | [], _ => []
  | act :: acts, s => f s act ++ gather f acts (s.perform act)

/-- The order that begins a run. -/
def Act.begin (p : Nat) (config : Config) : Act := .order p (.start config)

/-- An act that lets the run of a host go on: the host is not given up, and no new run
begins. -/
def Continues (p : Nat) (s : Segment) : Act → Prop
  | .drop q => q ≠ p
  | .order q order => q = p → ∀ e ∈ s.engines.get? p, ¬ order.Begins (detector p) ⟨e, s.network⟩
  | _ => True

variable {s : Segment} {past : List Segment} {allowed : Segment → Act → Prop} {p : Nat}
variable {e : Engine} {policy : ConflictPolicy} {story : List Mark} {out : List Event}
variable {config : Config} {acts : List Act}

/-- There is a host at a tap that has told this story, and of its events these were handed
out. -/
structure Narrates (p : Nat) (policy : ConflictPolicy) (story : List Mark) (out : List Event)
    (s : Segment) (e : Engine) : Prop where
  formed : WellFormed s.network
  engine : s.engines.get? p = some e
  has : HasTold p policy story ⟨e, s.network⟩
  queued : out ++ e.pending.toList = events story

/-- An act that does nothing to a host lets its story stand. -/
theorem Narrates.aside (narrates : Narrates p policy story out s e) {act : Act}
    (elsewhere : act.about ≠ some p) :
    told p s act = [] ∧ handed p s act = [] ∧
      Narrates p policy story out (s.perform act) e := by
  obtain ⟨formed, engine, has, queued⟩ := narrates
  have happens := happening formed act
  have prober := happens.prober elsewhere
  refine ⟨?_, ?_, happens.formed formed, engines_perform s act elsewhere ▸ engine, ?_, queued⟩
  · cases act with
    | order q order => exact if_neg fun same => elsewhere (congrArg some same)
    | _ => rfl
  · cases act with
    | order q order => exact if_neg fun same => elsewhere (congrArg some same)
    | _ => rfl
  · rcases has with work | ended
    · exact .inl (work.same (happens.attached elsewhere work.attached) prober rfl)
    · exact .inr (ended.same (happens.attached elsewhere ended.attached) prober ended.idle)

theorem perform_order (engine : s.engines.get? p = some e) (order : Host.Order) :
    s.perform (.order p order) = ⟨(order.perform (detector p) ⟨e, s.network⟩).world,
      s.engines.insert p (order.perform (detector p) ⟨e, s.network⟩).engine⟩ := by
  simp only [perform, engine]

theorem engine_order (engine : s.engines.get? p = some e) (order : Host.Order) :
    (s.perform (.order p order)).engines.get? p =
      some (order.perform (detector p) ⟨e, s.network⟩).engine := by
  rw [perform_order engine]
  exact Table.get?_insert_self ..

theorem told_order (engine : s.engines.get? p = some e) (order : Host.Order) :
    told p s (.order p order) =
      marks s.network (order.perform (detector p) ⟨e, s.network⟩).world := by
  rw [told, if_pos rfl, perform_order engine]

/-- An order to a host takes its story on. -/
theorem Narrates.order (narrates : Narrates p policy story out s e) {order : Host.Order}
    (same : ¬ order.Begins (detector p) ⟨e, s.network⟩) :
    ∃ e', Narrates p policy (story ++ told p s (.order p order))
      (out ++ handed p s (.order p order)) (s.perform (.order p order)) e' := by
  obtain ⟨formed, engine, has, queued⟩ := narrates
  obtain ⟨ms, passing, has'⟩ := has.order same
  have marks : told p s (.order p order) = ms :=
    (told_order engine order).trans passing.told.marks_eq
  have out' : handed p s (.order p order) = order.handed (detector p) ⟨e, s.network⟩ := by
    rw [handed, if_pos rfl, engine]
    rfl
  refine ⟨_, (happening formed _).formed formed, engine_order engine order, ?_, ?_⟩
  · rw [marks, perform_order engine]
    exact has'
  rw [out', marks, List.append_assoc, passing.queued, ← List.append_assoc, queued, events_append]

/-- Each act takes the story on, or lets it stand. -/
theorem Narrates.act (narrates : Narrates p policy story out s e) {act : Act}
    (continues : Continues p s act) :
    ∃ e', Narrates p policy (story ++ told p s act) (out ++ handed p s act)
      (s.perform act) e' := by
  by_cases elsewhere : act.about ≠ some p
  · obtain ⟨silent, nothing, narrates⟩ := narrates.aside elsewhere
    rw [silent, nothing, List.append_nil, List.append_nil]
    exact ⟨e, narrates⟩
  have about := Decidable.not_not.mp elsewhere
  have stands (same : s.perform act = s) (silent : told p s act = [])
      (nothing : handed p s act = []) : ∃ e', Narrates p policy (story ++ told p s act)
        (out ++ handed p s act) (s.perform act) e' := by
    rw [silent, nothing, List.append_nil, List.append_nil, same]
    exact ⟨e, narrates⟩
  cases act with
  | engage q =>
    cases about
    exact stands (if_neg fun free => by rw [narrates.engine] at free; cases free.2) rfl rfl
  | use q call =>
    cases about
    exact stands (if_neg fun free => by rw [narrates.engine] at free; cases free) rfl rfl
  | order q order =>
    cases about
    exact narrates.order (continues rfl e narrates.engine)
  | drop q =>
    cases about
    exact absurd rfl continues
  | _ => cases about

/-- The induction is on the acts that are still to come. -/
theorem Narrates.run (narrates : Narrates p policy story out s e)
    (lawful : Lawful (Continues p) acts s) :
    ∃ e', Narrates p policy (story ++ gather (told p) acts s) (out ++ gather (handed p) acts s)
      (after acts s) e' := by
  induction acts generalizing story out s e with
  | nil =>
    simp only [gather, List.append_nil]
    exact ⟨e, narrates⟩
  | cons act acts ih =>
    obtain ⟨e', narrates⟩ := narrates.act lawful.1
    rw [gather, gather, ← List.append_assoc, ← List.append_assoc]
    exact ih narrates lawful.2

/-- A run begins with a story of its first probe. -/
theorem narrates_begin (run : Run allowed (s :: past)) (engine : s.engines.get? p = some e)
    (begins : (Host.start (detector p) config ⟨e, s.network⟩).1 = .ok ()) :
    ∃ e', Narrates p config.conflictPolicy (told p s (.begin p config)) []
      (s.perform (.begin p config)) e' := by
  obtain ⟨telling, none, work⟩ := start_atWork (h := ⟨e, s.network⟩) (run.serving engine) begins
  have marks : told p s (.begin p config) = [.probed (Host.firstCandidate config).1] :=
    (told_order engine (.start config)).trans telling.told.marks_eq
  rw [marks]
  refine ⟨_, (happening run.wellFormed _).formed run.wellFormed,
    engine_order engine (.start config), ?_, ?_⟩
  · rw [Act.begin, perform_order engine]
    exact .inl work
  · exact telling.queued.trans (congrArg (· ++ _) none)

/-! ## The story of a run -/

/-- From an order that begins a run to the next one, the events that a host queues are those of
a story, in which nothing follows a conflict if the policy is to stop; and any order but a stop
turns the host from running to idle exactly if it tells how the run ends. -/
theorem run_tells_story (run : Run allowed (s :: past)) (engine : s.engines.get? p = some e)
    (begins : (Host.start (detector p) config ⟨e, s.network⟩).1 = .ok ())
    (lawful : Lawful (Continues p) acts (s.perform (.begin p config))) :
    IsStory (gather (told p) (.begin p config :: acts) s) ∧
      (config.conflictPolicy = .stop →
        ConflictLast (gather (told p) (.begin p config :: acts) s)) ∧
      ∃ e', (after (.begin p config :: acts) s).engines.get? p = some e' ∧
        gather (handed p) acts (s.perform (.begin p config)) ++ e'.pending.toList =
          events (gather (told p) (.begin p config :: acts) s) ∧
        (e'.state = .running → ∀ order, order ≠ .stop → ∃ e'',
          ((after (.begin p config :: acts) s).perform (.order p order)).engines.get? p = some e'' ∧
            (e''.state = .idle ↔ EndsRun config.conflictPolicy
              (told p (after (.begin p config :: acts) s) (.order p order)))) := by
  obtain ⟨e₁, narrates⟩ := narrates_begin run engine begins
  obtain ⟨e', narrates⟩ := narrates.run lawful
  rw [after_cons, gather]
  refine ⟨?_, fun stops => ?_, e', narrates.engine, narrates.queued, fun running order goes => ?_⟩
  · exact narrates.has.elim AtWork.isStory AtRest.whole
  · rcases narrates.has with work | ended
    · exact (work.undisputed stops).conflictLast
    · exact ended.conflictLast stops
  · rcases narrates.has with work | ended
    · refine ⟨_, engine_order narrates.engine order, ?_⟩
      rw [told_order narrates.engine]
      exact work.idle_iff goes
    · cases ended.idle.symm.trans running

/-- A host with an engine, before its first run. -/
def equipped : Segment := after [.attach, .engage 0] fresh

/-- A claim of another host to the address that this one probes first. -/
def rivalClaim : Packet := ⟨Packet.request, (probeBy 9).mac, .linkLocal 0xdee9⟩

/-- The host defends its address once and then loses it, and while it probes the next one the
link goes down. -/
def defeat : List Act :=
  [.pass 10000000, .order 0 .dispatch, .order 0 .pop, .order 0 .announce,
    .claim rivalClaim, .order 0 .dispatch, .claim rivalClaim, .order 0 .dispatch,
    .carrier false]

/-- What it tells until then. -/
def defeatStory : List Mark :=
  [.probed (.linkLocal 0xdee9), .queued (.ready (.linkLocal 0xdee9)), .announced,
    .queued (.defended rivalClaim), .queued (.conflict rivalClaim), .probed (.linkLocal 0xf3ec)]

/-- The story of a defeat has two chapters, and ends when the host learns that the link has
gone down. -/
theorem defeat_is_story : ∃ past, Run (fun _ _ => True) (equipped :: past) ∧
    equipped.engines.get? 0 = some {} ∧
    (Host.start (detector 0) brief ⟨{}, equipped.network⟩).1 = .ok () ∧
    Lawful (Continues 0) defeat (equipped.perform (.begin 0 brief)) ∧ IsStory defeatStory ∧
    ∃ e', (after (.begin 0 brief :: defeat) equipped).engines.get? 0 = some e' ∧
      .ready (.linkLocal 0xdee9) :: e'.pending.toList =
        [.ready (.linkLocal 0xdee9), .defended rivalClaim, .conflict rivalClaim] ∧
      ∃ e'', ((after (.begin 0 brief :: defeat) equipped).perform
          (.order 0 .dispatch)).engines.get? 0 = some e'' ∧
        (e''.state = .idle ↔ EndsRun .reselect [.queued .down]) := by
  have run : Run (fun _ _ => True) (trail [.attach, .engage 0] fresh []) :=
    Run.trail (.fresh {}) _ (by simp [Lawful])
  have engine : equipped.engines.get? 0 = some {} := by decide +kernel
  have begins : (Host.start (detector 0) brief ⟨{}, equipped.network⟩).1 = .ok () := by
    decide +kernel
  have lawful : Lawful (Continues 0) defeat (equipped.perform (.begin 0 brief)) := by
    simp [defeat, Lawful, Continues, Host.Order.Begins]
  have story : gather (told 0) (.begin 0 brief :: defeat) equipped = defeatStory := by
    decide +kernel
  have popped : gather (handed 0) defeat (equipped.perform (.begin 0 brief)) =
      [.ready (.linkLocal 0xdee9)] := by
    decide +kernel
  have down : told 0 (after (.begin 0 brief :: defeat) equipped) (.order 0 .dispatch) =
      [.queued .down] := by
    decide +kernel
  have running : ((after (.begin 0 brief :: defeat) equipped).engines.get? 0).map Engine.state =
      some .running := by
    decide +kernel
  have tells := run_tells_story (s := equipped) run engine begins lawful
  rw [story, popped] at tells
  obtain ⟨isStory, _, e', engine', queued, rests⟩ := tells
  rw [engine'] at running
  have last := rests (Option.some.inj running) .dispatch (by simp)
  rw [down] at last
  exact ⟨_, run, engine, begins, lawful, isStory, e', engine', queued, last⟩

end LinkLocal.Simulation.Segment
