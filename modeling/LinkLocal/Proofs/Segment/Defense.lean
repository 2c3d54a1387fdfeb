import LinkLocal.Proofs.Host.Guarding
import LinkLocal.Proofs.Segment.Readiness

/-! The law of defense on a segment. From the time that a detector has announced its address, and
as long as nobody stops it or has it probe another one, all that its dispatches find is what the
claims that they take lead to, by the policy of the announcement; all that it puts on the link are
its answers; and when it yields it is at rest, and the address is not its own any more.

A detector that serves a host takes part in more than its dispatches: when it has yielded, the host
has it probe the next candidate at once, or stops it. So the last act of the time that is looked at
may begin another probe, after the claims were taken. -/
namespace LinkLocal.Simulation.Segment

open Network

variable {s : Segment} {past : List Segment} {allowed : Segment → Act → Prop}
variable {p : Nat} {c : Probe} {policy : DefendPolicy} {stance : Option (Option Nat)}

/-- The policy with which the detector at a tap announces its address in an act, if it does. -/
def Act.announces (p : Nat) (s : Segment) : Act → Option DefendPolicy
  | .use q (.announce policy) =>
    if q = p ∧ s.engines.get? p = none ∧ (s.network.announce p policy).1.isOk then some policy
    else none
  | .order q .announce =>
    if q = p ∧ (s.engines.get? p).any fun e => (Host.announce (detector p) ⟨e, s.network⟩).1.isOk
    then some .once
    else none
  | _ => none

/-- The networks in which the detector at a tap is dispatched when acts are done in a row. -/
def attendances (p : Nat) : List Act → Segment → List Network
  | [], _ => []
  | act :: acts, s => (act.attending p s).toList ++ attendances p acts (s.perform act)

/-- An act does not end the work of the detector at a tap, and has it begin no other probe. -/
def Keeping (p : Nat) (s : Segment) (act : Act) : Prop :=
  act.ends p = false ∧ act.begun p s = none

instance (p : Nat) : DecidableRel (Keeping p) := fun _ _ => inferInstanceAs (Decidable (_ ∧ _))

theorem attendances_append (p : Nat) (acts rest : List Act) (s : Segment) :
    attendances p (acts ++ rest) s = attendances p acts s ++ attendances p rest (after acts s) := by
  induction acts generalizing s with
  | nil => rfl
  | cons act acts ih =>
    rw [List.cons_append, attendances, attendances, ih, List.append_assoc]
    rfl

/-! ## What a detector at work has found -/

theorem attending_elsewhere {act : Act} (elsewhere : act.about ≠ some p) :
    act.attending p s = none := by
  cases act with
  | use q call =>
    cases call with
    | dispatch => exact if_neg fun both => elsewhere (congrArg some both.1)
    | _ => rfl
  | order q order => exact if_neg fun same => elsewhere (congrArg some same)
  | _ => rfl

theorem unstopped_perform (formed : WellFormed s.network) (before : Unstopped p s.network)
    (act : Act) : Unstopped p (s.perform act).network := by
  by_cases elsewhere : act.about ≠ some p
  · exact before.of_same ((happening formed act).prober elsewhere)
  have about := Decidable.not_not.mp elsewhere
  have keeps := keeps_unstopped p
  cases act with
  | engage q =>
    simp only [perform]
    split
    · exact before.of_same rfl
    · exact before
  | use q call =>
    cases about
    simp only [perform]
    split
    · cases call with
      | start c => exact keeps.start c _ before
      | stop => exact keeps.stop _ before
      | dispatch => exact keeps.dispatch _ before
      | poll => exact keeps.poll _ before
      | announce policy => exact unstopped_announce policy before
    · exact before
  | order q order =>
    cases about
    simp only [perform]
    split
    · exact before
    · next e _ =>
      exact Host.keeps_order keeps (fun policy _ => unstopped_announce policy) ⟨e, s.network⟩
        order before
  | drop q =>
    cases about
    have closed (n : Network) : Unstopped p (n.close p) := .of_idle (by rw [prober_close_self])
    simp only [perform]
    split
    · exact closed s.network
    · next e _ =>
      obtain ⟨n', _, released⟩ := conduct_released p e s.network
      rw [released]
      exact closed n'
  | _ => cases about

theorem Run.unstopped (run : Run allowed (s :: past)) (p : Nat) : Unstopped p s.network :=
  run.induction (g := fun s _ => Unstopped p s.network) (fun _ => .of_idle rfl)
    fun act run _ before => unstopped_perform run.wellFormed before act

/-! ## One act -/

/-- A detector that announces its address stands by it and has answered nobody yet. -/
theorem stands_of_announces {act : Act} (announces : act.announces p s = some policy) :
    ∃ c, Stands p c policy (some none) (s.perform act).network := by
  cases act with
  | use q call =>
    cases call with
    | announce policy' =>
      rw [Act.announces] at announces
      split at announces
      · next asked =>
        obtain ⟨rfl, free, ok⟩ := asked
        cases announces
        simp only [perform, free, if_true]
        exact stands_announce ok
      · cases announces
    | _ => cases announces
  | order q order =>
    cases order with
    | announce =>
      rw [Act.announces] at announces
      split at announces
      · next asked =>
        obtain ⟨rfl, ok⟩ := asked
        cases announces
        cases engine : s.engines.get? q with
        | none => rw [engine] at ok; cases ok
        | some e =>
          rw [engine, Option.any_some] at ok
          simp only [perform, engine, Host.Order.perform]
          exact stands_ordered ok
      · cases announces
    | _ => cases announces
  | _ => cases announces

/-- A call leaves a detector without a probe under way if it begins none. -/
theorem calm_call {n : Network} (calm : Calm p c n) (call : Call)
    (unbegun : lastBegun [call.exchange p n] = none) : Calm p c (call.perform p n) := by
  have keeps := keeps_abides p c
  have goes {r : Recorded Network} (abides : Abides p c ⟨n, []⟩ r)
      (asked : r.exchanges = [call.exchange p n]) : Calm p c r.world := by
    obtain ⟨xs, same, holds⟩ := abides
    obtain rfl : [call.exchange p n] = xs := asked.symm.trans same
    exact holds unbegun calm
  cases call with
  | start d => exact goes (r := ⟨(n.start p d).2, _⟩) (keeps.start d ⟨n, []⟩) rfl
  | stop => exact goes (r := ⟨n.stop p, _⟩) (keeps.stop ⟨n, []⟩) rfl
  | dispatch => exact goes (r := ⟨(n.dispatch p).2, _⟩) (keeps.dispatch ⟨n, []⟩) rfl
  | poll => exact goes (r := ⟨(n.poll p).2, _⟩) (keeps.poll ⟨n, []⟩) rfl
  | announce policy => exact calm.of_same (congrArg (prober p) (calm.refuses policy))

/-- An act leaves a detector without a probe under way if it begins none. -/
theorem calm_perform (calm : Calm p c s.network) {act : Act} (about : act.about = some p)
    (keeping : Keeping p s act) : Calm p c (s.perform act).network := by
  obtain ⟨goes, unbegun⟩ := keeping
  cases act with
  | engage q =>
    simp only [perform]
    split
    · exact calm.of_same rfl
    · exact calm
  | use q call =>
    cases about
    simp only [perform]
    split
    · next free =>
      rw [Act.begun, Act.exchanges, if_pos ⟨rfl, free⟩] at unbegun
      exact calm_call calm call unbegun
    · exact calm
  | order q order =>
    cases about
    simp only [perform]
    split
    · exact calm
    · next e engine =>
      rw [Act.begun, Act.exchanges, if_pos rfl, engine] at unbegun
      exact calm_order (h := ⟨e, s.network⟩) calm unbegun
  | drop q =>
    cases about
    simp [Act.ends] at goes
  | _ => cases about

/-- A call of a detector, apart from a stop, has it judge the claims that it takes. -/
theorem judges_call {n : Network} (before : Stands p c policy stance n) {call : Call}
    (goes : call ≠ .stop) (carrier : ∀ m ∈ attendingCall n call, m.link.carrier = true) :
    Judges p c policy stance (attendingCall n call).toList n (call.perform p n) := by
  cases call with
  | start d => exact judges_start before d
  | stop => exact absurd rfl goes
  | dispatch => exact judges_dispatch before (carrier n rfl)
  | poll =>
    refine .nothing (sends_poll p _ n) fun calm => ⟨?_, calm.2⟩
    rw [Call.perform, phase_poll]
    exact before.1
  | announce policy' =>
    have refused : (Call.announce policy').perform p n = n := before.calm.refuses policy'
    rw [refused]
    exact .refl before

/-- In an act about a detector that stands by an address, it judges the claims that it takes, if the
act does not end its work. -/
theorem judges_perform (before : Stands p c policy stance s.network)
    (unstopped : Unstopped p s.network) {act : Act} (about : act.about = some p)
    (goes : act.ends p = false) (carrier : ∀ n ∈ act.attending p s, n.link.carrier = true) :
    Judges p c policy stance (act.attending p s).toList s.network (s.perform act).network := by
  cases act with
  | engage q =>
    simp only [perform]
    split
    · exact .of_quiet before (quiet_note .created s.network)
    · exact .refl before
  | use q call =>
    cases about
    simp only [perform]
    split
    · next free =>
      have stops : call ≠ .stop := by
        rintro rfl
        simp [Act.ends] at goes
      rw [attending_use free] at carrier ⊢
      exact judges_call before stops carrier
    · next taken =>
      rw [attending_use_of_taken taken]
      exact .refl before
  | order q order =>
    cases about
    rw [attending_order] at carrier ⊢
    simp only [perform]
    cases engine : s.engines.get? p with
    | none => exact .refl before
    | some e =>
      rw [engine, Option.bind_some] at carrier
      refine judges_order (h := ⟨e, s.network⟩) before unstopped (fun stops => ?_)
        fun h attending => carrier h.world (Option.mem_map_of_mem Host.world attending)
      subst stops
      simp [Act.ends] at goes
  | drop q =>
    cases about
    simp [Act.ends] at goes
  | _ => cases about

/-! ## The law -/

/-- What the detector at a tap finds in an act. -/
def Act.found (p : Nat) (s : Segment) (act : Act) : List Detection :=
  (act.attending p s).toList.flatMap (findings p)

/-- An act obeys the law of defense for the detector at a tap. If it is about that detector, all
that is put on the link is an answer for each claim that the detector has defended against; and if
the detector yields to a claim, it is at rest then, and does not hold the address any more. -/
structure Obeys (p : Nat) (c : Probe) (s : Segment) (act : Act) : Prop where
  sends : act.about = some p →
    Sends p (announcement c) (answered (act.found p s)) s.network (s.perform act).network
  yields : ∀ n ∈ act.attending p s, ∀ k, .conflict k ∈ findings p n →
    ((n.dispatch p).2.prober p).phase = .idle ∧
      (n.dispatch p).2.link.owner c.address ≠ some c.mac

/-- In one act, a detector finds what the claims that it takes lead to from where it stands. -/
theorem obeys_perform (before : Stands p c policy stance s.network)
    (unstopped : Unstopped p s.network) {act : Act} (goes : act.ends p = false)
    (carrier : ∀ n ∈ act.attending p s, n.link.carrier = true) :
    act.found p s = stance.elim []
      (verdicts policy · ((act.attending p s).toList.flatMap (faced p c))) ∧ Obeys p c s act := by
  have stands {n : Network} (attends : act.attending p s = some n) :
      Stands p c policy stance n := before.of_same ((quiet_attending attends).prober p)
  refine ⟨?found, fun about => (judges_perform before unstopped about goes carrier).sends,
    fun n attends k lost => ?yields⟩
  case found =>
    rw [Act.found]
    cases attends : act.attending p s with
    | none => cases stance <;> rfl
    | some n =>
      simp only [Option.toList_some, List.flatMap_singleton]
      exact (dispatch_verdicts (stands attends) (carrier n attends)).1
  case yields =>
    obtain ⟨found, after, _⟩ := dispatch_verdicts (stands attends) (carrier n attends)
    rw [found] at lost
    cases stance with
    | none => cases lost
    | some last =>
      rw [Option.bind_some, lastAnswer_of_conflict lost] at after
      exact ⟨after.1, owner_of_yielded (stands attends) after (moves_dispatch p n).yielding⟩

/-- From act to act, a detector goes on from where the claims so far have left it. The induction is
on the acts. -/
theorem obeys_after (formed : WellFormed s.network) (unstopped : Unstopped p s.network)
    (before : Stands p c policy stance s.network) {acts : List Act}
    (keeping : Lawful (Keeping p) acts s)
    (carrier : ∀ n ∈ attendances p acts s, n.link.carrier = true) :
    let claims := (attendances p acts s).flatMap (faced p c)
    (attendances p acts s).flatMap (findings p) = stance.elim [] (verdicts policy · claims) ∧
      Stands p c policy (stance.bind (lastAnswer policy · claims)) (after acts s).network ∧
      Unstopped p (after acts s).network ∧ Lawful (Obeys p c) acts s := by
  induction acts generalizing s stance with
  | nil =>
    refine ⟨by cases stance <;> rfl, ?_, unstopped, trivial⟩
    exact (unanswered policy stance).symm ▸ before
  | cons act acts ih =>
    have now : ∀ n ∈ act.attending p s, n.link.carrier = true := fun n attends =>
      carrier n (List.mem_append_left _ (Option.mem_toList.mpr attends))
    obtain ⟨found, obeys⟩ := obeys_perform before unstopped keeping.1.1 now
    have stands' : Stands p c policy
        (stance.bind (lastAnswer policy · ((act.attending p s).toList.flatMap (faced p c))))
        (s.perform act).network := by
      by_cases about : act.about = some p
      · exact (judges_perform before unstopped about keeping.1.1 now).stands
          (calm_perform before.calm about keeping.1)
      · rw [attending_elsewhere about]
        exact (unanswered policy stance).symm ▸
          before.of_same ((happening formed act).prober about)
    obtain ⟨found', after', unstopped', lawful⟩ := ih (formed_perform formed act)
      (unstopped_perform formed unstopped act) stands' keeping.2
      fun n attends => carrier n (List.mem_append_right _ attends)
    rw [Act.found] at found
    simp only [attendances, List.flatMap_append, found, found']
    refine ⟨?_, ?_, unstopped', obeys, lawful⟩
    · cases stance with
      | none => rfl
      | some last => exact (verdicts_append policy last _ _).symm
    · cases stance with
      | none => exact after'
      | some last =>
        rw [Option.bind_some, lastAnswer_append]
        exact after'

/-- From the announcement of its address on, as long as nobody stops a detector or has it probe
again, and with a carrier whenever it is dispatched: its dispatches find what the claims that they
take lead to, by the policy of the announcement; it defends its address until it yields to a claim,
and not longer; and every act obeys the law of defense. The last act may begin another probe. -/
theorem defense_law (run : Run allowed (s :: past)) {begin act : Act} {acts : List Act}
    (announces : begin.announces p s = some policy)
    (keeping : Lawful (Keeping p) acts (s.perform begin)) (goes : act.ends p = false)
    (carrier : ∀ n ∈ attendances p (acts ++ [act]) (s.perform begin), n.link.carrier = true) :
    ∃ c, Stands p c policy (some none) (s.perform begin).network ∧
      (attendances p (acts ++ [act]) (s.perform begin)).flatMap (findings p) =
        verdicts policy none
          ((attendances p (acts ++ [act]) (s.perform begin)).flatMap (faced p c)) ∧
      Stands p c policy
        (lastAnswer policy none ((attendances p acts (s.perform begin)).flatMap (faced p c)))
        (after acts (s.perform begin)).network ∧
      Lawful (Obeys p c) (acts ++ [act]) (s.perform begin) := by
  obtain ⟨c, stands⟩ := stands_of_announces announces
  rw [attendances_append] at carrier ⊢
  have early := obeys_after (formed_perform run.wellFormed begin)
    (unstopped_perform run.wellFormed (run.unstopped p) begin) stands keeping
    fun n attends => carrier n (List.mem_append_left _ attends)
  obtain ⟨found, stands', unstopped', lawful⟩ := early
  have last : attendances p [act] (after acts (s.perform begin)) =
      (act.attending p (after acts (s.perform begin))).toList := List.append_nil _
  rw [last] at carrier ⊢
  obtain ⟨found', obeys⟩ := obeys_perform stands' unstopped' goes fun n attends =>
    carrier n (List.mem_append_right _ (Option.mem_toList.mpr attends))
  refine ⟨c, stands, ?_, stands', Lawful.append_iff.mpr ⟨lawful, obeys, trivial⟩⟩
  rw [Act.found] at found'
  rw [List.flatMap_append, List.flatMap_append, found, found', verdicts_append]
  rfl

/-- A host that has probed its first candidate, with another detector on its link. -/
def candidacy : List Act :=
  [.attach, .attach, .engage 0, .order 0 (.start brief), .pass 10000000, .order 0 .dispatch]

/-- Another host claims the first candidate of that host. -/
def rival : Packet := ⟨Packet.request, (probeBy 9).mac, .linkLocal 0xdee9⟩

/-- The candidate is claimed, again when the defend interval is just over, along with packets that
do not matter, and once more. -/
def contention : List Act :=
  [.claim rival, .order 0 .dispatch, .pass 10000000000, .claim ⟨Packet.request, (probeBy 9).mac,
    .linkLocal 0x0707⟩, .claim ⟨Packet.reply, (probeBy 1).mac, .linkLocal 0xdee9⟩, .claim rival,
    .order 0 .dispatch, .pass 9999999999, .claim rival, .claim rival]

/-- The host defends its candidate twice, and goes over to the next one after the third claim that
it takes. -/
theorem third_claim_wins : ∃ s past, Run (fun _ _ => True) (s :: past) ∧
    (Act.order 0 .announce).announces 0 s = some .once ∧
    Lawful (Keeping 0) contention (s.perform (.order 0 .announce)) ∧
    (attendances 0 (contention ++ [.order 0 .dispatch])
      (s.perform (.order 0 .announce))).flatMap (findings 0) =
        [.defended rival, .defended rival, .conflict rival] ∧
    ∃ c, Stands 0 c .once (some none) (s.perform (.order 0 .announce)).network ∧
      (attendances 0 (contention ++ [.order 0 .dispatch])
        (s.perform (.order 0 .announce))).flatMap (findings 0) =
        verdicts .once none ((attendances 0 (contention ++ [.order 0 .dispatch])
          (s.perform (.order 0 .announce))).flatMap (faced 0 c)) ∧
      Stands 0 c .once (lastAnswer .once none
        ((attendances 0 contention (s.perform (.order 0 .announce))).flatMap (faced 0 c)))
        (after contention (s.perform (.order 0 .announce))).network ∧
      Lawful (Obeys 0 c) (contention ++ [.order 0 .dispatch])
        (s.perform (.order 0 .announce)) := by
  obtain ⟨s, past, visited⟩ : ∃ s past, s :: past = trail candidacy fresh [] := ⟨_, _, rfl⟩
  have run : Run (fun _ _ => True) (s :: past) :=
    visited ▸ Run.trail (.fresh {}) candidacy (by decide +kernel)
  have reached : s = after candidacy fresh := by
    cases visited
    rfl
  have announces : (Act.order 0 .announce).announces 0 s = some .once := by
    rw [reached]
    decide +kernel
  have keeping : Lawful (Keeping 0) contention (s.perform (.order 0 .announce)) := by
    rw [reached]
    decide +kernel
  have carrier : ∀ n ∈ attendances 0 (contention ++ [.order 0 .dispatch])
      (s.perform (.order 0 .announce)), n.link.carrier = true := by
    rw [reached]
    decide +kernel
  have found : (attendances 0 (contention ++ [.order 0 .dispatch])
      (s.perform (.order 0 .announce))).flatMap (findings 0) =
        [.defended rival, .defended rival, .conflict rival] := by
    rw [reached]
    decide +kernel
  exact ⟨s, past, run, announces, keeping, found, defense_law run announces keeping rfl carrier⟩

end LinkLocal.Simulation.Segment
