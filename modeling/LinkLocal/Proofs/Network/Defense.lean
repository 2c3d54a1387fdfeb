import LinkLocal.Proofs.Network.Findings

/-! The law of defense. A detector that has announced its address judges the claims of other hosts
to it one by one, in the order in which it takes them: each one is answered, as its policy and the
time of the last answer have it, until the first that is not; to that one it yields, and what comes
later does not concern it any more. A batch of claims is judged at one instant, so that the last
answer moves along the batch.

What it puts on the link is told apart from what others put there by relating the networks before
and after its work: the log and the mailboxes of the others have grown by its answers, and by
nothing else. -/
namespace LinkLocal

def Detection.isDefended : Detection → Bool
  | .defended _ => true
  | _ => false

namespace Simulation

/-! ## Judging claims -/

/-- Whether a policy has a claim answered at a time, with the time of the last answer since the
announcement, if there was one. -/
def Answers : DefendPolicy → Option Nat → Nat → Prop
  | .never, _, _ => False
  | .once, last, time => ∀ t ∈ last, t + defendInterval.nanoseconds ≤ time
  | .always, _, _ => True

instance : (policy : DefendPolicy) → (last : Option Nat) → (time : Nat) →
    Decidable (Answers policy last time)
  | .never, _, _ => inferInstanceAs (Decidable False)
  | .once, last, time =>
    inferInstanceAs (Decidable (∀ t ∈ last, t + defendInterval.nanoseconds ≤ time))
  | .always, _, _ => inferInstanceAs (Decidable True)

/-- The findings that claims lead to, each with the time at which it is taken. -/
def verdicts (policy : DefendPolicy) : Option Nat → List (Nat × Packet) → List Detection
  | _, [] => []
  | last, (time, k) :: claims =>
    if Answers policy last time then .defended k :: verdicts policy (some time) claims
    else [.conflict k]

/-- The time of the last answer after claims were judged, unless one of them was yielded to. -/
def lastAnswer (policy : DefendPolicy) :
    Option Nat → List (Nat × Packet) → Option (Option Nat)
  | last, [] => some last
  | last, (time, _) :: claims =>
    if Answers policy last time then lastAnswer policy (some time) claims else none

/-- How many claims were answered, by the findings. -/
def answered (fs : List Detection) : Nat := fs.countP Detection.isDefended

theorem answered_defended (k : Packet) (fs : List Detection) :
    answered (.defended k :: fs) = answered fs + 1 := List.countP_cons_of_pos rfl

theorem answers_iff (policy : DefendPolicy) (last : Option Nat) (now : Nat) :
    Network.defends policy last now = true ↔ Answers policy last now := by
  have long : 0 < defendInterval.nanoseconds := by decide
  cases policy with
  | never => simp [Network.defends, Answers]
  | always => simp [Network.defends, Answers]
  | once =>
    cases last with
    | none => simp [Network.defends, Answers]
    | some t => simp [Network.defends, Answers]; omega

/-- Judging goes on from the last answer, or not at all. -/
theorem verdicts_append (policy : DefendPolicy) (last : Option Nat)
    (claims later : List (Nat × Packet)) : verdicts policy last (claims ++ later) =
      verdicts policy last claims ++
        (lastAnswer policy last claims).elim [] (verdicts policy · later) := by
  induction claims generalizing last with
  | nil => rfl
  | cons claim claims ih =>
    obtain ⟨time, k⟩ := claim
    simp only [List.cons_append, verdicts, lastAnswer]
    split
    · rw [ih, List.cons_append]
    · rfl

theorem lastAnswer_append (policy : DefendPolicy) (last : Option Nat)
    (claims later : List (Nat × Packet)) : lastAnswer policy last (claims ++ later) =
      (lastAnswer policy last claims).bind (lastAnswer policy · later) := by
  induction claims generalizing last with
  | nil => rfl
  | cons claim claims ih =>
    obtain ⟨time, k⟩ := claim
    simp only [List.cons_append, lastAnswer]
    split
    · exact ih _
    · rfl

/-- Without a claim, nothing changes. -/
theorem unanswered (policy : DefendPolicy) (stance : Option (Option Nat)) :
    stance.bind (lastAnswer policy · []) = stance := by
  cases stance <;> rfl

/-- Whoever yields to a claim does not go on. -/
theorem lastAnswer_of_conflict {policy : DefendPolicy} {last : Option Nat}
    {claims : List (Nat × Packet)} {k : Packet}
    (lost : .conflict k ∈ verdicts policy last claims) : lastAnswer policy last claims = none := by
  induction claims generalizing last with
  | nil => cases lost
  | cons claim claims ih =>
    obtain ⟨time, k'⟩ := claim
    simp only [verdicts, lastAnswer] at lost ⊢
    split at lost
    · next answers =>
      rw [if_pos answers]
      exact ih ((List.mem_cons.mp lost).resolve_left nofun)
    · next yields => rw [if_neg yields]

namespace Network

variable {n n' n'' : Network} {p : Nat} {c : Probe} {k : Packet} {policy : DefendPolicy}
variable {last : Option Nat} {stance : Option (Option Nat)}

/-! ## Putting packets on the link -/

/-- From one network to another, the detector at a tap has put so many copies of a packet on the
link, and nobody anything else: they are in the log, and in every mailbox but its own. -/
structure Sends (p : Nat) (k : Packet) (copies : Nat) (n n' : Network) : Prop where
  taps : n'.link.taps.keys = n.link.taps.keys
  log : n'.link.log.latest =
    (List.replicate copies k ++ n.link.log.latest).take PacketLog.capacity
  mail : ∀ q, q ≠ p → n'.link.inbox q =
    n.link.inbox q ++ if q ∈ n.link.taps.keys then List.replicate copies k else []

theorem Sends.nothing (taps : n'.link.taps.keys = n.link.taps.keys)
    (log : n'.link.log = n.link.log) (mail : ∀ q, q ≠ p → n'.link.inbox q = n.link.inbox q) :
    Sends p k 0 n n' := by
  refine ⟨taps, ?_, fun q other => ?_⟩
  · rw [log]
    exact (List.take_of_length_le (List.length_take_le ..)).symm
  · rw [mail q other]
    simp

theorem Sends.refl (p : Nat) (k : Packet) (n : Network) : Sends p k 0 n n :=
  .nothing rfl rfl fun _ _ => rfl

theorem Sends.trans {copies more : Nat} (first : Sends p k copies n n')
    (second : Sends p k more n' n'') : Sends p k (copies + more) n n'' := by
  refine ⟨second.taps.trans first.taps, ?_, fun q other => ?_⟩
  · rw [second.log, first.log, take_append_take, Nat.add_comm copies,
      ← List.replicate_append_replicate, List.append_assoc]
  · rw [second.mail q other, first.mail q other, first.taps, List.append_assoc]
    split
    · rw [List.replicate_append_replicate]
    · rfl

theorem Quiet.sends (quiet : Quiet n n') (p : Nat) (k : Packet) : Sends p k 0 n n' :=
  .nothing quiet.taps quiet.log fun q _ => quiet.inbox q

theorem sends_onProber (p : Nat) (k : Packet) (f : Prober → Prober) (n : Network) :
    Sends p k 0 n (n.onProber p f) := .nothing rfl rfl fun _ _ => rfl

theorem sends_collect (p : Nat) (k : Packet) (n : Network) :
    Sends p k 0 n (n.onLink (.clearInbox p)) :=
  .nothing (Table.keys_modify ..) rfl fun q other =>
    (Link.inbox_clearInbox n.link p q).trans (if_neg (Ne.symm other))

theorem sends_halt (p : Nat) (k : Packet) (n : Network) : Sends p k 0 n (n.halt p) := by
  have given : Sends p k 0 n (n.giveUp p) := by
    refine .nothing (congrArg Table.keys (giveUp_taps p n)) ?_ fun q _ => ?_
    · unfold giveUp
      split
      · simp only [onLink, Link.giveUp]; split <;> rfl
      · rfl
    · rw [Link.inbox, Link.inbox, giveUp_taps]
  exact (given.trans (sends_onProber p k _ _)).trans ((quiet_halt p n).sends p k)

theorem sends_send (p : Nat) (k : Packet) (n : Network) : Sends p k 1 n (n.send p k) := by
  refine ⟨(still_send p k n).taps, ?_, fun q other => ?_⟩
  · rw [send, log_deliverAll]
    exact PacketLog.latest_record k n.link.log
  · rw [inbox_send]
    by_cases attached : q ∈ n.link.taps.keys <;> simp [other, attached]

/-- Whatever a start comes to, it sends nothing. -/
theorem sends_start (p : Nat) (k : Packet) (c : Probe) (n : Network) :
    Sends p k 0 n (n.start p c).2 := by
  have armed : Quiet n (n.arm p c.timeout.nanoseconds).2 := quiet_setTimer p _ n
  unfold start
  split
  · exact .refl p k n
  split
  · exact .refl p k n
  split
  · exact .refl p k n
  split
  · exact .refl p k n
  rcases eq : n.arm p c.timeout.nanoseconds with ⟨fault | _, n'⟩ <;> rw [eq] at armed
  · exact armed.sends p k
  · have begun := ((armed.sends p k).trans (sends_collect p k n')).trans
      (sends_onProber p k (fun _ => ⟨.probing (n'.now + c.timeout.nanoseconds), some c, {}⟩) _)
    exact begun.trans ((quiet_note _ _).sends p k)

theorem sends_stop (p : Nat) (k : Packet) (n : Network) : Sends p k 0 n (n.stop p) :=
  (sends_halt p k n).trans (sends_onProber p k _ _)

theorem sends_poll (p : Nat) (k : Packet) (n : Network) : Sends p k 0 n (n.poll p).2 := by
  unfold poll
  split <;> exact .nothing rfl rfl fun _ _ => rfl

/-! ## Standing by an address -/

/-- The phase of a detector that defends by a policy, with the time of the last answer, or that has
yielded. -/
def stands (policy : DefendPolicy) : Option (Option Nat) → Phase
  | some last => .announced policy last
  | none => .idle

theorem stands_ne_probing (policy : DefendPolicy) (stance : Option (Option Nat)) (t : Nat) :
    stands policy stance ≠ .probing t := by
  cases stance <;> nofun

/-- The detector at a tap defends the address of its probe by a policy, with the time of the last
answer, or it has yielded. -/
def Stands (p : Nat) (c : Probe) (policy : DefendPolicy) (stance : Option (Option Nat))
    (n : Network) : Prop :=
  (n.prober p).phase = stands policy stance ∧ (n.prober p).probe = some c

theorem Stands.of_same (before : Stands p c policy stance n) (same : n'.prober p = n.prober p) :
    Stands p c policy stance n' := by
  rwa [Stands, same]

theorem Stands.announced (before : Stands p c policy (some last) n) : Announced p c n :=
  ⟨by rw [before.1]; rfl, before.2⟩

/-- The claims that the detector at a tap takes when it is dispatched, each with the time. -/
def faced (p : Nat) (c : Probe) (n : Network) : List (Nat × Packet) :=
  if (n.dispatch p).1.isOk then ((n.link.inbox p).filter (concerns c)).map (n.now, ·) else []

/-- What the detector at a tap finds when it is dispatched. -/
def findings (p : Nat) (n : Network) : List Detection :=
  ((n.dispatch p).2.prober p).found.toList.drop (n.prober p).found.toList.length

theorem findings_eq {fs : List Detection} {phase : Phase}
    (found : (n.prober p).Finds fs phase ((n.dispatch p).2.prober p)) : findings p n = fs := by
  rw [findings, found.found, List.drop_left]

/-- One claim is answered and sent one answer for, or yielded to in silence. -/
theorem face_verdict (phase : (n.prober p).phase = .announced policy last) (k : Packet) :
    (Answers policy last n.now ∧
      (n.prober p).Finds [.defended k] (.announced policy (some n.now)) ((n.face p c k).prober p) ∧
      Sends p (announcement c) 1 n (n.face p c k) ∧ (n.face p c k).now = n.now) ∨
    ¬ Answers policy last n.now ∧
      (n.prober p).Finds [.conflict k] .idle ((n.face p c k).prober p) ∧
      Sends p (announcement c) 0 n (n.face p c k) := by
  have attached : p ∈ n.probers.keys := attached_of_working (by simp [phase])
  simp only [face, phase, answers_iff]
  split
  · next answers =>
    refine .inl ⟨answers, finds_send attached _ _ _ _, ?_, ?_⟩
    · exact (((sends_onProber p _ _ n).trans (sends_send p _ _)).trans
        ((quiet_note _ _).sends p _)).trans (sends_onProber p _ _ _)
    · exact (still_send p _ _).now
  · next yields =>
    refine .inr ⟨yields, finds_halt (n := n.note (.yielded k)) attached _, ?_⟩
    exact (((quiet_note _ n).sends p _).trans (sends_onProber p _ _ _)).trans (sends_halt p _ _)

/-- A batch of packets, judged at one instant. The induction is on the batch; the last answer moves
along. -/
theorem attend_verdicts (phase : (n.prober p).phase = .announced policy last)
    (ks : List Packet) :
    let claims := (ks.filter (concerns c)).map (n.now, ·)
    (n.prober p).Finds (verdicts policy last claims) (stands policy (lastAnswer policy last claims))
      ((n.attend p c ks).prober p) ∧
    Sends p (announcement c) (answered (verdicts policy last claims)) n (n.attend p c ks) := by
  induction ks generalizing n last with
  | nil => exact ⟨⟨phase, rfl, (List.append_nil _).symm⟩, .refl p _ n⟩
  | cons k ks ih =>
    simp only [attend_cons, List.filter_cons]
    split
    · next concerned =>
      simp only [List.map_cons, verdicts, lastAnswer]
      rcases face_verdict (c := c) phase k with
        ⟨answers, found, sends, now⟩ | ⟨yields, found, sends⟩
      · obtain ⟨found', sends'⟩ := ih found.phase
        rw [now] at found' sends'
        rw [if_pos answers, if_pos answers]
        refine ⟨found.trans found', ?_⟩
        rw [answered_defended, Nat.add_comm]
        exact sends.trans sends'
      · rw [if_neg yields, if_neg yields, attend_idle found.phase]
        exact ⟨found, sends⟩
    · exact ih phase

/-- A detector that defends takes the packets out of its mailbox and judges them. -/
theorem collect_verdicts (phase : (n.prober p).phase = .announced policy last) (quiet : Quiet n n') :
    let claims := ((n.link.inbox p).filter (concerns c)).map (n.now, ·)
    let m := (n'.onLink (.clearInbox p)).attend p c (n.link.inbox p)
    (n.prober p).Finds (verdicts policy last claims) (stands policy (lastAnswer policy last claims))
      (m.prober p) ∧
    Sends p (announcement c) (answered (verdicts policy last claims)) n m := by
  have collected := (quiet.sends p (announcement c)).trans (sends_collect p _ n')
  generalize taken : n'.onLink (.clearInbox p) = m at collected
  have same : m.prober p = n.prober p := taken ▸ quiet.prober p
  have now : m.now = n.now := taken ▸ quiet.now
  obtain ⟨found, sends⟩ := attend_verdicts (c := c) (same.symm ▸ phase) (n.link.inbox p)
  rw [now] at found sends
  have sent := collected.trans sends
  rw [Nat.zero_add] at sent
  exact ⟨same ▸ found, sent⟩

/-- A dispatch of a detector that defends, or has yielded: it judges the claims in its mailbox from
where it stands, sends an answer for each that it defends against, and nothing else; and if it
yields, its address is not its own any more. -/
theorem dispatch_verdicts (before : Stands p c policy stance n)
    (carrier : n.link.carrier = true) :
    findings p n = stance.elim [] (verdicts policy · (faced p c n)) ∧
      Stands p c policy (stance.bind (lastAnswer policy · (faced p c n))) (n.dispatch p).2 ∧
      Sends p (announcement c) (answered (findings p n)) n (n.dispatch p).2 := by
  obtain ⟨phase, probe⟩ := before
  suffices judged : (n.prober p).Finds (stance.elim [] (verdicts policy · (faced p c n)))
      (stands policy (stance.bind (lastAnswer policy · (faced p c n))))
      ((n.dispatch p).2.prober p) ∧
      Sends p (announcement c) (answered (stance.elim [] (verdicts policy · (faced p c n)))) n
        (n.dispatch p).2 by
    obtain ⟨found, sends⟩ := judged
    rw [findings_eq found]
    exact ⟨rfl, ⟨found.phase, found.probe.trans probe⟩, sends⟩
  rcases eq : n.dispatch p with ⟨r, n'⟩
  cases dispatched eq with
  | fault drained =>
    have none : faced p c n = [] := by rw [faced, eq]; rfl
    have quiet := quiet_of_drained drained
    rw [none]
    cases stance with
    | none => exact ⟨phase ▸ .nothing (quiet.prober p), quiet.sends p _⟩
    | some last => exact ⟨phase ▸ .nothing (quiet.prober p), quiet.sends p _⟩
  | @resting _ n₁ drained idle =>
    have quiet := quiet_of_drained drained
    cases stance with
    | none =>
      exact ⟨phase ▸ .nothing (quiet.prober p), (quiet.sends p _).trans (sends_collect p _ n₁)⟩
    | some last => cases phase.symm.trans idle
  | unconfigured _ _ nothing => cases probe.symm.trans nothing
  | carrierless _ _ _ lost => cases carrier.symm.trans lost
  | @attended _ n₁ d drained working probe' _ =>
    obtain rfl : c = d := Option.some.inj (probe.symm.trans probe')
    cases stance with
    | none => exact absurd phase working
    | some last =>
      obtain ⟨found, sends⟩ := collect_verdicts (c := c) phase (quiet_of_drained drained)
      rw [conclude_of_not_probing fun t => found.phase ▸ stands_ne_probing policy _ t] at eq ⊢
      have facing : faced p c n = ((n.link.inbox p).filter (concerns c)).map (n.now, ·) := by
        rw [faced, eq]
        rfl
      rw [facing]
      exact ⟨found, sends⟩

/-- Whoever yields holds the address no more. -/
theorem owner_of_yielded (before : Stands p c policy (some last) n)
    (after : Stands p c policy none n') (yielding : Yielding n n') :
    n'.link.owner c.address ≠ some c.mac :=
  yielding.left p c before.announced (not_announced_of_idle after.1)

end Network
end Simulation
end LinkLocal
