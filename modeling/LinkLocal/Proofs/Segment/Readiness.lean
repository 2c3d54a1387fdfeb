import LinkLocal.Proofs.Network.Waiting
import LinkLocal.Proofs.Segment.Attending
import LinkLocal.Proofs.Segment.Overtaking
import Mathlib.Data.List.Induction

/-! Good ends of probes are sound. A detector finds its address ready at the end of its probe only,
while there is a carrier, when nobody else holds the address, and when no claim of another host to
it came in since the probe began: not before its time, whoever woke it, and with whatever else in
its mailbox. -/
namespace LinkLocal.Simulation

open Network

variable {n n' : Network} {p : Nat} {c : Probe}

/-- What a call asks of the detector at a tap, with the answer. -/
def Network.Call.exchange (p : Nat) (n : Network) : Call → Exchange
  | .start c => .start c (n.start p c).1
  | .stop => .stop
  | .dispatch => .dispatch (n.dispatch p).1
  | .poll => .poll (n.poll p).1
  | .announce policy => .announce policy (n.announce p policy).1

namespace Network

theorem proceeds_call (p : Nat) (n : Network) (call : Call) :
    Proceeds p [call.exchange p n] n (call.perform p n) := by
  cases call with
  | start c => exact proceeds_start p c n
  | stop => exact .waiting (moves_stop p n).apart.now (waits_stop p n) rfl
  | dispatch => exact .waiting (moves_dispatch p n).apart.now (waits_dispatch p n) rfl
  | poll => exact .waiting (moves_poll p n).apart.now (waits_poll p n) rfl
  | announce policy => exact .waiting (now_announce p policy n) (waits_announce p policy n) rfl

/-- Whoever finds its address ready has a probe, undisturbed, for an address that is free. -/
theorem exists_of_emits_ready (formed : WellFormed n)
    (emits : Emits p .ready n (n.dispatch p).2) :
    ∃ c, (n.prober p).probe = some c ∧ Undisturbed p c n ∧ Free c n := by
  obtain ⟨c, probe⟩ := formed.configured p emits.working
  exact ⟨c, probe, (emits_ready_iff probe).mp emits⟩

/-- A probe of the detector at a tap that began at a time and has heard these packets since: if it
still goes on, the claims among them have not been taken. -/
structure Ongoing (p : Nat) (c : Probe) (since : Nat) (heard : List Packet) (n : Network) :
    Prop where
  begins : Begins p c since n
  kept : ∀ t, (n.prober p).phase = .probing t →
    ∀ k ∈ heard, concerns c k = true → k ∈ n.link.inbox p

/-- While a probe waits, what it hears waits with it. -/
theorem Ongoing.waits {since : Nat} {heard later : List Packet}
    (ongoing : Ongoing p c since heard n) (waits : Waits p n n')
    (came : ∀ k ∈ later, k ∈ n'.link.inbox p) : Ongoing p c since (heard ++ later) n' := by
  refine ⟨ongoing.begins.waits waits, fun t probing k member concerned => ?_⟩
  obtain ⟨before, _, kept⟩ := waits t probing
  rcases List.mem_append.mp member with earlier | new
  · exact kept c (ongoing.begins t before).2 k (ongoing.kept t before k earlier concerned) concerned
  · exact came k new

end Network

namespace Segment

variable {s : Segment}

/-- What is asked of the detector at a tap in an act, with the answers, unless it is dropped. -/
def Act.exchanges (p : Nat) (s : Segment) : Act → List Exchange
  | .use q call => if q = p ∧ s.engines.get? p = none then [call.exchange p s.network] else []
  | .order q given =>
    if q = p then
      ((s.engines.get? p).map fun e => Host.exchanges (detector p) [given] ⟨e, s.network⟩).getD []
    else []
  | _ => []

/-- The last probe that the detector at a tap began in an act. -/
def Act.begun (p : Nat) (s : Segment) (act : Act) : Option Probe := lastBegun (act.exchanges p s)

/-- The packets that come into the mailbox of a tap in an act. -/
def Act.delivers (p : Nat) (s : Segment) (act : Act) : List Packet :=
  ((s.perform act).network.link.inbox p).drop (s.network.link.inbox p).length

/-- The packets that come into the mailbox of a tap when acts are done in a row. -/
def deliveries (p : Nat) : List Act → Segment → List Packet
  | [], _ => []
  | act :: acts, s => act.delivers p s ++ deliveries p acts (s.perform act)

/-- Among acts done in a row, the detector at a tap began a probe at a time, began no other one
later, and these packets have come into its mailbox since. -/
def ProbedSince (p : Nat) (c : Probe) (since : Nat) (heard : List Packet) (acts : List Act)
    (s : Segment) : Prop :=
  ∃ before begin later, acts = before ++ begin :: later ∧
    begin.begun p (after before s) = some c ∧ since = (after before s).network.now ∧
    Lawful (fun s act => act.begun p s = none) later ((after before s).perform begin) ∧
    heard = deliveries p later ((after before s).perform begin)

theorem deliveries_concat (p : Nat) (acts : List Act) (act : Act) (s : Segment) :
    deliveries p (acts ++ [act]) s = deliveries p acts s ++ act.delivers p (after acts s) := by
  induction acts generalizing s with
  | nil => exact (List.append_nil _).trans (List.nil_append _).symm
  | cons first acts ih =>
    rw [List.cons_append, deliveries, ih, deliveries, List.append_assoc]
    rfl

/-- A probe that goes on hears what comes in. -/
theorem ProbedSince.concat {since : Nat} {heard : List Packet} {acts : List Act}
    (probed : ProbedSince p c since heard acts s) {act : Act}
    (unbegun : act.begun p (after acts s) = none) :
    ProbedSince p c since (heard ++ act.delivers p (after acts s)) (acts ++ [act]) s := by
  obtain ⟨before, begin, later, rfl, begun, rfl, lawful, rfl⟩ := probed
  have reached : after (before ++ begin :: later) s =
      after later ((after before s).perform begin) := after_append before _ s
  rw [reached] at unbegun ⊢
  refine ⟨before, begin, later ++ [act], List.append_assoc .., begun, rfl, ?_, ?_⟩
  · exact Lawful.append_iff.mpr ⟨lawful, unbegun, trivial⟩
  · exact (deliveries_concat ..).symm

theorem proceeds_perform {act : Act} (about : act.about = some p) :
    Proceeds p (act.exchanges p s) s.network (s.perform act).network := by
  cases act with
  | engage q =>
    cases about
    simp only [perform]
    split
    · exact .waiting rfl ((quiet_note _ _).waits p) rfl
    · exact .waiting rfl (.refl p _) rfl
  | use q call =>
    cases about
    simp only [perform, Act.exchanges, true_and]
    split
    · exact proceeds_call p s.network call
    · exact .waiting rfl (.refl p _) rfl
  | order q given =>
    cases about
    simp only [perform, Act.exchanges, if_true]
    split
    · next none =>
      rw [none]
      exact .waiting rfl (.refl p _) rfl
    · next e engine =>
      rw [engine]
      exact proceeds_order p ⟨e, s.network⟩ given
  | drop q =>
    cases about
    have closed (n : Network) : Proceeds p [] n (n.close p) :=
      .waiting (conduct_halt p n).apart.now (.of_idle (by rw [prober_close_self])) rfl
    simp only [perform]
    split
    · exact closed s.network
    · next e _ =>
      obtain ⟨n', conduct, released⟩ := conduct_released p e s.network
      rw [released]
      have now := (closed n').now.trans conduct.apart.now
      exact .waiting now (.of_idle (by rw [prober_close_self])) rfl
  | _ => cases about

/-- In an act in which it begins no probe, a detector waits at most. -/
theorem waits_perform (formed : WellFormed s.network) {act : Act}
    (unbegun : act.begun p s = none) : Waits p s.network (s.perform act).network := by
  by_cases elsewhere : act.about ≠ some p
  · have happens := happening formed act
    exact .of_same (happens.prober elsewhere) (happens.mail elsewhere)
  · exact (proceeds_perform (Decidable.not_not.mp elsewhere)).waits unbegun

theorem about_of_begun {act : Act} (begun : act.begun p s = some c) : act.about = some p := by
  cases act with
  | use q call =>
    rw [Act.begun, Act.exchanges] at begun
    split at begun
    · next own => exact congrArg some own.1
    · cases begun
  | order q given =>
    rw [Act.begun, Act.exchanges] at begun
    split at begun
    · next own => exact congrArg some own
    · cases begun
  | _ => cases begun

/-- After acts in a row, a detector that is probing does so by the last probe that it began. -/
theorem probing_since (around : Surroundings) (p : Nat) (acts : List Act) :
    (∀ t, ((after acts ⟨⟨around, {}⟩, {}⟩).network.prober p).phase ≠ .probing t) ∨
      ∃ c since heard, ProbedSince p c since heard acts ⟨⟨around, {}⟩, {}⟩ ∧
        Ongoing p c since heard (after acts ⟨⟨around, {}⟩, {}⟩).network := by
  induction acts using List.reverseRecOn with
  | nil => exact .inl nofun
  | append_singleton acts act ih =>
    have formed := formed_after (s := ⟨⟨around, {}⟩, {}⟩) (formed_fresh around) acts
    have reached : after (acts ++ [act]) ⟨⟨around, {}⟩, {}⟩ =
        (after acts ⟨⟨around, {}⟩, {}⟩).perform act := after_append acts [act] _
    rw [reached]
    generalize earlier : after acts ⟨⟨around, {}⟩, {}⟩ = s at *
    cases begun : act.begun p s with
    | some c =>
      have begins := (proceeds_perform (about_of_begun begun)).begins c begun
      refine .inr ⟨c, s.network.now, [], ?_, begins, fun _ _ _ => nofun⟩
      exact ⟨acts, act, [], rfl, earlier.symm ▸ begun, by rw [earlier], trivial, rfl⟩
    | none =>
      have waits := waits_perform formed begun
      rcases ih with rest | ⟨c, since, heard, probed, ongoing⟩
      · exact .inl fun t probing => rest t (waits t probing).1
      · refine .inr ⟨c, since, _, probed.concat (earlier.symm ▸ begun), ?_⟩
        rw [earlier]
        exact ongoing.waits waits fun k member => List.mem_of_mem_drop member

/-- Whatever is done on a segment: when a dispatch of a detector finds its address ready, that is
the address of the last probe that the detector began, the time of the probe is over, no packet for
that address but its own has come in since the probe began, nobody else holds the address, and
there is a carrier. -/
theorem ready_is_sound (around : Surroundings) (acts : List Act) {act : Act}
    (attends : act.attending p (after acts ⟨⟨around, {}⟩, {}⟩) = some n)
    (emits : Emits p .ready n (n.dispatch p).2) :
    ∃ c since heard, ProbedSince p c since heard acts ⟨⟨around, {}⟩, {}⟩ ∧
      (n.prober p).probe = some c ∧ since + c.timeout.nanoseconds ≤ n.now ∧
      (∀ k ∈ heard, k.target = c.address → k.sender = c.mac) ∧
      (∀ m, n.link.owner c.address = some m → m = c.mac) ∧ n.link.carrier = true := by
  have formed := formed_after (s := ⟨⟨around, {}⟩, {}⟩) (formed_fresh around) acts
  have quiet := quiet_attending attends
  obtain ⟨c, probe, undisturbed, free⟩ := exists_of_emits_ready (quiet.formed formed) emits
  obtain ⟨t, probing, due⟩ := undisturbed.due
  rw [quiet.prober] at probing
  rcases probing_since around p acts with rest | ⟨d, since, heard, probed, ongoing⟩
  · exact absurd probing (rest t)
  obtain ⟨rfl, probe'⟩ := ongoing.begins t probing
  obtain rfl : d = c := Option.some.inj (probe'.symm.trans (quiet.prober p ▸ probe))
  refine ⟨d, since, heard, probed, probe, due, fun k member target => ?_, free,
    undisturbed.carrier⟩
  by_contra sender
  have concerned : concerns d k = true := by simp [concerns, target, sender]
  have held := ongoing.kept _ probing k member concerned
  rw [undisturbed.silence k (quiet.inbox p ▸ held)] at concerned
  cases concerned

/-- While a host probes an address it hears of another one and of its own, looks too early, and is
joined by a second host that probes the same address. -/
def listening : List Act :=
  [.attach, .attach, .use 0 (.start (probeBy 1)),
    .claim ⟨Packet.request, (probeBy 9).mac, .linkLocal 0x0708⟩,
    .claim ⟨Packet.reply, (probeBy 1).mac, .linkLocal 0x0707⟩, .use 0 .dispatch,
    .use 1 (.start (probeBy 2)), .pass 10000000]

theorem ready_after_listening : ∃ n,
    (Act.use 0 .dispatch).attending 0 (after listening fresh) = some n ∧
    Emits 0 .ready n (n.dispatch 0).2 ∧
    ∃ c since heard, ProbedSince 0 c since heard listening fresh ∧
      (n.prober 0).probe = some c ∧ since + c.timeout.nanoseconds ≤ n.now ∧
      (∀ k ∈ heard, k.target = c.address → k.sender = c.mac) ∧
      (∀ m, n.link.owner c.address = some m → m = c.mac) ∧ n.link.carrier = true := by
  obtain ⟨n, attends, emits⟩ : ∃ n,
      (Act.use 0 .dispatch).attending 0 (after listening fresh) = some n ∧
      Emits 0 .ready n (n.dispatch 0).2 :=
    ⟨_, rfl, [.ready], by decide +kernel, List.mem_singleton.mpr rfl⟩
  exact ⟨n, attends, emits, ready_is_sound {} listening attends emits⟩

end Segment
end LinkLocal.Simulation
