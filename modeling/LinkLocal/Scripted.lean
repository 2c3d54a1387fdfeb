import LinkLocal.Detector
import LinkLocal.Queue

/-!
A detector that answers from a script: what its probes find, what it reports besides, and which of
its calls fail are laid down in advance, and it keeps a record of how it was used.
-/
namespace LinkLocal

namespace Scripted

/-- Where a scripted detector is between a probe and its announcement. -/
inductive Phase where
  | idle
  | probing
  | ready
  | announced
  deriving DecidableEq, Repr

def Phase.title : Phase → String
  | .idle => "Init"
  | .probing => "Probing"
  | .ready => "Ready"
  | .announced => "Announced"

/-- What a dispatch makes of a probe. -/
inductive Outcome where
  | ready
  | used (holder : LinkAddress)
  | pending
  deriving DecidableEq, Repr

/-- The calls that a script can make fail. -/
inductive Call where
  | start
  | dispatch
  | poll
  | announce
  deriving DecidableEq, Repr

/-- Failures that are laid down together. -/
structure Failure where
  call : Call
  fault : DetectorFault
  count : Nat
  deriving DecidableEq, Repr

/-- A finding that the script puts in. One that is raw leaves the phase as it is. -/
structure Injection where
  found : Detection
  raw : Bool
  deriving DecidableEq, Repr

end Scripted

open Scripted in
/-- The script of a detector and the record of its use. -/
structure Scripted where
  /-- Where the detector is. -/
  phase : Phase := .idle
  /-- Whether its descriptor is readable. -/
  awake : Bool := false
  /-- Whether it was told that the descriptor is readable since it was made so. -/
  told : Bool := false
  /-- What the coming probes find. After the last of them every probe ends well. -/
  outcomes : Queue Outcome := {}
  /-- What the next dispatch reports besides. -/
  injected : Queue Injection := {}
  /-- What was found and not yet taken. -/
  events : Queue Detection := {}
  /-- The coming failures, those that come first in front. -/
  failures : List Failure := []
  /-- Every probe that was begun, oldest first. -/
  starts : List Probe := []
  /-- Every policy that was announced with, oldest first. -/
  announces : List DefendPolicy := []
  /-- How often it was stopped. -/
  stops : Nat := 0
  /-- How often it was dispatched. -/
  dispatches : Nat := 0
  /-- How many detectors follow this script now. -/
  live : Nat := 0
  deriving DecidableEq, Repr

namespace Scripted

/-- The next failure of a call among those laid down, and those that are left then. -/
def Failure.take (call : Call) : List Failure → Option DetectorFault × List Failure
  | [] => (none, [])
  | f :: rest =>
    if f.call = call then
      (some f.fault, if f.count ≤ 1 then rest else { f with count := f.count - 1 } :: rest)
    else let (fault?, rest) := take call rest; (fault?, f :: rest)

/-- The next failure of a call, if one is laid down, taken out of the script. -/
def takeFailure (call : Call) (s : Scripted) : Option DetectorFault × Scripted :=
  let (fault?, failures) := Failure.take call s.failures
  (fault?, { s with failures })

def wake (s : Scripted) : Scripted := { s with awake := true, told := false }

def start (p : Probe) (s : Scripted) : Except DetectorFault Unit × Scripted :=
  if s.phase ≠ .idle then (.error .busy, s)
  else match s.takeFailure .start with
    | (some fault, s) => (.error fault, s)
    | (none, s) =>
      (.ok (), { s with starts := s.starts ++ [p], phase := .probing }.wake)

def stop (s : Scripted) : Scripted := { s with stops := s.stops + 1, phase := .idle }

def resolve (s : Scripted) : Scripted :=
  match s.phase, s.starts.getLast? with
  | .probing, some p =>
    let (outcome, outcomes) := s.outcomes.pop?.getD (.ready, {})
    let rest := { s with outcomes }
    match outcome with
    | .ready => { rest with phase := .ready, events := s.events.push .ready }
    | .used holder =>
      { rest with
        phase := .idle
        events := s.events.push (.used ⟨Packet.request, holder, p.address⟩) }
    | .pending => rest
  | _, _ => s

/-- The phase after a finding that the script puts in. -/
def phaseAfter (i : Injection) (phase : Phase) : Phase :=
  if i.raw then phase
  else match i.found with
    | .conflict _ | .used _ | .down => .idle
    | .ready => .ready
    | .defended _ => phase

def report (s : Scripted) : Scripted :=
  { s with
    phase := s.injected.toList.foldl (fun phase i => phaseAfter i phase) s.phase
    events := s.injected.toList.foldl (fun events i => events.push i.found) s.events
    injected := {} }

def dispatch (s : Scripted) : Except DetectorFault Unit × Scripted :=
  match takeFailure .dispatch { s with awake := false, dispatches := s.dispatches + 1 } with
  | (some fault, s) => (.error fault, s)
  | (none, s) => (.ok (), s.resolve.report)

def poll (s : Scripted) : Except DetectorFault Poll × Scripted :=
  match s.takeFailure .poll with
  | (some fault, s) => (.error fault, s)
  | (none, s) =>
    match s.events.pop? with
    | some (found, rest) => (.ok (.found found), { s with events := rest })
    | none => (.ok (if s.phase = .idle then .stopped else .done), s)

def announce (policy : DefendPolicy) (s : Scripted) : Except DetectorFault Unit × Scripted :=
  if s.phase ≠ .ready then (.error .busy, s)
  else match s.takeFailure .announce with
    | (some fault, s) => (.error fault, s)
    | (none, s) => (.ok (), { s with announces := s.announces ++ [policy], phase := .announced })

def close (s : Scripted) : Scripted := { s with live := s.live - 1 }

def join (s : Scripted) : Scripted := { s with live := s.live + 1 }

def detector : Detector Scripted where
  start := start
  stop := stop
  dispatch := dispatch
  poll := poll
  announce := announce
  close := close
  readable s := s.awake
  hasNews s := s.awake && !s.told
  tell s := { s with told := s.told || s.awake }
  renew s := { s with told := false }
  backlog s := s.events.length

/-- A factory of scripted detectors; the first of them cannot be made if a fault is given. -/
def factory (fault? : Option DetectorFault) : Factory Scripted Unit where
  create s :=
    match fault? with
    | some fault => (.error fault, s)
    | none => (.ok (), s.join)

/-! ## Writing the script -/

def expect (o : Outcome) (s : Scripted) : Scripted := { s with outcomes := s.outcomes.push o }

/-- Puts in a finding for the next dispatch and makes the descriptor readable. -/
def inject (i : Injection) (s : Scripted) : Scripted :=
  { s with injected := s.injected.push i }.wake

/-- Lays down that the next `n` calls of a kind fail. -/
def fail (call : Call) (fault : DetectorFault) (n : Nat) (s : Scripted) : Scripted :=
  if n = 0 then s else { s with failures := s.failures ++ [⟨call, fault, n⟩] }

end Scripted
end LinkLocal
