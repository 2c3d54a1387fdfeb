import LinkLocal.LinkAddress

/-!
Conflict detection as the link-local engine sees it. A detector owns everything on the wire: the
timing of probes, the packets, and the decision to defend or to yield. It runs one probe at a time
and reports what it finds when it is asked. The engine decides only which address to probe and what
to make of the outcome.

A detector is given by its operations on the world that it lives in, a type of any kind, so that
many detectors can share one world. Every operation returns its answer together with the world
after it, and a failing operation too leaves a world behind.
-/
namespace LinkLocal

/-- A packet of the address resolution protocol, as far as conflicts are concerned. -/
structure Packet where
  operation : UInt16
  sender : LinkAddress
  target : IPv4
  deriving DecidableEq, Repr

namespace Packet

def request : UInt16 := 1

def reply : UInt16 := 2

end Packet

/-- What a detector is asked to probe. -/
structure Probe where
  ifindex : UInt32
  mac : LinkAddress
  transport : Transport
  address : IPv4
  timeoutMsec : UInt64
  deriving DecidableEq, Repr

def Probe.timeout (p : Probe) : Duration := .ofMilliseconds p.timeoutMsec.toNat

/-- How often an announced address is defended. -/
inductive DefendPolicy where
  /-- It is given up at the first conflict. -/
  | never
  /-- It is defended once; a second conflict within the defend interval takes it away. -/
  | once
  /-- It is defended every time. -/
  | always
  deriving DecidableEq, Repr

def DefendPolicy.name : DefendPolicy → String
  | .never => "Never"
  | .once => "Once"
  | .always => "Always"

/-- What a detector finds. -/
inductive Detection where
  /-- The probe ended without a conflict, and the address waits to be announced. -/
  | ready
  /-- Another host claimed the announced address and was answered. -/
  | defended (claim : Packet)
  /-- Another host claimed the announced address and has it now. The detector has stopped. -/
  | conflict (claim : Packet)
  /-- The probed address is in use. The detector has stopped. -/
  | used (claim : Packet)
  /-- The link went away. The detector has stopped. -/
  | down
  deriving DecidableEq, Repr

/-- What a detector answers when it is asked for its next finding. -/
inductive Poll where
  /-- This is the next one. -/
  | found (d : Detection)
  /-- There is none, and the detector is at work. -/
  | done
  /-- There is none, and the detector has stopped. -/
  | stopped
  deriving DecidableEq, Repr

/-- A conflict detector in a world of type `σ`. -/
structure Detector (σ : Type) where
  /-- Begins to probe an address. -/
  start : Probe → σ → Except DetectorFault Unit × σ
  /-- Ends any probe or defense. -/
  stop : σ → σ
  /-- Attends to whatever made the descriptor readable. -/
  dispatch : σ → Except DetectorFault Unit × σ
  /-- Takes the next finding. -/
  poll : σ → Except DetectorFault Poll × σ
  /-- Announces the probed address and defends it from now on. -/
  announce : DefendPolicy → σ → Except DetectorFault Unit × σ
  /-- Gives up the detector itself. -/
  close : σ → σ
  /-- Whether the descriptor is readable, so that there is something to attend to. -/
  readable : σ → Bool
  /-- Whether there is news of the descriptor: something made it readable, it still is, and nobody
  was told. -/
  hasNews : σ → Bool
  /-- Marks the news of the descriptor as told. -/
  tell : σ → σ
  /-- Marks what there is to tell of the descriptor as news, for somebody who begins to watch it. -/
  renew : σ → σ
  /-- How many findings wait to be taken. -/
  backlog : σ → Nat

/-- A detector of a world that is a part of a larger one. -/
def Detector.within {σ τ : Type} (d : Detector τ) (part : σ → τ) (put : τ → σ → σ) :
    Detector σ where
  start p s := let (r, t) := d.start p (part s); (r, put t s)
  stop s := put (d.stop (part s)) s
  dispatch s := let (r, t) := d.dispatch (part s); (r, put t s)
  poll s := let (r, t) := d.poll (part s); (r, put t s)
  announce p s := let (r, t) := d.announce p (part s); (r, put t s)
  close s := put (d.close (part s)) s
  readable s := d.readable (part s)
  hasNews s := d.hasNews (part s)
  tell s := put (d.tell (part s)) s
  renew s := put (d.renew (part s)) s
  backlog s := d.backlog (part s)

/-- Takes the findings of a detector, at most the given number: what they are, and how they ended. -/
def Detector.drain {σ : Type} (d : Detector σ) :
    (findings : Nat) → σ → Except DetectorFault (List Detection × Poll) × σ
  | 0, s => (.ok ([], .done), s)
  | n + 1, s =>
    match d.poll s with
    | (.ok (.found f), s) =>
      match d.drain n s with
      | (.ok (fs, last), s) => (.ok (f :: fs, last), s)
      | r => r
    | (.ok last, s) => (.ok ([], last), s)
    | (.error fault, s) => (.error fault, s)

/-- A way to make a detector. What is made is known by a handle of type `δ`. -/
structure Factory (σ δ : Type) where
  create : σ → Except DetectorFault δ × σ

/-- A factory in a world that is a part of a larger one, with handles of the larger one. -/
def Factory.within {σ τ δ ε : Type} (f : Factory τ δ) (part : σ → τ) (put : τ → σ → σ)
    (handle : δ → ε) : Factory σ ε where
  create s := let (r, t) := f.create (part s); (r.map handle, put t s)

end LinkLocal
