import LinkLocal.LinkAddress
import LinkLocal.Selector
import LinkLocal.Text.Blank

/-!
The configuration of a run of the engine, and what the engine demands of it: a transport that can
be probed on, a link address of the transport's length, and a requested address, if there is one,
that may be used.
-/
namespace LinkLocal

/-- Reads the name of a transport, in letters of either case. -/
def Transport.ofText (s : String) : Except InvalidArgument Transport :=
  match Text.lowercase s with
  | "ethernet" => .ok .ethernet
  | "infiniband" => .ok .infiniband
  | _ => .error (.unknownTransport s)

/-- What to do after an announced address is lost to another host. -/
inductive ConflictPolicy where
  | reselect
  | stop
  deriving DecidableEq, Repr, Inhabited

namespace ConflictPolicy

def name : ConflictPolicy → String
  | .reselect => "reselect"
  | .stop => "stop"

/-- The name of a policy with a capital letter, as it stands in descriptions of the engine. -/
def title : ConflictPolicy → String
  | .reselect => "Reselect"
  | .stop => "Stop"

/-- Reads the name of a policy, in letters of either case. -/
def ofText (s : String) : Except InvalidArgument ConflictPolicy :=
  match Text.lowercase s with
  | "reselect" => .ok .reselect
  | "stop" => .ok .stop
  | _ => .error (.unknownPolicy s)

end ConflictPolicy

/-- The configuration of a run. All fields but the first and the third have defaults. -/
structure Config where
  /-- The index of the interface to probe on. -/
  ifindex : UInt32
  /-- The transport of the interface. -/
  transport : Transport := .ethernet
  /-- The hardware address of the interface. -/
  linkAddress : LinkAddress
  /-- The seed of the candidate sequence. It stays the same from run to run, and no two interfaces
  share one. -/
  enumeration : UInt64 := 0
  /-- The length of a probe in milliseconds. -/
  timeoutMsec : UInt64 := 9000
  /-- An address to try before the candidate sequence. -/
  requestedAddress : Option IPv4 := none
  /-- What to do after an announced address is lost. -/
  conflictPolicy : ConflictPolicy := .reselect
  deriving DecidableEq, Repr

namespace Config

/-- Checks what the engine demands: the transport first, then the length of the link address, then
the requested address. -/
def validate (c : Config) : Except InvalidArgument Unit := do
  unless c.transport = .ethernet do throw (.transport c.transport)
  unless c.linkAddress.length = LinkAddress.ethernetLength do
    throw (.linkAddressLength c.linkAddress.length)
  if let some a := c.requestedAddress then
    unless a.isUsable do throw (.requestedAddress a)

/-- A configuration is accepted exactly if it is for Ethernet, its link address has six bytes and
the address that it requests, if any, is usable. -/
theorem validate_eq_ok_iff (c : Config) :
    c.validate = .ok () ↔ c.transport = .ethernet ∧
      c.linkAddress.length = LinkAddress.ethernetLength ∧
      ∀ a, c.requestedAddress = some a → a.isUsable = true := by
  unfold validate
  by_cases ht : c.transport = .ethernet <;>
    by_cases hl : c.linkAddress.length = LinkAddress.ethernetLength <;>
    cases hr : c.requestedAddress <;>
    simp_all [bind, Except.bind, pure, Except.pure, throw, throwThe, MonadExceptOf.throw]

end Config
end LinkLocal
