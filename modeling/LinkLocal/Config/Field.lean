import LinkLocal.Config
import LinkLocal.Json.Fault

/-!
The fields of a written configuration, the draft that reading them fills in, and the faults that
reading can meet. A draft becomes a configuration once the two fields without a default are there.
-/
namespace LinkLocal.Config

/-- The fields of a written configuration, in the order in which they are written. -/
inductive Field where
  | ifindex
  | transport
  | linkAddress
  | enumeration
  | timeoutMsec
  | requestedAddress
  | conflictPolicy
  deriving DecidableEq, Repr

namespace Field

/-- All fields in the order in which they are written. -/
def all : List Field :=
  [.ifindex, .transport, .linkAddress, .enumeration, .timeoutMsec, .requestedAddress,
    .conflictPolicy]

def name : Field → String
  | .ifindex => "ifindex"
  | .transport => "transport"
  | .linkAddress => "link_address"
  | .enumeration => "enumeration"
  | .timeoutMsec => "timeout_msec"
  | .requestedAddress => "requested_address"
  | .conflictPolicy => "conflict_policy"

def ofName? (s : String) : Option Field := all.find? (·.name == s)

def isRequired : Field → Bool
  | .ifindex | .linkAddress => true
  | _ => false

end Field

/-- Why well-formed JSON is no configuration. -/
inductive Mismatch where
  /-- A value is of the wrong kind or out of range, or there are too few or too many. -/
  | shape
  /-- The text of the link address is not acceptable. -/
  | linkAddress (cause : InvalidArgument)
  /-- A field without default is not there. -/
  | missing (f : Field)
  /-- A field is there twice. -/
  | duplicate (f : Field)
  /-- The value of an enumerated field is none of its names. -/
  | unknownVariant (f : Field) (value : String)
  deriving DecidableEq, Repr

/-- The names that an enumerated field may have as its value. -/
def Field.variants : Field → List String
  | .transport => [Transport.ethernet.name, Transport.infiniband.name]
  | .conflictPolicy => [ConflictPolicy.reselect.name, ConflictPolicy.stop.name]
  | _ => []

def backquoted (s : String) : String := String.ofList (['\x60'] ++ s.toList ++ ['\x60'])

def Mismatch.text? : Mismatch → Option String
  | .shape => none
  | .linkAddress cause => some (Error.invalidArgument cause).text
  | .missing f => some s!"missing field {backquoted f.name}"
  | .duplicate f => some s!"duplicate field {backquoted f.name}"
  | .unknownVariant f value =>
    let expected := String.intercalate " or " (f.variants.map backquoted)
    some s!"unknown variant {backquoted value}, expected {expected}"

/-- Why a text or a document is no configuration. -/
inductive ReadFault where
  | json (fault : Json.Fault)
  | mismatch (cause : Mismatch)
  deriving DecidableEq, Repr

namespace ReadFault

/-- The kind of a fault: the text ends early, it is malformed, or its data do not fit. -/
def category : ReadFault → String
  | .json .truncated => "Eof"
  | .json .malformed => "Syntax"
  | .mismatch _ => "Data"

def text? : ReadFault → Option String
  | .json _ => none
  | .mismatch cause => cause.text?

end ReadFault

/-- A configuration of which not all fields are known. -/
structure Draft where
  ifindex : Option UInt32 := none
  transport : Option Transport := none
  linkAddress : Option LinkAddress := none
  enumeration : Option UInt64 := none
  timeoutMsec : Option UInt64 := none
  requestedAddress : Option (Option IPv4) := none
  conflictPolicy : Option ConflictPolicy := none
  deriving DecidableEq, Repr

namespace Draft

def has (d : Draft) : Field → Bool
  | .ifindex => d.ifindex.isSome
  | .transport => d.transport.isSome
  | .linkAddress => d.linkAddress.isSome
  | .enumeration => d.enumeration.isSome
  | .timeoutMsec => d.timeoutMsec.isSome
  | .requestedAddress => d.requestedAddress.isSome
  | .conflictPolicy => d.conflictPolicy.isSome

/-- The configuration that a draft amounts to, with defaults for what is not known. -/
def finish (d : Draft) : Except Mismatch Config :=
  match d.ifindex, d.linkAddress with
  | none, _ => .error (.missing .ifindex)
  | some _, none => .error (.missing .linkAddress)
  | some ifindex, some linkAddress =>
    let c : Config := { ifindex, linkAddress }
    .ok { c with
      transport := d.transport.getD c.transport
      enumeration := d.enumeration.getD c.enumeration
      timeoutMsec := d.timeoutMsec.getD c.timeoutMsec
      requestedAddress := d.requestedAddress.getD c.requestedAddress
      conflictPolicy := d.conflictPolicy.getD c.conflictPolicy }

end Draft

/-! ## Values of fields -/

/-- Reads the value of an enumerated field from its name. -/
def variant {α : Type} (f : Field) (values : List α) (name : α → String) (s : String) :
    Except Mismatch α :=
  match values.find? (name · == s) with
  | some v => .ok v
  | none => .error (.unknownVariant f s)

def transportOfName : String → Except Mismatch Transport :=
  variant .transport [.ethernet, .infiniband] Transport.name

def policyOfName : String → Except Mismatch ConflictPolicy :=
  variant .conflictPolicy [.reselect, .stop] ConflictPolicy.name

def linkAddressOfText (s : String) : Except Mismatch LinkAddress :=
  (LinkAddress.ofText s).mapError .linkAddress

def addressOfText (s : String) : Except Mismatch IPv4 :=
  match IPv4.ofText? s with
  | some a => .ok a
  | none => .error .shape

/-- A natural number of at most `bound`, where a number was read. -/
def boundedNatural (bound : Nat) (n? : Option Nat) : Except Mismatch Nat :=
  match n? with
  | some n => if n ≤ bound then .ok n else .error .shape
  | none => .error .shape

def indexMax : Nat := Nat.pow 2 32 - 1

/-- The bound of the seed and of the probe's length. -/
def wordMax : Nat := Nat.pow 2 64 - 1

end LinkLocal.Config
