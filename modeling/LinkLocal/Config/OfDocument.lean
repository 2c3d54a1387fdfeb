import LinkLocal.Config.Field
import LinkLocal.Json.Document

/-!
Reading a configuration from a JSON document. The members of an object are read in the order of
their names and the items of a list in the order of the fields, and the first fault decides.
-/
namespace LinkLocal.Config

def documentString : Json.Document → Except Mismatch String
  | .string s => .ok s
  | _ => .error .shape

def documentNatural (bound : Nat) : Json.Document → Except Mismatch Nat
  | .number n => boundedNatural bound n.natural?
  | _ => .error .shape

/-- A value of an enumerated field: its name, or an object with `null` under that name and nothing
else. -/
def documentVariant {α : Type} (value : String → Except Mismatch α) :
    Json.Document → Except Mismatch α
  | .string s => value s
  | .object [(name, content)] =>
    match value name, content with
    | .ok a, .null => .ok a
    | .ok _, _ => .error .shape
    | .error cause, _ => .error cause
  | _ => .error .shape

def documentAddress : Json.Document → Except Mismatch (Option IPv4)
  | .null => .ok none
  | d => (documentString d >>= addressOfText).map some

def documentField (f : Field) (d : Draft) (v : Json.Document) : Except Mismatch Draft :=
  match f with
  | .ifindex => (documentNatural indexMax v).map fun n =>
    { d with ifindex := some (UInt32.ofNat n) }
  | .transport => (documentVariant transportOfName v).map fun t => { d with transport := some t }
  | .linkAddress => (documentString v >>= linkAddressOfText).map fun a =>
    { d with linkAddress := some a }
  | .enumeration => (documentNatural wordMax v).map fun n =>
    { d with enumeration := some (UInt64.ofNat n) }
  | .timeoutMsec => (documentNatural wordMax v).map fun n =>
    { d with timeoutMsec := some (UInt64.ofNat n) }
  | .requestedAddress => (documentAddress v).map fun a => { d with requestedAddress := some a }
  | .conflictPolicy => (documentVariant policyOfName v).map fun p =>
    { d with conflictPolicy := some p }

/-- Reads the members of an object into a draft, skipping those of other names. -/
def documentMembers : Draft → List (String × Json.Document) → Except Mismatch Draft
  | d, [] => .ok d
  | d, (name, v) :: rest =>
    match Field.ofName? name with
    | none => documentMembers d rest
    | some f =>
      match documentField f d v with
      | .error cause => .error cause
      | .ok d => documentMembers d rest

/-- Reads the items of a list into a draft, one for each field. -/
def documentItems : List Field → Draft → List Json.Document → Except Mismatch Draft
  | [], d, [] => .ok d
  | [], _, _ :: _ => .error .shape
  | f :: fields, d, [] => if f.isRequired then .error .shape else documentItems fields d []
  | f :: fields, d, v :: rest =>
    match documentField f d v with
    | .error cause => .error cause
    | .ok d => documentItems fields d rest

def ofDocument (v : Json.Document) : Except Mismatch Config :=
  match v with
  | .object members => documentMembers {} members >>= Draft.finish
  | .array items => documentItems Field.all {} items >>= Draft.finish
  | _ => .error .shape

end LinkLocal.Config
