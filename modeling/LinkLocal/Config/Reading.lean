import LinkLocal.Config.Field
import LinkLocal.Json.Document

/-!
Reading a configuration from JSON text, from left to right, so that the first fault met decides. An
object may have its fields in any order, and fields of other names are skipped; a list has the
values of the fields in order, and fields with defaults may be left out at its end.
-/
namespace LinkLocal.Config

/-- What reading gives: a value and the text behind it. -/
abbrev Taken (α : Type) := Except ReadFault (α × List Char)

def truncated {α : Type} : Except ReadFault α := .error (.json .truncated)

def malformed {α : Type} : Except ReadFault α := .error (.json .malformed)

def misfit {α : Type} (cause : Mismatch) : Except ReadFault α := .error (.mismatch cause)

/-- Takes a reading of JSON into a reading of a configuration. -/
def ofJson {α : Type} (r : Json.Reading α) : Taken α := r.mapError .json

def meaning {α β : Type} (f : α → Except Mismatch β) (r : Taken α) : Taken β :=
  match r with
  | .error fault => .error fault
  | .ok (a, rest) =>
    match f a with
    | .ok b => .ok (b, rest)
    | .error cause => misfit cause

/-! ## Values -/

/-- What is wrong with a value of the wrong kind. A word, a number or a string is read to its end
first, and what is wrong inside it comes first. -/
def wrongKind {α : Type} (cs : List Char) : Except ReadFault α :=
  let judged {β : Type} (r : Json.Reading β) : Except ReadFault α :=
    match r with
    | .error fault => .error (.json fault)
    | .ok _ => misfit .shape
  match cs with
  | [] => truncated
  | 'n' :: cs => judged (Json.readWord ['u', 'l', 'l'] cs)
  | 't' :: cs => judged (Json.readWord ['r', 'u', 'e'] cs)
  | 'f' :: cs => judged (Json.readWord ['a', 'l', 's', 'e'] cs)
  | '"' :: cs => judged (Json.quoted true cs)
  | '[' :: _ => misfit .shape
  | '\x7b' :: _ => misfit .shape
  | c :: cs => if c = '-' ∨ c.isDigit then judged (Json.Number.read (c :: cs)) else malformed

def readNatural (bound : Nat) (cs : List Char) : Taken Nat :=
  match Json.skipBlanks cs with
  | [] => truncated
  | c :: cs =>
    if c = '-' ∨ c.isDigit then
      meaning (fun n => boundedNatural bound n.natural?) (ofJson (Json.Number.read (c :: cs)))
    else wrongKind (c :: cs)

def readString (cs : List Char) : Taken String :=
  match Json.skipBlanks cs with
  | [] => truncated
  | '"' :: cs => ofJson (Json.quoted true cs)
  | cs => wrongKind cs

/-- Reads a name. Nothing but a string can stand in its place. -/
def readName (cs : List Char) : Taken String :=
  match Json.skipBlanks cs with
  | [] => truncated
  | '"' :: cs => ofJson (Json.quoted true cs)
  | _ => malformed

def readNull (cs : List Char) : Taken Unit :=
  match Json.skipBlanks cs with
  | [] => truncated
  | 'n' :: cs => ofJson (Json.readWord ['u', 'l', 'l'] cs)
  | cs => wrongKind cs

def readOptional {α : Type} (read : List Char → Taken α) (cs : List Char) : Taken (Option α) :=
  match Json.skipBlanks cs with
  | 'n' :: cs => (ofJson (Json.readWord ['u', 'l', 'l'] cs)).map fun (_, rest) => (none, rest)
  | cs => (read cs).map fun (a, rest) => (some a, rest)

/-- Reads the value of an enumerated field: its name, or an object that holds `null` under that
name and nothing else. -/
def readVariant {α : Type} (value : String → Except Mismatch α) (cs : List Char) :
    Except ReadFault (α × List Char) :=
  match Json.skipBlanks cs with
  | [] => truncated
  | '"' :: cs => meaning value (ofJson (Json.quoted true cs))
  | '\x7b' :: cs => do
    let (a, cs) ← meaning value (readName cs)
    let (_, cs) ← ofJson (Json.readMark ':' cs)
    let (_, cs) ← readNull cs
    let (_, cs) ← ofJson (Json.readMark '\x7d' cs)
    return (a, cs)
  | _ => malformed

def readField (f : Field) (d : Draft) (cs : List Char) : Taken Draft :=
  match f with
  | .ifindex => (readNatural indexMax cs).map fun (n, rest) =>
    ({ d with ifindex := some (UInt32.ofNat n) }, rest)
  | .transport => (readVariant transportOfName cs).map fun (t, rest) =>
    ({ d with transport := some t }, rest)
  | .linkAddress => (meaning linkAddressOfText (readString cs)).map fun (a, rest) =>
    ({ d with linkAddress := some a }, rest)
  | .enumeration => (readNatural wordMax cs).map fun (n, rest) =>
    ({ d with enumeration := some (UInt64.ofNat n) }, rest)
  | .timeoutMsec => (readNatural wordMax cs).map fun (n, rest) =>
    ({ d with timeoutMsec := some (UInt64.ofNat n) }, rest)
  | .requestedAddress =>
    (readOptional (fun cs => meaning addressOfText (readString cs)) cs).map fun (a, rest) =>
      ({ d with requestedAddress := some a }, rest)
  | .conflictPolicy => (readVariant policyOfName cs).map fun (p, rest) =>
    ({ d with conflictPolicy := some p }, rest)

/-! ## Objects -/

/-- Finds the name of the next member: `none` at the closing brace. A comma stands in front of
every member but the first. -/
def nextName (first : Bool) (cs : List Char) : Taken (Option String) :=
  match Json.skipBlanks cs with
  | [] => truncated
  | '\x7d' :: cs => .ok (none, cs)
  | ',' :: cs =>
    if first then malformed else (readName cs).map fun (name, rest) => (some name, rest)
  | cs => if first then (readName cs).map fun (name, rest) => (some name, rest) else malformed

/-- Reads the members of an object into a draft. The number bounds the characters that may still
come, of which each member takes at least one; by it also the depth of a skipped value is bounded,
as it is when a document is read by itself. -/
def readMembers : Nat → (first : Bool) → Draft → List Char → Taken Draft
  | 0, _, _, _ => truncated
  | fuel + 1, first, d, cs =>
    match nextName first cs with
    | .error fault => .error fault
    | .ok (none, cs) => .ok (d, cs)
    | .ok (some name, cs) =>
      match Field.ofName? name with
      | none =>
        match ofJson (Json.readMark ':' cs) with
        | .error fault => .error fault
        | .ok (_, cs) =>
          match ofJson (Json.Document.readValue (2 * fuel + 2) cs) with
          | .error fault => .error fault
          | .ok (_, cs) => readMembers fuel false d cs
      | some f =>
        if d.has f then misfit (.duplicate f)
        else
          match ofJson (Json.readMark ':' cs) with
          | .error fault => .error fault
          | .ok (_, cs) =>
            match readField f d cs with
            | .error fault => .error fault
            | .ok (d, cs) => readMembers fuel false d cs

/-! ## Lists -/

/-- Finds the next value of a list: `none` at the closing bracket, which stays in the text. A comma
stands in front of every value but the first. -/
def nextItem (first : Bool) (cs : List Char) : Taken (Option Unit) :=
  match Json.skipBlanks cs with
  | [] => truncated
  | ']' :: cs => .ok (none, ']' :: cs)
  | ',' :: cs =>
    if first then .ok (some (), ',' :: cs)
    else match Json.skipBlanks cs with
      | [] => truncated
      | ']' :: _ => malformed
      | cs => .ok (some (), cs)
  | cs => if first then .ok (some (), cs) else malformed

/-- Reads the values of a list into a draft, one for each field. -/
def readItems : List Field → (first : Bool) → Draft → List Char → Taken Draft
  | [], _, d, cs => .ok (d, cs)
  | f :: fields, first, d, cs =>
    match nextItem first cs with
    | .error fault => .error fault
    | .ok (none, cs) =>
      if f.isRequired then misfit .shape else readItems fields first d cs
    | .ok (some _, cs) =>
      match readField f d cs with
      | .error fault => .error fault
      | .ok (d, cs) => readItems fields false d cs

/-! ## Texts -/

def closeList (cs : List Char) : Taken Unit := ofJson (Json.readMark ']' cs)

def readDraft (cs : List Char) : Taken Config :=
  match Json.skipBlanks cs with
  | [] => truncated
  | '[' :: cs =>
    match meaning Draft.finish (readItems Field.all true {} cs) with
    | .error fault => .error fault
    | .ok (c, cs) => (closeList cs).map fun (_, rest) => (c, rest)
  | '\x7b' :: cs => meaning Draft.finish (readMembers (cs.length + 1) true {} cs)
  | cs => wrongKind cs

/-- Reads a configuration from the characters of a whole text. -/
def ofChars (cs : List Char) : Except ReadFault Config :=
  match readDraft cs with
  | .error fault => .error fault
  | .ok (c, rest) => if (Json.skipBlanks rest).isEmpty then .ok c else malformed

def ofText (s : String) : Except ReadFault Config := ofChars s.toList

end LinkLocal.Config
