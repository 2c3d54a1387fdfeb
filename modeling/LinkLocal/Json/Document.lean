import LinkLocal.Json.Number
import LinkLocal.Json.Quoted

/-!
JSON documents as values, and their reading from text. The members of an object are kept in the
order of their names, each name once, the last member of a name winning. Reading is lax about
strings and magnitudes: it takes whatever has the form of JSON.
-/
namespace LinkLocal.Json

/-- A JSON document. -/
inductive Document where
  | null
  | bool (b : Bool)
  | number (n : Number)
  | string (s : String)
  | array (items : List Document)
  | object (members : List (String × Document))
  deriving Repr, Inhabited

namespace Document

/-- Puts a member into its place by name, or in the place of an earlier member of that name. -/
def insertMember (name : String) (value : Document) :
    List (String × Document) → List (String × Document)
  | [] => [(name, value)]
  | (n, v) :: rest =>
    if name < n then (name, value) :: (n, v) :: rest
    else if name = n then (n, value) :: rest
    else (n, v) :: insertMember name value rest

/-- The member of a name, if the document is an object that has one. -/
def get? (d : Document) (name : String) : Option Document :=
  match d with
  | .object members => members.lookup name
  | _ => none

mutual

/-- Reads one document. The number bounds how deep the reading may still go. A list or an object
goes two deeper than its place, by its bracket, and each further item or member one, by its
comma, so twice the length of the text is enough. -/
def readValue : Nat → List Char → Reading Document
  | 0, _ => .error .truncated
  | fuel + 1, cs =>
    match skipBlanks cs with
    | [] => .error .truncated
    | 'n' :: cs => (readWord ['u', 'l', 'l'] cs).map fun (_, cs) => (.null, cs)
    | 't' :: cs => (readWord ['r', 'u', 'e'] cs).map fun (_, cs) => (.bool true, cs)
    | 'f' :: cs => (readWord ['a', 'l', 's', 'e'] cs).map fun (_, cs) => (.bool false, cs)
    | '"' :: cs => (quoted false cs).map fun (s, cs) => (.string s, cs)
    | '[' :: cs =>
      match skipBlanks cs with
      | ']' :: cs => .ok (.array [], cs)
      | cs => (readItems fuel [] cs).map fun (items, cs) => (.array items, cs)
    | '{' :: cs =>
      match skipBlanks cs with
      | '}' :: cs => .ok (.object [], cs)
      | cs => (readMembers fuel [] cs).map fun (members, cs) => (.object members, cs)
    | c :: cs =>
      if c = '-' ∨ c.isDigit then (Number.skip (c :: cs)).map fun (n, cs) => (.number n, cs)
      else .error .malformed

/-- Reads the items of a list onto those read so far, up to the closing bracket. -/
def readItems : Nat → List Document → List Char → Reading (List Document)
  | 0, _, _ => .error .truncated
  | fuel + 1, items, cs =>
    match skipBlanks cs with
    | [] => .error .truncated
    | cs =>
      match readValue fuel cs with
      | .error fault => .error fault
      | .ok (item, cs) =>
        match skipBlanks cs with
        | [] => .error .truncated
        | ',' :: cs => readItems fuel (item :: items) cs
        | ']' :: cs => .ok ((item :: items).reverse, cs)
        | _ => .error .malformed

/-- Reads the members of an object into those read so far, up to the closing brace. -/
def readMembers : Nat → List (String × Document) → List Char → Reading (List (String × Document))
  | 0, _, _ => .error .truncated
  | fuel + 1, members, cs =>
    match skipBlanks cs with
    | [] => .error .truncated
    | '"' :: cs =>
      match quoted false cs with
      | .error fault => .error fault
      | .ok (name, cs) =>
        match readMark ':' cs with
        | .error fault => .error fault
        | .ok (_, cs) =>
          match readValue fuel cs with
          | .error fault => .error fault
          | .ok (value, cs) =>
            let members := insertMember name value members
            match skipBlanks cs with
            | [] => .error .truncated
            | ',' :: cs => readMembers fuel members cs
            | '}' :: cs => .ok (members, cs)
            | _ => .error .malformed
    | _ => .error .malformed

end

def read (cs : List Char) : Reading Document := readValue (2 * cs.length + 2) cs

def ofText? (s : String) : Option Document :=
  match read s.toList with
  | .ok (d, rest) => if (skipBlanks rest).isEmpty then some d else none
  | .error _ => none

end Document
end LinkLocal.Json
