import LinkLocal.Config

/-!
The written form of a configuration: one compact JSON object with every field, in a fixed order.
-/
namespace LinkLocal

/-- The characters of a text between quotes. Nothing in it needs an escape. -/
def quotedChars (s : List Char) : List Char := '"' :: s ++ ['"']

namespace Config

/-- The written value of the requested address: its text between quotes, or `null`. -/
def requestedChars : Option IPv4 → List Char
  | none => "null".toList
  | some a => quotedChars a.chars

/-- The fields of a configuration with their written values, in order. -/
def members (c : Config) : List (String × List Char) :=
  [("ifindex", Nat.toDigits 10 c.ifindex.toNat),
    ("transport", quotedChars c.transport.name.toList),
    ("link_address", quotedChars c.linkAddress.chars),
    ("enumeration", Nat.toDigits 10 c.enumeration.toNat),
    ("timeout_msec", Nat.toDigits 10 c.timeoutMsec.toNat),
    ("requested_address", requestedChars c.requestedAddress),
    ("conflict_policy", quotedChars c.conflictPolicy.name.toList)]

def memberChars (m : String × List Char) : List Char := quotedChars m.1.toList ++ ':' :: m.2

def chars (c : Config) : List Char :=
  '\x7b' :: List.intercalate [','] (c.members.map memberChars) ++ ['\x7d']

def text (c : Config) : String := String.ofList c.chars

end Config

/-- The written form of a link address as a JSON string. -/
def LinkAddress.json (a : LinkAddress) : String := String.ofList (quotedChars a.chars)

/-- The written form of a transport as a JSON string. -/
def Transport.json (t : Transport) : String := String.ofList (quotedChars t.name.toList)

/-- The written form of a conflict policy as a JSON string. -/
def ConflictPolicy.json (p : ConflictPolicy) : String := String.ofList (quotedChars p.name.toList)

end LinkLocal
