/-!
IPv4 addresses and their dotted-decimal text. Reading is strict: exactly four decimal numbers of
at most three digits, each at most 255, with no sign, blank or leading zero.
-/
namespace LinkLocal

/-- An IPv4 address, as the number its four octets spell, the first octet the most significant. -/
structure IPv4 where
  /-- The address as one 32-bit number. -/
  bits : UInt32
  deriving DecidableEq, Repr, Inhabited

namespace IPv4

def ofOctets (a b c d : UInt8) : IPv4 :=
  ⟨a.toUInt32 <<< 24 ||| b.toUInt32 <<< 16 ||| c.toUInt32 <<< 8 ||| d.toUInt32⟩

/-- The four octets of an address, in reading order. -/
def octets (a : IPv4) : List UInt8 :=
  [(a.bits >>> 24).toUInt8, (a.bits >>> 16).toUInt8, (a.bits >>> 8).toUInt8, a.bits.toUInt8]

def chars (a : IPv4) : List Char :=
  List.intercalate ['.'] (a.octets.map fun o => Nat.toDigits 10 o.toNat)

def text (a : IPv4) : String := String.ofList a.chars

/-- One octet of an address: one to three digits, at most 255, a leading zero only when alone. -/
def octet? (cs : List Char) : Option UInt8 :=
  let value := Nat.ofDigitChars 10 cs 0
  if cs.all Char.isDigit && cs.length ≤ 3 && (cs == ['0'] || cs.head?.any (· != '0')) &&
      value ≤ 255 then
    some (UInt8.ofNat value)
  else none

def ofChars? (cs : List Char) : Option IPv4 :=
  match (cs.splitOn '.').map octet? with
  | [some a, some b, some c, some d] => some (ofOctets a b c d)
  | _ => none

def ofText? (s : String) : Option IPv4 := ofChars? s.toList

def syntaxFault : String := "invalid IPv4 address syntax"

end IPv4
end LinkLocal
