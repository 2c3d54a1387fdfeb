import LinkLocal.Error
import LinkLocal.Text.Numeral

/-!
Link addresses, the hardware addresses of interfaces, and their colon-separated hexadecimal text.
An address is written with two small digits to a byte. Reading also takes one digit to a byte,
capital letters, and a plus sign in front of a single digit, and nothing else.
-/
namespace LinkLocal

/-- A link-layer address of any length. -/
structure LinkAddress where
  /-- The bytes of the address, in reading order. -/
  bytes : List UInt8
  deriving DecidableEq, Repr, Inhabited

namespace LinkAddress

def ethernetLength : Nat := 6

def length (a : LinkAddress) : Nat := a.bytes.length

def isEmpty (a : LinkAddress) : Bool := a.bytes.isEmpty

/-! ## Writing -/

def byteChars (b : UInt8) : List Char :=
  [Nat.digitChar (b.toNat / 16), Nat.digitChar (b.toNat % 16)]

/-- The characters of the written form: each byte as two digits, with colons between them. -/
def chars (a : LinkAddress) : List Char := List.intercalate [':'] (a.bytes.map byteChars)

def text (a : LinkAddress) : String := String.ofList a.chars

/-- The written form of an address, named for what it is. -/
def description (a : LinkAddress) : String := s!"LinkAddress({a.text})"

/-! ## Reading -/

/-- The number of bytes that characters take as text. -/
def byteCount : List Char → Nat
  | [] => 0
  | c :: cs => c.utf8Size + byteCount cs

/-- One group of the written form: a hexadecimal numeral that takes one or two bytes of text. -/
def group? (cs : List Char) : Option UInt8 :=
  if byteCount cs = 1 ∨ byteCount cs = 2 then
    (Text.readNumeral 16 255 cs).toOption.map UInt8.ofNat
  else none

def ofChars? (cs : List Char) : Option LinkAddress :=
  ((cs.splitOn ':').mapM group?).map LinkAddress.mk

def ofText (s : String) : Except InvalidArgument LinkAddress :=
  if s.isEmpty then .error .emptyLinkAddress
  else match ofChars? s.toList with
    | some a => .ok a
    | none => .error (.malformedLinkAddress s)

/-! ## Seeding -/

/-- A seed for the candidate sequence of the host with this address, so that hosts that share a
link try different candidates: the last eight bytes as one number. -/
def seed (a : LinkAddress) : UInt64 :=
  a.bytes.foldl (fun seed byte => seed <<< 8 ||| byte.toUInt64) 0

end LinkAddress
end LinkLocal
