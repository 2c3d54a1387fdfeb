import LinkLocal.Json.Blank

/-!
Numbers: their written parts, and whether their magnitude has a place in the range of a 64-bit
floating-point number. A number without fraction and exponent is an integer, whatever its sign; an
integer is taken at its word only if it also fits a 64-bit word, else it counts as a fraction does.
-/
namespace LinkLocal.Json

/-- A number as it is written. -/
structure Number where
  /-- Whether there is a minus sign. -/
  negative : Bool
  /-- The digits before the point. -/
  whole : List Char
  /-- The digits behind the point, if there is one. -/
  fraction : Option (List Char)
  /-- The digits of the exponent and whether it is negative, if there is one. -/
  exponent : Option (Bool × List Char)
  deriving DecidableEq, Repr

namespace Number

def wordMax : Nat := Nat.pow 2 64 - 1

/-- The value of a number that is written as a natural number. -/
def natural? (n : Number) : Option Nat :=
  if n.negative || n.fraction.isSome || n.exponent.isSome then none
  else some (Nat.ofDigitChars 10 n.whole 0)

/-! ## Range -/

/-- The number that `m` is rounded to when 53 binary digits are kept, a half going to the even
neighbour. -/
def round53 (m : Nat) : Nat :=
  let unit := Nat.pow 2 (m.log2 - 52)
  let low := m / unit * unit
  let rest := 2 * (m - low)
  if rest < unit ∨ (rest = unit ∧ m / unit % 2 = 0) then low else low + unit

/-- The least magnitude that is too large for a 64-bit floating-point number. -/
def infinity : Nat := Nat.pow 2 1024 - Nat.pow 2 970

/-- Whether a significand times a power of ten is too large, each of them being rounded first. -/
def overflows (significand : Nat) (exponent : Int) : Bool :=
  significand != 0 && 0 ≤ exponent &&
    (308 < exponent || infinity ≤ round53 significand * round53 (Nat.pow 10 exponent.toNat))

/-- Takes digits into a significand as long as it fits a word. The result is the significand and
the number of digits that did not fit. -/
def gather : (significand : Nat) → List Char → Nat × Nat
  | m, [] => (m, 0)
  | m, c :: cs =>
    let m' := 10 * m + (c.toNat - 48)
    if m' ≤ wordMax then gather m' cs else (m, cs.length + 1)

/-- The significand of a number and the power of ten that goes with it, before its exponent. Digits
before the point that do not fit the significand raise the power; those behind it are ignored. -/
def scaled (n : Number) : Nat × Int :=
  let (m, excess) := gather 0 n.whole
  let places := n.fraction.getD []
  let (m, ignored) := gather m places
  (m, (excess : Int) - (places.length - ignored : Nat))

/-- The largest exponent that is taken as it is written. -/
def exponentMax : Nat := Nat.pow 2 31 - 1

/-- Whether a number is too large to be represented. Integers that fit a word never are. -/
def isTooLarge (n : Number) : Bool :=
  let (m, power) := n.scaled
  match n.exponent with
  | none => overflows m power
  | some (negative, ds) =>
    let e := Nat.ofDigitChars 10 ds 0
    if exponentMax < e then !negative && m != 0
    else overflows m (if negative then power - e else power + e)

/-! ## Reading -/

/-- Splits off the digits at the front of a text. -/
def spanDigits (cs : List Char) : List Char × List Char := cs.span Char.isDigit

/-- Reads digits of which there has to be at least one. -/
def someDigits (cs : List Char) : Reading (List Char) :=
  match spanDigits cs with
  | ([], []) => .error .truncated
  | ([], _) => .error .malformed
  | (ds, rest) => .ok (ds, rest)

def readFraction : List Char → Reading (Option (List Char))
  | '.' :: cs => (someDigits cs).map fun (ds, rest) => (some ds, rest)
  | cs => .ok (none, cs)

def readExponent : List Char → Reading (Option (Bool × List Char))
  | [] => .ok (none, [])
  | c :: cs =>
    if c = 'e' ∨ c = 'E' then
      let (negative, cs) := match cs with
        | '-' :: cs => (true, cs)
        | '+' :: cs => (false, cs)
        | cs => (false, cs)
      (someDigits cs).map fun (ds, rest) => (some (negative, ds), rest)
    else .ok (none, c :: cs)

/-- Reads the digits before the point: a zero stands alone. -/
def readWhole (cs : List Char) : Reading (List Char) :=
  match someDigits cs with
  | .ok ('0' :: _ :: _, _) => .error .malformed
  | r => r

/-- Reads a number without regard to its magnitude. -/
def readAny (cs : List Char) : Except Fault (Number × List Char) := do
  let (negative, cs) := match cs with
    | '-' :: cs => (true, cs)
    | cs => (false, cs)
  let (whole, cs) ← readWhole cs
  let (fraction, cs) ← readFraction cs
  let (exponent, cs) ← readExponent cs
  return (⟨negative, whole, fraction, exponent⟩, cs)

/-- Reads a number whose value matters: one that is too large is at fault. -/
def read (cs : List Char) : Except Fault (Number × List Char) := do
  let (n, rest) ← readAny cs
  if n.isTooLarge then .error .malformed else .ok (n, rest)

/-- Reads a number whose value does not matter. Here even a text that breaks off inside a number
is malformed. -/
def skip (cs : List Char) : Reading Number :=
  (readAny cs).mapError fun _ => .malformed

end Number
end LinkLocal.Json
