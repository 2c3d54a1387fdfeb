/-!
Durations and their text. A duration is written in the largest unit of which it holds at least one,
with the rest as decimals and no trailing zeros.
-/
namespace LinkLocal

/-- A span of time. -/
structure Duration where
  /-- Its length in nanoseconds. -/
  nanoseconds : Nat
  deriving DecidableEq, Repr

namespace Duration

def ofMilliseconds (n : Nat) : Duration := ⟨n * 1000000⟩

def ofSeconds (n : Nat) : Duration := ⟨n * 1000000000⟩

def milliseconds (d : Duration) : Nat := d.nanoseconds / 1000000

/-- A number of nanoseconds in a unit, a power of ten: the whole units, then the rest as decimals. -/
def inUnit (unit n : Nat) : String :=
  let rest := (Nat.toDigits 10 (unit + n % unit)).drop 1
  let decimals := (rest.reverse.dropWhile (· == '0')).reverse
  toString (n / unit) ++ (if decimals.isEmpty then "" else "." ++ String.ofList decimals)

def text (d : Duration) : String :=
  if 1000000000 ≤ d.nanoseconds then inUnit 1000000000 d.nanoseconds ++ "s"
  else if 1000000 ≤ d.nanoseconds then inUnit 1000000 d.nanoseconds ++ "ms"
  else if 1000 ≤ d.nanoseconds then inUnit 1000 d.nanoseconds ++ "µs"
  else inUnit 1 d.nanoseconds ++ "ns"

end Duration
end LinkLocal
