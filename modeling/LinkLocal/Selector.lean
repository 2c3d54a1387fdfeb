import LinkLocal.IPv4

/-!
The candidate sequence. Candidates are drawn from 169.254.0.0/16 without its first and last 256
addresses, by a 48-bit linear congruential generator that starts at the low 48 bits of a seed. The
sequence is part of the contract: equal seeds give equal candidates on every host and in every run,
so that a host keeps coming back to the address that it used before.
-/
namespace LinkLocal

/-! ## The usable range -/

namespace IPv4

/-- The link-local address at an offset into 169.254.0.0/16. -/
def linkLocal (offset : UInt16) : IPv4 := ⟨0xa9fe0000 ||| offset.toUInt32⟩

def firstUsable : UInt16 := 0x0100

def lastUsable : UInt16 := 0xfeff

def usableCount : Nat := lastUsable.toNat - firstUsable.toNat + 1

/-- Whether an address lies in 169.254.1.0 to 169.254.254.255. -/
def isUsable (a : IPv4) : Bool :=
  (linkLocal firstUsable).bits ≤ a.bits && a.bits ≤ (linkLocal lastUsable).bits

end IPv4

/-! ## The generator -/

/-- The state of the generator, a number below `2 ^ 48` held in a 64-bit word. -/
structure Generator where
  /-- The present number. -/
  state : UInt64
  deriving DecidableEq, Repr

namespace Generator

/-- The number of states, and the length of a full turn through them. -/
def period : Nat := Nat.pow 2 48

def mask : UInt64 := 0xffffffffffff

/-- A generator that starts from the low 48 bits of a seed. -/
def ofSeed (seed : UInt64) : Generator := ⟨seed &&& mask⟩

/-- The next state: a multiple of the present one plus a constant, modulo `2 ^ 48`. -/
def next (g : Generator) : Generator := ⟨(0x5deece66d * g.state + 0xb) &&& mask⟩

/-- The draw that a state stands for: its high 32 bits as a signed number. -/
def draw (g : Generator) : Int32 := (g.state >>> 16).toUInt32.toInt32

/-- The offset that a draw stands for: its high half folded onto its low half. -/
def offset (g : Generator) : UInt16 := (g.draw ^^^ (g.draw >>> 16)).toUInt32.toUInt16

end Generator

/-! ## The selector -/

/-- A position in a candidate sequence. -/
structure Selector where
  /-- The generator behind the sequence, after the last draw. -/
  generator : Generator
  deriving DecidableEq, Repr

namespace Selector

def ofSeed (seed : UInt64) : Selector := ⟨Generator.ofSeed seed⟩

/-- Draws until an offset is usable, at most `draws` more times. -/
def search : (draws : Nat) → Generator → IPv4 × Selector
  | 0, g => (.linkLocal IPv4.firstUsable, ⟨g⟩)
  | draws + 1, g =>
    let g := g.next
    if IPv4.firstUsable ≤ g.offset ∧ g.offset ≤ IPv4.lastUsable then (.linkLocal g.offset, ⟨g⟩)
    else search draws g

/-- The next candidate and the position behind it. Offsets that are not usable are thrown away and
drawn again; a full turn of the generator meets every offset, so it is enough to search. -/
def next (s : Selector) : IPv4 × Selector := search Generator.period s.generator

def take : (n : Nat) → Selector → List IPv4
  | 0, _ => []
  | n + 1, s => s.next.1 :: take n s.next.2

def drop : (n : Nat) → Selector → Selector
  | 0, s => s
  | n + 1, s => drop n s.next.2

end Selector
end LinkLocal
