import LinkLocal.IPv4
import LinkLocal.LinkAddress
import Mathlib.Algebra.Group.Nat.Defs

/-! Written addresses read back. A link address is its groups between colons, an IPv4 address
its octets between dots; neither mark stands inside a group or an octet, so that a text falls
apart into what it was put together from, and each part is read by itself. -/
namespace LinkLocal

/-! ## Link addresses -/

namespace LinkAddress

/-- A byte is read from its two digits. -/
theorem group?_byteChars (b : UInt8) : group? (byteChars b) = some b := by
  have all : ∀ n < 256, group? (byteChars (UInt8.ofNat n)) = some (UInt8.ofNat n) := by
    decide +kernel
  rw [← UInt8.ofNat_toNat (x := b)]
  exact all b.toNat b.toNat_lt

theorem colon_notMem_byteChars (b : UInt8) : ':' ∉ byteChars b := by
  have all : ∀ n < 256, ':' ∉ byteChars (UInt8.ofNat n) := by decide +kernel
  rw [← UInt8.ofNat_toNat (x := b)]
  exact all b.toNat b.toNat_lt

/-- The bytes are read one by one from their groups. -/
theorem mapM_group? (bytes : List UInt8) : (bytes.map byteChars).mapM group? = some bytes := by
  induction bytes with
  | nil => rfl
  | cons b bytes ih => simp [List.mapM_cons, group?_byteChars, ih]

/-- An address that is not empty is read from what is written of it. -/
theorem ofChars?_chars {a : LinkAddress} (there : a.isEmpty = false) :
    ofChars? a.chars = some a := by
  obtain ⟨bytes⟩ := a
  have groups : bytes.map byteChars ≠ [] := by
    rintro none
    rw [isEmpty, List.map_eq_nil_iff.mp none] at there
    cases there
  rw [ofChars?, chars, List.splitOn_intercalate ':' ?_ groups, mapM_group?]
  · rfl
  · rintro group member
    obtain ⟨b, -, rfl⟩ := List.mem_map.mp member
    exact colon_notMem_byteChars b

theorem ofText_text {a : LinkAddress} (there : a.isEmpty = false) : ofText a.text = .ok a := by
  have read := ofChars?_chars there
  rw [ofText, text, String.toList_ofList, read]
  split
  · next empty =>
    have nothing : a.chars = [] := by simpa using empty
    rw [nothing] at read
    exact absurd read (by simp [ofChars?, group?, byteCount])
  · rfl

/-- No text is read as an empty address: it has one group at least. -/
theorem isEmpty_of_ofText {s : String} {a : LinkAddress} (read : ofText s = .ok a) :
    a.isEmpty = false := by
  obtain ⟨bytes⟩ := a
  rw [ofText, ofChars?] at read
  split at read
  · cases read
  · cases groups : s.toList.splitOn ':' with
    | nil => exact absurd groups (List.splitOn_ne_nil ':' _)
    | cons group groups' =>
      rw [groups, List.mapM_cons] at read
      cases first : group? group with
      | none =>
        rw [first] at read
        cases read
      | some b =>
        cases others : groups'.mapM group? with
        | none =>
          rw [first, others] at read
          cases read
        | some bs =>
          rw [first, others] at read
          cases read
          rfl

end LinkAddress

/-! ## IPv4 addresses -/

namespace IPv4

/-- An octet is read from its digits. -/
theorem octet?_toDigits (o : UInt8) : octet? (Nat.toDigits 10 o.toNat) = some o := by
  have all : ∀ n < 256, octet? (Nat.toDigits 10 n) = some (UInt8.ofNat n) := by decide +kernel
  rw [all o.toNat o.toNat_lt, UInt8.ofNat_toNat]

theorem dot_notMem_toDigits (n : Nat) : '.' ∉ Nat.toDigits 10 n := by
  intro member
  cases Nat.isDigit_of_mem_toDigits (by decide) (by decide) member

/-- An address is the number that its octets spell to the base 256. -/
theorem toNat_ofOctets (a b c d : UInt8) : (ofOctets a b c d).bits.toNat =
    2 ^ 24 * a.toNat + 2 ^ 16 * b.toNat + 2 ^ 8 * c.toNat + d.toNat := by
  have small (o : UInt8) : o.toNat < 2 ^ 8 := o.toNat_lt
  have inWord (o : UInt8) {i : Nat} (place : i ≤ 24) :
      o.toNat <<< i % 2 ^ 32 = 2 ^ i * o.toNat := by
    have room : 2 ^ i * o.toNat < 2 ^ 24 * 2 ^ 8 :=
      Nat.mul_lt_mul_of_le_of_lt (Nat.pow_le_pow_right (by decide) place) (small o) (by decide)
    rw [Nat.shiftLeft_eq, Nat.mul_comm]
    exact Nat.mod_eq_of_lt room
  have first := Nat.two_pow_add_eq_or_of_lt (i := 24) (b := 2 ^ 16 * b.toNat)
    (by have := small b; omega) a.toNat
  have second := Nat.two_pow_add_eq_or_of_lt (i := 16) (b := 2 ^ 8 * c.toNat)
    (by have := small c; omega) (2 ^ 8 * a.toNat + b.toNat)
  have third := Nat.two_pow_add_eq_or_of_lt (i := 8) (small d)
    (2 ^ 16 * a.toNat + 2 ^ 8 * b.toNat + c.toNat)
  simp only [ofOctets, UInt32.toNat_or, UInt32.toNat_shiftLeft, UInt8.toNat_toUInt32,
    UInt32.reduceToNat]
  rw [inWord a (by decide), inWord b (by decide), inWord c (by decide), ← first,
    show 2 ^ 24 * a.toNat + 2 ^ 16 * b.toNat = 2 ^ 16 * (2 ^ 8 * a.toNat + b.toNat) by omega,
    ← second, show 2 ^ 16 * (2 ^ 8 * a.toNat + b.toNat) + 2 ^ 8 * c.toNat =
      2 ^ 8 * (2 ^ 16 * a.toNat + 2 ^ 8 * b.toNat + c.toNat) by omega, ← third]

/-- An address is put together from its octets. -/
theorem ofOctets_octets (a : IPv4) : ofOctets (a.bits >>> 24).toUInt8 (a.bits >>> 16).toUInt8
    (a.bits >>> 8).toUInt8 a.bits.toUInt8 = a := by
  have bound := a.bits.toNat_lt
  have spelled := toNat_ofOctets (a.bits >>> 24).toUInt8 (a.bits >>> 16).toUInt8
    (a.bits >>> 8).toUInt8 a.bits.toUInt8
  simp only [UInt32.toNat_toUInt8, UInt32.toNat_shiftRight, Nat.shiftRight_eq_div_pow,
    UInt32.toNat_ofNat, Nat.reducePow, Nat.reduceMod] at spelled
  exact congrArg IPv4.mk (UInt32.toNat_inj.mp (spelled.trans (by omega)))

/-- An address is read from what is written of it. -/
theorem ofText?_text (a : IPv4) : ofText? a.text = some a := by
  have parts : a.chars.splitOn '.' = a.octets.map fun o => Nat.toDigits 10 o.toNat := by
    refine List.splitOn_intercalate '.' ?_ (by simp [octets])
    rintro octet member
    obtain ⟨o, -, rfl⟩ := List.mem_map.mp member
    exact dot_notMem_toDigits o.toNat
  rw [ofText?, text, String.toList_ofList, ofChars?, parts, octets]
  simp only [List.map_cons, List.map_nil, octet?_toDigits, ofOctets_octets]

end IPv4
end LinkLocal
