import LinkLocal.Json.Number
import Mathlib.Data.List.Basic
import Mathlib.Data.List.TakeDrop

/-! Written numbers read back. A natural number that fits a word is written in decimal digits
without a leading zero; whatever stands behind it, as long as it does not go on as a number,
the digits are read as a number of the same value, which is never too large. -/
namespace LinkLocal.Json.Number

/-- Whether a text does not go on as a number that stands in front of it. -/
def Ends (rest : List Char) : Prop :=
  ∀ c ∈ rest.head?, c.isDigit = false ∧ c ≠ '.' ∧ c ≠ 'e' ∧ c ≠ 'E'

/-- A number that is written with digits alone. -/
def ofDigits (ds : List Char) : Number := ⟨false, ds, none, none⟩

variable {ds rest : List Char} {n : Nat}

/-! ## Digits -/

/-- A number other than zero is not written with a leading zero. -/
theorem head_toDigits_ne (pos : 0 < n) : (Nat.toDigits 10 n).head? ≠ some '0' := by
  induction n using Nat.strongRecOn with
  | _ n ih =>
    by_cases small : n < 10
    · rw [Nat.toDigits_of_lt_base small]
      have all : ∀ d < 10, 0 < d → [Nat.digitChar d].head? ≠ some '0' := by decide
      exact all n small pos
    · rw [Nat.toDigits_of_base_le (by decide) (by omega), List.head?_append_of_ne_nil _
        Nat.toDigits_ne_nil]
      exact ih (n / 10) (by omega) (by omega)

/-- Digits with a leading zero are that zero alone. -/
theorem toDigits_of_zero {ds : List Char} (leading : Nat.toDigits 10 n = '0' :: ds) : ds = [] := by
  cases n with
  | zero =>
    cases leading
    rfl
  | succ n =>
    have head := head_toDigits_ne n.succ_pos
    rw [leading] at head
    exact absurd rfl head

theorem spanDigits_append (digits : ∀ c ∈ ds, c.isDigit = true) (ends : Ends rest) :
    spanDigits (ds ++ rest) = (ds, rest) := by
  have behind : rest.takeWhile Char.isDigit = [] ∧ rest.dropWhile Char.isDigit = rest := by
    cases rest with
    | nil => exact ⟨rfl, rfl⟩
    | cons c rest =>
      have other := (ends c rfl).1
      simp [other]
  rw [spanDigits, List.span_eq_takeWhile_dropWhile, List.takeWhile_append_of_pos digits,
    List.dropWhile_append_of_pos digits, behind.1, behind.2, List.append_nil]

theorem someDigits_append (there : ds ≠ []) (digits : ∀ c ∈ ds, c.isDigit = true)
    (ends : Ends rest) : someDigits (ds ++ rest) = .ok (ds, rest) := by
  rw [someDigits, spanDigits_append digits ends]
  cases ds with
  | nil => exact absurd rfl there
  | cons d ds => rfl

/-! ## Range -/

theorem le_ofDigitChars (m : Nat) (cs : List Char) : m ≤ Nat.ofDigitChars 10 cs m := by
  rw [Nat.ofDigitChars_eq_ofDigitChars_zero]
  exact Nat.le_trans (Nat.le_mul_of_pos_left m (Nat.pow_pos (by decide))) (Nat.le_add_right _ _)

/-- Digits whose value fits a word are all taken into the significand. -/
theorem gather_eq {m : Nat} {cs : List Char} (fits : Nat.ofDigitChars 10 cs m ≤ wordMax) :
    gather m cs = (Nat.ofDigitChars 10 cs m, 0) := by
  induction cs generalizing m with
  | nil => rfl
  | cons c cs ih =>
    rw [Nat.ofDigitChars_cons] at fits ⊢
    have room : 10 * m + (c.toNat - 48) ≤ wordMax := Nat.le_trans (le_ofDigitChars _ cs) fits
    rw [gather, if_pos room]
    exact ih fits

/-- Rounding gives at most one more than twice the number. -/
theorem round53_le (m : Nat) : round53 m ≤ 2 * m + 1 := by
  have low : m / Nat.pow 2 (m.log2 - 52) * Nat.pow 2 (m.log2 - 52) ≤ m := Nat.div_mul_le_self _ _
  have unit : Nat.pow 2 (m.log2 - 52) ≤ m + 1 := by
    by_cases zero : m = 0
    · rw [zero]
      decide
    · have shorter : 2 ^ (m.log2 - 52) ≤ 2 ^ m.log2 :=
        Nat.pow_le_pow_right (by decide) (Nat.sub_le _ _)
      exact Nat.le_succ_of_le (Nat.le_trans shorter (Nat.log2_self_le zero))
  simp only [round53]
  split <;> omega

/-- A significand that fits a word is never too large by itself. -/
theorem overflows_zero {m : Nat} (fits : m ≤ wordMax) : overflows m 0 = false := by
  have range : 2 * wordMax + 1 < infinity := by decide +kernel
  have rounded := round53_le m
  have one : round53 (Nat.pow 10 (0 : Int).toNat) = 1 := by decide +kernel
  have small : ¬ infinity ≤ round53 m * round53 (Nat.pow 10 (0 : Int).toNat) := by
    rw [one]
    omega
  rw [overflows, decide_eq_false small, Bool.or_false]
  exact Bool.and_false _

theorem isTooLarge_ofDigits (fits : Nat.ofDigitChars 10 ds 0 ≤ wordMax) :
    (ofDigits ds).isTooLarge = false := by
  have scaled : (ofDigits ds).scaled = (Nat.ofDigitChars 10 ds 0, 0) := by
    simp only [Number.scaled, ofDigits, gather_eq fits]
    rfl
  simp only [isTooLarge, scaled]
  exact overflows_zero fits

/-! ## Reading -/

theorem readWhole_toDigits (n : Nat) (ends : Ends rest) :
    readWhole (Nat.toDigits 10 n ++ rest) = .ok (Nat.toDigits 10 n, rest) := by
  have digits : ∀ c ∈ Nat.toDigits 10 n, c.isDigit = true :=
    fun _ member => Nat.isDigit_of_mem_toDigits (by decide) (by decide) member
  rw [readWhole, someDigits_append Nat.toDigits_ne_nil digits ends]
  split
  · next leading =>
    injection leading with leading
    cases toDigits_of_zero (congrArg Prod.fst leading)
  · rfl

theorem readFraction_of_ends (ends : Ends rest) : readFraction rest = .ok (none, rest) := by
  cases rest with
  | nil => rfl
  | cons c rest =>
    rw [readFraction]
    rintro _ ⟨rfl, _⟩
    exact (ends '.' rfl).2.1 rfl

theorem readExponent_of_ends (ends : Ends rest) : readExponent rest = .ok (none, rest) := by
  cases rest with
  | nil => rfl
  | cons c rest =>
    obtain ⟨_, _, small, capital⟩ := ends c rfl
    simp only [readExponent, small, capital, or_self, if_false]

theorem readAny_toDigits (n : Nat) (ends : Ends rest) :
    readAny (Nat.toDigits 10 n ++ rest) = .ok (ofDigits (Nat.toDigits 10 n), rest) := by
  have whole := readWhole_toDigits n ends
  have unsigned : ∀ ds, Nat.toDigits 10 n ++ rest ≠ '-' :: ds := by
    intro ds same
    have member : '-' ∈ Nat.toDigits 10 n := by
      refine List.mem_of_mem_head? ?_
      rw [← List.head?_append_of_ne_nil _ Nat.toDigits_ne_nil, same]
      rfl
    cases Nat.isDigit_of_mem_toDigits (by decide) (by decide) member
  simp only [readAny, whole, readFraction_of_ends ends, readExponent_of_ends ends, bind,
    Except.bind]
  rfl

/-- A natural number that fits a word is read as it was written. -/
theorem read_toDigits (fits : n ≤ wordMax) (ends : Ends rest) :
    read (Nat.toDigits 10 n ++ rest) = .ok (ofDigits (Nat.toDigits 10 n), rest) := by
  have room : (ofDigits (Nat.toDigits 10 n)).isTooLarge = false :=
    isTooLarge_ofDigits (by rwa [Nat.ofDigitChars_ten_toDigits])
  simp only [read, readAny_toDigits n ends, bind, Except.bind, room]
  rfl

theorem natural?_ofDigits (n : Nat) : (ofDigits (Nat.toDigits 10 n)).natural? = some n :=
  congrArg some Nat.ofDigitChars_ten_toDigits

end LinkLocal.Json.Number
