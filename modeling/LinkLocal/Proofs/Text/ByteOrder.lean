import Mathlib.Data.List.Lex
import Mathlib.Data.String.Basic

/-! The order of texts is the order of their bytes. A text is compared character by character, and
is kept as bytes, one to four for a character. Of two characters the smaller one has the smaller
bytes, whatever stands behind them, because the first byte tells how many there are, and more bytes
stand for larger characters. So comparing texts byte by byte comes to the same. -/
namespace LinkLocal.Text

/-- The bytes of a text. -/
def bytes (s : String) : List UInt8 := s.toUTF8.data.toList

theorem bytes_eq (s : String) : bytes s = s.toList.flatMap String.utf8EncodeChar := by
  rw [bytes, String.toUTF8_eq_toByteArray, ← String.utf8Encode_toList, List.utf8Encode,
    List.toList_data_toByteArray]

theorem ofNat_lt_ofNat {m n : Nat} (hm : m < 256) (hn : n < 256) :
    UInt8.ofNat m < UInt8.ofNat n ↔ m < n := by
  rw [UInt8.lt_iff_toNat_lt, UInt8.toNat_ofNat_of_lt' hm, UInt8.toNat_ofNat_of_lt' hn]

theorem ofNat_eq_ofNat {m n : Nat} (hm : m < 256) (hn : n < 256) :
    UInt8.ofNat m = UInt8.ofNat n ↔ m = n := by
  rw [← UInt8.toNat_inj, UInt8.toNat_ofNat_of_lt' hm, UInt8.toNat_ofNat_of_lt' hn]

/-- The bytes of a character by its number. The first byte grows with the number of bytes, and the
others carry six bits each. -/
theorem utf8EncodeChar_cases (c : Char) :
    c.toNat < 0x80 ∧ String.utf8EncodeChar c = [UInt8.ofNat c.toNat] ∨
    (0x80 ≤ c.toNat ∧ c.toNat < 0x800) ∧ String.utf8EncodeChar c =
      [UInt8.ofNat (c.toNat / 64 + 192), UInt8.ofNat (c.toNat % 64 + 128)] ∨
    (0x800 ≤ c.toNat ∧ c.toNat < 0x10000) ∧ String.utf8EncodeChar c =
      [UInt8.ofNat (c.toNat / 4096 + 224), UInt8.ofNat (c.toNat / 64 % 64 + 128),
        UInt8.ofNat (c.toNat % 64 + 128)] ∨
    (0x10000 ≤ c.toNat ∧ c.toNat < 0x110000) ∧ String.utf8EncodeChar c =
      [UInt8.ofNat (c.toNat / 262144 + 240), UInt8.ofNat (c.toNat / 4096 % 64 + 128),
        UInt8.ofNat (c.toNat / 64 % 64 + 128), UInt8.ofNat (c.toNat % 64 + 128)] := by
  have range : c.toNat < 0x110000 := by
    rcases c.valid with below | ⟨_, above⟩
    · exact Nat.lt_trans below (by decide)
    · exact above
  have small {n m : Nat} (lt : n < m) : n % m = n := Nat.mod_eq_of_lt lt
  simp only [String.utf8EncodeChar, ← Char.toNat_val] at *
  generalize c.val.toNat = n at *
  split
  · exact .inl ⟨by omega, rfl⟩
  · split
    · exact .inr (.inl ⟨by omega, by rw [small (by omega)]⟩)
    · split
      · exact .inr (.inr (.inl ⟨by omega, by rw [small (by omega)]⟩))
      · exact .inr (.inr (.inr ⟨by omega, by rw [small (by omega)]⟩))

/-- Of two characters the smaller one has the smaller bytes, whatever stands behind them. -/
theorem utf8EncodeChar_append_lt {c d : Char} (lt : c < d) (u v : List UInt8) :
    String.utf8EncodeChar c ++ u < String.utf8EncodeChar d ++ v := by
  have lt : c.toNat < d.toNat := lt
  rcases utf8EncodeChar_cases c with ⟨size, code⟩ | ⟨size, code⟩ | ⟨size, code⟩ | ⟨size, code⟩ <;>
    rcases utf8EncodeChar_cases d with
      ⟨size', code'⟩ | ⟨size', code'⟩ | ⟨size', code'⟩ | ⟨size', code'⟩ <;>
    simp (disch := omega) only [code, code', List.cons_append, List.nil_append,
      List.cons_lt_cons_iff, ofNat_lt_ofNat, ofNat_eq_ofNat] <;>
    omega

theorem flatMap_lt_flatMap {cs ds : List Char} (lt : cs < ds) :
    cs.flatMap String.utf8EncodeChar < ds.flatMap String.utf8EncodeChar := by
  induction cs generalizing ds with
  | nil =>
    cases ds with
    | nil => exact absurd lt (List.lt_irrefl [])
    | cons d ds =>
      have there : String.utf8EncodeChar d ≠ [] := by
        intro none
        have size := String.length_utf8EncodeChar d
        rw [none] at size
        exact absurd size.symm (Nat.ne_of_gt d.utf8Size_pos)
      obtain ⟨b, bs, code⟩ := List.exists_cons_of_ne_nil there
      rw [List.flatMap_cons, code]
      exact List.nil_lt_cons b _
  | cons c cs ih =>
    cases ds with
    | nil => exact absurd lt (List.not_lt_nil _)
    | cons d ds =>
      rw [List.flatMap_cons, List.flatMap_cons]
      rcases List.cons_lt_cons_iff.mp lt with smaller | ⟨rfl, later⟩
      · exact utf8EncodeChar_append_lt smaller _ _
      · exact List.append_left_lt (ih later)

/-- Comparing texts character by character comes to the same as comparing them byte by byte. -/
theorem bytes_lt_bytes_iff {s t : String} : bytes s < bytes t ↔ s < t := by
  rw [bytes_eq, bytes_eq, String.lt_iff_toList_lt]
  constructor
  · intro lt
    rcases Std.lt_trichotomy s.toList t.toList with below | same | above
    · exact below
    · rw [same] at lt
      exact absurd lt (List.lt_irrefl _)
    · exact absurd (flatMap_lt_flatMap above) (List.lt_asymm lt)
  · exact flatMap_lt_flatMap

end LinkLocal.Text
