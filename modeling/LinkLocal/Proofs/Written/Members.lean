import LinkLocal.Config.Reading
import LinkLocal.Config.Written
import LinkLocal.Proofs.Written.Addresses
import LinkLocal.Proofs.Written.Numbers

/-! Written members of a configuration read back. Nothing in a text that is written between quotes
needs an escape, and nothing behind a number goes on with it, so that a value is read to the end
of what is written of it, whatever stands behind, and its field is put into the draft. -/
namespace LinkLocal

/-! ## Text between quotes -/

/-- Whether a text may stand between quotes as it is. -/
abbrev IsPlain (cs : List Char) : Prop := cs.all Json.isPlain = true

variable {cs rest : List Char}

/-- Parts with a mark between them: the first, and each other one behind its mark. -/
theorem intercalate_cons {sep part : List Char} (parts : List (List Char)) :
    List.intercalate sep (part :: parts) = part ++ parts.flatMap (sep ++ ·) := by
  induction parts generalizing part with
  | nil => simp [List.intercalate]
  | cons second parts ih =>
    rw [List.intercalate_cons_cons, ih, List.flatMap_cons]
    simp

theorem isPlain_intercalate {sep : List Char} {parts : List (List Char)} (sepPlain : IsPlain sep)
    (plain : ∀ part ∈ parts, IsPlain part) : IsPlain (List.intercalate sep parts) := by
  cases parts with
  | nil => rfl
  | cons first parts =>
    rw [intercalate_cons, IsPlain, List.all_append, List.all_flatMap]
    refine Bool.and_eq_true_iff.mpr ⟨plain first List.mem_cons_self, List.all_eq_true.mpr ?_⟩
    intro part among
    rw [List.all_append]
    exact Bool.and_eq_true_iff.mpr ⟨sepPlain, plain part (List.mem_cons_of_mem first among)⟩

theorem isPlain_toDigits (n : Nat) : IsPlain (Nat.toDigits 10 n) := by
  refine List.all_eq_true.mpr fun c member => ?_
  have digit := Nat.isDigit_of_mem_toDigits (by decide) (by decide) member
  have low : 48 ≤ c.toNat := (Char.isDigit_iff_toNat.mp digit).1
  have noQuote : c ≠ '"' := by
    rintro rfl
    cases digit
  have noSlash : c ≠ '\\' := by
    rintro rfl
    cases digit
  have high : 0x20 ≤ c.toNat := by omega
  simp [Json.isPlain, noQuote, noSlash, high]

theorem LinkAddress.isPlain_chars (a : LinkAddress) : IsPlain a.chars := by
  refine isPlain_intercalate (by decide +kernel) ?_
  intro group member
  obtain ⟨b, -, rfl⟩ := List.mem_map.mp member
  have all : ∀ n < 256, IsPlain (byteChars (UInt8.ofNat n)) := by decide +kernel
  rw [← UInt8.ofNat_toNat (x := b)]
  exact all b.toNat b.toNat_lt

theorem IPv4.isPlain_chars (a : IPv4) : IsPlain a.chars := by
  refine isPlain_intercalate (by decide +kernel) ?_
  intro octet member
  obtain ⟨o, -, rfl⟩ := List.mem_map.mp member
  exact isPlain_toDigits o.toNat

theorem quotedChars_append : quotedChars cs ++ rest = '"' :: (cs ++ '"' :: rest) := by
  simp [quotedChars]

/-- No digit is a blank. -/
theorem Json.isBlank_of_isDigit {c : Char} (digit : c.isDigit = true) :
    Json.isBlank c = false := by
  refine Bool.eq_false_iff.mpr fun blank => ?_
  simp only [Json.isBlank, Bool.or_eq_true, beq_iff_eq] at blank
  rcases blank with ((rfl | rfl) | rfl) | rfl <;> cases digit

theorem Json.quoted_append (strict : Bool) (plain : IsPlain cs) :
    Json.quoted strict (cs ++ '"' :: rest) = .ok (String.ofList cs, rest) := by
  rw [Json.quoted, Json.quotedAux_append strict (List.all_eq_true.mp plain)]
  rfl

namespace Config

theorem readString_quotedChars (plain : IsPlain cs) (rest : List Char) :
    readString (quotedChars cs ++ rest) = .ok (String.ofList cs, rest) := by
  rw [quotedChars_append]
  exact congrArg ofJson (Json.quoted_append true plain)

theorem readName_quotedChars (plain : IsPlain cs) (rest : List Char) :
    readName (quotedChars cs ++ rest) = .ok (String.ofList cs, rest) := by
  rw [quotedChars_append]
  exact congrArg ofJson (Json.quoted_append true plain)

theorem readVariant_quotedChars {α : Type} {value : String → Except Mismatch α} {a : α}
    (plain : IsPlain cs) (known : value (String.ofList cs) = .ok a) (rest : List Char) :
    readVariant value (quotedChars cs ++ rest) = .ok (a, rest) := by
  have read : readVariant value (quotedChars cs ++ rest) =
      meaning value (.ok (String.ofList cs, rest)) := by
    rw [quotedChars_append]
    exact congrArg (meaning value ∘ ofJson) (Json.quoted_append true plain)
  rw [read, meaning]
  simp only [known]

theorem readNatural_toDigits {bound n : Nat} (within : n ≤ bound) (fits : n ≤ Json.Number.wordMax)
    (ends : Json.Number.Ends rest) :
    readNatural bound (Nat.toDigits 10 n ++ rest) = .ok (n, rest) := by
  have read := Json.Number.read_toDigits fits ends
  cases written : Nat.toDigits 10 n with
  | nil => exact absurd written Nat.toDigits_ne_nil
  | cons c ds =>
    have digit : c.isDigit = true :=
      Nat.isDigit_of_mem_toDigits (by decide) (by decide) (written ▸ List.mem_cons_self)
    have noBlank := Json.isBlank_of_isDigit digit
    rw [written] at read
    rw [List.cons_append] at read ⊢
    rw [readNatural, Json.skipBlanks, List.dropWhile_cons_of_neg (by simp [noBlank])]
    simp only [digit, or_true, if_true, read]
    rw [← written]
    simp only [ofJson, Except.mapError, meaning, Json.Number.natural?_ofDigits, boundedNatural,
      if_pos within]

/-! ## Members -/

/-- The written value of one field of a configuration. -/
def valueChars (c : Config) : Field → List Char
  | .ifindex => Nat.toDigits 10 c.ifindex.toNat
  | .transport => quotedChars c.transport.name.toList
  | .linkAddress => quotedChars c.linkAddress.chars
  | .enumeration => Nat.toDigits 10 c.enumeration.toNat
  | .timeoutMsec => Nat.toDigits 10 c.timeoutMsec.toNat
  | .requestedAddress => requestedChars c.requestedAddress
  | .conflictPolicy => quotedChars c.conflictPolicy.name.toList

/-- The written value of one field under its name. -/
def fieldChars (c : Config) (f : Field) : List Char := memberChars (f.name, c.valueChars f)

/-- Puts one field of a configuration into a draft. -/
def Draft.put (c : Config) (d : Draft) : Field → Draft
  | .ifindex => { d with ifindex := some c.ifindex }
  | .transport => { d with transport := some c.transport }
  | .linkAddress => { d with linkAddress := some c.linkAddress }
  | .enumeration => { d with enumeration := some c.enumeration }
  | .timeoutMsec => { d with timeoutMsec := some c.timeoutMsec }
  | .requestedAddress => { d with requestedAddress := some c.requestedAddress }
  | .conflictPolicy => { d with conflictPolicy := some c.conflictPolicy }

variable {c : Config} {d : Draft} {f g : Field}

theorem Draft.has_put (other : f ≠ g) : (d.put c f).has g = d.has g := by
  cases f <;> cases g <;> first | rfl | exact absurd rfl other

theorem readOptional_requestedChars (a? : Option IPv4) :
    readOptional (fun cs => meaning addressOfText (readString cs)) (requestedChars a? ++ rest) =
      .ok (a?, rest) := by
  cases a? with
  | none => rfl
  | some a =>
    have read := readString_quotedChars a.isPlain_chars rest
    have known : addressOfText (String.ofList a.chars) = .ok a := by
      rw [addressOfText, show IPv4.ofText? (String.ofList a.chars) = some a from a.ofText?_text]
    have step (read : List Char → Taken IPv4) : readOptional read (quotedChars a.chars ++ rest) =
        (read (quotedChars a.chars ++ rest)).map fun (a, rest) => (some a, rest) := rfl
    rw [requestedChars, step, read, meaning]
    simp only [known]
    rfl

/-- The value of a field is read from what is written of it. -/
theorem readField_valueChars (there : c.linkAddress.isEmpty = false)
    (ends : Json.Number.Ends rest) (f : Field) (d : Draft) :
    readField f d (c.valueChars f ++ rest) = .ok (d.put c f, rest) := by
  cases f with
  | ifindex =>
    have fits : c.ifindex.toNat ≤ indexMax := Nat.le_of_lt_succ c.ifindex.toNat_lt
    have read := readNatural_toDigits fits (Nat.le_trans fits (by decide)) ends
    simp only [readField, valueChars, read, Except.map, UInt32.ofNat_toNat, Draft.put]
  | transport =>
    have plain : ∀ t : Transport, IsPlain t.name.toList := by rintro (_ | _) <;> decide +kernel
    have known : ∀ t : Transport, transportOfName (String.ofList t.name.toList) = .ok t := by
      rintro (_ | _) <;> decide +kernel
    have read := readVariant_quotedChars (plain c.transport) (known c.transport) rest
    simp only [readField, valueChars, read, Except.map, Draft.put]
  | linkAddress =>
    have read := readString_quotedChars c.linkAddress.isPlain_chars rest
    have known : LinkAddress.ofText (String.ofList c.linkAddress.chars) = .ok c.linkAddress :=
      LinkAddress.ofText_text there
    simp only [readField, valueChars, read, meaning, linkAddressOfText, known, Except.mapError,
      Except.map, Draft.put]
  | enumeration =>
    have fits : c.enumeration.toNat ≤ wordMax := Nat.le_of_lt_succ c.enumeration.toNat_lt
    have read := readNatural_toDigits fits fits ends
    simp only [readField, valueChars, read, Except.map, UInt64.ofNat_toNat, Draft.put]
  | timeoutMsec =>
    have fits : c.timeoutMsec.toNat ≤ wordMax := Nat.le_of_lt_succ c.timeoutMsec.toNat_lt
    have read := readNatural_toDigits fits fits ends
    simp only [readField, valueChars, read, Except.map, UInt64.ofNat_toNat, Draft.put]
  | requestedAddress =>
    simp only [readField, valueChars, readOptional_requestedChars, Except.map, Draft.put]
  | conflictPolicy =>
    have plain : ∀ p : ConflictPolicy, IsPlain p.name.toList := by
      rintro (_ | _) <;> decide +kernel
    have known : ∀ p : ConflictPolicy, policyOfName (String.ofList p.name.toList) = .ok p := by
      rintro (_ | _) <;> decide +kernel
    have read := readVariant_quotedChars (plain c.conflictPolicy) (known c.conflictPolicy) rest
    simp only [readField, valueChars, read, Except.map, Draft.put]

/-- What stands in front of the name of a member: a comma, unless it is the first. -/
def lead (first : Bool) : List Char := if first then [] else [',']

theorem nextName_lead (first : Bool) (plain : IsPlain cs) (rest : List Char) :
    nextName first (lead first ++ (quotedChars cs ++ rest)) =
      .ok (some (String.ofList cs), rest) := by
  have read := readName_quotedChars plain rest
  have step : nextName first (lead first ++ (quotedChars cs ++ rest)) =
      (readName (quotedChars cs ++ rest)).map fun taken => (some taken.1, taken.2) := by
    cases first <;> rfl
  rw [step, read]
  rfl

/-- A member whose field is not known yet is read into the draft. -/
theorem readMembers_fieldChars (there : c.linkAddress.isEmpty = false) (fuel : Nat)
    (first : Bool) (fresh : d.has f = false) (ends : Json.Number.Ends rest) :
    readMembers (fuel + 1) first d (lead first ++ (c.fieldChars f ++ rest)) =
      readMembers fuel false (d.put c f) rest := by
  have plain : IsPlain f.name.toList := by cases f <;> decide +kernel
  have field : Field.ofName? (String.ofList f.name.toList) = some f := by
    cases f <;> decide +kernel
  have name := nextName_lead first plain (':' :: (c.valueChars f ++ rest))
  have value := readField_valueChars there ends f d
  have text : c.fieldChars f ++ rest =
      quotedChars f.name.toList ++ ':' :: (c.valueChars f ++ rest) := by
    simp [fieldChars, memberChars]
  have mark : ofJson (Json.readMark ':' (':' :: (c.valueChars f ++ rest))) =
      .ok ((), c.valueChars f ++ rest) := rfl
  rw [text, readMembers]
  simp only [name, field, fresh, mark, value]
  rfl

end Config
end LinkLocal
