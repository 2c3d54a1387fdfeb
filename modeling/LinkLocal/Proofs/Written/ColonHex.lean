import LinkLocal.Proofs.Written.Members
import Mathlib.Data.List.Forall2

/-! The form of a link address: groups of one or two hexadecimal digits with single colons between
them. It is told here without the reader, by a table of digits and by how groups and texts are put
together. The reader keeps to it with one exception: a plus sign in front of a single digit passes
for a zero. So the reader keeps to the form exactly at those texts that do not come into it by
putting zeros in the place of such signs. -/
namespace LinkLocal.LinkAddress

/-! ## The form -/

/-- The hexadecimal digits of either case, with their values. -/
def hexDigits : List (Char × Nat) :=
  [('0', 0), ('1', 1), ('2', 2), ('3', 3), ('4', 4), ('5', 5), ('6', 6), ('7', 7), ('8', 8),
    ('9', 9), ('a', 10), ('b', 11), ('c', 12), ('d', 13), ('e', 14), ('f', 15), ('A', 10),
    ('B', 11), ('C', 12), ('D', 13), ('E', 14), ('F', 15)]

/-- A group of one or two hexadecimal digits, and its value. -/
inductive Group : List Char → Nat → Prop where
  | one {c : Char} {x : Nat} (digit : (c, x) ∈ hexDigits) : Group [c] x
  | two {c d : Char} {x y : Nat} (high : (c, x) ∈ hexDigits) (low : (d, y) ∈ hexDigits) :
      Group [c, d] (16 * x + y)

/-- A group as it is read, and its value: a single digit may have a plus sign in front. -/
inductive LooseGroup : List Char → Nat → Prop where
  | formed {cs : List Char} {x : Nat} (group : Group cs x) : LooseGroup cs x
  | signed {c : Char} {x : Nat} (digit : (c, x) ∈ hexDigits) : LooseGroup ['+', c] x

/-- A text has the form of a link address: one group or more, with single colons between them. -/
def Formed (s : String) : Prop :=
  ∃ groups ≠ [], s.toList = List.intercalate [':'] groups ∧ ∀ g ∈ groups, ∃ x, Group g x

/-- A text spells an address by groups of a kind: it is one group or more with single colons
between them, and their values are the bytes of the address. -/
def Spells (kind : List Char → Nat → Prop) (s : String) (a : LinkAddress) : Prop :=
  ∃ groups ≠ [], s.toList = List.intercalate [':'] groups ∧
    List.Forall₂ kind groups (a.bytes.map UInt8.toNat)

/-- A text is signed that is spelled by groups as they are read and has a plus sign in it. -/
def Signed (s : String) : Prop := '+' ∈ s.toList ∧ ∃ a, Spells LooseGroup s a

/-- A group in small letters, filled up with zeros to two digits. -/
def tidy (group : List Char) : List Char := (group.map Char.toLower).leftpad 2 '0'

/-- A text with all of its groups tidied. -/
def tidied (s : String) : String :=
  String.ofList (List.intercalate [':'] ((s.toList.splitOn ':').map tidy))

/-- A zero in the place of a plus sign. -/
def signAsZero (c : Char) : Char := if c = '+' then '0' else c

/-- Reading keeps to the form at a text: the text is read exactly if it has the form, its bytes are
the values of its groups, and it is written again as the tidied text. -/
structure KeepsForm (s : String) : Prop where
  accepts : (∃ a, ofText s = .ok a) ↔ Formed s
  reads : ∀ a, ofText s = .ok a ↔ Spells Group s a
  writes : ∀ a, ofText s = .ok a → a.text = tidied s

/-! ## Digits -/

/-- All there is to know of a hexadecimal digit: how it is read and written, and that it is none of
the other marks. -/
structure Hex (c : Char) (x : Nat) : Prop where
  small : x < 16
  byte : c.utf8Size = 1
  value : Text.digitValue? 16 c = some x
  written : Nat.digitChar x = c.toLower
  ne_colon : c ≠ ':'
  ne_plus : c ≠ '+'

theorem hex_of_mem {c : Char} {x : Nat} (member : (c, x) ∈ hexDigits) : Hex c x := by
  have all : ∀ e ∈ hexDigits, e.2 < 16 ∧ e.1.utf8Size = 1 ∧ Text.digitValue? 16 e.1 = some e.2 ∧
      Nat.digitChar e.2 = e.1.toLower ∧ e.1 ≠ ':' ∧ e.1 ≠ '+' := by decide
  obtain ⟨small, byte, value, written, ne_colon, ne_plus⟩ := all _ member
  exact ⟨small, byte, value, written, ne_colon, ne_plus⟩

/-- A character beyond the small letters is no digit. -/
theorem toNat_lt_of_digitValue? {c : Char} {x : Nat} (value : Text.digitValue? 16 c = some x) :
    c.toNat < 128 := by
  have upTo {a : Char} (le : c ≤ a) (ascii : a.toNat < 128) : c.toNat < 128 :=
    Nat.lt_of_le_of_lt le ascii
  unfold Text.digitValue? at value
  dsimp only at value
  split at value
  · next digit => exact upTo digit.2 (by decide)
  · split at value
    · next letter => exact upTo letter.2 (by decide)
    · split at value
      · next capital => exact upTo capital.2 (by decide)
      · cases value

/-- The reader takes exactly the hexadecimal digits for digits. -/
theorem digitValue?_eq_some_iff {c : Char} {x : Nat} :
    Text.digitValue? 16 c = some x ↔ (c, x) ∈ hexDigits := by
  constructor
  · intro value
    have all : ∀ n < 128, ∀ x ∈ Text.digitValue? 16 (Char.ofNat n),
        (Char.ofNat n, x) ∈ hexDigits := by decide
    have member := all c.toNat (toNat_lt_of_digitValue? value)
    rw [Char.ofNat_toNat] at member
    exact member x value
  · intro member
    exact (hex_of_mem member).value

/-! ## Groups -/

theorem readDigits_one {c : Char} {v : Nat} :
    Text.readDigits 16 255 0 [c] = .ok v ↔ (c, v) ∈ hexDigits := by
  rw [← digitValue?_eq_some_iff, Text.readDigits]
  cases value : Text.digitValue? 16 c with
  | none => simp
  | some x =>
    have small := (hex_of_mem (digitValue?_eq_some_iff.mp value)).small
    dsimp only
    rw [if_pos (by omega), Text.readDigits]
    simp

theorem readDigits_two {c d : Char} {v : Nat} : Text.readDigits 16 255 0 [c, d] = .ok v ↔
    ∃ x y, (c, x) ∈ hexDigits ∧ (d, y) ∈ hexDigits ∧ 16 * x + y = v := by
  simp only [← digitValue?_eq_some_iff]
  rw [Text.readDigits]
  cases first : Text.digitValue? 16 c with
  | none => simp
  | some x =>
    have high := (hex_of_mem (digitValue?_eq_some_iff.mp first)).small
    dsimp only
    rw [if_pos (by omega), Text.readDigits]
    cases second : Text.digitValue? 16 d with
    | none => simp
    | some y =>
      have low := (hex_of_mem (digitValue?_eq_some_iff.mp second)).small
      dsimp only
      rw [if_pos (by omega), Text.readDigits]
      simp

theorem readNumeral_of_ne_plus {c : Char} {cs : List Char} (other : c ≠ '+') :
    Text.readNumeral 16 255 (c :: cs) = Text.readDigits 16 255 0 (c :: cs) := by
  unfold Text.readNumeral
  split
  · next empty => cases empty
  · next sign => exact absurd (List.head_eq_of_cons_eq sign) other
  · next sign => exact absurd (List.head_eq_of_cons_eq sign) other
  · rfl

/-- A plus sign by itself is no group, and in front it leaves room for one digit. -/
theorem readNumeral_eq_ok_iff {cs : List Char} {v : Nat} (some : cs ≠ []) (few : cs.length ≤ 2) :
    Text.readNumeral 16 255 cs = .ok v ↔ LooseGroup cs v := by
  match cs with
  | [c] =>
    by_cases sign : c = '+'
    · subst sign
      constructor
      · intro read
        cases read
      · rintro ⟨digit | _⟩
        exact absurd rfl (hex_of_mem digit).ne_plus
    · rw [readNumeral_of_ne_plus sign, readDigits_one]
      constructor
      · intro digit
        exact .formed (.one digit)
      · rintro ⟨digit | _⟩
        exact digit
  | [c, d] =>
    by_cases sign : c = '+'
    · subst sign
      rw [Text.readNumeral, readDigits_one]
      · constructor
        · intro digit
          exact .signed digit
        · intro loose
          cases loose with
          | formed group =>
            cases group with
            | two high _ => exact absurd rfl (hex_of_mem high).ne_plus
          | signed digit => exact digit
      · rintro ⟨⟩
    · rw [readNumeral_of_ne_plus sign, readDigits_two]
      constructor
      · rintro ⟨x, y, high, low, rfl⟩
        exact .formed (.two high low)
      · intro loose
        cases loose with
        | formed group =>
          cases group with
          | two high low => exact ⟨_, _, high, low, rfl⟩
        | signed _ => exact absurd rfl sign

/-- Characters that take up one byte or two are one or two. -/
theorem length_of_byteCount {cs : List Char} (short : byteCount cs = 1 ∨ byteCount cs = 2) :
    cs ≠ [] ∧ cs.length ≤ 2 := by
  match cs with
  | [] => simp [byteCount] at short
  | [_] | [_, _] => simp
  | c :: d :: e :: cs =>
    have first := c.utf8Size_pos
    have second := d.utf8Size_pos
    have third := e.utf8Size_pos
    simp only [byteCount] at short
    omega

/-- A group that is read takes up one byte for each of its characters. -/
theorem LooseGroup.byteCount_eq {cs : List Char} {v : Nat} (loose : LooseGroup cs v) :
    byteCount cs = 1 ∨ byteCount cs = 2 := by
  cases loose with
  | formed group =>
    cases group with
    | one digit => exact .inl (by rw [byteCount, (hex_of_mem digit).byte, byteCount])
    | two high low =>
      exact .inr (by rw [byteCount, byteCount, (hex_of_mem high).byte, (hex_of_mem low).byte]; rfl)
  | signed digit => exact .inr (by rw [byteCount, byteCount, (hex_of_mem digit).byte]; rfl)

theorem LooseGroup.lt {cs : List Char} {v : Nat} (loose : LooseGroup cs v) : v < 256 := by
  cases loose with
  | formed group =>
    cases group with
    | one digit => have := (hex_of_mem digit).small; omega
    | two high low =>
      have := (hex_of_mem high).small
      have := (hex_of_mem low).small
      omega
  | signed digit => have := (hex_of_mem digit).small; omega

theorem group?_eq_some_iff {cs : List Char} {b : UInt8} :
    group? cs = some b ↔ LooseGroup cs b.toNat := by
  unfold group?
  constructor
  · intro read
    split at read
    · next short =>
      obtain ⟨there, few⟩ := length_of_byteCount short
      cases value : Text.readNumeral 16 255 cs with
      | error fault => simp [value, Except.toOption] at read
      | ok v =>
        have loose := (readNumeral_eq_ok_iff there few).mp value
        simp only [value, Except.toOption, Option.map_some, Option.some.injEq] at read
        rw [← read, UInt8.toNat_ofNat_of_lt' loose.lt]
        exact loose
    · cases read
  · intro loose
    have short := loose.byteCount_eq
    obtain ⟨there, few⟩ := length_of_byteCount short
    rw [if_pos short, (readNumeral_eq_ok_iff there few).mpr loose]
    simp [Except.toOption]

theorem LooseGroup.colon_notMem {cs : List Char} {v : Nat} (loose : LooseGroup cs v) :
    ':' ∉ cs := by
  intro colon
  cases loose with
  | formed group =>
    cases group with
    | one digit =>
      have other := (hex_of_mem digit).ne_colon
      simp [other.symm] at colon
    | two high low =>
      have other := (hex_of_mem high).ne_colon
      have other' := (hex_of_mem low).ne_colon
      simp [other.symm, other'.symm] at colon
  | signed digit =>
    have other := (hex_of_mem digit).ne_colon
    simp [other.symm] at colon

theorem Group.plus_notMem {cs : List Char} {v : Nat} (group : Group cs v) : '+' ∉ cs := by
  intro plus
  cases group with
  | one digit =>
    have other := (hex_of_mem digit).ne_plus
    simp [other.symm] at plus
  | two high low =>
    have other := (hex_of_mem high).ne_plus
    have other' := (hex_of_mem low).ne_plus
    simp [other.symm, other'.symm] at plus

theorem map_signAsZero {cs : List Char} (unsigned : '+' ∉ cs) : cs.map signAsZero = cs := by
  refine (List.map_congr_left fun c member => ?_).trans (List.map_id cs)
  have other : c ≠ '+' := fun plus => unsigned (plus ▸ member)
  exact if_neg other

/-- A group that is read is in form when its plus sign is a zero. -/
theorem LooseGroup.formed_map {cs : List Char} {v : Nat} (loose : LooseGroup cs v) :
    Group (cs.map signAsZero) v := by
  cases loose with
  | formed group => rwa [map_signAsZero group.plus_notMem]
  | @signed c _ digit =>
    have other := (hex_of_mem digit).ne_plus
    have zero : ('0', 0) ∈ hexDigits := List.mem_cons_self
    have filled := Group.two zero digit
    simpa [signAsZero, other] using filled

/-- A group in form is written again as it is when tidied. -/
theorem Group.tidy_eq {cs : List Char} {b : UInt8} (group : Group cs b.toNat) :
    tidy cs = byteChars b := by
  unfold byteChars
  generalize b.toNat = v at group
  cases group with
  | @one c _ digit =>
    have hex := hex_of_mem digit
    rw [Nat.div_eq_of_lt hex.small, Nat.mod_eq_of_lt hex.small, hex.written]
    rfl
  | @two c d x y high low =>
    have hex := hex_of_mem high
    have hex' := hex_of_mem low
    have quotient : (16 * x + y) / 16 = x := by have := hex'.small; omega
    have rest : (16 * x + y) % 16 = y := by have := hex'.small; omega
    rw [quotient, rest, hex.written, hex'.written]
    rfl

/-! ## Texts -/

variable {s : String} {a : LinkAddress}

/-- What holds of each group of a kind holds of all the groups that have values. -/
theorem holds_of_forall₂ {kind : List Char → Nat → Prop} {holds : List Char → Prop}
    {groups : List (List Char)} {values : List Nat} (of : ∀ g v, kind g v → holds g)
    (all : List.Forall₂ kind groups values) : ∀ g ∈ groups, holds g := by
  have both := all.imp fun _ _ group => And.intro (of _ _ group) group
  exact ((List.forall₂_and_left groups values).mp both).1

/-- The groups of a text are read one by one. -/
theorem mapM_group?_eq_some_iff {groups : List (List Char)} {bytes : List UInt8} :
    groups.mapM group? = some bytes ↔
      List.Forall₂ LooseGroup groups (bytes.map UInt8.toNat) := by
  rw [List.forall₂_map_right_iff]
  induction groups generalizing bytes with
  | nil => cases bytes <;> simp
  | cons g groups ih =>
    rw [List.mapM_cons, List.forall₂_cons_left_iff]
    constructor
    · intro read
      obtain ⟨b, first, rest⟩ := Option.bind_eq_some_iff.mp read
      obtain ⟨bs, others, same⟩ := Option.bind_eq_some_iff.mp rest
      cases same
      exact ⟨b, bs, group?_eq_some_iff.mp first, ih.mp others, rfl⟩
    · rintro ⟨b, bs, first, others, rfl⟩
      rw [group?_eq_some_iff.mpr first, ih.mpr others]
      rfl

theorem ofText_eq_ok_iff : ofText s = .ok a ↔ ofChars? s.toList = some a := by
  unfold ofText
  split
  · next empty =>
    have nothing : s.toList = [] := by simpa using empty
    have unread : ofChars? [] = none := by decide
    simp [nothing, unread]
  · cases ofChars? s.toList <;> simp

/-- What is read is what is spelled by groups as they are read. -/
theorem ofText_eq_ok_iff_spells : ofText s = .ok a ↔ Spells LooseGroup s a := by
  rw [ofText_eq_ok_iff, ofChars?]
  constructor
  · intro read
    obtain ⟨bytes, groups, rfl⟩ := Option.map_eq_some_iff.mp read
    exact ⟨s.toList.splitOn ':', List.splitOn_ne_nil ':' _, (List.intercalate_splitOn ':').symm,
      mapM_group?_eq_some_iff.mp groups⟩
  · rintro ⟨groups, there, spelled, values⟩
    have apart := holds_of_forall₂ (fun _ _ loose => loose.colon_notMem) values
    rw [spelled, List.splitOn_intercalate ':' apart there, mapM_group?_eq_some_iff.mpr values]
    rfl

/-- An address is written as the text that spells it, tidied. -/
theorem Spells.text_eq (spells : Spells Group s a) : a.text = tidied s := by
  obtain ⟨groups, there, spelled, values⟩ := spells
  have apart : ∀ g ∈ groups, ':' ∉ g :=
    holds_of_forall₂ (fun _ _ (group : Group _ _) => (LooseGroup.formed group).colon_notMem) values
  have tidy : groups.map tidy = a.bytes.map byteChars := by
    rw [List.forall₂_map_right_iff] at values
    have parts := values.imp fun _ _ group => group.tidy_eq
    rwa [← List.forall₂_eq_eq_eq, List.forall₂_map_left_iff, List.forall₂_map_right_iff]
  rw [text, chars, tidied, spelled, List.splitOn_intercalate ':' apart there, tidy]

/-- A change of marks that leaves the colons changes the groups one by one. -/
theorem map_intercalate {f : Char → Char} (colon : f ':' = ':') (groups : List (List Char)) :
    (List.intercalate [':'] groups).map f = List.intercalate [':'] (groups.map (List.map f)) := by
  cases groups with
  | nil => rfl
  | cons g groups =>
    rw [List.map_cons, intercalate_cons, intercalate_cons, List.map_append, List.map_flatMap,
      List.flatMap_map]
    simp only [List.singleton_append, List.map_cons, colon]

/-- A text that is read spells the same address with zeros in the place of its plus signs. -/
theorem Spells.unsigned (spells : Spells LooseGroup s a) : Spells Group (s.map signAsZero) a := by
  obtain ⟨groups, there, spelled, values⟩ := spells
  refine ⟨groups.map (List.map signAsZero), ?_, ?_, ?_⟩
  · intro none
    exact there (List.map_eq_nil_iff.mp none)
  · rw [String.toList_map, spelled, map_intercalate rfl]
  · exact List.forall₂_map_left_iff.mpr (values.imp fun _ _ loose => loose.formed_map)

theorem Spells.formed (spells : Spells LooseGroup s a) (unsigned : '+' ∉ s.toList) :
    Spells Group s a := by
  have same : s.map signAsZero = s := by
    rw [← String.toList_inj, String.toList_map, map_signAsZero unsigned]
  exact same ▸ spells.unsigned

/-- A text that has the form spells an address: no value of a group is too large for a byte. -/
theorem formed_iff_exists_spells : Formed s ↔ ∃ a, Spells Group s a := by
  constructor
  · rintro ⟨groups, there, spelled, grouped⟩
    suffices values : ∃ bytes : List UInt8, List.Forall₂ Group groups (bytes.map UInt8.toNat) by
      obtain ⟨bytes, values⟩ := values
      exact ⟨⟨bytes⟩, groups, there, spelled, values⟩
    clear there spelled
    induction groups with
    | nil => exact ⟨[], .nil⟩
    | cons g groups ih =>
      obtain ⟨bytes, values⟩ := ih fun g' member => grouped g' (List.mem_cons_of_mem g member)
      obtain ⟨x, group⟩ := grouped g List.mem_cons_self
      have same : (UInt8.ofNat x).toNat = x := UInt8.toNat_ofNat_of_lt' (LooseGroup.formed group).lt
      exact ⟨UInt8.ofNat x :: bytes, .cons (same.symm ▸ group) values⟩
  · rintro ⟨a, groups, there, spelled, values⟩
    exact ⟨groups, there, spelled, holds_of_forall₂ (fun _ x group => ⟨x, group⟩) values⟩

theorem Spells.loose (spells : Spells Group s a) : Spells LooseGroup s a := by
  obtain ⟨groups, there, spelled, values⟩ := spells
  exact ⟨groups, there, spelled, values.imp fun _ _ => .formed⟩

/-- There is no plus sign in a text that has the form. -/
theorem Spells.plus_notMem (spells : Spells Group s a) : '+' ∉ s.toList := by
  obtain ⟨groups, there, spelled, values⟩ := spells
  have without := holds_of_forall₂ (fun _ _ group => group.plus_notMem) values
  cases groups with
  | nil => exact absurd rfl there
  | cons g groups =>
    rw [spelled, intercalate_cons, List.mem_append, List.mem_flatMap]
    rintro (first | ⟨g', among, later⟩)
    · exact without g List.mem_cons_self first
    · have plus : '+' ∈ g' := by simpa using later
      exact without g' (List.mem_cons_of_mem g among) plus

/-- Why a text is not read: there is nothing of it, or it is malformed as a whole. -/
theorem fault_of_ofText {fault : InvalidArgument} (unread : ofText s = .error fault) :
    fault = if s = "" then .emptyLinkAddress else .malformedLinkAddress s := by
  rw [ofText] at unread
  split at unread
  · next empty =>
    cases unread
    exact (if_pos (String.isEmpty_iff.mp empty)).symm
  · next there =>
    have nonempty : s ≠ "" := fun empty => there (String.isEmpty_iff.mpr empty)
    split at unread
    · cases unread
    · cases unread
      exact (if_neg nonempty).symm

/-- Reading keeps to the form at a text exactly if the text is not signed. At every text, what is
read is what is spelled by groups with or without signs, where a sign counts as a zero, in the
value as in what is written again; and a text that is not read is reported as a whole. -/
theorem keepsForm_iff (s : String) : (KeepsForm s ↔ ¬ Signed s) ∧
    (∀ a, ofText s = .ok a ↔ Spells LooseGroup s a) ∧
    (∀ a, ofText s = .ok a →
      Spells Group (s.map signAsZero) a ∧ a.text = tidied (s.map signAsZero)) ∧
    ∀ fault, ofText s = .error fault →
      fault = if s = "" then .emptyLinkAddress else .malformedLinkAddress s := by
  refine ⟨⟨?_, ?_⟩, fun _ => ofText_eq_ok_iff_spells, fun a read => ?_, fun _ => fault_of_ofText⟩
  · rintro keeps ⟨plus, a, spells⟩
    have read := ofText_eq_ok_iff_spells.mpr spells
    exact ((keeps.reads a).mp read).plus_notMem plus
  · intro unsigned
    have formed {a : LinkAddress} (read : ofText s = .ok a) : Spells Group s a := by
      have spells := ofText_eq_ok_iff_spells.mp read
      exact spells.formed fun plus => unsigned ⟨plus, a, spells⟩
    have reads (a : LinkAddress) : ofText s = .ok a ↔ Spells Group s a :=
      ⟨formed, fun spells => ofText_eq_ok_iff_spells.mpr spells.loose⟩
    refine ⟨?_, reads, fun a read => (formed read).text_eq⟩
    rw [formed_iff_exists_spells]
    exact exists_congr reads
  · have spells := (ofText_eq_ok_iff_spells.mp read).unsigned
    exact ⟨spells, spells.text_eq⟩

/-- Short groups and capital letters are part of the form. -/
theorem keepsForm_at_mixed_groups : KeepsForm "2:0B:aB" :=
  (keepsForm_iff "2:0B:aB").1.mpr fun signed => absurd signed.1 (by decide)

/-- A plus sign in front of a digit is read, although it is no part of the form. -/
theorem signed_group_is_read : ¬ ∀ s, KeepsForm s := by
  intro always
  have read : ofText "+f" = .ok ⟨[15]⟩ := by decide
  have spells := ((always "+f").reads _).mp read
  exact spells.plus_notMem (by decide)

end LinkLocal.LinkAddress
