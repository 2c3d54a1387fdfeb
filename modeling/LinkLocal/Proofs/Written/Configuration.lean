import LinkLocal.Proofs.Written.Members

/-! Written configurations read back. The members, each read to its end, fill a draft with all
fields of the configuration. An empty link address alone is not read back, and no text gives a
configuration that has one. -/
namespace LinkLocal.Config

variable {c : Config} {d : Draft} {f : Field} {rest : List Char}

/-! ## Objects -/

/-- What follows the first member of an object ends every number. -/
theorem ends_flatMap (fields : List Field) :
    Json.Number.Ends (fields.flatMap (fun f => ',' :: c.fieldChars f) ++ ['\x7d']) := by
  cases fields with
  | nil => intro c head; cases head; decide
  | cons f fields => intro c head; cases head; decide

/-- Members behind the first are read one by one, up to the closing brace. -/
theorem readMembers_flatMap (there : c.linkAddress.isEmpty = false) {fields : List Field}
    (distinct : fields.Nodup) {fuel : Nat} (enough : fields.length < fuel)
    (fresh : ∀ f ∈ fields, d.has f = false) :
    readMembers fuel false d (fields.flatMap (fun f => ',' :: c.fieldChars f) ++ ['\x7d']) =
      .ok (fields.foldl (Draft.put c) d, []) := by
  induction fields generalizing d fuel with
  | nil =>
    obtain ⟨fuel, rfl⟩ := Nat.exists_eq_add_one_of_ne_zero (Nat.ne_of_gt enough)
    rfl
  | cons f fields ih =>
    obtain ⟨fuel, rfl⟩ := Nat.exists_eq_add_one_of_ne_zero (Nat.ne_of_gt (Nat.zero_lt_of_lt enough))
    obtain ⟨apart, distinct⟩ := List.nodup_cons.mp distinct
    have step := readMembers_fieldChars there fuel false (fresh f List.mem_cons_self)
      (ends_flatMap (c := c) fields)
    have behind : ∀ g ∈ fields, (d.put c f).has g = false := by
      intro g member
      have other : f ≠ g := by
        rintro rfl
        exact apart member
      rw [Draft.has_put other]
      exact fresh g (List.mem_cons_of_mem f member)
    rw [List.flatMap_cons, List.append_assoc]
    exact step.trans (ih distinct (Nat.lt_of_succ_lt_succ enough) behind)

theorem members_eq (c : Config) : c.members = Field.all.map fun f => (f.name, c.valueChars f) := rfl

/-- What is written of a configuration behind the opening brace. -/
def bodyChars (c : Config) : List Char :=
  c.fieldChars .ifindex ++ (Field.all.tail.flatMap (fun f => ',' :: c.fieldChars f) ++ ['\x7d'])

theorem chars_eq (c : Config) : c.chars = '\x7b' :: c.bodyChars := by
  rw [chars, members_eq, show Field.all = .ifindex :: Field.all.tail from rfl, List.map_cons,
    List.map_cons, intercalate_cons, List.map_map, List.flatMap_map, bodyChars]
  simp [fieldChars]

/-- The text behind the brace is long enough to bound the number of its members. -/
theorem length_all_le (c : Config) : Field.all.length ≤ c.bodyChars.length := by
  have start : 9 ≤ (c.fieldChars .ifindex).length := by
    simp [fieldChars, memberChars, quotedChars, Field.name]
  rw [bodyChars, List.length_append]
  exact Nat.le_trans (by decide) (Nat.le_trans start (Nat.le_add_right _ _))

/-- The members in their order fill a draft with every field. -/
theorem readMembers_bodyChars (there : c.linkAddress.isEmpty = false) :
    readMembers (c.bodyChars.length + 1) true {} c.bodyChars =
      .ok (Field.all.foldl (Draft.put c) {}, []) := by
  have first := readMembers_fieldChars (f := .ifindex) (d := {}) there c.bodyChars.length true rfl
    (ends_flatMap (c := c) Field.all.tail)
  have fresh : ∀ f ∈ Field.all.tail, (Draft.put c {} .ifindex).has f = false := by
    intro f member
    cases f with
    | ifindex => exact absurd member (by decide)
    | transport | linkAddress | enumeration | timeoutMsec | requestedAddress | conflictPolicy => rfl
  exact first.trans (readMembers_flatMap there (by decide) (length_all_le c) fresh)

theorem finish_foldl_put (c : Config) : (Field.all.foldl (Draft.put c) {}).finish = .ok c := rfl

/-- A configuration whose link address is not empty is read from what is written of it. -/
theorem ofText_text_of_there (there : c.linkAddress.isEmpty = false) : ofText c.text = .ok c := by
  have draft : readDraft c.chars = meaning Draft.finish
      (readMembers (c.bodyChars.length + 1) true {} c.bodyChars) := by
    rw [chars_eq]
    rfl
  rw [readMembers_bodyChars there, meaning] at draft
  simp only [finish_foldl_put] at draft
  rw [ofText, text, String.toList_ofList, ofChars, draft]
  rfl

/-! ## Accepted texts -/

/-- Whether the link address of a draft, if it has one, is not empty. -/
def Draft.Sound (d : Draft) : Prop := ∀ a, d.linkAddress = some a → a.isEmpty = false

theorem map_ok {ε α β : Type} {r : Except ε α} {f : α → β} {b : β} (read : r.map f = .ok b) :
    ∃ a, r = .ok a ∧ f a = b := by
  cases r with
  | error fault => cases read
  | ok a =>
    cases read
    exact ⟨a, rfl, rfl⟩

theorem meaning_ok {α β : Type} {f : α → Except Mismatch β} {r : Taken α} {b : β}
    (read : meaning f r = .ok (b, rest)) : ∃ a, r = .ok (a, rest) ∧ f a = .ok b := by
  obtain fault | ⟨a, behind⟩ := r
  · cases read
  · rw [meaning] at read
    cases known : f a with
    | error cause =>
      rw [known] at read
      cases read
    | ok b =>
      rw [known] at read
      cases read
      exact ⟨a, rfl, known⟩

theorem linkAddressOfText_ok {s : String} {a : LinkAddress} (known : linkAddressOfText s = .ok a) :
    a.isEmpty = false := by
  cases read : LinkAddress.ofText s with
  | error cause =>
    rw [linkAddressOfText, read] at known
    cases known
  | ok b =>
    rw [linkAddressOfText, read] at known
    cases known
    exact LinkAddress.isEmpty_of_ofText read

variable {d' : Draft} {text : List Char}

theorem readField_sound (sound : d.Sound) (read : readField f d text = .ok (d', rest)) :
    d'.Sound := by
  cases f with
  | linkAddress =>
    obtain ⟨⟨a, _⟩, value, same⟩ := map_ok read
    cases same
    obtain ⟨s, -, known⟩ := meaning_ok value
    rintro _ ⟨⟩
    exact linkAddressOfText_ok known
  | ifindex | transport | enumeration | timeoutMsec | requestedAddress | conflictPolicy =>
    obtain ⟨_, -, same⟩ := map_ok read
    cases same
    exact sound

theorem readMembers_sound {fuel : Nat} {first : Bool} (sound : d.Sound)
    (read : readMembers fuel first d text = .ok (d', rest)) : d'.Sound := by
  induction fuel generalizing first d text with
  | zero => cases read
  | succ fuel ih =>
    rw [readMembers] at read
    split at read
    · cases read
    · cases read
      exact sound
    · split at read
      · split at read
        · cases read
        · split at read
          · cases read
          · exact ih sound read
      · split at read
        · cases read
        · split at read
          · cases read
          · split at read
            · cases read
            · next value => exact ih (readField_sound sound value) read

theorem readItems_sound {fields : List Field} {first : Bool} (sound : d.Sound)
    (read : readItems fields first d text = .ok (d', rest)) : d'.Sound := by
  induction fields generalizing first d text with
  | nil =>
    cases read
    exact sound
  | cons f fields ih =>
    rw [readItems] at read
    split at read
    · cases read
    · split at read
      · cases read
      · exact ih sound read
    · split at read
      · cases read
      · next value => exact ih (readField_sound sound value) read

theorem finish_there (sound : d.Sound) (known : d.finish = .ok c) :
    c.linkAddress.isEmpty = false := by
  rw [Draft.finish] at known
  split at known
  · cases known
  · cases known
  · next a _ there =>
    cases known
    exact sound _ there

/-- A value of the wrong kind is never taken. -/
theorem wrongKind_ne_ok {α : Type} {a : α} : wrongKind text ≠ .ok a := by
  intro taken
  unfold wrongKind at taken
  dsimp only at taken
  repeat' split at taken
  all_goals cases taken

theorem readDraft_there (read : readDraft text = .ok (c, rest)) :
    c.linkAddress.isEmpty = false := by
  have start : Draft.Sound {} := by rintro _ ⟨⟩
  rw [readDraft] at read
  split at read
  · cases read
  · split at read
    · cases read
    · next items =>
      obtain ⟨_, -, same⟩ := map_ok read
      cases same
      obtain ⟨d, members, known⟩ := meaning_ok items
      exact finish_there (readItems_sound start members) known
  · obtain ⟨d, members, known⟩ := meaning_ok read
    exact finish_there (readMembers_sound start members) known
  · exact absurd read wrongKind_ne_ok

/-- No text is read as a configuration whose link address is empty. -/
theorem isEmpty_of_ofText {s : String} (read : ofText s = .ok c) :
    c.linkAddress.isEmpty = false := by
  rw [ofText, ofChars] at read
  split at read
  · cases read
  · next draft =>
    split at read
    · cases read
      exact readDraft_there draft
    · cases read

/-- Every configuration whose link address is not empty is read from what is written of it. Hence
what is read from a text is read again, unchanged, from what is written of it. -/
theorem text_round_trip : (∀ c : Config, c.linkAddress.isEmpty = false → ofText c.text = .ok c) ∧
    ∀ (s : String) (c : Config), ofText s = .ok c → ofText c.text = .ok c :=
  ⟨fun _ there => ofText_text_of_there there,
    fun _ _ read => ofText_text_of_there (isEmpty_of_ofText read)⟩

/-- All fields at their limits, and a list whose link address is not written as it would be. -/
theorem text_round_trip_at_limits :
    let wide : Config :=
      { ifindex := 4294967295, transport := .infiniband, linkAddress := ⟨List.replicate 20 0xAB⟩,
        enumeration := 18446744073709551615, timeoutMsec := 0,
        requestedAddress := some ⟨4294967295⟩, conflictPolicy := .stop }
    let listed : Config := { ifindex := 7, transport := .infiniband, linkAddress := ⟨[10, 11]⟩ }
    ofText wide.text = .ok wide ∧ ofText "[7,\"infiniband\",\"A:+b\"]" = .ok listed ∧
      ofText listed.text = .ok listed :=
  have accepted : ofText "[7,\"infiniband\",\"A:+b\"]" =
      .ok { ifindex := 7, transport := .infiniband, linkAddress := ⟨[10, 11]⟩ } := by
    decide +kernel
  ⟨text_round_trip.1 _ rfl, accepted, text_round_trip.2 _ _ accepted⟩

end LinkLocal.Config
