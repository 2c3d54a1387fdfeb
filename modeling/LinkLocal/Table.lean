/-!
Finite tables: a list of entries in which each key stands once. Entries keep the order in which
their keys first came in. Main statements: what is found under a key after each operation.
-/
namespace LinkLocal

theorem Table.nodup_nil {κ ν : Type} : (([] : List (κ × ν)).map Prod.fst).Nodup :=
  List.Pairwise.nil

/-- A finite table from keys to values. -/
structure Table (κ ν : Type) where
  /-- The entries in the order in which their keys came in. -/
  entries : List (κ × ν) := []
  /-- Each key stands once. -/
  nodup : (entries.map Prod.fst).Nodup := by exact Table.nodup_nil
  deriving Repr

namespace Table

variable {κ ν : Type} [DecidableEq κ]

instance : Inhabited (Table κ ν) := ⟨{}⟩

def get? (t : Table κ ν) (k : κ) : Option ν := t.entries.lookup k

def contains (t : Table κ ν) (k : κ) : Bool := (t.get? k).isSome

def keys (t : Table κ ν) : List κ := t.entries.map Prod.fst

/-- Puts a value in the place of a key among entries, or behind them all. -/
def insertEntry (k : κ) (v : ν) : List (κ × ν) → List (κ × ν)
  | [] => [(k, v)]
  | e :: rest => if e.1 = k then (k, v) :: rest else e :: insertEntry k v rest

def modifyEntries (k : κ) (f : ν → ν) (es : List (κ × ν)) : List (κ × ν) :=
  es.map fun e => if e.1 = k then (e.1, f e.2) else e

theorem mem_keys_insertEntry {k k' : κ} {v : ν} {es : List (κ × ν)} :
    k' ∈ (insertEntry k v es).map Prod.fst ↔ k' = k ∨ k' ∈ es.map Prod.fst := by
  induction es with
  | nil => simp [insertEntry]
  | cons e es ih =>
    by_cases h : e.1 = k
    · simp [insertEntry, h]
    · simp only [insertEntry, if_neg h, List.map_cons, List.mem_cons, ih]
      exact or_left_comm

theorem nodup_insertEntry (k : κ) (v : ν) {es : List (κ × ν)} (h : (es.map Prod.fst).Nodup) :
    ((insertEntry k v es).map Prod.fst).Nodup := by
  induction es with
  | nil => simp [insertEntry]
  | cons e es ih =>
    obtain ⟨head, tail⟩ := List.nodup_cons.mp h
    by_cases he : e.1 = k
    · rw [insertEntry, if_pos he]
      exact List.nodup_cons.mpr ⟨he ▸ head, tail⟩
    · rw [insertEntry, if_neg he]
      refine List.nodup_cons.mpr ⟨fun member => ?_, ih tail⟩
      exact (mem_keys_insertEntry.mp member).elim he head

theorem keys_insertEntry_of_not_mem {k : κ} (v : ν) {es : List (κ × ν)}
    (new : k ∉ es.map Prod.fst) : (insertEntry k v es).map Prod.fst = es.map Prod.fst ++ [k] := by
  induction es with
  | nil => rfl
  | cons e es ih =>
    have other : e.1 ≠ k := fun same => new (same ▸ List.mem_cons_self)
    rw [insertEntry, if_neg other, List.map_cons, ih fun later => new (.tail _ later)]
    rfl

theorem keys_modifyEntries (k : κ) (f : ν → ν) (es : List (κ × ν)) :
    (modifyEntries k f es).map Prod.fst = es.map Prod.fst := by
  rw [modifyEntries, List.map_map]
  refine List.map_congr_left fun e _ => ?_
  simp only [Function.comp_apply]
  split <;> rfl

/-- Puts a value under a key, in the place of the one that was there. -/
def insert (t : Table κ ν) (k : κ) (v : ν) : Table κ ν :=
  ⟨insertEntry k v t.entries, nodup_insertEntry k v t.nodup⟩

def erase (t : Table κ ν) (k : κ) : Table κ ν :=
  ⟨t.entries.filter fun e => e.1 ≠ k, t.nodup.sublist (List.filter_sublist.map Prod.fst)⟩

/-- Changes the value under a key, if there is one. -/
def modify (t : Table κ ν) (k : κ) (f : ν → ν) : Table κ ν :=
  ⟨modifyEntries k f t.entries, keys_modifyEntries k f t.entries ▸ t.nodup⟩

theorem lookup_cons_eq (k : κ) (e : κ × ν) (rest : List (κ × ν)) :
    (e :: rest).lookup k = if e.1 = k then some e.2 else rest.lookup k := by
  obtain ⟨k', v⟩ := e
  by_cases h : k' = k
  · subst h
    simp
  · rw [if_neg h, List.lookup_cons, beq_false_of_ne (Ne.symm h)]

theorem lookup_insertEntry (k k' : κ) (v : ν) (es : List (κ × ν)) :
    (insertEntry k v es).lookup k' = if k = k' then some v else es.lookup k' := by
  induction es with
  | nil => by_cases h : k = k' <;> simp [insertEntry, lookup_cons_eq, h]
  | cons e es ih =>
    simp only [insertEntry]
    split
    · next he => simp only [lookup_cons_eq, he]; split <;> rfl
    · next he =>
      simp only [lookup_cons_eq, ih]
      by_cases h : e.1 = k' <;> by_cases hk : k = k' <;> simp_all

theorem lookup_eraseEntries (k k' : κ) (es : List (κ × ν)) :
    (es.filter fun e => e.1 ≠ k).lookup k' = if k = k' then none else es.lookup k' := by
  induction es with
  | nil => simp
  | cons e es ih =>
    by_cases he : e.1 = k
    · rw [List.filter_cons_of_neg (by simp [he]), ih, lookup_cons_eq, he]
      by_cases hk : k = k' <;> simp [hk]
    · rw [List.filter_cons_of_pos (by simp [he]), lookup_cons_eq, lookup_cons_eq, ih]
      by_cases hk : k = k'
      · subst hk; simp [he]
      · simp [hk]

theorem lookup_modifyEntries (k k' : κ) (f : ν → ν) (es : List (κ × ν)) :
    (modifyEntries k f es).lookup k' =
      if k = k' then (es.lookup k').map f else es.lookup k' := by
  induction es with
  | nil => simp [modifyEntries]
  | cons e es ih =>
    simp only [modifyEntries, List.map_cons, lookup_cons_eq] at ih ⊢
    by_cases he : e.1 = k <;> by_cases h : e.1 = k' <;> by_cases hk : k = k' <;> simp_all

/-- What is found under a key after a value was put under one. -/
theorem get?_insert (t : Table κ ν) (k k' : κ) (v : ν) :
    (t.insert k v).get? k' = if k = k' then some v else t.get? k' :=
  lookup_insertEntry k k' v t.entries

@[simp] theorem get?_insert_self (t : Table κ ν) (k : κ) (v : ν) :
    (t.insert k v).get? k = some v := by simp [get?_insert]

theorem get?_insert_of_ne (t : Table κ ν) {k k' : κ} (v : ν) (h : k ≠ k') :
    (t.insert k v).get? k' = t.get? k' := by simp [get?_insert, h]

/-- What is found under a key after one was removed. -/
theorem get?_erase (t : Table κ ν) (k k' : κ) :
    (t.erase k).get? k' = if k = k' then none else t.get? k' :=
  lookup_eraseEntries k k' t.entries

/-- What is found under a key after the value under one was changed. -/
theorem get?_modify (t : Table κ ν) (k k' : κ) (f : ν → ν) :
    (t.modify k f).get? k' = if k = k' then (t.get? k').map f else t.get? k' :=
  lookup_modifyEntries k k' f t.entries

omit [DecidableEq κ] in
theorem nodup_keys (t : Table κ ν) : t.keys.Nodup := t.nodup

@[simp] theorem keys_modify (t : Table κ ν) (k : κ) (f : ν → ν) :
    (t.modify k f).keys = t.keys := keys_modifyEntries k f t.entries

/-- A key stands in a table exactly if something is found under it. -/
theorem mem_keys_iff (t : Table κ ν) (k : κ) : k ∈ t.keys ↔ (t.get? k).isSome = true := by
  simp only [keys, get?]
  induction t.entries with
  | nil => simp
  | cons e es ih =>
    rw [lookup_cons_eq, List.map_cons, List.mem_cons, ih]
    by_cases h : e.1 = k
    · simp [h]
    · simp [h, Ne.symm h]

theorem mem_keys_insert (t : Table κ ν) (k k' : κ) (v : ν) :
    k' ∈ (t.insert k v).keys ↔ k' = k ∨ k' ∈ t.keys := mem_keys_insertEntry

/-- A new key comes last. -/
theorem keys_insert_of_not_mem (t : Table κ ν) {k : κ} (v : ν) (new : k ∉ t.keys) :
    (t.insert k v).keys = t.keys ++ [k] := keys_insertEntry_of_not_mem v new

theorem keys_erase (t : Table κ ν) (k : κ) :
    (t.erase k).keys = t.keys.filter (· ≠ k) := by
  rw [keys, keys, List.filter_map]
  rfl

theorem mem_keys_erase (t : Table κ ν) (k k' : κ) :
    k' ∈ (t.erase k).keys ↔ k' ≠ k ∧ k' ∈ t.keys := by
  rw [mem_keys_iff, mem_keys_iff, get?_erase]
  by_cases h : k = k'
  · simp [h]
  · simp [h, Ne.symm h]

end Table
end LinkLocal
