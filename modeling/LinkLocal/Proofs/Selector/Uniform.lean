import LinkLocal.Proofs.Generator.Fold

/-! The candidate sequence is uniform. The selector throws away the draws that give no
usable offset, and never has to search for longer than a turn of the generator. So a turn
gives every usable address equally often, and after it the sequence begins anew, wherever
in the turn it began. -/
namespace LinkLocal

open Finset Function

/-- The first draws of a generator. -/
def Generator.draws : ℕ → Generator → List Generator
  | 0, _ => []
  | n + 1, g => g.next :: draws n g.next

theorem Generator.draws_eq_map (n : ℕ) (g : Generator) :
    draws n g = (List.range n).map fun i => next^[i + 1] g := by
  induction n generalizing g with
  | zero => rfl
  | succ n ih =>
    rw [draws, ih, List.range_succ_eq_map, List.map_cons, List.map_map]
    rfl

theorem Generator.countP_draws (p : Generator → Prop) [DecidablePred p] (n : ℕ)
    (g : Generator) : (draws n g).countP p = #{i ∈ range n | p (next^[i + 1] g)} := by
  rw [draws_eq_map, List.countP_map, List.countP_eq_length_filter]
  rfl

namespace Selector

open Generator

variable {g : Generator} {s s' : Selector}

/-- The address at a place of a candidate sequence, counted from zero. -/
def nth (n : ℕ) (s : Selector) : IPv4 := (s.drop n).next.1

/-! ## Searching -/

/-- A turn of the generator has a usable draw. -/
theorem exists_usable (g : Generator) : ∃ n < period, (Generator.next^[n + 1] g).Usable := by
  have some : 0 < #{n ∈ range period | (Generator.next^[n + 1] g).Usable} := by
    rw [card_usable]
    exact Nat.mul_pos (by decide) (Nat.two_pow_pos 32)
  obtain ⟨n, member⟩ := card_pos.mp some
  rw [mem_filter, mem_range] at member
  exact ⟨n, member⟩

/-- A search that finds a candidate does not depend on how long it may go on. -/
theorem search_eq_of_usable {m m' : ℕ} (found : ∃ n < m, (Generator.next^[n + 1] g).Usable)
    (longer : m ≤ m') : search m' g = search m g := by
  induction m generalizing g m' with
  | zero =>
    obtain ⟨_, none, _⟩ := found
    cases none
  | succ m ih =>
    obtain ⟨m', rfl⟩ : ∃ k, m' = k + 1 := ⟨m' - 1, by omega⟩
    rw [search, search]
    split
    · rfl
    · next unusable =>
      obtain ⟨n, below, usable⟩ := found
      cases n with
      | zero => exact absurd usable unusable
      | succ n => exact ih ⟨n, by omega, usable⟩ (by omega)

theorem isUsable_search (draws : ℕ) (g : Generator) : (search draws g).1.isUsable = true := by
  induction draws generalizing g with
  | zero => rfl
  | succ draws ih =>
    rw [search]
    split
    · next usable => exact (IPv4.isUsable_iff _).mpr ⟨_, usable, rfl⟩
    · exact ih g.next

/-- Whatever the selector gives may be used. -/
theorem isUsable_next (s : Selector) : s.next.1.isUsable = true := isUsable_search _ s.generator

theorem period_eq_succ : ∃ m, period = m + 1 := ⟨period - 1, rfl⟩

theorem next_of_usable (usable : g.next.Usable) :
    (⟨g⟩ : Selector).next = (.linkLocal g.next.offset, ⟨g.next⟩) := by
  obtain ⟨m, long⟩ := period_eq_succ
  rw [next, long, search]
  exact if_pos usable

/-- A draw that is not usable might as well not have been made. -/
theorem next_of_not_usable (unusable : ¬ g.next.Usable) :
    (⟨g⟩ : Selector).next = (⟨g.next⟩ : Selector).next := by
  obtain ⟨n, below, usable⟩ := exists_usable g
  obtain ⟨m, long⟩ := period_eq_succ
  have found : ∃ k < m, (Generator.next^[k + 1] g.next).Usable := by
    cases n with
    | zero => exact absurd usable unusable
    | succ n => exact ⟨n, by omega, usable⟩
  rw [next, next, long, search_eq_of_usable found (Nat.le_succ m), search]
  exact if_neg unusable

/-! ## Sequences -/

theorem take_congr (same : s.next = s'.next) (n : ℕ) : s.take n = s'.take n := by
  cases n with
  | zero => rfl
  | succ n => rw [take, take, same]

theorem next_drop_congr (same : s.next = s'.next) (n : ℕ) :
    (s.drop n).next = (s'.drop n).next := by
  cases n with
  | zero => exact same
  | succ n => rw [drop, drop, same]

theorem drop_add (m n : ℕ) (s : Selector) : s.drop (m + n) = (s.drop m).drop n := by
  induction m generalizing s with
  | zero => rw [Nat.zero_add]; rfl
  | succ m ih => rw [Nat.succ_add]; exact ih s.next.2

theorem take_eq_map (n : ℕ) (s : Selector) : s.take n = (List.range n).map fun i => nth i s := by
  induction n generalizing s with
  | zero => rfl
  | succ n ih =>
    rw [take, ih, List.range_succ_eq_map, List.map_cons, List.map_map]
    rfl

/-- A sequence is what the usable draws give. -/
theorem take_draws (n : ℕ) (g : Generator) : (⟨g⟩ : Selector).take ((draws n g).countP Usable) =
    ((draws n g).filter Usable).map fun g => .linkLocal g.offset := by
  induction n generalizing g with
  | zero => rfl
  | succ n ih =>
    by_cases usable : g.next.Usable
    · rw [draws, List.countP_cons_of_pos (by simpa using usable),
        List.filter_cons_of_pos (by simpa using usable), take, next_of_usable usable, ih]
      rfl
    · rw [draws, List.countP_cons_of_neg (by simpa using usable),
        List.filter_cons_of_neg (by simpa using usable),
        take_congr (next_of_not_usable usable), ih]

theorem next_drop_draws (n : ℕ) (g : Generator) :
    ((⟨g⟩ : Selector).drop ((draws n g).countP Usable)).next =
      (⟨Generator.next^[n] g⟩ : Selector).next := by
  induction n generalizing g with
  | zero => rfl
  | succ n ih =>
    by_cases usable : g.next.Usable
    · rw [draws, List.countP_cons_of_pos (by simpa using usable), drop, next_of_usable usable]
      exact ih g.next
    · rw [draws, List.countP_cons_of_neg (by simpa using usable),
        next_drop_congr (next_of_not_usable usable)]
      exact ih g.next

/-! ## A turn -/

theorem countP_usable (g : Generator) :
    (draws period g).countP Usable = IPv4.usableCount * 2 ^ 32 := by
  rw [countP_draws, card_usable]

/-- A turn gives every usable address equally often, and no other. -/
theorem count_take (g : Generator) (a : IPv4) :
    ((⟨g⟩ : Selector).take (IPv4.usableCount * 2 ^ 32)).count a =
      if a.isUsable then 2 ^ 32 else 0 := by
  rw [← countP_usable g, take_draws, List.count_eq_countP, List.countP_map, List.countP_filter]
  by_cases within : a.isUsable = true
  · obtain ⟨o, usable, rfl⟩ := (IPv4.isUsable_iff a).mp within
    rw [if_pos within, ← card_offset g o, ← countP_draws (fun g => g.offset = o)]
    refine List.countP_congr fun g' _ => ?_
    simp only [Function.comp_apply, Bool.and_eq_true, beq_iff_eq, decide_eq_true_eq,
      IPv4.linkLocal_injective.eq_iff]
    exact ⟨And.left, fun same => ⟨same, by rwa [Generator.Usable, same]⟩⟩
  · rw [if_neg within, List.countP_eq_zero]
    intro g' _ both
    simp only [Function.comp_apply, Bool.and_eq_true, beq_iff_eq, decide_eq_true_eq] at both
    exact within ((IPv4.isUsable_iff a).mpr ⟨g'.offset, both.2, both.1⟩)

/-- Every usable address is a candidate within a turn. -/
theorem exists_nth_eq_of_lt (g : Generator) {a : IPv4} (usable : a.isUsable = true) :
    ∃ n < IPv4.usableCount * 2 ^ 32, nth n ⟨g⟩ = a := by
  have counted := count_take g a
  have some : 0 < ((⟨g⟩ : Selector).take (IPv4.usableCount * 2 ^ 32)).count a := by
    rw [counted, if_pos usable]
    exact Nat.two_pow_pos 32
  have member := List.count_pos_iff.mp some
  rw [take_eq_map, List.mem_map] at member
  obtain ⟨n, within, same⟩ := member
  exact ⟨n, List.mem_range.mp within, same⟩

/-- After a turn the sequence begins anew. -/
theorem nth_add_turn {g : Generator} (below : g.value < period) (n : ℕ) :
    nth (n + IPv4.usableCount * 2 ^ 32) ⟨g⟩ = nth n ⟨g⟩ := by
  have back : Generator.next^[period] g = g := (iterate_eq_self_iff below period).mpr dvd_rfl
  have turned := next_drop_draws period g
  rw [back, countP_usable] at turned
  rw [nth, nth, Nat.add_comm, drop_add, next_drop_congr turned]

/-- From any seed, the generator passes through all of its states and is back at the first
one after as many draws as there are states. A turn gives every usable address equally
often and no other address, and from there on the candidates are the same again. -/
theorem uniform_over_turn (seed : UInt64) :
    minimalPeriod Generator.next (.ofSeed seed) = 2 ^ 48 ∧
      (∀ x : Fin (2 ^ 48), ∃ n < 2 ^ 48, (Generator.next^[n] (.ofSeed seed)).value = x) ∧
      (∀ a : IPv4, ((Selector.ofSeed seed).take (65024 * 2 ^ 32)).count a =
        if a.isUsable then 2 ^ 32 else 0) ∧
      ∀ n, (Selector.ofSeed seed).nth (n + 65024 * 2 ^ 32) = (Selector.ofSeed seed).nth n := by
  have below := value_ofSeed_lt seed
  refine ⟨minimalPeriod_next below, fun x => ?_, count_take _, nth_add_turn below⟩
  obtain ⟨n, member, same⟩ := (bijOn_iterate below).surjOn (mem_coe.mpr (mem_range.mpr x.isLt))
  exact ⟨n, mem_range.mp (mem_coe.mp member), same⟩

end Selector
end LinkLocal
