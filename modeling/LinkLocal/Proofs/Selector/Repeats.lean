import LinkLocal.Proofs.Selector.Candidates
import Mathlib.Data.Nat.Nth

/-! Where the candidates of a run repeat. Two candidates of the sequence that follow each other are
the folds of two usable draws with no usable one between them, so they are the same exactly if
these draws have the same fold, which nothing keeps them from. And a requested address is followed
by itself exactly if the sequence begins with it. -/
namespace LinkLocal

open Finset Function

namespace Generator

variable {g : Generator} {i j : ℕ}

/-- Two usable draws of a generator, counted from zero, with no usable one between them. -/
structure Neighbours (g : Generator) (i j : ℕ) : Prop where
  before : i < j
  first : (next^[i + 1] g).Usable
  second : (next^[j + 1] g).Usable
  between : ∀ k, i < k → k < j → ¬ (next^[k + 1] g).Usable

/-- A usable draw is one more for its next neighbour. -/
theorem Neighbours.countP_draws (neighbours : Neighbours g i j) :
    (draws j g).countP Usable = (draws i g).countP Usable + 1 := by
  obtain ⟨before, first, _, between⟩ := neighbours
  have parts : {k ∈ range j | (next^[k + 1] g).Usable} =
      insert i {k ∈ range i | (next^[k + 1] g).Usable} := by
    ext k
    simp only [mem_insert, mem_filter, mem_range]
    constructor
    · rintro ⟨below, usable⟩
      rcases lt_trichotomy k i with earlier | same | later
      · exact .inr ⟨earlier, usable⟩
      · exact .inl same
      · exact absurd usable (between k later below)
    · rintro (rfl | ⟨earlier, usable⟩)
      · exact ⟨before, first⟩
      · exact ⟨earlier.trans before, usable⟩
  rw [Generator.countP_draws, Generator.countP_draws, parts, card_insert_of_notMem fun member => ?_]
  exact lt_irrefl i (mem_range.mp (mem_filter.mp member).1)

theorem infinite_usable (g : Generator) : {n | (next^[n + 1] g).Usable}.Infinite := by
  refine Set.infinite_of_forall_exists_gt fun n => ?_
  obtain ⟨m, _, usable⟩ := Selector.exists_usable (next^[n + 1] g)
  rw [← iterate_add_apply] at usable
  exact ⟨m + 1 + n, usable, by omega⟩

/-- There is a pair of neighbours behind any number of usable draws. -/
theorem exists_neighbours (g : Generator) (m : ℕ) :
    ∃ i j, Neighbours g i j ∧ (draws i g).countP Usable = m := by
  have infinite := infinite_usable g
  refine ⟨_, _, ⟨Nat.nth_strictMono infinite m.lt_succ_self, Nat.nth_mem_of_infinite infinite m,
    Nat.nth_mem_of_infinite infinite (m + 1), fun k later earlier usable => ?_⟩, ?_⟩
  · exact later.not_ge (Nat.le_nth_of_lt_nth_succ earlier usable)
  · rw [Generator.countP_draws, ← Nat.count_eq_card_filter_range]
    exact Nat.count_nth_of_infinite infinite m

end Generator

namespace Selector

variable {g : Generator} {i j : ℕ}

/-- The candidate that a usable draw gives stands behind those of the usable draws before it. -/
theorem nth_countP_draws (usable : (Generator.next^[i + 1] g).Usable) :
    nth ((Generator.draws i g).countP Generator.Usable) ⟨g⟩ =
      .linkLocal (Generator.next^[i + 1] g).offset := by
  rw [iterate_succ_apply'] at usable ⊢
  rw [nth, next_drop_draws, next_of_usable usable]

/-- Candidates that follow each other are the same exactly if their draws have the same fold. -/
theorem nth_succ_eq_iff (g : Generator) (m : ℕ) : nth (m + 1) ⟨g⟩ = nth m ⟨g⟩ ↔
    ∃ i j, g.Neighbours i j ∧ (Generator.draws i g).countP Generator.Usable = m ∧
      (Generator.next^[j + 1] g).offset = (Generator.next^[i + 1] g).offset := by
  have folds {i j} (neighbours : g.Neighbours i j)
      (place : (Generator.draws i g).countP Generator.Usable = m) :
      nth (m + 1) ⟨g⟩ = nth m ⟨g⟩ ↔
        (Generator.next^[j + 1] g).offset = (Generator.next^[i + 1] g).offset := by
    subst place
    rw [← neighbours.countP_draws, nth_countP_draws neighbours.first,
      nth_countP_draws neighbours.second, IPv4.linkLocal_injective.eq_iff]
  constructor
  · intro same
    obtain ⟨i, j, neighbours, place⟩ := g.exists_neighbours m
    exact ⟨i, j, neighbours, place, (folds neighbours place).mp same⟩
  · rintro ⟨i, j, neighbours, place, same⟩
    exact (folds neighbours place).mpr same

end Selector

namespace Config

variable (c : Config)

/-- Behind a candidate of a run comes the same address: it was requested and the sequence begins
with it, or two neighbouring usable draws have the same fold. -/
def Repeats (n : ℕ) : Prop :=
  (n = 0 ∧ c.requestedAddress = some ((Selector.ofSeed c.enumeration).nth 0)) ∨
    ∃ i j, (Generator.ofSeed c.enumeration).Neighbours i j ∧
      n = c.requestedAddress.toList.length +
        (Generator.draws i (.ofSeed c.enumeration)).countP Generator.Usable ∧
      (Generator.next^[j + 1] (.ofSeed c.enumeration)).offset =
        (Generator.next^[i + 1] (.ofSeed c.enumeration)).offset

theorem candidate_succ_eq_iff (n : ℕ) : c.candidate (n + 1) = c.candidate n ↔ c.Repeats n := by
  cases requested : c.requestedAddress with
  | none =>
    simp only [candidate, Repeats, requested, reduceCtorEq, and_false, false_or, Option.toList_none,
      List.length_nil, zero_add]
    exact (Selector.nth_succ_eq_iff _ n).trans (by simp only [eq_comm (a := n)])
  | some a =>
    cases n with
    | zero =>
      simp only [candidate, Repeats, requested, true_and, Option.some.injEq]
      refine ⟨fun same => .inl same.symm, fun repeats => ?_⟩
      rcases repeats with same | ⟨_, _, _, place, _⟩
      · exact same.symm
      · simp at place
        omega
    | succ n =>
      simp only [candidate, Repeats, requested, Nat.succ_ne_zero, false_and, false_or,
        Option.toList_some, List.length_singleton]
      refine (Selector.nth_succ_eq_iff _ n).trans ?_
      simp only [Nat.add_comm 1, Nat.succ_inj, eq_comm (a := n)]

end Config
end LinkLocal
