import LinkLocal.Proofs.Selector.Repeats

/-! The candidate sequence over exact numbers. The state behind any number of draws has a
closed form, and its fold needs no more than two cuts out of that number. So the
candidates can be told without the words of the program, and where these words overflow,
are masked or are shifted with a sign makes no difference to any of them. -/
namespace LinkLocal

open Finset Function

namespace Generator

/-- The state behind a number of draws from a seed, over exact numbers. -/
def exact (e k : ℕ) : ℕ :=
  (multiplier ^ k * e + increment * ∑ i ∈ range k, multiplier ^ i) % 2 ^ 48

/-- The fold of the exact state: its bits 32 to 47 against its bits 16 to 31. -/
def exactFold (e k : ℕ) : ℕ := exact e k / 2 ^ 32 % 2 ^ 16 ^^^ exact e k / 2 ^ 16 % 2 ^ 16

/-- Whether the draw of this number, counted from one, gives a candidate. -/
def Counts (e k : ℕ) : Prop := 1 ≤ k ∧ 0x0100 ≤ exactFold e k ∧ exactFold e k ≤ 0xfeff

variable (seed : UInt64)

/-- The words of the generator never lose what the modulus would keep. -/
theorem value_iterate_ofSeed (k : ℕ) : (next^[k] (ofSeed seed)).value = exact seed.toNat k := by
  rw [value_iterate (value_ofSeed_lt seed), value_ofSeed, exact, Nat.add_mod, Nat.mul_mod,
    Nat.mod_mod, ← Nat.mul_mod, ← Nat.add_mod]
  rfl

/-- Nor does the shift of the signed draw add anything to its fold. -/
theorem toNat_offset_iterate (k : ℕ) :
    (next^[k] (ofSeed seed)).offset.toNat = exactFold seed.toNat k := by
  have below := value_iterate_lt (value_ofSeed_lt seed) k
  have high : (next^[k] (ofSeed seed)).value / 2 ^ 32 < 2 ^ 16 :=
    Nat.div_lt_of_lt_mul (by rwa [period, ← Nat.pow_add] at *)
  rw [toNat_offset below, ← Nat.mod_eq_of_lt high, value_iterate_ofSeed]
  rfl

theorem usable_iterate_iff (i : ℕ) :
    (next^[i + 1] (ofSeed seed)).Usable ↔ Counts seed.toNat (i + 1) := by
  rw [Usable, UInt16.le_iff_toNat_le, UInt16.le_iff_toNat_le, toNat_offset_iterate, Counts]
  exact (and_iff_right (Nat.le_add_left 1 i)).symm

theorem infinite_counts : {k | Counts seed.toNat k}.Infinite := by
  refine ((infinite_usable (ofSeed seed)).image (Nat.succ_injective.injOn)).mono ?_
  rintro _ ⟨i, usable, rfl⟩
  exact (usable_iterate_iff seed i).mp usable

/-- The draws that count are the usable ones, with numbers one larger. -/
theorem nth_counts (n : ℕ) : Nat.nth (Counts seed.toNat) n =
    Nat.nth (fun i => (next^[i + 1] (ofSeed seed)).Usable) n + 1 := by
  have infinite := infinite_counts seed
  have shifted := Nat.nth_comp_of_strictMono (p := Counts seed.toNat) (n := n)
    (f := Nat.succ) (fun _ _ => Nat.succ_lt_succ) (fun k counts => ?_)
    fun finite => absurd finite infinite
  · rw [← shifted]
    exact congrArg (Nat.nth · n + 1) (funext fun i => propext (usable_iterate_iff seed i).symm)
  · exact ⟨k - 1, Nat.sub_add_cancel counts.1⟩

end Generator

namespace Selector

open Generator

/-- Whether a search that begins behind a draw ends with the one of this number, counted from zero:
that one is usable, and none before it is. -/
def EndsAt (k : ℕ) (g : Generator) : Prop :=
  (Generator.next^[k + 1] g).Usable ∧ ∀ i < k, ¬ (Generator.next^[i + 1] g).Usable

/-- A search gives what it ends with. The induction is on the draws that it throws away. -/
theorem next_of_endsAt {k : ℕ} {g : Generator} (ends : EndsAt k g) : (⟨g⟩ : Selector).next =
    (.linkLocal (Generator.next^[k + 1] g).offset, ⟨Generator.next^[k + 1] g⟩) := by
  induction k generalizing g with
  | zero => exact next_of_usable ends.1
  | succ k ih =>
    rw [next_of_not_usable (ends.2 0 k.succ_pos)]
    exact ih ⟨ends.1, fun i before => ends.2 (i + 1) (Nat.succ_lt_succ before)⟩

/-- Every search ends, within a turn. -/
theorem exists_endsAt (g : Generator) : ∃ k < period, EndsAt k g := by
  classical
  have found := exists_usable g
  obtain ⟨early, usable⟩ := Nat.find_spec found
  refine ⟨Nat.find found, early, usable, fun i before sooner => ?_⟩
  exact Nat.find_min found before ⟨before.trans early, sooner⟩

/-- A candidate is what the usable draw of its place gives. -/
theorem nth_eq_linkLocal (g : Generator) (n : ℕ) : nth n ⟨g⟩ = .linkLocal
    (Generator.next^[Nat.nth (fun i => (Generator.next^[i + 1] g).Usable) n + 1] g).offset := by
  have infinite := infinite_usable g
  rw [← nth_countP_draws (Nat.nth_mem_of_infinite infinite n), Generator.countP_draws,
    ← Nat.count_eq_card_filter_range, Nat.count_nth_of_infinite infinite]

/-- From any seed, the generator goes through the exact states, and its folds are the exact ones.
Enough of them count to give a candidate for every place. Each search ends, with the first draw that
is usable, and the candidate of a place stands behind 169.254.0.0 by the fold of that place among
those that count. -/
theorem nth_eq_exact (seed : UInt64) :
    (∀ k, (Generator.next^[k] (.ofSeed seed)).value = exact seed.toNat k ∧
      (Generator.next^[k] (.ofSeed seed)).offset.toNat = exactFold seed.toNat k) ∧
    {k | Counts seed.toNat k}.Infinite ∧
    ∀ n, (∃ k < period, EndsAt k ((Selector.ofSeed seed).drop n).generator ∧
        ((Selector.ofSeed seed).drop n).next.2.generator =
          Generator.next^[k + 1] ((Selector.ofSeed seed).drop n).generator) ∧
      ((Selector.ofSeed seed).nth n).bits.toNat = (IPv4.ofOctets 169 254 0 0).bits.toNat +
        exactFold seed.toNat (Nat.nth (Counts seed.toNat) n) := by
  refine ⟨fun k => ⟨value_iterate_ofSeed seed k, toNat_offset_iterate seed k⟩,
    infinite_counts seed, fun n => ⟨?_, ?_⟩⟩
  · obtain ⟨k, early, ends⟩ := exists_endsAt ((Selector.ofSeed seed).drop n).generator
    exact ⟨k, early, ends, congrArg (fun r => r.2.generator) (next_of_endsAt ends)⟩
  · have place := nth_eq_linkLocal (.ofSeed seed) n
    rw [← nth_counts] at place
    rw [Selector.ofSeed, place, IPv4.toNat_linkLocal, toNat_offset_iterate]
    rfl

/-- From seed zero the second draw is the first that counts, and stands for 169.254.148.109. -/
example : (IPv4.ofOctets 169 254 0 0).bits.toNat + exactFold 0 2 =
    (IPv4.ofOctets 169 254 148 109).bits.toNat := by decide +kernel

end Selector
end LinkLocal
