import LinkLocal.Selector
import Mathlib.Algebra.BigOperators.Intervals
import Mathlib.Algebra.Ring.GeomSum
import Mathlib.Data.Nat.ModEq
import Mathlib.Dynamics.PeriodicPts.Lemmas
import Mathlib.Tactic.Ring

/-! The generator makes a full turn. Over exact numbers a draw is `x ↦ a * x + c` modulo
`2 ^ 48`, with `a` one more than a multiple of four and `c` odd, and these two facts
alone decide it: from any state it is back after `2 ^ 48` draws, not before, and has
then been in every state once. -/
namespace LinkLocal.Generator

open Finset Function

/-! ## Draws over exact numbers -/

/-- The factor of a draw. -/
def multiplier : ℕ := 0x5deece66d

/-- The summand of a draw. -/
def increment : ℕ := 0xb

/-- The state of a generator as a number. -/
def value (g : Generator) : ℕ := g.state.toNat

theorem value_injective : Injective value := fun g g' same => by
  cases g
  cases g'
  exact congrArg Generator.mk (UInt64.toNat_inj.mp same)

/-- The mask keeps the low 48 bits. -/
theorem toNat_and_mask (x : UInt64) : (x &&& mask).toNat = x.toNat % period :=
  (UInt64.toNat_and x mask).trans (Nat.and_two_pow_sub_one_eq_mod x.toNat 48)

theorem value_ofSeed (seed : UInt64) : (ofSeed seed).value = seed.toNat % period :=
  toNat_and_mask seed

theorem value_ofSeed_lt (seed : UInt64) : (ofSeed seed).value < period := by
  rw [value_ofSeed]
  exact Nat.mod_lt _ (Nat.two_pow_pos 48)

/-- The word in which a draw is computed is wide enough: what it loses, the mask would
lose as well. -/
theorem value_next (g : Generator) :
    g.next.value = (multiplier * g.value + increment) % period := by
  have wide : period ∣ 2 ^ 64 := ⟨2 ^ 16, by norm_num [period]⟩
  simp only [value, next, toNat_and_mask, UInt64.toNat_add, UInt64.toNat_mul,
    UInt64.toNat_ofNat, Nat.reducePow, Nat.reduceMod] at wide ⊢
  rw [Nat.mod_mod_of_dvd _ wide, Nat.add_mod, Nat.mod_mod_of_dvd _ wide, ← Nat.add_mod]
  rfl

theorem value_next_lt (g : Generator) : g.next.value < period := by
  rw [value_next]
  exact Nat.mod_lt _ (Nat.two_pow_pos 48)

theorem value_iterate_lt {g : Generator} (below : g.value < period) (n : ℕ) :
    (next^[n] g).value < period := by
  cases n with
  | zero => exact below
  | succ n =>
    rw [iterate_succ_apply']
    exact value_next_lt _

/-- The state after a number of draws, in closed form. -/
theorem value_iterate {g : Generator} (below : g.value < period) (n : ℕ) :
    (next^[n] g).value =
      (multiplier ^ n * g.value + increment * ∑ i ∈ range n, multiplier ^ i) % period := by
  induction n with
  | zero => simpa using (Nat.mod_eq_of_lt below).symm
  | succ n ih =>
    rw [iterate_succ_apply', value_next, ih, Nat.add_mod, Nat.mul_mod, Nat.mod_mod,
      ← Nat.mul_mod, ← Nat.add_mod, geom_sum_succ]
    congr 1
    ring

/-! ## The full turn -/

/-- The powers of a factor that is one more than a multiple of four add up to as high a
multiple of two as there are powers. The induction halves their number. -/
theorem two_pow_dvd_geom_sum_iff (b e n : ℕ) :
    2 ^ e ∣ ∑ i ∈ range n, (4 * b + 1) ^ i ↔ 2 ^ e ∣ n := by
  induction e generalizing n with
  | zero => simp
  | succ e ih =>
    have power (m : ℕ) : ∃ k, (4 * b + 1) ^ m = 4 * k + 1 := by
      have rest : (4 * b + 1) ^ m % 4 = 1 := by
        rw [Nat.pow_mod, Nat.mul_add_mod]
        simp
      exact ⟨(4 * b + 1) ^ m / 4, by omega⟩
    have halves (m : ℕ) : ∑ i ∈ range (2 * m), (4 * b + 1) ^ i =
        (1 + (4 * b + 1) ^ m) * ∑ i ∈ range m, (4 * b + 1) ^ i := by
      rw [two_mul, sum_range_add]
      simp only [pow_add, ← mul_sum]
      ring
    rcases Nat.even_or_odd' n with ⟨m, rfl | rfl⟩
    · obtain ⟨k, eq⟩ := power m
      have odd : Nat.Coprime (2 ^ e) (2 * k + 1) := Nat.Coprime.pow_left e (by simp)
      rw [halves, eq, pow_succ', show 1 + (4 * k + 1) = 2 * (2 * k + 1) by ring, mul_assoc,
        Nat.mul_dvd_mul_iff_left two_pos, Nat.mul_dvd_mul_iff_left two_pos,
        Nat.Coprime.dvd_mul_left odd, ih]
    · -- An odd number of odd summands: neither side is even.
      obtain ⟨k, eq⟩ := power m
      obtain ⟨k', eq'⟩ := power (2 * m)
      have even (x : ℕ) (dvd : 2 ^ (e + 1) ∣ x) : 2 ∣ x := (dvd_pow_self 2 (by simp)).trans dvd
      refine iff_of_false (fun dvd => ?_) fun dvd => ?_
      · have := even _ dvd
        rw [sum_range_succ, halves, eq, eq', show 1 + (4 * k + 1) = 2 * (2 * k + 1) by ring,
          mul_assoc] at this
        omega
      · have := even _ dvd
        omega

theorem two_pow_dvd_sum_multiplier_iff (e n : ℕ) :
    2 ^ e ∣ ∑ i ∈ range n, multiplier ^ i ↔ 2 ^ e ∣ n := by
  have four : multiplier = 4 * (multiplier / 4) + 1 := rfl
  rw [four]
  exact two_pow_dvd_geom_sum_iff (multiplier / 4) e n

/-- The number by which a state moves in one draw. -/
def stride (g : Generator) : ℕ := (multiplier - 1) * g.value + increment

theorem odd_stride (g : Generator) : Odd g.stride :=
  (Even.mul_right (by decide) _).add_odd (by decide)

/-- In a number of draws a state moves by a multiple of its first stride. -/
theorem value_iterate_eq_add {g : Generator} (below : g.value < period) (n : ℕ) :
    (next^[n] g).value =
      (g.value + (∑ i ∈ range n, multiplier ^ i) * g.stride) % period := by
  have power := geom_sum_mul_of_one_le (x := multiplier) (by decide) n
  have pos : 1 ≤ multiplier ^ n := Nat.one_le_pow _ _ (by decide)
  rw [value_iterate below, stride]
  generalize ∑ i ∈ range n, multiplier ^ i = s at power ⊢
  rw [show multiplier ^ n = 1 + s * (multiplier - 1) by omega]
  congr 1
  ring

/-- A generator is back after exactly the multiples of the period. -/
theorem iterate_eq_self_iff {g : Generator} (below : g.value < period) (n : ℕ) :
    next^[n] g = g ↔ period ∣ n := by
  have dvd : period ∣ ∑ i ∈ range n, multiplier ^ i ↔ period ∣ n :=
    two_pow_dvd_sum_multiplier_iff 48 n
  -- The stride is odd, so the state has moved by a multiple of the period exactly if the
  -- factor before the stride is one.
  have odd : Nat.Coprime period g.stride :=
    Nat.Coprime.pow_left 48 (Nat.coprime_two_left.mpr (odd_stride g))
  have back := Nat.add_modEq_left_iff (n := period) (a := g.value)
    (b := (∑ i ∈ range n, multiplier ^ i) * g.stride)
  rw [Nat.ModEq, Nat.mod_eq_of_lt below, Nat.Coprime.dvd_mul_right odd, dvd] at back
  rw [← value_injective.eq_iff, value_iterate_eq_add below, back]

/-- The period of the generator is the number of its states. -/
theorem minimalPeriod_next {g : Generator} (below : g.value < period) :
    minimalPeriod next g = period := by
  refine Nat.dvd_antisymm ?_ ?_
  · have back : IsPeriodicPt next period g := (iterate_eq_self_iff below period).mpr dvd_rfl
    exact back.minimalPeriod_dvd
  · exact (iterate_eq_self_iff below _).mp (isPeriodicPt_minimalPeriod next g)

/-- A full turn meets every state once. -/
theorem bijOn_iterate {g : Generator} (below : g.value < period) :
    Set.BijOn (fun n => (next^[n] g).value) (range period) (range period) := by
  have maps : Set.MapsTo (fun n => (next^[n] g).value) (range period) (range period) :=
    fun n _ => mem_coe.mpr (mem_range.mpr (value_iterate_lt below n))
  have inj : Set.InjOn (fun n => (next^[n] g).value) (range period) := by
    intro m hm n hn same
    have := iterate_injOn_Iio_minimalPeriod (f := next) (x := g)
    rw [minimalPeriod_next below] at this
    exact this (by simpa using hm) (by simpa using hn) (value_injective same)
  exact ⟨maps, inj, surjOn_of_injOn_of_card_le _ maps inj le_rfl⟩

end LinkLocal.Generator
