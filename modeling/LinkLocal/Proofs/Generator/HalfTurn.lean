import LinkLocal.Proofs.Generator.Fold

/-! Half a turn of the generator. After half a turn a state has its top bit turned over and
all other bits as they were, and so has its fold. Some folds are usable and would be so with
the top bit turned over: the draws with such a fold come in the same places of both halves
of a turn, though never with the same fold. -/
namespace LinkLocal.Generator

open Finset Function

variable {g : Generator}

/-- The draws of half a turn. -/
def halfPeriod : ℕ := 2 ^ 47

theorem period_eq_two_halves : period = halfPeriod + halfPeriod := by
  norm_num [period, halfPeriod]

/-- The state with the top bit turned over. -/
def opposite (g : Generator) : Generator := ⟨g.state ^^^ 0x800000000000⟩

theorem value_opposite (below : g.value < period) :
    g.opposite.value = (g.value + halfPeriod) % period := by
  have top : g.opposite.value = g.value ^^^ 2 ^ 47 := UInt64.toNat_xor ..
  rw [top, halfPeriod, period, Nat.pow_eq, Nat.add_comm]
  refine Nat.eq_of_testBit_eq fun i => ?_
  rw [Nat.testBit_xor, Nat.testBit_two_pow, Nat.testBit_mod_two_pow]
  rcases Nat.lt_trichotomy i 47 with lower | rfl | higher
  · rw [Nat.testBit_two_pow_add_gt lower]
    simp [show i < 48 by omega, show 47 ≠ i by omega]
  · rw [Nat.testBit_two_pow_add_eq]
    simp
  · have none : g.value.testBit i = false :=
      Nat.testBit_lt_two_pow (lt_of_lt_of_le below (Nat.pow_le_pow_right two_pos higher))
    simp [none, show ¬ i < 48 by omega, show 47 ≠ i by omega]

/-- Half a turn leads to the opposite state. -/
theorem iterate_halfPeriod (below : g.value < period) : next^[halfPeriod] g = g.opposite := by
  have moved := value_iterate_eq_add below halfPeriod
  have half := (two_pow_dvd_sum_multiplier_iff 47 halfPeriod).mpr dvd_rfl
  have notWhole : ¬ 2 ^ 48 ∣ ∑ i ∈ range halfPeriod, multiplier ^ i := by
    rw [two_pow_dvd_sum_multiplier_iff]
    norm_num [halfPeriod]
  generalize ∑ i ∈ range halfPeriod, multiplier ^ i = s at moved half notWhole
  obtain ⟨k, rfl⟩ := half
  -- The stride is odd and so is the other factor: the state moves by half a period, and by
  -- whole ones.
  have odd : Odd k := by
    rw [← Nat.not_even_iff_odd]
    rintro ⟨j, rfl⟩
    exact notWhole ⟨j, by ring⟩
  obtain ⟨m, eq⟩ := odd.mul (odd_stride g)
  refine value_injective ?_
  rw [moved, value_opposite below, mul_assoc, eq, period, halfPeriod,
    show g.value + 2 ^ 47 * (2 * m + 1) = g.value + 2 ^ 47 + m * Nat.pow 2 48 by norm_num; ring,
    Nat.add_mul_mod_self_right]

theorem iterate_halfPeriod_iterate (below : g.value < period) (n : ℕ) :
    next^[n] (next^[halfPeriod] g) = (next^[n] g).opposite := by
  rw [← iterate_add_apply, Nat.add_comm, iterate_add_apply,
    iterate_halfPeriod (value_iterate_lt below n)]

/-- The fold of the opposite state is another one. -/
theorem offset_opposite (g : Generator) : g.opposite.offset = g.offset ^^^ 0x8000 := by
  have high : (0x800000000000 : UInt64).toBitVec.extractLsb' 32 16 = 0x8000#16 := by decide
  have middle : (0x800000000000 : UInt64).toBitVec.extractLsb' 16 16 = 0#16 := by decide
  apply UInt16.toBitVec_inj.mp
  rw [UInt16.toBitVec_xor, toBitVec_offset, toBitVec_offset, opposite, UInt64.toBitVec_xor,
    BitVec.extractLsb'_xor, BitVec.extractLsb'_xor, high, middle]
  simp [BitVec.xor_assoc, BitVec.xor_comm]

theorem offset_opposite_ne (g : Generator) : g.opposite.offset ≠ g.offset := by
  intro same
  rw [offset_opposite] at same
  have cancelled : g.offset ^^^ (g.offset ^^^ 0x8000) = 0 := by rw [same, UInt16.xor_self]
  rw [← UInt16.xor_assoc, UInt16.xor_self, UInt16.zero_xor] at cancelled
  cases cancelled

/-! ## Draws that are usable on both sides -/

/-- Whether the address at an offset may be used, and also the one with the top bit of the
offset turned over. -/
def Twofold (o : UInt16) : Prop :=
  (IPv4.firstUsable ≤ o ∧ o ≤ IPv4.lastUsable) ∧
    IPv4.firstUsable ≤ o ^^^ 0x8000 ∧ o ^^^ 0x8000 ≤ IPv4.lastUsable

instance : DecidablePred Twofold := fun _ => inferInstanceAs (Decidable (_ ∧ _))

theorem twofold_firstUsable : Twofold IPv4.firstUsable := by decide

theorem twofold_xor_iff (o : UInt16) : Twofold (o ^^^ 0x8000) ↔ Twofold o := by
  rw [Twofold, UInt16.xor_assoc, UInt16.xor_self, UInt16.xor_zero, and_comm, Twofold]

theorem twofold_opposite_iff (g : Generator) : Twofold g.opposite.offset ↔ Twofold g.offset := by
  rw [offset_opposite, twofold_xor_iff]

end LinkLocal.Generator
