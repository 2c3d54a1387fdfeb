import LinkLocal.Proofs.Generator.Turn
import Mathlib.Algebra.Order.BigOperators.Group.Finset
import Mathlib.Order.Interval.Finset.Nat

/-! The fold of a draw. A draw gives an offset by folding its high half onto its low half.
Over a full turn of the generator all offsets come equally often, and so do the usable
ones among them, which are the offsets of the usable addresses. -/
namespace LinkLocal

open Finset Function

/-! ## Usable addresses -/

namespace IPv4

theorem toNat_linkLocal (offset : UInt16) :
    (linkLocal offset).bits.toNat = 0xa9fe * 2 ^ 16 + offset.toNat := by
  have apart := Nat.two_pow_add_eq_or_of_lt (i := 16) offset.toNat_lt 0xa9fe
  rw [linkLocal, UInt32.toNat_or, UInt16.toNat_toUInt32, Nat.mul_comm, apart]
  rfl

theorem linkLocal_injective : Injective linkLocal := by
  intro o o' same
  have := congrArg (fun a => a.bits.toNat) same
  simp only [toNat_linkLocal] at this
  exact UInt16.toNat_inj.mp (by omega)

theorem toNat_firstUsable : firstUsable.toNat = 0x0100 := rfl

theorem toNat_lastUsable : lastUsable.toNat = 0xfeff := rfl

/-- The usable addresses are the ones at usable offsets. -/
theorem isUsable_iff (a : IPv4) : a.isUsable = true ↔
    ∃ offset, (firstUsable ≤ offset ∧ offset ≤ lastUsable) ∧ linkLocal offset = a := by
  simp only [isUsable, Bool.and_eq_true, decide_eq_true_eq, UInt32.le_iff_toNat_le,
    UInt16.le_iff_toNat_le, toNat_linkLocal, toNat_firstUsable, toNat_lastUsable]
  constructor
  · rintro ⟨first, last⟩
    have offset : (UInt16.ofNat (a.bits.toNat - 0xa9fe * 2 ^ 16)).toNat =
        a.bits.toNat - 0xa9fe * 2 ^ 16 := UInt16.toNat_ofNat_of_lt (by simp only [UInt16.size]; omega)
    refine ⟨UInt16.ofNat (a.bits.toNat - 0xa9fe * 2 ^ 16), by omega, ?_⟩
    have same := toNat_linkLocal (UInt16.ofNat (a.bits.toNat - 0xa9fe * 2 ^ 16))
    generalize linkLocal (UInt16.ofNat (a.bits.toNat - 0xa9fe * 2 ^ 16)) = b at same ⊢
    cases a
    cases b
    exact congrArg IPv4.mk (UInt32.toNat_inj.mp (by dsimp only at *; omega))
  · rintro ⟨offset, ⟨first, last⟩, rfl⟩
    rw [toNat_linkLocal]
    omega

end IPv4

namespace Generator

/-- Whether the draw that a state stands for gives a candidate. -/
def Usable (g : Generator) : Prop := IPv4.firstUsable ≤ g.offset ∧ g.offset ≤ IPv4.lastUsable

instance : DecidablePred Usable := fun _ => inferInstanceAs (Decidable (_ ∧ _))

/-- The fold of a draw, as bits of the state. -/
theorem toBitVec_offset (g : Generator) : g.offset.toBitVec =
    g.state.toBitVec.extractLsb' 32 16 ^^^ g.state.toBitVec.extractLsb' 16 16 := by
  ext i inside
  have inWord : 16 + i < 32 ∧ ¬ 32 ≤ i := by omega
  simp [offset, draw, BitVec.getLsbD_sshiftRight, inWord, Bool.xor_comm, ← Nat.add_assoc]

/-- The fold of a draw leaves its high half, and takes its low half as seen from there. -/
theorem toNat_offset {g : Generator} (below : g.value < period) :
    g.offset.toNat = (g.value / 2 ^ 32) ^^^ (g.value / 2 ^ 16 % 2 ^ 16) := by
  have numbers := congrArg BitVec.toNat (toBitVec_offset g)
  have high : g.value / 2 ^ 32 < 2 ^ 16 :=
    Nat.div_lt_of_lt_mul (by rwa [period, ← Nat.pow_add] at *)
  simp only [BitVec.toNat_xor, BitVec.extractLsb'_toNat, Nat.shiftRight_eq_div_pow,
    UInt64.toNat_toBitVec, UInt16.toNat_toBitVec] at numbers
  rw [numbers, ← value, Nat.mod_eq_of_lt high]

/-- Every offset is the fold of equally many states: the high sixteen bits of a state leave
one choice for the middle ones, and the low ones are free. -/
theorem card_fold {o : ℕ} (small : o < 2 ^ 16) :
    #{x ∈ range period | x / 2 ^ 32 ^^^ (x / 2 ^ 16 % 2 ^ 16) = o} = 2 ^ 32 := by
  have cancel (h m : ℕ) : h ^^^ (h ^^^ m) = m := by
    rw [← Nat.xor_assoc, Nat.xor_self, Nat.zero_xor]
  have middle (y : ℕ) (inside : y < 2 ^ 32) : y / 2 ^ 16 ^^^ o < 2 ^ 16 :=
    Nat.xor_lt_two_pow (by omega) small
  refine (card_nbij' (t := range (2 ^ 32)) (fun x => x / 2 ^ 32 * 2 ^ 16 + x % 2 ^ 16)
    (fun y => y / 2 ^ 16 * 2 ^ 32 + (y / 2 ^ 16 ^^^ o) * 2 ^ 16 + y % 2 ^ 16)
    ?_ ?_ ?_ ?_).trans (card_range _)
  · intro x member
    simp only [mem_coe, mem_filter, mem_range, period, Nat.pow_eq] at member ⊢
    omega
  · intro y member
    simp only [mem_coe, mem_filter, mem_range, period, Nat.pow_eq] at member ⊢
    have folded := cancel (y / 2 ^ 16) o
    have low := middle y member
    generalize y / 2 ^ 16 ^^^ o = m at *
    refine ⟨by omega, ?_⟩
    rw [show (y / 2 ^ 16 * 2 ^ 32 + m * 2 ^ 16 + y % 2 ^ 16) / 2 ^ 32 = y / 2 ^ 16 by omega,
      show (y / 2 ^ 16 * 2 ^ 32 + m * 2 ^ 16 + y % 2 ^ 16) / 2 ^ 16 % 2 ^ 16 = m by omega, folded]
  · intro x member
    simp only [mem_coe, mem_filter, mem_range] at member
    dsimp only
    rw [show (x / 2 ^ 32 * 2 ^ 16 + x % 2 ^ 16) / 2 ^ 16 = x / 2 ^ 32 by omega, ← member.2,
      cancel]
    omega
  · intro y member
    simp only [mem_coe, mem_range] at member
    have low := middle y member
    dsimp only
    generalize y / 2 ^ 16 ^^^ o = m at low ⊢
    omega

/-- A full turn gives every offset equally often. -/
theorem card_offset (g : Generator) (o : UInt16) :
    #{n ∈ range period | (next^[n + 1] g).offset = o} = 2 ^ 32 := by
  have turn := bijOn_iterate (value_next_lt g)
  rw [← card_fold o.toNat_lt]
  have fold (n : ℕ) : (next^[n + 1] g).offset = o ↔
      (next^[n] g.next).value / 2 ^ 32 ^^^ ((next^[n] g.next).value / 2 ^ 16 % 2 ^ 16) = o.toNat := by
    rw [iterate_succ_apply, ← toNat_offset (value_iterate_lt (value_next_lt g) n), UInt16.toNat_inj]
  refine card_nbij (fun n => (next^[n] g.next).value) ?_ ?_ ?_
  · intro n member
    simp only [mem_coe, mem_filter, fold] at member ⊢
    exact ⟨turn.mapsTo member.1, member.2⟩
  · exact turn.injOn.mono fun n member => (mem_filter.mp member).1
  · intro x member
    simp only [mem_coe, mem_filter] at member
    obtain ⟨n, held, rfl⟩ := turn.surjOn member.1
    refine ⟨n, ?_, rfl⟩
    simp only [mem_coe, mem_filter, fold]
    exact ⟨held, member.2⟩

/-- A full turn gives all usable offsets, each equally often. -/
theorem card_usable (g : Generator) :
    #{n ∈ range period | (next^[n + 1] g).Usable} = IPv4.usableCount * 2 ^ 32 := by
  have fibers (o : ℕ) (member : o ∈ Icc IPv4.firstUsable.toNat IPv4.lastUsable.toNat) :
      #{n ∈ {n ∈ range period | (next^[n + 1] g).Usable} | (next^[n + 1] g).offset.toNat = o} =
        2 ^ 32 := by
    rw [mem_Icc] at member
    have last := IPv4.toNat_lastUsable
    have small : o < 2 ^ 16 := by omega
    have offset : (UInt16.ofNat o).toNat = o := UInt16.toNat_ofNat_of_lt small
    rw [← card_offset g (UInt16.ofNat o), filter_filter]
    refine congrArg card (filter_congr fun n _ => ?_)
    rw [Usable, UInt16.le_iff_toNat_le, UInt16.le_iff_toNat_le, ← UInt16.toNat_inj, offset]
    omega
  rw [card_eq_sum_card_fiberwise (f := fun n => (next^[n + 1] g).offset.toNat)
    (t := Icc IPv4.firstUsable.toNat IPv4.lastUsable.toNat), sum_congr rfl fibers, sum_const,
    Nat.card_Icc, smul_eq_mul]
  · exact congrArg (· * 2 ^ 32) (by decide)
  · intro n member
    have usable := (mem_filter.mp member).2
    exact mem_coe.mpr (mem_Icc.mpr usable)

end Generator
end LinkLocal
