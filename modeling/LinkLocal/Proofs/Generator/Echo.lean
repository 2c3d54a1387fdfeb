import LinkLocal.Proofs.Generator.HalfTurn
import Mathlib.Data.Nat.Nth
import Mathlib.Data.Nat.Prime.Basic

/-! The echo of a generator: the offsets of its draws, without those that are not usable, or
would not be with the top bit turned over. Half a turn of the generator turns over the top
bit of all of the echo, and a turn gives every offset of the echo a power of two times. So
the echo begins anew after a whole turn and not before. -/
namespace LinkLocal.Generator

open Function Nat

variable {g : Generator}

/-- Whether the draw at a place, counted from zero, may be used on both sides. -/
def TwofoldAt (g : Generator) (n : ℕ) : Prop := Twofold (next^[n + 1] g).offset

instance (g : Generator) : DecidablePred g.TwofoldAt :=
  fun n => inferInstanceAs (Decidable (Twofold (next^[n + 1] g).offset))

theorem iterate_iterate_succ (m n : ℕ) (g : Generator) :
    next^[n + 1] (next^[m] g) = next^[m + n + 1] g := by
  rw [← iterate_add_apply, Nat.add_comm, Nat.add_assoc]

theorem twofoldAt_iterate (m : ℕ) (g : Generator) :
    (next^[m] g).TwofoldAt = fun n => g.TwofoldAt (m + n) := by
  funext n
  rw [TwofoldAt, TwofoldAt, iterate_iterate_succ]

/-- The draws behind some others are counted from there. -/
theorem count_twofoldAt_add (m n : ℕ) : count g.TwofoldAt (m + n) =
    count g.TwofoldAt m + count (next^[m] g).TwofoldAt n := by
  simp only [count_add, twofoldAt_iterate]

theorem count_offset (g : Generator) (o : UInt16) :
    count (fun n => (next^[n + 1] g).offset = o) period = 2 ^ 32 := by
  rw [count_eq_card_filter_range, card_offset]

theorem infinite_twofoldAt (g : Generator) : {n | g.TwofoldAt n}.Infinite := by
  refine Set.infinite_of_forall_exists_gt fun n => ?_
  have some : 0 < count (fun k => (next^[k + 1] (next^[n + 1] g)).offset = IPv4.firstUsable)
      period := by
    rw [count_offset]
    exact Nat.two_pow_pos 32
  rw [count_eq_card_filter_range, Finset.card_pos] at some
  obtain ⟨k, member⟩ := some
  have first := (Finset.mem_filter.mp member).2
  rw [iterate_iterate_succ] at first
  exact ⟨n + 1 + k, by simpa only [Set.mem_ofPred_eq, TwofoldAt, first] using twofold_firstUsable,
    by omega⟩

/-! ## The echo -/

/-- The offsets of the twofold draws, in their order. -/
noncomputable def echo (g : Generator) (k : ℕ) : UInt16 :=
  (next^[nth g.TwofoldAt k + 1] g).offset

/-- A twofold draw stands in the echo behind those of the twofold draws before it. -/
theorem echo_count {n : ℕ} (twofold : g.TwofoldAt n) :
    g.echo (count g.TwofoldAt n) = (next^[n + 1] g).offset := by
  rw [echo, nth_count twofold]

/-- The echo of a later state is a later part of the echo. -/
theorem echo_iterate (m k : ℕ) :
    (next^[m] g).echo k = g.echo (count g.TwofoldAt m + k) := by
  have twofold := nth_mem_of_infinite (next^[m] g).infinite_twofoldAt k
  have place := count_nth_of_infinite (next^[m] g).infinite_twofoldAt k
  rw [echo]
  generalize nth (next^[m] g).TwofoldAt k = n at twofold place ⊢
  have here : g.TwofoldAt (m + n) := by simpa only [twofoldAt_iterate] using twofold
  rw [← place, ← count_twofoldAt_add, echo_count here, iterate_iterate_succ]

/-- The echo has a twofold offset as often as the draws that it comes from. -/
theorem count_echo {o : UInt16} (twofold : Twofold o) (n : ℕ) :
    count (fun k => g.echo k = o) (count g.TwofoldAt n) =
      count (fun k => (next^[k + 1] g).offset = o) n := by
  induction n with
  | zero => simp only [count_zero]
  | succ n ih =>
    by_cases here : g.TwofoldAt n
    · rw [count_succ_eq_succ_count here, count_succ, count_succ, ih, echo_count here]
    · have other : ¬ (next^[n + 1] g).offset = o := by
        rintro rfl
        exact here twofold
      rw [count_succ_eq_count here, count_succ_eq_count other, ih]

/-! ## Turns of the echo -/

/-- The offsets of the echo that come in a turn of the generator. -/
def turn (g : Generator) : ℕ := count g.TwofoldAt period

theorem twofoldAt_halfPeriod (below : g.value < period) :
    (next^[halfPeriod] g).TwofoldAt = g.TwofoldAt := by
  funext n
  rw [TwofoldAt, iterate_halfPeriod_iterate below, twofold_opposite_iff, TwofoldAt]

/-- Both halves of a turn give equally many. -/
theorem turn_eq (below : g.value < period) : g.turn = 2 * count g.TwofoldAt halfPeriod := by
  have second : count (next^[halfPeriod] g).TwofoldAt halfPeriod =
      count g.TwofoldAt halfPeriod := by
    simp only [twofoldAt_halfPeriod below]
  rw [turn, period_eq_two_halves, count_twofoldAt_add, second, two_mul]

/-- A sequence without its first elements. -/
def behind (e : ℕ → UInt16) (k : ℕ) : UInt16 := e (k + 1)

theorem behind_iterate (n : ℕ) (e : ℕ → UInt16) : behind^[n] e = fun k => e (n + k) := by
  induction n with
  | zero => funext k; rw [Nat.zero_add]; rfl
  | succ n ih =>
    rw [iterate_succ_apply', ih]
    funext k
    rw [behind, Nat.add_right_comm n 1 k, Nat.add_assoc]

theorem behind_count (m : ℕ) : behind^[count g.TwofoldAt m] g.echo = (next^[m] g).echo := by
  rw [behind_iterate]
  funext k
  rw [echo_iterate]

theorem isPeriodicPt_turn (below : g.value < period) : IsPeriodicPt behind g.turn g.echo := by
  have back : next^[period] g = g := (iterate_eq_self_iff below period).mpr dvd_rfl
  rw [IsPeriodicPt, IsFixedPt, turn, behind_count, back]

/-- After half a turn the echo is another one. -/
theorem not_isPeriodicPt_half (below : g.value < period) :
    ¬ IsPeriodicPt behind (count g.TwofoldAt halfPeriod) g.echo := by
  intro periodic
  rw [IsPeriodicPt, IsFixedPt, behind_count] at periodic
  have first := congrFun periodic 0
  rw [echo, echo, twofoldAt_halfPeriod below, iterate_halfPeriod_iterate below] at first
  exact offset_opposite_ne _ first

/-- What comes in every period of a sequence comes as often in each. -/
theorem count_mul_of_isPeriodicPt {e : ℕ → UInt16} {p : ℕ} (periodic : IsPeriodicPt behind p e)
    (o : UInt16) (m : ℕ) : count (fun k => e k = o) (m * p) = m * count (fun k => e k = o) p := by
  have again (k : ℕ) : e (p + k) = e k := by
    rw [IsPeriodicPt, IsFixedPt, behind_iterate] at periodic
    exact congrFun periodic k
  induction m with
  | zero => simp
  | succ m ih =>
    rw [Nat.succ_mul, Nat.add_comm, count_add]
    simp only [again]
    rw [ih, Nat.succ_mul, Nat.add_comm]

/-- The echo begins anew after a whole turn and not before. -/
theorem minimalPeriod_echo (below : g.value < period) : minimalPeriod behind g.echo = g.turn := by
  have periodic := isPeriodicPt_minimalPeriod behind g.echo
  have notHalf := mt (IsPeriodicPt.trans_dvd periodic) (not_isPeriodicPt_half below)
  obtain ⟨m, eq⟩ := (isPeriodicPt_turn below).minimalPeriod_dvd
  rw [Nat.mul_comm] at eq
  -- Every twofold offset comes equally often in each period, so their number is a power of two.
  have shares : m ∣ 2 ^ 32 := by
    rw [← count_offset g IPv4.firstUsable, ← count_echo twofold_firstUsable, ← turn, eq,
      count_mul_of_isPeriodicPt periodic]
    exact dvd_mul_right _ _
  obtain ⟨j, -, rfl⟩ := (Nat.dvd_prime_pow Nat.prime_two).mp shares
  cases j with
  | zero => rw [eq, Nat.pow_zero, Nat.one_mul]
  | succ j =>
    have half : count g.TwofoldAt halfPeriod = 2 ^ j * minimalPeriod behind g.echo := by
      have halves := turn_eq below
      rw [eq, Nat.pow_succ, Nat.mul_right_comm, Nat.mul_comm] at halves
      omega
    exact absurd (half ▸ Nat.dvd_mul_left _ _) notHalf

/-- A later state has the same echo exactly if whole turns of the echo lie between. -/
theorem echo_iterate_eq_iff (below : g.value < period) (m : ℕ) :
    (next^[m] g).echo = g.echo ↔ g.turn ∣ count g.TwofoldAt m := by
  rw [← behind_count, ← minimalPeriod_echo below]
  exact isPeriodicPt_iff_minimalPeriod_dvd

end LinkLocal.Generator
