import LinkLocal.LinkAddress
import LinkLocal.Proofs.Generator.Echo
import LinkLocal.Proofs.Selector.Repeats
import Mathlib.Data.Nat.Digits.Lemmas

/-! Which hosts try the same candidates. The seeds of two link addresses are different, and so
are the states that the generators begin in. But a reserved draw leaves no candidate behind, so
a host whose first draws are all reserved has the candidates of the host that begins behind
them. There is no other way: a candidate sequence tells the echo of its generator, which begins
anew after a whole turn only. -/
namespace LinkLocal

open Function Nat

/-! ## Reserved draws in front -/

namespace Generator

/-- Whether a generator comes to another state by one or more draws, none of which is usable. -/
def Merges (g g' : Generator) : Prop :=
  ∃ n, next^[n + 1] g = g' ∧ ∀ i ≤ n, ¬ (next^[i + 1] g).Usable

theorem Twofold.usable {g : Generator} (twofold : Twofold g.offset) : g.Usable := twofold.1

end Generator

/-- The offset of a link-local address. -/
def IPv4.offset (a : IPv4) : UInt16 := a.bits.toUInt16

theorem IPv4.offset_linkLocal (o : UInt16) : (linkLocal o).offset = o := by
  refine UInt16.toNat_inj.mp ?_
  rw [offset, UInt32.toNat_toUInt16, toNat_linkLocal]
  have := o.toNat_lt
  omega

namespace Selector

open Generator

variable {g g' : Generator}

theorem nth_eq_of_merges (merges : Merges g g') (n : ℕ) : nth n ⟨g⟩ = nth n ⟨g'⟩ := by
  obtain ⟨m, rfl, reserved⟩ := merges
  have none : (draws (m + 1) g).countP Usable = 0 := by
    rw [Generator.countP_draws, Finset.card_eq_zero, Finset.filter_eq_empty_iff]
    exact fun i member => reserved i (Nat.lt_succ_iff.mp (Finset.mem_range.mp member))
  have same : (⟨g⟩ : Selector).next = (⟨Generator.next^[m + 1] g⟩ : Selector).next := by
    rw [← next_drop_draws, none, drop]
  rw [nth, nth, next_drop_congr same]

/-! ## The echo in the candidates -/

/-- Whether the candidate at a place may be used on both sides. -/
def TwofoldAt (s : Selector) (n : ℕ) : Prop := Twofold (nth n s).offset

instance (s : Selector) : DecidablePred s.TwofoldAt :=
  fun n => inferInstanceAs (Decidable (Twofold (nth n s).offset))

theorem countP_draws_eq_count (n : ℕ) (g : Generator) :
    (draws n g).countP Usable = count (fun i => (Generator.next^[i + 1] g).Usable) n := by
  rw [Generator.countP_draws, count_eq_card_filter_range]

/-- The candidate of a usable draw. -/
theorem nth_count_usable {n : ℕ} (usable : (Generator.next^[n + 1] g).Usable) :
    nth (count (fun i => (Generator.next^[i + 1] g).Usable) n) ⟨g⟩ =
      .linkLocal (Generator.next^[n + 1] g).offset := by
  rw [← countP_draws_eq_count, nth_countP_draws usable]

/-- Among the candidates of some draws there are as many twofold ones as among the draws. -/
theorem count_twofoldAt (n : ℕ) (g : Generator) :
    count (TwofoldAt ⟨g⟩) (count (fun i => (Generator.next^[i + 1] g).Usable) n) =
      count g.TwofoldAt n := by
  induction n with
  | zero => simp only [count_zero]
  | succ n ih =>
    by_cases usable : (Generator.next^[n + 1] g).Usable
    · have same : TwofoldAt ⟨g⟩ (count (fun i => (Generator.next^[i + 1] g).Usable) n) ↔
          g.TwofoldAt n := by
        rw [TwofoldAt, nth_count_usable usable, IPv4.offset_linkLocal, Generator.TwofoldAt]
      rw [count_succ_eq_succ_count usable, count_succ, count_succ, ih]
      simp only [same]
    · have neither : ¬ g.TwofoldAt n := fun twofold => usable (Twofold.usable twofold)
      rw [count_succ_eq_count usable, ih, count_succ_eq_count neither]

/-- The echo of the generator is what the twofold candidates show. -/
theorem nth_twofoldAt (g : Generator) (k : ℕ) :
    nth (Nat.nth (TwofoldAt ⟨g⟩) k) ⟨g⟩ = .linkLocal (g.echo k) := by
  have twofold := nth_mem_of_infinite g.infinite_twofoldAt k
  have place := count_nth_of_infinite g.infinite_twofoldAt k
  rw [echo]
  generalize Nat.nth g.TwofoldAt k = n at twofold place ⊢
  have candidate := nth_count_usable (Twofold.usable twofold)
  have here : TwofoldAt ⟨g⟩ (count (fun i => (Generator.next^[i + 1] g).Usable) n) := by
    rw [TwofoldAt, candidate, IPv4.offset_linkLocal]
    exact twofold
  rw [← place, ← count_twofoldAt, Nat.nth_count here, candidate]

/-- Equal candidates come with equal echoes. -/
theorem echo_eq (same : ∀ n, nth n ⟨g⟩ = nth n ⟨g'⟩) : g.echo = g'.echo := by
  have places : TwofoldAt ⟨g⟩ = TwofoldAt ⟨g'⟩ := by
    funext n
    rw [TwofoldAt, same, TwofoldAt]
  funext k
  refine IPv4.linkLocal_injective ?_
  rw [← nth_twofoldAt, ← nth_twofoldAt, same, places]

/-! ## Equal candidates -/

/-- Behind some draws the candidates go on as they do behind those that were usable. -/
theorem nth_iterate (m n : ℕ) (g : Generator) : nth n ⟨Generator.next^[m] g⟩ =
    nth (count (fun i => (Generator.next^[i + 1] g).Usable) m + n) ⟨g⟩ := by
  have same := next_drop_draws m g
  rw [← countP_draws_eq_count, nth, nth, drop_add, next_drop_congr same]

/-- If the candidates are the same behind some draws without a twofold one, then none of these
draws was usable: else the candidates would go on without a twofold one. -/
theorem not_usable_of_nth_eq {m : ℕ} (same : ∀ n, nth n ⟨g⟩ = nth n ⟨Generator.next^[m] g⟩)
    (none : count g.TwofoldAt m = 0) : ∀ i < m, ¬ (Generator.next^[i + 1] g).Usable := by
  rw [← count_twofoldAt, count_iff_forall_not] at none
  simp only [nth_iterate] at same
  generalize counted : count (fun i => (Generator.next^[i + 1] g).Usable) m = u at none same
  suffices u = 0 from count_iff_forall_not.mp (counted.trans this)
  by_contra some
  have never (n : ℕ) : ¬ TwofoldAt ⟨g⟩ n := by
    induction n using Nat.strong_induction_on with
    | _ n ih =>
      by_cases early : n < u
      · exact none n early
      · have back := same (n - u)
        rw [show u + (n - u) = n by omega] at back
        rw [TwofoldAt, ← back]
        exact ih (n - u) (by omega)
  have usable : (IPv4.linkLocal IPv4.firstUsable).isUsable = true := rfl
  obtain ⟨n, -, first⟩ := exists_nth_eq_of_lt g usable
  refine never n ?_
  rw [TwofoldAt, first, IPv4.offset_linkLocal]
  exact twofold_firstUsable

/-- If the echo has turned less than wholly over draws that leave the candidates as they are,
then all of them were reserved. -/
theorem merges_of_count_eq_zero {m : ℕ} (other : g' ≠ g) (reached : Generator.next^[m] g = g')
    (same : ∀ n, nth n ⟨g⟩ = nth n ⟨g'⟩) (none : count g.TwofoldAt m = 0) : Merges g g' := by
  subst reached
  have reserved := not_usable_of_nth_eq same none
  obtain ⟨k, rfl⟩ : ∃ k, m = k + 1 := Nat.exists_eq_succ_of_ne_zero (by rintro rfl; exact other rfl)
  exact ⟨k, rfl, fun i bound => reserved i (Nat.lt_succ_of_le bound)⟩

/-- Two generators in different states give the same candidates exactly if one of them comes to
the state of the other by reserved draws alone. -/
theorem forall_nth_eq_iff (other : g ≠ g') (below : g.value < period) (below' : g'.value < period) :
    (∀ n, nth n ⟨g⟩ = nth n ⟨g'⟩) ↔ Merges g g' ∨ Merges g' g := by
  constructor
  · intro same
    obtain ⟨m, early, reached⟩ := (bijOn_iterate below).surjOn
      (Finset.mem_coe.mpr (Finset.mem_range.mpr below'))
    replace reached : Generator.next^[m] g = g' := value_injective reached
    have inTurn : m < period := Finset.mem_range.mp (Finset.mem_coe.mp early)
    -- The rest of the turn leads back.
    have back : Generator.next^[period - m] g' = g := by
      rw [← reached, ← iterate_add_apply, Nat.sub_add_cancel inTurn.le]
      exact (iterate_eq_self_iff below period).mpr dvd_rfl
    have parts : g.turn = count g.TwofoldAt m + count g'.TwofoldAt (period - m) := by
      rw [turn, ← reached, ← count_twofoldAt_add, Nat.add_sub_cancel' inTurn.le]
    have echoes := echo_eq same
    rw [← reached, eq_comm, echo_iterate_eq_iff below] at echoes
    obtain ⟨k, eq⟩ := echoes
    cases k with
    | zero => exact .inl (merges_of_count_eq_zero other.symm reached same eq)
    | succ k =>
      refine .inr (merges_of_count_eq_zero other back (fun n => (same n).symm) ?_)
      rw [eq, Nat.mul_succ] at parts
      omega
  · rintro (merges | merges) n
    · exact nth_eq_of_merges merges n
    · exact (nth_eq_of_merges merges n).symm

end Selector

/-! ## The seeds of hosts -/

namespace LinkAddress

/-- The bytes of a link address as the digits of a number, the last one first. -/
def digits (a : LinkAddress) : List ℕ := a.bytes.reverse.map UInt8.toNat

theorem length_digits (a : LinkAddress) : a.digits.length = a.length := by
  rw [digits, List.length_map, List.length_reverse, length]

theorem digits_lt (a : LinkAddress) : ∀ d ∈ a.digits, d < 256 := by
  intro d member
  obtain ⟨b, -, rfl⟩ := List.mem_map.mp member
  exact b.toNat_lt

theorem ofDigits_digits_lt (a : LinkAddress) : ofDigits 256 a.digits < 256 ^ a.length := by
  rw [← length_digits]
  exact ofDigits_lt_base_pow_length (by decide) a.digits_lt

theorem digits_injective : Injective digits := by
  intro a b same
  have inj : Injective UInt8.toNat := fun x y => UInt8.toNat_inj.mp
  cases a
  cases b
  exact congrArg LinkAddress.mk (List.reverse_injective (inj.list_map same))

/-- The seed of at most eight bytes is the number with these digits. -/
theorem toNat_seed {a : LinkAddress} (short : a.length ≤ 8) :
    a.seed.toNat = ofDigits 256 a.digits := by
  obtain ⟨bytes⟩ := a
  induction bytes using List.reverseRecOn with
  | nil => rfl
  | append_singleton bytes b ih =>
    rw [length, List.length_append, List.length_singleton] at short
    have number := ih (Nat.le_of_succ_le short)
    have bound : ofDigits 256 (digits ⟨bytes⟩) < 256 ^ bytes.length := ofDigits_digits_lt ⟨bytes⟩
    have room : 256 ^ bytes.length ≤ 256 ^ 7 := Nat.pow_le_pow_right (by decide) (by omega)
    have later : (⟨bytes ++ [b]⟩ : LinkAddress).digits = b.toNat :: digits ⟨bytes⟩ := by
      rw [digits, List.reverse_append, List.reverse_singleton, List.singleton_append,
        List.map_cons, digits]
    have joined : (⟨bytes ++ [b]⟩ : LinkAddress).seed =
        (⟨bytes⟩ : LinkAddress).seed <<< 8 ||| b.toUInt64 := by
      rw [seed, List.foldl_append, List.foldl_cons, List.foldl_nil, ← seed]
    have apart := two_pow_add_eq_or_of_lt (i := 8) b.toNat_lt (⟨bytes⟩ : LinkAddress).seed.toNat
    rw [joined, later, ofDigits_cons, ← number, UInt64.toNat_or, UInt64.toNat_shiftLeft,
      UInt8.toNat_toUInt64, Nat.shiftLeft_eq, show (8 : UInt64).toNat % 64 = 8 from rfl,
      Nat.mod_eq_of_lt (by omega), Nat.mul_comm, ← apart, Nat.add_comm]

/-- The generator of a six-byte link address begins in the state with these digits. -/
theorem value_ofSeed_seed {a : LinkAddress} (six : a.length = ethernetLength) :
    (Generator.ofSeed a.seed).value = ofDigits 256 a.digits := by
  have below : ofDigits 256 a.digits < Generator.period := by
    have bound := a.ofDigits_digits_lt
    rwa [six] at bound
  rw [Generator.value_ofSeed, toNat_seed (six.le.trans (by decide)), Nat.mod_eq_of_lt below]

/-- The generators of different six-byte link addresses begin in different states. -/
theorem ofSeed_seed_ne {a b : LinkAddress} (other : a ≠ b) (six : a.length = ethernetLength)
    (six' : b.length = ethernetLength) : Generator.ofSeed a.seed ≠ Generator.ofSeed b.seed := by
  intro same
  have number := congrArg Generator.value same
  have long : a.digits.length = b.digits.length := by
    rw [length_digits, length_digits, six, six']
  rw [value_ofSeed_seed six, value_ofSeed_seed six'] at number
  exact other (digits_injective
    (ofDigits_inj_of_len_eq (by decide) long a.digits_lt b.digits_lt number))

end LinkAddress

open Generator

/-- Two hosts with different link addresses try different candidates, unless the generator of
one begins with reserved draws that lead to the state in which the other begins. -/
theorem candidates_ne_iff (a b : LinkAddress) (other : a ≠ b)
    (six : a.length = LinkAddress.ethernetLength) (six' : b.length = LinkAddress.ethernetLength) :
    (fun n => (Selector.ofSeed a.seed).nth n) ≠ (fun n => (Selector.ofSeed b.seed).nth n) ↔
      ¬ Merges (.ofSeed a.seed) (.ofSeed b.seed) ∧ ¬ Merges (.ofSeed b.seed) (.ofSeed a.seed) := by
  have merging := Selector.forall_nth_eq_iff (LinkAddress.ofSeed_seed_ne other six six')
    (value_ofSeed_lt _) (value_ofSeed_lt _)
  rw [← not_or, ← merging, ne_eq, funext_iff]
  rfl

/-- No reserved draws lead from one of these hosts to the other: their first candidates are not
the same. -/
theorem candidates_ne_neighbours :
    (⟨[2, 0, 0x5e, 0x10, 0, 1]⟩ : LinkAddress) ≠ ⟨[2, 0, 0x5e, 0x10, 0, 2]⟩ ∧
      ¬ Merges (.ofSeed (LinkAddress.seed ⟨[2, 0, 0x5e, 0x10, 0, 1]⟩))
        (.ofSeed (LinkAddress.seed ⟨[2, 0, 0x5e, 0x10, 0, 2]⟩)) := by
  have other : (⟨[2, 0, 0x5e, 0x10, 0, 1]⟩ : LinkAddress) ≠ ⟨[2, 0, 0x5e, 0x10, 0, 2]⟩ := by decide
  have first : (Selector.ofSeed (LinkAddress.seed ⟨[2, 0, 0x5e, 0x10, 0, 1]⟩)).nth 0 =
      .linkLocal 0x8ecc := congrArg Prod.fst (Selector.next_of_usable (by decide))
  have second : (Selector.ofSeed (LinkAddress.seed ⟨[2, 0, 0x5e, 0x10, 0, 2]⟩)).nth 0 =
      .linkLocal 0xefdf := congrArg Prod.fst (Selector.next_of_usable (by decide))
  refine ⟨other, ((candidates_ne_iff _ _ other rfl rfl).mp fun same => ?_).1⟩
  have equal := congrFun same 0
  rw [first, second] at equal
  exact absurd equal (by decide)

/-- Hosts with different link addresses may try the same candidates, all of them: here one
reserved draw leads from the state in which one generator begins to that of the other. -/
theorem same_candidates :
    (⟨[2, 0, 0x5e, 0x48, 0x6b, 0xc8]⟩ : LinkAddress) ≠ ⟨[2, 0, 2, 0xb, 0x94, 0x33]⟩ ∧
      (fun n => (Selector.ofSeed (LinkAddress.seed ⟨[2, 0, 0x5e, 0x48, 0x6b, 0xc8]⟩)).nth n) =
        fun n => (Selector.ofSeed (LinkAddress.seed ⟨[2, 0, 2, 0xb, 0x94, 0x33]⟩)).nth n := by
  refine ⟨by decide, funext fun n => Selector.nth_eq_of_merges ⟨0, by decide, ?_⟩ n⟩
  intro i first
  obtain rfl := Nat.le_zero.mp first
  decide

end LinkLocal
