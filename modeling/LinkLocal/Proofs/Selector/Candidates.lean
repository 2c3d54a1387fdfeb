import LinkLocal.Host
import LinkLocal.Proofs.Selector.Uniform

/-! The candidates of a run: the requested address, if there is one, and behind it the
candidate sequence, which comes to every usable address. -/
namespace LinkLocal

namespace IPv4

/-- The usable addresses stand one behind the other. -/
theorem toNat_usable {i : ℕ} (within : i < usableCount) :
    (UInt16.ofNat (firstUsable.toNat + i)).toNat = firstUsable.toNat + i := by
  refine UInt16.toNat_ofNat_of_lt' ?_
  have count : usableCount = 65024 := rfl
  have first := toNat_firstUsable
  have size : UInt16.size = 65536 := rfl
  omega

theorem isUsable_linkLocal {i : ℕ} (within : i < usableCount) :
    (linkLocal (UInt16.ofNat (firstUsable.toNat + i))).isUsable = true := by
  have offset := toNat_usable within
  have count : usableCount = 65024 := rfl
  have first := toNat_firstUsable
  have last := toNat_lastUsable
  refine (isUsable_iff _).mpr ⟨_, ⟨?_, ?_⟩, rfl⟩ <;>
  · rw [UInt16.le_iff_toNat_le]
    omega

/-- Fewer addresses than there are usable ones leave a usable one over. -/
theorem exists_isUsable_notMem {as : List IPv4} (few : as.length < usableCount) :
    ∃ a : IPv4, a.isUsable = true ∧ a ∉ as := by
  classical
  by_contra none
  push Not at none
  have many : (Finset.range usableCount).card ≤ as.toFinset.card := by
    refine Finset.card_le_card_of_injOn
      (fun i => linkLocal (UInt16.ofNat (firstUsable.toNat + i))) ?_ ?_
    · intro i below
      rw [Finset.mem_coe, List.mem_toFinset]
      exact none _ (isUsable_linkLocal (Finset.mem_range.mp below))
    · intro i below j below' same
      have same := congrArg UInt16.toNat (linkLocal_injective same)
      rw [toNat_usable (Finset.mem_range.mp below), toNat_usable (Finset.mem_range.mp below')] at same
      omega
  rw [Finset.card_range] at many
  exact absurd (many.trans as.toFinset_card_le) (Nat.not_le.mpr few)

end IPv4

namespace Config

/-- The candidates of a run, in the order in which they are probed. -/
def candidate (c : Config) (i : ℕ) : IPv4 :=
  match c.requestedAddress, i with
  | none, i => (Selector.ofSeed c.enumeration).nth i
  | some a, 0 => a
  | some _, i + 1 => (Selector.ofSeed c.enumeration).nth i

/-- The position in the candidate sequence behind a candidate. -/
def position (c : Config) (i : ℕ) : Selector :=
  match c.requestedAddress with
  | none => (Selector.ofSeed c.enumeration).drop (i + 1)
  | some _ => (Selector.ofSeed c.enumeration).drop i

variable (c : Config)

theorem firstCandidate_eq : Host.firstCandidate c = (c.candidate 0, c.position 0) := by
  cases requested : c.requestedAddress <;>
    simp only [Host.firstCandidate, candidate, position, requested] <;> rfl

/-- Behind a candidate comes the next one. -/
theorem next_position (i : ℕ) :
    (c.position i).next = (c.candidate (i + 1), c.position (i + 1)) := by
  cases requested : c.requestedAddress with
  | none =>
    simp only [candidate, position, requested]
    rw [Selector.drop_add (i + 1) 1]
    rfl
  | some a =>
    simp only [candidate, position, requested]
    rw [Selector.drop_add i 1]
    rfl

/-- The first candidates are the requested address, if there is one, and the candidate sequence
behind it. -/
theorem candidates_prefix (n : ℕ) : (List.range n).map c.candidate <+:
    c.requestedAddress.toList ++ (Selector.ofSeed c.enumeration).take n := by
  cases requested : c.requestedAddress with
  | none =>
    have sequence : c.candidate = fun i => (Selector.ofSeed c.enumeration).nth i := by
      funext i
      simp only [candidate, requested]
    rw [sequence, ← Selector.take_eq_map]
    exact List.prefix_rfl
  | some a =>
    cases n with
    | zero => exact List.nil_prefix
    | succ n =>
      have first : c.candidate 0 = a := by simp only [candidate, requested]
      have later : c.candidate ∘ Nat.succ = fun i => (Selector.ofSeed c.enumeration).nth i := by
        funext i
        simp only [Function.comp_apply, Nat.succ_eq_add_one, candidate, requested]
      rw [List.range_succ_eq_map, List.map_cons, List.map_map, first, later,
        Selector.take_eq_map, List.range_succ, List.map_append]
      exact ⟨_, rfl⟩

/-- Every usable address is among the candidates of a turn, behind the requested one. -/
theorem exists_candidate_eq_of_le {a : IPv4} (usable : a.isUsable = true) :
    ∃ i ≤ IPv4.usableCount * 2 ^ 32, c.candidate i = a := by
  obtain ⟨n, within, same⟩ : ∃ n < _, (Selector.ofSeed c.enumeration).nth n = a :=
    Selector.exists_nth_eq_of_lt _ usable
  cases requested : c.requestedAddress with
  | none => exact ⟨n, within.le, by simpa only [candidate, requested] using same⟩
  | some b => exact ⟨n + 1, within, by simpa only [candidate, requested] using same⟩

theorem exists_candidate_eq {a : IPv4} (usable : a.isUsable = true) : ∃ i, c.candidate i = a :=
  (c.exists_candidate_eq_of_le usable).imp fun _ => And.right

end Config
end LinkLocal
