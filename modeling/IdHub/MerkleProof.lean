import IdHub.Circomlib
import Mathlib.Data.Fin.VecNotation
import Mathlib.Tactic.IntervalCases

/-!
# The quinary Merkle proof circuit

`merkleproof.circom` climbs a path of five siblings per level.  At each level
`QuinSelector` picks a sibling by a field-element index and the selected value
must equal the accumulator.  The selector's range check compares modulo the
field order, so it also lets the three elements just below zero through; for
those the selected value is `0` instead of a sibling.
-/

namespace IdHub

open BitSums

/-- Template `CalculateTotal`: running sums over a nonempty array. -/
def CalculateTotal {n : ℕ} (nums : Fin (n + 1) → Fr) (sum : Fr) : Prop :=
  ∃ sums : Fin (n + 1) → Fr, sums 0 = nums 0 ∧
    (∀ i : Fin n, sums i.succ = sums i.castSucc + nums i.succ) ∧
    sum = sums (Fin.last n)

/-- Template `QuinSelector(choices)`, with `choices = n + 1`. -/
def QuinSelector (lib : Circomlib) {n : ℕ} (input : Fin (n + 1) → Fr)
    (index out : Fr) : Prop :=
  ∃ (lessThan : Fr) (eqs nums : Fin (n + 1) → Fr) (calcTotal : Fr),
    lib.LessThan 3 index ((n + 1 : ℕ) : Fr) lessThan ∧ lessThan = 1 ∧
    (∀ i, lib.IsEqual ((i.val : ℕ) : Fr) index (eqs i) ∧
      nums i = eqs i * input i) ∧
    CalculateTotal nums calcTotal ∧ out = calcTotal

def Hash5 (lib : Circomlib) (input : Fin 5 → Fr) : Fr := lib.Poseidon input

namespace MerkleProof

/-- The signals of `MerkleProof(depth, 5)`; `leafWasSupplied`, `s` and `h` are
the outputs of the components of those names. -/
structure Signals (depth : ℕ) where
  root : Fr
  leaf : Fr
  siblings : Fin depth → Fin 5 → Fr
  pathIndices : Fin depth → Fr
  leafWasSupplied : Fr
  acc : Fin (depth + 1) → Fr
  s : Fin depth → Fr
  h : Fin depth → Fr

/-- The constraints of `MerkleProof(depth + 1, 5)`; the template reads
`pathIndices[0]`, so its depth is positive. -/
structure Satisfies (lib : Circomlib) {depth : ℕ} (w : Signals (depth + 1)) :
    Prop where
  leafWasSupplied : QuinSelector lib (w.siblings 0) (w.pathIndices 0) w.leafWasSupplied
  leafWasSupplied_out : w.leafWasSupplied = w.leaf
  acc_zero : w.acc 0 = w.leaf
  s : ∀ level, QuinSelector lib (w.siblings level) (w.pathIndices level) (w.s level)
  s_out : ∀ level, w.s level = w.acc level.castSucc
  h : ∀ level, w.h level = Hash5 lib (w.siblings level)
  acc_succ : ∀ level : Fin (depth + 1), w.acc level.succ = w.h level
  root : w.root = w.acc (Fin.last (depth + 1))

/-- The accumulator climbs from the leaf to the root by hashing siblings, and
occurs among the siblings of every level. -/
structure Membership (lib : Circomlib) {depth : ℕ} (w : Signals depth) : Prop where
  acc_zero : w.acc 0 = w.leaf
  acc_succ : ∀ level : Fin depth, w.acc level.succ = lib.Poseidon (w.siblings level)
  root : w.root = w.acc (Fin.last depth)
  mem_siblings : ∀ level, ∃ j, w.siblings level j = w.acc level.castSucc

end MerkleProof

section Selector

variable {lib : Circomlib}

theorem calculateTotal_iff {n : ℕ} (nums : Fin (n + 1) → Fr) (sum : Fr) :
    CalculateTotal nums sum ↔ sum = ∑ i, nums i := by
  have partialSums (sums : Fin (n + 1) → Fr) (first : sums 0 = nums 0)
      (next : ∀ i : Fin n, sums i.succ = sums i.castSucc + nums i.succ) :
      sums (Fin.last n) = ∑ i, nums i := by
    induction n with
    | zero => simpa using first
    | succ n ih =>
        have before := ih (fun i => nums i.castSucc) (fun i => sums i.castSucc)
          first (fun i => next i.castSucc)
        rw [Fin.sum_univ_castSucc, ← before]
        exact next (Fin.last n)
  constructor
  · rintro ⟨sums, first, next, rfl⟩
    exact partialSums sums first next
  · rintro rfl
    let sums : Fin (n + 1) → Fr := fun i =>
      ∑ j : Fin (i.val + 1), nums ⟨j.val, by omega⟩
    have first : sums 0 = nums 0 := by
      change ∑ j : Fin 1, nums ⟨j.val, by omega⟩ = nums 0
      rw [Fin.sum_univ_one]
      rfl
    have next (i : Fin n) : sums i.succ = sums i.castSucc + nums i.succ := by
      simp only [sums, Fin.val_succ, Fin.val_castSucc]
      rw [Fin.sum_univ_castSucc]
      rfl
    exact ⟨sums, first, next, (partialSums sums first next).symm⟩

/-- The index check of `QuinSelector(5)` admits `0, …, 4` and, because the
comparison works modulo the field order, also `-3, -2, -1`. -/
theorem lessThan_three_five_iff (bits : lib.BitSpec) (index : Fr) :
    lib.LessThan 3 index ((5 : ℕ) : Fr) 1 ↔
      (∃ j : Fin 5, index = ((j.val : ℕ) : Fr)) ∨
        index = -1 ∨ index = -2 ∨ index = -3 := by
  rw [bits.lessThan_one_iff]
  constructor
  · rintro ⟨difference, bounded, equal⟩
    have shifted : index = (difference : Fr) - 3 := by
      push_cast at equal
      linear_combination equal
    by_cases low : difference < 3
    · right
      rw [shifted]
      interval_cases difference <;> norm_num
    · left
      refine ⟨⟨difference - 3, by omega⟩, ?_⟩
      rw [shifted, Nat.cast_sub (by omega)]
      norm_num
  · rintro (⟨j, rfl⟩ | rfl | rfl | rfl)
    · exact ⟨j.val + 3, by omega, by push_cast; ring⟩
    · exact ⟨2, by norm_num, by push_cast; ring⟩
    · exact ⟨1, by norm_num, by push_cast; ring⟩
    · exact ⟨0, by norm_num, by push_cast; ring⟩

theorem sum_flags (input : Fin 5 → Fr) (index : Fr) :
    (∑ i : Fin 5, (if ((i.val : ℕ) : Fr) = index then 1 else 0) * input i) =
      ∑ i : Fin 5, if ((i.val : ℕ) : Fr) = index then input i else 0 := by
  refine Finset.sum_congr rfl fun i _ => ?_
  split <;> simp

theorem cast_fin_five_injective :
    Function.Injective fun i : Fin 5 => ((i.val : ℕ) : Fr) := by
  intro i j
  revert i j
  decide +kernel

theorem cast_fin_five_ne_neg (i : Fin 5) :
    ((i.val : ℕ) : Fr) ≠ -1 ∧ ((i.val : ℕ) : Fr) ≠ -2 ∧ ((i.val : ℕ) : Fr) ≠ -3 := by
  revert i
  decide +kernel

theorem select_in_range (input : Fin 5 → Fr) (j : Fin 5) :
    (∑ i : Fin 5, if ((i.val : ℕ) : Fr) = ((j.val : ℕ) : Fr) then input i else 0) =
      input j := by
  rw [Finset.sum_eq_single j]
  · rw [if_pos rfl]
  · intro i _ different
    exact if_neg fun equal => different (cast_fin_five_injective equal)
  · simp

theorem select_negative (input : Fin 5 → Fr) {index : Fr}
    (negative : index = -1 ∨ index = -2 ∨ index = -3) :
    (∑ i : Fin 5, if ((i.val : ℕ) : Fr) = index then input i else 0) = 0 := by
  refine Finset.sum_eq_zero fun i _ => if_neg ?_
  obtain ⟨one, two, three⟩ := cast_fin_five_ne_neg i
  rcases negative with rfl | rfl | rfl
  · exact one
  · exact two
  · exact three

theorem quinSelector_five_iff (bits : lib.BitSpec) (input : Fin 5 → Fr)
    (index out : Fr) :
    QuinSelector lib input index out ↔
      (∃ j : Fin 5, index = ((j.val : ℕ) : Fr) ∧ out = input j) ∨
        ((index = -1 ∨ index = -2 ∨ index = -3) ∧ out = 0) := by
  have selected : QuinSelector lib input index out ↔
      lib.LessThan 3 index ((5 : ℕ) : Fr) 1 ∧
        out = ∑ i : Fin 5, if ((i.val : ℕ) : Fr) = index then input i else 0 := by
    constructor
    · rintro ⟨lessThan, eqs, nums, calcTotal, compared, rfl, flags, total, rfl⟩
      refine ⟨compared, ?_⟩
      rw [(calculateTotal_iff nums out).mp total, ← sum_flags]
      refine Finset.sum_congr rfl fun i _ => ?_
      rw [(flags i).2, bits.isEqual.mp (flags i).1]
    · rintro ⟨compared, rfl⟩
      refine ⟨1, fun i => if ((i.val : ℕ) : Fr) = index then 1 else 0, _, _,
        compared, rfl, fun i => ⟨bits.isEqual.mpr rfl, rfl⟩,
        (calculateTotal_iff _ _).mpr rfl, (sum_flags input index).symm⟩
  rw [selected, lessThan_three_five_iff bits]
  constructor
  · rintro ⟨⟨j, rfl⟩ | negative, rfl⟩
    · exact Or.inl ⟨j, rfl, select_in_range input j⟩
    · exact Or.inr ⟨negative, select_negative input negative⟩
  · rintro (⟨j, rfl, rfl⟩ | ⟨negative, rfl⟩)
    · exact ⟨Or.inl ⟨j, rfl⟩, (select_in_range input j).symm⟩
    · exact ⟨Or.inr negative, (select_negative input negative).symm⟩

end Selector

namespace MerkleProof

variable {lib : Circomlib} {depth : ℕ} {w : Signals (depth + 1)}

theorem Satisfies.level (bits : lib.BitSpec) (satisfied : Satisfies lib w)
    (level : Fin (depth + 1)) :
    (∃ j, w.siblings level j = w.acc level.castSucc) ∨
      ((w.pathIndices level = -1 ∨ w.pathIndices level = -2 ∨
        w.pathIndices level = -3) ∧ w.acc level.castSucc = 0) := by
  rw [← satisfied.s_out level]
  rcases (quinSelector_five_iff bits _ _ _).mp (satisfied.s level) with
    ⟨j, -, selected⟩ | ⟨negative, zero⟩
  · exact Or.inl ⟨j, selected.symm⟩
  · exact Or.inr ⟨negative, zero⟩

theorem Satisfies.acc_eq_zero (bits : lib.BitSpec) (satisfied : Satisfies lib w)
    {level : Fin (depth + 1)}
    (negative : w.pathIndices level = -1 ∨ w.pathIndices level = -2 ∨
      w.pathIndices level = -3) : w.acc level.castSucc = 0 := by
  rw [← satisfied.s_out level]
  rcases (quinSelector_five_iff bits _ _ _).mp (satisfied.s level) with
    ⟨j, inRange, -⟩ | ⟨-, zero⟩
  · obtain ⟨one, two, three⟩ := cast_fin_five_ne_neg j
    rw [inRange] at negative
    rcases negative with equal | equal | equal
    · exact (one equal).elim
    · exact (two equal).elim
    · exact (three equal).elim
  · exact zero

/-- A satisfied circuit proves membership exactly when every level either has
an index outside `-1, -2, -3` or has a zero among its siblings. -/
theorem membership_iff (bits : lib.BitSpec) (satisfied : Satisfies lib w) :
    Membership lib w ↔ ∀ level,
      (w.pathIndices level ≠ -1 ∧ w.pathIndices level ≠ -2 ∧
        w.pathIndices level ≠ -3) ∨ ∃ j, w.siblings level j = 0 := by
  constructor
  · intro membership level
    by_cases negative : w.pathIndices level = -1 ∨ w.pathIndices level = -2 ∨
        w.pathIndices level = -3
    · obtain ⟨j, selected⟩ := membership.mem_siblings level
      exact Or.inr ⟨j, selected.trans (satisfied.acc_eq_zero bits negative)⟩
    · push Not at negative
      exact Or.inl negative
  · intro admissible
    refine ⟨satisfied.acc_zero, ?_, satisfied.root, ?_⟩
    · intro level
      exact (satisfied.acc_succ level).trans (satisfied.h level)
    · intro level
      rcases satisfied.level bits level with selected | ⟨negative, zero⟩
      · exact selected
      · rcases admissible level with ⟨one, two, three⟩ | ⟨j, sibling⟩
        · rcases negative with equal | equal | equal
          · exact (one equal).elim
          · exact (two equal).elim
          · exact (three equal).elim
        · exact ⟨j, sibling.trans zero.symm⟩

/-- The signals of a one-level path whose selector outputs the leaf. -/
def oneLevel (lib : Circomlib) (siblings : Fin 5 → Fr) (leaf index : Fr) :
    Signals (0 + 1) where
  root := lib.Poseidon siblings
  leaf := leaf
  siblings _ := siblings
  pathIndices _ := index
  leafWasSupplied := leaf
  acc := ![leaf, lib.Poseidon siblings]
  s _ := leaf
  h _ := lib.Poseidon siblings

theorem satisfies_oneLevel {siblings : Fin 5 → Fr} {leaf index : Fr}
    (selected : QuinSelector lib siblings index leaf) :
    Satisfies lib (oneLevel lib siblings leaf index) where
  leafWasSupplied := selected
  leafWasSupplied_out := rfl
  acc_zero := rfl
  s _ := selected
  s_out | ⟨0, _⟩ => rfl
  h _ := rfl
  acc_succ | ⟨0, _⟩ => rfl
  root := rfl

/-- Poseidon on the two sibling vectors used below. -/
def samplePoseidon {n : ℕ} (inputs : Fin n → Fr) : Fr :=
  Circomlib.poseidonTable
    [([1, 1, 1, 1, 1],
        7336984428078952600237169304321914358474313324708186973411450536267727944123),
      ([7, 1, 2, 3, 4],
        20833920637717064791070027602161194448590159201129289631348459433122020254890)]
    inputs

theorem membership_seven :
    Membership (Circomlib.reference samplePoseidon)
      (oneLevel (Circomlib.reference samplePoseidon) ![7, 1, 2, 3, 4] 7 0) := by
  have bits := Circomlib.reference_bitSpec samplePoseidon
  have selected : QuinSelector (Circomlib.reference samplePoseidon)
      ![7, 1, 2, 3, 4] 0 7 :=
    (quinSelector_five_iff bits _ _ _).mpr (Or.inl ⟨0, by simp, rfl⟩)
  refine (membership_iff bits (satisfies_oneLevel selected)).mpr fun level => ?_
  left
  change (0 : Fr) ≠ -1 ∧ (0 : Fr) ≠ -2 ∧ (0 : Fr) ≠ -3
  decide +kernel

/-- The index `-1` proves the leaf `0` under siblings that are all `1`. -/
theorem forged_zero_leaf :
    Satisfies (Circomlib.reference samplePoseidon)
        (oneLevel (Circomlib.reference samplePoseidon) (fun _ => 1) 0 (-1)) ∧
      ¬ Membership (Circomlib.reference samplePoseidon)
        (oneLevel (Circomlib.reference samplePoseidon) (fun _ => 1) 0 (-1)) := by
  have bits := Circomlib.reference_bitSpec samplePoseidon
  constructor
  · exact satisfies_oneLevel
      ((quinSelector_five_iff bits _ _ _).mpr (Or.inr ⟨Or.inl rfl, rfl⟩))
  · intro membership
    obtain ⟨j, equal⟩ := membership.mem_siblings 0
    change (1 : Fr) = 0 at equal
    exact one_ne_zero equal

end MerkleProof

end IdHub
