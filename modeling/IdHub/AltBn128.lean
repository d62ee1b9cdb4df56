import IdHub.Bn254
import IdHub.MordellMultiples
import Mathlib.Algebra.Module.ZMod

/-!
# The group `G1` of BN254

The Groth16 verifiers compute with the points of `y² = x³ + 3` over the field of order `q`.
The group of these points has the prime order of the scalar field: the generator has this
order, the field is too small for a third coset, and `-3` is not a cube.  So the public
inputs of a proof, which are scalars, act on it.
-/

namespace IdHub

open MordellCurves

/-- `q` of the function `negate` of the verifiers. -/
abbrev baseOrder : ℕ :=
  21888242871839275222246405745257275088696311157297823662689037894645226208583

abbrev Fq : Type := ZMod baseOrder

namespace AltBn128

open LucasCertificates

def smallPrimes : List ℕ :=
  [2, 3, 5, 7, 11, 13, 17, 19, 29, 37, 41, 67, 73, 89, 109, 229, 233, 271, 311, 911, 983,
    1231, 3557, 3691, 4999, 11003, 13327]

theorem smallPrimes_prime : ∀ number ∈ smallPrimes, number.Prime := by
  simp only [smallPrimes, List.forall_mem_cons, List.not_mem_nil,
    IsEmpty.forall_iff, implies_true, and_true]
  norm_num

def steps : List Step :=
  [⟨327599, 19, [2, 19, 37, 233]⟩,
    ⟨1853641, 17, [2, 2, 2, 3, 3, 5, 19, 271]⟩,
    ⟨4562087, 5, [2, 17, 109, 1231]⟩,
    ⟨173171039, 13, [2, 73, 89, 13327]⟩,
    ⟨405928799, 22, [2, 11, 3691, 4999]⟩,
    ⟨1263766531, 10, [2, 3, 5, 13, 911, 3557]⟩,
    ⟨11465965001, 3, [2, 2, 2, 5, 5, 5, 5, 7, 327599]⟩,
    ⟨35385462869, 2, [2, 2, 7, 1263766531]⟩,
    ⟨2480874801745591, 6, [2, 3, 3, 5, 19, 41, 35385462869]⟩,
    ⟨13427688667394608761327070753331941386769, 17,
      [2, 2, 2, 2, 3, 7, 11, 1853641, 4562087, 173171039, 2480874801745591]⟩,
    ⟨baseOrder, 3, [2, 3, 3, 13, 29, 67, 229, 311, 983, 11003, 405928799, 11465965001,
      13427688667394608761327070753331941386769]⟩]

theorem steps_checked : check 256 smallPrimes steps = true := by
  decide +kernel

theorem steps_prime : ∀ number ∈ steps.map Step.candidate, number.Prime :=
  prime_of_check smallPrimes_prime steps_checked

end AltBn128

theorem baseOrder_prime : baseOrder.Prime :=
  AltBn128.steps_prime baseOrder (by simp [AltBn128.steps])

instance : Fact baseOrder.Prime := ⟨baseOrder_prime⟩

namespace AltBn128

def params : Params Fq where
  b := ((3 : ℕ) : Fq)
  b_ne_zero := by decide +kernel
  two_ne_zero := by decide +kernel
  three_ne_zero := by decide +kernel

end AltBn128

abbrev G1 : Type := Point AltBn128.params

namespace G1

theorem onCurve_P1 : ((2 : ℕ) : Fq) ^ 2 = 1 ^ 3 + AltBn128.params.b := by
  decide +kernel

/-- The generator that `P1` of the verifiers returns. -/
def P1 : G1 :=
  Point.ofEquation onCurve_P1

theorem fieldOrder_nsmul_P1 : fieldOrder • P1 = 0 := by
  let computed : Triple Fq := Triple.multiple 1 ((2 : ℕ) : Fq) 253 (fieldOrder - 1)
  have negated : computed.Z ≠ 0 ∧ computed.X = 1 * computed.Z ^ 2 ∧
      computed.Y = -((2 : ℕ) : Fq) * computed.Z ^ 3 := by
    decide +kernel
  exact Triple.succ_nsmul_eq_zero onCurve_P1 (by norm_num) (by norm_num) negated.1 negated.2.1
    negated.2.2

theorem addOrderOf_P1 : addOrderOf P1 = fieldOrder :=
  addOrderOf_eq_prime fieldOrder_nsmul_P1 (WeierstrassCurve.Affine.Point.some_ne_zero _)

/-- `-3` is not a cube, since its power to a third of the group order is not one. -/
theorem not_cube (x : Fq) : x ^ 3 ≠ -AltBn128.params.b := by
  intro cube
  have power : (baseOrder - 3 : ℕ) ^ ((baseOrder - 1) / 3) % baseOrder ≠ 1 := by
    rw [← LucasCertificates.powMod_eq baseOrder 254 _ _ (by norm_num)]
    decide +kernel
  apply power
  rw [← LucasCertificates.pow_eq_one_iff (by norm_num)]
  have negated : ((baseOrder - 3 : ℕ) : Fq) = x ^ 3 := by
    rw [cube]
    decide +kernel
  have nonzero : x ≠ 0 := by
    rintro rfl
    revert cube
    decide +kernel
  rw [negated, ← pow_mul, show 3 * ((baseOrder - 1) / 3) = baseOrder - 1 by norm_num]
  exact ZMod.pow_card_sub_one_eq_one nonzero

theorem card_eq : Nat.card G1 = fieldOrder :=
  Point.card_eq_of_addOrderOf not_cube addOrderOf_P1 (by rw [ZMod.card]; norm_num)

theorem fieldOrder_nsmul (P : G1) : fieldOrder • P = 0 := by
  rw [← card_eq]
  exact card_nsmul_eq_zero'

/-- Scalars act on the points. -/
instance : Module Fr G1 :=
  AddCommGroup.zmodModule fieldOrder_nsmul

end G1

end IdHub
