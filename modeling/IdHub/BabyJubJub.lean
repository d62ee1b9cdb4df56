import IdHub.Bn254
import IdHub.TwistedEdwardsProjective
import Mathlib.GroupTheory.OrderOfElement
import Mathlib.NumberTheory.LegendreSymbol.Basic

/-!
# The BabyJubJub curve

`twistedIsomorphism.circom` and circomlib fix the curve
`168700 x² + y² = 1 + 168696 x² y²` over the BN254 scalar field, and the ElGamal
and EdDSA templates fix its generator `BASE8`.  The curve parameters are
complete, and `BASE8` has the prime order `subOrder`.
-/

namespace IdHub

open TwistedEdwards

/-- `sqrt_a` of `TwistedToUntwisted`. -/
def sqrtA : Fr :=
  7214280148105020021932206872019688659210616427216992810330019057549499971851

def invSqrtA : Fr :=
  2957874849018779266517920829765869116077630550401372566248359756137677864698

theorem sqrtA_mul_self : sqrtA * sqrtA = 168700 := by
  decide +kernel

theorem not_isSquare_168696 : ¬ IsSquare (168696 : Fr) := by
  have nonzero : (168696 : Fr) ≠ 0 := by decide +kernel
  have checked : LucasCertificates.powMod fieldOrder 254 168696 (fieldOrder / 2) =
      fieldOrder - 1 := by decide +kernel
  rw [LucasCertificates.powMod_eq _ _ _ _ (by norm_num)] at checked
  rw [ZMod.euler_criterion fieldOrder nonzero]
  intro isOne
  have power : ((168696 : ℕ) : Fr) ^ (fieldOrder / 2) = 1 := by exact_mod_cast isOne
  rw [LucasCertificates.pow_eq_one_iff (by norm_num), checked] at power
  norm_num at power

/-- The twisted curve of circomlib's `BabyCheck` and `BabyAdd`. -/
def babyJub : Params Fr where
  a := 168700
  d := 168696
  two_ne_zero := by decide +kernel
  a_ne_zero := by decide +kernel
  a_isSquare := ⟨sqrtA, sqrtA_mul_self.symm⟩
  d_not_isSquare := not_isSquare_168696

/-- Template `TwistedToUntwisted`: its output as a function of its input. -/
def twistedToUntwisted (input : Fr × Fr) : Fr × Fr := (input.1 * sqrtA, input.2)

/-- Template `UntwistedToTwisted`: its output as a function of its input. -/
def untwistedToTwisted (input : Fr × Fr) : Fr × Fr := (input.1 * invSqrtA, input.2)

abbrev BabyPoint : Type := Point babyJub

def BabyPoint.coords (P : BabyPoint) : Fr × Fr := (P.x, P.y)

theorem BabyPoint.coords_injective : Function.Injective BabyPoint.coords := by
  intro P Q equal
  exact Point.ext (congrArg Prod.fst equal) (congrArg Prod.snd equal)

/-- `BASE8` of the ElGamal and EdDSA templates. -/
def BASE8 : BabyPoint where
  x := 5299619240641551281634865583518297030282874472190772894086521144482721001553
  y := 16950150798460657717958625567821834550301663161624707787222815936182638968203
  onCurve := by
    unfold Params.OnCurve babyJub
    decide +kernel

theorem subOrder_nsmul_BASE8 : subOrder • BASE8 = 0 := by
  have computed : ((Triple.ofPoint BASE8).smul babyJub 251 subOrder).X = 0 ∧
      ((Triple.ofPoint BASE8).smul babyJub 251 subOrder).Y =
        ((Triple.ofPoint BASE8).smul babyJub 251 subOrder).Z := by
    decide +kernel
  have denotes := Triple.Denotes.smul 251 subOrder (by norm_num)
    (Triple.denotes_ofPoint BASE8)
  exact denotes.eq_zero computed.1 computed.2

theorem BASE8_ne_zero : BASE8 ≠ 0 := by
  intro isZero
  have x := congrArg Point.x isZero
  revert x
  decide +kernel

theorem addOrderOf_BASE8 : addOrderOf BASE8 = subOrder :=
  addOrderOf_eq_prime subOrder_nsmul_BASE8 BASE8_ne_zero

theorem response_lt (challenge : ℕ) : 8 * challenge % subOrder < subOrder :=
  Nat.mod_lt _ (by norm_num)

theorem response_val (challenge : ℕ) :
    ((8 * challenge % subOrder : ℕ) : Fr).val = 8 * challenge % subOrder :=
  ZMod.val_natCast_of_lt ((response_lt challenge).trans (by norm_num))

/-- A reduced response answers a challenge to the secret key `1`. -/
theorem response_nsmul_BASE8 (challenge : ℕ) :
    (8 * challenge % subOrder) • BASE8 = challenge • 8 • BASE8 := by
  have reduced := mod_addOrderOf_nsmul BASE8 (8 * challenge)
  rw [addOrderOf_BASE8] at reduced
  rw [reduced, mul_comm, mul_nsmul']

/-- A point of the prime-order subgroup: one that `subOrder` annihilates. -/
def BabyPoint.InSubgroup (P : BabyPoint) : Prop := subOrder • P = 0

theorem BabyPoint.InSubgroup.nsmul {P : BabyPoint} (member : P.InSubgroup) (number : ℕ) :
    (number • P).InSubgroup := by
  rw [BabyPoint.InSubgroup, smul_comm, member, smul_zero]

theorem BabyPoint.InSubgroup.nsmul_eq {P : BabyPoint} (member : P.InSubgroup)
    {first second : ℕ} (equal : first • BASE8 = second • BASE8) :
    first • P = second • P := by
  have congruent : first ≡ second [MOD subOrder] := by
    rwa [← addOrderOf_BASE8, ← nsmul_eq_nsmul_iff_modEq]
  apply nsmul_eq_nsmul_iff_modEq.mpr
  exact congruent.of_dvd (addOrderOf_dvd_of_nsmul_eq_zero member)

end IdHub
