import IdHub.BabyJubJub
import IdHub.TwistedEdwardsScaling

/-!
# The untwisted BabyJubJub curve

`twistedIsomorphism.circom` goes between the twisted curve of circomlib and the curve
`x² + y² = 1 + (d / a) x² y²` by multiplying the first coordinate by a square root of
`a`, or by its inverse.
-/

namespace IdHub

open TwistedEdwards

theorem sqrtA_mul_invSqrtA : sqrtA * invSqrtA = 1 := by
  decide +kernel

theorem babyJub_a_eq : babyJub.a = sqrtA ^ 2 := by
  rw [sq, sqrtA_mul_self]
  rfl

theorem two_ne_zero_Fr : (2 : Fr) ≠ 0 :=
  babyJub.two_ne_zero

def untwistedBabyJub : Params Fr where
  a := 1
  d := babyJub.d / babyJub.a
  two_ne_zero := two_ne_zero_Fr
  a_ne_zero := one_ne_zero
  a_isSquare := IsSquare.one
  d_not_isSquare := by
    rintro ⟨root, square⟩
    apply babyJub.d_not_isSquare
    refine ⟨root * sqrtA, ?_⟩
    rw [div_eq_iff babyJub.a_ne_zero, babyJub_a_eq] at square
    rw [square]
    ring

abbrev UntwistedPoint : Type := Point untwistedBabyJub

def UntwistedPoint.coords (P : UntwistedPoint) : Fr × Fr := (P.x, P.y)

theorem babyJub_scales : Scales babyJub untwistedBabyJub sqrtA where
  a_eq := by
    rw [babyJub_a_eq]
    exact (one_mul _).symm
  d_eq := by
    rw [← babyJub_a_eq]
    exact (div_mul_cancel₀ babyJub.d babyJub.a_ne_zero).symm

/-- `TwistedToUntwisted` on the points of the curve. -/
def BabyPoint.untwist : BabyPoint ≃+ UntwistedPoint := Point.scaleEquiv babyJub_scales

theorem BabyPoint.coords_untwist (P : BabyPoint) :
    P.untwist.coords = twistedToUntwisted P.coords := rfl

theorem mul_invSqrtA_mul_sqrtA (x : Fr) : x * invSqrtA * sqrtA = x := by
  have swapped : invSqrtA * sqrtA = 1 := by rw [mul_comm, sqrtA_mul_invSqrtA]
  rw [mul_assoc, swapped, mul_one]

theorem twisted_untwisted (point : Fr × Fr) :
    untwistedToTwisted (twistedToUntwisted point) = point := by
  unfold twistedToUntwisted untwistedToTwisted
  dsimp only
  rw [mul_assoc, sqrtA_mul_invSqrtA, mul_one]

theorem untwisted_twisted (point : Fr × Fr) :
    twistedToUntwisted (untwistedToTwisted point) = point := by
  unfold twistedToUntwisted untwistedToTwisted
  dsimp only
  rw [mul_invSqrtA_mul_sqrtA]

end IdHub
