import Mathlib.Algebra.Field.Basic
import Mathlib.Algebra.Group.Even
import Mathlib.Tactic.FieldSimp
import Mathlib.Tactic.LinearCombination
import Mathlib.Tactic.Ring

/-!
# Complete twisted Edwards curves

The affine points of `a x² + y² = 1 + d x² y²` form an abelian group under the
single addition formula as soon as `a` is a nonzero square and `d` is not a
square: no pair of points makes a denominator vanish.  This file proves the
completeness of the formula, closure, and associativity, and packages the
group.
-/

namespace TwistedEdwards

/-- The parameters of a twisted Edwards curve with a complete addition law. -/
structure Params (F : Type*) [Field F] where
  a : F
  d : F
  two_ne_zero : (2 : F) ≠ 0
  a_ne_zero : a ≠ 0
  a_isSquare : IsSquare a
  d_not_isSquare : ¬ IsSquare d

variable {F : Type*} [Field F]

def Params.OnCurve (E : Params F) (x y : F) : Prop :=
  E.a * x ^ 2 + y ^ 2 = 1 + E.d * x ^ 2 * y ^ 2

/-- An affine point carries the proof that it lies on the curve. -/
@[ext]
structure Point (E : Params F) where
  x : F
  y : F
  onCurve : E.OnCurve x y

section Completeness

variable (E : Params F)

/-- The quantity whose being `1` or `-1` would make a denominator of the
addition formula vanish. -/
def crossTerm (x₁ y₁ x₂ y₂ : F) : F :=
  E.d * x₁ * x₂ * y₁ * y₂

/-- If `d` times a nonzero square is a square, then `d` is a square. -/
theorem eq_zero_of_sq_eq_d_mul_sq {u v : F} (equal : u ^ 2 = E.d * v ^ 2) :
    v = 0 := by
  by_contra vNonzero
  apply E.d_not_isSquare
  refine ⟨u / v, ?_⟩
  field_simp
  exact equal.symm

/-- Multiplying the second point's equation by `d x₁² y₁²` turns a cross term
of square one into a square that is `d` times another square. -/
theorem shifted_square {x₁ y₁ x₂ y₂ s ε : F}
    (first : E.OnCurve x₁ y₁) (second : E.OnCurve x₂ y₂)
    (root : E.a = s * s) (unit : ε * ε = 1)
    (cross : crossTerm E x₁ y₁ x₂ y₂ = ε) :
    (s * x₁ + ε * y₁) ^ 2 = E.d * (x₁ * y₁ * (s * x₂ + y₂)) ^ 2 := by
  unfold Params.OnCurve at first second
  unfold crossTerm at cross
  rw [root] at first second
  subst ε
  linear_combination first - E.d * x₁ ^ 2 * y₁ ^ 2 * second +
    (y₁ ^ 2 - 1) * unit

theorem crossTerm_sq_ne_one {x₁ y₁ x₂ y₂ : F}
    (first : E.OnCurve x₁ y₁) (second : E.OnCurve x₂ y₂) :
    crossTerm E x₁ y₁ x₂ y₂ * crossTerm E x₁ y₁ x₂ y₂ ≠ 1 := by
  intro unit
  obtain ⟨s, root⟩ := E.a_isSquare
  have crossNonzero : crossTerm E x₁ y₁ x₂ y₂ ≠ 0 := by
    intro crossZero
    rw [crossZero] at unit
    simp at unit
  have factors : x₁ ≠ 0 ∧ x₂ ≠ 0 ∧ y₁ ≠ 0 ∧ y₂ ≠ 0 := by
    refine ⟨?_, ?_, ?_, ?_⟩ <;> rintro rfl <;> simp [crossTerm] at crossNonzero
  have plus := eq_zero_of_sq_eq_d_mul_sq E
    (shifted_square E first second root unit rfl)
  -- The other square root of `a` gives the difference in place of the sum.
  have minus := eq_zero_of_sq_eq_d_mul_sq E
    (shifted_square E first second (s := -s) (by rw [root]; ring) unit rfl)
  have sumZero : s * x₂ + y₂ = 0 := by
    simpa [factors] using plus
  have differenceZero : -s * x₂ + y₂ = 0 := by
    simpa [factors] using minus
  have doubled : (2 : F) * y₂ = 0 := by
    linear_combination sumZero + differenceZero
  rcases mul_eq_zero.mp doubled with twoZero | yZero
  · exact E.two_ne_zero twoZero
  · exact factors.2.2.2 yZero

theorem one_add_crossTerm_ne_zero {x₁ y₁ x₂ y₂ : F}
    (first : E.OnCurve x₁ y₁) (second : E.OnCurve x₂ y₂) :
    1 + crossTerm E x₁ y₁ x₂ y₂ ≠ 0 := by
  intro vanishes
  apply crossTerm_sq_ne_one E first second
  linear_combination (crossTerm E x₁ y₁ x₂ y₂ - 1) * vanishes

theorem one_sub_crossTerm_ne_zero {x₁ y₁ x₂ y₂ : F}
    (first : E.OnCurve x₁ y₁) (second : E.OnCurve x₂ y₂) :
    1 - crossTerm E x₁ y₁ x₂ y₂ ≠ 0 := by
  intro vanishes
  apply crossTerm_sq_ne_one E first second
  linear_combination (-crossTerm E x₁ y₁ x₂ y₂ - 1) * vanishes

end Completeness

section AdditionLaw

variable (E : Params F)

def addX (x₁ y₁ x₂ y₂ : F) : F :=
  (x₁ * y₂ + y₁ * x₂) / (1 + crossTerm E x₁ y₁ x₂ y₂)

def addY (x₁ y₁ x₂ y₂ : F) : F :=
  (y₁ * y₂ - E.a * x₁ * x₂) / (1 - crossTerm E x₁ y₁ x₂ y₂)

theorem onCurve_add {x₁ y₁ x₂ y₂ : F}
    (first : E.OnCurve x₁ y₁) (second : E.OnCurve x₂ y₂) :
    E.OnCurve (addX E x₁ y₁ x₂ y₂) (addY E x₁ y₁ x₂ y₂) := by
  have plus := one_add_crossTerm_ne_zero E first second
  have minus := one_sub_crossTerm_ne_zero E first second
  unfold Params.OnCurve at *
  unfold addX addY
  field_simp
  unfold crossTerm
  grind

end AdditionLaw

namespace Point

variable {E : Params F}

instance : Zero (Point E) where
  zero := ⟨0, 1, by simp [Params.OnCurve]⟩

instance : Add (Point E) where
  add P Q := ⟨addX E P.x P.y Q.x Q.y, addY E P.x P.y Q.x Q.y,
    onCurve_add E P.onCurve Q.onCurve⟩

instance : Neg (Point E) where
  neg P := ⟨-P.x, P.y, by simpa [Params.OnCurve] using P.onCurve⟩

@[simp] theorem zero_x : (0 : Point E).x = 0 := rfl
@[simp] theorem zero_y : (0 : Point E).y = 1 := rfl
@[simp] theorem neg_x (P : Point E) : (-P).x = -P.x := rfl
@[simp] theorem neg_y (P : Point E) : (-P).y = P.y := rfl
theorem add_x (P Q : Point E) : (P + Q).x = addX E P.x P.y Q.x Q.y := rfl
theorem add_y (P Q : Point E) : (P + Q).y = addY E P.x P.y Q.x Q.y := rfl

theorem one_add_cross_ne_zero (P Q : Point E) :
    1 + crossTerm E P.x P.y Q.x Q.y ≠ 0 :=
  one_add_crossTerm_ne_zero E P.onCurve Q.onCurve

theorem one_sub_cross_ne_zero (P Q : Point E) :
    1 - crossTerm E P.x P.y Q.x Q.y ≠ 0 :=
  one_sub_crossTerm_ne_zero E P.onCurve Q.onCurve

/-- The sum is the only pair that solves the cross-multiplied addition
equations. -/
theorem add_x_eq_iff (P Q : Point E) (x : F) :
    (1 + crossTerm E P.x P.y Q.x Q.y) * x = P.x * Q.y + P.y * Q.x ↔
      x = (P + Q).x := by
  rw [add_x, addX, eq_div_iff (one_add_cross_ne_zero P Q), mul_comm]

theorem add_y_eq_iff (P Q : Point E) (y : F) :
    (1 - crossTerm E P.x P.y Q.x Q.y) * y = P.y * Q.y - E.a * P.x * Q.x ↔
      y = (P + Q).y := by
  rw [add_y, addY, eq_div_iff (one_sub_cross_ne_zero P Q), mul_comm]

theorem zero_add' (P : Point E) : 0 + P = P := by
  ext
  · simp [add_x, addX, crossTerm]
  · simp [add_y, addY, crossTerm]

theorem add_comm' (P Q : Point E) : P + Q = Q + P := by
  ext
  · simp only [add_x, addX, crossTerm]
    congr 1 <;> ring
  · simp only [add_y, addY, crossTerm]
    congr 1 <;> ring

theorem neg_add_cancel' (P : Point E) : -P + P = 0 := by
  have plus := one_sub_cross_ne_zero (-P) P
  have curve := P.onCurve
  simp only [neg_x, neg_y, crossTerm, Params.OnCurve] at plus curve
  ext
  · simp only [add_x, addX, neg_x, neg_y, zero_x]
    rw [show -P.x * P.y + P.y * P.x = 0 by ring, zero_div]
  · simp only [add_y, addY, neg_x, neg_y, crossTerm, zero_y]
    rw [div_eq_one_iff_eq plus]
    linear_combination curve

/-- The first coordinates of the two ways to add three points agree once the
denominators are cleared. -/
theorem assoc_x_cleared {a d x₁ y₁ x₂ y₂ x₃ y₃ : F}
    (first : a * x₁ ^ 2 + y₁ ^ 2 = 1 + d * x₁ ^ 2 * y₁ ^ 2)
    (second : a * x₂ ^ 2 + y₂ ^ 2 = 1 + d * x₂ ^ 2 * y₂ ^ 2)
    (third : a * x₃ ^ 2 + y₃ ^ 2 = 1 + d * x₃ ^ 2 * y₃ ^ 2) :
    ((x₁ * y₂ + y₁ * x₂) * y₃ * (1 - d * x₁ * x₂ * y₁ * y₂) +
        (y₁ * y₂ - a * x₁ * x₂) * x₃ * (1 + d * x₁ * x₂ * y₁ * y₂)) *
      ((1 + d * x₂ * x₃ * y₂ * y₃) * (1 - d * x₂ * x₃ * y₂ * y₃) +
        d * x₁ * (x₂ * y₃ + y₂ * x₃) * y₁ * (y₂ * y₃ - a * x₂ * x₃)) =
    (x₁ * (y₂ * y₃ - a * x₂ * x₃) * (1 + d * x₂ * x₃ * y₂ * y₃) +
        y₁ * (x₂ * y₃ + y₂ * x₃) * (1 - d * x₂ * x₃ * y₂ * y₃)) *
      ((1 + d * x₁ * x₂ * y₁ * y₂) * (1 - d * x₁ * x₂ * y₁ * y₂) +
        d * (x₁ * y₂ + y₁ * x₂) * x₃ * (y₁ * y₂ - a * x₁ * x₂) * y₃) := by
  grind

theorem assoc_y_cleared {a d x₁ y₁ x₂ y₂ x₃ y₃ : F}
    (first : a * x₁ ^ 2 + y₁ ^ 2 = 1 + d * x₁ ^ 2 * y₁ ^ 2)
    (second : a * x₂ ^ 2 + y₂ ^ 2 = 1 + d * x₂ ^ 2 * y₂ ^ 2)
    (third : a * x₃ ^ 2 + y₃ ^ 2 = 1 + d * x₃ ^ 2 * y₃ ^ 2) :
    ((y₁ * y₂ - a * x₁ * x₂) * y₃ * (1 + d * x₁ * x₂ * y₁ * y₂) -
        a * (x₁ * y₂ + y₁ * x₂) * x₃ * (1 - d * x₁ * x₂ * y₁ * y₂)) *
      ((1 + d * x₂ * x₃ * y₂ * y₃) * (1 - d * x₂ * x₃ * y₂ * y₃) -
        d * x₁ * (x₂ * y₃ + y₂ * x₃) * y₁ * (y₂ * y₃ - a * x₂ * x₃)) =
    (y₁ * (y₂ * y₃ - a * x₂ * x₃) * (1 + d * x₂ * x₃ * y₂ * y₃) -
        a * x₁ * (x₂ * y₃ + y₂ * x₃) * (1 - d * x₂ * x₃ * y₂ * y₃)) *
      ((1 + d * x₁ * x₂ * y₁ * y₂) * (1 - d * x₁ * x₂ * y₁ * y₂) -
        d * (x₁ * y₂ + y₁ * x₂) * x₃ * (y₁ * y₂ - a * x₁ * x₂) * y₃) := by
  grind

/-- Adding a third point to a sum, over the cleared denominators of the sum. -/
theorem add_add_x (P Q R : Point E) :
    (P + Q + R).x =
      ((P.x * Q.y + P.y * Q.x) * R.y * (1 - crossTerm E P.x P.y Q.x Q.y) +
          (P.y * Q.y - E.a * P.x * Q.x) * R.x *
            (1 + crossTerm E P.x P.y Q.x Q.y)) /
        ((1 + crossTerm E P.x P.y Q.x Q.y) *
            (1 - crossTerm E P.x P.y Q.x Q.y) +
          E.d * (P.x * Q.y + P.y * Q.x) * R.x *
            (P.y * Q.y - E.a * P.x * Q.x) * R.y) := by
  have plus := one_add_cross_ne_zero P Q
  have minus := one_sub_cross_ne_zero P Q
  have outer := one_add_cross_ne_zero (P + Q) R
  have sumX := (add_x_eq_iff P Q (P + Q).x).mpr rfl
  have sumY := (add_y_eq_iff P Q (P + Q).y).mpr rfl
  rw [← sumX, ← sumY, add_x (P + Q) R, addX]
  generalize 1 + crossTerm E P.x P.y Q.x Q.y = D₁ at *
  generalize 1 - crossTerm E P.x P.y Q.x Q.y = D₂ at *
  unfold crossTerm at *
  rw [← mul_div_mul_left _ _ (mul_ne_zero plus minus)]
  congr 1 <;> ring

theorem add_add_y (P Q R : Point E) :
    (P + Q + R).y =
      ((P.y * Q.y - E.a * P.x * Q.x) * R.y * (1 + crossTerm E P.x P.y Q.x Q.y) -
          E.a * (P.x * Q.y + P.y * Q.x) * R.x *
            (1 - crossTerm E P.x P.y Q.x Q.y)) /
        ((1 + crossTerm E P.x P.y Q.x Q.y) *
            (1 - crossTerm E P.x P.y Q.x Q.y) -
          E.d * (P.x * Q.y + P.y * Q.x) * R.x *
            (P.y * Q.y - E.a * P.x * Q.x) * R.y) := by
  have plus := one_add_cross_ne_zero P Q
  have minus := one_sub_cross_ne_zero P Q
  have sumX := (add_x_eq_iff P Q (P + Q).x).mpr rfl
  have sumY := (add_y_eq_iff P Q (P + Q).y).mpr rfl
  rw [← sumX, ← sumY, add_y (P + Q) R, addY]
  generalize 1 + crossTerm E P.x P.y Q.x Q.y = D₁ at *
  generalize 1 - crossTerm E P.x P.y Q.x Q.y = D₂ at *
  unfold crossTerm at *
  rw [← mul_div_mul_left _ _ (mul_ne_zero plus minus)]
  congr 1 <;> ring

/-- The denominators of `add_add_x` and `add_add_y` do not vanish. -/
theorem outer_denominators (P Q R : Point E) :
    (1 + crossTerm E P.x P.y Q.x Q.y) * (1 - crossTerm E P.x P.y Q.x Q.y) +
        E.d * (P.x * Q.y + P.y * Q.x) * R.x *
          (P.y * Q.y - E.a * P.x * Q.x) * R.y ≠ 0 ∧
      (1 + crossTerm E P.x P.y Q.x Q.y) * (1 - crossTerm E P.x P.y Q.x Q.y) -
        E.d * (P.x * Q.y + P.y * Q.x) * R.x *
          (P.y * Q.y - E.a * P.x * Q.x) * R.y ≠ 0 := by
  have inner := mul_ne_zero (one_add_cross_ne_zero P Q) (one_sub_cross_ne_zero P Q)
  have sumX := (add_x_eq_iff P Q (P + Q).x).mpr rfl
  have sumY := (add_y_eq_iff P Q (P + Q).y).mpr rfl
  have plus := mul_ne_zero inner (one_add_cross_ne_zero (P + Q) R)
  have minus := mul_ne_zero inner (one_sub_cross_ne_zero (P + Q) R)
  rw [← sumX, ← sumY]
  generalize 1 + crossTerm E P.x P.y Q.x Q.y = D₁ at *
  generalize 1 - crossTerm E P.x P.y Q.x Q.y = D₂ at *
  unfold crossTerm at plus minus
  constructor
  · convert plus using 1
    ring
  · convert minus using 1
    ring

theorem add_assoc' (P Q R : Point E) : P + Q + R = P + (Q + R) := by
  have left := outer_denominators P Q R
  have right := outer_denominators Q R P
  rw [add_comm' P (Q + R)]
  ext
  · rw [add_add_x, add_add_x, div_eq_div_iff left.1 right.1]
    have cleared := assoc_x_cleared P.onCurve Q.onCurve R.onCurve
    unfold crossTerm
    linear_combination cleared
  · rw [add_add_y, add_add_y, div_eq_div_iff left.2 right.2]
    have cleared := assoc_y_cleared P.onCurve Q.onCurve R.onCurve
    unfold crossTerm
    linear_combination cleared

instance : AddCommGroup (Point E) where
  add_assoc := add_assoc'
  zero_add := zero_add'
  add_zero P := (add_comm' P 0).trans (zero_add' P)
  nsmul := nsmulRec
  zsmul := zsmulRec
  neg_add_cancel := neg_add_cancel'
  add_comm := add_comm'

end Point

end TwistedEdwards
