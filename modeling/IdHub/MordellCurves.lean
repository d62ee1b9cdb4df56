import Mathlib.AlgebraicGeometry.EllipticCurve.Affine.Point
import Mathlib.FieldTheory.Finite.Basic
import Mathlib.GroupTheory.Perm.Cycle.Type

/-!
# The curves `y² = x³ + b`

Mathlib has the group of the points of a Weierstrass curve.  For the curves without the
other coefficients this file adds what is needed to show that the group of a concrete one
has prime order.  There are at most two points for each `x`, so a point whose order is large
enough leaves only one or two cosets, and two would take a point of order two, which is a
cube root of `-b`.  The multiples of a concrete point are computed without divisions.
-/

namespace MordellCurves

open WeierstrassCurve.Affine

/-- The coefficient of a curve, and why the curve has no singular point. -/
structure Params (F : Type*) [Field F] where
  b : F
  b_ne_zero : b ≠ 0
  two_ne_zero : (2 : F) ≠ 0
  three_ne_zero : (3 : F) ≠ 0

variable {F : Type*} [Field F]

def Params.curve (E : Params F) : WeierstrassCurve.Affine F :=
  ⟨0, 0, 0, 0, E.b⟩

abbrev Point (E : Params F) : Type _ := E.curve.Point

variable {E : Params F} {x y : F}

theorem equation_iff : E.curve.Equation x y ↔ y ^ 2 = x ^ 3 + E.b := by
  simp [WeierstrassCurve.Affine.equation_iff, Params.curve]

theorem nonsingular_iff : E.curve.Nonsingular x y ↔ y ^ 2 = x ^ 3 + E.b := by
  rw [WeierstrassCurve.Affine.nonsingular_iff, equation_iff, and_iff_left_iff_imp]
  intro onCurve
  by_contra singular
  simp only [Params.curve, zero_mul, mul_zero, add_zero, sub_zero, not_or, ne_eq,
    not_not] at singular
  obtain ⟨xZero, yZero⟩ := singular
  have xZero : x = 0 := by simpa [E.three_ne_zero] using xZero.symm
  have yZero : y = 0 := by
    have double : 2 * y = 0 := by linear_combination yZero
    simpa [E.two_ne_zero] using double
  rw [xZero, yZero] at onCurve
  exact E.b_ne_zero (by linear_combination -onCurve)

@[simp] theorem negY_eq : E.curve.negY x y = -y := by
  simp [WeierstrassCurve.Affine.negY, Params.curve]

namespace Point

def ofEquation (onCurve : y ^ 2 = x ^ 3 + E.b) : Point E :=
  .some x y (nonsingular_iff.mpr onCurve)

theorem eq_zero_or_ofEquation (P : Point E) :
    P = 0 ∨ ∃ x y, ∃ onCurve : y ^ 2 = x ^ 3 + E.b, P = ofEquation onCurve := by
  cases P with
  | zero => exact .inl rfl
  | some x y onCurve => exact .inr ⟨x, y, nonsingular_iff.mp onCurve, rfl⟩

theorem neg_ofEquation (onCurve : y ^ 2 = x ^ 3 + E.b) (negated : (-y) ^ 2 = x ^ 3 + E.b) :
    -ofEquation onCurve = ofEquation negated := by
  unfold ofEquation
  rw [WeierstrassCurve.Affine.Point.neg_some]
  congr 1
  exact negY_eq

def abscissa : Point E → Option F
  | .zero => none
  | .some x _ _ => some x

theorem eq_or_eq_neg {P Q : Point E} (same : P.abscissa = Q.abscissa) : P = Q ∨ P = -Q := by
  cases P with
  | zero =>
      cases Q with
      | zero => exact .inl rfl
      | some x y onCurve => simp [abscissa] at same
  | some x y onCurve =>
      cases Q with
      | zero => simp [abscissa] at same
      | some x' y' onCurve' =>
          exact WeierstrassCurve.Affine.Point.X_eq_iff.mp (Option.some.inj same)

/-- A point of order two has no ordinate, so its abscissa is a cube root. -/
theorem eq_zero_of_neg_eq {P : Point E} (noRoot : ∀ x : F, x ^ 3 ≠ -E.b) (same : P = -P) :
    P = 0 := by
  cases P with
  | zero => rfl
  | some x y onCurve =>
      rw [WeierstrassCurve.Affine.Point.neg_some,
        WeierstrassCurve.Affine.Point.some.injEq] at same
      have double : 2 * y = 0 := by
        have ordinate := same.2
        rw [negY_eq] at ordinate
        linear_combination ordinate
      have yZero : y = 0 := by simpa [E.two_ne_zero] using double
      have cube := nonsingular_iff.mp onCurve
      rw [yZero] at cube
      exact absurd (by linear_combination -cube) (noRoot x)

section Addition

variable [DecidableEq F]

theorem ofEquation_add {x₁ y₁ x₂ y₂ slope : F} (first : y₁ ^ 2 = x₁ ^ 3 + E.b)
    (second : y₂ ^ 2 = x₂ ^ 3 + E.b) (regular : ¬ (x₁ = x₂ ∧ y₁ = -y₂))
    (line : E.curve.slope x₁ x₂ y₁ y₂ = slope) :
    ∃ onCurve : (slope * (x₁ - (slope ^ 2 - x₁ - x₂)) - y₁) ^ 2 =
        (slope ^ 2 - x₁ - x₂) ^ 3 + E.b,
      ofEquation first + ofEquation second = ofEquation onCurve := by
  have sumX : E.curve.addX x₁ x₂ (E.curve.slope x₁ x₂ y₁ y₂) = slope ^ 2 - x₁ - x₂ := by
    simp [WeierstrassCurve.Affine.addX, Params.curve, ← line]
  have sumY : E.curve.addY x₁ x₂ y₁ (E.curve.slope x₁ x₂ y₁ y₂) =
      slope * (x₁ - (slope ^ 2 - x₁ - x₂)) - y₁ := by
    rw [WeierstrassCurve.Affine.addY, WeierstrassCurve.Affine.negAddY, negY_eq, sumX, line]
    ring
  have regular : ¬ (x₁ = x₂ ∧ y₁ = E.curve.negY x₂ y₂) := by rwa [negY_eq]
  have sum : ofEquation first + ofEquation second = .some _ _
      (WeierstrassCurve.Affine.nonsingular_add (nonsingular_iff.mpr first)
        (nonsingular_iff.mpr second) regular) :=
    WeierstrassCurve.Affine.Point.add_some regular
  have onCurve := WeierstrassCurve.Affine.nonsingular_add (nonsingular_iff.mpr first)
    (nonsingular_iff.mpr second) regular
  rw [sumX, sumY, nonsingular_iff] at onCurve
  refine ⟨onCurve, sum.trans ?_⟩
  unfold ofEquation
  congr 1

theorem ofEquation_neg_add (negated : (-y) ^ 2 = x ^ 3 + E.b) (onCurve : y ^ 2 = x ^ 3 + E.b) :
    ofEquation negated + ofEquation onCurve = 0 :=
  WeierstrassCurve.Affine.Point.add_of_Y_eq rfl (by rw [negY_eq])

theorem ofEquation_add_self {slope : F} (onCurve : y ^ 2 = x ^ 3 + E.b) (ordinate : y ≠ 0)
    (tangent : slope * (2 * y) = 3 * x ^ 2) :
    ∃ sum : (slope * (x - (slope ^ 2 - x - x)) - y) ^ 2 = (slope ^ 2 - x - x) ^ 3 + E.b,
      ofEquation onCurve + ofEquation onCurve = ofEquation sum := by
  have notNeg : y ≠ -y := by
    intro same
    have double : 2 * y = 0 := by linear_combination same
    simp [E.two_ne_zero, ordinate] at double
  apply ofEquation_add onCurve onCurve (fun exceptional => notNeg exceptional.2)
  rw [WeierstrassCurve.Affine.slope_of_Y_ne rfl (by rwa [negY_eq]), negY_eq,
    div_eq_iff (by simpa [← two_mul, E.two_ne_zero] using ordinate)]
  simp only [Params.curve]
  linear_combination -tangent

theorem ofEquation_add_of_ne {x₁ y₁ x₂ y₂ slope : F} (first : y₁ ^ 2 = x₁ ^ 3 + E.b)
    (second : y₂ ^ 2 = x₂ ^ 3 + E.b) (different : x₁ ≠ x₂)
    (secant : slope * (x₁ - x₂) = y₁ - y₂) :
    ∃ sum : (slope * (x₁ - (slope ^ 2 - x₁ - x₂)) - y₁) ^ 2 =
        (slope ^ 2 - x₁ - x₂) ^ 3 + E.b,
      ofEquation first + ofEquation second = ofEquation sum := by
  apply ofEquation_add first second (fun exceptional => different exceptional.1)
  rw [WeierstrassCurve.Affine.slope_of_X_ne different, ← secant,
    mul_div_cancel_right₀ _ (sub_ne_zero.mpr different)]

end Addition

section Counting

variable [Fintype F]

instance : Finite (Point E) := by
  let coordinates : Point E → Option (F × F)
    | .zero => none
    | .some x y _ => some (x, y)
  apply Finite.of_injective coordinates
  intro P Q equal
  cases P with
  | zero =>
      cases Q with
      | zero => rfl
      | some x y onCurve => simp [coordinates] at equal
  | some x y onCurve =>
      cases Q with
      | zero => simp [coordinates] at equal
      | some x' y' onCurve' =>
          obtain ⟨rfl, rfl⟩ : x = x' ∧ y = y' := by simpa [coordinates] using equal
          rfl

theorem card_le : Nat.card (Point E) ≤ 2 * (Fintype.card F + 1) := by
  classical
  have := Fintype.ofFinite (Point E)
  have fibers : ∀ x ∈ (Finset.univ : Finset (Option F)),
      (Finset.univ.filter fun P : Point E => P.abscissa = x).card ≤ 2 := by
    intro x _
    by_cases empty : (Finset.univ.filter fun P : Point E => P.abscissa = x) = ∅
    · simp [empty]
    · obtain ⟨P, member⟩ := Finset.nonempty_iff_ne_empty.mpr empty
      have pair : (Finset.univ.filter fun Q : Point E => Q.abscissa = x) ⊆ {P, -P} := by
        intro Q other
        simp only [Finset.mem_filter, Finset.mem_univ, true_and] at member other
        simpa using eq_or_eq_neg (other.trans member.symm)
      exact (Finset.card_le_card pair).trans Finset.card_le_two
  have counted := Finset.card_le_mul_card_image_of_maps_to
    (fun P _ => Finset.mem_univ (abscissa P)) 2 fibers
  rwa [Finset.card_univ, Finset.card_univ, Fintype.card_option,
    ← Nat.card_eq_fintype_card] at counted

variable [DecidableEq F]

/-- A point of a large prime order generates the group, if no point has order two. -/
theorem card_eq_of_addOrderOf {order : ℕ} {P : Point E} (noRoot : ∀ x : F, x ^ 3 ≠ -E.b)
    (generates : addOrderOf P = order) (large : 2 * (Fintype.card F + 1) < 3 * order) :
    Nat.card (Point E) = order := by
  obtain ⟨cosets, product⟩ : order ∣ Nat.card (Point E) := generates ▸ addOrderOf_dvd_natCard P
  have positive : 0 < Nat.card (Point E) := Nat.card_pos
  have few : cosets < 3 := by
    have bound := card_le (E := E)
    rw [product] at bound
    by_contra many
    have := Nat.mul_le_mul_left order (Nat.le_of_not_lt many)
    omega
  have odd : cosets ≠ 2 := by
    rintro rfl
    have even : 2 ∣ Nat.card (Point E) := ⟨order, by rw [product, Nat.mul_comm]⟩
    have : Fact (Nat.Prime 2) := ⟨Nat.prime_two⟩
    obtain ⟨Q, orderTwo⟩ := exists_prime_addOrderOf_dvd_card' 2 even
    have annihilated : 2 • Q = 0 := orderTwo ▸ addOrderOf_nsmul_eq_zero Q
    have same : Q = -Q := eq_neg_of_add_eq_zero_left (by rwa [two_nsmul] at annihilated)
    rw [eq_zero_of_neg_eq noRoot same, addOrderOf_zero] at orderTwo
    omega
  have nonzero : cosets ≠ 0 := by
    rintro rfl
    omega
  obtain rfl : cosets = 1 := by omega
  rw [product, Nat.mul_one]

end Counting

end Point

end MordellCurves
