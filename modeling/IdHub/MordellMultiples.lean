import IdHub.MordellCurves

/-!
# Inversion-free multiples on the curves `y² = x³ + b`

Jacobian triples stand for the point `(X / Z², Y / Z³)`.  Doubling a triple and adding an
affine point to it are right except at the exceptional points of the group law, where the
denominator of the result vanishes.  Once it has vanished it stays zero, so a computed
multiple with another denominator is the multiple.
-/

namespace MordellCurves

variable {F : Type*} [Field F]

structure Triple (F : Type*) where
  X : F
  Y : F
  Z : F
  deriving DecidableEq

namespace Triple

def double (T : Triple F) : Triple F :=
  let S := 4 * T.X * T.Y ^ 2
  let M := 3 * T.X ^ 2
  let X := M ^ 2 - (S + S)
  { X := X
    Y := M * (S - X) - 8 * T.Y ^ 4
    Z := (T.Y + T.Y) * T.Z }

/-- The sum with the affine point `(x, y)`. -/
def addAffine (T : Triple F) (x y : F) : Triple F :=
  let H := x * T.Z ^ 2 - T.X
  let R := y * T.Z ^ 3 - T.Y
  let X := R ^ 2 - H ^ 3 - (T.X + T.X) * H ^ 2
  { X := X
    Y := R * (T.X * H ^ 2 - X) - T.Y * H ^ 3
    Z := T.Z * H }

/-- `count` times the affine point `(x, y)`, from the high bits of `count`; `fuel` bounds
their number. -/
def multiple (x y : F) : (fuel count : ℕ) → Triple F
  | 0, _ => ⟨x, y, 1⟩
  | fuel + 1, count =>
      if count ≤ 1 then ⟨x, y, 1⟩
      else
        let even := (multiple x y fuel (count / 2)).double
        if count % 2 = 1 then even.addAffine x y else even

variable {E : Params F} {x y : F}

/-- The triple stands for a point other than the neutral one. -/
structure Denotes (T : Triple F) (P : Point E) : Prop where
  Z_ne_zero : T.Z ≠ 0
  coordinates : ∃ x y, ∃ onCurve : y ^ 2 = x ^ 3 + E.b, P = Point.ofEquation onCurve ∧
    T.X = x * T.Z ^ 2 ∧ T.Y = y * T.Z ^ 3

theorem denotes_ofEquation (onCurve : y ^ 2 = x ^ 3 + E.b) :
    (⟨x, y, 1⟩ : Triple F).Denotes (Point.ofEquation onCurve) :=
  ⟨one_ne_zero, x, y, onCurve, rfl, by simp, by simp⟩

/-- A denominator that has vanished stays zero. -/
theorem Z_ne_zero_of_double {T : Triple F} (regular : T.double.Z ≠ 0) : T.Z ≠ 0 :=
  right_ne_zero_of_mul regular

theorem Z_ne_zero_of_addAffine {T : Triple F} (regular : (T.addAffine x y).Z ≠ 0) : T.Z ≠ 0 :=
  left_ne_zero_of_mul regular

section Addition

variable [DecidableEq F]

theorem Denotes.double {T : Triple F} {P : Point E} (denotes : T.Denotes P)
    (regular : T.double.Z ≠ 0) : T.double.Denotes (P + P) := by
  obtain ⟨-, x, y, onCurve, rfl, X_eq, Y_eq⟩ := denotes
  have factors := regular
  simp only [Triple.double, ne_eq, mul_eq_zero, not_or] at factors
  obtain ⟨ordinate, denominator⟩ := factors
  have two := E.two_ne_zero
  have y_ne_zero : y ≠ 0 := by
    rintro rfl
    simp [Y_eq] at ordinate
  have tangent : 3 * T.X ^ 2 / T.double.Z * (2 * y) = 3 * x ^ 2 := by
    rw [div_mul_eq_mul_div, div_eq_iff regular]
    simp only [Triple.double, X_eq, Y_eq]
    ring
  obtain ⟨sum, sum_eq⟩ := Point.ofEquation_add_self onCurve y_ne_zero tangent
  refine ⟨regular, _, _, sum, sum_eq, ?_, ?_⟩
  · simp only [Triple.double, ← two_mul, X_eq, Y_eq]
    field_simp
    ring
  · simp only [Triple.double, ← two_mul, X_eq, Y_eq]
    field_simp
    ring

theorem Denotes.addAffine {T : Triple F} {P : Point E} (denotes : T.Denotes P)
    (onCurve : y ^ 2 = x ^ 3 + E.b) (regular : (T.addAffine x y).Z ≠ 0) :
    (T.addAffine x y).Denotes (P + Point.ofEquation onCurve) := by
  obtain ⟨-, x₁, y₁, first, rfl, X_eq, Y_eq⟩ := denotes
  have factors := regular
  simp only [Triple.addAffine, ne_eq, mul_eq_zero, not_or] at factors
  obtain ⟨denominator, abscissae⟩ := factors
  have different : x₁ - x ≠ 0 := by
    intro same
    exact abscissae (by rw [X_eq]; linear_combination -T.Z ^ 2 * same)
  have secant : (y * T.Z ^ 3 - T.Y) / (T.addAffine x y).Z * (x₁ - x) = y₁ - y := by
    rw [div_mul_eq_mul_div, div_eq_iff regular]
    simp only [Triple.addAffine, X_eq, Y_eq]
    ring
  have H_eq : x * T.Z ^ 2 - x₁ * T.Z ^ 2 = -(x₁ - x) * T.Z ^ 2 := by ring
  obtain ⟨sum, sum_eq⟩ :=
    Point.ofEquation_add_of_ne first onCurve (sub_ne_zero.mp different) secant
  refine ⟨regular, _, _, sum, sum_eq, ?_, ?_⟩
  · simp only [Triple.addAffine, X_eq, Y_eq, H_eq]
    field_simp
    ring
  · simp only [Triple.addAffine, X_eq, Y_eq, H_eq]
    field_simp
    ring

theorem denotes_multiple (onCurve : y ^ 2 = x ^ 3 + E.b) {fuel count : ℕ}
    (positive : 0 < count) (bounded : count < 2 ^ (fuel + 1))
    (regular : (multiple x y fuel count).Z ≠ 0) :
    (multiple x y fuel count).Denotes (count • Point.ofEquation onCurve) := by
  induction fuel generalizing count with
  | zero =>
      obtain rfl : count = 1 := by omega
      simpa [multiple] using denotes_ofEquation onCurve
  | succ fuel ih =>
      rw [multiple] at regular ⊢
      split at regular
      · rename_i one
        obtain rfl : count = 1 := by omega
        simpa using denotes_ofEquation onCurve
      · rename_i many
        have halfBounded : count / 2 < 2 ^ (fuel + 1) := by
          rw [pow_succ] at bounded
          omega
        have halfPositive : 0 < count / 2 := by omega
        rw [if_neg many]
        split at regular
        · rename_i odd
          have even := Z_ne_zero_of_addAffine regular
          have half := ih halfPositive halfBounded (Z_ne_zero_of_double even)
          have sum := (half.double even).addAffine onCurve regular
          rw [if_pos odd]
          rwa [← two_nsmul, ← mul_nsmul', ← succ_nsmul,
            show 2 * (count / 2) + 1 = count by omega] at sum
        · rename_i notOdd
          have half := ih halfPositive halfBounded (Z_ne_zero_of_double regular)
          have twice := half.double regular
          rw [if_neg notOdd]
          rwa [← two_nsmul, ← mul_nsmul', show 2 * (count / 2) = count by omega] at twice

/-- A computed multiple that is the negated point is one short of the order. -/
theorem succ_nsmul_eq_zero (onCurve : y ^ 2 = x ^ 3 + E.b) {fuel count : ℕ}
    (positive : 0 < count) (bounded : count < 2 ^ (fuel + 1))
    (regular : (multiple x y fuel count).Z ≠ 0)
    (X_eq : (multiple x y fuel count).X = x * (multiple x y fuel count).Z ^ 2)
    (Y_eq : (multiple x y fuel count).Y = -y * (multiple x y fuel count).Z ^ 3) :
    (count + 1) • Point.ofEquation onCurve = 0 := by
  obtain ⟨-, x', y', onCurve', counted, X_eq', Y_eq'⟩ :=
    denotes_multiple onCurve positive bounded regular
  obtain rfl : x' = x := mul_right_cancel₀ (pow_ne_zero 2 regular) (X_eq'.symm.trans X_eq)
  obtain rfl : y' = -y := mul_right_cancel₀ (pow_ne_zero 3 regular) (Y_eq'.symm.trans Y_eq)
  rw [succ_nsmul, counted]
  exact Point.ofEquation_neg_add onCurve' onCurve

end Addition

end Triple

end MordellCurves
