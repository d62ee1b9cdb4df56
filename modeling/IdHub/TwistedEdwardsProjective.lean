import IdHub.TwistedEdwards

/-!
# Inversion-free multiples of a twisted Edwards point

Affine addition divides, which is expensive to evaluate.  Projective triples
postpone the division, so that a multiple of a concrete point can be computed
with a few thousand field multiplications.  This file proves that the
computation follows the affine group.
-/

namespace TwistedEdwards

variable {F : Type*} [Field F]

/-- An unnormalized point `(X / Z, Y / Z)`. -/
structure Triple (F : Type*) where
  X : F
  Y : F
  Z : F
  deriving DecidableEq

namespace Triple

/-- A triple denotes an affine point when its denominator does not vanish and
its quotients are the coordinates. -/
structure Denotes {E : Params F} (T : Triple F) (P : Point E) : Prop where
  Z_ne_zero : T.Z ≠ 0
  X_eq : T.X = P.x * T.Z
  Y_eq : T.Y = P.y * T.Z

def add (E : Params F) (S T : Triple F) : Triple F :=
  let A := S.Z * T.Z
  let C := S.X * T.X
  let D := S.Y * T.Y
  let cross := E.d * C * D
  let minus := A * A - cross
  let plus := A * A + cross
  { X := A * minus * ((S.X + S.Y) * (T.X + T.Y) - C - D)
    Y := A * plus * (D - E.a * C)
    Z := minus * plus }

def neutral : Triple F := ⟨0, 1, 1⟩

/-- `count` times a triple, by doubling; `fuel` bounds the bit length of
`count`. -/
def smul (E : Params F) : (fuel count : ℕ) → Triple F → Triple F
  | 0, _, _ => neutral
  | fuel + 1, count, T =>
      let rest := smul E fuel (count / 2) (add E T T)
      if count % 2 = 1 then add E T rest else rest

variable {E : Params F}

theorem denotes_neutral : (neutral : Triple F).Denotes (0 : Point E) := by
  constructor <;> simp [neutral]

def ofPoint (P : Point E) : Triple F := ⟨P.x, P.y, 1⟩

theorem denotes_ofPoint (P : Point E) : (ofPoint P).Denotes P := by
  constructor <;> simp [ofPoint]

theorem Denotes.add {S T : Triple F} {P Q : Point E}
    (left : S.Denotes P) (right : T.Denotes Q) :
    (S.add E T).Denotes (P + Q) := by
  obtain ⟨leftZ, leftX, leftY⟩ := left
  obtain ⟨rightZ, rightX, rightY⟩ := right
  have plus := Point.one_add_cross_ne_zero P Q
  have minus := Point.one_sub_cross_ne_zero P Q
  have sumX := (Point.add_x_eq_iff P Q (P + Q).x).mpr rfl
  have sumY := (Point.add_y_eq_iff P Q (P + Q).y).mpr rfl
  have scale : (S.Z * T.Z) ^ 2 ≠ 0 := pow_ne_zero 2 (mul_ne_zero leftZ rightZ)
  have nonzero := mul_ne_zero (mul_ne_zero scale minus) (mul_ne_zero scale plus)
  simp only [crossTerm] at sumX sumY nonzero
  constructor
  · simp only [Triple.add, leftX, leftY, rightX, rightY]
    convert nonzero using 1
    ring
  · simp only [Triple.add, leftX, leftY, rightX, rightY]
    linear_combination
      -(S.Z * T.Z) ^ 4 * (1 - E.d * P.x * Q.x * P.y * Q.y) * sumX
  · simp only [Triple.add, leftX, leftY, rightX, rightY]
    linear_combination
      -(S.Z * T.Z) ^ 4 * (1 + E.d * P.x * Q.x * P.y * Q.y) * sumY

theorem Denotes.smul (fuel count : ℕ) (bounded : count < 2 ^ fuel)
    {T : Triple F} {P : Point E} (denotes : T.Denotes P) :
    (T.smul E fuel count).Denotes (count • P) := by
  induction fuel generalizing count T P with
  | zero =>
      have countZero : count = 0 := by simpa using bounded
      simpa [countZero, Triple.smul] using denotes_neutral
  | succ fuel ih =>
      have halfBounded : count / 2 < 2 ^ fuel := by
        rw [pow_succ] at bounded
        omega
      have doubled := ih (count / 2) halfBounded (denotes.add denotes)
      rw [← two_nsmul, ← mul_nsmul'] at doubled
      simp only [Triple.smul]
      split
      · rename_i odd
        have countEq : count = 1 + (count / 2) * 2 := by omega
        have sum := denotes.add doubled
        rwa [← one_nsmul P, ← mul_nsmul', mul_one, ← add_nsmul, ← countEq] at sum
      · have countEq : count / 2 * 2 = count := by omega
        rwa [countEq] at doubled

/-- A computed multiple that has the coordinates of the neutral point is
neutral. -/
theorem Denotes.eq_zero {T : Triple F} {P : Point E} (denotes : T.Denotes P)
    (X_eq : T.X = 0) (Y_eq : T.Y = T.Z) : P = 0 := by
  obtain ⟨nonzero, x, y⟩ := denotes
  rw [X_eq] at x
  rw [Y_eq] at y
  ext
  · simpa [nonzero] using x.symm
  · exact (mul_right_cancel₀ nonzero (by rw [Point.zero_y, one_mul, ← y]))

end Triple

end TwistedEdwards
