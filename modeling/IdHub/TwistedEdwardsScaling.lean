import IdHub.TwistedEdwards
import Mathlib.Algebra.Group.Equiv.Basic

/-!
# Scaling the first coordinate of a twisted Edwards curve

Multiplying the first coordinates by `c` turns the curve with the parameters `a c²` and
`d c²` into the one with the parameters `a` and `d`, and leaves the second coordinates
and the cross terms of the addition law as they are.  So it is an isomorphism of groups.
-/

namespace TwistedEdwards

variable {F : Type*} [Field F]

/-- The parameters differ by the square of the scale. -/
structure Scales (E E' : Params F) (c : F) : Prop where
  a_eq : E.a = E'.a * c ^ 2
  d_eq : E.d = E'.d * c ^ 2

variable {E E' : Params F} {c : F}

theorem Scales.ne_zero (scales : Scales E E' c) : c ≠ 0 := by
  rintro rfl
  apply E.a_ne_zero
  rw [scales.a_eq]
  ring

theorem Scales.symm (scales : Scales E E' c) : Scales E' E c⁻¹ := by
  have nonzero := scales.ne_zero
  constructor
  · rw [scales.a_eq]
    field_simp
  · rw [scales.d_eq]
    field_simp

theorem Scales.onCurve_iff (scales : Scales E E' c) {x y : F} :
    E'.OnCurve (x * c) y ↔ E.OnCurve x y := by
  unfold Params.OnCurve
  rw [scales.a_eq, scales.d_eq]
  ring_nf

theorem Scales.crossTerm_eq (scales : Scales E E' c) (x₁ y₁ x₂ y₂ : F) :
    crossTerm E' (x₁ * c) y₁ (x₂ * c) y₂ = crossTerm E x₁ y₁ x₂ y₂ := by
  unfold crossTerm
  rw [scales.d_eq]
  ring

namespace Point

def scale (scales : Scales E E' c) (P : Point E) : Point E' where
  x := P.x * c
  y := P.y
  onCurve := scales.onCurve_iff.mpr P.onCurve

theorem scale_add (scales : Scales E E' c) (P Q : Point E) :
    (P + Q).scale scales = P.scale scales + Q.scale scales := by
  apply Point.ext
  · simp only [scale, add_x, addX, scales.crossTerm_eq]
    ring
  · simp only [scale, add_y, addY, scales.crossTerm_eq, scales.a_eq]
    ring

/-- Scaling is an isomorphism, and scaling back is its inverse. -/
def scaleEquiv (scales : Scales E E' c) : Point E ≃+ Point E' where
  toFun := scale scales
  invFun := scale scales.symm
  left_inv P := by
    apply Point.ext
    · exact mul_inv_cancel_right₀ scales.ne_zero P.x
    · rfl
  right_inv P := by
    apply Point.ext
    · exact inv_mul_cancel_right₀ scales.ne_zero P.x
    · rfl
  map_add' := scale_add scales

end Point

end TwistedEdwards
