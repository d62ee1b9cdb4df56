import IdHub.Circomlib
import IdHub.UntwistedBabyJubJub

/-!
# The isomorphism between the twisted and the untwisted curve

The two templates of `twistedIsomorphism.circom` are inverse to each other, and carry the
points of circomlib's curve, with the addition of `BabyAdd`, to the points of
`x² + y² = 1 + d' x² y²` with the addition of that curve.
-/

namespace IdHub

open TwistedEdwards

/-- `168700 x² + y² = 1 + 168696 x² y²`. -/
def OnTwistedCurve (point : Fr × Fr) : Prop :=
  babyJub.a * point.1 ^ 2 + point.2 ^ 2 = 1 + babyJub.d * point.1 ^ 2 * point.2 ^ 2

/-- `d' = 168696 / 168700`. -/
def untwistedD : Fr := babyJub.d / babyJub.a

def OnUntwistedCurve (point : Fr × Fr) : Prop :=
  point.1 ^ 2 + point.2 ^ 2 = 1 + untwistedD * point.1 ^ 2 * point.2 ^ 2

def untwistedCrossTerm (first second : Fr × Fr) : Fr :=
  untwistedD * first.1 * second.1 * first.2 * second.2

/-- The addition law of the untwisted curve. -/
def untwistedAdd (first second : Fr × Fr) : Fr × Fr :=
  ((first.1 * second.2 + first.2 * second.1) / (1 + untwistedCrossTerm first second),
    (first.2 * second.2 - first.1 * second.1) / (1 - untwistedCrossTerm first second))

theorem OnTwistedCurve.exists_point {point : Fr × Fr} (onCurve : OnTwistedCurve point) :
    ∃ P : BabyPoint, P.coords = point :=
  ⟨⟨point.1, point.2, onCurve⟩, rfl⟩

theorem UntwistedPoint.onUntwistedCurve (P : UntwistedPoint) : OnUntwistedCurve P.coords := by
  have onCurve := P.onCurve
  unfold Params.OnCurve at onCurve
  rw [show untwistedBabyJub.a = 1 from rfl, one_mul] at onCurve
  exact onCurve

theorem OnUntwistedCurve.exists_point {point : Fr × Fr} (onCurve : OnUntwistedCurve point) :
    ∃ P : UntwistedPoint, P.coords = point := by
  refine ⟨⟨point.1, point.2, ?_⟩, rfl⟩
  unfold Params.OnCurve
  rw [show untwistedBabyJub.a = 1 from rfl, one_mul]
  exact onCurve

theorem UntwistedPoint.coords_add (P Q : UntwistedPoint) :
    (P + Q).coords = untwistedAdd P.coords Q.coords := by
  apply Prod.ext
  · rfl
  · change addY untwistedBabyJub P.x P.y Q.x Q.y = _
    unfold addY
    rw [show untwistedBabyJub.a = 1 from rfl, one_mul]
    rfl

theorem twistedToUntwisted_injective : Function.Injective twistedToUntwisted :=
  Function.LeftInverse.injective twisted_untwisted

variable {lib : Circomlib}

theorem babyAdd_iff_untwistedAdd (curve : lib.CurveSpec) (P Q : BabyPoint) {out : Fr × Fr} :
    lib.BabyAdd P.coords.1 P.coords.2 Q.coords.1 Q.coords.2 out.1 out.2 ↔
      twistedToUntwisted out =
        untwistedAdd (twistedToUntwisted P.coords) (twistedToUntwisted Q.coords) := by
  rw [curve.babyAdd_coords, ← BabyPoint.coords_untwist, ← BabyPoint.coords_untwist,
    ← UntwistedPoint.coords_add, ← map_add, BabyPoint.coords_untwist]
  exact twistedToUntwisted_injective.eq_iff.symm

/-- On points of the curve no denominator of the untwisted law vanishes. -/
theorem untwisted_denominators (P Q : BabyPoint) :
    1 + untwistedCrossTerm (twistedToUntwisted P.coords) (twistedToUntwisted Q.coords) ≠ 0 ∧
      1 - untwistedCrossTerm (twistedToUntwisted P.coords) (twistedToUntwisted Q.coords) ≠ 0 :=
  ⟨one_add_crossTerm_ne_zero untwistedBabyJub P.untwist.onCurve Q.untwist.onCurve,
    one_sub_crossTerm_ne_zero untwistedBabyJub P.untwist.onCurve Q.untwist.onCurve⟩

/-- The templates are an isomorphism between the groups of the two curves. -/
theorem twistedToUntwisted_isomorphism (curve : lib.CurveSpec) :
    (∀ point, untwistedToTwisted (twistedToUntwisted point) = point) ∧
    (∀ point, twistedToUntwisted (untwistedToTwisted point) = point) ∧
    (∀ point, OnTwistedCurve point → OnUntwistedCurve (twistedToUntwisted point)) ∧
    (∀ point, OnUntwistedCurve point →
      ∃ twisted, OnTwistedCurve twisted ∧ twistedToUntwisted twisted = point) ∧
    (∀ first second, OnTwistedCurve first → OnTwistedCurve second →
      1 + untwistedCrossTerm (twistedToUntwisted first) (twistedToUntwisted second) ≠ 0 ∧
      1 - untwistedCrossTerm (twistedToUntwisted first) (twistedToUntwisted second) ≠ 0 ∧
      ∀ out : Fr × Fr, lib.BabyAdd first.1 first.2 second.1 second.2 out.1 out.2 ↔
        twistedToUntwisted out =
          untwistedAdd (twistedToUntwisted first) (twistedToUntwisted second)) := by
  refine ⟨twisted_untwisted, untwisted_twisted, ?_, ?_, ?_⟩
  · intro point onCurve
    obtain ⟨P, rfl⟩ := onCurve.exists_point
    rw [← BabyPoint.coords_untwist]
    exact P.untwist.onUntwistedCurve
  · intro point onCurve
    obtain ⟨P, rfl⟩ := onCurve.exists_point
    refine ⟨(BabyPoint.untwist.symm P).coords, (BabyPoint.untwist.symm P).onCurve, ?_⟩
    rw [← BabyPoint.coords_untwist, AddEquiv.apply_symm_apply]
  · intro first second firstOnCurve secondOnCurve
    obtain ⟨P, rfl⟩ := firstOnCurve.exists_point
    obtain ⟨Q, rfl⟩ := secondOnCurve.exists_point
    obtain ⟨plus, minus⟩ := untwisted_denominators P Q
    exact ⟨plus, minus, fun out => babyAdd_iff_untwistedAdd curve P Q⟩

/-- The image of `BASE8` doubles to the image of the double that `BabyAdd` computes. -/
theorem twistedToUntwisted_BASE8 :
    OnUntwistedCurve (twistedToUntwisted BASE8.coords) ∧
      twistedToUntwisted (BASE8 + BASE8).coords =
        untwistedAdd (twistedToUntwisted BASE8.coords) (twistedToUntwisted BASE8.coords) := by
  have curve := Circomlib.reference_curveSpec (Circomlib.poseidonTable [])
  obtain ⟨-, -, toCurve, -, addition⟩ := twistedToUntwisted_isomorphism curve
  obtain ⟨-, -, sum⟩ := addition BASE8.coords BASE8.coords BASE8.onCurve BASE8.onCurve
  exact ⟨toCurve BASE8.coords BASE8.onCurve, (sum _).mp (curve.babyAdd_coords.mpr rfl)⟩

/-- The point of the file's own test template. -/
example : OnTwistedCurve (untwistedToTwisted
    (535593336793637676479053006008715741038479202311237693774606504536042252795,
      23469575780919401)) := by
  unfold OnTwistedCurve
  decide +kernel

end IdHub
