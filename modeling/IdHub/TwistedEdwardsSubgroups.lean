import IdHub.TwistedEdwards
import Mathlib.Algebra.Order.BigOperators.Group.Finset
import Mathlib.GroupTheory.OrderOfElement
import Mathlib.Data.ZMod.QuotientGroup
import Mathlib.GroupTheory.QuotientGroup.Finite
import Mathlib.SetTheory.Cardinal.Finite

/-!
# Prime-order subgroups of twisted Edwards curves

A curve over a finite field has at most two points for each first coordinate.  A group
with fewer than `order ^ 2` elements has no room for two subgroups of the prime
`order`, so the points that `order` annihilates are the multiples of any one of them
that is not neutral.
-/

namespace TwistedEdwards

section Groups

variable {G : Type*} [AddCommGroup G] [Finite G]

theorem mem_zmultiples_of_nsmul_eq_zero {order : ℕ} [Fact order.Prime] {generator element : G}
    (generates : addOrderOf generator = order) (annihilated : order • element = 0)
    (few : Nat.card G < order * order) : element ∈ AddSubgroup.zmultiples generator := by
  by_contra outside
  have nonzero : (element : G ⧸ AddSubgroup.zmultiples generator) ≠ 0 := by
    rwa [Ne, QuotientAddGroup.eq_zero_iff]
  have quotientOrder :
      addOrderOf (element : G ⧸ AddSubgroup.zmultiples generator) = order := by
    apply addOrderOf_eq_prime _ nonzero
    rw [← QuotientAddGroup.mk_nsmul, annihilated, QuotientAddGroup.mk_zero]
  have quotient : order ≤ Nat.card (G ⧸ AddSubgroup.zmultiples generator) := by
    rw [← quotientOrder]
    exact addOrderOf_le_card
  have subgroup : Nat.card (AddSubgroup.zmultiples generator) = order := by
    rw [Nat.card_zmultiples, generates]
  have product : Nat.card G = Nat.card (G ⧸ AddSubgroup.zmultiples generator) * order := by
    rw [← subgroup]
    exact AddSubgroup.card_eq_card_quotient_mul_card_addSubgroup _
  have enough := Nat.mul_le_mul_right order quotient
  omega

end Groups

namespace Point

variable {F : Type*} [Field F] {E : Params F}

/-- The first coordinate determines the square of the second. -/
theorem y_sq_eq {P Q : Point E} (sameX : P.x = Q.x) : P.y ^ 2 = Q.y ^ 2 := by
  have nonzero : 1 - E.d * Q.x ^ 2 ≠ 0 := by
    intro vanishes
    have unit : (1 : F) ^ 2 = E.d * Q.x ^ 2 := by linear_combination vanishes
    have xZero := eq_zero_of_sq_eq_d_mul_sq E unit
    rw [xZero] at vanishes
    simp at vanishes
  have first := P.onCurve
  have second := Q.onCurve
  unfold Params.OnCurve at first second
  rw [sameX] at first
  apply mul_left_cancel₀ nonzero
  linear_combination first - second

variable [Fintype F]

instance : Finite (Point E) := by
  apply Finite.of_injective fun P : Point E => (P.x, P.y)
  intro P Q equal
  exact Point.ext (congrArg Prod.fst equal) (congrArg Prod.snd equal)

theorem card_le : Nat.card (Point E) ≤ 2 * Fintype.card F := by
  classical
  have := Fintype.ofFinite (Point E)
  have fibers : ∀ x ∈ (Finset.univ : Finset (Point E)).image Point.x,
      (Finset.univ.filter fun P : Point E => P.x = x).card ≤ 2 := by
    intro x member
    obtain ⟨P, -, rfl⟩ := Finset.mem_image.mp member
    have pair : (Finset.univ.filter fun Q : Point E => Q.x = P.x) ⊆
        {P, ⟨P.x, -P.y, by simpa [Params.OnCurve] using P.onCurve⟩} := by
      intro Q memberQ
      have sameX : Q.x = P.x := (Finset.mem_filter.mp memberQ).2
      rcases sq_eq_sq_iff_eq_or_eq_neg.mp (y_sq_eq sameX) with same | opposite
      · exact Finset.mem_insert.mpr (.inl (Point.ext sameX same))
      · exact Finset.mem_insert_of_mem (Finset.mem_singleton.mpr (Point.ext sameX opposite))
    exact (Finset.card_le_card pair).trans Finset.card_le_two
  calc Nat.card (Point E) = Fintype.card (Point E) := Nat.card_eq_fintype_card
    _ ≤ 2 * ((Finset.univ : Finset (Point E)).image Point.x).card :=
      Finset.card_le_mul_card_image Finset.univ 2 fibers
    _ ≤ 2 * Fintype.card F := Nat.mul_le_mul_left 2 (Finset.card_le_univ _)

end Point

end TwistedEdwards
