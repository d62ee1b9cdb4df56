import IdHub.ElGamalEncryption
import IdHub.TwistedEdwardsSubgroups

/-!
# What the subgroup check accepts

`SubOrderCheck` multiplies a point by the order of the subgroup and compares the result
with the neutral point.  `EscalarMulAny` does not multiply a point with `x = 0` but
answers with the neutral point, so of the points outside the subgroup the check accepts
the one with `x = 0`, which has order two.
-/

namespace IdHub

open BitSums TwistedEdwards

/-- `EscalarMulAny` is complete as well: it multiplies a point with `x ≠ 0`, and answers
with the neutral point otherwise. -/
def Circomlib.EscalarMulAnySpec (lib : Circomlib) : Prop :=
  ∀ {n : ℕ} {P : BabyPoint} {e : Fin n → Fr} {out : Fr × Fr}, (∀ i, IsBit (e i)) →
    (lib.EscalarMulAny n e P.coords out ↔
      out = if P.x = 0 then (0, 1) else (natSum e • P).coords)

theorem reference_escalarMulAnySpec (poseidon : {n : ℕ} → (Fin n → Fr) → Fr) :
    (Circomlib.reference poseidon).EscalarMulAnySpec := by
  intro n P e out areBits
  constructor
  · exact (Circomlib.reference_curveSpec poseidon).escalarMulAny areBits
  · intro multiple
    exact ⟨P, rfl, areBits, multiple⟩

theorem natSum_cast_bits {n : ℕ} {bits : List ℕ} (length : bits.length = n)
    (small : ∀ b ∈ bits, b < 2) :
    natSum (fun i : Fin n => ((bits.getD i.val 0 : ℕ) : Fr)) = Nat.ofDigits 2 bits := by
  induction bits generalizing n with
  | nil =>
      subst length
      rfl
  | cons bit bits ih =>
      subst length
      have rest := ih rfl fun b member => small b (List.mem_cons_of_mem _ member)
      have digit : (if ((bit : ℕ) : Fr) = 0 then 0 else 1) = bit := by
        have isSmall := small bit List.mem_cons_self
        interval_cases bit
        · simp
        · simp
      rw [Nat.ofDigits_cons, ← rest]
      simp only [natSum, List.length_cons, Fin.sum_univ_succ, Fin.val_zero, List.getD_cons_zero,
        Fin.val_succ, List.getD_cons_succ, digit, Finset.mul_sum, pow_zero, mul_one]
      congr 1
      apply Finset.sum_congr rfl
      intro i _
      ring

theorem natSum_subOrderBits :
    natSum (fun i : Fin 251 => ((subOrderBits.getD i.val 0 : ℕ) : Fr)) = subOrder := by
  have length : subOrderBits.length = 251 := by decide +kernel
  have small : ∀ b ∈ subOrderBits, b < 2 := by decide +kernel
  have digits : Nat.ofDigits 2 subOrderBits = subOrder := by decide +kernel
  exact (natSum_cast_bits length small).trans digits

namespace BabyPoint

theorem card_lt : Nat.card BabyPoint < subOrder * subOrder := by
  calc Nat.card BabyPoint ≤ 2 * Fintype.card Fr := Point.card_le
    _ = 2 * fieldOrder := congrArg (2 * ·) (ZMod.card fieldOrder)
    _ < subOrder * subOrder := by norm_num

/-- The points that `subOrder` annihilates are the multiples of `BASE8`. -/
theorem inSubgroup_iff {P : BabyPoint} :
    P.InSubgroup ↔ P ∈ AddSubgroup.zmultiples BASE8 := by
  constructor
  · intro annihilated
    exact mem_zmultiples_of_nsmul_eq_zero addOrderOf_BASE8 annihilated card_lt
  · rintro ⟨multiple, rfl⟩
    rw [InSubgroup, smul_comm, subOrder_nsmul_BASE8, smul_zero]

/-- The point of order two. -/
def orderTwo : BabyPoint where
  x := 0
  y := -1
  onCurve := by simp [Params.OnCurve]

theorem eq_zero_or_orderTwo {P : BabyPoint} (xZero : P.x = 0) : P = 0 ∨ P = orderTwo := by
  have onCurve := P.onCurve
  unfold Params.OnCurve at onCurve
  rw [xZero] at onCurve
  have square : P.y * P.y = 1 := by linear_combination onCurve
  rcases mul_self_eq_one_iff.mp square with one | minusOne
  · exact .inl (Point.ext xZero one)
  · exact .inr (Point.ext xZero minusOne)

theorem two_nsmul_orderTwo : 2 • orderTwo = 0 := by
  rw [two_nsmul]
  apply Point.ext
  · simp [Point.add_x, addX, orderTwo]
  · simp [Point.add_y, addY, orderTwo, crossTerm]

theorem not_inSubgroup_orderTwo : ¬ orderTwo.InSubgroup := by
  intro annihilated
  have odd : subOrder = 2 * (subOrder / 2) + 1 := by norm_num
  rw [InSubgroup, odd, add_nsmul, mul_comm, mul_nsmul', two_nsmul_orderTwo, smul_zero, zero_add,
    one_nsmul] at annihilated
  have sameY := congrArg Point.y annihilated
  revert sameY
  decide +kernel

/-- Of the points of the subgroup only the neutral point has `x = 0`. -/
theorem InSubgroup.eq_zero {P : BabyPoint} (member : P.InSubgroup) (xZero : P.x = 0) :
    P = 0 := by
  rcases eq_zero_or_orderTwo xZero with zero | isTwo
  · exact zero
  · rw [isTwo] at member
    exact absurd member not_inSubgroup_orderTwo

end BabyPoint

variable {lib : Circomlib} {P : BabyPoint}

/-- On the subgroup `EscalarMulAny` multiplies without exception: the neutral point is
its own multiple. -/
theorem escalarMulAny_inSubgroup (mul : lib.EscalarMulAnySpec) (member : P.InSubgroup)
    {n : ℕ} {e : Fin n → Fr} (areBits : ∀ i, IsBit (e i)) {out : Fr × Fr} :
    lib.EscalarMulAny n e P.coords out ↔ out = (natSum e • P).coords := by
  rw [mul areBits]
  by_cases xZero : P.x = 0
  · rw [if_pos xZero, member.eq_zero xZero, smul_zero]
    rfl
  · rw [if_neg xZero]

theorem subOrderCheck_iff_inSubgroup (mul : lib.EscalarMulAnySpec) :
    SubOrderCheck lib P.coords ↔ P.x = 0 ∨ P.InSubgroup := by
  have multiplied : SubOrderCheck lib P.coords ↔
      ((0 : Fr), (1 : Fr)) = if P.x = 0 then (0, 1) else (subOrder • P).coords := by
    rw [← natSum_subOrderBits, ← mul fun i => isBit_subOrderBits i.val]
    constructor
    · rintro ⟨bits, -, isOrder, product, rfl⟩
      rwa [show bits = _ from funext isOrder] at product
    · intro product
      exact ⟨_, _, fun _ => rfl, product, rfl⟩
  rw [multiplied]
  by_cases xZero : P.x = 0
  · simp [xZero]
  · rw [if_neg xZero]
    constructor
    · intro neutral
      exact .inr (BabyPoint.coords_injective neutral.symm)
    · rintro (zero | annihilated)
      · exact absurd zero xZero
      · rw [annihilated]
        rfl

/-- The check accepts exactly the points of the subgroup, except that it accepts the
point of order two. -/
theorem subOrderCheck_iff (mul : lib.EscalarMulAnySpec) (P : BabyPoint) :
    (SubOrderCheck lib P.coords ↔ P ∈ AddSubgroup.zmultiples BASE8) ↔
      P.coords ≠ (0, -1) := by
  rw [subOrderCheck_iff_inSubgroup mul, ← BabyPoint.inSubgroup_iff]
  constructor
  · intro exact' coords
    have isTwo : P = BabyPoint.orderTwo := BabyPoint.coords_injective coords
    subst isTwo
    exact BabyPoint.not_inSubgroup_orderTwo (exact'.mp (.inl rfl))
  · intro other
    constructor
    · rintro (xZero | annihilated)
      · rcases BabyPoint.eq_zero_or_orderTwo xZero with rfl | rfl
        · exact smul_zero subOrder
        · exact absurd rfl other
      · exact annihilated
    · exact .inr

section Sample

/-- Circomlib with no Poseidon values, which the check does not use. -/
def sampleLibrary : Circomlib := Circomlib.reference (Circomlib.poseidonTable [])

theorem orderTwo_accepted : SubOrderCheck sampleLibrary (0, -1) ∧
    BabyPoint.orderTwo.coords = (0, -1) ∧
    BabyPoint.orderTwo ∉ AddSubgroup.zmultiples BASE8 := by
  refine ⟨?_, rfl, ?_⟩
  · exact subOrderCheck_of_x_eq_zero (Circomlib.reference_curveSpec _)
      (P := BabyPoint.orderTwo) rfl
  · rw [← BabyPoint.inSubgroup_iff]
    exact BabyPoint.not_inSubgroup_orderTwo

theorem BASE8_checked :
    SubOrderCheck sampleLibrary BASE8.coords ↔ BASE8 ∈ AddSubgroup.zmultiples BASE8 := by
  have different : BASE8.coords ≠ (0, -1) := by decide +kernel
  exact (subOrderCheck_iff (reference_escalarMulAnySpec _) BASE8).mpr different

end Sample

end IdHub
