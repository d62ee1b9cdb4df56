import IdHub.PointToMsgDecoding

/-!
# What a Pedersen commitment determines

`PedersenCommitFixed` multiplies its two bases by decompositions of the message and of
the randomness into 254 bits.  The field order is below `2^254` and is no multiple of the
order of the subgroup, so an element with a second decomposition has a second multiple,
and the commitment is a function of its inputs only where neither input has one.
-/

namespace IdHub

open BitSums TwistedEdwards

/-- The element has one decomposition, or its decompositions do not matter. -/
def UniqueMultiple (base : BabyPoint) (input : Fr) : Prop :=
  base = 0 ∨ 2 ^ 254 - fieldOrder ≤ input.val

namespace BabyPoint

/-- The order of the subgroup does not divide the field order. -/
theorem InSubgroup.fieldOrder_nsmul_eq_zero {P : BabyPoint} (member : P.InSubgroup)
    (annihilated : fieldOrder • P = 0) : P = 0 := by
  have coprime : Nat.Coprime subOrder fieldOrder := by
    rw [Nat.coprime_primes subOrder_prime fieldOrder_prime]
    norm_num
  apply AddMonoid.addOrderOf_eq_one_iff.mp
  apply Nat.eq_one_of_dvd_coprimes coprime
  · exact addOrderOf_dvd_of_nsmul_eq_zero member
  · exact addOrderOf_dvd_of_nsmul_eq_zero annihilated

end BabyPoint

/-- Exactly then all decompositions give the same multiple. -/
theorem uniqueMultiple_iff {base : BabyPoint} (member : base.InSubgroup) {input : Fr} :
    UniqueMultiple base input ↔
      ∀ number, Decomposition input number → number • base = input.val • base := by
  constructor
  · rintro (rfl | large) number (rfl | ⟨rfl, fits⟩)
    · rfl
    · rw [smul_zero, smul_zero]
    · rfl
    · omega
  · intro unique
    by_contra several
    obtain ⟨nonzero, small⟩ := not_or.mp several
    have second := unique (input.val + fieldOrder) (.inr ⟨rfl, by omega⟩)
    rw [add_nsmul, add_eq_left] at second
    exact nonzero (member.fieldOrder_nsmul_eq_zero second)

namespace PedersenCommitFixed

variable {lib : Circomlib} {A B : BabyPoint} {w : Signals}

theorem Satisfies.commitment_eq (bits : lib.BitSpec) (curve : lib.CurveSpec)
    (satisfied : Satisfies lib A.coords B.coords w) :
    w.commitment = (natSum w.msgToBits • A + natSum w.rndToBits • B).coords := by
  have mulA := curve.escalarMulFix (bits.num2Bits.mp satisfied.msgToBits).1 satisfied.mulA
  have mulB := curve.escalarMulFix (bits.num2Bits.mp satisfied.rndToBits).1 satisfied.mulB
  have added := satisfied.adder
  rw [mulA, mulB] at added
  exact satisfied.commitment.trans (curve.babyAdd_coords.mp added)

/-- The commitments the constraints admit for a message and a randomness. -/
theorem exists_satisfies_iff (bits : lib.BitSpec) (curve : lib.CurveSpec)
    (mulA : lib.EscalarMulFixSpec A) (mulB : lib.EscalarMulFixSpec B)
    {msg rnd : Fr} {commitment : Fr × Fr} :
    (∃ w, Satisfies lib A.coords B.coords w ∧ w.msg = msg ∧ w.rnd = rnd ∧
        w.commitment = commitment) ↔
      ∃ first second, Decomposition msg first ∧ Decomposition rnd second ∧
        commitment = (first • A + second • B).coords := by
  constructor
  · rintro ⟨w, satisfied, rfl, rfl, rfl⟩
    refine ⟨natSum w.msgToBits, natSum w.rndToBits, ?_, ?_, ?_⟩
    · exact bits.num2Bits_254_iff.mp ⟨w.msgToBits, satisfied.msgToBits, rfl⟩
    · exact bits.num2Bits_254_iff.mp ⟨w.rndToBits, satisfied.rndToBits, rfl⟩
    · exact satisfied.commitment_eq bits curve
  · rintro ⟨first, second, msgDecomposed, rndDecomposed, rfl⟩
    obtain ⟨msgToBits, msgBits, rfl⟩ := bits.num2Bits_254_iff.mpr msgDecomposed
    obtain ⟨rndToBits, rndBits, rfl⟩ := bits.num2Bits_254_iff.mpr rndDecomposed
    let sum := (natSum msgToBits • A + natSum rndToBits • B).coords
    refine ⟨⟨sum, msg, rnd, msgToBits, rndToBits, (natSum msgToBits • A).coords,
      (natSum rndToBits • B).coords, sum⟩, ?_, rfl, rfl, rfl⟩
    exact
      { msgToBits := msgBits
        rndToBits := rndBits
        mulA := (mulA (bits.num2Bits.mp msgBits).1).mpr rfl
        mulB := (mulB (bits.num2Bits.mp rndBits).1).mpr rfl
        adder := curve.babyAdd_coords.mpr rfl
        commitment := rfl }

section Determined

variable (bits : lib.BitSpec) (curve : lib.CurveSpec) (mulA : lib.EscalarMulFixSpec A)
  (mulB : lib.EscalarMulFixSpec B) (msg rnd : Fr)

include bits curve mulA mulB

theorem canonical_satisfies :
    ∃ w, Satisfies lib A.coords B.coords w ∧ w.msg = msg ∧ w.rnd = rnd ∧
      w.commitment = (msg.val • A + rnd.val • B).coords :=
  (exists_satisfies_iff bits curve mulA mulB).mpr
    ⟨msg.val, rnd.val, .inl rfl, .inl rfl, rfl⟩

/-- All commitments are the canonical one exactly if all decompositions sum up to it. -/
theorem commitment_canonical_iff_sums :
    (∀ w, Satisfies lib A.coords B.coords w → w.msg = msg → w.rnd = rnd →
        w.commitment = (msg.val • A + rnd.val • B).coords) ↔
      ∀ first second, Decomposition msg first → Decomposition rnd second →
        first • A + second • B = msg.val • A + rnd.val • B := by
  constructor
  · intro canonical first second firstDecomposed secondDecomposed
    obtain ⟨w, satisfied, sameMsg, sameRnd, commitment⟩ :=
      (exists_satisfies_iff bits curve mulA mulB).mpr
        ⟨first, second, firstDecomposed, secondDecomposed, rfl⟩
    apply BabyPoint.coords_injective
    rw [← commitment]
    exact canonical w satisfied sameMsg sameRnd
  · intro equal w satisfied sameMsg sameRnd
    obtain ⟨first, second, firstDecomposed, secondDecomposed, commitment⟩ :=
      (exists_satisfies_iff bits curve mulA mulB).mp
        ⟨w, satisfied, sameMsg, sameRnd, rfl⟩
    rw [commitment, equal first second firstDecomposed secondDecomposed]

variable (memberA : A.InSubgroup) (memberB : B.InSubgroup)

include memberA memberB

theorem commitment_canonical_iff :
    (∀ w, Satisfies lib A.coords B.coords w → w.msg = msg → w.rnd = rnd →
        w.commitment = (msg.val • A + rnd.val • B).coords) ↔
      UniqueMultiple A msg ∧ UniqueMultiple B rnd := by
  rw [commitment_canonical_iff_sums bits curve mulA mulB,
    uniqueMultiple_iff memberA, uniqueMultiple_iff memberB]
  constructor
  · intro equal
    constructor
    · intro number decomposed
      exact add_right_cancel (equal number rnd.val decomposed (.inl rfl))
    · intro number decomposed
      exact add_left_cancel (equal msg.val number (.inl rfl) decomposed)
  · rintro ⟨uniqueMsg, uniqueRnd⟩ first second firstDecomposed secondDecomposed
    rw [uniqueMsg first firstDecomposed, uniqueRnd second secondDecomposed]

/-- The commitment is the one with the canonical integers, and a function of the message
and the randomness, exactly where each of these determines its multiple. -/
theorem commitment_determined_iff :
    ((∀ w, Satisfies lib A.coords B.coords w → w.msg = msg → w.rnd = rnd →
        w.commitment = (msg.val • A + rnd.val • B).coords) ↔
      UniqueMultiple A msg ∧ UniqueMultiple B rnd) ∧
    ((∀ first second, Satisfies lib A.coords B.coords first →
        Satisfies lib A.coords B.coords second → first.msg = msg → first.rnd = rnd →
        second.msg = msg → second.rnd = rnd → first.commitment = second.commitment) ↔
      UniqueMultiple A msg ∧ UniqueMultiple B rnd) := by
  have canonical := commitment_canonical_iff bits curve mulA mulB msg rnd memberA memberB
  refine ⟨canonical, ?_⟩
  rw [← canonical]
  constructor
  · intro equal w satisfied sameMsg sameRnd
    obtain ⟨honest, honestSatisfied, honestMsg, honestRnd, commitment⟩ :=
      canonical_satisfies bits curve mulA mulB msg rnd
    rw [← commitment]
    exact equal w honest satisfied honestSatisfied sameMsg sameRnd honestMsg honestRnd
  · intro determined first second firstSatisfied secondSatisfied firstMsg firstRnd
      secondMsg secondRnd
    rw [determined first firstSatisfied firstMsg firstRnd,
      determined second secondSatisfied secondMsg secondRnd]

end Determined

section Sample

/-- The message `0` has a commitment to `p` beside the one to `0`. -/
theorem zero_commits_twice : BASE8.InSubgroup ∧
    Satisfies sampleLibrary BASE8.coords BASE8.coords zeroCommitment ∧
      Satisfies sampleLibrary BASE8.coords BASE8.coords (commitmentTo BASE8 fieldOrder) ∧
      (commitmentTo BASE8 fieldOrder).msg = zeroCommitment.msg ∧
      (commitmentTo BASE8 fieldOrder).rnd = zeroCommitment.rnd ∧
      zeroCommitment.commitment =
        (zeroCommitment.msg.val • BASE8 + zeroCommitment.rnd.val • BASE8).coords ∧
      (commitmentTo BASE8 fieldOrder).commitment ≠ zeroCommitment.commitment := by
  have zeroMultiple : (0 : Fr).val • BASE8 = 0 := by
    rw [ZMod.val_zero, zero_nsmul]
  refine ⟨subOrder_nsmul_BASE8, satisfies_zeroCommitment _ BASE8 BASE8, ?_, ?_, rfl, ?_, ?_⟩
  · exact satisfies_commitmentTo _ BASE8 BASE8 (by norm_num)
  · exact ZMod.natCast_self fieldOrder
  · change _ = ((0 : Fr).val • BASE8 + (0 : Fr).val • BASE8).coords
    rw [zeroMultiple, add_zero]
    rfl
  · intro equal
    have annihilated : fieldOrder • BASE8 = 0 := BabyPoint.coords_injective equal
    exact BASE8_ne_zero
      (BabyPoint.InSubgroup.fieldOrder_nsmul_eq_zero subOrder_nsmul_BASE8 annihilated)

/-- The message `-1` has one commitment for each randomness that has one multiple. -/
theorem neg_one_determined :
    UniqueMultiple BASE8 (-1) ∧
      (∀ first second, Satisfies sampleLibrary BASE8.coords BASE8.coords first →
        Satisfies sampleLibrary BASE8.coords BASE8.coords second → first.msg = -1 →
        first.rnd = -1 → second.msg = -1 → second.rnd = -1 →
        first.commitment = second.commitment) := by
  have unique : UniqueMultiple BASE8 (-1) := by
    right
    decide +kernel
  have bits : sampleLibrary.BitSpec := Circomlib.reference_bitSpec _
  have determined := commitment_determined_iff bits (Circomlib.reference_curveSpec _)
    (Circomlib.reference_escalarMulFixSpec _ BASE8)
    (Circomlib.reference_escalarMulFixSpec _ BASE8) (-1) (-1) subOrder_nsmul_BASE8
    subOrder_nsmul_BASE8
  exact ⟨unique, determined.2.mpr ⟨unique, unique⟩⟩

end Sample

end PedersenCommitFixed

end IdHub
