import IdHub.Groth16Acceptance
import Mathlib.Data.Set.Card

/-!
# An accepted proof is one of many

Everyone can turn an accepted proof into other proofs of the same statement, and the
contracts read further words as the same proof.  So neither a proof nor its hash can stand
for a statement that is to be used once; the public inputs must name it.
-/

namespace IdHub

open MordellCurves

namespace Groth16Verifier

variable {G2 T : Type} [AddCommGroup G2] [Module Fr G2] [AddCommGroup T] [DecidableEq T]
  {e : Groth16.Pairing Fr G1 G2 T} {twisted : G2Encoding G2} {contract : Contract}
  {key : Groth16.Key G1 G2 contract.inputs}

/-- A point in words that encode it only after `negate`: a multiple of `q` is added. -/
def respell (P : G1) (times : Fin 5) : G1Point :=
  ⟨(G1.encode P).X, BitVec.ofNat 256 ((G1.encode P).Y.toNat + times * baseOrder)⟩

theorem respell_X (P : G1) (times : Fin 5) : (respell P times).X = (G1.encode P).X := by
  rw [respell]

theorem respell_toNat (P : G1) (times : Fin 5) :
    (respell P times).Y.toNat = (G1.encode P).Y.toNat + times * baseOrder := by
  have reduced := Pairing.encode_Y_lt P
  have few : times.val * baseOrder ≤ 4 * baseOrder := Nat.mul_le_mul_right _ (by omega)
  have room : 5 * baseOrder ≤ 2 ^ 256 := by norm_num
  rw [respell, BitVec.toNat_ofNat, Nat.mod_eq_of_lt]
  omega

theorem readsAs_respell {P : G1} (nonzero : P ≠ 0) (times : Fin 5) :
    ReadsAs (respell P times) P where
  X_eq := (respell_X P times).symm
  Y_eq := by
    rw [respell_toNat, Nat.add_mul_mod_self_right]
    exact (Nat.mod_eq_of_lt (Pairing.encode_Y_lt P)).symm
  neutral := fun neutral => absurd neutral nonzero

theorem respell_injective {P P' : G1} {times times' : Fin 5}
    (same : respell P times = respell P' times') : P = P' ∧ times = times' := by
  have Y_eq : (G1.encode P).Y.toNat + times * baseOrder =
      (G1.encode P').Y.toNat + times' * baseOrder := by
    rw [← respell_toNat, ← respell_toNat, same]
  have reduced := Pairing.encode_Y_lt P
  have reduced' := Pairing.encode_Y_lt P'
  have ordinates : (G1.encode P).Y.toNat = (G1.encode P').Y.toNat := by
    have remainders := congrArg (· % baseOrder) Y_eq
    simpa only [Nat.add_mul_mod_self_right, Nat.mod_eq_of_lt reduced,
      Nat.mod_eq_of_lt reduced'] using remainders
  have multiples : times.val * baseOrder = times'.val * baseOrder := by omega
  have abscissae : (G1.encode P).X = (G1.encode P').X := by
    rw [← respell_X P times, same, respell_X]
  have points : G1.encode P = G1.encode P' :=
    G1Point.ext abscissae (BitVec.eq_of_toNat_eq ordinates)
  exact ⟨G1.encode_injective points,
    Fin.ext (Nat.eq_of_mul_eq_mul_right baseOrder_prime.pos multiples)⟩

/-- The point with these words, in the order of the precompiled contract. -/
def Generator.point (generator : Generator) (words : U256 × U256 × U256 × U256) : G2Point :=
  match generator with
  | .zoKrates => ⟨(words.2.1, words.1), (words.2.2.2, words.2.2.1)⟩
  | .snarkjs => ⟨(words.1, words.2.1), (words.2.2.1, words.2.2.2)⟩

@[simp] theorem Generator.words_point (generator : Generator) (words : U256 × U256 × U256 × U256) :
    generator.template.words (generator.point words) = words := by
  cases generator <;> rfl

/-- The words of a proof; the point that the contract negates gets a multiple of `q`. -/
def Generator.spell (generator : Generator) (twisted : G2Encoding G2)
    (proof : Groth16.Proof G1 G2) (times : Fin 5) : Proof :=
  match generator with
  | .zoKrates =>
      ⟨G1.encode proof.A, generator.point (twisted.encode proof.B), respell proof.C times⟩
  | .snarkjs =>
      ⟨respell proof.A times, generator.point (twisted.encode proof.B), G1.encode proof.C⟩

omit [Module Fr G2] in
theorem Generator.spells_spell {generator : Generator} {proof : Groth16.Proof G1 G2}
    (A_ne_zero : proof.A ≠ 0) (C_ne_zero : proof.C ≠ 0) (times : Fin 5) :
    generator.Spells twisted (generator.spell twisted proof times) proof := by
  cases generator with
  | zoKrates =>
      exact ⟨rfl, (words_point .zoKrates _).symm, readsAs_respell C_ne_zero times⟩
  | snarkjs =>
      exact ⟨readsAs_respell A_ne_zero times, (words_point .snarkjs _).symm, rfl⟩

omit [Module Fr G2] in
theorem Generator.spell_injective {generator : Generator} {proof proof' : Groth16.Proof G1 G2}
    {times times' : Fin 5}
    (same : generator.spell twisted proof times = generator.spell twisted proof' times') :
    proof.A = proof'.A ∧ proof.C = proof'.C ∧ times = times' := by
  cases generator with
  | zoKrates =>
      obtain ⟨C_eq, times_eq⟩ := respell_injective (congrArg Proof.c same)
      exact ⟨G1.encode_injective (congrArg Proof.a same), C_eq, times_eq⟩
  | snarkjs =>
      obtain ⟨A_eq, times_eq⟩ := respell_injective (congrArg Proof.a same)
      exact ⟨A_eq, G1.encode_injective (congrArg Proof.c same), times_eq⟩

/-- Whatever is made of an accepted proof is accepted. -/
theorem verifyProof_rerandomize
    (encodes : contract.verifyingKey.Encodes contract.generator.template twisted key)
    {words words' : Proof} {proof : Groth16.Proof G1 G2} {scale shift : Fr} (nonzero : scale ≠ 0)
    (spells : contract.generator.Spells twisted words proof)
    (spells' : contract.generator.Spells twisted words' (proof.rerandomize key scale shift))
    (input : Fin contract.inputs → U256) :
    contract.verifyProof (precompiles e twisted) words' input =
      contract.verifyProof (precompiles e twisted) words input := by
  rw [← Generator.read_eq_some_iff] at spells spells'
  rw [contract.verifyProof_eq encodes, contract.verifyProof_eq encodes, spells, spells']
  simp only [answer, Option.map_some, Groth16.Key.accepts_rerandomize nonzero]

theorem card_ne (excluded : Fr) : Nat.card {value : Fr // value ≠ excluded} = fieldOrder - 1 := by
  classical
  rw [Nat.card_eq_fintype_card, Fintype.card_subtype_compl, Fintype.card_subtype_eq, ZMod.card]

/-- The words spell what two scalars make of the proof with the points of the key. -/
def MadeFrom (contract : Contract) (twisted : G2Encoding G2)
    (key : Groth16.Key G1 G2 contract.inputs) (proof : Groth16.Proof G1 G2) (words : Proof) :
    Prop :=
  ∃ scale shift : Fr, scale ≠ 0 ∧
    contract.generator.Spells twisted words (proof.rerandomize key scale shift)

/-- From one accepted proof whose first point is not neutral, everyone can make this many
that are accepted, by the choices of two scalars and of the multiple of `q`.  On all inputs
they get the answers that the first one gets. -/
theorem accepted_many
    (encodes : contract.verifyingKey.Encodes contract.generator.template twisted key)
    {words : Proof} {proof : Groth16.Proof G1 G2} {input : Fin contract.inputs → U256}
    (spells : contract.generator.Spells twisted words proof) (nonzero : proof.A ≠ 0)
    (accepted : contract.verifyProof (precompiles e twisted) words input = .ok true) :
    ((5 * (fieldOrder - 1) ^ 2 : ℕ) : ℕ∞) ≤
        {words' | MadeFrom contract twisted key proof words' ∧
          contract.verifyProof (precompiles e twisted) words' input = .ok true}.encard ∧
      ∀ words', MadeFrom contract twisted key proof words' → ∀ input',
        contract.verifyProof (precompiles e twisted) words' input' =
          contract.verifyProof (precompiles e twisted) words input' := by
  have sameAnswers : ∀ words', MadeFrom contract twisted key proof words' → ∀ input',
      contract.verifyProof (precompiles e twisted) words' input' =
        contract.verifyProof (precompiles e twisted) words input' := by
    rintro words' ⟨scale, shift, scale_ne_zero, spells'⟩ input'
    exact verifyProof_rerandomize encodes scale_ne_zero spells spells' input'
  refine ⟨?_, sameAnswers⟩
  obtain ⟨excluded, others⟩ : ∃ excluded : Fr, ∀ scale shift : Fr, shift ≠ excluded →
      (proof.rerandomize key scale shift).C ≠ 0 :=
    proof.exists_rerandomize_ne_zero key nonzero
  let made : {scale : Fr // scale ≠ 0} × {shift : Fr // shift ≠ excluded} × Fin 5 → Proof :=
    fun (scale, shift, times) =>
      contract.generator.spell twisted (proof.rerandomize key scale.1 shift.1) times
  have injective : Function.Injective made := by
    rintro ⟨scale, shift, times⟩ ⟨scale', shift', times'⟩ same
    obtain ⟨A_eq, C_eq, rfl⟩ := Generator.spell_injective same
    obtain ⟨scale_eq, shift_eq⟩ := Groth16.Proof.rerandomize_injective nonzero A_eq C_eq
    rw [Subtype.ext scale_eq, Subtype.ext shift_eq]
  have allAccepted : Set.range made ⊆
      {words' | MadeFrom contract twisted key proof words' ∧
        contract.verifyProof (precompiles e twisted) words' input = .ok true} := by
    rintro _ ⟨⟨scale, shift, times⟩, rfl⟩
    have A_ne_zero : (proof.rerandomize key scale.1 shift.1).A ≠ 0 :=
      smul_ne_zero (inv_ne_zero scale.2) nonzero
    have isMade : MadeFrom contract twisted key proof (made (scale, shift, times)) :=
      ⟨scale.1, shift.1, scale.2,
        Generator.spells_spell A_ne_zero (others scale.1 shift.1 shift.2) times⟩
    exact ⟨isMade, (sameAnswers _ isMade input).trans accepted⟩
  have count : Nat.card ({scale : Fr // scale ≠ 0} × {shift : Fr // shift ≠ excluded} × Fin 5) =
      5 * (fieldOrder - 1) ^ 2 := by
    rw [Nat.card_prod, Nat.card_prod, card_ne, card_ne, Nat.card_fin]
    ring
  rw [← count, ← ENat.card_eq_coe_natCard]
  exact injective.encard_range.trans (Set.encard_le_encard allAccepted)

theorem sampleContract_accepts_many :
    ((5 * (fieldOrder - 1) ^ 2 : ℕ) : ℕ∞) ≤
        {words' | MadeFrom sampleContract sampleTable.encoding sampleKey sampleProof words' ∧
          sampleContract.verifyProof (precompiles samplePairing sampleTable.encoding) words'
            (fun _ => 1) = .ok true}.encard ∧
      ∀ words', MadeFrom sampleContract sampleTable.encoding sampleKey sampleProof words' →
        ∀ input', sampleContract.verifyProof (precompiles samplePairing sampleTable.encoding)
            words' input' =
          sampleContract.verifyProof (precompiles samplePairing sampleTable.encoding)
            sampleWords input' := by
  have accepts : sampleKey.Accepts samplePairing (scalars fun _ => 1) sampleProof :=
    sampleProof_accepts
  have nonzero : sampleProof.A ≠ 0 := by decide +kernel
  refine accepted_many sampleContract_encodes sampleWords_spells nonzero ?_
  exact (sampleContract.verifyProof_eq_ok_iff sampleContract_encodes).mpr
    ⟨by decide, sampleProof, sampleWords_spells, iff_of_true rfl accepts⟩

end Groth16Verifier

end IdHub
