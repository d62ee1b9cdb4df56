import IdHub.EcPrecompiles

/-!
# What the Groth16 verifiers accept

A verifier answers exactly if the inputs are reduced and the words of the proof are points,
and then says whether the equation holds.  Both generators negate one point of the proof,
and the negation reads an ordinate modulo `q`, so this point has further spellings.
-/

namespace IdHub

open Groth16Verifier MordellCurves

namespace Groth16Verifier

variable {G2 T : Type} [AddCommGroup G2] [Module Fr G2] [AddCommGroup T] [DecidableEq T]
  {e : Groth16.Pairing Fr G1 G2 T} {twisted : G2Encoding G2} {n : ℕ}

/-- The words that `negate` reads as the point: the ordinate counts modulo `q`. -/
structure ReadsAs (p : G1Point) (P : G1) : Prop where
  X_eq : (G1.encode P).X = p.X
  Y_eq : (G1.encode P).Y.toNat = p.Y.toNat % baseOrder
  neutral : P = 0 → p.Y = 0

namespace Pairing

theorem toNat_sub_mod (Y : U256) :
    ((21888242871839275222246405745257275088696311157297823662689037894645226208583 : U256) -
      Y % 21888242871839275222246405745257275088696311157297823662689037894645226208583).toNat =
        baseOrder - Y.toNat % baseOrder := by
  have literal : (21888242871839275222246405745257275088696311157297823662689037894645226208583 :
      U256).toNat = baseOrder := rfl
  have reduced : Y.toNat % baseOrder < baseOrder := Nat.mod_lt _ (by norm_num)
  rw [BitVec.toNat_sub, BitVec.toNat_umod, literal]
  omega

theorem negate_of_ne_zero {p : G1Point} (nonzero : ¬ (p.X = 0 ∧ p.Y = 0)) :
    (negate p).X = p.X ∧ (negate p).Y.toNat = baseOrder - p.Y.toNat % baseOrder := by
  simp only [negate, if_neg nonzero, toNat_sub_mod, and_self]

theorem ordinate_ne_zero {x y : Fq} (onCurve : y ^ 2 = x ^ 3 + AltBn128.params.b) : y ≠ 0 := by
  rintro rfl
  exact G1.not_cube x (by linear_combination -onCurve)

theorem encode_neg {P : G1} (nonzero : P ≠ 0) :
    (G1.encode (-P)).X = (G1.encode P).X ∧
      (G1.encode (-P)).Y.toNat = baseOrder - (G1.encode P).Y.toNat := by
  obtain rfl | ⟨x, y, onCurve, rfl⟩ := Point.eq_zero_or_ofEquation P
  · exact absurd rfl nonzero
  · have negated : (-y) ^ 2 = x ^ 3 + AltBn128.params.b := by rwa [neg_sq]
    rw [Point.neg_ofEquation onCurve negated]
    simp only [G1.encode_ofEquation, G1.toNat_ofNat_val, true_and]
    rw [ZMod.neg_val, if_neg (ordinate_ne_zero onCurve)]

theorem encode_Y_lt (P : G1) : (G1.encode P).Y.toNat < baseOrder := by
  obtain rfl | ⟨x, y, onCurve, rfl⟩ := Point.eq_zero_or_ofEquation P
  · exact baseOrder_prime.pos
  · rw [G1.encode_ofEquation, G1.toNat_ofNat_val]
    exact ZMod.val_lt y

theorem decode_negate_iff {p : G1Point} {P : G1} :
    G1.decode (negate p) = some (-P) ↔ ReadsAs p P := by
  rw [G1.decode_eq_some_iff]
  by_cases zeros : p.X = 0 ∧ p.Y = 0
  · rw [negate, if_pos zeros]
    constructor
    · intro neutral
      obtain rfl : P = 0 := by
        rw [← neg_eq_zero, ← G1.encode_eq_zeros_iff, neutral]
        exact ⟨rfl, rfl⟩
      exact ⟨zeros.1.symm, by simp [zeros.2], fun _ => zeros.2⟩
    · intro reads
      obtain rfl : P = 0 := by
        rw [← G1.encode_eq_zeros_iff, reads.X_eq]
        exact ⟨zeros.1, BitVec.eq_of_toNat_eq (by simp [reads.Y_eq, zeros.2])⟩
      rfl
  · obtain ⟨X_eq, Y_eq⟩ := negate_of_ne_zero zeros
    have remainder : p.Y.toNat % baseOrder < baseOrder := Nat.mod_lt _ (by norm_num)
    constructor
    · intro negated
      rw [← negated] at X_eq Y_eq
      have nonzero : P ≠ 0 := by
        rintro rfl
        simp at Y_eq
        omega
      obtain ⟨negX, negY⟩ := encode_neg nonzero
      have reduced := encode_Y_lt P
      exact ⟨negX.symm.trans X_eq, by omega, fun isZero => absurd isZero nonzero⟩
    · intro reads
      have nonzero : P ≠ 0 := by
        rintro rfl
        exact zeros ⟨reads.X_eq.symm, reads.neutral rfl⟩
      obtain ⟨negX, negY⟩ := encode_neg nonzero
      apply G1Point.ext
      · rw [negX, reads.X_eq, X_eq]
      · apply BitVec.eq_of_toNat_eq
        rw [negY, reads.Y_eq, Y_eq]

end Pairing

theorem readsAs_encode (P : G1) : ReadsAs (G1.encode P) P where
  X_eq := rfl
  Y_eq := (Nat.mod_eq_of_lt (Pairing.encode_Y_lt P)).symm
  neutral := by
    rintro rfl
    rfl

namespace Pairing

@[simp] theorem negate_encode (P : G1) : negate (G1.encode P) = G1.encode (-P) :=
  (G1.decode_eq_some_iff.mp (decode_negate_iff.mpr (readsAs_encode P))).symm

theorem addition_encode (P Q : G1) :
    addition (precompiles e twisted) (G1.encode P) (G1.encode Q) = .ok (G1.encode (P + Q)) := by
  simp [addition, precompiles, staticcall]

theorem scalar_mul_encode (P : G1) (s : U256) :
    scalar_mul (precompiles e twisted) (G1.encode P) s = .ok (G1.encode (s.toNat • P)) := by
  simp [scalar_mul, precompiles, staticcall]

end Pairing

/-- The scalars that the words of the inputs stand for. -/
def scalars (input : Fin n → U256) : Fin n → Fr :=
  fun i => ((input i).toNat : Fr)

def Reduced (input : Fin n → U256) : Prop :=
  ∀ i, input i < snark_scalar_field

instance (input : Fin n → U256) : Decidable (Reduced input) :=
  inferInstanceAs (Decidable (∀ i, input i < snark_scalar_field))

theorem ok_bind {α β : Type} (value : α) (next : α → Except Failure β) :
    (Except.ok value >>= next) = next value := rfl

theorem toNat_smul (value : U256) (P : G1) : value.toNat • P = (value.toNat : Fr) • P :=
  (Nat.cast_smul_eq_nsmul Fr _ _).symm

/-- The words of the key are the spelling of these points. -/
structure VerifyingKey.Encodes (template : Template) (twisted : G2Encoding G2)
    (vk : VerifyingKey) (key : Groth16.Key G1 G2 n) : Prop where
  alpha : vk.alpha = G1.encode key.alpha
  beta : template.words vk.beta = twisted.encode key.beta
  gamma : template.words vk.gamma = twisted.encode key.gamma
  delta : template.words vk.delta = twisted.encode key.delta
  gamma_abc : vk.gamma_abc =
    G1.encode key.constant :: List.ofFn fun i => G1.encode (key.inputs i)

section Combination

variable {template : Template} {gamma_abc : List G1Point}

theorem accumulate_encode {value : U256} {i : ℕ} {sum P : G1}
    (entry : gamma_abc[i + 1]? = some (G1.encode P)) :
    accumulate (precompiles e twisted) template gamma_abc (G1.encode sum) (value, i) =
      if value < snark_scalar_field then .ok (G1.encode (sum + (value.toNat : Fr) • P))
      else .error (.revert template.gteScalarField) := by
  by_cases reduced : value < snark_scalar_field
  · simp [accumulate, Guards.require, reduced, index, entry, bind, Except.bind,
      Pairing.scalar_mul_encode, Pairing.addition_encode, toNat_smul]
  · simp [accumulate, Guards.require, reduced, bind, Except.bind]

/-- The loop adds the multiples of the points that are left. -/
theorem accumulated_encode (input : Fin n → U256) (points : Fin n → G1) {i : ℕ} {sum : G1}
    (entries : ∀ j : Fin n, gamma_abc[i + j + 1]? = some (G1.encode (points j))) :
    ((List.ofFn input).zipIdx i).foldlM (accumulate (precompiles e twisted) template gamma_abc)
        (G1.encode sum) =
      if Reduced input then .ok (G1.encode (sum + ∑ j, scalars input j • points j))
      else .error (.revert template.gteScalarField) := by
  induction n generalizing i sum with
  | zero => simp [Reduced, pure, Except.pure]
  | succ n ih =>
      have first : gamma_abc[i + 1]? = some (G1.encode (points 0)) := by simpa using entries 0
      have rest : ∀ j : Fin n, gamma_abc[i + 1 + j + 1]? = some (G1.encode (points j.succ)) := by
        intro j
        have entry := entries j.succ
        rwa [Fin.val_succ, ← Nat.add_assoc, Nat.add_right_comm i] at entry
      rw [List.ofFn_succ, List.zipIdx_cons, List.foldlM_cons, accumulate_encode first]
      by_cases reduced : input 0 < snark_scalar_field
      · have split : Reduced input ↔ Reduced fun j => input j.succ := by
          simp [Reduced, Fin.forall_fin_succ, reduced]
        rw [if_pos reduced]
        rw [ok_bind, ih (fun j => input j.succ) (fun j => points j.succ) rest]
        simp only [split, Fin.sum_univ_succ, add_assoc, scalars]
      · rw [if_neg reduced, if_neg fun all => reduced (all 0)]
        rfl

theorem linearCombination_encode {vk : VerifyingKey} {key : Groth16.Key G1 G2 n}
    (encodes : vk.Encodes template twisted key) (input : Fin n → U256) :
    linearCombination (precompiles e twisted) template vk (List.ofFn input) =
      if Reduced input then .ok (G1.encode (key.statement (scalars input)))
      else .error (.revert template.gteScalarField) := by
  have entries : ∀ j : Fin n, vk.gamma_abc[0 + j.val + 1]? = some (G1.encode (key.inputs j)) := by
    intro j
    rw [encodes.gamma_abc, List.getElem?_cons_succ]
    simp
  have accumulated : (List.ofFn input).zipIdx.foldlM
      (accumulate (precompiles e twisted) template vk.gamma_abc) (G1.encode 0) =
        if Reduced input then .ok (G1.encode (0 + ∑ j, scalars input j • key.inputs j))
        else .error (.revert template.gteScalarField) :=
    accumulated_encode input key.inputs entries
  rw [G1.encode_zero, zero_add] at accumulated
  have lengths : n + 1 = vk.gamma_abc.length := by simp [encodes.gamma_abc]
  have first : vk.gamma_abc[0]? = some (G1.encode key.constant) := by
    rw [encodes.gamma_abc]
    rfl
  rw [linearCombination, accumulated]
  by_cases reduced : Reduced input
  · simp [Guards.require, lengths, reduced, index, first, bind, Except.bind,
      Pairing.addition_encode, Groth16.Key.statement, add_comm]
  · simp [Guards.require, lengths, reduced, bind, Except.bind]

end Combination

section Equation

variable {template : Template}

/-- The pairing of two points that the contracts read from words. -/
def pairOf (e : Groth16.Pairing Fr G1 G2 T) (twisted : G2Encoding G2) (template : Template)
    (pair : G1Point × G2Point) : Option T := do
  let P ← G1.decode pair.1
  let Q ← twisted.decode (template.words pair.2)
  return e.pair P Q

omit [DecidableEq T] in
theorem pairingSum_flatMap (pairs : List (G1Point × G2Point)) :
    pairingSum e twisted (pairs.flatMap (Pairing.pairWords template)) =
      (pairs.mapM (pairOf e twisted template)).map List.sum := by
  induction pairs with
  | nil => rfl
  | cons pair pairs ih =>
      rw [List.flatMap_cons, List.mapM_cons]
      cases first : G1.decode pair.1 with
      | none => simp [Pairing.pairWords, pairingSum, pairOf, first]
      | some P =>
          cases second : twisted.decode (template.words pair.2) with
          | none => simp [Pairing.pairWords, pairingSum, pairOf, first, second]
          | some Q =>
              simp only [Pairing.pairWords, pairingSum, pairOf, first, second, ih,
                List.cons_append, List.nil_append, Option.bind_eq_bind, Option.bind_some,
                Option.pure_def]
              cases pairs.mapM (pairOf e twisted template) <;> rfl

/-- The check fails on words that are not points, and else compares the sum. -/
theorem pairing_eq {p1 : List G1Point} {p2 : List G2Point} (lengths : p1.length = p2.length) :
    Pairing.pairing (precompiles e twisted) template p1 p2 =
      staticcall (((p1.zip p2).mapM (pairOf e twisted template)).map
        fun pairings => decide (pairings.sum = 0)) := by
  simp only [Pairing.pairing, Guards.require, if_pos lengths, precompiles, pairingSum_flatMap]
  cases (p1.zip p2).mapM (pairOf e twisted template) with
  | none => rfl
  | some pairings =>
      by_cases zero : pairings.sum = 0
      · simp [zero, staticcall, bind, Except.bind, pure, Except.pure]
      · simp [zero, staticcall, bind, Except.bind, pure, Except.pure]

theorem pairingProd4_eq (a1 b1 c1 d1 : G1Point) (a2 b2 c2 d2 : G2Point) :
    Pairing.pairingProd4 (precompiles e twisted) template a1 a2 b1 b2 c1 c2 d1 d2 =
      staticcall (do
        let a ← pairOf e twisted template (a1, a2)
        let b ← pairOf e twisted template (b1, b2)
        let c ← pairOf e twisted template (c1, c2)
        let d ← pairOf e twisted template (d1, d2)
        return decide (a + (b + (c + d)) = 0)) := by
  rw [Pairing.pairingProd4, pairing_eq rfl]
  congr 1
  simp only [List.zip_cons_cons, List.zip_nil_right, List.mapM_cons, List.mapM_nil]
  cases pairOf e twisted template (a1, a2) with
  | none => rfl
  | some a =>
      cases pairOf e twisted template (b1, b2) with
      | none => rfl
      | some b =>
          cases pairOf e twisted template (c1, c2) with
          | none => rfl
          | some c =>
              cases pairOf e twisted template (d1, d2) with
              | none => rfl
              | some d => simp

omit [DecidableEq T] in
theorem pairOf_encode (P : G1) {b : G2Point} {Q : G2} (spelled : template.words b = twisted.encode Q) :
    pairOf e twisted template (G1.encode P, b) = some (e.pair P Q) := by
  simp [pairOf, spelled]

end Equation

/-- The answer of a verifier about a proof that it reads from words. -/
def answer (e : Groth16.Pairing Fr G1 G2 T) (template : Template) (key : Groth16.Key G1 G2 n)
    (input : Fin n → U256) (read : Option (Groth16.Proof G1 G2)) : Except Failure Bool :=
  if Reduced input then
    staticcall (read.map fun proof => decide (key.Accepts e (scalars input) proof))
  else .error (.revert template.gteScalarField)

omit [DecidableEq T] in
theorem accepts_iff_sum_eq_zero (key : Groth16.Key G1 G2 n) (input : Fin n → Fr) (A C : G1)
    (B : G2) : key.Accepts e input ⟨A, B, C⟩ ↔
      e.pair A B + (e.pair (-key.statement input) key.gamma +
        (e.pair (-C) key.delta + e.pair (-key.alpha) key.beta)) = 0 := by
  have difference : e.pair A B + (e.pair (-key.statement input) key.gamma +
      (e.pair (-C) key.delta + e.pair (-key.alpha) key.beta)) =
        e.pair A B - (e.pair key.alpha key.beta + e.pair (key.statement input) key.gamma +
          e.pair C key.delta) := by
    simp only [map_neg, AddMonoidHom.neg_apply]
    abel
  rw [difference, sub_eq_zero]
  rfl

omit [DecidableEq T] in
theorem accepts_iff_neg_sum_eq_zero (key : Groth16.Key G1 G2 n) (input : Fin n → Fr) (A C : G1)
    (B : G2) : key.Accepts e input ⟨A, B, C⟩ ↔
      e.pair (-A) B + (e.pair key.alpha key.beta +
        (e.pair (key.statement input) key.gamma + e.pair C key.delta)) = 0 := by
  have difference : e.pair (-A) B + (e.pair key.alpha key.beta +
      (e.pair (key.statement input) key.gamma + e.pair C key.delta)) =
        (e.pair key.alpha key.beta + e.pair (key.statement input) key.gamma +
          e.pair C key.delta) - e.pair A B := by
    simp only [map_neg, AddMonoidHom.neg_apply]
    abel
  rw [difference, sub_eq_zero]
  exact eq_comm

/-- The public functions answer whether the equation that `verify` checks holds. -/
theorem returned_eq {key : Groth16.Key G1 G2 n} {input : Fin n → Fr} {a c : Option G1}
    {b : Option G2} {sum : G1 → G2 → G1 → T} (proofOf : G1 → G2 → G1 → Groth16.Proof G1 G2)
    (equation : ∀ A B C, key.Accepts e input (proofOf A B C) ↔ sum A B C = 0) :
    (do
      let result ← (do
        let holds ← staticcall (do
          let A ← a
          let B ← b
          let C ← c
          return decide (sum A B C = 0))
        return if holds then 0 else 1 : Except Failure U256)
      return decide (result = 0)) =
      staticcall ((do
        let A ← a
        let B ← b
        let C ← c
        return proofOf A B C).map fun proof => decide (key.Accepts e input proof)) := by
  cases a with
  | none => rfl
  | some A =>
      cases b with
      | none => rfl
      | some B =>
          cases c with
          | none => rfl
          | some C =>
              have same : decide (key.Accepts e input (proofOf A B C)) =
                  decide (sum A B C = 0) := decide_eq_decide.mpr (equation A B C)
              simp only [Option.bind_eq_bind, Option.bind_some, Option.pure_def, Option.map_some,
                same]
              cases decide (sum A B C = 0) <;> rfl

namespace ZoKrates

/-- The proof that the words stand for. -/
def read (twisted : G2Encoding G2) (proof : Proof) : Option (Groth16.Proof G1 G2) := do
  let A ← G1.decode proof.a
  let B ← twisted.decode (template.words proof.b)
  let C ← G1.decode (Pairing.negate proof.c)
  return ⟨A, B, -C⟩

theorem verifyTx_eq {vk : VerifyingKey} {key : Groth16.Key G1 G2 n}
    (encodes : vk.Encodes template twisted key) (proof : Proof) (input : Fin n → U256) :
    verifyTx (precompiles e twisted) vk proof input =
      answer e template key input (read twisted proof) := by
  rw [verifyTx, verify, linearCombination_encode encodes, answer]
  by_cases reduced : Reduced input
  · rw [if_pos reduced, if_pos reduced]
    rw [read, ok_bind, encodes.alpha, Pairing.negate_encode, Pairing.negate_encode, pairingProd4_eq,
      pairOf_encode _ encodes.gamma, pairOf_encode _ encodes.beta]
    simp only [pairOf, encodes.delta, twisted.decode_encode, Option.bind_eq_bind,
      Option.pure_def, Option.bind_assoc, Option.bind_some]
    exact returned_eq (fun A B C => ⟨A, B, -C⟩) fun A B C => by
      rw [accepts_iff_sum_eq_zero, neg_neg]
  · rw [if_neg reduced, if_neg reduced]
    rfl

end ZoKrates

namespace Snarkjs

/-- The proof that the words stand for. -/
def read (twisted : G2Encoding G2) (proof : Proof) : Option (Groth16.Proof G1 G2) := do
  let A ← G1.decode (Pairing.negate proof.a)
  let B ← twisted.decode (template.words proof.b)
  let C ← G1.decode proof.c
  return ⟨-A, B, C⟩

theorem verifyProof_eq {vk : VerifyingKey} {key : Groth16.Key G1 G2 n}
    (encodes : vk.Encodes template twisted key) (proof : Proof) (input : Fin n → U256) :
    verifyProof (precompiles e twisted) vk proof input =
      answer e template key input (read twisted proof) := by
  rw [verifyProof, verify, linearCombination_encode encodes, answer]
  by_cases reduced : Reduced input
  · rw [if_pos reduced, if_pos reduced]
    rw [read, ok_bind, encodes.alpha, pairingProd4_eq, pairOf_encode _ encodes.gamma,
      pairOf_encode _ encodes.beta]
    simp only [pairOf, encodes.delta, twisted.decode_encode, Option.bind_eq_bind,
      Option.pure_def, Option.bind_assoc, Option.bind_some]
    exact returned_eq (fun A B C => ⟨-A, B, C⟩) fun A B C => by
      rw [accepts_iff_neg_sum_eq_zero, neg_neg]
  · rw [if_neg reduced, if_neg reduced]
    rfl

end Snarkjs

/-- The words of a proof that a contract reads as these points.  Each generator negates one
of the points. -/
def Generator.Spells (generator : Generator) (twisted : G2Encoding G2) (words : Proof)
    (proof : Groth16.Proof G1 G2) : Prop :=
  match generator with
  | .zoKrates => G1.encode proof.A = words.a ∧
      twisted.encode proof.B = ZoKrates.template.words words.b ∧ ReadsAs words.c proof.C
  | .snarkjs => ReadsAs words.a proof.A ∧
      twisted.encode proof.B = Snarkjs.template.words words.b ∧ G1.encode proof.C = words.c

def Generator.read (generator : Generator) (twisted : G2Encoding G2) (words : Proof) :
    Option (Groth16.Proof G1 G2) :=
  match generator with
  | .zoKrates => ZoKrates.read twisted words
  | .snarkjs => Snarkjs.read twisted words

omit [Module Fr G2] in
theorem Generator.read_eq_some_iff {generator : Generator} {words : Proof}
    {proof : Groth16.Proof G1 G2} :
    generator.read twisted words = some proof ↔ generator.Spells twisted words proof := by
  obtain ⟨A, B, C⟩ := proof
  cases generator with
  | zoKrates =>
      simp only [read, ZoKrates.read, Spells, ← Pairing.decode_negate_iff,
        ← twisted.decode_eq_some_iff, ← G1.decode_eq_some_iff, Option.bind_eq_bind,
        Option.bind_eq_some_iff, Option.pure_def, Option.some.injEq, Groth16.Proof.mk.injEq]
      constructor
      · rintro ⟨A', first, B', second, C', third, rfl, rfl, rfl⟩
        exact ⟨first, second, by rwa [neg_neg]⟩
      · rintro ⟨first, second, third⟩
        exact ⟨A, first, B, second, -C, third, rfl, rfl, neg_neg C⟩
  | snarkjs =>
      simp only [read, Snarkjs.read, Spells, ← Pairing.decode_negate_iff,
        ← twisted.decode_eq_some_iff, ← G1.decode_eq_some_iff, Option.bind_eq_bind,
        Option.bind_eq_some_iff, Option.pure_def, Option.some.injEq, Groth16.Proof.mk.injEq]
      constructor
      · rintro ⟨A', first, B', second, C', third, rfl, rfl, rfl⟩
        exact ⟨by rwa [neg_neg], second, third⟩
      · rintro ⟨first, second, third⟩
        exact ⟨-A, first, B, second, C, third, neg_neg A, rfl, rfl⟩

theorem Contract.verifyProof_eq {contract : Contract} {key : Groth16.Key G1 G2 contract.inputs}
    (encodes : contract.verifyingKey.Encodes contract.generator.template twisted key)
    (words : Proof) (input : Fin contract.inputs → U256) :
    contract.verifyProof (precompiles e twisted) words input =
      answer e contract.generator.template key input (contract.generator.read twisted words) := by
  obtain ⟨generator, inputs, verifyingKey⟩ := contract
  cases generator with
  | zoKrates => exact ZoKrates.verifyTx_eq encodes words input
  | snarkjs => exact Snarkjs.verifyProof_eq encodes words input

section Exactness

variable {contract : Contract} {key : Groth16.Key G1 G2 contract.inputs}

theorem Contract.verifyProof_eq_ok_iff
    (encodes : contract.verifyingKey.Encodes contract.generator.template twisted key)
    {words : Proof} {input : Fin contract.inputs → U256} {accepted : Bool} :
    contract.verifyProof (precompiles e twisted) words input = .ok accepted ↔
      Reduced input ∧ ∃ proof, contract.generator.Spells twisted words proof ∧
        (accepted = true ↔ key.Accepts e (scalars input) proof) := by
  rw [contract.verifyProof_eq encodes, answer]
  by_cases reduced : Reduced input
  · rw [if_pos reduced]
    simp only [← Generator.read_eq_some_iff, reduced, true_and]
    cases contract.generator.read twisted words with
    | none => simp [staticcall]
    | some proof =>
        simp only [Option.map_some, staticcall, Except.ok.injEq, Option.some.injEq,
          exists_eq_left']
        rw [Bool.eq_iff_iff, decide_eq_true_iff]
        exact iff_comm
  · simp [reduced]

theorem Contract.verifyProof_eq_error_iff
    (encodes : contract.verifyingKey.Encodes contract.generator.template twisted key)
    {words : Proof} {input : Fin contract.inputs → U256} {failure : Failure} :
    contract.verifyProof (precompiles e twisted) words input = .error failure ↔
      (¬ Reduced input ∧ failure = .revert contract.generator.template.gteScalarField) ∨
        (Reduced input ∧ failure = .invalid ∧
          ¬ ∃ proof, contract.generator.Spells twisted words proof) := by
  rw [contract.verifyProof_eq encodes, answer]
  by_cases reduced : Reduced input
  · rw [if_pos reduced]
    simp only [← Generator.read_eq_some_iff, reduced, true_and, not_true, false_and, false_or]
    cases contract.generator.read twisted words with
    | none => simp [staticcall, eq_comm]
    | some proof => simp [staticcall]
  · simp [reduced, eq_comm]

/-- What a verifier answers: it reverts for inputs that are not reduced, runs the invalid
opcode for words that are not points, and else says whether the equation holds. -/
theorem verifyProof_exact
    (encodes : contract.verifyingKey.Encodes contract.generator.template twisted key)
    (words : Proof) (input : Fin contract.inputs → U256) :
    (∀ accepted, contract.verifyProof (precompiles e twisted) words input = .ok accepted ↔
      Reduced input ∧ ∃ proof, contract.generator.Spells twisted words proof ∧
        (accepted = true ↔ key.Accepts e (scalars input) proof)) ∧
    (∀ failure, contract.verifyProof (precompiles e twisted) words input = .error failure ↔
      (¬ Reduced input ∧ failure = .revert contract.generator.template.gteScalarField) ∨
        (Reduced input ∧ failure = .invalid ∧
          ¬ ∃ proof, contract.generator.Spells twisted words proof)) :=
  ⟨fun _ => contract.verifyProof_eq_ok_iff encodes,
    fun _ => contract.verifyProof_eq_error_iff encodes⟩

end Exactness

section Sample

/-- The generator of the second group that `P2` of the library `Pairing` returns. -/
def P2 : G2Point :=
  ⟨(10857046999023057135944570762232829481370756359578518086990519993285655852781,
      11559732032986387107991004021392285783925812861821192530917403151452391805634),
    (8495653923123431417604973247489272438418190587263600148770280649306958101930,
      4082367875863433681332203403145435568316851327593401208105741076214120093531)⟩

def sampleTable : PointTable where
  words := [ZoKrates.template.words P2]
  nodup := by decide +kernel
  points := List.forall_mem_singleton.mpr (by decide +kernel)
  short := by decide +kernel

def sampleContract : Contract where
  generator := .zoKrates
  inputs := 1
  verifyingKey := ⟨⟨1, 2⟩, P2, P2, P2, [⟨0, 0⟩, ⟨1, 2⟩]⟩

def sampleKey : Groth16.Key G1 Fr 1 :=
  ⟨G1.P1, 1, 1, 1, 0, fun _ => G1.P1⟩

theorem sampleContract_encodes :
    sampleContract.verifyingKey.Encodes sampleContract.generator.template sampleTable.encoding
      sampleKey := by
  constructor <;> decide +kernel

/-- A proof for the input 1, whose third point is the negated generator. -/
def sampleProof : Groth16.Proof G1 Fr :=
  ⟨G1.P1, 1, -G1.P1⟩

def sampleWords : Proof :=
  ⟨⟨1, 2⟩, P2,
    ⟨1, 21888242871839275222246405745257275088696311157297823662689037894645226208581⟩⟩

theorem sampleWords_spells :
    sampleContract.generator.Spells sampleTable.encoding sampleWords sampleProof := by
  refine ⟨by decide +kernel, by decide +kernel, ?_⟩
  rw [← Pairing.decode_negate_iff]
  decide +kernel

theorem sampleProof_accepts :
    sampleKey.Accepts samplePairing (fun _ => 1) sampleProof := by
  simp [Groth16.Key.Accepts, Groth16.Key.statement, sampleKey, sampleProof]

/-- The proof is accepted for its input, and no proof for an input that is not reduced. -/
theorem sampleContract_answers :
    sampleContract.verifyProof (precompiles samplePairing sampleTable.encoding) sampleWords
        (fun _ => 1) = .ok true ∧
      sampleContract.verifyProof (precompiles samplePairing sampleTable.encoding) sampleWords
        (fun _ => snark_scalar_field) = .error (.revert none) := by
  have accepts : sampleKey.Accepts samplePairing (scalars fun _ => 1) sampleProof :=
    sampleProof_accepts
  constructor
  · exact ((verifyProof_exact sampleContract_encodes _ _).1 true).mpr
      ⟨by decide, sampleProof, sampleWords_spells, iff_of_true rfl accepts⟩
  · exact ((verifyProof_exact sampleContract_encodes _ _).2 _).mpr (.inl ⟨by decide, rfl⟩)

end Sample

end Groth16Verifier

end IdHub
