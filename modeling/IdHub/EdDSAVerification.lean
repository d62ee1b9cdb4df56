import IdHub.DAEncrypt

/-!
# What the fixed-key signature check accepts

`eddsaFixedPubkey.circom` is circomlib's verifier with the key as a template parameter.
It bounds `S` by the order of the subgroup with `CompConstant`, decomposes the hash
strictly, and compares `S B8` with `R8 + h A8`.  The enabled check accepts exactly the
responses below the order that satisfy this equation, so at most one for each nonce point
and message.
-/

namespace IdHub

open BitSums TwistedEdwards

/-- The multiples of `BASE8` below the order are different. -/
theorem nsmul_BASE8_injOn {first second : ℕ} (firstLt : first < subOrder)
    (secondLt : second < subOrder) (equal : first • BASE8 = second • BASE8) :
    first = second := by
  rw [← addOrderOf_BASE8] at firstLt secondLt
  exact nsmul_injOn_Iio_addOrderOf firstLt secondLt equal

namespace EdDSAFixedPubkey

/-- The constraints of `EdDSAPoseidonVerifier(A, A8)` are satisfiable with these inputs. -/
def Accepts (lib : Circomlib) (A A8 : Fr × Fr) (enabled S : Fr) (R8 : Fr × Fr) (M : Fr) :
    Prop :=
  ∃ w, Satisfies lib A A8 w ∧ w.enabled = enabled ∧ w.S = S ∧ (w.R8x, w.R8y) = R8 ∧
    w.M = M

/-- The assignment with the canonical bits of the response and of the challenge. -/
def canonicalSignals (lib : Circomlib) (A R8 : BabyPoint) (enabled S M : Fr) : Signals where
  enabled := enabled
  S := S
  R8x := R8.x
  R8y := R8.y
  M := M
  snum2bits := digits Fr 253 S.val
  compConstant := if S.val < subOrder then 0 else 1
  hash := lib.Poseidon ![R8.x, R8.y, A.x, A.y, M]
  h2bits := digits Fr 254 (lib.challenge A R8 M)
  h8a := (lib.challenge A R8 M • 8 • A).coords
  addRight := (R8 + lib.challenge A R8 M • 8 • A).coords
  sb8 := (S.val • BASE8).coords

variable {lib : Circomlib} {A R8 : BabyPoint} {S M : Fr}

theorem isBit_compConstantInput {snum2bits : Fin 253 → Fr}
    (areBits : ∀ i, IsBit (snum2bits i)) (i : Fin 254) :
    IsBit (compConstantInput snum2bits i) := by
  unfold compConstantInput
  split
  · exact areBits _
  · exact .inl rfl

/-- `compConstant.out` flags the responses from the order of the subgroup on. -/
theorem compConstant_iff (signature : lib.SignatureSpec) {snum2bits : Fin 253 → Fr}
    (areBits : ∀ i, IsBit (snum2bits i)) {out : Fr} :
    lib.CompConstant
        2736030358979909402780800718157159386076813972158567259200215660948447373040
        (compConstantInput snum2bits) out ↔
      out = if natSum snum2bits < subOrder then 0 else 1 := by
  have order : subOrder =
      2736030358979909402780800718157159386076813972158567259200215660948447373040 + 1 := rfl
  rw [signature.compConstant (isBit_compConstantInput areBits), natSum_compConstantInput]
  by_cases below : natSum snum2bits < subOrder
  · rw [if_pos below, if_neg (by omega)]
  · rw [if_neg below, if_pos (by omega)]

theorem narrow_253 : 2 ^ 253 ≤ fieldOrder := by norm_num

section Spec

variable (bits : lib.BitSpec) (curve : lib.CurveSpec) (mulBase : lib.EscalarMulFixSpec BASE8)
  (mulKey : lib.EscalarMulFixSpec (8 • A)) (signature : lib.SignatureSpec)

include bits curve mulBase mulKey signature

/-- What the constraints say about the inputs, whatever `enabled` is. -/
theorem Satisfies.equation {w : Signals}
    (satisfied : Satisfies lib A.coords (8 • A).coords w) (nonce : (w.R8x, w.R8y) = R8.coords) :
    w.S.val < 2 ^ 253 ∧ (w.enabled = 0 ∨ w.S.val < subOrder ∧
      w.S.val • BASE8 = R8 + lib.challenge A R8 w.M • 8 • A) := by
  obtain ⟨responseBits, response⟩ :=
    (bits.num2Bits_narrow_iff narrow_253).mp satisfied.snum2bits
  obtain ⟨hashBits, hash⟩ := signature.num2BitsStrict.mp satisfied.h2bits
  have nonceX : w.R8x = R8.coords.1 := congrArg Prod.fst nonce
  have nonceY : w.R8y = R8.coords.2 := congrArg Prod.snd nonce
  have challenged : w.hash.val = lib.challenge A R8 w.M := by
    rw [satisfied.hash, nonceX, nonceY]
    rfl
  have left := (mulBase responseBits).mp satisfied.sb8
  have product := (mulKey hashBits).mp satisfied.h8a
  have right := satisfied.addRight
  rw [nonceX, nonceY, product] at right
  have sum := curve.babyAdd_coords.mp right
  refine ⟨response ▸ natSum_lt w.snum2bits, ?_⟩
  by_cases disabled : w.enabled = 0
  · exact .inl disabled
  · right
    constructor
    · by_contra large
      have flag := (compConstant_iff signature responseBits).mp satisfied.compConstant
      rw [response, if_neg large] at flag
      have zero := satisfied.compConstant_out
      rw [flag, one_mul] at zero
      exact disabled zero
    · have sameX := (signature.forceEqualIfEnabled.mp satisfied.eqCheckX).resolve_left disabled
      have sameY := (signature.forceEqualIfEnabled.mp satisfied.eqCheckY).resolve_left disabled
      have same : w.sb8 = w.addRight := Prod.ext sameX sameY
      rw [left, sum, response, hash, challenged] at same
      exact BabyPoint.coords_injective same

/-- The canonical bits satisfy all constraints, if the check is disabled or the response
answers the challenge. -/
theorem satisfies_canonicalSignals {enabled : Fr} (small : S.val < 2 ^ 253)
    (answers : enabled = 0 ∨ S.val < subOrder ∧
      S.val • BASE8 = R8 + lib.challenge A R8 M • 8 • A) :
    Satisfies lib A.coords (8 • A).coords (canonicalSignals lib A R8 enabled S M) := by
  have response : natSum (digits Fr 253 S.val) = S.val := natSum_digits S.val small
  have hashed : natSum (digits Fr 254 (lib.challenge A R8 M)) = lib.challenge A R8 M :=
    natSum_digits _ (val_lt_two_pow _)
  have equal : enabled = 0 ∨
      (S.val • BASE8).coords = (R8 + lib.challenge A R8 M • 8 • A).coords :=
    answers.imp_right fun answered => by rw [answered.2]
  refine
    { snum2bits := (bits.num2Bits_narrow_iff narrow_253).mpr ⟨isBit_digits _ _, response⟩
      compConstant := (compConstant_iff signature (isBit_digits _ _)).mpr ?_
      compConstant_out := ?_
      hash := rfl
      h2bits := signature.num2BitsStrict.mpr ⟨isBit_digits _ _, hashed⟩
      h8a := (mulKey (isBit_digits _ _)).mpr ?_
      addRight := curve.babyAdd_coords.mpr rfl
      sb8 := (mulBase (isBit_digits _ _)).mpr ?_
      eqCheckX := signature.forceEqualIfEnabled.mpr (equal.imp_right (congrArg Prod.fst))
      eqCheckY := signature.forceEqualIfEnabled.mpr (equal.imp_right (congrArg Prod.snd)) }
  · rw [canonicalSignals, response]
  · rcases answers with rfl | ⟨below, -⟩
    · exact mul_zero _
    · rw [canonicalSignals, if_pos below, zero_mul]
  · rw [canonicalSignals, hashed]
  · rw [canonicalSignals, response]

theorem accepts_iff {enabled : Fr} :
    Accepts lib A.coords (8 • A).coords enabled S R8.coords M ↔
      S.val < 2 ^ 253 ∧ (enabled = 0 ∨ S.val < subOrder ∧
        S.val • BASE8 = R8 + lib.challenge A R8 M • 8 • A) := by
  constructor
  · rintro ⟨w, satisfied, rfl, rfl, nonce, rfl⟩
    exact satisfied.equation bits curve mulBase mulKey signature nonce
  · rintro ⟨small, answers⟩
    exact ⟨_, satisfies_canonicalSignals bits curve mulBase mulKey signature small answers,
      rfl, rfl, rfl, rfl⟩

/-- The enabled check accepts exactly the responses below the order that answer the
challenge. -/
theorem accepts_enabled_iff :
    Accepts lib A.coords (8 • A).coords 1 S R8.coords M ↔
      S.val < subOrder ∧ S.val • BASE8 = R8 + lib.challenge A R8 M • 8 • A := by
  have narrow : subOrder < 2 ^ 253 := by norm_num
  rw [accepts_iff bits curve mulBase mulKey signature]
  constructor
  · rintro ⟨-, disabled | answers⟩
    · exact absurd disabled one_ne_zero
    · exact answers
  · intro answers
    exact ⟨answers.1.trans narrow, .inr answers⟩

/-- The enabled check is exact and accepts at most one response for a nonce point and a
message; the disabled check accepts every response that has 253 bits. -/
theorem verifier_exact (R8 : BabyPoint) (M : Fr) :
    (∀ S, Accepts lib A.coords (8 • A).coords 1 S R8.coords M ↔
      S.val < subOrder ∧ S.val • BASE8 = R8 + lib.challenge A R8 M • 8 • A) ∧
    (∀ first second, Accepts lib A.coords (8 • A).coords 1 first R8.coords M →
      Accepts lib A.coords (8 • A).coords 1 second R8.coords M → first = second) ∧
    (∀ S, Accepts lib A.coords (8 • A).coords 0 S R8.coords M ↔ S.val < 2 ^ 253) := by
  have characterised : ∀ S, Accepts lib A.coords (8 • A).coords 1 S R8.coords M ↔
      S.val < subOrder ∧ S.val • BASE8 = R8 + lib.challenge A R8 M • 8 • A :=
    fun S => accepts_enabled_iff bits curve mulBase mulKey signature
  refine ⟨characterised, ?_, ?_⟩
  · intro first second firstAccepted secondAccepted
    obtain ⟨firstLt, firstAnswers⟩ := (characterised first).mp firstAccepted
    obtain ⟨secondLt, secondAnswers⟩ := (characterised second).mp secondAccepted
    apply ZMod.val_injective fieldOrder
    exact nsmul_BASE8_injOn firstLt secondLt (firstAnswers.trans secondAnswers.symm)
  · intro S
    rw [accepts_iff bits curve mulBase mulKey signature]
    exact and_iff_left (.inl rfl)

end Spec

section Sample

/-- The hash that is signed in the sample of the encryption circuit. -/
def signedHash : Fr :=
  DAEncrypt.samplePoseidon ![(69 : ℕ), 0]

/-- Its signature is accepted, so it answers the challenge, and no other is accepted. -/
theorem signedHash_accepted :
    Accepts (Circomlib.reference DAEncrypt.samplePoseidon) BASE8.coords (8 • BASE8).coords 1
        (signedMessage DAEncrypt.samplePoseidon signedHash).S (0, 1) signedHash ∧
      (signedMessage DAEncrypt.samplePoseidon signedHash).S.val • BASE8 =
        0 + (Circomlib.reference DAEncrypt.samplePoseidon).challenge BASE8 0 signedHash •
          8 • BASE8 ∧
      (∀ S, Accepts (Circomlib.reference DAEncrypt.samplePoseidon) BASE8.coords
        (8 • BASE8).coords 1 S (0, 1) signedHash →
          S = (signedMessage DAEncrypt.samplePoseidon signedHash).S) := by
  have accepted : Accepts (Circomlib.reference DAEncrypt.samplePoseidon) BASE8.coords
      (8 • BASE8).coords 1 (signedMessage DAEncrypt.samplePoseidon signedHash).S
      (0 : BabyPoint).coords signedHash :=
    ⟨signedMessage DAEncrypt.samplePoseidon signedHash, satisfies_signedMessage _ _,
      rfl, rfl, rfl, rfl⟩
  have verified := verifier_exact (Circomlib.reference_bitSpec DAEncrypt.samplePoseidon)
    (Circomlib.reference_curveSpec _) (Circomlib.reference_escalarMulFixSpec _ BASE8)
    (Circomlib.reference_escalarMulFixSpec _ (8 • BASE8)) (Circomlib.reference_signatureSpec _) 0
    signedHash
  exact ⟨accepted, ((verified.1 _).mp accepted).2,
    fun S other => verified.2.1 S _ other accepted⟩

end Sample

end EdDSAFixedPubkey

end IdHub
