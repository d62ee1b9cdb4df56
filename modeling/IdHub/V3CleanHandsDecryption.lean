import IdHub.ElGamalTemplates
import IdHub.UntwistedBabyJubJub
import IdHub.V3CleanHands

/-!
# The ciphertexts of the clean-hands circuit decrypt

Whichever decomposition of the nonce a prover chooses, both multiplications use it, so a
ciphertext opens to its message point.  `EscalarMulAny` answers with the neutral point
for a key with `x = 0`, which is right for multiples of `BASE8`: of those only the
neutral point has `x = 0`.
-/

namespace IdHub

open BitSums TwistedEdwards

/-- Of the multiples of `BASE8` only the neutral point has `x = 0`. -/
theorem nsmul_BASE8_eq_zero {secret : ℕ} (xZero : (secret • BASE8).x = 0) :
    secret • BASE8 = 0 := by
  have inside := BabyPoint.InSubgroup.nsmul subOrder_nsmul_BASE8 secret
  exact inside.eq_zero xZero

namespace EncryptElGamal

variable {lib : Circomlib} {w : Signals}

theorem VariablePubkey.encrypts (bits : lib.BitSpec) (curve : lib.CurveSpec) {secret : ℕ}
    (satisfied : VariablePubkey lib (secret • BASE8).coords w) :
    ∃ M : BabyPoint, M.coords = w.messageAsPoint ∧
      w.c1 = (w.scalar • BASE8).coords ∧
      w.c2 = (M + w.scalar • secret • BASE8).coords := by
  obtain ⟨M, message⟩ := curve.exists_point satisfied.checkOnCurve
  refine ⟨M, message, satisfied.c1_eq bits curve, satisfied.c2_eq curve message ?_⟩
  rw [curve.escalarMulAny (satisfied.areBits bits) satisfied.getSharedSecret]
  split
  · next xZero =>
      rw [nsmul_BASE8_eq_zero xZero, smul_zero]
      rfl
  · rfl

end EncryptElGamal

namespace V3CleanHands

variable {lib : Circomlib} {w : Signals}

/-- Who knows the secret key `x` of `encryptedTo = x B` finds the message point of a
ciphertext `(c1, c2)` as `c2 - x c1`, on the untwisted curve. -/
theorem encryptions_decrypt (bits : lib.BitSpec) (curve : lib.CurveSpec)
    (satisfied : Satisfies lib w) {secret : ℕ}
    (key : w.encryptedTo = (secret • BASE8).coords) (i : Fin 3) :
    ∃ c1 c2 message : UntwistedPoint, c1.coords = (w.encryptions i).1 ∧
      c2.coords = (w.encryptions i).2 ∧ message.coords = w.msgsAsPoints i ∧
      c2 - secret • c1 = message := by
  have encryptor := satisfied.encryptors i
  rw [key] at encryptor
  obtain ⟨M, message, c1, c2⟩ := encryptor.encrypts bits curve
  refine ⟨((w.encryptors i).scalar • BASE8).untwist,
    (M + (w.encryptors i).scalar • secret • BASE8).untwist, M.untwist, ?_, ?_, ?_, ?_⟩
  · rw [satisfied.encryptions, satisfied.toUntwisted_c1, c1]
    exact BabyPoint.coords_untwist _
  · rw [satisfied.encryptions, satisfied.toUntwisted_c2, c2]
    exact BabyPoint.coords_untwist _
  · rw [BabyPoint.coords_untwist, message, satisfied.encryptors_messageAsPoint,
      satisfied.toTwisted, untwisted_twisted]
  · rw [map_add, ← map_nsmul, smul_comm secret, add_sub_cancel_right]

/-- Put points of the subgroup in place of the messages and encrypt them with given nonces
to the key of `secret`. -/
def Signals.encrypting (w : Signals) (secret : ℕ) (messages : Fin 3 → BabyPoint)
    (nonces : Fin 3 → ℕ) : Signals :=
  let encryptors := fun i =>
    EncryptElGamal.encryption (secret • BASE8) (messages i) (nonces i)
  { w with
    encryptedTo := (secret • BASE8).coords
    ephemeralSecretKey := fun i => (nonces i : Fr)
    msgsAsPoints := fun i => twistedToUntwisted (messages i).coords
    toTwisted := fun i => (messages i).coords
    encryptors := encryptors
    toUntwisted := fun i =>
      ![twistedToUntwisted (encryptors i).c1, twistedToUntwisted (encryptors i).c2]
    encryptions := fun i =>
      (twistedToUntwisted (encryptors i).c1, twistedToUntwisted (encryptors i).c2) }

theorem Satisfies.encrypting (bits : lib.BitSpec) (curve : lib.CurveSpec)
    (mulBase : lib.EscalarMulFixSpec BASE8) (mulAny : lib.EscalarMulAnySpec)
    (satisfied : Satisfies lib w) (secret : ℕ) {messages : Fin 3 → BabyPoint}
    (inSubgroup : ∀ i, (messages i).InSubgroup) {nonces : Fin 3 → ℕ}
    (small : ∀ i, nonces i < 2 ^ 254) :
    Satisfies lib (w.encrypting secret messages nonces) :=
  { satisfied with
    toTwisted := fun _ => (twisted_untwisted _).symm
    encryptors := fun i => by
      have key := BabyPoint.InSubgroup.nsmul subOrder_nsmul_BASE8 secret
      exact EncryptElGamal.satisfies_encryption bits curve mulBase mulAny
        (EncryptElGamal.multiplies_variable mulAny key) (.inr (inSubgroup i)) (small i)
    encryptors_y := fun _ => rfl
    encryptors_messageAsPoint := fun _ => rfl
    toUntwisted_c1 := fun _ => rfl
    toUntwisted_c2 := fun _ => rfl
    encryptions := fun _ => rfl }

/-- The sample's messages are `BASE8`, encrypted with the nonces `1`, `2` and `3` to the key
of the secret `2`; the second ciphertext opens. -/
theorem sampleAssignment_decrypts :
    ∃ c1 c2 message : UntwistedPoint, c1.coords = twistedToUntwisted (2 • BASE8).coords ∧
      c2.coords = twistedToUntwisted (BASE8 + 2 • 2 • BASE8).coords ∧
      message.coords = twistedToUntwisted BASE8.coords ∧ c2 - 2 • c1 = message := by
  have bits := Circomlib.reference_bitSpec samplePoseidon
  have curve := Circomlib.reference_curveSpec samplePoseidon
  have small : ∀ i : Fin 3, i.val + 1 < 2 ^ 254 := by decide
  have satisfied := satisfies_sampleAssignment.encrypting bits curve
    (Circomlib.reference_escalarMulFixSpec samplePoseidon BASE8)
    (reference_escalarMulAnySpec samplePoseidon) 2 (fun _ => subOrder_nsmul_BASE8) small
  exact encryptions_decrypt bits curve satisfied rfl 1

end V3CleanHands

end IdHub
