import IdHub.Circomlib
import Mathlib.Data.Fin.VecNotation
import Mathlib.Tactic.IntervalCases

/-!
# The V3 credential circuit

`V3.circom` proves knowledge of an issuer-signed credential.  Its secret is
hashed with a fixed salt into the signed nullifier, the credential hash is
signed with EdDSA, and the chosen expiry lies at most one year after issuance.
The circuits `V3CleanHands`, `SybilResistance` and `NameDOB` all contain it.
-/

namespace IdHub

open BitSums

namespace V3

structure Inputs where
  pubKeyX : Fr
  pubKeyY : Fr
  R8x : Fr
  R8y : Fr
  S : Fr
  nullifierSecretKey : Fr
  iat : Fr
  expiry : Fr
  scope : Fr
  customFields : Fin 2 → Fr

/-- All signals of template `V3`; a component is represented by its output. -/
structure Signals extends Inputs where
  issuerAddress : Fr
  saltForIssuance : Fr
  signedNullifier : Fr
  addressFromPubKey : Fr
  createCredentialHash : Fr
  n2b : Fin 25 → Fr
  lt : Fr

/-- SHA256 of "Holonym Issuance". -/
def issuanceSalt : Fr :=
  0x194ee5653c27cb200f64d0bd1ade2b4734e3341ea37712c6a5a4bd30870c33f1

structure Satisfies (lib : Circomlib) (w : Signals) : Prop where
  saltForIssuance : w.saltForIssuance = issuanceSalt
  signedNullifier :
    w.signedNullifier = lib.Poseidon ![w.nullifierSecretKey, w.saltForIssuance]
  addressFromPubKey : w.addressFromPubKey = lib.Poseidon ![w.pubKeyX, w.pubKeyY]
  issuerAddress : w.issuerAddress = w.addressFromPubKey
  createCredentialHash : w.createCredentialHash =
    lib.Poseidon ![w.addressFromPubKey, w.signedNullifier, w.customFields 0,
      w.customFields 1, w.iat, w.scope]
  eddsaVerifier : lib.EdDSAPoseidonVerifier 1 w.pubKeyX w.pubKeyY w.R8x w.R8y w.S
    w.createCredentialHash
  n2b : lib.Num2Bits 25 (w.expiry - w.iat) w.n2b
  lt : lib.LessThan 25 (w.expiry - w.iat) 31536001 w.lt
  lt_out : w.lt = 1

/-- The two expiry components admit the ages of at most a year. -/
theorem expiry_components_iff {lib : Circomlib} (bits : lib.BitSpec) (age : Fr) :
    ((∃ n2b, lib.Num2Bits 25 age n2b) ∧ lib.LessThan 25 age 31536001 1) ↔
      age.val ≤ 31536000 := by
  have narrow : 2 ^ 25 ≤ fieldOrder := by norm_num
  have cast : ((age.val : ℕ) : Fr) = age := ZMod.natCast_zmod_val age
  rw [bits.lessThan_one_iff]
  constructor
  · rintro ⟨⟨n2b, decomposed⟩, difference, bounded, equal⟩
    have order : 2 ^ 27 < fieldOrder := by norm_num
    have small : age.val < 2 ^ 25 :=
      ((bits.num2Bits_narrow_iff narrow).mp decomposed).2 ▸ natSum_lt n2b
    have sums : ((age.val + 2 ^ 25 : ℕ) : Fr) = ((difference + 31536001 : ℕ) : Fr) := by
      push_cast
      rw [cast]
      linear_combination equal
    have naturals := cast_injOn_lt (by omega) (by omega) sums
    omega
  · intro young
    constructor
    · refine ⟨digits Fr 25 age.val, (bits.num2Bits_narrow_iff narrow).mpr ?_⟩
      exact ⟨isBit_digits _ _, natSum_digits age.val (by omega)⟩
    · refine ⟨age.val + 2 ^ 25 - 31536001, by omega, ?_⟩
      rw [Nat.cast_sub (by omega)]
      push_cast
      rw [cast]
      norm_num

/-- The expiry is at most a year after the issuance. -/
theorem Satisfies.expiry_window {lib : Circomlib} {w : Signals} (bits : lib.BitSpec)
    (satisfied : Satisfies lib w) : (w.expiry - w.iat).val ≤ 31536000 := by
  apply (expiry_components_iff bits _).mp
  have compared := satisfied.lt
  rw [satisfied.lt_out] at compared
  exact ⟨⟨w.n2b, satisfied.n2b⟩, compared⟩

end V3

theorem eight_BASE8_x_ne_zero : (8 • BASE8).x ≠ 0 := by
  have denotes := TwistedEdwards.Triple.Denotes.smul 4 8 (by norm_num)
    (TwistedEdwards.Triple.denotes_ofPoint BASE8)
  have computed : ((TwistedEdwards.Triple.ofPoint BASE8).smul babyJub 4 8).X ≠ 0 := by
    decide +kernel
  intro zero
  exact computed (by rw [denotes.X_eq, zero, zero_mul])

namespace V3

variable (poseidon : {n : ℕ} → (Fin n → Fr) → Fr)

def credentialHash (secret birthdate nameHash iat : Fr) : Fr :=
  poseidon ![poseidon ![BASE8.x, BASE8.y], poseidon ![secret, issuanceSalt],
    birthdate, nameHash, iat, 0]

/-- A credential signed by the issuer whose secret key is `1`, with nonce `0`,
and presented with the latest admissible expiry. -/
def signedCredential (secret birthdate nameHash iat : Fr) : Signals :=
  let hash := credentialHash poseidon secret birthdate nameHash iat
  { pubKeyX := BASE8.x
    pubKeyY := BASE8.y
    R8x := 0
    R8y := 1
    S := ((8 * (poseidon ![0, 1, BASE8.x, BASE8.y, hash]).val % subOrder : ℕ) : Fr)
    nullifierSecretKey := secret
    iat := iat
    expiry := iat + 31536000
    scope := 0
    customFields := ![birthdate, nameHash]
    issuerAddress := poseidon ![BASE8.x, BASE8.y]
    saltForIssuance := issuanceSalt
    signedNullifier := poseidon ![secret, issuanceSalt]
    addressFromPubKey := poseidon ![BASE8.x, BASE8.y]
    createCredentialHash := hash
    n2b := digits Fr 25 31536000
    lt := 1 }

theorem satisfies_signedCredential (secret birthdate nameHash iat : Fr) :
    Satisfies (Circomlib.reference poseidon)
      (signedCredential poseidon secret birthdate nameHash iat) where
  saltForIssuance := rfl
  signedNullifier := rfl
  addressFromPubKey := rfl
  issuerAddress := rfl
  createCredentialHash := rfl
  eddsaVerifier := by
    apply (Circomlib.reference_eddsaPoseidonVerifierSpec poseidon BASE8 0).mpr
    refine ⟨lt_of_eq_of_lt (response_val _) (response_lt _), eight_BASE8_x_ne_zero, ?_⟩
    rw [zero_add, ← response_nsmul_BASE8]
    exact congrArg (· • BASE8) (response_val _)
  n2b := by
    refine ⟨isBit_digits 25 31536000, ?_⟩
    change ringSum (digits Fr 25 31536000) = iat + 31536000 - iat
    rw [ringSum_digits (by norm_num)]
    push_cast
    ring
  lt := by
    apply (Circomlib.reference_bitSpec poseidon).lessThan_one_iff.mpr
    refine ⟨2 ^ 25 - 1, by norm_num, ?_⟩
    change iat + 31536000 - iat + 2 ^ 25 - 31536001 = _
    push_cast
    ring
  lt_out := rfl

end V3

end IdHub
