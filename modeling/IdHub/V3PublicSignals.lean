import IdHub.CredentialLeaves
import IdHub.EdDSAVerification
import IdHub.ElGamalTemplates
import IdHub.NameDOB
import IdHub.SybilResistance
import IdHub.TwistedIsomorphism
import IdHub.V3CleanHandsDecryption
import IdHub.V3Expiry

/-!
# What the public signals of the V3 circuits say

A verifier sees the public signals only.  For each circuit these are exactly the ones that
go with some credential that the issuer has signed and whose year is not over at the chosen
expiry.  The recipient can be anything, and so can the ciphertexts of the clean-hands
circuit, except for the point of order two.
-/

namespace IdHub

open BitSums TwistedEdwards

namespace BabyPoint.InSubgroup

variable {P Q : BabyPoint}

theorem add (first : P.InSubgroup) (second : Q.InSubgroup) : (P + Q).InSubgroup := by
  rw [InSubgroup, smul_add, first, second, add_zero]

theorem sub (first : P.InSubgroup) (second : Q.InSubgroup) : (P - Q).InSubgroup := by
  rw [InSubgroup, smul_sub, first, second, sub_zero]

/-- A point of the subgroup is a multiple of `BASE8` by a number of 254 bits. -/
theorem exists_nonce (member : P.InSubgroup) : ∃ k : ℕ, k < 2 ^ 254 ∧ P = k • BASE8 := by
  obtain ⟨multiple, rfl⟩ := inSubgroup_iff.mp member
  have nonneg : 0 ≤ multiple % (subOrder : ℤ) := Int.emod_nonneg multiple (by norm_num)
  have below : multiple % (subOrder : ℤ) < 2 ^ 254 :=
    (Int.emod_lt_of_pos multiple (by norm_num)).trans (by norm_num)
  refine ⟨(multiple % (subOrder : ℤ)).toNat, by omega, ?_⟩
  change multiple • BASE8 = _
  rw [← natCast_zsmul, Int.toNat_of_nonneg nonneg, ← addOrderOf_BASE8, mod_addOrderOf_zsmul]

end BabyPoint.InSubgroup

namespace V3

/-- What the issuer signs, and the secret behind it. -/
structure Credential where
  nullifierSecretKey : Fr
  customFields : Fin 2 → Fr
  iat : Fr
  scope : Fr

namespace Credential

def hash (lib : Circomlib) (credential : Credential) (issuerAddress : Fr) : Fr :=
  lib.Poseidon ![issuerAddress, lib.Poseidon ![credential.nullifierSecretKey, issuanceSalt],
    credential.customFields ⟨0, Nat.two_pos⟩, credential.customFields ⟨1, Nat.one_lt_two⟩,
    credential.iat, credential.scope]

/-- A key with this address has signed the credential. -/
def Signed (lib : Circomlib) (credential : Credential) (issuerAddress : Fr) : Prop :=
  ∃ pubKey : Fr × Fr, issuerAddress = lib.Poseidon ![pubKey.1, pubKey.2] ∧
    SignedBy lib pubKey (credential.hash lib issuerAddress)

/-- The expiry lies within the year after the issuance. -/
def Lasts (credential : Credential) (expiry : Fr) : Prop :=
  (expiry - credential.iat).val ≤ 31536000

end Credential

def Signals.credential (w : Signals) : Credential where
  nullifierSecretKey := w.nullifierSecretKey
  customFields := w.customFields
  iat := w.iat
  scope := w.scope

/-- The constraints of `V3` are satisfiable for the credential. -/
def Presents (lib : Circomlib) (credential : Credential) (issuerAddress expiry : Fr) : Prop :=
  ∃ w : Signals, Satisfies lib w ∧ w.credential = credential ∧
    w.issuerAddress = issuerAddress ∧ w.expiry = expiry

variable {lib : Circomlib}

theorem Satisfies.signed {w : Signals} (satisfied : Satisfies lib w) :
    w.credential.Signed lib w.issuerAddress := by
  refine ⟨(w.pubKeyX, w.pubKeyY), ?_, w.R8x, w.R8y, w.S, ?_⟩
  · exact satisfied.issuerAddress.trans satisfied.addressFromPubKey
  · have hashed : w.createCredentialHash = w.credential.hash lib w.issuerAddress := by
      rw [satisfied.createCredentialHash, satisfied.signedNullifier, satisfied.saltForIssuance,
        satisfied.issuerAddress]
      rfl
    rw [← hashed]
    exact satisfied.eddsaVerifier

/-- The signals of a prover who has a signature of the credential. -/
def Credential.signals (lib : Circomlib) (credential : Credential) (pubKey R8 : Fr × Fr)
    (S expiry : Fr) (n2b : Fin 25 → Fr) (lt : Fr) : Signals :=
  let issuerAddress := lib.Poseidon ![pubKey.1, pubKey.2]
  { pubKeyX := pubKey.1
    pubKeyY := pubKey.2
    R8x := R8.1
    R8y := R8.2
    S := S
    nullifierSecretKey := credential.nullifierSecretKey
    iat := credential.iat
    expiry := expiry
    scope := credential.scope
    customFields := credential.customFields
    issuerAddress := issuerAddress
    saltForIssuance := issuanceSalt
    signedNullifier := lib.Poseidon ![credential.nullifierSecretKey, issuanceSalt]
    addressFromPubKey := issuerAddress
    createCredentialHash := credential.hash lib issuerAddress
    n2b := n2b
    lt := lt }

theorem presents_iff (bits : lib.BitSpec) {credential : Credential} {issuerAddress expiry : Fr} :
    Presents lib credential issuerAddress expiry ↔
      credential.Signed lib issuerAddress ∧ credential.Lasts expiry := by
  constructor
  · rintro ⟨w, satisfied, rfl, rfl, rfl⟩
    exact ⟨satisfied.signed, (expiryComponents_iff bits _ _).mp satisfied.expiryComponents⟩
  · rintro ⟨⟨pubKey, rfl, R8x, R8y, S, verified⟩, lasts⟩
    obtain ⟨n2b, lt, decomposed, compared, isOne⟩ :=
      (expiryComponents_iff bits credential.iat expiry).mpr lasts
    refine ⟨credential.signals lib pubKey (R8x, R8y) S expiry n2b lt, ?_, rfl, rfl, rfl⟩
    exact
      { saltForIssuance := rfl
        signedNullifier := rfl
        addressFromPubKey := rfl
        issuerAddress := rfl
        createCredentialHash := rfl
        eddsaVerifier := verified
        n2b := decomposed
        lt := compared
        lt_out := isOne }

end V3

namespace SybilResistance

structure Public where
  recipient : Fr
  actionId : Fr
  expiry : Fr
  actionNullifier : Fr
  issuerAddress : Fr

def Signals.publicSignals (w : Signals) : Public where
  recipient := w.recipient
  actionId := w.actionId
  expiry := w.expiry
  actionNullifier := w.actionNullifier
  issuerAddress := w.issuerAddress

def Provable (lib : Circomlib) (signals : Public) : Prop :=
  ∃ w : Signals, Satisfies lib w ∧ w.publicSignals = signals

variable {lib : Circomlib}

theorem Satisfies.presents {w : Signals} (satisfied : Satisfies lib w) :
    V3.Presents lib w.v3.credential w.issuerAddress w.expiry :=
  ⟨w.v3, satisfied.v3, rfl, satisfied.issuerAddress.symm,
    congrArg V3.Inputs.expiry satisfied.v3_inputs⟩

theorem Satisfies.nullifier {w : Signals} (satisfied : Satisfies lib w) :
    w.actionNullifier = lib.Poseidon ![w.v3.credential.nullifierSecretKey, w.actionId] := by
  have sameSecret : w.v3.nullifierSecretKey = w.nullifierSecretKey :=
    congrArg V3.Inputs.nullifierSecretKey satisfied.v3_inputs
  rw [V3.Signals.credential, sameSecret]
  exact satisfied.actionNullifier.trans satisfied.createActionNullifier

/-- The public signals go with a signed credential of the issuer, whoever the recipient
is. -/
theorem provable_iff_signed (bits : lib.BitSpec) (signals : Public) :
    Provable lib signals ↔ ∃ credential : V3.Credential,
      credential.Signed lib signals.issuerAddress ∧ credential.Lasts signals.expiry ∧
      signals.actionNullifier =
        lib.Poseidon ![credential.nullifierSecretKey, signals.actionId] := by
  constructor
  · rintro ⟨w, satisfied, rfl⟩
    obtain ⟨signed, lasts⟩ := (V3.presents_iff bits).mp satisfied.presents
    exact ⟨w.v3.credential, signed, lasts, satisfied.nullifier⟩
  · rintro ⟨credential, signed, lasts, nullifier⟩
    obtain ⟨v3, satisfied, rfl, issuer, expires⟩ := (V3.presents_iff bits).mpr ⟨signed, lasts⟩
    obtain ⟨recipient, actionId, expiry, actionNullifier, issuerAddress⟩ := signals
    cases issuer
    cases expires
    change actionNullifier = lib.Poseidon ![v3.nullifierSecretKey, actionId] at nullifier
    subst nullifier
    refine ⟨ofCredential lib.Poseidon v3 recipient actionId, ?_, rfl⟩
    exact
      { v3 := satisfied
        v3_inputs := rfl
        issuerAddress := rfl
        createActionNullifier := rfl
        actionNullifier := rfl
        recipientSquared := rfl }

end SybilResistance

namespace NameDOB

structure Public where
  firstName : Fr
  lastName : Fr
  dob : Fr
  expiry : Fr
  issuerAddress : Fr

def Signals.publicSignals (w : Signals) : Public where
  firstName := w.firstName
  lastName := w.lastName
  dob := w.dob
  expiry := w.expiry
  issuerAddress := w.issuerAddress

def Provable (lib : Circomlib) (signals : Public) : Prop :=
  ∃ w : Signals, Satisfies lib w ∧ w.publicSignals = signals

variable {lib : Circomlib}

theorem Satisfies.presents {w : Signals} (satisfied : Satisfies lib w) :
    V3.Presents lib w.v3.credential w.issuerAddress w.expiry :=
  ⟨w.v3, satisfied.v3, rfl, satisfied.issuerAddress.symm,
    congrArg V3.Inputs.expiry satisfied.v3_inputs⟩

/-- The hash of the person whom a satisfying assignment names. -/
theorem Satisfies.named {w : Signals} (satisfied : Satisfies lib w) :
    w.v3.credential.customFields 1 = lib.Poseidon
      ![lib.Poseidon ![w.firstName, w.middleName, w.lastName], w.dob,
        lib.Poseidon ![w.city, w.subdivision, w.zip,
          lib.Poseidon ![w.streetNumber, w.streetName, w.streetUnit]], w.expirationDate] := by
  have sameFields : w.v3.customFields = w.customFields :=
    congrArg V3.Inputs.customFields satisfied.v3_inputs
  have hashed : w.v3.customFields 1 = lib.Poseidon w.person := by
    rw [sameFields, satisfied.personHash]
  rw [Signals.person, satisfied.nameHash, satisfied.addressHash, satisfied.streetHash] at hashed
  exact hashed

/-- The signals of a prover whose credential is about this person. -/
def ofCredential (lib : Circomlib) (v3 : V3.Signals)
    (firstName middleName lastName dob city subdivision zip streetNumber streetName streetUnit
      expirationDate : Fr) : Signals :=
  let nameHash := lib.Poseidon ![firstName, middleName, lastName]
  let streetHash := lib.Poseidon ![streetNumber, streetName, streetUnit]
  let addressHash := lib.Poseidon ![city, subdivision, zip, streetHash]
  { pubKeyX := v3.pubKeyX, pubKeyY := v3.pubKeyY, R8x := v3.R8x, R8y := v3.R8y, S := v3.S
    nullifierSecretKey := v3.nullifierSecretKey
    iat := v3.iat, expiry := v3.expiry, scope := v3.scope, customFields := v3.customFields
    firstName := firstName, middleName := middleName, lastName := lastName, dob := dob
    city := city, subdivision := subdivision, zip := zip, streetNumber := streetNumber
    streetName := streetName, streetUnit := streetUnit, expirationDate := expirationDate
    issuerAddress := v3.issuerAddress
    v3 := v3
    nameHash := nameHash
    streetHash := streetHash
    addressHash := addressHash
    nameDobCitySubdivisionZipStreetExpireHash :=
      lib.Poseidon ![nameHash, dob, addressHash, expirationDate] }

/-- The public signals go with a credential of the issuer whose second custom field is the
hash of the name and the date of birth with something else. -/
theorem provable_iff_named (bits : lib.BitSpec) (signals : Public) :
    Provable lib signals ↔ ∃ (credential : V3.Credential) (middleName city subdivision zip
        streetNumber streetName streetUnit expirationDate : Fr),
      credential.Signed lib signals.issuerAddress ∧ credential.Lasts signals.expiry ∧
      credential.customFields 1 = lib.Poseidon
        ![lib.Poseidon ![signals.firstName, middleName, signals.lastName], signals.dob,
          lib.Poseidon ![city, subdivision, zip,
            lib.Poseidon ![streetNumber, streetName, streetUnit]], expirationDate] := by
  constructor
  · rintro ⟨w, satisfied, rfl⟩
    obtain ⟨signed, lasts⟩ := (V3.presents_iff bits).mp satisfied.presents
    exact ⟨w.v3.credential, w.middleName, w.city, w.subdivision, w.zip, w.streetNumber,
      w.streetName, w.streetUnit, w.expirationDate, signed, lasts, satisfied.named⟩
  · rintro ⟨credential, middleName, city, subdivision, zip, streetNumber, streetName, streetUnit,
      expirationDate, signed, lasts, named⟩
    obtain ⟨v3, satisfied, rfl, issuer, expires⟩ := (V3.presents_iff bits).mpr ⟨signed, lasts⟩
    obtain ⟨firstName, lastName, dob, expiry, issuerAddress⟩ := signals
    cases issuer
    cases expires
    refine ⟨ofCredential lib v3 firstName middleName lastName dob city subdivision zip
      streetNumber streetName streetUnit expirationDate, ?_, rfl⟩
    exact
      { v3 := satisfied
        v3_inputs := rfl
        issuerAddress := rfl
        nameHash := rfl
        streetHash := rfl
        addressHash := rfl
        nameDobCitySubdivisionZipStreetExpireHash := rfl
        customFields_one := named.symm }

end NameDOB

namespace V3CleanHands

structure Public where
  encryptedTo : Fr × Fr
  recipient : Fr
  actionId : Fr
  expiry : Fr
  actionNullifier : Fr
  issuerAddress : Fr
  encryptions : Fin 3 → (Fr × Fr) × (Fr × Fr)

def Signals.publicSignals (w : Signals) : Public where
  encryptedTo := w.encryptedTo
  recipient := w.recipient
  actionId := w.actionId
  expiry := w.expiry
  actionNullifier := w.actionNullifier
  issuerAddress := w.issuerAddress
  encryptions := w.encryptions

def Provable (lib : Circomlib) (signals : Public) : Prop :=
  ∃ w : Signals, Satisfies lib w ∧ w.publicSignals = signals

/-- A pair of points of the subgroup, or one that opens to the point of order two. -/
def Admitted (secret : ℤ) (encryption : (Fr × Fr) × (Fr × Fr)) : Prop :=
  ∃ c1 c2 : BabyPoint, c1.InSubgroup ∧
    (c2.InSubgroup ∨ c2 - secret • c1 = BabyPoint.orderTwo) ∧
    encryption = (twistedToUntwisted c1.coords, twistedToUntwisted c2.coords)

variable {lib : Circomlib}

/-- What one of the three encryptors can output for a key of the subgroup. -/
theorem admitted_iff (bits : lib.BitSpec) (curve : lib.CurveSpec)
    (mulBase : lib.EscalarMulFixSpec BASE8) (mulAny : lib.EscalarMulAnySpec) {secret : ℤ}
    {encryption : (Fr × Fr) × (Fr × Fr)} :
    Admitted secret encryption ↔ ∃ w : EncryptElGamal.Signals,
      EncryptElGamal.VariablePubkey lib (secret • BASE8).coords w ∧
      encryption = (twistedToUntwisted w.c1, twistedToUntwisted w.c2) := by
  have inSubgroup := zsmul_BASE8_inSubgroup secret
  have key := EncryptElGamal.multiplies_variable mulAny inSubgroup
  constructor
  · rintro ⟨c1, c2, member, opens, rfl⟩
    obtain ⟨k, small, rfl⟩ := member.exists_nonce
    have checked : (c2 - k • secret • BASE8).x = 0 ∨ (c2 - k • secret • BASE8).InSubgroup := by
      rcases opens with inside | isTwo
      · exact .inr (inside.sub (inSubgroup.nsmul k))
      · rw [smul_comm, isTwo]
        exact .inl rfl
    have encrypts := (EncryptElGamal.encrypts_iff bits curve mulBase mulAny key).mpr
      ⟨k, c2 - k • secret • BASE8, small, rfl, rfl, checked, rfl, rfl⟩
    obtain ⟨w, satisfied, -, -, first, second⟩ := encrypts
    refine ⟨w, satisfied, ?_⟩
    rw [first, second, sub_add_cancel]
  · rintro ⟨w, satisfied, rfl⟩
    obtain ⟨k, message, -, -, -, checked, first, second⟩ :=
      (EncryptElGamal.encrypts_iff bits curve mulBase mulAny key).mp
        ⟨w, satisfied, rfl, rfl, rfl, rfl⟩
    refine ⟨k • BASE8, message + k • secret • BASE8, ?_, ?_, by rw [first, second]⟩
    · exact BabyPoint.InSubgroup.nsmul subOrder_nsmul_BASE8 k
    · rw [EncryptElGamal.decrypts]
      rcases checked with xZero | inside
      · rcases BabyPoint.eq_zero_or_orderTwo xZero with rfl | rfl
        · rw [zero_add]
          exact .inl (inSubgroup.nsmul k)
        · exact .inr rfl
      · exact .inl (inside.add (inSubgroup.nsmul k))

theorem Satisfies.presents {w : Signals} (satisfied : Satisfies lib w) :
    V3.Presents lib w.v3.credential w.issuerAddress w.expiry :=
  ⟨w.v3, satisfied.v3, rfl, satisfied.issuerAddress.symm,
    congrArg V3.Inputs.expiry satisfied.v3_inputs⟩

theorem Satisfies.nullifier {w : Signals} (satisfied : Satisfies lib w) :
    w.actionNullifier = lib.Poseidon ![w.v3.credential.nullifierSecretKey, w.actionId] := by
  have sameSecret : w.v3.nullifierSecretKey = w.nullifierSecretKey :=
    congrArg V3.Inputs.nullifierSecretKey satisfied.v3_inputs
  rw [V3.Signals.credential, sameSecret]
  exact satisfied.actionNullifier.trans satisfied.createActionNullifier

theorem Satisfies.named {w : Signals} (satisfied : Satisfies lib w) :
    w.v3.credential.customFields 1 = lib.Poseidon ![w.firstName, w.lastName] := by
  have sameFields : w.v3.customFields = w.customFields :=
    congrArg V3.Inputs.customFields satisfied.v3_inputs
  change w.v3.customFields 1 = _
  rw [sameFields, satisfied.customFields_one, satisfied.nameHash]

/-- The signals of a prover whose encryptors are independent of the credential. -/
def ofCredential (lib : Circomlib) (v3 : V3.Signals) (encryptedTo : Fr × Fr)
    (encryptors : Fin 3 → EncryptElGamal.Signals)
    (firstName lastName recipient actionId : Fr) : Signals where
  encryptedTo := encryptedTo
  ephemeralSecretKey i := (encryptors i).y
  pubKeyX := v3.pubKeyX
  pubKeyY := v3.pubKeyY
  R8x := v3.R8x
  R8y := v3.R8y
  S := v3.S
  nullifierSecretKey := v3.nullifierSecretKey
  iat := v3.iat
  expiry := v3.expiry
  scope := v3.scope
  customFields := v3.customFields
  firstName := firstName
  lastName := lastName
  birthdate := 0
  recipient := recipient
  actionId := actionId
  msgsAsPoints i := twistedToUntwisted (encryptors i).messageAsPoint
  actionNullifier := lib.Poseidon ![v3.nullifierSecretKey, actionId]
  issuerAddress := v3.issuerAddress
  encryptions i := (twistedToUntwisted (encryptors i).c1, twistedToUntwisted (encryptors i).c2)
  twentyFourBytes := (2 ^ 192 - 1 : ℕ)
  v3 := v3
  nameHash := lib.Poseidon ![firstName, lastName]
  createActionNullifier := lib.Poseidon ![v3.nullifierSecretKey, actionId]
  recipientSquared := recipient * recipient
  msgs := ![firstName, lastName, 0]
  firstTwentyFourBytesOfY := ![firstName, lastName, 0]
  toTwisted i := (encryptors i).messageAsPoint
  encryptors := encryptors
  toUntwisted i := ![twistedToUntwisted (encryptors i).c1, twistedToUntwisted (encryptors i).c2]

theorem satisfies_ofCredential {v3 : V3.Signals} {encryptedTo : Fr × Fr}
    {encryptors : Fin 3 → EncryptElGamal.Signals} {firstName lastName : Fr}
    (satisfied : V3.Satisfies lib v3)
    (named : v3.customFields 1 = lib.Poseidon ![firstName, lastName])
    (encrypts : ∀ i, EncryptElGamal.VariablePubkey lib encryptedTo (encryptors i))
    (recipient actionId : Fr) :
    Satisfies lib
      (ofCredential lib v3 encryptedTo encryptors firstName lastName recipient actionId) where
  twentyFourBytes := by
    change ((2 ^ 192 - 1 : ℕ) : Fr) = 2 ^ 192 - 1
    decide +kernel
  v3 := satisfied
  v3_inputs := rfl
  issuerAddress := rfl
  nameHash := rfl
  customFields_one := named
  createActionNullifier := rfl
  actionNullifier := rfl
  recipientSquared := rfl
  msgs := rfl
  msgs_eq _ := rfl
  toTwisted _ := (twisted_untwisted _).symm
  encryptors := encrypts
  encryptors_y _ := rfl
  encryptors_messageAsPoint _ := rfl
  toUntwisted_c1 _ := rfl
  toUntwisted_c2 _ := rfl
  encryptions _ := rfl

/-- The public signals go with a signed credential of the issuer that holds the hash of
some name; the ciphertexts are arbitrary pairs of points of the subgroup, or open to the
point of order two. -/
theorem provable_iff_admitted (bits : lib.BitSpec) (curve : lib.CurveSpec)
    (mulBase : lib.EscalarMulFixSpec BASE8) (mulAny : lib.EscalarMulAnySpec) (signals : Public)
    (secret : ℤ) (key : signals.encryptedTo = (secret • BASE8).coords) :
    Provable lib signals ↔
      (∃ (credential : V3.Credential) (firstName lastName : Fr),
        credential.Signed lib signals.issuerAddress ∧ credential.Lasts signals.expiry ∧
        signals.actionNullifier =
          lib.Poseidon ![credential.nullifierSecretKey, signals.actionId] ∧
        credential.customFields 1 = lib.Poseidon ![firstName, lastName]) ∧
      ∀ i, Admitted secret (signals.encryptions i) := by
  constructor
  · rintro ⟨w, satisfied, rfl⟩
    obtain ⟨signed, lasts⟩ := (V3.presents_iff bits).mp satisfied.presents
    constructor
    · exact ⟨w.v3.credential, w.firstName, w.lastName, signed, lasts, satisfied.nullifier,
        satisfied.named⟩
    · intro i
      have encryptor := satisfied.encryptors i
      rw [show w.encryptedTo = (secret • BASE8).coords from key] at encryptor
      refine (admitted_iff bits curve mulBase mulAny).mpr ⟨w.encryptors i, encryptor, ?_⟩
      rw [← satisfied.toUntwisted_c1, ← satisfied.toUntwisted_c2]
      exact satisfied.encryptions i
  · rintro ⟨⟨credential, firstName, lastName, signed, lasts, nullifier, named⟩, admitted⟩
    obtain ⟨v3, satisfied, rfl, issuer, expires⟩ := (V3.presents_iff bits).mpr ⟨signed, lasts⟩
    obtain ⟨encryptedTo, recipient, actionId, expiry, actionNullifier, issuerAddress,
      encryptions⟩ := signals
    cases issuer
    cases expires
    change actionNullifier = lib.Poseidon ![v3.nullifierSecretKey, actionId] at nullifier
    subst nullifier
    change encryptedTo = (secret • BASE8).coords at key
    subst key
    choose encryptors encrypts encrypted using
      fun i => (admitted_iff bits curve mulBase mulAny).mp (admitted i)
    refine ⟨ofCredential lib v3 _ encryptors firstName lastName recipient actionId,
      satisfies_ofCredential satisfied named encrypts recipient actionId, ?_⟩
    have isEncryption : (fun i => (twistedToUntwisted (encryptors i).c1,
        twistedToUntwisted (encryptors i).c2)) = encryptions :=
      funext fun i => (encrypted i).symm
    rw [← isEncryption]
    rfl

end V3CleanHands

section Sample

open V3CleanHands

theorem sampleCredential_signed :
    sampleCredential.credential.Signed (Circomlib.reference V3CleanHands.samplePoseidon)
      sampleCredential.issuerAddress :=
  (V3.satisfies_signedCredential V3CleanHands.samplePoseidon _ _ _ _).signed

theorem sampleCredential_lasts :
    sampleCredential.credential.Lasts (((1716062050 : ℕ) : Fr) + ((60 : ℕ) : Fr)) := by
  change (((1716062050 : ℕ) : Fr) + ((60 : ℕ) : Fr) - ((1716062050 : ℕ) : Fr)).val ≤ 31536000
  rw [V3.val_add_sub_self _ (by norm_num)]
  norm_num

/-- The credential of the clean-hands sample, shown for a minute to recipient `99`. -/
theorem sampleCredential_shown :
    SybilResistance.Provable (Circomlib.reference V3CleanHands.samplePoseidon)
      { recipient := (99 : ℕ)
        actionId := (7 : ℕ)
        expiry := (1716062050 : ℕ) + (60 : ℕ)
        actionNullifier := V3CleanHands.samplePoseidon ![((123 : ℕ) : Fr), ((7 : ℕ) : Fr)]
        issuerAddress := sampleCredential.issuerAddress } :=
  (SybilResistance.provable_iff_signed
    (Circomlib.reference_bitSpec V3CleanHands.samplePoseidon) _).mpr
      ⟨_, sampleCredential_signed, sampleCredential_lasts, rfl⟩

/-- The same credential with ciphertexts that have nothing to do with it. -/
theorem sampleCredential_mismatched :
    V3CleanHands.Provable (Circomlib.reference V3CleanHands.samplePoseidon)
      { encryptedTo := ((1 : ℤ) • BASE8).coords
        recipient := (99 : ℕ)
        actionId := (7 : ℕ)
        expiry := (1716062050 : ℕ) + (60 : ℕ)
        actionNullifier := V3CleanHands.samplePoseidon ![((123 : ℕ) : Fr), ((7 : ℕ) : Fr)]
        issuerAddress := sampleCredential.issuerAddress
        encryptions := fun _ =>
          (twistedToUntwisted BASE8.coords, twistedToUntwisted BASE8.coords) } := by
  apply (provable_iff_admitted (Circomlib.reference_bitSpec V3CleanHands.samplePoseidon)
    (Circomlib.reference_curveSpec _) (Circomlib.reference_escalarMulFixSpec _ _)
    (reference_escalarMulAnySpec _) _ 1 rfl).mpr
  constructor
  · exact ⟨_, (3 : ℕ), (4 : ℕ), sampleCredential_signed, sampleCredential_lasts, rfl, rfl⟩
  · intro i
    exact ⟨BASE8, BASE8, subOrder_nsmul_BASE8, .inl subOrder_nsmul_BASE8, rfl⟩

/-- The credential of `3 4 5`, shown at the end of its year. -/
theorem sampleProof_shown :
    NameDOB.Provable (Circomlib.reference NameDOB.samplePoseidon)
      { firstName := (3 : ℕ)
        lastName := (5 : ℕ)
        dob := (6 : ℕ)
        expiry := (1716062050 : ℕ) + (31536000 : ℕ)
        issuerAddress := (NameDOB.sampleCredential 0).issuerAddress } := by
  have satisfied := NameDOB.satisfies_sampleCredential (Nat.le_refl 31536000)
  have bits := Circomlib.reference_bitSpec NameDOB.samplePoseidon
  exact (NameDOB.provable_iff_named bits _).mpr
    ⟨_, (4 : ℕ), (10 : ℕ), (11 : ℕ), (12 : ℕ), (7 : ℕ), (8 : ℕ), (9 : ℕ), (13 : ℕ),
      satisfied.signed, satisfied.expiry_window bits, rfl⟩

end Sample

end IdHub
