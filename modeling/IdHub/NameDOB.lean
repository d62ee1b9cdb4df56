import IdHub.V3Credential

/-!
# The name and date of birth circuit

`V3NameDOB.circom` publishes a name and a date of birth.  They reach the credential hash
by way of two more hashes, the one over the name and the one over name, date of birth,
address and expiration date that the credential's second custom field holds.  So a
signed credential hash has one name and one date of birth.
-/

namespace IdHub

open BitSums

namespace NameDOB

structure Inputs where
  pubKeyX : Fr
  pubKeyY : Fr
  R8x : Fr
  R8y : Fr
  S : Fr
  nullifierSecretKey : Fr
  iat : Fr
  expiry : Fr
  scope : Fr
  customFields : Fin 2 → Fr
  firstName : Fr
  middleName : Fr
  lastName : Fr
  dob : Fr
  city : Fr
  subdivision : Fr
  zip : Fr
  streetNumber : Fr
  streetName : Fr
  streetUnit : Fr
  expirationDate : Fr

/-- All signals; a component is represented by its signals or its output. -/
structure Signals extends Inputs where
  issuerAddress : Fr
  v3 : V3.Signals
  nameHash : Fr
  streetHash : Fr
  addressHash : Fr
  nameDobCitySubdivisionZipStreetExpireHash : Fr

structure Satisfies (lib : Circomlib) (w : Signals) : Prop where
  v3 : V3.Satisfies lib w.v3
  v3_inputs : w.v3.toInputs =
    { pubKeyX := w.pubKeyX, pubKeyY := w.pubKeyY, R8x := w.R8x, R8y := w.R8y,
      S := w.S, nullifierSecretKey := w.nullifierSecretKey, iat := w.iat,
      expiry := w.expiry, scope := w.scope, customFields := w.customFields }
  issuerAddress : w.issuerAddress = w.v3.issuerAddress
  nameHash : w.nameHash = lib.Poseidon ![w.firstName, w.middleName, w.lastName]
  streetHash : w.streetHash = lib.Poseidon ![w.streetNumber, w.streetName, w.streetUnit]
  addressHash :
    w.addressHash = lib.Poseidon ![w.city, w.subdivision, w.zip, w.streetHash]
  nameDobCitySubdivisionZipStreetExpireHash :
    w.nameDobCitySubdivisionZipStreetExpireHash =
      lib.Poseidon ![w.nameHash, w.dob, w.addressHash, w.expirationDate]
  customFields_one : w.nameDobCitySubdivisionZipStreetExpireHash = w.customFields 1

namespace Signals

variable (w : Signals)

/-- What `nameHash` is the hash of. -/
def name : Fin 3 → Fr := ![w.firstName, w.middleName, w.lastName]

/-- What the second custom field is the hash of. -/
def person : Fin 4 → Fr := ![w.nameHash, w.dob, w.addressHash, w.expirationDate]

/-- What the credential hash is the hash of. -/
def credential : Fin 6 → Fr :=
  ![w.issuerAddress, w.v3.signedNullifier, w.customFields ⟨0, Nat.two_pos⟩,
    w.customFields ⟨1, Nat.one_lt_two⟩, w.iat, w.scope]

end Signals

variable {lib : Circomlib} {w first second : Signals}

theorem Satisfies.credentialHash (satisfied : Satisfies lib w) :
    w.v3.createCredentialHash = lib.Poseidon w.credential := by
  rw [satisfied.v3.createCredentialHash, satisfied.v3_inputs, Signals.credential,
    satisfied.issuerAddress, satisfied.v3.issuerAddress]
  rfl

theorem Satisfies.personHash (satisfied : Satisfies lib w) :
    w.customFields 1 = lib.Poseidon w.person :=
  satisfied.customFields_one.symm.trans satisfied.nameDobCitySubdivisionZipStreetExpireHash

theorem Satisfies.expiry_window (bits : lib.BitSpec) (satisfied : Satisfies lib w) :
    (w.expiry - w.iat).val ≤ 31536000 := by
  have window := satisfied.v3.expiry_window bits
  rwa [satisfied.v3_inputs] at window

/-- Two proofs from one credential hash publish one name, one date of birth and one
issuer, and expire at most a year after the one issuance. -/
theorem publicValues_determined (bits : lib.BitSpec) (firstSatisfied : Satisfies lib first)
    (secondSatisfied : Satisfies lib second)
    (credentials : lib.CollisionFree [first.credential, second.credential])
    (people : lib.CollisionFree [first.person, second.person])
    (names : lib.CollisionFree [first.name, second.name])
    (sameHash : first.v3.createCredentialHash = second.v3.createCredentialHash) :
    first.firstName = second.firstName ∧ first.lastName = second.lastName ∧
      first.dob = second.dob ∧ first.issuerAddress = second.issuerAddress ∧
      first.iat = second.iat ∧ (first.expiry - first.iat).val ≤ 31536000 ∧
      (second.expiry - second.iat).val ≤ 31536000 := by
  rw [firstSatisfied.credentialHash, secondSatisfied.credentialHash] at sameHash
  have sameCredential := credentials _ (by simp) _ (by simp) sameHash
  have sameField : first.customFields 1 = second.customFields 1 :=
    congrFun sameCredential 3
  rw [firstSatisfied.personHash, secondSatisfied.personHash] at sameField
  have samePerson := people _ (by simp) _ (by simp) sameField
  have sameNameHash : first.nameHash = second.nameHash := congrFun samePerson 0
  rw [firstSatisfied.nameHash, secondSatisfied.nameHash] at sameNameHash
  have sameName := names first.name (by simp) second.name (by simp) sameNameHash
  exact ⟨congrFun sameName 0, congrFun sameName 2, congrFun samePerson 1,
    congrFun sameCredential 0, congrFun sameCredential 4,
    firstSatisfied.expiry_window bits, secondSatisfied.expiry_window bits⟩

section Sample

def samplePoseidon {n : ℕ} (inputs : Fin n → Fr) : Fr :=
  Circomlib.poseidonTable
    [([BASE8.x.val, BASE8.y.val],
        14272291464647171305716854857059671144399282343430425676437089353517494350488),
      ([123, V3.issuanceSalt.val],
        1654172193490521401821042153878741762526176957397015785075642139888467004076),
      ([3, 4, 5],
        16070431878087339506657234884858910435593423055199073760739081656581316900759),
      ([7, 8, 9],
        17240825104446005415992782388236651642996747967972426512161664040777295791190),
      ([10, 11, 12,
          17240825104446005415992782388236651642996747967972426512161664040777295791190],
        20313025644985324662631569632231165260957482209431093478778972883279153712244),
      ([16070431878087339506657234884858910435593423055199073760739081656581316900759, 6,
          20313025644985324662631569632231165260957482209431093478778972883279153712244, 13],
        17959768461495257903812397655064492617254241726931553024501020105786140459327),
      ([14272291464647171305716854857059671144399282343430425676437089353517494350488,
          1654172193490521401821042153878741762526176957397015785075642139888467004076, 1,
          17959768461495257903812397655064492617254241726931553024501020105786140459327,
          1716062050, 0],
        14481950452685110011747626289849793357229003048951290020453448066297611994770),
      ([0, 1, BASE8.x.val, BASE8.y.val,
          14481950452685110011747626289849793357229003048951290020453448066297611994770],
        1085400143115103823628277443117093901695349697525734403929870337645055263439)]
    inputs

def sampleNameHash : Fr := samplePoseidon ![((3 : ℕ) : Fr), ((4 : ℕ) : Fr), ((5 : ℕ) : Fr)]

def sampleStreetHash : Fr :=
  samplePoseidon ![((7 : ℕ) : Fr), ((8 : ℕ) : Fr), ((9 : ℕ) : Fr)]

def sampleAddressHash : Fr :=
  samplePoseidon ![((10 : ℕ) : Fr), ((11 : ℕ) : Fr), ((12 : ℕ) : Fr), sampleStreetHash]

def samplePersonHash : Fr :=
  samplePoseidon ![sampleNameHash, ((6 : ℕ) : Fr), sampleAddressHash, ((13 : ℕ) : Fr)]

/-- The credential of `3 4 5`, born on `6`, presented with an expiry `age` seconds after
the issuance. -/
def sampleCredential (age : ℕ) : V3.Signals :=
  { V3.signedCredential samplePoseidon (123 : ℕ) (1 : ℕ) samplePersonHash (1716062050 : ℕ) with
    expiry := ((1716062050 : ℕ) : Fr) + (age : Fr)
    n2b := digits Fr 25 age }

def sampleProof (age : ℕ) : Signals where
  pubKeyX := (sampleCredential age).pubKeyX
  pubKeyY := (sampleCredential age).pubKeyY
  R8x := (sampleCredential age).R8x
  R8y := (sampleCredential age).R8y
  S := (sampleCredential age).S
  nullifierSecretKey := (123 : ℕ)
  iat := (1716062050 : ℕ)
  expiry := (sampleCredential age).expiry
  scope := (sampleCredential age).scope
  customFields := ![(1 : ℕ), samplePersonHash]
  firstName := (3 : ℕ)
  middleName := (4 : ℕ)
  lastName := (5 : ℕ)
  dob := (6 : ℕ)
  city := (10 : ℕ)
  subdivision := (11 : ℕ)
  zip := (12 : ℕ)
  streetNumber := (7 : ℕ)
  streetName := (8 : ℕ)
  streetUnit := (9 : ℕ)
  expirationDate := (13 : ℕ)
  issuerAddress := (sampleCredential age).issuerAddress
  v3 := sampleCredential age
  nameHash := sampleNameHash
  streetHash := sampleStreetHash
  addressHash := sampleAddressHash
  nameDobCitySubdivisionZipStreetExpireHash := samplePersonHash

theorem satisfies_sampleCredential {age : ℕ} (young : age ≤ 31536000) :
    V3.Satisfies (Circomlib.reference samplePoseidon) (sampleCredential age) := by
  have issued := V3.satisfies_signedCredential samplePoseidon ((123 : ℕ) : Fr) ((1 : ℕ) : Fr)
    samplePersonHash ((1716062050 : ℕ) : Fr)
  have bits := Circomlib.reference_bitSpec samplePoseidon
  have elapsed : (sampleCredential age).expiry - (sampleCredential age).iat = (age : Fr) :=
    add_sub_cancel_left _ _
  have value : ((age : ℕ) : Fr).val = age := by
    apply ZMod.val_natCast_of_lt
    exact young.trans_lt (by norm_num)
  have components := (V3.expiry_components_iff bits (age : Fr)).mpr (by rwa [value])
  exact
    { issued with
      n2b := by
        rw [elapsed]
        exact ⟨isBit_digits _ _, ringSum_digits (by omega)⟩
      lt := by
        rw [elapsed]
        exact components.2 }

theorem satisfies_sampleProof {age : ℕ} (young : age ≤ 31536000) :
    Satisfies (Circomlib.reference samplePoseidon) (sampleProof age) where
  v3 := satisfies_sampleCredential young
  v3_inputs := rfl
  issuerAddress := rfl
  nameHash := rfl
  streetHash := rfl
  addressHash := rfl
  nameDobCitySubdivisionZipStreetExpireHash := rfl
  customFields_one := rfl

/-- Two proofs from the sample credential, one of which expires at once. -/
theorem sampleProof_determined :
    (sampleProof 31536000).firstName = (sampleProof 0).firstName ∧
      (sampleProof 31536000).lastName = (sampleProof 0).lastName ∧
      (sampleProof 31536000).dob = (sampleProof 0).dob ∧
      (sampleProof 31536000).issuerAddress = (sampleProof 0).issuerAddress ∧
      (sampleProof 31536000).iat = (sampleProof 0).iat ∧
      ((sampleProof 31536000).expiry - (sampleProof 31536000).iat).val ≤ 31536000 ∧
      ((sampleProof 0).expiry - (sampleProof 0).iat).val ≤ 31536000 :=
  publicValues_determined (Circomlib.reference_bitSpec samplePoseidon)
    (satisfies_sampleProof le_rfl) (satisfies_sampleProof (Nat.zero_le _))
    (by decide +kernel) (by decide +kernel) (by decide +kernel) rfl

end Sample

end NameDOB

end IdHub
