import IdHub.SybilResistance
import IdHub.V3CleanHands

/-!
# One credential, one nullifier per action

`SybilResistance` and `V3CleanHands` publish the same function of the credential's
secret and the action.  The credential hash determines the secret, by way of the
signed nullifier, so two proofs from one credential for one action publish one
nullifier, whichever circuits they use.
-/

namespace IdHub

namespace ActionNullifier

/-- An assignment of either circuit. -/
inductive Assignment where
  | sybilResistance (w : SybilResistance.Signals)
  | cleanHands (w : V3CleanHands.Signals)

namespace Assignment

def Satisfies (lib : Circomlib) : Assignment → Prop
  | .sybilResistance w => SybilResistance.Satisfies lib w
  | .cleanHands w => V3CleanHands.Satisfies lib w

def v3 : Assignment → V3.Signals
  | .sybilResistance w => w.v3
  | .cleanHands w => w.v3

/-- The inputs that the circuit has in common with `V3`. -/
def inputs : Assignment → V3.Inputs
  | .sybilResistance w =>
    { pubKeyX := w.pubKeyX, pubKeyY := w.pubKeyY, R8x := w.R8x, R8y := w.R8y, S := w.S,
      nullifierSecretKey := w.nullifierSecretKey, iat := w.iat, expiry := w.expiry,
      scope := w.scope, customFields := w.customFields }
  | .cleanHands w =>
    { pubKeyX := w.pubKeyX, pubKeyY := w.pubKeyY, R8x := w.R8x, R8y := w.R8y, S := w.S,
      nullifierSecretKey := w.nullifierSecretKey, iat := w.iat, expiry := w.expiry,
      scope := w.scope, customFields := w.customFields }

def actionId : Assignment → Fr
  | .sybilResistance w => w.actionId
  | .cleanHands w => w.actionId

def actionNullifier : Assignment → Fr
  | .sybilResistance w => w.actionNullifier
  | .cleanHands w => w.actionNullifier

def issuerAddress : Assignment → Fr
  | .sybilResistance w => w.issuerAddress
  | .cleanHands w => w.issuerAddress

/-- What the secret is hashed with: the salt for the signed nullifier, and the
action for the published one. -/
def secretHashes (assignment : Assignment) : List (Fin 2 → Fr) :=
  [![assignment.inputs.nullifierSecretKey, V3.issuanceSalt],
    ![assignment.inputs.nullifierSecretKey, assignment.actionId]]

/-- What the credential hash is made of. -/
def credential (assignment : Assignment) : Fin 6 → Fr :=
  ![assignment.issuerAddress, assignment.v3.signedNullifier,
    assignment.inputs.customFields ⟨0, Nat.two_pos⟩,
    assignment.inputs.customFields ⟨1, Nat.one_lt_two⟩,
    assignment.inputs.iat, assignment.inputs.scope]

variable {lib : Circomlib} {assignment first second : Assignment}

theorem Satisfies.v3 (satisfied : assignment.Satisfies lib) :
    V3.Satisfies lib assignment.v3 := by
  cases assignment with
  | sybilResistance w => exact SybilResistance.Satisfies.v3 satisfied
  | cleanHands w => exact V3CleanHands.Satisfies.v3 satisfied

theorem Satisfies.v3_inputs (satisfied : assignment.Satisfies lib) :
    assignment.v3.toInputs = assignment.inputs := by
  cases assignment with
  | sybilResistance w => exact SybilResistance.Satisfies.v3_inputs satisfied
  | cleanHands w => exact V3CleanHands.Satisfies.v3_inputs satisfied

theorem Satisfies.issuerAddress (satisfied : assignment.Satisfies lib) :
    assignment.issuerAddress = assignment.v3.addressFromPubKey := by
  have address := satisfied.v3.issuerAddress
  cases assignment with
  | sybilResistance w => exact (SybilResistance.Satisfies.issuerAddress satisfied).trans address
  | cleanHands w => exact (V3CleanHands.Satisfies.issuerAddress satisfied).trans address

theorem Satisfies.signedNullifier (satisfied : assignment.Satisfies lib) :
    assignment.v3.signedNullifier =
      lib.Poseidon ![assignment.inputs.nullifierSecretKey, V3.issuanceSalt] := by
  rw [satisfied.v3.signedNullifier, satisfied.v3.saltForIssuance, satisfied.v3_inputs]

theorem Satisfies.credentialHash (satisfied : assignment.Satisfies lib) :
    assignment.v3.createCredentialHash = lib.Poseidon assignment.credential := by
  rw [satisfied.v3.createCredentialHash, satisfied.v3_inputs, credential,
    satisfied.issuerAddress]
  rfl

theorem Satisfies.actionNullifier (satisfied : assignment.Satisfies lib) :
    assignment.actionNullifier =
      lib.Poseidon ![assignment.inputs.nullifierSecretKey, assignment.actionId] := by
  cases assignment with
  | sybilResistance w =>
      exact (SybilResistance.Satisfies.actionNullifier satisfied).trans
        (SybilResistance.Satisfies.createActionNullifier satisfied)
  | cleanHands w =>
      exact (V3CleanHands.Satisfies.actionNullifier satisfied).trans
        (V3CleanHands.Satisfies.createActionNullifier satisfied)

end Assignment

open Assignment

variable {lib : Circomlib} {first second : Assignment}

/-- A credential hash is that of one credential. -/
theorem credential_eq (firstSatisfied : first.Satisfies lib)
    (secondSatisfied : second.Satisfies lib)
    (collisionFree : lib.CollisionFree [first.credential, second.credential])
    (sameHash : first.v3.createCredentialHash = second.v3.createCredentialHash) :
    first.credential = second.credential := by
  rw [firstSatisfied.credentialHash, secondSatisfied.credentialHash] at sameHash
  exact collisionFree _ (by simp) _ (by simp) sameHash

/-- A signed nullifier is that of one secret. -/
theorem secret_eq (firstSatisfied : first.Satisfies lib)
    (secondSatisfied : second.Satisfies lib)
    (collisionFree : lib.CollisionFree (first.secretHashes ++ second.secretHashes))
    (sameNullifier : first.v3.signedNullifier = second.v3.signedNullifier) :
    first.inputs.nullifierSecretKey = second.inputs.nullifierSecretKey := by
  rw [firstSatisfied.signedNullifier, secondSatisfied.signedNullifier] at sameNullifier
  have sameInputs := collisionFree _ (by simp [secretHashes]) _ (by simp [secretHashes])
    sameNullifier
  exact congrFun sameInputs 0

/-- Two proofs from one credential for one action publish one nullifier, and two that
publish one nullifier know one secret and are for one action. -/
theorem actionNullifier_determined (firstSatisfied : first.Satisfies lib)
    (secondSatisfied : second.Satisfies lib)
    (secrets : lib.CollisionFree (first.secretHashes ++ second.secretHashes))
    (credentials : lib.CollisionFree [first.credential, second.credential]) :
    (first.v3.createCredentialHash = second.v3.createCredentialHash →
      first.actionId = second.actionId →
        first.actionNullifier = second.actionNullifier ∧
          first.issuerAddress = second.issuerAddress ∧
          first.inputs.iat = second.inputs.iat ∧
          first.inputs.scope = second.inputs.scope ∧
          first.inputs.customFields = second.inputs.customFields) ∧
    (first.actionNullifier = second.actionNullifier →
      first.inputs.nullifierSecretKey = second.inputs.nullifierSecretKey ∧
        first.actionId = second.actionId) := by
  constructor
  · intro sameHash sameAction
    have sameCredential :=
      credential_eq firstSatisfied secondSatisfied credentials sameHash
    have sameNullifier : first.v3.signedNullifier = second.v3.signedNullifier :=
      congrFun sameCredential 1
    have sameSecret := secret_eq firstSatisfied secondSatisfied secrets sameNullifier
    refine ⟨?_, congrFun sameCredential 0, congrFun sameCredential 4,
      congrFun sameCredential 5, ?_⟩
    · rw [firstSatisfied.actionNullifier, secondSatisfied.actionNullifier, sameSecret,
        sameAction]
    · funext field
      fin_cases field
      · exact congrFun sameCredential 2
      · exact congrFun sameCredential 3
  · intro sameNullifier
    rw [firstSatisfied.actionNullifier, secondSatisfied.actionNullifier] at sameNullifier
    have sameInputs := secrets _ (by simp [secretHashes]) _ (by simp [secretHashes])
      sameNullifier
    exact ⟨congrFun sameInputs 0, congrFun sameInputs 1⟩

section Sample

open V3CleanHands

/-- A proof of the other circuit from the credential of the clean-hands sample, for
the same action and another recipient. -/
def sampleSybilResistance : SybilResistance.Signals :=
  SybilResistance.ofCredential samplePoseidon sampleCredential (8 : ℕ) (7 : ℕ)

theorem satisfies_sampleSybilResistance :
    Assignment.Satisfies (Circomlib.reference samplePoseidon)
      (.sybilResistance sampleSybilResistance) :=
  SybilResistance.satisfies_ofCredential
    (V3.satisfies_signedCredential samplePoseidon _ _ _ _) _ _

theorem sample_actionNullifier_eq :
    sampleAssignment.actionNullifier = sampleSybilResistance.actionNullifier := by
  have cleanHands : Assignment.Satisfies (Circomlib.reference samplePoseidon)
      (.cleanHands sampleAssignment) := satisfies_sampleAssignment
  have determined := actionNullifier_determined cleanHands satisfies_sampleSybilResistance
    (by decide +kernel) (by decide +kernel)
  exact (determined.1 rfl rfl).1

end Sample

end ActionNullifier

end IdHub
