import IdHub.V3Credential

/-!
# The sybil-resistance circuit

`V3SybilResistance.circom` proves that a V3 credential exists and publishes the
action nullifier of its secret.
-/

namespace IdHub

namespace SybilResistance

structure Inputs where
  pubKeyX : Fr
  pubKeyY : Fr
  R8x : Fr
  R8y : Fr
  S : Fr
  nullifierSecretKey : Fr
  iat : Fr
  expiry : Fr
  scope : Fr
  customFields : Fin 2 → Fr
  recipient : Fr
  actionId : Fr

/-- All signals; a component is represented by its signals or its output. -/
structure Signals extends Inputs where
  actionNullifier : Fr
  issuerAddress : Fr
  v3 : V3.Signals
  createActionNullifier : Fr
  recipientSquared : Fr

structure Satisfies (lib : Circomlib) (w : Signals) : Prop where
  v3 : V3.Satisfies lib w.v3
  v3_inputs : w.v3.toInputs =
    { pubKeyX := w.pubKeyX, pubKeyY := w.pubKeyY, R8x := w.R8x, R8y := w.R8y,
      S := w.S, nullifierSecretKey := w.nullifierSecretKey, iat := w.iat,
      expiry := w.expiry, scope := w.scope, customFields := w.customFields }
  issuerAddress : w.issuerAddress = w.v3.issuerAddress
  createActionNullifier :
    w.createActionNullifier = lib.Poseidon ![w.nullifierSecretKey, w.actionId]
  actionNullifier : w.actionNullifier = w.createActionNullifier
  recipientSquared : w.recipientSquared = w.recipient * w.recipient

/-- The signals of a prover who holds the credential. -/
def ofCredential (poseidon : {n : ℕ} → (Fin n → Fr) → Fr) (v3 : V3.Signals)
    (recipient actionId : Fr) : Signals where
  pubKeyX := v3.pubKeyX
  pubKeyY := v3.pubKeyY
  R8x := v3.R8x
  R8y := v3.R8y
  S := v3.S
  nullifierSecretKey := v3.nullifierSecretKey
  iat := v3.iat
  expiry := v3.expiry
  scope := v3.scope
  customFields := v3.customFields
  recipient := recipient
  actionId := actionId
  actionNullifier := poseidon ![v3.nullifierSecretKey, actionId]
  issuerAddress := v3.issuerAddress
  v3 := v3
  createActionNullifier := poseidon ![v3.nullifierSecretKey, actionId]
  recipientSquared := recipient * recipient

theorem satisfies_ofCredential {poseidon : {n : ℕ} → (Fin n → Fr) → Fr}
    {v3 : V3.Signals} (satisfied : V3.Satisfies (Circomlib.reference poseidon) v3)
    (recipient actionId : Fr) :
    Satisfies (Circomlib.reference poseidon)
      (ofCredential poseidon v3 recipient actionId) where
  v3 := satisfied
  v3_inputs := rfl
  issuerAddress := rfl
  createActionNullifier := rfl
  actionNullifier := rfl
  recipientSquared := rfl

end SybilResistance

end IdHub
