import IdHub.ElGamalEncryption
import IdHub.V3Credential

/-!
# The clean-hands circuit

`V3CleanHands.circom` encrypts three message points to an auditor's key and is
meant to tie them to the names and the birthdate of a signed credential.  The
masked `y`-coordinate that should do so is assigned with `<--`, which emits no
constraint, so every satisfied assignment can be changed into one whose points
encode something else.
-/

namespace IdHub

open BitSums

namespace V3CleanHands

structure Inputs where
  encryptedTo : Fr × Fr
  ephemeralSecretKey : Fin 3 → Fr
  pubKeyX : Fr
  pubKeyY : Fr
  R8x : Fr
  R8y : Fr
  S : Fr
  nullifierSecretKey : Fr
  iat : Fr
  expiry : Fr
  scope : Fr
  customFields : Fin 2 → Fr
  firstName : Fr
  lastName : Fr
  birthdate : Fr
  recipient : Fr
  actionId : Fr

/-- All signals.  A component is represented by its signals or its output, and
`toUntwisted i j` is the output of `toUntwisted[2 * i + j]`. -/
structure Signals extends Inputs where
  msgsAsPoints : Fin 3 → Fr × Fr
  actionNullifier : Fr
  issuerAddress : Fr
  encryptions : Fin 3 → (Fr × Fr) × (Fr × Fr)
  twentyFourBytes : Fr
  v3 : V3.Signals
  nameHash : Fr
  createActionNullifier : Fr
  recipientSquared : Fr
  msgs : Fin 3 → Fr
  firstTwentyFourBytesOfY : Fin 3 → Fr
  toTwisted : Fin 3 → Fr × Fr
  encryptors : Fin 3 → EncryptElGamal.Signals
  toUntwisted : Fin 3 → Fin 2 → Fr × Fr

/-- The emitted constraints.  The hint
`firstTwentyFourBytesOfY[i] <-- msgsAsPoints[i][1] & twentyFourBytes` emits
none. -/
structure Satisfies (lib : Circomlib) (w : Signals) : Prop where
  twentyFourBytes : w.twentyFourBytes = 2 ^ 192 - 1
  v3 : V3.Satisfies lib w.v3
  v3_inputs : w.v3.toInputs =
    { pubKeyX := w.pubKeyX, pubKeyY := w.pubKeyY, R8x := w.R8x, R8y := w.R8y,
      S := w.S, nullifierSecretKey := w.nullifierSecretKey, iat := w.iat,
      expiry := w.expiry, scope := w.scope, customFields := w.customFields }
  issuerAddress : w.issuerAddress = w.v3.issuerAddress
  nameHash : w.nameHash = lib.Poseidon ![w.firstName, w.lastName]
  customFields_one : w.customFields 1 = w.nameHash
  createActionNullifier :
    w.createActionNullifier = lib.Poseidon ![w.nullifierSecretKey, w.actionId]
  actionNullifier : w.actionNullifier = w.createActionNullifier
  recipientSquared : w.recipientSquared = w.recipient * w.recipient
  msgs : w.msgs = ![w.firstName, w.lastName, w.birthdate]
  msgs_eq : ∀ i, w.msgs i = w.firstTwentyFourBytesOfY i
  toTwisted : ∀ i, w.toTwisted i = untwistedToTwisted (w.msgsAsPoints i)
  encryptors : ∀ i,
    EncryptElGamal.VariablePubkey lib w.encryptedTo (w.encryptors i)
  encryptors_y : ∀ i, (w.encryptors i).y = w.ephemeralSecretKey i
  encryptors_messageAsPoint : ∀ i, (w.encryptors i).messageAsPoint = w.toTwisted i
  toUntwisted_c1 : ∀ i, w.toUntwisted i 0 = twistedToUntwisted (w.encryptors i).c1
  toUntwisted_c2 : ∀ i, w.toUntwisted i 1 = twistedToUntwisted (w.encryptors i).c2
  encryptions : ∀ i, w.encryptions i = (w.toUntwisted i 0, w.toUntwisted i 1)

/-- The rightmost 24 bytes of every point's `y`-coordinate are the message. -/
def PlaintextBinding (w : Signals) : Prop :=
  ∀ i, (w.msgsAsPoints i).2.val % 2 ^ 192 = (w.msgs i).val

/-- Put the points `(0, y i)` in place of the messages and recompute the
signals that depend on them. -/
def Signals.withPoints (w : Signals) (y : Fin 3 → Fr) : Signals :=
  let encryptors := fun i => (w.encryptors i).withMessage (y i)
  let toUntwisted := fun i =>
    ![w.toUntwisted i 0, twistedToUntwisted (encryptors i).c2]
  { w with
    msgsAsPoints := fun i => (0, y i)
    toTwisted := fun i => (0, y i)
    encryptors := encryptors
    toUntwisted := toUntwisted
    encryptions := fun i => (toUntwisted i 0, toUntwisted i 1) }

variable {lib : Circomlib} {w : Signals}

theorem Satisfies.withPoints (curve : lib.CurveSpec) (satisfied : Satisfies lib w)
    {y : Fin 3 → Fr} (unit : ∀ i, y i ^ 2 = 1) : Satisfies lib (w.withPoints y) :=
  { satisfied with
    toTwisted := fun i => by
      change ((0 : Fr), y i) = (0 * invSqrtA, y i)
      rw [zero_mul]
    encryptors := fun i =>
      EncryptElGamal.Satisfies.withMessage curve (satisfied.encryptors i) (unit i)
    encryptors_messageAsPoint := fun _ => rfl
    toUntwisted_c2 := fun _ => rfl
    encryptions := fun _ => rfl }

/-- One of the two `y`-coordinates `1` and `-1` differs from a given message in
its low 24 bytes. -/
def mismatch (msg : Fr) : Fr := if msg.val = 1 then -1 else 1

theorem mismatch_sq (msg : Fr) : mismatch msg ^ 2 = 1 := by
  unfold mismatch
  split <;> ring

theorem mismatch_low_bytes (msg : Fr) :
    (mismatch msg).val % 2 ^ 192 ≠ msg.val := by
  unfold mismatch
  split
  · rename_i one
    rw [one]
    decide +kernel
  · rename_i other
    intro equal
    apply other
    rw [← equal]
    decide +kernel

/-- Every satisfied assignment has a companion that differs from it in the
points only and encodes none of the messages. -/
theorem Satisfies.exists_unbound (curve : lib.CurveSpec)
    (satisfied : Satisfies lib w) : ∃ forged : Signals, Satisfies lib forged ∧
      forged.toInputs = w.toInputs ∧ forged.msgs = w.msgs ∧
      ∀ i, (forged.msgsAsPoints i).2.val % 2 ^ 192 ≠ (forged.msgs i).val :=
  ⟨w.withPoints fun i => mismatch (w.msgs i),
    satisfied.withPoints curve fun i => mismatch_sq (w.msgs i), rfl, rfl,
    fun i => mismatch_low_bytes (w.msgs i)⟩

/-- Whatever the inputs other than the points, the constraints bind the
plaintext only if they cannot be satisfied with these inputs at all. -/
theorem plaintextBinding_iff_unsatisfiable (curve : lib.CurveSpec)
    (inputs : Inputs) :
    (∀ w : Signals, Satisfies lib w → w.toInputs = inputs → PlaintextBinding w) ↔
      ¬ ∃ w : Signals, Satisfies lib w ∧ w.toInputs = inputs := by
  constructor
  · rintro binds ⟨w, satisfied, rfl⟩
    obtain ⟨forged, forgedSatisfied, sameInputs, -, unbound⟩ :=
      satisfied.exists_unbound curve
    exact unbound 0 (binds forged forgedSatisfied sameInputs 0)
  · intro unsatisfiable w satisfied sameInputs
    exact (unsatisfiable ⟨w, satisfied, sameInputs⟩).elim

def samplePoseidon {n : ℕ} (inputs : Fin n → Fr) : Fr :=
  Circomlib.poseidonTable
    [([BASE8.x.val, BASE8.y.val],
        14272291464647171305716854857059671144399282343430425676437089353517494350488),
      ([123, V3.issuanceSalt.val],
        1654172193490521401821042153878741762526176957397015785075642139888467004076),
      ([3, 4],
        14763215145315200506921711489642608356394854266165572616578112107564877678998),
      ([123, 7],
        19497813612076989852037534265392609421042349251596659954700771315190596097361),
      ([14272291464647171305716854857059671144399282343430425676437089353517494350488,
          1654172193490521401821042153878741762526176957397015785075642139888467004076,
          5,
          14763215145315200506921711489642608356394854266165572616578112107564877678998,
          1716062050, 0],
        10415020716833497545678315506063882937701815015419174971966757855988595886107),
      ([0, 1, BASE8.x.val, BASE8.y.val,
          10415020716833497545678315506063882937701815015419174971966757855988595886107],
        7459752579216392935860889417865608908380291262730238570525404440884791334204)]
    inputs

/-- The credential of someone named `3`, `4` and born on `5`. -/
def sampleCredential : V3.Signals :=
  V3.signedCredential samplePoseidon (123 : ℕ) (5 : ℕ) (samplePoseidon ![(3 : ℕ), (4 : ℕ)])
    (1716062050 : ℕ)

/-- An assignment whose three message points are neutral: their
`y`-coordinate `1` encodes neither `3` nor `4` nor `5`. -/
def sampleAssignment : Signals where
  encryptedTo := BASE8.coords
  ephemeralSecretKey _ := 0
  pubKeyX := sampleCredential.pubKeyX
  pubKeyY := sampleCredential.pubKeyY
  R8x := sampleCredential.R8x
  R8y := sampleCredential.R8y
  S := sampleCredential.S
  nullifierSecretKey := (123 : ℕ)
  iat := (1716062050 : ℕ)
  expiry := sampleCredential.expiry
  scope := 0
  customFields := ![(5 : ℕ), samplePoseidon ![(3 : ℕ), (4 : ℕ)]]
  firstName := (3 : ℕ)
  lastName := (4 : ℕ)
  birthdate := (5 : ℕ)
  recipient := (6 : ℕ)
  actionId := (7 : ℕ)
  msgsAsPoints _ := (0, 1)
  actionNullifier := samplePoseidon ![(123 : ℕ), (7 : ℕ)]
  issuerAddress := sampleCredential.issuerAddress
  encryptions _ := ((0, 1), (0, 1))
  twentyFourBytes := (2 ^ 192 - 1 : ℕ)
  v3 := sampleCredential
  nameHash := samplePoseidon ![(3 : ℕ), (4 : ℕ)]
  createActionNullifier := samplePoseidon ![(123 : ℕ), (7 : ℕ)]
  recipientSquared := (6 : ℕ) * (6 : ℕ)
  msgs := ![(3 : ℕ), (4 : ℕ), (5 : ℕ)]
  firstTwentyFourBytesOfY := ![(3 : ℕ), (4 : ℕ), (5 : ℕ)]
  toTwisted _ := (0, 1)
  encryptors _ := EncryptElGamal.neutralEncryption
  toUntwisted _ _ := (0, 1)

theorem neutral_untwisted : ((0 : Fr), (1 : Fr)) = twistedToUntwisted (0, 1) := by
  rw [twistedToUntwisted, zero_mul]

theorem satisfies_sampleAssignment :
    Satisfies (Circomlib.reference samplePoseidon) sampleAssignment where
  twentyFourBytes := by decide +kernel
  v3 := V3.satisfies_signedCredential samplePoseidon _ _ _ _
  v3_inputs := rfl
  issuerAddress := rfl
  nameHash := rfl
  customFields_one := rfl
  createActionNullifier := rfl
  actionNullifier := rfl
  recipientSquared := rfl
  msgs := rfl
  msgs_eq _ := rfl
  toTwisted _ := by
    change ((0 : Fr), (1 : Fr)) = (0 * invSqrtA, 1)
    rw [zero_mul]
  encryptors _ := by
    refine EncryptElGamal.satisfies_neutralEncryption samplePoseidon
      ⟨BASE8, rfl, isBit_digits 254 0, ?_⟩
    rw [EncryptElGamal.natSum_digits_zero, zero_nsmul]
    split <;> rfl
  encryptors_y _ := rfl
  encryptors_messageAsPoint _ := rfl
  toUntwisted_c1 _ := neutral_untwisted
  toUntwisted_c2 _ := neutral_untwisted
  encryptions _ := rfl

theorem sampleAssignment_not_bound :
    Satisfies (Circomlib.reference samplePoseidon) sampleAssignment ∧
      ¬ PlaintextBinding sampleAssignment := by
  refine ⟨satisfies_sampleAssignment, fun binds => ?_⟩
  have first : (1 : Fr).val % 2 ^ 192 = ((3 : ℕ) : Fr).val := binds 0
  revert first
  decide +kernel

theorem sampleInputs_not_binding :
    ¬ ∀ w : Signals, Satisfies (Circomlib.reference samplePoseidon) w →
      w.toInputs = sampleAssignment.toInputs → PlaintextBinding w := by
  rw [plaintextBinding_iff_unsatisfiable
    (Circomlib.reference_curveSpec samplePoseidon), not_not]
  exact ⟨sampleAssignment, satisfies_sampleAssignment, rfl⟩

end V3CleanHands

end IdHub
