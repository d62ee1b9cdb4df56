import IdHub.DAEncryptGadgets
import IdHub.ElGamalTemplates

/-!
# The data-availability encryption circuit

`daEncrypt.circom` announces that a PRF value `p` is added to every message
before encryption, so that the key holders cannot decrypt without it.  The
circuit computes the sum with `pointAdders`, but hands `msgAsPoint` itself to
`encryptors`; the ciphertext opens to the bare message.
-/

namespace IdHub

open BitSums TwistedEdwards

namespace DAEncrypt

/-- The signals of `DAEncrypt(n, …)`; `hash` and `pointAdders` are the outputs
of the components of those names. -/
structure Signals (n : ℕ) where
  accessControlLogic : Fr
  encryptWithNonce : Fin n → Fr
  msgAsPoint : Fin n → Fr × Fr
  msg : Fin n → Fr
  encryptions : Fin n → (Fr × Fr) × (Fr × Fr)
  commitments : Fin n → Fr × Fr
  rnd : Fin n → Fr
  prfIn : Fin n → Fr
  prfOutAsPoint : Fin n → Fr × Fr
  prfOut : Fin n → Fr
  S : Fin n → Fr
  R8x : Fin n → Fr
  R8y : Fin n → Fr
  sigVerifiers : Fin n → EdDSAFixedPubkey.Signals
  hash : Fin n → Fr
  pointAdders : Fin n → Fr × Fr
  encryptors : Fin n → EncryptElGamal.Signals
  commitors : Fin n → PedersenCommitFixed.Signals

structure Parameters where
  prfPubkey : Fr × Fr
  prfPubkey8 : Fr × Fr
  mpcPubkey : BabyPoint
  pedersenA : Fr × Fr
  pedersenB : Fr × Fr

/-- The constraints of one pass through the loop. -/
structure SatisfiesMessage (lib : Circomlib) (parameters : Parameters) {n : ℕ}
    (w : Signals n) (i : Fin n) : Prop where
  prfOut : PointToMsg lib (w.prfOutAsPoint i) (w.prfOut i)
  msg : PointToMsg lib (w.msgAsPoint i) (w.msg i)
  sigVerifiers : EdDSAFixedPubkey.Satisfies lib parameters.prfPubkey
    parameters.prfPubkey8 (w.sigVerifiers i)
  sigVerifiers_enabled : (w.sigVerifiers i).enabled = 1
  sigVerifiers_R8x : (w.sigVerifiers i).R8x = w.R8x i
  sigVerifiers_R8y : (w.sigVerifiers i).R8y = w.R8y i
  sigVerifiers_S : (w.sigVerifiers i).S = w.S i
  hash : w.hash i = Hash lib ![w.prfIn i, w.prfOut i]
  sigVerifiers_M : (w.sigVerifiers i).M = w.hash i
  pointAdders : lib.BabyAdd (w.prfOutAsPoint i).1 (w.prfOutAsPoint i).2
    (w.msgAsPoint i).1 (w.msgAsPoint i).2 (w.pointAdders i).1 (w.pointAdders i).2
  encryptors : EncryptElGamal.FixedPubkey lib parameters.mpcPubkey.coords
    (w.encryptors i)
  encryptors_y : (w.encryptors i).y = w.encryptWithNonce i
  encryptors_messageAsPoint : (w.encryptors i).messageAsPoint = w.msgAsPoint i
  encryptions : w.encryptions i = ((w.encryptors i).c1, (w.encryptors i).c2)
  commitors : PedersenCommitFixed.Satisfies lib parameters.pedersenA
    parameters.pedersenB (w.commitors i)
  commitors_msg : (w.commitors i).msg = w.msg i
  commitors_rnd : (w.commitors i).rnd = w.rnd i
  commitments : w.commitments i = (w.commitors i).commitment

/-- The constraints of `DAEncrypt(n, …)`. -/
structure Satisfies (lib : Circomlib) (parameters : Parameters) {n : ℕ}
    (w : Signals n) : Prop where
  accessControlLogic : w.accessControlLogic * 0 = 0
  message : ∀ i, SatisfiesMessage lib parameters w i

/-- The ciphertext of message `i` opens to the curve sum of the message and its
PRF value, the point that `pointAdders[i]` outputs. -/
def EncryptsMessagePlusPrf (parameters : Parameters) {n : ℕ} (w : Signals n)
    (i : Fin n) : Prop :=
  ∃ (k : ℕ) (message prf : BabyPoint), (k : Fr) = w.encryptWithNonce i ∧
    message.coords = w.msgAsPoint i ∧ prf.coords = w.prfOutAsPoint i ∧
    (message + prf).coords = w.pointAdders i ∧
    w.encryptions i = ((k • BASE8).coords,
      (message + prf + k • parameters.mpcPubkey).coords)

variable {lib : Circomlib} {parameters : Parameters} {n : ℕ} {w : Signals n}

theorem SatisfiesMessage.encrypts_message (bits : lib.BitSpec)
    (curve : lib.CurveSpec) {i : Fin n}
    (satisfied : SatisfiesMessage lib parameters w i) :
    ∃ (k : ℕ) (message : BabyPoint), (k : Fr) = w.encryptWithNonce i ∧
      message.coords = w.msgAsPoint i ∧
      w.encryptions i = ((k • BASE8).coords,
        (message + k • parameters.mpcPubkey).coords) := by
  obtain ⟨message, coords, c1, c2⟩ := satisfied.encryptors.encrypts bits curve
  refine ⟨(w.encryptors i).scalar, message, ?_, ?_, ?_⟩
  · rw [← satisfied.encryptors_y]
    exact satisfied.encryptors.cast_scalar bits
  · rw [coords, satisfied.encryptors_messageAsPoint]
  · rw [satisfied.encryptions, c1, c2]

theorem SatisfiesMessage.plusPrf_iff (bits : lib.BitSpec) (curve : lib.CurveSpec)
    (member : parameters.mpcPubkey.InSubgroup) {i : Fin n}
    (satisfied : SatisfiesMessage lib parameters w i) :
    EncryptsMessagePlusPrf parameters w i ↔ w.prfOutAsPoint i = (0, 1) := by
  obtain ⟨k, message, cast, coords, encrypted⟩ :=
    satisfied.encrypts_message bits curve
  constructor
  · rintro ⟨k', message', prf, -, coords', prfCoords, -, encrypted'⟩
    have sameMessage : message' = message :=
      BabyPoint.coords_injective (coords'.trans coords.symm)
    subst sameMessage
    rw [encrypted] at encrypted'
    have sameNonce : k • BASE8 = k' • BASE8 :=
      BabyPoint.coords_injective (congrArg Prod.fst encrypted')
    have sameSum : message' + k • parameters.mpcPubkey =
        message' + prf + k' • parameters.mpcPubkey :=
      BabyPoint.coords_injective (congrArg Prod.snd encrypted')
    rw [member.nsmul_eq sameNonce] at sameSum
    have neutral : prf = 0 := by
      have cancelled := add_right_cancel sameSum
      exact left_eq_add.mp cancelled
    rw [← prfCoords, neutral]
    rfl
  · intro neutral
    refine ⟨k, message, 0, cast, coords, neutral.symm, ?_, ?_⟩
    · have added := satisfied.pointAdders
      rw [neutral, ← coords] at added
      have sum := (curve.babyAdd_points (P := 0)).mp added
      rw [add_comm]
      exact sum.symm
    · rw [add_zero, encrypted]

/-- A satisfied circuit encrypts the message plus the PRF value exactly when
the PRF value is the neutral point, that is, when it hides nothing. -/
theorem encryptsMessagePlusPrf_iff (bits : lib.BitSpec) (curve : lib.CurveSpec)
    (member : parameters.mpcPubkey.InSubgroup)
    (satisfied : Satisfies lib parameters w) (i : Fin n) :
    EncryptsMessagePlusPrf parameters w i ↔ w.prfOutAsPoint i = (0, 1) :=
  (satisfied.message i).plusPrf_iff bits curve member

section Sample

def samplePoseidon {n : ℕ} (inputs : Fin n → Fr) : Fr :=
  Circomlib.poseidonTable
    [([69, 0],
        4382392797704465458689681080471165211673027182585861305038077659483609552615),
      ([0, 1, BASE8.x.val, BASE8.y.val,
          4382392797704465458689681080471165211673027182585861305038077659483609552615],
        4331267498196037107824100611976373793305444105608313484743618656304326942450),
      ([69, 5175409414689014923471548421404586943635619601748801654381368305158907228],
        19969304299832592009402218085227977748445835917286236063280050500967826461032),
      ([0, 1, BASE8.x.val, BASE8.y.val,
          19969304299832592009402218085227977748445835917286236063280050500967826461032],
        4100455810396110729365196470478363009841447548018547845336012083762788928900)]
    inputs

def sampleParameters : Parameters where
  prfPubkey := BASE8.coords
  prfPubkey8 := (8 • BASE8).coords
  mpcPubkey := BASE8
  pedersenA := BASE8.coords
  pedersenB := BASE8.coords

/-- Encrypting a message point, which is taken to decode to `number`, with the nonce `1`
under a signed PRF value. -/
def sampleAssignment (message : BabyPoint) (number : ℕ) (prf : BabyPoint) : Signals 1 :=
  let prfOut : Fr := ((prf.x.val / 1024 : ℕ) : Fr)
  let signature := signedMessage samplePoseidon (samplePoseidon ![(69 : ℕ), prfOut])
  { accessControlLogic := 0
    encryptWithNonce := fun _ => ((1 : ℕ) : Fr)
    msgAsPoint := fun _ => message.coords
    msg := fun _ => (number : Fr)
    encryptions := fun _ => ((1 • BASE8).coords, (message + 1 • BASE8).coords)
    commitments := fun _ => (number • BASE8).coords
    rnd := fun _ => 0
    prfIn := fun _ => (69 : ℕ)
    prfOutAsPoint := fun _ => prf.coords
    prfOut := fun _ => prfOut
    S := fun _ => signature.S
    R8x := fun _ => 0
    R8y := fun _ => 1
    sigVerifiers := fun _ => signature
    hash := fun _ => samplePoseidon ![(69 : ℕ), prfOut]
    pointAdders := fun _ => (prf + message).coords
    encryptors := fun _ => EncryptElGamal.encryption BASE8 message 1
    commitors := fun _ => commitmentTo BASE8 number }

theorem satisfies_sampleAssignment {message : BabyPoint} {number : ℕ}
    (member : message.InSubgroup) (bounded : number < 2 ^ 254)
    (decoded : PointToMsg (Circomlib.reference samplePoseidon) message.coords number)
    (prf : BabyPoint) :
    Satisfies (Circomlib.reference samplePoseidon) sampleParameters
      (sampleAssignment message number prf) := by
  have mulBase : (Circomlib.reference samplePoseidon).EscalarMulFixSpec BASE8 :=
    Circomlib.reference_escalarMulFixSpec samplePoseidon BASE8
  refine ⟨mul_zero _, fun _ => ?_⟩
  exact
    { prfOut := pointToMsg_canonical samplePoseidon prf.coords
      msg := decoded
      sigVerifiers := satisfies_signedMessage samplePoseidon _
      sigVerifiers_enabled := rfl
      sigVerifiers_R8x := rfl
      sigVerifiers_R8y := rfl
      sigVerifiers_S := rfl
      hash := rfl
      sigVerifiers_M := rfl
      pointAdders := (Circomlib.reference_curveSpec samplePoseidon).babyAdd_coords.mpr rfl
      encryptors :=
        EncryptElGamal.satisfies_encryption (Circomlib.reference_bitSpec samplePoseidon)
          (Circomlib.reference_curveSpec samplePoseidon) mulBase
          (reference_escalarMulAnySpec samplePoseidon)
          (EncryptElGamal.multiplies_fixed mulBase) (.inr member) (by norm_num)
      encryptors_y := rfl
      encryptors_messageAsPoint := rfl
      encryptions := rfl
      commitors := satisfies_commitmentTo samplePoseidon BASE8 BASE8 bounded
      commitors_msg := rfl
      commitors_rnd := rfl
      commitments := rfl }

theorem satisfies_canonicalAssignment {message : BabyPoint} (member : message.InSubgroup)
    (prf : BabyPoint) :
    Satisfies (Circomlib.reference samplePoseidon) sampleParameters
      (sampleAssignment message (message.x.val / 1024) prf) := by
  have bounded : message.x.val < 2 ^ 254 := val_lt_two_pow message.x
  have small : message.x.val / 1024 < 2 ^ 254 := by omega
  exact satisfies_sampleAssignment member small
    (pointToMsg_canonical samplePoseidon message.coords) prf

theorem encryptsMessagePlusPrf_neutral :
    EncryptsMessagePlusPrf sampleParameters
      (sampleAssignment BASE8 (BASE8.x.val / 1024) 0) 0 := by
  have member : sampleParameters.mpcPubkey.InSubgroup := subOrder_nsmul_BASE8
  exact (encryptsMessagePlusPrf_iff (Circomlib.reference_bitSpec samplePoseidon)
    (Circomlib.reference_curveSpec samplePoseidon) member
    (satisfies_canonicalAssignment subOrder_nsmul_BASE8 0) 0).mpr rfl

/-- With the PRF value `BASE8` the constraints are satisfied, but the
ciphertext does not open to the sum. -/
theorem prf_not_encrypted :
    Satisfies (Circomlib.reference samplePoseidon) sampleParameters
        (sampleAssignment BASE8 (BASE8.x.val / 1024) BASE8) ∧
      ¬ EncryptsMessagePlusPrf sampleParameters
        (sampleAssignment BASE8 (BASE8.x.val / 1024) BASE8) 0 := by
  have satisfied := satisfies_canonicalAssignment subOrder_nsmul_BASE8 BASE8
  refine ⟨satisfied, ?_⟩
  intro encrypts
  have member : sampleParameters.mpcPubkey.InSubgroup := subOrder_nsmul_BASE8
  have neutral := ((satisfied.message 0).plusPrf_iff
    (Circomlib.reference_bitSpec samplePoseidon)
    (Circomlib.reference_curveSpec samplePoseidon) member).mp encrypts
  have isZero : BASE8.coords = (0 : BabyPoint).coords := neutral
  exact BASE8_ne_zero (BabyPoint.coords_injective isZero)

end Sample

end DAEncrypt

end IdHub
