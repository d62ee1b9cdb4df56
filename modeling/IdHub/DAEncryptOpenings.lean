import IdHub.EdDSAVerification
import IdHub.PedersenCommitment
import IdHub.V3PublicSignals

/-!
# What a proof of the data-availability circuit says about its messages

For given messages and commitment randomness, the public signals that `daEncrypt.circom`
admits are those whose ciphertexts the key holders open to the messages and whose
commitments have the decoded messages for their openings.  Beside that, and independently
of it, the PRF key has signed some value for `prfIn`; the access control logic is free.
-/

namespace IdHub

open BitSums TwistedEdwards

/-- A number of 254 bits is one of the decompositions of its residue. -/
theorem decomposition_cast {number : ℕ} (small : number < 2 ^ 254) :
    Decomposition (number : Fr) number := by
  have wide : 2 ^ 254 < 2 * fieldOrder := by norm_num
  by_cases reduced : number < fieldOrder
  · exact .inl (ZMod.val_natCast_of_lt reduced).symm
  · right
    refine ⟨?_, small⟩
    rw [ZMod.val_natCast, Nat.mod_eq_sub_mod (by omega), Nat.mod_eq_of_lt (by omega)]
    omega

namespace DAEncrypt

structure Public (n : ℕ) where
  accessControlLogic : Fr
  prfIn : Fin n → Fr
  encryptions : Fin n → (Fr × Fr) × (Fr × Fr)
  commitments : Fin n → Fr × Fr

def Signals.publicSignals {n : ℕ} (w : Signals n) : Public n where
  accessControlLogic := w.accessControlLogic
  prfIn := w.prfIn
  encryptions := w.encryptions
  commitments := w.commitments

/-- The public signals can be proved with these messages and this randomness. -/
def Provable (lib : Circomlib) (parameters : Parameters) {n : ℕ} (signals : Public n)
    (msgAsPoint : Fin n → Fr × Fr) (rnd : Fin n → Fr) : Prop :=
  ∃ w : Signals n, Satisfies lib parameters w ∧ w.publicSignals = signals ∧
    w.msgAsPoint = msgAsPoint ∧ w.rnd = rnd

/-- The PRF key has signed some value for the input. -/
def PrfSigned (lib : Circomlib) (parameters : Parameters) (prfIn : Fr) : Prop :=
  ∃ (prfOut : Fr) (S : Fr) (R8 : Fr × Fr), prfOut.val < 2 ^ 244 ∧
    EdDSAFixedPubkey.Accepts lib parameters.prfPubkey parameters.prfPubkey8 1 S R8
      (Hash lib ![prfIn, prfOut])

/-- The commitment has an opening to what the point decodes to. -/
def Commits (A B : BabyPoint) (commitment point : Fr × Fr) (rnd : Fr) : Prop :=
  ∃ number first second, Decomposition point.1 number ∧
    Decomposition ((number / 1024 : ℕ) : Fr) first ∧ Decomposition rnd second ∧
    commitment = (first • A + second • B).coords

variable {lib : Circomlib}

/-- Some point decodes to each value of 244 bits. -/
theorem pointToMsg_of_small (bits : lib.BitSpec) {prfOut : Fr} (small : prfOut.val < 2 ^ 244)
    (y : Fr) : PointToMsg lib (((prfOut.val * 1024 : ℕ) : Fr), y) prfOut := by
  refine (pointToMsg_iff bits).mpr ⟨prfOut.val * 1024, decomposition_cast (by omega), ?_⟩
  rw [Nat.mul_div_cancel _ (by norm_num), ZMod.natCast_zmod_val]

theorem pointToMsg_small (bits : lib.BitSpec) {point : Fr × Fr} {prfOut : Fr}
    (decoded : PointToMsg lib point prfOut) : prfOut.val < 2 ^ 244 := by
  have wide : 2 ^ 244 < fieldOrder := by norm_num
  obtain ⟨number, candidate, rfl⟩ := (pointToMsg_iff bits).mp decoded
  have small : number < 2 ^ 254 := by
    rcases candidate with rfl | ⟨-, fits⟩
    · exact val_lt_two_pow _
    · exact fits
  rw [ZMod.val_natCast_of_lt (by omega)]
  omega

section Messages

variable (bits : lib.BitSpec) (curve : lib.CurveSpec) {A B : BabyPoint}
  (mulA : lib.EscalarMulFixSpec A) (mulB : lib.EscalarMulFixSpec B)

include bits curve mulA mulB

/-- The commitments that go with a message point. -/
theorem commits_iff {commitment point : Fr × Fr} {rnd : Fr} :
    Commits A B commitment point rnd ↔
      ∃ (msg : Fr) (w : PedersenCommitFixed.Signals), PointToMsg lib point msg ∧
        PedersenCommitFixed.Satisfies lib A.coords B.coords w ∧ w.msg = msg ∧ w.rnd = rnd ∧
        w.commitment = commitment := by
  constructor
  · rintro ⟨number, first, second, decomposed, firstDecomposed, secondDecomposed, rfl⟩
    obtain ⟨w, satisfied, msg, randomness, commitment⟩ :=
      (PedersenCommitFixed.exists_satisfies_iff bits curve mulA mulB).mpr
        ⟨first, second, firstDecomposed, secondDecomposed, rfl⟩
    exact ⟨_, w, (pointToMsg_iff bits).mpr ⟨number, decomposed, rfl⟩, satisfied, msg, randomness,
      commitment⟩
  · rintro ⟨msg, w, decoded, satisfied, isMsg, randomness, commitment⟩
    obtain ⟨number, decomposed, rfl⟩ := (pointToMsg_iff bits).mp decoded
    obtain ⟨first, second, firstDecomposed, secondDecomposed, sum⟩ :=
      (PedersenCommitFixed.exists_satisfies_iff bits curve mulA mulB).mp
        ⟨w, satisfied, isMsg, randomness, commitment⟩
    exact ⟨number, first, second, decomposed, firstDecomposed, secondDecomposed, sum⟩

end Messages

/-- The template accepts a message that passes the checks, with a ciphertext that opens to
it. -/
theorem encrypts_iff_opens (bits : lib.BitSpec) (curve : lib.CurveSpec)
    (mulBase : lib.EscalarMulFixSpec BASE8) (mulAny : lib.EscalarMulAnySpec) {secret : ℤ}
    (mulKey : lib.EscalarMulFixSpec (secret • BASE8)) {message : BabyPoint}
    {encryption : (Fr × Fr) × (Fr × Fr)} :
    (∃ y, EncryptElGamal.Encrypts (EncryptElGamal.FixedPubkey lib (secret • BASE8).coords) y
        message.coords encryption.1 encryption.2) ↔
      (message.x = 0 ∨ message.InSubgroup) ∧ ∃ c1 c2 : BabyPoint, c1.InSubgroup ∧
        encryption = (c1.coords, c2.coords) ∧ c2 - secret • c1 = message := by
  have key := EncryptElGamal.multiplies_fixed mulKey
  constructor
  · rintro ⟨y, encrypts⟩
    obtain ⟨k, found, -, -, coords, checked, first, second⟩ :=
      (EncryptElGamal.encrypts_iff bits curve mulBase mulAny key).mp encrypts
    obtain rfl := BabyPoint.coords_injective coords
    refine ⟨checked, k • BASE8, found + k • secret • BASE8, ?_, Prod.ext first second, ?_⟩
    · exact BabyPoint.InSubgroup.nsmul subOrder_nsmul_BASE8 k
    · exact EncryptElGamal.decrypts secret k found
  · rintro ⟨checked, c1, c2, member, rfl, rfl⟩
    obtain ⟨k, small, rfl⟩ := member.exists_nonce
    refine ⟨(k : Fr), (EncryptElGamal.encrypts_iff bits curve mulBase mulAny key).mpr ?_⟩
    refine ⟨k, c2 - secret • k • BASE8, small, rfl, rfl, checked, rfl, ?_⟩
    rw [smul_comm k, sub_add_cancel]

section Circuit

variable {parameters : Parameters} {n : ℕ}

theorem SatisfiesMessage.prfSigned (bits : lib.BitSpec) {w : Signals n} {i : Fin n}
    (message : SatisfiesMessage lib parameters w i) :
    PrfSigned lib parameters (w.prfIn i) := by
  refine ⟨w.prfOut i, w.S i, (w.R8x i, w.R8y i), pointToMsg_small bits message.prfOut, ?_⟩
  refine ⟨w.sigVerifiers i, message.sigVerifiers, message.sigVerifiers_enabled,
    message.sigVerifiers_S, ?_, ?_⟩
  · rw [message.sigVerifiers_R8x, message.sigVerifiers_R8y]
  · exact message.sigVerifiers_M.trans message.hash

/-- What the components do for one message, when each is satisfied on its own. -/
structure Components (lib : Circomlib) (parameters : Parameters) (message : BabyPoint)
    (prfIn rnd : Fr) (encryption : (Fr × Fr) × (Fr × Fr)) (commitment : Fr × Fr) where
  prfOut : Fr
  verifier : EdDSAFixedPubkey.Signals
  encryptor : EncryptElGamal.Signals
  commitor : PedersenCommitFixed.Signals
  small : prfOut.val < 2 ^ 244
  verified : EdDSAFixedPubkey.Satisfies lib parameters.prfPubkey parameters.prfPubkey8 verifier
  enabled : verifier.enabled = 1
  isHash : verifier.M = Hash lib ![prfIn, prfOut]
  encrypts : EncryptElGamal.FixedPubkey lib parameters.mpcPubkey.coords encryptor
  isMessage : encryptor.messageAsPoint = message.coords
  isEncryption : encryption = (encryptor.c1, encryptor.c2)
  decoded : PointToMsg lib message.coords commitor.msg
  commits : PedersenCommitFixed.Satisfies lib parameters.pedersenA parameters.pedersenB commitor
  isRnd : commitor.rnd = rnd
  isCommitment : commitment = commitor.commitment

/-- A point of the PRF value.  It need not be on the curve, and with `y = 0` it can be added
to any point. -/
def prfPoint (prfOut : Fr) : Fr × Fr :=
  (((prfOut.val * 1024 : ℕ) : Fr), 0)

/-- The signals that connect the components. -/
def ofComponents (lib : Circomlib) (parameters : Parameters) (signals : Public n)
    (messages : Fin n → BabyPoint) (rnd : Fin n → Fr)
    (parts : ∀ i, Components lib parameters (messages i) (signals.prfIn i) (rnd i)
      (signals.encryptions i) (signals.commitments i)) : Signals n where
  accessControlLogic := signals.accessControlLogic
  encryptWithNonce i := (parts i).encryptor.y
  msgAsPoint i := (messages i).coords
  msg i := (parts i).commitor.msg
  encryptions := signals.encryptions
  commitments := signals.commitments
  rnd := rnd
  prfIn := signals.prfIn
  prfOutAsPoint i := prfPoint (parts i).prfOut
  prfOut i := (parts i).prfOut
  S i := (parts i).verifier.S
  R8x i := (parts i).verifier.R8x
  R8y i := (parts i).verifier.R8y
  sigVerifiers i := (parts i).verifier
  hash i := Hash lib ![signals.prfIn i, (parts i).prfOut]
  pointAdders i := ((prfPoint (parts i).prfOut).1 * (messages i).y,
    -babyJub.a * (prfPoint (parts i).prfOut).1 * (messages i).x)
  encryptors i := (parts i).encryptor
  commitors i := (parts i).commitor

theorem satisfies_ofComponents (bits : lib.BitSpec) (curve : lib.CurveSpec) {signals : Public n}
    {messages : Fin n → BabyPoint} {rnd : Fin n → Fr}
    (parts : ∀ i, Components lib parameters (messages i) (signals.prfIn i) (rnd i)
      (signals.encryptions i) (signals.commitments i)) :
    Satisfies lib parameters (ofComponents lib parameters signals messages rnd parts) where
  accessControlLogic := mul_zero _
  message i :=
    { prfOut := pointToMsg_of_small bits (parts i).small 0
      msg := (parts i).decoded
      sigVerifiers := (parts i).verified
      sigVerifiers_enabled := (parts i).enabled
      sigVerifiers_R8x := rfl
      sigVerifiers_R8y := rfl
      sigVerifiers_S := rfl
      hash := rfl
      sigVerifiers_M := (parts i).isHash
      pointAdders := by
        rw [curve.babyAdd]
        simp [Circomlib.AdditionEquations, crossTerm, ofComponents, prfPoint, BabyPoint.coords]
      encryptors := (parts i).encrypts
      encryptors_y := rfl
      encryptors_messageAsPoint := (parts i).isMessage
      encryptions := (parts i).isEncryption
      commitors := (parts i).commits
      commitors_msg := rfl
      commitors_rnd := (parts i).isRnd
      commitments := (parts i).isCommitment }

end Circuit

/-- The public signals that go with given messages and randomness: the ciphertexts open to
the messages, the commitments open to what the messages decode to, and the PRF key has
signed some value.  The bases and the key are points at which the fixed-base gadget is
exact. -/
theorem provable_iff_opens (bits : lib.BitSpec) (curve : lib.CurveSpec)
    (mulBase : lib.EscalarMulFixSpec BASE8) (mulAny : lib.EscalarMulAnySpec)
    {parameters : Parameters} {A B : BabyPoint} {secret : ℤ} (mulA : lib.EscalarMulFixSpec A)
    (mulB : lib.EscalarMulFixSpec B) (mulKey : lib.EscalarMulFixSpec (secret • BASE8))
    (isA : parameters.pedersenA = A.coords) (isB : parameters.pedersenB = B.coords)
    (isKey : parameters.mpcPubkey = secret • BASE8) {n : ℕ} (signals : Public n)
    (messages : Fin n → BabyPoint) (rnd : Fin n → Fr) :
    Provable lib parameters signals (fun i => (messages i).coords) rnd ↔
      ∀ i, PrfSigned lib parameters (signals.prfIn i) ∧
        ((messages i).x = 0 ∨ (messages i).InSubgroup) ∧
        (∃ c1 c2 : BabyPoint, c1.InSubgroup ∧ signals.encryptions i = (c1.coords, c2.coords) ∧
          c2 - secret • c1 = messages i) ∧
        Commits A B (signals.commitments i) (messages i).coords (rnd i) := by
  constructor
  · rintro ⟨w, satisfied, rfl, isMessage, rfl⟩ i
    have message := satisfied.message i
    have isPoint : w.msgAsPoint i = (messages i).coords := congrFun isMessage i
    have encryptors := message.encryptors
    rw [isKey] at encryptors
    have opens := (encrypts_iff_opens bits curve mulBase mulAny mulKey).mp
      ⟨_, w.encryptors i, encryptors, rfl,
        message.encryptors_messageAsPoint.trans isPoint,
        (congrArg Prod.fst message.encryptions).symm,
        (congrArg Prod.snd message.encryptions).symm⟩
    have commitors := message.commitors
    rw [isA, isB] at commitors
    have decoded := message.msg
    rw [isPoint] at decoded
    have commits := (commits_iff bits curve mulA mulB).mpr
      ⟨w.msg i, w.commitors i, decoded, commitors, message.commitors_msg,
        message.commitors_rnd, message.commitments.symm⟩
    exact ⟨message.prfSigned bits, opens.1, opens.2, commits⟩
  · intro admitted
    have parts : ∀ i, Nonempty (Components lib parameters (messages i) (signals.prfIn i) (rnd i)
        (signals.encryptions i) (signals.commitments i)) := by
      intro i
      obtain ⟨signed, checked, opens, commits⟩ := admitted i
      obtain ⟨prfOut, S, R8, small, verifier, verified, enabled, -, -, isHash⟩ := signed
      obtain ⟨y, encryptor, encrypts, -, isMessage, first, second⟩ :=
        (encrypts_iff_opens bits curve mulBase mulAny mulKey).mpr ⟨checked, opens⟩
      obtain ⟨_, commitor, decoded, committed, rfl, isRnd, isCommitment⟩ :=
        (commits_iff bits curve mulA mulB).mp commits
      rw [← isKey] at encrypts
      rw [← isA, ← isB] at committed
      exact ⟨⟨prfOut, verifier, encryptor, commitor, small, verified, enabled, isHash, encrypts,
        isMessage, Prod.ext first.symm second.symm, decoded, committed, isRnd,
        isCommitment.symm⟩⟩
    obtain ⟨chosen⟩ := Classical.nonempty_pi.mpr parts
    exact ⟨_, satisfies_ofComponents bits curve chosen, rfl, rfl, rfl⟩

section Sample

theorem sample_prfSigned :
    PrfSigned (Circomlib.reference samplePoseidon) sampleParameters (69 : ℕ) := by
  have verified :=
    satisfies_signedMessage samplePoseidon (samplePoseidon ![((69 : ℕ) : Fr), 0])
  exact ⟨0, _, (0, 1), by norm_num, _, verified, rfl, rfl, rfl, rfl⟩

/-- The message `BASE8`, encrypted with the nonce `1` to the key of the secret `1`. -/
def sampleSignals : Public 1 where
  accessControlLogic := (5 : ℕ)
  prfIn := fun _ => (69 : ℕ)
  encryptions := fun _ => (BASE8.coords, (BASE8 + BASE8).coords)
  commitments := fun _ => ((BASE8.x.val / 1024) • BASE8 + 0 • BASE8).coords

theorem sampleSignals_provable :
    Provable (Circomlib.reference samplePoseidon) sampleParameters sampleSignals
      (fun _ => BASE8.coords) (fun _ => 0) := by
  have member : BASE8.InSubgroup := subOrder_nsmul_BASE8
  apply (provable_iff_opens (Circomlib.reference_bitSpec samplePoseidon)
    (Circomlib.reference_curveSpec _) (Circomlib.reference_escalarMulFixSpec _ _)
    (reference_escalarMulAnySpec _) (Circomlib.reference_escalarMulFixSpec _ _)
    (Circomlib.reference_escalarMulFixSpec _ _) (Circomlib.reference_escalarMulFixSpec _ _)
    rfl rfl (one_zsmul BASE8).symm sampleSignals (fun _ => BASE8) (fun _ => 0)).mpr
  intro i
  refine ⟨sample_prfSigned, .inr member, ⟨BASE8, BASE8 + BASE8, member, rfl, ?_⟩, ?_⟩
  · rw [one_zsmul, add_sub_cancel_right]
  · have small : BASE8.x.val / 1024 < fieldOrder := by decide +kernel
    refine ⟨BASE8.x.val, BASE8.x.val / 1024, 0, .inl rfl, .inl ?_, .inl ?_, rfl⟩
    · exact (ZMod.val_natCast_of_lt small).symm
    · exact ZMod.val_zero.symm

end Sample

end DAEncrypt

end IdHub
