import IdHub.Circomlib
import Mathlib.Data.Fin.VecNotation

/-!
# The local templates of the data-availability circuit

`daEncrypt.circom` builds on three templates of its own directory:
`PointToMsg`, the fixed-key `EdDSAPoseidonVerifier`, and `PedersenCommitFixed`.
-/

namespace IdHub

open BitSums

/-- Template `PointToMsg`: drop the low ten bits of the first coordinate. -/
def PointToMsg (lib : Circomlib) (point : Fr × Fr) (msg : Fr) : Prop :=
  ∃ toBits : Fin 254 → Fr, lib.Num2Bits 254 point.1 toBits ∧
    lib.Bits2Num 244 (fun i => toBits ⟨i.val + 10, by omega⟩) msg

def Hash (lib : Circomlib) {n : ℕ} (input : Fin n → Fr) : Fr := lib.Poseidon input

namespace EdDSAFixedPubkey

structure Signals where
  enabled : Fr
  S : Fr
  R8x : Fr
  R8y : Fr
  M : Fr
  snum2bits : Fin 253 → Fr
  compConstant : Fr
  hash : Fr
  h2bits : Fin 254 → Fr
  h8a : Fr × Fr
  addRight : Fr × Fr
  sb8 : Fr × Fr

/-- The input of `compConstant`: the bits of `S` below a zero. -/
def compConstantInput (snum2bits : Fin 253 → Fr) : Fin 254 → Fr :=
  fun i => if small : i.val < 253 then snum2bits ⟨i.val, small⟩ else 0

/-- The constraints of `EdDSAPoseidonVerifier(A, A8)`. -/
structure Satisfies (lib : Circomlib) (A A8 : Fr × Fr) (w : Signals) : Prop where
  snum2bits : lib.Num2Bits 253 w.S w.snum2bits
  compConstant : lib.CompConstant
    2736030358979909402780800718157159386076813972158567259200215660948447373040
    (compConstantInput w.snum2bits) w.compConstant
  compConstant_out : w.compConstant * w.enabled = 0
  hash : w.hash = lib.Poseidon ![w.R8x, w.R8y, A.1, A.2, w.M]
  h2bits : lib.Num2BitsStrict w.hash w.h2bits
  h8a : lib.EscalarMulFix 254 A8 w.h2bits w.h8a
  addRight :
    lib.BabyAdd w.R8x w.R8y w.h8a.1 w.h8a.2 w.addRight.1 w.addRight.2
  sb8 : lib.EscalarMulFix 253 BASE8.coords w.snum2bits w.sb8
  eqCheckX : lib.ForceEqualIfEnabled w.enabled w.sb8.1 w.addRight.1
  eqCheckY : lib.ForceEqualIfEnabled w.enabled w.sb8.2 w.addRight.2

end EdDSAFixedPubkey

namespace PedersenCommitFixed

structure Signals where
  commitment : Fr × Fr
  msg : Fr
  rnd : Fr
  msgToBits : Fin 254 → Fr
  rndToBits : Fin 254 → Fr
  mulA : Fr × Fr
  mulB : Fr × Fr
  adder : Fr × Fr

/-- The constraints of `PedersenCommitFixed(A, B)`. -/
structure Satisfies (lib : Circomlib) (A B : Fr × Fr) (w : Signals) : Prop where
  msgToBits : lib.Num2Bits 254 w.msg w.msgToBits
  rndToBits : lib.Num2Bits 254 w.rnd w.rndToBits
  mulA : lib.EscalarMulFix 254 A w.msgToBits w.mulA
  mulB : lib.EscalarMulFix 254 B w.rndToBits w.mulB
  adder : lib.BabyAdd w.mulA.1 w.mulA.2 w.mulB.1 w.mulB.2 w.adder.1 w.adder.2
  commitment : w.commitment = w.adder

end PedersenCommitFixed

section Completeness

variable (poseidon : {n : ℕ} → (Fin n → Fr) → Fr)

theorem digits_shift (number : ℕ) :
    (fun i : Fin 244 => digits Fr 254 number ⟨i.val + 10, by omega⟩) =
      digits Fr 244 (number / 1024) := by
  funext i
  simp only [digits]
  rw [show (1024 : ℕ) = 2 ^ 10 by norm_num, Nat.testBit_div_two_pow]

theorem pointToMsg_canonical (point : Fr × Fr) :
    PointToMsg (Circomlib.reference poseidon) point
      ((point.1.val / 1024 : ℕ) : Fr) := by
  have bounded : point.1.val < 2 ^ 254 := val_lt_two_pow point.1
  refine ⟨digits Fr 254 point.1.val, ⟨isBit_digits _ _, ?_⟩, ?_⟩
  · rw [ringSum_digits bounded, ZMod.natCast_zmod_val]
  · change _ = ringSum _
    rw [digits_shift, ringSum_digits (by omega)]

theorem natSum_compConstantInput (snum2bits : Fin 253 → Fr) :
    natSum (EdDSAFixedPubkey.compConstantInput snum2bits) = natSum snum2bits := by
  have low : (fun i : Fin 253 => EdDSAFixedPubkey.compConstantInput
      snum2bits i.castSucc) = snum2bits := by
    funext i
    exact dif_pos i.isLt
  have top : EdDSAFixedPubkey.compConstantInput snum2bits (Fin.last 253) = 0 :=
    dif_neg (by simp)
  rw [natSum_succ, low, top]
  simp

/-- A signature under the secret key `1`, with nonce `0`, of any message. -/
def signedMessage (message : Fr) : EdDSAFixedPubkey.Signals :=
  let hash := poseidon ![0, 1, BASE8.x, BASE8.y, message]
  let answer := 8 * hash.val % subOrder
  { enabled := 1
    S := (answer : Fr)
    R8x := 0
    R8y := 1
    M := message
    snum2bits := digits Fr 253 answer
    compConstant := 0
    hash := hash
    h2bits := digits Fr 254 hash.val
    h8a := (hash.val • 8 • BASE8).coords
    addRight := (hash.val • 8 • BASE8).coords
    sb8 := (answer • BASE8).coords }

theorem satisfies_signedMessage (message : Fr) :
    EdDSAFixedPubkey.Satisfies (Circomlib.reference poseidon) BASE8.coords
      (8 • BASE8).coords (signedMessage poseidon message) := by
  have curve := Circomlib.reference_curveSpec poseidon
  have answerBits (challenge : ℕ) : 8 * challenge % subOrder < 2 ^ 253 :=
    (response_lt challenge).trans (by norm_num)
  refine
    { snum2bits := ⟨isBit_digits _ _, ringSum_digits (answerBits _)⟩
      compConstant := ?_
      compConstant_out := zero_mul _
      hash := rfl
      h2bits := ⟨isBit_digits _ _, natSum_digits _ (val_lt_two_pow _)⟩
      h8a := ⟨8 • BASE8, rfl, isBit_digits _ _, ?_⟩
      addRight := ?_
      sb8 := ⟨BASE8, rfl, isBit_digits _ _, ?_⟩
      eqCheckX := Or.inr ?_
      eqCheckY := Or.inr ?_ }
  · change (0 : Fr) = if _ < natSum _ then 1 else 0
    rw [signedMessage, natSum_compConstantInput, natSum_digits _ (answerBits _), if_neg]
    exact Nat.not_lt.mpr (Nat.le_of_lt_succ (response_lt _))
  · rw [signedMessage, natSum_digits _ (val_lt_two_pow _)]
  · rw [show ((signedMessage poseidon message).R8x) = (0 : BabyPoint).x from rfl]
    apply curve.babyAdd_points.mpr
    rw [zero_add]
    rfl
  · rw [signedMessage, natSum_digits _ (answerBits _)]
  · exact congrArg TwistedEdwards.Point.x (response_nsmul_BASE8 _)
  · exact congrArg TwistedEdwards.Point.y (response_nsmul_BASE8 _)

def zeroCommitment : PedersenCommitFixed.Signals where
  commitment := (0, 1)
  msg := 0
  rnd := 0
  msgToBits := digits Fr 254 0
  rndToBits := digits Fr 254 0
  mulA := (0, 1)
  mulB := (0, 1)
  adder := (0, 1)

theorem satisfies_zeroCommitment (A B : BabyPoint) :
    PedersenCommitFixed.Satisfies (Circomlib.reference poseidon) A.coords B.coords
      zeroCommitment := by
  have zeroBits : natSum (digits Fr 254 0) = 0 := natSum_digits 0 (by norm_num)
  have zeroSum : ringSum (digits Fr 254 0) = 0 := by
    rw [ringSum_digits (by norm_num), Nat.cast_zero]
  have zeroMultiple (P : BabyPoint) :
      ((0 : Fr), (1 : Fr)) = (natSum (digits Fr 254 0) • P).coords := by
    rw [zeroBits, zero_nsmul]
    rfl
  refine
    { msgToBits := ⟨isBit_digits _ _, zeroSum⟩
      rndToBits := ⟨isBit_digits _ _, zeroSum⟩
      mulA := ⟨A, rfl, isBit_digits _ _, zeroMultiple A⟩
      mulB := ⟨B, rfl, isBit_digits _ _, zeroMultiple B⟩
      adder := ?_
      commitment := rfl }
  apply (Circomlib.reference_curveSpec poseidon).babyAdd_points (P := 0) (Q := 0) |>.mpr
  rw [add_zero]
  rfl

/-- The commitment to a number, with the randomness `0`. -/
def commitmentTo (A : BabyPoint) (number : ℕ) : PedersenCommitFixed.Signals where
  commitment := (number • A).coords
  msg := (number : Fr)
  rnd := 0
  msgToBits := digits Fr 254 number
  rndToBits := digits Fr 254 0
  mulA := (number • A).coords
  mulB := (0, 1)
  adder := (number • A).coords

theorem satisfies_commitmentTo (A B : BabyPoint) {number : ℕ} (bounded : number < 2 ^ 254) :
    PedersenCommitFixed.Satisfies (Circomlib.reference poseidon) A.coords B.coords
      (commitmentTo A number) where
  msgToBits := ⟨isBit_digits _ _, ringSum_digits bounded⟩
  rndToBits := (satisfies_zeroCommitment poseidon A B).rndToBits
  mulA := by
    refine ⟨A, rfl, isBit_digits _ _, ?_⟩
    rw [commitmentTo, natSum_digits number bounded]
  mulB := (satisfies_zeroCommitment poseidon A B).mulB
  adder := by
    apply (Circomlib.reference_curveSpec poseidon).babyAdd_points (P := number • A) (Q := 0)
      |>.mpr
    rw [add_zero]
    rfl
  commitment := rfl

end Completeness

end IdHub
