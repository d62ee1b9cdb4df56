import IdHub.Circomlib

/-!
# The ElGamal templates

`encryptElGamalFixedPubkey.circom` and `encryptElGamalVariablePubkey.circom`
differ only in the gadget that multiplies the public key.  Both check the
message point with `BabyCheck` and `SubOrderCheck`, reuse one bit decomposition
of `y` for both multiplications, and add the shared secret to the message.
-/

namespace IdHub

open BitSums TwistedEdwards

/-- `subOrder` of template `SubOrderCheck`, least significant bit first. -/
def subOrderBits : List ℕ :=
  [1,0,0,0,1,1,1,1,0,1,1,0,0,1,0,0,1,0,0,0,0,1,0,0,1,0,0,1,1,1,0,0,0,0,1,1,1,0,1,1,
    1,1,1,0,1,0,0,1,0,1,0,0,1,1,1,0,1,1,1,0,0,1,1,0,0,1,0,1,0,0,0,0,0,1,1,1,0,1,1,1,
    0,0,0,0,0,1,0,0,1,0,0,1,1,1,0,0,0,0,0,1,1,1,0,1,1,0,1,1,0,1,1,1,0,1,1,1,1,1,0,0,
    1,1,0,1,0,1,0,1,1,1,0,1,0,0,0,0,1,1,0,1,0,1,0,0,0,0,0,0,1,1,0,0,0,0,0,0,1,0,1,1,
    0,1,1,0,1,1,0,1,0,0,0,1,0,0,0,0,0,1,0,1,0,0,0,0,1,1,1,0,1,1,0,0,1,0,1,0,0,0,0,0,
    0,0,1,0,1,1,0,0,0,1,1,0,0,1,0,0,0,0,1,1,1,0,1,0,0,1,1,1,0,0,1,1,1,0,0,1,0,0,0,1,
    0,0,1,1,0,0,0,0,0,1,1]

def SubOrderCheck (lib : Circomlib) (point : Fr × Fr) : Prop :=
  ∃ (subOrder : Fin 251 → Fr) (orderCheck : Fr × Fr),
    (∀ i, subOrder i = ((subOrderBits.getD i.val 0 : ℕ) : Fr)) ∧
    lib.EscalarMulAny 251 subOrder point orderCheck ∧ orderCheck = (0, 1)

namespace EncryptElGamal

/-- The signals of either `EncryptElGamal` template; `toBitsY`, `getPubkey`,
`getSharedSecret` and `msgPlusSecret` are the outputs of the components of those
names. -/
structure Signals where
  y : Fr
  messageAsPoint : Fr × Fr
  c1 : Fr × Fr
  c2 : Fr × Fr
  toBitsY : Fin 254 → Fr
  getPubkey : Fr × Fr
  getSharedSecret : Fr × Fr
  msgPlusSecret : Fr × Fr

/-- The constraints the two templates share, over the relation that the
component `getSharedSecret` imposes between its bits and its output. -/
structure Satisfies (lib : Circomlib)
    (mulPubkey : (Fin 254 → Fr) → Fr × Fr → Prop) (w : Signals) : Prop where
  toBitsY : lib.Num2Bits 254 w.y w.toBitsY
  checkOnCurve : lib.BabyCheck w.messageAsPoint.1 w.messageAsPoint.2
  checkInSubgroup : SubOrderCheck lib w.messageAsPoint
  getPubkey : lib.EscalarMulFix 254 BASE8.coords w.toBitsY w.getPubkey
  c1 : w.c1 = w.getPubkey
  getSharedSecret : mulPubkey w.toBitsY w.getSharedSecret
  msgPlusSecret : lib.BabyAdd w.messageAsPoint.1 w.messageAsPoint.2
    w.getSharedSecret.1 w.getSharedSecret.2 w.msgPlusSecret.1 w.msgPlusSecret.2
  c2 : w.c2 = w.msgPlusSecret

/-- `EncryptElGamal(pubkey)` of `encryptElGamalFixedPubkey.circom`. -/
def FixedPubkey (lib : Circomlib) (pubkey : Fr × Fr) (w : Signals) : Prop :=
  Satisfies lib (lib.EscalarMulFix 254 pubkey) w

/-- `EncryptElGamal()` of `encryptElGamalVariablePubkey.circom`, whose public
key is an input signal. -/
def VariablePubkey (lib : Circomlib) (pubkey : Fr × Fr) (w : Signals) : Prop :=
  Satisfies lib (fun e out => lib.EscalarMulAny 254 e pubkey out) w

end EncryptElGamal

theorem subOrderBits_getD (i : ℕ) :
    subOrderBits.getD i 0 = 0 ∨ subOrderBits.getD i 0 = 1 := by
  have allBits : ∀ b ∈ 0 :: subOrderBits, b = 0 ∨ b = 1 := by
    decide +kernel
  apply allBits
  by_cases inside : i < subOrderBits.length
  · rw [List.getD_eq_getElem _ _ inside]
    exact List.mem_cons_of_mem _ (List.getElem_mem inside)
  · rw [List.getD_eq_default _ _ (by omega)]
    exact List.mem_cons_self

theorem isBit_subOrderBits (i : ℕ) : IsBit ((subOrderBits.getD i 0 : ℕ) : Fr) := by
  rcases subOrderBits_getD i with zero | one
  · exact Or.inl (by rw [zero, Nat.cast_zero])
  · exact Or.inr (by rw [one, Nat.cast_one])

section Properties

variable {lib : Circomlib}

/-- The two curve points with `x = 0` pass the subgroup check, whatever their
order, because `EscalarMulAny` replaces them. -/
theorem subOrderCheck_of_x_eq_zero (curve : lib.CurveSpec) {P : BabyPoint}
    (xZero : P.x = 0) : SubOrderCheck lib P.coords := by
  refine ⟨fun i => ((subOrderBits.getD i.val 0 : ℕ) : Fr), (0, 1), fun _ => rfl, ?_, rfl⟩
  exact curve.escalarMulAny_zero (fun i => isBit_subOrderBits i.val) xZero

namespace EncryptElGamal

variable {mulPubkey : (Fin 254 → Fr) → Fr × Fr → Prop} {w : Signals}

def Signals.scalar (w : Signals) : ℕ := natSum w.toBitsY

theorem Satisfies.cast_scalar (bits : lib.BitSpec)
    (satisfied : Satisfies lib mulPubkey w) : (w.scalar : Fr) = w.y :=
  bits.cast_natSum satisfied.toBitsY

theorem Satisfies.areBits (bits : lib.BitSpec)
    (satisfied : Satisfies lib mulPubkey w) (i : Fin 254) : IsBit (w.toBitsY i) :=
  (bits.num2Bits.mp satisfied.toBitsY).1 i

theorem Satisfies.c1_eq (bits : lib.BitSpec) (curve : lib.CurveSpec)
    (satisfied : Satisfies lib mulPubkey w) :
    w.c1 = (w.scalar • BASE8).coords :=
  satisfied.c1.trans
    (curve.escalarMulFix (satisfied.areBits bits) satisfied.getPubkey)

theorem Satisfies.c2_eq (curve : lib.CurveSpec)
    (satisfied : Satisfies lib mulPubkey w) {M Q : BabyPoint}
    (message : M.coords = w.messageAsPoint)
    (secret : w.getSharedSecret = Q.coords) : w.c2 = (M + Q).coords := by
  have added := satisfied.msgPlusSecret
  rw [← message, secret] at added
  exact satisfied.c2.trans (curve.babyAdd_points.mp added)

theorem FixedPubkey.encrypts (bits : lib.BitSpec) (curve : lib.CurveSpec)
    {pubkey : BabyPoint} (satisfied : FixedPubkey lib pubkey.coords w) :
    ∃ M : BabyPoint, M.coords = w.messageAsPoint ∧
      w.c1 = (w.scalar • BASE8).coords ∧
      w.c2 = (M + w.scalar • pubkey).coords := by
  obtain ⟨M, message⟩ := curve.exists_point satisfied.checkOnCurve
  refine ⟨M, message, satisfied.c1_eq bits curve, ?_⟩
  exact satisfied.c2_eq curve message
    (curve.escalarMulFix (satisfied.areBits bits) satisfied.getSharedSecret)

/-- A message with `x = 0` and `y² = 1` can be put in place of any other: the
shared secret does not depend on the message, and its sum with `(0, y)` is the
secret scaled by `y`. -/
def Signals.withMessage (w : Signals) (y : Fr) : Signals :=
  { w with
    messageAsPoint := (0, y)
    msgPlusSecret := (y * w.getSharedSecret.1, y * w.getSharedSecret.2)
    c2 := (y * w.getSharedSecret.1, y * w.getSharedSecret.2) }

theorem Satisfies.withMessage (curve : lib.CurveSpec)
    (satisfied : Satisfies lib mulPubkey w) {y : Fr} (unit : y ^ 2 = 1) :
    Satisfies lib mulPubkey (w.withMessage y) where
  toBitsY := satisfied.toBitsY
  checkOnCurve := by
    rw [curve.babyCheck]
    simp [Signals.withMessage, Params.OnCurve, unit]
  checkInSubgroup :=
    subOrderCheck_of_x_eq_zero curve
      (P := ⟨0, y, by simp [Params.OnCurve, unit]⟩) rfl
  getPubkey := satisfied.getPubkey
  c1 := satisfied.c1
  getSharedSecret := satisfied.getSharedSecret
  msgPlusSecret := by
    rw [curve.babyAdd]
    simp [Signals.withMessage, Circomlib.AdditionEquations, crossTerm]
  c2 := rfl

def neutralEncryption : Signals where
  y := 0
  messageAsPoint := (0, 1)
  c1 := (0, 1)
  c2 := (0, 1)
  toBitsY := digits Fr 254 0
  getPubkey := (0, 1)
  getSharedSecret := (0, 1)
  msgPlusSecret := (0, 1)

theorem natSum_digits_zero : natSum (digits Fr 254 0) = 0 :=
  natSum_digits 0 (by norm_num)

theorem satisfies_neutralEncryption (poseidon : {n : ℕ} → (Fin n → Fr) → Fr)
    {mulPubkey : (Fin 254 → Fr) → Fr × Fr → Prop}
    (secret : mulPubkey (digits Fr 254 0) (0, 1)) :
    Satisfies (Circomlib.reference poseidon) mulPubkey neutralEncryption where
  toBitsY := by
    refine ⟨isBit_digits 254 0, ?_⟩
    rw [neutralEncryption, ringSum_digits (by norm_num), Nat.cast_zero]
  checkOnCurve := (0 : BabyPoint).onCurve
  checkInSubgroup :=
    subOrderCheck_of_x_eq_zero (Circomlib.reference_curveSpec poseidon)
      (P := 0) rfl
  getPubkey := ⟨BASE8, rfl, isBit_digits 254 0, by
    rw [neutralEncryption, natSum_digits_zero, zero_nsmul]
    rfl⟩
  c1 := rfl
  getSharedSecret := secret
  msgPlusSecret := by
    apply (Circomlib.reference_curveSpec poseidon).babyAdd_points (P := 0) (Q := 0) |>.mpr
    rw [add_zero]
    rfl
  c2 := rfl

end EncryptElGamal

end Properties

end IdHub
