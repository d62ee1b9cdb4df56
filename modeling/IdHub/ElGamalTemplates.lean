import IdHub.SubgroupCheck

/-!
# The two ElGamal templates agree

The two `EncryptElGamal` templates multiply the public key with different gadgets.  At a
public key where both gadgets admit exactly the multiple the templates have the same
assignments; and what they accept decrypts, whichever decomposition of the nonce the
assignment uses.  `EscalarMulAny` is exact on the whole subgroup, `EscalarMulFix` on its
generators.
-/

namespace IdHub

open BitSums TwistedEdwards

theorem zsmul_BASE8_inSubgroup (secret : ℤ) : (secret • BASE8).InSubgroup :=
  BabyPoint.inSubgroup_iff.mpr ⟨secret, rfl⟩

namespace EncryptElGamal

variable {lib : Circomlib}

/-- A template is satisfiable with these inputs and outputs. -/
def Encrypts (template : Signals → Prop) (y : Fr) (messageAsPoint c1 c2 : Fr × Fr) : Prop :=
  ∃ w, template w ∧ w.y = y ∧ w.messageAsPoint = messageAsPoint ∧ w.c1 = c1 ∧ w.c2 = c2

/-- The assignment that encrypts a message with the nonce `k`, of at most 254 bits. -/
def encryption (pubkey message : BabyPoint) (k : ℕ) : Signals where
  y := (k : Fr)
  messageAsPoint := message.coords
  c1 := (k • BASE8).coords
  c2 := (message + k • pubkey).coords
  toBitsY := digits Fr 254 k
  getPubkey := (k • BASE8).coords
  getSharedSecret := (k • pubkey).coords
  msgPlusSecret := (message + k • pubkey).coords

/-- Only what the gadget relates to decompositions matters. -/
theorem Satisfies.of_gadget {first second : (Fin 254 → Fr) → Fr × Fr → Prop}
    (bits : lib.BitSpec)
    (implies : ∀ e out, (∀ i, IsBit (e i)) → first e out → second e out) {w : Signals}
    (satisfied : Satisfies lib first w) : Satisfies lib second w :=
  { satisfied with
    getSharedSecret :=
      implies _ _ (satisfied.areBits bits) satisfied.getSharedSecret }

/-- The gadget of a template admits exactly the multiples of the public key. -/
def Multiplies (mulPubkey : (Fin 254 → Fr) → Fr × Fr → Prop) (pubkey : BabyPoint) : Prop :=
  ∀ (e : Fin 254 → Fr) (out : Fr × Fr), (∀ i, IsBit (e i)) →
    (mulPubkey e out ↔ out = (natSum e • pubkey).coords)

variable {pubkey : BabyPoint}

theorem multiplies_fixed (mulKey : lib.EscalarMulFixSpec pubkey) :
    Multiplies (lib.EscalarMulFix 254 pubkey.coords) pubkey := by
  intro e out areBits
  exact mulKey areBits

theorem multiplies_variable (mulAny : lib.EscalarMulAnySpec) (member : pubkey.InSubgroup) :
    Multiplies (fun e out => lib.EscalarMulAny 254 e pubkey.coords out) pubkey := by
  intro e out areBits
  exact escalarMulAny_inSubgroup mulAny member areBits

/-- The templates have the same assignments for a public key at which both gadgets are
exact. -/
theorem fixedPubkey_iff_variablePubkey (bits : lib.BitSpec)
    (mulKey : lib.EscalarMulFixSpec pubkey) (mulAny : lib.EscalarMulAnySpec)
    (member : pubkey.InSubgroup) {w : Signals} :
    FixedPubkey lib pubkey.coords w ↔ VariablePubkey lib pubkey.coords w := by
  have agree : ∀ (e : Fin 254 → Fr) out, (∀ i, IsBit (e i)) →
      (lib.EscalarMulFix 254 pubkey.coords e out ↔
        lib.EscalarMulAny 254 e pubkey.coords out) := by
    intro e out areBits
    rw [mulKey areBits, escalarMulAny_inSubgroup mulAny member areBits]
  constructor
  · exact Satisfies.of_gadget bits fun e out areBits => (agree e out areBits).mp
  · exact Satisfies.of_gadget bits fun e out areBits => (agree e out areBits).mpr

/-- The encryption of a message that passes the checks is accepted. -/
theorem satisfies_encryption (bits : lib.BitSpec) (curve : lib.CurveSpec)
    (mulBase : lib.EscalarMulFixSpec BASE8) (mulAny : lib.EscalarMulAnySpec)
    {mulPubkey : (Fin 254 → Fr) → Fr × Fr → Prop} (mulKey : Multiplies mulPubkey pubkey)
    {message : BabyPoint} (checked : message.x = 0 ∨ message.InSubgroup) {k : ℕ}
    (small : k < 2 ^ 254) : Satisfies lib mulPubkey (encryption pubkey message k) := by
  have areBits : ∀ i, IsBit (digits Fr 254 k i) := isBit_digits 254 k
  have scalar : natSum (digits Fr 254 k) = k := natSum_digits k small
  exact
    { toBitsY := bits.num2Bits.mpr ⟨areBits, ringSum_digits small⟩
      checkOnCurve := curve.babyCheck.mpr message.onCurve
      checkInSubgroup := (subOrderCheck_iff_inSubgroup mulAny).mpr checked
      getPubkey := (mulBase areBits).mpr (by rw [encryption, scalar])
      c1 := rfl
      getSharedSecret := (mulKey _ _ areBits).mpr (by rw [encryption, scalar])
      msgPlusSecret := curve.babyAdd_coords.mpr rfl
      c2 := rfl }

/-- What a template accepts: the message point passes the two checks, and the nonce is any
integer of 254 bits that is congruent to `y`. -/
theorem encrypts_iff (bits : lib.BitSpec) (curve : lib.CurveSpec)
    (mulBase : lib.EscalarMulFixSpec BASE8) (mulAny : lib.EscalarMulAnySpec)
    {mulPubkey : (Fin 254 → Fr) → Fr × Fr → Prop} (mulKey : Multiplies mulPubkey pubkey)
    {y : Fr} {messageAsPoint c1 c2 : Fr × Fr} :
    Encrypts (Satisfies lib mulPubkey) y messageAsPoint c1 c2 ↔
      ∃ (k : ℕ) (message : BabyPoint), k < 2 ^ 254 ∧ (k : Fr) = y ∧
        message.coords = messageAsPoint ∧ (message.x = 0 ∨ message.InSubgroup) ∧
        c1 = (k • BASE8).coords ∧ c2 = (message + k • pubkey).coords := by
  constructor
  · rintro ⟨w, satisfied, rfl, rfl, rfl, rfl⟩
    obtain ⟨message, coords⟩ := curve.exists_point satisfied.checkOnCurve
    have checked := satisfied.checkInSubgroup
    rw [← coords, subOrderCheck_iff_inSubgroup mulAny] at checked
    have secret := (mulKey _ _ (satisfied.areBits bits)).mp satisfied.getSharedSecret
    exact ⟨w.scalar, message, natSum_lt w.toBitsY, satisfied.cast_scalar bits, coords, checked,
      satisfied.c1_eq bits curve, satisfied.c2_eq curve coords secret⟩
  · rintro ⟨k, message, small, rfl, rfl, checked, rfl, rfl⟩
    exact ⟨_, satisfies_encryption bits curve mulBase mulAny mulKey checked small,
      rfl, rfl, rfl, rfl⟩

/-- The secret key removes the mask from a ciphertext. -/
theorem decrypts (secret : ℤ) (nonce : ℕ) (message : BabyPoint) :
    message + nonce • secret • BASE8 - secret • nonce • BASE8 = message := by
  rw [smul_comm secret nonce, add_sub_cancel_right]

theorem Encrypts.opens (bits : lib.BitSpec) (curve : lib.CurveSpec)
    (mulBase : lib.EscalarMulFixSpec BASE8) (mulAny : lib.EscalarMulAnySpec) {secret : ℤ}
    (mulKey : lib.EscalarMulFixSpec (secret • BASE8)) {y : Fr} {messageAsPoint c1 c2 : Fr × Fr}
    (encrypts : Encrypts (FixedPubkey lib (secret • BASE8).coords) y messageAsPoint c1 c2) :
    ∃ (k : ℕ) (C1 C2 message : BabyPoint), k < 2 ^ 254 ∧ (k : Fr) = y ∧
      C1.coords = c1 ∧ C2.coords = c2 ∧ message.coords = messageAsPoint ∧
      C1 = k • BASE8 ∧ C2 = message + k • secret • BASE8 ∧
      C2 - secret • C1 = message := by
  obtain ⟨k, message, small, cast, coords, -, rfl, rfl⟩ :=
    (encrypts_iff bits curve mulBase mulAny (multiplies_fixed mulKey)).mp encrypts
  exact ⟨k, k • BASE8, message + k • secret • BASE8, message, small, cast, rfl, rfl, coords,
    rfl, rfl, decrypts secret k message⟩

/-- For every public key `secret • BASE8` at which the fixed-base gadget is exact the
templates accept the same values, and what they accept is an encryption that the secret key
opens.  The multiples of the order are left out by `mulKey`: there the key is the neutral
point. -/
theorem templates_agree_and_decrypt (bits : lib.BitSpec) (curve : lib.CurveSpec)
    (mulBase : lib.EscalarMulFixSpec BASE8) (mulAny : lib.EscalarMulAnySpec) (secret : ℤ)
    (mulKey : lib.EscalarMulFixSpec (secret • BASE8)) (y : Fr)
    (messageAsPoint c1 c2 : Fr × Fr) :
    (Encrypts (FixedPubkey lib (secret • BASE8).coords) y messageAsPoint c1 c2 ↔
      Encrypts (VariablePubkey lib (secret • BASE8).coords) y messageAsPoint c1 c2) ∧
    (Encrypts (FixedPubkey lib (secret • BASE8).coords) y messageAsPoint c1 c2 →
      ∃ (k : ℕ) (C1 C2 message : BabyPoint), k < 2 ^ 254 ∧ (k : Fr) = y ∧
        C1.coords = c1 ∧ C2.coords = c2 ∧ message.coords = messageAsPoint ∧
        C1 = k • BASE8 ∧ C2 = message + k • secret • BASE8 ∧
        C2 - secret • C1 = message) := by
  refine ⟨?_, Encrypts.opens bits curve mulBase mulAny mulKey⟩
  unfold Encrypts
  simp only [fixedPubkey_iff_variablePubkey bits mulKey mulAny (zsmul_BASE8_inSubgroup secret)]

/-- The encryption of `BASE8` with the nonce `1` to the key of the secret `1` is accepted
by both templates, and opens. -/
theorem BASE8_encrypted :
    Encrypts (VariablePubkey sampleLibrary ((1 : ℤ) • BASE8).coords) 1 BASE8.coords
        BASE8.coords (BASE8 + BASE8).coords ∧
      ∃ (k : ℕ) (C1 C2 message : BabyPoint), k < 2 ^ 254 ∧ (k : Fr) = 1 ∧
        C1.coords = BASE8.coords ∧ C2.coords = (BASE8 + BASE8).coords ∧
        message.coords = BASE8.coords ∧ C1 = k • BASE8 ∧
        C2 = message + k • (1 : ℤ) • BASE8 ∧ C2 - (1 : ℤ) • C1 = message := by
  have bits : sampleLibrary.BitSpec := Circomlib.reference_bitSpec _
  have curve : sampleLibrary.CurveSpec := Circomlib.reference_curveSpec _
  have mulBase : sampleLibrary.EscalarMulFixSpec BASE8 :=
    Circomlib.reference_escalarMulFixSpec _ BASE8
  have mulKey : sampleLibrary.EscalarMulFixSpec ((1 : ℤ) • BASE8) :=
    Circomlib.reference_escalarMulFixSpec _ _
  have mulAny : sampleLibrary.EscalarMulAnySpec := reference_escalarMulAnySpec _
  have encrypted : Encrypts (FixedPubkey sampleLibrary ((1 : ℤ) • BASE8).coords) 1
      BASE8.coords BASE8.coords (BASE8 + BASE8).coords := by
    apply (encrypts_iff bits curve mulBase mulAny (multiplies_fixed mulKey)).mpr
    refine ⟨1, BASE8, by norm_num, Nat.cast_one, rfl, .inr subOrder_nsmul_BASE8, ?_, ?_⟩
    · rw [one_nsmul]
    · rw [one_nsmul, one_zsmul]
  have agree := templates_agree_and_decrypt bits curve mulBase mulAny 1 mulKey 1
    BASE8.coords BASE8.coords (BASE8 + BASE8).coords
  exact ⟨agree.1.mp encrypted, agree.2 encrypted⟩

end EncryptElGamal

end IdHub
