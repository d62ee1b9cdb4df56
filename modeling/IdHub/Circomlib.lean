import IdHub.BabyJubJub
import IdHub.BitSums
import Mathlib.Tactic.LinearCombination

/-!
# The gadgets imported from circomlib

The circuits include circomlib from `node_modules`, which is not part of the
repository.  A gadget is therefore a parameter: the relation its constraints
impose between its input and output signals, with its internal signals closed
off.  The documented meaning of the gadgets is stated by `BitSpec` and
`CurveSpec`, and `reference` is a library that meets both.
-/

namespace IdHub

open BitSums TwistedEdwards

/-- The constraint relations of the circomlib gadgets the circuits use. -/
structure Circomlib where
  Poseidon : {n : ℕ} → (inputs : Fin n → Fr) → Fr
  Num2Bits : (n : ℕ) → (input : Fr) → (out : Fin n → Fr) → Prop
  Num2BitsStrict : (input : Fr) → (out : Fin 254 → Fr) → Prop
  Bits2Num : (n : ℕ) → (input : Fin n → Fr) → (out : Fr) → Prop
  LessThan : (n : ℕ) → (in₀ in₁ out : Fr) → Prop
  IsEqual : (in₀ in₁ out : Fr) → Prop
  CompConstant : (ct : ℕ) → (input : Fin 254 → Fr) → (out : Fr) → Prop
  ForceEqualIfEnabled : (enabled in₀ in₁ : Fr) → Prop
  BabyCheck : (x y : Fr) → Prop
  BabyAdd : (x₁ y₁ x₂ y₂ xout yout : Fr) → Prop
  EscalarMulFix : (n : ℕ) → (BASE : Fr × Fr) → (e : Fin n → Fr) →
    (out : Fr × Fr) → Prop
  EscalarMulAny : (n : ℕ) → (e : Fin n → Fr) → (p out : Fr × Fr) → Prop
  EdDSAPoseidonVerifier : (enabled Ax Ay R8x R8y S M : Fr) → Prop

/-- The numbers whose bits `Num2Bits(254)` admits for an element. -/
def Decomposition (input : Fr) (number : ℕ) : Prop :=
  number = input.val ∨ (number = input.val + fieldOrder ∧ number < 2 ^ 254)

namespace Circomlib

/-- The twisted addition equations with cleared denominators, as `BabyAdd`
emits them for arbitrary field elements. -/
def AdditionEquations (x₁ y₁ x₂ y₂ xout yout : Fr) : Prop :=
  (1 + crossTerm babyJub x₁ y₁ x₂ y₂) * xout = x₁ * y₂ + y₁ * x₂ ∧
    (1 - crossTerm babyJub x₁ y₁ x₂ y₂) * yout =
      y₁ * y₂ - babyJub.a * x₁ * x₂

/-- Documented meaning of the bit and comparison gadgets. -/
structure BitSpec (lib : Circomlib) : Prop where
  num2Bits : ∀ {n : ℕ} {input : Fr} {out : Fin n → Fr},
    lib.Num2Bits n input out ↔ (∀ i, IsBit (out i)) ∧ ringSum out = input
  bits2Num : ∀ {n : ℕ} {input : Fin n → Fr} {out : Fr},
    lib.Bits2Num n input out ↔ out = ringSum input
  /-- `LessThan(n)` decomposes `in[0] + 2^n - in[1]` into `n + 1` bits and
  outputs one minus the top bit. -/
  lessThan : ∀ {n : ℕ} {in₀ in₁ out : Fr},
    lib.LessThan n in₀ in₁ out ↔ ∃ bits : Fin (n + 1) → Fr,
      lib.Num2Bits (n + 1) (in₀ + 2 ^ n - in₁) bits ∧ out = 1 - bits (Fin.last n)
  isEqual : ∀ {in₀ in₁ out : Fr},
    lib.IsEqual in₀ in₁ out ↔ out = if in₀ = in₁ then 1 else 0

/-- Documented meaning of the curve gadgets on curve points.  `EscalarMulAny`
replaces a point with `x = 0` internally and then outputs the neutral point. -/
structure CurveSpec (lib : Circomlib) : Prop where
  babyCheck : ∀ {x y : Fr}, lib.BabyCheck x y ↔ babyJub.OnCurve x y
  babyAdd : ∀ {x₁ y₁ x₂ y₂ xout yout : Fr},
    lib.BabyAdd x₁ y₁ x₂ y₂ xout yout ↔ AdditionEquations x₁ y₁ x₂ y₂ xout yout
  escalarMulFix : ∀ {n : ℕ} {P : BabyPoint} {e : Fin n → Fr} {out : Fr × Fr},
    (∀ i, IsBit (e i)) → lib.EscalarMulFix n P.coords e out →
      out = (natSum e • P).coords
  escalarMulAny : ∀ {n : ℕ} {P : BabyPoint} {e : Fin n → Fr} {out : Fr × Fr},
    (∀ i, IsBit (e i)) → lib.EscalarMulAny n e P.coords out →
      out = if P.x = 0 then (0, 1) else (natSum e • P).coords
  escalarMulAny_zero : ∀ {n : ℕ} {P : BabyPoint} {e : Fin n → Fr},
    (∀ i, IsBit (e i)) → P.x = 0 → lib.EscalarMulAny n e P.coords (0, 1)

/-- Fixed-base multiplication by `P` is complete as well.  circomlib promises this for the
generators of the prime-order subgroup; for the neutral point its constraints have no
solution, so each result names the bases that it needs. -/
def EscalarMulFixSpec (lib : Circomlib) (P : BabyPoint) : Prop :=
  ∀ {n : ℕ} {e : Fin n → Fr} {out : Fr × Fr}, (∀ i, IsBit (e i)) →
    (lib.EscalarMulFix n P.coords e out ↔ out = (natSum e • P).coords)

/-- Documented meaning of the gadgets that only the signature check uses. -/
structure SignatureSpec (lib : Circomlib) : Prop where
  num2BitsStrict : ∀ {input : Fr} {out : Fin 254 → Fr},
    lib.Num2BitsStrict input out ↔ (∀ i, IsBit (out i)) ∧ natSum out = input.val
  compConstant : ∀ {ct : ℕ} {input : Fin 254 → Fr} {out : Fr}, (∀ i, IsBit (input i)) →
    (lib.CompConstant ct input out ↔ out = if ct < natSum input then 1 else 0)
  forceEqualIfEnabled : ∀ {enabled in₀ in₁ : Fr},
    lib.ForceEqualIfEnabled enabled in₀ in₁ ↔ enabled = 0 ∨ in₀ = in₁

/-- The integer that a signature with the nonce point `R8` answers. -/
def challenge (lib : Circomlib) (A R8 : BabyPoint) (M : Fr) : ℕ :=
  (lib.Poseidon ![R8.x, R8.y, A.x, A.y, M]).val

/-- Documented meaning of the enabled signature check for a key and a nonce point on the
curve.  The gadget rejects keys whose multiple by eight has `x = 0`; it does not check that
the points are on the curve. -/
def EdDSAPoseidonVerifierSpec (lib : Circomlib) : Prop :=
  ∀ (A R8 : BabyPoint) {S M : Fr},
    lib.EdDSAPoseidonVerifier 1 A.x A.y R8.x R8.y S M ↔
      S.val < subOrder ∧ (8 • A).x ≠ 0 ∧
        S.val • BASE8 = R8 + lib.challenge A R8 M • 8 • A

/-- Circomlib with every gadget given by its documented meaning, over a given
Poseidon function. -/
def reference (poseidon : {n : ℕ} → (Fin n → Fr) → Fr) : Circomlib where
  Poseidon := poseidon
  Num2Bits _ input out := (∀ i, IsBit (out i)) ∧ ringSum out = input
  Num2BitsStrict input out := (∀ i, IsBit (out i)) ∧ natSum out = input.val
  Bits2Num _ input out := out = ringSum input
  LessThan n in₀ in₁ out := ∃ bits : Fin (n + 1) → Fr,
    ((∀ i, IsBit (bits i)) ∧ ringSum bits = in₀ + (2 ^ n : ℕ) - in₁) ∧
      out = 1 - bits (Fin.last n)
  IsEqual in₀ in₁ out := out = if in₀ = in₁ then 1 else 0
  CompConstant ct input out := out = if ct < natSum input then 1 else 0
  ForceEqualIfEnabled enabled in₀ in₁ := enabled = 0 ∨ in₀ = in₁
  BabyCheck x y := babyJub.OnCurve x y
  BabyAdd := AdditionEquations
  EscalarMulFix _ BASE e out := ∃ P : BabyPoint, P.coords = BASE ∧
    (∀ i, IsBit (e i)) ∧ out = (natSum e • P).coords
  EscalarMulAny _ e p out := ∃ P : BabyPoint, P.coords = p ∧
    (∀ i, IsBit (e i)) ∧ out = if P.x = 0 then (0, 1) else (natSum e • P).coords
  EdDSAPoseidonVerifier enabled Ax Ay R8x R8y S M := S.val < 2 ^ 253 ∧
    (enabled = 0 ∨ S.val < subOrder ∧ ∃ A R8 : BabyPoint,
      A.coords = (Ax, Ay) ∧ R8.coords = (R8x, R8y) ∧ (8 • A).x ≠ 0 ∧
        S.val • BASE8 = R8 + (poseidon ![R8x, R8y, Ax, Ay, M]).val • 8 • A)

variable (poseidon : {n : ℕ} → (Fin n → Fr) → Fr)

theorem reference_bitSpec : (reference poseidon).BitSpec where
  num2Bits := Iff.rfl
  bits2Num := Iff.rfl
  lessThan := by
    intro n in₀ in₁ out
    rw [← Nat.cast_two, ← Nat.cast_pow]
    exact Iff.rfl
  isEqual := Iff.rfl

theorem reference_curveSpec : (reference poseidon).CurveSpec where
  babyCheck := Iff.rfl
  babyAdd := Iff.rfl
  escalarMulFix := by
    rintro n P e out - ⟨Q, coords, -, out_eq⟩
    rwa [BabyPoint.coords_injective coords] at out_eq
  escalarMulAny := by
    rintro n P e out - ⟨Q, coords, -, out_eq⟩
    rwa [BabyPoint.coords_injective coords] at out_eq
  escalarMulAny_zero := by
    intro n P e areBits xZero
    exact ⟨P, rfl, areBits, by rw [if_pos xZero]⟩

theorem reference_escalarMulFixSpec (P : BabyPoint) :
    (reference poseidon).EscalarMulFixSpec P := by
  intro n e out areBits
  constructor
  · exact (reference_curveSpec poseidon).escalarMulFix areBits
  · intro multiple
    exact ⟨P, rfl, areBits, multiple⟩

theorem reference_signatureSpec : (reference poseidon).SignatureSpec where
  num2BitsStrict := Iff.rfl
  compConstant _ := Iff.rfl
  forceEqualIfEnabled := Iff.rfl

theorem reference_eddsaPoseidonVerifierSpec :
    (reference poseidon).EdDSAPoseidonVerifierSpec := by
  intro A R8 S M
  constructor
  · rintro ⟨-, disabled | ⟨below, A', R8', sameA, sameR8, nonzero, answers⟩⟩
    · exact absurd disabled one_ne_zero
    · obtain rfl := BabyPoint.coords_injective (sameA : A'.coords = A.coords)
      obtain rfl := BabyPoint.coords_injective (sameR8 : R8'.coords = R8.coords)
      exact ⟨below, nonzero, answers⟩
  · rintro ⟨below, nonzero, answers⟩
    have narrow : subOrder < 2 ^ 253 := by norm_num
    exact ⟨below.trans narrow, .inr ⟨below, A, R8, rfl, rfl, nonzero, answers⟩⟩

/-- The Poseidon function that takes listed values on listed inputs. -/
def poseidonTable (table : List (List ℕ × ℕ)) {n : ℕ} (inputs : Fin n → Fr) : Fr :=
  (((table.lookup (List.ofFn fun i => (inputs i).val)).getD 0 : ℕ) : Fr)

/-- The table has an entry for the inputs. -/
def Listed (table : List (List ℕ × ℕ)) {n : ℕ} (inputs : Fin n → Fr) : Prop :=
  (List.ofFn fun i => (inputs i).val) ∈ table.map Prod.fst

instance (table : List (List ℕ × ℕ)) {n : ℕ} (inputs : Fin n → Fr) :
    Decidable (Listed table inputs) :=
  inferInstanceAs (Decidable (_ ∈ table.map Prod.fst))

theorem Listed.exists_entry {table : List (List ℕ × ℕ)} {n : ℕ} {inputs : Fin n → Fr}
    (listed : Listed table inputs) :
    ∃ value, (List.ofFn fun i => (inputs i).val, value) ∈ table ∧
      poseidonTable table inputs = (value : Fr) := by
  rw [poseidonTable]
  cases found : table.lookup (List.ofFn fun i => (inputs i).val) with
  | none =>
      obtain ⟨⟨key, value⟩, entry, rfl⟩ := List.mem_map.mp listed
      have missing := List.lookup_eq_none_iff.mp found (_, value) entry
      exact absurd missing (by simp)
  | some value =>
      obtain ⟨before, after, rfl, -⟩ := List.lookup_eq_some_iff.mp found
      exact ⟨value, by simp, rfl⟩

/-- A table of different values has no collision. -/
theorem poseidonTable_injOn {table : List (List ℕ × ℕ)}
    (different : (table.map Prod.snd).Nodup)
    (reduced : ∀ entry ∈ table, entry.2 < fieldOrder) {n : ℕ} :
    Set.InjOn (poseidonTable table) {inputs : Fin n → Fr | Listed table inputs} := by
  intro first firstListed second secondListed same
  obtain ⟨value, entry, firstValue⟩ := firstListed.exists_entry
  obtain ⟨value', entry', secondValue⟩ := secondListed.exists_entry
  have casts : (value : Fr) = (value' : Fr) := firstValue.symm.trans (same.trans secondValue)
  obtain rfl : value = value' := cast_injOn_lt (reduced _ entry) (reduced _ entry') casts
  have sameEntry := List.inj_on_of_nodup_map different entry entry' rfl
  have sameKey := List.ofFn_injective (Prod.mk.inj sameEntry).1
  exact funext fun i => ZMod.val_injective fieldOrder (congrFun sameKey i)

/-- Poseidon has no collision among these inputs.  (Among all inputs of an arity
above one it has, since there are more of them than field elements.) -/
def CollisionFree (lib : Circomlib) {n : ℕ} (hashed : List (Fin n → Fr)) : Prop :=
  ∀ first ∈ hashed, ∀ second ∈ hashed,
    lib.Poseidon first = lib.Poseidon second → first = second

-- The vectors of an arity are finitely many, but not to be searched.
instance (lib : Circomlib) {n : ℕ} (hashed : List (Fin n → Fr)) :
    Decidable (lib.CollisionFree hashed) :=
  @List.decidableBAll _ _ (fun _ => List.decidableBAll _ hashed) hashed

variable {lib : Circomlib}

/-- What the owner of a secret key answers for a nonce. -/
def answer (lib : Circomlib) (secret nonce : ℕ) (M : Fr) : Fr :=
  (((nonce + lib.challenge (secret • BASE8) (nonce • BASE8) M * (8 * secret)) % subOrder : ℕ) :
    Fr)

/-- The owner of a secret key answers every challenge, with whatever nonce. -/
theorem EdDSAPoseidonVerifierSpec.verifies_answer (spec : lib.EdDSAPoseidonVerifierSpec)
    {secret : ℕ} (nonzero : (8 • secret • BASE8).x ≠ 0) (nonce : ℕ) (M : Fr) :
    lib.EdDSAPoseidonVerifier 1 (secret • BASE8).x (secret • BASE8).y (nonce • BASE8).x
      (nonce • BASE8).y (lib.answer secret nonce M) M := by
  let answer := nonce + lib.challenge (secret • BASE8) (nonce • BASE8) M * (8 * secret)
  have below : answer % subOrder < subOrder := Nat.mod_lt _ (by norm_num)
  have value : ((answer % subOrder : ℕ) : Fr).val = answer % subOrder :=
    ZMod.val_natCast_of_lt (below.trans (by norm_num))
  have reduced := mod_addOrderOf_nsmul BASE8 answer
  rw [addOrderOf_BASE8] at reduced
  refine (spec _ _).mpr ⟨lt_of_eq_of_lt value below, nonzero, ?_⟩
  rw [Circomlib.answer, value, reduced, add_nsmul, mul_nsmul', mul_nsmul']

/-- On two curve points `BabyAdd` admits exactly their sum. -/
theorem CurveSpec.babyAdd_points (curve : lib.CurveSpec) {P Q : BabyPoint}
    {xout yout : Fr} :
    lib.BabyAdd P.x P.y Q.x Q.y xout yout ↔ (xout, yout) = (P + Q).coords := by
  rw [curve.babyAdd, AdditionEquations, Point.add_x_eq_iff, Point.add_y_eq_iff]
  simp [BabyPoint.coords]

theorem CurveSpec.babyAdd_coords (curve : lib.CurveSpec) {P Q : BabyPoint} {out : Fr × Fr} :
    lib.BabyAdd P.coords.1 P.coords.2 Q.coords.1 Q.coords.2 out.1 out.2 ↔
      out = (P + Q).coords :=
  curve.babyAdd_points

theorem CurveSpec.exists_point (curve : lib.CurveSpec) {p : Fr × Fr}
    (checked : lib.BabyCheck p.1 p.2) : ∃ P : BabyPoint, P.coords = p :=
  ⟨⟨p.1, p.2, curve.babyCheck.mp checked⟩, rfl⟩

theorem BitSpec.cast_natSum (bits : lib.BitSpec) {n : ℕ} {input : Fr}
    {out : Fin n → Fr} (decomposed : lib.Num2Bits n input out) :
    (natSum out : Fr) = input := by
  obtain ⟨areBits, sum⟩ := bits.num2Bits.mp decomposed
  rw [BitSums.cast_natSum areBits, sum]

/-- A decomposition into bits that do not reach the field order is the canonical one. -/
theorem BitSpec.num2Bits_narrow_iff (bits : lib.BitSpec) {n : ℕ} (narrow : 2 ^ n ≤ fieldOrder)
    {input : Fr} {out : Fin n → Fr} :
    lib.Num2Bits n input out ↔ (∀ i, IsBit (out i)) ∧ natSum out = input.val := by
  rw [bits.num2Bits]
  refine and_congr_right fun areBits => ?_
  rw [← BitSums.cast_natSum areBits]
  constructor
  · intro cast
    rw [← cast, ZMod.val_natCast_of_lt ((natSum_lt out).trans_le narrow)]
  · intro value
    rw [value, ZMod.natCast_zmod_val]

/-- `Num2Bits(254)` admits the digits of the element, and those of its alias above the
field order where they fit. -/
theorem BitSpec.num2Bits_254_iff (bits : lib.BitSpec) {input : Fr} {number : ℕ} :
    (∃ out : Fin 254 → Fr, lib.Num2Bits 254 input out ∧ natSum out = number) ↔
      Decomposition input number := by
  constructor
  · rintro ⟨out, decomposed, rfl⟩
    have residue : natSum out % fieldOrder = input.val := by
      rw [← bits.cast_natSum decomposed, ZMod.val_natCast]
    have bounded := natSum_lt out
    have quotient := Nat.mod_add_div (natSum out) fieldOrder
    have small : natSum out / fieldOrder < 2 := by
      rw [Nat.div_lt_iff_lt_mul (by norm_num)]
      exact bounded.trans (by norm_num)
    interval_cases multiple : natSum out / fieldOrder
    · left
      rw [← residue, ← quotient]
      simp
    · right
      refine ⟨?_, bounded⟩
      rw [← residue]
      omega
  · intro candidate
    have bounded : number < 2 ^ 254 := by
      rcases candidate with rfl | ⟨-, small⟩
      · exact val_lt_two_pow input
      · exact small
    have cast : (number : Fr) = input := by
      rcases candidate with rfl | ⟨rfl, -⟩
      · exact ZMod.natCast_zmod_val input
      · rw [Nat.cast_add, ZMod.natCast_zmod_val, ZMod.natCast_self, add_zero]
    refine ⟨digits Fr 254 number, bits.num2Bits.mpr ⟨isBit_digits _ _, ?_⟩, ?_⟩
    · rw [ringSum_digits bounded, cast]
    · exact natSum_digits number bounded

/-- `LessThan(n)` can output one exactly when the biased difference is the cast
of a number below `2^n`; elements that wrap around the field order count. -/
theorem BitSpec.lessThan_one_iff (bits : lib.BitSpec) {n : ℕ} {in₀ in₁ : Fr} :
    lib.LessThan n in₀ in₁ 1 ↔
      ∃ difference < 2 ^ n, in₀ + 2 ^ n - in₁ = ((difference : ℕ) : Fr) := by
  rw [bits.lessThan]
  constructor
  · rintro ⟨out, decomposed, top⟩
    obtain ⟨areBits, sum⟩ := bits.num2Bits.mp decomposed
    have topZero : out (Fin.last n) = 0 := by linear_combination top
    refine ⟨natSum fun i => out i.castSucc, natSum_lt _, ?_⟩
    rw [← sum, ringSum_succ, topZero, zero_mul, add_zero]
    exact (BitSums.cast_natSum fun i => areBits i.castSucc).symm
  · rintro ⟨difference, bounded, equal⟩
    have wide : difference < 2 ^ (n + 1) := by
      rw [pow_succ]
      omega
    refine ⟨digits Fr (n + 1) difference, bits.num2Bits.mpr ⟨?_, ?_⟩, ?_⟩
    · exact isBit_digits _ _
    · rw [ringSum_digits wide, equal]
    · simp [digits, Nat.testBit_lt_two_pow bounded]

end Circomlib

end IdHub
