import IdHub.AltBn128
import IdHub.Groth16
import IdHub.Groth16Verifier

/-!
# The precompiled contracts of the curve

What the contracts at the addresses 6, 7 and 8 compute on words that encode points.  Words
that do not encode a point, such as coordinates that are not reduced, make them fail.  The
second group and the pairing are parameters.
-/

namespace IdHub

namespace G1

open MordellCurves

def encode : G1 → G1Point
  | .zero => ⟨0, 0⟩
  | .some x y _ => ⟨BitVec.ofNat 256 x.val, BitVec.ofNat 256 y.val⟩

def decode (p : G1Point) : Option G1 :=
  if p.X = 0 ∧ p.Y = 0 then some 0
  else if p.X.toNat < baseOrder ∧ p.Y.toNat < baseOrder then
    if onCurve : (p.Y.toNat : Fq) ^ 2 = (p.X.toNat : Fq) ^ 3 + AltBn128.params.b then
      some (Point.ofEquation onCurve)
    else none
  else none

theorem toNat_ofNat_val (x : Fq) : (BitVec.ofNat 256 x.val).toNat = x.val := by
  rw [BitVec.toNat_ofNat, Nat.mod_eq_of_lt ((ZMod.val_lt x).trans (by norm_num))]

theorem ofNat_val_cast {word : U256} (reduced : word.toNat < baseOrder) :
    BitVec.ofNat 256 (word.toNat : Fq).val = word := by
  rw [ZMod.val_natCast_of_lt reduced, BitVec.ofNat_toNat, BitVec.setWidth_eq]

/-- Two zeros are no point of the curve, so they can stand for the neutral one. -/
theorem not_onCurve_zero : (0 : Fq) ^ 2 ≠ 0 ^ 3 + AltBn128.params.b := by
  decide +kernel

variable {x y : Fq}

@[simp] theorem encode_zero : encode 0 = ⟨0, 0⟩ :=
  rfl

@[simp] theorem encode_ofEquation (onCurve : y ^ 2 = x ^ 3 + AltBn128.params.b) :
    encode (Point.ofEquation onCurve) =
      ⟨BitVec.ofNat 256 x.val, BitVec.ofNat 256 y.val⟩ :=
  rfl

theorem ofNat_val_eq_zero_iff {x : Fq} : BitVec.ofNat 256 x.val = 0 ↔ x = 0 := by
  rw [← ZMod.val_eq_zero, ← toNat_ofNat_val x, BitVec.toNat_eq]
  simp

theorem encode_eq_zeros_iff {P : G1} :
    (encode P).X = 0 ∧ (encode P).Y = 0 ↔ P = 0 := by
  constructor
  · rintro ⟨X_zero, Y_zero⟩
    obtain rfl | ⟨x, y, onCurve, rfl⟩ := Point.eq_zero_or_ofEquation P
    · rfl
    · obtain rfl := ofNat_val_eq_zero_iff.mp X_zero
      obtain rfl := ofNat_val_eq_zero_iff.mp Y_zero
      exact absurd onCurve not_onCurve_zero
  · rintro rfl
    exact ⟨rfl, rfl⟩

theorem ofEquation_ne_zero (onCurve : y ^ 2 = x ^ 3 + AltBn128.params.b) :
    (Point.ofEquation onCurve : G1) ≠ 0 :=
  WeierstrassCurve.Affine.Point.some_ne_zero _

@[simp] theorem decode_encode (P : G1) : decode (encode P) = some P := by
  obtain rfl | ⟨x, y, onCurve, rfl⟩ := Point.eq_zero_or_ofEquation P
  · rfl
  · have onCurve' : ((y.val : ℕ) : Fq) ^ 2 = ((x.val : ℕ) : Fq) ^ 3 + AltBn128.params.b := by
      simpa using onCurve
    rw [decode, if_neg (encode_eq_zeros_iff.not.mpr (ofEquation_ne_zero onCurve))]
    simp only [encode_ofEquation, toNat_ofNat_val, ZMod.val_lt, and_self, if_true, dif_pos onCurve']
    simp [Point.ofEquation]

theorem decode_eq_some_iff {p : G1Point} {P : G1} : decode p = some P ↔ encode P = p := by
  constructor
  · intro decoded
    unfold decode at decoded
    split at decoded
    · rename_i zeros
      obtain rfl := Option.some.inj decoded
      obtain ⟨X, Y⟩ := p
      obtain ⟨rfl, rfl⟩ : X = 0 ∧ Y = 0 := zeros
      rfl
    · split at decoded
      · rename_i reduced
        split at decoded
        · obtain rfl := Option.some.inj decoded
          rw [encode_ofEquation, ofNat_val_cast reduced.1, ofNat_val_cast reduced.2]
        · cases decoded
      · cases decoded
  · rintro rfl
    exact decode_encode P

theorem encode_injective : Function.Injective encode := by
  intro P P' same
  have decoded := decode_encode P
  rw [same, decode_encode, Option.some.injEq] at decoded
  exact decoded.symm

end G1

/-- The words of a point of the second group, in the order in which the pairing reads
them.  Every point has one spelling. -/
structure G2Encoding (G2 : Type) [AddCommGroup G2] where
  encode : G2 → U256 × U256 × U256 × U256
  decode : U256 × U256 × U256 × U256 → Option G2
  decode_eq_some_iff : ∀ {words Q}, decode words = some Q ↔ encode Q = words
  encode_zero : encode 0 = (0, 0, 0, 0)

namespace G2Encoding

variable {G2 : Type} [AddCommGroup G2] (twisted : G2Encoding G2)

@[simp] theorem decode_encode (Q : G2) : twisted.decode (twisted.encode Q) = some Q :=
  twisted.decode_eq_some_iff.mpr rfl

end G2Encoding

section Contracts

variable {G2 T : Type} [AddCommGroup G2] [Module Fr G2] [AddCommGroup T] [DecidableEq T]
  (e : Groth16.Pairing Fr G1 G2 T) (twisted : G2Encoding G2)

/-- The sum of the pairings of the pairs, of six words each. -/
def pairingSum : List U256 → Option T
  | [] => some 0
  | X :: Y :: x₀ :: x₁ :: y₀ :: y₁ :: rest => do
      let P ← G1.decode ⟨X, Y⟩
      let Q ← twisted.decode (x₀, x₁, y₀, y₁)
      let sum ← pairingSum rest
      return e.pair P Q + sum
  | _ => none

def precompiles : Precompiles where
  ecAdd p1 p2 := do
    let P ← G1.decode p1
    let Q ← G1.decode p2
    return G1.encode (P + Q)
  ecMul p s := do
    let P ← G1.decode p
    return G1.encode (s.toNat • P)
  ecPairing input := do
    let sum ← pairingSum e twisted input
    return if sum = 0 then 1 else 0

end Contracts

section Sample

/-- A pairing whose second group is given by logarithms. -/
def samplePairing : Groth16.Pairing Fr G1 Fr G1 where
  pair := (smulAddHom Fr G1).flip
  pair_smul k P Q := by
    simp only [AddMonoidHom.flip_apply, smulAddHom_apply, smul_smul, smul_eq_mul, mul_comm]
  nondegenerate P Q neutral := by
    simp only [AddMonoidHom.flip_apply, smulAddHom_apply, smul_eq_zero] at neutral
    exact neutral.symm

/-- Points of the second group with small logarithms and known words. -/
structure PointTable where
  words : List (U256 × U256 × U256 × U256)
  nodup : ((0, 0, 0, 0) :: words).Nodup
  points : ∀ entry ∈ words, entry.2 ≠ (0, 0, 0)
  short : words.length < fieldOrder

namespace PointTable

variable (table : PointTable)

def known : List (U256 × U256 × U256 × U256) :=
  (0, 0, 0, 0) :: table.words

def encode (Q : Fr) : U256 × U256 × U256 × U256 :=
  if small : Q.val < table.known.length then table.known[Q.val]
  else (BitVec.ofNat 256 Q.val, 0, 0, 0)

def decode (words : U256 × U256 × U256 × U256) : Option Fr :=
  if words ∈ table.known then some (table.known.idxOf words : Fr)
  else if words.2 = (0, 0, 0) ∧ table.known.length ≤ words.1.toNat ∧
      words.1.toNat < fieldOrder then some (words.1.toNat : Fr)
  else none

theorem not_mem_known {words : U256 × U256 × U256 × U256} (tail : words.2 = (0, 0, 0))
    (large : table.known.length ≤ words.1.toNat) : words ∉ table.known := by
  intro member
  rcases List.mem_cons.mp member with rfl | entry
  · simp [known] at large
  · exact table.points words entry tail

theorem val_ofNat (Q : Fr) : (BitVec.ofNat 256 Q.val).toNat = Q.val := by
  rw [BitVec.toNat_ofNat, Nat.mod_eq_of_lt ((ZMod.val_lt Q).trans (by norm_num))]

theorem decode_eq_some_iff {words : U256 × U256 × U256 × U256} {Q : Fr} :
    table.decode words = some Q ↔ table.encode Q = words := by
  constructor
  · intro decoded
    unfold decode at decoded
    split at decoded
    · rename_i member
      obtain rfl := Option.some.inj decoded
      have small : table.known.idxOf words < table.known.length := List.idxOf_lt_length_of_mem member
      have val : ((table.known.idxOf words : ℕ) : Fr).val = table.known.idxOf words :=
        ZMod.val_natCast_of_lt (small.trans_le (by simpa [known] using table.short))
      simp only [encode, val, small, dif_pos, List.getElem_idxOf]
    · split at decoded
      · rename_i outside inside
        obtain ⟨tail, large, reduced⟩ := inside
        obtain rfl := Option.some.inj decoded
        rw [encode, ZMod.val_natCast_of_lt reduced, dif_neg (Nat.not_lt.mpr large)]
        rw [BitVec.ofNat_toNat, BitVec.setWidth_eq, ← tail]
      · cases decoded
  · rintro rfl
    by_cases small : Q.val < table.known.length
    · have member : table.known[Q.val] ∈ table.known := List.getElem_mem small
      have distinct : table.known.Nodup := table.nodup
      rw [encode, dif_pos small, decode, if_pos member, distinct.idxOf_getElem]
      simp
    · have tail : ((BitVec.ofNat 256 Q.val, 0, 0, 0) : U256 × U256 × U256 × U256).2 =
          (0, 0, 0) := rfl
      have large : table.known.length ≤ (BitVec.ofNat 256 Q.val).toNat := by
        rw [val_ofNat]
        exact Nat.le_of_not_lt small
      rw [encode, dif_neg small, decode, if_neg (table.not_mem_known tail large),
        if_pos ⟨tail, large, by rw [val_ofNat]; exact ZMod.val_lt Q⟩]
      simp only [val_ofNat, ZMod.natCast_val, ZMod.cast_id', id_eq]

def encoding : G2Encoding Fr where
  encode := table.encode
  decode := table.decode
  decode_eq_some_iff := table.decode_eq_some_iff
  encode_zero := by
    have small : (0 : Fr).val < table.known.length := by simp [known]
    rw [encode, dif_pos small]
    rfl

end PointTable

end Sample

end IdHub
