import IdHub.SubgroupCheck
import IdHub.V3Credential

/-!
# The expiry of a credential

`V3` bounds the expiry by a decomposition of its difference from the issuance time into
25 bits and by a comparison of this difference with `31536001`.  Together they accept
exactly the differences of at most a year.  The clients draw the difference with
`secureExpiryOffset`, whose year has two more seconds.
-/

namespace IdHub

open BitSums

namespace V3

/-- The constraints of the components `n2b` and `lt` are satisfiable with these inputs. -/
def ExpiryComponents (lib : Circomlib) (iat expiry : Fr) : Prop :=
  ∃ (n2b : Fin 25 → Fr) (lt : Fr), lib.Num2Bits 25 (expiry - iat) n2b ∧
    lib.LessThan 25 (expiry - iat) 31536001 lt ∧ lt = 1

def secondsInYear : ℕ := 31536002

def secondsInMonth : ℕ := 2592000

/-- `secureExpiryOffset` of the clients, from 32 random bytes. -/
def secureExpiryOffset (randomValue : BitVec 256) : ℕ :=
  secondsInYear - randomValue.toNat % secondsInMonth

variable {lib : Circomlib}

theorem Satisfies.expiryComponents {w : Signals} (satisfied : Satisfies lib w) :
    ExpiryComponents lib w.iat w.expiry :=
  ⟨w.n2b, w.lt, satisfied.n2b, satisfied.lt, satisfied.lt_out⟩

/-- No other constraint depends on the expiry, so a credential can be presented with
exactly the expiries that the two components admit. -/
theorem Satisfies.exists_withExpiry_iff {w : Signals} (satisfied : Satisfies lib w)
    {expiry : Fr} :
    (∃ w', Satisfies lib w' ∧ w'.toInputs = { w.toInputs with expiry := expiry }) ↔
      ExpiryComponents lib w.iat expiry := by
  constructor
  · rintro ⟨w', satisfied', inputs⟩
    have components := satisfied'.expiryComponents
    rw [inputs] at components
    exact components
  · rintro ⟨n2b, lt, decomposed, compared, isOne⟩
    refine ⟨{ w with expiry := expiry, n2b := n2b, lt := lt }, ?_, rfl⟩
    exact
      { satisfied with
        n2b := decomposed
        lt := compared
        lt_out := isOne }

theorem expiryComponents_iff (bits : lib.BitSpec) (iat expiry : Fr) :
    ExpiryComponents lib iat expiry ↔ (expiry - iat).val ≤ 31536000 := by
  rw [← expiry_components_iff bits]
  constructor
  · rintro ⟨n2b, lt, decomposed, compared, rfl⟩
    exact ⟨⟨n2b, decomposed⟩, compared⟩
  · rintro ⟨⟨n2b, decomposed⟩, compared⟩
    exact ⟨n2b, 1, decomposed, compared, rfl⟩

theorem val_add_sub_self (iat : Fr) {age : ℕ} (small : age < fieldOrder) :
    (iat + (age : Fr) - iat).val = age := by
  rw [add_sub_cancel_left, ZMod.val_natCast_of_lt small]

/-- The difference of two times is canonical only if they are in order; otherwise it
wraps around to just below the field order. -/
theorem val_natCast_sub {first second : ℕ} (firstLt : first < 2 ^ 64)
    (secondLt : second < 2 ^ 64) :
    ((second : Fr) - (first : Fr)).val =
      if first ≤ second then second - first else fieldOrder - (first - second) := by
  have order : 2 ^ 65 < fieldOrder := by norm_num
  by_cases ordered : first ≤ second
  · rw [if_pos ordered, ← Nat.cast_sub ordered]
    exact ZMod.val_natCast_of_lt (by omega)
  · rw [if_neg ordered]
    have wrapped : (second : Fr) - (first : Fr) =
        ((fieldOrder - (first - second) : ℕ) : Fr) := by
      rw [Nat.cast_sub (by omega), Nat.cast_sub (by omega), ZMod.natCast_self]
      ring
    rw [wrapped]
    exact ZMod.val_natCast_of_lt (by omega)

theorem expiryComponents_natCast_iff (bits : lib.BitSpec) {iat expiry : ℕ}
    (iatLt : iat < 2 ^ 64) (expiryLt : expiry < 2 ^ 64) :
    ExpiryComponents lib iat expiry ↔ iat ≤ expiry ∧ expiry ≤ iat + 31536000 := by
  have order : 2 ^ 65 < fieldOrder := by norm_num
  rw [expiryComponents_iff bits, val_natCast_sub iatLt expiryLt]
  by_cases ordered : iat ≤ expiry
  · rw [if_pos ordered]
    omega
  · rw [if_neg ordered]
    omega

/-- The gate is exact over the field, and over times of 64 bits it accepts exactly the
year after the issuance. -/
theorem expiry_gate_exact (bits : lib.BitSpec) :
    (∀ iat expiry : Fr,
      ExpiryComponents lib iat expiry ↔ (expiry - iat).val ≤ 31536000) ∧
    (∀ iat expiry : ℕ, iat < 2 ^ 64 → expiry < 2 ^ 64 →
      (ExpiryComponents lib iat expiry ↔ iat ≤ expiry ∧ expiry ≤ iat + 31536000)) :=
  ⟨expiryComponents_iff bits, fun _ _ => expiryComponents_natCast_iff bits⟩

/-- A year after the issuance is admitted, and neither a second more nor a second before
the issuance. -/
theorem expiry_gate_ends :
    ExpiryComponents sampleLibrary (1700000000 : ℕ) (1731536000 : ℕ) ∧
      ¬ ExpiryComponents sampleLibrary (1700000000 : ℕ) (1731536001 : ℕ) ∧
      ¬ ExpiryComponents sampleLibrary (1700000000 : ℕ) (1699999999 : ℕ) := by
  have bits : sampleLibrary.BitSpec := Circomlib.reference_bitSpec _
  have gate := (expiry_gate_exact bits).2 1700000000
  refine ⟨(gate 1731536000 (by norm_num) (by norm_num)).mpr (by norm_num), ?_, ?_⟩
  · rw [gate 1731536001 (by norm_num) (by norm_num)]
    norm_num
  · rw [gate 1699999999 (by norm_num) (by norm_num)]
    norm_num

section RandomExpiry

variable (randomValue : BitVec 256)

/-- The range that the clients' test samples. -/
theorem secureExpiryOffset_mem :
    secondsInYear - secondsInMonth < secureExpiryOffset randomValue ∧
      secureExpiryOffset randomValue ≤ secondsInYear := by
  have remainder : randomValue.toNat % secondsInMonth < secondsInMonth :=
    Nat.mod_lt _ (by norm_num [secondsInMonth])
  unfold secureExpiryOffset
  unfold secondsInMonth secondsInYear at *
  omega

/-- An expiry that the client draws is admitted unless it takes one of the two seconds
that its year has too many. -/
theorem secureExpiryOffset_admitted_iff (bits : lib.BitSpec) (iat : ℕ) :
    ExpiryComponents lib iat ((iat + secureExpiryOffset randomValue : ℕ) : Fr) ↔
      2 ≤ randomValue.toNat % secondsInMonth := by
  have range := (secureExpiryOffset_mem randomValue).2
  have order : secondsInYear < fieldOrder := by norm_num [secondsInYear]
  rw [expiryComponents_iff bits, Nat.cast_add, val_add_sub_self iat (range.trans_lt order)]
  unfold secureExpiryOffset secondsInMonth secondsInYear
  omega

/-- The random value `0` gives an expiry that is two seconds too late. -/
theorem zero_not_admitted : ¬ ExpiryComponents sampleLibrary (1700000000 : ℕ)
    ((1700000000 + secureExpiryOffset 0 : ℕ) : Fr) := by
  have bits : sampleLibrary.BitSpec := Circomlib.reference_bitSpec _
  have offset : secureExpiryOffset 0 = 31536002 := by decide
  rw [expiryComponents_iff bits, offset, Nat.cast_add, val_add_sub_self _ (by norm_num)]
  norm_num

/-- The random value `2` gives exactly a year. -/
theorem two_admitted : ExpiryComponents sampleLibrary (1700000000 : ℕ)
    ((1700000000 + secureExpiryOffset 2 : ℕ) : Fr) := by
  have bits : sampleLibrary.BitSpec := Circomlib.reference_bitSpec _
  exact (secureExpiryOffset_admitted_iff 2 bits 1700000000).mpr (by decide)

end RandomExpiry

end V3

end IdHub
