import Mathlib.Algebra.Order.Ring.Nat
import Mathlib.Data.BitVec

/-!
# Checked machine arithmetic

Addition, subtraction, multiplication and narrowing of machine words that fail
when the result does not fit.  Each is characterised by the result as a natural
number, so that a chain of operations becomes a statement about naturals.
-/

namespace CheckedArithmetic

universe u

variable {Reason : Type u} {width : ℕ}

def checkedAdd (overflow : Reason) (first second : BitVec width) :
    Except Reason (BitVec width) :=
  if first.toNat + second.toNat < 2 ^ width then .ok (first + second)
  else .error overflow

def checkedSub (underflow : Reason) (first second : BitVec width) :
    Except Reason (BitVec width) :=
  if second.toNat ≤ first.toNat then .ok (first - second) else .error underflow

def checkedMul (overflow : Reason) (first second : BitVec width) :
    Except Reason (BitVec width) :=
  if first.toNat * second.toNat < 2 ^ width then .ok (first * second)
  else .error overflow

/-- Conversion to a smaller width. -/
def narrow (target : ℕ) (tooLarge : Reason) (word : BitVec width) :
    Except Reason (BitVec target) :=
  if word.toNat < 2 ^ target then .ok (word.setWidth target) else .error tooLarge

variable {failure : Reason} {first second result : BitVec width}

/-- A checked operation succeeds with the word of its mathematical result. -/
theorem guarded_eq_ok {condition : Prop} [Decidable condition] {value : BitVec width}
    {number : ℕ} (toNat : condition → value.toNat = number) :
    (if condition then .ok value else .error failure : Except Reason (BitVec width)) =
        .ok result ↔
      condition ∧ result.toNat = number := by
  by_cases holds : condition
  · rw [if_pos holds, Except.ok.injEq, ← toNat holds]
    constructor
    · rintro rfl
      exact ⟨holds, rfl⟩
    · rintro ⟨-, same⟩
      exact (BitVec.eq_of_toNat_eq same).symm
  · simp [holds]

theorem checkedAdd_eq_ok : checkedAdd failure first second = .ok result ↔
    first.toNat + second.toNat < 2 ^ width ∧
      result.toNat = first.toNat + second.toNat := by
  apply guarded_eq_ok
  intro fits
  rw [BitVec.toNat_add, Nat.mod_eq_of_lt fits]

theorem checkedSub_eq_ok : checkedSub failure first second = .ok result ↔
    second.toNat ≤ first.toNat ∧ result.toNat = first.toNat - second.toNat := by
  apply guarded_eq_ok
  intro fits
  exact BitVec.toNat_sub_of_le (BitVec.le_def.mpr fits)

theorem checkedMul_eq_ok : checkedMul failure first second = .ok result ↔
    first.toNat * second.toNat < 2 ^ width ∧
      result.toNat = first.toNat * second.toNat := by
  apply guarded_eq_ok
  intro fits
  rw [BitVec.toNat_mul, Nat.mod_eq_of_lt fits]

theorem narrow_eq_ok {target : ℕ} {narrowed : BitVec target} :
    narrow target failure first = .ok narrowed ↔
      first.toNat < 2 ^ target ∧ narrowed.toNat = first.toNat := by
  apply guarded_eq_ok
  intro fits
  rw [BitVec.toNat_setWidth, Nat.mod_eq_of_lt fits]

/-- A checked operation fails with its one reason, exactly if the result does not fit. -/
theorem guarded_eq_error {Value : Type*} {condition : Prop} [Decidable condition]
    {value : Value} {reason : Reason} :
    (if condition then .ok value else .error failure : Except Reason Value) = .error reason ↔
      ¬ condition ∧ failure = reason := by
  by_cases holds : condition
  · simp [holds]
  · simp [holds]

theorem checkedSub_eq_error {reason : Reason} :
    checkedSub failure first second = .error reason ↔
      first.toNat < second.toNat ∧ failure = reason := by
  rw [checkedSub, guarded_eq_error, not_le]

theorem checkedMul_eq_error {reason : Reason} :
    checkedMul failure first second = .error reason ↔
      2 ^ width ≤ first.toNat * second.toNat ∧ failure = reason := by
  rw [checkedMul, guarded_eq_error, not_lt]

theorem narrow_eq_error {target : ℕ} {reason : Reason} :
    narrow target failure first = .error reason ↔
      2 ^ target ≤ first.toNat ∧ failure = reason := by
  rw [narrow, guarded_eq_error, not_lt]

/-- Every number below the bound is the value of a word. -/
theorem exists_toNat_eq {number : ℕ} (bounded : number < 2 ^ width) :
    ∃ word : BitVec width, word.toNat = number :=
  ⟨BitVec.ofNat width number, by rw [BitVec.toNat_ofNat, Nat.mod_eq_of_lt bounded]⟩

end CheckedArithmetic
