import Mathlib.Algebra.BigOperators.Fin
import Mathlib.Data.Nat.Bitwise
import Mathlib.Tactic.Ring

/-!
# Sums of weighted bits

A vector of ring elements that are all `0` or `1` denotes a natural number and
a ring element.  The natural number is below `2 ^ n` and casts to the ring
element, and every natural number below `2 ^ n` is denoted by its binary
digits.
-/

namespace BitSums

variable {R : Type*} [CommRing R]

/-- A ring element that carries a bit. -/
def IsBit (b : R) : Prop := b = 0 ∨ b = 1

def ringSum {n : ℕ} (bits : Fin n → R) : R :=
  ∑ i, bits i * 2 ^ i.val

/-- The weighted sum in the naturals, every nonzero element read as `1`. -/
def natSum [DecidableEq R] {n : ℕ} (bits : Fin n → R) : ℕ :=
  ∑ i, (if bits i = 0 then 0 else 1) * 2 ^ i.val

/-- The low `n` binary digits of a natural number. -/
def digits (R : Type*) [CommRing R] (n number : ℕ) : Fin n → R :=
  fun i => if number.testBit i then 1 else 0

theorem isBit_digits (n number : ℕ) (i : Fin n) : IsBit (digits R n number i) := by
  unfold digits
  split
  · exact Or.inr rfl
  · exact Or.inl rfl

theorem ringSum_succ {n : ℕ} (bits : Fin (n + 1) → R) :
    ringSum bits =
      ringSum (fun i => bits i.castSucc) + bits (Fin.last n) * 2 ^ n := by
  simp [ringSum, Fin.sum_univ_castSucc]

variable [DecidableEq R]

theorem natSum_succ {n : ℕ} (bits : Fin (n + 1) → R) :
    natSum bits = natSum (fun i => bits i.castSucc) +
      (if bits (Fin.last n) = 0 then 0 else 1) * 2 ^ n := by
  simp only [natSum, Fin.sum_univ_castSucc, Fin.val_castSucc, Fin.val_last]

theorem natSum_lt {n : ℕ} (bits : Fin n → R) : natSum bits < 2 ^ n := by
  induction n with
  | zero => simp [natSum]
  | succ n ih =>
      rw [natSum_succ, pow_succ]
      have low := ih fun i => bits i.castSucc
      split <;> omega

/-- The bits from position `low` on denote the quotient by `2 ^ low`. -/
theorem natSum_shift {low high total : ℕ} (split : high + low = total)
    (bits : Fin total → R) :
    natSum (fun i : Fin high => bits ⟨i.val + low, by omega⟩) = natSum bits / 2 ^ low := by
  induction high generalizing total with
  | zero =>
      have small : natSum bits < 2 ^ low := by
        rw [← Nat.zero_add low, split]
        exact natSum_lt bits
      rw [Nat.div_eq_of_lt small]
      simp [natSum]
  | succ high ih =>
      obtain rfl : high + low + 1 = total := by omega
      have before := ih rfl fun i => bits i.castSucc
      rw [natSum_succ, natSum_succ bits, pow_add, ← mul_assoc,
        Nat.add_mul_div_right _ _ (Nat.two_pow_pos low), ← before]
      rfl

theorem cast_natSum {n : ℕ} {bits : Fin n → R} (areBits : ∀ i, IsBit (bits i)) :
    (natSum bits : R) = ringSum bits := by
  unfold natSum ringSum
  push_cast
  refine Finset.sum_congr rfl fun i _ => ?_
  rcases areBits i with zero | one
  · simp [zero]
  · by_cases trivial : (1 : R) = 0
    · have collapsed : ∀ u : R, u = 0 := fun u => by rw [← mul_one u, trivial, mul_zero]
      rw [collapsed (_ * _), collapsed (bits i * _)]
    · simp [one, trivial]

theorem natSum_digits [Nontrivial R] {n : ℕ} (number : ℕ) (bounded : number < 2 ^ n) :
    natSum (digits R n number) = number := by
  induction n generalizing number with
  | zero =>
      have numberZero : number = 0 := by simpa using bounded
      simp [natSum, numberZero]
  | succ n ih =>
      have low := ih (number % 2 ^ n) (Nat.mod_lt _ (Nat.two_pow_pos n))
      have sameLow : (fun i : Fin n => digits R (n + 1) number i.castSucc) =
          digits R n (number % 2 ^ n) := by
        funext i
        simp [digits, Nat.testBit_mod_two_pow, i.isLt]
      rw [natSum_succ, sameLow, low]
      have top : number / 2 ^ n < 2 := by
        rw [Nat.div_lt_iff_lt_mul (Nat.two_pow_pos n)]
        omega
      have division := Nat.mod_add_div number (2 ^ n)
      have bit : (digits R (n + 1) number (Fin.last n) = 0) ↔ number / 2 ^ n = 0 := by
        simp only [digits, Fin.val_last, Nat.testBit_eq_decide_div_mod_eq]
        rw [Nat.mod_eq_of_lt top]
        by_cases one : number / 2 ^ n = 1
        · simp [one]
        · have zero : number / 2 ^ n = 0 :=
            Nat.lt_one_iff.mp (lt_of_le_of_ne (Nat.le_of_lt_succ top) one)
          simp [zero]
      by_cases zero : number / 2 ^ n = 0
      · rw [if_pos (bit.mpr zero)]
        rw [zero] at division
        omega
      · rw [if_neg (fun isZero => zero (bit.mp isZero))]
        have one : number / 2 ^ n = 1 :=
          le_antisymm (Nat.le_of_lt_succ top) (Nat.one_le_iff_ne_zero.mpr zero)
        rw [one] at division
        omega

theorem ringSum_digits [Nontrivial R] {n number : ℕ} (bounded : number < 2 ^ n) :
    ringSum (digits R n number) = (number : R) := by
  rw [← cast_natSum (isBit_digits n number), natSum_digits number bounded]

end BitSums
