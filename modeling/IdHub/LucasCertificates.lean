import Mathlib.Data.List.Prime
import Mathlib.NumberTheory.LucasPrimality

/-!
# Certified primes

Lucas's criterion proves a number prime from an element of full order and the
factorization of its predecessor.  A certificate lists such numbers in an
order in which every factor has been certified before, and the whole list is
checked by one Boolean evaluation.
-/

namespace LucasCertificates

/-- Modular exponentiation by repeated squaring; `fuel` bounds the bit length
of the exponent. -/
def powMod (modulus : ℕ) : (fuel base exponent : ℕ) → ℕ
  | 0, _, _ => 1 % modulus
  | fuel + 1, base, exponent =>
      let rest := powMod modulus fuel (base * base % modulus) (exponent / 2)
      if exponent % 2 = 1 then base * rest % modulus else rest

theorem powMod_eq (modulus fuel : ℕ) (base exponent : ℕ)
    (bounded : exponent < 2 ^ fuel) :
    powMod modulus fuel base exponent = base ^ exponent % modulus := by
  induction fuel generalizing base exponent with
  | zero =>
      have exponentZero : exponent = 0 := by simpa using bounded
      simp [powMod, exponentZero]
  | succ fuel ih =>
      have halfBounded : exponent / 2 < 2 ^ fuel := by
        rw [pow_succ] at bounded
        omega
      have squared :
          (base * base % modulus) ^ (exponent / 2) % modulus =
            base ^ (2 * (exponent / 2)) % modulus := by
        rw [← Nat.pow_mod, pow_mul, sq]
      simp only [powMod, ih _ _ halfBounded, squared]
      split
      · rename_i odd
        rw [Nat.mul_mod_mod, ← pow_succ']
        congr 2
        omega
      · congr 2
        omega

/-- One certified number: a candidate, an element of full order, and the prime
factors of its predecessor with multiplicity. -/
structure Step where
  candidate : ℕ
  generator : ℕ
  factors : List ℕ

/-- Lucas's criterion for one step; `certified` are the numbers already known
to be prime. -/
def Step.check (fuel : ℕ) (certified : List ℕ) (step : Step) : Bool :=
  step.factors.all (certified.contains ·) &&
    (step.factors.prod + 1 == step.candidate) &&
    decide (1 < step.candidate) && decide (step.candidate ≤ 2 ^ fuel) &&
    (powMod step.candidate fuel step.generator (step.candidate - 1) == 1) &&
    step.factors.all fun factor =>
      powMod step.candidate fuel step.generator
        ((step.candidate - 1) / factor) != 1

/-- Check the steps in order, each one extending the certified numbers. -/
def check (fuel : ℕ) : List ℕ → List Step → Bool
  | _, [] => true
  | certified, step :: steps =>
      step.check fuel certified && check fuel (step.candidate :: certified) steps

theorem pow_eq_one_iff {modulus : ℕ} (large : 1 < modulus) (base exponent : ℕ) :
    (base : ZMod modulus) ^ exponent = 1 ↔ base ^ exponent % modulus = 1 := by
  have reduced := ZMod.natCast_eq_natCast_iff' (base ^ exponent) 1 modulus
  rw [Nat.mod_eq_of_lt large] at reduced
  simpa using reduced

theorem Step.prime_of_check {fuel : ℕ} {certified : List ℕ} {step : Step}
    (known : ∀ number ∈ certified, number.Prime)
    (checked : step.check fuel certified = true) : step.candidate.Prime := by
  simp only [Step.check, Bool.and_eq_true, List.all_eq_true, decide_eq_true_eq,
    beq_iff_eq, bne_iff_ne, List.contains_iff_mem] at checked
  obtain ⟨⟨⟨⟨⟨members, product⟩, large⟩, small⟩, fullPower⟩, properPowers⟩ := checked
  have fits (exponent : ℕ) (le : exponent ≤ step.candidate - 1) :
      exponent < 2 ^ fuel := by omega
  refine lucas_primality step.candidate (step.generator : ZMod step.candidate) ?_ ?_
  · rwa [pow_eq_one_iff large, ← powMod_eq _ fuel _ _ (fits _ le_rfl)]
  · intro factor factorPrime divides
    have dividesProduct : factor ∣ step.factors.prod := by
      rwa [show step.factors.prod = step.candidate - 1 by omega]
    obtain ⟨member, memberMem, dividesMember⟩ :=
      (Prime.dvd_prod_iff factorPrime.prime).mp dividesProduct
    have memberPrime := known member (members member memberMem)
    rw [(Nat.prime_dvd_prime_iff_eq factorPrime memberPrime).mp dividesMember]
    rw [ne_eq, pow_eq_one_iff large,
      ← powMod_eq _ fuel _ _ (fits _ (Nat.div_le_self _ _))]
    exact properPowers member memberMem

theorem prime_of_check {fuel : ℕ} {certified : List ℕ} {steps : List Step}
    (known : ∀ number ∈ certified, number.Prime)
    (checked : check fuel certified steps = true) :
    ∀ number ∈ steps.map Step.candidate, number.Prime := by
  induction steps generalizing certified with
  | nil => simp
  | cons first rest ih =>
      simp only [check, Bool.and_eq_true] at checked
      have firstPrime := first.prime_of_check known checked.1
      have extended : ∀ number ∈ first.candidate :: certified, number.Prime := by
        simpa using ⟨firstPrime, known⟩
      exact List.forall_mem_cons.mpr ⟨firstPrime, ih extended checked.2⟩

end LucasCertificates
