import IdHub.LucasCertificates
import Mathlib.Tactic.NormNum.Prime

/-!
# The scalar field of BN254

Circom signals, ZoKrates `field` values and Noir `Field` values are elements of
the prime field `Fr` of order `fieldOrder`.  The prime order `subOrder` of the
subgroup that `subOrderCheck.circom` tests for is certified here as well.
-/

namespace IdHub

abbrev fieldOrder : ℕ :=
  21888242871839275222246405745257275088548364400416034343698204186575808495617

/-- `2736030358979909402780800718157159386076813972158567259200215660948447373041`
in `subOrderCheck.circom`. -/
abbrev subOrder : ℕ :=
  2736030358979909402780800718157159386076813972158567259200215660948447373041

abbrev Fr : Type := ZMod fieldOrder

namespace Bn254

open LucasCertificates

def smallPrimes : List ℕ :=
  [2, 3, 5, 7, 11, 13, 17, 19, 23, 29, 31, 47, 59, 61, 71, 83, 97, 107, 109,
    137, 139, 229, 257, 349, 379, 521, 661, 823, 853, 967, 983, 1061, 1637,
    3691, 4139, 4999, 6323, 11003, 27743, 33409, 37, 43189, 93001, 237073,
    295049, 336157, 513749, 1593227]

theorem smallPrimes_prime : ∀ number ∈ smallPrimes, number.Prime := by
  simp only [smallPrimes, List.forall_mem_cons, List.not_mem_nil,
    IsEmpty.forall_iff, implies_true, and_true]
  norm_num

/-- Certificates for the two orders and the large primes below them. -/
def steps : List Step :=
  [⟨10206821, 2, [2, 2, 5, 13, 37, 1061]⟩,
    ⟨81654569, 3, [2, 2, 2, 10206821]⟩,
    ⟨405928799, 22, [2, 11, 3691, 4999]⟩,
    ⟨639533339, 2, [2, 229, 853, 1637]⟩,
    ⟨12048837557, 2, [2, 2, 7, 7, 661, 93001]⟩,
    ⟨25485742523, 2, [2, 43189, 295049]⟩,
    ⟨5156902474397, 2, [2, 2, 107, 12048837557]⟩,
    ⟨1670836401704629, 2, [2, 2, 3, 3, 3, 3, 5156902474397]⟩,
    ⟨65865678001877903, 5, [2, 83, 379, 1637, 639533339]⟩,
    ⟨202795150404015601, 7, [2, 2, 2, 2, 3, 5, 5, 19, 349, 25485742523]⟩,
    ⟨431548080059745198929, 3, [2, 2, 2, 2, 7, 19, 202795150404015601]⟩,
    ⟨27892051421815855583579, 2, [2, 23, 521, 27743, 513749, 81654569]⟩,
    ⟨32151195060611136810608359, 3, [2, 3, 3, 4139, 431548080059745198929]⟩,
    ⟨1863691091902891838383581623, 5, [2, 33409, 27892051421815855583579]⟩,
    ⟨13818364434197438864469338081, 3,
      [2, 2, 2, 2, 2, 5, 823, 1593227, 65865678001877903]⟩,
    ⟨178259130663561045147472537592047227885001, 14,
      [2, 2, 2, 3, 3, 5, 5, 5, 5, 6323, 336157, 1863691091902891838383581623]⟩,
    ⟨subOrder, 31, [2, 2, 2, 2, 3, 5, 11, 11, 17, 967,
      32151195060611136810608359, 178259130663561045147472537592047227885001]⟩,
    ⟨fieldOrder, 5, List.replicate 28 2 ++ [3, 3, 13, 29, 983, 11003, 237073,
      405928799, 1670836401704629, 13818364434197438864469338081]⟩]

theorem steps_checked : check 256 smallPrimes steps = true := by
  decide +kernel

theorem steps_prime : ∀ number ∈ steps.map Step.candidate, number.Prime :=
  prime_of_check smallPrimes_prime steps_checked

end Bn254

theorem fieldOrder_prime : fieldOrder.Prime :=
  Bn254.steps_prime fieldOrder (by simp [Bn254.steps])

theorem subOrder_prime : subOrder.Prime :=
  Bn254.steps_prime subOrder (by simp [Bn254.steps])

instance : Fact fieldOrder.Prime := ⟨fieldOrder_prime⟩

instance : Fact subOrder.Prime := ⟨subOrder_prime⟩

theorem val_lt_two_pow (element : Fr) : element.val < 2 ^ 254 :=
  (ZMod.val_lt element).trans (by norm_num)

theorem cast_injOn_lt {first second : ℕ} (firstBound : first < fieldOrder)
    (secondBound : second < fieldOrder) (equal : (first : Fr) = (second : Fr)) :
    first = second := by
  have values := congrArg ZMod.val equal
  rwa [ZMod.val_natCast_of_lt firstBound, ZMod.val_natCast_of_lt secondBound] at values

end IdHub
