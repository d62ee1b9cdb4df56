import Mathlib.Algebra.BigOperators.Fin
import Mathlib.Algebra.Module.BigOperators
import Mathlib.Algebra.Module.Hom
import Mathlib.Algebra.Module.Torsion.Field
import Mathlib.Tactic.Abel

/-!
# The verification equation of Groth16

The equation is one of a pairing of two groups of prime order, and says everything a
verifier checks.  Two things follow from it alone.  A proof fixes the statement: it is
accepted for another one only if the combinations of the inputs' points agree, so no input
with a point of its own can be changed.  The statement does not fix the proof: everyone can
turn an accepted proof into many others.
-/

namespace Groth16

universe u v w

/-- A pairing of two groups of the same prime order. -/
structure Pairing (K : Type*) (G₁ : Type u) (G₂ : Type v) (T : Type w) [Field K]
    [AddCommGroup G₁] [AddCommGroup G₂] [AddCommGroup T] [Module K G₁] [Module K G₂] where
  pair : G₁ →+ G₂ →+ T
  pair_smul : ∀ (k : K) P Q, pair (k • P) Q = pair P (k • Q)
  nondegenerate : ∀ P Q, pair P Q = 0 → P = 0 ∨ Q = 0

structure Key (G₁ : Type u) (G₂ : Type v) (n : ℕ) where
  alpha : G₁
  beta : G₂
  gamma : G₂
  delta : G₂
  constant : G₁
  inputs : Fin n → G₁

structure Proof (G₁ : Type u) (G₂ : Type v) where
  A : G₁
  B : G₂
  C : G₁

variable {K : Type*} {G₁ : Type u} {G₂ : Type v} {T : Type w} [Field K] [AddCommGroup G₁]
  [AddCommGroup G₂] [AddCommGroup T] [Module K G₁] [Module K G₂] {n : ℕ}

/-- The point that stands for the public inputs. -/
def Key.statement (key : Key G₁ G₂ n) (input : Fin n → K) : G₁ :=
  key.constant + ∑ i, input i • key.inputs i

def Key.Accepts (e : Pairing K G₁ G₂ T) (key : Key G₁ G₂ n) (input : Fin n → K)
    (proof : Proof G₁ G₂) : Prop :=
  e.pair proof.A proof.B =
    e.pair key.alpha key.beta + e.pair (key.statement input) key.gamma +
      e.pair proof.C key.delta

instance [DecidableEq T] (e : Pairing K G₁ G₂ T) (key : Key G₁ G₂ n) (input : Fin n → K)
    (proof : Proof G₁ G₂) : Decidable (key.Accepts e input proof) :=
  inferInstanceAs (Decidable (_ = _))

/-- The setup hides scalars in these points that are neither zero nor equal. -/
structure Key.Regular (key : Key G₁ G₂ n) : Prop where
  gamma_ne_zero : key.gamma ≠ 0
  inputs_ne_zero : ∀ i, key.inputs i ≠ 0
  inputs_injective : Function.Injective key.inputs

variable {e : Pairing K G₁ G₂ T} {key : Key G₁ G₂ n} {input other : Fin n → K}
  {proof : Proof G₁ G₂}

theorem Pairing.pair_left_injective {Q : G₂} (nonzero : Q ≠ 0) {P P' : G₁}
    (same : e.pair P Q = e.pair P' Q) : P = P' := by
  have difference : e.pair (P - P') Q = 0 := by
    rw [map_sub, AddMonoidHom.sub_apply, same, sub_self]
  exact sub_eq_zero.mp ((e.nondegenerate _ _ difference).resolve_right nonzero)

namespace Key

theorem Accepts.statement_eq (accepts : key.Accepts e input proof)
    (otherAccepts : key.Accepts e other proof) (nonzero : key.gamma ≠ 0) :
    key.statement other = key.statement input := by
  unfold Accepts at accepts otherAccepts
  rw [accepts] at otherAccepts
  exact (e.pair_left_injective nonzero (add_left_cancel (add_right_cancel otherAccepts))).symm

/-- An accepted proof is accepted for exactly the inputs with the same statement. -/
theorem Accepts.accepts_iff (accepts : key.Accepts e input proof) (nonzero : key.gamma ≠ 0) :
    key.Accepts e other proof ↔ ∑ i, (other i - input i) • key.inputs i = 0 := by
  have sum : ∑ i, (other i - input i) • key.inputs i =
      key.statement other - key.statement input := by
    simp only [statement, sub_smul, Finset.sum_sub_distrib]
    abel
  rw [sum, sub_eq_zero]
  constructor
  · intro otherAccepts
    exact accepts.statement_eq otherAccepts nonzero
  · intro same
    unfold Accepts
    rw [same]
    exact accepts

/-- No single input of an accepted proof can be changed. -/
theorem Accepts.not_accepts_of_changed (accepts : key.Accepts e input proof)
    (regular : key.Regular) {i : Fin n} (changed : other i ≠ input i)
    (unchanged : ∀ j, j ≠ i → other j = input j) : ¬ key.Accepts e other proof := by
  rw [accepts.accepts_iff regular.gamma_ne_zero]
  have others : ∀ j, j ≠ i → (other j - input j) • key.inputs j = 0 := by
    intro j different
    rw [unchanged j different, sub_self, zero_smul]
  rw [Finset.sum_eq_single i (fun j _ => others j) (fun missing =>
    absurd (Finset.mem_univ i) missing)]
  exact smul_ne_zero (sub_ne_zero.mpr changed) (regular.inputs_ne_zero i)

/-- No two different inputs of an accepted proof can be exchanged. -/
theorem Accepts.not_accepts_swap (accepts : key.Accepts e input proof) (regular : key.Regular)
    {i j : Fin n} (different : input i ≠ input j) :
    ¬ key.Accepts e (input ∘ Equiv.swap i j) proof := by
  have distinct : i ≠ j := fun same => different (congrArg input same)
  rw [accepts.accepts_iff regular.gamma_ne_zero]
  have others : ∀ k ∈ Finset.univ, k ∉ ({i, j} : Finset (Fin n)) →
      ((input ∘ Equiv.swap i j) k - input k) • key.inputs k = 0 := by
    intro k _ outside
    simp only [Finset.mem_insert, Finset.mem_singleton, not_or] at outside
    rw [Function.comp_apply, Equiv.swap_apply_of_ne_of_ne outside.1 outside.2, sub_self, zero_smul]
  rw [← Finset.sum_subset (Finset.subset_univ {i, j}) others, Finset.sum_pair distinct]
  simp only [Function.comp_apply, Equiv.swap_apply_left, Equiv.swap_apply_right]
  rw [← neg_sub (input j), neg_smul, ← sub_eq_add_neg, ← smul_sub]
  exact smul_ne_zero (sub_ne_zero.mpr (Ne.symm different))
    (sub_ne_zero.mpr (regular.inputs_injective.ne distinct))

end Key

/-- What everyone can make of a proof. -/
def Proof.rerandomize (key : Key G₁ G₂ n) (scale shift : K) (proof : Proof G₁ G₂) :
    Proof G₁ G₂ where
  A := scale⁻¹ • proof.A
  B := scale • proof.B + (scale * shift) • key.delta
  C := proof.C + shift • proof.A

variable {scale shift scale' shift' : K}

theorem Key.accepts_rerandomize (nonzero : scale ≠ 0) :
    key.Accepts e input (proof.rerandomize key scale shift) ↔ key.Accepts e input proof := by
  have left : e.pair (scale⁻¹ • proof.A) (scale • proof.B + (scale * shift) • key.delta) =
      e.pair proof.A proof.B + e.pair (shift • proof.A) key.delta := by
    rw [map_add, e.pair_smul, smul_smul, inv_mul_cancel₀ nonzero, one_smul, e.pair_smul,
      smul_smul, ← mul_assoc, inv_mul_cancel₀ nonzero, one_mul, e.pair_smul]
  unfold Key.Accepts Proof.rerandomize
  rw [left, map_add, AddMonoidHom.add_apply, ← add_assoc, add_left_inj]

/-- Different choices make different proofs. -/
theorem Proof.rerandomize_injective (nonzero : proof.A ≠ 0)
    (A_eq : (proof.rerandomize key scale shift).A = (proof.rerandomize key scale' shift').A)
    (C_eq : (proof.rerandomize key scale shift).C = (proof.rerandomize key scale' shift').C) :
    scale = scale' ∧ shift = shift' :=
  ⟨inv_injective (smul_left_injective K nonzero A_eq),
    smul_left_injective K nonzero (add_left_cancel C_eq)⟩

/-- All choices but one leave a third point that is not neutral. -/
theorem Proof.exists_rerandomize_ne_zero (key : Key G₁ G₂ n) (nonzero : proof.A ≠ 0) :
    ∃ excluded : K, ∀ scale shift : K, shift ≠ excluded →
      (proof.rerandomize key scale shift).C ≠ 0 := by
  by_cases hit : ∃ shift : K, proof.C + shift • proof.A = 0
  · obtain ⟨excluded, neutral⟩ := hit
    refine ⟨excluded, fun _ shift other neutral' => other ?_⟩
    exact smul_left_injective K nonzero (add_left_cancel (neutral'.trans neutral.symm))
  · exact ⟨0, fun _ shift _ neutral => hit ⟨shift, neutral⟩⟩

end Groth16
