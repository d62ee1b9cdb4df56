import Mathlib.Logic.Basic

/-!
# Guarded computations

Contract code is a sequence of checks, each with the reason it fails for, and
updates.  `require` and `revertIf` are the checks; the lemmas say when a
sequence succeeds, so that a proof about a call never unfolds `Except`.
-/

namespace Guards

universe u v

variable {Reason : Type u} {α β : Type v}

def require (condition : Prop) [Decidable condition] (reason : Reason) :
    Except Reason Unit :=
  if condition then .ok () else .error reason

def revertIf (condition : Prop) [Decidable condition] (reason : Reason) :
    Except Reason Unit :=
  if condition then .error reason else .ok ()

@[simp] theorem require_eq_ok {condition : Prop} [Decidable condition]
    {reason : Reason} {result : Unit} :
    require condition reason = .ok result ↔ condition := by
  unfold require
  split <;> simp_all

@[simp] theorem revertIf_eq_ok {condition : Prop} [Decidable condition]
    {reason : Reason} {result : Unit} :
    revertIf condition reason = .ok result ↔ ¬ condition := by
  unfold revertIf
  split <;> simp_all

@[simp] theorem bind_eq_ok {first : Except Reason α} {next : α → Except Reason β}
    {result : β} :
    (first >>= next) = .ok result ↔ ∃ value, first = .ok value ∧ next value = .ok result := by
  cases first <;> simp [bind, Except.bind]

@[simp] theorem pure_eq_ok {value result : α} :
    (pure value : Except Reason α) = .ok result ↔ value = result := by
  simp [pure, Except.pure]

theorem bind_eq_error {first : Except Reason α} {next : α → Except Reason β}
    {reason : Reason} :
    (first >>= next) = .error reason ↔
      first = .error reason ∨ ∃ value, first = .ok value ∧ next value = .error reason := by
  cases first <;> simp [bind, Except.bind]

theorem pure_ne_error {value : α} {reason : Reason} :
    (pure value : Except Reason α) ≠ .error reason := by
  intro equal
  cases equal

@[simp] theorem mapError_eq_ok {Other : Type*} {translate : Reason → Other}
    {computation : Except Reason α} {result : α} :
    computation.mapError translate = .ok result ↔ computation = .ok result := by
  cases computation with
  | error reason =>
      constructor
      · intro equal
        cases equal
      · intro equal
        cases equal
  | ok value =>
      constructor
      · intro equal
        cases equal
        rfl
      · intro equal
        cases equal
        rfl

end Guards
