import Mathlib.Data.List.Count
import Mathlib.Logic.Function.Basic
import Mathlib.Logic.Relation

/-!
# Ledgers of deposits that are returned at most once

A ledger holds one account for each key.  An absent account is opened under some
terms, and a held one is returned, which pays out what its terms say.  Nothing
else happens to an account.  In every ledger that steps reach from the empty one
each key was opened at most once, and what was paid out under it is the payout of
its terms if the account was returned and nothing otherwise.
-/

namespace EscrowLedger

variable {Key Terms Payout : Type*}

inductive Status (Terms : Type*) where
  | absent
  | held (terms : Terms)
  | returned (terms : Terms)

namespace Status

inductive Le : Status Terms → Status Terms → Prop
  | same (status : Status Terms) : Le status status
  | fromAbsent (status : Status Terms) : Le .absent status
  | returned (terms : Terms) : Le (.held terms) (.returned terms)

theorem Le.trans {first second third : Status Terms} (left : Le first second)
    (right : Le second third) : Le first third := by
  cases left with
  | same => exact right
  | fromAbsent => exact .fromAbsent third
  | returned terms =>
      cases right with
      | same => exact .returned terms

theorem Le.of_held {terms : Terms} {after : Status Terms} (le : Le (.held terms) after) :
    after = .held terms ∨ after = .returned terms := by
  cases le with
  | same => exact .inl rfl
  | returned => exact .inr rfl

theorem Le.of_returned {terms : Terms} {after : Status Terms}
    (le : Le (.returned terms) after) : after = .returned terms := by
  cases le with
  | same => rfl

/-- How often an account of this status was opened. -/
def openings : Status Terms → ℕ
  | .absent => 0
  | .held _ => 1
  | .returned _ => 1

/-- What was paid out under an account of this status. -/
def payouts (payout : Terms → Payout) : Status Terms → List Payout
  | .absent => []
  | .held _ => []
  | .returned terms => [payout terms]

end Status

structure Ledger (Key Terms Payout : Type*) where
  accounts : Key → Status Terms
  /-- Every opening, in order. -/
  opened : List Key
  /-- Every payout, in order. -/
  paidOut : List (Key × Payout)

variable [DecidableEq Key]

def Ledger.empty : Ledger Key Terms Payout :=
  ⟨fun _ => .absent, [], []⟩

def Ledger.payoutsOf (ledger : Ledger Key Terms Payout) (key : Key) : List Payout :=
  ledger.paidOut.filterMap fun entry => if entry.1 = key then some entry.2 else none

inductive Step (payout : Terms → Payout) :
    Ledger Key Terms Payout → Ledger Key Terms Payout → Prop
  | opens {ledger : Ledger Key Terms Payout} {key : Key} (terms : Terms)
      (absent : ledger.accounts key = .absent) :
      Step payout ledger
        { ledger with
          accounts := Function.update ledger.accounts key (.held terms)
          opened := ledger.opened ++ [key] }
  | returns {ledger : Ledger Key Terms Payout} {key : Key} {terms : Terms}
      (held : ledger.accounts key = .held terms) :
      Step payout ledger
        { ledger with
          accounts := Function.update ledger.accounts key (.returned terms)
          paidOut := ledger.paidOut ++ [(key, payout terms)] }

abbrev Steps (payout : Terms → Payout) :
    Ledger Key Terms Payout → Ledger Key Terms Payout → Prop :=
  Relation.ReflTransGen (Step payout)

variable {payout : Terms → Payout} {ledger after : Ledger Key Terms Payout}

theorem Step.of_opened {key : Key} (terms : Terms)
    (absent : ledger.accounts key = .absent)
    (accounts : after.accounts = Function.update ledger.accounts key (.held terms))
    (opened : after.opened = ledger.opened ++ [key])
    (paidOut : after.paidOut = ledger.paidOut) : Step payout ledger after := by
  cases after
  subst accounts opened paidOut
  exact .opens terms absent

theorem Step.of_returned {key : Key} {terms : Terms}
    (held : ledger.accounts key = .held terms)
    (accounts : after.accounts = Function.update ledger.accounts key (.returned terms))
    (opened : after.opened = ledger.opened)
    (paidOut : after.paidOut = ledger.paidOut ++ [(key, payout terms)]) :
    Step payout ledger after := by
  cases after
  subst accounts opened paidOut
  exact .returns held

theorem Step.le (step : Step payout ledger after) (key : Key) :
    (ledger.accounts key).Le (after.accounts key) := by
  cases step with
  | @opens changed terms absent =>
      rcases eq_or_ne key changed with rfl | other
      · simpa [absent] using Status.Le.fromAbsent (.held terms)
      · simpa [other] using Status.Le.same (ledger.accounts key)
  | @returns changed terms held =>
      rcases eq_or_ne key changed with rfl | other
      · simpa [held] using Status.Le.returned terms
      · simpa [other] using Status.Le.same (ledger.accounts key)

theorem Steps.le (steps : Steps payout ledger after) (key : Key) :
    (ledger.accounts key).Le (after.accounts key) := by
  induction steps with
  | refl => exact .same _
  | tail _ step ih => exact ih.trans (step.le key)

/-- The openings and payouts of every key are those of its status. -/
structure Balanced (payout : Terms → Payout) (ledger : Ledger Key Terms Payout) :
    Prop where
  opened : ∀ key, ledger.opened.count key = (ledger.accounts key).openings
  paidOut : ∀ key, ledger.payoutsOf key = (ledger.accounts key).payouts payout

theorem balanced_empty : Balanced payout (Ledger.empty : Ledger Key Terms Payout) where
  opened _ := rfl
  paidOut _ := rfl

theorem Step.balanced (step : Step payout ledger after)
    (balanced : Balanced payout ledger) : Balanced payout after := by
  cases step with
  | @opens changed terms absent =>
      constructor
      · intro key
        have before := balanced.opened key
        rcases eq_or_ne key changed with rfl | other
        · simpa [absent, Status.openings, List.count_append] using before
        · simpa [other, other.symm, List.count_append] using before
      · intro key
        have before := balanced.paidOut key
        rcases eq_or_ne key changed with rfl | other
        · simpa [absent, Status.payouts, Ledger.payoutsOf] using before
        · simpa [other, Ledger.payoutsOf] using before
  | @returns changed terms held =>
      constructor
      · intro key
        have before := balanced.opened key
        rcases eq_or_ne key changed with rfl | other
        · simpa [held, Status.openings] using before
        · simpa [other] using before
      · intro key
        have before := balanced.paidOut key
        rcases eq_or_ne key changed with rfl | other
        · simp only [held, Status.payouts, Ledger.payoutsOf] at before
          simp [Status.payouts, Ledger.payoutsOf, List.filterMap_append, before]
        · simpa [other, other.symm, Ledger.payoutsOf, List.filterMap_append] using before

theorem Steps.balanced (steps : Steps payout ledger after)
    (balanced : Balanced payout ledger) : Balanced payout after := by
  induction steps with
  | refl => exact balanced
  | tail _ step ih => exact step.balanced ih

end EscrowLedger
