import IdHub.V3CleanHands

/-!
# The birthdate of the clean-hands circuit

The credential's name hash is recomputed from the names that are encrypted.  The
encrypted birthdate is an input of its own, and no constraint relates it to the
credential's `customFields[0]`, so it can be replaced in every satisfied
assignment.
-/

namespace IdHub

namespace V3CleanHands

/-- The encrypted birthdate is the one in the credential. -/
def BirthdateBinding (w : Signals) : Prop :=
  w.msgs 2 = w.customFields ⟨0, Nat.two_pos⟩

/-- Replace the birthdate, and the message that it is. -/
def Signals.withBirthdate (w : Signals) (birthdate : Fr) : Signals :=
  { w with
    birthdate := birthdate
    msgs := ![w.firstName, w.lastName, birthdate]
    firstTwentyFourBytesOfY := ![w.firstName, w.lastName, birthdate] }

/-- The two inputs agree on everything but the birthdate. -/
def SameButBirthdate (first second : Inputs) : Prop :=
  { first with birthdate := second.birthdate } = second

variable {lib : Circomlib} {w : Signals}

theorem Satisfies.withBirthdate (satisfied : Satisfies lib w) (birthdate : Fr) :
    Satisfies lib (w.withBirthdate birthdate) :=
  { satisfied with
    msgs := rfl
    msgs_eq := fun _ => rfl }

/-- Whatever the inputs other than the birthdate, the constraints bind it only if
they cannot be satisfied with these inputs at all. -/
theorem birthdateBinding_iff_unsatisfiable (inputs : Inputs) :
    (∀ w : Signals, Satisfies lib w → SameButBirthdate inputs w.toInputs →
        BirthdateBinding w) ↔
      ¬ ∃ w : Signals, Satisfies lib w ∧ SameButBirthdate inputs w.toInputs := by
  constructor
  · rintro binds ⟨w, satisfied, sameInputs⟩
    have forged := satisfied.withBirthdate (w.customFields 0 + 1)
    have sameForged : SameButBirthdate inputs
        (w.withBirthdate (w.customFields 0 + 1)).toInputs := by
      rw [SameButBirthdate] at sameInputs ⊢
      have rest := congrArg (fun found : Inputs =>
        { found with birthdate := w.customFields 0 + 1 }) sameInputs
      exact rest
    have bound : w.customFields 0 + 1 = w.customFields 0 := binds _ forged sameForged
    exact one_ne_zero (add_eq_left.mp bound)
  · intro unsatisfiable w satisfied sameInputs
    exact (unsatisfiable ⟨w, satisfied, sameInputs⟩).elim

/-- The credential of the sample assignment says `5`, and `6` can be encrypted. -/
theorem sampleAssignment_other_birthdate :
    Satisfies (Circomlib.reference samplePoseidon)
        (sampleAssignment.withBirthdate (6 : ℕ)) ∧
      ¬ BirthdateBinding (sampleAssignment.withBirthdate (6 : ℕ)) := by
  refine ⟨satisfies_sampleAssignment.withBirthdate _, ?_⟩
  intro binds
  have equal : ((6 : ℕ) : Fr) = ((5 : ℕ) : Fr) := binds
  revert equal
  decide +kernel

end V3CleanHands

end IdHub
