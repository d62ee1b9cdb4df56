import Mathlib.Data.List.Basic

/-!
# Keys that are used once

Some calls use a key.  A key is in one of two modes: no call of the history used it, or
exactly one did, and the state says so.  A call that uses a key must find it in the
first mode, and a call that does not must leave what the state says of it alone; then
every history keeps the modes.
-/

namespace SingleUse

variable {Call Use Key : Type*} [DecidableEq Key]

/-- The uses of a key in a history, in order. -/
def usesOf (use? : Call → Option Use) (key : Use → Key) (wanted : Key)
    (history : List Call) : List Use :=
  (history.filterMap use?).filter fun use => key use = wanted

/-- What the state says of a key: that it is unused, or what it was used for. -/
inductive Mode (uses : List Use) (Unused : Prop) (Used : Use → Prop) : Prop
  | unused (absent : uses = []) (holds : Unused)
  | used (use : Use) (once : uses = [use]) (holds : Used use)

variable {use? : Call → Option Use} {key : Use → Key} {wanted : Key}
variable {history : List Call} {call : Call}

theorem usesOf_append (first second : List Call) :
    usesOf use? key wanted (first ++ second) =
      usesOf use? key wanted first ++ usesOf use? key wanted second := by
  rw [usesOf, List.filterMap_append, List.filter_append]
  rfl

theorem usesOf_append_self {use : Use} (uses : use? call = some use)
    (same : key use = wanted) :
    usesOf use? key wanted (history ++ [call]) = usesOf use? key wanted history ++ [use] := by
  rw [usesOf_append]
  simp [usesOf, uses, same]

theorem usesOf_append_other (others : ∀ use, use? call = some use → key use ≠ wanted) :
    usesOf use? key wanted (history ++ [call]) = usesOf use? key wanted history := by
  rw [usesOf_append]
  cases uses : use? call with
  | none => simp [usesOf, uses]
  | some use => simp [usesOf, uses, others use uses]

theorem mem_usesOf {use : Use} : use ∈ usesOf use? key wanted history ↔
    (∃ call ∈ history, use? call = some use) ∧ key use = wanted := by
  simp [usesOf, List.mem_filterMap]

variable {Unused Unused' : Prop} {Used Used' : Use → Prop}

theorem Mode.length_le {uses : List Use} (mode : Mode uses Unused Used) : uses.length ≤ 1 := by
  cases mode with
  | unused absent holds => simp [absent]
  | used use once holds => simp [once]

theorem Mode.eq_of_mem {uses : List Use} (mode : Mode uses Unused Used) {first second : Use}
    (isUse : first ∈ uses) (isUse' : second ∈ uses) : first = second := by
  cases mode with
  | unused absent holds =>
      rw [absent] at isUse
      cases isUse
  | used use once holds =>
      rw [once, List.mem_singleton] at isUse isUse'
      rw [isUse, isUse']

/-- One call: `Unused` and `Used` are what the state says before it, and `Unused'` and
`Used'` what it says afterwards. -/
theorem Mode.step (mode : Mode (usesOf use? key wanted history) Unused Used)
    (takes : ∀ use, use? call = some use → key use = wanted →
      (∀ earlier, ¬ Used earlier) ∧ Used' use)
    (keeps : (∀ use, use? call = some use → key use ≠ wanted) →
      (Unused → Unused') ∧ ∀ use, Used use → Used' use) :
    Mode (usesOf use? key wanted (history ++ [call])) Unused' Used' := by
  by_cases taken : ∃ use, use? call = some use ∧ key use = wanted
  · obtain ⟨use, uses, same⟩ := taken
    obtain ⟨fresh, after⟩ := takes use uses same
    cases mode with
    | unused absent holds =>
        apply Mode.used use
        · rw [usesOf_append_self uses same, absent, List.nil_append]
        · exact after
    | used earlier once holds => exact absurd holds (fresh earlier)
  · have others : ∀ use, use? call = some use → key use ≠ wanted :=
      fun use uses same => taken ⟨use, uses, same⟩
    obtain ⟨keepsUnused, keepsUsed⟩ := keeps others
    have unchanged : usesOf use? key wanted (history ++ [call]) =
        usesOf use? key wanted history := usesOf_append_other others
    cases mode with
    | unused absent holds => exact .unused (unchanged.trans absent) (keepsUnused holds)
    | used use once holds => exact .used use (unchanged.trans once) (keepsUsed use holds)

end SingleUse
