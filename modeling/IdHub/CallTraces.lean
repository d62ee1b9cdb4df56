import Mathlib.Logic.Basic
import Mathlib.Data.List.Basic

/-!
# Traces of atomic calls

A contract whose calls take effect one at a time is a relation `Step call before
after`.  A trace is a list of calls with the states between them.  This file
holds what every contract in the development uses of traces: how they compose,
where a call of the list stands in them, and how what each step preserves is
preserved by the whole trace.  Where a step is a function, a list of calls can be
run up to its first failure, or with failures skipped.
-/

namespace CallTraces

variable {Call State : Type*} {Step : Call → State → State → Prop}

/-- The calls, one after the other, take `before` to `after`. -/
inductive Trace (Step : Call → State → State → Prop) :
    State → List Call → State → Prop
  | nil (state : State) : Trace Step state [] state
  | cons {call : Call} {before middle after : State} {calls : List Call}
      (first : Step call before middle) (rest : Trace Step middle calls after) :
      Trace Step before (call :: calls) after

namespace Trace

theorem single {call : Call} {before after : State} (step : Step call before after) :
    Trace Step before [call] after :=
  .cons step (.nil after)

theorem append {before middle after : State} {calls later : List Call}
    (first : Trace Step before calls middle) (second : Trace Step middle later after) :
    Trace Step before (calls ++ later) after := by
  induction first with
  | nil state => exact second
  | cons step rest ih => exact .cons step (ih second)

/-- A view of the state under which steps are steps of another relation. -/
theorem map {View : Type*} {ViewStep : Call → View → View → Prop} (view : State → View)
    (steps : ∀ call enter leave, Step call enter leave →
      ViewStep call (view enter) (view leave))
    {before after : State} {calls : List Call} (trace : Trace Step before calls after) :
    Trace ViewStep (view before) calls (view after) := by
  induction trace with
  | nil state => exact .nil (view state)
  | cons first rest ih => exact .cons (steps _ _ _ first) ih

/-- A trace over a concatenation passes through a state between the two parts. -/
theorem split {before after : State} {calls later : List Call}
    (trace : Trace Step before (calls ++ later) after) :
    ∃ middle, Trace Step before calls middle ∧ Trace Step middle later after := by
  induction calls generalizing before with
  | nil => exact ⟨before, .nil before, trace⟩
  | cons call calls ih =>
      cases trace with
      | cons first rest =>
          obtain ⟨middle, left, right⟩ := ih rest
          exact ⟨middle, .cons first left, right⟩

/-- The step of one call of a trace, with the traces before and after it. -/
theorem split_at {before after : State} {pre post : List Call} {call : Call}
    (trace : Trace Step before (pre ++ call :: post) after) :
    ∃ enter leave, Trace Step before pre enter ∧ Step call enter leave ∧
      Trace Step leave post after := by
  obtain ⟨enter, earlier, rest⟩ := trace.split
  cases rest with
  | cons step later => exact ⟨enter, _, earlier, step, later⟩

theorem invariant_of_mem {P : State → Prop} {before after : State}
    {calls : List Call} (trace : Trace Step before calls after)
    (preserved : ∀ call ∈ calls, ∀ enter leave, Step call enter leave →
      P enter → P leave)
    (start : P before) : P after := by
  induction trace with
  | nil state => exact start
  | cons first rest ih =>
      apply ih
      · intro call member
        exact preserved call (List.mem_cons_of_mem _ member)
      · exact preserved _ List.mem_cons_self _ _ first start

/-- What every step preserves, a trace preserves. -/
theorem invariant {P : State → Prop} {before after : State} {calls : List Call}
    (trace : Trace Step before calls after)
    (preserved : ∀ call enter leave, Step call enter leave → P enter → P leave)
    (start : P before) : P after :=
  trace.invariant_of_mem (fun call _ => preserved call) start

/-- An invariant that speaks of the calls made so far. -/
theorem history_invariant {P : List Call → State → Prop} {before after : State}
    {calls : List Call} (trace : Trace Step before calls after)
    (preserved : ∀ earlier call enter leave, Step call enter leave →
      P earlier enter → P (earlier ++ [call]) leave)
    {earlier : List Call} (start : P earlier before) : P (earlier ++ calls) after := by
  induction trace generalizing earlier with
  | nil state => simpa using start
  | cons first rest ih =>
      have stepped := ih (preserved _ _ _ _ first start)
      simpa using stepped

end Trace

/-- One of the calls, with those before it, is so. -/
def Happened (P : List Call → Call → Prop) (calls : List Call) : Prop :=
  ∃ pre call post, calls = pre ++ call :: post ∧ P pre call

theorem Happened.append {P : List Call → Call → Prop} {calls : List Call}
    (happened : Happened P calls) (later : List Call) : Happened P (calls ++ later) := by
  obtain ⟨pre, call, post, rfl, holds⟩ := happened
  exact ⟨pre, call, post ++ later, by simp, holds⟩

theorem happened_last {P : List Call → Call → Prop} {calls : List Call} {call : Call}
    (holds : P calls call) : Happened P (calls ++ [call]) :=
  ⟨calls, call, [], rfl, holds⟩

/-- A state that some trace from `initial` ends in. -/
def Reachable (Step : Call → State → State → Prop) (initial state : State) : Prop :=
  ∃ calls, Trace Step initial calls state

theorem Reachable.invariant {P : State → Prop} {initial state : State}
    (reachable : Reachable Step initial state)
    (preserved : ∀ call enter leave, Step call enter leave → P enter → P leave)
    (start : P initial) : P state := by
  obtain ⟨calls, trace⟩ := reachable
  exact trace.invariant preserved start

section Executable

universe u

variable {Reason : Type u} {Call : Type*} {State : Type*}

/-- The steps of a step function: the calls that do not fail. -/
def Succeeds (step : Call → State → Except Reason State) (call : Call)
    (before after : State) : Prop :=
  step call before = .ok after

/-- The calls, one after the other, up to the first that fails. -/
def execCalls (step : Call → State → Except Reason State) :
    List Call → State → Except Reason State
  | [], state => .ok state
  | call :: calls, state =>
    match step call state with
    | .error reason => .error reason
    | .ok middle => execCalls step calls middle

theorem trace_of_execCalls {step : Call → State → Except Reason State}
    {calls : List Call} {before after : State}
    (executed : execCalls step calls before = .ok after) :
    Trace (Succeeds step) before calls after := by
  induction calls generalizing before with
  | nil =>
      simp only [execCalls, Except.ok.injEq] at executed
      rw [executed]
      exact .nil after
  | cons call calls ih =>
      rw [execCalls] at executed
      split at executed
      · cases executed
      · next middle first => exact .cons first (ih executed)

/-- The state after the calls, if they all succeed. -/
def finalState (step : Call → State → Except Reason State) (calls : List Call)
    (initial : State) : State :=
  (execCalls step calls initial).toOption.getD initial

theorem trace_finalState {step : Call → State → Except Reason State} {calls : List Call}
    {initial : State} (executed : (execCalls step calls initial).isOk = true) :
    Trace (Succeeds step) initial calls (finalState step calls initial) := by
  unfold finalState
  cases result : execCalls step calls initial with
  | error reason =>
      rw [result] at executed
      cases executed
  | ok state => exact trace_of_execCalls result

/-- One call, which changes nothing if it fails. -/
def attempt (step : Call → State → Except Reason State) (state : State) (call : Call) :
    State :=
  (step call state).toOption.getD state

/-- The calls, one after the other, without those that fail. -/
def attemptAll (step : Call → State → Except Reason State) (calls : List Call)
    (state : State) : State :=
  calls.foldl (attempt step) state

/-- For each call, whether it succeeds at its turn. -/
def outcomes (step : Call → State → Except Reason State) :
    List Call → State → List Bool
  | [], _ => []
  | call :: calls, state =>
    (step call state).isOk :: outcomes step calls (attempt step state call)

section Attempts

variable {step : Call → State → Except Reason State}

theorem attempt_ok {call : Call} {before after : State}
    (called : step call before = .ok after) : attempt step before call = after := by
  rw [attempt, called]
  rfl

theorem attempt_error {call : Call} {before : State} {reason : Reason}
    (failed : step call before = .error reason) : attempt step before call = before := by
  rw [attempt, failed]
  rfl

theorem isOk_iff {call : Call} {before : State} :
    (step call before).isOk = true ↔ ∃ after, step call before = .ok after := by
  cases step call before with
  | error reason => simp [Except.isOk, Except.toBool]
  | ok after => simp [Except.isOk, Except.toBool]

theorem length_outcomes (calls : List Call) (initial : State) :
    (outcomes step calls initial).length = calls.length := by
  induction calls generalizing initial with
  | nil => rfl
  | cons call calls ih => simp [outcomes, ih]

theorem outcomes_getElem? (calls : List Call) (initial : State) (index : ℕ) :
    (outcomes step calls initial)[index]? = calls[index]?.map fun call =>
      (step call (attemptAll step (calls.take index) initial)).isOk := by
  induction calls generalizing initial index with
  | nil => simp [outcomes]
  | cons call calls ih =>
      cases index with
      | zero => simp [outcomes, attemptAll]
      | succ index => simpa [outcomes, attemptAll] using ih _ index

/-- Calls that all succeed when failures are skipped succeed without skipping. -/
theorem execCalls_eq_attemptAll {calls : List Call} {initial : State}
    (succeed : ∀ outcome ∈ outcomes step calls initial, outcome = true) :
    execCalls step calls initial = .ok (attemptAll step calls initial) := by
  induction calls generalizing initial with
  | nil => rfl
  | cons call calls ih =>
      simp only [outcomes, List.forall_mem_cons] at succeed
      obtain ⟨first, rest⟩ := succeed
      rw [execCalls]
      cases called : step call initial with
      | error reason =>
          rw [called] at first
          cases first
      | ok middle =>
          rw [attempt_ok called] at rest
          simpa [attemptAll, attempt_ok called] using ih rest

theorem execCalls_error {calls : List Call} {initial : State}
    (fails : false ∈ outcomes step calls initial) :
    ∃ reason, execCalls step calls initial = .error reason := by
  induction calls generalizing initial with
  | nil => cases fails
  | cons call calls ih =>
      rw [execCalls]
      cases called : step call initial with
      | error reason => exact ⟨reason, rfl⟩
      | ok middle =>
          have succeeded : (step call initial).isOk = true := by
            rw [called]
            rfl
          simp only [outcomes, List.mem_cons, succeeded, attempt_ok called, reduceCtorEq,
            false_or] at fails
          exact ih fails

end Attempts

end Executable

end CallTraces
