import IdHub.CallTraces
import Mathlib.Algebra.BigOperators.Group.List.Basic
import Mathlib.Algebra.Order.Ring.Nat
import Mathlib.Logic.Relation

/-!
# Contracts whose calls hand control to strangers

A call on a contract either ends, or stops at one external call and resumes
when the callee returns.  The callee may do anything: call the contract again to
any depth, catch failures of its own calls, or revert.  What one concrete callee
does in one run is a `Script`, so a statement about every script is a statement
about every callee.  A frame that reverts leaves the world as it found it.

`Guarantee` is the rely-guarantee rule for such contracts: a relation that each
segment of code keeps, given that the callee kept it, holds across any script
and between its start and every world visited on the way.  `linearization`
instantiates it: where resuming does not touch a part of the state, that part is
the result of the successful calls taken as atomic steps in the order in which
they took effect.  `conservation` does so for an account of what the contract holds
against what it owes, and `accumulation` for a list that calls append to.
-/

namespace Reentrancy

open CallTraces

variable {Reason Call State View : Type*}

/-- Where a call stands when its first segment of code is over. -/
inductive Phase (Reason State : Type*) where
  | done (state : State)
  | external (state : State) (onFail : Reason)
      (resume : State → Except Reason State)

def Phase.state : Phase Reason State → State
  | .done state => state
  | .external state _ _ => state

abbrev Contract (Reason Call State : Type*) :=
  Call → State → Except Reason (Phase Reason State)

/-- The contract's state, with the calls that took effect in order. -/
structure World (Call State : Type*) where
  state : State
  history : List Call

namespace World

def enter (world : World Call State) (call : Call) (state : State) :
    World Call State :=
  ⟨state, world.history ++ [call]⟩

def resumed (world : World Call State) (state : State) : World Call State :=
  { world with state := state }

@[simp] theorem enter_state (world : World Call State) (call : Call) (state : State) :
    (world.enter call state).state = state := rfl

@[simp] theorem enter_history (world : World Call State) (call : Call)
    (state : State) : (world.enter call state).history = world.history ++ [call] := rfl

@[simp] theorem resumed_state (world : World Call State) (state : State) :
    (world.resumed state).state = state := rfl

@[simp] theorem resumed_history (world : World Call State) (state : State) :
    (world.resumed state).history = world.history := rfl

/-- A call is recorded before the calls of its callee. -/
theorem resumed_history_of_enter {world returned : World Call State} {call : Call}
    {state final : State} {later : List Call}
    (history : returned.history = (world.enter call state).history ++ later) :
    (returned.resumed final).history = world.history ++ call :: later := by
  rw [resumed_history, history, enter_history, List.append_assoc, List.singleton_append]

end World

/-- One call, with the behaviour of whatever it calls. -/
def settle (contract : Contract Reason Call State) (call : Call)
    (callee : World Call State → Option (World Call State))
    (world : World Call State) : Except Reason (World Call State) :=
  match contract call world.state with
  | .error reason => .error reason
  | .ok (.done state) => .ok (world.enter call state)
  | .ok (.external state onFail resume) =>
    match callee (world.enter call state) with
    | none => .error onFail
    | some returned =>
      match resume returned.state with
      | .error reason => .error reason
      | .ok final => .ok (returned.resumed final)

/-- What a party outside the contract does while it has control. -/
inductive Script (Call : Type*) where
  | done
  | revert
  /-- Make a call whose callee behaves as `callee`; go on whether or not the
  call reverted. -/
  | call (call : Call) (callee next : Script Call)
  /-- Make several calls in a frame of their own; go on whether or not the frame
  reverted. -/
  | attempt (inner next : Script Call)

/-- Run a script.  No result means that the script reverts. -/
def exec (contract : Contract Reason Call State) :
    Script Call → World Call State → Option (World Call State)
  | .done, world => some world
  | .revert, _ => none
  | .call call callee next, world =>
    match settle contract call (exec contract callee) world with
    | .error _ => exec contract next world
    | .ok after => exec contract next after
  | .attempt inner next, world =>
    match exec contract inner world with
    | none => exec contract next world
    | some after => exec contract next after

def transact (contract : Contract Reason Call State) (world : World Call State)
    (transaction : Script Call) : World Call State :=
  (exec contract transaction world).getD world

def run (contract : Contract Reason Call State) (transactions : List (Script Call))
    (world : World Call State) : World Call State :=
  transactions.foldl (transact contract) world

/-- The worlds in which the party running the script, or a callee it reaches,
has control.  They include worlds of frames that revert afterwards. -/
inductive Visits (contract : Contract Reason Call State) :
    Script Call → World Call State → World Call State → Prop
  | here (script : Script Call) (world : World Call State) :
      Visits contract script world world
  | inside {call : Call} {callee next : Script Call}
      {world visited : World Call State} {state : State} {onFail : Reason}
      {resume : State → Except Reason State}
      (started : contract call world.state = .ok (.external state onFail resume))
      (visits : Visits contract callee (world.enter call state) visited) :
      Visits contract (.call call callee next) world visited
  | afterFailure {call : Call} {callee next : Script Call}
      {world visited : World Call State} {reason : Reason}
      (failed : settle contract call (exec contract callee) world = .error reason)
      (visits : Visits contract next world visited) :
      Visits contract (.call call callee next) world visited
  | afterCall {call : Call} {callee next : Script Call}
      {world after visited : World Call State}
      (settled : settle contract call (exec contract callee) world = .ok after)
      (visits : Visits contract next after visited) :
      Visits contract (.call call callee next) world visited
  | insideFrame {inner next : Script Call} {world visited : World Call State}
      (visits : Visits contract inner world visited) :
      Visits contract (.attempt inner next) world visited
  | afterRevert {inner next : Script Call} {world visited : World Call State}
      (reverted : exec contract inner world = none)
      (visits : Visits contract next world visited) :
      Visits contract (.attempt inner next) world visited
  | afterFrame {inner next : Script Call} {world after visited : World Call State}
      (completed : exec contract inner world = some after)
      (visits : Visits contract next after visited) :
      Visits contract (.attempt inner next) world visited

/-- A world visited in some run from `initial`, inside a transaction or between
two. -/
def Reached (contract : Contract Reason Call State)
    (initial world : World Call State) : Prop :=
  ∃ transactions script, Visits contract script (run contract transactions initial) world

variable {contract : Contract Reason Call State}

theorem settle_eq_ok {call : Call}
    {callee : World Call State → Option (World Call State)}
    {world after : World Call State} :
    settle contract call callee world = .ok after ↔
      (∃ state, contract call world.state = .ok (.done state) ∧
        after = world.enter call state) ∨
      (∃ state onFail resume returned final,
        contract call world.state = .ok (.external state onFail resume) ∧
        callee (world.enter call state) = some returned ∧
        resume returned.state = .ok final ∧ after = returned.resumed final) := by
  unfold settle
  cases started : contract call world.state with
  | error reason => simp
  | ok phase =>
      cases phase with
      | done state => simp [eq_comm]
      | external state onFail resume =>
          simp only [Except.ok.injEq, reduceCtorEq, false_and, exists_false,
            Phase.external.injEq, false_or]
          cases called : callee (world.enter call state) with
          | none => simp [called]
          | some returned =>
              cases resumed : resume returned.state with
              | error reason => simp [called, resumed]
              | ok final => simp [called, resumed, eq_comm]

theorem cases_of_map_state {first second : Option (World Call State)}
    (same : first.map World.state = second.map World.state) :
    (first = none ∧ second = none) ∨ ∃ world world', first = some world ∧
      second = some world' ∧ world.state = world'.state := by
  cases first with
  | none =>
      rw [Option.map_none, eq_comm, Option.map_eq_none_iff] at same
      exact .inl ⟨rfl, same⟩
  | some world =>
      rw [Option.map_some, eq_comm, Option.map_eq_some_iff] at same
      obtain ⟨world', found, states⟩ := same
      exact .inr ⟨world, world', rfl, found, states.symm⟩

/-- The history is a record only: what a script does to the state does not depend on
it. -/
theorem exec_state_congr {script : Script Call} {world world' : World Call State}
    (same : world.state = world'.state) :
    (exec contract script world).map World.state =
      (exec contract script world').map World.state := by
  induction script generalizing world world' with
  | done => simp [exec, same]
  | revert => rfl
  | call call callee next calleeIH nextIH =>
      simp only [exec, settle, same]
      cases contract call world'.state with
      | error reason => exact nextIH same
      | ok phase =>
          cases phase with
          | done state => exact nextIH rfl
          | external state onFail resume =>
              have entered : (exec contract callee (world.enter call state)).map World.state =
                  (exec contract callee (world'.enter call state)).map World.state :=
                calleeIH rfl
              rcases cases_of_map_state entered with
                ⟨first, second⟩ | ⟨returned, returned', first, second, states⟩
              · simp only [first, second]
                exact nextIH same
              · simp only [first, second, states]
                cases resume returned'.state with
                | error reason => exact nextIH same
                | ok final => exact nextIH rfl
  | attempt inner next innerIH nextIH =>
      simp only [exec]
      rcases cases_of_map_state (innerIH same) with
        ⟨first, second⟩ | ⟨after, after', first, second, states⟩
      · simp only [first, second]
        exact nextIH same
      · simp only [first, second]
        exact nextIH states

/-- A script that completes does so after any other history, in the same state. -/
theorem exec_of_state {script : Script Call} {world world' after : World Call State}
    (same : world.state = world'.state) (executed : exec contract script world = some after) :
    ∃ after', exec contract script world' = some after' ∧ after'.state = after.state := by
  have states : (exec contract script world).map World.state =
      (exec contract script world').map World.state := exec_state_congr same
  rw [executed, Option.map_some, eq_comm, Option.map_eq_some_iff] at states
  exact states

/-- `R` holds across each segment of the contract's code. -/
structure Guarantee (contract : Contract Reason Call State)
    (R : World Call State → World Call State → Prop) : Prop where
  refl : ∀ world, R world world
  trans : ∀ {first second third}, R first second → R second third → R first third
  enter : ∀ {call world phase}, contract call world.state = .ok phase →
    R world (world.enter call phase.state)
  resume : ∀ {call world state onFail resume returned final},
    contract call world.state = .ok (.external state onFail resume) →
    R (world.enter call state) returned → resume returned.state = .ok final →
    R world (returned.resumed final)

namespace Guarantee

variable {R : World Call State → World Call State → Prop}

theorem settle (guarantee : Guarantee contract R) {call : Call}
    {callee : World Call State → Option (World Call State)}
    (rely : ∀ world after, callee world = some after → R world after)
    {world after : World Call State}
    (settled : settle contract call callee world = .ok after) : R world after := by
  rcases settle_eq_ok.mp settled with ⟨state, started, rfl⟩ |
    ⟨state, onFail, resume, returned, final, started, called, resumed, rfl⟩
  · exact guarantee.enter started
  · exact guarantee.resume started (rely _ _ called) resumed

theorem exec (guarantee : Guarantee contract R) {script : Script Call}
    {world after : World Call State}
    (completed : exec contract script world = some after) : R world after := by
  induction script generalizing world after with
  | done =>
      simp only [Reentrancy.exec, Option.some.injEq] at completed
      rw [← completed]
      exact guarantee.refl world
  | revert => simp [Reentrancy.exec] at completed
  | call call callee next calleeIH nextIH =>
      simp only [Reentrancy.exec] at completed
      split at completed
      · exact nextIH completed
      · next middle settled =>
          have first : R world middle :=
            guarantee.settle (fun _ _ called => calleeIH called) settled
          exact guarantee.trans first (nextIH completed)
  | attempt inner next innerIH nextIH =>
      simp only [Reentrancy.exec] at completed
      split at completed
      · exact nextIH completed
      · next middle framed => exact guarantee.trans (innerIH framed) (nextIH completed)

theorem run (guarantee : Guarantee contract R) (transactions : List (Script Call))
    (world : World Call State) : R world (run contract transactions world) := by
  induction transactions generalizing world with
  | nil => exact guarantee.refl world
  | cons transaction later ih =>
      refine guarantee.trans ?_ (ih _)
      unfold transact
      cases completed : Reentrancy.exec contract transaction world with
      | none => exact guarantee.refl world
      | some after => exact guarantee.exec completed

theorem visits (guarantee : Guarantee contract R) {script : Script Call}
    {world visited : World Call State} (visits : Visits contract script world visited) :
    R world visited := by
  induction visits with
  | here script world => exact guarantee.refl world
  | inside started _ ih => exact guarantee.trans (guarantee.enter started) ih
  | afterFailure _ _ ih => exact ih
  | afterCall settled _ ih =>
      have first := guarantee.settle (fun _ _ called => guarantee.exec called) settled
      exact guarantee.trans first ih
  | insideFrame _ ih => exact ih
  | afterRevert _ _ ih => exact ih
  | afterFrame completed _ ih => exact guarantee.trans (guarantee.exec completed) ih

theorem reached (guarantee : Guarantee contract R) {initial world : World Call State}
    (reached : Reached contract initial world) : R initial world := by
  obtain ⟨transactions, script, visits⟩ := reached
  exact guarantee.trans (guarantee.run transactions initial) (guarantee.visits visits)

end Guarantee

/-- When each segment of code takes some steps in an abstract view of the state,
so does every script. -/
theorem refinement (view : State → View) {Step : View → View → Prop}
    (enter : ∀ {call state phase}, contract call state = .ok phase →
      Relation.ReflTransGen Step (view state) (view phase.state))
    (resume : ∀ {call state middle onFail resume returned final},
      contract call state = .ok (.external middle onFail resume) →
      resume returned = .ok final →
      Relation.ReflTransGen Step (view returned) (view final)) :
    Guarantee contract (fun world after =>
      Relation.ReflTransGen Step (view world.state) (view after.state)) where
  refl _ := .refl
  trans := .trans
  enter := enter
  resume started kept resumed :=
    ((enter started).trans kept).trans (resume started resumed)

/-- When resuming a call leaves the view of the state alone, the successful calls
are atomic steps of the view, in the order in which they took effect. -/
theorem linearization (view : State → View) {Step : Call → View → View → Prop}
    (enter : ∀ {call state phase}, contract call state = .ok phase →
      Step call (view state) (view phase.state))
    (resume : ∀ {call state middle onFail resume returned final},
      contract call state = .ok (.external middle onFail resume) →
      resume returned = .ok final → view final = view returned) :
    Guarantee contract (fun world after => ∃ later,
      after.history = world.history ++ later ∧
        Trace Step (view world.state) later (view after.state)) where
  refl world := ⟨[], by simp, .nil _⟩
  trans := by
    rintro first second third ⟨calls, history, trace⟩ ⟨later, history', trace'⟩
    refine ⟨calls ++ later, ?_, trace.append trace'⟩
    rw [history', history, List.append_assoc]
  enter := by
    intro call world phase started
    exact ⟨[call], rfl, .single (enter started)⟩
  resume := by
    rintro call world state onFail resumption returned final started
      ⟨later, history, trace⟩ resumed
    refine ⟨call :: later, ?_, .cons (enter started) ?_⟩
    · exact World.resumed_history_of_enter history
    · have unchanged : view final = view returned.state := resume started resumed
      simpa [Phase.state, unchanged] using trace

/-- When each segment of code changes the assets by what the call brings in and
what it changes in the claims, so does every script. -/
theorem conservation (assets claims : State → ℕ) (inflow : Call → ℕ)
    (enter : ∀ {call state phase}, contract call state = .ok phase →
      assets phase.state + claims state = assets state + claims phase.state + inflow call)
    (resume : ∀ {call state middle onFail resume returned final},
      contract call state = .ok (.external middle onFail resume) →
      resume returned = .ok final →
      assets final + claims returned = assets returned + claims final) :
    Guarantee contract (fun world after => ∃ later,
      after.history = world.history ++ later ∧
        assets after.state + claims world.state =
          assets world.state + claims after.state + (later.map inflow).sum) where
  refl world := ⟨[], by simp, by simp⟩
  trans := by
    rintro first second third ⟨calls, history, before⟩ ⟨later, history', after⟩
    refine ⟨calls ++ later, ?_, ?_⟩
    · rw [history', history, List.append_assoc]
    · rw [List.map_append, List.sum_append]
      omega
  enter := by
    intro call world phase started
    have entered := enter started
    exact ⟨[call], rfl, by simpa using entered⟩
  resume := by
    rintro call world state onFail resumption returned final started
      ⟨later, history, kept⟩ resumed
    refine ⟨call :: later, World.resumed_history_of_enter history, ?_⟩
    have entered : assets state + claims world.state =
        assets world.state + claims state + inflow call := enter started
    have left := resume started resumed
    simp only [World.enter_state] at kept
    simp only [World.resumed_state, List.map_cons, List.sum_cons]
    omega

/-- When each call appends its entries to a list in the state, and resuming leaves the
list alone, a script appends the entries of the calls that took effect. -/
theorem accumulation {Entry : Type*} (list : State → List Entry)
    (entries : Call → List Entry)
    (enter : ∀ {call state phase}, contract call state = .ok phase →
      list phase.state = list state ++ entries call)
    (resume : ∀ {call state middle onFail resume returned final},
      contract call state = .ok (.external middle onFail resume) →
      resume returned = .ok final → list final = list returned) :
    Guarantee contract (fun world after => ∃ later,
      after.history = world.history ++ later ∧
        list after.state = list world.state ++ later.flatMap entries) where
  refl world := ⟨[], by simp, by simp⟩
  trans := by
    rintro first second third ⟨calls, history, before⟩ ⟨later, history', after⟩
    refine ⟨calls ++ later, ?_, ?_⟩
    · rw [history', history, List.append_assoc]
    · rw [after, before, List.flatMap_append, List.append_assoc]
  enter := by
    intro call world phase started
    exact ⟨[call], rfl, by simpa using enter started⟩
  resume := by
    rintro call world state onFail resumption returned final started
      ⟨later, history, kept⟩ resumed
    refine ⟨call :: later, World.resumed_history_of_enter history, ?_⟩
    have entered : list state = list world.state ++ entries call := enter started
    have left : list final = list returned.state := resume started resumed
    simp only [World.enter_state] at kept
    rw [World.resumed_state, left, kept, entered, List.flatMap_cons, List.append_assoc]

end Reentrancy
