import IdHub.Reentrancy

/-!
# One contract simulates another

Two contracts and a relation between their states.  When a call starts on the first
contract, either its translation starts on the second one, at related states up to its
end or its external call and again after it, or the call ends at once and the second
contract need not notice.  Then the second contract follows every run of the first: the
scripts are those of the first with translated calls, without the calls that did not even
start.
-/

namespace Reentrancy

variable {Reason Reason' Call Call' State State' : Type*}

/-- Two results that both fail or are related. -/
inductive Agree {Value Value' : Type*} (Related : Value → Value' → Prop) :
    Except Reason Value → Except Reason' Value' → Prop
  | error (reason : Reason) (reason' : Reason') : Agree Related (.error reason) (.error reason')
  | ok {value : Value} {value' : Value'} (related : Related value value') :
      Agree Related (.ok value) (.ok value')

inductive PhasesAgree (Related : State → State' → Prop) :
    Phase Reason State → Phase Reason' State' → Prop
  | done {state : State} {state' : State'} (related : Related state state') :
      PhasesAgree Related (.done state) (.done state')
  | external {state : State} {state' : State'} {onFail : Reason} {onFail' : Reason'}
      {resume : State → Except Reason State} {resume' : State' → Except Reason' State'}
      (related : Related state state')
      (resumes : ∀ returned returned', Related returned returned' →
        Agree Related (resume returned) (resume' returned')) :
      PhasesAgree Related (.external state onFail resume) (.external state' onFail' resume')

structure Simulation (contract : Contract Reason Call State)
    (contract' : Contract Reason' Call' State') (Related : State → State' → Prop)
    (translate : Call → Option Call') : Prop where
  visible : ∀ {call call' state state' phase}, contract call state = .ok phase →
    translate call = some call' → Related state state' →
    ∃ phase', contract' call' state' = .ok phase' ∧ PhasesAgree Related phase phase'
  invisible : ∀ {call state state' phase}, contract call state = .ok phase →
    translate call = none → Related state state' →
    ∃ after, phase = .done after ∧ Related after state'

/-- The script of the second contract that follows a script run from a world of the
first. -/
def translation (contract : Contract Reason Call State) (translate : Call → Option Call') :
    Script Call → World Call State → Script Call'
  | .done, _ => .done
  | .revert, _ => .revert
  | .call call callee next, world =>
    let after := (settle contract call (exec contract callee) world).toOption.getD world
    match contract call world.state, translate call with
    | .ok phase, some call' =>
      .call call' (translation contract translate callee (world.enter call phase.state))
        (translation contract translate next after)
    | _, _ => translation contract translate next after
  | .attempt inner next, world =>
    .attempt (translation contract translate inner world)
      (translation contract translate next ((exec contract inner world).getD world))

/-- The transactions that follow those of a run of the first contract. -/
def translations (contract : Contract Reason Call State) (translate : Call → Option Call') :
    List (Script Call) → World Call State → List (Script Call')
  | [], _ => []
  | transaction :: later, world =>
    translation contract translate transaction world ::
      translations contract translate later (transact contract world transaction)

/-- The states are related and the calls that took effect are translations. -/
structure Follows (Related : State → State' → Prop) (translate : Call → Option Call')
    (world : World Call State) (world' : World Call' State') : Prop where
  state : Related world.state world'.state
  history : world'.history = world.history.filterMap translate

variable {contract : Contract Reason Call State} {contract' : Contract Reason' Call' State'}
variable {Related : State → State' → Prop} {translate : Call → Option Call'}
variable {world : World Call State} {world' : World Call' State'}

theorem start_follows {state : State} {state' : State'} (related : Related state state') :
    Follows Related translate (⟨state, []⟩ : World Call State) ⟨state', []⟩ :=
  ⟨related, rfl⟩

theorem Follows.enter (follows : Follows Related translate world world') {call : Call}
    {call' : Call'} (translated : translate call = some call') {state : State}
    {state' : State'} (related : Related state state') :
    Follows Related translate (world.enter call state) (world'.enter call' state') where
  state := related
  history := by simp [follows.history, translated]

theorem Follows.stay (follows : Follows Related translate world world') {call : Call}
    (untranslated : translate call = none) {state : State}
    (related : Related state world'.state) :
    Follows Related translate (world.enter call state) world' where
  state := related
  history := by simp [follows.history, untranslated]

theorem Follows.resumed (follows : Follows Related translate world world') {state : State}
    {state' : State'} (related : Related state state') :
    Follows Related translate (world.resumed state) (world'.resumed state') where
  state := related
  history := follows.history

section Translation

variable {call : Call} {callee next : Script Call}

theorem translation_of_error {reason : Reason}
    (failed : contract call world.state = .error reason) :
    translation contract translate (.call call callee next) world =
      translation contract translate next world := by
  simp only [translation, failed, settle]
  rfl

theorem translation_of_invisible {phase : Phase Reason State}
    (started : contract call world.state = .ok phase) (untranslated : translate call = none) :
    translation contract translate (.call call callee next) world =
      translation contract translate next
        ((settle contract call (exec contract callee) world).toOption.getD world) := by
  simp only [translation, started, untranslated]

theorem translation_of_visible {phase : Phase Reason State} {call' : Call'}
    (started : contract call world.state = .ok phase)
    (translated : translate call = some call') :
    translation contract translate (.call call callee next) world =
      .call call' (translation contract translate callee (world.enter call phase.state))
        (translation contract translate next
          ((settle contract call (exec contract callee) world).toOption.getD world)) := by
  simp only [translation, started, translated]

end Translation

namespace Simulation

variable (sim : Simulation contract contract' Related translate)

include sim

/-- Calls whose callees behave alike settle alike. -/
theorem settle {call : Call} {call' : Call'} {phase : Phase Reason State}
    (started : contract call world.state = .ok phase)
    (translated : translate call = some call')
    (follows : Follows Related translate world world')
    {callee : World Call State → Option (World Call State)}
    {callee' : World Call' State' → Option (World Call' State')}
    (callees : ∀ entered', Follows Related translate (world.enter call phase.state) entered' →
      Option.Rel (Follows Related translate) (callee (world.enter call phase.state))
        (callee' entered')) :
    Agree (Follows Related translate) (settle contract call callee world)
      (settle contract' call' callee' world') := by
  obtain ⟨phase', started', agree⟩ := sim.visible started translated follows.state
  unfold Reentrancy.settle
  rw [started, started']
  cases agree with
  | done related => exact .ok (follows.enter translated related)
  | @external state state' onFail onFail' resume resume' related resumes =>
      have executed := callees _ (follows.enter translated related)
      simp only [Phase.state] at executed ⊢
      generalize callee (world.enter call state) = result at executed ⊢
      generalize callee' (world'.enter call' state') = result' at executed ⊢
      cases executed with
      | none => exact .error _ _
      | some followed =>
          have resumed := resumes _ _ followed.state
          simp only
          generalize resume _ = ended at resumed ⊢
          generalize resume' _ = ended' at resumed ⊢
          cases resumed with
          | error reason reason' => exact .error _ _
          | ok final => exact .ok (followed.resumed final)

theorem exec (script : Script Call) (follows : Follows Related translate world world') :
    Option.Rel (Follows Related translate) (exec contract script world)
      (exec contract' (translation contract translate script world) world') := by
  induction script generalizing world world' with
  | done => exact .some follows
  | revert => exact .none
  | call call callee next calleeIH nextIH =>
      simp only [Reentrancy.exec]
      cases started : contract call world.state with
      | error reason =>
          rw [translation_of_error started]
          simp only [Reentrancy.settle, started]
          exact nextIH follows
      | ok phase =>
          cases translated : translate call with
          | none =>
              rw [translation_of_invisible started translated]
              obtain ⟨after, rfl, related⟩ := sim.invisible started translated follows.state
              simp only [Reentrancy.settle, started]
              exact nextIH (follows.stay translated related)
          | some call' =>
              rw [translation_of_visible started translated]
              have settled := sim.settle started translated follows fun entered' entered =>
                calleeIH entered
              simp only [Reentrancy.exec]
              generalize Reentrancy.settle contract call _ world = result at settled ⊢
              generalize Reentrancy.settle contract' call' _ world' = result' at settled ⊢
              cases settled with
              | error reason reason' => exact nextIH follows
              | ok followed => exact nextIH followed
  | attempt inner next innerIH nextIH =>
      have framed := innerIH follows
      simp only [Reentrancy.exec, translation]
      generalize Reentrancy.exec contract inner world = result at framed ⊢
      generalize Reentrancy.exec contract' _ world' = result' at framed ⊢
      cases framed with
      | none => exact nextIH follows
      | some followed => exact nextIH followed

theorem run (transactions : List (Script Call))
    (follows : Follows Related translate world world') :
    Follows Related translate (run contract transactions world)
      (run contract' (translations contract translate transactions world) world') := by
  induction transactions generalizing world world' with
  | nil => exact follows
  | cons transaction later ih =>
      apply ih
      unfold transact
      have executed := sim.exec transaction follows
      generalize Reentrancy.exec contract transaction world = result at executed ⊢
      generalize Reentrancy.exec contract' _ world' = result' at executed ⊢
      cases executed with
      | none => exact follows
      | some followed => exact followed

section Calls

variable {call : Call} {next : Script Call} {visited : World Call State}

theorem settle_exec (callee : Script Call) {call' : Call'} {phase : Phase Reason State}
    (started : contract call world.state = .ok phase)
    (translated : translate call = some call')
    (follows : Follows Related translate world world') :
    Agree (Follows Related translate)
      (Reentrancy.settle contract call (Reentrancy.exec contract callee) world)
      (Reentrancy.settle contract' call' (Reentrancy.exec contract'
        (translation contract translate callee (world.enter call phase.state))) world') :=
  sim.settle started translated follows fun _ entered => sim.exec callee entered

theorem visits_afterFailure {callee : Script Call} {reason : Reason}
    (failed : Reentrancy.settle contract call (Reentrancy.exec contract callee) world =
      .error reason)
    (follows : Follows Related translate world world')
    (later : ∃ visited', Visits contract' (translation contract translate next world) world'
      visited' ∧ Follows Related translate visited visited') :
    ∃ visited', Visits contract' (translation contract translate (.call call callee next) world)
      world' visited' ∧ Follows Related translate visited visited' := by
  cases started : contract call world.state with
  | error reason' =>
      rw [translation_of_error started]
      exact later
  | ok phase =>
      cases translated : translate call with
      | none =>
          obtain ⟨after, rfl, -⟩ := sim.invisible started translated follows.state
          simp [Reentrancy.settle, started] at failed
      | some call' =>
          rw [translation_of_visible started translated, failed]
          have settled := sim.settle_exec callee started translated follows
          rw [failed] at settled
          generalize result : Reentrancy.settle contract' call' _ world' = outcome at settled
          cases settled with
          | error _ reason' =>
              obtain ⟨visited', visits', followed⟩ := later
              exact ⟨visited', .afterFailure result visits', followed⟩

theorem visits_afterCall {callee : Script Call} {after : World Call State}
    (settles : Reentrancy.settle contract call (Reentrancy.exec contract callee) world =
      .ok after)
    (follows : Follows Related translate world world')
    (later : ∀ {after'}, Follows Related translate after after' →
      ∃ visited', Visits contract' (translation contract translate next after) after'
        visited' ∧ Follows Related translate visited visited') :
    ∃ visited', Visits contract' (translation contract translate (.call call callee next) world)
      world' visited' ∧ Follows Related translate visited visited' := by
  cases started : contract call world.state with
  | error reason => simp [Reentrancy.settle, started] at settles
  | ok phase =>
      cases translated : translate call with
      | none =>
          rw [translation_of_invisible started translated, settles]
          obtain ⟨state, rfl, related⟩ := sim.invisible started translated follows.state
          simp only [Reentrancy.settle, started, Except.ok.injEq] at settles
          apply later
          rw [← settles]
          exact follows.stay translated related
      | some call' =>
          rw [translation_of_visible started translated, settles]
          have settled := sim.settle_exec callee started translated follows
          rw [settles] at settled
          generalize result : Reentrancy.settle contract' call' _ world' = outcome at settled
          cases settled with
          | ok followed =>
              obtain ⟨visited', visits', followed'⟩ := later followed
              exact ⟨visited', .afterCall result visits', followed'⟩

end Calls

/-- Wherever strangers have control on the first contract, they have it on the second. -/
theorem visits {script : Script Call} {visited : World Call State}
    (visits : Visits contract script world visited)
    (follows : Follows Related translate world world') :
    ∃ visited', Visits contract' (translation contract translate script world) world' visited' ∧
      Follows Related translate visited visited' := by
  induction visits generalizing world' with
  | here script world => exact ⟨world', .here _ _, follows⟩
  | @inside call callee next world visited state onFail resume started _ ih =>
      cases translated : translate call with
      | none =>
          obtain ⟨after, ended, -⟩ := sim.invisible started translated follows.state
          cases ended
      | some call' =>
          rw [translation_of_visible started translated]
          obtain ⟨phase', started', agree⟩ := sim.visible started translated follows.state
          cases agree with
          | external related resumes =>
              obtain ⟨visited', visits', followed⟩ := ih (follows.enter translated related)
              exact ⟨visited', .inside started' visits', followed⟩
  | afterFailure failed _ ih => exact sim.visits_afterFailure failed follows (ih follows)
  | afterCall settles _ ih => exact sim.visits_afterCall settles follows ih
  | insideFrame _ ih =>
      obtain ⟨visited', visits', followed⟩ := ih follows
      exact ⟨visited', .insideFrame visits', followed⟩
  | @afterRevert inner next world visited reverted _ ih =>
      have executed := sim.exec inner follows
      rw [reverted] at executed
      generalize result : Reentrancy.exec contract' _ world' = outcome at executed
      cases executed with
      | none =>
          obtain ⟨visited', visits', followed⟩ := ih follows
          refine ⟨visited', ?_, followed⟩
          rw [translation, reverted]
          exact .afterRevert result visits'
  | @afterFrame inner next world after visited completed _ ih =>
      have executed := sim.exec inner follows
      rw [completed] at executed
      generalize result : Reentrancy.exec contract' _ world' = outcome at executed
      cases executed with
      | some followed =>
          obtain ⟨visited', visits', followed'⟩ := ih followed
          refine ⟨visited', ?_, followed'⟩
          rw [translation, completed]
          exact .afterFrame result visits'

theorem reached {initial : World Call State} {initial' : World Call' State'}
    (follows : Follows Related translate initial initial')
    (reached : Reached contract initial world) :
    ∃ world', Reached contract' initial' world' ∧ Follows Related translate world world' := by
  obtain ⟨transactions, script, visits⟩ := reached
  obtain ⟨world', visits', followed⟩ := sim.visits visits (sim.run transactions follows)
  exact ⟨world', ⟨_, _, visits'⟩, followed⟩

end Simulation

end Reentrancy
