import IdHub.Simulations

/-!
# Journals

A journal beside the state of a contract notes the calls that took effect and, when a
callee returns, the call that it returned to and what took effect meanwhile.  The
contract does not read it, so its runs are those of the contract without it.  With it a
statement about all worlds of a run can speak of the calls that have returned by then:
`JournalRule` says what to prove about one call, and about what comes around and after it.
-/

namespace Reentrancy

variable {Reason Call State : Type*}

/-- A call to which its callee has returned. -/
structure Return (Call State : Type*) where
  call : Call
  /-- The state in which the callee got control. -/
  entered : State
  /-- The calls that took effect while it had control. -/
  meanwhile : List Call

structure Journaled (Call State : Type*) where
  state : State
  calls : List Call
  returns : List (Return Call State)

def Journaled.start (state : State) : Journaled Call State :=
  ⟨state, [], []⟩

def journaled (contract : Contract Reason Call State) :
    Contract Reason Call (Journaled Call State) := fun call journal =>
  match contract call journal.state with
  | .error reason => .error reason
  | .ok (.done state) => .ok (.done ⟨state, journal.calls ++ [call], journal.returns⟩)
  | .ok (.external state onFail resume) =>
    .ok (.external ⟨state, journal.calls ++ [call], journal.returns⟩ onFail fun returned =>
      match resume returned.state with
      | .error reason => .error reason
      | .ok final => .ok ⟨final, returned.calls, returned.returns ++
          [⟨call, state, returned.calls.drop (journal.calls.length + 1)⟩]⟩)

variable {contract : Contract Reason Call State}

theorem journal_forgotten : Simulation (journaled contract) contract
    (fun journal state => state = journal.state) some where
  visible := by
    rintro call _ journal _ phase called ⟨⟩ rfl
    unfold journaled at called
    cases started : contract call journal.state with
    | error reason => simp [started] at called
    | ok own =>
        refine ⟨own, rfl, ?_⟩
        cases own with
        | done state =>
            simp only [started, Except.ok.injEq] at called
            rw [← called]
            exact .done rfl
        | external state onFail resume =>
            simp only [started, Except.ok.injEq] at called
            rw [← called]
            refine .external rfl ?_
            rintro returned _ rfl
            cases resume returned.state with
            | error reason => exact .error _ _
            | ok final => exact .ok rfl
  invisible := by
    rintro call journal state phase called untranslated
    cases untranslated

theorem journal_kept : Simulation contract (journaled contract)
    (fun state journal => state = journal.state) some where
  visible := by
    rintro call _ _ journal phase called ⟨⟩ rfl
    unfold journaled
    rw [called]
    cases phase with
    | done state => exact ⟨_, rfl, .done rfl⟩
    | external state onFail resume =>
        refine ⟨_, rfl, .external rfl ?_⟩
        rintro _ returned rfl
        cases resume returned.state with
        | error reason => exact .error _ _
        | ok final => exact .ok rfl
  invisible := by
    rintro call state journal phase called untranslated
    cases untranslated

/-- Runs with a journal are runs without it, and every run can be given one. -/
theorem reached_journaled_iff {initial : State} {state : State} {history : List Call} :
    Reached contract ⟨initial, []⟩ ⟨state, history⟩ ↔
      ∃ journal : Journaled Call State, journal.state = state ∧
        Reached (journaled contract) ⟨.start initial, []⟩ ⟨journal, history⟩ := by
  constructor
  · intro reached
    have start : Follows (fun state (journal : Journaled Call State) => state = journal.state)
        (some : Call → Option Call) ⟨initial, []⟩ ⟨.start initial, []⟩ := start_follows rfl
    obtain ⟨⟨journal, history'⟩, reached', sameState, sameHistory⟩ :=
      journal_kept.reached start reached
    have allCalls : history' = history := by simpa using sameHistory
    rw [allCalls] at reached'
    exact ⟨journal, sameState.symm, reached'⟩
  · rintro ⟨journal, rfl, reached⟩
    have start : Follows (fun (journal : Journaled Call State) state => state = journal.state)
        (some : Call → Option Call) ⟨.start initial, []⟩ ⟨initial, []⟩ := start_follows rfl
    obtain ⟨⟨state, history'⟩, reached', sameState, sameHistory⟩ :=
      journal_forgotten.reached start reached
    have last : state = journal.state := sameState
    have allCalls : history' = history := by simpa using sameHistory
    rwa [last, allCalls] at reached'

section Journaled

variable {call : Call} {journal : Journaled Call State}

theorem journaled_ok {phase : Phase Reason (Journaled Call State)}
    (called : journaled contract call journal = .ok phase) :
    ∃ own, contract call journal.state = .ok own ∧
      phase.state = ⟨own.state, journal.calls ++ [call], journal.returns⟩ := by
  unfold journaled at called
  cases started : contract call journal.state with
  | error reason => simp [started] at called
  | ok own =>
      refine ⟨own, rfl, ?_⟩
      cases own with
      | done state =>
          simp only [started, Except.ok.injEq] at called
          rw [← called]
          rfl
      | external state onFail resume =>
          simp only [started, Except.ok.injEq] at called
          rw [← called]
          rfl

theorem journaled_returned {entered returned final : Journaled Call State} {onFail : Reason}
    {resume : Journaled Call State → Except Reason (Journaled Call State)}
    (called : journaled contract call journal = .ok (.external entered onFail resume))
    (resumed : resume returned = .ok final) :
    ∃ state ownResume ended, contract call journal.state = .ok (.external state onFail ownResume) ∧
      entered = ⟨state, journal.calls ++ [call], journal.returns⟩ ∧
      ownResume returned.state = .ok ended ∧
      final = ⟨ended, returned.calls, returned.returns ++
        [⟨call, state, returned.calls.drop (journal.calls.length + 1)⟩]⟩ := by
  unfold journaled at called
  cases started : contract call journal.state with
  | error reason => simp [started] at called
  | ok own =>
      cases own with
      | done state => simp [started] at called
      | external state ownFail ownResume =>
          simp only [started, Except.ok.injEq, Phase.external.injEq] at called
          obtain ⟨rfl, rfl, rfl⟩ := called
          cases ended : ownResume returned.state with
          | error reason => simp [ended] at resumed
          | ok state' =>
              simp only [ended, Except.ok.injEq] at resumed
              exact ⟨state, ownResume, state', rfl, rfl, ended, resumed.symm⟩

end Journaled

/-- `Kept` holds across the calls that take effect, and `Good` of every returned call from
the state where some script starts to where it stands. -/
structure JournalRule (contract : Contract Reason Call State)
    (Kept : State → List Call → State → Prop)
    (Good : Return Call State → State → State → Prop) : Prop where
  refl : ∀ state, Kept state [] state
  trans : ∀ {first calls second later third}, Kept first calls second →
    Kept second later third → Kept first (calls ++ later) third
  enter : ∀ {call state phase}, contract call state = .ok phase →
    Kept state [call] phase.state
  resume : ∀ {call state entered onFail resume calls returned final},
    contract call state = .ok (.external entered onFail resume) →
    Kept entered calls returned → resume returned = .ok final →
    Kept state (call :: calls) final
  /-- The call that returns. -/
  own : ∀ {call state entered onFail resume calls returned final},
    contract call state = .ok (.external entered onFail resume) →
    Kept entered calls returned → resume returned = .ok final →
    Good ⟨call, entered, calls⟩ state final
  /-- Those that returned inside it. -/
  inner : ∀ {call state entered onFail resume calls returned final ret},
    contract call state = .ok (.external entered onFail resume) →
    Kept entered calls returned → resume returned = .ok final →
    Good ret entered returned → Good ret state final
  /-- Those that returned before or after some calls. -/
  before : ∀ {first second calls third ret}, Good ret first second →
    Kept second calls third → Good ret first third
  after : ∀ {first calls second third ret}, Kept first calls second →
    Good ret second third → Good ret first third

namespace JournalRule

variable {Kept : State → List Call → State → Prop}
variable {Good : Return Call State → State → State → Prop}

theorem guarantee (rule : JournalRule contract Kept Good) :
    Guarantee (journaled contract) fun world after => ∃ later returns,
      after.state.calls = world.state.calls ++ later ∧
      after.state.returns = world.state.returns ++ returns ∧
      Kept world.state.state later after.state.state ∧
      ∀ ret ∈ returns, Good ret world.state.state after.state.state where
  refl world := ⟨[], [], by simp, by simp, rule.refl _, by simp⟩
  trans := by
    rintro first second third ⟨calls, earlier, allCalls, allReturns, kept, good⟩
      ⟨later, returns, allCalls', allReturns', kept', good'⟩
    refine ⟨calls ++ later, earlier ++ returns, ?_, ?_, rule.trans kept kept', ?_⟩
    · rw [allCalls', allCalls, List.append_assoc]
    · rw [allReturns', allReturns, List.append_assoc]
    · intro ret member
      rcases List.mem_append.mp member with left | right
      · exact rule.before (good ret left) kept'
      · exact rule.after kept (good' ret right)
  enter := by
    intro call world phase called
    obtain ⟨own, started, entered⟩ := journaled_ok called
    simp only [World.enter_state, entered]
    exact ⟨[call], [], rfl, (List.append_nil _).symm, rule.enter started, by simp⟩
  resume := by
    rintro call world journal onFail resume returned final called
      ⟨later, returns, allCalls, allReturns, kept, good⟩ resumed
    obtain ⟨state, ownResume, ended, started, rfl, ends, rfl⟩ :=
      journaled_returned called resumed
    simp only [World.enter_state] at allCalls allReturns kept good
    have meanwhile : returned.state.calls.drop (world.state.calls.length + 1) = later := by
      rw [allCalls]
      simp
    simp only [World.resumed_state]
    refine ⟨call :: later, returns ++ [⟨call, state, later⟩], ?_, ?_, ?_, ?_⟩
    · rw [allCalls, List.append_assoc]
      rfl
    · rw [allReturns, meanwhile, List.append_assoc]
    · exact rule.resume started kept ends
    · intro ret member
      rcases List.mem_append.mp member with inside | self
      · exact rule.inner started kept ends (good ret inside)
      · rw [List.mem_singleton.mp self]
        exact rule.own started kept ends

/-- What is good of a call when it returns is good in every later world of the run. -/
theorem reached (rule : JournalRule contract Kept Good) {initial : State}
    {world : World Call (Journaled Call State)}
    (reached : Reached (journaled contract) ⟨.start initial, []⟩ world) :
    ∀ ret ∈ world.state.returns, Good ret initial world.state.state := by
  obtain ⟨later, returns, -, allReturns, -, good⟩ := rule.guarantee.reached reached
  intro ret member
  rw [allReturns] at member
  exact good ret member

end JournalRule

end Reentrancy
