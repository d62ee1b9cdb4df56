import IdHub.Reentrancy

/-!
# Contracts side by side

Contracts at several addresses, whose calls come in any order and from inside one
another.  A contract does not see the calls on the others, so what it guarantees on its
own, whatever strangers do, it guarantees of its share of a run of all of them.
-/

namespace Reentrancy

variable {Address Reason Call State : Type*} [DecidableEq Address]

/-- The contracts as one, whose calls name the address they are for. -/
def deployments (contracts : Address → Contract Reason Call State) :
    Contract Reason (Address × Call) (Address → State) := fun call states =>
  match contracts call.1 call.2 (states call.1) with
  | .error reason => .error reason
  | .ok (.done state) => .ok (.done (Function.update states call.1 state))
  | .ok (.external state onFail resume) =>
    .ok (.external (Function.update states call.1 state) onFail fun returned =>
      match resume (returned call.1) with
      | .error reason => .error reason
      | .ok final => .ok (Function.update returned call.1 final))

def callsOn (address : Address) (calls : List (Address × Call)) : List Call :=
  calls.filterMap fun call => if call.1 = address then some call.2 else none

/-- What the contract at the address sees of a world. -/
def World.seenFrom (address : Address) (world : World (Address × Call) (Address → State)) :
    World Call State :=
  ⟨world.state address, callsOn address world.history⟩

variable {contracts : Address → Contract Reason Call State} {address : Address}

theorem callsOn_subset {call : Call} {calls : List (Address × Call)}
    (member : call ∈ callsOn address calls) : (address, call) ∈ calls := by
  obtain ⟨⟨target, call'⟩, inCalls, kept⟩ := List.mem_filterMap.mp member
  by_cases same : target = address
  · simp only [same, if_true, Option.some.injEq] at kept
    rwa [same, kept] at inCalls
  · simp [same] at kept

theorem seenFrom_history_subset {world : World (Address × Call) (Address → State)} :
    (world.seenFrom address).history ⊆ world.history.map Prod.snd := by
  intro call member
  exact List.mem_map.mpr ⟨(address, call), callsOn_subset member, rfl⟩

section Views

variable (world : World (Address × Call) (Address → State)) (call : Address × Call)
variable (state : State)

theorem seenFrom_enter_self :
    (world.enter call (Function.update world.state call.1 state)).seenFrom call.1 =
      (world.seenFrom call.1).enter call.2 state := by
  simp [World.seenFrom, World.enter, callsOn]

theorem seenFrom_enter_other (other : address ≠ call.1) :
    (world.enter call (Function.update world.state call.1 state)).seenFrom address =
      world.seenFrom address := by
  simp [World.seenFrom, World.enter, callsOn, other, other.symm]

theorem seenFrom_resumed_self (target : Address) :
    (world.resumed (Function.update world.state target state)).seenFrom target =
      (world.seenFrom target).resumed state := by
  simp [World.seenFrom, World.resumed]

theorem seenFrom_resumed_other {target : Address} (other : address ≠ target) :
    (world.resumed (Function.update world.state target state)).seenFrom address =
      world.seenFrom address := by
  simp [World.seenFrom, World.resumed, other]

end Views

theorem deployments_ok {call : Address × Call} {states : Address → State}
    {phase : Phase Reason (Address → State)}
    (called : deployments contracts call states = .ok phase) :
    ∃ own, contracts call.1 call.2 (states call.1) = .ok own ∧
      phase.state = Function.update states call.1 own.state := by
  unfold deployments at called
  cases started : contracts call.1 call.2 (states call.1) with
  | error reason => simp [started] at called
  | ok own =>
      refine ⟨own, rfl, ?_⟩
      cases own with
      | done state =>
          simp only [started, Except.ok.injEq] at called
          rw [← called]
          rfl
      | external state onFail resume =>
          simp only [started, Except.ok.injEq] at called
          rw [← called]
          rfl

theorem deployments_external {call : Address × Call} {states middle : Address → State}
    {onFail : Reason} {resume : (Address → State) → Except Reason (Address → State)}
    (called : deployments contracts call states = .ok (.external middle onFail resume)) :
    ∃ state ownResume,
      contracts call.1 call.2 (states call.1) = .ok (.external state onFail ownResume) ∧
      middle = Function.update states call.1 state ∧
      ∀ returned final, resume returned = .ok final →
        ∃ own, ownResume (returned call.1) = .ok own ∧
          final = Function.update returned call.1 own := by
  unfold deployments at called
  cases started : contracts call.1 call.2 (states call.1) with
  | error reason => simp [started] at called
  | ok own =>
      cases own with
      | done state => simp [started] at called
      | external state ownFail ownResume =>
          simp only [started, Except.ok.injEq, Phase.external.injEq] at called
          obtain ⟨sameState, rfl, rfl⟩ := called
          refine ⟨state, ownResume, rfl, sameState.symm, ?_⟩
          intro returned final resumed
          simp only at resumed
          cases ended : ownResume (returned call.1) with
          | error reason => simp [ended] at resumed
          | ok own =>
              simp only [ended, Except.ok.injEq] at resumed
              exact ⟨own, rfl, resumed.symm⟩

/-- What each contract guarantees on its own, it guarantees beside the others. -/
theorem Guarantee.deployments {R : Address → World Call State → World Call State → Prop}
    (guarantees : ∀ address, Guarantee (contracts address) (R address)) :
    Guarantee (deployments contracts) fun world after =>
      ∀ address, R address (world.seenFrom address) (after.seenFrom address) where
  refl world address := (guarantees address).refl _
  trans first second address := (guarantees address).trans (first address) (second address)
  enter := by
    intro call world phase called address
    obtain ⟨own, started, entered⟩ := deployments_ok called
    rw [entered]
    rcases eq_or_ne address call.1 with rfl | other
    · rw [seenFrom_enter_self]
      exact (guarantees call.1).enter started
    · rw [seenFrom_enter_other _ _ _ other]
      exact (guarantees address).refl _
  resume := by
    intro call world middle onFail resume returned final called rely resumed address
    obtain ⟨state, ownResume, started, rfl, ended⟩ := deployments_external called
    obtain ⟨own, ownResumed, rfl⟩ := ended _ _ resumed
    have kept := rely address
    rcases eq_or_ne address call.1 with rfl | other
    · rw [seenFrom_enter_self] at kept
      rw [seenFrom_resumed_self]
      exact (guarantees call.1).resume started kept ownResumed
    · rw [seenFrom_enter_other _ _ _ other] at kept
      rwa [seenFrom_resumed_other _ _ other]

end Reentrancy
