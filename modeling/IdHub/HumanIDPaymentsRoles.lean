import IdHub.Authority
import IdHub.SignatureReplay

/-!
# Who governs the payment contract

The roles and the oracle are what calls of `grantRole`, `revokeRole`, `renounceRole`
and `setOracleAddress` make of them, one after the other, whatever the recipients of
transfers do.  The calls that are reserved to a role take effect only for its holders, and
once nobody may grant roles any more, nobody gains one.
-/

namespace IdHub

namespace HumanIDPayments

open Authority CallTraces Guards Reentrancy

/-- The role that a function is reserved to with `onlyRole`. -/
def Entrypoint.reserved (env : Environment) : Entrypoint → Option Bytes32
  | .forceRefund _ => some (ADMIN_ROLE env)
  | .withdraw _ => some (ADMIN_ROLE env)
  | .withdrawTo _ _ => some (ADMIN_ROLE env)
  | .withdrawAll => some (ADMIN_ROLE env)
  | .setOracleAddress _ => some (ADMIN_ROLE env)
  | .grantRole _ _ => some DEFAULT_ADMIN_ROLE
  | .revokeRole _ _ => some DEFAULT_ADMIN_ROLE
  | _ => none

def Message.grant? (m : Message) : Option (Bytes32 × Address) :=
  match m.entrypoint with
  | .grantRole role account => some (role, account)
  | _ => none

def regime (env : Environment) : Regime Message Address Bytes32 where
  caller := Message.sender
  reserved m := m.entrypoint.reserved env
  appoints := Message.grant?
  appoints_reserved := by
    intro m
    unfold Message.grant?
    cases m.entrypoint <;> simp [Entrypoint.reserved]

structure Governance where
  hasRole : Bytes32 → Address → Bool
  oracleAddress : Address

namespace Governance

def setRole (governance : Governance) (role : Bytes32) (account : Address) (held : Bool) :
    Governance :=
  { governance with
    hasRole := Function.update governance.hasRole role
      (Function.update (governance.hasRole role) account held) }

def Holds (governance : Governance) (role : Bytes32) (account : Address) : Prop :=
  governance.hasRole role account = true

theorem setRole_of_eq {governance : Governance} {role : Bytes32} {account : Address}
    {held : Bool} (already : governance.hasRole role account = held) :
    governance.setRole role account held = governance := by
  rw [setRole, ← already, Function.update_eq_self, Function.update_eq_self]

theorem holds_of_setRole {governance : Governance} {role role' : Bytes32}
    {account account' : Address} {held : Bool}
    (holds : (governance.setRole role account held).Holds role' account') :
    governance.Holds role' account' ∨ (role = role' ∧ account = account' ∧ held = true) := by
  unfold Holds setRole at holds
  unfold Holds
  by_cases sameRole : role' = role
  · subst sameRole
    by_cases sameAccount : account' = account
    · subst sameAccount
      exact .inr ⟨rfl, rfl, by simpa using holds⟩
    · exact .inl (by simpa [sameAccount] using holds)
  · exact .inl (by simpa [sameRole] using holds)

/-- What the constructor sets up. -/
def founded (env : Environment) (deployer oracleAddress : Address) : Governance :=
  (setRole (setRole ⟨fun _ _ => false, oracleAddress⟩ DEFAULT_ADMIN_ROLE deployer true)
    (ADMIN_ROLE env) deployer true)

end Governance

/-- What a call that takes effect makes of the governance. -/
def Message.govern (governance : Governance) (m : Message) : Governance :=
  match m.entrypoint with
  | .setOracleAddress newOracle => { governance with oracleAddress := newOracle }
  | .grantRole role account => governance.setRole role account true
  | .revokeRole role account => governance.setRole role account false
  | .renounceRole role account => governance.setRole role account false
  | _ => governance

def governanceAfter (initial : Governance) (calls : List Message) : Governance :=
  calls.foldl Message.govern initial

def State.governance (s : State) : Governance := ⟨s.hasRole, s.oracleAddress⟩

/-- A call made by a holder of the role that it is reserved to. -/
structure Governed (env : Environment) (m : Message) (before after : Governance) : Prop where
  authorized : ∀ role, m.entrypoint.reserved env = some role → before.Holds role m.sender
  oracle : ∀ newOracle, m.entrypoint = .setOracleAddress newOracle → newOracle ≠ 0
  effect : after = m.govern before

variable {env : Environment} {m : Message} {s t : State} {phase : Phase Error State}

section Updates

theorem governance_grantRole_ (sender : Address) (role : Bytes32) (account : Address) :
    (grantRole_ sender role account s).governance =
      s.governance.setRole role account true := by
  unfold grantRole_
  split
  · next already => exact (Governance.setRole_of_eq already).symm
  · rfl

theorem governance_revokeRole_ (sender : Address) (role : Bytes32) (account : Address) :
    (revokeRole_ sender role account s).governance =
      s.governance.setRole role account false := by
  unfold revokeRole_
  split
  · rfl
  · next unheld =>
      have already : s.governance.hasRole role account = false := Bool.not_eq_true _ ▸ unheld
      exact (Governance.setRole_of_eq already).symm

theorem governance_processPayment {commitment service : Bytes32} {amount timestamp : U256}
    {signature : WordBytes.Bytes}
    (processed : processPayment env m commitment service amount timestamp signature s =
      .ok t) : t.governance = s.governance := by
  obtain ⟨-, -, rfl⟩ := processPayment_ok processed
  rfl

theorem governance_processPayments {commitments services : List Bytes32}
    {amounts timestamps : List U256} {signatures : List WordBytes.Bytes}
    (processed : processPayments env m commitments services amounts timestamps signatures s =
      .ok t) : t.governance = s.governance := by
  induction commitments, services, amounts, timestamps, signatures, s using
    processPayments.induct with
  | case1 commitment commitments service services amount amounts timestamp
      timestamps signature signatures s ih =>
      simp only [processPayments, bind_eq_ok] at processed
      obtain ⟨middle, first, rest⟩ := processed
      exact (ih middle rest).trans (governance_processPayment first)
  | case2 commitments services amounts timestamps signatures s exhausted =>
      rw [processPayments] at processed
      · simp only [Except.ok.injEq] at processed
        rw [processed]
      · exact exhausted

theorem sendValue_governance {purpose : Purpose} {recipient : Address} {amount : ℕ}
    {afterwards : State → State}
    (called : sendValue purpose recipient amount afterwards s = .ok phase) :
    phase.state.governance = s.governance := by
  simp only [sendValue, bind_eq_ok, pure_eq_ok] at called
  obtain ⟨-, -, rfl⟩ := called
  rfl

theorem refundPayment_governance {purpose : Purpose} {commitment : Bytes32}
    {issued : Bytes32 → Address → U256 → Event}
    (called : refundPayment purpose issued commitment s = .ok phase) :
    phase.state.governance = s.governance := by
  unfold refundPayment at called
  exact (sendValue_governance called).trans rfl

end Updates

/-- What stands behind `onlyRole` runs for holders of the role only. -/
theorem holds_of_onlyRole {required role : Bytes32} {body : Except Error (Phase Error State)}
    (called : (do nonPayable m; onlyRole m required s; body) = .ok phase)
    (reserved : some required = some role) : s.governance.Holds role m.sender := by
  simp only [onlyRole, bind_eq_ok, require_eq_ok] at called
  obtain ⟨-, -, -, held, -⟩ := called
  exact Option.some.inj reserved ▸ held

theorem contract_authorized (called : contract env m s = .ok phase) {role : Bytes32}
    (reserved : m.entrypoint.reserved env = some role) : s.governance.Holds role m.sender := by
  unfold contract at called
  cases entry : m.entrypoint with
  | forceRefund commitment =>
      rw [entry] at called reserved
      exact holds_of_onlyRole called reserved
  | withdraw amount =>
      rw [entry] at called reserved
      exact holds_of_onlyRole called reserved
  | withdrawTo amount recipient =>
      rw [entry] at called reserved
      exact holds_of_onlyRole called reserved
  | withdrawAll =>
      rw [entry] at called reserved
      exact holds_of_onlyRole called reserved
  | setOracleAddress newOracle =>
      rw [entry] at called reserved
      exact holds_of_onlyRole called reserved
  | grantRole granted account =>
      rw [entry] at called reserved
      exact holds_of_onlyRole called reserved
  | revokeRole revoked account =>
      rw [entry] at called reserved
      exact holds_of_onlyRole called reserved
  | _ => simp [entry, Entrypoint.reserved] at reserved

theorem contract_oracle (called : contract env m s = .ok phase) {newOracle : Address}
    (entry : m.entrypoint = .setOracleAddress newOracle) : newOracle ≠ 0 := by
  simp only [contract, entry, setOracleAddress, bind_eq_ok, revertIf_eq_ok] at called
  obtain ⟨-, -, -, -, -, nonzero, -⟩ := called
  exact nonzero

theorem contract_govern (called : contract env m s = .ok phase) :
    phase.state.governance = m.govern s.governance := by
  cases contract_started called with
  | pay entry processed =>
      rw [Message.govern, entry]
      exact (governance_processPayment processed).trans rfl
  | batchPay entry _ _ processed =>
      rw [Message.govern, entry]
      exact (governance_processPayments processed).trans rfl
  | refund entry _ _ refunded =>
      rw [Message.govern, entry]
      exact refundPayment_governance refunded
  | forceRefund entry _ refunded =>
      rw [Message.govern, entry]
      exact refundPayment_governance refunded
  | withdraw entry sent =>
      rw [Message.govern, entry]
      exact sendValue_governance sent
  | withdrawTo entry sent =>
      rw [Message.govern, entry]
      exact sendValue_governance sent
  | withdrawAll entry sent =>
      rw [Message.govern, entry]
      exact sendValue_governance sent
  | grantRole entry =>
      rw [Message.govern, entry]
      exact governance_grantRole_ _ _ _
  | revokeRole entry =>
      rw [Message.govern, entry]
      exact governance_revokeRole_ _ _ _
  | renounceRole entry =>
      rw [Message.govern, entry]
      exact governance_revokeRole_ _ _ _
  | deposit entry => rw [Message.govern, entry]; rfl
  | receive entry => rw [Message.govern, entry]; rfl
  | setOracleAddress entry => rw [Message.govern, entry]; rfl
  | forcedEther entry => rw [Message.govern, entry]; rfl

theorem contract_governed (called : contract env m s = .ok phase) :
    Governed env m s.governance phase.state.governance where
  authorized _ reserved := contract_authorized called reserved
  oracle _ entry := contract_oracle called entry
  effect := contract_govern called

/-- Resuming after a transfer only emits an event. -/
theorem contract_resume_emits {middle returned final : State} {onFail : Error}
    {resume : State → Except Error State}
    (called : contract env m s = .ok (.external middle onFail resume))
    (resumed : resume returned = .ok final) : ∃ event, final = returned.emit event := by
  cases contract_journaled called with
  | sends _ _ =>
      simp only [Except.ok.injEq] at resumed
      exact ⟨_, resumed.symm⟩

/-- The calls that take effect govern the contract one after the other. -/
theorem contract_governs (env : Environment) :
    Guarantee (contract env) (fun world after => ∃ later,
      after.history = world.history ++ later ∧
        Trace (Governed env) world.state.governance later after.state.governance) := by
  apply linearization State.governance
  · intro call state phase called
    exact contract_governed called
  · intro call state middle onFail resume returned final called resumed
    obtain ⟨event, rfl⟩ := contract_resume_emits called resumed
    rfl

theorem governance_constructor {deployer oracleAddress : Address} {balance : ℕ}
    (deployed : constructor env deployer oracleAddress balance = .ok s) :
    s.governance = .founded env deployer oracleAddress ∧ oracleAddress ≠ 0 := by
  simp only [constructor, bind_eq_ok, revertIf_eq_ok, pure_eq_ok] at deployed
  obtain ⟨-, nonzero, rfl⟩ := deployed
  rw [governance_grantRole_, governance_grantRole_]
  exact ⟨rfl, nonzero⟩

theorem governance_of_trace {calls : List Message} {before after : Governance}
    (trace : Trace (Governed env) before calls after) : after = governanceAfter before calls := by
  induction trace with
  | nil => rfl
  | cons first rest ih =>
      rw [first.effect] at ih
      exact ih

theorem trace_of_deployment {deployer oracleAddress : Address} {balance : ℕ}
    (deployed : constructor env deployer oracleAddress balance = .ok s)
    {world : World Message State} (reached : Reached (contract env) ⟨s, []⟩ world) :
    Trace (Governed env) (.founded env deployer oracleAddress) world.history
      world.state.governance := by
  obtain ⟨later, history, trace⟩ := (contract_governs env).reached reached
  rw [(governance_constructor deployed).1] at trace
  rw [history]
  exact trace

/-- In every world that a run reaches, also inside a transaction, the roles and the oracle
are what the calls made of them, the oracle is not zero, and each call that is reserved to a
role was made by an account that held it at the time. -/
theorem calls_govern {deployer oracleAddress : Address} {balance : ℕ}
    (deployed : constructor env deployer oracleAddress balance = .ok s)
    {world : World Message State} (reached : Reached (contract env) ⟨s, []⟩ world) :
    world.state.governance =
        governanceAfter (.founded env deployer oracleAddress) world.history ∧
      world.state.oracleAddress ≠ 0 ∧
      ∀ pre call post, world.history = pre ++ call :: post → ∀ role,
        call.entrypoint.reserved env = some role →
        (governanceAfter (.founded env deployer oracleAddress) pre).Holds role call.sender := by
  have trace := trace_of_deployment deployed reached
  refine ⟨governance_of_trace trace, ?_, ?_⟩
  · apply trace.invariant (P := fun governance => governance.oracleAddress ≠ 0)
    · intro call before after step nonzero
      rw [step.effect, Message.govern]
      cases entry : call.entrypoint with
      | setOracleAddress newOracle => exact step.oracle newOracle entry
      | _ => exact nonzero
    · exact (governance_constructor deployed).2
  · intro pre call post split role reserved
    rw [split] at trace
    obtain ⟨enter, leave, earlier, step, -⟩ := trace.split_at
    rw [← governance_of_trace earlier]
    exact step.authorized role reserved

theorem Governed.lawful {before after : Governance} (governed : Governed env m before after) :
    Lawful (regime env) m before.Holds after.Holds where
  authorized := governed.authorized
  appointed := by
    intro role account held
    rw [governed.effect] at held
    unfold Message.govern at held
    cases entry : m.entrypoint with
    | grantRole granted appointed =>
        rw [entry] at held
        rcases Governance.holds_of_setRole held with already | ⟨rfl, rfl, -⟩
        · exact .inl already
        · exact .inr (by simp [regime, Message.grant?, entry])
    | revokeRole revoked removed =>
        rw [entry] at held
        exact .inl ((Governance.holds_of_setRole held).resolve_right (by simp))
    | renounceRole renounced removed =>
        rw [entry] at held
        exact .inl ((Governance.holds_of_setRole held).resolve_right (by simp))
    | _ =>
        rw [entry] at held
        exact .inl held

/-- When the last holder of `DEFAULT_ADMIN_ROLE` is gone, nobody gains a role any more. -/
theorem roles_frozen {world later : World Message State}
    (vacant : ∀ account, world.state.hasRole DEFAULT_ADMIN_ROLE account = false)
    (reached : Reached (contract env) world later) :
    (∀ role account, later.state.hasRole role account = true →
        world.state.hasRole role account = true) ∧
      ∃ calls, later.history = world.history ++ calls ∧
        ∀ call ∈ calls, call.entrypoint.reserved env ≠ some DEFAULT_ADMIN_ROLE := by
  obtain ⟨calls, history, trace⟩ := (contract_governs env).reached reached
  have lawful : Trace (Lawful (regime env)) world.state.governance.Holds calls
      later.state.governance.Holds :=
    trace.map Governance.Holds fun _ _ _ governed => governed.lawful
  have rooted : ∀ call, ((regime env).appoints call).isSome →
      (regime env).reserved call = some DEFAULT_ADMIN_ROLE := by
    intro call appoints
    simp only [regime, Message.grant?] at appoints ⊢
    cases entry : call.entrypoint with
    | grantRole role account => rfl
    | _ => simp [entry] at appoints
  have unheld : ∀ account, ¬ world.state.governance.Holds DEFAULT_ADMIN_ROLE account :=
    fun account held => Bool.false_ne_true ((vacant account).symm.trans held)
  obtain ⟨holders, callers⟩ := vacant_of_trace rooted lawful unheld
  exact ⟨holders, calls, history, callers⟩

section Sample

/-- The deployer makes another account admin, which withdraws, and gives up its own role of
appointing admins. -/
def handover : List (Script Message) :=
  [.call ⟨0xad, 0, 1000, .grantRole (ADMIN_ROLE sampleEnvironment) 0xbb⟩ .done .done,
    .call ⟨0xba, 5, 1000, .deposit⟩ .done .done,
    .call ⟨0xbb, 0, 1000, .withdraw 3⟩ .done .done,
    .call ⟨0xad, 0, 1000, .renounceRole DEFAULT_ADMIN_ROLE 0xad⟩ .done .done]

def handoverWorld : World Message State :=
  run (contract sampleEnvironment) handover ⟨sampleDeployed, []⟩

theorem reached_handoverWorld :
    Reached (contract sampleEnvironment) ⟨sampleDeployed, []⟩ handoverWorld :=
  ⟨handover, .done, .here .done _⟩

theorem history_handoverWorld : handoverWorld.history =
    [⟨0xad, 0, 1000, .grantRole (ADMIN_ROLE sampleEnvironment) 0xbb⟩,
      ⟨0xba, 5, 1000, .deposit⟩, ⟨0xbb, 0, 1000, .withdraw 3⟩,
      ⟨0xad, 0, 1000, .renounceRole DEFAULT_ADMIN_ROLE 0xad⟩] := by
  rfl

theorem handover_governed :
    handoverWorld.state.governance =
        governanceAfter (.founded sampleEnvironment 0xad sampleOracle) handoverWorld.history ∧
      handoverWorld.state.oracleAddress ≠ 0 ∧
      ∀ pre call post, handoverWorld.history = pre ++ call :: post → ∀ role,
        call.entrypoint.reserved sampleEnvironment = some role →
        (governanceAfter (.founded sampleEnvironment 0xad sampleOracle) pre).Holds role
          call.sender :=
  calls_govern constructor_sample reached_handoverWorld

theorem vacant_handoverWorld (account : Address) :
    handoverWorld.state.hasRole DEFAULT_ADMIN_ROLE account = false := by
  have governed := governance_of_trace
    (trace_of_deployment constructor_sample reached_handoverWorld)
  rw [history_handoverWorld] at governed
  have roles := congrArg (fun governance => governance.hasRole DEFAULT_ADMIN_ROLE account)
    governed
  have distinct : DEFAULT_ADMIN_ROLE ≠ ADMIN_ROLE sampleEnvironment := by decide +kernel
  refine roles.trans ?_
  by_cases deployer : account = 0xad
  · simp [governanceAfter, Message.govern, Governance.setRole, deployer]
  · simp [governanceAfter, Message.govern, Governance.setRole, Governance.founded, distinct]

/-- The deployer tries to appoint another admin, and the admin withdraws again. -/
def afterHandover : World Message State :=
  run (contract sampleEnvironment)
    [.call ⟨0xad, 0, 1000, .grantRole (ADMIN_ROLE sampleEnvironment) 0xcc⟩ .done .done,
      .call ⟨0xbb, 0, 1000, .withdraw 1⟩ .done .done] handoverWorld

theorem handover_frozen :
    (∀ role account, afterHandover.state.hasRole role account = true →
        handoverWorld.state.hasRole role account = true) ∧
      ∃ calls, afterHandover.history = handoverWorld.history ++ calls ∧
        ∀ call ∈ calls,
          call.entrypoint.reserved sampleEnvironment ≠ some DEFAULT_ADMIN_ROLE :=
  roles_frozen vacant_handoverWorld ⟨_, .done, .here .done _⟩

end Sample

end HumanIDPayments

end IdHub
