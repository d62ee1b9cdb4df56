import IdHub.Authority
import IdHub.HubRecords

/-!
# Who governs the hub

The owner and the verifier are what calls of `transferOwnership`, `renounceOwnership` and
`changeVerifier` make of them, one after the other, whatever the receivers' hooks do.
Only the owner of the moment makes these calls, revokes and collects fees, and what
`getSBT` returns was signed by the verifier of the moment, for the fee that was paid.
-/

namespace IdHub

namespace Hub

open Authority CallTraces Guards Reentrancy

structure Governance where
  owner : Address
  verifier : Address

def State.governance (s : State) : Governance := ⟨s.owner, s.verifier⟩

/-- The functions with the modifier `onlyOwner`. -/
def Entrypoint.OnlyOwner : Entrypoint → Bool
  | .setSBT _ => false
  | .revokeSBT _ _ => true
  | .changeVerifier _ => true
  | .collectFees => true
  | .transferOwnership _ => true
  | .renounceOwnership => true
  | .approve _ _ => false
  | .setApprovalForAll _ _ => false
  | .transferFrom _ _ _ => false
  | .safeTransferFrom _ _ _ _ => false
  | .forcedEther => false

/-- Whom the call makes the owner; renouncing leaves the zero address. -/
def Message.newOwner? (m : Message) : Option Address :=
  match m.entrypoint with
  | .transferOwnership newOwner => some newOwner
  | .renounceOwnership => some 0
  | _ => none

def Message.govern (governance : Governance) (m : Message) : Governance :=
  match m.entrypoint with
  | .changeVerifier newVerifier => { governance with verifier := newVerifier }
  | .transferOwnership newOwner => { governance with owner := newOwner }
  | .renounceOwnership => { governance with owner := 0 }
  | _ => governance

def governanceAfter (initial : Governance) (calls : List Message) : Governance :=
  calls.foldl Message.govern initial

/-- What a call that takes effect went through. -/
structure Governed (env : Environment) (m : Message) (before after : Governance) : Prop where
  byOwner : m.entrypoint.OnlyOwner = true → m.sender = before.owner
  signed : ∀ args, m.entrypoint = .setSBT args →
    env.recover (args.digest env) args.signature = .ok before.verifier ∧
      m.value = args.customFee
  effect : after = m.govern before

variable {env : Environment} {m : Message} {s t : State} {phase : Phase Error State}

/-- What stands behind `onlyOwner` runs for the owner only. -/
theorem sender_of_onlyOwner {body : Except Error (Phase Error State)}
    (called : (do nonPayable m; onlyOwner m s; body) = .ok phase) : m.sender = s.owner := by
  simp only [onlyOwner, bind_eq_ok, require_eq_ok] at called
  obtain ⟨-, -, -, byOwner, -⟩ := called
  exact byOwner

theorem contract_onlyOwner (called : contract env m s = .ok phase)
    (reserved : m.entrypoint.OnlyOwner = true) : m.sender = s.owner := by
  unfold contract at called
  cases entry : m.entrypoint with
  | revokeSBT sbtOwner circuitId =>
      simp only [entry] at called
      exact sender_of_onlyOwner called
  | changeVerifier newVerifier =>
      simp only [entry] at called
      exact sender_of_onlyOwner called
  | collectFees =>
      simp only [entry] at called
      exact sender_of_onlyOwner called
  | transferOwnership newOwner =>
      simp only [entry] at called
      exact sender_of_onlyOwner called
  | renounceOwnership =>
      simp only [entry] at called
      exact sender_of_onlyOwner called
  | _ =>
      rw [entry] at reserved
      cases reserved

theorem contract_signed (called : contract env m s = .ok phase) {args : SetSBT}
    (entry : m.entrypoint = .setSBT args) :
    env.recover (args.digest env) args.signature = .ok s.verifier ∧
      m.value = args.customFee := by
  simp only [contract, entry, setSBT, checkSetSBT, bind_eq_ok, require_eq_ok,
    mapError_eq_ok] at called
  obtain ⟨_, ⟨-, paid, signer, recovered, rfl⟩, -⟩ := called
  exact ⟨recovered, paid⟩

theorem contract_govern (called : contract env m s = .ok phase) :
    phase.state.governance = m.govern s.governance := by
  unfold contract at called
  cases entry : m.entrypoint with
  | setSBT args =>
      rw [entry] at called
      obtain ⟨-, -, tokens, rfl⟩ := setSBT_ok called
      rw [Message.govern, entry]
      rfl
  | revokeSBT sbtOwner circuitId =>
      simp only [entry, revokeSBT, bind_eq_ok, pure_eq_ok] at called
      obtain ⟨-, -, -, -, rfl⟩ := called
      rw [Message.govern, entry]
      rfl
  | changeVerifier newVerifier =>
      simp only [entry, changeVerifier, bind_eq_ok, pure_eq_ok] at called
      obtain ⟨-, -, -, -, rfl⟩ := called
      rw [Message.govern, entry]
      rfl
  | collectFees =>
      simp only [entry, collectFees, bind_eq_ok, pure_eq_ok] at called
      obtain ⟨-, -, -, -, rfl⟩ := called
      rw [Message.govern, entry]
      rfl
  | transferOwnership newOwner =>
      simp only [entry, transferOwnership, bind_eq_ok, pure_eq_ok] at called
      obtain ⟨-, -, -, -, -, -, rfl⟩ := called
      rw [Message.govern, entry]
      rfl
  | renounceOwnership =>
      simp only [entry, renounceOwnership, bind_eq_ok, pure_eq_ok] at called
      obtain ⟨-, -, -, -, rfl⟩ := called
      rw [Message.govern, entry]
      rfl
  | approve receiver tokenId =>
      simp only [entry, approve, bind_eq_ok, pure_eq_ok] at called
      obtain ⟨-, -, -, -, rfl⟩ := called
      rw [Message.govern, entry]
      rfl
  | setApprovalForAll operator approved =>
      simp only [entry, setApprovalForAll, bind_eq_ok, pure_eq_ok] at called
      obtain ⟨-, -, -, -, rfl⟩ := called
      rw [Message.govern, entry]
      rfl
  | transferFrom holder receiver tokenId =>
      rw [entry] at called
      exact absurd called transferFrom_ne_ok
  | safeTransferFrom holder receiver tokenId data =>
      rw [entry] at called
      exact absurd called safeTransferFrom_ne_ok
  | forcedEther =>
      simp only [entry, Except.ok.injEq] at called
      rw [← called, Message.govern, entry]
      rfl

theorem contract_governs (env : Environment) :
    Guarantee (contract env) (fun world after => ∃ later,
      after.history = world.history ++ later ∧
        Trace (Governed env) world.state.governance later after.state.governance) := by
  apply linearization State.governance
  · intro call state phase called
    exact ⟨contract_onlyOwner called, fun _ entry => contract_signed called entry,
      contract_govern called⟩
  · intro call state middle onFail resume returned final called resumed
    have registry := contract_resume called resumed
    simp only [State.registry, Registry.mk.injEq] at registry
    obtain ⟨owner, verifier, -⟩ := registry
    rw [State.governance, State.governance, owner, verifier]

theorem governance_of_trace {calls : List Message} {before after : Governance}
    (trace : Trace (Governed env) before calls after) : after = governanceAfter before calls := by
  induction trace with
  | nil => rfl
  | cons first rest ih =>
      rw [first.effect] at ih
      exact ih

theorem trace_of_deployment {deployer verifier : Address} {balance : ℕ}
    {world : World Message State}
    (reached : Reached (contract env) ⟨constructor deployer verifier balance, []⟩ world) :
    Trace (Governed env) ⟨deployer, verifier⟩ world.history world.state.governance := by
  obtain ⟨later, history, trace⟩ := (contract_governs env).reached reached
  rw [history]
  exact trace

/-- A call in the middle of a history, with the governance that it met. -/
theorem governed_at {calls pre post : List Message} {before after : Governance}
    (trace : Trace (Governed env) before calls after) (split : calls = pre ++ m :: post) :
    ∃ leave, Governed env m (governanceAfter before pre) leave := by
  rw [split] at trace
  obtain ⟨enter, leave, earlier, step, -⟩ := trace.split_at
  rw [governance_of_trace earlier] at step
  exact ⟨leave, step⟩

/-- The record was minted under the identifier, by a call with a signature of the verifier of
the moment and with the fee that it names. -/
def SignedMint (env : Environment) (initial : Governance) (history : List Message)
    (identifier : Bytes32) (sbt : SBT) : Prop :=
  Happened (fun pre call => ∃ args, call.entrypoint = .setSBT args ∧
    args.identifier env = identifier ∧ args.sbt = sbt ∧
    env.recover (args.digest env) args.signature =
      .ok (governanceAfter initial pre).verifier ∧
    call.value = args.customFee) history

/-- The record was revoked by a call of the owner of the moment. -/
def OwnerRevocation (env : Environment) (initial : Governance) (history : List Message)
    (identifier : Bytes32) : Prop :=
  Happened (fun pre call => ∃ sbtOwner circuitId,
    call.entrypoint = .revokeSBT sbtOwner circuitId ∧
      getIdentifier env sbtOwner circuitId = identifier ∧
      call.sender = (governanceAfter initial pre).owner) history

section Records

variable {deployer verifier : Address} {balance : ℕ} {world : World Message State}

theorem signedMint_of_lookup
    (reached : Reached (contract env) ⟨constructor deployer verifier balance, []⟩ world)
    {timestamp : U256} (positive : 0 < timestamp) {identifier : Bytes32} {sbt : SBT}
    (found : getSBT_ timestamp identifier world.state = .ok sbt) :
    SignedMint env ⟨deployer, verifier⟩ world.history identifier sbt := by
  rw [lookup_eq_ok, record_of_reached reached] at found
  obtain ⟨args, m, last, entry, -, rfl⟩ := (live_iff_last_mints positive).mp found
  obtain ⟨member, identified⟩ := mem_of_last last
  obtain ⟨pre, post, split⟩ := List.append_of_mem member
  obtain ⟨leave, governed⟩ := governed_at (trace_of_deployment reached) split
  have sameIdentifier : args.identifier env = identifier := by
    simpa [Message.identifier?, entry] using identified
  obtain ⟨recovered, paid⟩ := governed.signed args entry
  exact ⟨pre, m, post, split, args, entry, sameIdentifier, rfl, recovered, paid⟩

theorem ownerRevocation_of_revoked
    (reached : Reached (contract env) ⟨constructor deployer verifier balance, []⟩ world)
    {identifier : Bytes32}
    (revoked : (world.state.records.sbtOwners identifier).revoked = true) :
    OwnerRevocation env ⟨deployer, verifier⟩ world.history identifier := by
  rw [record_of_reached reached] at revoked
  cases last : (writesTo env identifier world.history).getLast? with
  | none =>
      rw [recordAfter_of_untouched (List.getLast?_eq_none_iff.mp last)] at revoked
      cases revoked
  | some m =>
      obtain ⟨member, identified⟩ := mem_of_last last
      obtain ⟨before, written⟩ := recordAfter_of_last .unset last
      rw [written] at revoked
      cases entry : m.entrypoint with
      | revokeSBT sbtOwner circuitId =>
          obtain ⟨pre, post, split⟩ := List.append_of_mem member
          obtain ⟨leave, governed⟩ := governed_at (trace_of_deployment reached) split
          have byOwner := governed.byOwner (by rw [entry]; rfl)
          have sameIdentifier : getIdentifier env sbtOwner circuitId = identifier := by
            simpa [Message.identifier?, entry] using identified
          exact ⟨pre, m, post, split, sbtOwner, circuitId, entry, sameIdentifier, byOwner⟩
      | setSBT args =>
          rw [Message.writeRecord, entry] at revoked
          cases revoked
      | _ => simp [Message.identifier?, entry] at identified

/-- In every world that a run reaches, also inside a hook, what the lookups return was signed
by the verifier of the moment when it was minted, and what is revoked was revoked by the
owner of the moment. -/
theorem records_authorized
    (reached : Reached (contract env) ⟨constructor deployer verifier balance, []⟩ world)
    {timestamp : U256} (positive : 0 < timestamp) :
    (∀ sbtOwner circuitId sbt, getSBT env timestamp sbtOwner circuitId world.state = .ok sbt →
        SignedMint env ⟨deployer, verifier⟩ world.history
          (getIdentifier env sbtOwner circuitId) sbt) ∧
      (∀ nullifier sbt, getSBTByNullifier timestamp nullifier world.state = .ok sbt →
        SignedMint env ⟨deployer, verifier⟩ world.history
          (world.state.records.nullifiersToIdentifiers nullifier) sbt) ∧
      ∀ identifier, (world.state.records.sbtOwners identifier).revoked = true →
        OwnerRevocation env ⟨deployer, verifier⟩ world.history identifier :=
  ⟨fun _ _ _ found => signedMint_of_lookup reached positive found,
    fun _ _ found => signedMint_of_lookup reached positive found,
    fun _ revoked => ownerRevocation_of_revoked reached revoked⟩

end Records

def regime : Regime Message Address Unit where
  caller := Message.sender
  reserved m := if m.entrypoint.OnlyOwner then some () else none
  appoints m := m.newOwner?.map fun newOwner => ((), newOwner)
  appoints_reserved := by
    intro m
    unfold Message.newOwner?
    cases m.entrypoint <;> simp [Entrypoint.OnlyOwner]

theorem appoints_iff {office : Unit} {account : Address} :
    regime.appoints m = some (office, account) ↔ m.newOwner? = some account := by
  cases appointed : m.newOwner? with
  | none => simp [regime, appointed]
  | some newOwner => simp [regime, appointed]

theorem newOwner?_eq_some {account : Address} : m.newOwner? = some account ↔
    m.entrypoint = .transferOwnership account ∨
      (m.entrypoint = .renounceOwnership ∧ account = 0) := by
  unfold Message.newOwner?
  cases m.entrypoint with
  | transferOwnership newOwner => simp
  | renounceOwnership =>
      constructor
      · rintro ⟨⟩
        exact .inr ⟨rfl, rfl⟩
      · rintro (impossible | ⟨-, rfl⟩)
        · cases impossible
        · rfl
  | _ => simp

theorem Governed.lawful {before after : Governance} (governed : Governed env m before after) :
    Lawful regime m (fun _ account => account = before.owner)
      (fun _ account => account = after.owner) where
  authorized _ reserved := by
    apply governed.byOwner
    by_contra open_
    simp [regime, open_] at reserved
  appointed _ account held := by
    rw [governed.effect, Message.govern] at held
    cases entry : m.entrypoint with
    | transferOwnership newOwner =>
        rw [entry] at held
        exact .inr (appoints_iff.mpr (newOwner?_eq_some.mpr (.inl (held ▸ entry))))
    | renounceOwnership =>
        rw [entry] at held
        exact .inr (appoints_iff.mpr (newOwner?_eq_some.mpr (.inr ⟨entry, held⟩)))
    | _ =>
        rw [entry] at held
        exact .inl held

/-- Accounts that include the deployer and transfer the ownership only among themselves keep
it, or give it up to the zero address, from which no call comes; and they make all the calls
that are reserved to the owner. -/
theorem ownership_confined {deployer verifier : Address} {balance : ℕ}
    {world : World Message State}
    (reached : Reached (contract env) ⟨constructor deployer verifier balance, []⟩ world)
    (nonzero : ∀ call ∈ world.history, call.sender ≠ 0)
    {Trusted : Address → Prop} (founder : Trusted deployer)
    (closed : ∀ call ∈ world.history, ∀ newOwner,
      call.entrypoint = .transferOwnership newOwner → Trusted call.sender → Trusted newOwner) :
    (Trusted world.state.owner ∨ world.state.owner = 0) ∧
      (world.state.governance = governanceAfter ⟨deployer, verifier⟩ world.history) ∧
      ∀ call ∈ world.history, call.entrypoint.OnlyOwner = true → Trusted call.sender := by
  have trace := trace_of_deployment reached
  have lawful : Trace (Lawful regime) (fun _ account => account = deployer) world.history
      (fun _ account => account = world.state.owner) :=
    trace.map (fun governance _ account => account = governance.owner)
      fun _ _ _ governed => governed.lawful
  obtain ⟨holders, callers⟩ := line_of_trace lawful
  have trusted : ∀ account, Line regime (fun account => ∃ _ : Unit, account = deployer)
      world.history account → Trusted account ∨ account = 0 := by
    intro account line
    apply line.confined
    · rintro account ⟨-, rfl⟩
      exact .inl founder
    · intro call member office account appointer appoints
      have trustedSender : Trusted call.sender := appointer.resolve_right (nonzero call member)
      rcases newOwner?_eq_some.mp (appoints_iff.mp appoints) with entry | ⟨-, renounced⟩
      · exact .inl (closed call member account entry trustedSender)
      · exact .inr renounced
  refine ⟨trusted _ (holders () _ rfl), governance_of_trace trace, ?_⟩
  intro call member reserved
  have line := callers call member (by simp [regime, reserved])
  exact (trusted _ line).resolve_right (nonzero call member)

section Sample

/-- Two mints by anyone, after which the owner hands the hub to another account, which
revokes the first of them. -/
def successionWorld : World Message State :=
  run (contract sampleEnvironment)
    [.call ⟨0xcc, 0, .setSBT firstMint⟩ .done .done,
      .call ⟨0xcc, 7, .setSBT paidMint⟩ .done .done,
      .call ⟨0xad, 0, .transferOwnership 0xbb⟩ .done .done,
      .call ⟨0xbb, 0, .revokeSBT 0xa1 0xc1⟩ .done .done]
    ⟨constructor 0xad sampleVerifier 0, []⟩

theorem reached_successionWorld : Reached (contract sampleEnvironment)
    ⟨constructor 0xad sampleVerifier 0, []⟩ successionWorld :=
  ⟨_, .done, .here .done _⟩

theorem history_successionWorld : successionWorld.history =
    [⟨0xcc, 0, .setSBT firstMint⟩, ⟨0xcc, 7, .setSBT paidMint⟩,
      ⟨0xad, 0, .transferOwnership 0xbb⟩, ⟨0xbb, 0, .revokeSBT 0xa1 0xc1⟩] := by
  decide +kernel

example : getSBT sampleEnvironment 1000 0xa1 0xc2 successionWorld.state =
      .ok ⟨2000, [5], false⟩ ∧
    getSBT sampleEnvironment 1000 0xa1 0xc1 successionWorld.state =
      .error (.message "SBT has been revoked") := by
  decide +kernel

theorem successionWorld_authorized :
    (∀ sbtOwner circuitId sbt,
        getSBT sampleEnvironment 1000 sbtOwner circuitId successionWorld.state = .ok sbt →
        SignedMint sampleEnvironment ⟨0xad, sampleVerifier⟩ successionWorld.history
          (getIdentifier sampleEnvironment sbtOwner circuitId) sbt) ∧
      (∀ nullifier sbt, getSBTByNullifier 1000 nullifier successionWorld.state = .ok sbt →
        SignedMint sampleEnvironment ⟨0xad, sampleVerifier⟩ successionWorld.history
          (successionWorld.state.records.nullifiersToIdentifiers nullifier) sbt) ∧
      ∀ identifier, (successionWorld.state.records.sbtOwners identifier).revoked = true →
        OwnerRevocation sampleEnvironment ⟨0xad, sampleVerifier⟩ successionWorld.history
          identifier :=
  records_authorized reached_successionWorld (by decide)

def Successor (account : Address) : Prop := account = 0xad ∨ account = 0xbb

theorem successionWorld_confined :
    (Successor successionWorld.state.owner ∨ successionWorld.state.owner = 0) ∧
      (successionWorld.state.governance =
        governanceAfter ⟨0xad, sampleVerifier⟩ successionWorld.history) ∧
      ∀ call ∈ successionWorld.history, call.entrypoint.OnlyOwner = true →
        Successor call.sender := by
  apply ownership_confined reached_successionWorld _ (.inl rfl)
  · intro call member newOwner entry _
    rw [history_successionWorld] at member
    simp only [List.mem_cons, List.not_mem_nil, or_false] at member
    rcases member with rfl | rfl | rfl | rfl
    · cases entry
    · cases entry
    · cases entry
      exact .inr rfl
    · cases entry
  · intro call member
    rw [history_successionWorld] at member
    simp only [List.mem_cons, List.not_mem_nil, or_false] at member
    rcases member with rfl | rfl | rfl | rfl
    · exact (by decide : (0xcc : Address) ≠ 0)
    · exact (by decide : (0xcc : Address) ≠ 0)
    · exact (by decide : (0xad : Address) ≠ 0)
    · exact (by decide : (0xbb : Address) ≠ 0)

end Sample

end Hub

end IdHub
