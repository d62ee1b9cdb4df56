import IdHub.HubRegistry
import IdHub.Simulations

/-!
# The sandbox hub

`sandbox/Hub.sol`: the hub for test networks, a copy without the verifier, its signature
and the fee.  What it has from OpenZeppelin is taken from the same release.  Every run of
the hub is followed by one of the sandbox hub, with the same records, tokens, approvals and
lookups, when its successful calls are made there without their signatures.  So a client
that works on the sandbox sees what it would see of the hub.
-/

namespace IdHub

namespace SandboxHub

open Guards Reentrancy WordBytes
open Hub (Error SBT Records Tokens Approvals)

structure State where
  owner : Address
  records : Records
  tokens : Tokens
  approvals : Approvals
  balance : ℕ

structure SetSBT where
  circuitId : Bytes32
  sbtReceiver : Address
  expiration : U256
  nullifier : U256
  publicValues : List U256

inductive Entrypoint where
  | setSBT (args : SetSBT)
  | revokeSBT (sbtOwner : Address) (circuitId : Bytes32)
  | collectFees
  | transferOwnership (newOwner : Address)
  | renounceOwnership
  | approve (receiver : Address) (tokenId : U256)
  | setApprovalForAll (operator : Address) (approved : Bool)
  | transferFrom (holder receiver : Address) (tokenId : U256)
  | safeTransferFrom (holder receiver : Address) (tokenId : U256) (data : Bytes)
  /-- Not a function: ETH credited without running the contract. -/
  | forcedEther

structure Message where
  sender : Address
  value : U256
  entrypoint : Entrypoint

def getIdentifier (env : Environment) (user : Address) (circuitId : Bytes32) : Bytes32 :=
  env.keccak256 (ofWord user ++ ofWord circuitId)

/-- The nullifier check of `setSBT`. -/
def useNullifier (records : Records) (nullifier : U256) : Except Error Records :=
  if nullifier = 0 then .ok records
  else do
    require (records.usedNullifiers nullifier = false)
      (.message "this has already been proven")
    return { records with
      usedNullifiers := Function.update records.usedNullifiers nullifier true }

def constructor (deployer : Address) (balance : ℕ) : State :=
  ⟨deployer, .empty, .empty, .empty, balance⟩

def onlyOwner (m : Message) (s : State) : Except Error Unit :=
  require (m.sender = s.owner) (.message "Ownable: caller is not the owner")

def nonPayable (m : Message) : Except Error Unit :=
  require (m.value = 0) .empty

/-- The end of `setSBT`, after the receiver's hook. -/
def finishSetSBT (tokenId : U256) (identifier : Bytes32) (s : State) :
    Except Error State := do
  let uri := base64Encode (s.records.sbtOwners identifier).encode
  let tokens ← s.tokens.setTokenURI tokenId uri
  return { s with tokens := tokens }

def setSBT (env : Environment) (m : Message) (args : SetSBT) (s : State) :
    Except Error (Phase Error State) := do
  let marked ← useNullifier s.records args.nullifier
  let identifier := getIdentifier env args.sbtReceiver args.circuitId
  let records := marked.write identifier args.nullifier
    ⟨args.expiration, args.publicValues, false⟩
  let counted := s.tokens.increment
  let tokenId := counted.tokenIds
  let tokens ← counted.mint args.sbtReceiver tokenId
  let written := { s with
    records := records, tokens := tokens, balance := s.balance + m.value.toNat }
  return .external written
    (.message "ERC721: transfer to non ERC721Receiver implementer")
    (finishSetSBT tokenId identifier)

def revokeSBT (env : Environment) (m : Message) (sbtOwner : Address)
    (circuitId : Bytes32) (s : State) : Except Error (Phase Error State) := do
  nonPayable m
  onlyOwner m s
  return .done { s with
    records := s.records.revoke (getIdentifier env sbtOwner circuitId) }

def collectFees (m : Message) (s : State) : Except Error (Phase Error State) := do
  nonPayable m
  onlyOwner m s
  return .external { s with balance := 0 } .empty .ok

def transferOwnership (m : Message) (newOwner : Address) (s : State) :
    Except Error (Phase Error State) := do
  nonPayable m
  onlyOwner m s
  revertIf (newOwner = 0) (.message "Ownable: new owner is the zero address")
  return .done { s with owner := newOwner }

def renounceOwnership (m : Message) (s : State) : Except Error (Phase Error State) := do
  nonPayable m
  onlyOwner m s
  return .done { s with owner := 0 }

def approve (m : Message) (receiver : Address) (tokenId : U256) (s : State) :
    Except Error (Phase Error State) := do
  nonPayable m
  let approvals ← s.approvals.approve s.tokens m.sender receiver tokenId
  return .done { s with approvals := approvals }

def setApprovalForAll (m : Message) (operator : Address) (approved : Bool) (s : State) :
    Except Error (Phase Error State) := do
  nonPayable m
  let approvals ← s.approvals.setApprovalForAll m.sender operator approved
  return .done { s with approvals := approvals }

/-- The override of `_transfer`. -/
def transfer_ (_holder _receiver : Address) (_tokenId : U256) (_s : State) :
    Except Error State :=
  .error (.message "Cannot transfer this type of token")

def transferFrom (m : Message) (holder receiver : Address) (tokenId : U256) (s : State) :
    Except Error (Phase Error State) := do
  nonPayable m
  s.approvals.requireApprovedOrOwner s.tokens m.sender tokenId
  let moved ← transfer_ holder receiver tokenId s
  return .done moved

def safeTransferFrom (m : Message) (holder receiver : Address) (tokenId : U256)
    (_data : Bytes) (s : State) : Except Error (Phase Error State) := do
  nonPayable m
  s.approvals.requireApprovedOrOwner s.tokens m.sender tokenId
  let moved ← transfer_ holder receiver tokenId s
  return .external moved (.message "ERC721: transfer to non ERC721Receiver implementer") .ok

def contract (env : Environment) : Contract Error Message State := fun m s =>
  match m.entrypoint with
  | .setSBT args => setSBT env m args s
  | .revokeSBT sbtOwner circuitId => revokeSBT env m sbtOwner circuitId s
  | .collectFees => collectFees m s
  | .transferOwnership newOwner => transferOwnership m newOwner s
  | .renounceOwnership => renounceOwnership m s
  | .approve receiver tokenId => approve m receiver tokenId s
  | .setApprovalForAll operator approved => setApprovalForAll m operator approved s
  | .transferFrom holder receiver tokenId => transferFrom m holder receiver tokenId s
  | .safeTransferFrom holder receiver tokenId data =>
    safeTransferFrom m holder receiver tokenId data s
  | .forcedEther => .ok (.done { s with balance := s.balance + m.value.toNat })

/-- `_getSBT`, at a block time. -/
def getSBT_ (timestamp : U256) (identifier : Bytes32) (s : State) : Except Error SBT := do
  let sbt := s.records.sbtOwners identifier
  require (timestamp ≤ sbt.expiry) (.message "SBT is expired or does not exist")
  require (sbt.revoked = false) (.message "SBT has been revoked")
  return sbt

def getSBT (env : Environment) (timestamp : U256) (sbtOwner : Address)
    (circuitId : Bytes32) (s : State) : Except Error SBT :=
  getSBT_ timestamp (getIdentifier env sbtOwner circuitId) s

def getSBTByNullifier (timestamp nullifier : U256) (s : State) : Except Error SBT :=
  getSBT_ timestamp (s.records.nullifiersToIdentifiers nullifier) s

end SandboxHub

namespace Hub

open Guards Reentrancy

/-- The state without the verifier. -/
def State.sandbox (s : State) : SandboxHub.State :=
  ⟨s.owner, s.records, s.tokens, s.approvals, s.balance⟩

def SetSBT.sandbox (args : SetSBT) : SandboxHub.SetSBT :=
  ⟨args.circuitId, args.receiver, args.expiration, args.nullifier, args.publicValues⟩

def Entrypoint.sandbox? : Entrypoint → Option SandboxHub.Entrypoint
  | .setSBT args => some (.setSBT args.sandbox)
  | .revokeSBT sbtOwner circuitId => some (.revokeSBT sbtOwner circuitId)
  | .changeVerifier _ => none
  | .collectFees => some .collectFees
  | .transferOwnership newOwner => some (.transferOwnership newOwner)
  | .renounceOwnership => some .renounceOwnership
  | .approve receiver tokenId => some (.approve receiver tokenId)
  | .setApprovalForAll operator approved => some (.setApprovalForAll operator approved)
  | .transferFrom holder receiver tokenId => some (.transferFrom holder receiver tokenId)
  | .safeTransferFrom holder receiver tokenId data =>
    some (.safeTransferFrom holder receiver tokenId data)
  | .forcedEther => some .forcedEther

/-- The call that stands for a call of the hub, from the same sender with the same ETH. -/
def Message.sandbox? (m : Message) : Option SandboxHub.Message :=
  m.entrypoint.sandbox?.map fun entrypoint => ⟨m.sender, m.value, entrypoint⟩

def SandboxRelated (s : State) (s' : SandboxHub.State) : Prop := s' = s.sandbox

variable {env : Environment} {m : Message} {s : State} {phase : Phase Error State}

theorem sandbox_useNullifier_eq_ok {records marked : Records} {nullifier : U256} :
    SandboxHub.useNullifier records nullifier = .ok marked ↔
      records.useNullifier nullifier = .ok marked := by
  unfold SandboxHub.useNullifier Records.useNullifier
  split
  · rfl
  · simp only [bind_eq_ok, require_eq_ok]

theorem finishSetSBT_agree (tokenId : U256) (identifier : Bytes32) (returned : State) :
    Agree SandboxRelated (finishSetSBT tokenId identifier returned)
      (SandboxHub.finishSetSBT tokenId identifier returned.sandbox) := by
  cases updated : returned.tokens.setTokenURI tokenId
      (base64Encode (returned.records.sbtOwners identifier).encode) with
  | error reason =>
      have failed : finishSetSBT tokenId identifier returned = .error reason := by
        rw [finishSetSBT, updated]
        rfl
      have failed' : SandboxHub.finishSetSBT tokenId identifier returned.sandbox =
          .error reason := by
        rw [SandboxHub.finishSetSBT, State.sandbox, updated]
        rfl
      rw [failed, failed']
      exact .error _ _
  | ok tokens =>
      have finished : finishSetSBT tokenId identifier returned =
          .ok { returned with tokens := tokens } := by
        rw [finishSetSBT, updated]
        rfl
      have finished' : SandboxHub.finishSetSBT tokenId identifier returned.sandbox =
          .ok { returned.sandbox with tokens := tokens } := by
        rw [SandboxHub.finishSetSBT, State.sandbox, updated]
        rfl
      rw [finished, finished']
      exact .ok rfl

theorem setSBT_sandbox {args : SetSBT} (called : setSBT env m args s = .ok phase) :
    ∃ phase', SandboxHub.setSBT env ⟨m.sender, m.value, .setSBT args.sandbox⟩ args.sandbox
      s.sandbox = .ok phase' ∧ PhasesAgree SandboxRelated phase phase' := by
  simp only [setSBT, bind_eq_ok, pure_eq_ok] at called
  obtain ⟨-, -, marked, used, tokens, minted, rfl⟩ := called
  have started : SandboxHub.setSBT env ⟨m.sender, m.value, .setSBT args.sandbox⟩ args.sandbox
      s.sandbox = .ok (.external
        ⟨s.owner, marked.write (args.identifier env) args.nullifier args.sbt, tokens,
          s.approvals, s.balance + m.value.toNat⟩
        (.message "ERC721: transfer to non ERC721Receiver implementer")
        (SandboxHub.finishSetSBT s.tokens.increment.tokenIds (args.identifier env))) := by
    simp only [SandboxHub.setSBT, bind_eq_ok, pure_eq_ok]
    exact ⟨marked, sandbox_useNullifier_eq_ok.mpr used, tokens, minted, rfl⟩
  refine ⟨_, started, .external rfl ?_⟩
  rintro returned returned' rfl
  exact finishSetSBT_agree _ _ returned

theorem sandbox_simulation (env : Environment) :
    Simulation (contract env) (SandboxHub.contract env) SandboxRelated Message.sandbox? where
  visible := by
    rintro m m' s s' phase called translated rfl
    unfold contract at called
    obtain ⟨sender, value, entrypoint⟩ := m
    cases entrypoint with
    | setSBT args =>
        cases translated
        exact setSBT_sandbox called
    | revokeSBT sbtOwner circuitId =>
        cases translated
        simp only [revokeSBT, nonPayable, onlyOwner, bind_eq_ok, require_eq_ok, pure_eq_ok]
          at called
        obtain ⟨_, unpaid, _, byOwner, rfl⟩ := called
        refine ⟨_, ?_, .done rfl⟩
        simp only [SandboxHub.contract, SandboxHub.revokeSBT, SandboxHub.nonPayable,
          SandboxHub.onlyOwner, bind_eq_ok, require_eq_ok, pure_eq_ok]
        exact ⟨(), unpaid, (), byOwner, rfl⟩
    | changeVerifier newVerifier => cases translated
    | collectFees =>
        cases translated
        simp only [collectFees, nonPayable, onlyOwner, bind_eq_ok, require_eq_ok, pure_eq_ok]
          at called
        obtain ⟨_, unpaid, _, byOwner, rfl⟩ := called
        have started : SandboxHub.contract env ⟨sender, value, .collectFees⟩ s.sandbox =
            .ok (.external { s.sandbox with balance := 0 } .empty .ok) := by
          simp only [SandboxHub.contract, SandboxHub.collectFees, SandboxHub.nonPayable,
            SandboxHub.onlyOwner, bind_eq_ok, require_eq_ok]
          exact ⟨(), unpaid, (), byOwner, rfl⟩
        exact ⟨_, started, .external rfl fun _ _ related => .ok related⟩
    | transferOwnership newOwner =>
        cases translated
        simp only [transferOwnership, nonPayable, onlyOwner, bind_eq_ok, require_eq_ok,
          pure_eq_ok] at called
        obtain ⟨_, unpaid, _, byOwner, _, nonzero, rfl⟩ := called
        refine ⟨_, ?_, .done rfl⟩
        simp only [SandboxHub.contract, SandboxHub.transferOwnership, SandboxHub.nonPayable,
          SandboxHub.onlyOwner, bind_eq_ok, require_eq_ok, pure_eq_ok]
        exact ⟨(), unpaid, (), byOwner, (), nonzero, rfl⟩
    | renounceOwnership =>
        cases translated
        simp only [renounceOwnership, nonPayable, onlyOwner, bind_eq_ok, require_eq_ok,
          pure_eq_ok] at called
        obtain ⟨_, unpaid, _, byOwner, rfl⟩ := called
        refine ⟨_, ?_, .done rfl⟩
        simp only [SandboxHub.contract, SandboxHub.renounceOwnership, SandboxHub.nonPayable,
          SandboxHub.onlyOwner, bind_eq_ok, require_eq_ok, pure_eq_ok]
        exact ⟨(), unpaid, (), byOwner, rfl⟩
    | approve receiver tokenId =>
        cases translated
        simp only [approve, nonPayable, bind_eq_ok, require_eq_ok, pure_eq_ok] at called
        obtain ⟨_, unpaid, approvals, approved, rfl⟩ := called
        refine ⟨_, ?_, .done rfl⟩
        simp only [SandboxHub.contract, SandboxHub.approve, SandboxHub.nonPayable, bind_eq_ok,
          require_eq_ok, pure_eq_ok]
        exact ⟨(), unpaid, approvals, approved, rfl⟩
    | setApprovalForAll operator approved =>
        cases translated
        simp only [setApprovalForAll, nonPayable, bind_eq_ok, require_eq_ok, pure_eq_ok]
          at called
        obtain ⟨_, unpaid, approvals, set, rfl⟩ := called
        refine ⟨_, ?_, .done rfl⟩
        simp only [SandboxHub.contract, SandboxHub.setApprovalForAll, SandboxHub.nonPayable,
          bind_eq_ok, require_eq_ok, pure_eq_ok]
        exact ⟨(), unpaid, approvals, set, rfl⟩
    | transferFrom holder receiver tokenId => exact absurd called transferFrom_ne_ok
    | safeTransferFrom holder receiver tokenId data =>
        exact absurd called safeTransferFrom_ne_ok
    | forcedEther =>
        cases translated
        cases called
        exact ⟨_, rfl, .done rfl⟩
  invisible := by
    rintro ⟨sender, value, entrypoint⟩ s s' phase called untranslated rfl
    cases entrypoint with
    | changeVerifier newVerifier =>
        simp only [contract, changeVerifier, bind_eq_ok, pure_eq_ok] at called
        obtain ⟨-, -, -, -, rfl⟩ := called
        exact ⟨_, rfl, rfl⟩
    | _ => cases untranslated

/-- Two results that are the same record, or two reverts. -/
def SameLookup : Except Error SBT → Except Error SBT → Prop
  | .ok sbt, .ok sbt' => sbt = sbt'
  | .error _, .error _ => True
  | _, _ => False

theorem SameLookup.of_eq {result result' : Except Error SBT} (same : result = result') :
    SameLookup result result' := by
  rw [same]
  cases result' with
  | error reason => exact trivial
  | ok sbt => exact rfl

/-- What coincides on the two hubs. -/
structure Coincides (env : Environment) (world : World Message State)
    (world' : World SandboxHub.Message SandboxHub.State) : Prop where
  /-- The calls that took effect, with their replacements. -/
  replaced : world'.history = world.history.filterMap Message.sandbox?
  usedNullifiers : world'.state.records.usedNullifiers = world.state.records.usedNullifiers
  sbtOwners : world'.state.records.sbtOwners = world.state.records.sbtOwners
  nullifiersToIdentifiers : world'.state.records.nullifiersToIdentifiers =
    world.state.records.nullifiersToIdentifiers
  tokenIds : world'.state.tokens.tokenIds = world.state.tokens.tokenIds
  owners : world'.state.tokens.owners = world.state.tokens.owners
  tokenURIs : world'.state.tokens.tokenURIs = world.state.tokens.tokenURIs
  approvals : world'.state.approvals = world.state.approvals
  getSBT : ∀ timestamp sbtOwner circuitId, SameLookup
    (getSBT env timestamp sbtOwner circuitId world.state)
    (SandboxHub.getSBT env timestamp sbtOwner circuitId world'.state)
  getSBTByNullifier : ∀ timestamp nullifier, SameLookup
    (getSBTByNullifier timestamp nullifier world.state)
    (SandboxHub.getSBTByNullifier timestamp nullifier world'.state)

theorem coincides_of_follows {world : World Message State}
    {world' : World SandboxHub.Message SandboxHub.State}
    (follows : Follows SandboxRelated Message.sandbox? world world') :
    Coincides env world world' := by
  obtain ⟨state', history'⟩ := world'
  obtain ⟨rfl, history⟩ := follows
  exact ⟨history, rfl, rfl, rfl, rfl, rfl, rfl, rfl, fun _ _ _ => .of_eq rfl, fun _ _ => .of_eq rfl⟩

/-- A call that does not start on the sandbox does not start on the hub. -/
theorem contract_error_of_sandbox {m' : SandboxHub.Message} {reason : Error}
    (translated : m.sandbox? = some m')
    (failed : SandboxHub.contract env m' s.sandbox = .error reason) :
    ∃ reason', contract env m s = .error reason' := by
  cases called : contract env m s with
  | error reason' => exact ⟨reason', rfl⟩
  | ok phase =>
      obtain ⟨phase', started, -⟩ := (sandbox_simulation env).visible called translated rfl
      rw [failed] at started
      cases started

/-- The sandbox hub follows every run of the hub, inside hooks too, and refuses a
nullifier only where the hub refuses the call. -/
theorem sandbox_simulates_hub (env : Environment) :
    (∀ deployer verifier balance transactions script visited,
      Visits (contract env) script
        (run (contract env) transactions ⟨constructor deployer verifier balance, []⟩)
        visited →
      ∃ visited', Visits (SandboxHub.contract env)
        (translation (contract env) Message.sandbox? script
          (run (contract env) transactions ⟨constructor deployer verifier balance, []⟩))
        (run (SandboxHub.contract env)
          (translations (contract env) Message.sandbox? transactions
            ⟨constructor deployer verifier balance, []⟩)
          ⟨SandboxHub.constructor deployer balance, []⟩)
        visited' ∧ Coincides env visited visited') ∧
    ∀ (s : State) (m : Message) (args : SetSBT) (m' : SandboxHub.Message),
      m.entrypoint = .setSBT args → m.sandbox? = some m' →
      SandboxHub.contract env m' s.sandbox = .error (.message "this has already been proven") →
      ∀ callee history, ∃ error, settle (contract env) m callee ⟨s, history⟩ = .error error := by
  constructor
  · intro deployer verifier balance transactions script visited visits
    have start : Follows SandboxRelated Message.sandbox?
        ⟨constructor deployer verifier balance, []⟩
        ⟨SandboxHub.constructor deployer balance, []⟩ := start_follows rfl
    obtain ⟨visited', visits', follows⟩ := (sandbox_simulation env).visits visits
      ((sandbox_simulation env).run transactions start)
    exact ⟨visited', visits', coincides_of_follows follows⟩
  · intro s m args m' _ translated failed callee history
    obtain ⟨reason, notStarted⟩ := contract_error_of_sandbox translated failed
    exact ⟨reason, by simp only [settle, notStarted]⟩

theorem sandbox_refuses_used {m' : SandboxHub.Message} {args : SandboxHub.SetSBT}
    {s' : SandboxHub.State} (nonzero : args.nullifier ≠ 0)
    (used : s'.records.usedNullifiers args.nullifier = true) :
    SandboxHub.setSBT env m' args s' = .error (.message "this has already been proven") := by
  rw [SandboxHub.setSBT, SandboxHub.useNullifier, if_neg nonzero, require, used]
  rfl

/-- A mint whose receiver mints for itself again in its hook, and the same mint again. -/
theorem nestedMint_followed :
    let transactions : List (Script Message) :=
      [.call (sampleMessage (.setSBT firstMint))
        (.call (sampleMessage (.setSBT secondMint)) .done .done) .done]
    let initial : World Message State := ⟨constructor 0xad sampleVerifier 0, []⟩
    let final := run (contract sampleEnvironment) transactions initial
    (∃ visited', Visits (SandboxHub.contract sampleEnvironment) .done
      (run (SandboxHub.contract sampleEnvironment)
        (translations (contract sampleEnvironment) Message.sandbox? transactions initial)
        ⟨SandboxHub.constructor 0xad 0, []⟩) visited' ∧
      Coincides sampleEnvironment final visited') ∧
    ∀ callee history, ∃ error, settle (contract sampleEnvironment)
      (sampleMessage (.setSBT firstMint)) callee ⟨final.state, history⟩ = .error error := by
  intro transactions initial final
  have simulates := sandbox_simulates_hub sampleEnvironment
  constructor
  · exact simulates.1 0xad sampleVerifier 0 transactions .done _ (.here .done _)
  · have used : final.state.sandbox.records.usedNullifiers firstMint.sandbox.nullifier =
        true := by
      decide +kernel
    have nonzero : firstMint.sandbox.nullifier ≠ 0 := by decide
    let call : SandboxHub.Message := ⟨0xad, 0, .setSBT firstMint.sandbox⟩
    have refused : SandboxHub.contract sampleEnvironment call final.state.sandbox =
        .error (.message "this has already been proven") :=
      sandbox_refuses_used nonzero used
    exact simulates.2 final.state (sampleMessage (.setSBT firstMint)) firstMint call rfl rfl
      refused

end Hub

end IdHub
