import IdHub.Hub

/-!
# The hub as a registry

Only the token URI is written after the receiver's hook, so a run of the hub, with
any receivers, is a trace of atomic calls on its registry: the records and the two
accounts that control them.  This file gives the steps of the registry and what
every trace of them keeps: a used nullifier stays used and points to the
identifier it was used for, and a record holds what its last mint wrote.
-/

namespace IdHub

namespace Hub

open CallTraces Guards Reentrancy

structure Registry where
  owner : Address
  verifier : Address
  records : Records

def State.registry (s : State) : Registry :=
  ⟨s.owner, s.verifier, s.records⟩

def Message.mint? (m : Message) : Option SetSBT :=
  match m.entrypoint with
  | .setSBT args => some args
  | _ => none

/-- The `setSBT` calls of a history, in order. -/
def mints (history : List Message) : List SetSBT :=
  history.filterMap Message.mint?

/-- The nullifier is used from now on, unless it is `0`. -/
def Records.mark (records : Records) (nullifier : U256) : Records :=
  if nullifier = 0 then records
  else { records with
    usedNullifiers := Function.update records.usedNullifiers nullifier true }

def Records.minted (records : Records) (env : Environment) (args : SetSBT) : Records :=
  (records.mark args.nullifier).write (args.identifier env) args.nullifier args.sbt

inductive Step (env : Environment) : Message → Registry → Registry → Prop
  | mint {m : Message} {registry : Registry} (args : SetSBT)
      (minted : m.mint? = some args)
      (signed : env.recover (args.digest env) args.signature = .ok registry.verifier)
      (fresh : args.nullifier ≠ 0 →
        registry.records.usedNullifiers args.nullifier = false) :
      Step env m registry { registry with records := registry.records.minted env args }
  | revoke {m : Message} {sbtOwner : Address} {circuitId : Bytes32} {registry : Registry}
      (entry : m.entrypoint = .revokeSBT sbtOwner circuitId)
      (byOwner : m.sender = registry.owner) :
      Step env m registry { registry with
        records := registry.records.revoke (getIdentifier env sbtOwner circuitId) }
  | administer {m : Message} {registry after : Registry}
      (minted : m.mint? = none)
      (revoked : ∀ sbtOwner circuitId, m.entrypoint ≠ .revokeSBT sbtOwner circuitId)
      (records : after.records = registry.records) : Step env m registry after

variable {env : Environment} {m : Message}

section Linearization

variable {s : State} {phase : Phase Error State}

theorem useNullifier_eq_ok {records marked : Records} {nullifier : U256} :
    records.useNullifier nullifier = .ok marked ↔
      (nullifier ≠ 0 → records.usedNullifiers nullifier = false) ∧
        marked = records.mark nullifier := by
  unfold Records.useNullifier Records.mark
  by_cases zero : nullifier = 0
  · simp only [if_pos zero, Except.ok.injEq]
    constructor
    · intro same
      exact ⟨fun nonzero => absurd zero nonzero, same.symm⟩
    · exact fun ⟨_, same⟩ => same.symm
  · simp only [if_neg zero, bind_eq_ok, require_eq_ok, pure_eq_ok]
    constructor
    · rintro ⟨-, fresh, same⟩
      exact ⟨fun _ => fresh, same.symm⟩
    · rintro ⟨fresh, same⟩
      exact ⟨(), fresh zero, same.symm⟩

theorem setSBT_ok {args : SetSBT} (called : setSBT env m args s = .ok phase) :
    env.recover (args.digest env) args.signature = .ok s.verifier ∧
      (args.nullifier ≠ 0 → s.records.usedNullifiers args.nullifier = false) ∧
      ∃ tokens, phase = .external
        { s with
          records := s.records.minted env args
          tokens := tokens
          balance := s.balance + m.value.toNat }
        (.message "ERC721: transfer to non ERC721Receiver implementer")
        (finishSetSBT s.tokens.increment.tokenIds (args.identifier env)) := by
  simp only [setSBT, checkSetSBT, bind_eq_ok, require_eq_ok, pure_eq_ok, mapError_eq_ok,
    useNullifier_eq_ok] at called
  obtain ⟨_, ⟨-, -, signer, recovered, rfl⟩, marked, ⟨fresh, rfl⟩, tokens, -, rfl⟩ := called
  exact ⟨recovered, fresh, tokens, rfl⟩

theorem finishSetSBT_ok {tokenId : U256} {identifier : Bytes32} {final : State}
    (finished : finishSetSBT tokenId identifier s = .ok final) :
    final.registry = s.registry := by
  simp only [finishSetSBT, bind_eq_ok, pure_eq_ok] at finished
  obtain ⟨tokens, -, rfl⟩ := finished
  rfl

/-- The override of `_transfer` stands in the way of both functions. -/
theorem transferFrom_ne_ok {holder receiver : Address} {tokenId : U256} :
    transferFrom m holder receiver tokenId s ≠ .ok phase := by
  simp [transferFrom, transfer_, bind_eq_ok]

theorem safeTransferFrom_ne_ok {holder receiver : Address} {tokenId : U256}
    {data : WordBytes.Bytes} :
    safeTransferFrom m holder receiver tokenId data s ≠ .ok phase := by
  simp [safeTransferFrom, transfer_, bind_eq_ok]

/-- A call up to its end or to the hook that it calls. -/
inductive Started (env : Environment) (m : Message) (s : State) : Phase Error State → Prop
  | mint {phase : Phase Error State} (args : SetSBT) (entry : m.entrypoint = .setSBT args)
      (called : setSBT env m args s = .ok phase) : Started env m s phase
  | revoke {sbtOwner : Address} {circuitId : Bytes32}
      (entry : m.entrypoint = .revokeSBT sbtOwner circuitId) (byOwner : m.sender = s.owner) :
      Started env m s (.done { s with
        records := s.records.revoke (getIdentifier env sbtOwner circuitId) })
  | collect (entry : m.entrypoint = .collectFees) :
      Started env m s (.external { s with balance := 0 } .empty .ok)
  | administer {t : State} (minted : m.mint? = none)
      (revoked : ∀ sbtOwner circuitId, m.entrypoint ≠ .revokeSBT sbtOwner circuitId)
      (records : t.records = s.records) (tokens : t.tokens = s.tokens) :
      Started env m s (.done t)

theorem contract_started (called : contract env m s = .ok phase) : Started env m s phase := by
  unfold contract at called
  cases entry : m.entrypoint with
  | setSBT args =>
      simp only [entry] at called
      exact .mint args entry called
  | revokeSBT sbtOwner circuitId =>
      simp only [entry, revokeSBT, onlyOwner, bind_eq_ok, require_eq_ok, pure_eq_ok]
        at called
      obtain ⟨-, -, -, byOwner, rfl⟩ := called
      exact .revoke entry byOwner
  | changeVerifier newVerifier =>
      simp only [entry, changeVerifier, bind_eq_ok, pure_eq_ok] at called
      obtain ⟨-, -, -, -, rfl⟩ := called
      exact .administer (by rw [Message.mint?, entry]) (by simp [entry]) rfl rfl
  | collectFees =>
      simp only [entry, collectFees, bind_eq_ok, pure_eq_ok] at called
      obtain ⟨-, -, -, -, rfl⟩ := called
      exact .collect entry
  | transferOwnership newOwner =>
      simp only [entry, transferOwnership, bind_eq_ok, pure_eq_ok] at called
      obtain ⟨-, -, -, -, -, -, rfl⟩ := called
      exact .administer (by rw [Message.mint?, entry]) (by simp [entry]) rfl rfl
  | renounceOwnership =>
      simp only [entry, renounceOwnership, bind_eq_ok, pure_eq_ok] at called
      obtain ⟨-, -, -, -, rfl⟩ := called
      exact .administer (by rw [Message.mint?, entry]) (by simp [entry]) rfl rfl
  | approve receiver tokenId =>
      simp only [entry, approve, bind_eq_ok, pure_eq_ok] at called
      obtain ⟨-, -, -, -, rfl⟩ := called
      exact .administer (by rw [Message.mint?, entry]) (by simp [entry]) rfl rfl
  | setApprovalForAll operator approved =>
      simp only [entry, setApprovalForAll, bind_eq_ok, pure_eq_ok] at called
      obtain ⟨-, -, -, -, rfl⟩ := called
      exact .administer (by rw [Message.mint?, entry]) (by simp [entry]) rfl rfl
  | transferFrom holder receiver tokenId =>
      rw [entry] at called
      exact absurd called transferFrom_ne_ok
  | safeTransferFrom holder receiver tokenId data =>
      rw [entry] at called
      exact absurd called safeTransferFrom_ne_ok
  | forcedEther =>
      simp only [entry, Except.ok.injEq] at called
      rw [← called]
      exact .administer (by rw [Message.mint?, entry]) (by simp [entry]) rfl rfl

theorem contract_step (called : contract env m s = .ok phase) :
    Step env m s.registry phase.state.registry := by
  cases contract_started called with
  | mint args entry started =>
      obtain ⟨signed, fresh, tokens, rfl⟩ := setSBT_ok started
      exact .mint args (by rw [Message.mint?, entry]) signed fresh
  | revoke entry byOwner => exact .revoke entry byOwner
  | collect entry =>
      exact .administer (by rw [Message.mint?, entry]) (by simp [entry]) rfl
  | administer minted revoked records _ => exact .administer minted revoked records

theorem contract_resume {middle returned final : State} {onFail : Error}
    {resume : State → Except Error State}
    (called : contract env m s = .ok (.external middle onFail resume))
    (resumed : resume returned = .ok final) : final.registry = returned.registry := by
  cases contract_started called with
  | mint args _ started =>
      obtain ⟨-, -, tokens, same⟩ := setSBT_ok started
      simp only [Phase.external.injEq] at same
      obtain ⟨-, -, rfl⟩ := same
      exact finishSetSBT_ok resumed
  | collect _ =>
      simp only [Except.ok.injEq] at resumed
      rw [resumed]

/-- Every script takes atomic steps of the registry, and records them in its
history. -/
theorem contract_linear (env : Environment) :
    Guarantee (contract env) fun world after => ∃ later,
      after.history = world.history ++ later ∧
        Trace (Step env) world.state.registry later after.state.registry :=
  linearization State.registry contract_step contract_resume

theorem trace_of_reached {initial : State} {world : World Message State}
    (reached : Reached (contract env) ⟨initial, []⟩ world) :
    Trace (Step env) initial.registry world.history world.state.registry := by
  obtain ⟨later, history, trace⟩ := (contract_linear env).reached reached
  simp only [List.nil_append] at history
  rw [history]
  exact trace

/-- Calls that took effect are not forgotten. -/
theorem history_prefix {world later : World Message State}
    (reached : Reached (contract env) world later) : world.history <+: later.history := by
  obtain ⟨calls, history, -⟩ := (contract_linear env).reached reached
  exact ⟨calls, history.symm⟩

end Linearization

section Updates

variable (records : Records) (args : SetSBT)

@[simp] theorem sbtOwners_minted : (records.minted env args).sbtOwners =
    Function.update records.sbtOwners (args.identifier env) args.sbt := by
  unfold Records.minted Records.mark
  split <;> rfl

@[simp] theorem nullifiersToIdentifiers_minted :
    (records.minted env args).nullifiersToIdentifiers =
      Function.update records.nullifiersToIdentifiers args.nullifier
        (args.identifier env) := by
  unfold Records.minted Records.mark
  split <;> rfl

theorem used_minted_self (nonzero : args.nullifier ≠ 0) :
    (records.minted env args).usedNullifiers args.nullifier = true := by
  rw [Records.minted, Records.mark, if_neg nonzero]
  simp [Records.write]

theorem used_minted {nullifier : U256} (used : records.usedNullifiers nullifier = true) :
    (records.minted env args).usedNullifiers nullifier = true := by
  unfold Records.minted Records.mark
  split
  · exact used
  · rcases eq_or_ne nullifier args.nullifier with rfl | other
    · simp [Records.write]
    · simpa [Records.write, other] using used

/-- The stored data of a record, without its revocation. -/
def SBT.data (sbt : SBT) : U256 × List U256 := (sbt.expiry, sbt.publicValues)

theorem data_revoke (identifier other : Bytes32) :
    ((records.revoke identifier).sbtOwners other).data =
      (records.sbtOwners other).data := by
  rcases eq_or_ne other identifier with rfl | different
  · simp [Records.revoke, SBT.data]
  · simp [Records.revoke, different]

theorem revoked_revoke {identifier other : Bytes32}
    (revoked : (records.sbtOwners other).revoked = true) :
    ((records.revoke identifier).sbtOwners other).revoked = true := by
  rcases eq_or_ne other identifier with rfl | different
  · simp [Records.revoke]
  · simpa [Records.revoke, different] using revoked

end Updates

variable {registry after : Registry} {history : List Message}

theorem Step.used (step : Step env m registry after) {nullifier : U256}
    (used : registry.records.usedNullifiers nullifier = true) :
    after.records.usedNullifiers nullifier = true := by
  cases step with
  | mint args minted signed fresh => exact used_minted _ _ used
  | revoke entry byOwner => exact used
  | administer minted revoked records => rwa [records]

theorem mints_append (first second : List Message) :
    mints (first ++ second) = mints first ++ mints second :=
  List.filterMap_append

theorem mints_cons_some {args : SetSBT} (minted : m.mint? = some args)
    (later : List Message) : mints (m :: later) = args :: mints later :=
  List.filterMap_cons_some minted

theorem mints_single_some {args : SetSBT} (minted : m.mint? = some args) :
    mints [m] = [args] :=
  mints_cons_some minted []

theorem mints_single_none (minted : m.mint? = none) : mints [m] = [] := by
  simp [mints, minted]

theorem mint?_of_revokes {sbtOwner : Address} {circuitId : Bytes32}
    (entry : m.entrypoint = .revokeSBT sbtOwner circuitId) : m.mint? = none := by
  rw [Message.mint?, entry]

/-- Every nullifier that was minted with is used, and points to the identifier
that its mint wrote. -/
def NullifiersIndexed (env : Environment) (history : List Message)
    (registry : Registry) : Prop :=
  ∀ args ∈ mints history, args.nullifier ≠ 0 →
    registry.records.usedNullifiers args.nullifier = true ∧
      registry.records.nullifiersToIdentifiers args.nullifier = args.identifier env

theorem Step.nullifiersIndexed (step : Step env m registry after)
    (indexed : NullifiersIndexed env history registry) :
    NullifiersIndexed env (history ++ [m]) after := by
  intro args member nonzero
  rw [mints_append, List.mem_append] at member
  cases step with
  | mint latest minted signed fresh =>
      rw [mints_single_some minted, List.mem_singleton] at member
      rcases member with earlier | rfl
      · have before := indexed args earlier nonzero
        have different : args.nullifier ≠ latest.nullifier := by
          intro same
          have unused := fresh (same ▸ nonzero)
          rw [← same, before.1] at unused
          exact absurd unused (by simp)
        exact ⟨used_minted _ _ before.1, by simp [different, before.2]⟩
      · exact ⟨used_minted_self _ _ nonzero, by simp⟩
  | revoke entry byOwner =>
      rw [mints_single_none (mint?_of_revokes entry)] at member
      exact indexed args (by simpa using member) nonzero
  | administer minted revoked records =>
      rw [mints_single_none minted] at member
      rw [records]
      exact indexed args (by simpa using member) nonzero

theorem nullifiersIndexed_of_trace {initial : Registry}
    (trace : Trace (Step env) initial history registry) :
    NullifiersIndexed env history registry := by
  have start : NullifiersIndexed env [] initial := by simp [NullifiersIndexed, mints]
  have indexed := trace.history_invariant (P := NullifiersIndexed env)
    (fun _ _ _ _ step => step.nullifiersIndexed) start
  simpa using indexed

/-- The data that the last mint for the identifier wrote. -/
def lastData (env : Environment) (identifier : Bytes32) (history : List Message)
    (initial : U256 × List U256) : U256 × List U256 :=
  (((mints history).filter fun args => args.identifier env = identifier).getLast?.map
    fun args => args.sbt.data).getD initial

theorem lastData_append (identifier : Bytes32) (history later : List Message)
    (initial : U256 × List U256) :
    lastData env identifier (history ++ later) initial =
      lastData env identifier later (lastData env identifier history initial) := by
  simp only [lastData, mints_append, List.filter_append, List.getLast?_append]
  cases ((mints later).filter fun args => args.identifier env = identifier).getLast? with
  | none => simp
  | some latest => simp

/-- One step changes the data of a record to what it mints, if it mints it. -/
theorem Step.data (step : Step env m registry after) (identifier : Bytes32) :
    (after.records.sbtOwners identifier).data =
      lastData env identifier [m] (registry.records.sbtOwners identifier).data := by
  cases step with
  | mint latest minted signed fresh =>
      rw [lastData, mints_single_some minted, sbtOwners_minted]
      rcases eq_or_ne identifier (latest.identifier env) with rfl | other
      · simp
      · simp [other, other.symm]
  | revoke entry byOwner =>
      rw [lastData, mints_single_none (mint?_of_revokes entry), data_revoke]
      rfl
  | administer minted revoked records =>
      rw [lastData, mints_single_none minted, records]
      rfl

theorem data_of_trace {initial : Registry}
    (trace : Trace (Step env) initial history registry) (identifier : Bytes32) :
    (registry.records.sbtOwners identifier).data =
      lastData env identifier history (initial.records.sbtOwners identifier).data := by
  induction trace with
  | nil state => rfl
  | @cons call _ _ _ calls first rest ih =>
      rw [ih, first.data identifier, ← lastData_append]
      rfl

theorem lookup_eq_ok {s : State} {timestamp : U256} {identifier : Bytes32} {sbt : SBT} :
    getSBT_ timestamp identifier s = .ok sbt ↔
      sbt = s.records.sbtOwners identifier ∧ timestamp ≤ sbt.expiry ∧
        sbt.revoked = false := by
  simp only [getSBT_, bind_eq_ok, require_eq_ok, pure_eq_ok]
  constructor
  · rintro ⟨-, unexpired, -, unrevoked, rfl⟩
    exact ⟨rfl, unexpired, unrevoked⟩
  · rintro ⟨rfl, unexpired, unrevoked⟩
    exact ⟨(), unexpired, (), unrevoked, rfl⟩

/-- The strings that a call hashes. -/
def Message.hashed (env : Environment) (m : Message) : List WordBytes.Bytes :=
  match m.entrypoint with
  | .setSBT args => [identifierString args.receiver args.circuitId,
      args.signedString env.chainid,
      Environment.ethSignedMessage (env.keccak256 (args.signedString env.chainid))]
  | .revokeSBT sbtOwner circuitId => [identifierString sbtOwner circuitId]
  | _ => []

def hashed (env : Environment) (history : List Message) : List WordBytes.Bytes :=
  history.flatMap (Message.hashed env)

theorem identifierString_inj {user user' : Address} {circuitId circuitId' : Bytes32}
    (equal : identifierString user circuitId = identifierString user' circuitId') :
    user = user' ∧ circuitId = circuitId' := by
  obtain ⟨sameUser, circuits⟩ := WordBytes.ofWord_append_inj (by norm_num) equal
  exact ⟨sameUser, WordBytes.ofWord_injective (by norm_num) circuits⟩

theorem mint?_eq_some {args : SetSBT} :
    m.mint? = some args ↔ m.entrypoint = .setSBT args := by
  unfold Message.mint?
  cases m.entrypoint <;> simp

theorem hashed_subset (member : m ∈ history) : m.hashed env ⊆ hashed env history := by
  intro string inMessage
  exact List.mem_flatMap.mpr ⟨m, member, inMessage⟩

theorem hashed_of_mint {args : SetSBT} (member : args ∈ mints history) :
    [identifierString args.receiver args.circuitId, args.signedString env.chainid,
      Environment.ethSignedMessage (env.keccak256 (args.signedString env.chainid))] ⊆
      hashed env history := by
  obtain ⟨m, memberM, minted⟩ := List.mem_filterMap.mp member
  have entry := mint?_eq_some.mp minted
  have subset : m.hashed env ⊆ hashed env history := hashed_subset memberM
  rwa [Message.hashed, entry] at subset

/-- Without collisions the identifiers of two hashed pairs tell them apart. -/
theorem pair_of_identifier_eq
    (collisionFree : env.CollisionFree (hashed env history))
    {user user' : Address} {circuitId circuitId' : Bytes32}
    (member : identifierString user circuitId ∈ hashed env history)
    (member' : identifierString user' circuitId' ∈ hashed env history)
    (equal : getIdentifier env user circuitId = getIdentifier env user' circuitId') :
    user = user' ∧ circuitId = circuitId' :=
  identifierString_inj (collisionFree _ member _ member' equal)

section Sample

def sampleVerifier : Address := 0x2b5ad5c4795c026514f8317c7a215e218dccd6cf

/-- Mints for the address `0xa1`, which expire at time 2000. -/
def sampleSetSBT (circuitId : Bytes32) (nullifier : U256) (publicValues : List U256)
    (signature : WordBytes.Bytes) : SetSBT :=
  ⟨circuitId, 0xa1, 2000, 0, nullifier, publicValues, signature⟩

def firstMint : SetSBT :=
  sampleSetSBT 0xc1 1 [5]
    (signatureBytes 0xc9c000cc1f413dba70b3da665b7b384ba9fdbf7c92ea9fdf06db6c6919dbc34d
      0x3dcb5e4fe07322eb8e46ec390148540a06a977ece8403cf0e8ee56a17f31a996 28)

def secondMint : SetSBT :=
  sampleSetSBT 0xc1 2 [6]
    (signatureBytes 0xf799704c5d7cb6744dcea3e44aae83733ef17c4bba5427ac0c734d70cdd7145d
      0x139f292953dd0d3d7000bb8dc36e01029b726265eaae848048741de792b7ad9a 27)

def plainMint : SetSBT :=
  sampleSetSBT 0xc1 0 [5]
    (signatureBytes 0x79300278a72470d732c7e2668019c591518ad971a637208b391ee593ae5716bd
      0x7173f27ab4e8b41bdc94d8b161eebe5e8221769000e7a84fdd32a80c1865c8fa 27)

def otherMint : SetSBT :=
  sampleSetSBT 0xc2 0 [5]
    (signatureBytes 0x9647ec5bc4b9c847e371b1f81da6c164a9825dee028514dad1ba620b53af454a
      0x2da1775ca45a1d6712d51930a93f41d1e731daff13846556a0ae3d4ef6f657f7 28)

/-- A mint that costs a fee of 7. -/
def paidMint : SetSBT :=
  ⟨0xc2, 0xa1, 2000, 7, 0, [5],
    signatureBytes 0x58cadd44059eef8fdd99302cdc3ce5e446c6c4fa7ca578c4bdbe3945d164223d
      0x5cc9f219b2735ad700c11d0743d00595aed9283fc1846d8b6280906b7380c24e 28⟩

/-- Chain 10, with the hashes and signatures of the five mints. -/
def sampleEnvironment : Environment :=
  let hashes : List (SetSBT × Bytes32 × Bytes32) :=
    [(firstMint, 0x20a3f3c3911de25f2140418dc2da3d06158fd9a105b103d54074ea624711659a,
        0xb68c6e8ec648f141f26ab071cbae2f5b53d70ba392d658cfed3ec21e38ab9597),
      (secondMint, 0x9e67000838f67e9ec2ae6add7e1af9f17e71524304606ea549412b6a94bf6a5e,
        0x580105e95fdc0390e96650363b2a66cae4918035519cc498b820fb667095337e),
      (plainMint, 0xb1096ae658b17cca8dce31487b765e0726d74241e858b4ed0898559fbf974c6f,
        0xed6ba0b8dd2ea5b3a89bca67cdcfa33eebbdbdc93982a7d6da1a238a7bfe94f5),
      (otherMint, 0x344bd559bdeed8d097886d76c7c2a47b23f7e2cfcf69b2abdd34a52d1c69a534,
        0x6468a2a635231302680735cad6ecf7bd0949d686b8eb9b0ae23d1d3c0f7dbf20),
      (paidMint, 0x268c62db90fe495e8eacbbfffbfc6010ff182919c3dbc4723941c4cfeeec4537,
        0x8147e62078e308cdb2c066bfead2ee08af22176d1d6d40e8cda2ed9680d718f5)]
  .ofTables
    ([(identifierString 0xa1 0xc1,
        0xb5c829d10eb13cc57fd900b931c7c9d55c9880d8c2f3cb1238e53189f63a5fa8),
      (identifierString 0xa1 0xc2,
        0x49699b4aed87997569216f1523850ac9fa8dcee90cc05a073c4bdd9126873a9c)] ++
      hashes.flatMap fun (args, hash, digest) =>
        [(args.signedString 10, hash), (Environment.ethSignedMessage hash, digest)])
    (hashes.map fun (args, _, digest) => ((digest, args.signature), sampleVerifier))
    10

def sampleMessage (entrypoint : Entrypoint) : Message :=
  ⟨0xad, 0, entrypoint⟩

/-- Transactions of the owner, with receivers that accept their tokens. -/
def sampleWorld (entrypoints : List Entrypoint) : World Message State :=
  run (contract sampleEnvironment)
    (entrypoints.map fun entrypoint => .call (sampleMessage entrypoint) .done .done)
    ⟨constructor 0xad sampleVerifier 0, []⟩

theorem reached_sampleWorld (entrypoints : List Entrypoint) :
    Reached (contract sampleEnvironment) ⟨constructor 0xad sampleVerifier 0, []⟩
      (sampleWorld entrypoints) :=
  ⟨_, .done, .here .done _⟩

end Sample

end Hub

end IdHub
