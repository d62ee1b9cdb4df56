import IdHub.EvmEnvironment
import IdHub.Guards
import IdHub.Reentrancy

/-!
# The hub contract

`Hub.sol` with the functions that it has from OpenZeppelin's `Ownable`, `ERC721` and
`ERC721URIStorage`.  These are not in the repository; they are taken as they are in
release 4.9, which it depends on.  `setSBT` writes its records and hands out a token,
stops at the receiver's `onERC721Received` hook, which may do anything, and sets the
token's URI when the hook returns.
-/

namespace IdHub

def base64Table : List Char :=
  "ABCDEFGHIJKLMNOPQRSTUVWXYZabcdefghijklmnopqrstuvwxyz0123456789+/".toList

def base64Digit (number : ℕ) : Char :=
  base64Table.getD (number % 64) '='

/-- The characters of `Base64.encode`, with its padding. -/
def base64Encode : WordBytes.Bytes → List Char
  | first :: second :: third :: rest =>
    let number := (first.toNat * 256 + second.toNat) * 256 + third.toNat
    [base64Digit (number / 64 ^ 3), base64Digit (number / 64 ^ 2),
      base64Digit (number / 64), base64Digit number] ++ base64Encode rest
  | [first, second] =>
    let number := (first.toNat * 256 + second.toNat) * 256
    [base64Digit (number / 64 ^ 3), base64Digit (number / 64 ^ 2),
      base64Digit (number / 64), '=']
  | [first] =>
    let number := first.toNat * 256 * 256
    [base64Digit (number / 64 ^ 3), base64Digit (number / 64 ^ 2), '=', '=']
  | [] => []

namespace Hub

open WordBytes Guards Reentrancy

inductive Error where
  | message (text : String)
  /-- A revert without data. -/
  | empty
  deriving DecidableEq

structure SBT where
  expiry : U256
  publicValues : List U256
  revoked : Bool
  deriving DecidableEq

def SBT.unset : SBT := ⟨0, [], false⟩

/-- `abi.encode` of the struct: it is dynamic, and so is its array. -/
def SBT.encode (sbt : SBT) : Bytes :=
  ofWords ([0x20, sbt.expiry, 0x60, (if sbt.revoked then 1 else 0),
    BitVec.ofNat 256 sbt.publicValues.length] ++ sbt.publicValues : List U256)

structure Records where
  usedNullifiers : U256 → Bool
  sbtOwners : Bytes32 → SBT
  nullifiersToIdentifiers : U256 → Bytes32

structure Tokens where
  tokenIds : U256
  owners : U256 → Address
  /-- `_tokenURIs`: what follows the base URI. -/
  tokenURIs : U256 → List Char

/-- Who may move tokens besides their owners. -/
structure Approvals where
  tokenApprovals : U256 → Address
  operatorApprovals : Address → Address → Bool

structure State where
  owner : Address
  verifier : Address
  records : Records
  tokens : Tokens
  approvals : Approvals
  balance : ℕ

structure SetSBT where
  circuitId : Bytes32
  sbtReciever : U256
  expiration : U256
  customFee : U256
  nullifier : U256
  publicValues : List U256
  signature : Bytes
  deriving DecidableEq

inductive Entrypoint where
  | setSBT (args : SetSBT)
  | revokeSBT (sbtOwner : Address) (circuitId : Bytes32)
  | changeVerifier (newVerifier : Address)
  | collectFees
  | transferOwnership (newOwner : Address)
  | renounceOwnership
  | approve (receiver : Address) (tokenId : U256)
  | setApprovalForAll (operator : Address) (approved : Bool)
  | transferFrom (holder receiver : Address) (tokenId : U256)
  /-- The overload without `data` is the call with none. -/
  | safeTransferFrom (holder receiver : Address) (tokenId : U256) (data : Bytes)
  /-- Not a function: ETH credited by a block reward or `selfdestruct`, which
  runs no code of the contract. -/
  | forcedEther
  deriving DecidableEq

structure Message where
  sender : Address
  value : U256
  entrypoint : Entrypoint
  deriving DecidableEq

def identifierString (user : Address) (circuitId : Bytes32) : Bytes :=
  ofWord user ++ ofWord circuitId

def getIdentifier (env : Environment) (user : Address) (circuitId : Bytes32) : Bytes32 :=
  env.keccak256 (identifierString user circuitId)

namespace SetSBT

/-- `address(uint160(sbtReciever))`. -/
def receiver (args : SetSBT) : Address :=
  args.sbtReciever.truncate 160

def signedString (chainid : U256) (args : SetSBT) : Bytes :=
  ofWords ([args.circuitId, args.sbtReciever, args.expiration, args.customFee,
    args.nullifier] ++ args.publicValues ++ [chainid] : List U256)

/-- The hash that the verifier signs. -/
def digest (env : Environment) (args : SetSBT) : Bytes32 :=
  env.toEthSignedMessageHash (env.keccak256 (args.signedString env.chainid))

def identifier (env : Environment) (args : SetSBT) : Bytes32 :=
  getIdentifier env args.receiver args.circuitId

def sbt (args : SetSBT) : SBT :=
  ⟨args.expiration, args.publicValues, false⟩

end SetSBT

namespace Records

def empty : Records :=
  ⟨fun _ => false, fun _ => .unset, fun _ => 0⟩

/-- The nullifier check of `setSBT`. -/
def useNullifier (records : Records) (nullifier : U256) : Except Error Records :=
  if nullifier = 0 then .ok records
  else do
    require (records.usedNullifiers nullifier = false)
      (.message "this is already been proven")
    return { records with
      usedNullifiers := Function.update records.usedNullifiers nullifier true }

/-- The two writes of `setSBT`. -/
def write (records : Records) (identifier : Bytes32) (nullifier : U256) (sbt : SBT) :
    Records :=
  { records with
    sbtOwners := Function.update records.sbtOwners identifier sbt
    nullifiersToIdentifiers :=
      Function.update records.nullifiersToIdentifiers nullifier identifier }

def revoke (records : Records) (identifier : Bytes32) : Records :=
  { records with
    sbtOwners := Function.update records.sbtOwners identifier
      { records.sbtOwners identifier with revoked := true } }

end Records

namespace Tokens

def empty : Tokens :=
  ⟨0, fun _ => 0, fun _ => []⟩

def Exists (tokens : Tokens) (tokenId : U256) : Prop :=
  tokens.owners tokenId ≠ 0

instance (tokens : Tokens) (tokenId : U256) : Decidable (tokens.Exists tokenId) :=
  inferInstanceAs (Decidable (tokens.owners tokenId ≠ 0))

def mint (tokens : Tokens) (receiver : Address) (tokenId : U256) :
    Except Error Tokens := do
  revertIf (receiver = 0) (.message "ERC721: mint to the zero address")
  revertIf (tokens.Exists tokenId) (.message "ERC721: token already minted")
  return { tokens with owners := Function.update tokens.owners tokenId receiver }

def setTokenURI (tokens : Tokens) (tokenId : U256) (uri : List Char) :
    Except Error Tokens := do
  require (tokens.Exists tokenId)
    (.message "ERC721URIStorage: URI set of nonexistent token")
  return { tokens with tokenURIs := Function.update tokens.tokenURIs tokenId uri }

def ownerOf (tokens : Tokens) (tokenId : U256) : Except Error Address := do
  require (tokens.Exists tokenId) (.message "ERC721: invalid token ID")
  return tokens.owners tokenId

/-- `_tokenIds.increment()`, which is unchecked. -/
def increment (tokens : Tokens) : Tokens :=
  { tokens with tokenIds := tokens.tokenIds + 1 }

end Tokens

namespace Approvals

def empty : Approvals :=
  ⟨fun _ => 0, fun _ _ => false⟩

/-- What `approve` does for its sender. -/
def approve (approvals : Approvals) (tokens : Tokens) (sender receiver : Address)
    (tokenId : U256) : Except Error Approvals := do
  let owner ← tokens.ownerOf tokenId
  revertIf (receiver = owner) (.message "ERC721: approval to current owner")
  require (sender = owner ∨ approvals.operatorApprovals owner sender = true)
    (.message "ERC721: approve caller is not token owner or approved for all")
  return { approvals with
    tokenApprovals := Function.update approvals.tokenApprovals tokenId receiver }

/-- What `setApprovalForAll` does for its sender. -/
def setApprovalForAll (approvals : Approvals) (sender operator : Address)
    (approved : Bool) : Except Error Approvals := do
  revertIf (sender = operator) (.message "ERC721: approve to caller")
  return { approvals with
    operatorApprovals := Function.update approvals.operatorApprovals sender
      (Function.update (approvals.operatorApprovals sender) operator approved) }

/-- The requirement of `transferFrom` and `safeTransferFrom`, `_isApprovedOrOwner`. -/
def requireApprovedOrOwner (approvals : Approvals) (tokens : Tokens) (sender : Address)
    (tokenId : U256) : Except Error Unit := do
  let owner ← tokens.ownerOf tokenId
  require (sender = owner ∨ approvals.operatorApprovals owner sender = true ∨
      approvals.tokenApprovals tokenId = sender)
    (.message "ERC721: caller is not token owner or approved")

end Approvals

def constructor (deployer verifier : Address) (balance : ℕ) : State :=
  ⟨deployer, verifier, .empty, .empty, .empty, balance⟩

def onlyOwner (m : Message) (s : State) : Except Error Unit :=
  require (m.sender = s.owner) (.message "Ownable: caller is not the owner")

/-- What the compiler puts before a function that is not `payable`. -/
def nonPayable (m : Message) : Except Error Unit :=
  require (m.value = 0) .empty

/-- `needsCustomFee` and the signature check of `setSBT`. -/
def checkSetSBT (env : Environment) (m : Message) (args : SetSBT) (s : State) :
    Except Error Unit := do
  require (m.value = args.customFee) (.message "Missing Fee")
  let signer ← (env.recover (args.digest env) args.signature).mapError Error.message
  require (signer = s.verifier) (.message
    "The Verifier did not sign the provided arguments in the provided order")

/-- The end of `setSBT`, after the receiver's hook.  It reads the record again. -/
def finishSetSBT (tokenId : U256) (identifier : Bytes32) (s : State) :
    Except Error State := do
  let uri := base64Encode (s.records.sbtOwners identifier).encode
  let tokens ← s.tokens.setTokenURI tokenId uri
  return { s with tokens := tokens }

def setSBT (env : Environment) (m : Message) (args : SetSBT) (s : State) :
    Except Error (Phase Error State) := do
  checkSetSBT env m args s
  let marked ← s.records.useNullifier args.nullifier
  let identifier := args.identifier env
  let records := marked.write identifier args.nullifier args.sbt
  let counted := s.tokens.increment
  let tokenId := counted.tokenIds
  let tokens ← counted.mint args.receiver tokenId
  let written := { s with
    records := records, tokens := tokens, balance := s.balance + m.value.toNat }
  return .external written
    (.message "ERC721: transfer to non ERC721Receiver implementer")
    (finishSetSBT tokenId identifier)

def revokeSBT (env : Environment) (m : Message) (sbtOwner : Address)
    (circuitId : Bytes32) (s : State) : Except Error (Phase Error State) := do
  nonPayable m
  onlyOwner m s
  return .done { s with
    records := s.records.revoke (getIdentifier env sbtOwner circuitId) }

def changeVerifier (m : Message) (newVerifier : Address) (s : State) :
    Except Error (Phase Error State) := do
  nonPayable m
  onlyOwner m s
  return .done { s with verifier := newVerifier }

/-- `payable(owner()).transfer(address(this).balance)`. -/
def collectFees (m : Message) (s : State) : Except Error (Phase Error State) := do
  nonPayable m
  onlyOwner m s
  return .external { s with balance := 0 } .empty .ok

def transferOwnership (m : Message) (newOwner : Address) (s : State) :
    Except Error (Phase Error State) := do
  nonPayable m
  onlyOwner m s
  revertIf (newOwner = 0) (.message "Ownable: new owner is the zero address")
  return .done { s with owner := newOwner }

def renounceOwnership (m : Message) (s : State) : Except Error (Phase Error State) := do
  nonPayable m
  onlyOwner m s
  return .done { s with owner := 0 }

def approve (m : Message) (receiver : Address) (tokenId : U256) (s : State) :
    Except Error (Phase Error State) := do
  nonPayable m
  let approvals ← s.approvals.approve s.tokens m.sender receiver tokenId
  return .done { s with approvals := approvals }

def setApprovalForAll (m : Message) (operator : Address) (approved : Bool) (s : State) :
    Except Error (Phase Error State) := do
  nonPayable m
  let approvals ← s.approvals.setApprovalForAll m.sender operator approved
  return .done { s with approvals := approvals }

/-- The override of `_transfer`. -/
def transfer_ (_holder _receiver : Address) (_tokenId : U256) (_s : State) :
    Except Error State :=
  .error (.message "Cannot transfer this type of token")

def transferFrom (m : Message) (holder receiver : Address) (tokenId : U256) (s : State) :
    Except Error (Phase Error State) := do
  nonPayable m
  s.approvals.requireApprovedOrOwner s.tokens m.sender tokenId
  let moved ← transfer_ holder receiver tokenId s
  return .done moved

/-- The `data` would go to the receiver's hook. -/
def safeTransferFrom (m : Message) (holder receiver : Address) (tokenId : U256)
    (_data : Bytes) (s : State) : Except Error (Phase Error State) := do
  nonPayable m
  s.approvals.requireApprovedOrOwner s.tokens m.sender tokenId
  let moved ← transfer_ holder receiver tokenId s
  return .external moved (.message "ERC721: transfer to non ERC721Receiver implementer") .ok

def contract (env : Environment) : Contract Error Message State := fun m s =>
  match m.entrypoint with
  | .setSBT args => setSBT env m args s
  | .revokeSBT sbtOwner circuitId => revokeSBT env m sbtOwner circuitId s
  | .changeVerifier newVerifier => changeVerifier m newVerifier s
  | .collectFees => collectFees m s
  | .transferOwnership newOwner => transferOwnership m newOwner s
  | .renounceOwnership => renounceOwnership m s
  | .approve receiver tokenId => approve m receiver tokenId s
  | .setApprovalForAll operator approved => setApprovalForAll m operator approved s
  | .transferFrom holder receiver tokenId => transferFrom m holder receiver tokenId s
  | .safeTransferFrom holder receiver tokenId data =>
    safeTransferFrom m holder receiver tokenId data s
  | .forcedEther => .ok (.done { s with balance := s.balance + m.value.toNat })

/-- `_getSBT`, at a block time. -/
def getSBT_ (timestamp : U256) (identifier : Bytes32) (s : State) : Except Error SBT := do
  let sbt := s.records.sbtOwners identifier
  require (timestamp ≤ sbt.expiry) (.message "SBT is expired or does not exist")
  require (sbt.revoked = false) (.message "SBT has been revoked")
  return sbt

def getSBT (env : Environment) (timestamp : U256) (sbtOwner : Address)
    (circuitId : Bytes32) (s : State) : Except Error SBT :=
  getSBT_ timestamp (getIdentifier env sbtOwner circuitId) s

def getSBTByNullifier (timestamp nullifier : U256) (s : State) : Except Error SBT :=
  getSBT_ timestamp (s.records.nullifiersToIdentifiers nullifier) s

end Hub

end IdHub
