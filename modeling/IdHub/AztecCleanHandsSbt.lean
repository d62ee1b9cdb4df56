import IdHub.Bn254
import IdHub.CallTraces
import IdHub.Guards

/-!
# The Aztec Clean Hands SBT contract

`contracts/aztec/clean_hands_sbt_contract`.  Storage that was never written reads
as zeros, and a slot of type `PublicImmutable` accepts one initialization.
-/

namespace IdHub

namespace AztecCleanHandsSbt

open CallTraces Guards

/-- An address is the field element that it wraps. -/
abbrev AztecAddress : Type := Fr

abbrev U64 : Type := BitVec 64

inductive Failure where
  | assertion (message : String)
  /-- A second initialization of a `PublicImmutable`. -/
  | alreadyInitialized
  deriving DecidableEq

structure SBT where
  id : Fr
  recipient : AztecAddress
  expiry : U64
  actionId : Fr
  actionNullifier : Fr
  revoked : Bool
  minter : AztecAddress
  deriving DecidableEq

/-- The record that `unpack` makes of zeros. -/
def SBT.unset : SBT := ⟨0, 0, 0, 0, 0, false, 0⟩

/-- A map to slots of type `PublicImmutable<Field>`. -/
abbrev ImmutableMap : Type := Fr → Option Fr

namespace ImmutableMap

def read (slots : ImmutableMap) (key : Fr) : Fr :=
  (slots key).getD 0

/-- `initialize` on the slot of a key. -/
def initializeAt (slots : ImmutableMap) (key value : Fr) : Except Failure ImmutableMap := do
  require (slots key = none) .alreadyInitialized
  return Function.update slots key (some value)

end ImmutableMap

structure State where
  owner : AztecAddress
  sbtCount : Fr
  sbts : Fr → SBT
  addressToSbtId : ImmutableMap
  nullifierToSbtId : ImmutableMap

def constructor (owner : AztecAddress) : Except Failure State := do
  require (owner ≠ 0) (.assertion "invalid owner")
  return ⟨owner, 0, fun _ => .unset, fun _ => none, fun _ => none⟩

def setOwner (msgSender newOwner : AztecAddress) (s : State) : Except Failure State := do
  require (s.owner = msgSender) (.assertion "caller is not an owner")
  return { s with owner := newOwner }

structure Mint where
  recipient : AztecAddress
  actionId : Fr
  actionNullifier : Fr
  expiry : U64
  deriving DecidableEq

def Mint.sbt (args : Mint) (sbtId : Fr) (revoked : Bool) (minter : AztecAddress) : SBT :=
  ⟨sbtId, args.recipient, args.expiry, args.actionId, args.actionNullifier, revoked, minter⟩

def mint (msgSender : AztecAddress) (args : Mint) (s : State) : Except Failure State := do
  require (s.owner = msgSender) (.assertion "caller is not a owner")
  require (s.addressToSbtId.read args.recipient = 0)
    (.assertion "recipient already has an SBT")
  require (s.nullifierToSbtId.read args.actionNullifier = 0)
    (.assertion "an SBT with this action nullifier already exists")
  let sbtId := s.sbtCount
  let newSbt := args.sbt sbtId false msgSender
  let addressToSbtId ← s.addressToSbtId.initializeAt args.recipient sbtId
  let nullifierToSbtId ← s.nullifierToSbtId.initializeAt args.actionNullifier sbtId
  return { s with
    sbts := Function.update s.sbts sbtId newSbt
    addressToSbtId := addressToSbtId
    nullifierToSbtId := nullifierToSbtId
    sbtCount := sbtId + 1 }

def revoke (msgSender : AztecAddress) (sbtId : Fr) (s : State) : Except Failure State := do
  require (s.owner = msgSender) (.assertion "caller is not the contract owner")
  let sbt := s.sbts sbtId
  return { s with sbts := Function.update s.sbts sbtId { sbt with revoked := true } }

def getOwner (s : State) : AztecAddress :=
  s.owner

def getSbtById (sbtId : Fr) (s : State) : SBT :=
  s.sbts sbtId

def getSbtByAddress (addr : AztecAddress) (s : State) : SBT :=
  let id := s.addressToSbtId.read addr
  s.sbts id

def getSbtByNullifier (actionNullifier : Fr) (s : State) : SBT :=
  let id := s.nullifierToSbtId.read actionNullifier
  s.sbts id

inductive Call where
  | setOwner (newOwner : AztecAddress)
  | mint (args : Mint)
  | revoke (sbtId : Fr)
  deriving DecidableEq

structure Transaction where
  msgSender : AztecAddress
  call : Call
  deriving DecidableEq

def step (transaction : Transaction) (s : State) : Except Failure State :=
  match transaction.call with
  | .setOwner newOwner => setOwner transaction.msgSender newOwner s
  | .mint args => mint transaction.msgSender args s
  | .revoke sbtId => revoke transaction.msgSender sbtId s

/-- The transactions of `history`, made after the deployment by `constructor`, all
succeeded and led to `s`.  A failed transaction changes nothing. -/
def Run (owner : AztecAddress) (history : List Transaction) (s : State) : Prop :=
  ∃ deployed, constructor owner = .ok deployed ∧ Trace (Succeeds step) deployed history s

variable {s t : State} {msgSender : AztecAddress}

theorem setOwner_ok {newOwner : AztecAddress} :
    setOwner msgSender newOwner s = .ok t ↔
      s.owner = msgSender ∧ { s with owner := newOwner } = t := by
  simp only [setOwner, bind_eq_ok, require_eq_ok, pure_eq_ok, exists_const]

theorem revoke_ok {sbtId : Fr} :
    revoke msgSender sbtId s = .ok t ↔ s.owner = msgSender ∧
      { s with sbts := Function.update s.sbts sbtId { s.sbts sbtId with revoked := true } } =
        t := by
  simp only [revoke, bind_eq_ok, require_eq_ok, pure_eq_ok, exists_const]

/-- A slot that accepts an initialization reads as zero, so the assertions of `mint`
that test for zero add nothing to it. -/
theorem mint_ok {args : Mint} :
    mint msgSender args s = .ok t ↔
      s.owner = msgSender ∧ s.addressToSbtId args.recipient = none ∧
        s.nullifierToSbtId args.actionNullifier = none ∧
        { s with
          sbts := Function.update s.sbts s.sbtCount (args.sbt s.sbtCount false msgSender)
          addressToSbtId :=
            Function.update s.addressToSbtId args.recipient (some s.sbtCount)
          nullifierToSbtId :=
            Function.update s.nullifierToSbtId args.actionNullifier (some s.sbtCount)
          sbtCount := s.sbtCount + 1 } = t := by
  simp only [mint, ImmutableMap.initializeAt, bind_eq_ok, require_eq_ok, pure_eq_ok]
  constructor
  · rintro ⟨_, owner, _, -, _, -, _, ⟨_, freeRecipient, rfl⟩, _, ⟨_, freeNullifier, rfl⟩, rfl⟩
    exact ⟨owner, freeRecipient, freeNullifier, rfl⟩
  · rintro ⟨owner, freeRecipient, freeNullifier, rfl⟩
    have recipientZero : s.addressToSbtId.read args.recipient = 0 := by
      rw [ImmutableMap.read, freeRecipient, Option.getD_none]
    have nullifierZero : s.nullifierToSbtId.read args.actionNullifier = 0 := by
      rw [ImmutableMap.read, freeNullifier, Option.getD_none]
    exact ⟨(), owner, (), recipientZero, (), nullifierZero, _, ⟨(), freeRecipient, rfl⟩, _,
      ⟨(), freeNullifier, rfl⟩, rfl⟩

end AztecCleanHandsSbt

end IdHub
