import IdHub.CallTraces
import IdHub.CheckedArithmetic
import IdHub.Guards
import IdHub.WordBytes

/-!
# The Stellar SBT contract

`contracts/stellar/human-id/contracts/sbt`, with the arithmetic of its release
profile: an overflow traps.  An invocation that returns an error or traps is
rolled back by the host.
-/

namespace IdHub

namespace StellarSbt

open CallTraces CheckedArithmetic Guards WordBytes

abbrev U32 : Type := BitVec 32
abbrev U64 : Type := BitVec 64
abbrev U256 : Type := BitVec 256

def SECONDS_IN_DAY : U32 := 86400
def DAY_IN_LEDGERS : U32 := 17280

inductive Error where
  | NotFound
  | NullifierAlreadyUsed
  | InvalidExpiration
  | AdminNotSet
  | Revoked
  | Expired
  | FailedToParseDaysUntilExpiry
  | InvalidAdmin
  deriving DecidableEq

inductive Failure where
  | error (error : Error)
  | overflow
  /-- `require_auth` without an authorisation. -/
  | unauthorized
  deriving DecidableEq

inductive Address where
  | account (key : BitVec 256)
  | contract (id : BitVec 256)
  deriving DecidableEq

structure SBT where
  circuitId : U256
  id : U256
  recipient : Address
  expiry : U64
  actionNullifier : U256
  publicValues : List U256
  revoked : Bool
  minter : Address
  deriving DecidableEq

structure Host where
  keccak256 : Bytes → U256
  toXdr : Address → Bytes
  /-- The time to live of a new persistent entry, in ledgers. -/
  initialTtl : ℕ

/-- A persistent entry with the ledgers it still lives. -/
structure Entry (Value : Type) where
  value : Value
  ttl : ℕ
  deriving DecidableEq

namespace Entry

variable {Value : Type}

/-- `storage.set`: an existing entry keeps its time to live. -/
def set (host : Host) (old : Option (Entry Value)) (value : Value) : Entry Value :=
  ⟨value, (old.map Entry.ttl).getD host.initialTtl⟩

def extendTtl (entry : Entry Value) (threshold extendTo : U32) : Entry Value :=
  if entry.ttl < threshold.toNat then { entry with ttl := extendTo.toNat } else entry

def close (entry : Entry Value) (ledgers : ℕ) : Entry Value :=
  { entry with ttl := entry.ttl - ledgers }

end Entry

structure State where
  admin : Option Address
  timestamp : U64
  sbts : U256 → Option (Entry SBT)
  nullifiers : U256 → Option (Entry U256)

def constructor (admin : Address) (timestamp : U64) : State :=
  ⟨some admin, timestamp, fun _ => none, fun _ => none⟩

def getAdmin (s : State) : Except Failure Address :=
  match s.admin with
  | some admin => .ok admin
  | none => .error (.error .AdminNotSet)

def requireAuth (authorized : List Address) (address : Address) :
    Except Failure Unit :=
  require (address ∈ authorized) .unauthorized

/-- `_get_sbt_by_id` and its wrapper `get_sbt_by_id`. -/
def getSbtById (id : U256) (s : State) : Except Failure SBT :=
  match s.sbts id with
  | some entry =>
    if entry.value.revoked then .error (.error .Revoked)
    else if entry.value.expiry < s.timestamp then .error (.error .Expired)
    else .ok entry.value
  | none => .error (.error .NotFound)

def sbtIdString (host : Host) (recipient : Address) (circuitId : U256) : Bytes :=
  ofWord circuitId ++ host.toXdr recipient

def getSbtId (host : Host) (recipient : Address) (circuitId : U256) : U256 :=
  host.keccak256 (sbtIdString host recipient circuitId)

/-- The threshold and the amount by which entries of an SBT are extended. -/
def calcSbtTtlParams (now expiration : U64) : Except Failure (U32 × U32) := do
  let remaining ← checkedSub .overflow expiration now
  let daysUntilExpiry ← narrow 32 (.error .FailedToParseDaysUntilExpiry)
    (remaining / SECONDS_IN_DAY.setWidth 64)
  let sbtBumpAmount ← checkedMul .overflow daysUntilExpiry DAY_IN_LEDGERS
  let sbtLifetimeThreshold ← checkedSub .overflow sbtBumpAmount DAY_IN_LEDGERS
  return (sbtLifetimeThreshold, sbtBumpAmount)

def getSbt (host : Host) (recipient : Address) (circuitId : U256) (s : State) :
    Except Failure SBT :=
  getSbtById (getSbtId host recipient circuitId) s

def getSbtByNullifier (actionNullifier : U256) (s : State) : Except Failure SBT :=
  match s.nullifiers actionNullifier with
  | some entry => getSbtById entry.value s
  | none => .error (.error .NotFound)

/-- The two writes that `mint_sbt` and `revoke_sbt` share. -/
def setSbt (host : Host) (sbtId : U256) (sbt : SBT) (s : State) : State :=
  { s with
    sbts := Function.update s.sbts sbtId (some (.set host (s.sbts sbtId) sbt))
    nullifiers := Function.update s.nullifiers sbt.actionNullifier
      (some (.set host (s.nullifiers sbt.actionNullifier) sbtId)) }

def extendSbt (sbtId actionNullifier : U256) (threshold amount : U32) (s : State) :
    State :=
  { s with
    sbts := Function.update s.sbts sbtId
      ((s.sbts sbtId).map fun entry => entry.extendTtl threshold amount)
    nullifiers := Function.update s.nullifiers actionNullifier
      ((s.nullifiers actionNullifier).map fun entry =>
        entry.extendTtl threshold amount) }

def storeSbt (host : Host) (sbtId : U256) (sbt : SBT) (s : State) :
    Except Failure State := do
  let written := setSbt host sbtId sbt s
  let (sbtLifetimeThreshold, sbtBumpAmount) ←
    calcSbtTtlParams s.timestamp sbt.expiry
  return extendSbt sbtId sbt.actionNullifier sbtLifetimeThreshold sbtBumpAmount
    written

def requireAdmin (authorized : List Address) (admin : Address) (s : State) :
    Except Failure Unit := do
  let actualAdmin ← getAdmin s
  require (actualAdmin = admin) (.error .InvalidAdmin)
  requireAuth authorized admin

def mintSbt (host : Host) (authorized : List Address) (admin recipient : Address)
    (circuitId : U256) (expiration : U64) (actionNullifier : U256)
    (publicValues : List U256) (s : State) : Except Failure (State × U256) := do
  requireAdmin authorized admin s
  require ((s.nullifiers actionNullifier).isNone = true) (.error .NullifierAlreadyUsed)
  let sbtId := getSbtId host recipient circuitId
  let sbt : SBT := ⟨circuitId, sbtId, recipient, expiration, actionNullifier,
    publicValues, false, admin⟩
  let stored ← storeSbt host sbtId sbt s
  return (stored, sbtId)

def setAdmin (authorized : List Address) (currentAdmin newAdmin : Address)
    (s : State) : Except Failure State := do
  requireAdmin authorized currentAdmin s
  requireAuth authorized newAdmin
  return { s with admin := some newAdmin }

def revokeSbt (host : Host) (authorized : List Address) (admin recipient : Address)
    (circuitId : U256) (s : State) : Except Failure State := do
  requireAdmin authorized admin s
  let sbtId := getSbtId host recipient circuitId
  let sbt ← getSbtById sbtId s
  storeSbt host sbtId { sbt with revoked := true } s

inductive Call where
  | mintSbt (authorized : List Address) (admin recipient : Address)
      (circuitId : U256) (expiration : U64) (actionNullifier : U256)
      (publicValues : List U256)
  | setAdmin (authorized : List Address) (currentAdmin newAdmin : Address)
  | revokeSbt (authorized : List Address) (admin recipient : Address)
      (circuitId : U256)
  /-- The network closes ledgers; time does not go back, and no entry is lost. -/
  | closeLedgers (ledgers : ℕ) (timestamp : U64)

def closeLedgers (ledgers : ℕ) (timestamp : U64) (s : State) : State :=
  { s with
    timestamp := if s.timestamp ≤ timestamp then timestamp else s.timestamp
    sbts := fun id => (s.sbts id).map fun entry => entry.close ledgers
    nullifiers := fun nullifier =>
      (s.nullifiers nullifier).map fun entry => entry.close ledgers }

def step (host : Host) (call : Call) (s : State) : Except Failure State :=
  match call with
  | .mintSbt authorized admin recipient circuitId expiration actionNullifier
      publicValues => do
    let minted ← mintSbt host authorized admin recipient circuitId expiration
      actionNullifier publicValues s
    return minted.1
  | .setAdmin authorized currentAdmin newAdmin =>
    setAdmin authorized currentAdmin newAdmin s
  | .revokeSbt authorized admin recipient circuitId =>
    revokeSbt host authorized admin recipient circuitId s
  | .closeLedgers ledgers timestamp => .ok (closeLedgers ledgers timestamp s)

/-- The states that successful invocations and the passing of time lead to. -/
def Reached (host : Host) (s : State) : Prop :=
  ∃ admin timestamp, Reachable (Succeeds (step host)) (constructor admin timestamp) s

end StellarSbt

end IdHub
