import IdHub.CheckedArithmetic
import IdHub.EvmEnvironment
import IdHub.Guards
import IdHub.Reentrancy

/-!
# The payment contract

`HumanIDPayments.sol` with the functions that it has from OpenZeppelin's
`AccessControl`.  These are not in the repository; they are taken as they are in
release 4.9, which it depends on.  Each function is a guarded update of the state; the
functions that send ETH stop at the transfer, whose recipient may do anything, and
resume when it returns.
-/

namespace IdHub

namespace HumanIDPayments

open CheckedArithmetic WordBytes Guards Reentrancy

/-- The custom errors, and the ways in which the compiler and the libraries
revert. -/
inductive Error where
  | invalidOracleAddress
  | paymentAlreadyExists
  | invalidAmount
  | timestampInFuture
  | signatureTooOld
  | invalidSignature
  | paymentDoesNotExist
  | alreadyRefunded
  | transferFailed
  | insufficientBalance
  | invalidRecipient
  | noBalanceToWithdraw
  | mustSendETH
  | emptyBatch
  | arrayLengthMismatch
  | incorrectTotalAmount
  | missingRole (account : Address) (role : Bytes32)
  | renounceForOther
  | ecdsa (message : String)
  | arithmeticOverflow
  | valueSentToNonPayable
  deriving DecidableEq

structure Payment where
  commitment : Bytes32
  service : Bytes32
  timestamp : U256
  sender : Address
  amount : U256
  refunded : Bool
  deriving DecidableEq

def Payment.unset : Payment := ⟨0, 0, 0, 0, 0, false⟩

inductive Event where
  | paymentReceived (commitment : Bytes32) (sender : Address) (amount : U256)
      (service : Bytes32) (timestamp : U256)
  | refundIssued (commitment : Bytes32) (recipient : Address) (amount : U256)
  | refundIssuedByAdmin (commitment : Bytes32) (recipient : Address) (amount : U256)
  | adminWithdrawal (admin recipient : Address) (amount : ℕ)
  | oracleUpdated (oldOracle newOracle : Address)
  | fundsDeposited (sender : Address) (amount : U256)
  | roleGranted (role : Bytes32) (account sender : Address)
  | roleRevoked (role : Bytes32) (account sender : Address)
  deriving DecidableEq

inductive Purpose where
  | refund (commitment : Bytes32)
  | forceRefund (commitment : Bytes32)
  | withdraw
  | withdrawTo
  | withdrawAll
  deriving DecidableEq

structure Transfer where
  purpose : Purpose
  recipient : Address
  amount : ℕ
  deriving DecidableEq

structure State where
  payments : Bytes32 → Payment
  oracleAddress : Address
  hasRole : Bytes32 → Address → Bool
  balance : ℕ
  events : List Event
  /-- The ETH that left the contract, in order.  No code reads it. -/
  transfers : List Transfer

inductive Entrypoint where
  | pay (commitment service : Bytes32) (timestamp : U256) (signature : Bytes)
  | batchPay (commitments services : List Bytes32) (amounts timestamps : List U256)
      (signatures : List Bytes)
  | refund (commitment : Bytes32) (timestamp : U256) (signature : Bytes)
  | deposit
  | receive
  | forceRefund (commitment : Bytes32)
  | withdraw (amount : U256)
  | withdrawTo (amount : U256) (recipient : Address)
  | withdrawAll
  | setOracleAddress (newOracle : Address)
  | grantRole (role : Bytes32) (account : Address)
  | revokeRole (role : Bytes32) (account : Address)
  | renounceRole (role : Bytes32) (account : Address)
  /-- Not a function: ETH credited by a block reward or `selfdestruct`, which
  runs no code of the contract. -/
  | forcedEther

structure Message where
  sender : Address
  value : U256
  timestamp : U256
  entrypoint : Entrypoint

def DEFAULT_ADMIN_ROLE : Bytes32 := 0

/-- The bytes of `"ADMIN_ROLE"`. -/
def adminRoleName : Bytes :=
  [0x41, 0x44, 0x4d, 0x49, 0x4e, 0x5f, 0x52, 0x4f, 0x4c, 0x45]

def ADMIN_ROLE (env : Environment) : Bytes32 := env.keccak256 adminRoleName

namespace State

def credit (s : State) (value : U256) : State :=
  { s with balance := s.balance + value.toNat }

def emit (s : State) (event : Event) : State :=
  { s with events := s.events ++ [event] }

def store (s : State) (payment : Payment) : State :=
  { s with payments := Function.update s.payments payment.commitment payment }

/-- `payment.refunded = true` on the storage reference to a commitment. -/
def markRefunded (s : State) (commitment : Bytes32) : State :=
  { s with
    payments := Function.update s.payments commitment
      { s.payments commitment with refunded := true } }

def setRole (s : State) (role : Bytes32) (account : Address) (held : Bool) : State :=
  { s with
    hasRole := Function.update s.hasRole role
      (Function.update (s.hasRole role) account held) }

end State

/-- `AccessControl._grantRole`. -/
def grantRole_ (sender : Address) (role : Bytes32) (account : Address) (s : State) :
    State :=
  if s.hasRole role account then s
  else (s.setRole role account true).emit (.roleGranted role account sender)

def revokeRole_ (sender : Address) (role : Bytes32) (account : Address) (s : State) :
    State :=
  if s.hasRole role account then
    (s.setRole role account false).emit (.roleRevoked role account sender)
  else s

def onlyRole (m : Message) (role : Bytes32) (s : State) : Except Error Unit :=
  require (s.hasRole role m.sender = true) (.missingRole m.sender role)

/-- What the compiler puts before a function that is not `payable`. -/
def nonPayable (m : Message) : Except Error Unit :=
  require (m.value = 0) .valueSentToNonPayable

/-- The constructor, sent by `deployer` to a contract that may already hold
ETH. -/
def constructor (env : Environment) (deployer oracleAddress : Address)
    (balance : ℕ) : Except Error State := do
  revertIf (oracleAddress = 0) .invalidOracleAddress
  let fresh : State := ⟨fun _ => .unset, oracleAddress, fun _ _ => false, balance, [], []⟩
  let owned := grantRole_ deployer DEFAULT_ADMIN_ROLE deployer fresh
  return grantRole_ deployer (ADMIN_ROLE env) deployer owned

def checkOracle (env : Environment) (signed : List U256) (signature : Bytes)
    (s : State) : Except Error Unit := do
  let messageHash := env.keccak256 (ofWords signed)
  let signer ← (env.recover (env.toEthSignedMessageHash messageHash) signature).mapError
    Error.ecdsa
  revertIf (signer ≠ s.oracleAddress) .invalidSignature

/-- The check that a signed timestamp is past and not older than `window`. -/
def checkTimestamp (m : Message) (timestamp window : U256) : Except Error Unit := do
  revertIf (m.timestamp < timestamp) .timestampInFuture
  revertIf (window < m.timestamp - timestamp) .signatureTooOld

def paymentWindow : U256 := 365 * 86400

def refundWindow : U256 := 10 * 60

/-- `_processPayment`. -/
def processPayment (env : Environment) (m : Message) (commitment service : Bytes32)
    (amount timestamp : U256) (signature : Bytes) (s : State) : Except Error State := do
  revertIf (amount = 0) .invalidAmount
  revertIf ((s.payments commitment).amount ≠ 0) .paymentAlreadyExists
  checkTimestamp m timestamp paymentWindow
  checkOracle env [amount, commitment, service, env.chainid, timestamp] signature s
  let stored := s.store ⟨commitment, service, m.timestamp, m.sender, amount, false⟩
  return stored.emit (.paymentReceived commitment m.sender amount service m.timestamp)

def pay (env : Environment) (m : Message) (commitment service : Bytes32)
    (timestamp : U256) (signature : Bytes) (s : State) :
    Except Error (Phase Error State) := do
  let paid ← processPayment env m commitment service m.value timestamp signature
    (s.credit m.value)
  return .done paid

/-- The loop that adds up `amounts`, with checked addition. -/
def sumAmounts : List U256 → U256 → Except Error U256
  | [], totalAmount => .ok totalAmount
  | amount :: amounts, totalAmount => do
    let sum ← checkedAdd .arithmeticOverflow totalAmount amount
    sumAmounts amounts sum

/-- The loop over the batch.  The arrays have one length. -/
def processPayments (env : Environment) (m : Message) :
    List Bytes32 → List Bytes32 → List U256 → List U256 → List Bytes → State →
      Except Error State
  | commitment :: commitments, service :: services, amount :: amounts,
      timestamp :: timestamps, signature :: signatures, s => do
    let paid ← processPayment env m commitment service amount timestamp signature s
    processPayments env m commitments services amounts timestamps signatures paid
  | _, _, _, _, _, s => .ok s

def batchPay (env : Environment) (m : Message) (commitments services : List Bytes32)
    (amounts timestamps : List U256) (signatures : List Bytes) (s : State) :
    Except Error (Phase Error State) := do
  revertIf (commitments.length = 0) .emptyBatch
  revertIf (services.length ≠ commitments.length ∨ amounts.length ≠ commitments.length ∨
    timestamps.length ≠ commitments.length ∨ signatures.length ≠ commitments.length)
    .arrayLengthMismatch
  let totalAmount ← sumAmounts amounts 0
  revertIf (m.value ≠ totalAmount) .incorrectTotalAmount
  let paid ← processPayments env m commitments services amounts timestamps signatures
    (s.credit m.value)
  return .done paid

/-- `recipient.call{value: amount}("")`, which fails without the balance and
otherwise hands control to the recipient, followed by `if (!success) revert TransferFailed()` and
`afterwards`. -/
def sendValue (purpose : Purpose) (recipient : Address) (amount : ℕ)
    (afterwards : State → State) (s : State) : Except Error (Phase Error State) := do
  require (amount ≤ s.balance) .transferFailed
  let sent := { s with
    balance := s.balance - amount
    transfers := s.transfers ++ [⟨purpose, recipient, amount⟩] }
  return .external sent .transferFailed fun returned => .ok (afterwards returned)

def checkRefundable (commitment : Bytes32) (s : State) : Except Error Unit := do
  revertIf ((s.payments commitment).amount = 0) .paymentDoesNotExist
  revertIf ((s.payments commitment).refunded = true) .alreadyRefunded

/-- The end that `refund` and `forceRefund` share, up to the event.  The event
reads the record again after the transfer. -/
def refundPayment (purpose : Purpose) (issued : Bytes32 → Address → U256 → Event)
    (commitment : Bytes32) (s : State) : Except Error (Phase Error State) :=
  sendValue purpose (s.payments commitment).sender (s.payments commitment).amount.toNat
    (fun returned => returned.emit (issued commitment
      (returned.payments commitment).sender (returned.payments commitment).amount))
    (s.markRefunded commitment)

def refund (env : Environment) (m : Message) (commitment : Bytes32)
    (timestamp : U256) (signature : Bytes) (s : State) :
    Except Error (Phase Error State) := do
  nonPayable m
  checkRefundable commitment s
  checkTimestamp m timestamp refundWindow
  checkOracle env [commitment, env.chainid, timestamp] signature s
  refundPayment (.refund commitment) .refundIssued commitment s

def deposit (m : Message) (s : State) : Except Error (Phase Error State) := do
  revertIf (m.value = 0) .mustSendETH
  return .done ((s.credit m.value).emit (.fundsDeposited m.sender m.value))

def receive (m : Message) (s : State) : Except Error (Phase Error State) :=
  .ok (.done ((s.credit m.value).emit (.fundsDeposited m.sender m.value)))

def forceRefund (env : Environment) (m : Message) (commitment : Bytes32) (s : State) :
    Except Error (Phase Error State) := do
  nonPayable m
  onlyRole m (ADMIN_ROLE env) s
  checkRefundable commitment s
  refundPayment (.forceRefund commitment) .refundIssuedByAdmin commitment s

def withdraw (env : Environment) (m : Message) (amount : U256) (s : State) :
    Except Error (Phase Error State) := do
  nonPayable m
  onlyRole m (ADMIN_ROLE env) s
  revertIf (s.balance < amount.toNat) .insufficientBalance
  sendValue .withdraw m.sender amount.toNat
    (fun returned => returned.emit (.adminWithdrawal m.sender m.sender amount.toNat)) s

def withdrawTo (env : Environment) (m : Message) (amount : U256)
    (recipient : Address) (s : State) : Except Error (Phase Error State) := do
  nonPayable m
  onlyRole m (ADMIN_ROLE env) s
  revertIf (recipient = 0) .invalidRecipient
  revertIf (s.balance < amount.toNat) .insufficientBalance
  sendValue .withdrawTo recipient amount.toNat
    (fun returned => returned.emit (.adminWithdrawal m.sender recipient amount.toNat)) s

def withdrawAll (env : Environment) (m : Message) (s : State) :
    Except Error (Phase Error State) := do
  nonPayable m
  onlyRole m (ADMIN_ROLE env) s
  revertIf (s.balance = 0) .noBalanceToWithdraw
  sendValue .withdrawAll m.sender s.balance
    (fun returned => returned.emit (.adminWithdrawal m.sender m.sender s.balance)) s

def setOracleAddress (env : Environment) (m : Message) (newOracle : Address)
    (s : State) : Except Error (Phase Error State) := do
  nonPayable m
  onlyRole m (ADMIN_ROLE env) s
  revertIf (newOracle = 0) .invalidOracleAddress
  let updated := { s with oracleAddress := newOracle }
  return .done (updated.emit (.oracleUpdated s.oracleAddress newOracle))

/-- `AccessControl.grantRole`.  Every role has the default admin role. -/
def grantRole (m : Message) (role : Bytes32) (account : Address) (s : State) :
    Except Error (Phase Error State) := do
  nonPayable m
  onlyRole m DEFAULT_ADMIN_ROLE s
  return .done (grantRole_ m.sender role account s)

def revokeRole (m : Message) (role : Bytes32) (account : Address) (s : State) :
    Except Error (Phase Error State) := do
  nonPayable m
  onlyRole m DEFAULT_ADMIN_ROLE s
  return .done (revokeRole_ m.sender role account s)

def renounceRole (m : Message) (role : Bytes32) (account : Address) (s : State) :
    Except Error (Phase Error State) := do
  nonPayable m
  require (account = m.sender) .renounceForOther
  return .done (revokeRole_ m.sender role account s)

def contract (env : Environment) : Contract Error Message State := fun m s =>
  match m.entrypoint with
  | .pay commitment service timestamp signature =>
    pay env m commitment service timestamp signature s
  | .batchPay commitments services amounts timestamps signatures =>
    batchPay env m commitments services amounts timestamps signatures s
  | .refund commitment timestamp signature => refund env m commitment timestamp signature s
  | .deposit => deposit m s
  | .receive => receive m s
  | .forceRefund commitment => forceRefund env m commitment s
  | .withdraw amount => withdraw env m amount s
  | .withdrawTo amount recipient => withdrawTo env m amount recipient s
  | .withdrawAll => withdrawAll env m s
  | .setOracleAddress newOracle => setOracleAddress env m newOracle s
  | .grantRole role account => grantRole m role account s
  | .revokeRole role account => revokeRole m role account s
  | .renounceRole role account => renounceRole m role account s
  | .forcedEther => .ok (.done (s.credit m.value))

end HumanIDPayments

end IdHub
