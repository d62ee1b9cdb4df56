import IdHub.EscrowLedger
import IdHub.HumanIDPayments

/-!
# Payments are refunded at most once

The payment contract is a ledger of deposits: a commitment's record is opened by
a payment and returned by `refund` or `forceRefund`.  Each segment of the
contract's code, from a call to the transfer it makes or from the return of that
transfer to the end, takes steps of the ledger.  So every run does, however the
recipients of transfers re-enter the contract.
-/

namespace IdHub

namespace HumanIDPayments

open EscrowLedger Guards Reentrancy

/-- What a payment's record fixes for good. -/
structure PaymentTerms where
  commitment : Bytes32
  service : Bytes32
  timestamp : U256
  sender : Address
  amount : U256

def Payment.terms (payment : Payment) : PaymentTerms :=
  ⟨payment.commitment, payment.service, payment.timestamp, payment.sender, payment.amount⟩

def Payment.status (payment : Payment) : Status PaymentTerms :=
  if payment.amount = 0 then .absent
  else if payment.refunded then .returned payment.terms
  else .held payment.terms

theorem Payment.status_absent {payment : Payment} (unset : payment.amount = 0) :
    payment.status = .absent :=
  if_pos unset

theorem Payment.status_held {payment : Payment} (set : payment.amount ≠ 0)
    (unrefunded : payment.refunded = false) : payment.status = .held payment.terms := by
  rw [Payment.status, if_neg set, unrefunded]
  rfl

theorem Payment.status_returned {payment : Payment} (set : payment.amount ≠ 0)
    (refunded : payment.refunded = true) :
    payment.status = .returned payment.terms := by
  rw [Payment.status, if_neg set, refunded]
  rfl

theorem Payment.of_status_held {payment : Payment} {terms : PaymentTerms}
    (held : payment.status = .held terms) :
    payment.terms = terms ∧ payment.refunded = false := by
  by_cases unset : payment.amount = 0
  · simp [Payment.status_absent unset] at held
  cases refunded : payment.refunded with
  | true => simp [Payment.status_returned unset refunded] at held
  | false =>
      rw [Payment.status_held unset refunded] at held
      exact ⟨Status.held.inj held, rfl⟩

theorem Payment.of_status_returned {payment : Payment} {terms : PaymentTerms}
    (returned : payment.status = .returned terms) :
    payment.terms = terms ∧ payment.refunded = true := by
  by_cases unset : payment.amount = 0
  · simp [Payment.status_absent unset] at returned
  cases refunded : payment.refunded with
  | false => simp [Payment.status_held unset refunded] at returned
  | true =>
      rw [Payment.status_returned unset refunded] at returned
      exact ⟨Status.returned.inj returned, rfl⟩

def PaymentTerms.refund (terms : PaymentTerms) : Address × ℕ :=
  (terms.sender, terms.amount.toNat)

/-- The commitment whose payment the event announces. -/
def Event.received : Event → Option Bytes32
  | .paymentReceived commitment _ _ _ _ => some commitment
  | _ => none

/-- The commitment whose refund the transfer is, with recipient and amount. -/
def Transfer.refunded (transfer : Transfer) : Option (Bytes32 × Address × ℕ) :=
  match transfer.purpose with
  | .refund commitment => some (commitment, transfer.recipient, transfer.amount)
  | .forceRefund commitment => some (commitment, transfer.recipient, transfer.amount)
  | _ => none

def State.ledger (s : State) : Ledger Bytes32 PaymentTerms (Address × ℕ) where
  accounts commitment := (s.payments commitment).status
  opened := s.events.filterMap Event.received
  paidOut := s.transfers.filterMap Transfer.refunded

abbrev LedgerSteps (s t : State) : Prop :=
  Steps PaymentTerms.refund s.ledger t.ledger

section Updates

variable (s : State)

@[simp] theorem ledger_credit (value : U256) : (s.credit value).ledger = s.ledger := rfl

@[simp] theorem ledger_setRole (role : Bytes32) (account : Address) (held : Bool) :
    (s.setRole role account held).ledger = s.ledger := rfl

theorem ledger_emit {event : Event} (silent : event.received = none) :
    (s.emit event).ledger = s.ledger := by
  simp [State.ledger, State.emit, List.filterMap_append, silent]

theorem accounts_store (payment : Payment) :
    (s.store payment).ledger.accounts =
      Function.update s.ledger.accounts payment.commitment payment.status := by
  funext commitment
  rcases eq_or_ne commitment payment.commitment with rfl | other
  · simp [State.store, State.ledger]
  · simp [State.store, State.ledger, other]

theorem accounts_markRefunded (commitment : Bytes32) :
    (s.markRefunded commitment).ledger.accounts =
      Function.update s.ledger.accounts commitment
        (Payment.status { s.payments commitment with refunded := true }) := by
  funext key
  rcases eq_or_ne key commitment with rfl | other
  · simp [State.markRefunded, State.ledger]
  · simp [State.markRefunded, State.ledger, other]

@[simp] theorem ledger_grantRole_ (sender : Address) (role : Bytes32) (account : Address) :
    (grantRole_ sender role account s).ledger = s.ledger := by
  unfold grantRole_
  split
  · rfl
  · rw [ledger_emit _ rfl, ledger_setRole]

@[simp] theorem ledger_revokeRole_ (sender : Address) (role : Bytes32) (account : Address) :
    (revokeRole_ sender role account s).ledger = s.ledger := by
  unfold revokeRole_
  split
  · rw [ledger_emit _ rfl, ledger_setRole]
  · rfl

end Updates

variable {env : Environment} {m : Message} {s t : State} {phase : Phase Error State}

theorem processPayment_ok {commitment service : Bytes32} {amount timestamp : U256}
    {signature : WordBytes.Bytes}
    (processed : processPayment env m commitment service amount timestamp signature s =
      .ok t) :
    amount ≠ 0 ∧ (s.payments commitment).amount = 0 ∧
      t = (s.store ⟨commitment, service, m.timestamp, m.sender, amount, false⟩).emit
        (.paymentReceived commitment m.sender amount service m.timestamp) := by
  simp only [processPayment, bind_eq_ok, revertIf_eq_ok, pure_eq_ok, ne_eq, not_not]
    at processed
  obtain ⟨-, positive, -, unset, -, -, -, -, stored⟩ := processed
  exact ⟨positive, unset, stored.symm⟩

theorem processPayment_steps {commitment service : Bytes32} {amount timestamp : U256}
    {signature : WordBytes.Bytes}
    (processed : processPayment env m commitment service amount timestamp signature s =
      .ok t) : LedgerSteps s t := by
  obtain ⟨positive, unset, rfl⟩ := processPayment_ok processed
  apply Relation.ReflTransGen.single
  apply Step.of_opened ⟨commitment, service, m.timestamp, m.sender, amount⟩
  · exact Payment.status_absent unset
  · calc
      _ = Function.update s.ledger.accounts commitment _ := accounts_store s
        ⟨commitment, service, m.timestamp, m.sender, amount, false⟩
      _ = _ := by
        rw [Payment.status_held (by exact positive) rfl]
        rfl
  · simp [State.ledger, State.emit, State.store, Event.received]
  · rfl

theorem processPayments_steps {commitments services : List Bytes32}
    {amounts timestamps : List U256} {signatures : List WordBytes.Bytes}
    (processed : processPayments env m commitments services amounts timestamps
      signatures s = .ok t) : LedgerSteps s t := by
  induction commitments, services, amounts, timestamps, signatures, s using
    processPayments.induct with
  | case1 commitment commitments service services amount amounts timestamp
      timestamps signature signatures s ih =>
      simp only [processPayments, bind_eq_ok] at processed
      obtain ⟨middle, first, rest⟩ := processed
      exact (processPayment_steps first).trans (ih middle rest)
  | case2 commitments services amounts timestamps signatures s exhausted =>
      rw [processPayments] at processed
      · simp only [Except.ok.injEq] at processed
        rw [processed]
      · exact exhausted

theorem markRefunded_steps {commitment : Bytes32} {purpose : Purpose} {balance : ℕ}
    (refundable : checkRefundable commitment s = .ok ())
    (refunds : purpose = .refund commitment ∨ purpose = .forceRefund commitment) :
    LedgerSteps s { s.markRefunded commitment with
      balance := balance
      transfers := s.transfers ++ [⟨purpose, (s.payments commitment).sender,
        (s.payments commitment).amount.toNat⟩] } := by
  simp only [checkRefundable, bind_eq_ok, revertIf_eq_ok, Bool.not_eq_true] at refundable
  obtain ⟨-, set, unrefunded⟩ := refundable
  apply Relation.ReflTransGen.single
  apply Step.of_returned
  · exact Payment.status_held set unrefunded
  · calc
      _ = Function.update s.ledger.accounts commitment _ :=
        accounts_markRefunded s commitment
      _ = _ := by
        rw [Payment.status_returned (by exact set) rfl]
        rfl
  · rfl
  · rcases refunds with rfl | rfl
    · simp [State.ledger, Transfer.refunded, PaymentTerms.refund, Payment.terms]
    · simp [State.ledger, Transfer.refunded, PaymentTerms.refund, Payment.terms]

/-- A call up to its end or its transfer. -/
inductive Started (env : Environment) (m : Message) (s : State) : Phase Error State → Prop
  | pay {commitment service : Bytes32} {timestamp : U256} {signature : WordBytes.Bytes}
      {t : State} (entry : m.entrypoint = .pay commitment service timestamp signature)
      (processed : processPayment env m commitment service m.value timestamp signature
        (s.credit m.value) = .ok t) : Started env m s (.done t)
  | batchPay {commitments services : List Bytes32} {amounts timestamps : List U256}
      {signatures : List WordBytes.Bytes} {t : State}
      (entry : m.entrypoint = .batchPay commitments services amounts timestamps signatures)
      (lengths : services.length = commitments.length ∧ amounts.length = commitments.length ∧
        timestamps.length = commitments.length ∧ signatures.length = commitments.length)
      (summed : sumAmounts amounts 0 = .ok m.value)
      (processed : processPayments env m commitments services amounts timestamps signatures
        (s.credit m.value) = .ok t) : Started env m s (.done t)
  | refund {commitment : Bytes32} {timestamp : U256} {signature : WordBytes.Bytes}
      {phase : Phase Error State} (entry : m.entrypoint = .refund commitment timestamp signature)
      (refundable : checkRefundable commitment s = .ok ())
      (checked : checkOracle env [commitment, env.chainid, timestamp] signature s = .ok ())
      (refunded : refundPayment (.refund commitment) .refundIssued commitment s = .ok phase) :
      Started env m s phase
  | forceRefund {commitment : Bytes32} {phase : Phase Error State}
      (entry : m.entrypoint = .forceRefund commitment)
      (refundable : checkRefundable commitment s = .ok ())
      (refunded : refundPayment (.forceRefund commitment) .refundIssuedByAdmin commitment s =
        .ok phase) : Started env m s phase
  | withdraw {amount : U256} {phase : Phase Error State}
      (entry : m.entrypoint = .withdraw amount)
      (sent : sendValue .withdraw m.sender amount.toNat (fun returned =>
        returned.emit (.adminWithdrawal m.sender m.sender amount.toNat)) s = .ok phase) :
      Started env m s phase
  | withdrawTo {amount : U256} {recipient : Address} {phase : Phase Error State}
      (entry : m.entrypoint = .withdrawTo amount recipient)
      (sent : sendValue .withdrawTo recipient amount.toNat (fun returned =>
        returned.emit (.adminWithdrawal m.sender recipient amount.toNat)) s = .ok phase) :
      Started env m s phase
  | withdrawAll {phase : Phase Error State} (entry : m.entrypoint = .withdrawAll)
      (sent : sendValue .withdrawAll m.sender s.balance (fun returned =>
        returned.emit (.adminWithdrawal m.sender m.sender s.balance)) s = .ok phase) :
      Started env m s phase
  | deposit (entry : m.entrypoint = .deposit) :
      Started env m s (.done ((s.credit m.value).emit (.fundsDeposited m.sender m.value)))
  | receive (entry : m.entrypoint = .receive) :
      Started env m s (.done ((s.credit m.value).emit (.fundsDeposited m.sender m.value)))
  | setOracleAddress {newOracle : Address} (entry : m.entrypoint = .setOracleAddress newOracle) :
      Started env m s (.done (State.emit { s with oracleAddress := newOracle }
        (.oracleUpdated s.oracleAddress newOracle)))
  | grantRole {role : Bytes32} {account : Address}
      (entry : m.entrypoint = .grantRole role account) :
      Started env m s (.done (grantRole_ m.sender role account s))
  | revokeRole {role : Bytes32} {account : Address}
      (entry : m.entrypoint = .revokeRole role account) :
      Started env m s (.done (revokeRole_ m.sender role account s))
  | renounceRole {role : Bytes32} {account : Address}
      (entry : m.entrypoint = .renounceRole role account) :
      Started env m s (.done (revokeRole_ m.sender role account s))
  | forcedEther (entry : m.entrypoint = .forcedEther) :
      Started env m s (.done (s.credit m.value))

theorem contract_started (called : contract env m s = .ok phase) : Started env m s phase := by
  unfold contract at called
  cases entry : m.entrypoint with
  | pay commitment service timestamp signature =>
      simp only [entry, pay, bind_eq_ok, pure_eq_ok] at called
      obtain ⟨t, processed, rfl⟩ := called
      exact .pay entry processed
  | batchPay commitments services amounts timestamps signatures =>
      simp only [entry, batchPay, bind_eq_ok, pure_eq_ok, revertIf_eq_ok,
        not_or, ne_eq, not_not] at called
      obtain ⟨-, -, -, lengths, total, summed, -, rfl, t, processed, rfl⟩ := called
      exact .batchPay entry lengths summed processed
  | refund commitment timestamp signature =>
      simp only [entry, refund, bind_eq_ok] at called
      obtain ⟨-, -, _, refundable, -, -, _, checked, refunded⟩ := called
      exact .refund entry refundable checked refunded
  | forceRefund commitment =>
      simp only [entry, forceRefund, bind_eq_ok] at called
      obtain ⟨-, -, -, -, _, refundable, refunded⟩ := called
      exact .forceRefund entry refundable refunded
  | withdraw amount =>
      simp only [entry, withdraw, bind_eq_ok] at called
      obtain ⟨-, -, -, -, -, -, sent⟩ := called
      exact .withdraw entry sent
  | withdrawTo amount recipient =>
      simp only [entry, withdrawTo, bind_eq_ok] at called
      obtain ⟨-, -, -, -, -, -, -, -, sent⟩ := called
      exact .withdrawTo entry sent
  | withdrawAll =>
      simp only [entry, withdrawAll, bind_eq_ok] at called
      obtain ⟨-, -, -, -, -, -, sent⟩ := called
      exact .withdrawAll entry sent
  | deposit =>
      simp only [entry, deposit, bind_eq_ok, pure_eq_ok] at called
      obtain ⟨-, -, rfl⟩ := called
      exact .deposit entry
  | receive =>
      simp only [entry, receive, Except.ok.injEq] at called
      rw [← called]
      exact .receive entry
  | setOracleAddress newOracle =>
      simp only [entry, setOracleAddress, bind_eq_ok, pure_eq_ok] at called
      obtain ⟨-, -, -, -, -, -, rfl⟩ := called
      exact .setOracleAddress entry
  | grantRole role account =>
      simp only [entry, grantRole, bind_eq_ok, pure_eq_ok] at called
      obtain ⟨-, -, -, -, rfl⟩ := called
      exact .grantRole entry
  | revokeRole role account =>
      simp only [entry, revokeRole, bind_eq_ok, pure_eq_ok] at called
      obtain ⟨-, -, -, -, rfl⟩ := called
      exact .revokeRole entry
  | renounceRole role account =>
      simp only [entry, renounceRole, bind_eq_ok, pure_eq_ok] at called
      obtain ⟨-, -, -, -, rfl⟩ := called
      exact .renounceRole entry
  | forcedEther =>
      simp only [entry, Except.ok.injEq] at called
      rw [← called]
      exact .forcedEther entry

/-- What one call does before it ends or sends ETH, and what it does when the
recipient returns. -/
inductive Segments (s : State) : Phase Error State → Prop
  | ends {t : State} (steps : LedgerSteps s t) : Segments s (.done t)
  | sends {sent : State} {afterwards : State → State} (steps : LedgerSteps s sent)
      (unchanged : ∀ returned, (afterwards returned).ledger = returned.ledger) :
      Segments s (.external sent .transferFailed fun returned => .ok (afterwards returned))

theorem refundPayment_segments {commitment : Bytes32} {purpose : Purpose}
    {issued : Bytes32 → Address → U256 → Event}
    (refundable : checkRefundable commitment s = .ok ())
    (refunds : purpose = .refund commitment ∨ purpose = .forceRefund commitment)
    (silent : ∀ commitment recipient amount,
      (issued commitment recipient amount).received = none)
    (called : refundPayment purpose issued commitment s = .ok phase) :
    Segments s phase := by
  simp only [refundPayment, sendValue, bind_eq_ok, pure_eq_ok] at called
  obtain ⟨-, -, rfl⟩ := called
  exact .sends (markRefunded_steps refundable refunds)
    (fun returned => ledger_emit returned (silent _ _ _))

/-- The functions that send ETH to an admin do nothing to the ledger. -/
theorem withdrawal_segments {purpose : Purpose} {recipient : Address} {amount : ℕ}
    {event : Event} (silent : event.received = none)
    (withdraws : (Transfer.mk purpose recipient amount).refunded = none)
    (called : sendValue purpose recipient amount (fun returned => returned.emit event) s =
      .ok phase) : Segments s phase := by
  simp only [sendValue, bind_eq_ok, pure_eq_ok] at called
  obtain ⟨-, -, rfl⟩ := called
  refine .sends ?_ (fun returned => ledger_emit returned silent)
  have unchanged : State.ledger { s with
      balance := s.balance - amount
      transfers := s.transfers ++ [⟨purpose, recipient, amount⟩] } = s.ledger := by
    simp [State.ledger, List.filterMap_append, withdraws]
  rw [LedgerSteps, unchanged]

theorem segments_of_ledger_eq (unchanged : t.ledger = s.ledger) : Segments s (.done t) := by
  apply Segments.ends
  rw [LedgerSteps, unchanged]

theorem contract_segments (called : contract env m s = .ok phase) : Segments s phase := by
  cases contract_started called with
  | pay _ processed =>
      have steps : LedgerSteps (s.credit m.value) _ := processPayment_steps processed
      exact .ends steps
  | batchPay _ _ _ processed =>
      have steps : LedgerSteps (s.credit m.value) _ := processPayments_steps processed
      exact .ends steps
  | refund _ refundable _ refunded =>
      exact refundPayment_segments refundable (.inl rfl) (fun _ _ _ => rfl) refunded
  | forceRefund _ refundable refunded =>
      exact refundPayment_segments refundable (.inr rfl) (fun _ _ _ => rfl) refunded
  | withdraw _ sent => exact withdrawal_segments rfl rfl sent
  | withdrawTo _ sent => exact withdrawal_segments rfl rfl sent
  | withdrawAll _ sent => exact withdrawal_segments rfl rfl sent
  | deposit _ => exact segments_of_ledger_eq (ledger_emit _ rfl)
  | receive _ => exact segments_of_ledger_eq (ledger_emit _ rfl)
  | setOracleAddress _ => exact segments_of_ledger_eq (ledger_emit _ rfl)
  | grantRole _ => exact segments_of_ledger_eq (ledger_grantRole_ _ _ _ _)
  | revokeRole _ => exact segments_of_ledger_eq (ledger_revokeRole_ _ _ _ _)
  | renounceRole _ => exact segments_of_ledger_eq (ledger_revokeRole_ _ _ _ _)
  | forcedEther _ => exact segments_of_ledger_eq (ledger_credit _ _)

theorem contract_refines (env : Environment) :
    Guarantee (contract env) (fun world after => LedgerSteps world.state after.state) := by
  apply refinement
  · intro call state phase called
    cases contract_segments called with
    | ends steps => exact steps
    | sends steps _ => exact steps
  · intro call state middle onFail resume returned final called resumed
    cases contract_segments called with
    | sends _ unchanged =>
        simp only [Except.ok.injEq] at resumed
        rw [← resumed, unchanged]

theorem ledger_constructor {deployer oracleAddress : Address} {balance : ℕ}
    (deployed : constructor env deployer oracleAddress balance = .ok s) :
    s.ledger = Ledger.empty := by
  simp only [constructor, bind_eq_ok, pure_eq_ok] at deployed
  obtain ⟨-, -, rfl⟩ := deployed
  rw [ledger_grantRole_, ledger_grantRole_]
  rfl

/-- How often a payment for the commitment was announced. -/
def State.timesReceived (s : State) (commitment : Bytes32) : ℕ :=
  (s.events.filterMap Event.received).count commitment

/-- The ETH that `refund` and `forceRefund` sent for the commitment: recipients
and amounts. -/
def State.refundsSent (s : State) (commitment : Bytes32) : List (Address × ℕ) :=
  (s.transfers.filterMap Transfer.refunded).filterMap
    fun entry => if entry.1 = commitment then some entry.2 else none

def State.totalRefunded (s : State) (commitment : Bytes32) : ℕ :=
  ((s.refundsSent commitment).map Prod.snd).sum

/-- Each record was created at most once, and refunded in full to its payer or
not at all. -/
structure RefundedOnce (s : State) : Prop where
  created : ∀ commitment, s.timesReceived commitment =
    if (s.payments commitment).amount = 0 then 0 else 1
  total : ∀ commitment, s.totalRefunded commitment =
    if (s.payments commitment).refunded then (s.payments commitment).amount.toNat else 0
  payee : ∀ commitment, ∀ refund ∈ s.refundsSent commitment,
    refund.1 = (s.payments commitment).sender

/-- A created record keeps its terms, and a refunded one stays refunded. -/
structure Preserves (s t : State) : Prop where
  terms : ∀ commitment, (s.payments commitment).amount ≠ 0 →
    (t.payments commitment).terms = (s.payments commitment).terms
  refunded : ∀ commitment, (s.payments commitment).amount ≠ 0 →
    (s.payments commitment).refunded = true → (t.payments commitment).refunded = true

theorem preserves_of_steps (steps : LedgerSteps s t) : Preserves s t := by
  have forward : ∀ commitment, (s.payments commitment).amount ≠ 0 →
      (t.payments commitment).terms = (s.payments commitment).terms ∧
        ((s.payments commitment).refunded = true →
          (t.payments commitment).refunded = true) := by
    intro commitment set
    have le : (s.payments commitment).status.Le (t.payments commitment).status :=
      steps.le commitment
    cases refunded : (s.payments commitment).refunded with
    | false =>
        rw [Payment.status_held set refunded] at le
        rcases le.of_held with held | returned
        · exact ⟨(Payment.of_status_held held).1, by simp⟩
        · exact ⟨(Payment.of_status_returned returned).1, by simp⟩
    | true =>
        rw [Payment.status_returned set refunded] at le
        have kept := Payment.of_status_returned le.of_returned
        exact ⟨kept.1, fun _ => kept.2⟩
  exact ⟨fun commitment set => (forward commitment set).1,
    fun commitment set => (forward commitment set).2⟩

theorem refundedOnce_of_balanced (balanced : Balanced PaymentTerms.refund s.ledger) :
    RefundedOnce s := by
  have opened : ∀ commitment, s.timesReceived commitment =
      (s.payments commitment).status.openings := balanced.opened
  have paidOut : ∀ commitment, s.refundsSent commitment =
      (s.payments commitment).status.payouts PaymentTerms.refund := balanced.paidOut
  have cases : ∀ commitment,
      (s.timesReceived commitment = if (s.payments commitment).amount = 0 then 0 else 1) ∧
      s.refundsSent commitment = if (s.payments commitment).refunded ∧
          (s.payments commitment).amount ≠ 0 then
        [((s.payments commitment).sender, (s.payments commitment).amount.toNat)] else [] := by
    intro commitment
    rw [opened, paidOut]
    by_cases unset : (s.payments commitment).amount = 0
    · rw [Payment.status_absent unset, if_pos unset, if_neg (fun set => set.2 unset)]
      exact ⟨rfl, rfl⟩
    cases refunded : (s.payments commitment).refunded with
    | false =>
        rw [Payment.status_held unset refunded, if_neg unset, if_neg (by simp)]
        exact ⟨rfl, rfl⟩
    | true =>
        rw [Payment.status_returned unset refunded, if_neg unset, if_pos ⟨rfl, unset⟩]
        exact ⟨rfl, rfl⟩
  refine ⟨fun commitment => (cases commitment).1, ?_, ?_⟩
  · intro commitment
    rw [State.totalRefunded, (cases commitment).2]
    by_cases unset : (s.payments commitment).amount = 0
    · simp [unset]
    · cases refunded : (s.payments commitment).refunded with
      | false => simp
      | true => rw [if_pos ⟨rfl, unset⟩, if_pos rfl]; simp
  · intro commitment refund sent
    rw [(cases commitment).2] at sent
    split at sent
    · rw [List.mem_singleton.mp sent]
    · simp at sent

/-- In every world that a run from the deployment reaches, also inside a transaction,
payments were created and refunded at most once, and keep their terms in every
later world. -/
theorem refunded_at_most_once {deployer oracleAddress : Address} {balance : ℕ}
    (deployed : constructor env deployer oracleAddress balance = .ok s)
    {world : World Message State} (reached : Reached (contract env) ⟨s, []⟩ world) :
    RefundedOnce world.state ∧
      ∀ later, Reached (contract env) world later → Preserves world.state later.state := by
  have fromDeployment : LedgerSteps s world.state :=
    (contract_refines env).reached reached
  have balanced : Balanced PaymentTerms.refund s.ledger := by
    rw [ledger_constructor deployed]
    exact balanced_empty
  refine ⟨refundedOnce_of_balanced (fromDeployment.balanced balanced), ?_⟩
  intro later reachedLater
  exact preserves_of_steps ((contract_refines env).reached reachedLater)

section Sample

def sampleOracle : Address := 0x7e5f4552091a69125d5dfcb7b8c2659029395bdf

def paymentSignature : WordBytes.Bytes :=
  signatureBytes 0xf973a0b87062c389d125d8199e803b832b6ac6bf7867a4f6cd87506060fc4c58
    0x65232a1adff6ea3889a7c03db1306b995b1e10e857fcc5858fc851ac0916b746 28

def otherPaymentSignature : WordBytes.Bytes :=
  signatureBytes 0x699c0a41ac4a694529cea966432d787fe1be1935a4708fe1164d26898b10a8c1
    0x080ba18eb3bafbc6d2821bbf291a2cec1c241b8bf143c7a462b29080ad32f6a6 28

def refundSignature : WordBytes.Bytes :=
  signatureBytes 0x0fd109be4a9e07d64737926c7e2d8d7afa63ec5991d126b8abe7919d3c62a7be
    0x00f8f262421d95c683154e67192bc727927df57ac22d5d9a1a2661c599563781 28

/-- Chain 10, with the hashes and signatures that two payments and a refund of the first
need. -/
def sampleEnvironment : Environment :=
  .ofTables
    [(adminRoleName, 0xa49807205ce4d355092ef5a8a18f56e8913cf4a201fbe287825b095693c21775),
      (WordBytes.ofWords ([7, 0xc0ffee, 0x5e, 10, 1000] : List U256),
        0x42b242c2a8d8cd9aa8be8efbea7fbbed988a2c7ad200258a39567c458dfadde8),
      (Environment.ethSignedMessage
          0x42b242c2a8d8cd9aa8be8efbea7fbbed988a2c7ad200258a39567c458dfadde8,
        0x549d3bbbe617b88223d2e12904a95059d0188665eef4d8fd1d7b8c9ea3821b06),
      (WordBytes.ofWords ([5, 0xbeef, 0x5e, 10, 900] : List U256),
        0xbcfcd936556fed0534abf058f966b4c1ec1eb76709d152f282545c938296d41e),
      (Environment.ethSignedMessage
          0xbcfcd936556fed0534abf058f966b4c1ec1eb76709d152f282545c938296d41e,
        0x66239847d0d4cb59f9c32a11e5d4d0f24405453e82e91c68e35f5ccf440f3762),
      (WordBytes.ofWords ([0xc0ffee, 10, 1000] : List U256),
        0xcb847998b7044c2b9a61ae35298c68807178a505f8b027d80b48103adfb2b2c6),
      (Environment.ethSignedMessage
          0xcb847998b7044c2b9a61ae35298c68807178a505f8b027d80b48103adfb2b2c6,
        0xb882074fe8a30661d6bec118d59494061ceea2489d98728e63e050c82fb832b2)]
    [((0x549d3bbbe617b88223d2e12904a95059d0188665eef4d8fd1d7b8c9ea3821b06,
        paymentSignature), sampleOracle),
      ((0x66239847d0d4cb59f9c32a11e5d4d0f24405453e82e91c68e35f5ccf440f3762,
        otherPaymentSignature), sampleOracle),
      ((0xb882074fe8a30661d6bec118d59494061ceea2489d98728e63e050c82fb832b2,
        refundSignature), sampleOracle)]
    10

def samplePayment : Message :=
  ⟨0xba, 7, 1000, .pay 0xc0ffee 0x5e 1000 paymentSignature⟩

def sampleRefund : Message :=
  ⟨0xba, 0, 1000, .refund 0xc0ffee 1000 refundSignature⟩

/-- A payment, and then a refund whose recipient asks for the refund again and
pays for the commitment again while it has control. -/
def sampleTransactions : List (Script Message) :=
  [.call samplePayment .done .done,
    .call sampleRefund
      (.call sampleRefund .done (.call samplePayment .done .done)) .done]

def sampleDeployed : State :=
  let owner : Address := 0xad
  grantRole_ owner (ADMIN_ROLE sampleEnvironment) owner
    (grantRole_ owner DEFAULT_ADMIN_ROLE owner
      ⟨fun _ => .unset, sampleOracle, fun _ _ => false, 0, [], []⟩)

def sampleWorld : World Message State :=
  run (contract sampleEnvironment) sampleTransactions ⟨sampleDeployed, []⟩

example : sampleWorld.state.refundsSent 0xc0ffee = [(0xba, 7)] := by
  decide +kernel

theorem constructor_sample :
    constructor sampleEnvironment 0xad sampleOracle 0 = .ok sampleDeployed := rfl

theorem sampleWorld_refundedOnce :
    RefundedOnce sampleWorld.state ∧
      ∀ later, Reached (contract sampleEnvironment) sampleWorld later →
        Preserves sampleWorld.state later.state :=
  refunded_at_most_once constructor_sample ⟨sampleTransactions, .done, .here .done _⟩

end Sample

end HumanIDPayments

end IdHub
