import IdHub.HumanIDPaymentsBatch
import Mathlib.Algebra.BigOperators.Fin
import Mathlib.Algebra.Order.BigOperators.Group.Finset

/-!
# The payment contract conserves ETH

What the contract holds, withdrew and refunded is what payments, deposits and
forced ETH brought in.  Each segment of the contract's code keeps the equation, so
it holds in every world, however the recipients of transfers re-enter.
-/

namespace IdHub

namespace HumanIDPayments

open Guards Reentrancy

section Sums

variable {Key Record : Type*} [Fintype Key] [DecidableEq Key]

/-- Replacing one record replaces its weight in the sum. -/
theorem sum_update (weight : Record → ℕ) (records : Key → Record) (key : Key)
    (record : Record) :
    ∑ k, weight (Function.update records key record k) + weight (records key) =
      ∑ k, weight (records k) + weight record := by
  have old := Finset.add_sum_erase Finset.univ (fun k => weight (records k))
    (Finset.mem_univ key)
  have new := Finset.add_sum_erase Finset.univ
    (fun k => weight (Function.update records key record k)) (Finset.mem_univ key)
  have others : ∑ k ∈ Finset.univ.erase key, weight (Function.update records key record k) =
      ∑ k ∈ Finset.univ.erase key, weight (records k) := by
    apply Finset.sum_congr rfl
    intro k member
    rw [Function.update_of_ne (Finset.ne_of_mem_erase member)]
  simp only [Function.update_self] at new
  omega

end Sums

/-- There are finitely many commitments.  Nothing enumerates them. -/
noncomputable local instance : Fintype Bytes32 :=
  @Fintype.ofFinite Bytes32 (Finite.of_injective BitVec.toFin BitVec.toFin_injective)

namespace Payment

def refundedAmount (payment : Payment) : ℕ :=
  if payment.refunded then payment.amount.toNat else 0

def unrefundedAmount (payment : Payment) : ℕ :=
  if payment.refunded then 0 else payment.amount.toNat

theorem refunded_add_unrefunded (payment : Payment) :
    payment.refundedAmount + payment.unrefundedAmount = payment.amount.toNat := by
  cases refunded : payment.refunded with
  | false => simp [refundedAmount, unrefundedAmount, refunded]
  | true => simp [refundedAmount, unrefundedAmount, refunded]

end Payment

/-- The amount of a transfer made by `withdraw`, `withdrawTo` or `withdrawAll`. -/
def Transfer.withdrawn (transfer : Transfer) : Option ℕ :=
  match transfer.purpose with
  | .withdraw => some transfer.amount
  | .withdrawTo => some transfer.amount
  | .withdrawAll => some transfer.amount
  | _ => none

namespace State

/-- The sum of `payments[c].amount` over all commitments. -/
noncomputable def paid (s : State) : ℕ :=
  ∑ commitment, (s.payments commitment).amount.toNat

noncomputable def refunded (s : State) : ℕ :=
  ∑ commitment, (s.payments commitment).refundedAmount

noncomputable def unrefunded (s : State) : ℕ :=
  ∑ commitment, (s.payments commitment).unrefundedAmount

def withdrawals (s : State) : List ℕ :=
  s.transfers.filterMap Transfer.withdrawn

/-- What the contract holds and what left it. -/
noncomputable def assets (s : State) : ℕ :=
  s.balance + s.withdrawals.sum + s.refunded

end State

namespace Message

/-- The ETH that a call brings in through `deposit` and `receive`. -/
def received (m : Message) : ℕ :=
  match m.entrypoint with
  | .deposit => m.value.toNat
  | .receive => m.value.toNat
  | _ => 0

/-- The ETH forced in without a call. -/
def forced (m : Message) : ℕ :=
  match m.entrypoint with
  | .forcedEther => m.value.toNat
  | _ => 0

def inflow (m : Message) : ℕ :=
  m.received + m.forced

end Message

variable {env : Environment} {m : Message} {s t : State} {phase : Phase Error State}

theorem paid_eq (s : State) : s.paid = s.refunded + s.unrefunded := by
  rw [State.refunded, State.unrefunded, ← Finset.sum_add_distrib]
  exact Finset.sum_congr rfl fun _ _ => (Payment.refunded_add_unrefunded _).symm

/-- A segment that brings in `inflow` besides what it records as paid. -/
def Conserves (inflow : ℕ) (s t : State) : Prop :=
  t.assets + s.paid = s.assets + t.paid + inflow

theorem Conserves.trans {first second : ℕ} {middle : State}
    (before : Conserves first s middle) (after : Conserves second middle t) :
    Conserves (first + second) s t := by
  unfold Conserves at *
  omega

/-- A segment that leaves the balance, the records and the transfers alone. -/
theorem Conserves.of_eq (balance : t.balance = s.balance)
    (payments : t.payments = s.payments) (transfers : t.transfers = s.transfers) :
    Conserves 0 s t := by
  simp only [Conserves, State.assets, State.paid, State.refunded, State.withdrawals,
    balance, payments, transfers, Nat.add_zero]

section Updates

variable (s)

theorem conserves_refl : Conserves 0 s s := .of_eq rfl rfl rfl

theorem conserves_credit (value : U256) : Conserves value.toNat s (s.credit value) := by
  simp only [Conserves, State.credit, State.assets, State.paid, State.refunded,
    State.withdrawals]
  omega

theorem conserves_emit (event : Event) : Conserves 0 s (s.emit event) :=
  .of_eq rfl rfl rfl

theorem conserves_setRole (role : Bytes32) (account : Address) (held : Bool) :
    Conserves 0 s (s.setRole role account held) :=
  .of_eq rfl rfl rfl

theorem conserves_grantRole_ (sender : Address) (role : Bytes32) (account : Address) :
    Conserves 0 s (grantRole_ sender role account s) := by
  unfold grantRole_
  split
  · exact conserves_refl s
  · exact (conserves_setRole s role account true).trans (conserves_emit _ _)

theorem conserves_revokeRole_ (sender : Address) (role : Bytes32) (account : Address) :
    Conserves 0 s (revokeRole_ sender role account s) := by
  unfold revokeRole_
  split
  · exact (conserves_setRole s role account false).trans (conserves_emit _ _)
  · exact conserves_refl s

@[simp] theorem paid_emit (event : Event) : (s.emit event).paid = s.paid := rfl

@[simp] theorem assets_emit (event : Event) : (s.emit event).assets = s.assets := rfl

theorem paid_store (payment : Payment) :
    (s.store payment).paid + (s.payments payment.commitment).amount.toNat =
      s.paid + payment.amount.toNat :=
  sum_update (fun record => record.amount.toNat) s.payments payment.commitment payment

theorem refunded_store (payment : Payment) :
    (s.store payment).refunded + (s.payments payment.commitment).refundedAmount =
      s.refunded + payment.refundedAmount :=
  sum_update Payment.refundedAmount s.payments payment.commitment payment

theorem paid_markRefunded (commitment : Bytes32) :
    (s.markRefunded commitment).paid = s.paid := by
  have replaced : (s.markRefunded commitment).paid +
      (s.payments commitment).amount.toNat =
        s.paid + (s.payments commitment).amount.toNat :=
    sum_update (fun record => record.amount.toNat) s.payments commitment _
  omega

theorem refunded_markRefunded {commitment : Bytes32}
    (unrefunded : (s.payments commitment).refunded = false) :
    (s.markRefunded commitment).refunded =
      s.refunded + (s.payments commitment).amount.toNat := by
  have replaced : (s.markRefunded commitment).refunded +
      (s.payments commitment).refundedAmount =
        s.refunded + Payment.refundedAmount { s.payments commitment with refunded := true } :=
    sum_update Payment.refundedAmount s.payments commitment _
  have before : (s.payments commitment).refundedAmount = 0 := by
    simp [Payment.refundedAmount, unrefunded]
  rw [before] at replaced
  exact replaced

end Updates

/-- A processed payment is recorded in full, and nothing is received for it. -/
theorem processPayment_paid {commitment service : Bytes32} {amount timestamp : U256}
    {signature : WordBytes.Bytes}
    (processed : processPayment env m commitment service amount timestamp signature s =
      .ok t) : t.assets = s.assets ∧ t.paid = s.paid + amount.toNat := by
  obtain ⟨-, unset, rfl⟩ := processPayment_ok processed
  set payment : Payment := ⟨commitment, service, m.timestamp, m.sender, amount, false⟩
  have paid : (s.store payment).paid + (s.payments payment.commitment).amount.toNat =
      s.paid + amount.toNat := paid_store s payment
  have refunded := refunded_store s payment
  have fresh : (s.payments payment.commitment).refundedAmount = 0 := by
    rw [Payment.refundedAmount, unset]
    simp
  have unrefunded : payment.refundedAmount = 0 := rfl
  have noAmount : (s.payments payment.commitment).amount.toNat = 0 := by rw [unset]; rfl
  rw [paid_emit, assets_emit]
  constructor
  · have refundedEq : (s.store payment).refunded = s.refunded := by omega
    rw [State.assets, refundedEq]
    rfl
  · omega

theorem processPayments_paid {commitments services : List Bytes32}
    {amounts timestamps : List U256} {signatures : List WordBytes.Bytes}
    (lengths : services.length = commitments.length ∧ amounts.length = commitments.length ∧
      timestamps.length = commitments.length ∧ signatures.length = commitments.length)
    (processed : processPayments env m commitments services amounts timestamps
      signatures s = .ok t) :
    t.assets = s.assets ∧ t.paid = s.paid + (amounts.map BitVec.toNat).sum := by
  induction commitments, services, amounts, timestamps, signatures, s using
    processPayments.induct with
  | case1 commitment commitments service services amount amounts timestamp
      timestamps signature signatures s ih =>
      simp only [processPayments, bind_eq_ok] at processed
      obtain ⟨middle, first, rest⟩ := processed
      obtain ⟨assets, paid⟩ := processPayment_paid first
      obtain ⟨assets', paid'⟩ := ih middle (by simpa using lengths) rest
      simp only [List.map_cons, List.sum_cons]
      exact ⟨assets'.trans assets, by omega⟩
  | case2 commitments services amounts timestamps signatures s exhausted =>
      rw [processPayments] at processed
      · simp only [Except.ok.injEq] at processed
        subst processed
        have none : amounts = [] := by
          cases commitments with
          | nil => exact List.eq_nil_of_length_eq_zero lengths.2.1
          | cons commitment commitments =>
              obtain ⟨service, services, rfl⟩ := List.exists_of_length_succ _ lengths.1
              obtain ⟨amount, amounts, rfl⟩ := List.exists_of_length_succ _ lengths.2.1
              obtain ⟨timestamp, timestamps, rfl⟩ :=
                List.exists_of_length_succ _ lengths.2.2.1
              obtain ⟨signature, signatures, rfl⟩ :=
                List.exists_of_length_succ _ lengths.2.2.2
              exact (exhausted _ _ _ _ _ _ _ _ _ _ rfl rfl rfl rfl rfl).elim
        simp [none]
      · exact exhausted

/-- A call up to its end or its transfer, and what it does when the recipient
returns. -/
inductive Accounted (inflow : ℕ) (s : State) : Phase Error State → Prop
  | ends {t : State} (conserves : Conserves inflow s t) : Accounted inflow s (.done t)
  | sends {sent : State} {afterwards : State → State} (conserves : Conserves inflow s sent)
      (keeps : ∀ returned, Conserves 0 returned (afterwards returned)) :
      Accounted inflow s
        (.external sent .transferFailed fun returned => .ok (afterwards returned))

/-- Sending an amount that is recorded as withdrawn or refunded. -/
theorem Conserves.of_sent {sent : State} {amount : ℕ} (covered : amount ≤ s.balance)
    (balance : sent.balance = s.balance - amount) (paid : sent.paid = s.paid)
    (recorded : sent.withdrawals.sum + sent.refunded =
      s.withdrawals.sum + s.refunded + amount) : Conserves 0 s sent := by
  unfold Conserves State.assets
  omega

theorem refundPayment_accounted {commitment : Bytes32} {purpose : Purpose}
    {issued : Bytes32 → Address → U256 → Event}
    (refundable : checkRefundable commitment s = .ok ())
    (refunds : ∀ recipient amount, (Transfer.mk purpose recipient amount).withdrawn = none)
    (called : refundPayment purpose issued commitment s = .ok phase) :
    Accounted 0 s phase := by
  simp only [checkRefundable, bind_eq_ok, revertIf_eq_ok, Bool.not_eq_true] at refundable
  obtain ⟨-, -, unrefunded⟩ := refundable
  simp only [refundPayment, sendValue, bind_eq_ok, pure_eq_ok, require_eq_ok] at called
  obtain ⟨-, covered, rfl⟩ := called
  refine .sends ?_ (fun returned => conserves_emit returned _)
  have balance : (s.payments commitment).amount.toNat ≤ s.balance := covered
  apply Conserves.of_sent balance rfl
  · exact paid_markRefunded s commitment
  · have refunded := refunded_markRefunded s unrefunded
    have withdrawals : (s.transfers ++ [Transfer.mk purpose (s.payments commitment).sender
        (s.payments commitment).amount.toNat]).filterMap Transfer.withdrawn =
          s.transfers.filterMap Transfer.withdrawn := by
      simp [List.filterMap_append, refunds]
    calc
      _ = s.withdrawals.sum + (s.markRefunded commitment).refunded :=
        congrArg (fun amounts => amounts.sum + _) withdrawals
      _ = _ := by rw [refunded, Nat.add_assoc]

theorem withdrawal_accounted {purpose : Purpose} {recipient : Address} {amount : ℕ}
    {event : Event}
    (withdraws : (Transfer.mk purpose recipient amount).withdrawn = some amount)
    (called : sendValue purpose recipient amount (fun returned => returned.emit event) s =
      .ok phase) : Accounted 0 s phase := by
  simp only [sendValue, bind_eq_ok, pure_eq_ok, require_eq_ok] at called
  obtain ⟨-, covered, rfl⟩ := called
  refine .sends ?_ (fun returned => conserves_emit returned _)
  apply Conserves.of_sent covered rfl
  · rfl
  · have withdrawals :
        ((s.transfers ++ [Transfer.mk purpose recipient amount]).filterMap
          Transfer.withdrawn).sum = s.withdrawals.sum + amount := by
      simp [State.withdrawals, List.filterMap_append, withdraws]
    calc
      _ = s.withdrawals.sum + amount + s.refunded :=
        congrArg (fun total => total + s.refunded) withdrawals
      _ = _ := by omega

theorem contract_accounted (called : contract env m s = .ok phase) :
    Accounted m.inflow s phase := by
  unfold Message.inflow Message.received Message.forced
  have credited := conserves_credit s m.value
  cases contract_started called with
  | pay entry processed =>
      simp only [entry]
      obtain ⟨assets, paid⟩ := processPayment_paid processed
      apply Accounted.ends
      unfold Conserves at *
      omega
  | batchPay entry lengths summed processed =>
      simp only [entry]
      obtain ⟨assets, paid⟩ := processPayments_paid lengths processed
      have received := sumAmounts_eq_ok.mp summed
      have zero : (0 : U256).toNat = 0 := rfl
      apply Accounted.ends
      unfold Conserves at *
      omega
  | refund entry refundable _ refunded =>
      simp only [entry]
      exact refundPayment_accounted refundable (fun _ _ => rfl) refunded
  | forceRefund entry refundable refunded =>
      simp only [entry]
      exact refundPayment_accounted refundable (fun _ _ => rfl) refunded
  | withdraw entry sent =>
      simp only [entry]
      exact withdrawal_accounted rfl sent
  | withdrawTo entry sent =>
      simp only [entry]
      exact withdrawal_accounted rfl sent
  | withdrawAll entry sent =>
      simp only [entry]
      exact withdrawal_accounted rfl sent
  | deposit entry =>
      simp only [entry]
      exact .ends (credited.trans (conserves_emit _ _))
  | receive entry =>
      simp only [entry]
      exact .ends (credited.trans (conserves_emit _ _))
  | setOracleAddress entry =>
      simp only [entry]
      exact .ends (.of_eq rfl rfl rfl)
  | grantRole entry =>
      simp only [entry]
      exact .ends (conserves_grantRole_ s _ _ _)
  | revokeRole entry =>
      simp only [entry]
      exact .ends (conserves_revokeRole_ s _ _ _)
  | renounceRole entry =>
      simp only [entry]
      exact .ends (conserves_revokeRole_ s _ _ _)
  | forcedEther entry =>
      simp only [entry]
      exact .ends ((conserves_refl s).trans credited)

theorem contract_conserves (env : Environment) :
    Guarantee (contract env) (fun world after => ∃ later,
      after.history = world.history ++ later ∧
        after.state.assets + world.state.paid =
          world.state.assets + after.state.paid + (later.map Message.inflow).sum) := by
  apply conservation State.assets State.paid Message.inflow
  · intro call state phase called
    cases contract_accounted called with
    | ends conserves => exact conserves
    | sends conserves _ => exact conserves
  · intro call state middle onFail resume returned final called resumed
    cases contract_accounted called with
    | sends _ keeps =>
        simp only [Except.ok.injEq] at resumed
        rw [← resumed]
        exact keeps returned

theorem sum_inflow (history : List Message) :
    (history.map Message.inflow).sum =
      (history.map Message.received).sum + (history.map Message.forced).sum :=
  List.sum_map_add

theorem assets_constructor {deployer oracleAddress : Address} {balance : ℕ}
    (deployed : constructor env deployer oracleAddress balance = .ok s) :
    s.assets = balance + s.paid := by
  simp only [constructor, bind_eq_ok, pure_eq_ok] at deployed
  obtain ⟨-, -, rfl⟩ := deployed
  let fresh : State := ⟨fun _ => .unset, oracleAddress, fun _ _ => false, balance, [], []⟩
  have assets : fresh.assets = balance := by
    simp [fresh, State.assets, State.withdrawals, State.refunded, Payment.unset,
      Payment.refundedAmount]
  have paid : fresh.paid = 0 := by simp [fresh, State.paid, Payment.unset]
  have granted := (conserves_grantRole_ fresh deployer DEFAULT_ADMIN_ROLE deployer).trans
    (conserves_grantRole_ _ deployer (ADMIN_ROLE env) deployer)
  unfold Conserves at granted
  rw [assets, paid] at granted
  exact granted

/-- In every world that a run from the deployment reaches, also inside a
transaction, what the contract holds, withdrew and refunded is what it was paid and
received, with the ETH that it was deployed with or that was forced in.  Without
withdrawals it covers every payment that was not refunded. -/
theorem eth_conserved {deployer oracleAddress : Address} {balance : ℕ}
    (deployed : constructor env deployer oracleAddress balance = .ok s)
    {world : World Message State} (reached : Reached (contract env) ⟨s, []⟩ world) :
    world.state.balance + world.state.withdrawals.sum + world.state.refunded =
        world.state.paid + (world.history.map Message.received).sum +
          (balance + (world.history.map Message.forced).sum) ∧
      (world.state.withdrawals = [] → world.state.unrefunded ≤ world.state.balance) := by
  obtain ⟨later, history, conserved⟩ := (contract_conserves env).reached reached
  have start := assets_constructor deployed
  rw [List.nil_append] at history
  subst history
  rw [sum_inflow] at conserved
  simp only [State.assets] at start conserved
  refine ⟨by omega, fun none => ?_⟩
  have split := paid_eq world.state
  rw [none, List.sum_nil] at conserved
  omega

section Sample

theorem sampleWorld_conserved :
    sampleWorld.state.balance + sampleWorld.state.withdrawals.sum +
          sampleWorld.state.refunded =
        sampleWorld.state.paid + (sampleWorld.history.map Message.received).sum +
          (0 + (sampleWorld.history.map Message.forced).sum) ∧
      (sampleWorld.state.withdrawals = [] →
        sampleWorld.state.unrefunded ≤ sampleWorld.state.balance) :=
  eth_conserved constructor_sample ⟨sampleTransactions, .done, .here .done _⟩

end Sample

end HumanIDPayments

end IdHub
