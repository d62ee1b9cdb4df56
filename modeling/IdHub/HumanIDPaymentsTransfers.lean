import IdHub.HumanIDPaymentsProvenance

/-!
# Who makes the payment contract send ETH

The contract sends ETH for two reasons.  Whoever presents a fresh refund signature of the
oracle makes it return a payment, in full and to its payer; and admins make it return
payments in the same way, or withdraw.  So accounts that grant roles only among themselves
share the contract's ETH with nobody but the payers whom the oracle has refunds for.
-/

namespace IdHub

namespace HumanIDPayments

open Authority CallTraces Guards Reentrancy

/-- The transfer that returns a payment. -/
def Payment.returnedBy (payment : Payment) (purpose : Purpose) : Transfer :=
  ⟨purpose, payment.sender, payment.amount.toNat⟩

/-- The call presents a refund signature of the oracle, not older than ten minutes, and the
transfer returns that payment. -/
def RefundsSigned (env : Environment) (oracle : Address) (payments : Payments) (m : Message)
    (transfer : Transfer) : Prop :=
  ∃ commitment signedAt signature, m.entrypoint = .refund commitment signedAt signature ∧
    env.recover ((Request.refund commitment signedAt).digest env) signature = .ok oracle ∧
    Timely m.timestamp signedAt (10 * 60) ∧ (payments commitment).amount ≠ 0 ∧
    transfer = (payments commitment).returnedBy (.refund commitment)

/-- What a call of an admin sends. -/
inductive SendsAsAdmin (payments : Payments) (m : Message) : Transfer → Prop
  | forceRefund {commitment : Bytes32} (entry : m.entrypoint = .forceRefund commitment)
      (set : (payments commitment).amount ≠ 0) :
      SendsAsAdmin payments m ((payments commitment).returnedBy (.forceRefund commitment))
  | withdraw {amount : U256} (entry : m.entrypoint = .withdraw amount) :
      SendsAsAdmin payments m ⟨.withdraw, m.sender, amount.toNat⟩
  | withdrawTo {amount : U256} {recipient : Address}
      (entry : m.entrypoint = .withdrawTo amount recipient) :
      SendsAsAdmin payments m ⟨.withdrawTo, recipient, amount.toNat⟩
  | withdrawAll {balance : ℕ} (entry : m.entrypoint = .withdrawAll) :
      SendsAsAdmin payments m ⟨.withdrawAll, m.sender, balance⟩

/-- Why a call sends a transfer, by the oracle and the roles of its time. -/
def Sends (env : Environment) (governance : Governance) (payments : Payments) (m : Message)
    (transfer : Transfer) : Prop :=
  RefundsSigned env governance.oracleAddress payments m transfer ∨
    (governance.Holds (ADMIN_ROLE env) m.sender ∧ SendsAsAdmin payments m transfer)

/-- What the calls did to the records, the governance and the ETH. -/
structure Cashbook where
  books : Books
  transfers : List Transfer

def State.cashbook (s : State) : Cashbook := ⟨s.books, s.transfers⟩

/-- A call sends what its reason allows. -/
structure Justified (env : Environment) (m : Message) (before after : Cashbook) : Prop where
  booked : Booked env m before.books after.books
  sends : ∃ new, after.transfers = before.transfers ++ new ∧
    ∀ transfer ∈ new, Sends env before.books.governance before.books.payments m transfer

variable {env : Environment} {m : Message} {s t : State} {phase : Phase Error State}

section Frames

theorem sendValue_transfers {purpose : Purpose} {recipient : Address} {amount : ℕ}
    {afterwards : State → State}
    (called : sendValue purpose recipient amount afterwards s = .ok phase) :
    phase.state.transfers = s.transfers ++ [⟨purpose, recipient, amount⟩] := by
  simp only [sendValue, bind_eq_ok, pure_eq_ok] at called
  obtain ⟨-, -, rfl⟩ := called
  rfl

theorem refundPayment_transfers {purpose : Purpose} {commitment : Bytes32}
    {issued : Bytes32 → Address → U256 → Event}
    (called : refundPayment purpose issued commitment s = .ok phase) :
    phase.state.transfers =
      s.transfers ++ [(s.payments commitment).returnedBy purpose] := by
  unfold refundPayment at called
  exact (sendValue_transfers called).trans rfl

theorem transfers_processPayments {commitments services : List Bytes32}
    {amounts timestamps : List U256} {signatures : List WordBytes.Bytes}
    (processed : processPayments env m commitments services amounts timestamps signatures s =
      .ok t) : t.transfers = s.transfers := by
  induction commitments, services, amounts, timestamps, signatures, s using
    processPayments.induct with
  | case1 commitment commitments service services amount amounts timestamp
      timestamps signature signatures s ih =>
      simp only [processPayments, bind_eq_ok] at processed
      obtain ⟨middle, first, rest⟩ := processed
      obtain ⟨-, -, rfl⟩ := processPayment_ok first
      exact (ih _ rest).trans rfl
  | case2 commitments services amounts timestamps signatures s exhausted =>
      rw [processPayments] at processed
      · simp only [Except.ok.injEq] at processed
        rw [processed]
      · exact exhausted

theorem transfers_grantRole_ (sender : Address) (role : Bytes32) (account : Address) :
    (grantRole_ sender role account s).transfers = s.transfers := by
  unfold grantRole_
  split <;> rfl

theorem transfers_revokeRole_ (sender : Address) (role : Bytes32) (account : Address) :
    (revokeRole_ sender role account s).transfers = s.transfers := by
  unfold revokeRole_
  split <;> rfl

theorem transfers_constructor {deployer oracleAddress : Address} {balance : ℕ}
    (deployed : constructor env deployer oracleAddress balance = .ok s) : s.transfers = [] := by
  simp only [constructor, bind_eq_ok, pure_eq_ok] at deployed
  obtain ⟨-, -, rfl⟩ := deployed
  rw [transfers_grantRole_, transfers_grantRole_]

end Frames

theorem contract_sends (called : contract env m s = .ok phase) :
    ∃ new, phase.state.transfers = s.transfers ++ new ∧
      ∀ transfer ∈ new, Sends env s.governance s.payments m transfer := by
  have none (unchanged : phase.state.transfers = s.transfers) :
      ∃ new, phase.state.transfers = s.transfers ++ new ∧
        ∀ transfer ∈ new, Sends env s.governance s.payments m transfer :=
    ⟨[], by simpa using unchanged, by simp⟩
  have one {transfer : Transfer} (appended : phase.state.transfers = s.transfers ++ [transfer])
      (sends : Sends env s.governance s.payments m transfer) :
      ∃ new, phase.state.transfers = s.transfers ++ new ∧
        ∀ transfer ∈ new, Sends env s.governance s.payments m transfer :=
    ⟨[transfer], appended, by simpa using sends⟩
  have admin (reserved : m.entrypoint.reserved env = some (ADMIN_ROLE env)) :
      s.governance.Holds (ADMIN_ROLE env) m.sender := contract_authorized called reserved
  have signed := contract_recovers called
  cases contract_started called with
  | pay _ processed =>
      obtain ⟨-, -, rfl⟩ := processPayment_ok processed
      exact none rfl
  | batchPay _ _ _ processed => exact none ((transfers_processPayments processed).trans rfl)
  | @refund commitment timestamp signature phase entry refundable _ refunded =>
      have timely : Timely m.timestamp timestamp (10 * 60) := by
        rw [contract, entry] at called
        exact refund_timely called
      have byOracle := signed (signature, .refund commitment timestamp)
        (by simp [Message.signed, entry])
      exact one (refundPayment_transfers refunded) (.inl ⟨commitment, timestamp, signature, entry,
        byOracle, timely, set_of_checkRefundable refundable, rfl⟩)
  | forceRefund entry refundable refunded =>
      exact one (refundPayment_transfers refunded) (.inr ⟨admin (by rw [entry]; rfl),
        .forceRefund entry (set_of_checkRefundable refundable)⟩)
  | withdraw entry sent =>
      exact one (sendValue_transfers sent) (.inr ⟨admin (by rw [entry]; rfl), .withdraw entry⟩)
  | withdrawTo entry sent =>
      exact one (sendValue_transfers sent) (.inr ⟨admin (by rw [entry]; rfl), .withdrawTo entry⟩)
  | withdrawAll entry sent =>
      exact one (sendValue_transfers sent) (.inr ⟨admin (by rw [entry]; rfl), .withdrawAll entry⟩)
  | deposit _ => exact none rfl
  | receive _ => exact none rfl
  | setOracleAddress _ => exact none rfl
  | grantRole _ => exact none (transfers_grantRole_ _ _ _)
  | revokeRole _ => exact none (transfers_revokeRole_ _ _ _)
  | renounceRole _ => exact none (transfers_revokeRole_ _ _ _)
  | forcedEther _ => exact none rfl

theorem contract_justified (env : Environment) :
    Guarantee (contract env) (fun world after => ∃ later,
      after.history = world.history ++ later ∧
        Trace (Justified env) world.state.cashbook later after.state.cashbook) := by
  apply linearization State.cashbook
  · intro call state phase called
    exact ⟨⟨contract_governed called, contract_recovers called, contract_keeps called⟩,
      contract_sends called⟩
  · intro call state middle onFail resume returned final called resumed
    obtain ⟨event, rfl⟩ := contract_resume_emits called resumed
    rfl

variable {initial governance : Governance} {calls : List Message} {before after : Payments}
  {transfer : Transfer}

/-- No call changes what a record states. -/
theorem Keeps.terms (keeps : Keeps env m governance before after) {commitment : Bytes32}
    (set : (before commitment).amount ≠ 0) :
    (after commitment).terms = (before commitment).terms := by
  cases keeps with
  | enters enters _ => rw [enters.kept commitment set]
  | refunds _ _ _ _ => exact terms_mark before _ commitment

theorem Payment.returnedBy_of_terms {first second : Payment} (same : first.terms = second.terms)
    (purpose : Purpose) : first.returnedBy purpose = second.returnedBy purpose := by
  simp only [Payment.terms, PaymentTerms.mk.injEq] at same
  obtain ⟨-, -, -, sender, amount⟩ := same
  rw [Payment.returnedBy, Payment.returnedBy, sender, amount]

/-- A transfer stays justified by the records as they become. -/
theorem Sends.mono (terms : ∀ commitment, (before commitment).amount ≠ 0 →
      (after commitment).terms = (before commitment).terms)
    (sends : Sends env governance before m transfer) :
    Sends env governance after m transfer := by
  have stillSet : ∀ commitment, (before commitment).amount ≠ 0 →
      (after commitment).amount ≠ 0 := by
    intro commitment set
    have sameAmount := congrArg PaymentTerms.amount (terms commitment set)
    exact fun unset => set (sameAmount.symm.trans unset)
  rcases sends with ⟨commitment, signedAt, signature, entry, signed, timely, set, rfl⟩ |
    ⟨admin, asAdmin⟩
  · exact .inl ⟨commitment, signedAt, signature, entry, signed, timely, stillSet commitment set,
      (Payment.returnedBy_of_terms (terms commitment set) _).symm⟩
  · refine .inr ⟨admin, ?_⟩
    cases asAdmin with
    | @forceRefund commitment entry set =>
        rw [← Payment.returnedBy_of_terms (terms commitment set)]
        exact .forceRefund entry (stillSet commitment set)
    | withdraw entry => exact .withdraw entry
    | withdrawTo entry => exact .withdrawTo entry
    | withdrawAll entry => exact .withdrawAll entry

/-- Every transfer was sent by one of the calls, for one of the reasons. -/
structure TransfersSourced (env : Environment) (initial : Governance) (calls : List Message)
    (cashbook : Cashbook) : Prop where
  governed : cashbook.books.governance = governanceAfter initial calls
  sent : ∀ transfer ∈ cashbook.transfers,
    Happened (fun pre call => Sends env (governanceAfter initial pre) cashbook.books.payments
      call transfer) calls

theorem TransfersSourced.step {cashbook cashbook' : Cashbook}
    (sourced : TransfersSourced env initial calls cashbook)
    (justified : Justified env m cashbook cashbook') :
    TransfersSourced env initial (calls ++ [m]) cashbook' where
  governed := by
    rw [justified.booked.governed.effect, sourced.governed, governanceAfter, governanceAfter,
      List.foldl_append]
    rfl
  sent := by
    intro transfer member
    have terms : ∀ commitment, (cashbook.books.payments commitment).amount ≠ 0 →
        (cashbook'.books.payments commitment).terms =
          (cashbook.books.payments commitment).terms :=
      fun commitment set => justified.booked.keeps.terms set
    obtain ⟨new, appended, sends⟩ := justified.sends
    rw [appended] at member
    rcases List.mem_append.mp member with earlier | isNew
    · obtain ⟨pre, call, post, rfl, sent⟩ := sourced.sent transfer earlier
      exact ⟨pre, call, post ++ [m], by simp, sent.mono terms⟩
    · apply happened_last
      rw [← sourced.governed]
      exact (sends transfer isNew).mono terms

/-- Whatever the contract sent, it sent for a call that presented a fresh refund signature of
whoever was the oracle, to the payer of that payment and in full, or for a call of whoever
was an admin. -/
theorem transfers_sourced {deployer oracleAddress : Address} {balance : ℕ}
    (deployed : constructor env deployer oracleAddress balance = .ok s)
    {world : World Message State} (reached : Reached (contract env) ⟨s, []⟩ world) :
    ∀ transfer ∈ world.state.transfers,
      Happened (fun pre call => Sends env
        (governanceAfter (.founded env deployer oracleAddress) pre) world.state.payments call
        transfer) world.history := by
  obtain ⟨later, history, trace⟩ := (contract_justified env).reached reached
  have first : TransfersSourced env (.founded env deployer oracleAddress) [] s.cashbook := by
    refine ⟨(governance_constructor deployed).1, ?_⟩
    intro transfer member
    rw [State.cashbook, transfers_constructor deployed] at member
    cases member
  have run := trace.history_invariant
    (P := TransfersSourced env (.founded env deployer oracleAddress))
    (fun _ _ _ _ justified sourced => sourced.step justified) first
  rw [history]
  exact run.sent

theorem founder_of_holds {deployer oracleAddress account : Address} {role : Bytes32}
    (held : (Governance.founded env deployer oracleAddress).Holds role account) :
    account = deployer := by
  unfold Governance.founded at held
  rcases Governance.holds_of_setRole held with first | ⟨-, rfl, -⟩
  · rcases Governance.holds_of_setRole first with unset | ⟨-, rfl, -⟩
    · cases unset
    · rfl
  · rfl

theorem SendsAsAdmin.reserved (sends : SendsAsAdmin before m transfer) :
    m.entrypoint.reserved env = some (ADMIN_ROLE env) := by
  cases sends with
  | forceRefund entry _ => rw [entry]; rfl
  | withdraw entry => rw [entry]; rfl
  | withdrawTo entry => rw [entry]; rfl
  | withdrawAll entry => rw [entry]; rfl

/-- Accounts that include the deployer and grant roles only among themselves hold all the
roles and make all the calls that are reserved to a role.  Every transfer is one that such an
account made as an admin, or returns a payment to its payer on a fresh refund signature of the
oracle of the time. -/
theorem authority_confined {deployer oracleAddress : Address} {balance : ℕ}
    (deployed : constructor env deployer oracleAddress balance = .ok s)
    {world : World Message State} (reached : Reached (contract env) ⟨s, []⟩ world)
    {Trusted : Address → Prop} (founder : Trusted deployer)
    (closed : ∀ call ∈ world.history, ∀ role account, call.grant? = some (role, account) →
      Trusted call.sender → Trusted account) :
    (∀ role account, world.state.hasRole role account = true → Trusted account) ∧
      (∀ call ∈ world.history, call.entrypoint.reserved env ≠ none → Trusted call.sender) ∧
      ∀ transfer ∈ world.state.transfers, Happened (fun pre call =>
        RefundsSigned env
            (governanceAfter (.founded env deployer oracleAddress) pre).oracleAddress
            world.state.payments call transfer ∨
          (Trusted call.sender ∧ SendsAsAdmin world.state.payments call transfer))
        world.history := by
  have trace := trace_of_deployment deployed reached
  have lawful : Trace (Lawful (regime env))
      (Governance.founded env deployer oracleAddress).Holds world.history
      world.state.governance.Holds :=
    trace.map Governance.Holds fun _ _ _ governed => governed.lawful
  obtain ⟨holders, callers⟩ := line_of_trace lawful
  have trusted : ∀ account, Line (regime env)
      (fun account => ∃ role, (Governance.founded env deployer oracleAddress).Holds role account)
      world.history account → Trusted account := by
    intro account line
    apply line.confined
    · rintro account ⟨role, held⟩
      exact founder_of_holds held ▸ founder
    · intro call member role account appointer appoints
      exact closed call member role account appoints appointer
  have reservedCalls : ∀ call ∈ world.history, call.entrypoint.reserved env ≠ none →
      Trusted call.sender := by
    intro call member reserved
    exact trusted _ (callers call member (Option.isSome_iff_ne_none.mpr reserved))
  refine ⟨fun role account held => trusted _ (holders role account held), reservedCalls, ?_⟩
  intro transfer member
  obtain ⟨pre, call, post, history, sends⟩ := transfers_sourced deployed reached transfer member
  refine ⟨pre, call, post, history, sends.imp_right ?_⟩
  rintro ⟨-, asAdmin⟩
  refine ⟨reservedCalls call ?_ ?_, asAdmin⟩
  · rw [history]
    exact List.mem_append_right _ List.mem_cons_self
  · rw [asAdmin.reserved]
    exact Option.some_ne_none _

section Sample

/-- The deployer makes `0xbb` admin.  Two payments are made; the payer of the first has it
refunded on the oracle's signature, and tries again while it has control, the admin refunds
the second, and withdraws from a deposit. -/
def settlement : List (Script Message) :=
  [.call ⟨0xad, 0, 1000, .grantRole (ADMIN_ROLE sampleEnvironment) 0xbb⟩ .done .done,
    .call samplePayment .done .done,
    .call ⟨0xba, 5, 1000, .pay 0xbeef 0x5e 900 otherPaymentSignature⟩ .done .done,
    .call sampleRefund (.call sampleRefund .done .done) .done,
    .call ⟨0xbb, 0, 1000, .forceRefund 0xbeef⟩ .done .done,
    .call ⟨0xba, 5, 1000, .deposit⟩ .done .done,
    .call ⟨0xbb, 0, 1000, .withdraw 3⟩ .done .done]

def settlementWorld : World Message State :=
  run (contract sampleEnvironment) settlement ⟨sampleDeployed, []⟩

example : settlementWorld.state.transfers =
    [⟨.refund 0xc0ffee, 0xba, 7⟩, ⟨.forceRefund 0xbeef, 0xba, 5⟩, ⟨.withdraw, 0xbb, 3⟩] := by
  decide +kernel

theorem reached_settlementWorld :
    Reached (contract sampleEnvironment) ⟨sampleDeployed, []⟩ settlementWorld :=
  ⟨settlement, .done, .here .done _⟩

theorem settlement_grants : ∀ call ∈ settlementWorld.history,
    call.grant? = none ∨ call.grant? = some (ADMIN_ROLE sampleEnvironment, 0xbb) := by
  decide +kernel

theorem settlement_confined :
    (∀ role account, settlementWorld.state.hasRole role account = true →
        account = 0xad ∨ account = 0xbb) ∧
      (∀ call ∈ settlementWorld.history, call.entrypoint.reserved sampleEnvironment ≠ none →
        call.sender = 0xad ∨ call.sender = 0xbb) ∧
      ∀ transfer ∈ settlementWorld.state.transfers, Happened (fun pre call =>
        RefundsSigned sampleEnvironment (governanceAfter
            (.founded sampleEnvironment 0xad sampleOracle) pre).oracleAddress
            settlementWorld.state.payments call transfer ∨
          ((call.sender = 0xad ∨ call.sender = 0xbb) ∧
            SendsAsAdmin settlementWorld.state.payments call transfer))
        settlementWorld.history := by
  refine authority_confined constructor_sample reached_settlementWorld (.inl rfl) ?_
  intro call member role account grants _
  rcases settlement_grants call member with none | appoints
  · rw [none] at grants
    cases grants
  · rw [appoints, Option.some.injEq, Prod.mk.injEq] at grants
    exact .inr grants.2.symm

end Sample

end HumanIDPayments

end IdHub
