import IdHub.HumanIDPaymentsRoles

/-!
# Where the payment records come from

A record is there exactly because of one call that paid for it, by the payer, at the time
and with the amount that the record states, on a signature of the oracle of the moment
that was not older than a year.  It is marked as refunded exactly because of a call that
presented such a signature of at most ten minutes or was made by an admin.
-/

namespace IdHub

namespace HumanIDPayments

open CallTraces Guards Reentrancy

/-- The block is not before the signed time, nor later by more than the window. -/
def Timely (blockTimestamp signedAt : U256) (window : ℕ) : Prop :=
  signedAt.toNat ≤ blockTimestamp.toNat ∧ blockTimestamp.toNat ≤ signedAt.toNat + window

/-- The call presented a signature of the oracle for the request. -/
def Message.SignedBy (env : Environment) (oracle : Address) (m : Message) (request : Request) :
    Prop :=
  ∃ signature, (signature, request) ∈ m.signed ∧
    env.recover (request.digest env) signature = .ok oracle

/-- The call paid for the commitment, under these terms. -/
structure Paid (env : Environment) (oracle : Address) (m : Message) (commitment : Bytes32)
    (terms : PaymentTerms) : Prop where
  identity : terms.commitment = commitment
  sender : terms.sender = m.sender
  timestamp : terms.timestamp = m.timestamp
  signed : ∃ signedAt, m.SignedBy env oracle
      (.payment terms.amount commitment terms.service signedAt) ∧
    Timely m.timestamp signedAt (365 * 86400)

/-- The call may refund the commitment. -/
def RefundAuthorized (env : Environment) (governance : Governance) (m : Message)
    (commitment : Bytes32) : Prop :=
  (∃ signedAt, m.SignedBy env governance.oracleAddress (.refund commitment signedAt) ∧
      Timely m.timestamp signedAt (10 * 60)) ∨
    (m.entrypoint = .forceRefund commitment ∧ governance.Holds (ADMIN_ROLE env) m.sender)

/-- The call refunds the commitment, if it takes effect. -/
def Message.Refunds (m : Message) (commitment : Bytes32) : Prop :=
  (∃ signature signedAt, (signature, .refund commitment signedAt) ∈ m.signed) ∨
    m.entrypoint = .forceRefund commitment

abbrev Payments : Type := Bytes32 → Payment

/-- What calls that pay do to the records. -/
structure Enters (m : Message) (entries : List (WordBytes.Bytes × Request))
    (before after : Payments) : Prop where
  kept : ∀ commitment, (before commitment).amount ≠ 0 → after commitment = before commitment
  entered : ∀ commitment, (before commitment).amount = 0 →
    after commitment = before commitment ∨ ∃ signature amount service signedAt,
      (signature, .payment amount commitment service signedAt) ∈ entries ∧
        after commitment = ⟨commitment, service, m.timestamp, m.sender, amount, false⟩ ∧
        Timely m.timestamp signedAt (365 * 86400)
  recorded : ∀ signature amount commitment service signedAt,
    (signature, .payment amount commitment service signedAt) ∈ entries →
      amount ≠ 0 ∧ after commitment =
        ⟨commitment, service, m.timestamp, m.sender, amount, false⟩

variable {env : Environment} {m : Message} {s t : State} {phase : Phase Error State}

theorem timely_of_checkTimestamp {timestamp window : U256} {result : Unit}
    (checked : checkTimestamp m timestamp window = .ok result) :
    Timely m.timestamp timestamp window.toNat := by
  simp only [checkTimestamp, bind_eq_ok, revertIf_eq_ok] at checked
  obtain ⟨-, past, recent⟩ := checked
  have before : timestamp ≤ m.timestamp := BitVec.not_lt.mp past
  have within : m.timestamp - timestamp ≤ window := BitVec.not_lt.mp recent
  have difference : (m.timestamp - timestamp).toNat = m.timestamp.toNat - timestamp.toNat :=
    BitVec.toNat_sub_of_le before
  rw [BitVec.le_def] at before within
  exact ⟨before, by omega⟩

theorem processPayment_enters {commitment service : Bytes32} {amount timestamp : U256}
    {signature : WordBytes.Bytes}
    (processed : processPayment env m commitment service amount timestamp signature s =
      .ok t) :
    Enters m [(signature, .payment amount commitment service timestamp)]
      s.payments t.payments := by
  have timely : Timely m.timestamp timestamp (365 * 86400) := by
    simp only [processPayment, bind_eq_ok] at processed
    obtain ⟨-, -, -, -, result, checked, -⟩ := processed
    exact timely_of_checkTimestamp checked
  obtain ⟨positive, unset, rfl⟩ := processPayment_ok processed
  constructor
  · intro other set
    have different : other ≠ commitment := fun same => set (same ▸ unset)
    simp [State.emit, State.store, different]
  · intro other _
    rcases eq_or_ne other commitment with rfl | different
    · refine .inr ⟨signature, amount, service, timestamp, List.mem_singleton_self _, ?_, timely⟩
      simp [State.emit, State.store]
    · exact .inl (by simp [State.emit, State.store, different])
  · intro signature' amount' commitment' service' signedAt member
    simp only [List.mem_singleton, Prod.mk.injEq, Request.payment.injEq] at member
    obtain ⟨-, rfl, rfl, rfl, -⟩ := member
    exact ⟨positive, by simp [State.emit, State.store]⟩

theorem Enters.append {first second : List (WordBytes.Bytes × Request)}
    {before middle after : Payments} (enters : Enters m first before middle)
    (enters' : Enters m second middle after) : Enters m (first ++ second) before after := by
  have unchanged : ∀ commitment, (middle commitment).amount ≠ 0 →
      after commitment = middle commitment := enters'.kept
  constructor
  · intro commitment set
    have same := enters.kept commitment set
    rw [unchanged commitment (by rwa [same]), same]
  · intro commitment unset
    by_cases still : (middle commitment).amount = 0
    · have same : middle commitment = before commitment := by
        rcases enters.entered commitment unset with same | ⟨_, _, _, _, member, record, -⟩
        · exact same
        · rw [record] at still
          exact absurd still (enters.recorded _ _ _ _ _ member).1
      rcases enters'.entered commitment still with
        kept | ⟨signature, amount, service, signedAt, member, entry⟩
      · exact .inl (kept.trans same)
      · exact .inr ⟨signature, amount, service, signedAt, List.mem_append_right _ member, entry⟩
    · rw [unchanged commitment still]
      rcases enters.entered commitment unset with
        same | ⟨signature, amount, service, signedAt, member, entry⟩
      · exact .inl same
      · exact .inr ⟨signature, amount, service, signedAt, List.mem_append_left _ member, entry⟩
  · intro signature amount commitment service signedAt member
    rcases List.mem_append.mp member with left | right
    · obtain ⟨positive, record⟩ := enters.recorded _ _ _ _ _ left
      have set : (middle commitment).amount ≠ 0 := by rwa [record]
      exact ⟨positive, (unchanged commitment set).trans record⟩
    · exact enters'.recorded _ _ _ _ _ right

theorem enters_nil (payments : Payments) : Enters m [] payments payments where
  kept _ _ := rfl
  entered _ _ := .inl rfl
  recorded _ _ _ _ _ member := by cases member

theorem processPayments_enters {commitments services : List Bytes32}
    {amounts timestamps : List U256} {signatures : List WordBytes.Bytes}
    (processed : processPayments env m commitments services amounts timestamps signatures s =
      .ok t) :
    Enters m (batchSigned commitments services amounts timestamps signatures) s.payments
      t.payments := by
  induction commitments, services, amounts, timestamps, signatures, s using
    processPayments.induct with
  | case1 commitment commitments service services amount amounts timestamp
      timestamps signature signatures s ih =>
      simp only [processPayments, bind_eq_ok] at processed
      obtain ⟨middle, first, rest⟩ := processed
      exact (processPayment_enters first).append (ih middle rest)
  | case2 commitments services amounts timestamps signatures s exhausted =>
      rw [processPayments] at processed
      · simp only [Except.ok.injEq] at processed
        rw [processed, batchSigned]
        · exact enters_nil _
        · exact exhausted
      · exact exhausted

/-- What the records and the governance are, for the calls. -/
structure Books where
  payments : Payments
  governance : Governance

def State.books (s : State) : Books := ⟨s.payments, s.governance⟩

/-- What one call does to the records. -/
inductive Keeps (env : Environment) (m : Message) (governance : Governance) :
    Payments → Payments → Prop
  | enters {before after : Payments} (enters : Enters m m.signed before after)
      (unrefunding : ∀ commitment, ¬ m.Refunds commitment) : Keeps env m governance before after
  | refunds {before : Payments} {commitment : Bytes32}
      (only : ∀ other, m.Refunds other → other = commitment)
      (paysNot : ∀ signature amount commitment service signedAt,
        (signature, .payment amount commitment service signedAt) ∉ m.signed)
      (set : (before commitment).amount ≠ 0)
      (authorized : RefundAuthorized env governance m commitment) :
      Keeps env m governance before
        (Function.update before commitment { before commitment with refunded := true })

structure Booked (env : Environment) (m : Message) (before after : Books) : Prop where
  governed : Governed env m before.governance after.governance
  signed : ∀ entry ∈ m.signed,
    env.recover (entry.2.digest env) entry.1 = .ok before.governance.oracleAddress
  keeps : Keeps env m before.governance before.payments after.payments

theorem keeps_of_unsigned {governance : Governance} (unsigned : m.signed = [])
    (unforced : ∀ commitment, m.entrypoint ≠ .forceRefund commitment)
    {before after : Payments} (unchanged : after = before) :
    Keeps env m governance before after := by
  refine .enters ?_ ?_
  · rw [unsigned, unchanged]
    exact enters_nil before
  · rintro commitment (⟨signature, signedAt, member⟩ | forced)
    · simp [unsigned] at member
    · exact unforced commitment forced

theorem payments_grantRole_ (sender : Address) (role : Bytes32) (account : Address) :
    (grantRole_ sender role account s).payments = s.payments := by
  unfold grantRole_
  split <;> rfl

theorem payments_revokeRole_ (sender : Address) (role : Bytes32) (account : Address) :
    (revokeRole_ sender role account s).payments = s.payments := by
  unfold revokeRole_
  split <;> rfl

theorem payments_constructor {deployer oracleAddress : Address} {balance : ℕ}
    (deployed : constructor env deployer oracleAddress balance = .ok s) :
    s.payments = fun _ => .unset := by
  simp only [constructor, bind_eq_ok, pure_eq_ok] at deployed
  obtain ⟨-, -, rfl⟩ := deployed
  rw [payments_grantRole_, payments_grantRole_]

theorem sendValue_payments {purpose : Purpose} {recipient : Address} {amount : ℕ}
    {afterwards : State → State}
    (called : sendValue purpose recipient amount afterwards s = .ok phase) :
    phase.state.payments = s.payments := by
  simp only [sendValue, bind_eq_ok, pure_eq_ok] at called
  obtain ⟨-, -, rfl⟩ := called
  rfl

theorem set_of_checkRefundable {commitment : Bytes32} {result : Unit}
    (refundable : checkRefundable commitment s = .ok result) :
    (s.payments commitment).amount ≠ 0 := by
  simp only [checkRefundable, bind_eq_ok, revertIf_eq_ok] at refundable
  exact refundable.choose_spec.1

theorem refund_timely {commitment : Bytes32} {timestamp : U256} {signature : WordBytes.Bytes}
    (called : refund env m commitment timestamp signature s = .ok phase) :
    Timely m.timestamp timestamp (10 * 60) := by
  simp only [refund, bind_eq_ok] at called
  obtain ⟨-, -, -, -, result, checked, -⟩ := called
  have timely : Timely m.timestamp timestamp refundWindow.toNat :=
    timely_of_checkTimestamp checked
  have window : refundWindow.toNat = 10 * 60 := by decide
  rwa [window] at timely

theorem not_mem_batchSigned {commitments services : List Bytes32}
    {amounts timestamps : List U256} {signatures : List WordBytes.Bytes}
    {signature : WordBytes.Bytes} {commitment : Bytes32} {signedAt : U256} :
    (signature, Request.refund commitment signedAt) ∉
      batchSigned commitments services amounts timestamps signatures := by
  induction commitments, services, amounts, timestamps, signatures using
    batchSigned.induct with
  | case1 commitment commitments service services amount amounts timestamp timestamps
      signature signatures ih => simpa [batchSigned] using ih
  | case2 commitments services amounts timestamps signatures exhausted =>
      rw [batchSigned]
      · exact List.not_mem_nil
      · exact exhausted

theorem contract_keeps (called : contract env m s = .ok phase) :
    Keeps env m s.governance s.payments phase.state.payments := by
  have signed := contract_recovers called
  cases contract_started called with
  | pay entry processed =>
      have entered := processPayment_enters processed
      refine .enters ?_ ?_
      · rw [Message.signed, entry]
        exact entered
      · rintro commitment (⟨signature, signedAt, member⟩ | forced)
        · simp [Message.signed, entry] at member
        · simp [entry] at forced
  | batchPay entry _ _ processed =>
      have entered := processPayments_enters processed
      refine .enters ?_ ?_
      · rw [Message.signed, entry]
        exact entered
      · rintro commitment (⟨signature, signedAt, member⟩ | forced)
        · rw [Message.signed, entry] at member
          exact not_mem_batchSigned member
        · simp [entry] at forced
  | @refund commitment timestamp signature phase entry refundable _ refunded =>
      have timely : Timely m.timestamp timestamp (10 * 60) := by
        rw [contract, entry] at called
        exact refund_timely called
      have isSigned : (signature, Request.refund commitment timestamp) ∈ m.signed := by
        simp [Message.signed, entry]
      have byOracle : m.SignedBy env s.oracleAddress (.refund commitment timestamp) :=
        ⟨signature, isSigned, signed (signature, .refund commitment timestamp) isSigned⟩
      unfold refundPayment at refunded
      rw [sendValue_payments refunded]
      refine .refunds ?_ ?_ (set_of_checkRefundable refundable)
        (.inl ⟨timestamp, byOracle, timely⟩)
      · rintro other (⟨_, _, member⟩ | forced)
        · simp only [Message.signed, entry, List.mem_singleton, Prod.mk.injEq,
            Request.refund.injEq] at member
          exact member.2.1
        · simp [entry] at forced
      · intro _ _ _ _ _ member
        simp [Message.signed, entry] at member
  | @forceRefund commitment phase entry refundable refunded =>
      have held : s.governance.Holds (ADMIN_ROLE env) m.sender :=
        contract_authorized called (by rw [entry]; rfl)
      unfold refundPayment at refunded
      rw [sendValue_payments refunded]
      refine .refunds ?_ ?_ (set_of_checkRefundable refundable) (.inr ⟨entry, held⟩)
      · rintro other (⟨_, _, member⟩ | forced)
        · simp [Message.signed, entry] at member
        · simpa [entry, eq_comm] using forced
      · intro _ _ _ _ _ member
        simp [Message.signed, entry] at member
  | withdraw entry sent =>
      exact keeps_of_unsigned (by rw [Message.signed, entry]) (by simp [entry])
        (sendValue_payments sent)
  | withdrawTo entry sent =>
      exact keeps_of_unsigned (by rw [Message.signed, entry]) (by simp [entry])
        (sendValue_payments sent)
  | withdrawAll entry sent =>
      exact keeps_of_unsigned (by rw [Message.signed, entry]) (by simp [entry])
        (sendValue_payments sent)
  | grantRole entry =>
      exact keeps_of_unsigned (by rw [Message.signed, entry]) (by simp [entry])
        (payments_grantRole_ _ _ _)
  | revokeRole entry =>
      exact keeps_of_unsigned (by rw [Message.signed, entry]) (by simp [entry])
        (payments_revokeRole_ _ _ _)
  | renounceRole entry =>
      exact keeps_of_unsigned (by rw [Message.signed, entry]) (by simp [entry])
        (payments_revokeRole_ _ _ _)
  | _ entry => exact keeps_of_unsigned (by rw [Message.signed, entry]) (by simp [entry]) rfl

theorem contract_books (env : Environment) :
    Guarantee (contract env) (fun world after => ∃ later,
      after.history = world.history ++ later ∧
        Trace (Booked env) world.state.books later after.state.books) := by
  apply linearization State.books
  · intro call state phase called
    exact ⟨contract_governed called, contract_recovers called, contract_keeps called⟩
  · intro call state middle onFail resume returned final called resumed
    obtain ⟨event, rfl⟩ := contract_resume_emits called resumed
    rfl

/-- Every record is there because of a call, and every call that took effect left its
record. -/
structure Sourced (env : Environment) (initial : Governance) (calls : List Message)
    (payments : Payments) : Prop where
  paid : ∀ commitment, (payments commitment).amount ≠ 0 →
    Happened (fun pre call => Paid env (governanceAfter initial pre).oracleAddress call
      commitment (payments commitment).terms) calls
  refunded : ∀ commitment, (payments commitment).refunded = true →
    Happened (fun pre call => RefundAuthorized env (governanceAfter initial pre) call
      commitment) calls
  recorded : ∀ call ∈ calls, ∀ signature amount commitment service signedAt,
    (signature, .payment amount commitment service signedAt) ∈ call.signed →
      amount ≠ 0 ∧ (payments commitment).terms =
        ⟨commitment, service, call.timestamp, call.sender, amount⟩
  marked : ∀ call ∈ calls, ∀ commitment, call.Refunds commitment →
    (payments commitment).amount ≠ 0 ∧ (payments commitment).refunded = true

theorem sourced_unset (initial : Governance) : Sourced env initial [] fun _ => .unset where
  paid commitment set := absurd rfl set
  refunded commitment isRefunded := by cases isRefunded
  recorded call member := by cases member
  marked call member := by cases member

variable {initial governance : Governance} {calls : List Message} {before after : Payments}

theorem Sourced.enters (sourced : Sourced env initial calls before)
    (signed : ∀ entry ∈ m.signed,
      env.recover (entry.2.digest env) entry.1 =
        .ok (governanceAfter initial calls).oracleAddress)
    (enters : Enters m m.signed before after)
    (unrefunding : ∀ commitment, ¬ m.Refunds commitment) :
    Sourced env initial (calls ++ [m]) after where
  paid commitment set := by
    by_cases unset : (before commitment).amount = 0
    · rcases enters.entered commitment unset with
        same | ⟨signature, amount, service, signedAt, member, record, timely⟩
      · exact absurd unset (same ▸ set)
      · apply happened_last
        rw [record]
        have byOracle : m.SignedBy env (governanceAfter initial calls).oracleAddress
            (.payment amount commitment service signedAt) :=
          ⟨signature, member, signed (signature, _) member⟩
        exact ⟨rfl, rfl, rfl, signedAt, byOracle, timely⟩
    · rw [enters.kept commitment unset]
      exact (sourced.paid commitment unset).append [m]
  refunded commitment isRefunded := by
    by_cases unset : (before commitment).amount = 0
    · rcases enters.entered commitment unset with same | ⟨_, _, _, _, _, record, -⟩
      · exact (sourced.refunded commitment (same ▸ isRefunded)).append [m]
      · simp [record] at isRefunded
    · rw [enters.kept commitment unset] at isRefunded
      exact (sourced.refunded commitment isRefunded).append [m]
  recorded call member signature amount commitment service signedAt entry := by
    rcases List.mem_append.mp member with earlier | last
    · obtain ⟨positive, terms⟩ := sourced.recorded call earlier _ _ _ _ _ entry
      have set : (before commitment).amount ≠ 0 := by
        have sameAmount := congrArg PaymentTerms.amount terms
        exact fun unset => positive (sameAmount.symm.trans unset)
      rw [enters.kept commitment set]
      exact ⟨positive, terms⟩
    · rw [List.mem_singleton.mp last] at entry ⊢
      obtain ⟨positive, record⟩ := enters.recorded _ _ _ _ _ entry
      rw [record]
      exact ⟨positive, rfl⟩
  marked call member commitment refunds := by
    rcases List.mem_append.mp member with earlier | last
    · obtain ⟨set, isRefunded⟩ := sourced.marked call earlier commitment refunds
      rw [enters.kept commitment set]
      exact ⟨set, isRefunded⟩
    · rw [List.mem_singleton.mp last] at refunds
      exact absurd refunds (unrefunding commitment)

theorem terms_mark (payments : Payments) (commitment other : Bytes32) :
    (Function.update payments commitment { payments commitment with refunded := true }
      other).terms = (payments other).terms := by
  rcases eq_or_ne other commitment with rfl | different
  · simp [Payment.terms]
  · simp [different]

theorem Sourced.refunds {commitment : Bytes32} (sourced : Sourced env initial calls before)
    (only : ∀ other, m.Refunds other → other = commitment)
    (paysNot : ∀ signature amount commitment service signedAt,
      (signature, .payment amount commitment service signedAt) ∉ m.signed)
    (set : (before commitment).amount ≠ 0)
    (authorized : RefundAuthorized env (governanceAfter initial calls) m commitment) :
    Sourced env initial (calls ++ [m])
      (Function.update before commitment { before commitment with refunded := true }) where
  paid other isSet := by
    have sameTerms := terms_mark before commitment other
    rw [sameTerms]
    have wasSet : (before other).amount ≠ 0 := by
      have sameAmount := congrArg PaymentTerms.amount sameTerms
      exact fun unset => isSet (sameAmount.trans unset)
    exact (sourced.paid other wasSet).append [m]
  refunded other isRefunded := by
    rcases eq_or_ne other commitment with rfl | different
    · exact happened_last authorized
    · rw [Function.update_of_ne different] at isRefunded
      exact (sourced.refunded other isRefunded).append [m]
  recorded call member signature amount other service signedAt entry := by
    rw [terms_mark]
    rcases List.mem_append.mp member with earlier | last
    · exact sourced.recorded call earlier _ _ _ _ _ entry
    · rw [List.mem_singleton.mp last] at entry
      exact absurd entry (paysNot _ _ _ _ _)
  marked call member other refunds := by
    rcases eq_or_ne other commitment with rfl | different
    · simpa using set
    · rw [Function.update_of_ne different]
      rcases List.mem_append.mp member with earlier | last
      · exact sourced.marked call earlier other refunds
      · rw [List.mem_singleton.mp last] at refunds
        exact absurd (only other refunds) different

structure BooksSourced (env : Environment) (initial : Governance) (calls : List Message)
    (books : Books) : Prop where
  governed : books.governance = governanceAfter initial calls
  sourced : Sourced env initial calls books.payments

theorem BooksSourced.step {books books' : Books} (run : BooksSourced env initial calls books)
    (booked : Booked env m books books') : BooksSourced env initial (calls ++ [m]) books' where
  governed := by
    rw [booked.governed.effect, run.governed, governanceAfter, governanceAfter,
      List.foldl_append]
    rfl
  sourced := by
    have sourced := run.sourced
    have signed := booked.signed
    have keeps := booked.keeps
    rw [run.governed] at signed keeps
    generalize books'.payments = after at keeps ⊢
    cases keeps with
    | enters enters unrefunding => exact sourced.enters signed enters unrefunding
    | refunds only paysNot set authorized => exact sourced.refunds only paysNot set authorized

/-- In every world that a run reaches, also inside a transaction, the payment records are
those of the calls that took effect, each of which was authorized by whoever was the oracle,
or had the admin's role, when it was made. -/
theorem payments_sourced {deployer oracleAddress : Address} {balance : ℕ}
    (deployed : constructor env deployer oracleAddress balance = .ok s)
    {world : World Message State} (reached : Reached (contract env) ⟨s, []⟩ world) :
    Sourced env (.founded env deployer oracleAddress) world.history world.state.payments := by
  obtain ⟨later, history, trace⟩ := (contract_books env).reached reached
  have start : s.books = ⟨fun _ => .unset, .founded env deployer oracleAddress⟩ := by
    rw [State.books, (governance_constructor deployed).1, payments_constructor deployed]
  rw [start] at trace
  have first : BooksSourced env (.founded env deployer oracleAddress) []
      ⟨fun _ => .unset, .founded env deployer oracleAddress⟩ := ⟨rfl, sourced_unset _⟩
  have run := trace.history_invariant
    (P := BooksSourced env (.founded env deployer oracleAddress))
    (fun _ _ _ _ booked run => run.step booked) first
  rw [history]
  exact run.sourced

theorem sampleWorld_sourced :
    Sourced sampleEnvironment (.founded sampleEnvironment 0xad sampleOracle)
      sampleWorld.history sampleWorld.state.payments :=
  payments_sourced constructor_sample ⟨sampleTransactions, .done, .here .done _⟩

end HumanIDPayments

end IdHub
