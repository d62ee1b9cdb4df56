import IdHub.Deployments
import IdHub.HubNullifiers
import IdHub.SignedMessages

/-!
# One signature on several deployments

The strings that the trusted keys sign name the chain and not the contract, so a
signature is good for every deployment that trusts its key.  What bounds its use is
each deployment's own record: of the payments and refunds for a commitment, and of the
nullifiers.  On every deployment a signature of a payment or a refund is accepted at
most once, and so is one of a mint with a nullifier, always for the same request.
-/

namespace IdHub

open CallTraces EscrowLedger Guards Reentrancy WordBytes

section Acceptance

variable {Call : Type*} (signed : Call → List (Bytes × Request)) (env : Environment)

/-- The requests that the calls presented the signature for. -/
def presented (signature : Bytes) (calls : List Call) : List Request :=
  ((calls.flatMap signed).filter fun entry => entry.1 = signature).map Prod.snd

/-- Those that were accepted while the contract trusted the key: the contract compares the
signer of the request's digest with the key that it trusts. -/
def acceptedBy (key : Address) (signature : Bytes) (calls : List Call) : List Request :=
  (presented signed signature calls).filter fun request =>
    env.recover (request.digest env) signature = .ok key

/-- The strings that are hashed for the requests. -/
def hashedFor (signature : Bytes) (calls : List Call) : List Bytes :=
  (presented signed signature calls).flatMap (Request.hashed env)

/-- The digests that the requests compare with the key. -/
def signingsFor (key : Address) (signature : Bytes) (calls : List Call) :
    List (Bytes32 × Address) :=
  (presented signed signature calls).map fun request => (request.digest env, key)

variable {signed env} {key : Address} {signature : Bytes} {calls subcalls : List Call}
variable {request request' : Request}

theorem mem_presented : request ∈ presented signed signature calls ↔
    ∃ call ∈ calls, (signature, request) ∈ signed call := by
  simp [presented]

theorem presented_subset (subset : subcalls ⊆ calls) :
    presented signed signature subcalls ⊆ presented signed signature calls := by
  intro request member
  obtain ⟨call, inCalls, entry⟩ := mem_presented.mp member
  exact mem_presented.mpr ⟨call, subset inCalls, entry⟩

/-- Accepted requests are the same, on whatever deployments. -/
theorem acceptedBy_unique
    (collisionFree : env.CollisionFree (hashedFor signed env signature calls))
    (once : env.SignsOnce signature (signingsFor signed env key signature calls))
    {first second : List Call} (inFirst : first ⊆ calls) (inSecond : second ⊆ calls)
    (accepted : request ∈ acceptedBy signed env key signature first)
    (accepted' : request' ∈ acceptedBy signed env key signature second) :
    request = request' := by
  simp only [acceptedBy, List.mem_filter, decide_eq_true_eq] at accepted accepted'
  have member := presented_subset inFirst accepted.1
  have member' := presented_subset inSecond accepted'.1
  have sameDigest : request.digest env = request'.digest env :=
    once (request.digest env, key) (List.mem_map_of_mem member)
      (request'.digest env, key) (List.mem_map_of_mem member') accepted.2 accepted'.2
  have pairFree : env.CollisionFree (request.hashed env ++ request'.hashed env) := by
    intro string inString string' inString' equal
    apply collisionFree string ?_ string' ?_ equal
    · rcases List.mem_append.mp inString with left | right
      · exact List.mem_flatMap.mpr ⟨request, member, left⟩
      · exact List.mem_flatMap.mpr ⟨request', member', right⟩
    · rcases List.mem_append.mp inString' with left | right
      · exact List.mem_flatMap.mpr ⟨request, member, left⟩
      · exact List.mem_flatMap.mpr ⟨request', member', right⟩
  exact (Request.of_digest_eq pairFree sameDigest).1

theorem length_acceptedBy : (acceptedBy signed env key signature calls).length =
    (calls.flatMap signed).countP fun entry =>
      env.recover (entry.2.digest env) signature = .ok key ∧ entry.1 = signature := by
  rw [acceptedBy, presented, List.filter_map, List.length_map, List.filter_filter,
    ← List.countP_eq_length_filter]
  simp

/-- A signature is accepted at most once if each of its requests leaves an entry behind
that is there at most once. -/
theorem length_acceptedBy_le {Entry : Type*} [DecidableEq Entry]
    (same : ∀ request ∈ acceptedBy signed env key signature calls,
      ∀ request' ∈ acceptedBy signed env key signature calls, request = request')
    (counted : ∀ request ∈ acceptedBy signed env key signature calls,
      ∃ (remains? : Request → Option Entry) (left : Entry), remains? request = some left ∧
        ((calls.flatMap signed).filterMap fun entry => remains? entry.2).count left ≤ 1) :
    (acceptedBy signed env key signature calls).length ≤ 1 := by
  rcases List.eq_nil_or_concat (acceptedBy signed env key signature calls) with
    unaccepted | ⟨earlier, request, split⟩
  · simp [unaccepted]
  · have member : request ∈ acceptedBy signed env key signature calls := by simp [split]
    obtain ⟨remains?, left, leaves, once⟩ := counted request member
    rw [List.count_filterMap] at once
    refine le_trans ?_ once
    rw [length_acceptedBy]
    apply List.countP_mono_left
    rintro ⟨signature', request'⟩ inCalls accepted
    simp only [decide_eq_true_eq] at accepted
    obtain ⟨recovered, sameSignature⟩ := accepted
    rw [sameSignature] at inCalls
    have inPresented : request' ∈ presented signed signature calls :=
      mem_presented.mpr (List.mem_flatMap.mp inCalls)
    have member' : request' ∈ acceptedBy signed env key signature calls :=
      List.mem_filter.mpr ⟨inPresented, by simpa using recovered⟩
    simp [same request' member' request member, leaves]

end Acceptance

namespace HumanIDPayments

/-- The commitment that a request pays for. -/
def paid? : Request → Option Bytes32
  | .payment _ commitment _ _ => some commitment
  | _ => none

/-- The commitment that a request refunds. -/
def refunded? : Request → Option Bytes32
  | .refund commitment _ => some commitment
  | _ => none

def Message.entries (remains? : Request → Option Bytes32) (m : Message) : List Bytes32 :=
  m.signed.filterMap fun entry => remains? entry.2

/-- The commitment of a transfer that `refund` made. -/
def Transfer.signedRefund (transfer : Transfer) : Option Bytes32 :=
  match transfer.purpose with
  | .refund commitment => some commitment
  | _ => none

def State.received (s : State) : List Bytes32 := s.events.filterMap Event.received

def State.signedRefunds (s : State) : List Bytes32 :=
  s.transfers.filterMap Transfer.signedRefund

variable {env : Environment} {m : Message} {s t : State} {phase : Phase Error State}

theorem received_emit {event : Event} (silent : event.received = none) :
    (s.emit event).received = s.received := by
  simp [State.received, State.emit, silent]

theorem journals_grantRole_ (sender : Address) (role : Bytes32) (account : Address) :
    (grantRole_ sender role account s).received = s.received ∧
      (grantRole_ sender role account s).signedRefunds = s.signedRefunds := by
  unfold grantRole_
  split
  · exact ⟨rfl, rfl⟩
  · exact ⟨received_emit rfl, rfl⟩

theorem journals_revokeRole_ (sender : Address) (role : Bytes32) (account : Address) :
    (revokeRole_ sender role account s).received = s.received ∧
      (revokeRole_ sender role account s).signedRefunds = s.signedRefunds := by
  unfold revokeRole_
  split
  · exact ⟨received_emit rfl, rfl⟩
  · exact ⟨rfl, rfl⟩

theorem processPayment_journals {commitment service : Bytes32} {amount timestamp : U256}
    {signature : Bytes}
    (processed : processPayment env m commitment service amount timestamp signature s =
      .ok t) :
    t.received = s.received ++ [commitment] ∧ t.signedRefunds = s.signedRefunds := by
  obtain ⟨-, -, rfl⟩ := processPayment_ok processed
  exact ⟨by simp [State.received, State.emit, State.store, Event.received], rfl⟩

theorem processPayments_journals {commitments services : List Bytes32}
    {amounts timestamps : List U256} {signatures : List Bytes}
    (processed : processPayments env m commitments services amounts timestamps signatures s =
      .ok t) :
    t.received = s.received ++
        (batchSigned commitments services amounts timestamps signatures).filterMap
          (fun entry => paid? entry.2) ∧
      (batchSigned commitments services amounts timestamps signatures).filterMap
        (fun entry => refunded? entry.2) = [] ∧
      t.signedRefunds = s.signedRefunds := by
  induction commitments, services, amounts, timestamps, signatures, s using
    processPayments.induct with
  | case1 commitment commitments service services amount amounts timestamp
      timestamps signature signatures s ih =>
      simp only [processPayments, bind_eq_ok] at processed
      obtain ⟨middle, first, rest⟩ := processed
      obtain ⟨received, refunds⟩ := processPayment_journals first
      obtain ⟨received', unrefunded, refunds'⟩ := ih middle rest
      refine ⟨?_, ?_, refunds'.trans refunds⟩
      · rw [received', received]
        simp [batchSigned, paid?]
      · rw [batchSigned, List.filterMap_cons_none rfl, unrefunded]
  | case2 commitments services amounts timestamps signatures s exhausted =>
      rw [processPayments] at processed
      · simp only [Except.ok.injEq] at processed
        rw [processed, batchSigned]
        · simp
        · exact exhausted
      · exact exhausted

/-- What a call appends to the payments that were announced and to the refunds that were
sent for signatures. -/
structure Appends (m : Message) (s t : State) : Prop where
  received : t.received = s.received ++ m.entries paid?
  refunds : t.signedRefunds = s.signedRefunds ++ m.entries refunded?

/-- A call up to its end or its transfer, and what it does when the recipient returns. -/
inductive Journaled (m : Message) (s : State) : Phase Error State → Prop
  | ends {t : State} (appends : Appends m s t) : Journaled m s (.done t)
  | sends {sent : State} {event : State → Event} (appends : Appends m s sent)
      (silent : ∀ returned, (event returned).received = none) :
      Journaled m s (.external sent .transferFailed
        fun returned => .ok (returned.emit (event returned)))

theorem Appends.of_unsigned (unsigned : m.signed = []) (received : t.received = s.received)
    (refunds : t.signedRefunds = s.signedRefunds) : Appends m s t := by
  constructor
  · simp [Message.entries, unsigned, received]
  · simp [Message.entries, unsigned, refunds]

theorem sendValue_journaled {purpose : Purpose} {recipient : Address} {amount : ℕ}
    {event : State → Event} (silent : ∀ returned, (event returned).received = none)
    (unpaid : m.entries paid? = [])
    (refunds : m.entries refunded? =
      (Transfer.mk purpose recipient amount).signedRefund.toList)
    (called : sendValue purpose recipient amount (fun returned => returned.emit (event returned))
      s = .ok phase) : Journaled m s phase := by
  simp only [sendValue, bind_eq_ok, pure_eq_ok] at called
  obtain ⟨-, -, rfl⟩ := called
  refine .sends ⟨?_, ?_⟩ silent
  · rw [unpaid, List.append_nil]
    rfl
  · rw [refunds]
    simp only [State.signedRefunds, List.filterMap_append, List.filterMap_cons]
    cases (Transfer.mk purpose recipient amount).signedRefund <;> rfl

/-- The functions that send ETH to an admin announce and refund nothing. -/
theorem withdrawal_journaled {purpose : Purpose} {recipient : Address} {amount : ℕ}
    {event : Event} (silent : event.received = none) (unsigned : m.signed = [])
    (withdraws : (Transfer.mk purpose recipient amount).signedRefund = none)
    (called : sendValue purpose recipient amount (fun returned => returned.emit event) s =
      .ok phase) : Journaled m s phase := by
  apply sendValue_journaled (fun _ => silent) _ _ called
  · rw [Message.entries, unsigned]
    rfl
  · rw [Message.entries, unsigned, withdraws]
    rfl

theorem refundPayment_journaled {purpose : Purpose}
    {issued : Bytes32 → Address → U256 → Event} {commitment : Bytes32}
    (silent : ∀ commitment recipient amount,
      (issued commitment recipient amount).received = none)
    (unpaid : m.entries paid? = [])
    (refunds : m.entries refunded? = (Transfer.mk purpose (s.payments commitment).sender
      (s.payments commitment).amount.toNat).signedRefund.toList)
    (called : refundPayment purpose issued commitment s = .ok phase) :
    Journaled m s phase := by
  have journaled : Journaled m (s.markRefunded commitment) phase :=
    sendValue_journaled (fun _ => silent _ _ _) unpaid refunds called
  cases journaled with
  | ends appends => exact .ends ⟨appends.received, appends.refunds⟩
  | sends appends silent => exact .sends ⟨appends.received, appends.refunds⟩ silent

theorem contract_journaled (called : contract env m s = .ok phase) :
    Journaled m s phase := by
  cases contract_started called with
  | pay entry processed =>
      obtain ⟨received, refunds⟩ := processPayment_journals processed
      refine .ends ⟨?_, ?_⟩
      · rw [Message.entries, Message.signed, entry]
        exact received
      · rw [Message.entries, Message.signed, entry]
        exact refunds.trans (List.append_nil _).symm
  | batchPay entry _ _ processed =>
      obtain ⟨received, unrefunded, refunds⟩ := processPayments_journals processed
      refine .ends ⟨?_, ?_⟩
      · rw [Message.entries, Message.signed, entry]
        exact received
      · rw [Message.entries, Message.signed, entry]
        simp only [unrefunded, List.append_nil]
        exact refunds
  | refund entry _ _ refunded =>
      exact refundPayment_journaled (fun _ _ _ => rfl)
        (by rw [Message.entries, Message.signed, entry]; rfl)
        (by rw [Message.entries, Message.signed, entry]; rfl) refunded
  | forceRefund entry _ refunded =>
      have unsigned : m.signed = [] := by rw [Message.signed, entry]
      exact refundPayment_journaled (fun _ _ _ => rfl) (by rw [Message.entries, unsigned]; rfl)
        (by rw [Message.entries, unsigned]; rfl) refunded
  | withdraw entry sent =>
      have unsigned : m.signed = [] := by rw [Message.signed, entry]
      exact withdrawal_journaled rfl unsigned rfl sent
  | withdrawTo entry sent =>
      have unsigned : m.signed = [] := by rw [Message.signed, entry]
      exact withdrawal_journaled rfl unsigned rfl sent
  | withdrawAll entry sent =>
      have unsigned : m.signed = [] := by rw [Message.signed, entry]
      exact withdrawal_journaled rfl unsigned rfl sent
  | deposit entry =>
      exact .ends (.of_unsigned (by rw [Message.signed, entry]) (received_emit rfl) rfl)
  | receive entry =>
      exact .ends (.of_unsigned (by rw [Message.signed, entry]) (received_emit rfl) rfl)
  | setOracleAddress entry =>
      exact .ends (.of_unsigned (by rw [Message.signed, entry]) (received_emit rfl) rfl)
  | grantRole entry =>
      obtain ⟨received, refunds⟩ := journals_grantRole_ m.sender _ _
      exact .ends (.of_unsigned (by rw [Message.signed, entry]) received refunds)
  | revokeRole entry =>
      obtain ⟨received, refunds⟩ := journals_revokeRole_ m.sender _ _
      exact .ends (.of_unsigned (by rw [Message.signed, entry]) received refunds)
  | renounceRole entry =>
      obtain ⟨received, refunds⟩ := journals_revokeRole_ m.sender _ _
      exact .ends (.of_unsigned (by rw [Message.signed, entry]) received refunds)
  | forcedEther entry =>
      exact .ends (.of_unsigned (by rw [Message.signed, entry]) rfl rfl)

theorem received_accumulates (env : Environment) :
    Guarantee (contract env) (fun world after => ∃ later,
      after.history = world.history ++ later ∧
        after.state.received = world.state.received ++ later.flatMap (Message.entries paid?)) := by
  apply accumulation State.received (Message.entries paid?)
  · intro call state phase called
    cases contract_journaled called with
    | ends appends => exact appends.received
    | sends appends _ => exact appends.received
  · intro call state middle onFail resume returned final called resumed
    cases contract_journaled called with
    | sends _ silent =>
        simp only [Except.ok.injEq] at resumed
        rw [← resumed, received_emit (silent returned)]

theorem signedRefunds_accumulate (env : Environment) :
    Guarantee (contract env) (fun world after => ∃ later,
      after.history = world.history ++ later ∧ after.state.signedRefunds =
        world.state.signedRefunds ++ later.flatMap (Message.entries refunded?)) := by
  apply accumulation State.signedRefunds (Message.entries refunded?)
  · intro call state phase called
    cases contract_journaled called with
    | ends appends => exact appends.refunds
    | sends appends _ => exact appends.refunds
  · intro call state middle onFail resume returned final called resumed
    cases contract_journaled called with
    | sends _ silent =>
        simp only [Except.ok.injEq] at resumed
        rw [← resumed]
        rfl

theorem flatMap_entries (remains? : Request → Option Bytes32) (history : List Message) :
    history.flatMap (Message.entries remains?) =
      (history.flatMap Message.signed).filterMap fun entry => remains? entry.2 := by
  rw [List.filterMap_flatMap]
  rfl

theorem batchSigned_payments {commitments services : List Bytes32}
    {amounts timestamps : List U256} {signatures : List Bytes} {entry : Bytes × Request}
    (member : entry ∈ batchSigned commitments services amounts timestamps signatures) :
    ∃ amount commitment service timestamp,
      entry.2 = .payment amount commitment service timestamp := by
  induction commitments, services, amounts, timestamps, signatures using
    batchSigned.induct with
  | case1 commitment commitments service services amount amounts timestamp timestamps
      signature signatures ih =>
      rcases List.mem_cons.mp member with rfl | later
      · exact ⟨amount, commitment, service, timestamp, rfl⟩
      · exact ih later
  | case2 commitments services amounts timestamps signatures exhausted =>
      rw [batchSigned] at member
      · cases member
      · exact exhausted

/-- The payments and refunds that calls ask for each leave an entry behind. -/
theorem entry_of_signed {entry : Bytes × Request} (member : entry ∈ m.signed) :
    ∃ commitment, paid? entry.2 = some commitment ∨ refunded? entry.2 = some commitment := by
  unfold Message.signed at member
  cases entrypoint : m.entrypoint with
  | pay commitment service timestamp signature =>
      simp only [entrypoint, List.mem_singleton] at member
      exact ⟨commitment, .inl (by rw [member]; rfl)⟩
  | batchPay commitments services amounts timestamps signatures =>
      simp only [entrypoint] at member
      obtain ⟨amount, commitment, service, timestamp, payment⟩ := batchSigned_payments member
      exact ⟨commitment, .inl (by rw [payment]; rfl)⟩
  | refund commitment timestamp signature =>
      simp only [entrypoint, List.mem_singleton] at member
      exact ⟨commitment, .inr (by rw [member]; rfl)⟩
  | _ => simp [entrypoint] at member

theorem count_signedRefunds_le (s : State) (commitment : Bytes32) :
    s.signedRefunds.count commitment ≤ (s.refundsSent commitment).length := by
  rw [State.signedRefunds, List.count_filterMap, State.refundsSent, List.filterMap_filterMap,
    List.length_filterMap_eq_countP]
  apply List.countP_mono_left
  intro transfer _ signedFor
  cases purpose : transfer.purpose <;>
    simp_all [Transfer.signedRefund, Transfer.refunded]

/-- On one deployment each commitment is paid for at most once and refunded for a
signature at most once. -/
theorem count_journals_le {initial : State} {deployer oracle : Address} {balance : ℕ}
    (deployed : constructor env deployer oracle balance = .ok initial)
    (steps : LedgerSteps initial s) (commitment : Bytes32) :
    s.received.count commitment ≤ 1 ∧ s.signedRefunds.count commitment ≤ 1 := by
  have balanced : Balanced PaymentTerms.refund s.ledger := by
    apply steps.balanced
    rw [ledger_constructor deployed]
    exact balanced_empty
  constructor
  · have created : s.received.count commitment = _ :=
      (refundedOnce_of_balanced balanced).created commitment
    rw [created]
    split <;> omega
  · have sent : s.refundsSent commitment =
        (s.payments commitment).status.payouts PaymentTerms.refund :=
      balanced.paidOut commitment
    have once : (s.refundsSent commitment).length ≤ 1 := by
      rw [sent]
      cases (s.payments commitment).status <;> simp [Status.payouts]
    exact (count_signedRefunds_le s commitment).trans once

/-- A run of deployments, and a signature that the hash and the key are ideal for. -/
structure Deployed (env : Environment) (oracle : Address) (signature : Bytes)
    (initial : Address → State)
    (world : World (Address × Message) (Address → State)) : Prop where
  constructed : ∀ address, ∃ deployer oracle balance,
    constructor env deployer oracle balance = .ok (initial address)
  reached : Reached (deployments fun _ => contract env) ⟨initial, []⟩ world
  collisionFree : env.CollisionFree
    (hashedFor Message.signed env signature (world.history.map Prod.snd))
  once : env.SignsOnce signature
    (signingsFor Message.signed env oracle signature (world.history.map Prod.snd))

/-- The requests of payments and refunds that the contract at the address accepted. -/
def acceptedOn (env : Environment) (oracle : Address) (signature : Bytes)
    (world : World (Address × Message) (Address → State)) (address : Address) :
    List Request :=
  acceptedBy Message.signed env oracle signature (world.seenFrom address).history

variable {oracle : Address} {signature : Bytes} {initial : Address → State}
variable {world : World (Address × Message) (Address → State)}

theorem Deployed.same_request (run : Deployed env oracle signature initial world)
    {first second : Address} {request request' : Request}
    (accepted : request ∈ acceptedOn env oracle signature world first)
    (accepted' : request' ∈ acceptedOn env oracle signature world second) :
    request = request' :=
  acceptedBy_unique run.collisionFree run.once seenFrom_history_subset seenFrom_history_subset
    accepted accepted'

theorem Deployed.accepted_once (run : Deployed env oracle signature initial world)
    (address : Address) : (acceptedOn env oracle signature world address).length ≤ 1 := by
  obtain ⟨deployer, oracle', balance, constructed⟩ := run.constructed address
  have steps : LedgerSteps (initial address) (world.state address) :=
    (Guarantee.deployments fun _ => contract_refines env).reached run.reached address
  have counts := count_journals_le constructed steps
  obtain ⟨payments, history, received⟩ :=
    (Guarantee.deployments fun _ => received_accumulates env).reached run.reached address
  obtain ⟨refunds, history', signedRefunds⟩ :=
    (Guarantee.deployments fun _ => signedRefunds_accumulate env).reached run.reached address
  have allPayments : (world.seenFrom address).history = payments := history
  have allRefunds : (world.seenFrom address).history = refunds := history'
  refine @length_acceptedBy_le _ Message.signed env oracle signature _ Bytes32 _ ?_ ?_
  · intro request accepted request' accepted'
    exact run.same_request accepted accepted'
  · intro request accepted
    have inPresented := (List.mem_filter.mp accepted).1
    obtain ⟨call, -, presents⟩ := mem_presented.mp inPresented
    obtain ⟨commitment, paid | refunded⟩ := entry_of_signed presents
    · refine ⟨paid?, commitment, paid, ?_⟩
      have paidOnce := (counts commitment).1
      have received' : (world.state address).received = _ := received
      rw [received', List.count_append] at paidOnce
      rw [← flatMap_entries, allPayments]
      exact (Nat.le_add_left _ _).trans paidOnce
    · refine ⟨refunded?, commitment, refunded, ?_⟩
      have refundedOnce := (counts commitment).2
      have signedRefunds' : (world.state address).signedRefunds = _ := signedRefunds
      rw [signedRefunds', List.count_append] at refundedOnce
      rw [← flatMap_entries, allRefunds]
      exact (Nat.le_add_left _ _).trans refundedOnce

end HumanIDPayments

namespace Hub

open SingleUse

/-- The nullifier that a request uses, which is not `0`. -/
def nullifier? : Request → Option U256
  | .mint _ _ _ _ nullifier _ => if nullifier = 0 then none else some nullifier
  | _ => none

/-- A run of deployments, and a signature that the hash and the key are ideal for. -/
structure Deployed (env : Environment) (verifier : Address) (signature : Bytes)
    (initial : Address → State)
    (world : World (Address × Message) (Address → State)) : Prop where
  constructed : ∀ address, ∃ deployer verifier balance,
    initial address = constructor deployer verifier balance
  reached : Reached (deployments fun _ => contract env) ⟨initial, []⟩ world
  collisionFree : env.CollisionFree
    (hashedFor Message.signed env signature (world.history.map Prod.snd))
  once : env.SignsOnce signature
    (signingsFor Message.signed env verifier signature (world.history.map Prod.snd))

/-- The requests of mints that the hub at the address accepted. -/
def acceptedOn (env : Environment) (verifier : Address) (signature : Bytes)
    (world : World (Address × Message) (Address → State)) (address : Address) :
    List Request :=
  acceptedBy Message.signed env verifier signature (world.seenFrom address).history

variable {env : Environment} {verifier : Address} {signature : Bytes}
variable {initial : Address → State} {world : World (Address × Message) (Address → State)}

theorem flatMap_signed (history : List Message) : history.flatMap Message.signed =
    (mints history).map fun args => (args.signature, args.request) := by
  induction history with
  | nil => rfl
  | cons m history ih =>
      rw [List.flatMap_cons, ih]
      cases entrypoint : m.entrypoint with
      | setSBT args =>
          rw [mints_cons_some (mint?_eq_some.mpr entrypoint), Message.signed, entrypoint]
          rfl
      | _ => simp [Message.signed, entrypoint, mints, Message.mint?]

theorem count_nullifiers_le (nullifier : U256) (history : List Message) :
    ((history.flatMap Message.signed).filterMap fun entry => nullifier? entry.2).count
      nullifier ≤ (mintsWith nullifier history).length := by
  rw [flatMap_signed, List.count_filterMap, List.countP_map, mintsWith, usesOf,
    ← List.countP_eq_length_filter]
  apply List.countP_mono_left
  intro args _ uses
  simp only [Function.comp_apply, SetSBT.request, nullifier?, beq_iff_eq] at uses
  split at uses
  · cases uses
  · simpa using uses

theorem Deployed.same_request (run : Deployed env verifier signature initial world)
    {first second : Address} {request request' : Request}
    (accepted : request ∈ acceptedOn env verifier signature world first)
    (accepted' : request' ∈ acceptedOn env verifier signature world second) :
    request = request' :=
  acceptedBy_unique run.collisionFree run.once seenFrom_history_subset seenFrom_history_subset
    accepted accepted'

theorem Deployed.accepted_once (run : Deployed env verifier signature initial world)
    (address : Address)
    (nullified : ∀ request ∈ acceptedOn env verifier signature world address,
      ∃ nullifier, nullifier? request = some nullifier) :
    (acceptedOn env verifier signature world address).length ≤ 1 := by
  obtain ⟨deployer, verifier', balance, constructed⟩ := run.constructed address
  obtain ⟨calls, history, trace⟩ :=
    (Guarantee.deployments fun _ => contract_linear env).reached run.reached address
  have allCalls : (world.seenFrom address).history = calls := history
  refine @length_acceptedBy_le _ Message.signed env verifier signature _ U256 _ ?_ ?_
  · intro request accepted request' accepted'
    exact run.same_request accepted accepted'
  · intro request accepted
    obtain ⟨nullifier, uses⟩ := nullified request accepted
    refine ⟨nullifier?, nullifier, uses, (count_nullifiers_le nullifier _).trans ?_⟩
    have nonzero : nullifier ≠ 0 := by
      unfold nullifier? at uses
      split at uses
      · split at uses
        · cases uses
        · rw [← Option.some.inj uses]
          assumption
      · cases uses
    have start : NullifierMode env nullifier [] (initial address).records := by
      rw [constructed]
      exact nullifierMode_constructor _ _ _
    have mode : NullifierMode env nullifier ([] ++ calls) (world.state address).records :=
      nullifierMode_of_trace trace nonzero start
    rw [allCalls]
    exact mode.length_le

end Hub

/-- In every run of deployments a signature is accepted for one request only, whatever
deployments accept it.  Each of them does so at most once, unless the request is a mint
without a nullifier. -/
theorem signatures_replay_once :
    (∀ (env : Environment) (oracle : Address) (signature : Bytes)
      (initial : Address → HumanIDPayments.State)
      (world : World (Address × HumanIDPayments.Message) (Address → HumanIDPayments.State)),
      HumanIDPayments.Deployed env oracle signature initial world →
      (∀ first second,
        ∀ request ∈ HumanIDPayments.acceptedOn env oracle signature world first,
        ∀ request' ∈ HumanIDPayments.acceptedOn env oracle signature world second,
          request = request') ∧
      ∀ address, (HumanIDPayments.acceptedOn env oracle signature world address).length ≤ 1) ∧
    ∀ (env : Environment) (verifier : Address) (signature : Bytes)
      (initial : Address → Hub.State)
      (world : World (Address × Hub.Message) (Address → Hub.State)),
      Hub.Deployed env verifier signature initial world →
      (∀ first second, ∀ request ∈ Hub.acceptedOn env verifier signature world first,
        ∀ request' ∈ Hub.acceptedOn env verifier signature world second,
          request = request') ∧
      ∀ address, (∀ request ∈ Hub.acceptedOn env verifier signature world address,
          ∃ nullifier, Hub.nullifier? request = some nullifier) →
        (Hub.acceptedOn env verifier signature world address).length ≤ 1 := by
  constructor
  · intro env oracle signature initial world run
    exact ⟨fun _ _ _ accepted _ accepted' => run.same_request accepted accepted',
      run.accepted_once⟩
  · intro env verifier signature initial world run
    exact ⟨fun _ _ _ accepted _ accepted' => run.same_request accepted accepted',
      run.accepted_once⟩

namespace HumanIDPayments

/-- Two deployments with one oracle that accept one signature. -/
def AcceptedTwice (env : Environment) (oracle : Address) (signature : Bytes) : Prop :=
  ∃ initial world first second request, Deployed env oracle signature initial world ∧
    first ≠ second ∧ (initial first).oracleAddress = oracle ∧
    (initial second).oracleAddress = oracle ∧
    request ∈ acceptedOn env oracle signature world first ∧
    request ∈ acceptedOn env oracle signature world second

/-- A payment and its refund on each of two deployments. -/
def twoDeployments : World (Address × Message) (Address → State) :=
  run (deployments fun _ => contract sampleEnvironment)
    ([(1, samplePayment), (2, samplePayment), (1, sampleRefund), (2, sampleRefund)].map
      fun call => .call call .done .done)
    ⟨fun _ => sampleDeployed, []⟩

theorem deployed_twoDeployments {signature : Bytes}
    (collisionFree : sampleEnvironment.CollisionFree (hashedFor Message.signed
      sampleEnvironment signature (twoDeployments.history.map Prod.snd)))
    (once : sampleEnvironment.SignsOnce signature (signingsFor Message.signed
      sampleEnvironment sampleOracle signature (twoDeployments.history.map Prod.snd))) :
    Deployed sampleEnvironment sampleOracle signature (fun _ => sampleDeployed)
      twoDeployments where
  constructed _ := ⟨0xad, sampleOracle, 0, constructor_sample⟩
  reached := ⟨_, .done, .here .done _⟩
  collisionFree := collisionFree
  once := once

theorem deployed_refundSignature : Deployed sampleEnvironment sampleOracle refundSignature
    (fun _ => sampleDeployed) twoDeployments :=
  deployed_twoDeployments (by decide +kernel) (by decide +kernel)

theorem paymentSignature_acceptedTwice :
    AcceptedTwice sampleEnvironment sampleOracle paymentSignature :=
  ⟨_, twoDeployments, 1, 2, .payment 7 0xc0ffee 0x5e 1000,
    deployed_twoDeployments (by decide +kernel) (by decide +kernel), by decide, rfl, rfl,
    by decide +kernel, by decide +kernel⟩

theorem refundSignature_acceptedTwice :
    AcceptedTwice sampleEnvironment sampleOracle refundSignature :=
  ⟨_, twoDeployments, 1, 2, .refund 0xc0ffee 1000, deployed_refundSignature, by decide, rfl,
    rfl, by decide +kernel, by decide +kernel⟩

end HumanIDPayments

namespace Hub

/-- Two hubs with one verifier that accept one signature. -/
def AcceptedTwice (env : Environment) (verifier : Address) (signature : Bytes) : Prop :=
  ∃ initial world first second request, Deployed env verifier signature initial world ∧
    first ≠ second ∧ (initial first).verifier = verifier ∧
    (initial second).verifier = verifier ∧
    request ∈ acceptedOn env verifier signature world first ∧
    request ∈ acceptedOn env verifier signature world second

/-- One mint on each of two hubs. -/
def twoHubs : World (Address × Message) (Address → State) :=
  run (deployments fun _ => contract sampleEnvironment)
    ([(1, sampleMessage (.setSBT firstMint)), (2, sampleMessage (.setSBT firstMint))].map
      fun call => .call call .done .done)
    ⟨fun _ => constructor 0xad sampleVerifier 0, []⟩

theorem deployed_twoHubs : Deployed sampleEnvironment sampleVerifier firstMint.signature
    (fun _ => constructor 0xad sampleVerifier 0) twoHubs where
  constructed _ := ⟨0xad, sampleVerifier, 0, rfl⟩
  reached := ⟨_, .done, .here .done _⟩
  collisionFree := by decide +kernel
  once := by decide +kernel

theorem firstMint_acceptedTwice :
    AcceptedTwice sampleEnvironment sampleVerifier firstMint.signature :=
  ⟨_, twoHubs, 1, 2, firstMint.request, deployed_twoHubs, by decide, rfl, rfl,
    by decide +kernel, by decide +kernel⟩

end Hub

/-- Neither the signature of a payment, nor that of a refund, nor that of a mint is bound
to one deployment. -/
theorem signatures_not_bound :
    HumanIDPayments.AcceptedTwice HumanIDPayments.sampleEnvironment
        HumanIDPayments.sampleOracle HumanIDPayments.paymentSignature ∧
      HumanIDPayments.AcceptedTwice HumanIDPayments.sampleEnvironment
        HumanIDPayments.sampleOracle HumanIDPayments.refundSignature ∧
      Hub.AcceptedTwice Hub.sampleEnvironment Hub.sampleVerifier Hub.firstMint.signature :=
  ⟨HumanIDPayments.paymentSignature_acceptedTwice,
    HumanIDPayments.refundSignature_acceptedTwice, Hub.firstMint_acceptedTwice⟩

/-- Though both deployments accept them, each does so once. -/
theorem samples_accepted_once :
    (∀ address, (HumanIDPayments.acceptedOn HumanIDPayments.sampleEnvironment
      HumanIDPayments.sampleOracle HumanIDPayments.refundSignature
        HumanIDPayments.twoDeployments address).length ≤ 1) ∧
    (Hub.acceptedOn Hub.sampleEnvironment Hub.sampleVerifier Hub.firstMint.signature
      Hub.twoHubs 1).length ≤ 1 := by
  constructor
  · exact (signatures_replay_once.1 _ _ _ _ _ HumanIDPayments.deployed_refundSignature).2
  · apply (signatures_replay_once.2 _ _ _ _ _ Hub.deployed_twoHubs).2 1
    intro request accepted
    have only : Hub.acceptedOn Hub.sampleEnvironment Hub.sampleVerifier
        Hub.firstMint.signature Hub.twoHubs 1 = [Hub.firstMint.request] := by
      decide +kernel
    rw [only, List.mem_singleton] at accepted
    rw [accepted]
    exact ⟨1, rfl⟩

end IdHub
