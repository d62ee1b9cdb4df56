import IdHub.HumanIDPaymentsRefunds

/-!
# A batch is its payments one by one

`batchPay` credits the value of its message at once and then processes each
payment, where repeated calls of `pay` credit and process in turn.  Processing a
payment neither reads nor writes the balance, so the credits can be collected, and
they add up to the value because the sum of the amounts is checked.
-/

namespace IdHub

namespace HumanIDPayments

open CallTraces CheckedArithmetic Guards Reentrancy

structure BatchEntry where
  commitment : Bytes32
  service : Bytes32
  amount : U256
  timestamp : U256
  signature : WordBytes.Bytes

def totalAmount (entries : List BatchEntry) : ℕ :=
  (entries.map fun entry => entry.amount.toNat).sum

def payMessage (sender : Address) (blockTimestamp : U256) (entry : BatchEntry) : Message :=
  ⟨sender, entry.amount, blockTimestamp,
    .pay entry.commitment entry.service entry.timestamp entry.signature⟩

def batchMessage (sender : Address) (value blockTimestamp : U256)
    (entries : List BatchEntry) : Message :=
  ⟨sender, value, blockTimestamp,
    .batchPay (entries.map BatchEntry.commitment) (entries.map BatchEntry.service)
      (entries.map BatchEntry.amount) (entries.map BatchEntry.timestamp)
      (entries.map BatchEntry.signature)⟩

/-- The calls, made one after the other, all succeed and leave the contract in
`final`.  They send no ETH that a recipient could react to. -/
def Results (env : Environment) (calls : List Message) (world : World Message State)
    (final : State) : Prop :=
  ∃ after, execCalls (fun m => settle (contract env) m some) calls world = .ok after ∧
    after.state = final

def State.raise (s : State) (value : ℕ) : State :=
  { s with balance := s.balance + value }

/-- What `batchPay` does for one entry. -/
def processEntry (env : Environment) (m : Message) (entry : BatchEntry) (s : State) :
    Except Error State :=
  processPayment env m entry.commitment entry.service entry.amount entry.timestamp
    entry.signature s

variable {env : Environment} {m : Message} {s t : State}
variable {sender : Address} {value blockTimestamp : U256}

theorem sumAmounts_eq_ok {amounts : List U256} {start result : U256} :
    sumAmounts amounts start = .ok result ↔
      result.toNat = start.toNat + (amounts.map BitVec.toNat).sum := by
  induction amounts generalizing start with
  | nil =>
      simp only [sumAmounts, Except.ok.injEq, List.map_nil, List.sum_nil, add_zero]
      constructor
      · rintro rfl
        rfl
      · intro equal
        exact (BitVec.eq_of_toNat_eq equal).symm
  | cons amount amounts ih =>
      simp only [sumAmounts, bind_eq_ok, checkedAdd_eq_ok, ih, List.map_cons, List.sum_cons]
      constructor
      · rintro ⟨sum, ⟨-, sumEq⟩, resultEq⟩
        omega
      · intro resultEq
        have fits : start.toNat + amount.toNat < 2 ^ 256 := by
          have bound := result.isLt
          omega
        obtain ⟨sum, sumEq⟩ := exists_toNat_eq fits
        exact ⟨sum, ⟨fits, sumEq⟩, by omega⟩

/-- The checks that `_processPayment` makes. -/
structure Accepted (env : Environment) (m : Message) (entry : BatchEntry) (s : State) :
    Prop where
  positive : entry.amount ≠ 0
  fresh : (s.payments entry.commitment).amount = 0
  timely : checkTimestamp m entry.timestamp paymentWindow = .ok ()
  signed : checkOracle env
    [entry.amount, entry.commitment, entry.service, env.chainid, entry.timestamp]
    entry.signature s = .ok ()

def recordEntry (m : Message) (entry : BatchEntry) (s : State) : State :=
  (s.store ⟨entry.commitment, entry.service, m.timestamp, m.sender, entry.amount,
      false⟩).emit
    (.paymentReceived entry.commitment m.sender entry.amount entry.service m.timestamp)

theorem processEntry_eq_ok {entry : BatchEntry} :
    processEntry env m entry s = .ok t ↔ Accepted env m entry s ∧ t = recordEntry m entry s := by
  simp only [processEntry, processPayment, bind_eq_ok, revertIf_eq_ok, pure_eq_ok, ne_eq,
    not_not]
  constructor
  · rintro ⟨_, positive, _, fresh, _, timely, _, signed, rfl⟩
    exact ⟨⟨positive, fresh, timely, signed⟩, rfl⟩
  · rintro ⟨accepted, rfl⟩
    exact ⟨(), accepted.positive, (), accepted.fresh, (), accepted.timely, (),
      accepted.signed, rfl⟩

theorem processEntry_raise {entry : BatchEntry} {amount : ℕ} :
    processEntry env m entry (s.raise amount) = .ok t ↔
      ∃ paid, processEntry env m entry s = .ok paid ∧ t = paid.raise amount := by
  simp only [processEntry_eq_ok]
  constructor
  · rintro ⟨accepted, rfl⟩
    exact ⟨recordEntry m entry s, ⟨⟨accepted.positive, accepted.fresh, accepted.timely,
      accepted.signed⟩, rfl⟩, rfl⟩
  · rintro ⟨paid, ⟨accepted, rfl⟩, rfl⟩
    exact ⟨⟨accepted.positive, accepted.fresh, accepted.timely, accepted.signed⟩, rfl⟩

theorem execCalls_cons_eq_ok {entry : BatchEntry} {entries : List BatchEntry} :
    execCalls (processEntry env m) (entry :: entries) s = .ok t ↔
      ∃ paid, processEntry env m entry s = .ok paid ∧
        execCalls (processEntry env m) entries paid = .ok t := by
  rw [execCalls]
  cases processEntry env m entry s with
  | error reason => simp
  | ok paid => simp

theorem processEntries_raise {entries : List BatchEntry} {amount : ℕ} :
    execCalls (processEntry env m) entries (s.raise amount) = .ok t ↔
      ∃ paid, execCalls (processEntry env m) entries s = .ok paid ∧
        t = paid.raise amount := by
  induction entries generalizing s with
  | nil => simp [execCalls, eq_comm]
  | cons entry entries ih =>
      simp only [execCalls_cons_eq_ok, processEntry_raise]
      constructor
      · rintro ⟨-, ⟨first, processed, rfl⟩, rest⟩
        obtain ⟨paid, executed, same⟩ := ih.mp rest
        exact ⟨paid, ⟨first, processed, executed⟩, same⟩
      · rintro ⟨paid, ⟨first, processed, executed⟩, same⟩
        exact ⟨first.raise amount, ⟨first, processed, rfl⟩, ih.mpr ⟨paid, executed, same⟩⟩

theorem processPayments_eq {entries : List BatchEntry} :
    processPayments env m (entries.map BatchEntry.commitment)
        (entries.map BatchEntry.service) (entries.map BatchEntry.amount)
        (entries.map BatchEntry.timestamp) (entries.map BatchEntry.signature) s =
      execCalls (processEntry env m) entries s := by
  induction entries generalizing s with
  | nil => rfl
  | cons entry entries ih =>
      simp only [List.map_cons, processPayments, execCalls, processEntry]
      cases processPayment env m entry.commitment entry.service entry.amount
          entry.timestamp entry.signature s with
      | error reason => rfl
      | ok paid => exact ih

theorem results_nil {world : World Message State} {final : State} :
    Results env [] world final ↔ world.state = final := by
  simp [Results, execCalls]

/-- A call that ends without sending ETH, and then the others. -/
theorem results_cons {calls : List Message} {world : World Message State} {final : State}
    (ends : ∀ phase, contract env m world.state = .ok phase → ∃ t, phase = .done t) :
    Results env (m :: calls) world final ↔
      ∃ t, contract env m world.state = .ok (.done t) ∧
        Results env calls (world.enter m t) final := by
  simp only [Results, execCalls, settle]
  cases called : contract env m world.state with
  | error reason => simp
  | ok phase =>
      obtain ⟨t, rfl⟩ := ends phase called
      simp

theorem pay_eq_ok {entry : BatchEntry} {phase : Phase Error State} :
    contract env (payMessage m.sender m.timestamp entry) s = .ok phase ↔
      ∃ paid, processEntry env m entry s = .ok paid ∧
        phase = .done (paid.raise entry.amount.toNat) := by
  have credited : contract env (payMessage m.sender m.timestamp entry) s =
      (do
        let paid ← processEntry env m entry (s.raise entry.amount.toNat)
        return .done paid) := rfl
  simp only [credited, bind_eq_ok, pure_eq_ok, processEntry_raise]
  constructor
  · rintro ⟨-, ⟨paid, processed, rfl⟩, rfl⟩
    exact ⟨paid, processed, rfl⟩
  · rintro ⟨paid, processed, rfl⟩
    exact ⟨_, ⟨paid, processed, rfl⟩, rfl⟩

theorem raise_raise (first second : ℕ) :
    (s.raise first).raise second = s.raise (first + second) := by
  simp [State.raise, Nat.add_assoc]

/-- The credits of repeated calls of `pay` can be collected at the end. -/
theorem results_pays {entries : List BatchEntry} {world : World Message State}
    {final : State} :
    Results env (entries.map (payMessage m.sender m.timestamp)) world final ↔
      ∃ paid, execCalls (processEntry env m) entries world.state = .ok paid ∧
        final = paid.raise (totalAmount entries) := by
  induction entries generalizing world with
  | nil => simp [results_nil, execCalls, totalAmount, State.raise, eq_comm]
  | cons entry entries ih =>
      have ends : ∀ phase, contract env (payMessage m.sender m.timestamp entry) world.state =
          .ok phase → ∃ t, phase = .done t := by
        intro phase called
        obtain ⟨paid, -, rfl⟩ := pay_eq_ok.mp called
        exact ⟨_, rfl⟩
      have total : totalAmount (entry :: entries) =
          entry.amount.toNat + totalAmount entries := rfl
      simp only [List.map_cons, results_cons ends, ih, pay_eq_ok, execCalls_cons_eq_ok,
        World.enter_state, Phase.done.injEq]
      constructor
      · rintro ⟨-, ⟨first, processed, rfl⟩, last, executed, rfl⟩
        obtain ⟨paid, rest, rfl⟩ := processEntries_raise.mp executed
        exact ⟨paid, ⟨first, processed, rest⟩, by rw [raise_raise, total]⟩
      · rintro ⟨paid, ⟨first, processed, rest⟩, rfl⟩
        refine ⟨_, ⟨first, processed, rfl⟩, paid.raise entry.amount.toNat, ?_, ?_⟩
        · exact processEntries_raise.mpr ⟨paid, rest, rfl⟩
        · rw [raise_raise, total]

theorem batchPay_eq_ok {entries : List BatchEntry} (nonempty : entries ≠ [])
    {phase : Phase Error State} :
    batchPay env m (entries.map BatchEntry.commitment) (entries.map BatchEntry.service)
        (entries.map BatchEntry.amount) (entries.map BatchEntry.timestamp)
        (entries.map BatchEntry.signature) s = .ok phase ↔
      m.value.toNat = totalAmount entries ∧
        ∃ paid, execCalls (processEntry env m) entries s = .ok paid ∧
          phase = .done (paid.raise m.value.toNat) := by
  have credited : s.credit m.value = s.raise m.value.toNat := rfl
  have lengths : (entries.map BatchEntry.commitment).length ≠ 0 := by simpa using nonempty
  simp only [batchPay, bind_eq_ok, revertIf_eq_ok, pure_eq_ok, sumAmounts_eq_ok,
    processPayments_eq, credited, processEntries_raise]
  constructor
  · rintro ⟨_, -, _, -, sum, sumEq, _, same, _, ⟨paid, executed, rfl⟩, rfl⟩
    have equal : m.value = sum := by simpa using same
    refine ⟨?_, paid, executed, rfl⟩
    rw [equal, sumEq]
    simp [totalAmount, Function.comp_def]
  · rintro ⟨equal, paid, executed, rfl⟩
    refine ⟨(), lengths, (), by simp, m.value, ?_, (), by simp, _,
      ⟨paid, executed, rfl⟩, rfl⟩
    rw [equal]
    simp [totalAmount, Function.comp_def]

/-- A batch succeeds if and only if its value is the sum of its amounts and the
payments succeed one by one, and then it leaves the contract in the same state,
with its payments, its balance and its events.  A batch that fails changes
nothing. -/
theorem batchPay_results {entries : List BatchEntry} (nonempty : entries ≠ [])
    (world : World Message State) :
    (∀ final, Results env [batchMessage sender value blockTimestamp entries] world final ↔
      value.toNat = totalAmount entries ∧
        Results env (entries.map (payMessage sender blockTimestamp)) world final) ∧
    ((∀ final,
        ¬ Results env [batchMessage sender value blockTimestamp entries] world final) →
      transact (contract env) world
        (.call (batchMessage sender value blockTimestamp entries) .done .done) = world) := by
  have batched : ∀ {phase},
      contract env (batchMessage sender value blockTimestamp entries) world.state =
        .ok phase ↔ value.toNat = totalAmount entries ∧
          ∃ paid, execCalls (processEntry env
              (batchMessage sender value blockTimestamp entries)) entries world.state =
                .ok paid ∧ phase = .done (paid.raise value.toNat) :=
    batchPay_eq_ok nonempty
  have ends : ∀ phase, contract env (batchMessage sender value blockTimestamp entries)
      world.state = .ok phase → ∃ t, phase = .done t := by
    intro phase called
    obtain ⟨-, paid, -, rfl⟩ := batched.mp called
    exact ⟨_, rfl⟩
  constructor
  · intro final
    have pays : Results env (entries.map (payMessage sender blockTimestamp)) world final ↔
        ∃ paid, execCalls (processEntry env
            (batchMessage sender value blockTimestamp entries)) entries world.state =
              .ok paid ∧ final = paid.raise (totalAmount entries) :=
      results_pays (m := batchMessage sender value blockTimestamp entries)
    simp only [results_cons ends, results_nil, batched, pays,
      World.enter_state, Phase.done.injEq]
    constructor
    · rintro ⟨-, ⟨equal, paid, executed, rfl⟩, rfl⟩
      exact ⟨equal, paid, executed, by rw [equal]⟩
    · rintro ⟨equal, paid, executed, rfl⟩
      exact ⟨_, ⟨equal, paid, executed, rfl⟩, by rw [equal]⟩
  · intro fails
    cases called : contract env (batchMessage sender value blockTimestamp entries)
        world.state with
    | error reason => simp [transact, exec, settle, called]
    | ok phase =>
        obtain ⟨t, rfl⟩ := ends phase called
        exact absurd ((results_cons ends).mpr ⟨t, called, results_nil.mpr rfl⟩) (fails t)

section Sample

/-- Two payments for one service, with different commitments, amounts and times. -/
def sampleBatch : List BatchEntry :=
  [⟨0xc0ffee, 0x5e, 7, 1000, paymentSignature⟩, ⟨0xbeef, 0x5e, 5, 900, otherPaymentSignature⟩]

/-- The batch succeeds with the sum of the amounts, and not with its entries twice. -/
example :
    (execCalls (fun m => settle (contract sampleEnvironment) m some)
        [batchMessage 0xba 12 1000 sampleBatch] ⟨sampleDeployed, []⟩).isOk = true ∧
      (execCalls (fun m => settle (contract sampleEnvironment) m some)
        [batchMessage 0xba 24 1000 (sampleBatch ++ sampleBatch)]
        ⟨sampleDeployed, []⟩).isOk = false := by
  decide +kernel

theorem sampleBatch_results :
    (∀ final, Results sampleEnvironment [batchMessage 0xba 12 1000 sampleBatch]
        ⟨sampleDeployed, []⟩ final ↔
      (12 : U256).toNat = totalAmount sampleBatch ∧
        Results sampleEnvironment (sampleBatch.map (payMessage 0xba 1000))
          ⟨sampleDeployed, []⟩ final) ∧
    ((∀ final, ¬ Results sampleEnvironment [batchMessage 0xba 12 1000 sampleBatch]
        ⟨sampleDeployed, []⟩ final) →
      transact (contract sampleEnvironment) ⟨sampleDeployed, []⟩
        (.call (batchMessage 0xba 12 1000 sampleBatch) .done .done) = ⟨sampleDeployed, []⟩) :=
  batchPay_results (List.cons_ne_nil _ _) _

end Sample

end HumanIDPayments

end IdHub
