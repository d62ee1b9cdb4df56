import IdHub.HubRegistry
import IdHub.RevertData

/-!
# The batch contract of the hub

`HubBatch.sol` calls `setSBT` of the hub once for each entry of a batch, with no ETH.
`setSBTBatch` catches the failures of its entries and `setSBTBatchStrict` lets the
first one revert the batch.  The hub is the state here; the batch contract stores
nothing.  What a receiver's hook does to the hub, or reverts with, is any function of
the hub's state.
-/

namespace IdHub

/-- The revert data of an error of the hub. -/
def Hub.Error.data : Hub.Error → WordBytes.Bytes
  | .message text => RevertData.ofReason text.toUTF8.toList
  | .empty => []

namespace HubBatch

open CallTraces Guards Hub Reentrancy WordBytes

/-- What `onERC721Received` does: return its selector, return something else, or
revert. -/
inductive HookResult where
  | accepts (hub : State)
  | refuses
  | reverts (data : Bytes)

/-- The hook of each receiver, for a token and the hub's state. -/
abbrev Hooks := Address → U256 → State → HookResult

/-- The call of `setSBT` with no ETH from the batch contract.  The hub passes on what
a hook reverts with, if it is not empty. -/
def callSetSBT (env : Environment) (hooks : Hooks) (this : Address) (args : SetSBT)
    (hub : State) : Except Bytes State :=
  match setSBT env ⟨this, 0, .setSBT args⟩ args hub with
  | .error error => .error error.data
  | .ok (.done final) => .ok final
  | .ok (.external minted onFail resume) =>
    match hooks args.receiver minted.tokens.tokenIds minted with
    | .refuses => .error onFail.data
    | .reverts data => .error (if data = [] then onFail.data else data)
    | .accepts returned => (resume returned).mapError Error.data

structure Result where
  success : Bool
  message : Bytes
  errorCode : U256
  lowLevelData : Bytes
  deriving DecidableEq

inductive Event where
  | setSBTSuccess (index : ℕ) (circuitId : Bytes32) (sbtReceiver : U256)
  | setSBTFailed (index : ℕ) (circuitId : Bytes32) (reason : Bytes)
  | setSBTPanic (index : ℕ) (circuitId : Bytes32) (errorCode : U256)
  | setSBTLowLevelError (index : ℕ) (circuitId : Bytes32) (errorData : Bytes)
  deriving DecidableEq

structure BatchArguments where
  circuitIds : List Bytes32
  sbtRecievers : List U256
  expirations : List U256
  customFees : List U256
  nullifiers : List U256
  publicValues : List (List U256)
  signatures : List Bytes

/-- The entries at the positions that all arrays have. -/
def entriesOf : List Bytes32 → List U256 → List U256 → List U256 → List U256 →
    List (List U256) → List Bytes → List SetSBT
  | circuitId :: circuitIds, sbtReciever :: sbtRecievers, expiration :: expirations,
      customFee :: customFees, nullifier :: nullifiers, values :: publicValues,
      signature :: signatures =>
    ⟨circuitId, sbtReciever, expiration, customFee, nullifier, values, signature⟩ ::
      entriesOf circuitIds sbtRecievers expirations customFees nullifiers publicValues
        signatures
  | _, _, _, _, _, _, _ => []

def BatchArguments.entries (args : BatchArguments) : List SetSBT :=
  entriesOf args.circuitIds args.sbtRecievers args.expirations args.customFees
    args.nullifiers args.publicValues args.signatures

/-- The batch under way: the hub, and what the batch contract returns and emits. -/
structure Batch where
  hub : State
  results : List Result
  events : List Event

def Batch.record (batch : Batch) (hub : State) (result : Result) (event : Event) : Batch :=
  ⟨hub, batch.results ++ [result], batch.events ++ [event]⟩

/-- One pass of the loop of `setSBTBatch`. -/
def tryEntry (env : Environment) (hooks : Hooks) (this : Address) (index : ℕ)
    (entry : SetSBT) (batch : Batch) : Batch :=
  match callSetSBT env hooks this entry batch.hub with
  | .ok hub =>
    batch.record hub ⟨true, [], 0, []⟩
      (.setSBTSuccess index entry.circuitId entry.sbtReciever)
  | .error data =>
    match RevertData.clause data with
    | .error reason =>
      batch.record batch.hub ⟨false, reason, 0, []⟩
        (.setSBTFailed index entry.circuitId reason)
    | .panic errorCode =>
      batch.record batch.hub ⟨false, [], errorCode, []⟩
        (.setSBTPanic index entry.circuitId errorCode)
    | .lowLevel lowLevelData =>
      batch.record batch.hub ⟨false, [], 0, lowLevelData⟩
        (.setSBTLowLevelError index entry.circuitId lowLevelData)

def tryEntries (env : Environment) (hooks : Hooks) (this : Address) :
    ℕ → List SetSBT → Batch → Batch
  | _, [], batch => batch
  | index, entry :: entries, batch =>
    tryEntries env hooks this (index + 1) entries (tryEntry env hooks this index entry batch)

def checkLength {α : Type} (length : ℕ) (array : List α) : Except Bytes Unit :=
  require (length = array.length) (Error.message "Length mismatch").data

def checkLengths (args : BatchArguments) : Except Bytes Unit := do
  let length := args.circuitIds.length
  require (length ≤ 100) (Error.message "Batch too large").data
  checkLength length args.sbtRecievers
  checkLength length args.expirations
  checkLength length args.customFees
  checkLength length args.nullifiers
  checkLength length args.publicValues
  checkLength length args.signatures

def setSBTBatch (env : Environment) (hooks : Hooks) (this : Address)
    (args : BatchArguments) (hub : State) : Except Bytes Batch := do
  checkLengths args
  return tryEntries env hooks this 0 args.entries ⟨hub, [], []⟩

def setSBTBatchStrict (env : Environment) (hooks : Hooks) (this : Address)
    (args : BatchArguments) (hub : State) : Except Bytes State := do
  checkLengths args
  execCalls (callSetSBT env hooks this) args.entries hub

/-- The arrays have one length, and it is at most 100. -/
structure BatchArguments.WellFormed (args : BatchArguments) : Prop where
  small : args.circuitIds.length ≤ 100
  sbtRecievers : args.sbtRecievers.length = args.circuitIds.length
  expirations : args.expirations.length = args.circuitIds.length
  customFees : args.customFees.length = args.circuitIds.length
  nullifiers : args.nullifiers.length = args.circuitIds.length
  publicValues : args.publicValues.length = args.circuitIds.length
  signatures : args.signatures.length = args.circuitIds.length

variable {env : Environment} {hooks : Hooks} {this : Address} {args : BatchArguments}
variable {hub : State}

theorem checkLengths_eq_ok : checkLengths args = .ok () ↔ args.WellFormed := by
  simp only [checkLengths, checkLength, bind_eq_ok, require_eq_ok]
  constructor
  · rintro ⟨-, small, -, first, -, second, -, third, -, fourth, -, fifth, sixth⟩
    exact ⟨small, first.symm, second.symm, third.symm, fourth.symm, fifth.symm, sixth.symm⟩
  · intro wellFormed
    exact ⟨(), wellFormed.small, (), wellFormed.sbtRecievers.symm, (),
      wellFormed.expirations.symm, (), wellFormed.customFees.symm, (),
      wellFormed.nullifiers.symm, (), wellFormed.publicValues.symm,
      wellFormed.signatures.symm⟩

theorem length_entries (wellFormed : args.WellFormed) :
    args.entries.length = args.circuitIds.length := by
  obtain ⟨circuitIds, sbtRecievers, expirations, customFees, nullifiers, publicValues,
    signatures⟩ := args
  obtain ⟨-, second, third, fourth, fifth, sixth, seventh⟩ := wellFormed
  simp only at second third fourth fifth sixth seventh
  simp only [BatchArguments.entries]
  induction circuitIds generalizing sbtRecievers expirations customFees nullifiers
    publicValues signatures with
  | nil => rfl
  | cons circuitId circuitIds ih =>
      obtain ⟨sbtReciever, sbtRecievers, rfl⟩ := List.exists_of_length_succ _ second
      obtain ⟨expiration, expirations, rfl⟩ := List.exists_of_length_succ _ third
      obtain ⟨customFee, customFees, rfl⟩ := List.exists_of_length_succ _ fourth
      obtain ⟨nullifier, nullifiers, rfl⟩ := List.exists_of_length_succ _ fifth
      obtain ⟨values, publicValues, rfl⟩ := List.exists_of_length_succ _ sixth
      obtain ⟨signature, signatures, rfl⟩ := List.exists_of_length_succ _ seventh
      have rest := ih sbtRecievers expirations customFees nullifiers publicValues signatures
        (Nat.succ.inj second) (Nat.succ.inj third) (Nat.succ.inj fourth) (Nat.succ.inj fifth)
        (Nat.succ.inj sixth) (Nat.succ.inj seventh)
      rw [entriesOf, List.length_cons, List.length_cons, rest]

/-- One pass of the loop: the hub is left as the call leaves it, and a result says
whether it succeeded. -/
theorem tryEntry_spec (index : ℕ) (entry : SetSBT) (batch : Batch) :
    (tryEntry env hooks this index entry batch).hub =
        attempt (callSetSBT env hooks this) batch.hub entry ∧
      ∃ result, (tryEntry env hooks this index entry batch).results =
          batch.results ++ [result] ∧
        result.success = (callSetSBT env hooks this entry batch.hub).isOk := by
  unfold tryEntry
  cases called : callSetSBT env hooks this entry batch.hub with
  | ok final => exact ⟨(attempt_ok called).symm, _, rfl, rfl⟩
  | error data =>
      have unchanged := attempt_error called
      dsimp only
      cases RevertData.clause data with
      | error reason => exact ⟨unchanged.symm, _, rfl, rfl⟩
      | panic errorCode => exact ⟨unchanged.symm, _, rfl, rfl⟩
      | lowLevel lowLevelData => exact ⟨unchanged.symm, _, rfl, rfl⟩

theorem tryEntries_spec (index : ℕ) (entries : List SetSBT) (batch : Batch) :
    (tryEntries env hooks this index entries batch).hub =
        attemptAll (callSetSBT env hooks this) entries batch.hub ∧
      (tryEntries env hooks this index entries batch).results.map Result.success =
        batch.results.map Result.success ++
          outcomes (callSetSBT env hooks this) entries batch.hub := by
  induction entries generalizing index batch with
  | nil => simp [tryEntries, attemptAll, outcomes]
  | cons entry entries ih =>
      obtain ⟨hub, result, results, success⟩ :
          (tryEntry env hooks this index entry batch).hub =
              attempt (callSetSBT env hooks this) batch.hub entry ∧
            ∃ result, (tryEntry env hooks this index entry batch).results =
                batch.results ++ [result] ∧
              result.success = (callSetSBT env hooks this entry batch.hub).isOk :=
        tryEntry_spec index entry batch
      obtain ⟨hubs, successes⟩ := ih (index + 1) (tryEntry env hooks this index entry batch)
      rw [tryEntries]
      constructor
      · rw [hubs, hub]
        rfl
      · rw [successes, results, hub, List.map_append, outcomes, List.append_assoc]
        simp [success]

/-- A batch of well-formed arguments never reverts.  It leaves the hub as its entries
do one after the other, without those that fail, and says for each entry whether it
succeeded at its turn.  The strict variant does the same if all entries succeed, and
reverts otherwise. -/
theorem setSBTBatch_isolates (wellFormed : args.WellFormed) :
    ∃ batch, setSBTBatch env hooks this args hub = .ok batch ∧
      batch.hub = attemptAll (callSetSBT env hooks this) args.entries hub ∧
      batch.results.length = args.circuitIds.length ∧
      (∀ index entry, args.entries[index]? = some entry →
        ∃ result, batch.results[index]? = some result ∧
          (result.success = true ↔ ∃ after, callSetSBT env hooks this entry
            (attemptAll (callSetSBT env hooks this) (args.entries.take index) hub) =
              .ok after)) ∧
      ((∀ result ∈ batch.results, result.success = true) →
        setSBTBatchStrict env hooks this args hub = .ok batch.hub) ∧
      (¬ (∀ result ∈ batch.results, result.success = true) →
        ∃ data, setSBTBatchStrict env hooks this args hub = .error data) := by
  have checked := checkLengths_eq_ok.mpr wellFormed
  set batch := tryEntries env hooks this 0 args.entries ⟨hub, [], []⟩ with batchEq
  obtain ⟨hubEq, successes⟩ : batch.hub =
      attemptAll (callSetSBT env hooks this) args.entries hub ∧
      batch.results.map Result.success =
        outcomes (callSetSBT env hooks this) args.entries hub :=
    tryEntries_spec 0 args.entries ⟨hub, [], []⟩
  have strict : setSBTBatchStrict env hooks this args hub =
      execCalls (callSetSBT env hooks this) args.entries hub := by
    rw [setSBTBatchStrict, checked]
    rfl
  have allSucceed : (∀ result ∈ batch.results, result.success = true) ↔
      ∀ outcome ∈ outcomes (callSetSBT env hooks this) args.entries hub, outcome = true := by
    rw [← successes]
    simp
  refine ⟨batch, ?_, hubEq, ?_, ?_, ?_, ?_⟩
  · rw [setSBTBatch, checked, batchEq]
    rfl
  · have lengths := congrArg List.length successes
    rw [List.length_map, length_outcomes, length_entries wellFormed] at lengths
    exact lengths
  · intro index entry found
    have atIndex := congrArg (fun successes => successes[index]?) successes
    simp only [List.getElem?_map, outcomes_getElem?, found, Option.map_some,
      Option.map_eq_some_iff] at atIndex
    obtain ⟨result, atResult, success⟩ := atIndex
    exact ⟨result, atResult, by rw [success, isOk_iff]⟩
  · intro succeed
    rw [strict, hubEq]
    exact execCalls_eq_attemptAll (allSucceed.mp succeed)
  · intro fails
    rw [strict]
    apply execCalls_error
    rw [allSucceed] at fails
    simpa using fails

/-- The reason of an entry's revert is what its result and its event say. -/
theorem tryEntry_message {index : ℕ} {entry : SetSBT} {batch : Batch} {text : String}
    (fails : callSetSBT env hooks this entry batch.hub = .error (Error.message text).data)
    (short : text.toUTF8.toList.length < 2 ^ 64) :
    tryEntry env hooks this index entry batch =
      batch.record batch.hub ⟨false, text.toUTF8.toList, 0, []⟩
        (.setSBTFailed index entry.circuitId text.toUTF8.toList) := by
  have caught : RevertData.clause (Error.message text).data =
      .error text.toUTF8.toList := RevertData.clause_ofReason short
  simp only [tryEntry, fails, caught]

theorem results_kept (index : ℕ) (entries : List SetSBT) (batch : Batch) :
    batch.results <+: (tryEntries env hooks this index entries batch).results := by
  induction entries generalizing index batch with
  | nil => exact List.prefix_rfl
  | cons entry entries ih =>
      obtain ⟨-, result, results, -⟩ : (tryEntry env hooks this index entry batch).hub =
              attempt (callSetSBT env hooks this) batch.hub entry ∧
            ∃ result, (tryEntry env hooks this index entry batch).results =
                batch.results ++ [result] ∧
              result.success = (callSetSBT env hooks this entry batch.hub).isOk :=
        tryEntry_spec index entry batch
      have appended : batch.results <+: (tryEntry env hooks this index entry batch).results := by
        rw [results]
        exact List.prefix_append _ _
      rw [tryEntries]
      exact appended.trans (ih _ _)

theorem tryEntries_message {entries : List SetSBT} {entry : SetSBT} {text : String}
    {batch : Batch} {index position : ℕ} (found : entries[position]? = some entry)
    (fails : callSetSBT env hooks this entry
      (attemptAll (callSetSBT env hooks this) (entries.take position) batch.hub) =
        .error (Error.message text).data)
    (short : text.toUTF8.toList.length < 2 ^ 64) :
    (tryEntries env hooks this index entries batch).results[batch.results.length + position]? =
      some ⟨false, text.toUTF8.toList, 0, []⟩ := by
  induction entries generalizing index position batch with
  | nil => cases found
  | cons first entries ih =>
      rw [tryEntries]
      cases position with
      | zero =>
          obtain rfl : first = entry := Option.some.inj found
          obtain ⟨more, results⟩ := @results_kept env hooks this (index + 1) entries
            (tryEntry env hooks this index first batch)
          rw [← results, tryEntry_message fails short]
          simp [Batch.record]
      | succ position =>
          obtain ⟨hub, result, appended, -⟩ :
              (tryEntry env hooks this index first batch).hub =
                  attempt (callSetSBT env hooks this) batch.hub first ∧
                ∃ result, (tryEntry env hooks this index first batch).results =
                    batch.results ++ [result] ∧
                  result.success = (callSetSBT env hooks this first batch.hub).isOk :=
            tryEntry_spec index first batch
          have result := @ih (tryEntry env hooks this index first batch) (index + 1) position
            found (by rw [hub]; exact fails)
          rw [appended, List.length_append, List.length_singleton] at result
          rw [← result]
          congr 1
          omega

/-- The result of an entry that reverts with a reason at its turn says this reason, wherever
the entry stands in the batch. -/
theorem setSBTBatch_reasons {batch : Batch}
    (completed : setSBTBatch env hooks this args hub = .ok batch) {index : ℕ} {entry : SetSBT}
    (found : args.entries[index]? = some entry) {text : String}
    (fails : callSetSBT env hooks this entry
      (attemptAll (callSetSBT env hooks this) (args.entries.take index) hub) =
        .error (Error.message text).data)
    (short : text.toUTF8.toList.length < 2 ^ 64) :
    batch.results[index]? = some ⟨false, text.toUTF8.toList, 0, []⟩ := by
  simp only [setSBTBatch, bind_eq_ok, pure_eq_ok] at completed
  obtain ⟨-, -, rfl⟩ := completed
  have result := @tryEntries_message env hooks this _ _ _ ⟨hub, [], []⟩ 0 _ found fails short
  simpa using result

/-- A batch sends no ETH along, so no entry with a fee succeeds in it. -/
theorem setSBTBatch_fees {batch : Batch}
    (completed : setSBTBatch env hooks this args hub = .ok batch) {index : ℕ} {entry : SetSBT}
    (found : args.entries[index]? = some entry) (fee : entry.customFee ≠ 0) :
    batch.results[index]? = some ⟨false, "Missing Fee".toUTF8.toList, 0, []⟩ := by
  have unpaid : ¬ (0 : U256) = entry.customFee := fun equal => fee equal.symm
  refine setSBTBatch_reasons completed found ?_ (by decide +kernel)
  have fails (turn : State) : setSBT env ⟨this, 0, .setSBT entry⟩ entry turn =
      .error (.message "Missing Fee") := by
    simp only [setSBT, checkSetSBT, require, if_neg unpaid]
    rfl
  rw [callSetSBT, fails]

section Scripts

/-- The hooks change the hub by calling it, in any way. -/
def Hooks.ByCalls (env : Environment) (hooks : Hooks) : Prop :=
  ∀ receiver tokenId minted returned, hooks receiver tokenId minted = .accepts returned →
    ∃ script after, exec (contract env) script ⟨minted, []⟩ = some after ∧
      after.state = returned

/-- A call that succeeds is a call of a script. -/
theorem settle_of_callSetSBT (byCalls : hooks.ByCalls env) {entry : SetSBT} {final : State}
    (called : callSetSBT env hooks this entry hub = .ok final) (history : List Message) :
    ∃ callee after, settle (contract env) ⟨this, 0, .setSBT entry⟩ (exec (contract env) callee)
        ⟨hub, history⟩ = .ok after ∧ after.state = final := by
  have entered : contract env ⟨this, 0, .setSBT entry⟩ hub =
      setSBT env ⟨this, 0, .setSBT entry⟩ entry hub := rfl
  unfold callSetSBT at called
  split at called
  · cases called
  · next ended phase =>
      obtain ⟨-, -, tokens, external⟩ := setSBT_ok phase
      cases external
  · next minted onFail resume phase =>
      split at called
      · cases called
      · cases called
      · next returned accepted =>
          obtain ⟨callee, after, executed, rfl⟩ := byCalls _ _ _ _ accepted
          have resumed : resume after.state = .ok final := mapError_eq_ok.mp called
          obtain ⟨after', executed', state⟩ : ∃ after', exec (contract env) callee
              ⟨minted, history ++ [⟨this, 0, .setSBT entry⟩]⟩ = some after' ∧
                after'.state = after.state := exec_of_state (by rfl) executed
          refine ⟨callee, after'.resumed final, ?_, rfl⟩
          apply settle_eq_ok.mpr
          refine .inr ⟨minted, onFail, resume, after', final, entered.trans phase, executed',
            ?_, rfl⟩
          rw [state, resumed]

/-- A batch is a script like any other, so what holds in every world that callers
reach holds after it. -/
theorem exec_of_attemptAll (byCalls : hooks.ByCalls env) (entries : List SetSBT)
    (world : World Message State) :
    ∃ script after, exec (contract env) script world = some after ∧
      after.state = attemptAll (callSetSBT env hooks this) entries world.state := by
  induction entries generalizing world with
  | nil => exact ⟨.done, world, rfl, rfl⟩
  | cons entry entries ih =>
      cases called : callSetSBT env hooks this entry world.state with
      | error data =>
          obtain ⟨script, after, executed, state⟩ := ih world
          refine ⟨script, after, executed, ?_⟩
          rw [state, attemptAll, attemptAll, List.foldl_cons, attempt_error called]
      | ok final =>
          obtain ⟨callee, middle, settled, rfl⟩ :=
            settle_of_callSetSBT byCalls called world.history
          obtain ⟨script, after, executed, state⟩ := ih middle
          refine ⟨.call ⟨this, 0, .setSBT entry⟩ callee script, after, ?_, ?_⟩
          · rw [exec, settled]
            exact executed
          · rw [state, attemptAll, attemptAll, List.foldl_cons, attempt_ok called]

end Scripts

section Sample

/-- Every receiver accepts its tokens. -/
def acceptAll : Hooks := fun _ _ minted => .accepts minted

def batchOf (entries : List SetSBT) : BatchArguments where
  circuitIds := entries.map SetSBT.circuitId
  sbtRecievers := entries.map SetSBT.sbtReciever
  expirations := entries.map SetSBT.expiration
  customFees := entries.map SetSBT.customFee
  nullifiers := entries.map SetSBT.nullifier
  publicValues := entries.map SetSBT.publicValues
  signatures := entries.map SetSBT.signature

/-- The second entry repeats the nullifier of the first. -/
def sampleBatch : BatchArguments :=
  batchOf [firstMint, firstMint, otherMint]

def sampleHub : State := constructor 0xad sampleVerifier 0

example : (setSBTBatch sampleEnvironment acceptAll 0xba (batchOf [firstMint, paidMint])
    sampleHub).toOption.map (fun batch => batch.results) =
      some [⟨true, [], 0, []⟩, ⟨false, "Missing Fee".toUTF8.toList, 0, []⟩] := by
  decide +kernel

example : (setSBTBatch sampleEnvironment acceptAll 0xba sampleBatch sampleHub).toOption.map
    (fun batch => batch.results.map Result.success) = some [true, false, true] := by
  decide +kernel

theorem wellFormed_sampleBatch : sampleBatch.WellFormed :=
  ⟨by decide, rfl, rfl, rfl, rfl, rfl, rfl⟩

theorem sampleBatch_isolates :
    ∃ batch, setSBTBatch sampleEnvironment acceptAll 0xba sampleBatch sampleHub = .ok batch ∧
      batch.hub = attemptAll (callSetSBT sampleEnvironment acceptAll 0xba)
        sampleBatch.entries sampleHub ∧
      batch.results.length = sampleBatch.circuitIds.length ∧
      (∀ index entry, sampleBatch.entries[index]? = some entry →
        ∃ result, batch.results[index]? = some result ∧
          (result.success = true ↔ ∃ after, callSetSBT sampleEnvironment acceptAll 0xba entry
            (attemptAll (callSetSBT sampleEnvironment acceptAll 0xba)
              (sampleBatch.entries.take index) sampleHub) = .ok after)) ∧
      ((∀ result ∈ batch.results, result.success = true) →
        setSBTBatchStrict sampleEnvironment acceptAll 0xba sampleBatch sampleHub =
          .ok batch.hub) ∧
      (¬ (∀ result ∈ batch.results, result.success = true) →
        ∃ data, setSBTBatchStrict sampleEnvironment acceptAll 0xba sampleBatch sampleHub =
          .error data) :=
  setSBTBatch_isolates wellFormed_sampleBatch

end Sample

end HubBatch

end IdHub
