import IdHub.SuiSbtOwnership

/-!
# Verifying Sui SBTs

`contracts/sui/sbt-verifier/sources/sbt_verifier.move` over the runs of the SBT module.
The tokens of a run are its mints, numbered from one, each revoked if a later call revoked
it.  So a token is verified at a time exactly if its mint names the circuit and the action,
the time is not past its expiry and nothing has revoked it since; and once it is not
verified, it never is again.
-/

namespace IdHub

namespace SuiSbt

open CallTraces CheckedArithmetic Guards ObjectStore

/-- The shared `Clock` object, with its time in milliseconds. -/
structure Clock where
  timestampMs : U64

structure VerificationResult where
  isValid : Bool
  recipient : Address
  circuitId : U256
  actionId : U256
  expiry : U64
  isExpired : Bool
  isRevoked : Bool
  deriving DecidableEq

namespace Verifier

def ESBTExpired : ℕ := 1
def ESBTRevoked : ℕ := 2
def EInvalidCircuit : ℕ := 3
def EInvalidAction : ℕ := 4

def isSbtExpired (sbt : SoulBoundToken) (clock : Clock) : Bool :=
  let currentTimeS := clock.timestampMs / 1000
  sbt.expiry < currentTimeS

def isSbtRevoked (sbt : SoulBoundToken) : Bool := sbt.revoked

def verifySbt (sbt : SoulBoundToken) (clock : Clock) : VerificationResult :=
  let currentTimeS := clock.timestampMs / 1000
  let isExpired : Bool := sbt.expiry < currentTimeS
  let isRevoked := sbt.revoked
  let isValid := !isExpired && !isRevoked
  ⟨isValid, sbt.recipient, sbt.circuitId, sbt.actionId, sbt.expiry, isExpired, isRevoked⟩

def verifySbtForCircuit (sbt : SoulBoundToken) (expectedCircuitId : U256) (clock : Clock) :
    Bool :=
  let result := verifySbt sbt clock
  result.isValid && result.circuitId == expectedCircuitId

def verifySbtForAction (sbt : SoulBoundToken) (expectedActionId : U256) (clock : Clock) :
    Bool :=
  let result := verifySbt sbt clock
  result.isValid && result.actionId == expectedActionId

def verifySbtForCircuitAndAction (sbt : SoulBoundToken)
    (expectedCircuitId expectedActionId : U256) (clock : Clock) : Bool :=
  let result := verifySbt sbt clock
  result.isValid && result.circuitId == expectedCircuitId &&
    result.actionId == expectedActionId

def isSbtValid (sbt : SoulBoundToken) (clock : Clock) : Bool :=
  (verifySbt sbt clock).isValid

def assertSbtValid (sbt : SoulBoundToken) (clock : Clock) : Except Abort Unit := do
  require ((!isSbtExpired sbt clock) = true) (.assertion ESBTExpired)
  require ((!isSbtRevoked sbt) = true) (.assertion ESBTRevoked)

def assertSbtForCircuit (sbt : SoulBoundToken) (expectedCircuitId : U256) (clock : Clock) :
    Except Abort Unit := do
  assertSbtValid sbt clock
  require (sbt.circuitId = expectedCircuitId) (.assertion EInvalidCircuit)

def assertSbtForAction (sbt : SoulBoundToken) (expectedActionId : U256) (clock : Clock) :
    Except Abort Unit := do
  assertSbtValid sbt clock
  require (sbt.actionId = expectedActionId) (.assertion EInvalidAction)

def assertSbtForCircuitAndAction (sbt : SoulBoundToken)
    (expectedCircuitId expectedActionId : U256) (clock : Clock) : Except Abort Unit := do
  assertSbtValid sbt clock
  require (sbt.circuitId = expectedCircuitId) (.assertion EInvalidCircuit)
  require (sbt.actionId = expectedActionId) (.assertion EInvalidAction)

variable {sbt : SoulBoundToken} {clock : Clock} {circuitId actionId : U256}

theorem isSbtExpired_iff :
    isSbtExpired sbt clock = true ↔ sbt.expiry.toNat < clock.timestampMs.toNat / 1000 := by
  simp [isSbtExpired, BitVec.lt_def]

theorem isSbtValid_iff : isSbtValid sbt clock = true ↔
    clock.timestampMs.toNat / 1000 ≤ sbt.expiry.toNat ∧ sbt.revoked = false := by
  have valid : isSbtValid sbt clock = (!isSbtExpired sbt clock && !sbt.revoked) := rfl
  rw [valid, Bool.and_eq_true, Bool.not_eq_true', Bool.not_eq_true', ← Bool.not_eq_true,
    isSbtExpired_iff, not_lt]

theorem verifySbtForCircuit_iff : verifySbtForCircuit sbt circuitId clock = true ↔
    isSbtValid sbt clock = true ∧ sbt.circuitId = circuitId := by
  have both : verifySbtForCircuit sbt circuitId clock =
      (isSbtValid sbt clock && sbt.circuitId == circuitId) := rfl
  rw [both, Bool.and_eq_true, beq_iff_eq]

theorem verifySbtForAction_iff : verifySbtForAction sbt actionId clock = true ↔
    isSbtValid sbt clock = true ∧ sbt.actionId = actionId := by
  have both : verifySbtForAction sbt actionId clock =
      (isSbtValid sbt clock && sbt.actionId == actionId) := rfl
  rw [both, Bool.and_eq_true, beq_iff_eq]

theorem verifySbtForCircuitAndAction_iff :
    verifySbtForCircuitAndAction sbt circuitId actionId clock = true ↔
      isSbtValid sbt clock = true ∧ sbt.circuitId = circuitId ∧ sbt.actionId = actionId := by
  have both : verifySbtForCircuitAndAction sbt circuitId actionId clock =
      (isSbtValid sbt clock && sbt.circuitId == circuitId && sbt.actionId == actionId) := rfl
  rw [both, Bool.and_eq_true, Bool.and_eq_true, beq_iff_eq, beq_iff_eq, and_assoc]

/-- The assertions abort with the code of the first check that fails. -/
theorem assertSbtForCircuitAndAction_eq :
    assertSbtForCircuitAndAction sbt circuitId actionId clock =
      if isSbtExpired sbt clock then .error (.assertion ESBTExpired)
      else if sbt.revoked then .error (.assertion ESBTRevoked)
      else if sbt.circuitId ≠ circuitId then .error (.assertion EInvalidCircuit)
      else if sbt.actionId ≠ actionId then .error (.assertion EInvalidAction)
      else .ok () := by
  unfold assertSbtForCircuitAndAction assertSbtValid
  cases isSbtExpired sbt clock with
  | true => rfl
  | false =>
      cases revoked : sbt.revoked with
      | true =>
          simp only [isSbtRevoked, revoked]
          rfl
      | false =>
          by_cases circuit : sbt.circuitId = circuitId
          · by_cases action : sbt.actionId = actionId
            · simp [isSbtRevoked, revoked, circuit, action, require, bind, Except.bind]
            · simp [isSbtRevoked, revoked, circuit, action, require, bind, Except.bind]
          · simp [isSbtRevoked, revoked, circuit, require, bind, Except.bind]

/-- An assertion passes exactly if the function of its name answers `true`. -/
theorem assertSbtValid_ok :
    assertSbtValid sbt clock = .ok () ↔ isSbtValid sbt clock = true := by
  have valid : isSbtValid sbt clock = (!isSbtExpired sbt clock && !isSbtRevoked sbt) := rfl
  simp only [assertSbtValid, bind_eq_ok, require_eq_ok, exists_const]
  rw [valid, Bool.and_eq_true]

theorem assertSbtForCircuit_ok : assertSbtForCircuit sbt circuitId clock = .ok () ↔
    verifySbtForCircuit sbt circuitId clock = true := by
  simp only [assertSbtForCircuit, bind_eq_ok, require_eq_ok, Unique.exists_iff,
    PUnit.default_eq_unit]
  rw [assertSbtValid_ok, verifySbtForCircuit_iff]

theorem assertSbtForAction_ok : assertSbtForAction sbt actionId clock = .ok () ↔
    verifySbtForAction sbt actionId clock = true := by
  simp only [assertSbtForAction, bind_eq_ok, require_eq_ok, Unique.exists_iff,
    PUnit.default_eq_unit]
  rw [assertSbtValid_ok, verifySbtForAction_iff]

theorem assertSbtForCircuitAndAction_ok :
    assertSbtForCircuitAndAction sbt circuitId actionId clock = .ok () ↔
      verifySbtForCircuitAndAction sbt circuitId actionId clock = true := by
  simp only [assertSbtForCircuitAndAction, bind_eq_ok, require_eq_ok, Unique.exists_iff,
    PUnit.default_eq_unit]
  rw [assertSbtValid_ok, verifySbtForCircuitAndAction_iff]

end Verifier

/-- The token that a mint creates. -/
def Transaction.token? (transaction : Transaction) : Option SoulBoundToken :=
  match transaction.call with
  | .mint _ recipient circuitId actionId actionNullifier expiry =>
    some ⟨recipient, expiry, circuitId, actionId, actionNullifier, false, transaction.sender⟩
  | _ => none

def mintedTokens (history : List Transaction) : List SoulBoundToken :=
  history.filterMap Transaction.token?

def Transaction.revokes (id : ID) (transaction : Transaction) : Bool :=
  match transaction.call with
  | .revoke _ revoked => revoked = id
  | _ => false

def revokedIn (id : ID) (history : List Transaction) : Bool :=
  history.any (Transaction.revokes id)

/-- The id of the token that was minted after `index` others. -/
def tokenId (index : ℕ) : ID := index + 1

/-- The object that the history makes of a minted token. -/
def tokenObject (history : List Transaction) (index : ℕ) (minted : SoulBoundToken) :
    Object Address Content :=
  ⟨.address minted.recipient,
    .soulBoundToken { minted with revoked := revokedIn (tokenId index) history }⟩

/-- The tokens are those of the mints. -/
structure TokensRecorded (history : List Transaction) (s : State) : Prop where
  owned : WellOwned s
  count : s.store.nextId = tokenId (mintedTokens history).length
  objects : ∀ index, s.store.objects (tokenId index) =
    (mintedTokens history)[index]?.map (tokenObject history index)
  revoked : ∀ index, revokedIn (tokenId index) history = true →
    index < (mintedTokens history).length

variable {s t : State} {sender : Address} {cap : ID} {history : List Transaction}

theorem tokenId_ne_cap (index : ℕ) : tokenId index ≠ minterCapId := Nat.succ_ne_zero index

theorem tokensRecorded_init (publisher : Address) : TokensRecorded [] (init publisher) where
  owned := wellOwned_init publisher
  count := rfl
  objects index := (init publisher).store.fresh (tokenId index) (Nat.le_add_left 1 index)
  revoked index isRevoked := by simp [revokedIn] at isRevoked

theorem tokenObject_append {transaction : Transaction} {index : ℕ}
    (other : transaction.revokes (tokenId index) = false) :
    tokenObject (history ++ [transaction]) index = tokenObject history index := by
  funext minted
  simp [tokenObject, revokedIn, other]

theorem TokensRecorded.setMinter {newMinter : Address} (recorded : TokensRecorded history s)
    (moved : SuiSbt.setMinter sender cap newMinter s = .ok t) :
    TokensRecorded (history ++ [⟨sender, .setMinter cap newMinter⟩]) t := by
  have owned := recorded.owned.setMinter moved
  obtain ⟨owner, fields, stored, store⟩ := setMinter_ok moved
  have isCap : cap = minterCapId := recorded.owned.objects cap _ stored
  have same : mintedTokens (history ++ [⟨sender, .setMinter cap newMinter⟩]) =
      mintedTokens history := by simp [mintedTokens, Transaction.token?]
  refine ⟨owned, ?_, ?_, ?_⟩
  · rw [same, store]
    exact recorded.count
  · intro index
    have different : tokenId index ≠ cap := isCap ▸ tokenId_ne_cap index
    have unchanged : t.store.objects (tokenId index) = s.store.objects (tokenId index) := by
      rw [store]
      simp [Store.transfer, Store.modify, different]
    rw [unchanged, recorded.objects, same, tokenObject_append rfl]
  · intro index isRevoked
    rw [same]
    apply recorded.revoked index
    simpa [revokedIn, Transaction.revokes] using isRevoked

theorem TokensRecorded.mint {recipient : Address}
    {circuitId actionId actionNullifier : U256} {expiry : U64}
    (recorded : TokensRecorded history s)
    (minted : SuiSbt.mint sender cap recipient circuitId actionId actionNullifier expiry s =
      .ok t) :
    TokensRecorded (history ++
      [⟨sender, .mint cap recipient circuitId actionId actionNullifier expiry⟩]) t := by
  have owned := recorded.owned.mint minted
  obtain ⟨owner, fields, key, stored, -, -, store⟩ := mint_ok minted
  have isCap : cap = minterCapId := recorded.owned.objects cap _ stored
  set sbt : SoulBoundToken :=
    ⟨recipient, expiry, circuitId, actionId, actionNullifier, false, sender⟩ with isSbt
  set marked := s.store.write cap (.minterCap (Function.update fields key true)) with isMarked
  have tokens : mintedTokens (history ++
      [⟨sender, .mint cap recipient circuitId actionId actionNullifier expiry⟩]) =
        mintedTokens history ++ [sbt] := List.filterMap_append
  have unrevoked : ∀ index, Transaction.revokes (tokenId index)
      ⟨sender, .mint cap recipient circuitId actionId actionNullifier expiry⟩ = false :=
    fun _ => rfl
  refine ⟨owned, ?_, ?_, ?_⟩
  · rw [tokens, store, List.length_append, List.length_singleton]
    exact congrArg Nat.succ recorded.count
  · intro index
    rw [tokens, tokenObject_append (unrevoked index), store]
    by_cases new : index = (mintedTokens history).length
    · have isNext : tokenId index = s.store.nextId := by rw [recorded.count, new]
      have neverRevoked : revokedIn (tokenId index) history = false := by
        by_contra isRevoked
        have inside := recorded.revoked index (by simpa using isRevoked)
        omega
      rw [isNext]
      refine (marked.objects_create_self recipient (.soulBoundToken sbt)).trans ?_
      rw [new, List.getElem?_append_right le_rfl, Nat.sub_self, List.getElem?_cons_zero,
        Option.map_some, tokenObject, ← new, neverRevoked]
    · have different : tokenId index ≠ s.store.nextId := by
        rw [recorded.count]
        simpa [tokenId] using new
      have notCap : tokenId index ≠ cap := isCap ▸ tokenId_ne_cap index
      refine (marked.objects_create_of_ne different recipient (.soulBoundToken sbt)).trans ?_
      rw [isMarked, s.store.objects_write_of_ne notCap, recorded.objects]
      by_cases inside : index < (mintedTokens history).length
      · rw [List.getElem?_append_left inside]
      · have beyond : (mintedTokens history).length < index := by omega
        rw [List.getElem?_eq_none (by omega), List.getElem?_eq_none (by simp; omega)]
  · intro index isRevoked
    have before : revokedIn (tokenId index) history = true := by
      simpa [revokedIn, unrevoked] using isRevoked
    have inside := recorded.revoked index before
    rw [tokens, List.length_append]
    omega

theorem TokensRecorded.revoke {id : ID} (recorded : TokensRecorded history s)
    (revoked : SuiSbt.revoke sender cap id s = .ok t) :
    TokensRecorded (history ++ [⟨sender, .revoke cap id⟩]) t := by
  have owned := recorded.owned.revoke revoked
  obtain ⟨owner, sbt, stored, -, store⟩ := revoke_ok revoked
  have isToken : id ≠ minterCapId := (recorded.owned.objects id _ stored).1
  obtain ⟨target, rfl⟩ : ∃ target, id = tokenId target :=
    ⟨id - 1, (Nat.succ_pred_eq_of_ne_zero isToken).symm⟩
  have same : mintedTokens (history ++ [⟨sender, .revoke cap (tokenId target)⟩]) =
      mintedTokens history := by simp [mintedTokens, Transaction.token?]
  have exists_ : ∃ minted, (mintedTokens history)[target]? = some minted ∧
      tokenObject history target minted = ⟨owner, .soulBoundToken sbt⟩ := by
    rw [recorded.objects] at stored
    exact Option.map_eq_some_iff.mp stored
  obtain ⟨minted, found, isObject⟩ := exists_
  refine ⟨owned, ?_, ?_, ?_⟩
  · rw [same, store]
    exact recorded.count
  · intro index
    rw [same, store]
    rcases eq_or_ne index target with rfl | different
    · rw [s.store.objects_write_self stored, found, Option.map_some]
      simp only [tokenObject, Object.mk.injEq, Content.soulBoundToken.injEq] at isObject
      obtain ⟨rfl, rfl⟩ := isObject
      simp [tokenObject, revokedIn, Transaction.revokes]
    · have other : tokenId index ≠ tokenId target := fun equal =>
        different (Nat.succ.inj equal)
      have unrevoked : Transaction.revokes (tokenId index)
          ⟨sender, .revoke cap (tokenId target)⟩ = false := by
        simp [Transaction.revokes, other.symm]
      rw [s.store.objects_write_of_ne other, recorded.objects, tokenObject_append unrevoked]
  · intro index isRevoked
    rw [same]
    rcases eq_or_ne index target with rfl | different
    · exact (List.getElem?_eq_some_iff.mp found).1
    · apply recorded.revoked index
      have other : tokenId target ≠ tokenId index := fun equal =>
        different (Nat.succ.inj equal).symm
      simpa [revokedIn, Transaction.revokes, other] using isRevoked

theorem TokensRecorded.step {transaction : Transaction} (recorded : TokensRecorded history s)
    (stepped : step transaction s = .ok t) : TokensRecorded (history ++ [transaction]) t := by
  obtain ⟨sender, call⟩ := transaction
  cases call with
  | setMinter cap newMinter => exact recorded.setMinter stepped
  | mint cap recipient circuitId actionId actionNullifier expiry => exact recorded.mint stepped
  | revoke cap id => exact recorded.revoke stepped

theorem tokensRecorded_of_run {publisher : Address} (run : Run publisher history s) :
    TokensRecorded history s := by
  have recorded := run.history_invariant (P := TokensRecorded)
    (fun _ _ _ _ stepped recorded => TokensRecorded.step recorded stepped)
    (tokensRecorded_init publisher)
  simpa using recorded

theorem TokensRecorded.object_iff (recorded : TokensRecorded history s) {id : ID}
    {owner : Owner Address} {sbt : SoulBoundToken} :
    s.store.objects id = some ⟨owner, .soulBoundToken sbt⟩ ↔
      ∃ index minted, id = tokenId index ∧ (mintedTokens history)[index]? = some minted ∧
        owner = .address minted.recipient ∧
        sbt = { minted with revoked := revokedIn id history } := by
  constructor
  · intro stored
    have isToken : id ≠ minterCapId := (recorded.owned.objects id _ stored).1
    obtain ⟨index, rfl⟩ : ∃ index, id = tokenId index :=
      ⟨id - 1, (Nat.succ_pred_eq_of_ne_zero isToken).symm⟩
    rw [recorded.objects, Option.map_eq_some_iff] at stored
    obtain ⟨minted, found, isObject⟩ := stored
    simp only [tokenObject, Object.mk.injEq, Content.soulBoundToken.injEq] at isObject
    exact ⟨index, minted, rfl, found, isObject.1.symm, isObject.2.symm⟩
  · rintro ⟨index, minted, rfl, found, rfl, rfl⟩
    rw [recorded.objects, found]
    rfl

/-- The valid tokens of a run, with some property of their circuit and action, are the mints
with that property that are not past their expiry and that no call has revoked. -/
theorem valid_iff {publisher : Address} (run : Run publisher history s) (id : ID)
    (wanted : U256 → U256 → Prop) (clock : Clock) :
    (∃ owner sbt, s.store.objects id = some ⟨owner, .soulBoundToken sbt⟩ ∧
        Verifier.isSbtValid sbt clock = true ∧ wanted sbt.circuitId sbt.actionId) ↔
      ∃ index minted, id = tokenId index ∧ (mintedTokens history)[index]? = some minted ∧
        wanted minted.circuitId minted.actionId ∧
        clock.timestampMs.toNat / 1000 ≤ minted.expiry.toNat ∧
        revokedIn id history = false := by
  have recorded := tokensRecorded_of_run run
  simp only [Verifier.isSbtValid_iff, recorded.object_iff]
  constructor
  · rintro ⟨owner, sbt, ⟨index, minted, isId, found, -, rfl⟩, ⟨timely, unrevoked⟩, isWanted⟩
    exact ⟨index, minted, isId, found, isWanted, timely, unrevoked⟩
  · rintro ⟨index, minted, isId, found, isWanted, timely, unrevoked⟩
    exact ⟨_, _, ⟨index, minted, isId, found, rfl, rfl⟩, ⟨timely, unrevoked⟩, isWanted⟩

/-- A token is verified for a circuit, or for an action, exactly if it was minted for it, with
whatever action or circuit, and still stands. -/
theorem verification_partial {publisher : Address} (run : Run publisher history s) (id : ID)
    (circuitId actionId : U256) (clock : Clock) :
    ((∃ owner sbt, s.store.objects id = some ⟨owner, .soulBoundToken sbt⟩ ∧
        Verifier.verifySbtForCircuit sbt circuitId clock = true) ↔
      ∃ index minted, id = tokenId index ∧ (mintedTokens history)[index]? = some minted ∧
        minted.circuitId = circuitId ∧
        clock.timestampMs.toNat / 1000 ≤ minted.expiry.toNat ∧
        revokedIn id history = false) ∧
    ((∃ owner sbt, s.store.objects id = some ⟨owner, .soulBoundToken sbt⟩ ∧
        Verifier.verifySbtForAction sbt actionId clock = true) ↔
      ∃ index minted, id = tokenId index ∧ (mintedTokens history)[index]? = some minted ∧
        minted.actionId = actionId ∧
        clock.timestampMs.toNat / 1000 ≤ minted.expiry.toNat ∧
        revokedIn id history = false) := by
  simp only [Verifier.verifySbtForCircuit_iff, Verifier.verifySbtForAction_iff]
  constructor
  · exact valid_iff run id (fun circuit _ => circuit = circuitId) clock
  · exact valid_iff run id (fun _ action => action = actionId) clock

/-- In every run a token is verified for a circuit and an action, by the function that says
so and by the one that aborts otherwise, exactly if it was minted for them, the time is not
past its expiry and no call has revoked it. -/
theorem verification_exact {publisher : Address} (run : Run publisher history s) (id : ID)
    (circuitId actionId : U256) (clock : Clock) :
    ((∃ owner sbt, s.store.objects id = some ⟨owner, .soulBoundToken sbt⟩ ∧
        Verifier.verifySbtForCircuitAndAction sbt circuitId actionId clock = true) ↔
      ∃ index minted, id = tokenId index ∧ (mintedTokens history)[index]? = some minted ∧
        minted.circuitId = circuitId ∧ minted.actionId = actionId ∧
        clock.timestampMs.toNat / 1000 ≤ minted.expiry.toNat ∧
        revokedIn id history = false) ∧
    ((∃ owner sbt, s.store.objects id = some ⟨owner, .soulBoundToken sbt⟩ ∧
        Verifier.assertSbtForCircuitAndAction sbt circuitId actionId clock = .ok ()) ↔
      ∃ index minted, id = tokenId index ∧ (mintedTokens history)[index]? = some minted ∧
        minted.circuitId = circuitId ∧ minted.actionId = actionId ∧
        clock.timestampMs.toNat / 1000 ≤ minted.expiry.toNat ∧
        revokedIn id history = false) := by
  have exact_ := valid_iff run id
    (fun circuit action => circuit = circuitId ∧ action = actionId) clock
  simp only [← Verifier.verifySbtForCircuitAndAction_iff, and_assoc] at exact_
  refine ⟨exact_, ?_⟩
  simp only [Verifier.assertSbtForCircuitAndAction_ok]
  exact exact_

theorem revokedIn_append (id : ID) (later : List Transaction) :
    revokedIn id (history ++ later) = (revokedIn id history || revokedIn id later) :=
  List.any_append

theorem mintedTokens_append (first second : List Transaction) :
    mintedTokens (first ++ second) = mintedTokens first ++ mintedTokens second :=
  List.filterMap_append

/-- Whatever the module's later calls, a token keeps its owner and its fields but for the
revocation, and once it fails the verification for a circuit and an action, it fails it at
every later time. -/
theorem verification_final {publisher : Address} (run : Run publisher history s) {id : ID}
    {owner : Owner Address} {sbt : SoulBoundToken}
    (stored : s.store.objects id = some ⟨owner, .soulBoundToken sbt⟩)
    {later : List Transaction} (rest : Trace (Succeeds step) s later t) :
    t.store.objects id = some ⟨owner, .soulBoundToken
        { sbt with revoked := sbt.revoked || revokedIn id later }⟩ ∧
      ∀ circuitId actionId, ∀ clock clock' : Clock,
        clock.timestampMs.toNat ≤ clock'.timestampMs.toNat →
        Verifier.verifySbtForCircuitAndAction sbt circuitId actionId clock = false →
        Verifier.verifySbtForCircuitAndAction
          { sbt with revoked := sbt.revoked || revokedIn id later } circuitId actionId clock' =
            false := by
  have recorded := tokensRecorded_of_run run
  have recordedLater := tokensRecorded_of_run (run.append rest)
  obtain ⟨index, minted, isId, found, isOwner, rfl⟩ := recorded.object_iff.mp stored
  have kept : (mintedTokens (history ++ later))[index]? = some minted := by
    rw [mintedTokens_append, List.getElem?_append_left (List.getElem?_eq_some_iff.mp found).1]
    exact found
  constructor
  · refine recordedLater.object_iff.mpr ⟨index, minted, isId, kept, isOwner, ?_⟩
    rw [revokedIn_append]
  · intro circuitId actionId clock clock' after refused
    rw [← Bool.not_eq_true] at refused ⊢
    intro accepted
    apply refused
    simp only [Verifier.verifySbtForCircuitAndAction_iff, Verifier.isSbtValid_iff,
      Bool.or_eq_false_iff] at accepted ⊢
    obtain ⟨⟨timely, unrevoked, -⟩, circuit, action⟩ := accepted
    exact ⟨⟨(Nat.div_le_div_right after).trans timely, unrevoked⟩, circuit, action⟩

section Sample

/-- One second before the token of `sampleMint` expires. -/
def sampleClock : Clock := ⟨99000⟩

example : Verifier.assertSbtForCircuitAndAction
    ⟨0xabcd, 100, 123, 1337, 7331, false, 0xabcd⟩ 123 1338 sampleClock =
      .error (.assertion Verifier.EInvalidAction) := rfl

theorem sampleToken_verified :
    ((∃ owner sbt, (sampleState 0xabcd).store.objects 1 =
          some ⟨owner, .soulBoundToken sbt⟩ ∧
        Verifier.verifySbtForCircuitAndAction sbt 123 1337 sampleClock = true) ↔
      ∃ index minted, 1 = tokenId index ∧
        (mintedTokens [sampleMint 0xabcd])[index]? = some minted ∧
        minted.circuitId = 123 ∧ minted.actionId = 1337 ∧
        sampleClock.timestampMs.toNat / 1000 ≤ minted.expiry.toNat ∧
        revokedIn 1 [sampleMint 0xabcd] = false) ∧
    ((∃ owner sbt, (sampleState 0xabcd).store.objects 1 =
          some ⟨owner, .soulBoundToken sbt⟩ ∧
        Verifier.assertSbtForCircuitAndAction sbt 123 1337 sampleClock = .ok ()) ↔
      ∃ index minted, 1 = tokenId index ∧
        (mintedTokens [sampleMint 0xabcd])[index]? = some minted ∧
        minted.circuitId = 123 ∧ minted.actionId = 1337 ∧
        sampleClock.timestampMs.toNat / 1000 ≤ minted.expiry.toNat ∧
        revokedIn 1 [sampleMint 0xabcd] = false) :=
  verification_exact (run_sampleState 0xabcd) 1 123 1337 sampleClock

def sampleRevocation : Transaction := ⟨0xabcd, .revoke minterCapId 1⟩

theorem sampleToken_final :
    (finalState step [sampleRevocation] (sampleState 0xabcd)).store.objects 1 =
        some ⟨.address 0xabcd, .soulBoundToken ⟨0xabcd, 100, 123, 1337, 7331,
          false || revokedIn 1 [sampleRevocation], 0xabcd⟩⟩ ∧
      ∀ circuitId actionId, ∀ clock clock' : Clock,
        clock.timestampMs.toNat ≤ clock'.timestampMs.toNat →
        Verifier.verifySbtForCircuitAndAction
          ⟨0xabcd, 100, 123, 1337, 7331, false, 0xabcd⟩ circuitId actionId clock = false →
        Verifier.verifySbtForCircuitAndAction ⟨0xabcd, 100, 123, 1337, 7331,
          false || revokedIn 1 [sampleRevocation], 0xabcd⟩ circuitId actionId clock' = false :=
  verification_final (run_sampleState 0xabcd) (objects_sampleState 0xabcd).2
    (trace_finalState rfl)

end Sample

end SuiSbt

end IdHub
