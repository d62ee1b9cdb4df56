import IdHub.SuiSbtOwnership

/-!
# Which Sui mints are refused

`mint` remembers the sum of the action nullifier and the circuit id.  It refuses a
pair whose sum was minted before, under whatever pair, and aborts when the sum
overflows.  So it enforces the uniqueness of pairs exactly where no other pair has
the same sum.
-/

namespace IdHub

namespace SuiSbt

open CallTraces CheckedArithmetic Guards ObjectStore

def Transaction.pair? (transaction : Transaction) : Option (U256 × U256) :=
  match transaction.call with
  | .mint _ _ circuitId _ actionNullifier _ => some (circuitId, actionNullifier)
  | _ => none

/-- The pairs that the mints of a history used. -/
def mintedPairs (history : List Transaction) : List (U256 × U256) :=
  history.filterMap Transaction.pair?

/-- `action_nullifier + circuit_id`, without the bound of the machine word. -/
def pairSum (pair : U256 × U256) : ℕ :=
  pair.2.toNat + pair.1.toNat

/-- The used keys that the cap of `init` stores. -/
def capFields (s : State) : U256 → Bool :=
  match s.store.objects minterCapId with
  | some ⟨_, .minterCap fields⟩ => fields
  | _ => fun _ => false

variable {s t : State} {sender : Address} {cap : ID}

theorem capFields_eq {owner : Owner Address} {fields : U256 → Bool}
    (stored : s.store.objects minterCapId = some ⟨owner, .minterCap fields⟩) :
    capFields s = fields := by
  rw [capFields, stored]

theorem capFields_setMinter {newMinter : Address} (owned : WellOwned s)
    (moved : setMinter sender cap newMinter s = .ok t) : capFields t = capFields s := by
  obtain ⟨owner, fields, stored, store⟩ := setMinter_ok moved
  have isCap : cap = minterCapId := owned.objects cap _ stored
  subst isCap
  have after := s.store.objects_transfer_self stored newMinter
  rw [← store] at after
  rw [capFields_eq stored, capFields_eq after]

theorem capFields_revoke {id : ID} (owned : WellOwned s)
    (revoked : revoke sender cap id s = .ok t) : capFields t = capFields s := by
  obtain ⟨owner, sbt, stored, -, store⟩ := revoke_ok revoked
  have isToken : id ≠ minterCapId ∧ owner = .address sbt.recipient :=
    owned.objects id _ stored
  have unchanged := s.store.objects_write_of_ne isToken.1.symm
    (.soulBoundToken { sbt with revoked := true })
  rw [capFields, store, unchanged, capFields]

theorem capFields_mint {recipient : Address} {circuitId actionId actionNullifier : U256}
    {expiry : U64} (owned : WellOwned s)
    (minted : mint sender cap recipient circuitId actionId actionNullifier expiry s =
      .ok t) :
    ∃ key : U256, key.toNat = pairSum (circuitId, actionNullifier) ∧
      capFields t = Function.update (capFields s) key true := by
  obtain ⟨owner, fields, key, stored, value, -, store⟩ := mint_ok minted
  have isCap : cap = minterCapId := owned.objects cap _ stored
  subst isCap
  have written := s.store.objects_write_self stored
    (.minterCap (Function.update fields key true))
  have old : minterCapId ≠ s.store.nextId := Nat.ne_of_lt owned.published
  have after := Store.objects_create_of_ne _ (by exact old) recipient (.soulBoundToken
    ⟨recipient, expiry, circuitId, actionId, actionNullifier, false, sender⟩) |>.trans written
  rw [← store] at after
  exact ⟨key, value, by rw [capFields_eq stored, capFields_eq after]⟩

/-- The keys that the cap stores are the sums of the minted pairs. -/
def SumsRecorded (history : List Transaction) (s : State) : Prop :=
  ∀ key : U256, capFields s key = true ↔ ∃ pair ∈ mintedPairs history, key.toNat = pairSum pair

theorem SumsRecorded.mint {history : List Transaction} {recipient : Address}
    {circuitId actionId actionNullifier : U256} {expiry : U64} (owned : WellOwned s)
    (recorded : SumsRecorded history s)
    (minted : SuiSbt.mint sender cap recipient circuitId actionId actionNullifier expiry s =
      .ok t) :
    SumsRecorded (history ++
      [⟨sender, .mint cap recipient circuitId actionId actionNullifier expiry⟩]) t := by
  obtain ⟨key, value, fields⟩ := capFields_mint owned minted
  intro other
  have pairs : mintedPairs (history ++
      [⟨sender, .mint cap recipient circuitId actionId actionNullifier expiry⟩]) =
        mintedPairs history ++ [(circuitId, actionNullifier)] := List.filterMap_append
  rw [fields, pairs]
  rcases eq_or_ne other key with rfl | different
  · simp [value]
  · have unequal : other.toNat ≠ pairSum (circuitId, actionNullifier) := by
      intro same
      exact different (BitVec.eq_of_toNat_eq (same.trans value.symm))
    simp [different, recorded other, unequal, or_and_right, exists_or]

structure Recorded (history : List Transaction) (s : State) : Prop where
  owned : WellOwned s
  sums : SumsRecorded history s

theorem recorded_init (publisher : Address) : Recorded [] (init publisher) where
  owned := wellOwned_init publisher
  sums := by
    have fields : capFields (init publisher) = fun _ => false := capFields_eq rfl
    intro key
    simp [fields, mintedPairs]

theorem Recorded.step {history : List Transaction} {transaction : Transaction}
    (recorded : Recorded history s) (stepped : step transaction s = .ok t) :
    Recorded (history ++ [transaction]) t := by
  refine ⟨recorded.owned.step stepped, ?_⟩
  obtain ⟨sender, call⟩ := transaction
  cases call with
  | setMinter cap newMinter =>
      intro key
      have fields : capFields t = capFields s := capFields_setMinter recorded.owned stepped
      simpa [mintedPairs, Transaction.pair?, fields] using recorded.sums key
  | mint cap recipient circuitId actionId actionNullifier expiry =>
      exact recorded.sums.mint recorded.owned stepped
  | revoke cap id =>
      intro key
      have fields : capFields t = capFields s := capFields_revoke recorded.owned stepped
      simpa [mintedPairs, Transaction.pair?, fields] using recorded.sums key

theorem recorded_of_run {publisher : Address} {history : List Transaction}
    (run : Run publisher history s) : Recorded history s := by
  have recorded := run.history_invariant (P := Recorded)
    (fun _ _ _ _ stepped recorded => Recorded.step recorded stepped) (recorded_init publisher)
  simpa using recorded

/-- A mint succeeds when the sum of its pair fits and is that of no earlier
pair. -/
theorem mint_succeeds_iff {publisher : Address} {history : List Transaction}
    (run : Run publisher history s) {minter : Address} {fields : U256 → Bool}
    (holds : s.store.objects cap = some ⟨.address minter, .minterCap fields⟩)
    (recipient : Address) (circuitId actionId actionNullifier : U256) (expiry : U64) :
    (∃ t, step ⟨minter, .mint cap recipient circuitId actionId actionNullifier expiry⟩ s =
        .ok t) ↔
      pairSum (circuitId, actionNullifier) < 2 ^ 256 ∧
        ∀ pair ∈ mintedPairs history, pairSum pair ≠ pairSum (circuitId, actionNullifier) := by
  obtain ⟨owned, sums⟩ := recorded_of_run run
  have isCap : cap = minterCapId := owned.objects cap _ holds
  have capInput : inputCap minter .write cap s = .ok fields :=
    inputCap_ok.mpr ⟨_, holds, Owner.permits_address_iff.mpr rfl⟩
  have recorded : ∀ key : U256, fields key = true ↔
      ∃ pair ∈ mintedPairs history, key.toNat = pairSum pair := by
    intro key
    rw [← sums key, capFields_eq (isCap ▸ holds)]
  have succeeds : (∃ t, step
      ⟨minter, .mint cap recipient circuitId actionId actionNullifier expiry⟩ s = .ok t) ↔
        pairSum (circuitId, actionNullifier) < 2 ^ 256 ∧ ∃ key : U256,
          key.toNat = pairSum (circuitId, actionNullifier) ∧ fields key = false := by
    simp only [step, mint, bind_eq_ok, capInput, Except.ok.injEq, exists_eq_left',
      checkedAdd_eq_ok, revertIf_eq_ok, pure_eq_ok, Bool.not_eq_true, pairSum]
    constructor
    · rintro ⟨t, key, ⟨fits, value⟩, -, unused, -⟩
      exact ⟨fits, key, value, unused⟩
    · rintro ⟨fits, key, value, unused⟩
      exact ⟨_, key, ⟨fits, value⟩, (), unused, rfl⟩
  rw [succeeds]
  refine and_congr_right fun fits => ?_
  constructor
  · rintro ⟨key, value, unused⟩ pair member same
    have used := (recorded key).mpr ⟨pair, member, value.trans same.symm⟩
    rw [unused] at used
    cases used
  · intro distinct
    obtain ⟨key, value⟩ := exists_toNat_eq fits
    refine ⟨key, value, ?_⟩
    by_contra used
    obtain ⟨pair, member, same⟩ := (recorded key).mp (by simpa using used)
    exact distinct pair member (same.symm.trans value)

/-- A mint by the holder of the cap succeeds exactly for unused pairs if and only
if its pair was used, or its sum fits and no other pair with this sum was used. -/
theorem mint_unique_iff {publisher : Address} {history : List Transaction}
    (run : Run publisher history s) {minter : Address} {fields : U256 → Bool}
    (holds : s.store.objects cap = some ⟨.address minter, .minterCap fields⟩)
    (recipient : Address) (circuitId actionId actionNullifier : U256) (expiry : U64) :
    ((∃ t, step ⟨minter, .mint cap recipient circuitId actionId actionNullifier expiry⟩ s =
        .ok t) ↔ (circuitId, actionNullifier) ∉ mintedPairs history) ↔
      (circuitId, actionNullifier) ∈ mintedPairs history ∨
        (pairSum (circuitId, actionNullifier) < 2 ^ 256 ∧
          ∀ pair ∈ mintedPairs history, pairSum pair = pairSum (circuitId, actionNullifier) →
            pair = (circuitId, actionNullifier)) := by
  rw [mint_succeeds_iff run holds]
  by_cases used : (circuitId, actionNullifier) ∈ mintedPairs history
  · simp only [used, not_true_eq_false, iff_false, not_and, true_or, iff_true]
    intro _ distinct
    exact distinct _ used rfl
  · simp only [used, not_false_eq_true, iff_true, false_or]
    refine and_congr_right fun _ => ?_
    constructor
    · intro distinct pair member same
      exact (distinct pair member same).elim
    · intro unique pair member same
      exact used (unique pair member same ▸ member)

section Sample

def samplePairMint (circuitId actionNullifier : U256) : Transaction :=
  ⟨0xabcd, .mint minterCapId 0xbeef circuitId 1337 actionNullifier 100⟩

def samplePairState : State :=
  finalState step [samplePairMint 1 2] (init 0xabcd)

theorem run_samplePairState : Run 0xabcd [samplePairMint 1 2] samplePairState :=
  trace_finalState rfl

theorem holds_samplePairState : ∃ fields, samplePairState.store.objects minterCapId =
    some ⟨.address 0xabcd, .minterCap fields⟩ :=
  ⟨_, rfl⟩

/-- After a mint of `(1, 2)` the pair `(1, 3)` is treated as it should be. -/
theorem third_pair_unique :
    (∃ t, step (samplePairMint 1 3) samplePairState = .ok t) ↔
      ((1 : U256), (3 : U256)) ∉ mintedPairs [samplePairMint 1 2] := by
  obtain ⟨fields, holds⟩ := holds_samplePairState
  refine (mint_unique_iff run_samplePairState holds 0xbeef 1 1337 3 100).mpr (Or.inr ?_)
  have pairs : mintedPairs [samplePairMint 1 2] = [(1, 2)] := rfl
  rw [pairs, List.forall_mem_singleton]
  exact ⟨by decide, by decide⟩

/-- After a mint of `(1, 2)` the unused pair `(2, 1)` is refused. -/
theorem swapped_pair_refused :
    Run 0xabcd [samplePairMint 1 2] samplePairState ∧
      (∃ fields, samplePairState.store.objects minterCapId =
        some ⟨.address 0xabcd, .minterCap fields⟩) ∧
      ((2 : U256), (1 : U256)) ∉ mintedPairs [samplePairMint 1 2] ∧
      ∀ t, step (samplePairMint 2 1) samplePairState ≠ .ok t := by
  refine ⟨run_samplePairState, holds_samplePairState, by decide, ?_⟩
  intro t minted
  have fails : (step (samplePairMint 2 1) samplePairState).isOk = false := rfl
  rw [minted] at fails
  cases fails

end Sample

end SuiSbt

end IdHub
