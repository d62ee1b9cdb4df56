import IdHub.SuiSbt

/-!
# Who can revoke a Sui SBT

A token is transferred to its recipient when it is minted and never again, and
`revoke` takes it by mutable reference.  So the holder of the `MinterCap` can
revoke only the tokens minted to its own address.
-/

namespace IdHub

namespace SuiSbt

open CallTraces CheckedArithmetic Guards ObjectStore

variable {s t : State} {sender : Address} {cap : ID}

theorem setMinter_ok {newMinter : Address}
    (moved : setMinter sender cap newMinter s = .ok t) :
    ∃ owner fields, s.store.objects cap = some ⟨owner, .minterCap fields⟩ ∧
      t.store = s.store.transfer cap newMinter := by
  simp only [setMinter, bind_eq_ok, inputCap_ok, pure_eq_ok] at moved
  obtain ⟨fields, ⟨owner, stored, -⟩, rfl⟩ := moved
  exact ⟨owner, fields, stored, rfl⟩

theorem mint_ok {recipient : Address} {circuitId actionId actionNullifier : U256}
    {expiry : U64}
    (minted : mint sender cap recipient circuitId actionId actionNullifier expiry s =
      .ok t) :
    ∃ owner fields key, s.store.objects cap = some ⟨owner, .minterCap fields⟩ ∧
      key.toNat = actionNullifier.toNat + circuitId.toNat ∧ fields key = false ∧
      t.store = (s.store.write cap
          (.minterCap (Function.update fields key true))).create recipient
        (.soulBoundToken
          ⟨recipient, expiry, circuitId, actionId, actionNullifier, false, sender⟩) := by
  simp only [mint, bind_eq_ok, inputCap_ok, checkedAdd_eq_ok, revertIf_eq_ok, pure_eq_ok]
    at minted
  obtain ⟨fields, ⟨owner, stored, -⟩, key, ⟨-, value⟩, -, unused, rfl⟩ := minted
  exact ⟨owner, fields, key, stored, value, by simpa using unused, rfl⟩

theorem revoke_ok {id : ID} (revoked : revoke sender cap id s = .ok t) :
    ∃ owner sbt, s.store.objects id = some ⟨owner, .soulBoundToken sbt⟩ ∧
      owner.permits sender .write = true ∧
      t.store = s.store.write id (.soulBoundToken { sbt with revoked := true }) := by
  simp only [revoke, bind_eq_ok, inputCap_ok, inputSbt_ok, pure_eq_ok] at revoked
  obtain ⟨fields, -, sbt, ⟨owner, stored, permitted⟩, rfl⟩ := revoked
  exact ⟨owner, sbt, stored, permitted, rfl⟩

theorem exists_revoke {id : ID} {fields : U256 → Bool} {owner : Owner Address}
    {sbt : SoulBoundToken} (capInput : inputCap sender .read cap s = .ok fields)
    (stored : s.store.objects id = some ⟨owner, .soulBoundToken sbt⟩)
    (permitted : owner.permits sender .write = true) :
    ∃ t, revoke sender cap id s = .ok t ∧ t.store.objects id =
      some ⟨owner, .soulBoundToken { sbt with revoked := true }⟩ := by
  have sbtInput : inputSbt sender .write id s = .ok sbt :=
    inputSbt_ok.mpr ⟨owner, stored, permitted⟩
  simp only [revoke, bind_eq_ok, capInput, sbtInput, Except.ok.injEq, exists_eq_left',
    pure_eq_ok]
  exact s.store.objects_write_self stored _

def minterCapId : ID := 0

/-- The cap of `init` is the only one, and a token is owned by its recipient. -/
def WellOwnedObject (id : ID) (object : Object Address Content) : Prop :=
  match object.content with
  | .minterCap _ => id = minterCapId
  | .soulBoundToken sbt => id ≠ minterCapId ∧ object.owner = .address sbt.recipient

structure WellOwned (s : State) : Prop where
  objects : s.store.All WellOwnedObject
  published : minterCapId < s.store.nextId

theorem wellOwned_init (publisher : Address) : WellOwned (init publisher) where
  objects := (Store.all_empty WellOwnedObject).create rfl
  published := Nat.zero_lt_one

theorem WellOwned.setMinter {newMinter : Address} (owned : WellOwned s)
    (moved : SuiSbt.setMinter sender cap newMinter s = .ok t) : WellOwned t := by
  obtain ⟨owner, fields, stored, store⟩ := setMinter_ok moved
  have isCap : cap = minterCapId := owned.objects cap _ stored
  constructor
  · rw [store]
    apply owned.objects.modify
    intro object isObject
    rw [stored, Option.some.injEq] at isObject
    rw [← isObject]
    exact isCap
  · rw [store]
    exact owned.published

theorem WellOwned.mint {recipient : Address} {circuitId actionId actionNullifier : U256}
    {expiry : U64} (owned : WellOwned s)
    (minted : SuiSbt.mint sender cap recipient circuitId actionId actionNullifier expiry s =
      .ok t) : WellOwned t := by
  obtain ⟨owner, fields, key, stored, -, -, store⟩ := mint_ok minted
  have isCap : cap = minterCapId := owned.objects cap _ stored
  constructor
  · rw [store]
    apply Store.All.create
    · apply owned.objects.modify
      intro object isObject
      exact isCap
    · exact ⟨Nat.ne_of_gt owned.published, rfl⟩
  · rw [store]
    exact Nat.lt_succ_of_lt owned.published

theorem WellOwned.revoke {id : ID} (owned : WellOwned s)
    (revoked : SuiSbt.revoke sender cap id s = .ok t) : WellOwned t := by
  obtain ⟨owner, sbt, stored, -, store⟩ := revoke_ok revoked
  constructor
  · rw [store]
    apply owned.objects.modify
    intro object isObject
    rw [stored, Option.some.injEq] at isObject
    rw [← isObject]
    have before : id ≠ minterCapId ∧ owner = .address sbt.recipient :=
      owned.objects id _ stored
    exact before
  · rw [store]
    exact owned.published

theorem WellOwned.step {transaction : Transaction} (owned : WellOwned s)
    (stepped : step transaction s = .ok t) : WellOwned t := by
  obtain ⟨sender, call⟩ := transaction
  cases call with
  | setMinter cap newMinter => exact owned.setMinter stepped
  | mint cap recipient circuitId actionId actionNullifier expiry => exact owned.mint stepped
  | revoke cap id => exact owned.revoke stepped

theorem wellOwned_of_run {publisher : Address} {history : List Transaction}
    (run : Run publisher history s) : WellOwned s :=
  run.invariant (fun _ _ _ stepped owned => WellOwned.step owned stepped)
    (wellOwned_init publisher)

/-- The holder of the cap can revoke exactly the tokens minted to its own
address. -/
theorem revoke_iff {publisher : Address} {history : List Transaction}
    (run : Run publisher history s) {minter : Address} {fields : U256 → Bool}
    (holds : s.store.objects cap = some ⟨.address minter, .minterCap fields⟩)
    {id : ID} {owner : Owner Address} {sbt : SoulBoundToken}
    (minted : s.store.objects id = some ⟨owner, .soulBoundToken sbt⟩) :
    (∃ t, step ⟨minter, .revoke cap id⟩ s = .ok t ∧
      t.store.objects id =
        some ⟨owner, .soulBoundToken { sbt with revoked := true }⟩) ↔
      sbt.recipient = minter := by
  have owned : owner = .address sbt.recipient :=
    ((wellOwned_of_run run).objects id _ minted).2
  subst owned
  constructor
  · rintro ⟨t, revoked, -⟩
    obtain ⟨owner', sbt', stored, permitted, -⟩ := revoke_ok revoked
    rw [minted] at stored
    cases stored
    exact Owner.permits_address_iff.mp permitted
  · intro same
    have capInput : inputCap minter .read cap s = .ok fields :=
      inputCap_ok.mpr ⟨_, holds, Owner.permits_address_iff.mpr rfl⟩
    exact exists_revoke capInput minted (Owner.permits_address_iff.mpr same)

section Sample

def sampleMint (recipient : Address) : Transaction :=
  ⟨0xabcd, .mint minterCapId recipient 123 1337 7331 100⟩

def sampleState (recipient : Address) : State :=
  finalState step [sampleMint recipient] (init 0xabcd)

theorem run_sampleState (recipient : Address) :
    Run 0xabcd [sampleMint recipient] (sampleState recipient) :=
  trace_finalState rfl

theorem objects_sampleState (recipient : Address) :
    (∃ fields, (sampleState recipient).store.objects minterCapId =
        some ⟨.address 0xabcd, .minterCap fields⟩) ∧
      (sampleState recipient).store.objects 1 = some ⟨.address recipient,
        .soulBoundToken ⟨recipient, 100, 123, 1337, 7331, false, 0xabcd⟩⟩ :=
  ⟨⟨_, rfl⟩, rfl⟩

/-- The publisher can revoke a token minted to itself. -/
theorem own_token_revocable :
    ∃ t, step ⟨0xabcd, .revoke minterCapId 1⟩ (sampleState 0xabcd) = .ok t ∧
      t.store.objects 1 = some ⟨.address 0xabcd,
        .soulBoundToken ⟨0xabcd, 100, 123, 1337, 7331, true, 0xabcd⟩⟩ := by
  obtain ⟨⟨fields, holds⟩, minted⟩ := objects_sampleState 0xabcd
  exact (revoke_iff (run_sampleState 0xabcd) holds minted).mpr rfl

/-- The publisher cannot revoke a token minted to `0xbeef`. -/
theorem other_token_not_revocable :
    Run 0xabcd [sampleMint 0xbeef] (sampleState 0xbeef) ∧
      (∃ fields, (sampleState 0xbeef).store.objects minterCapId =
        some ⟨.address 0xabcd, .minterCap fields⟩) ∧
      (sampleState 0xbeef).store.objects 1 = some ⟨.address 0xbeef,
        .soulBoundToken ⟨0xbeef, 100, 123, 1337, 7331, false, 0xabcd⟩⟩ ∧
      ∀ t, step ⟨0xabcd, .revoke minterCapId 1⟩ (sampleState 0xbeef) ≠ .ok t := by
  refine ⟨run_sampleState 0xbeef, (objects_sampleState 0xbeef).1,
    (objects_sampleState 0xbeef).2, ?_⟩
  intro t revoked
  obtain ⟨owner, sbt, stored, permitted, -⟩ := revoke_ok revoked
  rw [(objects_sampleState 0xbeef).2] at stored
  cases stored
  revert permitted
  decide

end Sample

end SuiSbt

end IdHub
