import IdHub.HubBatch
import IdHub.SingleUse

/-!
# Nullifiers are used once

The nullifier check of `setSBT`, its mark and its pointer are written before the
receiver's hook runs, so a mint is one step of the registry and nested mints are
later steps.  Nullifiers are keys that mints use once.  Calls through `HubBatch` are
calls of a script whose sender is that contract, so batches keep them too.
-/

namespace IdHub

namespace Hub

open CallTraces Guards Reentrancy SingleUse

/-- The mints of a history that were made with a nullifier. -/
def mintsWith (nullifier : U256) (history : List Message) : List SetSBT :=
  usesOf Message.mint? SetSBT.nullifier nullifier history

/-- A nullifier is unmarked and points nowhere if no mint took effect with it.
Otherwise exactly one did, and it is marked and points to that mint's identifier. -/
def NullifierMode (env : Environment) (nullifier : U256) (history : List Message)
    (records : Records) : Prop :=
  Mode (mintsWith nullifier history)
    (records.usedNullifiers nullifier = false ∧
      records.nullifiersToIdentifiers nullifier = 0)
    fun args => records.usedNullifiers nullifier = true ∧
      records.nullifiersToIdentifiers nullifier =
        getIdentifier env args.receiver args.circuitId

variable {env : Environment} {m : Message} {nullifier : U256} {history : List Message}
variable {registry after : Registry}

theorem used_minted_of_ne (records : Records) {args : SetSBT}
    (other : nullifier ≠ args.nullifier) :
    (records.minted env args).usedNullifiers nullifier =
      records.usedNullifiers nullifier := by
  unfold Records.minted Records.mark
  split
  · rfl
  · simp [Records.write, other]

/-- A step that does not mint with the nullifier leaves its mark and its pointer. -/
theorem Step.nullifier_kept (step : Step env m registry after)
    (others : ∀ args, m.mint? = some args → args.nullifier ≠ nullifier) :
    after.records.usedNullifiers nullifier = registry.records.usedNullifiers nullifier ∧
      after.records.nullifiersToIdentifiers nullifier =
        registry.records.nullifiersToIdentifiers nullifier := by
  cases step with
  | mint args minted signed fresh =>
      have other : nullifier ≠ args.nullifier := (others args minted).symm
      constructor
      · exact used_minted_of_ne registry.records other
      · rw [nullifiersToIdentifiers_minted, Function.update_of_ne other]
  | revoke entry byOwner => exact ⟨rfl, rfl⟩
  | administer minted revoked records =>
      rw [records]
      exact ⟨rfl, rfl⟩

/-- A mint finds its nullifier unmarked, marks it and sets its pointer. -/
theorem Step.nullifier_taken (step : Step env m registry after) {args : SetSBT}
    (minted : m.mint? = some args) (nonzero : args.nullifier ≠ 0) :
    registry.records.usedNullifiers args.nullifier = false ∧
      after.records.usedNullifiers args.nullifier = true ∧
      after.records.nullifiersToIdentifiers args.nullifier =
        getIdentifier env args.receiver args.circuitId := by
  cases step with
  | mint latest isLatest signed fresh =>
      rw [minted, Option.some.injEq] at isLatest
      subst isLatest
      refine ⟨fresh nonzero, used_minted_self _ _ nonzero, ?_⟩
      rw [nullifiersToIdentifiers_minted, Function.update_self]
      rfl
  | revoke entry byOwner => simp [mint?_of_revokes entry] at minted
  | administer none revoked records => simp [none] at minted

theorem Step.nullifierMode (step : Step env m registry after) (nonzero : nullifier ≠ 0)
    (mode : NullifierMode env nullifier history registry.records) :
    NullifierMode env nullifier (history ++ [m]) after.records := by
  apply Mode.step mode
  · rintro args minted rfl
    obtain ⟨unmarked, marked, pointer⟩ := step.nullifier_taken minted nonzero
    refine ⟨?_, marked, pointer⟩
    rintro earlier ⟨marked', -⟩
    rw [unmarked] at marked'
    cases marked'
  · intro others
    obtain ⟨marks, pointers⟩ := step.nullifier_kept others
    rw [marks, pointers]
    exact ⟨id, fun _ => id⟩

theorem nullifierMode_of_trace {later : List Message}
    (trace : Trace (Step env) registry later after) (nonzero : nullifier ≠ 0)
    (mode : NullifierMode env nullifier history registry.records) :
    NullifierMode env nullifier (history ++ later) after.records := by
  apply trace.history_invariant
    (P := fun calls reached => NullifierMode env nullifier calls reached.records)
  · intro earlier call enter leave step before
    exact step.nullifierMode nonzero before
  · exact mode

/-- Across any behaviour of the callers and receivers. -/
theorem nullifierMode_of_reached {world later : World Message State}
    (reached : Reached (contract env) world later) (nonzero : nullifier ≠ 0)
    (mode : NullifierMode env nullifier world.history world.state.records) :
    NullifierMode env nullifier later.history later.state.records := by
  obtain ⟨calls, history, trace⟩ := (contract_linear env).reached reached
  rw [history]
  exact nullifierMode_of_trace trace nonzero mode

/-- Across a batch, also one that has the nullifier in several entries. -/
theorem nullifierMode_of_batch {hooks : HubBatch.Hooks} (byCalls : hooks.ByCalls env)
    {this : Address} {args : HubBatch.BatchArguments} {batch : HubBatch.Batch}
    {world : World Message State}
    (completed : HubBatch.setSBTBatch env hooks this args world.state = .ok batch)
    (nonzero : nullifier ≠ 0)
    (mode : NullifierMode env nullifier world.history world.state.records) :
    ∃ later, NullifierMode env nullifier (world.history ++ later) batch.hub.records := by
  obtain ⟨script, after, executed, state⟩ : ∃ script after,
      exec (contract env) script world = some after ∧ after.state =
        attemptAll (HubBatch.callSetSBT env hooks this) args.entries world.state :=
    HubBatch.exec_of_attemptAll byCalls args.entries world
  obtain ⟨later, history, trace⟩ := (contract_linear env).exec executed
  have hub : batch.hub = after.state := by
    simp only [HubBatch.setSBTBatch, bind_eq_ok, pure_eq_ok] at completed
    obtain ⟨-, -, rfl⟩ := completed
    rw [state]
    exact (HubBatch.tryEntries_spec 0 args.entries ⟨world.state, [], []⟩).1
  refine ⟨later, ?_⟩
  rw [hub]
  exact nullifierMode_of_trace trace nonzero mode

theorem nullifierMode_constructor (deployer verifier : Address) (balance : ℕ) :
    NullifierMode env nullifier [] (constructor deployer verifier balance).records :=
  .unused rfl ⟨rfl, rfl⟩

/-- In every world that a run from the deployment reaches, also inside the hooks of
receivers, at most one mint has taken effect with a nullifier.  The nullifier is
marked and points to an identifier exactly when there is one, and that mint is
found in every later world. -/
theorem nullifiers_single_use {deployer verifier : Address} {balance : ℕ}
    {world : World Message State}
    (reached : Reached (contract env) ⟨constructor deployer verifier balance, []⟩ world)
    (nonzero : nullifier ≠ 0) :
    NullifierMode env nullifier world.history world.state.records ∧
      ∀ later, Reached (contract env) world later →
        NullifierMode env nullifier later.history later.state.records ∧
          mintsWith nullifier world.history <+: mintsWith nullifier later.history := by
  have mode : NullifierMode env nullifier world.history world.state.records :=
    nullifierMode_of_reached reached nonzero (nullifierMode_constructor _ _ _)
  refine ⟨mode, fun later reachedLater => ⟨?_, ?_⟩⟩
  · exact nullifierMode_of_reached reachedLater nonzero mode
  · obtain ⟨calls, history⟩ := history_prefix reachedLater
    rw [← history, mintsWith, mintsWith, usesOf_append]
    exact List.prefix_append _ _

section Sample

/-- A mint whose receiver asks for the same mint in its hook. -/
def nestedMint : Script Message :=
  let mint := sampleMessage (.setSBT firstMint)
  .call mint (.call mint .done .done) .done

def nestedWorld : World Message State :=
  run (contract sampleEnvironment) [nestedMint, nestedMint]
    ⟨constructor 0xad sampleVerifier 0, []⟩

example : mintsWith 1 nestedWorld.history = [firstMint] := by
  decide +kernel

theorem nestedWorld_single_use :
    NullifierMode sampleEnvironment 1 nestedWorld.history nestedWorld.state.records ∧
      ∀ later, Reached (contract sampleEnvironment) nestedWorld later →
        NullifierMode sampleEnvironment 1 later.history later.state.records ∧
          mintsWith 1 nestedWorld.history <+: mintsWith 1 later.history :=
  nullifiers_single_use ⟨[nestedMint, nestedMint], .done, .here .done _⟩ (by decide)

end Sample

end Hub

end IdHub
