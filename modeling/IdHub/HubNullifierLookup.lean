import IdHub.HubRegistry

/-!
# Lookup by nullifier

`getSBTByNullifier` follows the nullifier to the identifier of its mint's receiver
and circuit, and returns the record stored there.  That is the record of the last
mint for this receiver and circuit, which need not be the mint that carried the
nullifier.
-/

namespace IdHub

namespace Hub

open CallTraces Guards Reentrancy

/-- The last mint of a history for the receiver and circuit. -/
def lastMint (receiver : Address) (circuitId : Bytes32) (history : List Message) :
    Option SetSBT :=
  ((mints history).filter fun args =>
    args.receiver = receiver ∧ args.circuitId = circuitId).getLast?

variable {env : Environment} {timestamp : U256}

/-- Among hashed pairs the last data for an identifier is that of the last mint. -/
theorem lastData_eq_lastMint {history later : List Message}
    (collisionFree : env.CollisionFree (hashed env history))
    (sublist : ∀ args ∈ mints later, args ∈ mints history) {K : SetSBT}
    (member : K ∈ mints history) (initial : U256 × List U256) :
    lastData env (K.identifier env) later initial =
      ((lastMint K.receiver K.circuitId later).map fun args => args.sbt.data).getD
        initial := by
  have samePair : (mints later).filter (fun args => args.identifier env = K.identifier env) =
      (mints later).filter fun args =>
        args.receiver = K.receiver ∧ args.circuitId = K.circuitId := by
    apply List.filter_congr
    intro args memberLater
    simp only [decide_eq_decide]
    constructor
    · intro equal
      exact pair_of_identifier_eq collisionFree
        (hashed_of_mint (sublist args memberLater) (by simp))
        (hashed_of_mint member (by simp)) equal
    · rintro ⟨receiver, circuitId⟩
      rw [SetSBT.identifier, receiver, circuitId, SetSBT.identifier]
  rw [lastData, samePair, lastMint]

/-- A nullifier leads to the data of the last mint for the receiver and circuit of
its own mint: that mint's data, unless a later one replaced it. -/
theorem getSBTByNullifier_lastMint {deployer verifier : Address} {balance : ℕ}
    {world : World Message State}
    (reached : Reached (contract env) ⟨constructor deployer verifier balance, []⟩ world)
    (collisionFree : env.CollisionFree (hashed env world.history))
    {pre post : List Message} {m : Message} {K : SetSBT}
    (history : world.history = pre ++ m :: post) (minted : m.entrypoint = .setSBT K)
    (nonzero : K.nullifier ≠ 0) {sbt : SBT}
    (found : getSBTByNullifier timestamp K.nullifier world.state = .ok sbt) :
    sbt.expiry = ((lastMint K.receiver K.circuitId post).getD K).expiration ∧
      sbt.publicValues = ((lastMint K.receiver K.circuitId post).getD K).publicValues := by
  have trace := trace_of_reached reached
  have mintedK : m.mint? = some K := mint?_eq_some.mpr minted
  have mintsSplit : mints world.history = mints pre ++ K :: mints post := by
    rw [history, mints_append, mints_cons_some mintedK]
  have member : K ∈ mints world.history := by simp [mintsSplit]
  have sublist : ∀ args ∈ mints post, args ∈ mints world.history := by
    intro args memberPost
    simp [mintsSplit, memberPost]
  have pointer : world.state.records.nullifiersToIdentifiers K.nullifier =
      K.identifier env := (nullifiersIndexed_of_trace trace K member nonzero).2
  have stored := data_of_trace trace (K.identifier env)
  have ownMint : ∀ initial, lastData env (K.identifier env) [m] initial = K.sbt.data := by
    intro initial
    simp [lastData, mints_single_some mintedK]
  rw [history, lastData_append, ← List.singleton_append, lastData_append, ownMint,
    lastData_eq_lastMint collisionFree sublist member] at stored
  have record := (lookup_eq_ok.mp found).1
  rw [pointer] at record
  have data : sbt.data = ((lastMint K.receiver K.circuitId post).getD K).sbt.data := by
    rw [record]
    refine stored.trans ?_
    cases lastMint K.receiver K.circuitId post <;> rfl
  exact ⟨congrArg Prod.fst data, congrArg Prod.snd data⟩

/-- After a second mint for the receiver and circuit, the first one's nullifier
leads to the data of the second. -/
theorem firstMint_replaced :
    let world := sampleWorld [.setSBT firstMint, .setSBT secondMint]
    Reached (contract sampleEnvironment) ⟨constructor 0xad sampleVerifier 0, []⟩ world ∧
      sampleEnvironment.CollisionFree (hashed sampleEnvironment world.history) ∧
      world.history = [sampleMessage (.setSBT firstMint), sampleMessage (.setSBT secondMint)] ∧
      firstMint.nullifier ≠ 0 ∧
      getSBTByNullifier 1000 firstMint.nullifier world.state = .ok ⟨2000, [6], false⟩ ∧
      firstMint.publicValues ≠ [6] :=
  ⟨reached_sampleWorld _, by decide +kernel⟩

theorem firstMint_leads_to_secondMint :
    secondMint.sbt.expiry = ((lastMint firstMint.receiver firstMint.circuitId
        [sampleMessage (.setSBT secondMint)]).getD firstMint).expiration ∧
      secondMint.sbt.publicValues = ((lastMint firstMint.receiver firstMint.circuitId
        [sampleMessage (.setSBT secondMint)]).getD firstMint).publicValues := by
  have history : (sampleWorld [.setSBT firstMint, .setSBT secondMint]).history =
      [] ++ sampleMessage (.setSBT firstMint) :: [sampleMessage (.setSBT secondMint)] := by
    decide +kernel
  have found : getSBTByNullifier 1000 firstMint.nullifier
      (sampleWorld [.setSBT firstMint, .setSBT secondMint]).state = .ok secondMint.sbt := by
    decide +kernel
  exact getSBTByNullifier_lastMint (reached_sampleWorld _) (by decide +kernel) history rfl
    (by decide) found

end Hub

end IdHub
