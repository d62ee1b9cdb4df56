import IdHub.HubRegistry

/-!
# Revocation and replayed mints

A mint stores its record as unrevoked, whatever was stored before, and the signed
message does not say when it was signed.  What keeps a signature from restoring
a revoked record is the nullifier of its message.  A message without a nullifier
can be replayed, and does restore the record.
-/

namespace IdHub

namespace Hub

open CallTraces Guards Reentrancy

variable {env : Environment} {history : List Message}

/-- The revocation of a record is what a lookup reports, unless it has expired. -/
theorem getSBT_error_of_revoked {s : State} {sbtOwner : Address} {circuitId : Bytes32}
    (revoked : (s.records.sbtOwners (getIdentifier env sbtOwner circuitId)).revoked = true)
    (timestamp : U256) :
    ∃ error, getSBT env timestamp sbtOwner circuitId s = .error error := by
  cases found : getSBT env timestamp sbtOwner circuitId s with
  | error error => exact ⟨error, rfl⟩
  | ok sbt =>
      obtain ⟨rfl, -, unrevoked⟩ := lookup_eq_ok.mp found
      rw [revoked] at unrevoked
      exact absurd unrevoked (by simp)

theorem signedString_nullifier {first second : SetSBT}
    (equal : first.signedString env.chainid = second.signedString env.chainid) :
    first.nullifier = second.nullifier := by
  have words := ofWords_words_injective equal
  simp only [List.cons_append, List.cons.injEq] at words
  exact words.2.2.2.2.1

theorem nullifier_of_digest_eq
    (collisionFree : env.CollisionFree (hashed env history)) {first second : SetSBT}
    (member : first ∈ mints history) (member' : second ∈ mints history)
    (equal : first.digest env = second.digest env) :
    first.nullifier = second.nullifier := by
  have sameEnvelope := collisionFree _ (hashed_of_mint member (by simp)) _
    (hashed_of_mint member' (by simp)) equal
  have sameHash := ethSignedMessage_injective sameEnvelope
  have sameString := collisionFree _ (hashed_of_mint member (by simp)) _
    (hashed_of_mint member' (by simp)) sameHash
  exact signedString_nullifier sameString

/-- Every message that the later calls mint was minted by an earlier call. -/
def Replays (env : Environment) (earlier later : List Message) : Prop :=
  ∀ args ∈ mints later, ∃ args' ∈ mints earlier, args'.digest env = args.digest env

/-- The mints of a history for a receiver and circuit carry nullifiers. -/
def Nullified (sbtOwner : Address) (circuitId : Bytes32) (history : List Message) : Prop :=
  ∀ args ∈ mints history, args.receiver = sbtOwner → args.circuitId = circuitId →
    args.nullifier ≠ 0

structure KeptRevoked (identifier : Bytes32) (earlier : List Message)
    (registry : Registry) : Prop where
  revoked : (registry.records.sbtOwners identifier).revoked = true
  used : ∀ args ∈ mints earlier, args.nullifier ≠ 0 →
    registry.records.usedNullifiers args.nullifier = true

/-- A step keeps a record revoked if its mint of the record, if it is one, carries
the nullifier of an earlier mint: then the mint fails. -/
theorem Step.keptRevoked {m : Message} {registry after : Registry}
    {identifier : Bytes32} {earlier : List Message} (step : Step env m registry after)
    (replayed : ∀ args, m.mint? = some args → args.identifier env = identifier →
      args.nullifier ≠ 0 ∧ ∃ args' ∈ mints earlier, args'.nullifier = args.nullifier)
    (kept : KeptRevoked identifier earlier registry) :
    KeptRevoked identifier earlier after := by
  refine ⟨?_, fun args member nonzero => step.used (kept.used args member nonzero)⟩
  cases step with
  | mint args minted signed fresh =>
      have different : args.identifier env ≠ identifier := by
        intro same
        obtain ⟨nonzero, args', member, sameNullifier⟩ := replayed args minted same
        have used := kept.used args' member (sameNullifier ▸ nonzero)
        rw [sameNullifier, fresh nonzero] at used
        exact absurd used (by simp)
      simpa [different.symm] using kept.revoked
  | revoke entry byOwner => exact revoked_revoke _ kept.revoked
  | administer minted revoked records =>
      rw [records]
      exact kept.revoked

theorem Step.revokes_record {m : Message} {registry after : Registry}
    {sbtOwner : Address} {circuitId : Bytes32} (step : Step env m registry after)
    (revocation : m.entrypoint = .revokeSBT sbtOwner circuitId) :
    (after.records.sbtOwners (getIdentifier env sbtOwner circuitId)).revoked = true := by
  cases step with
  | mint args minted signed fresh =>
      rw [mint?_of_revokes revocation] at minted
      exact absurd minted (by simp)
  | revoke entry byOwner =>
      rw [revocation, Entrypoint.revokeSBT.injEq] at entry
      obtain ⟨rfl, rfl⟩ := entry
      simp [Records.revoke]
  | administer minted revoked records => exact absurd revocation (revoked _ _)

/-- Once revoked, a record stays revoked as long as only messages accepted before
are minted again and those for the record carry nullifiers. -/
theorem getSBT_reverts_after_revocation {deployer verifier : Address} {balance : ℕ}
    {world : World Message State}
    (reached : Reached (contract env) ⟨constructor deployer verifier balance, []⟩ world)
    (collisionFree : env.CollisionFree (hashed env world.history))
    {pre post : List Message} {m : Message} {sbtOwner : Address} {circuitId : Bytes32}
    (history : world.history = pre ++ m :: post)
    (revocation : m.entrypoint = .revokeSBT sbtOwner circuitId)
    (replays : Replays env pre post) (nullified : Nullified sbtOwner circuitId post)
    (timestamp : U256) :
    ∃ error, getSBT env timestamp sbtOwner circuitId world.state = .error error := by
  have trace := trace_of_reached reached
  rw [history] at trace
  obtain ⟨enter, leave, earlier, step, later⟩ := trace.split_at
  have mintsSplit : mints world.history = mints pre ++ mints post := by
    have notMint : mints (m :: post) = mints post :=
      List.filterMap_cons_none (mint?_of_revokes revocation)
    rw [history, mints_append, notMint]
  have revokedPair : identifierString sbtOwner circuitId ∈ hashed env world.history := by
    have member : m ∈ world.history := by simp [history]
    apply hashed_subset member
    simp [Message.hashed, revocation]
  have indexed := nullifiersIndexed_of_trace earlier
  have start : KeptRevoked (getIdentifier env sbtOwner circuitId) pre leave :=
    ⟨step.revokes_record revocation,
      fun args member nonzero => step.used (indexed args member nonzero).1⟩
  have final : KeptRevoked (getIdentifier env sbtOwner circuitId) pre
      world.state.registry := by
    refine later.invariant_of_mem ?_ start
    intro call memberPost before after stepPost
    apply stepPost.keptRevoked
    intro args minted same
    have memberMints : args ∈ mints post :=
      List.mem_filterMap.mpr ⟨call, memberPost, minted⟩
    have memberHistory : args ∈ mints world.history := by simp [mintsSplit, memberMints]
    obtain ⟨sameOwner, sameCircuit⟩ := pair_of_identifier_eq collisionFree
      (hashed_of_mint memberHistory (by simp)) revokedPair same
    obtain ⟨args', memberPre, sameDigest⟩ := replays args memberMints
    have memberHistory' : args' ∈ mints world.history := by simp [mintsSplit, memberPre]
    exact ⟨nullified args memberMints sameOwner sameCircuit, args', memberPre,
      nullifier_of_digest_eq collisionFree memberHistory' memberHistory sameDigest⟩
  exact getSBT_error_of_revoked final.revoked timestamp

/-- A replayed message without a nullifier restores the record it minted. -/
theorem plainMint_restored :
    let world := sampleWorld
      [.setSBT plainMint, .revokeSBT 0xa1 0xc1, .setSBT plainMint]
    Reached (contract sampleEnvironment) ⟨constructor 0xad sampleVerifier 0, []⟩ world ∧
      sampleEnvironment.CollisionFree (hashed sampleEnvironment world.history) ∧
      world.history = [sampleMessage (.setSBT plainMint)] ++
        sampleMessage (.revokeSBT 0xa1 0xc1) :: [sampleMessage (.setSBT plainMint)] ∧
      getSBT sampleEnvironment 1000 0xa1 0xc1 world.state = .ok ⟨2000, [5], false⟩ :=
  ⟨reached_sampleWorld _, by decide +kernel⟩

/-- A replay of the revoked record's own mint fails, and one for another circuit
does not restore the record. -/
theorem firstMint_stays_revoked :
    ∃ error, getSBT sampleEnvironment 1000 0xa1 0xc1
      (sampleWorld [.setSBT firstMint, .setSBT otherMint, .revokeSBT 0xa1 0xc1,
        .setSBT otherMint, .setSBT firstMint]).state = .error error := by
  have history : (sampleWorld [.setSBT firstMint, .setSBT otherMint, .revokeSBT 0xa1 0xc1,
        .setSBT otherMint, .setSBT firstMint]).history =
      [sampleMessage (.setSBT firstMint), sampleMessage (.setSBT otherMint)] ++
        sampleMessage (.revokeSBT 0xa1 0xc1) :: [sampleMessage (.setSBT otherMint)] := by
    decide +kernel
  refine getSBT_reverts_after_revocation (reached_sampleWorld _) (by decide +kernel) history
    rfl ?_ ?_ 1000
  · unfold Replays
    decide +kernel
  · unfold Nullified
    decide +kernel

end Hub

end IdHub
