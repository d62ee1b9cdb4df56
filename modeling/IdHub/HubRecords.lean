import IdHub.HubRegistry

/-!
# Records as last writes

Only the mints and revocations for an identifier write its record, in the order in
which they took effect, and a mint overwrites what is stored.  So what `getSBT` returns
is decided by the last call for the receiver and circuit: if it is a mint, by that
mint's expiration and public values, and if not, nothing is returned.
-/

namespace IdHub

namespace Hub

open CallTraces Guards Reentrancy

/-- The identifier whose record the call writes. -/
def Message.identifier? (env : Environment) (m : Message) : Option Bytes32 :=
  match m.entrypoint with
  | .setSBT args => some (args.identifier env)
  | .revokeSBT sbtOwner circuitId => some (getIdentifier env sbtOwner circuitId)
  | _ => none

/-- What the call makes of that record. -/
def Message.writeRecord (m : Message) (record : SBT) : SBT :=
  match m.entrypoint with
  | .setSBT args => args.sbt
  | .revokeSBT _ _ => { record with revoked := true }
  | _ => record

def writesTo (env : Environment) (identifier : Bytes32) (calls : List Message) :
    List Message :=
  calls.filter fun m => m.identifier? env = some identifier

def recordAfter (env : Environment) (identifier : Bytes32) (calls : List Message)
    (initial : SBT) : SBT :=
  (writesTo env identifier calls).foldl (fun record m => m.writeRecord record) initial

variable {env : Environment} {m : Message} {identifier : Bytes32}
variable {calls history : List Message} {initial : SBT}

theorem recordAfter_append (first second : List Message) :
    recordAfter env identifier (first ++ second) initial =
      recordAfter env identifier second (recordAfter env identifier first initial) := by
  simp only [recordAfter, writesTo, List.filter_append, List.foldl_append]

theorem recordAfter_of_untouched (untouched : writesTo env identifier calls = []) :
    recordAfter env identifier calls initial = initial := by
  rw [recordAfter, untouched, List.foldl_nil]

/-- The last write has the last word. -/
theorem recordAfter_of_last (initial : SBT)
    (last : (writesTo env identifier calls).getLast? = some m) :
    ∃ before, recordAfter env identifier calls initial = m.writeRecord before := by
  obtain ⟨earlier, split⟩ := List.getLast?_eq_some_iff.mp last
  rw [recordAfter, split, List.foldl_append]
  exact ⟨_, rfl⟩

theorem mem_of_last (last : (writesTo env identifier calls).getLast? = some m) :
    m ∈ calls ∧ m.identifier? env = some identifier := by
  simpa [writesTo] using List.mem_of_getLast? last

theorem Step.record {registry after : Registry} (step : Step env m registry after)
    (identifier : Bytes32) :
    after.records.sbtOwners identifier =
      recordAfter env identifier [m] (registry.records.sbtOwners identifier) := by
  cases step with
  | mint args minted signed fresh =>
      have entry := mint?_eq_some.mp minted
      rw [sbtOwners_minted]
      rcases eq_or_ne (args.identifier env) identifier with rfl | other
      · simp [recordAfter, writesTo, Message.identifier?, Message.writeRecord, entry]
      · simp [recordAfter, writesTo, Message.identifier?, entry, other, other.symm]
  | @revoke sbtOwner circuitId registry entry byOwner =>
      rcases eq_or_ne (getIdentifier env sbtOwner circuitId) identifier with rfl | other
      · simp [recordAfter, writesTo, Message.identifier?, Message.writeRecord, entry,
          Records.revoke]
      · simp [recordAfter, writesTo, Message.identifier?, entry, other, other.symm,
          Records.revoke]
  | administer minted revoked records =>
      have untouched : m.identifier? env = none := by
        unfold Message.identifier?
        cases entry : m.entrypoint with
        | setSBT args => simp [Message.mint?, entry] at minted
        | revokeSBT sbtOwner circuitId => exact absurd entry (revoked sbtOwner circuitId)
        | _ => rfl
      rw [records]
      simp [recordAfter, writesTo, untouched]

theorem Step.record_of_mint {registry after : Registry} (step : Step env m registry after)
    {args : SetSBT} (minted : m.entrypoint = .setSBT args) :
    after.records.sbtOwners (args.identifier env) = args.sbt := by
  rw [step.record]
  simp [recordAfter, writesTo, Message.identifier?, Message.writeRecord, minted]

/-- A record is what the calls of the history make of it. -/
theorem record_of_trace {initial registry : Registry}
    (trace : Trace (Step env) initial history registry) (identifier : Bytes32) :
    registry.records.sbtOwners identifier =
      recordAfter env identifier history (initial.records.sbtOwners identifier) := by
  induction trace with
  | nil state => rfl
  | @cons call _ _ _ calls first rest ih =>
      rw [ih, first.record identifier, ← recordAfter_append]
      rfl

theorem record_of_reached {deployer verifier : Address} {balance : ℕ}
    {world : World Message State}
    (reached : Reached (contract env) ⟨constructor deployer verifier balance, []⟩ world)
    (identifier : Bytes32) :
    world.state.records.sbtOwners identifier =
      recordAfter env identifier world.history .unset :=
  record_of_trace (trace_of_reached reached) identifier

/-- A record is there, unexpired and unrevoked, if the last call that wrote it is a
mint. -/
theorem live_iff_last_mints {timestamp : U256} (positive : 0 < timestamp) {sbt : SBT} :
    (sbt = recordAfter env identifier history .unset ∧ timestamp ≤ sbt.expiry ∧
        sbt.revoked = false) ↔
      ∃ K m, (writesTo env identifier history).getLast? = some m ∧
        m.entrypoint = .setSBT K ∧ timestamp ≤ K.expiration ∧ sbt = K.sbt := by
  cases last : (writesTo env identifier history).getLast? with
  | none =>
      rw [recordAfter_of_untouched (List.getLast?_eq_none_iff.mp last)]
      constructor
      · rintro ⟨rfl, unexpired, -⟩
        have never : timestamp ≤ 0 := unexpired
        exact absurd positive (by simpa using never)
      · rintro ⟨K, m, absent, -⟩
        cases absent
  | some m =>
      obtain ⟨before, written⟩ := recordAfter_of_last .unset last
      have identified := (mem_of_last last).2
      rw [written]
      cases entry : m.entrypoint with
      | setSBT K =>
          have stored : m.writeRecord before = K.sbt := by rw [Message.writeRecord, entry]
          rw [stored]
          constructor
          · rintro ⟨rfl, unexpired, -⟩
            exact ⟨K, m, rfl, entry, unexpired, rfl⟩
          · rintro ⟨K', m', same, entry', unexpired, rfl⟩
            rw [Option.some.injEq] at same
            rw [← same, entry, Entrypoint.setSBT.injEq] at entry'
            rw [← entry'] at unexpired ⊢
            exact ⟨rfl, unexpired, rfl⟩
      | revokeSBT sbtOwner circuitId =>
          constructor
          · rintro ⟨rfl, -, unrevoked⟩
            simp [Message.writeRecord, entry] at unrevoked
          · rintro ⟨K, m', same, entry', -⟩
            rw [Option.some.injEq] at same
            rw [← same, entry] at entry'
            cases entry'
      | _ => simp [Message.identifier?, entry] at identified

section Lookup

variable {sbtOwner : Address} {circuitId : Bytes32}

/-- The call is a mint or a revocation for the receiver and circuit. -/
def Message.Concerns (sbtOwner : Address) (circuitId : Bytes32) (m : Message) : Prop :=
  match m.entrypoint with
  | .setSBT args => args.receiver = sbtOwner ∧ args.circuitId = circuitId
  | .revokeSBT sbtOwner' circuitId' => sbtOwner' = sbtOwner ∧ circuitId' = circuitId
  | _ => False

instance (m : Message) : Decidable (m.Concerns sbtOwner circuitId) := by
  unfold Message.Concerns
  split <;> infer_instance

/-- Of the mints for the receiver and circuit `K` made the last write, and no
revocation of theirs took effect after it. -/
def StandingMint (sbtOwner : Address) (circuitId : Bytes32) (K : SetSBT)
    (history : List Message) : Prop :=
  ∃ pre m post, history = pre ++ m :: post ∧ m.entrypoint = .setSBT K ∧
    K.receiver = sbtOwner ∧ K.circuitId = circuitId ∧
    (∀ later ∈ post, ∀ args, later.entrypoint = .setSBT args →
      ¬ (args.receiver = sbtOwner ∧ args.circuitId = circuitId)) ∧
    ∀ later ∈ post, later.entrypoint ≠ .revokeSBT sbtOwner circuitId

theorem not_concerns_iff : ¬ m.Concerns sbtOwner circuitId ↔
    (∀ args, m.entrypoint = .setSBT args →
      ¬ (args.receiver = sbtOwner ∧ args.circuitId = circuitId)) ∧
    m.entrypoint ≠ .revokeSBT sbtOwner circuitId := by
  unfold Message.Concerns
  cases m.entrypoint <;> simp

/-- Without collisions the record of a pair is written by the calls for the pair. -/
theorem identifier?_iff_concerns
    (collisionFree : env.CollisionFree (identifierString sbtOwner circuitId ::
      hashed env history)) (member : m ∈ history) :
    m.identifier? env = some (getIdentifier env sbtOwner circuitId) ↔
      m.Concerns sbtOwner circuitId := by
  have pair {user : Address} {circuit : Bytes32}
      (inMessage : identifierString user circuit ∈ m.hashed env) :
      getIdentifier env user circuit = getIdentifier env sbtOwner circuitId ↔
        user = sbtOwner ∧ circuit = circuitId := by
    constructor
    · intro equal
      exact identifierString_inj (collisionFree _
        (List.mem_cons_of_mem _ (hashed_subset member inMessage)) _ List.mem_cons_self equal)
    · rintro ⟨rfl, rfl⟩
      rfl
  unfold Message.identifier? Message.Concerns
  cases entry : m.entrypoint with
  | setSBT args =>
      rw [Option.some.injEq]
      exact pair (by simp [Message.hashed, entry])
  | revokeSBT user circuit =>
      rw [Option.some.injEq]
      exact pair (by simp [Message.hashed, entry])
  | _ => simp

theorem writesTo_eq_concerns
    (collisionFree : env.CollisionFree (identifierString sbtOwner circuitId ::
      hashed env history)) (sublist : calls ⊆ history) :
    writesTo env (getIdentifier env sbtOwner circuitId) calls =
      calls.filter fun m => m.Concerns sbtOwner circuitId := by
  apply List.filter_congr
  intro m member
  simpa using identifier?_iff_concerns collisionFree (sublist member)

theorem standingMint_iff {K : SetSBT} : StandingMint sbtOwner circuitId K history ↔
    ∃ m, (history.filter fun m => m.Concerns sbtOwner circuitId).getLast? = some m ∧
      m.entrypoint = .setSBT K := by
  simp only [List.getLast?_filter, List.find?_eq_some_iff_append]
  constructor
  · rintro ⟨pre, m, post, rfl, entry, receiver, circuit, notMinted, notRevoked⟩
    have concerns : m.Concerns sbtOwner circuitId := by
      simp [Message.Concerns, entry, receiver, circuit]
    refine ⟨m, ⟨by simpa using concerns, post.reverse, pre.reverse, by simp, ?_⟩, entry⟩
    intro later member
    have member' : later ∈ post := List.mem_reverse.mp member
    have unconcerned : ¬ later.Concerns sbtOwner circuitId :=
      not_concerns_iff.mpr ⟨notMinted later member', notRevoked later member'⟩
    simpa using unconcerned
  · rintro ⟨m, ⟨concerns, post, pre, split, unconcerned⟩, entry⟩
    have concernsM : m.Concerns sbtOwner circuitId := by simpa using concerns
    have unconcernedM : ∀ later ∈ post.reverse, ¬ later.Concerns sbtOwner circuitId := by
      intro later member
      simpa using unconcerned later (List.mem_reverse.mp member)
    simp only [Message.Concerns, entry] at concernsM
    refine ⟨pre.reverse, m, post.reverse, ?_, entry, concernsM.1, concernsM.2, ?_, ?_⟩
    · simpa using congrArg List.reverse split
    · exact fun later member => (not_concerns_iff.mp (unconcernedM later member)).1
    · exact fun later member => (not_concerns_iff.mp (unconcernedM later member)).2

theorem standingMint_iff_last
    (collisionFree : env.CollisionFree (identifierString sbtOwner circuitId ::
      hashed env history)) {K : SetSBT} :
    StandingMint sbtOwner circuitId K history ↔
      ∃ m, (writesTo env (getIdentifier env sbtOwner circuitId) history).getLast? = some m ∧
        m.entrypoint = .setSBT K := by
  rw [standingMint_iff, writesTo_eq_concerns collisionFree (List.Subset.refl history)]

/-- What a lookup returns is the last write of the history for the receiver and circuit,
and the calls for other pairs do not matter. -/
theorem getSBT_reflects_last_write {deployer verifier : Address} {balance : ℕ}
    {world : World Message State}
    (reached : Reached (contract env) ⟨constructor deployer verifier balance, []⟩ world)
    (collisionFree : env.CollisionFree (identifierString sbtOwner circuitId ::
      hashed env world.history)) :
    (∀ (timestamp : U256) (sbt : SBT), 0 < timestamp →
      (getSBT env timestamp sbtOwner circuitId world.state = .ok sbt ↔
        ∃ K, StandingMint sbtOwner circuitId K world.history ∧
          timestamp ≤ K.expiration ∧ sbt = ⟨K.expiration, K.publicValues, false⟩)) ∧
    ∀ earlier calls,
      Reached (contract env) ⟨constructor deployer verifier balance, []⟩ earlier →
      world.history = earlier.history ++ calls →
      (∀ call ∈ calls, ¬ call.Concerns sbtOwner circuitId) →
      ∀ timestamp, getSBT env timestamp sbtOwner circuitId world.state =
        getSBT env timestamp sbtOwner circuitId earlier.state := by
  have record := record_of_reached reached (getIdentifier env sbtOwner circuitId)
  constructor
  · intro timestamp sbt positive
    rw [getSBT, lookup_eq_ok, record, live_iff_last_mints positive]
    constructor
    · rintro ⟨K, m, last, entry, unexpired, rfl⟩
      exact ⟨K, (standingMint_iff_last collisionFree).mpr ⟨m, last, entry⟩, unexpired, rfl⟩
    · rintro ⟨K, standing, unexpired, rfl⟩
      obtain ⟨m, last, entry⟩ := (standingMint_iff_last collisionFree).mp standing
      exact ⟨K, m, last, entry, unexpired, rfl⟩
  · intro earlier calls reachedEarlier history unconcerned timestamp
    have sublist : calls ⊆ world.history := by simp [history]
    have untouched : writesTo env (getIdentifier env sbtOwner circuitId) calls = [] := by
      rw [writesTo_eq_concerns collisionFree sublist, List.filter_eq_nil_iff]
      simpa using unconcerned
    have sameRecord : world.state.records.sbtOwners (getIdentifier env sbtOwner circuitId) =
        earlier.state.records.sbtOwners (getIdentifier env sbtOwner circuitId) := by
      rw [record, history, recordAfter_append, recordAfter_of_untouched untouched,
        record_of_reached reachedEarlier]
    simp only [getSBT, getSBT_, sameRecord]

/-- The first mint was revoked and the second one stands, and the revocation of another
circuit's record leaves it. -/
theorem secondMint_stands :
    (∃ K, StandingMint 0xa1 0xc1 K (sampleWorld [.setSBT firstMint, .revokeSBT 0xa1 0xc1,
        .setSBT secondMint, .revokeSBT 0xa1 0xc2]).history ∧
      1000 ≤ K.expiration ∧ secondMint.sbt = ⟨K.expiration, K.publicValues, false⟩) ∧
    getSBT sampleEnvironment 1000 0xa1 0xc1 (sampleWorld [.setSBT firstMint,
        .revokeSBT 0xa1 0xc1, .setSBT secondMint, .revokeSBT 0xa1 0xc2]).state =
      getSBT sampleEnvironment 1000 0xa1 0xc1 (sampleWorld [.setSBT firstMint,
        .revokeSBT 0xa1 0xc1, .setSBT secondMint]).state := by
  have reflects := @getSBT_reflects_last_write sampleEnvironment 0xa1 0xc1 _ _ _ _
    (reached_sampleWorld [.setSBT firstMint, .revokeSBT 0xa1 0xc1, .setSBT secondMint,
      .revokeSBT 0xa1 0xc2]) (by decide +kernel)
  constructor
  · exact (reflects.1 1000 secondMint.sbt (by decide)).mp (by decide +kernel)
  · exact reflects.2 _ [sampleMessage (.revokeSBT 0xa1 0xc2)] (reached_sampleWorld _)
      (by decide +kernel) (by decide) 1000

end Lookup

end Hub

end IdHub
