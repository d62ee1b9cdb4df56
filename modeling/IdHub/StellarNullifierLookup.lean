import IdHub.StellarStorage

/-!
# Lookups by nullifier on Stellar

There is one record for each recipient and circuit.  A nullifier leads to the record of
its mint's recipient and circuit, which a later mint for the same two replaces under
another nullifier.  So a lookup finds what the last such mint wrote, and a revocation
lasts until the next.
-/

namespace IdHub

namespace StellarSbt

open CallTraces SingleUse

/-- The last mint for the id. -/
def lastMint (host : Host) (id : U256) (calls : List Call) : Option Mint :=
  ((mints calls).filter fun mint => mint.id host = id).getLast?

def SBT.unrevoked (sbt : SBT) : SBT :=
  { sbt with revoked := false }

/-- Every record is what the last mint for its id wrote, up to its revocation. -/
def Latest (host : Host) (calls : List Call) (registry : Registry) : Prop :=
  ∀ id, (registry.sbts id).map SBT.unrevoked = (lastMint host id calls).map (Mint.sbt host)

def RevokedAt (id : U256) (registry : Registry) : Prop :=
  ∃ sbt, registry.sbts id = some sbt ∧ sbt.revoked = true

variable {host : Host} {call : Call} {calls : List Call} {registry after : Registry}
variable {id nullifier : U256}

theorem lastMint_append_none (minted : call.mint? = none) :
    lastMint host id (calls ++ [call]) = lastMint host id calls := by
  rw [lastMint, mints_append, mints_single_none minted, List.append_nil]
  rfl

theorem lastMint_append_self {mint : Mint} (minted : call.mint? = some mint) :
    lastMint host (mint.id host) (calls ++ [call]) = some mint := by
  rw [lastMint, mints_append, mints_single_some minted, List.filter_append]
  simp

theorem lastMint_append_other {mint : Mint} (minted : call.mint? = some mint)
    (other : id ≠ mint.id host) :
    lastMint host id (calls ++ [call]) = lastMint host id calls := by
  rw [lastMint, mints_append, mints_single_some minted, List.filter_append]
  simp [other.symm, lastMint]

theorem Step.latest (step : Step host call registry after)
    (latest : Latest host calls registry) : Latest host (calls ++ [call]) after := by
  intro id
  cases step with
  | mint mint minted fresh =>
      rcases eq_or_ne id (mint.id host) with rfl | other
      · rw [lastMint_append_self minted]
        simp [Registry.store, SBT.unrevoked, Mint.sbt]
      · rw [lastMint_append_other minted other]
        simpa [Registry.store, other] using latest id
  | @revoke authorized admin recipient circuitId _ sbt found =>
      rw [lastMint_append_none rfl]
      rcases eq_or_ne id (getSbtId host recipient circuitId) with rfl | other
      · have before := latest (getSbtId host recipient circuitId)
        rw [found] at before
        rw [← before]
        simp [Registry.store, SBT.unrevoked]
      · simpa [Registry.store, other] using latest id
  | keep minted revokes =>
      rw [lastMint_append_none minted]
      exact latest id

theorem latest_of_trace
    (trace : Trace (Step host) ⟨fun _ => none, fun _ => none⟩ calls registry) :
    Latest host calls registry := by
  have start : Latest host [] ⟨fun _ => none, fun _ => none⟩ := fun _ => rfl
  exact trace.history_invariant (P := Latest host)
    (fun _ _ _ _ step => step.latest) start

/-- Steps that do not mint for the id keep its record revoked. -/
theorem Step.revokedAt (step : Step host call registry after)
    (others : ∀ mint, call.mint? = some mint → mint.id host ≠ id)
    (revoked : RevokedAt id registry) : RevokedAt id after := by
  obtain ⟨sbt, found, isRevoked⟩ := revoked
  cases step with
  | mint mint minted fresh =>
      refine ⟨sbt, ?_, isRevoked⟩
      simpa [Registry.store, (others mint minted).symm] using found
  | @revoke authorized admin recipient circuitId _ sbt' found' =>
      rcases eq_or_ne id (getSbtId host recipient circuitId) with rfl | other
      · exact ⟨{ sbt' with revoked := true }, Function.update_self _ _ _, rfl⟩
      · refine ⟨sbt, ?_, isRevoked⟩
        simpa [Registry.store, other] using found
  | keep minted revokes => exact ⟨sbt, found, isRevoked⟩

theorem revokedAt_of_trace (trace : Trace (Step host) registry calls after)
    (others : ∀ mint ∈ mints calls, mint.id host ≠ id)
    (revoked : RevokedAt id registry) : RevokedAt id after := by
  apply trace.invariant_of_mem _ revoked
  intro call member enter leave step before
  apply step.revokedAt _ before
  intro mint minted
  exact others mint (List.mem_filterMap.mpr ⟨call, member, minted⟩)

theorem revokedAt_of_revoke {authorized : List Address} {admin recipient : Address}
    {circuitId : U256}
    (step : Step host (.revokeSbt authorized admin recipient circuitId) registry after) :
    RevokedAt (getSbtId host recipient circuitId) after := by
  cases step with
  | mint mint minted fresh => cases minted
  | revoke sbt found =>
      exact ⟨{ sbt with revoked := true }, Function.update_self _ _ _, rfl⟩
  | keep minted revokes => exact absurd rfl (revokes _ _ _ _)

theorem registry_of_getSbtByNullifier {s : State} {sbt : SBT}
    (found : getSbtByNullifier nullifier s = .ok sbt) :
    ∃ id, s.registry.pointers nullifier = some id ∧ s.registry.sbts id = some sbt ∧
      sbt.revoked = false := by
  unfold getSbtByNullifier at found
  cases stored : s.nullifiers nullifier with
  | none => simp [stored] at found
  | some entry =>
      simp only [stored] at found
      refine ⟨entry.value, ?_, registry_of_getSbtById found⟩
      simp [State.registry, stored]

/-- A lookup by a nullifier finds what the last mint for the same id as the nullifier's
mint wrote, in every run.  After a revocation it finds nothing until that id is minted
again. -/
theorem getSbtByNullifier_lastMint {admin : Address} {timestamp : U64} {s : State}
    (trace : Trace (Succeeds (step host)) (constructor admin timestamp) calls s) :
    (∀ nullifier sbt, getSbtByNullifier nullifier s = .ok sbt →
      ∃ mint latest, mintsWith nullifier calls = [mint] ∧
        lastMint host (mint.id host) calls = some latest ∧ sbt = latest.sbt host) ∧
    (∀ pre authorized revoker recipient circuitId post nullifier,
      calls = pre ++ .revokeSbt authorized revoker recipient circuitId :: post →
      ∀ mint ∈ mintsWith nullifier pre, mint.id host = getSbtId host recipient circuitId →
        (∀ later ∈ mints post, later.id host ≠ mint.id host) →
          ∀ sbt, getSbtByNullifier nullifier s ≠ .ok sbt) := by
  have initial : Trace (Step host) ⟨fun _ => none, fun _ => none⟩ calls s.registry :=
    registry_trace trace
  obtain ⟨-, modes⟩ := invariant_of_trace initial
  have pointsTo : ∀ nullifier id, s.registry.pointers nullifier = some id →
      ∃ mint, mintsWith nullifier calls = [mint] ∧ id = mint.id host := by
    intro nullifier id pointer
    cases modes nullifier with
    | unused absent unset =>
        rw [unset] at pointer
        cases pointer
    | used mint once pointer' =>
        rw [pointer', Option.some.injEq] at pointer
        exact ⟨mint, once, pointer.symm⟩
  constructor
  · intro nullifier sbt found
    obtain ⟨id, pointer, stored, unrevoked⟩ := registry_of_getSbtByNullifier found
    obtain ⟨mint, once, rfl⟩ := pointsTo nullifier id pointer
    have written := latest_of_trace initial (mint.id host)
    rw [stored, Option.map_some, eq_comm, Option.map_eq_some_iff] at written
    obtain ⟨latest, isLatest, same⟩ := written
    refine ⟨mint, latest, once, isLatest, ?_⟩
    rw [same, SBT.unrevoked, ← unrevoked]
  · rintro pre authorized revoker recipient circuitId post nullifier rfl mint member sameId
      others sbt found
    obtain ⟨enter, leave, -, revokes, later⟩ := initial.split_at
    have revoked : RevokedAt (mint.id host) leave := by
      rw [sameId]
      exact revokedAt_of_revoke revokes
    obtain ⟨id, pointer, stored, unrevoked⟩ := registry_of_getSbtByNullifier found
    obtain ⟨mint', once, rfl⟩ := pointsTo nullifier id pointer
    have same : mint = mint' := by
      have atEnd : mint ∈ mintsWith nullifier
          (pre ++ .revokeSbt authorized revoker recipient circuitId :: post) := by
        rw [mintsWith, usesOf_append]
        exact List.mem_append_left _ member
      rwa [once, List.mem_singleton] at atEnd
    subst same
    obtain ⟨sbt', stored', isRevoked⟩ := revokedAt_of_trace later others revoked
    rw [stored, Option.some.injEq] at stored'
    rw [← stored', unrevoked] at isRevoked
    cases isRevoked

section Sample

/-- Another mint for the recipient and the circuit of the sample mint. -/
def renewal : Call :=
  .mintSbt [sampleAdmin] sampleAdmin (.account 0xa1) 123 1086400 2 []

/-- The nullifier 1 leads to the record minted with 2, and leads to it also when its own
was revoked. -/
theorem renewal_found_by_first_nullifier :
    Reached sampleHost (sampleState [sampleMint, renewal]) ∧
      getSbtByNullifier 1 (sampleState [sampleMint, renewal]) =
        .ok { sampleSbt with actionNullifier := 2 } ∧
      Reached sampleHost (sampleState (mintAndRevoke ++ [renewal])) ∧
      getSbtByNullifier 1 (sampleState (mintAndRevoke ++ [renewal])) =
        .ok { sampleSbt with actionNullifier := 2 } :=
  ⟨reached_sampleState (by decide +kernel), by decide +kernel,
    reached_sampleState (by decide +kernel), by decide +kernel⟩

theorem mintAndRevoke_lastMint :
    (∀ nullifier sbt, getSbtByNullifier nullifier (sampleState mintAndRevoke) = .ok sbt →
      ∃ mint latest, mintsWith nullifier mintAndRevoke = [mint] ∧
        lastMint sampleHost (mint.id sampleHost) mintAndRevoke = some latest ∧
          sbt = latest.sbt sampleHost) ∧
    (∀ pre authorized revoker recipient circuitId post nullifier,
      mintAndRevoke = pre ++ .revokeSbt authorized revoker recipient circuitId :: post →
      ∀ mint ∈ mintsWith nullifier pre,
        mint.id sampleHost = getSbtId sampleHost recipient circuitId →
        (∀ later ∈ mints post, later.id sampleHost ≠ mint.id sampleHost) →
          ∀ sbt, getSbtByNullifier nullifier (sampleState mintAndRevoke) ≠ .ok sbt) :=
  getSbtByNullifier_lastMint (trace_finalState (by decide +kernel))

end Sample

end StellarSbt

end IdHub
