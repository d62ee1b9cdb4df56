import IdHub.SingleUse
import IdHub.StellarRevocation

/-!
# The storage of the Stellar contract stays consistent

Records and pointers are written together: a mint writes a record, perhaps over
another one, and a pointer under a nullifier that has none; a revocation writes both
again, and the pointer is the one that is there already.  So nullifiers are keys that
mints use once.
-/

namespace IdHub

namespace StellarSbt

open CallTraces SingleUse

/-- Every record is stored under its own id, which its nullifier points to, and every
pointer leads to a record. -/
structure Consistent (host : Host) (registry : Registry) : Prop where
  owned : ∀ id sbt, registry.sbts id = some sbt → sbt.id = id ∧
    id = getSbtId host sbt.recipient sbt.circuitId ∧
      registry.pointers sbt.actionNullifier = some id
  stored : ∀ nullifier id, registry.pointers nullifier = some id →
    ∃ sbt, registry.sbts id = some sbt

def mintsWith (nullifier : U256) (calls : List Call) : List Mint :=
  usesOf Call.mint? Mint.actionNullifier nullifier calls

/-- A nullifier points nowhere before its mint, and to the id of its mint from then on. -/
def PointerMode (host : Host) (nullifier : U256) (calls : List Call)
    (registry : Registry) : Prop :=
  Mode (mintsWith nullifier calls) (registry.pointers nullifier = none)
    fun mint => registry.pointers nullifier = some (mint.id host)

/-- A call of the run minted with the nullifier, and returned the id. -/
def Returned (host : Host) (initial : State) (calls : List Call) (nullifier id : U256) :
    Prop :=
  ∃ pre authorized admin recipient circuitId expiration publicValues post enter leave,
    calls = pre ++ .mintSbt authorized admin recipient circuitId expiration nullifier
      publicValues :: post ∧
    Trace (Succeeds (step host)) initial pre enter ∧
    mintSbt host authorized admin recipient circuitId expiration nullifier publicValues
      enter = .ok (leave, id)

variable {host : Host} {call : Call} {calls : List Call} {registry after : Registry}
variable {nullifier : U256}

/-- Writing a record under its id, with a nullifier that points nowhere else. -/
theorem Consistent.store (consistent : Consistent host registry) {id : U256} {sbt : SBT}
    (own : sbt.id = id) (hash : id = getSbtId host sbt.recipient sbt.circuitId)
    (free : ∀ other, registry.pointers sbt.actionNullifier = some other → other = id) :
    Consistent host (registry.store id sbt) := by
  constructor
  · intro id' sbt' found
    rcases eq_or_ne id' id with rfl | other
    · simp only [Registry.store, Function.update_self, Option.some.injEq] at found
      subst found
      exact ⟨own, hash, Function.update_self _ _ _⟩
    · simp only [Registry.store, Function.update_of_ne other] at found
      obtain ⟨own', hash', pointer⟩ := consistent.owned id' sbt' found
      refine ⟨own', hash', ?_⟩
      have different : sbt'.actionNullifier ≠ sbt.actionNullifier := by
        intro same
        rw [same] at pointer
        exact other (free id' pointer)
      simpa [Registry.store, different] using pointer
  · intro nullifier id' pointer
    rcases eq_or_ne id' id with rfl | other
    · exact ⟨sbt, Function.update_self _ _ _⟩
    · have different : nullifier ≠ sbt.actionNullifier := by
        rintro rfl
        simp only [Registry.store, Function.update_self, Option.some.injEq] at pointer
        exact other pointer.symm
      simp only [Registry.store, Function.update_of_ne different] at pointer
      obtain ⟨sbt', found⟩ := consistent.stored nullifier id' pointer
      exact ⟨sbt', by simpa [Registry.store, other] using found⟩

theorem Step.consistent (step : Step host call registry after)
    (consistent : Consistent host registry) : Consistent host after := by
  cases step with
  | mint mint minted fresh =>
      apply Consistent.store consistent
      · rfl
      · rfl
      · intro other pointer
        rw [Mint.sbt, fresh] at pointer
        cases pointer
  | revoke sbt found =>
      obtain ⟨own, hash, pointer⟩ := consistent.owned _ sbt found
      apply Consistent.store consistent
      · exact own
      · exact hash
      · intro other pointer'
        rw [pointer, Option.some.injEq] at pointer'
        exact pointer'.symm
  | keep minted revokes => exact consistent

/-- A revocation writes the pointer that is there. -/
theorem Consistent.pointers_revoke (consistent : Consistent host registry) {id : U256}
    {sbt : SBT} (found : registry.sbts id = some sbt) :
    (registry.store id { sbt with revoked := true }).pointers = registry.pointers := by
  obtain ⟨-, -, pointer⟩ := consistent.owned id sbt found
  exact Function.update_eq_self_iff.mpr pointer.symm

/-- A step that does not mint with the nullifier leaves its pointer. -/
theorem Step.pointer_kept (step : Step host call registry after)
    (consistent : Consistent host registry)
    (others : ∀ mint, call.mint? = some mint → mint.actionNullifier ≠ nullifier) :
    after.pointers nullifier = registry.pointers nullifier := by
  cases step with
  | mint mint minted fresh =>
      have other : nullifier ≠ mint.actionNullifier := (others mint minted).symm
      exact Function.update_of_ne other _ _
  | revoke sbt found => rw [consistent.pointers_revoke found]
  | keep minted revokes => rfl

/-- A mint finds no pointer under its nullifier, and writes one. -/
theorem Step.pointer_taken (step : Step host call registry after) {mint : Mint}
    (minted : call.mint? = some mint) :
    registry.pointers mint.actionNullifier = none ∧
      after.pointers mint.actionNullifier = some (mint.id host) := by
  cases step with
  | mint latest isLatest fresh =>
      rw [minted, Option.some.injEq] at isLatest
      subst isLatest
      exact ⟨fresh, Function.update_self _ _ _⟩
  | revoke sbt found => cases minted
  | keep none revokes => simp [none] at minted

theorem Step.pointerMode (step : Step host call registry after)
    (consistent : Consistent host registry)
    (mode : PointerMode host nullifier calls registry) :
    PointerMode host nullifier (calls ++ [call]) after := by
  apply Mode.step mode
  · rintro mint minted rfl
    obtain ⟨unset, pointer⟩ := step.pointer_taken minted
    refine ⟨?_, pointer⟩
    intro earlier set
    rw [unset] at set
    cases set
  · intro others
    rw [step.pointer_kept consistent others]
    exact ⟨id, fun _ => id⟩

theorem consistent_empty : Consistent host ⟨fun _ => none, fun _ => none⟩ where
  owned _ _ found := by cases found
  stored _ _ pointer := by cases pointer

theorem invariant_of_trace
    (trace : Trace (Step host) ⟨fun _ => none, fun _ => none⟩ calls registry) :
    Consistent host registry ∧ ∀ nullifier, PointerMode host nullifier calls registry := by
  have start : Consistent host ⟨fun _ => none, fun _ => none⟩ ∧
      ∀ nullifier, PointerMode host nullifier [] ⟨fun _ => none, fun _ => none⟩ :=
    ⟨consistent_empty, fun _ => .unused rfl rfl⟩
  apply trace.history_invariant (P := fun calls registry => Consistent host registry ∧
    ∀ nullifier, PointerMode host nullifier calls registry) _ start
  rintro earlier call enter leave step ⟨consistent, modes⟩
  exact ⟨step.consistent consistent, fun nullifier =>
    step.pointerMode consistent (modes nullifier)⟩

theorem mint_of_returned {initial : State} {id : U256}
    (returned : Returned host initial calls nullifier id) :
    ∃ mint ∈ mintsWith nullifier calls, id = mint.id host := by
  obtain ⟨pre, authorized, admin, recipient, circuitId, expiration, publicValues, post, enter,
    leave, rfl, -, minted⟩ := returned
  refine ⟨⟨recipient, circuitId, expiration, nullifier, publicValues, admin⟩, ?_,
    (mintSbt_ok minted).2.1⟩
  rw [mintsWith, mem_usesOf]
  exact ⟨⟨_, List.mem_append_right pre List.mem_cons_self, rfl⟩, rfl⟩

/-- After every run, the storage is consistent, every nullifier was minted with at most
once, and it points to the id that its mint returned, or nowhere if there was none. -/
theorem storage_consistent {admin : Address} {timestamp : U64} {s : State}
    (trace : Trace (Succeeds (step host)) (constructor admin timestamp) calls s) :
    Consistent host s.registry ∧ ∀ nullifier,
      (mintsWith nullifier calls).length ≤ 1 ∧
        (mintsWith nullifier calls = [] → s.registry.pointers nullifier = none) ∧
        ∀ id, Returned host (constructor admin timestamp) calls nullifier id →
          s.registry.pointers nullifier = some id := by
  have initial : Trace (Step host) ⟨fun _ => none, fun _ => none⟩ calls s.registry :=
    registry_trace trace
  obtain ⟨consistent, modes⟩ := invariant_of_trace initial
  refine ⟨consistent, fun nullifier => ⟨(modes nullifier).length_le, ?_⟩⟩
  cases modes nullifier with
  | unused absent unset =>
      refine ⟨fun _ => unset, fun id returned => ?_⟩
      obtain ⟨mint, member, -⟩ := mint_of_returned returned
      simp [absent] at member
  | used mint once pointer =>
      refine ⟨fun absent => by simp [once] at absent, fun id returned => ?_⟩
      obtain ⟨mint', member, rfl⟩ := mint_of_returned returned
      rw [once, List.mem_singleton] at member
      rw [member]
      exact pointer

section Sample

/-- A mint and the revocation of its SBT. -/
def mintAndRevoke : List Call :=
  [sampleMint, .revokeSbt [sampleAdmin] sampleAdmin (.account 0xa1) 123]

theorem mintAndRevoke_consistent :
    Consistent sampleHost (sampleState mintAndRevoke).registry ∧ ∀ nullifier,
      (mintsWith nullifier mintAndRevoke).length ≤ 1 ∧
        (mintsWith nullifier mintAndRevoke = [] →
          (sampleState mintAndRevoke).registry.pointers nullifier = none) ∧
        ∀ id, Returned sampleHost (constructor sampleAdmin 1000000) mintAndRevoke nullifier id →
          (sampleState mintAndRevoke).registry.pointers nullifier = some id :=
  storage_consistent (trace_finalState (by decide +kernel))

end Sample

end StellarSbt

end IdHub
