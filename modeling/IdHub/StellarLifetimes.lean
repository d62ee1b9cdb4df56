import IdHub.StellarMinting

/-!
# How long the entries of an SBT live

`mint_sbt` extends the entries of the SBT and of its nullifier to the ledgers of the
whole days until the expiration, and only if they live less than a day less than that.
So the seconds beyond the last whole day are not covered, nor is the last day of an entry
that already lives as long as the threshold.
-/

namespace IdHub

namespace StellarSbt

open CheckedArithmetic Guards

/-- At 17280 ledgers in 86400 seconds, the ledgers cover the time until the expiration. -/
def Covers (now expiration : U64) (ttl : ℕ) : Prop :=
  (expiration.toNat - now.toNat) * 17280 ≤ ttl * 86400

/-- The entry lives long enough without an extension, or it is below the threshold and
the time until the expiration is a number of whole days. -/
def ReachesExpiration (now expiration : U64) (previousTtl : ℕ) : Prop :=
  Covers now expiration previousTtl ∨
    (previousTtl < (daysUntil now expiration - 1) * 17280 ∧
      86400 ∣ expiration.toNat - now.toNat)

/-- The ledgers that the entry of an id lives before its extension. -/
def previousTtl {Value : Type} (host : Host) (old : Option (Entry Value)) : ℕ :=
  (old.map Entry.ttl).getD host.initialTtl

/-- An extended entry lives the whole days, and one that lives long enough keeps its
ledgers. -/
theorem covers_extendTtl_iff {Value : Type} {now expiration : U64} {params : U32 × U32}
    (computed : calcSbtTtlParams now expiration = .ok params) (entry : Entry Value) :
    Covers now expiration (entry.extendTtl params.1 params.2).ttl ↔
      ReachesExpiration now expiration entry.ttl := by
  obtain ⟨⟨dayLeft, -⟩, threshold, amount⟩ := calcSbtTtlParams_eq_ok.mp computed
  unfold Entry.extendTtl ReachesExpiration Covers daysUntil
  rw [threshold, amount]
  unfold bumpAmount
  by_cases short : entry.ttl < (expiration.toNat - now.toNat) / 86400 * 17280 - 17280
  · rw [if_pos short]
    dsimp only
    omega
  · rw [if_neg short]
    omega

section Mint

variable {host : Host} {authorized : List Address} {admin recipient : Address}
  {circuitId actionNullifier id : U256} {expiration : U64} {publicValues : List U256}
  {s t : State}

/-- The entries that a mint leaves. -/
theorem mintSbt_entries
    (minted : mintSbt host authorized admin recipient circuitId expiration actionNullifier
      publicValues s = .ok (t, id)) :
    ∃ params sbt, calcSbtTtlParams s.timestamp expiration = .ok params ∧
      s.nullifiers actionNullifier = none ∧ id = getSbtId host recipient circuitId ∧
      t.sbts id = some ((Entry.set host (s.sbts id) sbt).extendTtl params.1 params.2) ∧
      t.nullifiers actionNullifier =
        some ((Entry.set host (s.nullifiers actionNullifier) id).extendTtl params.1
          params.2) := by
  simp only [mintSbt, storeSbt, bind_eq_ok, pure_eq_ok, require_eq_ok, Prod.mk.injEq,
    Option.isNone_iff_eq_none] at minted
  obtain ⟨-, -, -, fresh, stored, ⟨params, computed, rfl⟩, rfl, rfl⟩ := minted
  let mint : Mint := ⟨recipient, circuitId, expiration, actionNullifier, publicValues, admin⟩
  refine ⟨params, mint.sbt host, computed, fresh, rfl, ?_, ?_⟩
  · simp [extendSbt, setSbt, mint, Mint.sbt, Mint.id]
  · simp [extendSbt, setSbt]

/-- After a successful mint the two entries live until the expiration exactly if each of
them reaches it from the ledgers it lived before: those of the entry that is minted over,
if there is one, and those of a new entry. -/
theorem mintSbt_outlives_iff
    (minted : mintSbt host authorized admin recipient circuitId expiration actionNullifier
      publicValues s = .ok (t, id)) :
    (∃ sbtEntry nullifierEntry, t.sbts id = some sbtEntry ∧
        t.nullifiers actionNullifier = some nullifierEntry ∧
        Covers s.timestamp expiration sbtEntry.ttl ∧
        Covers s.timestamp expiration nullifierEntry.ttl) ↔
      ReachesExpiration s.timestamp expiration
          (previousTtl host (s.sbts (getSbtId host recipient circuitId))) ∧
        ReachesExpiration s.timestamp expiration host.initialTtl := by
  obtain ⟨params, sbt, computed, fresh, rfl, sbtEntry, nullifierEntry⟩ :=
    mintSbt_entries minted
  have sbtCovered := covers_extendTtl_iff computed
    (Entry.set host (s.sbts (getSbtId host recipient circuitId)) sbt)
  have nullifierCovered := covers_extendTtl_iff computed
    (Entry.set host (s.nullifiers actionNullifier) (getSbtId host recipient circuitId))
  rw [fresh] at nullifierEntry nullifierCovered
  rw [sbtEntry, nullifierEntry]
  constructor
  · rintro ⟨first, second, firstIs, secondIs, firstCovers, secondCovers⟩
    rw [Option.some.injEq] at firstIs secondIs
    subst firstIs secondIs
    exact ⟨sbtCovered.mp firstCovers, nullifierCovered.mp secondCovers⟩
  · rintro ⟨sbtReaches, nullifierReaches⟩
    exact ⟨_, _, rfl, rfl, sbtCovered.mpr sbtReaches, nullifierCovered.mpr nullifierReaches⟩

end Mint

section Sample

theorem sampleMintUntil_ok {expiration : U64} {params : U32 × U32}
    (computed : calcSbtTtlParams 1000000 expiration = .ok params) :
    sampleMintUntil expiration = .ok (sampleMinted expiration params) := by
  rw [sampleMintUntil_eq, computed]
  rfl

/-- An SBT for 150 days and a second is minted, and its entry lives for 150 days, as long
as the amount says. -/
theorem sampleMintUntil_archived :
    let params : U32 × U32 := (2574720, 2592000)
    let minted := sampleMinted 13960001 params
    sampleMintUntil 13960001 = .ok minted ∧
      (minted.1.sbts minted.2).map Entry.ttl = some 2592000 ∧
      ¬ Covers 1000000 13960001 2592000 := by
  refine ⟨sampleMintUntil_ok (by decide +kernel), by decide +kernel, ?_⟩
  unfold Covers
  decide +kernel

/-- The entries of an SBT for 150 days live until it expires. -/
theorem sampleMintUntil_outlives :
    let minted := sampleMinted 13960000 (2574720, 2592000)
    ∃ sbtEntry nullifierEntry, minted.1.sbts minted.2 = some sbtEntry ∧
      minted.1.nullifiers 1 = some nullifierEntry ∧
      Covers (sampleState []).timestamp 13960000 sbtEntry.ttl ∧
      Covers (sampleState []).timestamp 13960000 nullifierEntry.ttl := by
  have reaches : ReachesExpiration (sampleState []).timestamp 13960000
      sampleHost.initialTtl := by
    unfold ReachesExpiration Covers daysUntil
    decide +kernel
  have empty : previousTtl sampleHost
      ((sampleState []).sbts (getSbtId sampleHost (.account 0xa1) 123)) =
        sampleHost.initialTtl := by
    decide +kernel
  apply (mintSbt_outlives_iff (sampleMintUntil_ok (by decide +kernel))).mpr
  rw [empty]
  exact ⟨reaches, reaches⟩

end Sample

end StellarSbt

end IdHub
