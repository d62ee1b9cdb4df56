import IdHub.StellarRegistry

/-!
# Which SBTs can be revoked

`revoke_sbt` extends the entries of the SBT by the days until it expires.  On the
last day this is no day at all, and the subtraction of one day's ledgers
underflows, so that an SBT cannot be revoked in the last day before it expires.
The other operations of the computation never fail at a revocation, since they
succeeded at the mint, when the expiry was further away.
-/

namespace IdHub

namespace StellarSbt

open CallTraces CheckedArithmetic Guards

/-- The ledgers of the whole days from `now` to `expiry`. -/
def bumpAmount (now expiry : U64) : ℕ :=
  (expiry.toNat - now.toNat) / 86400 * 17280

/-- The TTL computation succeeds from a day before the expiry on, as long as the amount
fits into 32 bits, and the threshold is a day below the amount. -/
theorem calcSbtTtlParams_eq_ok {now expiry : U64} {params : U32 × U32} :
    calcSbtTtlParams now expiry = .ok params ↔
      (now.toNat + 86400 ≤ expiry.toNat ∧ bumpAmount now expiry < 2 ^ 32) ∧
        params.1.toNat = bumpAmount now expiry - 17280 ∧
        params.2.toNat = bumpAmount now expiry := by
  have day : (SECONDS_IN_DAY.setWidth 64).toNat = 86400 := rfl
  have ledgers : DAY_IN_LEDGERS.toNat = 17280 := rfl
  simp only [calcSbtTtlParams, bind_eq_ok, pure_eq_ok, checkedSub_eq_ok, narrow_eq_ok,
    checkedMul_eq_ok, bumpAmount, BitVec.toNat_udiv, day, ledgers]
  constructor
  · rintro ⟨remaining, ⟨past, remainingValue⟩, days, ⟨fits, daysValue⟩, amount,
      ⟨amountFits, amountValue⟩, threshold, ⟨atLeast, thresholdValue⟩, rfl⟩
    rw [remainingValue] at fits daysValue
    dsimp only
    omega
  · rintro ⟨⟨dayLeft, fits⟩, thresholdValue, amountValue⟩
    have past : now.toNat ≤ expiry.toNat := by omega
    have wholeDay : 1 ≤ (expiry.toNat - now.toNat) / 86400 := by omega
    have below : (expiry.toNat - now.toNat) / 86400 < 2 ^ 32 := by omega
    obtain ⟨remaining, remainingValue⟩ := exists_toNat_eq
      (lt_of_le_of_lt (Nat.sub_le expiry.toNat now.toNat) expiry.isLt)
    obtain ⟨days, daysValue⟩ := exists_toNat_eq below
    rw [← remainingValue] at below daysValue
    rw [← remainingValue, ← daysValue] at amountValue thresholdValue fits wholeDay
    refine ⟨remaining, ⟨past, remainingValue⟩, days, ⟨below, daysValue⟩, params.2,
      ⟨fits, amountValue⟩, params.1, ⟨?_, ?_⟩, rfl⟩
    · rw [amountValue]
      exact Nat.le_mul_of_pos_left 17280 wholeDay
    · rw [thresholdValue, amountValue]

theorem calcSbtTtlParams_isOk (now expiry : U64) :
    (∃ params, calcSbtTtlParams now expiry = .ok params) ↔
      now.toNat + 86400 ≤ expiry.toNat ∧ bumpAmount now expiry < 2 ^ 32 := by
  simp only [calcSbtTtlParams_eq_ok]
  constructor
  · rintro ⟨params, computable, -⟩
    exact computable
  · intro computable
    obtain ⟨threshold, thresholdValue⟩ := exists_toNat_eq
      (lt_of_le_of_lt (Nat.sub_le (bumpAmount now expiry) 17280) computable.2)
    obtain ⟨amount, amountValue⟩ := exists_toNat_eq computable.2
    exact ⟨(threshold, amount), computable, thresholdValue, amountValue⟩

theorem storeSbt_ok {host : Host} {sbtId : U256} {sbt : SBT} {s t : State}
    (stored : storeSbt host sbtId sbt s = .ok t) :
    (∃ params, calcSbtTtlParams s.timestamp sbt.expiry = .ok params) ∧
      t.admin = s.admin ∧ t.timestamp = s.timestamp ∧
      ∃ entry : Entry SBT, entry.value = sbt ∧
        t.sbts = Function.update s.sbts sbtId (some entry) := by
  simp only [storeSbt, bind_eq_ok, pure_eq_ok] at stored
  obtain ⟨⟨threshold, amount⟩, computed, rfl⟩ := stored
  refine ⟨⟨_, computed⟩, rfl, rfl,
    (Entry.set host (s.sbts sbtId) sbt).extendTtl threshold amount, ?_, ?_⟩
  · unfold Entry.extendTtl Entry.set
    split <;> rfl
  · funext id
    rcases eq_or_ne id sbtId with rfl | other
    · simp [extendSbt, setSbt]
    · simp [extendSbt, setSbt, other]

theorem storeSbt_isOk {host : Host} {sbtId : U256} {sbt : SBT} {s : State} :
    (∃ t, storeSbt host sbtId sbt s = .ok t) ↔
      ∃ params, calcSbtTtlParams s.timestamp sbt.expiry = .ok params := by
  constructor
  · rintro ⟨t, stored⟩
    exact (storeSbt_ok stored).1
  · rintro ⟨params, computed⟩
    simp [storeSbt, computed]

/-- The amount by which the entries of a stored SBT are extended fits, now and
later. -/
def BumpsFit (s : State) : Prop :=
  ∀ id entry, s.sbts id = some entry → bumpAmount s.timestamp entry.value.expiry < 2 ^ 32

theorem BumpsFit.storeSbt {host : Host} {sbtId : U256} {sbt : SBT} {s t : State}
    (fit : BumpsFit s) (stored : StellarSbt.storeSbt host sbtId sbt s = .ok t) :
    BumpsFit t := by
  obtain ⟨computed, -, sameTime, entry, value, sbts⟩ := storeSbt_ok stored
  intro id found isFound
  rw [sbts] at isFound
  rw [sameTime]
  rcases eq_or_ne id sbtId with rfl | other
  · rw [Function.update_self, Option.some.injEq] at isFound
    rw [← isFound, value]
    exact ((calcSbtTtlParams_isOk _ _).mp computed).2
  · rw [Function.update_of_ne other] at isFound
    exact fit id found isFound

theorem bumpAmount_le {now later expiry : U64} (passes : now.toNat ≤ later.toNat) :
    bumpAmount later expiry ≤ bumpAmount now expiry := by
  unfold bumpAmount
  omega

theorem BumpsFit.closeLedgers {s : State} (fit : BumpsFit s) (ledgers : ℕ)
    (timestamp : U64) : BumpsFit (closeLedgers ledgers timestamp s) := by
  intro id entry isEntry
  obtain ⟨before, isBefore, rfl⟩ := Option.map_eq_some_iff.mp isEntry
  have passes : s.timestamp.toNat ≤
      (StellarSbt.closeLedgers ledgers timestamp s).timestamp.toNat := by
    simp only [StellarSbt.closeLedgers]
    split
    · assumption
    · exact le_rfl
  exact lt_of_le_of_lt (bumpAmount_le passes) (fit id before isBefore)

theorem BumpsFit.step {host : Host} {call : Call} {s t : State} (fit : BumpsFit s)
    (stepped : step host call s = .ok t) : BumpsFit t := by
  cases call with
  | mintSbt authorized admin recipient circuitId expiration actionNullifier publicValues =>
      simp only [StellarSbt.step, mintSbt, bind_eq_ok, pure_eq_ok] at stepped
      obtain ⟨_, ⟨-, -, -, -, stored, isStored, rfl⟩, rfl⟩ := stepped
      exact fit.storeSbt isStored
  | setAdmin authorized currentAdmin newAdmin =>
      simp only [StellarSbt.step, setAdmin, bind_eq_ok, pure_eq_ok] at stepped
      obtain ⟨-, -, -, -, rfl⟩ := stepped
      exact fit
  | revokeSbt authorized admin recipient circuitId =>
      simp only [StellarSbt.step, revokeSbt, bind_eq_ok] at stepped
      obtain ⟨-, -, sbt, -, isStored⟩ := stepped
      exact fit.storeSbt isStored
  | closeLedgers ledgers timestamp =>
      simp only [StellarSbt.step, Except.ok.injEq] at stepped
      rw [← stepped]
      exact fit.closeLedgers ledgers timestamp

theorem bumpsFit_of_reached {host : Host} {s : State} (reached : Reached host s) :
    BumpsFit s := by
  obtain ⟨admin, timestamp, reachable⟩ := reached
  apply reachable.invariant
  · intro call enter leave stepped fit
    exact fit.step stepped
  · intro id entry isEntry
    cases isEntry

theorem getSbtById_revoked {id : U256} {s : State} {entry : Entry SBT}
    (stored : s.sbts id = some entry) (revoked : entry.value.revoked = true) :
    getSbtById id s = .error (.error .Revoked) := by
  simp [getSbtById, stored, revoked]

theorem requireAdmin_current {s : State} {authorized : List Address} {admin : Address}
    (current : s.admin = some admin) (authorizes : admin ∈ authorized) :
    requireAdmin authorized admin s = .ok () := by
  simp [requireAdmin, getAdmin, requireAuth, current, authorizes]

/-- Exactly the SBTs with a day left can be revoked. -/
theorem revokeSbt_iff {host : Host} {s : State} (reached : Reached host s)
    {authorized : List Address} {admin : Address} (current : s.admin = some admin)
    (authorizes : admin ∈ authorized) {recipient : Address} {circuitId : U256} {sbt : SBT}
    (valid : getSbt host recipient circuitId s = .ok sbt) :
    (∃ t, revokeSbt host authorized admin recipient circuitId s = .ok t ∧
      getSbt host recipient circuitId t = .error (.error .Revoked)) ↔
      s.timestamp.toNat + 86400 ≤ sbt.expiry.toNat := by
  obtain ⟨entry, stored, value, -, -⟩ := getSbtById_ok valid
  have fits : bumpAmount s.timestamp sbt.expiry < 2 ^ 32 :=
    value ▸ bumpsFit_of_reached reached _ entry stored
  have revokes : ∀ t, revokeSbt host authorized admin recipient circuitId s = .ok t ↔
      storeSbt host (getSbtId host recipient circuitId) { sbt with revoked := true } s =
        .ok t := by
    intro t
    have found : getSbtById (getSbtId host recipient circuitId) s = .ok sbt := valid
    simp [revokeSbt, requireAdmin_current current authorizes, found]
  have isOk : (∃ t, storeSbt host (getSbtId host recipient circuitId)
      { sbt with revoked := true } s = .ok t) ↔
        s.timestamp.toNat + 86400 ≤ sbt.expiry.toNat := by
    rw [storeSbt_isOk, calcSbtTtlParams_isOk]
    exact and_iff_left fits
  rw [← isOk]
  constructor
  · rintro ⟨t, revoked, -⟩
    exact ⟨t, (revokes t).mp revoked⟩
  · rintro ⟨t, isStored⟩
    obtain ⟨-, -, -, written, writtenValue, sbts⟩ := storeSbt_ok isStored
    refine ⟨t, (revokes t).mpr isStored, ?_⟩
    have isWritten : t.sbts (getSbtId host recipient circuitId) = some written := by
      rw [sbts, Function.update_self]
    exact getSbtById_revoked isWritten (by rw [writtenValue])

section Sample

/-- The XDR of an address: the discriminants, and the key or contract id. -/
def addressXdr : Address → WordBytes.Bytes
  | .account key =>
    WordBytes.bigEndian 4 18 ++ WordBytes.bigEndian 4 0 ++ WordBytes.bigEndian 4 0 ++
      WordBytes.ofWord key
  | .contract id =>
    WordBytes.bigEndian 4 18 ++ WordBytes.bigEndian 4 1 ++ WordBytes.ofWord id

/-- A host that knows the hash of the sample SBT's identifier string. -/
def sampleHost : Host where
  keccak256 string := ([(WordBytes.ofWord (123 : U256) ++ addressXdr (.account 0xa1),
    (0x6b823efb4c252fd77ebe659c19a6e8d82a610343b29f0dee570ca94e6d56cfcb :
      U256))].lookup string).getD 0
  toXdr := addressXdr
  initialTtl := 2073600

def sampleAdmin : Address := .account 0xad

def sampleMint : Call :=
  .mintSbt [sampleAdmin] sampleAdmin (.account 0xa1) 123 1086400 1 []

def sampleState (calls : List Call) : State :=
  finalState (step sampleHost) calls (constructor sampleAdmin 1000000)

theorem reached_sampleState {calls : List Call}
    (executed : (execCalls (step sampleHost) calls
      (constructor sampleAdmin 1000000)).isOk = true) :
    Reached sampleHost (sampleState calls) :=
  ⟨sampleAdmin, 1000000, calls, trace_finalState executed⟩

def sampleSbt : SBT :=
  ⟨123, 0x6b823efb4c252fd77ebe659c19a6e8d82a610343b29f0dee570ca94e6d56cfcb, .account 0xa1,
    1086400, 1, [], false, sampleAdmin⟩

theorem valid_sampleSbt :
    getSbt sampleHost (.account 0xa1) 123 (sampleState [sampleMint]) = .ok sampleSbt := by
  decide +kernel

theorem sampleMint_revocable :
    ∃ t, revokeSbt sampleHost [sampleAdmin] sampleAdmin (.account 0xa1) 123
        (sampleState [sampleMint]) = .ok t ∧
      getSbt sampleHost (.account 0xa1) 123 t = .error (.error .Revoked) :=
  (revokeSbt_iff (reached_sampleState (by decide +kernel)) (by decide +kernel)
    (List.mem_singleton_self sampleAdmin) valid_sampleSbt).mpr (by decide +kernel)

/-- One second later the SBT is still valid, but its revocation traps. -/
theorem sampleMint_not_revocable :
    let s := sampleState [sampleMint, .closeLedgers 1 1000001]
    Reached sampleHost s ∧ s.admin = some sampleAdmin ∧
      getSbt sampleHost (.account 0xa1) 123 s = .ok sampleSbt ∧
      ∀ t, revokeSbt sampleHost [sampleAdmin] sampleAdmin (.account 0xa1) 123 s ≠ .ok t := by
  refine ⟨reached_sampleState (by decide +kernel), by decide +kernel, by decide +kernel, ?_⟩
  have fails : (revokeSbt sampleHost [sampleAdmin] sampleAdmin (.account 0xa1) 123
      (sampleState [sampleMint, .closeLedgers 1 1000001])).isOk = false := by
    decide +kernel
  intro t revoked
  rw [revoked] at fails
  cases fails

end Sample

end StellarSbt

end IdHub
