import IdHub.StellarRevocation

/-!
# When minting traps

The TTL computation of `mint_sbt` subtracts the time from the expiration, converts the
whole days between them to 32 bits, multiplies them by the ledgers of a day and takes one
day off.  Only the conversion has an error of its own.  The other three operations trap
for expirations in the past, on the same day, and so far in the future that the days fit
into 32 bits and their ledgers do not.
-/

namespace IdHub

namespace StellarSbt

open CallTraces CheckedArithmetic Guards

/-- The errors that `mint_sbt` may answer its admin with. -/
def mintErrors : List Error :=
  [.InvalidExpiration, .FailedToParseDaysUntilExpiry, .NullifierAlreadyUsed]

/-- The call does not trap: it has a result or one of the errors. -/
def Returns {Value : Type} (errors : List Error) (outcome : Except Failure Value) : Prop :=
  (∃ value, outcome = .ok value) ∨ ∃ error ∈ errors, outcome = .error (.error error)

/-- The whole days from `now` to `expiry`. -/
def daysUntil (now expiry : U64) : ℕ :=
  (expiry.toNat - now.toNat) / 86400

/-- A day is left, and the ledgers of all days fit into 32 bits or the days do not. -/
def TtlComputable (now expiry : U64) : Prop :=
  now.toNat + 86400 ≤ expiry.toNat ∧
    (daysUntil now expiry * 17280 < 2 ^ 32 ∨ 2 ^ 32 ≤ daysUntil now expiry)

/-- The conversion is the only operation that fails with an error of the contract. -/
theorem calcSbtTtlParams_eq_error {now expiry : U64} {error : Error} :
    calcSbtTtlParams now expiry = .error (.error error) ↔
      error = .FailedToParseDaysUntilExpiry ∧ now.toNat ≤ expiry.toNat ∧
        2 ^ 32 ≤ daysUntil now expiry := by
  have day : (SECONDS_IN_DAY.setWidth 64).toNat = 86400 := rfl
  simp only [calcSbtTtlParams, bind_eq_error, checkedSub_eq_error, checkedMul_eq_error,
    narrow_eq_error, checkedSub_eq_ok, pure_ne_error, reduceCtorEq, and_false, exists_false,
    or_false, false_or, BitVec.toNat_udiv, day, Failure.error.injEq]
  constructor
  · rintro ⟨remaining, ⟨past, value⟩, large, rfl⟩
    rw [value] at large
    exact ⟨rfl, past, large⟩
  · rintro ⟨rfl, past, large⟩
    obtain ⟨remaining, value⟩ := exists_toNat_eq
      (lt_of_le_of_lt (Nat.sub_le expiry.toNat now.toNat) expiry.isLt)
    refine ⟨remaining, ⟨past, value⟩, ?_, rfl⟩
    rw [value]
    exact large

theorem calcSbtTtlParams_returns {now expiry : U64} :
    Returns mintErrors (calcSbtTtlParams now expiry) ↔ TtlComputable now expiry := by
  unfold Returns TtlComputable
  rw [calcSbtTtlParams_isOk]
  have failed : (∃ error ∈ mintErrors, calcSbtTtlParams now expiry = .error (.error error)) ↔
      now.toNat ≤ expiry.toNat ∧ 2 ^ 32 ≤ daysUntil now expiry := by
    simp [calcSbtTtlParams_eq_error, mintErrors]
  rw [failed]
  unfold bumpAmount daysUntil
  constructor
  · rintro (⟨dayLeft, fits⟩ | ⟨past, large⟩)
    · exact ⟨dayLeft, .inl fits⟩
    · exact ⟨by omega, .inr large⟩
  · rintro ⟨dayLeft, fits | large⟩
    · exact .inl ⟨dayLeft, fits⟩
    · exact .inr ⟨by omega, large⟩

theorem returns_map {Value Result : Type} {errors : List Error}
    {outcome : Except Failure Value} {result : Value → Result} :
    Returns errors (do return result (← outcome)) ↔ Returns errors outcome := by
  cases outcome <;> simp [Returns, bind, Except.bind, pure, Except.pure]

/-- The state and the id after a mint, with the computed lifetimes. -/
def Mint.result (host : Host) (mint : Mint) (s : State) (params : U32 × U32) : State × U256 :=
  (extendSbt (mint.id host) mint.actionNullifier params.1 params.2
    (setSbt host (mint.id host) (mint.sbt host) s), mint.id host)

section Mint

variable {host : Host} {s : State} {authorized : List Address} {admin : Address}

/-- A mint of the current admin is decided by the nullifier and by the computation. -/
theorem mintSbt_eq (current : s.admin = some admin) (authorizes : admin ∈ authorized)
    (recipient : Address) (circuitId : U256) (expiration : U64) (actionNullifier : U256)
    (publicValues : List U256) :
    mintSbt host authorized admin recipient circuitId expiration actionNullifier publicValues
        s =
      if (s.nullifiers actionNullifier).isSome then .error (.error .NullifierAlreadyUsed)
      else do
        return Mint.result host
          ⟨recipient, circuitId, expiration, actionNullifier, publicValues, admin⟩ s
          (← calcSbtTtlParams s.timestamp expiration) := by
  unfold mintSbt
  rw [requireAdmin_current current authorizes]
  cases found : s.nullifiers actionNullifier with
  | some entry => rfl
  | none =>
      cases computed : calcSbtTtlParams s.timestamp expiration with
      | error failure => simp [storeSbt, require, computed, bind, Except.bind]
      | ok params =>
          simp [storeSbt, require, computed, bind, Except.bind, pure, Except.pure, Mint.result,
            Mint.id, Mint.sbt]

/-- A mint of the current admin does not trap exactly if its nullifier is used already or
the lifetimes can be computed. -/
theorem mintSbt_returns_iff (current : s.admin = some admin)
    (authorizes : admin ∈ authorized) (recipient : Address) (circuitId : U256)
    (expiration : U64) (actionNullifier : U256) (publicValues : List U256) :
    Returns mintErrors (mintSbt host authorized admin recipient circuitId expiration
        actionNullifier publicValues s) ↔
      (s.nullifiers actionNullifier).isSome ∨ TtlComputable s.timestamp expiration := by
  rw [mintSbt_eq current authorizes]
  by_cases used : (s.nullifiers actionNullifier).isSome
  · rw [if_pos used]
    refine iff_of_true (.inr ⟨.NullifierAlreadyUsed, ?_, rfl⟩) (.inl used)
    simp [mintErrors]
  · rw [if_neg used, returns_map, calcSbtTtlParams_returns]
    exact (or_iff_right used).symm

end Mint

section Sample

def sampleMintUntil (expiration : U64) : Except Failure (State × U256) :=
  mintSbt sampleHost [sampleAdmin] sampleAdmin (.account 0xa1) 123 expiration 1 []
    (sampleState [])

theorem sampleState_admin : (sampleState []).admin = some sampleAdmin := by
  decide +kernel

def sampleMinted (expiration : U64) (params : U32 × U32) : State × U256 :=
  Mint.result sampleHost ⟨.account 0xa1, 123, expiration, 1, [], sampleAdmin⟩
    (sampleState []) params

theorem sampleMintUntil_eq (expiration : U64) : sampleMintUntil expiration =
    do return sampleMinted expiration (← calcSbtTtlParams 1000000 expiration) := by
  have unused : ¬ ((sampleState []).nullifiers 1).isSome := by decide +kernel
  have now : (sampleState []).timestamp = 1000000 := by decide +kernel
  rw [sampleMintUntil, mintSbt_eq sampleState_admin (List.mem_singleton_self sampleAdmin),
    if_neg unused, now]
  rfl

theorem sampleMintUntil_overflow {expiration : U64}
    (overflows : calcSbtTtlParams 1000000 expiration = .error .overflow) :
    sampleMintUntil expiration = .error .overflow := by
  rw [sampleMintUntil_eq, overflows]
  rfl

/-- At time 1000000 the mint traps for a second before, for a second less than a day, and
for the first number of days whose ledgers do not fit. -/
theorem sampleMintUntil_traps :
    Reached sampleHost (sampleState []) ∧ (sampleState []).admin = some sampleAdmin ∧
      sampleMintUntil 999999 = .error .overflow ∧
      sampleMintUntil 1086399 = .error .overflow ∧
      sampleMintUntil 21475892800 = .error .overflow ∧
      ¬ Returns mintErrors (sampleMintUntil 999999) := by
  have past : sampleMintUntil 999999 = .error .overflow :=
    sampleMintUntil_overflow (by decide +kernel)
  refine ⟨reached_sampleState (by decide +kernel), sampleState_admin, past,
    sampleMintUntil_overflow (by decide +kernel), sampleMintUntil_overflow (by decide +kernel),
    ?_⟩
  rw [past]
  simp [Returns]

/-- It returns for an expiration a day later, and for one so late that its days do not
fit. -/
theorem sampleMintUntil_returns :
    Returns mintErrors (sampleMintUntil 1086400) ∧
      Returns mintErrors (sampleMintUntil (BitVec.allOnes 64)) := by
  have returns : ∀ expiration, Returns mintErrors (sampleMintUntil expiration) ↔
      ((sampleState []).nullifiers 1).isSome ∨
        TtlComputable (sampleState []).timestamp expiration := fun expiration =>
    mintSbt_returns_iff sampleState_admin (List.mem_singleton_self sampleAdmin) (.account 0xa1)
      123 expiration 1 []
  refine ⟨(returns 1086400).mpr (.inr ?_), (returns (BitVec.allOnes 64)).mpr (.inr ?_)⟩
  · unfold TtlComputable daysUntil
    decide +kernel
  · unfold TtlComputable daysUntil
    decide +kernel

end Sample

end StellarSbt

end IdHub
