import IdHub.Authority
import IdHub.StellarNullifierLookup

/-!
# Who governs the Stellar contract

The admin is whoever the last `set_admin` named, which the admin before and the new one
both authorised.  Every mint and every revocation was authorised by the admin of the
moment, and a record that a lookup returns names that admin as its minter.
-/

namespace IdHub

namespace StellarSbt

open Authority CallTraces Guards

/-- The admin that the invocation names, and who has authorised it. -/
def Call.invocation? : Call → Option (Address × List Address)
  | .mintSbt authorized admin _ _ _ _ _ => some (admin, authorized)
  | .setAdmin authorized currentAdmin _ => some (currentAdmin, authorized)
  | .revokeSbt authorized admin _ _ => some (admin, authorized)
  | .closeLedgers _ _ => none

def Call.newAdmin? : Call → Option Address
  | .mintSbt _ _ _ _ _ _ _ => none
  | .setAdmin _ _ newAdmin => some newAdmin
  | .revokeSbt _ _ _ _ => none
  | .closeLedgers _ _ => none

/-- The admin that the calls of `set_admin` make of the first one. -/
def adminAfter (initial : Option Address) (calls : List Call) : Option Address :=
  calls.foldl (fun admin call => call.newAdmin?.or admin) initial

/-- What a call that takes effect went through. -/
structure Governed (call : Call) (before after : Option Address) : Prop where
  byAdmin : ∀ admin authorized, call.invocation? = some (admin, authorized) →
    before = some admin ∧ admin ∈ authorized
  accepted : ∀ admin authorized newAdmin, call.invocation? = some (admin, authorized) →
    call.newAdmin? = some newAdmin → newAdmin ∈ authorized
  effect : after = call.newAdmin?.or before

variable {host : Host} {call : Call} {calls : List Call} {s t : State}

theorem requireAdmin_eq_ok {authorized : List Address} {admin : Address} {result : Unit} :
    requireAdmin authorized admin s = .ok result ↔
      s.admin = some admin ∧ admin ∈ authorized := by
  cases current : s.admin with
  | none => simp [requireAdmin, getAdmin, current, bind, Except.bind]
  | some actualAdmin => simp [requireAdmin, getAdmin, requireAuth, current]

theorem step_governed (stepped : step host call s = .ok t) :
    Governed call s.admin t.admin := by
  cases call with
  | mintSbt authorized admin recipient circuitId expiration actionNullifier publicValues =>
      simp only [step, mintSbt, bind_eq_ok, pure_eq_ok] at stepped
      obtain ⟨_, ⟨_, isAdmin, -, -, stored, isStored, rfl⟩, rfl⟩ := stepped
      obtain ⟨-, kept, -⟩ := storeSbt_ok isStored
      refine ⟨?_, ?_, kept⟩
      · rintro _ _ ⟨⟩
        exact requireAdmin_eq_ok.mp isAdmin
      · rintro _ _ _ - ⟨⟩
  | setAdmin authorized currentAdmin newAdmin =>
      simp only [step, setAdmin, requireAuth, bind_eq_ok, pure_eq_ok, require_eq_ok] at stepped
      obtain ⟨_, isAdmin, -, agrees, rfl⟩ := stepped
      refine ⟨?_, ?_, rfl⟩
      · rintro _ _ ⟨⟩
        exact requireAdmin_eq_ok.mp isAdmin
      · rintro _ _ _ ⟨⟩ ⟨⟩
        exact agrees
  | revokeSbt authorized admin recipient circuitId =>
      simp only [step, revokeSbt, bind_eq_ok] at stepped
      obtain ⟨_, isAdmin, sbt, -, isStored⟩ := stepped
      obtain ⟨-, kept, -⟩ := storeSbt_ok isStored
      refine ⟨?_, ?_, kept⟩
      · rintro _ _ ⟨⟩
        exact requireAdmin_eq_ok.mp isAdmin
      · rintro _ _ _ - ⟨⟩
  | closeLedgers ledgers timestamp =>
      simp only [step, Except.ok.injEq] at stepped
      rw [← stepped]
      refine ⟨?_, ?_, rfl⟩
      · rintro _ _ ⟨⟩
      · rintro _ _ _ - ⟨⟩

theorem governed_trace (trace : Trace (Succeeds (step host)) s calls t) :
    Trace Governed s.admin calls t.admin :=
  trace.map State.admin fun _ _ _ stepped => step_governed stepped

theorem admin_of_trace {before after : Option Address} (trace : Trace Governed before calls after) :
    after = adminAfter before calls := by
  induction trace with
  | nil => rfl
  | cons first rest ih =>
      rw [first.effect] at ih
      exact ih

/-- A call of a history, with the admin that it met. -/
theorem governed_of_mem {before after : Option Address} (trace : Trace Governed before calls after)
    (member : call ∈ calls) :
    ∃ pre post leave, calls = pre ++ call :: post ∧
      Governed call (adminAfter before pre) leave := by
  obtain ⟨pre, post, rfl⟩ := List.append_of_mem member
  obtain ⟨enter, leave, earlier, governed, -⟩ := trace.split_at
  rw [admin_of_trace earlier] at governed
  exact ⟨pre, post, leave, rfl, governed⟩

/-- The record was minted under the id, and the admin of the moment, who is its minter, had
authorised that. -/
def AdminMint (host : Host) (initial : Address) (calls : List Call) (id : U256) (sbt : SBT) :
    Prop :=
  Happened (fun pre call => ∃ authorized recipient circuitId expiration actionNullifier
      publicValues,
    call = .mintSbt authorized sbt.minter recipient circuitId expiration actionNullifier
      publicValues ∧
    sbt.minter ∈ authorized ∧ adminAfter (some initial) pre = some sbt.minter ∧
    id = getSbtId host recipient circuitId ∧
    sbt = ⟨circuitId, id, recipient, expiration, actionNullifier, publicValues, false,
      sbt.minter⟩) calls

/-- The admin of the moment had authorised a revocation under the id. -/
def AdminRevocation (host : Host) (initial : Address) (calls : List Call) (id : U256) : Prop :=
  Happened (fun pre call => ∃ authorized admin recipient circuitId,
    call = .revokeSbt authorized admin recipient circuitId ∧ admin ∈ authorized ∧
    adminAfter (some initial) pre = some admin ∧ id = getSbtId host recipient circuitId) calls

theorem adminMint_of_record {admin : Address} {timestamp : U64}
    (trace : Trace (Succeeds (step host)) (constructor admin timestamp) calls s) {id : U256}
    {sbt : SBT} (found : s.registry.sbts id = some sbt) :
    AdminMint host admin calls id sbt.unrevoked := by
  have latest := latest_of_trace (registry_trace trace) id
  rw [found, Option.map_some, eq_comm, Option.map_eq_some_iff] at latest
  obtain ⟨mint, isLast, record⟩ := latest
  have member := List.mem_of_getLast? isLast
  simp only [List.mem_filter, decide_eq_true_eq] at member
  obtain ⟨isMint, sameId⟩ := member
  obtain ⟨call, inCalls, minted⟩ := List.mem_filterMap.mp isMint
  obtain ⟨pre, post, leave, split, governed⟩ := governed_of_mem (governed_trace trace) inCalls
  cases call with
  | mintSbt authorized minter recipient circuitId expiration actionNullifier publicValues =>
      cases minted
      obtain ⟨current, agrees⟩ := governed.byAdmin minter authorized rfl
      subst sameId
      refine ⟨pre, _, post, split, authorized, recipient, circuitId, expiration,
        actionNullifier, publicValues, ?_⟩
      rw [← record]
      exact ⟨rfl, agrees, current, rfl, rfl⟩
  | _ => cases minted

/-- What is revoked has been revoked by a call. -/
theorem revoke_of_revokedAt
    (trace : Trace (Step host) ⟨fun _ => none, fun _ => none⟩ calls registry) {id : U256}
    (revoked : RevokedAt id registry) :
    ∃ authorized admin recipient circuitId,
      .revokeSbt authorized admin recipient circuitId ∈ calls ∧
        id = getSbtId host recipient circuitId := by
  have start : RevokedAt id ⟨fun _ => none, fun _ => none⟩ →
      ∃ authorized admin recipient circuitId,
        .revokeSbt authorized admin recipient circuitId ∈ ([] : List Call) ∧
          id = getSbtId host recipient circuitId := by
    rintro ⟨sbt, ⟨⟩, -⟩
  refine trace.history_invariant (P := fun calls registry => RevokedAt id registry →
    ∃ authorized admin recipient circuitId,
      Call.revokeSbt authorized admin recipient circuitId ∈ calls ∧
        id = getSbtId host recipient circuitId) ?_ start revoked
  intro earlier call enter leave step before later
  have kept : RevokedAt id enter → ∃ authorized admin recipient circuitId,
      .revokeSbt authorized admin recipient circuitId ∈ earlier ++ [call] ∧
        id = getSbtId host recipient circuitId := by
    intro already
    obtain ⟨authorized, admin, recipient, circuitId, member, isId⟩ := before already
    exact ⟨authorized, admin, recipient, circuitId, List.mem_append_left _ member, isId⟩
  obtain ⟨sbt, found, isRevoked⟩ := later
  cases step with
  | mint mint minted fresh =>
      rcases eq_or_ne id (mint.id host) with rfl | other
      · simp only [Registry.store, Function.update_self, Option.some.injEq] at found
        subst found
        cases isRevoked
      · simp only [Registry.store, Function.update_of_ne other] at found
        exact kept ⟨sbt, found, isRevoked⟩
  | @revoke authorized admin recipient circuitId _ sbt' found' =>
      rcases eq_or_ne id (getSbtId host recipient circuitId) with rfl | other
      · exact ⟨authorized, admin, recipient, circuitId, by simp, rfl⟩
      · simp only [Registry.store, Function.update_of_ne other] at found
        exact kept ⟨sbt, found, isRevoked⟩
  | keep minted revokes => exact kept ⟨sbt, found, isRevoked⟩

theorem adminMint_of_lookup {admin : Address} {timestamp : U64}
    (trace : Trace (Succeeds (step host)) (constructor admin timestamp) calls s) {id : U256}
    {sbt : SBT} (found : getSbtById id s = .ok sbt) : AdminMint host admin calls id sbt := by
  obtain ⟨stored, unrevoked⟩ := registry_of_getSbtById found
  have minted := adminMint_of_record trace stored
  have same : sbt.unrevoked = sbt := by
    rw [SBT.unrevoked, ← unrevoked]
  rwa [same] at minted

theorem adminRevocation_of_revokedAt {admin : Address} {timestamp : U64}
    (trace : Trace (Succeeds (step host)) (constructor admin timestamp) calls s) {id : U256}
    (revoked : RevokedAt id s.registry) : AdminRevocation host admin calls id := by
  obtain ⟨authorized, revoker, recipient, circuitId, member, isId⟩ :=
    revoke_of_revokedAt (registry_trace trace) revoked
  obtain ⟨pre, post, leave, split, governed⟩ := governed_of_mem (governed_trace trace) member
  obtain ⟨current, agrees⟩ := governed.byAdmin revoker authorized rfl
  exact ⟨pre, _, post, split, authorized, revoker, recipient, circuitId, rfl, agrees, current,
    isId⟩

/-- After every run, the admin is whom the calls of `set_admin` name; what the lookups
return was authorised by the admin of the moment of its mint, who is its minter; and what is
revoked was revoked with the authorisation of the admin of that moment. -/
theorem records_by_admin {admin : Address} {timestamp : U64}
    (trace : Trace (Succeeds (step host)) (constructor admin timestamp) calls s) :
    s.admin = adminAfter (some admin) calls ∧
      (∀ recipient circuitId sbt, getSbt host recipient circuitId s = .ok sbt →
        AdminMint host admin calls (getSbtId host recipient circuitId) sbt) ∧
      (∀ nullifier sbt, getSbtByNullifier nullifier s = .ok sbt →
        ∃ id, s.registry.pointers nullifier = some id ∧ AdminMint host admin calls id sbt) ∧
      ∀ id, RevokedAt id s.registry → AdminRevocation host admin calls id := by
  refine ⟨admin_of_trace (governed_trace trace), ?_, ?_, ?_⟩
  · intro recipient circuitId sbt found
    exact adminMint_of_lookup trace found
  · intro nullifier sbt found
    unfold getSbtByNullifier at found
    cases pointer : s.nullifiers nullifier with
    | none => simp [pointer] at found
    | some entry =>
        rw [pointer] at found
        exact ⟨entry.value, by simp [State.registry, pointer], adminMint_of_lookup trace found⟩
  · intro id revoked
    exact adminRevocation_of_revokedAt trace revoked

def regime : Regime Call (Option Address) Unit where
  caller call := call.invocation?.map Prod.fst
  reserved call := call.invocation?.map fun _ => ()
  appoints call := call.newAdmin?.map fun newAdmin => ((), some newAdmin)
  appoints_reserved := by
    intro call
    cases call <;> simp [Call.newAdmin?, Call.invocation?]

theorem Governed.lawful {before after : Option Address} (governed : Governed call before after) :
    Lawful regime call (fun _ account => account = before) (fun _ account => account = after) where
  authorized _ reserved := by
    cases invocation : call.invocation? with
    | none => simp [regime, invocation] at reserved
    | some named =>
        obtain ⟨admin, authorized⟩ := named
        simp [regime, invocation, (governed.byAdmin admin authorized invocation).1]
  appointed _ account held := by
    rw [held, governed.effect]
    cases appointed : call.newAdmin? with
    | none => simp
    | some newAdmin => simp [regime, appointed]

/-- Accounts that include the first admin and hand the contract over only among themselves
keep it, and every mint, revocation and handover, and every record that a lookup returns, is
theirs. -/
theorem admin_confined {admin : Address} {timestamp : U64}
    (trace : Trace (Succeeds (step host)) (constructor admin timestamp) calls s)
    {Trusted : Address → Prop} (founder : Trusted admin)
    (closed : ∀ authorized current newAdmin,
      .setAdmin authorized current newAdmin ∈ calls → Trusted current → Trusted newAdmin) :
    (∃ holder, s.admin = some holder ∧ Trusted holder) ∧
      (∀ call ∈ calls, ∀ named authorized, call.invocation? = some (named, authorized) →
        Trusted named ∧ named ∈ authorized) ∧
      ∀ id sbt, getSbtById id s = .ok sbt → Trusted sbt.minter := by
  have governed := governed_trace trace
  have lawful : Trace (Lawful regime) (fun _ account => account = some admin) calls
      (fun _ account => account = s.admin) :=
    governed.map (fun admin _ account => account = admin) fun _ _ _ step => step.lawful
  obtain ⟨holders, callers⟩ := line_of_trace lawful
  have trusted : ∀ account, Line regime (fun account => ∃ _ : Unit, account = some admin) calls
      account → ∃ holder, account = some holder ∧ Trusted holder := by
    intro account line
    apply line.confined
    · rintro account ⟨-, rfl⟩
      exact ⟨admin, rfl, founder⟩
    · rintro call member office account ⟨current, isCurrent, currentTrusted⟩ appoints
      cases call with
      | setAdmin authorized currentAdmin newAdmin =>
          cases isCurrent
          cases appoints
          exact ⟨newAdmin, rfl, closed _ _ _ member currentTrusted⟩
      | _ => cases appoints
  have invokers : ∀ call ∈ calls, ∀ named authorized,
      call.invocation? = some (named, authorized) → Trusted named ∧ named ∈ authorized := by
    intro call member named authorized invocation
    obtain ⟨holder, isNamed, holderTrusted⟩ :=
      trusted _ (callers call member (by simp [regime, invocation]))
    obtain ⟨pre, post, leave, split, met⟩ := governed_of_mem governed member
    obtain rfl : named = holder := by simpa [regime, invocation] using isNamed
    exact ⟨holderTrusted, (met.byAdmin named authorized invocation).2⟩
  refine ⟨trusted _ (holders () _ rfl), invokers, ?_⟩
  intro id sbt found
  obtain ⟨pre, call, post, split, authorized, recipient, circuitId, expiration, actionNullifier,
    publicValues, rfl, -⟩ := adminMint_of_lookup trace found
  have member : Call.mintSbt authorized sbt.minter recipient circuitId expiration
      actionNullifier publicValues ∈ calls := by
    rw [split]
    exact List.mem_append_right pre List.mem_cons_self
  exact (invokers _ member _ _ rfl).1

section Sample

/-- The admin mints and hands the contract over to another account, which agrees and
revokes. -/
def succession : List Call :=
  [sampleMint, .setAdmin [sampleAdmin, .account 0xbb] sampleAdmin (.account 0xbb),
    .revokeSbt [.account 0xbb] (.account 0xbb) (.account 0xa1) 123]

theorem trace_succession : Trace (Succeeds (step sampleHost)) (constructor sampleAdmin 1000000)
    succession (sampleState succession) :=
  trace_finalState (by decide +kernel)

theorem succession_authorised :
    (sampleState succession).admin = adminAfter (some sampleAdmin) succession ∧
      (∀ recipient circuitId sbt,
        getSbt sampleHost recipient circuitId (sampleState succession) = .ok sbt →
          AdminMint sampleHost sampleAdmin succession (getSbtId sampleHost recipient circuitId)
            sbt) ∧
      (∀ nullifier sbt, getSbtByNullifier nullifier (sampleState succession) = .ok sbt →
        ∃ id, (sampleState succession).registry.pointers nullifier = some id ∧
          AdminMint sampleHost sampleAdmin succession id sbt) ∧
      ∀ id, RevokedAt id (sampleState succession).registry →
        AdminRevocation sampleHost sampleAdmin succession id :=
  records_by_admin trace_succession

def Successor (account : Address) : Prop :=
  account = sampleAdmin ∨ account = .account 0xbb

theorem succession_confined :
    (∃ holder, (sampleState succession).admin = some holder ∧ Successor holder) ∧
      (∀ call ∈ succession, ∀ named authorized, call.invocation? = some (named, authorized) →
        Successor named ∧ named ∈ authorized) ∧
      ∀ id sbt, getSbtById id (sampleState succession) = .ok sbt → Successor sbt.minter := by
  apply admin_confined trace_succession (.inl rfl)
  intro authorized current newAdmin member _
  simp only [succession, sampleMint, List.mem_cons, List.not_mem_nil, or_false, reduceCtorEq,
    false_or, or_false, Call.setAdmin.injEq] at member
  exact .inr member.2.2

end Sample

end StellarSbt

end IdHub
