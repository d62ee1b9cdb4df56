import IdHub.StellarSbt

/-!
# The Stellar contract as a registry

Minting and revoking write a record under its id and a pointer to the id under the
record's nullifier; the ledgers that entries live are of no account here, since
entries are not lost.  This file gives the steps of the registry that successful
invocations take.
-/

namespace IdHub

namespace StellarSbt

open CallTraces Guards

/-- What the entries of the two key families hold. -/
structure Registry where
  sbts : U256 → Option SBT
  pointers : U256 → Option U256

def State.registry (s : State) : Registry where
  sbts id := (s.sbts id).map Entry.value
  pointers nullifier := (s.nullifiers nullifier).map Entry.value

structure Mint where
  recipient : Address
  circuitId : U256
  expiration : U64
  actionNullifier : U256
  publicValues : List U256
  minter : Address
  deriving DecidableEq

namespace Mint

def id (host : Host) (mint : Mint) : U256 :=
  getSbtId host mint.recipient mint.circuitId

def sbt (host : Host) (mint : Mint) : SBT :=
  ⟨mint.circuitId, mint.id host, mint.recipient, mint.expiration, mint.actionNullifier,
    mint.publicValues, false, mint.minter⟩

end Mint

def Call.mint? : Call → Option Mint
  | .mintSbt _ admin recipient circuitId expiration actionNullifier publicValues =>
    some ⟨recipient, circuitId, expiration, actionNullifier, publicValues, admin⟩
  | _ => none

/-- The successful mints of a run, in order. -/
def mints (calls : List Call) : List Mint :=
  calls.filterMap Call.mint?

/-- The two writes of `mint_sbt` and `revoke_sbt`. -/
def Registry.store (registry : Registry) (id : U256) (sbt : SBT) : Registry :=
  ⟨Function.update registry.sbts id (some sbt),
    Function.update registry.pointers sbt.actionNullifier (some id)⟩

inductive Step (host : Host) : Call → Registry → Registry → Prop
  | mint {call : Call} {registry : Registry} (mint : Mint) (minted : call.mint? = some mint)
      (fresh : registry.pointers mint.actionNullifier = none) :
      Step host call registry (registry.store (mint.id host) (mint.sbt host))
  | revoke {authorized : List Address} {admin recipient : Address} {circuitId : U256}
      {registry : Registry} (sbt : SBT)
      (found : registry.sbts (getSbtId host recipient circuitId) = some sbt) :
      Step host (.revokeSbt authorized admin recipient circuitId) registry
        (registry.store (getSbtId host recipient circuitId) { sbt with revoked := true })
  | keep {call : Call} {registry : Registry} (minted : call.mint? = none)
      (revokes : ∀ authorized admin recipient circuitId,
        call ≠ .revokeSbt authorized admin recipient circuitId) :
      Step host call registry registry

variable {host : Host} {s t : State} {call : Call}

theorem value_set {Value : Type} (old : Option (Entry Value)) (value : Value) :
    (Entry.set host old value).value = value := rfl

theorem value_extendTtl {Value : Type} (entry : Entry Value)
    (threshold extendTo : U32) : (entry.extendTtl threshold extendTo).value = entry.value := by
  unfold Entry.extendTtl
  split <;> rfl

theorem value_close {Value : Type} (entry : Entry Value) (ledgers : ℕ) :
    (entry.close ledgers).value = entry.value := rfl

theorem registry_setSbt (id : U256) (sbt : SBT) :
    (setSbt host id sbt s).registry = s.registry.store id sbt := by
  unfold State.registry Registry.store setSbt
  congr 1
  · funext other
    rcases eq_or_ne other id with rfl | different
    · simp [value_set]
    · simp [different]
  · funext nullifier
    rcases eq_or_ne nullifier sbt.actionNullifier with rfl | different
    · simp [value_set]
    · simp [different]

theorem registry_extendSbt (id nullifier : U256) (threshold amount : U32) :
    (extendSbt id nullifier threshold amount s).registry = s.registry := by
  unfold State.registry extendSbt
  congr 1
  · funext other
    rcases eq_or_ne other id with rfl | different
    · simp [Function.comp_def, value_extendTtl]
    · simp [different]
  · funext other
    rcases eq_or_ne other nullifier with rfl | different
    · simp [Function.comp_def, value_extendTtl]
    · simp [different]

theorem registry_closeLedgers (ledgers : ℕ) (timestamp : U64) :
    (closeLedgers ledgers timestamp s).registry = s.registry := by
  simp [State.registry, closeLedgers, Function.comp_def, value_close]

theorem registry_storeSbt {id : U256} {sbt : SBT} (stored : storeSbt host id sbt s = .ok t) :
    t.registry = s.registry.store id sbt := by
  simp only [storeSbt, bind_eq_ok, pure_eq_ok] at stored
  obtain ⟨⟨threshold, amount⟩, -, rfl⟩ := stored
  rw [registry_extendSbt, registry_setSbt]

theorem mintSbt_ok {authorized : List Address} {admin recipient : Address}
    {circuitId actionNullifier id : U256} {expiration : U64} {publicValues : List U256}
    (minted : mintSbt host authorized admin recipient circuitId expiration actionNullifier
      publicValues s = .ok (t, id)) :
    let mint : Mint :=
      ⟨recipient, circuitId, expiration, actionNullifier, publicValues, admin⟩
    s.registry.pointers actionNullifier = none ∧ id = mint.id host ∧
      t.registry = s.registry.store (mint.id host) (mint.sbt host) := by
  simp only [mintSbt, bind_eq_ok, pure_eq_ok, require_eq_ok, Prod.mk.injEq] at minted
  obtain ⟨-, -, -, fresh, stored, isStored, rfl, rfl⟩ := minted
  refine ⟨?_, rfl, registry_storeSbt isStored⟩
  simpa [State.registry] using fresh

theorem getSbtById_ok {id : U256} {s : State} {sbt : SBT}
    (found : getSbtById id s = .ok sbt) :
    ∃ entry, s.sbts id = some entry ∧ entry.value = sbt ∧ sbt.revoked = false ∧
      s.timestamp ≤ sbt.expiry := by
  unfold getSbtById at found
  cases stored : s.sbts id with
  | none => simp [stored] at found
  | some entry =>
      simp only [stored] at found
      split at found
      · cases found
      · next unrevoked =>
          split at found
          · cases found
          · next unexpired =>
              simp only [Except.ok.injEq] at found
              subst found
              exact ⟨entry, rfl, rfl, by simpa using unrevoked, BitVec.not_lt.mp unexpired⟩

theorem registry_of_getSbtById {id : U256} {sbt : SBT}
    (found : getSbtById id s = .ok sbt) :
    s.registry.sbts id = some sbt ∧ sbt.revoked = false := by
  obtain ⟨entry, stored, value, unrevoked, -⟩ := getSbtById_ok found
  refine ⟨?_, unrevoked⟩
  simp [State.registry, stored, value]

theorem step_registry (stepped : step host call s = .ok t) :
    Step host call s.registry t.registry := by
  cases call with
  | mintSbt authorized admin recipient circuitId expiration actionNullifier publicValues =>
      simp only [step, bind_eq_ok, pure_eq_ok] at stepped
      obtain ⟨⟨minted, id⟩, isMinted, rfl⟩ := stepped
      obtain ⟨fresh, -, registry⟩ := mintSbt_ok isMinted
      rw [registry]
      exact .mint _ rfl fresh
  | setAdmin authorized currentAdmin newAdmin =>
      simp only [step, setAdmin, bind_eq_ok, pure_eq_ok] at stepped
      obtain ⟨-, -, -, -, rfl⟩ := stepped
      exact .keep rfl (by simp)
  | revokeSbt authorized admin recipient circuitId =>
      simp only [step, revokeSbt, bind_eq_ok] at stepped
      obtain ⟨-, -, sbt, found, isStored⟩ := stepped
      rw [registry_storeSbt isStored]
      exact .revoke sbt (registry_of_getSbtById found).1
  | closeLedgers ledgers timestamp =>
      simp only [step, Except.ok.injEq] at stepped
      rw [← stepped, registry_closeLedgers]
      exact .keep rfl (by simp)

theorem registry_trace {calls : List Call} (trace : Trace (Succeeds (step host)) s calls t) :
    Trace (Step host) s.registry calls t.registry :=
  trace.map State.registry fun _ _ _ stepped => step_registry stepped

theorem mints_append (first second : List Call) :
    mints (first ++ second) = mints first ++ mints second :=
  List.filterMap_append

theorem mints_single_some {mint : Mint} (minted : call.mint? = some mint) :
    mints [call] = [mint] := by
  simp [mints, minted]

theorem mints_single_none (minted : call.mint? = none) : mints [call] = [] := by
  simp [mints, minted]

end StellarSbt

end IdHub
