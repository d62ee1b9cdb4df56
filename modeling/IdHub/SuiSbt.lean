import IdHub.CallTraces
import IdHub.CheckedArithmetic
import IdHub.Guards
import IdHub.ObjectStore

/-!
# The Sui SBT module

`contracts/sui/human-id/sources/sbt.move` under Sui's ownership rule.  A
transaction whose function aborts, or whose inputs its sender may not use, has no
effect.
-/

namespace IdHub

namespace SuiSbt

open CallTraces CheckedArithmetic Guards ObjectStore

abbrev U64 : Type := BitVec 64
abbrev U256 : Type := BitVec 256
abbrev Address : Type := BitVec 256

abbrev ID : Type := ℕ

structure SoulBoundToken where
  recipient : Address
  expiry : U64
  circuitId : U256
  actionId : U256
  actionNullifier : U256
  revoked : Bool
  minter : Address
  deriving DecidableEq

inductive Content where
  /-- A `MinterCap`, with the keys of its dynamic fields. -/
  | minterCap (fields : U256 → Bool)
  | soulBoundToken (sbt : SoulBoundToken)

inductive Event where
  | sbtMinted (id : ID) (recipient : Address) (circuitId actionId actionNullifier : U256)
      (minter : Address)
  | sbtRevoked (id : ID) (recipient minter : Address)
  | minterChanged (oldMinter newMinter : Address)
  deriving DecidableEq

inductive Abort where
  | assertion (code : ℕ)
  | arithmetic
  /-- The object does not exist, has another type, or its owner does not permit
  the use. -/
  | inaccessible
  deriving DecidableEq

structure State where
  store : Store Address Content
  events : List Event

def State.emit (s : State) (event : Event) : State :=
  { s with events := s.events ++ [event] }

/-- The input of a `MinterCap`: the keys of its fields. -/
def inputCap (sender : Address) (access : Access) (cap : ID) (s : State) :
    Except Abort (U256 → Bool) :=
  match s.store.objects cap with
  | some ⟨owner, .minterCap fields⟩ =>
    if owner.permits sender access then .ok fields else .error .inaccessible
  | _ => .error .inaccessible

def inputSbt (sender : Address) (access : Access) (id : ID) (s : State) :
    Except Abort SoulBoundToken :=
  match s.store.objects id with
  | some ⟨owner, .soulBoundToken sbt⟩ =>
    if owner.permits sender access then .ok sbt else .error .inaccessible
  | _ => .error .inaccessible

def init (publisher : Address) : State :=
  ⟨Store.empty.create publisher (.minterCap fun _ => false), []⟩

def setMinter (sender : Address) (cap : ID) (newMinter : Address) (s : State) :
    Except Abort State := do
  let _fields ← inputCap sender .take cap s
  let transferred := { s with store := s.store.transfer cap newMinter }
  return transferred.emit (.minterChanged sender newMinter)

def mint (sender : Address) (cap : ID) (recipient : Address)
    (circuitId actionId actionNullifier : U256) (expiry : U64) (s : State) :
    Except Abort State := do
  let fields ← inputCap sender .write cap s
  let key ← checkedAdd .arithmetic actionNullifier circuitId
  revertIf (fields key = true) (.assertion 1)
  let added := s.store.write cap (.minterCap (Function.update fields key true))
  let sbt : SoulBoundToken :=
    ⟨recipient, expiry, circuitId, actionId, actionNullifier, false, sender⟩
  let minted := { s with store := added.create recipient (.soulBoundToken sbt) }
  return minted.emit
    (.sbtMinted added.nextId recipient circuitId actionId actionNullifier sender)

def revoke (sender : Address) (cap id : ID) (s : State) : Except Abort State := do
  let _fields ← inputCap sender .read cap s
  let sbt ← inputSbt sender .write id s
  let revoked := { s with
    store := s.store.write id (.soulBoundToken { sbt with revoked := true }) }
  return revoked.emit (.sbtRevoked id sbt.recipient sbt.minter)

inductive Call where
  | setMinter (cap : ID) (newMinter : Address)
  | mint (cap : ID) (recipient : Address) (circuitId actionId actionNullifier : U256)
      (expiry : U64)
  | revoke (cap id : ID)

structure Transaction where
  sender : Address
  call : Call

def step (transaction : Transaction) (s : State) : Except Abort State :=
  match transaction.call with
  | .setMinter cap newMinter => setMinter transaction.sender cap newMinter s
  | .mint cap recipient circuitId actionId actionNullifier expiry =>
    mint transaction.sender cap recipient circuitId actionId actionNullifier expiry s
  | .revoke cap id => revoke transaction.sender cap id s

/-- The successful transactions of a run from the publication of the module. -/
abbrev Run (publisher : Address) (history : List Transaction) (s : State) : Prop :=
  Trace (Succeeds step) (init publisher) history s

section Inputs

variable {sender : Address} {access : Access} {s : State}

theorem inputCap_ok {cap : ID} {fields : U256 → Bool} :
    inputCap sender access cap s = .ok fields ↔
      ∃ owner, s.store.objects cap = some ⟨owner, .minterCap fields⟩ ∧
        owner.permits sender access = true := by
  unfold inputCap
  split
  · next owner found stored =>
      split
      · next permitted => simp_all
      · next forbidden => simp_all
  · next missing => simp_all

theorem inputSbt_ok {id : ID} {sbt : SoulBoundToken} :
    inputSbt sender access id s = .ok sbt ↔
      ∃ owner, s.store.objects id = some ⟨owner, .soulBoundToken sbt⟩ ∧
        owner.permits sender access = true := by
  unfold inputSbt
  split
  · next owner found stored =>
      split
      · next permitted => simp_all
      · next forbidden => simp_all
  · next missing => simp_all

end Inputs

end SuiSbt

end IdHub
