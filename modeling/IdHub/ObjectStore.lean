import Mathlib.Logic.Function.Basic
import Mathlib.Data.Nat.Basic

/-!
# Stores of owned objects

A store maps identifiers to objects, each with an owner and a content.  A
transaction may use an object only in the ways its owner permits the sender: an
address-owned object is used by its owner alone, a shared one by everybody who
does not take it by value, an immutable one for reading.  Identifiers are handed
out in order, and those not yet handed out are free.
-/

namespace ObjectStore

variable {Address Content : Type*}

inductive Owner (Address : Type*) where
  | address (owner : Address)
  | shared
  | immutable
  deriving DecidableEq

/-- How a transaction uses an object: by reference, by mutable reference or by
value. -/
inductive Access where
  | read
  | write
  | take
  deriving DecidableEq

def Owner.permits [DecidableEq Address] (owner : Owner Address) (sender : Address)
    (access : Access) : Bool :=
  match owner with
  | .address holder => holder = sender
  | .shared => access ≠ .take
  | .immutable => access = .read

/-- An owned object is open to its owner alone. -/
theorem Owner.permits_address_iff [DecidableEq Address] {holder sender : Address}
    {access : Access} : (Owner.address holder).permits sender access = true ↔ holder = sender :=
  decide_eq_true_iff

structure Object (Address Content : Type*) where
  owner : Owner Address
  content : Content
  deriving DecidableEq

structure Store (Address Content : Type*) where
  objects : ℕ → Option (Object Address Content)
  nextId : ℕ
  fresh : ∀ id, nextId ≤ id → objects id = none

namespace Store

variable (store : Store Address Content)

def empty : Store Address Content :=
  ⟨fun _ => none, 0, fun _ _ => rfl⟩

def modify (id : ℕ) (change : Object Address Content → Object Address Content) :
    Store Address Content where
  objects := Function.update store.objects id ((store.objects id).map change)
  nextId := store.nextId
  fresh := by
    intro other beyond
    rcases eq_or_ne other id with rfl | different
    · simp [store.fresh other beyond]
    · simp [different, store.fresh other beyond]

def write (id : ℕ) (content : Content) : Store Address Content :=
  store.modify id fun object => { object with content := content }

def transfer (id : ℕ) (recipient : Address) : Store Address Content :=
  store.modify id fun object => { object with owner := .address recipient }

/-- Create an object and transfer it to an address. -/
def create (recipient : Address) (content : Content) : Store Address Content where
  objects := Function.update store.objects store.nextId
    (some ⟨.address recipient, content⟩)
  nextId := store.nextId + 1
  fresh := by
    intro other beyond
    have different : other ≠ store.nextId := by omega
    simp [different, store.fresh other (by omega)]

theorem objects_write_self {id : ℕ} {object : Object Address Content}
    (stored : store.objects id = some object) (content : Content) :
    (store.write id content).objects id = some { object with content := content } := by
  simp [write, modify, stored]

theorem objects_write_of_ne {id other : ℕ} (different : other ≠ id) (content : Content) :
    (store.write id content).objects other = store.objects other := by
  simp [write, modify, different]

theorem objects_transfer_self {id : ℕ} {object : Object Address Content}
    (stored : store.objects id = some object) (recipient : Address) :
    (store.transfer id recipient).objects id =
      some { object with owner := .address recipient } := by
  simp [transfer, modify, stored]

theorem objects_create_self (recipient : Address) (content : Content) :
    (store.create recipient content).objects store.nextId =
      some ⟨.address recipient, content⟩ := by
  simp [create]

theorem objects_create_of_ne {other : ℕ} (different : other ≠ store.nextId)
    (recipient : Address) (content : Content) :
    (store.create recipient content).objects other = store.objects other := by
  simp [create, different]

/-- Every object of the store has the property. -/
def All (P : ℕ → Object Address Content → Prop) (store : Store Address Content) : Prop :=
  ∀ id object, store.objects id = some object → P id object

theorem all_empty (P : ℕ → Object Address Content → Prop) :
    (empty : Store Address Content).All P := by
  intro id object stored
  cases stored

variable {store}

theorem All.modify {P : ℕ → Object Address Content → Prop} (all : store.All P) {id : ℕ}
    {change : Object Address Content → Object Address Content}
    (changed : ∀ object, store.objects id = some object → P id (change object)) :
    (store.modify id change).All P := by
  intro other object stored
  rcases eq_or_ne other id with rfl | different
  · simp only [Store.modify, Function.update_self, Option.map_eq_some_iff] at stored
    obtain ⟨before, isBefore, rfl⟩ := stored
    exact changed before isBefore
  · simp only [Store.modify, Function.update_of_ne different] at stored
    exact all other object stored

theorem All.create {P : ℕ → Object Address Content → Prop} (all : store.All P)
    {recipient : Address} {content : Content}
    (created : P store.nextId ⟨.address recipient, content⟩) :
    (store.create recipient content).All P := by
  intro other object stored
  rcases eq_or_ne other store.nextId with rfl | different
  · rw [objects_create_self, Option.some.injEq] at stored
    exact stored ▸ created
  · rw [objects_create_of_ne _ different] at stored
    exact all other object stored

variable (store)

end Store

end ObjectStore
