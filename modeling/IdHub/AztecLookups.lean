import IdHub.AztecCleanHandsSbt
import IdHub.UniqueIndex
import Mathlib.Data.ZMod.Basic

/-!
# Lookups in the Aztec contract

The first SBT has the id zero, which is also what the slot of an address or a
nullifier without an SBT reads as.  So once an SBT was minted, a lookup returns
one's own SBT for those that have one, and the first SBT for all others.
-/

namespace IdHub

namespace AztecCleanHandsSbt

open CallTraces Guards UniqueIndex

def Transaction.mint? (transaction : Transaction) : Option Mint :=
  match transaction.call with
  | .mint args => some args
  | _ => none

/-- The mints of a history, in the order of their ids. -/
def mints (history : List Transaction) : List Mint :=
  history.filterMap Transaction.mint?

/-- The id of a mint: its position, counted in the field. -/
def idOf (position : ℕ) : Fr := position

/-- The stored record is the one that a mint wrote, revoked or not. -/
def Written (entries : List Mint) (sbts : Fr → SBT) : Prop :=
  ∀ position args, entries[position]? = some args →
    ∃ revoked minter, sbts (idOf position) = args.sbt (idOf position) revoked minter

structure Recorded (entries : List Mint) (s : State) : Prop where
  count : s.sbtCount = idOf entries.length
  byAddress : Indexed idOf Mint.recipient entries s.addressToSbtId
  byNullifier : Indexed idOf Mint.actionNullifier entries s.nullifierToSbtId
  written : Written entries s.sbts

def Minted (entries : List Mint) (s : State) (sbt : SBT) : Prop :=
  ∃ position < entries.length, s.sbts (idOf position) = sbt

variable {s t : State} {entries : List Mint} {msgSender : AztecAddress}

/-- No id is given twice: the keys of the entries are field elements, so there are
at most as many entries as ids. -/
theorem idOf_inj {index : Fr → Option Fr} {key : Mint → Fr}
    (indexed : Indexed idOf key entries index) {first second : ℕ}
    (isFirst : first < entries.length) (isSecond : second < entries.length)
    (same : idOf first = idOf second) : first = second := by
  have bounded : entries.length ≤ fieldOrder := by
    simpa only [ZMod.card] using indexed.length_le_card
  rw [idOf, idOf, ZMod.natCast_eq_natCast_iff', Nat.mod_eq_of_lt (by omega),
    Nat.mod_eq_of_lt (by omega)] at same
  exact same

theorem written_mint {index : Fr → Option Fr} {key : Mint → Fr} {args : Mint}
    (indexed : Indexed idOf key (entries ++ [args]) index) {sbts : Fr → SBT}
    (written : Written entries sbts) (revoked : Bool) (minter : AztecAddress) :
    Written (entries ++ [args]) (Function.update sbts (idOf entries.length)
      (args.sbt (idOf entries.length) revoked minter)) := by
  intro position entry isEntry
  rcases getElem?_append_singleton.mp isEntry with old | ⟨rfl, rfl⟩
  · have earlier : position < entries.length := (List.getElem?_eq_some_iff.mp old).1
    have different : idOf position ≠ idOf entries.length := by
      intro same
      have equal := idOf_inj indexed (by simp; omega) (by simp) same
      omega
    rw [Function.update_of_ne different]
    exact written position entry old
  · exact ⟨revoked, minter, Function.update_self ..⟩

theorem written_revoke {sbts : Fr → SBT} (written : Written entries sbts) (sbtId : Fr) :
    Written entries
      (Function.update sbts sbtId { sbts sbtId with revoked := true }) := by
  intro position entry isEntry
  obtain ⟨revoked, minter, record⟩ := written position entry isEntry
  rcases eq_or_ne (idOf position) sbtId with rfl | different
  · refine ⟨true, minter, ?_⟩
    rw [Function.update_self, record]
    rfl
  · rw [Function.update_of_ne different]
    exact ⟨revoked, minter, record⟩

theorem recorded_constructor {owner : AztecAddress}
    (deployed : constructor owner = .ok s) : Recorded [] s := by
  simp only [constructor, bind_eq_ok, pure_eq_ok] at deployed
  obtain ⟨_, -, rfl⟩ := deployed
  refine ⟨?_, .empty, .empty, ?_⟩
  · exact Nat.cast_zero.symm
  · intro position args isEntry
    cases isEntry

theorem Recorded.mint {args : Mint} (recorded : Recorded entries s)
    (minted : AztecCleanHandsSbt.mint msgSender args s = .ok t) :
    Recorded (entries ++ [args]) t := by
  obtain ⟨-, freeRecipient, freeNullifier, rfl⟩ := mint_ok.mp minted
  have byAddress := recorded.byAddress.append freeRecipient
  have byNullifier := recorded.byNullifier.append freeNullifier
  have written := written_mint byAddress recorded.written false msgSender
  rw [← recorded.count] at byAddress byNullifier written
  refine ⟨?_, byAddress, byNullifier, written⟩
  rw [List.length_append, List.length_singleton, idOf, Nat.cast_succ, recorded.count, idOf]

theorem mints_append (pre post : List Transaction) :
    mints (pre ++ post) = mints pre ++ mints post :=
  List.filterMap_append

theorem mints_append_other {history : List Transaction} {transaction : Transaction}
    (other : transaction.mint? = none) :
    mints (history ++ [transaction]) = mints history := by
  rw [mints, List.filterMap_append, List.filterMap_cons_none other, List.filterMap_nil,
    List.append_nil, mints]

theorem Recorded.step {history : List Transaction} {transaction : Transaction}
    (recorded : Recorded (mints history) s) (stepped : step transaction s = .ok t) :
    Recorded (mints (history ++ [transaction])) t := by
  obtain ⟨msgSender, call⟩ := transaction
  cases call with
  | setOwner newOwner =>
      obtain ⟨-, rfl⟩ := setOwner_ok.mp stepped
      rw [mints_append_other rfl]
      exact ⟨recorded.count, recorded.byAddress, recorded.byNullifier, recorded.written⟩
  | mint args =>
      have extended : mints (history ++ [⟨msgSender, .mint args⟩]) = mints history ++ [args] :=
        mints_append _ _
      rw [extended]
      exact recorded.mint stepped
  | revoke sbtId =>
      obtain ⟨-, rfl⟩ := revoke_ok.mp stepped
      rw [mints_append_other rfl]
      exact ⟨recorded.count, recorded.byAddress, recorded.byNullifier,
        written_revoke recorded.written sbtId⟩

theorem recorded_of_run {owner : AztecAddress} {history : List Transaction}
    (run : Run owner history s) : Recorded (mints history) s := by
  obtain ⟨deployed, isDeployed, trace⟩ := run
  have start : Recorded (mints []) deployed := recorded_constructor isDeployed
  have recorded := trace.history_invariant (P := fun history => Recorded (mints history))
    (fun _ _ _ _ stepped recorded => Recorded.step recorded stepped) start
  simpa only [List.nil_append] using recorded

/-- A lookup by a key of the mints returns another key's SBT exactly when the key was
not minted but some other was. -/
theorem lookup_own_iff {slots : ImmutableMap} {key : Mint → Fr} {field : SBT → Fr}
    (indexed : Indexed idOf key entries slots) (written : Written entries s.sbts)
    (fieldOfKey : ∀ args sbtId revoked minter,
      field (Mint.sbt args sbtId revoked minter) = key args) (wanted : Fr) :
    (Minted entries s (s.sbts (slots.read wanted)) →
        field (s.sbts (slots.read wanted)) = wanted) ↔
      (∃ args ∈ entries, key args = wanted) ∨ entries = [] := by
  have keyOf : ∀ position args, entries[position]? = some args →
      field (s.sbts (idOf position)) = key args := by
    intro position args isEntry
    obtain ⟨revoked, minter, record⟩ := written position args isEntry
    rw [record, fieldOfKey]
  cases slot : slots wanted with
  | some id =>
      obtain ⟨position, args, isEntry, isKey, rfl⟩ := indexed.complete wanted id slot
      have reads : slots.read wanted = idOf position := by
        rw [ImmutableMap.read, slot, Option.getD_some]
      rw [reads, keyOf position args isEntry]
      have member := List.mem_of_getElem? isEntry
      exact iff_of_true (fun _ => isKey) (Or.inl ⟨args, member, isKey⟩)
  | none =>
      have unused : ¬ ∃ args ∈ entries, key args = wanted := by
        simpa using indexed.not_mem slot
      have reads : slots.read wanted = idOf 0 := by
        rw [ImmutableMap.read, slot, Option.getD_none, idOf, Nat.cast_zero]
      rw [reads]
      cases entries with
      | nil =>
          refine iff_of_true ?_ (Or.inr rfl)
          rintro ⟨position, beyond, -⟩
          cases beyond
      | cons first rest =>
          -- The first mint is that of another key, and its id is the one read.
          refine iff_of_false ?_ (by simpa using unused)
          intro own
          have isFirst := own ⟨0, Nat.zero_lt_succ _, rfl⟩
          rw [keyOf 0 first rfl] at isFirst
          exact unused ⟨first, List.mem_cons_self, isFirst⟩

/-- In every state of every run, a lookup by address or by nullifier that returns a
minted SBT returns the one of this address or nullifier exactly for those that
some mint used, and for all before the first mint. -/
theorem lookups_own_iff {owner : AztecAddress} {history : List Transaction}
    (run : Run owner history s) (addr : AztecAddress) (actionNullifier : Fr) :
    ((Minted (mints history) s (getSbtByAddress addr s) →
        (getSbtByAddress addr s).recipient = addr) ↔
      (∃ args ∈ mints history, args.recipient = addr) ∨ mints history = []) ∧
    ((Minted (mints history) s (getSbtByNullifier actionNullifier s) →
        (getSbtByNullifier actionNullifier s).actionNullifier = actionNullifier) ↔
      (∃ args ∈ mints history, args.actionNullifier = actionNullifier) ∨
        mints history = []) := by
  have recorded := recorded_of_run run
  constructor
  · exact lookup_own_iff recorded.byAddress recorded.written (fun _ _ _ _ => rfl) addr
  · exact lookup_own_iff recorded.byNullifier recorded.written (fun _ _ _ _ => rfl)
      actionNullifier

section Sample

/-- A mint by the owner `1` for the recipient `7` with the action nullifier `8`. -/
def sampleMint : Transaction := ⟨1, .mint ⟨(7 : ℕ), (123 : ℕ), (8 : ℕ), 2000⟩⟩

def sampleDeployed : State :=
  ⟨1, 0, fun _ => .unset, fun _ => none, fun _ => none⟩

def sampleState : State :=
  finalState step [sampleMint] sampleDeployed

theorem run_sampleState : Run 1 [sampleMint] sampleState :=
  ⟨sampleDeployed, rfl, trace_finalState (by decide +kernel)⟩

theorem sampleMint_looked_up :
    (Minted (mints [sampleMint]) sampleState (getSbtByAddress 7 sampleState) →
        (getSbtByAddress 7 sampleState).recipient = 7) ∧
      (Minted (mints [sampleMint]) sampleState (getSbtByNullifier 8 sampleState) →
        (getSbtByNullifier 8 sampleState).actionNullifier = 8) :=
  ⟨(lookups_own_iff run_sampleState 7 8).1.mpr (Or.inl (by decide)),
    (lookups_own_iff run_sampleState 7 8).2.mpr (Or.inl (by decide))⟩

/-- The lookups of the address `9` and of the nullifier `10`, which no mint used,
return the minted SBT, which is that of others. -/
theorem sampleMint_looked_up_by_others :
    Run 1 [sampleMint] sampleState ∧
      Minted (mints [sampleMint]) sampleState (getSbtByAddress 9 sampleState) ∧
      (getSbtByAddress 9 sampleState).recipient ≠ 9 ∧
      Minted (mints [sampleMint]) sampleState (getSbtByNullifier 10 sampleState) ∧
      (getSbtByNullifier 10 sampleState).actionNullifier ≠ 10 := by
  have byAddress : getSbtByAddress 9 sampleState = ⟨0, 7, 2000, 123, 8, false, 1⟩ := by
    decide +kernel
  have byNullifier : getSbtByNullifier 10 sampleState = ⟨0, 7, 2000, 123, 8, false, 1⟩ := by
    decide +kernel
  have first : sampleState.sbts (idOf 0) = ⟨0, 7, 2000, 123, 8, false, 1⟩ := by
    decide +kernel
  refine ⟨run_sampleState, ?_, ?_, ?_, ?_⟩
  · exact ⟨0, by decide, first.trans byAddress.symm⟩
  · rw [byAddress]
    decide
  · exact ⟨0, by decide, first.trans byNullifier.symm⟩
  · rw [byNullifier]
    decide

end Sample

end AztecCleanHandsSbt

end IdHub
