import IdHub.AztecLookups

/-!
# The Aztec contract as a registry

The checks of `mint` read a slot that holds the first id as free.  What keeps the
recipients and nullifiers apart is that their slots accept one initialization.  So the
mints are numbered in order, each has its record under its number, the count, the records
and the two maps stay in step, and a record that was written for an id is not written over.
-/

namespace IdHub

namespace AztecCleanHandsSbt

open CallTraces UniqueIndex

/-- The count is that of the mints, and each mint has its record and its two slots, under
its own number.  (The count is a field element, and wraps if every one of them was minted
for.)  The records below the count hold their ids, and the slots of their recipients and
nullifiers, which no two of them share, hold these ids too. -/
structure Consistent (history : List Transaction) (s : State) : Prop where
  count : (mints history).length < fieldOrder → s.sbtCount.val = (mints history).length
  minted : ∀ pre msgSender args post, history = pre ++ ⟨msgSender, .mint args⟩ :: post →
    ∃ revoked, s.sbts (idOf (mints pre).length) =
        args.sbt (idOf (mints pre).length) revoked msgSender ∧
      s.addressToSbtId args.recipient = some (idOf (mints pre).length) ∧
      s.nullifierToSbtId args.actionNullifier = some (idOf (mints pre).length)
  own : ∀ id, id.val < s.sbtCount.val → (s.sbts id).id = id ∧
    s.addressToSbtId (s.sbts id).recipient = some id ∧
      s.nullifierToSbtId (s.sbts id).actionNullifier = some id
  recipients : ∀ first second, first.val < s.sbtCount.val → second.val < s.sbtCount.val →
    (s.sbts first).recipient = (s.sbts second).recipient → first = second
  nullifiers : ∀ first second, first.val < s.sbtCount.val → second.val < s.sbtCount.val →
    (s.sbts first).actionNullifier = (s.sbts second).actionNullifier → first = second

/-- A record may be revoked, and changes in no other way. -/
structure RecordKept (before after : SBT) : Prop where
  same : after = { before with revoked := after.revoked }
  revoked : before.revoked = true → after.revoked = true

variable {s t : State} {entries : List Mint} {history : List Transaction}
  {owner : AztecAddress}

theorem RecordKept.refl (sbt : SBT) : RecordKept sbt sbt :=
  ⟨rfl, id⟩

theorem RecordKept.trans {first second third : SBT} (before : RecordKept first second)
    (after : RecordKept second third) : RecordKept first third := by
  refine ⟨?_, fun revoked => after.revoked (before.revoked revoked)⟩
  rw [after.same, before.same]

/-- An id below the count is the position of an entry. -/
theorem Recorded.position (recorded : Recorded entries s) {id : Fr}
    (below : id.val < s.sbtCount.val) :
    idOf id.val = id ∧ ∃ args, entries[id.val]? = some args := by
  refine ⟨ZMod.natCast_zmod_val id, ?_⟩
  have count : s.sbtCount.val ≤ entries.length := by
    rw [recorded.count, idOf, ZMod.val_natCast]
    exact Nat.mod_le _ _
  have inRange : id.val < entries.length := by omega
  exact ⟨entries[id.val], List.getElem?_eq_getElem inRange⟩

theorem Recorded.own (recorded : Recorded entries s) {id : Fr}
    (below : id.val < s.sbtCount.val) : (s.sbts id).id = id ∧
      s.addressToSbtId (s.sbts id).recipient = some id ∧
        s.nullifierToSbtId (s.sbts id).actionNullifier = some id := by
  obtain ⟨isId, args, isEntry⟩ := recorded.position below
  obtain ⟨revoked, minter, record⟩ := recorded.written id.val args isEntry
  have byAddress := recorded.byAddress.found id.val args isEntry
  have byNullifier := recorded.byNullifier.found id.val args isEntry
  rw [isId] at record byAddress byNullifier
  rw [record]
  exact ⟨rfl, byAddress, byNullifier⟩

/-- A mint writes to a new id, and a revocation changes no other field. -/
theorem Recorded.recordKept {transaction : Transaction} (recorded : Recorded entries s)
    (stepped : AztecCleanHandsSbt.step transaction s = .ok t) {position : ℕ}
    (minted : position < entries.length) :
    RecordKept (s.sbts (idOf position)) (t.sbts (idOf position)) := by
  obtain ⟨msgSender, call⟩ := transaction
  cases call with
  | setOwner newOwner =>
      obtain ⟨-, rfl⟩ := setOwner_ok.mp stepped
      exact .refl _
  | mint args =>
      obtain ⟨-, freeRecipient, -, rfl⟩ := mint_ok.mp stepped
      have indexed := recorded.byAddress.append freeRecipient
      have different : idOf position ≠ s.sbtCount := by
        intro same
        rw [recorded.count] at same
        have equal := idOf_inj indexed (by simp; omega) (by simp) same
        omega
      simp only [Function.update_of_ne different]
      exact .refl _
  | revoke sbtId =>
      obtain ⟨-, rfl⟩ := revoke_ok.mp stepped
      rcases eq_or_ne (idOf position) sbtId with rfl | different
      · simp only [Function.update_self]
        exact ⟨rfl, fun _ => rfl⟩
      · simp only [Function.update_of_ne different]
        exact .refl _

theorem recordKept_of_trace {later : List Transaction} (recorded : Recorded (mints history) s)
    (trace : Trace (Succeeds step) s later t) {position : ℕ}
    (minted : position < (mints history).length) :
    RecordKept (s.sbts (idOf position)) (t.sbts (idOf position)) := by
  have start : Recorded (mints history) s ∧ position < (mints history).length ∧
      RecordKept (s.sbts (idOf position)) (s.sbts (idOf position)) :=
    ⟨recorded, minted, .refl _⟩
  have final := trace.history_invariant (P := fun calls state =>
    Recorded (mints calls) state ∧ position < (mints calls).length ∧
      RecordKept (s.sbts (idOf position)) (state.sbts (idOf position))) ?_ start
  · exact final.2.2
  · rintro earlier call enter leave stepped ⟨before, inRange, kept⟩
    refine ⟨before.step stepped, ?_, kept.trans (before.recordKept stepped inRange)⟩
    rw [mints, List.filterMap_append, List.length_append]
    exact Nat.lt_add_right _ inRange

theorem slots_of_run {pre post : List Transaction} {msgSender : AztecAddress} {args : Mint}
    (run : Run owner (pre ++ ⟨msgSender, .mint args⟩ :: post) s) :
    s.addressToSbtId args.recipient = some (idOf (mints pre).length) ∧
      s.nullifierToSbtId args.actionNullifier = some (idOf (mints pre).length) := by
  have recorded := recorded_of_run run
  have isEntry : (mints (pre ++ ⟨msgSender, .mint args⟩ :: post))[(mints pre).length]? =
      some args := by
    rw [mints_append, List.getElem?_append_right le_rfl, Nat.sub_self]
    rfl
  exact ⟨recorded.byAddress.found _ _ isEntry, recorded.byNullifier.found _ _ isEntry⟩

/-- What a mint writes is its record until the end of the run, but for a revocation. -/
theorem record_of_run {pre post : List Transaction} {msgSender : AztecAddress} {args : Mint}
    (run : Run owner (pre ++ ⟨msgSender, .mint args⟩ :: post) s) :
    ∃ revoked, s.sbts (idOf (mints pre).length) =
      args.sbt (idOf (mints pre).length) revoked msgSender := by
  obtain ⟨deployed, isDeployed, trace⟩ := run
  obtain ⟨enter, leave, earlier, stepped, later⟩ := trace.split_at
  have before : Recorded (mints pre) enter := recorded_of_run ⟨deployed, isDeployed, earlier⟩
  have after := before.step stepped
  have inRange : (mints pre).length < (mints (pre ++ [⟨msgSender, .mint args⟩])).length := by
    rw [mints_append, List.length_append]
    exact Nat.lt_add_of_pos_right (Nat.zero_lt_succ _)
  have kept := recordKept_of_trace after later inRange
  have written : leave.sbts (idOf (mints pre).length) =
      args.sbt (idOf (mints pre).length) false msgSender := by
    obtain ⟨-, -, -, rfl⟩ := mint_ok.mp stepped
    rw [← before.count]
    exact Function.update_self ..
  refine ⟨(s.sbts (idOf (mints pre).length)).revoked, ?_⟩
  rw [kept.same, written]
  rfl

theorem consistent_of_run (run : Run owner history s) : Consistent history s := by
  have recorded := recorded_of_run run
  refine ⟨?_, ?_, fun _ below => recorded.own below, ?_, ?_⟩
  · intro fits
    rw [recorded.count, idOf, ZMod.val_natCast_of_lt fits]
  · rintro pre msgSender args post rfl
    obtain ⟨revoked, record⟩ := record_of_run run
    exact ⟨revoked, record, slots_of_run run⟩
  · intro first second isFirst isSecond same
    have slot := (recorded.own isFirst).2.1
    rw [same, (recorded.own isSecond).2.1, Option.some.injEq] at slot
    exact slot.symm
  · intro first second isFirst isSecond same
    have slot := (recorded.own isFirst).2.2
    rw [same, (recorded.own isSecond).2.2, Option.some.injEq] at slot
    exact slot.symm

/-- In every state of every run the mints are counted and each has its own record, with a
recipient and a nullifier of its own whose slots hold the id, and afterwards a record
changes only when it is revoked, for good. -/
theorem registry_consistent (run : Run owner history s) :
    Consistent history s ∧ ∀ later t, Trace (Succeeds step) s later t →
      (∀ position < (mints history).length,
        RecordKept (s.sbts (idOf position)) (t.sbts (idOf position))) ∧
      ∀ id, id.val < s.sbtCount.val → RecordKept (s.sbts id) (t.sbts id) := by
  have recorded := recorded_of_run run
  refine ⟨consistent_of_run run, fun later t trace => ?_⟩
  have kept : ∀ position < (mints history).length,
      RecordKept (s.sbts (idOf position)) (t.sbts (idOf position)) :=
    fun _ minted => recordKept_of_trace recorded trace minted
  refine ⟨kept, fun id below => ?_⟩
  obtain ⟨isId, args, isEntry⟩ := recorded.position below
  have keptId := kept id.val (List.getElem?_eq_some_iff.mp isEntry).1
  rwa [isId] at keptId

section Sample

/-- A second mint, for another recipient, and a revocation of the first. -/
def sampleHistory : List Transaction :=
  [sampleMint, ⟨1, .mint ⟨(9 : ℕ), (123 : ℕ), (10 : ℕ), 3000⟩⟩, ⟨1, .revoke 0⟩]

def sampleRegistry : State :=
  finalState step sampleHistory sampleDeployed

theorem run_sampleRegistry : Run 1 sampleHistory sampleRegistry :=
  ⟨sampleDeployed, rfl, trace_finalState (by decide +kernel)⟩

theorem sampleRegistry_consistent :
    Consistent sampleHistory sampleRegistry ∧
      ∀ later t, Trace (Succeeds step) sampleRegistry later t →
        (∀ position < (mints sampleHistory).length,
          RecordKept (sampleRegistry.sbts (idOf position)) (t.sbts (idOf position))) ∧
        ∀ id, id.val < sampleRegistry.sbtCount.val →
          RecordKept (sampleRegistry.sbts id) (t.sbts id) :=
  registry_consistent run_sampleRegistry

end Sample

end AztecCleanHandsSbt

end IdHub
