import IdHub.Authority
import IdHub.AztecRegistry

/-!
# The Aztec contract as a log

Which transactions succeed depends on no stored record: the owner of the moment must
have sent each, and no recipient and no action nullifier may be minted for twice.  The
records follow from the log.  A mint writes over what was revoked under its id before
it, so the later revocations alone count.
-/

namespace IdHub

namespace AztecCleanHandsSbt

open Authority CallTraces Guards UniqueIndex

def Transaction.newOwner? (transaction : Transaction) : Option AztecAddress :=
  match transaction.call with
  | .setOwner newOwner => some newOwner
  | _ => none

/-- The owner that the transactions make of the first one. -/
def ownerAfter (owner : AztecAddress) (history : List Transaction) : AztecAddress :=
  history.foldl (fun owner transaction => transaction.newOwner?.getD owner) owner

def revokedIn (id : Fr) (history : List Transaction) : Bool :=
  history.any fun transaction => transaction.call = .revoke id

/-- The first owner, the senders and the keys of the mints are as the contract wants. -/
structure Admissible (owner : AztecAddress) (history : List Transaction) : Prop where
  founded : owner ≠ 0
  byOwner : ∀ pre transaction post, history = pre ++ transaction :: post →
    transaction.msgSender = ownerAfter owner pre
  recipients : ((mints history).map Mint.recipient).Nodup
  nullifiers : ((mints history).map Mint.actionNullifier).Nodup

variable {s t : State} {owner : AztecAddress} {history : List Transaction}

/-- Each transaction is sent by the owner, and `set_owner` alone changes the owner. -/
theorem step_owner {transaction : Transaction} (stepped : step transaction s = .ok t) :
    transaction.msgSender = s.owner ∧ t.owner = transaction.newOwner?.getD s.owner := by
  obtain ⟨msgSender, call⟩ := transaction
  cases call with
  | setOwner newOwner =>
      obtain ⟨byOwner, rfl⟩ := setOwner_ok.mp stepped
      exact ⟨byOwner.symm, rfl⟩
  | mint args =>
      obtain ⟨byOwner, -, -, rfl⟩ := mint_ok.mp stepped
      exact ⟨byOwner.symm, rfl⟩
  | revoke sbtId =>
      obtain ⟨byOwner, rfl⟩ := revoke_ok.mp stepped
      exact ⟨byOwner.symm, rfl⟩

theorem owner_of_trace (trace : Trace (Succeeds step) s history t) :
    t.owner = ownerAfter s.owner history := by
  induction trace with
  | nil => rfl
  | cons first rest ih =>
      rw [(step_owner first).2] at ih
      exact ih

theorem sender_of_trace {pre post : List Transaction} {transaction : Transaction}
    (trace : Trace (Succeeds step) s (pre ++ transaction :: post) t) :
    transaction.msgSender = ownerAfter s.owner pre := by
  obtain ⟨enter, leave, earlier, stepped, -⟩ := trace.split_at
  rw [(step_owner stepped).1, owner_of_trace earlier]

theorem constructor_ok : constructor owner = .ok s ↔
    owner ≠ 0 ∧ ⟨owner, 0, fun _ => .unset, fun _ => none, fun _ => none⟩ = s := by
  simp only [constructor, bind_eq_ok, require_eq_ok, pure_eq_ok, exists_const]

theorem admissible_of_run (run : Run owner history s) : Admissible owner history := by
  have recorded := recorded_of_run run
  obtain ⟨deployed, isDeployed, trace⟩ := run
  obtain ⟨founded, rfl⟩ := constructor_ok.mp isDeployed
  refine ⟨founded, ?_, recorded.byAddress.nodup, recorded.byNullifier.nodup⟩
  rintro pre transaction post rfl
  exact sender_of_trace trace

theorem Admissible.init {transaction : Transaction}
    (admissible : Admissible owner (history ++ [transaction])) : Admissible owner history where
  founded := admissible.founded
  byOwner := by
    rintro pre earlier post rfl
    exact admissible.byOwner pre earlier (post ++ [transaction]) (by simp)
  recipients := by
    have recipients := admissible.recipients
    rw [mints_append, List.map_append] at recipients
    exact recipients.of_append_left
  nullifiers := by
    have nullifiers := admissible.nullifiers
    rw [mints_append, List.map_append] at nullifiers
    exact nullifiers.of_append_left

/-- A key that no entry has is free in the index of the entries. -/
theorem free_of_nodup {entries : List Mint} {key : Mint → Fr} {slots : ImmutableMap}
    {latest : Mint} (indexed : Indexed idOf key entries slots)
    (nodup : ((entries ++ [latest]).map key).Nodup) : slots (key latest) = none := by
  cases slot : slots (key latest) with
  | none => rfl
  | some id =>
      obtain ⟨position, entry, isEntry, isKey, -⟩ := indexed.complete _ _ slot
      rw [List.map_append, List.nodup_append] at nodup
      have member : key entry ∈ entries.map key :=
        List.mem_map_of_mem (List.mem_of_getElem? isEntry)
      exact absurd isKey (nodup.2.2 _ member _ List.mem_cons_self)

theorem step_of_admissible {transaction : Transaction} (run : Run owner history s)
    (admissible : Admissible owner (history ++ [transaction])) :
    ∃ t, step transaction s = .ok t := by
  have recorded := recorded_of_run run
  obtain ⟨deployed, isDeployed, trace⟩ := run
  have byOwner : s.owner = transaction.msgSender := by
    rw [owner_of_trace trace, admissible.byOwner history transaction [] rfl]
    obtain ⟨-, rfl⟩ := constructor_ok.mp isDeployed
    rfl
  obtain ⟨msgSender, call⟩ := transaction
  cases call with
  | setOwner newOwner => exact ⟨_, setOwner_ok.mpr ⟨byOwner, rfl⟩⟩
  | mint args =>
      have extended : mints (history ++ [⟨msgSender, .mint args⟩]) = mints history ++ [args] :=
        mints_append _ _
      have recipients := admissible.recipients
      have nullifiers := admissible.nullifiers
      rw [extended] at recipients nullifiers
      have freeRecipient := free_of_nodup recorded.byAddress recipients
      have freeNullifier := free_of_nodup recorded.byNullifier nullifiers
      exact ⟨_, mint_ok.mpr ⟨byOwner, freeRecipient, freeNullifier, rfl⟩⟩
  | revoke sbtId => exact ⟨_, revoke_ok.mpr ⟨byOwner, rfl⟩⟩

theorem run_of_admissible (admissible : Admissible owner history) :
    ∃ s, Run owner history s := by
  induction history using List.reverseRecOn with
  | nil => exact ⟨_, _, constructor_ok.mpr ⟨admissible.founded, rfl⟩, .nil _⟩
  | append_singleton history transaction ih =>
      obtain ⟨s, run⟩ := ih admissible.init
      obtain ⟨t, stepped⟩ := step_of_admissible run admissible
      obtain ⟨deployed, isDeployed, trace⟩ := run
      exact ⟨t, deployed, isDeployed, trace.append (.single stepped)⟩

/-- The transactions all succeed after the deployment exactly when the first owner is not
zero, the owner of the moment sends each of them, and the recipients and the action
nullifiers of the mints are distinct. -/
theorem run_iff_admissible : (∃ s, Run owner history s) ↔ Admissible owner history := by
  constructor
  · rintro ⟨s, run⟩
    exact admissible_of_run run
  · exact run_of_admissible

/-- The record that a mint wrote, revoked if the id was revoked after the mint. -/
def mintRecord (pre : List Transaction) (msgSender : AztecAddress) (args : Mint)
    (post : List Transaction) : SBT :=
  let sbtId := idOf (mints pre).length
  args.sbt sbtId (revokedIn sbtId post) msgSender

/-- An id that was not minted yet has no record, but may be revoked already. -/
def vacantRecord (id : Fr) (history : List Transaction) : SBT :=
  { SBT.unset with revoked := revokedIn id history }

theorem revokedIn_append_revoke (id : Fr) (msgSender : AztecAddress) :
    revokedIn id (history ++ [⟨msgSender, .revoke id⟩]) = true := by
  simp [revokedIn]

theorem revokedIn_append_other {id : Fr} {transaction : Transaction}
    (other : transaction.call ≠ .revoke id) :
    revokedIn id (history ++ [transaction]) = revokedIn id history := by
  simp [revokedIn, other]

/-- A transaction that does not mint the id leaves its record as it was, or revokes it. -/
theorem step_record {transaction : Transaction} {id : Fr} {sbt : SBT} {later : List Transaction}
    (stepped : step transaction s = .ok t)
    (unminted : transaction.mint?.isSome → id ≠ s.sbtCount)
    (record : s.sbts id = { sbt with revoked := revokedIn id later }) :
    t.sbts id = { sbt with revoked := revokedIn id (later ++ [transaction]) } := by
  obtain ⟨msgSender, call⟩ := transaction
  cases call with
  | setOwner newOwner =>
      obtain ⟨-, rfl⟩ := setOwner_ok.mp stepped
      rw [revokedIn_append_other (by simp)]
      exact record
  | mint args =>
      obtain ⟨-, -, -, rfl⟩ := mint_ok.mp stepped
      rw [revokedIn_append_other (by simp)]
      simp only [Function.update_of_ne (unminted rfl)]
      exact record
  | revoke sbtId =>
      obtain ⟨-, rfl⟩ := revoke_ok.mp stepped
      rcases eq_or_ne id sbtId with rfl | different
      · rw [revokedIn_append_revoke]
        simp only [Function.update_self, record]
      · have other : Call.revoke sbtId ≠ .revoke id := by
          simpa using different.symm
        rw [revokedIn_append_other other]
        simp only [Function.update_of_ne different]
        exact record

/-- The ids given before a mint are not given by it. -/
theorem Recorded.sbtCount_ne {entries : List Mint} {transaction : Transaction}
    (recorded : Recorded entries s) (stepped : AztecCleanHandsSbt.step transaction s = .ok t)
    (minted : transaction.mint?.isSome) {position : ℕ} (earlier : position < entries.length) :
    idOf position ≠ s.sbtCount := by
  obtain ⟨msgSender, call⟩ := transaction
  cases call with
  | mint args =>
      obtain ⟨-, freeRecipient, -, -⟩ := mint_ok.mp stepped
      have indexed := recorded.byAddress.append freeRecipient
      intro same
      rw [recorded.count] at same
      have equal := idOf_inj indexed (by simp; omega) (by simp) same
      omega
  | _ => cases minted

theorem record_of_trace {pre later : List Transaction} {position : ℕ} (sbt : SBT)
    (recorded : Recorded (mints pre) s) (trace : Trace (Succeeds step) s later t)
    (inRange : position < (mints pre).length)
    (record : s.sbts (idOf position) = { sbt with revoked := false }) :
    t.sbts (idOf position) = { sbt with revoked := revokedIn (idOf position) later } := by
  have start : Recorded (mints (pre ++ [])) s ∧
      s.sbts (idOf position) = { sbt with revoked := revokedIn (idOf position) [] } := by
    rw [List.append_nil]
    exact ⟨recorded, record⟩
  have final := trace.history_invariant (P := fun calls state =>
    Recorded (mints (pre ++ calls)) state ∧
      state.sbts (idOf position) = { sbt with revoked := revokedIn (idOf position) calls }) ?_
    start
  · exact final.2
  · rintro earlier call enter leave stepped ⟨before, kept⟩
    rw [← List.append_assoc]
    refine ⟨before.step stepped, step_record stepped ?_ kept⟩
    intro minted
    apply before.sbtCount_ne stepped minted
    rw [mints_append, List.length_append]
    exact Nat.lt_add_right _ inRange

theorem mintRecord_of_run {pre post : List Transaction} {msgSender : AztecAddress} {args : Mint}
    (run : Run owner (pre ++ ⟨msgSender, .mint args⟩ :: post) s) :
    s.sbts (idOf (mints pre).length) = mintRecord pre msgSender args post := by
  obtain ⟨deployed, isDeployed, trace⟩ := run
  obtain ⟨enter, leave, earlier, stepped, later⟩ := trace.split_at
  have before : Recorded (mints pre) enter := recorded_of_run ⟨deployed, isDeployed, earlier⟩
  have after := before.step stepped
  refine record_of_trace (args.sbt (idOf (mints pre).length) false msgSender) after later ?_ ?_
  · rw [mints_append, List.length_append]
    exact Nat.lt_add_of_pos_right (Nat.zero_lt_succ _)
  · obtain ⟨-, -, -, rfl⟩ := mint_ok.mp stepped
    rw [← before.count]
    simp only [Function.update_self]
    rfl

/-- The transaction of a mint, with those before it. -/
theorem mint_at {position : ℕ} {args : Mint} (isEntry : (mints history)[position]? = some args) :
    ∃ pre msgSender post, history = pre ++ ⟨msgSender, .mint args⟩ :: post ∧
      (mints pre).length = position := by
  induction history generalizing position with
  | nil => cases isEntry
  | cons transaction rest ih =>
      cases isMint : transaction.mint? with
      | none =>
          rw [mints, List.filterMap_cons_none isMint] at isEntry
          obtain ⟨pre, msgSender, post, rfl, rfl⟩ := ih isEntry
          refine ⟨transaction :: pre, msgSender, post, rfl, ?_⟩
          rw [mints, List.filterMap_cons_none isMint, mints]
      | some first =>
          rw [mints, List.filterMap_cons_some isMint] at isEntry
          cases position with
          | zero =>
              rw [List.getElem?_cons_zero, Option.some.injEq] at isEntry
              obtain ⟨msgSender, call⟩ := transaction
              cases call with
              | mint args' =>
                  cases isMint
                  exact ⟨[], msgSender, rest, by rw [isEntry, List.nil_append], rfl⟩
              | _ => cases isMint
          | succ position =>
              rw [List.getElem?_cons_succ] at isEntry
              obtain ⟨pre, msgSender, post, rfl, rfl⟩ := ih isEntry
              refine ⟨transaction :: pre, msgSender, post, rfl, ?_⟩
              rw [mints, List.filterMap_cons_some isMint, List.length_cons, mints]

theorem vacantRecord_of_run (run : Run owner history s) {id : Fr}
    (vacant : ∀ position < (mints history).length, idOf position ≠ id) :
    s.sbts id = vacantRecord id history := by
  obtain ⟨deployed, isDeployed, trace⟩ := run
  have start : Recorded (mints []) deployed ∧
      ((∀ position < (mints []).length, idOf position ≠ id) →
        deployed.sbts id = vacantRecord id []) := by
    refine ⟨recorded_constructor isDeployed, fun _ => ?_⟩
    obtain ⟨-, rfl⟩ := constructor_ok.mp isDeployed
    rfl
  have final := trace.history_invariant (P := fun calls state => Recorded (mints calls) state ∧
    ((∀ position < (mints calls).length, idOf position ≠ id) →
      state.sbts id = vacantRecord id calls)) ?_ start
  · exact final.2 vacant
  · rintro earlier call enter leave stepped ⟨before, kept⟩
    refine ⟨before.step stepped, fun vacant => ?_⟩
    rw [mints_append, List.length_append] at vacant
    have keptVacant := kept fun position inRange =>
      vacant position (Nat.lt_add_right _ inRange)
    refine step_record stepped ?_ keptVacant
    intro minted same
    obtain ⟨msgSender, call⟩ := call
    cases call with
    | mint args =>
        apply vacant (mints earlier).length (Nat.lt_add_of_pos_right (Nat.zero_lt_succ _))
        rw [same, before.count]
    | _ => cases minted

/-- The state after a run is read off its transactions: the owner is whom they name, every
mint has the record that it wrote under the owner of the moment, revoked if a later
transaction revoked its id, the lookups of its recipient and nullifier return that record, and
an id without a mint has no record but the mark of its revocations. -/
theorem records_replayed (run : Run owner history s) :
    s.owner = ownerAfter owner history ∧
      (∀ pre msgSender args post, history = pre ++ ⟨msgSender, .mint args⟩ :: post →
        msgSender = ownerAfter owner pre ∧
          getSbtById (idOf (mints pre).length) s = mintRecord pre msgSender args post ∧
          getSbtByAddress args.recipient s = mintRecord pre msgSender args post ∧
          getSbtByNullifier args.actionNullifier s = mintRecord pre msgSender args post) ∧
      ∀ id, (∀ position < (mints history).length, idOf position ≠ id) →
        getSbtById id s = vacantRecord id history := by
  have admissible := admissible_of_run run
  refine ⟨?_, ?_, fun id vacant => vacantRecord_of_run run vacant⟩
  · obtain ⟨deployed, isDeployed, trace⟩ := run
    obtain ⟨-, rfl⟩ := constructor_ok.mp isDeployed
    exact owner_of_trace trace
  · rintro pre msgSender args post rfl
    have record := mintRecord_of_run run
    obtain ⟨byAddress, byNullifier⟩ := slots_of_run run
    refine ⟨admissible.byOwner pre _ post rfl, record, ?_, ?_⟩
    · simpa only [getSbtByAddress, ImmutableMap.read, byAddress, Option.getD_some] using record
    · simpa only [getSbtByNullifier, ImmutableMap.read, byNullifier, Option.getD_some]
        using record

def regime : Regime Transaction AztecAddress Unit where
  caller := Transaction.msgSender
  reserved _ := some ()
  appoints transaction := transaction.newOwner?.map fun newOwner => ((), newOwner)
  appoints_reserved _ _ := rfl

theorem step_lawful {transaction : Transaction} (stepped : step transaction s = .ok t) :
    Lawful regime transaction (fun _ account => account = s.owner)
      (fun _ account => account = t.owner) where
  authorized _ _ := (step_owner stepped).1
  appointed _ account held := by
    rw [held, (step_owner stepped).2]
    cases appointed : transaction.newOwner? with
    | none => simp
    | some newOwner => simp [regime, appointed]

/-- Accounts that include the first owner and hand the contract over only among themselves
keep it, and send every transaction, and are the minters of all SBTs. -/
theorem owner_confined (run : Run owner history s) {Trusted : AztecAddress → Prop}
    (founder : Trusted owner)
    (closed : ∀ msgSender newOwner, ⟨msgSender, .setOwner newOwner⟩ ∈ history →
      Trusted msgSender → Trusted newOwner) :
    Trusted s.owner ∧ (∀ transaction ∈ history, Trusted transaction.msgSender) ∧
      ∀ id, id.val < s.sbtCount.val → Trusted (s.sbts id).minter := by
  have recorded := recorded_of_run run
  have confined : ∀ account, Line regime (fun account => ∃ _ : Unit, account = owner) history
      account → Trusted account := by
    intro account line
    apply line.confined
    · rintro account ⟨-, rfl⟩
      exact founder
    · rintro ⟨msgSender, call⟩ member office account trusted appoints
      cases call with
      | setOwner newOwner =>
          cases appoints
          exact closed _ _ member trusted
      | _ => cases appoints
  have byTrusted : Trusted s.owner ∧ ∀ transaction ∈ history, Trusted transaction.msgSender := by
    obtain ⟨deployed, isDeployed, trace⟩ := run
    obtain ⟨-, rfl⟩ := constructor_ok.mp isDeployed
    have lawful : Trace (Lawful regime) (fun _ account => account = owner) history
        (fun _ account => account = s.owner) :=
      trace.map (fun state _ account => account = state.owner)
        fun _ _ _ stepped => step_lawful stepped
    obtain ⟨holders, senders⟩ := line_of_trace lawful
    exact ⟨confined _ (holders () _ rfl),
      fun transaction member => confined _ (senders transaction member rfl)⟩
  refine ⟨byTrusted.1, byTrusted.2, fun id below => ?_⟩
  obtain ⟨isId, args, isEntry⟩ := recorded.position below
  obtain ⟨pre, msgSender, post, rfl, isPosition⟩ := mint_at isEntry
  have record := mintRecord_of_run run
  rw [isPosition, isId] at record
  rw [record]
  exact byTrusted.2 ⟨msgSender, .mint args⟩ (List.mem_append_right pre List.mem_cons_self)

section Sample

/-- The id `1` is revoked before it is minted, and the id `0` after; then the contract
changes hands, and the new owner mints the id `1`. -/
def succession : List Transaction :=
  [⟨1, .revoke 1⟩, sampleMint, ⟨1, .revoke 0⟩, ⟨1, .setOwner (2 : ℕ)⟩,
    ⟨(2 : ℕ), .mint ⟨((9 : ℕ) : Fr), ((123 : ℕ) : Fr), ((10 : ℕ) : Fr), 3000⟩⟩]

def handedOver : State :=
  finalState step succession sampleDeployed

theorem run_handedOver : Run 1 succession handedOver :=
  ⟨sampleDeployed, rfl, trace_finalState (by decide +kernel)⟩

theorem succession_replayed :
    handedOver.owner = ownerAfter 1 succession ∧
      (∀ pre msgSender args post, succession = pre ++ ⟨msgSender, .mint args⟩ :: post →
        msgSender = ownerAfter 1 pre ∧
          getSbtById (idOf (mints pre).length) handedOver = mintRecord pre msgSender args post ∧
          getSbtByAddress args.recipient handedOver = mintRecord pre msgSender args post ∧
          getSbtByNullifier args.actionNullifier handedOver =
            mintRecord pre msgSender args post) ∧
      ∀ id, (∀ position < (mints succession).length, idOf position ≠ id) →
        getSbtById id handedOver = vacantRecord id succession :=
  records_replayed run_handedOver

def Successor (account : AztecAddress) : Prop :=
  account = 1 ∨ account = (2 : ℕ)

theorem minters_confined :
    Successor handedOver.owner ∧
      (∀ transaction ∈ succession, Successor transaction.msgSender) ∧
      ∀ id, id.val < handedOver.sbtCount.val → Successor (handedOver.sbts id).minter := by
  apply owner_confined run_handedOver
  · exact .inl rfl
  · intro msgSender newOwner member _
    simp only [succession, sampleMint, List.mem_cons, Transaction.mk.injEq, reduceCtorEq, and_false,
      Call.setOwner.injEq, List.not_mem_nil, or_false, false_or] at member
    exact .inr member.2

end Sample

end AztecCleanHandsSbt

end IdHub
