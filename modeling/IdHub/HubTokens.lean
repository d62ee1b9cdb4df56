import IdHub.HubRegistry

/-!
# The tokens and the fees of the hub

A mint hands out the next token id, before the receiver's hook.  Owners may approve others
for their tokens, but the override of `_transfer` makes every transfer revert, and no
function burns a token.  So the tokens are the mints, in the order in which they took
effect, each owned by its receiver for good.  The hub holds the fees of the mints and what
was forced on it since the last collection, or since its deployment with what it got there.
-/

namespace IdHub

namespace Hub

open CallTraces Guards Reentrancy

structure Accounts where
  tokenIds : U256
  owners : U256 → Address
  balance : ℕ

def State.accounts (s : State) : Accounts :=
  ⟨s.tokens.tokenIds, s.tokens.owners, s.balance⟩

/-- The id of the token that was minted after `index` others. -/
def tokenIdAt (index : ℕ) : U256 := BitVec.ofNat 256 (index + 1)

/-- The functions of `ERC721` that move tokens. -/
def Entrypoint.Transfers : Entrypoint → Bool
  | .transferFrom _ _ _ => true
  | .safeTransferFrom _ _ _ _ => true
  | _ => false

/-- What the hub holds after the calls. -/
def feesHeld (initial : ℕ) (calls : List Message) : ℕ :=
  calls.foldl (fun held m =>
    match m.entrypoint with
    | .setSBT args => held + args.customFee.toNat
    | .forcedEther => held + m.value.toNat
    | .collectFees => 0
    | _ => held) initial

/-- What one call does to the tokens and the fees. -/
inductive Accounted (m : Message) : Accounts → Accounts → Prop
  | mint {accounts : Accounts} (args : SetSBT) (entry : m.entrypoint = .setSBT args)
      (receiver : args.receiver ≠ 0) (unminted : accounts.owners (accounts.tokenIds + 1) = 0) :
      Accounted m accounts ⟨accounts.tokenIds + 1,
        Function.update accounts.owners (accounts.tokenIds + 1) args.receiver,
        accounts.balance + args.customFee.toNat⟩
  | other {accounts : Accounts} {balance : ℕ} (minted : m.mint? = none)
      (unmoved : m.entrypoint.Transfers = false)
      (held : balance = feesHeld accounts.balance [m]) :
      Accounted m accounts { accounts with balance := balance }

variable {env : Environment} {m : Message} {s : State} {phase : Phase Error State}

theorem setSBT_accounted {args : SetSBT} (entry : m.entrypoint = .setSBT args)
    (called : setSBT env m args s = .ok phase) :
    Accounted m s.accounts phase.state.accounts := by
  simp only [setSBT, checkSetSBT, bind_eq_ok, require_eq_ok, pure_eq_ok, mapError_eq_ok]
    at called
  obtain ⟨_, ⟨-, paid, -⟩, marked, -, tokens, minted, rfl⟩ := called
  simp only [Tokens.mint, bind_eq_ok, revertIf_eq_ok, pure_eq_ok] at minted
  obtain ⟨-, receiver, -, absent, rfl⟩ := minted
  have unminted : s.accounts.owners (s.accounts.tokenIds + 1) = 0 := not_not.mp absent
  have step := Accounted.mint args entry receiver unminted
  rw [← paid] at step
  exact step

/-- A call that mints nothing and transfers nothing, and has this effect on the balance. -/
theorem accounted_other {t : State} (minted : m.mint? = none)
    (unmoved : m.entrypoint.Transfers = false) (tokens : t.tokens = s.tokens)
    (held : t.balance = feesHeld s.balance [m]) : Accounted m s.accounts t.accounts := by
  have same : t.accounts = { s.accounts with balance := t.balance } := by
    rw [State.accounts, State.accounts, tokens]
  rw [same]
  exact .other minted unmoved held

theorem contract_accounted (called : contract env m s = .ok phase) :
    Accounted m s.accounts phase.state.accounts := by
  unfold contract at called
  cases entry : m.entrypoint with
  | setSBT args =>
      rw [entry] at called
      exact setSBT_accounted entry called
  | revokeSBT sbtOwner circuitId =>
      simp only [entry, revokeSBT, bind_eq_ok, pure_eq_ok] at called
      obtain ⟨-, -, -, -, rfl⟩ := called
      exact accounted_other (by rw [Message.mint?, entry]) (by rw [entry]; rfl) rfl
        (by rw [feesHeld, List.foldl_cons, entry]; rfl)
  | changeVerifier newVerifier =>
      simp only [entry, changeVerifier, bind_eq_ok, pure_eq_ok] at called
      obtain ⟨-, -, -, -, rfl⟩ := called
      exact accounted_other (by rw [Message.mint?, entry]) (by rw [entry]; rfl) rfl
        (by rw [feesHeld, List.foldl_cons, entry]; rfl)
  | collectFees =>
      simp only [entry, collectFees, bind_eq_ok, pure_eq_ok] at called
      obtain ⟨-, -, -, -, rfl⟩ := called
      exact accounted_other (by rw [Message.mint?, entry]) (by rw [entry]; rfl) rfl
        (by rw [feesHeld, List.foldl_cons, entry]; rfl)
  | transferOwnership newOwner =>
      simp only [entry, transferOwnership, bind_eq_ok, pure_eq_ok] at called
      obtain ⟨-, -, -, -, -, -, rfl⟩ := called
      exact accounted_other (by rw [Message.mint?, entry]) (by rw [entry]; rfl) rfl
        (by rw [feesHeld, List.foldl_cons, entry]; rfl)
  | renounceOwnership =>
      simp only [entry, renounceOwnership, bind_eq_ok, pure_eq_ok] at called
      obtain ⟨-, -, -, -, rfl⟩ := called
      exact accounted_other (by rw [Message.mint?, entry]) (by rw [entry]; rfl) rfl
        (by rw [feesHeld, List.foldl_cons, entry]; rfl)
  | approve receiver tokenId =>
      simp only [entry, approve, bind_eq_ok, pure_eq_ok] at called
      obtain ⟨-, -, -, -, rfl⟩ := called
      exact accounted_other (by rw [Message.mint?, entry]) (by rw [entry]; rfl) rfl
        (by rw [feesHeld, List.foldl_cons, entry]; rfl)
  | setApprovalForAll operator approved =>
      simp only [entry, setApprovalForAll, bind_eq_ok, pure_eq_ok] at called
      obtain ⟨-, -, -, -, rfl⟩ := called
      exact accounted_other (by rw [Message.mint?, entry]) (by rw [entry]; rfl) rfl
        (by rw [feesHeld, List.foldl_cons, entry]; rfl)
  | transferFrom holder receiver tokenId =>
      rw [entry] at called
      exact absurd called transferFrom_ne_ok
  | safeTransferFrom holder receiver tokenId data =>
      rw [entry] at called
      exact absurd called safeTransferFrom_ne_ok
  | forcedEther =>
      simp only [entry, Except.ok.injEq] at called
      rw [← called]
      exact accounted_other (by rw [Message.mint?, entry]) (by rw [entry]; rfl) rfl
        (by rw [feesHeld, List.foldl_cons, entry]; rfl)

theorem contract_accounts (env : Environment) :
    Guarantee (contract env) (fun world after => ∃ later,
      after.history = world.history ++ later ∧
        Trace Accounted world.state.accounts later after.state.accounts) := by
  apply linearization State.accounts
  · intro call state phase called
    exact contract_accounted called
  · intro call state middle onFail resume returned final called resumed
    cases contract_started called with
    | mint args _ started =>
        obtain ⟨-, -, tokens, same⟩ := setSBT_ok started
        simp only [Phase.external.injEq] at same
        obtain ⟨-, -, rfl⟩ := same
        simp only [finishSetSBT, Tokens.setTokenURI, bind_eq_ok, pure_eq_ok] at resumed
        obtain ⟨-, ⟨-, -, rfl⟩, rfl⟩ := resumed
        rfl
    | collect _ =>
        simp only [Except.ok.injEq] at resumed
        rw [resumed]

/-- The tokens are the mints of the history, and the balance is what it collected. -/
structure Ledger (initial : ℕ) (history : List Message) (accounts : Accounts) : Prop where
  count : accounts.tokenIds = BitVec.ofNat 256 (mints history).length
  bounded : (mints history).length ≤ 2 ^ 256
  owned : ∀ index args, (mints history)[index]? = some args →
    args.receiver ≠ 0 ∧ accounts.owners (tokenIdAt index) = args.receiver
  minted : ∀ tokenId, accounts.owners tokenId ≠ 0 →
    ∃ index < (mints history).length, tokenId = tokenIdAt index
  /-- No transfer took effect. -/
  unmoved : ∀ call ∈ history, call.entrypoint.Transfers = false
  held : accounts.balance = feesHeld initial history

theorem ledger_deployed (initial : ℕ) : Ledger initial [] ⟨0, fun _ => 0, initial⟩ where
  count := rfl
  bounded := Nat.zero_le _
  owned _ _ found := by cases found
  minted _ owned := absurd rfl owned
  unmoved _ member := by cases member
  held := rfl

theorem tokenIdAt_eq (index : ℕ) : BitVec.ofNat 256 index + 1 = tokenIdAt index := by
  apply BitVec.eq_of_toNat_eq
  simp [tokenIdAt, BitVec.toNat_add]

theorem feesHeld_append (initial : ℕ) (first second : List Message) :
    feesHeld initial (first ++ second) = feesHeld (feesHeld initial first) second := by
  rw [feesHeld, List.foldl_append, ← feesHeld, ← feesHeld]

variable {initial : ℕ} {history : List Message} {accounts after : Accounts}

/-- The ids would wrap around to a token that exists, so the mint with that id fails. -/
theorem Ledger.not_exhausted (ledger : Ledger initial history accounts)
    (unminted : accounts.owners (accounts.tokenIds + 1) = 0) :
    (mints history).length < 2 ^ 256 := by
  refine Nat.lt_of_le_of_ne ledger.bounded ?_
  intro full
  have first : 0 < (mints history).length := by omega
  obtain ⟨receiver, owner⟩ := ledger.owned 0 _ (List.getElem?_eq_getElem first)
  have wrapped : accounts.tokenIds + 1 = tokenIdAt 0 := by
    rw [ledger.count, full, tokenIdAt_eq]
    decide
  rw [wrapped, owner] at unminted
  exact receiver unminted

theorem Ledger.unmoved_append (ledger : Ledger initial history accounts)
    (unmoved : m.entrypoint.Transfers = false) :
    ∀ call ∈ history ++ [m], call.entrypoint.Transfers = false := by
  intro call member
  rcases List.mem_append.mp member with earlier | last
  · exact ledger.unmoved call earlier
  · rw [List.mem_singleton.mp last]
    exact unmoved

theorem Ledger.mint {args : SetSBT} (ledger : Ledger initial history accounts)
    (entry : m.entrypoint = .setSBT args) (receiver : args.receiver ≠ 0)
    (unminted : accounts.owners (accounts.tokenIds + 1) = 0) :
    Ledger initial (history ++ [m]) ⟨accounts.tokenIds + 1,
      Function.update accounts.owners (accounts.tokenIds + 1) args.receiver,
      accounts.balance + args.customFee.toNat⟩ := by
  have bound := ledger.not_exhausted unminted
  have newId : accounts.tokenIds + 1 = tokenIdAt (mints history).length := by
    rw [ledger.count, tokenIdAt_eq]
  have mintsAfter : mints (history ++ [m]) = mints history ++ [args] := by
    rw [mints_append, mints_single_some (by rw [Message.mint?, entry])]
  rw [newId] at unminted ⊢
  constructor
  · rw [mintsAfter, List.length_append, List.length_singleton]
    rfl
  · rw [mintsAfter, List.length_append, List.length_singleton]
    exact bound
  · intro index minted found
    rw [mintsAfter] at found
    by_cases earlier : index < (mints history).length
    · rw [List.getElem?_append_left earlier] at found
      obtain ⟨nonzero, owner⟩ := ledger.owned index minted found
      have different : tokenIdAt index ≠ tokenIdAt (mints history).length := by
        intro same
        rw [same, unminted] at owner
        exact nonzero owner.symm
      exact ⟨nonzero, by simp only [Function.update_of_ne different, owner]⟩
    · have last : index = (mints history).length := by
        have inside := (List.getElem?_eq_some_iff.mp found).1
        rw [List.length_append, List.length_singleton] at inside
        omega
      subst last
      simp only [List.getElem?_append_right le_rfl, Nat.sub_self, List.getElem?_cons_zero,
        Option.some.injEq] at found
      subst found
      exact ⟨receiver, Function.update_self _ _ _⟩
  · intro tokenId owned
    rw [mintsAfter, List.length_append, List.length_singleton]
    rcases eq_or_ne tokenId (tokenIdAt (mints history).length) with rfl | different
    · exact ⟨_, Nat.lt_succ_self _, rfl⟩
    · simp only [Function.update_of_ne different] at owned
      obtain ⟨index, inside, same⟩ := ledger.minted tokenId owned
      exact ⟨index, Nat.lt_succ_of_lt inside, same⟩
  · exact ledger.unmoved_append (by rw [entry]; rfl)
  · rw [feesHeld_append, ← ledger.held, feesHeld, List.foldl_cons, entry]
    rfl

theorem Ledger.step (ledger : Ledger initial history accounts)
    (step : Accounted m accounts after) : Ledger initial (history ++ [m]) after := by
  cases step with
  | mint args entry receiver unminted => exact ledger.mint entry receiver unminted
  | other minted unmoved held =>
      have mintsAfter : mints (history ++ [m]) = mints history := by
        rw [mints_append, mints_single_none minted, List.append_nil]
      constructor
      · rw [mintsAfter]
        exact ledger.count
      · rw [mintsAfter]
        exact ledger.bounded
      · rw [mintsAfter]
        exact ledger.owned
      · rw [mintsAfter]
        exact ledger.minted
      · exact ledger.unmoved_append unmoved
      · rw [feesHeld_append, ← ledger.held]
        exact held

theorem Accounted.owner_kept (step : Accounted m accounts after) {tokenId : U256}
    (owned : accounts.owners tokenId ≠ 0) :
    after.owners tokenId = accounts.owners tokenId := by
  cases step with
  | mint args entry receiver unminted =>
      have different : tokenId ≠ accounts.tokenIds + 1 := fun same => owned (same ▸ unminted)
      exact Function.update_of_ne different _ _
  | other minted unmoved held => rfl

theorem owner_kept_of_trace {calls : List Message}
    (trace : Trace Accounted accounts calls after) {tokenId : U256}
    (owned : accounts.owners tokenId ≠ 0) :
    after.owners tokenId = accounts.owners tokenId := by
  apply trace.invariant (P := fun now => now.owners tokenId = accounts.owners tokenId)
  · intro call enter leave step kept
    rw [step.owner_kept (kept ▸ owned), kept]
  · rfl

/-- In every world that a run reaches, also inside a hook, the tokens are the mints of the
history with the ids from `1` on, no transfer has taken effect, the balance is what came in
since the last collection, and a token that exists belongs to its owner in every later
world. -/
theorem tokens_are_mints {deployer verifier : Address} {balance : ℕ}
    {world : World Message State}
    (reached : Reached (contract env) ⟨constructor deployer verifier balance, []⟩ world) :
    Ledger balance world.history world.state.accounts ∧
      ∀ later, Reached (contract env) world later → ∀ tokenId,
        world.state.tokens.owners tokenId ≠ 0 →
          later.state.tokens.owners tokenId = world.state.tokens.owners tokenId := by
  constructor
  · obtain ⟨calls, history, trace⟩ := (contract_accounts env).reached reached
    have ledger := trace.history_invariant (P := Ledger balance)
      (fun _ _ _ _ step ledger => ledger.step step) (ledger_deployed balance)
    rw [history]
    exact ledger
  · intro later reachedLater tokenId owned
    obtain ⟨calls, -, trace⟩ := (contract_accounts env).reached reachedLater
    exact owner_kept_of_trace trace owned

/-- The override refuses the transfers that `ERC721` would allow. -/
theorem transfers_refused {holder receiver : Address} {tokenId : U256}
    {data : WordBytes.Bytes} (unpaid : m.value = 0)
    (allowed : s.approvals.requireApprovedOrOwner s.tokens m.sender tokenId = .ok ()) :
    transferFrom m holder receiver tokenId s =
        .error (.message "Cannot transfer this type of token") ∧
      safeTransferFrom m holder receiver tokenId data s =
        .error (.message "Cannot transfer this type of token") := by
  have free : nonPayable m = .ok () := require_eq_ok.mpr unpaid
  constructor
  · rw [transferFrom, free, allowed]
    rfl
  · rw [safeTransferFrom, free, allowed]
    rfl

section Sample

/-- Two mints, the second one for a fee.  The holder of the first token approves an account,
which tries to transfer it; the owner collects what the hub got at its deployment, and
later ETH is forced on it. -/
def approvalWorld : World Message State :=
  run (contract sampleEnvironment)
    [.call ⟨0xcc, 0, .setSBT firstMint⟩ .done .done,
      .call ⟨0xa1, 0, .approve 0xbb 1⟩ .done .done,
      .call ⟨0xbb, 0, .transferFrom 0xa1 0xbb 1⟩ .done .done,
      .call ⟨0xad, 0, .collectFees⟩ .done .done,
      .call ⟨0xcc, 7, .setSBT paidMint⟩ .done .done,
      .call ⟨0xee, 2, .forcedEther⟩ .done .done]
    ⟨constructor 0xad sampleVerifier 5, []⟩

theorem reached_approvalWorld : Reached (contract sampleEnvironment)
    ⟨constructor 0xad sampleVerifier 5, []⟩ approvalWorld :=
  ⟨_, .done, .here .done _⟩

theorem approvalWorld_tokens :
    Ledger 5 approvalWorld.history approvalWorld.state.accounts ∧
      ∀ later, Reached (contract sampleEnvironment) approvalWorld later → ∀ tokenId,
        approvalWorld.state.tokens.owners tokenId ≠ 0 →
          later.state.tokens.owners tokenId = approvalWorld.state.tokens.owners tokenId :=
  tokens_are_mints reached_approvalWorld

example : approvalWorld.history = [⟨0xcc, 0, .setSBT firstMint⟩, ⟨0xa1, 0, .approve 0xbb 1⟩,
    ⟨0xad, 0, .collectFees⟩, ⟨0xcc, 7, .setSBT paidMint⟩, ⟨0xee, 2, .forcedEther⟩] ∧
    approvalWorld.state.approvals.tokenApprovals 1 = 0xbb ∧
    approvalWorld.state.balance = 9 := by
  decide +kernel

end Sample

end Hub

end IdHub
