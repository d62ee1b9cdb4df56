import IdHub.HubRecords
import IdHub.Journals

/-!
# The metadata of a token

`setSBT` writes the token's URI after the receiver's hook, from the record that is
stored then.  A hook that has another mint for the same receiver and circuit take effect,
or the owner's revocation, so changes what the URI of its own token says, for good.  In
every run the URI of a token is that of its own mint exactly if the last call that wrote
the record during the hook, if any, is a mint with the same data.
-/

namespace IdHub

section Encoding

/-- A digit is found in the table at its own value. -/
theorem idxOf_base64Digit (number : ℕ) : base64Table.idxOf (base64Digit number) = number % 64 := by
  have places : ∀ i : Fin 64, base64Table.idxOf (base64Table.getD i '=') = i := by
    decide +kernel
  exact places ⟨number % 64, Nat.mod_lt _ (by norm_num)⟩

theorem base64Digit_eq {first second : ℕ} (equal : base64Digit first = base64Digit second) :
    first % 64 = second % 64 := by
  rw [← idxOf_base64Digit, equal, idxOf_base64Digit]

theorem base64Digit_congr {first second : ℕ} (same : first % 64 = second % 64) :
    base64Digit first = base64Digit second := by
  rw [base64Digit, same, ← base64Digit]

theorem base64Digit_ne_padding (number : ℕ) : base64Digit number ≠ '=' := by
  have digits : ∀ i : Fin 64, base64Table.getD i '=' ≠ '=' := by
    decide +kernel
  exact digits ⟨number % 64, Nat.mod_lt _ (by norm_num)⟩

theorem byte_eq {first second : UInt8} (equal : first.toNat = second.toNat) :
    first = second :=
  UInt8.toNat_inj.mp equal

/-- Four digits give back the three bytes that they encode. -/
theorem bytes_of_digits {first second third first' second' third' : UInt8}
    {number number' : ℕ}
    (isNumber : number = (first.toNat * 256 + second.toNat) * 256 + third.toNat)
    (isNumber' : number' = (first'.toNat * 256 + second'.toNat) * 256 + third'.toNat)
    (high : base64Digit (number / 64 ^ 3) = base64Digit (number' / 64 ^ 3))
    (upper : base64Digit (number / 64 ^ 2) = base64Digit (number' / 64 ^ 2))
    (lower : base64Digit (number / 64) = base64Digit (number' / 64))
    (low : base64Digit number = base64Digit number') :
    first = first' ∧ second = second' ∧ third = third' := by
  have digit3 := base64Digit_eq high
  have digit2 := base64Digit_eq upper
  have digit1 := base64Digit_eq lower
  have digit0 := base64Digit_eq low
  have bounds := first.toNat_lt
  have bounds' := first'.toNat_lt
  have bound2 := second.toNat_lt
  have bound2' := second'.toNat_lt
  have bound3 := third.toNat_lt
  have bound3' := third'.toNat_lt
  norm_num at digit3 digit2
  refine ⟨byte_eq ?_, byte_eq ?_, byte_eq ?_⟩ <;> omega

theorem base64Encode_injective : Function.Injective base64Encode := by
  intro bytes bytes' equal
  induction bytes using base64Encode.induct generalizing bytes' with
  | case1 first second third rest ih =>
      rcases bytes' with _ | ⟨first', _ | ⟨second', _ | ⟨third', rest'⟩⟩⟩
      · simp [base64Encode] at equal
      · simp [base64Encode, base64Digit_ne_padding] at equal
      · simp [base64Encode, base64Digit_ne_padding] at equal
      · simp only [base64Encode, List.cons_append, List.nil_append, List.cons.injEq] at equal
        obtain ⟨high, upper, lower, low, sameRest⟩ := equal
        obtain ⟨rfl, rfl, rfl⟩ := bytes_of_digits rfl rfl high upper lower low
        rw [ih sameRest]
  | case2 first second =>
      rcases bytes' with _ | ⟨first', _ | ⟨second', _ | ⟨third', rest'⟩⟩⟩
      · simp [base64Encode] at equal
      · simp [base64Encode, base64Digit_ne_padding] at equal
      · simp only [base64Encode, List.cons.injEq, and_true] at equal
        obtain ⟨high, upper, lower⟩ := equal
        have low : base64Digit ((first.toNat * 256 + second.toNat) * 256) =
            base64Digit ((first'.toNat * 256 + second'.toNat) * 256) :=
          base64Digit_congr (by omega)
        obtain ⟨sameFirst, sameSecond, -⟩ := @bytes_of_digits first second 0 first' second' 0
          _ _ (by simp) (by simp) high upper lower low
        rw [sameFirst, sameSecond]
      · simp [base64Encode, (base64Digit_ne_padding _).symm] at equal
  | case3 first =>
      rcases bytes' with _ | ⟨first', _ | ⟨second', _ | ⟨third', rest'⟩⟩⟩
      · simp [base64Encode] at equal
      · simp only [base64Encode, List.cons.injEq, and_true] at equal
        obtain ⟨high, upper⟩ := equal
        have lower : base64Digit (first.toNat * 256 * 256 / 64) =
            base64Digit (first'.toNat * 256 * 256 / 64) := base64Digit_congr (by omega)
        have low : base64Digit (first.toNat * 256 * 256) =
            base64Digit (first'.toNat * 256 * 256) := base64Digit_congr (by omega)
        have sameFirst := (@bytes_of_digits first 0 0 first' 0 0 _ _ (by simp) (by simp) high
          upper lower low).1
        rw [sameFirst]
      · simp [base64Encode, (base64Digit_ne_padding _).symm] at equal
      · simp [base64Encode, (base64Digit_ne_padding _).symm] at equal
  | case4 =>
      rcases bytes' with _ | ⟨first', _ | ⟨second', _ | ⟨third', rest'⟩⟩⟩
      · rfl
      · simp [base64Encode] at equal
      · simp [base64Encode] at equal
      · simp [base64Encode] at equal

end Encoding

namespace Hub

open CallTraces Guards Reentrancy

/-- `_baseURI`. -/
def baseURI : List Char := "https://nft.holonym.io/nft-metadata/v3/".toList

/-- `ERC721URIStorage.tokenURI`, with a base URI. -/
def tokenURI (tokenId : U256) (s : State) : Except Error (List Char) := do
  require (s.tokens.Exists tokenId) (.message "ERC721: invalid token ID")
  let stored := s.tokens.tokenURIs tokenId
  return baseURI ++ if stored = [] then (toString tokenId.toNat).toList else stored

/-- The token that a mint hands out before it calls the receiver. -/
def mintedToken (ret : Return Message State) : U256 :=
  ret.entered.tokens.tokenIds

/-- Of the calls that write the mint's record the last one, if there is any, is a mint
with the same data. -/
def Undisturbed (env : Environment) (K : SetSBT) (calls : List Message) : Prop :=
  ∀ m ∈ (writesTo env (K.identifier env) calls).getLast?,
    ∃ K', m.entrypoint = .setSBT K' ∧ K'.sbt = K.sbt

variable {env : Environment} {m : Message} {s t : State} {phase : Phase Error State}

theorem encode_injective : Function.Injective SBT.encode := by
  rintro ⟨expiry, publicValues, revoked⟩ ⟨expiry', publicValues', revoked'⟩ equal
  have words := ofWords_words_injective equal
  simp only [List.cons_append, List.nil_append, List.cons.injEq] at words
  obtain ⟨-, rfl, -, sameRevoked, -, rfl⟩ := words
  cases revoked <;> cases revoked' <;> simp at sameRevoked ⊢

theorem encode_ne_nil (sbt : SBT) : base64Encode sbt.encode ≠ [] := by
  intro empty
  have noBytes : sbt.encode = [] := base64Encode_injective empty
  have noWords := @ofWords_words_injective _ [] noBytes
  cases noWords

theorem tokenURI_eq_ok {tokenId : U256} {sbt sbt' : SBT} (minted : s.tokens.Exists tokenId)
    (stored : s.tokens.tokenURIs tokenId = base64Encode sbt.encode) :
    tokenURI tokenId s = .ok (baseURI ++ base64Encode sbt'.encode) ↔ sbt = sbt' := by
  simp only [tokenURI, bind_eq_ok, require_eq_ok, pure_eq_ok, stored,
    if_neg (encode_ne_nil sbt), minted, true_and, exists_const]
  constructor
  · intro equal
    exact encode_injective (base64Encode_injective (List.append_cancel_left equal))
  · rintro rfl
    rfl

theorem recordAfter_eq_iff_undisturbed {K : SetSBT} {calls : List Message} :
    recordAfter env (K.identifier env) calls K.sbt = K.sbt ↔ Undisturbed env K calls := by
  unfold Undisturbed
  cases last : (writesTo env (K.identifier env) calls).getLast? with
  | none =>
      rw [recordAfter_of_untouched (List.getLast?_eq_none_iff.mp last)]
      simp
  | some m =>
      obtain ⟨before, written⟩ := recordAfter_of_last K.sbt last
      have identified := (mem_of_last last).2
      rw [written]
      simp only [Option.mem_some_iff, forall_eq']
      cases entry : m.entrypoint with
      | setSBT K' => simp [Message.writeRecord, entry]
      | revokeSBT sbtOwner circuitId => simp [Message.writeRecord, entry, SetSBT.sbt]
      | _ => simp [Message.identifier?, entry] at identified

section Tokens

variable {tokens minted : Tokens} {receiver : Address} {tokenId : U256} {uri : List Char}

theorem mint_eq_ok : tokens.mint receiver tokenId = .ok minted ↔
    receiver ≠ 0 ∧ ¬ tokens.Exists tokenId ∧
      minted = { tokens with owners := Function.update tokens.owners tokenId receiver } := by
  simp only [Tokens.mint, bind_eq_ok, revertIf_eq_ok, pure_eq_ok]
  constructor
  · rintro ⟨-, nonzero, -, fresh, rfl⟩
    exact ⟨nonzero, fresh, rfl⟩
  · rintro ⟨nonzero, fresh, rfl⟩
    exact ⟨(), nonzero, (), fresh, rfl⟩

theorem setTokenURI_eq_ok : tokens.setTokenURI tokenId uri = .ok minted ↔
    tokens.Exists tokenId ∧
      minted = { tokens with tokenURIs := Function.update tokens.tokenURIs tokenId uri } := by
  simp only [Tokens.setTokenURI, bind_eq_ok, require_eq_ok, pure_eq_ok]
  constructor
  · rintro ⟨-, minted, rfl⟩
    exact ⟨minted, rfl⟩
  · rintro ⟨minted, rfl⟩
    exact ⟨(), minted, rfl⟩

end Tokens

/-- What `setSBT` does to the tokens before the receiver's hook. -/
structure HandsOut (args : SetSBT) (tokens handed : Tokens) : Prop where
  receiver : args.receiver ≠ 0
  fresh : ¬ tokens.Exists handed.tokenIds
  owners : handed.owners = Function.update tokens.owners handed.tokenIds args.receiver
  tokenURIs : handed.tokenURIs = tokens.tokenURIs

theorem setSBT_handsOut {args : SetSBT} (called : setSBT env m args s = .ok phase) :
    HandsOut args s.tokens phase.state.tokens := by
  simp only [setSBT, bind_eq_ok, pure_eq_ok, mint_eq_ok] at called
  obtain ⟨-, -, -, -, tokens, ⟨receiver, fresh, rfl⟩, rfl⟩ := called
  exact ⟨receiver, fresh, rfl, rfl⟩

theorem setSBT_phase {args : SetSBT} (called : setSBT env m args s = .ok phase) :
    phase = .external phase.state
      (.message "ERC721: transfer to non ERC721Receiver implementer")
      (finishSetSBT phase.state.tokens.tokenIds (args.identifier env)) := by
  simp only [setSBT, bind_eq_ok, pure_eq_ok, mint_eq_ok] at called
  obtain ⟨-, -, -, -, tokens, ⟨-, -, rfl⟩, rfl⟩ := called
  rfl

/-- Only mints change the tokens, before the hook. -/
theorem contract_tokens (called : contract env m s = .ok phase) :
    phase.state.tokens = s.tokens ∨
      ∃ args, m.entrypoint = .setSBT args ∧ HandsOut args s.tokens phase.state.tokens := by
  cases contract_started called with
  | mint args entry started => exact .inr ⟨args, entry, setSBT_handsOut started⟩
  | revoke _ _ => exact .inl rfl
  | collect _ => exact .inl rfl
  | administer _ _ _ tokens => exact .inl tokens

/-- After the hook of a mint its token's URI is written, and nothing after that of
`collectFees`. -/
theorem contract_resume_tokens {entered returned final : State} {onFail : Error}
    {resume : State → Except Error State}
    (called : contract env m s = .ok (.external entered onFail resume))
    (resumed : resume returned = .ok final) :
    ((∀ args, m.entrypoint ≠ .setSBT args) ∧ final.tokens = returned.tokens) ∨
      ∃ args, m.entrypoint = .setSBT args ∧ HandsOut args s.tokens entered.tokens ∧
        final.tokens = { returned.tokens with
          tokenURIs := Function.update returned.tokens.tokenURIs entered.tokens.tokenIds
            (base64Encode (returned.records.sbtOwners (args.identifier env)).encode) } := by
  cases contract_started called with
  | mint args entry started =>
      have same := setSBT_phase started
      simp only [Phase.external.injEq, Phase.state, true_and] at same
      rw [same.2] at resumed
      simp only [finishSetSBT, bind_eq_ok, pure_eq_ok, setTokenURI_eq_ok] at resumed
      obtain ⟨tokens, ⟨-, rfl⟩, rfl⟩ := resumed
      exact .inr ⟨args, entry, setSBT_handsOut started, rfl⟩
  | collect entry =>
      simp only [Except.ok.injEq] at resumed
      rw [resumed]
      exact .inl ⟨by simp [entry], rfl⟩

/-- Tokens stay with their owners and keep their URIs. -/
structure TokensKept (before after : Tokens) : Prop where
  owners : ∀ tokenId, before.Exists tokenId → after.owners tokenId = before.owners tokenId
  tokenURIs : ∀ tokenId, before.Exists tokenId →
    after.tokenURIs tokenId = before.tokenURIs tokenId

section Kept

variable {first second third : Tokens} {tokenId : U256}

theorem tokensKept_refl (tokens : Tokens) : TokensKept tokens tokens :=
  ⟨fun _ _ => rfl, fun _ _ => rfl⟩

theorem TokensKept.existing (kept : TokensKept first second)
    (existing : first.Exists tokenId) : second.Exists tokenId := by
  rw [Tokens.Exists, kept.owners tokenId existing]
  exact existing

theorem TokensKept.trans (kept : TokensKept first second) (kept' : TokensKept second third) :
    TokensKept first third where
  owners tokenId existing :=
    (kept'.owners tokenId (kept.existing existing)).trans (kept.owners tokenId existing)
  tokenURIs tokenId existing :=
    (kept'.tokenURIs tokenId (kept.existing existing)).trans (kept.tokenURIs tokenId existing)

theorem HandsOut.kept {args : SetSBT} (handsOut : HandsOut args first second) :
    TokensKept first second where
  owners tokenId existing := by
    have other : tokenId ≠ second.tokenIds := fun same => handsOut.fresh (same ▸ existing)
    rw [handsOut.owners, Function.update_of_ne other]
  tokenURIs tokenId _ := by rw [handsOut.tokenURIs]

theorem HandsOut.existing {args : SetSBT} (handsOut : HandsOut args first second) :
    second.Exists second.tokenIds := by
  rw [Tokens.Exists, handsOut.owners, Function.update_self]
  exact handsOut.receiver

theorem tokensKept_of_called (called : contract env m s = .ok phase) :
    TokensKept s.tokens phase.state.tokens := by
  rcases contract_tokens called with same | ⟨args, -, handsOut⟩
  · rw [same]
    exact tokensKept_refl s.tokens
  · exact handsOut.kept

end Kept

/-- The calls take effect on the registry, and the tokens that there are stay. -/
structure Kept (env : Environment) (s : State) (calls : List Message) (t : State) : Prop where
  trace : Trace (Step env) s.registry calls t.registry
  tokens : TokensKept s.tokens t.tokens

/-- The token of a mint that has returned, which was not there at first: its owner, and
the record that its URI encodes. -/
structure TokenFinished (env : Environment) (K : SetSBT) (ret : Return Message State)
    (s t : State) : Prop where
  receiver : K.receiver ≠ 0
  fresh : ¬ s.tokens.Exists (mintedToken ret)
  owner : t.tokens.owners (mintedToken ret) = K.receiver
  uri : t.tokens.tokenURIs (mintedToken ret) =
    base64Encode (recordAfter env (K.identifier env) ret.meanwhile K.sbt).encode

def Finished (env : Environment) (ret : Return Message State) (s t : State) : Prop :=
  ∀ K, ret.call.entrypoint = .setSBT K → TokenFinished env K ret s t

theorem TokenFinished.existing {K : SetSBT} {ret : Return Message State}
    (finished : TokenFinished env K ret s t) : t.tokens.Exists (mintedToken ret) := by
  rw [Tokens.Exists, finished.owner]
  exact finished.receiver

section Resume

variable {entered returned final : State} {onFail : Error}
variable {resume : State → Except Error State} {calls : List Message}

theorem kept_resume (called : contract env m s = .ok (.external entered onFail resume))
    (kept : Kept env entered calls returned) (resumed : resume returned = .ok final) :
    Kept env s (m :: calls) final where
  trace := by
    rw [contract_resume called resumed]
    exact .cons (contract_step called) kept.trace
  tokens := by
    have start : TokensKept s.tokens entered.tokens := tokensKept_of_called called
    have through := start.trans kept.tokens
    rcases contract_resume_tokens called resumed with ⟨-, same⟩ | ⟨args, -, handsOut, written⟩
    · rw [same]
      exact through
    · refine ⟨?_, ?_⟩
      · rw [written]
        exact through.owners
      · intro tokenId existing
        have other : tokenId ≠ entered.tokens.tokenIds :=
          fun same => handsOut.fresh (same ▸ existing)
        rw [written, ← through.tokenURIs tokenId existing]
        exact Function.update_of_ne other _ _

theorem finished_own (called : contract env m s = .ok (.external entered onFail resume))
    (kept : Kept env entered calls returned) (resumed : resume returned = .ok final) :
    Finished env ⟨m, entered, calls⟩ s final := by
  intro K minted
  rcases contract_resume_tokens called resumed with
    ⟨unminted, -⟩ | ⟨args, isMint, handsOut, written⟩
  · exact absurd minted (unminted K)
  · rw [isMint, Entrypoint.setSBT.injEq] at minted
    subst minted
    have stored : entered.registry.records.sbtOwners (args.identifier env) = args.sbt :=
      (contract_step called).record_of_mint isMint
    have record : returned.records.sbtOwners (args.identifier env) =
        recordAfter env (args.identifier env) calls args.sbt := by
      have atReturn := record_of_trace kept.trace (args.identifier env)
      rwa [stored] at atReturn
    have owner : returned.tokens.owners entered.tokens.tokenIds = args.receiver := by
      rw [kept.tokens.owners _ handsOut.existing, handsOut.owners, Function.update_self]
    refine ⟨handsOut.receiver, handsOut.fresh, ?_, ?_⟩
    · rw [written]
      exact owner
    · rw [written, record]
      exact Function.update_self _ _ _

theorem finished_inner {ret : Return Message State}
    (called : contract env m s = .ok (.external entered onFail resume))
    (resumed : resume returned = .ok final) (finished : Finished env ret entered returned) :
    Finished env ret s final := by
  intro K minted
  have inner := finished K minted
  have start : TokensKept s.tokens entered.tokens := tokensKept_of_called called
  have fresh : ¬ s.tokens.Exists (mintedToken ret) :=
    fun existing => inner.fresh (start.existing existing)
  rcases contract_resume_tokens called resumed with ⟨-, same⟩ | ⟨args, -, handsOut, written⟩
  · exact ⟨inner.receiver, fresh, by rw [same]; exact inner.owner,
      by rw [same]; exact inner.uri⟩
  · have other : mintedToken ret ≠ entered.tokens.tokenIds :=
      fun same => inner.fresh (same ▸ handsOut.existing)
    refine ⟨inner.receiver, fresh, ?_, ?_⟩
    · rw [written]
      exact inner.owner
    · rw [written, ← inner.uri]
      exact Function.update_of_ne other _ _

end Resume

theorem tokens_rule (env : Environment) :
    JournalRule (contract env) (Kept env) (Finished env) where
  refl s := ⟨.nil _, tokensKept_refl _⟩
  trans kept kept' := ⟨kept.trace.append kept'.trace, kept.tokens.trans kept'.tokens⟩
  enter called := ⟨.single (contract_step called), tokensKept_of_called called⟩
  resume called kept resumed := kept_resume called kept resumed
  own := finished_own
  inner called _ resumed finished := finished_inner called resumed finished
  before := by
    intro first second calls third ret finished kept K minted
    have now := finished K minted
    refine ⟨now.receiver, now.fresh, ?_, ?_⟩
    · rw [kept.tokens.owners _ now.existing, now.owner]
    · rw [kept.tokens.tokenURIs _ now.existing, now.uri]
  after := by
    intro first calls second third ret kept finished K minted
    have later := finished K minted
    exact ⟨later.receiver, fun existing => later.fresh (kept.tokens.existing existing),
      later.owner, later.uri⟩

theorem undisturbed_of_untouched {K : SetSBT} {calls : List Message}
    (untouched : writesTo env (K.identifier env) calls = []) : Undisturbed env K calls := by
  intro m last
  rw [untouched] at last
  cases last

/-- In every world of a run after a mint has returned, its receiver owns the token, and
the token's URI is the base URI with the mint's own data exactly if what took effect
during the receiver's hook left these data in the record. -/
theorem tokenURI_iff_undisturbed {deployer verifier : Address} {balance : ℕ}
    {world : World Message (Journaled Message State)}
    (reached : Reached (journaled (contract env))
      ⟨.start (constructor deployer verifier balance), []⟩ world)
    {ret : Return Message State} (returned : ret ∈ world.state.returns) {K : SetSBT}
    (minted : ret.call.entrypoint = .setSBT K) :
    world.state.state.tokens.owners (mintedToken ret) = K.receiver ∧
      (tokenURI (mintedToken ret) world.state.state =
          .ok (baseURI ++ base64Encode (SBT.encode ⟨K.expiration, K.publicValues, false⟩)) ↔
        Undisturbed env K ret.meanwhile) := by
  have finished := (tokens_rule env).reached reached ret returned K minted
  refine ⟨finished.owner, ?_⟩
  rw [← recordAfter_eq_iff_undisturbed]
  exact tokenURI_eq_ok finished.existing finished.uri

section Sample

/-- A mint whose receiver mints again in its hook. -/
def hookWorld (mint inHook : SetSBT) : World Message (Journaled Message State) :=
  run (journaled (contract sampleEnvironment))
    [.call (sampleMessage (.setSBT mint))
      (.call (sampleMessage (.setSBT inHook)) .done .done) .done]
    ⟨.start (constructor 0xad sampleVerifier 0), []⟩

theorem reached_hookWorld (mint inHook : SetSBT) :
    Reached (journaled (contract sampleEnvironment))
      ⟨.start (constructor 0xad sampleVerifier 0), []⟩ (hookWorld mint inHook) :=
  ⟨_, .done, .here .done _⟩

theorem two_returns_of_secondMint :
    1 < (hookWorld firstMint secondMint).state.returns.length := by
  decide +kernel

theorem two_returns_of_otherMint :
    1 < (hookWorld firstMint otherMint).state.returns.length := by
  decide +kernel

/-- The second mint for the same record returns first, and then the URI of the first one's
token is written with the second one's data. -/
theorem firstMint_disturbed : ∃ world ret,
    Reached (journaled (contract sampleEnvironment))
      ⟨.start (constructor 0xad sampleVerifier 0), []⟩ world ∧
    ret ∈ world.state.returns ∧ ret.call.entrypoint = .setSBT firstMint ∧
    tokenURI (mintedToken ret) world.state.state =
      .ok (baseURI ++ base64Encode secondMint.sbt.encode) ∧
    tokenURI (mintedToken ret) world.state.state ≠
      .ok (baseURI ++ base64Encode firstMint.sbt.encode) := by
  refine ⟨hookWorld firstMint secondMint,
    (hookWorld firstMint secondMint).state.returns.get ⟨1, two_returns_of_secondMint⟩,
    reached_hookWorld _ _, List.get_mem _ _, ?_, ?_, ?_⟩
  · decide +kernel
  · decide +kernel
  · decide +kernel

/-- A mint for another circuit in the hook leaves the first one's metadata. -/
theorem firstMint_undisturbed : ∃ ret ∈ (hookWorld firstMint otherMint).state.returns,
    ret.call.entrypoint = .setSBT firstMint ∧
    tokenURI (mintedToken ret) (hookWorld firstMint otherMint).state.state =
      .ok (baseURI ++ base64Encode (SBT.encode ⟨2000, [5], false⟩)) := by
  let ret := (hookWorld firstMint otherMint).state.returns.get ⟨1, two_returns_of_otherMint⟩
  have returned : ret ∈ (hookWorld firstMint otherMint).state.returns := List.get_mem _ _
  have minted : ret.call.entrypoint = .setSBT firstMint := by decide +kernel
  have untouched : writesTo sampleEnvironment (firstMint.identifier sampleEnvironment)
      ret.meanwhile = [] := by decide +kernel
  exact ⟨ret, returned, minted, (tokenURI_iff_undisturbed (reached_hookWorld _ _) returned
    minted).2.mpr (undisturbed_of_untouched untouched)⟩

end Sample

end Hub

end IdHub
