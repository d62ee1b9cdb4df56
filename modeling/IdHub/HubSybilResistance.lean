import IdHub.HubGovernance
import IdHub.HubNullifiers
import IdHub.V3PublicSignals
import Mathlib.Data.Set.Card

/-!
# One user of the hub for each credential

The verifier's server signs what `V3SybilResistance.circom` shows: the expiry, the
recipient and the action nullifier become arguments of `setSBT`, and all public signals
become the public values.  An application asks the hub for a record with its own action
and issuer.  However the hub's users behave, it never admits more of them than the issuer
has handed out secrets.
-/

namespace IdHub

namespace Hub

open Guards Reentrancy SingleUse

/-- A field element as an argument of the contract. -/
def word (x : Fr) : U256 :=
  BitVec.ofNat 256 x.val

theorem word_injective : Function.Injective word := by
  intro x y same
  apply ZMod.val_injective
  have below (z : Fr) : z.val < 2 ^ 256 := (ZMod.val_lt z).trans (by norm_num)
  have values := congrArg BitVec.toNat same
  rwa [word, word, BitVec.toNat_ofNat, BitVec.toNat_ofNat, Nat.mod_eq_of_lt (below x),
    Nat.mod_eq_of_lt (below y)] at values

/-- The server's arguments for public signals, as in the hub's integration test. -/
structure Serves (signals : SybilResistance.Public) (args : SetSBT) : Prop where
  sbtReciever : args.sbtReciever = word signals.recipient
  expiration : args.expiration = word signals.expiry
  nullifier : args.nullifier = word signals.actionNullifier
  publicValues : args.publicValues =
    [word signals.expiry, word signals.recipient, word signals.actionId,
      word signals.actionNullifier, word signals.issuerAddress]

/-- The public signals were shown with a credential that the issuer has handed out. -/
def Shown (lib : Circomlib) (issued : Fr → Set V3.Credential)
    (signals : SybilResistance.Public) : Prop :=
  ∃ w : SybilResistance.Signals, SybilResistance.Satisfies lib w ∧
    w.publicSignals = signals ∧ w.v3.credential ∈ issued w.issuerAddress

/-- The signatures of the verifier of the time that the calls of the history presented for
this circuit were made by the server, for what it was shown. -/
def Honest (env : Environment) (lib : Circomlib) (issued : Fr → Set V3.Credential)
    (circuitId : Bytes32) (initial : Governance) (history : List Message) : Prop :=
  ∀ pre call post, history = pre ++ call :: post → ∀ args, call.entrypoint = .setSBT args →
    args.circuitId = circuitId →
    env.recover (args.digest env) args.signature =
        .ok (governanceAfter initial pre).verifier →
      ∃ signals, Shown lib issued signals ∧ Serves signals args

/-- The public values that an application checks in a record. -/
structure Accepts (actionId issuerAddress : Fr) (sbt : SBT) : Prop where
  actionId : sbt.publicValues[2]? = some (word actionId)
  actionNullifier : sbt.publicValues[3]? ≠ some 0
  issuerAddress : sbt.publicValues[4]? = some (word issuerAddress)

/-- In the run from the deployment to the world there was a moment at which the
application accepted the user's record. -/
def AcceptedAt (env : Environment) (deployed world : World Message State)
    (circuitId : Bytes32) (actionId issuerAddress : Fr) (user : Address) (timestamp : U256) :
    Prop :=
  ∃ earlier sbt, Reached (contract env) deployed earlier ∧ earlier.history <+: world.history ∧
    getSBT env timestamp user circuitId earlier.state = .ok sbt ∧
    Accepts actionId issuerAddress sbt

variable {env : Environment} {lib : Circomlib} {issued : Fr → Set V3.Credential}
variable {circuitId : Bytes32} {actionId issuerAddress : Fr}
variable {deployer verifier : Address} {balance : ℕ} {world : World Message State}

/-- What is shown comes from the secret of an issued credential, in its year. -/
theorem Shown.credential {signals : SybilResistance.Public} (bits : lib.BitSpec)
    (shown : Shown lib issued signals) :
    ∃ credential ∈ issued signals.issuerAddress, credential.Lasts signals.expiry ∧
      signals.actionNullifier =
        lib.Poseidon ![credential.nullifierSecretKey, signals.actionId] := by
  obtain ⟨w, satisfied, rfl, handedOut⟩ := shown
  obtain ⟨-, lasts⟩ := (V3.presents_iff bits).mp satisfied.presents
  exact ⟨w.v3.credential, handedOut, lasts, satisfied.nullifier⟩

/-- What a mint for an accepted record goes back to. -/
structure Backed (lib : Circomlib) (issued : Fr → Set V3.Credential)
    (actionId issuerAddress : Fr) (user : Address) (timestamp : U256) (args : SetSBT)
    (credential : V3.Credential) : Prop where
  receiver : args.receiver = user
  nonzero : args.nullifier ≠ 0
  nullifier : args.nullifier = word (lib.Poseidon ![credential.nullifierSecretKey, actionId])
  handedOut : credential ∈ issued issuerAddress
  fresh : ∃ expiry, timestamp ≤ word expiry ∧ credential.Lasts expiry

theorem Serves.backed {signals : SybilResistance.Public} {args : SetSBT}
    (bits : lib.BitSpec) (serves : Serves signals args) (shown : Shown lib issued signals)
    (accepts : Accepts actionId issuerAddress args.sbt) {timestamp : U256}
    (unexpired : timestamp ≤ args.expiration) :
    ∃ credential, Backed lib issued actionId issuerAddress args.receiver timestamp args
      credential := by
  obtain ⟨credential, handedOut, lasts, nullifier⟩ := shown.credential bits
  obtain ⟨sameAction, isNullifier, sameIssuer⟩ := accepts
  simp only [SetSBT.sbt, serves.publicValues, List.getElem?_cons_succ, List.getElem?_cons_zero,
    Option.some.injEq, ne_eq] at sameAction isNullifier sameIssuer
  obtain rfl := word_injective sameAction
  obtain rfl := word_injective sameIssuer
  refine ⟨credential, rfl, ?_, ?_, handedOut, signals.expiry, ?_, lasts⟩
  · rwa [serves.nullifier]
  · rw [serves.nullifier, nullifier]
  · rwa [serves.expiration] at unexpired

/-- A secret has one nullifier for the action, and one mint takes effect with it. -/
theorem Backed.user_eq
    (reached : Reached (contract env) ⟨constructor deployer verifier balance, []⟩ world)
    {first second : Address} {timestamp timestamp' : U256} {args args' : SetSBT}
    {credential credential' : V3.Credential} (minted : args ∈ mints world.history)
    (minted' : args' ∈ mints world.history)
    (isBacked : Backed lib issued actionId issuerAddress first timestamp args credential)
    (isBacked' : Backed lib issued actionId issuerAddress second timestamp' args' credential')
    (sameSecret : credential.nullifierSecretKey = credential'.nullifierSecretKey) :
    first = second := by
  have sameNullifier : args'.nullifier = args.nullifier := by
    rw [isBacked'.nullifier, isBacked.nullifier, sameSecret]
  have mode := nullifierMode_of_reached reached isBacked.nonzero
    (nullifierMode_constructor deployer verifier balance)
  have member : args ∈ mintsWith args.nullifier world.history :=
    mem_usesOf.mpr ⟨List.mem_filterMap.mp minted, rfl⟩
  have member' : args' ∈ mintsWith args.nullifier world.history :=
    mem_usesOf.mpr ⟨List.mem_filterMap.mp minted', sameNullifier⟩
  obtain rfl : args = args' := mode.eq_of_mem member member'
  rw [← isBacked.receiver, isBacked'.receiver]

section Run

variable (reached : Reached (contract env) ⟨constructor deployer verifier balance, []⟩ world)
  (honest : Honest env lib issued circuitId ⟨deployer, verifier⟩ world.history)
  (bits : lib.BitSpec)

include honest bits

theorem backed_of_acceptedAt {user : Address} {timestamp : U256} (positive : 0 < timestamp)
    (collisionFree : env.CollisionFree (identifierString user circuitId ::
      hashed env world.history))
    (accepted : AcceptedAt env ⟨constructor deployer verifier balance, []⟩ world circuitId
      actionId issuerAddress user timestamp) :
    ∃ args ∈ mints world.history, ∃ credential,
      Backed lib issued actionId issuerAddress user timestamp args credential := by
  obtain ⟨earlier, sbt, reachedEarlier, isPrefix, found, accepts⟩ := accepted
  obtain ⟨pre, call, post, split, args, entry, sameIdentifier, rfl, recovered, -⟩ :=
    signedMint_of_lookup reachedEarlier positive found
  obtain ⟨-, unexpired, -⟩ := lookup_eq_ok.mp found
  obtain ⟨later, extended⟩ := isPrefix
  have history : world.history = pre ++ call :: (post ++ later) := by
    rw [← extended, split, List.append_assoc, List.cons_append]
  have memberCall : call ∈ world.history := by
    rw [history]
    exact List.mem_append_right pre List.mem_cons_self
  have member : args ∈ mints world.history :=
    List.mem_filterMap.mpr ⟨call, memberCall, mint?_eq_some.mpr entry⟩
  obtain ⟨rfl, sameCircuit⟩ : args.receiver = user ∧ args.circuitId = circuitId :=
    identifierString_inj (collisionFree _
      (List.mem_cons_of_mem _ (hashed_of_mint member List.mem_cons_self)) _
      List.mem_cons_self sameIdentifier)
  obtain ⟨signals, shown, serves⟩ :=
    honest pre call (post ++ later) history args entry sameCircuit recovered
  exact ⟨args, member, serves.backed bits shown accepts unexpired⟩

include reached

/-- Of the users whose records the application has ever accepted each has a secret of its
own, which the issuer has handed out, and a credential in its year. -/
theorem admitted_le_issued {users : List Address} (nodup : users.Nodup)
    (collisionFree : env.CollisionFree (hashed env world.history ++
      users.map fun user => identifierString user circuitId))
    (accepted : ∀ user ∈ users, ∃ timestamp, 0 < timestamp ∧
      AcceptedAt env ⟨constructor deployer verifier balance, []⟩ world circuitId actionId
        issuerAddress user timestamp) :
    users.length ≤ (V3.Credential.nullifierSecretKey '' issued issuerAddress).encard ∧
      ∀ user ∈ users, ∀ timestamp, 0 < timestamp →
        AcceptedAt env ⟨constructor deployer verifier balance, []⟩ world circuitId actionId
          issuerAddress user timestamp →
        ∃ credential ∈ issued issuerAddress, ∃ expiry, timestamp ≤ word expiry ∧
          credential.Lasts expiry := by
  have collisionFreeAt : ∀ user ∈ users, env.CollisionFree (identifierString user circuitId ::
      hashed env world.history) := by
    intro user member
    have subset : (identifierString user circuitId :: hashed env world.history) ⊆
        hashed env world.history ++ users.map fun user => identifierString user circuitId := by
      rw [List.cons_subset]
      exact ⟨List.mem_append_right _ (List.mem_map.mpr ⟨user, member, rfl⟩),
        List.subset_append_left _ _⟩
    exact fun first inFirst second inSecond =>
      collisionFree first (subset inFirst) second (subset inSecond)
  constructor
  · have backed : ∀ user ∈ users, ∃ secret, ∃ args ∈ mints world.history,
        ∃ timestamp credential,
          Backed lib issued actionId issuerAddress user timestamp args credential ∧
            credential.nullifierSecretKey = secret := by
      intro user member
      obtain ⟨timestamp, positive, acceptedAt⟩ := accepted user member
      obtain ⟨args, minted, credential, isBacked⟩ :=
        backed_of_acceptedAt honest bits positive (collisionFreeAt user member) acceptedAt
      exact ⟨_, args, minted, timestamp, credential, isBacked, rfl⟩
    choose! secret backed using backed
    have distinct : Set.InjOn secret {user | user ∈ users} := by
      intro first inFirst second inSecond sameSecret
      obtain ⟨args, minted, _, credential, isBacked, isSecret⟩ := backed first inFirst
      obtain ⟨args', minted', _, credential', isBacked', isSecret'⟩ := backed second inSecond
      rw [← isSecret, ← isSecret'] at sameSecret
      exact isBacked.user_eq reached minted minted' isBacked' sameSecret
    calc (users.length : ℕ∞) = {user | user ∈ users}.encard := by
          rw [← List.coe_toFinset, Set.encard_coe_eq_coe_finsetCard,
            List.toFinset_card_of_nodup nodup]
      _ ≤ (V3.Credential.nullifierSecretKey '' issued issuerAddress).encard := by
          refine Set.encard_le_encard_of_injOn ?_ distinct
          intro user member
          obtain ⟨_, _, _, credential, isBacked, isSecret⟩ := backed user member
          exact ⟨credential, isBacked.handedOut, isSecret⟩
  · intro user member timestamp positive acceptedAt
    obtain ⟨args, -, credential, isBacked⟩ :=
      backed_of_acceptedAt honest bits positive (collisionFreeAt user member) acceptedAt
    exact ⟨credential, isBacked.handedOut, isBacked.fresh⟩

end Run

section Sample

open V3CleanHands

/-- The circuit id of `V3SybilResistance`, from the test with the verifier's server. -/
def sampleCircuitId : Bytes32 :=
  0x246573d89cb5c7092555e196ea706dd8c9dcc0cfda6f7529f6305ac2ed4d77da

/-- The sample credential is the only one. -/
def sampleIssued (issuerAddress : Fr) : Set V3.Credential :=
  {credential | credential = sampleCredential.credential ∧
    issuerAddress = sampleCredential.issuerAddress}

/-- Its holder shows it to the server for the address `0x63` and the action `7`. -/
def sampleShown : SybilResistance.Signals :=
  SybilResistance.ofCredential samplePoseidon sampleCredential (99 : ℕ) (7 : ℕ)

def servedMint : SetSBT :=
  let nullifier : U256 := 0x2b1b5f15bfacb401405e3c80d99dbf9b6277b351beecbc1453a09da1f207d551
  let issuer : U256 := 0x1f8dd4a8d9c95bc9e87a9074914e04dccf3cd308ad6d0848df14ea5752e2b298
  ⟨sampleCircuitId, 99, 1747598050, 0, nullifier, [1747598050, 99, 7, nullifier, issuer],
    signatureBytes 0x58cadd44059eef8fdd99302cdc3ce5e446c6c4fa7ca578c4bdbe3945d164223d
      0x5c5baa70d756b1dc2cb0da26ffa3cd78b7d0431d2b3b7330a6cbfec7e04c2b62 27⟩

def servedHash : Bytes32 :=
  0xae7cbbb5f053eb3dac9f7c220ff64179edbb52eaf42c26da246841445af98dbb

def servedDigest : Bytes32 :=
  0x596db8e338b96078be5a6a03bf734070f97c8bec51e3a50a0266adecfe1c7cfc

def servedIdentifier : Bytes32 :=
  0x86febed006f30ea5f7baf3de19b53cd8fcc3f7e01ca42b21575163e7bcac89e9

def servedEnvironment : Environment :=
  .ofTables
    [(identifierString 0x63 sampleCircuitId, servedIdentifier),
      (servedMint.signedString 10, servedHash),
      (Environment.ethSignedMessage servedHash, servedDigest)]
    [((servedDigest, servedMint.signature), sampleVerifier)]
    10

def servedMessage : Message := ⟨0x63, 0, .setSBT servedMint⟩

def servedWorld : World Message State :=
  run (contract servedEnvironment) [.call servedMessage .done .done]
    ⟨constructor 0xad sampleVerifier 0, []⟩

theorem reached_servedWorld : Reached (contract servedEnvironment)
    ⟨constructor 0xad sampleVerifier 0, []⟩ servedWorld :=
  ⟨_, .done, .here .done _⟩

theorem history_servedWorld : servedWorld.history = [servedMessage] := by
  decide +kernel

theorem sampleShown_shown :
    Shown (Circomlib.reference samplePoseidon) sampleIssued sampleShown.publicSignals :=
  ⟨sampleShown, SybilResistance.satisfies_ofCredential
    (V3.satisfies_signedCredential samplePoseidon _ _ _ _) _ _, rfl, rfl, rfl⟩

theorem servedMint_serves : Serves sampleShown.publicSignals servedMint where
  sbtReciever := by decide +kernel
  expiration := by decide +kernel
  nullifier := by decide +kernel
  publicValues := by decide +kernel

/-- The only mint presents what the server signed for the proof that it was shown. -/
theorem servedWorld_honest : Honest servedEnvironment (Circomlib.reference samplePoseidon)
    sampleIssued sampleCircuitId ⟨0xad, sampleVerifier⟩ servedWorld.history := by
  intro pre call post split args entry _ _
  rw [history_servedWorld] at split
  have isMessage : call = servedMessage := by
    have member : call ∈ [servedMessage] := split ▸ List.mem_append_right pre List.mem_cons_self
    exact List.mem_singleton.mp member
  rw [isMessage, servedMessage, Entrypoint.setSBT.injEq] at entry
  exact ⟨_, sampleShown_shown, entry ▸ servedMint_serves⟩

/-- The holder of the only credential is the only user. -/
theorem servedWorld_admits_one :
    ([0x63] : List Address).length ≤ (V3.Credential.nullifierSecretKey ''
        sampleIssued sampleCredential.issuerAddress).encard ∧
      ∀ user ∈ ([0x63] : List Address), ∀ timestamp, 0 < timestamp →
        AcceptedAt servedEnvironment ⟨constructor 0xad sampleVerifier 0, []⟩ servedWorld
          sampleCircuitId (7 : ℕ) sampleCredential.issuerAddress user timestamp →
        ∃ credential ∈ sampleIssued sampleCredential.issuerAddress, ∃ expiry,
          timestamp ≤ word expiry ∧ credential.Lasts expiry := by
  apply admitted_le_issued reached_servedWorld _ (Circomlib.reference_bitSpec samplePoseidon)
    (List.nodup_singleton _)
  · decide +kernel
  · intro user member
    rw [List.mem_singleton] at member
    subst member
    refine ⟨1716062100, by decide, servedWorld, servedMint.sbt, reached_servedWorld,
      List.prefix_rfl, by decide +kernel, ?_, ?_, ?_⟩
    · decide +kernel
    · decide
    · decide +kernel
  · exact servedWorld_honest

end Sample

end Hub

end IdHub
