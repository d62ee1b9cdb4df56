import IdHub.HubRegistry
import IdHub.HumanIDPaymentsRefunds

/-!
# What the trusted keys sign

The oracle signs payments and refunds, and the verifier signs mints.  A request of
either kind is hashed as a string of words, and none of the strings says where a list
ends or which kind it is.  But a payment has five words, a refund three and a mint at
least six, and the length of a mint's string gives the number of its public values.
So the string determines the request and the chain, and so does a signature, if the
hash has no collision and the signature is valid for one digest only.
-/

namespace IdHub

open Guards Reentrancy WordBytes

inductive Request where
  | payment (amount : U256) (commitment service : Bytes32) (timestamp : U256)
  | refund (commitment : Bytes32) (timestamp : U256)
  | mint (circuitId : Bytes32) (sbtReciever expiration customFee nullifier : U256)
      (publicValues : List U256)
  deriving DecidableEq

namespace Request

/-- `abi.encode` of words, or `abi.encodePacked` of words and an array. -/
def words (chainid : U256) : Request → List U256
  | .payment amount commitment service timestamp =>
    [amount, commitment, service, chainid, timestamp]
  | .refund commitment timestamp => [commitment, chainid, timestamp]
  | .mint circuitId sbtReciever expiration customFee nullifier publicValues =>
    [circuitId, sbtReciever, expiration, customFee, nullifier] ++ publicValues ++ [chainid]

def encode (chainid : U256) (request : Request) : Bytes :=
  ofWords (request.words chainid)

/-- The hash that is signed. -/
def digest (env : Environment) (request : Request) : Bytes32 :=
  env.toEthSignedMessageHash (env.keccak256 (request.encode env.chainid))

def hashed (env : Environment) (request : Request) : List Bytes :=
  [request.encode env.chainid,
    Environment.ethSignedMessage (env.keccak256 (request.encode env.chainid))]

variable {chainid chainid' : U256} {request request' : Request}

theorem words_injective (equal : request.words chainid = request'.words chainid') :
    request = request' ∧ chainid = chainid' := by
  cases request with
  | payment amount commitment service timestamp =>
      cases request' with
      | payment amount' commitment' service' timestamp' =>
          simp only [words, List.cons.injEq, and_true] at equal
          obtain ⟨rfl, rfl, rfl, rfl, rfl⟩ := equal
          exact ⟨rfl, rfl⟩
      | refund commitment' timestamp' => simp [words] at equal
      | mint circuitId sbtReciever expiration customFee nullifier publicValues =>
          have lengths := congrArg List.length equal
          simp [words] at lengths
  | refund commitment timestamp =>
      cases request' with
      | payment amount' commitment' service' timestamp' => simp [words] at equal
      | refund commitment' timestamp' =>
          simp only [words, List.cons.injEq, and_true] at equal
          obtain ⟨rfl, rfl, rfl⟩ := equal
          exact ⟨rfl, rfl⟩
      | mint circuitId sbtReciever expiration customFee nullifier publicValues =>
          have lengths := congrArg List.length equal
          simp [words] at lengths
  | mint circuitId sbtReciever expiration customFee nullifier publicValues =>
      cases request' with
      | payment amount' commitment' service' timestamp' =>
          have lengths := congrArg List.length equal
          simp [words] at lengths
      | refund commitment' timestamp' =>
          have lengths := congrArg List.length equal
          simp [words] at lengths
      | mint circuitId' sbtReciever' expiration' customFee' nullifier' publicValues' =>
          -- The chain id is the last word, so the array ends just before it.
          obtain ⟨arguments, chain⟩ := List.append_inj' equal rfl
          simp only [List.cons_append, List.nil_append, List.cons.injEq, and_true]
            at arguments chain
          obtain ⟨rfl, rfl, rfl, rfl, rfl, rfl⟩ := arguments
          exact ⟨rfl, chain⟩

theorem encode_injective (equal : request.encode chainid = request'.encode chainid') :
    request = request' ∧ chainid = chainid' :=
  words_injective (ofWords_words_injective equal)

/-- Without collisions the digest determines the request and the chain. -/
theorem of_digest_eq {env : Environment}
    (collisionFree : env.CollisionFree
      (request.hashed env ++ request'.hashed { env with chainid := chainid' }))
    (equal : request.digest env = request'.digest { env with chainid := chainid' }) :
    request = request' ∧ env.chainid = chainid' := by
  have sameEnvelope := collisionFree _ (by simp [hashed]) _ (by simp [hashed]) equal
  have sameHash := ethSignedMessage_injective sameEnvelope
  have sameString := collisionFree _ (by simp [hashed]) _ (by simp [hashed]) sameHash
  exact encode_injective sameString

end Request

/-- Ideal signatures: for these digests and keys, no signature is valid for two of the
digests. -/
def Environment.SignsOnce (env : Environment) (signature : Bytes)
    (signings : List (Bytes32 × Address)) : Prop :=
  ∀ first ∈ signings, ∀ second ∈ signings, env.recover first.1 signature = .ok first.2 →
    env.recover second.1 signature = .ok second.2 → first.1 = second.1

instance (env : Environment) (signature : Bytes) (signings : List (Bytes32 × Address)) :
    Decidable (env.SignsOnce signature signings) :=
  @List.decidableBAll _ _ (fun _ => @List.decidableBAll _ _ (fun _ => inferInstance) signings)
    signings

variable {env : Environment} {signature : Bytes}

namespace HumanIDPayments

/-- The payments that the loop of `batchPay` processes, with their signatures. -/
def batchSigned : List Bytes32 → List Bytes32 → List U256 → List U256 → List Bytes →
    List (Bytes × Request)
  | commitment :: commitments, service :: services, amount :: amounts,
      timestamp :: timestamps, signature :: signatures =>
    (signature, .payment amount commitment service timestamp) ::
      batchSigned commitments services amounts timestamps signatures
  | _, _, _, _, _ => []

/-- The requests that a call makes, with the signatures it presents for them. -/
def Message.signed (m : Message) : List (Bytes × Request) :=
  match m.entrypoint with
  | .pay commitment service timestamp signature =>
    [(signature, .payment m.value commitment service timestamp)]
  | .batchPay commitments services amounts timestamps signatures =>
    batchSigned commitments services amounts timestamps signatures
  | .refund commitment timestamp signature => [(signature, .refund commitment timestamp)]
  | _ => []

variable {m : Message} {s t : State} {phase : Phase Error State}

theorem checkOracle_recovers {signed : List U256} {result : Unit}
    (checked : checkOracle env signed signature s = .ok result) :
    env.recover (env.toEthSignedMessageHash (env.keccak256 (ofWords signed))) signature =
      .ok s.oracleAddress := by
  simp only [checkOracle, bind_eq_ok, mapError_eq_ok, revertIf_eq_ok, ne_eq, not_not]
    at checked
  obtain ⟨signer, recovered, rfl⟩ := checked
  exact recovered

theorem processPayment_recovers {commitment service : Bytes32} {amount timestamp : U256}
    (processed : processPayment env m commitment service amount timestamp signature s =
      .ok t) :
    env.recover ((Request.payment amount commitment service timestamp).digest env)
        signature = .ok s.oracleAddress ∧ t.oracleAddress = s.oracleAddress := by
  have stored := (processPayment_ok processed).2.2
  simp only [processPayment, bind_eq_ok] at processed
  obtain ⟨_, -, _, -, _, -, _, checked, -⟩ := processed
  exact ⟨checkOracle_recovers checked, by rw [stored]; rfl⟩

theorem processPayments_recovers {commitments services : List Bytes32}
    {amounts timestamps : List U256} {signatures : List Bytes}
    (processed : processPayments env m commitments services amounts timestamps signatures s =
      .ok t) :
    ∀ entry ∈ batchSigned commitments services amounts timestamps signatures,
      env.recover (entry.2.digest env) entry.1 = .ok s.oracleAddress := by
  induction commitments, services, amounts, timestamps, signatures, s using
    processPayments.induct with
  | case1 commitment commitments service services amount amounts timestamp
      timestamps signature signatures s ih =>
      simp only [processPayments, bind_eq_ok] at processed
      obtain ⟨middle, first, rest⟩ := processed
      obtain ⟨recovered, sameOracle⟩ := processPayment_recovers first
      intro entry member
      rcases List.mem_cons.mp member with rfl | later
      · exact recovered
      · rw [← sameOracle]
        exact ih middle rest entry later
  | case2 commitments services amounts timestamps signatures s exhausted =>
      intro entry member
      rw [batchSigned] at member
      · cases member
      · exact exhausted

/-- A call that starts was signed by the oracle of the moment. -/
theorem contract_recovers (called : contract env m s = .ok phase) :
    ∀ entry ∈ m.signed, env.recover (entry.2.digest env) entry.1 = .ok s.oracleAddress := by
  intro entry member
  unfold Message.signed at member
  cases contract_started called with
  | pay entrypoint processed =>
      simp only [entrypoint, List.mem_singleton] at member
      rw [member]
      exact (processPayment_recovers processed).1
  | batchPay entrypoint _ _ processed =>
      simp only [entrypoint] at member
      exact processPayments_recovers processed entry member
  | refund entrypoint _ checked _ =>
      simp only [entrypoint, List.mem_singleton] at member
      rw [member]
      exact checkOracle_recovers checked
  | _ entrypoint => simp [entrypoint] at member

end HumanIDPayments

namespace Hub

def SetSBT.request (args : SetSBT) : Request :=
  .mint args.circuitId args.sbtReciever args.expiration args.customFee args.nullifier
    args.publicValues

theorem SetSBT.digest_request (args : SetSBT) : args.request.digest env = args.digest env :=
  rfl

/-- The mint that a call makes, with the signature it presents for it. -/
def Message.signed (m : Message) : List (Bytes × Request) :=
  match m.entrypoint with
  | .setSBT args => [(args.signature, args.request)]
  | _ => []

theorem contract_recovers {m : Message} {s : State} {phase : Phase Error State}
    (called : contract env m s = .ok phase) :
    ∀ entry ∈ m.signed, env.recover (entry.2.digest env) entry.1 = .ok s.verifier := by
  intro entry member
  unfold contract at called
  cases entrypoint : m.entrypoint with
  | setSBT args =>
      simp only [entrypoint] at called
      simp only [Message.signed, entrypoint, List.mem_singleton] at member
      rw [member, SetSBT.digest_request]
      exact (setSBT_ok called).1
  | _ => simp [Message.signed, entrypoint] at member

end Hub

/-- Some call that presents the signature for the request gets past the checks of a
contract that trusts the key. -/
inductive Accepts (env : Environment) (signature : Bytes) : Address → Request → Prop
  | payments {m : HumanIDPayments.Message} {s : HumanIDPayments.State}
      {phase : Phase HumanIDPayments.Error HumanIDPayments.State} {request : Request}
      (called : HumanIDPayments.contract env m s = .ok phase)
      (presented : (signature, request) ∈ m.signed) :
      Accepts env signature s.oracleAddress request
  | hub {m : Hub.Message} {s : Hub.State} {phase : Phase Hub.Error Hub.State}
      {request : Request} (called : Hub.contract env m s = .ok phase)
      (presented : (signature, request) ∈ m.signed) :
      Accepts env signature s.verifier request

theorem Accepts.recovers {key : Address} {request : Request}
    (accepts : Accepts env signature key request) :
    env.recover (request.digest env) signature = .ok key := by
  cases accepts with
  | payments called presented =>
      exact HumanIDPayments.contract_recovers called (signature, request) presented
  | hub called presented => exact Hub.contract_recovers called (signature, request) presented

/-- Different requests have different strings, on any chains, so a signature is accepted
for one request on one chain only. -/
theorem requests_not_confused :
    (∀ chainid chainid' (request request' : Request),
      request.encode chainid = request'.encode chainid' →
        request = request' ∧ chainid = chainid') ∧
    ∀ (env : Environment) (chainid' : U256) (signature : Bytes) (key key' : Address)
      (request request' : Request),
      Accepts env signature key request →
      Accepts { env with chainid := chainid' } signature key' request' →
      env.CollisionFree
        (request.hashed env ++ request'.hashed { env with chainid := chainid' }) →
      env.SignsOnce signature [(request.digest env, key),
        (request'.digest { env with chainid := chainid' }, key')] →
      request = request' ∧ env.chainid = chainid' := by
  refine ⟨fun _ _ _ _ => Request.encode_injective, ?_⟩
  intro env chainid' signature key key' request request' accepts accepts' collisionFree once
  have sameDigest : request.digest env =
      request'.digest { env with chainid := chainid' } :=
    once (request.digest env, key) (by simp)
      (request'.digest { env with chainid := chainid' }, key') (by simp) accepts.recovers
      accepts'.recovers
  exact Request.of_digest_eq collisionFree sameDigest

namespace HumanIDPayments

/-- A batch with the sample payment alone. -/
def onePayment : Message :=
  ⟨0xbb, 7, 1000, .batchPay [0xc0ffee] [0x5e] [7] [1000] [paymentSignature]⟩

theorem accepts_of_isOk {m : Message} {s : State} {request : Request}
    (started : (contract env m s).isOk = true) (presented : (signature, request) ∈ m.signed) :
    Accepts env signature s.oracleAddress request := by
  cases called : contract env m s with
  | error reason =>
      rw [called] at started
      cases started
  | ok phase => exact .payments called presented

/-- Where `pay` and `batchPay` accept one signature, they do so for one payment. -/
theorem onePayment_same_request : ∃ request request',
    samplePayment.signed = [(paymentSignature, request)] ∧
      onePayment.signed = [(paymentSignature, request')] ∧ request = request' := by
  let request : Request := .payment 7 0xc0ffee 0x5e 1000
  let sameChain : Environment := { sampleEnvironment with chainid := 10 }
  have accepts : Accepts sampleEnvironment paymentSignature sampleOracle request :=
    @accepts_of_isOk _ _ samplePayment sampleDeployed _ (by decide +kernel)
      List.mem_cons_self
  have accepts' : Accepts sameChain paymentSignature sampleOracle request :=
    @accepts_of_isOk _ _ onePayment sampleDeployed _ (by decide +kernel)
      List.mem_cons_self
  have collisionFree : sampleEnvironment.CollisionFree
      (request.hashed sampleEnvironment ++ request.hashed sameChain) := by
    decide +kernel
  have once : sampleEnvironment.SignsOnce paymentSignature
      [(request.digest sampleEnvironment, sampleOracle),
        (request.digest sameChain, sampleOracle)] := by
    decide +kernel
  exact ⟨request, request, rfl, rfl, (requests_not_confused.2 sampleEnvironment 10
    paymentSignature sampleOracle sampleOracle request request accepts accepts' collisionFree
    once).1⟩

end HumanIDPayments

end IdHub
