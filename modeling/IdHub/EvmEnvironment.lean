import IdHub.WordBytes

/-!
# What the EVM gives the contracts

Words, addresses, and the parts of the platform the contracts call: `keccak256`,
the `recover` function of OpenZeppelin's `ECDSA` library and the chain id.
-/

namespace IdHub

open WordBytes

abbrev U256 : Type := BitVec 256
abbrev Bytes32 : Type := BitVec 256
abbrev Address : Type := BitVec 160

structure Environment where
  keccak256 : Bytes → Bytes32
  /-- `ECDSA.recover`: the signer, or the message it reverts with. -/
  recover : Bytes32 → Bytes → Except String Address
  chainid : U256

namespace Environment

/-- The bytes of `"\x19Ethereum Signed Message:\n32"`. -/
def ethSignedMessagePrefix : Bytes :=
  [0x19, 0x45, 0x74, 0x68, 0x65, 0x72, 0x65, 0x75, 0x6d, 0x20, 0x53, 0x69, 0x67, 0x6e,
    0x65, 0x64, 0x20, 0x4d, 0x65, 0x73, 0x73, 0x61, 0x67, 0x65, 0x3a, 0x0a, 0x33, 0x32]

/-- The string whose hash `ECDSA.toEthSignedMessageHash` returns. -/
def ethSignedMessage (hash : Bytes32) : Bytes :=
  ethSignedMessagePrefix ++ ofWord hash

def toEthSignedMessageHash (env : Environment) (hash : Bytes32) : Bytes32 :=
  env.keccak256 (ethSignedMessage hash)

/-- The hash has no collision among these strings.  (Among all strings it has,
since there are more of them than hashes.) -/
def CollisionFree (env : Environment) (strings : List Bytes) : Prop :=
  ∀ first ∈ strings, ∀ second ∈ strings,
    env.keccak256 first = env.keccak256 second → first = second

instance (env : Environment) (strings : List Bytes) :
    Decidable (env.CollisionFree strings) :=
  inferInstanceAs (Decidable (∀ first ∈ strings, ∀ second ∈ strings,
    env.keccak256 first = env.keccak256 second → first = second))

/-- An environment that knows the hashes and signers of finitely many strings. -/
def ofTables (hashes : List (Bytes × Bytes32))
    (signers : List ((Bytes32 × Bytes) × Address)) (chainid : U256) : Environment where
  keccak256 string := (hashes.lookup string).getD 0
  recover hash signature :=
    match signers.lookup (hash, signature) with
    | some signer => .ok signer
    | none => .error "ECDSA: invalid signature"
  chainid := chainid

end Environment

def signatureBytes (r s : U256) (v : UInt8) : Bytes :=
  ofWords [r, s] ++ [v]

theorem ofWords_words_injective : Function.Injective (ofWords : List U256 → Bytes) :=
  ofWords_injective (by norm_num) (by norm_num)

theorem ethSignedMessage_injective :
    Function.Injective Environment.ethSignedMessage := by
  intro first second equal
  have words : ofWord first = ofWord second := List.append_cancel_left equal
  exact ofWord_injective (by norm_num) words

end IdHub
