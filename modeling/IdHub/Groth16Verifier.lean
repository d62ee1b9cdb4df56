import IdHub.EvmEnvironment
import IdHub.Guards

/-!
# The Groth16 verifiers

The repository has nine verifiers, which two generators wrote.  The contracts of one
generator differ in their keys only.  All compute on the curve by calling precompiled
contracts of the EVM, which get their points as words and fail on words that are not points.
-/

namespace IdHub

/-- A point of the curve as the contracts pass it on; two zeros are the neutral point. -/
@[ext] structure G1Point where
  X : U256
  Y : U256
  deriving DecidableEq

/-- A point of the twisted curve.  A coordinate has two words, `X[0]` and `X[1]`. -/
structure G2Point where
  X : U256 × U256
  Y : U256 × U256
  deriving DecidableEq

/-- The precompiled contracts at the addresses 6, 7 and 8. -/
structure Precompiles where
  ecAdd : G1Point → G1Point → Option G1Point
  ecMul : G1Point → U256 → Option G1Point
  ecPairing : List U256 → Option U256

namespace Groth16Verifier

open Guards

inductive Failure where
  | revert (reason : Option String)
  /-- The opcode that the assembly runs when a precompiled contract fails.  The `require`
  after it is never reached with a failure. -/
  | invalid
  | outOfBounds
  deriving DecidableEq

def staticcall {α : Type} : Option α → Except Failure α
  | some output => .ok output
  | none => .error .invalid

def index {α : Type} (elements : List α) (i : ℕ) : Except Failure α :=
  match elements[i]? with
  | some element => .ok element
  | none => .error .outOfBounds

/-- What the two generators do differently in the library `Pairing` and in `verify`. -/
structure Template where
  /-- The words of a point in the order of the precompiled contract. -/
  words : G2Point → U256 × U256 × U256 × U256
  badLengths : Option String
  badInput : Option String
  gteScalarField : Option String

namespace Pairing

def negate (p : G1Point) : G1Point :=
  let q : U256 := 21888242871839275222246405745257275088696311157297823662689037894645226208583
  if p.X = 0 ∧ p.Y = 0 then ⟨0, 0⟩ else ⟨p.X, q - p.Y % q⟩

variable (evm : Precompiles)

def addition (p1 p2 : G1Point) : Except Failure G1Point :=
  staticcall (evm.ecAdd p1 p2)

def scalar_mul (p : G1Point) (s : U256) : Except Failure G1Point :=
  staticcall (evm.ecMul p s)

/-- What the loop of `pairing` writes for a pair. -/
def pairWords (template : Template) (pair : G1Point × G2Point) : List U256 :=
  let words := template.words pair.2
  [pair.1.X, pair.1.Y, words.1, words.2.1, words.2.2.1, words.2.2.2]

def pairing (template : Template) (p1 : List G1Point) (p2 : List G2Point) :
    Except Failure Bool := do
  require (p1.length = p2.length) (.revert template.badLengths)
  let input := (p1.zip p2).flatMap (pairWords template)
  let out ← staticcall (evm.ecPairing input)
  return decide (out ≠ 0)

def pairingProd4 (template : Template) (a1 : G1Point) (a2 : G2Point) (b1 : G1Point)
    (b2 : G2Point) (c1 : G1Point) (c2 : G2Point) (d1 : G1Point) (d2 : G2Point) :
    Except Failure Bool :=
  pairing evm template [a1, b1, c1, d1] [a2, b2, c2, d2]

end Pairing

/-- Under the names of ZoKrates; snarkjs has `alfa1`, `beta2`, `gamma2`, `delta2`, `IC`. -/
structure VerifyingKey where
  alpha : G1Point
  beta : G2Point
  gamma : G2Point
  delta : G2Point
  gamma_abc : List G1Point

structure Proof where
  a : G1Point
  b : G2Point
  c : G1Point
  deriving DecidableEq

def snark_scalar_field : U256 :=
  21888242871839275222246405745257275088548364400416034343698204186575808495617

variable (evm : Precompiles)

/-- The body of the loop of `verify`, for an input and its index. -/
def accumulate (template : Template) (gamma_abc : List G1Point) (vk_x : G1Point)
    (entry : U256 × ℕ) : Except Failure G1Point := do
  let (value, i) := entry
  require (value < snark_scalar_field) (.revert template.gteScalarField)
  let point ← index gamma_abc (i + 1)
  let product ← Pairing.scalar_mul evm point value
  Pairing.addition evm vk_x product

/-- The linear combination `vk_x` of `verify`. -/
def linearCombination (template : Template) (vk : VerifyingKey) (input : List U256) :
    Except Failure G1Point := do
  require (input.length + 1 = vk.gamma_abc.length) (.revert template.badInput)
  let vk_x ← input.zipIdx.foldlM (accumulate evm template vk.gamma_abc) ⟨0, 0⟩
  let first ← index vk.gamma_abc 0
  Pairing.addition evm vk_x first

namespace ZoKrates

def template : Template where
  words p := (p.X.2, p.X.1, p.Y.2, p.Y.1)
  badLengths := none
  badInput := none
  gteScalarField := none

def verify (vk : VerifyingKey) (input : List U256) (proof : Proof) : Except Failure U256 := do
  let vk_x ← linearCombination evm template vk input
  let holds ← Pairing.pairingProd4 evm template
    proof.a proof.b
    (Pairing.negate vk_x) vk.gamma
    (Pairing.negate proof.c) vk.delta
    (Pairing.negate vk.alpha) vk.beta
  return if holds then 0 else 1

def verifyTx (vk : VerifyingKey) {n : ℕ} (proof : Proof) (input : Fin n → U256) :
    Except Failure Bool := do
  let result ← verify evm vk (List.ofFn input) proof
  return decide (result = 0)

end ZoKrates

namespace Snarkjs

def template : Template where
  words p := (p.X.1, p.X.2, p.Y.1, p.Y.2)
  badLengths := some "pairing-lengths-failed"
  badInput := some "verifier-bad-input"
  gteScalarField := some "verifier-gte-snark-scalar-field"

def verify (vk : VerifyingKey) (input : List U256) (proof : Proof) : Except Failure U256 := do
  let vk_x ← linearCombination evm template vk input
  let holds ← Pairing.pairingProd4 evm template
    (Pairing.negate proof.a) proof.b
    vk.alpha vk.beta
    vk_x vk.gamma
    proof.c vk.delta
  return if holds then 0 else 1

def verifyProof (vk : VerifyingKey) {n : ℕ} (proof : Proof) (input : Fin n → U256) :
    Except Failure Bool := do
  let result ← verify evm vk (List.ofFn input) proof
  return decide (result = 0)

end Snarkjs

inductive Generator where
  | zoKrates
  | snarkjs
  deriving DecidableEq

def Generator.template : Generator → Template
  | .zoKrates => ZoKrates.template
  | .snarkjs => Snarkjs.template

/-- A contract, by its generator and what the generator filled in. -/
structure Contract where
  generator : Generator
  inputs : ℕ
  verifyingKey : VerifyingKey

/-- The public function of a contract: `verifyTx` or `verifyProof`. -/
def Contract.verifyProof (contract : Contract) (proof : Proof)
    (input : Fin contract.inputs → U256) : Except Failure Bool :=
  match contract.generator with
  | .zoKrates => ZoKrates.verifyTx evm contract.verifyingKey proof input
  | .snarkjs => Snarkjs.verifyProof evm contract.verifyingKey proof input

end Groth16Verifier

end IdHub
