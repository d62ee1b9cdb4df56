import IdHub.V3Credential

/-!
# Leaves and the circuit that adds them

`leaves.js` makes the leaf that an issuer signs and the leaf with another secret that the
user adds to the tree.  `onAddLeaf.circom` is to show that the added leaf is the signed one
but for its secret, without showing either preimage.  Short of a collision it does: the
signed leaf fixes the issuer and every other field of whatever is added for it.
-/

namespace IdHub

/-- The key has signed the message.  On points of the curve the signatures are the answers to
the challenge, as `Circomlib.EdDSAPoseidonVerifierSpec` says. -/
def SignedBy (lib : Circomlib) (pubKey : Fr × Fr) (M : Fr) : Prop :=
  ∃ R8x R8y S, lib.EdDSAPoseidonVerifier 1 pubKey.1 pubKey.2 R8x R8y S M

/-! `leaves.js`.  No result means that the assertion fails. -/

namespace LeafMaker

structure Inputs where
  addr : Fr
  secret : Fr
  customFields : List Fr
  iat : Fr
  scope : Fr

structure Leaf where
  inputs : Inputs
  preimage : Fin 6 → Fr
  digest : Fr

structure Swapped where
  originalLeaf : Leaf
  newLeaf : Leaf

def _createLeaf (lib : Circomlib) (addr secret : Fr) (customFields : List Fr)
    (iat scope : Fr) : Option Leaf :=
  match customFields with
  | [first, second] =>
    let preimage := ![addr, secret, first, second, iat, scope]
    some
      { inputs :=
          { addr := addr, secret := secret, customFields := [first, second], iat := iat,
            scope := scope }
        preimage := preimage
        digest := lib.Poseidon preimage }
  | _ => none

def createLeaf (lib : Circomlib) (inputs : Inputs) : Option Leaf :=
  _createLeaf lib inputs.addr inputs.secret inputs.customFields inputs.iat inputs.scope

def swapSecret (lib : Circomlib) (originalLeaf : Leaf) (newSecret : Fr) : Option Swapped := do
  let newLeaf ← createLeaf lib { originalLeaf.inputs with secret := newSecret }
  return { originalLeaf := originalLeaf, newLeaf := newLeaf }

/-- The 64 random bytes are drawn outside. -/
def swapAndCreateSecret (lib : Circomlib) (originalLeaf : Leaf) (randomBytes : BitVec 512) :
    Option Swapped :=
  swapSecret lib originalLeaf ((randomBytes.toNat % fieldOrder : ℕ) : Fr)

variable {lib : Circomlib} {inputs : Inputs} {leaf : Leaf}

theorem createLeaf_eq_some_iff :
    createLeaf lib inputs = some leaf ↔
      ∃ first second, inputs.customFields = [first, second] ∧
        leaf =
          { inputs := inputs
            preimage := ![inputs.addr, inputs.secret, first, second, inputs.iat, inputs.scope]
            digest := lib.Poseidon
              ![inputs.addr, inputs.secret, first, second, inputs.iat, inputs.scope] } := by
  obtain ⟨addr, secret, customFields, iat, scope⟩ := inputs
  rcases customFields with _ | ⟨first, _ | ⟨second, _ | ⟨third, rest⟩⟩⟩
  · simp [createLeaf, _createLeaf]
  · simp [createLeaf, _createLeaf]
  · simp only [createLeaf, _createLeaf, Option.some.injEq, List.cons.injEq, and_true]
    constructor
    · rintro rfl
      exact ⟨first, second, ⟨rfl, rfl⟩, rfl⟩
    · rintro ⟨_, _, ⟨rfl, rfl⟩, rfl⟩
      rfl
  · simp [createLeaf, _createLeaf]

/-- The preimages of the two leaves differ in the secret at most. -/
theorem swapSecret_spec {newSecret : Fr} {swapped : Swapped}
    (created : createLeaf lib inputs = some leaf)
    (swaps : swapSecret lib leaf newSecret = some swapped) :
    swapped.originalLeaf = leaf ∧ leaf.digest = lib.Poseidon leaf.preimage ∧
      swapped.newLeaf.digest = lib.Poseidon swapped.newLeaf.preimage ∧
      ∃ first second, inputs.customFields = [first, second] ∧
        leaf.preimage =
          ![inputs.addr, inputs.secret, first, second, inputs.iat, inputs.scope] ∧
        swapped.newLeaf.preimage =
          ![inputs.addr, newSecret, first, second, inputs.iat, inputs.scope] := by
  obtain ⟨first, second, fields, rfl⟩ := createLeaf_eq_some_iff.mp created
  rw [swapSecret, Option.bind_eq_bind, Option.bind_eq_some_iff] at swaps
  obtain ⟨newLeaf, recreated, returned⟩ := swaps
  obtain ⟨first', second', fields', rfl⟩ := createLeaf_eq_some_iff.mp recreated
  obtain ⟨rfl, rfl⟩ : first = first' ∧ second = second' := by
    simpa using fields.symm.trans fields'
  cases Option.some.inj returned
  exact ⟨rfl, rfl, rfl, first, second, fields, rfl, rfl⟩

theorem exists_swapped (created : createLeaf lib inputs = some leaf) (newSecret : Fr) :
    ∃ swapped, swapSecret lib leaf newSecret = some swapped := by
  obtain ⟨first, second, fields, rfl⟩ := createLeaf_eq_some_iff.mp created
  have recreated : createLeaf lib { inputs with secret := newSecret } = some _ :=
    createLeaf_eq_some_iff.mpr ⟨first, second, fields, rfl⟩
  exact ⟨⟨_, _⟩, by rw [swapSecret, recreated]; rfl⟩

end LeafMaker

/-! `onAddLeaf.circom` -/

namespace OAL

structure Inputs where
  pubKeyX : Fr
  pubKeyY : Fr
  R8x : Fr
  R8y : Fr
  S : Fr
  signedLeaf : Fr
  newLeaf : Fr
  signedLeafSecret : Fr
  newLeafSecret : Fr
  iat : Fr
  scope : Fr
  customFields : Fin 2 → Fr

/-- All signals; a component is represented by its output. -/
structure Signals extends Inputs where
  addressFromPubKey : Fr
  createSignedLeaf : Fr
  createNewLeaf : Fr

namespace Signals

variable (w : Signals)

/-- The preimage of a leaf with the fields of the proof and this secret. -/
def preimage (secret : Fr) : Fin 6 → Fr :=
  ![w.addressFromPubKey, secret, w.customFields ⟨0, Nat.two_pos⟩,
    w.customFields ⟨1, Nat.one_lt_two⟩, w.iat, w.scope]

end Signals

structure Satisfies (lib : Circomlib) (w : Signals) : Prop where
  addressFromPubKey : w.addressFromPubKey = lib.Poseidon ![w.pubKeyX, w.pubKeyY]
  createSignedLeaf : w.createSignedLeaf =
    lib.Poseidon ![w.addressFromPubKey, w.signedLeafSecret, w.customFields 0,
      w.customFields 1, w.iat, w.scope]
  createNewLeaf : w.createNewLeaf =
    lib.Poseidon ![w.addressFromPubKey, w.newLeafSecret, w.customFields 0,
      w.customFields 1, w.iat, w.scope]
  signedLeaf : w.createSignedLeaf = w.signedLeaf
  newLeaf : w.createNewLeaf = w.newLeaf
  verifier : lib.EdDSAPoseidonVerifier 1 w.pubKeyX w.pubKeyY w.R8x w.R8y w.S w.signedLeaf

variable {lib : Circomlib} {w first second : Signals}

theorem Satisfies.signedLeaf_eq (satisfied : Satisfies lib w) :
    w.signedLeaf = lib.Poseidon (w.preimage w.signedLeafSecret) :=
  satisfied.signedLeaf.symm.trans satisfied.createSignedLeaf

theorem Satisfies.newLeaf_eq (satisfied : Satisfies lib w) :
    w.newLeaf = lib.Poseidon (w.preimage w.newLeafSecret) :=
  satisfied.newLeaf.symm.trans satisfied.createNewLeaf

theorem Satisfies.signedBy (satisfied : Satisfies lib w) :
    SignedBy lib (w.pubKeyX, w.pubKeyY) w.signedLeaf :=
  ⟨w.R8x, w.R8y, w.S, satisfied.verifier⟩

/-- Two proofs for one signed leaf agree on everything but the secret of what they add,
and add the same leaf only with the same secret. -/
theorem only_secret_differs (firstSatisfied : Satisfies lib first)
    (secondSatisfied : Satisfies lib second)
    (leaves : lib.CollisionFree [first.preimage first.signedLeafSecret,
      second.preimage second.signedLeafSecret, first.preimage first.newLeafSecret,
      second.preimage second.newLeafSecret])
    (keys : lib.CollisionFree [![first.pubKeyX, first.pubKeyY],
      ![second.pubKeyX, second.pubKeyY]])
    (sameSignedLeaf : first.signedLeaf = second.signedLeaf) :
    first.pubKeyX = second.pubKeyX ∧ first.pubKeyY = second.pubKeyY ∧
      first.signedLeafSecret = second.signedLeafSecret ∧
      (∀ secret, first.preimage secret = second.preimage secret) ∧
      (first.newLeaf = second.newLeaf ↔ first.newLeafSecret = second.newLeafSecret) := by
  rw [firstSatisfied.signedLeaf_eq, secondSatisfied.signedLeaf_eq] at sameSignedLeaf
  have samePreimage := leaves _ (by simp) _ (by simp) sameSignedLeaf
  have sameAddress : first.addressFromPubKey = second.addressFromPubKey :=
    congrFun samePreimage 0
  have sameSecret : first.signedLeafSecret = second.signedLeafSecret :=
    congrFun samePreimage 1
  have sameFields (secret : Fr) : first.preimage secret = second.preimage secret := by
    have sameField : first.customFields ⟨0, Nat.two_pos⟩ =
        second.customFields ⟨0, Nat.two_pos⟩ := congrFun samePreimage 2
    have sameOther : first.customFields ⟨1, Nat.one_lt_two⟩ =
        second.customFields ⟨1, Nat.one_lt_two⟩ := congrFun samePreimage 3
    have sameIat : first.iat = second.iat := congrFun samePreimage 4
    have sameScope : first.scope = second.scope := congrFun samePreimage 5
    rw [Signals.preimage, Signals.preimage, sameAddress, sameField, sameOther, sameIat, sameScope]
  rw [firstSatisfied.addressFromPubKey, secondSatisfied.addressFromPubKey] at sameAddress
  have sameKey := keys _ (by simp) _ (by simp) sameAddress
  refine ⟨congrFun sameKey 0, congrFun sameKey 1, sameSecret, sameFields, ?_⟩
  rw [firstSatisfied.newLeaf_eq, secondSatisfied.newLeaf_eq]
  constructor
  · intro sameNewLeaf
    exact congrFun (leaves _ (by simp) _ (by simp) sameNewLeaf) 1
  · intro sameNewSecret
    rw [sameFields, sameNewSecret]

/-- The signals of a proof for a leaf that `leaves.js` made. -/
def ofSwap (lib : Circomlib) (pubKey : Fr × Fr) (R8x R8y S : Fr) (inputs : LeafMaker.Inputs)
    (newSecret first second : Fr) : Signals where
  pubKeyX := pubKey.1
  pubKeyY := pubKey.2
  R8x := R8x
  R8y := R8y
  S := S
  signedLeaf :=
    lib.Poseidon ![inputs.addr, inputs.secret, first, second, inputs.iat, inputs.scope]
  newLeaf := lib.Poseidon ![inputs.addr, newSecret, first, second, inputs.iat, inputs.scope]
  signedLeafSecret := inputs.secret
  newLeafSecret := newSecret
  iat := inputs.iat
  scope := inputs.scope
  customFields := ![first, second]
  addressFromPubKey := inputs.addr
  createSignedLeaf :=
    lib.Poseidon ![inputs.addr, inputs.secret, first, second, inputs.iat, inputs.scope]
  createNewLeaf :=
    lib.Poseidon ![inputs.addr, newSecret, first, second, inputs.iat, inputs.scope]

variable {inputs : LeafMaker.Inputs} {leaf : LeafMaker.Leaf} {newSecret : Fr}
  {swapped : LeafMaker.Swapped}

/-- A signature of the original leaf completes the proof for whatever new secret. -/
theorem satisfies_ofSwap (created : LeafMaker.createLeaf lib inputs = some leaf)
    {first second : Fr} (fields : inputs.customFields = [first, second])
    {pubKey : Fr × Fr} (address : inputs.addr = lib.Poseidon ![pubKey.1, pubKey.2])
    {R8x R8y S : Fr}
    (verified : lib.EdDSAPoseidonVerifier 1 pubKey.1 pubKey.2 R8x R8y S leaf.digest)
    (newSecret : Fr) :
    Satisfies lib (ofSwap lib pubKey R8x R8y S inputs newSecret first second) := by
  obtain ⟨first', second', fields', rfl⟩ := LeafMaker.createLeaf_eq_some_iff.mp created
  obtain ⟨rfl, rfl⟩ : first = first' ∧ second = second' := by
    simpa using fields.symm.trans fields'
  exact
    { addressFromPubKey := address
      createSignedLeaf := rfl
      createNewLeaf := rfl
      signedLeaf := rfl
      newLeaf := rfl
      verifier := verified }

theorem exists_of_signed (created : LeafMaker.createLeaf lib inputs = some leaf)
    (swaps : LeafMaker.swapSecret lib leaf newSecret = some swapped) {pubKey : Fr × Fr}
    (address : inputs.addr = lib.Poseidon ![pubKey.1, pubKey.2])
    (signed : SignedBy lib pubKey leaf.digest) :
    ∃ w : Signals, Satisfies lib w ∧ w.signedLeaf = swapped.originalLeaf.digest ∧
      w.newLeaf = swapped.newLeaf.digest ∧ w.preimage w.signedLeafSecret = leaf.preimage := by
  obtain ⟨rfl, digest, newDigest, first, second, fields, preimage, newPreimage⟩ :=
    LeafMaker.swapSecret_spec created swaps
  obtain ⟨R8x, R8y, S, verified⟩ := signed
  rw [preimage] at digest
  rw [newPreimage] at newDigest
  exact ⟨_, satisfies_ofSwap created fields address verified newSecret, digest.symm,
    newDigest.symm, preimage.symm⟩

/-- An issuer's signature, made with its secret key and any nonce, lets the holder add the
leaf with a new secret, whatever random bytes are drawn for it. -/
theorem swapAndCreateSecret_added (spec : lib.EdDSAPoseidonVerifierSpec)
    (created : LeafMaker.createLeaf lib inputs = some leaf) {secret : ℕ}
    (nonzero : (8 • secret • BASE8).x ≠ 0)
    (address : inputs.addr = lib.Poseidon ![(secret • BASE8).x, (secret • BASE8).y])
    (nonce : ℕ) (randomBytes : BitVec 512) :
    ∃ swapped w, LeafMaker.swapAndCreateSecret lib leaf randomBytes = some swapped ∧
      Satisfies lib w ∧ (w.R8x, w.R8y) = (nonce • BASE8).coords ∧
      w.S = lib.answer secret nonce leaf.digest ∧ w.signedLeaf = leaf.digest ∧
      w.newLeaf = swapped.newLeaf.digest ∧ w.newLeafSecret = (randomBytes.toNat : Fr) := by
  obtain ⟨swapped, swaps⟩ := LeafMaker.exists_swapped created
    ((randomBytes.toNat % fieldOrder : ℕ) : Fr)
  obtain ⟨-, digest, newDigest, first, second, fields, preimage, newPreimage⟩ :=
    LeafMaker.swapSecret_spec created swaps
  rw [preimage] at digest
  rw [newPreimage] at newDigest
  have verified := spec.verifies_answer nonzero nonce leaf.digest
  have satisfied : Satisfies lib
      (ofSwap lib (secret • BASE8).coords _ _ _ inputs _ first second) :=
    satisfies_ofSwap created fields address verified
      ((randomBytes.toNat % fieldOrder : ℕ) : Fr)
  exact ⟨swapped, _, swaps, satisfied, rfl, rfl, digest.symm, newDigest.symm,
    ZMod.natCast_mod randomBytes.toNat fieldOrder⟩

/-- A swap of secrets can be proved exactly if a key has signed the original leaf and the
address in the leaf is that key's. -/
theorem provable_swap_iff (created : LeafMaker.createLeaf lib inputs = some leaf)
    (swaps : LeafMaker.swapSecret lib leaf newSecret = some swapped) :
    (∃ w : Signals, Satisfies lib w ∧ w.signedLeaf = swapped.originalLeaf.digest ∧
        w.newLeaf = swapped.newLeaf.digest ∧
        lib.CollisionFree [leaf.preimage, w.preimage w.signedLeafSecret]) ↔
      ∃ pubKey : Fr × Fr, inputs.addr = lib.Poseidon ![pubKey.1, pubKey.2] ∧
        SignedBy lib pubKey leaf.digest := by
  constructor
  · rintro ⟨w, satisfied, signedLeaf, -, collisionFree⟩
    obtain ⟨rfl, digest, -, first, second, -, preimage, -⟩ :=
      LeafMaker.swapSecret_spec created swaps
    have sameHash : lib.Poseidon swapped.originalLeaf.preimage =
        lib.Poseidon (w.preimage w.signedLeafSecret) := by
      rw [← digest, ← signedLeaf, satisfied.signedLeaf_eq]
    have samePreimage := collisionFree _ (by simp) _ (by simp) sameHash
    rw [preimage] at samePreimage
    have address : inputs.addr = w.addressFromPubKey := congrFun samePreimage 0
    refine ⟨(w.pubKeyX, w.pubKeyY), address.trans satisfied.addressFromPubKey, ?_⟩
    rw [← signedLeaf]
    exact satisfied.signedBy
  · rintro ⟨pubKey, address, signed⟩
    obtain ⟨w, satisfied, signedLeaf, newLeaf, samePreimage⟩ :=
      exists_of_signed created swaps address signed
    refine ⟨w, satisfied, signedLeaf, newLeaf, ?_⟩
    rw [samePreimage]
    simp [Circomlib.CollisionFree]

section Sample

/-- Poseidon on a key, two secrets swapped into a leaf that it has signed, the row of a tree
with both and their nullifiers. -/
def sampleTable : List (List ℕ × ℕ) :=
  [([BASE8.x.val, BASE8.y.val],
      14272291464647171305716854857059671144399282343430425676437089353517494350488),
    ([14272291464647171305716854857059671144399282343430425676437089353517494350488,
        123, 4, 5, 6, 0],
      9620372425224627285534445905849342675398375271629229053747101275334380822352),
    ([14272291464647171305716854857059671144399282343430425676437089353517494350488,
        321, 4, 5, 6, 0],
      6780526532384670982477760270614649096865272646694041790709132583969215193303),
    ([14272291464647171305716854857059671144399282343430425676437089353517494350488,
        322, 4, 5, 6, 0],
      5097200761273500928207289613292411225866431154661596976874591898113429377934),
    ([0, 1, BASE8.x.val, BASE8.y.val,
        9620372425224627285534445905849342675398375271629229053747101275334380822352],
      8639395231550856495946211689201942178478540213916167750441144322945582520593),
    ([6780526532384670982477760270614649096865272646694041790709132583969215193303,
        5097200761273500928207289613292411225866431154661596976874591898113429377934, 0, 0, 0],
      5786178604266247474270939320938366467387741426671391052704076498947217812051),
    ([9, 321], 9492547155240540861784268580048927498858676061748936960439029539900123856778),
    ([9, 322], 6332646641075544501535298481748023304103629999197464587216160414347546012253)]

def samplePoseidon {n : ℕ} (inputs : Fin n → Fr) : Fr :=
  Circomlib.poseidonTable sampleTable inputs

def sampleInputs : LeafMaker.Inputs where
  addr := samplePoseidon ![BASE8.x, BASE8.y]
  secret := (123 : ℕ)
  customFields := [(4 : ℕ), (5 : ℕ)]
  iat := (6 : ℕ)
  scope := 0

def samplePreimage : Fin 6 → Fr :=
  ![sampleInputs.addr, sampleInputs.secret, (4 : ℕ), (5 : ℕ), (6 : ℕ), 0]

def sampleLeaf : LeafMaker.Leaf where
  inputs := sampleInputs
  preimage := samplePreimage
  digest := samplePoseidon samplePreimage

/-- What the issuer with secret key `1` answers for nonce `0`. -/
def sampleResponse (M : Fr) : Fr :=
  ((8 * (samplePoseidon ![0, 1, BASE8.x, BASE8.y, M]).val % subOrder : ℕ) : Fr)

theorem sampleResponse_verifies (M : Fr) :
    (Circomlib.reference samplePoseidon).EdDSAPoseidonVerifier 1 BASE8.x BASE8.y 0 1
      (sampleResponse M) M := by
  apply (Circomlib.reference_eddsaPoseidonVerifierSpec samplePoseidon BASE8 0).mpr
  refine ⟨lt_of_eq_of_lt (response_val _) (response_lt _), eight_BASE8_x_ne_zero, ?_⟩
  rw [zero_add, ← response_nsmul_BASE8]
  exact congrArg (· • BASE8) (response_val _)

/-- The proof that adds the sample leaf with another secret. -/
def sampleProof (newSecret : Fr) : Signals :=
  ofSwap (Circomlib.reference samplePoseidon) BASE8.coords 0 1
    (sampleResponse sampleLeaf.digest) sampleInputs newSecret (4 : ℕ) (5 : ℕ)

theorem satisfies_sampleProof (newSecret : Fr) :
    Satisfies (Circomlib.reference samplePoseidon) (sampleProof newSecret) where
  addressFromPubKey := rfl
  createSignedLeaf := rfl
  createNewLeaf := rfl
  signedLeaf := rfl
  newLeaf := rfl
  verifier := sampleResponse_verifies _

/-- The two leaves added for one signed leaf differ. -/
theorem sampleProof_only_secret :
    (∀ secret,
        (sampleProof (321 : ℕ)).preimage secret = (sampleProof (322 : ℕ)).preimage secret) ∧
      ((sampleProof (321 : ℕ)).newLeaf = (sampleProof (322 : ℕ)).newLeaf ↔
        (sampleProof (321 : ℕ)).newLeafSecret = (sampleProof (322 : ℕ)).newLeafSecret) :=
  (only_secret_differs (satisfies_sampleProof (321 : ℕ)) (satisfies_sampleProof (322 : ℕ))
    (by decide +kernel) (by decide +kernel) rfl).2.2.2

theorem sampleSwap_provable :
    ∃ w : Signals, Satisfies (Circomlib.reference samplePoseidon) w ∧
      w.signedLeaf.val =
        9620372425224627285534445905849342675398375271629229053747101275334380822352 ∧
      w.newLeaf.val =
        6780526532384670982477760270614649096865272646694041790709132583969215193303 := by
  have created : LeafMaker.createLeaf (Circomlib.reference samplePoseidon) sampleInputs =
      some sampleLeaf := rfl
  have swaps : LeafMaker.swapSecret (Circomlib.reference samplePoseidon) sampleLeaf (321 : ℕ) =
      some _ := rfl
  obtain ⟨w, satisfied, signedLeaf, newLeaf, -⟩ := (provable_swap_iff created swaps).mpr
    ⟨BASE8.coords, rfl, 0, 1, _, sampleResponse_verifies _⟩
  refine ⟨w, satisfied, ?_, ?_⟩
  · rw [signedLeaf]
    decide +kernel
  · rw [newLeaf]
    decide +kernel

end Sample

end OAL

end IdHub
