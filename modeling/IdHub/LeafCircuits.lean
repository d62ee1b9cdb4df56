import IdHub.CredentialLeaves
import IdHub.QuinaryMerkleTree
import Mathlib.Data.Set.Card

/-!
# The ZoKrates circuits over the tree of leaves

Each circuit proves that a leaf of the tree has a preimage of some layout, and publishes a
few of its fields.  Four of them also publish `hashbrowns`, the hash of the leaf's secret
with a public salt.  The leaves do not say which layout they were made for, so a circuit
accepts every leaf of the tree, whatever it says; what sets leaves apart is the issuer.
Still no leaf has more than one `hashbrowns` for a salt, in all circuits together.
-/

namespace IdHub

open MerkleTrees QuinaryMerkleProof

namespace QuinaryMerkleProof

variable {lib : Circomlib}

theorem select_eq_some_iff {array : Fin 5 → Fr} {index : U32} {value : Fr} :
    select array index = some value ↔
      ∃ branch : Fin 5, index = BitVec.ofNat 32 branch.val ∧ array branch = value := by
  constructor
  · intro selected
    by_cases inBounds : index.toNat < 5
    · refine ⟨⟨index.toNat, inBounds⟩, by simp, ?_⟩
      simpa [select, inBounds] using selected
    · simp [select, inBounds] at selected
  · rintro ⟨branch, rfl, selected⟩
    exact select_eq_some.mpr selected

/-- An index that is out of bounds fails, so a climb goes along branches. -/
theorem climbs_iff_exists {DEPTH : ℕ} {root leaf : Fr} {path : Fin DEPTH → Fin 5 → Fr}
    {indices : Fin DEPTH → U32} :
    (List.finRange DEPTH).foldlM (climb lib path indices) leaf = some root ↔
      ∃ branches : Fin DEPTH → Fin 5, (indices = fun i => BitVec.ofNat 32 (branches i).val) ∧
        Opens lib.Poseidon DEPTH root leaf path branches := by
  constructor
  · intro climbs
    have bounded : ∀ level, ∃ branch : Fin 5, indices level = BitVec.ofNat 32 branch.val := by
      induction DEPTH generalizing leaf with
      | zero => exact fun level => level.elim0
      | succ DEPTH ih =>
          rw [List.finRange_succ, List.foldlM_cons, Option.bind_eq_bind,
            Option.bind_eq_some_iff] at climbs
          obtain ⟨digest, first, above⟩ := climbs
          rw [List.foldlM_map] at above
          intro level
          cases level using Fin.cases with
          | zero =>
              rw [climb, Option.bind_eq_bind, Option.bind_eq_some_iff] at first
              obtain ⟨selected, selects, -⟩ := first
              obtain ⟨branch, index, -⟩ := select_eq_some_iff.mp selects
              exact ⟨branch, index⟩
          | succ level => exact ih above level
    choose branches spelled using bounded
    obtain rfl : indices = fun i => BitVec.ofNat 32 (branches i).val := funext spelled
    exact ⟨branches, rfl, climbs_iff.mp climbs⟩
  · rintro ⟨branches, rfl, opens⟩
    exact climbs_iff.mpr opens

end QuinaryMerkleProof

namespace LeafCircuits

/-- The assertions about `path` and `indices` that all circuits make. -/
def proveMembership (lib : Circomlib) {DEPTH : ℕ} (root leaf : Fr)
    (path : Fin DEPTH → Fin 5 → Fr) (indices : Fin DEPTH → U32) : Option Unit := do
  let digest ← (List.finRange DEPTH).foldlM (climb lib path indices) leaf
  guard (digest = root)

/-- The assertions of the circuits that publish `hashbrowns`. -/
def proveSalted (lib : Circomlib) {DEPTH : ℕ} (preimage : Fin 6 → Fr) (secret : Fr)
    (root msgSenderAddr salt hashbrowns leaf : Fr) (path : Fin DEPTH → Fin 5 → Fr)
    (indices : Fin DEPTH → U32) : Option Unit := do
  guard (lib.Poseidon preimage = leaf)
  proveMembership lib root leaf path indices
  guard (lib.Poseidon ![salt, secret] = hashbrowns)
  guard (msgSenderAddr - msgSenderAddr = 0)

end LeafCircuits

open LeafCircuits

section Programs

variable (lib : Circomlib) {DEPTH : ℕ}

def CreateLeaf.main (address secret countryCode subdivision completedAt birthdate : Fr) : Fr :=
  lib.Poseidon ![address, secret, countryCode, subdivision, completedAt, birthdate]

def KnowledgeOfLeafPreimage.main
    (root issuerAddr countryCode nameDobCitySubdivisionZipStreetExpireHash iat scope secret : Fr)
    (path : Fin DEPTH → Fin 5 → Fr) (indices : Fin DEPTH → U32) : Option Unit :=
  let preimage :=
    ![issuerAddr, secret, countryCode, nameDobCitySubdivisionZipStreetExpireHash, iat, scope]
  proveMembership lib root (lib.Poseidon preimage) path indices

def GovIdFirstNameLastName.main
    (root issuerAddr firstName lastName leaf middleName countryCode birthdate addressHash
      expirationDate iat scope secret : Fr)
    (path : Fin DEPTH → Fin 5 → Fr) (indices : Fin DEPTH → U32) : Option Unit := do
  let nameHash := lib.Poseidon ![firstName, middleName, lastName]
  let nameDobCitySubdivisionZipStreetExpireHash :=
    lib.Poseidon ![nameHash, birthdate, addressHash, expirationDate]
  let leafPreimage :=
    ![issuerAddr, secret, countryCode, nameDobCitySubdivisionZipStreetExpireHash, iat, scope]
  guard (lib.Poseidon leafPreimage = leaf)
  proveMembership lib root leaf path indices

def MedicalSpecialty.main
    (root msgSenderAddr issuerAddr specialty salt hashbrowns leaf npiNumLicenseMedCredsHash
      iat scope secret : Fr)
    (path : Fin DEPTH → Fin 5 → Fr) (indices : Fin DEPTH → U32) : Option Unit :=
  proveSalted lib ![issuerAddr, secret, specialty, npiNumLicenseMedCredsHash, iat, scope]
    secret root msgSenderAddr salt hashbrowns leaf path indices

def ProofOfResidency.main
    (root msgSenderAddr issuerAddr salt hashbrowns countryCode subdivision completedAt scope
      nullifier leaf : Fr)
    (path : Fin DEPTH → Fin 5 → Fr) (indices : Fin DEPTH → U32) : Option Unit :=
  proveSalted lib ![issuerAddr, nullifier, countryCode, subdivision, completedAt, scope]
    nullifier root msgSenderAddr salt hashbrowns leaf path indices

def SybilGovID.main
    (root msgSenderAddr issuerAddr salt hashbrowns countryCode subdivision completedAt
      birthdate nullifier leaf : Fr)
    (path : Fin DEPTH → Fin 5 → Fr) (indices : Fin DEPTH → U32) : Option Unit :=
  proveSalted lib ![issuerAddr, nullifier, countryCode, subdivision, completedAt, birthdate]
    nullifier root msgSenderAddr salt hashbrowns leaf path indices

def SybilPhone.main
    (root msgSenderAddr issuerAddr salt hashbrowns phoneNumber issuedAt scope nullifier leaf : Fr)
    (path : Fin DEPTH → Fin 5 → Fr) (indices : Fin DEPTH → U32) : Option Unit :=
  proveSalted lib ![issuerAddr, nullifier, phoneNumber, 0, issuedAt, scope]
    nullifier root msgSenderAddr salt hashbrowns leaf path indices

end Programs

/-- `createLeaf.zok` computes the digest of `leaves.js`. -/
theorem createLeaf_digest {lib : Circomlib} {inputs : LeafMaker.Inputs} {leaf : LeafMaker.Leaf}
    (created : LeafMaker.createLeaf lib inputs = some leaf) :
    ∃ countryCode subdivision, inputs.customFields = [countryCode, subdivision] ∧
      leaf.digest = CreateLeaf.main lib inputs.addr inputs.secret countryCode subdivision
        inputs.iat inputs.scope := by
  obtain ⟨first, second, fields, rfl⟩ := LeafMaker.createLeaf_eq_some_iff.mp created
  exact ⟨first, second, fields, rfl⟩

namespace LeafCircuits

/-- Inputs that have been hashed, by anyone.  Poseidon has no collision among them. -/
structure Hashed (lib : Circomlib) where
  inputs : (n : ℕ) → Set (Fin n → Fr)
  injOn : ∀ n, Set.InjOn lib.Poseidon (inputs n)

variable {lib : Circomlib} {DEPTH : ℕ}

/-- The inputs of a table whose values are different. -/
def Hashed.ofTable (table : List (List ℕ × ℕ)) (different : (table.map Prod.snd).Nodup)
    (reduced : ∀ entry ∈ table, entry.2 < fieldOrder) :
    Hashed (Circomlib.reference (Circomlib.poseidonTable table)) where
  inputs _ := {inputs | Circomlib.Listed table inputs}
  injOn _ := Circomlib.poseidonTable_injOn different reduced

/-- The leaf at this position is known to be the hash of the preimage. -/
def LeafAt (hashed : Hashed lib) (leaves : Fin (5 ^ DEPTH) → Fr) (position : Fin (5 ^ DEPTH))
    (preimage : Fin 6 → Fr) : Prop :=
  preimage ∈ hashed.inputs 6 ∧ lib.Poseidon preimage = leaves position

theorem LeafAt.unique {hashed : Hashed lib} {leaves : Fin (5 ^ DEPTH) → Fr}
    {position : Fin (5 ^ DEPTH)} {first second : Fin 6 → Fr}
    (firstAt : LeafAt hashed leaves position first)
    (secondAt : LeafAt hashed leaves position second) : first = second :=
  hashed.injOn 6 firstAt.1 secondAt.1 (firstAt.2.trans secondAt.2.symm)

theorem proveMembership_iff {root leaf : Fr} {path : Fin DEPTH → Fin 5 → Fr}
    {indices : Fin DEPTH → U32} :
    proveMembership lib root leaf path indices = some () ↔
      ∃ branches : Fin DEPTH → Fin 5, (indices = fun i => BitVec.ofNat 32 (branches i).val) ∧
        Opens lib.Poseidon DEPTH root leaf path branches := by
  rw [← climbs_iff_exists, proveMembership, Option.bind_eq_bind, Option.bind_eq_some_iff]
  constructor
  · rintro ⟨digest, climbs, reached⟩
    obtain rfl : digest = root := by simpa [guard] using reached
    exact climbs
  · intro climbs
    exact ⟨root, climbs, by simp [guard]⟩

theorem proveSalted_iff {preimage : Fin 6 → Fr}
    {secret root msgSenderAddr salt hashbrowns leaf : Fr} {path : Fin DEPTH → Fin 5 → Fr}
    {indices : Fin DEPTH → U32} :
    proveSalted lib preimage secret root msgSenderAddr salt hashbrowns leaf path indices =
        some () ↔
      lib.Poseidon preimage = leaf ∧ proveMembership lib root leaf path indices = some () ∧
        lib.Poseidon ![salt, secret] = hashbrowns := by
  simp [proveSalted, guard, Option.bind_eq_some_iff, Unique.exists_iff]

section Tree

variable (hashed : Hashed lib) (leaves : Fin (5 ^ DEPTH) → Fr)
  (rows : MerkleProof.treeRows lib leaves ⊆ hashed.inputs 5)

include rows

/-- Membership in the tree can be proved of its leaves and of nothing else. -/
theorem membership_iff_leaf {leaf : Fr} :
    (∃ (path : Fin DEPTH → Fin 5 → Fr) (indices : Fin DEPTH → U32),
        Set.range path ⊆ hashed.inputs 5 ∧
        proveMembership lib (MerkleProof.treeRoot lib leaves) leaf path indices = some ()) ↔
      ∃ position, leaf = leaves position := by
  constructor
  · rintro ⟨path, indices, known, proved⟩
    obtain ⟨branches, -, opens⟩ := proveMembership_iff.mp proved
    have free := (hashed.injOn 5).mono (Set.union_subset rows known)
    exact ⟨finFunctionFinEquiv branches, leaf_of_opens opens free⟩
  · rintro ⟨position, rfl⟩
    obtain ⟨branches, rfl⟩ := finFunctionFinEquiv.surjective position
    let path := rowsAlong lib.Poseidon DEPTH (MerkleProof.addressed leaves) branches
    refine ⟨path, fun i => BitVec.ofNat 32 (branches i).val, ?_, ?_⟩
    · rintro _ ⟨level, rfl⟩
      exact rows (rowsAlong_mem _ branches level)
    · exact proveMembership_iff.mpr
        ⟨branches, rfl, opens_rowsAlong (MerkleProof.addressed leaves) branches⟩

end Tree

/-- A leaf with this preimage, and what it publishes for the salt. -/
def Publishes (hashed : Hashed lib) (leaves : Fin (5 ^ DEPTH) → Fr) (salt hashbrowns : Fr)
    (position : Fin (5 ^ DEPTH)) (preimage : Fin 6 → Fr) : Prop :=
  LeafAt hashed leaves position preimage ∧ ![salt, preimage 1] ∈ hashed.inputs 2 ∧
    lib.Poseidon ![salt, preimage 1] = hashbrowns

/-- The secrets in the issuer's leaves that have been hashed with the salt. -/
def Secrets (hashed : Hashed lib) (leaves : Fin (5 ^ DEPTH) → Fr) (salt issuerAddr : Fr) :
    Set Fr :=
  {secret | ![salt, secret] ∈ hashed.inputs 2 ∧
    ∃ position preimage, LeafAt hashed leaves position preimage ∧ preimage 0 = issuerAddr ∧
      preimage 1 = secret}

/-- The positions of the issuer's leaves. -/
def Positions (hashed : Hashed lib) (leaves : Fin (5 ^ DEPTH) → Fr) (issuerAddr : Fr) :
    Set (Fin (5 ^ DEPTH)) :=
  {position | ∃ preimage, LeafAt hashed leaves position preimage ∧ preimage 0 = issuerAddr}

/-- The prover's hashes of a proof about a salted leaf are known. -/
def Known (hashed : Hashed lib) (salt secret : Fr) (preimage : Fin 6 → Fr)
    (path : Fin DEPTH → Fin 5 → Fr) : Prop :=
  preimage ∈ hashed.inputs 6 ∧ ![salt, secret] ∈ hashed.inputs 2 ∧
    Set.range path ⊆ hashed.inputs 5

/-- A proof about a salted leaf with this preimage, whatever its layout. -/
def SaltedProof (hashed : Hashed lib) (root msgSenderAddr salt hashbrowns : Fr) (DEPTH : ℕ)
    (preimage : Fin 6 → Fr) : Prop :=
  ∃ (leaf : Fr) (path : Fin DEPTH → Fin 5 → Fr) (indices : Fin DEPTH → U32),
    Known hashed salt (preimage 1) preimage path ∧
    proveSalted lib preimage (preimage 1) root msgSenderAddr salt hashbrowns leaf path
      indices = some ()

end LeafCircuits

/-! What a circuit accepts, as a predicate of its public inputs. -/

section Acceptance

variable {lib : Circomlib} (hashed : Hashed lib) (DEPTH : ℕ)

def MedicalSpecialty.Accepted
    (root msgSenderAddr issuerAddr specialty salt hashbrowns : Fr) : Prop :=
  ∃ (leaf npiNumLicenseMedCredsHash iat scope secret : Fr) (path : Fin DEPTH → Fin 5 → Fr)
    (indices : Fin DEPTH → U32),
    Known hashed salt secret
      ![issuerAddr, secret, specialty, npiNumLicenseMedCredsHash, iat, scope] path ∧
    MedicalSpecialty.main lib root msgSenderAddr issuerAddr specialty salt hashbrowns leaf
      npiNumLicenseMedCredsHash iat scope secret path indices = some ()

def ProofOfResidency.Accepted
    (root msgSenderAddr issuerAddr salt hashbrowns countryCode : Fr) : Prop :=
  ∃ (subdivision completedAt scope nullifier leaf : Fr) (path : Fin DEPTH → Fin 5 → Fr)
    (indices : Fin DEPTH → U32),
    Known hashed salt nullifier
      ![issuerAddr, nullifier, countryCode, subdivision, completedAt, scope] path ∧
    ProofOfResidency.main lib root msgSenderAddr issuerAddr salt hashbrowns countryCode
      subdivision completedAt scope nullifier leaf path indices = some ()

def SybilGovID.Accepted (root msgSenderAddr issuerAddr salt hashbrowns : Fr) : Prop :=
  ∃ (countryCode subdivision completedAt birthdate nullifier leaf : Fr)
    (path : Fin DEPTH → Fin 5 → Fr) (indices : Fin DEPTH → U32),
    Known hashed salt nullifier
      ![issuerAddr, nullifier, countryCode, subdivision, completedAt, birthdate] path ∧
    SybilGovID.main lib root msgSenderAddr issuerAddr salt hashbrowns countryCode subdivision
      completedAt birthdate nullifier leaf path indices = some ()

def SybilPhone.Accepted (root msgSenderAddr issuerAddr salt hashbrowns : Fr) : Prop :=
  ∃ (phoneNumber issuedAt scope nullifier leaf : Fr) (path : Fin DEPTH → Fin 5 → Fr)
    (indices : Fin DEPTH → U32),
    Known hashed salt nullifier ![issuerAddr, nullifier, phoneNumber, 0, issuedAt, scope]
      path ∧
    SybilPhone.main lib root msgSenderAddr issuerAddr salt hashbrowns phoneNumber issuedAt
      scope nullifier leaf path indices = some ()

def GovIdFirstNameLastName.Accepted (root issuerAddr firstName lastName : Fr) : Prop :=
  ∃ (leaf middleName countryCode birthdate addressHash expirationDate iat scope secret : Fr)
    (path : Fin DEPTH → Fin 5 → Fr) (indices : Fin DEPTH → U32),
    ![issuerAddr, secret, countryCode,
        lib.Poseidon ![lib.Poseidon ![firstName, middleName, lastName], birthdate, addressHash,
          expirationDate], iat, scope] ∈ hashed.inputs 6 ∧
    Set.range path ⊆ hashed.inputs 5 ∧
    GovIdFirstNameLastName.main lib root issuerAddr firstName lastName leaf middleName
      countryCode birthdate addressHash expirationDate iat scope secret path indices = some ()

def KnowledgeOfLeafPreimage.Accepted (root : Fr) : Prop :=
  ∃ (issuerAddr countryCode nameDobCitySubdivisionZipStreetExpireHash iat scope secret : Fr)
    (path : Fin DEPTH → Fin 5 → Fr) (indices : Fin DEPTH → U32),
    ![issuerAddr, secret, countryCode, nameDobCitySubdivisionZipStreetExpireHash, iat, scope] ∈
      hashed.inputs 6 ∧
    Set.range path ⊆ hashed.inputs 5 ∧
    KnowledgeOfLeafPreimage.main lib root issuerAddr countryCode
      nameDobCitySubdivisionZipStreetExpireHash iat scope secret path indices = some ()

end Acceptance

namespace LeafCircuits

variable {lib : Circomlib} {DEPTH : ℕ}

theorem eta_six (v : Fin 6 → Fr) : ![v 0, v 1, v 2, v 3, v 4, v 5] = v := by
  funext i
  fin_cases i <;> rfl

section Tree

variable (hashed : Hashed lib) (leaves : Fin (5 ^ DEPTH) → Fr)
  (rows : MerkleProof.treeRows lib leaves ⊆ hashed.inputs 5)

include rows

theorem salted_iff {preimage : Fin 6 → Fr} {msgSenderAddr salt hashbrowns : Fr} :
    SaltedProof hashed (MerkleProof.treeRoot lib leaves) msgSenderAddr salt hashbrowns DEPTH
        preimage ↔
      ∃ position, Publishes hashed leaves salt hashbrowns position preimage := by
  constructor
  · rintro ⟨leaf, path, indices, ⟨knownLeaf, knownSalted, knownPath⟩, proved⟩
    obtain ⟨rfl, member, salted⟩ := proveSalted_iff.mp proved
    obtain ⟨position, found⟩ :=
      (membership_iff_leaf hashed leaves rows).mp ⟨path, indices, knownPath, member⟩
    exact ⟨position, ⟨knownLeaf, found⟩, knownSalted, salted⟩
  · rintro ⟨position, ⟨knownLeaf, found⟩, knownSalted, salted⟩
    obtain ⟨path, indices, knownPath, member⟩ :=
      (membership_iff_leaf hashed leaves rows).mpr ⟨position, found⟩
    exact ⟨_, path, indices, ⟨knownLeaf, knownSalted, knownPath⟩,
      proveSalted_iff.mpr ⟨rfl, member, salted⟩⟩

/-- A circuit that proves the salted leaves of a layout accepts what some leaf of that layout
publishes. -/
theorem layout_iff {msgSenderAddr salt hashbrowns : Fr} (layout : (Fin 6 → Fr) → Prop)
    {accepted : Prop}
    (reads : accepted → ∃ preimage, layout preimage ∧
      SaltedProof hashed (MerkleProof.treeRoot lib leaves) msgSenderAddr salt hashbrowns DEPTH
        preimage)
    (fills : ∀ issuerAddr secret first second third fourth,
      layout ![issuerAddr, secret, first, second, third, fourth] →
      SaltedProof hashed (MerkleProof.treeRoot lib leaves) msgSenderAddr salt hashbrowns DEPTH
        ![issuerAddr, secret, first, second, third, fourth] → accepted) :
    accepted ↔ ∃ position preimage, Publishes hashed leaves salt hashbrowns position preimage ∧
      layout preimage := by
  constructor
  · intro isAccepted
    obtain ⟨preimage, inLayout, proof⟩ := reads isAccepted
    obtain ⟨position, published⟩ := (salted_iff hashed leaves rows).mp proof
    exact ⟨position, preimage, published, inLayout⟩
  · rintro ⟨position, preimage, published, inLayout⟩
    rw [← eta_six preimage] at published inLayout
    exact fills _ _ _ _ _ _ inLayout
      ((salted_iff hashed leaves rows).mpr ⟨position, published⟩)

theorem residency_iff {msgSenderAddr issuerAddr salt hashbrowns countryCode : Fr} :
    ProofOfResidency.Accepted hashed DEPTH (MerkleProof.treeRoot lib leaves) msgSenderAddr
        issuerAddr salt hashbrowns countryCode ↔
      ∃ position preimage, Publishes hashed leaves salt hashbrowns position preimage ∧
        preimage 0 = issuerAddr ∧ preimage 2 = countryCode := by
  apply layout_iff hashed leaves rows fun preimage =>
    preimage 0 = issuerAddr ∧ preimage 2 = countryCode
  · rintro ⟨subdivision, completedAt, scope, nullifier, leaf, path, indices, proof⟩
    exact ⟨_, ⟨rfl, rfl⟩, leaf, path, indices, proof⟩
  · rintro _ nullifier _ subdivision completedAt scope ⟨rfl, rfl⟩ ⟨leaf, path, indices, proof⟩
    exact ⟨subdivision, completedAt, scope, nullifier, leaf, path, indices, proof⟩

theorem medicalSpecialty_iff {msgSenderAddr issuerAddr specialty salt hashbrowns : Fr} :
    MedicalSpecialty.Accepted hashed DEPTH (MerkleProof.treeRoot lib leaves) msgSenderAddr
        issuerAddr specialty salt hashbrowns ↔
      ∃ position preimage, Publishes hashed leaves salt hashbrowns position preimage ∧
        preimage 0 = issuerAddr ∧ preimage 2 = specialty := by
  apply layout_iff hashed leaves rows fun preimage =>
    preimage 0 = issuerAddr ∧ preimage 2 = specialty
  · rintro ⟨leaf, medCreds, iat, scope, secret, path, indices, proof⟩
    exact ⟨_, ⟨rfl, rfl⟩, leaf, path, indices, proof⟩
  · rintro _ secret _ medCreds iat scope ⟨rfl, rfl⟩ ⟨leaf, path, indices, proof⟩
    exact ⟨leaf, medCreds, iat, scope, secret, path, indices, proof⟩

theorem sybilGovID_iff {msgSenderAddr issuerAddr salt hashbrowns : Fr} :
    SybilGovID.Accepted hashed DEPTH (MerkleProof.treeRoot lib leaves) msgSenderAddr issuerAddr
        salt hashbrowns ↔
      ∃ position preimage, Publishes hashed leaves salt hashbrowns position preimage ∧
        preimage 0 = issuerAddr := by
  apply layout_iff hashed leaves rows fun preimage => preimage 0 = issuerAddr
  · rintro ⟨countryCode, subdivision, completedAt, birthdate, nullifier, leaf, path, indices,
      proof⟩
    exact ⟨_, rfl, leaf, path, indices, proof⟩
  · rintro _ nullifier countryCode subdivision completedAt birthdate rfl
      ⟨leaf, path, indices, proof⟩
    exact ⟨countryCode, subdivision, completedAt, birthdate, nullifier, leaf, path, indices,
      proof⟩

theorem sybilPhone_iff {msgSenderAddr issuerAddr salt hashbrowns : Fr} :
    SybilPhone.Accepted hashed DEPTH (MerkleProof.treeRoot lib leaves) msgSenderAddr issuerAddr
        salt hashbrowns ↔
      ∃ position preimage, Publishes hashed leaves salt hashbrowns position preimage ∧
        preimage 0 = issuerAddr ∧ preimage 3 = 0 := by
  apply layout_iff hashed leaves rows fun preimage =>
    preimage 0 = issuerAddr ∧ preimage 3 = 0
  · rintro ⟨phoneNumber, issuedAt, scope, nullifier, leaf, path, indices, proof⟩
    exact ⟨_, ⟨rfl, rfl⟩, leaf, path, indices, proof⟩
  · rintro _ nullifier phoneNumber noField issuedAt scope ⟨rfl, isZero⟩
      ⟨leaf, path, indices, proof⟩
    obtain rfl : noField = 0 := isZero
    exact ⟨phoneNumber, issuedAt, scope, nullifier, leaf, path, indices, proof⟩

theorem knowledge_iff :
    KnowledgeOfLeafPreimage.Accepted hashed DEPTH (MerkleProof.treeRoot lib leaves) ↔
      ∃ position preimage, LeafAt hashed leaves position preimage := by
  constructor
  · rintro ⟨issuerAddr, countryCode, fieldsHash, iat, scope, secret, path, indices, knownLeaf,
      knownPath, proved⟩
    obtain ⟨position, found⟩ :=
      (membership_iff_leaf hashed leaves rows).mp ⟨path, indices, knownPath, proved⟩
    exact ⟨position, _, knownLeaf, found⟩
  · rintro ⟨position, preimage, knownLeaf, found⟩
    obtain ⟨path, indices, knownPath, proved⟩ :=
      (membership_iff_leaf hashed leaves rows).mpr ⟨position, found⟩
    refine ⟨preimage 0, preimage 2, preimage 3, preimage 4, preimage 5, preimage 1, path,
      indices, ?_, knownPath, ?_⟩
    · rwa [eta_six]
    · rwa [KnowledgeOfLeafPreimage.main, eta_six]

theorem names_iff {issuerAddr firstName lastName : Fr} :
    GovIdFirstNameLastName.Accepted hashed DEPTH (MerkleProof.treeRoot lib leaves) issuerAddr
        firstName lastName ↔
      ∃ position preimage, LeafAt hashed leaves position preimage ∧ preimage 0 = issuerAddr ∧
        ∃ middleName birthdate addressHash expirationDate,
          preimage 3 = lib.Poseidon ![lib.Poseidon ![firstName, middleName, lastName],
            birthdate, addressHash, expirationDate] := by
  have accepts (preimage : Fin 6 → Fr) (leaf : Fr) (path : Fin DEPTH → Fin 5 → Fr)
      (indices : Fin DEPTH → U32) (root : Fr) :
      (do guard (lib.Poseidon preimage = leaf)
          proveMembership lib root leaf path indices) = some () ↔
        lib.Poseidon preimage = leaf ∧ proveMembership lib root leaf path indices = some () := by
    simp [guard, Option.bind_eq_some_iff]
  constructor
  · rintro ⟨leaf, middleName, countryCode, birthdate, addressHash, expirationDate, iat, scope,
      secret, path, indices, knownLeaf, knownPath, proved⟩
    obtain ⟨rfl, member⟩ := (accepts _ _ _ _ _).mp proved
    obtain ⟨position, found⟩ :=
      (membership_iff_leaf hashed leaves rows).mp ⟨path, indices, knownPath, member⟩
    exact ⟨position, _, ⟨knownLeaf, found⟩, rfl, middleName, birthdate, addressHash,
      expirationDate, rfl⟩
  · rintro ⟨position, preimage, ⟨knownLeaf, found⟩, rfl, middleName, birthdate, addressHash,
      expirationDate, named⟩
    obtain ⟨path, indices, knownPath, member⟩ :=
      (membership_iff_leaf hashed leaves rows).mpr ⟨position, found⟩
    refine ⟨lib.Poseidon preimage, middleName, preimage 2, birthdate, addressHash,
      expirationDate, preimage 4, preimage 5, preimage 1, path, indices, ?_, knownPath, ?_⟩
    · rwa [← named, eta_six]
    · rw [GovIdFirstNameLastName.main, ← named, eta_six]
      exact (accepts _ _ _ _ _).mpr ⟨rfl, member⟩

end Tree

end LeafCircuits

end IdHub
