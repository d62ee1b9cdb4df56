import IdHub.LeafCircuits
import Mathlib.Order.CompletePartialOrder

/-!
# The nullifiers of a tree

The `hashbrowns` that all circuits together can show for a salt and an issuer are the
salted secrets of the issuer's leaves, one for each.  If leaves enter the tree by
`onAddLeaf.circom` only, what is shown has been signed by the issuer.
-/

namespace IdHub

open MerkleTrees

namespace LeafCircuits

variable {lib : Circomlib} {DEPTH : ℕ}

/-- What some circuit accepts for the salt and the issuer, from any sender. -/
def Nullifiers (hashed : Hashed lib) (DEPTH : ℕ) (root salt issuerAddr : Fr) : Set Fr :=
  {hashbrowns | ∃ msgSenderAddr,
    (∃ countryCode, ProofOfResidency.Accepted hashed DEPTH root msgSenderAddr issuerAddr salt
      hashbrowns countryCode) ∨
    (∃ specialty, MedicalSpecialty.Accepted hashed DEPTH root msgSenderAddr issuerAddr
      specialty salt hashbrowns) ∨
    SybilGovID.Accepted hashed DEPTH root msgSenderAddr issuerAddr salt hashbrowns ∨
    SybilPhone.Accepted hashed DEPTH root msgSenderAddr issuerAddr salt hashbrowns}

section Tree

variable (hashed : Hashed lib) (leaves : Fin (5 ^ DEPTH) → Fr)
  (rows : MerkleProof.treeRows lib leaves ⊆ hashed.inputs 5)

theorem secrets_le_positions (salt issuerAddr : Fr) :
    (Secrets hashed leaves salt issuerAddr).encard ≤
      (Positions hashed leaves issuerAddr).encard := by
  have located : ∀ secret ∈ Secrets hashed leaves salt issuerAddr, ∃ position,
      ∃ preimage, LeafAt hashed leaves position preimage ∧ preimage 0 = issuerAddr ∧
        preimage 1 = secret :=
    fun secret found => found.2
  choose! position preimage leafAt issuer isSecret using located
  refine Set.encard_le_encard_of_injOn (f := position) ?_ ?_
  · intro secret found
    exact ⟨preimage secret, leafAt secret found, issuer secret found⟩
  · intro first firstFound second secondFound samePosition
    have firstAt := leafAt first firstFound
    rw [samePosition] at firstAt
    have samePreimage := firstAt.unique (leafAt second secondFound)
    rw [← isSecret first firstFound, samePreimage, isSecret second secondFound]

include rows

/-- What each circuit accepts over a tree, from any sender: any leaf of the issuer, read in
the circuit's own layout. -/
theorem accepted_exact
    (msgSenderAddr issuerAddr salt hashbrowns field firstName lastName : Fr) :
    (ProofOfResidency.Accepted hashed DEPTH (MerkleProof.treeRoot lib leaves) msgSenderAddr
        issuerAddr salt hashbrowns field ↔
      ∃ position preimage, Publishes hashed leaves salt hashbrowns position preimage ∧
        preimage 0 = issuerAddr ∧ preimage 2 = field) ∧
    (MedicalSpecialty.Accepted hashed DEPTH (MerkleProof.treeRoot lib leaves) msgSenderAddr
        issuerAddr field salt hashbrowns ↔
      ProofOfResidency.Accepted hashed DEPTH (MerkleProof.treeRoot lib leaves) msgSenderAddr
        issuerAddr salt hashbrowns field) ∧
    (SybilGovID.Accepted hashed DEPTH (MerkleProof.treeRoot lib leaves) msgSenderAddr
        issuerAddr salt hashbrowns ↔
      ∃ countryCode, ProofOfResidency.Accepted hashed DEPTH (MerkleProof.treeRoot lib leaves)
        msgSenderAddr issuerAddr salt hashbrowns countryCode) ∧
    (SybilPhone.Accepted hashed DEPTH (MerkleProof.treeRoot lib leaves) msgSenderAddr
        issuerAddr salt hashbrowns ↔
      ∃ position preimage, Publishes hashed leaves salt hashbrowns position preimage ∧
        preimage 0 = issuerAddr ∧ preimage 3 = 0) ∧
    (GovIdFirstNameLastName.Accepted hashed DEPTH (MerkleProof.treeRoot lib leaves) issuerAddr
        firstName lastName ↔
      ∃ position preimage, LeafAt hashed leaves position preimage ∧ preimage 0 = issuerAddr ∧
        ∃ middleName birthdate addressHash expirationDate,
          preimage 3 = lib.Poseidon ![lib.Poseidon ![firstName, middleName, lastName],
            birthdate, addressHash, expirationDate]) ∧
    (KnowledgeOfLeafPreimage.Accepted hashed DEPTH (MerkleProof.treeRoot lib leaves) ↔
      ∃ position preimage, LeafAt hashed leaves position preimage) := by
  refine ⟨residency_iff hashed leaves rows, ?_, ?_, sybilPhone_iff hashed leaves rows,
    names_iff hashed leaves rows, knowledge_iff hashed leaves rows⟩
  · rw [medicalSpecialty_iff hashed leaves rows, residency_iff hashed leaves rows]
  · rw [sybilGovID_iff hashed leaves rows]
    constructor
    · rintro ⟨position, preimage, published, issuer⟩
      exact ⟨preimage 2, (residency_iff hashed leaves rows).mpr
        ⟨position, preimage, published, issuer, rfl⟩⟩
    · rintro ⟨countryCode, accepted⟩
      obtain ⟨position, preimage, published, issuer, -⟩ :=
        (residency_iff hashed leaves rows).mp accepted
      exact ⟨position, preimage, published, issuer⟩

theorem mem_nullifiers {salt issuerAddr hashbrowns : Fr} :
    hashbrowns ∈ Nullifiers hashed DEPTH (MerkleProof.treeRoot lib leaves) salt issuerAddr ↔
      ∃ position preimage, Publishes hashed leaves salt hashbrowns position preimage ∧
        preimage 0 = issuerAddr := by
  constructor
  · rintro ⟨msgSenderAddr, ⟨countryCode, accepted⟩ | ⟨specialty, accepted⟩ | accepted | accepted⟩
    · obtain ⟨position, preimage, published, issuer, -⟩ :=
        (residency_iff hashed leaves rows).mp accepted
      exact ⟨position, preimage, published, issuer⟩
    · obtain ⟨position, preimage, published, issuer, -⟩ :=
        (medicalSpecialty_iff hashed leaves rows).mp accepted
      exact ⟨position, preimage, published, issuer⟩
    · exact (sybilGovID_iff hashed leaves rows).mp accepted
    · obtain ⟨position, preimage, published, issuer, -⟩ :=
        (sybilPhone_iff hashed leaves rows).mp accepted
      exact ⟨position, preimage, published, issuer⟩
  · intro published
    exact ⟨0, .inr (.inr (.inl ((sybilGovID_iff hashed leaves rows).mpr published)))⟩

theorem nullifiers_eq_image (salt issuerAddr : Fr) :
    Nullifiers hashed DEPTH (MerkleProof.treeRoot lib leaves) salt issuerAddr =
      (fun secret => lib.Poseidon ![salt, secret]) ''
        Secrets hashed leaves salt issuerAddr := by
  ext hashbrowns
  rw [mem_nullifiers hashed leaves rows]
  constructor
  · rintro ⟨position, preimage, ⟨leafAt, known, salted⟩, issuer⟩
    exact ⟨preimage 1, ⟨known, position, preimage, leafAt, issuer, rfl⟩, salted⟩
  · rintro ⟨_, ⟨known, position, preimage, leafAt, issuer, rfl⟩, salted⟩
    exact ⟨position, preimage, ⟨leafAt, known, salted⟩, issuer⟩

/-- For a salt an issuer's leaves have as many nullifiers as secrets, no more than there
are leaves, and for another salt they have others. -/
theorem nullifiers_count (salt issuerAddr : Fr) :
    (Nullifiers hashed DEPTH (MerkleProof.treeRoot lib leaves) salt issuerAddr).encard =
        (Secrets hashed leaves salt issuerAddr).encard ∧
      (Nullifiers hashed DEPTH (MerkleProof.treeRoot lib leaves) salt issuerAddr).encard ≤
        (Positions hashed leaves issuerAddr).encard ∧
      ∀ otherSalt otherIssuer, otherSalt ≠ salt →
        Disjoint (Nullifiers hashed DEPTH (MerkleProof.treeRoot lib leaves) salt issuerAddr)
          (Nullifiers hashed DEPTH (MerkleProof.treeRoot lib leaves) otherSalt otherIssuer) := by
  have counted : (Nullifiers hashed DEPTH (MerkleProof.treeRoot lib leaves) salt
      issuerAddr).encard = (Secrets hashed leaves salt issuerAddr).encard := by
    rw [nullifiers_eq_image hashed leaves rows]
    apply Set.InjOn.encard_image
    intro first firstFound second secondFound same
    exact congrFun (hashed.injOn 2 firstFound.1 secondFound.1 same) 1
  refine ⟨counted, counted.le.trans (secrets_le_positions hashed leaves salt issuerAddr), ?_⟩
  intro otherSalt otherIssuer different
  rw [nullifiers_eq_image hashed leaves rows, nullifiers_eq_image hashed leaves rows,
    Set.disjoint_left]
  rintro _ ⟨first, firstFound, rfl⟩ ⟨second, secondFound, same⟩
  exact different (congrFun (hashed.injOn 2 secondFound.1 firstFound.1 same) 0)

end Tree

/-- Every leaf with a known preimage has been added with a proof of `onAddLeaf.circom`. -/
def AddedByProof (hashed : Hashed lib) (leaves : Fin (5 ^ DEPTH) → Fr) : Prop :=
  ∀ position preimage, LeafAt hashed leaves position preimage →
    ∃ w : OAL.Signals, OAL.Satisfies lib w ∧ w.newLeaf = leaves position ∧
      w.preimage w.newLeafSecret ∈ hashed.inputs 6

theorem signed_of_leafAt {hashed : Hashed lib} {leaves : Fin (5 ^ DEPTH) → Fr}
    (added : AddedByProof hashed leaves) {position : Fin (5 ^ DEPTH)} {preimage : Fin 6 → Fr}
    (leafAt : LeafAt hashed leaves position preimage) :
    ∃ (pubKey : Fr × Fr) (signedSecret : Fr), preimage 0 = lib.Poseidon ![pubKey.1, pubKey.2] ∧
      SignedBy lib pubKey (lib.Poseidon ![preimage 0, signedSecret, preimage 2, preimage 3,
        preimage 4, preimage 5]) := by
  obtain ⟨w, satisfied, newLeaf, known⟩ := added position preimage leafAt
  have addedAt : LeafAt hashed leaves position (w.preimage w.newLeafSecret) :=
    ⟨known, satisfied.newLeaf_eq.symm.trans newLeaf⟩
  obtain rfl := leafAt.unique addedAt
  refine ⟨(w.pubKeyX, w.pubKeyY), w.signedLeafSecret, satisfied.addressFromPubKey, ?_⟩
  have signed := satisfied.signedBy
  rw [satisfied.signedLeaf_eq] at signed
  exact signed

/-- Over a tree of added leaves the named issuer has signed what a proof shows. -/
theorem shown_is_signed (hashed : Hashed lib) (leaves : Fin (5 ^ DEPTH) → Fr)
    (rows : MerkleProof.treeRows lib leaves ⊆ hashed.inputs 5)
    (added : AddedByProof hashed leaves) (issuerAddr : Fr) :
    (∀ msgSenderAddr salt hashbrowns countryCode,
      ProofOfResidency.Accepted hashed DEPTH (MerkleProof.treeRoot lib leaves) msgSenderAddr
          issuerAddr salt hashbrowns countryCode →
        ∃ (pubKey : Fr × Fr) (secret subdivision completedAt scope : Fr),
          issuerAddr = lib.Poseidon ![pubKey.1, pubKey.2] ∧
          SignedBy lib pubKey (lib.Poseidon
            ![issuerAddr, secret, countryCode, subdivision, completedAt, scope])) ∧
    (∀ msgSenderAddr salt hashbrowns,
      SybilPhone.Accepted hashed DEPTH (MerkleProof.treeRoot lib leaves) msgSenderAddr
          issuerAddr salt hashbrowns →
        ∃ (pubKey : Fr × Fr) (secret phoneNumber issuedAt scope : Fr),
          issuerAddr = lib.Poseidon ![pubKey.1, pubKey.2] ∧
          SignedBy lib pubKey (lib.Poseidon
            ![issuerAddr, secret, phoneNumber, 0, issuedAt, scope])) ∧
    (∀ firstName lastName,
      GovIdFirstNameLastName.Accepted hashed DEPTH (MerkleProof.treeRoot lib leaves) issuerAddr
          firstName lastName →
        ∃ (pubKey : Fr × Fr) (secret countryCode middleName birthdate addressHash
            expirationDate iat scope : Fr),
          issuerAddr = lib.Poseidon ![pubKey.1, pubKey.2] ∧
          SignedBy lib pubKey (lib.Poseidon ![issuerAddr, secret, countryCode,
            lib.Poseidon ![lib.Poseidon ![firstName, middleName, lastName], birthdate,
              addressHash, expirationDate], iat, scope])) := by
  refine ⟨?_, ?_, ?_⟩
  · intro msgSenderAddr salt hashbrowns countryCode accepted
    obtain ⟨position, preimage, ⟨leafAt, -⟩, rfl, rfl⟩ :=
      (residency_iff hashed leaves rows).mp accepted
    obtain ⟨pubKey, secret, address, signed⟩ := signed_of_leafAt added leafAt
    exact ⟨pubKey, secret, _, _, _, address, signed⟩
  · intro msgSenderAddr salt hashbrowns accepted
    obtain ⟨position, preimage, ⟨leafAt, -⟩, rfl, noField⟩ :=
      (sybilPhone_iff hashed leaves rows).mp accepted
    obtain ⟨pubKey, secret, address, signed⟩ := signed_of_leafAt added leafAt
    rw [noField] at signed
    exact ⟨pubKey, secret, _, _, _, address, signed⟩
  · intro firstName lastName accepted
    obtain ⟨position, preimage, leafAt, rfl, middleName, birthdate, addressHash,
      expirationDate, named⟩ := (names_iff hashed leaves rows).mp accepted
    obtain ⟨pubKey, secret, address, signed⟩ := signed_of_leafAt added leafAt
    rw [named] at signed
    exact ⟨pubKey, secret, _, middleName, birthdate, addressHash, expirationDate, _, _, address,
      signed⟩

/-- Once a leaf that `leaves.js` has made from a signed one is in the tree, its holder can
add it and is accepted by the circuits, with the secret that was swapped in. -/
theorem holder_accepted (hashed : Hashed lib) (leaves : Fin (5 ^ DEPTH) → Fr)
    (rows : MerkleProof.treeRows lib leaves ⊆ hashed.inputs 5)
    {inputs : LeafMaker.Inputs} {leaf : LeafMaker.Leaf} {newSecret salt : Fr}
    {swapped : LeafMaker.Swapped} {pubKey : Fr × Fr} {position : Fin (5 ^ DEPTH)}
    (created : LeafMaker.createLeaf lib inputs = some leaf)
    (address : inputs.addr = lib.Poseidon ![pubKey.1, pubKey.2])
    (signed : SignedBy lib pubKey leaf.digest)
    (swaps : LeafMaker.swapSecret lib leaf newSecret = some swapped)
    (stored : leaves position = swapped.newLeaf.digest)
    (knownLeaf : swapped.newLeaf.preimage ∈ hashed.inputs 6)
    (knownSalted : ![salt, newSecret] ∈ hashed.inputs 2) (msgSenderAddr : Fr) :
    (∃ w : OAL.Signals, OAL.Satisfies lib w ∧ w.signedLeaf = leaf.digest ∧
        w.newLeaf = leaves position) ∧
      ∃ first second, inputs.customFields = [first, second] ∧
        ProofOfResidency.Accepted hashed DEPTH (MerkleProof.treeRoot lib leaves) msgSenderAddr
          inputs.addr salt (lib.Poseidon ![salt, newSecret]) first := by
  obtain ⟨original, -, newDigest, first, second, fields, -, newPreimage⟩ :=
    LeafMaker.swapSecret_spec created swaps
  constructor
  · obtain ⟨w, satisfied, signedLeaf, newLeaf, -⟩ :=
      OAL.exists_of_signed created swaps address signed
    rw [original] at signedLeaf
    exact ⟨w, satisfied, signedLeaf, newLeaf.trans stored.symm⟩
  · rw [newPreimage] at knownLeaf newDigest
    refine ⟨first, second, fields, (residency_iff hashed leaves rows).mpr ?_⟩
    exact ⟨position, ![inputs.addr, newSecret, first, second, inputs.iat, inputs.scope],
      ⟨⟨knownLeaf, newDigest.symm.trans stored.symm⟩, knownSalted, rfl⟩, rfl, rfl⟩

section Sample

open OAL

def sampleHashed : Hashed (Circomlib.reference samplePoseidon) :=
  Hashed.ofTable sampleTable (by decide +kernel) (by decide +kernel)

def sampleNewLeaf : Fr := (sampleProof (321 : ℕ)).newLeaf

/-- A tree of one level with two leaves, of different secrets. -/
def sampleLeaves : Fin (5 ^ 1) → Fr :=
  ![sampleNewLeaf, (sampleProof (322 : ℕ)).newLeaf, 0, 0, 0]

/-- What the sample table lists has been hashed. -/
theorem sampleHashed_of_listed {n : ℕ} {inputs : Fin n → Fr}
    (listed : Circomlib.Listed sampleTable inputs) : inputs ∈ sampleHashed.inputs n :=
  listed

theorem sampleLeaves_rows :
    MerkleProof.treeRows (Circomlib.reference samplePoseidon) sampleLeaves ⊆
      sampleHashed.inputs 5 := by
  rintro _ (⟨path, rfl⟩ | none)
  · have sampleRow : row (MerkleProof.addressed sampleLeaves) path = sampleLeaves := by
      funext branch
      rw [row, MerkleProof.addressed]
      congr 1
      apply Fin.ext
      rw [finFunctionFinEquiv_apply]
      simp
    rw [sampleRow]
    exact sampleHashed_of_listed (by decide +kernel)
  · exact absurd none (Set.notMem_empty _)

theorem sampleLeaves_leafAt :
    LeafAt sampleHashed sampleLeaves 0 ((sampleProof (321 : ℕ)).preimage (321 : ℕ)) :=
  ⟨sampleHashed_of_listed (by decide +kernel), rfl⟩

theorem sampleLeaves_added : AddedByProof sampleHashed sampleLeaves := by
  rintro position preimage ⟨known, found⟩
  obtain ⟨value, entry, valued⟩ := Circomlib.Listed.exists_entry known
  have nonzero : ∀ listed ∈ sampleTable, ((listed.2 : ℕ) : Fr) ≠ 0 := by decide +kernel
  have occupied : sampleLeaves position ≠ 0 := by
    rw [← found]
    exact fun zero => nonzero _ entry (valued.symm.trans zero)
  have added : ∀ newSecret : Fr, sampleLeaves position = (sampleProof newSecret).newLeaf →
      (sampleProof newSecret).preimage newSecret ∈ sampleHashed.inputs 6 →
      ∃ w : Signals, Satisfies (Circomlib.reference samplePoseidon) w ∧
        w.newLeaf = sampleLeaves position ∧ w.preimage w.newLeafSecret ∈ sampleHashed.inputs 6 :=
    fun newSecret isLeaf hashed =>
      ⟨sampleProof newSecret, satisfies_sampleProof _, isLeaf.symm, hashed⟩
  fin_cases position
  · exact added (321 : ℕ) rfl sampleLeaves_leafAt.1
  · exact added (322 : ℕ) rfl (sampleHashed_of_listed (by decide +kernel))
  all_goals exact absurd rfl occupied

def sampleRoot : Fr := MerkleProof.treeRoot (Circomlib.reference samplePoseidon) sampleLeaves

def sampleNullifier : Fr := samplePoseidon ![((9 : ℕ) : Fr), ((321 : ℕ) : Fr)]

theorem sampleLeaves_publishes :
    Publishes sampleHashed sampleLeaves (9 : ℕ) sampleNullifier 0
      ((sampleProof (321 : ℕ)).preimage (321 : ℕ)) :=
  ⟨sampleLeaves_leafAt, sampleHashed_of_listed (by decide +kernel), rfl⟩

/-- The holder of the leaf shows the country `4`, and the medical specialty `4`. -/
theorem sampleLeaves_accepted :
    ProofOfResidency.Accepted sampleHashed 1 sampleRoot (7 : ℕ) sampleInputs.addr (9 : ℕ)
        sampleNullifier (4 : ℕ) ∧
      MedicalSpecialty.Accepted sampleHashed 1 sampleRoot (7 : ℕ) sampleInputs.addr (4 : ℕ)
        (9 : ℕ) sampleNullifier := by
  obtain ⟨residency, medical, -⟩ := accepted_exact sampleHashed sampleLeaves sampleLeaves_rows
    (7 : ℕ) sampleInputs.addr (9 : ℕ) sampleNullifier (4 : ℕ) 0 0
  have accepted := residency.mpr ⟨0, _, sampleLeaves_publishes, rfl, rfl⟩
  exact ⟨accepted, medical.mpr accepted⟩

theorem sampleLeaves_secrets :
    Secrets sampleHashed sampleLeaves (9 : ℕ) sampleInputs.addr =
      {((321 : ℕ) : Fr), ((322 : ℕ) : Fr)} := by
  have salted : ∀ entry ∈ sampleTable, ∀ secret ∈ entry.1[1]?,
      entry.1 = [9, secret] → secret = 321 ∨ secret = 322 := by
    decide +kernel
  apply Set.Subset.antisymm
  · rintro secret ⟨known, -⟩
    obtain ⟨value, entry, -⟩ := Circomlib.Listed.exists_entry known
    have isSecret := salted _ entry secret.val rfl (by simp [List.ofFn_succ]; decide +kernel)
    rcases isSecret with first | second
    · left
      rw [← first, ZMod.natCast_zmod_val]
    · right
      rw [Set.mem_singleton_iff, ← second, ZMod.natCast_zmod_val]
  · rintro secret (rfl | rfl)
    · exact ⟨sampleHashed_of_listed (by decide +kernel), 0, _, sampleLeaves_leafAt, rfl, rfl⟩
    · exact ⟨sampleHashed_of_listed (by decide +kernel), 1,
        (sampleProof (322 : ℕ)).preimage (322 : ℕ),
        ⟨sampleHashed_of_listed (by decide +kernel), rfl⟩, rfl, rfl⟩

/-- The two leaves have two nullifiers for the salt `9`, and others for other salts. -/
theorem sampleLeaves_count :
    (Nullifiers sampleHashed 1 sampleRoot (9 : ℕ) sampleInputs.addr).encard = 2 ∧
      2 ≤ (Positions sampleHashed sampleLeaves sampleInputs.addr).encard ∧
      ∀ otherSalt otherIssuer, otherSalt ≠ ((9 : ℕ) : Fr) →
        Disjoint (Nullifiers sampleHashed 1 sampleRoot (9 : ℕ) sampleInputs.addr)
          (Nullifiers sampleHashed 1 sampleRoot otherSalt otherIssuer) := by
  obtain ⟨counted, bounded, disjoint⟩ :=
    nullifiers_count sampleHashed sampleLeaves sampleLeaves_rows (9 : ℕ) sampleInputs.addr
  have different : ((321 : ℕ) : Fr) ≠ ((322 : ℕ) : Fr) := by decide +kernel
  rw [sampleLeaves_secrets, Set.encard_pair different] at counted
  exact ⟨counted, counted ▸ bounded, disjoint⟩

/-- The country that the holder of the leaf shows has been signed. -/
theorem sampleLeaves_signed :
    ∃ (pubKey : Fr × Fr) (secret subdivision completedAt scope : Fr),
      sampleInputs.addr = samplePoseidon ![pubKey.1, pubKey.2] ∧
      SignedBy (Circomlib.reference samplePoseidon) pubKey (samplePoseidon
        ![sampleInputs.addr, secret, (4 : ℕ), subdivision, completedAt, scope]) := by
  have accepted : ProofOfResidency.Accepted sampleHashed 1 sampleRoot (7 : ℕ)
      sampleInputs.addr (9 : ℕ) sampleNullifier (4 : ℕ) :=
    (residency_iff sampleHashed sampleLeaves sampleLeaves_rows).mpr
      ⟨0, _, sampleLeaves_publishes, rfl, rfl⟩
  exact (shown_is_signed sampleHashed sampleLeaves sampleLeaves_rows sampleLeaves_added
    sampleInputs.addr).1 _ _ _ _ accepted

/-- The whole way of the sample credential, from its issuer to its proof. -/
theorem sampleHolder_accepted :
    (∃ w : Signals, Satisfies (Circomlib.reference samplePoseidon) w ∧
        w.signedLeaf = sampleLeaf.digest ∧ w.newLeaf = sampleNewLeaf) ∧
      ∃ first second, sampleInputs.customFields = [first, second] ∧
        ProofOfResidency.Accepted sampleHashed 1 sampleRoot (7 : ℕ) sampleInputs.addr (9 : ℕ)
          sampleNullifier first := by
  have created : LeafMaker.createLeaf (Circomlib.reference samplePoseidon) sampleInputs =
      some sampleLeaf := rfl
  have swaps : LeafMaker.swapSecret (Circomlib.reference samplePoseidon) sampleLeaf (321 : ℕ) =
      some _ := rfl
  have signed : SignedBy (Circomlib.reference samplePoseidon) BASE8.coords sampleLeaf.digest :=
    ⟨0, 1, _, sampleResponse_verifies sampleLeaf.digest⟩
  have stored : sampleLeaves 0 = sampleNewLeaf := rfl
  exact holder_accepted sampleHashed sampleLeaves sampleLeaves_rows created rfl signed swaps
    stored sampleLeaves_leafAt.1 sampleLeaves_publishes.2.1 (7 : ℕ)

end Sample

end LeafCircuits

end IdHub
