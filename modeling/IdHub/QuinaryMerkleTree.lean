import IdHub.MerkleProof
import IdHub.MerkleTrees
import Mathlib.Algebra.BigOperators.Fin

/-!
# Quinary Merkle proofs in circom and ZoKrates

For indices below five the selectors of `MerkleProof` pick the siblings they should, and
the circuit asks of its inputs what the loop of `quinaryMerkleProof.zok` asks: that the
siblings open the leaf.  So both prove the leaf of a tree at the position whose base-5
digits the indices are, and, short of a collision, no other value.
-/

namespace IdHub

open MerkleTrees

/-! `quinaryMerkleProof.zok`.  Its `hash` is the Poseidon function of circomlib. -/

namespace QuinaryMerkleProof

abbrev U32 : Type := BitVec 32

/-- `path[i][index]`, where an index that is out of bounds fails. -/
def select (array : Fin 5 → Fr) (index : U32) : Option Fr :=
  if inBounds : index.toNat < 5 then some (array ⟨index.toNat, inBounds⟩) else none

/-- One pass of the loop. -/
def climb (lib : Circomlib) {DEPTH : ℕ} (path : Fin DEPTH → Fin 5 → Fr)
    (indices : Fin DEPTH → U32) (digest : Fr) (i : Fin DEPTH) : Option Fr := do
  let selected ← select (path i) (indices i)
  guard (selected = digest)
  return lib.Poseidon (path i)

/-- No result means that an assertion fails. -/
def main (lib : Circomlib) {DEPTH : ℕ} (root leaf : Fr) (path : Fin DEPTH → Fin 5 → Fr)
    (indices : Fin DEPTH → U32) : Option Fr := do
  let digest ← (List.finRange DEPTH).foldlM (climb lib path indices) leaf
  guard (digest = root)
  return ((0 : ℕ) : Fr)

variable {lib : Circomlib}

theorem select_eq_some {array : Fin 5 → Fr} {index : Fin 5} {value : Fr} :
    select array (BitVec.ofNat 32 index.val) = some value ↔ array index = value := by
  have small : (BitVec.ofNat 32 index.val).toNat = index.val :=
    Nat.mod_eq_of_lt (by omega)
  simp [select, small, index.isLt]

theorem climbs_iff {DEPTH : ℕ} {root leaf : Fr} {path : Fin DEPTH → Fin 5 → Fr}
    {indices : Fin DEPTH → Fin 5} :
    (List.finRange DEPTH).foldlM
        (climb lib path fun i => BitVec.ofNat 32 (indices i).val) leaf = some root ↔
      Opens lib.Poseidon DEPTH root leaf path indices := by
  induction DEPTH generalizing leaf with
  | zero => simp [Opens]
  | succ DEPTH ih =>
      have first (digest : Fr) :
          climb lib path (fun i => BitVec.ofNat 32 (indices i).val) leaf 0 = some digest ↔
            path 0 (indices 0) = leaf ∧ lib.Poseidon (path 0) = digest := by
        simp [climb, select_eq_some, Option.bind_eq_some_iff, guard]
      rw [List.finRange_succ, List.foldlM_cons, Option.bind_eq_bind,
        Option.bind_eq_some_iff, opens_succ, ← ih]
      simp only [first, List.foldlM_map]
      constructor
      · rintro ⟨digest, ⟨selected, rfl⟩, above⟩
        exact ⟨selected, above⟩
      · rintro ⟨selected, above⟩
        exact ⟨_, ⟨selected, rfl⟩, above⟩

/-- The assertions pass exactly if the path opens the leaf. -/
theorem main_iff {DEPTH : ℕ} {root leaf : Fr} {path : Fin DEPTH → Fin 5 → Fr}
    {indices : Fin DEPTH → Fin 5} :
    (main lib root leaf path fun i => BitVec.ofNat 32 (indices i).val).isSome = true ↔
      Opens lib.Poseidon DEPTH root leaf path indices := by
  rw [← climbs_iff, main, Option.isSome_iff_exists]
  simp [Option.bind_eq_some_iff, guard]

end QuinaryMerkleProof

namespace MerkleProof

variable {lib : Circomlib}

/-- The circuit has a satisfying assignment with these inputs. -/
def Satisfiable (lib : Circomlib) {depth : ℕ} (root leaf : Fr)
    (siblings : Fin (depth + 1) → Fin 5 → Fr) (indices : Fin (depth + 1) → Fin 5) : Prop :=
  ∃ w : Signals (depth + 1), Satisfies lib w ∧ w.root = root ∧ w.leaf = leaf ∧
    w.siblings = siblings ∧ w.pathIndices = fun level => (((indices level).val : ℕ) : Fr)

/-- The leaves of a tree by their addresses.  A leaf's address is its position in base 5,
least significant digit first. -/
def addressed {depth : ℕ} (leaves : Fin (5 ^ depth) → Fr) (path : Fin depth → Fin 5) : Fr :=
  leaves (finFunctionFinEquiv path)

def treeRoot (lib : Circomlib) {depth : ℕ} (leaves : Fin (5 ^ depth) → Fr) : Fr :=
  root lib.Poseidon depth (addressed leaves)

def treeRows (lib : Circomlib) {depth : ℕ} (leaves : Fin (5 ^ depth) → Fr) :
    Set (Fin 5 → Fr) :=
  rows lib.Poseidon depth (addressed leaves)

/-- A selector picks the sibling at an index below five. -/
theorem quinSelector_index_iff (bits : lib.BitSpec) {input : Fin 5 → Fr} {index : Fin 5}
    {out : Fr} :
    QuinSelector lib input ((index.val : ℕ) : Fr) out ↔ input index = out := by
  rw [quinSelector_five_iff bits]
  constructor
  · rintro (⟨j, same, rfl⟩ | ⟨negative, -⟩)
    · rw [cast_fin_five_injective same]
    · obtain ⟨one, two, three⟩ := cast_fin_five_ne_neg index
      rcases negative with equal | equal | equal
      · exact absurd equal one
      · exact absurd equal two
      · exact absurd equal three
  · rintro rfl
    exact .inl ⟨index, rfl, rfl⟩

theorem satisfiable_iff_opens (bits : lib.BitSpec) {depth : ℕ} {root leaf : Fr}
    {siblings : Fin (depth + 1) → Fin 5 → Fr} {indices : Fin (depth + 1) → Fin 5} :
    Satisfiable lib root leaf siblings indices ↔
      Opens lib.Poseidon (depth + 1) root leaf siblings indices := by
  rw [opens_iff_acc]
  constructor
  · rintro ⟨w, satisfied, rfl, rfl, rfl, isIndex⟩
    refine ⟨w.acc, satisfied.acc_zero, ?_, ?_, satisfied.root⟩
    · intro level
      have selected := satisfied.s level
      rw [isIndex, quinSelector_index_iff bits] at selected
      exact selected.trans (satisfied.s_out level)
    · intro level
      exact (satisfied.acc_succ level).trans (satisfied.h level)
  · rintro ⟨acc, first, selects, climbs, last⟩
    let w : Signals (depth + 1) :=
      { root := root
        leaf := leaf
        siblings := siblings
        pathIndices := fun level => (((indices level).val : ℕ) : Fr)
        leafWasSupplied := leaf
        acc := acc
        s := fun level => acc level.castSucc
        h := fun level => lib.Poseidon (siblings level) }
    refine ⟨w, ?_, rfl, rfl, rfl, rfl⟩
    exact
      { leafWasSupplied := (quinSelector_index_iff bits).mpr ((selects 0).trans first)
        leafWasSupplied_out := rfl
        acc_zero := first
        s := fun level => (quinSelector_index_iff bits).mpr (selects level)
        s_out := fun _ => rfl
        h := fun _ => rfl
        acc_succ := climbs
        root := last }

/-- The circuit proves a value at the position that the indices spell exactly if it is
the leaf there, as long as Poseidon has no collision among the rows of the tree and the
siblings.  (Among all rows it has, since there are more of them than field elements.)
On any inputs it agrees with the ZoKrates program. -/
theorem satisfiable_iff_leaf (bits : lib.BitSpec) {depth : ℕ}
    (leaves : Fin (5 ^ (depth + 1)) → Fr)
    (collisionFree : Set.InjOn lib.Poseidon (treeRows lib leaves))
    (indices : Fin (depth + 1) → Fin 5) (v : Fr) :
    ((∃ siblings, Satisfiable lib (treeRoot lib leaves) v siblings indices ∧
        Set.InjOn lib.Poseidon (treeRows lib leaves ∪ Set.range siblings)) ↔
      v = leaves (finFunctionFinEquiv indices)) ∧
    ∀ root leaf siblings, Satisfiable lib root leaf siblings indices ↔
      (QuinaryMerkleProof.main lib root leaf siblings
        fun i => BitVec.ofNat 32 (indices i).val).isSome = true := by
  constructor
  · constructor
    · rintro ⟨siblings, satisfiable, free⟩
      exact leaf_of_opens ((satisfiable_iff_opens bits).mp satisfiable) free
    · rintro rfl
      refine ⟨rowsAlong lib.Poseidon (depth + 1) (addressed leaves) indices, ?_, ?_⟩
      · exact (satisfiable_iff_opens bits).mpr (opens_rowsAlong (addressed leaves) indices)
      · apply collisionFree.mono
        apply Set.union_subset Set.Subset.rfl
        rintro _ ⟨level, rfl⟩
        exact rowsAlong_mem (addressed leaves) indices level
  · intro root leaf siblings
    rw [satisfiable_iff_opens bits, QuinaryMerkleProof.main_iff]

section Sample

/-- Poseidon on the rows of the tree whose leaves are their positions. -/
def sampleTable : List (List ℕ × ℕ) :=
  [([0, 1, 2, 3, 4],
      1475992993236322576209363326357087103599755887159177217587002895783839174540),
    ([5, 6, 7, 8, 9],
      16804674084715200341675459471385213794286465035368122676458202619101086499523),
    ([10, 11, 12, 13, 14],
      21542621206950792733272221690420150159693351360979315416479027155855780506318),
    ([15, 16, 17, 18, 19],
      7279898326508365454231012926124839218493764766761266257812599961793992020822),
    ([20, 21, 22, 23, 24],
      4552522574830934518011766548504167999897557931074445769198175242418678141085),
    ([1475992993236322576209363326357087103599755887159177217587002895783839174540,
        16804674084715200341675459471385213794286465035368122676458202619101086499523,
        21542621206950792733272221690420150159693351360979315416479027155855780506318,
        7279898326508365454231012926124839218493764766761266257812599961793992020822,
        4552522574830934518011766548504167999897557931074445769198175242418678141085],
      17111846273912674913554277280537246328966358144804203375804371545976528792734)]

def tableLibrary : Circomlib := Circomlib.reference (Circomlib.poseidonTable sampleTable)

/-- A tree of two levels. -/
def sampleLeaves (position : Fin (5 ^ (1 + 1))) : Fr := ((position.val : ℕ) : Fr)

theorem sampleLeaves_rows :
    treeRows tableLibrary sampleLeaves ⊆
      {inputs | Circomlib.Listed sampleTable inputs} := by
  have first : ∀ path : Fin 1 → Fin 5,
      Circomlib.Listed sampleTable (row (addressed sampleLeaves) path) := by
    decide +kernel
  have second : ∀ path : Fin 0 → Fin 5, Circomlib.Listed sampleTable
      (row (parents tableLibrary.Poseidon (addressed sampleLeaves)) path) := by
    decide +kernel
  rintro _ (⟨path, rfl⟩ | ⟨path, rfl⟩ | none)
  · exact first path
  · exact second path
  · exact absurd none (Set.notMem_empty _)

/-- In the tree of the positions the indices `2` and `3` prove the leaf `17`. -/
theorem sampleLeaves_satisfiable :
    (∃ siblings, Satisfiable tableLibrary (treeRoot tableLibrary sampleLeaves) (17 : ℕ)
        siblings ![2, 3] ∧
      Set.InjOn tableLibrary.Poseidon
        (treeRows tableLibrary sampleLeaves ∪ Set.range siblings)) ∧
    ∀ root leaf siblings, Satisfiable tableLibrary root leaf siblings ![2, 3] ↔
      (QuinaryMerkleProof.main tableLibrary root leaf siblings
        fun i => BitVec.ofNat 32 ((![2, 3] : Fin 2 → Fin 5) i).val).isSome = true := by
  have different : Set.InjOn tableLibrary.Poseidon (treeRows tableLibrary sampleLeaves) :=
    (Circomlib.poseidonTable_injOn (by decide +kernel) (by decide +kernel)).mono
      sampleLeaves_rows
  have exact := satisfiable_iff_leaf (Circomlib.reference_bitSpec _) sampleLeaves different
    ![2, 3] (17 : ℕ)
  refine ⟨exact.1.mpr ?_, exact.2⟩
  decide +kernel

end Sample

end MerkleProof

end IdHub
