import Mathlib.Data.Fin.VecNotation
import Mathlib.Data.Set.Function

/-!
# Merkle trees of any arity

The leaves of a perfect tree are addressed by the branches that lead to them, from the
leaf upwards.  A node of a level is the hash of its row, the vector of its children.  An
opening climbs from a leaf to the root by one row a level; the rows of the tree open
every leaf, and an opening to the root whose rows do not collide with those of the tree
is made of them.
-/

namespace MerkleTrees

variable {Branch Digest : Type*}

/-- The row of the leaves that share all branches but the first. -/
def row {depth : ℕ} (leaves : (Fin (depth + 1) → Branch) → Digest) (path : Fin depth → Branch) :
    Branch → Digest :=
  fun branch => leaves (Fin.cons branch path)

/-- The level above the leaves. -/
def parents (hash : (Branch → Digest) → Digest) {depth : ℕ}
    (leaves : (Fin (depth + 1) → Branch) → Digest) : (Fin depth → Branch) → Digest :=
  fun path => hash (row leaves path)

def root (hash : (Branch → Digest) → Digest) :
    (depth : ℕ) → ((Fin depth → Branch) → Digest) → Digest
  | 0, leaves => leaves Fin.elim0
  | depth + 1, leaves => root hash depth (parents hash leaves)

/-- Every row of the tree. -/
def rows (hash : (Branch → Digest) → Digest) :
    (depth : ℕ) → ((Fin depth → Branch) → Digest) → Set (Branch → Digest)
  | 0, _ => ∅
  | depth + 1, leaves => Set.range (row leaves) ∪ rows hash depth (parents hash leaves)

/-- The rows along a path. -/
def rowsAlong (hash : (Branch → Digest) → Digest) :
    (depth : ℕ) → ((Fin depth → Branch) → Digest) → (Fin depth → Branch) →
      Fin depth → Branch → Digest
  | 0, _, _ => Fin.elim0
  | depth + 1, leaves, path =>
    Fin.cons (row leaves (Fin.tail path))
      (rowsAlong hash depth (parents hash leaves) (Fin.tail path))

/-- The siblings lead from the digest to the root along the path. -/
def Opens (hash : (Branch → Digest) → Digest) :
    (depth : ℕ) → (root digest : Digest) → (siblings : Fin depth → Branch → Digest) →
      (path : Fin depth → Branch) → Prop
  | 0, root, digest, _, _ => digest = root
  | depth + 1, root, digest, siblings, path =>
    Matrix.vecHead siblings (Matrix.vecHead path) = digest ∧
      Opens hash depth root (hash (Matrix.vecHead siblings)) (Fin.tail siblings) (Fin.tail path)

variable {hash : (Branch → Digest) → Digest}

theorem opens_succ {depth : ℕ} {rootDigest digest : Digest}
    {siblings : Fin (depth + 1) → Branch → Digest} {path : Fin (depth + 1) → Branch} :
    Opens hash (depth + 1) rootDigest digest siblings path ↔
      siblings 0 (path 0) = digest ∧
        Opens hash depth rootDigest (hash (siblings 0)) (Fin.tail siblings) (Fin.tail path) :=
  Iff.rfl

theorem row_apply {depth : ℕ} (leaves : (Fin (depth + 1) → Branch) → Digest)
    (path : Fin (depth + 1) → Branch) : row leaves (Fin.tail path) (path 0) = leaves path := by
  rw [row, Fin.cons_self_tail]

theorem rowsAlong_mem {depth : ℕ} (leaves : (Fin depth → Branch) → Digest)
    (path : Fin depth → Branch) (level : Fin depth) :
    rowsAlong hash depth leaves path level ∈ rows hash depth leaves := by
  induction depth with
  | zero => exact level.elim0
  | succ depth ih =>
      cases level using Fin.cases with
      | zero => exact .inl ⟨Fin.tail path, rfl⟩
      | succ level => exact .inr (ih (parents hash leaves) (Fin.tail path) level)

/-- The rows of the tree open every leaf. -/
theorem opens_rowsAlong {depth : ℕ} (leaves : (Fin depth → Branch) → Digest)
    (path : Fin depth → Branch) :
    Opens hash depth (root hash depth leaves) (leaves path) (rowsAlong hash depth leaves path)
      path := by
  induction depth with
  | zero =>
      rw [Opens, root]
      exact congrArg leaves (funext fun level => level.elim0)
  | succ depth ih =>
      constructor
      · exact row_apply leaves path
      · exact ih (parents hash leaves) (Fin.tail path)

/-- An opening to the root whose rows do not collide with those of the tree opens the
leaf that the path leads to. -/
theorem leaf_of_opens {depth : ℕ} {leaves : (Fin depth → Branch) → Digest} {digest : Digest}
    {siblings : Fin depth → Branch → Digest} {path : Fin depth → Branch}
    (opens : Opens hash depth (root hash depth leaves) digest siblings path)
    (collisionFree : Set.InjOn hash (rows hash depth leaves ∪ Set.range siblings)) :
    digest = leaves path := by
  induction depth generalizing digest with
  | zero =>
      rw [opens, root]
      exact congrArg leaves (funext fun level => level.elim0)
  | succ depth ih =>
      obtain ⟨selected, above⟩ := opens_succ.mp opens
      have upper : rows hash depth (parents hash leaves) ∪ Set.range (Fin.tail siblings) ⊆
          rows hash (depth + 1) leaves ∪ Set.range siblings := by
        apply Set.union_subset_union Set.subset_union_right
        rintro _ ⟨level, rfl⟩
        exact ⟨level.succ, rfl⟩
      have parent : hash (siblings 0) = hash (row leaves (Fin.tail path)) :=
        ih above (collisionFree.mono upper)
      have sameRow : siblings 0 = row leaves (Fin.tail path) :=
        collisionFree (.inr ⟨0, rfl⟩) (.inl (.inl ⟨Fin.tail path, rfl⟩)) parent
      rw [← selected, sameRow, row_apply]

/-- An opening as a vector of accumulators. -/
theorem opens_iff_acc {depth : ℕ} {digest rootDigest : Digest}
    {siblings : Fin depth → Branch → Digest} {path : Fin depth → Branch} :
    Opens hash depth rootDigest digest siblings path ↔
      ∃ acc : Fin (depth + 1) → Digest, acc 0 = digest ∧
        (∀ level : Fin depth, siblings level (path level) = acc level.castSucc) ∧
        (∀ level : Fin depth, acc level.succ = hash (siblings level)) ∧
        rootDigest = acc (Fin.last depth) := by
  induction depth generalizing digest with
  | zero =>
      constructor
      · intro equal
        exact ⟨fun _ => digest, rfl, fun level => level.elim0, fun level => level.elim0,
          equal.symm⟩
      · rintro ⟨acc, rfl, -, -, rfl⟩
        rfl
  | succ depth ih =>
      rw [opens_succ, ih]
      constructor
      · rintro ⟨selected, acc, first, selects, climbs, last⟩
        refine ⟨Fin.cons digest acc, rfl, ?_, ?_, last⟩
        · intro level
          cases level using Fin.cases with
          | zero => exact selected
          | succ level => exact selects level
        · intro level
          cases level using Fin.cases with
          | zero => exact first
          | succ level => exact climbs level
      · rintro ⟨acc, rfl, selects, climbs, last⟩
        refine ⟨selects 0, Fin.tail acc, climbs 0, ?_, ?_, last⟩
        · exact fun level => selects level.succ
        · exact fun level => climbs level.succ

end MerkleTrees
