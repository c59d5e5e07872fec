import Mathlib.Data.List.Basic
import Mathlib.Data.List.Flatten
import Mathlib.Algebra.Group.Nat.Even
import Mathlib.Tactic.Ring

/-!
# Trees from leaves in depth-first order

A builder receives the nodes of a binary tree from left to right, each with its depth.  It keeps
one node for every level that waits for a right sibling, and combines two nodes as soon as both
are there.  When the nodes are the leaves of a tree, every insertion succeeds and the builder ends
with the combined value of the root.

Nodes that carry a hash and the paths of the leaves below them are combined so that every path
leads from its leaf to the hash.
-/

namespace DepthTree

open List

universe u v

/-- Binary trees with values at their leaves. -/
inductive Tree (Node : Type u) where
  | leaf (value : Node)
  | branch (left right : Tree Node)

namespace Tree

variable {Node : Type u}

/-- The depth of the deepest leaf. -/
def height : Tree Node → Nat
  | leaf _ => 0
  | branch left right => max left.height right.height + 1

/-- The leaves from left to right with their depths, when the root is at the given depth. -/
def entries : Tree Node → Nat → List (Nat × Node)
  | leaf value, depth => [(depth, value)]
  | branch left right, depth => left.entries (depth + 1) ++ right.entries (depth + 1)

/-- The value of the root; of two children the later one is given first. -/
def fold (combine : Node → Node → Node) : Tree Node → Node
  | leaf value => value
  | branch left right => combine (right.fold combine) (left.fold combine)

end Tree

/-! ## The builder -/

section Builder

variable {Node : Type u} (combine : Node → Node → Node)

/-- Place a node at a depth.  The open levels are listed with the deepest one first; a level
without a node waits for its left child.  A node at the root cannot be combined further. -/
def place : List (Option Node) → Nat → Node → Option (List (Option Node))
  | [], depth, node => some (some node :: replicate depth none)
  | top :: levels, depth, node =>
    if levels.length = depth then
      match top with
      | none => some (some node :: levels)
      | some sibling => if depth = 0 then none else place levels (depth - 1) (combine node sibling)
    else
      some (some node :: (replicate (depth - (levels.length + 1)) none ++ top :: levels))

/-- Insert a node with its depth.  Nodes that are too deep or not in depth-first order are
refused. -/
def insert (maxDepth : Nat) (levels : List (Option Node)) (entry : Nat × Node) :
    Option (List (Option Node)) :=
  if maxDepth < entry.1 ∨ entry.1 + 1 < levels.length then none
  else place combine levels entry.1 entry.2

/-- The root of a finished builder; there is none if nothing was inserted. -/
def finish : List (Option Node) → Option (Option Node)
  | [] => some none
  | [some node] => some (some node)
  | _ => none

/-- Insert all nodes and finish. -/
def build (maxDepth : Nat) (entries : List (Nat × Node)) : Option (Option Node) :=
  (entries.foldlM (insert combine maxDepth) []).bind finish

variable {combine}

theorem place_of_length_le {levels : List (Option Node)} {depth : Nat}
    (fits : levels.length ≤ depth) (node : Node) :
    place combine levels depth node =
      some (some node :: (replicate (depth - levels.length) none ++ levels)) := by
  cases levels with
  | nil => simp [place]
  | cons top levels =>
    rw [length_cons] at fits
    unfold place
    rw [if_neg (by omega), length_cons]

theorem place_replicate {levels : List (Option Node)} {depth : Nat}
    (fits : levels.length ≤ depth + 1) (node : Node) :
    place combine (replicate (depth + 1 - levels.length) none ++ levels) depth node =
      place combine levels depth node := by
  rcases Nat.lt_or_eq_of_le fits with small | full
  · have count : depth + 1 - levels.length = (depth - levels.length) + 1 := by omega
    have total : (replicate (depth - levels.length) none ++ levels).length = depth := by
      rw [length_append, length_replicate]
      omega
    rw [count, replicate_succ, cons_append, place, if_pos total, place_of_length_le (by omega)]
  · rw [full, Nat.sub_self, replicate_zero, nil_append]

/-- A right sibling is combined with the node that was placed before it. -/
theorem place_sibling {levels : List (Option Node)} {depth : Nat}
    (fits : levels.length ≤ depth + 1) (left right : Node) :
    (place combine levels (depth + 1) left).bind
        (fun placed => place combine placed (depth + 1) right) =
      place combine levels depth (combine right left) := by
  have total : (replicate (depth + 1 - levels.length) none ++ levels).length = depth + 1 := by
    rw [length_append, length_replicate]
    omega
  rw [place_of_length_le fits, Option.bind_some, place, if_pos total]
  exact place_replicate fits _

/-- Inserting the leaves of a tree places its root. -/
theorem foldlM_entries {maxDepth : Nat} (tree : Tree Node) {levels : List (Option Node)}
    {depth : Nat} (fits : levels.length ≤ depth + 1) (deep : depth + tree.height ≤ maxDepth) :
    (tree.entries depth).foldlM (insert combine maxDepth) levels =
      place combine levels depth (tree.fold combine) := by
  induction tree generalizing levels depth with
  | leaf value =>
    rw [Tree.height] at deep
    have accepted : ¬(maxDepth < depth ∨ depth + 1 < levels.length) := by omega
    simp only [Tree.entries, Tree.fold, foldlM_cons, foldlM_nil, insert, accepted, if_false]
    exact bind_pure _
  | branch left right leftIH rightIH =>
    rw [Tree.height] at deep
    rw [Tree.entries, foldlM_append, leftIH (by omega) (by omega), Tree.fold, ← place_sibling fits]
    rw [place_of_length_le fits]
    refine rightIH ?_ (by omega)
    simp only [length_cons, length_append, length_replicate]
    omega

/-- The leaves of a tree build its root. -/
theorem build_entries {maxDepth : Nat} (tree : Tree Node) (deep : tree.height ≤ maxDepth) :
    build combine maxDepth (tree.entries 0) = some (some (tree.fold combine)) := by
  rw [build, foldlM_entries tree (Nat.zero_le 1) (by omega), place_of_length_le (Nat.le_refl 0)]
  rfl

end Builder

/-! ## Balanced trees -/

section Balanced

variable {Node : Type u}

/-- The first nodes in pairs and the others alone. -/
def pairUp : Nat → List Node → List (Tree Node)
  | count + 1, left :: right :: nodes =>
    .branch (.leaf left) (.leaf right) :: pairUp count nodes
  | _, nodes => nodes.map .leaf

theorem length_pairUp {count : Nat} {nodes : List Node} (enough : 2 * count ≤ nodes.length) :
    (pairUp count nodes).length + count = nodes.length := by
  fun_induction pairUp count nodes with
  | case1 count left right nodes ih =>
    simp only [length_cons] at enough ⊢
    have := ih (by omega)
    omega
  | case2 count nodes notPair =>
    rcases count with - | count
    · simp
    · rcases nodes with - | ⟨left, - | ⟨right, nodes⟩⟩
      · simp at enough
      · simp at enough
        omega
      · exact absurd rfl (notPair count left right nodes rfl)

theorem entries_pairUp {count : Nat} {nodes : List Node} (enough : 2 * count ≤ nodes.length)
    (depth : Nat) :
    (pairUp count nodes).flatMap (fun tree => tree.entries depth) =
      (replicate (2 * count) (depth + 1) ++
        replicate (nodes.length - 2 * count) depth).zip nodes := by
  fun_induction pairUp count nodes with
  | case1 count left right nodes ih =>
    simp only [length_cons] at enough ⊢
    have rest : nodes.length + 1 + 1 - 2 * (count + 1) = nodes.length - 2 * count := by omega
    have twice : 2 * (count + 1) = 2 * count + 1 + 1 := by omega
    rw [flatMap_cons, ih (by omega), rest, twice]
    rfl
  | case2 count nodes notPair =>
    rcases count with - | count
    · clear notPair enough
      induction nodes with
      | nil => rfl
      | cons node nodes ih => simpa [Tree.entries, replicate_succ] using ih
    · rcases nodes with - | ⟨left, - | ⟨right, nodes⟩⟩
      · simp at enough
      · simp at enough
        omega
      · exact absurd rfl (notPair count left right nodes rfl)

theorem height_le_of_mem_pairUp {count : Nat} {nodes : List Node} {tree : Tree Node}
    (member : tree ∈ pairUp count nodes) : tree.height ≤ 1 := by
  fun_induction pairUp count nodes with
  | case1 count left right nodes ih =>
    rcases mem_cons.mp member with rfl | member
    · simp [Tree.height]
    · exact ih member
  | case2 count nodes =>
    obtain ⟨node, -, rfl⟩ := mem_map.mp member
    simp [Tree.height]

/-- A power of two of trees are the subtrees of one tree. -/
theorem exists_perfect {levels : Nat} {trees : List (Tree Node)}
    (count : trees.length = 2 ^ levels) {bound : Nat}
    (heights : ∀ tree ∈ trees, tree.height ≤ bound) :
    ∃ whole : Tree Node, whole.height ≤ levels + bound ∧
      ∀ depth, whole.entries depth = trees.flatMap fun tree => tree.entries (depth + levels) := by
  induction levels generalizing trees with
  | zero =>
    obtain ⟨tree, rfl⟩ := length_eq_one_iff.mp count
    exact ⟨tree, by simpa using heights tree (by simp), fun depth => by simp⟩
  | succ levels ih =>
    rw [Nat.pow_succ, Nat.mul_two] at count
    have leftCount : (trees.take (2 ^ levels)).length = 2 ^ levels := by
      rw [length_take]
      omega
    have rightCount : (trees.drop (2 ^ levels)).length = 2 ^ levels := by
      rw [length_drop]
      omega
    obtain ⟨left, leftHeight, leftEntries⟩ :=
      ih leftCount fun tree member => heights tree (mem_of_mem_take member)
    obtain ⟨right, rightHeight, rightEntries⟩ :=
      ih rightCount fun tree member => heights tree (mem_of_mem_drop member)
    refine ⟨.branch left right, ?_, fun depth => ?_⟩
    · rw [Tree.height]
      omega
    · have deeper : depth + 1 + levels = depth + (levels + 1) := by omega
      rw [Tree.entries, leftEntries, rightEntries, deeper, ← flatMap_append, take_append_drop]

/-- As many nodes as fit into one more than the given number of levels are the leaves of a tree
whose last nodes are one level higher. -/
theorem exists_balanced {levels extra : Nat} {nodes : List Node}
    (count : nodes.length = 2 ^ levels + extra) (fits : extra ≤ 2 ^ levels) :
    ∃ tree : Tree Node, tree.height ≤ levels + 1 ∧ ∀ depth, tree.entries depth =
        (replicate (2 * extra) (depth + levels + 1) ++
          replicate (nodes.length - 2 * extra) (depth + levels)).zip nodes := by
  have enough : 2 * extra ≤ nodes.length := by omega
  have trees : (pairUp extra nodes).length = 2 ^ levels := by
    have := length_pairUp enough
    omega
  obtain ⟨tree, height, entries⟩ := exists_perfect trees fun tree member =>
    height_le_of_mem_pairUp member
  exact ⟨tree, height, fun depth => by rw [entries, entries_pairUp enough]⟩

end Balanced

/-! ## Hashes and paths -/

/-- A node with its hash and the leaves below it, each with the hashes beside its path from the
leaf to the node. -/
structure HashedNode (Hash Item : Type u) where
  hash : Hash
  leaves : List (Item × List Hash)

namespace HashedNode

variable {Hash Item : Type u} (branch : Hash → Hash → Hash) (leafHash : Item → Hash)

/-- The hash at the end of a path. -/
def pathHash (start : Hash) (path : List Hash) : Hash := path.foldl branch start

@[simp] theorem pathHash_append (start last : Hash) (path : List Hash) :
    pathHash branch start (path ++ [last]) = branch (pathHash branch start path) last := by
  simp [pathHash]

/-- The node above two nodes. -/
def combine (left right : HashedNode Hash Item) : HashedNode Hash Item where
  hash := branch left.hash right.hash
  leaves := left.leaves.map (fun leaf => (leaf.1, leaf.2 ++ [right.hash])) ++
    right.leaves.map fun leaf => (leaf.1, leaf.2 ++ [left.hash])

/-- All paths lead to the hash of the node. -/
def Proves (node : HashedNode Hash Item) : Prop :=
  ∀ leaf ∈ node.leaves, pathHash branch (leafHash leaf.1) leaf.2 = node.hash

variable {branch leafHash}

theorem mem_combine_leaves {left right : HashedNode Hash Item} {leaf : Item × List Hash} :
    leaf ∈ (combine branch left right).leaves ↔
      (∃ path, (leaf.1, path) ∈ left.leaves ∧ leaf.2 = path ++ [right.hash]) ∨
        ∃ path, (leaf.1, path) ∈ right.leaves ∧ leaf.2 = path ++ [left.hash] := by
  obtain ⟨item, path⟩ := leaf
  simp only [combine, mem_append, mem_map, Prod.mk.injEq, Prod.exists]
  constructor
  · rintro (⟨_, path, member, rfl, rfl⟩ | ⟨_, path, member, rfl, rfl⟩)
    · exact .inl ⟨path, member, rfl⟩
    · exact .inr ⟨path, member, rfl⟩
  · rintro (⟨path, member, rfl⟩ | ⟨path, member, rfl⟩)
    · exact .inl ⟨_, path, member, rfl, rfl⟩
    · exact .inr ⟨_, path, member, rfl, rfl⟩

theorem Proves.combine (symmetric : ∀ left right, branch left right = branch right left)
    {left right : HashedNode Hash Item} (leftProves : left.Proves branch leafHash)
    (rightProves : right.Proves branch leafHash) :
    (combine branch left right).Proves branch leafHash := by
  intro leaf member
  rcases mem_combine_leaves.mp member with ⟨path, member, pathEq⟩ | ⟨path, member, pathEq⟩
  · rw [pathEq, pathHash_append]
    exact congrArg (branch · right.hash) (leftProves _ member)
  · rw [pathEq, pathHash_append]
    exact (congrArg (branch · left.hash) (rightProves _ member)).trans (symmetric _ _)

/-- All paths of the root of a tree lead to its hash. -/
theorem proves_fold (symmetric : ∀ left right, branch left right = branch right left)
    {tree : Tree (HashedNode Hash Item)} {depth : Nat}
    (proves : ∀ entry ∈ tree.entries depth, entry.2.Proves branch leafHash) :
    (tree.fold (combine branch)).Proves branch leafHash := by
  induction tree generalizing depth with
  | leaf value => exact proves (depth, value) (by simp [Tree.entries])
  | branch left right leftIH rightIH =>
    have leftProves := @leftIH (depth + 1) fun entry member =>
      proves entry (by simp [Tree.entries, member])
    have rightProves := @rightIH (depth + 1) fun entry member =>
      proves entry (by simp [Tree.entries, member])
    exact rightProves.combine symmetric leftProves

/-- A leaf below a node of a tree has a path to the root, at most as long as its depth allows. -/
theorem exists_path_fold {tree : Tree (HashedNode Hash Item)} {depth : Nat}
    {entry : Nat × HashedNode Hash Item} (member : entry ∈ tree.entries depth)
    {leaf : Item × List Hash} (below : leaf ∈ entry.2.leaves) :
    ∃ path, (leaf.1, path) ∈ (tree.fold (combine branch)).leaves := by
  induction tree generalizing depth with
  | leaf value =>
    rw [Tree.entries, mem_singleton] at member
    subst member
    exact ⟨leaf.2, below⟩
  | branch left right leftIH rightIH =>
    rw [Tree.entries, mem_append] at member
    rcases member with member | member
    · obtain ⟨path, found⟩ := leftIH member
      exact ⟨path ++ [_], mem_combine_leaves.mpr (.inr ⟨path, found, rfl⟩)⟩
    · obtain ⟨path, found⟩ := rightIH member
      exact ⟨path ++ [_], mem_combine_leaves.mpr (.inl ⟨path, found, rfl⟩)⟩

/-- Paths of the root are not longer than the tree is high. -/
theorem length_path_le {tree : Tree (HashedNode Hash Item)} {depth : Nat}
    (ends : ∀ entry ∈ tree.entries depth, ∀ leaf ∈ entry.2.leaves, leaf.2 = [])
    {leaf : Item × List Hash} (member : leaf ∈ (tree.fold (combine branch)).leaves) :
    leaf.2.length ≤ tree.height := by
  induction tree generalizing depth leaf with
  | leaf value =>
    rw [ends (depth, value) (by simp [Tree.entries]) leaf member]
    simp
  | branch left right leftIH rightIH =>
    rw [Tree.height]
    rcases mem_combine_leaves.mp member with ⟨path, found, pathEq⟩ | ⟨path, found, pathEq⟩
    · have bound : path.length ≤ right.height := @rightIH (depth + 1)
        (fun entry member => ends entry (by simp [Tree.entries, member])) _ found
      rw [pathEq, length_append, length_singleton]
      omega
    · have bound : path.length ≤ left.height := @leftIH (depth + 1)
        (fun entry member => ends entry (by simp [Tree.entries, member])) _ found
      rw [pathEq, length_append, length_singleton]
      omega

end HashedNode

end DepthTree
