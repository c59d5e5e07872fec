import Mathlib.Data.List.Basic
import Mathlib.Data.Set.Function

/-!
# Hash trees that duplicate an odd last node

Every row is combined pairwise into the row above it, and a last unpaired node is
combined with itself.  Two equal neighbours are refused, since a duplicated node
could not be told apart from them.  The tree is the list of its rows.

A map between node types that commutes with the combinations carries one tree to
another.  A walk along any siblings that reaches the root started at the leaf of its
index, if combinations determine what was combined.
-/

namespace DuplicatingTree

open List

universe u

variable {ε α β : Type u} [DecidableEq α] [DecidableEq β] {levels : List (List α)}
variable {nodes above : List α}

section Parents

variable (duplicate : ε) (combine : α → α → α)

/-- The row above `nodes`. -/
def parents : List α → Except ε (List α)
  | left :: right :: rest =>
    if left = right then
      .error duplicate
    else
      (parents rest).map (combine left right :: ·)
  | [last] => .ok [combine last last]
  | [] => .ok []

/-- A row with a row above it has distinct neighbours. -/
theorem parents_cons_cons_ok {left right : α} {rest above : List α} :
    parents duplicate combine (left :: right :: rest) = .ok above ↔
      left ≠ right ∧ ∃ tail, parents duplicate combine rest = .ok tail ∧
        above = combine left right :: tail := by
  by_cases equal : left = right
  · simp [parents, equal]
  · cases tailEq : parents duplicate combine rest with
    | error cause => simp [parents, equal, tailEq, Except.map]
    | ok tail => simp [parents, equal, tailEq, Except.map, eq_comm]

/-- A row and the row above it. -/
inductive Paired : List α → List α → Prop
  | nil : Paired [] []
  | last (node : α) : Paired [node] [combine node node]
  | pair {left right : α} {rest above : List α} (different : left ≠ right)
      (paired : Paired rest above) : Paired (left :: right :: rest) (combine left right :: above)

theorem paired_of_parents (built : parents duplicate combine nodes = .ok above) :
    Paired combine nodes above := by
  induction nodes using parents.induct generalizing above with
  | case1 right rest =>
    exact absurd rfl ((parents_cons_cons_ok duplicate combine).mp built).1
  | case2 left right rest different ih =>
    obtain ⟨-, tail, tailEq, rfl⟩ := (parents_cons_cons_ok duplicate combine).mp built
    exact .pair different (ih tailEq)
  | case3 last =>
    cases built
    exact .last last
  | case4 =>
    cases built
    exact .nil

theorem length_parents (built : parents duplicate combine nodes = .ok above) :
    above.length = (nodes.length + 1) / 2 := by
  replace built := paired_of_parents duplicate combine built
  induction built with
  | pair _ _ ih =>
    rw [length_cons, ih, length_cons, length_cons]
    omega
  | _ => simp

variable {index : Nat}

/-- A pair of neighbours is distinct, and its combination stands above it. -/
theorem parents_pair {left right : α} (built : parents duplicate combine nodes = .ok above)
    (leftAt : nodes[2 * index]? = some left) (rightAt : nodes[2 * index + 1]? = some right) :
    left ≠ right ∧ above[index]? = some (combine left right) := by
  replace built := paired_of_parents duplicate combine built
  induction built generalizing index with
  | pair different _ ih =>
    cases index with
    | zero =>
      simp only [Nat.mul_zero, Nat.zero_add, getElem?_cons_zero,
        getElem?_cons_succ, Option.some.injEq] at leftAt rightAt
      subst leftAt rightAt
      exact ⟨different, rfl⟩
    | succ index =>
      have shift : 2 * (index + 1) = 2 * index + 1 + 1 := by omega
      rw [shift] at leftAt rightAt
      simp only [getElem?_cons_succ] at leftAt rightAt
      simpa using ih leftAt rightAt
  | last => simp at rightAt
  | nil => simp at leftAt

/-- An odd last node is combined with itself. -/
theorem parents_last {last : α} (built : parents duplicate combine nodes = .ok above)
    (size : nodes.length = 2 * index + 1) (lastAt : nodes[2 * index]? = some last) :
    above[index]? = some (combine last last) := by
  replace built := paired_of_parents duplicate combine built
  induction built generalizing index with
  | pair _ _ ih =>
    cases index with
    | zero => simp at size
    | succ index =>
      have shift : 2 * (index + 1) = 2 * index + 1 + 1 := by omega
      rw [shift] at lastAt
      simp only [getElem?_cons_succ] at lastAt
      simp only [length_cons] at size
      simpa using ih (by omega) lastAt
  | last =>
    simp only [length_singleton] at size
    obtain rfl : index = 0 := by omega
    simp only [Nat.mul_zero, getElem?_cons_zero, Option.some.injEq] at lastAt
    subst lastAt
    rfl
  | nil => simp at lastAt

/-- All rows from `nodes` up to the one with a single node. -/
def build (nodes : List α) : Except ε (List (List α)) :=
  if nodes.length ≤ 1 then
    .ok [nodes]
  else
    match _built : parents duplicate combine nodes with
    | .error cause => .error cause
    | .ok above => (build above).map (nodes :: ·)
termination_by nodes.length
decreasing_by
  rw [length_parents duplicate combine _built]
  omega

theorem build_of_le (small : nodes.length ≤ 1) : build duplicate combine nodes = .ok [nodes] := by
  rw [build, if_pos small]

theorem build_of_lt (large : 1 < nodes.length) : build duplicate combine nodes =
      (parents duplicate combine nodes).bind fun above =>
        (build duplicate combine above).map (nodes :: ·) := by
  rw [build, if_neg (by omega)]
  split
  next cause built => rw [built]; rfl
  next above built => rw [built]; rfl

/-- A tree of more than one node is its row on top of the tree of the row above. -/
theorem build_ok_of_lt (large : 1 < nodes.length)
    (built : build duplicate combine nodes = .ok levels) :
    ∃ above rest, parents duplicate combine nodes = .ok above ∧
      build duplicate combine above = .ok rest ∧ levels = nodes :: rest := by
  rw [build_of_lt duplicate combine large] at built
  cases parentsEq : parents duplicate combine nodes with
  | error cause => simp [parentsEq, Except.bind] at built
  | ok above =>
    rw [parentsEq] at built
    simp only [Except.bind] at built
    cases restEq : build duplicate combine above with
    | error cause => simp [restEq, Except.map] at built
    | ok rest =>
      rw [restEq] at built
      cases built
      exact ⟨above, rest, rfl, restEq, rfl⟩

/-- The first row of a tree is the row it was built from. -/
theorem build_eq_cons (built : build duplicate combine nodes = .ok levels) :
    ∃ rest, levels = nodes :: rest := by
  rcases Nat.lt_or_ge 1 nodes.length with large | small
  · obtain ⟨-, rest, -, -, rfl⟩ := build_ok_of_lt duplicate combine large built
    exact ⟨rest, rfl⟩
  · rw [build_of_le duplicate combine small] at built
    cases built
    exact ⟨[], rfl⟩

/-- Induction along the rows of a tree. -/
theorem build_induction {motive : List α → List (List α) → Prop}
    (small : ∀ nodes, nodes.length ≤ 1 → motive nodes [nodes])
    (large : ∀ nodes above rest, 1 < nodes.length → parents duplicate combine nodes = .ok above →
      build duplicate combine above = .ok rest → motive above rest → motive nodes (nodes :: rest))
    (built : build duplicate combine nodes = .ok levels) :
    motive nodes levels := by
  induction size : nodes.length using Nat.strongRecOn generalizing nodes levels with
  | ind size ih =>
    rcases Nat.lt_or_ge 1 nodes.length with many | few
    · obtain ⟨above, rest, parentsEq, restEq, rfl⟩ :=
        build_ok_of_lt duplicate combine many built
      have shorter := length_parents duplicate combine parentsEq
      exact large nodes above rest many parentsEq restEq (ih above.length (by omega) restEq rfl)
    · rw [build_of_le duplicate combine few] at built
      cases built
      exact small nodes few

/-- The last row of a tree over at least one node is its root. -/
theorem build_root (nonempty : nodes ≠ []) (built : build duplicate combine nodes = .ok levels) :
    ∃ root, levels.getLast? = some [root] := by
  revert nonempty
  refine build_induction duplicate combine
    (motive := fun nodes levels => nodes ≠ [] → ∃ root, levels.getLast? = some [root])
    ?_ ?_ built
  · intro nodes few nonempty
    match nodes, few, nonempty with
    | [root], _, _ => exact ⟨root, rfl⟩
    | [], _, nonempty => exact absurd rfl nonempty
    | _ :: _ :: _, few, _ => simp at few
  · intro nodes above rest many parentsEq restEq ih _
    have size := length_parents duplicate combine parentsEq
    obtain ⟨root, rootAt⟩ := ih (ne_nil_of_length_pos (by omega))
    refine ⟨root, ?_⟩
    rw [getLast?_cons, rootAt]
    rfl

/-! ## Walks to the root -/

/-- The pairs that are combined into the row above. -/
def couples : List α → List (α × α)
  | left :: right :: rest => (left, right) :: couples rest
  | [last] => [(last, last)]
  | [] => []

omit [DecidableEq α] in
theorem mem_of_mem_couples {pair : α × α} (member : pair ∈ couples nodes) :
    pair.1 ∈ nodes ∧ pair.2 ∈ nodes := by
  induction nodes using couples.induct with
  | case1 left right rest ih =>
    rcases mem_cons.mp member with rfl | member
    · simp
    · obtain ⟨first, second⟩ := ih member
      simp [first, second]
  | case2 last =>
    obtain rfl := mem_singleton.mp member
    simp
  | case3 => simp [couples] at member

/-- A walk from `node` at `index` along siblings to `top`.  A right child that equals its
sibling is refused.  Every pair that is combined satisfies `hashed`. -/
inductive Climbs (hashed : α → α → Prop) : Nat → α → List α → α → Prop where
  | top (node : α) : Climbs hashed 0 node [] node
  | left {index : Nat} {node sibling top : α} {path : List α} (even : index % 2 = 0)
      (pair : hashed node sibling)
      (climbs : Climbs hashed (index / 2) (combine node sibling) path top) :
      Climbs hashed index node (sibling :: path) top
  | right {index : Nat} {node sibling top : α} {path : List α} (odd : index % 2 = 1)
      (pair : hashed sibling node) (different : sibling ≠ node)
      (climbs : Climbs hashed (index / 2) (combine sibling node) path top) :
      Climbs hashed index node (sibling :: path) top

/-- A node of the row above stands on a pair of the row: two neighbours, or an odd last
node twice. -/
theorem parents_getElem? {parent : α} (built : parents duplicate combine nodes = .ok above)
    (parentAt : above[index]? = some parent) :
    ∃ left right, (left, right) ∈ couples nodes ∧ parent = combine left right ∧
      nodes[2 * index]? = some left ∧ (nodes[2 * index + 1]? = some right ∨ left = right) := by
  replace built := paired_of_parents duplicate combine built
  induction built generalizing index with
  | pair _ _ ih =>
    cases index with
    | zero =>
      simp only [getElem?_cons_zero, Option.some.injEq] at parentAt
      exact ⟨_, _, mem_cons_self, parentAt.symm, rfl, .inl rfl⟩
    | succ index =>
      rw [getElem?_cons_succ] at parentAt
      obtain ⟨left, right, member, parentEq, leftAt, rightAt⟩ := ih parentAt
      have shift : 2 * (index + 1) = 2 * index + 1 + 1 := by omega
      rw [shift]
      simp only [getElem?_cons_succ]
      exact ⟨left, right, mem_cons_of_mem _ member, parentEq, leftAt, rightAt⟩
  | last last =>
    cases index with
    | zero =>
      simp only [getElem?_cons_zero, Option.some.injEq] at parentAt
      exact ⟨last, last, mem_cons_self, parentAt.symm, rfl, .inr rfl⟩
    | succ index => simp at parentAt
  | nil => simp at parentAt

/-- The pairs of all rows below the root are hashed, and the last row is the root alone. -/
structure Rooted (hashed : α → α → Prop) (levels : List (List α)) (top : α) : Prop where
  pairs : ∀ level ∈ levels.dropLast, ∀ pair ∈ couples level, hashed pair.1 pair.2
  top : levels.getLast? = some [top]

omit [DecidableEq α] in
theorem Rooted.tail {hashed : α → α → Prop} {rest : List (List α)} {top : α}
    (rooted : Rooted hashed (nodes :: above :: rest) top) : Rooted hashed (above :: rest) top where
  pairs level member := rooted.pairs level (by simp [dropLast, member])
  top := by simpa using rooted.top

section Walks

variable {duplicate combine} {hashed : α → α → Prop}
  (injective : ∀ {left right left' right'}, hashed left right → hashed left' right' →
    combine left right = combine left' right' → left = left' ∧ right = right')

include injective

variable {path : List α}

/-- One step down: if the parent that a walk computes stands in the row above, then the
walk came from the node at its index. -/
theorem climbs_step {node sibling top : α} (built : parents duplicate combine nodes = .ok above)
    (rowHashed : ∀ pair ∈ couples nodes, hashed pair.1 pair.2)
    (climbs : Climbs combine hashed index node (sibling :: path) top)
    (parentAt : ∀ parent, Climbs combine hashed (index / 2) parent path top →
      above[index / 2]? = some parent) :
    nodes[index]? = some node := by
  cases climbs with
  | left even pair climbs =>
    obtain ⟨left, right, member, parentEq, leftAt, -⟩ :=
      parents_getElem? duplicate combine built (parentAt _ climbs)
    obtain ⟨rfl, -⟩ := injective pair (rowHashed _ member) parentEq
    rwa [show 2 * (index / 2) = index by omega] at leftAt
  | right odd pair different climbs =>
    obtain ⟨left, right, member, parentEq, -, rightAt⟩ :=
      parents_getElem? duplicate combine built (parentAt _ climbs)
    obtain ⟨rfl, rfl⟩ := injective pair (rowHashed _ member) parentEq
    rcases rightAt with rightAt | equal
    · rwa [show 2 * (index / 2) + 1 = index by omega] at rightAt
    · exact absurd equal different

variable {node top : α}

/-- A walk with as many siblings as there are rows below the root starts at the leaf of
its index. -/
theorem climbs_aligned (built : build duplicate combine nodes = .ok levels)
    (rooted : Rooted hashed levels top) (climbs : Climbs combine hashed index node path top)
    (aligned : path.length + 1 = levels.length) : nodes[index]? = some node := by
  revert rooted climbs aligned index node path
  refine build_induction duplicate combine
    (motive := fun nodes levels => ∀ {index : Nat} {node : α} {path : List α},
      Rooted hashed levels top → Climbs combine hashed index node path top →
      path.length + 1 = levels.length → nodes[index]? = some node) ?_ ?_ built
  · intro nodes _ index node path rooted climbs aligned
    obtain rfl : path = [] := eq_nil_of_length_eq_zero (by simpa using aligned)
    cases climbs
    obtain rfl : nodes = [top] := by simpa using rooted.top
    rfl
  · intro nodes above rest many parentsEq restEq ih index node path rooted climbs aligned
    obtain ⟨rest, rfl⟩ := build_eq_cons _ _ restEq
    cases path with
    | nil => simp at aligned
    | cons sibling path =>
      refine climbs_step injective parentsEq (rooted.pairs nodes (by simp)) climbs ?_
      exact fun parent climbs => ih rooted.tail climbs (by simpa using aligned)

/-- A walk with fewer siblings starts at a combination. -/
theorem climbs_short (built : build duplicate combine nodes = .ok levels)
    (rooted : Rooted hashed levels top) (climbs : Climbs combine hashed index node path top)
    (short : path.length + 1 < levels.length) :
    ∃ left right, hashed left right ∧ node = combine left right := by
  revert rooted climbs short
  refine build_induction duplicate combine (motive := fun nodes levels =>
      Rooted hashed levels top → Climbs combine hashed index node path top →
      path.length + 1 < levels.length →
      ∃ left right, hashed left right ∧ node = combine left right) ?_ ?_ built
  · intro nodes _ _ _ short
    simp at short
  · intro nodes above rest many parentsEq restEq ih rooted climbs short
    obtain ⟨rest, rfl⟩ := build_eq_cons _ _ restEq
    rcases Nat.lt_or_ge (path.length + 1) (above :: rest).length with shorter | reaches
    · exact ih rooted.tail climbs shorter
    · have nodeAt := climbs_aligned injective restEq rooted.tail climbs
        (by simp only [length_cons] at short reaches ⊢; omega)
      obtain ⟨left, right, member, nodeEq, -⟩ :=
        parents_getElem? duplicate combine parentsEq nodeAt
      exact ⟨left, right, rooted.pairs nodes (by simp) _ member, nodeEq⟩

/-- A walk with more siblings passes a combination that is a leaf. -/
theorem climbs_long (built : build duplicate combine nodes = .ok levels)
    (rooted : Rooted hashed levels top) (climbs : Climbs combine hashed index node path top)
    (long : levels.length < path.length + 1) :
    ∃ left right, hashed left right ∧ combine left right ∈ nodes := by
  induction climbs with
  | top node =>
    obtain ⟨rest, rfl⟩ := build_eq_cons _ _ built
    simp at long
  | left even pair climbs ih =>
    rcases Nat.lt_or_ge levels.length (length _ + 1) with longer | reaches
    · exact ih rooted longer
    · refine ⟨_, _, pair, mem_of_getElem? (climbs_aligned injective built rooted climbs ?_)⟩
      simp only [length_cons] at long
      omega
  | right odd pair different climbs ih =>
    rcases Nat.lt_or_ge levels.length (length _ + 1) with longer | reaches
    · exact ih rooted longer
    · refine ⟨_, _, pair, mem_of_getElem? (climbs_aligned injective built rooted climbs ?_)⟩
      simp only [length_cons] at long
      omega

/-- A walk to the root from a node that is no combination, over leaves that are none,
starts at the leaf of its index and has one sibling for every row below the root. -/
theorem climbs_sound (built : build duplicate combine nodes = .ok levels)
    (rooted : Rooted hashed levels top) (climbs : Climbs combine hashed index node path top)
    (leavesFresh : ∀ left right, hashed left right → combine left right ∉ nodes)
    (nodeFresh : ∀ left right, hashed left right → node ≠ combine left right) :
    nodes[index]? = some node ∧ path.length + 1 = levels.length := by
  have aligned : path.length + 1 = levels.length := by
    rcases Nat.lt_trichotomy (path.length + 1) levels.length with short | aligned | long
    · obtain ⟨left, right, pair, nodeEq⟩ := climbs_short injective built rooted climbs short
      exact absurd nodeEq (nodeFresh left right pair)
    · exact aligned
    · obtain ⟨left, right, pair, member⟩ := climbs_long injective built rooted climbs long
      exact absurd member (leavesFresh left right pair)
  exact ⟨climbs_aligned injective built rooted climbs aligned, aligned⟩

end Walks

end Parents

/-! ## Maps between trees -/

section Map

variable (duplicate duplicate' : ε) {combine : α → α → α} {combine' : β → β → β} (image : α → β)
  (commutes : ∀ left right, combine' (image left) (image right) = image (combine left right))

include commutes

/-- A map that is injective on a row carries the row above it along. -/
theorem parents_map (injective : Set.InjOn image {node | node ∈ nodes})
    (built : parents duplicate combine nodes = .ok above) :
    parents duplicate' combine' (nodes.map image) = .ok (above.map image) := by
  replace built := paired_of_parents duplicate combine built
  induction built with
  | @pair _ _ rest tail different _ ih =>
    have restInjective : Set.InjOn image {node | node ∈ rest} :=
      injective.mono fun node member => mem_cons_of_mem _ (mem_cons_of_mem _ member)
    rw [map_cons, map_cons, parents_cons_cons_ok]
    refine ⟨?_, tail.map image, ih restInjective, by rw [map_cons, commutes]⟩
    intro equal
    exact different (injective (by simp) (by simp) equal)
  | last => simp [parents, commutes]
  | nil => rfl

/-- Without injectivity the image of a row may be refused. -/
theorem parents_map_or_error (built : parents duplicate combine nodes = .ok above) :
    (∃ cause, parents duplicate' combine' (nodes.map image) = .error cause) ∨
      parents duplicate' combine' (nodes.map image) = .ok (above.map image) := by
  replace built := paired_of_parents duplicate combine built
  induction built with
  | @pair left right _ _ _ _ ih =>
    by_cases equal : image left = image right
    · exact .inl ⟨duplicate', by simp [parents, equal]⟩
    · rcases ih with ⟨cause, refused⟩ | mapped
      · exact .inl ⟨cause, by simp [parents, equal, refused, Except.map]⟩
      · exact .inr (by simp [parents, equal, mapped, Except.map, commutes])
  | last => exact .inr (by simp [parents, commutes])
  | nil => exact .inr rfl

omit commutes in
/-- A map carries refused rows to refused rows. -/
theorem parents_map_error {cause : ε} (refused : parents duplicate combine nodes = .error cause) :
    ∃ cause', parents duplicate' combine' (nodes.map image) = .error cause' := by
  induction nodes using parents.induct with
  | case1 right rest => exact ⟨duplicate', by simp [parents]⟩
  | case2 left right rest different ih =>
    cases restEq : parents duplicate combine rest with
    | ok tail => simp [parents, different, restEq, Except.map] at refused
    | error other =>
      rw [parents, if_neg different, restEq] at refused
      cases refused
      obtain ⟨cause', restRefused⟩ := ih restEq
      by_cases equal : image left = image right
      · exact ⟨duplicate', by simp [parents, equal]⟩
      · exact ⟨cause', by simp [parents, equal, restRefused, Except.map]⟩
  | case3 last => simp [parents] at refused
  | case4 => simp [parents] at refused

/-- A map that is injective on every row carries a tree along. -/
theorem build_map (built : build duplicate combine nodes = .ok levels)
    (injective : ∀ level ∈ levels, Set.InjOn image {node | node ∈ level}) :
    build duplicate' combine' (nodes.map image) = .ok (levels.map (map image)) := by
  revert injective
  refine build_induction duplicate combine
    (motive := fun nodes levels => (∀ level ∈ levels, Set.InjOn image {node | node ∈ level}) →
      build duplicate' combine' (nodes.map image) = .ok (levels.map (map image)))
    ?_ ?_ built
  · intro nodes few _
    rw [build_of_le _ _ (by simpa using few)]
    rfl
  · intro nodes above rest many parentsEq _ ih injective
    have mapped := parents_map duplicate duplicate' image commutes
      (injective nodes (by simp)) parentsEq
    rw [build_of_lt _ _ (by simpa using many), mapped]
    simp only [Except.bind]
    rw [ih fun level member => injective level (mem_cons_of_mem _ member)]
    rfl

/-- When a tree is refused, so is its image. -/
theorem build_map_error {cause : ε} (refused : build duplicate combine nodes = .error cause) :
    ∃ cause', build duplicate' combine' (nodes.map image) = .error cause' := by
  induction size : nodes.length using Nat.strongRecOn generalizing nodes cause with
  | ind size ih =>
    rcases Nat.lt_or_ge 1 nodes.length with many | few
    · rw [build_of_lt _ _ many] at refused
      rw [build_of_lt _ _ (by simpa using many)]
      cases parentsEq : parents duplicate combine nodes with
      | error other =>
        obtain ⟨cause', mapped⟩ :=
          parents_map_error duplicate duplicate' image parentsEq
        exact ⟨cause', by rw [mapped]; rfl⟩
      | ok above =>
        rw [parentsEq] at refused
        rcases parents_map_or_error duplicate duplicate' image commutes parentsEq with
          ⟨other, mapped⟩ | mapped
        · exact ⟨other, by rw [mapped]; rfl⟩
        · cases restEq : build duplicate combine above with
          | ok rest => simp [Except.bind, restEq, Except.map] at refused
          | error other =>
            have shorter := length_parents duplicate combine parentsEq
            obtain ⟨cause', restMapped⟩ := ih above.length (by omega) restEq rfl
            exact ⟨cause', by rw [mapped]; simp [Except.bind, restMapped, Except.map]⟩
    · rw [build_of_le _ _ few] at refused
      cases refused

end Map

end DuplicatingTree
