import Mathlib.Data.List.Basic
import Mathlib.Data.List.Induction
import Mathlib.Data.Nat.Bitwise
import Mathlib.Algebra.BigOperators.Group.List.Basic
import Mathlib.Tactic.Ring

/-!
# Forests of perfect hash trees

A row of nodes is paired up into the row above it; a last unpaired node stays
behind as the root of a perfect tree.  The roots left behind, largest tree
first, are the peaks of a mountain range.  The number of rows may be capped, in
which case every node of the highest row is a peak of its own.

The library relates the peaks to the binary digits of the number of leaves,
says what appending a leaf does to them, and treats authentication paths as
climbs: an honest climb reaches the node above the leaf, and over an injective
hash every climb that reaches a node of a row starts from the leaf below it.
-/

namespace HashForest

open List Nat

universe u

variable {α : Type u} (hash : α → α → α)

/-! ## Rows -/

/-- The row above `nodes`: neighbours hashed pairwise, an odd last node left out. -/
def pairUp : List α → List α
  | left :: right :: rest => hash left right :: pairUp rest
  | _ => []

@[simp] theorem pairUp_nil : pairUp hash [] = [] := rfl

@[simp] theorem pairUp_singleton (node : α) : pairUp hash [node] = [] := rfl

@[simp] theorem pairUp_cons_cons (left right : α) (rest : List α) :
    pairUp hash (left :: right :: rest) = hash left right :: pairUp hash rest := rfl

@[simp] theorem length_pairUp (nodes : List α) : (pairUp hash nodes).length = nodes.length / 2 := by
  induction nodes using pairUp.induct with
  | case1 left right rest ih =>
    simp only [pairUp_cons_cons, length_cons, ih]
    omega
  | case2 nodes short =>
    match nodes with
    | [] | [_] => simp
    | left :: right :: rest => exact (short left right rest rfl).elim

variable {nodes : List α}

theorem pairUp_append_of_even (rest : List α) (even : nodes.length % 2 = 0) :
    pairUp hash (nodes ++ rest) = pairUp hash nodes ++ pairUp hash rest := by
  induction nodes using pairUp.induct with
  | case1 left right tail ih =>
    simp only [length_cons] at even
    simp only [cons_append, pairUp_cons_cons]
    rw [ih (by omega)]
  | case2 nodes short =>
    match nodes with
    | [] => rfl
    | [_] => simp at even
    | left :: right :: tail => exact (short left right tail rfl).elim

/-- The two children of a node of the row above. -/
theorem getElem?_pairUp (nodes : List α) {index : Nat} {left right : α}
    (leftAt : nodes[2 * index]? = some left)
    (rightAt : nodes[2 * index + 1]? = some right) :
    (pairUp hash nodes)[index]? = some (hash left right) := by
  induction nodes using pairUp.induct generalizing index with
  | case1 first second rest ih =>
    cases index with
    | zero =>
      simp only [Nat.mul_zero, Nat.zero_add, getElem?_cons_zero,
        getElem?_cons_succ, Option.some.injEq] at leftAt rightAt
      simp [leftAt, rightAt]
    | succ index =>
      have shift : 2 * (index + 1) = 2 * index + 1 + 1 := by omega
      rw [shift] at leftAt rightAt
      simp only [getElem?_cons_succ] at leftAt rightAt
      simpa using ih leftAt rightAt
  | case2 nodes short =>
    match nodes with
    | [] => simp at leftAt
    | [_] => simp at rightAt
    | first :: second :: rest => exact (short first second rest rfl).elim

/-- Every node of the row above has its two children in the row. -/
theorem children_of_getElem?_pairUp {index : Nat} {node : α}
    (above : (pairUp hash nodes)[index]? = some node) :
    ∃ left right, nodes[2 * index]? = some left ∧
      nodes[2 * index + 1]? = some right ∧ node = hash left right := by
  have bound := (List.getElem?_eq_some_iff.mp above).1
  rw [length_pairUp] at bound
  have leftAt := getElem?_eq_getElem (l := nodes) (i := 2 * index) (by omega)
  have rightAt := getElem?_eq_getElem (l := nodes) (i := 2 * index + 1) (by omega)
  have selected := getElem?_pairUp hash nodes leftAt rightAt
  rw [above] at selected
  exact ⟨_, _, leftAt, rightAt, Option.some.inj selected⟩

/-- The row at a given height above `nodes`. -/
def row : Nat → List α → List α
  | 0, nodes => nodes
  | height + 1, nodes => row height (pairUp hash nodes)

@[simp] theorem row_zero (nodes : List α) : row hash 0 nodes = nodes := rfl

theorem row_succ (height : Nat) (nodes : List α) :
    row hash (height + 1) nodes = row hash height (pairUp hash nodes) := rfl

theorem row_succ_eq_pairUp (height : Nat) (nodes : List α) :
    row hash (height + 1) nodes = pairUp hash (row hash height nodes) := by
  induction height generalizing nodes with
  | zero => rfl
  | succ height ih => rw [row_succ, ih, row_succ]

@[simp] theorem length_row (height : Nat) (nodes : List α) :
    (row hash height nodes).length = nodes.length / 2 ^ height := by
  induction height generalizing nodes with
  | zero => simp
  | succ height ih =>
    rw [row_succ, ih, length_pairUp, Nat.div_div_eq_div_mul, Nat.pow_succ']

/-- All rows from `nodes` up to a given height. -/
def levels : Nat → List α → List (List α)
  | 0, nodes => [nodes]
  | height + 1, nodes => nodes :: levels height (pairUp hash nodes)

theorem levels_succ (height : Nat) (nodes : List α) :
    levels hash (height + 1) nodes = nodes :: levels hash height (pairUp hash nodes) := rfl

theorem levels_eq_cons (height : Nat) (nodes : List α) :
    levels hash height nodes = nodes :: (levels hash height nodes).tail := by
  cases height <;> rfl

theorem getElem?_levels (height : Nat) (nodes : List α) (level : Nat) :
    (levels hash height nodes)[level]? =
      if level ≤ height then some (row hash level nodes) else none := by
  induction height generalizing nodes level with
  | zero => cases level <;> simp [levels]
  | succ height ih =>
    cases level with
    | zero => rfl
    | succ level => simp [levels_succ, ih, row_succ]

/-! ## Peaks -/

/-- The node that a row leaves behind, if any. -/
def leftover (nodes : List α) : List α :=
  if nodes.length % 2 = 1 then nodes.getLast?.toList else []

theorem leftover_of_even (even : nodes.length % 2 = 0) : leftover nodes = [] := by
  rw [leftover, if_neg (by omega)]

theorem leftover_append_singleton (node : α) (even : nodes.length % 2 = 0) :
    leftover (nodes ++ [node]) = [node] := by
  have odd : (nodes ++ [node]).length % 2 = 1 := by
    simp only [length_append, length_singleton]
    omega
  rw [leftover, if_pos odd, getLast?_concat]
  rfl

theorem length_leftover (nodes : List α) : (leftover nodes).length = nodes.length % 2 := by
  cases nodes using reverseRecOn with
  | nil => rfl
  | append_singleton nodes node =>
    rcases mod_two_eq_zero_or_one (nodes ++ [node]).length with even | odd
    · rw [leftover_of_even even, even]
      rfl
    · rw [odd, leftover, if_pos odd, getLast?_concat]
      rfl

/-- Peaks of a row, largest first, with `rows` rows above it. -/
def peaks : Nat → List α → List α
  | 0, nodes => nodes
  | rows + 1, nodes => peaks rows (pairUp hash nodes) ++ leftover nodes

@[simp] theorem peaks_zero (nodes : List α) : peaks hash 0 nodes = nodes := rfl

theorem peaks_succ (rows : Nat) (nodes : List α) :
    peaks hash (rows + 1) nodes = peaks hash rows (pairUp hash nodes) ++ leftover nodes :=
  rfl

variable {rows : Nat}

/-- Rows above the one that has at most one node add no peak. -/
theorem peaks_succ_of_lt (bounded : nodes.length < 2 ^ (rows + 1)) :
    peaks hash (rows + 1) nodes = peaks hash rows nodes := by
  induction rows generalizing nodes with
  | zero =>
    match nodes, bounded with
    | [], _ | [_], _ => rfl
    | _ :: _ :: _, bounded =>
      simp only [length_cons] at bounded
      omega
  | succ rows ih =>
    have half : (pairUp hash nodes).length < 2 ^ (rows + 1) := by
      rw [length_pairUp]
      rw [Nat.pow_succ] at bounded
      omega
    rw [peaks_succ, ih half, ← peaks_succ]

theorem peaks_add_of_lt (extra : Nat) (bounded : nodes.length < 2 ^ (rows + 1)) :
    peaks hash (rows + extra) nodes = peaks hash rows nodes := by
  induction extra with
  | zero => rfl
  | succ extra ih =>
    have larger : 2 ^ (rows + 1) ≤ 2 ^ (rows + extra + 1) :=
      Nat.pow_le_pow_right (by omega) (by omega)
    rw [← Nat.add_assoc, peaks_succ_of_lt hash (by omega), ih]

/-- Appending to an even row leaves the new node behind. -/
theorem peaks_append_of_even (node : α) (even : nodes.length % 2 = 0) :
    peaks hash (rows + 1) (nodes ++ [node]) = peaks hash (rows + 1) nodes ++ [node] := by
  rw [peaks_succ, peaks_succ, leftover_append_singleton node even, leftover_of_even even,
    pairUp_append_of_even hash [node] even]
  simp

/-- The node left behind by an odd row is the last peak. -/
theorem peaks_of_odd (last : α) (even : nodes.length % 2 = 0) :
    peaks hash (rows + 1) (nodes ++ [last]) = peaks hash rows (pairUp hash nodes) ++ [last] := by
  rw [peaks_succ, leftover_append_singleton last even, pairUp_append_of_even hash [last] even]
  simp

/-- Appending to an odd row merges the new node with the last peak and carries
the result into the row above. -/
theorem peaks_append_of_odd (last node : α) (even : nodes.length % 2 = 0) :
    peaks hash (rows + 1) (nodes ++ [last] ++ [node]) =
      peaks hash rows (pairUp hash nodes ++ [hash last node]) := by
  have evenAgain : (nodes ++ [last] ++ [node]).length % 2 = 0 := by
    simp only [length_append, length_singleton]
    omega
  rw [peaks_succ, leftover_of_even evenAgain, append_nil, append_assoc,
    pairUp_append_of_even hash _ even]
  rfl

/-! ## Heights and offsets of the peaks -/

/-- Heights of the peaks over `n` leaves with `rows` rows above them: one peak of
the greatest height for each complete tree of that height, then one peak for each
binary digit of `n` below it. -/
def peakHeights (rows n : Nat) : List Nat :=
  replicate (n / 2 ^ rows) rows ++ (range rows).reverse.filter n.testBit

theorem peakHeights_zero (n : Nat) : peakHeights 0 n = replicate n 0 := by
  simp [peakHeights]

theorem peakHeights_succ (rows n : Nat) : peakHeights (rows + 1) n =
      (peakHeights rows (n / 2)).map (· + 1) ++ if n % 2 = 1 then [0] else [] := by
  have digits : (range (rows + 1)).reverse.filter n.testBit =
      ((range rows).reverse.filter (n / 2).testBit).map (· + 1) ++
        if n % 2 = 1 then [0] else [] := by
    have shifted : (n.testBit ∘ succ) = (n / 2).testBit := by
      funext digit
      simp [testBit_succ]
    rw [range_succ_eq_map, reverse_cons, filter_append, ← map_reverse, filter_map, shifted]
    rcases mod_two_eq_zero_or_one n with even | odd
    · simp [testBit_zero, even]
    · simp [testBit_zero, odd]
  rw [peakHeights, digits, peakHeights, map_append, append_assoc,
    map_replicate, Nat.div_div_eq_div_mul, ← Nat.pow_succ']

/-- Number of leaves under the first `count` peaks. -/
def peakOffset (rows n count : Nat) : Nat :=
  (((peakHeights rows n).take count).map (2 ^ ·)).sum

theorem sum_map_two_pow_succ (heights : List Nat) :
    ((heights.map (· + 1)).map (2 ^ ·)).sum = 2 * (heights.map (2 ^ ·)).sum := by
  induction heights with
  | nil => rfl
  | cons height heights ih =>
    simp only [map_cons, sum_cons, ih, Nat.pow_succ]
    omega

/-- Together the peaks cover all leaves. -/
theorem sum_peakHeights (rows n : Nat) : ((peakHeights rows n).map (2 ^ ·)).sum = n := by
  induction rows generalizing n with
  | zero => simp [peakHeights_zero]
  | succ rows ih =>
    rw [peakHeights_succ, map_append, sum_append_nat, sum_map_two_pow_succ, ih]
    split <;> simp <;> omega

theorem length_peaks (rows : Nat) (nodes : List α) :
    (peaks hash rows nodes).length = (peakHeights rows nodes.length).length := by
  induction rows generalizing nodes with
  | zero => simp [peakHeights_zero]
  | succ rows ih =>
    rw [peaks_succ, peakHeights_succ, length_append, length_append, ih,
      length_pairUp, length_map, length_leftover]
    split <;> simp <;> omega

/-- One more row halves the number of peaks of the greatest height. -/
theorem length_peakHeights_succ (rows n : Nat) :
    (peakHeights (rows + 1) n).length + n / 2 ^ rows / 2 = (peakHeights rows n).length := by
  have digit : n.testBit rows = decide (n / 2 ^ rows % 2 = 1) :=
    testBit_eq_decide_div_mod_eq
  simp only [peakHeights, length_append, length_replicate, range_succ,
    reverse_append, reverse_singleton, singleton_append, filter_cons,
    digit, Nat.pow_succ, ← Nat.div_div_eq_div_mul, decide_eq_true_eq]
  split <;> simp <;> omega

theorem length_peakHeights_le {rows' : Nat} (n : Nat) (more : rows ≤ rows') :
    (peakHeights rows' n).length ≤ (peakHeights rows n).length := by
  induction more with
  | refl => exact Nat.le_refl _
  | @step rows' _ ih => exact Nat.le_trans (Nat.le.intro (length_peakHeights_succ rows' n)) ih

theorem countP_testBit_range {n width : Nat} (extra : Nat) (bounded : n < 2 ^ width) :
    (range (width + extra)).countP n.testBit = (range width).countP n.testBit := by
  induction extra with
  | zero => rfl
  | succ extra ih =>
    have larger : 2 ^ width ≤ 2 ^ (width + extra) := Nat.pow_le_pow_right (by omega) (by omega)
    have clear : n.testBit (width + extra) = false := testBit_lt_two_pow (by omega)
    rw [← Nat.add_assoc, range_succ, countP_append, ih]
    simp [clear]

/-- With enough rows there is one peak for each binary digit of the number of leaves. -/
theorem length_peakHeights_eq_countP {n width : Nat} (rowsBound : n < 2 ^ (rows + 1))
    (widthBound : n < 2 ^ width) :
    (peakHeights rows n).length = (range width).countP n.testBit := by
  have halved := length_peakHeights_succ rows n
  have single : n / 2 ^ rows / 2 = 0 := by
    rw [Nat.div_div_eq_div_mul, ← Nat.pow_succ, div_eq_of_lt rowsBound]
  have digits : (peakHeights (rows + 1) n).length = (range (rows + 1)).countP n.testBit := by
    rw [peakHeights, div_eq_of_lt rowsBound, replicate_zero, nil_append,
      ← countP_eq_length_filter, countP_reverse]
  rw [← halved, single, Nat.add_zero, digits]
  rcases Nat.le_total (rows + 1) width with less | more
  · obtain ⟨extra, rfl⟩ := Nat.exists_eq_add_of_le less
    exact (countP_testBit_range extra rowsBound).symm
  · obtain ⟨extra, equal⟩ := Nat.exists_eq_add_of_le more
    rw [equal]
    exact countP_testBit_range extra widthBound

/-- The peak with a given number is the node of its row that starts at the
peak's offset. -/
theorem getElem?_peaks {count : Nat} {peak : α}
    (selected : (peaks hash rows nodes)[count]? = some peak) :
    ∃ height index, (peakHeights rows nodes.length)[count]? = some height ∧
      peakOffset rows nodes.length count = index * 2 ^ height ∧
      (row hash height nodes)[index]? = some peak := by
  induction rows generalizing nodes with
  | zero =>
    have bound := (List.getElem?_eq_some_iff.mp selected).1
    rw [peaks_zero] at bound
    refine ⟨0, count, ?_, ?_, selected⟩
    · simp [peakHeights_zero, bound]
    · simp [peakOffset, peakHeights_zero, Nat.min_eq_left (Nat.le_of_lt bound)]
  | succ rows ih =>
    rw [peaks_succ] at selected
    have sameLength := length_peaks hash rows (pairUp hash nodes)
    rw [length_pairUp] at sameLength
    by_cases inside : count < (peaks hash rows (pairUp hash nodes)).length
    · rw [getElem?_append_left inside] at selected
      obtain ⟨height, index, heightAt, offset, nodeAt⟩ := ih selected
      rw [length_pairUp] at heightAt offset
      have insideHeights : count < ((peakHeights rows (nodes.length / 2)).map (· + 1)).length := by
        rw [length_map]
        omega
      refine ⟨height + 1, index, ?_, ?_, nodeAt⟩
      · rw [peakHeights_succ, getElem?_append_left insideHeights, getElem?_map, heightAt]
        rfl
      · rw [peakOffset, peakHeights_succ,
          take_append_of_le_length (Nat.le_of_lt insideHeights), ← map_take,
          sum_map_two_pow_succ]
        rw [peakOffset] at offset
        rw [offset, Nat.pow_succ]
        ring
    · rw [getElem?_append_right (Nat.le_of_not_lt inside)] at selected
      have single := (List.getElem?_eq_some_iff.mp selected).1
      rw [length_leftover] at single
      have odd : nodes.length % 2 = 1 := by omega
      have position : count = (peaks hash rows (pairUp hash nodes)).length := by omega
      rw [position, Nat.sub_self, leftover, if_pos odd] at selected
      have lastAt : nodes[nodes.length - 1]? = some peak := by
        rw [← getLast?_eq_getElem?]
        cases atEnd : nodes.getLast? with
        | none => simp [atEnd] at selected
        | some last => simpa [atEnd] using selected
      have boundary : count = ((peakHeights rows (nodes.length / 2)).map (· + 1)).length := by
        rw [length_map]
        omega
      refine ⟨0, nodes.length - 1, ?_, ?_, lastAt⟩
      · rw [peakHeights_succ, if_pos odd, boundary, getElem?_append_right (Nat.le_refl _)]
        simp
      · rw [peakOffset, peakHeights_succ, if_pos odd, boundary, take_left,
          sum_map_two_pow_succ, sum_peakHeights]
        omega

/-! ## Climbs -/

/-- Climb from the node at `index` of a row through the given siblings: at an even
index the node is the left child, at an odd index the right child. -/
def climb : Nat → α → List α → α
  | _, node, [] => node
  | index, node, sibling :: siblings =>
    climb (index / 2) (if index % 2 = 0 then hash node sibling else hash sibling node) siblings

theorem climb_append_singleton (index : Nat) (node : α) (siblings : List α) (last : α) :
    climb hash index node (siblings ++ [last]) = if index / 2 ^ siblings.length % 2 = 0 then
        hash (climb hash index node siblings) last
      else hash last (climb hash index node siblings) := by
  induction siblings generalizing index node with
  | nil => simp [climb]
  | cons sibling siblings ih =>
    simp only [cons_append, climb, length_cons]
    rw [ih, Nat.div_div_eq_div_mul, ← Nat.pow_succ']

variable {siblings : List α}

/-- A climb reads only as many digits of the index as there are siblings. -/
theorem climb_mod {index digits : Nat} (node : α) (enough : siblings.length ≤ digits) :
    climb hash (index % 2 ^ digits) node siblings = climb hash index node siblings := by
  induction siblings generalizing index digits node with
  | nil => rfl
  | cons sibling siblings ih =>
    cases digits with
    | zero => simp at enough
    | succ digits =>
      have parity : index % 2 ^ (digits + 1) % 2 = index % 2 := by
        rw [Nat.pow_succ', mod_mul_right_mod]
      have half : index % 2 ^ (digits + 1) / 2 = index / 2 % 2 ^ digits := by
        rw [Nat.pow_succ', mod_mul_right_div_self]
      rw [climb, climb, parity, half, ih]
      simpa using enough

/-- Over an injective hash a climb that reaches a node of a row has exactly one
sibling for each row below it and starts from the leaf that its index names, as
long as neither that leaf nor the row's leaves are themselves hashes. -/
theorem climb_sound (injective : ∀ left right left' right', hash left right = hash left' right' →
      left = left' ∧ right = right') {leaves : List α}
    (leavesFresh : ∀ leaf ∈ leaves, ∀ left right, leaf ≠ hash left right) {start : α}
    (startFresh : ∀ left right, start ≠ hash left right) {index height position : Nat}
    (reached : (row hash height leaves)[position]? = some (climb hash index start siblings)) :
    siblings.length = height ∧
      leaves[position * 2 ^ height + index % 2 ^ height]? = some start := by
  induction height generalizing position siblings with
  | zero =>
    cases siblings using reverseRecOn with
    | nil => simpa [climb, mod_one] using reached
    | append_singleton siblings last =>
      have leafMem : climb hash index start (siblings ++ [last]) ∈ leaves :=
        mem_of_getElem? reached
      rw [climb_append_singleton] at leafMem
      split at leafMem <;> exact absurd rfl (leavesFresh _ leafMem _ _)
  | succ height ih =>
    rw [row_succ_eq_pairUp] at reached
    obtain ⟨left, right, leftAt, rightAt, parent⟩ :=
      children_of_getElem?_pairUp hash reached
    cases siblings using reverseRecOn with
    | nil => exact absurd parent (startFresh left right)
    | append_singleton siblings last =>
      rw [climb_append_singleton] at parent
      have weight : 2 ^ (height + 1) = 2 * 2 ^ height := Nat.pow_succ'
      have digits := mod_mul_left_div_self index (2 ^ height) 2
      have low := mod_mod_of_dvd index (Nat.dvd_mul_left (2 ^ height) 2)
      have recombine := div_add_mod (index % (2 * 2 ^ height)) (2 ^ height)
      have target : position * 2 ^ (height + 1) + index % 2 ^ (height + 1) =
          (2 * position + index / 2 ^ height % 2) * 2 ^ height + index % 2 ^ height := by
        rw [weight, ← recombine, digits, low]
        ring
      rw [target]
      split at parent
      next even =>
        rw [← (injective _ _ _ _ parent).1] at leftAt
        obtain ⟨lengths, leafAt⟩ := ih leftAt
        rw [lengths] at even
        rw [even]
        exact ⟨by simp [lengths], leafAt⟩
      next odd =>
        rw [← (injective _ _ _ _ parent).2] at rightAt
        obtain ⟨lengths, leafAt⟩ := ih rightAt
        rw [lengths] at odd
        have one : index / 2 ^ height % 2 = 1 := by omega
        rw [one]
        exact ⟨by simp [lengths], leafAt⟩

end HashForest
