import Clementine.Lib.HashForest
import Clementine.HeaderChain.MMR.Model
import Clementine.Lib.ExceptRun

/-!
# The guest range refines the native one

After `n` appends the native range holds all rows of the forest over the leaves,
and the guest range holds its peaks.  The guest's carry is driven by a 32-bit
size, so that its forest has at most 32 rows above the leaves: from `2 ^ 33`
leaves on two peaks of height 32 stay unmerged, while the native range merges
them.  Below that bound the two agree.
-/

namespace Clementine

open HashForest List Nat UInt32 Except

variable {Node : Type} (hashPair : Node → Node → Node)

/-! ## Guest -/

variable {leaves : List Node}

namespace MMRGuest

theorem mergeSubroots_of_even (subroots : List Node) (current : Node) {size : UInt32}
    (even : size % 2 ≠ 1) :
    mergeSubroots hashPair subroots current size = .ok (current :: subroots) := by
  cases subroots <;> simp [mergeSubroots, even]

theorem mod_two_ne_one_iff (size : UInt32) : size % 2 ≠ 1 ↔ size.toNat % 2 = 0 := by
  rw [Ne, ← UInt32.toNat_inj, UInt32.toNat_mod]
  change ¬size.toNat % 2 = 1 ↔ _
  omega

/-- The carry loop appends one node to the peaks of a forest whose number of rows
is the number of digits that the size keeps. -/
theorem mergeSubroots_peaks (rows : Nat) (nodes : List Node) (leaf : Node) (size : UInt32)
    (sizeEq : size.toNat = nodes.length % 2 ^ rows) :
    mergeSubroots hashPair (peaks hashPair rows nodes).reverse leaf size =
      .ok (peaks hashPair rows (nodes ++ [leaf])).reverse := by
  induction rows generalizing nodes leaf size with
  | zero =>
    have even : size % 2 ≠ 1 := by
      rw [mod_two_ne_one_iff, sizeEq, Nat.pow_zero, mod_one]
    rw [mergeSubroots_of_even hashPair _ _ even]
    simp
  | succ rows ih =>
    have parity : size.toNat % 2 = nodes.length % 2 := by
      rw [sizeEq, Nat.pow_succ', mod_mul_right_mod]
    rcases mod_two_eq_zero_or_one nodes.length with even | odd
    · have evenSize : size % 2 ≠ 1 := by
        rw [mod_two_ne_one_iff, parity, even]
      rw [mergeSubroots_of_even hashPair _ _ evenSize, peaks_append_of_even hashPair leaf even]
      simp
    · cases nodes using reverseRecOn with
      | nil => simp at odd
      | append_singleton nodes last =>
        rw [length_append, length_singleton] at odd sizeEq parity
        have even : nodes.length % 2 = 0 := by omega
        have oddSize : size % 2 = 1 := by
          by_contra evenSize
          have := (mod_two_ne_one_iff size).mp evenSize
          omega
        have halfSize : (size / 2).toNat = (pairUp hashPair nodes).length % 2 ^ rows := by
          have digits := mod_mul_right_div_self (nodes.length + 1) 2 (2 ^ rows)
          rw [UInt32.toNat_div, length_pairUp]
          change size.toNat / 2 = _
          rw [sizeEq, Nat.pow_succ', digits]
          congr 1
          omega
        rw [peaks_of_odd hashPair last even, peaks_append_of_odd hashPair last leaf even,
          reverse_append, reverse_singleton, singleton_append,
          mergeSubroots, if_pos oddSize]
        exact ih _ _ _ halfSize

/-- Appending never panics, and the subroots are the peaks with 32 rows. -/
theorem ofLeaves_eq (leaves : List Node) : ofLeaves hashPair leaves =
      .ok ⟨peaks hashPair 32 leaves, ofNat leaves.length⟩ := by
  induction leaves using reverseRecOn with
  | nil =>
    have none : peaks hashPair 32 ([] : List Node) = [] := by
      rw [← Nat.zero_add 32, peaks_add_of_lt hashPair 32 (by simp)]
      rfl
    rw [none]
    rfl
  | append_singleton leaves leaf ih =>
    have sizeEq : (ofNat leaves.length).toNat = leaves.length % 2 ^ 32 :=
      toNat_ofNat'
    have merged := mergeSubroots_peaks hashPair 32 leaves leaf _ sizeEq
    rw [ofLeaves, foldlM_append, ← ofLeaves, ih]
    simp only [bind, Except.bind, foldlM_cons, foldlM_nil, append, merged, pure,
      Except.pure, reverse_reverse, length_append, length_singleton,
      ofNat_add]
    rfl

/-- A range that is built from leaves takes another leaf. -/
theorem append_ok {guest : MMRGuest Node} (built : ofLeaves hashPair leaves = .ok guest)
    (leaf : Node) :
    ∃ next, guest.append hashPair leaf = .ok next := by
  obtain ⟨before, beforeBuilt, appended⟩ :=
    ExceptRun.run_snoc_iff.mp (ofLeaves_eq hashPair (leaves ++ [leaf]))
  rw [ofLeaves, beforeBuilt, ok.injEq] at built
  exact ⟨_, built ▸ appended⟩

end MMRGuest

/-! ## Native -/

namespace MMRNative

theorem pushPeaks_levels (height : Nat) (nodes : List Node) (leaf : Node) :
    pushPeaks hashPair (nodes ++ [leaf]) (levels hashPair height nodes).tail =
      .ok (levels hashPair height (nodes ++ [leaf])) := by
  induction height generalizing nodes leaf with
  | zero => rfl
  | succ height ih =>
    rw [levels_succ, tail_cons, levels_eq_cons, pushPeaks, levels_succ]
    rcases mod_two_eq_zero_or_one nodes.length with even | odd
    · have oddAfter : (nodes ++ [leaf]).length % 2 = 1 := by
        rw [length_append, length_singleton]
        omega
      rw [if_pos oddAfter, pairUp_append_of_even hashPair [leaf] even, pairUp_singleton,
        append_nil, ← levels_eq_cons]
    · cases nodes using reverseRecOn with
      | nil => simp at odd
      | append_singleton nodes last =>
        rw [length_append, length_singleton] at odd
        have even : nodes.length % 2 = 0 := by omega
        have evenAfter : ¬(nodes ++ [last] ++ [leaf]).length % 2 = 1 := by
          simp only [length_append, length_singleton]
          omega
        have leftAt : vecIndex (nodes ++ [last] ++ [leaf])
            ((nodes ++ [last] ++ [leaf]).length - 2) = .ok last := by
          rw [vecIndex_eq_ok]
          simp
        have rightAt : vecIndex (nodes ++ [last] ++ [leaf])
            ((nodes ++ [last] ++ [leaf]).length - 1) = .ok leaf := by
          rw [vecIndex_eq_ok]
          simp
        have pairs : pairUp hashPair (nodes ++ [last] ++ [leaf]) =
            pairUp hashPair nodes ++ [hashPair last leaf] := by
          rw [append_assoc, pairUp_append_of_even hashPair _ even]
          rfl
        have unpaired : pairUp hashPair (nodes ++ [last]) = pairUp hashPair nodes := by
          rw [pairUp_append_of_even hashPair _ even, pairUp_singleton, append_nil]
        rw [if_neg evenAfter, leftAt, rightAt, pairs, unpaired]
        simp only [bind, Except.bind, ih, pure, Except.pure]

theorem growTop_levels (height : Nat) (nodes : List Node)
    (small : (row hashPair height nodes).length ≤ 2) :
    growTop hashPair (levels hashPair height nodes) = .ok (levels hashPair
        (if (row hashPair height nodes).length = 2 then height + 1 else height) nodes) := by
  induction height generalizing nodes with
  | zero =>
    match nodes, small with
    | [], _ | [_], _ | [_, _], _ => rfl
    | _ :: _ :: _ :: _, small => simp at small
  | succ height ih =>
    have above := ih (pairUp hashPair nodes) small
    rw [← row_succ] at above
    rw [levels_succ, levels_eq_cons, growTop, ← levels_eq_cons, above]
    · split <;> rfl
    · simp

/-- Appending never panics, and the native range holds all rows of the forest up to
the one with a single node. -/
theorem ofLeaves_eq (leaves : List Node) :
    ofLeaves hashPair leaves = .ok ⟨levels hashPair leaves.length.log2 leaves⟩ := by
  induction leaves using reverseRecOn with
  | nil => rfl
  | append_singleton leaves leaf ih =>
    have lower : leaves ≠ [] → 2 ^ leaves.length.log2 ≤ leaves.length := fun nonempty =>
      log2_self_le (length_pos_iff.mpr nonempty).ne'
    have upper : leaves.length < 2 ^ (leaves.length.log2 + 1) := lt_log2_self
    have size : (leaves ++ [leaf]).length = leaves.length + 1 := by simp
    have topLength := length_row hashPair leaves.length.log2 (leaves ++ [leaf])
    rw [size] at topLength
    have small : (row hashPair leaves.length.log2 (leaves ++ [leaf])).length ≤ 2 := by
      rw [topLength]
      apply Nat.div_le_of_le_mul
      rw [Nat.pow_succ] at upper
      omega
    have heightEq : (if (row hashPair leaves.length.log2 (leaves ++ [leaf])).length = 2 then
        leaves.length.log2 + 1 else leaves.length.log2) = (leaves ++ [leaf]).length.log2 := by
      rw [topLength, size]
      symm
      rw [log2_eq_iff (by omega)]
      have pos : 0 < 2 ^ leaves.length.log2 := Nat.pow_pos (by omega)
      rw [topLength, div_le_iff_le_mul_add_pred pos] at small
      split
      next two =>
          have bounds := (Nat.div_eq_iff pos).mp two
          rw [Nat.pow_succ, Nat.pow_succ]
          omega
      next notTwo =>
          constructor
          · by_cases empty : leaves = []
            · simp [empty]
            · have := lower empty
              omega
          · by_contra large
            apply notTwo
            rw [Nat.div_eq_iff pos]
            rw [Nat.pow_succ] at large upper
            omega
    rw [ofLeaves, foldlM_append, ← ofLeaves, ih]
    simp only [bind, Except.bind, foldlM_cons, foldlM_nil, append]
    rw [levels_eq_cons]
    simp only [recalculatePeaks, bind, Except.bind, pushPeaks_levels,
      growTop_levels hashPair _ _ small, heightEq, pure, Except.pure]

theorem getSubroots_levels (height : Nat) (nodes : List Node)
    (single : (row hashPair height nodes).length ≤ 1) :
    getSubroots ⟨levels hashPair height nodes⟩ = peaks hashPair height nodes := by
  induction height generalizing nodes with
  | zero =>
    match nodes, single with
    | [], _ | [_], _ => rfl
    | _ :: _ :: _, single => simp at single
  | succ height ih =>
    have above := ih (pairUp hashPair nodes) single
    rw [getSubroots] at above ⊢
    rw [levels_succ, peaks_succ, ← above, leftover]
    by_cases odd : nodes.length % 2 = 1
    · cases last : nodes.getLast? <;> simp [odd, last]
    · simp [odd]

variable {native : MMRNative Node}

theorem getSubroots_ofLeaves (built : ofLeaves hashPair leaves = .ok native) :
    native.getSubroots = peaks hashPair leaves.length.log2 leaves := by
  rw [ofLeaves_eq, ok.injEq] at built
  subst built
  apply getSubroots_levels
  have upper : leaves.length < 2 ^ (leaves.length.log2 + 1) := lt_log2_self
  rw [length_row]
  apply le_of_lt_succ
  rw [Nat.div_lt_iff_lt_mul (Nat.pow_pos (by omega)), ← Nat.pow_succ']
  exact upper

theorem toGuestMmr_ofLeaves (built : ofLeaves hashPair leaves = .ok native) :
    native.toGuestMmr = .ok ⟨peaks hashPair leaves.length.log2 leaves, ofNat leaves.length⟩ := by
  have subroots := getSubroots_ofLeaves hashPair built
  rw [ofLeaves_eq, ok.injEq] at built
  have leavesAt : vecIndex native.nodes 0 = .ok leaves := by
    rw [vecIndex_eq_ok, ← built, getElem?_levels]
    rfl
  simp only [toGuestMmr, leavesAt, subroots, bind, Except.bind, pure, Except.pure]

end MMRNative

/-- Below `2 ^ 33` leaves the two numbers of rows give the same peaks. -/
theorem peaks_eq_iff (leaves : List Node) :
    peaks hashPair leaves.length.log2 leaves = peaks hashPair 32 leaves ↔
      leaves.length < 2 ^ 33 := by
  have upper : leaves.length < 2 ^ (leaves.length.log2 + 1) := lt_log2_self
  constructor
  · intro equal
    by_contra large
    have lengths := congrArg length equal
    rw [length_peaks, length_peaks] at lengths
    have rows : 33 ≤ leaves.length.log2 := by
      by_contra few
      have bound : 2 ^ (leaves.length.log2 + 1) ≤ 2 ^ 33 :=
        Nat.pow_le_pow_right (by omega) (by omega)
      omega
    have fewer := length_peakHeights_le leaves.length rows
    have halved : (peakHeights 33 leaves.length).length + leaves.length / 2 ^ 32 / 2 =
        (peakHeights 32 leaves.length).length := length_peakHeights_succ 32 leaves.length
    have merged : 2 ≤ leaves.length / 2 ^ 32 := by
      rw [Nat.le_div_iff_mul_le (by decide)]
      omega
    omega
  · intro bounded
    rcases Nat.le_total leaves.length.log2 32 with few | many
    · obtain ⟨extra, rows⟩ := Nat.exists_eq_add_of_le few
      rw [rows, peaks_add_of_lt hashPair extra upper]
    · obtain ⟨extra, rows⟩ := Nat.exists_eq_add_of_le many
      rw [rows, peaks_add_of_lt hashPair extra bounded]

/-- Both ranges accept every list of leaves.  The native levels are the rows of the
forest, and converting the native range gives the guest range exactly when there are
fewer than `2 ^ 33` leaves. -/
theorem native_refines_guest (leaves : List Node) :
    ∃ native guest, MMRNative.ofLeaves hashPair leaves = .ok native ∧
      MMRGuest.ofLeaves hashPair leaves = .ok guest ∧
      (∀ level, (native.nodes[level]?.getD []).length = leaves.length / 2 ^ level) ∧
      (∀ level lower upper, native.nodes[level]? = some lower →
        native.nodes[level + 1]? = some upper →
        ∀ index node, upper[index]? = some node → ∃ left right, lower[2 * index]? = some left ∧
            lower[2 * index + 1]? = some right ∧ node = hashPair left right) ∧
      (native.toGuestMmr = .ok guest ↔ leaves.length < 2 ^ 33) := by
  have nativeBuilt := MMRNative.ofLeaves_eq hashPair leaves
  refine ⟨_, _, nativeBuilt, MMRGuest.ofLeaves_eq hashPair leaves, ?_, ?_, ?_⟩
  · intro level
    rw [getElem?_levels]
    by_cases present : level ≤ leaves.length.log2
    · rw [if_pos present, Option.getD_some, length_row]
    · have upper : leaves.length < 2 ^ (leaves.length.log2 + 1) := Nat.lt_log2_self
      have larger : 2 ^ (leaves.length.log2 + 1) ≤ 2 ^ level :=
        Nat.pow_le_pow_right (by omega) (by omega)
      rw [if_neg present, Nat.div_eq_of_lt (by omega)]
      rfl
  · intro level lower upper lowerAt upperAt index node nodeAt
    rw [getElem?_levels] at lowerAt upperAt
    split at lowerAt
    next =>
        split at upperAt
        next =>
            cases lowerAt
            cases upperAt
            rw [row_succ_eq_pairUp] at nodeAt
            exact children_of_getElem?_pairUp hashPair nodeAt
        next => cases upperAt
    next => cases lowerAt
  · rw [MMRNative.toGuestMmr_ofLeaves hashPair nativeBuilt, ← peaks_eq_iff hashPair leaves]
    simp

/-- The two ranges over `2 ^ 33` zero leaves differ. -/
theorem native_differs_at_two_pow_33 :
    ¬∀ native guest, MMRNative.ofLeaves (Clementine.hashPair fun _ => zeroBytes)
        (List.replicate (2 ^ 33) zeroBytes) = .ok native →
      MMRGuest.ofLeaves (Clementine.hashPair fun _ => zeroBytes)
        (List.replicate (2 ^ 33) zeroBytes) = .ok guest →
      native.toGuestMmr = .ok guest := by
  intro agree
  have nativeBuilt := MMRNative.ofLeaves_eq (Clementine.hashPair fun _ => zeroBytes)
    (replicate (2 ^ 33) zeroBytes)
  have equal := agree _ _ nativeBuilt (MMRGuest.ofLeaves_eq _ _)
  rw [MMRNative.toGuestMmr_ofLeaves _ nativeBuilt, Except.ok.injEq, MMRGuest.mk.injEq] at equal
  have bounded := (peaks_eq_iff _ _).mp equal.1
  rw [length_replicate] at bounded
  exact absurd bounded (Nat.lt_irrefl _)

end Clementine
