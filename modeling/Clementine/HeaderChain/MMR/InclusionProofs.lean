import Clementine.HeaderChain.MMR.Refinement

/-!
# Completeness and soundness of inclusion proofs

An honest proof climbs from a leaf to the peak over it.  The sibling walk stops by
comparing an index with the length of its level, while the number of the peak and
the index inside it come from the binary digits of the number of leaves and of the
leaf's index; the two computations meet in the highest digit in which these two
numbers differ.

A verifier compares neither the length of a proof with the height of the peak nor
the index with its size.  Over an injective hash this costs nothing as long as
leaves are not themselves hashes of two nodes.
-/

namespace Clementine

open HashForest UInt32

variable {Node : Type} (hashPair : Node → Node → Node)

/-! ## Replaying a path -/

theorem and_shift_eq_zero_iff (value : UInt32) {digit : Nat} (bounded : digit < 32) :
    value &&& (1 <<< ofNat digit) = 0 ↔ value.toNat / 2 ^ digit % 2 = 0 := by
  have power : 2 ^ digit < 2 ^ 32 := Nat.pow_lt_pow_right (by omega) bounded
  have shift : ((1 : UInt32) <<< ofNat digit).toNat = 2 ^ digit := by
    rw [UInt32.toNat_shiftLeft, toNat_ofNat']
    rw [Nat.mod_eq_of_lt (by omega : digit < 2 ^ 32), Nat.mod_eq_of_lt bounded,
      toNat_one, Nat.one_shiftLeft, Nat.mod_eq_of_lt power]
  rw [← UInt32.toNat_inj, UInt32.toNat_and, shift, Nat.and_two_pow,
    Nat.testBit_eq_decide_div_mod_eq]
  have positive : 2 ^ digit ≠ 0 := Nat.two_pow_pos digit |>.ne'
  rcases Nat.mod_two_eq_zero_or_one (value.toNat / 2 ^ digit) with even | odd
  · simp [even]
  · simp [odd]

/-- The rounds of the path replay from a position on: the digits above it are left. -/
theorem foldl_eq_climb (internalIdx : UInt32) (siblings : List Node) (first : Nat)
    (current : Node) (bounded : first + siblings.length ≤ 32) :
    (siblings.zipIdx first).foldl (fun currentHash entry =>
          if internalIdx &&& (1 <<< ofNat entry.2) = 0 then
            hashPair currentHash entry.1
          else
            hashPair entry.1 currentHash) current =
      climb hashPair (internalIdx.toNat / 2 ^ first) current siblings := by
  induction siblings generalizing first current with
  | nil => rfl
  | cons sibling siblings ih =>
    rw [List.length_cons] at bounded
    rw [List.zipIdx_cons, List.foldl_cons, ih (first + 1) _ (by omega), climb,
      Nat.div_div_eq_div_mul, ← Nat.pow_succ]
    simp only [and_shift_eq_zero_iff internalIdx (by omega : first < 32)]

/-- With at most 32 siblings no shift wraps, and the replay is a climb. -/
theorem replayPath_eq_climb (internalIdx : UInt32) (siblings : List Node) (leaf : Node)
    (short : siblings.length ≤ 32) :
    replayPath hashPair internalIdx siblings leaf =
      climb hashPair internalIdx.toNat leaf siblings := by
  have replayed := foldl_eq_climb hashPair internalIdx siblings 0 leaf (by omega)
  rw [Nat.pow_zero, Nat.div_one] at replayed
  exact replayed

/-! ## Soundness -/

/-- A guest range accepts a proof with fewer than 32 siblings only for the leaf at the
position that the proof names, whatever the siblings are. -/
theorem verifyProof_sound [DecidableEq Node]
    (injective : ∀ left right left' right', hashPair left right = hashPair left' right' →
      left = left' ∧ right = right')
    (leaves : List Node) (leavesFresh : ∀ leaf ∈ leaves, ∀ left right, leaf ≠ hashPair left right)
    (queried : Node) (queriedFresh : ∀ left right, queried ≠ hashPair left right)
    (guest : MMRGuest Node) (built : MMRGuest.ofLeaves hashPair leaves = .ok guest)
    (mmrProof : MMRInclusionProof Node) (short : mmrProof.inclusionProof.length < 32)
    (accepted : guest.verifyProof hashPair queried mmrProof = true) :
    ∃ height, (peakHeights 32 leaves.length)[mmrProof.subrootIdx]? = some height ∧
      leaves[peakOffset 32 leaves.length mmrProof.subrootIdx +
        mmrProof.internalIdx.toNat % 2 ^ height]? = some queried := by
  rw [MMRGuest.ofLeaves_eq, Except.ok.injEq] at built
  subst built
  rw [MMRGuest.verifyProof, decide_eq_true_eq,
    replayPath_eq_climb hashPair _ _ _ (Nat.le_of_lt short)] at accepted
  obtain ⟨height, position, heightAt, offset, peakAt⟩ := getElem?_peaks hashPair accepted
  obtain ⟨-, leafAt⟩ := climb_sound hashPair injective leavesFresh queriedFresh peakAt
  refine ⟨height, heightAt, ?_⟩
  rw [offset]
  exact leafAt

/-- Digests of a symbolic hash, which has no collisions. -/
inductive SymbolicNode where
  | leaf (label : Nat)
  | pair (left right : SymbolicNode)
  deriving Repr, DecidableEq

/-- Three symbolic leaves, the third of them proved by an empty path to the second
peak. -/
theorem verifyProof_sound_third_leaf : ∃ height, (peakHeights 32 3)[1]? = some height ∧
      [SymbolicNode.leaf 0, .leaf 1, .leaf 2][peakOffset 32 3 1 + 5 % 2 ^ height]? =
        some (.leaf 2) :=
  verifyProof_sound SymbolicNode.pair (fun _ _ _ _ equal => SymbolicNode.pair.inj equal)
    [.leaf 0, .leaf 1, .leaf 2] (by simp) (.leaf 2) (by simp)
    ⟨[.pair (.leaf 0) (.leaf 1), .leaf 2], 3⟩ (by rfl) ⟨1, 5, []⟩ (by decide) (by decide)

/-! ## Completeness -/

variable {size index : Nat}

theorem xor_eq_one (odd : size % 2 = 1) (last : index = size - 1) : size ^^^ index = 1 := by
  have half : (size ^^^ index) / 2 = 0 := by
    rw [Nat.xor_div_two, show index / 2 = size / 2 by omega, Nat.xor_self]
  have digit : (size ^^^ index) % 2 = 1 := by
    rw [Nat.xor_mod_two_eq]
    omega
  omega

theorem log2_xor_of_not_last (inside : index < size) (notLast : ¬(index = size - 1 ∧ size % 2 = 1))
    :
    (size ^^^ index).log2 = (size / 2 ^^^ index / 2).log2 + 1 ∧ index / 2 < size / 2 := by
  have below : index / 2 < size / 2 := by omega
  have different : (size ^^^ index) / 2 ≠ 0 := by
    rw [Nat.xor_div_two, Ne, Nat.xor_eq_zero_iff]
    omega
  rw [Nat.log2_def, if_pos (by omega), Nat.xor_div_two]
  exact ⟨rfl, below⟩

/-- Number of binary digits of `size` above `digit`, counted over `width` places. -/
def higherDigits (size digit width : Nat) : Nat :=
  (List.range' (digit + 1) width).countP size.testBit

theorem higherDigits_eq (size digit width : Nat) :
    higherDigits size digit width = (List.range' digit width).countP (size / 2).testBit := by
  have shifted : (size.testBit ∘ (1 + ·)) = (size / 2).testBit := by
    funext place
    simp [Nat.add_comm 1, Nat.testBit_succ]
  rw [higherDigits, Nat.add_comm, ← List.map_add_range', List.countP_map, shifted]

theorem higherDigits_succ (size digit width : Nat) :
    higherDigits size (digit + 1) width = higherDigits (size / 2) digit width :=
  higherDigits_eq size (digit + 1) width

namespace MMRNative

theorem last_iff {size : Nat} (index : UInt32) (small : size < 2 ^ 32) :
    (index = ofNat size - 1 ∧ size % 2 = 1) ↔ (index.toNat = size - 1 ∧ size % 2 = 1) := by
  have sizeEq : (ofNat size).toNat = size := by
    rw [toNat_ofNat', Nat.mod_eq_of_lt small]
  apply and_congr_left
  intro odd
  have lastEq : (ofNat size - 1).toNat = size - 1 := by
    rw [UInt32.toNat_sub, sizeEq, toNat_one]
    omega
  rw [← UInt32.toNat_inj, lastEq]

variable {index : UInt32} {nodes : List Node}

theorem siblingPath_of_last {above : List (List Node)} (small : nodes.length < 2 ^ 32)
    (last : index.toNat = nodes.length - 1 ∧ nodes.length % 2 = 1) :
    siblingPath (nodes :: above) index = .ok [] := by
  rw [siblingPath, if_pos ((last_iff index small).mpr last)]

variable {leaf : Node}

/-- A step of the walk below the top finds a sibling and hashes it with the current
node to a node of the row above. -/
theorem siblingPath_of_not_last (above : List (List Node)) (small : nodes.length < 2 ^ 32)
    (leafAt : nodes[index.toNat]? = some leaf)
    (notLast : ¬(index.toNat = nodes.length - 1 ∧ nodes.length % 2 = 1)) :
    ∃ sibling, (pairUp hashPair nodes)[(index / 2).toNat]? =
        some (if index.toNat % 2 = 0 then hashPair leaf sibling else hashPair sibling leaf) ∧
      siblingPath (nodes :: above) index = (siblingPath above (index / 2)).map (sibling :: ·) := by
  have inside := (List.getElem?_eq_some_iff.mp leafAt).1
  have parity : index % 2 = 0 ↔ index.toNat % 2 = 0 := by
    rw [← UInt32.toNat_inj, UInt32.toNat_mod]
    rfl
  have half : (index / 2).toNat = index.toNat / 2 := by
    rw [UInt32.toNat_div]
    rfl
  have unfolded : ∀ sibling siblingIndex,
      (if index % 2 = 0 then index + 1 else index - 1).toNat = siblingIndex →
      nodes[siblingIndex]? = some sibling →
      siblingPath (nodes :: above) index = (siblingPath above (index / 2)).map (sibling :: ·) := by
    intro sibling siblingIndex position siblingAt
    rw [siblingPath, if_neg (mt (last_iff index small).mp notLast)]
    simp only [position, vecIndex_eq_ok.mpr siblingAt, bind, Except.bind]
    cases siblingPath above (index / 2) <;> rfl
  rcases Nat.mod_two_eq_zero_or_one index.toNat with even | odd
  · have siblingAt := List.getElem?_eq_getElem (l := nodes) (i := index.toNat + 1) (by omega)
    refine ⟨_, ?_, unfolded _ (index.toNat + 1) ?_ siblingAt⟩
    · rw [if_pos even, half]
      have position : 2 * (index.toNat / 2) = index.toNat := by omega
      exact getElem?_pairUp hashPair nodes (by rw [position]; exact leafAt)
        (by rw [position]; exact siblingAt)
    · rw [if_pos (parity.mpr even), UInt32.toNat_add, toNat_one]
      omega
  · have siblingAt := List.getElem?_eq_getElem (l := nodes) (i := index.toNat - 1) (by omega)
    refine ⟨_, ?_, unfolded _ (index.toNat - 1) ?_ siblingAt⟩
    · rw [if_neg (by omega), half]
      have position : 2 * (index.toNat / 2) = index.toNat - 1 := by omega
      have next : index.toNat - 1 + 1 = index.toNat := by omega
      exact getElem?_pairUp hashPair nodes (by rw [position]; exact siblingAt)
        (by rw [position, next]; exact leafAt)
    · rw [if_neg (by rw [parity]; omega), UInt32.toNat_sub, toNat_one]
      have bound := index.toNat_lt
      omega

/-- The walk from a leaf ends at the highest digit in which the size and the index
differ, never leaves a level, and climbs to the peak that comes after as many peaks
as the size has digits above that one. -/
theorem siblingPath_levels (rows : Nat) (nodes : List Node) (index : UInt32) {width : Nat}
    (rowsBound : nodes.length < 2 ^ (rows + 1))
    (widthBound : nodes.length < 2 ^ ((nodes.length ^^^ index.toNat).log2 + 1 + width))
    (small : nodes.length < 2 ^ 32) (leafAt : nodes[index.toNat]? = some leaf) :
    ∃ path, siblingPath (levels hashPair rows nodes) index = .ok path ∧
      path.length = (nodes.length ^^^ index.toNat).log2 ∧
      (peaks hashPair rows nodes)[higherDigits nodes.length
        (nodes.length ^^^ index.toNat).log2 width]? =
          some (climb hashPair index.toNat leaf path) := by
  induction rows generalizing nodes index leaf with
  | zero =>
    have inside := (List.getElem?_eq_some_iff.mp leafAt).1
    have size : nodes.length = 1 := by omega
    have first : index.toNat = 0 := by omega
    refine ⟨[], siblingPath_of_last small (by omega), ?_, ?_⟩
    · rw [size, first]
      rfl
    · have clear : higherDigits 1 (1 ^^^ 0 : Nat).log2 width = 0 := by
        rw [higherDigits_eq]
        simp
      rw [size, first, clear]
      rw [first] at leafAt
      exact leafAt
  | succ rows ih =>
    have inside := (List.getElem?_eq_some_iff.mp leafAt).1
    rw [levels_succ, peaks_succ]
    by_cases last : index.toNat = nodes.length - 1 ∧ nodes.length % 2 = 1
    · refine ⟨[], siblingPath_of_last small last, ?_, ?_⟩
      · rw [xor_eq_one last.2 last.1]
        rfl
      · have half : nodes.length / 2 < 2 ^ (rows + 1) := by
          rw [Nat.pow_succ] at rowsBound
          omega
        have halfWidth : nodes.length / 2 < 2 ^ width := by
          rw [xor_eq_one last.2 last.1, show Nat.log2 1 = 0 from rfl, Nat.add_right_comm,
            Nat.zero_add, Nat.pow_succ] at widthBound
          omega
        have position : higherDigits nodes.length 0 width =
            (peaks hashPair rows (pairUp hashPair nodes)).length := by
          rw [higherDigits_eq, ← List.range_eq_range', length_peaks, length_pairUp,
            length_peakHeights_eq_countP half halfWidth]
        have lastNode : leftover nodes = [leaf] := by
          rw [leftover, if_pos last.2, List.getLast?_eq_getElem?, ← last.1, leafAt]
          rfl
        rw [xor_eq_one last.2 last.1, lastNode, show Nat.log2 1 = 0 from rfl, position]
        simp [climb]
    · obtain ⟨log, below⟩ := log2_xor_of_not_last inside last
      obtain ⟨sibling, parentAt, walked⟩ :=
        siblingPath_of_not_last hashPair (levels hashPair rows (pairUp hashPair nodes))
          small leafAt last
      have half : (pairUp hashPair nodes).length = nodes.length / 2 := length_pairUp _ _
      have indexHalf : (index / 2).toNat = index.toNat / 2 := by
        rw [UInt32.toNat_div]
        rfl
      obtain ⟨path, rest, pathLength, peakAt⟩ :=
        ih (pairUp hashPair nodes) (index / 2) (by rw [half]; rw [Nat.pow_succ] at rowsBound; omega)
          (by
            rw [half, indexHalf]
            rw [log, show ∀ digit, digit + 1 + 1 + width = digit + 1 + width + 1 by omega,
              Nat.pow_succ] at widthBound
            omega)
          (by omega) parentAt
      rw [half, indexHalf] at pathLength peakAt
      refine ⟨sibling :: path, ?_, ?_, ?_⟩
      · rw [walked, rest]
        rfl
      · rw [List.length_cons, pathLength, log]
      · rw [log, higherDigits_succ,
          List.getElem?_append_left (List.getElem?_eq_some_iff.mp peakAt).1, peakAt, climb]

theorem log2_lt_32 {value : Nat} (bounded : value < 2 ^ 32) : value.log2 < 32 := by
  by_cases zero : value = 0
  · simp [zero]
  · exact (Nat.log2_lt zero).mpr bounded

theorem usizeSub_leadingZeros {value : UInt32} (nonzero : value.toNat ≠ 0) :
    usizeSub 31 (leadingZeros value) = value.toNat.log2 := by
  have notZero : ¬value = 0 := fun zero => nonzero (by simp [zero])
  have small : value.toNat.log2 < 32 := log2_lt_32 value.toNat_lt
  rw [leadingZeros, if_neg notZero, usizeSub]
  omega

/-- The helpers are the number of digits of the size above the highest digit in which
size and index differ, and the digits of the index below it. -/
theorem getHelpersFromIndex_eq {size : Nat} (small : size < 2 ^ 32) (inside : index.toNat < size) :
    ∃ width, size < 2 ^ ((size ^^^ index.toNat).log2 + 1 + width) ∧
      (getHelpersFromIndex size index).1 = higherDigits size (size ^^^ index.toNat).log2 width ∧
      (getHelpersFromIndex size index).2.toNat = index.toNat % 2 ^ (size ^^^ index.toNat).log2 := by
  have sizeEq : (ofNat size).toNat = size := by
    rw [toNat_ofNat', Nat.mod_eq_of_lt small]
  have xorEq : (ofNat size ^^^ index).toNat = size ^^^ index.toNat := by
    rw [UInt32.toNat_xor, sizeEq]
  have xorNonzero : size ^^^ index.toNat ≠ 0 := by
    rw [Ne, Nat.xor_eq_zero_iff]
    omega
  have digitEq : usizeSub 31 (leadingZeros (ofNat size ^^^ index)) =
      (size ^^^ index.toNat).log2 := by
    rw [usizeSub_leadingZeros (by rw [xorEq]; exact xorNonzero), xorEq]
  have topEq : usizeSub 31 (leadingZeros (ofNat size)) = size.log2 := by
    rw [usizeSub_leadingZeros (by omega), sizeEq]
  have digitSmall : (size ^^^ index.toNat).log2 < 32 := by
    rw [← xorEq]
    exact log2_lt_32 (toNat_lt _)
  have upper : size < 2 ^ (size.log2 + 1) := Nat.lt_log2_self
  have first : ((size ^^^ index.toNat).log2 + 1) % 2 ^ 64 =
      (size ^^^ index.toNat).log2 + 1 := by omega
  have bits : (fun i => decide (size &&& (1 <<< i) ≠ 0)) = size.testBit := by
    funext place
    rw [Nat.one_shiftLeft, Nat.and_two_pow]
    cases size.testBit place <;> simp
  have power : 2 ^ (size ^^^ index.toNat).log2 < 2 ^ 32 :=
    Nat.pow_lt_pow_right (by omega) digitSmall
  have positive : 0 < 2 ^ (size ^^^ index.toNat).log2 := Nat.two_pow_pos _
  have mask : ((1 : UInt32) <<< ofNat (size ^^^ index.toNat).log2 - 1).toNat =
      2 ^ (size ^^^ index.toNat).log2 - 1 := by
    rw [UInt32.toNat_sub, UInt32.toNat_shiftLeft, toNat_ofNat',
      Nat.mod_eq_of_lt (by omega : (size ^^^ index.toNat).log2 < 2 ^ 32),
      Nat.mod_eq_of_lt digitSmall, toNat_one, Nat.one_shiftLeft, Nat.mod_eq_of_lt power]
    omega
  refine ⟨size.log2 - (size ^^^ index.toNat).log2, ?_, ?_, ?_⟩
  · have below : size ^^^ index.toNat < 2 ^ (size.log2 + 1) :=
      Nat.xor_lt_two_pow upper (by omega)
    have order := (Nat.log2_lt xorNonzero).mpr below
    rw [show (size ^^^ index.toNat).log2 + 1 + (size.log2 - (size ^^^ index.toNat).log2) =
      size.log2 + 1 by omega]
    exact upper
  · rw [getHelpersFromIndex]
    simp only [digitEq, topEq, first, bits, higherDigits]
    rw [Nat.add_sub_add_right]
  · rw [getHelpersFromIndex]
    simp only [digitEq]
    rw [UInt32.toNat_and, mask, Nat.and_two_pow_sub_one_eq_mod]

variable {native : MMRNative Node} {leaves : List Node}

theorem generateProof_inside (built : ofLeaves hashPair leaves = .ok native)
    (small : leaves.length < 2 ^ 32) (leafAt : leaves[index.toNat]? = some leaf) :
    ∃ mmrProof, native.generateProof index = .ok (.ok (leaf, mmrProof)) ∧
      (peaks hashPair 32 leaves)[mmrProof.subrootIdx]? =
        some (replayPath hashPair mmrProof.internalIdx mmrProof.inclusionProof leaf) := by
  have inside := (List.getElem?_eq_some_iff.mp leafAt).1
  have upper : leaves.length < 2 ^ (leaves.length.log2 + 1) := Nat.lt_log2_self
  obtain ⟨width, widthBound, subrootEq, internalEq⟩ := getHelpersFromIndex_eq small inside
  obtain ⟨path, walked, pathLength, peakAt⟩ :=
    siblingPath_levels hashPair _ leaves index upper widthBound small leafAt
  have short : path.length < 32 := by
    rw [pathLength]
    exact log2_lt_32 (Nat.xor_lt_two_pow small (by omega))
  rw [ofLeaves_eq, Except.ok.injEq] at built
  subst built
  have leavesAt : vecIndex (levels hashPair leaves.length.log2 leaves) 0 = .ok leaves := by
    rw [vecIndex_eq_ok, getElem?_levels]
    rfl
  have nonempty : leaves.isEmpty = false := by
    cases leaves with
    | nil => simp at inside
    | cons _ _ => rfl
  refine ⟨⟨(getHelpersFromIndex leaves.length index).1,
    (getHelpersFromIndex leaves.length index).2, path⟩, ?_, ?_⟩
  · simp only [generateProof, leavesAt, bind, Except.bind, nonempty, Bool.false_eq_true,
      if_false, if_neg (Nat.not_le_of_lt inside), walked, vecIndex_eq_ok.mpr leafAt]
    rfl
  · rw [replayPath_eq_climb hashPair _ _ _ (Nat.le_of_lt short), subrootEq, internalEq,
      ← pathLength, climb_mod hashPair leaf (Nat.le_refl _), pathLength,
      ← (peaks_eq_iff hashPair leaves).mpr (by omega)]
    exact peakAt

theorem generateProof_outside (built : ofLeaves hashPair leaves = .ok native)
    (outside : leaves.length ≤ index.toNat) :
    ∃ text, native.generateProof index = .ok (.error text) := by
  rw [ofLeaves_eq, Except.ok.injEq] at built
  have leavesAt : vecIndex native.nodes 0 = .ok leaves := by
    rw [vecIndex_eq_ok, ← built, getElem?_levels]
    rfl
  cases empty : leaves.isEmpty with
  | true => exact ⟨_, by simp [generateProof, leavesAt, bind, Except.bind, empty]; rfl⟩
  | false => exact ⟨_, by simp [generateProof, leavesAt, bind, Except.bind, empty, outside]; rfl⟩

end MMRNative

/-- For every index below the number of leaves the native range returns the leaf and a
proof that both ranges accept; for every other index it returns an error. -/
theorem generateProof_complete [DecidableEq Node] (leaves : List Node)
    (small : leaves.length < 2 ^ 32) :
    ∃ native guest, MMRNative.ofLeaves hashPair leaves = .ok native ∧
      MMRGuest.ofLeaves hashPair leaves = .ok guest ∧
      ∀ index : UInt32, (∀ leaf, leaves[index.toNat]? = some leaf →
          ∃ mmrProof, native.generateProof index = .ok (.ok (leaf, mmrProof)) ∧
            native.verifyProof hashPair leaf mmrProof = true ∧
            guest.verifyProof hashPair leaf mmrProof = true) ∧
        (leaves.length ≤ index.toNat →
          ∃ text, native.generateProof index = .ok (.error text)) := by
  have nativeBuilt := MMRNative.ofLeaves_eq hashPair leaves
  refine ⟨_, _, nativeBuilt, MMRGuest.ofLeaves_eq hashPair leaves, fun index => ⟨?_, ?_⟩⟩
  · intro leaf leafAt
    obtain ⟨mmrProof, generated, peakAt⟩ :=
      MMRNative.generateProof_inside hashPair nativeBuilt small leafAt
    refine ⟨mmrProof, generated, ?_, ?_⟩
    · rw [MMRNative.verifyProof, MMRNative.getSubroots_ofLeaves hashPair nativeBuilt,
        (peaks_eq_iff hashPair leaves).mpr (by omega), decide_eq_true_eq]
      exact peakAt
    · rw [MMRGuest.verifyProof, decide_eq_true_eq]
      exact peakAt
  · exact MMRNative.generateProof_outside hashPair nativeBuilt

/-- The second of three symbolic leaves. -/
theorem generateProof_complete_second_leaf : ∃ native guest mmrProof,
      MMRNative.ofLeaves SymbolicNode.pair [.leaf 0, .leaf 1, .leaf 2] = .ok native ∧
      MMRGuest.ofLeaves SymbolicNode.pair [.leaf 0, .leaf 1, .leaf 2] = .ok guest ∧
      native.generateProof 1 = .ok (.ok (.leaf 1, mmrProof)) ∧
      native.verifyProof SymbolicNode.pair (.leaf 1) mmrProof = true ∧
      guest.verifyProof SymbolicNode.pair (.leaf 1) mmrProof = true := by
  obtain ⟨native, guest, nativeEq, guestEq, proofs⟩ :=
    generateProof_complete SymbolicNode.pair [.leaf 0, .leaf 1, .leaf 2] (by simp)
  obtain ⟨mmrProof, generated, accepted⟩ := (proofs 1).1 (.leaf 1) rfl
  exact ⟨native, guest, mmrProof, nativeEq, guestEq, generated, accepted⟩

end Clementine
