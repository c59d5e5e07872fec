import Clementine.Common.Basic

/-!
# The two Merkle mountain ranges

`MMRNative` keeps every node, level by level, and produces inclusion proofs on
the host.  `MMRGuest` keeps the subroots and the number of leaves, and checks
inclusion proofs inside the zkVM.  Both are written over an arbitrary node type:
nothing in them depends on what a digest is.
-/

namespace Clementine

variable {Node : Type}

/-! ## Inclusion proofs -/

/-- Proof of inclusion of one leaf. -/
structure MMRInclusionProof (Node : Type) where
  subrootIdx : Nat
  internalIdx : UInt32
  inclusionProof : List Node
  deriving Repr, DecidableEq

/-- The path replay shared by `MMRInclusionProof::get_subroot` and
`MMRGuest::verify_proof`.  The shift amount wraps at the width of `u32`. -/
def replayPath (hashPair : Node → Node → Node) (internalIdx : UInt32)
    (inclusionProof : List Node) (leaf : Node) : Node :=
  inclusionProof.zipIdx.foldl
    (fun currentHash (sibling, i) =>
      if internalIdx &&& (1 <<< UInt32.ofNat i) = 0 then
        hashPair currentHash sibling
      else
        hashPair sibling currentHash)
    leaf

/-- `MMRInclusionProof::get_subroot`. -/
def MMRInclusionProof.getSubroot (hashPair : Node → Node → Node)
    (self : MMRInclusionProof Node) (leaf : Node) : Node :=
  replayPath hashPair self.internalIdx self.inclusionProof leaf

/-! ## Guest -/

/-- `MMRGuest`: the subroots, largest tree first, and the number of leaves. -/
structure MMRGuest (Node : Type) where
  subroots : List Node
  size : UInt32
  deriving Repr, DecidableEq

namespace MMRGuest

/-- `MMRGuest::new`. -/
def new : MMRGuest Node := ⟨[], 0⟩

/-- The `while size % 2 == 1` loop of `append`, followed by the push.  The vector
is given last element first, so that `pop` takes the head. -/
def mergeSubroots (hashPair : Node → Node → Node) :
    List Node → Node → UInt32 → Except Panic (List Node)
  | [], current, size =>
    if size % 2 = 1 then .error .unwrapNone else .ok [current]
  | sibling :: subroots, current, size =>
    if size % 2 = 1 then
      mergeSubroots hashPair subroots (hashPair sibling current) (size / 2)
    else
      .ok (current :: sibling :: subroots)

/-- `MMRGuest::append`; the size wraps. -/
def append (hashPair : Node → Node → Node) (self : MMRGuest Node) (leaf : Node) :
    Except Panic (MMRGuest Node) := do
  let subroots ← mergeSubroots hashPair self.subroots.reverse leaf self.size
  return ⟨subroots.reverse, self.size + 1⟩

/-- Append leaves one by one to an empty range. -/
def ofLeaves (hashPair : Node → Node → Node) (leaves : List Node) :
    Except Panic (MMRGuest Node) :=
  leaves.foldlM (append hashPair) new

/-- `MMRGuest::verify_proof`. -/
def verifyProof [DecidableEq Node] (hashPair : Node → Node → Node)
    (self : MMRGuest Node) (leaf : Node) (mmrProof : MMRInclusionProof Node) : Bool :=
  self.subroots[mmrProof.subrootIdx]? =
    some (replayPath hashPair mmrProof.internalIdx mmrProof.inclusionProof leaf)

end MMRGuest

/-! ## Native -/

/-- `MMRNative`: all nodes, one vector for each level, leaves first. -/
structure MMRNative (Node : Type) where
  nodes : List (List Node)
  deriving Repr, DecidableEq

/-- `u32::leading_zeros`. -/
def leadingZeros (value : UInt32) : Nat :=
  if value = 0 then 32 else 31 - value.toNat.log2

namespace MMRNative

/-- `MMRNative::new`. -/
def new : MMRNative Node := ⟨[[]]⟩

/-- The loop of `recalculate_peaks`, from `level` through the levels above it: stop at
the first odd level, otherwise push the hash of its last two nodes one level up. -/
def pushPeaks (hashPair : Node → Node → Node) (level : List Node) :
    List (List Node) → Except Panic (List (List Node))
  | [] => .ok [level]
  | next :: above =>
    if level.length % 2 = 1 then
      .ok (level :: next :: above)
    else do
      let left ← vecIndex level (level.length - 2)
      let right ← vecIndex level (level.length - 1)
      let above ← pushPeaks hashPair (next ++ [hashPair left right]) above
      return level :: above

/-- The end of `recalculate_peaks`: a last level of more than one node gets a level
above it. -/
def growTop (hashPair : Node → Node → Node) : List (List Node) → Except Panic (List (List Node))
  | [] => .error .indexOutOfBounds
  | [top] =>
    if top.length > 1 then do
      let left ← vecIndex top 0
      let right ← vecIndex top 1
      return [top, [hashPair left right]]
    else
      .ok [top]
  | level :: above => do
      let above ← growTop hashPair above
      return level :: above

/-- `MMRNative::recalculate_peaks`. -/
def recalculatePeaks (hashPair : Node → Node → Node) :
    List (List Node) → Except Panic (List (List Node))
  | [] => .error .indexOutOfBounds
  | level :: above => do
      let nodes ← pushPeaks hashPair level above
      growTop hashPair nodes

/-- `MMRNative::append`. -/
def append (hashPair : Node → Node → Node) (self : MMRNative Node) (leaf : Node) :
    Except Panic (MMRNative Node) :=
  match self.nodes with
  | [] => .error .indexOutOfBounds
  | leaves :: above => do
      let nodes ← recalculatePeaks hashPair ((leaves ++ [leaf]) :: above)
      return ⟨nodes⟩

/-- Append leaves one by one to an empty range. -/
def ofLeaves (hashPair : Node → Node → Node) (leaves : List Node) :
    Except Panic (MMRNative Node) :=
  leaves.foldlM (append hashPair) new

/-- `MMRNative::get_subroots`: the last node of each odd level, highest level
first. -/
def getSubroots (self : MMRNative Node) : List Node :=
  (self.nodes.filterMap fun level =>
    if level.length % 2 = 1 then level.getLast? else none).reverse

/-- `MMRNative::to_guest_mmr`. -/
def toGuestMmr (self : MMRNative Node) : Except Panic (MMRGuest Node) := do
  let leaves ← vecIndex self.nodes 0
  return ⟨self.getSubroots, UInt32.ofNat leaves.length⟩

/-- The `while` loop of `generate_proof`, from the current level upwards. -/
def siblingPath : List (List Node) → UInt32 → Except Panic (List Node)
  | [], _ => .error .indexOutOfBounds
  | level :: above, currentIndex =>
    if currentIndex = UInt32.ofNat level.length - 1 ∧ level.length % 2 = 1 then
      .ok []
    else do
      let siblingIndex :=
        if currentIndex % 2 = 0 then currentIndex + 1 else currentIndex - 1
      let sibling ← vecIndex level siblingIndex.toNat
      let proof ← siblingPath above (currentIndex / 2)
      return sibling :: proof

/-- `MMRNative::get_helpers_from_index`, over the number of leaves. -/
def getHelpersFromIndex (size : Nat) (index : UInt32) : Nat × UInt32 :=
  let xor := UInt32.ofNat size ^^^ index
  let xorLeadingDigit := usizeSub 31 (leadingZeros xor)
  let internalIdx := index &&& ((1 <<< UInt32.ofNat xorLeadingDigit) - 1)
  let leadingZerosSize := usizeSub 31 (leadingZeros (UInt32.ofNat size))
  let first := (xorLeadingDigit + 1) % 2 ^ 64
  let subtreeIdx := (List.range' first (leadingZerosSize + 1 - first)).countP
    fun i => size &&& (1 <<< i) ≠ 0
  (subtreeIdx, internalIdx)

/-- `MMRNative::generate_proof`.  The outer `Except` is a panic, the inner one the
returned `Result` with the text of its error. -/
def generateProof (self : MMRNative Node) (index : UInt32) :
    Except Panic (Except String (Node × MMRInclusionProof Node)) := do
  let leaves ← vecIndex self.nodes 0
  let size := leaves.length
  if leaves.isEmpty then
    return .error "MMR Native is empty"
  if size ≤ index.toNat then
    return .error s!"Index out of bounds: {index} >= {size}"
  let proof ← siblingPath self.nodes index
  let (subrootIdx, internalIdx) := getHelpersFromIndex size index
  let leaf ← vecIndex leaves index.toNat
  return .ok (leaf, ⟨subrootIdx, internalIdx, proof⟩)

/-- `MMRNative::verify_proof`. -/
def verifyProof [DecidableEq Node] (hashPair : Node → Node → Node)
    (self : MMRNative Node) (leaf : Node) (mmrProof : MMRInclusionProof Node) : Bool :=
  self.getSubroots[mmrProof.subrootIdx]? = some (mmrProof.getSubroot hashPair leaf)

end MMRNative

end Clementine
