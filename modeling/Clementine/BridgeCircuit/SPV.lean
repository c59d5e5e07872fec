import Clementine.BridgeCircuit.MerkleTree
import Clementine.HeaderChain.ChainState

/-!
# Simplified payment verification

`SPV::verify` walks from a transaction to the Merkle root of a block header and from
the header's hash to a subroot of the guest range.  The prover chooses the whole walk:
the index and the number of siblings are not compared with the block.

A walk that ends at the block's Merkle root is nevertheless a walk of the mid-state
tree.  The equal-sibling check refuses the phantom right children of odd levels, the
final index check refuses indices above the tree, and a walk of the wrong length would
make a transaction of 64 bytes out of two hashes.
-/

namespace Clementine

open DuplicatingTree BitcoinMerkleTree BlockInclusionProof List

variable (sha256 : Sha256) (encode : ConsensusEncode)

/-- `SPV`. -/
structure SPV where
  transaction : CircuitTransaction
  blockInclusionProof : BlockInclusionProof
  blockHeader : CircuitBlockHeader
  mmrInclusionProof : MMRInclusionProof Bytes32
  deriving DecidableEq

/-- `SPV::verify`. -/
def SPV.verify (self : SPV) (mmrGuest : MMRGuest Bytes32) : Except Panic Bool := do
  let blockMerkleRoot ←
    self.blockInclusionProof.getRoot sha256 (self.transaction.midStateTxid sha256 encode)
  if blockMerkleRoot ≠ self.blockHeader.merkleRoot then
    return false
  else
    return mmrGuest.verifyProof (hashPair sha256) (self.blockHeader.computeBlockHash sha256)
      self.mmrInclusionProof

/-! ## Hashed strings -/

/-- The string hashed into the parent of two mid-state nodes. -/
def parentString (left right : Bytes32) : List UInt8 :=
  (calculateSha256 sha256 left.toList).toList ++ (calculateSha256 sha256 right.toList).toList

/-- The strings that the nodes of a mid-state tree are hashed from and to. -/
def BitcoinMerkleTree.hashedStrings (self : BitcoinMerkleTree) : List (List UInt8) :=
  self.nodes.flatten.map Vector.toList ++
    (self.nodes.dropLast.flatMap couples).map fun pair => parentString sha256 pair.1 pair.2

/-- The strings that the loop of `get_root` hashes, and the final node. -/
def loopStrings : List Bytes32 → Bytes32 → UInt32 → List (List UInt8)
  | [], combinedHash, _ => [combinedHash.toList]
  | sibling :: path, combinedHash, index =>
    let preimage :=
      if index % 2 = 0 then
        parentString sha256 combinedHash sibling
      else
        parentString sha256 sibling combinedHash
    sibling.toList :: combinedHash.toList :: preimage ::
      loopStrings path (calculateSha256 sha256 preimage) (index / 2)

/-- The strings that `get_root` hashes. -/
def BlockInclusionProof.hashedStrings (self : BlockInclusionProof) (midStateTxid : Bytes32) :
    List (List UInt8) :=
  loopStrings sha256 (self.merkleProof.take (self.merkleProof.length % 2 ^ 32)) midStateTxid
    self.idx

/-- The three hashes of a combination are taken on strings of a set. -/
structure PairHashed (strings : Set (List UInt8)) (left right : Bytes32) : Prop where
  leftHashed : left.toList ∈ strings
  rightHashed : right.toList ∈ strings
  parentHashed : parentString sha256 left right ∈ strings

@[simp] theorem length_parentString (left right : Bytes32) :
    (parentString sha256 left right).length = 64 := by
  simp [parentString]

/-! ## Soundness -/

section Soundness

variable {sha256} {strings : Set (List UInt8)} (collisionFree : Set.InjOn sha256 strings)

include collisionFree

/-- A mid-state node determines the two nodes it was combined from. -/
theorem combineMidState_injective {left right left' right' : Bytes32}
    (pair : PairHashed sha256 strings left right)
    (pair' : PairHashed sha256 strings left' right')
    (equal : combineMidState sha256 left right = combineMidState sha256 left' right') :
    left = left' ∧ right = right' := by
  have preimages : parentString sha256 left right = parentString sha256 left' right' :=
    collisionFree pair.parentHashed pair'.parentHashed equal
  obtain ⟨leftHash, rightHash⟩ := append_inj preimages (by simp)
  have left := collisionFree pair.leftHashed pair'.leftHashed (Vector.toList_inj.mp leftHash)
  have right := collisionFree pair.rightHashed pair'.rightHashed (Vector.toList_inj.mp rightHash)
  exact ⟨Vector.toList_inj.mp left, Vector.toList_inj.mp right⟩

/-- The hash of a string that is not 64 bytes long is no combination. -/
theorem hash_ne_combineMidState {bytes : List UInt8} (hashed : bytes ∈ strings)
    (notPair : bytes.length ≠ 64) {left right : Bytes32}
    (pair : PairHashed sha256 strings left right) :
    sha256 bytes ≠ combineMidState sha256 left right := by
  intro equal
  have preimages : bytes = parentString sha256 left right :=
    collisionFree hashed pair.parentHashed equal
  rw [preimages, length_parentString] at notPair
  exact notPair rfl

omit collisionFree in
/-- A round of the loop is a step of a walk. -/
theorem combineSibling_ok {combinedHash sibling next : Bytes32} {index nextIndex : UInt32}
    (combined : combineSibling sha256 (combinedHash, index) sibling = .ok (next, nextIndex)) :
    nextIndex = index / 2 ∧ ((index % 2 = 0 ∧ next = combineMidState sha256 combinedHash sibling) ∨
        (index % 2 ≠ 0 ∧ sibling ≠ combinedHash ∧
          next = combineMidState sha256 sibling combinedHash)) := by
  simp only [combineSibling] at combined
  split_ifs at combined with even equal
  · cases combined
    exact ⟨rfl, .inl ⟨even, rfl⟩⟩
  · cases combined
    refine ⟨rfl, .inr ⟨even, ?_, rfl⟩⟩
    intro same
    rw [same] at equal
    exact equal rfl

omit collisionFree in
/-- A loop that ends with index zero is a walk to its final hash. -/
theorem climbs_of_loop {path : List Bytes32} {combinedHash top : Bytes32} {index : UInt32}
    (hashed : ∀ bytes ∈ loopStrings sha256 path combinedHash index, bytes ∈ strings)
    (run : path.foldlM (combineSibling sha256) (combinedHash, index) = .ok (top, 0)) :
    Climbs (combineMidState sha256) (PairHashed sha256 strings) index.toNat
        combinedHash path top ∧ top.toList ∈ strings := by
  induction path generalizing combinedHash index with
  | nil =>
    cases run
    exact ⟨.top top, hashed _ (by simp [loopStrings])⟩
  | cons sibling path ih =>
    obtain ⟨⟨next, nextIndex⟩, combined, rest⟩ := ExceptRun.run_cons_iff.mp run
    obtain ⟨rfl, ⟨even, rfl⟩ | ⟨odd, different, rfl⟩⟩ := combineSibling_ok combined
    · simp only [loopStrings, if_pos even, forall_mem_cons] at hashed
      obtain ⟨siblingHashed, nodeHashed, parentHashed, restHashed⟩ := hashed
      obtain ⟨climbs, topHashed⟩ := ih restHashed rest
      rw [toNat_half] at climbs
      exact ⟨.left ((mod_two_eq_zero_iff index).mp even)
        ⟨nodeHashed, siblingHashed, parentHashed⟩ climbs, topHashed⟩
    · simp only [loopStrings, if_neg odd, forall_mem_cons] at hashed
      obtain ⟨siblingHashed, nodeHashed, parentHashed, restHashed⟩ := hashed
      obtain ⟨climbs, topHashed⟩ := ih restHashed rest
      rw [toNat_half] at climbs
      rw [Ne, mod_two_eq_zero_iff] at odd
      exact ⟨.right (by omega) ⟨siblingHashed, nodeHashed, parentHashed⟩ different climbs,
        topHashed⟩

omit collisionFree in
/-- `get_root` returns the hash of the last node of a loop that ends with index zero, or
zero bytes. -/
theorem getRoot_ok {inclusionProof : BlockInclusionProof} {midStateTxid root : Bytes32}
    (computed : inclusionProof.getRoot sha256 midStateTxid = .ok root) :
    root = zeroBytes ∨ ∃ top, root = sha256 top.toList ∧
      (inclusionProof.merkleProof.take (inclusionProof.merkleProof.length % 2 ^ 32)).foldlM
        (combineSibling sha256) (midStateTxid, inclusionProof.idx) =
        .ok (top, 0) := by
  simp only [getRoot, ExceptRun.bind_ok_iff] at computed
  obtain ⟨⟨top, index⟩, run, returned⟩ := computed
  split_ifs at returned with nonzero
  · cases returned
    exact .inl rfl
  · cases returned
    rw [Decidable.not_not] at nonzero
    subst nonzero
    exact .inr ⟨top, rfl, run⟩

end Soundness

/-- Inclusion proofs are sound against any prover.  The strings on which SHA-256 is taken
to be collision-free and nonzero are those of the block's mid-state tree, of the walk, and
of the transactions, none of which has 64 bytes.  The walk takes one step for every
sibling counted modulo `2 ^ 32`, since the loop reads the length as a `u32`. -/
theorem getRoot_sound (strings : Set (List UInt8)) (collisionFree : Set.InjOn sha256 strings)
    (nonzero : ∀ bytes ∈ strings, sha256 bytes ≠ zeroBytes)
    (transactions : List CircuitTransaction) (nonempty : transactions ≠ [])
    (tree bitcoin : BitcoinMerkleTree) (root : Bytes32)
    (accepted : BitcoinMerkleTree.newMidState sha256 encode transactions = .ok tree)
    (bitcoinEq : BitcoinMerkleTree.new sha256 (transactions.map (·.txid sha256 encode)) =
      .ok bitcoin)
    (rootEq : bitcoin.root = .ok root)
    (transaction : CircuitTransaction) (inclusionProof : BlockInclusionProof)
    (hashed : ∀ bytes, bytes ∈ tree.hashedStrings sha256 ∨
        bytes ∈ inclusionProof.hashedStrings sha256 (transaction.midStateTxid sha256 encode) ∨
        bytes ∈ (transaction :: transactions).map (·.nonWitnessBytes encode) →
      bytes ∈ strings)
    (notPairs : ∀ member ∈ transaction :: transactions, (member.nonWitnessBytes encode).length ≠ 64)
    (computed : inclusionProof.getRoot sha256 (transaction.midStateTxid sha256 encode) = .ok root) :
    (∃ member, transactions[inclusionProof.idx.toNat]? = some member ∧
      transaction.midStateTxid sha256 encode = member.midStateTxid sha256 encode) ∧
    inclusionProof.idx.toNat < transactions.length ∧
    inclusionProof.merkleProof.length % 2 ^ 32 + 1 = tree.nodes.length := by
  have nodesHashed : ∀ level ∈ tree.nodes, ∀ node ∈ level, node.toList ∈ strings := by
    intro level levelMem node nodeMem
    exact hashed _ (.inl (mem_append_left _
      (mem_map_of_mem (mem_flatten.mpr ⟨level, levelMem, nodeMem⟩))))
  have injective : ∀ level ∈ tree.nodes,
      Set.InjOn (fun node : Bytes32 => sha256 node.toList) {node | node ∈ level} :=
    fun level levelMem left leftMem right rightMem equal =>
      Vector.toList_inj.mp (collisionFree (nodesHashed level levelMem left leftMem)
        (nodesHashed level levelMem right rightMem) equal)
  obtain ⟨built, bitcoin', top, topAt, bitcoinEq', rootEq'⟩ :=
    newMidState_levels sha256 nonempty accepted injective
  obtain rfl := Except.ok.inj (bitcoinEq.symm.trans bitcoinEq')
  obtain rfl := Except.ok.inj (rootEq.symm.trans rootEq')
  have treeHashed : ∀ level ∈ tree.nodes.dropLast, ∀ pair ∈ couples level,
      PairHashed sha256 strings pair.1 pair.2 := by
    intro level levelMem pair pairMem
    obtain ⟨leftMem, rightMem⟩ := mem_of_mem_couples pairMem
    have whole := dropLast_subset _ levelMem
    exact ⟨nodesHashed level whole _ leftMem, nodesHashed level whole _ rightMem,
      hashed _ (.inl (mem_append_right _
        (mem_map_of_mem (mem_flatMap.mpr ⟨level, levelMem, pairMem⟩))))⟩
  have topHashed : top.toList ∈ strings :=
    nodesHashed [top] (mem_of_getLast? topAt) top (by simp)
  have bytesHashed : ∀ member ∈ transaction :: transactions,
      member.nonWitnessBytes encode ∈ strings :=
    fun member memberMem => hashed _ (.inr (.inr (mem_map_of_mem memberMem)))
  rcases getRoot_ok computed with zero | ⟨last, rootAt, run⟩
  · exact absurd zero (nonzero _ topHashed)
  · obtain ⟨climbs, lastHashed⟩ := climbs_of_loop
      (fun bytes member => hashed bytes (.inr (.inl member))) run
    obtain rfl : top = last := Vector.toList_inj.mp (collisionFree topHashed lastHashed rootAt)
    obtain ⟨leafAt, aligned⟩ := climbs_sound (combineMidState_injective collisionFree) built
      ⟨treeHashed, topAt⟩ climbs
      (by
        intro left right pair leaf
        obtain ⟨member, memberMem, equal⟩ := mem_map.mp leaf
        have whole : member ∈ transaction :: transactions := mem_cons_of_mem _ memberMem
        exact hash_ne_combineMidState collisionFree (bytesHashed member whole)
          (notPairs member whole) pair equal)
      (fun left right pair => hash_ne_combineMidState collisionFree
        (bytesHashed transaction (by simp)) (notPairs transaction (by simp)) pair)
    rw [getElem?_map, Option.map_eq_some_iff] at leafAt
    obtain ⟨member, memberAt, memberEq⟩ := leafAt
    refine ⟨⟨member, memberAt, memberEq.symm⟩, (List.getElem?_eq_some_iff.mp memberAt).1, ?_⟩
    rw [length_take, Nat.min_eq_left (Nat.mod_le _ _)] at aligned
    exact aligned

/-- A proof of the second of two sample transactions. -/
def sampleProof : BlockInclusionProof where
  idx := 1
  merkleProof :=
    [ByteNumeral.beBytes 32 0xAA5E3FB1CA4B6C4BF13D0145256D72A040124E2DAFC38A4603D33FF0F2326540]

/-- The strings hashed for the sample proof and the tree of its block. -/
def sampleStrings : List (List UInt8) :=
  [sampleTransaction 1, sampleTransaction 2].map (·.nonWitnessBytes .bitcoin) ++
  (mk sampleNodes).hashedStrings Sha2.sha256

/-- The second of two transactions, proved by the mid-state id of the first. -/
theorem getRoot_sound_pair : ∃ root, sampleProof.getRoot Sha2.sha256
        ((BitcoinMerkleTree.sampleTransaction 2).midStateTxid Sha2.sha256 .bitcoin) = .ok root ∧
      (∃ member, [BitcoinMerkleTree.sampleTransaction 1,
          BitcoinMerkleTree.sampleTransaction 2][sampleProof.idx.toNat]? = some member ∧
        (BitcoinMerkleTree.sampleTransaction 2).midStateTxid Sha2.sha256 .bitcoin =
          member.midStateTxid Sha2.sha256 .bitcoin) ∧
      sampleProof.idx.toNat < 2 ∧ sampleProof.merkleProof.length % 2 ^ 32 + 1 = 2 := by
  have distinct : (zeroBytes :: sampleStrings.map Sha2.sha256).Nodup := by decide +kernel
  obtain ⟨zeroAbsent, hashesDistinct⟩ := nodup_cons.mp distinct
  have collisionFree : Set.InjOn Sha2.sha256 {bytes | bytes ∈ sampleStrings} :=
    fun left leftMem right rightMem equal =>
      inj_on_of_nodup_map hashesDistinct leftMem rightMem equal
  have nonzero : ∀ bytes ∈ sampleStrings, Sha2.sha256 bytes ≠ zeroBytes :=
    fun bytes member zero => zeroAbsent (zero ▸ mem_map_of_mem member)
  have walkHashed : ∀ bytes ∈ sampleProof.hashedStrings Sha2.sha256
      ((sampleTransaction 2).midStateTxid Sha2.sha256 .bitcoin),
      bytes ∈ sampleStrings := by
    decide +kernel
  have computed : sampleProof.getRoot Sha2.sha256
      ((sampleTransaction 2).midStateTxid Sha2.sha256 .bitcoin) =
      .ok (Sha2.sha256 (((sampleNodes.getD 1 []).getD 0 zeroBytes).toList)) := by
    decide +kernel
  have injective : ∀ level ∈ sampleNodes,
      Set.InjOn (fun node : Bytes32 => Sha2.sha256 node.toList) {node | node ∈ level} := by
    intro level levelMem left leftMem right rightMem equal
    have listed : ∀ node ∈ level, node.toList ∈ sampleStrings := fun node nodeMem =>
      mem_append_right _ (mem_append_left _
        (mem_map_of_mem (mem_flatten.mpr ⟨level, levelMem, nodeMem⟩)))
    exact Vector.toList_inj.mp (collisionFree (listed left leftMem) (listed right rightMem) equal)
  obtain ⟨-, bitcoin, top, topAt, bitcoinEq, rootEq⟩ :=
    newMidState_levels Sha2.sha256 (by simp) newMidState_sample injective
  cases topAt
  refine ⟨_, computed, getRoot_sound Sha2.sha256 .bitcoin {bytes | bytes ∈ sampleStrings}
    collisionFree nonzero _ (by simp) _ bitcoin _ newMidState_sample bitcoinEq
    rootEq (sampleTransaction 2) sampleProof ?_ (by decide +kernel) computed⟩
  rintro bytes (tree | walk | transaction)
  · exact mem_append_right _ tree
  · exact walkHashed bytes walk
  · obtain ⟨member, memberMem, rfl⟩ := mem_map.mp transaction
    refine mem_append_left _ (mem_map_of_mem ?_)
    rcases mem_cons.mp memberMem with rfl | listed
    · simp
    · exact listed

/-- The loop does not run on a path of `2 ^ 32` siblings, so the path is accepted for a
block with one transaction, whose tree has no siblings. -/
theorem getRoot_accepts_two_pow_32_siblings :
    ∃ tree bitcoin root, BitcoinMerkleTree.newMidState Sha2.sha256 .bitcoin
        [BitcoinMerkleTree.sampleTransaction 1] = .ok tree ∧
      BitcoinMerkleTree.new Sha2.sha256
        [(BitcoinMerkleTree.sampleTransaction 1).txid Sha2.sha256 .bitcoin] = .ok bitcoin ∧
      bitcoin.root = .ok root ∧
      (BlockInclusionProof.mk 0 (List.replicate (2 ^ 32) zeroBytes)).getRoot Sha2.sha256
        ((BitcoinMerkleTree.sampleTransaction 1).midStateTxid Sha2.sha256 .bitcoin) = .ok root ∧
      (List.replicate (2 ^ 32) zeroBytes).length + 1 ≠ tree.nodes.length := by
  refine ⟨_, _, _, rfl, rfl, rfl, ?_, ?_⟩
  · simp only [getRoot, length_replicate, Nat.mod_self, take_zero]
    rfl
  · rw [length_replicate]
    decide

end Clementine
