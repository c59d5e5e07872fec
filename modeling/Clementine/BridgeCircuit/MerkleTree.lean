import Clementine.Lib.DuplicatingTree
import Clementine.Lib.ExceptRun
import Clementine.Lib.Sha2
import Clementine.BridgeCircuit.Transaction

/-!
# Bitcoin's Merkle tree and the mid-state tree

`new` builds the Merkle tree of a block over transaction ids.  `new_mid_state`
builds a second tree over mid-state ids whose nodes are one hash short of the
first tree's nodes: hashing every mid-state node once gives Bitcoin's tree.  The
proofs come from the second tree and `get_root` computes the first tree's root.
-/

namespace Clementine

open DuplicatingTree List

variable (sha256 : Sha256)

/-! ## Trees -/

/-- `BitcoinMerkleTree`: all levels, leaves first. -/
structure BitcoinMerkleTree where
  nodes : List (List Bytes32)
  deriving DecidableEq

/-- `BlockInclusionProof`. -/
structure BlockInclusionProof where
  idx : UInt32
  merkleProof : List Bytes32
  deriving DecidableEq

namespace BitcoinMerkleTree

/-- The panic of both constructors on equal neighbours. -/
def duplicateHashes : Panic :=
  .message "Duplicate hashes in the Merkle tree, indicating mutation"

/-- Node of the standard tree over two children. -/
def combineNodes (left right : Bytes32) : Bytes32 :=
  calculateDoubleSha256 sha256 (left.toList ++ right.toList)

/-- Node of the mid-state tree over two children. -/
def combineMidState (left right : Bytes32) : Bytes32 :=
  calculateSha256 sha256
    ((calculateSha256 sha256 left.toList).toList ++ (calculateSha256 sha256 right.toList).toList)

/-- `BitcoinMerkleTree::new`. -/
def new (txids : List Bytes32) : Except Panic BitcoinMerkleTree :=
  if txids.length = 1 then
    .ok ⟨[txids]⟩
  else do
    let nodes ← build duplicateHashes (combineNodes sha256) txids
    return ⟨nodes⟩

/-- `BitcoinMerkleTree::new_mid_state`. -/
def newMidState (encode : ConsensusEncode) (transactions : List CircuitTransaction) :
    Except Panic BitcoinMerkleTree :=
  match transactions with
  | [transaction] => .ok ⟨[[transaction.midStateTxid sha256 encode]]⟩
  | transactions => do
      let nodes ← build duplicateHashes (combineMidState sha256)
        (transactions.map (·.midStateTxid sha256 encode))
      return ⟨nodes⟩

/-- `BitcoinMerkleTree::root`. -/
def root (self : BitcoinMerkleTree) : Except Panic Bytes32 := do
  let top ← vecIndex self.nodes (self.nodes.length - 1)
  vecIndex top 0

/-- The loop of `get_idx_path` over the levels below the last one. -/
def siblings : List (List Bytes32) → UInt32 → Except Panic (List Bytes32)
  | level :: next :: above, i => do
      let sibling ←
        if i % 2 = 1 then
          vecIndex level (i.toNat - 1)
        else if UInt32.ofNat (usizeSub level.length 1) = i then
          vecIndex level i.toNat
        else
          vecIndex level (i + 1).toNat
      let path ← siblings (next :: above) (i / 2)
      return sibling :: path
  | _, _ => .ok []

/-- `BitcoinMerkleTree::get_idx_path`. -/
def getIdxPath (self : BitcoinMerkleTree) (index : UInt32) : Except Panic (List Bytes32) := do
  let leaves ← vecIndex self.nodes 0
  if index < UInt32.ofNat leaves.length then
    siblings self.nodes index
  else
    .error (.message "Index out of bounds when trying to get path from mid-state Merkle tree")

/-- `BitcoinMerkleTree::generate_proof`. -/
def generateProof (self : BitcoinMerkleTree) (idx : UInt32) :
    Except Panic BlockInclusionProof := do
  let path ← self.getIdxPath idx
  return ⟨idx, path⟩

end BitcoinMerkleTree

namespace BlockInclusionProof

/-- One round of the loop of `get_root`: the running hash and the running index. -/
def combineSibling (state : Bytes32 × UInt32) (midStateSiblingNode : Bytes32) :
    Except Panic (Bytes32 × UInt32) :=
  let (combinedHash, index) := state
  let processedSiblingHash := calculateSha256 sha256 midStateSiblingNode.toList
  let processedCombinedHash := calculateSha256 sha256 combinedHash.toList
  if index % 2 = 0 then
    .ok (calculateSha256 sha256
      (processedCombinedHash.toList ++ processedSiblingHash.toList), index / 2)
  else if processedSiblingHash = processedCombinedHash then
    .error (.message "Merkle proof is invalid: left hash matches combined hash")
  else
    .ok (calculateSha256 sha256
      (processedSiblingHash.toList ++ processedCombinedHash.toList), index / 2)

/-- `BlockInclusionProof::get_root`.  The loop counts levels up to the length of the
proof as a `u32`. -/
def getRoot (self : BlockInclusionProof) (midStateTxid : Bytes32) : Except Panic Bytes32 := do
  let (combinedHash, index) ←
    (self.merkleProof.take (self.merkleProof.length % 2 ^ 32)).foldlM
      (combineSibling sha256) (midStateTxid, self.idx)
  if index ≠ 0 then
    return zeroBytes
  return calculateSha256 sha256 combinedHash.toList

end BlockInclusionProof

/-! ## The mid-state tree is one hash short of Bitcoin's tree -/

namespace BitcoinMerkleTree

theorem combineNodes_hash (left right : Bytes32) :
    combineNodes sha256 (sha256 left.toList) (sha256 right.toList) =
      sha256 (combineMidState sha256 left right).toList := rfl

/-- Without the early return for one leaf the constructors are the same tree
builder. -/
theorem new_eq (txids : List Bytes32) : new sha256 txids =
      (build duplicateHashes (combineNodes sha256) txids).map BitcoinMerkleTree.mk := by
  unfold new
  split
  next single => rw [build_of_le _ _ (Nat.le_of_eq single)]; rfl
  next => cases build duplicateHashes (combineNodes sha256) txids <;> rfl

theorem newMidState_eq (encode : ConsensusEncode) (transactions : List CircuitTransaction) :
    newMidState sha256 encode transactions = (build duplicateHashes (combineMidState sha256)
        (transactions.map (·.midStateTxid sha256 encode))).map BitcoinMerkleTree.mk := by
  unfold newMidState
  split
  next transaction => rw [build_of_le _ _ (by simp)]; rfl
  next =>
      cases build duplicateHashes (combineMidState sha256)
        (transactions.map (·.midStateTxid sha256 encode)) <;> rfl

theorem map_txid (encode : ConsensusEncode) (transactions : List CircuitTransaction) :
    transactions.map (·.txid sha256 encode) =
      (transactions.map (·.midStateTxid sha256 encode)).map fun node => sha256 node.toList := by
  rw [map_map]
  rfl

variable {levels : List (List Bytes32)}

theorem root_eq_ok {top : Bytes32} (lastAt : levels.getLast? = some [top]) :
    root ⟨levels⟩ = .ok top := by
  rw [getLast?_eq_getElem?] at lastAt
  simp only [root, bind, Except.bind, vecIndex_eq_ok.mpr lastAt]
  rfl

/-- The levels of an accepted mid-state tree, and Bitcoin's tree and root on top of
them. -/
theorem newMidState_levels {encode : ConsensusEncode} {transactions : List CircuitTransaction}
    {tree : BitcoinMerkleTree} (nonempty : transactions ≠ [])
    (accepted : newMidState sha256 encode transactions = .ok tree)
    (injective : ∀ level ∈ tree.nodes,
      Set.InjOn (fun node : Bytes32 => sha256 node.toList) {node | node ∈ level}) :
    build duplicateHashes (combineMidState sha256)
        (transactions.map (·.midStateTxid sha256 encode)) = .ok tree.nodes ∧
      ∃ bitcoin top, tree.nodes.getLast? = some [top] ∧
        new sha256 (transactions.map (·.txid sha256 encode)) = .ok bitcoin ∧
        bitcoin.root = .ok (sha256 top.toList) := by
  rw [newMidState_eq] at accepted
  rw [new_eq, map_txid]
  cases built : build duplicateHashes (combineMidState sha256)
      (transactions.map (·.midStateTxid sha256 encode)) with
  | error cause => simp [built, Except.map] at accepted
  | ok levels =>
    rw [built] at accepted
    cases accepted
    have mapped := build_map duplicateHashes duplicateHashes
      (fun node : Bytes32 => sha256 node.toList) (combineNodes_hash sha256) built injective
    obtain ⟨top, topAt⟩ := build_root _ _ (by simpa using nonempty) built
    refine ⟨rfl, ⟨levels.map (map fun node : Bytes32 => sha256 node.toList)⟩, top, topAt,
      by rw [mapped]; rfl, root_eq_ok ?_⟩
    rw [getLast?_map, topAt]
    rfl

/-! ## Honest proofs -/

/-- The parent that the proof walk computes from the node at `i` is the node above it,
and the walk does not panic on its own sibling. -/
theorem siblings_step {nodes above : List Bytes32} (rest : List (List Bytes32)) {i : UInt32}
    {node : Bytes32} (many : 1 < nodes.length) (small : nodes.length < 2 ^ 32)
    (built : parents duplicateHashes (combineMidState sha256) nodes = .ok above)
    (collisionFree : Set.InjOn (fun node : Bytes32 => sha256 node.toList) {node | node ∈ nodes})
    (nodeAt : nodes[i.toNat]? = some node) :
    ∃ sibling parent, siblings (nodes :: above :: rest) i =
        (siblings (above :: rest) (i / 2)).map (sibling :: ·) ∧
      BlockInclusionProof.combineSibling sha256 (node, i) sibling = .ok (parent, i / 2) ∧
      above[(i / 2).toNat]? = some parent := by
  have inside := (List.getElem?_eq_some_iff.mp nodeAt).1
  have lastIff : UInt32.ofNat (usizeSub nodes.length 1) = i ↔ i.toNat = nodes.length - 1 := by
    have position : usizeSub nodes.length 1 = nodes.length - 1 := by
      rw [usizeSub]
      omega
    rw [← UInt32.toNat_inj, UInt32.toNat_ofNat', position, Nat.mod_eq_of_lt (by omega)]
    exact eq_comm
  have unfolded : ∀ sibling, (if i % 2 = 1 then vecIndex nodes (i.toNat - 1)
        else if UInt32.ofNat (usizeSub nodes.length 1) = i then vecIndex nodes i.toNat
        else vecIndex nodes (i + 1).toNat) = .ok sibling →
      siblings (nodes :: above :: rest) i =
        (siblings (above :: rest) (i / 2)).map (sibling :: ·) := by
    intro sibling chosen
    rw [siblings]
    split_ifs at chosen ⊢ <;>
      simp only [chosen, bind, Except.bind] <;>
      cases siblings (above :: rest) (i / 2) <;> rfl
  rw [toNat_half]
  rcases Nat.mod_two_eq_zero_or_one i.toNat with even | odd
  · have position : 2 * (i.toNat / 2) = i.toNat := by omega
    by_cases last : i.toNat = nodes.length - 1
    · refine ⟨node, combineMidState sha256 node node, unfolded node ?_, ?_, ?_⟩
      · rw [if_neg (by rw [mod_two_eq_one_iff]; omega), if_pos (lastIff.mpr last), vecIndex_eq_ok]
        exact nodeAt
      · simp only [BlockInclusionProof.combineSibling, if_pos ((mod_two_eq_zero_iff i).mpr even)]
        rfl
      · exact parents_last _ _ built (by omega) (by rw [position]; exact nodeAt)
    · obtain ⟨sibling, siblingAt⟩ : ∃ sibling, nodes[i.toNat + 1]? = some sibling :=
        ⟨_, getElem?_eq_getElem (by omega)⟩
      refine ⟨sibling, combineMidState sha256 node sibling, unfolded sibling ?_, ?_, ?_⟩
      · have next : (i + 1).toNat = i.toNat + 1 := by
          rw [UInt32.toNat_add, UInt32.toNat_one]
          omega
        rw [if_neg (by rw [mod_two_eq_one_iff]; omega), if_neg (mt lastIff.mp last), next,
          vecIndex_eq_ok]
        exact siblingAt
      · simp only [BlockInclusionProof.combineSibling, if_pos ((mod_two_eq_zero_iff i).mpr even)]
        rfl
      · exact (parents_pair _ _ built (by rw [position]; exact nodeAt)
          (by rw [position]; exact siblingAt)).2
  · have position : 2 * (i.toNat / 2) = i.toNat - 1 := by omega
    have next : i.toNat - 1 + 1 = i.toNat := by omega
    obtain ⟨sibling, siblingAt⟩ : ∃ sibling, nodes[i.toNat - 1]? = some sibling :=
      ⟨_, getElem?_eq_getElem (by omega)⟩
    obtain ⟨different, parentAt⟩ := parents_pair _ _ built (by rw [position]; exact siblingAt)
      (by rw [position, next]; exact nodeAt)
    have hashesDiffer : ¬calculateSha256 sha256 sibling.toList =
        calculateSha256 sha256 node.toList := fun equal =>
      different (collisionFree (mem_of_getElem? siblingAt) (mem_of_getElem? nodeAt) equal)
    refine ⟨sibling, combineMidState sha256 sibling node, unfolded sibling ?_, ?_, parentAt⟩
    · rw [if_pos ((mod_two_eq_one_iff i).mpr odd), vecIndex_eq_ok]
      exact siblingAt
    · simp only [BlockInclusionProof.combineSibling, if_neg (show ¬i % 2 = 0 by
        rw [mod_two_eq_zero_iff]; omega), if_neg hashesDiffer]
      rfl

/-- The whole walk from the leaf at `i` ends at the root with index zero. -/
theorem siblings_run {nodes : List Bytes32}
    (built : build duplicateHashes (combineMidState sha256) nodes = .ok levels)
    (collisionFree : ∀ level ∈ levels,
      Set.InjOn (fun node : Bytes32 => sha256 node.toList) {node | node ∈ level})
    (small : nodes.length < 2 ^ 32) {i : UInt32} {node top : Bytes32}
    (nodeAt : nodes[i.toNat]? = some node) (topAt : levels.getLast? = some [top]) :
    ∃ path, siblings levels i = .ok path ∧ path.length < nodes.length ∧
      path.foldlM (BlockInclusionProof.combineSibling sha256) (node, i) = .ok (top, 0) := by
  revert i node top small collisionFree
  refine build_induction duplicateHashes (combineMidState sha256)
    (motive := fun nodes levels => (∀ level ∈ levels,
        Set.InjOn (fun node : Bytes32 => sha256 node.toList) {node | node ∈ level}) →
      nodes.length < 2 ^ 32 → ∀ {i : UInt32} {node top : Bytes32},
      nodes[i.toNat]? = some node → levels.getLast? = some [top] →
      ∃ path, siblings levels i = .ok path ∧ path.length < nodes.length ∧
        path.foldlM (BlockInclusionProof.combineSibling sha256) (node, i) = .ok (top, 0))
    ?_ ?_ built
  · intro nodes few _ _ i node top nodeAt topAt
    have inside := (List.getElem?_eq_some_iff.mp nodeAt).1
    have first : i = 0 := by
      apply UInt32.toNat_inj.mp
      change i.toNat = 0
      omega
    have only : nodes = [top] := by simpa using topAt
    subst first only
    cases nodeAt
    exact ⟨[], rfl, by simp, rfl⟩
  · intro nodes above rest many parentsEq restEq ih collisionFree small i node top nodeAt topAt
    obtain ⟨rest, rfl⟩ := build_eq_cons _ _ restEq
    have size := length_parents _ _ parentsEq
    obtain ⟨sibling, parent, walked, combined, parentAt⟩ :=
      siblings_step sha256 rest many small parentsEq (collisionFree nodes (by simp)) nodeAt
    obtain ⟨path, pathEq, short, run⟩ :=
      ih (fun level member => collisionFree level (mem_cons_of_mem _ member))
        (by omega) parentAt (by simpa using topAt)
    refine ⟨sibling :: path, ?_, ?_, ?_⟩
    · rw [walked, pathEq]
      rfl
    · rw [length_cons]
      omega
    · exact ExceptRun.run_cons_iff.mpr ⟨_, combined, run⟩

/-- The mid-state tree and its proofs compute Bitcoin's Merkle root.  SHA-256 is taken to
be collision-free on a set of strings that contains the mid-state nodes. -/
theorem midState_refines_bitcoin (encode : ConsensusEncode) (strings : Set (List UInt8))
    (collisionFree : Set.InjOn sha256 strings) (transactions : List CircuitTransaction)
    (nonempty : transactions ≠ []) (small : transactions.length < 2 ^ 32) :
    (∀ tree, newMidState sha256 encode transactions = .ok tree →
      (∀ level ∈ tree.nodes, ∀ node ∈ level, node.toList ∈ strings) →
      ∃ bitcoin bitcoinRoot midStateRoot,
        new sha256 (transactions.map (·.txid sha256 encode)) = .ok bitcoin ∧
        bitcoin.root = .ok bitcoinRoot ∧ tree.root = .ok midStateRoot ∧
        calculateSha256 sha256 midStateRoot.toList = bitcoinRoot ∧
        ∀ (i : UInt32) transaction, transactions[i.toNat]? = some transaction →
          ∃ inclusionProof, tree.generateProof i = .ok inclusionProof ∧
            inclusionProof.getRoot sha256 (transaction.midStateTxid sha256 encode) =
              .ok bitcoinRoot) ∧
    (∀ cause, newMidState sha256 encode transactions = .error cause →
      ∃ cause', new sha256 (transactions.map (·.txid sha256 encode)) = .error cause') := by
  constructor
  · intro tree treeEq hashed
    have injective : ∀ level ∈ tree.nodes,
        Set.InjOn (fun node : Bytes32 => sha256 node.toList) {node | node ∈ level} := by
      intro level levelMem left leftMem right rightMem equal
      exact Vector.toList_inj.mp (collisionFree (hashed level levelMem left leftMem)
        (hashed level levelMem right rightMem) equal)
    obtain ⟨built, bitcoin, top, topAt, bitcoinEq, rootEq⟩ :=
      newMidState_levels sha256 nonempty treeEq injective
    refine ⟨bitcoin, sha256 top.toList, top, bitcoinEq, rootEq, root_eq_ok topAt, rfl, ?_⟩
    intro i transaction transactionAt
    have inside := (List.getElem?_eq_some_iff.mp transactionAt).1
    have leafAt : (transactions.map (·.midStateTxid sha256 encode))[i.toNat]? =
        some (transaction.midStateTxid sha256 encode) := by
      rw [getElem?_map, transactionAt]
      rfl
    obtain ⟨path, pathEq, short, run⟩ :=
      siblings_run sha256 built injective (by simpa using small) leafAt topAt
    obtain ⟨rest, nodesEq⟩ := build_eq_cons _ _ built
    rw [length_map] at short
    refine ⟨⟨i, path⟩, ?_, ?_⟩
    · have below : i < UInt32.ofNat
          (transactions.map (·.midStateTxid sha256 encode)).length := by
        rw [UInt32.lt_iff_toNat_lt, UInt32.toNat_ofNat', length_map, Nat.mod_eq_of_lt small]
        exact inside
      rw [nodesEq] at pathEq
      simp only [generateProof, getIdxPath, nodesEq, vecIndex, getElem?_cons_zero, bind,
        Except.bind, if_pos below, pathEq]
      rfl
    · simp only [BlockInclusionProof.getRoot,
        Nat.mod_eq_of_lt (show path.length < 2 ^ 32 by omega), take_length, run, bind,
        Except.bind]
      rfl
  · intro cause refused
    rw [newMidState_eq] at refused
    rw [new_eq, map_txid]
    cases built : build duplicateHashes (combineMidState sha256)
        (transactions.map (·.midStateTxid sha256 encode)) with
    | ok levels => simp [built, Except.map] at refused
    | error other =>
      obtain ⟨cause', mapped⟩ := build_map_error duplicateHashes duplicateHashes
        (fun node : Bytes32 => sha256 node.toList) (combineNodes_hash sha256) built
      exact ⟨cause', by rw [mapped]; rfl⟩

/-- A transaction for sample runs. -/
def sampleTransaction (lockTime : UInt32) : CircuitTransaction where
  version := 2
  lockTime
  input := [⟨⟨zeroBytes, 0⟩, [], 0xFFFFFFFF, []⟩]
  output := [⟨5000, [0x51]⟩]

/-- The mid-state nodes of two sample transactions. -/
def sampleNodes : List (List Bytes32) := [
  [ByteNumeral.beBytes 32 0xAA5E3FB1CA4B6C4BF13D0145256D72A040124E2DAFC38A4603D33FF0F2326540,
    ByteNumeral.beBytes 32 0xA8998C61204EEFF29794CFA01633776AAAC4525EF0E9F6296B66004D7C7DB8EA],
  [ByteNumeral.beBytes 32 0x5391149587B0EDFC56B633713E25B04320694AFEFF9A7A2DF22D843C30085B9A]]

theorem newMidState_sample :
    newMidState Sha2.sha256 .bitcoin [sampleTransaction 1, sampleTransaction 2] =
      .ok ⟨sampleNodes⟩ := by
  have leaves : [sampleTransaction 1, sampleTransaction 2].map
      (·.midStateTxid Sha2.sha256 .bitcoin) = sampleNodes.getD 0 [] := by decide +kernel
  have row : parents duplicateHashes (combineMidState Sha2.sha256) (sampleNodes.getD 0 []) =
      .ok (sampleNodes.getD 1 []) := by decide +kernel
  rw [newMidState_eq, leaves, build_of_lt _ _ (by decide), row, Except.bind,
    build_of_le _ _ (by decide)]
  rfl

/-- Two transactions that differ in their lock times. -/
theorem midState_refines_bitcoin_pair : ∃ tree bitcoin bitcoinRoot inclusionProof,
      newMidState Sha2.sha256 .bitcoin [sampleTransaction 1, sampleTransaction 2] = .ok tree ∧
      new Sha2.sha256 ([sampleTransaction 1, sampleTransaction 2].map
        (CircuitTransaction.txid Sha2.sha256 .bitcoin)) = .ok bitcoin ∧
      bitcoin.root = .ok bitcoinRoot ∧ tree.generateProof 1 = .ok inclusionProof ∧
      inclusionProof.getRoot Sha2.sha256
        (CircuitTransaction.midStateTxid Sha2.sha256 .bitcoin (sampleTransaction 2)) =
          .ok bitcoinRoot := by
  have distinct : (sampleNodes.flatten.map fun node => Sha2.sha256 node.toList).Nodup := by
    decide +kernel
  have collisionFree : Set.InjOn Sha2.sha256
      {bytes | ∃ node ∈ sampleNodes.flatten, bytes = node.toList} := by
    rintro _ ⟨left, leftMem, rfl⟩ _ ⟨right, rightMem, rfl⟩ equal
    rw [inj_on_of_nodup_map distinct leftMem rightMem equal]
  obtain ⟨bitcoin, bitcoinRoot, midStateRoot, bitcoinEq, rootEq, -, -, proofs⟩ :=
    (midState_refines_bitcoin Sha2.sha256 .bitcoin _ collisionFree
      [sampleTransaction 1, sampleTransaction 2] (by simp) (by simp)).1 _ newMidState_sample
      fun level levelMem node nodeMem =>
        ⟨node, mem_flatten.mpr ⟨level, levelMem, nodeMem⟩, rfl⟩
  obtain ⟨inclusionProof, generated, computed⟩ := proofs 1 (sampleTransaction 2) rfl
  exact ⟨_, bitcoin, bitcoinRoot, inclusionProof, newMidState_sample, bitcoinEq, rootEq,
    generated, computed⟩

end BitcoinMerkleTree

end Clementine
