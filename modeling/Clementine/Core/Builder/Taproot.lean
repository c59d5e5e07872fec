import Clementine.Lib.DepthTree
import Clementine.Core.Builder.TxHandler
import Mathlib.Data.List.MinMax

/-!
# Taproot trees

The trees of the builder's outputs are given to a `TaprootBuilder` as scripts with depths.  Here
the builder is the one of the Bitcoin library: nodes come in depth-first order, the hash of a
branch is that of the sorted hashes of its children, and a control block is a path to the root.

Trees for any number of scripts are accepted, and a whole tree of scripts can be replaced by its
root: the output stays the same.
-/

namespace Clementine

open DepthTree TapNode List

/-- `TAPROOT_CONTROL_MAX_NODE_COUNT`. -/
def taprootControlMaxNodeCount : Nat := 128

/-- `TapNodeHash::from_node_hashes`: the smaller hash comes first. -/
def tapBranchHash (tapBranch : Bytes32 → Bytes32 → Bytes32) (left right : Bytes32) : Bytes32 :=
  if left.toList ≤ right.toList then tapBranch left right else tapBranch right left

theorem tapBranchHash_comm (tapBranch : Bytes32 → Bytes32 → Bytes32) (left right : Bytes32) :
    tapBranchHash tapBranch left right = tapBranchHash tapBranch right left := by
  unfold tapBranchHash
  by_cases leftFirst : left.toList ≤ right.toList
  · by_cases rightFirst : right.toList ≤ left.toList
    · have same : left = right := Vector.toList_inj.mp (List.le_antisymm leftFirst rightFirst)
      rw [same]
    · rw [if_pos leftFirst, if_neg rightFirst]
  · have rightFirst := (List.le_total left.toList right.toList).resolve_left leftFirst
    rw [if_neg leftFirst, if_pos rightFirst]

section Semantics

variable (library : BuilderLibrary) (tapBranch : Bytes32 → Bytes32 → Bytes32)

/-- `NodeInfo` of a leaf or a hidden node. -/
def TapNode.info : TapNode → HashedNode Bytes32 ScriptBuf
  | .leaf script => ⟨library.tapLeafHash script, [(script, [])]⟩
  | .hidden hash => ⟨hash, []⟩

/-- A `TaprootBuilder` to which all nodes were added and that was finalized.  No path is longer
than the depth of its leaf, so combining nodes never fails. -/
def taprootBuild (nodes : List (Nat × TapNode)) :
    Option (Option (HashedNode Bytes32 ScriptBuf)) :=
  build (HashedNode.combine (tapBranchHash tapBranch)) taprootControlMaxNodeCount
    (nodes.map fun entry => (entry.1, entry.2.info library))

/-- The Merkle root of the library is that of the builder. -/
def BuilderLibrary.TaprootSemantics : Prop :=
  ∀ nodes, library.taprootMerkleRoot nodes =
    (taprootBuild library tapBranch nodes).map (Option.map HashedNode.hash)

/-- `TaprootSpendInfo::control_block`: one of the shortest paths of a script. -/
def controlBlock (root : HashedNode Bytes32 ScriptBuf) (script : ScriptBuf) :
    Option (List Bytes32) :=
  ((root.leaves.filter fun leaf => leaf.1 = script).map Prod.snd).argmin length

/-- `ControlBlock::verify_taproot_commitment`. -/
def verifyTaprootCommitment (internalKey outputKey : XOnlyPublicKey) (script : ScriptBuf)
    (merkleBranch : List Bytes32) : Bool :=
  library.tapTweak internalKey (some (HashedNode.pathHash (tapBranchHash tapBranch)
    (library.tapLeafHash script) merkleBranch)) = outputKey

end Semantics

variable {library : BuilderLibrary} {tapBranch : Bytes32 → Bytes32 → Bytes32}

/-! ## Depths -/

/-- The depths of leaves: the first ones in pairs on the deepest level, the others above. -/
theorem calculateTaprootLeafDepths_eq {numScripts : Nat} (positive : 0 < numScripts) :
    ∃ levels extra, numScripts = 2 ^ levels + extra ∧ extra ≤ 2 ^ levels ∧
      calculateTaprootLeafDepths numScripts = replicate (2 * extra) (levels + 1) ++
        replicate (numScripts - 2 * extra) levels := by
  rcases numScripts with - | - | count
  · omega
  · exact ⟨0, 0, rfl, by omega, rfl⟩
  · have below := Nat.log2_self_le (n := count + 1) (by omega)
    have above := Nat.lt_log2_self (n := count + 1)
    rw [Nat.pow_succ] at above
    refine ⟨(count + 1).log2, count + 2 - 2 ^ (count + 1).log2, by omega, by omega, ?_⟩
    have split : count + 2 = 2 * (count + 2 - 2 ^ (count + 1).log2) +
        (count + 2 - 2 * (count + 2 - 2 ^ (count + 1).log2)) := by omega
    have final : count + 1 + 1 - (2 ^ ((count + 1 + 1 - 1).log2 + 1) - (count + 1 + 1)) =
        2 * (count + 2 - 2 ^ (count + 1).log2) := by
      rw [Nat.add_sub_cancel, Nat.pow_succ]
      omega
    simp only [calculateTaprootLeafDepths, final]
    apply ext_getElem
    · simp only [length_map, length_range, length_append, length_replicate]
      omega
    · intro i inside _
      rw [length_map, length_range] at inside
      simp only [getElem_map, getElem_range, Nat.add_sub_cancel]
      by_cases deep : i < 2 * (count + 2 - 2 ^ (count + 1).log2)
      · rw [if_neg (by omega), getElem_append_left (by simpa using deep), getElem_replicate]
        rfl
      · rw [if_pos (by omega), getElem_append_right (by simpa using Nat.le_of_not_lt deep),
          getElem_replicate]
        rfl

variable {scripts : List ScriptBuf}
variable (library) in
/-- Scripts at the depths that are calculated for them are the leaves of a tree.  The bound is
that of the length of a `Vec`. -/
theorem exists_scriptTree (notEmpty : scripts ≠ []) (vecLength : scripts.length ≤ 2 ^ 63) :
    ∃ tree : DepthTree.Tree (HashedNode Bytes32 ScriptBuf), tree.height ≤ 64 ∧
      ∀ depth, tree.entries depth =
        ((calculateTaprootLeafDepths scripts.length).map (depth + ·)).zip
          (scripts.map fun script => (leaf script).info library) := by
  obtain ⟨levels, extra, count, fits, depths⟩ :=
    calculateTaprootLeafDepths_eq (length_pos_of_ne_nil notEmpty)
  have nodesCount : (scripts.map fun script => (leaf script).info library).length =
      2 ^ levels + extra := by
    rw [length_map, count]
  obtain ⟨tree, height, entries⟩ := exists_balanced nodesCount fits
  have low : levels ≤ 63 := (Nat.pow_le_pow_iff_right (by omega)).mp
    (Nat.le_trans (by omega : 2 ^ levels ≤ scripts.length) vecLength)
  refine ⟨tree, by omega, fun depth => ?_⟩
  rw [entries, depths, length_map, map_append, map_replicate, map_replicate, Nat.add_assoc]

theorem map_info_zip (depths : List Nat) (scripts : List ScriptBuf) :
    (depths.zip (scripts.map leaf)).map (fun entry => (entry.1, entry.2.info library)) =
      depths.zip (scripts.map fun script => (leaf script).info library) := by
  simp only [zip_map_right, map_map, Function.comp_def]
  rfl

/-! ## Outputs -/

variable (tapBranch) in
/-- The node above two nodes of a tree. -/
abbrev combineNodes :
    HashedNode Bytes32 ScriptBuf → HashedNode Bytes32 ScriptBuf → HashedNode Bytes32 ScriptBuf :=
  HashedNode.combine (tapBranchHash tapBranch)

/-- The tree of scripts is accepted. -/
theorem taprootBuild_scripts {tree : DepthTree.Tree (HashedNode Bytes32 ScriptBuf)}
    (low : tree.height ≤ 64) (entries : ∀ depth, tree.entries depth =
      ((calculateTaprootLeafDepths scripts.length).map (depth + ·)).zip
        (scripts.map fun script => (leaf script).info library)) :
    taprootBuild library tapBranch (taprootBuilderWithScripts scripts) =
      some (some (tree.fold (combineNodes tapBranch))) := by
  have leaves : (taprootBuilderWithScripts scripts).map
      (fun entry => (entry.1, entry.2.info library)) = tree.entries 0 := by
    rw [entries, taprootBuilderWithScripts, map_info_zip]
    simp only [Nat.zero_add, map_id']
  rw [taprootBuild, leaves]
  exact build_entries tree (low.trans (by decide))

variable (library) in
/-- The tree of the disprove output, with the tree of the disprove scripts. -/
def disproveTree (first second : ScriptBuf)
    (scripts : DepthTree.Tree (HashedNode Bytes32 ScriptBuf)) :
    DepthTree.Tree (HashedNode Bytes32 ScriptBuf) :=
  .branch (.leaf ((leaf first).info library)) (.branch (.leaf ((leaf second).info library)) scripts)

theorem height_disproveTree_le {first second : ScriptBuf}
    {tree : DepthTree.Tree (HashedNode Bytes32 ScriptBuf)} (low : tree.height ≤ 64) :
    (disproveTree library first second tree).height ≤ taprootControlMaxNodeCount := by
  simp only [disproveTree, DepthTree.Tree.height, taprootControlMaxNodeCount]
  omega

/-- The builder accepts the tree above the scripts, and above a node with their root. -/
theorem taprootBuild_disprove {first second : ScriptBuf} {path : DisprovePath}
    {tree : DepthTree.Tree (HashedNode Bytes32 ScriptBuf)} (low : tree.height ≤ 64)
    (entries : path.nodes.map (fun entry => (entry.1, entry.2.info library)) = tree.entries 2) :
    taprootBuild library tapBranch ((1, .leaf first) :: (2, .leaf second) :: path.nodes) =
      some (some ((disproveTree library first second tree).fold (combineNodes tapBranch))) := by
  have leaves : ((1, leaf first) :: (2, .leaf second) :: path.nodes).map
      (fun entry => (entry.1, entry.2.info library)) =
        (disproveTree library first second tree).entries 0 := by
    rw [map_cons, map_cons, entries]
    rfl
  rw [taprootBuild, leaves]
  exact build_entries _ (height_disproveTree_le low)

variable {root : HashedNode Bytes32 ScriptBuf}

theorem finalizeTaproot_eq (semantics : library.TaprootSemantics tapBranch) {text : String}
    {nodes : List (Nat × TapNode)} (built : taprootBuild library tapBranch nodes = some (some root))
    (internalKey : XOnlyPublicKey) :
    finalizeTaproot library text nodes internalKey =
      .ok ⟨some root.hash, library.tapTweak internalKey (some root.hash)⟩ := by
  rw [finalizeTaproot, semantics nodes, built]
  rfl

/-- A script below a node of a tree has a control block, which proves it. -/
theorem controlBlock_verifies {tree : DepthTree.Tree (HashedNode Bytes32 ScriptBuf)}
    (low : tree.height ≤ taprootControlMaxNodeCount) (leaves : (tree.entries 0).map Prod.snd =
      scripts.map fun script => (leaf script).info library) {script : ScriptBuf}
    (member : script ∈ scripts) (internalKey : XOnlyPublicKey) :
    ∃ path, controlBlock (tree.fold (combineNodes tapBranch)) script = some path ∧
      path.length ≤ taprootControlMaxNodeCount ∧
      verifyTaprootCommitment library tapBranch internalKey
        (library.tapTweak internalKey (some (tree.fold (combineNodes tapBranch)).hash)) script
        path = true := by
  have isLeaf : ∀ entry ∈ tree.entries 0, ∃ script, entry.2 = (leaf script).info library := by
    intro entry found
    have image := mem_map_of_mem (f := Prod.snd) found
    rw [leaves] at image
    obtain ⟨script, -, same⟩ := mem_map.mp image
    exact ⟨script, same.symm⟩
  have proves : (tree.fold (combineNodes tapBranch)).Proves (tapBranchHash tapBranch)
      library.tapLeafHash := by
    refine @HashedNode.proves_fold _ _ _ _ (tapBranchHash_comm tapBranch) tree 0 ?_
    intro entry found leaf below
    obtain ⟨script, same⟩ := isLeaf entry found
    rw [same] at below ⊢
    obtain rfl := mem_singleton.mp below
    rfl
  have short : ∀ leaf ∈ (tree.fold (combineNodes tapBranch)).leaves,
      leaf.2.length ≤ tree.height := by
    intro leaf found
    refine @HashedNode.length_path_le _ _ _ tree 0 ?_ leaf found
    intro entry entryFound leaf below
    obtain ⟨script, same⟩ := isLeaf entry entryFound
    rw [same] at below
    obtain rfl := mem_singleton.mp below
    rfl
  have image := mem_map_of_mem (f := fun script => (leaf script).info library) member
  rw [← leaves] at image
  obtain ⟨entry, found, same⟩ := mem_map.mp image
  have below : (script, []) ∈ entry.2.leaves := by
    rw [same]
    exact mem_singleton.mpr rfl
  obtain ⟨path, pathFound⟩ :=
    @HashedNode.exists_path_fold _ _ (tapBranchHash tapBranch) tree 0 entry found _ below
  have candidates : path ∈ ((tree.fold (combineNodes tapBranch)).leaves.filter
      fun leaf => leaf.1 = script).map Prod.snd :=
    mem_map.mpr ⟨(script, path), mem_filter.mpr ⟨pathFound, by simp⟩, rfl⟩
  cases chosen : controlBlock (tree.fold (combineNodes tapBranch)) script with
  | none =>
    rw [controlBlock, argmin_eq_none] at chosen
    rw [chosen] at candidates
    cases candidates
  | some shortest =>
    refine ⟨shortest, rfl, ?_⟩
    obtain ⟨leaf, leafFound, rfl⟩ := mem_map.mp (argmin_mem chosen)
    obtain ⟨leafFound, isScript⟩ := mem_filter.mp leafFound
    have sameScript : leaf.1 = script := by simpa using isScript
    refine ⟨(short leaf leafFound).trans low, ?_⟩
    rw [verifyTaprootCommitment, ← sameScript, proves leaf leafFound, decide_eq_true rfl]

theorem length_calculateTaprootLeafDepths (numScripts : Nat) :
    (calculateTaprootLeafDepths numScripts).length = numScripts := by
  rcases numScripts with - | - | count
  · rfl
  · rfl
  · simp [calculateTaprootLeafDepths]

/-- The disprove output that keeps all scripts: they follow the first two, and each has a control
block under the output key. -/
structure DisproveScripts (library : BuilderLibrary) (tapBranch : Bytes32 → Bytes32 → Bytes32)
    (timeoutBuf additionalScript : ScriptBuf) (scripts : List ScriptBuf) (output : UnspentTxOut) :
    Prop where
  positions : ∀ (i : Nat) (script : ScriptBuf), scripts[i]? = some script →
    output.scripts[i + 2]? = some (.otherSpendable script)
  proofs : ∃ root outputKey,
    taprootBuild library tapBranch ((1, .leaf timeoutBuf) :: (2, .leaf additionalScript) ::
        (DisprovePath.scripts scripts).nodes) = some (some root) ∧
      output.spendinfo = some ⟨some root.hash, outputKey⟩ ∧
      output.txout.scriptPubkey = p2trScriptPubkey outputKey ∧
      ∀ script ∈ scripts, ∃ path, controlBlock root script = some path ∧
        path.length ≤ taprootControlMaxNodeCount ∧
        verifyTaprootCommitment library tapBranch unspendableXonlyPubkey outputKey script path =
          true

theorem createDisproveTaprootOutput_eq (semantics : library.TaprootSemantics tapBranch)
    {timeout : SpendableScript} {timeoutBuf additionalScript : ScriptBuf} {path : DisprovePath}
    (compiled : timeout.toScriptBuf library = .ok timeoutBuf)
    (built : taprootBuild library tapBranch ((1, .leaf timeoutBuf) ::
      (2, .leaf additionalScript) :: path.nodes) = some (some root)) (amount : UInt64) :
    createDisproveTaprootOutput library timeout additionalScript path amount = .ok (.taproot amount
        (timeout :: (additionalScript :: path.extraScripts).map .otherSpendable)
        ⟨some root.hash, library.tapTweak unspendableXonlyPubkey (some root.hash)⟩) := by
  have finalized : finalizeTaproot library "valid taptree" _ unspendableXonlyPubkey = _ :=
    finalizeTaproot_eq semantics built unspendableXonlyPubkey
  exact ExceptRun.bind_ok_iff.mpr ⟨_, compiled, ExceptRun.bind_ok_iff.mpr ⟨_, finalized, rfl⟩⟩

/-- The disprove output is the same with the scripts and with the root of their tree. -/
theorem createDisproveTaprootOutput_agree (semantics : library.TaprootSemantics tapBranch)
    (notEmpty : scripts ≠ []) (vecLength : scripts.length ≤ 2 ^ 63) {timeout : SpendableScript}
    {timeoutBuf : ScriptBuf} (compiled : timeout.toScriptBuf library = .ok timeoutBuf)
    (additionalScript : ScriptBuf) (amount : UInt64) :
    ∃ root withScripts withHidden,
      library.taprootMerkleRoot (taprootBuilderWithScripts scripts) = some (some root) ∧
        createDisproveTaprootOutput library timeout additionalScript (.scripts scripts) amount =
          .ok withScripts ∧
        createDisproveTaprootOutput library timeout additionalScript (.hiddenNode root) amount =
          .ok withHidden ∧
        withScripts.txout = withHidden.txout ∧
        DisproveScripts library tapBranch timeoutBuf additionalScript scripts withScripts := by
  obtain ⟨tree, low, entries⟩ := exists_scriptTree library notEmpty vecLength
  have scriptsRoot : library.taprootMerkleRoot (taprootBuilderWithScripts scripts) =
      some (some (tree.fold (combineNodes tapBranch)).hash) := by
    rw [semantics, taprootBuild_scripts low entries]
    rfl
  have nodes : (DisprovePath.scripts scripts).nodes.map
      (fun entry => (entry.1, entry.2.info library)) = tree.entries 2 := by
    rw [DisprovePath.nodes, map_info_zip, entries]
  -- the hidden node is a tree of one node with the same hash
  have scriptsBuilt : taprootBuild library tapBranch ((1, .leaf timeoutBuf) ::
      (2, .leaf additionalScript) :: (DisprovePath.scripts scripts).nodes) = _ :=
    taprootBuild_disprove low nodes
  have hiddenBuilt : taprootBuild library tapBranch ((1, .leaf timeoutBuf) ::
      (2, .leaf additionalScript) ::
        (DisprovePath.hiddenNode (tree.fold (combineNodes tapBranch)).hash).nodes) = _ :=
    @taprootBuild_disprove _ _ _ _ _ (.leaf ⟨(tree.fold (combineNodes tapBranch)).hash, []⟩)
      (Nat.zero_le _) rfl
  have withScripts := createDisproveTaprootOutput_eq semantics compiled scriptsBuilt amount
  have withHidden := createDisproveTaprootOutput_eq semantics compiled hiddenBuilt amount
  refine ⟨_, _, _, scriptsRoot, withScripts, withHidden, rfl, ?_, ?_⟩
  · intro i script found
    simp only [UnspentTxOut.taproot, DisprovePath.extraScripts, map_cons,
      getElem?_cons_succ, getElem?_map, found, Option.map_some]
  · refine ⟨_, _, scriptsBuilt, rfl, rfl, fun script member => ?_⟩
    have leaves : ((disproveTree library timeoutBuf additionalScript tree).entries 0).map Prod.snd =
        (timeoutBuf :: additionalScript :: scripts).map
          fun script => (leaf script).info library := by
      simp only [disproveTree, DepthTree.Tree.entries, entries, map_cons, cons_append, nil_append]
      rw [map_snd_zip (by simp [length_calculateTaprootLeafDepths])]
    exact controlBlock_verifies (height_disproveTree_le low) leaves (by simp [member]) _

/-! ## Sample functions -/

namespace Recorded

open ByteNumeral

/-- A tagged hash, for the digest of the tag. -/
def taggedHash (tag : Bytes32) (bytes : List UInt8) : Bytes32 :=
  Sha2.sha256 (tag.toList ++ tag.toList ++ bytes)

/-- `TapLeafHash` of a script of less than 253 bytes. -/
def tapLeafHash (script : ScriptBuf) : Bytes32 :=
  taggedHash (beBytes 32 0xaeea8fdc4208983105734b58081d1e2638d35f1cb54008d4d357ca03be78e9ee)
    (0xC0 :: UInt8.ofNat script.length :: script)

/-- The output key above three disprove scripts, with its Merkle root. -/
def disproveTweak : Bytes32 × XOnlyPublicKey :=
  (beBytes 32 0x16afe6b6af0e9180e023df892044f4ff12b983aaac44028cd847637152404975,
    beBytes 32 0x9f751ceb6b5e26fccba42b3329c47cf301affc60b3467891ed787a3db8d53d8a)

/-- The functions of other crates, without the Merkle roots. -/
def leafLibrary : BuilderLibrary where
  toCircuitLibrary := Recorded.library
  taprootMerkleRoot _ := none
  tapTweak key root :=
    if key = unspendableXonlyPubkey ∧ root = some disproveTweak.1 then disproveTweak.2 else key
  checksigVerifyAndClearStack _ _ _ := []
  tapLeafHash
  taprootKeySpendSignatureHash _ _ _ _ := none
  taprootScriptSpendSignatureHash _ _ _ _ _ := none
  fromMusig2Pks _ := none
  createAdditionalReplacableDisproveScriptWithDummy _ _ _ _ _ := []
  replacePlaceholdersInScript script _ _ := script
  getG16VerifierDisproveScripts _ := none
  deriveBitvmAssertPk _ _ _ _ _ := none
  getEvmAddress _ := none
  xOnlyPublicKeyFromSlice _ := true
  bridgeCircuitConstant _ := zeroBytes

/-- `TapNodeHash` of two sorted nodes. -/
def nodeHash (left right : Bytes32) : Bytes32 :=
  taggedHash (beBytes 32 0x1941a1f2e56eb95fa2a9f194be5c01f7216f33ed82b091463490d05bf516a015)
    (left.toList ++ right.toList)

/-- The functions of other crates, with the Merkle roots of the taproot builder. -/
def treeLibrary : BuilderLibrary :=
  { leafLibrary with
    taprootMerkleRoot := fun nodes =>
      (taprootBuild leafLibrary nodeHash nodes).map (Option.map HashedNode.hash) }

end Recorded

end Clementine
