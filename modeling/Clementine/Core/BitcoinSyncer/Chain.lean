import Clementine.Core.BitcoinSyncer.Model
import Clementine.Lib.ExceptRun
import Mathlib.Logic.Function.Basic
import Mathlib.Data.List.Nodup

/-!
# The synced chain

The node is a tree of blocks; what it answers may come from any branch of the tree, and the
branch may change from one call to the next.  The canonical rows of the database are one branch
of the tree, from the start height to the tip: marking the rows above a fork cuts the branch,
and saving a block extends it by one height.
-/

namespace Clementine

open Syncer SyncerDb List Except

/-- The blocks a node has ever seen, with their heights. -/
structure BlockTree (blockHash : CircuitBlockHeader → Bytes32) where
  block : Bytes32 → Option Block
  height : Bytes32 → Nat
  hashed : ∀ {hash found}, block hash = some found → blockHash found.header = hash
  parent : ∀ {hash found previous}, block hash = some found →
    block found.header.prevBlockHash = some previous →
    height hash = height found.header.prevBlockHash + 1
  bounded : ∀ {hash found}, block hash = some found → height hash < 2 ^ 31

variable {blockHash : CircuitBlockHeader → Bytes32} {db db' : SyncerDb}

/-- The answers are about blocks of the tree; any of them may be an error. -/
structure NodeRpc.Truthful (rpc : NodeRpc) (tree : BlockTree blockHash) : Prop where
  getBlockHash : ∀ {height hash}, rpc.getBlockHash height = some hash →
    (tree.block hash).isSome ∧ tree.height hash = height
  getBlockHeader : ∀ {hash header}, rpc.getBlockHeader hash = some header →
    ∃ block, tree.block hash = some block ∧ header = block.header
  getBlock : ∀ {hash block}, rpc.getBlock hash = some block → tree.block hash = some block

/-- The canonical rows are the blocks `chain start`, …, `chain (next - 1)`, one branch of the
tree, and the stored blocks are those of the branch. -/
structure SyncerDb.Follows (db : SyncerDb) (tree : BlockTree blockHash) (start next : Nat)
    (chain : Nat → Bytes32) : Prop where
  known : ∀ row ∈ db.rows, ∃ block, tree.block row.blockhash = some block ∧
    row.prevBlockhash = block.header.prevBlockHash ∧ row.height = tree.height row.blockhash
  distinct : (db.rows.map SyncerRow.blockhash).Nodup
  ids : db.rows.map SyncerRow.id = range' 1 db.rows.length
  ordered : start ≤ next
  canonical : ∀ row ∈ db.rows, row.isCanonical = true ↔
    start ≤ row.height ∧ row.height < next ∧ row.blockhash = chain row.height
  present : ∀ n, start ≤ n → n < next → ∃ row ∈ db.rows, row.blockhash = chain n
  height : ∀ n, start ≤ n → n < next → tree.height (chain n) = n
  linked : ∀ n, start ≤ n → n + 1 < next →
    ∃ block, tree.block (chain (n + 1)) = some block ∧ block.header.prevBlockHash = chain n
  stored : ∀ n, start ≤ n → n < next →
    ∃ block, db.blocks.lookup n = some block ∧ tree.block (chain n) = some block

/-! ## Arithmetic of heights -/

namespace Syncer

theorem u32Succ_of_lt {value : Nat} (small : value < 2 ^ 31) : u32Succ value = value + 1 := by
  unfold u32Succ
  omega

@[simp] theorem u32Pred_succ (value : Nat) : u32Pred (value + 1) = value := rfl

theorem i32TryFrom_of_lt {value : Nat} (small : value < 2 ^ 31) : i32TryFrom value = .ok value :=
  if_pos small

theorem i32TryFrom_eq_ok {value result : Nat} (converted : i32TryFrom value = .ok result) :
    value < 2 ^ 31 ∧ result = value := by
  unfold i32TryFrom at converted
  split at converted
  · rename_i small
    exact ⟨small, (ok.inj converted).symm⟩
  · cases converted

end Syncer

/-! ## What the statements do -/

namespace SyncerDb

/-- Rows with their flag recomputed. -/
def withFlags (db : SyncerDb) (flag : SyncerRow → Bool) : SyncerDb :=
  { db with rows := db.rows.map fun row => { row with isCanonical := flag row } }

@[simp] theorem length_rows_withFlags (flag : SyncerRow → Bool) :
    (db.withFlags flag).rows.length = db.rows.length := by
  simp [withFlags]

variable {flag : SyncerRow → Bool}

theorem mem_rows_withFlags {row : SyncerRow} : row ∈ (db.withFlags flag).rows ↔
      ∃ old ∈ db.rows, { old with isCanonical := flag old } = row := by
  simp [withFlags]

/-- Flags do not matter for a column other than the flag. -/
theorem map_rows_withFlags {α : Type} {column : SyncerRow → α}
    (unaffected : ∀ row value, column { row with isCanonical := value } = column row) :
    (db.withFlags flag).rows.map column = db.rows.map column := by
  unfold withFlags
  rw [map_map]
  apply map_congr_left
  intro row _
  exact unaffected row _

end SyncerDb

/-- The ids of the rows above a height, newest first. -/
def SyncerDb.idsAbove (db : SyncerDb) (height : Nat) : List Nat :=
  ((db.rows.filter fun row => height < row.height).map SyncerRow.id).reverse

variable {height : Nat}

theorem handleReorgEvents_eq_ok (handled : handleReorgEvents db height = .ok db') :
    db' = { db.withFlags (fun row => row.isCanonical && decide (row.height ≤ height)) with
      events := db.events ++ (db.idsAbove height).map .reorgedBlock } := by
  unfold handleReorgEvents updateNonCanonicalBlockHashes at handled
  cases converted : i32TryFrom height with
  | error error =>
    rw [converted] at handled
    cases handled
  | ok value =>
    obtain ⟨_, rfl⟩ := i32TryFrom_eq_ok converted
    rw [converted] at handled
    rw [← ok.inj handled]
    have flags : (db.rows.map fun row =>
        if value < row.height then { row with isCanonical := false } else row) =
        (db.withFlags fun row => row.isCanonical && decide (row.height ≤ value)).rows := by
      apply map_congr_left
      intro row _
      by_cases above : value < row.height
      · simp [above]
      · simp [above, Nat.not_lt.mp above]
    simp only [flags]
    rfl

variable {db : SyncerDb}

theorem handleReorgEvents_of_lt (small : height < 2 ^ 31) :
    ∃ db', handleReorgEvents db height = .ok db' := by
  unfold handleReorgEvents updateNonCanonicalBlockHashes
  rw [i32TryFrom_of_lt small]
  exact ⟨_, rfl⟩

variable {block : Block}

/-- A saved block is stored at its height; its row, if there is one already, becomes canonical,
and otherwise a new row is appended. -/
theorem saveBlock_eq_ok {blockId : Nat}
    (saved : saveBlock blockHash db block height = .ok (db', blockId)) :
    (∃ row ∈ db.rows, row.blockhash = blockHash block.header ∧ row.id = blockId ∧
      db' = { db.withFlags (fun row =>
          row.isCanonical || decide (row.blockhash = blockHash block.header)) with
        blocks := db.blocks.insert height block }) ∨
    ((∀ row ∈ db.rows, row.blockhash ≠ blockHash block.header) ∧ blockId = db.rows.length + 1 ∧
      db' = { db with
        rows := db.rows ++ [⟨db.rows.length + 1, blockHash block.header,
          block.header.prevBlockHash, height, true⟩]
        blocks := db.blocks.insert height block }) := by
  unfold saveBlock updateBlockAsCanonical upsertFullBlock at saved
  cases converted : i32TryFrom height with
  | error error =>
    rw [converted] at saved
    cases saved
  | ok value =>
    obtain ⟨_, rfl⟩ := i32TryFrom_eq_ok converted
    simp only [converted] at saved
    cases found : db.rows.find? fun row => row.blockhash = blockHash block.header with
    | some row =>
      left
      rw [found] at saved
      obtain ⟨rfl, rfl⟩ := Prod.mk.inj (ok.inj saved)
      have same := find?_some found
      simp only [decide_eq_true_eq] at same
      refine ⟨row, mem_of_find?_eq_some found, same, rfl, ?_⟩
      have flags : (db.rows.map fun row =>
          if row.blockhash = blockHash block.header then { row with isCanonical := true }
          else row) =
          (db.withFlags fun row =>
            row.isCanonical || decide (row.blockhash = blockHash block.header)).rows := by
        apply map_congr_left
        intro row _
        by_cases this : row.blockhash = blockHash block.header
        · simp [this]
        · simp [this]
      simp only [flags]
      rfl
    | none =>
      right
      have unknown : ∀ row ∈ db.rows, row.blockhash ≠ blockHash block.header := by
        intro row member
        simpa using find?_eq_none.mp found row member
      have flags : (db.rows.map fun row =>
          if row.blockhash = blockHash block.header then { row with isCanonical := true }
          else row) = db.rows := by
        conv_rhs => rw [← map_id db.rows]
        apply map_congr_left
        intro row member
        exact if_neg (unknown row member)
      rw [found] at saved
      simp only [flags] at saved
      unfold insertBlockInfo at saved
      rw [converted] at saved
      obtain ⟨rfl, rfl⟩ := Prod.mk.inj (ok.inj saved)
      exact ⟨unknown, rfl, rfl⟩

theorem events_saveBlock {saved : SyncerDb × Nat}
    (saves : saveBlock blockHash db block height = .ok saved) :
    saved.1.events = db.events := by
  obtain ⟨db', blockId⟩ := saved
  obtain ⟨_, _, _, _, rfl⟩ | ⟨_, _, rfl⟩ := saveBlock_eq_ok saves
  · rfl
  · rfl

theorem saveBlock_of_lt (small : height < 2 ^ 31) :
    ∃ saved, saveBlock blockHash db block height = .ok saved := by
  unfold saveBlock upsertFullBlock
  rw [i32TryFrom_of_lt small]
  obtain ⟨updated, blockId⟩ := db.updateBlockAsCanonical (blockHash block.header)
  cases blockId with
  | some blockId => exact ⟨_, rfl⟩
  | none =>
    change ∃ saved, insertBlockInfo _ _ _ _ = .ok saved
    unfold insertBlockInfo
    rw [i32TryFrom_of_lt small]
    exact ⟨_, rfl⟩

/-! ## Cutting and extending the branch -/

variable {chain : Nat → Bytes32} {tree : BlockTree blockHash}

namespace SyncerDb.Follows

variable {start next : Nat} {hash : Bytes32} {n : Nat}

section

variable (follows : db.Follows tree start next chain)

include follows

variable {row row' : SyncerRow}

/-- Rows of one hash are one row. -/
theorem row_unique (member : row ∈ db.rows) (member' : row' ∈ db.rows)
    (same : row.blockhash = row'.blockhash) : row = row' :=
  inj_on_of_nodup_map follows.distinct member member' same

/-- The row of the branch at a height. -/
theorem row_at (above : start ≤ n) (below : n < next) :
    ∃ row ∈ db.rows, row.blockhash = chain n ∧ row.height = n ∧ row.isCanonical = true := by
  obtain ⟨row, member, hash⟩ := follows.present n above below
  obtain ⟨_, _, _, height⟩ := follows.known row member
  rw [hash, follows.height n above below] at height
  refine ⟨row, member, hash, height, (follows.canonical row member).mpr ?_⟩
  rw [height]
  exact ⟨above, below, hash⟩

/-- The canonical rows of a height are that of the branch. -/
theorem unique_at (member : row ∈ db.rows) (member' : row' ∈ db.rows)
    (canonical : row.isCanonical = true) (canonical' : row'.isCanonical = true)
    (same : row.height = row'.height) : row = row' := by
  obtain ⟨_, _, hash⟩ := (follows.canonical row member).mp canonical
  obtain ⟨_, _, hash'⟩ := (follows.canonical row' member').mp canonical'
  apply follows.row_unique member member'
  rw [hash, hash', same]

/-- A hash that is found is on the branch. -/
theorem of_getBlockInfoFromHash (found : (db.getBlockInfoFromHash hash).isSome) :
    ∃ n, start ≤ n ∧ n < next ∧ hash = chain n ∧ tree.height hash = n := by
  unfold getBlockInfoFromHash at found
  rw [Option.isSome_map, find?_isSome] at found
  obtain ⟨row, member, conditions⟩ := found
  simp only [Bool.and_eq_true, decide_eq_true_eq] at conditions
  obtain ⟨rfl, canonical⟩ := conditions
  obtain ⟨above, below, hash⟩ := (follows.canonical row member).mp canonical
  obtain ⟨_, _, _, height⟩ := follows.known row member
  exact ⟨row.height, above, below, hash, height.symm⟩

theorem getBlockInfoFromHash_isSome (above : start ≤ n) (below : n < next) :
    (db.getBlockInfoFromHash (chain n)).isSome := by
  obtain ⟨row, member, hash, _, canonical⟩ := follows.row_at above below
  unfold getBlockInfoFromHash
  rw [Option.isSome_map, find?_isSome]
  exact ⟨row, member, by simp [hash, canonical]⟩

/-- Events and handlers do not matter. -/
theorem congr (rows : db'.rows = db.rows) (blocks : db'.blocks = db.blocks) :
    db'.Follows tree start next chain := by
  obtain ⟨_, _, _, _⟩ := db
  obtain ⟨_, _, _, _⟩ := db'
  cases rows
  cases blocks
  exact ⟨follows.known, follows.distinct, follows.ids, follows.ordered, follows.canonical,
    follows.present, follows.height, follows.linked, follows.stored⟩

/-- The rows that are kept by a fork at `height` are the branch up to that height. -/
theorem reorg (above : start ≤ height) (below : height < next)
    (handled : handleReorgEvents db height = .ok db') :
    db'.Follows tree start (height + 1) chain := by
  rw [handleReorgEvents_eq_ok handled]
  have kept : (db.withFlags fun row => row.isCanonical && decide (row.height ≤ height)).Follows
      tree start (height + 1) chain := by
    constructor
    case known =>
      intro row member
      obtain ⟨old, memberOld, rfl⟩ := mem_rows_withFlags.mp member
      exact follows.known old memberOld
    case distinct =>
      rw [map_rows_withFlags fun _ _ => rfl]
      exact follows.distinct
    case ids =>
      rw [map_rows_withFlags fun _ _ => rfl, length_rows_withFlags]
      exact follows.ids
    case ordered => omega
    case canonical =>
      intro row member
      obtain ⟨old, memberOld, rfl⟩ := mem_rows_withFlags.mp member
      simp only [Bool.and_eq_true, decide_eq_true_eq, follows.canonical old memberOld]
      constructor
      · intro kept
        exact ⟨kept.1.1, Nat.lt_succ_of_le kept.2, kept.1.2.2⟩
      · intro kept
        exact ⟨⟨kept.1, by omega, kept.2.2⟩, by omega⟩
    case present =>
      intro n aboveStart belowFork
      obtain ⟨row, member, hash⟩ := follows.present n aboveStart (by omega)
      exact ⟨_, mem_rows_withFlags.mpr ⟨row, member, rfl⟩, hash⟩
    case height => exact fun n aboveStart belowFork => follows.height n aboveStart (by omega)
    case linked => exact fun n aboveStart belowFork => follows.linked n aboveStart (by omega)
    case stored => exact fun n aboveStart belowFork => follows.stored n aboveStart (by omega)
  exact kept.congr rfl rfl

end

/-- The branch with one more block. -/
def extended (chain : Nat → Bytes32) (next : Nat) (hash : Bytes32) : Nat → Bytes32 :=
  Function.update chain next hash

theorem extended_of_lt (below : n < next) : extended chain next hash n = chain n :=
  Function.update_of_ne (Nat.ne_of_lt below) _ _

@[simp] theorem extended_self (chain : Nat → Bytes32) (next : Nat) (hash : Bytes32) :
    extended chain next hash next = hash :=
  Function.update_self _ _ _

/-- What the tables hold after saving a block that is not known as canonical: the branch is
longer by this block, for rows that agree with the old ones up to the flag of this block. -/
private theorem extend_of_rows (follows : db.Follows tree start next chain) {block : Block}
    {hash : Bytes32} (inTree : tree.block hash = some block) (height : tree.height hash = next)
    (parent : start < next → block.header.prevBlockHash = chain (next - 1))
    (blocks : db'.blocks = db.blocks.insert next block)
    (known : ∀ row ∈ db'.rows, ∃ block, tree.block row.blockhash = some block ∧
      row.prevBlockhash = block.header.prevBlockHash ∧ row.height = tree.height row.blockhash)
    (distinct : (db'.rows.map SyncerRow.blockhash).Nodup)
    (ids : db'.rows.map SyncerRow.id = range' 1 db'.rows.length)
    (fromOld : ∀ row ∈ db'.rows, row.blockhash = hash ∧ row.isCanonical = true ∨
      ∃ old ∈ db.rows, old.blockhash ≠ hash ∧ row = old)
    (saved : ∃ row ∈ db'.rows, row.blockhash = hash)
    (kept : ∀ old ∈ db.rows, ∃ row ∈ db'.rows, row.blockhash = old.blockhash) :
    db'.Follows tree start (next + 1) (extended chain next hash) := by
  have before := follows.ordered
  constructor
  case known => exact known
  case distinct => exact distinct
  case ids => exact ids
  case ordered => omega
  case canonical =>
    intro row member
    obtain ⟨_, _, _, rowHeight⟩ := known row member
    obtain ⟨same, canonical⟩ | ⟨old, memberOld, different, rfl⟩ := fromOld row member
    · rw [same, height] at rowHeight
      rw [canonical, same, rowHeight, extended_self]
      simp [before]
    · rw [follows.canonical row memberOld]
      constructor
      · intro conditions
        rw [extended_of_lt conditions.2.1]
        exact ⟨conditions.1, by omega, conditions.2.2⟩
      · intro conditions
        obtain ⟨above, below, onBranch⟩ := conditions
        rcases Nat.lt_succ_iff_lt_or_eq.mp below with below | atTip
        · rw [extended_of_lt below] at onBranch
          exact ⟨above, below, onBranch⟩
        · rw [atTip, extended_self] at onBranch
          exact absurd onBranch different
  case present =>
    intro n above below
    rcases Nat.lt_succ_iff_lt_or_eq.mp below with below | rfl
    · obtain ⟨old, memberOld, oldHash⟩ := follows.present n above below
      obtain ⟨row, member, same⟩ := kept old memberOld
      exact ⟨row, member, by rw [same, oldHash, extended_of_lt below]⟩
    · obtain ⟨row, member, same⟩ := saved
      exact ⟨row, member, by rw [same, extended_self]⟩
  case height =>
    intro n above below
    rcases Nat.lt_succ_iff_lt_or_eq.mp below with below | rfl
    · rw [extended_of_lt below, follows.height n above below]
    · rw [extended_self, height]
  case linked =>
    intro n above below
    rw [extended_of_lt (show n < next by omega)]
    rcases Nat.lt_succ_iff_lt_or_eq.mp below with below | atTip
    · rw [extended_of_lt below]
      exact follows.linked n above below
    · subst atTip
      rw [extended_self]
      exact ⟨block, inTree, parent (by omega)⟩
  case stored =>
    intro n above below
    rw [blocks]
    rcases Nat.lt_succ_iff_lt_or_eq.mp below with below | rfl
    · rw [extended_of_lt below, AList.lookup_insert_ne (Nat.ne_of_lt below)]
      exact follows.stored n above below
    · rw [extended_self]
      exact ⟨block, AList.lookup_insert _, inTree⟩

/-- A saved block of the tree extends the branch. -/
theorem save (follows : db.Follows tree start next chain) {blockId : Nat}
    (inTree : tree.block hash = some block) (height : tree.height hash = next)
    (parent : start < next → block.header.prevBlockHash = chain (next - 1))
    (saved : saveBlock blockHash db block next = .ok (db', blockId)) :
    db'.Follows tree start (next + 1) (extended chain next hash) := by
  have hashed := tree.hashed inTree
  obtain ⟨row, member, rowHash, _, rfl⟩ | ⟨unknown, _, rfl⟩ := saveBlock_eq_ok saved
  · rw [hashed] at rowHash
    simp only [hashed]
    apply follows.extend_of_rows inTree height parent
    case blocks => rfl
    case known =>
      intro row member
      obtain ⟨old, memberOld, rfl⟩ := mem_rows_withFlags.mp member
      exact follows.known old memberOld
    case distinct =>
      change ((db.withFlags _).rows.map _).Nodup
      rw [map_rows_withFlags fun _ _ => rfl]
      exact follows.distinct
    case ids =>
      change (db.withFlags _).rows.map _ = range' 1 (db.withFlags _).rows.length
      rw [map_rows_withFlags fun _ _ => rfl, length_rows_withFlags]
      exact follows.ids
    case fromOld =>
      intro row member
      obtain ⟨old, memberOld, rfl⟩ := mem_rows_withFlags.mp member
      by_cases same : old.blockhash = hash
      · exact .inl ⟨same, by simp [same]⟩
      · exact .inr ⟨old, memberOld, same, by simp [same]⟩
    case saved => exact ⟨_, mem_rows_withFlags.mpr ⟨row, member, rfl⟩, rowHash⟩
    case kept =>
      intro old member
      exact ⟨_, mem_rows_withFlags.mpr ⟨old, member, rfl⟩, rfl⟩
  · rw [hashed] at unknown
    simp only [hashed]
    apply follows.extend_of_rows inTree height parent
    case blocks => rfl
    case known =>
      intro row member
      rcases mem_append.mp member with member | member
      · exact follows.known row member
      · rw [mem_singleton.mp member]
        exact ⟨block, inTree, rfl, height.symm⟩
    case distinct =>
      simp only [map_append, map_cons, map_nil]
      refine follows.distinct.append (nodup_singleton _) ?_
      intro other memberOther
      obtain ⟨row, member, rfl⟩ := mem_map.mp memberOther
      simpa using unknown row member
    case ids =>
      simp only [map_append, map_cons, map_nil, follows.ids, length_append, length_singleton]
      rw [range'_concat]
      simp [Nat.add_comm]
    case fromOld =>
      intro row member
      rcases mem_append.mp member with member | member
      · exact .inr ⟨row, member, unknown row member, rfl⟩
      · rw [mem_singleton.mp member]
        exact .inl ⟨rfl, rfl⟩
    case saved => exact ⟨_, mem_append_right _ (mem_singleton.mpr rfl), rfl⟩
    case kept => exact fun old member => ⟨old, mem_append_left _ member, rfl⟩

end SyncerDb.Follows

/-! ## The blocks of a call -/

/-- Blocks of the tree at the heights from `height` on, each the parent of the next, over
`parent`. -/
def IsSegment (tree : BlockTree blockHash) : Bytes32 → Nat → List BlockInfo → Prop
  | _, _, [] => True
  | parent, height, info :: rest =>
    (∃ block, tree.block info.hash = some block ∧ info.header = block.header) ∧
    tree.height info.hash = height ∧ info.height = height ∧
    info.header.prevBlockHash = parent ∧ IsSegment tree info.hash (height + 1) rest

/-- The blocks found by walking back are a segment over a canonical row. -/
structure FoundSegment (db : SyncerDb) (tree : BlockTree blockHash) (finalityDepth : Nat)
    (top : BlockInfo) (blocks : List BlockInfo) (parent : Bytes32) (height : Nat) : Prop where
  segment : IsSegment tree parent height blocks
  canonical : (db.getBlockInfoFromHash parent).isSome
  last : blocks.getLast? = some top
  top : height + blocks.length = top.height + 1
  depth : blocks.length ≤ finalityDepth

variable {rpc : NodeRpc} {top : BlockInfo}

theorem walkBack_eq_ok {finalityDepth : Nat} (truthful : rpc.Truthful tree) :
    ∀ {fuel : Nat} {lowest : BlockInfo} {above blocks : List BlockInfo},
    IsSegment tree lowest.header.prevBlockHash lowest.height (lowest :: above) →
    (lowest :: above).getLast? = some top →
    lowest.height + (lowest :: above).length = top.height + 1 →
    (lowest :: above).length ≤ finalityDepth →
    walkBack db rpc finalityDepth fuel lowest above = .ok blocks →
    ∃ parent height, FoundSegment db tree finalityDepth top blocks parent height := by
  intro fuel
  induction fuel with
  | zero =>
    intro lowest above blocks segment last heights depth walked
    unfold walkBack at walked
    split at walked
    · rename_i found
      cases walked
      exact ⟨_, _, segment, by rw [found]; rfl, last, heights, depth⟩
    · split at walked
      · cases walked
      · split at walked
        · cases walked
        · cases walked
  | succ fuel ih =>
    intro lowest above blocks segment last heights depth walked
    unfold walkBack at walked
    split at walked
    · rename_i found
      cases walked
      exact ⟨_, _, segment, by rw [found]; rfl, last, heights, depth⟩
    · split at walked
      · cases walked
      · rename_i header served
        split at walked
        · cases walked
        · rename_i shallow
          obtain ⟨previous, inTree, sameHeader⟩ := truthful.getBlockHeader served
          obtain ⟨⟨block, lowestInTree, lowestHeader⟩, lowestHeight, _, _, rest⟩ := segment
          have linked := tree.parent lowestInTree (lowestHeader ▸ inTree)
          rw [lowestHeight, ← lowestHeader] at linked
          have pred : u32Pred lowest.height = tree.height lowest.header.prevBlockHash := by
            rw [linked]
            exact u32Pred_succ _
          apply ih _ _ _ _ walked
          · refine ⟨⟨previous, inTree, sameHeader⟩, pred.symm, rfl, rfl, ?_⟩
            rw [pred, ← linked]
            exact ⟨⟨block, lowestInTree, lowestHeader⟩, lowestHeight, rfl, rfl, rest⟩
          · rw [getLast?_cons_cons]
            exact last
          · simp only [length_cons] at heights ⊢
            omega
          · simp only [length_cons] at shallow ⊢
            omega

variable {blocks : List BlockInfo}

/-- The blocks of a call: a segment up to the height after the tip. -/
theorem fetchNewBlocks_eq_ok {currentHeight finalityDepth : Nat} (truthful : rpc.Truthful tree)
    (small : currentHeight < 2 ^ 31) (positive : 1 ≤ finalityDepth)
    (fetched : fetchNewBlocks db rpc currentHeight finalityDepth = .ok (some blocks)) :
    ∃ top parent height, FoundSegment db tree finalityDepth top blocks parent height ∧
      top.height = currentHeight + 1 ∧ rpc.getBlockHash (currentHeight + 1) = some top.hash := by
  unfold fetchNewBlocks at fetched
  rw [u32Succ_of_lt small] at fetched
  cases hashServed : rpc.getBlockHash (currentHeight + 1) with
  | none =>
    simp only [hashServed] at fetched
    cases fetched
  | some hash =>
    simp only [hashServed] at fetched
    cases headerServed : rpc.getBlockHeader hash with
    | none =>
      rw [headerServed] at fetched
      cases fetched
    | some header =>
      simp only [headerServed] at fetched
      cases walked : walkBack db rpc finalityDepth finalityDepth
          ⟨hash, header, currentHeight + 1⟩ [] with
      | error error =>
        rw [walked] at fetched
        cases fetched
      | ok found =>
        rw [walked] at fetched
        obtain rfl := Option.some.inj (ok.inj fetched)
        have topHeight := (truthful.getBlockHash hashServed).2
        have single : IsSegment tree header.prevBlockHash (currentHeight + 1)
            [⟨hash, header, currentHeight + 1⟩] :=
          ⟨truthful.getBlockHeader headerServed, topHeight, rfl, rfl, trivial⟩
        obtain ⟨parent, height, segment⟩ :=
          walkBack_eq_ok truthful single rfl rfl positive walked
        exact ⟨_, parent, height, segment, rfl, rfl⟩

/-- The branch with the blocks of a segment. -/
def extendedBy (chain : Nat → Bytes32) : Nat → List BlockInfo → Nat → Bytes32
  | _, [] => chain
  | next, info :: rest =>
    extendedBy (SyncerDb.Follows.extended chain next info.hash) (next + 1) rest

theorem extendedBy_of_lt : ∀ {chain : Nat → Bytes32} {next n : Nat}, n < next →
      extendedBy chain next blocks n = chain n := by
  induction blocks with
  | nil => exact fun _ => rfl
  | cons info rest ih =>
    intro chain next n below
    unfold extendedBy
    rw [ih (by omega), SyncerDb.Follows.extended_of_lt below]

/-- The first block of a segment is saved and announced; the rest is a segment over it. -/
structure SavesFirst (tree : BlockTree blockHash) (start next : Nat) (chain : Nat → Bytes32)
    (info : BlockInfo) (rest : List BlockInfo) (rpc : NodeRpc) (db db' : SyncerDb) (block : Block)
    (saved : SyncerDb × Nat) : Prop where
  inTree : tree.block info.hash = some block
  height : tree.height info.hash = next
  saves : saveBlock blockHash db block next = .ok saved
  follows : (saved.1.insertEvent (.newBlock saved.2)).Follows tree start (next + 1)
    (SyncerDb.Follows.extended chain next info.hash)
  tail : IsSegment tree info.hash (next + 1) rest
  top : start < next + 1 → info.hash = SyncerDb.Follows.extended chain next info.hash (next + 1 - 1)
  processes : processNewBlocks blockHash rpc (saved.1.insertEvent (.newBlock saved.2)) rest =
    .ok db'

variable {rest : List BlockInfo} {parent : Bytes32}

theorem SyncerDb.Follows.process_cons {start next : Nat} {info : BlockInfo}
    (truthful : rpc.Truthful tree) (follows : db.Follows tree start next chain)
    (segment : IsSegment tree parent next (info :: rest))
    (onBranch : start < next → parent = chain (next - 1))
    (processed : processNewBlocks blockHash rpc db (info :: rest) = .ok db') :
    ∃ block saved, SavesFirst tree start next chain info rest rpc db db' block saved := by
  obtain ⟨⟨block, inTree, sameHeader⟩, height, infoHeight, infoParent, tail⟩ := segment
  unfold processNewBlocks at processed
  cases served : rpc.getBlock info.hash with
  | none =>
    rw [served] at processed
    cases processed
  | some received =>
    simp only [served] at processed
    have same := truthful.getBlock served
    rw [inTree] at same
    cases same
    cases saves : saveBlock blockHash db block info.height with
    | error error =>
      rw [saves] at processed
      cases processed
    | ok saved =>
      simp only [saves] at processed
      rw [infoHeight] at saves
      have parentOnBranch : start < next → block.header.prevBlockHash = chain (next - 1) := by
        intro later
        rw [← sameHeader, infoParent, onBranch later]
      refine ⟨block, saved, inTree, height, saves, ?_, tail, ?_, processed⟩
      · exact (follows.save inTree height parentOnBranch saves).congr rfl rfl
      · intro _
        rw [Nat.add_sub_cancel, extended_self]

/-- Processing a segment extends the branch by it. -/
theorem SyncerDb.Follows.process {start : Nat} (truthful : rpc.Truthful tree) :
    ∀ {db db' : SyncerDb} {next : Nat} {chain : Nat → Bytes32} {parent : Bytes32},
    db.Follows tree start next chain → IsSegment tree parent next blocks →
    (start < next → parent = chain (next - 1)) →
    processNewBlocks blockHash rpc db blocks = .ok db' →
    db'.Follows tree start (next + blocks.length) (extendedBy chain next blocks) := by
  induction blocks with
  | nil =>
    intro db db' next chain parent follows _ _ processed
    cases processed
    exact follows
  | cons info rest ih =>
    intro db db' next chain parent follows segment onBranch processed
    obtain ⟨block, saved, first⟩ := follows.process_cons truthful segment onBranch processed
    have afterRest := ih first.follows first.tail first.top first.processes
    rw [length_cons, show next + (rest.length + 1) = next + 1 + rest.length by omega]
    exact afterRest

/-! ## One call -/

/-- What a call that returns `true` does: it cuts the branch at `fork` and extends it by `blocks`
up to the height after the tip. -/
structure Advances (rpc : NodeRpc) (tree : BlockTree blockHash) (db db' : SyncerDb)
    (start tip finalityDepth : Nat) (chain : Nat → Bytes32) (fork : Nat)
    (blocks : List BlockInfo) : Prop where
  fetched : fetchNewBlocks db rpc tip finalityDepth = .ok (some blocks)
  above : start ≤ fork
  below : fork ≤ tip
  depth : tip + 1 ≤ fork + finalityDepth
  segment : IsSegment tree (chain fork) (fork + 1) blocks
  length : fork + blocks.length = tip + 1
  writes : ∃ cut, handleReorgEvents db fork = .ok cut ∧
    processNewBlocks blockHash rpc cut blocks = .ok db'
  follows : db'.Follows tree start (tip + 2) (extendedBy chain (fork + 1) blocks)
  top : rpc.getBlockHash (tip + 1) = some (extendedBy chain (fork + 1) blocks (tip + 1))

namespace BitcoinSyncerTask

variable {task : BitcoinSyncerTask} {rpc : NodeRpc} {fault : Option String} {db : SyncerDb}
variable (blockHash task rpc fault db)

/-- A call changes nothing, or returns `true` after its transaction. -/
theorem runOnce_cases : ((task.runOnce blockHash rpc fault db).task = task ∧
      (task.runOnce blockHash rpc fault db).db = db ∧
      (task.runOnce blockHash rpc fault db).result ≠ .ok true) ∨
    ∃ first rest db',
      fetchNewBlocks db rpc task.currentHeight task.finalityDepth = .ok (some (first :: rest)) ∧
      syncBlocks blockHash rpc db first rest = .ok db' ∧
      task.runOnce blockHash rpc fault db =
        ⟨{ task with currentHeight := (rest.getLastD first).height }, db', .ok true⟩ := by
  unfold runOnce
  generalize fetchNewBlocks db rpc task.currentHeight task.finalityDepth = fetched
  generalize syncBlocks blockHash rpc db = sync
  rcases fetched with error | _ | _ | ⟨first, rest⟩
  · exact .inl ⟨rfl, rfl, by simp⟩
  · exact .inl ⟨rfl, rfl, by simp⟩
  · exact .inl ⟨rfl, rfl, by simp⟩
  · rcases synced : sync first rest with error | db'
    · left
      simp [synced]
    · cases fault with
      | some text =>
        left
        simp [synced]
      | none =>
        right
        exact ⟨first, rest, db', rfl, synced, by simp [synced]⟩

/-- A call returns `false` where the node has no new block. -/
theorem runOnce_eq_false (unchanged : (task.runOnce blockHash rpc fault db).result = .ok false) :
    fetchNewBlocks db rpc task.currentHeight task.finalityDepth = .ok none ∨
      fetchNewBlocks db rpc task.currentHeight task.finalityDepth = .ok (some []) := by
  unfold runOnce at unchanged
  generalize fetchNewBlocks db rpc task.currentHeight task.finalityDepth = fetched
    at unchanged ⊢
  generalize syncBlocks blockHash rpc db = sync at unchanged
  rcases fetched with error | _ | _ | ⟨first, rest⟩
  · cases unchanged
  · exact .inl rfl
  · exact .inr rfl
  · rcases synced : sync first rest with error | db'
    · simp [synced] at unchanged
    · cases fault with
      | some text => simp [synced] at unchanged
      | none => simp [synced] at unchanged

theorem finalityDepth_runOnce :
    (task.runOnce blockHash rpc fault db).task.finalityDepth = task.finalityDepth := by
  obtain ⟨same, _, _⟩ | ⟨_, _, _, _, _, called⟩ := runOnce_cases blockHash task rpc fault db
  · rw [same]
  · rw [called]

end BitcoinSyncerTask

theorem extendedBy_last : ∀ {chain : Nat → Bytes32} {next n : Nat}, blocks.getLast? = some top →
      next + blocks.length = n + 1 → extendedBy chain next blocks n = top.hash := by
  induction blocks with
  | nil =>
    intro chain next n last
    cases last
  | cons info rest ih =>
    intro chain next n last length
    unfold extendedBy
    cases rest with
    | nil =>
      obtain rfl : info = top := by simpa using last
      obtain rfl : next = n := by simpa using length
      simp [extendedBy]
    | cons second rest =>
      rw [getLast?_cons_cons] at last
      apply ih last
      simp only [length_cons] at length ⊢
      omega

namespace SyncerDb.Follows

variable {db : SyncerDb} {start tip : Nat}

theorem tip_small (follows : db.Follows tree start (tip + 1) chain) (started : start ≤ tip) :
    tip < 2 ^ 31 := by
  obtain ⟨block, _, inTree⟩ := follows.stored tip started (Nat.lt_succ_self tip)
  have bounded := tree.bounded inTree
  rwa [follows.height tip started (Nat.lt_succ_self tip)] at bounded

/-- The blocks found by walking back start above a block of the branch. -/
theorem fork_of_found {next finalityDepth : Nat} {top first : BlockInfo}
    (follows : db.Follows tree start next chain)
    (found : FoundSegment db tree finalityDepth top (first :: rest) parent height) :
    ∃ fork, start ≤ fork ∧ fork < next ∧ parent = chain fork ∧ height = fork + 1 := by
  obtain ⟨fork, above, below, onBranch, parentHeight⟩ :=
    follows.of_getBlockInfoFromHash found.canonical
  obtain ⟨⟨block, inTree, sameHeader⟩, firstHeight, _, firstParent, _⟩ := found.segment
  obtain ⟨parentBlock, _, parentInTree⟩ := follows.stored fork above below
  have parentServed : tree.block block.header.prevBlockHash = some parentBlock := by
    rw [← sameHeader, firstParent, onBranch]
    exact parentInTree
  have linked := tree.parent inTree parentServed
  rw [← sameHeader, firstParent, firstHeight, parentHeight] at linked
  exact ⟨fork, above, below, onBranch, linked⟩

/-- A call that returns `true` advances the branch by one height. -/
theorem advance {task : BitcoinSyncerTask} {fault : Option String}
    (follows : db.Follows tree start (task.currentHeight + 1) chain)
    (started : start ≤ task.currentHeight) (positive : 1 ≤ task.finalityDepth)
    (truthful : rpc.Truthful tree)
    (advanced : (task.runOnce blockHash rpc fault db).result = .ok true) :
    (task.runOnce blockHash rpc fault db).task =
        { task with currentHeight := task.currentHeight + 1 } ∧
      ∃ fork blocks, Advances rpc tree db (task.runOnce blockHash rpc fault db).db start
        task.currentHeight task.finalityDepth chain fork blocks := by
  obtain ⟨_, _, failed⟩ | ⟨first, rest, db', fetched, synced, called⟩ :=
    BitcoinSyncerTask.runOnce_cases blockHash task rpc fault db
  · exact absurd advanced failed
  · obtain ⟨top, parent, height, found, topHeight, served⟩ :=
      fetchNewBlocks_eq_ok truthful (follows.tip_small started) positive fetched
    obtain ⟨fork, above, below, rfl, rfl⟩ := follows.fork_of_found found
    have lastHeight : (rest.getLastD first).height = task.currentHeight + 1 := by
      have last := found.last
      rw [getLast?_cons, Option.some.injEq] at last
      rw [getLastD_eq_getLast?, last, topHeight]
    have length := found.top
    rw [topHeight] at length
    have pred : u32Pred first.height = fork := by
      rw [found.segment.2.2.1]
      exact u32Pred_succ fork
    unfold syncBlocks at synced
    rw [pred] at synced
    obtain ⟨cut, handled, processed⟩ := ExceptRun.bind_ok_iff.mp synced
    rw [called, lastHeight]
    refine ⟨rfl, fork, first :: rest, fetched, above, by omega, ?_, found.segment, by omega,
      ?_, ?_, ?_⟩
    · have depth := found.depth
      omega
    · exact ⟨cut, handled, processed⟩
    · have extendedCut := (follows.reorg above below handled).process truthful found.segment
        (fun _ => by rw [Nat.add_sub_cancel]) processed
      rwa [show fork + 1 + (first :: rest).length = task.currentHeight + 2 by omega]
        at extendedCut
    · rw [served, extendedBy_last found.last (by omega)]

end SyncerDb.Follows

end Clementine
