import Clementine.Core.BitcoinSyncer.Chain

/-!
# Runs of the syncer

A run starts on empty tables; its calls meet any answers of a node about one tree of blocks, any
failures, and may be interrupted by a new start.  After every call the canonical rows are one
branch of the tree.  Where the node answers from one best chain, a call follows it as soon as it
is longer than the stored chain, up to the depth of a fork that the finality depth allows.
-/

namespace Clementine

open Syncer BitcoinSyncer BitcoinSyncerTask List Nat Option

variable {blockHash : CircuitBlockHeader → Bytes32} {chain : Nat → Bytes32}
  {tree : BlockTree blockHash} {db : SyncerDb}

/-- The tables of a new database. -/
def SyncerDb.empty : SyncerDb := ⟨[], ∅, [], ∅⟩

/-- A call of `BitcoinSyncerTask::run_once`, with what it meets. -/
structure SyncerStep where
  db : SyncerDb
  task : BitcoinSyncerTask
  rpc : NodeRpc
  fault : Option String

/-- The effect of the call. -/
def SyncerStep.call (blockHash : CircuitBlockHeader → Bytes32) (step : SyncerStep) : SyncerCall :=
  step.task.runOnce blockHash step.rpc step.fault step.db

variable (tree : BlockTree blockHash) (start finalityDepth : Nat) in
/-- Tables and task after a sequence of calls, which are listed newest first.  Between the calls
the consumers of the events write their own table. -/
inductive SyncerRun : List SyncerStep → SyncerDb → BitcoinSyncerTask → Prop
  | started {rpc handlers db task} (truthful : rpc.Truthful tree)
      (created : new blockHash rpc start finalityDepth
        { SyncerDb.empty with handlers := handlers } = .ok (db, task)) :
      SyncerRun [] db task
  | restarted {steps db task rpc db' task'} (run : SyncerRun steps db task)
      (truthful : rpc.Truthful tree)
      (created : new blockHash rpc start finalityDepth db = .ok (db', task')) :
      SyncerRun steps db' task'
  | called {steps db task rpc fault} (run : SyncerRun steps db task)
      (truthful : rpc.Truthful tree) :
      SyncerRun (⟨db, task, rpc, fault⟩ :: steps)
        (task.runOnce blockHash rpc fault db).db (task.runOnce blockHash rpc fault db).task
  | consumed {steps db task handlers} (run : SyncerRun steps db task) :
      SyncerRun steps { db with handlers := handlers } task

/-! ## The branch along a run -/

namespace SyncerDb.Follows

variable {start tip : Nat}

theorem empty (tree : BlockTree blockHash) (start : Nat) (chain : Nat → Bytes32)
    (handlers : AList fun _ : String => Nat) :
    SyncerDb.Follows { SyncerDb.empty with handlers := handlers } tree start start chain := by
  constructor
  case known => exact fun row member => by cases member
  case distinct => exact nodup_nil
  case ids => rfl
  case ordered => exact Nat.le_refl start
  case canonical => exact fun row member => by cases member
  case present => exact fun n above below => absurd above (Nat.not_le.mpr below)
  case height => exact fun n above below => absurd above (Nat.not_le.mpr below)
  case linked => exact fun n above below => absurd above (by omega)
  case stored => exact fun n above below => absurd above (Nat.not_le.mpr below)

/-- The greatest canonical height is the tip. -/
theorem getMaxHeight_eq (follows : db.Follows tree start (tip + 1) chain) (started : start ≤ tip) :
    db.getMaxHeight = some tip := by
  unfold SyncerDb.getMaxHeight
  rw [max?_eq_some_iff]
  constructor
  · obtain ⟨row, member, _, height, canonical⟩ := follows.row_at started (lt_succ_self tip)
    exact mem_map.mpr ⟨row, mem_filter.mpr ⟨member, canonical⟩, height⟩
  · intro height memberHeight
    obtain ⟨row, member, rfl⟩ := mem_map.mp memberHeight
    obtain ⟨member, canonical⟩ := mem_filter.mp member
    have below := ((follows.canonical row member).mp canonical).2.1
    omega

theorem getMaxHeight_none (follows : db.Follows tree start start chain) :
    db.getMaxHeight = none := by
  unfold SyncerDb.getMaxHeight
  rw [max?_eq_none_iff, map_eq_nil_iff, filter_eq_nil_iff]
  intro row member canonical
  have bounds := (follows.canonical row member).mp canonical
  omega

end SyncerDb.Follows

section Runs

variable {start finalityDepth : Nat} {rpc : NodeRpc}
/-- A new start on tables with a branch keeps them and resumes at the tip. -/
theorem BitcoinSyncer.new_eq_of_follows {tip : Nat}
    (follows : db.Follows tree start (tip + 1) chain) (started : start ≤ tip) :
    new blockHash rpc start finalityDepth db = .ok (db, ⟨tip, finalityDepth⟩) := by
  unfold new setInitialBlockInfoIfNotExists
  simp only [follows.getMaxHeight_eq started, isSome_some, if_true, bind, Except.bind]
  rfl

variable {task : BitcoinSyncerTask}

/-- The first start saves the block at the start height. -/
theorem BitcoinSyncer.new_eq_ok {db' : SyncerDb} (follows : db.Follows tree start start chain)
    (truthful : rpc.Truthful tree)
    (created : new blockHash rpc start finalityDepth db = .ok (db', task)) :
    task = ⟨start, finalityDepth⟩ ∧
      ∃ hash block saved, tree.block hash = some block ∧ tree.height hash = start ∧
        saveBlock blockHash db block start = .ok saved ∧
        db' = saved.1.insertEvent (.newBlock saved.2) ∧
        db'.Follows tree start (start + 1) (SyncerDb.Follows.extended chain start hash) := by
  unfold new at created
  obtain ⟨initial, initialized, created⟩ := ExceptRun.bind_ok_iff.mp created
  unfold setInitialBlockInfoIfNotExists at initialized
  rw [follows.getMaxHeight_none] at initialized
  simp only [isSome_none, Bool.false_eq_true, if_false] at initialized
  cases count : rpc.getBlockCount with
  | none =>
    rw [count] at initialized
    cases initialized
  | some currentHeight =>
    simp only [count] at initialized
    split at initialized
    · cases initialized
      rw [follows.getMaxHeight_none] at created
      cases created
    · obtain ⟨info, fetched, initialized⟩ := ExceptRun.bind_ok_iff.mp initialized
      cases served : rpc.getBlock info.hash with
      | none =>
        simp only [served] at initialized
        cases initialized
      | some block =>
        simp only [served] at initialized
        obtain ⟨saved, saving, initialized⟩ := ExceptRun.bind_ok_iff.mp initialized
        cases initialized
        have height : tree.height info.hash = start := by
          unfold fetchBlockInfoFromHeight at fetched
          cases hashServed : rpc.getBlockHash start with
          | none =>
            rw [hashServed] at fetched
            cases fetched
          | some hash =>
            simp only [hashServed] at fetched
            split at fetched
            · cases fetched
            · cases fetched
              exact (truthful.getBlockHash hashServed).2
        have inTree := truthful.getBlock served
        have noParent : start < start → block.header.prevBlockHash = chain (start - 1) :=
          fun impossible => absurd impossible (Nat.lt_irrefl start)
        have afterSave := follows.save inTree height noParent saving
        have afterEvent : (saved.1.insertEvent (.newBlock saved.2)).Follows tree start
            (start + 1) (SyncerDb.Follows.extended chain start info.hash) :=
          afterSave.congr rfl rfl
        rw [afterEvent.getMaxHeight_eq (Nat.le_refl start)] at created
        obtain ⟨rfl, rfl⟩ := Prod.mk.inj (Except.ok.inj created)
        exact ⟨rfl, info.hash, block, saved, inTree, height, saving, rfl, afterEvent⟩

/-- After every run the canonical rows are a branch up to the current height. -/
theorem SyncerRun.follows {steps : List SyncerStep}
    (run : SyncerRun tree start finalityDepth steps db task) (positive : 1 ≤ finalityDepth) :
    task.finalityDepth = finalityDepth ∧ start ≤ task.currentHeight ∧
      ∃ chain, db.Follows tree start (task.currentHeight + 1) chain := by
  induction run with
  | @started rpc handlers db task truthful created =>
    obtain ⟨rfl, hash, _, _, _, _, _, _, follows⟩ := new_eq_ok
      (SyncerDb.Follows.empty tree start (fun _ => Vector.replicate 32 0) handlers)
      truthful created
    exact ⟨rfl, Nat.le_refl _, _, follows⟩
  | restarted run truthful created ih =>
    obtain ⟨depth, started, chain, follows⟩ := ih
    rw [new_eq_of_follows follows started] at created
    cases created
    exact ⟨rfl, started, chain, follows⟩
  | @called steps db task rpc fault run truthful ih =>
    obtain ⟨depth, started, chain, follows⟩ := ih
    rw [finalityDepth_runOnce]
    by_cases advanced : (task.runOnce blockHash rpc fault db).result = .ok true
    · obtain ⟨task', fork, blocks, advances⟩ :=
        follows.advance started (depth ▸ positive) truthful advanced
      rw [task']
      exact ⟨depth, by simp only; omega, _, advances.follows⟩
    · obtain ⟨sameTask, sameDb, _⟩ | ⟨_, _, _, _, _, called⟩ :=
        runOnce_cases blockHash task rpc fault db
      · rw [sameTask, sameDb]
        exact ⟨depth, started, chain, follows⟩
      · exact absurd (by rw [called]) advanced
  | consumed run ih =>
    obtain ⟨depth, started, chain, follows⟩ := ih
    exact ⟨depth, started, chain, follows.congr rfl rfl⟩

/-! ## A node with one best chain -/

/-- The node answers from its best chain, and about every block of the tree. -/
structure NodeRpc.Serves (rpc : NodeRpc) (tree : BlockTree blockHash)
    (best : Nat → Option Bytes32) : Prop where
  getBlockHash : rpc.getBlockHash = best
  getBlockHeader : ∀ hash, rpc.getBlockHeader hash = (tree.block hash).map Block.header
  getBlock : rpc.getBlock = tree.block
  inTree : ∀ {height hash}, best height = some hash →
    (tree.block hash).isSome ∧ tree.height hash = height
  linked : ∀ {height hash block}, best (height + 1) = some hash → tree.block hash = some block →
    best height = some block.header.prevBlockHash

theorem NodeRpc.Serves.truthful {best : Nat → Option Bytes32} (serves : rpc.Serves tree best) :
    rpc.Truthful tree := by
  constructor
  case getBlockHash =>
    intro height hash served
    rw [serves.getBlockHash] at served
    exact serves.inTree served
  case getBlockHeader =>
    intro hash header served
    rw [serves.getBlockHeader, map_eq_some_iff] at served
    obtain ⟨block, inTree, rfl⟩ := served
    exact ⟨block, inTree, rfl⟩
  case getBlock =>
    intro hash block served
    rwa [serves.getBlock] at served

variable {rpc : NodeRpc} {best : Nat → Option Bytes32} {tip next : Nat}

/-- Walking back along the best chain ends at the fork. -/
theorem walkBack_of_fork (serves : rpc.Serves tree best) {fork : Nat}
    (known : ∀ hash, best fork = some hash → (db.getBlockInfoFromHash hash).isSome)
    (depth : tip + 1 ≤ fork + finalityDepth) :
    ∀ {fuel : Nat} (height : Nat) {lowest : BlockInfo} {above : List BlockInfo} (block : Block),
    fork ≤ height → height - fork ≤ fuel → lowest.height = height + 1 →
    best (height + 1) = some lowest.hash → tree.block lowest.hash = some block →
    lowest.header = block.header → (lowest :: above).length + height = tip + 1 →
    ∃ blocks, walkBack db rpc finalityDepth fuel lowest above = .ok blocks := by
  intro fuel
  induction fuel with
  | zero =>
    intro height lowest above block aboveFork fuelLeft lowestHeight onBest inTree header length
    have atFork : height = fork := by omega
    subst atFork
    have parent := serves.linked onBest inTree
    rw [← header] at parent
    obtain ⟨info, found⟩ := isSome_iff_exists.mp (known _ parent)
    unfold walkBack
    rw [found]
    exact ⟨_, rfl⟩
  | succ fuel ih =>
    intro height lowest above block aboveFork fuelLeft lowestHeight onBest inTree header length
    have parent := serves.linked onBest inTree
    rw [← header] at parent
    unfold walkBack
    cases found : db.getBlockInfoFromHash lowest.header.prevBlockHash with
    | some info => exact ⟨_, rfl⟩
    | none =>
      have later : fork ≠ height := by
        intro same
        subst same
        have isSome := known _ parent
        rw [found] at isSome
        cases isSome
      obtain ⟨previous, previousInTree⟩ :=
        isSome_iff_exists.mp (serves.inTree parent).1
      obtain ⟨lower, rfl⟩ : ∃ lower, height = lower + 1 := ⟨height - 1, by omega⟩
      simp only [serves.getBlockHeader, previousInTree, map_some]
      rw [if_neg (by omega)]
      refine ih lower previous ?_ ?_ ?_ ?_ previousInTree rfl ?_
      · omega
      · omega
      · rw [lowestHeight]
        rfl
      · exact parent
      · simp only [length_cons] at length ⊢
        omega

/-- Segments that the node serves are processed. -/
theorem processNewBlocks_of_serves (serves : rpc.Serves tree best) {blocks : List BlockInfo} :
    ∀ {db : SyncerDb} {parent : Bytes32} {height : Nat}, IsSegment tree parent height blocks →
    ∃ db', processNewBlocks blockHash rpc db blocks = .ok db' := by
  induction blocks with
  | nil => exact fun _ => ⟨_, rfl⟩
  | cons info rest ih =>
    intro db parent height segment
    obtain ⟨⟨block, inTree, _⟩, infoHeight, sameHeight, _, tail⟩ := segment
    have small := tree.bounded inTree
    rw [infoHeight, ← sameHeight] at small
    have saves : ∃ saved, saveBlock blockHash db block info.height = .ok saved :=
      saveBlock_of_lt small
    obtain ⟨saved, saving⟩ := saves
    unfold processNewBlocks
    rw [serves.getBlock]
    simp only [inTree, saving]
    exact ih tail

/-- Above a known parent the branch is the best chain. -/
theorem SyncerDb.Follows.eq_best (serves : rpc.Serves tree best)
    (follows : db.Follows tree start next chain) :
    ∀ distance, ∀ {n m : Nat}, n + distance = m → start ≤ n → m < next →
      best m = some (chain m) → best n = some (chain n) := by
  intro distance
  induction distance with
  | zero =>
    intro n m same above below onBest
    rwa [show n = m by omega]
  | succ distance ih =>
    intro n m same above below onBest
    have onBestAbove := ih (n := n + 1) (by omega) (by omega) below onBest
    obtain ⟨block, inTree, parent⟩ := follows.linked n above (by omega)
    rw [← parent]
    exact serves.linked onBestAbove inTree

/-! ## The synced chain is the chain of the node -/

/-- One canonical row for every height from `start` to `tip`, linked, with their blocks. -/
structure SyncerDb.Synced (db : SyncerDb) (tree : BlockTree blockHash) (start tip : Nat) :
    Prop where
  started : start ≤ tip
  one : ∀ n, start ≤ n → n ≤ tip → ∃! row, row ∈ db.rows ∧ row.isCanonical = true ∧ row.height = n
  range : ∀ row ∈ db.rows, row.isCanonical = true → start ≤ row.height ∧ row.height ≤ tip
  linked : ∀ row ∈ db.rows, ∀ row' ∈ db.rows, row.isCanonical = true → row'.isCanonical = true →
    row'.height = row.height + 1 → row'.prevBlockhash = row.blockhash
  stored : ∀ row ∈ db.rows, row.isCanonical = true →
    ∃ block, db.blocks.lookup row.height = some block ∧ tree.block row.blockhash = some block

theorem SyncerDb.Follows.synced (follows : db.Follows tree start (tip + 1) chain)
    (started : start ≤ tip) : db.Synced tree start tip := by
  constructor
  case started => exact started
  case one =>
    intro n above below
    obtain ⟨row, member, _, height, canonical⟩ := follows.row_at above (lt_succ_of_le below)
    refine ⟨row, ⟨member, canonical, height⟩, ?_⟩
    intro row' conditions
    obtain ⟨member', canonical', height'⟩ := conditions
    exact follows.unique_at member' member canonical' canonical (height'.trans height.symm)
  case range =>
    intro row member canonical
    obtain ⟨above, below, _⟩ := (follows.canonical row member).mp canonical
    exact ⟨above, le_of_lt_succ below⟩
  case linked =>
    intro row member row' member' canonical canonical' height
    obtain ⟨above, _, hash⟩ := (follows.canonical row member).mp canonical
    obtain ⟨_, below, hash'⟩ := (follows.canonical row' member').mp canonical'
    obtain ⟨block, inTree, parent⟩ := follows.linked row.height above (height ▸ below)
    obtain ⟨block', inTree', prev, _⟩ := follows.known row' member'
    rw [hash', height, inTree] at inTree'
    cases inTree'
    rw [prev, parent, hash]
  case stored =>
    intro row member canonical
    obtain ⟨above, below, hash⟩ := (follows.canonical row member).mp canonical
    rw [hash]
    exact follows.stored row.height above below

/-- The best chain shares a canonical row that is at most `finalityDepth - 1` below the tip. -/
def SyncerDb.ForkWithin (db : SyncerDb) (best : Nat → Option Bytes32)
    (start tip finalityDepth : Nat) : Prop :=
  ∃ row ∈ db.rows, row.isCanonical = true ∧ start ≤ row.height ∧
    tip ≤ row.height + (finalityDepth - 1) ∧ best row.height = some row.blockhash

namespace SyncerDb.Follows

variable {fault : Option String}

/-- A call with a longer best chain and a fork within the finality depth returns `true`. -/
theorem succeeds (follows : db.Follows tree start (task.currentHeight + 1) chain)
    (started : start ≤ task.currentHeight) (positive : 1 ≤ task.finalityDepth)
    (serves : rpc.Serves tree best) (longer : (best (task.currentHeight + 1)).isSome)
    (fork : db.ForkWithin best start task.currentHeight task.finalityDepth) :
    (task.runOnce blockHash rpc none db).result = .ok true := by
  obtain ⟨row, member, canonical, above, depth, onBest⟩ := fork
  obtain ⟨_, below, hash⟩ := (follows.canonical row member).mp canonical
  obtain ⟨tipHash, tipOnBest⟩ := isSome_iff_exists.mp longer
  obtain ⟨tipBlock, tipInTree⟩ := isSome_iff_exists.mp (serves.inTree tipOnBest).1
  have known : ∀ found, best row.height = some found → (db.getBlockInfoFromHash found).isSome := by
    intro found servedHash
    rw [onBest] at servedHash
    cases servedHash
    rw [hash]
    exact follows.getBlockInfoFromHash_isSome above below
  have walks : ∃ blocks, walkBack db rpc task.finalityDepth task.finalityDepth
      ⟨tipHash, tipBlock.header, task.currentHeight + 1⟩ [] = .ok blocks :=
    walkBack_of_fork serves known (show task.currentHeight + 1 ≤ _ by omega) task.currentHeight
      tipBlock (by omega) (by omega) rfl tipOnBest tipInTree rfl (Nat.add_comm _ _)
  obtain ⟨blocks, walked⟩ := walks
  have fetched : fetchNewBlocks db rpc task.currentHeight task.finalityDepth =
      .ok (some blocks) := by
    unfold fetchNewBlocks
    rw [u32Succ_of_lt (follows.tip_small started), serves.getBlockHash]
    simp only [tipOnBest, serves.getBlockHeader, tipInTree, map_some, walked]
    rfl
  obtain ⟨top, parent, height, found, _, _⟩ :=
    fetchNewBlocks_eq_ok serves.truthful (follows.tip_small started) positive fetched
  cases blocks with
  | nil => cases found.last
  | cons first rest =>
    obtain ⟨forkHeight, _, belowTip, rfl, rfl⟩ := follows.fork_of_found found
    have pred : u32Pred first.height = forkHeight := by
      rw [found.segment.2.2.1]
      exact u32Pred_succ forkHeight
    have small := follows.tip_small started
    have handles : ∃ cut, handleReorgEvents db forkHeight = .ok cut :=
      handleReorgEvents_of_lt (by omega)
    obtain ⟨cut, handled⟩ := handles
    have processes : ∃ db', processNewBlocks blockHash rpc cut (first :: rest) = .ok db' :=
      processNewBlocks_of_serves serves found.segment
    obtain ⟨db', processed⟩ := processes
    have synced : syncBlocks blockHash rpc db first rest = .ok db' := by
      unfold syncBlocks
      rw [pred]
      exact ExceptRun.bind_ok_iff.mpr ⟨cut, handled, processed⟩
    simp only [runOnce, fetched, synced]

/-- A call with a longer best chain does not return `false`. -/
theorem ne_false (follows : db.Follows tree start (task.currentHeight + 1) chain)
    (started : start ≤ task.currentHeight) (positive : 1 ≤ task.finalityDepth)
    (serves : rpc.Serves tree best) (longer : (best (task.currentHeight + 1)).isSome) :
    (task.runOnce blockHash rpc fault db).result ≠ .ok false := by
  intro unchanged
  rcases runOnce_eq_false blockHash task rpc fault db unchanged with
    fetched | fetched
  · unfold fetchNewBlocks at fetched
    rw [u32Succ_of_lt (follows.tip_small started), serves.getBlockHash] at fetched
    obtain ⟨hash, onBest⟩ := isSome_iff_exists.mp longer
    simp only [onBest] at fetched
    split at fetched
    · cases fetched
    · generalize walkBack db rpc task.finalityDepth task.finalityDepth _ _ = walked at fetched
      cases walked with
      | error error => cases fetched
      | ok blocks => cases fetched
  · obtain ⟨top, parent, height, found, _, _⟩ :=
      fetchNewBlocks_eq_ok serves.truthful (follows.tip_small started) positive fetched
    cases found.last

/-- After a call that returns `true` the canonical rows are the best chain, and the fork was
within the finality depth. -/
theorem best_of_advanced (follows : db.Follows tree start (task.currentHeight + 1) chain)
    (started : start ≤ task.currentHeight) (positive : 1 ≤ task.finalityDepth)
    (serves : rpc.Serves tree best)
    (advanced : (task.runOnce blockHash rpc fault db).result = .ok true) :
    (∀ row ∈ (task.runOnce blockHash rpc fault db).db.rows, row.isCanonical = true →
        best row.height = some row.blockhash) ∧
      db.ForkWithin best start task.currentHeight task.finalityDepth := by
  obtain ⟨_, fork, blocks, advances⟩ := follows.advance started positive serves.truthful advanced
  have top := advances.top
  rw [serves.getBlockHash] at top
  have above := advances.above
  have below := advances.below
  have onBest : ∀ n, start ≤ n → n < task.currentHeight + 2 →
      best n = some (extendedBy chain (fork + 1) blocks n) := fun n aboveStart belowTip =>
    advances.follows.eq_best serves (task.currentHeight + 1 - n) (by omega) aboveStart
      (by omega) top
  constructor
  · intro row member canonical
    obtain ⟨aboveStart, belowTip, hash⟩ := (advances.follows.canonical row member).mp canonical
    rw [onBest row.height aboveStart belowTip, ← hash]
  · obtain ⟨row, member, hash, height, canonical⟩ := follows.row_at above (by omega)
    have depth := advances.depth
    refine ⟨row, member, canonical, by omega, by omega, ?_⟩
    rw [height, hash, onBest fork above (by omega), extendedBy_of_lt (lt_succ_self fork)]

end SyncerDb.Follows

/-- After every run the canonical rows are one linked branch with its blocks.  If the best chain
of the node has no block above the tip, the next call changes nothing.  If it has one, the call
returns `true` exactly if the fork is within the finality depth, and then the canonical rows are
the best chain; otherwise it fails and changes nothing. -/
theorem synced_chain_is_best {steps : List SyncerStep} {db : SyncerDb} {task : BitcoinSyncerTask}
    (positive : 1 ≤ finalityDepth) (run : SyncerRun tree start finalityDepth steps db task) :
    db.Synced tree start task.currentHeight ∧
    ∀ {rpc : NodeRpc} {best : Nat → Option Bytes32}, rpc.Serves tree best →
      (best (task.currentHeight + 1) = none →
        task.runOnce blockHash rpc none db = ⟨task, db, .ok false⟩) ∧
      ((best (task.currentHeight + 1)).isSome →
        ((task.runOnce blockHash rpc none db).result = .ok true ↔
          db.ForkWithin best start task.currentHeight finalityDepth) ∧
        ((task.runOnce blockHash rpc none db).result = .ok true →
          (task.runOnce blockHash rpc none db).task.currentHeight = task.currentHeight + 1 ∧
          (task.runOnce blockHash rpc none db).db.Synced tree start (task.currentHeight + 1) ∧
          ∀ row ∈ (task.runOnce blockHash rpc none db).db.rows, row.isCanonical = true →
            best row.height = some row.blockhash) ∧
        (¬db.ForkWithin best start task.currentHeight finalityDepth →
          ∃ error, task.runOnce blockHash rpc none db = ⟨task, db, .error error⟩)) := by
  obtain ⟨depth, started, chain, follows⟩ := run.follows positive
  subst depth
  refine ⟨follows.synced started, ?_⟩
  intro rpc best serves
  constructor
  · intro noLonger
    have fetched : fetchNewBlocks db rpc task.currentHeight task.finalityDepth = .ok none := by
      unfold fetchNewBlocks
      rw [u32Succ_of_lt (follows.tip_small started), serves.getBlockHash]
      simp only [noLonger]
    simp only [runOnce, fetched]
  · intro longer
    have iff : (task.runOnce blockHash rpc none db).result = .ok true ↔
        db.ForkWithin best start task.currentHeight task.finalityDepth :=
      ⟨fun advanced => (follows.best_of_advanced started positive serves advanced).2,
        follows.succeeds started positive serves longer⟩
    refine ⟨iff, ?_, ?_⟩
    · intro advanced
      obtain ⟨task', fork, blocks, advances⟩ :=
        follows.advance started positive serves.truthful advanced
      refine ⟨by rw [task'], advances.follows.synced (by omega), ?_⟩
      exact (follows.best_of_advanced started positive serves advanced).1
    · intro tooDeep
      have notTrue := mt iff.mp tooDeep
      obtain ⟨sameTask, sameDb, _⟩ | ⟨_, _, _, _, _, called⟩ :=
        runOnce_cases blockHash task rpc none db
      · rcases result : (task.runOnce blockHash rpc none db).result with error | value
        · have whole : task.runOnce blockHash rpc none db =
              ⟨(task.runOnce blockHash rpc none db).task, (task.runOnce blockHash rpc none db).db,
                (task.runOnce blockHash rpc none db).result⟩ := rfl
          rw [sameTask, sameDb, result] at whole
          exact ⟨error, whole⟩
        · cases value with
          | true => exact absurd result notTrue
          | false => exact absurd result (follows.ne_false started positive serves longer)
      · exact absurd (by rw [called]) notTrue

end Runs

/-! ## Three branches of a regtest node -/

namespace Regtest.Syncer

open ByteNumeral

/-- A block whose only transaction is its coinbase. -/
def blockOver (height extra : UInt8) (prevBlockHash merkleRoot : Bytes32) (time nonce : UInt32) :
    Block where
  header := ⟨0x20000000, prevBlockHash, merkleRoot, time, 0x207fffff, nonce⟩
  txdata := [{
    version := 2
    lockTime := 0
    input := [⟨⟨Vector.replicate 32 0, 0xffffffff⟩, [1, height, 1, extra], 0xffffffff, []⟩]
    output := [⟨5000000000, [0x51]⟩] }]

def aHash : Bytes32 :=
  beBytes 32 0x2bd7ce61d8711e0d5c7cc6478a051cc5d877c66860ad1847ec430ef5a0fb4132

def aBlock : Block :=
  blockOver 0 0 (Vector.replicate 32 0)
    (beBytes 32 0x558dc8862e2f354cad63e4c4c3f36bfcdba2e9d93a3f7d8d9c97b08e149f2273)
    1700000600 0

def bHash : Bytes32 :=
  beBytes 32 0x77c8e225399b5c205669bd78d7708f8305e8903b76b43d424efe6ba197988943

def bBlock : Block :=
  blockOver 1 1 aHash
    (beBytes 32 0x8c004ebfe0a1f65d2b7805bfb6afe57a8aa7e7bb1875b26d5ed2afa4bd47c673)
    1700001200 0

def b1Hash : Bytes32 :=
  beBytes 32 0x48d5c0a21c7bf84e85121a91cba8e98c56427bffd3c9ea4d9a1d9eca2a6e9948

def b1Block : Block :=
  blockOver 1 2 aHash
    (beBytes 32 0x8eaa443dc739e2444d0cecbf87fe4e626c3375bf27ab40f2ed57175e3f6c4879)
    1700001300 1

def c1Hash : Bytes32 :=
  beBytes 32 0xfe91e43b79c7d84963fa42c664800724f247c5a2da64c9d1cea00d5a0394130b

def c1Block : Block :=
  blockOver 2 2 b1Hash
    (beBytes 32 0x9d289df56b7903c1c535cc73985f37d2ad04fcd0576d54c36c12ac0cad0f4d1d)
    1700001900 1

def b2Hash : Bytes32 :=
  beBytes 32 0xc1306a481114b836daa4758f29ed2d618239dc4bdc3c49f6d53a1a0538d13473

def b2Block : Block :=
  blockOver 1 3 aHash
    (beBytes 32 0x8da8dbdfff3ba8eca91e3e08cf8b07b5b27d95d644ffd5a281d8dce733a256f3)
    1700001400 0

def c2Hash : Bytes32 :=
  beBytes 32 0x9f4b08e70b332f11f425d206dc33fdcf5d86a6e0977ad33cecd51b8122775301

def c2Block : Block :=
  blockOver 2 3 b2Hash
    (beBytes 32 0x9c7b93260587981b9ccd5181b6e98f410262a7320dc5e0c4722501233e730538)
    1700002000 0

def d2Hash : Bytes32 :=
  beBytes 32 0xbf538b5be6b4d38f63146f1036821e649b83a0c993c41e2bc67f6c38b76f2905

def d2Block : Block :=
  blockOver 3 3 c2Hash
    (beBytes 32 0xfd1870084ccdccbbcb60480bdfc3589eae684a061339e7d4b4178e0d80de3914)
    1700002600 1

/-- The blocks with their hashes and heights: `a`, over it the branches `b`, `b1 c1` and
`b2 c2 d2`. -/
def entries : List (Bytes32 × Block × Nat) :=
  [(aHash, aBlock, 0), (bHash, bBlock, 1), (b1Hash, b1Block, 1), (c1Hash, c1Block, 2),
    (b2Hash, b2Block, 1), (c2Hash, c2Block, 2), (d2Hash, d2Block, 3)]

/-- The hashes of these headers. -/
def headerHash (header : CircuitBlockHeader) : Bytes32 :=
  ((entries.find? fun entry => entry.2.1.header = header).map Prod.fst).getD (Vector.replicate 32 0)

def blockAt (hash : Bytes32) : Option Block :=
  (entries.find? fun entry => entry.1 = hash).map fun entry => entry.2.1

def heightOf (hash : Bytes32) : Nat :=
  ((entries.find? fun entry => entry.1 = hash).map fun entry => entry.2.2).getD 0

theorem mem_entries {hash : Bytes32} {found : Block} (inTree : blockAt hash = some found) :
    (hash, found, heightOf hash) ∈ entries := by
  obtain ⟨⟨other, block, height⟩, isEntry, rfl⟩ := Option.map_eq_some_iff.mp inTree
  have same := find?_some isEntry
  obtain rfl : other = hash := of_decide_eq_true same
  rw [heightOf, isEntry]
  exact mem_of_find?_eq_some isEntry

def blockTree : BlockTree headerHash where
  block := blockAt
  height := heightOf
  hashed := by
    intro hash found inTree
    have all : ∀ entry ∈ entries, headerHash entry.2.1.header = entry.1 := by decide +kernel
    exact all _ (mem_entries inTree)
  parent := by
    intro hash found previous inTree previousInTree
    have all : ∀ entry ∈ entries, ∀ before ∈ entries,
        before.1 = entry.2.1.header.prevBlockHash → entry.2.2 = before.2.2 + 1 := by
      decide +kernel
    exact all _ (mem_entries inTree) _ (mem_entries previousInTree) rfl
  bounded := by
    intro hash found inTree
    have all : ∀ entry ∈ entries, entry.2.2 < 2 ^ 31 := by decide +kernel
    exact all _ (mem_entries inTree)

/-- A best chain, from the first block on. -/
def bestChain (hashes : List Bytes32) (height : Nat) : Option Bytes32 := hashes[height]?

/-- A node with this best chain. -/
def node (hashes : List Bytes32) : NodeRpc where
  getBlockCount := some (hashes.length - 1)
  getBlockHash := bestChain hashes
  getBlockHeader hash := (blockTree.block hash).map Block.header
  getBlock := blockTree.block

/-- The blocks of a chain of the tree: each is in the tree at its height, over the one before. -/
def IsChain (hashes : List Bytes32) : Prop :=
  ∀ index < hashes.length, ∀ hash ∈ hashes[index]?, ∃ entry ∈ entries,
    blockTree.block hash = some entry.2.1 ∧ blockTree.height hash = index ∧
    (0 < index → hashes[index - 1]? = some entry.2.1.header.prevBlockHash)

instance (hashes : List Bytes32) : Decidable (IsChain hashes) := by
  unfold IsChain
  infer_instance

theorem node_serves {hashes : List Bytes32} (isChain : IsChain hashes) :
    (node hashes).Serves blockTree (bestChain hashes) := by
  have at_height : ∀ {height hash}, bestChain hashes height = some hash →
      ∃ entry ∈ entries, blockTree.block hash = some entry.2.1 ∧ blockTree.height hash = height ∧
        (0 < height → hashes[height - 1]? = some entry.2.1.header.prevBlockHash) := by
    intro height hash onBest
    exact isChain height (List.getElem?_eq_some_iff.mp onBest).1 hash onBest
  constructor
  case getBlockHash => rfl
  case getBlockHeader => exact fun hash => rfl
  case getBlock => rfl
  case inTree =>
    intro height hash onBest
    obtain ⟨entry, _, inTree, atHeight, _⟩ := at_height onBest
    exact ⟨by rw [inTree]; rfl, atHeight⟩
  case linked =>
    intro height hash block onBest inTree
    obtain ⟨entry, _, inTree', _, previous⟩ := at_height onBest
    rw [inTree] at inTree'
    cases inTree'
    exact previous (succ_pos height)

/-- The tables and the task after a call on a node. -/
def callOn (state : SyncerDb × BitcoinSyncerTask) (hashes : List Bytes32) :
    SyncerDb × BitcoinSyncerTask :=
  let called := state.2.runOnce headerHash (node hashes) none state.1
  (called.db, called.task)

/-- The tables and the task after a start on the first node and calls on the later ones. -/
def execute (finalityDepth : Nat) (first : List Bytes32) (later : List (List Bytes32)) :
    Except SyncerError (SyncerDb × BitcoinSyncerTask) := do
  let created ← new headerHash (node first) 0 finalityDepth SyncerDb.empty
  return later.foldl callOn created

theorem callOn_run {finalityDepth : Nat} {later : List (List Bytes32)}
    (chains : ∀ hashes ∈ later, IsChain hashes) :
    ∀ {steps : List SyncerStep} {state : SyncerDb × BitcoinSyncerTask},
      SyncerRun blockTree 0 finalityDepth steps state.1 state.2 →
      ∃ steps', SyncerRun blockTree 0 finalityDepth steps' (later.foldl callOn state).1
        (later.foldl callOn state).2 := by
  induction later with
  | nil => exact fun run => ⟨_, run⟩
  | cons hashes rest ih =>
    intro steps state run
    exact ih (fun other member => chains other (mem_cons_of_mem _ member))
      (run.called (node_serves (chains hashes mem_cons_self)).truthful)

/-- What an execution on chains of the tree evaluates to is the value of a run. -/
theorem execute_run {α : Type} (finalityDepth : Nat) (first : List Bytes32)
    (later : List (List Bytes32)) (read : SyncerDb × BitcoinSyncerTask → α) {value : α}
    (chains : ∀ hashes ∈ first :: later, IsChain hashes)
    (evaluated : (execute finalityDepth first later).toOption.map read = some value) :
    ∃ steps db task, SyncerRun blockTree 0 finalityDepth steps db task ∧
      read (db, task) = value := by
  cases executed : execute finalityDepth first later with
  | error =>
    rw [executed] at evaluated
    cases evaluated
  | ok state =>
    rw [executed] at evaluated
    obtain ⟨⟨db, task⟩, created, folded⟩ := ExceptRun.bind_ok_iff.mp executed
    obtain rfl := Except.ok.inj folded
    have createdEmpty : new headerHash (node first) 0 finalityDepth
        { SyncerDb.empty with handlers := ∅ } = .ok (db, task) := created
    have started : SyncerRun blockTree 0 finalityDepth [] (db, task).1 (db, task).2 :=
      .started (node_serves (chains first mem_cons_self)).truthful createdEmpty
    obtain ⟨steps, run⟩ :=
      callOn_run (fun hashes member => chains hashes (mem_cons_of_mem _ member)) started
    exact ⟨steps, _, _, run, Option.some.inj evaluated⟩

/-- `a` and `b` are stored; the node changes to `a` and `b1`, which is not longer.  The call
succeeds and keeps `b`. -/
theorem fork_of_equal_height_is_not_followed :
    ∃ steps db task, SyncerRun blockTree 0 3 steps db task ∧
      (node [aHash, b1Hash]).Serves blockTree (bestChain [aHash, b1Hash]) ∧
      db.ForkWithin (bestChain [aHash, b1Hash]) 0 task.currentHeight 3 ∧
      (task.runOnce headerHash (node [aHash, b1Hash]) none db).result = .ok false ∧
      ∃ row ∈ (task.runOnce headerHash (node [aHash, b1Hash]) none db).db.rows,
        row.isCanonical = true ∧ row.height = 1 ∧
        bestChain [aHash, b1Hash] 1 ≠ some row.blockhash := by
  have isChain : IsChain [aHash, b1Hash] := by decide +kernel
  have different : bHash ≠ b1Hash := by decide +kernel
  obtain ⟨steps, db, task, run, evaluated⟩ :=
    execute_run 3 [aHash, bHash] [[aHash, bHash]] (fun state => (state.1.rows, state.2))
      (by decide +kernel) (by decide +kernel : _ = some
        ([⟨1, aHash, Vector.replicate 32 0, 0, true⟩, ⟨2, bHash, aHash, 1, true⟩], ⟨1, 3⟩))
  obtain ⟨rows, rfl⟩ := Prod.mk.inj evaluated
  simp only at rows
  refine ⟨steps, db, ⟨1, 3⟩, run, node_serves isChain, ?_, rfl, ?_⟩
  · exact ⟨⟨1, aHash, Vector.replicate 32 0, 0, true⟩, by rw [rows]; exact mem_cons_self,
      rfl, Nat.le_refl 0, by decide, rfl⟩
  · refine ⟨⟨2, bHash, aHash, 1, true⟩, ?_, rfl, rfl, ?_⟩
    · change _ ∈ db.rows
      rw [rows]
      exact mem_cons_of_mem _ mem_cons_self
    · exact fun same => different (Option.some.inj same).symm

/-- The run that stores `a` and `b` is synced. -/
theorem synced_chain_is_best_two : ∃ (db : SyncerDb) (task : BitcoinSyncerTask),
    task.currentHeight = 1 ∧
    db.Synced blockTree 0 task.currentHeight := by
  obtain ⟨steps, db, task, run, state⟩ := execute_run 3 [aHash, bHash] [[aHash, bHash]] Prod.snd
    (by decide +kernel) (by decide +kernel : _ = some ⟨1, 3⟩)
  obtain rfl : task = ⟨1, 3⟩ := state
  exact ⟨db, ⟨1, 3⟩, rfl, (synced_chain_is_best (by decide) run).1⟩

end Regtest.Syncer

end Clementine
