import Clementine.Core.States.Matcher

/-!
# The Bitcoin syncer

The syncer copies the blocks of a Bitcoin node into the database, one height above its tip in
each call, together with the blocks below it that the database does not know as canonical.
Rows of blocks are never deleted; a flag says which of them are canonical.  Every change of the
flag is announced by an event, and the consumers of finalized blocks read these events one after
another and hand over the stored blocks that are deep enough.

A call is one database transaction: if it fails, the tables are as before.  The answers of the
node, the failures of the database and the results of the handlers are parameters of each call.
Heights are natural numbers; they are stored as `i32` and computed as `u32`.
-/

namespace Clementine

/-- `BitcoinSyncerEvent`. -/
inductive BitcoinSyncerEvent where
  | newBlock (blockId : Nat)
  | reorgedBlock (blockId : Nat)
  deriving DecidableEq

/-- A row of `bitcoin_syncer`. -/
structure SyncerRow where
  id : Nat
  blockhash : Bytes32
  prevBlockhash : Bytes32
  height : Nat
  isCanonical : Bool
  deriving DecidableEq

/-- The tables of the syncer: `bitcoin_syncer`, `bitcoin_blocks`, `bitcoin_syncer_events` with
the ids 1, 2 and so on, and `bitcoin_syncer_event_handlers`. -/
structure SyncerDb where
  rows : List SyncerRow
  blocks : AList fun _ : Nat => Block
  events : List BitcoinSyncerEvent
  handlers : AList fun _ : String => Nat

/-- The errors of the syncer and of the fetchers. -/
inductive SyncerError where
  /-- Failed to get block count. -/
  | getBlockCount
  /-- Failed to get block hash. -/
  | getBlockHash (height : Nat)
  /-- Failed to get block header. -/
  | getBlockHeader (hash : Bytes32)
  /-- Failed to get block. -/
  | getBlock (hash : Bytes32)
  /-- Number of reorged blocks is greater than finality depth. -/
  | tooDeep (reorgedBlocks finalityDepth : Nat)
  | intConversionError
  /-- Block not found in BitcoinSyncer::new. -/
  | noBlockInNew
  /-- Block not found in BlockFetcherTask. -/
  | blockNotFound
  /-- Block at the height not found in BlockFetcherTask. -/
  | blockAtHeightNotFound (height tipHeight : Nat)
  | handler (text : String)
  | database (text : String)
  deriving DecidableEq

/-- What the node answers during one call; `none` is an error. -/
structure NodeRpc where
  getBlockCount : Option Nat
  getBlockHash : Nat → Option Bytes32
  getBlockHeader : Bytes32 → Option CircuitBlockHeader
  getBlock : Bytes32 → Option Block

/-- `BlockInfo`. -/
structure BlockInfo where
  hash : Bytes32
  header : CircuitBlockHeader
  height : Nat
  deriving DecidableEq

namespace Syncer

/-- The next `u32`. -/
def u32Succ (value : Nat) : Nat := (value + 1) % 2 ^ 32

/-- The previous `u32`. -/
def u32Pred : Nat → Nat
  | 0 => 2 ^ 32 - 1
  | value + 1 => value

/-- `i32::try_from` of a `u32`. -/
def i32TryFrom (value : Nat) : Except SyncerError Nat :=
  if value < 2 ^ 31 then .ok value else .error .intConversionError

end Syncer

open Syncer

/-! ## Database functions -/

namespace SyncerDb

variable (self : SyncerDb)

/-- `Database::get_block_info_from_hash`. -/
def getBlockInfoFromHash (blockHash : Bytes32) : Option (Bytes32 × Nat) :=
  (self.rows.find? fun row => row.blockhash = blockHash && row.isCanonical).map fun row =>
    (row.prevBlockhash, row.height)

/-- `Database::get_block_info_from_id`. -/
def getBlockInfoFromId (blockId : Nat) : Option (Bytes32 × Nat) :=
  (self.rows.find? fun row => row.id = blockId).map fun row => (row.blockhash, row.height)

/-- `Database::get_max_height`. -/
def getMaxHeight : Option Nat :=
  ((self.rows.filter (·.isCanonical)).map SyncerRow.height).max?

/-- `Database::get_canonical_block_id_from_height`. -/
def getCanonicalBlockIdFromHeight (height : Nat) : Except SyncerError (Option Nat) := do
  let height ← i32TryFrom height
  return (self.rows.find? fun row => row.height = height && row.isCanonical).map SyncerRow.id

/-- `Database::get_full_block`. -/
def getFullBlock (height : Nat) : Except SyncerError (Option Block) := do
  let height ← i32TryFrom height
  return self.blocks.lookup height

/-- `Database::update_block_as_canonical`. -/
def updateBlockAsCanonical (blockHash : Bytes32) : SyncerDb × Option Nat :=
  ({ self with
    rows := self.rows.map fun row =>
      if row.blockhash = blockHash then { row with isCanonical := true } else row },
    (self.rows.find? fun row => row.blockhash = blockHash).map SyncerRow.id)

/-- `Database::upsert_full_block`. -/
def upsertFullBlock (block : Block) (blockHeight : Nat) : Except SyncerError SyncerDb := do
  let blockHeight ← i32TryFrom blockHeight
  return { self with blocks := self.blocks.insert blockHeight block }

/-- `Database::insert_block_info`. -/
def insertBlockInfo (blockHash prevBlockHash : Bytes32) (blockHeight : Nat) :
    Except SyncerError (SyncerDb × Nat) := do
  let blockHeight ← i32TryFrom blockHeight
  return ({ self with
    rows := self.rows ++ [⟨self.rows.length + 1, blockHash, prevBlockHash, blockHeight, true⟩] },
    self.rows.length + 1)

/-- `Database::update_non_canonical_block_hashes`: the ids of the rows, newest first. -/
def updateNonCanonicalBlockHashes (height : Nat) : Except SyncerError (SyncerDb × List Nat) := do
  let height ← i32TryFrom height
  return ({ self with
    rows := self.rows.map fun row =>
      if height < row.height then { row with isCanonical := false } else row },
    ((self.rows.filter fun row => height < row.height).map SyncerRow.id).reverse)

/-- `Database::insert_event`. -/
def insertEvent (event : BitcoinSyncerEvent) : SyncerDb :=
  { self with events := self.events ++ [event] }

/-- The id of the block of an event. -/
def eventBlockId : BitcoinSyncerEvent → Nat
  | .newBlock blockId => blockId
  | .reorgedBlock blockId => blockId

/-- The height of the block of an event. -/
def eventHeight (event : BitcoinSyncerEvent) : Option Nat :=
  (self.rows.find? fun row => row.id = eventBlockId event).map SyncerRow.height

/-- `Database::get_max_processed_block_height`: of the events up to the last processed one. -/
def getMaxProcessedBlockHeight (consumerHandle : String) : Option Nat :=
  match self.handlers.lookup consumerHandle with
  | none => none
  | some lastProcessed =>
    ((self.events.take lastProcessed).filterMap self.eventHeight).max?

/-- `Database::get_next_finalized_block_height_for_consumer`. -/
def getNextFinalizedBlockHeightForConsumer (consumerHandle : String)
    (startHeight finalityDepth : Nat) : Nat :=
  let nextHeight :=
    match self.getMaxProcessedBlockHeight consumerHandle with
    | none => startHeight
    | some maxProcessed =>
      if finalityDepth - 1 ≤ maxProcessed then maxProcessed - (finalityDepth - 1) + 1
      else startHeight
  max nextHeight startHeight

/-- The table of the consumers with the last processed event of one of them. -/
def withLastProcessed (consumerHandle : String) (eventId : Nat) : SyncerDb :=
  { self with handlers := self.handlers.insert consumerHandle eventId }

/-- `Database::get_last_processed_event_id`, which inserts a missing row with 0. -/
def getLastProcessedEventId (consumerHandle : String) : Nat :=
  (self.handlers.lookup consumerHandle).getD 0

/-- `Database::fetch_next_bitcoin_syncer_evt`: the event, which is marked as processed. -/
def fetchNextBitcoinSyncerEvt (consumerHandle : String) :
    SyncerDb × Option BitcoinSyncerEvent :=
  let lastProcessed := self.getLastProcessedEventId consumerHandle
  match self.events[lastProcessed]? with
  | none => (self.withLastProcessed consumerHandle lastProcessed, none)
  | some event => (self.withLastProcessed consumerHandle (lastProcessed + 1), some event)

end SyncerDb

/-! ## The syncer -/

section Syncer

variable (blockHash : CircuitBlockHeader → Bytes32)

/-- `save_block`: the database and the id of the block. -/
def saveBlock (db : SyncerDb) (block : Block) (blockHeight : Nat) :
    Except SyncerError (SyncerDb × Nat) := do
  let updated := db.updateBlockAsCanonical (blockHash block.header)
  let db ← updated.1.upsertFullBlock block blockHeight
  match updated.2 with
  | some blockId => return (db, blockId)
  | none => db.insertBlockInfo (blockHash block.header) block.header.prevBlockHash blockHeight

/-- The loop of `fetch_new_blocks`, from the lowest block so far; the blocks above it follow in
ascending order. -/
def walkBack (db : SyncerDb) (rpc : NodeRpc) (finalityDepth : Nat) :
    Nat → BlockInfo → List BlockInfo → Except SyncerError (List BlockInfo)
  | fuel, lowest, above =>
    match db.getBlockInfoFromHash lowest.header.prevBlockHash with
    | some _ => .ok (lowest :: above)
    | none =>
      match rpc.getBlockHeader lowest.header.prevBlockHash with
      | none => .error (.getBlockHeader lowest.header.prevBlockHash)
      | some header =>
        if finalityDepth < (lowest :: above).length + 1 then
          .error (.tooDeep (lowest :: above).length finalityDepth)
        else match fuel with
          | 0 => .error (.tooDeep (lowest :: above).length finalityDepth)
          | fuel + 1 =>
            walkBack db rpc finalityDepth fuel
              ⟨lowest.header.prevBlockHash, header, u32Pred lowest.height⟩
              (lowest :: above)

/-- `fetch_new_blocks`; the loop ends within `finality_depth` passes. -/
def fetchNewBlocks (db : SyncerDb) (rpc : NodeRpc) (currentHeight finalityDepth : Nat) :
    Except SyncerError (Option (List BlockInfo)) :=
  let nextHeight := u32Succ currentHeight
  match rpc.getBlockHash nextHeight with
  | none => .ok none
  | some hash =>
    match rpc.getBlockHeader hash with
    | none => .error (.getBlockHeader hash)
    | some header =>
      (walkBack db rpc finalityDepth finalityDepth ⟨hash, header, nextHeight⟩ []).map some

/-- `handle_reorg_events`. -/
def handleReorgEvents (db : SyncerDb) (commonAncestorHeight : Nat) :
    Except SyncerError SyncerDb := do
  let updated ← db.updateNonCanonicalBlockHashes commonAncestorHeight
  return { updated.1 with events := updated.1.events ++ updated.2.map .reorgedBlock }

/-- `process_new_blocks`. -/
def processNewBlocks (rpc : NodeRpc) : SyncerDb → List BlockInfo → Except SyncerError SyncerDb
  | db, [] => .ok db
  | db, blockInfo :: rest =>
    match rpc.getBlock blockInfo.hash with
    | none => .error (.getBlock blockInfo.hash)
    | some block =>
      match saveBlock blockHash db block blockInfo.height with
      | .error error => .error error
      | .ok saved => processNewBlocks rpc (saved.1.insertEvent (.newBlock saved.2)) rest

/-- `BitcoinSyncerTask`. -/
structure BitcoinSyncerTask where
  currentHeight : Nat
  finalityDepth : Nat
  deriving DecidableEq

/-- The task and the tables after a call, and the result of the call. -/
structure SyncerCall where
  task : BitcoinSyncerTask
  db : SyncerDb
  result : Except SyncerError Bool

/-- The transaction of `BitcoinSyncerTask::run_once`, for blocks in ascending order. -/
def syncBlocks (rpc : NodeRpc) (db : SyncerDb) (first : BlockInfo) (rest : List BlockInfo) :
    Except SyncerError SyncerDb := do
  let db ← handleReorgEvents db (u32Pred first.height)
  processNewBlocks blockHash rpc db (first :: rest)

/-- `BitcoinSyncerTask::run_once`, with the failure of the database if there is one. -/
def BitcoinSyncerTask.runOnce (self : BitcoinSyncerTask) (rpc : NodeRpc) (fault : Option String)
    (db : SyncerDb) : SyncerCall :=
  match fetchNewBlocks db rpc self.currentHeight self.finalityDepth with
  | .error error => ⟨self, db, .error error⟩
  | .ok none => ⟨self, db, .ok false⟩
  | .ok (some []) => ⟨self, db, .ok false⟩
  | .ok (some (first :: rest)) =>
    match syncBlocks blockHash rpc db first rest, fault with
    | .error error, _ => ⟨self, db, .error error⟩
    | .ok _, some text => ⟨self, db, .error (.database text)⟩
    | .ok db, none =>
      ⟨{ self with currentHeight := (rest.getLastD first).height }, db, .ok true⟩

/-- `fetch_block_info_from_height`. -/
def fetchBlockInfoFromHeight (rpc : NodeRpc) (height : Nat) : Except SyncerError BlockInfo :=
  match rpc.getBlockHash height with
  | none => .error (.getBlockHash height)
  | some hash =>
    match rpc.getBlockHeader hash with
    | none => .error (.getBlockHeader hash)
    | some header => .ok ⟨hash, header, height⟩

/-- `set_initial_block_info_if_not_exists`. -/
def setInitialBlockInfoIfNotExists (rpc : NodeRpc) (startHeight : Nat) (db : SyncerDb) :
    Except SyncerError SyncerDb :=
  if db.getMaxHeight.isSome then .ok db
  else match rpc.getBlockCount with
    | none => .error .getBlockCount
    | some currentHeight =>
      if currentHeight < startHeight then .ok db
      else do
        let blockInfo ← fetchBlockInfoFromHeight rpc startHeight
        match rpc.getBlock blockInfo.hash with
        | none => .error (.getBlock blockInfo.hash)
        | some block => do
            let saved ← saveBlock blockHash db block startHeight
            return saved.1.insertEvent (.newBlock saved.2)

/-- `BitcoinSyncer::new`: the tables and the task. -/
def BitcoinSyncer.new (rpc : NodeRpc) (startHeight finalityDepth : Nat) (db : SyncerDb) :
    Except SyncerError (SyncerDb × BitcoinSyncerTask) := do
  let db ← setInitialBlockInfoIfNotExists blockHash rpc startHeight db
  match db.getMaxHeight with
  | none => .error .noBlockInNew
  | some currentHeight => return (db, ⟨currentHeight, finalityDepth⟩)

end Syncer

/-! ## Consumers of finalized blocks -/

/-- `ProtocolParamset::is_block_finalized`. -/
def isBlockFinalized (finalityDepth blockHeight chainTipHeight : Nat) : Bool :=
  if chainTipHeight < blockHeight then false
  else finalityDepth ≤ chainTipHeight - blockHeight + 1

/-- A call of `handle_new_block`. -/
structure Delivery where
  blockId : Nat
  block : Block
  height : Nat

/-- The loop of `FinalizedBlockFetcherTask::run_once`: the blocks that are handed over, and the
next height. -/
def deliverFinalized (db : SyncerDb) (finalityDepth : Nat)
    (handleNewBlock : Delivery → Option String) (newBlockHeight : Nat) :
    Nat → Nat → Except SyncerError (List Delivery × Nat)
  | 0, expected => .ok ([], expected)
  | fuel + 1, expected =>
    if isBlockFinalized finalityDepth expected newBlockHeight = false then .ok ([], expected)
    else do
      let block ← db.getFullBlock expected
      match block with
      | none => .error (.blockAtHeightNotFound expected newBlockHeight)
      | some block =>
        let blockId ← db.getCanonicalBlockIdFromHeight expected
        match blockId with
        | none => .error (.blockAtHeightNotFound expected newBlockHeight)
        | some blockId =>
          match handleNewBlock ⟨blockId, block, expected⟩ with
          | some text => .error (.handler text)
          | none => do
              let rest ← deliverFinalized db finalityDepth handleNewBlock newBlockHeight
                fuel (expected + 1)
              return (⟨blockId, block, expected⟩ :: rest.1, rest.2)

/-- `FinalizedBlockFetcherTask`. -/
structure FinalizedBlockFetcherTask where
  consumerHandle : String
  finalityDepth : Nat
  nextFinalizedHeight : Nat
  deriving DecidableEq

/-- The task and the tables after a call, the blocks that were handed over in a committed
transaction, and the result. -/
structure FetcherCall where
  task : FinalizedBlockFetcherTask
  db : SyncerDb
  delivered : List Delivery
  result : Except SyncerError Bool

namespace FinalizedBlockFetcherTask

variable (self : FinalizedBlockFetcherTask)

/-- The part of `run_once` for an event: the blocks and the next height. -/
def processEvent (db : SyncerDb) (handleNewBlock : Delivery → Option String) :
    BitcoinSyncerEvent → Except SyncerError (List Delivery × Nat)
  | .reorgedBlock _ => .ok ([], self.nextFinalizedHeight)
  | .newBlock blockId =>
    match db.getBlockInfoFromId blockId with
    | none => .error .blockNotFound
    | some info =>
      -- every pass raises the height, and none begins above that of the event
      deliverFinalized db self.finalityDepth handleNewBlock info.2 (info.2 + 1)
        self.nextFinalizedHeight

/-- `FinalizedBlockFetcherTask::run_once`. -/
def runOnce (handleNewBlock : Delivery → Option String) (fault : Option String) (db : SyncerDb) :
    FetcherCall :=
  match db.fetchNextBitcoinSyncerEvt self.consumerHandle, fault with
  | (_, _), some text => ⟨self, db, [], .error (.database text)⟩
  | (fetched, none), none => ⟨self, fetched, [], .ok false⟩
  | (fetched, some event), none =>
    match self.processEvent fetched handleNewBlock event with
    | .error error => ⟨self, db, [], .error error⟩
    | .ok (delivered, expected) =>
      ⟨{ self with nextFinalizedHeight := expected }, fetched, delivered, .ok true⟩

end FinalizedBlockFetcherTask

end Clementine
