import Clementine.Core.BitcoinSyncer.Sync

/-!
# Consumers of finalized blocks

A consumer trusts the height of an event whose block may have left the canonical chain since, and
hands over the blocks that are stored now.  A reorg never reaches the heights that are final for
the tip, and no event is higher than the tip, so the handed over blocks stay canonical.  The next
height of a consumer is a function of the events it has processed, which is what a new start of
the consumer computes.
-/

namespace Clementine

open Syncer SyncerDb BitcoinSyncer FinalizedBlockFetcherTask List Bool Option

variable {blockHash : CircuitBlockHeader → Bytes32}

/-! ## What the syncer keeps -/

/-- Rows keep their id, hash and height, the log grows, and the table of the consumers stays. -/
structure SyncerDb.Extends (db db' : SyncerDb) : Prop where
  rows : ∀ row ∈ db.rows, ∃ row' ∈ db'.rows,
    row'.id = row.id ∧ row'.blockhash = row.blockhash ∧ row'.height = row.height
  events : db.events <+: db'.events
  handlers : db'.handlers = db.handlers

variable {height : Nat} {block : Block} {saved : SyncerDb × Nat} {db db' : SyncerDb}

namespace SyncerDb.Extends

variable {db db' db'' : SyncerDb}

theorem refl (db : SyncerDb) : db.Extends db :=
  ⟨fun row member => ⟨row, member, rfl, rfl, rfl⟩, prefix_rfl, rfl⟩

theorem trans (first : db.Extends db') (second : db'.Extends db'') : db.Extends db'' := by
  constructor
  case rows =>
    intro row member
    obtain ⟨row', member', id', hash', height'⟩ := first.rows row member
    obtain ⟨row'', member'', id'', hash'', height''⟩ := second.rows row' member'
    exact ⟨row'', member'', id''.trans id', hash''.trans hash', height''.trans height'⟩
  case events => exact first.events.trans second.events
  case handlers => exact second.handlers.trans first.handlers

theorem of_reorg (handled : handleReorgEvents db height = .ok db') : db.Extends db' := by
  rw [handleReorgEvents_eq_ok handled]
  constructor
  case rows =>
    exact fun row member =>
      ⟨_, mem_rows_withFlags.mpr ⟨row, member, rfl⟩, rfl, rfl, rfl⟩
  case events => exact prefix_append _ _
  case handlers => rfl

theorem of_save (saves : saveBlock blockHash db block height = .ok saved)
    (event : BitcoinSyncerEvent) :
    db.Extends (saved.1.insertEvent event) := by
  obtain ⟨db', blockId⟩ := saved
  obtain ⟨_, _, _, _, rfl⟩ | ⟨_, _, rfl⟩ := saveBlock_eq_ok saves
  · constructor
    case rows =>
      exact fun row member =>
        ⟨_, mem_rows_withFlags.mpr ⟨row, member, rfl⟩, rfl, rfl, rfl⟩
    case events => exact prefix_append _ _
    case handlers => rfl
  · constructor
    case rows => exact fun row member => ⟨row, mem_append_left _ member, rfl, rfl, rfl⟩
    case events => exact prefix_append _ _
    case handlers => rfl

end SyncerDb.Extends

/-- The log names rows only, every row by a `NewBlock`, and every `ReorgedBlock` after one; no
row is higher than the tip. -/
structure SyncerDb.Logged (db : SyncerDb) (tip : Nat) : Prop where
  announced : ∀ row ∈ db.rows, .newBlock row.id ∈ db.events
  named : ∀ event ∈ db.events, ∃ row ∈ db.rows, row.id = eventBlockId event
  earlier : ∀ {k blockId : Nat}, db.events[k]? = some (.reorgedBlock blockId) →
    .newBlock blockId ∈ db.events.take k
  low : ∀ row ∈ db.rows, row.height ≤ tip

namespace SyncerDb.Logged

variable {tip : Nat}

/-- Appending events of rows, where the reorged ones are announced already. -/
theorem append (logged : db.Logged tip) {events : List BitcoinSyncerEvent}
    (sameEvents : db'.events = db.events ++ events)
    (announced : ∀ row ∈ db'.rows, .newBlock row.id ∈ db'.events)
    (kept : ∀ row ∈ db.rows, ∃ row' ∈ db'.rows, row'.id = row.id)
    (named : ∀ event ∈ events, ∃ row ∈ db'.rows, row.id = eventBlockId event)
    (reorged : ∀ blockId, .reorgedBlock blockId ∈ events → .newBlock blockId ∈ db.events)
    {tip' : Nat} (low : ∀ row ∈ db'.rows, row.height ≤ tip') : db'.Logged tip' := by
  constructor
  case announced => exact announced
  case named =>
    intro event member
    rw [sameEvents] at member
    rcases mem_append.mp member with member | member
    · obtain ⟨row, memberRow, same⟩ := logged.named event member
      obtain ⟨row', memberRow', same'⟩ := kept row memberRow
      exact ⟨row', memberRow', same'.trans same⟩
    · exact named event member
  case earlier =>
    intro k blockId atIndex
    rw [sameEvents] at atIndex ⊢
    by_cases old : k < db.events.length
    · rw [getElem?_append_left old] at atIndex
      rw [take_append_of_le_length (Nat.le_of_lt old)]
      exact logged.earlier atIndex
    · rw [getElem?_append_right (Nat.le_of_not_lt old)] at atIndex
      rw [take_append]
      apply mem_append_left
      rw [take_of_length_le (Nat.le_of_not_lt old)]
      exact reorged blockId (mem_of_getElem? atIndex)
  case low => exact low

theorem reorg (logged : db.Logged tip) (handled : handleReorgEvents db height = .ok db') :
    db'.Logged tip := by
  have shape := handleReorgEvents_eq_ok handled
  subst shape
  apply logged.append rfl
  · intro row member
    obtain ⟨old, memberOld, rfl⟩ := mem_rows_withFlags.mp member
    exact mem_append_left _ (logged.announced old memberOld)
  · exact fun row member => ⟨_, mem_rows_withFlags.mpr ⟨row, member, rfl⟩, rfl⟩
  · intro event member
    obtain ⟨blockId, above, rfl⟩ := mem_map.mp member
    obtain ⟨row, memberRow, rfl⟩ := mem_map.mp (mem_reverse.mp above)
    exact ⟨_, mem_rows_withFlags.mpr ⟨row, mem_of_mem_filter memberRow, rfl⟩, rfl⟩
  · intro blockId member
    obtain ⟨other, above, same⟩ := mem_map.mp member
    cases same
    obtain ⟨row, memberRow, rfl⟩ := mem_map.mp (mem_reverse.mp above)
    exact logged.announced row (mem_of_mem_filter memberRow)
  · intro row member
    obtain ⟨old, memberOld, rfl⟩ := mem_rows_withFlags.mp member
    exact logged.low old memberOld

theorem save (logged : db.Logged tip) (saves : saveBlock blockHash db block height = .ok saved)
    {tip' : Nat} (higher : tip ≤ tip') (below : height ≤ tip') :
    (saved.1.insertEvent (.newBlock saved.2)).Logged tip' := by
  have sameEvents : (saved.1.insertEvent (.newBlock saved.2)).events =
      db.events ++ [.newBlock saved.2] := by
    change saved.1.events ++ _ = _
    rw [events_saveBlock saves]
  obtain ⟨db', blockId⟩ := saved
  obtain ⟨row, member, _, rfl, rfl⟩ | ⟨_, rfl, rfl⟩ := saveBlock_eq_ok saves
  · apply logged.append sameEvents
    · intro row member
      obtain ⟨old, memberOld, rfl⟩ := mem_rows_withFlags.mp member
      exact mem_append_left _ (logged.announced old memberOld)
    · exact fun row member => ⟨_, mem_rows_withFlags.mpr ⟨row, member, rfl⟩, rfl⟩
    · intro event memberEvent
      rw [mem_singleton.mp memberEvent]
      exact ⟨_, mem_rows_withFlags.mpr ⟨row, member, rfl⟩, rfl⟩
    · intro blockId memberEvent
      cases mem_singleton.mp memberEvent
    · intro row member
      obtain ⟨old, memberOld, rfl⟩ := mem_rows_withFlags.mp member
      exact (logged.low old memberOld).trans higher
  · apply logged.append sameEvents
    · intro row member
      rcases mem_append.mp member with member | member
      · exact mem_append_left _ (logged.announced row member)
      · rw [mem_singleton.mp member]
        exact mem_append_right _ mem_cons_self
    · exact fun row member => ⟨row, mem_append_left _ member, rfl⟩
    · intro event memberEvent
      rw [mem_singleton.mp memberEvent]
      exact ⟨_, mem_append_right _ mem_cons_self, rfl⟩
    · intro blockId memberEvent
      cases mem_singleton.mp memberEvent
    · intro row member
      rcases mem_append.mp member with member | member
      · exact (logged.low row member).trans higher
      · rw [mem_singleton.mp member]
        exact below

end SyncerDb.Logged

variable {blocks : List BlockInfo}

/-- What processing a segment keeps. -/
theorem processNewBlocks_keeps {tree : BlockTree blockHash} {rpc : NodeRpc} {tip : Nat} :
    ∀ {db db' : SyncerDb} {next : Nat} {parent : Bytes32}, IsSegment tree parent next blocks →
    next + blocks.length ≤ tip + 1 → db.Logged tip →
    processNewBlocks blockHash rpc db blocks = .ok db' → db.Extends db' ∧ db'.Logged tip := by
  induction blocks with
  | nil =>
    intro db db' next parent _ _ logged processed
    cases processed
    exact ⟨.refl db, logged⟩
  | cons info rest ih =>
    intro db db' next parent segment short logged processed
    rw [length_cons] at short
    obtain ⟨_, _, infoHeight, _, tail⟩ := segment
    unfold processNewBlocks at processed
    split at processed
    · cases processed
    · rename_i block served
      split at processed
      · cases processed
      · rename_i saved saves
        obtain ⟨extended, logged'⟩ := ih tail (by omega)
          (logged.save saves (Nat.le_refl tip) (by omega)) processed
        exact ⟨(SyncerDb.Extends.of_save saves _).trans extended, logged'⟩

variable {db : SyncerDb} {start finalityDepth : Nat} {tree : BlockTree blockHash}

section Runs

theorem Advances.keeps {rpc : NodeRpc} {db db' : SyncerDb} {tip fork : Nat} {chain : Nat → Bytes32}
    (advances : Advances rpc tree db db' start tip finalityDepth chain fork blocks)
    (logged : db.Logged tip) : db.Extends db' ∧ db'.Logged (tip + 1) := by
  obtain ⟨cut, handled, processed⟩ := advances.writes
  have cutLogged := logged.reorg handled
  have higher : cut.Logged (tip + 1) :=
    ⟨cutLogged.announced, cutLogged.named, cutLogged.earlier,
      fun row member => (cutLogged.low row member).trans (Nat.le_succ tip)⟩
  have length := advances.length
  obtain ⟨extended, logged'⟩ :=
    processNewBlocks_keeps advances.segment (by omega) higher processed
  exact ⟨(SyncerDb.Extends.of_reorg handled).trans extended, logged'⟩

/-- The log along a run of the syncer. -/
theorem SyncerRun.logged {steps : List SyncerStep} {task : BitcoinSyncerTask}
    (positive : 1 ≤ finalityDepth) (run : SyncerRun tree start finalityDepth steps db task) :
    db.Logged task.currentHeight := by
  induction run with
  | @started rpc handlers db task truthful created =>
    obtain ⟨rfl, hash, block, saved, _, _, saves, rfl, _⟩ := new_eq_ok
      (SyncerDb.Follows.empty tree start (fun _ => Vector.replicate 32 0) handlers)
      truthful created
    have empty : SyncerDb.Logged { empty with handlers := handlers } start := by
      constructor
      case announced => exact fun row member => by cases member
      case named => exact fun event member => by cases member
      case earlier => exact fun atIndex => by cases atIndex
      case low => exact fun row member => by cases member
    exact empty.save saves (Nat.le_refl start) (Nat.le_refl start)
  | restarted run truthful created ih =>
    obtain ⟨_, started, chain, follows⟩ := run.follows positive
    rw [new_eq_of_follows follows started] at created
    cases created
    exact ih
  | @called steps db task rpc fault run truthful ih =>
    obtain ⟨depth, started, chain, follows⟩ := run.follows positive
    by_cases advanced : (task.runOnce blockHash rpc fault db).result = .ok true
    · obtain ⟨task', fork, blocks, advances⟩ :=
        follows.advance started (depth ▸ positive) truthful advanced
      rw [task']
      exact (advances.keeps ih).2
    · obtain ⟨sameTask, sameDb, _⟩ | ⟨_, _, _, _, _, called⟩ :=
        BitcoinSyncerTask.runOnce_cases blockHash task rpc fault db
      · rw [sameTask, sameDb]
        exact ih
      · exact absurd (by rw [called]) advanced
  | consumed run ih => exact ⟨ih.announced, ih.named, ih.earlier, ih.low⟩

/-! ## The loop of the consumer -/

/-- A block that was handed over is the canonical block of its height. -/
structure Delivery.Sound (delivery : Delivery) (db : SyncerDb) (tree : BlockTree blockHash)
    (chain : Nat → Bytes32) : Prop where
  block : tree.block (chain delivery.height) = some delivery.block
  row : ∃ row ∈ db.rows, row.id = delivery.blockId ∧ row.blockhash = chain delivery.height ∧
    row.height = delivery.height ∧ row.isCanonical = true

variable {chain : Nat → Bytes32} {tip : Nat}

theorem isBlockFinalized_iff {depth height tipHeight : Nat} (positive : 1 ≤ depth) :
    isBlockFinalized depth height tipHeight = true ↔ height + depth ≤ tipHeight + 1 := by
  unfold isBlockFinalized
  split
  · simp only [false_eq_true, false_iff]
    omega
  · rw [decide_eq_true_iff]
    omega

/-- The canonical block of a height is found. -/
theorem SyncerDb.Follows.sound_of_found (follows : db.Follows tree start (tip + 1) chain)
    {height blockId : Nat} (above : start ≤ height) (below : height ≤ tip)
    (fullBlock : db.getFullBlock height = .ok (some block))
    (canonicalId : db.getCanonicalBlockIdFromHeight height = .ok (some blockId)) :
    Delivery.Sound ⟨blockId, block, height⟩ db tree chain := by
  constructor
  case block =>
    obtain ⟨value, converted, looked⟩ := ExceptRun.bind_ok_iff.mp fullBlock
    obtain ⟨_, rfl⟩ := i32TryFrom_eq_ok converted
    obtain ⟨stored, lookup, inTree⟩ := follows.stored value above (Nat.lt_succ_of_le below)
    rw [lookup] at looked
    cases looked
    exact inTree
  case row =>
    obtain ⟨value, converted, looked⟩ := ExceptRun.bind_ok_iff.mp canonicalId
    obtain ⟨_, rfl⟩ := i32TryFrom_eq_ok converted
    obtain ⟨row, found, rfl⟩ := map_eq_some_iff.mp (Except.ok.inj looked)
    have conditions := find?_some found
    simp only [and_eq_true, decide_eq_true_eq] at conditions
    have member := mem_of_find?_eq_some found
    have onBranch := ((follows.canonical row member).mp conditions.2).2.2
    rw [conditions.1] at onBranch
    exact ⟨row, member, rfl, onBranch, conditions.1, conditions.2⟩

/-- The loop hands over the canonical blocks up to the last height that is final for the event. -/
theorem deliverFinalized_eq_ok (follows : db.Follows tree start (tip + 1) chain)
    (positive : 1 ≤ finalityDepth) {handleNewBlock : Delivery → Option String}
    (low : height ≤ tip) :
    ∀ {fuel expected next : Nat} {delivered : List Delivery}, start ≤ expected →
    height + 1 ≤ expected + fuel →
    deliverFinalized db finalityDepth handleNewBlock height fuel expected = .ok (delivered, next) →
    next = max expected (height + 2 - finalityDepth) ∧
      delivered.map Delivery.height = range' expected (next - expected) ∧
      ∀ delivery ∈ delivered, delivery.Sound db tree chain := by
  intro fuel
  induction fuel with
  | zero =>
    intro expected next delivered above enough looped
    unfold deliverFinalized at looped
    cases looped
    refine ⟨by omega, by simp, by simp⟩
  | succ fuel ih =>
    intro expected next delivered above enough looped
    unfold deliverFinalized at looped
    split at looped
    · rename_i notFinal
      cases looped
      have bound := mt (isBlockFinalized_iff positive).mpr (eq_false_iff.mp notFinal)
      exact ⟨by omega, by simp, by simp⟩
    · rename_i isFinal
      have bound := (isBlockFinalized_iff positive).mp (eq_true_of_not_eq_false isFinal)
      obtain ⟨block, fullBlock, looped⟩ := ExceptRun.bind_ok_iff.mp looped
      cases block with
      | none => cases looped
      | some block =>
        obtain ⟨blockId, canonicalId, looped⟩ := ExceptRun.bind_ok_iff.mp looped
        cases blockId with
        | none => cases looped
        | some blockId =>
          simp only at looped
          split at looped
          · cases looped
          · obtain ⟨rest, restLooped, looped⟩ := ExceptRun.bind_ok_iff.mp looped
            obtain ⟨restDelivered, restNext⟩ := rest
            cases looped
            obtain ⟨nextEq, heights, sound⟩ := ih (by omega) (by omega) restLooped
            refine ⟨by omega, ?_, ?_⟩
            · rw [map_cons, heights,
                show restNext - expected = (restNext - (expected + 1)) + 1 by omega,
                range'_succ]
            · rw [forall_mem_cons]
              exact ⟨follows.sound_of_found above (by omega) fullBlock canonicalId, sound⟩

end Runs

/-! ## Runs of a syncer and a consumer -/

variable (tree : BlockTree blockHash) (start finalityDepth : Nat) (consumer : String) in
/-- Tables, syncer, consumer and what the consumer has handed over, after any interleaving of
starts and calls of the syncer, calls of the consumer and calls of other consumers. -/
inductive FetcherRun :
    SyncerDb → Option BitcoinSyncerTask → FinalizedBlockFetcherTask → List Delivery → Prop
  | initial : FetcherRun empty none ⟨consumer, finalityDepth, start⟩ []
  | created {db task fetcher delivered rpc db' task'}
      (run : FetcherRun db task fetcher delivered) (truthful : rpc.Truthful tree)
      (created : new blockHash rpc start finalityDepth db = .ok (db', task')) :
      FetcherRun db' (some task') fetcher delivered
  | synced {db task fetcher delivered rpc fault}
      (run : FetcherRun db (some task) fetcher delivered) (truthful : rpc.Truthful tree) :
      FetcherRun (task.runOnce blockHash rpc fault db).db
        (some (task.runOnce blockHash rpc fault db).task) fetcher delivered
  | fetched {db task fetcher delivered handleNewBlock fault}
      (run : FetcherRun db task fetcher delivered) :
      FetcherRun (fetcher.runOnce handleNewBlock fault db).db task
        (fetcher.runOnce handleNewBlock fault db).task
        (delivered ++ (fetcher.runOnce handleNewBlock fault db).delivered)
  | others {db task fetcher delivered other lastProcessed}
      (run : FetcherRun db task fetcher delivered) (different : other ≠ consumer) :
      FetcherRun (db.withLastProcessed other lastProcessed) task fetcher delivered

namespace FinalizedBlockFetcherTask

variable (self : FinalizedBlockFetcherTask) (handleNewBlock : Delivery → Option String)
  (fault : Option String) (db : SyncerDb)

/-- A call changes nothing but its entry in the table of consumers, or processes one event. -/
theorem runOnce_cases : ((self.runOnce handleNewBlock fault db).task = self ∧
      (self.runOnce handleNewBlock fault db).delivered = [] ∧
      ((self.runOnce handleNewBlock fault db).db = db ∨
        (self.runOnce handleNewBlock fault db).db = db.withLastProcessed self.consumerHandle
          (db.getLastProcessedEventId self.consumerHandle))) ∨
    ∃ event delivered next,
      db.events[db.getLastProcessedEventId self.consumerHandle]? = some event ∧
      self.processEvent (db.withLastProcessed self.consumerHandle
        (db.getLastProcessedEventId self.consumerHandle + 1)) handleNewBlock event =
          .ok (delivered, next) ∧
      self.runOnce handleNewBlock fault db = ⟨{ self with nextFinalizedHeight := next },
          db.withLastProcessed self.consumerHandle
            (db.getLastProcessedEventId self.consumerHandle + 1), delivered, .ok true⟩ := by
  unfold runOnce fetchNextBitcoinSyncerEvt
  generalize db.getLastProcessedEventId self.consumerHandle = lastProcessed
  simp only
  cases fault with
  | some text =>
    left
    cases db.events[lastProcessed]? with
    | none => exact ⟨rfl, rfl, .inl rfl⟩
    | some event => exact ⟨rfl, rfl, .inl rfl⟩
  | none =>
    cases next : db.events[lastProcessed]? with
    | none => exact .inl ⟨rfl, rfl, .inr rfl⟩
    | some event =>
      simp only
      rcases processed : self.processEvent (db.withLastProcessed self.consumerHandle
          (lastProcessed + 1)) handleNewBlock event with error | ⟨delivered, height⟩
      · exact .inl ⟨rfl, rfl, .inl rfl⟩
      · exact .inr ⟨event, delivered, height, rfl, processed, rfl⟩

/-- A call writes the last event of its consumer and nothing else. -/
theorem runOnce_tables :
    ∃ handlers, (self.runOnce handleNewBlock fault db).db = { db with handlers := handlers } := by
  obtain ⟨_, _, sameDb | marked⟩ | ⟨_, _, _, _, _, called⟩ :=
    self.runOnce_cases handleNewBlock fault db
  · exact ⟨db.handlers, sameDb⟩
  · exact ⟨_, marked⟩
  · exact ⟨_, by rw [called]; rfl⟩

end FinalizedBlockFetcherTask

/-! ## The next height as a function of the processed events -/

/-- The heights of the events a consumer has processed. -/
def SyncerDb.processedHeights (db : SyncerDb) (consumer : String) : List Nat :=
  (db.events.take (db.getLastProcessedEventId consumer)).filterMap db.eventHeight

/-- The next height after events of these heights. -/
def nextAfter (start finalityDepth : Nat) (heights : List Nat) : Nat :=
  heights.foldl (fun next height => max next (height + 2 - finalityDepth)) start

theorem nextAfter_concat (start finalityDepth height : Nat) (heights : List Nat) :
    nextAfter start finalityDepth (heights ++ [height]) =
      max (nextAfter start finalityDepth heights) (height + 2 - finalityDepth) :=
  foldl_concat _ _ _ _

theorem le_nextAfter {finalityDepth height : Nat} {heights : List Nat} :
    ∀ {start : Nat}, (start ≤ nextAfter start finalityDepth heights) ∧
      (height ∈ heights → height + 2 - finalityDepth ≤ nextAfter start finalityDepth heights) := by
  induction heights with
  | nil => exact fun {start} => ⟨Nat.le_refl start, by simp⟩
  | cons first rest ih =>
    intro start
    have fromFirst := @ih (max start (first + 2 - finalityDepth))
    change start ≤ nextAfter _ _ _ ∧ (_ → _ ≤ nextAfter _ _ _)
    refine ⟨(Nat.le_max_left _ _).trans fromFirst.1, ?_⟩
    intro member
    rcases mem_cons.mp member with rfl | member
    · exact (Nat.le_max_right _ _).trans fromFirst.1
    · exact fromFirst.2 member

theorem nextAfter_max {heights : List Nat} :
    ∀ {height : Nat}, nextAfter (max start (height + 2 - finalityDepth)) finalityDepth heights =
      max start (heights.foldl max height + 2 - finalityDepth) := by
  induction heights with
  | nil => exact rfl
  | cons first rest ih =>
    intro height
    change nextAfter (max (max start (height + 2 - finalityDepth)) (first + 2 - finalityDepth))
      finalityDepth rest = max start (rest.foldl max (max height first) + 2 - finalityDepth)
    rw [← ih]
    congr 1
    omega

/-- A new start of the consumer computes the next height from the events it has processed. -/
theorem getNextFinalizedBlockHeightForConsumer_eq {consumer : String} (positive : 1 ≤ finalityDepth)
    :
    db.getNextFinalizedBlockHeightForConsumer consumer start finalityDepth =
      nextAfter start finalityDepth (db.processedHeights consumer) := by
  have processed : db.getMaxProcessedBlockHeight consumer =
      (db.processedHeights consumer).max? := by
    unfold getMaxProcessedBlockHeight processedHeights getLastProcessedEventId
    cases db.handlers.lookup consumer with
    | none => rfl
    | some lastProcessed => rfl
  unfold getNextFinalizedBlockHeightForConsumer
  rw [processed]
  cases db.processedHeights consumer with
  | nil => exact Nat.max_self start
  | cons height rest =>
    change _ = nextAfter (max start (height + 2 - finalityDepth)) finalityDepth rest
    rw [nextAfter_max, max?_cons']
    simp only
    split
    · omega
    · omega

/-! ## What a run keeps -/

section Pursuit

variable {consumer : String}

/-- The consumer has handed over the canonical blocks below its next height, which is final for
the tip. -/
structure Pursues (tree : BlockTree blockHash) (start finalityDepth : Nat) (consumer : String)
    (db : SyncerDb) (tip : Nat) (chain : Nat → Bytes32) (fetcher : FinalizedBlockFetcherTask)
    (delivered : List Delivery) : Prop where
  state : fetcher = ⟨consumer, finalityDepth,
    nextAfter start finalityDepth (db.processedHeights consumer)⟩
  bound : fetcher.nextFinalizedHeight = start ∨
    fetcher.nextFinalizedHeight + finalityDepth ≤ tip + 2
  heights : delivered.map Delivery.height = range' start (fetcher.nextFinalizedHeight - start)
  sound : ∀ delivery ∈ delivered, delivery.Sound db tree chain
  processed : db.getLastProcessedEventId consumer ≤ db.events.length

namespace Pursues

variable {tip tip' : Nat} {chain chain' : Nat → Bytes32} {fetcher : FinalizedBlockFetcherTask}
  {delivered : List Delivery}

/-- Handed over blocks are final for the tip. -/
theorem delivered_low
    (pursues : Pursues tree start finalityDepth consumer db tip chain fetcher delivered)
    {delivery : Delivery} (member : delivery ∈ delivered) :
    start ≤ delivery.height ∧ delivery.height + finalityDepth ≤ tip + 1 := by
  have memberHeight := mem_map_of_mem (f := Delivery.height) member
  rw [pursues.heights, mem_range'_1] at memberHeight
  rcases pursues.bound with atStart | low
  · omega
  · omega

theorem eventHeight_of_row {next : Nat} (follows : db.Follows tree start next chain)
    {row : SyncerRow} (member : row ∈ db.rows) {event : BitcoinSyncerEvent}
    (same : row.id = eventBlockId event) : db.eventHeight event = some row.height := by
  unfold eventHeight
  cases found : db.rows.find? fun row => row.id = eventBlockId event with
  | none =>
    have absent := find?_eq_none.mp found row member
    simp only [decide_eq_true_eq] at absent
    exact absurd same absent
  | some other =>
    have sameOther := find?_some found
    simp only [decide_eq_true_eq] at sameOther
    have distinct : (db.rows.map SyncerRow.id).Nodup := by
      rw [follows.ids]
      exact nodup_range'
    rw [inj_on_of_nodup_map distinct (mem_of_find?_eq_some found) member
      (sameOther.trans same.symm)]
    rfl

/-- What the syncer does leaves the consumer where it is, as long as the branch below the final
heights stays. -/
theorem of_extends
    (pursues : Pursues tree start finalityDepth consumer db tip chain fetcher delivered)
    (follows : db.Follows tree start (tip + 1) chain)
    (follows' : db'.Follows tree start (tip' + 1) chain') (logged : db.Logged tip)
    (extended : db.Extends db') (higher : tip ≤ tip') (positive : 1 ≤ finalityDepth)
    (kept : ∀ n, start ≤ n → n + finalityDepth ≤ tip + 1 → chain' n = chain n) :
    Pursues tree start finalityDepth consumer db' tip' chain' fetcher delivered := by
  have sameLast : db'.getLastProcessedEventId consumer = db.getLastProcessedEventId consumer := by
    unfold getLastProcessedEventId
    rw [extended.handlers]
  have sameHeights : db'.processedHeights consumer = db.processedHeights consumer := by
    unfold processedHeights
    obtain ⟨later, sameEvents⟩ := extended.events
    rw [sameLast, ← sameEvents, take_append_of_le_length pursues.processed]
    apply filterMap_congr
    intro event member
    obtain ⟨row, memberRow, sameId⟩ := logged.named event (mem_of_mem_take member)
    obtain ⟨row', memberRow', sameId', _, sameHeight⟩ := extended.rows row memberRow
    rw [eventHeight_of_row follows memberRow sameId,
      eventHeight_of_row follows' memberRow' (sameId'.trans sameId), sameHeight]
  constructor
  case state =>
    rw [sameHeights]
    exact pursues.state
  case bound =>
    rcases pursues.bound with atStart | low
    · exact .inl atStart
    · exact .inr (by omega)
  case heights => exact pursues.heights
  case sound =>
    intro delivery member
    obtain ⟨above, low⟩ := pursues.delivered_low member
    obtain ⟨block, row, memberRow, sameId, hash, height, _⟩ := pursues.sound delivery member
    obtain ⟨row', memberRow', sameId', hash', height'⟩ := extended.rows row memberRow
    have same := kept delivery.height above low
    constructor
    case block =>
      rw [same]
      exact block
    case row =>
      have canonical : row'.isCanonical = true := by
        rw [follows'.canonical row' memberRow', height', height, hash', hash, same]
        exact ⟨above, by omega, rfl⟩
      exact ⟨row', memberRow', sameId'.trans sameId, by rw [hash', hash, same],
        height'.trans height, canonical⟩
  case processed =>
    rw [sameLast]
    exact pursues.processed.trans extended.events.length_le

theorem getLastProcessedEventId_with (db : SyncerDb) (consumer : String) (eventId : Nat) :
    (db.withLastProcessed consumer eventId).getLastProcessedEventId consumer = eventId := by
  unfold getLastProcessedEventId withLastProcessed
  rw [AList.lookup_insert]
  rfl

theorem processedHeights_with (db : SyncerDb) (consumer : String) (eventId : Nat) :
    (db.withLastProcessed consumer eventId).processedHeights consumer =
      (db.events.take eventId).filterMap db.eventHeight := by
  unfold processedHeights
  rw [getLastProcessedEventId_with]
  rfl

/-- The consumer marks events as processed and hands over more blocks. -/
theorem mark (pursues : Pursues tree start finalityDepth consumer db tip chain fetcher delivered)
    {eventId next : Nat} {more : List Delivery} (within : eventId ≤ db.events.length)
    (state : next = nextAfter start finalityDepth
      ((db.events.take eventId).filterMap db.eventHeight))
    (bound : next = start ∨ next + finalityDepth ≤ tip + 2)
    (heights : more.map Delivery.height = range' fetcher.nextFinalizedHeight
      (next - fetcher.nextFinalizedHeight))
    (later : fetcher.nextFinalizedHeight ≤ next)
    (sound : ∀ delivery ∈ more, delivery.Sound db tree chain) :
    Pursues tree start finalityDepth consumer (db.withLastProcessed consumer eventId) tip chain
      ⟨consumer, finalityDepth, next⟩ (delivered ++ more) := by
  have started : start ≤ fetcher.nextFinalizedHeight := by
    rw [pursues.state]
    exact (@le_nextAfter _ 0 _ _).1
  constructor
  case state => rw [processedHeights_with, state]
  case bound => exact bound
  case heights =>
    rw [map_append, pursues.heights, heights]
    have joined := @range'_append_1 start (fetcher.nextFinalizedHeight - start)
      (next - fetcher.nextFinalizedHeight)
    rw [show start + (fetcher.nextFinalizedHeight - start) = fetcher.nextFinalizedHeight by omega]
      at joined
    rw [joined]
    congr 1
    simp only
    omega
  case sound =>
    intro delivery member
    rcases mem_append.mp member with member | member
    · exact ⟨(pursues.sound delivery member).block, (pursues.sound delivery member).row⟩
    · exact ⟨(sound delivery member).block, (sound delivery member).row⟩
  case processed =>
    rw [getLastProcessedEventId_with]
    exact within

/-- One call of the consumer. -/
theorem fetch (pursues : Pursues tree start finalityDepth consumer db tip chain fetcher delivered)
    (follows : db.Follows tree start (tip + 1) chain) (logged : db.Logged tip)
    (positive : 1 ≤ finalityDepth) (handleNewBlock : Delivery → Option String)
    (fault : Option String) :
    Pursues tree start finalityDepth consumer (fetcher.runOnce handleNewBlock fault db).db tip
      chain (fetcher.runOnce handleNewBlock fault db).task
      (delivered ++ (fetcher.runOnce handleNewBlock fault db).delivered) := by
  have handle : fetcher.consumerHandle = consumer := by rw [pursues.state]
  have depth : fetcher.finalityDepth = finalityDepth := by rw [pursues.state]
  have next : fetcher.nextFinalizedHeight =
      nextAfter start finalityDepth (db.processedHeights consumer) := by rw [pursues.state]
  have started : start ≤ fetcher.nextFinalizedHeight := by
    rw [next]
    exact (@le_nextAfter _ 0 _ _).1
  obtain ⟨sameTask, nothing, sameDb | marked⟩ | ⟨event, more, height, atIndex, processed, called⟩ :=
      fetcher.runOnce_cases handleNewBlock fault db
  · rw [sameTask, nothing, sameDb, append_nil]
    exact pursues
  · rw [sameTask, nothing, marked, handle]
    have whole : fetcher = ⟨consumer, finalityDepth, fetcher.nextFinalizedHeight⟩ := by
      rw [next]
      exact pursues.state
    have remarked : Pursues tree start finalityDepth consumer
        (db.withLastProcessed consumer (db.getLastProcessedEventId consumer)) tip chain
        ⟨consumer, finalityDepth, fetcher.nextFinalizedHeight⟩ (delivered ++ []) :=
      pursues.mark pursues.processed next pursues.bound (by simp) (Nat.le_refl _) (by simp)
    rwa [← whole] at remarked
  · rw [called, handle]
    rw [handle] at atIndex processed
    have within := (List.getElem?_eq_some_iff.mp atIndex).1
    have taken : db.events.take (db.getLastProcessedEventId consumer + 1) =
        db.events.take (db.getLastProcessedEventId consumer) ++ [event] := by
      rw [take_add_one, atIndex]
      rfl
    have state : ∀ {rowHeight}, db.eventHeight event = some rowHeight →
        nextAfter start finalityDepth ((db.events.take (db.getLastProcessedEventId consumer + 1)
          ).filterMap db.eventHeight) =
          max fetcher.nextFinalizedHeight (rowHeight + 2 - finalityDepth) := by
      intro rowHeight found
      rw [taken, filterMap_append, filterMap_cons_some found, filterMap_nil, nextAfter_concat, next]
      rfl
    cases event with
    | reorgedBlock blockId =>
      cases processed
      obtain ⟨row, member, sameId⟩ := logged.named _ (mem_of_getElem? atIndex)
      have found := eventHeight_of_row follows member sameId
      have before : db.eventHeight (.newBlock blockId) = some row.height := found
      have counted : row.height ∈ db.processedHeights consumer :=
        mem_filterMap.mpr ⟨_, logged.earlier atIndex, before⟩
      have covered := (@le_nextAfter finalityDepth row.height _ start).2 counted
      rw [← next] at covered
      rw [depth]
      apply pursues.mark within
      · rw [state found]
        omega
      · exact pursues.bound
      · simp
      · exact Nat.le_refl _
      · simp
    | newBlock blockId =>
      unfold processEvent at processed
      cases info : (db.withLastProcessed consumer
          (db.getLastProcessedEventId consumer + 1)).getBlockInfoFromId blockId with
      | none =>
        simp only [info] at processed
        cases processed
      | some found =>
        simp only [info, depth] at processed
        obtain ⟨row, isRow, rfl⟩ := map_eq_some_iff.mp info
        have member := mem_of_find?_eq_some isRow
        have rowHeight : db.eventHeight (.newBlock blockId) = some row.height :=
          map_eq_some_iff.mpr ⟨row, isRow, rfl⟩
        have low := logged.low row member
        have marked : (db.withLastProcessed consumer
            (db.getLastProcessedEventId consumer + 1)).Follows tree start (tip + 1) chain :=
          follows.congr rfl rfl
        obtain ⟨nextEq, heights, sound⟩ := deliverFinalized_eq_ok marked positive low started
          (by omega) processed
        rw [depth]
        apply pursues.mark within
        · rw [state rowHeight, nextEq]
        · rcases pursues.bound with atStart | final
          · omega
          · omega
        · exact heights
        · omega
        · exact fun delivery member => ⟨(sound delivery member).block, (sound delivery member).row⟩

end Pursues

/-- The state of a run: before the first start of the syncer nothing has happened, and after it
the consumer pursues the branch. -/
def FetcherInvariant (tree : BlockTree blockHash) (start finalityDepth : Nat) (consumer : String)
    (db : SyncerDb) (fetcher : FinalizedBlockFetcherTask) (delivered : List Delivery) :
    Option BitcoinSyncerTask → Prop
  | none => db = { empty with handlers := db.handlers } ∧
      db.getLastProcessedEventId consumer = 0 ∧
      fetcher = ⟨consumer, finalityDepth, start⟩ ∧ delivered = []
  | some task => ∃ steps chain, SyncerRun tree start finalityDepth steps db task ∧
      db.Follows tree start (task.currentHeight + 1) chain ∧
      Pursues tree start finalityDepth consumer db task.currentHeight chain fetcher delivered

section Steps

variable {task : Option BitcoinSyncerTask} {fetcher : FinalizedBlockFetcherTask}
  {delivered : List Delivery} {rpc : NodeRpc} (positive : 1 ≤ finalityDepth)
  (before : FetcherInvariant tree start finalityDepth consumer db fetcher delivered task)

include positive before

/-- A start of the syncer fills empty tables and leaves others as they are. -/
theorem FetcherInvariant.created {db' : SyncerDb} {task' : BitcoinSyncerTask}
    (truthful : rpc.Truthful tree)
    (created : new blockHash rpc start finalityDepth db = .ok (db', task')) :
    FetcherInvariant tree start finalityDepth consumer db' fetcher delivered (some task') := by
  cases task with
  | none =>
    obtain ⟨emptyDb, noneProcessed, rfl, rfl⟩ := before
    rw [emptyDb] at created
    have started := SyncerRun.started truthful created
    obtain ⟨_, _, chain, follows⟩ := started.follows positive
    obtain ⟨_, _, _, saved, _, _, saves, rfl, _⟩ := new_eq_ok
      (SyncerDb.Follows.empty tree start (fun _ => Vector.replicate 32 0) db.handlers)
      truthful created
    have handlers := (SyncerDb.Extends.of_save saves (.newBlock saved.2)).handlers
    have stillNone : (saved.1.insertEvent (.newBlock saved.2)).getLastProcessedEventId
        consumer = 0 := by
      unfold getLastProcessedEventId at noneProcessed ⊢
      rw [handlers]
      exact noneProcessed
    refine ⟨[], chain, started, follows, ?_⟩
    constructor
    case state =>
      unfold processedHeights
      rw [stillNone]
      rfl
    case bound => exact .inl rfl
    case heights => simp
    case sound => simp
    case processed =>
      rw [stillNone]
      exact Nat.zero_le _
  | some task =>
    obtain ⟨steps, chain, syncerRun, follows, pursues⟩ := before
    obtain ⟨depth, started, _⟩ := syncerRun.follows positive
    rw [new_eq_of_follows follows started] at created
    cases created
    have restarted : SyncerRun tree start finalityDepth steps db
        ⟨task.currentHeight, finalityDepth⟩ :=
      syncerRun.restarted truthful (new_eq_of_follows follows started)
    exact ⟨steps, chain, restarted, follows, pursues⟩

theorem FetcherInvariant.fetched (handleNewBlock : Delivery → Option String)
    (fault : Option String) :
    FetcherInvariant tree start finalityDepth consumer
      (fetcher.runOnce handleNewBlock fault db).db (fetcher.runOnce handleNewBlock fault db).task
      (delivered ++ (fetcher.runOnce handleNewBlock fault db).delivered) task := by
  cases task with
  | none =>
    obtain ⟨emptyDb, noneProcessed, rfl, rfl⟩ := before
    have noEvents : db.events = [] := by rw [emptyDb]; rfl
    obtain ⟨sameTask, nothing, sameDb | marked⟩ | ⟨_, _, _, atIndex, _⟩ :=
      runOnce_cases ⟨consumer, finalityDepth, start⟩ handleNewBlock fault db
    · rw [sameTask, nothing, sameDb]
      exact ⟨emptyDb, noneProcessed, rfl, rfl⟩
    · rw [sameTask, nothing, marked]
      refine ⟨?_, ?_, rfl, rfl⟩
      · unfold withLastProcessed
        rw [emptyDb]
      · rw [Pursues.getLastProcessedEventId_with]
        exact noneProcessed
    · rw [noEvents] at atIndex
      cases atIndex
  | some task =>
    obtain ⟨steps, chain, syncerRun, follows, pursues⟩ := before
    have fetched := pursues.fetch follows (syncerRun.logged positive) positive
      handleNewBlock fault
    obtain ⟨handlers, sameTables⟩ := fetcher.runOnce_tables handleNewBlock fault db
    refine ⟨steps, chain, ?_, ?_, fetched⟩
    · rw [sameTables]
      exact syncerRun.consumed
    · rw [sameTables]
      exact follows.congr rfl rfl

omit positive in
/-- Another consumer only writes its own last event. -/
theorem FetcherInvariant.others {other : String} {lastProcessed : Nat}
    (different : other ≠ consumer) :
    FetcherInvariant tree start finalityDepth consumer (db.withLastProcessed other lastProcessed)
      fetcher delivered task := by
  have sameLast : (db.withLastProcessed other lastProcessed).getLastProcessedEventId consumer =
      db.getLastProcessedEventId consumer := by
    unfold getLastProcessedEventId withLastProcessed
    rw [AList.lookup_insert_ne different.symm]
  cases task with
  | none =>
    obtain ⟨emptyDb, noneProcessed, rfl, rfl⟩ := before
    refine ⟨?_, sameLast.trans noneProcessed, rfl, rfl⟩
    unfold withLastProcessed
    rw [emptyDb]
  | some task =>
    obtain ⟨steps, chain, syncerRun, follows, pursues⟩ := before
    refine ⟨steps, chain, syncerRun.consumed, follows.congr rfl rfl, ?_⟩
    have sameHeights : (db.withLastProcessed other lastProcessed).processedHeights consumer =
        db.processedHeights consumer := by
      unfold processedHeights
      rw [sameLast]
      rfl
    constructor
    case state =>
      rw [sameHeights]
      exact pursues.state
    case bound => exact pursues.bound
    case heights => exact pursues.heights
    case sound =>
      exact fun delivery member =>
        ⟨(pursues.sound delivery member).block, (pursues.sound delivery member).row⟩
    case processed =>
      rw [sameLast]
      exact pursues.processed

end Steps

/-- A call of the syncer stays above the blocks that are final. -/
theorem FetcherInvariant.synced {task : BitcoinSyncerTask} {fetcher : FinalizedBlockFetcherTask}
    {delivered : List Delivery} {rpc : NodeRpc} (positive : 1 ≤ finalityDepth)
    (before : FetcherInvariant tree start finalityDepth consumer db fetcher delivered (some task))
    (truthful : rpc.Truthful tree) (fault : Option String) :
    FetcherInvariant tree start finalityDepth consumer (task.runOnce blockHash rpc fault db).db
      fetcher delivered (some (task.runOnce blockHash rpc fault db).task) := by
  obtain ⟨steps, chain, syncerRun, follows, pursues⟩ := before
  obtain ⟨depth, started, _⟩ := syncerRun.follows positive
  have called : SyncerRun tree start finalityDepth (⟨db, task, rpc, fault⟩ :: steps) _ _ :=
    syncerRun.called truthful
  by_cases advanced : (task.runOnce blockHash rpc fault db).result = .ok true
  · obtain ⟨task', fork, blocks, advances⟩ :=
      follows.advance started (depth ▸ positive) truthful advanced
    have logged := syncerRun.logged positive
    have follows' : (task.runOnce blockHash rpc fault db).db.Follows tree start
        ((task.runOnce blockHash rpc fault db).task.currentHeight + 1)
        (extendedBy chain (fork + 1) blocks) := by
      rw [task']
      exact advances.follows
    refine ⟨_, _, called, follows', ?_⟩
    have higher : task.currentHeight ≤
        (task.runOnce blockHash rpc fault db).task.currentHeight := by
      rw [task']
      exact Nat.le_succ _
    refine pursues.of_extends follows follows' logged (advances.keeps logged).1 higher positive ?_
    intro n above low
    have forkDepth := advances.depth
    rw [depth] at forkDepth
    exact extendedBy_of_lt (by omega)
  · obtain ⟨sameTask, sameDb, _⟩ | ⟨_, _, _, _, _, ok⟩ :=
      BitcoinSyncerTask.runOnce_cases blockHash task rpc fault db
    · rw [sameTask, sameDb] at called ⊢
      exact ⟨_, chain, called, follows, pursues⟩
    · exact absurd (by rw [ok]) advanced

theorem FetcherRun.invariant {task : Option BitcoinSyncerTask} {fetcher : FinalizedBlockFetcherTask}
    {delivered : List Delivery} (positive : 1 ≤ finalityDepth)
    (run : FetcherRun tree start finalityDepth consumer db task fetcher delivered) :
    FetcherInvariant tree start finalityDepth consumer db fetcher delivered task := by
  induction run with
  | initial => exact ⟨rfl, rfl, rfl, rfl⟩
  | created _ truthful created ih => exact ih.created positive truthful created
  | synced _ truthful ih => exact ih.synced positive truthful _
  | fetched _ ih => exact ih.fetched positive _ _
  | others _ different ih => exact ih.others different

/-- The blocks that a consumer has handed over are those of the heights from the start on, each
the parent of the next, and after every run they are canonical. -/
theorem finalized_blocks_stay {db : SyncerDb} {task : Option BitcoinSyncerTask}
    {fetcher : FinalizedBlockFetcherTask} {delivered : List Delivery}
    (positive : 1 ≤ finalityDepth)
    (run : FetcherRun tree start finalityDepth consumer db task fetcher delivered) :
    delivered.map Delivery.height = List.range' start delivered.length ∧
      (∀ {k : Nat} {delivery next : Delivery}, delivered[k]? = some delivery →
        delivered[k + 1]? = some next →
        next.block.header.prevBlockHash = blockHash delivery.block.header) ∧
      ∀ delivery ∈ delivered, ∃ row ∈ db.rows, row.id = delivery.blockId ∧
        row.blockhash = blockHash delivery.block.header ∧ row.height = delivery.height ∧
        row.isCanonical = true := by
  have invariant := run.invariant positive
  cases task with
  | none =>
    obtain ⟨_, _, _, rfl⟩ := invariant
    exact ⟨rfl, by simp, by simp⟩
  | some task =>
    obtain ⟨steps, chain, syncerRun, follows, pursues⟩ := invariant
    have heights : delivered.map Delivery.height = range' start delivered.length := by
      have length := congrArg length pursues.heights
      rw [length_map, length_range'] at length
      rw [pursues.heights, length]
    refine ⟨heights, ?_, ?_⟩
    · intro k delivery next atIndex atNext
      have memberNext := mem_of_getElem? atNext
      have heightAt : ∀ {k : Nat} {delivery : Delivery}, delivered[k]? = some delivery →
          delivery.height = start + k := by
        intro k delivery atIndex
        have mapped : (delivered.map Delivery.height)[k]? = some delivery.height := by
          rw [getElem?_map, atIndex]
          rfl
        have short := (List.getElem?_eq_some_iff.mp atIndex).1
        rw [heights, getElem?_range' short, Nat.one_mul] at mapped
        exact (Option.some.inj mapped).symm
      have low := (pursues.delivered_low memberNext).2
      have height := heightAt atIndex
      have heightNext := heightAt atNext
      obtain ⟨block, inTree, parent⟩ := follows.linked delivery.height (by omega) (by omega)
      have nextInTree := (pursues.sound next memberNext).block
      rw [show next.height = delivery.height + 1 by omega, inTree] at nextInTree
      cases nextInTree
      rw [parent, tree.hashed (pursues.sound delivery (mem_of_getElem? atIndex)).block]
    · intro delivery member
      obtain ⟨block, row, memberRow, sameId, hash, height, canonical⟩ :=
        pursues.sound delivery member
      exact ⟨row, memberRow, sameId, by rw [hash, tree.hashed block], height, canonical⟩

namespace Regtest.Syncer

/-- The tables, a syncer, and two consumers with what they have handed over. -/
structure Consumers where
  db : SyncerDb
  task : BitcoinSyncerTask
  first : FinalizedBlockFetcherTask × List Delivery
  second : FinalizedBlockFetcherTask × List Delivery

namespace Consumers

variable (consumers : Consumers)

/-- A call of the syncer on a chain. -/
def sync (hashes : List Bytes32) : Consumers :=
  let called := consumers.task.runOnce headerHash (node hashes) none consumers.db
  { consumers with db := called.db, task := called.task }

/-- A call of the first consumer. -/
def fetch : Consumers :=
  let called := consumers.first.1.runOnce (fun _ => none) none consumers.db
  { consumers with db := called.db, first := (called.task, consumers.first.2 ++ called.delivered) }

def swap : Consumers := { consumers with first := consumers.second, second := consumers.first }

/-- The history is a run of both consumers. -/
structure Runs : Prop where
  different : consumers.first.1.consumerHandle ≠ consumers.second.1.consumerHandle
  first : FetcherRun blockTree 0 2 consumers.first.1.consumerHandle consumers.db
    (some consumers.task) consumers.first.1 consumers.first.2
  second : FetcherRun blockTree 0 2 consumers.second.1.consumerHandle consumers.db
    (some consumers.task) consumers.second.1 consumers.second.2

variable {consumers}

theorem Runs.sync (runs : consumers.Runs) {hashes : List Bytes32} (isChain : IsChain hashes) :
    (consumers.sync hashes).Runs :=
  ⟨runs.different, .synced runs.first (node_serves isChain).truthful,
    .synced runs.second (node_serves isChain).truthful⟩

theorem Runs.swap (runs : consumers.Runs) : consumers.swap.Runs :=
  ⟨runs.different.symm, runs.second, runs.first⟩

theorem Runs.fetch (runs : consumers.Runs) : consumers.fetch.Runs := by
  have called := consumers.first.1.runOnce_cases (fun _ => none) none consumers.db
  have handle : consumers.fetch.first.1.consumerHandle = consumers.first.1.consumerHandle := by
    obtain ⟨same, -⟩ | ⟨_, _, _, -, -, same⟩ := called <;> simp only [Consumers.fetch, same]
  refine ⟨handle ▸ runs.different, handle ▸ .fetched runs.first, ?_⟩
  change FetcherRun _ _ _ _ (consumers.first.1.runOnce _ _ consumers.db).db _ _ _
  obtain ⟨-, -, same | marked⟩ | ⟨_, _, _, -, -, same⟩ := called
  · rw [same]
    exact runs.second
  · rw [marked]
    exact .others runs.second runs.different
  · rw [same]
    exact .others runs.second runs.different

end Consumers

/-- With finality depth 2 one consumer hands over `a` while `b` is stored; the node changes to `b1`
and `c1`, and both hand over `b1`. -/
theorem exists_consumers : ∃ consumers : Consumers, consumers.Runs ∧
    consumers.first.1.consumerHandle = "first" ∧ consumers.first.1.nextFinalizedHeight = 2 ∧
    consumers.first.2.map Delivery.height = [0, 1] ∧
    consumers.second.2.map Delivery.height = [0, 1] ∧
    ∃ row ∈ consumers.db.rows, row.isCanonical = false := by
  let history (db : SyncerDb) (task : BitcoinSyncerTask) : Consumers :=
    ((((⟨db, task, (⟨"first", 2, 0⟩, []), (⟨"second", 2, 0⟩, [])⟩ : Consumers).sync
      [aHash, bHash]).fetch.fetch.sync [aHash, b1Hash, c1Hash]).fetch.fetch.fetch.swap
        ).fetch.fetch.fetch.fetch.fetch.swap
  have evaluated : (new headerHash (node [aHash]) 0 2 empty).toOption.map (fun created =>
      let consumers := history created.1 created.2
      ((consumers.first.1, consumers.first.2.map Delivery.height,
        consumers.second.2.map Delivery.height),
        decide (∃ row ∈ consumers.db.rows, row.isCanonical = false))) =
      some ((⟨"first", 2, 2⟩, [0, 1], [0, 1]), true) := by
    decide +kernel
  have chains : IsChain [aHash] ∧ IsChain [aHash, bHash] ∧ IsChain [aHash, b1Hash, c1Hash] := by
    decide +kernel
  rcases created : new headerHash (node [aHash]) 0 2 empty with error | ⟨db, task⟩
  · rw [created] at evaluated
    cases evaluated
  · rw [created] at evaluated
    simp only [Except.toOption, Option.map_some, some.injEq, Prod.mk.injEq,
      decide_eq_true_eq] at evaluated
    obtain ⟨⟨consumer, heights, heights'⟩, reorged⟩ := evaluated
    have started : (⟨db, task, (⟨"first", 2, 0⟩, []), (⟨"second", 2, 0⟩, [])⟩ : Consumers).Runs :=
      ⟨by simp, .created .initial (node_serves chains.1).truthful created,
        .created .initial (node_serves chains.1).truthful created⟩
    have runs := (((started.sync chains.2.1).fetch.fetch.sync chains.2.2).fetch.fetch.fetch.swap
      ).fetch.fetch.fetch.fetch.fetch.swap
    exact ⟨history db task, runs, by rw [consumer], by rw [consumer], heights, heights', reorged⟩

/-- Two blocks are handed over, the first of them before a reorg. -/
theorem finalized_blocks_stay_reorg : ∃ (db : SyncerDb) (delivered : List Delivery),
    (∃ row ∈ db.rows, row.isCanonical = false) ∧ delivered.map Delivery.height = [0, 1] ∧
      (∀ {k : Nat} {delivery next : Delivery}, delivered[k]? = some delivery →
        delivered[k + 1]? = some next →
        next.block.header.prevBlockHash = headerHash delivery.block.header) ∧
      ∀ delivery ∈ delivered, ∃ row ∈ db.rows,
        row.id = delivery.blockId ∧ row.blockhash = headerHash delivery.block.header ∧
        row.height = delivery.height ∧ row.isCanonical = true := by
  obtain ⟨consumers, runs, -, -, heights, -, reorged⟩ := exists_consumers
  exact ⟨consumers.db, _, reorged, heights, (finalized_blocks_stay (by decide) runs.first).2⟩

end Regtest.Syncer

/-- After every run the consumer is the one that a new start builds from the tables. -/
theorem rebuilt_consumer_is_same {db : SyncerDb} {task : Option BitcoinSyncerTask}
    {fetcher : FinalizedBlockFetcherTask} {delivered : List Delivery}
    (positive : 1 ≤ finalityDepth)
    (run : FetcherRun tree start finalityDepth consumer db task fetcher delivered) :
    fetcher = ⟨consumer, finalityDepth,
      db.getNextFinalizedBlockHeightForConsumer consumer start finalityDepth⟩ := by
  rw [getNextFinalizedBlockHeightForConsumer_eq positive]
  have invariant := run.invariant positive
  cases task with
  | none =>
    obtain ⟨_, noneProcessed, rfl, _⟩ := invariant
    unfold processedHeights
    rw [noneProcessed]
    rfl
  | some task =>
    obtain ⟨_, _, _, _, pursues⟩ := invariant
    exact pursues.state

/-- The consumer that has handed over two blocks is rebuilt with next height 2. -/
theorem Regtest.Syncer.rebuilt_consumer_is_same_reorg : ∃ db : SyncerDb,
    (∃ row ∈ db.rows, row.isCanonical = false) ∧
      db.getNextFinalizedBlockHeightForConsumer "first" 0 2 = 2 := by
  obtain ⟨consumers, runs, handle, next, -, -, reorged⟩ := exists_consumers
  have rebuilt := rebuilt_consumer_is_same (by decide) runs.first
  rw [rebuilt, handle] at next
  exact ⟨consumers.db, reorged, next⟩

/-- Consumers of the same tables agree: for a height they hand over the same stored block. -/
theorem consumers_agree {task : Option BitcoinSyncerTask}
    {fetcher fetcher' : FinalizedBlockFetcherTask} {delivered delivered' : List Delivery}
    {consumer' : String} (positive : 1 ≤ finalityDepth)
    (run : FetcherRun tree start finalityDepth consumer db task fetcher delivered)
    (run' : FetcherRun tree start finalityDepth consumer' db task fetcher' delivered') :
    ∀ delivery ∈ delivered, ∀ delivery' ∈ delivered', delivery.height = delivery'.height →
      delivery = delivery' := by
  intro delivery member delivery' member' height
  have invariant := run.invariant positive
  have invariant' := run'.invariant positive
  cases task with
  | none => simp [invariant.2.2.2] at member
  | some task =>
    obtain ⟨_, chain, _, follows, pursues⟩ := invariant
    obtain ⟨_, chain', _, _, pursues'⟩ := invariant'
    obtain ⟨block, row, inRows, id, hash, atHeight, canonical⟩ := pursues.sound delivery member
    obtain ⟨block', row', inRows', id', hash', atHeight', canonical'⟩ :=
      pursues'.sound delivery' member'
    -- At most one row of a height is canonical, and its hash names the block.
    cases follows.unique_at inRows inRows' canonical canonical' (by omega)
    rw [← hash', hash, block] at block'
    obtain ⟨_, _, _⟩ := delivery
    simp_all

theorem Regtest.Syncer.consumers_agree_reorg : ∃ delivered delivered' : List Delivery,
    delivered.map Delivery.height = [0, 1] ∧ delivered'.map Delivery.height = [0, 1] ∧
      ∀ delivery ∈ delivered, ∀ delivery' ∈ delivered', delivery.height = delivery'.height →
        delivery = delivery' := by
  obtain ⟨_, runs, -, -, heights, heights', -⟩ := exists_consumers
  exact ⟨_, _, heights, heights', consumers_agree (by decide) runs.first runs.second⟩

end Pursuit

end Clementine
