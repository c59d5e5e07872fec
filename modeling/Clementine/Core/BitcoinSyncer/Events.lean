import Clementine.Core.BitcoinSyncer.Sync

/-!
# The log of the syncer

Replaying the events gives the ids of the canonical rows.  Every `NewBlock` adds an id that is
not there, but a reorg announces all rows above the fork, also those that an earlier reorg has
already taken out: their events change nothing.
-/

namespace Clementine

open Syncer List

variable {blockHash : CircuitBlockHeader → Bytes32} {tree : BlockTree blockHash}

/-- The canonical ids. -/
def SyncerDb.canonicalIds (db : SyncerDb) : Finset Nat :=
  ((db.rows.filter (·.isCanonical)).map SyncerRow.id).toFinset

namespace BitcoinSyncerEvent

/-- `NewBlock` adds the id and `ReorgedBlock` removes it. -/
def apply (ids : Finset Nat) : BitcoinSyncerEvent → Finset Nat
  | newBlock blockId => insert blockId ids
  | reorgedBlock blockId => ids.erase blockId

/-- The event changes the set. -/
def Changes (ids : Finset Nat) : BitcoinSyncerEvent → Prop
  | newBlock blockId => blockId ∉ ids
  | reorgedBlock blockId => blockId ∈ ids

/-- The set after the events. -/
def replay : Finset Nat → List BitcoinSyncerEvent → Finset Nat :=
  foldl apply

/-- Every event changes the set. -/
def AllChange : Finset Nat → List BitcoinSyncerEvent → Prop
  | _, [] => True
  | ids, event :: rest => event.Changes ids ∧ AllChange (event.apply ids) rest

theorem replay_append (ids : Finset Nat) (first second : List BitcoinSyncerEvent) :
    replay ids (first ++ second) = replay (replay ids first) second :=
  foldl_append

theorem allChange_append {first second : List BitcoinSyncerEvent} :
    ∀ {ids : Finset Nat}, AllChange ids (first ++ second) ↔
      AllChange ids first ∧ AllChange (replay ids first) second := by
  induction first with
  | nil => exact fun {ids} => (and_iff_right trivial).symm
  | cons event rest ih =>
    intro ids
    simp only [cons_append, AllChange, ih, and_assoc]
    rfl

/-- Replaying reorgs removes their ids. -/
theorem mem_replay_reorged {blockIds : List Nat} : ∀ {ids : Finset Nat} {blockId : Nat},
      blockId ∈ replay ids (blockIds.map reorgedBlock) ↔ blockId ∈ ids ∧ blockId ∉ blockIds := by
  induction blockIds with
  | nil => exact fun {ids blockId} => by simp [replay]
  | cons first rest ih =>
    intro ids blockId
    change blockId ∈ replay (ids.erase first) (rest.map reorgedBlock) ↔ _
    rw [ih, Finset.mem_erase, mem_cons]
    tauto

/-- Reorgs of different ids all change the set exactly if it has all of them. -/
theorem allChange_reorged {blockIds : List Nat} : ∀ {ids : Finset Nat}, blockIds.Nodup →
      (AllChange ids (blockIds.map reorgedBlock) ↔ ∀ blockId ∈ blockIds, blockId ∈ ids) := by
  induction blockIds with
  | nil => exact fun {ids} _ => by simp [AllChange]
  | cons first rest ih =>
    intro ids distinct
    obtain ⟨notInRest, distinctRest⟩ := nodup_cons.mp distinct
    change first ∈ ids ∧ AllChange (ids.erase first) (rest.map reorgedBlock) ↔ _
    rw [ih distinctRest, forall_mem_cons]
    refine and_congr_right fun _ => ?_
    refine forall₂_congr fun blockId member => ?_
    rw [Finset.mem_erase]
    refine and_iff_right ?_
    intro same
    exact notInRest (same ▸ member)

end BitcoinSyncerEvent

open BitcoinSyncerEvent

namespace SyncerDb.Follows

variable {db db' : SyncerDb} {start next : Nat} {chain : Nat → Bytes32}

theorem mem_canonicalIds {blockId : Nat} :
    blockId ∈ db.canonicalIds ↔ ∃ row ∈ db.rows, row.isCanonical = true ∧ row.id = blockId := by
  unfold SyncerDb.canonicalIds
  simp only [mem_toFinset, mem_map, mem_filter, and_assoc]

theorem ids_nodup (follows : db.Follows tree start next chain) :
    (db.rows.map SyncerRow.id).Nodup := by
  rw [follows.ids]
  exact nodup_range'

theorem row_eq_of_id (follows : db.Follows tree start next chain) {row row' : SyncerRow}
    (member : row ∈ db.rows) (member' : row' ∈ db.rows) (same : row.id = row'.id) : row = row' :=
  inj_on_of_nodup_map follows.ids_nodup member member' same

theorem mem_idsAbove {height blockId : Nat} :
    blockId ∈ db.idsAbove height ↔ ∃ row ∈ db.rows, height < row.height ∧ row.id = blockId := by
  unfold SyncerDb.idsAbove
  simp only [mem_reverse, mem_map, mem_filter, decide_eq_true_eq, and_assoc]

theorem idsAbove_nodup (follows : db.Follows tree start next chain) (height : Nat) :
    (db.idsAbove height).Nodup := by
  unfold SyncerDb.idsAbove
  rw [nodup_reverse]
  exact follows.ids_nodup.sublist (filter_sublist.map SyncerRow.id)

/-- Replaying the events of a reorg gives the rows that stay. -/
theorem replay_reorg (follows : db.Follows tree start next chain) {height : Nat}
    (handled : handleReorgEvents db height = .ok db') :
    replay db.canonicalIds ((db.idsAbove height).map reorgedBlock) = db'.canonicalIds := by
  rw [handleReorgEvents_eq_ok handled]
  ext blockId
  rw [mem_replay_reorged, mem_canonicalIds, mem_idsAbove, mem_canonicalIds]
  constructor
  · intro kept
    obtain ⟨⟨row, member, canonical, rfl⟩, notAbove⟩ := kept
    refine ⟨_, SyncerDb.mem_rows_withFlags.mpr ⟨row, member, rfl⟩, ?_, rfl⟩
    have low : row.height ≤ height := by
      by_contra high
      exact notAbove ⟨row, member, Nat.lt_of_not_le high, rfl⟩
    simp [canonical, low]
  · intro kept
    obtain ⟨row, member, canonical, rfl⟩ := kept
    obtain ⟨old, memberOld, rfl⟩ := SyncerDb.mem_rows_withFlags.mp member
    simp only [Bool.and_eq_true, decide_eq_true_eq] at canonical
    refine ⟨⟨old, memberOld, canonical.1, rfl⟩, ?_⟩
    intro above
    obtain ⟨other, memberOther, high, same⟩ := above
    rw [follows.row_eq_of_id memberOther memberOld same] at high
    exact absurd canonical.2 (Nat.not_le.mpr high)

/-- The events of a reorg all change the set exactly if no stale row is above the fork. -/
theorem allChange_reorg (follows : db.Follows tree start next chain) {height : Nat} :
    AllChange db.canonicalIds ((db.idsAbove height).map reorgedBlock) ↔
      ∀ row ∈ db.rows, height < row.height → row.isCanonical = true := by
  rw [allChange_reorged (follows.idsAbove_nodup height)]
  constructor
  · intro all row member above
    obtain ⟨other, memberOther, canonical, same⟩ :=
      mem_canonicalIds.mp (all row.id (mem_idsAbove.mpr ⟨row, member, above, rfl⟩))
    rwa [follows.row_eq_of_id memberOther member same] at canonical
  · intro all blockId above
    obtain ⟨row, member, high, rfl⟩ := mem_idsAbove.mp above
    exact mem_canonicalIds.mpr ⟨row, member, all row member high, rfl⟩

/-- A block saved above the branch was not canonical, and is now. -/
theorem canonicalIds_save (follows : db.Follows tree start next chain) {block : Block}
    {hash : Bytes32} {blockId : Nat} (inTree : tree.block hash = some block)
    (height : tree.height hash = next)
    (saved : saveBlock blockHash db block next = .ok (db', blockId)) :
    blockId ∉ db.canonicalIds ∧ db'.canonicalIds = insert blockId db.canonicalIds := by
  have hashed := tree.hashed inTree
  obtain ⟨row, member, rowHash, rfl, rfl⟩ | ⟨unknown, rfl, rfl⟩ := saveBlock_eq_ok saved
  · rw [hashed] at rowHash
    constructor
    · intro already
      obtain ⟨other, memberOther, canonical, same⟩ := mem_canonicalIds.mp already
      rw [follows.row_eq_of_id memberOther member same] at canonical
      obtain ⟨_, below, _⟩ := (follows.canonical row member).mp canonical
      obtain ⟨_, _, _, rowHeight⟩ := follows.known row member
      rw [rowHeight, rowHash, height] at below
      exact Nat.lt_irrefl next below
    · ext blockId
      rw [Finset.mem_insert, mem_canonicalIds, mem_canonicalIds]
      constructor
      · intro canonical
        obtain ⟨new, memberNew, flag, rfl⟩ := canonical
        obtain ⟨old, memberOld, rfl⟩ := SyncerDb.mem_rows_withFlags.mp memberNew
        simp only [Bool.or_eq_true, decide_eq_true_eq, hashed] at flag
        rcases flag with flag | same
        · exact .inr ⟨old, memberOld, flag, rfl⟩
        · rw [follows.row_unique memberOld member (same.trans rowHash.symm)]
          exact .inl rfl
      · intro canonical
        rcases canonical with rfl | ⟨old, memberOld, flag, rfl⟩
        · refine ⟨_, SyncerDb.mem_rows_withFlags.mpr ⟨row, member, rfl⟩, ?_, rfl⟩
          simp [hashed, rowHash]
        · refine ⟨_, SyncerDb.mem_rows_withFlags.mpr ⟨old, memberOld, rfl⟩, ?_, rfl⟩
          simp [flag]
  · constructor
    · intro already
      obtain ⟨row, member, _, same⟩ := mem_canonicalIds.mp already
      have inIds := mem_map_of_mem (f := SyncerRow.id) member
      rw [follows.ids, same, mem_range'_1] at inIds
      omega
    · ext blockId
      rw [Finset.mem_insert, mem_canonicalIds, mem_canonicalIds]
      simp only [mem_append, mem_singleton]
      constructor
      · intro canonical
        obtain ⟨row, memberOld | rfl, flag, rfl⟩ := canonical
        · exact .inr ⟨row, memberOld, flag, rfl⟩
        · exact .inl rfl
      · intro canonical
        rcases canonical with rfl | ⟨old, memberOld, flag, rfl⟩
        · exact ⟨_, .inr rfl, rfl, rfl⟩
        · exact ⟨old, .inl memberOld, flag, rfl⟩

end SyncerDb.Follows

variable {blocks : List BlockInfo}

/-- Processing a segment appends events that all change the set, and the replay stays the set of
canonical ids. -/
theorem SyncerDb.Follows.process_events {tree : BlockTree blockHash} {rpc : NodeRpc} {start : Nat}
    (truthful : rpc.Truthful tree) :
    ∀ {db db' : SyncerDb} {next : Nat} {chain : Nat → Bytes32} {parent : Bytes32},
    db.Follows tree start next chain → IsSegment tree parent next blocks →
    (start < next → parent = chain (next - 1)) →
    processNewBlocks blockHash rpc db blocks = .ok db' →
    replay ∅ db.events = db.canonicalIds →
    replay ∅ db'.events = db'.canonicalIds ∧ (AllChange ∅ db'.events ↔ AllChange ∅ db.events) := by
  induction blocks with
  | nil =>
    intro db db' next chain parent _ _ _ processed replayed
    cases processed
    exact ⟨replayed, Iff.rfl⟩
  | cons info rest ih =>
    intro db db' next chain parent follows segment onBranch processed replayed
    obtain ⟨block, saved, first⟩ := follows.process_cons truthful segment onBranch processed
    obtain ⟨fresh, ids⟩ := follows.canonicalIds_save first.inTree first.height first.saves
    have events := events_saveBlock first.saves
    have replayed' : replay ∅ (saved.1.insertEvent (.newBlock saved.2)).events =
        (saved.1.insertEvent (.newBlock saved.2)).canonicalIds := by
      change replay ∅ (saved.1.events ++ [_]) = saved.1.canonicalIds
      rw [events, replay_append, replayed, ids]
      rfl
    obtain ⟨replayedRest, change⟩ := ih first.follows first.tail first.top first.processes replayed'
    refine ⟨replayedRest, change.trans ?_⟩
    change AllChange ∅ (saved.1.events ++ [_]) ↔ _
    rw [events, allChange_append, replayed]
    exact and_iff_left ⟨fresh, trivial⟩

/-! ## The log along a run -/

/-- The call meets no stale row above its fork. -/
def SyncerStep.SparesStale (step : SyncerStep) : Prop :=
  ∀ first rest, fetchNewBlocks step.db step.rpc step.task.currentHeight step.task.finalityDepth =
      .ok (some (first :: rest)) →
    ∀ row ∈ step.db.rows, first.height ≤ row.height → row.isCanonical = true

section Runs

variable {start finalityDepth : Nat}

/-- A call that returns `true` keeps the log exact, and its events all change the set exactly if
it meets no stale row above its fork. -/
theorem Advances.events {rpc : NodeRpc} {db db' : SyncerDb} {tip : Nat} {chain : Nat → Bytes32}
    {fork : Nat} {task : BitcoinSyncerTask}
    (advances : Advances rpc tree db db' start tip finalityDepth chain fork blocks)
    (fault : Option String) (sameTask : task = ⟨tip, finalityDepth⟩) (truthful : rpc.Truthful tree)
    (follows : db.Follows tree start (tip + 1) chain)
    (replayed : replay ∅ db.events = db.canonicalIds) :
    replay ∅ db'.events = db'.canonicalIds ∧ (AllChange ∅ db'.events ↔
        AllChange ∅ db.events ∧ SyncerStep.SparesStale ⟨db, task, rpc, fault⟩) := by
  obtain ⟨cut, handled, processed⟩ := advances.writes
  have below := advances.below
  have cutFollows := follows.reorg advances.above (by omega) handled
  have cutEvents : cut.events = db.events ++ (db.idsAbove fork).map reorgedBlock := by
    rw [handleReorgEvents_eq_ok handled]
  have cutReplayed : replay ∅ cut.events = cut.canonicalIds := by
    rw [cutEvents, replay_append, replayed, follows.replay_reorg handled]
  have onBranch : start < fork + 1 → chain fork = chain (fork + 1 - 1) := by
    intro _
    rw [Nat.add_sub_cancel]
  obtain ⟨replayed', change⟩ := cutFollows.process_events truthful advances.segment onBranch
    processed cutReplayed
  refine ⟨replayed', change.trans ?_⟩
  rw [cutEvents, allChange_append, replayed, follows.allChange_reorg]
  refine and_congr_right fun _ => ?_
  subst sameTask
  unfold SyncerStep.SparesStale
  rw [advances.fetched]
  have length := advances.length
  cases blocks with
  | nil =>
    rw [length_nil] at length
    omega
  | cons first rest =>
    have height : first.height = fork + 1 := advances.segment.2.2.1
    constructor
    · intro spared first' rest' same row member above
      cases same
      exact spared row member (by omega)
    · intro spared row member above
      exact spared first rest rfl row member (by omega)

/-- After every run the log replays to the canonical ids.  Every event of it changes the set
exactly if no successful call met a row that was stale and above the fork of the call. -/
theorem event_log_exact_iff {steps : List SyncerStep} {db : SyncerDb} {task : BitcoinSyncerTask}
    (positive : 1 ≤ finalityDepth) (run : SyncerRun tree start finalityDepth steps db task) :
    replay ∅ db.events = db.canonicalIds ∧ (AllChange ∅ db.events ↔ ∀ step ∈ steps,
        (step.call blockHash).result = .ok true → step.SparesStale) := by
  induction run with
  | @started rpc handlers db task truthful created =>
    have empty := SyncerDb.Follows.empty tree start (fun _ => Vector.replicate 32 0) handlers
    obtain ⟨rfl, hash, block, saved, inTree, height, saves, rfl, _⟩ :=
      BitcoinSyncer.new_eq_ok empty truthful created
    obtain ⟨fresh, ids⟩ := empty.canonicalIds_save inTree height saves
    have events : (saved.1.insertEvent (.newBlock saved.2)).events = [.newBlock saved.2] := by
      change saved.1.events ++ _ = _
      rw [events_saveBlock saves]
      rfl
    rw [events]
    refine ⟨?_, ?_⟩
    · change insert saved.2 ∅ = saved.1.canonicalIds
      rw [ids]
      rfl
    · simp [AllChange, Changes]
  | restarted run truthful created ih =>
    obtain ⟨_, started, chain, follows⟩ := run.follows positive
    rw [BitcoinSyncer.new_eq_of_follows follows started] at created
    cases created
    exact ih
  | @called steps db task rpc fault run truthful ih =>
    obtain ⟨depth, started, chain, follows⟩ := run.follows positive
    obtain ⟨replayed, change⟩ := ih
    by_cases advanced : (task.runOnce blockHash rpc fault db).result = .ok true
    · obtain ⟨_, fork, blocks, advances⟩ :=
        follows.advance started (depth ▸ positive) truthful advanced
      obtain ⟨replayed', change'⟩ :=
        advances.events fault rfl truthful follows replayed
      refine ⟨replayed', ?_⟩
      rw [change', change, forall_mem_cons, and_comm]
      exact and_congr_left fun _ => (imp_iff_right advanced).symm
    · obtain ⟨_, sameDb, _⟩ | ⟨_, _, _, _, _, called⟩ :=
        BitcoinSyncerTask.runOnce_cases blockHash task rpc fault db
      · rw [sameDb, forall_mem_cons]
        refine ⟨replayed, change.trans ?_⟩
        exact (and_iff_right fun ok => absurd ok advanced).symm
      · exact absurd (by rw [called]) advanced
  | consumed run ih => exact ih

end Runs

namespace Regtest.Syncer

/-- The node changes from `a b` to `a b1 c1` and then to `a b2 c2 d2`.  The second change
announces `b` again, which the first has already taken out. -/
theorem reorged_event_for_stale_row : ∃ steps db task, SyncerRun blockTree 0 3 steps db task ∧
      db.events = [.newBlock 1, .newBlock 2, .reorgedBlock 2, .newBlock 3, .newBlock 4,
        .reorgedBlock 4, .reorgedBlock 3, .reorgedBlock 2, .newBlock 5, .newBlock 6,
        .newBlock 7] ∧
      2 ∉ replay ∅ (db.events.take 7) ∧ ¬AllChange ∅ db.events := by
  obtain ⟨steps, db, task, run, events⟩ :=
    execute_run 3 [aHash, bHash] [[aHash, bHash], [aHash, b1Hash, c1Hash],
      [aHash, b2Hash, c2Hash, d2Hash]] (fun state => state.1.events) (by decide +kernel)
      (by decide +kernel : _ = some [.newBlock 1, .newBlock 2, .reorgedBlock 2, .newBlock 3,
        .newBlock 4, .reorgedBlock 4, .reorgedBlock 3, .reorgedBlock 2, .newBlock 5, .newBlock 6,
        .newBlock 7])
  simp only at events
  refine ⟨steps, db, task, run, events, ?_, ?_⟩
  · rw [events]
    decide
  · rw [events]
    simp [AllChange, Changes, apply]

/-- One reorg alone has an exact log. -/
theorem event_log_exact_iff_reorg :
    ∃ (steps : List SyncerStep) (db : SyncerDb), AllChange ∅ db.events ∧
      db.events.length = 5 ∧ replay ∅ db.events = db.canonicalIds ∧
      ∀ step ∈ steps, (step.call headerHash).result = .ok true → step.SparesStale := by
  obtain ⟨steps, db, task, run, events⟩ :=
    execute_run 3 [aHash, bHash] [[aHash, bHash], [aHash, b1Hash, c1Hash]]
      (fun state => state.1.events) (by decide +kernel) (by decide +kernel : _ = some
        [.newBlock 1, .newBlock 2, .reorgedBlock 2, .newBlock 3, .newBlock 4])
  simp only at events
  obtain ⟨replayed, change⟩ := event_log_exact_iff (by decide) run
  have all : AllChange ∅ db.events := by
    rw [events]
    simp [AllChange, Changes, apply]
  exact ⟨steps, db, all, by rw [events]; rfl, replayed, change.mp all⟩

end Regtest.Syncer

end Clementine
