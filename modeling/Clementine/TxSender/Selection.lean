import Clementine.TxSender.Activation

/-!
# Selection of the transactions to send

Over every history of insertions and synchronisations, a transaction is selected only if each of
its prerequisites is recorded as its largest relative height demands.  The rows that carry the
demands are stored once, under a fresh id, and a synchronisation changes only what is recorded about
the prerequisite.
-/

namespace Clementine

open List UInt32

namespace TxSender

/-- An insertion that has stored a transaction. -/
structure Insertion where
  id : Nat
  call : InsertCall

/-- What the insertion of a transaction that is not stored does. -/
structure SenderDb.Inserts (lockTime : UInt32 → Option RelativeLockTime) (db : SenderDb)
    (call : InsertCall) (later : SenderDb) (id : Nat) : Prop where
  id_eq : id = db.nextId
  bound : db.nextId < 2 ^ 31
  nextId : later.nextId = db.nextId + 1
  txs : later.tables.txs = db.tables.txs ++
    [⟨db.nextId, call.feePayingType, call.txid, none, none, false, false⟩]
  activations : later.tables.activations = db.tables.activations ++
    ((call.demands lockTime).foldl mergeTimelock ∅).entries.map (activationRow id)
  timelocks : ∀ row ∈ ((call.demands lockTime).foldl mergeTimelock ∅).entries.map
    (activationRow id), row.timelock < 2 ^ 31

variable (lockTime : UInt32 → Option RelativeLockTime) (finality : UInt32) in
/-- The database after a history, with the insertions that stored a transaction.  A call for a
stored transaction, a call that fails and a selection leave the tables as they are. -/
inductive SenderRun : List Insertion → SenderDb → Prop
  | initial : SenderRun [] ⟨⟨[], [], [], []⟩, 1⟩
  | inserted {log : List Insertion} {db later : SenderDb} {call : InsertCall} {id : Nat}
      (run : SenderRun log db)
      (new : db.checkIfTxExistsOnTxsender call.txid = none)
      (done : db.insertTryToSend lockTime call = .ok (later, id)) :
      SenderRun (⟨id, call⟩ :: log) later
  -- a call that fails may use up numbers of the sequence
  | skipped {log : List Insertion} {db : SenderDb} {nextId : Nat}
      (run : SenderRun log db) (grows : db.nextId ≤ nextId) :
      SenderRun log { db with nextId := nextId }
  | synced {log : List Insertion} {db : SenderDb} (run : SenderRun log db)
      (rpc : SyncRpc) : SenderRun log
        { db with tables := (syncTransactionConfirmationsViaRpc rpc finality db.tables).1 }
  -- sending a selected transaction writes columns that no activation depends on
  | sent {log : List Insertion} {db : SenderDb} {tables : ConfirmationDb}
      (run : SenderRun log db)
      (ids : ∀ row ∈ tables.txs, ∃ old ∈ db.tables.txs, old.id = row.id)
      (activations : tables.activations = db.tables.activations) :
      SenderRun log { db with tables := tables }

/-- The numbers of a row fit the columns of the database. -/
structure ActivateRow.InRange (row : ActivateRow) : Prop where
  timelock : row.timelock < 2 ^ 31
  seenAtHeight : ∀ height, row.seenAtHeight = some height → height < 2 ^ 31

/-- The row of a prerequisite with its largest height is stored. -/
def ConfirmationDb.Stores (db : ConfirmationDb) (id : Nat) (txid : Bytes32) (timelock : Nat) :
    Prop :=
  ∃ row ∈ db.activations, row.activatedId = id ∧ row.txid = txid ∧ row.timelock = timelock

/-- What holds after every history. -/
structure SenderDb.Invariant (db : SenderDb) (lockTime : UInt32 → Option RelativeLockTime)
    (log : List Insertion) : Prop where
  ids : ∀ row ∈ db.tables.txs, row.id < db.nextId ∧ row.id < 2 ^ 31
  activatedIds : ∀ row ∈ db.tables.activations, row.activatedId < db.nextId
  inRange : ∀ row ∈ db.tables.activations, row.InRange
  stored : ∀ insertion ∈ log, ∀ txid ∈ (insertion.call.demands lockTime).map Prod.fst,
    db.tables.Stores insertion.id txid (largestHeight txid (insertion.call.demands lockTime))

variable {txid : Bytes32}

section Steps

variable {lockTime : UInt32 → Option RelativeLockTime} {finality : UInt32} {rpc : SyncRpc}
  {db later : SenderDb} {call : InsertCall} {id : Nat} {log : List Insertion}

theorem SenderDb.insertTryToSend_inserts (new : db.checkIfTxExistsOnTxsender call.txid = none)
    (done : db.insertTryToSend lockTime call = .ok (later, id))
    (fresh : ∀ row ∈ db.tables.activations, row.activatedId < db.nextId) :
    db.Inserts lockTime call later id := by
  unfold insertTryToSend at done
  simp only [new] at done
  obtain ⟨saved, savedEq, done⟩ := ExceptRun.bind_ok_iff.mp done
  obtain ⟨merged, mergedEq, done⟩ := ExceptRun.bind_ok_iff.mp done
  obtain ⟨stored, storedEq, done⟩ := ExceptRun.bind_ok_iff.mp done
  cases done
  unfold saveTx at savedEq
  simp only [new] at savedEq
  split at savedEq
  · cases savedEq
  next bound =>
      cases savedEq
      have saves := saveActivatedTxids_saves storedEq merged.nodupKeys fun row member same =>
        absurd same (Nat.ne_of_lt (fresh row member))
      rw [merged_eq mergedEq] at saves
      exact ⟨rfl, Nat.lt_of_not_le bound, saves.nextId, saves.txs, saves.activations, saves.bounds⟩

theorem ConfirmationDb.Stores.mono {before after : ConfirmationDb} {timelock : Nat}
    (stores : before.Stores id txid timelock) (subset : before.activations ⊆ after.activations) :
    after.Stores id txid timelock := by
  obtain ⟨row, member, keys⟩ := stores
  exact ⟨row, subset member, keys⟩

/-- Every demand of an insertion is stored with its largest height. -/
theorem SenderDb.Inserts.stores (inserts : db.Inserts lockTime call later id)
    (member : txid ∈ (call.demands lockTime).map Prod.fst) :
    later.tables.Stores id txid (largestHeight txid (call.demands lockTime)) := by
  have found := lookup_mergeAll (call.demands lockTime) txid
  rw [if_pos member] at found
  have entry := AList.mem_lookup_iff.mp (Option.mem_def.mpr found)
  refine ⟨activationRow id ⟨txid, largestHeight txid (call.demands lockTime)⟩, ?_, rfl, rfl, rfl⟩
  rw [inserts.activations]
  exact mem_append_right _ (mem_map_of_mem entry)

theorem SenderDb.Invariant.insert (inv : db.Invariant lockTime log)
    (inserts : db.Inserts lockTime call later id) :
    later.Invariant lockTime (⟨id, call⟩ :: log) where
  ids row member := by
    rw [inserts.txs] at member
    rw [inserts.nextId]
    rcases mem_append.mp member with old | new
    · have bounds := inv.ids row old
      exact ⟨Nat.lt_succ_of_lt bounds.1, bounds.2⟩
    · rw [mem_singleton.mp new]
      exact ⟨Nat.lt_succ_self _, inserts.bound⟩
  activatedIds row member := by
    rw [inserts.activations] at member
    rw [inserts.nextId]
    rcases mem_append.mp member with old | new
    · exact Nat.lt_succ_of_lt (inv.activatedIds row old)
    · obtain ⟨entry, -, rfl⟩ := mem_map.mp new
      exact inserts.id_eq ▸ Nat.lt_succ_self _
  inRange row member := by
    rw [inserts.activations] at member
    rcases mem_append.mp member with old | new
    · exact inv.inRange row old
    · refine ⟨inserts.timelocks row new, fun height seen => ?_⟩
      obtain ⟨entry, -, rfl⟩ := mem_map.mp new
      cases seen
  stored insertion member txid demanded := by
    rcases mem_cons.mp member with rfl | earlier
    · exact inserts.stores demanded
    · refine (inv.stored insertion earlier txid demanded).mono ?_
      rw [inserts.activations]
      exact subset_append_left _ _

variable {row next : ActivateRow} {ok : Bool}

/-- A synchronisation keeps the key and the height of a row. -/
theorem RowSync.keeps_key
    (sync : RowSync rpc activateView activateListed (updateActivate finality) ok row next) :
    next.activatedId = row.activatedId ∧ next.txid = row.txid ∧ next.timelock = row.timelock := by
  rcases sync.eq_or_updated with rfl | ⟨status, -, -, rfl⟩
  · exact ⟨rfl, rfl, rfl⟩
  · exact ⟨rfl, rfl, rfl⟩

theorem RowSync.inRange
    (sync : RowSync rpc activateView activateListed (updateActivate finality) ok row next)
    (inRange : row.InRange) : next.InRange := by
  rcases sync.eq_or_updated with rfl | ⟨status, -, -, rfl⟩
  · exact inRange
  · refine ⟨inRange.timelock, fun height seen => ?_⟩
    cases status with
    | confirmed blockHeight confirmations =>
      cases seen
      exact blockHeight.isLt
    | inMempool => cases seen
    | notPresent => cases seen

theorem SenderDb.Invariant.sync (inv : db.Invariant lockTime log) {tables : ConfirmationDb}
    (synced : db.tables.Synced rpc finality ok tables) :
    SenderDb.Invariant { db with tables := tables } lockTime log where
  ids row member := by
    obtain ⟨old, isOld, sync⟩ := forall₂_exists_of_mem_right synced.txs member
    rcases sync.eq_or_updated with rfl | ⟨status, -, -, rfl⟩
    · exact inv.ids row isOld
    · exact inv.ids old isOld
  activatedIds row member := by
    obtain ⟨old, isOld, sync⟩ := forall₂_exists_of_mem_right synced.activations member
    rw [sync.keeps_key.1]
    exact inv.activatedIds old isOld
  inRange row member := by
    obtain ⟨old, isOld, sync⟩ := forall₂_exists_of_mem_right synced.activations member
    exact sync.inRange (inv.inRange old isOld)
  stored insertion member txid demanded := by
    obtain ⟨row, isRow, ofId, ofTxid, ofHeight⟩ := inv.stored insertion member txid demanded
    obtain ⟨next, isNext, sync⟩ := forall₂_exists_of_mem_left synced.activations isRow
    obtain ⟨sameId, sameTxid, sameHeight⟩ := sync.keeps_key
    exact ⟨next, isNext, sameId.trans ofId, sameTxid.trans ofTxid, sameHeight.trans ofHeight⟩

/-- The invariant holds after every history. -/
theorem SenderRun.invariant (run : SenderRun lockTime finality log db) :
    db.Invariant lockTime log := by
  induction run with
  | initial =>
    refine ⟨?_, ?_, ?_, ?_⟩
    all_goals exact fun row member => absurd member not_mem_nil
  | inserted _ new done ih =>
    exact ih.insert (SenderDb.insertTryToSend_inserts new done ih.activatedIds)
  | skipped _ grows ih =>
    exact ⟨fun row member => ⟨(ih.ids row member).1.trans_le grows, (ih.ids row member).2⟩,
      fun row member => (ih.activatedIds row member).trans_le grows, ih.inRange, ih.stored⟩
  | synced _ rpc ih => exact ih.sync (syncTransactionConfirmationsViaRpc_synced rpc finality _)
  | sent _ ids activations ih =>
    refine ⟨?_, ?_, ?_, ?_⟩
    · intro row member
      obtain ⟨old, isOld, same⟩ := ids row member
      exact same ▸ ih.ids old isOld
    · intro row member
      exact ih.activatedIds row (activations ▸ member)
    · intro row member
      exact ih.inRange row (activations ▸ member)
    · intro insertion member txid demanded
      refine (ih.stored insertion member txid demanded).mono ?_
      rw [activations]
      exact List.Subset.refl _

end Steps

/-! ## The tracker and the selection agree -/

/-- A row as the tracker reads it, if its numbers fit. -/
def ActivateRow.tracking (row : ActivateRow) : ActivationTrackingRow :=
  ⟨row.txid, UInt32.ofNat row.timelock, row.seenAtHeight.map UInt32.ofNat, row.inMempool⟩

variable {db : ConfirmationDb}

section Tracker

variable {row : ActivateRow} {tip : UInt32}

theorem u32TryFrom_eq {value : Nat} (small : value < 2 ^ 31) (message : String) :
    u32TryFrom value message = .ok (ofNat value) := by
  rw [u32TryFrom, if_pos (by omega)]

theorem ActivateRow.InRange.track_eq (inRange : row.InRange) : row.track = .ok row.tracking := by
  unfold track tracking
  rw [u32TryFrom_eq inRange.timelock]
  cases seen : row.seenAtHeight with
  | none => rfl
  | some height =>
    simp only [u32TryFrom_eq (inRange.seenAtHeight height seen)]
    rfl

theorem toNat_ofNat_of_small {value : Nat} (small : value < 2 ^ 31) : (ofNat value).toNat = value :=
  toNat_ofNat_of_lt (by
    have : size = 2 ^ 32 := rfl
    omega)

/-- Heights of the database never saturate. -/
theorem toNat_saturatingAdd {left right : Nat} (leftSmall : left < 2 ^ 31)
    (rightSmall : right < 2 ^ 31) :
    (saturatingAdd (ofNat left) (ofNat right)).toNat = left + right := by
  have sum : (ofNat left).toNat + (ofNat right).toNat = left + right := by
    rw [toNat_ofNat_of_small leftSmall, toNat_ofNat_of_small rightSmall]
  rw [saturatingAdd, if_pos (by omega), UInt32.toNat_add, sum]
  omega

/-- A row adds a blocker exactly if it blocks the selection. -/
theorem ActivateRow.InRange.blocker_eq_none_iff (inRange : row.InRange) :
    row.tracking.blocker tip = none ↔ row.blocks tip.toNat = false := by
  have small := inRange.timelock
  have zero_iff : ofNat row.timelock = 0 ↔ row.timelock = 0 := by
    rw [← UInt32.toNat_inj, toNat_ofNat_of_small small]
    rfl
  unfold ActivationTrackingRow.blocker tracking blocks
  by_cases zero : row.timelock = 0
  · have notPositive : ¬ 0 < row.timelock := by omega
    cases row.seenAtHeight with
    | none => cases row.inMempool <;> simp [zero]
    | some height => simp [zero]
  · have positive : 0 < row.timelock := by omega
    have notZero : ¬ ofNat row.timelock = 0 := fun equal => zero (zero_iff.mp equal)
    cases seen : row.seenAtHeight with
    | none => simp [zero, positive, notZero]
    | some height =>
      have unlock := toNat_saturatingAdd (inRange.seenAtHeight height seen) small
      have later_iff : tip < saturatingAdd (ofNat height) (ofNat row.timelock) ↔
          tip.toNat < height + row.timelock := by
        rw [lt_iff_toNat_lt, unlock]
      simp [zero, positive, notZero, later_iff]

theorem mapM_track_eq {rows : List ActivateRow} (inRange : ∀ row ∈ rows, row.InRange) :
    rows.mapM ActivateRow.track = .ok (rows.map ActivateRow.tracking) := by
  induction rows with
  | nil => rfl
  | cons row rest ih =>
    have restEq := ih fun other member => inRange other (mem_cons_of_mem _ member)
    rw [mapM_cons, (inRange row mem_cons_self).track_eq, restEq]
    rfl

variable {id : Nat}

theorem ConfirmationDb.mem_activationsOf :
    row ∈ db.activationsOf id ↔ row ∈ db.activations ∧ row.activatedId = id := by
  rw [activationsOf, mem_mergeSort, mem_filter, decide_eq_true_eq]

theorem ConfirmationDb.no_blockers_iff (inRange : ∀ row ∈ db.activations, row.InRange) :
    ((db.activationsOf id).map ActivateRow.tracking).filterMap
        (ActivationTrackingRow.blocker tip) = [] ↔ id ∉ db.nonActiveTxs tip.toNat := by
  rw [filterMap_eq_nil_iff, nonActiveTxs]
  constructor
  · intro free member
    obtain ⟨row, isRow, same⟩ := mem_map.mp member
    obtain ⟨isRow, blocks⟩ := mem_filter.mp isRow
    have unblocked := free _ (mem_map_of_mem (mem_activationsOf.mpr ⟨isRow, same⟩))
    rw [(inRange row isRow).blocker_eq_none_iff.mp unblocked] at blocks
    cases blocks
  · intro free tracked member
    obtain ⟨row, isRow, rfl⟩ := mem_map.mp member
    obtain ⟨isRow, same⟩ := mem_activationsOf.mp isRow
    refine (inRange row isRow).blocker_eq_none_iff.mpr ?_
    by_contra blocks
    refine free (mem_map.mpr ⟨row, mem_filter.mpr ⟨isRow, ?_⟩, same⟩)
    exact Bool.eq_true_of_not_eq_false blocks

/-- The tracker reports a transaction as active exactly if the selection does not leave it out. -/
theorem ConfirmationDb.buildActivationState_active_iff
    (inRange : ∀ row ∈ db.activations, row.InRange) (small : id < 2 ^ 31) :
    db.buildActivationState tip id = .ok .active ↔ id ∉ db.nonActiveTxs tip.toNat := by
  have listed : db.listActivationTrackingRows id =
      .ok ((db.activationsOf id).map ActivateRow.tracking) := by
    rw [listActivationTrackingRows, if_neg (Nat.not_le_of_lt small)]
    exact mapM_track_eq fun row member => inRange row (mem_activationsOf.mp member).1
  rw [← no_blockers_iff inRange, buildActivationState, listed]
  simp only [bind, Except.bind, pure, Except.pure]
  generalize ((db.activationsOf id).map ActivateRow.tracking).filterMap
    (ActivationTrackingRow.blocker tip) = blockers
  cases blockers with
  | nil => exact iff_of_true rfl rfl
  | cons blocker rest => simp

end Tracker

/-! ## Activation before sending -/

/-- The prerequisite is recorded as its largest relative height demands. -/
def ConfirmationDb.Activated (db : ConfirmationDb) (tip id : Nat) (txid : Bytes32)
    (timelock : Nat) : Prop :=
  ∃ row ∈ db.activations, row.activatedId = id ∧ row.txid = txid ∧
    (0 < timelock → ∃ height, row.seenAtHeight = some height ∧ height + timelock ≤ tip) ∧
    (timelock = 0 → row.seenAtHeight ≠ none ∨ row.inMempool = true)

theorem ConfirmationDb.Stores.activated {tip id timelock : Nat}
    (stores : db.Stores id txid timelock) (free : id ∉ db.nonActiveTxs tip) :
    db.Activated tip id txid timelock := by
  obtain ⟨row, member, ofId, ofTxid, rfl⟩ := stores
  have unblocked : row.blocks tip = false := by
    by_contra blocks
    refine free (mem_map.mpr ⟨row, mem_filter.mpr ⟨member, ?_⟩, ofId⟩)
    exact Bool.eq_true_of_not_eq_false blocks
  refine ⟨row, member, ofId, ofTxid, fun positive => ?_, fun zero => ?_⟩
  · unfold ActivateRow.blocks at unblocked
    cases seen : row.seenAtHeight with
    | none => simp [seen, positive] at unblocked
    | some height =>
      refine ⟨height, rfl, ?_⟩
      simp only [seen, positive, decide_true, Bool.true_and, Bool.or_eq_false_iff,
        decide_eq_false_iff_not] at unblocked
      omega
  · unfold ActivateRow.blocks at unblocked
    cases seen : row.seenAtHeight with
    | none => simpa [seen, zero] using unblocked
    | some height => exact .inl (by simp)

theorem ConfirmationDb.getSendableTxs_spec {feeRate : UInt64} {tip : UInt32} {ids : List Nat}
    (selected : db.getSendableTxs feeRate tip = .ok ids) :
    ∀ id ∈ ids, id ∉ db.nonActiveTxs tip.toNat := by
  unfold getSendableTxs at selected
  split at selected
  · cases selected
  split at selected
  · cases selected
  cases selected
  intro id member
  obtain ⟨row, isRow, rfl⟩ := mem_map.mp member
  have kept := (mem_filter.mp isRow).2
  simp only [Bool.and_eq_true, decide_eq_true_eq] at kept
  exact kept.1.1.1

/-- After every history, a selected transaction has each of its prerequisites, explicit or spent,
recorded as its largest relative height demands at that tip; and the tracker reports a stored
transaction as active exactly if the selection does not leave it out for its activation. -/
theorem sendable_only_after_activation {lockTime : UInt32 → Option RelativeLockTime}
    {finality : UInt32} {log : List Insertion} {db : SenderDb}
    (run : SenderRun lockTime finality log db) (tip : UInt32) :
    (∀ (feeRate : UInt64) (ids : List Nat), db.tables.getSendableTxs feeRate tip = .ok ids →
      ∀ insertion ∈ log, insertion.id ∈ ids →
        ∀ txid ∈ (insertion.call.demands lockTime).map Prod.fst,
          db.tables.Activated tip.toNat insertion.id txid
            (largestHeight txid (insertion.call.demands lockTime))) ∧
    ∀ row ∈ db.tables.txs, db.tables.buildActivationState tip row.id = .ok .active ↔
      row.id ∉ db.tables.nonActiveTxs tip.toNat := by
  have inv := run.invariant
  constructor
  · intro feeRate ids selected insertion member isSelected txid demanded
    exact (inv.stored insertion member txid demanded).activated
      (ConfirmationDb.getSendableTxs_spec selected insertion.id isSelected)
  · intro row member
    exact ConfirmationDb.buildActivationState_active_iff inv.inRange (inv.ids row member).2

namespace SelectionSample

/-- `Sequence::to_relative_lock_time`: bit 31 disables the lock, bit 22 makes it one of time. -/
def lockTime (sequence : UInt32) : Option RelativeLockTime :=
  if sequence &&& 0x80000000 = 0 then
    if sequence &&& 0x400000 = 0 then some (.blocks sequence.toUInt16)
    else some (.time sequence.toUInt16)
  else none

def parent : Bytes32 := Vector.replicate 32 7

/-- A transaction that spends two outputs of its parent, which is also an explicit prerequisite. -/
def call : InsertCall where
  txid := Vector.replicate 32 9
  feePayingType := .cpfp
  input := [⟨⟨parent, 0⟩, [], 2, []⟩, ⟨⟨parent, 1⟩, [], 5, []⟩]
  activateTxids := [⟨parent, 3⟩]

/-- The database after the insertion. -/
def inserted : SenderDb where
  tables := ⟨[⟨1, .cpfp, call.txid, none, none, false, false⟩], [], [],
    [⟨1, parent, 5, none, false, false⟩]⟩
  nextId := 2

/-- A node that has the parent in the block of height 100. -/
def node : SyncRpc where
  getRawTransactionInfo _ txid :=
    if txid = parent then .info (some 1) (some (Vector.replicate 32 8)) else .notFound
  getBlockInfo := (FinalitySample.node 1).getBlockInfo
  getMempoolEntry _ _ := .notFound

/-- The database after the insertion and a synchronisation. -/
def synced : SenderDb :=
  { inserted with tables := (syncTransactionConfirmationsViaRpc node 6 inserted.tables).1 }

theorem run : SenderRun lockTime 6 [⟨1, call⟩] synced :=
  .synced (.inserted .initial rfl rfl) node

end SelectionSample

open SelectionSample

/-- The parent was seen at height 100 and one input waits five blocks for it: the transaction is
selected at height 105, and not before. -/
theorem sendable_only_after_activation_parent :
    SelectionSample.synced.tables.getSendableTxs 1000 104 = .ok [] ∧
      SelectionSample.synced.tables.getSendableTxs 1000 105 = .ok [1] ∧
      SelectionSample.synced.tables.Activated 105 1 SelectionSample.parent 5 := by
  have selected : synced.tables.getSendableTxs 1000 105 = .ok [1] := rfl
  refine ⟨rfl, selected, ?_⟩
  exact (sendable_only_after_activation run 105).1 1000 [1] selected
    ⟨1, call⟩ mem_cons_self mem_cons_self parent
    (by decide)

end TxSender

end Clementine
