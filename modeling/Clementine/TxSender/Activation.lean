import Clementine.BridgeCircuit.Transaction
import Clementine.Lib.ExceptRun
import Clementine.TxSender.Finality

/-!
# Activation of queued transactions

A transaction is queued with explicit prerequisites, and every transaction it spends is one more.
`insert_try_to_send` merges both into one row for each prerequisite, with the largest of its
relative heights; `get_sendable_txs` leaves out a transaction while one of these rows blocks it, and
the tracker decides the same in its own words.
-/

namespace Clementine

open List Prod

namespace TxSender

/-- `relative::LockTime` of the Bitcoin library. -/
inductive RelativeLockTime where
  | blocks (height : UInt16)
  | time (intervals : UInt16)
  deriving DecidableEq

/-- `ActivatedWithTxid`. -/
structure ActivatedWithTxid where
  txid : Bytes32
  relativeBlockHeight : UInt32
  deriving DecidableEq

/-- `max_timelock_of_activated_txids`. -/
abbrev TimelockMap := AList fun _ : Bytes32 => Nat

/-- One step of the merge: the entry of a transaction becomes the larger of both heights. -/
def mergeTimelock (timelocks : TimelockMap) (entry : Bytes32 × Nat) : TimelockMap :=
  match timelocks.lookup entry.1 with
  | none => timelocks.insert entry.1 entry.2
  | some timelock =>
    if timelock < entry.2 then timelocks.insert entry.1 entry.2 else timelocks

def mergeActivated (timelocks : TimelockMap) (activateTxids : List ActivatedWithTxid) :
    TimelockMap :=
  activateTxids.foldl (fun timelocks activated =>
    mergeTimelock timelocks (activated.txid, activated.relativeBlockHeight.toNat)) timelocks

/-- The relative height of an input, where `lockTime` is `Sequence::to_relative_lock_time`. -/
def relativeBlockHeight (lockTime : UInt32 → Option RelativeLockTime) (sequence : UInt32) :
    Except String Nat :=
  match lockTime sequence with
  | none => .ok 0
  | some (.blocks height) => .ok height.toNat
  | some (.time _) => .error "Invalid relative locktime"

def mergeInputs (lockTime : UInt32 → Option RelativeLockTime) :
    TimelockMap → List TxIn → Except String TimelockMap
  | timelocks, [] => .ok timelocks
  | timelocks, input :: rest => do
      let height ← relativeBlockHeight lockTime input.sequence
      mergeInputs lockTime (mergeTimelock timelocks (input.previousOutput.txid, height)) rest

/-- The tables of the sender, with the sequence that numbers its transactions. -/
structure SenderDb where
  tables : ConfirmationDb
  nextId : Nat

/-- The arguments of `insert_try_to_send` that it reads, with the id of the signed transaction. -/
structure InsertCall where
  txid : Bytes32
  feePayingType : FeePayingType
  input : List TxIn
  activateTxids : List ActivatedWithTxid

namespace SenderDb

/-- `check_if_tx_exists_on_txsender`. -/
def checkIfTxExistsOnTxsender (db : SenderDb) (txid : Bytes32) : Option Nat :=
  (db.tables.txs.find? fun row => row.txid = txid).map TryToSendRow.id

/-- `save_tx`; a transaction that is stored keeps its row. -/
def saveTx (db : SenderDb) (feePayingType : FeePayingType) (txid : Bytes32) :
    Except String (SenderDb × Nat) :=
  match db.checkIfTxExistsOnTxsender txid with
  | some id => .ok (db, id)
  | none =>
    if 2 ^ 31 ≤ db.nextId then .error "nextval: reached maximum value of sequence"
    else
      let row : TryToSendRow := ⟨db.nextId, feePayingType, txid, none, none, false, false⟩
      .ok (⟨{ db.tables with txs := db.tables.txs ++ [row] }, db.nextId + 1⟩, db.nextId)

/-- `save_activated_txid`; a row with the same key is kept. -/
def saveActivatedTxid (db : SenderDb) (activatedId : Nat) (txid : Bytes32) (timelock : Nat) :
    Except String SenderDb :=
  if 2 ^ 31 ≤ activatedId then .error "Failed to convert activated id to i32"
  else if 2 ^ 31 ≤ timelock then .error "Failed to convert relative block height to i32"
  else if db.tables.activations.any fun row => row.activatedId = activatedId && row.txid = txid then
    .ok db
  else
    let row : ActivateRow := ⟨activatedId, txid, timelock, none, false, false⟩
    .ok { db with tables := { db.tables with activations := db.tables.activations ++ [row] } }

def saveActivatedTxids (activatedId : Nat) :
    SenderDb → List (Sigma fun _ : Bytes32 => Nat) → Except String SenderDb
  | db, [] => .ok db
  | db, entry :: rest => do
      let later ← db.saveActivatedTxid activatedId entry.1 entry.2
      saveActivatedTxids activatedId later rest

/-- `insert_try_to_send`; an error rolls the transaction of the database back. -/
def insertTryToSend (lockTime : UInt32 → Option RelativeLockTime) (db : SenderDb)
    (call : InsertCall) : Except String (SenderDb × Nat) :=
  match db.checkIfTxExistsOnTxsender call.txid with
  | some tryToSendId => .ok (db, tryToSendId)
  | none => do
      let saved ← db.saveTx call.feePayingType call.txid
      let timelocks ← mergeInputs lockTime (mergeActivated ∅ call.activateTxids) call.input
      let later ← saveActivatedTxids saved.2 saved.1 timelocks.entries
      pure (later, saved.2)

end SenderDb

/-- The condition of `non_active_txs`. -/
def ActivateRow.blocks (tip : Nat) (row : ActivateRow) : Bool :=
  (decide (0 < row.timelock) && match row.seenAtHeight with
    | none => true
    | some seenAtHeight => decide (tip < seenAtHeight + row.timelock)) ||
  (decide (row.timelock = 0) && row.seenAtHeight.isNone && !row.inMempool)

/-- `non_active_txs`. -/
def ConfirmationDb.nonActiveTxs (db : ConfirmationDb) (tip : Nat) : List Nat :=
  (db.activations.filter (ActivateRow.blocks tip)).map ActivateRow.activatedId

/-- `get_sendable_txs`; the fee rate is in satoshis per kilo virtual byte. -/
def ConfirmationDb.getSendableTxs (db : ConfirmationDb) (feeRate : UInt64)
    (currentTipHeight : UInt32) : Except String (List Nat) :=
  if 2 ^ 63 ≤ feeRate.toNat then .error "Failed to convert fee rate to i64"
  else if 2 ^ 31 ≤ currentTipHeight.toNat then
    .error "Failed to convert current tip height to i32"
  else
    .ok ((db.txs.filter fun row =>
      decide (row.id ∉ db.nonActiveTxs currentTipHeight.toNat) && row.seenAtHeight.isNone &&
        !row.inputUnspentTimedOut && (decide (row.feePayingType = .cpfp) ||
          row.effectiveFeeRate.all fun rate => decide (rate < feeRate.toNat))).map
      TryToSendRow.id)

/-! ## The tracker -/

/-- `ActivationTrackingRow`. -/
structure ActivationTrackingRow where
  txid : Bytes32
  timelock : UInt32
  minedAtHeight : Option UInt32
  inMempool : Bool

/-- `ActivationBlockerReason`. -/
inductive ActivationBlockerReason where
  | missing
  | timelocked (minedAtHeight requiredBlocks remainingBlocks : UInt32)
  deriving DecidableEq

/-- `ActivationBlocker`. -/
structure ActivationBlocker where
  txid : Bytes32
  reason : ActivationBlockerReason
  deriving DecidableEq

/-- `ActivationState`. -/
inductive ActivationState where
  | active
  | waiting (blockers : List ActivationBlocker)
  deriving DecidableEq

def u32TryFrom (value : Nat) (message : String) : Except String UInt32 :=
  if value < 2 ^ 32 then .ok (UInt32.ofNat value) else .error message

/-- A row as the tracker reads it. -/
def ActivateRow.track (row : ActivateRow) : Except String ActivationTrackingRow := do
  let timelock ← u32TryFrom row.timelock "Failed to convert timelock to u32"
  match row.seenAtHeight with
  | none => pure ⟨row.txid, timelock, none, row.inMempool⟩
  | some seenAtHeight =>
    let minedAtHeight ← u32TryFrom seenAtHeight "Failed to convert seen_at_height to u32"
    pure ⟨row.txid, timelock, some minedAtHeight, row.inMempool⟩

/-- The rows of a transaction, ordered by the prerequisite. -/
def ConfirmationDb.activationsOf (db : ConfirmationDb) (activatedId : Nat) : List ActivateRow :=
  (db.activations.filter fun row => row.activatedId = activatedId).mergeSort fun left right =>
    decide (left.txid.toList ≤ right.txid.toList)

/-- `list_activation_tracking_rows`. -/
def ConfirmationDb.listActivationTrackingRows (db : ConfirmationDb) (activatedId : Nat) :
    Except String (List ActivationTrackingRow) :=
  if 2 ^ 31 ≤ activatedId then .error "Failed to convert activated_id to i32"
  else (db.activationsOf activatedId).mapM ActivateRow.track

/-- `saturating_add`. -/
def saturatingAdd (left right : UInt32) : UInt32 :=
  if left.toNat + right.toNat < 2 ^ 32 then left + right else 0xFFFFFFFF

/-- The blocker that one row adds. -/
def ActivationTrackingRow.blocker (tip : UInt32) (row : ActivationTrackingRow) :
    Option ActivationBlocker :=
  if row.timelock = 0 then
    if row.minedAtHeight.isNone && !row.inMempool then some ⟨row.txid, .missing⟩ else none
  else
    match row.minedAtHeight with
    | none => some ⟨row.txid, .missing⟩
    | some minedAtHeight =>
      let unlockHeight := saturatingAdd minedAtHeight row.timelock
      if tip < unlockHeight then
        some ⟨row.txid, .timelocked minedAtHeight row.timelock (unlockHeight - tip)⟩
      else none

/-- `build_activation_state`. -/
def ConfirmationDb.buildActivationState (db : ConfirmationDb) (tip : UInt32)
    (tryToSendId : Nat) : Except String ActivationState := do
  let activations ← db.listActivationTrackingRows tryToSendId
  match activations.filterMap (ActivationTrackingRow.blocker tip) with
  | [] => pure .active
  | blocker :: rest => pure (.waiting (blocker :: rest))

/-! ## The merge -/

section Merge

/-- The heights that a list of entries gives for a transaction. -/
def heightsOf (txid : Bytes32) (entries : List (Bytes32 × Nat)) : List Nat :=
  (entries.filter fun entry => entry.1 = txid).map Prod.snd

/-- The largest of the heights. -/
def largestHeight (txid : Bytes32) (entries : List (Bytes32 × Nat)) : Nat :=
  (heightsOf txid entries).foldl max 0

theorem largestHeight_append (txid : Bytes32) (entries : List (Bytes32 × Nat))
    (entry : Bytes32 × Nat) : largestHeight txid (entries ++ [entry]) =
      if entry.1 = txid then max (largestHeight txid entries) entry.2
      else largestHeight txid entries := by
  unfold largestHeight heightsOf
  by_cases same : entry.1 = txid <;> simp [same]

theorem largestHeight_eq_zero {txid : Bytes32} {entries : List (Bytes32 × Nat)}
    (missing : txid ∉ entries.map fst) : largestHeight txid entries = 0 := by
  have none : entries.filter (fun entry => entry.1 = txid) = [] := by
    refine filter_eq_nil_iff.mpr fun entry member same => missing ?_
    exact mem_map.mpr ⟨entry, member, of_decide_eq_true same⟩
  rw [largestHeight, heightsOf, none]
  rfl

theorem lookup_mergeTimelock (timelocks : TimelockMap) (entry : Bytes32 × Nat) (txid : Bytes32) :
    (mergeTimelock timelocks entry).lookup txid =
      if entry.1 = txid then some (max ((timelocks.lookup txid).getD 0) entry.2)
      else timelocks.lookup txid := by
  unfold mergeTimelock
  by_cases same : entry.1 = txid
  · subst same
    rw [if_pos rfl]
    cases stored : timelocks.lookup entry.1 with
    | none => simp [AList.lookup_insert]
    | some timelock =>
      by_cases larger : timelock < entry.2
      · simp [larger, AList.lookup_insert, Nat.max_eq_right (Nat.le_of_lt larger)]
      · simp [larger, stored, Nat.max_eq_left (Nat.le_of_not_lt larger)]
  · rw [if_neg same]
    cases timelocks.lookup entry.1 with
    | none => exact AList.lookup_insert_ne (Ne.symm same)
    | some timelock =>
      simp only
      split
      · exact AList.lookup_insert_ne (Ne.symm same)
      · rfl

/-- The merge holds the largest height of each transaction that has one. -/
theorem lookup_mergeAll (entries : List (Bytes32 × Nat)) (txid : Bytes32) :
    (entries.foldl mergeTimelock ∅).lookup txid =
      if txid ∈ entries.map fst then some (largestHeight txid entries) else none := by
  induction entries using reverseRecOn with
  | nil => rfl
  | append_singleton entries entry ih =>
    rw [foldl_append, foldl_cons, foldl_nil, lookup_mergeTimelock,
      largestHeight_append, map_append, ih]
    by_cases same : entry.1 = txid
    · have member : txid ∈ entries.map fst ++ [entry].map fst :=
        mem_append_right _ (mem_singleton.mpr same.symm)
      rw [if_pos same, if_pos same, if_pos member]
      by_cases earlier : txid ∈ entries.map fst
      · rw [if_pos earlier]
        rfl
      · rw [if_neg earlier, largestHeight_eq_zero earlier]
        rfl
    · rw [if_neg same, if_neg same]
      have last : txid ∉ [entry].map fst := fun member =>
        same (mem_singleton.mp member).symm
      simp only [mem_append, last, or_false]

end Merge

/-! ## What an insertion stores -/

/-- The block-based relative height of an input; other sequences demand nothing. -/
def blockHeightOf (lockTime : UInt32 → Option RelativeLockTime) (sequence : UInt32) : Nat :=
  match lockTime sequence with
  | some (.blocks height) => height.toNat
  | some (.time _) => 0
  | none => 0

/-- All the prerequisites of a call, explicit and from the inputs, with their heights. -/
def InsertCall.demands (call : InsertCall) (lockTime : UInt32 → Option RelativeLockTime) :
    List (Bytes32 × Nat) :=
  (call.activateTxids.map fun activated => (activated.txid, activated.relativeBlockHeight.toNat)) ++
    call.input.map fun input => (input.previousOutput.txid, blockHeightOf lockTime input.sequence)

section Insertion

variable {lockTime : UInt32 → Option RelativeLockTime}

theorem relativeBlockHeight_eq {sequence : UInt32} {height : Nat}
    (done : relativeBlockHeight lockTime sequence = .ok height) :
    height = blockHeightOf lockTime sequence := by
  unfold relativeBlockHeight at done
  unfold blockHeightOf
  generalize lockTime sequence = lock at done ⊢
  rcases lock with _ | blocks | intervals
  · cases done
    rfl
  · cases done
    rfl
  · cases done

theorem mergeInputs_eq {inputs : List TxIn} : ∀ {timelocks merged : TimelockMap},
    mergeInputs lockTime timelocks inputs = .ok merged → merged = (inputs.map fun input =>
        (input.previousOutput.txid, blockHeightOf lockTime input.sequence)).foldl
          mergeTimelock timelocks := by
  induction inputs with
  | nil =>
    intro timelocks merged done
    cases done
    rfl
  | cons input rest ih =>
    intro timelocks merged done
    rw [mergeInputs, ExceptRun.bind_ok_iff] at done
    obtain ⟨height, read, done⟩ := done
    rw [relativeBlockHeight_eq read] at done
    exact ih done

theorem mergeActivated_eq (timelocks : TimelockMap) (activateTxids : List ActivatedWithTxid) :
    mergeActivated timelocks activateTxids = (activateTxids.map fun activated =>
      (activated.txid, activated.relativeBlockHeight.toNat)).foldl mergeTimelock timelocks := by
  rw [foldl_map]
  rfl

theorem merged_eq {call : InsertCall} {merged : TimelockMap}
    (done : mergeInputs lockTime (mergeActivated ∅ call.activateTxids) call.input = .ok merged) :
    merged = (call.demands lockTime).foldl mergeTimelock ∅ := by
  rw [mergeInputs_eq done, mergeActivated_eq, InsertCall.demands, foldl_append]

/-- The row that is stored for an entry of the merge. -/
def activationRow (activatedId : Nat) (entry : Sigma fun _ : Bytes32 => Nat) : ActivateRow :=
  ⟨activatedId, entry.1, entry.2, none, false, false⟩

/-- The database after rows of activations have been stored. -/
structure SenderDb.SavesRows (db later : SenderDb) (rows : List ActivateRow) : Prop where
  txs : later.tables.txs = db.tables.txs
  activations : later.tables.activations = db.tables.activations ++ rows
  nextId : later.nextId = db.nextId
  bounds : ∀ row ∈ rows, row.timelock < 2 ^ 31

theorem SenderDb.saveActivatedTxid_saves {db later : SenderDb} {activatedId timelock : Nat}
    {txid : Bytes32} (done : db.saveActivatedTxid activatedId txid timelock = .ok later)
    (fresh : ∀ row ∈ db.tables.activations, row.activatedId = activatedId → row.txid ≠ txid) :
    db.SavesRows later [activationRow activatedId ⟨txid, timelock⟩] := by
  unfold saveActivatedTxid at done
  split at done
  · cases done
  split at done
  · cases done
  next small =>
  split at done
  next conflict =>
      obtain ⟨row, member, same⟩ := any_eq_true.mp conflict
      rw [Bool.and_eq_true, decide_eq_true_eq, decide_eq_true_eq] at same
      exact absurd same.2 (fresh row member same.1)
  next =>
      cases done
      refine ⟨rfl, rfl, rfl, fun row member => ?_⟩
      rw [mem_singleton.mp member]
      exact Nat.lt_of_not_le small

/-- Under a fresh id no row conflicts, so that every entry is stored. -/
theorem SenderDb.saveActivatedTxids_saves {activatedId : Nat}
    {entries : List (Sigma fun _ : Bytes32 => Nat)} : ∀ {db later : SenderDb},
    saveActivatedTxids activatedId db entries = .ok later → entries.NodupKeys →
      (∀ row ∈ db.tables.activations, row.activatedId = activatedId → row.txid ∉ entries.keys) →
        db.SavesRows later (entries.map (activationRow activatedId)) := by
  induction entries with
  | nil =>
    intro db later done _ _
    cases done
    exact ⟨rfl, (append_nil _).symm, rfl, fun row member => absurd member not_mem_nil⟩
  | cons entry rest ih =>
    intro db later done nodup fresh
    rw [saveActivatedTxids, ExceptRun.bind_ok_iff] at done
    obtain ⟨middle, first, done⟩ := done
    have firstSaves := saveActivatedTxid_saves first fun row member same equal =>
      fresh row member same (equal ▸ mem_cons_self)
    rw [nodupKeys_cons] at nodup
    have restSaves := ih done nodup.2 (by
      intro row member same
      rw [firstSaves.activations] at member
      rcases mem_append.mp member with old | new
      · exact fun inRest => fresh row old same (mem_cons_of_mem _ inRest)
      · rw [mem_singleton.mp new]
        exact nodup.1)
    refine ⟨restSaves.txs.trans firstSaves.txs, ?_, restSaves.nextId.trans firstSaves.nextId, ?_⟩
    · rw [restSaves.activations, firstSaves.activations, append_assoc]
      rfl
    · intro row member
      rcases mem_cons.mp member with rfl | tail
      · exact firstSaves.bounds _ (mem_singleton_self _)
      · exact restSaves.bounds row tail

end Insertion

end TxSender

end Clementine
