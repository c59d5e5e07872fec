import Clementine.TxSender.Confirmations
import Mathlib.Data.List.Forall2

/-!
# Finality of the tracked transactions

Rows are marked as final from what the node has reported, over every history of runs in which the
chain may change between any two calls.  One loop serves the three tables, so that one step and one
run lemma carry them all: a row is left alone, or takes over a status that the node has reported.

The number of confirmations of a block that has left the chain is `-1`, which as an unsigned number
exceeds every finality depth.  A run that asks for the block right after such a reorganisation marks
the row as final for ever.
-/

namespace Clementine

open List Bool

namespace TxSender

/-- What a table says of its rows. -/
structure RowView (Row : Type) where
  tracked : Row → List Bytes32
  seen : Row → Option Nat
  finalized : Row → Bool

/-- The update of a listed row follows the status. -/
structure RowView.Updates {Row : Type} (view : RowView Row) (finality : UInt32)
    (listed : Row → Bool) (update : Row → TxChainStatus → Row) : Prop where
  tracked : ∀ row status, view.tracked (update row status) = view.tracked row
  seen : ∀ row status, view.seen (update row status) = nextSeen status
  finalized : ∀ row status,
    view.finalized (update row status) = nextFinalized finality (view.finalized row) status
  unfinalized : ∀ row, listed row = true → view.finalized row = false

/-- What a run does with one row; `ok` says that the run has ended without an error. -/
inductive RowSync {Row : Type} (rpc : SyncRpc) (view : RowView Row) (listed : Row → Bool)
    (update : Row → TxChainStatus → Row) (ok : Bool) : Row → Row → Prop
  | unlisted {row : Row} (unlisted : listed row = false) : RowSync rpc view listed update ok row row
  | aborted {row : Row} (failed : ok = false) : RowSync rpc view listed update ok row row
  | skipped {row : Row} (empty : view.tracked row = []) : RowSync rpc view listed update ok row row
  | updated {row : Row} {status : TxChainStatus} (isListed : listed row = true)
      (backs : rpc.BacksOne (view.tracked row) status) :
      RowSync rpc view listed update ok row (update row status)

variable {Row : Type} {rpc : SyncRpc} {view : RowView Row}

section Rows

variable {listed : Row → Bool} {status : Caches → Row → Caches × Option (Option TxChainStatus)}
  {update : Row → TxChainStatus → Row}

/-- The loop does with each row what a run may do with it. -/
theorem syncRows_rowSync (statusSound : StatusSound rpc view.tracked status) :
    ∀ {rows : List Row} {caches : Caches}, caches.Sound rpc →
      (syncRows listed status update caches rows).1.Sound rpc ∧ List.Forall₂
          (RowSync rpc view listed update (syncRows listed status update caches rows).2.2) rows
          (syncRows listed status update caches rows).2.1 := by
  intro rows
  induction rows with
  | nil => exact fun sound => ⟨sound, .nil⟩
  | cons row rest ih =>
    intro caches sound
    rw [syncRows]
    by_cases unlisted : listed row = false
    · rw [if_pos unlisted]
      exact ⟨(ih sound).1, .cons (.unlisted unlisted) (ih sound).2⟩
    · rw [if_neg unlisted]
      obtain ⟨laterSound, allowed⟩ := statusSound caches row sound
      rcases asked : status caches row with ⟨later, _ | _ | found⟩
      · rw [asked] at laterSound
        exact ⟨laterSound, forall₂_same.mpr fun _ _ => .aborted rfl⟩
      · rw [asked] at laterSound allowed
        cases allowed none rfl with
        | skipped empty => exact ⟨(ih laterSound).1, .cons (.skipped empty) (ih laterSound).2⟩
      · rw [asked] at laterSound allowed
        cases allowed (some found) rfl with
        | answered backs =>
          exact ⟨(ih laterSound).1,
            .cons (.updated (eq_true_of_not_eq_false unlisted) backs) (ih laterSound).2⟩

end Rows

/-! ## Finality -/

/-- The transaction was reported in a block that then had the confirmations of finality. -/
def SyncRpc.ReachedFinality (rpc : SyncRpc) (finality : UInt32) (txid : Bytes32) : Prop :=
  ∃ block, rpc.Reported txid block ∧ (finality.toNat : Int) ≤ block.confirmations.toInt

/-- No call for a block is answered by one that has left the chain. -/
def SyncRpc.NonNegative (rpc : SyncRpc) : Prop :=
  ∀ time blockhash block, rpc.getBlockInfo time blockhash = some block →
    0 ≤ block.confirmations.toInt

/-- The transaction is not in the chain at any call of the run. -/
def SyncRpc.LeftChain (rpc : SyncRpc) (txid : Bytes32) : Prop :=
  ∀ time confirmations blockhash,
    rpc.getRawTransactionInfo time txid = .info (some confirmations) blockhash → confirmations = 0

/-- Each final row has a tracked transaction that reached finality in one of the runs. -/
def RowView.Backed {Row : Type} (view : RowView Row) (finality : UInt32) (past : List SyncRpc)
    (rows : List Row) : Prop :=
  ∀ row ∈ rows, view.finalized row = true →
    ∃ rpc ∈ past, ∃ txid ∈ view.tracked row, rpc.ReachedFinality finality txid

/-- The rows after a run: a row that was not final and has lost its transactions is not seen. -/
def RowView.Clears {Row : Type} (view : RowView Row) (rpc : SyncRpc) (rows later : List Row) :
    Prop :=
  List.Forall₂ (fun row next => view.tracked next = view.tracked row ∧
    (view.finalized row = false → (∀ txid ∈ view.tracked row, rpc.LeftChain txid) →
      view.seen next = none)) rows later

/-- A non-negative number of confirmations is read unchanged. -/
theorem toNat_toUInt32_of_nonneg {confirmations : Int32} (nonneg : 0 ≤ confirmations.toInt) :
    (confirmations.toUInt32.toNat : Int) = confirmations.toInt := by
  have bits : confirmations.toInt = confirmations.toUInt32.toBitVec.toInt := rfl
  have value : confirmations.toUInt32.toNat = confirmations.toUInt32.toBitVec.toNat := rfl
  have small := confirmations.toUInt32.toBitVec.isLt
  have cond := BitVec.toInt_eq_toNat_cond confirmations.toUInt32.toBitVec
  rw [bits] at nonneg ⊢
  rw [value]
  split at cond
  · exact cond.symm
  · omega

variable {finality : UInt32} {ok : Bool} {past : List SyncRpc}

section Statuses

variable {txids : List Bytes32} {status : TxChainStatus}

/-- A status makes a row final only if a transaction has reached finality. -/
theorem SyncRpc.BacksOne.reachedFinality (backs : rpc.BacksOne txids status)
    (nonNegative : rpc.NonNegative) (final : nextFinalized finality false status = true) :
    ∃ txid ∈ txids, rpc.ReachedFinality finality txid := by
  cases status with
  | confirmed blockHeight confirmations =>
    obtain ⟨txid, member, block, reported, -, same⟩ := backs
    refine ⟨txid, member, block, reported, ?_⟩
    obtain ⟨askedTx, askedBlock, count, blockhash, -, -, blockAnswered⟩ := reported.reported
    have nonneg := nonNegative askedBlock blockhash block blockAnswered
    have deep : finality ≤ confirmations := by
      simpa only [nextFinalized, Bool.false_or, decide_eq_true_eq] using final
    rw [← toNat_toUInt32_of_nonneg nonneg, ← same]
    exact_mod_cast UInt32.le_iff_toNat_le.mp deep
  | inMempool => exact absurd final Bool.false_ne_true
  | notPresent => exact absurd final Bool.false_ne_true

/-- A status of transactions outside the chain clears the height. -/
theorem SyncRpc.BacksOne.nextSeen_eq_none (backs : rpc.BacksOne txids status)
    (left : ∀ txid ∈ txids, rpc.LeftChain txid) : nextSeen status = none := by
  cases status with
  | confirmed blockHeight confirmations =>
    obtain ⟨txid, member, block, reported, -, -⟩ := backs
    obtain ⟨askedTx, askedBlock, count, blockhash, answered, positive, -⟩ := reported.reported
    have zero := left txid member askedTx count _ answered
    rw [zero] at positive
    exact absurd positive (by decide)
  | inMempool => rfl
  | notPresent => rfl

end Statuses

section Tables

variable {listed : Row → Bool} {update : Row → TxChainStatus → Row} {row next : Row}
  {rows later : List Row}

/-- A row is left alone or takes over a status that the node backs. -/
theorem RowSync.eq_or_updated (sync : RowSync rpc view listed update ok row next) :
    next = row ∨ ∃ status, listed row = true ∧ rpc.BacksOne (view.tracked row) status ∧
      next = update row status := by
  cases sync with
  | unlisted _ => exact .inl rfl
  | aborted _ => exact .inl rfl
  | skipped _ => exact .inl rfl
  | updated isListed backs => exact .inr ⟨_, isListed, backs, rfl⟩

theorem RowSync.tracked_eq (updates : view.Updates finality listed update)
    (sync : RowSync rpc view listed update ok row next) : view.tracked next = view.tracked row := by
  rcases sync.eq_or_updated with rfl | ⟨status, -, -, rfl⟩
  · rfl
  · exact updates.tracked row status

/-- A row becomes final only if one of its transactions has reached finality. -/
theorem RowSync.reachedFinality (updates : view.Updates finality listed update)
    (nonNegative : rpc.NonNegative) (sync : RowSync rpc view listed update ok row next)
    (final : view.finalized next = true) :
    view.finalized row = true ∨ ∃ txid ∈ view.tracked row, rpc.ReachedFinality finality txid := by
  rcases sync.eq_or_updated with rfl | ⟨status, isListed, backs, rfl⟩
  · exact .inl final
  · rw [updates.finalized, updates.unfinalized row isListed] at final
    exact .inr (backs.reachedFinality nonNegative final)

/-- A row that has lost its transactions is cleared by a run that ends without an error. -/
theorem RowSync.seen_eq_none (updates : view.Updates finality listed update)
    (sync : RowSync rpc view listed update true row next)
    (unseen : listed row = false → view.finalized row = false → view.seen row = none)
    (tracks : view.tracked row = [] → view.seen row = none)
    (unfinalized : view.finalized row = false)
    (left : ∀ txid ∈ view.tracked row, rpc.LeftChain txid) : view.seen next = none := by
  cases sync with
  | unlisted unlisted => exact unseen unlisted unfinalized
  | aborted failed => cases failed
  | skipped empty => exact tracks empty
  | updated _ backs =>
    rw [updates.seen]
    exact backs.nextSeen_eq_none left

theorem RowView.Backed.sync (backed : view.Backed finality past rows)
    (updates : view.Updates finality listed update) (nonNegative : rpc.NonNegative)
    (synced : List.Forall₂ (RowSync rpc view listed update ok) rows later) :
    view.Backed finality (rpc :: past) later := by
  induction synced with
  | nil => exact fun row member => absurd member not_mem_nil
  | @cons row next rest laterRest sync _ ih =>
    intro found member final
    rcases mem_cons.mp member with rfl | tail
    · rw [sync.tracked_eq updates]
      rcases sync.reachedFinality updates nonNegative final with already | reached
      · obtain ⟨other, isPast, reached⟩ := backed row mem_cons_self already
        exact ⟨other, mem_cons_of_mem _ isPast, reached⟩
      · exact ⟨rpc, mem_cons_self, reached⟩
    · exact ih (fun row member => backed row (mem_cons_of_mem _ member)) found tail final

theorem RowView.clears_of_sync (updates : view.Updates finality listed update)
    (synced : List.Forall₂ (RowSync rpc view listed update true) rows later)
    (unseen : ∀ row ∈ rows, listed row = false → view.finalized row = false → view.seen row = none)
    (tracks : ∀ row ∈ rows, view.tracked row = [] → view.seen row = none) :
    view.Clears rpc rows later := by
  induction synced with
  | nil => exact .nil
  | @cons row next rest laterRest sync _ ih =>
    refine .cons ⟨sync.tracked_eq updates, ?_⟩ (ih ?_ ?_)
    · exact sync.seen_eq_none updates (unseen row mem_cons_self) (tracks row mem_cons_self)
    · exact fun other member => unseen other (mem_cons_of_mem _ member)
    · exact fun other member => tracks other (mem_cons_of_mem _ member)

end Tables

theorem forall₂_exists_of_mem_right {α β : Type} {related : α → β → Prop} {xs : List α}
    {ys : List β} {y : β} (pairs : List.Forall₂ related xs ys) (member : y ∈ ys) :
    ∃ x ∈ xs, related x y := by
  obtain ⟨index, inside, rfl⟩ := getElem_of_mem member
  have insideOld : index < xs.length := by rw [pairs.length_eq]; exact inside
  exact ⟨xs[index], getElem_mem insideOld, pairs.get insideOld inside⟩

theorem forall₂_exists_of_mem_left {α β : Type} {related : α → β → Prop} {xs : List α}
    {ys : List β} {x : α} (pairs : List.Forall₂ related xs ys) (member : x ∈ xs) :
    ∃ y ∈ ys, related x y := by
  obtain ⟨y, isY, holds⟩ := forall₂_exists_of_mem_right pairs.flip member
  exact ⟨y, isY, holds⟩

/-! ## A run over the three tables -/

def ConfirmationDb.txsView (db : ConfirmationDb) : RowView TryToSendRow :=
  ⟨db.tracked, TryToSendRow.seenAtHeight, TryToSendRow.isFinalized⟩

def feePayerView : RowView FeePayerRow :=
  ⟨fun row => [row.feePayerTxid], FeePayerRow.seenAtHeight, FeePayerRow.isFinalized⟩

def activateView : RowView ActivateRow :=
  ⟨fun row => [row.txid], ActivateRow.seenAtHeight, ActivateRow.isFinalized⟩

/-- What a run does with the tables. -/
structure ConfirmationDb.Synced (db : ConfirmationDb) (rpc : SyncRpc) (finality : UInt32)
    (ok : Bool) (later : ConfirmationDb) : Prop where
  txs : List.Forall₂
    (RowSync rpc db.txsView tryToSendListed (updateTryToSend finality) ok) db.txs later.txs
  rbfTxids : later.rbfTxids = db.rbfTxids
  feePayers : List.Forall₂
    (RowSync rpc feePayerView (feePayerListed db.feePayers) (updateFeePayer finality) ok)
    db.feePayers later.feePayers
  activations : List.Forall₂ (RowSync rpc activateView activateListed (updateActivate finality) ok)
    db.activations later.activations

variable {db later : ConfirmationDb} {rows after : List Row}

section Run

variable {update : Row → TxChainStatus → Row} {listed : Row → Bool} {view : RowView Row}

theorem RowSync.of_true (synced : List.Forall₂ (RowSync rpc view listed update true) rows after)
    (ok : Bool) :
    List.Forall₂ (RowSync rpc view listed update ok) rows after := by
  refine synced.imp fun row next sync => ?_
  cases sync with
  | unlisted unlisted => exact .unlisted unlisted
  | aborted failed => cases failed
  | skipped empty => exact .skipped empty
  | updated isListed backs => exact .updated isListed backs

theorem RowSync.untouched (rows : List Row) :
    List.Forall₂ (RowSync rpc view listed update false) rows rows :=
  forall₂_same.mpr fun _ _ => .aborted rfl

theorem syncTransactionConfirmationsViaRpc_synced (rpc : SyncRpc) (finality : UInt32)
    (db : ConfirmationDb) :
    db.Synced rpc finality (syncTransactionConfirmationsViaRpc rpc finality db).2
      (syncTransactionConfirmationsViaRpc rpc finality db).1 := by
  have start : Caches.Sound ⟨0, ∅, ∅⟩ rpc := by
    constructor
    · intro txid status isStatus
      rw [AList.lookup_empty] at isStatus
      cases isStatus
    · intro blockhash block isBlock
      rw [AList.lookup_empty] at isBlock
      cases isBlock
  have txsSync := @syncRows_rowSync _ rpc db.txsView tryToSendListed (tryToSendStatus rpc db)
    (updateTryToSend finality) (tryToSendStatus_sound db) db.txs ⟨0, ∅, ∅⟩ start
  unfold syncTransactionConfirmationsViaRpc
  generalize syncRows tryToSendListed (tryToSendStatus rpc db) (updateTryToSend finality)
    ⟨0, ∅, ∅⟩ db.txs = txs at txsSync
  rcases txs with ⟨caches, txs, _ | _⟩
  · exact ⟨txsSync.2, rfl, RowSync.untouched _, RowSync.untouched _⟩
  · have feeSync := @syncRows_rowSync _ rpc feePayerView (feePayerListed db.feePayers)
      (fun caches row => singleStatus rpc caches row.feePayerTxid) (updateFeePayer finality)
      (fun caches row sound => singleStatus_sound sound row.feePayerTxid) db.feePayers caches
      txsSync.1
    simp only
    generalize syncRows (feePayerListed db.feePayers)
      (fun caches row => singleStatus rpc caches row.feePayerTxid) (updateFeePayer finality)
      caches db.feePayers = feePayers at feeSync
    rcases feePayers with ⟨caches, feePayers, _ | _⟩
    · exact ⟨RowSync.of_true txsSync.2 _, rfl, feeSync.2, RowSync.untouched _⟩
    · have activateSync := @syncRows_rowSync _ rpc activateView activateListed
        (fun caches row => singleStatus rpc caches row.txid) (updateActivate finality)
        (fun caches row sound => singleStatus_sound sound row.txid) db.activations caches
        feeSync.1
      exact ⟨RowSync.of_true txsSync.2 _, rfl, RowSync.of_true feeSync.2 _, activateSync.2⟩

theorem updates_tryToSend (db : ConfirmationDb) (finality : UInt32) :
    db.txsView.Updates finality tryToSendListed (updateTryToSend finality) where
  tracked _ _ := rfl
  seen _ _ := rfl
  finalized _ _ := rfl
  unfinalized row isListed := by
    rw [tryToSendListed, and_eq_true, not_eq_true'] at isListed
    exact isListed.1

theorem updates_feePayer (table : List FeePayerRow) (finality : UInt32) :
    feePayerView.Updates finality (feePayerListed table) (updateFeePayer finality) where
  tracked _ _ := rfl
  seen _ _ := rfl
  finalized _ _ := rfl
  unfinalized row isListed := by
    rw [feePayerListed, and_eq_true, not_eq_true'] at isListed
    exact isListed.1

theorem updates_activate (finality : UInt32) :
    activateView.Updates finality activateListed (updateActivate finality) where
  tracked _ _ := rfl
  seen _ _ := rfl
  finalized _ _ := rfl
  unfinalized row isListed := by
    rw [activateListed, not_eq_true'] at isListed
    exact isListed

end Run

/-! ## Histories of runs -/

/-- The final rows of the three tables have reached finality. -/
structure ConfirmationDb.Backed (db : ConfirmationDb) (finality : UInt32) (past : List SyncRpc) :
    Prop where
  txs : db.txsView.Backed finality past db.txs
  feePayers : feePayerView.Backed finality past db.feePayers
  activations : activateView.Backed finality past db.activations

/-- The rows of the three tables that have lost their transactions are cleared. -/
structure ConfirmationDb.Clears (db : ConfirmationDb) (rpc : SyncRpc) (later : ConfirmationDb) :
    Prop where
  txs : db.txsView.Clears rpc db.txs later.txs
  feePayers : feePayerView.Clears rpc db.feePayers later.feePayers
  activations : activateView.Clears rpc db.activations later.activations

/-- A fee payer recorded as seen is not hidden by a final transaction of its group. -/
def ConfirmationDb.GroupsListed (db : ConfirmationDb) : Prop :=
  ∀ row ∈ db.feePayers, row.isFinalized = false → row.seenAtHeight ≠ none →
    feePayerListed db.feePayers row = true

/-- Rows are new, and neither seen nor final, or keep both marks and what they track. -/
def RowView.Carries {Row : Type} (view laterView : RowView Row) (rows later : List Row) : Prop :=
  ∀ row ∈ later, laterView.seen row = none ∧ laterView.finalized row = false ∨
    ∃ old ∈ rows, view.tracked old ⊆ laterView.tracked row ∧
      laterView.seen row = view.seen old ∧ laterView.finalized row = view.finalized old

/-- What the rest of the sender does between runs: rows are inserted, deleted and changed, but no
row is marked as seen or final.  Only a transaction selected for sending, which is not seen, times
out. -/
structure ConfirmationDb.Changes (db later : ConfirmationDb) : Prop where
  txs : db.txsView.Carries later.txsView db.txs later.txs
  timedOut : ∀ row ∈ later.txs, row.inputUnspentTimedOut = true → row.seenAtHeight = none ∨
    ∃ old ∈ db.txs, old.inputUnspentTimedOut = true ∧ row.seenAtHeight = old.seenAtHeight
  feePayers : feePayerView.Carries feePayerView db.feePayers later.feePayers
  activations : activateView.Carries activateView db.activations later.activations

/-- The tables after a history of runs, with the node of each run. -/
inductive ConfirmationRun (finality : UInt32) : List SyncRpc → ConfirmationDb → Prop
  | initial : ConfirmationRun finality [] ⟨[], [], [], []⟩
  | changed {past : List SyncRpc} {db later : ConfirmationDb}
      (run : ConfirmationRun finality past db) (changes : db.Changes later) :
      ConfirmationRun finality past later
  | synced {past : List SyncRpc} {db : ConfirmationDb} (run : ConfirmationRun finality past db)
      (rpc : SyncRpc) : ConfirmationRun finality (rpc :: past)
        (syncTransactionConfirmationsViaRpc rpc finality db).1

/-- What holds after every history. -/
structure ConfirmationDb.Invariant (db : ConfirmationDb) (finality : UInt32)
    (past : List SyncRpc) : Prop where
  backed : db.Backed finality past
  tracks : ∀ row ∈ db.txs, db.tracked row = [] → row.seenAtHeight = none
  timedOut : ∀ row ∈ db.txs, row.inputUnspentTimedOut = true → row.seenAtHeight = none

section History

theorem RowView.Backed.carry {view laterView : RowView Row}
    (backed : view.Backed finality past rows) (carries : view.Carries laterView rows after) :
    laterView.Backed finality past after := by
  intro row member final
  rcases carries row member with ⟨-, unfinalized⟩ | ⟨old, isOld, tracked, -, same⟩
  · rw [unfinalized] at final
    cases final
  · obtain ⟨rpc, isPast, txid, isTracked, reached⟩ := backed old isOld (same ▸ final)
    exact ⟨rpc, isPast, txid, tracked isTracked, reached⟩

theorem ConfirmationDb.Synced.tracked_eq (synced : db.Synced rpc finality ok later)
    (row : TryToSendRow) : later.tracked row = db.tracked row := by
  unfold ConfirmationDb.tracked ConfirmationDb.rbfTxidsOf
  rw [synced.rbfTxids]

theorem ConfirmationDb.Synced.txsView_eq (synced : db.Synced rpc finality ok later) :
    later.txsView = db.txsView := by
  unfold ConfirmationDb.txsView
  rw [funext synced.tracked_eq]

theorem ConfirmationDb.Invariant.sync (inv : db.Invariant finality past)
    (nonNegative : rpc.NonNegative) (synced : db.Synced rpc finality ok later) :
    later.Invariant finality (rpc :: past) where
  backed := by
    refine ⟨?_, ?_, ?_⟩
    · rw [synced.txsView_eq]
      exact inv.backed.txs.sync (updates_tryToSend db finality) nonNegative synced.txs
    · exact inv.backed.feePayers.sync (updates_feePayer db.feePayers finality) nonNegative
        synced.feePayers
    · exact inv.backed.activations.sync (updates_activate finality) nonNegative synced.activations
  tracks row member empty := by
    rw [synced.tracked_eq] at empty
    obtain ⟨old, isOld, sync⟩ := forall₂_exists_of_mem_right synced.txs member
    have trackedOld : db.tracked old = [] :=
      (sync.tracked_eq (updates_tryToSend db finality)).symm.trans empty
    rcases sync.eq_or_updated with rfl | ⟨status, -, backs, rfl⟩
    · exact inv.tracks row isOld trackedOld
    · refine backs.nextSeen_eq_none fun txid isTracked => ?_
      rw [show db.txsView.tracked old = [] from trackedOld] at isTracked
      cases isTracked
  timedOut row member timedOut := by
    obtain ⟨old, isOld, sync⟩ := forall₂_exists_of_mem_right synced.txs member
    rcases sync.eq_or_updated with rfl | ⟨status, isListed, -, rfl⟩
    · exact inv.timedOut row isOld timedOut
    · -- a row that has timed out is not listed
      have kept : old.inputUnspentTimedOut = true := timedOut
      rw [tryToSendListed, kept, Bool.not_true, Bool.and_false] at isListed
      cases isListed

theorem ConfirmationDb.Invariant.change (inv : db.Invariant finality past)
    (changes : db.Changes later) : later.Invariant finality past where
  backed := ⟨inv.backed.txs.carry changes.txs, inv.backed.feePayers.carry changes.feePayers,
    inv.backed.activations.carry changes.activations⟩
  tracks row member empty := by
    rcases changes.txs row member with ⟨unseen, -⟩ | ⟨old, isOld, tracked, same, -⟩
    · exact unseen
    · have trackedOld : db.tracked old = [] := by
        refine eq_nil_of_subset_nil ?_
        rw [← empty]
        exact tracked
      exact same.trans (inv.tracks old isOld trackedOld)
  timedOut row member timedOut := by
    rcases changes.timedOut row member timedOut with unseen | ⟨old, isOld, oldTimedOut, same⟩
    · exact unseen
    · rw [same]
      exact inv.timedOut old isOld oldTimedOut

/-- The invariant holds after every history in which no block that has left the chain was read. -/
theorem ConfirmationRun.invariant (run : ConfirmationRun finality past db) :
    (∀ rpc ∈ past, rpc.NonNegative) → db.Invariant finality past := by
  induction run with
  | initial =>
    intro _
    refine ⟨⟨?_, ?_, ?_⟩, ?_, ?_⟩
    all_goals exact fun row member => absurd member not_mem_nil
  | changed _ changes ih => exact fun nonNegative => (ih nonNegative).change changes
  | synced _ rpc ih =>
    intro nonNegative
    exact (ih fun other member => nonNegative other (mem_cons_of_mem _ member)).sync
      (nonNegative rpc mem_cons_self)
      (syncTransactionConfirmationsViaRpc_synced rpc finality _)

theorem ConfirmationDb.Invariant.clears (inv : db.Invariant finality past)
    (synced : db.Synced rpc finality true later) (groups : db.GroupsListed) :
    db.Clears rpc later where
  txs := by
    refine RowView.clears_of_sync (updates_tryToSend db finality) synced.txs ?_ inv.tracks
    intro row member unlisted unfinalized
    have notFinal : row.isFinalized = false := unfinalized
    rw [tryToSendListed, notFinal, Bool.not_false, Bool.true_and, not_eq_false'] at unlisted
    exact inv.timedOut row member unlisted
  feePayers := by
    refine RowView.clears_of_sync (updates_feePayer db.feePayers finality) synced.feePayers ?_ ?_
    · intro row member unlisted unfinalized
      by_contra seen
      rw [groups row member unfinalized seen] at unlisted
      cases unlisted
    · intro row _ empty
      cases empty
  activations := by
    refine RowView.clears_of_sync (updates_activate finality) synced.activations ?_ ?_
    · intro row _ unlisted unfinalized
      have notFinal : row.isFinalized = false := unfinalized
      rw [activateListed, notFinal] at unlisted
      cases unlisted
    · intro row _ empty
      cases empty

end History

/-- Over every history of runs in which no answer for a block is negative, a row is final only if a
transaction it tracks was in a block with the confirmations of finality.  A further run that ends
without an error clears the height of every row that is not final and has lost its transactions. -/
theorem final_rows_reached_finality {finality : UInt32} {past : List SyncRpc} {db : ConfirmationDb}
    (run : ConfirmationRun finality past db) (nonNegative : ∀ rpc ∈ past, rpc.NonNegative) :
    db.Backed finality past ∧ ∀ rpc : SyncRpc, db.GroupsListed →
      (syncTransactionConfirmationsViaRpc rpc finality db).2 = true →
        db.Clears rpc (syncTransactionConfirmationsViaRpc rpc finality db).1 := by
  have inv := run.invariant nonNegative
  refine ⟨inv.backed, fun rpc groups ended => ?_⟩
  have synced := syncTransactionConfirmationsViaRpc_synced rpc finality db
  rw [ended] at synced
  exact inv.clears synced groups

/-! ## A reorganisation between two calls -/

namespace FinalitySample

/-- A queued transaction that is not seen. -/
def row : TryToSendRow :=
  ⟨1, .cpfp, Vector.replicate 32 1, none, none, false, false⟩

/-- A node that reports the transaction in a block, and then the block's confirmations. -/
def node (confirmations : Int32) : SyncRpc where
  getRawTransactionInfo _ _ := .info (some 1) (some (Vector.replicate 32 2))
  getBlockInfo _ _ := some ⟨100, confirmations⟩
  getMempoolEntry _ _ := .notFound

theorem run (confirmations : Int32) : ConfirmationRun 6 [node confirmations]
    (syncTransactionConfirmationsViaRpc (node confirmations) 6 ⟨[row], [], [], []⟩).1 := by
  refine .synced (.changed .initial ⟨?_, ?_, ?_, ?_⟩) (node confirmations)
  · intro other member
    rw [mem_singleton.mp member]
    exact .inl ⟨rfl, rfl⟩
  · intro other member _
    rw [mem_singleton.mp member]
    exact .inl rfl
  · exact fun row member => absurd member not_mem_nil
  · exact fun row member => absurd member not_mem_nil

end FinalitySample

open FinalitySample

/-- The block leaves the chain between the two calls: its `-1` confirmations make the row final,
although no transaction was ever in a block with six. -/
theorem departed_block_makes_final : ConfirmationRun 6 [FinalitySample.node (-1)]
        (syncTransactionConfirmationsViaRpc (FinalitySample.node (-1)) 6
          ⟨[FinalitySample.row], [], [], []⟩).1 ∧
      ((syncTransactionConfirmationsViaRpc (FinalitySample.node (-1)) 6
          ⟨[FinalitySample.row], [], [], []⟩).1.txs.map TryToSendRow.isFinalized) = [true] ∧
      ∀ txid, ¬ (FinalitySample.node (-1)).ReachedFinality 6 txid := by
  refine ⟨run (-1), by decide, ?_⟩
  rintro txid ⟨block, reported, deep⟩
  obtain ⟨_, _, _, _, -, -, answered⟩ := reported.reported
  cases answered
  exact absurd deep (by decide)

/-- A block with six confirmations makes the row final. -/
theorem final_rows_reached_finality_six : (∀ rpc ∈ [FinalitySample.node 6], rpc.NonNegative) ∧
      ((syncTransactionConfirmationsViaRpc (FinalitySample.node 6) 6
          ⟨[FinalitySample.row], [], [], []⟩).1.txs.map TryToSendRow.isFinalized) = [true] ∧
      ConfirmationDb.Backed (syncTransactionConfirmationsViaRpc (FinalitySample.node 6) 6
        ⟨[FinalitySample.row], [], [], []⟩).1 6 [FinalitySample.node 6] := by
  have nonNegative : ∀ rpc ∈ [node 6], rpc.NonNegative := by
    intro rpc member time blockhash block answered
    rw [mem_singleton.mp member] at answered
    cases answered
    decide
  exact ⟨nonNegative, by decide, (final_rows_reached_finality (run 6) nonNegative).1⟩

end TxSender

end Clementine
