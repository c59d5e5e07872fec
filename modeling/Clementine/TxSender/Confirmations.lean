import Clementine.TxSender.FeePayers
import Mathlib.Data.List.AList

/-!
# Confirmations of the tracked transactions

A run of `sync_transaction_confirmations_via_rpc` asks the node for the status of every tracked
transaction: first for the transaction, then for its block.  The chain may change between any two
calls, so the answers depend on the time of the call.  The number of confirmations of a block is a
signed number, negative for a block that has left the chain, and is read as an unsigned one.
-/

namespace Clementine

namespace TxSender

/-- `TxChainStatus`. -/
inductive TxChainStatus where
  | confirmed (blockHeight : Fin (2 ^ 31)) (confirmations : UInt32)
  | inMempool
  | notPresent
  deriving DecidableEq

/-- The answer to `get_raw_transaction_info`. -/
inductive RawTxAnswer where
  | info (confirmations : Option UInt32) (blockhash : Option Bytes32)
  | notFound
  | failed

/-- The fields of `get_block_info` that are read. -/
structure BlockInfoAnswer where
  height : Fin (2 ^ 31)
  confirmations : Int32

/-- The answer to `get_mempool_entry`. -/
inductive MempoolCheck where
  | present
  | notFound
  | failed

/-- What the node answers to the call at each time; `none` is an error. -/
structure SyncRpc where
  getRawTransactionInfo : Nat → Bytes32 → RawTxAnswer
  getBlockInfo : Nat → Bytes32 → Option BlockInfoAnswer
  getMempoolEntry : Nat → Bytes32 → MempoolCheck

/-- The caches of a run, and the number of calls so far. -/
structure Caches where
  time : Nat
  txStatus : AList fun _ : Bytes32 => TxChainStatus
  blockInfo : AList fun _ : Bytes32 => Fin (2 ^ 31) × UInt32

/-- The block of a transaction, from the cache or from the node. -/
def getBlockCached (rpc : SyncRpc) (caches : Caches) (blockhash : Bytes32) :
    Caches × Option (Fin (2 ^ 31) × UInt32) :=
  match caches.blockInfo.lookup blockhash with
  | some block => (caches, some block)
  | none =>
    match rpc.getBlockInfo caches.time blockhash with
    | none => ({ caches with time := caches.time + 1 }, none)
    | some blockInfo =>
      ({ caches with
        time := caches.time + 1
        blockInfo := caches.blockInfo.insert blockhash
          (blockInfo.height, blockInfo.confirmations.toUInt32) },
        some (blockInfo.height, blockInfo.confirmations.toUInt32))

/-- The status of a transaction that is asked for, before it is cached. -/
def askTxStatus (rpc : SyncRpc) (caches : Caches) (txid : Bytes32) :
    Caches × Option TxChainStatus :=
  match rpc.getRawTransactionInfo caches.time txid with
  | .failed => ({ caches with time := caches.time + 1 }, none)
  | .notFound => ({ caches with time := caches.time + 1 }, some .notPresent)
  | .info confirmations blockhash =>
    if 0 < confirmations.getD 0 then
      match blockhash with
      | none => ({ caches with time := caches.time + 1 }, none)
      | some blockhash =>
        match getBlockCached rpc { caches with time := caches.time + 1 } blockhash with
        | (caches, none) => (caches, none)
        | (caches, some block) => (caches, some (.confirmed block.1 block.2))
    else
      match rpc.getMempoolEntry (caches.time + 1) txid with
      | .present => ({ caches with time := caches.time + 2 }, some .inMempool)
      | .notFound => ({ caches with time := caches.time + 2 }, some .notPresent)
      | .failed => ({ caches with time := caches.time + 2 }, none)

/-- `get_tx_status_cached`; `none` ends the run with an error. -/
def getTxStatusCached (rpc : SyncRpc) (caches : Caches) (txid : Bytes32) :
    Caches × Option TxChainStatus :=
  match caches.txStatus.lookup txid with
  | some status => (caches, some status)
  | none =>
    match askTxStatus rpc caches txid with
    | (caches, none) => (caches, none)
    | (caches, some status) =>
      ({ caches with txStatus := caches.txStatus.insert txid status }, some status)

/-! ## The tables -/

/-- `FeePayingType`. -/
inductive FeePayingType where
  | cpfp
  | rbf
  | rbfWtxidGrind
  | noFunding
  deriving DecidableEq

/-- The columns of `tx_sender_try_to_send_txs` that a run and a selection read and write. -/
structure TryToSendRow where
  id : Nat
  feePayingType : FeePayingType
  txid : Bytes32
  effectiveFeeRate : Option Nat
  seenAtHeight : Option Nat
  isFinalized : Bool
  inputUnspentTimedOut : Bool
  deriving DecidableEq

/-- A row of `tx_sender_activate_try_to_send_txids`. -/
structure ActivateRow where
  activatedId : Nat
  txid : Bytes32
  timelock : Nat
  seenAtHeight : Option Nat
  inMempool : Bool
  isFinalized : Bool
  deriving DecidableEq

/-- The tables of the run; the RBF transactions newest first. -/
structure ConfirmationDb where
  txs : List TryToSendRow
  rbfTxids : List (Nat × Bytes32)
  feePayers : List FeePayerRow
  activations : List ActivateRow

/-- `seen_at_height` after a status: it is set to the block, or cleared. -/
def nextSeen : TxChainStatus → Option Nat
  | .confirmed blockHeight _ => some blockHeight
  | .inMempool => none
  | .notPresent => none

/-- `is_finalized` after a status. -/
def nextFinalized (finality : UInt32) (isFinalized : Bool) : TxChainStatus → Bool
  | .confirmed _ confirmations => isFinalized || decide (finality ≤ confirmations)
  | .inMempool => isFinalized
  | .notPresent => isFinalized

/-- The loop over the listed rows of a table.  A status of `none` skips the row; an error ends the
run and leaves the later rows as they are. -/
def syncRows {Row : Type} (listed : Row → Bool)
    (status : Caches → Row → Caches × Option (Option TxChainStatus))
    (update : Row → TxChainStatus → Row) : Caches → List Row → Caches × List Row × Bool
  | caches, [] => (caches, [], true)
  | caches, row :: rest =>
    if listed row = false then
      let later := syncRows listed status update caches rest
      (later.1, row :: later.2.1, later.2.2)
    else match status caches row with
      | (caches, none) => (caches, row :: rest, false)
      | (caches, some none) =>
        let later := syncRows listed status update caches rest
        (later.1, row :: later.2.1, later.2.2)
      | (caches, some (some status')) =>
        let later := syncRows listed status update caches rest
        (later.1, update row status' :: later.2.1, later.2.2)

/-- The first confirmed transaction among the RBF transactions of a row. -/
def rbfStatus (rpc : SyncRpc) : Caches → List Bytes32 → Caches × Option TxChainStatus
  | caches, [] => (caches, some .notPresent)
  | caches, txid :: rest =>
    match getTxStatusCached rpc caches txid with
    | (caches, none) => (caches, none)
    | (caches, some (.confirmed blockHeight confirmations)) =>
      (caches, some (.confirmed blockHeight confirmations))
    | (caches, some .inMempool) => rbfStatus rpc caches rest
    | (caches, some .notPresent) => rbfStatus rpc caches rest

/-- `list_rbf_txids_for_ids` for one row. -/
def ConfirmationDb.rbfTxidsOf (db : ConfirmationDb) (id : Nat) : List Bytes32 :=
  (db.rbfTxids.filter fun entry => entry.1 = id).map Prod.snd

/-- The transactions of a row whose confirmation counts. -/
def ConfirmationDb.tracked (db : ConfirmationDb) (row : TryToSendRow) : List Bytes32 :=
  match row.feePayingType with
  | .cpfp => [row.txid]
  | .noFunding => [row.txid]
  | .rbf => db.rbfTxidsOf row.id
  | .rbfWtxidGrind => db.rbfTxidsOf row.id

/-- The status of one transaction. -/
def singleStatus (rpc : SyncRpc) (caches : Caches) (txid : Bytes32) :
    Caches × Option (Option TxChainStatus) :=
  let asked := getTxStatusCached rpc caches txid
  (asked.1, asked.2.map some)

/-- The status of a row sent with RBF; without a sent transaction there is nothing to confirm. -/
def rbfRowStatus (rpc : SyncRpc) (caches : Caches) :
    List Bytes32 → Caches × Option (Option TxChainStatus)
  | [] => (caches, some none)
  | txid :: rest =>
    let asked := rbfStatus rpc caches (txid :: rest)
    (asked.1, asked.2.map some)

/-- The status of a row of `tx_sender_try_to_send_txs`. -/
def tryToSendStatus (rpc : SyncRpc) (db : ConfirmationDb) (caches : Caches) (row : TryToSendRow) :
    Caches × Option (Option TxChainStatus) :=
  match row.feePayingType with
  | .cpfp => singleStatus rpc caches row.txid
  | .noFunding => singleStatus rpc caches row.txid
  | .rbf => rbfRowStatus rpc caches (db.rbfTxidsOf row.id)
  | .rbfWtxidGrind => rbfRowStatus rpc caches (db.rbfTxidsOf row.id)

/-- `list_unfinalized_try_to_send_txs`. -/
def tryToSendListed (row : TryToSendRow) : Bool :=
  !row.isFinalized && !row.inputUnspentTimedOut

/-- `list_unfinalized_activate_txids`. -/
def activateListed (row : ActivateRow) : Bool :=
  !row.isFinalized

/-- `list_unfinalized_fee_payer_utxos`. -/
def feePayerListed (table : List FeePayerRow) (row : FeePayerRow) : Bool :=
  !row.isFinalized && !(table.any fun other => other.parentId = row.parentId && other.isFinalized)

def updateTryToSend (finality : UInt32) (row : TryToSendRow) (status : TxChainStatus) :
    TryToSendRow :=
  { row with
    seenAtHeight := nextSeen status
    isFinalized := nextFinalized finality row.isFinalized status }

def updateFeePayer (finality : UInt32) (row : FeePayerRow) (status : TxChainStatus) :
    FeePayerRow :=
  { row with
    seenAtHeight := nextSeen status
    isFinalized := nextFinalized finality row.isFinalized status }

/-- A row that was confirmed keeps its flag of the mempool, which is false since then. -/
def updateActivate (finality : UInt32) (row : ActivateRow) (status : TxChainStatus) :
    ActivateRow :=
  { row with
    seenAtHeight := nextSeen status
    isFinalized := nextFinalized finality row.isFinalized status
    inMempool := match row.seenAtHeight, status with
      | some _, .inMempool => row.inMempool
      | some _, .notPresent => row.inMempool
      | none, .inMempool => true
      | none, .notPresent => false
      | _, .confirmed _ _ => false }

/-- `sync_transaction_confirmations_via_rpc`: the tables, and whether the run ended without an
error.  Every write is committed at once. -/
def syncTransactionConfirmationsViaRpc (rpc : SyncRpc) (finality : UInt32) (db : ConfirmationDb) :
    ConfirmationDb × Bool :=
  let txs := syncRows tryToSendListed (tryToSendStatus rpc db)
    (updateTryToSend finality) ⟨0, ∅, ∅⟩ db.txs
  let db := { db with txs := txs.2.1 }
  if txs.2.2 = false then (db, false)
  else
    let feePayers := syncRows (feePayerListed db.feePayers)
      (fun caches row => singleStatus rpc caches row.feePayerTxid) (updateFeePayer finality)
      txs.1 db.feePayers
    let db := { db with feePayers := feePayers.2.1 }
    if feePayers.2.2 = false then (db, false)
    else
      let activations := syncRows activateListed
        (fun caches row => singleStatus rpc caches row.txid) (updateActivate finality)
        feePayers.1 db.activations
      ({ db with activations := activations.2.1 }, activations.2.2)

/-! ## What the node has reported -/

/-- The transaction was reported in a block that then had these confirmations. -/
structure SyncRpc.Reported (rpc : SyncRpc) (txid : Bytes32) (block : BlockInfoAnswer) : Prop where
  reported : ∃ askedTx askedBlock confirmations blockhash,
    rpc.getRawTransactionInfo askedTx txid = .info (some confirmations) (some blockhash) ∧
      0 < confirmations ∧ rpc.getBlockInfo askedBlock blockhash = some block

/-- A status is what the node has reported. -/
def SyncRpc.Backs (rpc : SyncRpc) (txid : Bytes32) : TxChainStatus → Prop
  | .confirmed blockHeight confirmations => ∃ block, rpc.Reported txid block ∧
      blockHeight = block.height ∧ confirmations = block.confirmations.toUInt32
  | .inMempool => True
  | .notPresent => True

/-- The caches hold only what the node has reported. -/
structure Caches.Sound (caches : Caches) (rpc : SyncRpc) : Prop where
  txStatus : ∀ txid status, caches.txStatus.lookup txid = some status → rpc.Backs txid status
  blockInfo : ∀ blockhash block, caches.blockInfo.lookup blockhash = some block →
    ∃ asked info, rpc.getBlockInfo asked blockhash = some info ∧
      block = (info.height, info.confirmations.toUInt32)

section Status

variable {rpc : SyncRpc} {caches : Caches}

theorem Caches.Sound.later (sound : caches.Sound rpc) (time : Nat) :
    Caches.Sound { caches with time := time } rpc :=
  ⟨sound.txStatus, sound.blockInfo⟩

theorem getBlockCached_sound (sound : caches.Sound rpc) (blockhash : Bytes32) :
    (getBlockCached rpc caches blockhash).1.Sound rpc ∧
      ∀ block ∈ (getBlockCached rpc caches blockhash).2,
        ∃ asked info, rpc.getBlockInfo asked blockhash = some info ∧
          block = (info.height, info.confirmations.toUInt32) := by
  unfold getBlockCached
  cases cached : caches.blockInfo.lookup blockhash with
  | some block =>
    refine ⟨sound, ?_⟩
    intro other same
    cases same
    exact sound.blockInfo blockhash block cached
  | none =>
    cases answered : rpc.getBlockInfo caches.time blockhash with
    | none => exact ⟨sound.later _, fun block isBlock => by cases isBlock⟩
    | some info =>
      have own : ∃ asked found, rpc.getBlockInfo asked blockhash = some found ∧
          (info.height, info.confirmations.toUInt32) =
            (found.height, found.confirmations.toUInt32) :=
        ⟨caches.time, info, answered, rfl⟩
      refine ⟨⟨sound.txStatus, ?_⟩, fun block isBlock => by cases isBlock; exact own⟩
      intro other block isBlock
      by_cases same : other = blockhash
      · subst same
        rw [AList.lookup_insert] at isBlock
        cases isBlock
        exact own
      · rw [AList.lookup_insert_ne same] at isBlock
        exact sound.blockInfo other block isBlock

theorem askTxStatus_sound (sound : caches.Sound rpc) (txid : Bytes32) :
    (askTxStatus rpc caches txid).1.Sound rpc ∧
      ∀ status ∈ (askTxStatus rpc caches txid).2, rpc.Backs txid status := by
  have none_backs : ∀ status ∈ (none : Option TxChainStatus), rpc.Backs txid status :=
    fun status isStatus => by cases isStatus
  unfold askTxStatus
  cases answered : rpc.getRawTransactionInfo caches.time txid with
  | failed => exact ⟨sound.later _, none_backs⟩
  | notFound => exact ⟨sound.later _, fun status isStatus => by cases isStatus; trivial⟩
  | info confirmations blockhash =>
    simp only
    by_cases positive : 0 < confirmations.getD 0
    · rw [if_pos positive]
      cases confirmations with
      | none => exact absurd positive (by decide)
      | some confirmations =>
        cases blockhash with
        | none => exact ⟨sound.later _, none_backs⟩
        | some blockhash =>
          obtain ⟨laterSound, backed⟩ :=
            getBlockCached_sound (sound.later (caches.time + 1)) blockhash
          simp only
          rcases asked : getBlockCached rpc { caches with time := caches.time + 1 } blockhash
            with ⟨later, _ | block⟩
          · rw [asked] at laterSound
            exact ⟨laterSound, none_backs⟩
          · rw [asked] at laterSound backed
            refine ⟨laterSound, fun status isStatus => ?_⟩
            cases isStatus
            obtain ⟨asked, info, blockAnswered, same⟩ := backed block rfl
            refine ⟨info, ⟨caches.time, asked, confirmations, blockhash, answered, positive,
              blockAnswered⟩, ?_, ?_⟩
            · rw [same]
            · rw [same]
    · rw [if_neg positive]
      split
      · exact ⟨sound.later _, fun status isStatus => by cases isStatus; trivial⟩
      · exact ⟨sound.later _, fun status isStatus => by cases isStatus; trivial⟩
      · exact ⟨sound.later _, none_backs⟩

/-- A status from the cache or from the node is backed, and the caches stay sound. -/
theorem getTxStatusCached_sound (sound : caches.Sound rpc) (txid : Bytes32) :
    (getTxStatusCached rpc caches txid).1.Sound rpc ∧
      ∀ status ∈ (getTxStatusCached rpc caches txid).2, rpc.Backs txid status := by
  unfold getTxStatusCached
  cases cached : caches.txStatus.lookup txid with
  | some status =>
    refine ⟨sound, fun other same => ?_⟩
    cases same
    exact sound.txStatus txid status cached
  | none =>
    obtain ⟨laterSound, backed⟩ := askTxStatus_sound sound txid
    simp only
    rcases asked : askTxStatus rpc caches txid with ⟨later, _ | status⟩
    · rw [asked] at laterSound
      exact ⟨laterSound, fun status isStatus => by cases isStatus⟩
    · rw [asked] at laterSound backed
      have own := backed status rfl
      refine ⟨⟨?_, laterSound.blockInfo⟩, fun other same => by cases same; exact own⟩
      intro other found isFound
      by_cases same : other = txid
      · subst same
        rw [AList.lookup_insert] at isFound
        cases isFound
        exact own
      · rw [AList.lookup_insert_ne same] at isFound
        exact laterSound.txStatus other found isFound

/-- One of these transactions backs a status. -/
def SyncRpc.BacksOne (rpc : SyncRpc) (txids : List Bytes32) : TxChainStatus → Prop
  | .confirmed blockHeight confirmations =>
    ∃ txid ∈ txids, rpc.Backs txid (.confirmed blockHeight confirmations)
  | .inMempool => True
  | .notPresent => True

variable {status : TxChainStatus}

theorem SyncRpc.Backs.one {txid : Bytes32} (backs : rpc.Backs txid status) :
    rpc.BacksOne [txid] status := by
  cases status with
  | confirmed blockHeight confirmations => exact ⟨txid, List.mem_singleton_self txid, backs⟩
  | inMempool => trivial
  | notPresent => trivial

theorem SyncRpc.BacksOne.mono {txids more : List Bytes32} (subset : txids ⊆ more)
    (backs : rpc.BacksOne txids status) : rpc.BacksOne more status := by
  cases status with
  | confirmed blockHeight confirmations =>
    obtain ⟨txid, member, backs⟩ := backs
    exact ⟨txid, subset member, backs⟩
  | inMempool => trivial
  | notPresent => trivial

theorem rbfStatus_sound {txids : List Bytes32} :
    ∀ {caches : Caches}, caches.Sound rpc → (rbfStatus rpc caches txids).1.Sound rpc ∧
      ∀ status ∈ (rbfStatus rpc caches txids).2, rpc.BacksOne txids status := by
  induction txids with
  | nil =>
    intro caches sound
    exact ⟨sound, fun status isStatus => by cases isStatus; trivial⟩
  | cons txid rest ih =>
    intro caches sound
    obtain ⟨laterSound, backed⟩ := getTxStatusCached_sound sound txid
    have rest_sound : ∀ {later : Caches}, later.Sound rpc →
        (rbfStatus rpc later rest).1.Sound rpc ∧ ∀ status ∈ (rbfStatus rpc later rest).2,
          rpc.BacksOne (txid :: rest) status := by
      intro later laterSound
      obtain ⟨endSound, restBacked⟩ := ih laterSound
      exact ⟨endSound, fun status isStatus =>
        (restBacked status isStatus).mono (List.subset_cons_self txid rest)⟩
    rw [rbfStatus]
    rcases asked : getTxStatusCached rpc caches txid with ⟨later, _ | status⟩
    · rw [asked] at laterSound
      exact ⟨laterSound, fun status isStatus => by cases isStatus⟩
    · rw [asked] at laterSound backed
      cases status with
      | confirmed blockHeight confirmations =>
        refine ⟨laterSound, fun other same => ?_⟩
        cases same
        exact ⟨txid, List.mem_cons_self, backed _ rfl⟩
      | inMempool => exact rest_sound laterSound
      | notPresent => exact rest_sound laterSound

/-- What the node allows a run to find for a row: a row is skipped only if it tracks nothing. -/
inductive SyncRpc.Allows (rpc : SyncRpc) (txids : List Bytes32) : Option TxChainStatus → Prop
  | skipped (empty : txids = []) : rpc.Allows txids none
  | answered {status : TxChainStatus} (backs : rpc.BacksOne txids status) :
      rpc.Allows txids (some status)

/-- The status of a row keeps the caches sound and is allowed for the transactions it tracks. -/
def StatusSound {Row : Type} (rpc : SyncRpc) (tracked : Row → List Bytes32)
    (status : Caches → Row → Caches × Option (Option TxChainStatus)) : Prop :=
  ∀ caches row, caches.Sound rpc → (status caches row).1.Sound rpc ∧
    ∀ answer ∈ (status caches row).2, rpc.Allows (tracked row) answer

theorem singleStatus_sound (sound : caches.Sound rpc) (txid : Bytes32) :
    (singleStatus rpc caches txid).1.Sound rpc ∧
      ∀ answer ∈ (singleStatus rpc caches txid).2, rpc.Allows [txid] answer := by
  obtain ⟨laterSound, backed⟩ := getTxStatusCached_sound sound txid
  refine ⟨laterSound, fun answer isAnswer => ?_⟩
  obtain ⟨status, isStatus, rfl⟩ := Option.map_eq_some_iff.mp isAnswer
  exact .answered (backed status isStatus).one

theorem rbfRowStatus_sound (sound : caches.Sound rpc) (txids : List Bytes32) :
    (rbfRowStatus rpc caches txids).1.Sound rpc ∧
      ∀ answer ∈ (rbfRowStatus rpc caches txids).2, rpc.Allows txids answer := by
  cases txids with
  | nil => exact ⟨sound, fun answer isAnswer => by cases isAnswer; exact .skipped rfl⟩
  | cons txid rest =>
    obtain ⟨laterSound, backed⟩ := @rbfStatus_sound rpc (txid :: rest) caches sound
    refine ⟨laterSound, fun answer isAnswer => ?_⟩
    obtain ⟨status, isStatus, rfl⟩ := Option.map_eq_some_iff.mp isAnswer
    exact .answered (backed status isStatus)

theorem tryToSendStatus_sound (db : ConfirmationDb) :
    StatusSound rpc db.tracked (tryToSendStatus rpc db) := by
  intro caches row sound
  unfold tryToSendStatus ConfirmationDb.tracked
  cases row.feePayingType with
  | cpfp => exact singleStatus_sound sound row.txid
  | noFunding => exact singleStatus_sound sound row.txid
  | rbf => exact rbfRowStatus_sound sound _
  | rbfWtxidGrind => exact rbfRowStatus_sound sound _

end Status

end TxSender

end Clementine
