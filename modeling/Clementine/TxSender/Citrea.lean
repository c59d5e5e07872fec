import Clementine.Common.Basic
import Mathlib.Data.List.Nodup
import Mathlib.Data.List.Basic

/-!
# The queue of Citrea payloads

`send_citrea_tx` queues a payload as a group of rows: one row, or the chunks of a long batch proof
and a row for their aggregate.  A payload whose first body is in the queue already is not queued
again; the group of the row with that body is returned, whatever its kind and its other rows are.
So the returned group carries the payload exactly if the request that created the group of its
first body, if there is one, has queued the same payload.
-/

namespace Clementine

open List

namespace Citrea

/-- `TransactionKind`. -/
inductive TransactionKind where
  | complete
  | aggregate
  | chunks
  | batchProofMethodId
  | sequencerCommitment
  | unknown (kind : UInt16)
  deriving DecidableEq

/-- `CitreaTxRequest`. -/
inductive CitreaTxRequest where
  | batchProof (bytes : List UInt8) (chunkSize : Option UInt32)
  | batchProofMethodId (body : List UInt8)
  | sequencerCommitment (body : List UInt8)
  deriving DecidableEq

/-- The columns of `tx_sender_citrea_raw_tx_queue` that inserting a payload writes. -/
structure CitreaRawTxRow where
  id : Nat
  insertionId : Nat
  transactionKind : TransactionKind
  body : Option (List UInt8)
  bodyHash : Option Bytes32
  deriving DecidableEq

/-- The table, and the sequence of the insertion ids. -/
structure CitreaQueue where
  rows : List CitreaRawTxRow
  nextInsertionId : Nat
  deriving DecidableEq

inductive SendError where
  | tooLarge (text : String)
  /-- Chunks vector cannot be empty. -/
  | noChunks
  /-- The constraint `UNIQUE (body_hash)`. -/
  | uniqueViolation
  deriving DecidableEq

/-- The two variants of `DataOnDa` that are written here. -/
inductive DataOnDa where
  | complete (proof : List UInt8)
  | chunk (bytes : List UInt8)

/-- A `Vec<u8>` as Borsh writes it. -/
def borshVec (bytes : List UInt8) : List UInt8 :=
  u32LeBytes (UInt32.ofNat bytes.length) ++ bytes

/-- `borsh::to_vec` of a `DataOnDa`. -/
def DataOnDa.toVec : DataOnDa → List UInt8
  | complete proof => 0 :: borshVec proof
  | chunk bytes => 2 :: borshVec bytes

/-- The bytes of a chunk, read back. -/
def decodeChunk : List UInt8 → Option (List UInt8)
  | 2 :: rest =>
    if (rest.drop 4).length < 2 ^ 32 ∧ borshVec (rest.drop 4) = rest then some (rest.drop 4)
    else none
  | _ => none

/-- `slice::chunks`, with enough fuel. -/
def chunksFrom (size : Nat) : Nat → List UInt8 → List (List UInt8)
  | 0, _ => []
  | _ + 1, [] => []
  | fuel + 1, byte :: bytes =>
    (byte :: bytes).take size :: chunksFrom size fuel ((byte :: bytes).drop size)

def chunks (size : Nat) (bytes : List UInt8) : List (List UInt8) :=
  chunksFrom size bytes.length bytes

/-- `MAX_CHUNK_SIZE`. -/
def maxChunkSize : UInt32 := 390000

/-- The chunk size of a batch proof. -/
def effectiveChunkSize (chunkSize : Option UInt32) : Nat :=
  let chunkSize := chunkSize.getD maxChunkSize
  let chunkSize := if chunkSize = 0 then maxChunkSize else chunkSize
  let chunkSize := if maxChunkSize < chunkSize then maxChunkSize else chunkSize
  chunkSize.toNat

section Queue

variable (sha256 : Sha256)

/-- `insert_citrea_raw_tx_single_with_status`.  The insertion id is drawn before the conflict is
found. -/
def insertCitreaRawTxSingleWithStatus (queue : CitreaQueue) (kind : TransactionKind)
    (body : List UInt8) : CitreaQueue × Nat × Bool :=
  match queue.rows.find? fun row => row.bodyHash = some (sha256 body) with
  | some existing =>
    (⟨queue.rows.map fun row =>
        if row.bodyHash = some (sha256 body) then { row with body := some body } else row,
      queue.nextInsertionId + 1⟩, existing.insertionId, false)
  | none =>
    (⟨queue.rows ++ [⟨queue.rows.length + 1, queue.nextInsertionId, kind, some body,
      some (sha256 body)⟩], queue.nextInsertionId + 1⟩, queue.nextInsertionId, true)

/-- `insert_citrea_raw_tx_single`. -/
def insertCitreaRawTxSingle (queue : CitreaQueue) (kind : TransactionKind) (body : List UInt8) :
    CitreaQueue × Nat :=
  let inserted := insertCitreaRawTxSingleWithStatus sha256 queue kind body
  (inserted.1, inserted.2.1)

/-- The remaining chunks of `insert_citrea_raw_tx_chunks`. -/
def insertChunks (insertionId : Nat) : CitreaQueue → List (List UInt8) →
    Except SendError CitreaQueue
  | queue, [] => .ok queue
  | queue, chunk :: rest =>
    if queue.rows.any fun row => row.bodyHash = some (sha256 chunk) then .error .uniqueViolation
    else insertChunks insertionId { queue with
      rows := queue.rows ++ [⟨queue.rows.length + 1, insertionId, .chunks, some chunk,
        some (sha256 chunk)⟩] } rest

/-- The aggregate row of `insert_citrea_raw_tx_chunks`. -/
def insertAggregate (insertionId : Nat) (queue : CitreaQueue) : CitreaQueue :=
  if queue.rows.any fun row =>
      row.insertionId = insertionId && row.transactionKind = .aggregate then queue
  else { queue with
    rows := queue.rows ++ [⟨queue.rows.length + 1, insertionId, .aggregate, none, none⟩] }

/-- `insert_citrea_raw_tx_chunks`. -/
def insertCitreaRawTxChunks (queue : CitreaQueue) (chunks : List (List UInt8)) :
    Except SendError (CitreaQueue × Nat) :=
  match chunks with
  | [] => .error .noChunks
  | first :: rest =>
    let inserted := insertCitreaRawTxSingleWithStatus sha256 queue .chunks first
    if inserted.2.2 = false then .ok (inserted.1, inserted.2.1)
    else do
      let queue ← insertChunks sha256 inserted.2.1 inserted.1 rest
      return (insertAggregate inserted.2.1 queue, inserted.2.1)

/-- The length check of the requests with a body, which compares the length as a `u32`. -/
def bodyTooLarge (body : List UInt8) : Prop := maxChunkSize.toNat < body.length % 2 ^ 32

instance (body : List UInt8) : Decidable (bodyTooLarge body) :=
  inferInstanceAs (Decidable (maxChunkSize.toNat < body.length % 2 ^ 32))

/-- `TxSenderClient::send_citrea_tx`: the table and the insertion id. -/
def sendCitreaTx (queue : CitreaQueue) : CitreaTxRequest → Except SendError (CitreaQueue × Nat)
  | .batchProof bytes chunkSize =>
    if bytes.length ≤ effectiveChunkSize chunkSize then
      .ok (insertCitreaRawTxSingle sha256 queue .complete (DataOnDa.complete bytes).toVec)
    else insertCitreaRawTxChunks sha256 queue
      ((chunks (effectiveChunkSize chunkSize) bytes).map fun chunk =>
        (DataOnDa.chunk chunk).toVec)
  | .batchProofMethodId body =>
    if bodyTooLarge body then
      .error (.tooLarge "Citrea BatchProofMethodId DA payload body too large; max 390000 bytes")
    else .ok (insertCitreaRawTxSingle sha256 queue .batchProofMethodId body)
  | .sequencerCommitment body =>
    if bodyTooLarge body then
      .error (.tooLarge "Citrea SequencerCommitment DA payload body too large; max 390000 bytes")
    else .ok (insertCitreaRawTxSingle sha256 queue .sequencerCommitment body)

end Queue

/-- `get_citrea_rows_by_insertion_id`: kind and body of the rows, in the order of the ids. -/
def CitreaQueue.group (queue : CitreaQueue) (insertionId : Nat) :
    List (TransactionKind × Option (List UInt8)) :=
  (queue.rows.filter fun row => row.insertionId = insertionId).map fun row =>
    (row.transactionKind, row.body)

/-! ## What a request asks for -/

namespace CitreaTxRequest

/-- The rows that a request queues where none of its bodies is known. -/
def rows : CitreaTxRequest → List (TransactionKind × Option (List UInt8))
  | batchProof bytes chunkSize =>
    if bytes.length ≤ effectiveChunkSize chunkSize then
      [(.complete, some (DataOnDa.complete bytes).toVec)]
    else ((chunks (effectiveChunkSize chunkSize) bytes).map fun chunk =>
      (.chunks, some (DataOnDa.chunk chunk).toVec)) ++ [(.aggregate, none)]
  | batchProofMethodId body => [(.batchProofMethodId, some body)]
  | sequencerCommitment body => [(.sequencerCommitment, some body)]

/-- The bodies of these rows. -/
def bodies (request : CitreaTxRequest) : List (List UInt8) :=
  request.rows.filterMap Prod.snd

/-- The rows carry exactly the payload: the row of the request, or chunks whose decoded bytes are
those of the request, and an aggregate row. -/
def CarriedBy (rows : List (TransactionKind × Option (List UInt8))) : CitreaTxRequest → Prop
  | batchProof bytes chunkSize =>
    if bytes.length ≤ effectiveChunkSize chunkSize then
      rows = [(.complete, some (DataOnDa.complete bytes).toVec)]
    else ∃ (chunkRows : List (TransactionKind × Option (List UInt8)))
      (parts : List (List UInt8)), rows = chunkRows ++ [(.aggregate, none)] ∧
        (∀ row ∈ chunkRows, row.1 = .chunks) ∧
        chunkRows.map (fun row => row.2.bind decodeChunk) = parts.map some ∧
        parts.flatten = bytes
  | batchProofMethodId body => rows = [(.batchProofMethodId, some body)]
  | sequencerCommitment body => rows = [(.sequencerCommitment, some body)]

end CitreaTxRequest

/-! ## Chunks -/

theorem drop_u32LeBytes_append (value : UInt32) (bytes : List UInt8) :
    (u32LeBytes value ++ bytes).drop 4 = bytes := by
  rw [drop_append_of_le_length (by simp)]
  simp [drop_of_length_le]

@[simp] theorem decodeChunk_toVec {bytes : List UInt8} (short : bytes.length < 2 ^ 32) :
    decodeChunk (DataOnDa.chunk bytes).toVec = some bytes := by
  have dropped : (borshVec bytes).drop 4 = bytes := drop_u32LeBytes_append _ _
  simp only [DataOnDa.toVec, decodeChunk, dropped]
  exact if_pos ⟨short, trivial⟩

theorem effectiveChunkSize_pos (chunkSize : Option UInt32) :
    0 < effectiveChunkSize chunkSize ∧ effectiveChunkSize chunkSize ≤ 390000 := by
  unfold effectiveChunkSize
  generalize chunkSize.getD maxChunkSize = size
  simp only
  split
  · decide
  · rename_i nonzero
    split
    · decide
    · rename_i small
      have positive : size.toNat ≠ 0 := fun zero => nonzero (UInt32.toNat_inj.mp zero)
      have bounded : size.toNat ≤ maxChunkSize.toNat := Nat.le_of_not_lt small
      exact ⟨Nat.pos_of_ne_zero positive, bounded⟩

theorem flatten_chunksFrom {size : Nat} (positive : 0 < size) :
    ∀ {fuel : Nat} {bytes : List UInt8}, bytes.length ≤ fuel →
      (chunksFrom size fuel bytes).flatten = bytes := by
  intro fuel
  induction fuel with
  | zero =>
    intro bytes short
    rw [length_eq_zero_iff.mp (Nat.le_zero.mp short)]
    rfl
  | succ fuel ih =>
    intro bytes short
    cases bytes with
    | nil => rfl
    | cons byte bytes =>
      rw [chunksFrom, flatten_cons, ih, take_append_drop]
      rw [length_drop]
      omega

theorem length_le_of_mem_chunksFrom {size : Nat} {chunk : List UInt8} :
    ∀ {fuel : Nat} {bytes : List UInt8}, chunk ∈ chunksFrom size fuel bytes →
      chunk.length ≤ size := by
  intro fuel
  induction fuel with
  | zero => exact fun {bytes} member => by cases member
  | succ fuel ih =>
    intro bytes member
    cases bytes with
    | nil => cases member
    | cons byte bytes =>
      rw [chunksFrom] at member
      rcases mem_cons.mp member with rfl | member
      · exact length_take_le _ _
      · exact ih member

/-- The rows that a request queues carry its payload. -/
theorem CitreaTxRequest.carriedBy_rows (request : CitreaTxRequest) :
    request.CarriedBy request.rows := by
  cases request with
  | batchProof bytes chunkSize =>
    obtain ⟨positive, bounded⟩ := effectiveChunkSize_pos chunkSize
    simp only [CarriedBy, rows]
    by_cases short : bytes.length ≤ effectiveChunkSize chunkSize
    · rw [if_pos short, if_pos short]
    · rw [if_neg short, if_neg short]
      refine ⟨_, chunks (effectiveChunkSize chunkSize) bytes, rfl, ?_, ?_, ?_⟩
      · intro row member
        obtain ⟨chunk, _, rfl⟩ := mem_map.mp member
        rfl
      · rw [map_map]
        apply map_congr_left
        intro chunk member
        have length := length_le_of_mem_chunksFrom member
        exact decodeChunk_toVec (by omega)
      · exact flatten_chunksFrom positive (Nat.le_refl _)
  | batchProofMethodId body => rfl
  | sequencerCommitment body => rfl

/-! ## One call -/

/-- The insertion id, the kind and the body of a row. -/
def CitreaRawTxRow.content (row : CitreaRawTxRow) :
    Nat × TransactionKind × Option (List UInt8) :=
  (row.insertionId, row.transactionKind, row.body)

variable {request : CitreaTxRequest} {rest : List (TransactionKind × Option (List UInt8))}
  {body : List UInt8} {kind : TransactionKind} {insertionId : Nat} {queue queue' : CitreaQueue}
  {sha256 : Sha256}

section Calls

/-- Rows that a call appends. -/
structure Appends (sha256 : Sha256) (queue queue' : CitreaQueue) (insertionId : Nat)
    (rows : List (TransactionKind × Option (List UInt8))) : Prop where
  added : ∃ added, queue'.rows = queue.rows ++ added ∧
    added.map CitreaRawTxRow.content = rows.map (fun row => (insertionId, row)) ∧
    ∀ row ∈ added, row.bodyHash = row.body.map sha256
  distinct : (queue.rows.filterMap CitreaRawTxRow.bodyHash).Nodup →
    (queue'.rows.filterMap CitreaRawTxRow.bodyHash).Nodup

/-- One row with a new hash. -/
theorem Appends.single {next : Nat} {id : Nat}
    (new : ∀ row ∈ queue.rows, row.bodyHash ≠ some (sha256 body)) :
    Appends sha256 queue ⟨queue.rows ++ [⟨id, insertionId, kind, some body,
      some (sha256 body)⟩], next⟩ insertionId [(kind, some body)] := by
  refine ⟨⟨_, rfl, rfl, ?_⟩, ?_⟩
  · intro row member
    rw [mem_singleton.mp member]
    rfl
  · intro distinct
    rw [filterMap_append]
    refine distinct.append (nodup_singleton _) ?_
    intro hash member memberNew
    obtain ⟨row, memberRow, isHash⟩ := mem_filterMap.mp member
    rw [mem_singleton.mp memberNew] at isHash
    exact new row memberRow isHash

theorem Appends.trans {queue'' : CitreaQueue}
    {first second : List (TransactionKind × Option (List UInt8))}
    (one : Appends sha256 queue queue' insertionId first)
    (two : Appends sha256 queue' queue'' insertionId second) :
    Appends sha256 queue queue'' insertionId (first ++ second) := by
  obtain ⟨added, rows, contents, hashed⟩ := one.added
  obtain ⟨added', rows', contents', hashed'⟩ := two.added
  refine ⟨⟨added ++ added', ?_, ?_, ?_⟩, two.distinct ∘ one.distinct⟩
  · rw [rows', rows, append_assoc]
  · rw [map_append, contents, contents', map_append]
  · intro row member
    rcases mem_append.mp member with member | member
    · exact hashed row member
    · exact hashed' row member

theorem insertChunks_eq_ok {chunks : List (List UInt8)} :
    ∀ {queue queue' : CitreaQueue}, insertChunks sha256 insertionId queue chunks = .ok queue' →
      Appends sha256 queue queue' insertionId (chunks.map fun chunk => (.chunks, some chunk)) ∧
        queue'.nextInsertionId = queue.nextInsertionId := by
  induction chunks with
  | nil =>
    intro queue queue' inserted
    cases inserted
    exact ⟨⟨⟨[], by simp, rfl, by simp⟩, id⟩, rfl⟩
  | cons chunk rest ih =>
    intro queue queue' inserted
    rw [insertChunks] at inserted
    split at inserted
    · cases inserted
    · rename_i unknown
      obtain ⟨later, next⟩ := ih inserted
      have new : ∀ row ∈ queue.rows, row.bodyHash ≠ some (sha256 chunk) := by
        intro row member same
        exact unknown (any_eq_true.mpr ⟨row, member, decide_eq_true same⟩)
      exact ⟨(Appends.single new).trans later, next⟩

theorem insertAggregate_appends (none_yet : ∀ row ∈ queue.rows, row.insertionId = insertionId →
      row.transactionKind ≠ .aggregate) :
    Appends sha256 queue (insertAggregate insertionId queue) insertionId [(.aggregate, none)] ∧
      (insertAggregate insertionId queue).nextInsertionId = queue.nextInsertionId := by
  unfold insertAggregate
  rw [if_neg]
  · refine ⟨⟨⟨_, rfl, rfl, ?_⟩, ?_⟩, rfl⟩
    · intro row member
      rw [mem_singleton.mp member]
      rfl
    · intro distinct
      rw [filterMap_append]
      simpa using distinct
  · intro exists_
    obtain ⟨row, member, conditions⟩ := any_eq_true.mp exists_
    simp only [Bool.and_eq_true, decide_eq_true_eq] at conditions
    exact none_yet row member conditions.1 conditions.2

/-- What a successful call does: it finds a row with the first body of the request, or appends
the rows of the request as a new group. -/
inductive SendOutcome (sha256 : Sha256) (queue : CitreaQueue) (request : CitreaTxRequest)
    (queue' : CitreaQueue) (insertionId : Nat) (body : List UInt8) : Prop
  | found (existing : CitreaRawTxRow) (member : existing ∈ queue.rows)
      (hash : existing.bodyHash = some (sha256 body)) (id : insertionId = existing.insertionId)
      (rows : queue'.rows = queue.rows.map fun row =>
        if row.bodyHash = some (sha256 body) then { row with body := some body } else row)
      (next : queue'.nextInsertionId = queue.nextInsertionId + 1)
  | appended (new : ∀ row ∈ queue.rows, row.bodyHash ≠ some (sha256 body))
      (id : insertionId = queue.nextInsertionId)
      (appends : Appends sha256 queue queue' insertionId request.rows)
      (next : queue'.nextInsertionId = queue.nextInsertionId + 1)

/-- The rows of a batch proof with more than one chunk. -/
theorem rows_batchProof {bytes : List UInt8} {chunkSize : Option UInt32}
    (long : ¬ bytes.length ≤ effectiveChunkSize chunkSize) :
    (CitreaTxRequest.batchProof bytes chunkSize).rows =
      (((chunks (effectiveChunkSize chunkSize) bytes).map fun chunk =>
        (DataOnDa.chunk chunk).toVec).map fun chunk => (.chunks, some chunk)) ++
        [(.aggregate, none)] := by
  rw [map_map]
  exact if_neg long

theorem outcome_of_single (rows : request.rows = [(kind, some body)])
    (inserted : insertCitreaRawTxSingle sha256 queue kind body = (queue', insertionId)) :
    SendOutcome sha256 queue request queue' insertionId body := by
  unfold insertCitreaRawTxSingle insertCitreaRawTxSingleWithStatus at inserted
  cases found : queue.rows.find? fun row => row.bodyHash = some (sha256 body) with
  | some existing =>
    rw [found] at inserted
    cases inserted
    have same := find?_some found
    exact .found existing (mem_of_find?_eq_some found) (of_decide_eq_true same) rfl rfl rfl
  | none =>
    rw [found] at inserted
    cases inserted
    have new : ∀ row ∈ queue.rows, row.bodyHash ≠ some (sha256 body) := fun row member same =>
      find?_eq_none.mp found row member (decide_eq_true same)
    refine .appended new rfl ?_ rfl
    rw [rows]
    exact .single new

theorem outcome_of_chunks {first : List UInt8} {rest : List (List UInt8)} (rows : request.rows =
      ((first :: rest).map fun chunk => (TransactionKind.chunks, some chunk)) ++
        [(.aggregate, none)]) (fresh : ∀ row ∈ queue.rows, row.insertionId < queue.nextInsertionId)
    (inserted : insertCitreaRawTxChunks sha256 queue (first :: rest) = .ok (queue', insertionId)) :
    SendOutcome sha256 queue request queue' insertionId first := by
  unfold insertCitreaRawTxChunks insertCitreaRawTxSingleWithStatus at inserted
  cases found : queue.rows.find? fun row => row.bodyHash = some (sha256 first) with
  | some existing =>
    simp only [found, if_true] at inserted
    cases inserted
    have same := find?_some found
    exact .found existing (mem_of_find?_eq_some found) (of_decide_eq_true same) rfl rfl rfl
  | none =>
    simp only [found, Bool.true_eq_false, if_false] at inserted
    have new : ∀ row ∈ queue.rows, row.bodyHash ≠ some (sha256 first) := fun row member same =>
      find?_eq_none.mp found row member (decide_eq_true same)
    cases later : insertChunks sha256 queue.nextInsertionId
        ⟨queue.rows ++ [⟨queue.rows.length + 1, queue.nextInsertionId, .chunks, some first,
          some (sha256 first)⟩], queue.nextInsertionId + 1⟩ rest with
    | error error =>
      rw [later] at inserted
      cases inserted
    | ok chunked =>
      rw [later] at inserted
      cases inserted
      obtain ⟨chunkAppends, next⟩ := insertChunks_eq_ok later
      have both := (Appends.single new).trans chunkAppends
      have noAggregate : ∀ row ∈ chunked.rows, row.insertionId = queue.nextInsertionId →
          row.transactionKind ≠ .aggregate := by
        intro row member same
        obtain ⟨added, allRows, contents, _⟩ := both.added
        rw [allRows] at member
        rcases mem_append.mp member with old | new
        · exact absurd same (Nat.ne_of_lt (fresh row old))
        · have content := mem_map_of_mem (f := CitreaRawTxRow.content) new
          rw [contents] at content
          obtain ⟨kindBody, memberRows, sameContent⟩ := mem_map.mp content
          have kind : row.transactionKind = kindBody.1 :=
            (congrArg (fun content => content.2.1) sameContent).symm
          rw [kind]
          rcases mem_append.mp memberRows with single | chunk
          · rw [mem_singleton.mp single]
            simp
          · obtain ⟨_, _, rfl⟩ := mem_map.mp chunk
            simp
      have last : Appends sha256 chunked (insertAggregate queue.nextInsertionId chunked)
          queue.nextInsertionId [(.aggregate, none)] ∧ _ :=
        insertAggregate_appends noAggregate
      obtain ⟨aggregate, nextAggregate⟩ := last
      refine .appended new rfl ?_ (nextAggregate.trans next)
      rw [rows]
      have all := both.trans aggregate
      simpa using all

/-- Every request has a first body. -/
theorem CitreaTxRequest.exists_first (request : CitreaTxRequest) :
    ∃ kind body rest, request.rows = (kind, some body) :: rest := by
  cases request with
  | batchProof bytes chunkSize =>
    simp only [rows]
    split
    · exact ⟨_, _, _, rfl⟩
    · rename_i long
      cases bytes with
      | nil => exact absurd (Nat.zero_le _) long
      | cons byte bytes => exact ⟨_, _, _, rfl⟩
  | batchProofMethodId body => exact ⟨_, _, _, rfl⟩
  | sequencerCommitment body => exact ⟨_, _, _, rfl⟩

theorem sendCitreaTx_eq_ok (first : request.rows = (kind, some body) :: rest)
    (fresh : ∀ row ∈ queue.rows, row.insertionId < queue.nextInsertionId)
    (sent : sendCitreaTx sha256 queue request = .ok (queue', insertionId)) :
    SendOutcome sha256 queue request queue' insertionId body := by
  cases request with
  | batchProof bytes chunkSize =>
    simp only [sendCitreaTx] at sent
    by_cases short : bytes.length ≤ effectiveChunkSize chunkSize
    · rw [if_pos short] at sent
      have rows : (CitreaTxRequest.batchProof bytes chunkSize).rows =
          [(.complete, some (DataOnDa.complete bytes).toVec)] := if_pos short
      rw [rows] at first
      cases first
      exact outcome_of_single rows (Except.ok.inj sent)
    · rw [if_neg short] at sent
      have rows := rows_batchProof short
      cases bodies : (chunks (effectiveChunkSize chunkSize) bytes).map fun chunk =>
          (DataOnDa.chunk chunk).toVec with
      | nil =>
        rw [bodies] at sent
        cases sent
      | cons firstChunk later =>
        rw [bodies] at sent rows
        rw [rows] at first
        cases first
        exact outcome_of_chunks rows fresh sent
  | batchProofMethodId large =>
    cases first
    simp only [sendCitreaTx] at sent
    split at sent
    · cases sent
    · exact outcome_of_single rfl (Except.ok.inj sent)
  | sequencerCommitment large =>
    cases first
    simp only [sendCitreaTx] at sent
    split at sent
    · cases sent
    · exact outcome_of_single rfl (Except.ok.inj sent)

end Calls

/-! ## The groups of a history -/

section History

variable {groups : List (Nat × CitreaTxRequest)}

/-- The table consists of the groups of these requests, oldest first. -/
structure Grouped (sha256 : Sha256) (queue : CitreaQueue)
    (groups : List (Nat × CitreaTxRequest)) : Prop where
  contents : queue.rows.map CitreaRawTxRow.content =
    groups.flatMap fun entry => entry.2.rows.map fun row => (entry.1, row)
  ids : (groups.map Prod.fst).Nodup
  fresh : ∀ entry ∈ groups, entry.1 < queue.nextInsertionId
  hashed : ∀ row ∈ queue.rows, row.bodyHash = row.body.map sha256
  distinct : (queue.rows.filterMap CitreaRawTxRow.bodyHash).Nodup

/-- Rows of one hash are one row. -/
theorem eq_of_nodup_filterMap {α β : Type} {f : α → Option β} {value : β} {xs : List α} :
    ∀ {x y : α}, (xs.filterMap f).Nodup → x ∈ xs → y ∈ xs → f x = some value →
      f y = some value → x = y := by
  induction xs with
  | nil => exact fun _ member => by cases member
  | cons first rest ih =>
    intro x y distinct memberX memberY atX atY
    have inRest : ∀ {z}, z ∈ rest → f z = some value → value ∈ rest.filterMap f :=
      fun member at_ => mem_filterMap.mpr ⟨_, member, at_⟩
    cases atFirst : f first with
    | none =>
      rw [filterMap_cons_none atFirst] at distinct
      rcases mem_cons.mp memberX with rfl | memberX
      · rw [atFirst] at atX
        cases atX
      · rcases mem_cons.mp memberY with rfl | memberY
        · rw [atFirst] at atY
          cases atY
        · exact ih distinct memberX memberY atX atY
    | some other =>
      rw [filterMap_cons_some atFirst, nodup_cons] at distinct
      rcases mem_cons.mp memberX with rfl | laterX
      · rcases mem_cons.mp memberY with rfl | laterY
        · rfl
        · rw [atFirst] at atX
          cases atX
          exact absurd (inRest laterY atY) distinct.1
      · rcases mem_cons.mp memberY with rfl | laterY
        · rw [atFirst] at atY
          cases atY
          exact absurd (inRest laterX atX) distinct.1
        · exact ih distinct.2 laterX laterY atX atY

namespace Grouped

theorem mem_content (grouped : Grouped sha256 queue groups) {row : CitreaRawTxRow}
    (member : row ∈ queue.rows) :
    ∃ entry ∈ groups, row.insertionId = entry.1 ∧
      (row.transactionKind, row.body) ∈ entry.2.rows := by
  have content := mem_map_of_mem (f := CitreaRawTxRow.content) member
  rw [grouped.contents] at content
  obtain ⟨entry, memberEntry, inEntry⟩ := mem_flatMap.mp content
  obtain ⟨kindBody, memberRow, same⟩ := mem_map.mp inEntry
  obtain ⟨sameId, rfl⟩ := Prod.mk.inj same
  exact ⟨entry, memberEntry, sameId.symm, memberRow⟩

variable {entry : Nat × CitreaTxRequest}

theorem exists_row (grouped : Grouped sha256 queue groups) (memberEntry : entry ∈ groups)
    {kindBody : TransactionKind × Option (List UInt8)} (memberRow : kindBody ∈ entry.2.rows) :
    ∃ row ∈ queue.rows, row.insertionId = entry.1 ∧ (row.transactionKind, row.body) = kindBody := by
  have content : (entry.1, kindBody) ∈ queue.rows.map CitreaRawTxRow.content := by
    rw [grouped.contents]
    exact mem_flatMap.mpr ⟨entry, memberEntry, mem_map.mpr ⟨kindBody, memberRow, rfl⟩⟩
  obtain ⟨row, member, same⟩ := mem_map.mp content
  obtain ⟨sameId, sameRow⟩ := Prod.mk.inj same
  exact ⟨row, member, sameId, sameRow⟩

theorem row_fresh (grouped : Grouped sha256 queue groups) :
    ∀ row ∈ queue.rows, row.insertionId < queue.nextInsertionId := by
  intro row member
  obtain ⟨entry, memberEntry, same, _⟩ := grouped.mem_content member
  rw [same]
  exact grouped.fresh entry memberEntry

theorem mem_bodies : body ∈ request.bodies ↔ ∃ kind, (kind, some body) ∈ request.rows := by
  unfold CitreaTxRequest.bodies
  rw [mem_filterMap]
  constructor
  · intro member
    obtain ⟨⟨kind, _⟩, memberRow, rfl⟩ := member
    exact ⟨kind, memberRow⟩
  · intro member
    obtain ⟨kind, memberRow⟩ := member
    exact ⟨_, memberRow, rfl⟩

/-- A body is in one group only. -/
theorem entry_unique (grouped : Grouped sha256 queue groups) {entry' : Nat × CitreaTxRequest}
    (member : entry ∈ groups) (member' : entry' ∈ groups) (inBodies : body ∈ entry.2.bodies)
    (inBodies' : body ∈ entry'.2.bodies) : entry = entry' := by
  obtain ⟨kind, memberRow⟩ := mem_bodies.mp inBodies
  obtain ⟨kind', memberRow'⟩ := mem_bodies.mp inBodies'
  obtain ⟨row, inRows, id, same⟩ := grouped.exists_row member memberRow
  obtain ⟨row', inRows', id', same'⟩ := grouped.exists_row member' memberRow'
  have hash := grouped.hashed row inRows
  have hash' := grouped.hashed row' inRows'
  rw [(Prod.mk.inj same).2] at hash
  rw [(Prod.mk.inj same').2] at hash'
  have sameRow := eq_of_nodup_filterMap grouped.distinct inRows inRows' hash hash'
  apply inj_on_of_nodup_map grouped.ids member member'
  rw [← id, ← id', sameRow]

/-- The rows of a group are the rows of the request that created it. -/
theorem group_eq (grouped : Grouped sha256 queue groups) (member : entry ∈ groups) :
    queue.group entry.1 = entry.2.rows := by
  have byContent : queue.group entry.1 =
      ((queue.rows.map CitreaRawTxRow.content).filter fun content => content.1 = entry.1).map
        Prod.snd := by
    unfold CitreaQueue.group
    rw [filter_map, map_map]
    rfl
  rw [byContent, grouped.contents]
  have ids := grouped.ids
  clear byContent grouped
  induction groups with
  | nil => cases member
  | cons first rest ih =>
    obtain ⟨notInRest, distinctRest⟩ := nodup_cons.mp ids
    rw [flatMap_cons, filter_append, map_append]
    have own : ∀ other : Nat × CitreaTxRequest,
        ((other.2.rows.map fun row => (other.1, row)).filter fun content =>
          content.1 = entry.1).map Prod.snd = if other.1 = entry.1 then other.2.rows else [] := by
      intro other
      split
      · rename_i same
        rw [filter_eq_self.mpr, map_map]
        · exact map_id _
        · intro content memberContent
          obtain ⟨_, _, rfl⟩ := mem_map.mp memberContent
          exact decide_eq_true same
      · rename_i different
        rw [filter_eq_nil_iff.mpr, map_nil]
        intro content memberContent
        obtain ⟨_, _, rfl⟩ := mem_map.mp memberContent
        simpa using different
    rcases mem_cons.mp member with rfl | memberRest
    · have others : ((rest.flatMap fun other => other.2.rows.map fun row => (other.1, row)
          ).filter fun content => content.1 = entry.1) = [] := by
        rw [filter_eq_nil_iff]
        intro content memberContent
        obtain ⟨other, memberOther, inOther⟩ := mem_flatMap.mp memberContent
        obtain ⟨_, _, rfl⟩ := mem_map.mp inOther
        intro same
        simp only [decide_eq_true_eq] at same
        exact notInRest (mem_map.mpr ⟨other, memberOther, same⟩)
      rw [own, if_pos rfl, others, map_nil, append_nil]
    · have different : first.1 ≠ entry.1 := fun same =>
        notInRest (mem_map.mpr ⟨entry, memberRest, same.symm⟩)
      rw [own, if_neg different, nil_append]
      exact ih memberRest distinctRest

/-- One call: the group of the first body is returned, or a new group is created. -/
theorem send (grouped : Grouped sha256 queue groups)
    (first : request.rows = (kind, some body) :: rest)
    (collisionFree : ∀ entry ∈ groups, ∀ other ∈ entry.2.bodies,
      sha256 other = sha256 body → other = body)
    (sent : sendCitreaTx sha256 queue request = .ok (queue', insertionId)) :
    (∃ entry ∈ groups, body ∈ entry.2.bodies ∧ insertionId = entry.1 ∧
      queue'.rows = queue.rows ∧ Grouped sha256 queue' groups) ∨
    (∀ entry ∈ groups, body ∉ entry.2.bodies) ∧
      Grouped sha256 queue' (groups ++ [(insertionId, request)]) := by
  have same_body : ∀ row ∈ queue.rows, row.bodyHash = some (sha256 body) →
      row.body = some body ∧ ∃ entry ∈ groups, row.insertionId = entry.1 ∧
        body ∈ entry.2.bodies := by
    intro row member hash
    rw [grouped.hashed row member] at hash
    obtain ⟨other, isBody, sameHash⟩ := Option.map_eq_some_iff.mp hash
    obtain ⟨entry, memberEntry, sameId, inRows⟩ := grouped.mem_content member
    rw [isBody] at inRows
    have inBodies := mem_bodies.mpr ⟨_, inRows⟩
    obtain rfl := collisionFree entry memberEntry other inBodies sameHash
    exact ⟨isBody, entry, memberEntry, sameId, inBodies⟩
  cases sendCitreaTx_eq_ok first grouped.row_fresh sent with
  | found existing member hash id rows next =>
    left
    obtain ⟨_, entry, memberEntry, sameId, inBodies⟩ := same_body existing member hash
    have unchanged : queue'.rows = queue.rows := by
      rw [rows]
      conv_rhs => rw [← map_id queue.rows]
      apply map_congr_left
      intro row memberRow
      by_cases sameHash : row.bodyHash = some (sha256 body)
      · rw [if_pos sameHash, ← (same_body row memberRow sameHash).1]
        rfl
      · exact if_neg sameHash
    refine ⟨entry, memberEntry, inBodies, id.trans sameId, unchanged, ?_⟩
    constructor
    case contents => rw [unchanged, grouped.contents]
    case ids => exact grouped.ids
    case fresh =>
      intro entry memberEntry
      have old := grouped.fresh entry memberEntry
      omega
    case hashed =>
      rw [unchanged]
      exact grouped.hashed
    case distinct =>
      rw [unchanged]
      exact grouped.distinct
  | appended new id appends next =>
    right
    subst id
    constructor
    · intro entry memberEntry inBodies
      obtain ⟨otherKind, memberRow⟩ := mem_bodies.mp inBodies
      obtain ⟨row, inRows, _, same⟩ := grouped.exists_row memberEntry memberRow
      have hash := grouped.hashed row inRows
      rw [(Prod.mk.inj same).2] at hash
      exact new row inRows hash
    · obtain ⟨added, rows, contents, hashed⟩ := appends.added
      constructor
      case contents =>
        rw [rows, map_append, grouped.contents, contents, flatMap_append]
        simp
      case ids =>
        rw [map_append]
        refine grouped.ids.append (nodup_singleton _) ?_
        intro other memberOther memberNew
        obtain ⟨entry, memberEntry, rfl⟩ := mem_map.mp memberOther
        have old := grouped.fresh entry memberEntry
        rw [mem_singleton.mp memberNew] at old
        exact Nat.lt_irrefl _ old
      case fresh =>
        intro entry memberEntry
        rcases mem_append.mp memberEntry with memberEntry | memberEntry
        · have old := grouped.fresh entry memberEntry
          omega
        · rw [mem_singleton.mp memberEntry]
          simp only
          omega
      case hashed =>
        intro row member
        rw [rows] at member
        rcases mem_append.mp member with member | member
        · exact grouped.hashed row member
        · exact hashed row member
      case distinct => exact appends.distinct grouped.distinct

end Grouped

/-- A sequence of successful calls, newest first, on a new table. -/
inductive Sent (sha256 : Sha256) : List CitreaTxRequest → CitreaQueue → Prop
  | empty (nextInsertionId : Nat) : Sent sha256 [] ⟨[], nextInsertionId⟩
  | sent {history : List CitreaTxRequest} {queue queue' : CitreaQueue}
      {request : CitreaTxRequest} {insertionId : Nat} (earlier : Sent sha256 history queue)
      (sent : sendCitreaTx sha256 queue request = .ok (queue', insertionId)) :
      Sent sha256 (request :: history) queue'

/-- The requests that created a group: those whose first body was not in a group before. -/
def creators : List CitreaTxRequest → List CitreaTxRequest
  | [] => []
  | request :: earlier =>
    if (creators earlier).any fun creator =>
        request.bodies.head?.any fun body => body ∈ creator.bodies then creators earlier
    else creators earlier ++ [request]

theorem creators_cons (request : CitreaTxRequest) (earlier : List CitreaTxRequest) :
    creators (request :: earlier) = if (creators earlier).any fun creator =>
        request.bodies.head?.any fun body => body ∈ creator.bodies then creators earlier
      else creators earlier ++ [request] := rfl

/-- No two bodies of these requests have the same hash. -/
def CollisionFree (sha256 : Sha256) (requests : List CitreaTxRequest) : Prop :=
  ∀ request ∈ requests, ∀ other ∈ requests, ∀ body ∈ request.bodies, ∀ body' ∈ other.bodies,
    sha256 body = sha256 body' → body = body'

variable {history : List CitreaTxRequest}

theorem mem_of_mem_creators (member : request ∈ creators history) : request ∈ history := by
  induction history with
  | nil => cases member
  | cons newest earlier ih =>
    rw [creators_cons] at member
    split at member
    · exact mem_cons_of_mem _ (ih member)
    · rcases mem_append.mp member with member | member
      · exact mem_cons_of_mem _ (ih member)
      · rw [mem_singleton.mp member]
        exact mem_cons_self

theorem head?_bodies (first : request.rows = (kind, some body) :: rest) :
    request.bodies.head? = some body := by
  unfold CitreaTxRequest.bodies
  rw [first]
  rfl

/-- The table of a history consists of the groups of its creators. -/
theorem Sent.grouped (sent : Sent sha256 history queue)
    (collisionFree : CollisionFree sha256 history) :
    ∃ groups, Grouped sha256 queue groups ∧ groups.map Prod.snd = creators history := by
  induction sent with
  | empty nextInsertionId =>
    refine ⟨[], ?_, rfl⟩
    constructor
    case contents => rfl
    case ids => exact nodup_nil
    case fresh => simp
    case hashed => simp
    case distinct => exact nodup_nil
  | @sent history queue queue' request insertionId earlier sent ih =>
    obtain ⟨groups, grouped, isCreators⟩ := ih fun one memberOne other memberOther =>
      collisionFree one (mem_cons_of_mem _ memberOne) other (mem_cons_of_mem _ memberOther)
    obtain ⟨kind, body, rest, first⟩ := request.exists_first
    have isFirst := head?_bodies first
    have inBodies : body ∈ request.bodies := mem_of_mem_head? isFirst
    have noCollision : ∀ entry ∈ groups, ∀ other ∈ entry.2.bodies,
        sha256 other = sha256 body → other = body := by
      intro entry memberEntry other memberOther same
      have inHistory : entry.2 ∈ history := by
        apply mem_of_mem_creators
        rw [← isCreators]
        exact mem_map_of_mem memberEntry
      exact collisionFree entry.2 (mem_cons_of_mem _ inHistory) request mem_cons_self
        other memberOther body inBodies same
    rcases grouped.send first noCollision sent with
      ⟨entry, memberEntry, known, _, _, grouped'⟩ | ⟨unknown, grouped'⟩
    · refine ⟨groups, grouped', ?_⟩
      rw [creators_cons, if_pos, isCreators]
      rw [any_eq_true, ← isCreators]
      exact ⟨entry.2, mem_map_of_mem memberEntry, by simpa [isFirst] using known⟩
    · refine ⟨_, grouped', ?_⟩
      rw [map_append, isCreators, creators_cons, if_neg]
      · rfl
      · rw [any_eq_true, ← isCreators]
        intro exists_
        obtain ⟨creator, memberCreator, known⟩ := exists_
        obtain ⟨entry, memberEntry, rfl⟩ := mem_map.mp memberCreator
        exact unknown entry memberEntry (by simpa [isFirst] using known)

/-- A request that has been accepted is accepted where its first body is known. -/
theorem sendCitreaTx_of_found {before : CitreaQueue} {result : CitreaQueue × Nat}
    (first : request.rows = (kind, some body) :: rest)
    (accepted : sendCitreaTx sha256 before request = .ok result)
    (known : ∃ row ∈ queue.rows, row.bodyHash = some (sha256 body)) :
    ∃ queue' insertionId, sendCitreaTx sha256 queue request = .ok (queue', insertionId) := by
  cases request with
  | batchProof bytes chunkSize =>
    simp only [sendCitreaTx] at accepted ⊢
    by_cases short : bytes.length ≤ effectiveChunkSize chunkSize
    · rw [if_pos short]
      exact ⟨_, _, rfl⟩
    · rw [if_neg short] at accepted ⊢
      have rows := rows_batchProof short
      cases bodies : (chunks (effectiveChunkSize chunkSize) bytes).map fun chunk =>
          (DataOnDa.chunk chunk).toVec with
      | nil =>
        rw [bodies] at accepted
        cases accepted
      | cons firstChunk later =>
        rw [bodies] at rows
        rw [rows] at first
        cases first
        obtain ⟨row, member, hash⟩ := known
        have isSome : (queue.rows.find? fun row => row.bodyHash = some (sha256 body)).isSome := by
          rw [find?_isSome]
          exact ⟨row, member, decide_eq_true hash⟩
        obtain ⟨existing, found⟩ := Option.isSome_iff_exists.mp isSome
        simp only [insertCitreaRawTxChunks, insertCitreaRawTxSingleWithStatus, found, if_true]
        exact ⟨_, _, rfl⟩
  | batchProofMethodId large =>
    simp only [sendCitreaTx] at accepted ⊢
    split at accepted
    · cases accepted
    · rename_i small
      rw [if_neg small]
      exact ⟨_, _, rfl⟩
  | sequencerCommitment large =>
    simp only [sendCitreaTx] at accepted ⊢
    split at accepted
    · cases accepted
    · rename_i small
      rw [if_neg small]
      exact ⟨_, _, rfl⟩

/-- The returned group carries the payload of the request exactly if the request that created the
group of its first body, if there is one, has queued a payload that carries it.  Repeating the
request returns the same id and adds no row. -/
theorem returned_group_carries_iff {history : List CitreaTxRequest} {request : CitreaTxRequest}
    {insertionId : Nat} (sent : Sent sha256 history queue)
    (collisionFree : CollisionFree sha256 (request :: history))
    (accepted : sendCitreaTx sha256 queue request = .ok (queue', insertionId)) :
    (request.CarriedBy (queue'.group insertionId) ↔
      ∀ creator ∈ creators history, ∀ body ∈ request.bodies.head?, body ∈ creator.bodies →
        request.CarriedBy creator.rows) ∧
    ∃ queue'', sendCitreaTx sha256 queue' request = .ok (queue'', insertionId) ∧
      queue''.rows = queue'.rows := by
  obtain ⟨groups, grouped, isCreators⟩ := sent.grouped fun one memberOne other memberOther =>
    collisionFree one (mem_cons_of_mem _ memberOne) other (mem_cons_of_mem _ memberOther)
  obtain ⟨kind, body, rest, first⟩ := request.exists_first
  have isFirst := head?_bodies first
  have inBodies : body ∈ request.bodies := mem_of_mem_head? isFirst
  have noCollision : ∀ one ∈ request :: history, ∀ other ∈ one.bodies,
      sha256 other = sha256 body → other = body := fun one memberOne other memberOther same =>
    collisionFree one memberOne request mem_cons_self other memberOther body inBodies same
  have oldCollision : ∀ entry ∈ groups, ∀ other ∈ entry.2.bodies,
      sha256 other = sha256 body → other = body := by
    intro entry memberEntry
    refine noCollision entry.2 (mem_cons_of_mem _ (mem_of_mem_creators ?_))
    rw [← isCreators]
    exact mem_map_of_mem memberEntry
  -- what the next call of the same request finds in the table
  have repeated : ∀ {groups' : List (Nat × CitreaTxRequest)} {entry : Nat × CitreaTxRequest},
      Grouped sha256 queue' groups' → entry ∈ groups' → body ∈ entry.2.bodies →
      insertionId = entry.1 →
      (∀ entry ∈ groups', ∀ other ∈ entry.2.bodies, sha256 other = sha256 body → other = body) →
      ∃ queue'', sendCitreaTx sha256 queue' request = .ok (queue'', insertionId) ∧
        queue''.rows = queue'.rows := by
    intro groups' entry grouped' memberEntry inEntry sameId collision
    obtain ⟨otherKind, memberRow⟩ := Grouped.mem_bodies.mp inEntry
    obtain ⟨row, inRows, _, sameRow⟩ := grouped'.exists_row memberEntry memberRow
    have hash := grouped'.hashed row inRows
    rw [(Prod.mk.inj sameRow).2] at hash
    obtain ⟨queue'', again, resent⟩ := sendCitreaTx_of_found first accepted ⟨row, inRows, hash⟩
    rcases grouped'.send first collision resent with
      ⟨other, memberOther, inOther, otherId, sameRows, _⟩ | ⟨unknown, _⟩
    · rw [grouped'.entry_unique memberOther memberEntry inOther inEntry, ← sameId] at otherId
      rw [otherId] at resent
      exact ⟨queue'', resent, sameRows⟩
    · exact absurd inEntry (unknown entry memberEntry)
  rcases grouped.send first oldCollision accepted with
    ⟨entry, memberEntry, inEntry, rfl, _, grouped'⟩ | ⟨unknown, grouped'⟩
  · refine ⟨?_, repeated grouped' memberEntry inEntry rfl oldCollision⟩
    rw [grouped'.group_eq memberEntry]
    constructor
    · intro carried creator memberCreator other isOther inCreator
      rw [isFirst] at isOther
      cases isOther
      rw [← isCreators] at memberCreator
      obtain ⟨entry', memberEntry', rfl⟩ := mem_map.mp memberCreator
      rwa [grouped.entry_unique memberEntry' memberEntry inCreator inEntry]
    · intro condition
      refine condition entry.2 ?_ body isFirst inEntry
      rw [← isCreators]
      exact mem_map_of_mem memberEntry
  · have memberNew : (insertionId, request) ∈ groups ++ [(insertionId, request)] :=
      mem_append_right _ mem_cons_self
    refine ⟨?_, repeated grouped' memberNew inBodies rfl ?_⟩
    · rw [grouped'.group_eq memberNew]
      refine iff_of_true request.carriedBy_rows ?_
      intro creator memberCreator other isOther inCreator
      rw [isFirst] at isOther
      cases isOther
      rw [← isCreators] at memberCreator
      obtain ⟨entry, memberEntry, rfl⟩ := mem_map.mp memberCreator
      exact absurd inCreator (unknown entry memberEntry)
    · intro entry memberEntry
      rcases mem_append.mp memberEntry with memberEntry | memberEntry
      · exact oldCollision entry memberEntry
      · rw [mem_singleton.mp memberEntry]
        exact noCollision request mem_cons_self

end History

/-! ## A body that is queued under two kinds -/

/-- SHA-256 on the inputs of the next theorems. -/
def sampleSha256 : Sha256 := fun input =>
  if input = [1, 2, 3] then
    #v[3, 144, 88, 198, 242, 192, 203, 73, 44, 83, 59, 10, 77, 20, 239, 119,
      204, 15, 120, 171, 204, 206, 213, 40, 125, 132, 161, 162, 1, 28, 251, 129]
  else Vector.replicate 32 0

/-- A sequencer commitment with the bytes of a queued method id gets the id of the method id. -/
theorem commitment_returns_method_id :
    ∃ first second, Sent sampleSha256 [.batchProofMethodId [1, 2, 3]] first ∧
      CollisionFree sampleSha256 [.sequencerCommitment [1, 2, 3], .batchProofMethodId [1, 2, 3]] ∧
      sendCitreaTx sampleSha256 first (.sequencerCommitment [1, 2, 3]) = .ok (second, 1) ∧
      second.group 1 = [(.batchProofMethodId, some [1, 2, 3])] ∧
      ¬(CitreaTxRequest.sequencerCommitment [1, 2, 3]).CarriedBy (second.group 1) := by
  have sent : sendCitreaTx sampleSha256 ⟨[], 1⟩ (.batchProofMethodId [1, 2, 3]) =
      .ok (⟨[⟨1, 1, .batchProofMethodId, some [1, 2, 3], some (sampleSha256 [1, 2, 3])⟩], 2⟩,
        1) := rfl
  refine ⟨_, ⟨[⟨1, 1, .batchProofMethodId, some [1, 2, 3], some (sampleSha256 [1, 2, 3])⟩], 3⟩,
    .sent (.empty 1) sent, ?_, rfl, rfl, ?_⟩
  · intro one memberOne other memberOther body inBody body' inBody' _
    have bodies : ∀ request ∈ [CitreaTxRequest.sequencerCommitment [1, 2, 3],
        .batchProofMethodId [1, 2, 3]], request.bodies = [[1, 2, 3]] := by
      decide
    rw [bodies one memberOne] at inBody
    rw [bodies other memberOther] at inBody'
    rw [mem_singleton.mp inBody, mem_singleton.mp inBody']
  · intro carried
    cases carried

/-- A method id on an empty queue is carried by its group. -/
theorem returned_group_carries_iff_single : ∃ second,
    sendCitreaTx sampleSha256 ⟨[], 1⟩ (.batchProofMethodId [1, 2, 3]) = .ok (second, 1) ∧
      (CitreaTxRequest.batchProofMethodId [1, 2, 3]).CarriedBy (second.group 1) := by
  have sent : sendCitreaTx sampleSha256 ⟨[], 1⟩ (.batchProofMethodId [1, 2, 3]) =
      .ok (⟨[⟨1, 1, .batchProofMethodId, some [1, 2, 3], some (sampleSha256 [1, 2, 3])⟩], 2⟩,
        1) := rfl
  have collisionFree : CollisionFree sampleSha256 [.batchProofMethodId [1, 2, 3]] := by
    intro one memberOne other memberOther body inBody body' inBody' _
    rw [mem_singleton.mp memberOne] at inBody
    rw [mem_singleton.mp memberOther] at inBody'
    rw [mem_singleton.mp inBody, mem_singleton.mp inBody']
  refine ⟨_, sent, ?_⟩
  refine (returned_group_carries_iff (.empty 1) collisionFree sent).1.mpr ?_
  intro creator member
  cases member

end Citrea

end Clementine
