import Clementine.Common.Basic
import Mathlib.Data.List.Nodup
import Mathlib.Data.Finset.Basic

/-!
# Fee payer transactions and their replacements

A fee payer transaction and its replacements are one group: the replacements point to the first
transaction, which points to nothing.  The queries for unconfirmed fee payers leave out a row if
another row of its group is confirmed, but they compare with the pointer of the row itself, which
is NULL for the first transaction.  So the queries skip a confirmed group exactly if its first
transaction is confirmed or evicted itself.
-/

namespace Clementine

open List

namespace TxSender

/-- A row of `tx_sender_fee_payer_utxos`. -/
structure FeePayerRow where
  id : Nat
  replacementOfId : Option Nat
  bumpedId : Nat
  feePayerTxid : Bytes32
  vout : Nat
  amount : Nat
  seenAtHeight : Option Nat
  isFinalized : Bool
  isEvicted : Bool
  deriving DecidableEq

/-- Equality in SQL, which does not hold for NULL. -/
def sqlEq (left right : Option Nat) : Bool :=
  match left, right with
  | some left, some right => left = right
  | _, _ => false

/-- The first transaction of the group of a row. -/
def FeePayerRow.parentId (row : FeePayerRow) : Nat := row.replacementOfId.getD row.id

section Queries

variable (table : List FeePayerRow)

/-- The subquery of the two queries for unconfirmed fee payers. -/
def confirmedInGroup (row : FeePayerRow) : Bool :=
  table.any fun x =>
    (sqlEq x.replacementOfId row.replacementOfId || sqlEq (some x.id) row.replacementOfId) &&
      x.seenAtHeight.isSome

/-- `get_all_unconfirmed_fee_payer_txs`. -/
def getAllUnconfirmedFeePayerTxs : List FeePayerRow :=
  table.filter fun row =>
    row.seenAtHeight.isNone && !row.isEvicted && !confirmedInGroup table row

/-- `get_unconfirmed_fee_payer_txs`. -/
def getUnconfirmedFeePayerTxs (bumpedId : Nat) : List FeePayerRow :=
  table.filter fun row =>
    row.bumpedId = bumpedId && row.seenAtHeight.isNone && !row.isEvicted &&
      !confirmedInGroup table row

/-- `mark_fee_payer_utxo_as_evicted`. -/
def markFeePayerUtxoAsEvicted (id : Nat) : List FeePayerRow :=
  table.map fun row =>
    if row.id = id ∨ row.replacementOfId = some id then { row with isEvicted := true } else row

/-- `save_fee_payer_tx`; `none` is a number that does not fit its column. -/
def saveFeePayerTx (bumpedId : Nat) (feePayerTxid : Bytes32) (vout amount : Nat)
    (replacementOfId : Option Nat) : Option (List FeePayerRow) :=
  if bumpedId < 2 ^ 31 ∧ vout < 2 ^ 31 ∧ amount < 2 ^ 63 ∧ replacementOfId.getD 0 < 2 ^ 31 then
    some (table ++ [⟨table.length + 1, replacementOfId, bumpedId, feePayerTxid, vout, amount, none,
      false, false⟩])
  else none

end Queries

/-! ## Bumping -/

/-- The answer to `get_mempool_entry`. -/
inductive MempoolAnswer where
  | entry (descendantCount time : Nat)
  | notInMempool
  | failed (text : String)

/-- What a bump of all fee payers meets, for each row. -/
structure FeePayerRpc where
  getMempoolEntry : Nat → MempoolAnswer
  now : Nat → Nat
  /-- `get_transaction`: whether the transaction has a block hash, and its confirmations. -/
  getTransaction : Nat → Option (Bool × Int)
  /-- `bump_fee_with_fee_rate`, `none` for the errors that are skipped. -/
  bumpFeeWithFeeRate : Nat → Option Bytes32

/-- The table and the two sets of the loop. -/
structure BumpState where
  table : List FeePayerRow
  notEvictedIds : Finset Nat
  allParentIds : Finset Nat

/-- One pass of the loop of `bump_fees_of_unconfirmed_fee_payer_txs`; `false` ends the call with an
error. -/
def bumpStep (rpc : FeePayerRpc) (waitTime : Nat) (state : BumpState) (row : FeePayerRow) :
    BumpState × Bool :=
  let state := { state with allParentIds := insert row.parentId state.allParentIds }
  match rpc.getMempoolEntry row.id with
  | .failed _ => (state, false)
  | .notInMempool =>
    match rpc.getTransaction row.id with
    | some (true, confirmations) =>
      if 0 < confirmations then
        ({ state with notEvictedIds := insert row.parentId state.notEvictedIds }, true)
      else (state, true)
    | _ => (state, true)
  | .entry descendantCount time =>
    let state := { state with notEvictedIds := insert row.parentId state.notEvictedIds }
    if 1 < descendantCount ∨ rpc.now row.id - time < waitTime then (state, true)
    else match rpc.bumpFeeWithFeeRate row.id with
      | none => (state, true)
      | some newTxid =>
        if newTxid = row.feePayerTxid then (state, true)
        else match saveFeePayerTx state.table row.bumpedId newTxid row.vout row.amount
            (some row.parentId) with
          | none => (state, false)
          | some table => ({ state with table := table }, true)

/-- The loop, which stops at an error. -/
def bumpLoop (rpc : FeePayerRpc) (waitTime : Nat) : BumpState → List FeePayerRow → BumpState × Bool
  | state, [] => (state, true)
  | state, row :: rest =>
    match bumpStep rpc waitTime state row with
    | (state, true) => bumpLoop rpc waitTime state rest
    | (state, false) => (state, false)

/-- The evictions at the end, in the order the set is iterated. -/
def markEvicted (notEvictedIds : Finset Nat) : List FeePayerRow → List Nat → List FeePayerRow
  | table, [] => table
  | table, parentId :: rest =>
    markEvicted notEvictedIds
      (if parentId ∈ notEvictedIds then table else markFeePayerUtxoAsEvicted table parentId) rest

/-- `bump_fees_of_unconfirmed_fee_payer_txs`: the table after the call; `order` lists the parents
as their set is iterated. -/
def bumpFeesOfUnconfirmedFeePayerTxs (rpc : FeePayerRpc) (waitTime : Nat)
    (order : Finset Nat → List Nat) (table : List FeePayerRow) : List FeePayerRow :=
  match bumpLoop rpc waitTime ⟨table, ∅, ∅⟩ (getAllUnconfirmedFeePayerTxs table) with
  | (state, false) => state.table
  | (state, true) => markEvicted state.notEvictedIds state.table (order state.allParentIds)

/-! ## Groups -/

/-- Ids are distinct, and replacements point to a first transaction. -/
structure WellFormed (table : List FeePayerRow) : Prop where
  ids : table.map FeePayerRow.id = range' 1 table.length
  parents : ∀ row ∈ table, ∀ parentId ∈ row.replacementOfId,
    ∃ parent ∈ table, parent.id = parentId ∧ parent.replacementOfId = none

/-- A confirmed transaction of the group. -/
def GroupSeen (table : List FeePayerRow) (parentId : Nat) : Prop :=
  ∃ row ∈ table, row.parentId = parentId ∧ row.seenAtHeight.isSome = true

/-- No confirmed group is listed as unconfirmed, or evicted by a bump. -/
structure RespectsConfirmed (table : List FeePayerRow) : Prop where
  all : ∀ row ∈ getAllUnconfirmedFeePayerTxs table, ¬GroupSeen table row.parentId
  bumped : ∀ bumpedId, ∀ row ∈ getUnconfirmedFeePayerTxs table bumpedId,
    ¬GroupSeen table row.parentId
  kept : ∀ rpc waitTime order, (∀ ids, ∀ id ∈ order ids, id ∈ ids) →
    ∀ row ∈ bumpFeesOfUnconfirmedFeePayerTxs rpc waitTime order table,
      GroupSeen table row.parentId → row.isEvicted = true →
      ∃ old ∈ table, old.id = row.id ∧ old.isEvicted = true

/-- No first transaction is unconfirmed and not evicted while a replacement of it is confirmed. -/
def NoOpenOriginal (table : List FeePayerRow) : Prop :=
  ∀ row ∈ table, row.replacementOfId = none → row.seenAtHeight.isNone = true →
    row.isEvicted = false → ∀ other ∈ table, other.replacementOfId = some row.id →
      other.seenAtHeight.isSome = false

section Groups

variable {table : List FeePayerRow}

theorem sqlEq_iff {left right : Option Nat} :
    sqlEq left right = true ↔ ∃ value, left = some value ∧ right = some value := by
  unfold sqlEq
  cases left <;> cases right <;> simp [eq_comm]

variable {row : FeePayerRow}

theorem confirmedInGroup_iff :
    confirmedInGroup table row = true ↔ ∃ parentId, row.replacementOfId = some parentId ∧
      ∃ other ∈ table, (other.replacementOfId = some parentId ∨ other.id = parentId) ∧
        other.seenAtHeight.isSome = true := by
  unfold confirmedInGroup
  simp only [any_eq_true, Bool.and_eq_true, Bool.or_eq_true, sqlEq_iff, Option.some.injEq]
  constructor
  · intro found
    obtain ⟨other, member, sameGroup, seen⟩ := found
    rcases sameGroup with ⟨parentId, theirs, ours⟩ | ⟨parentId, rfl, ours⟩
    · exact ⟨parentId, ours, other, member, .inl theirs, seen⟩
    · exact ⟨_, ours, other, member, .inr rfl, seen⟩
  · intro found
    obtain ⟨parentId, ours, other, member, sameGroup, seen⟩ := found
    rcases sameGroup with theirs | isParent
    · exact ⟨other, member, .inl ⟨parentId, theirs, ours⟩, seen⟩
    · exact ⟨other, member, .inr ⟨parentId, isParent, ours⟩, seen⟩

theorem mem_getAllUnconfirmed :
    row ∈ getAllUnconfirmedFeePayerTxs table ↔ row ∈ table ∧ row.seenAtHeight.isNone = true ∧
      row.isEvicted = false ∧ confirmedInGroup table row = false := by
  unfold getAllUnconfirmedFeePayerTxs
  simp only [mem_filter, Bool.and_eq_true, Bool.not_eq_eq_eq_not, Bool.not_true, and_assoc]

theorem mem_getUnconfirmed {bumpedId : Nat} : row ∈ getUnconfirmedFeePayerTxs table bumpedId ↔
      row ∈ getAllUnconfirmedFeePayerTxs table ∧ row.bumpedId = bumpedId := by
  unfold getUnconfirmedFeePayerTxs getAllUnconfirmedFeePayerTxs
  simp only [mem_filter, Bool.and_eq_true, decide_eq_true_eq]
  tauto

theorem WellFormed.row_unique (wellFormed : WellFormed table) {row other : FeePayerRow}
    (member : row ∈ table) (memberOther : other ∈ table) (same : row.id = other.id) :
    row = other := by
  have distinct : (table.map FeePayerRow.id).Nodup := by
    rw [wellFormed.ids]
    exact nodup_range'
  exact inj_on_of_nodup_map distinct member memberOther same

/-- A listed row of a confirmed group is a first transaction with a confirmed replacement. -/
theorem WellFormed.listed_of_seen (wellFormed : WellFormed table)
    (listed : row ∈ getAllUnconfirmedFeePayerTxs table) (seen : GroupSeen table row.parentId) :
    ¬NoOpenOriginal table := by
  obtain ⟨member, unseen, notEvicted, notConfirmed⟩ := mem_getAllUnconfirmed.mp listed
  obtain ⟨other, memberOther, sameGroup, otherSeen⟩ := seen
  cases pointer : row.replacementOfId with
  | some parentId =>
    have parent : row.parentId = parentId := by
      unfold FeePayerRow.parentId
      rw [pointer]
      rfl
    have confirmed : confirmedInGroup table row = true := by
      refine confirmedInGroup_iff.mpr ⟨parentId, pointer, other, memberOther, ?_, otherSeen⟩
      rw [parent] at sameGroup
      unfold FeePayerRow.parentId at sameGroup
      cases theirs : other.replacementOfId with
      | none =>
        rw [theirs] at sameGroup
        exact .inr sameGroup
      | some otherParent =>
        rw [theirs] at sameGroup
        exact .inl (congrArg some sameGroup)
    rw [confirmed] at notConfirmed
    cases notConfirmed
  | none =>
    have parent : row.parentId = row.id := by
      unfold FeePayerRow.parentId
      rw [pointer]
      rfl
    rw [parent] at sameGroup
    unfold FeePayerRow.parentId at sameGroup
    intro noOpen
    cases theirs : other.replacementOfId with
    | none =>
      rw [theirs] at sameGroup
      rw [wellFormed.row_unique memberOther member sameGroup] at otherSeen
      rw [Option.isNone_iff_eq_none] at unseen
      rw [unseen] at otherSeen
      cases otherSeen
    | some otherParent =>
      rw [theirs] at sameGroup
      have contradiction := noOpen row member pointer unseen notEvicted other memberOther
        (theirs.trans (congrArg some sameGroup))
      rw [otherSeen] at contradiction
      cases contradiction

/-! ## What a bump evicts -/

/-- A saved transaction is a new row, unconfirmed and not evicted. -/
theorem saveFeePayerTx_eq_some {saved : List FeePayerRow} {bumpedId vout amount : Nat}
    {feePayerTxid : Bytes32} {replacementOfId : Option Nat}
    (saves : saveFeePayerTx table bumpedId feePayerTxid vout amount replacementOfId = some saved) :
    ∃ new, saved = table ++ [new] ∧ new.replacementOfId = replacementOfId ∧
      new.isEvicted = false ∧
      (table.map FeePayerRow.id = range' 1 table.length →
        saved.map FeePayerRow.id = range' 1 saved.length) := by
  unfold saveFeePayerTx at saves
  split at saves
  · cases saves
    refine ⟨_, rfl, rfl, rfl, ?_⟩
    intro ids
    simp only [map_append, map_cons, map_nil, ids, length_append, length_singleton]
    rw [range'_concat]
    simp [Nat.add_comm]
  · cases saves

/-- The loop keeps the rows, appends replacements of listed groups, and collects the parents of
listed rows only. -/
structure BumpKeeps (table : List FeePayerRow) (parents : List Nat) (state : BumpState) : Prop where
  rows : ∃ added, state.table = table ++ added ∧ (∀ row ∈ added, row.isEvicted = false ∧
    ∃ parentId ∈ parents, row.replacementOfId = some parentId) ∧
    state.table.map FeePayerRow.id = range' 1 state.table.length
  collected : ∀ parentId ∈ state.allParentIds, parentId ∈ parents

variable {parents : List Nat}

theorem BumpKeeps.step {state : BumpState} (keeps : BumpKeeps table parents state)
    (isParent : row.parentId ∈ parents) (rpc : FeePayerRpc) (waitTime : Nat) :
    BumpKeeps table parents (bumpStep rpc waitTime state row).1 := by
  have inserted : ∀ parentId ∈ insert row.parentId state.allParentIds, parentId ∈ parents := by
    intro parentId member
    rcases Finset.mem_insert.mp member with rfl | member
    · exact isParent
    · exact keeps.collected parentId member
  unfold bumpStep
  simp only
  split
  · exact ⟨keeps.rows, inserted⟩
  · split
    · split
      · exact ⟨keeps.rows, inserted⟩
      · exact ⟨keeps.rows, inserted⟩
    · exact ⟨keeps.rows, inserted⟩
  · split
    · exact ⟨keeps.rows, inserted⟩
    · split
      · exact ⟨keeps.rows, inserted⟩
      · split
        · exact ⟨keeps.rows, inserted⟩
        · split
          · exact ⟨keeps.rows, inserted⟩
          · rename_i newTable saved
            obtain ⟨new, rfl, pointer, notEvicted, newIds⟩ := saveFeePayerTx_eq_some saved
            obtain ⟨added, sameTable, replacements, ids⟩ := keeps.rows
            refine ⟨⟨added ++ [new], ?_, ?_, newIds ids⟩, inserted⟩
            · rw [sameTable, append_assoc]
            · intro other member
              rcases mem_append.mp member with member | member
              · exact replacements other member
              · rw [mem_singleton.mp member]
                exact ⟨notEvicted, row.parentId, isParent, pointer⟩

theorem BumpKeeps.loop (rpc : FeePayerRpc) (waitTime : Nat) :
    ∀ {rows : List FeePayerRow} {state : BumpState}, BumpKeeps table parents state →
      (∀ row ∈ rows, row.parentId ∈ parents) →
      BumpKeeps table parents (bumpLoop rpc waitTime state rows).1 := by
  intro rows
  induction rows with
  | nil => exact fun keeps _ => keeps
  | cons row rest ih =>
    intro state keeps areParents
    have stepped := keeps.step (areParents row mem_cons_self) rpc waitTime
    rw [bumpLoop]
    split
    · rename_i next result
      rw [result] at stepped
      exact ih stepped fun other member => areParents other (mem_cons_of_mem _ member)
    · rename_i next result
      rw [result] at stepped
      exact stepped

variable {notEvictedIds : Finset Nat}

/-- Rows that are evicted at the end belong to the groups of the list. -/
theorem mem_markEvicted :
    ∀ {table : List FeePayerRow}, row ∈ markEvicted notEvictedIds table parents →
      ∃ old ∈ table, old.id = row.id ∧ old.replacementOfId = row.replacementOfId ∧
        (row.isEvicted = old.isEvicted ∨ ∃ parentId ∈ parents, row.id = parentId ∨
          row.replacementOfId = some parentId) := by
  induction parents with
  | nil => exact fun member => ⟨row, member, rfl, rfl, .inl rfl⟩
  | cons parentId rest ih =>
    intro table member
    rw [markEvicted] at member
    obtain ⟨middle, memberMiddle, sameId, samePointer, evicted⟩ := ih member
    have later : (row.isEvicted = middle.isEvicted ∨ ∃ parentId ∈ rest, row.id = parentId ∨
        row.replacementOfId = some parentId) → row.isEvicted = middle.isEvicted ∨
        ∃ other ∈ parentId :: rest, row.id = other ∨ row.replacementOfId = some other := by
      intro evicted
      rcases evicted with same | ⟨other, memberOther, inGroup⟩
      · exact .inl same
      · exact .inr ⟨other, mem_cons_of_mem _ memberOther, inGroup⟩
    split at memberMiddle
    · exact ⟨middle, memberMiddle, sameId, samePointer, later evicted⟩
    · obtain ⟨old, memberOld, marked⟩ := mem_map.mp memberMiddle
      split at marked
      · rename_i inGroup
        subst marked
        refine ⟨old, memberOld, sameId, samePointer, .inr ⟨parentId, mem_cons_self, ?_⟩⟩
        rw [← sameId, ← samePointer]
        exact inGroup
      · subst marked
        exact ⟨old, memberOld, sameId, samePointer, later evicted⟩

/-- The id and the pointer of a row. -/
def FeePayerRow.link (row : FeePayerRow) : Nat × Option Nat := (row.id, row.replacementOfId)

theorem map_link_markEvicted :
    ∀ {table : List FeePayerRow}, (markEvicted notEvictedIds table parents).map FeePayerRow.link =
      table.map FeePayerRow.link := by
  induction parents with
  | nil => exact rfl
  | cons parentId rest ih =>
    intro table
    rw [markEvicted, ih]
    split
    · rfl
    · unfold markFeePayerUtxoAsEvicted
      rw [map_map]
      apply map_congr_left
      intro row _
      simp only [Function.comp_apply]
      split
      · rfl
      · rfl

theorem WellFormed.parent_exists (wellFormed : WellFormed table) (member : row ∈ table) :
    ∃ parent ∈ table, parent.id = row.parentId ∧ parent.replacementOfId = none := by
  cases pointer : row.replacementOfId with
  | none => exact ⟨row, member, by unfold FeePayerRow.parentId; rw [pointer]; rfl, pointer⟩
  | some parentId =>
    obtain ⟨parent, memberParent, sameId, first⟩ := wellFormed.parents row member parentId pointer
    exact ⟨parent, memberParent, by unfold FeePayerRow.parentId; rw [pointer, sameId]; rfl, first⟩

/-- The state after the loop. -/
theorem WellFormed.loop_keeps (wellFormed : WellFormed table) (rpc : FeePayerRpc) (waitTime : Nat) :
    BumpKeeps table ((getAllUnconfirmedFeePayerTxs table).map FeePayerRow.parentId)
      (bumpLoop rpc waitTime ⟨table, ∅, ∅⟩ (getAllUnconfirmedFeePayerTxs table)).1 := by
  apply BumpKeeps.loop
  · exact ⟨⟨[], by simp, by simp, wellFormed.ids⟩, by simp⟩
  · exact fun row member => mem_map_of_mem member

/-- A row after a bump is an old one, or a replacement of a listed group; it is newly evicted
only if its group is listed. -/
theorem WellFormed.mem_bumpFees (wellFormed : WellFormed table) {rpc : FeePayerRpc} {waitTime : Nat}
    {order : Finset Nat → List Nat} (ordered : ∀ ids, ∀ id ∈ order ids, id ∈ ids)
    (member : row ∈ bumpFeesOfUnconfirmedFeePayerTxs rpc waitTime order table) :
    (∃ old ∈ table, old.id = row.id ∧ (row.isEvicted = true → old.isEvicted = true ∨
        ∃ listed ∈ getAllUnconfirmedFeePayerTxs table, listed.parentId = row.parentId)) ∨
      ∃ listed ∈ getAllUnconfirmedFeePayerTxs table,
        row.replacementOfId = some listed.parentId := by
  have keeps := wellFormed.loop_keeps rpc waitTime
  unfold bumpFeesOfUnconfirmedFeePayerTxs at member
  rcases looped : bumpLoop rpc waitTime ⟨table, ∅, ∅⟩ (getAllUnconfirmedFeePayerTxs table)
    with ⟨state, completed⟩
  rw [looped] at keeps member
  obtain ⟨added, sameTable, replacements, ids⟩ := keeps.rows
  simp only at sameTable ids
  have ofAdded : ∀ new ∈ added, ∃ listed ∈ getAllUnconfirmedFeePayerTxs table,
      new.replacementOfId = some listed.parentId := by
    intro new memberNew
    obtain ⟨_, parentId, isParent, pointer⟩ := replacements new memberNew
    obtain ⟨listed, memberListed, rfl⟩ := mem_map.mp isParent
    exact ⟨listed, memberListed, pointer⟩
  cases completed with
  | false =>
    simp only [sameTable] at member
    rcases mem_append.mp member with old | new
    · exact .inl ⟨row, old, rfl, .inl⟩
    · exact .inr (ofAdded row new)
  | true =>
    simp only at member
    obtain ⟨old, memberOld, sameId, samePointer, evicted⟩ := mem_markEvicted member
    have inGroup : (∃ parentId ∈ order state.allParentIds, row.id = parentId ∨
        row.replacementOfId = some parentId) →
        ∃ listed ∈ getAllUnconfirmedFeePayerTxs table, listed.parentId = row.parentId := by
      intro marked
      obtain ⟨parentId, inOrder, own⟩ := marked
      obtain ⟨listed, memberListed, rfl⟩ :=
        mem_map.mp (keeps.collected parentId (ordered _ _ inOrder))
      refine ⟨listed, memberListed, ?_⟩
      rcases own with sameParent | pointer
      · obtain ⟨parent, memberParent, parentId, first⟩ :=
          wellFormed.parent_exists (mem_getAllUnconfirmed.mp memberListed).1
        have distinct : (state.table.map FeePayerRow.id).Nodup := by
          rw [ids]
          exact nodup_range'
        have isParent : old = parent := by
          apply inj_on_of_nodup_map distinct memberOld
          · rw [sameTable]
            exact mem_append_left _ memberParent
          · rw [sameId, sameParent, parentId]
        have rowFirst : row.replacementOfId = none := by
          rw [← samePointer, isParent, first]
        unfold FeePayerRow.parentId at sameParent ⊢
        rw [rowFirst]
        exact sameParent.symm
      · unfold FeePayerRow.parentId at pointer ⊢
        rw [pointer]
        rfl
    rw [sameTable] at memberOld
    rcases mem_append.mp memberOld with memberOld | new
    · refine .inl ⟨old, memberOld, sameId, ?_⟩
      intro isEvicted
      rcases evicted with same | marked
      · exact .inl (same ▸ isEvicted)
      · exact .inr (inGroup marked)
    · obtain ⟨listed, memberListed, pointer⟩ := ofAdded old new
      exact .inr ⟨listed, memberListed, by rw [← samePointer, pointer]⟩

/-- A bump keeps tables well formed. -/
theorem WellFormed.bump (wellFormed : WellFormed table) (rpc : FeePayerRpc) (waitTime : Nat)
    (order : Finset Nat → List Nat) :
    WellFormed (bumpFeesOfUnconfirmedFeePayerTxs rpc waitTime order table) := by
  have keeps := wellFormed.loop_keeps rpc waitTime
  have links : ∃ state, BumpKeeps table ((getAllUnconfirmedFeePayerTxs table).map
      FeePayerRow.parentId) state ∧
      (bumpFeesOfUnconfirmedFeePayerTxs rpc waitTime order table).map FeePayerRow.link =
        state.table.map FeePayerRow.link := by
    unfold bumpFeesOfUnconfirmedFeePayerTxs
    rcases looped : bumpLoop rpc waitTime ⟨table, ∅, ∅⟩ (getAllUnconfirmedFeePayerTxs table)
      with ⟨state, completed⟩
    rw [looped] at keeps
    cases completed with
    | false => exact ⟨state, keeps, rfl⟩
    | true => exact ⟨state, keeps, map_link_markEvicted⟩
  obtain ⟨state, keeps, links⟩ := links
  obtain ⟨added, sameTable, replacements, ids⟩ := keeps.rows
  have length := congrArg length links
  rw [length_map, length_map] at length
  constructor
  case ids =>
    have sameIds := congrArg (map Prod.fst) links
    rw [map_map, map_map] at sameIds
    rw [length, ← ids]
    exact sameIds
  case parents =>
    have persists : ∀ parent ∈ table, parent.replacementOfId = none →
        ∃ row ∈ bumpFeesOfUnconfirmedFeePayerTxs rpc waitTime order table,
          row.id = parent.id ∧ row.replacementOfId = none := by
      intro parent member first
      have linked : parent.link ∈
          (bumpFeesOfUnconfirmedFeePayerTxs rpc waitTime order table).map FeePayerRow.link := by
        rw [links, sameTable]
        exact mem_map_of_mem (mem_append_left _ member)
      obtain ⟨row, memberRow, same⟩ := mem_map.mp linked
      obtain ⟨sameId, samePointer⟩ := Prod.mk.inj same
      exact ⟨row, memberRow, sameId, samePointer.trans first⟩
    intro row member parentId pointer
    have linked : row.link ∈ state.table.map FeePayerRow.link := by
      rw [← links]
      exact mem_map_of_mem member
    obtain ⟨old, memberOld, same⟩ := mem_map.mp linked
    have samePointer := (Prod.mk.inj same).2
    rw [sameTable] at memberOld
    rcases mem_append.mp memberOld with memberOld | new
    · obtain ⟨parent, memberParent, sameId, first⟩ := wellFormed.parents old memberOld parentId
        (samePointer.trans pointer)
      obtain ⟨kept, memberKept, keptId, keptFirst⟩ := persists parent memberParent first
      exact ⟨kept, memberKept, keptId.trans sameId, keptFirst⟩
    · obtain ⟨_, newParent, isParent, newPointer⟩ := replacements old new
      obtain ⟨listed, memberListed, rfl⟩ := mem_map.mp isParent
      obtain ⟨parent, memberParent, sameId, first⟩ :=
        wellFormed.parent_exists (mem_getAllUnconfirmed.mp memberListed).1
      obtain ⟨kept, memberKept, keptId, keptFirst⟩ := persists parent memberParent first
      have sameParent : listed.parentId = parentId := by
        rw [samePointer] at newPointer
        exact Option.some.inj (newPointer.symm.trans pointer)
      exact ⟨kept, memberKept, keptId.trans (sameId.trans sameParent), keptFirst⟩

/-- The tables of a sender: first transactions are created, confirmation syncs set and clear the
heights, and bumps add replacements and evict groups. -/
inductive Reachable (waitTime : Nat) : List FeePayerRow → Prop
  | empty : Reachable waitTime []
  | created {table saved : List FeePayerRow} {bumpedId vout amount : Nat} {feePayerTxid : Bytes32}
      (reachable : Reachable waitTime table)
      (saves : saveFeePayerTx table bumpedId feePayerTxid vout amount none = some saved) :
      Reachable waitTime saved
  | synced {table : List FeePayerRow} (reachable : Reachable waitTime table)
      (confirmation : FeePayerRow → Option Nat × Bool) :
      Reachable waitTime (table.map fun row => { row with
        seenAtHeight := (confirmation row).1, isFinalized := (confirmation row).2 })
  | bumped {table : List FeePayerRow} (reachable : Reachable waitTime table) (rpc : FeePayerRpc)
      (order : Finset Nat → List Nat) :
      Reachable waitTime (bumpFeesOfUnconfirmedFeePayerTxs rpc waitTime order table)

theorem Reachable.wellFormed {waitTime : Nat} (reachable : Reachable waitTime table) :
    WellFormed table := by
  induction reachable with
  | empty => exact ⟨rfl, by simp⟩
  | created _ saves ih =>
    obtain ⟨new, rfl, pointer, _, newIds⟩ := saveFeePayerTx_eq_some saves
    refine ⟨newIds ih.ids, ?_⟩
    intro row member parentId isParent
    rcases mem_append.mp member with member | member
    · obtain ⟨parent, memberParent, sameId, first⟩ := ih.parents row member parentId isParent
      exact ⟨parent, mem_append_left _ memberParent, sameId, first⟩
    · rw [mem_singleton.mp member, pointer] at isParent
      cases isParent
  | synced _ confirmation ih =>
    constructor
    case ids =>
      rw [map_map, length_map]
      exact ih.ids
    case parents =>
      intro row member parentId isParent
      obtain ⟨old, memberOld, rfl⟩ := mem_map.mp member
      obtain ⟨parent, memberParent, sameId, first⟩ := ih.parents old memberOld parentId isParent
      exact ⟨_, mem_map_of_mem memberParent, sameId, first⟩
  | bumped _ rpc order ih => exact ih.bump rpc _ order

/-- Confirmed groups are neither listed as unconfirmed nor evicted exactly if no first transaction
is open while a replacement of it is confirmed. -/
theorem confirmed_groups_respected_iff {waitTime : Nat} (reachable : Reachable waitTime table) :
    RespectsConfirmed table ↔ NoOpenOriginal table := by
  have wellFormed := reachable.wellFormed
  constructor
  · intro respects row member pointer unseen notEvicted other memberOther isReplacement
    have notConfirmed : confirmedInGroup table row = false := by
      rw [Bool.eq_false_iff]
      intro confirmed
      obtain ⟨parentId, hasPointer, _⟩ := confirmedInGroup_iff.mp confirmed
      rw [pointer] at hasPointer
      cases hasPointer
    have listed := mem_getAllUnconfirmed.mpr ⟨member, unseen, notEvicted, notConfirmed⟩
    rw [Bool.eq_false_iff]
    intro seen
    refine respects.all row listed ⟨other, memberOther, ?_, seen⟩
    unfold FeePayerRow.parentId
    rw [isReplacement, pointer]
    rfl
  · intro noOpen
    have all : ∀ row ∈ getAllUnconfirmedFeePayerTxs table, ¬GroupSeen table row.parentId :=
      fun row listed seen => wellFormed.listed_of_seen listed seen noOpen
    constructor
    case all => exact all
    case bumped => exact fun bumpedId row listed => all row (mem_getUnconfirmed.mp listed).1
    case kept =>
      intro rpc wait order ordered row member seen evicted
      rcases wellFormed.mem_bumpFees ordered member with
        ⟨old, memberOld, sameId, reason⟩ | ⟨listed, memberListed, pointer⟩
      · rcases reason evicted with wasEvicted | ⟨listed, memberListed, sameGroup⟩
        · exact ⟨old, memberOld, sameId, wasEvicted⟩
        · rw [← sameGroup] at seen
          exact absurd seen (all listed memberListed)
      · have sameGroup : row.parentId = listed.parentId := by
          unfold FeePayerRow.parentId at pointer ⊢
          rw [pointer]
          rfl
        rw [sameGroup] at seen
        exact absurd seen (all listed memberListed)

end Groups

/-! ## A confirmed replacement -/

namespace FeePayerSample

def txid (byte : UInt8) : Bytes32 := Vector.replicate 32 byte

/-- The first transaction is in the mempool and is replaced. -/
def replacing : FeePayerRpc where
  getMempoolEntry _ := .entry 1 0
  now _ := 1000
  getTransaction _ := none
  bumpFeeWithFeeRate _ := some (txid 2)

/-- The first transaction is gone. -/
def replaced : FeePayerRpc where
  getMempoolEntry _ := .notInMempool
  now _ := 2000
  getTransaction _ := some (false, -1)
  bumpFeeWithFeeRate _ := none

/-- The first transaction and its confirmed replacement. -/
def rows : List FeePayerRow :=
  [⟨1, none, 7, txid 1, 0, 5000, none, false, false⟩,
    ⟨2, some 1, 7, txid 2, 0, 5000, some 100, false, false⟩]

/-- The order of a set with at most this parent. -/
def order (ids : Finset Nat) : List Nat := if 1 ∈ ids then [1] else []

theorem first_reachable : Reachable 600 [⟨1, none, 7, txid 1, 0, 5000, none, false, false⟩] := by
  have saves : saveFeePayerTx [] 7 (txid 1) 0 5000 none =
      some [⟨1, none, 7, txid 1, 0, 5000, none, false, false⟩] := by
    decide
  exact .created .empty saves

theorem rows_reachable : Reachable 600 rows := by
  have bumped := (first_reachable.bumped replacing order).synced fun row =>
    if row.id = 2 then (some 100, false) else (none, false)
  have same : rows = (bumpFeesOfUnconfirmedFeePayerTxs replacing 600 order
      [⟨1, none, 7, txid 1, 0, 5000, none, false, false⟩]).map fun row => { row with
        seenAtHeight := (if row.id = 2 then (some 100, false) else (none, false)).1
        isFinalized := (if row.id = 2 then ((some 100 : Option Nat), false) else (none, false)).2
        } := by
    decide
  rw [same]
  exact bumped

/-- The replacement is confirmed, and the first transaction is still listed; the next bump evicts
both. -/
theorem confirmed_replacement_is_evicted : Reachable 600 rows ∧ GroupSeen rows 1 ∧
      (getAllUnconfirmedFeePayerTxs rows).map FeePayerRow.id = [1] ∧
      (getUnconfirmedFeePayerTxs rows 7).map FeePayerRow.id = [1] ∧
      (bumpFeesOfUnconfirmedFeePayerTxs replaced 600 order rows).map FeePayerRow.isEvicted =
        [true, true] := by
  refine ⟨rows_reachable, ⟨_, mem_cons_of_mem _ mem_cons_self, rfl, rfl⟩, ?_, ?_, ?_⟩
  · decide
  · decide
  · decide

/-- A group of one confirmed transaction is respected. -/
theorem confirmed_groups_respected_iff_single :
    RespectsConfirmed [⟨1, none, 7, txid 1, 0, 5000, some 100, false, false⟩] := by
  have synced : Reachable 600 [⟨1, none, 7, txid 1, 0, 5000, some 100, false, false⟩] :=
    first_reachable.synced fun _ => (some 100, false)
  refine (confirmed_groups_respected_iff synced).mpr ?_
  intro row member _ unseen
  rw [mem_singleton.mp member] at unseen
  cases unseen

end FeePayerSample

end TxSender

end Clementine
