import Clementine.Core.Builder.Creator
import Mathlib.Data.List.AList
import Mathlib.Data.List.MinMax
import Mathlib.Data.List.Lex

/-!
# Blocks and matchers

The state manager looks at a finalized block through a cache of the transaction ids and the
spent outputs of the block.  A state machine keeps a table of matchers: conditions on a block,
each with the event that it causes.  Of the matchers that a block satisfies only the first one
is taken, in the order of the transactions in the block and then of the events; triggers by
height come before all transactions.

The tables are hash maps.  Where the source takes any entry with a given event, the order in
which the map is iterated is a parameter.
-/

namespace Clementine

open Option

/-- `Witness`. -/
abbrev Witness := List (List UInt8)

/-- `bitcoin::Block`. -/
structure Block where
  header : CircuitBlockHeader
  txdata : List CircuitTransaction
  deriving DecidableEq

/-! ## The cache of a block -/

/-- `BlockCache`. -/
structure BlockCache where
  txids : AList fun _ : Txid => Nat
  spentUtxos : AList fun _ : OutPoint => Nat
  blockHeight : UInt32
  block : Block
  deriving DecidableEq

section Cache

variable (library : BuilderLibrary)

/-- One pass of the loop of `BlockCache::from_block`. -/
def BlockCache.addTransaction (cache : BlockCache) (entry : CircuitTransaction × Nat) :
    BlockCache :=
  { cache with
    txids := cache.txids.insert (library.computeTxid entry.1) entry.2
    spentUtxos := entry.1.spends.foldl (fun spent outpoint => spent.insert outpoint entry.2)
      cache.spentUtxos }

/-- `BlockCache::from_block`. -/
def BlockCache.fromBlock (block : Block) (blockHeight : UInt32) : BlockCache :=
  block.txdata.zipIdx.foldl (BlockCache.addTransaction library) ⟨∅, ∅, blockHeight, block⟩

theorem BlockCache.foldl_addTransaction (entries : List (CircuitTransaction × Nat))
    (cache : BlockCache) :
    (entries.foldl (BlockCache.addTransaction library) cache).blockHeight = cache.blockHeight ∧
      (entries.foldl (BlockCache.addTransaction library) cache).block = cache.block := by
  induction entries generalizing cache with
  | nil => exact ⟨rfl, rfl⟩
  | cons entry rest ih => exact ih (cache.addTransaction library entry)

@[simp] theorem BlockCache.blockHeight_fromBlock (block : Block) (blockHeight : UInt32) :
    (BlockCache.fromBlock library block blockHeight).blockHeight = blockHeight :=
  (foldl_addTransaction library _ _).1

@[simp] theorem BlockCache.block_fromBlock (block : Block) (blockHeight : UInt32) :
    (BlockCache.fromBlock library block blockHeight).block = block :=
  (foldl_addTransaction library _ _).2

namespace BlockCache

variable (self : BlockCache)

/-- `BlockCache::get_tx_of_utxo`. -/
def getTxOfUtxo (utxo : OutPoint) : Option CircuitTransaction :=
  (self.spentUtxos.lookup utxo).bind fun idx => self.block.txdata[idx]?

/-- `BlockCache::get_witness_of_utxo`. -/
def getWitnessOfUtxo (utxo : OutPoint) : Option Witness :=
  (self.getTxOfUtxo utxo).bind fun tx =>
    (tx.input.find? fun input => input.previousOutput = utxo).map TxIn.witness

/-- `BlockCache::contains_txid`. -/
def containsTxid (txid : Txid) : Bool := (self.txids.lookup txid).isSome

end BlockCache

end Cache

/-! ## Matchers -/

/-- `Matcher`. -/
inductive Matcher where
  | sentTx (txid : Txid)
  | spentUtxo (outpoint : OutPoint)
  | spentUtxoButNotTxid (outpoint : OutPoint) (txids : List Txid)
  | blockHeight (height : UInt32)
  deriving DecidableEq

/-- `MatcherOrd`. -/
inductive MatcherOrd where
  | txIndex (index : Nat)
  | blockHeight
  deriving DecidableEq

/-- The key by which `MatcherOrd` is ordered: heights first, then positions in the block. -/
def MatcherOrd.key : MatcherOrd → List Nat
  | .blockHeight => [0]
  | .txIndex index => [1, index]

/-- `Matcher::matches`. -/
def Matcher.matches (cache : BlockCache) : Matcher → Option MatcherOrd
  | .sentTx txid => (cache.txids.lookup txid).map .txIndex
  | .spentUtxo outpoint => (cache.spentUtxos.lookup outpoint).map .txIndex
  | .blockHeight height => if height ≤ cache.blockHeight then some .blockHeight else none
  | .spentUtxoButNotTxid outpoint txids =>
    if txids.any cache.containsTxid then none
    else (cache.spentUtxos.lookup outpoint).map .txIndex

/-- The derived order of events, by a key. -/
class EventOrder (ε : Type) where
  key : ε → List Nat

/-- The key of an outpoint in the derived order. -/
def OutPoint.key (self : OutPoint) : List Nat :=
  self.txid.toList.map UInt8.toNat ++ [self.vout.toNat]

/-- `HashMap<Matcher, _>`. -/
abbrev Matchers (ε : Type) := AList fun _ : Matcher => ε

/-- An order in which a table is iterated. -/
structure TableOrder (ε : Type) where
  iter : Matchers ε → List (Sigma fun _ : Matcher => ε)
  perm : ∀ matchers : Matchers ε, (iter matchers).Perm matchers.entries

namespace Matchers

variable {ε : Type}

/-- The pair of an entry with which `match_block` compares a matching entry. -/
def candidate (cache : BlockCache) (entry : Sigma fun _ : Matcher => ε) :
    Option (MatcherOrd × ε) :=
  (Matcher.matches cache entry.1).map fun order => (order, entry.2)

/-- `BlockMatcher::match_block`, which gives at most one event. -/
def matchBlock [EventOrder ε] (matchers : Matchers ε) (cache : BlockCache) : Option ε :=
  ((matchers.entries.filterMap (candidate cache)).argmin
    fun found => found.1.key ++ EventOrder.key found.2).map Prod.snd

/-- The matcher that `on_dispatch` takes out of the table, any with the given event. -/
def removeEvent [DecidableEq ε] (order : TableOrder ε) (matchers : Matchers ε) (event : ε) :
    Matchers ε :=
  match (order.iter matchers).find? fun entry => entry.2 = event with
  | some entry => matchers.erase entry.1
  | none => matchers

/-- Insertions one after another, up to the first that fails. -/
def insertUntilError {α : Type} : List (Except α (Matcher × ε)) → Matchers ε →
    Matchers ε × Except α Unit
  | [], matchers => (matchers, .ok ())
  | .error error :: _, matchers => (matchers, .error error)
  | .ok entry :: rest, matchers => insertUntilError rest (matchers.insert entry.1 entry.2)

section Lookup

variable {matchers : Matchers ε} {matcher : Matcher} {event found : ε}

theorem mem_entries_of_lookup (present : matchers.lookup matcher = some found) :
    ⟨matcher, found⟩ ∈ matchers.entries :=
  AList.mem_lookup_iff.mp present

theorem lookup_of_insert {inserted : Matcher}
    (present : (matchers.insert inserted event).lookup matcher = some found) :
    (matcher = inserted ∧ found = event) ∨ matchers.lookup matcher = some found := by
  by_cases same : matcher = inserted
  · subst same
    rw [AList.lookup_insert] at present
    exact .inl ⟨rfl, (some.inj present).symm⟩
  · rw [AList.lookup_insert_ne same] at present
    exact .inr present

/-- Only a matcher of the event is taken out. -/
theorem lookup_of_removeEvent [DecidableEq ε] {order : TableOrder ε}
    (present : (removeEvent order matchers event).lookup matcher = some found) :
    matchers.lookup matcher = some found := by
  unfold removeEvent at present
  split at present
  · next entry _ =>
      by_cases same : matcher = entry.1
      · rw [same, AList.lookup_erase] at present
        cases present
      · rwa [AList.lookup_erase_ne same] at present
  · exact present

theorem lookup_removeEvent [DecidableEq ε] {order : TableOrder ε}
    (present : matchers.lookup matcher = some found) (other : found ≠ event) :
    (removeEvent order matchers event).lookup matcher = some found := by
  unfold removeEvent
  split
  · next entry taken =>
      have inTable : matchers.lookup entry.1 = some entry.2 := AList.mem_lookup_iff.mpr
        ((order.perm matchers).subset (List.mem_of_find?_eq_some taken))
      have ofEvent : entry.2 = event := by simpa using List.find?_some taken
      have different : matcher ≠ entry.1 := by
        intro same
        rw [← same, present] at inTable
        exact other ((some.inj inTable).trans ofEvent)
      rw [AList.lookup_erase_ne different]
      exact present
  · exact present

variable [EventOrder ε] {cache : BlockCache}

/-- The event of a block is that of a matcher that the block satisfies. -/
theorem exists_of_matchBlock (matched : matchers.matchBlock cache = some event) :
    ∃ matcher order, matchers.lookup matcher = some event ∧
      Matcher.matches cache matcher = some order := by
  rw [matchBlock, map_eq_some_iff] at matched
  obtain ⟨⟨order, _⟩, least, rfl⟩ := matched
  obtain ⟨entry, inTable, satisfied⟩ := List.mem_filterMap.mp (List.argmin_mem least)
  rw [candidate, map_eq_some_iff] at satisfied
  obtain ⟨_, satisfied, same⟩ := satisfied
  cases same
  exact ⟨entry.1, order, AList.mem_lookup_iff.mpr inTable, satisfied⟩

/-- A block without an event satisfies no matcher. -/
theorem matches_eq_none_of_matchBlock (quiet : matchers.matchBlock cache = none)
    (present : matchers.lookup matcher = some found) : Matcher.matches cache matcher = none := by
  rw [matchBlock, map_eq_none_iff, List.argmin_eq_none, List.filterMap_eq_nil_iff] at quiet
  have none := quiet ⟨matcher, found⟩ (mem_entries_of_lookup present)
  rwa [candidate, map_eq_none_iff] at none

end Lookup

end Matchers

end Clementine
