import Clementine.HeaderChain.ChainState
import Clementine.HeaderChain.MMR.Refinement
import Clementine.Lib.RingBuffer

/-!
# The chain state as a function of the header history

Along a run from the genesis state every field of the chain state except the bits
and the work is determined by the list of headers that were applied, however they
were divided into calls.  The heights are 32-bit numbers that start at `u32::MAX`,
so the correspondence holds for up to 2^32 headers.
-/

namespace Clementine

open ByteNumeral RingBuffer LoopState UInt32

variable (network : Network) (hashing : BlockHashing)

/-! ## The fields of a chain with a given history -/

/-- Sixth smallest of some times; the median of eleven. -/
def sixthSmallest (times : List UInt32) : UInt32 :=
  (times.insertionSort (· ≤ ·))[5]?.getD 0

/-- Hash that the header at a height has to point to. -/
def previousHash (blockHeaders : List CircuitBlockHeader) : Nat → Bytes32
  | 0 => zeroBytes
  | height + 1 => (blockHeaders[height]?.map hashing.computeBlockHash).getD zeroBytes

variable {height : Nat} {seen : List CircuitBlockHeader}

theorem previousHash_pos {blockHeaders : List CircuitBlockHeader} (positive : 1 ≤ height) :
    previousHash hashing blockHeaders height =
      (blockHeaders[height - 1]?.map hashing.computeBlockHash).getD zeroBytes := by
  cases height with
  | zero => omega
  | succ height => rfl

/-- Times of the eleven headers below a height. -/
def precedingTimes (blockHeaders : List CircuitBlockHeader) (height : Nat) : List UInt32 :=
  ((blockHeaders.map (·.time)).drop (height - 11)).take 11

/-- A chain state that results from applying some headers to the genesis state. -/
structure History (blockHeaders : List CircuitBlockHeader) (chain : ChainState) : Prop where
  blockHeight : chain.blockHeight + 1 = UInt32.ofNat blockHeaders.length
  bestBlockHash : chain.bestBlockHash = previousHash hashing blockHeaders blockHeaders.length
  blockHashesMmr : MMRGuest.ofLeaves hashing.hashPair
    (blockHeaders.map hashing.computeBlockHash) = .ok chain.blockHashesMmr
  prev11Timestamps : Records 0 (blockHeaders.map (·.time)) chain.prev11Timestamps
  epochStartTime : network ≠ .regtest → ∀ blockHeader,
    blockHeaders[2016 * ((blockHeaders.length - 1) / 2016)]? = some blockHeader →
      chain.epochStartTime = blockHeader.time
  linked : ∀ height blockHeader, blockHeaders[height]? = some blockHeader →
    blockHeader.prevBlockHash = previousHash hashing blockHeaders height
  timestamps : ∀ height blockHeader, 11 ≤ height → blockHeaders[height]? = some blockHeader →
    sixthSmallest (precedingTimes blockHeaders height) < blockHeader.time
  positive : ∀ blockHeader ∈ blockHeaders, 0 < blockHeader.time

/-! ## Appending a header -/

section Append

variable {blockHeader : CircuitBlockHeader}

theorem getElem?_append_singleton_eq_some {found : CircuitBlockHeader}
    (foundAt : (seen ++ [blockHeader])[height]? = some found) :
    (height < seen.length ∧ seen[height]? = some found) ∨
      (height = seen.length ∧ blockHeader = found) := by
  rcases Nat.lt_or_ge height seen.length with inside | outside
  · rw [List.getElem?_append_left inside] at foundAt
    exact .inl ⟨inside, foundAt⟩
  · rw [List.getElem?_append_right outside, List.getElem?_singleton] at foundAt
    split at foundAt
    next last => exact .inr ⟨by omega, by simpa using foundAt⟩
    next => cases foundAt

theorem previousHash_append (inside : height ≤ seen.length) :
    previousHash hashing (seen ++ [blockHeader]) height = previousHash hashing seen height := by
  cases height with
  | zero => rfl
  | succ height => rw [previousHash, previousHash, List.getElem?_append_left inside]

theorem precedingTimes_append (inside : height ≤ seen.length) (late : 11 ≤ height) :
    precedingTimes (seen ++ [blockHeader]) height = precedingTimes seen height := by
  rw [precedingTimes, precedingTimes, List.map_append, List.drop_append_of_le_length,
    List.take_append_of_le_length]
  · rw [List.length_drop, List.length_map]
    omega
  · rw [List.length_map]
    omega

end Append

theorem sixthSmallest_eq_of_perm {left right : List UInt32} (perm : left.Perm right) :
    sixthSmallest left = sixthSmallest right := by
  have sorted : left.insertionSort (· ≤ ·) = right.insertionSort (· ≤ ·) :=
    List.Perm.eq_of_pairwise (fun _ _ _ _ below above => UInt32.le_antisymm below above)
      (List.pairwise_insertionSort _ _) (List.pairwise_insertionSort _ _)
      ((List.perm_insertionSort _ _).trans (perm.trans (List.perm_insertionSort _ _).symm))
  rw [sixthSmallest, sixthSmallest, sorted]

/-- With at least eleven headers the ring buffer holds the times of the last eleven. -/
theorem median_eq {prev11Timestamps : Vector UInt32 11}
    (records : Records 0 (seen.map (·.time)) prev11Timestamps) (full : 11 ≤ seen.length) :
    median prev11Timestamps = sixthSmallest (precedingTimes seen seen.length) := by
  have perm := records.perm (by rw [List.length_map]; exact full)
  rw [List.length_map] at perm
  have window : precedingTimes seen seen.length = (seen.map (·.time)).drop (seen.length - 11) := by
    rw [precedingTimes, List.take_of_length_le]
    rw [List.length_drop, List.length_map]
    omega
  rw [window]
  exact sixthSmallest_eq_of_perm perm

/-! ## Rounds and runs -/

theorem History.genesis : History network hashing [] (ChainState.genesisState network) where
  blockHeight := by
    change (0xFFFFFFFF : UInt32) + 1 = ofNat 0
    decide
  bestBlockHash := rfl
  blockHashesMmr := rfl
  prev11Timestamps := records_nil 0
  epochStartTime := by simp
  linked := by simp
  timestamps := by simp
  positive := by simp

theorem History.totalWork {self : ChainState} (history : History network hashing seen self)
    (totalWork : Bytes32) :
    History network hashing seen { self with totalWork } :=
  ⟨history.1, history.2, history.3, history.4, history.5, history.6, history.7, history.8⟩

variable {state : LoopState}

theorem History.toNat_nextHeight (history : History network hashing seen state.chainState)
    (small : seen.length < 2 ^ 32) :
    state.nextHeight.toNat = seen.length := by
  have height : state.nextHeight = ofNat seen.length := history.blockHeight
  rw [height, toNat_ofNat', Nat.mod_eq_of_lt small]

theorem History.startsEpoch_iff (history : History network hashing seen state.chainState)
    (small : seen.length < 2 ^ 32) :
    state.nextHeight % blocksPerEpoch = 0 ↔ seen.length % 2016 = 0 := by
  rw [Clementine.startsEpoch_iff, history.toNat_nextHeight network hashing small]

theorem History.endsEpoch_iff (history : History network hashing seen state.chainState)
    (small : seen.length < 2 ^ 32) :
    state.nextHeight % blocksPerEpoch = blocksPerEpoch - 1 ↔ seen.length % 2016 = 2015 := by
  rw [Clementine.endsEpoch_iff, history.toNat_nextHeight network hashing small]

/-- Inside an epoch the start time is that of its first header. -/
theorem History.nextEpochStartTime_eq {first : CircuitBlockHeader}
    (history : History network hashing seen state.chainState) (small : seen.length < 2 ^ 32)
    (other : network ≠ .regtest) (inside : seen.length % 2016 ≠ 0)
    (firstAt : seen[2016 * (seen.length / 2016)]? = some first) (blockHeader : CircuitBlockHeader) :
    state.nextEpochStartTime network blockHeader = first.time := by
  have continues : ¬(network ≠ .regtest ∧ state.nextHeight % blocksPerEpoch = 0) := by
    rw [history.startsEpoch_iff network hashing small]
    exact fun starts => inside starts.2
  rw [nextEpochStartTime, if_neg continues]
  apply history.epochStartTime other
  rw [← firstAt]
  congr 2
  omega

/-- One round extends the history by its header. -/
theorem History.round {state next : LoopState} {blockHeader : CircuitBlockHeader}
    (history : History network hashing seen state.chainState) (small : seen.length < 2 ^ 32)
    (applied : applyBlockHeader network hashing state blockHeader = .ok next) :
    History network hashing (seen ++ [blockHeader]) next.chainState := by
  obtain ⟨accepts, mmr, difficulty, appended, -, rfl⟩ :=
    (applyBlockHeader_ok_iff network hashing).mp applied
  have height : state.nextHeight = ofNat seen.length := history.blockHeight
  have heightNat := history.toNat_nextHeight network hashing small
  refine ⟨?_, ?_, ?_, ?_, ?_, ?_, ?_, ?_⟩
  · simp only [advance, height, List.length_append, List.length_singleton]
    rw [ofNat_add]
    rfl
  · simp [advance, previousHash]
  · rw [List.map_append]
    exact ExceptRun.run_snoc_iff.mpr ⟨_, history.blockHashesMmr, appended⟩
  · have pushed := history.prev11Timestamps.push blockHeader.time (Nat.mod_lt _ (by decide))
    simp only [List.length_map] at pushed
    simpa [advance, heightNat] using pushed
  · intro other found foundAt
    rw [List.length_append, List.length_singleton, Nat.add_sub_cancel] at foundAt
    simp only [advance, nextEpochStartTime, history.startsEpoch_iff network hashing small]
    rcases getElem?_append_singleton_eq_some foundAt with ⟨inside, foundAt⟩ | ⟨last, rfl⟩
    · rw [if_neg (by omega)]
      apply history.epochStartTime other
      rw [← foundAt]
      congr 2
      omega
    · rw [if_pos ⟨other, by omega⟩]
  · intro position found foundAt
    rcases getElem?_append_singleton_eq_some foundAt with ⟨inside, foundAt⟩ | ⟨rfl, rfl⟩
    · rw [previousHash_append hashing (Nat.le_of_lt inside)]
      exact history.linked position found foundAt
    · rw [previousHash_append hashing (Nat.le_refl _), accepts.connected, history.bestBlockHash]
  · intro position found late foundAt
    rcases getElem?_append_singleton_eq_some foundAt with ⟨inside, foundAt⟩ | ⟨rfl, rfl⟩
    · rw [precedingTimes_append (Nat.le_of_lt inside) late]
      exact history.timestamps position found late foundAt
    · rw [precedingTimes_append (Nat.le_refl _) late, ← median_eq history.prev11Timestamps late]
      exact accepts.timestamp
  · intro found member
    rcases List.mem_append.mp member with earlier | last
    · exact history.positive found earlier
    · rw [List.mem_singleton] at last
      subst last
      exact UInt32.lt_of_le_of_lt UInt32.zero_le accepts.timestamp

theorem History.restart (history : History network hashing seen state.chainState) :
    History network hashing seen (start network state.finish).chainState := by
  rw [start_chainState]
  exact history.totalWork network hashing _

/-- The history of a run from the genesis state, in any number of calls. -/
theorem applyBatches_genesis_history {batches : List (List CircuitBlockHeader)}
    {final : ChainState} (small : batches.flatten.length ≤ 2 ^ 32)
    (run : (ChainState.genesisState network).applyBatches network hashing batches = .ok final) :
    History network hashing batches.flatten final := by
  have history : ∀ _ : batches.flatten.length ≤ 2 ^ 32,
      History network hashing batches.flatten (start network final).chainState := by
    refine applyBatches_history network hashing
      (fun seen state => seen.length ≤ 2 ^ 32 → History network hashing seen state.chainState)
      ?_ ?_ ?_ run
    · intro _
      rw [start_chainState]
      exact History.genesis network hashing
    · intro seen state blockHeader next history applied small
      rw [List.length_append, List.length_singleton] at small
      exact (history (by omega)).round network hashing (by omega) applied
    · intro seen state history small
      exact (history small).restart network hashing
  rw [start_chainState] at history
  exact history small

/-- A run from the genesis state leaves a chain state that is determined by its headers,
and the headers point to their predecessors and respect the median time past. -/
theorem applyBatches_genesis_determined (blockHeaders : List CircuitBlockHeader)
    (batches : List (List CircuitBlockHeader)) (final : ChainState)
    (split : batches.flatten = blockHeaders) (nonempty : 1 ≤ blockHeaders.length)
    (small : blockHeaders.length < 2 ^ 32)
    (run : (ChainState.genesisState network).applyBatches network hashing batches = .ok final) :
    final.blockHeight.toNat = blockHeaders.length - 1 ∧
    (∃ last, blockHeaders[blockHeaders.length - 1]? = some last ∧
      final.bestBlockHash = hashing.computeBlockHash last) ∧
    MMRGuest.ofLeaves hashing.hashPair (blockHeaders.map hashing.computeBlockHash) =
      .ok final.blockHashesMmr ∧
    (∀ slot (inside : slot < 11), final.prev11Timestamps[slot] =
      (latest 11 slot (blockHeaders.map (·.time))).getD 0) ∧
    (network ≠ .regtest → ∃ first,
      blockHeaders[2016 * ((blockHeaders.length - 1) / 2016)]? = some first ∧
        final.epochStartTime = first.time) ∧
    (∀ height blockHeader, blockHeaders[height]? = some blockHeader →
      blockHeader.prevBlockHash = previousHash hashing blockHeaders height) ∧
    (∀ height blockHeader, 11 ≤ height → blockHeaders[height]? = some blockHeader →
      sixthSmallest (precedingTimes blockHeaders height) < blockHeader.time) := by
  subst split
  have history := applyBatches_genesis_history network hashing (Nat.le_of_lt small) run
  generalize batches.flatten = blockHeaders at *
  obtain ⟨last, lastAt⟩ : ∃ last, blockHeaders[blockHeaders.length - 1]? = some last :=
    ⟨_, List.getElem?_eq_getElem (by omega)⟩
  refine ⟨?_, ⟨last, lastAt, ?_⟩, history.blockHashesMmr, history.prev11Timestamps, ?_,
    history.linked, history.timestamps⟩
  · have height := congrArg UInt32.toNat history.blockHeight
    have bound := final.blockHeight.toNat_lt
    rw [UInt32.toNat_add, UInt32.toNat_ofNat', Nat.mod_eq_of_lt small] at height
    change (_ + 1) % 2 ^ 32 = _ at height
    omega
  · rw [history.bestBlockHash, previousHash_pos hashing nonempty, lastAt]
    rfl
  · intro other
    obtain ⟨first, firstAt⟩ : ∃ first,
        blockHeaders[2016 * ((blockHeaders.length - 1) / 2016)]? = some first :=
      ⟨_, List.getElem?_eq_getElem (by omega)⟩
    exact ⟨first, firstAt, history.epochStartTime other first firstAt⟩

/-- The first two blocks of `mainnet`, in two calls. -/
theorem applyBatches_genesis_determined_mainnet :
    ∃ final, (ChainState.genesisState .mainnet).applyBatches .mainnet (.ofSha256 Sha2.sha256)
        [[mainnetBlock0], [mainnetBlock1]] = .ok final ∧
      final.blockHeight.toNat = 1 ∧ final.prev11Timestamps[1] = mainnetBlock1.time := by
  obtain ⟨-, final, -, -, run⟩ := mainnet_accepted
  obtain ⟨height, -, -, timestamps, -⟩ := applyBatches_genesis_determined .mainnet
    (.ofSha256 Sha2.sha256) [mainnetBlock0, mainnetBlock1] _ final rfl (by decide) (by decide) run
  exact ⟨final, run, height, timestamps 1 (by decide)⟩

/-! ## Binding -/

section Binding

variable {headers : Set CircuitBlockHeader} (collisionFree : headers.InjOn hashing.computeBlockHash)
  (nonzero : ∀ header ∈ headers, hashing.computeBlockHash header ≠ zeroBytes)

include collisionFree nonzero

/-- Histories agree up to positions that the same hash belongs to. -/
theorem History.take_eq {left right : List CircuitBlockHeader} {chain chain' : ChainState}
    (inside : ∀ header ∈ left ++ right, header ∈ headers)
    (history : History network hashing left chain)
    (history' : History network hashing right chain') {i j : Nat} (below : i ≤ left.length)
    (below' : j ≤ right.length)
    (same : previousHash hashing left i = previousHash hashing right j) :
    left.take i = right.take j := by
  induction i generalizing j with
  | zero =>
    cases j with
    | zero => rfl
    | succ j =>
      rw [previousHash, previousHash, List.getElem?_eq_getElem below'] at same
      exact absurd same.symm (nonzero _ (inside _ (by simp)))
  | succ i ih =>
    rw [previousHash, List.getElem?_eq_getElem below] at same
    cases j with
    | zero => exact absurd same (nonzero _ (inside _ (by simp)))
    | succ j =>
      -- The two headers are the same, so they point to the same block.
      rw [previousHash, List.getElem?_eq_getElem below'] at same
      have equal := collisionFree (inside _ (by simp)) (inside _ (by simp)) same
      have before := history.linked i _ (List.getElem?_eq_getElem below)
      rw [equal, history'.linked j _ (List.getElem?_eq_getElem below')] at before
      rw [List.take_succ_eq_append_getElem below, List.take_succ_eq_append_getElem below', equal,
        ih (by omega) (by omega) before.symm]

/-- The best block hash binds the whole history: if the hashes of headers do not collide and none
is zero, runs over at most `2 ^ 32` headers from the genesis state that end with the same hash were
given the same headers. -/
theorem best_block_hash_binds {batches batches' : List (List CircuitBlockHeader)}
    {final final' : ChainState}
    (inside : ∀ header ∈ batches.flatten ++ batches'.flatten, header ∈ headers)
    (small : batches.flatten.length ≤ 2 ^ 32) (small' : batches'.flatten.length ≤ 2 ^ 32)
    (run : (ChainState.genesisState network).applyBatches network hashing batches = .ok final)
    (run' : (ChainState.genesisState network).applyBatches network hashing batches' = .ok final')
    (same : final.bestBlockHash = final'.bestBlockHash) : batches.flatten = batches'.flatten := by
  have history := applyBatches_genesis_history network hashing small run
  have history' := applyBatches_genesis_history network hashing small' run'
  rw [history.bestBlockHash, history'.bestBlockHash] at same
  have taken := history.take_eq network hashing collisionFree nonzero inside history'
    (Nat.le_refl _) (Nat.le_refl _) same
  rwa [List.take_length, List.take_length] at taken

end Binding

/-- The first two blocks of `mainnet` are the only ones among these headers that lead to their best
block hash, in one call or in two. -/
theorem best_block_hash_binds_mainnet :
    ∃ final, (ChainState.genesisState .mainnet).applyBatches .mainnet (.ofSha256 Sha2.sha256)
        [[mainnetBlock0], [mainnetBlock1]] = .ok final ∧
      ((ChainState.genesisState .mainnet).applyBatches .mainnet (.ofSha256 Sha2.sha256)
        [[mainnetBlock0, mainnetBlock1]]).map ChainState.bestBlockHash = .ok final.bestBlockHash ∧
      ∀ (batches : List (List CircuitBlockHeader)) (other : ChainState),
        (∀ header ∈ batches.flatten, header = mainnetBlock0 ∨ header = mainnetBlock1) →
        batches.flatten.length ≤ 2 ^ 32 →
        (ChainState.genesisState .mainnet).applyBatches .mainnet (.ofSha256 Sha2.sha256) batches =
          .ok other → other.bestBlockHash = final.bestBlockHash →
            batches.flatten = [mainnetBlock0, mainnetBlock1] := by
  obtain ⟨-, final, -, -, run⟩ := mainnet_accepted
  have evaluated : ((ChainState.genesisState .mainnet).applyBatches .mainnet
      (.ofSha256 Sha2.sha256) [[mainnetBlock0], [mainnetBlock1]]).map ChainState.bestBlockHash =
      ((ChainState.genesisState .mainnet).applyBatches .mainnet (.ofSha256 Sha2.sha256)
        [[mainnetBlock0, mainnetBlock1]]).map ChainState.bestBlockHash := by
    decide +kernel
  rw [run] at evaluated
  have hashes : (BlockHashing.ofSha256 Sha2.sha256).computeBlockHash mainnetBlock0 ≠
      (BlockHashing.ofSha256 Sha2.sha256).computeBlockHash mainnetBlock1 ∧
      (BlockHashing.ofSha256 Sha2.sha256).computeBlockHash mainnetBlock0 ≠ zeroBytes ∧
      (BlockHashing.ofSha256 Sha2.sha256).computeBlockHash mainnetBlock1 ≠ zeroBytes := by
    decide +kernel
  have collisionFree : ({mainnetBlock0, mainnetBlock1} : Set CircuitBlockHeader).InjOn
      (BlockHashing.ofSha256 Sha2.sha256).computeBlockHash := by
    rw [Set.injOn_pair]
    exact fun equal => absurd equal hashes.1
  refine ⟨final, run, evaluated.symm, fun batches other inside small run' same => ?_⟩
  refine best_block_hash_binds .mainnet _ collisionFree ?_ ?_ small (by simp) run' run same
  · rintro _ (rfl | rfl)
    · exact hashes.2.1
    · exact hashes.2.2
  · intro header member
    rcases List.mem_append.mp member with given | known
    · exact inside header given
    · simpa using known

end Clementine
