import Clementine.HeaderChain.History

/-!
# The bits of an epoch and its first header

The first header of an epoch always carries the bits of the chain state, and the
chain state keeps them up to the last header of the epoch.  After that header it
already stores the bits of the next epoch.
-/

namespace Clementine

open ByteNumeral LoopState

variable (network : Network) (hashing : BlockHashing)

/-- Height of the first header of the epoch that contains a height. -/
def epochStart (height : Nat) : Nat := 2016 * (height / 2016)

/-- The bits of a chain state and of its headers, related to the first headers of the
epochs. -/
structure BitsHistory (blockHeaders : List CircuitBlockHeader) (chain : ChainState) : Prop where
  regtest : network = .regtest → chain.epochStartTime = 0 ∧
    chain.currentTargetBits = network.constants.maxBits ∧
    ∀ blockHeader ∈ blockHeaders, blockHeader.bits = network.constants.maxBits
  inside : network ≠ .regtest → (blockHeaders.length - 1) % 2016 ≠ 2015 →
    ∀ first, blockHeaders[epochStart (blockHeaders.length - 1)]? = some first →
      chain.currentTargetBits = first.bits
  adjusted : network ≠ .regtest → (blockHeaders.length - 1) % 2016 = 2015 →
    ∀ first last, blockHeaders[epochStart (blockHeaders.length - 1)]? = some first →
      blockHeaders[blockHeaders.length - 1]? = some last →
      targetToBits (calculateNewDifficulty network first.time last.time first.bits) =
        .ok chain.currentTargetBits
  headers : network ≠ .regtest → network ≠ .testnet4 → ∀ height blockHeader first,
    blockHeaders[height]? = some blockHeader → blockHeaders[epochStart height]? = some first →
      blockHeader.bits = first.bits

namespace BitsHistory

variable {network hashing}

theorem genesis : BitsHistory network [] (ChainState.genesisState network) where
  regtest _ := ⟨rfl, rfl, by simp⟩
  inside := by simp
  adjusted := by simp
  headers := by simp

variable {seen : List CircuitBlockHeader} {state next : LoopState}
  {blockHeader : CircuitBlockHeader}

theorem totalWork {chain : ChainState} (bits : BitsHistory network seen chain)
    (totalWork : Bytes32) : BitsHistory network seen { chain with totalWork } :=
  ⟨bits.1, bits.2, bits.3, bits.4⟩

theorem restart (bits : BitsHistory network seen state.chainState) :
    BitsHistory network seen (start network state.finish).chainState := by
  rw [start_chainState]
  exact bits.totalWork _

/-- The first header of an epoch carries the bits of the chain state. -/
theorem first_bits (history : History network hashing seen state.chainState)
    (small : seen.length < 2 ^ 32) (other : network ≠ .regtest)
    (starts : seen.length % 2016 = 0)
    (accepts : state.Accepts network hashing blockHeader) :
    blockHeader.bits = state.chainState.currentTargetBits := by
  have first := (history.startsEpoch_iff network hashing small).mpr starts
  have early : ¬UsesMaxTarget network state.nextHeight state.lastBlockTime blockHeader.time :=
    fun late => late.2.2 first
  rw [accepts.bits, expectedBits, if_neg (not_or.mpr ⟨other, early⟩)]

/-- Outside `testnet4` every header carries the bits of the chain state. -/
theorem header_bits (other : network ≠ .regtest) (plain : network ≠ .testnet4)
    (accepts : state.Accepts network hashing blockHeader) :
    blockHeader.bits = state.chainState.currentTargetBits := by
  have early : ¬UsesMaxTarget network state.nextHeight state.lastBlockTime blockHeader.time :=
    fun late => plain late.1
  rw [accepts.bits, expectedBits, if_neg (not_or.mpr ⟨other, early⟩)]

/-- Before a header inside an epoch, the chain state stores the bits of the first header. -/
theorem current_bits (bits : BitsHistory network seen state.chainState)
    (other : network ≠ .regtest) (continues : seen.length % 2016 ≠ 0) {first : CircuitBlockHeader}
    (firstAt : seen[epochStart seen.length]? = some first) :
    state.chainState.currentTargetBits = first.bits := by
  have sameEpoch : epochStart (seen.length - 1) = epochStart seen.length := by
    rw [epochStart, epochStart]
    omega
  exact bits.inside other (by omega) first (by rw [sameEpoch]; exact firstAt)

/-- One round extends the history of the bits by its header. -/
theorem round (bits : BitsHistory network seen state.chainState)
    (history : History network hashing seen state.chainState) (small : seen.length < 2 ^ 32)
    (applied : applyBlockHeader network hashing state blockHeader = .ok next) :
    BitsHistory network (seen ++ [blockHeader]) next.chainState := by
  obtain ⟨accepts, mmr, difficulty, -, adjusted, rfl⟩ :=
    (applyBlockHeader_ok_iff network hashing).mp applied
  have endsIff := history.endsEpoch_iff network hashing small
  rw [adjustDifficulty_ok_iff] at adjusted
  have lengthEq : (seen ++ [blockHeader]).length - 1 = seen.length := by simp
  refine ⟨?_, ?_, ?_, ?_⟩
  · intro regtest
    obtain ⟨startTime, stored, carried⟩ := bits.regtest regtest
    rw [if_neg fun ends => ends.1 regtest] at adjusted
    subst adjusted
    refine ⟨?_, stored, fun found member => ?_⟩
    · simp only [advance, nextEpochStartTime]
      rw [if_neg fun starts => starts.1 regtest]
      exact startTime
    rcases List.mem_append.mp member with earlier | last
    · exact carried found earlier
    · rw [List.mem_singleton] at last
      rw [last, accepts.bits, expectedBits, if_pos (.inl regtest)]
  · intro other continues first firstAt
    rw [lengthEq] at continues firstAt
    rw [if_neg fun ends => continues (endsIff.mp ends.2)] at adjusted
    subst adjusted
    rcases getElem?_append_singleton_eq_some firstAt with ⟨inside, firstAt⟩ | ⟨starts, rfl⟩
    · exact bits.current_bits other (by rw [epochStart] at inside; omega) firstAt
    · exact (first_bits history small other (by rw [epochStart] at starts; omega) accepts).symm
  · intro other ends first last firstAt lastAt
    rw [lengthEq] at ends firstAt lastAt
    rw [if_pos ⟨other, endsIff.mpr ends⟩] at adjusted
    rw [List.getElem?_concat_length, Option.some.injEq] at lastAt
    subst lastAt
    rw [List.getElem?_append_left (by rw [epochStart]; omega)] at firstAt
    have startTime := history.nextEpochStartTime_eq network hashing small other (by omega) firstAt
      blockHeader
    rw [← startTime, ← bits.current_bits other (by omega) firstAt, ← adjusted.1]
    exact adjusted.2
  · intro other plain height found first foundAt firstAt
    have carried := header_bits other plain accepts
    rcases getElem?_append_singleton_eq_some foundAt with ⟨inside, foundAt⟩ | ⟨rfl, rfl⟩
    · rw [List.getElem?_append_left (by rw [epochStart]; omega)] at firstAt
      exact bits.headers other plain height found first foundAt firstAt
    · rcases getElem?_append_singleton_eq_some firstAt with ⟨earlier, firstAt⟩ | ⟨-, rfl⟩
      · rw [carried]
        exact bits.current_bits other (by rw [epochStart] at earlier; omega) firstAt
      · rfl

end BitsHistory

/-- The bits of a run from the genesis state, in any number of calls. -/
theorem applyBatches_genesis_bits {batches : List (List CircuitBlockHeader)}
    {final : ChainState} (small : batches.flatten.length ≤ 2 ^ 32)
    (run : (ChainState.genesisState network).applyBatches network hashing batches = .ok final) :
    BitsHistory network batches.flatten final := by
  have both : ∀ _ : batches.flatten.length ≤ 2 ^ 32,
      History network hashing batches.flatten (start network final).chainState ∧
        BitsHistory network batches.flatten (start network final).chainState := by
    refine applyBatches_history network hashing
      (fun seen state => seen.length ≤ 2 ^ 32 → History network hashing seen state.chainState ∧
        BitsHistory network seen state.chainState) ?_ ?_ ?_ run
    · intro _
      rw [start_chainState]
      exact ⟨History.genesis network hashing, BitsHistory.genesis⟩
    · intro seen state blockHeader next both applied small
      rw [List.length_append, List.length_singleton] at small
      obtain ⟨history, bits⟩ := both (by omega)
      exact ⟨history.round network hashing (by omega) applied,
        bits.round history (by omega) applied⟩
    · intro seen state both small
      obtain ⟨history, bits⟩ := both small
      exact ⟨history.restart network hashing, bits.restart⟩
  rw [start_chainState] at both
  exact (both small).2

end Clementine
