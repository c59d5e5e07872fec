import Clementine.HeaderChain.TargetTracker

/-!
# Splitting a list of headers into several calls

A call of `apply_block_headers` expands the target from the stored bits when it
starts, but after the last block of an epoch it goes on with the target that
`calculate_new_difficulty` returned.  The stored bits keep only the three leading
bytes of that target.  Until the end of the next epoch a call that has seen the
adjustment therefore compares hashes with, and counts the work of, a larger target
than a call that starts after it.

Splitting a list makes no difference exactly when every header that is checked
against two different targets meets the smaller one and counts for the same work.
-/

namespace Clementine

open ByteNumeral TargetTracker ExceptRun

variable (network : Network) (hashing : BlockHashing)

/-! ## Starting a second call -/

variable {state : LoopState}

theorem tracker_restart (stored : state.TimeStored network) :
    (LoopState.start network state.finish).tracker = state.tracker.restart network := by
  have time : (LoopState.start network state.finish).lastBlockTime =
      (state.tracker.restart network).lastBlockTime := by
    by_cases testnet : network = .testnet4
    · by_cases wrapped : state.chainState.blockHeight = 0xFFFFFFFF
      · simp [LoopState.start, LoopState.finish, restart, LoopState.tracker, wrapped]
      · rw [LoopState.TimeStored, if_pos testnet] at stored
        simp [LoopState.start, LoopState.finish, restart, LoopState.tracker,
          testnet, wrapped, stored wrapped]
    · simp [LoopState.start, restart, testnet]
  simp only [LoopState.tracker, time]
  rfl

/-! ## Targets that differ by the precision of compact bits -/

/-- The second target is the first one, possibly written as compact bits and expanded
again. -/
def Coarsens (target coarse : Bytes32) : Prop :=
  coarse = target ∨ ∃ bits, targetToBits target = .ok bits ∧ coarse = bitsToTarget bits

namespace Coarsens

variable {target coarse : Bytes32}

theorem refl (target : Bytes32) : Coarsens target target := .inl rfl

theorem le (coarsens : Coarsens target coarse) : beNat coarse.toList ≤ beNat target.toList := by
  rcases coarsens with rfl | ⟨bits, picked, rfl⟩
  · exact Nat.le_refl _
  · exact bitsToTarget_le_of_targetToBits picked

/-- A coarser target counts for more work, but not for much more. -/
theorem work (coarsens : Coarsens target coarse) :
    (calculateWork target).toNat ≤ (calculateWork coarse).toNat ∧
      (calculateWork coarse).toNat ≤ (calculateWork target).toNat + 2 ^ 241 := by
  rcases coarsens with rfl | ⟨bits, picked, rfl⟩
  · omega
  · have small := bitsToTarget_le_of_targetToBits picked
    have large := le_bitsToTarget_of_targetToBits picked
    have bounded := (targetToBits_bounds picked).2
    rw [toNat_calculateWork, toNat_calculateWork]
    refine ⟨workOf_le_workOf (by omega) small (by omega), ?_⟩
    exact Nat.le_trans (workOf_le large (by omega)) (Nat.le_add_left _ _)

end Coarsens

/-- The stored bits denote the target that a call works with, up to precision. -/
def LoopState.TargetStored (state : LoopState) : Prop :=
  Coarsens state.currentTargetBytes (LoopState.start network state.finish).currentTargetBytes ∧
    (network = .regtest →
      (LoopState.start network state.finish).currentTargetBytes = state.currentTargetBytes)

theorem LoopState.targetStored_start (self : ChainState) :
    (LoopState.start network self).TargetStored network := by
  simp only [TargetStored, start, finish, implies_true, and_true]
  exact Coarsens.refl _

variable {blockHeader : CircuitBlockHeader}

theorem applyBlockHeader_targetStored {state next : LoopState} (stored : state.TargetStored network)
    (applied : applyBlockHeader network hashing state blockHeader = .ok next) :
    next.TargetStored network := by
  obtain ⟨-, mmr, difficulty, -, adjusted, rfl⟩ :=
    (applyBlockHeader_ok_iff network hashing).mp applied
  rw [adjustDifficulty_ok_iff] at adjusted
  split at adjusted
  next ends =>
    exact ⟨.inr ⟨difficulty.2, adjusted.2, if_neg ends.1⟩, fun regtest => absurd regtest ends.1⟩
  next continues =>
    subst adjusted
    exact stored

variable {blockHeaders : List CircuitBlockHeader} {self : ChainState} {one two : LoopState}
variable {final : LoopState}

theorem run_targetStored
    (run : blockHeaders.foldlM (applyBlockHeader network hashing) (LoopState.start network self) =
      .ok final) : final.TargetStored network :=
  run_history (fun _ state => state.TargetStored network) []
    (LoopState.targetStored_start network self)
    (fun _ _ _ _ stored applied => applyBlockHeader_targetStored network hashing stored applied) run

/-! ## One call and two calls side by side -/

/-- The loop states of one call and of a second call at the same header. -/
structure Alike (one two : LoopState) : Prop where
  chainState : two.chainState = { one.chainState with totalWork := two.chainState.totalWork }
  lastBlockTime : network = .testnet4 →
    two.lastBlockTime = one.lastBlockTime ∨ one.nextHeight % blocksPerEpoch = 0
  target : Coarsens one.currentTargetBytes two.currentTargetBytes
  regtest : network = .regtest → two.currentTargetBytes = one.currentTargetBytes

namespace Alike

variable {network}

/-- A second call starts alike to where the first one stopped. -/
theorem restart (time : state.TimeStored network) (target : state.TargetStored network) :
    Alike network state (LoopState.start network state.finish) where
  chainState := rfl
  lastBlockTime := by
    intro testnet
    rw [LoopState.TimeStored, if_pos testnet] at time
    by_cases wrapped : state.chainState.blockHeight = 0xFFFFFFFF
    · right
      rw [LoopState.nextHeight, wrapped]
      rfl
    · left
      simp [LoopState.start, LoopState.finish, testnet, wrapped, time wrapped]
  target := target.1
  regtest := target.2

theorem nextHeight (alike : Alike network one two) : two.nextHeight = one.nextHeight := by
  rw [LoopState.nextHeight, alike.chainState, LoopState.nextHeight]

theorem usesMaxTarget_iff (alike : Alike network one two) (time : UInt32) :
    UsesMaxTarget network two.nextHeight two.lastBlockTime time ↔
      UsesMaxTarget network one.nextHeight one.lastBlockTime time := by
  rw [alike.nextHeight]
  by_cases testnet : network = .testnet4
  · rcases alike.lastBlockTime testnet with equal | first
    · rw [equal]
    · simp [UsesMaxTarget, first]
  · simp [UsesMaxTarget, testnet]

theorem targetToUse (alike : Alike network one two) (blockHeader : CircuitBlockHeader) :
    Coarsens (one.targetToUse network blockHeader) (two.targetToUse network blockHeader) := by
  simp only [LoopState.targetToUse, alike.usesMaxTarget_iff]
  split
  · exact Coarsens.refl _
  · exact alike.target

theorem expectedBits (alike : Alike network one two) (blockHeader : CircuitBlockHeader) :
    two.expectedBits network blockHeader = one.expectedBits network blockHeader := by
  simp only [LoopState.expectedBits, alike.usesMaxTarget_iff]
  rw [alike.chainState]

theorem nextEpochStartTime (alike : Alike network one two) (blockHeader : CircuitBlockHeader) :
    two.nextEpochStartTime network blockHeader = one.nextEpochStartTime network blockHeader := by
  simp only [LoopState.nextEpochStartTime, alike.nextHeight]
  rw [alike.chainState]

variable {hashing}

/-- The second call accepts a header exactly when the first one does and the hash meets
the second call's target. -/
theorem accepts_iff (alike : Alike network one two) :
    two.Accepts network hashing blockHeader ↔ one.Accepts network hashing blockHeader ∧
        leNat (hashing.computeBlockHash blockHeader).toList ≤
          beNat (two.targetToUse network blockHeader).toList := by
  have hashOrder := (alike.targetToUse blockHeader).le
  have same := alike.chainState
  constructor
  · rintro ⟨connected, bits, proofOfWork, timestamp⟩
    rw [same] at connected timestamp
    rw [alike.expectedBits] at bits
    exact ⟨⟨connected, bits, Nat.le_trans proofOfWork hashOrder, timestamp⟩, proofOfWork⟩
  · rintro ⟨⟨connected, bits, -, timestamp⟩, proofOfWork⟩
    refine ⟨?_, ?_, proofOfWork, ?_⟩
    · rw [same]
      exact connected
    · rw [alike.expectedBits]
      exact bits
    · rw [same]
      exact timestamp

theorem adjustDifficulty_ok (alike : Alike network one two) (blockHeader : CircuitBlockHeader) :
    (∃ difficulty, adjustDifficulty network two two.nextHeight
        (two.nextEpochStartTime network blockHeader) blockHeader.time = .ok difficulty) ↔
      ∃ difficulty, adjustDifficulty network one one.nextHeight
        (one.nextEpochStartTime network blockHeader) blockHeader.time = .ok difficulty := by
  simp only [adjustDifficulty_ok_iff, alike.nextHeight, alike.nextEpochStartTime]
  split
  · rw [alike.chainState]
  · exact ⟨fun _ => ⟨_, rfl⟩, fun _ => ⟨_, rfl⟩⟩

theorem round_ok (alike : Alike network one two) :
    (∃ next, applyBlockHeader network hashing two blockHeader = .ok next) ↔
      (∃ next, applyBlockHeader network hashing one blockHeader = .ok next) ∧
        leNat (hashing.computeBlockHash blockHeader).toList ≤
          beNat (two.targetToUse network blockHeader).toList := by
  have appendEq : two.chainState.blockHashesMmr = one.chainState.blockHashesMmr := by
    rw [alike.chainState]
  simp only [applyBlockHeader_ok_iff, alike.accepts_iff, appendEq]
  constructor
  · rintro ⟨next, ⟨accepts, proofOfWork⟩, mmr, difficulty, appended, adjusted, -⟩
    obtain ⟨difficulty', adjusted'⟩ :=
      (alike.adjustDifficulty_ok blockHeader).mp ⟨difficulty, adjusted⟩
    exact ⟨⟨_, accepts, mmr, difficulty', appended, adjusted', rfl⟩, proofOfWork⟩
  · rintro ⟨⟨next, accepts, mmr, difficulty, appended, adjusted, -⟩, proofOfWork⟩
    obtain ⟨difficulty', adjusted'⟩ :=
      (alike.adjustDifficulty_ok blockHeader).mpr ⟨difficulty, adjusted⟩
    exact ⟨_, ⟨accepts, proofOfWork⟩, mmr, difficulty', appended, adjusted', rfl⟩

/-- The adjusted difficulties are equal at the end of an epoch, and unchanged inside. -/
theorem adjustDifficulty_eq (alike : Alike network one two)
    {difficulty difficulty' : Bytes32 × UInt32}
    (adjusted : adjustDifficulty network one one.nextHeight
      (one.nextEpochStartTime network blockHeader) blockHeader.time = .ok difficulty)
    (adjusted' : adjustDifficulty network two two.nextHeight
      (two.nextEpochStartTime network blockHeader) blockHeader.time = .ok difficulty') :
    if network ≠ .regtest ∧ one.nextHeight % blocksPerEpoch = blocksPerEpoch - 1 then
      difficulty' = difficulty
    else
      difficulty = (one.currentTargetBytes, one.chainState.currentTargetBits) ∧
        difficulty' = (two.currentTargetBytes, one.chainState.currentTargetBits) := by
  rw [adjustDifficulty_ok_iff, alike.nextHeight, alike.nextEpochStartTime, alike.chainState]
    at adjusted'
  rw [adjustDifficulty_ok_iff] at adjusted
  split at adjusted
  next ends =>
    rw [if_pos ends, ← adjusted.1] at adjusted'
    obtain ⟨targetEq, picked⟩ := adjusted'
    rw [targetEq, adjusted.2, Except.ok.injEq] at picked
    rw [if_pos ends]
    exact Prod.ext targetEq picked.symm
  next continues =>
    rw [if_neg continues] at adjusted' ⊢
    exact ⟨adjusted, adjusted'⟩

/-- Both calls stay alike, with equal targets once an epoch has ended. -/
theorem round (alike : Alike network one two) {one' two' : LoopState}
    (oneApplied : applyBlockHeader network hashing one blockHeader = .ok one')
    (twoApplied : applyBlockHeader network hashing two blockHeader = .ok two') :
    Alike network one' two' ∧ (two.currentTargetBytes = one.currentTargetBytes ∨
          one.nextHeight % blocksPerEpoch = blocksPerEpoch - 1 →
        two'.currentTargetBytes = one'.currentTargetBytes) := by
  obtain ⟨-, mmr, difficulty, appended, adjusted, rfl⟩ :=
    (applyBlockHeader_ok_iff network hashing).mp oneApplied
  obtain ⟨-, mmr', difficulty', appended', adjusted', rfl⟩ :=
    (applyBlockHeader_ok_iff network hashing).mp twoApplied
  rw [alike.chainState, appended, Except.ok.injEq] at appended'
  have difficulties := alike.adjustDifficulty_eq adjusted adjusted'
  have alikeWith (bits : difficulty'.2 = difficulty.2)
      (target : Coarsens difficulty.1 difficulty'.1)
      (regtest : network = .regtest → difficulty'.1 = difficulty.1) :
      Alike network (one.advance network hashing blockHeader mmr difficulty)
        (two.advance network hashing blockHeader mmr' difficulty') := by
    refine ⟨?_, fun testnet => .inl ?_, target, regtest⟩
    · simp only [LoopState.advance, alike.nextHeight, alike.nextEpochStartTime, bits, appended']
      rw [alike.chainState]
    · simp only [LoopState.advance, if_pos testnet]
  split at difficulties
  next ends =>
    subst difficulties
    exact ⟨alikeWith rfl (Coarsens.refl _) fun _ => rfl, fun _ => rfl⟩
  next continues =>
    obtain ⟨rfl, rfl⟩ := difficulties
    refine ⟨alikeWith rfl alike.target alike.regtest, ?_⟩
    rintro (equal | last)
    · exact equal
    · have regtest : network = .regtest := by
        by_contra other
        exact continues ⟨other, last⟩
      exact alike.regtest regtest

/-- What the second call accepts, one call accepts. -/
theorem run_ok_of_two {start start' final' : LoopState} (alike : Alike network start start')
    (run : blockHeaders.foldlM (applyBlockHeader network hashing) start' = .ok final') :
    ∃ final, blockHeaders.foldlM (applyBlockHeader network hashing) start = .ok final ∧
      Alike network final final' :=
  run_simulation (fun two one => Alike network one two)
    (fun two one blockHeader two' alike applied => by
      obtain ⟨one', applied'⟩ := (alike.round_ok.mp ⟨two', applied⟩).1
      exact ⟨one', applied', (alike.round applied' applied).1⟩)
    alike run

theorem finish_eq (alike : Alike network one two) (sameWork : one.currentWork = two.currentWork) :
    one.finish = two.finish := by
  rw [LoopState.finish, LoopState.finish, alike.chainState, sameWork]

end Alike

/-! ## The condition on the headers -/

/-- All headers are interchangeable between the targets of two trackers. -/
def AgreesAlong : TargetTracker → TargetTracker → List CircuitBlockHeader → Prop
  | _, _, [] => True
  | one, two, blockHeader :: rest =>
    Interchangeable hashing (one.targetToUse network blockHeader)
      (two.targetToUse network blockHeader) blockHeader ∧
    AgreesAlong (one.step network blockHeader) (two.step network blockHeader) rest

namespace Alike

variable {network hashing}

/-- With interchangeable headers the second call accepts what one call accepts, and counts
the same work. -/
theorem run_ok_of_agrees (alike : Alike network one two)
    (sameWork : one.currentWork = two.currentWork)
    (agrees : AgreesAlong network hashing one.tracker two.tracker blockHeaders)
    (run : blockHeaders.foldlM (applyBlockHeader network hashing) one = .ok final) :
    ∃ final', blockHeaders.foldlM (applyBlockHeader network hashing) two = .ok final' ∧
      final.finish = final'.finish := by
  induction blockHeaders generalizing one two with
  | nil =>
    cases run
    exact ⟨two, rfl, alike.finish_eq sameWork⟩
  | cons blockHeader blockHeaders ih =>
    obtain ⟨one', applied, rest⟩ := run_cons_iff.mp run
    obtain ⟨headAgrees, restAgrees⟩ := agrees
    have proofOfWork := headAgrees.proofOfWork
      ((applyBlockHeader_ok_iff network hashing).mp applied).1.proofOfWork
    obtain ⟨two', applied'⟩ := alike.round_ok.mpr ⟨⟨one', applied⟩, proofOfWork⟩
    rw [← applyBlockHeader_tracker network hashing applied,
      ← applyBlockHeader_tracker network hashing applied'] at restAgrees
    have sameWork' : one'.currentWork = two'.currentWork := by
      obtain ⟨-, _, _, -, -, rfl⟩ := (applyBlockHeader_ok_iff network hashing).mp applied
      obtain ⟨-, _, _, -, -, rfl⟩ := (applyBlockHeader_ok_iff network hashing).mp applied'
      simp only [LoopState.advance, LoopState.workToAdd_eq, sameWork]
      exact congrArg _ headAgrees.work
    obtain ⟨final', rest', finishEq⟩ :=
      ih (alike.round applied applied').1 sameWork' restAgrees rest
    exact ⟨final', run_cons_iff.mpr ⟨two', applied', rest'⟩, finishEq⟩

end Alike

/-! ## The work of one call and of two calls -/

/-- Number of headers after a height until an epoch ends.  The height wraps, which makes one
epoch longer than the others. -/
def epochRemaining (height : Nat) : Nat :=
  let steps := if height % 2016 = 2015 then 2016 else 2015 - height % 2016
  if height + steps < 2 ^ 32 then steps else 2 ^ 32 - height + 2015

theorem epochRemaining_bounds {height : Nat} (small : height < 2 ^ 32) :
    1 ≤ epochRemaining height ∧ epochRemaining height ≤ 4031 := by
  simp only [epochRemaining]
  split <;> split <;> omega

theorem epochRemaining_step {height : Nat} (small : height < 2 ^ 32)
    (continues : (height + 1) % 2 ^ 32 % 2016 ≠ 2015) :
    epochRemaining ((height + 1) % 2 ^ 32) + 1 ≤ epochRemaining height := by
  by_cases wraps : height = 2 ^ 32 - 1
  · subst wraps
    decide
  · have noWrap : (height + 1) % 2 ^ 32 = height + 1 := Nat.mod_eq_of_lt (by omega)
    rw [noWrap] at continues ⊢
    simp only [epochRemaining]
    split <;> split <;> split <;> split <;> omega

namespace Alike

variable {network hashing}

theorem targetToUse_eq (alike : Alike network one two)
    (equal : two.currentTargetBytes = one.currentTargetBytes)
    (blockHeader : CircuitBlockHeader) :
    two.targetToUse network blockHeader = one.targetToUse network blockHeader := by
  simp only [LoopState.targetToUse, alike.usesMaxTarget_iff, equal]

/-- The second call counts more work by a small number, and by zero only when all headers
are interchangeable. -/
theorem run_difference {final final' : LoopState} (alike : Alike network one two)
    (run : blockHeaders.foldlM (applyBlockHeader network hashing) one = .ok final)
    (run' : blockHeaders.foldlM (applyBlockHeader network hashing) two = .ok final') :
    ∃ difference, (final'.currentWork.toNat + one.currentWork.toNat) % 2 ^ 256 =
        (final.currentWork.toNat + two.currentWork.toNat + difference) % 2 ^ 256 ∧
      (two.currentTargetBytes = one.currentTargetBytes → difference = 0) ∧
      difference ≤ epochRemaining one.chainState.blockHeight.toNat * 2 ^ 241 ∧
      (difference = 0 → AgreesAlong network hashing one.tracker two.tracker blockHeaders) := by
  induction blockHeaders generalizing one two with
  | nil =>
    cases run
    cases run'
    exact ⟨0, by rw [Nat.add_comm, Nat.add_zero], fun _ => rfl, Nat.zero_le _, fun _ => trivial⟩
  | cons blockHeader blockHeaders ih =>
    obtain ⟨one', applied, rest⟩ := run_cons_iff.mp run
    obtain ⟨two', applied', rest'⟩ := run_cons_iff.mp run'
    obtain ⟨alike', targetEq⟩ := alike.round applied applied'
    obtain ⟨difference, worksEq, zeroOfEq, bound, agrees⟩ := ih alike' rest rest'
    rw [applyBlockHeader_tracker network hashing applied,
      applyBlockHeader_tracker network hashing applied'] at agrees
    obtain ⟨-, mmr, difficulty, -, -, rfl⟩ := (applyBlockHeader_ok_iff network hashing).mp applied
    obtain ⟨accepts', mmr', difficulty', -, -, rfl⟩ :=
      (applyBlockHeader_ok_iff network hashing).mp applied'
    obtain ⟨less, close⟩ := (alike.targetToUse blockHeader).work
    simp only [LoopState.advance, LoopState.workToAdd_eq, BitVec.toNat_add] at worksEq
    have heightBound := one.chainState.blockHeight.toNat_lt
    have remaining := epochRemaining_bounds heightBound
    refine ⟨difference + ((calculateWork (two.targetToUse network blockHeader)).toNat -
      (calculateWork (one.targetToUse network blockHeader)).toNat), by omega, ?_, ?_, ?_⟩
    · intro equal
      rw [alike.targetToUse_eq equal, zeroOfEq (targetEq (.inl equal)), Nat.sub_self]
    · by_cases ends : one.nextHeight % blocksPerEpoch = blocksPerEpoch - 1
      · rw [zeroOfEq (targetEq (.inr ends))]
        omega
      · rw [endsEpoch_iff, LoopState.toNat_nextHeight] at ends
        have shorter := epochRemaining_step heightBound ends
        rw [← LoopState.toNat_nextHeight] at shorter
        simp only [LoopState.advance] at bound
        omega
    · intro zero
      refine ⟨fun _ => ⟨accepts'.proofOfWork, BitVec.eq_of_toNat_eq ?_⟩, agrees (by omega)⟩
      change (calculateWork (one.targetToUse network blockHeader)).toNat =
        (calculateWork (two.targetToUse network blockHeader)).toNat
      omega

end Alike

/-! ## Splitting a call -/

theorem LoopState.currentWork_start_finish (state : LoopState) :
    (LoopState.start network state.finish).currentWork = state.currentWork := by
  simp [start, finish]

theorem currentWork_eq_of_finish_eq (equal : one.finish = two.finish) :
    one.currentWork = two.currentWork := by
  have bytes := congrArg (U256.fromBeBytes ∘ ChainState.totalWork) equal
  simpa [LoopState.finish] using bytes

variable {xs : List CircuitBlockHeader} {middle : LoopState}

/-- The trackers of both calls at the point where a list is split. -/
theorem split_trackers
    (run : xs.foldlM (applyBlockHeader network hashing) (LoopState.start network self) =
      .ok middle) :
    ofCall network self xs = middle.tracker ∧ (ofCall network self xs).restart network =
        (LoopState.start network middle.finish).tracker := by
  have tracked := run_tracker network hashing run
  rw [ofCall, ← tracked, tracker_restart network (run_timeStored network hashing run)]
  exact ⟨rfl, rfl⟩

variable {xs ys : List CircuitBlockHeader} {self final : ChainState}

theorem applyBlockHeaders_append_ok_iff :
    self.applyBlockHeaders network hashing (xs ++ ys) = .ok final ↔ ∃ middle state,
        xs.foldlM (applyBlockHeader network hashing) (LoopState.start network self) = .ok middle ∧
        ys.foldlM (applyBlockHeader network hashing) middle = .ok state ∧
        final = state.finish := by
  simp only [applyBlockHeaders_ok_iff, run_append_iff]
  constructor
  · rintro ⟨state, ⟨middle, first, second⟩, finalEq⟩
    exact ⟨middle, state, first, second, finalEq⟩
  · rintro ⟨middle, state, first, second, finalEq⟩
    exact ⟨state, ⟨middle, first, second⟩, finalEq⟩

theorem applyBlockHeaders_twice_ok_iff :
    (self.applyBlockHeaders network hashing xs >>= fun middle =>
        middle.applyBlockHeaders network hashing ys) = .ok final ↔
      ∃ middle state,
        xs.foldlM (applyBlockHeader network hashing) (LoopState.start network self) = .ok middle ∧
        ys.foldlM (applyBlockHeader network hashing) (LoopState.start network middle.finish) =
          .ok state ∧
        final = state.finish := by
  simp only [bind_ok_iff, applyBlockHeaders_ok_iff]
  constructor
  · rintro ⟨_, ⟨middle, first, rfl⟩, state, second, finalEq⟩
    exact ⟨middle, state, first, second, finalEq⟩
  · rintro ⟨middle, state, first, second, finalEq⟩
    exact ⟨_, ⟨middle, first, rfl⟩, state, second, finalEq⟩

theorem Alike.of_run
    (run : xs.foldlM (applyBlockHeader network hashing) (LoopState.start network self) =
      .ok middle) : Alike network middle (LoopState.start network middle.finish) :=
  Alike.restart (run_timeStored network hashing run) (run_targetStored network hashing run)

/-- Splitting a list of headers into two calls gives the same results as one call exactly
when, for every list that one call accepts, each header of the second part is
interchangeable between the target that one call has reached and the target that is
expanded again from the stored bits. -/
theorem applyBlockHeaders_append_iff (self : ChainState) (xs ys : List CircuitBlockHeader) :
    (∀ final, self.applyBlockHeaders network hashing (xs ++ ys) = .ok final ↔
      (self.applyBlockHeaders network hashing xs >>= fun middle =>
        middle.applyBlockHeaders network hashing ys) = .ok final) ↔
    ((∃ final, self.applyBlockHeaders network hashing (xs ++ ys) = .ok final) →
      AgreesAlong network hashing (TargetTracker.ofCall network self xs)
        ((TargetTracker.ofCall network self xs).restart network) ys) := by
  simp only [applyBlockHeaders_append_ok_iff, applyBlockHeaders_twice_ok_iff]
  constructor
  · rintro same ⟨_, middle, state, first, second, rfl⟩
    obtain ⟨middle', state', first', second', finishEq⟩ :=
      (same state.finish).mp ⟨middle, state, first, second, rfl⟩
    rw [first, Except.ok.injEq] at first'
    subst first'
    obtain ⟨difference, worksEq, -, bound, agrees⟩ :=
      (Alike.of_run network hashing first).run_difference second second'
    rw [LoopState.currentWork_start_finish, ← currentWork_eq_of_finish_eq finishEq] at worksEq
    have small := (epochRemaining_bounds middle.chainState.blockHeight.toNat_lt).2
    obtain ⟨trackerEq, restartEq⟩ := split_trackers network hashing first
    rw [restartEq, trackerEq]
    exact agrees (by omega)
  · intro agrees
    have splits {middle state : LoopState}
        (first : xs.foldlM (applyBlockHeader network hashing) (LoopState.start network self) =
          .ok middle)
        (second : ys.foldlM (applyBlockHeader network hashing) middle = .ok state) :
        ∃ state', ys.foldlM (applyBlockHeader network hashing)
          (LoopState.start network middle.finish) = .ok state' ∧
          state.finish = state'.finish := by
      have along := agrees ⟨_, middle, state, first, second, rfl⟩
      obtain ⟨trackerEq, restartEq⟩ := split_trackers network hashing first
      rw [restartEq, trackerEq] at along
      exact (Alike.of_run network hashing first).run_ok_of_agrees
        (LoopState.currentWork_start_finish network middle).symm along second
    intro final
    constructor
    · rintro ⟨middle, state, first, second, rfl⟩
      obtain ⟨state', second', finishEq⟩ := splits first second
      exact ⟨middle, state', first, second', finishEq⟩
    · rintro ⟨middle, state', first, second', rfl⟩
      obtain ⟨state, second, -⟩ := (Alike.of_run network hashing first).run_ok_of_two second'
      obtain ⟨state'', second'', finishEq⟩ := splits first second
      rw [second', Except.ok.injEq] at second''
      exact ⟨middle, state, first, second, by rw [second'', finishEq]⟩

/-- Both calls accept the two headers around an adjustment, with different total work. -/
theorem split_after_adjustment_differs : (beforeAdjustment.applyBlockHeaders .mainnet zeroHashing
        ([lastOfEpoch] ++ [firstOfEpoch])).toOption.map
          (fun final => beNat final.totalWork.toList) = some 8590069216 ∧
      (beforeAdjustment.applyBlockHeaders .mainnet zeroHashing [lastOfEpoch] >>= fun middle =>
        middle.applyBlockHeaders .mainnet zeroHashing [firstOfEpoch]).toOption.map
          (fun final => beNat final.totalWork.toList) = some 8590131205 := by
  decide +kernel

end Clementine
