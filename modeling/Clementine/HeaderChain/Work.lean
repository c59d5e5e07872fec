import Clementine.HeaderChain.TargetTracker

/-!
# Accounting of proof of work

A block header states its target as compact bits.  The accounting follows the
headers when every accepted hash is at most the target of its own header, and the
total work grows by the work of that target.  After an adjustment inside a call
the loop uses a target that can be larger than the one its headers state, and the
accounting follows them only if the difference shows neither in the hashes nor in
the work.
-/

namespace Clementine

open ByteNumeral

variable (network : Network) (hashing : BlockHashing)

/-- Work that the bits of some headers stand for. -/
def statedWork (blockHeaders : List CircuitBlockHeader) : Nat :=
  (blockHeaders.map fun blockHeader =>
    workOf (beNat (bitsToTarget blockHeader.bits).toList)).sum

/-- Headers raise the work from `before` to `after` as their bits state: every hash is at
most the stated target, and the work grows by the stated work. -/
def Accounted (before after : Nat) (blockHeaders : List CircuitBlockHeader) : Prop :=
  (∀ blockHeader ∈ blockHeaders, leNat (hashing.computeBlockHash blockHeader).toList ≤
    beNat (bitsToTarget blockHeader.bits).toList) ∧
  after = (before + statedWork blockHeaders) % 2 ^ 256

/-- Each header is interchangeable between the target of the loop and the target that
it states. -/
def FollowsBits : TargetTracker → List CircuitBlockHeader → Prop
  | _, [] => True
  | tracker, blockHeader :: rest =>
    Interchangeable hashing (tracker.targetToUse network blockHeader)
      (bitsToTarget blockHeader.bits) blockHeader ∧
    FollowsBits (tracker.step network blockHeader) rest

theorem statedWork_cons (blockHeader : CircuitBlockHeader)
    (blockHeaders : List CircuitBlockHeader) :
    statedWork (blockHeader :: blockHeaders) =
      (calculateWork (bitsToTarget blockHeader.bits)).toNat + statedWork blockHeaders := by
  rw [statedWork, List.map_cons, List.sum_cons, ← toNat_calculateWork]
  rfl

theorem accounted_nil {before : Nat} (bounded : before < 2 ^ 256) :
    Accounted hashing before before [] := by
  refine ⟨by simp, ?_⟩
  rw [statedWork, List.map_nil, List.sum_nil, Nat.add_zero, Nat.mod_eq_of_lt bounded]

variable {blockHeaders : List CircuitBlockHeader} {blockHeader : CircuitBlockHeader}

theorem accounted_cons_iff {before after : Nat} :
    Accounted hashing before after (blockHeader :: blockHeaders) ↔
      leNat (hashing.computeBlockHash blockHeader).toList ≤
        beNat (bitsToTarget blockHeader.bits).toList ∧
      Accounted hashing
        ((before + (calculateWork (bitsToTarget blockHeader.bits)).toNat) % 2 ^ 256) after
        blockHeaders := by
  rw [Accounted, Accounted, statedWork_cons, List.forall_mem_cons, and_assoc, Nat.mod_add_mod,
    Nat.add_assoc]

theorem applyBlockHeader_work {state next : LoopState}
    (applied : applyBlockHeader network hashing state blockHeader = .ok next) :
    next.currentWork.toNat = (state.currentWork.toNat +
        (calculateWork (state.targetToUse network blockHeader)).toNat) % 2 ^ 256 ∧
      leNat (hashing.computeBlockHash blockHeader).toList ≤
        beNat (state.targetToUse network blockHeader).toList := by
  obtain ⟨accepts, mmr, difficulty, -, -, rfl⟩ :=
    (applyBlockHeader_ok_iff network hashing).mp applied
  refine ⟨?_, accepts.proofOfWork⟩
  rw [← LoopState.workToAdd_eq, ← BitVec.toNat_add]
  rfl

/-- Rounds of the loop: every initial part of the headers is accounted for exactly when all
headers are interchangeable. -/
theorem run_followsBits_iff {state final : LoopState}
    (run : blockHeaders.foldlM (applyBlockHeader network hashing) state = .ok final) :
    (∀ part reached, part <+: blockHeaders →
      part.foldlM (applyBlockHeader network hashing) state = .ok reached →
      Accounted hashing state.currentWork.toNat reached.currentWork.toNat part) ↔
      FollowsBits network hashing state.tracker blockHeaders := by
  induction blockHeaders generalizing state with
  | nil =>
    refine ⟨fun _ => trivial, fun _ part reached initial partRun => ?_⟩
    rw [List.prefix_nil] at initial
    subst initial
    cases partRun
    exact accounted_nil hashing state.currentWork.isLt
  | cons blockHeader blockHeaders ih =>
    obtain ⟨next, applied, rest⟩ := ExceptRun.run_cons_iff.mp run
    obtain ⟨workEq, valid⟩ := applyBlockHeader_work network hashing applied
    rw [FollowsBits, ← applyBlockHeader_tracker network hashing applied, ← ih rest]
    constructor
    · intro accounted
      obtain ⟨meets, -, nextWork⟩ := (accounted_cons_iff hashing).mp
        (accounted [blockHeader] next (by simp) (ExceptRun.run_cons_iff.mpr ⟨next, applied, rfl⟩))
      rw [statedWork, List.map_nil, List.sum_nil, Nat.add_zero, Nat.mod_mod] at nextWork
      refine ⟨fun _ => ⟨meets, BitVec.eq_of_toNat_eq ?_⟩, ?_⟩
      · have targetBound := (calculateWork (state.targetToUse network blockHeader)).isLt
        have statedBound := (calculateWork (bitsToTarget blockHeader.bits)).isLt
        change (calculateWork (state.targetToUse network blockHeader)).toNat = _
        omega
      · intro part reached initial partRun
        have whole := accounted (blockHeader :: part) reached
          (List.cons_prefix_cons.mpr ⟨rfl, initial⟩)
          (ExceptRun.run_cons_iff.mpr ⟨next, applied, partRun⟩)
        rw [nextWork]
        exact ((accounted_cons_iff hashing).mp whole).2
    · rintro ⟨agrees, accounted⟩ part reached initial partRun
      cases part with
      | nil =>
        cases partRun
        exact accounted_nil hashing state.currentWork.isLt
      | cons first part =>
        obtain ⟨rfl, restInitial⟩ := List.cons_prefix_cons.mp initial
        obtain ⟨next', applied', partRun⟩ := ExceptRun.run_cons_iff.mp partRun
        rw [applied, Except.ok.injEq] at applied'
        subst applied'
        refine (accounted_cons_iff hashing).mpr ⟨agrees.proofOfWork valid, ?_⟩
        have sameWork := agrees.work
        rw [← sameWork]
        change Accounted hashing ((state.currentWork.toNat +
          (calculateWork (state.targetToUse network first)).toNat) % 2 ^ 256) _ part
        rw [← workEq]
        exact accounted part reached restInitial partRun

/-- For an accepted list of headers, every initial part raises the total work as its bits
state exactly when each header is interchangeable between the target that the call has
reached and the target that the header states. -/
theorem applyBlockHeaders_accounted_iff (self final : ChainState)
    (blockHeaders : List CircuitBlockHeader)
    (accepted : self.applyBlockHeaders network hashing blockHeaders = .ok final) :
    (∀ part reached, part <+: blockHeaders →
      self.applyBlockHeaders network hashing part = .ok reached →
      Accounted hashing (beNat self.totalWork.toList) (beNat reached.totalWork.toList) part) ↔
      FollowsBits network hashing (TargetTracker.ofCall network self []) blockHeaders := by
  obtain ⟨last, run, rfl⟩ := (applyBlockHeaders_ok_iff network hashing).mp accepted
  rw [TargetTracker.ofCall, List.foldl_nil, ← run_followsBits_iff network hashing run]
  have startWork : (LoopState.start network self).currentWork.toNat =
      beNat self.totalWork.toList := by
    rw [LoopState.start, U256.toNat_fromBeBytes]
  have finishWork (state : LoopState) :
      beNat state.finish.totalWork.toList = state.currentWork.toNat := by
    rw [LoopState.finish, U256.beNat_toBeBytes]
  simp only [applyBlockHeaders_ok_iff, startWork]
  constructor
  · intro accounted part reached initial partRun
    rw [← finishWork]
    exact accounted part reached.finish initial ⟨reached, partRun, rfl⟩
  · rintro accounted part _ initial ⟨reached, partRun, rfl⟩
    rw [finishWork]
    exact accounted part reached initial partRun

/-- The first block of `mainnet`, which is checked against the target that it states. -/
theorem accounted_mainnet_block :
    ∃ final, (ChainState.genesisState .mainnet).applyBlockHeaders .mainnet
        (.ofSha256 Sha2.sha256) [mainnetBlock0] = .ok final ∧
      ∀ part reached, part <+: [mainnetBlock0] →
        (ChainState.genesisState .mainnet).applyBlockHeaders .mainnet
          (.ofSha256 Sha2.sha256) part = .ok reached →
        Accounted (.ofSha256 Sha2.sha256)
          (beNat (ChainState.genesisState .mainnet).totalWork.toList)
          (beNat reached.totalWork.toList) part := by
  obtain ⟨final, -, accepted, -⟩ := mainnet_accepted
  have sameTarget : (TargetTracker.ofCall .mainnet (.genesisState .mainnet) []).targetToUse
      .mainnet mainnetBlock0 = bitsToTarget mainnetBlock0.bits := by decide +kernel
  exact ⟨final, accepted, (applyBlockHeaders_accounted_iff .mainnet (.ofSha256 Sha2.sha256) _
    final _ accepted).mpr ⟨fun different => absurd sameTarget different, trivial⟩⟩

/-- A hash for sample runs: the first header of the second epoch misses its stated target
by one. -/
def missingByOne : BlockHashing where
  computeBlockHash blockHeader :=
    if blockHeader = firstOfEpoch then
      (U256.fromBeBytes (bitsToTarget firstOfEpoch.bits) + 1).toBeBytes.reverse
    else
      zeroBytes
  hashPair _ _ := zeroBytes

/-- Around an adjustment the total work differs from the stated work, and a hash above the
stated target is accepted. -/
theorem accounting_fails_after_adjustment : (beforeAdjustment.applyBlockHeaders .mainnet zeroHashing
        [lastOfEpoch, firstOfEpoch]).toOption.map
          (fun final => beNat final.totalWork.toList) = some 8590069216 ∧
      (beNat beforeAdjustment.totalWork.toList + statedWork [lastOfEpoch, firstOfEpoch]) %
        2 ^ 256 = 8590131205 ∧
      (beforeAdjustment.applyBlockHeaders .mainnet missingByOne
        [lastOfEpoch, firstOfEpoch]).isOk = true ∧
      beNat (bitsToTarget firstOfEpoch.bits).toList <
        leNat (missingByOne.computeBlockHash firstOfEpoch).toList := by
  decide +kernel

end Clementine
