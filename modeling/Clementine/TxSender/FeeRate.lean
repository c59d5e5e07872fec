import Mathlib.Data.List.Basic
import Mathlib.Algebra.Group.Nat.Defs

/-!
# Fee rates of a transaction over the attempts to send it

An attempt computes a target rate from the stored rate and the market, which is capped, and hands
it on.  The bump of a transaction that is in the mempool raises the target once more, to the rate
of that transaction plus the incremental relay fee, and this rate is not capped.  It is handed to
the wallet and stored, so the cap holds over a run exactly if no bump asks for more than the cap.

Rates are in sat/kvB.  Stored rates fit an `i64` and the incremental fee is an amount of money, so
the sums below do not reach the limit of an `u64`.
-/

namespace Clementine

namespace TxSender

/-- The limits of the configuration that the fee rates depend on; the cap is in sat/vB. -/
structure TxSenderLimits where
  feeRateHardCap : Nat
  feeBumpAfterBlocks : Nat
  minBumpKvb : Nat

/-- The hard cap in sat/kvB. -/
def TxSenderLimits.hardCap (limits : TxSenderLimits) : Nat := limits.feeRateHardCap * 1000

/-- The columns `effective_fee_rate` and `last_bump_block_height` of a transaction. -/
structure FeeState where
  effectiveFeeRate : Option Nat
  lastBumpBlockHeight : Option Nat
  deriving DecidableEq

/-- The last bump is `fee_bump_after_blocks` ago. -/
def TxSenderLimits.isStuck (limits : TxSenderLimits) (lastBumpBlockHeight : Option Nat)
    (currentTipHeight : Nat) : Bool :=
  match lastBumpBlockHeight with
  | some blockHeight => limits.feeBumpAfterBlocks ≤ currentTipHeight - blockHeight
  | none => false

/-- `TxSender::calculate_target_fee_rate`, with the incremental fee of the node; `none` is an
error of the node. -/
def calculateTargetFeeRate (limits : TxSenderLimits) (previousEffectiveFeeRate : Option Nat)
    (newFeeRate : Nat) (lastBumpBlockHeight : Option Nat) (currentTipHeight : Nat)
    (incrementalFee : Option Nat) : Option Nat :=
  match previousEffectiveFeeRate with
  | none => some (min newFeeRate limits.hardCap)
  | some previousRate =>
    let isStuck := limits.isStuck lastBumpBlockHeight currentTipHeight
    match incrementalFee with
    | none => none
    | some incrementalFeeRate =>
      let minBumpFeerate := previousRate + incrementalFeeRate
      let effectiveFeerate := max newFeeRate minBumpFeerate
      if previousRate < newFeeRate ∧ isStuck = false then
        if newFeeRate - previousRate < limits.minBumpKvb then some previousRate
        else some (min effectiveFeerate limits.hardCap)
      else if isStuck = true then some (min effectiveFeerate limits.hardCap)
      else some previousRate

/-- The fee and the virtual size of a transaction in the mempool. -/
structure MempoolTx where
  fee : Nat
  vbytes : Nat

/-- Its rate, rounded up. -/
def MempoolTx.feerate (tx : MempoolTx) : Nat := (tx.fee * 1000 + tx.vbytes - 1) / tx.vbytes

/-- `calculate_bump_feerate_if_needed`: `none` if the transaction pays enough. -/
def calculateBumpFeerateIfNeeded (originalTx : MempoolTx) (newFeerate incrementalFeeRate : Nat) :
    Option Nat :=
  if newFeerate ≤ originalTx.feerate then none
  else some (max newFeerate (originalTx.feerate + incrementalFeeRate))

/-- `update_effective_fee_rate`; rates and heights that do not fit their column are an error. -/
def updateEffectiveFeeRate (state : FeeState) (effectiveFeeRate blockHeight : Nat) : FeeState :=
  if effectiveFeeRate < 2 ^ 63 ∧ blockHeight < 2 ^ 31 then
    if state.effectiveFeeRate = some effectiveFeeRate then state
    else ⟨some effectiveFeeRate, some blockHeight⟩
  else state

/-- What an attempt meets after the target rate is known. -/
inductive SendPath where
  /-- The transaction is not sent with a rate: it is confirmed, its inputs are spent, it needs no
  funding, it goes to the accelerator, or the node fails. -/
  | noRate
  /-- `send_cpfp_tx` with all fee payers confirmed; whether the package is created. -/
  | cpfp (created : Bool)
  /-- `send_rbf_tx` with a transaction in the mempool; the incremental fee, `none` for an error of
  the node, and whether the bumped transaction is sent. -/
  | bump (originalTx : MempoolTx) (incrementalFee : Option Nat) (sent : Bool)
  /-- `send_rbf_tx` without a transaction in the mempool; whether the transaction is sent. -/
  | fund (sent : Bool)

/-- One attempt of a run of `try_to_send_unconfirmed_txs` for the transaction. -/
structure Attempt where
  newFeeRate : Nat
  currentTipHeight : Nat
  incrementalFee : Option Nat
  path : SendPath

/-- The rates that were handed on, and the columns after the attempt. -/
structure AttemptResult where
  handed : List Nat
  state : FeeState
  deriving DecidableEq

/-- The rate of `psbt_bump_fee`, which is given in sat/kwu, rounded up. -/
def bumpOptionRate (feerate : Nat) : Nat := (feerate + 3) / 4 * 4

/-- The part of `try_to_send_unconfirmed_txs` after the target rate. -/
def sendWithRate (state : FeeState) (feeRate currentTipHeight : Nat) : SendPath → AttemptResult
  | .noRate => ⟨[], state⟩
  | .cpfp created =>
    ⟨[feeRate], if created then updateEffectiveFeeRate state feeRate currentTipHeight else state⟩
  | .bump originalTx incrementalFee sent =>
    match incrementalFee with
    | none => ⟨[], state⟩
    | some incrementalFeeRate =>
      match calculateBumpFeerateIfNeeded originalTx feeRate incrementalFeeRate with
      | none => ⟨[], state⟩
      | some effectiveFeerate =>
        ⟨[bumpOptionRate effectiveFeerate],
          if sent then updateEffectiveFeeRate state effectiveFeerate currentTipHeight
          else state⟩
  | .fund sent =>
    ⟨[feeRate], if sent then updateEffectiveFeeRate state feeRate currentTipHeight else state⟩

/-- One attempt. -/
def attempt (limits : TxSenderLimits) (state : FeeState) (trial : Attempt) : AttemptResult :=
  match calculateTargetFeeRate limits state.effectiveFeeRate trial.newFeeRate
      state.lastBumpBlockHeight trial.currentTipHeight trial.incrementalFee with
  | none => ⟨[], state⟩
  | some feeRate => sendWithRate state feeRate trial.currentTipHeight trial.path

/-- Over the attempts every rate that is handed on or stored is at most the cap, and the stored
rate does not decrease. -/
def RespectsCap (limits : TxSenderLimits) : FeeState → List Attempt → Prop
  | _, [] => True
  | state, trial :: rest =>
    (∀ rate ∈ (attempt limits state trial).handed, rate ≤ limits.hardCap) ∧
    (∀ rate ∈ (attempt limits state trial).state.effectiveFeeRate, rate ≤ limits.hardCap) ∧
    (∀ old ∈ state.effectiveFeeRate,
      ∃ new ∈ (attempt limits state trial).state.effectiveFeeRate, old ≤ new) ∧
    RespectsCap limits (attempt limits state trial).state rest

/-- The attempt bumps a transaction to its rate plus the incremental fee, above the cap. -/
def BumpsAboveCap (limits : TxSenderLimits) (state : FeeState) (trial : Attempt) : Prop :=
  ∃ originalTx incrementalFeeRate sent feeRate,
    trial.path = .bump originalTx (some incrementalFeeRate) sent ∧
    calculateTargetFeeRate limits state.effectiveFeeRate trial.newFeeRate
      state.lastBumpBlockHeight trial.currentTipHeight trial.incrementalFee = some feeRate ∧
    originalTx.feerate < feeRate ∧ limits.hardCap < originalTx.feerate + incrementalFeeRate

/-- No attempt of the run does. -/
def NoBumpAboveCap (limits : TxSenderLimits) : FeeState → List Attempt → Prop
  | _, [] => True
  | state, trial :: rest => ¬BumpsAboveCap limits state trial ∧
      NoBumpAboveCap limits (attempt limits state trial).state rest

section Cap

variable {limits : TxSenderLimits} {state : FeeState} {trial : Attempt}

/-- The stored rate is at most the cap. -/
def FeeState.Capped (limits : TxSenderLimits) (state : FeeState) : Prop :=
  ∀ rate ∈ state.effectiveFeeRate, rate ≤ limits.hardCap

/-- The target is at most the cap and at least the stored rate. -/
theorem calculateTargetFeeRate_bounds {newFeeRate currentTipHeight feeRate : Nat}
    {incrementalFee : Option Nat} (capped : state.Capped limits)
    (target : calculateTargetFeeRate limits state.effectiveFeeRate newFeeRate
      state.lastBumpBlockHeight currentTipHeight incrementalFee = some feeRate) :
    feeRate ≤ limits.hardCap ∧ ∀ old ∈ state.effectiveFeeRate, old ≤ feeRate := by
  unfold calculateTargetFeeRate at target
  cases previous : state.effectiveFeeRate with
  | none =>
    rw [previous] at target
    cases target
    exact ⟨Nat.min_le_right _ _, fun old isOld => by cases isOld⟩
  | some previousRate =>
    have low := capped previousRate previous
    rw [previous] at target
    simp only at target
    have old : ∀ {rate}, previousRate ≤ rate → ∀ old ∈ some previousRate, old ≤ rate := by
      intro rate higher old isOld
      cases isOld
      exact higher
    cases incrementalFee with
    | none => cases target
    | some incrementalFeeRate =>
      simp only at target
      split at target
      · split at target
        · cases target
          exact ⟨low, old (Nat.le_refl _)⟩
        · cases target
          exact ⟨Nat.min_le_right _ _, old (by omega)⟩
      · split at target
        · cases target
          exact ⟨Nat.min_le_right _ _, old (by omega)⟩
        · cases target
          exact ⟨low, old (Nat.le_refl _)⟩

/-- Storing a rate between the stored rate and the cap keeps both. -/
theorem updateEffectiveFeeRate_bounds {rate blockHeight : Nat} (capped : state.Capped limits)
    (low : rate ≤ limits.hardCap) (higher : ∀ old ∈ state.effectiveFeeRate, old ≤ rate) :
    (updateEffectiveFeeRate state rate blockHeight).Capped limits ∧ ∀ old ∈ state.effectiveFeeRate,
        ∃ new ∈ (updateEffectiveFeeRate state rate blockHeight).effectiveFeeRate, old ≤ new := by
  unfold updateEffectiveFeeRate
  have same : state.Capped limits ∧ ∀ old ∈ state.effectiveFeeRate,
      ∃ new ∈ state.effectiveFeeRate, old ≤ new :=
    ⟨capped, fun old isOld => ⟨old, isOld, Nat.le_refl old⟩⟩
  split
  · split
    · exact same
    · refine ⟨?_, fun old isOld => ⟨rate, rfl, higher old isOld⟩⟩
      intro stored isStored
      cases isStored
      exact low
  · exact same

/-- A bump below the cap stays below it when it is rounded. -/
theorem bumpOptionRate_le_iff {feerate : Nat} :
    bumpOptionRate feerate ≤ limits.hardCap ↔ feerate ≤ limits.hardCap := by
  unfold bumpOptionRate TxSenderLimits.hardCap
  omega

/-- The three bounds of one attempt, from a capped state. -/
theorem attempt_bounds (capped : state.Capped limits) (below : ¬BumpsAboveCap limits state trial) :
    (∀ rate ∈ (attempt limits state trial).handed, rate ≤ limits.hardCap) ∧
      (attempt limits state trial).state.Capped limits ∧
      ∀ old ∈ state.effectiveFeeRate,
        ∃ new ∈ (attempt limits state trial).state.effectiveFeeRate, old ≤ new := by
  have unchanged : (∀ rate ∈ ([] : List Nat), rate ≤ limits.hardCap) ∧ state.Capped limits ∧
      ∀ old ∈ state.effectiveFeeRate, ∃ new ∈ state.effectiveFeeRate, old ≤ new :=
    ⟨by simp, capped, fun old isOld => ⟨old, isOld, Nat.le_refl old⟩⟩
  unfold attempt
  cases target : calculateTargetFeeRate limits state.effectiveFeeRate trial.newFeeRate
      state.lastBumpBlockHeight trial.currentTipHeight trial.incrementalFee with
  | none => exact unchanged
  | some feeRate =>
    obtain ⟨low, higher⟩ := calculateTargetFeeRate_bounds capped target
    have stores : ∀ {rate handed : Nat} (saved : Bool), handed ≤ limits.hardCap →
        rate ≤ limits.hardCap → (∀ old ∈ state.effectiveFeeRate, old ≤ rate) →
        (∀ one ∈ [handed], one ≤ limits.hardCap) ∧
        (if saved then updateEffectiveFeeRate state rate trial.currentTipHeight
          else state).Capped limits ∧
        ∀ old ∈ state.effectiveFeeRate, ∃ new ∈ (if saved then
          updateEffectiveFeeRate state rate trial.currentTipHeight
          else state).effectiveFeeRate, old ≤ new := by
      intro rate handed saved handedLow rateLow rateHigher
      refine ⟨by simpa using handedLow, ?_⟩
      cases saved with
      | true => exact updateEffectiveFeeRate_bounds capped rateLow rateHigher
      | false => exact unchanged.2
    simp only
    cases path : trial.path with
    | noRate => exact unchanged
    | cpfp created => exact stores created low low higher
    | fund sent => exact stores sent low low higher
    | bump originalTx incrementalFee sent =>
      cases incrementalFee with
      | none => exact unchanged
      | some incrementalFeeRate =>
        simp only [sendWithRate]
        unfold calculateBumpFeerateIfNeeded
        by_cases enough : feeRate ≤ originalTx.feerate
        · rw [if_pos enough]
          exact unchanged
        · rw [if_neg enough]
          have bumpLow : originalTx.feerate + incrementalFeeRate ≤ limits.hardCap := by
            by_contra above
            exact below ⟨originalTx, incrementalFeeRate, sent, feeRate, path, target,
              by omega, by omega⟩
          have rateLow : max feeRate (originalTx.feerate + incrementalFeeRate) ≤
              limits.hardCap := Nat.max_le.mpr ⟨low, bumpLow⟩
          exact stores sent (bumpOptionRate_le_iff.mpr rateLow) rateLow
            fun old isOld => Nat.le_trans (higher old isOld) (Nat.le_max_left _ _)

/-- A bump above the cap hands on a rate above it. -/
theorem exists_handed_of_bumpsAboveCap (above : BumpsAboveCap limits state trial) :
    ∃ rate ∈ (attempt limits state trial).handed, limits.hardCap < rate := by
  obtain ⟨originalTx, incrementalFeeRate, sent, feeRate, path, target, needed, tooHigh⟩ := above
  refine ⟨bumpOptionRate (max feeRate (originalTx.feerate + incrementalFeeRate)), ?_, ?_⟩
  · unfold attempt
    rw [target, path]
    simp only [sendWithRate, calculateBumpFeerateIfNeeded, if_neg (Nat.not_le.mpr needed)]
    exact List.mem_singleton.mpr rfl
  · rw [← Nat.not_le, bumpOptionRate_le_iff]
    omega

/-- From a capped state the cap holds over the attempts, and the stored rate does not decrease,
exactly if no attempt bumps above the cap. -/
theorem respectsCap_iff_of_capped {trials : List Attempt} :
    ∀ {state : FeeState}, state.Capped limits →
      (RespectsCap limits state trials ↔ NoBumpAboveCap limits state trials) := by
  induction trials with
  | nil => exact fun _ => Iff.rfl
  | cons trial rest ih =>
    intro state capped
    constructor
    · intro respects
      obtain ⟨handed, stored, _, later⟩ := respects
      refine ⟨?_, (ih stored).mp later⟩
      intro above
      obtain ⟨rate, isHanded, tooHigh⟩ := exists_handed_of_bumpsAboveCap above
      exact absurd (handed rate isHanded) (Nat.not_le.mpr tooHigh)
    · intro below
      obtain ⟨handed, stored, higher⟩ := attempt_bounds capped below.1
      exact ⟨handed, stored, higher, (ih stored).mpr below.2⟩

/-- Starting without a stored rate, the cap holds over the attempts, and the stored rate does not
decrease, exactly if no attempt bumps a transaction above the cap. -/
theorem fee_cap_holds_iff (limits : TxSenderLimits) (trials : List Attempt) :
    RespectsCap limits ⟨none, none⟩ trials ↔ NoBumpAboveCap limits ⟨none, none⟩ trials :=
  respectsCap_iff_of_capped fun rate stored => by cases stored

end Cap

/-- The cap is 10 sat/vB.  A transaction is funded with 9500 sat/kvB and bumped when the market
asks for 12000: the target is the cap, but 10500 is handed on and stored.  After the transaction
has left the mempool it is funded again, and the stored rate falls back to 10000. -/
theorem bump_exceeds_cap :
    (attempt ⟨10, 10, 1000⟩ ⟨none, none⟩ ⟨9500, 100, some 1000, .fund true⟩).state =
        ⟨some 9500, some 100⟩ ∧
      attempt ⟨10, 10, 1000⟩ ⟨some 9500, some 100⟩
        ⟨12000, 101, some 1000, .bump ⟨1900, 200⟩ (some 1000) true⟩ =
        ⟨[10500], ⟨some 10500, some 101⟩⟩ ∧
      attempt ⟨10, 10, 1000⟩ ⟨some 10500, some 101⟩ ⟨12000, 111, some 1000, .fund true⟩ =
        ⟨[10000], ⟨some 10000, some 111⟩⟩ ∧
      ¬RespectsCap ⟨10, 10, 1000⟩ ⟨none, none⟩ [⟨9500, 100, some 1000, .fund true⟩,
          ⟨12000, 101, some 1000, .bump ⟨1900, 200⟩ (some 1000) true⟩] := by
  have first : (attempt ⟨10, 10, 1000⟩ ⟨none, none⟩ ⟨9500, 100, some 1000, .fund true⟩).state =
      ⟨some 9500, some 100⟩ := by decide
  have second : attempt ⟨10, 10, 1000⟩ ⟨some 9500, some 100⟩
      ⟨12000, 101, some 1000, .bump ⟨1900, 200⟩ (some 1000) true⟩ =
      ⟨[10500], ⟨some 10500, some 101⟩⟩ := by decide
  refine ⟨first, second, by decide, ?_⟩
  intro respects
  have handed := respects.2.2.2.1
  rw [first, second] at handed
  exact absurd (handed 10500 List.mem_cons_self) (by decide)

end TxSender

end Clementine
