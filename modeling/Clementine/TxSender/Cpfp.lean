import Clementine.Core.Builder.Transactions
import Clementine.TxSender.Confirmations

/-!
# Fees of packages

A transaction without fees is sent together with a child, which spends its anchor and the fee
payer outputs that were made for it.  The fee is computed from estimated weights before the child
is built.  The estimate of the child is exact for key path spends with one change output to a
taproot address, so the package pays the target rate.  If the outputs do not suffice, a new fee
payer output is asked for that is worth twice the fee with one more input, and then they do.
-/

namespace Clementine

open ConsensusEncode ExceptRun UInt64 Nat

namespace TxSender

/-- `SendTxError`. -/
inductive SendTxError where
  | unconfirmedFeePayerUTXOsLeft
  | insufficientFeePayerAmount
  | psbtError (text : String)
  | networkError (text : String)
  | other (text : String)
  deriving DecidableEq

abbrev SendResult (α : Type) : Type := Except (Failure SendTxError) α

/-! ## Sizes -/

/-- `Weight::to_vbytes_ceil`; weights are natural numbers, since they count bytes in memory. -/
def toVbytesCeil (weight : Nat) : Nat := (weight + 3) / 4

/-- `Weight::from_vb_unchecked`. -/
def fromVbUnchecked (vbytes : Nat) : Nat := 4 * vbytes

/-- The bytes of a witness. -/
def witnessSize (witness : List (List UInt8)) : Nat :=
  (varInt witness.length).length + (witness.map fun element => (script element).length).sum

/-- The bytes that the witnesses add, with the marker and the flag. -/
def witnessesSize (inputs : List TxIn) : Nat :=
  if inputs = [] ∨ ∃ input ∈ inputs, input.witness ≠ [] then
    2 + (inputs.map fun input => witnessSize input.witness).sum
  else 0

/-- `Transaction::weight`. -/
def txWeight (tx : CircuitTransaction) : Nat :=
  4 * (tx.nonWitnessBytes .bitcoin).length + witnessesSize tx.input

/-- `Transaction::vsize`. -/
def txVsize (tx : CircuitTransaction) : Nat := toVbytesCeil (txWeight tx)

/-! ## The required fee -/

/-- `FeeRateKvb`. -/
structure FeeRateKvb where
  satPerKvb : UInt64
  deriving DecidableEq

/-- `FeeRateKvb::fee_vb`. -/
def FeeRateKvb.feeVb (feeRate : FeeRateKvb) (vbytes : Nat) : Option UInt64 :=
  if feeRate.satPerKvb.toNat * vbytes < 2 ^ 64 then
    some (UInt64.ofNat ((feeRate.satPerKvb.toNat * vbytes + 999) / 1000))
  else none

/-- `FeeRateKvb::fee_wu`. -/
def FeeRateKvb.feeWu (feeRate : FeeRateKvb) (weight : Nat) : Option UInt64 :=
  feeRate.feeVb (toVbytesCeil weight)

/-- The estimated weight of the transaction that pays the fee. -/
def childTxWeight (numFeePayerUtxos : Nat) : FeePayingType → Nat
  | .cpfp => 230 * numFeePayerUtxos + 207 + 172
  | .rbf | .rbfWtxidGrind => 230 * numFeePayerUtxos + 172
  | .noFunding => 0

/-- The weight that the fee is computed for. -/
def totalWeight (parentTxWeight numFeePayerUtxos : Nat) : FeePayingType → Nat
  | .cpfp => fromVbUnchecked (toVbytesCeil (childTxWeight numFeePayerUtxos .cpfp) +
      toVbytesCeil parentTxWeight)
  | .rbf => childTxWeight numFeePayerUtxos .rbf + parentTxWeight
  | .rbfWtxidGrind => childTxWeight numFeePayerUtxos .rbfWtxidGrind + parentTxWeight
  | .noFunding => parentTxWeight

/-- `TxSender::calculate_required_fee`. -/
def calculateRequiredFee (parentTxWeight numFeePayerUtxos : Nat) (feeRate : FeeRateKvb)
    (feePayingType : FeePayingType) : SendResult UInt64 :=
  okOr (.other "Fee calculation overflow")
    (feeRate.feeWu (totalWeight parentTxWeight numFeePayerUtxos feePayingType))

/-! ## Packages -/

/-- `SpendableUtxo`, without the spend info that fee payers do not have. -/
structure SpendableUtxo where
  outpoint : OutPoint
  txout : TxOut
  deriving DecidableEq

/-- The signer, the change address and the functions of other crates. -/
structure CpfpSender where
  computeTxid : CircuitTransaction → Bytes32
  minimalNonDust : List UInt8 → UInt64
  changeScriptPubkey : List UInt8
  taprootKeySpendSignatureHash : CircuitTransaction → Nat → List TxOut → Except String Bytes32
  signWithTweakData : Bytes32 → Except String (Vector UInt8 64)
  displayAmount : UInt64 → String

/-- The sum of amounts, which wraps. -/
def totalValue (utxos : List SpendableUtxo) : UInt64 :=
  (utxos.map fun utxo => utxo.txout.value).foldl (· + ·) 0

/-- The script of a P2A anchor. -/
def p2aScript : List UInt8 := [0x51, 0x02, 0x4E, 0x73]

/-- `TxSender::anchor_prevout`. -/
def anchorPrevout (anchorSat : UInt64) : TxOut := ⟨anchorSat, p2aScript⟩

/-- An input of the child. -/
def childInput (previousOutput : OutPoint) (witness : List (List UInt8)) : TxIn where
  previousOutput
  scriptSig := []
  sequence := defaultSequence
  witness

namespace CpfpSender

variable (sender : CpfpSender)

/-- The child before it is signed. -/
def unsignedChild (p2aAnchor : OutPoint) (utxos : List SpendableUtxo)
    (changeScriptPubkey : List UInt8) (changeAmount : UInt64) : CircuitTransaction where
  version := nonStandardV3
  lockTime := 0
  input := childInput p2aAnchor [] :: utxos.map fun utxo => childInput utxo.outpoint []
  output := [⟨changeAmount, changeScriptPubkey⟩]

/-- The witness of one fee payer input: a signature for the default sighash type. -/
def signInput (childTx : CircuitTransaction) (prevouts : List TxOut) (inputIndex : Nat) :
    SendResult (List (List UInt8)) :=
  match sender.taprootKeySpendSignatureHash childTx inputIndex prevouts with
  | .error text => .error (.error (.other ("failed to compute sighash: " ++ text)))
  | .ok sighash =>
    match sender.signWithTweakData sighash with
    | .error text => .error (.error (.other text))
    | .ok signature => .ok [signature.toList]

/-- `build_and_sign_child_tx`. -/
def buildAndSignChildTx (p2aAnchor : OutPoint) (anchorSat : UInt64)
    (feePayerUtxos : List SpendableUtxo) (changeScriptPubkey : List UInt8) (requiredFee : UInt64) :
    SendResult CircuitTransaction := do
  let totalIn ← liftPanic (amountAdd (totalValue feePayerUtxos) anchorSat)
  let changeAmount ← okOr (.other "required_fee > total_in") (amountCheckedSub totalIn requiredFee)
  let childTx := unsignedChild p2aAnchor feePayerUtxos changeScriptPubkey changeAmount
  let prevouts := anchorPrevout anchorSat :: feePayerUtxos.map SpendableUtxo.txout
  let witnesses ← (List.range feePayerUtxos.length).mapM fun index =>
    sender.signInput childTx prevouts (index + 1)
  return { childTx with
    input := childInput p2aAnchor [] ::
      List.zipWith childInput (feePayerUtxos.map SpendableUtxo.outpoint) witnesses }

/-- `create_child_tx`. -/
def createChildTx (p2aAnchor : OutPoint) (anchorSat : UInt64) (feePayerUtxos : List SpendableUtxo)
    (parentTxSize : Nat) (feeRate : FeeRateKvb) : SendResult CircuitTransaction := do
  let requiredFee ← calculateRequiredFee parentTxSize feePayerUtxos.length feeRate .cpfp
  let totalFeePayerAmount ← liftPanic (amountAdd (totalValue feePayerUtxos) anchorSat)
  let needed ← liftPanic (amountAdd (sender.minimalNonDust sender.changeScriptPubkey) requiredFee)
  errorIf (totalFeePayerAmount < needed) .insufficientFeePayerAmount
  sender.buildAndSignChildTx p2aAnchor anchorSat feePayerUtxos sender.changeScriptPubkey requiredFee

/-- `find_p2a_vout`. -/
def findP2aVout (tx : CircuitTransaction) : SendResult Nat :=
  okOr (.other "P2A anchor output not found in transaction")
    (tx.output.findIdx? fun output => output.scriptPubkey = p2aScript)

/-- `create_package`. -/
def createPackage (tx : CircuitTransaction) (feeRate : FeeRateKvb)
    (feePayerUtxos : List SpendableUtxo) : SendResult (List CircuitTransaction) := do
  let p2aVout ← findP2aVout tx
  let anchor ← liftPanic (vecIndex tx.output p2aVout)
  let childTx ← sender.createChildTx ⟨sender.computeTxid tx, UInt32.ofNat p2aVout⟩ anchor.value
    feePayerUtxos (txWeight tx) feeRate
  return [tx, childTx]

/-- `MIN_TAPROOT_AMOUNT`. -/
def minTaprootAmount : UInt64 := 330

/-- The amount that `create_fee_payer_utxo` funds a new output with, if it needs one. -/
def newFeePayerAmount (tx : CircuitTransaction) (feeRate : FeeRateKvb)
    (totalFeePayerAmount : UInt64) (feePayerUtxosLen : Nat) : SendResult (Option UInt64) := do
  let requiredFee ← calculateRequiredFee (txWeight tx) (feePayerUtxosLen + 1) feeRate .cpfp
  let newTotalFeeNeeded ← okOr (.other ("Total fee needed is too large, required fee: " ++
      sender.displayAmount requiredFee ++ ", total fee payer amount: " ++
      sender.displayAmount totalFeePayerAmount ++ ", fee rate: " ++
      toString feeRate.satPerKvb.toNat ++ " sat/kvB"))
    ((amountCheckedMul requiredFee 2).bind fun fee => amountCheckedAdd fee minTaprootAmount)
  return amountCheckedSub newTotalFeeNeeded totalFeePayerAmount

end CpfpSender

/-! ## The weight of the child -/

section Weight

open ConsensusEncode

theorem length_varInt {value : Nat} (small : value < 0xFD) : (varInt value).length = 1 := by
  rw [varInt, if_pos small, length_leBytes]

/-- An input with one signature and no script. -/
def SignedInput (input : TxIn) : Prop :=
  input.scriptSig = [] ∧ ∃ signature : Vector UInt8 64, input.witness = [signature.toList]

variable {inputs : List TxIn}

theorem length_inputs (small : inputs.length < 0xFD)
    (empty : ∀ input ∈ inputs, input.scriptSig = []) :
    (bitcoin.input inputs).length = 1 + 41 * inputs.length := by
  have each : ∀ input ∈ inputs, (input.previousOutput.txid.toList ++
      u32LeBytes input.previousOutput.vout ++ script input.scriptSig ++
        u32LeBytes input.sequence).length = 41 := by
    intro input member
    simp [empty input member, script, length_varInt, u32LeBytes]
  rw [bitcoin, List.length_append, length_varInt small, List.length_flatMap,
    List.map_congr_left each, List.map_const', List.sum_replicate_nat]
  omega

theorem length_output {output : TxOut} (small : output.scriptPubkey.length < 0xFD) :
    (bitcoin.output [output]).length = 10 + output.scriptPubkey.length := by
  have one : (varInt [output].length).length = 1 := length_varInt (by simp)
  simp only [bitcoin, List.flatMap_cons, List.flatMap_nil, List.append_nil,
    List.length_append, length_leBytes, script, length_varInt small, one]
  omega

theorem witnessSize_signed {input : TxIn} (signed : SignedInput input) :
    witnessSize input.witness = 66 := by
  obtain ⟨-, signature, witness⟩ := signed
  simp [witness, witnessSize, script, length_varInt]

/-- The estimate bounds the weight of a signed child. -/
theorem txWeight_child_le {tx : CircuitTransaction} {anchor : TxIn} {output : TxOut}
    (spends : tx.input = anchor :: inputs) (pays : tx.output = [output])
    (empty : anchor.scriptSig = []) (bare : anchor.witness = [])
    (signed : ∀ input ∈ inputs, SignedInput input) (few : inputs.length ≤ 251)
    (short : output.scriptPubkey.length ≤ 34) :
    txWeight tx ≤ childTxWeight inputs.length .cpfp := by
  have scripts : ∀ input ∈ anchor :: inputs, input.scriptSig = [] := by
    intro input member
    rcases List.mem_cons.mp member with rfl | other
    · exact empty
    · exact (signed input other).1
  have base : (tx.nonWitnessBytes .bitcoin).length ≤ 94 + 41 * inputs.length := by
    have count : (anchor :: inputs).length < 0xFD := by
      rw [List.length_cons]
      omega
    have spent := length_inputs count scripts
    have paid := length_output (show output.scriptPubkey.length < 0xFD by omega)
    simp only [CircuitTransaction.nonWitnessBytes, spends, pays, List.length_append, spent, paid,
      List.length_cons]
    simp only [bitcoin, u32LeBytes, List.length_reverse, Vector.length_toList]
    omega
  have witnesses : witnessesSize (anchor :: inputs) ≤ 3 + 66 * inputs.length := by
    have each : ∀ input ∈ inputs, witnessSize input.witness = 66 :=
      fun input member => witnessSize_signed (signed input member)
    have first : witnessSize anchor.witness = 1 := by
      rw [bare]
      decide
    have total : ((anchor :: inputs).map fun input => witnessSize input.witness).sum =
        1 + 66 * inputs.length := by
      rw [List.map_cons, List.sum_cons, first, List.map_congr_left each, List.map_const',
        List.sum_replicate_nat, Nat.mul_comm]
    rw [witnessesSize, total]
    split
    · omega
    · exact Nat.zero_le _
  rw [txWeight, spends, childTxWeight]
  omega

end Weight

/-! ## Amounts -/

variable {utxos : List SpendableUtxo}

section Amounts

/-- The worth of outputs, without wrapping. -/
def worth (utxos : List SpendableUtxo) : Nat :=
  (utxos.map fun utxo => utxo.txout.value.toNat).sum

/-- `Amount::MAX_MONEY`, the bound for the value of every output of the chain. -/
def maxMoney : Nat := 2100000000000000

theorem toNat_foldl_add (values : List UInt64) (start : UInt64) :
    (values.foldl (· + ·) start).toNat = (start.toNat + (values.map toNat).sum) % 2 ^ 64 := by
  induction values generalizing start with
  | nil => simp [mod_eq_of_lt start.toNat_lt]
  | cons value rest ih =>
    rw [List.foldl_cons, ih, UInt64.toNat_add, List.map_cons, List.sum_cons]
    omega

theorem toNat_totalValue (fits : worth utxos < 2 ^ 64) :
    (totalValue utxos).toNat = worth utxos := by
  rw [totalValue, toNat_foldl_add, List.map_map]
  change (0 + worth utxos) % 2 ^ 64 = worth utxos
  rw [Nat.zero_add, mod_eq_of_lt fits]

theorem worth_le (money : ∀ utxo ∈ utxos, utxo.txout.value.toNat ≤ maxMoney) :
    worth utxos ≤ utxos.length * maxMoney := by
  induction utxos with
  | nil => exact Nat.zero_le _
  | cons utxo rest ih =>
    have head := money utxo List.mem_cons_self
    have tail := ih fun other member => money other (List.mem_cons_of_mem _ member)
    have total : worth (utxo :: rest) = utxo.txout.value.toNat + worth rest := rfl
    rw [total, List.length_cons, succ_mul]
    omega

theorem worth_lt (few : utxos.length ≤ 251)
    (money : ∀ utxo ∈ utxos, utxo.txout.value.toNat ≤ maxMoney) : worth utxos < 2 ^ 64 := by
  have bound := worth_le money
  have product : utxos.length * maxMoney ≤ 251 * maxMoney := Nat.mul_le_mul_right _ few
  simp only [maxMoney] at bound product
  omega

/-- The virtual bytes of a package with the estimated child. -/
def packageVbytes (parentTxWeight numFeePayerUtxos : Nat) : Nat :=
  toVbytesCeil (childTxWeight numFeePayerUtxos .cpfp) + toVbytesCeil parentTxWeight

theorem packageVbytes_mono {parentTxWeight few many : Nat} (le : few ≤ many) :
    packageVbytes parentTxWeight few ≤ packageVbytes parentTxWeight many := by
  simp only [packageVbytes, toVbytesCeil, childTxWeight]
  omega

/-- The fee of a package is the rate times its virtual bytes, rounded up. -/
theorem calculateRequiredFee_cpfp {parentTxWeight numFeePayerUtxos : Nat} {feeRate : FeeRateKvb}
    {requiredFee : UInt64} :
    calculateRequiredFee parentTxWeight numFeePayerUtxos feeRate .cpfp = .ok requiredFee ↔
      feeRate.satPerKvb.toNat * packageVbytes parentTxWeight numFeePayerUtxos < 2 ^ 64 ∧
        requiredFee.toNat =
          (feeRate.satPerKvb.toNat * packageVbytes parentTxWeight numFeePayerUtxos + 999) /
            1000 := by
  have vbytes : toVbytesCeil (totalWeight parentTxWeight numFeePayerUtxos .cpfp) =
      packageVbytes parentTxWeight numFeePayerUtxos := by
    rw [totalWeight, toVbytesCeil, fromVbUnchecked, packageVbytes]
    omega
  rw [calculateRequiredFee, okOr_eq_ok, FeeRateKvb.feeWu, vbytes, FeeRateKvb.feeVb]
  generalize feeRate.satPerKvb.toNat * packageVbytes parentTxWeight numFeePayerUtxos = product
  split_ifs with fits
  · rw [Option.some.injEq, ← UInt64.toNat_inj, toNat_ofNat', mod_eq_of_lt (by omega)]
    exact ⟨fun same => ⟨fits, same.symm⟩, fun same => same.2.symm⟩
  · exact iff_of_false (by simp) fun both => fits both.1

end Amounts

/-! ## What packages pay -/

/-- A package: the child spends the anchor and the fee payers, pays the target rate for the actual
sizes of both transactions, and its change is not dust. -/
structure PaidPackage (sender : CpfpSender) (tx : CircuitTransaction) (feeRate : FeeRateKvb)
    (utxos : List SpendableUtxo) (package : List CircuitTransaction) : Prop where
  paid : ∃ (childTx : CircuitTransaction) (vout : Nat) (anchor : TxOut) (fee : Nat),
    package = [tx, childTx] ∧ tx.output[vout]? = some anchor ∧ anchor.scriptPubkey = p2aScript ∧
      childTx.input.map TxIn.previousOutput =
        ⟨sender.computeTxid tx, UInt32.ofNat vout⟩ :: utxos.map SpendableUtxo.outpoint ∧
      (childTx.output.map fun output => output.value.toNat).sum + fee =
        anchor.value.toNat + worth utxos ∧
      feeRate.satPerKvb.toNat * (txVsize tx + txVsize childTx) ≤ fee * 1000 ∧
      ∀ output ∈ childTx.output, sender.minimalNonDust output.scriptPubkey ≤ output.value

/-- The signer answers every request for a sighash of an input and a signature, if there is a
previous output for each input. -/
def CpfpSender.Signs (sender : CpfpSender) : Prop :=
  ∀ (tx : CircuitTransaction) (index : Nat) (prevouts : List TxOut), index < tx.input.length →
    prevouts.length = tx.input.length → ∃ sighash signature,
      sender.taprootKeySpendSignatureHash tx index prevouts = .ok sighash ∧
        sender.signWithTweakData sighash = .ok signature

section Packages

variable {sender : CpfpSender} {tx : CircuitTransaction} {feeRate : FeeRateKvb}

theorem okOr_ne_insufficient {α : Type} {text : String} {option : Option α} :
    (okOr (.other text) option : SendResult α) ≠ .error (.error .insufficientFeePayerAmount) := by
  cases option <;> simp [okOr]

theorem liftPanic_ne_error {α : Type} {result : Except Panic α} {error : SendTxError} :
    (liftPanic result : SendResult α) ≠ .error (.error error) := by
  cases result <;> simp [liftPanic]

variable {childTx : CircuitTransaction}

theorem CpfpSender.signInput_eq_ok {prevouts : List TxOut} {index : Nat}
    {witness : List (List UInt8)} (signed : sender.signInput childTx prevouts index = .ok witness) :
    ∃ signature : Vector UInt8 64, witness = [signature.toList] := by
  unfold CpfpSender.signInput at signed
  split at signed
  · cases signed
  · split at signed
    · cases signed
    · exact ⟨_, (Except.ok.inj signed).symm⟩

/-- The inputs of fee payers with their witnesses. -/
theorem zipWith_childInput : ∀ {outpoints : List OutPoint} {witnesses : List (List (List UInt8))},
    outpoints.length = witnesses.length →
    (∀ witness ∈ witnesses, ∃ signature : Vector UInt8 64, witness = [signature.toList]) →
    (List.zipWith childInput outpoints witnesses).map TxIn.previousOutput = outpoints ∧
      ∀ input ∈ List.zipWith childInput outpoints witnesses, SignedInput input
  | [], _, _, _ => ⟨rfl, by simp⟩
  | outpoint :: outpoints, witness :: witnesses, length, signed => by
      have rest := zipWith_childInput (succ.inj length)
        fun other member => signed other (List.mem_cons_of_mem _ member)
      refine ⟨congrArg (outpoint :: ·) rest.1, ?_⟩
      intro input member
      rcases List.mem_cons.mp member with rfl | other
      · exact ⟨rfl, signed witness List.mem_cons_self⟩
      · exact rest.2 input other

variable {p2aAnchor : OutPoint} {anchorSat : UInt64}

/-- What a child that was created looks like. -/
theorem CpfpSender.createChildTx_ok {size : Nat}
    (created : sender.createChildTx p2aAnchor anchorSat utxos size feeRate = .ok childTx) :
    ∃ fee change : UInt64, calculateRequiredFee size utxos.length feeRate .cpfp = .ok fee ∧
      (totalValue utxos).toNat + anchorSat.toNat = change.toNat + fee.toNat ∧
      sender.minimalNonDust sender.changeScriptPubkey ≤ change ∧
      childTx.output = [⟨change, sender.changeScriptPubkey⟩] ∧
      ∃ inputs, childTx.input = childInput p2aAnchor [] :: inputs ∧
        inputs.map TxIn.previousOutput = utxos.map SpendableUtxo.outpoint ∧
        ∀ input ∈ inputs, SignedInput input := by
  simp only [createChildTx, buildAndSignChildTx, bind_ok_iff, liftPanic_eq_ok, amountAdd,
    expectSome_eq_ok, okOr_eq_ok, errorIf_eq_ok, amountCheckedAdd_eq_some,
    amountCheckedSub_eq_some] at created
  obtain ⟨fee, required, total, totalEq, needed, neededEq, -, enough, totalIn, totalInEq, change,
    changeEq, witnesses, signed, built⟩ := created
  have same : total = totalIn := UInt64.toNat_inj.mp (totalEq.symm.trans totalInEq)
  have covered := Nat.le_of_not_lt (fun less => enough (lt_iff_toNat_lt.mpr less))
  have signatures : ∀ witness ∈ witnesses, ∃ signature : Vector UInt8 64,
      witness = [signature.toList] := by
    intro witness member
    obtain ⟨index, -, isWitness⟩ := (mem_mapM_ok signed).mp member
    exact signInput_eq_ok isWitness
  have length : (utxos.map SpendableUtxo.outpoint).length = witnesses.length := by
    rw [List.length_map, length_mapM_ok signed, List.length_range]
  have inputs := zipWith_childInput length signatures
  cases built
  refine ⟨fee, change, required, by omega, ?_, rfl, _, rfl, inputs.1, inputs.2⟩
  rw [le_iff_toNat_le]
  subst same
  omega

/-- A child is created if the fee is known and the amounts suffice. -/
theorem CpfpSender.exists_createChildTx (signs : sender.Signs) (p2aAnchor : OutPoint) {size : Nat}
    {fee : UInt64} (required : calculateRequiredFee size utxos.length feeRate .cpfp = .ok fee)
    (fits : (totalValue utxos).toNat + anchorSat.toNat < 2 ^ 64)
    (enough : (sender.minimalNonDust sender.changeScriptPubkey).toNat + fee.toNat ≤
      (totalValue utxos).toNat + anchorSat.toNat) :
    ∃ childTx, sender.createChildTx p2aAnchor anchorSat utxos size feeRate = .ok childTx := by
  have total : (totalValue utxos).toNat + anchorSat.toNat =
      (totalValue utxos + anchorSat).toNat := by
    rw [UInt64.toNat_add, mod_eq_of_lt fits]
  have needed : (sender.minimalNonDust sender.changeScriptPubkey).toNat + fee.toNat =
      (sender.minimalNonDust sender.changeScriptPubkey + fee).toNat := by
    rw [UInt64.toNat_add, mod_eq_of_lt (by omega)]
  have covered : fee ≤ totalValue utxos + anchorSat := by
    rw [le_iff_toNat_le]
    omega
  have change : (totalValue utxos + anchorSat - fee).toNat + fee.toNat =
      (totalValue utxos + anchorSat).toNat := by
    rw [UInt64.toNat_sub_of_le _ _ covered]
    have := le_iff_toNat_le.mp covered
    omega
  have answered : ∀ amount, ∀ index ∈ List.range utxos.length, ∃ witness, sender.signInput
      (unsignedChild p2aAnchor utxos sender.changeScriptPubkey amount)
      (anchorPrevout anchorSat :: utxos.map SpendableUtxo.txout) (index + 1) = .ok witness := by
    intro amount index member
    obtain ⟨sighash, signature, hashed, isSigned⟩ := signs (unsignedChild p2aAnchor utxos
      sender.changeScriptPubkey amount) (index + 1)
      (anchorPrevout anchorSat :: utxos.map SpendableUtxo.txout)
      (by simpa [unsignedChild] using member) (by simp [unsignedChild])
    exact ⟨[signature.toList], by simp only [signInput, hashed, isSigned]⟩
  simp only [createChildTx, buildAndSignChildTx, bind_ok_iff, liftPanic_eq_ok, amountAdd,
    expectSome_eq_ok, okOr_eq_ok, errorIf_eq_ok, amountCheckedAdd_eq_some,
    amountCheckedSub_eq_some]
  obtain ⟨signed, isSigned⟩ := exists_mapM_ok (answered (totalValue utxos + anchorSat - fee))
  refine ⟨_, fee, required, _, total, _, needed, (), ?_, _, total, _, change, signed, isSigned, rfl⟩
  rw [lt_iff_toNat_lt]
  omega

variable {package : List CircuitTransaction}

/-- A package is created exactly if its child is, for the first anchor of the transaction. -/
theorem CpfpSender.createPackage_ok_iff :
    sender.createPackage tx feeRate utxos = .ok package ↔ ∃ vout anchor childTx,
      tx.output.findIdx? (fun output => output.scriptPubkey = p2aScript) = some vout ∧
      tx.output[vout]? = some anchor ∧
      sender.createChildTx ⟨sender.computeTxid tx, UInt32.ofNat vout⟩ anchor.value utxos
        (txWeight tx) feeRate = .ok childTx ∧ package = [tx, childTx] := by
  simp only [createPackage, findP2aVout, bind_ok_iff, okOr_eq_ok, liftPanic_eq_ok, vecIndex_eq_ok]
  constructor
  · rintro ⟨vout, found, anchor, isAnchor, childTx, created, built⟩
    exact ⟨vout, anchor, childTx, found, isAnchor, created, (Except.ok.inj built).symm⟩
  · rintro ⟨vout, anchor, childTx, found, isAnchor, created, rfl⟩
    exact ⟨vout, found, anchor, isAnchor, childTx, created, rfl⟩

/-- A package that was created pays the target rate. -/
theorem CpfpSender.createPackage_paid (few : utxos.length ≤ 251)
    (money : ∀ utxo ∈ utxos, utxo.txout.value.toNat ≤ maxMoney)
    (short : sender.changeScriptPubkey.length ≤ 34)
    (created : sender.createPackage tx feeRate utxos = .ok package) :
    PaidPackage sender tx feeRate utxos package := by
  obtain ⟨vout, anchor, childTx, found, isAnchor, child, rfl⟩ := createPackage_ok_iff.mp created
  obtain ⟨fee, change, required, balance, notDust, pays, inputs, spends, outpoints, signed⟩ :=
    createChildTx_ok child
  have script : anchor.scriptPubkey = p2aScript := by
    obtain ⟨inside, holds, -⟩ := List.findIdx?_eq_some_iff_getElem.mp found
    rw [List.getElem?_eq_getElem inside] at isAnchor
    cases isAnchor
    exact of_decide_eq_true holds
  have fits := worth_lt few money
  have length : inputs.length = utxos.length := by
    have := congrArg List.length outpoints
    rwa [List.length_map, List.length_map] at this
  have weight : txWeight childTx ≤ childTxWeight utxos.length .cpfp := by
    rw [← length]
    exact txWeight_child_le spends pays rfl rfl signed (length ▸ few) short
  have sizes : txVsize tx + txVsize childTx ≤ packageVbytes (txWeight tx) utxos.length := by
    rw [txVsize, txVsize, packageVbytes, Nat.add_comm]
    exact Nat.add_le_add_right (Nat.div_le_div_right (Nat.add_le_add_right weight 3)) _
  refine ⟨childTx, vout, anchor, fee.toNat, rfl, isAnchor, script, ?_, ?_, ?_, ?_⟩
  · rw [spends, List.map_cons, outpoints]
    rfl
  · rw [← toNat_totalValue fits, Nat.add_comm anchor.value.toNat, balance]
    simp only [pays, List.map_cons, List.map_nil, List.sum_cons, List.sum_nil, Nat.add_zero]
  · refine (Nat.mul_le_mul_left feeRate.satPerKvb.toNat sizes).trans ?_
    rw [(calculateRequiredFee_cpfp.mp required).2]
    omega
  · intro output member
    rw [pays, List.mem_singleton] at member
    rw [member]
    exact notDust

/-- The child is never refused for its amounts once they were checked. -/
theorem CpfpSender.buildAndSignChildTx_ne {anchorSat fee : UInt64} {script : List UInt8} :
    sender.buildAndSignChildTx p2aAnchor anchorSat utxos script fee ≠
      .error (.error .insufficientFeePayerAmount) := by
  intro failed
  simp only [buildAndSignChildTx, bind_error_iff, okOr_ne_insufficient, liftPanic_ne_error,
    false_or] at failed
  obtain ⟨totalIn, -, change, -, unsigned | ⟨witnesses, -, impossible⟩⟩ := failed
  · obtain ⟨index, -, isError⟩ := exists_mapM_error unsigned
    unfold signInput at isError
    split at isError
    · cases isError
    · split at isError <;> cases isError
  · cases impossible

/-- The amounts did not suffice. -/
theorem CpfpSender.createPackage_insufficient
    (failed : sender.createPackage tx feeRate utxos = .error (.error .insufficientFeePayerAmount)) :
    ∃ vout anchor, ∃ fee : UInt64,
      tx.output.findIdx? (fun output => output.scriptPubkey = p2aScript) = some vout ∧
      tx.output[vout]? = some anchor ∧
      calculateRequiredFee (txWeight tx) utxos.length feeRate .cpfp = .ok fee ∧
      (totalValue utxos).toNat + anchor.value.toNat <
        (sender.minimalNonDust sender.changeScriptPubkey).toNat + fee.toNat := by
  simp only [createPackage, createChildTx, findP2aVout, calculateRequiredFee, bind_error_iff,
    okOr_ne_insufficient, liftPanic_ne_error, false_or, okOr_eq_ok, liftPanic_eq_ok, vecIndex_eq_ok,
    amountAdd, expectSome_eq_ok, amountCheckedAdd_eq_some] at failed
  obtain ⟨vout, found, anchor, isAnchor, child | ⟨childTx, -, impossible⟩⟩ := failed
  · obtain ⟨fee, required, total, totalEq, needed, neededEq, short | ⟨-, -, build⟩⟩ := child
    · unfold errorIf at short
      split_ifs at short with less
      rw [lt_iff_toNat_lt, ← totalEq, ← neededEq] at less
      exact ⟨vout, anchor, fee, found, isAnchor, okOr_eq_ok.mpr required, less⟩
    · exact absurd build buildAndSignChildTx_ne
  · cases impossible

/-- The new output covers twice the fee with one more input, if the amounts did not suffice. -/
theorem CpfpSender.newFeePayerAmount_covers {present : UInt64} {count : Nat} {fee : UInt64}
    (fits : feeRate.satPerKvb.toNat * packageVbytes (txWeight tx) (count + 1) < 2 ^ 64)
    (required : calculateRequiredFee (txWeight tx) count feeRate .cpfp = .ok fee)
    (missing : present.toNat < 330 + fee.toNat) :
    ∃ amount : UInt64, sender.newFeePayerAmount tx feeRate present count = .ok (some amount) ∧
      0 < amount ∧ ∃ nextFee : UInt64,
        calculateRequiredFee (txWeight tx) (count + 1) feeRate .cpfp = .ok nextFee ∧
          amount.toNat + present.toNat = 2 * nextFee.toNat + 330 ∧
          nextFee.toNat ≤ 2 ^ 64 / 1000 + 1 := by
  have feeEq := (calculateRequiredFee_cpfp.mp required).2
  have more := Nat.mul_le_mul_left feeRate.satPerKvb.toNat (packageVbytes_mono (le_succ count) :
      packageVbytes (txWeight tx) count ≤ packageVbytes (txWeight tx) (count + 1))
  generalize feeRate.satPerKvb.toNat * packageVbytes (txWeight tx) count = product at feeEq more
  obtain ⟨nextFee, nextEq⟩ : ∃ nextFee : UInt64, nextFee.toNat =
      (feeRate.satPerKvb.toNat * packageVbytes (txWeight tx) (count + 1) + 999) / 1000 := by
    refine ⟨ofNat _, toNat_ofNat'.trans (mod_eq_of_lt ?_)⟩
    omega
  have nextRequired := calculateRequiredFee_cpfp.mpr ⟨fits, nextEq⟩
  generalize feeRate.satPerKvb.toNat * packageVbytes (txWeight tx) (count + 1) = next
    at fits nextEq more
  have bound : nextFee.toNat ≤ 2 ^ 64 / 1000 + 1 := by omega
  have twice : (nextFee * 2).toNat = nextFee.toNat * 2 := by
    rw [UInt64.toNat_mul]
    exact mod_eq_of_lt (by simp only [reduceToNat]; omega)
  have needed : (nextFee * 2 + minTaprootAmount).toNat = 2 * nextFee.toNat + 330 := by
    simp only [UInt64.toNat_add, twice, minTaprootAmount, reduceToNat]
    omega
  have covered : present ≤ nextFee * 2 + minTaprootAmount := by
    rw [le_iff_toNat_le, needed]
    omega
  have difference := UInt64.toNat_sub_of_le _ _ covered
  rw [needed] at difference
  refine ⟨nextFee * 2 + minTaprootAmount - present, ?_, ?_, nextFee, nextRequired, ?_, bound⟩
  · have product : amountCheckedMul nextFee 2 = some (nextFee * 2) :=
      amountCheckedMul_eq_some.mpr (twice.symm ▸ rfl)
    have sum : amountCheckedAdd (nextFee * 2) minTaprootAmount =
        some (nextFee * 2 + minTaprootAmount) := by
      rw [amountCheckedAdd_eq_some, needed]
      simp only [twice, minTaprootAmount, reduceToNat]
      omega
    simp only [newFeePayerAmount, nextRequired, bind, Except.bind, product, Option.bind_some, sum,
      okOr, amountCheckedSub, if_pos covered]
    rfl
  · rw [lt_iff_toNat_lt, difference, UInt64.toNat_zero]
    omega
  · rw [difference]
    omega

end Packages

/-- Packages at a fee rate: those that are created pay it, and a shortage of funds is resolved by
one new output of the amount that is asked for. -/
structure FundsPackages (sender : CpfpSender) (tx : CircuitTransaction) (feeRate : FeeRateKvb)
    (utxos : List SpendableUtxo) : Prop where
  pays : ∀ package, sender.createPackage tx feeRate utxos = .ok package →
    PaidPackage sender tx feeRate utxos package
  topsUp : sender.createPackage tx feeRate utxos = .error (.error .insufficientFeePayerAmount) →
    (sender.minimalNonDust sender.changeScriptPubkey).toNat ≤ 330 →
    ∃ amount : UInt64,
      sender.newFeePayerAmount tx feeRate (totalValue utxos) utxos.length = .ok (some amount) ∧
        0 < amount ∧
        ∀ (utxo : SpendableUtxo) (later : List SpendableUtxo), utxo.txout.value = amount →
          later.Perm (utxo :: utxos) →
            ∃ package, sender.createPackage tx feeRate later = .ok package

/-- Packages pay the target rate, and a shortage of funds is resolved by the output that is asked
for, if the rate does not overflow for one more input. -/
theorem cpfp_packages_funded (sender : CpfpSender) (signs : sender.Signs) (tx : CircuitTransaction)
    (feeRate : FeeRateKvb) (utxos : List SpendableUtxo) (few : utxos.length ≤ 251)
    (money : ∀ output ∈ tx.output ++ utxos.map SpendableUtxo.txout, output.value.toNat ≤ maxMoney)
    (short : sender.changeScriptPubkey.length ≤ 34)
    (fits : feeRate.satPerKvb.toNat * packageVbytes (txWeight tx) (utxos.length + 1) < 2 ^ 64) :
    FundsPackages sender tx feeRate utxos := by
  have utxoMoney : ∀ utxo ∈ utxos, utxo.txout.value.toNat ≤ maxMoney := fun utxo member =>
    money utxo.txout (List.mem_append_right _ (List.mem_map_of_mem member))
  refine ⟨fun package created => CpfpSender.createPackage_paid few utxoMoney short created, ?_⟩
  intro failed dust
  obtain ⟨vout, anchor, fee, found, isAnchor, required, missing⟩ :=
    CpfpSender.createPackage_insufficient failed
  have anchorMoney := money anchor (List.mem_append_left _ (List.mem_of_getElem? isAnchor))
  obtain ⟨amount, asked, larger, total⟩ := CpfpSender.newFeePayerAmount_covers fits required
    (by omega : (totalValue utxos).toNat < 330 + fee.toNat)
  refine ⟨amount, asked, larger, ?_⟩
  intro utxo later value perm
  have length : later.length = utxos.length + 1 := perm.length_eq
  have worthLater : worth later = amount.toNat + worth utxos := by
    rw [worth, (perm.map _).sum_nat, List.map_cons, List.sum_cons, value]
    rfl
  have worthNow := toNat_totalValue (worth_lt few utxoMoney)
  obtain ⟨nextFee, nextRequired, nextTotal, bound⟩ := total
  have totalLater : (totalValue later).toNat = 2 * nextFee.toNat + 330 := by
    rw [toNat_totalValue (by omega), worthLater]
    omega
  have small : (totalValue later).toNat + anchor.value.toNat < 2 ^ 64 := by
    simp only [maxMoney] at anchorMoney
    omega
  obtain ⟨childTx, created⟩ := CpfpSender.exists_createChildTx signs
    ⟨sender.computeTxid tx, UInt32.ofNat vout⟩ (length ▸ nextRequired) small (by omega)
  exact ⟨_, CpfpSender.createPackage_ok_iff.mpr
    ⟨vout, anchor, childTx, found, isAnchor, created, rfl⟩⟩

namespace CpfpSample

/-- A sender with a change output of 34 bytes, whose dust limit is 330 satoshis. -/
def sender : CpfpSender where
  computeTxid tx := Sha2.sha256 (Sha2.sha256 (tx.nonWitnessBytes .bitcoin)).toList
  minimalNonDust _ := 330
  changeScriptPubkey := 0x51 :: 0x20 :: List.replicate 32 1
  taprootKeySpendSignatureHash tx index prevouts :=
    if index < tx.input.length ∧ prevouts.length = tx.input.length then
      .ok (Sha2.sha256 (UInt8.ofNat index :: tx.nonWitnessBytes .bitcoin))
    else .error "invalid index or prevouts"
  signWithTweakData _ := .ok (Vector.replicate 64 0)
  displayAmount amount := toString amount.toNat

/-- A parent with an anchor of 240 satoshis. -/
def parent : CircuitTransaction where
  version := 3
  lockTime := 0
  input := [⟨⟨Vector.replicate 32 7, 0⟩, [], 0xFFFFFFFD, []⟩]
  output := [⟨240, p2aScript⟩]

/-- A fee payer output. -/
def feePayer (value : UInt64) : SpendableUtxo :=
  ⟨⟨Vector.replicate 32 8, 0⟩, ⟨value, 0x51 :: 0x20 :: List.replicate 32 1⟩⟩

theorem signs_sender : sender.Signs := by
  intro tx index prevouts inside complete
  exact ⟨_, _, if_pos ⟨inside, complete⟩, rfl⟩

end CpfpSample

open CpfpSample

/-- With one fee payer of 1000 satoshis the package is refused, and the output that is asked for
resolves it; with one of 10000 satoshis it is created and pays. -/
theorem cpfp_packages_funded_parent : sender.createPackage parent ⟨10000⟩ [feePayer 1000] =
        .error (.error .insufficientFeePayerAmount) ∧
      FundsPackages sender parent ⟨10000⟩ [feePayer 1000] ∧
      ∃ package, sender.createPackage parent ⟨10000⟩ [feePayer 10000] = .ok package ∧
        PaidPackage sender parent ⟨10000⟩ [feePayer 10000] package := by
  have funds : ∀ value : UInt64, value.toNat ≤ maxMoney →
      FundsPackages sender parent ⟨10000⟩ [feePayer value] := by
    intro value small
    have fits : 10000 * packageVbytes (txWeight parent) 2 < 2 ^ 64 := by decide +kernel
    exact cpfp_packages_funded _ signs_sender _ _ _ (by simp)
      (by simpa [parent, feePayer, maxMoney] using small) (by decide) fits
  refine ⟨by decide +kernel, funds 1000 (by decide), ?_⟩
  have created : (sender.createPackage parent ⟨10000⟩ [feePayer 10000]).isOk = true := by
    decide +kernel
  obtain ⟨package, isPackage⟩ := exists_eq_ok_of_isOk created
  exact ⟨package, isPackage, (funds 10000 (by decide)).pays package isPackage⟩

end TxSender

end Clementine
