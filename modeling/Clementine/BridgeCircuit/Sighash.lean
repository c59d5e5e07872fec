import Clementine.BridgeCircuit.Transaction
import Clementine.Lib.ExceptRun
import Clementine.Lib.SelfDelimiting
import Clementine.Lib.Sha2

/-!
# Taproot signing data

`taproot_encode_signing_data_to_with_annex_digest` writes the message that a watchtower
signs: a fixed head, digests of lists of the transaction, and fields of the signed input.
Which parts are present depends on the sighash type and the annex.

The encoders of the Bitcoin library are parameters.  Scripts and outputs are encoded
with their length, so that a reader can tell where they end; everything else has one
width.  The written bytes then determine everything that the sighash type covers.
-/

namespace Clementine

open List Except

/-! ## Sighash types and previous outputs -/

/-- `TapSighashType`. -/
inductive TapSighashType where
  | default
  | all
  | none
  | single
  | allPlusAnyoneCanPay
  | nonePlusAnyoneCanPay
  | singlePlusAnyoneCanPay
  deriving Repr, DecidableEq

namespace TapSighashType

/-- The discriminant, `sighash_type as u8`. -/
def toU8 : TapSighashType → UInt8
  | default => 0x00
  | all => 0x01
  | none => 0x02
  | single => 0x03
  | allPlusAnyoneCanPay => 0x81
  | nonePlusAnyoneCanPay => 0x82
  | singlePlusAnyoneCanPay => 0x83

/-- `TapSighashType::from_consensus_u8`. -/
def fromConsensusU8 : UInt8 → Option TapSighashType
  | 0x00 => some default
  | 0x01 => some all
  | 0x02 => some none
  | 0x03 => some single
  | 0x81 => some allPlusAnyoneCanPay
  | 0x82 => some nonePlusAnyoneCanPay
  | 0x83 => some singlePlusAnyoneCanPay
  | _ => Option.none

theorem toU8_injective : Function.Injective toU8 := by
  intro left right equal
  cases left <;> cases right <;> first | rfl | cases equal

end TapSighashType

/-- `split_anyonecanpay_flag`. -/
def splitAnyonecanpayFlag : TapSighashType → TapSighashType × Bool
  | .default => (.default, false)
  | .all => (.all, false)
  | .none => (.none, false)
  | .single => (.single, false)
  | .allPlusAnyoneCanPay => (.all, true)
  | .nonePlusAnyoneCanPay => (.none, true)
  | .singlePlusAnyoneCanPay => (.single, true)

/-- `Prevouts`. -/
inductive Prevouts where
  | one (index : Nat) (prevout : TxOut)
  | all (prevouts : List TxOut)
  deriving DecidableEq

/-- `PrevoutsIndexError`. -/
inductive PrevoutsIndexError where
  | invalidOneIndex
  | invalidAllIndex
  deriving Repr, DecidableEq

/-- `get_for_prevouts`. -/
def getForPrevouts (prevouts : Prevouts) (inputIndex : Nat) : Except PrevoutsIndexError TxOut :=
  match prevouts with
  | .one index prevout =>
    if inputIndex = index then
      .ok prevout
    else
      .error .invalidOneIndex
  | .all prevouts =>
    match prevouts[inputIndex]? with
    | some prevout => .ok prevout
    | none => .error .invalidAllIndex

/-- `unwrap_all_prevouts`. -/
def unwrapAllPrevouts : Prevouts → Except Panic (List TxOut)
  | .all prevouts => .ok prevouts
  | .one _ _ => .error (.message "cannot get all prevouts from a single prevout")

/-- `check_all_prevouts`. -/
def checkAllPrevouts (prevouts : Prevouts) (tx : CircuitTransaction) : Except Panic Unit :=
  match prevouts with
  | .all prevouts =>
    if prevouts.length = tx.input.length then
      .ok ()
    else
      .error (.message (s!"Invalid number of prevouts: expected {tx.input.length}, " ++
        s!"got {prevouts.length}"))
  | .one _ _ => .ok ()

@[simp] theorem getForPrevouts_all_eq_ok {prevouts : List TxOut} {inputIndex : Nat}
    {prevout : TxOut} :
    getForPrevouts (.all prevouts) inputIndex = .ok prevout ↔
      prevouts[inputIndex]? = some prevout := by
  simp only [getForPrevouts]
  cases prevouts[inputIndex]? <;> simp

/-! ## The signing data -/

/-- The `consensus_encode` functions of the Bitcoin library for the parts of the signing
data. -/
structure SigningEncode where
  version : Int32 → List UInt8
  lockTime : UInt32 → List UInt8
  outPoint : OutPoint → List UInt8
  amount : UInt64 → List UInt8
  script : List UInt8 → List UInt8
  sequence : UInt32 → List UInt8
  txOut : TxOut → List UInt8

/-- The encoding of the Bitcoin library, for sample runs. -/
def SigningEncode.bitcoin : SigningEncode where
  version version := u32LeBytes version.toUInt32
  lockTime := u32LeBytes
  outPoint outPoint := outPoint.txid.toList ++ u32LeBytes outPoint.vout
  amount amount := ConsensusEncode.leBytes 8 amount.toNat
  script := ConsensusEncode.script
  sequence := u32LeBytes
  txOut txOut :=
    ConsensusEncode.leBytes 8 txOut.value.toNat ++ ConsensusEncode.script txOut.scriptPubkey

variable (sha256 : Sha256) (encode : SigningEncode)

/-- The digests of the ordered outpoints, amounts, scripts and sequences, unless anyone
can pay. -/
def inputsSection (tx : CircuitTransaction) (prevouts : Prevouts) (anyoneCanPay : Bool) :
    Except Panic (List UInt8) :=
  if anyoneCanPay then
    .ok []
  else do
    let allPrevouts ← unwrapAllPrevouts prevouts
    return (sha256 (tx.input.flatMap fun txin => encode.outPoint txin.previousOutput)).toList ++
      (sha256 (allPrevouts.flatMap fun prevout => encode.amount prevout.value)).toList ++
      (sha256 (allPrevouts.flatMap fun prevout => encode.script prevout.scriptPubkey)).toList ++
      (sha256 (tx.input.flatMap fun txin => encode.sequence txin.sequence)).toList

/-- The digest of the ordered outputs. -/
def outputsSection (tx : CircuitTransaction) (sighash : TapSighashType) : List UInt8 :=
  if sighash ≠ .none ∧ sighash ≠ .single then
    (sha256 (tx.output.flatMap encode.txOut)).toList
  else
    []

/-- The fields of the signed input if anyone can pay, and its index otherwise. -/
def signedInputSection (tx : CircuitTransaction) (inputIndex : Nat) (prevouts : Prevouts)
    (anyoneCanPay : Bool) : Except Panic (List UInt8) :=
  if anyoneCanPay then do
    let txin ← expectSome "invalid input index" tx.input[inputIndex]?
    let previousOutput ←
      expectOk "invalid prevout for input index" (getForPrevouts prevouts inputIndex)
    return encode.outPoint txin.previousOutput ++ encode.amount previousOutput.value ++
      encode.script previousOutput.scriptPubkey ++ encode.sequence txin.sequence
  else
    .ok (u32LeBytes (UInt32.ofNat inputIndex))

/-- The digest of the output at the signed index. -/
def singleOutputSection (tx : CircuitTransaction) (inputIndex : Nat) (sighash : TapSighashType) :
    Except Panic (List UInt8) :=
  if sighash = .single then do
    let output ←
      expectSome "SIGHASH_SINGLE requires a corresponding output" tx.output[inputIndex]?
    return (sha256 (encode.txOut output)).toList
  else
    .ok []

/-- The digest of the annex. -/
def annexSection : Option Bytes32 → List UInt8
  | some hash => hash.toList
  | none => []

/-- `spend_type`. -/
def spendType (annexHash : Option Bytes32) (leafHashCodeSeparator : Option (Bytes32 × UInt32)) :
    UInt8 :=
  (if annexHash.isSome then 1 else 0) ||| (if leafHashCodeSeparator.isSome then 2 else 0)

/-- The leaf hash, the key version and the position of the code separator. -/
def leafSection : Option (Bytes32 × UInt32) → List UInt8
  | some (hash, codeSeparatorPos) => hash.toList ++ [0] ++ u32LeBytes codeSeparatorPos
  | none => []

/-- `taproot_encode_signing_data_to_with_annex_digest`; the result is what is written. -/
def taprootEncodeSigningDataToWithAnnexDigest (tx : CircuitTransaction) (inputIndex : Nat)
    (prevouts : Prevouts) (annexHash : Option Bytes32)
    (leafHashCodeSeparator : Option (Bytes32 × UInt32)) (sighashType : TapSighashType) :
    Except Panic (List UInt8) := do
  checkAllPrevouts prevouts tx
  let flags := splitAnyonecanpayFlag sighashType
  let sighash := flags.1
  let anyoneCanPay := flags.2
  let inputs ← inputsSection sha256 encode tx prevouts anyoneCanPay
  let signedInput ← signedInputSection encode tx inputIndex prevouts anyoneCanPay
  let singleOutput ← singleOutputSection sha256 encode tx inputIndex sighash
  return [0, sighashType.toU8] ++ encode.version tx.version ++ encode.lockTime tx.lockTime ++
    inputs ++ outputsSection sha256 encode tx sighash ++
    [spendType annexHash leafHashCodeSeparator] ++ signedInput ++ annexSection annexHash ++
    singleOutput ++ leafSection leafHashCodeSeparator

/-! ## What the signing data covers -/

/-- The documented behaviour of the encoders: scripts and outputs carry their length, as
far as lengths are machine words, and the other parts have one width. -/
structure SigningEncode.Lawful : Prop where
  version_length : ∀ version, (encode.version version).length = 4
  version_injective : Function.Injective encode.version
  lockTime_length : ∀ lockTime, (encode.lockTime lockTime).length = 4
  lockTime_injective : Function.Injective encode.lockTime
  outPoint_length : ∀ outPoint, (encode.outPoint outPoint).length = 36
  outPoint_injective : Function.Injective encode.outPoint
  amount_length : ∀ amount, (encode.amount amount).length = 8
  amount_injective : Function.Injective encode.amount
  sequence_length : ∀ sequence, (encode.sequence sequence).length = 4
  sequence_injective : Function.Injective encode.sequence
  script_nonempty : ∀ script, encode.script script ≠ []
  script_delimited : SelfDelimiting encode.script {script | script.length < 2 ^ 64}
  txOut_nonempty : ∀ txOut, encode.txOut txOut ≠ []
  txOut_delimited : SelfDelimiting encode.txOut {txOut | txOut.scriptPubkey.length < 2 ^ 64}

theorem SigningEncode.bitcoin_amount_injective :
    Function.Injective SigningEncode.bitcoin.amount := by
  intro left right equal
  have same := (ConsensusEncode.leBytes_delimited 8).injOn left.toNat_lt right.toNat_lt equal
  exact UInt64.toNat_inj.mp same

theorem SigningEncode.bitcoin_lawful : SigningEncode.bitcoin.Lawful where
  version_length _ := length_u32LeBytes _
  version_injective := by
    rintro ⟨version⟩ ⟨version'⟩ equal
    exact congrArg (fun word => ({ toUInt32 := word } : Int32)) (u32LeBytes_injective equal)
  lockTime_length := length_u32LeBytes
  lockTime_injective _ _ := u32LeBytes_injective
  outPoint_length _ := by simp [bitcoin]
  outPoint_injective := by
    rintro ⟨txid, vout⟩ ⟨txid', vout'⟩ equal
    obtain ⟨txids, vouts⟩ := append_inj equal (by simp)
    rw [OutPoint.mk.injEq]
    exact ⟨Vector.toList_inj.mp txids, u32LeBytes_injective vouts⟩
  amount_length _ := ConsensusEncode.length_leBytes 8 _
  amount_injective := bitcoin_amount_injective
  sequence_length := length_u32LeBytes
  sequence_injective _ _ := u32LeBytes_injective
  script_nonempty script empty :=
    ConsensusEncode.varInt_ne_nil script.length (append_eq_nil_iff.mp empty).1
  script_delimited := ConsensusEncode.script_delimited
  txOut_nonempty txOut empty := by
    simpa using congrArg length (append_eq_nil_iff.mp empty).1
  txOut_delimited := by
    rintro ⟨value, script⟩ fits ⟨value', script'⟩ fits' tail tail' equal
    simp only [bitcoin, append_assoc] at equal
    obtain ⟨values, equal⟩ := append_inj equal (by simp)
    obtain ⟨scripts, tails⟩ := ConsensusEncode.script_delimited fits fits' equal
    rw [TxOut.mk.injEq]
    exact ⟨⟨bitcoin_amount_injective values, scripts⟩, tails⟩

/-- The arguments of a call for a key path spend: all previous outputs, no leaf. -/
structure SigningCall where
  tx : CircuitTransaction
  inputIndex : Nat
  prevouts : List TxOut
  annexHash : Option Bytes32
  sighashType : TapSighashType
  deriving DecidableEq

namespace SigningCall

/-- What the call writes. -/
def write (self : SigningCall) : Except Panic (List UInt8) :=
  taprootEncodeSigningDataToWithAnnexDigest sha256 encode self.tx self.inputIndex
    (.all self.prevouts) self.annexHash none self.sighashType

/-- Whether the sighash type leaves the other inputs open. -/
def anyoneCanPay (self : SigningCall) : Bool := (splitAnyonecanpayFlag self.sighashType).2

/-- The part of the sighash type that selects outputs. -/
def outputType (self : SigningCall) : TapSighashType := (splitAnyonecanpayFlag self.sighashType).1

/-- The strings that the call hashes. -/
def hashedStrings (self : SigningCall) : List (List UInt8) :=
  (if self.anyoneCanPay then [] else
    [self.tx.input.flatMap fun txin => encode.outPoint txin.previousOutput,
      self.prevouts.flatMap fun prevout => encode.amount prevout.value,
      self.prevouts.flatMap fun prevout => encode.script prevout.scriptPubkey,
      self.tx.input.flatMap fun txin => encode.sequence txin.sequence]) ++
  (if self.outputType ≠ .none ∧ self.outputType ≠ .single then
    [self.tx.output.flatMap encode.txOut] else []) ++
  (if self.outputType = .single then
    (self.tx.output[self.inputIndex]?.map encode.txOut).toList else [])

/-- The scripts of the call have lengths that are machine words. -/
structure Addressable (call : SigningCall) : Prop where
  prevouts : ∀ prevout ∈ call.prevouts, prevout.scriptPubkey.length < 2 ^ 64
  outputs : ∀ output ∈ call.tx.output, output.scriptPubkey.length < 2 ^ 64

/-- Two calls agree on all that their sighash type covers.  The input index is written as
a `u32`. -/
structure Agrees (left right : SigningCall) : Prop where
  sighashType : left.sighashType = right.sighashType
  version : left.tx.version = right.tx.version
  lockTime : left.tx.lockTime = right.tx.lockTime
  annexHash : left.annexHash = right.annexHash
  allInputs : left.anyoneCanPay = false →
    left.tx.input.map (·.previousOutput) = right.tx.input.map (·.previousOutput) ∧
    left.tx.input.map (·.sequence) = right.tx.input.map (·.sequence) ∧
    left.prevouts = right.prevouts ∧
    left.inputIndex % 2 ^ 32 = right.inputIndex % 2 ^ 32
  signedInput : left.anyoneCanPay = true → ∃ txin txin' prevout prevout',
      left.tx.input[left.inputIndex]? = some txin ∧
      right.tx.input[right.inputIndex]? = some txin' ∧
      left.prevouts[left.inputIndex]? = some prevout ∧
      right.prevouts[right.inputIndex]? = some prevout' ∧
      txin.previousOutput = txin'.previousOutput ∧ txin.sequence = txin'.sequence ∧
      prevout = prevout'
  allOutputs : left.outputType = .default ∨ left.outputType = .all →
    left.tx.output = right.tx.output
  singleOutput : left.outputType = .single →
    ∃ output, left.tx.output[left.inputIndex]? = some output ∧
      right.tx.output[right.inputIndex]? = some output

/-- The parts of the written bytes. -/
theorem write_ok {self : SigningCall} {bytes : List UInt8}
    (written : self.write sha256 encode = .ok bytes) :
    ∃ inputs signedInput singleOutput,
      inputsSection sha256 encode self.tx (.all self.prevouts) self.anyoneCanPay = .ok inputs ∧
      signedInputSection encode self.tx self.inputIndex (.all self.prevouts) self.anyoneCanPay =
        .ok signedInput ∧
      singleOutputSection sha256 encode self.tx self.inputIndex self.outputType = .ok singleOutput ∧
      bytes = 0 :: self.sighashType.toU8 :: (encode.version self.tx.version ++
        (encode.lockTime self.tx.lockTime ++ (inputs ++
        (outputsSection sha256 encode self.tx self.outputType ++
        spendType self.annexHash none :: (signedInput ++
        (annexSection self.annexHash ++ singleOutput)))))) := by
  simp only [write, taprootEncodeSigningDataToWithAnnexDigest, ExceptRun.bind_ok_iff] at written
  obtain ⟨-, -, inputs, inputsEq, signedInput, signedInputEq, singleOutput,
    singleOutputEq, returned⟩ := written
  refine ⟨inputs, signedInput, singleOutput, inputsEq, signedInputEq, singleOutputEq, ?_⟩
  rw [← ok.inj returned]
  simp [leafSection, outputType]

variable {sha256 encode}

/-! ### Widths of the parts -/

theorem length_inputsSection {tx : CircuitTransaction} {prevouts : List TxOut}
    {anyoneCanPay : Bool} {inputs : List UInt8}
    (inputsEq : inputsSection sha256 encode tx (.all prevouts) anyoneCanPay = .ok inputs) :
    inputs.length = if anyoneCanPay then 0 else 128 := by
  cases anyoneCanPay with
  | true =>
    cases inputsEq
    rfl
  | false =>
    cases inputsEq
    simp

theorem length_outputsSection (tx : CircuitTransaction) (sighash : TapSighashType) :
    (outputsSection sha256 encode tx sighash).length =
      if sighash ≠ .none ∧ sighash ≠ .single then 32 else 0 := by
  unfold outputsSection
  split_ifs <;> simp

theorem length_annexSection (annexHash : Option Bytes32) :
    (annexSection annexHash).length = if annexHash.isSome then 32 else 0 := by
  cases annexHash <;> simp [annexSection]

variable {left right : Option Bytes32}

theorem annexSection_injective (samePresence : left.isSome = right.isSome)
    (equal : annexSection left = annexSection right) :
    left = right := by
  match left, right, samePresence with
  | none, none, _ => rfl
  | some hash, some hash', _ => rw [Vector.toList_inj.mp equal]

theorem spendType_isSome (equal : spendType left none = spendType right none) :
    left.isSome = right.isSome := by
  cases left <;> cases right <;> simp [spendType] at equal ⊢

/-! ### What the parts determine -/

section Parts

variable {left right : SigningCall} {strings : Set (List UInt8)}

theorem prevouts_ext {lefts rights : List TxOut}
    (amounts : lefts.map (·.value) = rights.map (·.value))
    (scripts : lefts.map (·.scriptPubkey) = rights.map (·.scriptPubkey)) : lefts = rights := by
  induction lefts generalizing rights with
  | nil => simpa using amounts
  | cons prevout lefts ih =>
    cases rights with
    | nil => simp at amounts
    | cons prevout' rights =>
      rw [map_cons, map_cons, cons.injEq] at amounts scripts
      have head : prevout = prevout' := by
        obtain ⟨value, script⟩ := prevout
        obtain ⟨value', script'⟩ := prevout'
        rw [TxOut.mk.injEq]
        exact ⟨amounts.1, scripts.1⟩
      rw [head, ih amounts.2 scripts.2]

/-- Both signatures spend the same output with the same sequence number. -/
def SameSignedInput (left right : SigningCall) : Prop :=
  ∃ txin txin' prevout prevout', left.tx.input[left.inputIndex]? = some txin ∧
    right.tx.input[right.inputIndex]? = some txin' ∧
    left.prevouts[left.inputIndex]? = some prevout ∧
    right.prevouts[right.inputIndex]? = some prevout' ∧
    txin.previousOutput = txin'.previousOutput ∧ txin.sequence = txin'.sequence ∧
    prevout = prevout'

/-- The fields of the signed input determine it, whatever follows them. -/
theorem signedInputSection_injective (lawful : encode.Lawful)
    (leftFits : left.Addressable) (rightFits : right.Addressable)
    {leftBytes rightBytes leftTail rightTail : List UInt8}
    (leftEq : signedInputSection encode left.tx left.inputIndex (.all left.prevouts) true =
      .ok leftBytes)
    (rightEq : signedInputSection encode right.tx right.inputIndex (.all right.prevouts) true =
      .ok rightBytes)
    (equal : leftBytes ++ leftTail = rightBytes ++ rightTail) :
    SameSignedInput left right ∧ leftTail = rightTail := by
  simp only [signedInputSection, if_true, ExceptRun.bind_ok_iff, expectSome_eq_ok, expectOk_eq_ok,
    getForPrevouts_all_eq_ok, pure, Except.pure, ok.injEq] at leftEq rightEq
  obtain ⟨txin, txinAt, prevout, prevoutAt, rfl⟩ := leftEq
  obtain ⟨txin', txinAt', prevout', prevoutAt', rfl⟩ := rightEq
  simp only [append_assoc] at equal
  obtain ⟨outPoint, equal⟩ := append_inj equal
    ((lawful.outPoint_length _).trans (lawful.outPoint_length _).symm)
  obtain ⟨amount, equal⟩ := append_inj equal
    ((lawful.amount_length _).trans (lawful.amount_length _).symm)
  obtain ⟨script, equal⟩ := lawful.script_delimited
    (leftFits.prevouts prevout (mem_of_getElem? prevoutAt))
    (rightFits.prevouts prevout' (mem_of_getElem? prevoutAt')) equal
  obtain ⟨sequence, tails⟩ := append_inj equal
    ((lawful.sequence_length _).trans (lawful.sequence_length _).symm)
  have samePrevout : prevout = prevout' := by
    obtain ⟨value, scriptPubkey⟩ := prevout
    obtain ⟨value', scriptPubkey'⟩ := prevout'
    rw [TxOut.mk.injEq]
    exact ⟨lawful.amount_injective amount, script⟩
  exact ⟨⟨txin, txin', prevout, prevout', txinAt, txinAt', prevoutAt, prevoutAt',
    lawful.outPoint_injective outPoint, lawful.sequence_injective sequence, samePrevout⟩, tails⟩

/-- Encodings of one width determine what they encode. -/
theorem map_eq_of_flatMap {α β : Type} {encoding : β → List UInt8} {width : Nat}
    (positive : 0 < width) (widths : ∀ value, (encoding value).length = width)
    (injective : Function.Injective encoding) {project : α → β} {lefts rights : List α}
    (equal : lefts.flatMap (fun item => encoding (project item)) =
      rights.flatMap fun item => encoding (project item)) :
    lefts.map project = rights.map project :=
  ByteNumeral.flatMap_injective positive widths injective (by rwa [flatMap_map, flatMap_map])

section Hashed

variable (lawful : encode.Lawful) (collisionFree : Set.InjOn sha256 strings)
  (leftHashed : ∀ bytes ∈ left.hashedStrings encode, bytes ∈ strings)
  (rightHashed : ∀ bytes ∈ right.hashedStrings encode, bytes ∈ strings)
  (leftFits : left.Addressable) (rightFits : right.Addressable)

include lawful collisionFree leftHashed rightHashed leftFits rightFits

/-- The digests of the inputs determine the lists that were hashed. -/
theorem inputsSection_injective (leftClosed : left.anyoneCanPay = false)
    (rightClosed : right.anyoneCanPay = false)
    (equal : inputsSection sha256 encode left.tx (.all left.prevouts) false =
      inputsSection sha256 encode right.tx (.all right.prevouts) false) :
    left.tx.input.map (·.previousOutput) = right.tx.input.map (·.previousOutput) ∧
    left.tx.input.map (·.sequence) = right.tx.input.map (·.sequence) ∧
    left.prevouts = right.prevouts := by
  have sections := ok.inj equal
  obtain ⟨sections, sequences⟩ := append_inj sections (by simp)
  obtain ⟨sections, scripts⟩ := append_inj sections (by simp)
  obtain ⟨outPoints, amounts⟩ := append_inj sections (by simp)
  simp only [hashedStrings, leftClosed, mem_append] at leftHashed
  simp only [hashedStrings, rightClosed, mem_append] at rightHashed
  have unhash {leftBytes rightBytes : List UInt8} (leftMem : leftBytes ∈ strings)
      (rightMem : rightBytes ∈ strings)
      (hashes : (sha256 leftBytes).toList = (sha256 rightBytes).toList) : leftBytes = rightBytes :=
    collisionFree leftMem rightMem (Vector.toList_inj.mp hashes)
  have outPoints := unhash (leftHashed _ (by simp)) (rightHashed _ (by simp)) outPoints
  have amounts := unhash (leftHashed _ (by simp)) (rightHashed _ (by simp)) amounts
  have scripts := unhash (leftHashed _ (by simp)) (rightHashed _ (by simp)) scripts
  have sequences := unhash (leftHashed _ (by simp)) (rightHashed _ (by simp)) sequences
  have sameOutPoints := map_eq_of_flatMap (by decide) lawful.outPoint_length
    lawful.outPoint_injective outPoints
  have sameSequences := map_eq_of_flatMap (by decide) lawful.sequence_length
    lawful.sequence_injective sequences
  have sameAmounts := map_eq_of_flatMap (by decide) lawful.amount_length lawful.amount_injective
    amounts
  have sameScripts := lawful.script_delimited.flatMap_injective
    (fun script _ => lawful.script_nonempty script)
    (show ∀ script ∈ left.prevouts.map (·.scriptPubkey), script.length < 2 ^ 64 by
      simpa using leftFits.prevouts)
    (show ∀ script ∈ right.prevouts.map (·.scriptPubkey), script.length < 2 ^ 64 by
      simpa using rightFits.prevouts)
    (by rwa [flatMap_map, flatMap_map])
  exact ⟨sameOutPoints, sameSequences, prevouts_ext sameAmounts sameScripts⟩

/-- The digest of the outputs determines them. -/
theorem outputsSection_injective (sameType : left.outputType = right.outputType)
    (covered : left.outputType ≠ .none ∧ left.outputType ≠ .single)
    (equal : outputsSection sha256 encode left.tx left.outputType =
      outputsSection sha256 encode right.tx right.outputType) :
    left.tx.output = right.tx.output := by
  have covered' : right.outputType ≠ .none ∧ right.outputType ≠ .single := sameType ▸ covered
  rw [outputsSection, outputsSection, if_pos covered, if_pos covered'] at equal
  have leftMem := leftHashed (left.tx.output.flatMap encode.txOut)
    (by simp [hashedStrings, covered])
  have rightMem := rightHashed (right.tx.output.flatMap encode.txOut)
    (by simp [hashedStrings, covered'])
  exact lawful.txOut_delimited.flatMap_injective (fun txOut _ => lawful.txOut_nonempty txOut)
    leftFits.outputs rightFits.outputs
    (collisionFree leftMem rightMem (Vector.toList_inj.mp equal))

/-- The digest of the output at the signed index determines it. -/
theorem singleOutputSection_injective (leftSingle : left.outputType = .single)
    (rightSingle : right.outputType = .single) {bytes : List UInt8}
    (leftEq : singleOutputSection sha256 encode left.tx left.inputIndex .single = .ok bytes)
    (rightEq : singleOutputSection sha256 encode right.tx right.inputIndex .single = .ok bytes) :
    ∃ output, left.tx.output[left.inputIndex]? = some output ∧
      right.tx.output[right.inputIndex]? = some output := by
  simp only [singleOutputSection, if_true, ExceptRun.bind_ok_iff, expectSome_eq_ok, pure,
    Except.pure, ok.injEq] at leftEq rightEq
  obtain ⟨output, outputAt, digest⟩ := leftEq
  obtain ⟨output', outputAt', digest'⟩ := rightEq
  have leftMem := leftHashed (encode.txOut output) (by simp [hashedStrings, leftSingle, outputAt])
  have rightMem := rightHashed (encode.txOut output')
    (by simp [hashedStrings, rightSingle, outputAt'])
  have encodings := collisionFree leftMem rightMem
    (Vector.toList_inj.mp (digest.trans digest'.symm))
  obtain rfl := lawful.txOut_delimited.injOn (leftFits.outputs output (mem_of_getElem? outputAt))
    (rightFits.outputs output' (mem_of_getElem? outputAt')) encodings
  exact ⟨output, outputAt, outputAt'⟩

end Hashed

end Parts

/-- The bytes that a call writes determine all that its sighash type covers. -/
theorem write_determines (lawful : encode.Lawful) (strings : Set (List UInt8))
    (collisionFree : Set.InjOn sha256 strings) (left right : SigningCall)
    (leftFits : left.Addressable) (rightFits : right.Addressable)
    (leftHashed : ∀ bytes ∈ left.hashedStrings encode, bytes ∈ strings)
    (rightHashed : ∀ bytes ∈ right.hashedStrings encode, bytes ∈ strings) (bytes : List UInt8)
    (leftWritten : left.write sha256 encode = .ok bytes)
    (rightWritten : right.write sha256 encode = .ok bytes) : left.Agrees right := by
  obtain ⟨inputs, signedInput, singleOutput, inputsEq, signedInputEq, singleOutputEq, rfl⟩ :=
    write_ok sha256 encode leftWritten
  obtain ⟨inputs', signedInput', singleOutput', inputsEq', signedInputEq', singleOutputEq',
    equal⟩ := write_ok sha256 encode rightWritten
  rw [cons.injEq, cons.injEq] at equal
  obtain ⟨-, discriminants, equal⟩ := equal
  have sameType := TapSighashType.toU8_injective discriminants
  have sameFlag : left.anyoneCanPay = right.anyoneCanPay := by rw [anyoneCanPay, sameType]; rfl
  have sameOutputType : left.outputType = right.outputType := by rw [outputType, sameType]; rfl
  -- the head and the digests have widths that depend on the sighash type only
  obtain ⟨versions, equal⟩ := append_inj equal
    ((lawful.version_length _).trans (lawful.version_length _).symm)
  obtain ⟨lockTimes, equal⟩ := append_inj equal
    ((lawful.lockTime_length _).trans (lawful.lockTime_length _).symm)
  obtain ⟨sameInputs, equal⟩ := append_inj equal
    (by rw [length_inputsSection inputsEq, length_inputsSection inputsEq', sameFlag])
  obtain ⟨outputs, equal⟩ := append_inj equal
    (by rw [length_outputsSection, length_outputsSection, sameOutputType])
  rw [cons.injEq] at equal
  obtain ⟨spendTypes, equal⟩ := equal
  have samePresence := spendType_isSome spendTypes
  have annexWidths :
      (annexSection left.annexHash).length = (annexSection right.annexHash).length := by
    rw [length_annexSection, length_annexSection, samePresence]
  have signed : (left.anyoneCanPay = false → left.inputIndex % 2 ^ 32 = right.inputIndex % 2 ^ 32) ∧
      (left.anyoneCanPay = true → SameSignedInput left right) ∧
      annexSection left.annexHash ++ singleOutput =
        annexSection right.annexHash ++ singleOutput' := by
    cases flag : left.anyoneCanPay with
    | true =>
      rw [flag] at signedInputEq
      rw [← sameFlag, flag] at signedInputEq'
      obtain ⟨input, tails⟩ := signedInputSection_injective lawful leftFits rightFits
        signedInputEq signedInputEq' equal
      exact ⟨nofun, fun _ => input, tails⟩
    | false =>
      rw [flag] at signedInputEq
      rw [← sameFlag, flag] at signedInputEq'
      cases signedInputEq
      cases signedInputEq'
      obtain ⟨indices, tails⟩ := append_inj equal (by simp)
      have sameIndex := congrArg UInt32.toNat (u32LeBytes_injective indices)
      rw [UInt32.toNat_ofNat', UInt32.toNat_ofNat'] at sameIndex
      exact ⟨fun _ => sameIndex, nofun, tails⟩
  obtain ⟨sameIndex, sameSigned, tails⟩ := signed
  obtain ⟨annexes, singles⟩ := append_inj tails annexWidths
  refine {
    sighashType := sameType
    version := lawful.version_injective versions
    lockTime := lawful.lockTime_injective lockTimes
    annexHash := annexSection_injective samePresence annexes
    allInputs := ?_
    signedInput := sameSigned
    allOutputs := ?_
    singleOutput := ?_ }
  · intro flag
    have flag' : right.anyoneCanPay = false := sameFlag ▸ flag
    rw [flag] at inputsEq
    rw [flag', ← sameInputs] at inputsEq'
    obtain ⟨outPoints, sequences, prevouts⟩ := inputsSection_injective lawful collisionFree
      leftHashed rightHashed leftFits rightFits flag flag' (inputsEq.trans inputsEq'.symm)
    exact ⟨outPoints, sequences, prevouts, sameIndex flag⟩
  · intro covered
    refine outputsSection_injective lawful collisionFree leftHashed rightHashed leftFits rightFits
      sameOutputType ?_ outputs
    rcases covered with covered | covered <;> simp [covered]
  · intro single
    have single' : right.outputType = .single := sameOutputType ▸ single
    rw [single] at singleOutputEq
    rw [single', ← singles] at singleOutputEq'
    exact singleOutputSection_injective lawful collisionFree leftHashed rightHashed leftFits
      rightFits single single' singleOutputEq singleOutputEq'

/-- A sample call: one input that spends a Taproot output. -/
def sample (outputs : List TxOut) (inputIndex : Nat) (sighashType : TapSighashType) :
    SigningCall where
  tx := {
    version := 2
    lockTime := 0
    input := [⟨⟨zeroBytes, 3⟩, [], 0xFFFFFFFF, []⟩]
    output := outputs }
  inputIndex
  prevouts := [⟨330, 0x51 :: 0x20 :: replicate 32 7⟩]
  annexHash := none
  sighashType

/-- With the type `None` the outputs are not written. -/
theorem write_sample_none (sha256 : Sha256) (encode : SigningEncode) (outputs : List TxOut) :
    (sample outputs 0 .none).write sha256 encode = (sample [] 0 .none).write sha256 encode := rfl

/-- With the type `Default` the index is written as a `u32`. -/
theorem write_sample_default (sha256 : Sha256) (encode : SigningEncode) {left right : Nat}
    (truncated : UInt32.ofNat left = UInt32.ofNat right) :
    (sample [] left .default).write sha256 encode =
      (sample [] right .default).write sha256 encode := by
  simp only [write, sample, taprootEncodeSigningDataToWithAnnexDigest, splitAnyonecanpayFlag,
    signedInputSection, singleOutputSection, truncated, reduceCtorEq, if_false]

theorem write_sample_isOk (sha256 : Sha256) (encode : SigningEncode) :
    (∃ bytes, (sample [] 0 .none).write sha256 encode = .ok bytes) ∧
      ∃ bytes, (sample [] 0 .default).write sha256 encode = .ok bytes :=
  ⟨ExceptRun.exists_eq_ok_of_isOk rfl, ExceptRun.exists_eq_ok_of_isOk rfl⟩

/-- Two calls that differ in their outputs, which the type `None` does not cover. -/
theorem write_determines_none :
    (∃ bytes, (sample [] 0 .none).write Sha2.sha256 .bitcoin = .ok bytes ∧
      (sample [⟨100, [0x51]⟩] 0 .none).write Sha2.sha256 .bitcoin = .ok bytes) ∧
    (sample [] 0 .none).Agrees (sample [⟨100, [0x51]⟩] 0 .none) := by
  have distinct : (((sample [] 0 .none).hashedStrings .bitcoin).map Sha2.sha256).Nodup := by
    decide +kernel
  have collisionFree : Set.InjOn Sha2.sha256
      {bytes | bytes ∈ (sample [] 0 .none).hashedStrings .bitcoin} :=
    fun left leftMem right rightMem equal =>
      inj_on_of_nodup_map distinct leftMem rightMem equal
  have fits (outputs : List TxOut)
      (small : ∀ output ∈ outputs, output.scriptPubkey.length < 2 ^ 64) :
      (sample outputs 0 .none).Addressable :=
    ⟨by simp [sample], small⟩
  obtain ⟨⟨bytes, written⟩, -⟩ := write_sample_isOk Sha2.sha256 .bitcoin
  have written' := (write_sample_none Sha2.sha256 .bitcoin [⟨100, [0x51]⟩]).trans written
  exact ⟨⟨bytes, written, written'⟩, write_determines SigningEncode.bitcoin_lawful _
    collisionFree _ _ (fits _ (by simp)) (fits _ (by simp)) (fun _ member => member)
    (fun _ member => member) bytes written written'⟩

/-- The input index is truncated when it is written, and without `ANYONECANPAY` nothing
compares it with the number of inputs. -/
theorem write_truncates_inputIndex :
    (∃ bytes, (sample [] 0 .default).write Sha2.sha256 .bitcoin = .ok bytes ∧
      (sample [] (2 ^ 32) .default).write Sha2.sha256 .bitcoin = .ok bytes) ∧
    (sample [] 0 .default).inputIndex ≠ (sample [] (2 ^ 32) .default).inputIndex := by
  have truncated : UInt32.ofNat (2 ^ 32) = UInt32.ofNat 0 := by decide
  obtain ⟨-, bytes, written⟩ := write_sample_isOk Sha2.sha256 .bitcoin
  exact ⟨⟨bytes, written, (write_sample_default Sha2.sha256 .bitcoin truncated).trans written⟩,
    by decide⟩

end SigningCall

end Clementine
