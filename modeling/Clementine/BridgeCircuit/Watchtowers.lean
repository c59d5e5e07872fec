import Clementine.BridgeCircuit.Structs
import Clementine.Lib.Bitmap
import Mathlib.Data.List.ReduceOption
import Mathlib.Data.List.Sort

/-!
# Watchtower challenges

`verify_watchtower_challenges` stops on the first challenge that does not spend its
connector output with a valid signature, and otherwise marks the senders and collects the
outputs of their transactions.  `total_work_and_watchtower_flags` reads a proof and a work
from those outputs, sorts by work and returns the first work whose proof verifies.

Because every accepted challenge passes all checks, the marks depend only on the set of
inputs, and because the sort is by work, so does the returned work: it is the largest one
with a valid proof.
-/

namespace Clementine

open ExceptRun ByteNumeral Option Vector Except

variable (library : CircuitLibrary)

/-! ## Verification of challenges -/

/-- Display of a transaction id: its bytes in reverse order as hexadecimal digits. -/
def displayTxid (txid : Bytes32) : String :=
  String.ofList (txid.toList.reverse.flatMap fun byte =>
    [Nat.digitChar (byte.toNat / 16), Nat.digitChar (byte.toNat % 16)])

/-- The sighash type and the signature in the witness of a challenge. -/
def challengeSignature (watchtowerInput : WatchtowerInput) :
    Except Panic (TapSighashType × Vector UInt8 64) :=
  match watchtowerInput.watchtowerChallengeWitness with
  | [signature] =>
    if signature.length = 64 then do
      let sigBytes ← expectSome "Cannot fail" (tryInto 64 (signature.take 64))
      return (.default, sigBytes)
    else if signature.length = 65 then
      match signature[64]?.bind TapSighashType.fromConsensusU8 with
      | some sighashType => do
          let sigBytes ← expectSome "Cannot fail" (tryInto 64 (signature.take 64))
          return (sighashType, sigBytes)
      | none => .error (.message
          s!"Invalid sighash type, watchtower index: {watchtowerInput.watchtowerIdx}")
    else
      .error (.message ("Invalid witness length, expected 64 or 65 bytes, " ++
        s!"watchtower index: {watchtowerInput.watchtowerIdx}"))
  | _ => .error (.message ("Invalid witness length, expected 1 element, " ++
      s!"watchtower index: {watchtowerInput.watchtowerIdx}"))

/-- `sighash`. -/
def sighash (wtTx : CircuitTransaction) (prevouts : Prevouts) (inputIndex : Nat)
    (sighashType : TapSighashType) (annexHash : Option Bytes32) : Except Panic Bytes32 := do
  let written ← taprootEncodeSigningDataToWithAnnexDigest library.sha256 library.signingEncode
    wtTx inputIndex prevouts annexHash none sighashType
  return library.tapSighash written

/-- The key in a Taproot output, `as_bytes()[2..34]`. -/
def taprootKey (script : List UInt8) : Except Panic Bytes32 :=
  if script.length < 34 then
    .error .indexOutOfBounds
  else
    expectSome "Cannot fail" (tryInto 32 ((script.take 34).drop 2))

/-- The connector output of a watchtower, with checked arithmetic. -/
def connectorVout (watchtowerIdx startIdx : UInt32) : Option UInt32 :=
  if watchtowerIdx.toNat * 2 + startIdx.toNat < 2 ^ 32 then
    some (UInt32.ofNat (watchtowerIdx.toNat * 2 + startIdx.toNat))
  else
    none

/-- The body of the loop of `verify_watchtower_challenges` up to the verified signature. -/
def verifyWatchtowerInput (circuitInput : BridgeCircuitInput)
    (watchtowerInput : WatchtowerInput) : Except Panic Unit := do
  let kickoffTxid := library.computeTxid circuitInput.kickoffTx
  let watchtowerIdx := watchtowerInput.watchtowerIdx
  let watchtowerInputIdx := watchtowerInput.watchtowerChallengeInputIdx.toNat
  let innerTxouts := watchtowerInput.watchtowerChallengeUtxos
  panicIf (watchtowerInput.watchtowerChallengeTx.input.length ≤ watchtowerInputIdx)
    s!"Invalid watchtower challenge input index, watchtower index: {watchtowerIdx}"
  let input ← vecIndex watchtowerInput.watchtowerChallengeTx.input watchtowerInputIdx
  let signature ← challengeSignature watchtowerInput
  let sighash ← sighash library watchtowerInput.watchtowerChallengeTx (.all innerTxouts)
    watchtowerInputIdx signature.1 watchtowerInput.annexDigest
  panicIf (input.previousOutput.txid ≠ kickoffTxid)
    ("Invalid input: expected input to reference an output from the kickoff transaction " ++
      s!"(txid: {displayTxid kickoffTxid}), but got " ++
      s!"txid: {displayTxid input.previousOutput.txid}, vout: {input.previousOutput.vout}, " ++
      s!"watchtower index: {watchtowerIdx}")
  panicIf (innerTxouts.length ≤ watchtowerInputIdx)
    s!"Invalid watchtower challenge input index, watchtower index: {watchtowerIdx}"
  let output ← vecIndex innerTxouts watchtowerInputIdx
  panicIf (library.script.isP2tr output.scriptPubkey = false)
    s!"Invalid output script type - kickoff, watchtower index: {watchtowerIdx}"
  panicIf (circuitInput.allTweakedWatchtowerPubkeys.length ≤ watchtowerIdx.toNat)
    (s!"Invalid watchtower index, watchtower index: {watchtowerIdx}, " ++
      s!"number of watchtowers: {circuitInput.allTweakedWatchtowerPubkeys.length}")
  let pubkey ← taprootKey output.scriptPubkey
  let registered ← vecIndex circuitInput.allTweakedWatchtowerPubkeys watchtowerIdx.toNat
  panicIf (registered ≠ pubkey) s!"Invalid watchtower public key, watchtower index: {watchtowerIdx}"
  let vout ← expectSome "Overflow occurred while calculating vout"
    (connectorVout watchtowerIdx circuitInput.watchtowerChallengeConnectorStartIdx)
  panicIf (vout ≠ input.previousOutput.vout)
    s!"Invalid output index, watchtower index: {watchtowerIdx}"
  panicIf (library.verifyingKeyFromBytes pubkey = false)
    s!"Invalid verifying key, watchtower index: {watchtowerIdx}"
  panicIf (library.signatureTryFrom signature.2 = false)
    s!"Invalid signature, watchtower index: {watchtowerIdx}"
  panicIf (library.verifyPrehash pubkey sighash signature.2 = false)
    ("Invalid signature for watchtower challenge with watchtower index: " ++
      s!"{watchtowerIdx}, should not happen")

/-- Set the bit of a watchtower; an index outside the array panics. -/
def markSender (challengeSenders : ChallengeSendingWatchtowers) (watchtowerIdx : UInt32) :
    Except Panic ChallengeSendingWatchtowers :=
  if inside : watchtowerIdx.toNat / 8 < 20 then
    .ok (Bitmap.mark challengeSenders watchtowerIdx.toNat inside)
  else
    .error .indexOutOfBounds

/-- One round of the loop of `verify_watchtower_challenges`. -/
def challengeStep (circuitInput : BridgeCircuitInput) (challengeSet : WatchtowerChallengeSet)
    (watchtowerInput : WatchtowerInput) : Except Panic WatchtowerChallengeSet := do
  verifyWatchtowerInput library circuitInput watchtowerInput
  let challengeSenders ← markSender challengeSet.challengeSenders watchtowerInput.watchtowerIdx
  return {
    challengeSenders
    challengeOutputs :=
      challengeSet.challengeOutputs ++ [watchtowerInput.watchtowerChallengeTx.output] }

/-- `verify_watchtower_challenges`. -/
def verifyWatchtowerChallenges (circuitInput : BridgeCircuitInput) :
    Except Panic WatchtowerChallengeSet := do
  panicIf (maxNumberOfWatchtowers < circuitInput.watchtowerInputs.length)
    ("Invalid number of watchtower challenge transactions: " ++
      s!"{circuitInput.watchtowerInputs.length}")
  circuitInput.watchtowerInputs.foldlM (challengeStep library circuitInput)
    ⟨Vector.replicate 20 0, []⟩

/-! ## Commitments -/

/-- Proof and work in a single data output. -/
def singleOutputCommitment (opReturnOutput : TxOut) :
    Except Panic (Option WatchTowerChallengeTxCommitment) :=
  match (parseOpReturnData library.script opReturnOutput.scriptPubkey).bind (tryInto 144) with
  | none => .ok none
  | some wholeOutput => do
      let compressedG16Proof ← expectSome "Cannot fail: slicing 128 bytes from 144-byte array"
        (tryInto 128 (wholeOutput.toList.take 128))
      let totalWork ← expectSome "Cannot fail: slicing 16 bytes from 144-byte array"
        (tryInto 16 (wholeOutput.toList.drop 128))
      return some { compressedG16Proof, totalWork }

/-- Proof and work in two Taproot outputs and a data output. -/
def threeOutputsCommitment (out1 out2 out3 : TxOut) :
    Except Panic (Option WatchTowerChallengeTxCommitment) := do
  let firstOutput ← expectSome "Cannot fail: slicing 32 bytes from P2TR output"
    (tryInto 32 (out1.scriptPubkey.drop 2))
  let secondOutput ← expectSome "Cannot fail: slicing 32 bytes from P2TR output"
    (tryInto 32 (out2.scriptPubkey.drop 2))
  match (parseOpReturnData library.script out3.scriptPubkey).bind (tryInto 80) with
  | none => .ok none
  | some thirdOutput => do
      let compressedG16Proof ← expectSome
        "Cannot fail: concatenating and converting to 128-byte array"
        (tryInto 128 (firstOutput.toList ++ secondOutput.toList ++ thirdOutput.toList.take 64))
      let totalWork ← expectSome "Cannot fail: deserializing 16 bytes from 16-byte slice"
        (tryInto 16 (thirdOutput.toList.drop 64))
      return some { compressedG16Proof, totalWork }

/-- One round of the first loop of `total_work_and_watchtower_flags`; `none` continues
without a commitment. -/
def parseCommitment : List TxOut → Except Panic (Option WatchTowerChallengeTxCommitment)
  | out1 :: rest =>
    if library.script.isOpReturn out1.scriptPubkey then
      singleOutputCommitment library out1
    else
      match rest with
      | out2 :: out3 :: _ =>
        if library.script.isP2tr out1.scriptPubkey ∧ library.script.isP2tr out2.scriptPubkey ∧
            library.script.isOpReturn out3.scriptPubkey then
          threeOutputsCommitment library out1 out2 out3
        else
          .ok none
      | _ => .ok none
  | [] => .ok none

/-- `convert_to_groth16_and_verify`. -/
def convertToGroth16AndVerify (compressedProof : Vector UInt8 128) (totalWork : TotalWork)
    (imageId genesisStateHash : Bytes32) : Bool :=
  if library.groth16FromCompressed compressedProof then
    library.groth16Verify compressedProof totalWork genesisStateHash imageId
  else
    false

/-- The order by descending work, byte by byte. -/
def HeavierFirst (first second : WatchTowerChallengeTxCommitment) : Prop :=
  ¬first.totalWork.toList < second.totalWork.toList

instance : DecidableRel HeavierFirst := fun _ _ => inferInstanceAs (Decidable (¬_))

/-- `total_work_and_watchtower_flags`. -/
def totalWorkAndWatchtowerFlags (circuitInput : BridgeCircuitInput) (workOnlyImageId : Bytes32) :
    Except Panic (TotalWork × ChallengeSendingWatchtowers) := do
  let watchtowerChallengeSet ← verifyWatchtowerChallenges library circuitInput
  let parsed ← watchtowerChallengeSet.challengeOutputs.mapM (parseCommitment library)
  let sorted := parsed.reduceOption.insertionSort HeavierFirst
  let verified := sorted.find? fun commitment =>
    convertToGroth16AndVerify library commitment.compressedG16Proof commitment.totalWork
      workOnlyImageId circuitInput.hcp.genesisStateHash
  return ((verified.map (·.totalWork)).getD (Vector.replicate 16 0),
    watchtowerChallengeSet.challengeSenders)

/-! ## What the outputs of a challenge carry -/

/-- A transaction carries a proof and a work in one of the two layouts. -/
inductive Carries : List TxOut → WatchTowerChallengeTxCommitment → Prop where
  | single {out : TxOut} {rest : List TxOut} {commitment : WatchTowerChallengeTxCommitment}
      (opReturn : library.script.isOpReturn out.scriptPubkey = true)
      (pushed : parseOpReturnData library.script out.scriptPubkey =
        some (commitment.compressedG16Proof.toList ++ commitment.totalWork.toList)) :
      Carries (out :: rest) commitment
  | three {out1 out2 out3 : TxOut} {rest : List TxOut}
      {commitment : WatchTowerChallengeTxCommitment} (third : Vector UInt8 64)
      (p2tr1 : library.script.isP2tr out1.scriptPubkey = true)
      (p2tr2 : library.script.isP2tr out2.scriptPubkey = true)
      (opReturn : library.script.isOpReturn out3.scriptPubkey = true)
      (pushed : parseOpReturnData library.script out3.scriptPubkey =
        some (third.toList ++ commitment.totalWork.toList))
      (proofEq : commitment.compressedG16Proof.toList =
        out1.scriptPubkey.drop 2 ++ out2.scriptPubkey.drop 2 ++ third.toList) :
      Carries (out1 :: out2 :: out3 :: rest) commitment

/-- The parts of an array. -/
theorem tryInto_split (left right : Nat) (array : Vector UInt8 (left + right)) :
    ∃ first second, tryInto left (array.toList.take left) = some first ∧
      tryInto right (array.toList.drop left) = some second ∧
      array.toList = first.toList ++ second.toList := by
  obtain ⟨first, firstEq, firstList⟩ :=
    tryInto_of_length (show (array.toList.take left).length = left by simp)
  obtain ⟨second, secondEq, secondList⟩ :=
    tryInto_of_length (show (array.toList.drop left).length = right by simp)
  exact ⟨first, second, firstEq, secondEq, by
    rw [firstList, secondList, List.take_append_drop]⟩

variable {library} {circuitInput : BridgeCircuitInput}

/-- A data output is read without a panic, and its commitment is what it pushes. -/
theorem singleOutputCommitment_ok (out : TxOut) :
    ∃ parsed, singleOutputCommitment library out = .ok parsed ∧ ∀ commitment,
      parsed = some commitment ↔ parseOpReturnData library.script out.scriptPubkey =
        some (commitment.compressedG16Proof.toList ++ commitment.totalWork.toList) := by
  unfold singleOutputCommitment
  cases read : (parseOpReturnData library.script out.scriptPubkey).bind (tryInto 144) with
  | none =>
    refine ⟨none, rfl, fun commitment => ?_⟩
    simp only [reduceCtorEq, false_iff]
    intro pushed
    rw [pushed, bind_some] at read
    obtain ⟨array, arrayEq, -⟩ := tryInto_of_length
      (show (commitment.compressedG16Proof.toList ++ commitment.totalWork.toList).length = 144 by
        simp)
    rw [arrayEq] at read
    cases read
  | some wholeOutput =>
    obtain ⟨data, dataEq, wholeEq⟩ := bind_eq_some_iff.mp read
    rw [tryInto_eq_some] at wholeEq
    obtain ⟨proof, work, proofEq, workEq, splitEq⟩ :=
      tryInto_split 128 16 wholeOutput
    refine ⟨some ⟨proof, work⟩, ?_, fun commitment => ?_⟩
    · simp only [proofEq, workEq, expectSome, bind, Except.bind]
      rfl
    · rw [dataEq, some.injEq, some.injEq, ← wholeEq, splitEq]
      constructor
      · rintro rfl
        rfl
      · intro equal
        obtain ⟨proofs, works⟩ := List.append_inj equal (by simp)
        rw [toList_inj.mp proofs, toList_inj.mp works]

/-- Three outputs are read without a panic, and their commitment is put together from the
two keys and the pushed data. -/
theorem threeOutputsCommitment_ok (lawful : library.script.Lawful) {out1 out2 : TxOut}
    (out3 : TxOut) (p2tr1 : library.script.isP2tr out1.scriptPubkey = true)
    (p2tr2 : library.script.isP2tr out2.scriptPubkey = true) :
    ∃ parsed, threeOutputsCommitment library out1 out2 out3 = .ok parsed ∧ ∀ commitment,
      parsed = some commitment ↔ ∃ third : Vector UInt8 64,
        parseOpReturnData library.script out3.scriptPubkey =
          some (third.toList ++ commitment.totalWork.toList) ∧
        commitment.compressedG16Proof.toList =
          out1.scriptPubkey.drop 2 ++ out2.scriptPubkey.drop 2 ++ third.toList := by
  obtain ⟨first, firstEq, firstList⟩ := tryInto_of_length
    (show (out1.scriptPubkey.drop 2).length = 32 by simp [lawful.length_of_isP2tr _ p2tr1])
  obtain ⟨second, secondEq, secondList⟩ := tryInto_of_length
    (show (out2.scriptPubkey.drop 2).length = 32 by simp [lawful.length_of_isP2tr _ p2tr2])
  unfold threeOutputsCommitment
  simp only [firstEq, secondEq, expectSome, bind, Except.bind]
  cases read : (parseOpReturnData library.script out3.scriptPubkey).bind (tryInto 80) with
  | none =>
    refine ⟨none, rfl, fun commitment => ?_⟩
    simp only [reduceCtorEq, false_iff]
    rintro ⟨third, pushed, -⟩
    rw [pushed, bind_some] at read
    obtain ⟨array, arrayEq, -⟩ := tryInto_of_length
      (show (third.toList ++ commitment.totalWork.toList).length = 80 by simp)
    rw [arrayEq] at read
    cases read
  | some thirdOutput =>
    obtain ⟨data, dataEq, wholeEq⟩ := bind_eq_some_iff.mp read
    rw [tryInto_eq_some] at wholeEq
    obtain ⟨third, work, thirdEq, workEq, splitEq⟩ :=
      tryInto_split 64 16 thirdOutput
    rw [tryInto_eq_some] at thirdEq
    obtain ⟨proof, proofEq, proofList⟩ := tryInto_of_length
      (show (first.toList ++ second.toList ++ thirdOutput.toList.take 64).length = 128 by simp)
    refine ⟨some ⟨proof, work⟩, ?_, fun commitment => ?_⟩
    · simp only [proofEq, workEq]
      rfl
    · rw [← thirdEq, firstList, secondList] at proofList
      rw [dataEq, some.injEq, ← wholeEq, splitEq]
      constructor
      · rintro rfl
        exact ⟨third, rfl, proofList⟩
      · rintro ⟨third', equal, proofs⟩
        obtain ⟨thirds, works⟩ := List.append_inj (some.inj equal) (by simp)
        rw [← thirds, ← proofList] at proofs
        rw [toList_inj.mp works, ← toList_inj.mp proofs]

/-- Parsing does not panic and finds exactly what the outputs carry. -/
theorem parseCommitment_ok (lawful : library.script.Lawful) (outputs : List TxOut) :
    ∃ parsed, parseCommitment library outputs = .ok parsed ∧
      ∀ commitment, parsed = some commitment ↔ Carries library outputs commitment := by
  match outputs with
  | [] => exact ⟨none, rfl, fun commitment => ⟨nofun, nofun⟩⟩
  | out1 :: rest =>
    unfold parseCommitment
    by_cases data : library.script.isOpReturn out1.scriptPubkey = true
    · simp only [if_pos data]
      obtain ⟨parsed, parsedEq, spec⟩ := singleOutputCommitment_ok out1
      refine ⟨parsed, parsedEq, fun commitment => (spec commitment).trans ⟨.single data, ?_⟩⟩
      intro carries
      cases carries with
      | single _ pushed => exact pushed
      | three _ p2tr1 _ _ _ _ =>
        rw [lawful.not_isOpReturn_of_isP2tr _ p2tr1] at data
        cases data
    · simp only [if_neg data]
      match rest with
      | out2 :: out3 :: rest =>
        dsimp only
        split_ifs with layout
        · obtain ⟨p2tr1, p2tr2, opReturn⟩ := layout
          obtain ⟨parsed, parsedEq, spec⟩ :=
            threeOutputsCommitment_ok lawful out3 p2tr1 p2tr2
          refine ⟨parsed, parsedEq, fun commitment => (spec commitment).trans ⟨?_, ?_⟩⟩
          · rintro ⟨third, pushed, proofEq⟩
            exact .three third p2tr1 p2tr2 opReturn pushed proofEq
          · intro carries
            cases carries with
            | single opReturn _ => exact absurd opReturn data
            | three third _ _ _ pushed proofEq => exact ⟨third, pushed, proofEq⟩
        · refine ⟨none, rfl, fun commitment => ⟨nofun, fun carries => ?_⟩⟩
          cases carries with
          | single opReturn _ => exact absurd opReturn data
          | three _ p2tr1 p2tr2 opReturn _ _ => exact absurd ⟨p2tr1, p2tr2, opReturn⟩ layout
      | [] | [_] =>
        refine ⟨none, rfl, fun commitment => ⟨nofun, fun carries => ?_⟩⟩
        cases carries with
        | single opReturn _ => exact absurd opReturn data

/-! ## The checks of a challenge -/

section Checks

variable (library) (circuitInput : BridgeCircuitInput) (watchtowerInput : WatchtowerInput)

/-- The checks on the indices, the transaction id, the output and the key of a challenge. -/
structure StructuralChecks : Prop where
  spends : ∃ input,
    watchtowerInput.watchtowerChallengeTx.input[
      watchtowerInput.watchtowerChallengeInputIdx.toNat]? = some input ∧
    input.previousOutput.txid = library.computeTxid circuitInput.kickoffTx ∧
    connectorVout watchtowerInput.watchtowerIdx
      circuitInput.watchtowerChallengeConnectorStartIdx = some input.previousOutput.vout
  registered : ∃ output pubkey,
    watchtowerInput.watchtowerChallengeUtxos[
      watchtowerInput.watchtowerChallengeInputIdx.toNat]? = some output ∧
    library.script.isP2tr output.scriptPubkey = true ∧
    taprootKey output.scriptPubkey = .ok pubkey ∧
    circuitInput.allTweakedWatchtowerPubkeys[watchtowerInput.watchtowerIdx.toNat]? = some pubkey

/-- The signature of a challenge is valid for the key of the output it spends. -/
def ValidSignature : Prop :=
  ∃ output pubkey signature message,
    watchtowerInput.watchtowerChallengeUtxos[
      watchtowerInput.watchtowerChallengeInputIdx.toNat]? = some output ∧
    taprootKey output.scriptPubkey = .ok pubkey ∧
    challengeSignature watchtowerInput = .ok signature ∧
    sighash library watchtowerInput.watchtowerChallengeTx
      (.all watchtowerInput.watchtowerChallengeUtxos)
      watchtowerInput.watchtowerChallengeInputIdx.toNat signature.1 watchtowerInput.annexDigest =
      .ok message ∧
    library.verifyingKeyFromBytes pubkey = true ∧
    library.signatureTryFrom signature.2 = true ∧
    library.verifyPrehash pubkey message signature.2 = true

variable {library circuitInput watchtowerInput}

/-- The circuit accepts a challenge that passes these checks and has a valid signature, and no
other. -/
theorem verifyWatchtowerInput_ok_iff :
    verifyWatchtowerInput library circuitInput watchtowerInput = .ok () ↔
      StructuralChecks library circuitInput watchtowerInput ∧
        ValidSignature library watchtowerInput := by
  have checked {condition : Prop} [Decidable condition] {text : String} {done : Unit} :
      panicIf condition text = .ok done ↔ ¬condition := panicIf_eq_ok
  simp only [verifyWatchtowerInput, bind_ok_iff, expectSome_eq_ok, vecIndex_eq_ok, checked,
    not_not, Bool.not_eq_false]
  constructor
  · rintro ⟨⟨⟩, -, input, inputEq, signature, signatureEq, message, messageEq, ⟨⟩, sameTxid, ⟨⟩, -,
      output, outputEq, ⟨⟩, p2tr, ⟨⟩, -, pubkey, pubkeyEq, registered, registeredEq, ⟨⟩, sameKey,
      vout, voutEq, ⟨⟩, sameVout, ⟨⟩, keyValid, ⟨⟩, signatureValid, verified⟩
    rw [sameKey] at registeredEq
    rw [sameVout] at voutEq
    exact ⟨⟨⟨input, inputEq, sameTxid, voutEq⟩, ⟨output, pubkey, outputEq, p2tr, pubkeyEq,
      registeredEq⟩⟩, ⟨output, pubkey, signature, message, outputEq, pubkeyEq, signatureEq,
      messageEq, keyValid, signatureValid, verified⟩⟩
  · rintro ⟨⟨⟨input, inputEq, sameTxid, voutEq⟩, ⟨output, pubkey, outputEq, p2tr, pubkeyEq,
      registeredEq⟩⟩, ⟨output', pubkey', signature, message, outputEq', pubkeyEq', signatureEq,
      messageEq, keyValid, signatureValid, verified⟩⟩
    obtain rfl : output = output' := some.inj (outputEq.symm.trans outputEq')
    obtain rfl : pubkey = pubkey' := ok.inj (pubkeyEq.symm.trans pubkeyEq')
    obtain ⟨inputInside, -⟩ := List.getElem?_eq_some_iff.mp inputEq
    obtain ⟨outputInside, -⟩ := List.getElem?_eq_some_iff.mp outputEq
    obtain ⟨keyInside, -⟩ := List.getElem?_eq_some_iff.mp registeredEq
    exact ⟨(), by omega, input, inputEq, signature, signatureEq, message, messageEq, (), sameTxid,
      (), by omega, output, outputEq, (), p2tr, (), by omega, pubkey, pubkeyEq, pubkey,
      registeredEq, (), rfl, _, voutEq, (), rfl, (), keyValid, (), signatureValid, verified⟩

end Checks

/-! ## The loop over challenges -/

section Loop

/-- A challenge that the loop accepts. -/
def Accepted (library : CircuitLibrary) (circuitInput : BridgeCircuitInput)
    (watchtowerInput : WatchtowerInput) : Prop :=
  verifyWatchtowerInput library circuitInput watchtowerInput = .ok () ∧
    watchtowerInput.watchtowerIdx.toNat / 8 < 20

/-- One round checks the challenge, marks its sender and collects its outputs. -/
theorem challengeStep_ok_iff {before after : WatchtowerChallengeSet}
    {watchtowerInput : WatchtowerInput} :
    challengeStep library circuitInput before watchtowerInput = .ok after ↔
      ∃ accepted : Accepted library circuitInput watchtowerInput,
        after = ⟨Bitmap.mark before.challengeSenders watchtowerInput.watchtowerIdx.toNat accepted.2,
          before.challengeOutputs ++ [watchtowerInput.watchtowerChallengeTx.output]⟩ := by
  simp only [challengeStep, bind_ok_iff, markSender, pure, Except.pure, ok.injEq]
  constructor
  · rintro ⟨⟨⟩, verified, senders, marked, rfl⟩
    split_ifs at marked with inside
    cases marked
    exact ⟨⟨verified, inside⟩, rfl⟩
  · rintro ⟨⟨verified, inside⟩, rfl⟩
    exact ⟨(), verified, _, dif_pos inside, rfl⟩

variable {inputs : List WatchtowerInput}

/-- A run marks exactly the senders it has seen and collects their outputs in order. -/
theorem challenge_run {start finish : WatchtowerChallengeSet}
    (run : inputs.foldlM (challengeStep library circuitInput) start = .ok finish) :
    (∀ input ∈ inputs, Accepted library circuitInput input) ∧
    finish.challengeOutputs =
      start.challengeOutputs ++ inputs.map (·.watchtowerChallengeTx.output) ∧
    ∀ index, Bitmap.marked finish.challengeSenders index = true ↔
      Bitmap.marked start.challengeSenders index = true ∨
        ∃ input ∈ inputs, input.watchtowerIdx.toNat = index := by
  induction inputs generalizing start with
  | nil =>
    cases run
    simp
  | cons input inputs ih =>
    obtain ⟨next, stepped, rest⟩ := run_cons_iff.mp run
    obtain ⟨accepted, rfl⟩ := challengeStep_ok_iff.mp stepped
    obtain ⟨restAccepted, outputs, marks⟩ := ih rest
    refine ⟨by simpa [accepted] using restAccepted, by simp [outputs], fun index => ?_⟩
    rw [marks, Bitmap.marked_mark]
    simp only [Bool.or_eq_true, decide_eq_true_eq, List.exists_mem_cons_iff]
    tauto

/-- Accepted challenges do not stop a run. -/
theorem exists_challenge_run (accepted : ∀ input ∈ inputs, Accepted library circuitInput input)
    (start : WatchtowerChallengeSet) :
    ∃ finish, inputs.foldlM (challengeStep library circuitInput) start = .ok finish := by
  induction inputs generalizing start with
  | nil => exact ⟨start, rfl⟩
  | cons input inputs ih =>
    obtain ⟨finish, rest⟩ :=
      ih (fun input member => accepted input (List.mem_cons_of_mem _ member)) _
    exact ⟨finish, run_cons_iff.mpr
      ⟨_, challengeStep_ok_iff.mpr ⟨accepted input (by simp), rfl⟩, rest⟩⟩

end Loop

/-! ## The heaviest verified work -/

theorem heavierFirst_iff {first second : WatchTowerChallengeTxCommitment} :
    HeavierFirst first second ↔ beNat second.totalWork.toList ≤ beNat first.totalWork.toList := by
  rw [HeavierFirst, lt_iff_beNat_lt (by simp), Nat.not_lt]

instance : Std.Total HeavierFirst where
  total first second := by
    rw [heavierFirst_iff, heavierFirst_iff]
    exact Nat.le_total _ _

instance : IsTrans WatchTowerChallengeTxCommitment HeavierFirst where
  trans first second third := by
    rw [heavierFirst_iff, heavierFirst_iff, heavierFirst_iff]
    exact fun heavier heaviest => Nat.le_trans heaviest heavier

/-- The first hit in the order of descending work is a heaviest one. -/
theorem find?_sorted_some {commitments : List WatchTowerChallengeTxCommitment}
    {verifies : WatchTowerChallengeTxCommitment → Bool} {found : WatchTowerChallengeTxCommitment}
    (first : (commitments.insertionSort HeavierFirst).find? verifies = some found) :
    found ∈ commitments ∧ verifies found = true ∧ ∀ commitment ∈ commitments,
      verifies commitment = true → beNat commitment.totalWork.toList ≤
        beNat found.totalWork.toList := by
  obtain ⟨holds, before, after, split, refused⟩ := List.find?_eq_some_iff_append.mp first
  have sorted := List.pairwise_insertionSort HeavierFirst commitments
  rw [split, List.pairwise_append, List.pairwise_cons] at sorted
  have member {commitment : WatchTowerChallengeTxCommitment} :
      commitment ∈ commitments ↔ commitment ∈ before ++ found :: after := by
    rw [← split, List.mem_insertionSort]
  refine ⟨member.mpr (by simp), holds, fun commitment commitmentMem verified => ?_⟩
  rcases List.mem_append.mp (member.mp commitmentMem) with earlier | later
  · have rejected := refused commitment earlier
    rw [verified] at rejected
    cases rejected
  · rcases List.mem_cons.mp later with rfl | later
    · exact Nat.le_refl _
    · exact heavierFirst_iff.mp (sorted.2.1.1 commitment later)

variable (library) in
/-- A challenge counts with a commitment that its outputs carry and whose proof verifies
for the work, the image and the genesis state of the header chain. -/
def Counts (circuitInput : BridgeCircuitInput) (workOnlyImageId : Bytes32)
    (watchtowerInput : WatchtowerInput) (commitment : WatchTowerChallengeTxCommitment) : Prop :=
  Carries library watchtowerInput.watchtowerChallengeTx.output commitment ∧
    convertToGroth16AndVerify library commitment.compressedG16Proof commitment.totalWork
      workOnlyImageId circuitInput.hcp.genesisStateHash = true

variable (library) in
/-- The work and the flags that a set of challenges determines. -/
structure HeaviestChallenge (circuitInput : BridgeCircuitInput) (workOnlyImageId : Bytes32)
    (totalWork : TotalWork) (flags : ChallengeSendingWatchtowers) : Prop where
  heaviest : ∀ input ∈ circuitInput.watchtowerInputs, ∀ commitment,
    Counts library circuitInput workOnlyImageId input commitment →
      beNat commitment.totalWork.toList ≤ beNat totalWork.toList
  attained : (∃ input ∈ circuitInput.watchtowerInputs, ∃ commitment,
      Counts library circuitInput workOnlyImageId input commitment ∧
        commitment.totalWork = totalWork) ∨
    (beNat totalWork.toList = 0 ∧ ∀ input ∈ circuitInput.watchtowerInputs,
      ∀ commitment, ¬Counts library circuitInput workOnlyImageId input commitment)
  flagged : ∀ index, Bitmap.marked flags index = true ↔
    ∃ input ∈ circuitInput.watchtowerInputs, input.watchtowerIdx.toNat = index

/-- The challenges of an accepted input are few and all accepted. -/
theorem verifyWatchtowerChallenges_ok {challengeSet : WatchtowerChallengeSet}
    (verified : verifyWatchtowerChallenges library circuitInput = .ok challengeSet) :
    circuitInput.watchtowerInputs.length ≤ maxNumberOfWatchtowers ∧
    (∀ input ∈ circuitInput.watchtowerInputs, Accepted library circuitInput input) ∧
    challengeSet.challengeOutputs =
      circuitInput.watchtowerInputs.map (·.watchtowerChallengeTx.output) ∧
    ∀ index, Bitmap.marked challengeSet.challengeSenders index = true ↔
      ∃ input ∈ circuitInput.watchtowerInputs, input.watchtowerIdx.toNat = index := by
  simp only [verifyWatchtowerChallenges, bind_ok_iff] at verified
  obtain ⟨⟨⟩, few, run⟩ := verified
  rw [panicIf_eq_ok, Nat.not_lt] at few
  obtain ⟨accepted, outputs, marks⟩ := challenge_run run
  exact ⟨few, accepted, by simpa using outputs, by simpa using marks⟩

theorem exists_verifyWatchtowerChallenges_ok
    (few : circuitInput.watchtowerInputs.length ≤ maxNumberOfWatchtowers)
    (accepted : ∀ input ∈ circuitInput.watchtowerInputs, Accepted library circuitInput input) :
    ∃ challengeSet, verifyWatchtowerChallenges library circuitInput = .ok challengeSet := by
  obtain ⟨challengeSet, run⟩ := exists_challenge_run accepted ⟨replicate 20 0, []⟩
  exact ⟨challengeSet, bind_ok_iff.mpr ⟨(), panicIf_eq_ok.mpr (Nat.not_lt.mpr few), run⟩⟩

variable {workOnlyImageId : Bytes32}

/-- The flags that are returned are those of the challenges. -/
theorem verified_of_totalWorkAndWatchtowerFlags {returned : TotalWork × ChallengeSendingWatchtowers}
    (computed : totalWorkAndWatchtowerFlags library circuitInput workOnlyImageId = .ok returned) :
    ∃ challengeSet, verifyWatchtowerChallenges library circuitInput = .ok challengeSet ∧
      returned.2 = challengeSet.challengeSenders := by
  simp only [totalWorkAndWatchtowerFlags, bind_ok_iff, pure, Except.pure, ok.injEq] at computed
  obtain ⟨challengeSet, verified, parsed, -, rfl⟩ := computed
  exact ⟨challengeSet, verified, rfl⟩

/-- On accepted challenges the function returns the heaviest verified work and the flags. -/
theorem totalWorkAndWatchtowerFlags_ok (lawful : library.script.Lawful) (workOnlyImageId : Bytes32)
    {challengeSet : WatchtowerChallengeSet}
    (verified : verifyWatchtowerChallenges library circuitInput = .ok challengeSet) :
    ∃ totalWork, totalWorkAndWatchtowerFlags library circuitInput workOnlyImageId =
        .ok (totalWork, challengeSet.challengeSenders) ∧
      HeaviestChallenge library circuitInput workOnlyImageId totalWork
        challengeSet.challengeSenders := by
  obtain ⟨-, -, outputs, marks⟩ := verifyWatchtowerChallenges_ok verified
  obtain ⟨parsed, parsedEq⟩ : ∃ parsed,
      challengeSet.challengeOutputs.mapM (parseCommitment library) = .ok parsed :=
    exists_mapM_ok fun outputs _ =>
      (parseCommitment_ok lawful outputs).imp fun _ spec => spec.1
  -- the collected commitments are those that the challenges carry
  have collected {commitment : WatchTowerChallengeTxCommitment} :
      commitment ∈ parsed.reduceOption ↔ ∃ input ∈ circuitInput.watchtowerInputs,
        Carries library input.watchtowerChallengeTx.output commitment := by
    rw [List.reduceOption_mem_iff, mem_mapM_ok parsedEq, outputs]
    simp only [List.mem_map, exists_exists_and_eq_and]
    refine exists_congr fun input => and_congr_right fun _ => ?_
    obtain ⟨read, readEq, spec⟩ :=
      parseCommitment_ok lawful input.watchtowerChallengeTx.output
    rw [readEq, ok.injEq, spec]
  refine ⟨_,
    by simp only [totalWorkAndWatchtowerFlags, verified, parsedEq, bind, Except.bind]; rfl, ?_⟩
  cases found : (parsed.reduceOption.insertionSort HeavierFirst).find? (fun commitment =>
      convertToGroth16AndVerify library commitment.compressedG16Proof commitment.totalWork
        workOnlyImageId circuitInput.hcp.genesisStateHash) with
  | some commitment =>
    obtain ⟨member, holds, heaviest⟩ := find?_sorted_some found
    obtain ⟨input, inputMem, carries⟩ := collected.mp member
    exact {
      heaviest := fun input inputMem commitment counts =>
        heaviest commitment (collected.mpr ⟨input, inputMem, counts.1⟩) counts.2
      attained := .inl ⟨input, inputMem, commitment, ⟨carries, holds⟩, rfl⟩
      flagged := marks }
  | none =>
    rw [List.find?_eq_none] at found
    have refused : ∀ input ∈ circuitInput.watchtowerInputs, ∀ commitment,
        ¬Counts library circuitInput workOnlyImageId input commitment :=
      fun input inputMem commitment counts => found commitment
        ((List.mem_insertionSort _).mpr (collected.mpr ⟨input, inputMem, counts.1⟩)) counts.2
    exact {
      heaviest := fun input inputMem commitment counts =>
        absurd counts (refused input inputMem commitment)
      attained := .inr ⟨by decide, refused⟩
      flagged := marks }

variable {others : List WatchtowerInput}

/-- The heaviest work and the flags depend on the challenges as a set only. -/
theorem HeaviestChallenge.unique {totalWork totalWork' : TotalWork}
    {flags flags' : ChallengeSendingWatchtowers}
    (same : ∀ input, input ∈ others ↔ input ∈ circuitInput.watchtowerInputs)
    (first : HeaviestChallenge library circuitInput workOnlyImageId totalWork flags)
    (second : HeaviestChallenge library { circuitInput with watchtowerInputs := others }
      workOnlyImageId totalWork' flags') :
    totalWork' = totalWork ∧ flags' = flags := by
  obtain ⟨heaviest, attained, flagged⟩ := first
  obtain ⟨heaviest', attained', flagged'⟩ := second
  simp only [same] at heaviest' attained' flagged'
  constructor
  · apply toList_inj.mp
    apply beNat_injective (by simp)
    rcases attained with ⟨input, inputMem, commitment, counts, rfl⟩ | ⟨zero, refused⟩ <;>
      rcases attained' with ⟨input', inputMem', commitment', counts', rfl⟩ | ⟨zero', refused'⟩
    · exact Nat.le_antisymm (heaviest input' inputMem' commitment' counts')
        (heaviest' input inputMem commitment counts)
    · exact absurd counts (refused' input inputMem commitment)
    · exact absurd counts' (refused input' inputMem' commitment')
    · rw [zero, zero']
  · apply Bitmap.ext
    intro index
    rw [Bool.eq_iff_iff, flagged, flagged']

/-- Order and repetitions of accepted challenges do not matter. -/
theorem totalWorkAndWatchtowerFlags_congr (lawful : library.script.Lawful)
    (workOnlyImageId : Bytes32) {challengeSet : WatchtowerChallengeSet}
    (verified : verifyWatchtowerChallenges library circuitInput = .ok challengeSet)
    (few : others.length ≤ maxNumberOfWatchtowers)
    (same : ∀ input, input ∈ others ↔ input ∈ circuitInput.watchtowerInputs) :
    totalWorkAndWatchtowerFlags library { circuitInput with watchtowerInputs := others }
      workOnlyImageId = totalWorkAndWatchtowerFlags library circuitInput workOnlyImageId := by
  obtain ⟨totalWork, computed, heaviest⟩ :=
    totalWorkAndWatchtowerFlags_ok lawful workOnlyImageId verified
  obtain ⟨-, accepted, -⟩ := verifyWatchtowerChallenges_ok verified
  obtain ⟨otherSet, otherVerified⟩ : ∃ otherSet, verifyWatchtowerChallenges library
      { circuitInput with watchtowerInputs := others } = .ok otherSet :=
    exists_verifyWatchtowerChallenges_ok few
      fun input member => accepted input ((same input).mp member)
  obtain ⟨totalWork', computed', heaviest'⟩ :=
    totalWorkAndWatchtowerFlags_ok lawful workOnlyImageId otherVerified
  obtain ⟨workEq, flagsEq⟩ := heaviest.unique same heaviest'
  rw [computed, computed', workEq, flagsEq]

/-- On every input whose challenges are accepted, `total_work_and_watchtower_flags` returns
the largest work with a valid proof and marks exactly the senders; it does so for every
list of the same challenges that is not too long, whatever their order and repetitions. -/
theorem totalWorkAndWatchtowerFlags_heaviest (library : CircuitLibrary)
    (lawful : library.script.Lawful) (circuitInput : BridgeCircuitInput)
    (workOnlyImageId : Bytes32) (challengeSet : WatchtowerChallengeSet)
    (verified : verifyWatchtowerChallenges library circuitInput = .ok challengeSet) :
    ∃ totalWork flags,
      totalWorkAndWatchtowerFlags library circuitInput workOnlyImageId = .ok (totalWork, flags) ∧
      HeaviestChallenge library circuitInput workOnlyImageId totalWork flags ∧
      ∀ others : List WatchtowerInput, others.length ≤ maxNumberOfWatchtowers →
        (∀ input, input ∈ others ↔ input ∈ circuitInput.watchtowerInputs) →
        totalWorkAndWatchtowerFlags library { circuitInput with watchtowerInputs := others }
          workOnlyImageId = .ok (totalWork, flags) := by
  obtain ⟨totalWork, computed, heaviest⟩ :=
    totalWorkAndWatchtowerFlags_ok lawful workOnlyImageId verified
  refine ⟨totalWork, _, computed, heaviest, fun others few same => ?_⟩
  rw [totalWorkAndWatchtowerFlags_congr lawful workOnlyImageId verified few same, computed]

namespace Recorded

/-- The recorded challenge spends its connector with a valid signature. -/
theorem challenge_accepted : Accepted Recorded.library input watchtowerInput :=
  ⟨by decide +kernel, by decide⟩

/-- The set that the recorded challenge gives. -/
def challengeSet : WatchtowerChallengeSet where
  challengeSenders := Vector.ofFn fun byte => if byte.val = 0 then 1 else 0
  challengeOutputs := [challengeOutputs]

theorem challenges_verified :
    verifyWatchtowerChallenges Recorded.library input = .ok challengeSet := by
  have stepped : challengeStep Recorded.library input ⟨replicate 20 0, []⟩
      watchtowerInput = .ok challengeSet :=
    challengeStep_ok_iff.mpr ⟨challenge_accepted, by decide +kernel⟩
  rw [verifyWatchtowerChallenges, bind_ok_iff]
  refine ⟨(), panicIf_eq_ok.mpr (by decide), ?_⟩
  rw [show input.watchtowerInputs = [watchtowerInput] from rfl, run_cons_iff]
  exact ⟨challengeSet, stepped, rfl⟩

end Recorded

/-- The recorded challenge determines the work and the flags. -/
theorem totalWorkAndWatchtowerFlags_heaviest_recorded :
    verifyWatchtowerChallenges Recorded.library Recorded.input = .ok Recorded.challengeSet ∧
    ∃ totalWork flags,
      totalWorkAndWatchtowerFlags Recorded.library Recorded.input Recorded.workOnlyImageId =
        .ok (totalWork, flags) ∧
      HeaviestChallenge Recorded.library Recorded.input Recorded.workOnlyImageId totalWork
        flags := by
  obtain ⟨totalWork, flags, computed, heaviest, -⟩ := totalWorkAndWatchtowerFlags_heaviest
    Recorded.library ScriptLibrary.bitcoin_lawful Recorded.input Recorded.workOnlyImageId _
    Recorded.challenges_verified
  exact ⟨Recorded.challenges_verified, totalWork, flags, computed, heaviest⟩

end Clementine
