import Clementine.BridgeCircuit.Sighash
import Clementine.TxSender.Cpfp

/-!
# Signing a replacement

A replacement transaction is signed again with the path and the sighash type that its sender
asked for.  The sighash is computed for that type, but the signature is pushed to the witness as
its 64 bytes alone, and a verifier takes 64 bytes to be a signature of the default type.

Keys, hashes and signatures are those of the Bitcoin library, which is a parameter; PSBTs are
given and returned parsed.
-/

namespace Clementine

namespace TxSender

/-! ## Signing information -/

/-- `RbfSigningSpendPath`. -/
inductive RbfSigningSpendPath where
  | keyPath (tweakMerkleRoot : Option Bytes32)
  | scriptPath (controlBlock script : List UInt8)

/-- `RbfSigningInfo`. -/
structure RbfSigningInfo where
  vout : UInt32
  spendPath : RbfSigningSpendPath
  tapSighashType : TapSighashType

/-- `RbfSigningInfoRpc`. -/
structure RbfSigningInfoRpc where
  merkleRoot : List UInt8
  vout : UInt32
  controlBlock : List UInt8
  script : List UInt8
  tapSighashType : UInt32

/-- The path of a message. -/
def RbfSigningInfoRpc.spendPath (self : RbfSigningInfoRpc) : Except String RbfSigningSpendPath :=
  if self.merkleRoot ≠ [] then
    if sized : self.merkleRoot.length = 32 then
      .ok (.keyPath (some ⟨self.merkleRoot.toArray, by simpa using sized⟩))
    else
      .error "Failed to convert merkle root bytes from rpc to TapNodeHash"
  else if self.controlBlock ≠ [] ∨ self.script ≠ [] then
    .ok (.scriptPath self.controlBlock self.script)
  else
    .ok (.keyPath none)

/-- `TryFrom<RbfSigningInfoRpc> for RbfSigningInfo`; the sighash type is cut to a byte. -/
def RbfSigningInfoRpc.tryInto (self : RbfSigningInfoRpc) : Except String RbfSigningInfo := do
  let spendPath ← self.spendPath
  match TapSighashType.fromConsensusU8 self.tapSighashType.toUInt8 with
  | some tapSighashType => .ok { vout := self.vout, spendPath, tapSighashType }
  | none => .error ("invalid tap_sighash_type: invalid sighash type " ++
      toString self.tapSighashType.toUInt8.toNat)

theorem fromConsensusU8_default_iff {byte : UInt8} {sighashType : TapSighashType}
    (found : TapSighashType.fromConsensusU8 byte = some sighashType) :
    sighashType = .default ↔ byte = 0 := by
  unfold TapSighashType.fromConsensusU8 at found
  split at found <;> cases found <;> decide

theorem tryInto_default_iff {rpc : RbfSigningInfoRpc} {info : RbfSigningInfo}
    (accepted : rpc.tryInto = .ok info) :
    info.tapSighashType = .default ↔ rpc.tapSighashType.toUInt8 = 0 := by
  obtain ⟨path, -, converted⟩ := ExceptRun.bind_ok_iff.mp accepted
  split at converted
  next found =>
    cases converted
    exact fromConsensusU8_default_iff found
  next => cases converted

/-! ## Signing -/

/-- `psbt::Input`. -/
structure PsbtInput where
  witnessUtxo : Option TxOut
  nonWitnessUtxo : Option CircuitTransaction
  tapKeySig : Option (Vector UInt8 64 × TapSighashType)
  finalScriptWitness : Option (List (List UInt8))

/-- `Psbt`. -/
structure Psbt where
  unsignedTx : CircuitTransaction
  inputs : List PsbtInput

/-- The functions of the Bitcoin library for keys, sighashes and signatures. -/
structure SigningLibrary where
  Keypair : Type
  xOnlyPublicKey : Keypair → Bytes32
  tapTweakHash : Bytes32 → Option Bytes32 → Bytes32
  addXonlyTweak : Keypair → Bytes32 → Except String Keypair
  outputKey : Bytes32 → Option Bytes32 → Bytes32
  signSchnorr : Bytes32 → Keypair → Vector UInt8 64
  verifySchnorr : Vector UInt8 64 → Bytes32 → Bytes32 → Bool
  signatureHash : CircuitTransaction → Nat → List TxOut → Option Bytes32 → TapSighashType →
    Except String Bytes32

/-- An error of the library with a text before it. -/
def otherError {α : Type} (text : String) : Except String α → SendResult α
  | .ok value => .ok value
  | .error error => .error (.error (.other (text ++ error)))

theorem otherError_eq_ok {α : Type} {text : String} {result : Except String α} {value : α} :
    otherError text result = .ok value ↔ result = .ok value := by
  cases result <;> simp [otherError]

/-- The output that an input of a PSBT spends. -/
def prevout (psbtInput : PsbtInput) (txInput : TxIn) : SendResult TxOut :=
  match psbtInput.witnessUtxo, psbtInput.nonWitnessUtxo with
  | some witnessUtxo, _ => .ok witnessUtxo
  | none, some nonWitnessTx =>
    let vout := txInput.previousOutput.vout.toNat
    okOr (.other ("Output index " ++ toString vout ++ " out of bounds in previous transaction"))
      nonWitnessTx.output[vout]?
  | none, none => .error (.error (.other
      "Neither witness_utxo nor non_witness_utxo found for input"))

/-- The leaf hash that the sighash of a path covers. -/
def leafHashFor (cachedLeafHash : Option Bytes32) :
    RbfSigningSpendPath → SendResult (Option Bytes32)
  | .keyPath _ => .ok none
  | .scriptPath _ _ => do
    let leafHash ← okOr
      (.other "Cached leaf hash expected but not found for RBF script spend") cachedLeafHash
    return some leafHash

/-- The witness of a path: the signature is pushed without a sighash type. -/
def finalWitness (signature : Vector UInt8 64) : RbfSigningSpendPath → List (List UInt8)
  | .keyPath _ => [signature.toList]
  | .scriptPath controlBlock script => [signature.toList, script, controlBlock]

section Signing

variable (library : SigningLibrary) (keypair : library.Keypair) (decodedPsbt : Psbt)
  (info : RbfSigningInfo) (cachedLeafHash : Option Bytes32)

/-- `TxSenderSigningKey::sign_with_tweak_data` for a path. -/
def signWithTweakData (sighash : Bytes32) : RbfSigningSpendPath → Except String (Vector UInt8 64)
  | .keyPath merkleRoot => do
    let tweaked ← library.addXonlyTweak keypair
      (library.tapTweakHash (library.xOnlyPublicKey keypair) merkleRoot)
    return library.signSchnorr sighash tweaked
  | .scriptPath _ _ => .ok (library.signSchnorr sighash keypair)

/-- The sighash of the input for a sighash type. -/
def sighashFor (sighashType : TapSighashType) : SendResult Bytes32 := do
  let prevouts ← (decodedPsbt.inputs.zip decodedPsbt.unsignedTx.input).mapM
    fun inputs => prevout inputs.1 inputs.2
  let leafHash ← leafHashFor cachedLeafHash info.spendPath
  otherError "Failed to calculate sighash: " (library.signatureHash decodedPsbt.unsignedTx
    info.vout.toNat prevouts leafHash sighashType)

/-- `TxSender::attempt_sign_psbt`. -/
def attemptSignPsbt : SendResult Psbt := do
  errorIf (decodedPsbt.inputs.isEmpty = true) (.other "PSBT has no inputs to sign")
  let sighash ← sighashFor library decodedPsbt info cachedLeafHash info.tapSighashType
  let signature ← otherError "Failed to sign input: "
    (signWithTweakData library keypair sighash info.spendPath)
  let input ← liftPanic (vecIndex decodedPsbt.inputs info.vout.toNat)
  let tapKeySig := match info.spendPath with
    | .keyPath _ => some (signature, info.tapSighashType)
    | .scriptPath _ _ => input.tapKeySig
  let finalScriptWitness := some (finalWitness signature info.spendPath)
  let signedInput := { input with tapKeySig, finalScriptWitness }
  return { decodedPsbt with inputs := decodedPsbt.inputs.set info.vout.toNat signedInput }

/-! ## Verification -/

/-- The key that a signature of a path is checked with. -/
def verificationKey : RbfSigningSpendPath → Bytes32
  | .keyPath merkleRoot => library.outputKey (library.xOnlyPublicKey keypair) merkleRoot
  | .scriptPath _ _ => library.xOnlyPublicKey keypair

/-- The signature check of a verifier: 64 bytes are a signature of the default type, and a 65th
byte is any other type. -/
def verifySignature (signature : List UInt8) (key : Bytes32)
    (sighash : TapSighashType → SendResult Bytes32) : Bool :=
  if sized : 64 ≤ signature.length then
    let sighashType := match signature.drop 64 with
      | [] => some TapSighashType.default
      | [byte] => if byte = 0 then none else TapSighashType.fromConsensusU8 byte
      | _ => none
    match sighashType.map sighash with
    | some (.ok message) =>
      library.verifySchnorr ⟨(signature.take 64).toArray, by simpa using sized⟩ message key
    | _ => false
  else
    false

/-- The witness of the input in a signed PSBT passes the check. -/
def Passes (signed : Psbt) : Prop :=
  ∃ input signature rest, signed.inputs[info.vout.toNat]? = some input ∧
    input.finalScriptWitness = some (signature :: rest) ∧
    verifySignature library signature (verificationKey library keypair info.spendPath)
      (sighashFor library decodedPsbt info cachedLeafHash) = true

/-- Documented behaviour: signatures verify only for their message, a tweaked keypair belongs to
the output key, and sighashes of different types differ. -/
structure SigningLibrary.Sound : Prop where
  verifies : ∀ sighash message keypair, library.verifySchnorr (library.signSchnorr sighash keypair)
    message (library.xOnlyPublicKey keypair) = true ↔ sighash = message
  tweaked : ∀ keypair tweaked merkleRoot, library.addXonlyTweak keypair
      (library.tapTweakHash (library.xOnlyPublicKey keypair) merkleRoot) = .ok tweaked →
    library.xOnlyPublicKey tweaked = library.outputKey (library.xOnlyPublicKey keypair) merkleRoot
  separated : ∀ tx index prevouts leafHash left right sighash,
    library.signatureHash tx index prevouts leafHash left = .ok sighash →
    library.signatureHash tx index prevouts leafHash right = .ok sighash → left = right

variable {library keypair decodedPsbt info cachedLeafHash} (sound : library.Sound)

include sound

/-- A signature made for a path verifies with the key of the path if its message is the sighash of
the default type. -/
theorem verifySignature_iff {path : RbfSigningSpendPath} {message : Bytes32}
    {signature : Vector UInt8 64} {sighash : TapSighashType → SendResult Bytes32}
    (made : signWithTweakData library keypair message path = .ok signature) :
    verifySignature library signature.toList (verificationKey library keypair path) sighash = true ↔
      sighash .default = .ok message := by
  have ownMessage : ∀ other, library.verifySchnorr signature other
      (verificationKey library keypair path) = true ↔ message = other := by
    intro other
    cases path with
    | keyPath merkleRoot =>
      obtain ⟨tweaked, added, finished⟩ := ExceptRun.bind_ok_iff.mp made
      cases finished
      rw [verificationKey, ← sound.tweaked _ _ _ added]
      exact sound.verifies message other tweaked
    | scriptPath controlBlock script =>
      cases made
      exact sound.verifies message other keypair
  have whole : (⟨(signature.toList.take 64).toArray, by simp⟩ : Vector UInt8 64) = signature :=
    Vector.toList_inj.mp (by simp [List.take_of_length_le])
  have dropped : signature.toList.drop 64 = [] := by simp
  simp only [verifySignature, Vector.length_toList, le_refl, dite_true, dropped, Option.map_some,
    whole]
  cases sighash .default with
  | error => simp
  | ok other => rw [ownMessage, Except.ok.injEq, eq_comm]

theorem sighashFor_separated {left right : TapSighashType} {sighash : Bytes32}
    (leftHash : sighashFor library decodedPsbt info cachedLeafHash left = .ok sighash)
    (rightHash : sighashFor library decodedPsbt info cachedLeafHash right = .ok sighash) :
    left = right := by
  simp only [sighashFor, ExceptRun.bind_ok_iff, otherError_eq_ok] at leftHash rightHash
  obtain ⟨prevouts, spent, leafHash, leaf, leftHash⟩ := leftHash
  obtain ⟨prevouts', spent', leafHash', leaf', rightHash⟩ := rightHash
  cases spent.symm.trans spent'
  cases leaf.symm.trans leaf'
  exact sound.separated _ _ _ _ _ _ _ leftHash rightHash

theorem passes_iff {signed : Psbt}
    (run : attemptSignPsbt library keypair decodedPsbt info cachedLeafHash = .ok signed) :
    Passes library keypair decodedPsbt info cachedLeafHash signed ↔
      info.tapSighashType = .default := by
  simp only [attemptSignPsbt, ExceptRun.bind_ok_iff, otherError_eq_ok, liftPanic_eq_ok,
    vecIndex_eq_ok] at run
  obtain ⟨-, -, message, hashed, signature, made, input, atIndex, finished⟩ := run
  cases finished
  have inside := (List.getElem?_eq_some_iff.mp atIndex).1
  obtain ⟨rest, witness⟩ : ∃ rest,
      finalWitness signature info.spendPath = signature.toList :: rest := by
    cases info.spendPath <;> exact ⟨_, rfl⟩
  constructor
  · rintro ⟨_, _, _, found, written, verified⟩
    rw [List.getElem?_set_self inside] at found
    cases found
    cases witness.symm.trans (Option.some.inj written)
    exact sighashFor_separated sound hashed ((verifySignature_iff sound made).mp verified)
  · intro isDefault
    exact ⟨_, _, rest, List.getElem?_set_self inside, congrArg some witness,
      (verifySignature_iff sound made).mpr (isDefault ▸ hashed)⟩

/-- The witness that is written for an accepted message passes exactly for the default sighash
type. -/
theorem attemptSignPsbt_passes_iff {rpc : RbfSigningInfoRpc} {signed : Psbt}
    (accepted : rpc.tryInto = .ok info)
    (run : attemptSignPsbt library keypair decodedPsbt info cachedLeafHash = .ok signed) :
    Passes library keypair decodedPsbt info cachedLeafHash signed ↔
      rpc.tapSighashType.toUInt8 = 0 :=
  (passes_iff sound run).trans (tryInto_default_iff accepted)

end Signing

/-- A PSBT with one input, for sample runs. -/
def samplePsbt : Psbt where
  unsignedTx := ⟨2, 0, [⟨⟨zeroBytes, 0⟩, [], 0, []⟩], []⟩
  inputs := [⟨some ⟨330, []⟩, none, none, none⟩]

/-- A library for sample runs, whose signatures start with the message. -/
def sampleLibrary : SigningLibrary where
  Keypair := Bytes32
  xOnlyPublicKey keypair := keypair
  tapTweakHash _ _ := zeroBytes
  addXonlyTweak keypair _ := .ok keypair
  outputKey key _ := key
  signSchnorr sighash keypair := sighash ++ keypair
  verifySchnorr signature message _ := signature.toList.take 32 = message.toList
  signatureHash _ _ _ _ sighashType := .ok (Vector.replicate 32 sighashType.toU8)

theorem sampleLibrary_sound : sampleLibrary.Sound where
  verifies sighash message (keypair : Bytes32) := by
    change decide ((sighash ++ keypair).toList.take 32 = message.toList) = true ↔ _
    rw [decide_eq_true_eq, Vector.toList_append, List.take_left' (by simp), Vector.toList_inj]
  tweaked _ _ _ added := by
    cases added
    rfl
  separated _ _ _ _ left right _ leftHash rightHash := by
    have same := Except.ok.inj (leftHash.trans rightHash.symm)
    exact TapSighashType.toU8_injective (congrArg (fun bytes => bytes[0]) same)

/-- With the type `All` on the key path a witness is written that does not pass. -/
theorem attemptSignPsbt_all_fails :
    RbfSigningInfoRpc.tryInto ⟨[], 0, [], [], 1⟩ = .ok ⟨0, .keyPath none, .all⟩ ∧
      ∃ signed, attemptSignPsbt sampleLibrary zeroBytes samplePsbt ⟨0, .keyPath none, .all⟩ none =
          .ok signed ∧
        ¬Passes sampleLibrary zeroBytes samplePsbt ⟨0, .keyPath none, .all⟩ none signed := by
  refine ⟨rfl, _, rfl, fun passes => ?_⟩
  cases (passes_iff sampleLibrary_sound rfl).mp passes

theorem attemptSignPsbt_default_passes :
    ∃ signed, attemptSignPsbt sampleLibrary zeroBytes samplePsbt
        ⟨0, .scriptPath [1] [2], .default⟩ (some zeroBytes) = .ok signed ∧
      Passes sampleLibrary zeroBytes samplePsbt ⟨0, .scriptPath [1] [2], .default⟩
        (some zeroBytes) signed :=
  ⟨_, rfl, (attemptSignPsbt_passes_iff sampleLibrary_sound
    (show RbfSigningInfoRpc.tryInto ⟨[], 0, [1], [2], 0⟩ = .ok _ from rfl) rfl).mpr rfl⟩

end TxSender

end Clementine
