import RgkProtocol.ToccataTx

/-!
# What a signature hash covers

The signature hash of an input hashes the lists of outpoints, sequences and outputs and the payload
apart, and puts zero bytes in the place of what the hash type leaves out. Equal hashes then mean
that the two calls agree on every part that the hash type keeps.
-/
namespace RgkProtocol.SignatureHash
open ByteStrings SelfDelimiting Hashing CoreTypes Checked TransitionOutputs ToccataTx

section HashTypes

structure ToccataSigHashType where
  toU8 : UInt8
  deriving DecidableEq

def sigHashAll : ToccataSigHashType := ⟨0b00000001⟩
def sigHashNone : ToccataSigHashType := ⟨0b00000010⟩
def sigHashSingle : ToccataSigHashType := ⟨0b00000100⟩
def sigHashAnyOneCanPay : ToccataSigHashType := ⟨0b10000000⟩
def sigHashMask : UInt8 := 0b00000111

def allowedSigHashTypes : List UInt8 :=
  [0b00000001, 0b00000010, 0b00000100, 0b10000001, 0b10000010, 0b10000100]

def isAllowedSigHashType (value : UInt8) : Bool := allowedSigHashTypes.contains value

namespace ToccataSigHashType
variable (hashType : ToccataSigHashType)

def fromU8 (value : UInt8) : Except TxBuildError ToccataSigHashType := do
  failIf (!isAllowedSigHashType value) (.invalidToccataSigHashType value)
  .ok ⟨value⟩

def isSighashAll : Bool := hashType.toU8 &&& sigHashMask == sigHashAll.toU8

def isSighashNone : Bool := hashType.toU8 &&& sigHashMask == sigHashNone.toU8

def isSighashSingle : Bool := hashType.toU8 &&& sigHashMask == sigHashSingle.toU8

def isSighashAnyoneCanPay : Bool :=
  hashType.toU8 &&& sigHashAnyOneCanPay.toU8 == sigHashAnyOneCanPay.toU8

@[simp] lemma fromU8_eq_ok {value : UInt8} {hashType : ToccataSigHashType} :
    fromU8 value = .ok hashType ↔ isAllowedSigHashType value = true ∧ ⟨value⟩ = hashType := by
  simp [fromU8, unit_bind_eq_ok]

lemma isSighashAll_eq (h : isAllowedSigHashType hashType.toU8 = true) :
    hashType.isSighashAll = (!hashType.isSighashNone && !hashType.isSighashSingle) := by
  obtain ⟨value⟩ := hashType
  have hmem : value ∈ allowedSigHashTypes := List.contains_iff_mem.mp h
  simp only [allowedSigHashTypes, List.mem_cons, List.not_mem_nil, or_false] at hmem
  rcases hmem with rfl | rfl | rfl | rfl | rfl | rfl <;> rfl

lemma not_single_of_none (h : hashType.isSighashNone = true) :
    hashType.isSighashSingle = false := by
  have hmask : hashType.toU8 &&& sigHashMask = sigHashNone.toU8 := by
    simpa [isSighashNone] using h
  simp [isSighashSingle, hmask, sigHashNone, sigHashSingle]

end ToccataSigHashType
end HashTypes

section Hash
variable (H : KaspaHasher → List UInt8 → Bytes32) (tx : ToccataV1Tx)
  (hashType : ToccataSigHashType)

def sighashPreviousOutputsHash : Bytes32 :=
  if hashType.isSighashAnyoneCanPay then Bytes.zero
  else H .transactionSigningHash
    (tx.inputs.flatMap fun input => hashToccataOutpoint input.previousOutpoint)

def sighashSequencesHash : Bytes32 :=
  if hashType.isSighashSingle || hashType.isSighashAnyoneCanPay || hashType.isSighashNone then
    Bytes.zero
  else H .transactionSigningHash (tx.inputs.flatMap fun input => le64 input.sequence)

def sighashPayloadHash : Bytes32 :=
  if tx.subnetworkId = subnetworkIdNative ∧ tx.payload.toList = [] then Bytes.zero
  else H .transactionSigningHash (writeVarBytes tx.payload)

def sighashOutputsHash (inputIndex : ℕ) : Bytes32 :=
  if hashType.isSighashNone then Bytes.zero
  else if hashType.isSighashSingle then
    match tx.outputs[inputIndex]? with
    | none => Bytes.zero
    | some output => H .transactionSigningHash (hashToccataOutputForSighash output)
  else H .transactionSigningHash (tx.outputs.flatMap hashToccataOutputForSighash)

/-- What the signature hash writes after the version, in the order of writing. -/
structure SigningFields where
  previousOutputsHash : Bytes32
  sequencesHash : Bytes32
  outpoint : KaspaOutpoint
  scriptPublicKey : ToccataScriptPublicKey
  amount : UInt64
  sequence : UInt64
  outputsHash : Bytes32
  lockTime : UInt64
  subnetworkId : ToccataSubnetworkId
  gas : UInt64
  payloadHash : Bytes32
  hashType : UInt8

def SigningFields.encode (fields : SigningFields) : List UInt8 :=
  le16 txVersionToccata ++ fields.previousOutputsHash.toList ++ fields.sequencesHash.toList ++
    hashToccataOutpoint fields.outpoint ++ hashToccataScriptPublicKey fields.scriptPublicKey ++
    le64 fields.amount ++ le64 fields.sequence ++ fields.outputsHash.toList ++
    le64 fields.lockTime ++ fields.subnetworkId.toList ++ le64 fields.gas ++
    fields.payloadHash.toList ++ [fields.hashType]

def signingFields (inputIndex : ℕ) (input : ToccataTxInput) (previousUtxo : ToccataUtxoEntry) :
    SigningFields :=
  ⟨sighashPreviousOutputsHash H tx hashType, sighashSequencesHash H tx hashType,
    input.previousOutpoint, previousUtxo.scriptPublicKey, previousUtxo.amount, input.sequence,
    sighashOutputsHash H tx hashType inputIndex, tx.lockTime, tx.subnetworkId, tx.gas,
    sighashPayloadHash H tx, hashType.toU8⟩

end Hash

def schnorrSignatureHash (H : KaspaHasher → List UInt8 → Bytes32) (tx : ToccataV1Tx)
    (inputIndex : ℕ) (previousUtxos : List ToccataUtxoEntry) (hashType : ToccataSigHashType) :
    Except TxBuildError Bytes32 := do
  let hashType ← ToccataSigHashType.fromU8 hashType.toU8
  let input ← okOr tx.inputs[inputIndex]?
    (.toccataSigHashInputOutOfBounds inputIndex tx.inputs.length)
  let previousUtxo ← okOr previousUtxos[inputIndex]? (.missingToccataSigHashUtxo inputIndex)
  .ok (H .transactionSigningHash
    (signingFields H tx hashType inputIndex input previousUtxo).encode)

section Parts
variable (H : KaspaHasher → List UInt8 → Bytes32) (tx : ToccataV1Tx)
  (hashType : ToccataSigHashType)

/-- What is hashed of the previous outputs, if anything is. -/
def previousOutputsBytes : Option (List UInt8) :=
  if hashType.isSighashAnyoneCanPay then none
  else some ((tx.inputs.map ToccataTxInput.previousOutpoint).flatMap hashToccataOutpoint)

def keepsSequences : Bool :=
  !(hashType.isSighashSingle || hashType.isSighashAnyoneCanPay || hashType.isSighashNone)

def sequencesBytes : Option (List UInt8) :=
  if keepsSequences hashType then some ((tx.inputs.map ToccataTxInput.sequence).flatMap le64)
  else none

def payloadBytes : Option (List UInt8) :=
  if tx.subnetworkId = subnetworkIdNative ∧ tx.payload.toList = [] then none
  else some (writeVarBytes tx.payload)

def outputsBytes (inputIndex : ℕ) : Option (List UInt8) :=
  if hashType.isSighashNone then none
  else if hashType.isSighashSingle then tx.outputs[inputIndex]?.map writeToccataOutput
  else some (tx.outputs.flatMap writeToccataOutput)

lemma sighashPreviousOutputsHash_eq : sighashPreviousOutputsHash H tx hashType =
    digestOrZero (H .transactionSigningHash) (previousOutputsBytes tx hashType) := by
  cases h : hashType.isSighashAnyoneCanPay <;>
    simp [sighashPreviousOutputsHash, previousOutputsBytes, digestOrZero, h, List.flatMap_map]

lemma sighashSequencesHash_eq : sighashSequencesHash H tx hashType =
    digestOrZero (H .transactionSigningHash) (sequencesBytes tx hashType) := by
  unfold sighashSequencesHash sequencesBytes keepsSequences
  cases hashType.isSighashSingle || hashType.isSighashAnyoneCanPay || hashType.isSighashNone <;>
    simp [digestOrZero, List.flatMap_map]

lemma sighashPayloadHash_eq : sighashPayloadHash H tx =
    digestOrZero (H .transactionSigningHash) (payloadBytes tx) := by
  unfold sighashPayloadHash payloadBytes
  split <;> rfl

lemma sighashOutputsHash_eq (inputIndex : ℕ) : sighashOutputsHash H tx hashType inputIndex =
    digestOrZero (H .transactionSigningHash) (outputsBytes tx hashType inputIndex) := by
  unfold sighashOutputsHash outputsBytes
  rw [hashToccataOutputForSighash_eq]
  cases hashType.isSighashNone with
  | true => rfl
  | false =>
    cases hashType.isSighashSingle with
    | true => cases houtput : tx.outputs[inputIndex]? <;> rfl
    | false => rfl

def partStrings (inputIndex : ℕ) : List (List UInt8) :=
  (previousOutputsBytes tx hashType).toList ++ (sequencesBytes tx hashType).toList ++
    (outputsBytes tx hashType inputIndex).toList ++ (payloadBytes tx).toList

/-- The strings that one call hashes. -/
def callStrings (inputIndex : ℕ) (previousUtxos : List ToccataUtxoEntry) : List (List UInt8) :=
  match tx.inputs[inputIndex]?, previousUtxos[inputIndex]? with
  | some input, some previousUtxo =>
    (signingFields H tx hashType inputIndex input previousUtxo).encode ::
      partStrings tx hashType inputIndex
  | _, _ => []

variable {H tx hashType}

lemma schnorrSignatureHash_eq_ok {inputIndex : ℕ} {previousUtxos : List ToccataUtxoEntry}
    {digest : Bytes32} :
    schnorrSignatureHash H tx inputIndex previousUtxos hashType = .ok digest ↔
      isAllowedSigHashType hashType.toU8 = true ∧
        ∃ input, tx.inputs[inputIndex]? = some input ∧
          ∃ previousUtxo, previousUtxos[inputIndex]? = some previousUtxo ∧
            H .transactionSigningHash
              (signingFields H tx hashType inputIndex input previousUtxo).encode = digest := by
  simp [schnorrSignatureHash, bind_eq_ok]

end Parts

section Agreement
variable {t₁ t₂ : ToccataV1Tx} {i j : ℕ}

lemma determines_signingFields :
    Determines (fun _ => True) SigningFields.encode id := by
  have h := ((((((((((((Determines.const (P := fun _ : SigningFields => True)
    (le16 txVersionToccata)).append
    (Determines.bytes SigningFields.previousOutputsHash)).append
    (Determines.bytes SigningFields.sequencesHash)).append
    (determines_outpoint SigningFields.outpoint)).append
    (determines_scriptPublicKey SigningFields.scriptPublicKey)).append
    (Determines.word64 SigningFields.amount)).append
    (Determines.word64 SigningFields.sequence)).append
    (Determines.bytes SigningFields.outputsHash)).append
    (Determines.word64 SigningFields.lockTime)).append
    (Determines.bytes SigningFields.subnetworkId)).append
    (Determines.word64 SigningFields.gas)).append
    (Determines.bytes SigningFields.payloadHash)).append
    (Determines.byte SigningFields.hashType)
  refine h.imp fun x y _ _ he => ?_
  cases x
  cases y
  simp only [Prod.mk.injEq, true_and, and_assoc] at he
  simpa using he

lemma previousOutputsBytes_eq_iff {hashType : ToccataSigHashType} :
    previousOutputsBytes t₁ hashType = previousOutputsBytes t₂ hashType ↔
      (hashType.isSighashAnyoneCanPay = false →
        t₁.inputs.map ToccataTxInput.previousOutpoint =
          t₂.inputs.map ToccataTxInput.previousOutpoint) := by
  have hinj : ∀ xs ys : List KaspaOutpoint,
      xs.flatMap hashToccataOutpoint = ys.flatMap hashToccataOutpoint ↔ xs = ys :=
    fun _ _ => (determines_outpoint id).flatMap_inj (by simp [hashToccataOutpoint])
  cases h : hashType.isSighashAnyoneCanPay <;> simp [previousOutputsBytes, h, hinj]

lemma sequencesBytes_eq_iff {hashType : ToccataSigHashType} :
    sequencesBytes t₁ hashType = sequencesBytes t₂ hashType ↔
      (keepsSequences hashType = true →
        t₁.inputs.map ToccataTxInput.sequence = t₂.inputs.map ToccataTxInput.sequence) := by
  have hinj : ∀ xs ys : List UInt64, xs.flatMap le64 = ys.flatMap le64 ↔ xs = ys :=
    fun _ _ => (Determines.word64 id).flatMap_inj (by simp)
  cases h : keepsSequences hashType <;> simp [sequencesBytes, h, hinj]

lemma writeToccataOutput_inj {a b : ToccataTxOutput} :
    writeToccataOutput a = writeToccataOutput b ↔ a = b :=
  ⟨(determines_output (P := fun _ => True) id).eq trivial trivial, congrArg _⟩

lemma outputsBytes_eq_iff {hashType : ToccataSigHashType}
    (hallowed : isAllowedSigHashType hashType.toU8 = true) :
    outputsBytes t₁ hashType i = outputsBytes t₂ hashType j ↔
      (hashType.isSighashAll = true → t₁.outputs = t₂.outputs) ∧
        (hashType.isSighashSingle = true → t₁.outputs[i]? = t₂.outputs[j]?) := by
  rw [hashType.isSighashAll_eq hallowed]
  have hinj : ∀ xs ys : List ToccataTxOutput,
      xs.flatMap writeToccataOutput = ys.flatMap writeToccataOutput ↔ xs = ys :=
    fun _ _ => (determines_output id).flatMap_inj (by simp [writeToccataOutput])
  have hmap : ∀ a b : Option ToccataTxOutput,
      a.map writeToccataOutput = b.map writeToccataOutput ↔ a = b :=
    fun _ _ => (Option.map_injective fun _ _ => writeToccataOutput_inj.mp).eq_iff
  unfold outputsBytes
  cases hnone : hashType.isSighashNone with
  | true => simp [hashType.not_single_of_none hnone]
  | false => cases hashType.isSighashSingle <;> simp [hinj, hmap]

lemma payloadBytes_eq_iff (h : t₁.subnetworkId = t₂.subnetworkId) :
    payloadBytes t₁ = payloadBytes t₂ ↔ t₁.payload = t₂.payload := by
  have hinj : writeVarBytes t₁.payload = writeVarBytes t₂.payload ↔ t₁.payload = t₂.payload :=
    ⟨(determines_varBytes (P := fun _ => True) id).eq trivial trivial, congrArg _⟩
  unfold payloadBytes
  rw [h]
  constructor
  · intro hbytes
    by_cases hempty₁ : t₂.subnetworkId = subnetworkIdNative ∧ t₁.payload.toList = [] <;>
      by_cases hempty₂ : t₂.subnetworkId = subnetworkIdNative ∧ t₂.payload.toList = []
    · exact ByteVec.ext (hempty₁.2.trans hempty₂.2.symm)
    · rw [if_pos hempty₁, if_neg hempty₂] at hbytes
      cases hbytes
    · rw [if_neg hempty₁, if_pos hempty₂] at hbytes
      cases hbytes
    · rw [if_neg hempty₁, if_neg hempty₂] at hbytes
      exact hinj.mp (Option.some.inj hbytes)
  · intro hpayload
    rw [hpayload]

/-- Two calls with one hash type agree on what the type covers. -/
structure SignedAlike (t₁ : ToccataV1Tx) (i : ℕ) (u₁ : List ToccataUtxoEntry) (t₂ : ToccataV1Tx)
    (j : ℕ) (u₂ : List ToccataUtxoEntry) (hashType : ToccataSigHashType) : Prop where
  lockTime : t₁.lockTime = t₂.lockTime
  subnetworkId : t₁.subnetworkId = t₂.subnetworkId
  gas : t₁.gas = t₂.gas
  payload : t₁.payload = t₂.payload
  outpoint : t₁.inputs[i]?.map ToccataTxInput.previousOutpoint =
    t₂.inputs[j]?.map ToccataTxInput.previousOutpoint
  sequence : t₁.inputs[i]?.map ToccataTxInput.sequence = t₂.inputs[j]?.map ToccataTxInput.sequence
  previousOutput : u₁[i]? = u₂[j]?
  outpoints : hashType.isSighashAnyoneCanPay = false →
    t₁.inputs.map ToccataTxInput.previousOutpoint = t₂.inputs.map ToccataTxInput.previousOutpoint
  sequences : hashType.isSighashAnyoneCanPay = false → hashType.isSighashNone = false →
    hashType.isSighashSingle = false →
    t₁.inputs.map ToccataTxInput.sequence = t₂.inputs.map ToccataTxInput.sequence
  outputs : hashType.isSighashAll = true → t₁.outputs = t₂.outputs
  output : hashType.isSighashSingle = true → t₁.outputs[i]? = t₂.outputs[j]?

end Agreement

section Coverage
variable {H : KaspaHasher → List UInt8 → Bytes32} {Q : Set (List UInt8)} {t₁ t₂ : ToccataV1Tx}
  {i j : ℕ} {h₁ h₂ : ToccataSigHashType}

/-- The four digests agree exactly when what they hash agrees, placeholders included. -/
lemma digests_eq_iff (hfree : CollisionFree (H .transactionSigningHash) Q)
    (hzero : NeverZero (H .transactionSigningHash) Q)
    (hq₁ : ∀ s ∈ partStrings t₁ h₁ i, s ∈ Q) (hq₂ : ∀ s ∈ partStrings t₂ h₂ j, s ∈ Q) :
    (sighashPreviousOutputsHash H t₁ h₁ = sighashPreviousOutputsHash H t₂ h₂ ↔
        previousOutputsBytes t₁ h₁ = previousOutputsBytes t₂ h₂) ∧
      (sighashSequencesHash H t₁ h₁ = sighashSequencesHash H t₂ h₂ ↔
        sequencesBytes t₁ h₁ = sequencesBytes t₂ h₂) ∧
      (sighashOutputsHash H t₁ h₁ i = sighashOutputsHash H t₂ h₂ j ↔
        outputsBytes t₁ h₁ i = outputsBytes t₂ h₂ j) ∧
      (sighashPayloadHash H t₁ = sighashPayloadHash H t₂ ↔ payloadBytes t₁ = payloadBytes t₂) := by
  simp only [sighashPreviousOutputsHash_eq, sighashSequencesHash_eq, sighashOutputsHash_eq,
    sighashPayloadHash_eq]
  refine ⟨?_, ?_, ?_, ?_⟩
  all_goals
    refine digestOrZero_inj hfree hzero (fun s hs => hq₁ s ?_) fun s hs => hq₂ s ?_
  all_goals
    rw [Option.mem_def] at hs
    simp [partStrings, hs]

lemma signingFields_eq_iff {u₁ u₂ : List ToccataUtxoEntry} {in₁ in₂ : ToccataTxInput}
    {utxo₁ utxo₂ : ToccataUtxoEntry} (hfree : CollisionFree (H .transactionSigningHash) Q)
    (hzero : NeverZero (H .transactionSigningHash) Q)
    (hq₁ : ∀ s ∈ partStrings t₁ h₁ i, s ∈ Q) (hq₂ : ∀ s ∈ partStrings t₂ h₂ j, s ∈ Q)
    (hallowed : isAllowedSigHashType h₁.toU8 = true) (hin₁ : t₁.inputs[i]? = some in₁)
    (hin₂ : t₂.inputs[j]? = some in₂) (hutxo₁ : u₁[i]? = some utxo₁)
    (hutxo₂ : u₂[j]? = some utxo₂) :
    signingFields H t₁ h₁ i in₁ utxo₁ = signingFields H t₂ h₂ j in₂ utxo₂ ↔
      h₁ = h₂ ∧ SignedAlike t₁ i u₁ t₂ j u₂ h₁ := by
  obtain ⟨houtpoints, hsequences, houtputs, hpayload⟩ := digests_eq_iff hfree hzero hq₁ hq₂
  constructor
  · intro hfields
    simp only [signingFields, SigningFields.mk.injEq] at hfields
    obtain ⟨hprev, hseqs, hout, hspk, hamount, hseq, houts, hlock, hnet, hgas, hpay, htype⟩ :=
      hfields
    obtain rfl : h₁ = h₂ := by
      cases h₁
      cases h₂
      simpa using htype
    obtain ⟨hall, hsingle⟩ := (outputsBytes_eq_iff hallowed).mp (houtputs.mp houts)
    refine ⟨rfl, hlock, hnet, hgas, (payloadBytes_eq_iff hnet).mp (hpayload.mp hpay), ?_, ?_, ?_,
      previousOutputsBytes_eq_iff.mp (houtpoints.mp hprev), ?_, hall, hsingle⟩
    · simp [hin₁, hin₂, hout]
    · simp [hin₁, hin₂, hseq]
    · rw [hutxo₁, hutxo₂, ToccataUtxoEntry.ext hamount hspk]
    · intro hacp hnone hsingle
      exact sequencesBytes_eq_iff.mp (hsequences.mp hseqs) (by simp [keepsSequences, *])
  · rintro ⟨rfl, h⟩
    have hout : in₁.previousOutpoint = in₂.previousOutpoint := by
      simpa [hin₁, hin₂] using h.outpoint
    have hseq : in₁.sequence = in₂.sequence := by simpa [hin₁, hin₂] using h.sequence
    have hutxo : utxo₁ = utxo₂ := by simpa [hutxo₁, hutxo₂] using h.previousOutput
    have hprev := houtpoints.mpr (previousOutputsBytes_eq_iff.mpr h.outpoints)
    have hseqs := hsequences.mpr (sequencesBytes_eq_iff.mpr fun hkeeps => by
      simp only [keepsSequences, Bool.not_eq_true', Bool.or_eq_false_iff] at hkeeps
      exact h.sequences hkeeps.1.2 hkeeps.2 hkeeps.1.1)
    have houts := houtputs.mpr ((outputsBytes_eq_iff hallowed).mpr ⟨h.outputs, h.output⟩)
    have hpay := hpayload.mpr ((payloadBytes_eq_iff h.subnetworkId).mpr h.payload)
    simp only [signingFields, hprev, hseqs, houts, hpay, hout, hseq, hutxo, h.lockTime,
      h.subnetworkId, h.gas]

/-- Equal signature hashes mean equal hash types and agreement on all that the type covers. -/
theorem signature_hash_coverage (H : KaspaHasher → List UInt8 → Bytes32) (t₁ t₂ : ToccataV1Tx)
    (i j : ℕ) (u₁ u₂ : List ToccataUtxoEntry) (h₁ h₂ : ToccataSigHashType) (d₁ d₂ : Bytes32)
    (hd₁ : schnorrSignatureHash H t₁ i u₁ h₁ = .ok d₁)
    (hd₂ : schnorrSignatureHash H t₂ j u₂ h₂ = .ok d₂)
    (hfree : CollisionFree (H .transactionSigningHash)
      {s | s ∈ callStrings H t₁ h₁ i u₁ ++ callStrings H t₂ h₂ j u₂})
    (hzero : NeverZero (H .transactionSigningHash)
      {s | s ∈ callStrings H t₁ h₁ i u₁ ++ callStrings H t₂ h₂ j u₂}) :
    d₁ = d₂ ↔ h₁ = h₂ ∧ SignedAlike t₁ i u₁ t₂ j u₂ h₁ := by
  obtain ⟨hallowed, in₁, hin₁, utxo₁, hutxo₁, rfl⟩ := schnorrSignatureHash_eq_ok.mp hd₁
  obtain ⟨-, in₂, hin₂, utxo₂, hutxo₂, rfl⟩ := schnorrSignatureHash_eq_ok.mp hd₂
  have hcall₁ : callStrings H t₁ h₁ i u₁ =
      (signingFields H t₁ h₁ i in₁ utxo₁).encode :: partStrings t₁ h₁ i := by
    simp only [callStrings, hin₁, hutxo₁]
  have hcall₂ : callStrings H t₂ h₂ j u₂ =
      (signingFields H t₂ h₂ j in₂ utxo₂).encode :: partStrings t₂ h₂ j := by
    simp only [callStrings, hin₂, hutxo₂]
  rw [← signingFields_eq_iff hfree hzero (by simp +contextual [hcall₁])
    (by simp +contextual [hcall₂]) hallowed hin₁ hin₂ hutxo₁ hutxo₂]
  constructor
  · intro hdigest
    have henc := hfree.eq (by simp [hcall₁]) (by simp [hcall₂]) hdigest
    exact determines_signingFields.eq trivial trivial henc
  · intro hfields
    rw [hfields]

def sampleTx (script : ByteVec) (second : UInt64) : ToccataV1Tx :=
  ⟨[⟨⟨Bytes.fill 32 1, 0⟩, script, 3, 10⟩, ⟨⟨Bytes.fill 32 2, 1⟩, script, 4, 10⟩],
    [⟨100, ⟨0, ByteVec.single 0x51⟩, none⟩, ⟨second, ⟨0, ByteVec.single 0x52⟩, none⟩],
    0, subnetworkIdNative, 0, ByteVec.single 7, 5⟩

def sampleUtxos : List ToccataUtxoEntry := [⟨120, ⟨0, ByteVec.single 0x51⟩⟩]

/-- With the type that keeps the first output only, a change of the second output and of the
signature scripts leaves the hash of the first input as it was. -/
theorem signature_hash_coverage_single :
    ∃ d₁ d₂,
      schnorrSignatureHash sampleHasher (sampleTx ByteVec.empty 8) 0 sampleUtxos sigHashSingle =
        .ok d₁ ∧
      schnorrSignatureHash sampleHasher (sampleTx (ByteVec.single 9) 9) 0 sampleUtxos
        sigHashSingle = .ok d₂ ∧ d₁ = d₂ := by
  obtain ⟨d₁, hd₁⟩ : ∃ d, schnorrSignatureHash sampleHasher (sampleTx ByteVec.empty 8) 0
      sampleUtxos sigHashSingle = .ok d :=
    ⟨_, schnorrSignatureHash_eq_ok.mpr ⟨by decide, _, rfl, _, rfl, rfl⟩⟩
  obtain ⟨d₂, hd₂⟩ : ∃ d, schnorrSignatureHash sampleHasher (sampleTx (ByteVec.single 9) 9) 0
      sampleUtxos sigHashSingle = .ok d :=
    ⟨_, schnorrSignatureHash_eq_ok.mpr ⟨by decide, _, rfl, _, rfl, rfl⟩⟩
  have hsame : callStrings sampleHasher (sampleTx (ByteVec.single 9) 9) sigHashSingle 0 sampleUtxos =
      callStrings sampleHasher (sampleTx ByteVec.empty 8) sigHashSingle 0 sampleUtxos := by
    decide +kernel
  have hfree : CollisionFree (sampleHasher .transactionSigningHash)
      {s | s ∈ callStrings sampleHasher (sampleTx ByteVec.empty 8) sigHashSingle 0 sampleUtxos} :=
    CollisionFree.of_nodup (by decide +kernel)
  have hzero : ∀ s ∈ callStrings sampleHasher (sampleTx ByteVec.empty 8) sigHashSingle 0 sampleUtxos,
      sampleHasher .transactionSigningHash s ≠ Bytes.zero := by decide +kernel
  refine ⟨d₁, d₂, hd₁, hd₂, ?_⟩
  rw [signature_hash_coverage sampleHasher _ _ 0 0 _ _ _ _ d₁ d₂ hd₁ hd₂
    (by simpa [hsame] using hfree) (fun s hs => hzero s (by simpa [hsame] using hs))]
  constructor
  · rfl
  · constructor <;> decide

end Coverage
end RgkProtocol.SignatureHash
