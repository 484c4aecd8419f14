import RgkProtocol.ReceiptVerification

/-!
# Receipts as they are built

The builder checks its input, adds the version and encodes the receipt. It turns a zero replay
nonce away on its own account: the structural check, which is all that the decoder of the verifier
runs, does not look at the nonce.
-/
namespace RgkProtocol.ReceiptBuilder
open ByteStrings Hashing CoreTypes Checked CanonicalEncoding ReceiptCommitment Resolver
open ReceiptVerification

section Builder

structure ReceiptInput where
  chainId : KaspaChainId
  covenantId : Bytes32
  oldState : RgkStateCommitment
  newState : RgkStateCommitment
  transitionDigest : Bytes32
  continuationCommitment : Bytes32
  proofMode : ProofMode
  replayNonce : Bytes32
  deriving DecidableEq

/-- The receipt with the fields of the input and the version of the encoding. -/
def ReceiptInput.receipt (input : ReceiptInput) : RgkReceipt :=
  ⟨encodingVersion, input.chainId, input.covenantId, input.oldState, input.newState,
    input.transitionDigest, input.continuationCommitment, input.proofMode, input.replayNonce⟩

/-- `RgkReceipt::new` on the fields of the input. -/
def ReceiptInput.newReceipt (input : ReceiptInput) : Except DecodeError RgkReceipt := do
  RgkReceipt.validateStructure input.receipt
  .ok input.receipt

def ReceiptInput.toValidatedReceipt (input : ReceiptInput) : Except ReceiptError RgkReceipt := do
  failIf (input.transitionDigest = Bytes.zero) .missingTransitionDigest
  failIf (input.continuationCommitment = Bytes.zero) .missingContinuationCommitment
  failIf (input.replayNonce = Bytes.zero) .missingReplayNonce
  input.newReceipt.mapError .decodeFailure

def build (H : List UInt8 → Bytes32) (input : ReceiptInput) :
    Except ReceiptError (RgkReceipt × Bytes32 × List UInt8) := do
  let receipt ← input.toValidatedReceipt
  .ok (receipt, receiptCommitment H receipt, encodeCanonical receipt)

end Builder

section Acceptance
variable {H : List UInt8 → Bytes32}

lemma toValidatedReceipt_eq_ok {input : ReceiptInput} {receipt : RgkReceipt} :
    input.toValidatedReceipt = .ok receipt ↔
      receipt = input.receipt ∧ ReceiptValid receipt ∧ receipt.replayNonce ≠ Bytes.zero := by
  simp only [ReceiptInput.toValidatedReceipt, ReceiptInput.newReceipt, unit_bind_eq_ok,
    failIf_eq_ok, mapError_eq_ok, validateReceipt_eq_ok, Except.ok.injEq]
  constructor
  · rintro ⟨-, -, hnonce, hvalid, rfl⟩
    exact ⟨rfl, hvalid, hnonce⟩
  · rintro ⟨rfl, hvalid, hnonce⟩
    exact ⟨hvalid.transition, hvalid.continuation, hnonce, hvalid, rfl⟩

lemma build_eq_ok {input : ReceiptInput} {receipt : RgkReceipt} {id : Bytes32}
    {bytes : List UInt8} :
    build H input = .ok (receipt, id, bytes) ↔
      receipt = input.receipt ∧ ReceiptValid receipt ∧ receipt.replayNonce ≠ Bytes.zero ∧
        id = receiptCommitment H receipt ∧ bytes = encodeCanonical receipt := by
  simp only [build, bind_eq_ok, toValidatedReceipt_eq_ok, Except.ok.injEq, Prod.mk.injEq]
  constructor
  · rintro ⟨_, ⟨rfl, hvalid, hnonce⟩, rfl, rfl, rfl⟩
    exact ⟨rfl, hvalid, hnonce, rfl, rfl⟩
  · rintro ⟨rfl, hvalid, hnonce, rfl, rfl⟩
    exact ⟨_, ⟨rfl, hvalid, hnonce⟩, rfl, rfl, rfl⟩

/-- The input that a receipt of the current version was built from. -/
def inputOf (receipt : RgkReceipt) : ReceiptInput :=
  ⟨receipt.chainId, receipt.covenantId, receipt.oldState, receipt.newState,
    receipt.transitionDigest, receipt.continuationCommitment, receipt.proofMode,
    receipt.replayNonce⟩

lemma receipt_inputOf {receipt : RgkReceipt} (h : ReceiptValid receipt) :
    (inputOf receipt).receipt = receipt := by
  rw [ReceiptInput.receipt, inputOf, ← h.version]

lemma receiptValid_of_decode {bytes : List UInt8} {receipt : RgkReceipt}
    (h : decodeCanonical bytes = .ok receipt) :
    ReceiptValid receipt ∧ bytes = encodeCanonical receipt := by
  obtain ⟨hvalid, hbytes⟩ := (decodeCanonical_eq_ok exact_receipt).mp h
  exact ⟨validateReceipt_eq_ok.mp hvalid, hbytes⟩

/-- A receipt that decodes and carries the expected old state passes every comparison. -/
lemma verifyLocal_of_decode {bytes : List UInt8} {receipt : RgkReceipt}
    (h : decodeCanonical bytes = .ok receipt) :
    verifyLocal H bytes receipt.oldState.covenantId receipt.oldState receipt.oldState.chainId =
      .ok (receiptCommitment H receipt) := by
  obtain ⟨hvalid, -⟩ := receiptValid_of_decode h
  refine bind_eq_ok.mpr ⟨receipt, decodeReceipt_eq_ok.mpr h, ?_⟩
  simp only [verifyLocalStructured, unit_bind_eq_ok, failIf_eq_ok, not_not, not_or, true_and, and_true]
  exact ⟨hvalid.oldChain.symm, hvalid.oldCovenant.symm, hvalid.asset.symm, hvalid.admitted⟩

lemma receipt_of_build {bytes : List UInt8} {receipt built : RgkReceipt} {input : ReceiptInput}
    {id : Bytes32} (h : decodeCanonical bytes = .ok receipt)
    (hbuilt : build H input = .ok (built, id, bytes)) :
    id = receiptCommitment H receipt ∧ receipt.replayNonce ≠ Bytes.zero := by
  obtain ⟨-, hvalid, hnonce, hid, hbytes⟩ := build_eq_ok.mp hbuilt
  have hdecode := (decodeCanonical_eq_ok exact_receipt).mpr
    ⟨validateReceipt_eq_ok.mpr hvalid, hbytes⟩
  obtain rfl := Except.ok.inj (h.symm.trans hdecode)
  exact ⟨hid, hnonce⟩

/-- Exactly the builder's receipts for the given covenant, state and chain are accepted, each
under its own id. -/
def AcceptsWhatIsBuilt (H : List UInt8 → Bytes32) (bytes : List UInt8) (covenant : Bytes32)
    (oldState : RgkStateCommitment) (chain : KaspaChainId) : Prop :=
  ∀ id, verifyLocal H bytes covenant oldState chain = .ok id ↔
    ∃ input : ReceiptInput, input.chainId = chain ∧ input.covenantId = covenant ∧
      input.oldState = oldState ∧ ∃ receipt, build H input = .ok (receipt, id, bytes)

/-- For bytes that decode to a receipt with the expected old state, which is then valid, the
verifier agrees with the builder exactly if the replay nonce of the receipt is not zero. -/
theorem verifier_accepts_built_iff (H : List UInt8 → Bytes32) (covenant : Bytes32)
    (oldState : RgkStateCommitment) (chain : KaspaChainId) (bytes : List UInt8)
    (receipt : RgkReceipt) (hcovenant : oldState.covenantId = covenant)
    (hchain : chain = oldState.chainId) (hdecode : decodeCanonical bytes = .ok receipt)
    (hold : receipt.oldState = oldState) :
    (AcceptsWhatIsBuilt H bytes covenant oldState chain ∧
      ∀ id, verifyLocal H bytes covenant oldState chain = .ok id →
        receipt.replayNonce ≠ Bytes.zero) ↔ receipt.replayNonce ≠ Bytes.zero := by
  subst hold hcovenant hchain
  obtain ⟨hvalid, hbytes⟩ := receiptValid_of_decode hdecode
  have haccepts := verifyLocal_of_decode (H := H) hdecode
  constructor
  · rintro ⟨-, hnonce⟩
    exact hnonce _ haccepts
  · intro hnonce
    refine ⟨fun id => ?_, fun _ _ => hnonce⟩
    rw [haccepts, Except.ok.injEq]
    constructor
    · rintro rfl
      exact ⟨inputOf receipt, hvalid.oldChain.symm, hvalid.oldCovenant.symm, rfl, receipt,
        build_eq_ok.mpr ⟨(receipt_inputOf hvalid).symm, hvalid, hnonce, rfl, hbytes⟩⟩
    · rintro ⟨input, -, -, -, built, hbuilt⟩
      exact (receipt_of_build hdecode hbuilt).1.symm

theorem verifier_accepts_built_sample :
    (AcceptsWhatIsBuilt Sha256.digest (encodeCanonical (sampleReceipt 0x44 1)) (Bytes.fill 32 0x22)
        (sampleReceiptState 0x44 1) .kaspaSimnet ∧
      ∀ id, verifyLocal Sha256.digest (encodeCanonical (sampleReceipt 0x44 1)) (Bytes.fill 32 0x22)
          (sampleReceiptState 0x44 1) .kaspaSimnet = .ok id →
        (sampleReceipt 0x44 1).replayNonce ≠ Bytes.zero) ↔
      (sampleReceipt 0x44 1).replayNonce ≠ Bytes.zero :=
  verifier_accepts_built_iff Sha256.digest (Bytes.fill 32 0x22) (sampleReceiptState 0x44 1)
    .kaspaSimnet (encodeCanonical (sampleReceipt 0x44 1)) (sampleReceipt 0x44 1) rfl rfl
    (by decide +kernel) rfl

/-- A receipt with a zero nonce passes the verifier; the builder turns its input away. -/
theorem zero_nonce_accepted :
    (∃ id, verifyLocal Sha256.digest (encodeCanonical (sampleReceipt 0x44 0)) (Bytes.fill 32 0x22)
      (sampleReceiptState 0x44 1) .kaspaSimnet = .ok id) ∧
    build Sha256.digest (inputOf (sampleReceipt 0x44 0)) = .error .missingReplayNonce ∧
    ¬ AcceptsWhatIsBuilt Sha256.digest (encodeCanonical (sampleReceipt 0x44 0)) (Bytes.fill 32 0x22)
      (sampleReceiptState 0x44 1) .kaspaSimnet := by
  have hdecode : decodeCanonical (encodeCanonical (sampleReceipt 0x44 0)) =
      .ok (sampleReceipt 0x44 0) := by decide +kernel
  have haccepts := verifyLocal_of_decode (H := Sha256.digest) hdecode
  refine ⟨⟨_, haccepts⟩, by decide, fun h => ?_⟩
  obtain ⟨input, -, -, -, built, hbuilt⟩ := (h _).mp haccepts
  exact (receipt_of_build hdecode hbuilt).2 rfl

end Acceptance
end RgkProtocol.ReceiptBuilder
