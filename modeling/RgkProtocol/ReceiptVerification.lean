import RgkProtocol.Resolver
import RgkProtocol.IndexerRebuild
import RgkProtocol.ReceiptCommitment

/-!
# Receipts against the indexed state

The verifier compares a receipt with the indexed state in asset and digest, and lets the indexed
policy admit its proof mode. Chain and covenant are compared with the verifier's own; the policy
the receipt carries is compared with nothing.
-/
namespace RgkProtocol.ReceiptVerification
open ByteStrings Hashing CoreTypes Checked CanonicalEncoding ReceiptCommitment IndexerState
open IndexerOps IndexerRebuild Resolver

section Verifier
variable (H : List UInt8 → Bytes32)

def verifyLocalStructured (receipt : RgkReceipt) (expectedCovenantId : Bytes32)
    (expectedOldState : RgkStateCommitment) (verifierChain : KaspaChainId) :
    Except ReceiptError Bytes32 := do
  failIf (receipt.chainId ≠ verifierChain) (.chainMismatch receipt.chainId verifierChain)
  failIf (receipt.covenantId ≠ expectedCovenantId)
    (.covenantMismatch receipt.covenantId expectedCovenantId)
  failIf (receipt.oldState.assetId ≠ expectedOldState.assetId ∨
      receipt.newState.assetId ≠ expectedOldState.assetId)
    (.assetMismatch expectedOldState.assetId receipt.oldState.assetId)
  failIf (receipt.oldState.stateDigest ≠ expectedOldState.stateDigest)
    (.oldStateMismatch receipt.oldState.stateDigest expectedOldState.stateDigest)
  failIf (¬expectedOldState.receiptPolicy.admits receipt.proofMode)
    (.policyRejectsMode expectedOldState.receiptPolicy receipt.proofMode)
  .ok (receiptCommitment H receipt)

def decodeReceipt (receiptBytes : List UInt8) : Except ReceiptError RgkReceipt :=
  (decodeCanonical receiptBytes).mapError .decodeFailure

def verifyLocal (receiptBytes : List UInt8) (expectedCovenantId : Bytes32)
    (expectedOldState : RgkStateCommitment) (verifierChain : KaspaChainId) :
    Except ReceiptError Bytes32 := do
  let receipt ← decodeReceipt receiptBytes
  verifyLocalStructured H receipt expectedCovenantId expectedOldState verifierChain

def verifyReceiptAgainstIndexer (r : RgkResolver) (covenant : Bytes32)
    (receiptBytes : List UInt8) : Except ReceiptError RgkStateCommitment := do
  let expectedOld ← okOr (InMemoryIndexer.latestState r.indexer covenant)
    (.structural "covenant not indexed")
  let receipt ← decodeReceipt receiptBytes
  let receiptId := receiptCommitment H receipt
  failIf (InMemoryIndexer.hasReplay r.indexer covenant receiptId) (.replay receiptId)
  let _ ← verifyLocal H receiptBytes covenant expectedOld r.verifierChain
  .ok receipt.newState

end Verifier

section Acceptance
variable {H : List UInt8 → Bytes32}

/-- What an accepted receipt has in common with the indexed state it was checked against. -/
structure ReceiptAccepted (r : RgkResolver) (covenant : Bytes32) (latest : RgkStateCommitment)
    (receipt : RgkReceipt) : Prop where
  valid : ReceiptValid receipt
  chain : receipt.chainId = r.verifierChain
  covenantId : receipt.covenantId = covenant
  oldAsset : receipt.oldState.assetId = latest.assetId
  newAsset : receipt.newState.assetId = latest.assetId
  digest : receipt.oldState.stateDigest = latest.stateDigest
  admitted : latest.receiptPolicy.admits receipt.proofMode

lemma verifyLocalStructured_ok {receipt : RgkReceipt} {covenant : Bytes32}
    {latest : RgkStateCommitment} {chain : KaspaChainId} {id : Bytes32}
    (h : verifyLocalStructured H receipt covenant latest chain = .ok id) :
    receipt.chainId = chain ∧ receipt.covenantId = covenant ∧
      receipt.oldState.assetId = latest.assetId ∧ receipt.newState.assetId = latest.assetId ∧
      receipt.oldState.stateDigest = latest.stateDigest ∧
      latest.receiptPolicy.admits receipt.proofMode = true := by
  simp only [verifyLocalStructured, unit_bind_eq_ok, failIf_eq_ok, not_not, not_or] at h
  obtain ⟨hchain, hcov, ⟨hold, hnew⟩, hdigest, hmode, -⟩ := h
  exact ⟨hchain, hcov, hold, hnew, hdigest, hmode⟩

lemma decodeReceipt_eq_ok {bytes : List UInt8} {receipt : RgkReceipt} :
    decodeReceipt bytes = .ok receipt ↔ decodeCanonical bytes = .ok receipt := by
  unfold decodeReceipt
  cases (decodeCanonical bytes : Except DecodeError RgkReceipt) <;> simp [Except.mapError]

lemma verifyReceiptAgainstIndexer_ok {r : RgkResolver} {covenant : Bytes32} {bytes : List UInt8}
    {new : RgkStateCommitment} (h : verifyReceiptAgainstIndexer H r covenant bytes = .ok new) :
    ∃ latest receipt, InMemoryIndexer.latestState r.indexer covenant = some latest ∧
      decodeCanonical bytes = .ok receipt ∧ ReceiptAccepted r covenant latest receipt ∧
      new = receipt.newState := by
  simp only [verifyReceiptAgainstIndexer, bind_eq_ok, okOr_eq_ok] at h
  obtain ⟨latest, hlatest, receipt, hreceipt, -, -, id, hlocal, hnew⟩ := h
  obtain ⟨receipt', hreceipt', hlocal⟩ := bind_eq_ok.mp hlocal
  obtain rfl : receipt = receipt' := Except.ok.inj (hreceipt.symm.trans hreceipt')
  obtain ⟨hchain, hcov, hold, hnewAsset, hdigest, hmode⟩ := verifyLocalStructured_ok hlocal
  have hdecoded := decodeReceipt_eq_ok.mp hreceipt
  have hvalid := validateReceipt_eq_ok.mp ((decodeCanonical_eq_ok exact_receipt).mp hdecoded).1
  exact ⟨latest, receipt, hlatest, hdecoded,
    ⟨hvalid, hchain, hcov, hold, hnewAsset, hdigest, hmode⟩, (Except.ok.inj hnew).symm⟩

end Acceptance

/-- The returned state keeps the chain, covenant, asset and policy of the indexed one. -/
def KeepsState (latest new : RgkStateCommitment) : Prop :=
  new.chainId = latest.chainId ∧ new.covenantId = latest.covenantId ∧
    new.assetId = latest.assetId ∧ new.receiptPolicy = latest.receiptPolicy

/-- For an accepted receipt, the returned state keeps the indexed one's identity and policy, the
receipt's old state is the indexed one and its mode is admitted, exactly when the indexed state
is on the verifier's chain, under the queried covenant and of the current version, and the receipt
carries the indexed policy. -/
theorem verifyReceipt_keeps_state_iff (H : List UInt8 → Bytes32) (r : RgkResolver)
    (covenant : Bytes32) (bytes : List UInt8) (latest new : RgkStateCommitment)
    (receipt : RgkReceipt) (hlatest : InMemoryIndexer.latestState r.indexer covenant = some latest)
    (hreceipt : decodeCanonical bytes = .ok receipt)
    (hok : verifyReceiptAgainstIndexer H r covenant bytes = .ok new) :
    (KeepsState latest new ∧ receipt.oldState = latest ∧
        latest.receiptPolicy.admits receipt.proofMode = true) ↔
      latest.chainId = r.verifierChain ∧ latest.covenantId = covenant ∧
        latest.version = encodingVersion ∧
        receipt.oldState.receiptPolicy = latest.receiptPolicy := by
  obtain ⟨latest', receipt', hlatest', hreceipt', ha, rfl⟩ := verifyReceiptAgainstIndexer_ok hok
  obtain rfl : latest = latest' := Option.some.inj (hlatest.symm.trans hlatest')
  obtain rfl : receipt = receipt' := Except.ok.inj (hreceipt.symm.trans hreceipt')
  have hnewChain : receipt.newState.chainId = r.verifierChain := ha.valid.newChain.trans ha.chain
  have hnewCov : receipt.newState.covenantId = covenant := ha.valid.newCovenant.trans ha.covenantId
  constructor
  · rintro ⟨⟨hchain, hcov, -, -⟩, hold, -⟩
    refine ⟨hchain.symm.trans hnewChain, hcov.symm.trans hnewCov, ?_, by rw [hold]⟩
    rw [← hold]
    exact ha.valid.oldState.version
  · rintro ⟨hchain, hcov, hversion, hpolicy⟩
    have hold : receipt.oldState = latest := by
      have hc : receipt.oldState.chainId = latest.chainId :=
        ha.valid.oldChain.trans (ha.chain.trans hchain.symm)
      have hk : receipt.oldState.covenantId = latest.covenantId :=
        ha.valid.oldCovenant.trans (ha.covenantId.trans hcov.symm)
      have hv : receipt.oldState.version = latest.version :=
        ha.valid.oldState.version.trans hversion.symm
      calc receipt.oldState
          = ⟨receipt.oldState.version, receipt.oldState.chainId, receipt.oldState.covenantId,
              receipt.oldState.assetId, receipt.oldState.stateDigest,
              receipt.oldState.receiptPolicy⟩ := rfl
        _ = ⟨latest.version, latest.chainId, latest.covenantId, latest.assetId,
              latest.stateDigest, latest.receiptPolicy⟩ := by
            rw [hv, hc, hk, ha.oldAsset, ha.digest, hpolicy]
    exact ⟨⟨hnewChain.trans hchain.symm, hnewCov.trans hcov.symm, ha.newAsset,
      ha.valid.policy.symm.trans hpolicy⟩, hold, ha.admitted⟩

section Samples

/-- An indexer with one covenant whose policy admits verifier receipts only. -/
def sampleResolver : RgkResolver :=
  .new ⟨.ok .kaspaSimnet, fun _ => .ok none, fun _ => .ok none⟩
    (runOps Sha256.digest [.openCovenant .kaspaSimnet (Bytes.fill 32 0x22) (Bytes.fill 32 0x33)
      (sampleReceiptState 0x44 1) ⟨Bytes.fill 32 1, 0⟩ 100]) .kaspaSimnet

theorem verifyReceipt_keeps_state_sample :
    (KeepsState (sampleReceiptState 0x44 1) (sampleReceiptState 0x44 2) ∧
        (sampleReceipt 0x44 1).oldState = sampleReceiptState 0x44 1 ∧
        (sampleReceiptState 0x44 1).receiptPolicy.admits (sampleReceipt 0x44 1).proofMode = true) ↔
      (sampleReceiptState 0x44 1).chainId = sampleResolver.verifierChain ∧
        (sampleReceiptState 0x44 1).covenantId = Bytes.fill 32 0x22 ∧
        (sampleReceiptState 0x44 1).version = encodingVersion ∧
        (sampleReceipt 0x44 1).oldState.receiptPolicy =
          (sampleReceiptState 0x44 1).receiptPolicy :=
  verifyReceipt_keeps_state_iff Sha256.digest sampleResolver (Bytes.fill 32 0x22)
    (encodeCanonical (sampleReceipt 0x44 1)) (sampleReceiptState 0x44 1)
    (sampleReceiptState 0x44 2) (sampleReceipt 0x44 1) (by decide +kernel) (by decide +kernel)
    (by decide +kernel)

/-- The sample receipt with the policy `any` in both of its states. -/
def sampleLooseReceipt : RgkReceipt :=
  { sampleReceipt 0x44 1 with
    oldState := { sampleReceiptState 0x44 1 with receiptPolicy := .any }
    newState := { sampleReceiptState 0x44 2 with receiptPolicy := .any } }

/-- The covenant takes verifier receipts only; a receipt that says otherwise is accepted, and the
state it returns has the wider policy. -/
theorem verifyReceipt_changes_policy :
    (InMemoryIndexer.latestState sampleResolver.indexer (Bytes.fill 32 0x22)).map
        RgkStateCommitment.receiptPolicy = some .verifierOnly ∧
      verifyReceiptAgainstIndexer Sha256.digest sampleResolver (Bytes.fill 32 0x22)
          (encodeCanonical sampleLooseReceipt) =
        .ok { sampleReceiptState 0x44 2 with receiptPolicy := .any } := by
  decide +kernel

end Samples
end RgkProtocol.ReceiptVerification
