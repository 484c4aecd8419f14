import RgkProtocol.CoreTypes
import RgkProtocol.Checked
import RgkProtocol.OrderedMap
import Mathlib.Data.String.Basic

/-!
# What the indexer stores

One entry per covenant with its open outpoint, latest state and spend history, the lane
lookup tables, the scan cursors and the observed spends, and the checks made on what comes in.
-/
namespace RgkProtocol.IndexerState
open ByteStrings Hashing CoreTypes Checked

structure ContinuationProof where
  commitment : Bytes32
  shapeRoot : Bytes32
  transitionDigest : Bytes32
  deriving DecidableEq

structure AllocationAuditCertificateRecord where
  certificateId : Bytes32
  canonicalBytes : List UInt8
  deriving DecidableEq

/-- One accepted spend; `newStateDigest` is the digest before it, as the source names it. -/
structure SpendEntry where
  daaScore : UInt64
  spent : KaspaOutpoint
  created : KaspaOutpoint
  newStateDigest : Bytes32
  resultingStateDigest : Bytes32
  previousReceiptPolicy : ReceiptPolicy
  newReceiptPolicy : ReceiptPolicy
  receiptId : Bytes32
  continuation : Option ContinuationProof
  policyMigration : Option PolicyMigrationProof
  allocationAuditCertificate : Option AllocationAuditCertificateRecord
  deriving DecidableEq

structure IndexedCovenant where
  covenantId : Bytes32
  lineageId : Bytes32
  chainId : KaspaChainId
  openOutpoint : Option KaspaOutpoint
  latestState : RgkStateCommitment
  acceptedReceipts : List Bytes32
  spendHistory : List SpendEntry
  lastUpdateDaaScore : UInt64
  deriving DecidableEq

def IndexedCovenant.opened (covenantId : Bytes32) (chainId : KaspaChainId) (lineageId : Bytes32)
    (latestState : RgkStateCommitment) (openOutpoint : KaspaOutpoint)
    (lastUpdateDaaScore : UInt64) : IndexedCovenant :=
  ⟨covenantId, lineageId, chainId, some openOutpoint, latestState, [], [], lastUpdateDaaScore⟩

structure IndexedLane where
  chainId : KaspaChainId
  covenantId : Bytes32
  assetId : Bytes32
  laneId : Bytes32
  epoch : UInt64
  scanTag : Option Bytes32
  publicLineage : Bool
  stateDigest : Bytes32
  lastUpdateDaaScore : UInt64
  deriving DecidableEq

structure ScanCursor where
  chainId : KaspaChainId
  blockHash : Bytes32
  daaScore : UInt64
  deriving DecidableEq

structure ObservedSpendRecord where
  spent : KaspaOutpoint
  spendingTxid : Bytes32
  inputIndex : UInt32
  blockDaaScore : Option UInt64
  deriving DecidableEq

inductive IndexerError where
  | notIndexed (covenant : Bytes32)
  | alreadyIndexed (covenant : Bytes32)
  | chainMismatch (existing requested : KaspaChainId)
  | lineageMismatch (existing requested : Bytes32)
  | replay (receiptId : Bytes32)
  | rollbackTooDeep (requested : UInt64) (available : ℕ)
  | continuationProofIncomplete (reason : String)
  | policyMigrationProofInvalid (reason : String)
  | allocationAuditCertificateInvalid (reason : String)
  | laneInvariant (reason : String)
  | spendReceiptNotIndexed (covenant receiptId : Bytes32)
  | rebuildSource (reason : String)
  | rebuildSpendMissing (spent : KaspaOutpoint)
  | rebuildTxMismatch (spent : KaspaOutpoint) (expected actual : Bytes32)
  | rebuildMissingDaaScore (txid : Bytes32)
  | rebuildInsufficientConfirmations (txid : Bytes32) (required : UInt64) (actual : Option UInt64)
  | invariant (reason : String)
  | storage (reason : String)
  deriving DecidableEq

section Proofs

def validateContinuationProof (proof : ContinuationProof) : Except IndexerError Unit := do
  failIf (proof.commitment = Bytes.zero)
    (.continuationProofIncomplete "missing phase-1 commitment")
  failIf (proof.shapeRoot = Bytes.zero)
    (.continuationProofIncomplete "missing continuation shape root")
  failIf (proof.transitionDigest = Bytes.zero)
    (.continuationProofIncomplete "missing phase-2 transition digest")

/-- All three digests of a continuation proof are present. -/
def ContinuationProof.Complete (proof : ContinuationProof) : Prop :=
  proof.commitment ≠ Bytes.zero ∧ proof.shapeRoot ≠ Bytes.zero ∧
    proof.transitionDigest ≠ Bytes.zero

lemma validateContinuationProof_eq_ok {proof : ContinuationProof} :
    validateContinuationProof proof = .ok () ↔ proof.Complete := by
  simp only [validateContinuationProof, unit_bind_eq_ok, failIf_eq_ok]
  rfl

def validatePolicyMigrationProof (H : List UInt8 → Bytes32) (proof : PolicyMigrationProof)
    (previousPolicy newPolicy : ReceiptPolicy)
    (previousStateDigest newStateDigest transitionDigest : Bytes32) :
    Except IndexerError Unit := do
  failIf (previousPolicy = newPolicy)
    (.policyMigrationProofInvalid "policy migration proof supplied for unchanged policy")
  failIf (proof.previousPolicy ≠ previousPolicy)
    (.policyMigrationProofInvalid "previous policy does not match indexed state")
  failIf (proof.newPolicy ≠ newPolicy)
    (.policyMigrationProofInvalid "new policy does not match indexed state")
  failIf (proof.previousStateDigest ≠ previousStateDigest)
    (.policyMigrationProofInvalid "previous state digest does not match indexed state")
  failIf (proof.newStateDigest ≠ newStateDigest)
    (.policyMigrationProofInvalid "new state digest does not match indexed state")
  failIf (proof.transitionDigest ≠ transitionDigest)
    (.policyMigrationProofInvalid "transition digest does not match continuation proof")
  failIf (proof.authorizationCommitment = Bytes.zero)
    (.policyMigrationProofInvalid "missing migration authorisation commitment")
  let expected := policyMigrationCommitment H proof.previousPolicy proof.newPolicy
    proof.previousStateDigest proof.newStateDigest proof.transitionDigest
    proof.authorizationCommitment
  failIf (proof.migrationCommitment ≠ expected)
    (.policyMigrationProofInvalid "migration commitment does not match proof fields")

def allocationAuditCertificateMagic : List UInt8 := utf8Bytes "rgk:aac1"

def maxAllocationAuditCertificateBytes : ℕ := 1048576

def validateAllocationAuditCertificateRecord (record : AllocationAuditCertificateRecord) :
    Except IndexerError Unit := do
  failIf (record.certificateId = Bytes.zero)
    (.allocationAuditCertificateInvalid "missing certificate id")
  let len := record.canonicalBytes.length
  failIf (len > maxAllocationAuditCertificateBytes)
    (.allocationAuditCertificateInvalid
      s!"canonical bytes length {len} exceeds max {maxAllocationAuditCertificateBytes}")
  failIf (len < allocationAuditCertificateMagic.length + 32 + 1)
    (.allocationAuditCertificateInvalid s!"canonical bytes length {len} is too short")
  failIf (slice record.canonicalBytes 0 8 ≠ allocationAuditCertificateMagic)
    (.allocationAuditCertificateInvalid
      "canonical bytes have bad allocation-audit certificate magic")
  failIf (slice record.canonicalBytes 8 40 ≠ record.certificateId.toList)
    (.allocationAuditCertificateInvalid
      "canonical bytes certificate id does not match record id")

end Proofs

section Lanes

def validateIndexedLane (entry : IndexedCovenant) (lane : IndexedLane) :
    Except IndexerError Unit := do
  failIf (lane.laneId = Bytes.zero) (.laneInvariant "lane id must not be zero")
  failIf (lane.stateDigest = Bytes.zero) (.laneInvariant "lane state digest must not be zero")
  failIf (lane.scanTag = some Bytes.zero) (.laneInvariant "scan tag must not be zero")
  failIf (lane.chainId ≠ entry.chainId) (.chainMismatch entry.chainId lane.chainId)
  failIf (lane.covenantId ≠ entry.covenantId)
    (.laneInvariant "lane covenant id does not match indexed covenant")
  failIf (lane.assetId ≠ entry.latestState.assetId)
    (.laneInvariant "lane asset id does not match indexed state")
  failIf (lane.stateDigest ≠ entry.latestState.stateDigest)
    (.laneInvariant "lane state digest does not match indexed state")
  failIf (lane.lastUpdateDaaScore ≠ entry.lastUpdateDaaScore)
    (.laneInvariant "lane DAA score does not match indexed state")

end Lanes

/-- The in-memory indexer. -/
structure InMemoryIndexer where
  map : OrderedMap Bytes32 IndexedCovenant
  lanes : OrderedMap Bytes32 IndexedLane
  laneScanTags : OrderedMap Bytes32 Bytes32
  scanCursors : OrderedMap String ScanCursor
  observedSpends : OrderedMap KaspaOutpoint ObservedSpendRecord

def InMemoryIndexer.new : InMemoryIndexer :=
  ⟨.empty, .empty, .empty, .empty, .empty⟩

end RgkProtocol.IndexerState
