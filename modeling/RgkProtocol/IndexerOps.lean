import RgkProtocol.IndexerState
import RgkProtocol.LinkedPath

/-!
# Indexer operations and runs

The operations of the in-memory indexer as functions that return their result together with
the indexer they leave behind. `stepEntry_cases` says once what one call can do to one entry;
the history invariant of every reachable indexer follows from it.
-/
namespace RgkProtocol.IndexerOps
open ByteStrings Hashing CoreTypes Checked IndexerState LinkedPath

def debugBytes (b : Bytes32) : String :=
  "[" ++ String.intercalate ", " (b.toList.map (fun x => toString x.toNat)) ++ "]"

def debugOutpoint (o : KaspaOutpoint) : String :=
  "KaspaOutpoint \x7b transaction_id: " ++ debugBytes o.transactionId ++ ", index: " ++
    toString o.index.toNat ++ " \x7d"

def debugOptionOutpoint : Option KaspaOutpoint → String
  | none => "None"
  | some o => "Some(" ++ debugOutpoint o ++ ")"

/-- The arguments shared by the three spend calls. -/
structure SpendCall where
  covenant : Bytes32
  receiptId : Bytes32
  spent : KaspaOutpoint
  newOutpoint : KaspaOutpoint
  newState : RgkStateCommitment
  daaScore : UInt64
  deriving DecidableEq

section Entries
variable (H : List UInt8 → Bytes32)

/-- The entry after an accepted spend. -/
def entryAfterSpend (entry : IndexedCovenant) (call : SpendCall)
    (continuation : Option ContinuationProof) (policyMigration : Option PolicyMigrationProof) :
    IndexedCovenant :=
  { entry with
    openOutpoint := some call.newOutpoint
    latestState := call.newState
    lastUpdateDaaScore := call.daaScore
    acceptedReceipts := entry.acceptedReceipts ++ [call.receiptId]
    spendHistory := entry.spendHistory ++
      [⟨call.daaScore, call.spent, call.newOutpoint, entry.latestState.stateDigest,
        call.newState.stateDigest, entry.latestState.receiptPolicy, call.newState.receiptPolicy,
        call.receiptId, continuation, policyMigration, none⟩] }

def applySpendToEntry (entry : IndexedCovenant) (call : SpendCall)
    (continuation : Option ContinuationProof) (policyMigration : Option PolicyMigrationProof) :
    Except IndexerError IndexedCovenant := do
  whenSome continuation validateContinuationProof
  failIf (call.receiptId ∈ entry.acceptedReceipts) (.replay call.receiptId)
  failIf (entry.chainId ≠ call.newState.chainId)
    (.chainMismatch entry.chainId call.newState.chainId)
  failIf (entry.covenantId ≠ call.newState.covenantId)
    (.invariant "new state covenant id does not match indexed covenant")
  failIf (entry.latestState.assetId ≠ call.newState.assetId)
    (.invariant "new state asset id does not match indexed asset")
  failIf (entry.openOutpoint ≠ some call.spent)
    (.invariant ("expected open outpoint " ++ debugOptionOutpoint entry.openOutpoint ++ ", got " ++
      debugOutpoint call.spent))
  failIf (entry.latestState.stateDigest = call.newState.stateDigest)
    (.invariant "state did not advance")
  whenSome policyMigration (fun proof => do
    let continuation ← okOr continuation
      (.policyMigrationProofInvalid "policy migration proof requires continuation proof")
    validatePolicyMigrationProof H proof entry.latestState.receiptPolicy
      call.newState.receiptPolicy entry.latestState.stateDigest call.newState.stateDigest
      continuation.transitionDigest)
  .ok (entryAfterSpend entry call continuation policyMigration)

/-- Undo the newest spend. -/
def rollbackOne (entry : IndexedCovenant) : Except IndexerError Unit × IndexedCovenant :=
  match entry.spendHistory.getLast? with
  | none => (.error (.invariant "rollback spend history shorter than checked depth"), entry)
  | some last => (.ok (), { entry with
      spendHistory := entry.spendHistory.dropLast
      openOutpoint := some last.spent
      latestState := { entry.latestState with
        stateDigest := last.newStateDigest
        receiptPolicy := last.previousReceiptPolicy }
      acceptedReceipts := entry.acceptedReceipts.dropLast
      lastUpdateDaaScore := UInt64.ofNat (last.daaScore.toNat-1) })

def rollbackLoop : ℕ → IndexedCovenant → Except IndexerError Unit × IndexedCovenant
  | 0, entry => (.ok (), entry)
  | n+1, entry =>
      match rollbackOne entry with
      | (.ok _, entry) => rollbackLoop n entry
      | (.error e, entry) => (.error e, entry)

def rollbackEntry (depth : UInt64) (entry : IndexedCovenant) :
    Except IndexerError Unit × IndexedCovenant :=
  if depth.toNat > entry.spendHistory.length then
    (.error (.rollbackTooDeep depth entry.spendHistory.length), entry)
  else rollbackLoop depth.toNat entry

/-- Attach a certificate to the first spend with the given receipt. -/
def attachCertificate (receiptId : Bytes32) (certificate : AllocationAuditCertificateRecord) :
    List SpendEntry → List SpendEntry
  | [] => []
  | spend :: history =>
      if spend.receiptId = receiptId then
        { spend with allocationAuditCertificate := some certificate } :: history
      else spend :: attachCertificate receiptId certificate history

def recordCertificateOnEntry (receiptId : Bytes32) (certificate : AllocationAuditCertificateRecord)
    (entry : IndexedCovenant) : Except IndexerError Unit × IndexedCovenant :=
  match validateAllocationAuditCertificateRecord certificate with
  | .error e => (.error e, entry)
  | .ok _ =>
      match entry.spendHistory.find? (fun spend => spend.receiptId = receiptId) with
      | none => (.error (.spendReceiptNotIndexed entry.covenantId receiptId), entry)
      | some spend =>
          match spend.allocationAuditCertificate with
          | some existing =>
              if existing ≠ certificate then
                (.error (.allocationAuditCertificateInvalid
                  "attempted to replace an existing allocation-audit certificate"), entry)
              else (.ok (), entry)
          | none => (.ok (), { entry with
              spendHistory := attachCertificate receiptId certificate entry.spendHistory })

end Entries

section Operations
variable (H : List UInt8 → Bytes32)

/-- Run a function on the entry of a covenant and keep what it leaves there. -/
def withEntry (ix : InMemoryIndexer) (covenant : Bytes32)
    (f : IndexedCovenant → Except IndexerError Unit × IndexedCovenant) :
    Except IndexerError Unit × InMemoryIndexer :=
  match ix.map.get? covenant with
  | none => (.error (.notIndexed covenant), ix)
  | some entry => ((f entry).1, { ix with map := ix.map.insert covenant (f entry).2 })

def openCovenant (ix : InMemoryIndexer) (chain : KaspaChainId) (covenant lineage : Bytes32)
    (initial : RgkStateCommitment) (openOutpoint : KaspaOutpoint) (daaScore : UInt64) :
    Except IndexerError Unit × InMemoryIndexer :=
  if (ix.map.get? covenant).isSome then (.error (.alreadyIndexed covenant), ix)
  else if initial.chainId ≠ chain then (.error (.chainMismatch initial.chainId chain), ix)
  else if initial.covenantId ≠ covenant then
    (.error (.lineageMismatch initial.covenantId covenant), ix)
  else
    let entry := IndexedCovenant.opened covenant chain lineage initial openOutpoint daaScore
    (.ok (), { ix with map := ix.map.insert covenant entry })

/-- The body of the three spend calls: they differ in the proofs they pass on. -/
def applySpendWith (ix : InMemoryIndexer) (call : SpendCall)
    (continuation : Option ContinuationProof) (policyMigration : Option PolicyMigrationProof) :
    Except IndexerError Unit × InMemoryIndexer :=
  withEntry ix call.covenant (fun entry =>
    match applySpendToEntry H entry call continuation policyMigration with
    | .ok entry => (.ok (), entry)
    | .error e => (.error e, entry))

def applySpend (ix : InMemoryIndexer) (call : SpendCall) := applySpendWith H ix call none none

def applySpendWithContinuation (ix : InMemoryIndexer) (call : SpendCall)
    (continuation : ContinuationProof) := applySpendWith H ix call (some continuation) none

def applySpendWithContinuationAndPolicyMigration (ix : InMemoryIndexer) (call : SpendCall)
    (continuation : ContinuationProof) (policyMigration : PolicyMigrationProof) :=
  applySpendWith H ix call (some continuation) (some policyMigration)

def rollback (ix : InMemoryIndexer) (covenant : Bytes32) (depth : UInt64) :
    Except IndexerError Unit × InMemoryIndexer := withEntry ix covenant (rollbackEntry depth)

def recordAllocationAuditCertificate (ix : InMemoryIndexer) (covenant receiptId : Bytes32)
    (certificate : AllocationAuditCertificateRecord) : Except IndexerError Unit × InMemoryIndexer :=
  withEntry ix covenant (recordCertificateOnEntry receiptId certificate)

def registerLane (ix : InMemoryIndexer) (lane : IndexedLane) :
    Except IndexerError Unit × InMemoryIndexer :=
  match ix.map.get? lane.covenantId with
  | none => (.error (.notIndexed lane.covenantId), ix)
  | some entry =>
      match validateIndexedLane entry lane with
      | .error e => (.error e, ix)
      | .ok _ =>
          let cleared :=
            match (ix.lanes.get? lane.laneId).bind IndexedLane.scanTag with
            | some tag => ix.laneScanTags.erase tag
            | none => ix.laneScanTags
          let tags :=
            match lane.scanTag with
            | some tag => cleared.insert tag lane.laneId
            | none => cleared
          (.ok (), { ix with lanes := ix.lanes.insert lane.laneId lane, laneScanTags := tags })

def validateScanCursorName (name : String) : Except IndexerError Unit := do
  failIf (name = "") (.invariant "scan cursor name must not be empty")
  failIf (name.utf8ByteSize > 128) (.invariant "scan cursor name must be at most 128 bytes")

def storeScanCursor (ix : InMemoryIndexer) (name : String) (cursor : ScanCursor) :
    Except IndexerError Unit × InMemoryIndexer :=
  match validateScanCursorName name with
  | .error e => (.error e, ix)
  | .ok _ => (.ok (), { ix with scanCursors := ix.scanCursors.insert name cursor })

def clearScanCursor (ix : InMemoryIndexer) (name : String) :
    Except IndexerError Unit × InMemoryIndexer :=
  match validateScanCursorName name with
  | .error e => (.error e, ix)
  | .ok _ => (.ok (), { ix with scanCursors := ix.scanCursors.erase name })

def recordObservedSpend (ix : InMemoryIndexer) (record : ObservedSpendRecord) :
    Except IndexerError Unit × InMemoryIndexer :=
  (.ok (), { ix with observedSpends := ix.observedSpends.insert record.spent record })

end Operations

section Queries

def InMemoryIndexer.lookup (ix : InMemoryIndexer) (covenant : Bytes32) : Option IndexedCovenant :=
  ix.map.get? covenant

def InMemoryIndexer.latestState (ix : InMemoryIndexer) (covenant : Bytes32) :
    Option RgkStateCommitment := (ix.map.get? covenant).map IndexedCovenant.latestState

def InMemoryIndexer.openOutpoint (ix : InMemoryIndexer) (covenant : Bytes32) :
    Option KaspaOutpoint := (ix.map.get? covenant).bind IndexedCovenant.openOutpoint

end Queries

/-- One call on the indexer. -/
inductive IndexerOp where
  | openCovenant (chain : KaspaChainId) (covenant lineage : Bytes32) (initial : RgkStateCommitment)
      (openOutpoint : KaspaOutpoint) (daaScore : UInt64)
  | applySpend (call : SpendCall)
  | applySpendWithContinuation (call : SpendCall) (continuation : ContinuationProof)
  | applySpendWithContinuationAndPolicyMigration (call : SpendCall)
      (continuation : ContinuationProof) (policyMigration : PolicyMigrationProof)
  | rollback (covenant : Bytes32) (depth : UInt64)
  | recordAllocationAuditCertificate (covenant receiptId : Bytes32)
      (certificate : AllocationAuditCertificateRecord)
  | registerLane (lane : IndexedLane)
  | storeScanCursor (name : String) (cursor : ScanCursor)
  | clearScanCursor (name : String)
  | recordObservedSpend (record : ObservedSpendRecord)

section Runs
variable (H : List UInt8 → Bytes32)

def IndexerOp.apply (ix : InMemoryIndexer) : IndexerOp → Except IndexerError Unit × InMemoryIndexer
  | .openCovenant chain covenant lineage initial openOutpoint daaScore =>
      IndexerOps.openCovenant ix chain covenant lineage initial openOutpoint daaScore
  | .applySpend call => IndexerOps.applySpend H ix call
  | .applySpendWithContinuation call continuation =>
      IndexerOps.applySpendWithContinuation H ix call continuation
  | .applySpendWithContinuationAndPolicyMigration call continuation policyMigration =>
      IndexerOps.applySpendWithContinuationAndPolicyMigration H ix call continuation policyMigration
  | .rollback covenant depth => IndexerOps.rollback ix covenant depth
  | .recordAllocationAuditCertificate covenant receiptId certificate =>
      IndexerOps.recordAllocationAuditCertificate ix covenant receiptId certificate
  | .registerLane lane => IndexerOps.registerLane ix lane
  | .storeScanCursor name cursor => IndexerOps.storeScanCursor ix name cursor
  | .clearScanCursor name => IndexerOps.clearScanCursor ix name
  | .recordObservedSpend record => IndexerOps.recordObservedSpend ix record

def step (ix : InMemoryIndexer) (op : IndexerOp) : InMemoryIndexer := (IndexerOp.apply H ix op).2

/-- The indexer after a sequence of calls on a new one, failed calls included. -/
def runOps (ops : List IndexerOp) : InMemoryIndexer := ops.foldl (step H) InMemoryIndexer.new

/-- The call and the proofs of a spend operation. -/
def IndexerOp.spendArgs : IndexerOp →
    Option (SpendCall × Option ContinuationProof × Option PolicyMigrationProof)
  | .applySpend call => some (call, none, none)
  | .applySpendWithContinuation call continuation => some (call, some continuation, none)
  | .applySpendWithContinuationAndPolicyMigration call continuation policyMigration =>
      some (call, some continuation, some policyMigration)
  | _ => none

end Runs
end RgkProtocol.IndexerOps
