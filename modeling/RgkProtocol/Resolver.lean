import RgkProtocol.IndexerHistory
import RgkProtocol.CanonicalEncoding

/-!
# The resolver's verdict on a covenant

`resolveByCovenant` over an arbitrary chain backend. The function first judges the newest
indexed spend by what the backend reports about the outpoint it consumed; only when the
backend reports no spend there does it go on to the open outpoint.
-/
namespace RgkProtocol.Resolver
open ByteStrings Hashing CoreTypes Checked IndexerState IndexerOps

section Backend

def debugChain : KaspaChainId → String
  | .kaspaMainnet => "KaspaMainnet"
  | .kaspaTestnet => "KaspaTestnet"
  | .kaspaSimnet => "KaspaSimnet"
  | .kaspaDevnet => "KaspaDevnet"
  | .kaspaLocalToccata => "KaspaLocalToccata"

inductive KaspaNetworkError where
  | nodeUnavailable (reason : String)
  | wrongNetwork (node configured : KaspaChainId)
  | unsupportedToccataFeature (feature : String)
  | badRpc (reason : String)
  | scriptPublicKeyTooLong (len max : ℕ)
  | rpcError (code : ℤ) (message : String)
  | timeout (ms : UInt64)
  | notFound
  | unconfirmed
  | confirmed (depth : UInt64)
  | pruned
  | reorgRisk (depth : UInt64)
  | budgetExceeded (reason : String)
  | invariant (reason : String)
  deriving DecidableEq

def KaspaNetworkError.display : KaspaNetworkError → String
  | .nodeUnavailable reason => s!"kaspa node unreachable: {reason}"
  | .wrongNetwork node configured => "node is on chain " ++ debugChain node ++
      " but the resolver is configured for " ++ debugChain configured
  | .unsupportedToccataFeature feature => s!"feature not supported by this node build: {feature}"
  | .badRpc reason => s!"malformed JSON-RPC response: {reason}"
  | .scriptPublicKeyTooLong len max => s!"script public key too long: len={len}, max={max}"
  | .rpcError code message => s!"RPC method returned an error: code={code} {message}"
  | .timeout ms => s!"RPC timeout after {ms} ms"
  | .notFound => "utxo/outpoint not found"
  | .unconfirmed => "transaction is unconfirmed (mempool only)"
  | .confirmed depth => s!"transaction is confirmed at depth {depth}"
  | .pruned => "transaction has been pruned (reorg or archival boundary)"
  | .reorgRisk depth => s!"reorg detected at depth {depth}: tip moved under the spend"
  | .budgetExceeded reason => s!"resolver budget exceeded: {reason}"
  | .invariant reason => s!"internal invariant violated: {reason}"

inductive ResolverClassify where
  | notFound
  | unconfirmed
  | confirmed
  | pruned
  | reorgRisk
  | nodeDown
  | wrongNetwork
  | unsupportedFeature
  | rpcFailure
  | budgetExceeded
  | invariant
  deriving DecidableEq

def KaspaNetworkError.classify : KaspaNetworkError → ResolverClassify
  | .nodeUnavailable _ => .nodeDown
  | .wrongNetwork _ _ => .wrongNetwork
  | .unsupportedToccataFeature _ => .unsupportedFeature
  | .badRpc _ => .rpcFailure
  | .rpcError _ _ => .rpcFailure
  | .timeout _ => .rpcFailure
  | .notFound => .notFound
  | .unconfirmed => .unconfirmed
  | .confirmed _ => .confirmed
  | .pruned => .pruned
  | .reorgRisk _ => .reorgRisk
  | .budgetExceeded _ => .budgetExceeded
  | .invariant _ => .invariant
  | .scriptPublicKeyTooLong _ _ => .invariant

structure SpendingInfo where
  txid : Bytes32
  blockDaaScore : Option UInt64
  deriving DecidableEq

structure KaspaUtxo where
  spending : Option SpendingInfo
  deriving DecidableEq

/-- The queries that the resolver makes, as arbitrary functions of their arguments. -/
structure KaspaChainBackend where
  networkId : Except KaspaNetworkError KaspaChainId
  getUtxo : KaspaOutpoint → Except KaspaNetworkError (Option KaspaUtxo)
  confirmationDepth : Bytes32 → Except KaspaNetworkError (Option UInt64)

end Backend

inductive ReceiptError where
  | chainMismatch (receipt verifier : KaspaChainId)
  | covenantMismatch (covenant actual : Bytes32)
  | assetMismatch (expected actual : Bytes32)
  | oldStateMismatch (expected actual : Bytes32)
  | policyRejectsMode (policy : ReceiptPolicy) (mode : ProofMode)
  | decodeFailure (reason : CanonicalEncoding.DecodeError)
  | structural (reason : String)
  | replay (receiptId : Bytes32)
  | missingTransitionDigest
  | missingContinuationCommitment
  | missingReplayNonce
  deriving DecidableEq

inductive ResolverState where
  | opened (covenant : Bytes32) (outpoint : KaspaOutpoint) (state : RgkStateCommitment)
  | nativeTransitionedValid (covenant : Bytes32) (spentOutpoint newOutpoint : KaspaOutpoint)
      (receiptId : Bytes32) (newState : RgkStateCommitment)
      (allocationAuditCertificate : Option AllocationAuditCertificateRecord)
      (confirmationDepth : UInt64)
  | nativeTransitionedInvalid (covenant : Bytes32) (reason : ReceiptError)
  | unconfirmed (covenant spendingTxid : Bytes32)
  | reorgRisk (covenant : Bytes32) (daaScore : UInt64)
  | competingBranch (covenant : Bytes32) (spentOutpoint : KaspaOutpoint)
      (indexedSpendingTxid observedSpendingTxid : Bytes32) (observedDaaScore : Option UInt64)
  | policyMigrationRequired (covenant : Bytes32) (currentPolicy requestedPolicy : ReceiptPolicy)
  | replayRejected (covenant receiptId : Bytes32)
  | unknown (covenant : Bytes32)
  | nodeDown (covenant : Bytes32) (reason : String)
  deriving DecidableEq

structure RgkResolver where
  backend : KaspaChainBackend
  indexer : InMemoryIndexer
  verifierChain : KaspaChainId
  reorgSafetyDepth : UInt64

def RgkResolver.new (backend : KaspaChainBackend) (indexer : InMemoryIndexer)
    (verifierChain : KaspaChainId) : RgkResolver := ⟨backend, indexer, verifierChain, 10⟩

def hexDigit (n : ℕ) : Char := "0123456789abcdef".toList.getD n '0'

def toHex (b : Bytes32) : String :=
  String.ofList (b.toList.flatMap (fun x => [hexDigit (x.toNat/16), hexDigit (x.toNat % 16)]))

section Checks

def validateIndexedContinuation (spend : SpendEntry) (observedSpendingTxid : Bytes32) :
    Except ReceiptError Unit := do
  let proof ← okOr spend.continuation (.structural "missing continuation proof in spend history")
  failIf (proof.commitment = Bytes.zero) (.structural "missing phase-1 continuation commitment")
  failIf (proof.shapeRoot = Bytes.zero) (.structural "missing continuation shape root")
  failIf (proof.transitionDigest = Bytes.zero) (.structural "missing phase-2 transition digest")
  failIf (spend.created.transactionId ≠ observedSpendingTxid)
    (.structural ("continuation outpoint txid does not match observed spend txid: created 0x" ++
      toHex spend.created.transactionId ++ ", observed 0x" ++ toHex observedSpendingTxid))

def validateIndexedPolicyMigration (H : List UInt8 → Bytes32) (spend : SpendEntry)
    (latestState : RgkStateCommitment) : Except ReceiptError Unit := do
  let proof ← okOr spend.policyMigration
    (.structural "missing policy migration proof in spend history")
  let continuation ← okOr spend.continuation
    (.structural "policy migration proof requires continuation proof")
  failIf (proof.previousPolicy ≠ spend.previousReceiptPolicy)
    (.structural "policy migration previous policy does not match spend history")
  failIf (proof.newPolicy ≠ spend.newReceiptPolicy)
    (.structural "policy migration new policy does not match spend history")
  failIf (proof.newPolicy ≠ latestState.receiptPolicy)
    (.structural "policy migration new policy does not match latest state")
  failIf (proof.previousStateDigest ≠ spend.newStateDigest)
    (.structural "policy migration previous state digest does not match spend history")
  failIf (proof.newStateDigest ≠ spend.resultingStateDigest ∨
      proof.newStateDigest ≠ latestState.stateDigest)
    (.structural "policy migration new state digest does not match latest state")
  failIf (proof.transitionDigest ≠ continuation.transitionDigest)
    (.structural "policy migration transition digest does not match continuation proof")
  failIf (proof.authorizationCommitment = Bytes.zero)
    (.structural "policy migration authorisation commitment missing")
  let expected := policyMigrationCommitment H proof.previousPolicy proof.newPolicy
    proof.previousStateDigest proof.newStateDigest proof.transitionDigest
    proof.authorizationCommitment
  failIf (proof.migrationCommitment ≠ expected)
    (.structural "policy migration commitment does not match proof fields")

/-- The reported depth, zero when the backend has none. -/
def KaspaChainBackend.depthOf (backend : KaspaChainBackend) (txid : Bytes32) : UInt64 :=
  match backend.confirmationDepth txid with
  | .ok (some depth) => depth
  | _ => 0

/-- The spend that the backend reports for an indexed outpoint, or the verdict that ends the
resolution. -/
def reportedSpend (backend : KaspaChainBackend) (covenant : Bytes32) (outpoint : KaspaOutpoint) :
    Except ResolverState (Option SpendingInfo) :=
  match backend.getUtxo outpoint with
  | .ok utxo => .ok (utxo.bind KaspaUtxo.spending)
  | .error e =>
      match e.classify with
      | .nodeDown => .error (.nodeDown covenant e.display)
      | .rpcFailure => .error (.nodeDown covenant e.display)
      | .pruned => .error (.unknown covenant)
      | _ => .ok none

end Checks

section Resolution
variable (H : List UInt8 → Bytes32)

/-- The verdict on the newest indexed spend, once the backend reports its outpoint as spent. -/
def judgeIndexedSpend (r : RgkResolver) (covenant : Bytes32) (indexed : IndexedCovenant)
    (lastSpend : SpendEntry) (sp : SpendingInfo) : ResolverState :=
  let depth := r.backend.depthOf sp.txid
  if depth = 0 then .unconfirmed covenant sp.txid
  else if depth < r.reorgSafetyDepth then .reorgRisk covenant (sp.blockDaaScore.getD 0)
  else if lastSpend.created.transactionId ≠ sp.txid then
    .competingBranch covenant lastSpend.spent lastSpend.created.transactionId sp.txid
      sp.blockDaaScore
  else
    match validateIndexedContinuation lastSpend sp.txid with
    | .error reason => .nativeTransitionedInvalid covenant reason
    | .ok _ =>
        let valid : ResolverState :=
          .nativeTransitionedValid covenant lastSpend.spent lastSpend.created lastSpend.receiptId
            indexed.latestState lastSpend.allocationAuditCertificate depth
        if lastSpend.previousReceiptPolicy ≠ indexed.latestState.receiptPolicy then
          if lastSpend.policyMigration = none then
            .policyMigrationRequired covenant lastSpend.previousReceiptPolicy
              indexed.latestState.receiptPolicy
          else
            match validateIndexedPolicyMigration H lastSpend indexed.latestState with
            | .error reason => .nativeTransitionedInvalid covenant reason
            | .ok _ => valid
        else if lastSpend.policyMigration ≠ none then
          .nativeTransitionedInvalid covenant
            (.structural "policy migration proof supplied for unchanged policy")
        else valid

/-- The verdict on the open outpoint. -/
def judgeOpenOutpoint (r : RgkResolver) (covenant : Bytes32) (indexed : IndexedCovenant)
    (openOutpoint : KaspaOutpoint) : ResolverState :=
  match r.backend.getUtxo openOutpoint with
  | .ok none => .unknown covenant
  | .error e =>
      match e.classify with
      | .nodeDown => .nodeDown covenant e.display
      | .rpcFailure => .nodeDown covenant e.display
      | _ => .unknown covenant
  | .ok (some utxo) =>
      match utxo.spending with
      | none => .opened covenant openOutpoint indexed.latestState
      | some sp =>
          let depth := r.backend.depthOf sp.txid
          if depth = 0 then .unconfirmed covenant sp.txid
          else if depth < r.reorgSafetyDepth then .reorgRisk covenant (sp.blockDaaScore.getD 0)
          else
            match InMemoryIndexer.latestState r.indexer covenant with
            | none => .unknown covenant
            | some latest =>
                let lastSpend := (InMemoryIndexer.lookup r.indexer covenant).bind
                  (fun e => e.spendHistory.getLast?)
                match lastSpend with
                | none => .nativeTransitionedInvalid covenant
                    (.structural "no receipt in spend history")
                | some last =>
                    match InMemoryIndexer.openOutpoint r.indexer covenant with
                    | none => .nativeTransitionedInvalid covenant
                        (.structural "no new outpoint after spend")
                    | some newOut => .nativeTransitionedValid covenant openOutpoint newOut
                        last.receiptId latest last.allocationAuditCertificate depth

def resolveByCovenant (r : RgkResolver) (covenant : Bytes32) : ResolverState :=
  match r.backend.networkId with
  | .error e => .nodeDown covenant e.display
  | .ok net =>
      if net ≠ r.verifierChain then
        .nodeDown covenant ("backend on " ++ debugChain net ++ ", resolver expects " ++
          debugChain r.verifierChain)
      else
        match InMemoryIndexer.lookup r.indexer covenant with
        | none => .unknown covenant
        | some indexed =>
            match indexed.openOutpoint with
            | none => .unknown covenant
            | some openOutpoint =>
                match indexed.spendHistory.getLast? with
                | none => judgeOpenOutpoint r covenant indexed openOutpoint
                | some lastSpend =>
                    match reportedSpend r.backend covenant lastSpend.spent with
                    | .error verdict => verdict
                    | .ok none => judgeOpenOutpoint r covenant indexed openOutpoint
                    | .ok (some sp) => judgeIndexedSpend H r covenant indexed lastSpend sp

end Resolution
end RgkProtocol.Resolver
