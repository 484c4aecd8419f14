import RgkProtocol.IndexerHistory
import RgkProtocol.Simulation

/-!
# Rebuilding an indexer from a checkpoint

`rebuild_from` opens the checkpoint's covenant or compares it with the entry that exists, and
then replays the planned spends, each after the evidence for it has been checked. It stops at
the first failure and keeps what it has replayed so far. Whatever a rebuild does to the indexer,
a sequence of plain calls does too.
-/
namespace RgkProtocol.IndexerRebuild
open ByteStrings Hashing CoreTypes Checked IndexerState IndexerOps IndexerHistory Simulation

structure RebuildCheckpoint where
  chainId : KaspaChainId
  covenantId : Bytes32
  lineageId : Bytes32
  initialState : RgkStateCommitment
  openOutpoint : KaspaOutpoint
  daaScore : UInt64
  deriving DecidableEq

structure RebuildSpend where
  receiptId : Bytes32
  spentOutpoint : KaspaOutpoint
  createdOutpoint : KaspaOutpoint
  newState : RgkStateCommitment
  expectedSpendingTxid : Bytes32
  minConfirmations : UInt64
  deriving DecidableEq

structure RebuildPlan where
  checkpoint : RebuildCheckpoint
  spends : List RebuildSpend
  deriving DecidableEq

structure RebuildSpendEvidence where
  spendingTxid : Bytes32
  blockDaaScore : Option UInt64
  confirmationDepth : Option UInt64
  deriving DecidableEq

/-- A live source may answer a repeated question differently, so an answer also depends on the
position of the question in the rebuild. -/
structure RebuildSource where
  chainId : Except IndexerError KaspaChainId
  spendEvidence : ℕ → KaspaOutpoint → Except IndexerError (Option RebuildSpendEvidence)

structure RebuildSummary where
  opened : Bool
  appliedSpends : ℕ
  skippedReplays : ℕ
  finalOpenOutpoint : KaspaOutpoint
  finalDaaScore : UInt64
  deriving DecidableEq

section Checks

def validateRebuildCheckpointShape (checkpoint : RebuildCheckpoint) : Except IndexerError Unit := do
  failIf (checkpoint.initialState.chainId ≠ checkpoint.chainId)
    (.chainMismatch checkpoint.initialState.chainId checkpoint.chainId)
  failIf (checkpoint.initialState.covenantId ≠ checkpoint.covenantId)
    (.invariant "rebuild checkpoint state covenant id does not match checkpoint covenant id")

def validateExistingCheckpoint (entry : IndexedCovenant) (checkpoint : RebuildCheckpoint) :
    Except IndexerError Unit := do
  failIf (entry.chainId ≠ checkpoint.chainId) (.chainMismatch entry.chainId checkpoint.chainId)
  failIf (entry.lineageId ≠ checkpoint.lineageId)
    (.lineageMismatch entry.lineageId checkpoint.lineageId)
  failIf (entry.latestState.assetId ≠ checkpoint.initialState.assetId)
    (.invariant "existing covenant belongs to a different RGK asset")
  failIf (entry.latestState.receiptPolicy ≠ checkpoint.initialState.receiptPolicy)
    (.invariant "existing covenant uses a different receipt policy")
  if entry.acceptedReceipts = [] then do
    failIf (entry.openOutpoint ≠ some checkpoint.openOutpoint)
      (.invariant "existing covenant open outpoint does not match rebuild checkpoint")
    failIf (entry.latestState ≠ checkpoint.initialState)
      (.invariant "existing covenant state does not match rebuild checkpoint")
    failIf (entry.lastUpdateDaaScore ≠ checkpoint.daaScore)
      (.invariant "existing covenant DAA score does not match rebuild checkpoint")
  else do
    let firstSpend ← okOr entry.spendHistory.head?
      (.invariant "existing covenant has accepted receipts but no spend history")
    failIf (firstSpend.spent ≠ checkpoint.openOutpoint)
      (.invariant "existing covenant history does not descend from rebuild checkpoint")
    failIf (firstSpend.newStateDigest ≠ checkpoint.initialState.stateDigest)
      (.invariant "existing covenant history has a different checkpoint state digest")

def validateRebuildSpendShape (checkpoint : RebuildCheckpoint) (spend : RebuildSpend) :
    Except IndexerError Unit := do
  failIf (spend.newState.chainId ≠ checkpoint.chainId)
    (.chainMismatch spend.newState.chainId checkpoint.chainId)
  failIf (spend.newState.covenantId ≠ checkpoint.covenantId)
    (.invariant "rebuild spend state covenant id does not match checkpoint covenant id")
  failIf (spend.newState.assetId ≠ checkpoint.initialState.assetId)
    (.invariant "rebuild spend changes RGK asset id")
  failIf (spend.newState.receiptPolicy ≠ checkpoint.initialState.receiptPolicy)
    (.invariant "rebuild spend changes receipt policy")

/-- The checks on one planned spend and its evidence; the result is the DAA score to apply it
with. -/
def rebuildSpendDaaScore (source : RebuildSource) (checkpoint : RebuildCheckpoint) (i : ℕ)
    (spend : RebuildSpend) : Except IndexerError UInt64 := do
  validateRebuildSpendShape checkpoint spend
  let answer ← source.spendEvidence i spend.spentOutpoint
  let evidence ← okOr answer (.rebuildSpendMissing spend.spentOutpoint)
  failIf (evidence.spendingTxid ≠ spend.expectedSpendingTxid)
    (.rebuildTxMismatch spend.spentOutpoint spend.expectedSpendingTxid evidence.spendingTxid)
  failIf (evidence.confirmationDepth.getD 0 < spend.minConfirmations)
    (.rebuildInsufficientConfirmations evidence.spendingTxid spend.minConfirmations
      evidence.confirmationDepth)
  okOr evidence.blockDaaScore (.rebuildMissingDaaScore evidence.spendingTxid)

end Checks

section Rebuild
variable (H : List UInt8 → Bytes32)

def InMemoryIndexer.hasReplay (ix : InMemoryIndexer) (covenant receiptId : Bytes32) : Bool :=
  match ix.map.get? covenant with
  | some e => decide (receiptId ∈ e.acceptedReceipts)
  | none => false

/-- Open the covenant of the checkpoint, or compare it with the entry that exists; the result
says whether it was opened. -/
def rebuildOpen (ix : InMemoryIndexer) (checkpoint : RebuildCheckpoint) :
    Except IndexerError Bool × InMemoryIndexer :=
  match ix.map.get? checkpoint.covenantId with
  | some entry =>
      match validateExistingCheckpoint entry checkpoint with
      | .error e => (.error e, ix)
      | .ok _ => (.ok false, ix)
  | none =>
      match openCovenant ix checkpoint.chainId checkpoint.covenantId checkpoint.lineageId
        checkpoint.initialState checkpoint.openOutpoint checkpoint.daaScore with
      | (.error e, ix) => (.error e, ix)
      | (.ok _, ix) => (.ok true, ix)

def RebuildSpend.call (covenant : Bytes32) (spend : RebuildSpend) (daaScore : UInt64) : SpendCall :=
  ⟨covenant, spend.receiptId, spend.spentOutpoint, spend.createdOutpoint, spend.newState, daaScore⟩

/-- The loop over the planned spends with its counters of applied and skipped ones. -/
def rebuildLoop (source : RebuildSource) (checkpoint : RebuildCheckpoint) :
    ℕ → ℕ × ℕ → List RebuildSpend → InMemoryIndexer →
      Except IndexerError (ℕ × ℕ) × InMemoryIndexer
  | _, counts, [], ix => (.ok counts, ix)
  | i, (applied, skipped), spend :: spends, ix =>
      match rebuildSpendDaaScore source checkpoint i spend with
      | .error e => (.error e, ix)
      | .ok daaScore =>
          if InMemoryIndexer.hasReplay ix checkpoint.covenantId spend.receiptId then
            rebuildLoop source checkpoint (i+1) (applied, skipped+1) spends ix
          else
            match applySpend H ix (RebuildSpend.call checkpoint.covenantId spend daaScore) with
            | (.error e, ix) => (.error e, ix)
            | (.ok _, ix) => rebuildLoop source checkpoint (i+1) (applied+1, skipped) spends ix

def rebuildSummary (ix : InMemoryIndexer) (covenant : Bytes32) (opened : Bool) (counts : ℕ × ℕ) :
    Except IndexerError RebuildSummary := do
  let finalEntry ← okOr (InMemoryIndexer.lookup ix covenant) (.notIndexed covenant)
  let finalOpenOutpoint ← okOr finalEntry.openOutpoint
    (.invariant "rebuilt covenant has no open outpoint")
  .ok ⟨opened, counts.1, counts.2, finalOpenOutpoint, finalEntry.lastUpdateDaaScore⟩

def validateRebuildSource (source : RebuildSource) (checkpoint : RebuildCheckpoint) :
    Except IndexerError Unit := do
  let sourceChain ← source.chainId
  failIf (sourceChain ≠ checkpoint.chainId) (.chainMismatch sourceChain checkpoint.chainId)
  validateRebuildCheckpointShape checkpoint

def rebuildFrom (ix : InMemoryIndexer) (source : RebuildSource) (plan : RebuildPlan) :
    Except IndexerError RebuildSummary × InMemoryIndexer :=
  match validateRebuildSource source plan.checkpoint with
  | .error e => (.error e, ix)
  | .ok _ =>
      match rebuildOpen ix plan.checkpoint with
      | (.error e, ix) => (.error e, ix)
      | (.ok opened, ix) =>
          match rebuildLoop H source plan.checkpoint 0 (0, 0) plan.spends ix with
          | (.error e, ix) => (.error e, ix)
          | (.ok counts, ix) => (rebuildSummary ix plan.checkpoint.covenantId opened counts, ix)

end Rebuild

/-- One call on the indexer, rebuilds included. -/
inductive IndexerCall where
  | plain (op : IndexerOp)
  | rebuildFrom (source : RebuildSource) (plan : RebuildPlan)

section Runs
variable (H : List UInt8 → Bytes32)

/-- A call's answer, with the summary when it is a rebuild, and the indexer after it. -/
def IndexerCall.apply (ix : InMemoryIndexer) :
    IndexerCall → Except IndexerError (Option RebuildSummary) × InMemoryIndexer
  | .plain op => ((IndexerOp.apply H ix op).1.map (fun _ => none), (IndexerOp.apply H ix op).2)
  | .rebuildFrom source plan =>
      ((IndexerRebuild.rebuildFrom H ix source plan).1.map some,
        (IndexerRebuild.rebuildFrom H ix source plan).2)

/-- The indexer after a sequence of calls, failed calls included. -/
def callsFrom (ix : InMemoryIndexer) (calls : List IndexerCall) : InMemoryIndexer :=
  stateAfter (IndexerCall.apply H) ix calls

def runCalls (calls : List IndexerCall) : InMemoryIndexer := callsFrom H InMemoryIndexer.new calls

/-- What a sequence of calls answers, call by call. -/
def answers (ix : InMemoryIndexer) (calls : List IndexerCall) :
    List (Except IndexerError (Option RebuildSummary)) := answersOf (IndexerCall.apply H) ix calls

/-- The second indexer is what a sequence of plain calls leaves of the first. -/
def OpsReach (ix ix' : InMemoryIndexer) : Prop :=
  ∃ ops : List IndexerOp, ix' = ops.foldl (step H) ix

variable {H}

lemma OpsReach.refl (ix : InMemoryIndexer) : OpsReach H ix ix := ⟨[], rfl⟩

lemma OpsReach.trans {ix ix' ix'' : InMemoryIndexer} (h : OpsReach H ix ix')
    (h' : OpsReach H ix' ix'') : OpsReach H ix ix'' := by
  obtain ⟨ops, rfl⟩ := h
  obtain ⟨ops', rfl⟩ := h'
  exact ⟨ops ++ ops', by rw [List.foldl_append]⟩

lemma opsReach_step (ix : InMemoryIndexer) (op : IndexerOp) : OpsReach H ix (step H ix op) :=
  ⟨[op], rfl⟩

lemma opsReach_rebuildOpen (ix : InMemoryIndexer) (checkpoint : RebuildCheckpoint) :
    OpsReach H ix (rebuildOpen ix checkpoint).2 := by
  unfold rebuildOpen
  split
  · split <;> exact .refl ix
  · have hreach := opsReach_step (H := H) ix (.openCovenant checkpoint.chainId checkpoint.covenantId
      checkpoint.lineageId checkpoint.initialState checkpoint.openOutpoint checkpoint.daaScore)
    simp only [step, IndexerOp.apply] at hreach
    split
    · rename_i heq
      rwa [heq] at hreach
    · rename_i heq
      rwa [heq] at hreach

lemma opsReach_rebuildLoop (source : RebuildSource) (checkpoint : RebuildCheckpoint) (i : ℕ)
    (counts : ℕ × ℕ) (spends : List RebuildSpend) (ix : InMemoryIndexer) :
    OpsReach H ix (rebuildLoop H source checkpoint i counts spends ix).2 := by
  induction spends generalizing i counts ix with
  | nil =>
    rw [rebuildLoop]
    exact .refl ix
  | cons spend spends ih =>
    obtain ⟨applied, skipped⟩ := counts
    rw [rebuildLoop]
    split
    · exact .refl ix
    · rename_i daaScore hdaa
      split_ifs
      · exact ih _ _ ix
      · have hreach := opsReach_step (H := H) ix
          (.applySpend (RebuildSpend.call checkpoint.covenantId spend daaScore))
        simp only [step, IndexerOp.apply] at hreach
        split
        · rename_i heq
          rwa [heq] at hreach
        · rename_i heq
          rw [heq] at hreach
          exact hreach.trans (ih _ _ _)

theorem opsReach_rebuildFrom (ix : InMemoryIndexer) (source : RebuildSource) (plan : RebuildPlan) :
    OpsReach H ix (rebuildFrom H ix source plan).2 := by
  unfold rebuildFrom
  split
  · exact .refl ix
  · have hopen := opsReach_rebuildOpen (H := H) ix plan.checkpoint
    split
    · rename_i heq
      rwa [heq] at hopen
    · rename_i opened ix' heq
      rw [heq] at hopen
      have hloop := opsReach_rebuildLoop (H := H) source plan.checkpoint 0 (0, 0) plan.spends ix'
      split
      · rename_i heq'
        rw [heq'] at hloop
        exact hopen.trans hloop
      · rename_i heq'
        rw [heq'] at hloop
        exact hopen.trans hloop

lemma opsReach_callsFrom (ix : InMemoryIndexer) (calls : List IndexerCall) :
    OpsReach H ix (callsFrom H ix calls) := by
  induction calls generalizing ix with
  | nil => exact .refl ix
  | cons call calls ih =>
    have hcall : OpsReach H ix (IndexerCall.apply H ix call).2 := by
      cases call with
      | plain op => exact opsReach_step ix op
      | rebuildFrom source plan => exact opsReach_rebuildFrom ix source plan
    exact hcall.trans (ih _)

/-- Every indexer reachable with rebuilds is reachable without them. -/
theorem exists_runOps_eq (calls : List IndexerCall) : ∃ ops, runCalls H calls = runOps H ops :=
  opsReach_callsFrom InMemoryIndexer.new calls

end Runs
end RgkProtocol.IndexerRebuild
