import RgkProtocol.ScanStore
import RgkProtocol.FaultyCalls

/-!
# The scan service

A tick loads the cursor, asks the backend for the blocks behind it, writes every observed spend of
the batch and moves the cursor last. A storage error or a crash can end it at any of its calls.
`tick_eq` splits a tick into a plan, which only reads, and the writes of that plan in order; what
the store holds after a cut-off tick follows from that.
-/
namespace RgkProtocol.ScanService
open ByteStrings Hashing CoreTypes Checked IndexerState IndexerOps ScanStore FaultyCalls Simulation

structure ScanBatch where
  removedChainBlockHashes : List Bytes32
  addedChainBlockHashes : List Bytes32
  lastAddedDaaScore : Option UInt64
  observedSpends : ℕ
  observedSpendRecords : List ObservedSpendRecord
  deriving DecidableEq

inductive SyncError where
  | cursorChainMismatch (expected actual : KaspaChainId)
  | reorg (removedChainBlockHashes : List Bytes32)
  | missingAddedDaaScore
  | observedSpendRecordMismatch (observedSpends records : ℕ)
  | indexer (e : IndexerError)
  | chain (reason : String)
  deriving DecidableEq

structure ScanBackend where
  currentScanCursor : KaspaChainId → Except SyncError ScanCursor
  scanFromCursor : ScanCursor → Option UInt64 → Except SyncError ScanBatch

structure ScanServiceConfig where
  cursorName : String
  chainId : KaspaChainId
  minConfirmationCount : Option UInt64

structure ScanTick where
  initialisedCursor : Bool
  startCursor : ScanCursor
  endCursor : ScanCursor
  addedChainBlocks : ℕ
  observedSpends : ℕ
  deriving DecidableEq

/-- The cursor behind the last added block, or the old one when there is none. -/
def ScanBatch.endCursor (batch : ScanBatch) (start : ScanCursor) : Except SyncError ScanCursor :=
  match batch.addedChainBlockHashes.getLast? with
  | some lastHash => do
      let daaScore ← okOr batch.lastAddedDaaScore .missingAddedDaaScore
      .ok ⟨start.chainId, lastHash, daaScore⟩
  | none => .ok start

section Tick
variable {S : Type} (store : StoreOps S) (config : ScanServiceConfig) (backend : ScanBackend)
  (faults : ℕ → Option (Fault IndexerError))

def tick : Program S SyncError ScanTick := do
  let loaded ← readCall .indexer faults (store.loadScanCursor · config.cursorName)
  match loaded with
  | none =>
      let cursor ← lift (backend.currentScanCursor config.chainId)
      call .indexer faults (store.storeScanCursor config.cursorName cursor)
      pure ⟨true, cursor, cursor, 0, 0⟩
  | some start =>
      lift (failIf (start.chainId ≠ config.chainId)
        (.cursorChainMismatch config.chainId start.chainId))
      let batch ← lift (backend.scanFromCursor start config.minConfirmationCount)
      lift (failIf (batch.removedChainBlockHashes ≠ []) (.reorg batch.removedChainBlockHashes))
      lift (failIf (batch.observedSpends ≠ batch.observedSpendRecords.length)
        (.observedSpendRecordMismatch batch.observedSpends batch.observedSpendRecords.length))
      let endCursor ← lift (batch.endCursor start)
      forM batch.observedSpendRecords
        (fun record => call .indexer faults (store.recordObservedSpend record))
      if endCursor ≠ start then
        call .indexer faults (store.storeScanCursor config.cursorName endCursor)
      pure ⟨false, start, endCursor, batch.addedChainBlockHashes.length, batch.observedSpends⟩

end Tick

section Plans

/-- The writes of a tick. -/
inductive ScanWrite where
  | spend (record : ObservedSpendRecord)
  | cursor (c : ScanCursor)

def ScanWrite.run {S : Type} (store : StoreOps S) (name : String) :
    ScanWrite → S → Except IndexerError Unit × S
  | .spend record => store.recordObservedSpend record
  | .cursor c => store.storeScanCursor name c

/-- What a tick that is not cut off writes and answers. -/
structure TickPlan where
  summary : ScanTick
  writes : List ScanWrite

def batchWrites (start endCursor : ScanCursor) (records : List ObservedSpendRecord) :
    List ScanWrite :=
  records.map .spend ++ if endCursor ≠ start then [.cursor endCursor] else []

def planBatch (start : ScanCursor) (batch : ScanBatch) : Except SyncError TickPlan := do
  failIf (batch.removedChainBlockHashes ≠ []) (.reorg batch.removedChainBlockHashes)
  failIf (batch.observedSpends ≠ batch.observedSpendRecords.length)
    (.observedSpendRecordMismatch batch.observedSpends batch.observedSpendRecords.length)
  let endCursor ← batch.endCursor start
  .ok ⟨⟨false, start, endCursor, batch.addedChainBlockHashes.length, batch.observedSpends⟩,
    batchWrites start endCursor batch.observedSpendRecords⟩

def plan (config : ScanServiceConfig) (backend : ScanBackend) :
    Option ScanCursor → Except SyncError TickPlan
  | none => do
      let cursor ← backend.currentScanCursor config.chainId
      .ok ⟨⟨true, cursor, cursor, 0, 0⟩, [.cursor cursor]⟩
  | some start => do
      failIf (start.chainId ≠ config.chainId) (.cursorChainMismatch config.chainId start.chainId)
      let batch ← backend.scanFromCursor start config.minConfirmationCount
      planBatch start batch

variable {S : Type} {store : StoreOps S} {config : ScanServiceConfig} {backend : ScanBackend}
  {faults : ℕ → Option (Fault IndexerError)}

lemma tick_eq : tick store config backend faults = (do
    let loaded ← readCall .indexer faults (store.loadScanCursor · config.cursorName)
    let p ← lift (plan config backend loaded)
    forM p.writes (fun w => call .indexer faults (w.run store config.cursorName))
    pure p.summary) := by
  unfold tick
  congr 1
  funext loaded
  cases loaded with
  | none =>
    simp only [plan, lift_bind, lift_ok, bind_assoc, pure_bind, List.forM_cons, List.forM_nil,
      ScanWrite.run]
  | some start =>
    simp only [plan, planBatch, batchWrites, lift_bind, lift_ok, bind_assoc, pure_bind,
      List.forM_append, List.forM_map, ScanWrite.run]
    repeat' (congr 1; funext _)
    split_ifs
    · simp only [List.forM_cons, List.forM_nil, bind_assoc, pure_bind]
    · simp only [List.forM_nil, pure_bind]

end Plans
section Steps
variable {S : Type}

/-- One tick: the backend it meets, and the faults that hit its store calls. -/
structure TickInput where
  backend : ScanBackend
  faults : ℕ → Option (Fault IndexerError)

def TickInput.undisturbed (backend : ScanBackend) : TickInput := ⟨backend, fun _ => none⟩

/-- The answer of a tick and the store it leaves. -/
def scanStep (store : StoreOps S) (config : ScanServiceConfig) (s : S) (t : TickInput) :
    Except (Stop SyncError) ScanTick × S :=
  match (tick store config t.backend t.faults).run ⟨s, 0⟩ with
  | .ok summary session => (.ok summary, session.store)
  | .error e session => (.error e, session.store)

/-- How a tick can end. -/
inductive StepEnd (store : StoreOps S) (config : ScanServiceConfig) (s : S) (t : TickInput) :
    Except (Stop SyncError) ScanTick × S → Prop
  | idle (e : Stop SyncError) : StepEnd store config s t (.error e, s)
  | done {loaded : Option ScanCursor} {p : TickPlan}
      (hload : store.loadScanCursor s config.cursorName = .ok loaded)
      (hplan : plan config t.backend loaded = .ok p) :
      StepEnd store config s t
        (.ok p.summary, writeAll (ScanWrite.run store config.cursorName) p.writes s)
  | stopped {loaded : Option ScanCursor} {p : TickPlan}
      (hload : store.loadScanCursor s config.cursorName = .ok loaded)
      (hplan : plan config t.backend loaded = .ok p) (k : ℕ) (hk : k < p.writes.length)
      (e : Stop SyncError) :
      StepEnd store config s t
        (.error e, writeAll (ScanWrite.run store config.cursorName) (p.writes.take k) s)
  | crashed {loaded : Option ScanCursor} {p : TickPlan}
      (hload : store.loadScanCursor s config.cursorName = .ok loaded)
      (hplan : plan config t.backend loaded = .ok p) :
      StepEnd store config s t
        (.error .crash, writeAll (ScanWrite.run store config.cursorName) p.writes s)

variable {store : StoreOps S} {config : ScanServiceConfig}

lemma write_ok (hl : store.Lawful) (hname : validateScanCursorName config.cursorName = .ok ())
    (w : ScanWrite) (s : S) : (w.run store config.cursorName s).1 = .ok () := by
  cases w with
  | spend record => exact hl.record_ok s record
  | cursor c => exact hl.store_ok s config.cursorName c hname

lemma scanStep_cases (hl : store.Lawful) (s : S) (t : TickInput) :
    StepEnd store config s t (scanStep store config s t) := by
  unfold scanStep
  rw [tick_eq, EStateM.run_bind]
  obtain ⟨e, hread⟩ | ⟨loaded, hload, hread⟩ := run_readCall_cases SyncError.indexer t.faults
    (store.loadScanCursor · config.cursorName) ⟨s, 0⟩
  · rw [hread]
    exact .idle e
  · rw [hread]
    cases hplan : plan config t.backend loaded with
    | error e =>
      simp only [hplan]
      exact .idle (.error e)
    | ok p =>
      have hw := writesEnd_forM SyncError.indexer
        (write_ok hl (hl.name_of_load s _ loaded hload)) t.faults p.writes ⟨s, 1⟩
      simp only [hplan, lift_ok, pure_bind, EStateM.run_bind]
      cases hrun : (forM p.writes (fun w => call SyncError.indexer t.faults
          (w.run store config.cursorName))).run ⟨s, 1⟩ with
      | ok u session =>
        rw [hrun] at hw
        cases hw
        exact .done hload hplan
      | error e session =>
        rw [hrun] at hw
        cases hw with
        | stopped k n e hk => exact .stopped hload hplan k hk e
        | crashed n => exact .crashed hload hplan

lemma scanStep_undisturbed (hl : store.Lawful) {s : S} {backend : ScanBackend}
    {loaded : Option ScanCursor} {p : TickPlan}
    (hload : store.loadScanCursor s config.cursorName = .ok loaded)
    (hplan : plan config backend loaded = .ok p) :
    scanStep store config s (.undisturbed backend) =
      (.ok p.summary, writeAll (ScanWrite.run store config.cursorName) p.writes s) := by
  obtain ⟨n, hn⟩ := run_forM_of_no_faults SyncError.indexer
    (write_ok hl (hl.name_of_load s _ loaded hload)) p.writes ⟨s, 1⟩
  have hread : (readCall SyncError.indexer (fun _ => none)
      (store.loadScanCursor · config.cursorName)).run ⟨s, 0⟩ = .ok loaded ⟨s, 1⟩ :=
    run_readCall_of_no_faults SyncError.indexer hload
  unfold scanStep TickInput.undisturbed
  rw [tick_eq, EStateM.run_bind, hread]
  simp only [hplan, lift_ok, pure_bind, EStateM.run_bind, hn,
    EStateM.run_pure]

end Steps
end RgkProtocol.ScanService
