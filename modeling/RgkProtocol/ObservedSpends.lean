import RgkProtocol.ScanSafety

/-!
# Observed spends are not write-once

Both indexers record an observed spend over whatever was recorded for its outpoint before, and
neither the record call nor a tick compares the two. A recorded spending transaction stays exactly
as long as no call brings another one for the same outpoint.
-/
namespace RgkProtocol.ObservedSpends
open ByteStrings CoreTypes Checked IndexerState IndexerOps ScanStore FaultyCalls Simulation
open SledIndexer ScanService ScanSafety

section Calls
variable {S : Type} (store : StoreOps S) (config : ScanServiceConfig)

/-- A tick of the scanner, or a record call from elsewhere. -/
inductive ScanCall where
  | tick (t : TickInput)
  | record (r : ObservedSpendRecord)

def scanCall (s : S) : ScanCall → Except (Stop SyncError) Unit × S
  | .tick t => ((scanStep store config s t).1.map (fun _ => ()), (scanStep store config s t).2)
  | .record r => ((store.recordObservedSpend r s).1.mapError (fun e => .error (.indexer e)),
      (store.recordObservedSpend r s).2)

/-- No store call of the call is hit by a fault. -/
def ScanCall.Undisturbed : ScanCall → Prop
  | .tick t => t.faults = fun _ => none
  | .record _ => True

/-- Another transaction is on record as the spender of the outpoint. -/
def Conflicts (s : S) (r : ObservedSpendRecord) : Prop :=
  ∃ known, store.observedSpend s r.spent = .ok (some known) ∧ known.spendingTxid ≠ r.spendingTxid

/-- Recorded one after the other, no record conflicts with what is there by then. -/
def Consistent : List ObservedSpendRecord → S → Prop
  | [], _ => True
  | r :: records, s => ¬ Conflicts store s r ∧ Consistent records (store.recordObservedSpend r s).2

/-- The call brings no fact that conflicts with a recorded one. -/
def NoConflict (s : S) : ScanCall → Prop
  | .tick t => ∀ start endCursor batch, AcceptsBatch store config s t.backend start endCursor batch →
      Consistent store batch.observedSpendRecords s
  | .record r => ¬ Conflicts store s r

/-- A call that returns without error keeps every recorded spending transaction, and one that
brings a conflicting fact returns an error and leaves the store and its cursors as they were. -/
def WriteOnceAt (s : S) (call : ScanCall) : Prop :=
  ((scanCall store config s call).1 = .ok () → ∀ o r, store.observedSpend s o = .ok (some r) →
    ∃ r', store.observedSpend (scanCall store config s call).2 o = .ok (some r') ∧
      r'.spendingTxid = r.spendingTxid) ∧
  (¬ NoConflict store config s call →
    (∃ e, (scanCall store config s call).1 = .error e) ∧
      SameStore store s (scanCall store config s call).2)

/-- Recorded facts are write-once in a run without conflicts, and in a run without faults in no
other. -/
def WriteOnceExactly (s : S) (calls : List ScanCall) : Prop :=
  (AlongRun (scanCall store config) (NoConflict store config) s calls →
    AlongRun (scanCall store config) (WriteOnceAt store config) s calls) ∧
  ((∀ call ∈ calls, call.Undisturbed) →
    AlongRun (scanCall store config) (WriteOnceAt store config) s calls →
    AlongRun (scanCall store config) (NoConflict store config) s calls)

end Calls

section Steps
variable {S : Type} {store : StoreOps S} {config : ScanServiceConfig} {s : S}

lemma txid_of_record (hl : store.Lawful) {r known : ObservedSpendRecord} {o : KaspaOutpoint}
    (h : ¬ Conflicts store s r) (hknown : store.observedSpend s o = .ok (some known)) :
    ∃ r', store.observedSpend (store.recordObservedSpend r s).2 o = .ok (some r') ∧
      r'.spendingTxid = known.spendingTxid := by
  rw [hl.observed_record]
  by_cases ho : r.spent = o
  · subst ho
    rw [if_pos rfl]
    exact ⟨r, rfl, by_contra fun hne => h ⟨known, hknown, fun heq => hne heq.symm⟩⟩
  · rw [if_neg ho]
    exact ⟨known, hknown, rfl⟩

lemma txid_of_recordAll (hl : store.Lawful) {records : List ObservedSpendRecord}
    {known : ObservedSpendRecord} {o : KaspaOutpoint} (h : Consistent store records s)
    (hknown : store.observedSpend s o = .ok (some known)) :
    ∃ r', store.observedSpend (recordAll store records s) o = .ok (some r') ∧
      r'.spendingTxid = known.spendingTxid := by
  induction records generalizing s known with
  | nil => exact ⟨known, hknown, rfl⟩
  | cons r records ih =>
    obtain ⟨r₁, hr₁, htxid₁⟩ := txid_of_record hl h.1 hknown
    obtain ⟨r₂, hr₂, htxid₂⟩ := ih h.2 hr₁
    exact ⟨r₂, hr₂, htxid₂.trans htxid₁⟩

/-- A tick that ends well has recorded a whole batch or nothing. -/
lemma txid_of_tick (hl : store.Lawful) {t : TickInput} {known : ObservedSpendRecord}
    {o : KaspaOutpoint} (h : NoConflict store config s (.tick t))
    (hok : (scanCall store config s (.tick t)).1 = .ok ())
    (hknown : store.observedSpend s o = .ok (some known)) :
    ∃ r', store.observedSpend (scanCall store config s (.tick t)).2 o = .ok (some r') ∧
      r'.spendingTxid = known.spendingTxid := by
  have heffect : TickEffect store config s t _ := tickEffect_scanStep hl s t
  simp only [scanCall] at hok ⊢
  generalize scanStep store config s t = result at heffect hok ⊢
  cases heffect with
  | unchanged e => exact ⟨known, hknown, rfl⟩
  | initialised answer hload hcurrent hanswer =>
    exact ⟨known, by rw [hl.observed_store, hknown], rfl⟩
  | cutOff k e hbatch => cases hok
  | committed answer hbatch hanswer =>
    simp only [observed_commitBatch hl]
    exact txid_of_recordAll hl (h _ _ _ hbatch) hknown

lemma writeOnceAt_of_noConflict (hl : store.Lawful) {call : ScanCall}
    (h : NoConflict store config s call) : WriteOnceAt store config s call := by
  refine ⟨fun hok o known hknown => ?_, fun hconflict => absurd h hconflict⟩
  cases call with
  | tick t => exact txid_of_tick hl h hok hknown
  | record r => exact txid_of_record hl h hknown

/-- Without faults nothing turns a conflicting fact away. -/
lemma ok_of_conflict (hl : store.Lawful) {call : ScanCall} (hcall : call.Undisturbed)
    (h : ¬ NoConflict store config s call) : (scanCall store config s call).1 = .ok () := by
  cases call with
  | tick t =>
    simp only [NoConflict, not_forall] at h
    obtain ⟨start, endCursor, batch, hbatch, -⟩ := h
    have ht : t = .undisturbed t.backend := by rw [TickInput.undisturbed, ← hcall]
    rw [scanCall, ht, hbatch.undisturbed hl]
    rfl
  | record r =>
    rw [scanCall, hl.record_ok]
    rfl

lemma noConflict_of_writeOnceAt (hl : store.Lawful) {call : ScanCall} (hcall : call.Undisturbed)
    (h : WriteOnceAt store config s call) : NoConflict store config s call := by
  by_contra hconflict
  obtain ⟨⟨e, herror⟩, -⟩ := h.2 hconflict
  rw [ok_of_conflict hl hcall hconflict] at herror
  cases herror

lemma writeOnceExactly_of_lawful (hl : store.Lawful) (calls : List ScanCall) :
    WriteOnceExactly store config s calls :=
  ⟨fun hrun => hrun.imp (fun _ _ _ h => writeOnceAt_of_noConflict hl h),
    fun hcalls hrun => hrun.imp (fun _ call hcall h =>
      noConflict_of_writeOnceAt hl (hcalls call hcall) h)⟩

end Steps

/-- On either indexer, from any store and over any sequence of ticks and record calls: observed
spends are write-once as long as no call brings a conflicting fact, and as far as no fault ends a
call, in no other run. -/
theorem observed_spends_write_once_iff (config : ScanServiceConfig) (calls : List ScanCall) :
    (∀ ix : InMemoryIndexer, WriteOnceExactly inMemoryStore config ix calls) ∧
    ∀ (T : Type) (tree : TreeOps T), tree.Faithful →
      ∀ s, WriteOnceExactly (sledStore tree) config s calls :=
  ⟨fun _ => writeOnceExactly_of_lawful inMemoryStore_lawful calls,
    fun _ _ htree _ => writeOnceExactly_of_lawful (sledStore_lawful htree) calls⟩

section Samples

def sampleSpent : KaspaOutpoint := ⟨Bytes.fill 32 7, 0⟩

/-- The first outpoint of the sample batch, spent by another transaction. -/
def sampleRecord : ObservedSpendRecord := ⟨sampleSpent, Bytes.fill 32 9, 0, some 100⟩

def sampleScan : SledScan (OrderedMap (List UInt8) (List UInt8)) :=
  ⟨mapTree.empty, mapTree.empty⟩

/-- The same fact again, as after a crash, is no conflict. -/
theorem observed_spends_write_once_sample :
    AlongRun (scanCall (sledStore mapTree) sampleConfig)
      (WriteOnceAt (sledStore mapTree) sampleConfig) sampleScan
      [.record sampleRecord, .record sampleRecord] := by
  refine ((observed_spends_write_once_iff sampleConfig
    [.record sampleRecord, .record sampleRecord]).2 _ mapTree mapTree_faithful sampleScan).1
    ⟨?_, ?_, trivial⟩
  · rintro ⟨known, hknown, -⟩
    have hnone : (sledStore mapTree).observedSpend sampleScan sampleRecord.spent = .ok none := by
      decide +kernel
    cases hnone.symm.trans hknown
  · rintro ⟨known, hknown, hne⟩
    have hsame : (sledStore mapTree).observedSpend
        ((sledStore mapTree).recordObservedSpend sampleRecord sampleScan).2 sampleRecord.spent =
          .ok (some sampleRecord) := by
      decide +kernel
    cases hsame.symm.trans hknown
    exact hne rfl

/-- A cursor is set and a spend is recorded. -/
def sampleCalls : List ScanCall :=
  [.tick (.undisturbed ScanSafety.sampleBackend), .record sampleRecord]

/-- A tick then brings another transaction for the same outpoint. It returns without error and
replaces the record. -/
theorem observed_spend_replaced :
    (inMemoryStore.observedSpend
        (stateAfter (scanCall inMemoryStore sampleConfig) InMemoryIndexer.new sampleCalls)
        sampleSpent).map (Option.map ObservedSpendRecord.spendingTxid) =
      .ok (some (Bytes.fill 32 9)) ∧
    (scanCall inMemoryStore sampleConfig
        (stateAfter (scanCall inMemoryStore sampleConfig) InMemoryIndexer.new sampleCalls)
        (.tick (.undisturbed ScanSafety.sampleBackend))).1 = .ok () ∧
    (inMemoryStore.observedSpend
        (stateAfter (scanCall inMemoryStore sampleConfig) InMemoryIndexer.new
          (sampleCalls ++ [.tick (.undisturbed ScanSafety.sampleBackend)]))
        sampleSpent).map (Option.map ObservedSpendRecord.spendingTxid) =
      .ok (some (Bytes.fill 32 8)) := by
  decide +kernel

end Samples
end RgkProtocol.ObservedSpends
