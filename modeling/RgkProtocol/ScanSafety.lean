import RgkProtocol.ScanService
import RgkProtocol.Simulation

/-!
# No spend is lost

What the store shows after a tick, whatever cut it off. The cursor moves only after all records of
its batch, an error leaves the cursor where it was, and a tick that is repeated with the same batch
ends in the same store however often it was interrupted before.
-/
namespace RgkProtocol.ScanSafety
open ByteStrings Hashing CoreTypes Checked IndexerState IndexerOps ScanStore FaultyCalls Simulation
open ScanService

section Effects
variable {S : Type} (store : StoreOps S) (config : ScanServiceConfig)

/-- The store after some observed spends have been recorded. -/
def recordAll (records : List ObservedSpendRecord) (s : S) : S :=
  writeAll store.recordObservedSpend records s

/-- The store after a batch: its records and then, if it has moved, the cursor. -/
def commitBatch (start endCursor : ScanCursor) (records : List ObservedSpendRecord) (s : S) : S :=
  if endCursor ≠ start then
    (store.storeScanCursor config.cursorName endCursor (recordAll store records s)).2
  else recordAll store records s

/-- The tick has loaded a cursor and has accepted a batch behind it. -/
structure AcceptsBatch (s : S) (backend : ScanBackend) (start endCursor : ScanCursor)
    (batch : ScanBatch) : Prop where
  load : store.loadScanCursor s config.cursorName = .ok (some start)
  chain : start.chainId = config.chainId
  scan : backend.scanFromCursor start config.minConfirmationCount = .ok batch
  removed : batch.removedChainBlockHashes = []
  counted : batch.observedSpends = batch.observedSpendRecords.length
  endCursor : batch.endCursor start = .ok endCursor

/-- What a tick can do to the store. -/
inductive TickEffect (s : S) (t : TickInput) : Except (Stop SyncError) ScanTick × S → Prop
  | unchanged (e : Stop SyncError) : TickEffect s t (.error e, s)
  | initialised {c : ScanCursor} (answer : Except (Stop SyncError) ScanTick)
      (hload : store.loadScanCursor s config.cursorName = .ok none)
      (hcurrent : t.backend.currentScanCursor config.chainId = .ok c)
      (hanswer : ∀ e, answer ≠ .error (.error e)) :
      TickEffect s t (answer, (store.storeScanCursor config.cursorName c s).2)
  | cutOff {start endCursor : ScanCursor} {batch : ScanBatch} (k : ℕ) (e : Stop SyncError)
      (hbatch : AcceptsBatch store config s t.backend start endCursor batch) :
      TickEffect s t (.error e, recordAll store (batch.observedSpendRecords.take k) s)
  | committed {start endCursor : ScanCursor} {batch : ScanBatch}
      (answer : Except (Stop SyncError) ScanTick)
      (hbatch : AcceptsBatch store config s t.backend start endCursor batch)
      (hanswer : ∀ e, answer ≠ .error (.error e)) :
      TickEffect s t (answer, commitBatch store config start endCursor
        batch.observedSpendRecords s)

variable {store config}

lemma writeAll_spends (records : List ObservedSpendRecord) (s : S) :
    writeAll (ScanWrite.run store config.cursorName) (records.map .spend) s =
      recordAll store records s := by
  rw [writeAll, List.foldl_map]
  rfl

lemma writeAll_batchWrites (start endCursor : ScanCursor) (records : List ObservedSpendRecord)
    (s : S) :
    writeAll (ScanWrite.run store config.cursorName) (batchWrites start endCursor records) s =
      commitBatch store config start endCursor records s := by
  rw [batchWrites, writeAll_append, writeAll_spends, commitBatch]
  split_ifs <;> rfl

lemma take_batchWrites {start endCursor : ScanCursor} {records : List ObservedSpendRecord} {k : ℕ}
    (hk : k < (batchWrites start endCursor records).length) :
    (batchWrites start endCursor records).take k = (records.take k).map .spend := by
  have hle : k ≤ records.length := by
    unfold batchWrites at hk
    split_ifs at hk <;> simp at hk <;> omega
  rw [batchWrites, List.take_append_of_le_length (by simpa using hle), List.map_take]

lemma plan_none_eq_ok {backend : ScanBackend} {p : TickPlan}
    (h : plan config backend none = .ok p) :
    ∃ c, backend.currentScanCursor config.chainId = .ok c ∧ p.writes = [.cursor c] := by
  obtain ⟨c, hc, hp⟩ := bind_eq_ok.mp h
  exact ⟨c, hc, by rw [← Except.ok.inj hp]⟩

lemma plan_some_eq_ok {backend : ScanBackend} {start : ScanCursor} {p : TickPlan} {s : S}
    (hload : store.loadScanCursor s config.cursorName = .ok (some start))
    (h : plan config backend (some start) = .ok p) :
    ∃ endCursor batch, AcceptsBatch store config s backend start endCursor batch ∧
      p.writes = batchWrites start endCursor batch.observedSpendRecords := by
  obtain ⟨hchain, h⟩ := unit_bind_eq_ok.mp h
  obtain ⟨batch, hscan, h⟩ := bind_eq_ok.mp h
  simp only [planBatch, unit_bind_eq_ok, failIf_eq_ok, not_not] at hchain h
  obtain ⟨hremoved, hcounted, h⟩ := h
  obtain ⟨endCursor, hend, hp⟩ := bind_eq_ok.mp h
  exact ⟨endCursor, batch, ⟨hload, hchain, hscan, hremoved, hcounted, hend⟩,
    by rw [← Except.ok.inj hp]⟩

lemma tickEffect_of_writes {s : S} {t : TickInput} {loaded : Option ScanCursor} {p : TickPlan}
    {answer : Except (Stop SyncError) ScanTick}
    (hload : store.loadScanCursor s config.cursorName = .ok loaded)
    (hplan : plan config t.backend loaded = .ok p) (hanswer : ∀ e, answer ≠ .error (.error e)) :
    TickEffect store config s t
      (answer, writeAll (ScanWrite.run store config.cursorName) p.writes s) := by
  cases loaded with
  | none =>
    obtain ⟨c, hc, hw⟩ := plan_none_eq_ok hplan
    rw [hw]
    exact .initialised answer hload hc hanswer
  | some start =>
    obtain ⟨endCursor, batch, hbatch, hw⟩ := plan_some_eq_ok hload hplan
    rw [hw, writeAll_batchWrites]
    exact .committed answer hbatch hanswer

theorem tickEffect_scanStep (hl : store.Lawful) (s : S) (t : TickInput) :
    TickEffect store config s t (scanStep store config s t) := by
  have hend : StepEnd store config s t _ := scanStep_cases hl s t
  generalize scanStep store config s t = r at hend ⊢
  cases hend with
  | idle e => exact .unchanged e
  | done hload hplan => exact tickEffect_of_writes hload hplan (fun _ h => by cases h)
  | crashed hload hplan => exact tickEffect_of_writes hload hplan (fun _ h => by cases h)
  | @stopped loaded p hload hplan k hk e =>
    cases loaded with
    | none =>
      obtain ⟨c, hc, hw⟩ := plan_none_eq_ok hplan
      obtain rfl : k = 0 := by simpa [hw] using hk
      exact .unchanged e
    | some start =>
      obtain ⟨endCursor, batch, hbatch, hw⟩ := plan_some_eq_ok hload hplan
      rw [hw] at hk ⊢
      rw [take_batchWrites hk, writeAll_spends]
      exact .cutOff k e hbatch

end Effects

section Reads
variable {S : Type} {store : StoreOps S} {config : ScanServiceConfig}

/-- The record for an outpoint that a list of records leaves in the store. -/
def lastRecord (records : List ObservedSpendRecord) (o : KaspaOutpoint) :
    Option ObservedSpendRecord := records.reverse.find? (fun r => r.spent = o)

lemma load_recordAll (hl : store.Lawful) (records : List ObservedSpendRecord) (s : S)
    (name : String) :
    store.loadScanCursor (recordAll store records s) name = store.loadScanCursor s name := by
  induction records generalizing s with
  | nil => rfl
  | cons r records ih => exact (ih _).trans (hl.load_record s r name)

lemma observed_recordAll (hl : store.Lawful) (records : List ObservedSpendRecord) (s : S)
    (o : KaspaOutpoint) :
    store.observedSpend (recordAll store records s) o =
      match lastRecord records o with
      | some r => .ok (some r)
      | none => store.observedSpend s o := by
  induction records generalizing s with
  | nil => rfl
  | cons r records ih =>
    have hstep := ih (store.recordObservedSpend r s).2
    rw [hl.observed_record] at hstep
    refine hstep.trans ?_
    simp only [lastRecord, List.reverse_cons, List.find?_append, List.find?_singleton]
    cases hlast : records.reverse.find? (fun r => r.spent = o) with
    | some r' => rfl
    | none =>
      by_cases hr : r.spent = o
      · simp [hr]
      · simp [hr]

lemma lastRecord_mem {records : List ObservedSpendRecord} {o : KaspaOutpoint}
    {r : ObservedSpendRecord} (h : lastRecord records o = some r) : r ∈ records := by
  simpa using List.mem_of_find?_eq_some h

lemma exists_lastRecord {records : List ObservedSpendRecord} {r : ObservedSpendRecord}
    (h : r ∈ records) : ∃ r', lastRecord records r.spent = some r' := by
  rw [← Option.isSome_iff_exists, lastRecord, List.find?_isSome]
  exact ⟨r, by simpa using h, by simp⟩

lemma load_commitBatch (hl : store.Lawful)
    (hname : validateScanCursorName config.cursorName = .ok ())
    {start endCursor : ScanCursor} {records : List ObservedSpendRecord} {s : S}
    (hload : store.loadScanCursor s config.cursorName = .ok (some start)) :
    store.loadScanCursor (commitBatch store config start endCursor records s) config.cursorName =
      .ok (some endCursor) := by
  unfold commitBatch
  split_ifs with hne
  · rw [hl.load_store _ _ _ _ hname, if_pos rfl]
  · rw [load_recordAll hl, hload, not_not.mp hne]

lemma load_commitBatch_of_ne (hl : store.Lawful)
    (hname : validateScanCursorName config.cursorName = .ok ())
    {start endCursor : ScanCursor} {records : List ObservedSpendRecord} {s : S} {name : String}
    (hne : config.cursorName ≠ name) :
    store.loadScanCursor (commitBatch store config start endCursor records s) name =
      store.loadScanCursor s name := by
  unfold commitBatch
  split_ifs
  · rw [hl.load_store _ _ _ _ hname, if_neg hne, load_recordAll hl]
  · rw [load_recordAll hl]

lemma observed_commitBatch (hl : store.Lawful) (start endCursor : ScanCursor)
    (records : List ObservedSpendRecord) (s : S) (o : KaspaOutpoint) :
    store.observedSpend (commitBatch store config start endCursor records s) o =
      store.observedSpend (recordAll store records s) o := by
  unfold commitBatch
  split_ifs
  · exact hl.observed_store _ _ _ o
  · rfl

end Reads
section Batches
variable {S : Type} {store : StoreOps S} {config : ScanServiceConfig}

lemma AcceptsBatch.name (hl : store.Lawful) {s : S} {backend : ScanBackend}
    {start endCursor : ScanCursor} {batch : ScanBatch}
    (h : AcceptsBatch store config s backend start endCursor batch) :
    validateScanCursorName config.cursorName = .ok () := hl.name_of_load s _ _ h.load

lemma AcceptsBatch.undisturbed (hl : store.Lawful) {s : S} {backend : ScanBackend}
    {start endCursor : ScanCursor} {batch : ScanBatch}
    (h : AcceptsBatch store config s backend start endCursor batch) :
    scanStep store config s (.undisturbed backend) =
      (.ok ⟨false, start, endCursor, batch.addedChainBlockHashes.length, batch.observedSpends⟩,
        commitBatch store config start endCursor batch.observedSpendRecords s) := by
  have hbatch : planBatch start batch = .ok ⟨⟨false, start, endCursor,
      batch.addedChainBlockHashes.length, batch.observedSpends⟩,
      batchWrites start endCursor batch.observedSpendRecords⟩ := by
    simp only [planBatch, unit_bind_eq_ok, failIf_eq_ok, not_not]
    exact ⟨h.removed, h.counted, bind_eq_ok.mpr ⟨endCursor, h.endCursor, rfl⟩⟩
  have hplan : plan config backend (some start) = .ok _ :=
    unit_bind_eq_ok.mpr ⟨failIf_eq_ok.mpr (not_not.mpr h.chain),
      bind_eq_ok.mpr ⟨batch, h.scan, hbatch⟩⟩
  rw [scanStep_undisturbed hl h.load hplan, writeAll_batchWrites]

/-- The batch ends at the same cursor when it is asked for again from there. -/
lemma endCursor_of_endCursor {batch : ScanBatch} {start endCursor : ScanCursor}
    (h : batch.endCursor start = .ok endCursor) : batch.endCursor endCursor = .ok endCursor ∧
      endCursor.chainId = start.chainId := by
  unfold ScanBatch.endCursor at h ⊢
  cases hlast : batch.addedChainBlockHashes.getLast? with
  | none => simp_all
  | some lastHash =>
    simp only [hlast] at h ⊢
    obtain ⟨daaScore, hdaa, he⟩ := bind_eq_ok.mp h
    obtain rfl := Except.ok.inj he
    exact ⟨bind_eq_ok.mpr ⟨daaScore, hdaa, rfl⟩, rfl⟩

/-- The tick loads a cursor, gets the batch, and leaves another cursor. -/
def MovesPast (store : StoreOps S) (config : ScanServiceConfig) (s : S) (t : TickInput)
    (batch : ScanBatch) : Prop :=
  ∃ start, store.loadScanCursor s config.cursorName = .ok (some start) ∧
    t.backend.scanFromCursor start config.minConfirmationCount = .ok batch ∧
    store.loadScanCursor (scanStep store config s t).2 config.cursorName ≠ .ok (some start)

lemma MovesPast.committed (hl : store.Lawful) {s : S} {t : TickInput} {batch : ScanBatch}
    (h : MovesPast store config s t batch) :
    ∃ start endCursor, (scanStep store config s t).2 =
      commitBatch store config start endCursor batch.observedSpendRecords s := by
  obtain ⟨start, hload, hscan, hmoved⟩ := h
  have heffect : TickEffect store config s t _ := tickEffect_scanStep hl s t
  generalize scanStep store config s t = r at heffect hmoved ⊢
  cases heffect with
  | unchanged e => exact absurd hload hmoved
  | initialised answer hnone hcurrent hanswer => cases hload.symm.trans hnone
  | cutOff k e hbatch => exact absurd ((load_recordAll hl _ s _).trans hload) hmoved
  | @committed start' endCursor batch' answer hbatch hanswer =>
    cases hload.symm.trans hbatch.load
    cases hscan.symm.trans hbatch.scan
    exact ⟨start, endCursor, rfl⟩

lemma load_of_error (hl : store.Lawful) {s : S} {t : TickInput} {e : SyncError}
    (h : (scanStep store config s t).1 = .error (.error e)) (name : String) :
    store.loadScanCursor (scanStep store config s t).2 name = store.loadScanCursor s name := by
  have heffect : TickEffect store config s t _ := tickEffect_scanStep hl s t
  generalize scanStep store config s t = r at heffect h ⊢
  cases heffect with
  | unchanged e => rfl
  | initialised answer hnone hcurrent hanswer => exact absurd h (hanswer e)
  | cutOff k e hbatch => exact load_recordAll hl _ s name
  | committed answer hbatch hanswer => exact absurd h (hanswer e)

/-- The backend has the record in one of its batches. -/
def Offers (config : ScanServiceConfig) (t : TickInput) (r : ObservedSpendRecord) : Prop :=
  ∃ start batch, t.backend.scanFromCursor start config.minConfirmationCount = .ok batch ∧
    r ∈ batch.observedSpendRecords

lemma observed_recordAll_of_some (hl : store.Lawful) (records : List ObservedSpendRecord) {s : S}
    {o : KaspaOutpoint} {r : ObservedSpendRecord} (h : store.observedSpend s o = .ok (some r)) :
    ∃ r', store.observedSpend (recordAll store records s) o = .ok (some r') ∧
      (r' = r ∨ r' ∈ records) := by
  rw [observed_recordAll hl]
  cases hlast : lastRecord records o with
  | some r' => exact ⟨r', rfl, Or.inr (lastRecord_mem hlast)⟩
  | none => exact ⟨r, h, Or.inl rfl⟩

lemma observed_scanStep (hl : store.Lawful) {s : S} (config : ScanServiceConfig) (t : TickInput)
    {o : KaspaOutpoint} {r : ObservedSpendRecord} (h : store.observedSpend s o = .ok (some r)) :
    ∃ r', store.observedSpend (scanStep store config s t).2 o = .ok (some r') ∧
      (r' = r ∨ Offers config t r') := by
  have heffect : TickEffect store config s t _ := tickEffect_scanStep hl s t
  generalize scanStep store config s t = x at heffect ⊢
  cases heffect with
  | unchanged e => exact ⟨r, h, Or.inl rfl⟩
  | initialised answer hnone hcurrent hanswer =>
    exact ⟨r, (hl.observed_store s _ _ o).trans h, Or.inl rfl⟩
  | @cutOff start endCursor batch k e hbatch =>
    obtain ⟨r', hr', hcase⟩ := observed_recordAll_of_some hl
      (batch.observedSpendRecords.take k) h
    exact ⟨r', hr', hcase.imp_right (fun hm =>
      ⟨start, batch, hbatch.scan, List.mem_of_mem_take hm⟩)⟩
  | @committed start endCursor batch answer hbatch hanswer =>
    obtain ⟨r', hr', hcase⟩ := observed_recordAll_of_some hl
      batch.observedSpendRecords h
    exact ⟨r', (observed_commitBatch hl _ _ _ _ o).trans hr',
      hcase.imp_right (fun hm => ⟨start, batch, hbatch.scan, hm⟩)⟩

lemma observed_stateAfter (hl : store.Lawful) (config : ScanServiceConfig) {s : S}
    (ticks : List TickInput) {o : KaspaOutpoint} {r : ObservedSpendRecord}
    (h : store.observedSpend s o = .ok (some r)) :
    ∃ r', store.observedSpend (stateAfter (scanStep store config) s ticks) o = .ok (some r') ∧
      (r' = r ∨ ∃ t ∈ ticks, Offers config t r') := by
  induction ticks generalizing s r with
  | nil => exact ⟨r, h, Or.inl rfl⟩
  | cons t ticks ih =>
    obtain ⟨r₁, h₁, hcase₁⟩ := observed_scanStep hl config t h
    obtain ⟨r₂, h₂, hcase₂⟩ := ih h₁
    refine ⟨r₂, h₂, ?_⟩
    rcases hcase₂ with rfl | ⟨t', ht', hoffer⟩
    · exact hcase₁.imp_right (fun hoffer => ⟨t, List.mem_cons_self, hoffer⟩)
    · exact Or.inr ⟨t', List.mem_cons_of_mem _ ht', hoffer⟩

end Batches

section Repeating
variable {S : Type} {store : StoreOps S} {config : ScanServiceConfig}

/-- The backend answers every question with this batch. -/
def Returns (config : ScanServiceConfig) (backend : ScanBackend) (batch : ScanBatch) : Prop :=
  ∀ start, backend.scanFromCursor start config.minConfirmationCount = .ok batch

/-- The store differs from `s₀` at most in what the batch writes. -/
structure Within (store : StoreOps S) (config : ScanServiceConfig) (start endCursor : ScanCursor)
    (batch : ScanBatch) (s₀ s : S) : Prop where
  cursor : store.loadScanCursor s config.cursorName = .ok (some start) ∨
    store.loadScanCursor s config.cursorName = .ok (some endCursor)
  names : ∀ name, config.cursorName ≠ name →
    store.loadScanCursor s name = store.loadScanCursor s₀ name
  spends : ∀ o, lastRecord batch.observedSpendRecords o = none →
    store.observedSpend s o = store.observedSpend s₀ o

variable {start endCursor : ScanCursor} {batch : ScanBatch} {backend : ScanBackend} {s₀ : S}

lemma Within.accepts (h₀ : AcceptsBatch store config s₀ backend start endCursor batch) {s : S}
    (h : Within store config start endCursor batch s₀ s) :
    ∃ start', ∀ backend', Returns config backend' batch →
      AcceptsBatch store config s backend' start' endCursor batch := by
  obtain ⟨hend, hchain⟩ := endCursor_of_endCursor h₀.endCursor
  rcases h.cursor with hload | hload
  · exact ⟨start, fun backend' hb => ⟨hload, h₀.chain, hb start, h₀.removed, h₀.counted,
      h₀.endCursor⟩⟩
  · exact ⟨endCursor, fun backend' hb => ⟨hload, hchain.trans h₀.chain, hb endCursor, h₀.removed,
      h₀.counted, hend⟩⟩

lemma lastRecord_take {records : List ObservedSpendRecord} {o : KaspaOutpoint}
    (h : lastRecord records o = none) (k : ℕ) : lastRecord (records.take k) o = none := by
  unfold lastRecord at h ⊢
  simp only [List.find?_eq_none, List.mem_reverse] at h ⊢
  exact fun r hr => h r (List.mem_of_mem_take hr)

lemma Within.step (hl : store.Lawful)
    (h₀ : AcceptsBatch store config s₀ backend start endCursor batch) {s : S} {t : TickInput}
    (ht : Returns config t.backend batch) (h : Within store config start endCursor batch s₀ s) :
    Within store config start endCursor batch s₀ (scanStep store config s t).2 := by
  obtain ⟨start', haccepts⟩ := h.accepts h₀
  have hacc := haccepts t.backend ht
  have heffect : TickEffect store config s t _ := tickEffect_scanStep hl s t
  generalize scanStep store config s t = r at heffect ⊢
  cases heffect with
  | unchanged e => exact h
  | initialised answer hnone hcurrent hanswer => cases hacc.load.symm.trans hnone
  | @cutOff start₁ endCursor₁ batch₁ k e hbatch =>
    obtain rfl : batch = batch₁ := Except.ok.inj ((ht start₁).symm.trans hbatch.scan)
    refine ⟨?_, fun name hne => ?_, fun o ho => ?_⟩
    · simpa only [load_recordAll hl] using h.cursor
    · rw [load_recordAll hl, h.names name hne]
    · rw [observed_recordAll hl, lastRecord_take ho k]
      exact h.spends o ho
  | @committed start₁ endCursor₁ batch₁ answer hbatch hanswer =>
    cases hacc.load.symm.trans hbatch.load
    cases hacc.scan.symm.trans hbatch.scan
    cases hacc.endCursor.symm.trans hbatch.endCursor
    refine ⟨Or.inr (load_commitBatch hl (hacc.name hl) hacc.load), fun name hne => ?_,
      fun o ho => ?_⟩
    · rw [load_commitBatch_of_ne hl (hacc.name hl) hne, h.names name hne]
    · rw [observed_commitBatch hl, observed_recordAll hl, ho]
      exact h.spends o ho

lemma Within.commit_same (hl : store.Lawful)
    (h₀ : AcceptsBatch store config s₀ backend start endCursor batch) {s : S}
    {start' : ScanCursor} (hacc : AcceptsBatch store config s backend start' endCursor batch)
    (h : Within store config start endCursor batch s₀ s) :
    SameStore store (commitBatch store config start' endCursor batch.observedSpendRecords s)
      (commitBatch store config start endCursor batch.observedSpendRecords s₀) := by
  constructor
  · intro name
    by_cases hne : config.cursorName = name
    · subst hne
      rw [load_commitBatch hl (h₀.name hl) hacc.load, load_commitBatch hl (h₀.name hl) h₀.load]
    · rw [load_commitBatch_of_ne hl (h₀.name hl) hne, load_commitBatch_of_ne hl (h₀.name hl) hne,
        h.names name hne]
  · intro o
    rw [observed_commitBatch hl, observed_commitBatch hl, observed_recordAll hl,
      observed_recordAll hl]
    cases hlast : lastRecord batch.observedSpendRecords o with
    | some r => rfl
    | none => exact h.spends o hlast

lemma scanStep_of_not_accepts (hl : store.Lawful) {t : TickInput}
    (hload : store.loadScanCursor s₀ config.cursorName = .ok (some start))
    (ht : Returns config t.backend batch) (hb : Returns config backend batch)
    (hnot : ∀ endCursor, ¬AcceptsBatch store config s₀ backend start endCursor batch) :
    (scanStep store config s₀ t).2 = s₀ := by
  have hcontra : ∀ {start₁ endCursor₁ batch₁},
      ¬AcceptsBatch store config s₀ t.backend start₁ endCursor₁ batch₁ := by
    intro start₁ endCursor₁ batch₁ hbatch
    cases hload.symm.trans hbatch.load
    cases (ht start).symm.trans hbatch.scan
    exact hnot endCursor₁ { hbatch with scan := hb start }
  have heffect : TickEffect store config s₀ t _ := tickEffect_scanStep hl s₀ t
  generalize scanStep store config s₀ t = r at heffect ⊢
  cases heffect with
  | unchanged e => rfl
  | initialised answer hnone hcurrent hanswer => cases hload.symm.trans hnone
  | cutOff k e hbatch => exact absurd hbatch hcontra
  | committed answer hbatch hanswer => exact absurd hbatch hcontra

/-- Ticks that were interrupted anywhere do not change what the undisturbed tick ends in. -/
theorem repeat_same (hl : store.Lawful)
    (hload : store.loadScanCursor s₀ config.cursorName = .ok (some start))
    {attempts : List TickInput} (ha : ∀ t ∈ attempts, Returns config t.backend batch)
    (hb : Returns config backend batch) :
    SameStore store (scanStep store config (stateAfter (scanStep store config) s₀ attempts)
        (.undisturbed backend)).2
      (scanStep store config s₀ (.undisturbed backend)).2 := by
  by_cases hacc : ∃ endCursor, AcceptsBatch store config s₀ backend start endCursor batch
  · obtain ⟨endCursor, h₀⟩ := hacc
    have hwithin : Within store config start endCursor batch s₀
        (stateAfter (scanStep store config) s₀ attempts) := by
      induction attempts using List.reverseRecOn with
      | nil => exact ⟨Or.inl hload, fun _ _ => rfl, fun _ _ => rfl⟩
      | append_singleton attempts t ih =>
        rw [stateAfter_append]
        exact (ih (fun t' ht' => ha t' (List.mem_append_left _ ht'))).step hl h₀
          (ha t (by simp))
    obtain ⟨start', haccepts⟩ := hwithin.accepts h₀
    rw [(haccepts backend hb).undisturbed hl, h₀.undisturbed hl]
    exact hwithin.commit_same hl h₀ (haccepts backend hb)
  · have hnot := not_exists.mp hacc
    have hsame : stateAfter (scanStep store config) s₀ attempts = s₀ := by
      induction attempts with
      | nil => rfl
      | cons t attempts ih =>
        rw [stateAfter_cons, scanStep_of_not_accepts hl hload (ha t List.mem_cons_self) hb hnot]
        exact ih (fun t' ht' => ha t' (List.mem_cons_of_mem _ ht'))
    rw [hsame]
    exact ⟨fun _ => rfl, fun _ => rfl⟩

/-- The first tick either does nothing or has already done all. -/
lemma initialise_cases (hl : store.Lawful) {t : TickInput}
    (hload : store.loadScanCursor s₀ config.cursorName = .ok none) :
    (scanStep store config s₀ t).2 = s₀ ∨
      (scanStep store config s₀ t).2 = (scanStep store config s₀ (.undisturbed t.backend)).2 := by
  have heffect : TickEffect store config s₀ t _ := tickEffect_scanStep hl s₀ t
  generalize scanStep store config s₀ t = r at heffect ⊢
  cases heffect with
  | unchanged e => exact Or.inl rfl
  | @initialised c answer hnone hcurrent hanswer =>
    have hplan : plan config t.backend none = .ok _ := bind_eq_ok.mpr ⟨c, hcurrent, rfl⟩
    right
    rw [scanStep_undisturbed hl hload hplan]
    rfl
  | cutOff k e hbatch => cases hload.symm.trans hbatch.load
  | committed answer hbatch hanswer => cases hload.symm.trans hbatch.load

end Repeating
section Main
variable {S : Type} {store : StoreOps S}

/-- Over any sequence of ticks, with any batches and with faults at any store calls. First, a
cursor that has moved past a batch has all records of the batch behind it, and they stay until a
later batch has another record for the same outpoint. Second, a tick that returns an error leaves
every cursor as it was. Third, ticks that were interrupted on a batch and are repeated with it end
in the store of an undisturbed tick. Last, a tick that finds no cursor has done nothing or all. -/
theorem scanner_loses_no_spend (hl : store.Lawful) (config : ScanServiceConfig) (s₀ : S)
    (ticks : List TickInput) :
    (∀ before t later batch, ticks = before ++ t :: later →
      MovesPast store config (stateAfter (scanStep store config) s₀ before) t batch →
      (∀ o, store.observedSpend (stateAfter (scanStep store config) s₀ (before ++ [t])) o =
        store.observedSpend (recordAll store batch.observedSpendRecords
          (stateAfter (scanStep store config) s₀ before)) o) ∧
      ∀ r ∈ batch.observedSpendRecords, ∃ r',
        store.observedSpend (stateAfter (scanStep store config) s₀ ticks) r.spent = .ok (some r') ∧
        (r' ∈ batch.observedSpendRecords ∨ ∃ t' ∈ later, Offers config t' r')) ∧
    (∀ before t later e, ticks = before ++ t :: later →
      (scanStep store config (stateAfter (scanStep store config) s₀ before) t).1 =
        .error (.error e) →
      ∀ name, store.loadScanCursor (stateAfter (scanStep store config) s₀ (before ++ [t])) name =
        store.loadScanCursor (stateAfter (scanStep store config) s₀ before) name) ∧
    (∀ before attempts later start batch backend, ticks = before ++ attempts ++ later →
      store.loadScanCursor (stateAfter (scanStep store config) s₀ before) config.cursorName =
        .ok (some start) →
      (∀ t ∈ attempts, Returns config t.backend batch) → Returns config backend batch →
      SameStore store
        (scanStep store config (stateAfter (scanStep store config) s₀ (before ++ attempts))
          (.undisturbed backend)).2
        (scanStep store config (stateAfter (scanStep store config) s₀ before)
          (.undisturbed backend)).2) ∧
    ∀ before t later, ticks = before ++ t :: later →
      store.loadScanCursor (stateAfter (scanStep store config) s₀ before) config.cursorName =
        .ok none →
      stateAfter (scanStep store config) s₀ (before ++ [t]) =
          stateAfter (scanStep store config) s₀ before ∨
        stateAfter (scanStep store config) s₀ (before ++ [t]) =
          (scanStep store config (stateAfter (scanStep store config) s₀ before)
            (.undisturbed t.backend)).2 := by
  refine ⟨?_, ?_, ?_, ?_⟩
  · rintro before t later batch rfl hmoves
    obtain ⟨start, endCursor, hcommit⟩ := hmoves.committed hl
    have hafter : ∀ o, store.observedSpend
        (stateAfter (scanStep store config) s₀ (before ++ [t])) o =
        store.observedSpend (recordAll store batch.observedSpendRecords
          (stateAfter (scanStep store config) s₀ before)) o := by
      intro o
      rw [stateAfter_append, stateAfter_cons, stateAfter_nil, hcommit, observed_commitBatch hl]
    refine ⟨hafter, fun r hr => ?_⟩
    obtain ⟨r₁, hr₁⟩ := exists_lastRecord hr
    have hfound := (hafter r.spent).trans (observed_recordAll hl _ _ _)
    rw [hr₁] at hfound
    obtain ⟨r', hr', hcase⟩ := observed_stateAfter hl config later hfound
    rw [← stateAfter_append, List.append_assoc, List.singleton_append] at hr'
    refine ⟨r', hr', hcase.imp_left ?_⟩
    rintro rfl
    exact lastRecord_mem hr₁
  · rintro before t later e rfl herror name
    rw [stateAfter_append]
    exact load_of_error hl herror name
  · rintro before attempts later start batch backend rfl hload ha hb
    rw [stateAfter_append]
    exact repeat_same hl hload ha hb
  · rintro before t later rfl hload
    rw [stateAfter_append]
    exact initialise_cases hl hload

def sampleCursor (block : UInt8) (daaScore : UInt64) : ScanCursor :=
  ⟨.kaspaSimnet, Bytes.fill 32 block, daaScore⟩

/-- Two spends in one added block. -/
def sampleBatch : ScanBatch :=
  ⟨[], [Bytes.fill 32 2], some 101, 2,
    [⟨⟨Bytes.fill 32 7, 0⟩, Bytes.fill 32 8, 0, some 101⟩,
      ⟨⟨Bytes.fill 32 7, 1⟩, Bytes.fill 32 8, 1, some 101⟩]⟩

def sampleBackend : ScanBackend :=
  ⟨fun _ => .ok (sampleCursor 1 100), fun _ _ => .ok sampleBatch⟩

def sampleConfig : ScanServiceConfig := ⟨"rgk.main", .kaspaSimnet, none⟩

/-- A tick that sets the cursor, and one that crashes right after its first record. -/
def sampleTicks : List TickInput :=
  [.undisturbed sampleBackend,
    ⟨sampleBackend, fun n => if n = 1 then some .crashAfter else none⟩]

/-- The crashed tick of the sample is repeated over the trees of the persistent indexer. -/
theorem scanner_loses_no_spend_sample :
    SameStore (sledStore SledIndexer.mapTree)
      (scanStep (sledStore SledIndexer.mapTree) sampleConfig
        (stateAfter (scanStep (sledStore SledIndexer.mapTree) sampleConfig)
          ⟨SledIndexer.mapTree.empty, SledIndexer.mapTree.empty⟩ sampleTicks)
        (.undisturbed sampleBackend)).2
      (scanStep (sledStore SledIndexer.mapTree) sampleConfig
        (stateAfter (scanStep (sledStore SledIndexer.mapTree) sampleConfig)
          ⟨SledIndexer.mapTree.empty, SledIndexer.mapTree.empty⟩ [.undisturbed sampleBackend])
        (.undisturbed sampleBackend)).2 := by
  have h := (scanner_loses_no_spend (sledStore_lawful SledIndexer.mapTree_faithful) sampleConfig
    ⟨SledIndexer.mapTree.empty, SledIndexer.mapTree.empty⟩ sampleTicks).2.2.1
  refine h [.undisturbed sampleBackend] _ [] (sampleCursor 1 100) sampleBatch sampleBackend rfl
    ?_ ?_ (fun _ => rfl)
  · decide +kernel
  · intro t ht
    obtain rfl := List.mem_singleton.mp ht
    exact fun _ => rfl

end Main
end RgkProtocol.ScanSafety
