import RgkProtocol.ScanSafety

/-!
# Scanning until nothing is new

`run_until_idle` ticks until so many ticks in a row have brought no block. Here it meets a backend
that serves a chain, a part at a time, and a store that may fail or crash at any call. Whatever the
runs before were cut off by, the next run that is left alone comes to the last block, reports the
blocks that were still missing, and leaves the spends of all blocks in the store.
-/
namespace RgkProtocol.ScanRuns
open ByteStrings Hashing CoreTypes Checked IndexerState IndexerOps ScanStore FaultyCalls Simulation
open ScanService ScanSafety

section Loop

structure ScanRunSummary where
  ticks : ℕ
  initialisedCursor : Bool
  addedChainBlocks : ℕ
  observedSpends : ℕ
  endCursor : Option ScanCursor
  deriving DecidableEq

def ScanRunSummary.new : ScanRunSummary := ⟨0, false, 0, 0, none⟩

def ScanRunSummary.add (summary : ScanRunSummary) (tick : ScanTick) : ScanRunSummary where
  ticks := summary.ticks+1
  initialisedCursor := summary.initialisedCursor || tick.initialisedCursor
  addedChainBlocks := summary.addedChainBlocks+tick.addedChainBlocks
  observedSpends := summary.observedSpends+tick.observedSpends
  endCursor := some tick.endCursor

/-- The idle ticks in a row, counted in a word that does not overflow. -/
def idleAfter (idleTicks : UInt32) (tick : ScanTick) : UInt32 :=
  if tick.addedChainBlocks = 0 ∧ tick.initialisedCursor = false then
    if idleTicks = 2^32-1 then idleTicks else idleTicks+1
  else 0

variable {S : Type} (store : StoreOps S) (config : ScanServiceConfig) (maxIdleTicks : UInt32)

/-- The loop, over the ticks that it comes to make. There is no answer when they end before the
loop does. -/
def runLoop : List TickInput → ScanRunSummary → UInt32 → S →
    Option (Except (Stop SyncError) ScanRunSummary) × S
  | [], _, _, s => (none, s)
  | t :: ticks, summary, idleTicks, s =>
      match scanStep store config s t with
      | (.error e, s) => (some (.error e), s)
      | (.ok tick, s) =>
          if idleAfter idleTicks tick ≥ maxIdleTicks then (some (.ok (summary.add tick)), s)
          else runLoop ticks (summary.add tick) (idleAfter idleTicks tick) s

def runUntilIdle (ticks : List TickInput) (s : S) :
    Option (Except (Stop SyncError) ScanRunSummary) × S :=
  runLoop store config maxIdleTicks ticks .new 0 s

end Loop

section Chains

/-- A block behind the cursor: its hash, the score that accepts it and the spends in it. -/
structure ChainBlock where
  hash : Bytes32
  daaScore : UInt64
  records : List ObservedSpendRecord

def recordsOf (blocks : List ChainBlock) : List ObservedSpendRecord :=
  blocks.flatMap ChainBlock.records

lemma recordsOf_append (blocks segment : List ChainBlock) :
    recordsOf (blocks ++ segment) = recordsOf blocks ++ recordsOf segment := List.flatMap_append

/-- The blocks behind a cursor, in which no outpoint is spent twice. -/
structure ScanChain where
  start : ScanCursor
  blocks : List ChainBlock
  spent_nodup : ((recordsOf blocks).map ObservedSpendRecord.spent).Nodup

/-- The cursor at the last of some blocks. -/
def cursorAfter (start : ScanCursor) (blocks : List ChainBlock) : ScanCursor :=
  match blocks.getLast? with
  | none => start
  | some b => ⟨start.chainId, b.hash, b.daaScore⟩

def batchOf (segment : List ChainBlock) : ScanBatch where
  removedChainBlockHashes := []
  addedChainBlockHashes := segment.map ChainBlock.hash
  lastAddedDaaScore := segment.getLast?.map ChainBlock.daaScore
  observedSpends := (recordsOf segment).length
  observedSpendRecords := recordsOf segment

/-- Asked from any block of the chain, the backend answers with blocks that follow, and only at the
end of the chain with none. -/
def ServesChain (config : ScanServiceConfig) (chain : ScanChain) (backend : ScanBackend) : Prop :=
  ∀ done rest, chain.blocks = done ++ rest → ∃ segment, segment <+: rest ∧
    (segment = [] → rest = []) ∧
    backend.scanFromCursor (cursorAfter chain.start done) config.minConfirmationCount =
      .ok (batchOf segment)

lemma chainId_cursorAfter (start : ScanCursor) (blocks : List ChainBlock) :
    (cursorAfter start blocks).chainId = start.chainId := by
  unfold cursorAfter
  split <;> rfl

lemma endCursor_batchOf (start : ScanCursor) (done segment : List ChainBlock) :
    (batchOf segment).endCursor (cursorAfter start done) = .ok (cursorAfter start (done ++ segment)) := by
  rcases List.eq_nil_or_concat' segment with rfl | ⟨earlier, b, rfl⟩
  · rw [List.append_nil]
    rfl
  · have hlast : cursorAfter start (done ++ (earlier ++ [b])) =
        ⟨start.chainId, b.hash, b.daaScore⟩ := by
      rw [cursorAfter, ← List.append_assoc, List.getLast?_concat]
    rw [hlast]
    simp [batchOf, ScanBatch.endCursor, chainId_cursorAfter, okOr, bind, Except.bind]

lemma plan_served {config : ScanServiceConfig} {chain : ScanChain} {backend : ScanBackend}
    (hchain : chain.start.chainId = config.chainId) {done segment : List ChainBlock}
    (hscan : backend.scanFromCursor (cursorAfter chain.start done) config.minConfirmationCount =
      .ok (batchOf segment)) :
    plan config backend (some (cursorAfter chain.start done)) =
      .ok ⟨⟨false, cursorAfter chain.start done, cursorAfter chain.start (done ++ segment),
          segment.length, (recordsOf segment).length⟩,
        batchWrites (cursorAfter chain.start done) (cursorAfter chain.start (done ++ segment))
          (recordsOf segment)⟩ := by
  have hid : (cursorAfter chain.start done).chainId = config.chainId := by
    rw [chainId_cursorAfter, hchain]
  refine unit_bind_eq_ok.mpr ⟨failIf_eq_ok.mpr (not_not.mpr hid), bind_eq_ok.mpr ⟨_, hscan, ?_⟩⟩
  simp only [planBatch, unit_bind_eq_ok, failIf_eq_ok, not_not]
  refine ⟨rfl, rfl, bind_eq_ok.mpr ⟨_, endCursor_batchOf _ _ _, ?_⟩⟩
  simp [batchOf]

end Chains

section Progress
variable {S : Type} {store : StoreOps S} {config : ScanServiceConfig} {chain : ScanChain} {s : S}
  {done segment : List ChainBlock}

/-- The cursor stands behind these blocks, and their spends are in the store. -/
structure Progress (store : StoreOps S) (config : ScanServiceConfig) (chain : ScanChain) (s : S)
    (done : List ChainBlock) : Prop where
  reached : done <+: chain.blocks
  cursor : store.loadScanCursor s config.cursorName = .ok (some (cursorAfter chain.start done))
  recorded : ∀ r ∈ recordsOf done, store.observedSpend s r.spent = .ok (some r)

lemma eq_of_spent_eq {r r' : ObservedSpendRecord} (hr : r ∈ recordsOf chain.blocks)
    (hr' : r' ∈ recordsOf chain.blocks) (h : r.spent = r'.spent) : r = r' :=
  List.inj_on_of_nodup_map chain.spent_nodup hr hr' h

lemma mem_recordsOf_of_prefix {done blocks : List ChainBlock} (h : done <+: blocks)
    {r : ObservedSpendRecord} (hr : r ∈ recordsOf done) : r ∈ recordsOf blocks := by
  obtain ⟨rest, rfl⟩ := h
  rw [recordsOf_append]
  exact List.mem_append_left _ hr

lemma mem_recordsOf_of_segment (h : done ++ segment <+: chain.blocks) {r : ObservedSpendRecord}
    (hr : r ∈ recordsOf segment) : r ∈ recordsOf chain.blocks := by
  refine mem_recordsOf_of_prefix h ?_
  rw [recordsOf_append]
  exact List.mem_append_right _ hr

variable (hl : store.Lawful) (h : Progress store config chain s done)
include hl h

/-- Records of the chain do not disturb what is recorded of it. -/
lemma recorded_recordAll {records : List ObservedSpendRecord}
    (hrecords : ∀ r ∈ records, r ∈ recordsOf chain.blocks) {r : ObservedSpendRecord}
    (hr : r ∈ records ∨ r ∈ recordsOf done) :
    store.observedSpend (recordAll store records s) r.spent = .ok (some r) := by
  have hmem : r ∈ recordsOf chain.blocks := by
    rcases hr with hr | hr
    · exact hrecords r hr
    · exact mem_recordsOf_of_prefix h.reached hr
  rw [observed_recordAll hl]
  cases hlast : lastRecord records r.spent with
  | some r' =>
    have hspent : r'.spent = r.spent := by
      simpa [lastRecord] using List.find?_some hlast
    rw [eq_of_spent_eq (hrecords r' (lastRecord_mem hlast)) hmem hspent]
  | none =>
    rcases hr with hr | hr
    · obtain ⟨r', hr'⟩ := exists_lastRecord hr
      rw [hr'] at hlast
      cases hlast
    · exact h.recorded r hr

lemma Progress.partly (hsegment : done ++ segment <+: chain.blocks) (k : ℕ) :
    Progress store config chain (recordAll store ((recordsOf segment).take k) s) done := by
  refine ⟨h.reached, by rw [load_recordAll hl, h.cursor], fun r hr => ?_⟩
  refine recorded_recordAll hl h (fun r' hr' => ?_) (.inr hr)
  exact mem_recordsOf_of_segment hsegment (List.mem_of_mem_take hr')

lemma Progress.committed (hsegment : done ++ segment <+: chain.blocks) :
    Progress store config chain (commitBatch store config (cursorAfter chain.start done)
      (cursorAfter chain.start (done ++ segment)) (recordsOf segment) s) (done ++ segment) := by
  have hname := hl.name_of_load s _ _ h.cursor
  refine ⟨hsegment, load_commitBatch hl hname h.cursor, fun r hr => ?_⟩
  rw [observed_commitBatch hl]
  rw [recordsOf_append, List.mem_append] at hr
  exact recorded_recordAll hl h (fun r' => mem_recordsOf_of_segment hsegment) hr.symm

/-- One tick, whatever cuts it off: the cursor stays or goes on with all spends recorded, and an
answer reports what was added. -/
lemma Progress.step (hchain : chain.start.chainId = config.chainId) {t : TickInput}
    (hserves : ServesChain config chain t.backend) :
    ∃ segment, Progress store config chain (scanStep store config s t).2 (done ++ segment) ∧
      ∀ tick, (scanStep store config s t).1 = .ok tick →
        (segment = [] → done = chain.blocks) ∧
        tick = ⟨false, cursorAfter chain.start done, cursorAfter chain.start (done ++ segment),
          segment.length, (recordsOf segment).length⟩ := by
  obtain ⟨rest, hrest⟩ := h.reached
  obtain ⟨segment, hsegment, hlast, hscan⟩ := hserves done rest hrest.symm
  have hreached : done ++ segment <+: chain.blocks := by
    rw [← hrest]
    exact (List.prefix_append_right_inj done).mpr hsegment
  have hplan := plan_served hchain hscan
  have hwritten := h.committed hl hreached
  rw [← writeAll_batchWrites] at hwritten
  have hend : StepEnd store config s t _ := scanStep_cases hl s t
  generalize scanStep store config s t = answer at hend ⊢
  cases hend with
  | idle e => exact ⟨[], by simpa using h, by simp⟩
  | done hload hp =>
    obtain rfl := Except.ok.inj (h.cursor.symm.trans hload)
    obtain rfl := Except.ok.inj (hplan.symm.trans hp)
    refine ⟨segment, hwritten, ?_⟩
    rintro tick ⟨⟩
    refine ⟨fun hnil => ?_, rfl⟩
    rw [← hrest, hlast hnil, List.append_nil]
  | crashed hload hp =>
    obtain rfl := Except.ok.inj (h.cursor.symm.trans hload)
    obtain rfl := Except.ok.inj (hplan.symm.trans hp)
    exact ⟨segment, hwritten, by simp⟩
  | stopped hload hp k hk e =>
    obtain rfl := Except.ok.inj (h.cursor.symm.trans hload)
    obtain rfl := Except.ok.inj (hplan.symm.trans hp)
    refine ⟨[], ?_, by simp⟩
    rw [take_batchWrites hk, writeAll_spends, List.append_nil]
    exact h.partly hl hreached k

end Progress

section Runs
variable {S : Type} {store : StoreOps S} {config : ScanServiceConfig} {chain : ScanChain}
  {maxIdleTicks : UInt32} {s : S} {done : List ChainBlock}

lemma idleAfter_of_added {idleTicks : UInt32} {tick : ScanTick} (h : tick.addedChainBlocks ≠ 0) :
    idleAfter idleTicks tick = 0 := if_neg fun hidle => h hidle.1

lemma idleAfter_of_idle {idleTicks : UInt32} {tick : ScanTick} (hadded : tick.addedChainBlocks = 0)
    (hinit : tick.initialisedCursor = false) (hidle : idleTicks < maxIdleTicks) :
    (idleAfter idleTicks tick).toNat = idleTicks.toNat+1 := by
  have hlt := UInt32.lt_iff_toNat_lt.mp hidle
  have hmax := maxIdleTicks.toNat_lt
  have hne : idleTicks ≠ 2^32-1 := by
    rintro rfl
    have hword : (2^32-1 : UInt32).toNat = 2^32-1 := by decide
    omega
  rw [idleAfter, if_pos ⟨hadded, hinit⟩, if_neg hne, UInt32.toNat_add, UInt32.toNat_one]
  omega

/-- The store after runs that may have been cut off, one after the other. -/
def afterRuns (store : StoreOps S) (config : ScanServiceConfig) (maxIdleTicks : UInt32)
    (runs : List (List TickInput)) (s : S) : S :=
  stateAfter (fun s ticks => runUntilIdle store config maxIdleTicks ticks s) s runs

variable (hl : store.Lawful) (hchain : chain.start.chainId = config.chainId)
include hl hchain

/-- The loop keeps to the chain, and its answer accounts for the blocks it has passed. With at least
one idle tick asked for, an answer means that the chain is at its end. -/
lemma runLoop_spec (maxIdleTicks : UInt32) {ticks : List TickInput}
    (hserves : ∀ t ∈ ticks, ServesChain config chain t.backend)
    (h : Progress store config chain s done) (summary : ScanRunSummary) (idleTicks : UInt32) :
    ∃ segment, Progress store config chain
        (runLoop store config maxIdleTicks ticks summary idleTicks s).2 (done ++ segment) ∧
      ∀ out, (runLoop store config maxIdleTicks ticks summary idleTicks s).1 = some (.ok out) →
        (1 ≤ maxIdleTicks → done ++ segment = chain.blocks) ∧
        out.addedChainBlocks = summary.addedChainBlocks+segment.length ∧
        out.observedSpends = summary.observedSpends+(recordsOf segment).length ∧
        out.endCursor = some (cursorAfter chain.start (done ++ segment)) := by
  induction ticks generalizing s done summary idleTicks with
  | nil => exact ⟨[], by simpa [runLoop] using h, by simp [runLoop]⟩
  | cons t ticks ih =>
    obtain ⟨segment, hnext, htick⟩ := Progress.step hl h hchain (hserves t List.mem_cons_self)
    rw [runLoop]
    cases hstep : scanStep store config s t with
    | mk answer s' =>
      rw [hstep] at hnext htick
      cases answer with
      | error e => exact ⟨segment, hnext, by simp⟩
      | ok tick =>
        obtain ⟨hend, rfl⟩ := htick tick rfl
        dsimp only
        split_ifs with hidle
        · refine ⟨segment, hnext, ?_⟩
          rintro out ⟨⟩
          refine ⟨fun hmax => ?_, rfl, rfl, rfl⟩
          -- The count is not zero, so this tick was idle.
          have hnil : segment = [] := by
            by_contra hne
            rw [idleAfter_of_added (by simpa using hne)] at hidle
            exact absurd (UInt32.le_trans hmax hidle) (by decide)
          rw [hnil, List.append_nil, hend hnil]
        · obtain ⟨more, hprogress, hout⟩ := ih (fun t' ht' => hserves t' (List.mem_cons_of_mem _ ht'))
            hnext _ _
          refine ⟨segment ++ more, by rw [← List.append_assoc]; exact hprogress, fun out hanswer => ?_⟩
          obtain ⟨hdone, hadded, hspends, hcursor⟩ := hout out hanswer
          rw [recordsOf_append, List.length_append, List.length_append, ← List.append_assoc]
          refine ⟨hdone, ?_, ?_, hcursor⟩
          · rw [hadded, ScanRunSummary.add, Nat.add_assoc]
          · rw [hspends, ScanRunSummary.add, Nat.add_assoc]

/-- A run that is left alone ends: every tick adds a block until there is none, and then the idle
ticks are counted up. -/
lemma runLoop_ends {backends : List ScanBackend}
    (hserves : ∀ b ∈ backends, ServesChain config chain b) {rest : List ChainBlock}
    (h : Progress store config chain s done) (hrest : chain.blocks = done ++ rest)
    (summary : ScanRunSummary) {idleTicks : UInt32} (hidle : idleTicks < maxIdleTicks)
    (hlong : rest.length+maxIdleTicks.toNat ≤
      backends.length+(if rest = [] then idleTicks.toNat else 0)) :
    ∃ out, (runLoop store config maxIdleTicks (backends.map .undisturbed) summary idleTicks s).1 =
      some (.ok out) := by
  have hlt := UInt32.lt_iff_toNat_lt.mp hidle
  induction backends generalizing s done rest summary idleTicks with
  | nil =>
    rw [List.length_nil] at hlong
    split_ifs at hlong <;> omega
  | cons b backends ih =>
    obtain ⟨segment, hsegment, hlast, hscan⟩ := hserves b List.mem_cons_self done rest hrest
    have hplan := plan_served hchain hscan
    have hstep := scanStep_undisturbed hl h.cursor hplan
    have hreached : done ++ segment <+: chain.blocks := by
      rw [hrest]
      exact (List.prefix_append_right_inj done).mpr hsegment
    have hnext := h.committed hl hreached
    obtain ⟨later, rfl⟩ := hsegment
    rw [writeAll_batchWrites] at hstep
    rw [List.map_cons, runLoop, hstep]
    dsimp only
    split_ifs with hstop
    · exact ⟨_, rfl⟩
    · refine ih (fun b' hb' => hserves b' (List.mem_cons_of_mem _ hb')) hnext
        (by rw [hrest, List.append_assoc]) _ (UInt32.not_le.mp hstop) ?_
        (UInt32.lt_iff_toNat_lt.mp (UInt32.not_le.mp hstop))
      rw [List.length_cons] at hlong
      by_cases hnil : segment = []
      · have hlater : later = [] := by simpa [hnil] using hlast hnil
        rw [hlast hnil, if_pos rfl] at hlong
        rw [if_pos hlater, idleAfter_of_idle (by simp [hnil]) rfl hidle, hlater]
        simp only [List.length_nil] at hlong ⊢
        omega
      · have hpos := List.length_pos_of_ne_nil hnil
        have hne : segment ++ later ≠ [] := by simp [hnil]
        rw [if_neg hne, List.length_append] at hlong
        rw [idleAfter_of_added (by simpa using hnil)]
        simp only [UInt32.toNat_zero, ite_self]
        omega

lemma Progress.afterRuns (maxIdleTicks : UInt32) {runs : List (List TickInput)}
    (hserves : ∀ ticks ∈ runs, ∀ t ∈ ticks, ServesChain config chain t.backend)
    (h : Progress store config chain s done) :
    ∃ done', Progress store config chain (ScanRuns.afterRuns store config maxIdleTicks runs s)
      done' := by
  induction runs generalizing s done with
  | nil => exact ⟨done, h⟩
  | cons ticks runs ih =>
    obtain ⟨segment, hnext, -⟩ := runLoop_spec hl hchain maxIdleTicks
      (hserves ticks List.mem_cons_self) h ScanRunSummary.new 0
    exact ih (fun ticks' hticks' => hserves ticks' (List.mem_cons_of_mem _ hticks')) hnext

end Runs

/-- After any number of runs that faults and crashes cut off, a run that meets no fault and makes
enough ticks ends. It reports the blocks that the earlier runs have not passed, and then the cursor
is at the last block and the spends of all blocks are in the store. -/
theorem restarted_scans_reach_the_tip {S : Type} (store : StoreOps S) (hl : store.Lawful)
    (config : ScanServiceConfig) (chain : ScanChain)
    (hchain : chain.start.chainId = config.chainId) (s : S)
    (hstart : store.loadScanCursor s config.cursorName = .ok (some chain.start))
    (maxIdleTicks : UInt32) (hmax : 1 ≤ maxIdleTicks) (runs : List (List TickInput))
    (hruns : ∀ ticks ∈ runs, ∀ t ∈ ticks, ServesChain config chain t.backend)
    (backends : List ScanBackend) (hserves : ∀ b ∈ backends, ServesChain config chain b)
    (hlong : chain.blocks.length+maxIdleTicks.toNat ≤ backends.length) :
    ∃ done rest out, chain.blocks = done ++ rest ∧
      Progress store config chain (afterRuns store config maxIdleTicks runs s) done ∧
      (runUntilIdle store config maxIdleTicks (backends.map .undisturbed)
        (afterRuns store config maxIdleTicks runs s)).1 = some (.ok out) ∧
      out.addedChainBlocks = rest.length ∧ out.observedSpends = (recordsOf rest).length ∧
      out.endCursor = some (cursorAfter chain.start chain.blocks) ∧
      Progress store config chain (runUntilIdle store config maxIdleTicks (backends.map .undisturbed)
        (afterRuns store config maxIdleTicks runs s)).2 chain.blocks := by
  have hnone : Progress store config chain s [] := ⟨List.nil_prefix, hstart, by simp [recordsOf]⟩
  obtain ⟨done, hdone⟩ := hnone.afterRuns hl hchain maxIdleTicks hruns
  obtain ⟨rest, hrest⟩ := hdone.reached
  have hlength : rest.length ≤ chain.blocks.length := by
    rw [← hrest, List.length_append]
    omega
  have hzero : (0 : UInt32) < maxIdleTicks := UInt32.lt_of_lt_of_le (by decide) hmax
  obtain ⟨out, hout⟩ := runLoop_ends hl hchain hserves hdone hrest.symm ScanRunSummary.new hzero
    (by omega)
  have hundisturbed : ∀ t ∈ backends.map TickInput.undisturbed,
      ServesChain config chain t.backend := by
    intro t ht
    obtain ⟨b, hb, rfl⟩ := List.mem_map.mp ht
    exact hserves b hb
  obtain ⟨segment, hprogress, hanswer⟩ := runLoop_spec hl hchain maxIdleTicks
    hundisturbed hdone ScanRunSummary.new 0
  obtain ⟨hend, hadded, hspends, hcursor⟩ := hanswer out hout
  obtain rfl : segment = rest := by
    have hsame := hend hmax
    rwa [← hrest, List.append_cancel_left_eq] at hsame
  rw [hrest] at hprogress hcursor
  exact ⟨done, segment, out, hrest.symm, hdone, hout, by simpa [ScanRunSummary.new] using hadded,
    by simpa [ScanRunSummary.new] using hspends, hcursor, hprogress⟩

section Samples

def sampleConfig : ScanServiceConfig := ⟨"main", .kaspaSimnet, none⟩

def sampleStart : ScanCursor := ⟨.kaspaSimnet, Bytes.fill 32 1, 10⟩

def sampleRecord : ObservedSpendRecord := ⟨⟨Bytes.fill 32 3, 0⟩, Bytes.fill 32 4, 0, some 20⟩

def sampleBlock : ChainBlock := ⟨Bytes.fill 32 2, 20, [sampleRecord]⟩

lemma spent_nodup_sample : ((recordsOf [sampleBlock]).map ObservedSpendRecord.spent).Nodup :=
  List.nodup_singleton _

def sampleChain : ScanChain := ⟨sampleStart, [sampleBlock], spent_nodup_sample⟩

def sampleBackend : ScanBackend where
  currentScanCursor _ := .ok sampleStart
  scanFromCursor cursor _ := .ok (batchOf (if cursor = sampleStart then [sampleBlock] else []))

lemma servesChain_sample : ServesChain sampleConfig sampleChain sampleBackend := by
  intro done rest hsplit
  cases done with
  | nil => exact ⟨[sampleBlock], by rw [← List.nil_append rest, ← hsplit]; exact List.prefix_rfl,
      by simp, rfl⟩
  | cons b done =>
    obtain ⟨rfl, hrest⟩ : sampleBlock = b ∧ [] = done ++ rest := List.cons.inj hsplit
    obtain ⟨rfl, rfl⟩ := List.append_eq_nil_iff.mp hrest.symm
    exact ⟨[], List.nil_prefix, fun _ => rfl, rfl⟩

/-- A store with the cursor at the start. -/
def sampleStore : InMemoryIndexer :=
  (inMemoryStore.storeScanCursor "main" sampleStart InMemoryIndexer.new).2

/-- The run ends in a crash, after the spend is recorded and before the cursor is moved. -/
def sampleCrash : List TickInput :=
  [⟨sampleBackend, fun n => if n = 1 then some .crashAfter else none⟩]

end Samples

/-- After the crash the block is scanned once more. -/
theorem restarted_scans_reach_the_tip_sample :
    ∃ out, (runUntilIdle inMemoryStore sampleConfig 1
        ([sampleBackend, sampleBackend].map TickInput.undisturbed)
        (afterRuns inMemoryStore sampleConfig 1 [sampleCrash] sampleStore)).1 = some (.ok out) ∧
      out.endCursor = some ⟨.kaspaSimnet, Bytes.fill 32 2, 20⟩ := by
  obtain ⟨done, rest, out, -, -, hout, -, -, hend, -⟩ := restarted_scans_reach_the_tip inMemoryStore
    inMemoryStore_lawful sampleConfig sampleChain rfl sampleStore (by decide +kernel) 1 (by decide)
    [sampleCrash]
    (by
      intro ticks hticks t ht
      obtain rfl := List.mem_singleton.mp hticks
      obtain rfl := List.mem_singleton.mp ht
      exact servesChain_sample)
    [sampleBackend, sampleBackend]
    (by
      intro b hb
      have hb' : b = sampleBackend := by simpa using hb
      rw [hb']
      exact servesChain_sample)
    (by decide)
  exact ⟨out, hout, hend⟩

end RgkProtocol.ScanRuns
