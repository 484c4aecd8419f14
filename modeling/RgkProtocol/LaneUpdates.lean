import RgkProtocol.WalletScan

/-!
# Lane updates and the split into ticks

The same blocks can be covered by ticks in many ways. The updates after the last tick agree for all
of them exactly when no block spends an outpoint that a lane's covenant watches, so exactly when
the scan has nothing to tell about the lanes.
-/
namespace RgkProtocol.LaneUpdates
open ByteStrings Hashing CoreTypes Checked IndexerState IndexerOps Resolver ScanStore FaultyCalls
open Simulation ScanService ScanSafety WrpcBackend WalletScan

section Verdicts

/-- The outpoints that decide the verdict on a covenant: the open one, and the one that the newest
indexed spend has consumed. -/
def Watches (ix : InMemoryIndexer) (covenant : Bytes32) (o : KaspaOutpoint) : Prop :=
  ∃ e openOutpoint, ix.map.get? covenant = some e ∧ e.openOutpoint = some openOutpoint ∧
    (o = openOutpoint ∨ ∃ s, e.spendHistory.getLast? = some s ∧ o = s.spent)

variable {H : List UInt8 → Bytes32} {node : Node} {network : KaspaChainId} {cache : SpendCache}
  {ix : InMemoryIndexer} {covenant : Bytes32}

lemma reportedSpend_chainBackend (o : KaspaOutpoint) :
    reportedSpend (chainBackend node network cache) covenant o = .ok (cache.get? o) := by
  simp only [reportedSpend, chainBackend]
  cases cache.get? o <;> rfl

lemma networkId_chainBackend (hserver : node.serverInfo = .ok ()) :
    (chainBackend node network cache).networkId = .ok network := by
  simp only [chainBackend, hserver]
  rfl

lemma resolve_eq_unknown (network : KaspaChainId) (hserver : node.serverInfo = .ok ())
    (h : ∀ o, Watches ix covenant o → cache.get? o = none) :
    resolveByCovenant H (RgkResolver.new (chainBackend node network cache) ix network) covenant =
      .unknown covenant := by
  simp only [resolveByCovenant, RgkResolver.new, networkId_chainBackend hserver, ne_eq,
    not_true_eq_false, if_false, InMemoryIndexer.lookup]
  cases hentry : ix.map.get? covenant with
  | none => rfl
  | some e =>
    cases hopen : e.openOutpoint with
    | none => simp only [hopen]
    | some openOutpoint =>
      have hnone := h openOutpoint ⟨e, openOutpoint, hentry, hopen, Or.inl rfl⟩
      have hjudge : judgeOpenOutpoint (RgkResolver.new (chainBackend node network cache) ix network)
          covenant e openOutpoint = .unknown covenant := by
        simp only [judgeOpenOutpoint, RgkResolver.new, chainBackend, hnone, Option.map_none]
      cases hlast : e.spendHistory.getLast? with
      | none =>
        simp only [hopen, hlast]
        exact hjudge
      | some s =>
        have hspent := h s.spent ⟨e, openOutpoint, hentry, hopen, Or.inr ⟨s, hlast, rfl⟩⟩
        simp only [hopen, hlast, reportedSpend_chainBackend, hspent]
        exact hjudge

lemma judgeIndexedSpend_ne_unknown (r : RgkResolver) (e : IndexedCovenant) (s : SpendEntry)
    (sp : SpendingInfo) : resolverStateName (judgeIndexedSpend H r covenant e s sp) ≠ .unknown := by
  simp only [judgeIndexedSpend]
  split_ifs
  · simp [resolverStateName]
  · simp [resolverStateName]
  · simp [resolverStateName]
  · split <;> simp [resolverStateName]
  · split
    · simp [resolverStateName]
    · split <;> simp [resolverStateName]
  · split <;> simp [resolverStateName]
  · split <;> simp [resolverStateName]

lemma judgeOpenOutpoint_ne_unknown {r : RgkResolver} {e : IndexedCovenant}
    {openOutpoint : KaspaOutpoint} {sp : SpendingInfo}
    (hentry : r.indexer.map.get? covenant = some e) (hopen : e.openOutpoint = some openOutpoint)
    (hutxo : r.backend.getUtxo openOutpoint = .ok (some ⟨some sp⟩)) :
    resolverStateName (judgeOpenOutpoint r covenant e openOutpoint) ≠ .unknown := by
  simp only [judgeOpenOutpoint, hutxo, InMemoryIndexer.latestState, InMemoryIndexer.lookup,
    InMemoryIndexer.openOutpoint, hentry, Option.map_some, Option.bind_some, hopen]
  split_ifs
  · simp [resolverStateName]
  · simp [resolverStateName]
  · split <;> simp [resolverStateName]

lemma resolve_ne_unknown (hserver : node.serverInfo = .ok ()) {o : KaspaOutpoint}
    (hw : Watches ix covenant o) (ho : (cache.get? o).isSome) :
    resolverStateName (resolveByCovenant H
      (RgkResolver.new (chainBackend node network cache) ix network) covenant) ≠ .unknown := by
  obtain ⟨e, openOutpoint, hentry, hopen, hcase⟩ := hw
  have hjudge : ∀ sp, cache.get? openOutpoint = some sp → resolverStateName (judgeOpenOutpoint
      (RgkResolver.new (chainBackend node network cache) ix network) covenant e openOutpoint) ≠
      .unknown := by
    intro sp hsp
    have hutxo : (RgkResolver.new (chainBackend node network cache) ix network).backend.getUtxo
        openOutpoint = .ok (some ⟨some sp⟩) := by
      simp only [RgkResolver.new, chainBackend, hsp, Option.map_some]
    exact judgeOpenOutpoint_ne_unknown hentry hopen hutxo
  simp only [resolveByCovenant, RgkResolver.new, networkId_chainBackend hserver, ne_eq,
    not_true_eq_false, if_false, InMemoryIndexer.lookup, hentry, hopen]
  obtain ⟨sp, hsp⟩ := Option.isSome_iff_exists.mp ho
  cases hlast : e.spendHistory.getLast? with
  | none =>
    rcases hcase with rfl | ⟨s, hs, -⟩
    · exact hjudge sp hsp
    · cases hlast.symm.trans hs
  | some s =>
    simp only [reportedSpend_chainBackend]
    cases hspent : cache.get? s.spent with
    | some sp' => exact judgeIndexedSpend_ne_unknown _ e s sp'
    | none =>
      rcases hcase with rfl | ⟨s', hs', rfl⟩
      · exact hjudge sp hsp
      · cases hlast.symm.trans hs'
        cases hspent.symm.trans hsp

end Verdicts
section Lanes
variable {H : List UInt8 → Bytes32}

/-- The index entry that the lane handle names. -/
def indexedLaneOf (ix : InMemoryIndexer) (lane : AssetLane) : Option IndexedLane :=
  (parseBytes32Handle lane.laneId).bind ix.lanes.get?

/-- The covenant that a lane is resolved through. -/
def laneCovenant (ix : InMemoryIndexer) (lane : AssetLane) : Option Bytes32 :=
  match indexedLaneOf ix lane with
  | some indexed => some indexed.covenantId
  | none => parseBytes32Handle lane.covenantId

lemma resolveIndexedLane_eq (r : RgkResolver) (lane : AssetLane) :
    resolveIndexedLane H r lane =
      match laneCovenant r.indexer lane with
      | some covenant => laneUpdateFromResolverState lane (indexedLaneOf r.indexer lane)
          (resolveByCovenant H r covenant)
      | none => ⟨lane.laneId, .unknown, none, none, none⟩ := by
  -- An unknown handle and a handle without an entry both lead to the second attempt.
  have hsecond (hnone : indexedLaneOf r.indexer lane = none) : resolveByCovenantHandle H r lane =
      match laneCovenant r.indexer lane with
      | some covenant => laneUpdateFromResolverState lane (indexedLaneOf r.indexer lane)
          (resolveByCovenant H r covenant)
      | none => ⟨lane.laneId, .unknown, none, none, none⟩ := by
    cases hcovenant : parseBytes32Handle lane.covenantId with
    | none => simp only [resolveByCovenantHandle, laneCovenant, hnone, hcovenant]
    | some covenant => simp only [resolveByCovenantHandle, laneCovenant, hnone, hcovenant]
  cases hlane : parseBytes32Handle lane.laneId with
  | none =>
    simp only [resolveIndexedLane, hlane]
    exact hsecond (by rw [indexedLaneOf, hlane, Option.bind_none])
  | some laneId =>
    have hentry : indexedLaneOf r.indexer lane = r.indexer.lanes.get? laneId := by
      rw [indexedLaneOf, hlane, Option.bind_some]
    cases hindexed : r.indexer.lanes.get? laneId with
    | none =>
      simp only [resolveIndexedLane, hlane, resolveLane, hindexed]
      exact hsecond (hentry.trans hindexed)
    | some indexed =>
      simp only [resolveIndexedLane, hlane, resolveLane, laneCovenant, hentry, hindexed]

/-- The update of a lane on which the scan has nothing to say. -/
def unknownUpdate (ix : InMemoryIndexer) (lane : AssetLane) : LaneResolutionUpdate :=
  match laneCovenant ix lane with
  | some covenant => laneUpdateFromResolverState lane (indexedLaneOf ix lane) (.unknown covenant)
  | none => ⟨lane.laneId, .unknown, none, none, none⟩

lemma unknownUpdate_state (ix : InMemoryIndexer) (lane : AssetLane) :
    (unknownUpdate ix lane).resolverState = .unknown := by
  unfold unknownUpdate
  split <;> rfl

/-- The covenants and the lanes are the same. -/
def SameIndex (ix ix' : InMemoryIndexer) : Prop := ix'.map = ix.map ∧ ix'.lanes = ix.lanes

lemma SameIndex.laneCovenant {ix ix' : InMemoryIndexer} (h : SameIndex ix ix') (lane : AssetLane) :
    laneCovenant ix' lane = laneCovenant ix lane ∧
      indexedLaneOf ix' lane = indexedLaneOf ix lane := by
  have hlane : indexedLaneOf ix' lane = indexedLaneOf ix lane := by rw [indexedLaneOf, h.2]; rfl
  exact ⟨by rw [LaneUpdates.laneCovenant, hlane]; rfl, hlane⟩

lemma SameIndex.watches {ix ix' : InMemoryIndexer} (h : SameIndex ix ix') {covenant : Bytes32}
    {o : KaspaOutpoint} : Watches ix' covenant o ↔ Watches ix covenant o := by
  simp only [Watches, h.1]

variable {node : Node} {network : KaspaChainId} {cache : SpendCache} {ix ix' : InMemoryIndexer}
  {lane : AssetLane}

lemma resolveIndexedLane_unknown (hserver : node.serverInfo = .ok ()) (hsame : SameIndex ix ix')
    (h : ∀ covenant, laneCovenant ix lane = some covenant →
      ∀ o, Watches ix covenant o → cache.get? o = none) :
    resolveIndexedLane H (RgkResolver.new (chainBackend node network cache) ix' network) lane =
      unknownUpdate ix lane := by
  obtain ⟨hcov, hidx⟩ := hsame.laneCovenant lane
  rw [resolveIndexedLane_eq, unknownUpdate]
  simp only [RgkResolver.new, hcov, hidx]
  cases hc : laneCovenant ix lane with
  | none => rfl
  | some covenant =>
    have hresolve := resolve_eq_unknown (H := H) network hserver
      (fun o ho => h covenant hc o (hsame.watches.mp ho))
    exact congrArg (laneUpdateFromResolverState lane (indexedLaneOf ix lane)) hresolve

lemma resolveIndexedLane_known (network : KaspaChainId) (hserver : node.serverInfo = .ok ())
    (hsame : SameIndex ix ix') {covenant : Bytes32} (hc : laneCovenant ix lane = some covenant)
    {o : KaspaOutpoint}
    (hw : Watches ix covenant o) (ho : (cache.get? o).isSome) :
    (resolveIndexedLane H (RgkResolver.new (chainBackend node network cache) ix' network)
      lane).resolverState ≠ .unknown := by
  obtain ⟨hcov, -⟩ := hsame.laneCovenant lane
  rw [resolveIndexedLane_eq]
  simp only [RgkResolver.new, hcov, hc]
  exact resolve_ne_unknown hserver (hsame.watches.mpr hw) ho

end Lanes

section Ticks
variable {H : List UInt8 → Bytes32} {network : KaspaChainId} {lanes : List AssetLane}

lemma recordAll_index (records : List ObservedSpendRecord) (ix : InMemoryIndexer) :
    SameIndex ix (recordAll inMemoryStore records ix) := by
  induction records generalizing ix with
  | nil => exact ⟨rfl, rfl⟩
  | cons r records ih => exact ih (recordObservedSpend ix r).2

lemma commitBatch_index (config : ScanServiceConfig) (start endCursor : ScanCursor)
    (records : List ObservedSpendRecord) (ix : InMemoryIndexer) :
    SameIndex ix (commitBatch inMemoryStore config start endCursor records ix) := by
  have hrecords := recordAll_index records ix
  unfold commitBatch
  split_ifs
  · simp only [inMemoryStore, storeScanCursor]
    split
    · exact hrecords
    · exact hrecords
  · exact hrecords

/-- The cursor that the daemon has stored. -/
def HasCursor (network : KaspaChainId) (ix : InMemoryIndexer) (c : ScanCursor) : Prop :=
  inMemoryStore.loadScanCursor ix (walletScanConfig network).cursorName = .ok (some c) ∧
    c.chainId = network

/-- A scan of a served segment succeeds and resolves the lanes by that segment alone. -/
theorem runScanTick_served (H : List UInt8 → Bytes32) (lanes : List AssetLane)
    {ix : InMemoryIndexer} {node : Node} {c : ScanCursor} {segment : List RpcBlock}
    (hcursor : HasCursor network ix c) (hserves : Serves node c.blockHash segment)
    (hread : ∀ block ∈ segment, block.Readable) :
    ∃ cache ix' c', runScanTick H network lanes ix node =
        (.ok (resolveIndexedLanes H (chainBackend node network cache) ix' network lanes), ix') ∧
      SameIndex ix ix' ∧ HasCursor network ix' c' ∧
      ∀ o, (cache.get? o).isSome ↔ ∃ block ∈ segment, block.Spends o := by
  obtain ⟨batch, cache, hrun, hremoved, hadded, hcounted, hlast, hcache⟩ :=
    run_scanVirtualChainFromBlock hserves hread
  obtain ⟨endCursor, hend⟩ : ∃ endCursor, batch.endCursor c = .ok endCursor := by
    unfold ScanBatch.endCursor
    cases hhash : batch.addedChainBlockHashes.getLast? with
    | none => exact ⟨c, rfl⟩
    | some lastHash =>
      have hne : segment ≠ [] := by
        rintro rfl
        simp [hadded] at hhash
      obtain ⟨daaScore, hdaa⟩ := Option.isSome_iff_exists.mp (hlast hne)
      exact ⟨_, bind_eq_ok.mpr ⟨daaScore, okOr_eq_ok.mpr hdaa, rfl⟩⟩
  have haccepts : AcceptsBatch inMemoryStore (walletScanConfig network) ix
      (scanBackend node OrderedMap.empty) c endCursor batch := by
    refine ⟨hcursor.1, hcursor.2, ?_, hremoved, hcounted, hend⟩
    simp only [scanBackend, walletScanConfig, hrun]
  have hcacheAfter : cacheAfterTick network node ix = cache := by
    simp only [cacheAfterTick, hcursor.1, hcursor.2, if_true, hrun]
  have hname := haccepts.name inMemoryStore_lawful
  refine ⟨cache, commitBatch inMemoryStore (walletScanConfig network) c endCursor
    batch.observedSpendRecords ix, endCursor, ?_, commitBatch_index _ _ _ _ ix,
    ⟨load_commitBatch inMemoryStore_lawful hname hcursor.1,
      (endCursor_of_endCursor hend).2.trans hcursor.2⟩, hcache⟩
  simp only [runScanTick, haccepts.undisturbed inMemoryStore_lawful, hcacheAfter]

/-- Every tick meets a node that serves its segment from the stored cursor. -/
def ServedFrom (H : List UInt8 → Bytes32) (network : KaspaChainId) (lanes : List AssetLane) :
    InMemoryIndexer → List (Node × List RpcBlock) → Prop
  | _, [] => True
  | ix, (node, segment) :: ticks =>
      (∃ c, HasCursor network ix c ∧ Serves node c.blockHash segment) ∧
        ServedFrom H network lanes (runScanTick H network lanes ix node).2 ticks

/-- The updates of the last of several scans. -/
def lastUpdates (H : List UInt8 → Bytes32) (network : KaspaChainId) (lanes : List AssetLane)
    (ix : InMemoryIndexer) (nodes : List Node) :
    Option (Except (Stop SyncError) (List LaneResolutionUpdate)) :=
  (answersOf (runScanTick H network lanes) ix nodes).getLast?

theorem lastUpdates_served {ix : InMemoryIndexer} {ticks : List (Node × List RpcBlock)}
    {last : Node × List RpcBlock} (hlast : ticks.getLast? = some last)
    (hserved : ServedFrom H network lanes ix ticks)
    (hread : ∀ tick ∈ ticks, ∀ block ∈ tick.2, block.Readable) :
    ∃ cache ix', lastUpdates H network lanes ix (ticks.map Prod.fst) =
        some (.ok (resolveIndexedLanes H (chainBackend last.1 network cache) ix' network lanes)) ∧
      SameIndex ix ix' ∧ ∀ o, (cache.get? o).isSome ↔ ∃ block ∈ last.2, block.Spends o := by
  induction ticks generalizing ix with
  | nil => cases hlast
  | cons tick ticks ih =>
    obtain ⟨node, segment⟩ := tick
    obtain ⟨⟨c, hcursor, hserves⟩, hrest⟩ := hserved
    obtain ⟨cache, ix', c', htick, hsame, hcursor', hcache⟩ :=
      runScanTick_served H lanes hcursor hserves (hread _ List.mem_cons_self)
    cases ticks with
    | nil =>
      obtain rfl := Option.some.inj hlast
      exact ⟨cache, ix', by simp [lastUpdates, answersOf, htick], hsame, hcache⟩
    | cons tick ticks =>
      rw [htick] at hrest
      obtain ⟨cache₁, ix₁, hlast₁, hsame₁, hcache₁⟩ := ih (by simpa using hlast) hrest
        (fun t ht => hread t (List.mem_cons_of_mem _ ht))
      refine ⟨cache₁, ix₁, ?_, ⟨hsame₁.1.trans hsame.1, hsame₁.2.trans hsame.2⟩, hcache₁⟩
      rw [← hlast₁]
      simp only [lastUpdates, List.map_cons, answersOf, List.getLast?_cons_cons, htick]

end Ticks
section Splits
variable (H : List UInt8 → Bytes32) (network : KaspaChainId) (lanes : List AssetLane)
  (ix : InMemoryIndexer) (blocks : List RpcBlock) (tip : KaspaTip)

/-- Ticks that together scan the blocks and end at the tip. -/
structure IsCovering (ticks : List (Node × List RpcBlock)) : Prop where
  served : ServedFrom H network lanes ix ticks
  blocks : ticks.flatMap Prod.snd = blocks
  tip : ∃ last, ticks.getLast? = some last ∧ last.1.serverInfo = .ok () ∧
    last.1.currentTip = .ok tip

/-- The updates after the last tick are the same for every covering. -/
def SplitIndependent : Prop :=
  ∀ ticks ticks', IsCovering H network lanes ix blocks tip ticks →
    IsCovering H network lanes ix blocks tip ticks' →
    lastUpdates H network lanes ix (ticks.map Prod.fst) =
      lastUpdates H network lanes ix (ticks'.map Prod.fst)

/-- No block spends an outpoint that decides the verdict on a lane. -/
def NothingToTell : Prop :=
  ∀ lane ∈ lanes, ∀ covenant, laneCovenant ix lane = some covenant →
    ∀ o, Watches ix covenant o → ∀ block ∈ blocks, ¬block.Spends o

/-- A node whose chain grows by exactly this segment. -/
def segmentNode (segment : List RpcBlock) : Node where
  serverInfo := .ok ()
  virtualChainFromBlock _ _ := .ok ⟨[], segment.map RpcBlock.hash⟩
  getBlock hash := okOr (segment.find? (fun block => block.hash = hash)) .notFound
  currentTip := .ok tip

variable {H network lanes ix blocks tip}

lemma segmentNode_serves (tip : KaspaTip) (hdistinct : (blocks.map RpcBlock.hash).Nodup)
    (startHash : Bytes32) :
    Serves (segmentNode tip blocks) startHash blocks where
  chain := rfl
  blocks := by
    intro block hblock
    refine okOr_eq_ok.mpr ?_
    cases hfind : blocks.find? (fun b => b.hash = block.hash) with
    | none =>
      have hnone := List.find?_eq_none.mp hfind block hblock
      simp at hnone
    | some b =>
      have hhash : b.hash = block.hash := by simpa using List.find?_some hfind
      have hmem := List.mem_of_find?_eq_some hfind
      rw [List.inj_on_of_nodup_map hdistinct hmem hblock hhash]

lemma IsCovering.lastUpdates_unknown (hread : ∀ block ∈ blocks, block.Readable)
    (hnothing : NothingToTell lanes ix blocks) {ticks : List (Node × List RpcBlock)}
    (h : IsCovering H network lanes ix blocks tip ticks) :
    lastUpdates H network lanes ix (ticks.map Prod.fst) =
      some (.ok (lanes.map (unknownUpdate ix))) := by
  obtain ⟨last, hlast, hserver, -⟩ := h.tip
  have hsub : ∀ tick ∈ ticks, ∀ block ∈ tick.2, block ∈ blocks := by
    intro tick htick block hblock
    rw [← h.blocks]
    exact List.mem_flatMap.mpr ⟨tick, htick, hblock⟩
  obtain ⟨cache, ix', hupdates, hsame, hcache⟩ := lastUpdates_served hlast h.served
    (fun tick htick block hblock => hread block (hsub tick htick block hblock))
  rw [hupdates, resolveIndexedLanes]
  refine congrArg (fun l => some (Except.ok l)) (List.map_congr_left (fun lane hlane => ?_))
  refine resolveIndexedLane_unknown hserver hsame (fun covenant hc o ho => ?_)
  rw [← Option.not_isSome_iff_eq_none, hcache]
  rintro ⟨block, hblock, hspends⟩
  exact hnothing lane hlane covenant hc o ho block
    (hsub last (List.mem_of_getLast? hlast) block hblock) hspends

/-- One tick over all blocks, and the same tick followed by one without new blocks. -/
lemma isCovering_pair (lanes : List AssetLane) (tip : KaspaTip) {c : ScanCursor}
    (hcursor : HasCursor network ix c)
    (hread : ∀ block ∈ blocks, block.Readable)
    (hdistinct : (blocks.map RpcBlock.hash).Nodup) :
    IsCovering H network lanes ix blocks tip [(segmentNode tip blocks, blocks)] ∧
      IsCovering H network lanes ix blocks tip
        [(segmentNode tip blocks, blocks), (segmentNode tip [], [])] := by
  have hserves := segmentNode_serves tip hdistinct c.blockHash
  obtain ⟨cache, ix', c', htick, -, hcursor', -⟩ :=
    runScanTick_served H lanes hcursor hserves hread
  refine ⟨⟨⟨⟨c, hcursor, hserves⟩, trivial⟩, by simp, ⟨_, rfl, rfl, rfl⟩⟩,
    ⟨⟨⟨c, hcursor, hserves⟩, ?_, trivial⟩, by simp, ⟨_, rfl, rfl, rfl⟩⟩⟩
  rw [htick]
  exact ⟨c', hcursor', ⟨rfl, fun _ hb => absurd hb List.not_mem_nil⟩⟩

lemma not_splitIndependent {c : ScanCursor} (hcursor : HasCursor network ix c)
    (hread : ∀ block ∈ blocks, block.Readable) (hdistinct : (blocks.map RpcBlock.hash).Nodup)
    {lane : AssetLane} (hlane : lane ∈ lanes) {covenant : Bytes32}
    (hc : laneCovenant ix lane = some covenant) {o : KaspaOutpoint} (hw : Watches ix covenant o)
    {block : RpcBlock} (hblock : block ∈ blocks) (hspends : block.Spends o) :
    ¬SplitIndependent H network lanes ix blocks tip := by
  intro hsplit
  obtain ⟨hone, htwo⟩ := isCovering_pair (H := H) lanes tip hcursor hread
    hdistinct
  obtain ⟨cache, ix₁, hupdates, hsame, hcache⟩ := lastUpdates_served
    (rfl : List.getLast? [_] = some (segmentNode tip blocks, blocks)) hone.served
    (fun tick ht => by
      obtain rfl := List.mem_singleton.mp ht
      exact hread)
  obtain ⟨cache', ix₂, hupdates', hsame', hcache'⟩ := lastUpdates_served
    (rfl : List.getLast? [_, _] = some (segmentNode tip [], [])) htwo.served
    (fun tick ht => by
      rcases List.mem_cons.mp ht with rfl | ht
      · exact hread
      · obtain rfl := List.mem_singleton.mp ht
        exact fun _ hb => absurd hb List.not_mem_nil)
  have heq := hsplit _ _ hone htwo
  rw [hupdates, hupdates'] at heq
  have hmaps := Except.ok.inj (Option.some.inj heq)
  have hlaneEq := (List.map_inj_left.mp hmaps) lane hlane
  have hserver : (segmentNode tip blocks).serverInfo = .ok () := rfl
  have hknown := resolveIndexedLane_known (H := H) network hserver hsame hc hw
    ((hcache o).mpr ⟨block, hblock, hspends⟩)
  have hunknown : resolveIndexedLane H
      (RgkResolver.new (chainBackend (segmentNode tip []) network cache') ix₂ network) lane =
      unknownUpdate ix lane := by
    refine resolveIndexedLane_unknown rfl hsame' (fun _ _ o' _ => ?_)
    rw [← Option.not_isSome_iff_eq_none, hcache']
    rintro ⟨_, hb, -⟩
    cases hb
  exact hknown ((congrArg LaneResolutionUpdate.resolverState (hlaneEq.trans hunknown)).trans
    (unknownUpdate_state ix lane))

/-- Lane updates do not depend on the split into ticks exactly when there is nothing to tell. -/
theorem splitIndependent_iff (H : List UInt8 → Bytes32) (network : KaspaChainId)
    (lanes : List AssetLane) (ix : InMemoryIndexer) (blocks : List RpcBlock) (tip : KaspaTip)
    (c : ScanCursor) (hcursor : HasCursor network ix c)
    (hread : ∀ block ∈ blocks, block.Readable)
    (hdistinct : (blocks.map RpcBlock.hash).Nodup) :
    SplitIndependent H network lanes ix blocks tip ↔ NothingToTell lanes ix blocks := by
  constructor
  · intro hsplit lane hlane covenant hc o hw block hblock hspends
    exact not_splitIndependent hcursor hread hdistinct hlane hc hw hblock hspends hsplit
  · intro hnothing ticks ticks' h h'
    rw [h.lastUpdates_unknown hread hnothing, h'.lastUpdates_unknown hread hnothing]

def sampleLaneState (digest : UInt8) : RgkStateCommitment :=
  ⟨1, .kaspaSimnet, Bytes.fill 32 0x22, Bytes.fill 32 0x44, Bytes.fill 32 digest, .verifierOnly⟩

/-- A covenant with one indexed spend, and the cursor of the daemon. -/
def sampleIndex : InMemoryIndexer :=
  runOps Sha256.digest
    [.openCovenant .kaspaSimnet (Bytes.fill 32 0x22) (Bytes.fill 32 0x33) (sampleLaneState 1)
        ⟨Bytes.fill 32 1, 0⟩ 90,
      .applySpendWithContinuation ⟨Bytes.fill 32 0x22, Bytes.fill 32 9, ⟨Bytes.fill 32 1, 0⟩,
        ⟨Bytes.fill 32 2, 0⟩, sampleLaneState 2, 101⟩
        ⟨Bytes.fill 32 5, Bytes.fill 32 6, Bytes.fill 32 7⟩,
      .storeScanCursor "avato-rgk" ⟨.kaspaSimnet, Bytes.fill 32 0xa0, 95⟩]

def sampleLane : AssetLane :=
  ⟨"rgk:lane", String.ofList (List.replicate 64 '2')⟩

/-- The block that has the indexed spend. -/
def sampleBlock : RpcBlock :=
  ⟨Bytes.fill 32 0xa1, 100, none, [⟨some (Bytes.fill 32 2), [⟨Bytes.fill 32 1, 0⟩]⟩]⟩

def sampleTip : KaspaTip := ⟨Bytes.fill 32 0xa1, 200⟩

lemma sampleIndex_hasCursor :
    HasCursor .kaspaSimnet sampleIndex ⟨.kaspaSimnet, Bytes.fill 32 0xa0, 95⟩ := by
  refine ⟨?_, rfl⟩
  decide +kernel

lemma sampleBlock_readable : ∀ block ∈ [sampleBlock], block.Readable := by
  intro block hblock
  obtain rfl := List.mem_singleton.mp hblock
  exact ⟨_, _, rfl⟩

theorem splitIndependent_iff_sample :
    SplitIndependent Sha256.digest .kaspaSimnet [sampleLane] sampleIndex [sampleBlock] sampleTip ↔
      NothingToTell [sampleLane] sampleIndex [sampleBlock] :=
  splitIndependent_iff Sha256.digest .kaspaSimnet [sampleLane] sampleIndex [sampleBlock] sampleTip
    ⟨.kaspaSimnet, Bytes.fill 32 0xa0, 95⟩ sampleIndex_hasCursor sampleBlock_readable
    (List.nodup_singleton _)

/-- The lane is valid after the tick that scans the block, and unknown after a further tick in
which nothing has happened; both are coverings of the one block. -/
theorem valid_lane_becomes_unknown :
    let scanned := (segmentNode sampleTip [sampleBlock], [sampleBlock])
    let idle := (segmentNode sampleTip [], [])
    let states := fun ticks : List (Node × List RpcBlock) =>
      (lastUpdates Sha256.digest .kaspaSimnet [sampleLane] sampleIndex (ticks.map Prod.fst)).map
        (fun updates => updates.toOption.map (List.map LaneResolutionUpdate.resolverState))
    IsCovering Sha256.digest .kaspaSimnet [sampleLane] sampleIndex [sampleBlock] sampleTip
        [scanned] ∧
      IsCovering Sha256.digest .kaspaSimnet [sampleLane] sampleIndex [sampleBlock] sampleTip
        [scanned, idle] ∧
      states [scanned] = some (some [.nativeTransitionedValid]) ∧
      states [scanned, idle] = some (some [.unknown]) := by
  obtain ⟨hone, htwo⟩ := isCovering_pair (H := Sha256.digest) [sampleLane] sampleTip
    sampleIndex_hasCursor sampleBlock_readable (List.nodup_singleton _)
  refine ⟨hone, htwo, ?_, ?_⟩
  · decide +kernel
  · decide +kernel

end Splits
end RgkProtocol.LaneUpdates
