import RgkProtocol.ScanService
import RgkProtocol.Resolver

/-!
# The wRPC backend

The backend asks a node for the chain behind a block and keeps the spends it reads from the added
blocks in a cache. The queries of the resolver are answered from this cache alone: an outpoint
that is not in it is reported as not found, and confirmations are counted from the score that the
cache holds.
-/
namespace RgkProtocol.WrpcBackend
open ByteStrings Hashing CoreTypes Checked IndexerState Resolver ScanService

section Node

structure RpcTransaction where
  verboseTransactionId : Option Bytes32
  inputs : List KaspaOutpoint
  deriving DecidableEq

structure RpcBlock where
  hash : Bytes32
  daaScore : UInt64
  verboseTransactionIds : Option (List Bytes32)
  transactions : List RpcTransaction
  deriving DecidableEq

structure VirtualChain where
  removedChainBlockHashes : List Bytes32
  addedChainBlockHashes : List Bytes32

structure KaspaTip where
  hash : Bytes32
  daaScore : UInt64

/-- The calls that the backend makes on a node. -/
structure Node where
  serverInfo : Except KaspaNetworkError Unit
  virtualChainFromBlock : Bytes32 → Option UInt64 → Except KaspaNetworkError VirtualChain
  getBlock : Bytes32 → Except KaspaNetworkError RpcBlock
  currentTip : Except KaspaNetworkError KaspaTip

end Node

structure ObservedSpend where
  spent : KaspaOutpoint
  inputIndex : UInt32
  info : SpendingInfo
  deriving DecidableEq

abbrev SpendCache := OrderedMap KaspaOutpoint SpendingInfo

/-- Steps that change the cache; what an error leaves there stays. -/
abbrev Observer := EStateM KaspaNetworkError SpendCache

def fromResult {α : Type} (x : Except KaspaNetworkError α) : Observer α := fun cache =>
  match x with
  | .ok a => .ok a cache
  | .error e => .error e cache

@[simp] lemma run_fromResult {α : Type} (x : Except KaspaNetworkError α) (cache : SpendCache) :
    (fromResult x).run cache =
      match x with
      | .ok a => .ok a cache
      | .error e => .error e cache := rfl

section Observing

def observedSpendsFromInputs (txid : Bytes32) (blockDaaScore : Option UInt64) :
    ℕ → List KaspaOutpoint → Except KaspaNetworkError (List ObservedSpend)
  | _, [] => .ok []
  | i, input :: inputs => do
      failIf (i ≥ 2^32) (.invariant "rpc transaction has more than u32::MAX inputs")
      let rest ← observedSpendsFromInputs txid blockDaaScore (i+1) inputs
      .ok (if input = KaspaOutpoint.null then rest
        else ⟨input, UInt32.ofNat i, ⟨txid, blockDaaScore⟩⟩ :: rest)

def observedSpendsFromRpcTransaction (txid : Bytes32) (transaction : RpcTransaction)
    (blockDaaScore : Option UInt64) : Except KaspaNetworkError (List ObservedSpend) :=
  observedSpendsFromInputs txid blockDaaScore 0 transaction.inputs

def rpcTransactionIdFromBlock (block : RpcBlock) (transaction : RpcTransaction) (index : ℕ) :
    Except KaspaNetworkError Bytes32 :=
  match transaction.verboseTransactionId with
  | some txid => .ok txid
  | none => okOr (block.verboseTransactionIds.bind (fun ids => ids[index]?))
      (.invariant "rpc block transaction is missing transaction id data")

def rpcBlockAcceptingDaaScore (block : RpcBlock) : Except KaspaNetworkError UInt64 := do
  failIf (block.daaScore.toNat+1 ≥ 2^64)
    (.invariant "rpc block DAA score overflowed accepting DAA score")
  .ok (block.daaScore+1)

def insertSpends (spends : List ObservedSpend) (cache : SpendCache) : SpendCache :=
  spends.foldl (fun cache spend => cache.insert spend.spent spend.info) cache

def observeTransactions (block : RpcBlock) (acceptingDaaScore : UInt64) :
    ℕ → List RpcTransaction → Observer (List ObservedSpend)
  | _, [] => pure []
  | i, transaction :: transactions => do
      let txid ← fromResult (rpcTransactionIdFromBlock block transaction i)
      let spends ← fromResult
        (observedSpendsFromRpcTransaction txid transaction (some acceptingDaaScore))
      modify (insertSpends spends)
      let rest ← observeTransactions block acceptingDaaScore (i+1) transactions
      pure (spends ++ rest)

def observeRpcBlockSpendRecords (block : RpcBlock) : Observer (List ObservedSpend) := do
  let acceptingDaaScore ← fromResult (rpcBlockAcceptingDaaScore block)
  observeTransactions block acceptingDaaScore 0 block.transactions

/-- Fetch and observe the added blocks, with the last score and the records so far. -/
def scanBlocks (node : Node) : List Bytes32 → Option UInt64 × List ObservedSpend →
    Observer (Option UInt64 × List ObservedSpend)
  | [], acc => pure acc
  | blockHash :: blockHashes, (_, records) => do
      let block ← fromResult (node.getBlock blockHash)
      let daaScore ← fromResult (rpcBlockAcceptingDaaScore block)
      let spends ← observeRpcBlockSpendRecords block
      scanBlocks node blockHashes (some daaScore, records ++ spends)

def ObservedSpend.record (spend : ObservedSpend) : ObservedSpendRecord :=
  ⟨spend.spent, spend.info.txid, spend.inputIndex, spend.info.blockDaaScore⟩

def scanVirtualChainFromBlock (node : Node) (startHash : Bytes32)
    (minConfirmationCount : Option UInt64) : Observer ScanBatch := do
  let response ← fromResult (node.virtualChainFromBlock startHash minConfirmationCount)
  let (lastAddedDaaScore, records) ← scanBlocks node response.addedChainBlockHashes (none, [])
  pure ⟨response.removedChainBlockHashes, response.addedChainBlockHashes, lastAddedDaaScore,
    records.length, records.map ObservedSpend.record⟩

end Observing

section Backends

/-- The scanner's view of a backend with this cache. -/
def scanBackend (node : Node) (cache : SpendCache) : ScanBackend where
  currentScanCursor chainId :=
    match node.currentTip with
    | .ok tip => .ok ⟨chainId, tip.hash, tip.daaScore⟩
    | .error e => .error (.chain e.display)
  scanFromCursor cursor minConfirmationCount :=
    match (scanVirtualChainFromBlock node cursor.blockHash minConfirmationCount).run cache with
    | .ok batch _ => .ok batch
    | .error e _ => .error (.chain e.display)

def observedByTxid (cache : SpendCache) (txid : Bytes32) : Option (KaspaOutpoint × SpendingInfo) :=
  cache.entries.find? (fun entry => entry.2.txid = txid)

/-- The resolver's view of a backend with this cache. -/
def chainBackend (node : Node) (network : KaspaChainId) (cache : SpendCache) :
    KaspaChainBackend where
  networkId := do
    node.serverInfo
    .ok network
  getUtxo outpoint := .ok ((cache.get? outpoint).map (fun spending => ⟨some spending⟩))
  confirmationDepth txid :=
    match observedByTxid cache txid with
    | none => .ok none
    | some (_, spending) =>
        match spending.blockDaaScore with
        | none => .ok none
        | some acceptedDaa => do
            let tip ← node.currentTip
            .ok (if tip.daaScore < acceptedDaa then none
              else some (tip.daaScore-acceptedDaa+1))

end Backends

section Specifications

/-- The block has an input that consumes this outpoint. -/
def RpcBlock.Spends (block : RpcBlock) (o : KaspaOutpoint) : Prop :=
  o ≠ KaspaOutpoint.null ∧ ∃ transaction ∈ block.transactions, o ∈ transaction.inputs

/-- Every part of the block that the scanner needs is there. -/
def RpcBlock.Readable (block : RpcBlock) : Prop :=
  ∃ spends cache, (observeRpcBlockSpendRecords block).run OrderedMap.empty = .ok spends cache

lemma mem_observedSpendsFromInputs {txid : Bytes32} {daaScore : Option UInt64} {i : ℕ}
    {inputs : List KaspaOutpoint} {spends : List ObservedSpend}
    (h : observedSpendsFromInputs txid daaScore i inputs = .ok spends) (o : KaspaOutpoint) :
    (∃ spend ∈ spends, spend.spent = o) ↔ o ≠ KaspaOutpoint.null ∧ o ∈ inputs := by
  induction inputs generalizing i spends with
  | nil =>
    obtain rfl := Except.ok.inj h
    simp
  | cons input inputs ih =>
    obtain ⟨-, h⟩ := unit_bind_eq_ok.mp h
    obtain ⟨rest, hrest, h⟩ := bind_eq_ok.mp h
    obtain rfl := Except.ok.inj h
    have hih := ih hrest
    split_ifs with hnull
    · rw [hih, List.mem_cons]
      constructor
      · exact fun ⟨hne, hmem⟩ => ⟨hne, Or.inr hmem⟩
      · rintro ⟨hne, rfl | hmem⟩
        · exact absurd hnull hne
        · exact ⟨hne, hmem⟩
    · simp only [List.mem_cons, exists_eq_or_imp, hih]
      constructor
      · rintro (rfl | ⟨hne, hmem⟩)
        · exact ⟨hnull, Or.inl rfl⟩
        · exact ⟨hne, Or.inr hmem⟩
      · rintro ⟨hne, rfl | hmem⟩
        · exact Or.inl rfl
        · exact Or.inr ⟨hne, hmem⟩

lemma insertSpends_append (xs ys : List ObservedSpend) (cache : SpendCache) :
    insertSpends (xs ++ ys) cache = insertSpends ys (insertSpends xs cache) := List.foldl_append

lemma insertSpends_get? (spends : List ObservedSpend) (cache : SpendCache) (o : KaspaOutpoint) :
    ((insertSpends spends cache).get? o).isSome ↔
      (∃ spend ∈ spends, spend.spent = o) ∨ (cache.get? o).isSome := by
  induction spends generalizing cache with
  | nil => simp [insertSpends]
  | cons spend spends ih =>
    have hstep : insertSpends (spend :: spends) cache =
        insertSpends spends (cache.insert spend.spent spend.info) := rfl
    rw [hstep, ih, OrderedMap.get?_insert]
    by_cases ho : spend.spent = o
    · simp [ho]
    · simp [ho]

lemma observeTransactions_cons {block : RpcBlock} {daaScore : UInt64} {i : ℕ}
    {transaction : RpcTransaction} {transactions : List RpcTransaction}
    {spends : List ObservedSpend} {c c' : SpendCache}
    (h : (observeTransactions block daaScore i (transaction :: transactions)).run c =
      .ok spends c') :
    ∃ txid here rest, rpcTransactionIdFromBlock block transaction i = .ok txid ∧
      observedSpendsFromRpcTransaction txid transaction (some daaScore) = .ok here ∧
      (observeTransactions block daaScore (i+1) transactions).run (insertSpends here c) =
        .ok rest c' ∧
      spends = here ++ rest := by
  simp only [observeTransactions, EStateM.run_bind, run_fromResult] at h
  cases htxid : rpcTransactionIdFromBlock block transaction i with
  | error e => simp [htxid] at h
  | ok txid =>
    cases hspends : observedSpendsFromRpcTransaction txid transaction (some daaScore) with
    | error e => simp [htxid, hspends] at h
    | ok here =>
      simp only [htxid, hspends, EStateM.run_modify] at h
      cases hrest : (observeTransactions block daaScore (i+1) transactions).run
          (insertSpends here c) with
      | error e c₁ => simp [hrest] at h
      | ok rest c₁ =>
        simp only [hrest, EStateM.run_pure, EStateM.Result.ok.injEq] at h
        obtain ⟨rfl, rfl⟩ := h
        exact ⟨txid, here, rest, rfl, hspends, hrest, rfl⟩

lemma run_observeTransactions {block : RpcBlock} {daaScore : UInt64} {i : ℕ}
    {transactions : List RpcTransaction} {spends : List ObservedSpend} {c c' : SpendCache}
    (h : (observeTransactions block daaScore i transactions).run c = .ok spends c') :
    (∀ cache, (observeTransactions block daaScore i transactions).run cache =
      .ok spends (insertSpends spends cache)) ∧
    ∀ o, (∃ spend ∈ spends, spend.spent = o) ↔
      o ≠ KaspaOutpoint.null ∧ ∃ transaction ∈ transactions, o ∈ transaction.inputs := by
  induction transactions generalizing i spends c c' with
  | nil =>
    cases h
    exact ⟨fun _ => rfl, by simp⟩
  | cons transaction transactions ih =>
    obtain ⟨txid, here, rest, htxid, hspends, hrest, rfl⟩ := observeTransactions_cons h
    obtain ⟨hrun, hmem⟩ := ih hrest
    refine ⟨fun cache => ?_, fun o => ?_⟩
    · simp only [observeTransactions, EStateM.run_bind, run_fromResult, htxid, hspends,
        EStateM.run_modify, hrun, EStateM.run_pure, insertSpends_append]
    · have hhere := mem_observedSpendsFromInputs hspends o
      simp only [List.mem_append, or_and_right, exists_or, hhere, hmem o, List.mem_cons,
        exists_eq_left, and_or_left]

/-- A block that is observed has a score below the largest, and its transactions are observed. -/
lemma observeTransactions_of_block {block : RpcBlock} {spends : List ObservedSpend}
    {c c' : SpendCache} (h : (observeRpcBlockSpendRecords block).run c = .ok spends c') :
    rpcBlockAcceptingDaaScore block = .ok (block.daaScore+1) ∧
      (observeTransactions block (block.daaScore+1) 0 block.transactions).run c =
        .ok spends c' := by
  simp only [observeRpcBlockSpendRecords, EStateM.run_bind, run_fromResult] at h
  cases hdaa : rpcBlockAcceptingDaaScore block with
  | error e => simp [hdaa] at h
  | ok daaScore =>
    obtain rfl : block.daaScore+1 = daaScore := by
      rw [rpcBlockAcceptingDaaScore, unit_bind_eq_ok, Except.ok.injEq] at hdaa
      exact hdaa.2
    simp only [hdaa] at h
    exact ⟨rfl, h⟩

lemma RpcBlock.Readable.run {block : RpcBlock} (h : block.Readable) :
    ∃ daaScore spends, rpcBlockAcceptingDaaScore block = .ok daaScore ∧
      (∀ cache, (observeRpcBlockSpendRecords block).run cache =
        .ok spends (insertSpends spends cache)) ∧
      ∀ o, (∃ spend ∈ spends, spend.spent = o) ↔ block.Spends o := by
  obtain ⟨spends, c, h⟩ := h
  obtain ⟨hdaa, hobserve⟩ := observeTransactions_of_block h
  obtain ⟨hrun, hmem⟩ := run_observeTransactions hobserve
  refine ⟨_, spends, hdaa, fun cache => ?_, hmem⟩
  simp only [observeRpcBlockSpendRecords, EStateM.run_bind, run_fromResult, hdaa]
  exact hrun cache

/-- Asked from this block, the node has exactly these blocks to add. -/
structure Serves (node : Node) (startHash : Bytes32) (segment : List RpcBlock) : Prop where
  chain : node.virtualChainFromBlock startHash none = .ok ⟨[], segment.map RpcBlock.hash⟩
  blocks : ∀ block ∈ segment, node.getBlock block.hash = .ok block

lemma run_scanBlocks {node : Node} {segment : List RpcBlock}
    (hblocks : ∀ block ∈ segment, node.getBlock block.hash = .ok block)
    (hread : ∀ block ∈ segment, block.Readable) (last : Option UInt64)
    (records : List ObservedSpend) (cache : SpendCache) :
    ∃ last' spends, (scanBlocks node (segment.map RpcBlock.hash) (last, records)).run cache =
        .ok (last', records ++ spends) (insertSpends spends cache) ∧
      (last.isSome ∨ segment ≠ [] → last'.isSome) ∧
      ∀ o, (∃ spend ∈ spends, spend.spent = o) ↔ ∃ block ∈ segment, block.Spends o := by
  induction segment generalizing last records cache with
  | nil => exact ⟨last, [], by simp [scanBlocks, insertSpends], by simp, by simp⟩
  | cons block segment ih =>
    obtain ⟨daaScore, spends, hdaa, hrun, hmem⟩ := (hread block List.mem_cons_self).run
    obtain ⟨last', rest, hrest, hlast, hmemRest⟩ := ih
      (fun b hb => hblocks b (List.mem_cons_of_mem _ hb))
      (fun b hb => hread b (List.mem_cons_of_mem _ hb)) (some daaScore) (records ++ spends)
      (insertSpends spends cache)
    refine ⟨last', spends ++ rest, ?_, fun _ => hlast (Or.inl rfl), fun o => ?_⟩
    · simp only [List.map_cons, scanBlocks, EStateM.run_bind, run_fromResult,
        hblocks block List.mem_cons_self, hdaa, hrun, hrest, insertSpends_append,
        List.append_assoc]
    · simp only [List.mem_append, or_and_right, exists_or, hmem, hmemRest, List.mem_cons,
        exists_eq_left]

/-- A scan of a served segment returns a batch that the scan service accepts, and the cache then
holds the outpoints that the segment spends. -/
theorem run_scanVirtualChainFromBlock {node : Node} {startHash : Bytes32}
    {segment : List RpcBlock} (h : Serves node startHash segment)
    (hread : ∀ block ∈ segment, block.Readable) :
    ∃ batch cache,
      (scanVirtualChainFromBlock node startHash none).run OrderedMap.empty = .ok batch cache ∧
      batch.removedChainBlockHashes = [] ∧
      batch.addedChainBlockHashes = segment.map RpcBlock.hash ∧
      batch.observedSpends = batch.observedSpendRecords.length ∧
      (segment ≠ [] → batch.lastAddedDaaScore.isSome) ∧
      ∀ o, (cache.get? o).isSome ↔ ∃ block ∈ segment, block.Spends o := by
  obtain ⟨last, spends, hrun, hlast, hmem⟩ :=
    run_scanBlocks h.blocks hread none [] OrderedMap.empty
  refine ⟨⟨[], segment.map RpcBlock.hash, last, spends.length, spends.map ObservedSpend.record⟩,
    insertSpends spends OrderedMap.empty, ?_, rfl, rfl, by simp, fun hne => hlast (Or.inr hne), ?_⟩
  · simp only [scanVirtualChainFromBlock, EStateM.run_bind, run_fromResult, h.chain, hrun,
      List.nil_append, EStateM.run_pure]
  · intro o
    simp only [insertSpends_get?, hmem, OrderedMap.get?_empty, Option.isSome_none,
      Bool.false_eq_true, or_false]

end Specifications
end RgkProtocol.WrpcBackend
