import RgkProtocol.WrpcBackend
import RgkProtocol.PolicyHistory
import RgkProtocol.CovenantRuns

/-!
# Verdicts on a scanned chain

The parts together: a covenant on the ledger, blocks with the ledger's transactions as a node relays
them, the cache that the scans of these blocks leave, an indexer whose spends are spends of the
chain, and the resolver's verdict over the cache and the index. The verdict names the coin that the
covenant had after the newest indexed spend; whether the covenant is still there is in the cache,
but the verdict does not say it.
-/
namespace RgkProtocol.ChainFollowing
open ByteStrings Hashing CoreTypes Checked LinkedPath UtxoLedger ToccataTx TransactionIdentity
open CovenantScript CovenantLedger CovenantRuns IndexerState IndexerOps IndexerHistory Resolver
open ResolverVerdict WrpcBackend
open CovenantTransactions (sampleChain sampleScript buildScript_sample)

section Blocks

/-- How a node relays what stands at a place of a block: a transaction of the run, or another one,
such as the coinbase, whose spends are of the kind `other`. -/
def Relays (c : Chain) (other : KaspaOutpoint → Bytes32 → Prop) (block : RpcBlock) (i : ℕ)
    (transaction : RpcTransaction) : Option ToccataV1Tx → Prop
  | none => ∀ id, rpcTransactionIdFromBlock block transaction i = .ok id →
      ∀ p ∈ transaction.inputs, p ≠ KaspaOutpoint.null → other p id
  | some tx => transaction.inputs = spentOutpoints tx ∧
      rpcTransactionIdFromBlock block transaction i = .ok (txid c.hash tx)

/-- A block as a node relays it, and what it carries. -/
structure RelayedBlock (c : Chain) (other : KaspaOutpoint → Bytes32 → Prop) where
  block : RpcBlock
  carried : List (Option ToccataV1Tx)
  length_carried : carried.length = block.transactions.length
  relays : ∀ (i : ℕ) (transaction : RpcTransaction) (x : Option ToccataV1Tx),
    block.transactions[i]? = some transaction → carried[i]? = some x →
      Relays c other block i transaction x

variable {c : Chain} {other : KaspaOutpoint → Bytes32 → Prop}

/-- The transactions of the run that are in a block. -/
def RelayedBlock.txs (b : RelayedBlock c other) : List ToccataV1Tx := b.carried.filterMap id

lemma RelayedBlock.mem_txs {b : RelayedBlock c other} {tx : ToccataV1Tx} :
    tx ∈ b.txs ↔ some tx ∈ b.carried := by
  simp [txs]

def txsOf (blocks : List (RelayedBlock c other)) : List ToccataV1Tx :=
  blocks.flatMap RelayedBlock.txs

/-- The transactions, each with the block that it is in. -/
def placed (blocks : List (RelayedBlock c other)) : List (RpcBlock × ToccataV1Tx) :=
  blocks.flatMap fun b => b.txs.map (Prod.mk b.block)

lemma map_snd_placed (blocks : List (RelayedBlock c other)) :
    (placed blocks).map Prod.snd = txsOf blocks := by
  simp [placed, txsOf, List.map_flatMap, Function.comp_def]

lemma mem_txsOf {blocks : List (RelayedBlock c other)} {x : RpcBlock × ToccataV1Tx}
    (hx : x ∈ placed blocks) : x.2 ∈ txsOf blocks :=
  map_snd_placed blocks ▸ List.mem_map_of_mem hx

lemma placed_append (blocks segment : List (RelayedBlock c other)) :
    placed (blocks ++ segment) = placed blocks ++ placed segment := List.flatMap_append

/-- The cache of a backend after scans that brought these blocks, in one call or in many. -/
inductive Caches (node : Node) : List (RelayedBlock c other) → SpendCache → Prop
  | new : Caches node [] OrderedMap.empty
  | scan {blocks segment : List (RelayedBlock c other)} {cache cache' : SpendCache}
      {startHash : Bytes32} {minConfirmationCount : Option UInt64} {removed : List Bytes32}
      {batch : ScanService.ScanBatch}
      (before : Caches node blocks cache)
      (chain : node.virtualChainFromBlock startHash minConfirmationCount =
        .ok ⟨removed, segment.map fun b => b.block.hash⟩)
      (relayed : ∀ b ∈ segment, node.getBlock b.block.hash = .ok b.block)
      (scanned : (scanVirtualChainFromBlock node startHash minConfirmationCount).run cache =
        .ok batch cache') : Caches node (blocks ++ segment) cache'

/-- What the cache holds for a spend in a transaction. -/
def infoOf (c : Chain) (x : RpcBlock × ToccataV1Tx) : SpendingInfo :=
  ⟨txid c.hash x.2, some (x.1.daaScore+1)⟩

/-- The cache holds the spends of these transactions and others of the given kind only. -/
structure Mirrors (c : Chain) (other : KaspaOutpoint → Bytes32 → Prop)
    (xs : List (RpcBlock × ToccataV1Tx)) (cache : SpendCache) : Prop where
  sound : ∀ p info, cache.get? p = some info →
    (∃ x ∈ xs, p ∈ spentOutpoints x.2 ∧ info = infoOf c x) ∨ other p info.txid
  complete : ∀ x ∈ xs, ∀ p ∈ spentOutpoints x.2, p ≠ KaspaOutpoint.null → (cache.get? p).isSome

lemma mem_insertSpends {spends : List ObservedSpend} {cache : SpendCache} {p : KaspaOutpoint}
    {info : SpendingInfo} (h : (insertSpends spends cache).get? p = some info) :
    (∃ spend ∈ spends, spend.spent = p ∧ spend.info = info) ∨ cache.get? p = some info := by
  induction spends generalizing cache with
  | nil => exact .inr h
  | cons first spends ih =>
    have hrest : (insertSpends spends (cache.insert first.spent first.info)).get? p = some info := h
    rcases ih hrest with ⟨spend, hmem, hspend⟩ | hold
    · exact .inl ⟨spend, List.mem_cons_of_mem _ hmem, hspend⟩
    · rw [OrderedMap.get?_insert] at hold
      split_ifs at hold with hp
      · exact .inl ⟨first, List.mem_cons_self, hp, Option.some.inj hold⟩
      · exact .inr hold

end Blocks

section Records
variable {c : Chain} {other : KaspaOutpoint → Bytes32 → Prop}

lemma observedSpendsFromInputs_records {txid : Bytes32} {daaScore : Option UInt64} {i : ℕ}
    {inputs : List KaspaOutpoint} {spends : List ObservedSpend}
    (h : observedSpendsFromInputs txid daaScore i inputs = .ok spends) :
    ∀ spend ∈ spends, spend.spent ∈ inputs ∧ spend.info = ⟨txid, daaScore⟩ := by
  induction inputs generalizing i spends with
  | nil =>
    obtain rfl := Except.ok.inj h
    simp
  | cons input inputs ih =>
    obtain ⟨-, h⟩ := unit_bind_eq_ok.mp h
    obtain ⟨rest, hrest, h⟩ := bind_eq_ok.mp h
    obtain rfl := Except.ok.inj h
    have hold : ∀ spend ∈ rest, spend.spent ∈ input :: inputs ∧ spend.info = ⟨txid, daaScore⟩ := by
      intro spend hspend
      exact ⟨List.mem_cons_of_mem _ (ih hrest spend hspend).1, (ih hrest spend hspend).2⟩
    split_ifs
    · exact hold
    · intro spend hspend
      rcases List.mem_cons.mp hspend with rfl | hspend
      · exact ⟨List.mem_cons_self, rfl⟩
      · exact hold spend hspend

/-- Every record of a block is about an input of one of its transactions, and carries its id. -/
lemma observeTransactions_records {block : RpcBlock} {daaScore : UInt64} {i : ℕ}
    {transactions : List RpcTransaction} {spends : List ObservedSpend} {cache cache' : SpendCache}
    (h : (observeTransactions block daaScore i transactions).run cache = .ok spends cache') :
    ∀ spend ∈ spends, ∃ (j : ℕ) (transaction : RpcTransaction),
      transactions[j]? = some transaction ∧ spend.spent ∈ transaction.inputs ∧
      rpcTransactionIdFromBlock block transaction (i+j) = .ok spend.info.txid ∧
      spend.info.blockDaaScore = some daaScore := by
  induction transactions generalizing i spends cache cache' with
  | nil =>
    cases h
    simp
  | cons transaction transactions ih =>
    obtain ⟨id, here, rest, htxid, hspends, hrest, rfl⟩ := observeTransactions_cons h
    intro spend hspend
    rcases List.mem_append.mp hspend with hspend | hspend
    · obtain ⟨hmem, hinfo⟩ := observedSpendsFromInputs_records hspends spend hspend
      exact ⟨0, transaction, rfl, hmem, by rw [hinfo]; exact htxid, by rw [hinfo]⟩
    · obtain ⟨j, t, ht, hmem, hid, hdaa⟩ := ih hrest spend hspend
      refine ⟨j+1, t, ht, hmem, ?_, hdaa⟩
      rw [← hid]
      congr 1
      omega

/-- The record of a spend in a relayed block is that of a transaction of the run, or another. -/
lemma RelayedBlock.record_of_input (b : RelayedBlock c other) {j : ℕ} {t : RpcTransaction}
    {spend : ObservedSpend} (ht : b.block.transactions[j]? = some t)
    (hinput : spend.spent ∈ t.inputs) (hnull : spend.spent ≠ KaspaOutpoint.null)
    (hid : rpcTransactionIdFromBlock b.block t j = .ok spend.info.txid)
    (hdaa : spend.info.blockDaaScore = some (b.block.daaScore+1)) :
    (∃ tx ∈ b.txs, spend.spent ∈ spentOutpoints tx ∧ spend.info = infoOf c (b.block, tx)) ∨
      other spend.spent spend.info.txid := by
  have hlt : j < b.carried.length := by
    rw [b.length_carried]
    exact (List.getElem?_eq_some_iff.mp ht).1
  have hx : b.carried[j]? = some b.carried[j] := List.getElem?_eq_getElem hlt
  have hrelays := b.relays j t _ ht hx
  cases hcarried : b.carried[j] with
  | none =>
    rw [hcarried] at hrelays
    exact .inr (hrelays _ hid _ hinput hnull)
  | some tx =>
    rw [hcarried] at hrelays hx
    obtain ⟨hspent, htxid⟩ := hrelays
    rw [htxid, Except.ok.injEq] at hid
    refine .inl ⟨tx, RelayedBlock.mem_txs.mpr (List.mem_of_getElem? hx), hspent ▸ hinput, ?_⟩
    obtain ⟨spent, index, info, score⟩ := spend
    exact SpendingInfo.mk.injEq .. |>.mpr ⟨hid.symm, hdaa⟩

/-- What a transaction of the run spends is among the inputs of its block. -/
lemma RelayedBlock.mem_inputs (b : RelayedBlock c other) {tx : ToccataV1Tx} {p : KaspaOutpoint}
    (htx : tx ∈ b.txs) (hp : p ∈ spentOutpoints tx) :
    ∃ t ∈ b.block.transactions, p ∈ t.inputs := by
  obtain ⟨j, hj⟩ := List.getElem?_of_mem (RelayedBlock.mem_txs.mp htx)
  have hlt : j < b.block.transactions.length := by
    rw [← b.length_carried]
    exact (List.getElem?_eq_some_iff.mp hj).1
  have hinputs := (b.relays j _ _ (List.getElem?_eq_getElem hlt) hj).1
  exact ⟨_, List.getElem_mem hlt, hinputs ▸ hp⟩

/-- Observing a relayed block adds the spends of its transactions to the cache. -/
lemma RelayedBlock.mirrors_observe (b : RelayedBlock c other) {xs : List (RpcBlock × ToccataV1Tx)}
    {spends : List ObservedSpend} {cache cache' : SpendCache} (hold : Mirrors c other xs cache)
    (h : (observeRpcBlockSpendRecords b.block).run cache = .ok spends cache') :
    Mirrors c other (xs ++ b.txs.map (Prod.mk b.block)) cache' := by
  obtain ⟨-, h⟩ := observeTransactions_of_block h
  obtain ⟨hrun, hmem⟩ := run_observeTransactions h
  have hcache := (hrun cache).symm.trans h
  injection hcache with _ hcache
  rw [← hcache]
  constructor
  · intro p info hget
    rcases mem_insertSpends hget with ⟨spend, hspend, rfl, rfl⟩ | hbefore
    · obtain ⟨j, t, ht, hinput, hid, hdaa⟩ := observeTransactions_records h spend hspend
      rw [Nat.zero_add] at hid
      have hnull := ((hmem spend.spent).mp ⟨spend, hspend, rfl⟩).1
      rcases b.record_of_input ht hinput hnull hid hdaa with ⟨tx, htx, hspent, hinfo⟩ | hother
      · exact .inl ⟨_, List.mem_append_right _ (List.mem_map_of_mem htx), hspent, hinfo⟩
      · exact .inr hother
    · refine (hold.sound p info hbefore).imp_left ?_
      rintro ⟨x, hx, hrest⟩
      exact ⟨x, List.mem_append_left _ hx, hrest⟩
  · intro x hx p hp hnull
    rw [insertSpends_get?]
    rcases List.mem_append.mp hx with hx | hx
    · exact .inr (hold.complete x hx p hp hnull)
    · obtain ⟨tx, htx, rfl⟩ := List.mem_map.mp hx
      exact .inl ((hmem p).mpr ⟨hnull, b.mem_inputs htx hp⟩)

lemma Mirrors.scanBlocks {node : Node} {segment : List (RelayedBlock c other)}
    (hrelayed : ∀ b ∈ segment, node.getBlock b.block.hash = .ok b.block)
    {xs : List (RpcBlock × ToccataV1Tx)} {acc out : Option UInt64 × List ObservedSpend}
    {cache cache' : SpendCache} (hold : Mirrors c other xs cache)
    (h : (scanBlocks node (segment.map fun b => b.block.hash) acc).run cache = .ok out cache') :
    Mirrors c other (xs ++ placed segment) cache' := by
  induction segment generalizing acc xs cache with
  | nil =>
    cases h
    rwa [placed, List.flatMap_nil, List.append_nil]
  | cons b segment ih =>
    obtain ⟨last, records⟩ := acc
    simp only [List.map_cons, WrpcBackend.scanBlocks, EStateM.run_bind, run_fromResult,
      hrelayed b List.mem_cons_self] at h
    cases hdaa : rpcBlockAcceptingDaaScore b.block with
    | error e => simp [hdaa] at h
    | ok daaScore =>
      cases hobserve : (observeRpcBlockSpendRecords b.block).run cache with
      | error e c₁ => simp [hdaa, hobserve] at h
      | ok here c₁ =>
        simp only [hdaa, hobserve] at h
        have hrest := ih (fun b' hb' => hrelayed b' (List.mem_cons_of_mem _ hb'))
          (b.mirrors_observe hold hobserve) h
        rwa [List.append_assoc] at hrest

theorem Caches.mirrors {node : Node} {blocks : List (RelayedBlock c other)} {cache : SpendCache}
    (h : Caches node blocks cache) : Mirrors c other (placed blocks) cache := by
  induction h with
  | new =>
    constructor
    · intro p info hget
      cases hget
    · intro x hx
      cases hx
  | @scan blocks segment cache cache' startHash minConfirmationCount removed batch before chain
      relayed scanned ih =>
    simp only [scanVirtualChainFromBlock, EStateM.run_bind, run_fromResult, chain] at scanned
    cases hscan : (scanBlocks node (segment.map fun b => b.block.hash) (none, [])).run cache with
    | error e c₁ => simp [hscan] at scanned
    | ok out c₁ =>
      simp only [hscan] at scanned
      injection scanned with _ hcache
      rw [placed_append, ← hcache]
      exact ih.scanBlocks relayed hscan

end Records

section Answers
variable {c : Chain} {other : KaspaOutpoint → Bytes32 → Prop}
  {blocks : List (RelayedBlock c other)} {cache : SpendCache}

/-- The ids of these transactions tell them apart, none spends what another spends, and other spends
keep apart from them. -/
structure Apart (c : Chain) (other : KaspaOutpoint → Bytes32 → Prop) (txs : List ToccataV1Tx) :
    Prop where
  spends : txs.Pairwise fun t u => (spentOutpoints t).Disjoint (spentOutpoints u)
  ids : ∀ t ∈ txs, ∀ u ∈ txs, txid c.hash t = txid c.hash u → spentOutpoints t = spentOutpoints u
  others : ∀ p id, other p id → ∀ t ∈ txs, txid c.hash t ≠ id ∧ p ∉ spentOutpoints t

lemma Apart.eq_of_spends (h : Apart c other (txsOf blocks)) {x y : RpcBlock × ToccataV1Tx}
    (hx : x ∈ placed blocks) (hy : y ∈ placed blocks) {p : KaspaOutpoint}
    (hpx : p ∈ spentOutpoints x.2) (hpy : p ∈ spentOutpoints y.2) : x = y := by
  have hpairs : (placed blocks).Pairwise fun x y =>
      (spentOutpoints x.2).Disjoint (spentOutpoints y.2) := by
    rw [← List.pairwise_map (f := Prod.snd)
      (R := fun t u => (spentOutpoints t).Disjoint (spentOutpoints u)), map_snd_placed]
    exact h.spends
  have hsymm : Std.Symm fun x y : RpcBlock × ToccataV1Tx =>
      (spentOutpoints x.2).Disjoint (spentOutpoints y.2) := ⟨fun _ _ hxy => hxy.symm⟩
  by_contra hne
  exact hpairs.forall hx hy hne hpx hpy

/-- The cache answers for the one transaction that spends an outpoint. -/
lemma Mirrors.get?_eq (h : Mirrors c other (placed blocks) cache)
    (hapart : Apart c other (txsOf blocks)) {x : RpcBlock × ToccataV1Tx} (hx : x ∈ placed blocks)
    {p : KaspaOutpoint} (hp : p ∈ spentOutpoints x.2) (hnull : p ≠ KaspaOutpoint.null) :
    cache.get? p = some (infoOf c x) := by
  obtain ⟨info, hinfo⟩ := Option.isSome_iff_exists.mp (h.complete x hx p hp hnull)
  rcases h.sound p info hinfo with ⟨y, hy, hpy, rfl⟩ | hother
  · rw [hinfo, hapart.eq_of_spends hx hy hp hpy]
  · exact absurd hp (hapart.others p _ hother x.2 (mem_txsOf hx)).2

/-- Whichever spend of a transaction is found by its id, it has the score of its block. -/
lemma Mirrors.observedByTxid_eq (h : Mirrors c other (placed blocks) cache)
    (hapart : Apart c other (txsOf blocks)) {x : RpcBlock × ToccataV1Tx} (hx : x ∈ placed blocks)
    {p : KaspaOutpoint} (hp : p ∈ spentOutpoints x.2) (hnull : p ≠ KaspaOutpoint.null) :
    ∃ q, observedByTxid cache (txid c.hash x.2) = some (q, infoOf c x) := by
  have hentry : (p, infoOf c x) ∈ cache.entries :=
    (OrderedMap.lookup_eq_some_iff cache.sorted).mp (h.get?_eq hapart hx hp hnull)
  have hsome : (observedByTxid cache (txid c.hash x.2)).isSome := by
    rw [observedByTxid, List.find?_isSome]
    exact ⟨_, hentry, by simp [infoOf]⟩
  obtain ⟨⟨q, info⟩, hfind⟩ := Option.isSome_iff_exists.mp hsome
  refine ⟨q, ?_⟩
  have hid : info.txid = txid c.hash x.2 := by simpa using List.find?_some hfind
  rcases h.sound q info ((OrderedMap.lookup_eq_some_iff cache.sorted).mpr
    (List.mem_of_find?_eq_some hfind)) with ⟨y, hy, hq, rfl⟩ | hother
  · have hspends := hapart.ids y.2 (mem_txsOf hy) x.2 (mem_txsOf hx) hid
    rw [hfind, hapart.eq_of_spends hx hy (hspends ▸ hq) hq]
  · exact absurd hid.symm (hapart.others q _ hother x.2 (mem_txsOf hx)).1

/-- The confirmations of a block's transactions at a tip. -/
def scannedDepth (tip : KaspaTip) (block : RpcBlock) : UInt64 :=
  if tip.daaScore < block.daaScore+1 then 0 else tip.daaScore-(block.daaScore+1)+1

lemma Mirrors.depthOf_eq (h : Mirrors c other (placed blocks) cache)
    (hapart : Apart c other (txsOf blocks)) {node : Node} {tip : KaspaTip}
    (htip : node.currentTip = .ok tip) (network : KaspaChainId) {x : RpcBlock × ToccataV1Tx}
    (hx : x ∈ placed blocks) {p : KaspaOutpoint} (hp : p ∈ spentOutpoints x.2)
    (hnull : p ≠ KaspaOutpoint.null) :
    (chainBackend node network cache).depthOf (txid c.hash x.2) = scannedDepth tip x.1 := by
  obtain ⟨q, hq⟩ := h.observedByTxid_eq hapart hx hp hnull
  have hdepth : (chainBackend node network cache).confirmationDepth (txid c.hash x.2) =
      .ok (if tip.daaScore < x.1.daaScore+1 then none
        else some (tip.daaScore-(x.1.daaScore+1)+1)) := by
    simp only [chainBackend, hq, infoOf, htip]
    rfl
  rw [KaspaChainBackend.depthOf, hdepth, scannedDepth]
  split_ifs <;> rfl

end Answers

section Following
variable {c : Chain} {L : Coins} {before later : List ToccataV1Tx} {o : Opening} {id : Bytes32}
  {script : List UInt8}

section
variable (h : OpenedRun c L before o later id script)
include h

lemma openedRun_gone {done : List ToccataV1Tx} (hdone : done <+: later) {tx : ToccataV1Tx}
    (htx : tx ∈ before ++ o.signed :: done) {p : KaspaOutpoint} (hp : p ∈ spentOutpoints tx) :
    p ∉ places (ledgerSince c L before o done) :=
  ((h.settled hdone).gone _ (List.mem_map_of_mem htx) p hp).1

end

lemma openAfter_append_of_unspent {k : UInt32} {done rest : List ToccataV1Tx}
    (hrest : ∀ tx ∈ rest, openAfter c o k done ∉ spentOutpoints tx) :
    openAfter c o k (done ++ rest) = openAfter c o k done := by
  induction rest using List.reverseRecOn with
  | nil => rw [List.append_nil]
  | append_singleton rest tx ih =>
    have hih := ih fun t ht => hrest t (by simp [ht])
    rw [← List.append_assoc, openAfter_concat, hih, if_neg (hrest tx (by simp))]

variable (h : OpenedRun c L before o later id script) {spec : CovenantSpec}
  (hbuild : spec.buildScript = .ok script) {k : UInt32} (hk : o.group.outputs = [k])
include h hbuild hk

/-- A transaction that spends the coin of the covenant is the next one to move it. -/
lemma openedRun_next_move {done : List ToccataV1Tx} (hdone : done <+: later) {tx : ToccataV1Tx}
    (htx : tx ∈ later) (hspent : openAfter c o k done ∈ spentOutpoints tx) :
    ∃ pre, pre ++ [tx] <+: later ∧ openAfter c o k pre = openAfter c o k done ∧
      openAfter c o k (pre ++ [tx]) = ⟨txid c.hash tx, 0⟩ := by
  obtain ⟨rest, rfl⟩ := hdone
  have hheld := mem_of_held_eq (h.sole hbuild hk (List.prefix_append done rest))
  -- The transactions before cannot have spent a coin that is still held.
  have hrest : tx ∈ rest := by
    rcases List.mem_append.mp htx with hold | hrest
    · exact absurd (List.mem_map_of_mem hheld)
        (openedRun_gone h (List.prefix_append done rest) (by simp [hold]) hspent)
    · exact hrest
  obtain ⟨mid, post, rfl⟩ := List.append_of_mem hrest
  have hsame : openAfter c o k (done ++ mid) = openAfter c o k done := by
    refine openAfter_append_of_unspent fun t ht hp => ?_
    obtain ⟨-, hlater, -⟩ := List.pairwise_append.mp (h.runs.spends_apart h.ids)
    obtain ⟨-, hrests, -⟩ := List.pairwise_append.mp (List.pairwise_cons.mp hlater).2
    obtain ⟨-, -, hcross⟩ := List.pairwise_append.mp hrests
    exact hcross t ht tx List.mem_cons_self hp hspent
  refine ⟨done ++ mid, ⟨post, by simp⟩, hsame, ?_⟩
  rw [openAfter_concat, hsame, if_pos hspent]

/-- The spend is a spend of the chain: a transaction made it, into its first output. -/
def OnChain (c : Chain) (later : List ToccataV1Tx) (s : SpendEntry) : Prop :=
  ∃ tx ∈ later, s.spent ∈ spentOutpoints tx ∧ s.created = ⟨txid c.hash tx, 0⟩

/-- The newest spend of the history is the one that moved the coin last in these transactions. -/
def EndsWith (c : Chain) (o : Opening) (k : UInt32) (done : List ToccataV1Tx) (last : SpendEntry) :
    Prop :=
  ∃ pre tx, done = pre ++ [tx] ∧ last.spent = openAfter c o k pre ∧
    last.spent ∈ spentOutpoints tx ∧ last.created = ⟨txid c.hash tx, 0⟩

/-- A history of spends of the chain, from the opened outpoint on, keeps up with the coin. -/
lemma openedRun_follows {start stop : Anchor} {history : List SpendEntry}
    (hstart : start.outpoint = ⟨txid c.hash o.signed, k⟩)
    (hlinked : Linked SpendEntry.before SpendEntry.after start history stop)
    (honchain : ∀ s ∈ history, OnChain c later s) :
    ∃ done, done <+: later ∧ stop.outpoint = openAfter c o k done ∧
      ∀ last, history.getLast? = some last → EndsWith c o k done last := by
  induction history using List.reverseRecOn generalizing stop with
  | nil => exact ⟨[], List.nil_prefix, by rw [← hlinked, hstart]; rfl, by simp⟩
  | append_singleton history s ih =>
    obtain ⟨hearlier, hafter⟩ := linked_concat.mp hlinked
    obtain ⟨done, hdone, hplace, -⟩ := ih hearlier fun t ht => honchain t (by simp [ht])
    obtain ⟨tx, htx, hspent, hcreated⟩ := honchain s (by simp)
    have hplace' : s.spent = openAfter c o k done := hplace
    rw [hplace'] at hspent
    obtain ⟨pre, hpre, hsame, hnext⟩ := openedRun_next_move h hbuild hk hdone htx hspent
    refine ⟨pre ++ [tx], hpre, ?_, ?_⟩
    · rw [hnext, ← hcreated, ← hafter]
      rfl
    · intro last hlast
      obtain rfl : s = last := by simpa using hlast
      exact ⟨pre, tx, rfl, by rw [hplace', hsame], by rw [hplace']; exact hspent, hcreated⟩

end Following

section Verdicts
variable {H : List UInt8 → Bytes32}

/-- The proofs of an indexed spend have been checked. -/
structure SpendChecked (H : List UInt8 → Bytes32) (s : SpendEntry) : Prop where
  complete : ∀ proof, s.continuation = some proof → proof.Complete
  migration : ∀ proof, s.policyMigration = some proof →
    s.previousReceiptPolicy ≠ s.newReceiptPolicy ∧ MigrationProved H s

lemma spendChecked_step {op : IndexerOp} {covenant : Bytes32} {start : Anchor}
    {e e' : IndexedCovenant} (hfrom : HistoryFrom start e) (hs : EntryStep H op covenant e e')
    (h : ∀ s ∈ e.spendHistory, SpendChecked H s) : ∀ s ∈ e'.spendHistory, SpendChecked H s := by
  cases hs with
  | same => exact h
  | @spend call continuation policyMigration hop hc ha =>
    intro s hmem
    rcases List.mem_append.mp hmem with hmem | hmem
    · exact h s hmem
    · obtain rfl := List.mem_singleton.mp hmem
      refine ⟨ha.complete, fun proof hproof => ?_⟩
      obtain ⟨cont, hcont, hv⟩ := ha.migration proof hproof
      have hchanged := hv
      rw [validatePolicyMigrationProof, unit_bind_eq_ok, failIf_eq_ok] at hchanged
      exact ⟨hchanged.1, proof, cont, hproof, hcont, hv⟩
  | rolledBack hn => exact fun s hmem => h s ((rollbackLoop_spec hn hfrom).2.subset hmem)
  | certified receiptId certificate =>
    intro s hmem
    obtain ⟨t, ht, attached, rfl, -⟩ := mem_attachCertificate hmem
    exact ⟨(h t ht).complete, (h t ht).migration⟩

lemma runOps_spendChecked (ops : List IndexerOp) {covenant : Bytes32} {e : IndexedCovenant}
    (he : (runOps H ops).map.get? covenant = some e) : ∀ s ∈ e.spendHistory, SpendChecked H s := by
  induction ops using List.reverseRecOn generalizing e with
  | nil => cases he
  | append_singleton ops op ih =>
    rw [runOps_concat] at he
    rcases stepEntry_cases he with ⟨e₀, he₀, hs⟩ | ⟨-, lineage, initial, o, daa, -, -, rfl⟩
    · obtain ⟨initial, o, -, hfrom⟩ := runOps_historyFrom ops he₀
      exact spendChecked_step hfrom hs (ih he₀)
    · intro s hmem
      cases hmem

/-- What there is to say of a covenant whose newest indexed spend is on the chain. -/
def verdictAt (covenant : Bytes32) (state : RgkStateCommitment) (last : SpendEntry)
    (daaScore depth safety : UInt64) : ResolverState :=
  if depth = 0 then .unconfirmed covenant last.created.transactionId
  else if depth < safety then .reorgRisk covenant daaScore
  else if last.continuation = none then
    .nativeTransitionedInvalid covenant (.structural "missing continuation proof in spend history")
  else if last.previousReceiptPolicy ≠ last.newReceiptPolicy ∧ last.policyMigration = none then
    .policyMigrationRequired covenant last.previousReceiptPolicy last.newReceiptPolicy
  else .nativeTransitionedValid covenant last.spent last.created last.receiptId state
    last.allocationAuditCertificate depth

lemma validateIndexedPolicyMigration_of_proved {s : SpendEntry} {latest : RgkStateCommitment}
    (hproved : MigrationProved H s) (hdigest : latest.stateDigest = s.resultingStateDigest)
    (hpolicy : latest.receiptPolicy = s.newReceiptPolicy) :
    validateIndexedPolicyMigration H s latest = .ok () := by
  obtain ⟨proof, cont, hp, hc, hv⟩ := hproved
  simp only [validatePolicyMigrationProof, unit_bind_eq_ok, failIf_eq_ok, not_not] at hv
  obtain ⟨-, h1, h2, h3, h4, h5, h6, h7⟩ := hv
  simp only [validateIndexedPolicyMigration, bind_eq_ok, okOr_eq_ok]
  simp only [failIf_eq_ok, not_not, exists_const, not_or]
  exact ⟨proof, hp, cont, hc, h1, h2, h2.trans hpolicy.symm, h3, ⟨h4, h4.trans hdigest.symm⟩, h5, h6,
    h7⟩

lemma judgeIndexedSpend_eq {r : RgkResolver} {covenant : Bytes32} {e : IndexedCovenant}
    {last : SpendEntry} {sp : SpendingInfo} (hchecked : SpendChecked H last)
    (hdigest : e.latestState.stateDigest = last.resultingStateDigest)
    (hpolicy : e.latestState.receiptPolicy = last.newReceiptPolicy)
    (htx : last.created.transactionId = sp.txid) :
    judgeIndexedSpend H r covenant e last sp =
      verdictAt covenant e.latestState last (sp.blockDaaScore.getD 0) (r.backend.depthOf sp.txid)
        r.reorgSafetyDepth := by
  cases hcont : last.continuation with
  | none =>
    have hmissing : validateIndexedContinuation last sp.txid =
        .error (.structural "missing continuation proof in spend history") := by
      rw [validateIndexedContinuation, hcont]
      rfl
    simp only [judgeIndexedSpend, verdictAt, hmissing, hcont, htx, ne_eq, not_true_eq_false,
      if_false, if_true]
  | some proof =>
    have hok : validateIndexedContinuation last sp.txid = .ok () :=
      validateIndexedContinuation_eq_ok.mpr ⟨⟨proof, hcont, hchecked.complete proof hcont⟩, htx⟩
    cases hmig : last.policyMigration with
    | none =>
      simp only [judgeIndexedSpend, verdictAt, hok, hcont, hmig, htx, hpolicy, ne_eq,
        not_true_eq_false, reduceCtorEq, and_true, if_false, if_true]
    | some migration =>
      -- A migration proof was checked when the spend was indexed.
      obtain ⟨hne, hproved⟩ := hchecked.migration migration hmig
      have hv := validateIndexedPolicyMigration_of_proved hproved hdigest hpolicy
      simp only [judgeIndexedSpend, verdictAt, hok, hv, hcont, hmig, htx, hpolicy, hne, ne_eq,
        not_true_eq_false, not_false_eq_true, reduceCtorEq, and_false, if_false, if_true]

/-- The resolution of a covenant with a history, when the backend reports the newest spend. -/
lemma resolveByCovenant_reported {ops : List IndexerOp} {backend : KaspaChainBackend}
    {network : KaspaChainId} {safety : UInt64} {covenant : Bytes32} {e : IndexedCovenant}
    {last : SpendEntry} {sp : SpendingInfo} (hnetwork : backend.networkId = .ok network)
    (he : InMemoryIndexer.lookup (runOps H ops) covenant = some e)
    (hlast : e.spendHistory.getLast? = some last)
    (hreported : backend.getUtxo last.spent = .ok (some ⟨some sp⟩))
    (htx : last.created.transactionId = sp.txid) :
    resolveByCovenant H ⟨backend, runOps H ops, network, safety⟩ covenant =
      verdictAt covenant e.latestState last (sp.blockDaaScore.getD 0) (backend.depthOf sp.txid)
        safety := by
  obtain ⟨initial, p, -, hfrom⟩ := runOps_historyFrom ops he
  obtain ⟨hopen, hdigest, hpolicy⟩ := last_spend_ends hfrom hlast
  have hspent : reportedSpend backend covenant last.spent = .ok (some sp) := by
    rw [reportedSpend, hreported]
    rfl
  have hchecked := runOps_spendChecked ops he last (List.mem_of_getLast? hlast)
  simp only [resolveByCovenant, hnetwork, ne_eq, not_true_eq_false, if_false, he, hopen, hlast,
    hspent]
  exact judgeIndexedSpend_eq hchecked hdigest hpolicy htx

end Verdicts

section Chains
variable (c : Chain) (L : Coins) (before later : List ToccataV1Tx) (o : Opening) (k : UInt32)
  (id : Bytes32) (script : List UInt8)

/-- The transaction spends the coin of the covenant where it stands in the run. -/
def Moves (tx : ToccataV1Tx) : Prop :=
  ∃ done, done ++ [tx] <+: later ∧ openAfter c o k done ∈ spentOutpoints tx

/-- A spend that is not of the run, by a transaction with its own id: it takes nothing that the run
takes, and not the coin of the covenant. -/
def Elsewhere (p : KaspaOutpoint) (spender : Bytes32) : Prop :=
  (∀ tx ∈ before ++ o.signed :: later, txid c.hash tx ≠ spender ∧ p ∉ spentOutpoints tx) ∧
    ∀ done, done <+: later → p ≠ openAfter c o k done

/-- A node at a tip, and the cache of a backend that has scanned blocks of the chain. A scan sees
the blocks of the virtual chain and not the ones merged into them, so transactions of the run may be
missing; those that move the covenant are not. -/
structure ScannedChain where
  node : Node
  tip : KaspaTip
  blocks : List (RelayedBlock c (Elsewhere c before later o k))
  cache : SpendCache
  serverInfo : node.serverInfo = .ok ()
  currentTip : node.currentTip = .ok tip
  caches : Caches node blocks cache
  onChain : (txsOf blocks).Sublist (before ++ o.signed :: later)
  moves : ∀ tx, Moves c later o k tx → tx ∈ txsOf blocks

variable {c L before later o k id script}

def ScannedChain.backend (s : ScannedChain c before later o k) (network : KaspaChainId) :
    KaspaChainBackend := chainBackend s.node network s.cache

lemma ScannedChain.apart (s : ScannedChain c before later o k)
    (h : OpenedRun c L before o later id script) :
    Apart c (Elsewhere c before later o k) (txsOf s.blocks) where
  spends := (h.runs.spends_apart h.ids).sublist s.onChain
  ids t ht u hu := spentOutpoints_eq_of_txid (h.runs.short (s.onChain.subset ht))
    (h.runs.short (s.onChain.subset hu)) (h.ids.free t (s.onChain.subset ht) u (s.onChain.subset hu))
  others _ _ hother t ht := hother.1 t (s.onChain.subset ht)

lemma ScannedChain.placed_of_moves (s : ScannedChain c before later o k) {tx : ToccataV1Tx}
    (htx : Moves c later o k tx) : ∃ x ∈ placed s.blocks, x.2 = tx := by
  have hmem := s.moves tx htx
  rw [← map_snd_placed] at hmem
  exact List.mem_map.mp hmem

lemma firstOutput_ne_null {t : Bytes32} (ht : t ≠ Bytes.zero) (k : UInt32) :
    (⟨t, k⟩ : KaspaOutpoint) ≠ KaspaOutpoint.null := by
  intro h
  exact ht (congrArg KaspaOutpoint.transactionId h)

lemma openAfter_ne_null (hids : ∀ tx ∈ before ++ o.signed :: later, txid c.hash tx ≠ Bytes.zero)
    (k : UInt32) {done : List ToccataV1Tx} (hdone : done <+: later) :
    openAfter c o k done ≠ KaspaOutpoint.null := by
  induction done using List.reverseRecOn with
  | nil => exact firstOutput_ne_null (hids o.signed (by simp)) k
  | append_singleton done tx ih =>
    rw [openAfter_concat]
    split_ifs
    · exact firstOutput_ne_null (hids tx (by simp [hdone.subset (show tx ∈ done ++ [tx] by simp)])) 0
    · exact ih ((List.prefix_append done [tx]).trans hdone)

/-- The coin that a prefix of the run leaves is the covenant's coin at the end exactly if the cache
has no spend of it. -/
lemma ScannedChain.still_there (s : ScannedChain c before later o k)
    (h : OpenedRun c L before o later id script) {spec : CovenantSpec}
    (hbuild : spec.buildScript = .ok script) (hk : o.group.outputs = [k])
    (hids : ∀ tx ∈ before ++ o.signed :: later, txid c.hash tx ≠ Bytes.zero)
    {done : List ToccataV1Tx} (hdone : done <+: later) :
    held (carrying id) (ledgerSince c L before o later) =
        [(openAfter c o k done, ⟨c.lock script, some id⟩)] ↔
      s.cache.get? (openAfter c o k done) = none := by
  have hmirrors := s.caches.mirrors
  constructor
  · intro hheld
    by_contra hsome
    obtain ⟨info, hinfo⟩ := Option.ne_none_iff_exists'.mp hsome
    rcases hmirrors.sound _ info hinfo with ⟨x, hx, hspent, -⟩ | hother
    · exact openedRun_gone h List.prefix_rfl (s.onChain.subset (mem_txsOf hx)) hspent
        (List.mem_map_of_mem (mem_of_held_eq hheld))
    · exact hother.2 done hdone rfl
  · intro hnone
    obtain ⟨rest, hrest⟩ := hdone
    have hsame : openAfter c o k later = openAfter c o k done := by
      rw [← hrest]
      refine openAfter_append_of_unspent fun tx htx hspent => ?_
      obtain ⟨pre, hpre, hsame, -⟩ := openedRun_next_move h hbuild hk ⟨rest, hrest⟩
        (hrest ▸ List.mem_append_right done htx) hspent
      obtain ⟨x, hx, rfl⟩ := s.placed_of_moves ⟨pre, hpre, hsame ▸ hspent⟩
      have hsome := hmirrors.complete x hx _ hspent (openAfter_ne_null hids k ⟨rest, hrest⟩)
      rw [hnone] at hsome
      cases hsome
    rw [h.sole hbuild hk List.prefix_rfl, hsame]

end Chains

/-- The indexer's entry of the covenant was opened at the covenant's first coin, and its spends are
spends of the chain. Then the verdict over a scanned chain is about the transaction that made the
newest of them; the outpoint that the verdict names is where the one coin of the covenant was after
that transaction. It is there still exactly if the backend knows of no spend of it. -/
theorem verdict_follows_the_coin (c : Chain) (L : Coins) (before later : List ToccataV1Tx)
    (o : Opening) (id : Bytes32) (script : List UInt8) (h : OpenedRun c L before o later id script)
    (spec : CovenantSpec) (hbuild : spec.buildScript = .ok script) (k : UInt32)
    (hk : o.group.outputs = [k])
    (hids : ∀ tx ∈ before ++ o.signed :: later, txid c.hash tx ≠ Bytes.zero)
    (s : ScannedChain c before later o k) (H : List UInt8 → Bytes32) (ops : List IndexerOp)
    (hopened : ∀ initial p, OpenedWith H ops id initial p → p = ⟨txid c.hash o.signed, k⟩)
    (e : IndexedCovenant) (he : InMemoryIndexer.lookup (runOps H ops) id = some e)
    (honchain : ∀ spend ∈ e.spendHistory, OnChain c later spend) (last : SpendEntry)
    (hlast : e.spendHistory.getLast? = some last) (network : KaspaChainId) (safety : UInt64) :
    ∃ done x, done <+: later ∧ x ∈ placed s.blocks ∧ last.spent ∈ spentOutpoints x.2 ∧
      last.created = ⟨txid c.hash x.2, 0⟩ ∧
      resolveByCovenant H ⟨s.backend network, runOps H ops, network, safety⟩ id =
        verdictAt id e.latestState last (x.1.daaScore+1) (scannedDepth s.tip x.1) safety ∧
      held (carrying id) (ledgerSince c L before o done) =
        [(last.created, ⟨c.lock script, some id⟩)] ∧
      (held (carrying id) (ledgerSince c L before o later) =
          [(last.created, ⟨c.lock script, some id⟩)] ↔
        (s.backend network).getUtxo last.created = .ok none) := by
  obtain ⟨initial, p, hopen, place, hplace, hlinked⟩ := runOps_historyFrom ops he
  obtain ⟨done, hdone, -, hends⟩ := openedRun_follows h hbuild hk (hopened initial p hopen) hlinked
    honchain
  obtain ⟨pre, tx, rfl, hpre, hspent, hcreated⟩ := hends last hlast
  obtain ⟨x, hx, rfl⟩ := s.placed_of_moves ⟨pre, hdone, hpre ▸ hspent⟩
  have hnow : openAfter c o k (pre ++ [x.2]) = last.created := by
    rw [openAfter_concat, ← hpre, if_pos hspent, hcreated]
  have hnull : last.spent ≠ KaspaOutpoint.null := by
    rw [hpre]
    exact openAfter_ne_null hids k ((List.prefix_append pre [x.2]).trans hdone)
  have hmirrors := s.caches.mirrors
  have hget := hmirrors.get?_eq (s.apart h) hx hspent hnull
  have hdepth := hmirrors.depthOf_eq (s.apart h) s.currentTip network hx hspent hnull
  refine ⟨pre ++ [x.2], x, hdone, hx, hspent, hcreated, ?_, ?_, ?_⟩
  · have hnetwork : (s.backend network).networkId = .ok network := by
      simp only [ScannedChain.backend, chainBackend, s.serverInfo]
      rfl
    have hreported : (s.backend network).getUtxo last.spent = .ok (some ⟨some (infoOf c x)⟩) := by
      simp only [ScannedChain.backend, chainBackend, hget, Option.map_some]
    rw [resolveByCovenant_reported hnetwork he hlast hreported (by rw [hcreated]; rfl)]
    exact congrArg (fun depth => verdictAt id e.latestState last (x.1.daaScore+1) depth safety) hdepth
  · rw [h.sole hbuild hk hdone, hnow]
  · have hstill := s.still_there h hbuild hk hids hdone
    rw [hnow] at hstill
    rw [hstill]
    simp [ScannedChain.backend, chainBackend]

section Samples

/-- The states of a sample covenant. -/
def sampleStateAt (id : Bytes32) (digest : UInt8) : RgkStateCommitment :=
  ⟨1, .kaspaSimnet, id, Bytes.fill 32 0x22, Bytes.fill 32 digest, .verifierOnly⟩

def sampleCall (id : Bytes32) (first second : KaspaOutpoint) : SpendCall :=
  ⟨id, Bytes.fill 32 5, first, second, sampleStateAt id 2, 101⟩

def sampleProof : ContinuationProof := ⟨Bytes.fill 32 0x44, Bytes.fill 32 0x55, Bytes.fill 32 0x66⟩

def sampleEntryAt (id : Bytes32) (first : KaspaOutpoint) : IndexedCovenant :=
  .opened id .kaspaSimnet (Bytes.fill 32 0x33) (sampleStateAt id 1) first 90

/-- The covenant is opened at its first coin, and its transition is indexed. -/
def sampleOps (id : Bytes32) (first second : KaspaOutpoint) : List IndexerOp :=
  [.openCovenant .kaspaSimnet id (Bytes.fill 32 0x33) (sampleStateAt id 1) first 90,
    .applySpendWithContinuation (sampleCall id first second) sampleProof]

lemma lookup_sampleOps (id : Bytes32) (first second : KaspaOutpoint) :
    InMemoryIndexer.lookup (runOps Sha256.digest (sampleOps id first second)) id =
      some (entryAfterSpend (sampleEntryAt id first) (sampleCall id first second) (some sampleProof)
        none) := by
  have haccepted : applySpendToEntry Sha256.digest (sampleEntryAt id first)
      (sampleCall id first second) (some sampleProof) none =
        .ok (entryAfterSpend (sampleEntryAt id first) (sampleCall id first second)
          (some sampleProof) none) := by
    refine applySpendToEntry_eq_ok.mpr ⟨⟨?_, by simp [sampleEntryAt, IndexedCovenant.opened], rfl,
      rfl, rfl, rfl, ?_, by simp⟩, rfl⟩
    · rintro proof ⟨⟩
      simp only [ContinuationProof.Complete]
      decide
    · change Bytes.fill 32 1 ≠ Bytes.fill 32 2
      decide
  have hopen : (step Sha256.digest InMemoryIndexer.new (.openCovenant .kaspaSimnet id
      (Bytes.fill 32 0x33) (sampleStateAt id 1) first 90)).map.get? id =
        some (sampleEntryAt id first) := by
    simp [step, IndexerOp.apply, IndexerOps.openCovenant, InMemoryIndexer.new, sampleStateAt,
      sampleEntryAt]
  have hcovenant : (sampleCall id first second).covenant = id := rfl
  simp only [runOps, sampleOps, List.foldl_cons, List.foldl_nil]
  rw [step, IndexerOp.apply, applySpendWithContinuation, applySpendWith, withEntry, hcovenant]
  simp only [hopen, haccepted, InMemoryIndexer.lookup, OrderedMap.get?_insert_self]

lemma opened_sampleOps (id : Bytes32) (first second : KaspaOutpoint) (initial : RgkStateCommitment)
    (p : KaspaOutpoint) (h : OpenedWith Sha256.digest (sampleOps id first second) id initial p) :
    p = first := by
  obtain ⟨pre, post, chain, lineage, daa, hops, -⟩ := h
  cases pre with
  | nil =>
    simp only [sampleOps, List.nil_append, List.cons.injEq, IndexerOp.openCovenant.injEq] at hops
    exact hops.1.2.2.2.2.1.symm
  | cons op pre =>
    have hmem : IndexerOp.openCovenant chain id lineage initial p daa ∈
        [IndexerOp.applySpendWithContinuation (sampleCall id first second) sampleProof] := by
      simp only [sampleOps, List.cons_append, List.cons.injEq] at hops
      rw [hops.2]
      simp
    simp at hmem

def sampleNode (block : RpcBlock) : Node where
  serverInfo := .ok ()
  virtualChainFromBlock _ _ := .ok ⟨[], [block.hash]⟩
  getBlock _ := .ok block
  currentTip := .ok ⟨Bytes.fill 32 9, 200⟩

def cacheOf (block : RpcBlock) : SpendCache :=
  match (scanVirtualChainFromBlock (sampleNode block) Bytes.zero none).run OrderedMap.empty with
  | .ok _ cache => cache
  | .error _ cache => cache

lemma caches_sampleNode {c : Chain} {other : KaspaOutpoint → Bytes32 → Prop}
    (b : RelayedBlock c other) (hread : b.block.Readable) :
    Caches (sampleNode b.block) [b] (cacheOf b.block) := by
  have hserves : Serves (sampleNode b.block) Bytes.zero [b.block] := by
    refine ⟨rfl, fun block hblock => ?_⟩
    rw [List.mem_singleton.mp hblock]
    rfl
  obtain ⟨batch, cache, hrun, -⟩ := run_scanVirtualChainFromBlock hserves (by simpa using hread)
  have hcache : cacheOf b.block = cache := by rw [cacheOf, hrun]
  rw [← hcache] at hrun
  have hrelayed : ∀ b' ∈ [b], (sampleNode b.block).getBlock b'.block.hash = .ok b'.block := by
    intro b' hb'
    rw [List.mem_singleton.mp hb']
    rfl
  exact Caches.scan .new rfl hrelayed hrun

/-- A block with its coinbase and one transaction. -/
def blockOf (c : Chain) (t : ToccataV1Tx) : RpcBlock :=
  ⟨Bytes.fill 32 7, 100, none, [⟨some (Bytes.fill 32 8), []⟩,
    ⟨some (txid c.hash t), spentOutpoints t⟩]⟩

lemma blockOf_relays (c : Chain) (other : KaspaOutpoint → Bytes32 → Prop) (t : ToccataV1Tx) (i : ℕ)
    (transaction : RpcTransaction) (x : Option ToccataV1Tx)
    (h : (blockOf c t).transactions[i]? = some transaction)
    (hx : [none, some t][i]? = some x) : Relays c other (blockOf c t) i transaction x := by
  rcases i with _ | _ | i
  · obtain rfl := Option.some.inj h
    obtain rfl := Option.some.inj hx
    exact fun _ _ p hp => absurd hp List.not_mem_nil
  · obtain rfl := Option.some.inj h
    obtain rfl := Option.some.inj hx
    exact ⟨rfl, rfl⟩
  · simp at hx

def sampleFirst : KaspaOutpoint := ⟨txid sampleHasher sampleOpened.signed, 0⟩

def sampleSecond : KaspaOutpoint := ⟨txid sampleHasher sampleNext, 0⟩

def sampleBlock : RelayedBlock sampleChain (Elsewhere sampleChain [] [sampleNext] sampleOpened 0) :=
  ⟨blockOf _ sampleNext, [none, some sampleNext], rfl, blockOf_relays _ _ _⟩

lemma caches_sampleBlock : Caches (sampleNode sampleBlock.block) [sampleBlock]
    (cacheOf sampleBlock.block) :=
  caches_sampleNode sampleBlock ⟨_, _, rfl⟩

lemma moves_sampleBlock (tx : ToccataV1Tx) (h : Moves sampleChain [sampleNext] sampleOpened 0 tx) :
    tx ∈ txsOf [sampleBlock] := by
  obtain ⟨done, hdone, -⟩ := h
  exact hdone.subset (List.mem_append_right _ List.mem_cons_self)

lemma onChain_sampleBlock : (txsOf [sampleBlock]).Sublist [sampleOpened.signed, sampleNext] :=
  (List.suffix_cons _ _).sublist

def sampleScanned : ScannedChain sampleChain [] [sampleNext] sampleOpened 0 :=
  ⟨sampleNode sampleBlock.block, ⟨Bytes.fill 32 9, 200⟩, [sampleBlock], cacheOf sampleBlock.block,
    rfl, rfl, caches_sampleBlock, onChain_sampleBlock, moves_sampleBlock⟩

lemma txid_sample_ne_zero : ∀ tx ∈ [sampleOpened.signed, sampleNext],
    txid sampleHasher tx ≠ Bytes.zero := by
  decide +kernel

end Samples

/-- The opening and the transition of the sample run, indexed and scanned. -/
theorem verdict_follows_the_coin_sample :
    resolveByCovenant Sha256.digest ⟨sampleScanned.backend .kaspaSimnet,
        runOps Sha256.digest (sampleOps (sampleId sampleScript 1) sampleFirst
          sampleSecond), .kaspaSimnet, 10⟩ (sampleId sampleScript 1) =
      .nativeTransitionedValid (sampleId sampleScript 1) sampleFirst
        sampleSecond (Bytes.fill 32 5) (sampleStateAt (sampleId sampleScript 1) 2)
        none 100 := by
  obtain ⟨done, x, -, hx, -, -, hverdict, -⟩ := verdict_follows_the_coin _ _ _ _ _ _ _
    openedRun_sampleNext CovenantSpend.sampleSpec buildScript_sample 0 rfl
    txid_sample_ne_zero sampleScanned Sha256.digest _ (opened_sampleOps _ sampleFirst sampleSecond) _
    (lookup_sampleOps _ sampleFirst sampleSecond)
    (by
      intro spend hspend
      obtain rfl := List.mem_singleton.mp hspend
      exact ⟨sampleNext, by simp, List.mem_singleton_self _, rfl⟩)
    _ rfl .kaspaSimnet 10
  obtain rfl := List.mem_singleton.mp hx
  exact hverdict

end RgkProtocol.ChainFollowing
