import RgkProtocol.IndexerRebuild

/-!
# The representation invariant of the indexer

An entry keeps its receipts, outpoints, digests and policies in parallel: the list of accepted
receipts repeats what the history holds, and the history is linked in all three respects. One
step of an entry keeps this together, so every reachable indexer has it. A call that fails leaves
the indexer as it was, and no call changes what an entry is about.
-/
namespace RgkProtocol.IndexerInvariant
open ByteStrings Hashing CoreTypes Checked IndexerState IndexerOps LinkedPath IndexerHistory
open IndexerRebuild

section Rollbacks

/-- The entry when `s` and all later spends are taken back. -/
def beforeSpend (e : IndexedCovenant) (earlier : List SpendEntry) (s : SpendEntry)
    (receipts : List Bytes32) : IndexedCovenant :=
  { e with
    openOutpoint := some s.spent
    latestState := { e.latestState with
      stateDigest := s.newStateDigest
      receiptPolicy := s.previousReceiptPolicy }
    acceptedReceipts := receipts
    spendHistory := earlier
    lastUpdateDaaScore := UInt64.ofNat (s.daaScore.toNat-1) }

lemma rollbackOne_eq {e : IndexedCovenant} {earlier : List SpendEntry} {s : SpendEntry}
    (h : e.spendHistory = earlier ++ [s]) :
    rollbackOne e = (.ok (), beforeSpend e earlier s e.acceptedReceipts.dropLast) := by
  simp [rollbackOne, h, beforeSpend]

lemma rollbackLoop_succ {n : ℕ} {e e' : IndexedCovenant} (h : rollbackOne e = (.ok (), e')) :
    rollbackLoop (n+1) e = rollbackLoop n e' := by
  rw [rollbackLoop, h]

/-- Rolling back over `s` and the spends after it leaves what `s` recorded of its past. -/
theorem rollbackLoop_eq {e : IndexedCovenant} {earlier later : List SpendEntry} {s : SpendEntry}
    (h : e.spendHistory = earlier ++ s :: later) :
    rollbackLoop (later.length+1) e = (.ok (), beforeSpend e earlier s
      (e.acceptedReceipts.take (e.acceptedReceipts.length-(later.length+1)))) := by
  -- the newest spend goes first, so the induction takes the later spends from their end
  induction later using List.reverseRecOn generalizing e with
  | nil =>
    rw [List.length_nil, rollbackLoop_succ (rollbackOne_eq h), rollbackLoop,
      List.dropLast_eq_take]
  | append_singleton later t ih =>
    have hlast : e.spendHistory = (earlier ++ s :: later) ++ [t] := by simpa using h
    have hone := rollbackOne_eq hlast
    rw [List.length_append, List.length_singleton, rollbackLoop_succ hone, ih rfl]
    have hreceipts : (e.acceptedReceipts.dropLast).take
          (e.acceptedReceipts.dropLast.length-(later.length+1)) =
        e.acceptedReceipts.take (e.acceptedReceipts.length-(later.length+1+1)) := by
      rw [List.dropLast_eq_take, List.take_take, List.length_take]
      congr 1
      omega
    simp only [beforeSpend, hreceipts]

/-- A rollback that is not too deep does nothing or goes back to before one of the spends. -/
lemma rollbackLoop_cases {n : ℕ} {e : IndexedCovenant} (hn : n ≤ e.spendHistory.length) :
    rollbackLoop n e = (.ok (), e) ∨ ∃ earlier s later,
      e.spendHistory = earlier ++ s :: later ∧ n = later.length+1 ∧
      rollbackLoop n e = (.ok (), beforeSpend e earlier s
        (e.acceptedReceipts.take (e.acceptedReceipts.length-n))) := by
  cases n with
  | zero => exact Or.inl rfl
  | succ n =>
    have hlt : e.spendHistory.length-(n+1) < e.spendHistory.length := by omega
    have hsplit := (List.take_append_drop (e.spendHistory.length-(n+1)) e.spendHistory).symm
    rw [List.drop_eq_getElem_cons hlt] at hsplit
    have hlen : (e.spendHistory.drop (e.spendHistory.length-(n+1)+1)).length = n := by
      rw [List.length_drop]
      omega
    refine Or.inr ⟨_, _, _, hsplit, by rw [hlen], ?_⟩
    have heq := rollbackLoop_eq hsplit
    rwa [hlen] at heq

end Rollbacks

section Invariant

/-- What holds between the parts of an entry: every spend starts where the one before it ended,
in outpoint, digest and policy, the last one ends at the latest state, and the accepted receipts
are those of the history. -/
structure EntryConsistent (e : IndexedCovenant) : Prop where
  receipts : e.acceptedReceipts = e.spendHistory.map SpendEntry.receiptId
  receipts_nodup : e.acceptedReceipts.Nodup
  outpoints : e.spendHistory.IsChain (fun s t => s.created = t.spent)
  openOutpoint : ∀ s, e.spendHistory.getLast? = some s → e.openOutpoint = some s.created
  digests : e.spendHistory.IsChain (fun s t => s.resultingStateDigest = t.newStateDigest)
  latestDigest : ∀ s, e.spendHistory.getLast? = some s →
    e.latestState.stateDigest = s.resultingStateDigest
  advances : ∀ s ∈ e.spendHistory, s.newStateDigest ≠ s.resultingStateDigest
  policies : e.spendHistory.IsChain (fun s t => s.newReceiptPolicy = t.previousReceiptPolicy)
  latestPolicy : ∀ s, e.spendHistory.getLast? = some s →
    e.latestState.receiptPolicy = s.newReceiptPolicy

/-- The inductive form: the history is one linked path. -/
structure EntryWellFormed (c : Bytes32) (e : IndexedCovenant) : Prop where
  covenant : e.covenantId = c
  stateCovenant : e.latestState.covenantId = c
  stateChain : e.latestState.chainId = e.chainId
  receipts : e.acceptedReceipts = e.spendHistory.map SpendEntry.receiptId
  receipts_nodup : e.acceptedReceipts.Nodup
  path : ∃ start, HistoryFrom start e
  advances : ∀ s ∈ e.spendHistory, s.newStateDigest ≠ s.resultingStateDigest

lemma EntryWellFormed.consistent {c : Bytes32} {e : IndexedCovenant} (h : EntryWellFormed c e) :
    EntryConsistent e := by
  obtain ⟨start, o, ho, hl⟩ := h.path
  have hchain := hl.isChain
  have hlast := fun s hs => hl.getLast (e := s) hs
  exact {
    receipts := h.receipts
    receipts_nodup := h.receipts_nodup
    outpoints := hchain.imp (fun _ _ hst => congrArg Anchor.outpoint hst)
    openOutpoint := fun s hs =>
      ho.trans (congrArg some (congrArg Anchor.outpoint (hlast s hs)).symm)
    digests := hchain.imp (fun _ _ hst => congrArg Anchor.digest hst)
    latestDigest := fun s hs => (congrArg Anchor.digest (hlast s hs)).symm
    advances := h.advances
    policies := hchain.imp (fun _ _ hst => congrArg Anchor.policy hst)
    latestPolicy := fun s hs => (congrArg Anchor.policy (hlast s hs)).symm }

lemma entryWellFormed_opened {initial : RgkStateCommitment} {c lineage : Bytes32}
    {o : KaspaOutpoint} {daa : UInt64} (hc : initial.covenantId = c) :
    EntryWellFormed c (IndexedCovenant.opened c initial.chainId lineage initial o daa) where
  covenant := rfl
  stateCovenant := hc
  stateChain := rfl
  receipts := rfl
  receipts_nodup := List.nodup_nil
  path := ⟨_, o, rfl, rfl⟩
  advances := fun _ hs => absurd hs List.not_mem_nil

variable {H : List UInt8 → Bytes32}

lemma EntryWellFormed.afterSpend {c : Bytes32} {e : IndexedCovenant} {call : SpendCall}
    {continuation : Option ContinuationProof} {policyMigration : Option PolicyMigrationProof}
    (h : EntryWellFormed c e) (ha : SpendAccepted H e call continuation policyMigration) :
    EntryWellFormed c (entryAfterSpend e call continuation policyMigration) where
  covenant := h.covenant
  stateCovenant := ha.covenant.symm.trans h.covenant
  stateChain := ha.chain.symm
  receipts := by simp [entryAfterSpend, h.receipts]
  receipts_nodup := by
    simp only [entryAfterSpend]
    exact List.nodup_append.mpr ⟨h.receipts_nodup, List.nodup_singleton _,
      fun x hx y hy hxy => ha.fresh (List.mem_singleton.mp hy ▸ hxy ▸ hx)⟩
  path := by
    obtain ⟨start, hfrom⟩ := h.path
    exact ⟨start, ha.historyFrom hfrom⟩
  advances := by
    intro s hs
    rcases List.mem_append.mp hs with hs | hs
    · exact h.advances s hs
    · rw [List.mem_singleton.mp hs]
      exact ha.advanced

lemma EntryWellFormed.receipts_take {c : Bytes32} {e : IndexedCovenant}
    {earlier later : List SpendEntry} {s : SpendEntry} (h : EntryWellFormed c e)
    (hsplit : e.spendHistory = earlier ++ s :: later) :
    e.acceptedReceipts.take (e.acceptedReceipts.length-(later.length+1)) =
      earlier.map SpendEntry.receiptId := by
  rw [h.receipts, hsplit, List.length_map, ← List.map_take]
  congr 1
  rw [List.length_append, List.length_cons, Nat.add_sub_cancel]
  exact List.take_left

lemma EntryWellFormed.rolledBack {c : Bytes32} {e : IndexedCovenant} {n : ℕ}
    (h : EntryWellFormed c e) (hn : n ≤ e.spendHistory.length) :
    EntryWellFormed c (rollbackLoop n e).2 := by
  obtain ⟨start, hfrom⟩ := h.path
  have hpath := (rollbackLoop_spec hn hfrom).1
  rcases rollbackLoop_cases hn with heq | ⟨earlier, s, later, hsplit, rfl, heq⟩
  · rw [heq]
    exact h
  · rw [heq] at hpath ⊢
    have hreceipts := h.receipts_take hsplit
    exact {
      covenant := h.covenant
      stateCovenant := h.stateCovenant
      stateChain := h.stateChain
      receipts := hreceipts
      receipts_nodup := (List.take_sublist _ _).nodup h.receipts_nodup
      path := ⟨start, hpath⟩
      advances := fun t ht => h.advances t (hsplit ▸ List.mem_append_left _ ht) }

lemma attachCertificate_fields {α : Type*} (field : SpendEntry → α)
    (hfield : ∀ s certificate, field { s with allocationAuditCertificate := certificate } = field s)
    (receiptId : Bytes32) (certificate : AllocationAuditCertificateRecord)
    (history : List SpendEntry) :
    (attachCertificate receiptId certificate history).map field = history.map field := by
  induction history with
  | nil => rfl
  | cons s history ih =>
    simp only [attachCertificate]
    split_ifs
    · simp only [List.map_cons, hfield]
    · simp only [List.map_cons, ih]

lemma EntryWellFormed.step {op : IndexerOp} {c k : Bytes32} {e e' : IndexedCovenant}
    (hs : EntryStep H op c e e') (h : EntryWellFormed k e) : EntryWellFormed k e' := by
  cases hs with
  | same => exact h
  | spend hop hc ha => exact h.afterSpend ha
  | rolledBack hn => exact h.rolledBack hn
  | certified receiptId certificate =>
    obtain ⟨start, hfrom⟩ := h.path
    have hreceipts := attachCertificate_fields SpendEntry.receiptId (fun _ _ => rfl) receiptId
      certificate e.spendHistory
    have hdigests := attachCertificate_fields
      (fun s => (s.newStateDigest, s.resultingStateDigest)) (fun _ _ => rfl) receiptId certificate
      e.spendHistory
    refine { h with
      receipts := h.receipts.trans hreceipts.symm
      path := ⟨start, (show EntryStep H op c e _ from
        .certified receiptId certificate).historyFrom hfrom⟩
      advances := fun s hs => ?_ }
    obtain ⟨t, ht, heq⟩ := List.mem_map.mp (hdigests ▸ List.mem_map_of_mem hs)
    obtain ⟨hnew, hres⟩ := Prod.mk.inj heq
    rw [← hnew, ← hres]
    exact h.advances t ht

/-- Every entry of every reachable indexer is well formed. -/
theorem runOps_wellFormed (ops : List IndexerOp) {c : Bytes32} {e : IndexedCovenant}
    (h : (runOps H ops).map.get? c = some e) : EntryWellFormed c e := by
  induction ops using List.reverseRecOn generalizing e with
  | nil => cases h
  | append_singleton ops op ih =>
    rw [runOps_concat] at h
    rcases stepEntry_cases h with ⟨e₀, he₀, hs⟩ | ⟨-, lineage, initial, o, daa, -, hc, rfl⟩
    · exact (ih he₀).step hs
    · exact entryWellFormed_opened hc

theorem runCalls_wellFormed (calls : List IndexerCall) {c : Bytes32} {e : IndexedCovenant}
    (h : (runCalls H calls).map.get? c = some e) : EntryWellFormed c e := by
  obtain ⟨ops, hops⟩ := exists_runOps_eq (H := H) calls
  rw [hops] at h
  exact runOps_wellFormed ops h

end Invariant

section Failures
variable {H : List UInt8 → Bytes32}

lemma rollbackEntry_error {depth : UInt64} {e e' : IndexedCovenant} {err : IndexerError}
    (h : rollbackEntry depth e = (.error err, e')) : e' = e := by
  unfold rollbackEntry at h
  split_ifs at h with hd
  · exact (Prod.mk.inj h).2.symm
  · rcases rollbackLoop_cases (not_lt.mp hd) with heq | ⟨_, _, _, _, _, heq⟩
    · rw [heq] at h
      cases h
    · rw [heq] at h
      cases h

lemma recordCertificateOnEntry_error {receiptId : Bytes32}
    {certificate : AllocationAuditCertificateRecord} {e e' : IndexedCovenant} {err : IndexerError}
    (h : recordCertificateOnEntry receiptId certificate e = (.error err, e')) : e' = e := by
  unfold recordCertificateOnEntry at h
  split at h
  · exact (Prod.mk.inj h).2.symm
  · split at h
    · exact (Prod.mk.inj h).2.symm
    · split at h
      · split_ifs at h
        · exact (Prod.mk.inj h).2.symm
        · cases h
      · cases h

lemma withEntry_error {ix ix' : InMemoryIndexer} {c : Bytes32} {err : IndexerError}
    {f : IndexedCovenant → Except IndexerError Unit × IndexedCovenant}
    (hf : ∀ e e' err, f e = (.error err, e') → e' = e)
    (h : withEntry ix c f = (.error err, ix')) : ix' = ix := by
  cases hc : ix.map.get? c with
  | none =>
    simp only [withEntry, hc] at h
    exact (Prod.mk.inj h).2.symm
  | some e =>
    simp only [withEntry, hc] at h
    obtain ⟨herr, rfl⟩ := Prod.mk.inj h
    have hsame : (f e).2 = e := hf e (f e).2 err (Prod.ext herr rfl)
    rw [hsame, OrderedMap.insert_of_get? hc]

lemma applySpendWith_error {ix ix' : InMemoryIndexer} {call : SpendCall} {err : IndexerError}
    {continuation : Option ContinuationProof} {policyMigration : Option PolicyMigrationProof}
    (h : applySpendWith H ix call continuation policyMigration = (.error err, ix')) : ix' = ix := by
  refine withEntry_error (fun e e' err he => ?_) h
  split at he
  · cases he
  · exact (Prod.mk.inj he).2.symm

theorem apply_error {ix ix' : InMemoryIndexer} {op : IndexerOp} {err : IndexerError}
    (h : IndexerOp.apply H ix op = (.error err, ix')) : ix' = ix := by
  cases op with
  | openCovenant chain covenant lineage initial openOutpoint daaScore =>
    simp only [IndexerOp.apply, IndexerOps.openCovenant] at h
    split_ifs at h
    · exact (Prod.mk.inj h).2.symm
    · exact (Prod.mk.inj h).2.symm
    · exact (Prod.mk.inj h).2.symm
    · cases h
  | applySpend call => exact applySpendWith_error h
  | applySpendWithContinuation call continuation => exact applySpendWith_error h
  | applySpendWithContinuationAndPolicyMigration call continuation policyMigration =>
    exact applySpendWith_error h
  | rollback covenant depth => exact withEntry_error (fun _ _ _ => rollbackEntry_error) h
  | recordAllocationAuditCertificate covenant receiptId certificate =>
    exact withEntry_error (fun _ _ _ => recordCertificateOnEntry_error) h
  | registerLane lane =>
    simp only [IndexerOp.apply, IndexerOps.registerLane] at h
    split at h
    · exact (Prod.mk.inj h).2.symm
    · split at h
      · exact (Prod.mk.inj h).2.symm
      · cases h
  | storeScanCursor name cursor =>
    simp only [IndexerOp.apply, IndexerOps.storeScanCursor] at h
    split at h
    · exact (Prod.mk.inj h).2.symm
    · cases h
  | clearScanCursor name =>
    simp only [IndexerOp.apply, IndexerOps.clearScanCursor] at h
    split at h
    · exact (Prod.mk.inj h).2.symm
    · cases h
  | recordObservedSpend record =>
    simp only [IndexerOp.apply, IndexerOps.recordObservedSpend] at h
    cases h

end Failures

section Identity
variable {H : List UInt8 → Bytes32}

/-- Two entries are about the same chain, covenant, lineage and asset. -/
def SameIdentity (e e' : IndexedCovenant) : Prop :=
  e'.chainId = e.chainId ∧ e'.covenantId = e.covenantId ∧ e'.lineageId = e.lineageId ∧
    e'.latestState.assetId = e.latestState.assetId

lemma SameIdentity.refl (e : IndexedCovenant) : SameIdentity e e := ⟨rfl, rfl, rfl, rfl⟩

lemma SameIdentity.trans {e e' e'' : IndexedCovenant} (h : SameIdentity e e')
    (h' : SameIdentity e' e'') : SameIdentity e e'' :=
  ⟨h'.1.trans h.1, h'.2.1.trans h.2.1, h'.2.2.1.trans h.2.2.1, h'.2.2.2.trans h.2.2.2⟩

lemma entryStep_sameIdentity {op : IndexerOp} {c : Bytes32} {e e' : IndexedCovenant}
    (hs : EntryStep H op c e e') : SameIdentity e e' := by
  cases hs with
  | same => exact .refl e
  | spend hop hc ha => exact ⟨rfl, rfl, rfl, ha.asset.symm⟩
  | rolledBack hn =>
    rcases rollbackLoop_cases hn with heq | ⟨earlier, s, later, -, -, heq⟩
    · rw [heq]
      exact .refl e
    · rw [heq]
      exact ⟨rfl, rfl, rfl, rfl⟩
  | certified receiptId certificate => exact ⟨rfl, rfl, rfl, rfl⟩

lemma withEntry_keeps {ix : InMemoryIndexer} {k c : Bytes32} {e : IndexedCovenant}
    (f : IndexedCovenant → Except IndexerError Unit × IndexedCovenant)
    (h : ix.map.get? c = some e) : ∃ e', (withEntry ix k f).2.map.get? c = some e' := by
  cases hk : ix.map.get? k with
  | none => exact ⟨e, by simp only [withEntry, hk, h]⟩
  | some e₀ =>
    simp only [withEntry, hk, OrderedMap.get?_insert]
    split_ifs
    · exact ⟨_, rfl⟩
    · exact ⟨e, h⟩

lemma step_keeps {ix : InMemoryIndexer} {c : Bytes32} {e : IndexedCovenant} (op : IndexerOp)
    (h : ix.map.get? c = some e) : ∃ e', (step H ix op).map.get? c = some e' := by
  cases op with
  | openCovenant chain covenant lineage initial openOutpoint daaScore =>
    simp only [step, IndexerOp.apply, IndexerOps.openCovenant]
    split_ifs
    · exact ⟨e, h⟩
    · exact ⟨e, h⟩
    · exact ⟨e, h⟩
    · simp only [OrderedMap.get?_insert]
      split_ifs
      · exact ⟨_, rfl⟩
      · exact ⟨e, h⟩
  | applySpend call => exact withEntry_keeps _ h
  | applySpendWithContinuation call continuation => exact withEntry_keeps _ h
  | applySpendWithContinuationAndPolicyMigration call continuation policyMigration =>
    exact withEntry_keeps _ h
  | rollback covenant depth => exact withEntry_keeps _ h
  | recordAllocationAuditCertificate covenant receiptId certificate => exact withEntry_keeps _ h
  | registerLane lane => exact ⟨e, (congrArg (·.get? c) (map_registerLane ix lane)).trans h⟩
  | storeScanCursor name cursor =>
    exact ⟨e, (congrArg (·.get? c) (map_storeScanCursor ix name cursor)).trans h⟩
  | clearScanCursor name => exact ⟨e, (congrArg (·.get? c) (map_clearScanCursor ix name)).trans h⟩
  | recordObservedSpend record => exact ⟨e, h⟩

lemma step_sameIdentity {ix : InMemoryIndexer} {c : Bytes32} {e : IndexedCovenant} (op : IndexerOp)
    (h : ix.map.get? c = some e) :
    ∃ e', (step H ix op).map.get? c = some e' ∧ SameIdentity e e' := by
  obtain ⟨e', he'⟩ := step_keeps (H := H) op h
  rcases stepEntry_cases he' with ⟨e₀, he₀, hs⟩ | ⟨hnone, -⟩
  · obtain rfl : e = e₀ := Option.some.inj (h.symm.trans he₀)
    exact ⟨e', he', entryStep_sameIdentity hs⟩
  · rw [h] at hnone
    cases hnone

lemma opsReach_sameIdentity {ix ix' : InMemoryIndexer} {c : Bytes32} {e : IndexedCovenant}
    (hr : OpsReach H ix ix') (h : ix.map.get? c = some e) :
    ∃ e', ix'.map.get? c = some e' ∧ SameIdentity e e' := by
  obtain ⟨ops, rfl⟩ := hr
  induction ops generalizing ix e with
  | nil => exact ⟨e, h, .refl e⟩
  | cons op ops ih =>
    obtain ⟨e₁, he₁, hid⟩ := step_sameIdentity (H := H) op h
    obtain ⟨e₂, he₂, hid'⟩ := ih he₁
    exact ⟨e₂, he₂, hid.trans hid'⟩

end Identity

/-- After any calls every entry is consistent and filed under its covenant; whatever calls
follow, the entry stays and keeps its chain, covenant, lineage and asset; and a failing call
other than a rebuild changes nothing. -/
theorem reachable_entries_consistent (H : List UInt8 → Bytes32) (calls : List IndexerCall) :
    (∀ c e, (runCalls H calls).map.get? c = some e →
      EntryConsistent e ∧ e.covenantId = c ∧ e.latestState.covenantId = c ∧
        e.latestState.chainId = e.chainId) ∧
    (∀ c e later, (runCalls H calls).map.get? c = some e →
      ∃ e', (runCalls H (calls ++ later)).map.get? c = some e' ∧ SameIdentity e e') ∧
    (∀ op err ix, IndexerOp.apply H (runCalls H calls) op = (.error err, ix) →
      ix = runCalls H calls) := by
  refine ⟨fun c e he => ?_, fun c e later he => ?_, fun op err ix h => apply_error h⟩
  · have hwf := runCalls_wellFormed calls he
    exact ⟨hwf.consistent, hwf.covenant, hwf.stateCovenant, hwf.stateChain⟩
  · rw [runCalls, callsFrom, Simulation.stateAfter_append]
    exact opsReach_sameIdentity (opsReach_callsFrom (runCalls H calls) later) he

end RgkProtocol.IndexerInvariant
