import RgkProtocol.IndexerOps

/-!
# Histories of reachable indexers

An entry's spend history is a path: it leads from the state at `open` to the latest state, and
every spend starts where the one before it ended. Spends extend the path, rollbacks shorten
it, and every other call leaves its ends in place.
-/
namespace RgkProtocol.IndexerHistory
open ByteStrings Hashing CoreTypes Checked IndexerState IndexerOps LinkedPath

/-- What links one spend to the next: open outpoint, state digest and receipt policy. -/
structure Anchor where
  outpoint : KaspaOutpoint
  digest : Bytes32
  policy : ReceiptPolicy
  deriving DecidableEq

def SpendEntry.before (s : SpendEntry) : Anchor :=
  ⟨s.spent, s.newStateDigest, s.previousReceiptPolicy⟩

def SpendEntry.after (s : SpendEntry) : Anchor :=
  ⟨s.created, s.resultingStateDigest, s.newReceiptPolicy⟩

/-- The history leads from `start` to the entry's open outpoint and latest state. -/
def HistoryFrom (start : Anchor) (e : IndexedCovenant) : Prop :=
  ∃ o, e.openOutpoint = some o ∧
    Linked SpendEntry.before SpendEntry.after start e.spendHistory
      ⟨o, e.latestState.stateDigest, e.latestState.receiptPolicy⟩

section Entries
variable {H : List UInt8 → Bytes32}

/-- What the acceptance of a spend says about the entry, the call and its proofs. -/
structure SpendAccepted (H : List UInt8 → Bytes32) (e : IndexedCovenant) (call : SpendCall)
    (continuation : Option ContinuationProof) (policyMigration : Option PolicyMigrationProof) :
    Prop where
  complete : ∀ proof, continuation = some proof → proof.Complete
  fresh : call.receiptId ∉ e.acceptedReceipts
  chain : e.chainId = call.newState.chainId
  covenant : e.covenantId = call.newState.covenantId
  asset : e.latestState.assetId = call.newState.assetId
  spent : e.openOutpoint = some call.spent
  advanced : e.latestState.stateDigest ≠ call.newState.stateDigest
  migration : ∀ proof, policyMigration = some proof → ∃ c, continuation = some c ∧
    validatePolicyMigrationProof H proof e.latestState.receiptPolicy call.newState.receiptPolicy
      e.latestState.stateDigest call.newState.stateDigest c.transitionDigest = .ok ()

theorem applySpendToEntry_eq_ok {e e' : IndexedCovenant} {call : SpendCall}
    {continuation : Option ContinuationProof} {policyMigration : Option PolicyMigrationProof} :
    applySpendToEntry H e call continuation policyMigration = .ok e' ↔
      SpendAccepted H e call continuation policyMigration ∧
        e' = entryAfterSpend e call continuation policyMigration := by
  simp only [applySpendToEntry, unit_bind_eq_ok, whenSome_eq_ok, failIf_eq_ok, not_not,
    validateContinuationProof_eq_ok, Except.ok.injEq]
  simp only [bind_eq_ok, okOr_eq_ok]
  constructor
  · rintro ⟨hp, hf, hc, hv, ha, ho, hd, hm, rfl⟩
    exact ⟨⟨hp, hf, hc, hv, ha, ho, hd, hm⟩, rfl⟩
  · rintro ⟨⟨hp, hf, hc, hv, ha, ho, hd, hm⟩, rfl⟩
    exact ⟨hp, hf, hc, hv, ha, ho, hd, hm, rfl⟩

lemma SpendAccepted.historyFrom {start : Anchor} {e : IndexedCovenant} {call : SpendCall}
    {continuation : Option ContinuationProof} {policyMigration : Option PolicyMigrationProof}
    (ha : SpendAccepted H e call continuation policyMigration) (h : HistoryFrom start e) :
    HistoryFrom start (entryAfterSpend e call continuation policyMigration) := by
  obtain ⟨o, ho, hl⟩ := h
  obtain rfl : o = call.spent := Option.some.inj (ho.symm.trans ha.spent)
  exact ⟨call.newOutpoint, rfl, linked_concat.mpr ⟨hl, rfl⟩⟩

lemma rollbackOne_concat {e : IndexedCovenant} {history : List SpendEntry} {last : SpendEntry}
    (h : e.spendHistory = history ++ [last]) : (rollbackOne e).1 = .ok () ∧
      (rollbackOne e).2.spendHistory = history ∧
      (rollbackOne e).2.openOutpoint = some last.spent ∧
      (rollbackOne e).2.latestState.stateDigest = last.newStateDigest ∧
      (rollbackOne e).2.latestState.receiptPolicy = last.previousReceiptPolicy := by
  simp [rollbackOne, h]

lemma rollbackLoop_spec {start : Anchor} {n : ℕ} {e : IndexedCovenant}
    (hn : n ≤ e.spendHistory.length) (h : HistoryFrom start e) :
    HistoryFrom start (rollbackLoop n e).2 ∧
      (rollbackLoop n e).2.spendHistory <+: e.spendHistory := by
  induction n generalizing e with
  | zero => exact ⟨h, List.prefix_rfl⟩
  | succ n ih =>
    have hne : e.spendHistory ≠ [] := by
      intro hnil
      rw [hnil] at hn
      simp at hn
    obtain ⟨history, last, hlast⟩ := (List.eq_nil_or_concat' e.spendHistory).resolve_left hne
    obtain ⟨hok, hhist, ho, hd, hp⟩ := rollbackOne_concat hlast
    have hprev : HistoryFrom start (rollbackOne e).2 := by
      obtain ⟨o, -, hl⟩ := h
      rw [hlast] at hl
      refine ⟨last.spent, ho, ?_⟩
      rw [hhist, hd, hp]
      exact (linked_concat.mp hl).1
    have hlen : n ≤ (rollbackOne e).2.spendHistory.length := by
      rw [hlast, List.length_append] at hn
      rw [hhist]
      simpa using hn
    have hstep : rollbackLoop (n+1) e = rollbackLoop n (rollbackOne e).2 := by
      rw [rollbackLoop]
      cases hr : rollbackOne e with
      | mk r e' =>
        rw [hr] at hok
        simp only at hok
        rw [hok]
    obtain ⟨hfrom, hpre⟩ := ih hlen hprev
    rw [hstep]
    refine ⟨hfrom, hpre.trans ?_⟩
    rw [hhist, hlast]
    exact List.prefix_append _ _

lemma attachCertificate_ends (receiptId : Bytes32)
    (certificate : AllocationAuditCertificateRecord) (history : List SpendEntry) :
    (attachCertificate receiptId certificate history).map
        (fun s => (SpendEntry.before s, SpendEntry.after s)) =
      history.map (fun s => (SpendEntry.before s, SpendEntry.after s)) := by
  induction history with
  | nil => rfl
  | cons s history ih =>
    simp only [attachCertificate]
    split_ifs
    · rfl
    · simp only [List.map_cons, ih]

/-- A spend of the history may have got the certificate, and keeps its other fields. -/
lemma mem_attachCertificate {receiptId : Bytes32} {certificate : AllocationAuditCertificateRecord}
    {history : List SpendEntry} {s : SpendEntry}
    (h : s ∈ attachCertificate receiptId certificate history) :
    ∃ t ∈ history, ∃ attached, s = { t with allocationAuditCertificate := attached } ∧
      (attached = t.allocationAuditCertificate ∨ attached = some certificate) := by
  induction history with
  | nil => cases h
  | cons t history ih =>
    simp only [attachCertificate] at h
    split_ifs at h
    · rcases List.mem_cons.mp h with rfl | h
      · exact ⟨t, List.mem_cons_self, _, rfl, Or.inr rfl⟩
      · exact ⟨s, List.mem_cons_of_mem _ h, _, rfl, Or.inl rfl⟩
    · rcases List.mem_cons.mp h with rfl | h
      · exact ⟨s, List.mem_cons_self, _, rfl, Or.inl rfl⟩
      · obtain ⟨u, hu, hattached⟩ := ih h
        exact ⟨u, List.mem_cons_of_mem _ hu, hattached⟩

end Entries

section Steps
variable {H : List UInt8 → Bytes32}

/-- What one call can do to an entry that exists. -/
inductive EntryStep (H : List UInt8 → Bytes32) (op : IndexerOp) (c : Bytes32)
    (e : IndexedCovenant) : IndexedCovenant → Prop
  | same : EntryStep H op c e e
  | spend {call : SpendCall} {continuation : Option ContinuationProof}
      {policyMigration : Option PolicyMigrationProof}
      (hop : op.spendArgs = some (call, continuation, policyMigration)) (hc : call.covenant = c)
      (ha : SpendAccepted H e call continuation policyMigration) :
      EntryStep H op c e (entryAfterSpend e call continuation policyMigration)
  | rolledBack {n : ℕ} (hn : n ≤ e.spendHistory.length) :
      EntryStep H op c e (rollbackLoop n e).2
  | certified (receiptId : Bytes32) (certificate : AllocationAuditCertificateRecord) :
      EntryStep H op c e { e with
        spendHistory := attachCertificate receiptId certificate e.spendHistory }

lemma get?_withEntry {ix : InMemoryIndexer} {k c : Bytes32}
    {f : IndexedCovenant → Except IndexerError Unit × IndexedCovenant} {e' : IndexedCovenant}
    (h : (withEntry ix k f).2.map.get? c = some e') :
    ∃ e, ix.map.get? c = some e ∧ (e' = e ∨ k = c ∧ e' = (f e).2) := by
  cases hk : ix.map.get? k with
  | none =>
    simp only [withEntry, hk] at h
    exact ⟨e', h, Or.inl rfl⟩
  | some e =>
    simp only [withEntry, hk, OrderedMap.get?_insert] at h
    split_ifs at h with hkc
    · exact ⟨e, hkc ▸ hk, Or.inr ⟨hkc, (Option.some.inj h).symm⟩⟩
    · exact ⟨e', h, Or.inl rfl⟩

lemma applySpendWith_cases {ix : InMemoryIndexer} {op : IndexerOp} {c : Bytes32}
    {call : SpendCall} {continuation : Option ContinuationProof}
    {policyMigration : Option PolicyMigrationProof} {e' : IndexedCovenant}
    (hop : op.spendArgs = some (call, continuation, policyMigration))
    (h : (applySpendWith H ix call continuation policyMigration).2.map.get? c = some e') :
    ∃ e, ix.map.get? c = some e ∧ EntryStep H op c e e' := by
  obtain ⟨e, he, rfl | ⟨hc, rfl⟩⟩ := get?_withEntry h
  · exact ⟨e', he, .same⟩
  · refine ⟨e, he, ?_⟩
    cases hr : applySpendToEntry H e call continuation policyMigration with
    | error err => exact .same
    | ok e'' =>
      obtain ⟨ha, rfl⟩ := applySpendToEntry_eq_ok.mp hr
      exact .spend hop hc ha

lemma rollbackEntry_cases (op : IndexerOp) (c : Bytes32) (depth : UInt64) (e : IndexedCovenant) :
    EntryStep H op c e (rollbackEntry depth e).2 := by
  unfold rollbackEntry
  split_ifs with hd
  · exact .same
  · exact .rolledBack (not_lt.mp hd)

lemma recordCertificate_cases (op : IndexerOp) (c receiptId : Bytes32)
    (certificate : AllocationAuditCertificateRecord) (e : IndexedCovenant) :
    EntryStep H op c e (recordCertificateOnEntry receiptId certificate e).2 := by
  unfold recordCertificateOnEntry
  split
  · exact .same
  · split
    · exact .same
    · split
      · split_ifs <;> exact .same
      · exact .certified receiptId certificate

lemma map_registerLane (ix : InMemoryIndexer) (lane : IndexedLane) :
    (IndexerOps.registerLane ix lane).2.map = ix.map := by
  simp only [IndexerOps.registerLane]
  split
  · rfl
  · split <;> rfl

lemma map_storeScanCursor (ix : InMemoryIndexer) (name : String) (cursor : ScanCursor) :
    (IndexerOps.storeScanCursor ix name cursor).2.map = ix.map := by
  simp only [IndexerOps.storeScanCursor]
  split <;> rfl

lemma map_clearScanCursor (ix : InMemoryIndexer) (name : String) :
    (IndexerOps.clearScanCursor ix name).2.map = ix.map := by
  simp only [IndexerOps.clearScanCursor]
  split <;> rfl

/-- One call leaves an entry in place or changes it in one of three ways; a new entry comes
only from a call of `open`. -/
theorem stepEntry_cases {ix : InMemoryIndexer} {op : IndexerOp} {c : Bytes32}
    {e' : IndexedCovenant} (h : (step H ix op).map.get? c = some e') :
    (∃ e, ix.map.get? c = some e ∧ EntryStep H op c e e') ∨
      ix.map.get? c = none ∧ ∃ lineage initial openOutpoint daaScore,
        op = .openCovenant initial.chainId c lineage initial openOutpoint daaScore ∧
        initial.covenantId = c ∧
        e' = IndexedCovenant.opened c initial.chainId lineage initial openOutpoint daaScore := by
  cases op with
  | openCovenant chain covenant lineage initial openOutpoint daaScore =>
    simp only [step, IndexerOp.apply, IndexerOps.openCovenant] at h
    split_ifs at h with hm hchain hcov
    · exact Or.inl ⟨e', h, .same⟩
    · exact Or.inl ⟨e', h, .same⟩
    · exact Or.inl ⟨e', h, .same⟩
    · rw [not_not] at hchain hcov
      simp only [OrderedMap.get?_insert] at h
      split_ifs at h with hc
      · subst hc hchain
        have hnone : ix.map.get? covenant = none := by simpa using hm
        exact Or.inr ⟨hnone, lineage, initial, openOutpoint, daaScore, rfl, hcov,
          (Option.some.inj h).symm⟩
      · exact Or.inl ⟨e', h, .same⟩
  | applySpend call => exact Or.inl (applySpendWith_cases rfl h)
  | applySpendWithContinuation call continuation => exact Or.inl (applySpendWith_cases rfl h)
  | applySpendWithContinuationAndPolicyMigration call continuation policyMigration =>
    exact Or.inl (applySpendWith_cases rfl h)
  | rollback covenant depth =>
    obtain ⟨e, he, rfl | ⟨-, rfl⟩⟩ := get?_withEntry h
    · exact Or.inl ⟨e', he, .same⟩
    · exact Or.inl ⟨e, he, rollbackEntry_cases _ _ _ _⟩
  | recordAllocationAuditCertificate covenant receiptId certificate =>
    obtain ⟨e, he, rfl | ⟨-, rfl⟩⟩ := get?_withEntry h
    · exact Or.inl ⟨e', he, .same⟩
    · exact Or.inl ⟨e, he, recordCertificate_cases _ _ _ _ _⟩
  | registerLane lane => exact Or.inl ⟨e', map_registerLane ix lane ▸ h, .same⟩
  | storeScanCursor name cursor =>
    exact Or.inl ⟨e', map_storeScanCursor ix name cursor ▸ h, .same⟩
  | clearScanCursor name => exact Or.inl ⟨e', map_clearScanCursor ix name ▸ h, .same⟩
  | recordObservedSpend record => exact Or.inl ⟨e', h, .same⟩

lemma EntryStep.historyFrom {op : IndexerOp} {c : Bytes32} {start : Anchor}
    {e e' : IndexedCovenant} (hs : EntryStep H op c e e') (h : HistoryFrom start e) :
    HistoryFrom start e' := by
  cases hs with
  | same => exact h
  | spend hop hc ha => exact ha.historyFrom h
  | rolledBack hn => exact (rollbackLoop_spec hn h).1
  | certified receiptId certificate =>
    obtain ⟨o, ho, hl⟩ := h
    exact ⟨o, ho, linked_of_ends_eq (attachCertificate_ends receiptId certificate _).symm hl⟩

lemma runOps_concat (ops : List IndexerOp) (op : IndexerOp) :
    runOps H (ops ++ [op]) = step H (runOps H ops) op := by
  simp [runOps]

/-- Some call of the run opened the covenant with the given state and outpoint. -/
def OpenedWith (H : List UInt8 → Bytes32) (ops : List IndexerOp) (c : Bytes32)
    (initial : RgkStateCommitment) (openOutpoint : KaspaOutpoint) : Prop :=
  ∃ pre post chain lineage daaScore,
    ops = pre ++ .openCovenant chain c lineage initial openOutpoint daaScore :: post ∧
    (IndexerOps.openCovenant (runOps H pre) chain c lineage initial openOutpoint daaScore).1 =
      .ok ()

lemma OpenedWith.concat {ops : List IndexerOp} {c : Bytes32} {initial : RgkStateCommitment}
    {o : KaspaOutpoint} (h : OpenedWith H ops c initial o) (op : IndexerOp) :
    OpenedWith H (ops ++ [op]) c initial o := by
  obtain ⟨pre, post, chain, lineage, daa, rfl, hok⟩ := h
  exact ⟨pre, post ++ [op], chain, lineage, daa, by simp, hok⟩

/-- In every reachable indexer every entry's history leads from the state and outpoint its
covenant was opened with to its latest state and open outpoint. -/
theorem runOps_historyFrom (ops : List IndexerOp) {c : Bytes32} {e : IndexedCovenant}
    (h : (runOps H ops).map.get? c = some e) :
    ∃ initial o, OpenedWith H ops c initial o ∧
      HistoryFrom ⟨o, initial.stateDigest, initial.receiptPolicy⟩ e := by
  induction ops using List.reverseRecOn generalizing e with
  | nil => cases h
  | append_singleton ops op ih =>
    rw [runOps_concat] at h
    rcases stepEntry_cases h with ⟨e₀, he₀, hs⟩ | ⟨hnone, lineage, initial, o, daa, rfl, hc, rfl⟩
    · obtain ⟨initial, o, hopened, hfrom⟩ := ih he₀
      exact ⟨initial, o, hopened.concat op, hs.historyFrom hfrom⟩
    · refine ⟨initial, o, ⟨ops, [], _, lineage, daa, rfl, ?_⟩, o, rfl, rfl⟩
      simp [IndexerOps.openCovenant, hnone, hc]

end Steps
end RgkProtocol.IndexerHistory
