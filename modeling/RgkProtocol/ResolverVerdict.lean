import RgkProtocol.Resolver

/-!
# What a valid verdict establishes

On the path through the newest indexed spend a valid verdict says what it should. The path
through the open outpoint never looks at a continuation or migration proof, and it can be
reached with a history when the backend has lost the spend that the history ends with.
-/
namespace RgkProtocol.ResolverVerdict
open ByteStrings Hashing CoreTypes Checked IndexerState IndexerOps LinkedPath IndexerHistory Resolver

section Properties
variable (H : List UInt8 → Bytes32)

/-- The spend carries a migration proof that the indexer's check accepts. -/
def MigrationProved (s : SpendEntry) : Prop :=
  ∃ proof continuation, s.policyMigration = some proof ∧ s.continuation = some continuation ∧
    validatePolicyMigrationProof H proof s.previousReceiptPolicy s.newReceiptPolicy
      s.newStateDigest s.resultingStateDigest continuation.transitionDigest = .ok ()

/-- The backend reports `outpoint` as spent by the transaction `txid`. -/
def ReportsSpend (backend : KaspaChainBackend) (outpoint : KaspaOutpoint) (txid : Bytes32) :
    Prop :=
  ∃ utxo sp, backend.getUtxo outpoint = .ok (some utxo) ∧ utxo.spending = some sp ∧ sp.txid = txid

/-- What a valid verdict has to say about the newest spend of the covenant. -/
structure VerdictSupported (r : RgkResolver) (covenant : Bytes32)
    (spentOutpoint newOutpoint : KaspaOutpoint) (receiptId : Bytes32) (depth : UInt64)
    (last : SpendEntry) : Prop where
  newest : ∃ e, InMemoryIndexer.lookup r.indexer covenant = some e ∧
    e.spendHistory.getLast? = some last
  spent : spentOutpoint = last.spent
  created : newOutpoint = last.created
  receipt : receiptId = last.receiptId
  continuation : ∃ proof, last.continuation = some proof ∧ proof.Complete
  onChain : ReportsSpend r.backend last.spent newOutpoint.transactionId
  confirmed : r.backend.confirmationDepth newOutpoint.transactionId = .ok (some depth)
  deep : max 1 r.reorgSafetyDepth.toNat ≤ depth.toNat
  policy : last.newReceiptPolicy = last.previousReceiptPolicy ∨ MigrationProved H last

def ValidVerdictSound (r : RgkResolver) (covenant : Bytes32) : Prop :=
  ∀ spentOutpoint newOutpoint receiptId newState certificate depth,
    resolveByCovenant H r covenant = .nativeTransitionedValid covenant spentOutpoint newOutpoint
      receiptId newState certificate depth →
    ∃ last, VerdictSupported H r covenant spentOutpoint newOutpoint receiptId depth last

/-- The backend reports no spend of the outpoint that the newest indexed spend consumed, but a
deep enough spend of the open outpoint. -/
def FallsThrough (r : RgkResolver) (covenant : Bytes32) : Prop :=
  r.backend.networkId = .ok r.verifierChain ∧
    ∃ e openOutpoint last, InMemoryIndexer.lookup r.indexer covenant = some e ∧
      e.openOutpoint = some openOutpoint ∧ e.spendHistory.getLast? = some last ∧
      reportedSpend r.backend covenant last.spent = .ok none ∧
      ∃ txid depth, ReportsSpend r.backend openOutpoint txid ∧
        r.backend.confirmationDepth txid = .ok (some depth) ∧
        max 1 r.reorgSafetyDepth.toNat ≤ depth.toNat

end Properties

section Checks
variable {H : List UInt8 → Bytes32}

lemma validateIndexedContinuation_eq_ok {s : SpendEntry} {txid : Bytes32} :
    validateIndexedContinuation s txid = .ok () ↔
      (∃ proof, s.continuation = some proof ∧ proof.Complete) ∧ s.created.transactionId = txid := by
  simp only [validateIndexedContinuation, bind_eq_ok, okOr_eq_ok]
  simp only [failIf_eq_ok, not_not, exists_const, ContinuationProof.Complete]
  constructor
  · rintro ⟨proof, hp, hc, hs, ht, htx⟩
    exact ⟨⟨proof, hp, hc, hs, ht⟩, htx⟩
  · rintro ⟨⟨proof, hp, hc, hs, ht⟩, htx⟩
    exact ⟨proof, hp, hc, hs, ht, htx⟩

/-- The resolver's check of the newest migration is the indexer's check of that spend. -/
lemma migrationProved_of_indexed {s : SpendEntry} {latest : RgkStateCommitment}
    (hne : s.previousReceiptPolicy ≠ s.newReceiptPolicy)
    (h : validateIndexedPolicyMigration H s latest = .ok ()) : MigrationProved H s := by
  simp only [validateIndexedPolicyMigration, bind_eq_ok, okOr_eq_ok] at h
  simp only [failIf_eq_ok, not_not, exists_const, not_or] at h
  obtain ⟨proof, hp, cont, hc, h1, h2, -, h4, ⟨h5, -⟩, h6, h7, h8⟩ := h
  refine ⟨proof, cont, hp, hc, ?_⟩
  simp only [validatePolicyMigrationProof, unit_bind_eq_ok, failIf_eq_ok, not_not]
  exact ⟨hne, h1, h2, h4, h5, h6, h7, h8⟩

lemma depthOf_ne_zero {backend : KaspaChainBackend} {txid : Bytes32}
    (h : backend.depthOf txid ≠ 0) :
    backend.confirmationDepth txid = .ok (some (backend.depthOf txid)) := by
  unfold KaspaChainBackend.depthOf at h ⊢
  split at h
  · simp_all
  · exact absurd rfl h

lemma depth_enough_iff {depth safety : UInt64} :
    max 1 safety.toNat ≤ depth.toNat ↔ depth ≠ 0 ∧ ¬depth < safety := by
  constructor
  · intro h
    constructor
    · intro h0
      rw [h0] at h
      simp at h
    · rw [UInt64.lt_iff_toNat_lt]
      omega
  · intro h
    have h1 : depth.toNat ≠ 0 := fun h0 => h.1 (UInt64.toNat_inj.mp h0)
    have h2 : safety.toNat ≤ depth.toNat := UInt64.le_iff_toNat_le.mp (UInt64.not_lt.mp h.2)
    omega

lemma reportedSpend_eq_some {backend : KaspaChainBackend} {c : Bytes32} {o : KaspaOutpoint}
    {sp : SpendingInfo} (h : reportedSpend backend c o = .ok (some sp)) :
    ReportsSpend backend o sp.txid := by
  unfold reportedSpend at h
  split at h
  · rename_i utxo hu
    simp only [Except.ok.injEq, Option.bind_eq_some_iff] at h
    obtain ⟨u, rfl, hsp⟩ := h
    exact ⟨u, sp, hu, hsp, rfl⟩
  · split at h <;> cases h

end Checks

section Paths
variable {H : List UInt8 → Bytes32} {r : RgkResolver} {c : Bytes32} {e : IndexedCovenant}
  {last : SpendEntry} {spent new : KaspaOutpoint} {receipt : Bytes32}
  {state : RgkStateCommitment} {certificate : Option AllocationAuditCertificateRecord}
  {depth : UInt64}

lemma last_spend_ends {start : Anchor} (h : HistoryFrom start e)
    (hl : e.spendHistory.getLast? = some last) :
    e.openOutpoint = some last.created ∧ e.latestState.stateDigest = last.resultingStateDigest ∧
      e.latestState.receiptPolicy = last.newReceiptPolicy := by
  obtain ⟨o, ho, hlinked⟩ := h
  obtain ⟨history, hh⟩ := List.getLast?_eq_some_iff.mp hl
  rw [hh] at hlinked
  have hafter := (linked_concat.mp hlinked).2
  simp only [SpendEntry.after, Anchor.mk.injEq] at hafter
  obtain ⟨h1, h2, h3⟩ := hafter
  exact ⟨by rw [ho, h1], h2.symm, h3.symm⟩

lemma judgeIndexedSpend_valid {sp : SpendingInfo}
    (h : judgeIndexedSpend H r c e last sp =
      .nativeTransitionedValid c spent new receipt state certificate depth) :
    (spent = last.spent ∧ new = last.created ∧ receipt = last.receiptId ∧ state = e.latestState ∧
        depth = r.backend.depthOf sp.txid) ∧
      depth ≠ 0 ∧ ¬depth < r.reorgSafetyDepth ∧
      validateIndexedContinuation last sp.txid = .ok () ∧
      (last.previousReceiptPolicy = e.latestState.receiptPolicy ∨
        last.previousReceiptPolicy ≠ e.latestState.receiptPolicy ∧
          validateIndexedPolicyMigration H last e.latestState = .ok ()) := by
  cases hc : validateIndexedContinuation last sp.txid with
  | error reason =>
    simp only [judgeIndexedSpend, hc] at h
    split_ifs at h
  | ok u =>
    simp only [judgeIndexedSpend, hc] at h
    split_ifs at h with h0 hs htx hp hm hm
    · cases hv : validateIndexedPolicyMigration H last e.latestState with
      | error reason =>
        rw [hv] at h
        cases h
      | ok u =>
        rw [hv] at h
        cases h
        exact ⟨⟨rfl, rfl, rfl, rfl, rfl⟩, h0, hs, rfl, Or.inr ⟨hp, rfl⟩⟩
    · cases h
      exact ⟨⟨rfl, rfl, rfl, rfl, rfl⟩, h0, hs, rfl, Or.inl (not_not.mp hp)⟩

lemma judgeIndexedSpend_supported {start : Anchor} {sp : SpendingInfo}
    (he : InMemoryIndexer.lookup r.indexer c = some e) (hstart : HistoryFrom start e)
    (hl : e.spendHistory.getLast? = some last)
    (hsp : reportedSpend r.backend c last.spent = .ok (some sp))
    (h : judgeIndexedSpend H r c e last sp =
      .nativeTransitionedValid c spent new receipt state certificate depth) :
    VerdictSupported H r c spent new receipt depth last := by
  obtain ⟨-, -, hpol⟩ := last_spend_ends hstart hl
  obtain ⟨⟨rfl, rfl, rfl, rfl, rfl⟩, h0, hs, hc, hp⟩ := judgeIndexedSpend_valid h
  obtain ⟨hcont, htx⟩ := validateIndexedContinuation_eq_ok.mp hc
  rw [hpol] at hp
  refine ⟨⟨e, he, hl⟩, rfl, rfl, rfl, hcont, ?_, ?_, depth_enough_iff.mpr ⟨h0, hs⟩, ?_⟩
  · rw [htx]
    exact reportedSpend_eq_some hsp
  · rw [htx]
    exact depthOf_ne_zero h0
  · rcases hp with hp | ⟨hp, hv⟩
    · exact Or.inl hp.symm
    · exact Or.inr (migrationProved_of_indexed hp hv)

/-- On the path through the open outpoint a valid verdict names that outpoint twice. -/
lemma judgeOpenOutpoint_eq_valid {o : KaspaOutpoint}
    (he : InMemoryIndexer.lookup r.indexer c = some e) (ho : e.openOutpoint = some o) :
    judgeOpenOutpoint r c e o =
        .nativeTransitionedValid c spent new receipt state certificate depth ↔
      ∃ last, e.spendHistory.getLast? = some last ∧
        (∃ txid, ReportsSpend r.backend o txid ∧
          r.backend.confirmationDepth txid = .ok (some depth)) ∧
        max 1 r.reorgSafetyDepth.toNat ≤ depth.toNat ∧
        spent = o ∧ new = o ∧ receipt = last.receiptId ∧ state = e.latestState ∧
        certificate = last.allocationAuditCertificate := by
  have hlatest : InMemoryIndexer.latestState r.indexer c = some e.latestState := by
    simp only [InMemoryIndexer.lookup] at he
    simp [InMemoryIndexer.latestState, he]
  have hopen : InMemoryIndexer.openOutpoint r.indexer c = some o := by
    simp only [InMemoryIndexer.lookup] at he
    simp [InMemoryIndexer.openOutpoint, he, ho]
  unfold judgeOpenOutpoint
  simp only [hlatest, hopen, he, Option.bind_some]
  constructor
  · intro h
    split at h
    · cases h
    · split at h <;> cases h
    · rename_i utxo hu
      split at h
      · cases h
      · rename_i sp hsp
        split_ifs at h with h0 hs
        cases hl : e.spendHistory.getLast? with
        | none =>
          rw [hl] at h
          cases h
        | some last =>
          simp only [hl, ResolverState.nativeTransitionedValid.injEq, true_and] at h
          obtain ⟨rfl, rfl, rfl, rfl, rfl, rfl⟩ := h
          exact ⟨last, rfl, ⟨sp.txid, ⟨utxo, sp, hu, hsp, rfl⟩, depthOf_ne_zero h0⟩,
            depth_enough_iff.mpr ⟨h0, hs⟩, rfl, rfl, rfl, rfl, rfl⟩
  · rintro ⟨last, hl, ⟨txid, ⟨utxo, sp, hu, hsp, rfl⟩, hconf⟩, hdeep, rfl, rfl, rfl, rfl, rfl⟩
    have hdepth : r.backend.depthOf sp.txid = depth := by
      simp [KaspaChainBackend.depthOf, hconf]
    obtain ⟨h0, hs⟩ := depth_enough_iff.mp hdeep
    simp [hu, hsp, hdepth, h0, hs, hl]

end Paths

section Verdicts
variable {H : List UInt8 → Bytes32} {r : RgkResolver} {c : Bytes32}

lemma resolveByCovenant_valid {spent new : KaspaOutpoint} {receipt : Bytes32}
    {state : RgkStateCommitment} {certificate : Option AllocationAuditCertificateRecord}
    {depth : UInt64} (h : resolveByCovenant H r c =
      .nativeTransitionedValid c spent new receipt state certificate depth) :
    r.backend.networkId = .ok r.verifierChain ∧
      ∃ e o last, InMemoryIndexer.lookup r.indexer c = some e ∧ e.openOutpoint = some o ∧
        e.spendHistory.getLast? = some last ∧
        ((∃ sp, reportedSpend r.backend c last.spent = .ok (some sp) ∧
            judgeIndexedSpend H r c e last sp =
              .nativeTransitionedValid c spent new receipt state certificate depth) ∨
          reportedSpend r.backend c last.spent = .ok none ∧
            judgeOpenOutpoint r c e o =
              .nativeTransitionedValid c spent new receipt state certificate depth) := by
  unfold resolveByCovenant at h
  cases hnet : r.backend.networkId with
  | error err => simp [hnet] at h
  | ok net =>
    simp only [hnet] at h
    split_ifs at h with hchain
    rw [not_not] at hchain
    refine ⟨by rw [hchain], ?_⟩
    cases he : InMemoryIndexer.lookup r.indexer c with
    | none => simp [he] at h
    | some e =>
      cases ho : e.openOutpoint with
      | none => simp [he, ho] at h
      | some o =>
        simp only [he, ho] at h
        cases hl : e.spendHistory.getLast? with
        | none =>
          simp only [hl] at h
          obtain ⟨last, hlast, -⟩ := (judgeOpenOutpoint_eq_valid he ho).mp h
          rw [hl] at hlast
          cases hlast
        | some last =>
          simp only [hl] at h
          refine ⟨e, o, last, rfl, ho, hl, ?_⟩
          cases hrep : reportedSpend r.backend c last.spent with
          | error verdict =>
            simp only [hrep] at h
            unfold reportedSpend at hrep
            split at hrep
            · cases hrep
            · split at hrep <;> cases hrep <;> cases h
          | ok found =>
            simp only [hrep] at h
            cases found with
            | none => exact Or.inr ⟨rfl, h⟩
            | some sp => exact Or.inl ⟨sp, rfl, h⟩

/-- Falling through always ends in a valid verdict on a spend that is not reported. -/
lemma fallsThrough_unsound (h : FallsThrough r c) : ¬ValidVerdictSound H r c := by
  intro hsound
  obtain ⟨hnet, e, o, last, he, ho, hl, hrep, txid, depth, hsp, hconf, hdeep⟩ := h
  have hres : resolveByCovenant H r c = .nativeTransitionedValid c o o last.receiptId
      e.latestState last.allocationAuditCertificate depth := by
    simp only [resolveByCovenant, hnet, ne_eq, not_true_eq_false, if_false, he, ho, hl, hrep]
    exact (judgeOpenOutpoint_eq_valid he ho).mpr
      ⟨last, hl, ⟨txid, hsp, hconf⟩, hdeep, rfl, rfl, rfl, rfl, rfl⟩
  obtain ⟨last', hsup⟩ := hsound _ _ _ _ _ _ hres
  obtain ⟨e', he', hl'⟩ := hsup.newest
  obtain rfl : e' = e := Option.some.inj (he'.symm.trans he)
  obtain rfl : last' = last := Option.some.inj (hl'.symm.trans hl)
  obtain ⟨utxo, sp, hu, hspend, -⟩ := hsup.onChain
  simp [reportedSpend, hu, hspend] at hrep

end Verdicts

/-- In every reachable indexer and over every backend, valid verdicts are sound exactly when
the resolution does not fall through to a spent open outpoint. -/
theorem validVerdict_sound_iff (H : List UInt8 → Bytes32) (ops : List IndexerOp)
    (backend : KaspaChainBackend) (verifierChain : KaspaChainId) (reorgSafetyDepth : UInt64)
    (covenant : Bytes32) :
    ValidVerdictSound H ⟨backend, runOps H ops, verifierChain, reorgSafetyDepth⟩ covenant ↔
      ¬FallsThrough ⟨backend, runOps H ops, verifierChain, reorgSafetyDepth⟩ covenant := by
  constructor
  · intro hsound hfall
    exact fallsThrough_unsound hfall hsound
  · intro hfall spent new receipt state certificate depth h
    obtain ⟨hnet, e, o, last, he, ho, hl, ⟨sp, hsp, hj⟩ | ⟨hsp, hj⟩⟩ := resolveByCovenant_valid h
    · obtain ⟨initial, opened, -, hfrom⟩ := runOps_historyFrom ops he
      exact ⟨last, judgeIndexedSpend_supported he hfrom hl hsp hj⟩
    · obtain ⟨-, -, ⟨txid, hspend, hconf⟩, hdeep, -⟩ := (judgeOpenOutpoint_eq_valid he ho).mp hj
      exact absurd ⟨hnet, e, o, last, he, ho, hl, hsp, txid, depth, hspend, hconf, hdeep⟩ hfall

section Samples

def sampleCovenant : Bytes32 := Bytes.fill 32 0x11

def sampleOutpoint (n : UInt8) : KaspaOutpoint := ⟨Bytes.fill 32 n, 0⟩

def sampleState (digest : UInt8) (policy : ReceiptPolicy) : RgkStateCommitment :=
  ⟨1, .kaspaSimnet, sampleCovenant, Bytes.fill 32 0x22, Bytes.fill 32 digest, policy⟩

def sampleOpen : IndexerOp :=
  .openCovenant .kaspaSimnet sampleCovenant (Bytes.fill 32 0x33) (sampleState 1 .verifierOnly)
    (sampleOutpoint 1) 100

/-- A spend of outpoint `n` into outpoint `n+1`, with a complete continuation proof. -/
def sampleSpend (n : UInt8) (policy : ReceiptPolicy) : IndexerOp :=
  .applySpendWithContinuation
    ⟨sampleCovenant, Bytes.fill 32 n, sampleOutpoint n, sampleOutpoint (n+1),
      sampleState (n+1) policy, 200⟩
    ⟨Bytes.fill 32 0x44, Bytes.fill 32 0x55, Bytes.fill 32 0x66⟩

/-- A backend that knows of one spent outpoint only, spent into the one after it. -/
def sampleBackend (n : UInt8) : KaspaChainBackend where
  networkId := .ok .kaspaSimnet
  getUtxo o := .ok (if o = sampleOutpoint n then some ⟨some ⟨Bytes.fill 32 (n+1), some 200⟩⟩ else none)
  confirmationDepth _ := .ok (some 20)

/-- One spend is indexed; the backend has lost it but reports a spend of what it created. -/
def sampleFallThrough : RgkResolver :=
  .new (sampleBackend 2) (runOps Sha256.digest [sampleOpen, sampleSpend 1 .verifierOnly])
    .kaspaSimnet

theorem validVerdict_without_reported_spend :
    resolveByCovenant Sha256.digest sampleFallThrough sampleCovenant =
        .nativeTransitionedValid sampleCovenant (sampleOutpoint 2) (sampleOutpoint 2)
          (Bytes.fill 32 1) (sampleState 2 .verifierOnly) none 20 ∧
      sampleFallThrough.backend.getUtxo (sampleOutpoint 1) = .ok none ∧
      ¬ValidVerdictSound Sha256.digest sampleFallThrough sampleCovenant := by
  have hres : resolveByCovenant Sha256.digest sampleFallThrough sampleCovenant =
      .nativeTransitionedValid sampleCovenant (sampleOutpoint 2) (sampleOutpoint 2)
        (Bytes.fill 32 1) (sampleState 2 .verifierOnly) none 20 := by
    decide +kernel
  refine ⟨hres, rfl, fun hsound => ?_⟩
  obtain ⟨last, hsup⟩ := hsound _ _ _ _ _ _ hres
  obtain ⟨utxo, sp, hu, hsp, htx⟩ := hsup.onChain
  rw [← hsup.spent] at hu
  have hspender : sp.txid = Bytes.fill 32 3 := by
    have hu' : utxo = ⟨some ⟨Bytes.fill 32 3, some 200⟩⟩ :=
      (Option.some.inj (Except.ok.inj hu)).symm
    rw [hu'] at hsp
    rw [← Option.some.inj hsp]
  rw [hspender] at htx
  exact absurd htx (by decide +kernel)

end Samples
end RgkProtocol.ResolverVerdict
