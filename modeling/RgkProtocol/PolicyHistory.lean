import RgkProtocol.ResolverVerdict

/-!
# Receipt policies along a history

The indexer checks a migration proof when one is supplied and accepts a policy change without
one; the resolver looks at the newest spend only. Where no spend without a proof changes the
policy, the proved migrations of a history lead from the policy at `open` to the latest one.
-/
namespace RgkProtocol.PolicyHistory
open ByteStrings Hashing CoreTypes Checked IndexerState IndexerOps LinkedPath IndexerHistory Resolver
open ResolverVerdict

section Properties
variable (H : List UInt8 → Bytes32)

/-- Every spend that changes the policy carries a valid migration proof. -/
def ChangesProved (history : List SpendEntry) : Prop :=
  ∀ s ∈ history, s.newReceiptPolicy ≠ s.previousReceiptPolicy → MigrationProved H s

/-- The spends that change the policy. -/
def migrations (history : List SpendEntry) : List SpendEntry :=
  history.filter (fun s => s.previousReceiptPolicy ≠ s.newReceiptPolicy)

/-- An unbroken chain of valid migration proofs leads from one policy to another. -/
def MigrationChain (history : List SpendEntry) (opened latest : ReceiptPolicy) : Prop :=
  (∀ s ∈ migrations history, MigrationProved H s) ∧
    Linked SpendEntry.previousReceiptPolicy SpendEntry.newReceiptPolicy opened (migrations history)
      latest

/-- A spend call without a migration proof that the indexer accepts keeps the policy. -/
def KeepsPolicy (ix : InMemoryIndexer) (op : IndexerOp) : Prop :=
  ∀ call continuation e e', op.spendArgs = some (call, continuation, none) →
    ix.map.get? call.covenant = some e →
    applySpendToEntry H e call continuation none = .ok e' →
    call.newState.receiptPolicy = e.latestState.receiptPolicy

end Properties

section Steps
variable {H : List UInt8 → Bytes32}

lemma changesProved_concat {history : List SpendEntry} {s : SpendEntry}
    (h : ChangesProved H history)
    (hs : s.newReceiptPolicy ≠ s.previousReceiptPolicy → MigrationProved H s) :
    ChangesProved H (history ++ [s]) := by
  intro t ht
  rcases List.mem_append.mp ht with ht | ht
  · exact h t ht
  · rw [List.mem_singleton.mp ht]
    exact hs

lemma changesProved_step {ix : InMemoryIndexer} {op : IndexerOp} {c : Bytes32} {start : Anchor}
    {e e' : IndexedCovenant} (hkeep : KeepsPolicy H ix op) (he : ix.map.get? c = some e)
    (hfrom : HistoryFrom start e) (hs : EntryStep H op c e e')
    (h : ChangesProved H e.spendHistory) : ChangesProved H e'.spendHistory := by
  cases hs with
  | same => exact h
  | @spend call continuation policyMigration hop hc ha =>
    refine changesProved_concat h fun hne => ?_
    cases policyMigration with
    | none =>
      rw [← hc] at he
      exact absurd (hkeep call continuation e _ hop he (applySpendToEntry_eq_ok.mpr ⟨ha, rfl⟩)) hne
    | some proof =>
      obtain ⟨cont, hcont, hv⟩ := ha.migration proof rfl
      exact ⟨proof, cont, rfl, hcont, hv⟩
  | rolledBack hn =>
    have hpre := (rollbackLoop_spec hn hfrom).2
    exact fun s hmem => h s (hpre.subset hmem)
  | certified receiptId certificate =>
    intro s hmem hne
    obtain ⟨t, ht, attached, rfl, -⟩ := mem_attachCertificate hmem
    exact h t ht hne

theorem runOps_changesProved (ops : List IndexerOp)
    (hkeep : EveryStep (fun pre op => KeepsPolicy H (runOps H pre) op) ops) {c : Bytes32}
    {e : IndexedCovenant} (h : (runOps H ops).map.get? c = some e) :
    ChangesProved H e.spendHistory := by
  have hrun : ∀ c e, (runOps H ops).map.get? c = some e → ChangesProved H e.spendHistory := by
    refine run_invariant (P := fun ops => ∀ c e, (runOps H ops).map.get? c = some e →
      ChangesProved H e.spendHistory) ?_ ?_ ops hkeep
    · intro c e he
      cases he
    · intro pre op hpre hop c e' he'
      rw [runOps_concat] at he'
      rcases stepEntry_cases he' with ⟨e, he, hs⟩ | ⟨-, lineage, initial, o, daa, -, -, rfl⟩
      · obtain ⟨initial, o, -, hfrom⟩ := runOps_historyFrom pre he
        exact changesProved_step hop he hfrom hs (hpre c e he)
      · intro s hmem
        cases hmem
  exact hrun c e h

lemma migrationChain_of_history {start : Anchor} {e : IndexedCovenant}
    (hfrom : HistoryFrom start e) (h : ChangesProved H e.spendHistory) :
    MigrationChain H e.spendHistory start.policy e.latestState.receiptPolicy := by
  obtain ⟨o, -, hl⟩ := hfrom
  refine ⟨fun s hs => ?_, linked_filter_moves (linked_map Anchor.policy hl)⟩
  obtain ⟨hmem, hne⟩ := List.mem_filter.mp hs
  exact h s hmem (Ne.symm (by simpa using hne))

/-- The state of a valid verdict is the latest state of the covenant's entry. -/
lemma valid_newState {r : RgkResolver} {c : Bytes32} {spent new : KaspaOutpoint}
    {receipt : Bytes32} {state : RgkStateCommitment}
    {certificate : Option AllocationAuditCertificateRecord} {depth : UInt64}
    (h : resolveByCovenant H r c =
      .nativeTransitionedValid c spent new receipt state certificate depth) :
    ∃ e, InMemoryIndexer.lookup r.indexer c = some e ∧ state = e.latestState := by
  obtain ⟨-, e, o, last, he, ho, -, ⟨sp, -, hj⟩ | ⟨-, hj⟩⟩ := resolveByCovenant_valid h
  · obtain ⟨⟨-, -, -, hstate, -⟩, -⟩ := judgeIndexedSpend_valid hj
    exact ⟨e, he, hstate⟩
  · obtain ⟨-, -, -, -, -, -, -, hstate, -⟩ := (judgeOpenOutpoint_eq_valid he ho).mp hj
    exact ⟨e, he, hstate⟩

end Steps

/-- In every run whose spends without a migration proof keep the policy, a valid verdict is
about a history whose policy changes are all proved, and proved migrations lead from the policy
at `open` to the returned one. -/
theorem validVerdict_policy_changes_proved (H : List UInt8 → Bytes32) (ops : List IndexerOp)
    (hkeep : EveryStep (fun pre op => KeepsPolicy H (runOps H pre) op) ops)
    (backend : KaspaChainBackend) (verifierChain : KaspaChainId) (reorgSafetyDepth : UInt64)
    (covenant : Bytes32) (spent new : KaspaOutpoint) (receipt : Bytes32)
    (state : RgkStateCommitment) (certificate : Option AllocationAuditCertificateRecord)
    (depth : UInt64)
    (hvalid : resolveByCovenant H ⟨backend, runOps H ops, verifierChain, reorgSafetyDepth⟩ covenant =
      .nativeTransitionedValid covenant spent new receipt state certificate depth) :
    ∃ e initial openOutpoint, (runOps H ops).map.get? covenant = some e ∧
      ChangesProved H e.spendHistory ∧ OpenedWith H ops covenant initial openOutpoint ∧
      MigrationChain H e.spendHistory initial.receiptPolicy state.receiptPolicy := by
  obtain ⟨e, he, rfl⟩ := valid_newState hvalid
  obtain ⟨initial, o, hopened, hfrom⟩ := runOps_historyFrom ops he
  have hproved := runOps_changesProved ops hkeep he
  exact ⟨e, initial, o, he, hproved, hopened, migrationChain_of_history hfrom hproved⟩

section Samples

/-- A spend of outpoint 1 that moves to the policy `any` with a migration proof. -/
def sampleMigration : IndexerOp :=
  let transition : Bytes32 := Bytes.fill 32 0x66
  let authorization : Bytes32 := Bytes.fill 32 0x77
  .applySpendWithContinuationAndPolicyMigration
    ⟨sampleCovenant, Bytes.fill 32 1, sampleOutpoint 1, sampleOutpoint 2, sampleState 2 .any, 200⟩
    ⟨Bytes.fill 32 0x44, Bytes.fill 32 0x55, transition⟩
    ⟨.verifierOnly, .any, Bytes.fill 32 1, Bytes.fill 32 2, transition, authorization,
      policyMigrationCommitment Sha256.digest .verifierOnly .any (Bytes.fill 32 1)
        (Bytes.fill 32 2) transition authorization⟩

def sampleProvedRun : List IndexerOp := [sampleOpen, sampleMigration, sampleSpend 2 .any]

lemma sampleProvedRun_keeps :
    EveryStep (fun pre op => KeepsPolicy Sha256.digest (runOps Sha256.digest pre) op)
      sampleProvedRun := by
  refine everyStep_cons ?_ (everyStep_cons ?_ (everyStep_cons ?_ (everyStep_nil _)))
  · intro call continuation e e' hop
    cases hop
  · intro call continuation e e' hop
    cases hop
  · intro call continuation e e' hop he
    obtain ⟨rfl, -⟩ := Prod.mk.inj (Option.some.inj hop)
    have hpolicy : ((runOps Sha256.digest [sampleOpen, sampleMigration]).map.get?
        sampleCovenant).map (fun e => e.latestState.receiptPolicy) = some .any := by
      decide +kernel
    have he' : (runOps Sha256.digest [sampleOpen, sampleMigration]).map.get? sampleCovenant =
        some e := he
    rw [he'] at hpolicy
    exact fun _ => (Option.some.inj hpolicy).symm

theorem validVerdict_policy_changes_proved_sample :
    ∃ e initial openOutpoint, (runOps Sha256.digest sampleProvedRun).map.get? sampleCovenant =
        some e ∧ ChangesProved Sha256.digest e.spendHistory ∧
      OpenedWith Sha256.digest sampleProvedRun sampleCovenant initial openOutpoint ∧
      MigrationChain Sha256.digest e.spendHistory initial.receiptPolicy .any :=
  validVerdict_policy_changes_proved Sha256.digest sampleProvedRun sampleProvedRun_keeps
    (sampleBackend 2) .kaspaSimnet 10 sampleCovenant (sampleOutpoint 2) (sampleOutpoint 3)
    (Bytes.fill 32 2) (sampleState 3 .any) none 20 (by decide +kernel)

/-- The first spend changes the policy without a proof, the second keeps it. -/
def sampleSilentRun : List IndexerOp := [sampleOpen, sampleSpend 1 .any, sampleSpend 2 .any]

theorem validVerdict_after_silent_change :
    resolveByCovenant Sha256.digest
        (.new (sampleBackend 2) (runOps Sha256.digest sampleSilentRun) .kaspaSimnet)
        sampleCovenant =
      .nativeTransitionedValid sampleCovenant (sampleOutpoint 2) (sampleOutpoint 3)
        (Bytes.fill 32 2) (sampleState 3 .any) none 20 ∧
    ∃ e, (runOps Sha256.digest sampleSilentRun).map.get? sampleCovenant = some e ∧
      ¬ChangesProved Sha256.digest e.spendHistory := by
  have hchange : ((runOps Sha256.digest sampleSilentRun).map.get? sampleCovenant).any
      (fun e => e.spendHistory.any (fun s => s.newReceiptPolicy ≠ s.previousReceiptPolicy ∧
        s.policyMigration = none)) := by
    decide +kernel
  refine ⟨by decide +kernel, ?_⟩
  cases he : (runOps Sha256.digest sampleSilentRun).map.get? sampleCovenant with
  | none =>
    rw [he] at hchange
    cases hchange
  | some e =>
    rw [he] at hchange
    refine ⟨e, rfl, fun hproved => ?_⟩
    obtain ⟨s, hs, hs'⟩ := List.any_eq_true.mp hchange
    obtain ⟨hne, hnone⟩ := of_decide_eq_true hs'
    obtain ⟨proof, cont, hsome, -⟩ := hproved s hs hne
    rw [hnone] at hsome
    cases hsome

end Samples
end RgkProtocol.PolicyHistory
