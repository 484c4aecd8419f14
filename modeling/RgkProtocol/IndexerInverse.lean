import RgkProtocol.IndexerInvariant

/-!
# Rollback as the inverse of spends

A history entry keeps the outpoint, digest and policy from before its spend, so a rollback puts
these back exactly. It does not keep the version of the state, and the DAA score it puts back is
one less than that of the spend taken back. The entry from before comes back exactly when these
two happen to agree.
-/
namespace RgkProtocol.IndexerInverse
open ByteStrings Hashing CoreTypes Checked IndexerState IndexerOps LinkedPath IndexerHistory
open IndexerRebuild IndexerInvariant

section Statement
variable (H : List UInt8 → Bytes32)

/-- A spend call with the proofs that came with it. -/
abbrev SpendArgs := SpendCall × Option ContinuationProof × Option PolicyMigrationProof

def spendsOf (ops : List IndexerOp) : List SpendArgs := ops.filterMap IndexerOp.spendArgs

/-- After the calls `pre` on `ix`, the call is a spend of the covenant that is accepted, or it
attaches a certificate to one of the spends in `pre`. -/
def SpendOrCertificate (ix : InMemoryIndexer) (c : Bytes32) (pre : List IndexerOp)
    (op : IndexerOp) : Prop :=
  (∃ call continuation policyMigration,
    op.spendArgs = some (call, continuation, policyMigration) ∧ call.covenant = c ∧
      (IndexerOp.apply H (pre.foldl (step H) ix) op).1 = .ok ()) ∨
  ∃ receiptId certificate, op = .recordAllocationAuditCertificate c receiptId certificate ∧
    ∃ args ∈ spendsOf pre, args.1.receiptId = receiptId

/-- The first spend came one DAA unit after the last update, and the last one kept the version. -/
def Restoring (e : IndexedCovenant) (spends : List SpendArgs) : Prop :=
  ∀ first last, spends.head? = some first → spends.getLast? = some last →
    UInt64.ofNat (first.1.daaScore.toNat-1) = e.lastUpdateDaaScore ∧
      last.1.newState.version = e.latestState.version

end Statement

section Spending
variable {H : List UInt8 → Bytes32}

/-- The entry `e'` is what a sequence of spends, with certificates for them, made of `e`. -/
structure SpentFrom (c : Bytes32) (e : IndexedCovenant) (spends : List SpendArgs)
    (e' : IndexedCovenant) : Prop where
  wellFormed : EntryWellFormed c e'
  identity : SameIdentity e e'
  start : spends = [] → e' = e
  latest : ∀ last, spends.getLast? = some last → e'.latestState = last.1.newState
  history : ∃ later o o', e'.spendHistory = e.spendHistory ++ later ∧
    later.map (fun s => (s.receiptId, s.daaScore)) =
      spends.map (fun a => (a.1.receiptId, a.1.daaScore)) ∧
    e.openOutpoint = some o ∧ e'.openOutpoint = some o' ∧
    Linked SpendEntry.before SpendEntry.after
      ⟨o, e.latestState.stateDigest, e.latestState.receiptPolicy⟩ later
      ⟨o', e'.latestState.stateDigest, e'.latestState.receiptPolicy⟩

lemma SpentFrom.nil {c : Bytes32} {e : IndexedCovenant} (h : EntryWellFormed c e) :
    SpentFrom c e [] e where
  wellFormed := h
  identity := .refl e
  start := fun _ => rfl
  latest := fun _ hl => by cases hl
  history := by
    obtain ⟨start, o, ho, hl⟩ := h.path
    exact ⟨[], o, o, (List.append_nil _).symm, rfl, ho, ho, rfl⟩

lemma SpentFrom.spend {c : Bytes32} {e e' : IndexedCovenant} {spends : List SpendArgs}
    (h : SpentFrom c e spends e') {call : SpendCall} {continuation : Option ContinuationProof}
    {policyMigration : Option PolicyMigrationProof}
    (ha : SpendAccepted H e' call continuation policyMigration) :
    SpentFrom c e (spends ++ [(call, continuation, policyMigration)])
      (entryAfterSpend e' call continuation policyMigration) where
  wellFormed := h.wellFormed.afterSpend ha
  identity := h.identity.trans ⟨rfl, rfl, rfl, ha.asset.symm⟩
  start := fun hnil => by simp at hnil
  latest := by
    intro last hlast
    rw [List.getLast?_concat, Option.some.injEq] at hlast
    rw [← hlast]
    rfl
  history := by
    obtain ⟨later, o, o', hhist, hmap, ho, ho', hl⟩ := h.history
    obtain rfl : o' = call.spent := Option.some.inj (ho'.symm.trans ha.spent)
    refine ⟨later ++ [⟨call.daaScore, call.spent, call.newOutpoint, e'.latestState.stateDigest,
      call.newState.stateDigest, e'.latestState.receiptPolicy, call.newState.receiptPolicy,
      call.receiptId, continuation, policyMigration, none⟩], o, call.newOutpoint, ?_, ?_, ho, rfl,
      ?_⟩
    · simp only [entryAfterSpend, hhist, List.append_assoc]
    · simp only [List.map_append, hmap, List.map_cons, List.map_nil]
    · exact linked_concat.mpr ⟨hl, rfl⟩

lemma attachCertificate_append {receiptId : Bytes32}
    {certificate : AllocationAuditCertificateRecord} {xs ys : List SpendEntry}
    (h : receiptId ∉ xs.map SpendEntry.receiptId) :
    attachCertificate receiptId certificate (xs ++ ys) =
      xs ++ attachCertificate receiptId certificate ys := by
  induction xs with
  | nil => rfl
  | cons x xs ih =>
    simp only [List.map_cons, List.mem_cons, not_or] at h
    rw [List.cons_append, attachCertificate, if_neg (Ne.symm h.1), ih h.2, List.cons_append]

lemma SpentFrom.certify {c : Bytes32} {e e' : IndexedCovenant} {spends : List SpendArgs}
    (h : SpentFrom c e spends e') {receiptId : Bytes32}
    (hmem : ∃ args ∈ spends, args.1.receiptId = receiptId)
    (certificate : AllocationAuditCertificateRecord) :
    SpentFrom c e spends { e' with
      spendHistory := attachCertificate receiptId certificate e'.spendHistory } := by
  obtain ⟨args, hargs, hid⟩ := hmem
  obtain ⟨later, o, o', hhist, hmap, ho, ho', hl⟩ := h.history
  have hnew : receiptId ∈ later.map SpendEntry.receiptId := by
    have hids := congrArg (List.map Prod.fst) hmap
    simp only [List.map_map] at hids
    have hin : receiptId ∈ spends.map (fun a => a.1.receiptId) := hid ▸ List.mem_map_of_mem hargs
    exact (show later.map SpendEntry.receiptId = _ from hids) ▸ hin
  have hold : receiptId ∉ e.spendHistory.map SpendEntry.receiptId := by
    intro hin
    have hnodup := h.wellFormed.receipts_nodup
    rw [h.wellFormed.receipts, hhist, List.map_append] at hnodup
    exact (List.nodup_append.mp hnodup).2.2 _ hin _ hnew rfl
  refine {
    wellFormed := h.wellFormed.step
      (show EntryStep (fun _ => Bytes.zero) (.clearScanCursor "") c _ _ from
        .certified receiptId certificate)
    identity := h.identity
    start := fun hnil => by rw [hnil] at hargs; cases hargs
    latest := h.latest
    history := ⟨attachCertificate receiptId certificate later, o, o', ?_, ?_, ho, ho', ?_⟩ }
  · simp only [hhist, attachCertificate_append hold]
  · rw [← hmap]
    exact attachCertificate_fields _ (fun _ _ => rfl) receiptId certificate later
  · exact linked_of_ends_eq (attachCertificate_ends receiptId certificate later).symm hl

end Spending

section Runs
variable {H : List UInt8 → Bytes32}

lemma withEntry_at {ix : InMemoryIndexer} {c : Bytes32} {e : IndexedCovenant}
    (f : IndexedCovenant → Except IndexerError Unit × IndexedCovenant) :
    withEntry { ix with map := ix.map.insert c e } c f =
      ((f e).1, { ix with map := ix.map.insert c (f e).2 }) := by
  simp [withEntry]

lemma spendArgs_apply {op : IndexerOp} {call : SpendCall}
    {continuation : Option ContinuationProof} {policyMigration : Option PolicyMigrationProof}
    (hop : op.spendArgs = some (call, continuation, policyMigration)) (ix : InMemoryIndexer) :
    IndexerOp.apply H ix op = applySpendWith H ix call continuation policyMigration := by
  cases op <;> simp only [IndexerOp.spendArgs, Option.some.injEq, Prod.mk.injEq, reduceCtorEq] at hop
  all_goals
    obtain ⟨rfl, rfl, rfl⟩ := hop
    rfl

lemma spentFrom_step {ix : InMemoryIndexer} {c : Bytes32} {e e' : IndexedCovenant}
    {pre : List IndexerOp} {op : IndexerOp} (h : SpentFrom c e (spendsOf pre) e')
    (hix : pre.foldl (step H) ix = { ix with map := ix.map.insert c e' })
    (hop : SpendOrCertificate H ix c pre op) :
    ∃ e'', SpentFrom c e (spendsOf (pre ++ [op])) e'' ∧
      (pre ++ [op]).foldl (step H) ix = { ix with map := ix.map.insert c e'' } := by
  rw [List.foldl_append, hix, List.foldl_cons, List.foldl_nil, step]
  rcases hop with ⟨call, continuation, policyMigration, hargs, rfl, hok⟩ |
    ⟨receiptId, certificate, rfl, hmem⟩
  · rw [hix] at hok
    rw [spendArgs_apply hargs, applySpendWith, withEntry_at] at hok ⊢
    cases hr : applySpendToEntry H e' call continuation policyMigration with
    | error err =>
      rw [hr] at hok
      cases hok
    | ok e'' =>
      obtain ⟨ha, rfl⟩ := applySpendToEntry_eq_ok.mp hr
      refine ⟨_, ?_, rfl⟩
      rw [spendsOf, List.filterMap_append, List.filterMap_cons_some hargs]
      exact h.spend ha
  · have hspends : spendsOf (pre ++ [.recordAllocationAuditCertificate c receiptId certificate]) =
        spendsOf pre := by
      simp [spendsOf, IndexerOp.spendArgs]
    rw [IndexerOp.apply, recordAllocationAuditCertificate, withEntry_at, hspends]
    refine ⟨_, ?_, rfl⟩
    unfold recordCertificateOnEntry
    split
    · exact h
    · split
      · exact h
      · split
        · split_ifs <;> exact h
        · exact h.certify hmem certificate

lemma spentFrom_run {ix : InMemoryIndexer} {c : Bytes32} {e : IndexedCovenant}
    (he : ix.map.get? c = some e) (hwf : EntryWellFormed c e) (ops : List IndexerOp)
    (hops : EveryStep (SpendOrCertificate H ix c) ops) :
    ∃ e', SpentFrom c e (spendsOf ops) e' ∧
      ops.foldl (step H) ix = { ix with map := ix.map.insert c e' } := by
  refine run_invariant (P := fun ops => ∃ e', SpentFrom c e (spendsOf ops) e' ∧
    ops.foldl (step H) ix = { ix with map := ix.map.insert c e' }) ?_ ?_ ops hops
  · exact ⟨e, .nil hwf, by rw [OrderedMap.insert_of_get? he]; rfl⟩
  · intro pre op ⟨e', h, hix⟩ hop
    exact spentFrom_step h hix hop

/-- Taking back all the spends gives back everything but the version and the DAA score. -/
lemma beforeSpend_spentFrom {c : Bytes32} {e e' : IndexedCovenant} {spends : List SpendArgs}
    {s : SpendEntry} {later : List SpendEntry} {o : KaspaOutpoint} {b : Anchor} {last : SpendArgs}
    (hwf : EntryWellFormed c e) (h : SpentFrom c e spends e') (ho : e.openOutpoint = some o)
    (hl : Linked SpendEntry.before SpendEntry.after
      ⟨o, e.latestState.stateDigest, e.latestState.receiptPolicy⟩ (s :: later) b)
    (hlast : spends.getLast? = some last) :
    beforeSpend e' e.spendHistory s e.acceptedReceipts = { e with
      latestState := { e.latestState with version := last.1.newState.version }
      lastUpdateDaaScore := UInt64.ofNat (s.daaScore.toNat-1) } := by
  obtain ⟨hspent, hdigest, hpolicy⟩ : s.spent = o ∧ s.newStateDigest = e.latestState.stateDigest ∧
      s.previousReceiptPolicy = e.latestState.receiptPolicy := by
    simpa [SpendEntry.before] using hl.1
  obtain ⟨hchain, hcov, hlin, hasset⟩ := h.identity
  have hstateChain : e'.latestState.chainId = e.latestState.chainId :=
    h.wellFormed.stateChain.trans (hchain.trans hwf.stateChain.symm)
  have hstateCovenant : e'.latestState.covenantId = e.latestState.covenantId :=
    h.wellFormed.stateCovenant.trans hwf.stateCovenant.symm
  have hversion : e'.latestState.version = last.1.newState.version := by
    rw [h.latest last hlast]
  simp only [beforeSpend, hspent, hdigest, hpolicy, hchain, hcov, hlin, hasset, hstateChain,
    hstateCovenant, hversion, ← ho]

/-- Taking back all the spends gives the entry from before exactly under the condition. -/
lemma rollbackLoop_spentFrom {c : Bytes32} {e e' : IndexedCovenant} {spends : List SpendArgs}
    (hwf : EntryWellFormed c e) (h : SpentFrom c e spends e') :
    (rollbackLoop spends.length e').1 = .ok () ∧
      ((rollbackLoop spends.length e').2 = e ↔ Restoring e spends) := by
  obtain ⟨later, o, o', hhist, hmap, ho, ho', hl⟩ := h.history
  cases spends with
  | nil =>
    rw [h.start rfl]
    refine ⟨rfl, fun _ first last hf => ?_, fun _ => rfl⟩
    cases hf
  | cons first rest =>
    cases later with
    | nil => cases hmap
    | cons s later =>
      obtain ⟨last, hlast⟩ : ∃ last, (first :: rest).getLast? = some last :=
        ⟨_, List.getLast?_eq_some_getLast (List.cons_ne_nil _ _)⟩
      have hlen : (first :: rest).length = later.length+1 := by
        simpa using (congrArg List.length hmap).symm
      have hdaa : s.daaScore = first.1.daaScore := by
        simp only [List.map_cons, List.cons.injEq, Prod.mk.injEq] at hmap
        exact hmap.1.2
      have hreceipts := h.wellFormed.receipts_take hhist
      rw [← hwf.receipts] at hreceipts
      rw [hlen, rollbackLoop_eq hhist, hreceipts, beforeSpend_spentFrom hwf h ho hl hlast, hdaa]
      refine ⟨rfl, fun heq first' last' hf hl' => ?_, fun hr => ?_⟩
      · obtain rfl : first = first' := Option.some.inj hf
        obtain rfl : last = last' := Option.some.inj (hlast.symm.trans hl')
        exact ⟨congrArg IndexedCovenant.lastUpdateDaaScore heq,
          congrArg (fun e => e.latestState.version) heq⟩
      · obtain ⟨hd, hv⟩ := hr first last rfl hlast
        simp only [hd, hv]

end Runs

/-- After accepted spends of a reachable covenant, with certificates for them in between, a
rollback of as many spends succeeds. It brings back the entry from before, and with it the answer
to every later call, exactly when the first spend came one DAA unit after the last update and the
last spend kept the version of the state. -/
theorem rollback_restores_iff (H : List UInt8 → Bytes32) (calls : List IndexerCall) (c : Bytes32)
    (e : IndexedCovenant) (he : (runCalls H calls).map.get? c = some e) (ops : List IndexerOp)
    (hops : EveryStep (SpendOrCertificate H (runCalls H calls) c) ops) (depth : UInt64)
    (hdepth : depth.toNat = (spendsOf ops).length) :
    let rolled := rollback (ops.foldl (step H) (runCalls H calls)) c depth
    rolled.1 = .ok () ∧
      ((rolled.2.map.get? c = some e ∧
          ∀ later, answers H rolled.2 later = answers H (runCalls H calls) later) ↔
        Restoring e (spendsOf ops)) := by
  intro rolled
  have hwf := runCalls_wellFormed calls he
  obtain ⟨e', hspent, hix⟩ := spentFrom_run he hwf ops hops
  obtain ⟨hok, hiff⟩ := rollbackLoop_spentFrom hwf hspent
  have hentry : rollbackEntry depth e' = rollbackLoop (spendsOf ops).length e' := by
    obtain ⟨later, -, -, hhist, hmap, -⟩ := hspent.history
    have hlen : later.length = (spendsOf ops).length := by
      simpa using congrArg List.length hmap
    rw [rollbackEntry, if_neg, hdepth]
    rw [hdepth, hhist, List.length_append]
    omega
  have hrolled : rolled = ((rollbackEntry depth e').1, { runCalls H calls with
      map := (runCalls H calls).map.insert c (rollbackEntry depth e').2 }) := by
    simp only [rolled, rollback, hix, withEntry_at]
  rw [hrolled, hentry]
  refine ⟨hok, fun ⟨hget, _⟩ => ?_, fun hr => ?_⟩
  · rw [OrderedMap.get?_insert_self, Option.some.injEq] at hget
    exact hiff.mp hget
  · rw [hiff.mpr hr, OrderedMap.insert_of_get? he]
    exact ⟨he, fun _ => rfl⟩

section Samples

def sampleState (digest : UInt8) : RgkStateCommitment :=
  ⟨1, .kaspaSimnet, Bytes.fill 32 0x22, Bytes.fill 32 0x44, Bytes.fill 32 digest, .verifierOnly⟩

def sampleCheckpoint : RebuildCheckpoint :=
  ⟨.kaspaSimnet, Bytes.fill 32 0x22, Bytes.fill 32 0x33, sampleState 1, ⟨Bytes.fill 32 1, 0⟩, 100⟩

/-- The covenant is opened at DAA score 100. -/
def sampleCalls : List IndexerCall :=
  [.plain (.openCovenant .kaspaSimnet (Bytes.fill 32 0x22) (Bytes.fill 32 0x33) (sampleState 1)
    ⟨Bytes.fill 32 1, 0⟩ 100)]

def sampleSpend (daaScore : UInt64) : IndexerOp :=
  .applySpend ⟨Bytes.fill 32 0x22, Bytes.fill 32 0x11, ⟨Bytes.fill 32 1, 0⟩, ⟨Bytes.fill 32 2, 0⟩,
    sampleState 2, daaScore⟩

def sampleEntry : IndexedCovenant :=
  .opened (Bytes.fill 32 0x22) .kaspaSimnet (Bytes.fill 32 0x33) (sampleState 1)
    ⟨Bytes.fill 32 1, 0⟩ 100

lemma sampleSpend_accepted :
    EveryStep (SpendOrCertificate Sha256.digest (runCalls Sha256.digest sampleCalls)
      (Bytes.fill 32 0x22)) [sampleSpend 101] := by
  refine everyStep_cons (Or.inl ⟨_, none, none, rfl, rfl, ?_⟩) (everyStep_nil _)
  decide +kernel

theorem rollback_restores_sample :
    let rolled := rollback ([sampleSpend 101].foldl (step Sha256.digest)
      (runCalls Sha256.digest sampleCalls)) (Bytes.fill 32 0x22) 1
    rolled.1 = .ok () ∧
      ((rolled.2.map.get? (Bytes.fill 32 0x22) = some sampleEntry ∧
          ∀ later, answers Sha256.digest rolled.2 later =
            answers Sha256.digest (runCalls Sha256.digest sampleCalls) later) ↔
        Restoring sampleEntry (spendsOf [sampleSpend 101])) :=
  rollback_restores_iff Sha256.digest sampleCalls (Bytes.fill 32 0x22) sampleEntry
    (by decide +kernel) [sampleSpend 101] sampleSpend_accepted 1 (by decide +kernel)

/-- The spend comes a hundred DAA units after the last update. After it is taken back, a rebuild
from the checkpoint the covenant was opened with is refused; before the spend it was accepted. -/
theorem rollback_loses_daa_score :
    let opened := runCalls Sha256.digest sampleCalls
    let rolled := rollback (step Sha256.digest opened (sampleSpend 200)) (Bytes.fill 32 0x22) 1
    let source : RebuildSource := ⟨.ok .kaspaSimnet, fun _ _ => .ok none⟩
    rolled.1 = .ok () ∧ opened.map.get? (Bytes.fill 32 0x22) = some sampleEntry ∧
      rolled.2.map.get? (Bytes.fill 32 0x22) = some { sampleEntry with lastUpdateDaaScore := 199 } ∧
      (rebuildFrom Sha256.digest opened source ⟨sampleCheckpoint, []⟩).1 =
        .ok ⟨false, 0, 0, ⟨Bytes.fill 32 1, 0⟩, 100⟩ ∧
      (rebuildFrom Sha256.digest rolled.2 source ⟨sampleCheckpoint, []⟩).1 =
        .error (.invariant "existing covenant DAA score does not match rebuild checkpoint") := by
  decide +kernel

end Samples
end RgkProtocol.IndexerInverse
