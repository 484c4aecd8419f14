import RgkProtocol.IndexerInvariant
import RgkProtocol.ResolverVerdict

/-!
# Lookups by asset and by transition

Both lookups walk the indexed covenants in key order and end at the first one that matches. The
asset lookup does not go on where that covenant is unknown to the backend. The transition lookup
finds its entry anywhere in a history and reports it beside the verdict on the newest one.
-/
namespace RgkProtocol.ResolverLookups
open ByteStrings Hashing CoreTypes Checked IndexerState IndexerOps IndexerRebuild IndexerHistory
open IndexerInvariant Resolver ResolverVerdict

section Lookups
variable (H : List UInt8 → Bytes32)

def list (ix : InMemoryIndexer) : List Bytes32 := ix.map.keys

inductive TransitionResolverState where
  | resolved (transitionDigest covenant receiptId : Bytes32) (state : ResolverState)
  | unknownTransition (transitionDigest : Bytes32)
  deriving DecidableEq

def hasAsset (r : RgkResolver) (assetId covenant : Bytes32) : Bool :=
  (InMemoryIndexer.latestState r.indexer covenant).any (fun s => s.assetId = assetId)

def resolveByAssetFrom (r : RgkResolver) (assetId : Bytes32) : List Bytes32 → ResolverState
  | [] => .unknown Bytes.zero
  | covenant :: rest =>
      if hasAsset r assetId covenant then resolveByCovenant H r covenant
      else resolveByAssetFrom r assetId rest

def resolveByAsset (r : RgkResolver) (assetId : Bytes32) : ResolverState :=
  resolveByAssetFrom H r assetId (list r.indexer)

/-- The spend carries a continuation proof for the transition. -/
def continues (transitionDigest : Bytes32) (spend : SpendEntry) : Bool :=
  spend.continuation.any (fun proof => proof.transitionDigest = transitionDigest)

def resolveTransitionFrom (r : RgkResolver) (transitionDigest : Bytes32) :
    List Bytes32 → TransitionResolverState
  | [] => .unknownTransition transitionDigest
  | covenant :: rest =>
      match InMemoryIndexer.lookup r.indexer covenant with
      | none => resolveTransitionFrom r transitionDigest rest
      | some entry =>
          match entry.spendHistory.find? (continues transitionDigest) with
          | none => resolveTransitionFrom r transitionDigest rest
          | some spend =>
              .resolved transitionDigest covenant spend.receiptId (resolveByCovenant H r covenant)

def resolveTransition (r : RgkResolver) (transitionDigest : Bytes32) : TransitionResolverState :=
  resolveTransitionFrom H r transitionDigest (list r.indexer)

end Lookups

section Verdicts
variable {H : List UInt8 → Bytes32} {r : RgkResolver} {c : Bytes32}

/-- `ResolverState::covenant`. -/
def covenantOf : ResolverState → Bytes32
  | .opened covenant _ _ => covenant
  | .nativeTransitionedValid covenant _ _ _ _ _ _ => covenant
  | .nativeTransitionedInvalid covenant _ => covenant
  | .unconfirmed covenant _ => covenant
  | .reorgRisk covenant _ => covenant
  | .competingBranch covenant _ _ _ _ => covenant
  | .policyMigrationRequired covenant _ _ => covenant
  | .replayRejected covenant _ => covenant
  | .unknown covenant => covenant
  | .nodeDown covenant _ => covenant

def isUnknown : ResolverState → Bool
  | .unknown _ => true
  | _ => false

/-- A verdict on the covenant that is unknown under the given condition. -/
def UnknownWhen (c : Bytes32) (condition : Prop) (state : ResolverState) : Prop :=
  covenantOf state = c ∧ (isUnknown state = true ↔ condition)

/-- The backend is in service and does not know the outpoint. -/
def NotSeen (backend : KaspaChainBackend) (o : KaspaOutpoint) : Prop :=
  match backend.getUtxo o with
  | .ok utxo => utxo = none
  | .error e => e.classify ≠ .nodeDown ∧ e.classify ≠ .rpcFailure

def Pruned (backend : KaspaChainBackend) (o : KaspaOutpoint) : Prop :=
  ∃ e, backend.getUtxo o = .error e ∧ e.classify = .pruned

/-- The backend has pruned what the newest spend consumed, or it reports no such spend and does
not know the open outpoint either. -/
def EntryUnseen (backend : KaspaChainBackend) (c : Bytes32) (e : IndexedCovenant)
    (o : KaspaOutpoint) : Prop :=
  match e.spendHistory.getLast? with
  | none => NotSeen backend o
  | some last => Pruned backend last.spent ∨
      reportedSpend backend c last.spent = .ok none ∧ NotSeen backend o

/-- The backend is on the chain of the resolver and has nothing to say about the covenant. -/
def Unseen (r : RgkResolver) (c : Bytes32) : Prop :=
  r.backend.networkId = .ok r.verifierChain ∧
    ∀ e, InMemoryIndexer.lookup r.indexer c = some e →
      ∀ o, e.openOutpoint = some o → EntryUnseen r.backend c e o

lemma judgeOpenOutpoint_unknownWhen {e : IndexedCovenant} {o : KaspaOutpoint}
    (he : InMemoryIndexer.lookup r.indexer c = some e) :
    UnknownWhen c (NotSeen r.backend o) (judgeOpenOutpoint r c e o) := by
  have hlatest : InMemoryIndexer.latestState r.indexer c = some e.latestState := by
    rw [InMemoryIndexer.lookup] at he
    rw [InMemoryIndexer.latestState, he]
    rfl
  unfold judgeOpenOutpoint NotSeen
  cases r.backend.getUtxo o with
  | error err => cases herr : err.classify <;> simp [herr, UnknownWhen, covenantOf, isUnknown]
  | ok utxo =>
    cases utxo with
    | none => simp [UnknownWhen, covenantOf, isUnknown]
    | some utxo =>
      simp only [hlatest, reduceCtorEq]
      cases utxo.spending with
      | none => simp [UnknownWhen, covenantOf, isUnknown]
      | some sp =>
        simp only
        split_ifs
        · simp [UnknownWhen, covenantOf, isUnknown]
        · simp [UnknownWhen, covenantOf, isUnknown]
        · cases (InMemoryIndexer.lookup r.indexer c).bind (fun e => e.spendHistory.getLast?) with
          | none => simp [UnknownWhen, covenantOf, isUnknown]
          | some last =>
            cases InMemoryIndexer.openOutpoint r.indexer c <;>
              simp [UnknownWhen, covenantOf, isUnknown]

lemma judgeIndexedSpend_unknownWhen (e : IndexedCovenant) (last : SpendEntry) (sp : SpendingInfo) :
    UnknownWhen c False (judgeIndexedSpend H r c e last sp) := by
  unfold judgeIndexedSpend
  cases validateIndexedContinuation last sp.txid with
  | error reason =>
    simp only
    split_ifs <;> simp [UnknownWhen, covenantOf, isUnknown]
  | ok _ =>
    cases validateIndexedPolicyMigration H last e.latestState <;> simp only <;> split_ifs <;>
      simp [UnknownWhen, covenantOf, isUnknown]

lemma reportedSpend_unknownWhen {o : KaspaOutpoint} {verdict : ResolverState}
    (h : reportedSpend r.backend c o = .error verdict) :
    UnknownWhen c (Pruned r.backend o) verdict := by
  unfold reportedSpend at h
  cases hutxo : r.backend.getUtxo o with
  | ok utxo => simp [hutxo] at h
  | error err =>
    have hpruned : Pruned r.backend o ↔ err.classify = .pruned := by simp [Pruned, hutxo]
    rw [hutxo] at h
    rw [hpruned]
    cases herr : err.classify <;> simp [herr] at h <;>
      simp [← h, UnknownWhen, covenantOf, isUnknown]

lemma not_pruned {o : KaspaOutpoint} {found : Option SpendingInfo}
    (h : reportedSpend r.backend c o = .ok found) : ¬ Pruned r.backend o := by
  rintro ⟨err, hutxo, herr⟩
  simp [reportedSpend, hutxo, herr] at h

/-- Every verdict is on the covenant that was asked for; when it is unknown, in terms of the index
and the answers of the backend. -/
lemma resolveByCovenant_unknownWhen : UnknownWhen c (Unseen r c) (resolveByCovenant H r c) := by
  unfold resolveByCovenant Unseen
  cases hnet : r.backend.networkId with
  | error err => simp [UnknownWhen, covenantOf, isUnknown]
  | ok net =>
    by_cases hchain : net = r.verifierChain
    · subst hchain
      simp only [ne_eq, not_true_eq_false, if_false, true_and]
      cases he : InMemoryIndexer.lookup r.indexer c with
      | none => simp [UnknownWhen, covenantOf, isUnknown]
      | some e =>
        simp only [Option.some.injEq, forall_eq']
        cases ho : e.openOutpoint with
        | none => simp [UnknownWhen, covenantOf, isUnknown]
        | some o =>
          simp only [Option.some.injEq, forall_eq', EntryUnseen]
          cases hl : e.spendHistory.getLast? with
          | none => exact judgeOpenOutpoint_unknownWhen he
          | some last =>
            simp only
            cases hrep : reportedSpend r.backend c last.spent with
            | error verdict => simpa using reportedSpend_unknownWhen hrep
            | ok found =>
              cases found with
              | none => simpa [not_pruned hrep] using judgeOpenOutpoint_unknownWhen he
              | some sp => simpa [not_pruned hrep] using judgeIndexedSpend_unknownWhen e last sp
    · simp [hchain, UnknownWhen, covenantOf, isUnknown]

end Verdicts

section Assets
variable {H : List UInt8 → Bytes32} {r : RgkResolver} {assetId : Bytes32}

/-- The indexed covenants of an asset in list order. -/
def ofAsset (r : RgkResolver) (assetId : Bytes32) : List Bytes32 :=
  (list r.indexer).filter (hasAsset r assetId)

/-- If some covenant of the asset resolves to anything but unknown, the lookup returns what the
first such covenant resolves to, and so not unknown. -/
def SkipsUnknown (H : List UInt8 → Bytes32) (r : RgkResolver) (assetId : Bytes32) : Prop :=
  ∀ c, (ofAsset r assetId).find? (fun c => !isUnknown (resolveByCovenant H r c)) = some c →
    resolveByAsset H r assetId = resolveByCovenant H r c ∧
      isUnknown (resolveByAsset H r assetId) = false

lemma resolveByAssetFrom_eq (l : List Bytes32) :
    resolveByAssetFrom H r assetId l = match (l.filter (hasAsset r assetId)).head? with
      | some c => resolveByCovenant H r c
      | none => .unknown Bytes.zero := by
  induction l with
  | nil => rfl
  | cons c l ih =>
    rw [resolveByAssetFrom, List.filter_cons]
    split_ifs
    · rfl
    · exact ih

lemma resolveByAsset_of_head {c : Bytes32} {rest : List Bytes32}
    (h : ofAsset r assetId = c :: rest) :
    resolveByAsset H r assetId = resolveByCovenant H r c := by
  rw [ofAsset] at h
  rw [resolveByAsset, resolveByAssetFrom_eq, h, List.head?_cons]

/-- The lookup skips unknown covenants exactly if the first covenant of the asset is not one of
them, or all are. -/
theorem asset_lookup_skips_unknown_iff (H : List UInt8 → Bytes32) (r : RgkResolver)
    (assetId : Bytes32) :
    SkipsUnknown H r assetId ↔ ∀ c, (ofAsset r assetId).head? = some c → Unseen r c →
      ∀ c' ∈ ofAsset r assetId, Unseen r c' := by
  have hunseen : ∀ c, Unseen r c ↔ isUnknown (resolveByCovenant H r c) = true :=
    fun c => resolveByCovenant_unknownWhen.2.symm
  simp only [hunseen]
  cases hof : ofAsset r assetId with
  | nil => simp [SkipsUnknown, hof]
  | cons first rest =>
    have hresult : resolveByAsset H r assetId = resolveByCovenant H r first :=
      resolveByAsset_of_head hof
    rw [List.head?_cons]
    constructor
    · rintro hskips _ ⟨⟩ hunknown c hc
      by_contra hknown
      have hfound : ((first :: rest).find?
          (fun c => !isUnknown (resolveByCovenant H r c))).isSome = true := by
        rw [List.find?_isSome]
        exact ⟨c, hc, by simpa using hknown⟩
      obtain ⟨c', hc'⟩ := Option.isSome_iff_exists.mp hfound
      obtain ⟨-, hnot⟩ := hskips c' (by rw [hof]; exact hc')
      rw [hresult, hunknown] at hnot
      cases hnot
    · intro hall c hc
      rw [hof] at hc
      have hknown : isUnknown (resolveByCovenant H r c) = false := by
        simpa using List.find?_some hc
      have hfirst : isUnknown (resolveByCovenant H r first) = false := by
        by_contra hunknown
        have hc' := hall first rfl (by simpa using hunknown) c (List.mem_of_find?_eq_some hc)
        rw [hknown] at hc'
        cases hc'
      rw [List.find?_cons_of_pos (by simp [hfirst])] at hc
      obtain rfl := Option.some.inj hc
      exact ⟨hresult, hresult ▸ hfirst⟩

/-- A covenant of the sample asset with one open outpoint. -/
def sampleOpened (covenant outpoint : UInt8) : IndexerOp :=
  .openCovenant .kaspaSimnet (Bytes.fill 32 covenant) (Bytes.fill 32 0x33)
    ⟨1, .kaspaSimnet, Bytes.fill 32 covenant, Bytes.fill 32 0x22, Bytes.fill 32 1, .verifierOnly⟩
    (sampleOutpoint outpoint) 100

/-- Two covenants of one asset; the backend knows the outpoint of the second one only. -/
def sampleTwoCovenants : RgkResolver :=
  .new ⟨.ok .kaspaSimnet, fun o => .ok (if o = sampleOutpoint 2 then some ⟨none⟩ else none),
      fun _ => .ok none⟩
    (runOps Sha256.digest [sampleOpened 0x11 1, sampleOpened 0x12 2]) .kaspaSimnet

/-- The second covenant is open and the lookup answers unknown for the first. -/
theorem asset_lookup_stops_at_unknown :
    isUnknown (resolveByCovenant Sha256.digest sampleTwoCovenants (Bytes.fill 32 0x12)) = false ∧
      resolveByAsset Sha256.digest sampleTwoCovenants (Bytes.fill 32 0x22) =
        .unknown (Bytes.fill 32 0x11) ∧
      ¬ SkipsUnknown Sha256.digest sampleTwoCovenants (Bytes.fill 32 0x22) := by
  have hresult : resolveByAsset Sha256.digest sampleTwoCovenants (Bytes.fill 32 0x22) =
      .unknown (Bytes.fill 32 0x11) := by decide +kernel
  refine ⟨by decide +kernel, hresult, fun hskips => ?_⟩
  obtain ⟨-, hnot⟩ := hskips (Bytes.fill 32 0x12) (by decide +kernel)
  rw [hresult] at hnot
  cases hnot

end Assets

section Transitions
variable {H : List UInt8 → Bytes32} {r : RgkResolver}

lemma resolveTransitionFrom_eq_resolved {d d' c receiptId : Bytes32} {state : ResolverState}
    {l : List Bytes32} (h : resolveTransitionFrom H r d l = .resolved d' c receiptId state) :
    ∃ e found, InMemoryIndexer.lookup r.indexer c = some e ∧
      e.spendHistory.find? (continues d) = some found ∧ receiptId = found.receiptId ∧
      state = resolveByCovenant H r c := by
  induction l with
  | nil => cases h
  | cons k l ih =>
    rw [resolveTransitionFrom] at h
    cases he : InMemoryIndexer.lookup r.indexer k with
    | none =>
      rw [he] at h
      exact ih h
    | some e =>
      simp only [he] at h
      cases hfound : e.spendHistory.find? (continues d) with
      | none =>
        rw [hfound] at h
        exact ih h
      | some found =>
        simp only [hfound, TransitionResolverState.resolved.injEq] at h
        obtain ⟨-, rfl, rfl, rfl⟩ := h
        exact ⟨e, found, he, hfound, rfl, rfl⟩

/-- The state describes an entry of the covenant's history that carries the transition, and this
entry has the receipt id. -/
def DescribesTransition (r : RgkResolver) (d c receiptId : Bytes32)
    (spentOutpoint newOutpoint : KaspaOutpoint) (stateReceiptId newStateDigest : Bytes32) : Prop :=
  ∃ e entry, InMemoryIndexer.lookup r.indexer c = some e ∧ entry ∈ e.spendHistory ∧
    continues d entry = true ∧ spentOutpoint = entry.spent ∧ newOutpoint = entry.created ∧
    stateReceiptId = entry.receiptId ∧ newStateDigest = entry.resultingStateDigest ∧
    entry.receiptId = receiptId

/-- The transition is not in the covenant's history other than as its newest entry. -/
def OnlyNewest (r : RgkResolver) (d c : Bytes32) : Prop :=
  ∀ e, InMemoryIndexer.lookup r.indexer c = some e →
    ∀ entry ∈ e.spendHistory, continues d entry = true → e.spendHistory.getLast? = some entry

lemma entry_eq_of_receiptId {c : Bytes32} {e : IndexedCovenant} (h : EntryWellFormed c e)
    {s t : SpendEntry} (hs : s ∈ e.spendHistory) (ht : t ∈ e.spendHistory)
    (hid : s.receiptId = t.receiptId) : s = t := by
  have hnodup : (e.spendHistory.map SpendEntry.receiptId).Nodup := h.receipts ▸ h.receipts_nodup
  exact List.inj_on_of_nodup_map hnodup hs ht hid

/-- If the first entry with the transition is the newest one, all are. -/
lemma onlyNewest_of_found {d c : Bytes32} {e : IndexedCovenant} {last : SpendEntry}
    (h : EntryWellFormed c e) (hfound : e.spendHistory.find? (continues d) = some last)
    (hlast : e.spendHistory.getLast? = some last) {entry : SpendEntry}
    (hentry : entry ∈ e.spendHistory) (hd : continues d entry = true) : entry = last := by
  obtain ⟨-, before, after, hhistory, hbefore⟩ := List.find?_eq_some_iff_append.mp hfound
  have hnodup : e.spendHistory.Nodup :=
    List.Nodup.of_map SpendEntry.receiptId (h.receipts ▸ h.receipts_nodup)
  cases after with
  | nil =>
    rw [hhistory, List.mem_append, List.mem_singleton] at hentry
    rcases hentry with hmem | rfl
    · simpa [hd] using hbefore entry hmem
    · rfl
  | cons t after =>
    -- something behind the newest entry would be the newest entry again
    have hmem : last ∈ t :: after := by
      rw [hhistory, List.getLast?_append_cons, List.getLast?_cons_cons] at hlast
      exact List.mem_of_getLast? hlast
    rw [hhistory, List.nodup_append] at hnodup
    exact absurd hmem (List.nodup_cons.mp hnodup.2.1).1

/-- On the path through the newest indexed spend, the state is about the transition exactly if
it is the newest. -/
lemma describes_iff_of_indexed {d c receiptId stateReceiptId newStateDigest : Bytes32}
    {e : IndexedCovenant} {found last : SpendEntry} {spent new : KaspaOutpoint}
    (h : EntryWellFormed c e) (he : InMemoryIndexer.lookup r.indexer c = some e)
    (hfound : e.spendHistory.find? (continues d) = some found)
    (hlast : e.spendHistory.getLast? = some last) (hreceipt : receiptId = found.receiptId)
    (hspent : spent = last.spent) (hnew : new = last.created)
    (hid : stateReceiptId = last.receiptId)
    (hdigest : newStateDigest = e.latestState.stateDigest) :
    DescribesTransition r d c receiptId spent new stateReceiptId newStateDigest ↔
      OnlyNewest r d c := by
  have hfoundMem := List.mem_of_find?_eq_some hfound
  have hfoundD : continues d found = true := List.find?_some hfound
  have hlastMem := List.mem_of_getLast? hlast
  constructor
  · rintro ⟨e', entry, he', hentry, -, -, -, hentryId, -, hentryReceipt⟩ e'' he''
    obtain rfl : e' = e := Option.some.inj (he'.symm.trans he)
    obtain rfl : e'' = e' := Option.some.inj (he''.symm.trans he)
    have hentryLast : entry = last :=
      entry_eq_of_receiptId h hentry hlastMem (hentryId.symm.trans hid)
    have hfoundEntry : found = entry :=
      entry_eq_of_receiptId h hfoundMem hentry (hreceipt.symm.trans hentryReceipt.symm)
    rw [hfoundEntry, hentryLast] at hfound
    intro s hs hd
    rw [hlast, onlyNewest_of_found h hfound hlast hs hd]
  · intro honly
    have hfoundLast : found = last :=
      Option.some.inj ((honly e he found hfoundMem hfoundD).symm.trans hlast)
    have hresult := h.consistent.latestDigest last hlast
    exact ⟨e, found, he, hfoundMem, hfoundD, hfoundLast ▸ hspent, hfoundLast ▸ hnew,
      hfoundLast ▸ hid, hdigest.trans (hfoundLast ▸ hresult), hreceipt.symm⟩

/-- A state that came through the open outpoint is about no entry: what the newest spend consumed
is not reported as spent, and the open outpoint is. -/
lemma not_describes_of_open {d c receiptId stateReceiptId newStateDigest txid : Bytes32}
    {e : IndexedCovenant} {last : SpendEntry} {o new : KaspaOutpoint}
    (h : EntryWellFormed c e) (he : InMemoryIndexer.lookup r.indexer c = some e)
    (hlast : e.spendHistory.getLast? = some last)
    (hrep : reportedSpend r.backend c last.spent = .ok none) (hspend : ReportsSpend r.backend o txid)
    (hid : stateReceiptId = last.receiptId) :
    ¬ DescribesTransition r d c receiptId o new stateReceiptId newStateDigest := by
  rintro ⟨e', entry, he', hentry, -, hspent, -, hentryId, -, -⟩
  obtain rfl : e' = e := Option.some.inj (he'.symm.trans he)
  obtain rfl : entry = last :=
    entry_eq_of_receiptId h hentry (List.mem_of_getLast? hlast) (hentryId.symm.trans hid)
  obtain ⟨utxo, sp, hutxo, hsp, -⟩ := hspend
  rw [hspent] at hutxo
  simp [reportedSpend, hutxo, hsp] at hrep

/-- A valid state that a transition lookup returns describes the requested transition exactly if
this is the newest one of its covenant and the resolution did not fall through to the open
outpoint. -/
theorem transition_lookup_describes_iff (H : List UInt8 → Bytes32) (calls : List IndexerCall)
    (r : RgkResolver) (hr : r.indexer = runCalls H calls)
    (d d' c c' receiptId stateReceiptId : Bytes32) (spentOutpoint newOutpoint : KaspaOutpoint)
    (newState : RgkStateCommitment) (certificate : Option AllocationAuditCertificateRecord)
    (depth : UInt64)
    (h : resolveTransition H r d = .resolved d' c receiptId (.nativeTransitionedValid c'
      spentOutpoint newOutpoint stateReceiptId newState certificate depth)) :
    DescribesTransition r d c receiptId spentOutpoint newOutpoint stateReceiptId
        newState.stateDigest ↔
      OnlyNewest r d c ∧ ¬ FallsThrough r c := by
  obtain ⟨e, found, he, hfound, hreceipt, hstate⟩ := resolveTransitionFrom_eq_resolved h
  have hwf : EntryWellFormed c e := by
    rw [InMemoryIndexer.lookup, hr] at he
    exact runCalls_wellFormed calls he
  obtain rfl : c = c' := by
    have hcovenant : covenantOf (resolveByCovenant H r c) = c := resolveByCovenant_unknownWhen.1
    rw [← hstate] at hcovenant
    exact hcovenant.symm
  obtain ⟨hnet, e', o, last, he', ho, hlast, hpath⟩ := resolveByCovenant_valid hstate.symm
  obtain rfl : e' = e := Option.some.inj (he'.symm.trans he)
  rcases hpath with ⟨sp, hrep, hjudge⟩ | ⟨hrep, hjudge⟩
  · obtain ⟨⟨hspent, hnew, hid, hlatest, -⟩, -⟩ := judgeIndexedSpend_valid hjudge
    have hfalls : ¬ FallsThrough r c := by
      rintro ⟨-, e'', o', last', he'', -, hlast', hrep', -⟩
      obtain rfl : e'' = e' := Option.some.inj (he''.symm.trans he)
      obtain rfl : last' = last := Option.some.inj (hlast'.symm.trans hlast)
      rw [hrep] at hrep'
      cases hrep'
    rw [and_iff_left hfalls]
    exact describes_iff_of_indexed hwf he hfound hlast hreceipt hspent hnew hid (by rw [hlatest])
  · obtain ⟨last', hlast', ⟨txid, hspend, hconf⟩, hdeep, rfl, -, hid, -⟩ :=
      (judgeOpenOutpoint_eq_valid he ho).mp hjudge
    obtain rfl : last' = last := Option.some.inj (hlast'.symm.trans hlast)
    have hfalls : FallsThrough r c :=
      ⟨hnet, e', spentOutpoint, last', he, ho, hlast, hrep, txid, depth, hspend, hconf, hdeep⟩
    constructor
    · intro hdescribes
      exact absurd hdescribes (not_describes_of_open hwf he hlast hrep hspend hid)
    · rintro ⟨-, hnot⟩
      exact absurd hfalls hnot

/-- A spend of outpoint `n` into outpoint `n+1` for a transition of its own. -/
def sampleTransition (n : UInt8) : IndexerCall :=
  .plain (.applySpendWithContinuation
    ⟨sampleCovenant, Bytes.fill 32 n, sampleOutpoint n, sampleOutpoint (n+1),
      sampleState (n+1) .verifierOnly, 200⟩
    ⟨Bytes.fill 32 0x44, Bytes.fill 32 0x55, Bytes.fill 32 (0x60+n)⟩)

/-- Two transitions are indexed, and the backend reports the second one. -/
def sampleTwoTransitions : RgkResolver :=
  .new (sampleBackend 2)
    (runCalls Sha256.digest [.plain sampleOpen, sampleTransition 1, sampleTransition 2]) .kaspaSimnet

theorem transition_lookup_describes_newest :
    DescribesTransition sampleTwoTransitions (Bytes.fill 32 0x62) sampleCovenant (Bytes.fill 32 2)
        (sampleOutpoint 2) (sampleOutpoint 3) (Bytes.fill 32 2) (Bytes.fill 32 3) ↔
      OnlyNewest sampleTwoTransitions (Bytes.fill 32 0x62) sampleCovenant ∧
        ¬ FallsThrough sampleTwoTransitions sampleCovenant :=
  transition_lookup_describes_iff Sha256.digest
    [.plain sampleOpen, sampleTransition 1, sampleTransition 2] sampleTwoTransitions rfl
    (Bytes.fill 32 0x62) (Bytes.fill 32 0x62) sampleCovenant sampleCovenant (Bytes.fill 32 2)
    (Bytes.fill 32 2) (sampleOutpoint 2) (sampleOutpoint 3) (sampleState 3 .verifierOnly) none 20
    (by decide +kernel)

/-- Asked for the first transition, the lookup answers with its receipt id and the state of the
second one. -/
theorem transition_lookup_answers_newest :
    resolveTransition Sha256.digest sampleTwoTransitions (Bytes.fill 32 0x61) =
        .resolved (Bytes.fill 32 0x61) sampleCovenant (Bytes.fill 32 1)
          (.nativeTransitionedValid sampleCovenant (sampleOutpoint 2) (sampleOutpoint 3)
            (Bytes.fill 32 2) (sampleState 3 .verifierOnly) none 20) ∧
      ¬ DescribesTransition sampleTwoTransitions (Bytes.fill 32 0x61) sampleCovenant
        (Bytes.fill 32 1) (sampleOutpoint 2) (sampleOutpoint 3) (Bytes.fill 32 2)
        (Bytes.fill 32 3) := by
  refine ⟨by decide +kernel, ?_⟩
  rintro ⟨e, entry, -, -, -, -, -, hid, -, hreceipt⟩
  exact absurd (hid.trans hreceipt) (by decide)

end Transitions
end RgkProtocol.ResolverLookups
