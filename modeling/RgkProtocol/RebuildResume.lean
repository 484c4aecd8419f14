import RgkProtocol.RebuildReplay

/-!
# Rebuilds that are resumed and repeated

Calls of `rebuild_from` with one plan meet sources that may fail or know too little, but never
contradict each other. Whatever the calls leave is the replay of a part of the plan, which the
checks on an existing covenant accept. So the calls work towards one entry, and once it is reached
nothing changes any more.
-/
namespace RgkProtocol.RebuildResume
open ByteStrings Hashing CoreTypes Checked IndexerState IndexerOps IndexerHistory IndexerRebuild
open Simulation SkippingReplay RebuildReplay

section Descent
variable {H : List UInt8 → Bytes32} {cp : RebuildCheckpoint} {e e' : IndexedCovenant}

/-- What a replay from the checkpoint keeps: the identity of the covenant, an open outpoint, and a
history that starts at the checkpoint. -/
structure Descends (cp : RebuildCheckpoint) (e : IndexedCovenant) : Prop where
  chain : e.chainId = cp.chainId
  lineage : e.lineageId = cp.lineageId
  asset : e.latestState.assetId = cp.initialState.assetId
  policy : e.latestState.receiptPolicy = cp.initialState.receiptPolicy
  isOpen : ∃ o, e.openOutpoint = some o
  start : e = openedEntry cp ∨ e.acceptedReceipts ≠ [] ∧ ∃ first rest,
    e.spendHistory = first :: rest ∧ first.spent = cp.openOutpoint ∧
      first.newStateDigest = cp.initialState.stateDigest

lemma descends_opened (cp : RebuildCheckpoint) : Descends cp (openedEntry cp) :=
  ⟨rfl, rfl, rfl, rfl, ⟨_, rfl⟩, Or.inl rfl⟩

lemma Descends.apply {p : DatedSpend} (h : Descends cp e)
    (hshape : validateRebuildSpendShape cp p.1 = .ok ()) (happly : applyDated H cp e p = .ok e') :
    Descends cp e' := by
  obtain ⟨-, hshape⟩ := unit_bind_eq_ok.mp hshape
  obtain ⟨-, hshape⟩ := unit_bind_eq_ok.mp hshape
  obtain ⟨hasset, hpolicy⟩ := unit_bind_eq_ok.mp hshape
  obtain ⟨-, s, happended, -⟩ := applyDated_history happly
  obtain ⟨haccepted, rfl⟩ := applySpendToEntry_eq_ok.mp happly
  refine ⟨h.chain, h.lineage, not_not.mp (failIf_eq_ok.mp hasset),
    not_not.mp (failIf_eq_ok.mp hpolicy), ⟨_, rfl⟩, Or.inr ⟨?_, ?_⟩⟩
  · exact List.append_ne_nil_of_right_ne_nil _ (List.cons_ne_nil _ _)
  · rcases h.start with rfl | ⟨-, first, rest, hhistory, hspent, hdigest⟩
    · exact ⟨_, [], rfl, (Option.some.inj haccepted.spent).symm, rfl⟩
    · refine ⟨first, rest ++ [s], ?_, hspent, hdigest⟩
      rw [happended, hhistory, List.cons_append]

lemma Descends.replay {items : List DatedSpend} (h : Descends cp e)
    (hshape : ∀ p ∈ items, validateRebuildSpendShape cp p.1 = .ok ())
    (hreplay : SkippingReplay.replay KnownSpend (applyDated H cp) e items = .ok e') :
    Descends cp e' := by
  induction items generalizing e with
  | nil => exact Except.ok.inj hreplay ▸ h
  | cons p items ih =>
    obtain ⟨hp, hitems⟩ := List.forall_mem_cons.mp hshape
    rcases replay_cons_eq_ok hreplay with ⟨-, hrest⟩ | ⟨e₁, -, happly, hrest⟩
    · exact ih h hitems hrest
    · exact ih (h.apply hp happly) hitems hrest

lemma Descends.validateExistingCheckpoint (h : Descends cp e) :
    IndexerRebuild.validateExistingCheckpoint e cp = .ok () := by
  refine unit_bind_eq_ok.mpr ⟨failIf_eq_ok.mpr (not_not.mpr h.chain), ?_⟩
  refine unit_bind_eq_ok.mpr ⟨failIf_eq_ok.mpr (not_not.mpr h.lineage), ?_⟩
  refine unit_bind_eq_ok.mpr ⟨failIf_eq_ok.mpr (not_not.mpr h.asset), ?_⟩
  refine unit_bind_eq_ok.mpr ⟨failIf_eq_ok.mpr (not_not.mpr h.policy), ?_⟩
  rcases h.start with rfl | ⟨hne, first, rest, hhistory, hspent, hdigest⟩
  · rw [if_pos (show (openedEntry cp).acceptedReceipts = [] from rfl)]
    refine unit_bind_eq_ok.mpr ⟨failIf_eq_ok.mpr (not_not.mpr rfl), ?_⟩
    refine unit_bind_eq_ok.mpr ⟨failIf_eq_ok.mpr (not_not.mpr rfl), ?_⟩
    exact failIf_eq_ok.mpr (not_not.mpr rfl)
  · rw [if_neg hne]
    refine bind_eq_ok.mpr ⟨first, okOr_eq_ok.mpr (by rw [hhistory]; rfl), ?_⟩
    refine unit_bind_eq_ok.mpr ⟨failIf_eq_ok.mpr (not_not.mpr hspent), ?_⟩
    exact failIf_eq_ok.mpr (not_not.mpr hdigest)

end Descent

section Sources

/-- Two answers for one outpoint name the same transaction and the same DAA score, as far as they
name one. -/
def SourcesAgree (S : Set RebuildSource) : Prop :=
  ∀ s ∈ S, ∀ s' ∈ S, ∀ i j o evidence evidence',
    s.spendEvidence i o = .ok (some evidence) → s'.spendEvidence j o = .ok (some evidence') →
      evidence.spendingTxid = evidence'.spendingTxid ∧
        ∀ daa daa', evidence.blockDaaScore = some daa → evidence'.blockDaaScore = some daa' →
          daa = daa'

/-- A source of the set gives a DAA score for the outpoint. -/
def Dates (S : Set RebuildSource) (o : KaspaOutpoint) (daa : UInt64) : Prop :=
  ∃ s ∈ S, ∃ i evidence, s.spendEvidence i o = .ok (some evidence) ∧
    evidence.blockDaaScore = some daa

/-- The DAA score that the sources agree on. -/
noncomputable def daaOf (S : Set RebuildSource) (o : KaspaOutpoint) : UInt64 :=
  haveI := Classical.propDecidable (∃ daa, Dates S o daa)
  if h : ∃ daa, Dates S o daa then h.choose else 0

lemma SourcesAgree.daaOf_eq {S : Set RebuildSource} (hagree : SourcesAgree S) {o : KaspaOutpoint}
    {daa : UInt64} (h : Dates S o daa) : daaOf S o = daa := by
  have hex : ∃ daa, Dates S o daa := ⟨daa, h⟩
  rw [daaOf, dif_pos hex]
  obtain ⟨s, hs, i, evidence, hevidence, hdaa⟩ := hex.choose_spec
  obtain ⟨s', hs', j, evidence', hevidence', hdaa'⟩ := h
  exact (hagree s hs s' hs' i j o evidence evidence' hevidence hevidence').2 _ _ hdaa hdaa'

/-- The plan with the agreed DAA scores. -/
noncomputable def datedPlan (S : Set RebuildSource) (plan : RebuildPlan) : List DatedSpend :=
  plan.spends.map (fun spend => (spend, daaOf S spend.spentOutpoint))

lemma map_fst_datedPlan (S : Set RebuildSource) (plan : RebuildPlan) :
    (datedPlan S plan).map Prod.fst = plan.spends := by
  rw [datedPlan, List.map_map]
  exact List.map_id _

lemma SourcesAgree.dated {S : Set RebuildSource} (hagree : SourcesAgree S) {source : RebuildSource}
    (hs : source ∈ S) {cp : RebuildCheckpoint} {i : ℕ} {items : List DatedSpend}
    (hev : Evidenced source cp i items) :
    items = (items.map Prod.fst).map (fun spend => (spend, daaOf S spend.spentOutpoint)) := by
  rw [List.map_map]
  refine (List.map_id items).symm.trans (List.map_congr_left (fun p hp => ?_))
  obtain ⟨j, hj⟩ := List.getElem?_of_mem hp
  obtain ⟨-, evidence, hevidence, -, -, hdaa⟩ := rebuildSpendDaaScore_inv (hev j p hj)
  have hscore : daaOf S p.1.spentOutpoint = p.2 :=
    hagree.daaOf_eq ⟨source, hs, _, evidence, hevidence, hdaa⟩
  rw [Function.comp_apply, hscore, id]

end Sources

section Runs
variable {H : List UInt8 → Bytes32} {plan : RebuildPlan} {S : Set RebuildSource}

/-- The indexer after calls of `rebuild_from` with one plan, failed ones included. -/
def rebuilds (H : List UInt8 → Bytes32) (plan : RebuildPlan) (ix : InMemoryIndexer)
    (sources : List RebuildSource) : InMemoryIndexer :=
  stateAfter (fun ix source => rebuildFrom H ix source plan) ix sources

/-- The entry is what a replay of the dated plan can have left when it stopped. -/
def PartlyRebuilt (H : List UInt8 → Bytes32) (plan : RebuildPlan) (S : Set RebuildSource)
    (e : IndexedCovenant) : Prop :=
  Descends plan.checkpoint e ∧
    Reached KnownSpend (applyDated H plan.checkpoint) (openedEntry plan.checkpoint)
      (datedPlan S plan) e

/-- The entry is the replay of the whole dated plan. -/
def Rebuilt (H : List UInt8 → Bytes32) (plan : RebuildPlan) (S : Set RebuildSource)
    (e : IndexedCovenant) : Prop :=
  Descends plan.checkpoint e ∧
    replay KnownSpend (applyDated H plan.checkpoint) (openedEntry plan.checkpoint)
      (datedPlan S plan) = .ok e

lemma partlyRebuilt_opened : PartlyRebuilt H plan S (openedEntry plan.checkpoint) :=
  ⟨descends_opened plan.checkpoint, [], List.nil_prefix, rfl⟩

lemma SourcesAgree.prefix_datedPlan (hagree : SourcesAgree S) {source : RebuildSource}
    (hs : source ∈ S) {done : List DatedSpend} (hplanned : done.map Prod.fst <+: plan.spends)
    (hev : Evidenced source plan.checkpoint 0 done) : done <+: datedPlan S plan := by
  rw [hagree.dated hs hev]
  exact hplanned.map _

/-- A rebuild of a partly rebuilt covenant leaves it partly rebuilt, and wholly when it succeeds. -/
lemma rebuildRest_partly (hagree : SourcesAgree S) {source : RebuildSource} (hs : source ∈ S)
    {ix : InMemoryIndexer} {e : IndexedCovenant} {opened : Bool}
    (he : ix.map.get? plan.checkpoint.covenantId = some e) (hpartly : PartlyRebuilt H plan S e) :
    ∃ e', (rebuildRest H source plan opened ix).2 = withEntryOf plan ix e' ∧
      PartlyRebuilt H plan S e' ∧
      ∀ summary, (rebuildRest H source plan opened ix).1 = .ok summary →
        Rebuilt H plan S e' ∧ Evidenced source plan.checkpoint 0 (datedPlan S plan) := by
  obtain ⟨done, e', hreplay, hplanned, hev, hstate, hfinished⟩ :=
    @rebuildRest_spec H source plan ix e opened he
  have hdone := hagree.prefix_datedPlan hs hplanned hev
  have hshape : ∀ p ∈ done, validateRebuildSpendShape plan.checkpoint p.1 = .ok () := by
    intro p hp
    obtain ⟨j, hj⟩ := List.getElem?_of_mem hp
    exact (rebuildSpendDaaScore_inv (hev j p hj)).1
  have hdescends := hpartly.1.replay hshape hreplay
  have hreached := remembers_applyDated.reached_trans hpartly.2 ⟨done, hdone, hreplay⟩
  refine ⟨e', hstate, ⟨hdescends, hreached⟩, fun summary hok => ?_⟩
  have hall : done = datedPlan S plan := by
    rw [hagree.dated hs hev, hfinished summary hok]
    rfl
  rw [hall, remembers_applyDated.replay_resume hpartly.2] at hreplay
  exact ⟨⟨hdescends, hreplay⟩, hall ▸ hev⟩

/-- The covenant is not there yet, or partly rebuilt. -/
def Tracked (H : List UInt8 → Bytes32) (plan : RebuildPlan) (S : Set RebuildSource)
    (ix : InMemoryIndexer) : Prop :=
  ∀ e, ix.map.get? plan.checkpoint.covenantId = some e → PartlyRebuilt H plan S e

lemma rebuildFrom_tracked (hagree : SourcesAgree S) {source : RebuildSource} (hs : source ∈ S)
    {ix : InMemoryIndexer} (hix : Tracked H plan S ix) :
    Tracked H plan S (rebuildFrom H ix source plan).2 ∧
      ∀ summary, (rebuildFrom H ix source plan).1 = .ok summary →
        validateRebuildSource source plan.checkpoint = .ok () ∧
        Evidenced source plan.checkpoint 0 (datedPlan S plan) ∧
        ∃ e, (rebuildFrom H ix source plan).2.map.get? plan.checkpoint.covenantId = some e ∧
          Rebuilt H plan S e := by
  cases hsource : validateRebuildSource source plan.checkpoint with
  | error err =>
    rw [rebuildFrom_refused hsource]
    exact ⟨hix, nofun⟩
  | ok _ =>
    -- both ways of opening leave a partly rebuilt entry for the rest of the call
    obtain ⟨opened, ix₁, e, hcall, he, hpartly⟩ : ∃ opened ix₁ e,
        rebuildFrom H ix source plan = rebuildRest H source plan opened ix₁ ∧
        ix₁.map.get? plan.checkpoint.covenantId = some e ∧ PartlyRebuilt H plan S e := by
      cases he : ix.map.get? plan.checkpoint.covenantId with
      | none =>
        exact ⟨true, _, _, rebuildFrom_new hsource he, get?_withEntryOf ix _,
          partlyRebuilt_opened⟩
      | some e =>
        have hpartly := hix e he
        exact ⟨false, ix, e, rebuildFrom_existing hsource he hpartly.1.validateExistingCheckpoint,
          he, hpartly⟩
    obtain ⟨e', hstate, hpartly', hsuccess⟩ :=
      @rebuildRest_partly H plan S hagree source hs ix₁ e opened he hpartly
    rw [hcall, hstate]
    refine ⟨?_, fun summary hok => ?_⟩
    · intro e'' he''
      rw [get?_withEntryOf] at he''
      exact Option.some.inj he'' ▸ hpartly'
    · obtain ⟨hrebuilt, hev⟩ := hsuccess summary hok
      exact ⟨rfl, hev, e', get?_withEntryOf ix₁ e', hrebuilt⟩

lemma rebuilds_tracked (hagree : SourcesAgree S) {sources : List RebuildSource}
    (hsources : ∀ s ∈ sources, s ∈ S) {ix : InMemoryIndexer} (hix : Tracked H plan S ix) :
    Tracked H plan S (rebuilds H plan ix sources) := by
  induction sources generalizing ix with
  | nil => exact hix
  | cons source sources ih =>
    obtain ⟨hs, hrest⟩ := List.forall_mem_cons.mp hsources
    exact ih hrest (rebuildFrom_tracked hagree hs hix).1

lemma rebuildFrom_rebuilt (hagree : SourcesAgree S) {source : RebuildSource} (hs : source ∈ S)
    {ix : InMemoryIndexer} {e : IndexedCovenant}
    (he : ix.map.get? plan.checkpoint.covenantId = some e) (hrebuilt : Rebuilt H plan S e) :
    (rebuildFrom H ix source plan).2 = ix := by
  cases hsource : validateRebuildSource source plan.checkpoint with
  | error err => rw [rebuildFrom_refused hsource]
  | ok _ =>
    rw [rebuildFrom_existing hsource he hrebuilt.1.validateExistingCheckpoint]
    obtain ⟨done, e', hreplay, hplanned, hev, hstate, -⟩ :=
      @rebuildRest_spec H source plan ix e false he
    have hdone := hagree.prefix_datedPlan hs hplanned hev
    rw [hstate, remembers_applyDated.eq_of_reached hrebuilt.2 ⟨done, hdone, hreplay⟩,
      withEntryOf_self he]

lemma rebuilds_rebuilt (hagree : SourcesAgree S) {sources : List RebuildSource}
    (hsources : ∀ s ∈ sources, s ∈ S) {ix : InMemoryIndexer} {e : IndexedCovenant}
    (he : ix.map.get? plan.checkpoint.covenantId = some e) (hrebuilt : Rebuilt H plan S e) :
    rebuilds H plan ix sources = ix := by
  induction sources with
  | nil => rfl
  | cons source sources ih =>
    obtain ⟨hs, hrest⟩ := List.forall_mem_cons.mp hsources
    rw [rebuilds, stateAfter_cons, rebuildFrom_rebuilt hagree hs he hrebuilt]
    exact ih hrest

/-- The source answers for every planned spend, with the required depth and a DAA score. -/
def HoldsEvidence (source : RebuildSource) (plan : RebuildPlan) : Prop :=
  source.chainId = .ok plan.checkpoint.chainId ∧
    ∀ i spend, plan.spends[i]? = some spend →
      ∃ evidence, source.spendEvidence i spend.spentOutpoint = .ok (some evidence) ∧
        spend.minConfirmations ≤ evidence.confirmationDepth.getD 0 ∧
        evidence.blockDaaScore.isSome

/-- A source that holds the evidence passes the checks that another source has passed. -/
lemma HoldsEvidence.evidenced (hagree : SourcesAgree S) {s g : RebuildSource} (hs : s ∈ S)
    (hg : g ∈ S) (hholds : HoldsEvidence g plan)
    (hev : Evidenced s plan.checkpoint 0 (datedPlan S plan)) :
    Evidenced g plan.checkpoint 0 (datedPlan S plan) := by
  intro j p hp
  have hitem := hp
  rw [datedPlan, List.getElem?_map] at hitem
  obtain ⟨spend, hspend, rfl⟩ := Option.map_eq_some_iff.mp hitem
  obtain ⟨hshape, evidence, hevidence, htxid, -, -⟩ := rebuildSpendDaaScore_inv (hev j _ hp)
  obtain ⟨evidence', hevidence', hdepth, hsome⟩ := hholds.2 j spend hspend
  obtain ⟨daa, hdaa⟩ := Option.isSome_iff_exists.mp hsome
  have hsame := (hagree s hs g hg _ _ _ _ _ hevidence hevidence').1
  rw [Nat.zero_add]
  refine unit_bind_eq_ok.mpr ⟨hshape, bind_eq_ok.mpr ⟨_, hevidence', bind_eq_ok.mpr ⟨evidence',
    okOr_eq_ok.mpr rfl, ?_⟩⟩⟩
  refine unit_bind_eq_ok.mpr ⟨failIf_eq_ok.mpr (not_not.mpr (hsame.symm.trans htxid)), ?_⟩
  refine unit_bind_eq_ok.mpr ⟨failIf_eq_ok.mpr (UInt64.not_lt.mpr hdepth), ?_⟩
  rw [hagree.daaOf_eq ⟨g, hg, j, evidence', hevidence', hdaa⟩]
  exact okOr_eq_ok.mpr hdaa

lemma HoldsEvidence.validateRebuildSource {s g : RebuildSource} (hholds : HoldsEvidence g plan)
    (hs : IndexerRebuild.validateRebuildSource s plan.checkpoint = .ok ()) :
    IndexerRebuild.validateRebuildSource g plan.checkpoint = .ok () := by
  obtain ⟨_, -, hs⟩ := bind_eq_ok.mp hs
  obtain ⟨-, hshape⟩ := unit_bind_eq_ok.mp hs
  exact bind_eq_ok.mpr ⟨_, hholds.1, unit_bind_eq_ok.mpr
    ⟨failIf_eq_ok.mpr (not_not.mpr rfl), hshape⟩⟩

lemma tracked_of_lookup_none {ix : InMemoryIndexer}
    (h : InMemoryIndexer.lookup ix plan.checkpoint.covenantId = none) : Tracked H plan S ix := by
  intro e he
  rw [InMemoryIndexer.lookup, he] at h
  cases h

lemma rebuildFrom_fresh_ok {source : RebuildSource} {e : IndexedCovenant} {fresh : InMemoryIndexer}
    (hsource : IndexerRebuild.validateRebuildSource source plan.checkpoint = .ok ())
    (hev : Evidenced source plan.checkpoint 0 (datedPlan S plan)) (hrebuilt : Rebuilt H plan S e)
    (hfresh : InMemoryIndexer.lookup fresh plan.checkpoint.covenantId = none) :
    ∃ summary, (rebuildFrom H fresh source plan).1 = .ok summary := by
  obtain ⟨o, ho⟩ := hrebuilt.1.isOpen
  obtain ⟨summary, hrest, -⟩ := @rebuildRest_of_evidenced H source plan _ _ true _ _ o
    (get?_withEntryOf fresh (openedEntry plan.checkpoint)) (map_fst_datedPlan S plan) hev
    hrebuilt.2 ho
  refine ⟨summary, ?_⟩
  rw [rebuildFrom_new hsource hfresh, hrest]

lemma rebuildFrom_again_ok {source : RebuildSource} {e : IndexedCovenant} {ix : InMemoryIndexer}
    (hsource : IndexerRebuild.validateRebuildSource source plan.checkpoint = .ok ())
    (hev : Evidenced source plan.checkpoint 0 (datedPlan S plan)) (hrebuilt : Rebuilt H plan S e)
    (he : ix.map.get? plan.checkpoint.covenantId = some e) :
    ∃ summary, rebuildFrom H ix source plan = (.ok summary, ix) ∧ summary.opened = false ∧
      summary.appliedSpends = 0 := by
  obtain ⟨o, ho⟩ := hrebuilt.1.isOpen
  have hknown := (remembers_applyDated.known_of_replay hrebuilt.2).1
  obtain ⟨summary, hrest, hopened, happlied⟩ := @rebuildRest_of_evidenced H source plan _ _ false
    _ _ o he (map_fst_datedPlan S plan) hev (replay_of_known hknown) ho
  refine ⟨summary, ?_, hopened, happlied hknown⟩
  rw [rebuildFrom_existing hsource he hrebuilt.1.validateExistingCheckpoint, hrest,
    withEntryOf_self he]

end Runs

/-- Calls with one plan and agreeing sources. Once a call succeeds, there is an entry that descends
from the checkpoint and has accepted every planned spend. It is the one that a single successful
call makes on an indexer without the covenant, such a call exists, and a further call with all the
evidence succeeds without effect. -/
theorem rebuild_resumable (H : List UInt8 → Bytes32) (plan : RebuildPlan) (S : Set RebuildSource)
    (hagree : SourcesAgree S) (ix : InMemoryIndexer)
    (hnew : InMemoryIndexer.lookup ix plan.checkpoint.covenantId = none)
    (before after : List RebuildSource) (source : RebuildSource)
    (hsources : ∀ s ∈ before ++ source :: after, s ∈ S) (summary : RebuildSummary)
    (hok : (rebuildFrom H (rebuilds H plan ix before) source plan).1 = .ok summary) :
    (∃ e, InMemoryIndexer.lookup (rebuilds H plan ix (before ++ source :: after))
          plan.checkpoint.covenantId = some e ∧
        Descends plan.checkpoint e ∧ (∀ spend ∈ plan.spends, spend.receiptId ∈ e.acceptedReceipts) ∧
        ∀ fresh f summary', f ∈ S →
          InMemoryIndexer.lookup fresh plan.checkpoint.covenantId = none →
          (rebuildFrom H fresh f plan).1 = .ok summary' →
          InMemoryIndexer.lookup (rebuildFrom H fresh f plan).2 plan.checkpoint.covenantId =
            some e) ∧
      (∀ fresh, InMemoryIndexer.lookup fresh plan.checkpoint.covenantId = none →
        ∃ summary', (rebuildFrom H fresh source plan).1 = .ok summary') ∧
      ∀ g ∈ S, HoldsEvidence g plan →
        ∃ summary', rebuildFrom H (rebuilds H plan ix (before ++ source :: after)) g plan =
            (.ok summary', rebuilds H plan ix (before ++ source :: after)) ∧
          summary'.opened = false ∧ summary'.appliedSpends = 0 := by
  have hmem : source ∈ S := hsources source (List.mem_append_right _ List.mem_cons_self)
  have hbefore : ∀ s ∈ before, s ∈ S := fun s hs => hsources s (List.mem_append_left _ hs)
  have hafter : ∀ s ∈ after, s ∈ S := fun s hs =>
    hsources s (List.mem_append_right _ (List.mem_cons_of_mem _ hs))
  obtain ⟨hsource, hev, e, he, hrebuilt⟩ :=
    (rebuildFrom_tracked hagree hmem (rebuilds_tracked hagree hbefore (tracked_of_lookup_none hnew))).2
      summary hok
  have hend : rebuilds H plan ix (before ++ source :: after) =
      (rebuildFrom H (rebuilds H plan ix before) source plan).2 := by
    rw [rebuilds, stateAfter_append, stateAfter_cons]
    exact rebuilds_rebuilt hagree hafter he hrebuilt
  rw [← hend] at he
  refine ⟨⟨e, he, hrebuilt.1, ?_, ?_⟩, ?_, ?_⟩
  · intro spend hspend
    exact (remembers_applyDated.known_of_replay hrebuilt.2).1 (spend, _)
      (List.mem_map_of_mem hspend)
  · intro fresh f summary' hf hfresh hfok
    obtain ⟨-, -, e', he', hrebuilt'⟩ :=
      (rebuildFrom_tracked hagree hf (tracked_of_lookup_none hfresh)).2 summary' hfok
    rw [InMemoryIndexer.lookup, he']
    exact congrArg some (Except.ok.inj (hrebuilt'.2.symm.trans hrebuilt.2))
  · intro fresh hfresh
    exact rebuildFrom_fresh_ok hsource hev hrebuilt hfresh
  · intro g hg hholds
    exact rebuildFrom_again_ok (hholds.validateRebuildSource hsource)
      (hholds.evidenced hagree hmem hg hev) hrebuilt he

section Samples

/-- A source that knows the first spend only. -/
def partialRebuildSource : RebuildSource where
  chainId := .ok .kaspaSimnet
  spendEvidence i o :=
    if o = ⟨Bytes.fill 32 1, 0⟩ then sampleRebuildSource.spendEvidence i o else .ok none

def sampleSources : Set RebuildSource := {partialRebuildSource, sampleRebuildSource}

lemma sampleSources_agree : SourcesAgree sampleSources := by
  -- both answer from one table
  have htable : ∀ s ∈ sampleSources, ∀ i o evidence,
      s.spendEvidence i o = .ok (some evidence) →
        sampleRebuildSource.spendEvidence 0 o = .ok (some evidence) := by
    rintro s (rfl | rfl) i o evidence h
    · simp only [partialRebuildSource] at h
      split_ifs at h
      · exact h
      · cases h
    · exact h
  intro s hs s' hs' i j o evidence evidence' h h'
  have heq := (htable s hs i o evidence h).symm.trans (htable s' hs' j o evidence' h')
  obtain rfl := Option.some.inj (Except.ok.inj heq)
  exact ⟨rfl, fun daa daa' hd hd' => Option.some.inj (hd.symm.trans hd')⟩

def samplePlanned : RebuildPlan :=
  sampleRebuildPlan [firstRebuildSpend 9, secondRebuildSpend 5]

lemma sampleRebuildSource_holds : HoldsEvidence sampleRebuildSource samplePlanned := by
  refine ⟨rfl, fun i spend hspend => ?_⟩
  rcases i with _ | _ | i
  · obtain rfl := Option.some.inj hspend
    exact ⟨_, rfl, by decide, rfl⟩
  · obtain rfl := Option.some.inj hspend
    exact ⟨_, rfl, by decide, rfl⟩
  · cases hspend

end Samples

/-- A source that knows too little, one that knows all, and the first one again. -/
theorem rebuild_resumable_sample :
    (∃ e, InMemoryIndexer.lookup (rebuilds Sha256.digest samplePlanned InMemoryIndexer.new
          [partialRebuildSource, sampleRebuildSource, partialRebuildSource]) (Bytes.fill 32 0x22) =
        some e ∧
      InMemoryIndexer.lookup (rebuildFrom Sha256.digest InMemoryIndexer.new sampleRebuildSource
        samplePlanned).2 (Bytes.fill 32 0x22) = some e ∧
      e.acceptedReceipts = samplePlanned.spends.map (·.receiptId) ∧
      e.spendHistory.map (·.spent) = samplePlanned.spends.map (·.spentOutpoint) ∧
      e.openOutpoint = some ⟨Bytes.fill 32 8, 0⟩ ∧ e.lastUpdateDaaScore = 12) ∧
    ∃ summary, rebuildFrom Sha256.digest (rebuilds Sha256.digest samplePlanned InMemoryIndexer.new
          [partialRebuildSource, sampleRebuildSource, partialRebuildSource]) sampleRebuildSource
          samplePlanned =
        (.ok summary, rebuilds Sha256.digest samplePlanned InMemoryIndexer.new
          [partialRebuildSource, sampleRebuildSource, partialRebuildSource]) ∧
      summary.opened = false ∧ summary.appliedSpends = 0 := by
  have hmem : ∀ s ∈ [partialRebuildSource] ++ sampleRebuildSource :: [partialRebuildSource],
      s ∈ sampleSources := by
    simp [sampleSources]
  have hok : (rebuildFrom Sha256.digest (rebuilds Sha256.digest samplePlanned InMemoryIndexer.new
      [partialRebuildSource]) sampleRebuildSource samplePlanned).1 =
        .ok ⟨false, 1, 1, ⟨Bytes.fill 32 8, 0⟩, 12⟩ := by decide +kernel
  have hentry : (InMemoryIndexer.lookup (rebuilds Sha256.digest samplePlanned InMemoryIndexer.new
      [partialRebuildSource, sampleRebuildSource, partialRebuildSource]) (Bytes.fill 32 0x22)).map
        (fun e => (e.acceptedReceipts, e.spendHistory.map (·.spent), e.openOutpoint,
          e.lastUpdateDaaScore)) =
      some (samplePlanned.spends.map (·.receiptId), samplePlanned.spends.map (·.spentOutpoint),
        some ⟨Bytes.fill 32 8, 0⟩, 12) := by decide +kernel
  obtain ⟨⟨e, he, -, -, hsame⟩, hsuccess, hrepeat⟩ :=
    rebuild_resumable Sha256.digest samplePlanned sampleSources sampleSources_agree
      InMemoryIndexer.new rfl [partialRebuildSource] [partialRebuildSource] sampleRebuildSource
      hmem _ hok
  obtain ⟨summary, hfresh⟩ := hsuccess InMemoryIndexer.new rfl
  have hin : sampleRebuildSource ∈ sampleSources := Or.inr rfl
  have hsingle := hsame InMemoryIndexer.new sampleRebuildSource summary hin rfl hfresh
  obtain ⟨_, he', hparts⟩ := Option.map_eq_some_iff.mp hentry
  obtain rfl := Option.some.inj (he'.symm.trans he)
  simp only [Prod.mk.injEq] at hparts
  exact ⟨⟨_, he, hsingle, hparts⟩, hrepeat sampleRebuildSource hin sampleRebuildSource_holds⟩

end RgkProtocol.RebuildResume
