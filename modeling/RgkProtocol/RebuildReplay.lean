import RgkProtocol.SkippingReplay
import RgkProtocol.IndexerRebuild

/-!
# What rebuilds leave

A rebuild replays the planned spends on the entry of the covenant and skips those whose receipt
ids are known. So a successful rebuild records the first planned spend of every receipt id, each
with the evidence for it. A rebuild that stopped is resumed by the next one, and a finished one is
repeated without effect.
-/
namespace RgkProtocol.RebuildReplay
open ByteStrings Hashing CoreTypes Checked IndexerState IndexerOps IndexerHistory IndexerRebuild
open Simulation SkippingReplay

section Entries
variable (H : List UInt8 → Bytes32) (cp : RebuildCheckpoint)

/-- A planned spend with the DAA score from the evidence for it. -/
abbrev DatedSpend := RebuildSpend × UInt64

def KnownSpend (e : IndexedCovenant) (p : DatedSpend) : Prop := p.1.receiptId ∈ e.acceptedReceipts

instance : DecidableRel KnownSpend := fun e p =>
  inferInstanceAs (Decidable (p.1.receiptId ∈ e.acceptedReceipts))

def applyDated (e : IndexedCovenant) (p : DatedSpend) : Except IndexerError IndexedCovenant :=
  applySpendToEntry H e (RebuildSpend.call cp.covenantId p.1 p.2) none none

/-- The entry of the covenant before any spend. -/
def openedEntry : IndexedCovenant :=
  IndexedCovenant.opened cp.covenantId cp.chainId cp.lineageId cp.initialState cp.openOutpoint
    cp.daaScore

variable {H cp}

lemma remembers_applyDated : Remembers KnownSpend (applyDated H cp) where
  entered := by
    intro e p e' h
    obtain ⟨-, rfl⟩ := applySpendToEntry_eq_ok.mp h
    exact List.mem_append_right _ List.mem_cons_self
  kept := by
    intro e p e' q h hq
    obtain ⟨-, rfl⟩ := applySpendToEntry_eq_ok.mp h
    exact List.mem_append_left _ hq

end Entries

section Loop
variable {H : List UInt8 → Bytes32} {cp : RebuildCheckpoint} {source : RebuildSource}

/-- The dated spends pass the checks at their positions, counted from `i`. -/
def Evidenced (source : RebuildSource) (cp : RebuildCheckpoint) (i : ℕ) (items : List DatedSpend) :
    Prop :=
  ∀ j p, items[j]? = some p → rebuildSpendDaaScore source cp (i+j) p.1 = .ok p.2

lemma evidenced_nil {i : ℕ} : Evidenced source cp i [] := fun _ _ hp => nomatch hp

lemma evidenced_cons {i : ℕ} {p : DatedSpend} {items : List DatedSpend} :
    Evidenced source cp i (p :: items) ↔
      rebuildSpendDaaScore source cp i p.1 = .ok p.2 ∧ Evidenced source cp (i+1) items := by
  have hshift : ∀ j, i+1+j = i+(j+1) := fun j => by omega
  constructor
  · intro h
    refine ⟨h 0 p rfl, fun j q hq => ?_⟩
    rw [hshift]
    exact h (j+1) q hq
  · rintro ⟨hp, hrest⟩ j q hq
    cases j with
    | zero =>
      obtain rfl := Option.some.inj hq
      exact hp
    | succ j =>
      rw [← hshift]
      exact hrest j q hq

lemma applySpend_eq {ix : InMemoryIndexer} {call : SpendCall} {e : IndexedCovenant}
    (he : ix.map.get? call.covenant = some e) :
    applySpend H ix call =
      match applySpendToEntry H e call none none with
      | .ok e' => (.ok (), { ix with map := ix.map.insert call.covenant e' })
      | .error err => (.error err, ix) := by
  unfold applySpend applySpendWith withEntry
  simp only [he]
  cases applySpendToEntry H e call none none with
  | ok e' => rfl
  | error err => simp only [OrderedMap.insert_of_get? he]

variable {ix : InMemoryIndexer} {e : IndexedCovenant} {i applied skipped : ℕ} {spend : RebuildSpend}
  {spends : List RebuildSpend}

lemma rebuildLoop_refused {err : IndexerError}
    (h : rebuildSpendDaaScore source cp i spend = .error err) :
    rebuildLoop H source cp i (applied, skipped) (spend :: spends) ix = (.error err, ix) := by
  rw [rebuildLoop, h]

lemma hasReplay_eq (he : ix.map.get? cp.covenantId = some e) (receiptId : Bytes32) :
    InMemoryIndexer.hasReplay ix cp.covenantId receiptId =
      decide (receiptId ∈ e.acceptedReceipts) := by
  rw [InMemoryIndexer.hasReplay, he]

lemma rebuildLoop_known {daa : UInt64} (he : ix.map.get? cp.covenantId = some e)
    (h : rebuildSpendDaaScore source cp i spend = .ok daa) (hk : KnownSpend e (spend, daa)) :
    rebuildLoop H source cp i (applied, skipped) (spend :: spends) ix =
      rebuildLoop H source cp (i+1) (applied, skipped+1) spends ix := by
  rw [rebuildLoop, h]
  simp only
  rw [if_pos (by rw [hasReplay_eq he]; exact decide_eq_true hk)]

lemma rebuildLoop_fresh {daa : UInt64} (he : ix.map.get? cp.covenantId = some e)
    (h : rebuildSpendDaaScore source cp i spend = .ok daa) (hk : ¬KnownSpend e (spend, daa)) :
    rebuildLoop H source cp i (applied, skipped) (spend :: spends) ix =
      match applyDated H cp e (spend, daa) with
      | .ok e' => rebuildLoop H source cp (i+1) (applied+1, skipped) spends
          { ix with map := ix.map.insert cp.covenantId e' }
      | .error err => (.error err, ix) := by
  rw [rebuildLoop, h]
  simp only
  have hfresh : ¬InMemoryIndexer.hasReplay ix cp.covenantId spend.receiptId = true := by
    rw [hasReplay_eq he, decide_eq_true_eq]
    exact hk
  rw [if_neg hfresh, applySpend_eq he, applyDated]
  cases applySpendToEntry H e (RebuildSpend.call cp.covenantId spend daa) none none <;> rfl

/-- What the loop did: it replayed evidenced spends from the start of the list on, and all of them
if it came to its end. -/
structure LoopRun (H : List UInt8 → Bytes32) (source : RebuildSource) (cp : RebuildCheckpoint)
    (i : ℕ) (spends : List RebuildSpend) (ix : InMemoryIndexer) (e : IndexedCovenant)
    (result : Except IndexerError (ℕ × ℕ) × InMemoryIndexer) (done : List DatedSpend)
    (e' : IndexedCovenant) : Prop where
  replayed : replay KnownSpend (applyDated H cp) e done = .ok e'
  planned : done.map Prod.fst <+: spends
  evidenced : Evidenced source cp i done
  state : result.2 = { ix with map := ix.map.insert cp.covenantId e' }
  finished : ∀ counts, result.1 = .ok counts → done.map Prod.fst = spends

lemma loopRun_stopped (he : ix.map.get? cp.covenantId = some e) (err : IndexerError) :
    LoopRun H source cp i spends ix e (.error err, ix) [] e where
  replayed := rfl
  planned := List.nil_prefix
  evidenced := evidenced_nil
  state := by rw [OrderedMap.insert_of_get? he]
  finished := nofun

lemma LoopRun.cons {daa : UInt64} {result : Except IndexerError (ℕ × ℕ) × InMemoryIndexer}
    {done : List DatedSpend} {ix₁ : InMemoryIndexer} {e₁ e' : IndexedCovenant}
    (h : LoopRun H source cp (i+1) spends ix₁ e₁ result done e')
    (hix : { ix₁ with map := ix₁.map.insert cp.covenantId e' } =
      { ix with map := ix.map.insert cp.covenantId e' })
    (hdaa : rebuildSpendDaaScore source cp i spend = .ok daa)
    (hreplay : replay KnownSpend (applyDated H cp) e ((spend, daa) :: done) =
      replay KnownSpend (applyDated H cp) e₁ done) :
    LoopRun H source cp i (spend :: spends) ix e result ((spend, daa) :: done) e' where
  replayed := hreplay.trans h.replayed
  planned := List.cons_prefix_cons.mpr ⟨rfl, h.planned⟩
  evidenced := evidenced_cons.mpr ⟨hdaa, h.evidenced⟩
  state := h.state.trans hix
  finished := by
    intro counts hcounts
    rw [List.map_cons, h.finished counts hcounts]

theorem rebuildLoop_spec (he : ix.map.get? cp.covenantId = some e) :
    ∃ done e', LoopRun H source cp i spends ix e
      (rebuildLoop H source cp i (applied, skipped) spends ix) done e' := by
  induction spends generalizing i applied skipped ix e with
  | nil =>
    refine ⟨[], e, rfl, List.prefix_rfl, evidenced_nil, ?_, fun _ _ => rfl⟩
    rw [rebuildLoop, OrderedMap.insert_of_get? he]
  | cons spend spends ih =>
    cases hdaa : rebuildSpendDaaScore source cp i spend with
    | error err =>
      rw [rebuildLoop_refused hdaa]
      exact ⟨[], e, loopRun_stopped he err⟩
    | ok daa =>
      by_cases hk : KnownSpend e (spend, daa)
      · rw [rebuildLoop_known he hdaa hk]
        obtain ⟨done, e', hrun⟩ := @ih ix e (i+1) applied (skipped+1) he
        exact ⟨_, e', hrun.cons rfl hdaa (replay_cons_known hk)⟩
      · rw [rebuildLoop_fresh he hdaa hk]
        cases happly : applyDated H cp e (spend, daa) with
        | error err => exact ⟨[], e, loopRun_stopped he err⟩
        | ok e₁ =>
          obtain ⟨done, e', hrun⟩ := @ih { ix with map := ix.map.insert cp.covenantId e₁ } e₁ (i+1)
            (applied+1) skipped (OrderedMap.get?_insert_self _ _ _)
          exact ⟨_, e', hrun.cons (by rw [OrderedMap.insert_insert]) hdaa
            (replay_cons_fresh hk happly)⟩

lemma rebuildLoop_of_evidenced {items : List DatedSpend} {e' : IndexedCovenant}
    (he : ix.map.get? cp.covenantId = some e) (hev : Evidenced source cp i items)
    (hreplay : replay KnownSpend (applyDated H cp) e items = .ok e') :
    ∃ counts, rebuildLoop H source cp i (applied, skipped) (items.map Prod.fst) ix =
        (.ok counts, { ix with map := ix.map.insert cp.covenantId e' }) ∧
      ((∀ p ∈ items, KnownSpend e p) → counts.1 = applied) := by
  induction items generalizing i applied skipped ix e with
  | nil =>
    obtain rfl := Except.ok.inj hreplay
    refine ⟨(applied, skipped), ?_, fun _ => rfl⟩
    rw [OrderedMap.insert_of_get? he]
    rfl
  | cons p items ih =>
    obtain ⟨hdaa, hrest⟩ := evidenced_cons.mp hev
    rw [List.map_cons]
    rcases replay_cons_eq_ok hreplay with ⟨hk, hreplay⟩ | ⟨e₁, hk, happly, hreplay⟩
    · rw [rebuildLoop_known he hdaa hk]
      obtain ⟨counts, hloop, hcount⟩ := @ih ix e (i+1) applied (skipped+1) he hrest hreplay
      exact ⟨counts, hloop, fun hall => hcount (List.forall_mem_cons.mp hall).2⟩
    · rw [rebuildLoop_fresh he hdaa hk, happly]
      obtain ⟨counts, hloop, -⟩ := @ih { ix with map := ix.map.insert cp.covenantId e₁ } e₁ (i+1)
        (applied+1) skipped (OrderedMap.get?_insert_self _ _ _) hrest hreplay
      refine ⟨counts, ?_, fun hall => absurd (List.forall_mem_cons.mp hall).1 hk⟩
      rw [OrderedMap.insert_insert] at hloop
      exact hloop

end Loop

section Calls
variable (H : List UInt8 → Bytes32) (source : RebuildSource) (plan : RebuildPlan)

/-- A rebuild behind the opening of the covenant. -/
def rebuildRest (opened : Bool) (ix : InMemoryIndexer) :
    Except IndexerError RebuildSummary × InMemoryIndexer :=
  match rebuildLoop H source plan.checkpoint 0 (0, 0) plan.spends ix with
  | (.error e, ix) => (.error e, ix)
  | (.ok counts, ix) => (rebuildSummary ix plan.checkpoint.covenantId opened counts, ix)

/-- The indexer with an entry for the covenant of the plan. -/
def withEntryOf (ix : InMemoryIndexer) (e : IndexedCovenant) : InMemoryIndexer :=
  { ix with map := ix.map.insert plan.checkpoint.covenantId e }

variable {H source plan} {ix : InMemoryIndexer} {e : IndexedCovenant}

lemma withEntryOf_self (he : ix.map.get? plan.checkpoint.covenantId = some e) :
    withEntryOf plan ix e = ix := by
  rw [withEntryOf, OrderedMap.insert_of_get? he]

lemma get?_withEntryOf (ix : InMemoryIndexer) (e : IndexedCovenant) :
    (withEntryOf plan ix e).map.get? plan.checkpoint.covenantId = some e :=
  OrderedMap.get?_insert_self _ _ _

lemma rebuildFrom_refused {err : IndexerError}
    (h : validateRebuildSource source plan.checkpoint = .error err) :
    rebuildFrom H ix source plan = (.error err, ix) := by
  rw [rebuildFrom, h]

lemma rebuildFrom_new (hsource : validateRebuildSource source plan.checkpoint = .ok ())
    (hnew : ix.map.get? plan.checkpoint.covenantId = none) :
    rebuildFrom H ix source plan =
      rebuildRest H source plan true (withEntryOf plan ix (openedEntry plan.checkpoint)) := by
  obtain ⟨chain, -, hshape⟩ := bind_eq_ok.mp hsource
  obtain ⟨-, hshape⟩ := unit_bind_eq_ok.mp hshape
  obtain ⟨hchain, hcovenant⟩ := unit_bind_eq_ok.mp hshape
  have hopen : rebuildOpen ix plan.checkpoint =
      (.ok true, withEntryOf plan ix (openedEntry plan.checkpoint)) := by
    rw [rebuildOpen, hnew]
    simp only [openCovenant, hnew, Option.isSome_none, Bool.false_eq_true, if_false,
      not_not.mp (failIf_eq_ok.mp hchain), not_not.mp (failIf_eq_ok.mp hcovenant), ne_eq,
      not_true_eq_false]
    rfl
  rw [rebuildFrom, hsource, hopen]
  rfl

lemma rebuildFrom_existing (hsource : validateRebuildSource source plan.checkpoint = .ok ())
    (he : ix.map.get? plan.checkpoint.covenantId = some e)
    (hvalid : validateExistingCheckpoint e plan.checkpoint = .ok ()) :
    rebuildFrom H ix source plan = rebuildRest H source plan false ix := by
  have hopen : rebuildOpen ix plan.checkpoint = (.ok false, ix) := by
    rw [rebuildOpen, he]
    simp only [hvalid]
  rw [rebuildFrom, hsource, hopen]
  rfl

lemma rebuildRest_spec {opened : Bool} (he : ix.map.get? plan.checkpoint.covenantId = some e) :
    ∃ done e', replay KnownSpend (applyDated H plan.checkpoint) e done = .ok e' ∧
      done.map Prod.fst <+: plan.spends ∧ Evidenced source plan.checkpoint 0 done ∧
      (rebuildRest H source plan opened ix).2 = withEntryOf plan ix e' ∧
      ∀ summary, (rebuildRest H source plan opened ix).1 = .ok summary →
        done.map Prod.fst = plan.spends := by
  obtain ⟨done, e', hrun⟩ := @rebuildLoop_spec H plan.checkpoint source ix e 0 0 0 plan.spends he
  refine ⟨done, e', hrun.replayed, hrun.planned, hrun.evidenced, ?_⟩
  have hstate := hrun.state
  have hfinished := hrun.finished
  unfold rebuildRest
  rcases hloop : rebuildLoop H source plan.checkpoint 0 (0, 0) plan.spends ix with ⟨_ | counts, ix'⟩
  · rw [hloop] at hstate
    exact ⟨hstate, nofun⟩
  · rw [hloop] at hstate hfinished
    exact ⟨hstate, fun _ _ => hfinished counts rfl⟩

lemma rebuildRest_of_evidenced {opened : Bool} {items : List DatedSpend} {e' : IndexedCovenant}
    {o : KaspaOutpoint} (he : ix.map.get? plan.checkpoint.covenantId = some e)
    (hplan : items.map Prod.fst = plan.spends) (hev : Evidenced source plan.checkpoint 0 items)
    (hreplay : replay KnownSpend (applyDated H plan.checkpoint) e items = .ok e')
    (ho : e'.openOutpoint = some o) :
    ∃ summary, rebuildRest H source plan opened ix = (.ok summary, withEntryOf plan ix e') ∧
      summary.opened = opened ∧
      ((∀ p ∈ items, KnownSpend e p) → summary.appliedSpends = 0) := by
  obtain ⟨counts, hloop, hcount⟩ := @rebuildLoop_of_evidenced H plan.checkpoint source ix e 0 0 0
    items e' he hev hreplay
  rw [hplan] at hloop
  refine ⟨⟨opened, counts.1, counts.2, o, e'.lastUpdateDaaScore⟩, ?_, rfl, hcount⟩
  rw [rebuildRest, hloop]
  refine Prod.ext ?_ rfl
  exact bind_eq_ok.mpr ⟨e', okOr_eq_ok.mpr (get?_withEntryOf ix e'),
    bind_eq_ok.mpr ⟨o, okOr_eq_ok.mpr ho, rfl⟩⟩

end Calls

section Evidence
variable {H : List UInt8 → Bytes32} {cp : RebuildCheckpoint} {source : RebuildSource}

/-- What the source reported for a planned spend that passed the checks. -/
lemma rebuildSpendDaaScore_inv {i : ℕ} {spend : RebuildSpend} {daa : UInt64}
    (h : rebuildSpendDaaScore source cp i spend = .ok daa) :
    validateRebuildSpendShape cp spend = .ok () ∧
      ∃ evidence, source.spendEvidence i spend.spentOutpoint = .ok (some evidence) ∧
        evidence.spendingTxid = spend.expectedSpendingTxid ∧
        spend.minConfirmations ≤ evidence.confirmationDepth.getD 0 ∧
        evidence.blockDaaScore = some daa := by
  obtain ⟨hshape, h⟩ := unit_bind_eq_ok.mp h
  obtain ⟨answer, hanswer, h⟩ := bind_eq_ok.mp h
  obtain ⟨evidence, hevidence, h⟩ := bind_eq_ok.mp h
  obtain ⟨htxid, h⟩ := unit_bind_eq_ok.mp h
  obtain ⟨hdepth, hdaa⟩ := unit_bind_eq_ok.mp h
  rw [okOr_eq_ok.mp hevidence] at hanswer
  exact ⟨hshape, evidence, hanswer, not_not.mp (failIf_eq_ok.mp htxid),
    UInt64.not_lt.mp (failIf_eq_ok.mp hdepth), okOr_eq_ok.mp hdaa⟩

/-- The spends whose receipt ids were not seen before them. -/
def firstUses : List Bytes32 → List RebuildSpend → List RebuildSpend
  | _, [] => []
  | seen, spend :: spends =>
      if spend.receiptId ∈ seen then firstUses seen spends
      else spend :: firstUses (seen ++ [spend.receiptId]) spends

/-- The entry records the planned spend: its outpoints, the digest of its state and its receipt. -/
structure Records (s : SpendEntry) (spend : RebuildSpend) : Prop where
  spent : s.spent = spend.spentOutpoint
  created : s.created = spend.createdOutpoint
  digest : s.resultingStateDigest = spend.newState.stateDigest
  receipt : s.receiptId = spend.receiptId

lemma applyDated_history {e e' : IndexedCovenant} {p : DatedSpend}
    (h : applyDated H cp e p = .ok e') :
    e'.acceptedReceipts = e.acceptedReceipts ++ [p.1.receiptId] ∧
      ∃ s, e'.spendHistory = e.spendHistory ++ [s] ∧ Records s p.1 := by
  obtain ⟨-, rfl⟩ := applySpendToEntry_eq_ok.mp h
  exact ⟨rfl, _, rfl, rfl, rfl, rfl, rfl⟩

/-- A replay appends one entry for the first use of every new receipt id. -/
lemma replay_history {e e' : IndexedCovenant} {items : List DatedSpend}
    (h : replay KnownSpend (applyDated H cp) e items = .ok e') :
    ∃ entries, e'.spendHistory = e.spendHistory ++ entries ∧
      List.Forall₂ Records entries (firstUses e.acceptedReceipts (items.map Prod.fst)) := by
  induction items generalizing e with
  | nil =>
    obtain rfl := Except.ok.inj h
    exact ⟨[], (List.append_nil _).symm, .nil⟩
  | cons p items ih =>
    rcases replay_cons_eq_ok h with ⟨hk, hrest⟩ | ⟨e₁, hk, happly, hrest⟩
    · obtain ⟨entries, hhistory, hrecords⟩ := ih hrest
      refine ⟨entries, hhistory, ?_⟩
      rwa [List.map_cons, firstUses, if_pos (show p.1.receiptId ∈ e.acceptedReceipts from hk)]
    · obtain ⟨entries, hhistory, hrecords⟩ := ih hrest
      obtain ⟨hreceipts, s, happended, hs⟩ := applyDated_history happly
      rw [hreceipts] at hrecords
      refine ⟨s :: entries, ?_, ?_⟩
      · rw [hhistory, happended, List.append_assoc, List.singleton_append]
      · rw [List.map_cons, firstUses, if_neg (show p.1.receiptId ∉ e.acceptedReceipts from hk)]
        exact .cons hs hrecords

lemma mem_of_mem_firstUses {seen : List Bytes32} {spends : List RebuildSpend} {spend : RebuildSpend}
    (h : spend ∈ firstUses seen spends) : spend ∈ spends := by
  induction spends generalizing seen with
  | nil => cases h
  | cons head spends ih =>
    rw [firstUses] at h
    split_ifs at h
    · exact List.mem_cons_of_mem _ (ih h)
    · rcases List.mem_cons.mp h with rfl | h
      · exact List.mem_cons_self
      · exact List.mem_cons_of_mem _ (ih h)

/-- The source reported the spent outpoint as spent by the expected transaction, with the required
confirmations, when it was asked for this spend of the plan. -/
def ReportedSpent (source : RebuildSource) (plan : RebuildPlan) (spend : RebuildSpend) : Prop :=
  ∃ i evidence, plan.spends[i]? = some spend ∧
    source.spendEvidence i spend.spentOutpoint = .ok (some evidence) ∧
    evidence.spendingTxid = spend.expectedSpendingTxid ∧
    spend.minConfirmations ≤ evidence.confirmationDepth.getD 0

lemma Evidenced.reportedSpent {plan : RebuildPlan} {items : List DatedSpend}
    (h : Evidenced source plan.checkpoint 0 items) (hplan : items.map Prod.fst = plan.spends)
    {spend : RebuildSpend} (hspend : spend ∈ plan.spends) : ReportedSpent source plan spend := by
  obtain ⟨i, hi⟩ := List.getElem?_of_mem hspend
  have hitem := hi
  rw [← hplan, List.getElem?_map] at hitem
  obtain ⟨p, hp, rfl⟩ := Option.map_eq_some_iff.mp hitem
  have hdaa := h i p hp
  rw [Nat.zero_add] at hdaa
  obtain ⟨-, evidence, hevidence, htxid, hdepth, -⟩ := rebuildSpendDaaScore_inv hdaa
  exact ⟨i, evidence, hi, hevidence, htxid, hdepth⟩

end Evidence

/-- A successful rebuild of a new covenant records the first planned spend of every receipt id, in
order, and the source has reported each of them. -/
theorem rebuild_records_plan (H : List UInt8 → Bytes32) (ix ix' : InMemoryIndexer)
    (source : RebuildSource) (plan : RebuildPlan) (summary : RebuildSummary)
    (hnew : InMemoryIndexer.lookup ix plan.checkpoint.covenantId = none)
    (hok : rebuildFrom H ix source plan = (.ok summary, ix')) :
    ∃ e, InMemoryIndexer.lookup ix' plan.checkpoint.covenantId = some e ∧
      List.Forall₂ (fun s spend => Records s spend ∧ ReportedSpent source plan spend)
        e.spendHistory (firstUses [] plan.spends) := by
  cases hsource : validateRebuildSource source plan.checkpoint with
  | error err =>
    rw [rebuildFrom_refused hsource] at hok
    cases hok
  | ok _ =>
    rw [rebuildFrom_new hsource hnew] at hok
    obtain ⟨done, e, hreplay, -, hev, hstate, hfinished⟩ :=
      @rebuildRest_spec H source plan _ _ true
        (get?_withEntryOf ix (openedEntry plan.checkpoint))
    rw [hok] at hstate hfinished
    have hplan := hfinished summary rfl
    obtain ⟨entries, hhistory, hrecords⟩ := replay_history hreplay
    rw [hplan] at hrecords
    refine ⟨e, ?_, ?_⟩
    · rw [show ix' = _ from hstate]
      exact get?_withEntryOf _ e
    · rw [hhistory]
      have hreported : ∀ spend ∈ firstUses [] plan.spends, ReportedSpent source plan spend :=
        fun spend hspend => hev.reportedSpent hplan (mem_of_mem_firstUses hspend)
      exact ((List.forall₂_and_left _ _).mpr ⟨hreported, hrecords.flip⟩).flip.imp
        (fun _ _ h => ⟨h.2, h.1⟩)

section Samples

def sampleRebuildState (digest : UInt8) : RgkStateCommitment :=
  ⟨1, .kaspaSimnet, Bytes.fill 32 0x22, Bytes.fill 32 0x11, Bytes.fill 32 digest, .verifierOnly⟩

/-- Transaction 9 spends the first outpoint and transaction 8 every other one. -/
def sampleRebuildSource : RebuildSource where
  chainId := .ok .kaspaSimnet
  spendEvidence _ o :=
    if o = ⟨Bytes.fill 32 1, 0⟩ then .ok (some ⟨Bytes.fill 32 9, some 11, some 3⟩)
    else .ok (some ⟨Bytes.fill 32 8, some 12, some 2⟩)

def sampleRebuildPlan (spends : List RebuildSpend) : RebuildPlan where
  checkpoint := ⟨.kaspaSimnet, Bytes.fill 32 0x22, Bytes.fill 32 0xaa, sampleRebuildState 1,
    ⟨Bytes.fill 32 1, 0⟩, 10⟩
  spends := spends

/-- A spend to an output of the given transaction, expected from transaction 9. -/
def firstRebuildSpend (createdTxid : UInt8) : RebuildSpend :=
  ⟨Bytes.fill 32 3, ⟨Bytes.fill 32 1, 0⟩, ⟨Bytes.fill 32 createdTxid, 0⟩, sampleRebuildState 2,
    Bytes.fill 32 9, 1⟩

/-- A spend of that output with the given receipt. -/
def secondRebuildSpend (receipt : UInt8) : RebuildSpend :=
  ⟨Bytes.fill 32 receipt, ⟨Bytes.fill 32 9, 0⟩, ⟨Bytes.fill 32 8, 0⟩, sampleRebuildState 3,
    Bytes.fill 32 8, 2⟩

def sampleRebuild (spends : List RebuildSpend) :
    Except IndexerError RebuildSummary × InMemoryIndexer :=
  rebuildFrom Sha256.digest InMemoryIndexer.new sampleRebuildSource (sampleRebuildPlan spends)

end Samples

/-- A plan of two spends is rebuilt with both. -/
theorem rebuild_records_plan_sample :
    ∃ e, InMemoryIndexer.lookup (sampleRebuild [firstRebuildSpend 9, secondRebuildSpend 5]).2
        (Bytes.fill 32 0x22) = some e ∧
      List.Forall₂ (fun s spend => Records s spend ∧ ReportedSpent sampleRebuildSource
          (sampleRebuildPlan [firstRebuildSpend 9, secondRebuildSpend 5]) spend)
        e.spendHistory [firstRebuildSpend 9, secondRebuildSpend 5] := by
  have hok : (sampleRebuild [firstRebuildSpend 9, secondRebuildSpend 5]).1 =
      .ok ⟨true, 2, 0, ⟨Bytes.fill 32 8, 0⟩, 12⟩ := by decide +kernel
  exact rebuild_records_plan Sha256.digest InMemoryIndexer.new _ sampleRebuildSource
    (sampleRebuildPlan [firstRebuildSpend 9, secondRebuildSpend 5]) _ rfl (Prod.ext hok rfl)

/-- A spend with the receipt id of an earlier one is left out of a successful rebuild. And a spend
is recorded with a created outpoint that does not lie in the transaction that was reported. -/
theorem rebuild_skips_and_misplaces :
    (sampleRebuild [firstRebuildSpend 9, secondRebuildSpend 3]).1 =
        .ok ⟨true, 1, 1, ⟨Bytes.fill 32 9, 0⟩, 11⟩ ∧
      (InMemoryIndexer.lookup (sampleRebuild [firstRebuildSpend 9, secondRebuildSpend 3]).2
        (Bytes.fill 32 0x22)).map (fun e => e.spendHistory.map SpendEntry.created) =
          some [⟨Bytes.fill 32 9, 0⟩] ∧
      (sampleRebuild [firstRebuildSpend 2]).1 = .ok ⟨true, 1, 0, ⟨Bytes.fill 32 2, 0⟩, 11⟩ ∧
      (InMemoryIndexer.lookup (sampleRebuild [firstRebuildSpend 2]).2 (Bytes.fill 32 0x22)).map
        (fun e => e.spendHistory.map SpendEntry.created) = some [⟨Bytes.fill 32 2, 0⟩] ∧
      sampleRebuildSource.spendEvidence 0 ⟨Bytes.fill 32 1, 0⟩ =
        .ok (some ⟨Bytes.fill 32 9, some 11, some 3⟩) ∧
      (Bytes.fill 32 2 : Bytes32) ≠ Bytes.fill 32 9 := by
  refine ⟨?_, ?_, ?_, ?_, rfl, ?_⟩
  all_goals decide +kernel

end RgkProtocol.RebuildReplay
