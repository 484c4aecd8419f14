import RgkProtocol.AssetLineage

/-!
# Reuse of covenant outputs along a lineage

One transition never anchors a new allocation in an output it spends, and every transition
changes the state digest. The validator sees one transition at a time, so outputs spent by
earlier steps stay away only where new allocations sit in the step's own transaction and
transactions do not repeat, as the chain guarantees for finalized plans.
-/
namespace RgkProtocol.AssetFreshness
open ByteStrings Hashing CoreTypes Checked AssetTypes AssetEncoding AssetValidation AssetLineage

/-- No allocation that `u` creates is anchored in an output that `t` spends. -/
def AvoidsSpent (t u : RgkTransition) : Prop :=
  ∀ a ∈ u.newAllocations, a.outpoint ∉ t.spentAllocations.map RgkAllocation.outpoint

/-- The transactions that a lineage has seen. -/
def knownTxids (issue : RgkAssetIssue) (ts : List RgkTransition) : List Bytes32 :=
  issue.allocations.map (fun a => a.outpoint.transactionId) ++ ts.map RgkTransition.witnessTxid

/-- New allocations sit in their step's own transaction, and no transaction comes twice. -/
def FreshAnchors (issue : RgkAssetIssue) (ts : List RgkTransition) : Prop :=
  (∀ t ∈ ts, ∀ a ∈ t.newAllocations, a.outpoint.transactionId = t.witnessTxid) ∧
    (ts.map RgkTransition.witnessTxid).Nodup ∧
    ∀ t ∈ ts, ∀ a ∈ issue.allocations, a.outpoint.transactionId ≠ t.witnessTxid

lemma freshAnchors_concat {issue : RgkAssetIssue} {ts : List RgkTransition} {t : RgkTransition}
    (h : FreshAnchors issue (ts ++ [t])) :
    FreshAnchors issue ts ∧ (∀ a ∈ t.newAllocations, a.outpoint.transactionId = t.witnessTxid) ∧
      t.witnessTxid ∉ knownTxids issue ts := by
  obtain ⟨hown, hnodup, hissue⟩ := h
  rw [List.map_append, List.nodup_append] at hnodup
  obtain ⟨hn, -, hd⟩ := hnodup
  refine ⟨⟨fun u hu => hown u (List.mem_append_left _ hu), hn,
    fun u hu => hissue u (List.mem_append_left _ hu)⟩, hown t (by simp), ?_⟩
  intro hmem
  rcases List.mem_append.mp hmem with hmem | hmem
  · obtain ⟨a, ha, hat⟩ := List.mem_map.mp hmem
    exact hissue t (by simp) a ha hat
  · exact hd t.witnessTxid hmem t.witnessTxid (by simp) rfl

lemma knownTxids_mono {issue : RgkAssetIssue} {ts : List RgkTransition} {x : Bytes32}
    (h : x ∈ knownTxids issue ts) (us : List RgkTransition) : x ∈ knownTxids issue (ts ++ us) := by
  simp only [knownTxids, List.map_append, List.mem_append] at h ⊢
  rcases h with h | h
  · exact Or.inl h
  · exact Or.inr (Or.inl h)

section Runs
variable {H : List UInt8 → Bytes32} {issue : RgkAssetIssue}

lemma Lineage.step_avoids {ts : List RgkTransition} {s : LineageState}
    (hrun : Lineage H issue ts s) : ∀ t ∈ ts, AvoidsSpent t t := by
  induction hrun with
  | issue hv => simp
  | @step ts s t r hrun hv hlink ih =>
    have ha := RgkTransition.validate_inv hv
    intro u hu
    rcases List.mem_append.mp hu with hu | hu
    · exact ih u hu
    · rw [List.mem_singleton.mp hu]
      exact ha.fresh

lemma Lineage.digests_head {ts : List RgkTransition} {s : LineageState}
    (hrun : Lineage H issue ts s) : ∃ ds, s.digests = s.stateDigest :: ds := by
  cases hrun with
  | issue hv => exact ⟨[], rfl⟩
  | step hrun hv hlink => exact ⟨_, rfl⟩

lemma Lineage.digests_change {ts : List RgkTransition} {s : LineageState}
    (hrun : Lineage H issue ts s) : s.digests.IsChain (· ≠ ·) := by
  induction hrun with
  | issue hv => exact List.isChain_singleton _
  | @step ts s t r hrun hv hlink ih =>
    have ha := RgkTransition.validate_inv hv
    obtain ⟨ds, hds⟩ := Lineage.digests_head hrun
    have hc := ha.changed
    rw [hlink] at hc
    rw [hds] at ih ⊢
    exact List.isChain_cons_cons.mpr ⟨hc, ih⟩

lemma Lineage.spent_nonempty {ts : List RgkTransition} {s : LineageState} {t : RgkTransition}
    {r : RgkTransitionReport} (hrun : Lineage H issue ts s)
    (hv : RgkTransition.validate H t = .ok r) (hlink : t.previousStateDigest = s.stateDigest)
    (hcf : CollisionFree H {x | x ∈ lineagePreimages H issue (ts ++ [t])}) :
    s.allocations ≠ [] := by
  intro he
  have hp := hrun.spends_current hv hlink hcf
  rw [he] at hp
  exact (RgkTransition.validate_inv hv).spent_ne hp.eq_nil

/-- Under fresh anchors everything spent or live sits in a transaction seen before. -/
lemma Lineage.anchors_known {ts : List RgkTransition} {s : LineageState}
    (hrun : Lineage H issue ts s) (hcf : CollisionFree H {x | x ∈ lineagePreimages H issue ts})
    (hfresh : FreshAnchors issue ts) :
    (∀ a ∈ s.allocations, a.outpoint.transactionId ∈ knownTxids issue ts) ∧
      ∀ t ∈ ts, ∀ a ∈ t.spentAllocations, a.outpoint.transactionId ∈ knownTxids issue ts := by
  induction hrun with
  | issue hv =>
    refine ⟨fun a ha => ?_, by simp⟩
    exact List.mem_append_left _ (List.mem_map.mpr ⟨a, ha, rfl⟩)
  | @step ts s t r hrun hv hlink ih =>
    obtain ⟨hold, hown, -⟩ := freshAnchors_concat hfresh
    obtain ⟨hlive, hspent⟩ := ih (hcf.mono (lineagePreimages_mono ts [t])) hold
    have hp := hrun.spends_current hv hlink hcf
    constructor
    · intro a ha
      rw [hown a ha]
      simp [knownTxids]
    · intro u hu a ha
      apply knownTxids_mono
      rcases List.mem_append.mp hu with hu | hu
      · exact hspent u hu a ha
      · rw [List.mem_singleton.mp hu] at ha
        exact hlive a (hp.mem_iff.mp ha)

/-- Under fresh anchors an output spent by some step is not an anchor of a later step. -/
lemma Lineage.later_avoids {ts : List RgkTransition} {s : LineageState}
    (hrun : Lineage H issue ts s) (hcf : CollisionFree H {x | x ∈ lineagePreimages H issue ts})
    (hfresh : FreshAnchors issue ts) : ts.Pairwise AvoidsSpent := by
  induction hrun with
  | issue hv => exact List.Pairwise.nil
  | @step ts s t r hrun hv hlink ih =>
    obtain ⟨hold, hown, hnew⟩ := freshAnchors_concat hfresh
    have hcf' := hcf.mono (lineagePreimages_mono ts [t])
    obtain ⟨-, hspent⟩ := Lineage.anchors_known hrun hcf' hold
    refine List.pairwise_append.mpr ⟨ih hcf' hold, List.pairwise_singleton _ _, ?_⟩
    intro u hu v hv' a ha hmem
    rw [List.mem_singleton.mp hv'] at ha
    obtain ⟨b, hb, hba⟩ := List.mem_map.mp hmem
    have hk := hspent u hu b hb
    rw [hba, hown a ha] at hk
    exact hnew hk

/-- A digest of the lineage opens to allocations in known transactions; only the newest
state can be empty. -/
def OpensKnown (H : List UInt8 → Bytes32) (issue : RgkAssetIssue) (ts : List RgkTransition)
    (s : LineageState) (d : Bytes32) : Prop :=
  ∃ input : RgkStateDigestInput, stateDigestForAllocations H input = d ∧
    (∀ x ∈ stateDigestPreimages H input, x ∈ lineagePreimages H issue ts) ∧
    (input.allocations = [] → s.allocations = []) ∧
    ∀ a ∈ input.allocations, a.outpoint.transactionId ∈ knownTxids issue ts

lemma Lineage.newest_opens {ts : List RgkTransition} {s : LineageState}
    (hrun : Lineage H issue ts s) (hcf : CollisionFree H {x | x ∈ lineagePreimages H issue ts})
    (hfresh : FreshAnchors issue ts) : OpensKnown H issue ts s s.stateDigest := by
  obtain ⟨input, hall, hdig, hpre⟩ := hrun.digest_opens
  have hk := (Lineage.anchors_known hrun hcf hfresh).1
  exact ⟨input, hdig, hpre, fun h => hall ▸ h, fun a ha => hk a (hall ▸ ha)⟩

lemma Lineage.digests_open {ts : List RgkTransition} {s : LineageState}
    (hrun : Lineage H issue ts s) (hcf : CollisionFree H {x | x ∈ lineagePreimages H issue ts})
    (hfresh : FreshAnchors issue ts) : ∀ d ∈ s.digests, OpensKnown H issue ts s d := by
  induction hrun with
  | issue hv =>
    intro d hd
    rw [List.mem_singleton.mp hd]
    exact Lineage.newest_opens (Lineage.issue hv) hcf hfresh
  | @step ts s t r hrun hv hlink ih =>
    intro d hd
    rcases List.mem_cons.mp hd with rfl | hd
    · exact Lineage.newest_opens (Lineage.step hrun hv hlink) hcf hfresh
    · obtain ⟨input, hdig, hpre, hempty, hknown⟩ := ih (hcf.mono (lineagePreimages_mono ts [t]))
        (freshAnchors_concat hfresh).1 d hd
      refine ⟨input, hdig, fun x hx => lineagePreimages_mono ts [t] (hpre x hx), ?_, ?_⟩
      · intro he
        exact absurd (hempty he) (Lineage.spent_nonempty hrun hv hlink hcf)
      · intro a ha
        exact knownTxids_mono (hknown a ha) [t]

/-- Under fresh anchors no state digest comes back. -/
lemma Lineage.digests_nodup {ts : List RgkTransition} {s : LineageState}
    (hrun : Lineage H issue ts s) (hcf : CollisionFree H {x | x ∈ lineagePreimages H issue ts})
    (hfresh : FreshAnchors issue ts) : s.digests.Nodup := by
  induction hrun with
  | issue hv => exact List.nodup_singleton _
  | @step ts s t r hrun hv hlink ih =>
    obtain ⟨hold, hown, hnew⟩ := freshAnchors_concat hfresh
    have hcf' := hcf.mono (lineagePreimages_mono ts [t])
    refine List.nodup_cons.mpr ⟨?_, ih hcf' hold⟩
    intro hmem
    obtain ⟨input, hdig, hpre, hempty, hknown⟩ := Lineage.digests_open hrun hcf' hold _ hmem
    obtain ⟨input', hall, hdig', hpre'⟩ := (Lineage.step hrun hv hlink).digest_opens
    have hb := stateDigest_binding hcf (fun x hx => lineagePreimages_mono ts [t] (hpre x hx)) hpre'
      (hdig.trans hdig'.symm)
    have hnew' : input'.allocations = t.newAllocations := hall
    have hperm := hb.2
    rw [hnew'] at hperm
    have hne : input.allocations ≠ [] := fun he =>
      Lineage.spent_nonempty hrun hv hlink hcf (hempty he)
    obtain ⟨a, ha⟩ := List.exists_mem_of_ne_nil _ hne
    have hk := hknown a ha
    rw [hown a (hperm.mem_iff.mp ha)] at hk
    exact hnew hk

end Runs

/-- Along a lineage no step anchors a new allocation in an output it spends and every step
changes the state digest; when anchors are fresh, spent outputs never come back at any later
step and no state digest repeats. -/
theorem lineage_spent_outputs_avoided (H : List UInt8 → Bytes32) (issue : RgkAssetIssue)
    (ts : List RgkTransition) (s : LineageState) (hrun : Lineage H issue ts s)
    (hcf : CollisionFree H {x | x ∈ lineagePreimages H issue ts}) :
    (∀ t ∈ ts, AvoidsSpent t t) ∧ s.digests.IsChain (· ≠ ·) ∧
      (FreshAnchors issue ts → ts.Pairwise AvoidsSpent ∧ s.digests.Nodup) :=
  ⟨Lineage.step_avoids hrun, Lineage.digests_change hrun, fun hfresh =>
    ⟨Lineage.later_avoids hrun hcf hfresh, Lineage.digests_nodup hrun hcf hfresh⟩⟩

lemma sampleSteps_freshAnchors : FreshAnchors (sampleIssue sampleStart) sampleSteps := by
  unfold FreshAnchors
  decide +kernel

theorem lineage_spent_outputs_avoided_sample :
    sampleSteps.Pairwise AvoidsSpent ∧
      [sampleDigest sampleEnd, sampleDigest sampleMiddle, sampleDigest sampleStart].Nodup :=
  (lineage_spent_outputs_avoided _ _ _ _ sample_lineage sampleSteps_collisionFree).2.2
    sampleSteps_freshAnchors

/-- The second step puts the units back into the output that the first step spent. -/
def sampleCycle : List RgkTransition :=
  [sampleTransition 2 sampleStart sampleMiddle none,
    sampleTransition 1 sampleMiddle sampleStart none]

theorem lineage_spent_output_comes_back :
    ∃ s : LineageState, Lineage Sha256.digest (sampleIssue sampleStart) sampleCycle s ∧
      CollisionFree Sha256.digest
        {x | x ∈ lineagePreimages Sha256.digest (sampleIssue sampleStart) sampleCycle} ∧
      ¬sampleCycle.Pairwise AvoidsSpent ∧ ¬s.digests.Nodup := by
  have h0 := sample_starts sampleStart (by decide +kernel)
  obtain ⟨r, hr, hb, hv⟩ := sample_move
  have h1 := Lineage.step h0 hv rfl
  obtain ⟨q, hq, -, hv2⟩ := sample_validates 1 none 10 10 0 (by decide) (by decide +kernel)
    (by decide +kernel) (by decide +kernel) (by decide +kernel) sample_digests.2.1
    sample_digests.2.2.1.symm
  refine ⟨_, Lineage.step h1 hv2 hr.symm, ?_, ?_, ?_⟩
  · apply sample_collisionFree (by simp [sampleStates])
    intro t ht
    rcases List.mem_pair.mp ht with rfl | rfl
    · exact ⟨sampleStart, by simp [sampleStates], sampleMiddle, by simp [sampleStates], _, _, rfl⟩
    · exact ⟨sampleMiddle, by simp [sampleStates], sampleStart, by simp [sampleStates], _, _, rfl⟩
  · intro hp
    have hav := (List.pairwise_cons.mp hp).1 _ (List.mem_singleton.mpr rfl)
    exact hav (sampleAllocation 1 10) (List.mem_singleton.mpr rfl) (List.mem_singleton.mpr rfl)
  · intro hn
    have hmem : q.newStateDigest ∈ [r.newStateDigest, sampleDigest sampleStart] := by simp [hq]
    exact (List.nodup_cons.mp hn).1 hmem

end RgkProtocol.AssetFreshness
