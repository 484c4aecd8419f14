import RgkProtocol.AuditConservation

/-!
# Outpoints in the segmented audit

The grid compares every spent record with every new one, over the outpoint and the first four
bytes of the covenant id. Two segments of one side are never compared: distinct outpoints are the
business of each segment alone.
-/
namespace RgkProtocol.AuditExclusion
open ByteStrings Hashing CoreTypes Checked Segments CircuitGadgets
open AssetTypes AssetEncoding AssetValidation CircuitMeaning CircuitSoundness
open AuditStatements AuditCircuits AuditMeaning AuditBundle AuditOpenings AuditConservation

section Readings

/-- The allocations of a side, segment by segment: what the records of its transcripts decode to. -/
structure SideReading (chainId : KaspaChainId) {allocs : ℕ} (S : SideAssignment allocs)
    (segments : List (List RgkAllocation)) : Prop where
  encodes : segments.map (List.map encodeAllocation) =
    S.transcripts.map (fun p => p.2.witness.allocations)
  ok : ∀ s ∈ segments, ∀ a ∈ s, AllocationOk chainId a

variable {H : List UInt8 → Bytes32} {allocs : ℕ} {S : SideAssignment allocs}
  {side : RgkAllocationTranscriptSide} {chainId : KaspaChainId} {total : UInt64} {final : Bytes32}
  {segments : List (List RgkAllocation)}

lemma exists_of_mem_segments
    (h : segments.map (List.map encodeAllocation) =
      S.transcripts.map (fun p => p.2.witness.allocations))
    {s : List RgkAllocation} (hs : s ∈ segments) :
    ∃ p ∈ S.transcripts, p.2.witness.allocations = s.map encodeAllocation := by
  have hmem : s.map encodeAllocation ∈ S.transcripts.map (fun p => p.2.witness.allocations) :=
    h ▸ List.mem_map_of_mem hs
  exact List.mem_map.mp hmem

/-- The records of a satisfied side decode to sound allocations. -/
lemma exists_sideReading
    (hchain : TranscriptChain H side (S.transcripts.map Prod.fst) chainId total final)
    (hsat : S.Satisfies H) : ∃ segments, SideReading chainId S segments := by
  have hrange : S.transcripts.map (fun p => p.2.witness.allocations) ∈
      Set.range (List.map (List.map encodeAllocation)) := by
    rw [Set.range_list_map]
    intro records hr
    obtain ⟨p, hp, rfl⟩ := List.mem_map.mp hr
    have hholds := SideAssignment.segmentHolds hsat hp
    exact exists_encodeAllocations _ fun b hb => ⟨hholds.width b hb, (hholds.common b hb).1⟩
  obtain ⟨segments, hsegments⟩ := hrange
  refine ⟨segments, hsegments, fun s hs a ha => ?_⟩
  obtain ⟨p, hp, hrecords⟩ := exists_of_mem_segments hsegments hs
  have hcommon := (SideAssignment.segmentHolds hsat hp).common (encodeAllocation a)
    (hrecords ▸ List.mem_map_of_mem ha)
  rw [(hchain.uniform p.1 (List.mem_map_of_mem hp)).2.1] at hcommon
  exact enforceAllocationCommon_iff.mp hcommon

namespace SideReading

lemma tags_nodup (h : SideReading chainId S segments) (hsat : S.Satisfies H) :
    ∀ s ∈ segments, (s.map anchorTag).Nodup := by
  intro s hs
  obtain ⟨p, hp, hrecords⟩ := exists_of_mem_segments h.encodes hs
  have hdistinct := (SideAssignment.segmentHolds hsat hp).distinct
  rw [hrecords] at hdistinct
  exact enforceDistinctOutpoints_iff.mp hdistinct

lemma records (h : SideReading chainId S segments) :
    segments.flatten.map encodeAllocation = S.records := by
  rw [List.map_flatten, h.encodes, SideAssignment.records, List.flatMap_def]

lemma length_flatten (h : SideReading chainId S segments)
    (hchain : TranscriptChain H side (S.transcripts.map Prod.fst) chainId total final) :
    segments.flatten.length = total.toNat := by
  rw [← SideAssignment.length_records hchain, ← h.records, List.length_map]

end SideReading

end Readings

section Across
variable {H : List UInt8 → Bytes32} {Q : Set (List UInt8)} {spent new : ℕ}
  {A : AuditAssignment spent new} {r : AllocationAuditBundleReport}
  {spents news : List (List RgkAllocation)}

/-- The grid compares every spent allocation with every new one. -/
lemma tags_apart (hcf : CollisionFree H Q) (hacc : PassedAudit H A.bundle r)
    (hsat : A.Satisfies H) (hQ : ∀ x ∈ A.rootPreimages, x ∈ Q)
    (hs : SideReading r.chainId A.spent spents) (hn : SideReading r.chainId A.new news) :
    ∀ a ∈ spents.flatten, ∀ b ∈ news.flatten, anchorTag a ≠ anchorTag b := by
  intro a ha b hb
  obtain ⟨s, hss, ha⟩ := List.mem_flatten.mp ha
  obtain ⟨n, hns, hb⟩ := List.mem_flatten.mp hb
  obtain ⟨p, hp, hps⟩ := exists_of_mem_segments hs.encodes hss
  obtain ⟨q, hq, hqn⟩ := exists_of_mem_segments hn.encodes hns
  obtain ⟨e, he, hes, hen⟩ :=
    hacc.grid.exists_pair hacc.spentChain hacc.newChain p.1 (List.mem_map_of_mem hp) q.1
      (List.mem_map_of_mem hq)
  obtain ⟨x, hx, rfl⟩ := List.mem_map.mp he
  obtain ⟨hxs, hxn⟩ := AuditAssignment.exclusions_carry hcf hacc hsat hQ x hx
  have hi : x.1.spentSegmentIndex = p.1.segmentIndex :=
    congrArg AllocationTranscriptSegmentStatement.segmentIndex hes
  have hj : x.1.newSegmentIndex = q.1.segmentIndex :=
    congrArg AllocationTranscriptSegmentStatement.segmentIndex hen
  rw [hi, SideAssignment.segmentAt_records hacc.spentChain hp, hps] at hxs
  rw [hj, SideAssignment.segmentAt_records hacc.newChain hq, hqn] at hxn
  have hexcluded := (exclusionCircuit_eq_ok.mp (hsat.exclusions x hx)).2.excluded
  rw [hxs, hxn, enforceSpentAnchorsNotReused_iff] at hexcluded
  exact hexcluded a ha b hb

end Across

/-- Of an accepted bundle whose circuits are satisfied, no spent allocation shares its outpoint
with a new one exactly when those that would share it agree on the first four bytes of the
covenant id. -/
theorem audit_outpoints_apart_iff (H : List UInt8 → Bytes32) {spent new : ℕ}
    (A : AuditAssignment spent new) (r : AllocationAuditBundleReport)
    (hacc : verifyAllocationAuditBundle H A.bundle = .ok r) (hsat : A.Satisfies H)
    (hcf : CollisionFree H {x | x ∈ A.rootPreimages}) :
    ∃ spents news : List (List RgkAllocation),
      SideReading r.chainId A.spent spents ∧ SideReading r.chainId A.new news ∧
      ((∀ a ∈ spents.flatten, ∀ b ∈ news.flatten, a.outpoint ≠ b.outpoint) ↔
        ∀ a ∈ spents.flatten, ∀ b ∈ news.flatten, a.outpoint = b.outpoint →
          a.anchor.covenantId.toList.take 4 = b.anchor.covenantId.toList.take 4) := by
  have ha := verifyAllocationAuditBundle_eq_ok.mp hacc
  obtain ⟨spents, hs⟩ := exists_sideReading ha.spentChain hsat.spent
  obtain ⟨news, hn⟩ := exists_sideReading ha.newChain hsat.new
  have htags := tags_apart hcf ha hsat (fun _ hx => hx) hs hn
  refine ⟨spents, news, hs, hn, ?_, ?_⟩
  · intro h a haa b hb hab
    exact absurd hab (h a haa b hb)
  · intro h a haa b hb hab
    exact htags a haa b hb (Prod.ext hab (h a haa b hb hab))

theorem audit_outpoints_apart_iff_sample :
    ∃ spents news : List (List RgkAllocation),
      SideReading .kaspaSimnet sampleSha.spent spents ∧
      SideReading .kaspaSimnet sampleSha.new news ∧
      ((∀ a ∈ spents.flatten, ∀ b ∈ news.flatten, a.outpoint ≠ b.outpoint) ↔
        ∀ a ∈ spents.flatten, ∀ b ∈ news.flatten, a.outpoint = b.outpoint →
          a.anchor.covenantId.toList.take 4 = b.anchor.covenantId.toList.take 4) := by
  refine audit_outpoints_apart_iff Sha256.digest _ _ (sampleAudit_accepted _ rfl)
    sampleSha_satisfies ((sampleAudit_collisionFree sampleDigests_nodup).mono ?_)
  exact fun x hx => sampleAudit_preimages rfl x (List.mem_append_left _ hx)

/-- The new allocation takes the outpoint of a spent one under another covenant id. -/
theorem audit_accepts_reused_outpoint :
    let spent := sampleAllocation 1 1 4
    let new := sampleAllocation 2 1 10
    let A := sampleAudit Sha256.digest (.single spent) (.single (sampleAllocation 1 2 6))
      (.single new)
    verifyAllocationAuditBundle Sha256.digest A.bundle =
        .ok (sampleReport Sha256.digest (.single spent) (.single (sampleAllocation 1 2 6))
          (.single new)) ∧
      A.Satisfies Sha256.digest ∧ A.Matches Sha256.digest ∧
      CollisionFree Sha256.digest {x | x ∈ A.preimages} ∧
      encodeAllocation spent ∈ A.spent.records ∧ encodeAllocation new ∈ A.new.records ∧
      spent.outpoint = new.outpoint := by
  intro spent new A
  have hd : (sampleDigests Sha256.digest (.single spent) (.single (sampleAllocation 1 2 6))
      (.single new)).Nodup := by
    decide +kernel
  have hsat : A.Satisfies Sha256.digest := by
    refine sampleAudit_satisfies ?_ ?_ ?_ (by decide) (by decide) rfl hd
    all_goals exact Batch.single_ok (sampleAllocation_ok (by decide) (by decide) (by decide))
  exact ⟨sampleAudit_accepted _ rfl, hsat, hsat.matches (by decide) (by decide),
    (sampleAudit_collisionFree hd).mono (sampleAudit_preimages rfl), List.mem_cons_self,
    List.mem_cons_self, rfl⟩

section Within

/-- No outpoint occurs in two of the segments. -/
def SegmentsApart (segments : List (List RgkAllocation)) : Prop :=
  segments.Pairwise (fun s t => ∀ a ∈ s, ∀ b ∈ t, a.outpoint ≠ b.outpoint)

/-- No segment lists one outpoint under two covenant ids. -/
def OneCovenantPerOutpoint (segments : List (List RgkAllocation)) : Prop :=
  ∀ s ∈ segments, ∀ a ∈ s, ∀ b ∈ s, a.outpoint = b.outpoint →
    a.anchor.covenantId = b.anchor.covenantId

/-- The outpoint with the covenant id that holds it. -/
def covenantAnchor (a : RgkAllocation) : KaspaOutpoint × Bytes32 :=
  (a.outpoint, a.anchor.covenantId)

variable {H : List UInt8 → Bytes32} {allocs : ℕ} {S : SideAssignment allocs}
  {chainId : KaspaChainId} {segments : List (List RgkAllocation)}

lemma covenantAnchor_nodup {as : List RgkAllocation} (h : (as.map anchorTag).Nodup) :
    (as.map covenantAnchor).Nodup := by
  have htag : as.map anchorTag =
      (as.map covenantAnchor).map (fun x => (x.1, x.2.toList.take 4)) := by
    rw [List.map_map]
    rfl
  rw [htag] at h
  exact h.of_map _

lemma outpoints_nodup {as : List RgkAllocation} (h : (as.map covenantAnchor).Nodup)
    (hone : ∀ a ∈ as, ∀ b ∈ as, a.outpoint = b.outpoint →
      a.anchor.covenantId = b.anchor.covenantId) :
    (as.map RgkAllocation.outpoint).Nodup := by
  have has : as.Nodup := h.of_map _
  have hinj := (List.nodup_map_iff_inj_on has).mp h
  refine (List.nodup_map_iff_inj_on has).mpr fun a ha b hb hab => ?_
  exact hinj a ha b hb (Prod.ext hab (hone a ha b hb hab))

theorem SideReading.outpoints_nodup_iff (h : SideReading chainId S segments)
    (hsat : S.Satisfies H) (hone : OneCovenantPerOutpoint segments) :
    (segments.flatten.map RgkAllocation.outpoint).Nodup ↔ SegmentsApart segments := by
  have hwithin : ∀ s ∈ segments, (s.map RgkAllocation.outpoint).Nodup := fun s hs =>
    outpoints_nodup (covenantAnchor_nodup (h.tags_nodup hsat s hs)) (hone s hs)
  rw [List.map_flatten, List.nodup_flatten, List.forall_mem_map, List.pairwise_map,
    and_iff_right hwithin]
  refine List.Pairwise.iff fun {s t} => ?_
  constructor
  · intro hd a ha b hb hab
    exact hd (List.mem_map_of_mem ha) (hab ▸ List.mem_map_of_mem hb)
  · intro hd o hs ht
    obtain ⟨a, ha, rfl⟩ := List.mem_map.mp hs
    obtain ⟨b, hb, hab⟩ := List.mem_map.mp ht
    exact hd a ha b hb hab.symm

lemma SideReading.flatten_ne_nil {side : RgkAllocationTranscriptSide} {total : UInt64} {final : Bytes32}
    (h : SideReading chainId S segments)
    (hchain : TranscriptChain H side (S.transcripts.map Prod.fst) chainId total final)
    (hsat : S.Satisfies H) : segments.flatten ≠ [] := by
  intro hnil
  obtain ⟨s, hs⟩ := List.exists_mem_of_ne_nil _ hchain.nonempty
  obtain ⟨p, hp, rfl⟩ := List.mem_map.mp hs
  have hzero := h.length_flatten hchain
  rw [hnil, hchain.total, List.length_nil, eq_comm, Nat.mul_eq_zero] at hzero
  rcases hzero with hlen | hallocs
  · exact hchain.nonempty (List.length_eq_zero_iff.mp hlen)
  · exact (SideAssignment.segmentHolds hsat hp).allocs_ne hallocs

/-- On a satisfied side the native check of all its allocations asks no more than that the
segments are apart and the amounts fit. -/
theorem SideReading.validate_iff (h : SideReading chainId S segments) (hsat : S.Satisfies H)
    (hone : OneCovenantPerOutpoint segments) (hne : segments.flatten ≠ []) {supply : UInt64} :
    validateAllocationSetStructure chainId segments.flatten = .ok supply ↔
      SegmentsApart segments ∧ supply.toNat = supplyOf segments.flatten := by
  have hok : ∀ a ∈ segments.flatten, AllocationOk chainId a := by
    intro a ha
    obtain ⟨s, hs, ha⟩ := List.mem_flatten.mp ha
    exact h.ok s hs a ha
  rw [validateAllocationSetStructure_eq_ok, ← h.outpoints_nodup_iff hsat hone]
  constructor
  · intro ⟨_, hset⟩
    exact ⟨hset.distinct, hset.sum⟩
  · intro ⟨hdistinct, hsum⟩
    exact ⟨hne, hok, hdistinct, hsum⟩

/-- What the audit establishes about the allocations of one side. -/
structure SideDistinct (chainId : KaspaChainId) (segments : List (List RgkAllocation)) : Prop where
  within : ∀ s ∈ segments, (s.map covenantAnchor).Nodup
  across : OneCovenantPerOutpoint segments →
    ((segments.flatten.map RgkAllocation.outpoint).Nodup ↔ SegmentsApart segments)
  native : OneCovenantPerOutpoint segments → ∀ supply,
    (validateAllocationSetStructure chainId segments.flatten = .ok supply ↔
      SegmentsApart segments ∧ supply.toNat = supplyOf segments.flatten)

lemma SideReading.distinct {side : RgkAllocationTranscriptSide} {total : UInt64}
    {final : Bytes32} (h : SideReading chainId S segments)
    (hchain : TranscriptChain H side (S.transcripts.map Prod.fst) chainId total final)
    (hsat : S.Satisfies H) : SideDistinct chainId segments where
  within s hs := covenantAnchor_nodup (h.tags_nodup hsat s hs)
  across := h.outpoints_nodup_iff hsat
  native hone _ := h.validate_iff hsat hone (h.flatten_ne_nil hchain hsat)

end Within

/-- Of an accepted bundle whose circuits are satisfied, the allocations of one segment have
distinct anchors, and where no segment lists one outpoint under two covenant ids, a whole side has
distinct outpoints exactly when no outpoint occurs in two of its segments. -/
theorem audit_side_outpoints_iff (H : List UInt8 → Bytes32) {spent new : ℕ}
    (A : AuditAssignment spent new) (r : AllocationAuditBundleReport)
    (hacc : verifyAllocationAuditBundle H A.bundle = .ok r) (hsat : A.Satisfies H) :
    ∃ spents news : List (List RgkAllocation),
      SideReading r.chainId A.spent spents ∧ SideReading r.chainId A.new news ∧
      spents.flatten.length = r.spentTotalCount.toNat ∧
      news.flatten.length = r.newTotalCount.toNat ∧
      SideDistinct r.chainId spents ∧ SideDistinct r.chainId news := by
  have ha := verifyAllocationAuditBundle_eq_ok.mp hacc
  obtain ⟨spents, hs⟩ := exists_sideReading ha.spentChain hsat.spent
  obtain ⟨news, hn⟩ := exists_sideReading ha.newChain hsat.new
  exact ⟨spents, news, hs, hn, hs.length_flatten ha.spentChain, hn.length_flatten ha.newChain,
    hs.distinct ha.spentChain hsat.spent, hn.distinct ha.newChain hsat.new⟩

/-- Two segments of two allocations are spent, one of two is created. -/
theorem audit_side_outpoints_iff_sample :
    let A := sampleAudit Sha256.digest
      (.pair (sampleAllocation 1 1 1) (sampleAllocation 1 2 3) 4 rfl)
      (.pair (sampleAllocation 1 3 2) (sampleAllocation 1 4 4) 6 rfl)
      (.pair (sampleAllocation 1 5 3) (sampleAllocation 1 6 7) 10 rfl)
    ∃ spents news : List (List RgkAllocation),
      SideReading .kaspaSimnet A.spent spents ∧ SideReading .kaspaSimnet A.new news ∧
      spents.flatten.length = 4 ∧ news.flatten.length = 2 ∧
      SideDistinct .kaspaSimnet spents ∧ SideDistinct .kaspaSimnet news := by
  refine audit_side_outpoints_iff Sha256.digest _ _ (sampleAudit_accepted _ rfl)
    (sampleAudit_satisfies ?_ ?_ ?_ (by decide) (by decide) rfl (by decide +kernel))
  all_goals
    refine Batch.pair_ok ?_ ?_ (by decide) (by decide) <;>
      exact sampleAllocation_ok (by decide) (by decide) (by decide)

/-- One allocation of five units is spent in both segments and pays for ten. -/
theorem audit_accepts_repeated_allocation :
    let spent := sampleAllocation 1 1 5
    let A := sampleAudit Sha256.digest (.single spent) (.single spent)
      (.single (sampleAllocation 1 3 10))
    verifyAllocationAuditBundle Sha256.digest A.bundle =
        .ok (sampleReport Sha256.digest (.single spent) (.single spent)
          (.single (sampleAllocation 1 3 10))) ∧
      A.Satisfies Sha256.digest ∧ CollisionFree Sha256.digest {x | x ∈ A.preimages} ∧
      A.spent.records = [spent, spent].map encodeAllocation ∧
      ¬([spent, spent].map RgkAllocation.outpoint).Nodup ∧
      ∀ supply, validateAllocationSetStructure .kaspaSimnet [spent, spent] ≠ .ok supply := by
  intro spent A
  have hd : (sampleDigests Sha256.digest (.single spent) (.single spent)
      (.single (sampleAllocation 1 3 10))).Nodup := by
    decide +kernel
  have hrepeated : ¬([spent, spent].map RgkAllocation.outpoint).Nodup := by simp
  refine ⟨sampleAudit_accepted _ rfl, ?_, ?_, rfl, hrepeated, fun supply h => ?_⟩
  · refine sampleAudit_satisfies ?_ ?_ ?_ (by decide) (by decide) rfl hd
    all_goals exact Batch.single_ok (sampleAllocation_ok (by decide) (by decide) (by decide))
  · exact (sampleAudit_collisionFree hd).mono (sampleAudit_preimages rfl)
  · exact hrepeated (validateAllocationSetStructure_eq_ok.mp h).2.distinct

end RgkProtocol.AuditExclusion
