import RgkProtocol.CertificateVerification

/-!
# Certificates against their bundle

A certificate can be verified against the bundle it is about, or on its own. Both verifiers look
for the same thing: a bundle that passes the audit, whose manifest the entries follow, with a
verified proof in every entry. The entries determine that bundle.
-/
namespace RgkProtocol.CertificateBundle
open Hashing Checked AuditStatements AuditBundle AuditManifest AuditCertificate
open CertificateVerification

section Verifying
variable (H : List UInt8 → Bytes32) (verifyStack : StackVerifier) {spent new : ℕ}

/-- The entries are those of the bundle's manifest, each with a proof that verifies. -/
def checkBundleManifest (proofs : List AllocationAuditProofEntry) (expected : List ManifestEntry) :
    Except String Unit := do
  let got := proofs.length
  let count := expected.length
  failIf (proofs.length ≠ expected.length)
    s!"allocation audit certificate has {got} proof entries, expected {count}"
  forEnum (fun index p => do
    failIf (p.1.manifestEntry ≠ p.2)
      s!"allocation audit certificate proof entry {index} does not match the bundle manifest"
    verifyStack p.1.kind p.1.stack p.1.publicInputs) 0 (proofs.zip expected)

def verifyAllocationAuditCertificate (certificate : AllocationAuditCertificate)
    (bundle : AllocationAuditBundle spent new) : Except String AllocationAuditBundleReport := do
  let expectedReport ← verifyAllocationAuditBundle H bundle
  failIf (certificate.report ≠ expectedReport)
    "allocation audit certificate report does not match bundle"
  checkBundleManifest verifyStack certificate.proofs (allocationAuditManifestEntries bundle)
  checkCertificateId H certificate.certificateId certificate.report certificate.proofs
  .ok certificate.report

end Verifying

section Certifies
variable {H : List UInt8 → Bytes32} {verifyStack : StackVerifier} {spent new : ℕ}

/-- Every entry carries a proof that verifies. -/
def AllVerified (verifyStack : StackVerifier) (proofs : List AllocationAuditProofEntry) : Prop :=
  ∀ e ∈ proofs, verifyStack e.kind e.stack e.publicInputs = .ok ()

/-- What both verifiers look for in a bundle. -/
structure Certifies (H : List UInt8 → Bytes32) (verifyStack : StackVerifier)
    (c : AllocationAuditCertificate) (bundle : AllocationAuditBundle spent new) : Prop where
  passed : verifyAllocationAuditBundle H bundle = .ok c.report
  manifest : c.proofs.map AllocationAuditProofEntry.manifestEntry =
    allocationAuditManifestEntries bundle
  verified : AllVerified verifyStack c.proofs
  bound : checkCertificateId H c.certificateId c.report c.proofs = .ok ()

lemma forall_zip_fst {α β : Type} {P : α → Prop} {l : List α} {m : List β}
    (hlen : l.length = m.length) : (∀ p ∈ l.zip m, P p.1) ↔ ∀ a ∈ l, P a := by
  have hmap : (l.zip m).map Prod.fst = l := List.map_fst_zip hlen.le
  constructor
  · intro h a ha
    rw [← hmap, List.mem_map] at ha
    obtain ⟨p, hp, rfl⟩ := ha
    exact h p hp
  · intro h p hp
    exact h p.1 (hmap ▸ List.mem_map_of_mem hp)

lemma checkBundleManifest_eq_ok {proofs : List AllocationAuditProofEntry}
    {expected : List ManifestEntry} :
    checkBundleManifest verifyStack proofs expected = .ok () ↔
      proofs.map AllocationAuditProofEntry.manifestEntry = expected ∧
        AllVerified verifyStack proofs := by
  have hloop := @forEnum_eq_ok String (AllocationAuditProofEntry × ManifestEntry)
    (fun index p => do
      failIf (p.1.manifestEntry ≠ p.2)
        s!"allocation audit certificate proof entry {index} does not match the bundle manifest"
      verifyStack p.1.kind p.1.stack p.1.publicInputs)
    (fun p => p.1.manifestEntry = p.2 ∧
      verifyStack p.1.kind p.1.stack p.1.publicInputs = .ok ())
    (fun _ _ => by rw [unit_bind_eq_ok, failIf_eq_ok, not_not]) 0 (proofs.zip expected)
  rw [checkBundleManifest, unit_bind_eq_ok, failIf_eq_ok, not_not, hloop]
  constructor
  · rintro ⟨hlen, hall⟩
    exact ⟨(zip_manifest_iff hlen).mp (fun p hp => (hall p hp).1),
      (forall_zip_fst hlen).mp (fun p hp => (hall p hp).2)⟩
  · rintro ⟨heq, hverified⟩
    have hlen : proofs.length = expected.length := by rw [← heq, List.length_map]
    exact ⟨hlen, fun p hp => ⟨(zip_manifest_iff hlen).mpr heq p hp,
      (forall_zip_fst hlen).mpr hverified p hp⟩⟩

theorem verifyAllocationAuditCertificate_eq_ok {c : AllocationAuditCertificate}
    {bundle : AllocationAuditBundle spent new} {r : AllocationAuditBundleReport} :
    verifyAllocationAuditCertificate H verifyStack c bundle = .ok r ↔
      r = c.report ∧ Certifies H verifyStack c bundle := by
  constructor
  · intro h
    obtain ⟨expected, hpassed, h⟩ := bind_eq_ok.mp h
    obtain ⟨hreport, h⟩ := unit_bind_eq_ok.mp h
    obtain ⟨hmanifest, h⟩ := unit_bind_eq_ok.mp h
    obtain ⟨hbound, hr⟩ := unit_bind_eq_ok.mp h
    obtain ⟨hentries, hverified⟩ := checkBundleManifest_eq_ok.mp hmanifest
    obtain rfl := not_not.mp (failIf_eq_ok.mp hreport)
    exact ⟨(Except.ok.inj hr).symm, hpassed, hentries, hverified, hbound⟩
  · rintro ⟨rfl, h⟩
    refine bind_eq_ok.mpr ⟨c.report, h.passed, ?_⟩
    refine unit_bind_eq_ok.mpr ⟨failIf_eq_ok.mpr (not_not.mpr rfl), ?_⟩
    refine unit_bind_eq_ok.mpr ⟨checkBundleManifest_eq_ok.mpr ⟨h.manifest, h.verified⟩, ?_⟩
    exact unit_bind_eq_ok.mpr ⟨h.bound, rfl⟩

/-- The self-contained verifier accepts a certificate on the bundle it has sorted. -/
theorem selfContained_certifies {c : AllocationAuditCertificate} {r : AllocationAuditBundleReport}
    (h : verifyAllocationAuditCertificateSelfContained H verifyStack spent new c = .ok r) :
    r = c.report ∧ ∃ (statements : List (AuditStatement spent new))
      (final : AllocationConservationFinalStatement),
      Certifies H verifyStack c (sortedBundle statements final) := by
  obtain ⟨hbound, h⟩ := unit_bind_eq_ok.mp h
  obtain ⟨statements, hparse, h⟩ := bind_eq_ok.mp h
  obtain ⟨final, -, h⟩ := bind_eq_ok.mp h
  obtain ⟨report, hpassed, h⟩ := bind_eq_ok.mp h
  obtain ⟨hreport, h⟩ := unit_bind_eq_ok.mp h
  obtain ⟨horder, hr⟩ := unit_bind_eq_ok.mp h
  obtain rfl := not_not.mp (failIf_eq_ok.mp hreport)
  exact ⟨(Except.ok.inj hr).symm, statements, final, hpassed, checkManifestOrder_eq_ok.mp horder,
    fun entry hentry => (parseEntries_inv hparse entry hentry).1, hbound⟩

end Certifies

section Uniqueness
variable {H : List UInt8 → Bytes32} {verifyStack : StackVerifier} {spent new : ℕ}

lemma statements_injective :
    Function.Injective (@AllocationAuditBundle.statements spent new) := by
  intro b b' h
  have hst := congrArg (List.filterMap asSpentTranscript) h
  have hnt := congrArg (List.filterMap asNewTranscript) h
  have hsc := congrArg (List.filterMap asSpentConservation) h
  have hnc := congrArg (List.filterMap asNewConservation) h
  have hf := congrArg (List.filterMap asFinal) h
  have he := congrArg (List.filterMap asExclusion) h
  simp [AllocationAuditBundle.statements, List.filterMap_map, List.filterMap_cons,
    Function.comp_def, asSpentTranscript, asNewTranscript, asSpentConservation, asNewConservation,
    asFinal, asExclusion] at hst hnt hsc hnc hf he
  cases b
  cases b'
  simp_all

lemma manifestEntries_injective :
    Function.Injective (@allocationAuditManifestEntries spent new) := by
  intro b b' h
  exact statements_injective
    (List.map_injective_iff.mpr AuditStatement.manifestEntry_injective h)

lemma Certifies.unique {c : AllocationAuditCertificate} {b b' : AllocationAuditBundle spent new}
    (h : Certifies H verifyStack c b) (h' : Certifies H verifyStack c b') : b' = b :=
  manifestEntries_injective (h'.manifest.symm.trans h.manifest)

/-- The report gives the arities away: the counts are those of segments and of allocations. -/
lemma Certifies.arities {spent' new' : ℕ} {c : AllocationAuditCertificate}
    {b : AllocationAuditBundle spent new} {b' : AllocationAuditBundle spent' new'}
    (h : Certifies H verifyStack c b) (h' : Certifies H verifyStack c b') :
    spent' = spent ∧ new' = new := by
  have hp := verifyAllocationAuditBundle_eq_ok.mp h.passed
  have hp' := verifyAllocationAuditBundle_eq_ok.mp h'.passed
  have hspent : 0 < c.report.spentSegments := by
    rw [hp.spentSegments]
    exact List.length_pos_iff.mpr hp.spentChain.nonempty
  have hnew : 0 < c.report.newSegments := by
    rw [hp.newSegments]
    exact List.length_pos_iff.mpr hp.newChain.nonempty
  constructor
  · refine Nat.eq_of_mul_eq_mul_left hspent ?_
    rw [hp.spentSegments, ← hp.spentChain.total, hp'.spentChain.total, ← hp'.spentSegments,
      hp.spentSegments]
  · refine Nat.eq_of_mul_eq_mul_left hnew ?_
    rw [hp.newSegments, ← hp.newChain.total, hp'.newChain.total, ← hp'.newSegments, hp.newSegments]

/-- Segments and their running totals stand in the order of their indices, pairs in the
lexicographic order of theirs. -/
structure InSegmentOrder (b : AllocationAuditBundle spent new) : Prop where
  spentTranscripts : b.spentTranscripts.map (fun s => s.segmentIndex.toNat) =
    List.range b.spentTranscripts.length
  newTranscripts : b.newTranscripts.map (fun s => s.segmentIndex.toNat) =
    List.range b.newTranscripts.length
  spentConservation : b.spentConservation.map (fun s => s.transcript.segmentIndex.toNat) =
    List.range b.spentConservation.length
  newConservation : b.newConservation.map (fun s => s.transcript.segmentIndex.toNat) =
    List.range b.newConservation.length
  exclusions : InKeyOrder exclusionKey b.exclusions

lemma map_conservation_index {allocs : ℕ}
    {transcripts : List (AllocationTranscriptSegmentStatement allocs)}
    {conservation : List (AllocationConservationSegmentStatement allocs)}
    (hext : conservation.map AllocationConservationSegmentStatement.transcript = transcripts)
    (hindices : transcripts.map (fun s => s.segmentIndex.toNat) = List.range transcripts.length) :
    conservation.map (fun s => s.transcript.segmentIndex.toNat) =
      List.range conservation.length := by
  rw [← hext, List.map_map, List.length_map] at hindices
  exact hindices

lemma inSegmentOrder_of_passed {b : AllocationAuditBundle spent new}
    {r : AllocationAuditBundleReport} (h : PassedAudit H b r)
    (horder : InKeyOrder exclusionKey b.exclusions) : InSegmentOrder b where
  spentTranscripts := h.spentChain.indices
  newTranscripts := h.newChain.indices
  spentConservation := map_conservation_index h.spentExtends h.spentChain.indices
  newConservation := map_conservation_index h.newExtends h.newChain.indices
  exclusions := horder

/-- Two entries for each segment, the final one, and one for each pair of segments. -/
lemma Certifies.length_proofs {c : AllocationAuditCertificate}
    {b : AllocationAuditBundle spent new} (h : Certifies H verifyStack c b) :
    c.proofs.length = 2*(c.report.spentSegments + c.report.newSegments) + 1 +
      c.report.spentSegments*c.report.newSegments := by
  have hp := verifyAllocationAuditBundle_eq_ok.mp h.passed
  have hspent : b.spentConservation.length = b.spentTranscripts.length := by
    rw [← hp.spentExtends, List.length_map]
  have hnew : b.newConservation.length = b.newTranscripts.length := by
    rw [← hp.newExtends, List.length_map]
  have hlen : c.proofs.length = (allocationAuditManifestEntries b).length := by
    rw [← h.manifest, List.length_map]
  rw [hlen, length_manifestEntries, hp.grid.size, hp.spentSegments, hp.newSegments, hspent, hnew]
  omega

end Uniqueness

/-- A certificate that verifies on its own verifies against one bundle and no other: of the given
arities or any, in segment order, with one entry for each of its statements. -/
theorem self_contained_implies_bundle (H : List UInt8 → Bytes32) (verifyStack : StackVerifier)
    (spent new : ℕ) (c : AllocationAuditCertificate) (r : AllocationAuditBundleReport)
    (h : verifyAllocationAuditCertificateSelfContained H verifyStack spent new c = .ok r) :
    ∃ b : AllocationAuditBundle spent new,
      verifyAllocationAuditCertificate H verifyStack c b = .ok r ∧
      (∀ (spent' new' : ℕ) (b' : AllocationAuditBundle spent' new'),
        verifyAllocationAuditCertificate H verifyStack c b' = .ok r →
          spent' = spent ∧ new' = new ∧ HEq b' b) ∧
      InSegmentOrder b ∧
      c.proofs.length = 2*(r.spentSegments + r.newSegments) + 1 +
        r.spentSegments*r.newSegments := by
  obtain ⟨rfl, statements, final, hc⟩ := selfContained_certifies h
  refine ⟨sortedBundle statements final,
    verifyAllocationAuditCertificate_eq_ok.mpr ⟨rfl, hc⟩, ?_, ?_, hc.length_proofs⟩
  · intro spent' new' b' h'
    have hc' := (verifyAllocationAuditCertificate_eq_ok.mp h').2
    obtain ⟨rfl, rfl⟩ := hc.arities hc'
    exact ⟨rfl, rfl, heq_of_eq (hc.unique hc')⟩
  · exact inSegmentOrder_of_passed (verifyAllocationAuditBundle_eq_ok.mp hc.passed)
      (sortByKey_inKeyOrder exclusionKey _)

theorem self_contained_implies_bundle_sample :
    ∃ (c : AllocationAuditCertificate) (b : AllocationAuditBundle 1 1),
      verifyAllocationAuditCertificateSelfContained Sha256.digest acceptTag 1 1 c = .ok c.report ∧
      verifyAllocationAuditCertificate Sha256.digest acceptTag c b = .ok c.report ∧
      InSegmentOrder b := by
  obtain ⟨c, hc⟩ := build_with_emptyStacks sampleBundle_accepted (by decide)
  have hself := (buildAllocationAuditCertificate_inv hc).selfContained_eq_ok.mpr
    ⟨rfl, sampleBundle_inKeyOrder⟩
  obtain ⟨b, hb, -, horder, -⟩ := self_contained_implies_bundle _ _ 1 1 c _ hself
  exact ⟨c, b, hself, hb, horder⟩

end RgkProtocol.CertificateBundle
