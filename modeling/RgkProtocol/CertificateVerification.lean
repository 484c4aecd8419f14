import RgkProtocol.AuditCertificate
import RgkProtocol.AuditConservation

/-!
# Building and verifying certificates

A certificate lists its entries in the order of the bundle it was built from. The self-contained
verifier sorts the statements it parses and compares the entries with the manifest of the sorted
bundle. Segments are always in order in an accepted bundle; the exclusion pairs may come in any.
-/
namespace RgkProtocol.CertificateVerification
open ByteStrings Hashing CoreTypes Checked LinkedPath AuditStatements AuditBundle AuditManifest
open AuditCertificate AuditConservation AuditOpenings CanonicalEncoding
open CircuitSoundness (sampleAllocation)

section Building
variable (H : List UInt8 → Bytes32) (verifyStack : StackVerifier) {spent new : ℕ}

def checkStackCount (label : String) (got expected : ℕ) : Except String Unit :=
  failIf (got ≠ expected)
    s!"allocation audit certificate has {got} {label} stacks, expected {expected}"

def verifiedAllocationAuditProofEntry (statement : AuditStatement spent new)
    (stack : Groth16PrecompileStack) : Except String AllocationAuditProofEntry := do
  let entry := statement.manifestEntry
  verifyStack entry.kind stack entry.publicInputs
  .ok ⟨entry.kind, entry.spentSegmentIndex, entry.newSegmentIndex, entry.publicInputs, stack⟩

/-- The stacks in the order of the manifest. -/
def allStacks (proofStacks : AllocationAuditBundleStacks) :
    List Groth16PrecompileStack :=
  proofStacks.spentTranscripts ++ (proofStacks.newTranscripts ++ (proofStacks.spentConservation ++
    (proofStacks.newConservation ++ ([proofStacks.finalConservation] ++ proofStacks.exclusions))))

/-- Once the counts agree, pairing the six lists one by one pairs the whole manifest. -/
def allocationAuditCertificateEntries (bundle : AllocationAuditBundle spent new)
    (proofStacks : AllocationAuditBundleStacks) : Except String (List AllocationAuditProofEntry) := do
  checkStackCount "spent transcript" proofStacks.spentTranscripts.length bundle.spentTranscripts.length
  checkStackCount "new transcript" proofStacks.newTranscripts.length bundle.newTranscripts.length
  checkStackCount "spent conservation" proofStacks.spentConservation.length
    bundle.spentConservation.length
  checkStackCount "new conservation" proofStacks.newConservation.length bundle.newConservation.length
  checkStackCount "exclusion" proofStacks.exclusions.length bundle.exclusions.length
  mapEach (fun p => verifiedAllocationAuditProofEntry verifyStack p.1 p.2)
    ((AllocationAuditBundle.statements bundle).zip (allStacks proofStacks))

def buildAllocationAuditCertificate (bundle : AllocationAuditBundle spent new)
    (proofStacks : AllocationAuditBundleStacks) : Except String AllocationAuditCertificate := do
  let report ← verifyAllocationAuditBundle H bundle
  let proofs ← allocationAuditCertificateEntries verifyStack bundle proofStacks
  let certificateId ← allocationAuditCertificateId H report proofs
  .ok ⟨certificateId, report, proofs⟩

end Building

section Parsing
variable (verifyStack : StackVerifier) {spent new : ℕ}

def checkAllocationAuditEntryIndices (index : ℕ) (entry : AllocationAuditProofEntry)
    (expectedSpent expectedNew : Option UInt64) : Except String Unit :=
  failIf (entry.spentSegmentIndex ≠ expectedSpent ∨ entry.newSegmentIndex ≠ expectedNew)
    s!"allocation audit certificate proof entry {index} has inconsistent segment indices"

/-- The statement of one entry; `finalSeen` says whether a final entry came before. -/
def parseEntry (spent new index : ℕ) (finalSeen : Bool) (entry : AllocationAuditProofEntry) :
    Except String (AuditStatement spent new) :=
  match entry.kind with
  | .spentTranscriptSegment => do
      let statement ← parseAllocationTranscriptPublicInputs spent entry.publicInputs
        "allocation audit spent transcript entry"
      failIf (statement.side ≠ .spent)
        s!"allocation audit certificate proof entry {index} has the wrong transcript side"
      checkAllocationAuditEntryIndices index entry (some statement.segmentIndex) none
      .ok (.spentTranscript statement)
  | .newTranscriptSegment => do
      let statement ← parseAllocationTranscriptPublicInputs new entry.publicInputs
        "allocation audit new transcript entry"
      failIf (statement.side ≠ .new)
        s!"allocation audit certificate proof entry {index} has the wrong transcript side"
      checkAllocationAuditEntryIndices index entry none (some statement.segmentIndex)
      .ok (.newTranscript statement)
  | .spentConservationSegment => do
      let statement ← parseAllocationConservationPublicInputs spent entry.publicInputs
        "allocation audit spent conservation entry"
      failIf (statement.transcript.side ≠ .spent)
        s!"allocation audit certificate proof entry {index} has the wrong conservation side"
      checkAllocationAuditEntryIndices index entry (some statement.transcript.segmentIndex) none
      .ok (.spentConservation statement)
  | .newConservationSegment => do
      let statement ← parseAllocationConservationPublicInputs new entry.publicInputs
        "allocation audit new conservation entry"
      failIf (statement.transcript.side ≠ .new)
        s!"allocation audit certificate proof entry {index} has the wrong conservation side"
      checkAllocationAuditEntryIndices index entry none (some statement.transcript.segmentIndex)
      .ok (.newConservation statement)
  | .conservationFinal => do
      failIf (finalSeen = true)
        "allocation audit certificate has duplicate final conservation entries"
      let statement ← parseAllocationConservationFinalPublicInputs entry.publicInputs
        "allocation audit final conservation entry"
      checkAllocationAuditEntryIndices index entry none none
      .ok (.conservationFinal statement)
  | .exclusionSegmentPair => do
      let statement ← parseAllocationExclusionPublicInputs spent new entry.publicInputs
        "allocation audit exclusion pair"
      checkAllocationAuditEntryIndices index entry (some statement.spentSegmentIndex)
        (some statement.newSegmentIndex)
      .ok (.exclusionPair statement)

/-- The loop over the entries: each stack is verified, then its statement parsed. -/
def parseEntries (spent new : ℕ) : ℕ → Bool → List AllocationAuditProofEntry →
    Except String (List (AuditStatement spent new))
  | _, _, [] => .ok []
  | index, finalSeen, entry :: rest => do
      verifyStack entry.kind entry.stack entry.publicInputs
      let statement ← parseEntry spent new index finalSeen entry
      let statements ← parseEntries spent new (index+1)
        (finalSeen || entry.kind = .conservationFinal) rest
      .ok (statement :: statements)

def asSpentTranscript :
    AuditStatement spent new → Option (AllocationTranscriptSegmentStatement spent)
  | .spentTranscript s => some s
  | _ => none

def asNewTranscript :
    AuditStatement spent new → Option (AllocationTranscriptSegmentStatement new)
  | .newTranscript s => some s
  | _ => none

def asSpentConservation :
    AuditStatement spent new → Option (AllocationConservationSegmentStatement spent)
  | .spentConservation s => some s
  | _ => none

def asNewConservation :
    AuditStatement spent new → Option (AllocationConservationSegmentStatement new)
  | .newConservation s => some s
  | _ => none

def asFinal :
    AuditStatement spent new → Option AllocationConservationFinalStatement
  | .conservationFinal s => some s
  | _ => none

def asExclusion :
    AuditStatement spent new → Option (AllocationExclusionSegmentPairStatement spent new)
  | .exclusionPair s => some s
  | _ => none

/-- The order key of an exclusion pair: its spent index, then its new one. -/
def exclusionKey (e : AllocationExclusionSegmentPairStatement spent new) : List ℕ :=
  [e.spentSegmentIndex.toNat, e.newSegmentIndex.toNat]

/-- The parsed statements of each kind, sorted by segment. -/
def sortedBundle (statements : List (AuditStatement spent new))
    (final : AllocationConservationFinalStatement) : AllocationAuditBundle spent new where
  spentTranscripts := sortByKey (fun s => s.segmentIndex.toNat)
    (statements.filterMap asSpentTranscript)
  newTranscripts := sortByKey (fun s => s.segmentIndex.toNat)
    (statements.filterMap asNewTranscript)
  spentConservation := sortByKey (fun s => s.transcript.segmentIndex.toNat)
    (statements.filterMap asSpentConservation)
  newConservation := sortByKey (fun s => s.transcript.segmentIndex.toNat)
    (statements.filterMap asNewConservation)
  finalConservation := final
  exclusions := sortByKey exclusionKey (statements.filterMap asExclusion)

end Parsing

section Verifying
variable (H : List UInt8 → Bytes32) (verifyStack : StackVerifier)

def checkManifestOrder (proofs : List AllocationAuditProofEntry) (expected : List ManifestEntry) :
    Except String Unit := do
  let got := proofs.length
  let count := expected.length
  failIf (proofs.length ≠ expected.length)
    s!"allocation audit certificate has {got} proof entries, expected {count}"
  forEnum (fun index p => failIf (p.1.manifestEntry ≠ p.2)
    s!"allocation audit certificate proof entry {index} is not in deterministic manifest order")
    0 (proofs.zip expected)

def verifyAllocationAuditCertificateSelfContained (spent new : ℕ)
    (certificate : AllocationAuditCertificate) : Except String AllocationAuditBundleReport := do
  checkCertificateId H certificate.certificateId certificate.report certificate.proofs
  let statements ← parseEntries verifyStack spent new 0 false certificate.proofs
  let final ← okOr (statements.findSome? asFinal)
    "allocation audit certificate is missing final conservation entry"
  let bundle := sortedBundle statements final
  let report ← verifyAllocationAuditBundle H bundle
  failIf (certificate.report ≠ report)
    "allocation audit certificate report does not match reconstructed manifest"
  checkManifestOrder certificate.proofs (allocationAuditManifestEntries bundle)
  .ok report

def verifyAllocationAuditCertificateCanonical (spent new : ℕ) (buf : List UInt8) :
    Except String (AllocationAuditCertificate × AllocationAuditBundleReport) := do
  let certificate ← AllocationAuditCertificate.decodeCanonical H buf
  let report ← verifyAllocationAuditCertificateSelfContained H verifyStack spent new certificate
  .ok (certificate, report)

end Verifying

section Entries
variable {verifyStack : StackVerifier} {spent new : ℕ}

/-- The statement is about the side that its kind names. -/
def WellSided : AuditStatement spent new → Prop
  | .spentTranscript s => s.side = .spent
  | .newTranscript s => s.side = .new
  | .spentConservation s => s.transcript.side = .spent
  | .newConservation s => s.transcript.side = .new
  | .conservationFinal _ => True
  | .exclusionPair _ => True

/-- The parsers of the two sides: what was parsed is checked for its side and its indices. -/
lemma parse_sided {α β : Type} {x : Except String α} {a : α} {wrongSide : α → Prop}
    [DecidablePred wrongSide] {message : String} {check : α → Except String Unit} {wrap : α → β}
    (hx : x = .ok a) (hside : ¬wrongSide a) (hcheck : check a = .ok ()) :
    (do let statement ← x
        failIf (wrongSide statement) message
        check statement
        .ok (wrap statement)) = .ok (wrap a) :=
  bind_eq_ok.mpr ⟨a, hx, unit_bind_eq_ok.mpr ⟨failIf_eq_ok.mpr hside,
    unit_bind_eq_ok.mpr ⟨hcheck, rfl⟩⟩⟩

lemma checkEntryIndices_self (index : ℕ) (entry : AllocationAuditProofEntry) :
    checkAllocationAuditEntryIndices index entry entry.spentSegmentIndex entry.newSegmentIndex =
      .ok () := by
  simp [checkAllocationAuditEntryIndices]

lemma parseEntry_of {index : ℕ} {finalSeen : Bool} {entry : AllocationAuditProofEntry}
    {statement : AuditStatement spent new} (hentry : entry.manifestEntry = statement.manifestEntry)
    (hside : WellSided statement) (hfinal : entry.kind = .conservationFinal → finalSeen = false) :
    parseEntry spent new index finalSeen entry = .ok statement := by
  obtain ⟨kind, si, ni, pub, stack⟩ := entry
  obtain ⟨rfl, rfl, rfl, rfl⟩ := ManifestEntry.mk.inj hentry
  cases statement with
  | spentTranscript s =>
    exact parse_sided (parseTranscript_publicInputs s) (not_not.mpr hside)
      (checkEntryIndices_self index _)
  | newTranscript s =>
    exact parse_sided (parseTranscript_publicInputs s) (not_not.mpr hside)
      (checkEntryIndices_self index _)
  | spentConservation s =>
    exact parse_sided (parseConservation_publicInputs s) (not_not.mpr hside)
      (checkEntryIndices_self index _)
  | newConservation s =>
    exact parse_sided (parseConservation_publicInputs s) (not_not.mpr hside)
      (checkEntryIndices_self index _)
  | conservationFinal s =>
    refine unit_bind_eq_ok.mpr ⟨failIf_eq_ok.mpr (by simp [hfinal rfl]), ?_⟩
    refine bind_eq_ok.mpr ⟨s, parseFinal_publicInputs s, ?_⟩
    exact unit_bind_eq_ok.mpr ⟨checkEntryIndices_self index _, rfl⟩
  | exclusionPair s =>
    refine bind_eq_ok.mpr ⟨s, parseExclusion_publicInputs s, ?_⟩
    exact unit_bind_eq_ok.mpr ⟨checkEntryIndices_self index _, rfl⟩

/-- An entry that carries a verified proof of a statement. -/
structure Proves (verifyStack : StackVerifier) (statement : AuditStatement spent new)
    (entry : AllocationAuditProofEntry) : Prop where
  manifest : entry.manifestEntry = statement.manifestEntry
  verified : verifyStack entry.kind entry.stack entry.publicInputs = .ok ()

lemma verifiedEntry_proves {statement : AuditStatement spent new} {stack : Groth16PrecompileStack}
    {entry : AllocationAuditProofEntry}
    (h : verifiedAllocationAuditProofEntry verifyStack statement stack = .ok entry) :
    Proves verifyStack statement entry := by
  obtain ⟨hstack, h⟩ := unit_bind_eq_ok.mp h
  rw [← Except.ok.inj h]
  exact ⟨rfl, hstack⟩

lemma kind_eq_final_iff {statement : AuditStatement spent new} {entry : AllocationAuditProofEntry}
    (h : entry.manifestEntry = statement.manifestEntry) :
    entry.kind = .conservationFinal ↔ (asFinal statement).isSome = true := by
  have hkind : entry.kind = statement.manifestEntry.kind := congrArg ManifestEntry.kind h
  rw [hkind]
  cases statement <;> simp [AuditStatement.manifestEntry, asFinal]

lemma parseEntries_of {statements : List (AuditStatement spent new)}
    {entries : List AllocationAuditProofEntry}
    (h : List.Forall₂ (Proves verifyStack) statements entries)
    (hside : ∀ s ∈ statements, WellSided s) {index : ℕ} {finalSeen : Bool}
    (hfinal : (finalSeen.toNat + (statements.filterMap asFinal).length) ≤ 1) :
    parseEntries verifyStack spent new index finalSeen entries = .ok statements := by
  induction h generalizing index finalSeen with
  | nil => rfl
  | @cons statement entry statements entries hp _ ih =>
    obtain ⟨hs, hrest⟩ := List.forall_mem_cons.mp hside
    have hkind := kind_eq_final_iff hp.manifest
    have hfalse : entry.kind = .conservationFinal → finalSeen = false := by
      intro hk
      obtain ⟨f, hf⟩ := Option.isSome_iff_exists.mp (hkind.mp hk)
      rw [List.filterMap_cons_some hf, List.length_cons] at hfinal
      cases finalSeen
      · rfl
      · simp at hfinal
    have hnext : ((finalSeen || entry.kind = .conservationFinal).toNat +
        (statements.filterMap asFinal).length) ≤ 1 := by
      by_cases hk : entry.kind = .conservationFinal
      · obtain ⟨f, hf⟩ := Option.isSome_iff_exists.mp (hkind.mp hk)
        rw [List.filterMap_cons_some hf, List.length_cons, hfalse hk] at hfinal
        simpa [hk, Nat.add_comm] using hfinal
      · have hf : (asFinal statement) = none := by
          simpa using (not_congr hkind).mp hk
        rw [List.filterMap_cons_none hf] at hfinal
        simpa [hk] using hfinal
    refine unit_bind_eq_ok.mpr ⟨hp.verified, bind_eq_ok.mpr ⟨_, parseEntry_of hp.manifest hs hfalse, ?_⟩⟩
    exact bind_eq_ok.mpr ⟨_, ih hrest hnext, rfl⟩

def publicInputLen : AllocationAuditProofKind → ℕ
  | .spentTranscriptSegment => 128
  | .newTranscriptSegment => 128
  | .spentConservationSegment => 192
  | .newConservationSegment => 192
  | .conservationFinal => 80
  | .exclusionSegmentPair => 232

lemma parseEntry_length {index : ℕ} {finalSeen : Bool} {entry : AllocationAuditProofEntry}
    {statement : AuditStatement spent new}
    (h : parseEntry spent new index finalSeen entry = .ok statement) :
    entry.publicInputs.length = publicInputLen entry.kind := by
  obtain ⟨kind, si, ni, pub, stack⟩ := entry
  -- every parser begins with the check of the width
  cases kind with
  | conservationFinal =>
    obtain ⟨_, h⟩ := unit_bind_eq_ok.mp h
    obtain ⟨s, hs, -⟩ := bind_eq_ok.mp h
    exact not_not.mp (failIf_eq_ok.mp (unit_bind_eq_ok.mp hs).1)
  | _ =>
    obtain ⟨s, hs, -⟩ := bind_eq_ok.mp h
    exact not_not.mp (failIf_eq_ok.mp (unit_bind_eq_ok.mp hs).1)

/-- Every entry that the loop passes has a verified stack and inputs of the right width. -/
lemma parseEntries_inv {index : ℕ} {finalSeen : Bool} {proofs : List AllocationAuditProofEntry}
    {statements : List (AuditStatement spent new)}
    (h : parseEntries verifyStack spent new index finalSeen proofs = .ok statements) :
    ∀ entry ∈ proofs, verifyStack entry.kind entry.stack entry.publicInputs = .ok () ∧
      entry.publicInputs.length = publicInputLen entry.kind := by
  induction proofs generalizing index finalSeen statements with
  | nil => simp
  | cons entry proofs ih =>
    obtain ⟨hstack, h⟩ := unit_bind_eq_ok.mp h
    obtain ⟨statement, hs, h⟩ := bind_eq_ok.mp h
    obtain ⟨rest, hrest, -⟩ := bind_eq_ok.mp h
    exact List.forall_mem_cons.mpr ⟨⟨hstack, parseEntry_length hs⟩, ih hrest⟩

lemma zip_manifest_iff {proofs : List AllocationAuditProofEntry} {expected : List ManifestEntry}
    (hlen : proofs.length = expected.length) :
    (∀ p ∈ proofs.zip expected, p.1.manifestEntry = p.2) ↔
      proofs.map AllocationAuditProofEntry.manifestEntry = expected := by
  induction proofs generalizing expected with
  | nil =>
    have hnil : expected = [] := List.length_eq_zero_iff.mp hlen.symm
    simp [hnil]
  | cons p proofs ih =>
    obtain ⟨e, expected, rfl⟩ := List.exists_cons_of_length_eq_add_one hlen.symm
    rw [List.length_cons, List.length_cons, Nat.add_right_cancel_iff] at hlen
    simp only [List.zip_cons_cons, List.forall_mem_cons, List.map_cons, List.cons.injEq, ih hlen]

lemma checkManifestOrder_eq_ok {proofs : List AllocationAuditProofEntry}
    {expected : List ManifestEntry} :
    checkManifestOrder proofs expected = .ok () ↔
      proofs.map AllocationAuditProofEntry.manifestEntry = expected := by
  have hloop := @forEnum_eq_ok String (AllocationAuditProofEntry × ManifestEntry)
    (fun index p => failIf (p.1.manifestEntry ≠ p.2)
      s!"allocation audit certificate proof entry {index} is not in deterministic manifest order")
    (fun p => p.1.manifestEntry = p.2) (fun _ _ => by rw [failIf_eq_ok, not_not]) 0
    (proofs.zip expected)
  simp only [checkManifestOrder, unit_bind_eq_ok, failIf_eq_ok, ne_eq, not_not] at hloop ⊢
  rw [hloop]
  constructor
  · rintro ⟨hlen, hall⟩
    exact (zip_manifest_iff hlen).mp hall
  · intro heq
    have hlen : proofs.length = expected.length := by rw [← heq, List.length_map]
    exact ⟨hlen, (zip_manifest_iff hlen).mpr heq⟩

end Entries

section Rebuilding
variable {H : List UInt8 → Bytes32} {verifyStack : StackVerifier} {spent new : ℕ}
  {bundle : AllocationAuditBundle spent new} {report : AllocationAuditBundleReport}

/-- The bundle as the verifier rebuilds it. -/
def inOrder (bundle : AllocationAuditBundle spent new) : AllocationAuditBundle spent new :=
  { bundle with exclusions := sortByKey exclusionKey bundle.exclusions }

lemma passedAudit_reorder (h : PassedAudit H bundle report)
    {exclusions : List (AllocationExclusionSegmentPairStatement spent new)}
    (hp : bundle.exclusions.Perm exclusions) : PassedAudit H { bundle with exclusions } report :=
  { h with
    grid := h.grid.perm hp
    exclusionPairs := h.exclusionPairs.trans hp.length_eq }

/-- Segments of a chain are in order, and so are the conservation segments that extend them. -/
lemma sortedBundle_statements (h : PassedAudit H bundle report) :
    sortedBundle (AllocationAuditBundle.statements bundle) bundle.finalConservation =
      inOrder bundle := by
  have hspent := sortByKey_eq_self.mpr (inKeyOrder_of_map_range h.spentChain.indices)
  have hnew := sortByKey_eq_self.mpr (inKeyOrder_of_map_range h.newChain.indices)
  have hspentTotals : sortByKey (fun s => s.transcript.segmentIndex.toNat)
      bundle.spentConservation = bundle.spentConservation := by
    have hindices := h.spentChain.indices
    rw [← h.spentExtends, List.map_map] at hindices
    exact sortByKey_eq_self.mpr (inKeyOrder_of_map_range hindices)
  have hnewTotals : sortByKey (fun s => s.transcript.segmentIndex.toNat)
      bundle.newConservation = bundle.newConservation := by
    have hindices := h.newChain.indices
    rw [← h.newExtends, List.map_map] at hindices
    exact sortByKey_eq_self.mpr (inKeyOrder_of_map_range hindices)
  simp [sortedBundle, inOrder, AllocationAuditBundle.statements, List.filterMap_map,
    List.filterMap_cons, Function.comp_def, asSpentTranscript, asNewTranscript,
    asSpentConservation, asNewConservation, asExclusion, hspent, hnew, hspentTotals, hnewTotals]

lemma wellSided_statements (h : PassedAudit H bundle report) :
    ∀ s ∈ AllocationAuditBundle.statements bundle, WellSided s := by
  have hspent : ∀ s ∈ bundle.spentConservation, s.transcript.side = .spent := fun s hs =>
    (h.spentChain.uniform _ (h.spentExtends ▸ List.mem_map_of_mem hs)).1
  have hnew : ∀ s ∈ bundle.newConservation, s.transcript.side = .new := fun s hs =>
    (h.newChain.uniform _ (h.newExtends ▸ List.mem_map_of_mem hs)).1
  simp only [AllocationAuditBundle.statements, List.forall_mem_append, List.forall_mem_map,
    List.forall_mem_singleton, WellSided]
  exact ⟨fun s hs => (h.spentChain.uniform s hs).1, fun s hs => (h.newChain.uniform s hs).1,
    hspent, hnew, trivial, fun _ _ => trivial⟩

/-- The manifests agree exactly when the pairs already stand in order: the public inputs of a
pair determine it. -/
lemma manifest_inOrder_iff :
    allocationAuditManifestEntries bundle = allocationAuditManifestEntries (inOrder bundle) ↔
      InKeyOrder exclusionKey bundle.exclusions := by
  have hinj : Function.Injective (fun e : AllocationExclusionSegmentPairStatement spent new =>
      (AuditStatement.exclusionPair e).manifestEntry) := by
    intro e f hef
    exact AuditStatement.exclusionPair.inj (AuditStatement.manifestEntry_injective hef)
  simp only [allocationAuditManifestEntries, AllocationAuditBundle.statements, inOrder,
    List.map_append, List.map_map, List.append_cancel_left_eq]
  rw [← sortByKey_eq_self, eq_comm]
  exact (List.map_injective_iff.mpr hinj).eq_iff

/-- What is known of a certificate once it has been built. -/
structure Built (H : List UInt8 → Bytes32) (verifyStack : StackVerifier)
    (bundle : AllocationAuditBundle spent new) (c : AllocationAuditCertificate) : Prop where
  passed : PassedAudit H bundle c.report
  proves : List.Forall₂ (Proves verifyStack) (AllocationAuditBundle.statements bundle) c.proofs
  certificateId : allocationAuditCertificateId H c.report c.proofs = .ok c.certificateId

theorem buildAllocationAuditCertificate_inv {proofStacks : AllocationAuditBundleStacks}
    {c : AllocationAuditCertificate}
    (h : buildAllocationAuditCertificate H verifyStack bundle proofStacks = .ok c) :
    Built H verifyStack bundle c := by
  obtain ⟨report, hreport, h⟩ := bind_eq_ok.mp h
  obtain ⟨proofs, hproofs, h⟩ := bind_eq_ok.mp h
  obtain ⟨certificateId, hid, h⟩ := bind_eq_ok.mp h
  rw [← Except.ok.inj h]
  refine ⟨verifyAllocationAuditBundle_eq_ok.mp hreport, ?_, hid⟩
  simp only [allocationAuditCertificateEntries, checkStackCount, unit_bind_eq_ok, failIf_eq_ok,
    ne_eq, not_not] at hproofs
  obtain ⟨hst, hnt, hsc, hnc, he, hproofs⟩ := hproofs
  have hlen : (AllocationAuditBundle.statements bundle).length = (allStacks proofStacks).length := by
    simp only [AllocationAuditBundle.statements, allStacks, List.length_append, List.length_map,
      List.length_singleton, hst, hnt, hsc, hnc, he]
  have hfst : ((AllocationAuditBundle.statements bundle).zip (allStacks proofStacks)).map Prod.fst =
      AllocationAuditBundle.statements bundle := List.map_fst_zip hlen.le
  rw [← hfst]
  exact List.forall₂_map_left_iff.mpr
    ((mapEach_eq_ok.mp hproofs).imp (fun _ _ hentry => verifiedEntry_proves hentry))

lemma map_manifestEntry_of_proves {statements : List (AuditStatement spent new)}
    {proofs : List AllocationAuditProofEntry}
    (h : List.Forall₂ (Proves verifyStack) statements proofs) :
    proofs.map AllocationAuditProofEntry.manifestEntry =
      statements.map AuditStatement.manifestEntry := by
  induction h with
  | nil => rfl
  | cons hp _ ih => rw [List.map_cons, List.map_cons, hp.manifest, ih]

/-- Everything but the comparison with the manifest succeeds on a certificate that was built. -/
theorem Built.selfContained_eq_ok {c : AllocationAuditCertificate}
    (h : Built H verifyStack bundle c) {r : AllocationAuditBundleReport} :
    verifyAllocationAuditCertificateSelfContained H verifyStack spent new c = .ok r ↔
      r = c.report ∧ InKeyOrder exclusionKey bundle.exclusions := by
  have hid : checkCertificateId H c.certificateId c.report c.proofs = .ok () :=
    bind_eq_ok.mpr ⟨_, h.certificateId, by simp⟩
  have hfinals : (AllocationAuditBundle.statements bundle).filterMap asFinal =
      [bundle.finalConservation] := by
    simp [AllocationAuditBundle.statements, List.filterMap_map, Function.comp_def, asFinal]
  have hparse : parseEntries verifyStack spent new 0 false c.proofs =
      .ok (AllocationAuditBundle.statements bundle) :=
    parseEntries_of h.proves (wellSided_statements h.passed) (by simp [hfinals])
  have hfinal : (AllocationAuditBundle.statements bundle).findSome? asFinal =
      some bundle.finalConservation := by
    rw [← List.head?_filterMap, hfinals, List.head?_cons]
  have hbundle : verifyAllocationAuditBundle H (inOrder bundle) = .ok c.report :=
    verifyAllocationAuditBundle_eq_ok.mpr (passedAudit_reorder h.passed (sortByKey_perm _ _).symm)
  have horder : checkManifestOrder c.proofs (allocationAuditManifestEntries (inOrder bundle)) =
      .ok () ↔ InKeyOrder exclusionKey bundle.exclusions := by
    rw [checkManifestOrder_eq_ok, map_manifestEntry_of_proves h.proves]
    exact manifest_inOrder_iff
  simp only [verifyAllocationAuditCertificateSelfContained, bind_eq_ok, hid, hparse, hfinal,
    okOr_eq_ok, Except.ok.injEq, Option.some.injEq, exists_eq_left', true_and,
    sortedBundle_statements h.passed, hbundle, failIf_eq_ok, ne_eq, not_true_eq_false,
    not_false_eq_true, exists_const, horder]
  rw [and_comm, eq_comm]

end Rebuilding

section Sizes
variable {H : List UInt8 → Bytes32} {verifyStack : StackVerifier} {spent new : ℕ}
  {bundle : AllocationAuditBundle spent new}

/-- The parts of a stack stay within the limits of the encoding. -/
structure StackFits (stack : Groth16PrecompileStack) : Prop where
  verifyingKey : stack.verifyingKey.length ≤ maxBlobBytes
  proof : stack.proof.length ≤ maxBlobBytes
  count : stack.publicInputs.length ≤ maxAllocationAuditStackPublicInputs
  inputs : ∀ input ∈ stack.publicInputs, input.length ≤ maxBlobBytes

lemma writeCertificateBlob_ok (label : String) {bytes : List UInt8}
    (h : bytes.length ≤ maxBlobBytes) : ∃ x, writeCertificateBlob label bytes = .ok x :=
  ⟨_, unit_bind_eq_ok.mpr ⟨failIf_eq_ok.mpr (not_lt.mpr h), rfl⟩⟩

lemma writeCertificateLen_ok (label : String) {value max : ℕ} (h : value ≤ max)
    (hmax : max < 2^32) : ∃ x, writeCertificateLen label value max = .ok x :=
  ⟨_, unit_bind_eq_ok.mpr ⟨failIf_eq_ok.mpr (not_lt.mpr h),
    unit_bind_eq_ok.mpr ⟨failIf_eq_ok.mpr (by omega), rfl⟩⟩⟩

lemma writeUsizeAsU64_ok (label : String) {value : ℕ} (h : value < 2^64) :
    ∃ x, writeUsizeAsU64 label value = .ok x :=
  ⟨_, unit_bind_eq_ok.mpr ⟨failIf_eq_ok.mpr (by omega), rfl⟩⟩

lemma length_publicInputs_le (statement : AuditStatement spent new) :
    statement.manifestEntry.publicInputs.length ≤ 232 := by
  cases statement <;> simp only [AuditStatement.manifestEntry, length_transcriptInputs,
    length_conservationInputs, length_finalInputs, length_exclusionInputs] <;> omega

/-- The entry of a statement with a given stack. -/
def proofEntry (statement : AuditStatement spent new) (stack : Groth16PrecompileStack) :
    AllocationAuditProofEntry :=
  ⟨statement.manifestEntry.kind, statement.manifestEntry.spentSegmentIndex,
    statement.manifestEntry.newSegmentIndex, statement.manifestEntry.publicInputs, stack⟩

lemma encodeProofEntry_ok (statement : AuditStatement spent new) {stack : Groth16PrecompileStack}
    (h : StackFits stack) :
    ∃ x, encodeAllocationAuditProofEntry (proofEntry statement stack) = .ok x := by
  obtain ⟨p, hp⟩ := writeCertificateBlob_ok "allocation audit public inputs"
    ((length_publicInputs_le statement).trans (by decide))
  obtain ⟨k, hk⟩ := writeCertificateBlob_ok "allocation audit verifying key" h.verifyingKey
  obtain ⟨q, hq⟩ := writeCertificateBlob_ok "allocation audit proof" h.proof
  obtain ⟨n, hn⟩ := writeCertificateLen_ok "allocation audit stack public inputs" h.count
    (by decide)
  obtain ⟨i, hi⟩ := mapEach_ok (fun input hinput =>
    writeCertificateBlob_ok "allocation audit stack public input" (h.inputs input hinput))
  exact ⟨_, bind_eq_ok.mpr ⟨p, hp, bind_eq_ok.mpr ⟨k, hk, bind_eq_ok.mpr ⟨q, hq,
    bind_eq_ok.mpr ⟨n, hn, bind_eq_ok.mpr ⟨i, hi, rfl⟩⟩⟩⟩⟩⟩

lemma encodeReport_ok {report : AllocationAuditBundleReport}
    (h : PassedAudit H bundle report) : ∃ x, encodeAllocationAuditReport report = .ok x := by
  have hspent : report.spentSegments < 2^64 := by
    rw [h.spentSegments]
    refine lt_of_le_of_lt (Nat.le_mul_of_pos_right _ (Nat.pos_of_ne_zero h.spentArity)) ?_
    exact h.spentChain.total ▸ UInt64.toNat_lt _
  have hnew : report.newSegments < 2^64 := by
    rw [h.newSegments]
    refine lt_of_le_of_lt (Nat.le_mul_of_pos_right _ (Nat.pos_of_ne_zero h.newArity)) ?_
    exact h.newChain.total ▸ UInt64.toNat_lt _
  have hpairs : report.exclusionPairs < 2^64 := by
    rw [h.exclusionPairs, h.grid.size]
    exact h.grid.fits
  obtain ⟨s, hs⟩ := writeUsizeAsU64_ok "spent segment count" hspent
  obtain ⟨n, hn⟩ := writeUsizeAsU64_ok "new segment count" hnew
  obtain ⟨e, he⟩ := writeUsizeAsU64_ok "exclusion pair count" hpairs
  exact ⟨_, bind_eq_ok.mpr ⟨s, hs, bind_eq_ok.mpr ⟨n, hn, bind_eq_ok.mpr ⟨e, he, rfl⟩⟩⟩⟩

lemma certificateId_ok (H : List UInt8 → Bytes32) {report : AllocationAuditBundleReport}
    {proofs : List AllocationAuditProofEntry}
    (hreport : ∃ x, encodeAllocationAuditReport report = .ok x)
    (hcount : proofs.length ≤ maxAllocationAuditCertificateProofEntries)
    (hproofs : ∀ e ∈ proofs, ∃ x, encodeAllocationAuditProofEntry e = .ok x) :
    ∃ certificateId, allocationAuditCertificateId H report proofs = .ok certificateId := by
  obtain ⟨r, hr⟩ := hreport
  obtain ⟨n, hn⟩ := writeCertificateLen_ok "allocation audit certificate proof entries" hcount
    (by decide)
  obtain ⟨es, hes⟩ := mapEach_ok hproofs
  have hbody : allocationAuditCertificateBody report proofs = .ok (r ++ (n ++ es.flatten)) :=
    bind_eq_ok.mpr ⟨r, hr, bind_eq_ok.mpr ⟨n, hn, bind_eq_ok.mpr ⟨es, hes, rfl⟩⟩⟩
  exact ⟨_, bind_eq_ok.mpr ⟨_, hbody, rfl⟩⟩

/-- The stacks of a bundle, one chosen for each statement. -/
def stacksFor (bundle : AllocationAuditBundle spent new)
    (stackFor : AuditStatement spent new → Groth16PrecompileStack) :
    AllocationAuditBundleStacks where
  spentTranscripts := bundle.spentTranscripts.map (fun s => stackFor (.spentTranscript s))
  newTranscripts := bundle.newTranscripts.map (fun s => stackFor (.newTranscript s))
  spentConservation := bundle.spentConservation.map (fun s => stackFor (.spentConservation s))
  newConservation := bundle.newConservation.map (fun s => stackFor (.newConservation s))
  finalConservation := stackFor (.conservationFinal bundle.finalConservation)
  exclusions := bundle.exclusions.map (fun s => stackFor (.exclusionPair s))

/-- An accepted bundle of moderate size is certified by any stacks that verify and fit. -/
theorem buildAllocationAuditCertificate_of {report : AllocationAuditBundleReport}
    {stackFor : AuditStatement spent new → Groth16PrecompileStack}
    (hreport : verifyAllocationAuditBundle H bundle = .ok report)
    (hverified : ∀ s ∈ AllocationAuditBundle.statements bundle,
      verifyStack s.manifestEntry.kind (stackFor s) s.manifestEntry.publicInputs = .ok ())
    (hfits : ∀ s ∈ AllocationAuditBundle.statements bundle, StackFits (stackFor s))
    (hcount : (AllocationAuditBundle.statements bundle).length ≤
      maxAllocationAuditCertificateProofEntries) :
    ∃ c, buildAllocationAuditCertificate H verifyStack bundle (stacksFor bundle stackFor) = .ok c ∧
      c.proofs = (AllocationAuditBundle.statements bundle).map
        (fun s => proofEntry s (stackFor s)) := by
  have hall : allStacks (stacksFor bundle stackFor) =
      (AllocationAuditBundle.statements bundle).map stackFor := by
    simp [allStacks, stacksFor, AllocationAuditBundle.statements, Function.comp_def]
  have hzip : (AllocationAuditBundle.statements bundle).zip (allStacks (stacksFor bundle stackFor)) =
      (AllocationAuditBundle.statements bundle).map (fun s => (s, stackFor s)) := by
    rw [hall]
    nth_rewrite 1 [← List.map_id (AllocationAuditBundle.statements bundle)]
    exact List.zip_map'
  have hentries : allocationAuditCertificateEntries verifyStack bundle (stacksFor bundle stackFor) =
      .ok ((AllocationAuditBundle.statements bundle).map (fun s => proofEntry s (stackFor s))) := by
    have hcounts : ∀ (label : String) (n : ℕ), checkStackCount label n n = .ok () := by
      simp [checkStackCount]
    simp only [allocationAuditCertificateEntries, stacksFor, List.length_map, hcounts]
    refine mapEach_eq_ok.mpr ?_
    rw [← stacksFor, hzip, List.forall₂_map_left_iff, List.forall₂_map_right_iff, List.forall₂_same]
    exact fun s hs => unit_bind_eq_ok.mpr ⟨hverified s hs, rfl⟩
  have hencode : ∀ e ∈ (AllocationAuditBundle.statements bundle).map
      (fun s => proofEntry s (stackFor s)), ∃ x, encodeAllocationAuditProofEntry e = .ok x := by
    intro e he
    obtain ⟨s, hs, rfl⟩ := List.mem_map.mp he
    exact encodeProofEntry_ok s (hfits s hs)
  obtain ⟨certificateId, hid⟩ := certificateId_ok H
    (encodeReport_ok (verifyAllocationAuditBundle_eq_ok.mp hreport)) (by simpa using hcount) hencode
  exact ⟨_, bind_eq_ok.mpr ⟨report, hreport, bind_eq_ok.mpr ⟨_, hentries,
    bind_eq_ok.mpr ⟨certificateId, hid, rfl⟩⟩⟩, rfl⟩

end Sizes

section Samples

def zkTagGroth16 : UInt8 := 0x20

def emptyAllocationAuditStack : Groth16PrecompileStack := ⟨zkTagGroth16, [], [], []⟩

lemma emptyStack_fits : StackFits emptyAllocationAuditStack := by
  refine ⟨?_, ?_, ?_, ?_⟩ <;> simp [emptyAllocationAuditStack]

def sampleBundle : AllocationAuditBundle 1 1 := sampleSha.bundle

/-- The same statements, with the two exclusion pairs exchanged. -/
def exchangedBundle : AllocationAuditBundle 1 1 :=
  { sampleBundle with exclusions := sampleBundle.exclusions.reverse }

/-- A predicate of stacks that accepts every one with the right tag. -/
def acceptTag : StackVerifier := fun _ stack _ => failIf (stack.tag ≠ zkTagGroth16) "wrong tag"

lemma sampleBundle_accepted : ∃ r, verifyAllocationAuditBundle Sha256.digest sampleBundle = .ok r :=
  ⟨_, sampleAudit_accepted _ rfl⟩

lemma exchangedBundle_accepted :
    ∃ r, verifyAllocationAuditBundle Sha256.digest exchangedBundle = .ok r := by
  obtain ⟨r, hr⟩ := sampleBundle_accepted
  exact ⟨r, verifyAllocationAuditBundle_eq_ok.mpr
    (passedAudit_reorder (verifyAllocationAuditBundle_eq_ok.mp hr) (List.reverse_perm _).symm)⟩

lemma build_with_emptyStacks {bundle : AllocationAuditBundle 1 1}
    (h : ∃ r, verifyAllocationAuditBundle Sha256.digest bundle = .ok r)
    (hcount : (AllocationAuditBundle.statements bundle).length ≤
      maxAllocationAuditCertificateProofEntries) :
    ∃ c, buildAllocationAuditCertificate Sha256.digest acceptTag bundle
      (stacksFor bundle (fun _ => emptyAllocationAuditStack)) = .ok c := by
  obtain ⟨r, hr⟩ := h
  obtain ⟨c, hc, -⟩ := @buildAllocationAuditCertificate_of _ acceptTag _ _ _ _
    (fun _ => emptyAllocationAuditStack) hr (fun _ _ => rfl) (fun _ _ => emptyStack_fits) hcount
  exact ⟨c, hc⟩

lemma sampleBundle_inKeyOrder : InKeyOrder exclusionKey sampleBundle.exclusions := by
  simp [InKeyOrder, exclusionKey, sampleBundle, sampleSha, AuditAssignment.bundle, sampleAudit,
    pairStatement, firstSpent, secondSpent, onlyNew, sampleSegment]
  decide

lemma exchangedBundle_not_inKeyOrder : ¬InKeyOrder exclusionKey exchangedBundle.exclusions := by
  simp [InKeyOrder, exclusionKey, exchangedBundle, sampleBundle, sampleSha, AuditAssignment.bundle,
    sampleAudit, pairStatement, firstSpent, secondSpent, onlyNew, sampleSegment]
  decide

end Samples

/-- A certificate that was built verifies on its own, and from its canonical bytes, exactly when
the exclusion pairs of its bundle were listed in order. -/
theorem built_certificate_verifies_iff (H : List UInt8 → Bytes32) (verifyStack : StackVerifier)
    {spent new : ℕ} (bundle : AllocationAuditBundle spent new)
    (proofStacks : AllocationAuditBundleStacks) (c : AllocationAuditCertificate)
    (hbuild : buildAllocationAuditCertificate H verifyStack bundle proofStacks = .ok c) :
    (verifyAllocationAuditCertificateSelfContained H verifyStack spent new c = .ok c.report ∧
      ∀ bytes, c.encodeCanonical H = .ok bytes →
        verifyAllocationAuditCertificateCanonical H verifyStack spent new bytes =
          .ok (c, c.report)) ↔
      InKeyOrder exclusionKey bundle.exclusions := by
  have hiff := @Built.selfContained_eq_ok _ _ _ _ _ c (buildAllocationAuditCertificate_inv hbuild)
    c.report
  constructor
  · rintro ⟨hself, -⟩
    exact (hiff.mp hself).2
  · intro horder
    have hself := hiff.mpr ⟨rfl, horder⟩
    refine ⟨hself, fun bytes hbytes => ?_⟩
    exact bind_eq_ok.mpr ⟨c, AllocationAuditCertificate.decode_encode hbytes,
      bind_eq_ok.mpr ⟨_, hself, rfl⟩⟩

/-- The pairs stand in order: the certificate verifies. -/
theorem built_certificate_verifies_iff_sample :
    ∃ c, buildAllocationAuditCertificate Sha256.digest acceptTag sampleBundle
        (stacksFor sampleBundle (fun _ => emptyAllocationAuditStack)) = .ok c ∧
      verifyAllocationAuditCertificateSelfContained Sha256.digest acceptTag 1 1 c = .ok c.report := by
  obtain ⟨c, hc⟩ := build_with_emptyStacks sampleBundle_accepted (by decide)
  exact ⟨c, hc, ((built_certificate_verifies_iff _ _ _ _ c hc).mpr sampleBundle_inKeyOrder).1⟩

/-- The pairs are exchanged: every statement holds and the certificate is built, but it never
verifies. -/
theorem unordered_certificate_refused :
    sampleSha.Satisfies Sha256.digest ∧
    ∃ c, buildAllocationAuditCertificate Sha256.digest acceptTag exchangedBundle
        (stacksFor exchangedBundle (fun _ => emptyAllocationAuditStack)) = .ok c ∧
      ∀ r, verifyAllocationAuditCertificateSelfContained Sha256.digest acceptTag 1 1 c ≠ .ok r := by
  obtain ⟨c, hc⟩ := build_with_emptyStacks exchangedBundle_accepted (by decide)
  refine ⟨sampleSha_satisfies, c, hc, fun r hr => ?_⟩
  exact exchangedBundle_not_inKeyOrder
    ((buildAllocationAuditCertificate_inv hc).selfContained_eq_ok.mp hr).2

end RgkProtocol.CertificateVerification
