import RgkProtocol.CertificateVerification
import RgkProtocol.KeyedProofs

/-!
# What an accepted certificate proves

Each entry of a certificate brings its own verifying key. If the keys were set up for the audit
circuits, every statement of an accepted certificate has a witness. Nothing in the verifier looks
at where a key comes from: with a key for a relation that always holds, a certificate of any
consistent bundle is accepted.
-/
namespace RgkProtocol.CertificateSoundness
open ByteStrings FieldPacking Hashing CoreTypes Checked CanonicalEncoding CircuitGadgets
open AuditStatements AuditCircuits AuditMeaning AuditBundle AuditManifest AuditCertificate AuditOpenings
open AuditConservation CertificateVerification KeyedProofs
open CircuitSoundness (sampleAllocation)

section Verifier
variable (P : ProofSystem Fr)

def kindLabel : AllocationAuditProofKind → String
  | .spentTranscriptSegment => "spent transcript segment"
  | .newTranscriptSegment => "new transcript segment"
  | .spentConservationSegment => "spent conservation segment"
  | .newConservationSegment => "new conservation segment"
  | .conservationFinal => "conservation final"
  | .exclusionSegmentPair => "exclusion segment pair"

def publicInputsAsFr (publicInputs : List UInt8) : List Fr := packBytes bn254 publicInputs

/-- Serialising a field element does not fail; only the width of the result is checked. -/
def publicInputsAsUncompressedFrBytesWithLen (publicInputs : List UInt8) (expectedLen : ℕ) :
    Except String (List (List UInt8)) := do
  let got := publicInputs.length
  failIf (publicInputs.length ≠ expectedLen)
    s!"expected {expectedLen} public-input bytes, got {got}"
  mapEach (fun fr => do
    let bytes := P.serializeInput fr
    let len := bytes.length
    failIf (bytes.length ≠ 32) s!"expected 32-byte BN254 Fr serialization, got {len}"
    .ok bytes) (publicInputsAsFr publicInputs)

def groth16StackPublicInputsAsFr (stack : Groth16PrecompileStack)
    (kind : AllocationAuditProofKind) : Except String (List Fr) :=
  mapEach (fun p => do
    let label := kindLabel kind
    let index := p.2
    let len := p.1.length
    failIf (p.1.length ≠ 32)
      s!"allocation audit {label} public input {index} has {len} bytes, expected 32"
    (P.deserializeInput p.1).mapError
      (fun e => s!"allocation audit {label} public input {index} deserialize: {e}"))
    stack.publicInputs.zipIdx

def verifyGroth16StackAgainstPublicInputs (kind : AllocationAuditProofKind)
    (stack : Groth16PrecompileStack) (expectedPublicInputs : List UInt8) :
    Except String Unit := do
  let label := kindLabel kind
  failIf (stack.tag ≠ zkTagGroth16) s!"allocation audit {label} stack has the wrong Groth16 tag"
  let expectedStackInputs ← publicInputsAsUncompressedFrBytesWithLen P expectedPublicInputs
    expectedPublicInputs.length
  failIf (stack.publicInputs ≠ expectedStackInputs)
    s!"allocation audit {label} stack public inputs do not match the statement"
  let vk ← (P.deserializeKey stack.verifyingKey).mapError
    (fun e => s!"allocation audit {label} verifying key: {e}")
  let proof ← (P.deserializeProof stack.proof).mapError
    (fun e => s!"allocation audit {label} proof: {e}")
  let publicInputs ← groth16StackPublicInputsAsFr P stack kind
  let verified ← (P.verify vk publicInputs proof).mapError (fun e => s!"verify: {e}")
  failIf (verified = false) s!"allocation audit {label} Groth16 proof did not verify"

end Verifier

section Stacks
variable {P : ProofSystem Fr}

lemma serializedInputs_eq_ok {pub : List UInt8} {inputs : List (List UInt8)} :
    publicInputsAsUncompressedFrBytesWithLen P pub pub.length = .ok inputs ↔
      inputs = (publicInputsAsFr pub).map P.serializeInput := by
  simp only [publicInputsAsUncompressedFrBytesWithLen, unit_bind_eq_ok, failIf_eq_ok,
    mapEach_eq_ok, P.length_serializeInput, Except.ok.injEq, ne_eq, not_true_eq_false,
    not_false_eq_true, true_and]
  rw [← List.forall₂_map_left_iff (R := Eq), List.forall₂_eq_eq_eq, eq_comm]

lemma stackInputs_of {stack : Groth16PrecompileStack} {kind : AllocationAuditProofKind}
    {frs : List Fr} (h : stack.publicInputs = frs.map P.serializeInput) :
    groth16StackPublicInputsAsFr P stack kind = .ok frs := by
  refine mapEach_eq_ok.mpr ?_
  rw [h, List.zipIdx_map, List.forall₂_map_left_iff]
  have hfst : frs.zipIdx.map Prod.fst = frs := List.zipIdx_map_fst 0 frs
  nth_rewrite 2 [← hfst]
  rw [List.forall₂_map_right_iff, List.forall₂_same]
  intro p _
  refine unit_bind_eq_ok.mpr ⟨failIf_eq_ok.mpr ?_, mapError_eq_ok.mpr ?_⟩
  · simp [P.length_serializeInput]
  · exact P.deserialize_serialize p.1

/-- A stack passes exactly when it repeats the statement's inputs and its own key accepts its
proof for them. -/
theorem verifyStack_eq_ok {kind : AllocationAuditProofKind} {stack : Groth16PrecompileStack}
    {pub : List UInt8} :
    verifyGroth16StackAgainstPublicInputs P kind stack pub = .ok () ↔
      stack.tag = zkTagGroth16 ∧
      stack.publicInputs = (publicInputsAsFr pub).map P.serializeInput ∧
      ∃ vk proof, P.deserializeKey stack.verifyingKey = .ok vk ∧
        P.deserializeProof stack.proof = .ok proof ∧
        P.verify vk (publicInputsAsFr pub) proof = .ok true := by
  simp only [verifyGroth16StackAgainstPublicInputs, bind_eq_ok, failIf_eq_ok, mapError_eq_ok,
    serializedInputs_eq_ok, ne_eq, not_not]
  constructor
  · rintro ⟨-, htag, _, rfl, -, hinputs, vk, hvk, proof, hproof, frs, hfrs, verified, hverify, hv⟩
    rw [stackInputs_of hinputs] at hfrs
    rw [← Except.ok.inj hfrs, eq_true_of_ne_false hv] at hverify
    exact ⟨htag, hinputs, vk, proof, hvk, hproof, hverify⟩
  · rintro ⟨htag, hinputs, vk, proof, hvk, hproof, hverify⟩
    exact ⟨(), htag, _, rfl, (), hinputs, vk, hvk, proof, hproof, _, stackInputs_of hinputs, true,
      hverify, by simp⟩

end Stacks

section Circuits
variable (H : List UInt8 → Bytes32) (spent new : ℕ)

/-- The assignments of the circuit of a kind. -/
def CircuitWitness : AllocationAuditProofKind → Type
  | .spentTranscriptSegment => Assigned (AllocationTranscriptSegmentWitness spent)
  | .newTranscriptSegment => Assigned (AllocationTranscriptSegmentWitness new)
  | .spentConservationSegment => Assigned (AllocationConservationSegmentWitness spent)
  | .newConservationSegment => Assigned (AllocationConservationSegmentWitness new)
  | .conservationFinal => Assigned AllocationConservationFinalWitness
  | .exclusionSegmentPair => Assigned (AllocationExclusionSegmentPairWitness spent new)

/-- The circuit of a kind, at the arities of the audit. -/
def auditCircuit : (kind : AllocationAuditProofKind) → List UInt8 →
    CircuitWitness spent new kind → Except SynthesisError Bool
  | .spentTranscriptSegment => AllocationTranscriptSegmentCircuit.generateConstraints H
  | .newTranscriptSegment => AllocationTranscriptSegmentCircuit.generateConstraints H
  | .spentConservationSegment => AllocationConservationSegmentCircuit.generateConstraints H
  | .newConservationSegment => AllocationConservationSegmentCircuit.generateConstraints H
  | .conservationFinal => AllocationConservationFinalCircuit.generateConstraints H
  | .exclusionSegmentPair => AllocationExclusionSegmentPairCircuit.generateConstraints H

/-- The relation of the circuit of a kind between public field elements and assignments. -/
def auditRelation (kind : AllocationAuditProofKind) : Relation Fr where
  Witness := CircuitWitness spent new kind
  Holds x a := ∃ pub, publicInputsAsFr pub = x ∧ auditCircuit H spent new kind pub a = .ok true

/-- The public inputs of an entry have a witness for the circuit of its kind. -/
def HasWitness (entry : AllocationAuditProofEntry) : Prop :=
  ∃ a, auditCircuit H spent new entry.kind entry.publicInputs a = .ok true

/-- The key of an entry was set up for the circuit of its kind. -/
def KeyForCircuit (P : ProofSystem Fr) (entry : AllocationAuditProofEntry) : Prop :=
  ∃ vk, P.deserializeKey entry.stack.verifyingKey = .ok vk ∧
    P.SetUpFor vk (auditRelation H spent new entry.kind)

end Circuits

section Soundness
variable {H : List UInt8 → Bytes32} {spent new : ℕ} {P : ProofSystem Fr}

lemma synthesize_not_refused {refused : Prop} [Decidable refused]
    {publicInputs publicBytes : List UInt8} {layout : List UInt8 → Prop} [DecidablePred layout]
    {body : List UInt8 → Except SynthesisError Bool} {b : Bool}
    (h : synthesize refused publicInputs publicBytes layout body = .ok b) : ¬refused :=
  failIf_eq_ok.mp (unit_bind_eq_ok.mp h).1

lemma transcriptCircuit_length {allocs : ℕ} {pub : List UInt8}
    {a : Assigned (AllocationTranscriptSegmentWitness allocs)}
    (h : AllocationTranscriptSegmentCircuit.generateConstraints H pub a = .ok true) :
    pub.length = 128 := by
  unfold AllocationTranscriptSegmentCircuit.generateConstraints at h
  exact not_not.mp (not_or.mp (not_or.mp (synthesize_not_refused h)).2).1

lemma conservationCircuit_length {allocs : ℕ} {pub : List UInt8}
    {a : Assigned (AllocationConservationSegmentWitness allocs)}
    (h : AllocationConservationSegmentCircuit.generateConstraints H pub a = .ok true) :
    pub.length = 192 := by
  unfold AllocationConservationSegmentCircuit.generateConstraints at h
  exact not_not.mp (not_or.mp (not_or.mp (synthesize_not_refused h)).2).1

lemma finalCircuit_length {pub : List UInt8} {a : Assigned AllocationConservationFinalWitness}
    (h : AllocationConservationFinalCircuit.generateConstraints H pub a = .ok true) :
    pub.length = 80 := by
  unfold AllocationConservationFinalCircuit.generateConstraints at h
  exact not_not.mp (synthesize_not_refused h)

lemma exclusionCircuit_length {pub : List UInt8}
    {a : Assigned (AllocationExclusionSegmentPairWitness spent new)}
    (h : AllocationExclusionSegmentPairCircuit.generateConstraints H pub a = .ok true) :
    pub.length = 232 := by
  unfold AllocationExclusionSegmentPairCircuit.generateConstraints at h
  exact not_not.mp (not_or.mp (not_or.mp (not_or.mp (synthesize_not_refused h)).2).2).1

lemma auditCircuit_length {kind : AllocationAuditProofKind} {pub : List UInt8}
    {a : CircuitWitness spent new kind} (h : auditCircuit H spent new kind pub a = .ok true) :
    pub.length = publicInputLen kind := by
  cases kind with
  | spentTranscriptSegment | newTranscriptSegment => exact transcriptCircuit_length h
  | spentConservationSegment | newConservationSegment => exact conservationCircuit_length h
  | conservationFinal => exact finalCircuit_length h
  | exclusionSegmentPair => exact exclusionCircuit_length h

/-- A verified stack under a key for the circuit shows a witness for the very bytes of the entry:
packing into field elements loses nothing. -/
lemma hasWitness_of_verified {entry : AllocationAuditProofEntry}
    (hstack : verifyGroth16StackAgainstPublicInputs P entry.kind entry.stack entry.publicInputs =
      .ok ())
    (hlen : entry.publicInputs.length = publicInputLen entry.kind)
    (hkey : KeyForCircuit H spent new P entry) : HasWitness H spent new entry := by
  obtain ⟨-, -, vk, proof, hvk, -, hverify⟩ := verifyStack_eq_ok.mp hstack
  obtain ⟨vk', hvk', hsetup⟩ := hkey
  obtain rfl : vk = vk' := Except.ok.inj (hvk.symm.trans hvk')
  obtain ⟨a, pub, hpub, hcircuit⟩ := P.sound _ _ _ _ hsetup hverify
  have heq : pub = entry.publicInputs :=
    packBytes_injective pow_le_bn254 ((auditCircuit_length hcircuit).trans hlen.symm) hpub
  exact ⟨a, heq ▸ hcircuit⟩

lemma certificate_of_stacks {verifyStack : StackVerifier} {bundle : AllocationAuditBundle spent new}
    {report : AllocationAuditBundleReport}
    {stackFor : AuditStatement spent new → Groth16PrecompileStack}
    (hreport : verifyAllocationAuditBundle H bundle = .ok report)
    (horder : InKeyOrder exclusionKey bundle.exclusions)
    (hcount : (AllocationAuditBundle.statements bundle).length ≤
      maxAllocationAuditCertificateProofEntries)
    (hverified : ∀ s ∈ AllocationAuditBundle.statements bundle,
      verifyStack s.manifestEntry.kind (stackFor s) s.manifestEntry.publicInputs = .ok ())
    (hfits : ∀ s ∈ AllocationAuditBundle.statements bundle, StackFits (stackFor s)) :
    ∃ c, verifyAllocationAuditCertificateSelfContained H verifyStack spent new c = .ok c.report ∧
      c.proofs = (AllocationAuditBundle.statements bundle).map
        (fun s => proofEntry s (stackFor s)) := by
  obtain ⟨c, hc, hproofs⟩ := buildAllocationAuditCertificate_of hreport hverified hfits hcount
  exact ⟨c, (buildAllocationAuditCertificate_inv hc).selfContained_eq_ok.mpr ⟨rfl, horder⟩, hproofs⟩

/-- The stack of a statement under given key and proof bytes. -/
def stackUnder (P : ProofSystem Fr) (keyBytes proofBytes : List UInt8)
    (statement : AuditStatement spent new) : Groth16PrecompileStack :=
  ⟨zkTagGroth16, keyBytes, proofBytes,
    (publicInputsAsFr statement.manifestEntry.publicInputs).map P.serializeInput⟩

lemma stackUnder_fits {keyBytes proofBytes : List UInt8} (statement : AuditStatement spent new)
    (hkey : keyBytes.length ≤ maxBlobBytes) (hproof : proofBytes.length ≤ maxBlobBytes) :
    StackFits (stackUnder P keyBytes proofBytes statement) := by
  refine ⟨hkey, hproof, ?_, ?_⟩
  · have hlen := length_publicInputs_le statement
    have hchunks : ∀ (n : ℕ) (l : List UInt8), (chunks 8 n l).length = n := by
      intro n
      induction n with
      | zero => simp [chunks]
      | succ n ih => simp [chunks, ih]
    have hmax : (232+7)/8 ≤ maxAllocationAuditStackPublicInputs := by decide
    simp only [stackUnder, publicInputsAsFr, packBytes, List.length_map, hchunks]
    omega
  · have hmax : 32 ≤ maxBlobBytes := by decide
    intro input hinput
    obtain ⟨x, -, rfl⟩ := List.mem_map.mp hinput
    rw [P.length_serializeInput]
    exact hmax

/-- Whoever has a key for a relation that always holds gets a certificate of any consistent bundle
accepted, whatever its statements say. -/
theorem forged_certificate_accepted {bundle : AllocationAuditBundle spent new}
    {report : AllocationAuditBundleReport} {keyBytes : List UInt8} {vk : P.Key}
    (hvk : P.deserializeKey keyBytes = .ok vk) (hkey : keyBytes.length ≤ maxBlobBytes)
    (hforge : ∀ x, ∃ proofBytes proof, proofBytes.length ≤ maxBlobBytes ∧
      P.deserializeProof proofBytes = .ok proof ∧ P.verify vk x proof = .ok true)
    (hreport : verifyAllocationAuditBundle H bundle = .ok report)
    (horder : InKeyOrder exclusionKey bundle.exclusions)
    (hcount : (AllocationAuditBundle.statements bundle).length ≤
      maxAllocationAuditCertificateProofEntries) :
    ∃ c, verifyAllocationAuditCertificateSelfContained H
        (verifyGroth16StackAgainstPublicInputs P) spent new c = .ok c.report ∧
      c.proofs.map AllocationAuditProofEntry.manifestEntry =
        allocationAuditManifestEntries bundle := by
  choose proofBytes proof hfits hproof hverify using hforge
  obtain ⟨c, hc, hproofs⟩ := @certificate_of_stacks _ _ _ (verifyGroth16StackAgainstPublicInputs P)
    _ _ (fun s => stackUnder P keyBytes
      (proofBytes (publicInputsAsFr s.manifestEntry.publicInputs)) s) hreport horder hcount
    (fun s _ => verifyStack_eq_ok.mpr ⟨rfl, rfl, vk, _, hvk, hproof _, hverify _⟩)
    (fun s _ => stackUnder_fits s hkey (hfits _))
  refine ⟨c, hc, ?_⟩
  rw [hproofs, List.map_map]
  rfl

lemma statements_satisfiable {A : AuditAssignment spent new} (hsat : A.Satisfies H) :
    ∀ s ∈ AllocationAuditBundle.statements A.bundle, ∃ a,
      auditCircuit H spent new s.manifestEntry.kind s.manifestEntry.publicInputs a = .ok true := by
  simp only [AllocationAuditBundle.statements, AuditAssignment.bundle, List.map_map,
    List.forall_mem_append, List.forall_mem_map, List.forall_mem_singleton]
  exact ⟨fun p hp => ⟨p.2, hsat.spent.transcripts p hp⟩,
    fun p hp => ⟨p.2, hsat.new.transcripts p hp⟩,
    fun p hp => ⟨p.2, hsat.spent.conservation p hp⟩,
    fun p hp => ⟨p.2, hsat.new.conservation p hp⟩,
    ⟨A.finalConservation.2, hsat.finalConservation⟩, fun p hp => ⟨p.2, hsat.exclusions p hp⟩⟩

end Soundness

section Samples

/-- A key of one byte names the circuit of a kind at arity one, every other key the relation that
always holds. -/
def sampleRelation : List UInt8 → Relation Fr
  | [tag] => (AllocationAuditProofKind.fromU8 tag).elim (Relation.trivial Fr)
      (auditRelation Sha256.digest 1 1)
  | _ => Relation.trivial Fr

instance : NeZero bn254 := ⟨by decide⟩

noncomputable def sampleSystem : ProofSystem Fr := idealSystem bn254 (by decide) sampleRelation

lemma sampleRelation_kind (kind : AllocationAuditProofKind) :
    sampleRelation [kind.asU8] = auditRelation Sha256.digest 1 1 kind := by
  simp [sampleRelation]

/-- The keys of the honest sample: each entry has the key of its kind. -/
noncomputable def honestStack (s : AuditStatement 1 1) : Groth16PrecompileStack :=
  stackUnder sampleSystem [s.manifestEntry.kind.asU8] [] s

lemma honestStack_verifies {s : AuditStatement 1 1} {a}
    (h : auditCircuit Sha256.digest 1 1 s.manifestEntry.kind s.manifestEntry.publicInputs a =
      .ok true) :
    verifyGroth16StackAgainstPublicInputs sampleSystem s.manifestEntry.kind (honestStack s)
      s.manifestEntry.publicInputs = .ok () := by
  refine verifyStack_eq_ok.mpr ⟨rfl, rfl, [s.manifestEntry.kind.asU8], (), rfl, rfl, ?_⟩
  refine idealSystem_verify ?_ ()
  rw [sampleRelation_kind]
  exact ⟨a, _, rfl, h⟩

/-- A segment whose next root and commitment are zero. -/
def blankSegment (H : List UInt8 → Bytes32) (side : RgkAllocationTranscriptSide) :
    AllocationTranscriptSegmentStatement 1 :=
  ⟨allocationTranscriptEmptyRoot H side, Bytes.zero, .kaspaSimnet, side, 0, 1, Bytes.zero⟩

/-- A consistent bundle in which no statement can be proved: its digests are zero. -/
def blankBundle (H : List UInt8 → Bytes32) : AllocationAuditBundle 1 1 where
  spentTranscripts := [blankSegment H .spent]
  newTranscripts := [blankSegment H .new]
  spentConservation := [⟨blankSegment H .spent, Bytes.zero, Bytes.zero⟩]
  newConservation := [⟨blankSegment H .new, Bytes.zero, Bytes.zero⟩]
  finalConservation := ⟨1, 1, Bytes.zero, Bytes.zero⟩
  exclusions := [pairStatement (blankSegment H .spent) (blankSegment H .new)]

lemma blankBundle_accepted (H : List UInt8 → Bytes32) :
    ∃ r, verifyAllocationAuditBundle H (blankBundle H) = .ok r := by
  simp [verifyAllocationAuditBundle, blankBundle, blankSegment, verifyAllocationTranscriptChain,
    transcriptLoop, verifyAllocationConservationChain, conservationLoop,
    verifyAllocationExclusionGrid, exclusionLoop, pairStatement, checkedMul, failIf, okOr, whenSome,
    forEnum, bind, Except.bind]

lemma blankSegment_layout {H : List UInt8 → Bytes32} {side : RgkAllocationTranscriptSide} :
    ¬SegmentLayout (blankSegment H side) :=
  fun h => h.nextRoot_ne rfl

lemma blankBundle_unprovable {H : List UInt8 → Bytes32} :
    ∀ s ∈ AllocationAuditBundle.statements (blankBundle H), ∀ a,
      auditCircuit H 1 1 s.manifestEntry.kind s.manifestEntry.publicInputs a ≠ .ok true := by
  simp only [AllocationAuditBundle.statements, blankBundle, List.map_cons, List.map_nil,
    List.forall_mem_append, List.forall_mem_singleton]
  refine ⟨fun a h => ?_, fun a h => ?_, fun a h => ?_, fun a h => ?_, fun a h => ?_, fun a h => ?_⟩
  · exact blankSegment_layout (transcriptCircuit_eq_ok.mp h).2.1
  · exact blankSegment_layout (transcriptCircuit_eq_ok.mp h).2.1
  · exact blankSegment_layout (conservationCircuit_eq_ok.mp h).2.layout
  · exact blankSegment_layout (conservationCircuit_eq_ok.mp h).2.layout
  · exact (finalCircuit_eq_ok.mp h).2.spentCommitment_ne rfl
  · exact blankSegment_layout (exclusionCircuit_eq_ok.mp h).2.newLayout

end Samples

/-- If every key of an accepted certificate was set up for the circuit of its entry's kind, every
entry's public inputs have a witness for that circuit. -/
theorem accepted_certificate_has_witnesses (P : ProofSystem Fr) (H : List UInt8 → Bytes32)
    (spent new : ℕ) (c : AllocationAuditCertificate) (r : AllocationAuditBundleReport)
    (haccepted : verifyAllocationAuditCertificateSelfContained H
      (verifyGroth16StackAgainstPublicInputs P) spent new c = .ok r)
    (hkeys : ∀ entry ∈ c.proofs, KeyForCircuit H spent new P entry) :
    ∀ entry ∈ c.proofs, HasWitness H spent new entry := by
  obtain ⟨-, h⟩ := unit_bind_eq_ok.mp haccepted
  obtain ⟨statements, hparse, -⟩ := bind_eq_ok.mp h
  intro entry hentry
  obtain ⟨hstack, hlen⟩ := parseEntries_inv hparse entry hentry
  exact hasWitness_of_verified hstack hlen (hkeys entry hentry)

/-- The certificate of an honest audit, with the keys of its circuits. -/
theorem accepted_certificate_has_witnesses_sample :
    ∃ c r, verifyAllocationAuditCertificateSelfContained Sha256.digest
        (verifyGroth16StackAgainstPublicInputs sampleSystem) 1 1 c = .ok r ∧
      c.proofs ≠ [] ∧ (∀ entry ∈ c.proofs, KeyForCircuit Sha256.digest 1 1 sampleSystem entry) ∧
      ∀ entry ∈ c.proofs, HasWitness Sha256.digest 1 1 entry := by
  obtain ⟨r, hr⟩ := sampleBundle_accepted
  obtain ⟨c, hc, hproofs⟩ := @certificate_of_stacks _ _ _
    (verifyGroth16StackAgainstPublicInputs sampleSystem) _ _ honestStack hr sampleBundle_inKeyOrder
    (by decide)
    (fun s hs => honestStack_verifies
      (statements_satisfiable sampleSha_satisfies s hs).choose_spec)
    (fun s _ => stackUnder_fits s (show 1 ≤ maxBlobBytes by decide) (by simp))
  have hkeys : ∀ entry ∈ c.proofs, KeyForCircuit Sha256.digest 1 1 sampleSystem entry := by
    intro entry hentry
    rw [hproofs] at hentry
    obtain ⟨s, -, rfl⟩ := List.mem_map.mp hentry
    exact ⟨_, rfl, sampleRelation_kind _⟩
  refine ⟨c, _, hc, ?_, hkeys, accepted_certificate_has_witnesses _ _ _ _ c _ hc hkeys⟩
  rw [hproofs]
  exact List.cons_ne_nil _ _

/-- A sound proof system, and an accepted certificate none of whose statements has a witness: its
author used the key of a relation that always holds. -/
theorem certificate_accepted_without_witnesses :
    ∃ c r, verifyAllocationAuditCertificateSelfContained Sha256.digest
        (verifyGroth16StackAgainstPublicInputs sampleSystem) 1 1 c = .ok r ∧
      c.proofs ≠ [] ∧ ∀ entry ∈ c.proofs, ¬HasWitness Sha256.digest 1 1 entry := by
  obtain ⟨r, hr⟩ := blankBundle_accepted Sha256.digest
  have hforge : ∀ x, ∃ proofBytes proof, proofBytes.length ≤ maxBlobBytes ∧
      sampleSystem.deserializeProof proofBytes = .ok proof ∧
      sampleSystem.verify [] x proof = .ok true :=
    fun x => ⟨[], (), by simp, rfl, idealSystem_verify ⟨(), trivial⟩ ()⟩
  obtain ⟨c, hc, hproofs⟩ := @forged_certificate_accepted _ _ _ sampleSystem _ _ [] [] rfl (by simp)
    hforge hr (by simp [InKeyOrder, blankBundle]) (by decide)
  refine ⟨c, _, hc, ?_, ?_⟩
  · intro hnil
    rw [hnil] at hproofs
    cases hproofs
  · rintro entry hentry ⟨a, ha⟩
    have hmem : entry.manifestEntry ∈ allocationAuditManifestEntries (blankBundle Sha256.digest) :=
      hproofs ▸ List.mem_map_of_mem hentry
    obtain ⟨s, hs, heq⟩ := List.mem_map.mp hmem
    obtain ⟨kind, si, ni, pub, stack⟩ := entry
    obtain rfl : s.manifestEntry.kind = kind := congrArg ManifestEntry.kind heq
    obtain rfl : s.manifestEntry.publicInputs = pub := congrArg ManifestEntry.publicInputs heq
    exact blankBundle_unprovable s hs a ha

end RgkProtocol.CertificateSoundness
