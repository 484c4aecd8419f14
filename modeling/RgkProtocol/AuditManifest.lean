import RgkProtocol.AuditBundle

/-!
# The manifest of an audit

Every statement of an audit bundle has a proof entry: its kind, the segments it is about and its
public inputs. The manifest lists them in a fixed order. The public inputs are parsed back into
the statement they came from, and into no other.
-/
namespace RgkProtocol.AuditManifest
open ByteStrings Hashing CoreTypes Checked SemanticStatement AuditStatements AuditBundle

inductive AllocationAuditProofKind where
  | spentTranscriptSegment
  | newTranscriptSegment
  | spentConservationSegment
  | newConservationSegment
  | conservationFinal
  | exclusionSegmentPair
  deriving DecidableEq

namespace AllocationAuditProofKind

def asU8 : AllocationAuditProofKind → UInt8
  | spentTranscriptSegment => 0
  | newTranscriptSegment => 1
  | spentConservationSegment => 2
  | newConservationSegment => 3
  | conservationFinal => 4
  | exclusionSegmentPair => 5

def fromU8 (value : UInt8) : Option AllocationAuditProofKind :=
  if value = 0 then some spentTranscriptSegment
  else if value = 1 then some newTranscriptSegment
  else if value = 2 then some spentConservationSegment
  else if value = 3 then some newConservationSegment
  else if value = 4 then some conservationFinal
  else if value = 5 then some exclusionSegmentPair
  else none

@[simp] lemma fromU8_asU8 (kind : AllocationAuditProofKind) : fromU8 kind.asU8 = some kind := by
  cases kind <;> rfl

lemma fromU8_eq_some {value : UInt8} {kind : AllocationAuditProofKind} :
    fromU8 value = some kind ↔ value = kind.asU8 := by
  constructor
  · intro h
    unfold fromU8 at h
    split_ifs at h <;> cases h <;> assumption
  · rintro rfl
    exact fromU8_asU8 kind

end AllocationAuditProofKind

/-- A statement of an audit of the given arities. -/
inductive AuditStatement (spent new : ℕ) where
  | spentTranscript (s : AllocationTranscriptSegmentStatement spent)
  | newTranscript (s : AllocationTranscriptSegmentStatement new)
  | spentConservation (s : AllocationConservationSegmentStatement spent)
  | newConservation (s : AllocationConservationSegmentStatement new)
  | conservationFinal (s : AllocationConservationFinalStatement)
  | exclusionPair (s : AllocationExclusionSegmentPairStatement spent new)
  deriving DecidableEq

/-- What a proof entry says about its statement. -/
structure ManifestEntry where
  kind : AllocationAuditProofKind
  spentSegmentIndex : Option UInt64
  newSegmentIndex : Option UInt64
  publicInputs : List UInt8
  deriving DecidableEq

def AuditStatement.manifestEntry {spent new : ℕ} : AuditStatement spent new → ManifestEntry
  | spentTranscript s => ⟨.spentTranscriptSegment, some s.segmentIndex, none, s.publicInputs⟩
  | newTranscript s => ⟨.newTranscriptSegment, none, some s.segmentIndex, s.publicInputs⟩
  | spentConservation s =>
      ⟨.spentConservationSegment, some s.transcript.segmentIndex, none, s.publicInputs⟩
  | newConservation s =>
      ⟨.newConservationSegment, none, some s.transcript.segmentIndex, s.publicInputs⟩
  | conservationFinal s => ⟨.conservationFinal, none, none, s.publicInputs⟩
  | exclusionPair s =>
      ⟨.exclusionSegmentPair, some s.spentSegmentIndex, some s.newSegmentIndex, s.publicInputs⟩

/-- The statements of a bundle in the order of the manifest. -/
def AllocationAuditBundle.statements {spent new : ℕ} (b : AllocationAuditBundle spent new) :
    List (AuditStatement spent new) :=
  b.spentTranscripts.map .spentTranscript ++ (b.newTranscripts.map .newTranscript ++
    (b.spentConservation.map .spentConservation ++ (b.newConservation.map .newConservation ++
      ([.conservationFinal b.finalConservation] ++ b.exclusions.map .exclusionPair))))

def allocationAuditManifestEntries {spent new : ℕ} (b : AllocationAuditBundle spent new) :
    List ManifestEntry :=
  (AllocationAuditBundle.statements b).map AuditStatement.manifestEntry

lemma length_manifestEntries {spent new : ℕ} (b : AllocationAuditBundle spent new) :
    (allocationAuditManifestEntries b).length = b.spentTranscripts.length +
      b.newTranscripts.length + b.spentConservation.length + b.newConservation.length + 1 +
      b.exclusions.length := by
  simp only [allocationAuditManifestEntries, AllocationAuditBundle.statements, List.length_map,
    List.length_append, List.length_singleton]
  omega

section Fields

def publicSliceAt (pub : List UInt8) (offset len : ℕ) (label field : String) :
    Except String (List UInt8) :=
  if offset+len ≤ pub.length then .ok (slice pub offset (offset+len))
  else .error s!"{label} is missing {field}"

def publicU32At (pub : List UInt8) (offset : ℕ) (label field : String) : Except String UInt32 := do
  let bytes ← publicSliceAt pub offset 4 label field
  .ok (u32OfLe bytes)

def publicU64At (pub : List UInt8) (offset : ℕ) (label field : String) : Except String UInt64 := do
  let bytes ← publicSliceAt pub offset 8 label field
  .ok (u64OfLe bytes)

def publicBytes32At (pub : List UInt8) (offset : ℕ) (label field : String) :
    Except String Bytes32 := do
  let bytes ← publicSliceAt pub offset 32 label field
  .ok (bytesAt 32 bytes 0)

def publicChainIdAt (pub : List UInt8) (offset : ℕ) (label : String) :
    Except String KaspaChainId := do
  let tag ← publicU32At pub offset label "chain id tag"
  failIf (tag ≠ KaspaChainId.tag.toUInt32) s!"{label} has bad chain id tag {tag}"
  let value ← publicU32At pub (offset+4) label "chain id value"
  failIf (value > 255) s!"{label} has out-of-range chain id value {value}"
  okOr (KaspaChainId.fromTag value.toUInt8) s!"{label} has unknown chain id value {value}"

def parseAllocationTranscriptSide (side : UInt8) (label : String) :
    Except String RgkAllocationTranscriptSide :=
  if side = 0 then .ok .spent
  else if side = 1 then .ok .new
  else .error s!"{label} has unknown transcript side {side}"

def ensureCanonicalPublicInputs (label : String) (actual expected : List UInt8) :
    Except String Unit :=
  failIf (actual ≠ expected) s!"{label} public inputs are not canonical"

variable {pub : List UInt8} {offset : ℕ} {label field : String}

lemma publicSliceAt_eq {len : ℕ} {x : List UInt8} (hlen : offset+len ≤ pub.length)
    (hx : slice pub offset (offset+len) = x) : publicSliceAt pub offset len label field = .ok x := by
  rw [publicSliceAt, if_pos hlen, hx]

lemma publicU64At_eq {x : UInt64} (hlen : offset+8 ≤ pub.length)
    (hx : slice pub offset (offset+8) = le64 x) : publicU64At pub offset label field = .ok x := by
  rw [publicU64At, publicSliceAt_eq hlen hx]
  exact congrArg Except.ok (u64OfLe_le64 x)

lemma publicU32At_eq {x : UInt32} (hlen : offset+4 ≤ pub.length)
    (hx : slice pub offset (offset+4) = le32 x) : publicU32At pub offset label field = .ok x := by
  rw [publicU32At, publicSliceAt_eq hlen hx]
  exact congrArg Except.ok (u32OfLe_le32 x)

lemma publicBytes32At_eq {x : Bytes32} (hlen : offset+32 ≤ pub.length)
    (hx : slice pub offset (offset+32) = x.toList) :
    publicBytes32At pub offset label field = .ok x := by
  rw [publicBytes32At, publicSliceAt_eq hlen hx]
  refine congrArg Except.ok (Bytes.ext ?_)
  rw [toList_bytesAt (by simp)]
  exact slice_full (by simp)

lemma publicChainIdAt_eq {c : KaspaChainId} (hlen : offset+8 ≤ pub.length)
    (hx : slice pub offset (offset+8) = chainIdTaggedLeU32 c) :
    publicChainIdAt pub offset label = .ok c := by
  have htag : slice pub offset (offset+4) = le32 KaspaChainId.tag.toUInt32 := by
    have hs := @slice_slice pub offset (offset+8) 0 4 (by omega)
    rw [hx, Nat.add_zero] at hs
    rw [← hs]
    exact slice_append_left (by simp)
  have hvalue : slice pub (offset+4) (offset+4+4) = le32 c.asU8.toUInt32 := by
    have hs := @slice_slice pub offset (offset+8) 4 8 (by omega)
    rw [hx] at hs
    rw [show offset+4+4 = offset+8 by omega, ← hs, chainIdTaggedLeU32,
      slice_append_right (by simp), length_le32]
    exact slice_full (by simp)
  rw [publicChainIdAt, publicU32At_eq (by omega) htag, publicU32At_eq (by omega) hvalue]
  cases c <;> rfl

@[simp] lemma parseAllocationTranscriptSide_asU8 (side : RgkAllocationTranscriptSide) :
    parseAllocationTranscriptSide side.asU8 label = .ok side := by
  cases side <;> rfl

end Fields

section Parsers

def parseAllocationTranscriptPublicInputs (allocs : ℕ) (pub : List UInt8) (label : String) :
    Except String (AllocationTranscriptSegmentStatement allocs) := do
  let got := pub.length
  failIf (pub.length ≠ 128) s!"{label} has {got} public-input bytes, expected 128"
  let side ← parseAllocationTranscriptSide (byteAt pub 72) label
  failIf (∃ b ∈ slice pub 73 80, b ≠ 0) s!"{label} transcript padding is not canonical"
  let previousRoot ← publicBytes32At pub 0 label "previous root"
  let nextRoot ← publicBytes32At pub 32 label "next root"
  let chainId ← publicChainIdAt pub 64 label
  let segmentIndex ← publicU64At pub 80 label "segment index"
  let totalCount ← publicU64At pub 88 label "total count"
  let segmentAmountCommitment ← publicBytes32At pub 96 label "amount commitment"
  let statement : AllocationTranscriptSegmentStatement allocs :=
    { previousRoot, nextRoot, chainId, side, segmentIndex, totalCount, segmentAmountCommitment }
  ensureCanonicalPublicInputs label pub statement.publicInputs
  .ok statement

def parseAllocationConservationPublicInputs (allocs : ℕ) (pub : List UInt8) (label : String) :
    Except String (AllocationConservationSegmentStatement allocs) := do
  let got := pub.length
  failIf (pub.length ≠ 192) s!"{label} has {got} public-input bytes, expected 192"
  let transcript ← parseAllocationTranscriptPublicInputs allocs (slice pub 0 128) label
  let previousTotalCommitment ← publicBytes32At pub 128 label "previous total commitment"
  let nextTotalCommitment ← publicBytes32At pub 160 label "next total commitment"
  let statement : AllocationConservationSegmentStatement allocs :=
    { transcript, previousTotalCommitment, nextTotalCommitment }
  ensureCanonicalPublicInputs label pub statement.publicInputs
  .ok statement

def parseAllocationConservationFinalPublicInputs (pub : List UInt8) (label : String) :
    Except String AllocationConservationFinalStatement := do
  let got := pub.length
  failIf (pub.length ≠ 80) s!"{label} has {got} public-input bytes, expected 80"
  let spentTotalCount ← publicU64At pub 0 label "spent total count"
  let newTotalCount ← publicU64At pub 8 label "new total count"
  let spentTotalCommitment ← publicBytes32At pub 16 label "spent total commitment"
  let newTotalCommitment ← publicBytes32At pub 48 label "new total commitment"
  let statement : AllocationConservationFinalStatement :=
    { spentTotalCount, newTotalCount, spentTotalCommitment, newTotalCommitment }
  ensureCanonicalPublicInputs label pub statement.publicInputs
  .ok statement

def parseAllocationExclusionPublicInputs (spent new : ℕ) (pub : List UInt8) (label : String) :
    Except String (AllocationExclusionSegmentPairStatement spent new) := do
  let got := pub.length
  failIf (pub.length ≠ 232) s!"{label} has {got} public-input bytes, expected 232"
  let spentPreviousRoot ← publicBytes32At pub 0 label "spent previous root"
  let spentNextRoot ← publicBytes32At pub 32 label "spent next root"
  let newPreviousRoot ← publicBytes32At pub 64 label "new previous root"
  let newNextRoot ← publicBytes32At pub 96 label "new next root"
  let chainId ← publicChainIdAt pub 128 label
  let spentSegmentIndex ← publicU64At pub 136 label "spent segment index"
  let newSegmentIndex ← publicU64At pub 144 label "new segment index"
  let spentTotalCount ← publicU64At pub 152 label "spent total count"
  let newTotalCount ← publicU64At pub 160 label "new total count"
  let spentAmountCommitment ← publicBytes32At pub 168 label "spent amount commitment"
  let newAmountCommitment ← publicBytes32At pub 200 label "new amount commitment"
  let statement : AllocationExclusionSegmentPairStatement spent new :=
    { spentPreviousRoot, spentNextRoot, newPreviousRoot, newNextRoot, chainId, spentSegmentIndex,
      newSegmentIndex, spentTotalCount, newTotalCount, spentAmountCommitment,
      newAmountCommitment }
  ensureCanonicalPublicInputs label pub statement.publicInputs
  .ok statement

variable {allocs spent new : ℕ} {label : String}

@[simp] lemma ensureCanonicalPublicInputs_self (pub : List UInt8) :
    ensureCanonicalPublicInputs label pub pub = .ok () := by
  simp [ensureCanonicalPublicInputs]

theorem parseTranscript_publicInputs (s : AllocationTranscriptSegmentStatement allocs) :
    parseAllocationTranscriptPublicInputs allocs s.publicInputs label = .ok s := by
  have hlen := length_transcriptInputs s
  obtain ⟨h0, h32, h64, -, h73, h80, h88, h96⟩ := slice_transcriptInputs s
  have hpad : ¬∃ b ∈ slice s.publicInputs 73 80, b ≠ 0 := by
    rw [h73]
    simp
  refine unit_bind_eq_ok.mpr ⟨failIf_eq_ok.mpr (not_not.mpr hlen), ?_⟩
  rw [(byteAt_transcriptInputs s).2]
  refine bind_eq_ok.mpr ⟨_, parseAllocationTranscriptSide_asU8 s.side, ?_⟩
  refine unit_bind_eq_ok.mpr ⟨failIf_eq_ok.mpr hpad, ?_⟩
  refine bind_eq_ok.mpr ⟨_, publicBytes32At_eq (by omega) h0, ?_⟩
  refine bind_eq_ok.mpr ⟨_, publicBytes32At_eq (by omega) h32, ?_⟩
  refine bind_eq_ok.mpr ⟨_, publicChainIdAt_eq (by omega) h64, ?_⟩
  refine bind_eq_ok.mpr ⟨_, publicU64At_eq (by omega) h80, ?_⟩
  refine bind_eq_ok.mpr ⟨_, publicU64At_eq (by omega) h88, ?_⟩
  refine bind_eq_ok.mpr ⟨_, publicBytes32At_eq (by omega) h96, ?_⟩
  exact unit_bind_eq_ok.mpr ⟨ensureCanonicalPublicInputs_self _, rfl⟩

theorem parseConservation_publicInputs (s : AllocationConservationSegmentStatement allocs) :
    parseAllocationConservationPublicInputs allocs s.publicInputs label = .ok s := by
  have hlen := length_conservationInputs s
  obtain ⟨h0, h128, h160⟩ := slice_conservationInputs s
  refine unit_bind_eq_ok.mpr ⟨failIf_eq_ok.mpr (not_not.mpr hlen), ?_⟩
  rw [h0]
  refine bind_eq_ok.mpr ⟨_, parseTranscript_publicInputs s.transcript, ?_⟩
  refine bind_eq_ok.mpr ⟨_, publicBytes32At_eq (by omega) h128, ?_⟩
  refine bind_eq_ok.mpr ⟨_, publicBytes32At_eq (by omega) h160, ?_⟩
  exact unit_bind_eq_ok.mpr ⟨ensureCanonicalPublicInputs_self _, rfl⟩

theorem parseFinal_publicInputs (s : AllocationConservationFinalStatement) :
    parseAllocationConservationFinalPublicInputs s.publicInputs label = .ok s := by
  have hlen := length_finalInputs s
  obtain ⟨h0, h8, h16, h48⟩ := slice_finalInputs s
  refine unit_bind_eq_ok.mpr ⟨failIf_eq_ok.mpr (not_not.mpr hlen), ?_⟩
  refine bind_eq_ok.mpr ⟨_, publicU64At_eq (by omega) h0, ?_⟩
  refine bind_eq_ok.mpr ⟨_, publicU64At_eq (by omega) h8, ?_⟩
  refine bind_eq_ok.mpr ⟨_, publicBytes32At_eq (by omega) h16, ?_⟩
  refine bind_eq_ok.mpr ⟨_, publicBytes32At_eq (by omega) h48, ?_⟩
  exact unit_bind_eq_ok.mpr ⟨ensureCanonicalPublicInputs_self _, rfl⟩

theorem parseExclusion_publicInputs (s : AllocationExclusionSegmentPairStatement spent new) :
    parseAllocationExclusionPublicInputs spent new s.publicInputs label = .ok s := by
  have hlen := length_exclusionInputs s
  obtain ⟨h0, h32, h64, h96, h128, h136, h144, h152, h160, h168, h200⟩ := slice_exclusionInputs s
  refine unit_bind_eq_ok.mpr ⟨failIf_eq_ok.mpr (not_not.mpr hlen), ?_⟩
  refine bind_eq_ok.mpr ⟨_, publicBytes32At_eq (by omega) h0, ?_⟩
  refine bind_eq_ok.mpr ⟨_, publicBytes32At_eq (by omega) h32, ?_⟩
  refine bind_eq_ok.mpr ⟨_, publicBytes32At_eq (by omega) h64, ?_⟩
  refine bind_eq_ok.mpr ⟨_, publicBytes32At_eq (by omega) h96, ?_⟩
  refine bind_eq_ok.mpr ⟨_, publicChainIdAt_eq (by omega) h128, ?_⟩
  refine bind_eq_ok.mpr ⟨_, publicU64At_eq (by omega) h136, ?_⟩
  refine bind_eq_ok.mpr ⟨_, publicU64At_eq (by omega) h144, ?_⟩
  refine bind_eq_ok.mpr ⟨_, publicU64At_eq (by omega) h152, ?_⟩
  refine bind_eq_ok.mpr ⟨_, publicU64At_eq (by omega) h160, ?_⟩
  refine bind_eq_ok.mpr ⟨_, publicBytes32At_eq (by omega) h168, ?_⟩
  refine bind_eq_ok.mpr ⟨_, publicBytes32At_eq (by omega) h200, ?_⟩
  exact unit_bind_eq_ok.mpr ⟨ensureCanonicalPublicInputs_self _, rfl⟩

lemma injective_of_parses {α : Type} {publicInputs : α → List UInt8}
    {parse : List UInt8 → String → Except String α}
    (h : ∀ s label, parse (publicInputs s) label = .ok s) : Function.Injective publicInputs := by
  intro s t hst
  have hs := h s ""
  rw [hst, h t] at hs
  exact (Except.ok.inj hs).symm

/-- An entry of the manifest determines its statement: the kind says which parser reads it. -/
theorem AuditStatement.manifestEntry_injective :
    Function.Injective (AuditStatement.manifestEntry : AuditStatement spent new → ManifestEntry) := by
  intro s t hst
  have hkind := congrArg ManifestEntry.kind hst
  have hpub := congrArg ManifestEntry.publicInputs hst
  cases s <;> cases t <;> simp only [AuditStatement.manifestEntry, reduceCtorEq] at hkind hpub
  case spentTranscript.spentTranscript =>
    exact congrArg _ (injective_of_parses (fun s _ => parseTranscript_publicInputs s) hpub)
  case newTranscript.newTranscript =>
    exact congrArg _ (injective_of_parses (fun s _ => parseTranscript_publicInputs s) hpub)
  case spentConservation.spentConservation =>
    exact congrArg _ (injective_of_parses (fun s _ => parseConservation_publicInputs s) hpub)
  case newConservation.newConservation =>
    exact congrArg _ (injective_of_parses (fun s _ => parseConservation_publicInputs s) hpub)
  case conservationFinal.conservationFinal =>
    exact congrArg _ (injective_of_parses (fun s _ => parseFinal_publicInputs s) hpub)
  case exclusionPair.exclusionPair =>
    exact congrArg _ (injective_of_parses (fun s _ => parseExclusion_publicInputs s) hpub)

end Parsers
end RgkProtocol.AuditManifest
