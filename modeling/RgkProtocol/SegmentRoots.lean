import RgkProtocol.AuditConstruction
import RgkProtocol.RollingRoots

/-!
# Rolling roots of segments

A lane graph and each side of an allocation transcript are published segment by segment. The root
after the last segment stands for all of them: it binds how many there were, what was in each and
where one ended and the next began.
-/
namespace RgkProtocol.SegmentRoots
open ByteStrings Hashing CoreTypes Checked AssetTypes AssetEncoding AuditStatements
open AuditConstruction RollingRoots

section LaneGraph

structure RgkLaneGraphNode where
  laneId : Bytes32
  scanTag : Bytes32
  epoch : UInt64
  deriving DecidableEq

def encodeLaneGraphNode (n : RgkLaneGraphNode) : List UInt8 :=
  n.laneId.toList ++ (n.scanTag.toList ++ le64 n.epoch)

lemma encodeLaneGraphNode_injective : Function.Injective encodeLaneGraphNode := by
  rintro ⟨l, s, e⟩ ⟨l', s', e'⟩ h
  simp only [encodeLaneGraphNode, Bytes.append_inj, le64_inj] at h
  obtain ⟨rfl, rfl, rfl⟩ := h
  rfl

/-- What a lane graph segment root is computed from. -/
def laneGraphSegmentPayload (previousRoot : Bytes32) (segmentIndex : UInt64)
    (nodes : List RgkLaneGraphNode) : List UInt8 :=
  previousRoot.toList ++ (le64 segmentIndex ++ (le64 (UInt64.ofNat nodes.length) ++
    nodes.flatMap encodeLaneGraphNode))

lemma laneGraphSegmentPayload_inj {root root' : Bytes32} {i i' : UInt64}
    {nodes nodes' : List RgkLaneGraphNode}
    (h : laneGraphSegmentPayload root i nodes = laneGraphSegmentPayload root' i' nodes') :
    root = root' ∧ nodes = nodes' := by
  have hw : ∀ n : RgkLaneGraphNode, (encodeLaneGraphNode n).length = 72 := by
    intro n
    simp [encodeLaneGraphNode]
  simp only [laneGraphSegmentPayload, Bytes.append_inj, le64_append_inj] at h
  exact ⟨h.1, flatMap_injective (by omega) hw encodeLaneGraphNode_injective h.2.2.2⟩

variable (H : List UInt8 → Bytes32)

def privateLaneGraphEmptyRoot : Bytes32 := domainHashStr H "rgk:lane:graph-empty-root:v1" []

def extendPrivateLaneGraphRoot (previousRoot : Bytes32) (segmentIndex : UInt64)
    (nodes : List RgkLaneGraphNode) : Bytes32 :=
  domainHashStr H "rgk:lane:graph-segment-root:v1"
    (laneGraphSegmentPayload previousRoot segmentIndex nodes)

/-- Extension by the segment at position `i`. -/
def extendLaneGraphAt (root : Bytes32) (i : ℕ) (nodes : List RgkLaneGraphNode) : Bytes32 :=
  extendPrivateLaneGraphRoot H root (UInt64.ofNat i) nodes

def laneGraphRoot (segments : List (List RgkLaneGraphNode)) : Bytes32 :=
  rootFrom (extendLaneGraphAt H) (privateLaneGraphEmptyRoot H) 0 segments

/-- The strings hashed on the way to a lane graph root. -/
def laneGraphPreimages (segments : List (List RgkLaneGraphNode)) : List (List UInt8) :=
  taggedPreimage "rgk:lane:graph-empty-root:v1" [] ::
    (stepsFrom (extendLaneGraphAt H) (privateLaneGraphEmptyRoot H) 0 segments).map
      (fun x => taggedPreimage "rgk:lane:graph-segment-root:v1"
        (laneGraphSegmentPayload x.1 (UInt64.ofNat x.2.1) x.2.2))

end LaneGraph

section LaneGraphBinding
variable {H : List UInt8 → Bytes32} {Q : Set (List UInt8)}
  {segments segments' : List (List RgkLaneGraphNode)}

theorem segments_eq_of_laneGraphRoot_eq (hcf : CollisionFree H Q)
    (hs : ∀ x ∈ laneGraphPreimages H segments, x ∈ Q)
    (hs' : ∀ x ∈ laneGraphPreimages H segments', x ∈ Q)
    (h : laneGraphRoot H segments = laneGraphRoot H segments') : segments = segments' := by
  obtain ⟨hempty, hsteps⟩ := List.forall_mem_cons.mp hs
  obtain ⟨-, hsteps'⟩ := List.forall_mem_cons.mp hs'
  simp only [List.forall_mem_map] at hsteps hsteps'
  have htags : UInt32.ofNat (utf8Bytes "rgk:lane:graph-segment-root:v1").length ≠
      UInt32.ofNat (utf8Bytes "rgk:lane:graph-empty-root:v1").length := by decide
  rw [← List.forall₂_eq_eq_eq]
  refine (related_of_rootFrom_eq (R := Eq) ?_ ?_ ?_ h).1
  · intro x hx y hy hxy
    exact laneGraphSegmentPayload_inj
      (payload_eq_of_domainHashStr_eq hcf (hsteps x hx) (hsteps' y hy) hxy)
  · intro x hx
    exact domainHashStr_ne hcf htags (hsteps x hx) hempty
  · intro y hy
    exact domainHashStr_ne hcf htags (hsteps' y hy) hempty

end LaneGraphBinding

section Transcript
variable (H : List UInt8 → Bytes32) (side : RgkAllocationTranscriptSide)
  (start totalCount : UInt64)

/-- Extension by the segment at position `i` after the one numbered `start`. -/
def extendTranscriptAt (root : Bytes32) (i : ℕ) (allocations : List RgkAllocation) : Bytes32 :=
  extendAllocationTranscriptRoot H root side (start + UInt64.ofNat i) totalCount allocations

def transcriptRoot (segments : List (List RgkAllocation)) : Bytes32 :=
  rootFrom (extendTranscriptAt H side start totalCount) (allocationTranscriptEmptyRoot H side) 0
    segments

/-- The strings hashed on the way to a transcript root. -/
def transcriptPreimages (segments : List (List RgkAllocation)) : List (List UInt8) :=
  taggedPreimage "rgk:asset:allocation-transcript-empty-root:v1" [side.asU8] ::
    (stepsFrom (extendTranscriptAt H side start totalCount) (allocationTranscriptEmptyRoot H side) 0
      segments).map (fun x => taggedPreimage "rgk:asset:allocation-transcript-segment-root:v1"
        (segmentRootPayload x.1 side (start + UInt64.ofNat x.2.1) totalCount
          ((sortByKey allocationKey x.2.2).map encodeAllocation)))

end Transcript

section TranscriptBinding
variable {H : List UInt8 → Bytes32} {Q : Set (List UInt8)}
  {side side' : RgkAllocationTranscriptSide} {start start' total total' : UInt64}
  {segments segments' : List (List RgkAllocation)}

lemma asU8_side_inj (h : side.asU8 = side'.asU8) : side = side' := by
  cases side <;> cases side' <;> first | rfl | cases h

lemma segmentRootPayload_inj {root root' : Bytes32} {i i' : UInt64} {as bs : List RgkAllocation}
    (h : segmentRootPayload root side i total ((sortByKey allocationKey as).map encodeAllocation) =
      segmentRootPayload root' side' i' total'
        ((sortByKey allocationKey bs).map encodeAllocation)) :
    root = root' ∧ total = total' ∧ as.Perm bs := by
  simp only [segmentRootPayload, Bytes.append_inj, List.cons_append, List.nil_append,
    List.cons.injEq, le64_append_inj, ← List.flatMap_def] at h
  obtain ⟨hroot, -, -, htotal, -, hrecords⟩ := h
  exact ⟨hroot, htotal, perm_of_sortByKey_eq (flatMap_injective (by omega) length_encodeAllocation
    encodeAllocation_injective hrecords)⟩

theorem segments_perm_of_transcriptRoot_eq (hcf : CollisionFree H Q)
    (hs : ∀ x ∈ transcriptPreimages H side start total segments, x ∈ Q)
    (hs' : ∀ x ∈ transcriptPreimages H side' start' total' segments', x ∈ Q)
    (h : transcriptRoot H side start total segments =
      transcriptRoot H side' start' total' segments') :
    side = side' ∧ (segments ≠ [] → total = total') ∧
      List.Forall₂ List.Perm segments segments' := by
  obtain ⟨hempty, hsteps⟩ := List.forall_mem_cons.mp hs
  obtain ⟨hempty', hsteps'⟩ := List.forall_mem_cons.mp hs'
  simp only [List.forall_mem_map] at hsteps hsteps'
  have htags : UInt32.ofNat (utf8Bytes "rgk:asset:allocation-transcript-segment-root:v1").length ≠
      UInt32.ofNat (utf8Bytes "rgk:asset:allocation-transcript-empty-root:v1").length := by decide
  obtain ⟨hrelated, hroot⟩ := @related_of_rootFrom_eq _ _
    (extendTranscriptAt H side start total) (extendTranscriptAt H side' start' total')
    (fun as bs => total = total' ∧ as.Perm bs) _ _ 0 0 _ _
    (fun x hx y hy hxy => segmentRootPayload_inj
      (payload_eq_of_domainHashStr_eq hcf (hsteps x hx) (hsteps' y hy) hxy))
    (fun x hx => domainHashStr_ne hcf htags (hsteps x hx) hempty')
    (fun y hy => domainHashStr_ne hcf htags (hsteps' y hy) hempty) h
  have hside := payload_eq_of_domainHashStr_eq hcf hempty hempty' hroot
  refine ⟨asU8_side_inj (List.singleton_inj.mp hside), ?_, hrelated.imp fun _ _ hab => hab.2⟩
  intro hne
  cases hrelated with
  | nil => exact absurd rfl hne
  | cons hab _ => exact hab.1

end TranscriptBinding

/-- Equal lane graph roots come from equal segments. Equal transcript roots come from one side, from
one total count unless there are no segments, and from segments that agree up to order. -/
theorem rolling_roots_bind_history (H : List UInt8 → Bytes32) (Q : Set (List UInt8))
    (hcf : CollisionFree H Q) :
    (∀ segments segments' : List (List RgkLaneGraphNode),
      (∀ x ∈ laneGraphPreimages H segments, x ∈ Q) →
      (∀ x ∈ laneGraphPreimages H segments', x ∈ Q) →
      laneGraphRoot H segments = laneGraphRoot H segments' → segments = segments') ∧
    ∀ (side side' : RgkAllocationTranscriptSide) (start start' total total' : UInt64)
      (segments segments' : List (List RgkAllocation)),
      (∀ x ∈ transcriptPreimages H side start total segments, x ∈ Q) →
      (∀ x ∈ transcriptPreimages H side' start' total' segments', x ∈ Q) →
      transcriptRoot H side start total segments =
        transcriptRoot H side' start' total' segments' →
      side = side' ∧ (segments ≠ [] → total = total') ∧
        List.Forall₂ List.Perm segments segments' :=
  ⟨fun _ _ => segments_eq_of_laneGraphRoot_eq hcf,
    fun _ _ _ _ _ _ _ _ => segments_perm_of_transcriptRoot_eq hcf⟩

section Samples

def sampleNode (epoch : UInt64) : RgkLaneGraphNode := ⟨Bytes.fill 32 0x77, Bytes.fill 32 0x78, epoch⟩

def sampleRecord : RgkAllocation :=
  ⟨⟨.kaspaLocalToccata, ⟨Bytes.fill 32 1, 0⟩, Bytes.fill 32 0x33, Bytes.fill 32 1, 100, 10⟩, 10,
    Bytes.fill 32 0x44⟩

def segmentStrings : List (List UInt8) :=
  laneGraphPreimages Sha256.digest [[sampleNode 0], [sampleNode 1]] ++
    ((laneGraphPreimages Sha256.digest [[sampleNode 0, sampleNode 1]]).tail ++
      (transcriptPreimages Sha256.digest .spent 0 1 [[sampleRecord]] ++
        (transcriptPreimages Sha256.digest .spent 0 2 [[sampleRecord]]).tail))

end Samples

/-- Cutting the nodes elsewhere or claiming another total gives another root. -/
theorem rolling_roots_bind_history_sample :
    laneGraphRoot Sha256.digest [[sampleNode 0], [sampleNode 1]] ≠
        laneGraphRoot Sha256.digest [[sampleNode 0, sampleNode 1]] ∧
      transcriptRoot Sha256.digest .spent 0 1 [[sampleRecord]] ≠
        transcriptRoot Sha256.digest .spent 0 2 [[sampleRecord]] := by
  have hcf : CollisionFree Sha256.digest {x | x ∈ segmentStrings} :=
    CollisionFree.of_nodup (by decide +kernel)
  obtain ⟨hlanes, htranscripts⟩ :=
    rolling_roots_bind_history Sha256.digest {x | x ∈ segmentStrings} hcf
  constructor
  · intro h
    refine absurd (hlanes _ _ ?_ ?_ h) (by decide)
    · intro x hx
      exact List.mem_append_left _ hx
    · intro x hx
      rcases List.mem_cons.mp hx with rfl | hx
      · exact List.mem_append_left _ List.mem_cons_self
      · exact List.mem_append_right _ (List.mem_append_left _ hx)
  · intro h
    refine absurd ((htranscripts _ _ _ _ _ _ _ _ ?_ ?_ h).2.1 (by decide)) (by decide)
    · intro x hx
      exact List.mem_append_right _ (List.mem_append_right _ (List.mem_append_left _ hx))
    · intro x hx
      apply List.mem_append_right _ (List.mem_append_right _ ?_)
      rcases List.mem_cons.mp hx with rfl | hx
      · exact List.mem_append_left _ List.mem_cons_self
      · exact List.mem_append_right _ hx

end RgkProtocol.SegmentRoots
