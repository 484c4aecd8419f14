import RgkProtocol.AuditMeaning
import RgkProtocol.LinkedPath

/-!
# The audit bundle verifier

The verifier sees public statements only. It checks that the transcript segments of each side
form one chain from the empty root, that the conservation segments extend that chain and end in
the final statement, and that the exclusion pairs cover the grid of segment pairs.
-/
namespace RgkProtocol.AuditBundle
open ByteStrings Hashing CoreTypes Checked LinkedPath AuditStatements

structure AllocationAuditBundle (spent new : ℕ) where
  spentTranscripts : List (AllocationTranscriptSegmentStatement spent)
  newTranscripts : List (AllocationTranscriptSegmentStatement new)
  spentConservation : List (AllocationConservationSegmentStatement spent)
  newConservation : List (AllocationConservationSegmentStatement new)
  finalConservation : AllocationConservationFinalStatement
  exclusions : List (AllocationExclusionSegmentPairStatement spent new)

structure AllocationAuditBundleReport where
  chainId : KaspaChainId
  spentSegments : ℕ
  newSegments : ℕ
  exclusionPairs : ℕ
  spentTotalCount : UInt64
  newTotalCount : UInt64
  spentFinalRoot : Bytes32
  newFinalRoot : Bytes32
  spentTotalCommitment : Bytes32
  newTotalCommitment : Bytes32
  deriving DecidableEq

structure AllocationTranscriptChainAudit where
  chainId : KaspaChainId
  totalCount : UInt64
  finalRoot : Bytes32
  deriving DecidableEq

section Verifier
variable (H : List UInt8 → Bytes32)

/-- Multiplication of 64-bit sizes that reports overflow. -/
def checkedMul (a b : ℕ) : Option ℕ := if a*b < 2^64 then some (a*b) else none

/-- The loop over the segments of a side, with the root the next segment has to start from. -/
def transcriptLoop {allocs : ℕ} (label : String) (side : RgkAllocationTranscriptSide)
    (chainId : KaspaChainId) (expectedTotal : UInt64) :
    ℕ → Bytes32 → List (AllocationTranscriptSegmentStatement allocs) → Except String Bytes32
  | _, previousNextRoot, [] => .ok previousNextRoot
  | position, previousNextRoot, segment :: rest => do
      let index := segment.segmentIndex
      let count := segment.totalCount
      failIf (2^64 ≤ position) s!"{label} transcript chain index exceeds u64"
      failIf (segment.side ≠ side) s!"{label} transcript segment {position} has the wrong side"
      failIf (segment.chainId ≠ chainId)
        s!"{label} transcript segment {position} has a different chain id"
      failIf (segment.segmentIndex ≠ UInt64.ofNat position)
        s!"{label} transcript segment index {index} is not contiguous at {position}"
      failIf (segment.totalCount ≠ expectedTotal)
        s!"{label} transcript segment {position} total_count={count} does not equal {expectedTotal}"
      failIf (segment.previousRoot ≠ previousNextRoot)
        s!"{label} transcript segment {position} does not link to the previous segment root"
      transcriptLoop label side chainId expectedTotal (position+1) segment.nextRoot rest

def verifyAllocationTranscriptChain {allocs : ℕ} (label : String)
    (side : RgkAllocationTranscriptSide)
    (segments : List (AllocationTranscriptSegmentStatement allocs)) :
    Except String AllocationTranscriptChainAudit := do
  failIf (allocs = 0) s!"{label} transcript chain requires a non-zero segment arity"
  let first ← okOr segments.head? s!"{label} transcript chain must contain at least one segment"
  failIf (first.side ≠ side) s!"{label} transcript chain has the wrong side"
  failIf (first.previousRoot ≠ allocationTranscriptEmptyRoot H side)
    s!"{label} transcript chain must start at the empty root"
  let expected ← okOr (checkedMul segments.length allocs)
    s!"{label} transcript chain allocation count overflow"
  failIf (2^64 ≤ expected) s!"{label} transcript chain allocation count exceeds u64"
  let expectedTotal := UInt64.ofNat expected
  let count := first.totalCount
  failIf (first.totalCount ≠ expectedTotal)
    s!"{label} transcript chain total_count={count} does not equal segment coverage {expectedTotal}"
  let finalRoot ← transcriptLoop label side first.chainId expectedTotal 0 first.previousRoot segments
  .ok ⟨first.chainId, expectedTotal, finalRoot⟩

/-- The loop over matching transcript and conservation segments, with the commitment the next
one has to start from. -/
def conservationLoop {allocs : ℕ} (label : String) :
    ℕ → Option Bytes32 → List (AllocationTranscriptSegmentStatement allocs ×
      AllocationConservationSegmentStatement allocs) → Except String (Option Bytes32)
  | _, previousNextCommitment, [] => .ok previousNextCommitment
  | position, previousNextCommitment, (transcript, statement) :: rest => do
      failIf (statement.transcript ≠ transcript)
        s!"{label} conservation segment {position} does not bind the matching transcript segment"
      failIf (position = 0 ∧ transcript.segmentIndex ≠ 0)
        s!"{label} conservation chain does not start at segment index zero"
      whenSome previousNextCommitment (fun expectedPrevious =>
        failIf (statement.previousTotalCommitment ≠ expectedPrevious)
          s!"{label} conservation segment {position} does not link to the previous running-total commitment")
      conservationLoop label (position+1) (some statement.nextTotalCommitment) rest

def verifyAllocationConservationChain {allocs : ℕ} (label : String)
    (transcripts : List (AllocationTranscriptSegmentStatement allocs))
    (conservation : List (AllocationConservationSegmentStatement allocs))
    (finalTotalCommitment : Bytes32) : Except String Unit := do
  let segments := conservation.length
  let expected := transcripts.length
  failIf (conservation.length ≠ transcripts.length)
    s!"{label} conservation chain has {segments} segments for {expected} transcript segments"
  let last ← conservationLoop label 0 none (transcripts.zip conservation)
  failIf (last ≠ some finalTotalCommitment)
    s!"{label} conservation chain terminal commitment does not match final equality statement"

/-- The loop over the exclusion pairs, with the index pairs seen so far. -/
def exclusionLoop {spent new : ℕ}
    (spentTranscripts : List (AllocationTranscriptSegmentStatement spent))
    (newTranscripts : List (AllocationTranscriptSegmentStatement new)) (chainId : KaspaChainId) :
    List (UInt64 × UInt64) → List (AllocationExclusionSegmentPairStatement spent new) →
      Except String (List (UInt64 × UInt64))
  | seen, [] => .ok seen
  | seen, e :: rest => do
      let i := e.spentSegmentIndex
      let j := e.newSegmentIndex
      failIf (e.chainId ≠ chainId) "allocation exclusion grid contains a mixed chain id"
      failIf ((i, j) ∈ seen) s!"duplicate allocation exclusion grid pair spent={i} new={j}"
      let s ← okOr (spentTranscripts.find? (fun segment => segment.segmentIndex = i))
        s!"allocation exclusion pair references unknown spent segment {i}"
      let n ← okOr (newTranscripts.find? (fun segment => segment.segmentIndex = j))
        s!"allocation exclusion pair references unknown new segment {j}"
      failIf (e.spentPreviousRoot ≠ s.previousRoot ∨ e.spentNextRoot ≠ s.nextRoot ∨
          e.spentTotalCount ≠ s.totalCount ∨ e.spentAmountCommitment ≠ s.segmentAmountCommitment)
        s!"allocation exclusion pair spent={i} new={j} does not bind the spent transcript segment"
      failIf (e.newPreviousRoot ≠ n.previousRoot ∨ e.newNextRoot ≠ n.nextRoot ∨
          e.newTotalCount ≠ n.totalCount ∨ e.newAmountCommitment ≠ n.segmentAmountCommitment)
        s!"allocation exclusion pair spent={i} new={j} does not bind the new transcript segment"
      exclusionLoop spentTranscripts newTranscripts chainId (seen ++ [(i, j)]) rest

def verifyAllocationExclusionGrid {spent new : ℕ}
    (spentTranscripts : List (AllocationTranscriptSegmentStatement spent))
    (newTranscripts : List (AllocationTranscriptSegmentStatement new))
    (exclusions : List (AllocationExclusionSegmentPairStatement spent new))
    (chainId : KaspaChainId) : Except String Unit := do
  let pairs := exclusions.length
  let expected ← okOr (checkedMul spentTranscripts.length newTranscripts.length)
    "allocation exclusion grid size overflow"
  failIf (exclusions.length ≠ expected)
    s!"allocation exclusion grid has {pairs} pairs, expected {expected}"
  let seen ← exclusionLoop spentTranscripts newTranscripts chainId [] exclusions
  forEnum (fun _ s => forEnum (fun _ n =>
    let i := s.segmentIndex
    let j := n.segmentIndex
    failIf ((i, j) ∉ seen) s!"allocation exclusion grid is missing pair spent={i} new={j}")
    0 newTranscripts) 0 spentTranscripts

def verifyAllocationAuditBundle {spent new : ℕ} (bundle : AllocationAuditBundle spent new) :
    Except String AllocationAuditBundleReport := do
  failIf (spent = 0 ∨ new = 0) "allocation audit bundle requires non-zero segment arities"
  let spentChain ← verifyAllocationTranscriptChain H "spent" .spent bundle.spentTranscripts
  let newChain ← verifyAllocationTranscriptChain H "new" .new bundle.newTranscripts
  failIf (spentChain.chainId ≠ newChain.chainId)
    "allocation audit bundle contains mixed spent/new chain ids"
  failIf (bundle.finalConservation.spentTotalCount ≠ spentChain.totalCount)
    "allocation audit final spent count does not match spent transcript chain"
  failIf (bundle.finalConservation.newTotalCount ≠ newChain.totalCount)
    "allocation audit final new count does not match new transcript chain"
  verifyAllocationConservationChain "spent" bundle.spentTranscripts bundle.spentConservation
    bundle.finalConservation.spentTotalCommitment
  verifyAllocationConservationChain "new" bundle.newTranscripts bundle.newConservation
    bundle.finalConservation.newTotalCommitment
  verifyAllocationExclusionGrid bundle.spentTranscripts bundle.newTranscripts bundle.exclusions
    spentChain.chainId
  .ok { chainId := spentChain.chainId, spentSegments := bundle.spentTranscripts.length,
        newSegments := bundle.newTranscripts.length, exclusionPairs := bundle.exclusions.length,
        spentTotalCount := spentChain.totalCount, newTotalCount := newChain.totalCount,
        spentFinalRoot := spentChain.finalRoot, newFinalRoot := newChain.finalRoot,
        spentTotalCommitment := bundle.finalConservation.spentTotalCommitment,
        newTotalCommitment := bundle.finalConservation.newTotalCommitment }

end Verifier

section Chains
variable {H : List UInt8 → Bytes32} {allocs : ℕ}

/-- The segments of a side in order: contiguous indices, one chain id and count, and roots that
lead from the empty root to the final one. -/
structure TranscriptChain (H : List UInt8 → Bytes32) (side : RgkAllocationTranscriptSide)
    (segments : List (AllocationTranscriptSegmentStatement allocs)) (chainId : KaspaChainId)
    (totalCount : UInt64) (finalRoot : Bytes32) : Prop where
  nonempty : segments ≠ []
  total : totalCount.toNat = segments.length*allocs
  uniform : ∀ s ∈ segments, s.side = side ∧ s.chainId = chainId ∧ s.totalCount = totalCount
  indices : segments.map (fun s => s.segmentIndex.toNat) = List.range segments.length
  linked : Linked AllocationTranscriptSegmentStatement.previousRoot
    AllocationTranscriptSegmentStatement.nextRoot (allocationTranscriptEmptyRoot H side) segments
    finalRoot

lemma transcriptLoop_eq_ok {label : String} {side : RgkAllocationTranscriptSide}
    {chainId : KaspaChainId} {total : UInt64} {position : ℕ} {root final : Bytes32}
    {segments : List (AllocationTranscriptSegmentStatement allocs)}
    (hlen : position + segments.length ≤ 2^64) :
    transcriptLoop label side chainId total position root segments = .ok final ↔
      Linked AllocationTranscriptSegmentStatement.previousRoot
        AllocationTranscriptSegmentStatement.nextRoot root segments final ∧
      (∀ s ∈ segments, s.side = side ∧ s.chainId = chainId ∧ s.totalCount = total) ∧
      segments.map (fun s => s.segmentIndex.toNat) = List.range' position segments.length := by
  induction segments generalizing position root with
  | nil => simp [transcriptLoop, Linked]
  | cons s segments ih =>
    rw [List.length_cons] at hlen
    have hpos : s.segmentIndex = UInt64.ofNat position ↔ s.segmentIndex.toNat = position := by
      rw [← UInt64.toNat_inj, UInt64.toNat_ofNat_of_lt' (show position < UInt64.size by
        have hsize : UInt64.size = 2^64 := rfl
        omega)]
    simp only [transcriptLoop, unit_bind_eq_ok, failIf_eq_ok, ne_eq, not_not, not_le,
      ih (show position+1+segments.length ≤ 2^64 by omega), hpos, Linked, List.forall_mem_cons,
      List.map_cons, List.length_cons, List.range'_succ, List.cons.injEq]
    constructor
    · rintro ⟨_, hs, hc, hi, ht, hp, hl, hu, hr⟩
      exact ⟨⟨hp, hl⟩, ⟨⟨hs, hc, ht⟩, hu⟩, hi, hr⟩
    · rintro ⟨⟨hp, hl⟩, ⟨⟨hs, hc, ht⟩, hu⟩, hi, hr⟩
      exact ⟨by omega, hs, hc, hi, ht, hp, hl, hu, hr⟩

lemma checkedMul_eq_some {a b c : ℕ} : checkedMul a b = some c ↔ c = a*b ∧ a*b < 2^64 := by
  by_cases h : a*b < 2^64
  · rw [checkedMul, if_pos h, Option.some.injEq, eq_comm]
    exact (and_iff_left h).symm
  · rw [checkedMul, if_neg h]
    constructor
    · intro hc
      cases hc
    · intro hc
      exact absurd hc.2 h

/-- The checks that the verifier of a side makes before its loop, and what it reports. -/
lemma verifyAllocationTranscriptChain_checks {label : String} {side : RgkAllocationTranscriptSide}
    {segments : List (AllocationTranscriptSegmentStatement allocs)}
    {r : AllocationTranscriptChainAudit} :
    verifyAllocationTranscriptChain H label side segments = .ok r ↔
      allocs ≠ 0 ∧ ∃ first, segments.head? = some first ∧ first.side = side ∧
        first.previousRoot = allocationTranscriptEmptyRoot H side ∧
        segments.length*allocs < 2^64 ∧
        first.totalCount = UInt64.ofNat (segments.length*allocs) ∧
        ∃ finalRoot, transcriptLoop label side first.chainId first.totalCount 0
            first.previousRoot segments = .ok finalRoot ∧
          r = ⟨first.chainId, first.totalCount, finalRoot⟩ := by
  simp only [verifyAllocationTranscriptChain, unit_bind_eq_ok, failIf_eq_ok]
  refine and_congr_right fun _ => ?_
  rw [bind_eq_ok]
  refine exists_congr fun first => ?_
  simp only [okOr_eq_ok, unit_bind_eq_ok, failIf_eq_ok, ne_eq, not_not]
  refine and_congr_right fun _ => and_congr_right fun _ => and_congr_right fun _ => ?_
  rw [bind_eq_ok]
  constructor
  · rintro ⟨expected, hexpected, h⟩
    obtain ⟨rfl, hlt⟩ := checkedMul_eq_some.mp (okOr_eq_ok.mp hexpected)
    simp only [unit_bind_eq_ok, failIf_eq_ok, not_not] at h
    obtain ⟨-, hcount, h⟩ := h
    obtain ⟨final, hloop, h⟩ := bind_eq_ok.mp h
    rw [← hcount] at hloop h
    exact ⟨hlt, hcount, final, hloop, (Except.ok.inj h).symm⟩
  · rintro ⟨hlt, hcount, final, hloop, rfl⟩
    refine ⟨_, okOr_eq_ok.mpr (checkedMul_eq_some.mpr ⟨rfl, hlt⟩), ?_⟩
    simp only [unit_bind_eq_ok, failIf_eq_ok, not_not, not_le, ← hcount]
    exact ⟨hlt, trivial, bind_eq_ok.mpr ⟨final, hloop, rfl⟩⟩

theorem verifyAllocationTranscriptChain_eq_ok {label : String}
    {side : RgkAllocationTranscriptSide}
    {segments : List (AllocationTranscriptSegmentStatement allocs)}
    {r : AllocationTranscriptChainAudit} :
    verifyAllocationTranscriptChain H label side segments = .ok r ↔
      allocs ≠ 0 ∧ TranscriptChain H side segments r.chainId r.totalCount r.finalRoot := by
  rw [verifyAllocationTranscriptChain_checks]
  refine and_congr_right fun hne => ?_
  have hlen : segments.length ≤ segments.length*allocs :=
    Nat.le_mul_of_pos_right _ (Nat.pos_of_ne_zero hne)
  constructor
  · rintro ⟨first, hfirst, -, hroot, hlt, hcount, final, hloop, rfl⟩
    rw [transcriptLoop_eq_ok (by omega), hroot, ← List.range_eq_range'] at hloop
    obtain ⟨hlinked, huniform, hindices⟩ := hloop
    refine ⟨?_, ?_, huniform, hindices, hlinked⟩
    · rintro rfl
      cases hfirst
    · have hsize : UInt64.size = 2^64 := rfl
      rw [hcount]
      exact UInt64.toNat_ofNat_of_lt' (by omega)
  · intro hchain
    obtain ⟨first, rest, rfl⟩ := List.exists_cons_of_ne_nil hchain.nonempty
    obtain ⟨hside, hid, hfirst⟩ := hchain.uniform first (by simp)
    have hlt : (first :: rest).length*allocs < 2^64 := hchain.total ▸ r.totalCount.toNat_lt
    have hloop : transcriptLoop label side r.chainId r.totalCount 0
        (allocationTranscriptEmptyRoot H side) (first :: rest) = .ok r.finalRoot :=
      (transcriptLoop_eq_ok (by omega)).mpr
        ⟨hchain.linked, hchain.uniform, by rw [← List.range_eq_range']; exact hchain.indices⟩
    refine ⟨first, rfl, hside, hchain.linked.1, hlt, ?_, r.finalRoot, ?_, ?_⟩
    · rw [hfirst, ← hchain.total, UInt64.ofNat_toNat]
    · rw [hid, hfirst, hchain.linked.1, hloop]
    · rw [hid, hfirst]

lemma conservationLoop_eq_ok {label : String} {position : ℕ} {c : Bytes32} {last : Option Bytes32}
    {pairs : List (AllocationTranscriptSegmentStatement allocs ×
      AllocationConservationSegmentStatement allocs)} :
    conservationLoop label (position+1) (some c) pairs = .ok last ↔
      (∀ p ∈ pairs, p.2.transcript = p.1) ∧ ∃ d, last = some d ∧
        Linked (fun p => p.2.previousTotalCommitment) (fun p => p.2.nextTotalCommitment) c pairs
          d := by
  induction pairs generalizing position c with
  | nil => simp [conservationLoop, Linked, eq_comm]
  | cons p pairs ih =>
    simp only [conservationLoop, unit_bind_eq_ok, failIf_eq_ok, whenSome, ne_eq, not_not, ih,
      Linked, List.forall_mem_cons, Nat.add_eq_zero_iff, one_ne_zero, and_false, false_and,
      not_false_eq_true, true_and]
    constructor
    · rintro ⟨ht, hc, hall, d, hd, hl⟩
      exact ⟨⟨ht, hall⟩, d, hd, hc, hl⟩
    · rintro ⟨⟨ht, hall⟩, d, hd, hc, hl⟩
      exact ⟨ht, hc, hall, d, hd, hl⟩

/-- An accepted conservation chain extends the transcripts one by one and its commitments lead
to the final one. -/
theorem verifyAllocationConservationChain_inv {label : String}
    {transcripts : List (AllocationTranscriptSegmentStatement allocs)}
    {conservation : List (AllocationConservationSegmentStatement allocs)} {final : Bytes32}
    (h : verifyAllocationConservationChain label transcripts conservation final = .ok ()) :
    conservation.map AllocationConservationSegmentStatement.transcript = transcripts ∧
      ∃ start, Linked AllocationConservationSegmentStatement.previousTotalCommitment
        AllocationConservationSegmentStatement.nextTotalCommitment start conservation final := by
  obtain ⟨hlen, h⟩ := unit_bind_eq_ok.mp h
  obtain ⟨last, hloop, hlast⟩ := bind_eq_ok.mp h
  rw [failIf_eq_ok, ne_eq, not_not] at hlen hlast
  have hsnd : (transcripts.zip conservation).map Prod.snd = conservation :=
    List.map_snd_zip hlen.le
  have hfst : (transcripts.zip conservation).map Prod.fst = transcripts :=
    List.map_fst_zip hlen.ge
  cases hpairs : transcripts.zip conservation with
  | nil =>
    rw [hpairs, conservationLoop, hlast] at hloop
    cases Except.ok.inj hloop
  | cons p pairs =>
    rw [hpairs] at hloop hsnd hfst
    simp only [conservationLoop, unit_bind_eq_ok, failIf_eq_ok, ne_eq, not_not, Nat.zero_add,
      hlast] at hloop
    obtain ⟨ht, _, _, hrest⟩ := hloop
    obtain ⟨hall, d, hd, hlinked⟩ := conservationLoop_eq_ok.mp hrest
    rw [← hsnd, ← hfst, Option.some.inj hd]
    refine ⟨?_, p.2.previousTotalCommitment, (linked_map_edges Prod.snd).mpr ⟨rfl, hlinked⟩⟩
    rw [List.map_map]
    exact List.map_congr_left (List.forall_mem_cons.mpr ⟨ht, hall⟩)

theorem verifyAllocationConservationChain_of {label : String}
    {transcripts : List (AllocationTranscriptSegmentStatement allocs)}
    {conservation : List (AllocationConservationSegmentStatement allocs)} {start final : Bytes32}
    (hext : conservation.map AllocationConservationSegmentStatement.transcript = transcripts)
    (hne : conservation ≠ [])
    (hzero : ∀ t, transcripts.head? = some t → t.segmentIndex = 0)
    (hlinked : Linked AllocationConservationSegmentStatement.previousTotalCommitment
      AllocationConservationSegmentStatement.nextTotalCommitment start conservation final) :
    verifyAllocationConservationChain label transcripts conservation final = .ok () := by
  obtain ⟨c, rest, rfl⟩ := List.exists_cons_of_ne_nil hne
  rw [← hext, List.map_cons] at hzero ⊢
  have hrest : conservationLoop label 1 (some c.nextTotalCommitment)
      ((rest.map AllocationConservationSegmentStatement.transcript).zip rest) = .ok (some final) := by
    refine conservationLoop_eq_ok.mpr ⟨?_, final, rfl, ?_⟩
    · have hzip : (rest.map AllocationConservationSegmentStatement.transcript).zip rest =
          rest.map (fun d => (d.transcript, d)) := by
        nth_rewrite 2 [← List.map_id rest]
        exact List.zip_map'
      intro p hp
      rw [hzip, List.mem_map] at hp
      obtain ⟨d, -, rfl⟩ := hp
      rfl
    · have hsnd : ((rest.map AllocationConservationSegmentStatement.transcript).zip rest).map
          Prod.snd = rest := List.map_snd_zip (by simp)
      apply (linked_map_edges Prod.snd).mp
      rw [hsnd]
      exact hlinked.2
  refine unit_bind_eq_ok.mpr ⟨by simp, bind_eq_ok.mpr ⟨some final, ?_, by simp⟩⟩
  simp only [List.zip_cons_cons, conservationLoop, unit_bind_eq_ok, failIf_eq_ok, whenSome,
    ne_eq, not_not, not_and, hzero _ rfl]
  exact ⟨trivial, fun _ => trivial, trivial, hrest⟩

lemma TranscriptChain.eq_of_index {side : RgkAllocationTranscriptSide}
    {segments : List (AllocationTranscriptSegmentStatement allocs)} {chainId : KaspaChainId}
    {total : UInt64} {final : Bytes32} (h : TranscriptChain H side segments chainId total final)
    {s t : AllocationTranscriptSegmentStatement allocs} (hs : s ∈ segments) (ht : t ∈ segments)
    (hst : s.segmentIndex = t.segmentIndex) : s = t := by
  have hnodup : (segments.map (fun s => s.segmentIndex.toNat)).Nodup := by
    rw [h.indices]
    exact List.nodup_range
  exact List.inj_on_of_nodup_map hnodup hs ht (congrArg UInt64.toNat hst)

lemma TranscriptChain.find_eq_some {side : RgkAllocationTranscriptSide}
    {segments : List (AllocationTranscriptSegmentStatement allocs)} {chainId : KaspaChainId}
    {total : UInt64} {final : Bytes32} (h : TranscriptChain H side segments chainId total final)
    {i : UInt64} {s : AllocationTranscriptSegmentStatement allocs} :
    segments.find? (fun segment => segment.segmentIndex = i) = some s ↔
      s ∈ segments ∧ s.segmentIndex = i := by
  constructor
  · intro hfind
    exact ⟨List.mem_of_find?_eq_some hfind, by simpa using List.find?_some hfind⟩
  · rintro ⟨hmem, rfl⟩
    cases hfind : segments.find? (fun segment => segment.segmentIndex = s.segmentIndex) with
    | none =>
      have hnone := List.find?_eq_none.mp hfind s hmem
      simp at hnone
    | some t =>
      have hindex : t.segmentIndex = s.segmentIndex := by simpa using List.find?_some hfind
      rw [h.eq_of_index (List.mem_of_find?_eq_some hfind) hmem hindex]

end Chains

section Grid
variable {H : List UInt8 → Bytes32} {spent new : ℕ}
  {spentTranscripts : List (AllocationTranscriptSegmentStatement spent)}
  {newTranscripts : List (AllocationTranscriptSegmentStatement new)} {chainId : KaspaChainId}

/-- The indices of a pair of segments. -/
def pairIndices (e : AllocationExclusionSegmentPairStatement spent new) : UInt64 × UInt64 :=
  (e.spentSegmentIndex, e.newSegmentIndex)

/-- The pairs in any order: each binds a segment of either side, none is listed twice, and every
pair of segments is there. -/
structure ExclusionGrid (spentTranscripts : List (AllocationTranscriptSegmentStatement spent))
    (newTranscripts : List (AllocationTranscriptSegmentStatement new))
    (exclusions : List (AllocationExclusionSegmentPairStatement spent new)) : Prop where
  fits : spentTranscripts.length*newTranscripts.length < 2^64
  size : exclusions.length = spentTranscripts.length*newTranscripts.length
  distinct : (exclusions.map pairIndices).Nodup
  bound : ∀ e ∈ exclusions, e.spentSegment ∈ spentTranscripts ∧ e.newSegment ∈ newTranscripts
  covered : ∀ s ∈ spentTranscripts, ∀ n ∈ newTranscripts, (s.segmentIndex, n.segmentIndex) ∈
    exclusions.map pairIndices

/-- No part of it depends on the order of the pairs. -/
lemma ExclusionGrid.perm {es fs : List (AllocationExclusionSegmentPairStatement spent new)}
    (h : ExclusionGrid spentTranscripts newTranscripts es) (hp : es.Perm fs) :
    ExclusionGrid spentTranscripts newTranscripts fs where
  fits := h.fits
  size := hp.length_eq ▸ h.size
  distinct := (hp.map _).nodup_iff.mp h.distinct
  bound e he := h.bound e (hp.mem_iff.mpr he)
  covered s hs n hn := (hp.map _).mem_iff.mp (h.covered s hs n hn)

variable {spentTotal newTotal : UInt64} {spentFinal newFinal : Bytes32}

lemma binds_spent_iff (hs : TranscriptChain H .spent spentTranscripts chainId spentTotal spentFinal)
    {e : AllocationExclusionSegmentPairStatement spent new} (hchain : e.chainId = chainId) :
    (∃ s, spentTranscripts.find? (fun segment => segment.segmentIndex = e.spentSegmentIndex) =
        some s ∧ ¬(e.spentPreviousRoot ≠ s.previousRoot ∨ e.spentNextRoot ≠ s.nextRoot ∨
          e.spentTotalCount ≠ s.totalCount ∨
          e.spentAmountCommitment ≠ s.segmentAmountCommitment)) ↔
      e.spentSegment ∈ spentTranscripts := by
  simp only [hs.find_eq_some, ne_eq, not_or, not_not]
  constructor
  · rintro ⟨s, ⟨hmem, hindex⟩, hp, hx, ht, hc⟩
    obtain ⟨hside, hid, -⟩ := hs.uniform s hmem
    have heq : e.spentSegment = s := by
      rw [AllocationExclusionSegmentPairStatement.spentSegment, hp, hx, ht, hc, hchain, ← hindex,
        ← hside, ← hid]
    rwa [heq]
  · intro hmem
    exact ⟨e.spentSegment, ⟨hmem, rfl⟩, rfl, rfl, rfl, rfl⟩

lemma binds_new_iff (hn : TranscriptChain H .new newTranscripts chainId newTotal newFinal)
    {e : AllocationExclusionSegmentPairStatement spent new} (hchain : e.chainId = chainId) :
    (∃ n, newTranscripts.find? (fun segment => segment.segmentIndex = e.newSegmentIndex) =
        some n ∧ ¬(e.newPreviousRoot ≠ n.previousRoot ∨ e.newNextRoot ≠ n.nextRoot ∨
          e.newTotalCount ≠ n.totalCount ∨
          e.newAmountCommitment ≠ n.segmentAmountCommitment)) ↔
      e.newSegment ∈ newTranscripts := by
  simp only [hn.find_eq_some, ne_eq, not_or, not_not]
  constructor
  · rintro ⟨n, ⟨hmem, hindex⟩, hp, hx, ht, hc⟩
    obtain ⟨hside, hid, -⟩ := hn.uniform n hmem
    have heq : e.newSegment = n := by
      rw [AllocationExclusionSegmentPairStatement.newSegment, hp, hx, ht, hc, hchain, ← hindex,
        ← hside, ← hid]
    rwa [heq]
  · intro hmem
    exact ⟨e.newSegment, ⟨hmem, rfl⟩, rfl, rfl, rfl, rfl⟩

/-- What the loop accepts: pairs that bind a segment of either side, none seen before; it records
their indices. -/
lemma exclusionLoop_eq_ok
    (hs : TranscriptChain H .spent spentTranscripts chainId spentTotal spentFinal)
    (hn : TranscriptChain H .new newTranscripts chainId newTotal newFinal)
    {exclusions : List (AllocationExclusionSegmentPairStatement spent new)}
    {seen out : List (UInt64 × UInt64)} :
    exclusionLoop spentTranscripts newTranscripts chainId seen exclusions = .ok out ↔
      (∀ e ∈ exclusions, e.spentSegment ∈ spentTranscripts ∧ e.newSegment ∈ newTranscripts) ∧
      (∀ e ∈ exclusions, pairIndices e ∉ seen) ∧
      (exclusions.map pairIndices).Nodup ∧
      out = seen ++ exclusions.map pairIndices := by
  induction exclusions generalizing seen with
  | nil => simp [exclusionLoop, eq_comm]
  | cons e exclusions ih =>
    have hstep : exclusionLoop spentTranscripts newTranscripts chainId seen (e :: exclusions) =
        .ok out ↔ (e.spentSegment ∈ spentTranscripts ∧ e.newSegment ∈ newTranscripts) ∧
          pairIndices e ∉ seen ∧ exclusionLoop spentTranscripts newTranscripts chainId
            (seen ++ [pairIndices e]) exclusions = .ok out := by
      simp only [exclusionLoop, bind_eq_ok, failIf_eq_ok, okOr_eq_ok]
      constructor
      · rintro ⟨-, hchain, -, hseen, s, hfs, n, hfn, -, hbs, -, hbn, hrest⟩
        rw [ne_eq, not_not] at hchain
        exact ⟨⟨(binds_spent_iff hs hchain).mp ⟨s, hfs, hbs⟩,
          (binds_new_iff hn hchain).mp ⟨n, hfn, hbn⟩⟩, hseen, hrest⟩
      · rintro ⟨⟨hms, hmn⟩, hseen, hrest⟩
        have hchain : e.chainId = chainId := (hs.uniform _ hms).2.1
        obtain ⟨s, hfs, hbs⟩ := (binds_spent_iff hs hchain).mpr hms
        obtain ⟨n, hfn, hbn⟩ := (binds_new_iff hn hchain).mpr hmn
        exact ⟨(), not_not.mpr hchain, (), hseen, s, hfs, n, hfn, (), hbs, (), hbn, hrest⟩
    rw [hstep, ih]
    simp only [List.forall_mem_cons, List.map_cons, List.nodup_cons, List.mem_append,
      List.mem_singleton, not_or, List.append_assoc, List.singleton_append, List.mem_map,
      not_exists, not_and]
    constructor
    · rintro ⟨hb, hseen, hbs, hfresh, hnodup, hout⟩
      exact ⟨⟨hb, hbs⟩, ⟨hseen, fun f hf => (hfresh f hf).1⟩,
        ⟨fun f hf => (hfresh f hf).2, hnodup⟩, hout⟩
    · rintro ⟨⟨hb, hbs⟩, ⟨hseen, hfresh⟩, ⟨hdiff, hnodup⟩, hout⟩
      exact ⟨hb, hseen, hbs, fun f hf => ⟨hfresh f hf, hdiff f hf⟩, hnodup, hout⟩

theorem verifyAllocationExclusionGrid_eq_ok
    {exclusions : List (AllocationExclusionSegmentPairStatement spent new)}
    (hs : TranscriptChain H .spent spentTranscripts chainId spentTotal spentFinal)
    (hn : TranscriptChain H .new newTranscripts chainId newTotal newFinal) :
    verifyAllocationExclusionGrid spentTranscripts newTranscripts exclusions chainId = .ok () ↔
      ExclusionGrid spentTranscripts newTranscripts exclusions := by
  have hcover : ∀ seen : List (UInt64 × UInt64),
      forEnum (fun _ s => forEnum (fun _ n =>
        let i := s.segmentIndex
        let j := n.segmentIndex
        failIf ((i, j) ∉ seen) s!"allocation exclusion grid is missing pair spent={i} new={j}")
        0 newTranscripts) 0 spentTranscripts = .ok () ↔
      ∀ s ∈ spentTranscripts, ∀ n ∈ newTranscripts, (s.segmentIndex, n.segmentIndex) ∈ seen := by
    intro seen
    refine forEnum_eq_ok (fun _ s => ?_) 0 spentTranscripts
    exact forEnum_eq_ok (fun _ n => by rw [failIf_eq_ok, not_not]) 0 newTranscripts
  simp only [verifyAllocationExclusionGrid, bind_eq_ok, okOr_eq_ok, failIf_eq_ok,
    checkedMul_eq_some, ne_eq, not_not, exclusionLoop_eq_ok hs hn, hcover]
  constructor
  · rintro ⟨expected, ⟨rfl, hfits⟩, -, hsize, seen, ⟨hbound, -, hdistinct, rfl⟩, hcovered⟩
    exact ⟨hfits, hsize, hdistinct, hbound, hcovered⟩
  · rintro ⟨hfits, hsize, hdistinct, hbound, hcovered⟩
    exact ⟨_, ⟨rfl, hfits⟩, (), hsize, _, ⟨hbound, by simp, hdistinct, rfl⟩, hcovered⟩

lemma ExclusionGrid.exists_pair
    {exclusions : List (AllocationExclusionSegmentPairStatement spent new)}
    (hs : TranscriptChain H .spent spentTranscripts chainId spentTotal spentFinal)
    (hn : TranscriptChain H .new newTranscripts chainId newTotal newFinal)
    (h : ExclusionGrid spentTranscripts newTranscripts exclusions) :
    ∀ s ∈ spentTranscripts, ∀ n ∈ newTranscripts,
      ∃ e ∈ exclusions, e.spentSegment = s ∧ e.newSegment = n := by
  intro s hsm n hnm
  obtain ⟨e, he, hindex⟩ := List.mem_map.mp (h.covered s hsm n hnm)
  obtain ⟨hspent, hnew⟩ := h.bound e he
  exact ⟨e, he, hs.eq_of_index hspent hsm (congrArg Prod.fst hindex),
    hn.eq_of_index hnew hnm (congrArg Prod.snd hindex)⟩

end Grid

/-- Everything the acceptance of a bundle amounts to. -/
structure PassedAudit (H : List UInt8 → Bytes32) {spent new : ℕ}
    (b : AllocationAuditBundle spent new) (r : AllocationAuditBundleReport) : Prop where
  spentArity : spent ≠ 0
  newArity : new ≠ 0
  spentChain : TranscriptChain H .spent b.spentTranscripts r.chainId r.spentTotalCount
    r.spentFinalRoot
  newChain : TranscriptChain H .new b.newTranscripts r.chainId r.newTotalCount r.newFinalRoot
  spentCount : b.finalConservation.spentTotalCount = r.spentTotalCount
  newCount : b.finalConservation.newTotalCount = r.newTotalCount
  spentExtends : b.spentConservation.map AllocationConservationSegmentStatement.transcript =
    b.spentTranscripts
  newExtends : b.newConservation.map AllocationConservationSegmentStatement.transcript =
    b.newTranscripts
  spentTotals : ∃ start, Linked AllocationConservationSegmentStatement.previousTotalCommitment
    AllocationConservationSegmentStatement.nextTotalCommitment start b.spentConservation
    b.finalConservation.spentTotalCommitment
  newTotals : ∃ start, Linked AllocationConservationSegmentStatement.previousTotalCommitment
    AllocationConservationSegmentStatement.nextTotalCommitment start b.newConservation
    b.finalConservation.newTotalCommitment
  grid : ExclusionGrid b.spentTranscripts b.newTranscripts b.exclusions
  spentSegments : r.spentSegments = b.spentTranscripts.length
  newSegments : r.newSegments = b.newTranscripts.length
  exclusionPairs : r.exclusionPairs = b.exclusions.length
  spentTotalCommitment : r.spentTotalCommitment = b.finalConservation.spentTotalCommitment
  newTotalCommitment : r.newTotalCommitment = b.finalConservation.newTotalCommitment

lemma TranscriptChain.conservation_ok {H : List UInt8 → Bytes32} {allocs : ℕ} (label : String)
    {side : RgkAllocationTranscriptSide}
    {transcripts : List (AllocationTranscriptSegmentStatement allocs)} {chainId : KaspaChainId}
    {total : UInt64} {root final : Bytes32}
    (hchain : TranscriptChain H side transcripts chainId total root)
    {conservation : List (AllocationConservationSegmentStatement allocs)}
    (hext : conservation.map AllocationConservationSegmentStatement.transcript = transcripts)
    (htotals : ∃ start, Linked AllocationConservationSegmentStatement.previousTotalCommitment
      AllocationConservationSegmentStatement.nextTotalCommitment start conservation final) :
    verifyAllocationConservationChain label transcripts conservation final = .ok () := by
  obtain ⟨start, hlinked⟩ := htotals
  refine verifyAllocationConservationChain_of hext ?_ ?_ hlinked
  · rintro rfl
    exact hchain.nonempty hext.symm
  · intro t ht
    obtain ⟨rest, rfl⟩ := List.head?_eq_some_iff.mp ht
    have hindices := hchain.indices
    rw [List.map_cons, List.length_cons, List.range_succ_eq_map, List.cons.injEq] at hindices
    exact UInt64.toNat_inj.mp hindices.1

theorem verifyAllocationAuditBundle_eq_ok {H : List UInt8 → Bytes32} {spent new : ℕ}
    {b : AllocationAuditBundle spent new} {r : AllocationAuditBundleReport} :
    verifyAllocationAuditBundle H b = .ok r ↔ PassedAudit H b r := by
  constructor
  · intro h
    obtain ⟨harity, h⟩ := unit_bind_eq_ok.mp h
    obtain ⟨spentChain, hspent, h⟩ := bind_eq_ok.mp h
    obtain ⟨newChain, hnew, h⟩ := bind_eq_ok.mp h
    obtain ⟨hids, h⟩ := unit_bind_eq_ok.mp h
    obtain ⟨hsc, h⟩ := unit_bind_eq_ok.mp h
    obtain ⟨hnc, h⟩ := unit_bind_eq_ok.mp h
    obtain ⟨hscons, h⟩ := unit_bind_eq_ok.mp h
    obtain ⟨hncons, h⟩ := unit_bind_eq_ok.mp h
    obtain ⟨hgrid, h⟩ := unit_bind_eq_ok.mp h
    rw [failIf_eq_ok, not_or] at harity
    rw [failIf_eq_ok, ne_eq, not_not] at hids hsc hnc
    obtain ⟨_, hs⟩ := verifyAllocationTranscriptChain_eq_ok.mp hspent
    obtain ⟨_, hn⟩ := verifyAllocationTranscriptChain_eq_ok.mp hnew
    rw [← hids] at hn
    obtain ⟨hse, hst⟩ := verifyAllocationConservationChain_inv hscons
    obtain ⟨hne, hnt⟩ := verifyAllocationConservationChain_inv hncons
    have hg := (verifyAllocationExclusionGrid_eq_ok hs hn).mp hgrid
    rw [← Except.ok.inj h]
    exact ⟨harity.1, harity.2, hs, hn, hsc, hnc, hse, hne, hst, hnt, hg, rfl, rfl, rfl, rfl, rfl⟩
  · intro h
    have hspent : verifyAllocationTranscriptChain H "spent" .spent b.spentTranscripts =
        .ok ⟨r.chainId, r.spentTotalCount, r.spentFinalRoot⟩ :=
      verifyAllocationTranscriptChain_eq_ok.mpr ⟨h.spentArity, h.spentChain⟩
    have hnew : verifyAllocationTranscriptChain H "new" .new b.newTranscripts =
        .ok ⟨r.chainId, r.newTotalCount, r.newFinalRoot⟩ :=
      verifyAllocationTranscriptChain_eq_ok.mpr ⟨h.newArity, h.newChain⟩
    have hgrid := (verifyAllocationExclusionGrid_eq_ok h.spentChain h.newChain).mpr h.grid
    refine unit_bind_eq_ok.mpr ⟨failIf_eq_ok.mpr (not_or.mpr ⟨h.spentArity, h.newArity⟩), ?_⟩
    refine bind_eq_ok.mpr ⟨_, hspent, bind_eq_ok.mpr ⟨_, hnew, ?_⟩⟩
    have hscons := h.spentChain.conservation_ok "spent" h.spentExtends h.spentTotals
    have hncons := h.newChain.conservation_ok "new" h.newExtends h.newTotals
    simp only [unit_bind_eq_ok, failIf_eq_ok, ne_eq, not_not, h.spentCount, h.newCount, true_and,
      hscons, hncons, hgrid]
    simp only [← h.spentSegments, ← h.newSegments, ← h.exclusionPairs, ← h.spentTotalCommitment,
      ← h.newTotalCommitment]

end RgkProtocol.AuditBundle
