import RgkProtocol.AuditBundle

/-!
# Building the statements of an audit

The constructors compute the statements of a segment from the native allocations in it. Each
refuses a segment that does not have exactly the arity of its circuit.
-/
namespace RgkProtocol.AuditConstruction
open ByteStrings Hashing CoreTypes Checked AssetTypes AssetEncoding AssetValidation
open AuditStatements

section Constructors
variable (H : List UInt8 → Bytes32)

/-- The sum of the amounts with an overflow check. -/
def amountSum (overflow : String) (allocations : List RgkAllocation) : Except String UInt64 :=
  allocations.foldlM (fun sum a => okOr (checkedAdd sum a.amount) overflow) 0

def allocationAmountSum (allocations : List RgkAllocation) : Except String UInt64 :=
  amountSum "allocation amount sum overflow" allocations

def extendAllocationTranscriptRoot (previousRoot : Bytes32) (side : RgkAllocationTranscriptSide)
    (segmentIndex totalCount : UInt64) (allocations : List RgkAllocation) : Bytes32 :=
  domainHashStr H "rgk:asset:allocation-transcript-segment-root:v1"
    (segmentRootPayload previousRoot side segmentIndex totalCount
      ((sortByKey allocationKey allocations).map encodeAllocation))

/-- The first allocation of a segment; the length check before it makes it exist. -/
def firstAllocation (allocations : List RgkAllocation) : Except String RgkAllocation :=
  okOr allocations.head? "index out of bounds"

def AllocationTranscriptSegmentStatement.fromAllocations (allocs : ℕ) (previousRoot : Bytes32)
    (side : RgkAllocationTranscriptSide) (segmentIndex totalCount : UInt64)
    (allocations : List RgkAllocation) (amountBlinding : Bytes32) :
    Except String (AllocationTranscriptSegmentStatement allocs) := do
  let got := allocations.length
  failIf (allocs = 0) "allocation transcript segment requires at least one allocation"
  failIf (allocations.length ≠ allocs)
    s!"expected {allocs} allocation transcript witnesses, got {got}"
  failIf (totalCount.toNat < allocs)
    s!"total allocation count {totalCount} is smaller than segment length {allocs}"
  let first ← firstAllocation allocations
  let chainId := first.anchor.chain
  failIf (∃ a ∈ allocations, a.anchor.chain ≠ chainId)
    "allocation transcript segment contains mixed chain ids"
  let segmentAmount ← amountSum "allocation transcript segment amount overflow" allocations
  failIf (segmentAmount = 0) "allocation transcript segment amount must be non-zero"
  .ok { previousRoot, chainId, side, segmentIndex, totalCount,
        nextRoot := extendAllocationTranscriptRoot H previousRoot side segmentIndex totalCount
          allocations
        segmentAmountCommitment := allocationTranscriptAmountCommitment H side segmentIndex
          totalCount segmentAmount amountBlinding }

def AllocationConservationSegmentStatement.fromAllocations (allocs : ℕ) (previousRoot : Bytes32)
    (side : RgkAllocationTranscriptSide) (segmentIndex totalCount previousRunningTotal : UInt64)
    (allocations : List RgkAllocation)
    (amountBlinding previousTotalBlinding nextTotalBlinding : Bytes32) :
    Except String (AllocationConservationSegmentStatement allocs) := do
  failIf (previousTotalBlinding = Bytes.zero ∨ nextTotalBlinding = Bytes.zero)
    "allocation conservation running total blindings must be non-zero"
  failIf (segmentIndex = 0 ∧ previousRunningTotal ≠ 0)
    "initial allocation conservation segment must start from zero"
  let transcript ← AllocationTranscriptSegmentStatement.fromAllocations H allocs previousRoot side
    segmentIndex totalCount allocations amountBlinding
  let segmentAmount ← allocationAmountSum allocations
  let nextRunningTotal ← okOr (checkedAdd previousRunningTotal segmentAmount)
    "allocation conservation running total overflow"
  .ok { transcript
        previousTotalCommitment := allocationConservationTotalCommitment H side totalCount
          previousRunningTotal previousTotalBlinding
        nextTotalCommitment := allocationConservationTotalCommitment H side totalCount
          nextRunningTotal nextTotalBlinding }

def AllocationConservationFinalStatement.fromTotal
    (spentTotalCount newTotalCount total : UInt64) (spentTotalBlinding newTotalBlinding : Bytes32) :
    Except String AllocationConservationFinalStatement := do
  failIf (spentTotalCount = 0 ∨ newTotalCount = 0)
    "allocation conservation final counts must be non-zero"
  failIf (total = 0) "allocation conservation final total must be non-zero"
  failIf (spentTotalBlinding = Bytes.zero ∨ newTotalBlinding = Bytes.zero)
    "allocation conservation final blindings must be non-zero"
  .ok { spentTotalCount, newTotalCount
        spentTotalCommitment := allocationConservationTotalCommitment H .spent spentTotalCount total
          spentTotalBlinding
        newTotalCommitment := allocationConservationTotalCommitment H .new newTotalCount total
          newTotalBlinding }

def AllocationExclusionSegmentPairStatement.fromAllocations (spent new : ℕ)
    (spentPreviousRoot newPreviousRoot : Bytes32)
    (spentSegmentIndex newSegmentIndex spentTotalCount newTotalCount : UInt64)
    (spentAllocations newAllocations : List RgkAllocation)
    (spentAmountBlinding newAmountBlinding : Bytes32) :
    Except String (AllocationExclusionSegmentPairStatement spent new) := do
  let gotSpent := spentAllocations.length
  let gotNew := newAllocations.length
  failIf (spent = 0 ∨ new = 0)
    "allocation exclusion segment-pair proof requires non-empty spent and new segments"
  failIf (spentAllocations.length ≠ spent ∨ newAllocations.length ≠ new)
    s!"expected spent/new segment lengths {spent}/{new}, got {gotSpent}/{gotNew}"
  failIf (spentTotalCount.toNat < spent ∨ newTotalCount.toNat < new)
    "allocation exclusion total counts must cover their segments"
  let first ← firstAllocation spentAllocations
  let chainId := first.anchor.chain
  failIf (∃ a ∈ spentAllocations ++ newAllocations, a.anchor.chain ≠ chainId)
    "allocation exclusion segment-pair proof contains mixed chain ids"
  let spentAmount ← allocationAmountSum spentAllocations
  let newAmount ← allocationAmountSum newAllocations
  failIf (spentAmount = 0 ∨ newAmount = 0) "allocation exclusion segment amount must be non-zero"
  .ok { spentPreviousRoot, newPreviousRoot, chainId, spentSegmentIndex, newSegmentIndex,
        spentTotalCount, newTotalCount
        spentNextRoot := extendAllocationTranscriptRoot H spentPreviousRoot .spent
          spentSegmentIndex spentTotalCount spentAllocations
        newNextRoot := extendAllocationTranscriptRoot H newPreviousRoot .new newSegmentIndex
          newTotalCount newAllocations
        spentAmountCommitment := allocationTranscriptAmountCommitment H .spent spentSegmentIndex
          spentTotalCount spentAmount spentAmountBlinding
        newAmountCommitment := allocationTranscriptAmountCommitment H .new newSegmentIndex
          newTotalCount newAmount newAmountBlinding }

end Constructors

section Sums

lemma foldlM_amounts_eq_ok {overflow : String} {start sum : UInt64} {as : List RgkAllocation} :
    as.foldlM (fun sum a => okOr (checkedAdd sum a.amount) overflow) start = Except.ok sum ↔
      sum.toNat = start.toNat + supplyOf as := by
  induction as generalizing start with
  | nil =>
    simp [supplyOf, pure, Except.pure, ← UInt64.toNat_inj]
    exact eq_comm
  | cons a as ih =>
    rw [List.foldlM_cons, bind_eq_ok]
    simp only [okOr_eq_ok, checkedAdd_eq_some, ih]
    have hcons : supplyOf (a :: as) = a.amount.toNat + supplyOf as := by simp [supplyOf]
    rw [hcons]
    constructor
    · rintro ⟨mid, hmid, hsum⟩
      omega
    · intro hsum
      have hlt := sum.toNat_lt
      refine ⟨UInt64.ofNat (start.toNat + a.amount.toNat), ?_, ?_⟩
      · rw [UInt64.toNat_ofNat']
        exact Nat.mod_eq_of_lt (by omega)
      · rw [UInt64.toNat_ofNat', Nat.mod_eq_of_lt (by omega)]
        omega

lemma amountSum_eq_ok {overflow : String} {sum : UInt64} {as : List RgkAllocation} :
    amountSum overflow as = .ok sum ↔ sum.toNat = supplyOf as := by
  rw [amountSum, foldlM_amounts_eq_ok, UInt64.toNat_zero, Nat.zero_add]

end Sums

section Segments
variable {H : List UInt8 → Bytes32} {allocs : ℕ} {chain : KaspaChainId}

/-- Allocations that fill a segment: as many as its arity, each sound, with a sum that fits. -/
structure FullSegment (allocs : ℕ) (chain : KaspaChainId) (as : List RgkAllocation)
    (amount : UInt64) : Prop where
  arity : allocs ≠ 0
  length : as.length = allocs
  each : ∀ a ∈ as, AllocationOk chain a
  sum : amount.toNat = supplyOf as

lemma FullSegment.first {as : List RgkAllocation} {amount : UInt64}
    (h : FullSegment allocs chain as amount) :
    ∃ a, firstAllocation as = .ok a ∧ a.anchor.chain = chain := by
  have hne : as ≠ [] := by
    rintro rfl
    exact h.arity h.length.symm
  obtain ⟨a, rest, rfl⟩ := List.exists_cons_of_ne_nil hne
  exact ⟨a, rfl, (h.each a List.mem_cons_self).chain⟩

lemma FullSegment.amount_ne {as : List RgkAllocation} {amount : UInt64}
    (h : FullSegment allocs chain as amount) : amount ≠ 0 := by
  obtain ⟨a, rest, rfl⟩ : ∃ a rest, as = a :: rest := by
    apply List.exists_cons_of_ne_nil
    rintro rfl
    exact h.arity h.length.symm
  have hpos : a.amount.toNat ≠ 0 :=
    fun hz => (h.each a List.mem_cons_self).amount (UInt64.toNat_inj.mp hz)
  have hsum := h.sum
  intro hz
  rw [hz] at hsum
  simp [supplyOf] at hsum
  omega

/-- The statement of a full segment. -/
def segmentStatement (H : List UInt8 → Bytes32) (allocs : ℕ) (chain : KaspaChainId)
    (side : RgkAllocationTranscriptSide) (totalCount : UInt64) (previousRoot : Bytes32)
    (segmentIndex : UInt64) (as : List RgkAllocation) (amount : UInt64) (blinding : Bytes32) :
    AllocationTranscriptSegmentStatement allocs :=
  ⟨previousRoot, extendAllocationTranscriptRoot H previousRoot side segmentIndex totalCount as,
    chain, side, segmentIndex, totalCount,
    allocationTranscriptAmountCommitment H side segmentIndex totalCount amount blinding⟩

lemma transcript_fromAllocations {as : List RgkAllocation} {amount totalCount : UInt64}
    (h : FullSegment allocs chain as amount) (hcount : allocs ≤ totalCount.toNat)
    (previousRoot : Bytes32) (side : RgkAllocationTranscriptSide) (segmentIndex : UInt64)
    (blinding : Bytes32) :
    AllocationTranscriptSegmentStatement.fromAllocations H allocs previousRoot side segmentIndex
      totalCount as blinding = .ok (segmentStatement H allocs chain side totalCount previousRoot
        segmentIndex as amount blinding) := by
  obtain ⟨first, hfirst, hchain⟩ := h.first
  refine unit_bind_eq_ok.mpr ⟨failIf_eq_ok.mpr h.arity, ?_⟩
  refine unit_bind_eq_ok.mpr ⟨failIf_eq_ok.mpr (not_not.mpr h.length), ?_⟩
  refine unit_bind_eq_ok.mpr ⟨failIf_eq_ok.mpr (not_lt.mpr hcount), ?_⟩
  refine bind_eq_ok.mpr ⟨first, hfirst, ?_⟩
  rw [hchain]
  refine unit_bind_eq_ok.mpr ⟨failIf_eq_ok.mpr ?_, ?_⟩
  · rintro ⟨a, ha, hne⟩
    exact hne (h.each a ha).chain
  · refine bind_eq_ok.mpr ⟨amount, amountSum_eq_ok.mpr h.sum, ?_⟩
    exact unit_bind_eq_ok.mpr ⟨failIf_eq_ok.mpr h.amount_ne, rfl⟩

lemma conservation_fromAllocations {as : List RgkAllocation}
    {amount totalCount before after : UInt64}
    (h : FullSegment allocs chain as amount) (hcount : allocs ≤ totalCount.toNat)
    (hafter : after.toNat = before.toNat + amount.toNat)
    (previousRoot : Bytes32) (side : RgkAllocationTranscriptSide) {segmentIndex : UInt64}
    (hstart : segmentIndex = 0 → before = 0) (blinding : Bytes32)
    {beforeBlinding afterBlinding : Bytes32} (hb : beforeBlinding ≠ Bytes.zero)
    (ha : afterBlinding ≠ Bytes.zero) :
    AllocationConservationSegmentStatement.fromAllocations H allocs previousRoot side segmentIndex
      totalCount before as blinding beforeBlinding afterBlinding =
        .ok ⟨segmentStatement H allocs chain side totalCount previousRoot segmentIndex as amount
          blinding, allocationConservationTotalCommitment H side totalCount before beforeBlinding,
          allocationConservationTotalCommitment H side totalCount after afterBlinding⟩ := by
  refine unit_bind_eq_ok.mpr ⟨failIf_eq_ok.mpr (not_or.mpr ⟨hb, ha⟩), ?_⟩
  refine unit_bind_eq_ok.mpr ⟨failIf_eq_ok.mpr (fun hs => hs.2 (hstart hs.1)), ?_⟩
  refine bind_eq_ok.mpr ⟨_, transcript_fromAllocations h hcount previousRoot side segmentIndex
    blinding, ?_⟩
  refine bind_eq_ok.mpr ⟨amount, amountSum_eq_ok.mpr h.sum, ?_⟩
  exact bind_eq_ok.mpr ⟨after, okOr_eq_ok.mpr (checkedAdd_eq_some.mpr hafter), rfl⟩

/-- The statement that both sides end at one total. -/
def finalStatement (H : List UInt8 → Bytes32) (spentTotal newTotal total : UInt64)
    (spentBlinding newBlinding : Bytes32) : AllocationConservationFinalStatement :=
  ⟨spentTotal, newTotal,
    allocationConservationTotalCommitment H .spent spentTotal total spentBlinding,
    allocationConservationTotalCommitment H .new newTotal total newBlinding⟩

lemma fromTotal_eq_ok {spentTotal newTotal total : UInt64} {spentBlinding newBlinding : Bytes32}
    {final : AllocationConservationFinalStatement} :
    AllocationConservationFinalStatement.fromTotal H spentTotal newTotal total spentBlinding
      newBlinding = .ok final ↔
        (spentTotal ≠ 0 ∧ newTotal ≠ 0) ∧ total ≠ 0 ∧
        (spentBlinding ≠ Bytes.zero ∧ newBlinding ≠ Bytes.zero) ∧
        finalStatement H spentTotal newTotal total spentBlinding newBlinding = final := by
  simp only [AllocationConservationFinalStatement.fromTotal, unit_bind_eq_ok, failIf_eq_ok, not_or,
    Except.ok.injEq, finalStatement, ne_eq]

lemma pairStatement_segments {spent new : ℕ} {s : AllocationTranscriptSegmentStatement spent}
    {n : AllocationTranscriptSegmentStatement new} (hs : s.side = .spent) (hn : n.side = .new)
    (hchain : s.chainId = n.chainId) :
    (pairStatement s n).spentSegment = s ∧ (pairStatement s n).newSegment = n := by
  cases s
  cases n
  cases hs
  cases hn
  cases hchain
  exact ⟨rfl, rfl⟩

lemma exclusion_fromAllocations {spent new : ℕ} {spentAs newAs : List RgkAllocation}
    {spentAmount newAmount spentTotal newTotal : UInt64}
    (hs : FullSegment spent chain spentAs spentAmount)
    (hn : FullSegment new chain newAs newAmount) (hst : spent ≤ spentTotal.toNat)
    (hnt : new ≤ newTotal.toNat) (spentRoot newRoot : Bytes32) (spentIndex newIndex : UInt64)
    (spentBlinding newBlinding : Bytes32) :
    AllocationExclusionSegmentPairStatement.fromAllocations H spent new spentRoot newRoot
      spentIndex newIndex spentTotal newTotal spentAs newAs spentBlinding newBlinding =
        .ok (pairStatement
          (segmentStatement H spent chain .spent spentTotal spentRoot spentIndex spentAs spentAmount
            spentBlinding)
          (segmentStatement H new chain .new newTotal newRoot newIndex newAs newAmount
            newBlinding)) := by
  obtain ⟨first, hfirst, hchain⟩ := hs.first
  have hmixed : ¬∃ a ∈ spentAs ++ newAs, a.anchor.chain ≠ chain := by
    rintro ⟨a, ha, hne⟩
    rcases List.mem_append.mp ha with ha | ha
    · exact hne (hs.each a ha).chain
    · exact hne (hn.each a ha).chain
  refine unit_bind_eq_ok.mpr ⟨failIf_eq_ok.mpr (not_or.mpr ⟨hs.arity, hn.arity⟩), ?_⟩
  refine unit_bind_eq_ok.mpr ⟨failIf_eq_ok.mpr (not_or.mpr ⟨not_not.mpr hs.length,
    not_not.mpr hn.length⟩), ?_⟩
  refine unit_bind_eq_ok.mpr ⟨failIf_eq_ok.mpr (not_or.mpr ⟨not_lt.mpr hst, not_lt.mpr hnt⟩), ?_⟩
  refine bind_eq_ok.mpr ⟨first, hfirst, ?_⟩
  rw [hchain]
  refine unit_bind_eq_ok.mpr ⟨failIf_eq_ok.mpr hmixed, ?_⟩
  refine bind_eq_ok.mpr ⟨spentAmount, amountSum_eq_ok.mpr hs.sum, ?_⟩
  refine bind_eq_ok.mpr ⟨newAmount, amountSum_eq_ok.mpr hn.sum, ?_⟩
  exact unit_bind_eq_ok.mpr ⟨failIf_eq_ok.mpr (not_or.mpr ⟨hs.amount_ne, hn.amount_ne⟩), rfl⟩

end Segments
end RgkProtocol.AuditConstruction
