import RgkProtocol.AssetValidation
import RgkProtocol.SupplyLedger

/-!
# Digest-linked lineages

A lineage is a validated issue followed by validated transitions, each of which names the
state digest reported by the step before it. The digests carry the whole history: they force
every step to spend what the previous step created, so the lineage simulates a ledger that
conserves the issued supply.
-/
namespace RgkProtocol.AssetLineage
open ByteStrings Hashing CoreTypes Checked AssetTypes AssetEncoding AssetValidation SupplyLedger

/-- What a verifier carries along a lineage; `digests` lists the reported states, newest first. -/
structure LineageState where
  stateDigest : Bytes32
  digests : List Bytes32
  allocations : List RgkAllocation
  burnedSupply : ℕ

section Runs
variable (H : List UInt8 → Bytes32)

inductive Lineage (issue : RgkAssetIssue) : List RgkTransition → LineageState → Prop
  | issue {r : RgkIssueReport} (hv : RgkAssetIssue.validate H issue = .ok r) :
      Lineage issue [] ⟨r.stateDigest, [r.stateDigest], issue.allocations, 0⟩
  | step {ts : List RgkTransition} {s : LineageState} {t : RgkTransition}
      {r : RgkTransitionReport} (hrun : Lineage issue ts s)
      (hv : RgkTransition.validate H t = .ok r) (hlink : t.previousStateDigest = s.stateDigest) :
      Lineage issue (ts ++ [t]) ⟨r.newStateDigest, r.newStateDigest :: s.digests,
        t.newAllocations, s.burnedSupply + r.burnedSupply.toNat⟩

def RgkTransition.preimages (t : RgkTransition) : List (List UInt8) :=
  let policyCommitment := policyCommitmentBytes H t.proofPolicy
  stateDigestPreimages H (RgkTransition.previousInput t policyCommitment) ++
    stateDigestPreimages H (RgkTransition.newInput t policyCommitment)

/-- The strings hashed for the state digests of a lineage. -/
def lineagePreimages (issue : RgkAssetIssue) (ts : List RgkTransition) : List (List UInt8) :=
  stateDigestPreimages H (RgkAssetIssue.stateInput H issue) ++
    ts.flatMap (RgkTransition.preimages H)

/-- What the digest of the newest state of a lineage is computed from. -/
def currentInput (issue : RgkAssetIssue) (ts : List RgkTransition) : RgkStateDigestInput :=
  match ts.getLast? with
  | none => RgkAssetIssue.stateInput H issue
  | some t => RgkTransition.newInput t (policyCommitmentBytes H t.proofPolicy)

/-- Each transition spends, as a multiset, what the step before it created. -/
def SpendsCreated (created : List RgkAllocation) : List RgkTransition → Prop
  | [] => True
  | t :: ts => t.spentAllocations.Perm created ∧ SpendsCreated t.newAllocations ts

end Runs

/-- The allocations that the last step of a lineage created. -/
def lastCreated (created : List RgkAllocation) : List RgkTransition → List RgkAllocation
  | [] => created
  | t :: ts => lastCreated t.newAllocations ts

lemma lastCreated_concat (created : List RgkAllocation) (ts : List RgkTransition)
    (t : RgkTransition) : lastCreated created (ts ++ [t]) = t.newAllocations := by
  induction ts generalizing created with
  | nil => rfl
  | cons u ts ih => exact ih u.newAllocations

lemma spendsCreated_concat {created : List RgkAllocation} {ts : List RgkTransition}
    {t : RgkTransition} :
    SpendsCreated created (ts ++ [t]) ↔
      SpendsCreated created ts ∧ t.spentAllocations.Perm (lastCreated created ts) := by
  induction ts generalizing created with
  | nil => simp [SpendsCreated, lastCreated]
  | cons u ts ih => simp only [List.cons_append, SpendsCreated, ih, lastCreated, and_assoc]

section Binding
variable {H : List UInt8 → Bytes32} {issue : RgkAssetIssue}

lemma currentInput_concat (ts : List RgkTransition) (t : RgkTransition) :
    currentInput H issue (ts ++ [t]) =
      RgkTransition.newInput t (policyCommitmentBytes H t.proofPolicy) := by
  simp [currentInput]

lemma currentInput_preimages (ts : List RgkTransition) :
    ∀ x ∈ stateDigestPreimages H (currentInput H issue ts), x ∈ lineagePreimages H issue ts := by
  intro x hx
  cases ts using List.reverseRecOn with
  | nil => exact List.mem_append_left _ hx
  | append_singleton ts t =>
    rw [currentInput_concat] at hx
    simp only [lineagePreimages, List.mem_append, List.mem_flatMap]
    exact Or.inr ⟨t, by simp, List.mem_append_right _ hx⟩

lemma Lineage.current {ts : List RgkTransition} {s : LineageState} (hrun : Lineage H issue ts s) :
    (currentInput H issue ts).allocations = s.allocations ∧
      stateDigestForAllocations H (currentInput H issue ts) = s.stateDigest := by
  cases hrun with
  | issue hv => exact ⟨rfl, (RgkAssetIssue.validate_inv hv).2.symm⟩
  | @step ts s t r hrun hv hlink =>
    rw [currentInput_concat]
    have ha := RgkTransition.validate_inv hv
    refine ⟨rfl, ?_⟩
    rw [ha.report]
    rfl

lemma Lineage.digest_opens {ts : List RgkTransition} {s : LineageState}
    (hrun : Lineage H issue ts s) :
    ∃ input : RgkStateDigestInput, input.allocations = s.allocations ∧
      stateDigestForAllocations H input = s.stateDigest ∧
      ∀ x ∈ stateDigestPreimages H input, x ∈ lineagePreimages H issue ts :=
  ⟨currentInput H issue ts, hrun.current.1, hrun.current.2, currentInput_preimages ts⟩

lemma lineagePreimages_mono (ts us : List RgkTransition) :
    {x | x ∈ lineagePreimages H issue ts} ⊆ {x | x ∈ lineagePreimages H issue (ts ++ us)} := by
  intro x hx
  simp only [lineagePreimages, Set.mem_ofPred_eq, List.mem_append, List.flatMap_append] at hx ⊢
  rcases hx with hx | hx
  · exact Or.inl hx
  · exact Or.inr (Or.inl hx)

theorem Lineage.consumes_current {ts : List RgkTransition} {s : LineageState}
    {t : RgkTransition} {r : RgkTransitionReport} (hrun : Lineage H issue ts s)
    (hv : RgkTransition.validate H t = .ok r) (hlink : t.previousStateDigest = s.stateDigest)
    (hcf : CollisionFree H {x | x ∈ lineagePreimages H issue (ts ++ [t])}) :
    SameState (RgkTransition.previousInput t (policyCommitmentBytes H t.proofPolicy))
      (currentInput H issue ts) := by
  have ha := RgkTransition.validate_inv hv
  have heq := (ha.previousDigest.trans hlink).trans hrun.current.2.symm
  have hprev : ∀ x ∈ stateDigestPreimages H
      (RgkTransition.previousInput t (policyCommitmentBytes H t.proofPolicy)),
      x ∈ {x | x ∈ lineagePreimages H issue (ts ++ [t])} := by
    intro x hx
    simp only [Set.mem_ofPred_eq, lineagePreimages, List.mem_append, List.mem_flatMap]
    exact Or.inr ⟨t, by simp, List.mem_append_left _ hx⟩
  exact sameState_of_stateDigest_eq hcf hprev
    (fun x hx => lineagePreimages_mono ts [t] (currentInput_preimages ts x hx)) heq

theorem Lineage.spends_current {ts : List RgkTransition} {s : LineageState}
    {t : RgkTransition} {r : RgkTransitionReport} (hrun : Lineage H issue ts s)
    (hv : RgkTransition.validate H t = .ok r) (hlink : t.previousStateDigest = s.stateDigest)
    (hcf : CollisionFree H {x | x ∈ lineagePreimages H issue (ts ++ [t])}) :
    t.spentAllocations.Perm s.allocations :=
  hrun.current.1 ▸ (hrun.consumes_current hv hlink hcf).allocations

lemma Lineage.allocations_eq {ts : List RgkTransition} {s : LineageState}
    (hrun : Lineage H issue ts s) : s.allocations = lastCreated issue.allocations ts := by
  cases hrun with
  | issue hv => rfl
  | step hrun hv hlink => exact (lastCreated_concat _ _ _).symm

theorem Lineage.spendsCreated {ts : List RgkTransition} {s : LineageState}
    (hrun : Lineage H issue ts s) (hcf : CollisionFree H {x | x ∈ lineagePreimages H issue ts}) :
    SpendsCreated issue.allocations ts := by
  induction hrun with
  | issue hv => trivial
  | @step ts s t r hrun hv hlink ih =>
    have hsp := hrun.spends_current hv hlink hcf
    rw [hrun.allocations_eq] at hsp
    exact spendsCreated_concat.mpr ⟨ih (hcf.mono (lineagePreimages_mono ts [t])), hsp⟩

abbrev amountWeight (a : RgkAllocation) : ℕ := a.amount.toNat

lemma supplyOf_eq_multisetSum (as : List RgkAllocation) :
    supplyOf as = ((as : Multiset RgkAllocation).map amountWeight).sum := rfl

/-- Every lineage simulates a conserving ledger of the issued supply. -/
theorem Lineage.simulates_ledger {ts : List RgkTransition} {s : LineageState}
    (hrun : Lineage H issue ts s) (hcf : CollisionFree H {x | x ∈ lineagePreimages H issue ts}) :
    ∃ L : Ledger amountWeight issue.totalSupply.toNat,
      L.live = (s.allocations : Multiset RgkAllocation) ∧ L.burned = s.burnedSupply := by
  induction hrun with
  | issue hv =>
    have hset := (RgkAssetIssue.validate_inv hv).1
    have hsum : ((issue.allocations : Multiset RgkAllocation).map amountWeight).sum =
        issue.totalSupply.toNat := by
      rw [← supplyOf_eq_multisetSum, ← hset.sum]
    exact ⟨Ledger.genesis issue.allocations hsum, rfl, rfl⟩
  | @step ts s t r hrun hv hlink ih =>
    obtain ⟨L, hlive, hburned⟩ := ih (hcf.mono (lineagePreimages_mono ts [t]))
    have ha := RgkTransition.validate_inv hv
    have hsp := hrun.spends_current hv hlink hcf
    have hbal : (L.live.map amountWeight).sum =
        ((t.newAllocations : Multiset RgkAllocation).map amountWeight).sum +
          r.burnedSupply.toNat := by
      have hmove : supplyOf s.allocations = supplyOf t.spentAllocations := (natSum_perm hsp).symm
      rw [hlive, ← supplyOf_eq_multisetSum, ← supplyOf_eq_multisetSum, hmove, ← ha.spent.sum,
        ← ha.new.sum]
      exact ha.delta
    exact ⟨L.replace t.newAllocations r.burnedSupply.toNat hbal, rfl, by simp [hburned]⟩

end Binding

/-- Over a whole lineage the current amounts and everything burned so far add up to the issued
supply, and each transition spends what the step before it created. -/
theorem lineage_supply_conserved (H : List UInt8 → Bytes32) (issue : RgkAssetIssue)
    (ts : List RgkTransition) (s : LineageState) (hrun : Lineage H issue ts s)
    (hcf : CollisionFree H {x | x ∈ lineagePreimages H issue ts}) :
    supplyOf s.allocations + s.burnedSupply = issue.totalSupply.toNat ∧
      SpendsCreated issue.allocations ts := by
  obtain ⟨L, hlive, hburned⟩ := hrun.simulates_ledger hcf
  have hc := L.conserved
  rw [hlive, hburned, ← supplyOf_eq_multisetSum] at hc
  exact ⟨hc, hrun.spendsCreated hcf⟩

section Samples

/-- An allocation in output 0 of the transaction whose id repeats the byte `tx`. -/
def sampleAllocation (tx : UInt8) (amount : UInt64) : RgkAllocation :=
  ⟨⟨.kaspaLocalToccata, ⟨Bytes.fill 32 tx, 0⟩, Bytes.fill 32 0x33, Bytes.fill 32 tx, 100, 10⟩,
    amount, Bytes.fill 32 0x44⟩

def sampleIssue (allocations : List RgkAllocation) : RgkAssetIssue :=
  { chain := .kaspaLocalToccata, schemaId := Bytes.fill 32 0x11, assetId := Bytes.fill 32 0x22,
    totalSupply := 10, metadataCommitment := Bytes.fill 32 0x55,
    ownerCommitment := Bytes.fill 32 0x66, allocations := allocations,
    laneId := Bytes.fill 32 0x77, privacyPolicy := .privateLane,
    proofPolicy := .verifierReceipt (Bytes.fill 32 0x91) }

def sampleInput (allocations : List RgkAllocation) : RgkStateDigestInput :=
  RgkAssetIssue.stateInput Sha256.digest (sampleIssue allocations)

def sampleDigest (allocations : List RgkAllocation) : Bytes32 :=
  stateDigestForAllocations Sha256.digest (sampleInput allocations)

/-- A transition between sample states, witnessed by the transaction whose id repeats `tx`. -/
def sampleTransition (tx : UInt8) (spent new : List RgkAllocation) (burn : Option RgkBurnProof) :
    RgkTransition :=
  { chain := .kaspaLocalToccata, schemaId := Bytes.fill 32 0x11, assetId := Bytes.fill 32 0x22,
    totalSupply := 10, metadataCommitment := Bytes.fill 32 0x55,
    previousOwnerCommitment := Bytes.fill 32 0x66, newOwnerCommitment := Bytes.fill 32 0x66,
    ownershipAuthorizationCommitment := Bytes.zero,
    previousStateDigest := sampleDigest spent,
    spentAllocations := spent, newAllocations := new, burn := burn,
    witnessTxid := Bytes.fill 32 tx, laneId := Bytes.fill 32 0x77,
    privacyPolicy := .privateLane, proofPolicy := .verifierReceipt (Bytes.fill 32 0x91) }

lemma sample_validates (tx : UInt8) {spent new : List RgkAllocation} (burn : Option RgkBurnProof)
    (spentSupply newSupply burned : UInt64) (htx : (Bytes.fill 32 tx : Bytes32) ≠ Bytes.zero)
    (hspent : validateAllocationSetStructure .kaspaLocalToccata spent = .ok spentSupply)
    (hnew : validateAllocationSetStructureAllowEmpty .kaspaLocalToccata new = .ok newSupply)
    (hdelta : validateSupplyDelta spentSupply newSupply burn = .ok burned)
    (hfresh : rejectReusedSpentAnchors spent new = .ok ())
    (hz : sampleDigest spent ≠ Bytes.zero) (hne : sampleDigest new ≠ sampleDigest spent) :
    ∃ r : RgkTransitionReport, r.newStateDigest = sampleDigest new ∧ r.burnedSupply = burned ∧
      RgkTransition.validate Sha256.digest (sampleTransition tx spent new burn) = .ok r := by
  have hs := validateAllocationSetStructure_eq_ok.mp hspent
  have hn := validateAllocationSetStructureAllowEmpty_eq_ok.mp hnew
  have hd := validateSupplyDelta_eq_ok.mp hdelta
  have hf := rejectReusedSpentAnchors_eq_ok.mp hfresh
  have hcommon : validateCommon (Bytes.fill 32 0x11) (Bytes.fill 32 0x22) 10 (Bytes.fill 32 0x77)
      (.verifierReceipt (Bytes.fill 32 0x91)) = .ok () := by decide +kernel
  have hhand : validateOwnershipHandoff (Bytes.fill 32 0x66) (Bytes.fill 32 0x66) Bytes.zero =
      .ok () := by decide +kernel
  have hm : (Bytes.fill 32 0x55 : Bytes32) ≠ Bytes.zero := by decide
  have ho : (Bytes.fill 32 0x66 : Bytes32) ≠ Bytes.zero := by decide
  refine ⟨RgkTransition.reportWith Sha256.digest (sampleTransition tx spent new burn) spentSupply
    newSupply burned (sampleInput spent).policyCommitment, rfl, rfl, ?_⟩
  apply RgkTransition.validate_of_accepted
  exact ⟨hcommon, hm, ho, ho, hhand, hz, htx, hs.1, hs.2, hn, hd.1, hd.2, rfl, hne, hf, rfl⟩

lemma sample_starts (allocations : List RgkAllocation)
    (hok : RgkAssetIssue.validateStructure (sampleIssue allocations) = .ok ()) :
    Lineage Sha256.digest (sampleIssue allocations) []
      ⟨sampleDigest allocations, [sampleDigest allocations], allocations, 0⟩ := by
  have hpc : policyCommitment Sha256.digest (.verifierReceipt (Bytes.fill 32 0x91)) =
      .ok (sampleInput allocations).policyCommitment :=
    policyCommitment_eq_ok.mpr ⟨by decide, rfl⟩
  exact Lineage.issue (unit_bind_eq_ok.mpr ⟨hok, bind_eq_ok.mpr ⟨_, hpc, rfl⟩⟩)

def sampleStart : List RgkAllocation := [sampleAllocation 1 10]
def sampleMiddle : List RgkAllocation := [sampleAllocation 2 10]
def sampleEnd : List RgkAllocation := [sampleAllocation 3 7]

def sampleStates : List (List RgkAllocation) := [sampleStart, sampleMiddle, sampleEnd]

def samplePreimages : List (List UInt8) :=
  sampleStates.flatMap (fun as => stateDigestPreimages Sha256.digest (sampleInput as))

lemma samplePreimages_digests : (Bytes.zero :: samplePreimages.map Sha256.digest).Nodup := by
  decide +kernel

lemma sample_preimages_subset {start : List RgkAllocation} {ts : List RgkTransition}
    (hstart : start ∈ sampleStates)
    (hts : ∀ t ∈ ts, ∃ spent ∈ sampleStates, ∃ new ∈ sampleStates, ∃ tx burn,
      t = sampleTransition tx spent new burn) :
    ∀ x ∈ lineagePreimages Sha256.digest (sampleIssue start) ts, x ∈ samplePreimages := by
  intro x hx
  simp only [lineagePreimages, List.mem_append, List.mem_flatMap] at hx
  apply List.mem_flatMap.mpr
  rcases hx with hx | ⟨t, ht, hx⟩
  · exact ⟨start, hstart, hx⟩
  · obtain ⟨spent, hspent, new, hnew, tx, burn, rfl⟩ := hts t ht
    rcases List.mem_append.mp hx with hx | hx
    · exact ⟨spent, hspent, hx⟩
    · exact ⟨new, hnew, hx⟩

lemma sample_collisionFree {start : List RgkAllocation} {ts : List RgkTransition}
    (hstart : start ∈ sampleStates)
    (hts : ∀ t ∈ ts, ∃ spent ∈ sampleStates, ∃ new ∈ sampleStates, ∃ tx burn,
      t = sampleTransition tx spent new burn) :
    CollisionFree Sha256.digest {x | x ∈ lineagePreimages Sha256.digest (sampleIssue start) ts} :=
  (CollisionFree.of_nodup (List.nodup_cons.mp samplePreimages_digests).2).mono
    (sample_preimages_subset hstart hts)

lemma sample_digests : sampleDigest sampleStart ≠ Bytes.zero ∧
    sampleDigest sampleMiddle ≠ Bytes.zero ∧
    sampleDigest sampleMiddle ≠ sampleDigest sampleStart ∧
    sampleDigest sampleEnd ≠ sampleDigest sampleMiddle := by
  have h := samplePreimages_digests
  simp only [samplePreimages, sampleStates, List.flatMap_cons, List.flatMap_nil, stateDigestPreimages,
    List.cons_append, List.nil_append, List.map_cons, List.map_nil, List.nodup_cons,
    List.mem_cons, not_or] at h
  obtain ⟨⟨-, h1, -, h2, -⟩, -, ⟨-, h3, -⟩, -, ⟨-, h4, -⟩, -⟩ := h
  exact ⟨Ne.symm h1, Ne.symm h2, Ne.symm h3, Ne.symm h4⟩

lemma sample_move : ∃ r : RgkTransitionReport, r.newStateDigest = sampleDigest sampleMiddle ∧
    r.burnedSupply = 0 ∧ RgkTransition.validate Sha256.digest
      (sampleTransition 2 sampleStart sampleMiddle none) = .ok r :=
  sample_validates 2 none 10 10 0 (by decide) (by decide +kernel) (by decide +kernel)
    (by decide +kernel) (by decide +kernel) sample_digests.1 sample_digests.2.2.1

/-- Ten units move from one output to the next, then three of them are burned. -/
def sampleSteps : List RgkTransition :=
  [sampleTransition 2 sampleStart sampleMiddle none,
    sampleTransition 3 sampleMiddle sampleEnd (some ⟨3, Bytes.fill 32 0xaa⟩)]

lemma sample_moved : Lineage Sha256.digest (sampleIssue sampleStart)
    [sampleTransition 2 sampleStart sampleMiddle none]
    ⟨sampleDigest sampleMiddle, [sampleDigest sampleMiddle, sampleDigest sampleStart],
      sampleMiddle, 0⟩ := by
  obtain ⟨r, hr, hb, hv⟩ := sample_move
  have h := Lineage.step (sample_starts sampleStart (by decide +kernel)) hv rfl
  rw [hb, hr] at h
  exact h

lemma sample_lineage : Lineage Sha256.digest (sampleIssue sampleStart) sampleSteps
    ⟨sampleDigest sampleEnd, [sampleDigest sampleEnd, sampleDigest sampleMiddle,
      sampleDigest sampleStart], sampleEnd, 3⟩ := by
  obtain ⟨q, hq, hburn, hv2⟩ := sample_validates 3 (some ⟨3, Bytes.fill 32 0xaa⟩) 10 7 3
    (by decide) (by decide +kernel) (by decide +kernel) (by decide +kernel) (by decide +kernel)
    sample_digests.2.1 sample_digests.2.2.2
  have h := Lineage.step sample_moved hv2 rfl
  rw [hburn, hq] at h
  exact h

lemma sampleSteps_visit : ∀ t ∈ sampleSteps, ∃ spent ∈ sampleStates, ∃ new ∈ sampleStates,
    ∃ tx burn, t = sampleTransition tx spent new burn := by
  intro t ht
  rcases List.mem_pair.mp ht with rfl | rfl
  · exact ⟨sampleStart, by simp [sampleStates], sampleMiddle, by simp [sampleStates], _, _, rfl⟩
  · exact ⟨sampleMiddle, by simp [sampleStates], sampleEnd, by simp [sampleStates], _, _, rfl⟩

lemma sampleSteps_collisionFree : CollisionFree Sha256.digest
    {x | x ∈ lineagePreimages Sha256.digest (sampleIssue sampleStart) sampleSteps} :=
  sample_collisionFree (by simp [sampleStates]) sampleSteps_visit

end Samples

theorem lineage_supply_conserved_sample :
    supplyOf sampleEnd + 3 = 10 ∧ SpendsCreated sampleStart sampleSteps :=
  lineage_supply_conserved _ _ _ _ sample_lineage sampleSteps_collisionFree

end RgkProtocol.AssetLineage
