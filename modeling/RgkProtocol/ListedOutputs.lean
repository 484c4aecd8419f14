import RgkProtocol.CovenantSpend

/-!
# Which outputs continue a covenant

The script of a continuation policy looks at the outputs that the policy lists and at how many
outputs there are. What the other outputs carry is left to the spender.
-/
namespace RgkProtocol.ListedOutputs
open ByteStrings Hashing CoreTypes ScriptMachine CovenantScript CovenantSpend

/-- Consensus admits a covenant on an output whose authorizing input carries it. -/
def Admitted (tx : SpendingTransaction) : Prop :=
  ∀ output ∈ tx.outputs, ∀ binding, output.covenant = some binding →
    ∃ input, tx.inputs[binding.authorizingInput.toNat]? = some input ∧
      input.Carries binding.covenantId

def Listed (policy : CovenantContinuationPolicy) (k : ℕ) : Prop :=
  ∃ j ∈ policy.covenantOutputIndices, j.toNat = k

/-- In every transaction that the script accepts on the authorizing input, the outputs that carry
the input's covenant are the listed ones, and the others carry none. -/
def OnlyListedContinue (absent : AbsentReads) (spec : CovenantSpec)
    (policy : CovenantContinuationPolicy) : Prop :=
  ∀ script tx input id, spec.buildScriptForPolicy policy = .ok script → Admitted tx →
    tx.inputs[policy.authorizingInput.toNat]? = some input → input.Carries id →
    Succeeds absent tx policy.authorizingInput.toNat script →
    ∀ k output, tx.outputs[k]? = some output →
      (output.Carries id ↔ Listed policy k) ∧ (¬ Listed policy k → output.covenant = none)

/-- A spend in which every output continues the covenant, listed or not. -/
def spreadSpend (spec : CovenantSpec) (policy : CovenantContinuationPolicy) : SpendingTransaction :=
  ⟨List.replicate (policy.authorizingInput.toNat+1) ⟨[], some Bytes.zero⟩,
    List.replicate policy.exactOutputCount.toNat ⟨[], some ⟨policy.authorizingInput, Bytes.zero⟩⟩,
    spec.payloadTemplate⟩

section Spread
variable (spec : CovenantSpec) (policy : CovenantContinuationPolicy)

lemma spreadSpend_input :
    (spreadSpend spec policy).inputs[policy.authorizingInput.toNat]? =
      some ⟨[], some Bytes.zero⟩ := by
  simp [spreadSpend]

lemma spreadSpend_output {k : ℕ} (hk : k < policy.exactOutputCount.toNat) :
    (spreadSpend spec policy).outputs[k]? =
      some ⟨[], some ⟨policy.authorizingInput, Bytes.zero⟩⟩ := by
  simp [spreadSpend, hk]

lemma admitted_spreadSpend : Admitted (spreadSpend spec policy) := by
  intro output hmem binding hbinding
  obtain rfl := List.eq_of_mem_replicate hmem
  obtain rfl := Option.some.inj hbinding
  exact ⟨_, spreadSpend_input spec policy, rfl⟩

variable {policy}

lemma spreadSpend_policyHolds (hvalid : policy.validate = .ok ()) :
    PolicyHolds spec policy (spreadSpend spec policy) policy.authorizingInput.toNat
      ⟨[], some Bytes.zero⟩ Bytes.zero where
  authorized := rfl
  outputCount := List.length_replicate
  continued k hk := by
    obtain ⟨-, -, hbound, -⟩ := CovenantContinuationPolicy.validate_eq_ok.mp hvalid
    exact ⟨_, spreadSpend_output spec policy (UInt32.lt_iff_toNat_lt.mp (hbound k hk)), rfl, rfl⟩
  payload := commitsTo_payloadTemplate spec

end Spread

/-- The outputs that continue the covenant are the listed ones exactly under the policies that list
every output: under any other, an output that is not listed may carry the covenant too. -/
theorem onlyListedContinue_iff (absent : AbsentReads) (spec : CovenantSpec)
    (policy : CovenantContinuationPolicy) (hvalid : policy.validate = .ok ()) :
    OnlyListedContinue absent spec policy ↔
      ∀ k < policy.exactOutputCount, k ∈ policy.covenantOutputIndices := by
  constructor
  · intro h k hk
    obtain ⟨script, hbuild⟩ := buildScriptForPolicy_eq_ok spec hvalid
    have hinput := spreadSpend_input spec policy
    have hsucceeds : Succeeds absent _ _ script := (policyScript_succeeds_iff hbuild hinput rfl).mpr
      (spreadSpend_policyHolds spec hvalid)
    obtain ⟨hlisted, -⟩ := h script _ _ _ hbuild (admitted_spreadSpend spec policy) hinput rfl
      hsucceeds k.toNat _ (spreadSpend_output spec policy (UInt32.lt_iff_toNat_lt.mp hk))
    obtain ⟨j, hj, hjk⟩ := hlisted.mp rfl
    rwa [← UInt32.toNat_inj.mp hjk]
  · intro hall script tx input id hbuild _ hinput hid hsucceeds k output hout
    have hholds := (policyScript_succeeds_iff hbuild hinput hid).mp hsucceeds
    have hlt : k < policy.exactOutputCount.toNat := by
      rw [← hholds.outputCount]
      exact (List.getElem?_eq_some_iff.mp hout).1
    have hk : (UInt32.ofNat k).toNat = k := by
      rw [UInt32.toNat_ofNat']
      exact Nat.mod_eq_of_lt (hlt.trans policy.exactOutputCount.toNat_lt)
    have hmem := hall (UInt32.ofNat k) (UInt32.lt_iff_toNat_lt.mpr (by rwa [hk]))
    have hlisted : Listed policy k := ⟨_, hmem, hk⟩
    obtain ⟨output', hout', hcontinues⟩ := hholds.continued _ hmem
    rw [hk, hout] at hout'
    obtain rfl := Option.some.inj hout'
    exact ⟨iff_of_true (by rw [TxOutput.Carries, hcontinues.covenant]; rfl) hlisted,
      fun h => absurd hlisted h⟩

theorem onlyListedContinue_iff_singleton :
    OnlyListedContinue emptyReads sampleSpec .singleton :=
  (onlyListedContinue_iff emptyReads sampleSpec .singleton rfl).mpr (by
    intro k hk
    have hzero : k = 0 := UInt32.lt_one_iff.mp hk
    exact List.mem_singleton.mpr hzero)

/-- The first output is listed and continues the covenant. The second is not, and carries the
covenant to another script. -/
def forkedSpend : SpendingTransaction :=
  ⟨[sampleInput], [⟨[0xaa, 0x20], some ⟨0, Bytes.fill 32 7⟩⟩, ⟨[0x51], some ⟨0, Bytes.fill 32 7⟩⟩],
    sampleSpec.payloadTemplate⟩

/-- A policy that leaves room for a change output accepts a spend that forks the covenant. -/
theorem unlisted_output_carries_covenant :
    CovenantContinuationPolicy.validate ⟨0, 2, [0]⟩ = .ok () ∧ Admitted forkedSpend ∧
      (∃ script, sampleSpec.buildScriptForPolicy ⟨0, 2, [0]⟩ = .ok script ∧
        Succeeds emptyReads forkedSpend 0 script) ∧
      ¬ Listed ⟨0, 2, [0]⟩ 1 ∧
      ∃ output, forkedSpend.outputs[1]? = some output ∧ output.Carries (Bytes.fill 32 7) ∧
        output.scriptPublicKey ≠ sampleInput.scriptPublicKey := by
  obtain ⟨script, hbuild⟩ := buildScriptForPolicy_eq_ok sampleSpec
    (rfl : CovenantContinuationPolicy.validate ⟨0, 2, [0]⟩ = .ok ())
  have hholds : PolicyHolds sampleSpec ⟨0, 2, [0]⟩ forkedSpend 0 sampleInput (Bytes.fill 32 7) := by
    refine ⟨rfl, rfl, ?_, commitsTo_payloadTemplate sampleSpec⟩
    intro k hk
    obtain rfl := List.mem_singleton.mp hk
    exact ⟨_, rfl, rfl, rfl⟩
  have hid : sampleInput.Carries (Bytes.fill 32 7) := rfl
  refine ⟨rfl, ?_, ⟨script, hbuild, (policyScript_succeeds_iff hbuild rfl hid).mpr hholds⟩, ?_,
    _, rfl, rfl, by decide⟩
  · intro output hmem binding hbinding
    have hall : ∀ o ∈ forkedSpend.outputs, o.covenant = some ⟨0, Bytes.fill 32 7⟩ := by
      decide +kernel
    obtain rfl := Option.some.inj ((hall output hmem).symm.trans hbinding)
    exact ⟨sampleInput, rfl, rfl⟩
  · rintro ⟨j, hj, hk⟩
    obtain rfl := List.mem_singleton.mp hj
    exact absurd hk (by decide)

end RgkProtocol.ListedOutputs
