import RgkProtocol.CovenantLedger
import RgkProtocol.CovenantCodec
import Mathlib.Data.List.Sort

/-!
# The wallet's covenant transactions

What the builders produce, before the rules of the chain: the bindings of a populated transaction
open their covenants, and the transition of an open covenant is admitted as long as no change is
paid beside the covenant output.
-/
namespace RgkProtocol.CovenantTransactions
open ByteStrings SelfDelimiting Hashing CoreTypes Checked CanonicalEncoding ScriptMachine
open CovenantScript CovenantSpend ScriptPushes TransitionOutputs ToccataTx TransactionIdentity
open GenesisCovenants TransactionBuilders UtxoLedger CovenantLedger

section Genesis
variable {c : Chain} {tx : ToccataV1Tx} {groups : List ToccataGenesisCovenantGroup}

lemma unordered_eq_false {l : List UInt32} :
    unordered l = false ↔ (l.map UInt32.toNat).IsChain (· < ·) := by
  induction l with
  | nil => simp [unordered]
  | cons a l ih =>
    cases l with
    | nil => simp [unordered]
    | cons b l =>
      have hcons : unordered (a :: b :: l) = (decide (b ≤ a) || unordered (b :: l)) := rfl
      rw [hcons, List.map_cons, List.map_cons, List.isChain_cons_cons, ← List.map_cons, ← ih]
      simp [UInt32.lt_iff_toNat_lt]

lemma map_boundOutputs (hshort : Short tx) (b : TransitionOutputs.CovenantBinding) :
    (boundOutputs tx b).map UInt32.toNat =
      (tx.outputs.zipIdx.filter fun p => p.1.covenantBinding = some b).map Prod.snd := by
  rw [boundOutputs, List.map_map]
  refine List.map_congr_left fun p hp => ?_
  have hlt := (List.getElem?_eq_some_iff.mp
    (List.mem_zipIdx_iff_getElem?.mp (List.mem_filter.mp hp).1)).1
  exact toNat_ofNat_of_short hshort hlt

lemma ordered_boundOutputs (hshort : Short tx) (b : TransitionOutputs.CovenantBinding) :
    ((boundOutputs tx b).map UInt32.toNat).Pairwise (· < ·) := by
  have hall : (tx.outputs.zipIdx.map Prod.snd).Pairwise (· < ·) := by
    rw [List.zipIdx_map_snd]
    exact List.pairwise_lt_range'
  rw [map_boundOutputs hshort]
  exact hall.sublist (List.filter_sublist.map _)

/-- Without bindings beforehand, the outputs of a populated transaction that share a binding are
those of one group, in the order in which the group lists them. -/
lemma boundOutputs_bindGroups (hfit : GroupsFit tx groups)
    (hplain : ∀ output ∈ tx.outputs, output.covenantBinding = none)
    (hfree : CollisionFree (c.hash .covenantID) {s | s ∈ idStrings tx groups})
    {signed : ToccataV1Tx} (hshort : Short signed)
    (houtputs : signed.outputs = (bindGroups c.hash tx groups).outputs) {output : ToccataTxOutput}
    (hout : output ∈ signed.outputs) {b : TransitionOutputs.CovenantBinding}
    (hb : output.covenantBinding = some b) :
    ∃ group ∈ groups, b.authorizingInput = group.authorizingInput ∧
      groupId c.hash tx group = some b.covenantId ∧ boundOutputs signed b = group.outputs := by
  -- The binding of an output comes from the group that lists the output.
  have hsource : ∀ j output, signed.outputs[j]? = some output →
      ∀ b, output.covenantBinding = some b → ∃ group ∈ groups, ∃ k ∈ group.outputs, k.toNat = j ∧
        b.authorizingInput = group.authorizingInput ∧
        groupId c.hash tx group = some b.covenantId := by
    intro j output hj b hb
    rw [houtputs] at hj
    by_cases hlisted : ∃ group ∈ groups, ∃ k ∈ group.outputs, k.toNat = j
    · obtain ⟨group, hgroup, k, hk, rfl⟩ := hlisted
      obtain ⟨input, -, hid⟩ := (hfit.1 group hgroup).groupId_eq (H := c.hash)
      rw [bindGroups_getElem?_of_mem hfit.2 hgroup hk hid] at hj
      obtain ⟨plain, -, rfl⟩ := Option.map_eq_some_iff.mp hj
      obtain rfl := Option.some.inj hb
      exact ⟨group, hgroup, k, hk, rfl, rfl, hid⟩
    · push Not at hlisted
      rw [bindGroups_getElem?_of_not_mem hlisted] at hj
      rw [hplain output (List.mem_of_getElem? hj)] at hb
      cases hb
  obtain ⟨j, hj⟩ := List.mem_iff_getElem?.mp hout
  obtain ⟨group, hgroup, k, hk, -, hauth, hid⟩ := hsource j output hj b hb
  refine ⟨group, hgroup, hauth, hid, ?_⟩
  refine List.map_injective_iff.mpr (fun _ _ => UInt32.toNat_inj.mp) ?_
  refine List.Pairwise.eq_of_mem_iff (ordered_boundOutputs hshort b)
    (List.isChain_iff_pairwise.mp (unordered_eq_false.mp (hfit.1 group hgroup).ordered)) fun n => ?_
  rw [map_boundOutputs hshort]
  simp only [List.mem_map, List.mem_filter, decide_eq_true_eq, Prod.exists,
    List.mem_zipIdx_iff_getElem?, exists_eq_right]
  constructor
  · rintro ⟨output', hn, hb'⟩
    obtain ⟨group', hgroup', k', hk', rfl, -, hid'⟩ := hsource n output' hn b hb'
    -- Two groups with one id are one group.
    have hsame : group' = group := by
      by_contra hne
      have hsymm : Std.Symm (Function.onFun List.Disjoint ToccataGenesisCovenantGroup.outputs) :=
        ⟨fun _ _ h => List.Disjoint.symm h⟩
      exact groupId_ne hfree hgroup' hgroup (hfit.1 _ hgroup') (hfit.1 _ hgroup)
        ((List.nodup_flatMap.mp hfit.2).2.forall hgroup' hgroup hne) (hid'.trans hid.symm)
    exact ⟨k', hsame ▸ hk', rfl⟩
  · rintro ⟨k', hk', rfl⟩
    obtain ⟨plain, hplain', -⟩ := (hfit.1 group hgroup).unbound k' hk'
    refine ⟨withBinding ⟨group.authorizingInput, b.covenantId⟩ plain, ?_, ?_⟩
    · rw [houtputs, bindGroups_getElem?_of_mem hfit.2 hgroup hk' hid, hplain', Option.map_some]
    · rw [← hauth]
      rfl

/-- A population that succeeds adds the bindings of its groups and nothing else, whatever the
signatures are. -/
lemma populated_signed (hok : (populateGenesisCovenants c.hash tx groups).1 = .ok ())
    {signed : ToccataV1Tx}
    (hsigned : unsigned signed = unsigned (populateGenesisCovenants c.hash tx groups).2) :
    GroupsFit tx groups ∧ signed.outputs = (bindGroups c.hash tx groups).outputs ∧
      spentOutpoints signed = spentOutpoints tx := by
  rcases populateGenesisCovenants_cases c.hash tx groups with ⟨hfit, hpop⟩ | ⟨-, e, herror⟩
  · rw [hpop] at hsigned
    have houtputs := congrArg ToccataV1Tx.outputs hsigned
    have hspends := congrArg spentOutpoints hsigned
    rw [spentOutpoints_unsigned, spentOutpoints_unsigned, bindGroups_rest] at hspends
    exact ⟨hfit, houtputs, hspends⟩
  · rw [herror] at hok
    cases hok

/-- What a binding of a populated transaction hashes is what the population hashed for a group. -/
lemma openingString_of_populated
    (hplain : ∀ output ∈ tx.outputs, output.covenantBinding = none)
    (hfree : CollisionFree (c.hash .covenantID) {s | s ∈ idStrings tx groups})
    (hok : (populateGenesisCovenants c.hash tx groups).1 = .ok ()) {signed : ToccataV1Tx}
    (hsigned : unsigned signed = unsigned (populateGenesisCovenants c.hash tx groups).2)
    (hshort : Short signed) {output : ToccataTxOutput} (hout : output ∈ signed.outputs)
    {b : TransitionOutputs.CovenantBinding} (hb : output.covenantBinding = some b) :
    ∃ input, signed.inputs[b.authorizingInput.toNat]? = some input ∧
      openingString signed input b ∈ idStrings tx groups ∧
      b.covenantId = c.hash .covenantID (openingString signed input b) := by
  obtain ⟨hfit, houtputs, hspends⟩ := populated_signed hok hsigned
  obtain ⟨group, hgroup, hauth, hid, hbound⟩ :=
    boundOutputs_bindGroups hfit hplain hfree hshort houtputs hout hb
  obtain ⟨input, hinput, hid⟩ := Option.map_eq_some_iff.mp hid
  -- The signed input spends the outpoint that the population hashed.
  have hspent : (spentOutpoints signed)[b.authorizingInput.toNat]? =
      some input.previousOutpoint := by
    rw [hspends, spentOutpoints, List.getElem?_map, hauth, hinput]
    rfl
  rw [spentOutpoints, List.getElem?_map] at hspent
  obtain ⟨signedInput, hsignedInput, hprevious⟩ := Option.map_eq_some_iff.mp hspent
  have hstring : openingString signed signedInput b =
      covenantIdPreimage input.previousOutpoint (authorizedOutputs tx group) := by
    rw [openingString, hprevious, hbound, hauth, authorizedOutputs_congr houtputs,
      bindGroups_authorizedOutputs]
  refine ⟨signedInput, hsignedInput, ?_, ?_⟩
  · rw [hstring]
    exact mem_idStrings hgroup hinput
  · rw [hstring, ← hid, computeCovenantId]

/-- The wallet's population and the rule of the chain agree: in a transaction that had no bindings,
each binding of a population that succeeds opens its covenant, on any ledger and however the
transaction is signed. -/
theorem populated_bindings_open_covenants (c : Chain) (tx signed : ToccataV1Tx)
    (groups : List ToccataGenesisCovenantGroup)
    (hplain : ∀ output ∈ tx.outputs, output.covenantBinding = none)
    (hfree : CollisionFree (c.hash .covenantID) {s | s ∈ idStrings tx groups})
    (hok : (populateGenesisCovenants c.hash tx groups).1 = .ok ())
    (hsigned : unsigned signed = unsigned (populateGenesisCovenants c.hash tx groups).2)
    (hshort : Short signed) (L : Coins) :
    ∀ output ∈ signed.outputs, ∀ b, output.covenantBinding = some b → Binds c L signed b := by
  intro output hout b hb
  obtain ⟨input, hinput, -, hid⟩ :=
    openingString_of_populated hplain hfree hok hsigned hshort hout hb
  exact ⟨input, hinput, .inr hid⟩

/-- Two groups that interleave. -/
theorem populated_bindings_open_covenants_sample :
    (populateGenesisCovenants sampleHasher sampleTx sampleGroups).1 = .ok () ∧
      ∀ output ∈ (populateGenesisCovenants sampleHasher sampleTx sampleGroups).2.outputs,
        ∀ b, output.covenantBinding = some b →
          Binds ⟨sampleHasher, id, emptyReads⟩ []
            (populateGenesisCovenants sampleHasher sampleTx sampleGroups).2 b := by
  have hfree : CollisionFree (sampleHasher .covenantID) {s | s ∈ idStrings sampleTx sampleGroups} :=
    CollisionFree.of_nodup (by decide +kernel)
  have hshort : Short (populateGenesisCovenants sampleHasher sampleTx sampleGroups).2 :=
    ⟨by decide, by decide, by decide, by unfold ShortInput; decide, by unfold ShortOutput; decide⟩
  exact ⟨rfl, populated_bindings_open_covenants ⟨sampleHasher, id, emptyReads⟩ sampleTx _
    sampleGroups (by decide) hfree rfl rfl hshort []⟩

end Genesis

section Transition
variable {c : Chain} {L : Coins}

lemma tryFromOutput_eq_ok {output : TransitionOutputs.TxOutput} {converted : ToccataTxOutput} :
    tryFromOutput output = .ok converted ↔
      output = ⟨converted.value, toVersionedBytes converted.scriptPublicKey,
        converted.covenantBinding⟩ ∧
      converted.scriptPublicKey.script.toList.length ≤ toccataScriptPublicKeyMaxScriptLen := by
  simp only [tryFromOutput, bind_eq_ok, fromVersionedBytes_eq_ok, Except.ok.injEq]
  constructor
  · rintro ⟨spk, ⟨hbytes, hlen⟩, rfl⟩
    exact ⟨by rw [← hbytes], hlen⟩
  · rintro ⟨rfl, hlen⟩
    exact ⟨_, ⟨rfl, hlen⟩, rfl⟩

lemma newToccataV1Tx_eq_ok {inputs : List ToccataTxInput} {outputs : List ToccataTxOutput}
    {lockTime gas : UInt64} {subnetworkId : ToccataSubnetworkId} {payload : ByteVec}
    {tx : ToccataV1Tx} :
    newToccataV1Tx inputs outputs lockTime subnetworkId gas payload = .ok tx ↔
      validateToccataSubnetwork subnetworkId = .ok () ∧
      validateToccataGas subnetworkId gas = .ok () ∧
      ⟨inputs, outputs, lockTime, subnetworkId, gas, payload, 0⟩ = tx := by
  rw [newToccataV1Tx, unit_bind_eq_ok, unit_bind_eq_ok, Except.ok.injEq]

lemma intoToccataV1_eq_ok {unsignedTx : UnsignedTx} {budget : UInt16}
    {subnetworkId : ToccataSubnetworkId} {gas mass : UInt64} {tx : ToccataV1Tx} :
    unsignedTx.intoToccataV1 budget subnetworkId gas mass = .ok tx ↔
      List.Forall₂ (fun output converted => tryFromOutput output = .ok converted)
        unsignedTx.outputs tx.outputs ∧
      validateToccataSubnetwork subnetworkId = .ok () ∧
      validateToccataGas subnetworkId gas = .ok () ∧
      tx = ⟨unsignedTx.inputs.map (fromUnsigned budget), tx.outputs, unsignedTx.lockTime,
        subnetworkId, gas, unsignedTx.payload, mass⟩ := by
  simp only [UnsignedTx.intoToccataV1, bind_eq_ok, newToccataV1Tx_eq_ok, mapEach_eq_ok,
    Except.ok.injEq]
  constructor
  · rintro ⟨outputs, houtputs, _, ⟨hsubnetwork, hgas, rfl⟩, rfl⟩
    exact ⟨houtputs, hsubnetwork, hgas, rfl⟩
  · rintro ⟨houtputs, hsubnetwork, hgas, htx⟩
    exact ⟨_, houtputs, _, ⟨hsubnetwork, hgas, rfl⟩, htx.symm⟩

/-- What a builder's output looks like to the scripts. -/
def builtView (output : TransitionOutputs.TxOutput) : CovenantSpend.TxOutput :=
  ⟨output.scriptPublicKey,
    output.covenantBinding.map fun b => ⟨b.authorizingInput, b.covenantId⟩⟩

lemma map_outputView {outputs : List TransitionOutputs.TxOutput} {converted : List ToccataTxOutput}
    (h : List.Forall₂ (fun output converted => tryFromOutput output = .ok converted) outputs
      converted) : converted.map outputView = outputs.map builtView := by
  induction h with
  | nil => rfl
  | cons hhead _ ih =>
    obtain ⟨rfl, -⟩ := tryFromOutput_eq_ok.mp hhead
    simp only [List.map_cons, ih]
    rfl

lemma shortOutput_of_converted {outputs : List TransitionOutputs.TxOutput}
    {converted : List ToccataTxOutput}
    (h : List.Forall₂ (fun output converted => tryFromOutput output = .ok converted) outputs
      converted) : ∀ output ∈ converted, ShortOutput output := by
  induction h with
  | nil => simp
  | cons hhead _ ih =>
    have hlen := (tryFromOutput_eq_ok.mp hhead).2
    refine List.forall_mem_cons.mpr ⟨hlen.trans_lt ?_, ih⟩
    norm_num [toccataScriptPublicKeyMaxScriptLen]

lemma length_lt_of_pushData {data : List UInt8} (h : (pushData data).length < 2^32) :
    data.length < 2^32 := by
  unfold pushData at h
  simp only at h
  split_ifs at h <;> simp at h <;> omega

/-- A transition of an open covenant, put together by the wallet and converted. -/
structure BuiltTransition (c : Chain) (L : Coins) (spec : CovenantSpec) (script : List UInt8)
    (id : Bytes32) (p : KaspaOutpoint) (changeValue : UInt64) (changeSpk : Option (List UInt8))
    (newState : CovenantState) (tx : ToccataV1Tx) : Prop where
  build : spec.buildScript = .ok script
  coin : coinAt L p = some ⟨c.lock script, some id⟩
  advanced : ∃ state digest marker, Follows spec state ∧
    advance state digest marker = .ok newState
  converted : ∃ newValue fee inTotal outputs sig payload lockTime budget subnetworkId gas mass,
    buildTransitionOutputs newState (c.lock script) newValue id fee changeValue changeSpk inTotal =
      .ok outputs ∧
    ByteVec.toList sig = pushData script ∧ sig.toList.length < 2^32 ∧
    ByteVec.toList payload = newState.encodePayload ∧
    UnsignedTx.intoToccataV1 ⟨[{ buildTransitionSpend p with signatureScript := sig }], outputs,
      payload, lockTime⟩ budget subnetworkId gas mass = .ok tx

variable {spec : CovenantSpec} {script : List UInt8} {id : Bytes32} {p : KaspaOutpoint}
  {changeValue : UInt64} {changeSpk : Option (List UInt8)} {newState : CovenantState}
  {tx : ToccataV1Tx}

lemma follows_advance {state newState : CovenantState} {digest marker : Bytes32}
    (h : Follows spec state) (hadvance : advance state digest marker = .ok newState) :
    Follows spec newState := by
  obtain ⟨-, hnew⟩ := unit_bind_eq_ok.mp hadvance
  obtain rfl := Except.ok.inj hnew
  exact ⟨h.version, h.chainId, h.lineageId, h.assetId, h.receiptPolicy, h.genesisProofMode⟩

/-- The parts of a built transition that the rules of the chain look at. -/
structure TransitionParts (c : Chain) (spec : CovenantSpec) (script : List UInt8) (id : Bytes32)
    (p : KaspaOutpoint) (change : List TransitionOutputs.TxOutput) (newState : CovenantState)
    (tx : ToccataV1Tx) : Prop where
  spends : ∃ input, tx.inputs = [input] ∧ input.previousOutpoint = p ∧ ShortInput input ∧
    Reveals input script []
  outputs : ∃ value, tx.outputs.map outputView =
    (⟨value, c.lock script, some ⟨0, id⟩⟩ :: change).map builtView
  short : ∀ output ∈ tx.outputs, ShortOutput output
  follows : Follows spec newState
  payload : tx.payload.toList = newState.encodePayload

/-- The change that the builder adds. -/
def changeOutputs (changeValue : UInt64) (changeSpk : Option (List UInt8)) :
    List TransitionOutputs.TxOutput :=
  if changeValue = 0 then [] else (changeSpk.map (⟨changeValue, ·, none⟩)).toList

lemma BuiltTransition.parts
    (h : BuiltTransition c L spec script id p changeValue changeSpk newState tx) :
    TransitionParts c spec script id p (changeOutputs changeValue changeSpk) newState tx := by
  obtain ⟨state, digest, marker, hfollows, hadvance⟩ := h.advanced
  obtain ⟨newValue, fee, inTotal, outputs, sig, payload, lockTime, budget, subnetworkId, gas, mass,
    hbuilt, hsig, hlen, hpayload, hinto⟩ := h.converted
  obtain ⟨hconverted, -, -, htx⟩ := intoToccataV1_eq_ok.mp hinto
  have hinputs := congrArg ToccataV1Tx.inputs htx
  have hpay := congrArg ToccataV1Tx.payload htx
  obtain ⟨-, rfl⟩ := buildTransitionOutputs_eq_ok.mp hbuilt
  constructor
  · refine ⟨_, hinputs, rfl, hlen, ?_⟩
    have hscript : script.length < 2^32 := length_lt_of_pushData (hsig ▸ hlen)
    have hyields : Yields (fun _ => none) _ _ := yields_pushData hscript
    have hrun := hyields []
    rw [← hsig] at hrun
    exact hrun
  · exact ⟨newValue, map_outputView hconverted⟩
  · exact shortOutput_of_converted hconverted
  · exact follows_advance hfollows hadvance
  · rw [hpay, hpayload]

section Parts
variable {change : List TransitionOutputs.TxOutput}
  (h : TransitionParts c spec script id p change newState tx)
include h

lemma TransitionParts.policy_iff :
    PolicyHolds spec .singleton (view L tx) 0 ⟨c.lock script, some id⟩ id ↔ change = [] := by
  obtain ⟨value, houtputs⟩ := h.outputs
  constructor
  · intro hpolicy
    have hcount : (tx.outputs.map outputView).length = 1 := hpolicy.outputCount
    rw [houtputs, List.length_map, List.length_cons] at hcount
    exact List.length_eq_zero_iff.mp (by omega)
  · rintro rfl
    refine ⟨rfl, ?_, ?_, newState, h.follows, h.payload⟩
    · change (tx.outputs.map outputView).length = 1
      rw [houtputs]
      rfl
    · intro k hk
      obtain rfl := List.mem_singleton.mp hk
      refine ⟨builtView ⟨value, c.lock script, some ⟨0, id⟩⟩, ?_, rfl, rfl⟩
      change (tx.outputs.map outputView)[0]? = _
      rw [houtputs]
      rfl

lemma TransitionParts.spends_eq : spentOutpoints tx = [p] := by
  obtain ⟨input, hinputs, rfl, -, -⟩ := h.spends
  rw [spentOutpoints, hinputs]
  rfl

lemma TransitionParts.mem_creates :
    (⟨txid c.hash tx, 0⟩, ⟨c.lock script, some id⟩) ∈ (moveOf c tx).creates := by
  obtain ⟨value, houtputs⟩ := h.outputs
  have hzero := congrArg (fun l => l[0]?) houtputs
  simp only [List.getElem?_map, List.map_cons, List.getElem?_cons_zero] at hzero
  obtain ⟨output, hout, hseen⟩ := Option.map_eq_some_iff.mp hzero
  refine CovenantLedger.mem_creates.mpr ⟨0, output, hout, rfl, ?_⟩
  have hscript := congrArg CovenantSpend.TxOutput.scriptPublicKey hseen
  have hcarries : (coinOf output).Carries id := by
    rw [← outputView_carries, hseen]
    rfl
  exact CovenantSpend.TxInput.mk.injEq .. |>.mpr ⟨hscript.symm, hcarries.symm⟩

variable (hbuild : spec.buildScript = .ok script)
  (hcoin : coinAt L p = some ⟨c.lock script, some id⟩)
include hbuild hcoin

lemma TransitionParts.succeeds_iff (stack : Stack) :
    SucceedsFrom (introspect c.absent (view L tx) 0) stack script ↔ change = [] := by
  have hview : (view L tx).inputs[0]? = some ⟨c.lock script, some id⟩ := by
    rw [view, h.spends_eq]
    simp [hcoin]
  obtain ⟨code, rfl, hchecks⟩ := checks_policyScript c.absent hbuild hview rfl
  rw [hchecks.succeedsFrom_iff, h.policy_iff]

end Parts

lemma TransitionParts.shortTx (h : TransitionParts c spec script id p [] newState tx) :
    Short tx := by
  obtain ⟨input, hinputs, -, hsig, -⟩ := h.spends
  obtain ⟨value, houtputs⟩ := h.outputs
  constructor
  · simp [hinputs]
  · have hlength := congrArg List.length houtputs
    simp only [List.length_map, List.length_cons, List.length_nil] at hlength
    omega
  · rw [h.payload, length_encodePayload]
    norm_num
  · simpa [hinputs] using hsig
  · exact h.short

lemma TransitionParts.admitted (h : TransitionParts c spec script id p [] newState tx)
    (hbuild : spec.buildScript = .ok script)
    (hcoin : coinAt L p = some ⟨c.lock script, some id⟩) : Admitted c L tx := by
  obtain ⟨input, hinputs, rfl, -, hreveals⟩ := h.spends
  obtain ⟨value, houtputs⟩ := h.outputs
  constructor
  · exact h.shortTx
  · simp [hinputs]
  · simp [h.spends_eq]
  · intro q hq
    rw [h.spends_eq, List.mem_singleton] at hq
    rw [hq]
    exact List.mem_map_of_mem (mem_of_coinAt hcoin)
  · intro k input' coin hk hcoin' _
    have hinput : k = 0 ∧ input = input' := by
      rw [hinputs] at hk
      cases k with
      | zero => exact ⟨rfl, Option.some.inj hk⟩
      | succ k => simp at hk
    obtain ⟨rfl, rfl⟩ := hinput
    obtain rfl := Option.some.inj (hcoin.symm.trans hcoin')
    exact ⟨script, [], hreveals, rfl, (h.succeeds_iff hbuild hcoin []).mpr rfl⟩
  · -- The one output continues the covenant of the one input.
    intro output hout b hb
    have hseen := List.mem_map_of_mem (f := outputView) hout
    rw [houtputs, List.map_singleton, List.mem_singleton] at hseen
    have hbinding := congrArg CovenantSpend.TxOutput.covenant hseen
    simp only [outputView, builtView, hb, Option.map_some, Option.some.injEq,
      CovenantSpend.CovenantBinding.mk.injEq] at hbinding
    refine ⟨input, by simp [hbinding.1, hinputs], .inl ⟨_, hcoin, ?_⟩⟩
    exact congrArg some hbinding.2.symm

end Transition

section Samples

/-- SHA-256 behind domains, and the wallet's script for a redeem script. -/
def sampleChain : Chain := ⟨sampleHasher, spkFromRedeemScript Sha256.digest, emptyReads⟩

def builtScript : Except CovenantError (List UInt8) → List UInt8
  | .ok script => script
  | .error _ => []

/-- Kept folded: the script is some hundred bytes long. -/
@[irreducible] def sampleScript : List UInt8 := builtScript sampleSpec.buildScript

lemma eq_ok_builtScript {result : Except CovenantError (List UInt8)}
    (h : ∃ script, result = .ok script) : result = .ok (builtScript result) := by
  obtain ⟨script, rfl⟩ := h
  rfl

lemma buildScript_sample : sampleSpec.buildScript = .ok sampleScript := by
  unfold sampleScript
  exact eq_ok_builtScript (buildScriptForPolicy_eq_ok sampleSpec rfl)

lemma length_pushData_sample : (pushData sampleScript).length < 2^32 := by decide +kernel

lemma length_digest_lt (digest : Bytes32) : digest.toList.length < 2^64 := by simp

lemma length_payload_lt (state : CovenantState) : state.encodePayload.length < 2^64 := by
  rw [length_encodePayload]
  norm_num

def sampleSignature : ByteVec := ⟨pushData sampleScript, length_pushData_sample.trans (by norm_num)⟩

lemma toList_sampleSignature : sampleSignature.toList = pushData sampleScript := rfl

def payloadOf (state : CovenantState) : ByteVec := ⟨state.encodePayload, length_payload_lt state⟩

/-- The script public key for a redeem script, split from its version. -/
def lockedBy (redeem : List UInt8) : ToccataScriptPublicKey :=
  ⟨0, ⟨(Sha256.digest redeem).toList, length_digest_lt _⟩⟩

def sampleState (digest marker : Bytes32) : CovenantState :=
  ⟨encodingVersion, sampleSpec.chainId, sampleSpec.lineageId, sampleSpec.assetId, digest,
    sampleSpec.receiptPolicy, sampleSpec.genesisProofMode, marker⟩

def sampleTransition (p : KaspaOutpoint) (id : Bytes32) : ToccataV1Tx :=
  ⟨[⟨p, sampleSignature, 0, 10⟩], [⟨100, lockedBy sampleScript, some ⟨0, id⟩⟩], 0,
    subnetworkIdNative, 0, payloadOf (sampleState (Bytes.fill 32 9) (Bytes.fill 32 8)), 0⟩

lemma built_sampleTransition {L : Coins} {p : KaspaOutpoint} {id : Bytes32}
    (hcoin : coinAt L p = some ⟨sampleChain.lock sampleScript, some id⟩) (hid : id ≠ Bytes.zero) :
    BuiltTransition sampleChain L sampleSpec sampleScript id p 0 none
      (sampleState (Bytes.fill 32 9) (Bytes.fill 32 8)) (sampleTransition p id) where
  build := buildScript_sample
  coin := hcoin
  advanced := ⟨sampleState Bytes.zero Bytes.zero, Bytes.fill 32 9, Bytes.fill 32 8,
    ⟨rfl, rfl, rfl, rfl, rfl, rfl⟩, by decide⟩
  converted := by
    refine ⟨100, 1, 101, builtOutputs (sampleChain.lock sampleScript) 100 id 0 none, sampleSignature,
      payloadOf _, 0, 10, subnetworkIdNative, 0, 0, buildTransitionOutputs_eq_ok.mpr
        ⟨⟨?_, hid, by decide +kernel, by simp⟩, rfl⟩, ?_, length_pushData_sample, rfl,
      intoToccataV1_eq_ok.mpr ⟨?_, by decide, by decide, rfl⟩⟩
    · intro hnil
      simpa [sampleChain, spkFromRedeemScript] using congrArg List.length hnil
    · exact toList_sampleSignature
    · refine .cons (tryFromOutput_eq_ok.mpr ⟨rfl, ?_⟩) .nil
      simp [lockedBy, toccataScriptPublicKeyMaxScriptLen]

def sampleOutpoint : KaspaOutpoint := ⟨Bytes.fill 32 3, 1⟩

end Samples
end RgkProtocol.CovenantTransactions
