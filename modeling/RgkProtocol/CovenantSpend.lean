import RgkProtocol.ScriptPushes

/-!
# What a covenant script accepts

The transaction that spends a covenant, what the introspection opcodes read from it, and the exact
condition under which the generated scripts succeed on it.
-/
namespace RgkProtocol.CovenantSpend
open ByteStrings Hashing CoreTypes Checked CanonicalEncoding ScriptMachine CovenantScript
open ScriptPushes

section Transactions

structure CovenantBinding where
  authorizingInput : UInt16
  covenantId : Bytes32
  deriving DecidableEq

/-- An input, with the script and the covenant of the output that it spends. -/
structure TxInput where
  scriptPublicKey : List UInt8
  covenantId : Option Bytes32
  deriving DecidableEq

structure TxOutput where
  scriptPublicKey : List UInt8
  covenant : Option CovenantBinding
  deriving DecidableEq

structure SpendingTransaction where
  inputs : List TxInput
  outputs : List TxOutput
  payload : List UInt8
  deriving DecidableEq

def TxInput.idBytes (i : TxInput) : Option (List UInt8) := i.covenantId.map Bytes.toList

def TxOutput.idBytes (o : TxOutput) : Option (List UInt8) := o.covenant.map (·.covenantId.toList)

def TxInput.Carries (i : TxInput) (id : Bytes32) : Prop := i.covenantId = some id

def TxOutput.Carries (o : TxOutput) (id : Bytes32) : Prop :=
  o.covenant.map CovenantBinding.covenantId = some id

instance (i : TxInput) (id : Bytes32) : Decidable (i.Carries id) :=
  inferInstanceAs (Decidable (_ = _))

instance (o : TxOutput) (id : Bytes32) : Decidable (o.Carries id) :=
  inferInstanceAs (Decidable (_ = _))

lemma TxInput.idBytes_eq {i : TxInput} {id : Bytes32} :
    i.idBytes = some id.toList ↔ i.Carries id := by
  rw [TxInput.idBytes, TxInput.Carries]
  cases i.covenantId <;> simp

lemma TxOutput.idBytes_eq {o : TxOutput} {id : Bytes32} :
    o.idBytes = some id.toList ↔ o.Carries id := by
  rw [TxOutput.idBytes, TxOutput.Carries]
  cases o.covenant <;> simp

end Transactions

section Introspection

/-- What the opcodes give for an output or a spent output without a covenant, if that does not end
the script: no covenant id. -/
structure AbsentReads where
  covenantId : Option (List UInt8)
  authorizingInput : Option (List UInt8)
  covenantId_length : ∀ x, covenantId = some x → x.length ≠ 32

variable (absent : AbsentReads) (tx : SpendingTransaction)

def inputAt (k : List UInt8) : Option TxInput := (numberNat k).bind (fun k => tx.inputs[k]?)

def outputAt (k : List UInt8) : Option TxOutput := (numberNat k).bind (fun k => tx.outputs[k]?)

def payloadSubstr (lo hi : List UInt8) : Option (List UInt8) :=
  (numberNat lo).bind (fun lo => (numberNat hi).bind (fun hi =>
    if lo ≤ hi ∧ hi ≤ tx.payload.length then some (slice tx.payload lo hi) else none))

/-- The positions of the outputs that carry a covenant id, in order. -/
def covenantOutputs (id : List UInt8) : List ℕ :=
  (tx.outputs.zipIdx.filter (fun p => p.1.idBytes = some id)).map Prod.snd

/-- The introspection opcodes while the input at `index` is executed. -/
def introspect (index : ℕ) (op : UInt8) : Option Operator :=
  if op = opTxInputIndex then some (.push (numberBytes index))
  else if op = opTxOutputCount then some (.push (numberBytes tx.outputs.length))
  else if op = opTxPayloadLen then some (.push (numberBytes tx.payload.length))
  else if op = opTxPayloadSubstr then some (.binary (payloadSubstr tx))
  else if op = opTxInputSpk then
    some (.unary (fun k => (inputAt tx k).bind (fun i => some i.scriptPublicKey)))
  else if op = opTxOutputSpk then
    some (.unary (fun k => (outputAt tx k).bind (fun o => some o.scriptPublicKey)))
  else if op = opInputCovenantId then
    some (.unary (fun k => (inputAt tx k).bind (fun i => i.idBytes <|> absent.covenantId)))
  else if op = opOutputCovenantId then
    some (.unary (fun k => (outputAt tx k).bind (fun o => o.idBytes <|> absent.covenantId)))
  else if op = opOutputAuthorizingInput then
    some (.unary (fun k => (outputAt tx k).bind (fun o =>
      o.covenant.map (fun c => numberBytes c.authorizingInput.toNat) <|> absent.authorizingInput)))
  else if op = opCovInputCount then
    some (.unary (fun id => some (numberBytes (tx.inputs.countP (·.idBytes = some id)))))
  else if op = opCovOutputCount then
    some (.unary (fun id => some (numberBytes (tx.outputs.countP (·.idBytes = some id)))))
  else if op = opCovOutputIdx then
    some (.binary (fun id k => (numberNat k).bind (fun k =>
      (covenantOutputs tx id)[k]?.map (fun j : ℕ => numberBytes j))))
  else none

/-- The script succeeds from the empty stack when the input at `index` is executed. -/
def Succeeds (index : ℕ) (script : List UInt8) : Prop :=
  succeeds (introspect absent tx index) script = true

end Introspection

section Reads
variable {absent : AbsentReads} {tx : SpendingTransaction} {index : ℕ}

lemma yields_inputIndex :
    Yields (introspect absent tx index) [opTxInputIndex] (some (numberBytes index)) :=
  yields_push (by decide) rfl

lemma yields_outputCount :
    Yields (introspect absent tx index) [opTxOutputCount]
      (some (numberBytes tx.outputs.length)) :=
  yields_push (by decide) rfl

lemma yields_payloadLen :
    Yields (introspect absent tx index) [opTxPayloadLen]
      (some (numberBytes tx.payload.length)) :=
  yields_push (by decide) rfl

variable {b : UInt8} {code : List UInt8} {k : ℕ}

lemma yields_ofInput {f : TxInput → Option (List UInt8)} (hb : IsOperator b)
    (hop : introspect absent tx index b = some (.unary (fun k => (inputAt tx k).bind f)))
    (hk : Yields (introspect absent tx index) code (some (numberBytes k))) :
    Yields (introspect absent tx index) (code ++ [b]) (tx.inputs[k]?.bind f) := by
  have h := hk.unary hb hop
  rwa [Option.bind_some, inputAt, numberNat_numberBytes, Option.bind_some] at h

lemma yields_ofOutput {f : TxOutput → Option (List UInt8)} (hb : IsOperator b)
    (hop : introspect absent tx index b = some (.unary (fun k => (outputAt tx k).bind f)))
    (hk : Yields (introspect absent tx index) code (some (numberBytes k))) :
    Yields (introspect absent tx index) (code ++ [b]) (tx.outputs[k]?.bind f) := by
  have h := hk.unary hb hop
  rwa [Option.bind_some, outputAt, numberNat_numberBytes, Option.bind_some] at h

lemma checks_number {m n : ℕ} (hn : n < 2^64)
    (hm : Yields (introspect absent tx index) code (some (numberBytes m))) :
    Checks (introspect absent tx index) (code ++ pushScriptI64 n ++ [opEqualVerify]) (m = n) := by
  refine (hm.equalVerify (yields_pushNat hn)).congr ?_
  simp [eq_comm]

lemma checks_payloadSlice {lo hi : ℕ} {expected : List UInt8} (hlo : lo ≤ hi) (hhi : hi < 2^64)
    (hlen : expected.length < 2^32) (hpayload : hi ≤ tx.payload.length) :
    Checks (introspect absent tx index) (pushPayloadSliceEquals lo hi expected)
      (slice tx.payload lo hi = expected) := by
  have hslice : Yields (introspect absent tx index)
      (pushScriptI64 lo ++ pushScriptI64 hi ++ [opTxPayloadSubstr])
      (some (slice tx.payload lo hi)) := by
    have h := (yields_pushNat (hlo.trans_lt hhi)).binary (b := opTxPayloadSubstr) (by decide)
      (rfl : introspect absent tx index opTxPayloadSubstr = _) (yields_pushNat hhi)
    rw [Option.bind_some, Option.bind_some, payloadSubstr, numberNat_numberBytes, Option.bind_some,
      numberNat_numberBytes, Option.bind_some, if_pos ⟨hlo, hpayload⟩] at h
    exact h
  refine (hslice.equalVerify (yields_pushData hlen)).congr ?_
  simp [eq_comm]

end Reads

section Payload

/-- A state of the spec's covenant: everything but the digest and the replay marker is fixed. -/
structure Follows (spec : CovenantSpec) (s : CovenantState) : Prop where
  version : s.version = encodingVersion
  chainId : s.chainId = spec.chainId
  lineageId : s.lineageId = spec.lineageId
  assetId : s.assetId = spec.assetId
  receiptPolicy : s.receiptPolicy = spec.receiptPolicy
  genesisProofMode : s.genesisProofMode = spec.genesisProofMode

def CommitsTo (spec : CovenantSpec) (payload : List UInt8) : Prop :=
  ∃ s : CovenantState, Follows spec s ∧ payload = s.encodePayload

lemma length_encodePayload (s : CovenantState) : s.encodePayload.length = 148 := by
  simp [CovenantState.encodePayload, KaspaChainId.encode, ReceiptPolicy.encode, ProofMode.encode]

lemma expectedPayloadLen_eq : expectedPayloadLen = 148 := length_encodePayload _

/-- Four slices of a payload of the right length pin everything but the two gaps. -/
lemma slices_eq_iff {payload head modes : List UInt8} {lineage asset : Bytes32}
    (hlen : payload.length = 148) (hhead : head.length = 16) (hmodes : modes.length = 4) :
    (slice payload 0 16 = head ∧ slice payload 16 48 = lineage.toList ∧
      slice payload 48 80 = asset.toList ∧ slice payload 112 116 = modes) ↔
    ∃ digest replay : Bytes32, payload = head ++ (lineage.toList ++ (asset.toList ++
      (digest.toList ++ (modes ++ replay.toList)))) := by
  constructor
  · rintro ⟨rfl, h2, h3, rfl⟩
    refine ⟨bytesAt 32 payload 80, bytesAt 32 payload 116, ?_⟩
    rw [← h2, ← h3, toList_bytesAt (by omega), toList_bytesAt (by omega),
      slice_append_slice (by omega) (by omega), slice_append_slice (by omega) (by omega),
      slice_append_slice (by omega) (by omega), slice_append_slice (by omega) (by omega),
      slice_append_slice (by omega) (by omega), slice_full hlen]
  · rintro ⟨digest, replay, rfl⟩
    simp [slice_append_right, slice_append_left, hhead, hmodes]

/-- The static fields of a spec's covenant states, as the bytes of a payload. -/
def staticHead (spec : CovenantSpec) : List UInt8 :=
  covenantStateTag.toList ++ le16 encodingVersion ++ KaspaChainId.encode spec.chainId

def staticModes (spec : CovenantSpec) : List UInt8 :=
  spec.receiptPolicy.encode ++ ProofMode.encode spec.genesisProofMode

lemma length_staticHead (spec : CovenantSpec) : (staticHead spec).length = 16 := by
  simp [staticHead, KaspaChainId.encode]

lemma length_staticModes (spec : CovenantSpec) : (staticModes spec).length = 4 := rfl

/-- The 148 bytes as the script sees them: the four static fields and, between and behind them,
the two dynamic ones. -/
lemma Follows.encodePayload_eq {spec : CovenantSpec} {s : CovenantState} (h : Follows spec s) :
    s.encodePayload = staticHead spec ++ (spec.lineageId.toList ++ (spec.assetId.toList ++
      (s.currentStateDigest.toList ++ (staticModes spec ++ s.replayMarker.toList)))) := by
  obtain ⟨h1, h2, h3, h4, h5, h6⟩ := h
  simp [CovenantState.encodePayload, staticHead, staticModes, h1, h2, h3, h4, h5, h6]

lemma commitsTo_iff {spec : CovenantSpec} {payload : List UInt8} (hlen : payload.length = 148) :
    CommitsTo spec payload ↔
      slice payload 0 16 = staticHead spec ∧ slice payload 16 48 = spec.lineageId.toList ∧
        slice payload 48 80 = spec.assetId.toList ∧ slice payload 112 116 = staticModes spec := by
  rw [slices_eq_iff hlen (length_staticHead spec) (length_staticModes spec)]
  constructor
  · rintro ⟨s, hs, rfl⟩
    exact ⟨s.currentStateDigest, s.replayMarker, hs.encodePayload_eq⟩
  · rintro ⟨digest, replay, rfl⟩
    have hs : Follows spec ⟨encodingVersion, spec.chainId, spec.lineageId, spec.assetId, digest,
        spec.receiptPolicy, spec.genesisProofMode, replay⟩ := ⟨rfl, rfl, rfl, rfl, rfl, rfl⟩
    exact ⟨_, hs, hs.encodePayload_eq.symm⟩

lemma CommitsTo.length {spec : CovenantSpec} {payload : List UInt8} (h : CommitsTo spec payload) :
    payload.length = 148 := by
  obtain ⟨s, -, rfl⟩ := h
  exact length_encodePayload s

lemma commitsTo_payloadTemplate (spec : CovenantSpec) : CommitsTo spec spec.payloadTemplate :=
  ⟨_, ⟨rfl, rfl, rfl, rfl, rfl, rfl⟩, rfl⟩

lemma length_payloadTemplate (spec : CovenantSpec) :
    spec.payloadTemplate.length = expectedPayloadLen :=
  (commitsTo_payloadTemplate spec).length.trans expectedPayloadLen_eq.symm

lemma checks_payload (absent : AbsentReads) (tx : SpendingTransaction) (index : ℕ)
    (spec : CovenantSpec) :
    Checks (introspect absent tx index) (payloadChecks spec.payloadTemplate)
      (CommitsTo spec tx.payload) := by
  have htemplate := commitsTo_payloadTemplate spec
  obtain ⟨h1, h2, h3, h4⟩ := (commitsTo_iff htemplate.length).mp htemplate
  have hlength : Checks (introspect absent tx index)
      ([opTxPayloadLen] ++ pushScriptI64 expectedPayloadLen ++ [opEqualVerify])
      (tx.payload.length = 148) := by
    rw [expectedPayloadLen_eq]
    exact checks_number (by norm_num) yields_payloadLen
  have hfield : ∀ lo hi field, lo ≤ hi → hi ≤ 148 → slice spec.payloadTemplate lo hi = field →
      tx.payload.length = 148 → Checks (introspect absent tx index)
        (pushPayloadSliceEquals lo hi (slice spec.payloadTemplate lo hi))
        (slice tx.payload lo hi = field) := by
    rintro lo hi field hlo hhi rfl hlen
    refine checks_payloadSlice hlo (by omega) ?_ (by omega)
    rw [length_slice (hhi.trans_eq htemplate.length.symm)]
    omega
  have hslices := (((hlength.append
    (hfield 0 16 _ (by norm_num) (by norm_num) h1)).append (fun h =>
      hfield 16 48 _ (by norm_num) (by norm_num) h2 h.1)).append (fun h =>
      hfield 48 80 _ (by norm_num) (by norm_num) h3 h.1.1)).append (fun h =>
      hfield 112 116 _ (by norm_num) (by norm_num) h4 h.1.1.1)
  refine hslices.congr ⟨?_, fun h => ?_⟩
  · rintro ⟨⟨⟨⟨hlen, hs1⟩, hs2⟩, hs3⟩, hs4⟩
    exact (commitsTo_iff hlen).mpr ⟨hs1, hs2, hs3, hs4⟩
  · obtain ⟨hs1, hs2, hs3, hs4⟩ := (commitsTo_iff h.length).mp h
    exact ⟨⟨⟨⟨h.length, hs1⟩, hs2⟩, hs3⟩, hs4⟩

end Payload

section Policy
variable {absent : AbsentReads} {tx : SpendingTransaction} {index : ℕ} {input : TxInput}
  {id : Bytes32}

/-- The output keeps the input's script and covenant and records the authorizing input. -/
structure Continues (input : TxInput) (id : Bytes32) (authorizing : UInt16) (output : TxOutput) :
    Prop where
  script : output.scriptPublicKey = input.scriptPublicKey
  covenant : output.covenant = some ⟨authorizing, id⟩

/-- The covenant id that an opcode gives is the input's exactly if the output carries it: what
stands for an absent id has another length. -/
lemma orElse_absent_eq_iff {output : TxOutput} :
    (output.idBytes <|> absent.covenantId) = some id.toList ↔ output.Carries id := by
  rw [← TxOutput.idBytes_eq]
  cases hbytes : output.idBytes with
  | some bytes => rfl
  | none =>
    refine ⟨fun h => ?_, fun h => by cases h⟩
    exact absurd id.length_toList (absent.covenantId_length _ h)

lemma yields_inputScript {code : List UInt8} {k : ℕ} (hinput : tx.inputs[k]? = some input)
    (hk : Yields (introspect absent tx index) code (some (numberBytes k))) :
    Yields (introspect absent tx index) (code ++ [opTxInputSpk]) (some input.scriptPublicKey) := by
  have h := yields_ofInput (b := opTxInputSpk) (by decide) rfl hk
  rwa [hinput] at h

lemma yields_inputId {code : List UInt8} {k : ℕ} (hinput : tx.inputs[k]? = some input)
    (hid : input.Carries id)
    (hk : Yields (introspect absent tx index) code (some (numberBytes k))) :
    Yields (introspect absent tx index) (code ++ [opInputCovenantId]) (some id.toList) := by
  have h := yields_ofInput (b := opInputCovenantId) (by decide) rfl hk
  rw [hinput, Option.bind_some, TxInput.idBytes_eq.mpr hid] at h
  exact h

lemma checks_continuationOutput {authorizing : UInt16}
    (hinput : tx.inputs[authorizing.toNat]? = some input) (hid : input.Carries id)
    (outputIndex : UInt32) :
    Checks (introspect absent tx index) (continuationOutput authorizing outputIndex)
      (∃ output, tx.outputs[outputIndex.toNat]? = some output ∧
        Continues input id authorizing output) := by
  have hauthorizing : Yields (introspect absent tx index) (pushScriptI64 authorizing.toNat)
      (some (numberBytes authorizing.toNat)) :=
    yields_pushNat (authorizing.toNat_lt.trans (by norm_num))
  have hindex : Yields (introspect absent tx index) (pushScriptI64 outputIndex.toNat)
      (some (numberBytes outputIndex.toNat)) :=
    yields_pushNat (outputIndex.toNat_lt.trans (by norm_num))
  have hscript := (yields_inputScript hinput hauthorizing).equalVerify
    (yields_ofOutput (b := opTxOutputSpk) (by decide) rfl hindex)
  have hcovenant := (yields_inputId hinput hid hauthorizing).equalVerify
    (yields_ofOutput (b := opOutputCovenantId) (by decide) rfl hindex)
  have hrecord := (yields_ofOutput (b := opOutputAuthorizingInput) (by decide) rfl
    hindex).equalVerify hauthorizing
  refine ((hscript.append (fun _ => hcovenant)).append (fun _ => hrecord)).congr ?_
  cases tx.outputs[outputIndex.toNat]? with
  | none => simp
  | some output =>
    simp only [Option.bind_some, Option.some.injEq, exists_eq_left', orElse_absent_eq_iff,
      exists_eq_right']
    rw [TxOutput.Carries]
    constructor
    · rintro ⟨⟨hs, hc⟩, hr⟩
      obtain ⟨⟨a, c⟩, hbinding, rfl⟩ := Option.map_eq_some_iff.mp hc
      rw [hbinding] at hr
      have ha : a.toNat = authorizing.toNat := numberBytes_inj.mp (Option.some.inj hr)
      exact ⟨hs, by rw [hbinding, UInt16.toNat_inj.mp ha]⟩
    · rintro ⟨hs, hc⟩
      rw [hc]
      exact ⟨⟨hs, rfl⟩, rfl⟩

/-- What the policy asks of the transaction and of the input that is executed. -/
structure PolicyHolds (spec : CovenantSpec) (policy : CovenantContinuationPolicy)
    (tx : SpendingTransaction) (index : ℕ) (input : TxInput) (id : Bytes32) : Prop where
  authorized : index = policy.authorizingInput.toNat
  outputCount : tx.outputs.length = policy.exactOutputCount.toNat
  continued : ∀ k ∈ policy.covenantOutputIndices, ∃ output, tx.outputs[k.toNat]? = some output ∧
    Continues input id policy.authorizingInput output
  payload : CommitsTo spec tx.payload

lemma buildScriptForPolicy_eq_ok (spec : CovenantSpec) {policy : CovenantContinuationPolicy}
    (hvalid : policy.validate = .ok ()) :
    ∃ script, spec.buildScriptForPolicy policy = .ok script := by
  simp only [CovenantSpec.buildScriptForPolicy, unit_bind_eq_ok, failIf_eq_ok, not_not]
  exact ⟨_, hvalid, length_payloadTemplate spec, rfl⟩

variable (absent) in
lemma checks_policyScript {spec : CovenantSpec} {policy : CovenantContinuationPolicy}
    {script : List UInt8} (hbuild : spec.buildScriptForPolicy policy = .ok script)
    (hinput : tx.inputs[index]? = some input) (hid : input.Carries id) :
    ∃ code, script = code ++ [0x51] ∧
      Checks (introspect absent tx index) code (PolicyHolds spec policy tx index input id) := by
  rw [CovenantSpec.buildScriptForPolicy, unit_bind_eq_ok, unit_bind_eq_ok] at hbuild
  obtain ⟨-, -, hscript⟩ := hbuild
  obtain rfl := Except.ok.inj hscript
  have hindex : Checks (introspect absent tx index) ([opTxInputIndex] ++
      pushScriptI64 policy.authorizingInput.toNat ++ [opEqualVerify])
      (index = policy.authorizingInput.toNat) :=
    checks_number (policy.authorizingInput.toNat_lt.trans (by norm_num)) yields_inputIndex
  have hcount : Checks (introspect absent tx index) ([opTxOutputCount] ++
      pushScriptI64 policy.exactOutputCount.toNat ++ [opEqualVerify])
      (tx.outputs.length = policy.exactOutputCount.toNat) :=
    checks_number (policy.exactOutputCount.toNat_lt.trans (by norm_num)) yields_outputCount
  -- The listed outputs are compared with the authorizing input, which by now is the executed one.
  have hall := ((hindex.append (fun _ => hcount)).append (fun h =>
    checks_flatMap (fun k (_ : k ∈ policy.covenantOutputIndices) =>
      checks_continuationOutput (h.1 ▸ hinput) hid k))).append (fun _ =>
        checks_payload absent tx index spec)
  refine ⟨_, rfl, hall.congr ⟨?_, fun h => ?_⟩⟩
  · rintro ⟨⟨⟨h1, h2⟩, h3⟩, h4⟩
    exact ⟨h1, h2, h3, h4⟩
  · exact ⟨⟨⟨h.authorized, h.outputCount⟩, h.continued⟩, h.payload⟩

lemma policyScript_succeeds_iff {spec : CovenantSpec} {policy : CovenantContinuationPolicy}
    {script : List UInt8} (hbuild : spec.buildScriptForPolicy policy = .ok script)
    (hinput : tx.inputs[index]? = some input) (hid : input.Carries id) :
    Succeeds absent tx index script ↔ PolicyHolds spec policy tx index input id := by
  obtain ⟨code, rfl, hchecks⟩ := checks_policyScript absent hbuild hinput hid
  exact hchecks.succeeds_iff

end Policy

section SharedPolicy
variable {absent : AbsentReads} {tx : SpendingTransaction} {index : ℕ} {input : TxInput}
  {id : Bytes32}

lemma mem_covenantOutputs {j : ℕ} :
    j ∈ covenantOutputs tx id.toList ↔
      ∃ output, tx.outputs[j]? = some output ∧ output.Carries id := by
  simp only [covenantOutputs, List.mem_map, List.mem_filter, decide_eq_true_eq,
    TxOutput.idBytes_eq, Prod.exists, List.mem_zipIdx_iff_getElem?, exists_eq_right]

lemma length_covenantOutputs :
    (covenantOutputs tx id.toList).length = tx.outputs.countP (·.Carries id) := by
  simp only [covenantOutputs, List.length_map, TxOutput.idBytes_eq]
  rw [← List.countP_eq_length_filter]
  conv_rhs => rw [← List.zipIdx_map_fst 0 tx.outputs, List.countP_map]
  rfl

section
variable (absent) (hinput : tx.inputs[index]? = some input) (hid : input.Carries id)
include hinput hid

lemma yields_currentInputId :
    Yields (introspect absent tx index) pushCurrentInputCovenantId (some id.toList) :=
  yields_inputId hinput hid yields_inputIndex

lemma yields_covInputCount :
    Yields (introspect absent tx index) (pushCurrentInputCovenantId ++ [opCovInputCount])
      (some (numberBytes (tx.inputs.countP (·.Carries id)))) := by
  have h := (yields_currentInputId absent hinput hid).unary (b := opCovInputCount)
    (by decide) rfl
  simpa only [Option.bind_some, TxInput.idBytes_eq] using h

lemma yields_covOutputCount :
    Yields (introspect absent tx index) (pushCurrentInputCovenantId ++ [opCovOutputCount])
      (some (numberBytes (tx.outputs.countP (·.Carries id)))) := by
  have h := (yields_currentInputId absent hinput hid).unary (b := opCovOutputCount)
    (by decide) rfl
  simpa only [Option.bind_some, TxOutput.idBytes_eq] using h

lemma yields_sharedOutputIndex {k j : ℕ} (hk : k < 2^64)
    (hj : (covenantOutputs tx id.toList)[k]? = some j) :
    Yields (introspect absent tx index) (pushSharedCovenantOutputIndex k)
      (some (numberBytes j)) := by
  have h := (yields_currentInputId absent hinput hid).binary (b := opCovOutputIdx)
    (by decide) rfl (yields_pushNat hk)
  simp only [Option.bind_some, numberNat_numberBytes, hj, Option.map_some] at h
  exact h

lemma checks_sharedOutput {k j : ℕ} {output : TxOutput} (hk : k < 2^64)
    (hj : (covenantOutputs tx id.toList)[k]? = some j) (hout : tx.outputs[j]? = some output)
    (hcarries : output.Carries id) :
    Checks (introspect absent tx index) (sharedOutput k)
      (output.scriptPublicKey = input.scriptPublicKey) := by
  have hposition := yields_sharedOutputIndex absent hinput hid hk hj
  have hscript := (yields_inputScript hinput yields_inputIndex).equalVerify
    (yields_ofOutput (b := opTxOutputSpk) (by decide) rfl hposition)
  have hcovenant := (yields_currentInputId absent hinput hid).equalVerify
    (yields_ofOutput (b := opOutputCovenantId) (by decide) rfl hposition)
  refine (hscript.append (fun _ => hcovenant)).congr ?_
  rw [hout]
  simp only [Option.bind_some, Option.some.injEq, exists_eq_left', orElse_absent_eq_iff,
    and_iff_left hcarries]

end

/-- What the shared policy asks of the transaction and of the input that is executed. -/
structure SharedPolicyHolds (spec : CovenantSpec) (policy : CovenantSharedContinuationPolicy)
    (tx : SpendingTransaction) (input : TxInput) (id : Bytes32) : Prop where
  outputCount : tx.outputs.length = policy.exactOutputCount.toNat
  covenantInputs : tx.inputs.countP (·.Carries id) = policy.covenantInputCount.toNat
  covenantOutputs : tx.outputs.countP (·.Carries id) = policy.covenantOutputCount.toNat
  kept : ∀ output ∈ tx.outputs, output.Carries id →
    output.scriptPublicKey = input.scriptPublicKey
  payload : CommitsTo spec tx.payload

lemma buildScriptForSharedPolicy_eq_ok (spec : CovenantSpec)
    {policy : CovenantSharedContinuationPolicy} (hvalid : policy.validate = .ok ()) :
    ∃ script, spec.buildScriptForSharedPolicy policy = .ok script := by
  simp only [CovenantSpec.buildScriptForSharedPolicy, unit_bind_eq_ok, failIf_eq_ok, not_not]
  exact ⟨_, hvalid, length_payloadTemplate spec, rfl⟩

/-- The ordinals below the count reach every output of the covenant. -/
lemma checks_sharedOutputs {count : ℕ} (hinput : tx.inputs[index]? = some input)
    (hid : input.Carries id) (hsmall : count < 2^64)
    (hcount : tx.outputs.countP (·.Carries id) = count) :
    Checks (introspect absent tx index) ((List.range count).flatMap sharedOutput)
      (∀ output ∈ tx.outputs, output.Carries id →
        output.scriptPublicKey = input.scriptPublicKey) := by
  have hsection : ∀ k ∈ List.range count, Checks (introspect absent tx index) (sharedOutput k)
      (∀ j output, (covenantOutputs tx id.toList)[k]? = some j → tx.outputs[j]? = some output →
        output.scriptPublicKey = input.scriptPublicKey) := by
    intro k hk
    have hlt : k < count := List.mem_range.mp hk
    have hlt' : k < (covenantOutputs tx id.toList).length := by
      rwa [length_covenantOutputs, hcount]
    obtain ⟨output, hout, hcarries⟩ := mem_covenantOutputs.mp (List.getElem_mem hlt')
    have hj := List.getElem?_eq_getElem hlt'
    refine (checks_sharedOutput absent hinput hid (hlt.trans hsmall) hj hout hcarries).congr
      ⟨fun h j' output' hj' hout' => ?_, fun h => h _ output hj hout⟩
    obtain rfl := Option.some.inj (hj.symm.trans hj')
    obtain rfl := Option.some.inj (hout.symm.trans hout')
    exact h
  refine (checks_flatMap hsection).congr ⟨fun h output hmem hcarries => ?_,
    fun h k _ j output hj hout => ?_⟩
  · obtain ⟨j, hout⟩ := List.mem_iff_getElem?.mp hmem
    obtain ⟨k, hk⟩ := List.mem_iff_getElem?.mp (mem_covenantOutputs.mpr ⟨output, hout, hcarries⟩)
    obtain ⟨hlt, -⟩ := List.getElem?_eq_some_iff.mp hk
    rw [length_covenantOutputs, hcount] at hlt
    exact h k (List.mem_range.mpr hlt) j output hk hout
  · obtain ⟨output', hout', hcarries⟩ := mem_covenantOutputs.mp (List.mem_of_getElem? hj)
    obtain rfl := Option.some.inj (hout.symm.trans hout')
    exact h output (List.mem_of_getElem? hout) hcarries

variable (absent) in
lemma checks_sharedPolicyScript {spec : CovenantSpec}
    {policy : CovenantSharedContinuationPolicy} {script : List UInt8}
    (hbuild : spec.buildScriptForSharedPolicy policy = .ok script)
    (hinput : tx.inputs[index]? = some input) (hid : input.Carries id) :
    ∃ code, script = code ++ [0x51] ∧
      Checks (introspect absent tx index) code (SharedPolicyHolds spec policy tx input id) := by
  rw [CovenantSpec.buildScriptForSharedPolicy, unit_bind_eq_ok, unit_bind_eq_ok] at hbuild
  obtain ⟨-, -, hscript⟩ := hbuild
  obtain rfl := Except.ok.inj hscript
  have hsmall : ∀ n : UInt32, n.toNat < 2^64 := fun n => n.toNat_lt.trans (by norm_num)
  have hcount : Checks (introspect absent tx index) ([opTxOutputCount] ++
      pushScriptI64 policy.exactOutputCount.toNat ++ [opEqualVerify])
      (tx.outputs.length = policy.exactOutputCount.toNat) :=
    checks_number (hsmall _) yields_outputCount
  have hinputs := checks_number (hsmall policy.covenantInputCount)
    (yields_covInputCount absent hinput hid)
  have houtputs := checks_number (hsmall policy.covenantOutputCount)
    (yields_covOutputCount absent hinput hid)
  have hall := (((hcount.append (fun _ => hinputs)).append (fun _ => houtputs)).append (fun h =>
    checks_sharedOutputs hinput hid (hsmall _) h.2)).append (fun _ =>
      checks_payload absent tx index spec)
  refine ⟨_, rfl, hall.congr ⟨?_, fun h => ?_⟩⟩
  · rintro ⟨⟨⟨⟨h1, h2⟩, h3⟩, h4⟩, h5⟩
    exact ⟨h1, h2, h3, h4, h5⟩
  · exact ⟨⟨⟨⟨h.outputCount, h.covenantInputs⟩, h.covenantOutputs⟩, h.kept⟩, h.payload⟩

lemma sharedPolicyScript_succeeds_iff {spec : CovenantSpec}
    {policy : CovenantSharedContinuationPolicy} {script : List UInt8}
    (hbuild : spec.buildScriptForSharedPolicy policy = .ok script)
    (hinput : tx.inputs[index]? = some input) (hid : input.Carries id) :
    Succeeds absent tx index script ↔ SharedPolicyHolds spec policy tx input id := by
  obtain ⟨code, rfl, hchecks⟩ := checks_sharedPolicyScript absent hbuild hinput hid
  exact hchecks.succeeds_iff

end SharedPolicy

section Exactness

/-- A valid policy always has a script, and that script succeeds on an input that carries a covenant
exactly if the transaction does what the policy says. -/
theorem generated_scripts_enforce_policy (absent : AbsentReads) (spec : CovenantSpec) :
    (∀ policy : CovenantContinuationPolicy, policy.validate = .ok () →
      ∃ script, spec.buildScriptForPolicy policy = .ok script ∧
        ∀ tx index input id, tx.inputs[index]? = some input → input.Carries id →
          (Succeeds absent tx index script ↔ PolicyHolds spec policy tx index input id)) ∧
    (∀ policy : CovenantSharedContinuationPolicy, policy.validate = .ok () →
      ∃ script, spec.buildScriptForSharedPolicy policy = .ok script ∧
        ∀ tx index input id, tx.inputs[index]? = some input → input.Carries id →
          (Succeeds absent tx index script ↔ SharedPolicyHolds spec policy tx input id)) := by
  constructor
  · intro policy hvalid
    obtain ⟨script, hbuild⟩ := buildScriptForPolicy_eq_ok spec hvalid
    exact ⟨script, hbuild, fun _ _ _ _ hinput hid => policyScript_succeeds_iff hbuild hinput hid⟩
  · intro policy hvalid
    obtain ⟨script, hbuild⟩ := buildScriptForSharedPolicy_eq_ok spec hvalid
    exact ⟨script, hbuild,
      fun _ _ _ _ hinput hid => sharedPolicyScript_succeeds_iff hbuild hinput hid⟩

/-- A read of an absent covenant gives the empty string. -/
def emptyReads : AbsentReads := ⟨some [], some [], by rintro x ⟨⟩; decide⟩

def sampleSpec : CovenantSpec :=
  ⟨.kaspaLocalToccata, Bytes.fill 32 1, Bytes.fill 32 2, Bytes.fill 32 3, .any, .verifierReceipt⟩

def sampleInput : TxInput := ⟨[0xaa, 0x20], some (Bytes.fill 32 7)⟩

/-- One continued output and one for the change. -/
def spendWithChange : SpendingTransaction :=
  ⟨[sampleInput], [⟨[0xaa, 0x20], some ⟨0, Bytes.fill 32 7⟩⟩, ⟨[0x20], none⟩],
    sampleSpec.payloadTemplate⟩

theorem generated_scripts_enforce_policy_sample :
    (∃ script, sampleSpec.buildScriptForPolicy ⟨0, 2, [0]⟩ = .ok script ∧
      Succeeds emptyReads spendWithChange 0 script) ∧
    (∃ script, sampleSpec.buildScriptForSharedPolicy ⟨1, 1, 2⟩ = .ok script ∧
      Succeeds emptyReads spendWithChange 0 script) := by
  obtain ⟨h, hshared⟩ := generated_scripts_enforce_policy emptyReads sampleSpec
  have hpayload := commitsTo_payloadTemplate sampleSpec
  constructor
  · obtain ⟨script, hbuild, hiff⟩ := h ⟨0, 2, [0]⟩ rfl
    refine ⟨script, hbuild, (hiff spendWithChange 0 sampleInput (Bytes.fill 32 7) rfl rfl).mpr ?_⟩
    refine ⟨rfl, rfl, ?_, hpayload⟩
    rintro k hk
    obtain rfl := List.mem_singleton.mp hk
    exact ⟨_, rfl, rfl, rfl⟩
  · obtain ⟨script, hbuild, hiff⟩ := hshared ⟨1, 1, 2⟩ rfl
    refine ⟨script, hbuild, (hiff spendWithChange 0 sampleInput (Bytes.fill 32 7) rfl rfl).mpr ?_⟩
    exact ⟨rfl, by decide +kernel, by decide +kernel, by decide +kernel, hpayload⟩

end Exactness

end RgkProtocol.CovenantSpend
