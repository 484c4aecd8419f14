import RgkProtocol.ToccataTx

/-!
# The id and the wire bytes of a transaction

The id hashes the payload and the rest of the transaction apart, the rest with the signature
scripts and the mass fields blanked, so that it binds everything else. The wire bytes leave nothing
out. Their vectors carry 32-bit lengths, and a longer vector stops the program.
-/
namespace RgkProtocol.TransactionIdentity
open ByteStrings SelfDelimiting Hashing CoreTypes TransitionOutputs ToccataTx

section Id
variable (H : KaspaHasher → List UInt8 → Bytes32) (tx : ToccataV1Tx)

def restPreimage : List UInt8 := tx.writeTransaction ⟨true, true, true⟩

def restDigest : Bytes32 := H .transactionRest (restPreimage tx)

def payloadDigest : Bytes32 := H .payloadDigest tx.payload.toList

def idPreimage : List UInt8 := (payloadDigest H tx).toList ++ (restDigest H tx).toList

def txid : Bytes32 := H .transactionV1Id (idPreimage H tx)

def hash : Bytes32 := H .transactionHash (tx.writeTransaction ToccataEncodingFlags.full)

end Id

section Borsh

/-- The writer asserts that a length fits in 32 bits. -/
def writeBorshLen (len : ℕ) : Option (List UInt8) :=
  if len ≤ 4294967295 then some (leBytes 4 len) else none

def writeBorshVec (bytes : ByteVec) : Option (List UInt8) := do
  let len ← writeBorshLen bytes.toList.length
  some (len ++ bytes.toList)

def writeBorshToccataInput (input : ToccataTxInput) : Option (List UInt8) := do
  let script ← writeBorshVec input.signatureScript
  some (input.previousOutpoint.transactionId.toList ++ le32 input.previousOutpoint.index ++
    script ++ le64 input.sequence ++ [1] ++ le16 input.computeBudget)

def writeBorshToccataOutput (output : ToccataTxOutput) : Option (List UInt8) := do
  let script ← writeBorshVec output.scriptPublicKey.script
  some (le64 output.value ++ le16 output.scriptPublicKey.version ++ script ++
    match output.covenantBinding with
    | some binding => [1] ++ le16 binding.authorizingInput ++ binding.covenantId.toList
    | none => [0])

def writeBorshEach {α : Type*} (write : α → Option (List UInt8)) : List α → Option (List UInt8)
  | [] => some []
  | x :: xs => do
    let head ← write x
    let rest ← writeBorshEach write xs
    some (head ++ rest)

def toBorshBytes (H : KaspaHasher → List UInt8 → Bytes32) (tx : ToccataV1Tx) :
    Option (List UInt8) := do
  let inputCount ← writeBorshLen tx.inputs.length
  let inputs ← writeBorshEach writeBorshToccataInput tx.inputs
  let outputCount ← writeBorshLen tx.outputs.length
  let outputs ← writeBorshEach writeBorshToccataOutput tx.outputs
  let payload ← writeBorshVec tx.payload
  some (le16 txVersionToccata ++ (inputCount ++ inputs) ++ (outputCount ++ outputs) ++
    le64 tx.lockTime ++ tx.subnetworkId.toList ++ le64 tx.gas ++ payload ++ le64 tx.mass ++
    (txid H tx).toList)

end Borsh

section Written
variable {α : Type*}

def ShortInput (input : ToccataTxInput) : Prop := input.signatureScript.toList.length < 2^32

def ShortOutput (output : ToccataTxOutput) : Prop :=
  output.scriptPublicKey.script.toList.length < 2^32

/-- Every list of the transaction is shorter than `2^32`. -/
structure Short (tx : ToccataV1Tx) : Prop where
  inputs : tx.inputs.length < 2^32
  outputs : tx.outputs.length < 2^32
  payload : tx.payload.toList.length < 2^32
  input : ∀ input ∈ tx.inputs, ShortInput input
  output : ∀ output ∈ tx.outputs, ShortOutput output

def borshInput (input : ToccataTxInput) : List UInt8 :=
  input.previousOutpoint.transactionId.toList ++ le32 input.previousOutpoint.index ++
    (leBytes 4 input.signatureScript.toList.length ++ input.signatureScript.toList) ++
    le64 input.sequence ++ [1] ++ le16 input.computeBudget

def borshOutput (output : ToccataTxOutput) : List UInt8 :=
  le64 output.value ++ le16 output.scriptPublicKey.version ++
    (leBytes 4 output.scriptPublicKey.script.toList.length ++
      output.scriptPublicKey.script.toList) ++
    (writeBool output.covenantBinding.isSome ++ output.covenantBinding.elim [] writeCovenantBinding)

/-- The wire bytes without the id that closes them. -/
def borshBody (tx : ToccataV1Tx) : List UInt8 :=
  le16 txVersionToccata ++ (leBytes 4 tx.inputs.length ++ tx.inputs.flatMap borshInput) ++
    (leBytes 4 tx.outputs.length ++ tx.outputs.flatMap borshOutput) ++ le64 tx.lockTime ++
    tx.subnetworkId.toList ++ le64 tx.gas ++
    (leBytes 4 tx.payload.toList.length ++ tx.payload.toList) ++ le64 tx.mass

lemma writeBorshLen_of_lt {n : ℕ} (h : n < 2^32) : writeBorshLen n = some (leBytes 4 n) :=
  if_pos (by omega)

lemma writeBorshVec_of_lt {bytes : ByteVec} (h : bytes.toList.length < 2^32) :
    writeBorshVec bytes = some (leBytes 4 bytes.toList.length ++ bytes.toList) := by
  simp [writeBorshVec, writeBorshLen_of_lt h]

lemma writeBorshToccataInput_of_short {input : ToccataTxInput} (h : ShortInput input) :
    writeBorshToccataInput input = some (borshInput input) := by
  simp [writeBorshToccataInput, writeBorshVec_of_lt h, borshInput]

lemma writeBorshToccataOutput_of_short {output : ToccataTxOutput} (h : ShortOutput output) :
    writeBorshToccataOutput output = some (borshOutput output) := by
  cases hbinding : output.covenantBinding <;>
    simp [writeBorshToccataOutput, writeBorshVec_of_lt h, borshOutput, hbinding, writeBool,
      Bool.toUInt8, writeCovenantBinding]

lemma writeBorshEach_of_forall {write : α → Option (List UInt8)} {enc : α → List UInt8}
    {xs : List α} (h : ∀ x ∈ xs, write x = some (enc x)) :
    writeBorshEach write xs = some (xs.flatMap enc) := by
  induction xs with
  | nil => rfl
  | cons x xs ih =>
    have hhead := h x (by simp)
    have hrest := ih fun y hy => h y (by simp [hy])
    simp [writeBorshEach, hhead, hrest]

theorem toBorshBytes_of_short (H : KaspaHasher → List UInt8 → Bytes32) {tx : ToccataV1Tx}
    (h : Short tx) : toBorshBytes H tx = some (borshBody tx ++ (txid H tx).toList) := by
  have hinputs := writeBorshEach_of_forall fun input hmem =>
    writeBorshToccataInput_of_short (h.input input hmem)
  have houtputs := writeBorshEach_of_forall fun output hmem =>
    writeBorshToccataOutput_of_short (h.output output hmem)
  simp [toBorshBytes, writeBorshLen_of_lt h.inputs, writeBorshLen_of_lt h.outputs,
    writeBorshVec_of_lt h.payload, hinputs, houtputs, borshBody]

end Written

section Injective

lemma determines_borshInput : Determines ShortInput borshInput id := by
  have h := (((((Determines.bytes (P := ShortInput) fun input =>
    input.previousOutpoint.transactionId).append
    (Determines.word32 fun input => input.previousOutpoint.index)).append
    (Determines.sized (w := 4) ToccataTxInput.signatureScript fun _ hshort => hshort)).append
    (Determines.word64 ToccataTxInput.sequence)).append
    (Determines.const [1])).append (Determines.word16 ToccataTxInput.computeBudget)
  refine h.imp fun x y _ _ he => ?_
  simp only [Prod.mk.injEq] at he
  obtain ⟨⟨⟨⟨⟨hid, hindex⟩, hscript⟩, hsequence⟩, -⟩, hbudget⟩ := he
  exact ToccataTxInput.ext (KaspaOutpoint.ext hid hindex) hscript hsequence hbudget

lemma determines_borshOutput : Determines ShortOutput borshOutput id := by
  have h := (((Determines.word64 (P := ShortOutput) ToccataTxOutput.value).append
    (Determines.word16 fun output => output.scriptPublicKey.version)).append
    (Determines.sized (w := 4) (fun output : ToccataTxOutput => output.scriptPublicKey.script)
      fun _ hshort => hshort)).append
    (determines_flaggedBinding ToccataTxOutput.covenantBinding)
  refine h.imp fun x y _ _ he => ?_
  simp only [Prod.mk.injEq] at he
  obtain ⟨⟨⟨hvalue, hversion⟩, hscript⟩, hbinding⟩ := he
  exact ToccataTxOutput.ext hvalue (ToccataScriptPublicKey.ext hversion hscript) hbinding

lemma determines_borshBody : Determines Short borshBody id := by
  have hinputs := (determines_borshInput.counted 4).comap ToccataV1Tx.inputs
  have houtputs := (determines_borshOutput.counted 4).comap ToccataV1Tx.outputs
  have h := (((((((Determines.const (P := Short) (le16 txVersionToccata)).append
    (hinputs.mono fun tx hshort => ⟨hshort.inputs, hshort.input⟩)).append
    (houtputs.mono fun tx hshort => ⟨hshort.outputs, hshort.output⟩)).append
    (Determines.word64 ToccataV1Tx.lockTime)).append
    (Determines.bytes ToccataV1Tx.subnetworkId)).append
    (Determines.word64 ToccataV1Tx.gas)).append
    (Determines.sized (w := 4) ToccataV1Tx.payload fun _ hshort => hshort.payload)).append
    (Determines.word64 ToccataV1Tx.mass)
  refine h.imp fun x y _ _ he => ?_
  simp only [Prod.mk.injEq, List.map_id] at he
  obtain ⟨⟨⟨⟨⟨⟨⟨-, hin⟩, hout⟩, hlock⟩, hsubnetwork⟩, hgas⟩, hpayload⟩, hmass⟩ := he
  exact ToccataV1Tx.ext hin hout hlock hsubnetwork hgas hpayload hmass

lemma borshBytes_injective (H : KaspaHasher → List UInt8 → Bytes32) {t₁ t₂ : ToccataV1Tx}
    (h₁ : Short t₁) (h₂ : Short t₂)
    (h : borshBody t₁ ++ (txid H t₁).toList = borshBody t₂ ++ (txid H t₂).toList) : t₁ = t₂ :=
  (determines_borshBody t₁ t₂ h₁ h₂ _ _ h).1

end Injective

section Identity
variable {H : KaspaHasher → List UInt8 → Bytes32} {t₁ t₂ : ToccataV1Tx}

/-- The transaction without its signature scripts, compute budgets and mass. -/
def unsigned (tx : ToccataV1Tx) : ToccataV1Tx := tx.erase ⟨true, true, false⟩

lemma Short.fits {tx : ToccataV1Tx} (h : Short tx) : tx.Fits :=
  ⟨h.inputs.trans (by norm_num), h.outputs.trans (by norm_num)⟩

/-- The payload and the rest are the two halves of what the id binds. -/
lemma unsigned_eq_iff :
    unsigned t₁ = unsigned t₂ ↔
      t₁.payload = t₂.payload ∧ t₁.erase ⟨true, true, true⟩ = t₂.erase ⟨true, true, true⟩ := by
  simp only [unsigned, ToccataV1Tx.erase, ToccataV1Tx.mk.injEq]
  constructor
  · rintro ⟨hin, hout, hlock, hsubnetwork, hgas, hpayload, -⟩
    exact ⟨hpayload, hin, hout, hlock, hsubnetwork, hgas, rfl, rfl⟩
  · rintro ⟨hpayload, hin, hout, hlock, hsubnetwork, hgas, -, -⟩
    exact ⟨hin, hout, hlock, hsubnetwork, hgas, hpayload, rfl⟩

/-- The strings that the ids of the two transactions hash have no collision, domain by domain. -/
structure IdsCollisionFree (H : KaspaHasher → List UInt8 → Bytes32) (t₁ t₂ : ToccataV1Tx) :
    Prop where
  id : CollisionFree (H .transactionV1Id) {idPreimage H t₁, idPreimage H t₂}
  payload : CollisionFree (H .payloadDigest) {t₁.payload.toList, t₂.payload.toList}
  rest : CollisionFree (H .transactionRest) {restPreimage t₁, restPreimage t₂}

lemma txid_eq_iff (hfree : IdsCollisionFree H t₁ t₂) :
    txid H t₁ = txid H t₂ ↔
      t₁.payload = t₂.payload ∧ restPreimage t₁ = restPreimage t₂ := by
  constructor
  · intro h
    have hpre : idPreimage H t₁ = idPreimage H t₂ := hfree.id.eq (by simp) (by simp) h
    have hdigests : payloadDigest H t₁ = payloadDigest H t₂ ∧ restDigest H t₁ = restDigest H t₂ := by
      simpa [idPreimage] using hpre
    have hpayload := hfree.payload.eq (by simp) (by simp) hdigests.1
    exact ⟨ByteVec.ext hpayload, hfree.rest.eq (by simp) (by simp) hdigests.2⟩
  · rintro ⟨hpayload, hrest⟩
    simp only [txid, idPreimage, payloadDigest, restDigest, hpayload, hrest]

/-- The hash leaves nothing out: unlike the id it tells signatures and masses apart. -/
theorem hash_eq_iff (h₁ : t₁.Fits) (h₂ : t₂.Fits)
    (hfree : CollisionFree (H .transactionHash)
      {t₁.writeTransaction ToccataEncodingFlags.full, t₂.writeTransaction ToccataEncodingFlags.full}) :
    hash H t₁ = hash H t₂ ↔ t₁ = t₂ := by
  have hfull : ∀ tx : ToccataV1Tx, tx.erase ToccataEncodingFlags.full = tx := by
    intro tx
    have hinput : ToccataTxInput.erase ToccataEncodingFlags.full = id := rfl
    rw [ToccataV1Tx.erase, hinput, List.map_id]
    rfl
  constructor
  · intro h
    have hwritten := hfree.eq (by simp) (by simp) h
    rwa [writeTransaction_eq_iff h₁ h₂, hfull, hfull] at hwritten
  · intro h
    rw [h]

/-- The wire bytes tell any two transactions apart. The id tells them apart exactly when they
differ in more than signature scripts, compute budgets and mass. -/
theorem transaction_identity (H : KaspaHasher → List UInt8 → Bytes32) (t₁ t₂ : ToccataV1Tx)
    (h₁ : Short t₁) (h₂ : Short t₂) (hfree : IdsCollisionFree H t₁ t₂) :
    (∃ b₁ b₂, toBorshBytes H t₁ = some b₁ ∧ toBorshBytes H t₂ = some b₂ ∧ (b₁ = b₂ → t₁ = t₂)) ∧
      (txid H t₁ = txid H t₂ ↔ unsigned t₁ = unsigned t₂) := by
  constructor
  · exact ⟨_, _, toBorshBytes_of_short H h₁, toBorshBytes_of_short H h₂,
      borshBytes_injective H h₁ h₂⟩
  · rw [txid_eq_iff hfree, unsigned_eq_iff]
    exact and_congr_right fun _ => writeTransaction_eq_iff h₁.fits h₂.fits

def sampleTx (script : ByteVec) (value : UInt64) (payload : ByteVec) : ToccataV1Tx :=
  ⟨[⟨⟨Bytes.fill 32 1, 0⟩, script, 0, 10⟩], [⟨value, ⟨0, ByteVec.single 0x51⟩,
    some ⟨0, Bytes.fill 32 2⟩⟩], 0, subnetworkIdNative, 0, payload, 5⟩

lemma short_sampleTx {script payload : ByteVec} (value : UInt64)
    (hscript : script.toList.length < 2^32) (hpayload : payload.toList.length < 2^32) :
    Short (sampleTx script value payload) where
  inputs := by simp [sampleTx]
  outputs := by simp [sampleTx]
  payload := hpayload
  input := by simpa [sampleTx, ShortInput] using hscript
  output := by simp [sampleTx, ShortOutput, ByteVec.single]

/-- A signed transaction and an unsigned one that pays a unit more: the ids differ. -/
theorem transaction_identity_sample :
    txid sampleHasher (sampleTx (ByteVec.single 9) 100 (ByteVec.single 7)) ≠
      txid sampleHasher (sampleTx ByteVec.empty 101 (ByteVec.single 8)) := by
  have h₁ : Short (sampleTx (ByteVec.single 9) 100 (ByteVec.single 7)) :=
    short_sampleTx 100 (by norm_num [ByteVec.single]) (by norm_num [ByteVec.single])
  have h₂ : Short (sampleTx ByteVec.empty 101 (ByteVec.single 8)) :=
    short_sampleTx 101 (by norm_num [ByteVec.empty]) (by norm_num [ByteVec.single])
  have hfree : IdsCollisionFree sampleHasher (sampleTx (ByteVec.single 9) 100 (ByteVec.single 7))
      (sampleTx ByteVec.empty 101 (ByteVec.single 8)) := by
    constructor <;> exact CollisionFree.pair (by decide +kernel)
  rw [ne_eq, (transaction_identity sampleHasher _ _ h₁ h₂ hfree).2]
  decide

end Identity
end RgkProtocol.TransactionIdentity
