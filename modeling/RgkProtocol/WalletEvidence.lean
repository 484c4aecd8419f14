import Mathlib.Data.List.TakeWhile
import RgkProtocol.Replication
import RgkProtocol.ReceiptBuilder
import RgkProtocol.WalletDashboard

/-!
# Evidence between wallets

A wallet that moves a covenant builds the receipt of the transition and indexes the spend. The
receipt can be exported: another wallet that indexes the same covenant verifies it against its own
state and indexes the same spend. The two wallets agree on the covenant as far as the receipts have
come through.
-/
namespace RgkProtocol.WalletEvidence
open ByteStrings Hashing CoreTypes Checked CanonicalEncoding ReceiptCommitment IndexerState
open IndexerOps IndexerHistory Resolver ReceiptVerification ReceiptBuilder WalletScan
open WalletIdentity WalletSession WalletDashboard Replication

section Parsing

/-- The texts of the source, with the error they display where there is one. -/
inductive EvidenceError where
  | text (message : String)
  | decode (message : String) (error : DecodeError)
  | receipt (message : String) (error : ReceiptError)
  | index (message : String) (error : IndexerError)
  deriving DecidableEq

def required (value field : String) : Except EvidenceError Bytes32 :=
  (parseBytes32Required value field).mapError .text

def parseHexBlob (p : Primitives) (value field : String) : Except EvidenceError (List UInt8) := do
  let hex := String.ofList (strip0x ((trim value.toList).map Char.toLower))
  failIf (hex = "") (.text (field ++ " must not be empty"))
  failIf (hex.utf8ByteSize % 2 ≠ 0)
    (.text (field ++ " must contain an even number of hex characters"))
  let bytes ← (p.hexDecode hex).mapError fun error =>
    .text (field ++ " is not valid hex: " ++ error)
  failIf (maxBlobBytes < bytes.length) (.text (field ++ " is too large: " ++
    toString bytes.length ++ " bytes exceeds " ++ toString maxBlobBytes))
  .ok bytes

def requireProofEvidenceBundle (input : RecordProofInput) : Except EvidenceError Unit :=
  forEnum (fun _ field => failIf (trimmed field.2 = "")
      (.text (field.1 ++ " is required when proof evidence is supplied"))) 0
    [("receiptBytes", input.receiptBytes), ("covenantId", input.covenantId),
      ("spentTxid", input.spentTxid), ("newTxid", input.newTxid),
      ("continuationShapeRoot", input.continuationShapeRoot)]

/-- A transaction id that is given besides the new outpoint has to agree with it. -/
def checkTxid (input : RecordProofInput) (newOutpoint : KaspaOutpoint) :
    Except EvidenceError Unit :=
  match trimmedOptional input.txid with
  | none => .ok ()
  | some txid => do
      let txid ← required txid "txid"
      failIf (txid ≠ newOutpoint.transactionId)
        (.text "txid must match newTxid when receipt evidence is supplied")

end Parsing

section Ingestion
variable (p : Primitives) (chainId : KaspaChainId)

/-- A spend that has passed every check before it is indexed. -/
structure PreparedSpend where
  call : SpendCall
  continuation : ContinuationProof
  evidence : VerifiedProofEvidence
  deriving DecidableEq

/-- Index a prepared spend; an error leaves the index as it was. -/
def indexSpend (message : String) (ix : InMemoryIndexer) (prepared : PreparedSpend) :
    Except EvidenceError VerifiedProofEvidence × InMemoryIndexer :=
  match applySpendWithContinuation p.sha256 ix prepared.call prepared.continuation with
  | (.ok _, ix) => (.ok prepared.evidence, ix)
  | (.error error, ix) => (.error (.index message error), ix)

def prepareProof (ix : InMemoryIndexer) (input : RecordProofInput) :
    Except EvidenceError PreparedSpend := do
  requireProofEvidenceBundle input
  let receiptBytes ← parseHexBlob p input.receiptBytes "receiptBytes"
  let covenantId ← required input.covenantId "covenantId"
  let spentTxid ← required input.spentTxid "spentTxid"
  let newTxid ← required input.newTxid "newTxid"
  let newOutpoint : KaspaOutpoint := ⟨newTxid, input.newIndex⟩
  checkTxid input newOutpoint
  let shapeRoot ← required input.continuationShapeRoot "continuationShapeRoot"
  let receipt ← (decodeCanonical receiptBytes : Except DecodeError RgkReceipt).mapError
    (.decode "receiptBytes could not be decoded: ")
  failIf (receipt.proofMode ≠ input.proofMode)
    (.text "proofMode does not match the canonical receipt")
  failIf (receipt.newState.receiptPolicy ≠ input.receiptPolicy)
    (.text "receiptPolicy does not match the canonical receipt new state")
  let expectedOld ← okOr (InMemoryIndexer.latestState ix covenantId)
    (.text "covenantId is not indexed in the wallet database")
  let receiptId ← (verifyLocalStructured p.sha256 receipt covenantId expectedOld chainId).mapError
    (.receipt "receipt verification failed: ")
  failIf (receiptId ≠ receiptCommitment p.sha256 receipt)
    (.text "receipt verifier returned a non-canonical receipt id")
  .ok ⟨⟨covenantId, receiptId, ⟨spentTxid, input.spentIndex⟩, newOutpoint, receipt.newState,
      input.daaScore⟩,
    ⟨receipt.continuationCommitment, shapeRoot, receipt.transitionDigest⟩,
    ⟨receiptId, receipt.proofMode, receipt.newState.receiptPolicy, newOutpoint,
      receipt.newState.stateDigest, hexText receiptBytes, receipt.transitionDigest,
      receipt.continuationCommitment, shapeRoot⟩⟩

def ingestProofEvidenceAtPath (ix : InMemoryIndexer) (input : RecordProofInput) :
    Except EvidenceError (Option VerifiedProofEvidence) × InMemoryIndexer :=
  if proofEvidenceSupplied input = false then (.ok none, ix)
  else
    match prepareProof p chainId ix input with
    | .error error => (.error error, ix)
    | .ok prepared =>
        let indexed := indexSpend p "failed to index receipt spend: " ix prepared
        (indexed.1.map some, indexed.2)

end Ingestion

section Transition
variable (p : Primitives) (chainId : KaspaChainId)

def replayNonce (H : List UInt8 → Bytes32) (prevOutpointPayload : List UInt8)
    (transitionDigest : Bytes32) : Bytes32 :=
  domainHashStr H "rgk:replay-nonce" (prevOutpointPayload ++ transitionDigest.toList)

/-- `ReceiptInput::new` on the fields of the input. -/
def newReceiptInput (input : ReceiptInput) : Except ReceiptError ReceiptInput := do
  let _ ← input.toValidatedReceipt
  .ok input

def prepareTransition (ix : InMemoryIndexer) (input : RecordTransitionInput)
    (selectedLaneCovenantId : String) : Except EvidenceError PreparedSpend := do
  let laneId ← required input.laneId "laneId"
  let covenantId ← required selectedLaneCovenantId "selected lane covenantId"
  let newStateDigest ← required input.newStateDigest "newStateDigest"
  let transitionDigest ← required input.transitionDigest "transitionDigest"
  let continuationCommitment ← required input.continuationCommitment "continuationCommitment"
  let continuationShapeRoot ← required input.continuationShapeRoot "continuationShapeRoot"
  let newTxid ← required input.newTxid "newTxid"
  let newOutpoint : KaspaOutpoint := ⟨newTxid, input.newIndex⟩
  let indexedLane ← okOr (ix.lanes.get? laneId)
    (.text "laneId is not indexed in the wallet database")
  failIf (indexedLane.covenantId ≠ covenantId)
    (.text "indexed lane covenant does not match the selected wallet lane")
  let oldState ← okOr (InMemoryIndexer.latestState ix covenantId)
    (.text "selected lane covenant is not indexed in the wallet database")
  let spent ← okOr (InMemoryIndexer.openOutpoint ix covenantId)
    (.text "selected lane has no indexed open outpoint")
  failIf (oldState.receiptPolicy ≠ input.receiptPolicy)
    (.text "receiptPolicy must match the indexed lane current policy")
  let newState : RgkStateCommitment :=
    ⟨encodingVersion, chainId, covenantId, oldState.assetId, newStateDigest, input.receiptPolicy⟩
  (RgkStateCommitment.validateStructure newState).mapError
    (.decode "transition state commitment is invalid: ")
  let nonce := replayNonce p.sha256 (encodeCanonical spent) transitionDigest
  let receiptInput ← (newReceiptInput ⟨chainId, covenantId, oldState, newState, transitionDigest,
    continuationCommitment, input.proofMode, nonce⟩).mapError
      (.receipt "transition receipt input is invalid: ")
  let (receipt, receiptId, receiptBytes) ← (build p.sha256 receiptInput).mapError
    (.receipt "failed to build transition receipt: ")
  let verifiedId ← (verifyLocalStructured p.sha256 receipt covenantId oldState chainId).mapError
    (.receipt "transition receipt verification failed: ")
  failIf (verifiedId ≠ receiptId)
    (.text "transition receipt verifier returned a non-canonical receipt id")
  .ok ⟨⟨covenantId, receiptId, spent, newOutpoint, newState, input.daaScore⟩,
    ⟨continuationCommitment, continuationShapeRoot, transitionDigest⟩,
    ⟨receiptId, input.proofMode, input.receiptPolicy, newOutpoint, newStateDigest,
      hexText receiptBytes, transitionDigest, continuationCommitment, continuationShapeRoot⟩⟩

def buildTransitionReceiptAtPath (ix : InMemoryIndexer) (input : RecordTransitionInput)
    (selectedLaneCovenantId : String) :
    Except EvidenceError TransitionReceiptEvidence × InMemoryIndexer :=
  match prepareTransition p chainId ix input selectedLaneCovenantId with
  | .error error => (.error error, ix)
  | .ok prepared => indexSpend p "failed to index transition receipt: " ix prepared

end Transition

section Texts
variable {p : Primitives}

/-- What a character of a written byte string looks like to the parsers. -/
structure Plain (c : Char) : Prop where
  noSpace : isWhitespace c = false
  noColon : c ≠ ':'
  lower : c.toLower = c

lemma plain_hexEncode {bytes : List UInt8} :
    ∀ c ∈ (hexEncode bytes).toList, Plain c ∧ c ≠ 'x' ∧ isHexDigit c = true := by
  intro c hc
  obtain ⟨hspace, hcolon, hlower, hdigit⟩ := of_decide_eq_true (hexEncode_all (P := fun c =>
    isWhitespace c = false ∧ c ≠ ':' ∧ c.toLower = c ∧ c ≠ 'x' ∧ isHexDigit c = true) (by decide) hc)
  exact ⟨⟨hspace, hcolon, hlower⟩, hdigit⟩

lemma plain_hexText {bytes : List UInt8} : ∀ c ∈ (hexText bytes).toList, Plain c := by
  intro c hc
  have htext : (hexText bytes).toList = '0' :: 'x' :: (hexEncode bytes).toList := by
    simp [hexText]
  rw [htext, List.mem_cons, List.mem_cons] at hc
  obtain rfl | rfl | hc := hc
  · exact ⟨by decide, by decide, by decide⟩
  · exact ⟨by decide, by decide, by decide⟩
  · exact (plain_hexEncode c hc).1

lemma plain_toHex {b : Bytes32} : ∀ c ∈ (toHex b).toList, Plain c :=
  fun c hc => (plain_hexEncode c hc).1

lemma map_toLower_of_plain {l : List Char} (h : ∀ c ∈ l, Plain c) : l.map Char.toLower = l := by
  conv_rhs => rw [← List.map_id l]
  exact List.map_congr_left fun c hc => (h c hc).lower

lemma trim_of_plain {l : List Char} (h : ∀ c ∈ l, Plain c) : trim l = l :=
  trim_eq_self fun c hc => (h c hc).noSpace

lemma trimmed_of_plain {text : String} (h : ∀ c ∈ text.toList, Plain c) : trimmed text = text := by
  rw [trimmed, trim_of_plain h, String.ofList_toList]

lemma strip0x_hexText (bytes : List UInt8) :
    strip0x (hexText bytes).toList = (hexEncode bytes).toList := by
  simp [hexText, strip0x]

lemma strip0x_hexEncode (bytes : List UInt8) :
    strip0x (hexEncode bytes).toList = (hexEncode bytes).toList := by
  rw [strip0x.eq_def]
  split
  · rename_i l hl
    have hx : 'x' ∈ (hexEncode bytes).toList := by simp [hl]
    exact absurd rfl (plain_hexEncode 'x' hx).2.1
  · rfl

lemma hexText_ne (bytes : List UInt8) : hexText bytes ≠ "" := by
  intro h
  have hlist := congrArg String.toList h
  simp [hexText] at hlist

lemma utf8ByteSize_toHex (b : Bytes32) : (toHex b).utf8ByteSize = 64 := by
  have hsize := utf8ByteSize_hexEncode b.toList
  rwa [b.length_toList] at hsize

lemma toHex_ne (b : Bytes32) : toHex b ≠ "" := by
  intro h
  have hsize := utf8ByteSize_toHex b
  rw [h, String.utf8ByteSize_empty] at hsize
  omega

lemma hex32Label_eq (b : Bytes32) : hex32Label b = hexText b.toList := rfl

/-- A text of plain characters, with or without the mark, is parsed to the bytes of its digits. -/
lemma parseBytes32Handle_of_plain {text : String} {b : Bytes32} (h : ∀ c ∈ text.toList, Plain c)
    (hdigits : strip0x text.toList = (hexEncode b.toList).toList) :
    parseBytes32Handle text = some b := by
  have hsegment : lastSegment text.toList = text.toList := by
    have hall : ∀ c ∈ text.toList.reverse, decide (c ≠ ':') = true := fun c hc =>
      decide_eq_true (h c (List.mem_reverse.mp hc)).noColon
    rw [lastSegment, List.takeWhile_eq_self_iff.mpr hall, List.reverse_reverse]
  rw [parseBytes32Handle, hsegment, trim_of_plain h, map_toLower_of_plain h, hdigits, fromHex,
    fromHexPairs_hexEncode, Option.bind_eq_bind, Option.bind_some, dif_pos b.length_toList]

lemma parseBytes32Handle_hex32Label (b : Bytes32) : parseBytes32Handle (hex32Label b) = some b :=
  parseBytes32Handle_of_plain plain_hexText (strip0x_hexText b.toList)

lemma required_of_parsed {text : String} {b : Bytes32} (h : parseBytes32Handle text = some b)
    (field : String) : required text field = .ok b := by
  rw [required, mapError_eq_ok, parseBytes32Required, okOr_eq_ok, h]

lemma required_hex32Label (b : Bytes32) (field : String) : required (hex32Label b) field = .ok b :=
  required_of_parsed (parseBytes32Handle_hex32Label b) field

lemma required_toHex (b : Bytes32) (field : String) : required (toHex b) field = .ok b :=
  required_of_parsed (parseBytes32Handle_of_plain plain_toHex (strip0x_hexEncode b.toList)) field

lemma trimmedOptional_toHex (b : Bytes32) : trimmedOptional (toHex b) = some (toHex b) := by
  rw [trimmedOptional, trimmed_of_plain plain_toHex, if_neg (toHex_ne b)]

lemma validateOptionalTxid_toHex (b : Bytes32) :
    validateOptionalTxid (toHex b) = .ok (some (toHex b)) := by
  have hdigits : (toHex b).toList.all isHexDigit = true :=
    List.all_eq_true.mpr fun c hc => (plain_hexEncode c hc).2.2
  simp only [validateOptionalTxid, trimmedOptional_toHex, unit_bind_eq_ok, failIf_eq_ok,
    utf8ByteSize_toHex, hdigits, map_toLower_of_plain plain_toHex, String.ofList_toList]
  decide

lemma parseHexBlob_hexText (hhex : p.HexLawful) {bytes : List UInt8} (hne : bytes ≠ [])
    (hlen : bytes.length ≤ maxBlobBytes) (field : String) :
    parseHexBlob p (hexText bytes) field = .ok bytes := by
  have hsize := utf8ByteSize_hexEncode bytes
  have hpos : 0 < bytes.length := List.length_pos_iff.mpr hne
  simp only [parseHexBlob, trim_of_plain plain_hexText, map_toLower_of_plain plain_hexText,
    strip0x_hexText, String.ofList_toList, unit_bind_eq_ok, failIf_eq_ok]
  refine ⟨fun hempty => ?_, by omega, ?_⟩
  · rw [hempty, String.utf8ByteSize_empty] at hsize
    omega
  · rw [hhex bytes]
    exact unit_bind_eq_ok.mpr ⟨failIf_eq_ok.mpr (by omega), rfl⟩

lemma length_encodeCanonical_receipt (receipt : RgkReceipt) :
    (encodeCanonical receipt).length = 348 := by
  simp [encodeCanonical, Canonical.encode, RgkReceipt.encode, RgkStateCommitment.encode,
    KaspaChainId.encode, ReceiptPolicy.encode, ProofMode.encode]

lemma parseHexBlob_receipt (hhex : p.HexLawful) (receipt : RgkReceipt) (field : String) :
    parseHexBlob p (hexText (encodeCanonical receipt)) field = .ok (encodeCanonical receipt) := by
  have hlen := length_encodeCanonical_receipt receipt
  refine parseHexBlob_hexText hhex (List.ne_nil_of_length_pos (by omega)) ?_ field
  rw [hlen, maxBlobBytes]
  decide

end Texts

section Handover
variable {p : Primitives} {chainId : KaspaChainId}

/-- The spend that a verified receipt stands for. -/
def receiptSpend (H : List UInt8 → Bytes32) (receipt : RgkReceipt) (spent newOutpoint : KaspaOutpoint)
    (daaScore : UInt64) (shapeRoot : Bytes32) : PreparedSpend :=
  ⟨⟨receipt.covenantId, receiptCommitment H receipt, spent, newOutpoint, receipt.newState, daaScore⟩,
    ⟨receipt.continuationCommitment, shapeRoot, receipt.transitionDigest⟩,
    ⟨receiptCommitment H receipt, receipt.proofMode, receipt.newState.receiptPolicy, newOutpoint,
      receipt.newState.stateDigest, hexText (encodeCanonical receipt), receipt.transitionDigest,
      receipt.continuationCommitment, shapeRoot⟩⟩

/-- What a wallet hands over of a spend that it prepared. The lane, the strategy and the
confirmations are the other wallet's own. -/
def handover (base : RecordProofInput) (m : PreparedSpend) : RecordProofInput :=
  { base with
    proofMode := m.evidence.proofMode
    receiptPolicy := m.evidence.receiptPolicy
    txid := toHex m.call.newOutpoint.transactionId
    receiptBytes := m.evidence.receiptBytes
    covenantId := hex32Label m.call.covenant
    spentTxid := toHex m.call.spent.transactionId
    spentIndex := m.call.spent.index
    newTxid := toHex m.call.newOutpoint.transactionId
    newIndex := m.call.newOutpoint.index
    continuationShapeRoot := hex32Label m.evidence.continuationShapeRoot
    daaScore := m.call.daaScore }

lemma verifyLocalStructured_id {H : List UInt8 → Bytes32} {receipt : RgkReceipt}
    {covenant id : Bytes32} {old : RgkStateCommitment}
    (h : verifyLocalStructured H receipt covenant old chainId = .ok id) :
    id = receiptCommitment H receipt := by
  simp only [verifyLocalStructured, unit_bind_eq_ok, Except.ok.injEq] at h
  obtain ⟨-, -, -, -, -, hid⟩ := h
  exact hid.symm

lemma prepareTransition_ok {ix : InMemoryIndexer} {input : RecordTransitionInput}
    {selected : String} {m : PreparedSpend}
    (h : prepareTransition p chainId ix input selected = .ok m) :
    ∃ receipt old spent newOutpoint daaScore shapeRoot, ReceiptValid receipt ∧
      m = receiptSpend p.sha256 receipt spent newOutpoint daaScore shapeRoot ∧
      InMemoryIndexer.latestState ix receipt.covenantId = some old ∧
      verifyLocalStructured p.sha256 receipt receipt.covenantId old chainId =
        .ok (receiptCommitment p.sha256 receipt) := by
  simp only [prepareTransition, bind_eq_ok, mapError_eq_ok, okOr_eq_ok, build_eq_ok,
    Except.ok.injEq, Prod.exists] at h
  obtain ⟨-, -, covenantId, -, digest, -, transition, -, continuation, -, shapeRoot, -, txid, -, -,
    -, -, -, old, hold, spent, -, -, -, -, -, receiptInput, hinput, receipt, id, bytes,
    ⟨hreceipt, hvalid, -, rfl, rfl⟩, id', hverified, -, -, rfl⟩ := h
  simp only [newReceiptInput, bind_eq_ok, Except.ok.injEq] at hinput
  obtain ⟨-, -, rfl⟩ := hinput
  obtain rfl := verifyLocalStructured_id hverified
  subst hreceipt
  exact ⟨_, old, spent, ⟨txid, input.newIndex⟩, input.daaScore, shapeRoot, hvalid, rfl, hold,
    hverified⟩

variable (base : RecordProofInput)

lemma requireProofEvidenceBundle_handover (m : PreparedSpend) {receipt : RgkReceipt}
    (hm : m.evidence.receiptBytes = hexText (encodeCanonical receipt)) :
    requireProofEvidenceBundle (handover base m) = .ok () := by
  simp only [requireProofEvidenceBundle, handover, hm, hex32Label_eq, forEnum,
    trimmed_of_plain plain_hexText, trimmed_of_plain plain_toHex, hexText_ne, toHex_ne, failIf,
    if_false]
  rfl

lemma checkTxid_handover (m : PreparedSpend) :
    checkTxid (handover base m) m.call.newOutpoint = .ok () := by
  simp only [checkTxid, handover, trimmedOptional_toHex, required_toHex]
  exact failIf_eq_ok.mpr (not_not.mpr rfl)

/-- The texts of a handed over spend are read back, so that what is left to check is the receipt
against the receiver's own state. -/
lemma prepareProof_handover (hhex : p.HexLawful) (ix : InMemoryIndexer) {receipt : RgkReceipt}
    (hvalid : ReceiptValid receipt) {spent newOutpoint : KaspaOutpoint} {daaScore : UInt64}
    {shapeRoot : Bytes32} {m m' : PreparedSpend}
    (hm : m = receiptSpend p.sha256 receipt spent newOutpoint daaScore shapeRoot) :
    prepareProof p chainId ix (handover base m) = .ok m' ↔
      m' = m ∧ ∃ old, InMemoryIndexer.latestState ix receipt.covenantId = some old ∧
        verifyLocalStructured p.sha256 receipt receipt.covenantId old chainId =
          .ok (receiptCommitment p.sha256 receipt) := by
  subst hm
  have hdecode : decodeCanonical (encodeCanonical receipt) = .ok receipt :=
    (decodeCanonical_eq_ok exact_receipt).mpr ⟨validateReceipt_eq_ok.mpr hvalid, rfl⟩
  have hbundle := requireProofEvidenceBundle_handover base
    (receiptSpend p.sha256 receipt spent newOutpoint daaScore shapeRoot) rfl
  have htxid := checkTxid_handover base
    (receiptSpend p.sha256 receipt spent newOutpoint daaScore shapeRoot)
  unfold handover receiptSpend at hbundle htxid
  simp only [prepareProof, handover, receiptSpend, hbundle, htxid, parseHexBlob_receipt hhex,
    required_hex32Label, required_toHex, bind_eq_ok, Except.ok.injEq, exists_eq_left',
    mapError_eq_ok, hdecode, okOr_eq_ok, failIf_eq_ok, ne_eq, not_not, true_and, exists_const]
  constructor
  · rintro ⟨old, hold, id, hverified, -, rfl⟩
    obtain rfl := verifyLocalStructured_id hverified
    exact ⟨rfl, old, hold, hverified⟩
  · rintro ⟨rfl, old, hold, hverified⟩
    exact ⟨old, hold, _, hverified, rfl, rfl⟩

end Handover

section Indexing
variable {p : Primitives} {chainId : KaspaChainId}

/-- The entry with a prepared spend added. -/
def PreparedSpend.after (e : IndexedCovenant) (m : PreparedSpend) : IndexedCovenant :=
  entryAfterSpend e m.call (some m.continuation) none

/-- The index takes the prepared spend into an entry. -/
def PreparedSpend.Accepted (H : List UInt8 → Bytes32) (e : IndexedCovenant) (m : PreparedSpend) :
    Prop := SpendAccepted H e m.call (some m.continuation) none

lemma indexSpend_of_accepted (message : String) {ix : InMemoryIndexer} {m : PreparedSpend}
    {e : IndexedCovenant} (he : ix.map.get? m.call.covenant = some e)
    (h : m.Accepted p.sha256 e) :
    indexSpend p message ix m =
      (.ok m.evidence, { ix with map := ix.map.insert m.call.covenant (m.after e) }) := by
  have hentry := applySpendToEntry_eq_ok.mpr ⟨h, rfl⟩
  simp only [indexSpend, applySpendWithContinuation, applySpendWith, withEntry, he, hentry,
    PreparedSpend.after]

lemma indexSpend_of_not_accepted (message : String) {ix : InMemoryIndexer} {m : PreparedSpend}
    (h : ∀ e, ix.map.get? m.call.covenant = some e → ¬ m.Accepted p.sha256 e) :
    (∃ error, (indexSpend p message ix m).1 = .error error) ∧
      (indexSpend p message ix m).2 = ix := by
  cases happly : applySpendWithContinuation p.sha256 ix m.call m.continuation with
  | mk result ix' =>
    cases result with
    | error error =>
      simp only [indexSpend, happly]
      exact ⟨⟨_, rfl⟩, IndexerInvariant.applySpendWith_error happly⟩
    | ok u =>
      -- A call that succeeds has been accepted by the entry.
      exfalso
      simp only [applySpendWithContinuation, applySpendWith, withEntry] at happly
      cases he : ix.map.get? m.call.covenant with
      | none => simp only [he, Prod.mk.injEq, reduceCtorEq, false_and] at happly
      | some e =>
        simp only [he] at happly
        cases hentry : applySpendToEntry p.sha256 e m.call (some m.continuation) none with
        | error error => simp only [hentry, Prod.mk.injEq, reduceCtorEq, false_and] at happly
        | ok e' => exact h e he (applySpendToEntry_eq_ok.mp hentry).1

lemma indexSpend_ok {message : String} {ix : InMemoryIndexer} {m : PreparedSpend}
    {evidence : VerifiedProofEvidence} (h : (indexSpend p message ix m).1 = .ok evidence) :
    ∃ e, ix.map.get? m.call.covenant = some e ∧ m.Accepted p.sha256 e := by
  by_contra hnone
  push Not at hnone
  obtain ⟨⟨error, herror⟩, -⟩ := indexSpend_of_not_accepted (p := p) message hnone
  rw [h] at herror
  cases herror

lemma get?_indexSpend_of_ne (message : String) (ix : InMemoryIndexer) {m : PreparedSpend}
    {c : Bytes32} (hne : m.call.covenant ≠ c) :
    (indexSpend p message ix m).2.map.get? c = ix.map.get? c := by
  by_cases h : ∃ e, ix.map.get? m.call.covenant = some e ∧ m.Accepted p.sha256 e
  · obtain ⟨e, he, haccepted⟩ := h
    rw [indexSpend_of_accepted message he haccepted, OrderedMap.get?_insert, if_neg hne]
  · push Not at h
    rw [(indexSpend_of_not_accepted message h).2]

end Indexing

section Completeness
variable {p : Primitives} {chainId : KaspaChainId}

/-- The receipt of a transition from the indexed state. -/
def transitionReceipt (H : List UInt8 → Bytes32) (chainId : KaspaChainId) (covenantId : Bytes32)
    (old : RgkStateCommitment) (spent : KaspaOutpoint) (digest transition continuation : Bytes32)
    (mode : ProofMode) : RgkReceipt :=
  ⟨encodingVersion, chainId, covenantId, old,
    ⟨encodingVersion, chainId, covenantId, old.assetId, digest, old.receiptPolicy⟩, transition,
    continuation, mode, replayNonce H (encodeCanonical spent) transition⟩

lemma verifyLocalStructured_of_valid {H : List UInt8 → Bytes32} {receipt : RgkReceipt}
    (h : ReceiptValid receipt) :
    verifyLocalStructured H receipt receipt.covenantId receipt.oldState receipt.chainId =
      .ok (receiptCommitment H receipt) := by
  simp only [verifyLocalStructured, unit_bind_eq_ok, failIf_eq_ok, not_not, not_or]
  exact ⟨trivial, trivial, ⟨trivial, h.asset.symm⟩, trivial, h.admitted, trivial⟩

lemma prepareTransition_of_valid {ix : InMemoryIndexer}
    {lane covenantId digest transition continuation shapeRoot txid : Bytes32} {index : UInt32}
    {daaScore : UInt64} {mode : ProofMode} {strategy : String} {indexed : IndexedLane}
    {s : RgkStateCommitment} {o : KaspaOutpoint} {receipt : RgkReceipt}
    (hlane : ix.lanes.get? lane = some indexed) (hcovenant : indexed.covenantId = covenantId)
    (hold : InMemoryIndexer.latestState ix covenantId = some s)
    (hspent : InMemoryIndexer.openOutpoint ix covenantId = some o)
    (hreceipt : receipt = transitionReceipt p.sha256 chainId covenantId s o digest transition
      continuation mode) (hvalid : ReceiptValid receipt) (hnonce : receipt.replayNonce ≠ Bytes.zero) :
    prepareTransition p chainId ix ⟨hex32Label lane, mode, s.receiptPolicy, strategy,
        hex32Label digest, hex32Label transition, hex32Label continuation, hex32Label shapeRoot,
        hex32Label txid, index, daaScore⟩ (hex32Label covenantId) =
      .ok (receiptSpend p.sha256 receipt o ⟨txid, index⟩ daaScore shapeRoot) := by
  subst hreceipt
  have hbuilt := toValidatedReceipt_eq_ok.mpr ⟨(rfl : _ = ReceiptInput.receipt ⟨chainId, covenantId,
    s, ⟨encodingVersion, chainId, covenantId, s.assetId, digest, s.receiptPolicy⟩, transition,
    continuation, mode, replayNonce p.sha256 (encodeCanonical o) transition⟩), hvalid, hnonce⟩
  have hverified := verifyLocalStructured_of_valid (H := p.sha256) hvalid
  simp only [prepareTransition, required_hex32Label, hlane, hcovenant, hold, hspent,
    newReceiptInput, build, bind_eq_ok, Except.ok.injEq, exists_eq_left', mapError_eq_ok,
    okOr_eq_ok, Option.some.injEq, failIf_eq_ok, ne_eq, not_not, exists_const, true_and]
  exact ⟨(), validateState_eq_ok.mpr hvalid.newState, _, ⟨_, hbuilt, rfl⟩, _, ⟨_, hbuilt, rfl⟩, _,
    hverified, rfl, rfl⟩

lemma buildTransition_of_accepted {ix : InMemoryIndexer} {input : RecordTransitionInput}
    {selected : String} {m : PreparedSpend} {e : IndexedCovenant}
    (hprepared : prepareTransition p chainId ix input selected = .ok m)
    (he : ix.map.get? m.call.covenant = some e) (h : m.Accepted p.sha256 e) :
    buildTransitionReceiptAtPath p chainId ix input selected =
      (.ok m.evidence, { ix with map := ix.map.insert m.call.covenant (m.after e) }) := by
  simp only [buildTransitionReceiptAtPath, hprepared, indexSpend_of_accepted _ he h]

end Completeness

section Receiving
variable {p : Primitives} {chainId : KaspaChainId}

/-- The index of a wallet after a request to record a proof. The checks of the request come first,
against the store as it is then. -/
def receive (p : Primitives) (chainId : KaspaChainId) (ix : InMemoryIndexer)
    (request : WalletStore × RecordProofInput) : InMemoryIndexer :=
  match beginProof request.1 request.2 with
  | .error _ => ix
  | .ok _ => (ingestProofEvidenceAtPath p chainId ix request.2).2

/-- The wallet is unlocked, and the request names a strategy and a lane of the covenant. -/
structure Ready (base : RecordProofInput) (c : Bytes32) (s : WalletStore) : Prop where
  unlocked : ∃ profile, readyProfile s = .ok profile
  lane : ∃ lane, selectLane s.data.lanes base.laneId = .ok lane ∧
    parseBytes32Handle lane.covenantId = some c
  strategy : ∃ strategy, validateStrategy base.strategy = .ok strategy

/-- A spend that the entry of the sender and its receipt allow. -/
structure Offered (p : Primitives) (chainId : KaspaChainId) (e : IndexedCovenant)
    (m : PreparedSpend) : Prop where
  evidenced : ∃ receipt spent newOutpoint daaScore shapeRoot, ReceiptValid receipt ∧
    m = receiptSpend p.sha256 receipt spent newOutpoint daaScore shapeRoot ∧
    verifyLocalStructured p.sha256 receipt receipt.covenantId e.latestState chainId =
      .ok (receiptCommitment p.sha256 receipt)
  accepted : m.Accepted p.sha256 e

lemma proofEvidenceSupplied_handover (base : RecordProofInput) (m : PreparedSpend) :
    proofEvidenceSupplied (handover base m) = true := by
  simp [proofEvidenceSupplied, handover, hex32Label_eq, trimmed_of_plain plain_hexText,
    hexText_ne]

lemma beginProof_handover {s : WalletStore} {base : RecordProofInput} {m : PreparedSpend}
    (h : Ready base m.call.covenant s) :
    ∃ profile strategy, beginProof s (handover base m) = .ok (profile, .proof ⟨profile.walletId,
      handover base m, strategy, some (toHex m.call.newOutpoint.transactionId)⟩) := by
  obtain ⟨profile, hprofile⟩ := h.unlocked
  obtain ⟨lane, hlane, hcovenant⟩ := h.lane
  obtain ⟨strategy, hstrategy⟩ := h.strategy
  have hsupplied : parseBytes32Handle (handover base m).covenantId = some m.call.covenant :=
    parseBytes32Handle_hex32Label _
  have hbinding : validateProofLaneBinding (handover base m) lane.covenantId = .ok () := by
    simp only [validateProofLaneBinding, proofEvidenceSupplied_handover, reduceCtorEq, if_false,
      parseBytes32Required, hcovenant, hsupplied, bind_eq_ok, okOr_eq_ok, Option.some.injEq,
      exists_eq_left', failIf_eq_ok, ne_eq, not_not]
  refine ⟨profile, strategy, ?_⟩
  simp only [beginProof, hprofile, bind_eq_ok, Except.ok.injEq, exists_eq_left', mapError_eq_ok]
  exact ⟨lane, hlane, strategy, hstrategy, _, validateOptionalTxid_toHex _, (), hbinding, rfl⟩

lemma receive_of_ready {ix : InMemoryIndexer} {s : WalletStore} {base : RecordProofInput}
    {m : PreparedSpend} (h : Ready base m.call.covenant s) :
    receive p chainId ix (s, handover base m) =
      (ingestProofEvidenceAtPath p chainId ix (handover base m)).2 := by
  obtain ⟨profile, strategy, hbegin⟩ := beginProof_handover h
  simp only [receive, hbegin]

lemma latestState_of_get? {ix : InMemoryIndexer} {c : Bytes32} {e : IndexedCovenant}
    (h : ix.map.get? c = some e) : InMemoryIndexer.latestState ix c = some e.latestState := by
  rw [InMemoryIndexer.latestState, h, Option.map_some]

lemma offered_of_built {ix : InMemoryIndexer} {input : RecordTransitionInput} {selected : String}
    {m : PreparedSpend} {evidence : TransitionReceiptEvidence}
    (hprepared : prepareTransition p chainId ix input selected = .ok m)
    (hbuilt : (buildTransitionReceiptAtPath p chainId ix input selected).1 = .ok evidence) :
    ∃ e, ix.map.get? m.call.covenant = some e ∧ Offered p chainId e m ∧
      m.evidence = evidence ∧
      (buildTransitionReceiptAtPath p chainId ix input selected).2 =
        { ix with map := ix.map.insert m.call.covenant (m.after e) } := by
  simp only [buildTransitionReceiptAtPath, hprepared] at hbuilt ⊢
  obtain ⟨e, he, haccepted⟩ := indexSpend_ok hbuilt
  obtain ⟨receipt, old, spent, newOutpoint, daaScore, shapeRoot, hvalid, hm, hold, hverified⟩ :=
    prepareTransition_ok hprepared
  rw [indexSpend_of_accepted _ he haccepted] at hbuilt ⊢
  refine ⟨e, he, ⟨⟨receipt, spent, newOutpoint, daaScore, shapeRoot, hvalid, hm, ?_⟩, haccepted⟩,
    Except.ok.inj hbuilt, rfl⟩
  have hcov : receipt.covenantId = m.call.covenant := by rw [hm, receiptSpend]
  rw [hcov, latestState_of_get? he, Option.some.injEq] at hold
  rw [hold]
  exact hverified

section
variable (hhex : p.HexLawful) (base : RecordProofInput) {ix : InMemoryIndexer} {m : PreparedSpend}
  {e : IndexedCovenant} (he : ix.map.get? m.call.covenant = some e)
include hhex he

lemma ingest_offered (h : Offered p chainId e m) :
    ingestProofEvidenceAtPath p chainId ix (handover base m) =
      (.ok (some m.evidence), { ix with map := ix.map.insert m.call.covenant (m.after e) }) := by
  obtain ⟨receipt, spent, newOutpoint, daaScore, shapeRoot, hvalid, hm, hverified⟩ := h.evidenced
  have hcov : m.call.covenant = receipt.covenantId := by rw [hm, receiptSpend]
  have hprepared : prepareProof p chainId ix (handover base m) = .ok m :=
    (prepareProof_handover base hhex ix hvalid hm).mpr
      ⟨rfl, e.latestState, hcov ▸ latestState_of_get? he, hverified⟩
  simp only [ingestProofEvidenceAtPath, proofEvidenceSupplied_handover, hprepared,
    indexSpend_of_accepted _ he h.accepted, reduceCtorEq, if_false]
  rfl

/-- A spend that the receiver's entry does not accept leaves the receiver as it was. -/
lemma ingest_of_not_accepted {e₀ : IndexedCovenant} (hoffered : Offered p chainId e₀ m)
    (h : ¬ m.Accepted p.sha256 e) :
    (ingestProofEvidenceAtPath p chainId ix (handover base m)).2 = ix := by
  simp only [ingestProofEvidenceAtPath, proofEvidenceSupplied_handover, reduceCtorEq, if_false]
  cases hprepared : prepareProof p chainId ix (handover base m) with
  | error error => rfl
  | ok m' =>
    obtain ⟨receipt, spent, newOutpoint, daaScore, shapeRoot, hvalid, hm, -⟩ := hoffered.evidenced
    rw [((prepareProof_handover base hhex ix hvalid hm).mp hprepared).1]
    refine (indexSpend_of_not_accepted _ fun e' he' => ?_).2
    rw [he, Option.some.injEq] at he'
    rwa [← he']

end

/-- Evidence that names another covenant, or none, leaves the entry of a covenant. -/
lemma get?_ingest_of_ne (ix : InMemoryIndexer) {input : RecordProofInput} {c : Bytes32}
    (hne : parseBytes32Handle input.covenantId ≠ some c) :
    (ingestProofEvidenceAtPath p chainId ix input).2.map.get? c = ix.map.get? c := by
  rw [ingestProofEvidenceAtPath]
  split_ifs
  · rfl
  · cases hprepared : prepareProof p chainId ix input with
    | error error => rfl
    | ok m =>
      refine get?_indexSpend_of_ne _ ix fun hc => hne ?_
      simp only [prepareProof, bind_eq_ok, Except.ok.injEq] at hprepared
      obtain ⟨_, -, _, -, covenantId, hcovenant, _, -, _, -, _, -, _, -, _, -, _, -, _, -, _, -, _,
        -, _, -, hm⟩ := hprepared
      rw [required, mapError_eq_ok, parseBytes32Required, okOr_eq_ok] at hcovenant
      rw [hcovenant, ← hc, ← hm]

end Receiving

section Logs
variable {p : Primitives} {chainId : KaspaChainId}

deriving instance DecidableEq for RecordProofInput

/-- The transitions that a wallet builds for one covenant, in order. In between the index may change
in any way that keeps the entry of the covenant. -/
inductive Sends (p : Primitives) (chainId : KaspaChainId) (c : Bytes32) :
    InMemoryIndexer → List PreparedSpend → InMemoryIndexer → Prop
  | done (ix : InMemoryIndexer) : Sends p chainId c ix [] ix
  | other {ix ix' final : InMemoryIndexer} {log : List PreparedSpend}
      (hkeeps : ix'.map.get? c = ix.map.get? c) (rest : Sends p chainId c ix' log final) :
      Sends p chainId c ix log final
  | sent {ix final : InMemoryIndexer} {log : List PreparedSpend} {m : PreparedSpend}
      {input : RecordTransitionInput} {selected : String} {evidence : TransitionReceiptEvidence}
      (hprepared : prepareTransition p chainId ix input selected = .ok m)
      (hcovenant : m.call.covenant = c)
      (hbuilt : (buildTransitionReceiptAtPath p chainId ix input selected).1 = .ok evidence)
      (rest : Sends p chainId c (buildTransitionReceiptAtPath p chainId ix input selected).2 log
        final) :
      Sends p chainId c ix (m :: log) final

/-- The entry after the first `k` spends of the log. -/
def entryAt (e : IndexedCovenant) (log : List PreparedSpend) (k : ℕ) : IndexedCovenant :=
  (log.take k).foldl PreparedSpend.after e

/-- Every spend of the log is offered by the entry that the spends before it leave. -/
def OfferedInTurn (p : Primitives) (chainId : KaspaChainId) (c : Bytes32) (e : IndexedCovenant)
    (log : List PreparedSpend) : Prop :=
  ∀ k m, log[k]? = some m → m.call.covenant = c ∧ Offered p chainId (entryAt e log k) m

lemma entryAt_succ {e : IndexedCovenant} {log : List PreparedSpend} {k : ℕ} {m : PreparedSpend}
    (h : log[k]? = some m) : entryAt e log (k+1) = m.after (entryAt e log k) := by
  obtain ⟨hk, rfl⟩ := List.getElem?_eq_some_iff.mp h
  rw [entryAt, entryAt, List.take_succ_eq_append_getElem hk, List.foldl_append, List.foldl_cons,
    List.foldl_nil]

lemma acceptedReceipts_foldl (e : IndexedCovenant) (log : List PreparedSpend) :
    (log.foldl PreparedSpend.after e).acceptedReceipts =
      e.acceptedReceipts ++ log.map fun m => m.call.receiptId := by
  induction log generalizing e with
  | nil => simp
  | cons m log ih => simp [ih, PreparedSpend.after, entryAfterSpend]

/-- A run of the sender is a log whose spends are offered in turn, and ends at its last entry. -/
lemma Sends.inTurn {c : Bytes32} {ix final : InMemoryIndexer} {log : List PreparedSpend}
    {e : IndexedCovenant} (h : Sends p chainId c ix log final) (he : ix.map.get? c = some e) :
    OfferedInTurn p chainId c e log ∧ final.map.get? c = some (entryAt e log log.length) := by
  induction h generalizing e with
  | done ix => exact ⟨fun k m hk => by simp at hk, he⟩
  | other hkeeps _ ih => exact ih (hkeeps.trans he)
  | sent hprepared hcovenant hbuilt _ ih =>
    obtain ⟨e', he', hoffered, -, hindex⟩ := offered_of_built hprepared hbuilt
    obtain rfl : e' = e := by
      rw [hcovenant, he, Option.some.injEq] at he'
      exact he'.symm
    obtain ⟨hturn, hfinal⟩ := ih (by rw [hindex, hcovenant, OrderedMap.get?_insert_self])
    refine ⟨fun k m' hk => ?_, hfinal⟩
    cases k with
    | zero =>
      obtain rfl := Option.some.inj hk
      exact ⟨hcovenant, hoffered⟩
    | succ k => exact hturn k m' hk

/-- A spend of the log is not accepted where it is not the next one: an earlier one is a replay, and
a later one spends another outpoint. -/
lemma not_accepted_out_of_turn {c : Bytes32} {e : IndexedCovenant} {log : List PreparedSpend}
    (hturn : OfferedInTurn p chainId c e log) (hapart : (log.map fun m => m.call.spent).Nodup)
    {j k : ℕ} {m : PreparedSpend} (hj : log[j]? = some m) (hne : j ≠ k) :
    ¬ m.Accepted p.sha256 (entryAt e log k) := by
  intro haccepted
  rcases Nat.lt_or_gt_of_ne hne with hlt | hgt
  · refine haccepted.fresh ?_
    rw [entryAt, acceptedReceipts_foldl]
    refine List.mem_append_right _ (List.mem_map_of_mem ?_)
    exact List.mem_of_getElem? (i := j) (by rw [List.getElem?_take_of_lt hlt, hj])
  · obtain ⟨hjlen, rfl⟩ := List.getElem?_eq_some_iff.mp hj
    have hnext : log[k]? = some log[k] := List.getElem?_eq_getElem (by omega)
    have hspent := (hturn k _ hnext).2.accepted.spent.symm.trans haccepted.spent
    have hklen : k < log.length := by omega
    have hsame : (log.map fun m => m.call.spent)[j]? = (log.map fun m => m.call.spent)[k]? := by
      rw [List.getElem?_map, List.getElem?_map, hj, hnext, Option.map_some, Option.map_some, hspent]
    exact hne ((List.getElem?_inj (by rwa [List.length_map]) hapart).mp hsame)

/-- Evidence that comes to a wallet: of the log, when it is ready, or of another covenant. -/
def Arrives (base : RecordProofInput) (c : Bytes32) (log : List PreparedSpend)
    (request : WalletStore × RecordProofInput) : Prop :=
  request.2 ∈ log.map (handover base) ∧ Ready base c request.1 ∨
    parseBytes32Handle request.2.covenantId ≠ some c

/-- The log as it is handed over moves a receiver that stands at its entries. -/
lemma tracks_handover (hhex : p.HexLawful) (base : RecordProofInput) {c : Bytes32}
    {e : IndexedCovenant} {log : List PreparedSpend} (hturn : OfferedInTurn p chainId c e log)
    (hapart : (log.map fun m => m.call.spent).Nodup) :
    Tracks (receive p chainId) (fun ix => ix.map.get? c) Prod.snd (log.map (handover base))
      (fun k => some (entryAt e log k)) (Arrives base c log) where
  moves ix k request hix harrives hnext := by
    obtain ⟨s, input⟩ := request
    rw [List.getElem?_map, Option.map_eq_some_iff] at hnext
    obtain ⟨m, hm, rfl⟩ := hnext
    obtain ⟨rfl, hoffered⟩ := hturn k m hm
    rcases harrives with ⟨-, hready⟩ | hforeign
    · rw [receive_of_ready hready, ingest_offered hhex base hix hoffered,
        OrderedMap.get?_insert_self, entryAt_succ hm]
    · exact absurd (parseBytes32Handle_hex32Label _) hforeign
  stays ix k request hix harrives hnext := by
    obtain ⟨s, input⟩ := request
    rcases harrives with ⟨hmem, hready⟩ | hforeign
    · obtain ⟨m, hm, rfl⟩ := List.mem_map.mp hmem
      obtain ⟨j, hj⟩ := List.getElem?_of_mem hm
      obtain ⟨rfl, hoffered⟩ := hturn j m hj
      have hne : j ≠ k := by
        rintro rfl
        exact hnext (by rw [List.getElem?_map, hj, Option.map_some])
      rw [receive_of_ready hready, ingest_of_not_accepted hhex base hix hoffered
        (not_accepted_out_of_turn hturn hapart hj hne)]
      exact hix
    · cases hbegin : beginProof s input with
      | error error => simpa only [receive, hbegin] using hix
      | ok begun => simpa only [receive, hbegin, get?_ingest_of_ne ix hforeign] using hix

end Logs

section Samples

def sampleOpened : IndexedCovenant :=
  .opened (Bytes.fill 32 0x22) .kaspaSimnet (Bytes.fill 32 0x33) (sampleReceiptState 0x44 1)
    ⟨Bytes.fill 32 1, 0⟩ 100

/-- An index with one covenant and a lane on it. -/
def sampleIndex : InMemoryIndexer :=
  { InMemoryIndexer.new with
    map := OrderedMap.empty.insert (Bytes.fill 32 0x22) sampleOpened
    lanes := OrderedMap.empty.insert (Bytes.fill 32 0x0a) ⟨.kaspaSimnet, Bytes.fill 32 0x22,
      Bytes.fill 32 0x44, Bytes.fill 32 0x0a, 1, none, false, Bytes.fill 32 1, 100⟩ }

def sampleTransition : RecordTransitionInput :=
  ⟨hex32Label (Bytes.fill 32 0x0a), .verifierReceipt, .verifierOnly, "lane",
    hex32Label (Bytes.fill 32 2), hex32Label (Bytes.fill 32 0x55), hex32Label (Bytes.fill 32 0x66),
    hex32Label (Bytes.fill 32 0x77), hex32Label (Bytes.fill 32 2), 0, 200⟩

def sampleReceiptOf : RgkReceipt :=
  transitionReceipt Sha256.digest .kaspaSimnet (Bytes.fill 32 0x22) (sampleReceiptState 0x44 1)
    ⟨Bytes.fill 32 1, 0⟩ (Bytes.fill 32 2) (Bytes.fill 32 0x55) (Bytes.fill 32 0x66)
    .verifierReceipt

/-- The spend that is prepared for the transition. -/
def sampleSpend : PreparedSpend :=
  receiptSpend Sha256.digest sampleReceiptOf ⟨Bytes.fill 32 1, 0⟩ ⟨Bytes.fill 32 2, 0⟩ 200
    (Bytes.fill 32 0x77)

lemma valid_sample : ReceiptValid sampleReceiptOf := validateReceipt_eq_ok.mp (by decide +kernel)

lemma get?_sampleIndex : sampleIndex.map.get? (Bytes.fill 32 0x22) = some sampleOpened :=
  OrderedMap.get?_insert_self _ _ _

lemma prepared_sample : prepareTransition samplePrimitives .kaspaSimnet sampleIndex sampleTransition
    (hex32Label (Bytes.fill 32 0x22)) = .ok sampleSpend := by
  have hspent : InMemoryIndexer.openOutpoint sampleIndex (Bytes.fill 32 0x22) =
      some ⟨Bytes.fill 32 1, 0⟩ := by
    rw [InMemoryIndexer.openOutpoint, get?_sampleIndex]
    rfl
  have hold : InMemoryIndexer.latestState sampleIndex (Bytes.fill 32 0x22) =
      some (sampleReceiptState 0x44 1) := latestState_of_get? get?_sampleIndex
  exact prepareTransition_of_valid (s := sampleReceiptState 0x44 1) (o := ⟨Bytes.fill 32 1, 0⟩)
    (OrderedMap.get?_insert_self _ _ _) rfl hold hspent rfl valid_sample (by decide +kernel)

lemma fill_ne_zero : Bytes.fill 32 0x77 ≠ (Bytes.zero : Bytes32) := by decide

lemma accepted_sample : sampleSpend.Accepted samplePrimitives.sha256 sampleOpened where
  complete proof h := by
    obtain rfl := Option.some.inj h
    exact ⟨valid_sample.continuation, fill_ne_zero, valid_sample.transition⟩
  fresh := List.not_mem_nil
  chain := rfl
  covenant := rfl
  asset := rfl
  spent := rfl
  advanced := valid_sample.advances
  migration := nofun

lemma built_sample : buildTransitionReceiptAtPath samplePrimitives .kaspaSimnet sampleIndex
    sampleTransition (hex32Label (Bytes.fill 32 0x22)) =
      (.ok sampleSpend.evidence, { sampleIndex with
        map := sampleIndex.map.insert (Bytes.fill 32 0x22) (sampleSpend.after sampleOpened) }) :=
  buildTransition_of_accepted prepared_sample get?_sampleIndex accepted_sample

def sampleBase : RecordProofInput :=
  ⟨"lane", .verifierReceipt, .verifierOnly, "", "", 0, "", "", "", 0, "", 0, "", 0⟩

/-- An unlocked wallet with one lane, on the covenant. -/
def sampleStore : WalletStore where
  daemon := ⟨⟨some ⟨"wallet-b", "rgk", "rgk:kaspa-simnet", "kaspa-simnet", "kaspa-simnet", "", none,
    none, .unlocked, none, .ready⟩, none, none, none⟩, .clear⟩
  data := { WalletData.fresh with lanes := [{
    laneId := "lane", covenantId := hex32Label (Bytes.fill 32 0x22), lineageId := "", label := ""
    ticker := "RGK", balance := "0", privacy := .privateLane, proofPolicy := .verifierOnly
    evidenceStatus := .indexed, resolverState := .unknown, stateDigest := ""
    latestReceiptId := none, updatedAt := "" }] }

lemma sampleStore_ready : Ready sampleBase (Bytes.fill 32 0x22) sampleStore where
  unlocked := ⟨_, rfl⟩
  lane := ⟨_, rfl, parseBytes32Handle_hex32Label _⟩
  strategy := ⟨"verifier-receipt-baseline", by decide +kernel⟩

lemma sends_sample : Sends samplePrimitives .kaspaSimnet (Bytes.fill 32 0x22) sampleIndex
    [sampleSpend] { sampleIndex with
      map := sampleIndex.map.insert (Bytes.fill 32 0x22) (sampleSpend.after sampleOpened) } := by
  refine .sent prepared_sample rfl (congrArg Prod.fst built_sample) ?_
  rw [built_sample]
  exact .done _

end Samples

/-- A transition that one wallet builds and indexes is taken by every unlocked wallet with a lane on
the covenant and the same entry for it, from what is handed over: the request passes its checks,
ingestion returns the same evidence, the entry becomes the sender's, and nothing else of the index
changes. -/
theorem built_transition_is_ingested (p : Primitives) (hhex : p.HexLawful) (chainId : KaspaChainId)
    (sender receiver : InMemoryIndexer) (store : WalletStore) (input : RecordTransitionInput)
    (selected : String) (base : RecordProofInput) (m : PreparedSpend)
    (evidence : TransitionReceiptEvidence)
    (hprepared : prepareTransition p chainId sender input selected = .ok m)
    (hbuilt : (buildTransitionReceiptAtPath p chainId sender input selected).1 = .ok evidence)
    (hready : Ready base m.call.covenant store)
    (hsame : receiver.map.get? m.call.covenant = sender.map.get? m.call.covenant) :
    (∃ profile strategy, beginProof store (handover base m) = .ok (profile, .proof
      ⟨profile.walletId, handover base m, strategy,
        some (toHex m.call.newOutpoint.transactionId)⟩)) ∧
    ∃ e, (buildTransitionReceiptAtPath p chainId sender input selected).2.map.get? m.call.covenant =
        some e ∧
      ingestProofEvidenceAtPath p chainId receiver (handover base m) =
        (.ok (some evidence), { receiver with map := receiver.map.insert m.call.covenant e }) := by
  obtain ⟨e, he, hoffered, rfl, hindex⟩ := offered_of_built hprepared hbuilt
  refine ⟨beginProof_handover hready, m.after e, ?_, ingest_offered hhex base (hsame.trans he) hoffered⟩
  rw [hindex, OrderedMap.get?_insert_self]

theorem built_transition_is_ingested_sample :
    (∃ profile strategy, beginProof sampleStore (handover sampleBase sampleSpend) =
      .ok (profile, .proof ⟨profile.walletId, handover sampleBase sampleSpend, strategy,
        some (toHex (Bytes.fill 32 2))⟩)) ∧
    ∃ e, (buildTransitionReceiptAtPath samplePrimitives .kaspaSimnet sampleIndex sampleTransition
        (hex32Label (Bytes.fill 32 0x22))).2.map.get? (Bytes.fill 32 0x22) = some e ∧
      ingestProofEvidenceAtPath samplePrimitives .kaspaSimnet sampleIndex
          (handover sampleBase sampleSpend) =
        (.ok (some sampleSpend.evidence), { sampleIndex with
          map := sampleIndex.map.insert (Bytes.fill 32 0x22) e }) :=
  built_transition_is_ingested samplePrimitives samplePrimitives_hex .kaspaSimnet sampleIndex
    sampleIndex sampleStore sampleTransition (hex32Label (Bytes.fill 32 0x22)) sampleBase sampleSpend
    sampleSpend.evidence prepared_sample (by rw [built_sample]) sampleStore_ready rfl

/-- Evidence of a wallet's transitions may come to another wallet late, doubled, out of order or not
at all, among evidence for other covenants. Where the transitions spend outpoints of their own, the
other wallet's entry is always the one that the sender had after as many of the transitions as have
come in turn; it is the sender's own once they all came through in order. -/
theorem wallets_agree_on_what_came_through (p : Primitives) (hhex : p.HexLawful)
    (chainId : KaspaChainId) (c : Bytes32) (sender sender' receiver : InMemoryIndexer)
    (log : List PreparedSpend) (e : IndexedCovenant) (base : RecordProofInput)
    (delivered : List (WalletStore × RecordProofInput))
    (hsent : Sends p chainId c sender log sender') (he : sender.map.get? c = some e)
    (hsame : receiver.map.get? c = some e) (hapart : (log.map fun m => m.call.spent).Nodup)
    (harrives : ∀ request ∈ delivered, Arrives base c log request) :
    (delivered.foldl (receive p chainId) receiver).map.get? c =
        some (entryAt e log (receivedFrom (log.map (handover base)) 0 (delivered.map Prod.snd))) ∧
      ((log.map (handover base)).Sublist (delivered.map Prod.snd) →
        (delivered.foldl (receive p chainId) receiver).map.get? c = sender'.map.get? c) := by
  obtain ⟨hturn, hfinal⟩ := hsent.inTurn he
  have hentry := (tracks_handover hhex base hturn hapart).delivered (k := 0) hsame harrives
  refine ⟨hentry, fun hall => ?_⟩
  have hcount := receivedFrom_of_sublist (k := 0) (Nat.zero_le _) hall
  rw [hcount, List.length_map] at hentry
  exact hentry.trans hfinal.symm

/-- The transition comes twice, behind evidence for no covenant. -/
theorem wallets_agree_on_what_came_through_sample :
    ([(sampleStore, sampleBase), (sampleStore, handover sampleBase sampleSpend),
        (sampleStore, handover sampleBase sampleSpend)].foldl (receive samplePrimitives .kaspaSimnet)
        sampleIndex).map.get? (Bytes.fill 32 0x22) =
      some (sampleSpend.after sampleOpened) := by
  refine ((wallets_agree_on_what_came_through samplePrimitives samplePrimitives_hex .kaspaSimnet
    (Bytes.fill 32 0x22) sampleIndex _ sampleIndex [sampleSpend] sampleOpened sampleBase
    [(sampleStore, sampleBase), (sampleStore, handover sampleBase sampleSpend),
      (sampleStore, handover sampleBase sampleSpend)] sends_sample
    get?_sampleIndex get?_sampleIndex (List.nodup_singleton _) ?_).2 ?_).trans
    (OrderedMap.get?_insert_self _ _ _)
  · intro request hrequest
    simp only [List.mem_cons, List.not_mem_nil, or_false] at hrequest
    obtain rfl | rfl | rfl := hrequest
    · exact .inr (by decide)
    · exact .inl ⟨List.mem_cons_self, sampleStore_ready⟩
    · exact .inl ⟨List.mem_cons_self, sampleStore_ready⟩
  · exact .cons _ (.cons_cons _ (.cons _ .slnil))

end RgkProtocol.WalletEvidence
