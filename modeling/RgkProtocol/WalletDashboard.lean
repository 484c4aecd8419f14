import RgkProtocol.CanonicalEncoding
import RgkProtocol.WalletSession

/-!
# What the daemon shows of a wallet

Besides the profile the daemon stores what a dashboard shows: the balance of the funding address,
the lanes, the proofs and the status of the scanner. Four requests fill it in: a sync, a new lane, a
proof and a transition. Each checks in a first critical section that the wallet is unlocked, does
its slow work without the lock, and enters what it has found in a last critical section.
-/
namespace RgkProtocol.WalletDashboard
open ByteStrings Hashing CoreTypes CanonicalEncoding Checked IndexerState Resolver ScanService
open WalletScan hiding AssetLane
open WalletIdentity WalletSession

section Records

inductive PrivacyMode where
  | privateLane
  | publicLineage
  deriving DecidableEq

inductive LaneEvidenceStatus where
  | metadataOnly
  | indexed
  deriving DecidableEq

inductive ProofVerifierStatus where
  | verified
  | pending
  | unsupported
  | rejected
  deriving DecidableEq

inductive ScanMode where
  | idle
  | scanning
  | paused
  | unavailable
  deriving DecidableEq

inductive ServiceMode where
  | unavailable
  | connected
  deriving DecidableEq

/-- A lane with all that is shown of it. -/
structure AssetLane extends WalletScan.AssetLane where
  lineageId : String
  label : String
  ticker : String
  balance : String
  privacy : PrivacyMode
  proofPolicy : ReceiptPolicy
  evidenceStatus : LaneEvidenceStatus
  resolverState : ResolverStateName
  stateDigest : String
  latestReceiptId : Option String
  updatedAt : String
  deriving DecidableEq

structure ProofSummary where
  receiptId : String
  proofMode : ProofMode
  receiptPolicy : ReceiptPolicy
  strategy : String
  verifierStatus : ProofVerifierStatus
  txid : Option String
  confirmations : UInt64
  receiptBytes : Option String
  transitionDigest : Option String
  continuationCommitment : Option String
  continuationShapeRoot : Option String
  newStateDigest : Option String
  updatedAt : String
  deriving DecidableEq

structure ScanStatus where
  cursorName : String
  scanMode : ScanMode
  lastDaaScore : Option UInt64
  indexedSpends : UInt64
  observedSpends : UInt64
  reorgRiskCount : UInt64
  deriving DecidableEq

/-- The part of the stored state that a dashboard shows. -/
structure WalletData where
  kasBalance : String
  lanes : List AssetLane
  proofs : List ProofSummary
  scan : ScanStatus
  scanNotice : Option String
  deriving DecidableEq

structure WalletStore where
  daemon : Daemon
  data : WalletData
  deriving DecidableEq

def WalletStore.profile (s : WalletStore) : Option WalletProfile := s.daemon.store.profile

/-- The store with its profile in another lifecycle. -/
def WalletStore.withLifecycle (s : WalletStore) (lifecycle : WalletLifecycle) : WalletStore :=
  { s with daemon := { s.daemon with store := { s.daemon.store with
      profile := s.daemon.store.profile.map (fun profile => { profile with lifecycle }) } } }

@[simp] lemma WalletStore.profile_withLifecycle (s : WalletStore) (lifecycle : WalletLifecycle) :
    (s.withLifecycle lifecycle).profile =
      s.profile.map (fun profile => { profile with lifecycle }) := rfl

def formatKasBalance (sompi : UInt64) : String :=
  toString (sompi.toNat/100000000) ++ "." ++
    String.ofList ((Nat.toDigits 10 (sompi.toNat % 100000000)).leftpad 8 '0') ++ " KAS"

example : formatKasBalance 123456789 = "1.23456789 KAS" := by decide +kernel

/-- What a daemon without a state file shows. -/
def WalletData.empty : WalletData := ⟨"", [], [], ⟨"avato-rgk", .unavailable, none, 0, 0, 0⟩, none⟩

/-- What is shown of a wallet that was just created. -/
def WalletData.fresh : WalletData :=
  ⟨formatKasBalance 0, [], [], ⟨"avato-rgk", .idle, none, 0, 0, 0⟩, none⟩

structure DashboardSnapshot where
  profile : WalletProfile
  kasBalance : String
  lanes : List AssetLane
  proofs : List ProofSummary
  scan : ScanStatus
  serviceMode : ServiceMode
  serviceNotice : String
  deriving DecidableEq

inductive Answer where
  | wallet (reply : Reply)
  | dashboard (snapshot : DashboardSnapshot)
  | lane (lane : AssetLane)
  | proof (proof : ProofSummary)
  | failed (error : ApiError)
  deriving DecidableEq

def refuse (error : WalletdError) : Answer := .failed (apiError error)

end Records

section Validation

def trimmedOrDefault (value fallback : String) : String :=
  if trimmed value = "" then fallback else trimmed value

def trimmedOptional (value : String) : Option String :=
  if trimmed value = "" then none else some (trimmed value)

def validateLaneLabel (value : String) : Except WalletdError String := do
  let label := trimmedOrDefault value "New RGK lane"
  failIf (64 < label.utf8ByteSize) (.badRequest "label must be 64 characters or fewer")
  .ok label

def validateTicker (value : String) : Except WalletdError String := do
  let ticker := trimmedOrDefault value "RGK"
  failIf (ticker.utf8ByteSize < 2 ∨ 12 < ticker.utf8ByteSize ∨
      ticker.toList.all (fun c => c.isUpper || c.isDigit) = false)
    (.badRequest "ticker must be 2-12 uppercase letters or digits")
  .ok ticker

def areDigits (l : List Char) : Bool := !l.isEmpty && l.all Char.isDigit

def validDecimal (value : String) (maxFractionalDigits : ℕ) : Bool :=
  match value.toList.splitOn '.' with
  | [whole] => areDigits whole
  | [whole, fractional] =>
      areDigits whole && areDigits fractional && fractional.length ≤ maxFractionalDigits
  | _ => false

def validateBalance (value : String) : Except WalletdError String := do
  let balance := trimmedOrDefault value "0.0000"
  failIf (40 < balance.utf8ByteSize ∨ validDecimal balance 8 = false)
    (.badRequest "balance must be a non-negative decimal with up to 8 fractional digits")
  .ok balance

def validateStrategy (value : String) : Except WalletdError String := do
  let strategy := trimmedOrDefault value "verifier-receipt-baseline"
  failIf (80 < strategy.utf8ByteSize ∨ strategy.toList.all
      (fun c => c.isAlphanum || c = '-' || c = '_' || c = '.' || c = ':') = false)
    (.badRequest ("strategy must be 80 characters or fewer and contain only letters, numbers, " ++
      "dash, underscore, dot, or colon"))
  .ok strategy

def isHexDigit (c : Char) : Bool :=
  c.isDigit || ('a' ≤ c && c ≤ 'f') || ('A' ≤ c && c ≤ 'F')

def validateOptionalTxid (value : String) : Except WalletdError (Option String) :=
  match trimmedOptional value with
  | none => .ok none
  | some txid => do
      failIf (txid.utf8ByteSize ≠ 64 ∨ txid.toList.all isHexDigit = false)
        (.badRequest "txid must be 64 hexadecimal characters")
      .ok (some (String.ofList (txid.toList.map Char.toLower)))

def parseBytes32Required (value field : String) : Except String Bytes32 :=
  okOr (parseBytes32Handle value)
    (field ++ " must be a 32-byte lowercase hexadecimal value, with optional 0x prefix")

end Validation

section Evidence

structure CreateLaneInput where
  label : String
  ticker : String
  balance : String
  privacy : PrivacyMode
  proofPolicy : ReceiptPolicy
  covenantId : String
  lineageId : String
  assetId : String
  laneId : String
  scanTag : String
  stateDigest : String
  openTxid : String
  openIndex : UInt32
  epoch : UInt64
  daaScore : UInt64

structure LaneEvidence where
  covenantId : Bytes32
  lineageId : Bytes32
  assetId : Bytes32
  laneId : Bytes32
  stateDigest : Bytes32
  state : RgkStateCommitment
  openOutpoint : KaspaOutpoint
  lane : IndexedLane
  deriving DecidableEq

def laneEvidenceSupplied (input : CreateLaneInput) : Bool :=
  [input.covenantId, input.lineageId, input.assetId, input.laneId, input.scanTag, input.stateDigest,
    input.openTxid].any (fun value => trimmed value ≠ "")

def requireLaneEvidenceBundle (input : CreateLaneInput) : Except String Unit :=
  forEnum (fun _ field => failIf (trimmed field.2 = "")
      (field.1 ++ " is required when lane evidence is supplied")) 0
    [("covenantId", input.covenantId), ("lineageId", input.lineageId), ("assetId", input.assetId),
      ("laneId", input.laneId), ("stateDigest", input.stateDigest), ("openTxid", input.openTxid)]

def validateLaneEvidenceInvariants (laneId : Bytes32) (scanTag : Option Bytes32)
    (stateDigest : Bytes32) : Except String Unit := do
  failIf (laneId = Bytes.zero) "laneId must not be zero when lane evidence is supplied"
  failIf (stateDigest = Bytes.zero) "stateDigest must not be zero when lane evidence is supplied"
  failIf (scanTag = some Bytes.zero) "scanTag must not be zero when lane evidence is supplied"

def parseLaneEvidence (chainId : KaspaChainId) (input : CreateLaneInput) :
    Except String (Option LaneEvidence) :=
  if laneEvidenceSupplied input = false then .ok none
  else do
    requireLaneEvidenceBundle input
    let covenantId ← parseBytes32Required input.covenantId "covenantId"
    let lineageId ← parseBytes32Required input.lineageId "lineageId"
    let assetId ← parseBytes32Required input.assetId "assetId"
    let laneId ← parseBytes32Required input.laneId "laneId"
    let scanTag ← match trimmedOptional input.scanTag with
      | none => .ok none
      | some scanTag => (parseBytes32Required scanTag "scanTag").map some
    let stateDigest ← parseBytes32Required input.stateDigest "stateDigest"
    validateLaneEvidenceInvariants laneId scanTag stateDigest
    let openTxid ← parseBytes32Required input.openTxid "openTxid"
    let state : RgkStateCommitment :=
      ⟨encodingVersion, chainId, covenantId, assetId, stateDigest, input.proofPolicy⟩
    (RgkStateCommitment.validateStructure state).mapError
      (fun error => "indexed state commitment is invalid: " ++ error.display)
    let lane : IndexedLane := ⟨chainId, covenantId, assetId, laneId, input.epoch, scanTag,
      input.privacy = .publicLineage, stateDigest, input.daaScore⟩
    .ok (some ⟨covenantId, lineageId, assetId, laneId, stateDigest, state,
      ⟨openTxid, input.openIndex⟩, lane⟩)

structure RecordProofInput where
  laneId : String
  proofMode : ProofMode
  receiptPolicy : ReceiptPolicy
  strategy : String
  txid : String
  confirmations : UInt64
  receiptBytes : String
  covenantId : String
  spentTxid : String
  spentIndex : UInt32
  newTxid : String
  newIndex : UInt32
  continuationShapeRoot : String
  daaScore : UInt64

def proofEvidenceSupplied (input : RecordProofInput) : Bool :=
  [input.receiptBytes, input.covenantId, input.spentTxid, input.newTxid,
    input.continuationShapeRoot].any (fun value => trimmed value ≠ "")

def validateProofLaneBinding (input : RecordProofInput) (selectedLaneCovenantId : String) :
    Except String Unit :=
  if proofEvidenceSupplied input = false then .ok ()
  else do
    let selected ← parseBytes32Required selectedLaneCovenantId "selected lane covenantId"
    let supplied ← parseBytes32Required input.covenantId "covenantId"
    failIf (selected ≠ supplied)
      "covenantId must match the selected lane before proof evidence can be indexed"

structure RecordTransitionInput where
  laneId : String
  proofMode : ProofMode
  receiptPolicy : ReceiptPolicy
  strategy : String
  newStateDigest : String
  transitionDigest : String
  continuationCommitment : String
  continuationShapeRoot : String
  newTxid : String
  newIndex : UInt32
  daaScore : UInt64

/-- What a receipt that was verified against the index says. -/
structure VerifiedProofEvidence where
  receiptId : Bytes32
  proofMode : ProofMode
  receiptPolicy : ReceiptPolicy
  newOutpoint : KaspaOutpoint
  newStateDigest : Bytes32
  receiptBytes : String
  transitionDigest : Bytes32
  continuationCommitment : Bytes32
  continuationShapeRoot : Bytes32
  deriving DecidableEq

abbrev TransitionReceiptEvidence := VerifiedProofEvidence

end Evidence

section Reading

def readyProfile (s : WalletStore) : Except WalletdError WalletProfile := do
  let profile ← okOr s.profile .notFound
  failIf (profile.lifecycle = .locked) .locked
  .ok profile

lemma readyProfile_eq_ok {s : WalletStore} {profile : WalletProfile} :
    readyProfile s = .ok profile ↔ s.profile = some profile ∧ profile.lifecycle ≠ .locked := by
  simp only [readyProfile, bind_eq_ok, okOr_eq_ok, failIf_eq_ok, exists_const, Except.ok.injEq]
  constructor
  · rintro ⟨profile', hstored, hready, rfl⟩
    exact ⟨hstored, hready⟩
  · rintro ⟨hstored, hready⟩
    exact ⟨profile, hstored, hready, rfl⟩

/-- A request for a lane, after its checks. -/
structure LaneJob where
  walletId : String
  laneCount : ℕ
  input : CreateLaneInput
  label : String
  ticker : String
  balance : String
  evidence : Option LaneEvidence

/-- A request for a proof, after its checks. -/
structure ProofJob where
  walletId : String
  input : RecordProofInput
  strategy : String
  txid : Option String

structure TransitionJob where
  input : RecordTransitionInput
  selectedLaneCovenantId : String
  strategy : String

/-- What a request has read and prepared when it starts its slow work. A lane with evidence is
compared with the stored lanes once more before it is indexed. -/
inductive Job where
  | sync (kaspaEndpoint : String) (lanes : List AssetLane) (address : Option String)
  | lane (job : LaneJob)
  | indexing (job : LaneJob)
  | proof (job : ProofJob)
  | transition (job : TransitionJob)

def beginSync (s : WalletStore) : Except WalletdError (WalletProfile × Job) := do
  let profile ← readyProfile s
  failIf (profile.lifecycle = .locked) .locked
  .ok (profile, .sync profile.kaspaEndpoint s.data.lanes profile.address)

def beginLane (config : DaemonConfig) (s : WalletStore) (input : CreateLaneInput) :
    Except WalletdError (WalletProfile × Job) := do
  let profile ← readyProfile s
  let label ← validateLaneLabel input.label
  let ticker ← validateTicker input.ticker
  let balance ← validateBalance input.balance
  let evidence ← (parseLaneEvidence config.network.chainId input).mapError .badRequest
  let job : LaneJob :=
    ⟨profile.walletId, s.data.lanes.length, input, label, ticker, balance, evidence⟩
  .ok (profile, if evidence.isSome then .lane job else .indexing job)

def selectLane (lanes : List AssetLane) (laneId : String) : Except WalletdError AssetLane :=
  okOr (lanes.find? (fun lane => lane.laneId = laneId))
    (.badRequest ("laneId " ++ laneId ++ " was not found"))

def beginProof (s : WalletStore) (input : RecordProofInput) :
    Except WalletdError (WalletProfile × Job) := do
  let profile ← readyProfile s
  let lane ← selectLane s.data.lanes input.laneId
  let strategy ← validateStrategy input.strategy
  let txid ← validateOptionalTxid input.txid
  (validateProofLaneBinding input lane.covenantId).mapError .badRequest
  .ok (profile, .proof ⟨profile.walletId, input, strategy, txid⟩)

def beginTransition (s : WalletStore) (input : RecordTransitionInput) :
    Except WalletdError (WalletProfile × Job) := do
  let profile ← readyProfile s
  let lane ← selectLane s.data.lanes input.laneId
  let strategy ← validateStrategy input.strategy
  .ok (profile, .transition ⟨input, lane.covenantId, strategy⟩)

def validateLaneProfileUniqueness (lanes : List AssetLane) (evidence : LaneEvidence) :
    Except WalletdError Unit :=
  failIf (∃ existing ∈ lanes, parseBytes32Handle existing.laneId = some evidence.laneId ∨
      parseBytes32Handle existing.covenantId = some evidence.covenantId)
    (.badRequest "lane or covenant is already present in the wallet profile")

end Reading

section Work

/-- What the node, the index, the clock and the disk do for one request. -/
structure Work where
  /-- The tick, the number of indexed spends and the resolver after it, from a node. -/
  scan : String → Except String (ScanTick × ℕ × RgkResolver)
  balanceByAddress : String → Except String UInt64
  indexLane : LaneEvidence → Except String Unit
  ingestProof : RecordProofInput → Except String VerifiedProofEvidence
  buildTransition : RecordTransitionInput → String → Except String TransitionReceiptEvidence
  now : String
  write : Except String Unit

structure WalletdScanResult where
  tick : ScanTick
  indexedSpends : ℕ
  laneUpdates : List LaneResolutionUpdate
  kasBalanceSompi : Option UInt64

variable (p : Primitives) (work : Work)

def refreshBalance (address : Option String) : Except String (Option UInt64) :=
  match address.bind trimmedOptional with
  | none => .ok none
  | some address => ((work.balanceByAddress address).map some).mapError
      (fun error => "failed to refresh funding-address balance: " ++ error)

def runScanTick (kaspaEndpoint : String) (lanes : List AssetLane) (address : Option String) :
    Except String WalletdScanResult := do
  let (tick, indexedSpends, resolver) ← work.scan kaspaEndpoint
  let laneUpdates := lanes.map (fun lane => resolveIndexedLane p.sha256 resolver lane.toAssetLane)
  let kasBalanceSompi ← refreshBalance work address
  .ok ⟨tick, indexedSpends, laneUpdates, kasBalanceSompi⟩

def indexLaneEvidence (chainId : KaspaChainId) (evidence : Option LaneEvidence) :
    Except String (Option LaneEvidence) :=
  match evidence with
  | none => .ok none
  | some evidence => do
      failIf (evidence.lane.chainId ≠ chainId)
        "lane evidence chain id does not match walletd network"
      work.indexLane evidence
      .ok (some evidence)

def ingestProofEvidence (input : RecordProofInput) : Except String (Option VerifiedProofEvidence) :=
  if proofEvidenceSupplied input then (work.ingestProof input).map some else .ok none

end Work

section Scans

/-- The first lane with the handle is replaced. -/
def updateLane (laneId : String) (f : AssetLane → AssetLane) : List AssetLane → List AssetLane
  | [] => []
  | lane :: lanes =>
      if lane.laneId = laneId then f lane :: lanes else lane :: updateLane laneId f lanes

def resolvedLane (now : String) (update : LaneResolutionUpdate) (lane : AssetLane) : AssetLane :=
  let next : AssetLane := { lane with
    resolverState := update.resolverState
    covenantId := update.covenantId.getD lane.covenantId
    stateDigest := update.stateDigest.getD lane.stateDigest
    latestReceiptId := update.latestReceiptId.or lane.latestReceiptId
    evidenceStatus :=
      if update.covenantId.isSome ∨ update.stateDigest.isSome ∨ update.resolverState ≠ .unknown then
        .indexed else lane.evidenceStatus }
  if next = lane then lane else { next with updatedAt := now }

def applyLaneResolutionUpdates (now : String) (lanes : List AssetLane)
    (updates : List LaneResolutionUpdate) : List AssetLane :=
  updates.foldl (fun lanes update => updateLane update.laneId (resolvedLane now update) lanes) lanes

def scanNotice (tick : ScanTick) : String :=
  if tick.initialisedCursor then
    "RGK scanner cursor initialised at DAA " ++ toString tick.endCursor.daaScore.toNat ++ "."
  else
    "RGK scanner tick completed: " ++ toString tick.addedChainBlocks ++ " added chain block(s), " ++
      toString tick.observedSpends ++ " observed spend(s), cursor DAA " ++
      toString tick.endCursor.daaScore.toNat ++ "."

def applySuccessfulScan (now : String) (s : WalletStore) (scan : WalletdScanResult) : WalletStore :=
  let indexedSpends := UInt64.ofNat (min scan.indexedSpends (2^64-1))
  { s.withLifecycle .ready with data := { s.data with
      scan := { s.data.scan with
        scanMode := .idle
        lastDaaScore := some scan.tick.endCursor.daaScore
        indexedSpends := indexedSpends
        observedSpends := indexedSpends }
      kasBalance := (scan.kasBalanceSompi.map formatKasBalance).getD s.data.kasBalance
      lanes := applyLaneResolutionUpdates now s.data.lanes scan.laneUpdates
      scanNotice := some (scanNotice scan.tick) } }

def applyFailedScan (s : WalletStore) (message : String) : WalletStore :=
  { s.withLifecycle .serviceRequired with data := { s.data with
      scan := { s.data.scan with scanMode := .unavailable }
      scanNotice := some ("RGK scanner unavailable: " ++ message) } }

def dashboardSnapshot (s : WalletStore) : Except WalletdError DashboardSnapshot := do
  let profile ← readyProfile s
  failIf (profile.lifecycle = .locked) .locked
  .ok { profile, kasBalance := s.data.kasBalance, lanes := s.data.lanes, proofs := s.data.proofs,
        scan := s.data.scan
        serviceMode := if s.data.scan.scanMode = .unavailable then .unavailable else .connected
        serviceNotice := s.data.scanNotice.getD "Connected to the local RGK wallet daemon." }

end Scans

section Finishing
variable (p : Primitives)

/-- As in the wallet requests, the store stays changed where the file cannot be written. -/
def answerSaved (work : Work) (answer : Answer) : Answer :=
  match work.write with
  | .ok () => answer
  | .error error => refuse (.persist error)

def answerDashboard (s : WalletStore) : Answer :=
  match dashboardSnapshot s with
  | .ok snapshot => .dashboard snapshot
  | .error error => refuse error

/-- The profile is only looked at for its lock: it may be another than the one that was read. -/
def finishSync (s : WalletStore) (kaspaEndpoint : String) (lanes : List AssetLane)
    (address : Option String) (work : Work) : Answer × WalletStore :=
  if s.profile.map WalletProfile.lifecycle = some .locked then (refuse .locked, s)
  else
    let s' := match runScanTick p work kaspaEndpoint lanes address with
      | .ok scan => applySuccessfulScan work.now s scan
      | .error message => applyFailedScan s message
    (answerSaved work (answerDashboard s'), s')

def privacySlug : PrivacyMode → String
  | .privateLane => "private"
  | .publicLineage => "public"

def LaneJob.seed (job : LaneJob) : String :=
  job.walletId ++ ":" ++ job.label ++ ":" ++ job.ticker ++ ":" ++ toString job.laneCount

/-- A handle of a lane: from its evidence, or made up from what the request says. -/
def laneHandle (job : LaneJob) (indexed : Option LaneEvidence) (domain : String)
    (field : LaneEvidence → Bytes32) : String :=
  match indexed with
  | some evidence => hex32Label (field evidence)
  | none => hexDigest p domain job.seed 32

def buildLane (job : LaneJob) (indexed : Option LaneEvidence) (now : String) : AssetLane where
  lineageId := "rgk:lineage:" ++ laneHandle p job indexed "lineage" LaneEvidence.lineageId
  laneId := "rgk:lane:" ++ privacySlug job.input.privacy ++ ":" ++
    laneHandle p job indexed "lane" LaneEvidence.laneId
  label := job.label
  ticker := job.ticker
  balance := job.balance
  privacy := job.input.privacy
  proofPolicy := job.input.proofPolicy
  evidenceStatus := if indexed.isSome then .indexed else .metadataOnly
  resolverState := .unknown
  covenantId := laneHandle p job indexed "covenant" LaneEvidence.covenantId
  stateDigest := laneHandle p job indexed "state" LaneEvidence.stateDigest
  latestReceiptId := none
  updatedAt := now

/-- The lane or its covenant is listed already. -/
def Listed (lanes : List AssetLane) (lane : AssetLane) : Prop :=
  ∃ existing ∈ lanes, existing.laneId = lane.laneId ∨ existing.covenantId = lane.covenantId

instance (lanes : List AssetLane) (lane : AssetLane) : Decidable (Listed lanes lane) := by
  unfold Listed
  infer_instance

def finishLane (config : DaemonConfig) (s : WalletStore) (job : LaneJob) (work : Work) :
    Answer × WalletStore :=
  match indexLaneEvidence work config.network.chainId job.evidence with
  | .error message => (refuse (.badRequest message), s)
  | .ok indexed =>
      let lane := buildLane p job indexed work.now
      if Listed s.data.lanes lane then
        (refuse (.badRequest "lane or covenant is already present in the wallet profile"), s)
      else
        (answerSaved work (.lane lane),
          { s with data := { s.data with lanes := s.data.lanes ++ [lane] } })

/-- A proof is listed, and its lane points to it. -/
def recordProofOn (s : WalletStore) (laneId : String) (proof : ProofSummary)
    (stateDigest : Option String) (work : Work) : Answer × WalletStore :=
  match selectLane s.data.lanes laneId with
  | .error error => (refuse error, s)
  | .ok _ =>
      (answerSaved work (.proof proof),
        { s with data := { s.data with
            lanes := updateLane laneId (fun lane => { lane with
              latestReceiptId := some proof.receiptId
              stateDigest := stateDigest.getD lane.stateDigest
              updatedAt := proof.updatedAt }) s.data.lanes
            proofs := s.data.proofs ++ [proof] } })

def proofSummary (s : WalletStore) (job : ProofJob) (verified : Option VerifiedProofEvidence)
    (now : String) : ProofSummary where
  receiptId := "rgk:receipt:" ++ match verified with
    | some evidence => hex32Label evidence.receiptId
    | none => hexDigest p "receipt"
        (job.walletId ++ ":" ++ job.strategy ++ ":" ++ toString s.data.proofs.length) 32
  proofMode := (verified.map VerifiedProofEvidence.proofMode).getD job.input.proofMode
  receiptPolicy := (verified.map VerifiedProofEvidence.receiptPolicy).getD job.input.receiptPolicy
  strategy := job.strategy
  verifierStatus := if verified.isSome then .verified else .pending
  txid := (verified.map (fun evidence => toHex evidence.newOutpoint.transactionId)).or job.txid
  confirmations := job.input.confirmations
  receiptBytes := verified.map VerifiedProofEvidence.receiptBytes
  transitionDigest := verified.map (fun evidence => hex32Label evidence.transitionDigest)
  continuationCommitment := verified.map (fun evidence => hex32Label evidence.continuationCommitment)
  continuationShapeRoot := verified.map (fun evidence => hex32Label evidence.continuationShapeRoot)
  newStateDigest := verified.map (fun evidence => hex32Label evidence.newStateDigest)
  updatedAt := now

def finishProof (s : WalletStore) (job : ProofJob) (work : Work) : Answer × WalletStore :=
  match ingestProofEvidence work job.input with
  | .error message => (refuse (.badRequest message), s)
  | .ok verified => recordProofOn s job.input.laneId (proofSummary p s job verified work.now)
      (verified.map (fun evidence => hex32Label evidence.newStateDigest)) work

def transitionSummary (strategy : String) (evidence : TransitionReceiptEvidence) (now : String) :
    ProofSummary where
  receiptId := "rgk:receipt:" ++ hex32Label evidence.receiptId
  proofMode := evidence.proofMode
  receiptPolicy := evidence.receiptPolicy
  strategy := strategy
  verifierStatus := .verified
  txid := some (toHex evidence.newOutpoint.transactionId)
  confirmations := 0
  receiptBytes := some evidence.receiptBytes
  transitionDigest := some (hex32Label evidence.transitionDigest)
  continuationCommitment := some (hex32Label evidence.continuationCommitment)
  continuationShapeRoot := some (hex32Label evidence.continuationShapeRoot)
  newStateDigest := some (hex32Label evidence.newStateDigest)
  updatedAt := now

def finishTransition (s : WalletStore) (job : TransitionJob) (work : Work) :
    Answer × WalletStore :=
  match work.buildTransition job.input job.selectedLaneCovenantId with
  | .error message => (refuse (.badRequest message), s)
  | .ok evidence =>
      recordProofOn s job.input.laneId (transitionSummary job.strategy evidence work.now)
        (some (hex32Label evidence.newStateDigest)) work

end Finishing
end RgkProtocol.WalletDashboard
