import RgkProtocol.WalletDashboard

/-!
# Requests of one wallet that finish in another

A sync, a new lane, a proof and a transition are each served in several critical sections, and
wallets may be locked, unlocked, created and imported in between. What such a request enters is
meant for the wallet it began in. A sync looks once more at the lock before it enters anything; the
other three look at nothing but the lanes; and none compares the wallet. So the request stays with
its wallet as long as no other request changes the stored profile before it ends.
-/
namespace RgkProtocol.WalletRequests
open ByteStrings Hashing CoreTypes Checked IndexerState Resolver ScanService Simulation
open SharedRequests hiding Turn
open WalletIdentity WalletSession WalletDashboard

section Machine

inductive Request where
  | sync
  | createLane (input : CreateLaneInput)
  | recordProof (input : RecordProofInput)
  | recordTransition (input : RecordTransitionInput)

/-- A request under way. The profile its first critical section has read and whether another one was
stored since then are kept for the statements only. -/
structure InFlight where
  profile : WalletProfile
  job : Job
  overtaken : Bool

structure Machine where
  store : WalletStore
  unlocks : List VaultSnapshot
  jobs : List InFlight

/-- One critical section: of a request on the wallet itself, the first one of a request, the one
that compares a lane with the stored lanes, and the last one after the slow work. -/
inductive Turn where
  | wallet (turn : WalletTurn)
  | start (request : Request)
  | check (index : ℕ)
  | finish (index : ℕ) (work : Work)

variable (p : Primitives) (config : DaemonConfig)

def startRequest (s : WalletStore) : Request → Except WalletdError (WalletProfile × Job)
  | .sync => beginSync s
  | .createLane input => beginLane config s input
  | .recordProof input => beginProof s input
  | .recordTransition input => beginTransition s input

/-- What is shown after a request on the wallet: a new wallet starts afresh. -/
def dataAfter (data : WalletData) : WalletTurn → WalletData
  | .whole (.create input entropy outcome) | .whole (.importing input entropy outcome) =>
      if (prepareWallet p config input entropy outcome).isOk then .fresh else data
  | _ => data

def walletTurn (m : Machine) (turn : WalletTurn) : Option Answer × Machine :=
  let served := (server p config).step ⟨m.store.daemon, m.unlocks⟩ turn
  let store : WalletStore := ⟨served.2.state, dataAfter p config m.store.data turn⟩
  (served.1.map .wallet, ⟨store, served.2.reads, m.jobs.map (fun f => { f with
    overtaken := f.overtaken || decide (store.profile ≠ m.store.profile) })⟩)

/-- The last critical section of a request that is through with its work. -/
def finishJob (s : WalletStore) (job : Job) (work : Work) : Option (Answer × WalletStore) :=
  match job with
  | .sync endpoint lanes address => some (finishSync p s endpoint lanes address work)
  | .lane _ => none
  | .indexing job => some (finishLane p config s job work)
  | .proof job => some (finishProof p s job work)
  | .transition job => some (finishTransition s job work)

def checkLane (m : Machine) (n : ℕ) (f : InFlight) (job : LaneJob) : Option Answer × Machine :=
  match job.evidence.map (validateLaneProfileUniqueness m.store.data.lanes) with
  | some (.error error) => (some (refuse error), { m with jobs := m.jobs.eraseIdx n })
  | _ => (none, { m with jobs := m.jobs.set n { f with job := .indexing job } })

def step (m : Machine) : Turn → Option Answer × Machine
  | .wallet turn => walletTurn p config m turn
  | .start request =>
      match startRequest config m.store request with
      | .ok (profile, job) => (none, { m with jobs := m.jobs ++ [⟨profile, job, false⟩] })
      | .error error => (some (refuse error), m)
  | .check n =>
      match m.jobs[n]? with
      | some f => match f.job with
        | .lane job => checkLane m n f job
        | _ => (none, m)
      | none => (none, m)
  | .finish n work =>
      match m.jobs[n]? with
      | some f => match finishJob p config m.store f.job work with
        | some (answer, store) => (some answer, ⟨store, m.unlocks, m.jobs.eraseIdx n⟩)
        | none => (none, m)
      | none => (none, m)

/-- The daemon on the file it finds. A file for another network is set aside as a whole. -/
def launch (saved : Option (PersistedState × WalletData)) : Machine where
  store :=
    { daemon := (WalletSession.launch config (saved.map Prod.fst)).state
      data := match saved with
        | none => .empty
        | some (state, data) =>
            match state.profile with
            | none => data
            | some profile =>
                if profileMatchesNetwork profile config.network then data else .empty }
  unlocks := []
  jobs := []

end Machine

section Safety

/-- The lanes, the proofs, the balance and the status of the scanner. -/
def shown (s : WalletStore) : List AssetLane × List ProofSummary × String × ScanStatus :=
  (s.data.lanes, s.data.proofs, s.data.kasBalance, s.data.scan)

/-- Two profiles of one wallet, which differ at most in how far it is open. -/
def SameWallet (profile stored : WalletProfile) : Prop :=
  { stored with
    lifecycle := profile.lifecycle
    identityVaultStatus := profile.identityVaultStatus } = profile

/-- The store holds the wallet of a profile, and it is not locked. -/
def Owns (s : WalletStore) (profile : WalletProfile) : Prop :=
  ∃ stored, s.profile = some stored ∧ stored.lifecycle ≠ .locked ∧ SameWallet profile stored

variable (p : Primitives) (config : DaemonConfig)

/-- A last critical section changes what is shown only of the wallet its request began in. -/
def WritesOnlyOwn (m : Machine) : Turn → Prop
  | .finish n work => ∀ f, m.jobs[n]? = some f →
      shown (step p config m (.finish n work)).2.store ≠ shown m.store → Owns m.store f.profile
  | _ => True

/-- A balance is entered only for the wallet whose address it was asked for. -/
def StoresOwnBalance (m : Machine) : Turn → Prop
  | .finish n work => ∀ f endpoint lanes address, m.jobs[n]? = some f →
      f.job = .sync endpoint lanes address →
      (step p config m (.finish n work)).2.store.data.kasBalance ≠ m.store.data.kasBalance →
      m.store.profile.map WalletProfile.address = some address
  | _ => True

/-- The request that finishes was not overtaken by one that changed the stored profile. -/
def NotOvertaken (m : Machine) : Turn → Prop
  | .finish n _ => ∀ f, m.jobs[n]? = some f → f.overtaken = false
  | _ => True

/-- What the last critical section itself refuses, whatever the work has given. -/
def Refuses (s : WalletStore) : Job → Prop
  | .sync _ _ _ => s.profile.map WalletProfile.lifecycle = some .locked
  | .lane _ => True
  | .indexing job =>
      (∃ evidence, job.evidence = some evidence ∧ evidence.lane.chainId ≠ config.network.chainId) ∨
        Listed s.data.lanes (buildLane p job job.evidence "")
  | .proof job => ∀ lane ∈ s.data.lanes, lane.laneId ≠ job.input.laneId
  | .transition job => ∀ lane ∈ s.data.lanes, lane.laneId ≠ job.input.laneId

variable {p config}

section Owner
variable {s s' : WalletStore} {profile : WalletProfile}

lemma Owns.of_profile_eq (ho : Owns s profile) (h : s'.profile = s.profile) : Owns s' profile := by
  obtain ⟨stored, hstored, hopen, hsame⟩ := ho
  exact ⟨stored, h.trans hstored, hopen, hsame⟩

lemma Owns.withLifecycle {lifecycle : WalletLifecycle} (ho : Owns s profile)
    (hopen : lifecycle ≠ .locked) : Owns (s.withLifecycle lifecycle) profile := by
  obtain ⟨stored, hstored, -, hsame⟩ := ho
  refine ⟨{ stored with lifecycle }, ?_, hopen, hsame⟩
  rw [WalletStore.profile_withLifecycle, hstored, Option.map_some]

lemma Owns.address_eq (ho : Owns s profile) :
    s.profile.map WalletProfile.address = some profile.address := by
  obtain ⟨stored, hstored, -, hsame⟩ := ho
  rw [hstored, Option.map_some, ← hsame]

lemma startRequest_ready {request : Request} {job : Job}
    (h : startRequest config s request = .ok (profile, job)) : readyProfile s = .ok profile := by
  cases request with
  | sync =>
    simp only [startRequest, beginSync, bind_eq_ok, Except.ok.injEq, Prod.mk.injEq] at h
    obtain ⟨_, hready, -, -, rfl, -⟩ := h
    exact hready
  | createLane input =>
    simp only [startRequest, beginLane, bind_eq_ok, Except.ok.injEq, Prod.mk.injEq] at h
    obtain ⟨_, hready, -, -, -, -, -, -, -, -, rfl, -⟩ := h
    exact hready
  | recordProof input =>
    simp only [startRequest, beginProof, bind_eq_ok, Except.ok.injEq, Prod.mk.injEq] at h
    obtain ⟨_, hready, -, -, -, -, -, -, -, -, rfl, -⟩ := h
    exact hready
  | recordTransition input =>
    simp only [startRequest, beginTransition, bind_eq_ok, Except.ok.injEq, Prod.mk.injEq] at h
    obtain ⟨_, hready, -, -, -, -, rfl, -⟩ := h
    exact hready

/-- A sync asks for the balance of the wallet it starts in. -/
lemma startRequest_address {request : Request} {endpoint : String} {lanes : List AssetLane}
    {address : Option String}
    (h : startRequest config s request = .ok (profile, .sync endpoint lanes address)) :
    profile.address = address := by
  cases request with
  | sync =>
    simp only [startRequest, beginSync, bind_eq_ok, Except.ok.injEq, Prod.mk.injEq,
      Job.sync.injEq] at h
    obtain ⟨_, -, -, -, rfl, -, -, haddress⟩ := h
    exact haddress
  | createLane input =>
    simp only [startRequest, beginLane, bind_eq_ok, Except.ok.injEq, Prod.mk.injEq] at h
    obtain ⟨_, -, _, -, _, -, _, -, evidence, -, -, hjob⟩ := h
    cases hevidence : evidence.isSome <;> simp [hevidence] at hjob
  | recordProof input =>
    simp [startRequest, beginProof, bind_eq_ok] at h
  | recordTransition input =>
    simp [startRequest, beginTransition, bind_eq_ok] at h

lemma startRequest_owns {request : Request} {job : Job}
    (h : startRequest config s request = .ok (profile, job)) : Owns s profile := by
  obtain ⟨hstored, hopen⟩ := readyProfile_eq_ok.mp (startRequest_ready h)
  exact ⟨profile, hstored, hopen, rfl⟩

end Owner

section LastSections
variable (p config) (s : WalletStore) (work : Work)

lemma finishSync_owns (endpoint : String) (lanes : List AssetLane) (address : Option String)
    {profile : WalletProfile} (ho : Owns s profile) :
    Owns (finishSync p s endpoint lanes address work).2 profile := by
  have hready : Owns (s.withLifecycle .ready) profile := ho.withLifecycle (by decide)
  have hservice : Owns (s.withLifecycle .serviceRequired) profile := ho.withLifecycle (by decide)
  rw [finishSync]
  split
  · exact ho
  · cases runScanTick p work endpoint lanes address with
    | ok scan => exact hready.of_profile_eq rfl
    | error message => exact hservice.of_profile_eq rfl

lemma finishLane_daemon (job : LaneJob) : (finishLane p config s job work).2.daemon = s.daemon := by
  rw [finishLane]
  split
  · rfl
  · dsimp only
    split <;> rfl

lemma recordProofOn_daemon (laneId : String) (proof : ProofSummary) (stateDigest : Option String) :
    (recordProofOn s laneId proof stateDigest work).2.daemon = s.daemon := by
  rw [recordProofOn]
  split <;> rfl

lemma finishProof_daemon (job : ProofJob) : (finishProof p s job work).2.daemon = s.daemon := by
  rw [finishProof]
  split
  · rfl
  · exact recordProofOn_daemon s work _ _ _

lemma finishTransition_daemon (job : TransitionJob) :
    (finishTransition s job work).2.daemon = s.daemon := by
  rw [finishTransition]
  split
  · rfl
  · exact recordProofOn_daemon s work _ _ _

lemma finishJob_owns {job : Job} {answer : Answer} {s' : WalletStore} {profile : WalletProfile}
    (ho : Owns s profile) (h : finishJob p config s job work = some (answer, s')) :
    Owns s' profile := by
  have hkept : ∀ t : Answer × WalletStore, t.2.daemon = s.daemon → t = (answer, s') →
      Owns s' profile := by
    rintro _ hdaemon rfl
    exact ho.of_profile_eq (congrArg (fun daemon => daemon.store.profile) hdaemon)
  cases job with
  | sync endpoint lanes address =>
    have hsync := finishSync_owns p s work endpoint lanes address ho
    rwa [Option.some.inj h] at hsync
  | lane job => cases h
  | indexing job => exact hkept _ (finishLane_daemon p config s work job) (Option.some.inj h)
  | proof job => exact hkept _ (finishProof_daemon p s work job) (Option.some.inj h)
  | transition job => exact hkept _ (finishTransition_daemon s work job) (Option.some.inj h)

lemma selectLane_eq_error {lanes : List AssetLane} {laneId : String} :
    (∃ error, selectLane lanes laneId = .error error) ↔
      ∀ lane ∈ lanes, lane.laneId ≠ laneId := by
  cases hfound : lanes.find? (fun lane => lane.laneId = laneId) with
  | none =>
    refine iff_of_true ⟨_, by rw [selectLane, hfound]; rfl⟩ ?_
    simpa using hfound
  | some lane =>
    refine iff_of_false ?_ ?_
    · rintro ⟨error, h⟩
      rw [selectLane, hfound] at h
      cases h
    · intro h
      exact h lane (List.mem_of_find?_eq_some hfound) (by simpa using List.find?_some hfound)

/-- A proof is entered exactly where its lane is listed. -/
lemma shown_recordProofOn (laneId : String) (proof : ProofSummary) (stateDigest : Option String) :
    shown (recordProofOn s laneId proof stateDigest work).2 = shown s ↔
      ∀ lane ∈ s.data.lanes, lane.laneId ≠ laneId := by
  rw [← selectLane_eq_error]
  cases hlane : selectLane s.data.lanes laneId with
  | error error => simp only [recordProofOn, hlane, Except.error.injEq, exists_eq']
  | ok lane => simp [recordProofOn, hlane, shown]

/-- A lane is entered exactly where its evidence could be indexed and it is not listed yet. -/
lemma shown_finishLane (job : LaneJob) :
    shown (finishLane p config s job work).2 = shown s ↔
      ∀ indexed, indexLaneEvidence work config.network.chainId job.evidence = .ok indexed →
        Listed s.data.lanes (buildLane p job indexed work.now) := by
  cases hindexed : indexLaneEvidence work config.network.chainId job.evidence with
  | error message => simp [finishLane, hindexed]
  | ok indexed =>
    by_cases hlisted : Listed s.data.lanes (buildLane p job indexed work.now)
    · simp [finishLane, hindexed, hlisted]
    · simp [finishLane, hindexed, hlisted, shown]

/-- Evidence that is indexed is the evidence of the request, of the daemon's own chain. -/
lemma indexLaneEvidence_eq_ok {chainId : KaspaChainId} {evidence indexed : Option LaneEvidence}
    (h : indexLaneEvidence work chainId evidence = .ok indexed) :
    indexed = evidence ∧ ∀ e, evidence = some e → e.lane.chainId = chainId := by
  cases evidence with
  | none =>
    obtain rfl := Except.ok.inj h
    exact ⟨rfl, fun _ he => by cases he⟩
  | some e =>
    simp only [indexLaneEvidence, bind_eq_ok, failIf_eq_ok, Except.ok.injEq, not_not] at h
    obtain ⟨-, hchain, -, -, rfl⟩ := h
    refine ⟨rfl, ?_⟩
    rintro _ ⟨⟩
    exact hchain

end LastSections

section Exactness

/-- Work that goes well, around a scan that fails or sets the cursor. -/
def goodWork (connected : Bool) : Work :=
  let cursor : ScanCursor := ⟨.kaspaSimnet, Bytes.zero, 0⟩
  let backend : KaspaChainBackend := ⟨.ok .kaspaSimnet, fun _ => .ok none, fun _ => .ok none⟩
  let evidence : VerifiedProofEvidence := ⟨Bytes.zero, .verifierReceipt, .any, ⟨Bytes.zero, 0⟩,
    Bytes.zero, "", Bytes.zero, Bytes.zero, Bytes.zero⟩
  { scan := fun _ => if connected then
        .ok (⟨true, cursor, cursor, 0, 0⟩, 0, .new backend .new .kaspaSimnet)
      else .error "failed to connect to Kaspa wRPC: connection refused"
    balanceByAddress := fun _ => .ok 0
    indexLane := fun _ => .ok ()
    ingestProof := fun _ => .ok evidence
    buildTransition := fun _ _ => .ok evidence
    now := "unix:0"
    write := .ok () }

variable (p config) (s : WalletStore)

lemma Refuses.shown_eq {job : Job} {work : Work} {answer : Answer} {s' : WalletStore}
    (href : Refuses p config s job) (h : finishJob p config s job work = some (answer, s')) :
    shown s' = shown s := by
  cases job with
  | sync endpoint lanes address =>
    have hlocked : finishSync p s endpoint lanes address work = (refuse .locked, s) := if_pos href
    rw [finishJob, hlocked] at h
    obtain ⟨-, rfl⟩ := Prod.mk.inj (Option.some.inj h)
    rfl
  | lane job => cases h
  | indexing job =>
    obtain rfl : (finishLane p config s job work).2 = s' := congrArg Prod.snd (Option.some.inj h)
    refine (shown_finishLane p config s work job).mpr (fun indexed hindexed => ?_)
    obtain ⟨rfl, hchain⟩ := indexLaneEvidence_eq_ok work hindexed
    obtain ⟨evidence, hevidence, hother⟩ | hlisted := href
    · exact absurd (hchain evidence hevidence) hother
    · exact hlisted
  | proof job =>
    obtain rfl : (finishProof p s job work).2 = s' := congrArg Prod.snd (Option.some.inj h)
    rw [finishProof]
    split
    · rfl
    · exact (shown_recordProofOn s work _ _ _).mpr href
  | transition job =>
    obtain rfl : (finishTransition s job work).2 = s' := congrArg Prod.snd (Option.some.inj h)
    rw [finishTransition]
    split
    · rfl
    · exact (shown_recordProofOn s work _ _ _).mpr href

/-- A scan that fails shows the scanner as unavailable, and one that succeeds does not. -/
lemma exists_scan_changes (endpoint : String) (lanes : List AssetLane) (address : Option String)
    (hopen : s.profile.map WalletProfile.lifecycle ≠ some .locked) :
    ∃ work, shown (finishSync p s endpoint lanes address work).2 ≠ shown s := by
  by_cases hmode : s.data.scan.scanMode = .unavailable
  · refine ⟨goodWork true, fun hsame => ?_⟩
    have hscan := congrArg (fun shown => shown.2.2.2.scanMode) hsame
    cases haddress : address.bind trimmedOptional <;>
      simp [finishSync, hopen, runScanTick, refreshBalance, goodWork, haddress, shown,
        applySuccessfulScan, hmode, bind, Except.bind, Except.map, Except.mapError] at hscan
  · refine ⟨goodWork false, fun hsame => hmode ?_⟩
    have hscan := congrArg (fun shown => shown.2.2.2.scanMode) hsame
    simpa [finishSync, hopen, runScanTick, goodWork, shown, applyFailedScan, bind,
      Except.bind] using hscan.symm

/-- A request that is not refused changes what is shown, if its work goes as it may. -/
lemma exists_work_changes {job : Job} (href : ¬ Refuses p config s job) :
    ∃ work answer s', finishJob p config s job work = some (answer, s') ∧ shown s' ≠ shown s := by
  have hgood : ∀ work (t : Answer × WalletStore), finishJob p config s job work = some t →
      shown t.2 ≠ shown s → ∃ work answer s',
        finishJob p config s job work = some (answer, s') ∧ shown s' ≠ shown s :=
    fun work t ht hchange => ⟨work, t.1, t.2, ht, hchange⟩
  let work := goodWork false
  cases job with
  | sync endpoint lanes address =>
    obtain ⟨work, hchange⟩ := exists_scan_changes p s endpoint lanes address href
    exact hgood work _ rfl hchange
  | lane job => exact absurd trivial href
  | indexing job =>
    obtain ⟨hchain, hlisted⟩ := not_or.mp href
    have hindexed : indexLaneEvidence work config.network.chainId job.evidence
        = .ok job.evidence := by
      cases hevidence : job.evidence with
      | none => rfl
      | some evidence =>
        have hown : evidence.lane.chainId = config.network.chainId := by
          by_contra hother
          exact hchain ⟨evidence, hevidence, hother⟩
        simp [indexLaneEvidence, hown, work, goodWork, failIf, bind, Except.bind]
    refine hgood work _ rfl (fun hsame => hlisted ?_)
    exact (shown_finishLane p config s work job).mp hsame _ hindexed
  | proof job =>
    refine hgood work _ rfl (fun hsame => href ?_)
    by_cases hsupplied : proofEvidenceSupplied job.input = true
    all_goals
      simp only [finishProof, ingestProofEvidence, hsupplied, work, goodWork, Except.map] at hsame
      exact (shown_recordProofOn s _ _ _ _).mp hsame
  | transition job =>
    refine hgood work _ rfl (fun hsame => href ?_)
    exact (shown_recordProofOn s work _ _ _).mp hsame

/-- Whatever its work gives, a request writes only for its own wallet exactly if that wallet is
stored and open, or the request is refused. -/
lemma writesOnlyOwn_iff {m : Machine} {n : ℕ} {f : InFlight} (hf : m.jobs[n]? = some f) :
    (∀ work, WritesOnlyOwn p config m (.finish n work)) ↔
      Owns m.store f.profile ∨ Refuses p config m.store f.job := by
  constructor
  · intro hall
    by_cases href : Refuses p config m.store f.job
    · exact .inr href
    · obtain ⟨work, answer, s', hfinish, hchange⟩ := exists_work_changes p config m.store href
      refine .inl (hall work f hf ?_)
      simpa only [step, hf, hfinish] using hchange
  · rintro (howns | href) work f' hf' hchange
    · obtain rfl := Option.some.inj (hf.symm.trans hf')
      exact howns
    · refine absurd ?_ hchange
      cases hfinish : finishJob p config m.store f.job work with
      | none => simp only [step, hf, hfinish]
      | some t => simpa only [step, hf, hfinish] using href.shown_eq p config m.store hfinish

end Exactness

section Runs

/-- A request is about the profile it has read; until it is overtaken, that is the stored one. -/
structure FitsStore (s : WalletStore) (f : InFlight) : Prop where
  owns : f.overtaken = false → Owns s f.profile
  address : ∀ endpoint lanes address, f.job = .sync endpoint lanes address →
    f.profile.address = address

def AllFit (m : Machine) : Prop := ∀ f ∈ m.jobs, FitsStore m.store f

variable (p config) {m : Machine}

lemma allFit_walletTurn (turn : WalletTurn) (h : AllFit m) :
    AllFit (walletTurn p config m turn).2 := by
  intro f hf
  obtain ⟨f', hf', rfl⟩ := List.mem_map.mp hf
  refine ⟨fun hovertaken => ?_, (h f' hf').address⟩
  simp only [Bool.or_eq_false_iff, decide_eq_false_iff_not, not_not] at hovertaken
  exact ((h f' hf').owns hovertaken.1).of_profile_eq hovertaken.2

lemma allFit_checkLane {n : ℕ} {f : InFlight} (job : LaneJob) (hf : m.jobs[n]? = some f)
    (h : AllFit m) : AllFit (checkLane m n f job).2 := by
  rw [checkLane]
  split
  · exact fun f' hf' => h f' (List.mem_of_mem_eraseIdx hf')
  · intro f' hf'
    obtain hold | rfl := List.mem_or_eq_of_mem_set hf'
    · exact h f' hold
    · exact ⟨(h f (List.mem_of_getElem? hf)).owns, fun _ _ _ hjob => by cases hjob⟩

lemma allFit_start (request : Request) (h : AllFit m) :
    AllFit (step p config m (.start request)).2 := by
  cases hstart : startRequest config m.store request with
  | error error => simpa only [step, hstart] using h
  | ok started =>
    obtain ⟨profile, job⟩ := started
    simp only [step, hstart]
    intro f hf
    obtain hold | hnew := List.mem_append.mp hf
    · exact h f hold
    · obtain rfl := List.mem_singleton.mp hnew
      refine ⟨fun _ => startRequest_owns hstart, ?_⟩
      rintro endpoint lanes address rfl
      exact startRequest_address hstart

lemma allFit_check (n : ℕ) (h : AllFit m) : AllFit (step p config m (.check n)).2 := by
  cases hf : m.jobs[n]? with
  | none => simpa only [step, hf] using h
  | some f =>
    cases hjob : f.job with
    | lane job => simpa only [step, hf, hjob] using allFit_checkLane job hf h
    | sync | indexing | proof | transition => simpa only [step, hf, hjob] using h

/-- The other requests under way see at most a profile that was opened for the scanner. -/
lemma allFit_finish (n : ℕ) (work : Work) (h : AllFit m) :
    AllFit (step p config m (.finish n work)).2 := by
  cases hf : m.jobs[n]? with
  | none => simpa only [step, hf] using h
  | some f =>
    cases hfinish : finishJob p config m.store f.job work with
    | none => simpa only [step, hf, hfinish] using h
    | some finished =>
      simp only [step, hf, hfinish]
      intro f' hf'
      have hfits := h f' (List.mem_of_mem_eraseIdx hf')
      refine ⟨fun hovertaken => ?_, hfits.address⟩
      exact finishJob_owns p config m.store work (hfits.owns hovertaken) hfinish

lemma allFit_step (m : Machine) (turn : Turn) (h : AllFit m) : AllFit (step p config m turn).2 := by
  cases turn with
  | wallet turn => exact allFit_walletTurn p config turn h
  | start request => exact allFit_start p config request h
  | check n => exact allFit_check p config n h
  | finish n work => exact allFit_finish p config n work h

/-- A request that was not overtaken writes only for its own wallet, and the balance of that. -/
lemma keepsToWallet_of_notOvertaken (m : Machine) (turn : Turn) (h : AllFit m)
    (hturn : NotOvertaken m turn) :
    WritesOnlyOwn p config m turn ∧ StoresOwnBalance p config m turn := by
  cases turn with
  | finish n work =>
    have howns : ∀ f, m.jobs[n]? = some f → Owns m.store f.profile :=
      fun f hf => (h f (List.mem_of_getElem? hf)).owns (hturn f hf)
    refine ⟨fun f hf _ => howns f hf, fun f endpoint lanes address hf hjob _ => ?_⟩
    rw [(howns f hf).address_eq, (h f (List.mem_of_getElem? hf)).address _ _ _ hjob]
  | wallet | start | check => exact ⟨trivial, trivial⟩

end Runs

section Samples

def firstAddress : Option String :=
  (sampleRun [createFirst]).state.store.profile.bind WalletProfile.address

/-- A node that knows five coins of the first wallet. -/
def fundedNode : Work where
  __ := goodWork true
  balanceByAddress address := if some address = firstAddress then .ok 500000000 else .ok 0

def sampleLane : CreateLaneInput := ⟨"Coupons", "CPN", "12.5", .privateLane, .any,
  "", "", "", "", "", "", "", 0, 0, 0⟩

def sampleMachine (turns : List Turn) : Machine :=
  stateAfter (step samplePrimitives sampleConfig) (launch sampleConfig none) turns

def syncTurns : List Turn := [.wallet createFirst, .start .sync]

/-- Another wallet is imported before the sync of the first one ends. -/
def crossedTurns : List Turn := syncTurns ++ [.wallet importSecond]

/-- The wallet is locked before its new lane is entered. -/
def lockedTurns : List Turn :=
  [.wallet createFirst, .start (.createLane sampleLane), .wallet (.whole (.lock sampleOutcome))]

/-- The store after the request of such a run is finished. -/
def finished (turns : List Turn) : WalletStore :=
  (sampleMachine (turns ++ [.finish 0 fundedNode])).store

lemma finished_eq (turns : List Turn) : finished turns =
    (step samplePrimitives sampleConfig (sampleMachine turns) (.finish 0 fundedNode)).2.store := by
  rw [finished, sampleMachine, stateAfter_append]
  rfl

lemma sampleMachine_last {C : Machine → Turn → Prop} {turns : List Turn} {turn : Turn}
    (hrun : AlongRun (step samplePrimitives sampleConfig) C (launch sampleConfig none)
      (turns ++ [turn])) : C (sampleMachine turns) turn :=
  hrun.last

/-- A request that changes what is shown of a wallet that is not its own. -/
lemma not_alongRun_of_stranger {turns : List Turn} {f : InFlight}
    (hf : (sampleMachine turns).jobs[0]? = some f)
    (hchange : shown (finished turns) ≠ shown (sampleMachine turns).store)
    (hstranger : ¬Owns (sampleMachine turns).store f.profile) :
    ¬AlongRun (step samplePrimitives sampleConfig) (WritesOnlyOwn samplePrimitives sampleConfig)
      (launch sampleConfig none) (turns ++ [.finish 0 fundedNode]) := by
  intro hrun
  rw [finished_eq] at hchange
  exact hstranger (sampleMachine_last hrun f hf hchange)

end Samples

end Safety

section Interleavings

/-- In every run, a request that was not overtaken changes what is shown only of the wallet it began
in, with the balance of its address. In any state, a request does so whatever its work gives exactly
if its wallet is stored and open, or its last critical section refuses it. -/
theorem requests_keep_to_wallet (p : Primitives) (config : DaemonConfig)
    (saved : Option (PersistedState × WalletData)) (turns : List Turn) :
    AlongRun (step p config) (fun m turn => NotOvertaken m turn →
      WritesOnlyOwn p config m turn ∧ StoresOwnBalance p config m turn)
      (launch config saved) turns ∧
    ∀ m n f, m.jobs[n]? = some f →
      ((∀ work, WritesOnlyOwn p config m (.finish n work)) ↔
        Owns m.store f.profile ∨ Refuses p config m.store f.job) := by
  constructor
  · refine AlongRun.of_invariant (allFit_step p config) (keepsToWallet_of_notOvertaken p config)
      ?_ turns
    exact fun f hf => absurd hf List.not_mem_nil
  · exact fun m n f hf => writesOnlyOwn_iff p config hf

theorem requests_keep_to_wallet_sample :
    ∃ f, (sampleMachine syncTurns).jobs[0]? = some f ∧ f.overtaken = false ∧
      (finished syncTurns).data.kasBalance = "5.00000000 KAS" ∧
      Owns (sampleMachine syncTurns).store f.profile ∧
      ∀ work, WritesOnlyOwn samplePrimitives sampleConfig (sampleMachine syncTurns)
        (.finish 0 work) := by
  have hrun : (sampleMachine syncTurns).jobs[0]?.map InFlight.overtaken = some false ∧
      (finished syncTurns).data.kasBalance = "5.00000000 KAS" ∧
      shown (finished syncTurns) ≠ shown (sampleMachine syncTurns).store := by
    decide +kernel
  obtain ⟨hjob, hbalance, hchange⟩ := hrun
  obtain ⟨f, hf, hovertaken⟩ := Option.map_eq_some_iff.mp hjob
  obtain ⟨halong, hexact⟩ := requests_keep_to_wallet samplePrimitives sampleConfig none
    (syncTurns ++ [.finish 0 fundedNode])
  have hnot : NotOvertaken (sampleMachine syncTurns) (.finish 0 fundedNode) := by
    intro f' hf'
    rwa [← Option.some.inj (hf.symm.trans hf')]
  rw [finished_eq] at hchange
  have howns : Owns (sampleMachine syncTurns).store f.profile :=
    (sampleMachine_last halong hnot).1 f hf hchange
  exact ⟨f, hf, hovertaken, hbalance, howns, (hexact _ 0 f hf).mpr (.inl howns)⟩

/-- The balance of the first wallet's address is stored for the second wallet, and a lane is entered
in a wallet that is locked. -/
theorem requests_cross_wallets :
    (finished crossedTurns).profile.map WalletProfile.walletId = some "wallet-b" ∧
    (finished crossedTurns).profile.bind WalletProfile.address ≠ firstAddress ∧
    (finished crossedTurns).data.kasBalance = "5.00000000 KAS" ∧
    (finished lockedTurns).profile.map WalletProfile.lifecycle = some .locked ∧
    (finished lockedTurns).data.lanes.map AssetLane.label = ["Coupons"] ∧
    ∀ turns ∈ [crossedTurns, lockedTurns],
      ¬AlongRun (step samplePrimitives sampleConfig) (WritesOnlyOwn samplePrimitives sampleConfig)
        (launch sampleConfig none) (turns ++ [.finish 0 fundedNode]) := by
  have hcrossed : (finished crossedTurns).profile.map WalletProfile.walletId = some "wallet-b" ∧
      (finished crossedTurns).profile.bind WalletProfile.address ≠ firstAddress ∧
      (finished crossedTurns).data.kasBalance = "5.00000000 KAS" ∧
      (sampleMachine crossedTurns).jobs[0]?.map (fun f => f.profile.walletId) = some "wallet-a" ∧
      (sampleMachine crossedTurns).store.profile.map WalletProfile.walletId = some "wallet-b" ∧
      shown (finished crossedTurns) ≠ shown (sampleMachine crossedTurns).store := by
    decide +kernel
  have hlocked : (finished lockedTurns).profile.map WalletProfile.lifecycle = some .locked ∧
      (finished lockedTurns).data.lanes.map AssetLane.label = ["Coupons"] ∧
      (sampleMachine lockedTurns).jobs[0]?.isSome = true ∧
      (sampleMachine lockedTurns).store.profile.map WalletProfile.lifecycle = some .locked ∧
      shown (finished lockedTurns) ≠ shown (sampleMachine lockedTurns).store := by
    decide +kernel
  obtain ⟨hwallet, haddress, hbalance, hreader, hholder, hchange⟩ := hcrossed
  obtain ⟨hlock, hlanes, hwaiting, hstill, hchange'⟩ := hlocked
  obtain ⟨f, hf, hreader⟩ := Option.map_eq_some_iff.mp hreader
  obtain ⟨f', hf'⟩ := Option.isSome_iff_exists.mp hwaiting
  refine ⟨hwallet, haddress, hbalance, hlock, hlanes, ?_⟩
  simp only [List.forall_mem_cons, List.not_mem_nil, IsEmpty.forall_iff, implies_true, and_true]
  constructor
  · refine not_alongRun_of_stranger hf hchange ?_
    rintro ⟨stored, hstored, -, hsame⟩
    rw [hstored, Option.map_some, Option.some.injEq] at hholder
    have hsameId : stored.walletId = f.profile.walletId := by rw [← hsame]
    rw [hholder, hreader] at hsameId
    exact absurd hsameId (by decide)
  · refine not_alongRun_of_stranger hf' hchange' ?_
    rintro ⟨stored, hstored, hopen, -⟩
    rw [hstored, Option.map_some, Option.some.injEq] at hstill
    exact hopen hstill

end Interleavings
end RgkProtocol.WalletRequests
