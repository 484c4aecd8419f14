import RgkProtocol.SledIndexer
import RgkProtocol.TaggedRows

/-!
# Lane discovery by scan tag

The in-memory indexer finds a lane through an index of scan tags that every registration updates.
The persistent one decodes all lane records in the order of their ids until a tag fits. Both find
the first lane that carries the tag as long as every registration leaves the tags of other lanes
alone.
-/
namespace RgkProtocol.LaneDiscovery
open ByteStrings Hashing CoreTypes Checked Codec CanonicalEncoding IndexerState IndexerOps
open IndexerRecords SledIndexer Simulation TaggedRows

section Records

/-- The bytes of `rgklane` and a zero byte. -/
def indexedLaneMagic : Bytes 8 := ⟨[0x72, 0x67, 0x6b, 0x6c, 0x61, 0x6e, 0x65, 0], rfl⟩

def encodeIndexedLane (lane : IndexedLane) : List UInt8 :=
  indexedLaneMagic.toList ++ (KaspaChainId.encode lane.chainId ++ (lane.covenantId.toList ++
    (lane.assetId.toList ++ (lane.laneId.toList ++ (le64 lane.epoch ++
      (optionBytes Bytes.toList lane.scanTag ++ ([boolByte lane.publicLineage] ++
        (lane.stateDigest.toList ++ le64 lane.lastUpdateDaaScore))))))))

def readIndexedLane : Reader IndexerError IndexedLane := do
  let magic ← readArray eofErr 8
  check (failIf (magic ≠ indexedLaneMagic) (.storage "bad lane record magic"))
  let chainId ← mapErr decodeErr KaspaChainId.decode
  let covenantId ← readArray eofErr 32
  let assetId ← readArray eofErr 32
  let laneId ← readArray eofErr 32
  let epoch ← readU64 eofErr
  let scanTag ← readOption eofErr (readArray eofErr 32)
  let publicLineage ← readBool eofErr
  let stateDigest ← readArray eofErr 32
  let lastUpdateDaaScore ← readU64 eofErr
  pure ⟨chainId, covenantId, assetId, laneId, epoch, scanTag, publicLineage, stateDigest,
    lastUpdateDaaScore⟩

def decodeIndexedLane (buf : List UInt8) : Except IndexerError IndexedLane :=
  runReader (do
    let lane ← readIndexedLane
    ensureConsumed (fun remaining => decodeErr (.trailingBytes remaining))
    check (do
      failIf (lane.laneId = Bytes.zero) (.storage "bad lane id")
      failIf (lane.stateDigest = Bytes.zero) (.storage "bad lane state digest")
      failIf (lane.scanTag = some Bytes.zero) (.storage "bad lane scan tag")
      .ok lane)) buf

/-- The lane passes the checks of the reader. -/
structure LaneStorable (lane : IndexedLane) : Prop where
  laneId : lane.laneId ≠ Bytes.zero
  stateDigest : lane.stateDigest ≠ Bytes.zero
  scanTag : lane.scanTag ≠ some Bytes.zero

lemma reads_indexedLane (lane : IndexedLane) :
    Reads readIndexedLane (encodeIndexedLane lane) lane := by
  have hmagic : failIf (indexedLaneMagic ≠ indexedLaneMagic)
      (IndexerError.storage "bad lane record magic") = .ok () := failIf_eq_ok.mpr (not_not.mpr rfl)
  refine ((exact_readArray 8).reads trivial).bind ?_
  refine (Reads.check hmagic).bind ?_
  refine (exact_chainId.reads trivial).mapErr.bind ?_
  refine ((exact_readArray 32).reads trivial).bind ?_
  refine ((exact_readArray 32).reads trivial).bind ?_
  refine ((exact_readArray 32).reads trivial).bind ?_
  refine (exact_readU64.reads trivial).bind ?_
  refine (reads_readOption (fun _ _ => (exact_readArray 32).reads trivial)).bind ?_
  refine (reads_readBool _).bind ?_
  refine ((exact_readArray 32).reads trivial).bind ?_
  exact (exact_readU64.reads trivial).bind_nil (.pure lane)

theorem decodeIndexedLane_encode {lane : IndexedLane} (h : LaneStorable lane) :
    decodeIndexedLane (encodeIndexedLane lane) = .ok lane := by
  refine run_ensureConsumed (reads_indexedLane lane) ?_
  refine unit_bind_eq_ok.mpr ⟨failIf_eq_ok.mpr h.laneId, ?_⟩
  refine unit_bind_eq_ok.mpr ⟨failIf_eq_ok.mpr h.stateDigest, ?_⟩
  exact unit_bind_eq_ok.mpr ⟨failIf_eq_ok.mpr h.scanTag, rfl⟩

lemma laneStorable_of_validate {entry : IndexedCovenant} {lane : IndexedLane}
    (h : validateIndexedLane entry lane = .ok ()) : LaneStorable lane := by
  obtain ⟨hid, h⟩ := unit_bind_eq_ok.mp h
  obtain ⟨hdigest, h⟩ := unit_bind_eq_ok.mp h
  obtain ⟨htag, -⟩ := unit_bind_eq_ok.mp h
  exact ⟨failIf_eq_ok.mp hid, failIf_eq_ok.mp hdigest, failIf_eq_ok.mp htag⟩

end Records

section Lanes

def InMemoryIndexer.laneById (ix : InMemoryIndexer) (laneId : Bytes32) : Option IndexedLane :=
  ix.lanes.get? laneId

def InMemoryIndexer.laneByScanTag (ix : InMemoryIndexer) (scanTag : Bytes32) : Option IndexedLane :=
  (ix.laneScanTags.get? scanTag).bind ix.lanes.get?

/-- The trees of the persistent indexer that hold covenants and lanes. -/
structure SledStore (T : Type) where
  covenants : T
  lanes : T

variable {T : Type} (tree : TreeOps T) (H : List UInt8 → Bytes32)

def storeLane (s : SledStore T) (lane : IndexedLane) : SledStore T :=
  { s with lanes := tree.insert s.lanes lane.laneId.toList (encodeIndexedLane lane) }

def sledRegisterLane (s : SledStore T) (lane : IndexedLane) :
    Except IndexerError Unit × SledStore T :=
  match loadEntry tree H s.covenants lane.covenantId with
  | .error e => (.error e, s)
  | .ok none => (.error (.notIndexed lane.covenantId), s)
  | .ok (some entry) =>
      match validateIndexedLane entry lane with
      | .error e => (.error e, s)
      | .ok _ => (.ok (), storeLane tree s lane)

def sledLaneById (s : SledStore T) (laneId : Bytes32) : Option IndexedLane :=
  match readRecord tree decodeIndexedLane s.lanes laneId.toList with
  | .ok lane => lane
  | .error _ => none

def recordWithTag (scanTag : Bytes32) (item : List UInt8 × List UInt8) : Option IndexedLane :=
  match decodeIndexedLane item.2 with
  | .ok lane => if lane.scanTag = some scanTag then some lane else none
  | .error _ => none

def sledLaneByScanTag (s : SledStore T) (scanTag : Bytes32) : Option IndexedLane :=
  (tree.iter s.lanes).findSome? (recordWithTag scanTag)

end Lanes

section Calls
variable {T : Type} (tree : TreeOps T) (H : List UInt8 → Bytes32)

/-- A call on both indexers: a registration, or a call that concerns covenants. -/
inductive LaneCall where
  | store (call : StoreCall)
  | registerLane (lane : IndexedLane)

/-- The empty indexers. -/
def emptyStores : InMemoryIndexer × SledStore T := (InMemoryIndexer.new, ⟨tree.empty, tree.empty⟩)

/-- Both indexers take the same call. -/
def laneStep (p : InMemoryIndexer × SledStore T) :
    LaneCall → (StoreAnswer × StoreAnswer) × (InMemoryIndexer × SledStore T)
  | .store call =>
      let inMemory := inMemoryStep H p.1 call
      let sled := sledStep H tree p.2.covenants call
      ((inMemory.1, sled.1), (inMemory.2, { p.2 with covenants := sled.2 }))
  | .registerLane lane =>
      let inMemory := registerLane p.1 lane
      let sled := sledRegisterLane tree H p.2 lane
      ((.update inMemory.1, .update sled.1), (inMemory.2, sled.2))

/-- Both indexers accept the registration. -/
def RegistrationAccepted (p : InMemoryIndexer × SledStore T) : LaneCall → Prop
  | .store _ => True
  | .registerLane lane =>
      (registerLane p.1 lane).1 = .ok () ∧ (sledRegisterLane tree H p.2 lane).1 = .ok ()

/-- The registration takes no tag from a lane with a smaller id, and drops no tag that another lane
carries. -/
def LeavesTags (p : InMemoryIndexer × SledStore T) : LaneCall → Prop
  | .store _ => True
  | .registerLane lane => CleanPut IndexedLane.scanTag p.1.lanes lane.laneId lane

/-- An answer for a tag: a stored lane that carries it now, or none when no lane does. -/
def Finds (byId : Bytes32 → Option IndexedLane) (scanTag : Bytes32) : Option IndexedLane → Prop
  | some lane => byId lane.laneId = some lane ∧ lane.scanTag = some scanTag
  | none => ∀ id lane, byId id = some lane → lane.scanTag ≠ some scanTag

/-- Both indexers find the lanes of every tag, and find the same. -/
def DiscoveryRight (p : InMemoryIndexer × SledStore T) : Prop :=
  ∀ scanTag,
    Finds (InMemoryIndexer.laneById p.1) scanTag (InMemoryIndexer.laneByScanTag p.1 scanTag) ∧
    Finds (sledLaneById tree p.2) scanTag (sledLaneByScanTag tree p.2 scanTag) ∧
    InMemoryIndexer.laneByScanTag p.1 scanTag = sledLaneByScanTag tree p.2 scanTag

end Calls

section Invariant
variable {T : Type} {tree : TreeOps T} {H : List UInt8 → Bytes32}

/-- The lanes of the in-memory indexer with their index. -/
def laneTable (ix : InMemoryIndexer) : Table Bytes32 IndexedLane Bytes32 :=
  ⟨ix.lanes, ix.laneScanTags⟩

/-- The index is sound, every lane stands under its id and both indexers hold the same lanes. -/
structure LanesAgree (tree : TreeOps T) (p : InMemoryIndexer × SledStore T) : Prop where
  sound : Sound IndexedLane.scanTag (laneTable p.1)
  keyed : ∀ id lane, p.1.lanes.get? id = some lane → lane.laneId = id
  storable : ∀ id lane, p.1.lanes.get? id = some lane → LaneStorable lane
  stored : ∀ id : Bytes32,
    tree.get p.2.lanes id.toList = (p.1.lanes.get? id).map encodeIndexedLane
  others : ∀ k : List UInt8, k.length ≠ 32 → tree.get p.2.lanes k = none

lemma registerLane_inv {ix : InMemoryIndexer} {lane : IndexedLane}
    (h : (registerLane ix lane).1 = .ok ()) :
    LaneStorable lane ∧
      laneTable (registerLane ix lane).2 =
        put IndexedLane.scanTag (laneTable ix) lane.laneId lane := by
  unfold registerLane at h ⊢
  cases hentry : ix.map.get? lane.covenantId with
  | none =>
    simp only [hentry] at h
    cases h
  | some entry =>
    cases hvalid : validateIndexedLane entry lane with
    | error e =>
      simp only [hentry, hvalid] at h
      cases h
    | ok _ =>
      refine ⟨laneStorable_of_validate hvalid, ?_⟩
      simp only [hvalid, laneTable, put, dropTag]
      cases lane.scanTag <;> cases (ix.lanes.get? lane.laneId).bind IndexedLane.scanTag <;> rfl

lemma sledRegisterLane_inv {s : SledStore T} {lane : IndexedLane}
    (h : (sledRegisterLane tree H s lane).1 = .ok ()) :
    (sledRegisterLane tree H s lane).2 = storeLane tree s lane := by
  unfold sledRegisterLane at h ⊢
  rcases hload : loadEntry tree H s.covenants lane.covenantId with e | (_ | entry)
  · simp only [hload] at h
    cases h
  · simp only [hload] at h
    cases h
  · cases hvalid : validateIndexedLane entry lane with
    | error e =>
      simp only [hload, hvalid] at h
      cases h
    | ok _ => simp only [hvalid]

lemma withEntry_laneTable (ix : InMemoryIndexer) (covenant : Bytes32)
    (f : IndexedCovenant → Except IndexerError Unit × IndexedCovenant) :
    laneTable (withEntry ix covenant f).2 = laneTable ix := by
  unfold withEntry
  split <;> rfl

lemma inMemoryStep_laneTable (ix : InMemoryIndexer) (call : StoreCall) :
    laneTable (inMemoryStep H ix call).2 = laneTable ix := by
  cases call with
  | update u =>
    cases u with
    | openCovenant chain covenant lineage initial openOutpoint daaScore =>
      show laneTable (openCovenant ix chain covenant lineage initial openOutpoint daaScore).2 = _
      unfold openCovenant
      split_ifs <;> rfl
    | applySpend call => exact withEntry_laneTable ix call.covenant _
    | applySpendWithContinuation call continuation =>
      exact withEntry_laneTable ix call.covenant _
    | applySpendWithContinuationAndPolicyMigration call continuation policyMigration =>
      exact withEntry_laneTable ix call.covenant _
    | rollback covenant depth => exact withEntry_laneTable ix covenant _
    | recordAllocationAuditCertificate covenant receiptId certificate =>
      exact withEntry_laneTable ix covenant _
  | lookup | latestState | openOutpoint | hasReplay | list | reopen => rfl

lemma lanesAgree_new (hfaithful : tree.Faithful) :
    LanesAgree tree (emptyStores tree) where
  sound := fun _ _ h => by cases h
  keyed := fun _ _ h => by cases h
  storable := fun _ _ h => by cases h
  stored := fun id => hfaithful.get_empty id.toList
  others := fun k _ => hfaithful.get_empty k

lemma LanesAgree.congr {p q : InMemoryIndexer × SledStore T} (h : LanesAgree tree p)
    (htable : laneTable q.1 = laneTable p.1) (hlanes : q.2.lanes = p.2.lanes) :
    LanesAgree tree q := by
  obtain ⟨hrows, -⟩ := Table.mk.inj htable
  exact ⟨htable ▸ h.sound, hrows ▸ h.keyed, hrows ▸ h.storable, hrows ▸ hlanes ▸ h.stored,
    hlanes ▸ h.others⟩

lemma LanesAgree.register (hfaithful : tree.Faithful) {p q : InMemoryIndexer × SledStore T}
    {lane : IndexedLane} (h : LanesAgree tree p) (hlane : LaneStorable lane)
    (htable : laneTable q.1 = put IndexedLane.scanTag (laneTable p.1) lane.laneId lane)
    (hlanes : q.2 = storeLane tree p.2 lane) : LanesAgree tree q := by
  have hrows : q.1.lanes = p.1.lanes.insert lane.laneId lane := (Table.mk.inj htable).1
  have hstored : q.2.lanes = tree.insert p.2.lanes lane.laneId.toList (encodeIndexedLane lane) :=
    congrArg SledStore.lanes hlanes
  refine ⟨htable ▸ h.sound.put, ?_, ?_, ?_, ?_⟩
  · intro id other hother
    rw [hrows, OrderedMap.get?_insert] at hother
    split_ifs at hother with hid
    · rw [← Option.some.inj hother, hid]
    · exact h.keyed id other hother
  · intro id other hother
    rw [hrows, OrderedMap.get?_insert] at hother
    split_ifs at hother with hid
    · exact Option.some.inj hother ▸ hlane
    · exact h.storable id other hother
  · intro id
    rw [hrows, hstored, hfaithful.get_insert, OrderedMap.get?_insert]
    simp only [Bytes.toList_inj]
    split_ifs
    · rfl
    · exact h.stored id
  · intro k hk
    have hne : lane.laneId.toList ≠ k := fun heq => hk (heq ▸ lane.laneId.length_toList)
    rw [hstored, hfaithful.get_insert, if_neg hne, h.others k hk]

lemma LanesAgree.step (hfaithful : tree.Faithful) (p : InMemoryIndexer × SledStore T)
    (call : LaneCall) (h : LanesAgree tree p) (haccepted : RegistrationAccepted tree H p call) :
    LanesAgree tree (laneStep tree H p call).2 := by
  cases call with
  | store call => exact h.congr (inMemoryStep_laneTable p.1 call) rfl
  | registerLane lane =>
    obtain ⟨hlane, htable⟩ := registerLane_inv haccepted.1
    exact h.register hfaithful hlane htable (sledRegisterLane_inv haccepted.2)

end Invariant

section Scans
variable {T : Type} {tree : TreeOps T} {p : InMemoryIndexer × SledStore T}

lemma LanesAgree.sledLaneById_eq (h : LanesAgree tree p) (id : Bytes32) :
    sledLaneById tree p.2 id = InMemoryIndexer.laneById p.1 id := by
  unfold sledLaneById readRecord InMemoryIndexer.laneById
  rw [h.stored id]
  cases hid : p.1.lanes.get? id with
  | none => rfl
  | some lane =>
    simp only [Option.map_some, decodeIndexedLane_encode (h.storable id lane hid)]
    rfl

lemma LanesAgree.iter_eq (hfaithful : tree.Faithful) (h : LanesAgree tree p) :
    tree.iter p.2.lanes =
      p.1.lanes.entries.map (fun e => (e.1.toList, encodeIndexedLane e.2)) := by
  have hsorted : (p.1.lanes.entries.map
      (fun e => (e.1.toList, encodeIndexedLane e.2))).Pairwise (fun x y => x.1 < y.1) :=
    List.pairwise_map.mpr (p.1.lanes.sorted.imp (fun hlt => bytes_lt_iff.mp hlt))
  refine OrderedMap.eq_of_lookup_eq (hfaithful.iter_sorted p.2.lanes) hsorted (fun k => ?_)
  refine Option.ext (fun bytes => ?_)
  rw [OrderedMap.lookup_eq_some_iff (hfaithful.iter_sorted p.2.lanes),
    OrderedMap.lookup_eq_some_iff hsorted, hfaithful.mem_iter]
  constructor
  · intro hget
    have hlen : k.length = 32 := by
      by_contra hlen
      rw [h.others k hlen] at hget
      cases hget
    have hkey := h.stored ⟨k, hlen⟩
    rw [show tree.get p.2.lanes (⟨k, hlen⟩ : Bytes32).toList = some bytes from hget] at hkey
    obtain ⟨lane, hlane, rfl⟩ := Option.map_eq_some_iff.mp hkey.symm
    exact List.mem_map.mpr ⟨(⟨k, hlen⟩, lane),
      (OrderedMap.lookup_eq_some_iff p.1.lanes.sorted).mp hlane, rfl⟩
  · intro hmem
    obtain ⟨⟨id, lane⟩, hlane, heq⟩ := List.mem_map.mp hmem
    obtain ⟨rfl, rfl⟩ := Prod.mk.inj heq
    have hget : p.1.lanes.get? id = some lane :=
      (OrderedMap.lookup_eq_some_iff p.1.lanes.sorted).mpr hlane
    rw [h.stored id, hget]
    rfl

lemma findSome?_records {scanTag : Bytes32} {entries : List (Bytes32 × IndexedLane)}
    (h : ∀ e ∈ entries, LaneStorable e.2) :
    (entries.map (fun e => (e.1.toList, encodeIndexedLane e.2))).findSome?
        (recordWithTag scanTag) =
      (entries.find? (fun e => e.2.scanTag = some scanTag)).map Prod.snd := by
  induction entries with
  | nil => rfl
  | cons e entries ih =>
    obtain ⟨he, hrest⟩ := List.forall_mem_cons.mp h
    rw [List.map_cons, List.findSome?_cons, List.find?_cons, recordWithTag,
      decodeIndexedLane_encode he]
    by_cases htag : e.2.scanTag = some scanTag
    · simp [htag]
    · simp [htag, ih hrest]

/-- The persistent indexer answers with the first lane that carries the tag. -/
lemma LanesAgree.sledLaneByScanTag_eq (hfaithful : tree.Faithful) (h : LanesAgree tree p)
    (scanTag : Bytes32) :
    sledLaneByScanTag tree p.2 scanTag = scan IndexedLane.scanTag p.1.lanes scanTag := by
  rw [sledLaneByScanTag, h.iter_eq hfaithful]
  have hstorable : ∀ e ∈ p.1.lanes.entries, LaneStorable e.2 := fun e he =>
    h.storable e.1 e.2 ((OrderedMap.lookup_eq_some_iff p.1.lanes.sorted).mpr he)
  rw [findSome?_records hstorable, scan]
  congr!

lemma LanesAgree.finds_scan (h : LanesAgree tree p) (scanTag : Bytes32) :
    Finds (InMemoryIndexer.laneById p.1) scanTag
      (scan IndexedLane.scanTag p.1.lanes scanTag) := by
  cases hscan : scan IndexedLane.scanTag p.1.lanes scanTag with
  | none =>
    intro id lane hlane htag
    have hmem : id ∈ carriers IndexedLane.scanTag p.1.lanes scanTag := ⟨lane, hlane, htag⟩
    rw [scan_eq_none_iff.mp hscan] at hmem
    exact hmem
  | some lane =>
    obtain ⟨id, ⟨⟨other, hother, htag⟩, -⟩, hlane⟩ := scan_spec hscan
    obtain rfl := Option.some.inj (hother.symm.trans hlane)
    rw [← h.keyed id other hlane] at hlane
    exact ⟨hlane, htag⟩

/-- Discovery is right exactly when the index leads to the first lane of every tag. -/
lemma LanesAgree.discoveryRight_iff (hfaithful : tree.Faithful) (h : LanesAgree tree p) :
    DiscoveryRight tree p ↔ ∀ scanTag, IndexesAt IndexedLane.scanTag (laneTable p.1) scanTag := by
  have hbyId : sledLaneById tree p.2 = InMemoryIndexer.laneById p.1 := funext h.sledLaneById_eq
  unfold DiscoveryRight
  refine forall_congr' (fun scanTag => ?_)
  rw [hbyId, h.sledLaneByScanTag_eq hfaithful]
  constructor
  · rintro ⟨-, -, heq⟩
    refine indexesAt_of_find_eq_scan h.sound ?_ heq
    intro j k lane hj hk
    rw [← h.keyed j lane hj, ← h.keyed k lane hk]
  · intro hindex
    have heq : InMemoryIndexer.laneByScanTag p.1 scanTag =
        scan IndexedLane.scanTag p.1.lanes scanTag := hindex.find_eq_scan
    rw [heq]
    exact ⟨h.finds_scan scanTag, h.finds_scan scanTag, rfl⟩

end Scans

section Runs
variable {T : Type} {tree : TreeOps T} {H : List UInt8 → Bytes32}

/-- A call keeps discovery right exactly when it leaves the tags of other lanes alone. -/
lemma discoveryRight_step_iff (hfaithful : tree.Faithful) (p : InMemoryIndexer × SledStore T)
    (call : LaneCall) (h : LanesAgree tree p) (haccepted : RegistrationAccepted tree H p call)
    (hright : DiscoveryRight tree p) :
    DiscoveryRight tree (laneStep tree H p call).2 ↔ LeavesTags p call := by
  have hnext := h.step hfaithful p call haccepted
  rw [hnext.discoveryRight_iff hfaithful]
  have hindexes := (h.discoveryRight_iff hfaithful).mp hright
  cases call with
  | store call =>
    rw [show laneTable (laneStep tree H p (.store call)).2.1 = laneTable p.1 from
      inMemoryStep_laneTable p.1 call]
    exact iff_of_true hindexes trivial
  | registerLane lane =>
    rw [show laneTable (laneStep tree H p (.registerLane lane)).2.1 =
      put IndexedLane.scanTag (laneTable p.1) lane.laneId lane from
        (registerLane_inv haccepted.1).2]
    exact indexes_put_iff hindexes

end Runs

/-- In a run of accepted registrations discovery stays right exactly when every registration leaves
the tags of the other lanes alone. -/
theorem discovery_right_iff {T : Type} {tree : TreeOps T} (hfaithful : tree.Faithful)
    (H : List UInt8 → Bytes32) (calls : List LaneCall)
    (haccepted : AlongRun (laneStep tree H) (RegistrationAccepted tree H) (emptyStores tree)
      calls) :
    (∀ done, done <+: calls →
        DiscoveryRight tree (stateAfter (laneStep tree H) (emptyStores tree) done)) ↔
      AlongRun (laneStep tree H) LeavesTags (emptyStores tree) calls := by
  have hagree := lanesAgree_new hfaithful
  refine alongRun_iff_prefixes (LanesAgree.step hfaithful) (discoveryRight_step_iff hfaithful)
    hagree ?_ haccepted
  rw [hagree.discoveryRight_iff hfaithful]
  intro scanTag id
  refine iff_of_false nofun ?_
  rintro ⟨⟨lane, hlane, -⟩, -⟩
  cases hlane

section Samples

def sampleTagLane (id : UInt8) (tag : Option UInt8) : IndexedLane :=
  ⟨.kaspaSimnet, Bytes.fill 32 0x22, Bytes.fill 32 0x11, Bytes.fill 32 id, 1,
    tag.map (Bytes.fill 32), false, Bytes.fill 32 1, 100⟩

/-- Open a covenant and register lanes on it. -/
def laneCalls (lanes : List IndexedLane) : List LaneCall :=
  .store (.update (.openCovenant .kaspaSimnet (Bytes.fill 32 0x22) (Bytes.fill 32 0x33)
    (sampleSledState 1) ⟨Bytes.fill 32 1, 0⟩ 100)) :: lanes.map .registerLane

/-- The indexers after these calls. -/
def laneStores (lanes : List IndexedLane) :
    InMemoryIndexer × SledStore (OrderedMap (List UInt8) (List UInt8)) :=
  stateAfter (laneStep mapTree Sha256.digest) (emptyStores mapTree) (laneCalls lanes)

end Samples

/-- Two lanes with tags of their own, one of which then takes another tag. -/
theorem discovery_right_iff_sample :
    AlongRun (laneStep mapTree Sha256.digest) (RegistrationAccepted mapTree Sha256.digest)
        (emptyStores mapTree) (laneCalls [sampleTagLane 1 (some 5), sampleTagLane 2 (some 6),
          sampleTagLane 1 (some 7)]) ∧
      ∀ done, done <+: laneCalls [sampleTagLane 1 (some 5), sampleTagLane 2 (some 6),
          sampleTagLane 1 (some 7)] →
        DiscoveryRight mapTree (stateAfter (laneStep mapTree Sha256.digest) (emptyStores mapTree)
          done) := by
  have haccepted : AlongRun (laneStep mapTree Sha256.digest)
      (RegistrationAccepted mapTree Sha256.digest) (emptyStores mapTree)
      (laneCalls [sampleTagLane 1 (some 5), sampleTagLane 2 (some 6),
        sampleTagLane 1 (some 7)]) := by
    refine ⟨trivial, ⟨?_, ?_⟩, ⟨?_, ?_⟩, ⟨?_, ?_⟩, trivial⟩
    all_goals decide +kernel
  refine ⟨haccepted, (discovery_right_iff mapTree_faithful Sha256.digest _ haccepted).mpr ?_⟩
  refine ⟨trivial, ?_, ?_, ?_, trivial⟩
  all_goals
    show CleanPut _ _ _ _
    decide +kernel

/-- Two lanes share a tag, and the second one then gives it up. All registrations are accepted. The
in-memory indexer first answers with the second lane, where the persistent one answers with the
first, and then finds no lane, though the first still carries the tag. -/
theorem shared_tag_lost :
    AlongRun (laneStep mapTree Sha256.digest) (RegistrationAccepted mapTree Sha256.digest)
        (emptyStores mapTree)
        (laneCalls [sampleTagLane 1 (some 5), sampleTagLane 2 (some 5), sampleTagLane 2 none]) ∧
      InMemoryIndexer.laneByScanTag
          (laneStores [sampleTagLane 1 (some 5), sampleTagLane 2 (some 5)]).1 (Bytes.fill 32 5) =
        some (sampleTagLane 2 (some 5)) ∧
      sledLaneByScanTag mapTree
          (laneStores [sampleTagLane 1 (some 5), sampleTagLane 2 (some 5)]).2 (Bytes.fill 32 5) =
        some (sampleTagLane 1 (some 5)) ∧
      InMemoryIndexer.laneById (laneStores [sampleTagLane 1 (some 5), sampleTagLane 2 (some 5),
          sampleTagLane 2 none]).1 (Bytes.fill 32 1) = some (sampleTagLane 1 (some 5)) ∧
      InMemoryIndexer.laneByScanTag (laneStores [sampleTagLane 1 (some 5),
          sampleTagLane 2 (some 5), sampleTagLane 2 none]).1 (Bytes.fill 32 5) = none ∧
      sledLaneByScanTag mapTree (laneStores [sampleTagLane 1 (some 5), sampleTagLane 2 (some 5),
          sampleTagLane 2 none]).2 (Bytes.fill 32 5) = some (sampleTagLane 1 (some 5)) := by
  refine ⟨⟨trivial, ⟨?_, ?_⟩, ⟨?_, ?_⟩, ⟨?_, ?_⟩, trivial⟩, ?_, ?_, ?_, ?_, ?_⟩
  all_goals decide +kernel

end RgkProtocol.LaneDiscovery
