import RgkProtocol.IndexerRecords
import Mathlib.Data.List.Sort

/-!
# The persistent indexer

The persistent indexer keeps every entry as a record in a tree of a key-value store. It loads the
record, runs the same function on the entry as the in-memory indexer does, and stores the record
again. Over a faithful tree the two answer every sequence of calls alike, with the database
reopened between any two of them.
-/
namespace RgkProtocol.SledIndexer
open ByteStrings Hashing CoreTypes Checked CanonicalEncoding IndexerState IndexerOps IndexerHistory
open IndexerInvariant IndexerRebuild IndexerRecords Simulation

section Trees

/-- The operations of a key-value tree that the indexer uses. -/
structure TreeOps (T : Type) where
  empty : T
  get : T → List UInt8 → Option (List UInt8)
  insert : T → List UInt8 → List UInt8 → T
  iter : T → List (List UInt8 × List UInt8)

/-- The tree is a map that iterates in the order of its keys. -/
structure TreeOps.Faithful {T : Type} (tree : TreeOps T) : Prop where
  get_empty : ∀ k, tree.get tree.empty k = none
  get_insert : ∀ t k v j, tree.get (tree.insert t k v) j = if k = j then some v else tree.get t j
  mem_iter : ∀ t k v, (k, v) ∈ tree.iter t ↔ tree.get t k = some v
  iter_sorted : ∀ t, (tree.iter t).Pairwise (fun x y => x.1 < y.1)

/-- Look up a key and decode the record found there. -/
def readRecord {T α : Type} (tree : TreeOps T) (decode : List UInt8 → Except IndexerError α) (t : T)
    (key : List UInt8) : Except IndexerError (Option α) :=
  match tree.get t key with
  | none => .ok none
  | some bytes => (decode bytes).map some

lemma TreeOps.Faithful.readRecord_insert {T α : Type} {tree : TreeOps T} (hfaithful : tree.Faithful)
    {decode : List UInt8 → Except IndexerError α} {bytes : List UInt8} {a : α}
    (hdecode : decode bytes = .ok a) (t : T) (k j : List UInt8) :
    readRecord tree decode (tree.insert t k bytes) j =
      if k = j then .ok (some a) else readRecord tree decode t j := by
  simp only [readRecord, hfaithful.get_insert]
  split_ifs
  · simp only [hdecode]
    rfl
  · rfl

instance byteLinearOrder : LinearOrder UInt8 where
  le_refl := UInt8.le_refl
  le_trans := fun _ _ _ => UInt8.le_trans
  le_antisymm := fun _ _ => UInt8.le_antisymm
  le_total := UInt8.le_total
  lt_iff_le_not_ge := by
    intro a b
    rw [UInt8.lt_iff_toNat_lt, UInt8.le_iff_toNat_le, UInt8.le_iff_toNat_le]
    omega
  toDecidableLE := inferInstance

/-- A tree kept as an ordered map. -/
def mapTree : TreeOps (OrderedMap (List UInt8) (List UInt8)) where
  empty := OrderedMap.empty
  get := OrderedMap.get?
  insert := OrderedMap.insert
  iter := OrderedMap.entries

lemma mapTree_faithful : mapTree.Faithful where
  get_empty := OrderedMap.get?_empty
  get_insert := by
    intro t k v j
    refine (OrderedMap.get?_insert t k j v).trans ?_
    congr
  mem_iter := fun t _ _ => (OrderedMap.lookup_eq_some_iff t.sorted).symm
  iter_sorted := OrderedMap.sorted

end Trees

section Operations
variable {T : Type} (tree : TreeOps T) (H : List UInt8 → Bytes32)

def loadEntry (s : T) (covenant : Bytes32) : Except IndexerError (Option IndexedCovenant) :=
  readRecord tree (decodeIndexedCovenant H) s covenant.toList

def storeEntry (s : T) (entry : IndexedCovenant) : Except IndexerError Unit × T :=
  match encodeIndexedCovenant entry with
  | .error e => (.error e, s)
  | .ok bytes => (.ok (), tree.insert s entry.covenantId.toList bytes)

/-- Load an entry, run a function on it, and store what it leaves when it succeeds. -/
def sledWithEntry (s : T) (covenant : Bytes32)
    (f : IndexedCovenant → Except IndexerError Unit × IndexedCovenant) :
    Except IndexerError Unit × T :=
  match loadEntry tree H s covenant with
  | .error e => (.error e, s)
  | .ok none => (.error (.notIndexed covenant), s)
  | .ok (some entry) =>
      match f entry with
      | (.error e, _) => (.error e, s)
      | (.ok _, entry) => storeEntry tree s entry

def sledOpen (s : T) (chain : KaspaChainId) (covenant lineage : Bytes32)
    (initial : RgkStateCommitment) (openOutpoint : KaspaOutpoint) (daaScore : UInt64) :
    Except IndexerError Unit × T :=
  match loadEntry tree H s covenant with
  | .error e => (.error e, s)
  | .ok (some _) => (.error (.alreadyIndexed covenant), s)
  | .ok none =>
      if initial.chainId ≠ chain then (.error (.chainMismatch initial.chainId chain), s)
      else if initial.covenantId ≠ covenant then
        (.error (.lineageMismatch initial.covenantId covenant), s)
      else storeEntry tree s
        (IndexedCovenant.opened covenant chain lineage initial openOutpoint daaScore)

/-- A spend as a function on the entry that reports its error. -/
def spendOnEntry (call : SpendCall) (continuation : Option ContinuationProof)
    (policyMigration : Option PolicyMigrationProof) (entry : IndexedCovenant) :
    Except IndexerError Unit × IndexedCovenant :=
  match applySpendToEntry H entry call continuation policyMigration with
  | .ok entry => (.ok (), entry)
  | .error e => (.error e, entry)

def sledLookup (s : T) (covenant : Bytes32) : Option IndexedCovenant :=
  match loadEntry tree H s covenant with
  | .ok entry => entry
  | .error _ => none

def sledList (s : T) : List Bytes32 :=
  (tree.iter s).filterMap (fun item => if h : item.1.length = 32 then some ⟨item.1, h⟩ else none)

end Operations

section Calls

/-- The calls that change entries. -/
inductive EntryUpdate where
  | openCovenant (chain : KaspaChainId) (covenant lineage : Bytes32) (initial : RgkStateCommitment)
      (openOutpoint : KaspaOutpoint) (daaScore : UInt64)
  | applySpend (call : SpendCall)
  | applySpendWithContinuation (call : SpendCall) (continuation : ContinuationProof)
  | applySpendWithContinuationAndPolicyMigration (call : SpendCall)
      (continuation : ContinuationProof) (policyMigration : PolicyMigrationProof)
  | rollback (covenant : Bytes32) (depth : UInt64)
  | recordAllocationAuditCertificate (covenant receiptId : Bytes32)
      (certificate : AllocationAuditCertificateRecord)

/-- A call on either indexer, or a reopening of the database. -/
inductive StoreCall where
  | update (u : EntryUpdate)
  | lookup (covenant : Bytes32)
  | latestState (covenant : Bytes32)
  | openOutpoint (covenant : Bytes32)
  | hasReplay (covenant receiptId : Bytes32)
  | list
  | reopen

inductive StoreAnswer where
  | update (result : Except IndexerError Unit)
  | lookup (entry : Option IndexedCovenant)
  | latestState (state : Option RgkStateCommitment)
  | openOutpoint (outpoint : Option KaspaOutpoint)
  | hasReplay (found : Bool)
  | list (covenants : List Bytes32)
  | reopen

/-- The state commitment that a call brings is structurally valid. -/
def StoreCall.StatesValid : StoreCall → Prop
  | .update (.openCovenant _ _ _ initial _ _) =>
      RgkStateCommitment.validateStructure initial = .ok ()
  | .update (.applySpend call) => RgkStateCommitment.validateStructure call.newState = .ok ()
  | .update (.applySpendWithContinuation call _) =>
      RgkStateCommitment.validateStructure call.newState = .ok ()
  | .update (.applySpendWithContinuationAndPolicyMigration call _ _) =>
      RgkStateCommitment.validateStructure call.newState = .ok ()
  | _ => True

variable (H : List UInt8 → Bytes32)

def EntryUpdate.op : EntryUpdate → IndexerOp
  | .openCovenant chain covenant lineage initial openOutpoint daaScore =>
      .openCovenant chain covenant lineage initial openOutpoint daaScore
  | .applySpend call => .applySpend call
  | .applySpendWithContinuation call continuation => .applySpendWithContinuation call continuation
  | .applySpendWithContinuationAndPolicyMigration call continuation policyMigration =>
      .applySpendWithContinuationAndPolicyMigration call continuation policyMigration
  | .rollback covenant depth => .rollback covenant depth
  | .recordAllocationAuditCertificate covenant receiptId certificate =>
      .recordAllocationAuditCertificate covenant receiptId certificate

def inMemoryStep (ix : InMemoryIndexer) : StoreCall → StoreAnswer × InMemoryIndexer
  | .update u => (.update (IndexerOp.apply H ix u.op).1, (IndexerOp.apply H ix u.op).2)
  | .lookup covenant => (.lookup (InMemoryIndexer.lookup ix covenant), ix)
  | .latestState covenant => (.latestState (InMemoryIndexer.latestState ix covenant), ix)
  | .openOutpoint covenant => (.openOutpoint (InMemoryIndexer.openOutpoint ix covenant), ix)
  | .hasReplay covenant receiptId =>
      (.hasReplay (InMemoryIndexer.hasReplay ix covenant receiptId), ix)
  | .list => (.list ix.map.keys, ix)
  | .reopen => (.reopen, ix)

variable {T : Type} (tree : TreeOps T)

def EntryUpdate.sled (s : T) : EntryUpdate → Except IndexerError Unit × T
  | .openCovenant chain covenant lineage initial openOutpoint daaScore =>
      sledOpen tree H s chain covenant lineage initial openOutpoint daaScore
  | .applySpend call => sledWithEntry tree H s call.covenant (spendOnEntry H call none none)
  | .applySpendWithContinuation call continuation =>
      sledWithEntry tree H s call.covenant (spendOnEntry H call (some continuation) none)
  | .applySpendWithContinuationAndPolicyMigration call continuation policyMigration =>
      sledWithEntry tree H s call.covenant
        (spendOnEntry H call (some continuation) (some policyMigration))
  | .rollback covenant depth => sledWithEntry tree H s covenant (rollbackEntry depth)
  | .recordAllocationAuditCertificate covenant receiptId certificate =>
      sledWithEntry tree H s covenant (recordCertificateOnEntry receiptId certificate)

/-- Reopening finds the trees as they were left. -/
def sledStep (s : T) : StoreCall → StoreAnswer × T
  | .update u => (.update (EntryUpdate.sled H tree s u).1, (EntryUpdate.sled H tree s u).2)
  | .lookup covenant => (.lookup (sledLookup tree H s covenant), s)
  | .latestState covenant =>
      (.latestState ((sledLookup tree H s covenant).map IndexedCovenant.latestState), s)
  | .openOutpoint covenant =>
      (.openOutpoint ((sledLookup tree H s covenant).bind IndexedCovenant.openOutpoint), s)
  | .hasReplay covenant receiptId =>
      (.hasReplay (match sledLookup tree H s covenant with
        | some e => decide (receiptId ∈ e.acceptedReceipts)
        | none => false), s)
  | .list => (.list (sledList tree s), s)
  | .reopen => (.reopen, s)

end Calls

section Refinement
variable {T : Type} {tree : TreeOps T} {H : List UInt8 → Bytes32}

/-- The tree holds the record of every entry and nothing else. -/
structure Refines (tree : TreeOps T) (H : List UInt8 → Bytes32) (ix : InMemoryIndexer) (s : T) :
    Prop where
  stored : ∀ c : Bytes32, tree.get s c.toList = (ix.map.get? c).map entryBytes
  others : ∀ k : List UInt8, k.length ≠ 32 → tree.get s k = none
  storable : ∀ c e, ix.map.get? c = some e → Storable H c e
  fits : ∀ c e, ix.map.get? c = some e → LengthsFit e

lemma refines_new (hfaithful : tree.Faithful) : Refines tree H InMemoryIndexer.new tree.empty where
  stored := fun c => hfaithful.get_empty c.toList
  others := fun k _ => hfaithful.get_empty k
  storable := fun _ _ h => by cases h
  fits := fun _ _ h => by cases h

lemma Refines.loadEntry_eq {ix : InMemoryIndexer} {s : T} (h : Refines tree H ix s) (c : Bytes32) :
    loadEntry tree H s c = .ok (ix.map.get? c) := by
  unfold loadEntry readRecord
  rw [h.stored c]
  cases hc : ix.map.get? c with
  | none => rfl
  | some e =>
    have hdecode := decodeIndexedCovenant_entryBytes (h.storable c e hc) (h.fits c e hc)
    simp only [Option.map_some, hdecode]
    rfl

lemma Refines.sledLookup_eq {ix : InMemoryIndexer} {s : T} (h : Refines tree H ix s)
    (c : Bytes32) : sledLookup tree H s c = ix.map.get? c := by
  rw [sledLookup, h.loadEntry_eq c]

lemma Refines.insert (hfaithful : tree.Faithful) {ix : InMemoryIndexer} {s : T} {c : Bytes32}
    {e : IndexedCovenant} (h : Refines tree H ix s) (hs : Storable H c e) (hfits : LengthsFit e) :
    Refines tree H { ix with map := ix.map.insert c e }
      (tree.insert s c.toList (entryBytes e)) where
  stored := by
    intro d
    simp only [hfaithful.get_insert, OrderedMap.get?_insert, Bytes.toList_inj]
    split_ifs
    · rfl
    · exact h.stored d
  others := by
    intro k hk
    have hne : c.toList ≠ k := fun heq => hk (heq ▸ c.length_toList)
    rw [hfaithful.get_insert, if_neg hne, h.others k hk]
  storable := by
    intro d e' hd
    rw [OrderedMap.get?_insert] at hd
    split_ifs at hd with hcd
    · exact hcd ▸ Option.some.inj hd ▸ hs
    · exact h.storable d e' hd
  fits := by
    intro d e' hd
    rw [OrderedMap.get?_insert] at hd
    split_ifs at hd with hcd
    · exact Option.some.inj hd ▸ hfits
    · exact h.fits d e' hd

lemma storeEntry_eq {s : T} {c : Bytes32} {e : IndexedCovenant} (hs : Storable H c e) :
    storeEntry tree s e = (.ok (), tree.insert s c.toList (entryBytes e)) := by
  rw [storeEntry, encodeIndexedCovenant_eq hs]
  simp only [hs.wellFormed.covenant]

/-- The two sides of one call: the same result, and related stores after it. -/
def Agree (tree : TreeOps T) (H : List UInt8 → Bytes32)
    (a : Except IndexerError Unit × InMemoryIndexer) (b : Except IndexerError Unit × T) : Prop :=
  a.1 = b.1 ∧ Refines tree H a.2 b.2

/-- The indexer's lists have lengths that fit into the record form. -/
def AllFit (ix : InMemoryIndexer) : Prop := ∀ c e, ix.map.get? c = some e → LengthsFit e

/-- What a function on entries must do for the two indexers to agree on it: an error leaves the
entry alone, and a success leaves one that can be stored. -/
structure KeepsStorable (H : List UInt8 → Bytes32)
    (f : IndexedCovenant → Except IndexerError Unit × IndexedCovenant) : Prop where
  error : ∀ e e' err, f e = (.error err, e') → e' = e
  ok : ∀ c e e', Storable H c e → f e = (.ok (), e') → Storable H c e'

lemma withEntry_agree (hfaithful : tree.Faithful) {ix : InMemoryIndexer} {s : T} {c : Bytes32}
    {f : IndexedCovenant → Except IndexerError Unit × IndexedCovenant} (hf : KeepsStorable H f)
    (h : Refines tree H ix s) (hfits : AllFit (withEntry ix c f).2) :
    Agree tree H (withEntry ix c f) (sledWithEntry tree H s c f) := by
  unfold sledWithEntry
  rw [h.loadEntry_eq c]
  cases hc : ix.map.get? c with
  | none =>
    simp only [withEntry, hc]
    exact ⟨rfl, h⟩
  | some e =>
    simp only [withEntry, hc] at hfits ⊢
    rcases hfe : f e with ⟨_ | _, e'⟩
    · obtain rfl := hf.error e e' _ hfe
      rw [OrderedMap.insert_of_get? hc]
      exact ⟨rfl, h⟩
    · have hs := hf.ok c e e' (h.storable c e hc) hfe
      rw [hfe] at hfits
      have hfit := hfits c e' (OrderedMap.get?_insert_self _ _ _)
      simp only [storeEntry_eq hs]
      exact ⟨rfl, h.insert hfaithful hs hfit⟩

lemma keepsStorable_spend {call : SpendCall} (hv : StateValid call.newState)
    (continuation : Option ContinuationProof) (policyMigration : Option PolicyMigrationProof) :
    KeepsStorable H (spendOnEntry H call continuation policyMigration) where
  error := by
    intro e e' err he
    unfold spendOnEntry at he
    split at he
    · cases he
    · exact (Prod.mk.inj he).2.symm
  ok := by
    intro c e e' hs he
    unfold spendOnEntry at he
    split at he
    · rename_i hok
      obtain ⟨ha, rfl⟩ := applySpendToEntry_eq_ok.mp hok
      exact (Prod.mk.inj he).2 ▸ hs.afterSpend ha hv
    · cases he

lemma keepsStorable_rollback (depth : UInt64) : KeepsStorable H (rollbackEntry depth) where
  error := fun _ _ _ he => rollbackEntry_error he
  ok := fun _ _ _ hs he => hs.rollbackEntry he

lemma keepsStorable_certificate (receiptId : Bytes32)
    (certificate : AllocationAuditCertificateRecord) :
    KeepsStorable H (recordCertificateOnEntry receiptId certificate) where
  error := fun _ _ _ he => recordCertificateOnEntry_error he
  ok := fun _ _ _ hs he => hs.recordCertificate he

lemma open_agree (hfaithful : tree.Faithful) {ix : InMemoryIndexer} {s : T} {chain : KaspaChainId}
    {c lineage : Bytes32} {initial : RgkStateCommitment} {o : KaspaOutpoint} {daa : UInt64}
    (hv : StateValid initial) (h : Refines tree H ix s)
    (hfits : AllFit (openCovenant ix chain c lineage initial o daa).2) :
    Agree tree H (openCovenant ix chain c lineage initial o daa)
      (sledOpen tree H s chain c lineage initial o daa) := by
  unfold sledOpen
  rw [h.loadEntry_eq c]
  cases hc : ix.map.get? c with
  | some e =>
    simp only [openCovenant, hc, Option.isSome_some, if_true]
    exact ⟨rfl, h⟩
  | none =>
    simp only [openCovenant, hc, Option.isSome_none, Bool.false_eq_true, if_false] at hfits ⊢
    split_ifs at hfits ⊢ with hchain hcov
    · exact ⟨rfl, h⟩
    · exact ⟨rfl, h⟩
    · obtain rfl := not_not.mp hchain
      have hs : Storable H c (IndexedCovenant.opened c initial.chainId lineage initial o daa) :=
        storable_opened (not_not.mp hcov) hv
      rw [storeEntry_eq hs]
      exact ⟨rfl, h.insert hfaithful hs (hfits c _ (OrderedMap.get?_insert_self _ _ _))⟩

lemma update_agree (hfaithful : tree.Faithful) {ix : InMemoryIndexer} {s : T} {u : EntryUpdate}
    (hv : StoreCall.StatesValid (.update u)) (h : Refines tree H ix s)
    (hfits : AllFit (IndexerOp.apply H ix u.op).2) :
    Agree tree H (IndexerOp.apply H ix u.op) (EntryUpdate.sled H tree s u) := by
  cases u with
  | openCovenant chain c lineage initial o daa =>
    exact open_agree hfaithful (validateState_eq_ok.mp hv) h hfits
  | applySpend call =>
    exact withEntry_agree hfaithful (keepsStorable_spend (validateState_eq_ok.mp hv) _ _) h hfits
  | applySpendWithContinuation call continuation =>
    exact withEntry_agree hfaithful (keepsStorable_spend (validateState_eq_ok.mp hv) _ _) h hfits
  | applySpendWithContinuationAndPolicyMigration call continuation policyMigration =>
    exact withEntry_agree hfaithful (keepsStorable_spend (validateState_eq_ok.mp hv) _ _) h hfits
  | rollback c depth => exact withEntry_agree hfaithful (keepsStorable_rollback depth) h hfits
  | recordAllocationAuditCertificate c receiptId certificate =>
    exact withEntry_agree hfaithful (keepsStorable_certificate receiptId certificate) h hfits

end Refinement

section Listing
variable {T : Type} {tree : TreeOps T} {H : List UInt8 → Bytes32}

lemma mem_sledList (hfaithful : tree.Faithful) {s : T} {c : Bytes32} :
    c ∈ sledList tree s ↔ (tree.get s c.toList).isSome := by
  simp only [sledList, List.mem_filterMap, Prod.exists, Option.isSome_iff_exists,
    ← hfaithful.mem_iter]
  constructor
  · rintro ⟨k, v, hmem, hk⟩
    split_ifs at hk with hlen
    obtain rfl := Option.some.inj hk
    exact ⟨v, hmem⟩
  · rintro ⟨v, hmem⟩
    exact ⟨c.toList, v, hmem, by simp⟩

lemma sledList_sorted (hfaithful : tree.Faithful) (s : T) :
    (sledList tree s).Pairwise (· < ·) := by
  refine List.Pairwise.filterMap _ (fun x y hxy => ?_) (hfaithful.iter_sorted s)
  intro b hb b' hb'
  split_ifs at hb hb'
  obtain rfl := Option.some.inj hb
  obtain rfl := Option.some.inj hb'
  exact bytes_lt_iff.mpr hxy

lemma Refines.list_eq (hfaithful : tree.Faithful) {ix : InMemoryIndexer} {s : T}
    (h : Refines tree H ix s) : ix.map.keys = sledList tree s := by
  refine ix.map.keys_sorted.eq_of_mem_iff (sledList_sorted hfaithful s) (fun c => ?_)
  rw [mem_sledList hfaithful, h.stored c, Option.isSome_map, OrderedMap.mem_keys]

end Listing

section Runs
variable {T : Type} {tree : TreeOps T} {H : List UInt8 → Bytes32}

/-- A call with valid states after which every list length still fits. -/
def CallFits (H : List UInt8 → Bytes32) (ix : InMemoryIndexer) (call : StoreCall) : Prop :=
  call.StatesValid ∧ AllFit (inMemoryStep H ix call).2

lemma step_agree (hfaithful : tree.Faithful) (ix : InMemoryIndexer) (s : T) (call : StoreCall)
    (h : Refines tree H ix s) (hcall : CallFits H ix call) :
    (inMemoryStep H ix call).1 = (sledStep H tree s call).1 ∧
      Refines tree H (inMemoryStep H ix call).2 (sledStep H tree s call).2 := by
  cases call with
  | update u =>
    obtain ⟨hanswer, hrel⟩ := update_agree hfaithful hcall.1 h hcall.2
    exact ⟨congrArg StoreAnswer.update hanswer, hrel⟩
  | lookup c => exact ⟨congrArg StoreAnswer.lookup (h.sledLookup_eq c).symm, h⟩
  | latestState c =>
    simp only [inMemoryStep, sledStep, InMemoryIndexer.latestState, h.sledLookup_eq]
    exact ⟨trivial, h⟩
  | openOutpoint c =>
    simp only [inMemoryStep, sledStep, InMemoryIndexer.openOutpoint, h.sledLookup_eq]
    exact ⟨trivial, h⟩
  | hasReplay c receiptId =>
    refine ⟨?_, h⟩
    have hlookup := h.sledLookup_eq c
    cases hentry : ix.map.get? c with
    | none => simp only [inMemoryStep, sledStep, InMemoryIndexer.hasReplay, hlookup, hentry]
    | some e => simp only [inMemoryStep, sledStep, InMemoryIndexer.hasReplay, hlookup, hentry]
  | list => exact ⟨congrArg StoreAnswer.list (h.list_eq hfaithful), h⟩
  | reopen => exact ⟨rfl, h⟩

/-- The persistent indexer cannot be told apart from the in-memory one, and every entry that is
reached is read back from its record. -/
theorem sled_refines_inMemory (hfaithful : tree.Faithful) (H : List UInt8 → Bytes32)
    (calls : List StoreCall)
    (hcalls : AlongRun (inMemoryStep H) (CallFits H) InMemoryIndexer.new calls) :
    answersOf (inMemoryStep H) InMemoryIndexer.new calls =
      answersOf (sledStep H tree) tree.empty calls ∧
    ∀ c e, (stateAfter (inMemoryStep H) InMemoryIndexer.new calls).map.get? c = some e →
      ∃ bytes, encodeIndexedCovenant e = .ok bytes ∧ decodeIndexedCovenant H bytes = .ok e := by
  obtain ⟨hanswers, hrel⟩ := simulation (step_agree hfaithful) (refines_new hfaithful) hcalls
  refine ⟨hanswers, fun c e he => ⟨entryBytes e, ?_, ?_⟩⟩
  · exact encodeIndexedCovenant_eq (hrel.storable c e he)
  · exact decodeIndexedCovenant_entryBytes (hrel.storable c e he) (hrel.fits c e he)

lemma allFit_iff {ix : InMemoryIndexer} : AllFit ix ↔ ∀ x ∈ ix.map.entries, LengthsFit x.2 :=
  ⟨fun h x hx => h x.1 x.2 ((OrderedMap.lookup_eq_some_iff ix.map.sorted).mpr hx),
    fun h c e he => h (c, e) ((OrderedMap.lookup_eq_some_iff ix.map.sorted).mp he)⟩

def sampleSledState (digest : UInt8) : RgkStateCommitment :=
  ⟨1, .kaspaSimnet, Bytes.fill 32 0x22, Bytes.fill 32 0x11, Bytes.fill 32 digest,
    .verifierOnly⟩

/-- Open a covenant, spend it, reopen the database and roll the spend back. -/
def sampleSledCalls : List StoreCall :=
  [.update (.openCovenant .kaspaSimnet (Bytes.fill 32 0x22) (Bytes.fill 32 0x33)
      (sampleSledState 1) ⟨Bytes.fill 32 1, 0⟩ 100),
    .update (.applySpend ⟨Bytes.fill 32 0x22, Bytes.fill 32 9, ⟨Bytes.fill 32 1, 0⟩,
      ⟨Bytes.fill 32 2, 0⟩, sampleSledState 2, 101⟩),
    .reopen, .update (.rollback (Bytes.fill 32 0x22) 1), .list]

lemma sampleSledCalls_fit :
    AlongRun (inMemoryStep Sha256.digest) (CallFits Sha256.digest) InMemoryIndexer.new
      sampleSledCalls := by
  have hvalid₁ : RgkStateCommitment.validateStructure (sampleSledState 1) = .ok () := by
    decide +kernel
  have hvalid₂ : RgkStateCommitment.validateStructure (sampleSledState 2) = .ok () := by
    decide +kernel
  refine ⟨⟨hvalid₁, ?_⟩, ⟨hvalid₂, ?_⟩, ⟨trivial, ?_⟩, ⟨trivial, ?_⟩, ⟨trivial, ?_⟩, trivial⟩
  all_goals
    rw [allFit_iff]
    decide +kernel

/-- A run of five calls over a tree kept as a map. -/
theorem sled_refines_inMemory_sample :
    answersOf (inMemoryStep Sha256.digest) InMemoryIndexer.new sampleSledCalls =
      answersOf (sledStep Sha256.digest mapTree) mapTree.empty sampleSledCalls ∧
    ∀ c e,
      (stateAfter (inMemoryStep Sha256.digest) InMemoryIndexer.new sampleSledCalls).map.get? c =
        some e →
      ∃ bytes, encodeIndexedCovenant e = .ok bytes ∧
        decodeIndexedCovenant Sha256.digest bytes = .ok e :=
  sled_refines_inMemory mapTree_faithful Sha256.digest sampleSledCalls sampleSledCalls_fit

end Runs

end RgkProtocol.SledIndexer
