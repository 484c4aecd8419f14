import RgkProtocol.SledIndexer

/-!
# Stores for scan cursors and observed spends

The scanner keeps its cursor and the spends it has seen in a store. The interface has two
implementations, the in-memory indexer and the trees of the persistent one, and both are lawful:
a write is seen by the reads of its own key and by no others.
-/
namespace RgkProtocol.ScanStore
open ByteStrings CoreTypes Checked Codec CanonicalEncoding IndexerState IndexerOps
open IndexerRecords SledIndexer

/-- The two store interfaces that the scanner uses. -/
structure StoreOps (S : Type) where
  loadScanCursor : S → String → Except IndexerError (Option ScanCursor)
  storeScanCursor : String → ScanCursor → S → Except IndexerError Unit × S
  recordObservedSpend : ObservedSpendRecord → S → Except IndexerError Unit × S
  observedSpend : S → KaspaOutpoint → Except IndexerError (Option ObservedSpendRecord)

structure StoreOps.Lawful {S : Type} (store : StoreOps S) : Prop where
  name_of_load : ∀ s name c, store.loadScanCursor s name = .ok c →
    validateScanCursorName name = .ok ()
  store_ok : ∀ s name c, validateScanCursorName name = .ok () →
    (store.storeScanCursor name c s).1 = .ok ()
  load_store : ∀ s name c name', validateScanCursorName name = .ok () →
    store.loadScanCursor (store.storeScanCursor name c s).2 name' =
      if name = name' then .ok (some c) else store.loadScanCursor s name'
  observed_store : ∀ s name c o, store.observedSpend (store.storeScanCursor name c s).2 o =
    store.observedSpend s o
  record_ok : ∀ s r, (store.recordObservedSpend r s).1 = .ok ()
  load_record : ∀ s r name, store.loadScanCursor (store.recordObservedSpend r s).2 name =
    store.loadScanCursor s name
  observed_record : ∀ s r o, store.observedSpend (store.recordObservedSpend r s).2 o =
    if r.spent = o then .ok (some r) else store.observedSpend s o

/-- Two stores that no read tells apart. -/
def SameStore {S : Type} (store : StoreOps S) (s s' : S) : Prop :=
  (∀ name, store.loadScanCursor s name = store.loadScanCursor s' name) ∧
    ∀ o, store.observedSpend s o = store.observedSpend s' o

section InMemory

def inMemoryStore : StoreOps InMemoryIndexer where
  loadScanCursor ix name := do
    validateScanCursorName name
    .ok (ix.scanCursors.get? name)
  storeScanCursor name cursor ix := storeScanCursor ix name cursor
  recordObservedSpend record ix := recordObservedSpend ix record
  observedSpend ix spent := .ok (ix.observedSpends.get? spent)

theorem inMemoryStore_lawful : inMemoryStore.Lawful where
  name_of_load := fun _ _ _ h => (unit_bind_eq_ok.mp h).1
  store_ok := by
    intro ix name c hname
    simp [inMemoryStore, storeScanCursor, hname]
  load_store := by
    intro ix name c name' hname
    simp only [inMemoryStore, storeScanCursor, hname, OrderedMap.get?_insert]
    split_ifs with heq
    · subst heq
      rw [hname]
      rfl
    · rfl
  observed_store := by
    intro ix name c o
    simp only [inMemoryStore, storeScanCursor]
    split <;> rfl
  record_ok := fun _ _ => rfl
  load_record := fun _ _ _ => rfl
  observed_record := by
    intro ix r o
    simp only [inMemoryStore, recordObservedSpend, OrderedMap.get?_insert]
    split_ifs <;> rfl

end InMemory

section Records

/-- The bytes of `rgkscan` and a zero byte. -/
def scanCursorMagic : Bytes 8 := ⟨[0x72, 0x67, 0x6b, 0x73, 0x63, 0x61, 0x6e, 0], rfl⟩

/-- The bytes of `rgkspnd` and a zero byte. -/
def observedSpendMagic : Bytes 8 := ⟨[0x72, 0x67, 0x6b, 0x73, 0x70, 0x6e, 0x64, 0], rfl⟩

/-- Read the magic bytes of a record. -/
def expectMagic (magic : Bytes 8) (error : String) : Reader IndexerError Unit := do
  let got ← readArray eofErr 8
  check (failIf (got ≠ magic) (.storage error))

lemma reads_expectMagic (magic : Bytes 8) (error : String) :
    Reads (expectMagic magic error) magic.toList () :=
  ((exact_readArray 8).reads trivial).bind_nil (.check (failIf_eq_ok.mpr (not_not.mpr rfl)))

def encodeScanCursor (c : ScanCursor) : List UInt8 :=
  scanCursorMagic.toList ++
    (KaspaChainId.encode c.chainId ++ (c.blockHash.toList ++ le64 c.daaScore))

def readScanCursor : Reader IndexerError ScanCursor := do
  expectMagic scanCursorMagic "bad scan cursor magic"
  let chainId ← mapErr decodeErr KaspaChainId.decode
  let blockHash ← readArray eofErr 32
  let daaScore ← readU64 eofErr
  pure ⟨chainId, blockHash, daaScore⟩

def decodeScanCursor (buf : List UInt8) : Except IndexerError ScanCursor :=
  runReader (do
    let cursor ← readScanCursor
    ensureConsumed (fun remaining => decodeErr (.trailingBytes remaining))
    check (.ok cursor)) buf

def encodeObservedSpendKey (spent : KaspaOutpoint) : List UInt8 := KaspaOutpoint.encode spent

def encodeObservedSpendRecord (r : ObservedSpendRecord) : List UInt8 :=
  observedSpendMagic.toList ++ (KaspaOutpoint.encode r.spent ++ (r.spendingTxid.toList ++
    (le32 r.inputIndex ++ optionBytes le64 r.blockDaaScore)))

def readObservedSpendRecord : Reader IndexerError ObservedSpendRecord := do
  expectMagic observedSpendMagic "bad observed spend record magic"
  let spent ← mapErr decodeErr KaspaOutpoint.decode
  let spendingTxid ← readArray eofErr 32
  let inputIndex ← readU32 eofErr
  let blockDaaScore ← readOption eofErr (readU64 eofErr)
  pure ⟨spent, spendingTxid, inputIndex, blockDaaScore⟩

def decodeObservedSpendRecord (buf : List UInt8) : Except IndexerError ObservedSpendRecord :=
  runReader (do
    let record ← readObservedSpendRecord
    ensureConsumed (fun remaining => decodeErr (.trailingBytes remaining))
    check (.ok record)) buf

lemma decodeScanCursor_encode (c : ScanCursor) : decodeScanCursor (encodeScanCursor c) = .ok c := by
  refine run_ensureConsumed (a := c) ?_ rfl
  refine (reads_expectMagic _ _).bind ?_
  refine (exact_chainId.reads trivial).mapErr.bind ?_
  refine ((exact_readArray 32).reads trivial).bind ?_
  exact (exact_readU64.reads trivial).bind_nil (.pure c)

lemma decodeObservedSpendRecord_encode (r : ObservedSpendRecord) :
    decodeObservedSpendRecord (encodeObservedSpendRecord r) = .ok r := by
  refine run_ensureConsumed (a := r) ?_ rfl
  refine (reads_expectMagic _ _).bind ?_
  refine (exact_outpoint.reads trivial).mapErr.bind ?_
  refine ((exact_readArray 32).reads trivial).bind ?_
  refine (exact_readU32.reads trivial).bind ?_
  exact (reads_readOption (fun _ _ => exact_readU64.reads trivial)).bind_nil (.pure r)

lemma encodeObservedSpendKey_inj {o o' : KaspaOutpoint} :
    encodeObservedSpendKey o = encodeObservedSpendKey o' ↔ o = o' := by
  simp only [encodeObservedSpendKey, KaspaOutpoint.encode, Bytes.append_inj, le32_inj,
    KaspaOutpoint.ext_iff]

end Records

section Persistent
variable {T : Type}

/-- The two trees of the persistent indexer that the scanner uses. -/
structure SledScan (T : Type) where
  scanCursors : T
  observedSpends : T

/-- The bytes of a cursor name. -/
def nameKey (name : String) : List UInt8 := name.toByteArray.data.toList

lemma nameKey_inj {name name' : String} : nameKey name = nameKey name' ↔ name = name' := by
  rw [nameKey, nameKey, Array.toList_inj, ← ByteArray.ext_iff, String.toByteArray_inj]

def sledStore (tree : TreeOps T) : StoreOps (SledScan T) where
  loadScanCursor s name := do
    validateScanCursorName name
    readRecord tree decodeScanCursor s.scanCursors (nameKey name)
  storeScanCursor name cursor s :=
    match validateScanCursorName name with
    | .error e => (.error e, s)
    | .ok _ => (.ok (), { s with
        scanCursors := tree.insert s.scanCursors (nameKey name) (encodeScanCursor cursor) })
  recordObservedSpend record s :=
    (.ok (), { s with
      observedSpends := tree.insert s.observedSpends (encodeObservedSpendKey record.spent)
        (encodeObservedSpendRecord record) })
  observedSpend s spent :=
    readRecord tree decodeObservedSpendRecord s.observedSpends (encodeObservedSpendKey spent)

theorem sledStore_lawful {tree : TreeOps T} (hfaithful : tree.Faithful) :
    (sledStore tree).Lawful where
  name_of_load := fun _ _ _ h => (unit_bind_eq_ok.mp h).1
  store_ok := by
    intro s name c hname
    simp [sledStore, hname]
  load_store := by
    intro s name c name' hname
    simp only [sledStore, hname, hfaithful.readRecord_insert (decodeScanCursor_encode c),
      nameKey_inj]
    split_ifs with heq
    · subst heq
      rw [hname]
      rfl
    · rfl
  observed_store := by
    intro s name c o
    cases hname : validateScanCursorName name <;> simp only [sledStore, hname]
  record_ok := fun _ _ => rfl
  load_record := fun _ _ _ => rfl
  observed_record := by
    intro s r o
    simp only [sledStore, hfaithful.readRecord_insert (decodeObservedSpendRecord_encode r),
      encodeObservedSpendKey_inj]

end Persistent
end RgkProtocol.ScanStore
