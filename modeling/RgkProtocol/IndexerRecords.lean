import RgkProtocol.IndexerInvariant
import RgkProtocol.CanonicalEncoding

/-!
# Records of the persistent indexer

The byte form of an indexed covenant. The reader checks what it reads again: the state, the
proofs of every spend and the certificates. An entry passes these checks when every state it was
made from is structurally valid, and that is kept by all operations, rollbacks included.
-/
namespace RgkProtocol.IndexerRecords
open ByteStrings Hashing CoreTypes Checked Codec CanonicalEncoding IndexerState IndexerOps
open LinkedPath IndexerHistory IndexerInvariant

section Errors

def decodeErr (e : DecodeError) : IndexerError :=
  .storage ("corrupt indexer record: " ++ DecodeError.display e)

def eofErr : IndexerError := decodeErr .eof

end Errors

section Writing

/-- The bytes of `rgkidx3` and a zero byte. -/
def indexedCovenantMagic : Bytes 8 := ⟨[0x72, 0x67, 0x6b, 0x69, 0x64, 0x78, 0x33, 0], rfl⟩

/-- The bytes of `rgkidx2` and a zero byte: records from before certificates were stored. -/
def indexedCovenantMagicV2 : Bytes 8 := ⟨[0x72, 0x67, 0x6b, 0x69, 0x64, 0x78, 0x32, 0], rfl⟩

def continuationBytes (proof : ContinuationProof) : List UInt8 :=
  proof.commitment.toList ++ (proof.shapeRoot.toList ++ proof.transitionDigest.toList)

def policyMigrationBytes (proof : PolicyMigrationProof) : List UInt8 :=
  proof.previousPolicy.encode ++ (proof.newPolicy.encode ++ (proof.previousStateDigest.toList ++
    (proof.newStateDigest.toList ++ (proof.transitionDigest.toList ++
      (proof.authorizationCommitment.toList ++ proof.migrationCommitment.toList)))))

def certificateBytes (record : AllocationAuditCertificateRecord) : List UInt8 :=
  record.certificateId.toList ++
    (le32 (UInt32.ofNat record.canonicalBytes.length) ++ record.canonicalBytes)

def spendBytes (s : SpendEntry) : List UInt8 :=
  le64 s.daaScore ++ (KaspaOutpoint.encode s.spent ++ (KaspaOutpoint.encode s.created ++
    (s.newStateDigest.toList ++ (s.resultingStateDigest.toList ++
      (s.previousReceiptPolicy.encode ++ (s.newReceiptPolicy.encode ++ (s.receiptId.toList ++
        (optionBytes continuationBytes s.continuation ++
          (optionBytes policyMigrationBytes s.policyMigration ++
            optionBytes certificateBytes s.allocationAuditCertificate)))))))))

def entryBytes (e : IndexedCovenant) : List UInt8 :=
  indexedCovenantMagic.toList ++ (e.covenantId.toList ++ (e.lineageId.toList ++
    (KaspaChainId.encode e.chainId ++ (optionBytes KaspaOutpoint.encode e.openOutpoint ++
      (RgkStateCommitment.encode e.latestState ++
        (le32 (UInt32.ofNat e.acceptedReceipts.length) ++ (e.acceptedReceipts.flatMap Bytes.toList ++
          (le32 (UInt32.ofNat e.spendHistory.length) ++ (e.spendHistory.flatMap spendBytes ++
            le64 e.lastUpdateDaaScore)))))))))

/-- Encoding fails at the first spend whose certificate is not valid. -/
def encodeIndexedCovenant (e : IndexedCovenant) : Except IndexerError (List UInt8) := do
  forEnum (fun _ s => whenSome s.allocationAuditCertificate
    validateAllocationAuditCertificateRecord) 0 e.spendHistory
  .ok (entryBytes e)

end Writing

section Reading
variable (H : List UInt8 → Bytes32)

def readContinuation : Reader IndexerError ContinuationProof := do
  let commitment ← readArray eofErr 32
  let shapeRoot ← readArray eofErr 32
  let transitionDigest ← readArray eofErr 32
  let proof : ContinuationProof := ⟨commitment, shapeRoot, transitionDigest⟩
  check (validateContinuationProof proof)
  pure proof

def readPolicyMigration : Reader IndexerError PolicyMigrationProof := do
  let previousPolicy ← mapErr decodeErr ReceiptPolicy.decode
  let newPolicy ← mapErr decodeErr ReceiptPolicy.decode
  let previousStateDigest ← readArray eofErr 32
  let newStateDigest ← readArray eofErr 32
  let transitionDigest ← readArray eofErr 32
  let authorizationCommitment ← readArray eofErr 32
  let migrationCommitment ← readArray eofErr 32
  pure ⟨previousPolicy, newPolicy, previousStateDigest, newStateDigest, transitionDigest,
    authorizationCommitment, migrationCommitment⟩

def decodeAllocationAuditCertificateRecord :
    Reader IndexerError AllocationAuditCertificateRecord := do
  let certificateId ← readArray eofErr 32
  let canonicalBytes ← readBlob eofErr (fun len => decodeErr (.blobTooLong len maxBlobBytes))
    maxBlobBytes
  let record : AllocationAuditCertificateRecord := ⟨certificateId, canonicalBytes⟩
  check (validateAllocationAuditCertificateRecord record)
  pure record

def readSpendEntry (hasAllocationAuditCertificateField : Bool) :
    Reader IndexerError SpendEntry := do
  let daaScore ← readU64 eofErr
  let spent ← mapErr decodeErr KaspaOutpoint.decode
  let created ← mapErr decodeErr KaspaOutpoint.decode
  let newStateDigest ← readArray eofErr 32
  let resultingStateDigest ← readArray eofErr 32
  let previousReceiptPolicy ← mapErr decodeErr ReceiptPolicy.decode
  let newReceiptPolicy ← mapErr decodeErr ReceiptPolicy.decode
  let receiptId ← readArray eofErr 32
  let continuation ← readOption eofErr readContinuation
  let policyMigration ← readOption eofErr readPolicyMigration
  check (whenSome policyMigration (fun proof => do
    let continuation ← okOr continuation
      (.storage "corrupt indexer record: policy migration without continuation proof")
    validatePolicyMigrationProof H proof previousReceiptPolicy newReceiptPolicy newStateDigest
      resultingStateDigest continuation.transitionDigest))
  let certificate ←
    if hasAllocationAuditCertificateField then
      readOption eofErr decodeAllocationAuditCertificateRecord
    else pure none
  pure ⟨daaScore, spent, created, newStateDigest, resultingStateDigest, previousReceiptPolicy,
    newReceiptPolicy, receiptId, continuation, policyMigration, certificate⟩

def readMagic : Reader IndexerError Bool := do
  let magic ← readArray eofErr 8
  check (if magic = indexedCovenantMagic then .ok true
    else if magic = indexedCovenantMagicV2 then .ok false
    else .error (.storage "bad indexer record magic"))

def readIndexedCovenant : Reader IndexerError IndexedCovenant := do
  let hasAllocationAuditCertificateField ← readMagic
  let covenantId ← readArray eofErr 32
  let lineageId ← readArray eofErr 32
  let chainId ← mapErr decodeErr KaspaChainId.decode
  let openOutpoint ← readOption eofErr (mapErr decodeErr KaspaOutpoint.decode)
  let latestState ← mapErr decodeErr RgkStateCommitment.decode
  let receiptLen ← readU32 eofErr
  let acceptedReceipts ← readList (readArray eofErr 32) receiptLen.toNat
  let spendLen ← readU32 eofErr
  let spendHistory ← readList (readSpendEntry H hasAllocationAuditCertificateField) spendLen.toNat
  let lastUpdateDaaScore ← readU64 eofErr
  pure ⟨covenantId, lineageId, chainId, openOutpoint, latestState, acceptedReceipts, spendHistory,
    lastUpdateDaaScore⟩

def decodeIndexedCovenant (buf : List UInt8) : Except IndexerError IndexedCovenant :=
  runReader (do
    let entry ← readIndexedCovenant H
    ensureConsumed (fun remaining => decodeErr (.trailingBytes remaining))
    check (do
      failIf (entry.latestState.covenantId ≠ entry.covenantId ∨
          entry.latestState.chainId ≠ entry.chainId)
        (.storage "indexer record state key mismatch")
      .ok entry)) buf

end Reading

section RoundTrip
variable {H : List UInt8 → Bytes32}

/-- The proofs and the certificate of a spend pass the checks of the reader. -/
structure SpendStorable (H : List UInt8 → Bytes32) (s : SpendEntry) : Prop where
  digest : s.newStateDigest ≠ Bytes.zero
  continuation : ∀ proof, s.continuation = some proof → proof.Complete
  migration : ∀ proof, s.policyMigration = some proof → ∃ c, s.continuation = some c ∧
    validatePolicyMigrationProof H proof s.previousReceiptPolicy s.newReceiptPolicy
      s.newStateDigest s.resultingStateDigest c.transitionDigest = .ok ()
  certificate : ∀ record, s.allocationAuditCertificate = some record →
    validateAllocationAuditCertificateRecord record = .ok ()

/-- An entry that the record form carries without loss. -/
structure Storable (H : List UInt8 → Bytes32) (c : Bytes32) (e : IndexedCovenant) : Prop where
  wellFormed : EntryWellFormed c e
  state : StateValid e.latestState
  spends : ∀ s ∈ e.spendHistory, SpendStorable H s

/-- The two lists of an entry have lengths that fit into the record form. -/
def LengthsFit (e : IndexedCovenant) : Prop :=
  e.acceptedReceipts.length < 2^32 ∧ e.spendHistory.length < 2^32

instance (e : IndexedCovenant) : Decidable (LengthsFit e) := inferInstanceAs (Decidable (_ ∧ _))

lemma length_canonicalBytes_le {record : AllocationAuditCertificateRecord}
    (h : validateAllocationAuditCertificateRecord record = .ok ()) :
    record.canonicalBytes.length ≤ maxBlobBytes := by
  simp only [validateAllocationAuditCertificateRecord, unit_bind_eq_ok, failIf_eq_ok, not_lt] at h
  exact h.2.1

lemma reads_continuation {proof : ContinuationProof} (h : proof.Complete) :
    Reads readContinuation (continuationBytes proof) proof := by
  refine ((exact_readArray 32).reads trivial).bind ?_
  refine ((exact_readArray 32).reads trivial).bind ?_
  refine ((exact_readArray 32).reads trivial).bind_nil ?_
  exact (Reads.check (validateContinuationProof_eq_ok.mpr h)).bind_nil (.pure proof)

lemma reads_policyMigration (proof : PolicyMigrationProof) :
    Reads readPolicyMigration (policyMigrationBytes proof) proof := by
  refine (exact_receiptPolicy.reads trivial).mapErr.bind ?_
  refine (exact_receiptPolicy.reads trivial).mapErr.bind ?_
  refine ((exact_readArray 32).reads trivial).bind ?_
  refine ((exact_readArray 32).reads trivial).bind ?_
  refine ((exact_readArray 32).reads trivial).bind ?_
  refine ((exact_readArray 32).reads trivial).bind ?_
  exact ((exact_readArray 32).reads trivial).bind_nil (.pure proof)

lemma reads_certificate {record : AllocationAuditCertificateRecord}
    (h : validateAllocationAuditCertificateRecord record = .ok ()) :
    Reads decodeAllocationAuditCertificateRecord (certificateBytes record) record := by
  have hlen := length_canonicalBytes_le h
  have hlt : record.canonicalBytes.length < 2^32 := by
    unfold maxBlobBytes at hlen
    omega
  refine ((exact_readArray 32).reads trivial).bind ?_
  refine (reads_readBlob hlen hlt).bind_nil ?_
  exact (Reads.check h).bind_nil (.pure record)

lemma reads_spendEntry {s : SpendEntry} (h : SpendStorable H s) :
    Reads (readSpendEntry H true) (spendBytes s) s := by
  refine (exact_readU64.reads trivial).bind ?_
  refine (exact_outpoint.reads trivial).mapErr.bind ?_
  refine (exact_outpoint.reads trivial).mapErr.bind ?_
  refine ((exact_readArray 32).reads trivial).bind ?_
  refine ((exact_readArray 32).reads trivial).bind ?_
  refine (exact_receiptPolicy.reads trivial).mapErr.bind ?_
  refine (exact_receiptPolicy.reads trivial).mapErr.bind ?_
  refine ((exact_readArray 32).reads trivial).bind ?_
  refine (reads_readOption (fun proof hp => reads_continuation (h.continuation proof hp))).bind ?_
  refine (reads_readOption (fun proof _ => reads_policyMigration proof)).bind ?_
  have hmigration : whenSome s.policyMigration (fun proof => do
      let continuation ← okOr s.continuation
        (.storage "corrupt indexer record: policy migration without continuation proof")
      validatePolicyMigrationProof H proof s.previousReceiptPolicy s.newReceiptPolicy
        s.newStateDigest s.resultingStateDigest continuation.transitionDigest) = .ok () := by
    rw [whenSome_eq_ok]
    intro proof hp
    obtain ⟨c, hc, hv⟩ := h.migration proof hp
    exact bind_eq_ok.mpr ⟨c, okOr_eq_ok.mpr hc, hv⟩
  refine (Reads.check hmigration).bind ?_
  exact (reads_readOption (fun record hr => reads_certificate (h.certificate record hr))).bind_nil
    (.pure s)

lemma toNat_ofNat_of_lt {n : ℕ} (h : n < 2^32) : (UInt32.ofNat n).toNat = n := by
  rw [UInt32.toNat_ofNat']
  exact Nat.mod_eq_of_lt h

lemma reads_indexedCovenant {c : Bytes32} {e : IndexedCovenant} (h : Storable H c e)
    (hlen : LengthsFit e) : Reads (readIndexedCovenant H) (entryBytes e) e := by
  have hmagic : Reads readMagic indexedCovenantMagic.toList true :=
    ((exact_readArray 8).reads trivial).bind_nil (Reads.check rfl)
  have hstate := validateState_eq_ok.mpr h.state
  have hreceipts : Reads (readList (readArray eofErr 32)
      (UInt32.ofNat e.acceptedReceipts.length).toNat) (e.acceptedReceipts.flatMap Bytes.toList)
      e.acceptedReceipts := by
    rw [toNat_ofNat_of_lt hlen.1]
    exact reads_readList (fun _ _ => (exact_readArray 32).reads trivial)
  have hspends : Reads (readList (readSpendEntry H true) (UInt32.ofNat e.spendHistory.length).toNat)
      (e.spendHistory.flatMap spendBytes) e.spendHistory := by
    rw [toNat_ofNat_of_lt hlen.2]
    exact reads_readList (fun s hs => reads_spendEntry (h.spends s hs))
  refine hmagic.bind ?_
  refine ((exact_readArray 32).reads trivial).bind ?_
  refine ((exact_readArray 32).reads trivial).bind ?_
  refine (exact_chainId.reads trivial).mapErr.bind ?_
  refine (reads_readOption (fun _ _ => (exact_outpoint.reads trivial).mapErr)).bind ?_
  refine (exact_stateCommitment.reads hstate).mapErr.bind ?_
  refine (exact_readU32.reads trivial).bind ?_
  refine hreceipts.bind ?_
  refine (exact_readU32.reads trivial).bind ?_
  refine hspends.bind ?_
  exact (exact_readU64.reads trivial).bind_nil (.pure e)

lemma encodeIndexedCovenant_eq {c : Bytes32} {e : IndexedCovenant} (h : Storable H c e) :
    encodeIndexedCovenant e = .ok (entryBytes e) := by
  have hok : forEnum (fun _ s => whenSome s.allocationAuditCertificate
      validateAllocationAuditCertificateRecord) 0 e.spendHistory = .ok () := by
    rw [forEnum_eq_ok (fun _ _ => whenSome_eq_ok)]
    exact fun s hs => (h.spends s hs).certificate
  exact unit_bind_eq_ok.mpr ⟨hok, rfl⟩

theorem decodeIndexedCovenant_entryBytes {c : Bytes32} {e : IndexedCovenant} (h : Storable H c e)
    (hlen : LengthsFit e) : decodeIndexedCovenant H (entryBytes e) = .ok e := by
  refine run_ensureConsumed (reads_indexedCovenant h hlen) ?_
  refine unit_bind_eq_ok.mpr ⟨?_, rfl⟩
  simp [h.wellFormed.stateCovenant, h.wellFormed.covenant, h.wellFormed.stateChain]

end RoundTrip

section Preservation
variable {H : List UInt8 → Bytes32}

lemma storable_opened {initial : RgkStateCommitment} {c lineage : Bytes32} {o : KaspaOutpoint}
    {daa : UInt64} (hc : initial.covenantId = c) (hv : StateValid initial) :
    Storable H c (IndexedCovenant.opened c initial.chainId lineage initial o daa) where
  wellFormed := entryWellFormed_opened hc
  state := hv
  spends := fun _ hs => absurd hs List.not_mem_nil

lemma Storable.afterSpend {c : Bytes32} {e : IndexedCovenant} {call : SpendCall}
    {continuation : Option ContinuationProof} {policyMigration : Option PolicyMigrationProof}
    (h : Storable H c e) (ha : SpendAccepted H e call continuation policyMigration)
    (hv : StateValid call.newState) :
    Storable H c (entryAfterSpend e call continuation policyMigration) where
  wellFormed := h.wellFormed.afterSpend ha
  state := hv
  spends := by
    intro s hs
    rcases List.mem_append.mp hs with hs | hs
    · exact h.spends s hs
    · rw [List.mem_singleton.mp hs]
      exact ⟨h.state.stateDigest, ha.complete, ha.migration, fun _ hr => by cases hr⟩

/-- A rollback puts back the digest of an earlier state, which was valid as well. -/
lemma Storable.rollbackEntry {c : Bytes32} {e e' : IndexedCovenant} {depth : UInt64}
    (h : Storable H c e) (hr : rollbackEntry depth e = (.ok (), e')) : Storable H c e' := by
  unfold IndexerOps.rollbackEntry at hr
  split_ifs at hr with hd
  · cases hr
  · have hwf := h.wellFormed.rolledBack (not_lt.mp hd)
    rw [hr] at hwf
    rcases rollbackLoop_cases (not_lt.mp hd) with heq | ⟨earlier, s, later, hsplit, -, heq⟩
    · rw [heq] at hr
      obtain rfl : e = e' := (Prod.mk.inj hr).2
      exact h
    · rw [heq] at hr
      obtain rfl := (Prod.mk.inj hr).2
      have hs : s ∈ e.spendHistory := by simp [hsplit]
      exact {
        wellFormed := hwf
        state := ⟨h.state.version, h.state.covenantId, h.state.assetId, (h.spends s hs).digest⟩
        spends := fun t ht => h.spends t (hsplit ▸ List.mem_append_left _ ht) }

lemma Storable.attachCertificate {c receiptId : Bytes32} {e : IndexedCovenant}
    {certificate : AllocationAuditCertificateRecord} (h : Storable H c e)
    (hv : validateAllocationAuditCertificateRecord certificate = .ok ()) :
    Storable H c { e with
      spendHistory := attachCertificate receiptId certificate e.spendHistory } where
  wellFormed := h.wellFormed.step
    (show EntryStep H (.clearScanCursor "") c _ _ from .certified receiptId certificate)
  state := h.state
  spends := by
    intro s hs
    obtain ⟨t, ht, _, rfl, rfl | rfl⟩ := mem_attachCertificate hs
    · exact h.spends t ht
    · exact { h.spends t ht with
        certificate := fun record hr => Option.some.inj hr ▸ hv }

lemma Storable.recordCertificate {c receiptId : Bytes32} {e e' : IndexedCovenant}
    {certificate : AllocationAuditCertificateRecord} (h : Storable H c e)
    (hr : recordCertificateOnEntry receiptId certificate e = (.ok (), e')) : Storable H c e' := by
  unfold recordCertificateOnEntry at hr
  split at hr
  · cases hr
  · rename_i hv
    split at hr
    · cases hr
    · split at hr
      · split_ifs at hr
        · cases hr
        · obtain rfl : e = e' := (Prod.mk.inj hr).2
          exact h
      · obtain rfl := (Prod.mk.inj hr).2
        exact h.attachCertificate hv

end Preservation
end RgkProtocol.IndexerRecords
