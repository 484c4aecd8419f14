import RgkProtocol.AuditManifest
import RgkProtocol.CanonicalEncoding

/-!
# Audit certificates

A certificate holds the report of an audit and one proof entry for each of its statements. It is
built from a bundle with the proofs of its statements, travels as canonical bytes, and is verified
on its own: the verifier parses the statements out of the entries, sorts them, checks the bundle
they form and demands that the entries stand in the order of that bundle's manifest.
-/
namespace RgkProtocol.AuditCertificate
open ByteStrings Hashing CoreTypes Checked Codec CanonicalEncoding AuditStatements AuditBundle
open AuditManifest

/-- The tag is a single byte. -/
structure Groth16PrecompileStack where
  tag : UInt8
  verifyingKey : List UInt8
  proof : List UInt8
  publicInputs : List (List UInt8)
  deriving DecidableEq

structure AllocationAuditProofEntry where
  kind : AllocationAuditProofKind
  spentSegmentIndex : Option UInt64
  newSegmentIndex : Option UInt64
  publicInputs : List UInt8
  stack : Groth16PrecompileStack
  deriving DecidableEq

/-- The entry without its proof. -/
def AllocationAuditProofEntry.manifestEntry (e : AllocationAuditProofEntry) : ManifestEntry :=
  ⟨e.kind, e.spentSegmentIndex, e.newSegmentIndex, e.publicInputs⟩

structure AllocationAuditCertificate where
  certificateId : Bytes32
  report : AllocationAuditBundleReport
  proofs : List AllocationAuditProofEntry
  deriving DecidableEq

structure AllocationAuditBundleStacks where
  spentTranscripts : List Groth16PrecompileStack
  newTranscripts : List Groth16PrecompileStack
  spentConservation : List Groth16PrecompileStack
  newConservation : List Groth16PrecompileStack
  finalConservation : Groth16PrecompileStack
  exclusions : List Groth16PrecompileStack

/-- The check of a Groth16 stack against the public inputs of a statement. -/
abbrev StackVerifier :=
  AllocationAuditProofKind → Groth16PrecompileStack → List UInt8 → Except String Unit

section Writing

def maxAllocationAuditCertificateProofEntries : ℕ := 16384

def maxAllocationAuditStackPublicInputs : ℕ := 8192

def writeCertificateLen (label : String) (value max : ℕ) : Except String (List UInt8) := do
  failIf (value > max)
    s!"{label} count {value} exceeds the allocation audit certificate limit {max}"
  failIf (value > 2^32-1) s!"{label} count exceeds u32"
  .ok (le32 (UInt32.ofNat value))

def writeCertificateBlob (label : String) (bytes : List UInt8) : Except String (List UInt8) := do
  let len := bytes.length
  failIf (bytes.length > maxBlobBytes)
    s!"{label} length {len} exceeds the allocation audit certificate blob limit {maxBlobBytes}"
  .ok (le32 (UInt32.ofNat bytes.length) ++ bytes)

def writeOptionalU64 : Option UInt64 → List UInt8
  | some value => [1] ++ le64 value
  | none => [0] ++ le64 0

def writeUsizeAsU64 (label : String) (value : ℕ) : Except String (List UInt8) := do
  failIf (value > 2^64-1) s!"allocation audit certificate {label} exceeds u64"
  .ok (le64 (UInt64.ofNat value))

def encodeAllocationAuditReport (report : AllocationAuditBundleReport) :
    Except String (List UInt8) := do
  let spentSegments ← writeUsizeAsU64 "spent segment count" report.spentSegments
  let newSegments ← writeUsizeAsU64 "new segment count" report.newSegments
  let exclusionPairs ← writeUsizeAsU64 "exclusion pair count" report.exclusionPairs
  .ok (KaspaChainId.encode report.chainId ++ (spentSegments ++ (newSegments ++ (exclusionPairs ++
    (le64 report.spentTotalCount ++ (le64 report.newTotalCount ++
      (report.spentFinalRoot.toList ++ (report.newFinalRoot.toList ++
        (report.spentTotalCommitment.toList ++ report.newTotalCommitment.toList)))))))))

def encodeAllocationAuditProofEntry (proof : AllocationAuditProofEntry) :
    Except String (List UInt8) := do
  let publicInputs ← writeCertificateBlob "allocation audit public inputs" proof.publicInputs
  let verifyingKey ← writeCertificateBlob "allocation audit verifying key" proof.stack.verifyingKey
  let proofBytes ← writeCertificateBlob "allocation audit proof" proof.stack.proof
  let count ← writeCertificateLen "allocation audit stack public inputs"
    proof.stack.publicInputs.length maxAllocationAuditStackPublicInputs
  let stackInputs ← mapEach (writeCertificateBlob "allocation audit stack public input")
    proof.stack.publicInputs
  .ok ([proof.kind.asU8] ++ (writeOptionalU64 proof.spentSegmentIndex ++
    (writeOptionalU64 proof.newSegmentIndex ++ (publicInputs ++ ([proof.stack.tag] ++
      (verifyingKey ++ (proofBytes ++ (count ++ stackInputs.flatten))))))))

def allocationAuditCertificateBody (report : AllocationAuditBundleReport)
    (proofs : List AllocationAuditProofEntry) : Except String (List UInt8) := do
  let reportBytes ← encodeAllocationAuditReport report
  let count ← writeCertificateLen "allocation audit certificate proof entries" proofs.length
    maxAllocationAuditCertificateProofEntries
  let entries ← mapEach encodeAllocationAuditProofEntry proofs
  .ok (reportBytes ++ (count ++ entries.flatten))

end Writing

section Reading

def certificateDecodeErr (e : DecodeError) : String :=
  "allocation audit certificate decode: " ++ DecodeError.display e

def readCertificateU8 : Reader String UInt8 := mapErr certificateDecodeErr (readU8 .eof)

def readCertificateU32 : Reader String UInt32 := mapErr certificateDecodeErr (readU32 .eof)

def readCertificateU64 : Reader String UInt64 := mapErr certificateDecodeErr (readU64 .eof)

def readCertificateBytes (n : ℕ) : Reader String (Bytes n) :=
  mapErr certificateDecodeErr (readArray .eof n)

/-- Sizes have 64 bits, so every 64-bit word is one. -/
def readUsizeFromU64 : Reader String ℕ := do
  let value ← readCertificateU64
  pure value.toNat

def readOptionalU64 (label : String) : Reader String (Option UInt64) := do
  let tag ← readCertificateU8
  let value ← readCertificateU64
  check (if tag = 0 then
      if value = 0 then .ok none
      else .error s!"allocation audit certificate {label} none tag carried a non-zero value"
    else if tag = 1 then .ok (some value)
    else .error s!"allocation audit certificate {label} has bad optional tag {tag}")

def readBoundedLen (label : String) (max : ℕ) : Reader String ℕ := do
  let len ← readCertificateU32
  let value := len.toNat
  check (failIf (value > max)
    s!"{label} count {value} exceeds the allocation audit certificate limit {max}")
  pure value

def readCertificateBlob (label : String) : Reader String (List UInt8) :=
  mapErr (fun e => "allocation audit certificate " ++ label ++ ": " ++ DecodeError.display e)
    (readBlob .eof (fun len => .blobTooLong len maxBlobBytes) maxBlobBytes)

def decodeAllocationAuditReport : Reader String AllocationAuditBundleReport := do
  let chainId ← mapErr certificateDecodeErr KaspaChainId.decode
  let spentSegments ← readUsizeFromU64
  let newSegments ← readUsizeFromU64
  let exclusionPairs ← readUsizeFromU64
  let spentTotalCount ← readCertificateU64
  let newTotalCount ← readCertificateU64
  let spentFinalRoot ← readCertificateBytes 32
  let newFinalRoot ← readCertificateBytes 32
  let spentTotalCommitment ← readCertificateBytes 32
  let newTotalCommitment ← readCertificateBytes 32
  pure { chainId, spentSegments, newSegments, exclusionPairs, spentTotalCount, newTotalCount,
         spentFinalRoot, newFinalRoot, spentTotalCommitment, newTotalCommitment }

def decodeAllocationAuditProofEntry (index : ℕ) : Reader String AllocationAuditProofEntry := do
  let kindTag ← readCertificateU8
  let kind ← check (okOr (AllocationAuditProofKind.fromU8 kindTag)
    s!"allocation audit certificate proof entry {index} has unknown kind {kindTag}")
  let spentSegmentIndex ← readOptionalU64 "spent segment index"
  let newSegmentIndex ← readOptionalU64 "new segment index"
  let publicInputs ← readCertificateBlob "allocation audit public inputs"
  let tag ← readCertificateU8
  let verifyingKey ← readCertificateBlob "allocation audit verifying key"
  let proof ← readCertificateBlob "allocation audit proof"
  let count ← readBoundedLen "allocation audit stack public inputs"
    maxAllocationAuditStackPublicInputs
  let stackInputs ← readEnum (fun _ => readCertificateBlob "allocation audit stack public input")
    0 count
  pure ⟨kind, spentSegmentIndex, newSegmentIndex, publicInputs,
    ⟨tag, verifyingKey, proof, stackInputs⟩⟩

def decodeAllocationAuditProofEntries : Reader String (List AllocationAuditProofEntry) := do
  let len ← readBoundedLen "allocation audit certificate proof entries"
    maxAllocationAuditCertificateProofEntries
  readEnum decodeAllocationAuditProofEntry 0 len

end Reading

section Canonical
variable (H : List UInt8 → Bytes32)

/-- The bytes of `rgk:aac1`. -/
def allocationAuditCertificateMagic : Bytes 8 :=
  ⟨[0x72, 0x67, 0x6b, 0x3a, 0x61, 0x61, 0x63, 0x31], rfl⟩

def allocationAuditCertificateId (report : AllocationAuditBundleReport)
    (proofs : List AllocationAuditProofEntry) : Except String Bytes32 := do
  let payload ← allocationAuditCertificateBody report proofs
  .ok (domainHashStr H "rgk:zk:allocation-audit-certificate:v1" payload)

/-- The id of a certificate is the one its payload hashes to. -/
def checkCertificateId (certificateId : Bytes32) (report : AllocationAuditBundleReport)
    (proofs : List AllocationAuditProofEntry) : Except String Unit := do
  let expectedId ← allocationAuditCertificateId H report proofs
  failIf (certificateId ≠ expectedId) "allocation audit certificate id does not bind its payload"

def AllocationAuditCertificate.encodeCanonical (c : AllocationAuditCertificate) :
    Except String (List UInt8) := do
  checkCertificateId H c.certificateId c.report c.proofs
  let body ← allocationAuditCertificateBody c.report c.proofs
  .ok (allocationAuditCertificateMagic.toList ++ (c.certificateId.toList ++ body))

/-- The fields of a certificate in the order in which they are read. -/
def readCertificate : Reader String AllocationAuditCertificate := do
  let magic ← readCertificateBytes 8
  check (failIf (magic ≠ allocationAuditCertificateMagic)
    "allocation audit certificate has bad magic")
  let certificateId ← readCertificateBytes 32
  let report ← decodeAllocationAuditReport
  let proofs ← decodeAllocationAuditProofEntries
  pure ⟨certificateId, report, proofs⟩

def AllocationAuditCertificate.decodeCanonical (buf : List UInt8) :
    Except String AllocationAuditCertificate :=
  runReader (do
    let c ← readCertificate
    ensureConsumed (fun remaining => certificateDecodeErr (.trailingBytes remaining))
    check (do
      checkCertificateId H c.certificateId c.report c.proofs
      .ok c)) buf

end Canonical

section RoundTrip

lemma reads_u8 (b : UInt8) : Reads readCertificateU8 [b] b := (exact_readU8.reads trivial).mapErr

lemma reads_u64 (x : UInt64) : Reads readCertificateU64 (le64 x) x :=
  (exact_readU64.reads trivial).mapErr

lemma reads_bytes {n : ℕ} (b : Bytes n) : Reads (readCertificateBytes n) b.toList b :=
  ((exact_readArray n).reads trivial).mapErr

lemma reads_optionalU64 (label : String) (x : Option UInt64) :
    Reads (readOptionalU64 label) (writeOptionalU64 x) x := by
  cases x with
  | none => exact (reads_u8 0).bind ((reads_u64 0).bind_nil (.check rfl))
  | some v => exact (reads_u8 1).bind ((reads_u64 v).bind_nil (.check rfl))

lemma reads_usize {label : String} {n : ℕ} {x : List UInt8} (h : writeUsizeAsU64 label n = .ok x) :
    Reads readUsizeFromU64 x n := by
  obtain ⟨hn, hx⟩ := unit_bind_eq_ok.mp h
  have hle := failIf_eq_ok.mp hn
  have hsize : UInt64.size = 2^64 := rfl
  have hval : (UInt64.ofNat n).toNat = n := UInt64.toNat_ofNat_of_lt' (by omega)
  have hread : Reads readUsizeFromU64 (le64 (UInt64.ofNat n)) (UInt64.ofNat n).toNat :=
    (reads_u64 _).bind_nil (.pure _)
  rw [hval] at hread
  exact Except.ok.inj hx ▸ hread

lemma reads_boundedLen {label : String} {n max : ℕ} {x : List UInt8}
    (h : writeCertificateLen label n max = .ok x) : Reads (readBoundedLen label max) x n := by
  obtain ⟨hmax, h⟩ := unit_bind_eq_ok.mp h
  obtain ⟨hn, hx⟩ := unit_bind_eq_ok.mp h
  have hle := failIf_eq_ok.mp hn
  have hval : (UInt32.ofNat n).toNat = n := by
    rw [UInt32.toNat_ofNat']
    exact Nat.mod_eq_of_lt (by omega)
  have hu32 : Reads readCertificateU32 (le32 (UInt32.ofNat n)) (UInt32.ofNat n) :=
    (exact_readU32.reads trivial).mapErr
  rw [← Except.ok.inj hx]
  refine hu32.bind_nil ?_
  rw [hval]
  exact (Reads.check hmax).bind_nil (.pure n)

lemma reads_blob (label : String) {writeLabel : String} {b x : List UInt8}
    (h : writeCertificateBlob writeLabel b = .ok x) : Reads (readCertificateBlob label) x b := by
  obtain ⟨hlen, hx⟩ := unit_bind_eq_ok.mp h
  have hle : b.length ≤ maxBlobBytes := not_lt.mp (failIf_eq_ok.mp hlen)
  have hsmall : b.length < 2^32 := lt_of_le_of_lt hle (by decide)
  rw [← Except.ok.inj hx]
  exact (reads_readBlob hle hsmall).mapErr

lemma reads_report {report : AllocationAuditBundleReport} {x : List UInt8}
    (h : encodeAllocationAuditReport report = .ok x) : Reads decodeAllocationAuditReport x report := by
  obtain ⟨s, hs, h⟩ := bind_eq_ok.mp h
  obtain ⟨n, hn, h⟩ := bind_eq_ok.mp h
  obtain ⟨e, he, h⟩ := bind_eq_ok.mp h
  rw [← Except.ok.inj h]
  have hchain : Reads (mapErr certificateDecodeErr KaspaChainId.decode)
      (KaspaChainId.encode report.chainId) report.chainId := (exact_chainId.reads trivial).mapErr
  refine hchain.bind ((reads_usize hs).bind ((reads_usize hn).bind ((reads_usize he).bind ?_)))
  refine (reads_u64 _).bind ((reads_u64 _).bind ((reads_bytes _).bind ((reads_bytes _).bind ?_)))
  exact (reads_bytes _).bind ((reads_bytes _).bind_nil (.pure _))

lemma reads_proofEntry (index : ℕ) {proof : AllocationAuditProofEntry} {x : List UInt8}
    (h : encodeAllocationAuditProofEntry proof = .ok x) :
    Reads (decodeAllocationAuditProofEntry index) x proof := by
  obtain ⟨p, hp, h⟩ := bind_eq_ok.mp h
  obtain ⟨k, hk, h⟩ := bind_eq_ok.mp h
  obtain ⟨q, hq, h⟩ := bind_eq_ok.mp h
  obtain ⟨c, hc, h⟩ := bind_eq_ok.mp h
  obtain ⟨i, hi, h⟩ := bind_eq_ok.mp h
  rw [← Except.ok.inj h]
  have hinputs := reads_readEnum
    (fun (_ : ℕ) a x hx => reads_blob "allocation audit stack public input" hx)
    (mapEach_eq_ok.mp hi) 0
  have hkind : ∀ e : String, Reads (check (okOr (AllocationAuditProofKind.fromU8 proof.kind.asU8) e))
      [] proof.kind := fun _ => .check (okOr_eq_ok.mpr (by simp))
  refine (reads_u8 _).bind ((hkind _).bind ((reads_optionalU64 _ _).bind ?_))
  refine (reads_optionalU64 _ _).bind ((reads_blob _ hp).bind ((reads_u8 _).bind ?_))
  refine (reads_blob _ hk).bind ((reads_blob _ hq).bind ((reads_boundedLen hc).bind ?_))
  exact hinputs.bind_nil (.pure _)

theorem AllocationAuditCertificate.decode_encode {H : List UInt8 → Bytes32}
    {c : AllocationAuditCertificate} {bytes : List UInt8}
    (h : c.encodeCanonical H = .ok bytes) :
    AllocationAuditCertificate.decodeCanonical H bytes = .ok c := by
  obtain ⟨hid, h⟩ := unit_bind_eq_ok.mp h
  obtain ⟨body, hbody, h⟩ := bind_eq_ok.mp h
  rw [← Except.ok.inj h]
  obtain ⟨r, hr, hbody⟩ := bind_eq_ok.mp hbody
  obtain ⟨n, hn, hbody⟩ := bind_eq_ok.mp hbody
  obtain ⟨es, hes, hbody⟩ := bind_eq_ok.mp hbody
  have hproofs : Reads decodeAllocationAuditProofEntries (n ++ es.flatten) c.proofs :=
    (reads_boundedLen hn).bind
      (reads_readEnum (fun i _ _ hx => reads_proofEntry i hx) (mapEach_eq_ok.mp hes) 0)
  have hmagic : Reads (check (failIf (allocationAuditCertificateMagic ≠
      allocationAuditCertificateMagic) "allocation audit certificate has bad magic")) [] () :=
    .check (failIf_eq_ok.mpr (not_not.mpr rfl))
  refine run_ensureConsumed (a := c) ?_ (unit_bind_eq_ok.mpr ⟨hid, rfl⟩)
  rw [← Except.ok.inj hbody]
  refine (reads_bytes _).bind (hmagic.bind ((reads_bytes _).bind ?_))
  exact (reads_report hr).bind (hproofs.bind_nil (.pure _))

end RoundTrip

section Acceptance

lemma exact_u8 : Exact readCertificateU8 (fun b => [b]) (fun _ => True) := exact_readU8.mapErr

lemma exact_u64 : Exact readCertificateU64 le64 (fun _ => True) := exact_readU64.mapErr

lemma exact_bytes (n : ℕ) : Exact (readCertificateBytes n) Bytes.toList (fun _ => True) :=
  (exact_readArray n).mapErr

/-- The byte that says whether the value is there is zero or one, and an absent value is zero. -/
lemma exact_optionalU64 (label : String) :
    Exact (readOptionalU64 label) writeOptionalU64 (fun _ => True) := by
  intro bs x rest
  refine ⟨?_, ?_⟩
  · intro h
    simp only [readOptionalU64, exact_u8.bind_eq_ok, exact_u64.bind_eq_ok, check_eq_ok,
      true_and] at h
    obtain ⟨tag, _, rfl, value, _, rfl, h, rfl⟩ := h
    split_ifs at h with h0 hv h1
    all_goals
      obtain rfl := Except.ok.inj h
      simp_all [writeOptionalU64]
  · rintro ⟨-, rfl⟩
    exact reads_optionalU64 label x rest

lemma recovers_usize (label : String) : Recovers readUsizeFromU64 (writeUsizeAsU64 label) := by
  intro bs n rest h
  simp only [readUsizeFromU64, exact_u64.bind_eq_ok, reader_pure_eq_ok, true_and] at h
  obtain ⟨value, _, rfl, rfl, rfl⟩ := h
  have hlt : value.toNat < 2^64 := value.toNat_lt
  refine ⟨le64 value, unit_bind_eq_ok.mpr ⟨failIf_eq_ok.mpr (by omega), ?_⟩, rfl⟩
  rw [UInt64.ofNat_toNat]

lemma recovers_boundedLen (label : String) (max : ℕ) :
    Recovers (readBoundedLen label max) (fun n => writeCertificateLen label n max) := by
  intro bs n rest h
  have hu32 : Exact readCertificateU32 le32 (fun _ => True) := exact_readU32.mapErr
  simp only [readBoundedLen, hu32.bind_eq_ok, check_bind_eq_ok, reader_pure_eq_ok, true_and] at h
  obtain ⟨len, _, rfl, _, hmax, rfl, rfl⟩ := h
  have hlt : len.toNat < 2^32 := len.toNat_lt
  refine ⟨le32 len, unit_bind_eq_ok.mpr ⟨hmax, ?_⟩, rfl⟩
  refine unit_bind_eq_ok.mpr ⟨failIf_eq_ok.mpr (by omega), ?_⟩
  rw [UInt32.ofNat_toNat]

lemma recovers_blob (label : String) :
    Recovers (readCertificateBlob label) (writeCertificateBlob label) := by
  intro bs x rest h
  have hblob : Exact (readCertificateBlob label) (fun x => le32 (UInt32.ofNat x.length) ++ x)
      (fun x => x.length ≤ maxBlobBytes) := (exact_readBlob (by decide)).mapErr
  obtain ⟨hlen, rfl⟩ := (hblob bs x rest).mp h
  exact ⟨_, unit_bind_eq_ok.mpr ⟨failIf_eq_ok.mpr (not_lt.mpr hlen), rfl⟩, rfl⟩

lemma recovers_report : Recovers decodeAllocationAuditReport encodeAllocationAuditReport := by
  intro bs report rest h
  have hchain : Exact (mapErr certificateDecodeErr KaspaChainId.decode) KaspaChainId.encode
      (fun _ => True) := exact_chainId.mapErr
  obtain ⟨chainId, _, ⟨-, rfl⟩, h1⟩ := hchain.bind_eq_ok.mp h
  obtain ⟨spent, s, _, hs, rfl, h2⟩ := (recovers_usize "spent segment count").bind_eq_ok h1
  obtain ⟨new, n, _, hn, rfl, h3⟩ := (recovers_usize "new segment count").bind_eq_ok h2
  obtain ⟨pairs, p, _, hp, rfl, h4⟩ := (recovers_usize "exclusion pair count").bind_eq_ok h3
  simp only [exact_u64.bind_eq_ok, (exact_bytes 32).bind_eq_ok, reader_pure_eq_ok, true_and] at h4
  obtain ⟨_, _, rfl, _, _, rfl, _, _, rfl, _, _, rfl, _, _, rfl, _, _, rfl, rfl, rfl⟩ := h4
  refine ⟨_, bind_eq_ok.mpr ⟨s, hs, bind_eq_ok.mpr ⟨n, hn, bind_eq_ok.mpr ⟨p, hp, rfl⟩⟩⟩, ?_⟩
  simp only [List.append_assoc]

lemma recovers_proofEntry (index : ℕ) :
    Recovers (decodeAllocationAuditProofEntry index) encodeAllocationAuditProofEntry := by
  intro bs proof rest h
  obtain ⟨tag, _, ⟨-, rfl⟩, h1⟩ := exact_u8.bind_eq_ok.mp h
  obtain ⟨kind, hkind, h2⟩ := check_bind_eq_ok.mp h1
  obtain ⟨spent, _, ⟨-, rfl⟩, h3⟩ := (exact_optionalU64 _).bind_eq_ok.mp h2
  obtain ⟨new, _, ⟨-, rfl⟩, h4⟩ := (exact_optionalU64 _).bind_eq_ok.mp h3
  obtain ⟨pub, p, _, hp, rfl, h5⟩ := (recovers_blob _).bind_eq_ok h4
  obtain ⟨stackTag, _, ⟨-, rfl⟩, h6⟩ := exact_u8.bind_eq_ok.mp h5
  obtain ⟨key, k, _, hk, rfl, h7⟩ := (recovers_blob _).bind_eq_ok h6
  obtain ⟨body, q, _, hq, rfl, h8⟩ := (recovers_blob _).bind_eq_ok h7
  obtain ⟨count, c, _, hc, rfl, h9⟩ := (recovers_boundedLen _ _).bind_eq_ok h8
  obtain ⟨inputs, _, hinputs, h10⟩ := reader_bind_eq_ok.mp h9
  obtain ⟨rfl, rfl⟩ := reader_pure_eq_ok.mp h10
  obtain ⟨rfl, xs, hxs, rfl⟩ := recovers_readEnum (fun _ => recovers_blob _) hinputs
  obtain rfl := AllocationAuditProofKind.fromU8_eq_some.mp (okOr_eq_ok.mp hkind)
  refine ⟨_, bind_eq_ok.mpr ⟨p, hp, bind_eq_ok.mpr ⟨k, hk, bind_eq_ok.mpr ⟨q, hq,
    bind_eq_ok.mpr ⟨c, hc, bind_eq_ok.mpr ⟨xs, hxs, rfl⟩⟩⟩⟩⟩, ?_⟩
  simp only [List.append_assoc]

lemma recovers_certificate {buf rest : List UInt8} {c : AllocationAuditCertificate}
    (h : readCertificate buf = .ok (c, rest)) :
    ∃ body, allocationAuditCertificateBody c.report c.proofs = .ok body ∧
      buf = allocationAuditCertificateMagic.toList ++ (c.certificateId.toList ++ body) ++ rest := by
  obtain ⟨magic, _, ⟨-, rfl⟩, h1⟩ := (exact_bytes 8).bind_eq_ok.mp h
  obtain ⟨_, hmagic, h2⟩ := check_bind_eq_ok.mp h1
  obtain ⟨id, _, ⟨-, rfl⟩, h3⟩ := (exact_bytes 32).bind_eq_ok.mp h2
  obtain ⟨report, r, _, hr, rfl, h4⟩ := recovers_report.bind_eq_ok h3
  obtain ⟨proofs, _, hproofs, h5⟩ := reader_bind_eq_ok.mp h4
  obtain ⟨rfl, rfl⟩ := reader_pure_eq_ok.mp h5
  obtain ⟨count, n, _, hn, rfl, h6⟩ := (recovers_boundedLen _ _).bind_eq_ok hproofs
  obtain ⟨rfl, es, hes, rfl⟩ := recovers_readEnum recovers_proofEntry h6
  obtain rfl := not_not.mp (failIf_eq_ok.mp hmagic)
  refine ⟨_, bind_eq_ok.mpr ⟨r, hr, bind_eq_ok.mpr ⟨n, hn, bind_eq_ok.mpr ⟨es, hes, rfl⟩⟩⟩, ?_⟩
  simp only [List.append_assoc]

lemma AllocationAuditCertificate.encode_decode {H : List UInt8 → Bytes32}
    {c : AllocationAuditCertificate} {buf : List UInt8}
    (h : AllocationAuditCertificate.decodeCanonical H buf = .ok c) :
    c.encodeCanonical H = .ok buf := by
  obtain ⟨rest, h⟩ := runReader_eq_ok.mp h
  obtain ⟨read, mid, hread, h⟩ := reader_bind_eq_ok.mp h
  obtain ⟨hmid, h⟩ := ensureConsumed_bind_eq_ok.mp h
  obtain ⟨hid, hc⟩ := unit_bind_eq_ok.mp (check_eq_ok.mp h).1
  obtain rfl := Except.ok.inj hc
  obtain rfl := hmid
  obtain ⟨body, hbody, rfl⟩ := recovers_certificate hread
  exact unit_bind_eq_ok.mpr ⟨hid, bind_eq_ok.mpr ⟨body, hbody, by rw [List.append_nil]⟩⟩

/-- A byte string is accepted as a certificate exactly when it is what the certificate encodes
to. -/
theorem certificate_codec_canonical (H : List UInt8 → Bytes32) (c : AllocationAuditCertificate)
    (buf : List UInt8) :
    AllocationAuditCertificate.decodeCanonical H buf = .ok c ↔ c.encodeCanonical H = .ok buf :=
  ⟨AllocationAuditCertificate.encode_decode, AllocationAuditCertificate.decode_encode⟩

end Acceptance
end RgkProtocol.AuditCertificate
