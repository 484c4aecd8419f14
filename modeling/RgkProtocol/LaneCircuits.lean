import RgkProtocol.CircuitGadgets
import RgkProtocol.SegmentRoots

/-!
# Lane discovery circuits

A private lane is published as a blinded id and a scan tag that are both derived from a view key.
Three circuits prove such derivations without the key: for one lane, for a bounded graph of lanes
and for one segment of a graph of any size. Segments are chained by their rolling roots, so that the
last root stands for all lanes of the graph and for the keys behind them.
-/
namespace RgkProtocol.LaneCircuits
open ByteStrings Hashing CoreTypes Checked FieldPacking CircuitGadgets RollingRoots SegmentRoots

section Derivations
variable (H : List UInt8 → Bytes32)

def deriveBlindedLaneId (viewKey assetId : Bytes32) (epoch : UInt64) : Bytes32 :=
  domainHashStr H "rgk:lane:blinded-id:v1" (viewKey.toList ++ (assetId.toList ++ le64 epoch))

def RgkScanTag.derive (viewKey laneId : Bytes32) (epoch : UInt64) : Bytes32 :=
  domainHashStr H "rgk:lane:scan-tag:v1" (viewKey.toList ++ (laneId.toList ++ le64 epoch))

def discoverLane (viewKey assetId : Bytes32) (epoch : UInt64) (candidate : Bytes32) : Bool :=
  deriveBlindedLaneId H viewKey assetId epoch = candidate

def derivePrivateLaneGraphRoot (nodes : List RgkLaneGraphNode) : Bytes32 :=
  domainHashStr H "rgk:lane:graph-root:v1"
    (le64 (UInt64.ofNat nodes.length) ++ nodes.flatMap encodeLaneGraphNode)

end Derivations

section Statements
variable (H : List UInt8 → Bytes32)

structure LaneDiscoveryWitness where
  viewKey : Bytes32
  assetId : Bytes32
  deriving DecidableEq

structure LaneDiscoveryStatement where
  laneId : Bytes32
  scanTag : Bytes32
  epoch : UInt64
  deriving DecidableEq

def laneDiscoveryPublicInputLen : ℕ := 72

def LaneDiscoveryStatement.fromPrivate (viewKey assetId : Bytes32) (epoch : UInt64) :
    LaneDiscoveryStatement :=
  let laneId := deriveBlindedLaneId H viewKey assetId epoch
  ⟨laneId, RgkScanTag.derive H viewKey laneId epoch, epoch⟩

def LaneDiscoveryStatement.publicInputs (s : LaneDiscoveryStatement) : List UInt8 :=
  s.laneId.toList ++ (s.scanTag.toList ++ le64 s.epoch)

def LaneDiscoveryStatement.matchesWitness (s : LaneDiscoveryStatement) (w : LaneDiscoveryWitness) :
    Bool := s = .fromPrivate H w.viewKey w.assetId s.epoch

def LaneDiscoveryStatement.nativeNode (s : LaneDiscoveryStatement) : RgkLaneGraphNode :=
  ⟨s.laneId, s.scanTag, s.epoch⟩

/-- The statement for a bounded graph; the source fixes the number of lanes in its type. -/
structure LaneGraphDiscoveryStatement (lanes : ℕ) where
  graphRoot : Bytes32
  nodes : List LaneDiscoveryStatement
  nodes_length : nodes.length = lanes

def LaneGraphDiscoveryStatement.publicInputs {lanes : ℕ} (s : LaneGraphDiscoveryStatement lanes) :
    List UInt8 := s.graphRoot.toList ++ s.nodes.flatMap LaneDiscoveryStatement.publicInputs

def LaneGraphDiscoveryStatement.matchesWitness {lanes : ℕ} (s : LaneGraphDiscoveryStatement lanes)
    (w : LaneDiscoveryWitness) : Bool :=
  if lanes = 0 then false
  else s.graphRoot = derivePrivateLaneGraphRoot H (s.nodes.map LaneDiscoveryStatement.nativeNode) &&
    s.nodes.all (fun node => node.matchesWitness H w)

def LaneGraphDiscoveryStatement.fromPrivate (viewKey assetId : Bytes32) (epochs : List UInt64) :
    LaneGraphDiscoveryStatement epochs.length :=
  let nodes := epochs.map (LaneDiscoveryStatement.fromPrivate H viewKey assetId)
  ⟨derivePrivateLaneGraphRoot H (nodes.map LaneDiscoveryStatement.nativeNode), nodes,
    List.length_map _⟩

structure LaneGraphSegmentStatement (lanes : ℕ) where
  previousRoot : Bytes32
  nextRoot : Bytes32
  segmentIndex : UInt64
  nodes : List LaneDiscoveryStatement
  nodes_length : nodes.length = lanes

def LaneGraphSegmentStatement.nativeNodes {lanes : ℕ} (s : LaneGraphSegmentStatement lanes) :
    List RgkLaneGraphNode := s.nodes.map LaneDiscoveryStatement.nativeNode

def LaneGraphSegmentStatement.publicInputs {lanes : ℕ} (s : LaneGraphSegmentStatement lanes) :
    List UInt8 :=
  s.previousRoot.toList ++ (s.nextRoot.toList ++ (le64 s.segmentIndex ++
    s.nodes.flatMap LaneDiscoveryStatement.publicInputs))

def LaneGraphSegmentStatement.matchesWitness {lanes : ℕ} (s : LaneGraphSegmentStatement lanes)
    (w : LaneDiscoveryWitness) : Bool :=
  if lanes = 0 then false
  else s.nextRoot = extendPrivateLaneGraphRoot H s.previousRoot s.segmentIndex s.nativeNodes &&
    s.nodes.all (fun node => node.matchesWitness H w)

def LaneGraphSegmentStatement.fromPrivate (viewKey assetId previousRoot : Bytes32)
    (segmentIndex : UInt64) (epochs : List UInt64) : LaneGraphSegmentStatement epochs.length :=
  let nodes := epochs.map (LaneDiscoveryStatement.fromPrivate H viewKey assetId)
  ⟨previousRoot, extendPrivateLaneGraphRoot H previousRoot segmentIndex
    (nodes.map LaneDiscoveryStatement.nativeNode), segmentIndex, nodes, List.length_map _⟩

end Statements

section Construction
variable (H : List UInt8 → Bytes32)

/-- A lane circuit before synthesis. -/
structure LaneCircuit where
  publicInputs : List UInt8
  witness : LaneDiscoveryWitness
  deriving DecidableEq

def LaneDiscoveryCircuit.fromStatementAndWitness (s : LaneDiscoveryStatement)
    (w : LaneDiscoveryWitness) : Except String LaneCircuit := do
  failIf (s.matchesWitness H w = false)
    "lane discovery witness does not derive the public lane id and scan tag"
  .ok ⟨s.publicInputs, w⟩

def LaneGraphDiscoveryCircuit.fromStatementAndWitness {lanes : ℕ}
    (s : LaneGraphDiscoveryStatement lanes) (w : LaneDiscoveryWitness) :
    Except String LaneCircuit := do
  failIf (lanes = 0) "lane graph discovery requires at least one lane node"
  failIf (s.matchesWitness H w = false)
    "lane graph discovery witness does not derive the public graph nodes and root"
  .ok ⟨s.publicInputs, w⟩

def LaneGraphSegmentCircuit.fromStatementAndWitness {lanes : ℕ}
    (s : LaneGraphSegmentStatement lanes) (w : LaneDiscoveryWitness) :
    Except String LaneCircuit := do
  failIf (lanes = 0) "lane graph segment requires at least one lane node"
  failIf (s.matchesWitness H w = false)
    "lane graph segment witness does not derive the public segment nodes and root"
  .ok ⟨s.publicInputs, w⟩

end Construction

section Circuits
variable (H : List UInt8 → Bytes32)

/-- The values of the variables of a lane circuit: the public field elements, the public bytes once
more as witnesses, and the hidden key and asset. -/
structure LaneAssignment (length : ℕ) where
  publicFrs : List Fr
  publicBytes : List UInt8
  publicBytes_length : publicBytes.length = length
  viewKey : Bytes32
  assetId : Bytes32

/-- Constraints for one item after another; synthesis stops at the first error. -/
def forAll {α ε : Type} (f : α → Except ε Bool) : List α → Except ε Bool
  | [] => .ok true
  | a :: l => do
      let b ← f a
      let bs ← forAll f l
      .ok (b && bs)

/-- The nodes behind a prefix of the public bytes. -/
def nodeSlices (offset lanes : ℕ) (bytes : List UInt8) : List (List UInt8) :=
  (List.range lanes).map fun i => slice bytes (offset + i*laneDiscoveryPublicInputLen)
    (offset + i*laneDiscoveryPublicInputLen + laneDiscoveryPublicInputLen)

def enforceLaneDiscoveryNodeLayout (node : List UInt8) : Except SynthesisError Bool := do
  failIf (node.length ≠ laneDiscoveryPublicInputLen) .unsatisfiable
  .ok (decide (enforceNonzeroBytes (slice node 0 32) ∧ enforceNonzeroBytes (slice node 32 64)))

/-- The two derivations of a node, which the three circuits share. -/
def laneNodeConstraints (w : LaneDiscoveryWitness) (node : List UInt8) : Bool :=
  domainHashDigest H "rgk:lane:blinded-id:v1"
      (w.viewKey.toList ++ (w.assetId.toList ++ slice node 64 72)) = slice node 0 32 ∧
    domainHashDigest H "rgk:lane:scan-tag:v1"
      (w.viewKey.toList ++ (slice node 0 32 ++ slice node 64 72)) = slice node 32 64

def enforceLaneDiscoveryPublicLayout (bytes : List UInt8) : Except SynthesisError Bool := do
  failIf (bytes.length ≠ laneDiscoveryPublicInputLen) .unsatisfiable
  enforceLaneDiscoveryNodeLayout bytes

/-- The body that the three circuits share: the public bytes are packed into the public field
elements, have their layout and satisfy the hash constraints. -/
def laneConstraints (length : ℕ) (layout : List UInt8 → Except SynthesisError Bool)
    (hashes : LaneDiscoveryWitness → List UInt8 → Bool) (publicInputs : List UInt8)
    (a : LaneAssignment publicInputs.length) : Except SynthesisError Bool := do
  failIf (publicInputs.length ≠ length) .unsatisfiable
  let holds ← layout a.publicBytes
  .ok (decide (enforceFrsEqual (digestBytesAsFrs a.publicBytes) a.publicFrs) && holds &&
    hashes ⟨a.viewKey, a.assetId⟩ a.publicBytes)

def LaneDiscoveryCircuit.generateConstraints (publicInputs : List UInt8)
    (a : LaneAssignment publicInputs.length) : Except SynthesisError Bool :=
  laneConstraints laneDiscoveryPublicInputLen enforceLaneDiscoveryPublicLayout
    (fun w bytes => laneNodeConstraints H w bytes) publicInputs a

def laneGraphDiscoveryPublicInputLen (lanes : ℕ) : ℕ := 32 + lanes*laneDiscoveryPublicInputLen

def enforceLaneGraphDiscoveryPublicLayout (lanes : ℕ) (bytes : List UInt8) :
    Except SynthesisError Bool := do
  failIf (lanes = 0 ∨ bytes.length ≠ laneGraphDiscoveryPublicInputLen lanes) .unsatisfiable
  let nodes ← forAll enforceLaneDiscoveryNodeLayout (nodeSlices 32 lanes bytes)
  .ok (decide (enforceNonzeroBytes (slice bytes 0 32)) && nodes)

def LaneGraphDiscoveryCircuit.generateConstraints (lanes : ℕ) (publicInputs : List UInt8)
    (a : LaneAssignment publicInputs.length) : Except SynthesisError Bool := do
  failIf (lanes = 0) .unsatisfiable
  laneConstraints (laneGraphDiscoveryPublicInputLen lanes)
    (enforceLaneGraphDiscoveryPublicLayout lanes)
    (fun w bytes => decide (domainHashDigest H "rgk:lane:graph-root:v1"
        (le64 (UInt64.ofNat lanes) ++ bytes.drop 32) = slice bytes 0 32) &&
      (nodeSlices 32 lanes bytes).all (laneNodeConstraints H w)) publicInputs a

def laneGraphSegmentPublicInputLen (lanes : ℕ) : ℕ := 72 + lanes*laneDiscoveryPublicInputLen

def enforceLaneGraphSegmentPublicLayout (lanes : ℕ) (bytes : List UInt8) :
    Except SynthesisError Bool := do
  failIf (lanes = 0 ∨ bytes.length ≠ laneGraphSegmentPublicInputLen lanes) .unsatisfiable
  let nodes ← forAll enforceLaneDiscoveryNodeLayout (nodeSlices 72 lanes bytes)
  .ok (decide (enforceNonzeroBytes (slice bytes 0 32) ∧ enforceNonzeroBytes (slice bytes 32 64) ∧
    slice bytes 0 32 ≠ slice bytes 32 64) && nodes)

def LaneGraphSegmentCircuit.generateConstraints (lanes : ℕ) (publicInputs : List UInt8)
    (a : LaneAssignment publicInputs.length) : Except SynthesisError Bool := do
  failIf (lanes = 0) .unsatisfiable
  laneConstraints (laneGraphSegmentPublicInputLen lanes)
    (enforceLaneGraphSegmentPublicLayout lanes)
    (fun w bytes => decide (domainHashDigest H "rgk:lane:graph-segment-root:v1"
        (slice bytes 0 32 ++ (slice bytes 64 72 ++ (le64 (UInt64.ofNat lanes) ++
          bytes.drop 72))) = slice bytes 32 64) &&
      (nodeSlices 72 lanes bytes).all (laneNodeConstraints H w)) publicInputs a

/-- The values that synthesis assigns to the variables. -/
def LaneCircuit.assignment (c : LaneCircuit) : LaneAssignment c.publicInputs.length :=
  ⟨publicInputsAsVars c.publicInputs, c.publicInputs, rfl, c.witness.viewKey, c.witness.assetId⟩

/-- A proof for the public inputs: a circuit of the kind, and values that satisfy it with these
public field elements. -/
def Proves (generate : (p : List UInt8) → LaneAssignment p.length → Except SynthesisError Bool)
    (publicInputs : List UInt8) (w : LaneDiscoveryWitness) : Prop :=
  ∃ p, ∃ a : LaneAssignment p.length, generate p a = .ok true ∧
    a.publicFrs = publicInputsAsVars publicInputs ∧ w = ⟨a.viewKey, a.assetId⟩

end Circuits

section Nodes
variable {H : List UInt8 → Bytes32}

/-- The fields that the layout constraints require. -/
def LaneDiscoveryStatement.Nonzero (s : LaneDiscoveryStatement) : Prop :=
  s.laneId ≠ Bytes.zero ∧ s.scanTag ≠ Bytes.zero

lemma forAll_eq_true {α ε : Type} {f : α → Except ε Bool} {l : List α} :
    forAll f l = .ok true ↔ ∀ a ∈ l, f a = .ok true := by
  induction l with
  | nil => simp [forAll]
  | cons a l ih =>
    rw [List.forall_mem_cons, ← ih, forAll, bind_eq_ok]
    constructor
    · rintro ⟨b, hb, h⟩
      rw [bind_eq_ok] at h
      obtain ⟨bs, hbs, h⟩ := h
      rw [Except.ok.injEq, Bool.and_eq_true] at h
      exact ⟨by rw [hb, h.1], by rw [hbs, h.2]⟩
    · rintro ⟨ha, hl⟩
      exact ⟨true, ha, bind_eq_ok.mpr ⟨true, hl, rfl⟩⟩

lemma length_publicInputs_node (s : LaneDiscoveryStatement) : s.publicInputs.length = 72 := by
  simp [LaneDiscoveryStatement.publicInputs]

lemma slice_laneId (s : LaneDiscoveryStatement) : slice s.publicInputs 0 32 = s.laneId.toList :=
  slice_append_left s.laneId.length_toList

lemma slice_scanTag (s : LaneDiscoveryStatement) :
    slice s.publicInputs 32 64 = s.scanTag.toList := by
  rw [LaneDiscoveryStatement.publicInputs, slice_append_right (by simp), s.laneId.length_toList]
  exact slice_append_left s.scanTag.length_toList

lemma slice_epoch (s : LaneDiscoveryStatement) : slice s.publicInputs 64 72 = le64 s.epoch := by
  rw [LaneDiscoveryStatement.publicInputs, slice_append_right (by simp), slice_append_right (by simp),
    s.laneId.length_toList, s.scanTag.length_toList]
  exact slice_full (length_le64 s.epoch)

lemma nodeLayout_eq_true (s : LaneDiscoveryStatement) :
    enforceLaneDiscoveryNodeLayout s.publicInputs = .ok true ↔ s.Nonzero := by
  rw [enforceLaneDiscoveryNodeLayout, unit_bind_eq_ok, failIf_eq_ok, Except.ok.injEq,
    decide_eq_true_eq, slice_laneId, slice_scanTag, enforceNonzeroBytes_toList,
    enforceNonzeroBytes_toList, length_publicInputs_node]
  exact and_iff_right (not_not.mpr rfl)

lemma laneNodeConstraints_eq_true (s : LaneDiscoveryStatement) {w : LaneDiscoveryWitness} :
    laneNodeConstraints H w s.publicInputs = true ↔
      s.matchesWitness H w = true := by
  obtain ⟨laneId, scanTag, epoch⟩ := s
  rw [laneNodeConstraints, slice_laneId, slice_scanTag, slice_epoch, decide_eq_true_eq,
    LaneDiscoveryStatement.matchesWitness, decide_eq_true_eq, LaneDiscoveryStatement.fromPrivate,
    domainHashDigest, domainHashDigest, Bytes.toList_inj, Bytes.toList_inj,
    LaneDiscoveryStatement.mk.injEq]
  dsimp only
  constructor
  · rintro ⟨rfl, rfl⟩
    exact ⟨rfl, rfl, rfl⟩
  · rintro ⟨rfl, rfl, -⟩
    exact ⟨rfl, rfl⟩

lemma slice_flatMap (nodes : List LaneDiscoveryStatement) {i : ℕ} (hi : i < nodes.length) :
    slice (nodes.flatMap LaneDiscoveryStatement.publicInputs) (i*72) (i*72 + 72) =
      nodes[i].publicInputs := by
  induction nodes generalizing i with
  | nil => simp at hi
  | cons node nodes ih =>
    have hlen := length_publicInputs_node node
    rw [List.flatMap_cons]
    cases i with
    | zero => simpa using slice_append_left hlen
    | succ i =>
      rw [slice_append_right (by omega), hlen, List.getElem_cons_succ,
        ← ih (Nat.lt_of_succ_lt_succ hi)]
      congr 1 <;> omega

/-- The circuits cut the nodes where the statement put them. -/
lemma nodeSlices_append {before : List UInt8} {offset : ℕ} (hlen : before.length = offset)
    (nodes : List LaneDiscoveryStatement) :
    nodeSlices offset nodes.length
        (before ++ nodes.flatMap LaneDiscoveryStatement.publicInputs) =
      nodes.map LaneDiscoveryStatement.publicInputs := by
  subst hlen
  refine List.ext_getElem (by simp [nodeSlices]) fun i hi hi' => ?_
  have hlt : i < nodes.length := by simpa using hi'
  simp only [nodeSlices, laneDiscoveryPublicInputLen, List.getElem_map, List.getElem_range]
  rw [slice_append_right (by omega), ← slice_flatMap nodes hlt]
  congr 1 <;> omega

lemma publicBytes_eq {bytes publicInputs : List UInt8} (hlen : bytes.length = publicInputs.length)
    (h : digestBytesAsFrs bytes = publicInputsAsVars publicInputs) : bytes = publicInputs :=
  packBytes_injective pow_le_bn254 hlen h

lemma nativeNode_injective : Function.Injective LaneDiscoveryStatement.nativeNode := by
  rintro ⟨l, t, e⟩ ⟨l', t', e'⟩ h
  rw [LaneDiscoveryStatement.nativeNode, LaneDiscoveryStatement.nativeNode,
    RgkLaneGraphNode.mk.injEq] at h
  rwa [LaneDiscoveryStatement.mk.injEq]

lemma flatMap_nativeNode (nodes : List LaneDiscoveryStatement) :
    (nodes.map LaneDiscoveryStatement.nativeNode).flatMap encodeLaneGraphNode =
      nodes.flatMap LaneDiscoveryStatement.publicInputs := by
  rw [List.flatMap_map]
  rfl

lemma forAll_nodeLayout {nodes : List LaneDiscoveryStatement} :
    forAll enforceLaneDiscoveryNodeLayout (nodes.map LaneDiscoveryStatement.publicInputs) =
      .ok true ↔ ∀ node ∈ nodes, node.Nonzero := by
  rw [forAll_eq_true, List.forall_mem_map]
  exact forall₂_congr fun node _ => nodeLayout_eq_true node

lemma all_laneNodeConstraints {nodes : List LaneDiscoveryStatement} {w : LaneDiscoveryWitness} :
    (nodes.map LaneDiscoveryStatement.publicInputs).all (laneNodeConstraints H w) =
      nodes.all fun node => node.matchesWitness H w := by
  rw [List.all_map, Bool.eq_iff_iff, List.all_eq_true, List.all_eq_true]
  exact forall₂_congr fun node _ => laneNodeConstraints_eq_true node

end Nodes

section Meaning
variable {H : List UInt8 → Bytes32} {lanes : ℕ} {w : LaneDiscoveryWitness}

/-- A lane circuit is satisfied by values for some public inputs exactly if these have the layout
and satisfy the hash constraints: the public field elements leave no choice for the bytes. -/
lemma laneConstraints_proves {length : ℕ} {layout : List UInt8 → Except SynthesisError Bool}
    {hashes : LaneDiscoveryWitness → List UInt8 → Bool} {publicInputs : List UInt8}
    (hlen : publicInputs.length = length) :
    Proves (laneConstraints length layout hashes) publicInputs w ↔
      layout publicInputs = .ok true ∧ hashes w publicInputs = true := by
  constructor
  · rintro ⟨p, a, hgen, hfrs, rfl⟩
    rw [laneConstraints, unit_bind_eq_ok, failIf_eq_ok, not_not, bind_eq_ok] at hgen
    obtain ⟨hp, holds, hlayout, hgen⟩ := hgen
    rw [Except.ok.injEq, Bool.and_eq_true, Bool.and_eq_true, decide_eq_true_eq] at hgen
    obtain ⟨⟨hequal, rfl⟩, hhashes⟩ := hgen
    have hbytes : a.publicBytes = publicInputs := by
      refine publicBytes_eq ?_ (Eq.trans hequal hfrs)
      rw [a.publicBytes_length, hp, hlen]
    rw [hbytes] at hlayout hhashes
    exact ⟨hlayout, hhashes⟩
  · rintro ⟨hlayout, hhashes⟩
    refine ⟨_, LaneCircuit.assignment ⟨publicInputs, w⟩, ?_, rfl, rfl⟩
    rw [laneConstraints, unit_bind_eq_ok, failIf_eq_ok, not_not, bind_eq_ok]
    refine ⟨hlen, true, hlayout, ?_⟩
    rw [Except.ok.injEq, Bool.and_eq_true, Bool.and_eq_true, decide_eq_true_eq]
    exact ⟨⟨rfl, rfl⟩, hhashes⟩

lemma proves_guarded {generate : (p : List UInt8) → LaneAssignment p.length →
    Except SynthesisError Bool} {publicInputs : List UInt8} :
    Proves (fun p a => do
      failIf (lanes = 0) .unsatisfiable
      generate p a) publicInputs w ↔ lanes ≠ 0 ∧ Proves generate publicInputs w := by
  simp only [Proves, unit_bind_eq_ok, failIf_eq_ok]
  constructor
  · rintro ⟨p, a, ⟨hlanes, hgen⟩, hrest⟩
    exact ⟨hlanes, p, a, hgen, hrest⟩
  · rintro ⟨hlanes, p, a, hgen, hrest⟩
    exact ⟨p, a, ⟨hlanes, hgen⟩, hrest⟩

lemma laneDiscovery_proves (s : LaneDiscoveryStatement) :
    Proves (LaneDiscoveryCircuit.generateConstraints H) s.publicInputs w ↔
      s.Nonzero ∧ s.matchesWitness H w = true := by
  have hlen : s.publicInputs.length = laneDiscoveryPublicInputLen := length_publicInputs_node s
  refine (laneConstraints_proves hlen).trans (and_congr ?_ (laneNodeConstraints_eq_true s))
  rw [enforceLaneDiscoveryPublicLayout, unit_bind_eq_ok, failIf_eq_ok, nodeLayout_eq_true]
  exact and_iff_right (not_not.mpr hlen)

/-- The fields that the layout constraints of a graph require. -/
def LaneGraphDiscoveryStatement.Nonzero (s : LaneGraphDiscoveryStatement lanes) : Prop :=
  s.graphRoot ≠ Bytes.zero ∧ ∀ node ∈ s.nodes, node.Nonzero

lemma length_flatMap_publicInputs (nodes : List LaneDiscoveryStatement) :
    (nodes.flatMap LaneDiscoveryStatement.publicInputs).length = nodes.length*72 := by
  induction nodes with
  | nil => rfl
  | cons node nodes ih =>
    rw [List.flatMap_cons, List.length_append, ih, length_publicInputs_node, List.length_cons]
    omega

lemma guarded_eq_true {root : Prop} [Decidable root] {nodes : Bool} :
    (if lanes = 0 then false else decide root && nodes) = true ↔
      lanes ≠ 0 ∧ root ∧ nodes = true := by
  split_ifs with hlanes
  · exact iff_of_false nofun fun h => h.1 hlanes
  · rw [Bool.and_eq_true, decide_eq_true_eq]
    exact (and_iff_right hlanes).symm

lemma LaneGraphDiscoveryStatement.matchesWitness_iff (s : LaneGraphDiscoveryStatement lanes) :
    s.matchesWitness H w = true ↔ lanes ≠ 0 ∧
      s.graphRoot = derivePrivateLaneGraphRoot H (s.nodes.map LaneDiscoveryStatement.nativeNode) ∧
      (s.nodes.all fun node => node.matchesWitness H w) = true :=
  guarded_eq_true

/-- The public bytes of a graph, behind a head of some length. -/
def withNodes (head : List UInt8) (nodes : List LaneDiscoveryStatement) : List UInt8 :=
  head ++ nodes.flatMap LaneDiscoveryStatement.publicInputs

/-- What the circuits for graphs prove. They differ in the head of the public bytes, in what they
ask of it and in the hash over it. -/
lemma graphConstraints_proves {offset : ℕ} {head : List UInt8} (hhead : head.length = offset)
    (nodes : List LaneDiscoveryStatement) {layout root : List UInt8 → Prop} [DecidablePred layout]
    [DecidablePred root] :
    Proves (fun p a => do
        failIf (nodes.length = 0) .unsatisfiable
        laneConstraints (offset + nodes.length*laneDiscoveryPublicInputLen) (fun bytes => do
            failIf (nodes.length = 0 ∨
              bytes.length ≠ offset + nodes.length*laneDiscoveryPublicInputLen) .unsatisfiable
            let held ← forAll enforceLaneDiscoveryNodeLayout (nodeSlices offset nodes.length bytes)
            .ok (decide (layout bytes) && held))
          (fun w bytes => decide (root bytes) &&
            (nodeSlices offset nodes.length bytes).all (laneNodeConstraints H w)) p a)
        (withNodes head nodes) w ↔
      (layout (withNodes head nodes) ∧ ∀ node ∈ nodes, node.Nonzero) ∧ nodes.length ≠ 0 ∧
        root (withNodes head nodes) ∧ (nodes.all fun node => node.matchesWitness H w) = true := by
  have hlen : (withNodes head nodes).length =
      offset + nodes.length*laneDiscoveryPublicInputLen := by
    rw [withNodes, List.length_append, length_flatMap_publicInputs, hhead]
    rfl
  have hnodes : nodeSlices offset nodes.length (withNodes head nodes) = _ :=
    nodeSlices_append hhead nodes
  refine proves_guarded.trans ?_
  rw [laneConstraints_proves hlen, unit_bind_eq_ok, failIf_eq_ok, bind_eq_ok, hnodes,
    all_laneNodeConstraints]
  simp only [Except.ok.injEq, Bool.and_eq_true, decide_eq_true_eq, hlen, ← forAll_nodeLayout, ne_eq,
    not_true, or_false]
  constructor
  · rintro ⟨hlanes, ⟨-, b, hb, hlayout, rfl⟩, hderived⟩
    exact ⟨⟨hlayout, hb⟩, hlanes, hderived⟩
  · rintro ⟨⟨hlayout, hb⟩, hlanes, hderived⟩
    exact ⟨hlanes, ⟨hlanes, true, hb, hlayout, rfl⟩, hderived⟩

lemma laneGraphDiscovery_proves (s : LaneGraphDiscoveryStatement lanes) :
    Proves (LaneGraphDiscoveryCircuit.generateConstraints H lanes) s.publicInputs w ↔
      s.Nonzero ∧ s.matchesWitness H w = true := by
  obtain ⟨root, nodes, rfl⟩ := s
  have hroot : slice (withNodes root.toList nodes) 0 32 = root.toList :=
    slice_append_left root.length_toList
  have hrest : (withNodes root.toList nodes).drop 32 = _ := List.drop_left' root.length_toList
  refine (graphConstraints_proves root.length_toList nodes).trans ?_
  rw [hroot, hrest, LaneGraphDiscoveryStatement.matchesWitness_iff, enforceNonzeroBytes_toList,
    domainHashDigest, Bytes.toList_inj, derivePrivateLaneGraphRoot, flatMap_nativeNode,
    List.length_map, eq_comm (a := domainHashStr _ _ _)]
  rfl

/-- The fields that the layout constraints of a segment require. -/
def LaneGraphSegmentStatement.Nonzero (s : LaneGraphSegmentStatement lanes) : Prop :=
  s.previousRoot ≠ Bytes.zero ∧ s.nextRoot ≠ Bytes.zero ∧ s.previousRoot ≠ s.nextRoot ∧
    ∀ node ∈ s.nodes, node.Nonzero

lemma LaneGraphSegmentStatement.matchesWitness_iff (s : LaneGraphSegmentStatement lanes) :
    s.matchesWitness H w = true ↔ lanes ≠ 0 ∧
      s.nextRoot = extendPrivateLaneGraphRoot H s.previousRoot s.segmentIndex s.nativeNodes ∧
      (s.nodes.all fun node => node.matchesWitness H w) = true :=
  guarded_eq_true

lemma laneGraphSegment_proves (s : LaneGraphSegmentStatement lanes) :
    Proves (LaneGraphSegmentCircuit.generateConstraints H lanes) s.publicInputs w ↔
      s.Nonzero ∧ s.matchesWitness H w = true := by
  obtain ⟨previous, next, index, nodes, rfl⟩ := s
  set bytes := withNodes (previous.toList ++ (next.toList ++ le64 index)) nodes with hwith
  have hhead : (previous.toList ++ (next.toList ++ le64 index)).length = 72 := by simp
  have hbytes : bytes = LaneGraphSegmentStatement.publicInputs
      ⟨previous, next, index, nodes, rfl⟩ := by
    rw [hwith, withNodes, List.append_assoc, List.append_assoc]
    rfl
  have hfirst : slice bytes 0 32 = previous.toList := by
    rw [hbytes]
    exact slice_append_left previous.length_toList
  have hsecond : slice bytes 32 64 = next.toList := by
    rw [hbytes, LaneGraphSegmentStatement.publicInputs, slice_append_right (by simp),
      previous.length_toList]
    exact slice_append_left next.length_toList
  have hindex : slice bytes 64 72 = le64 index := by
    rw [hbytes, LaneGraphSegmentStatement.publicInputs, slice_append_right (by simp),
      slice_append_right (by simp), previous.length_toList, next.length_toList]
    exact slice_append_left (length_le64 index)
  have hrest : bytes.drop 72 = _ := List.drop_left' hhead
  rw [← hbytes]
  refine (graphConstraints_proves hhead nodes).trans ?_
  rw [← hwith, hfirst, hsecond, hindex, hrest, LaneGraphSegmentStatement.matchesWitness_iff,
    extendPrivateLaneGraphRoot, laneGraphSegmentPayload, LaneGraphSegmentStatement.nativeNodes,
    flatMap_nativeNode, List.length_map]
  simp only [enforceNonzeroBytes_toList, ne_eq, Bytes.toList_inj, domainHashDigest,
    LaneGraphSegmentStatement.Nonzero, and_assoc, eq_comm]

end Meaning

/-- A circuit that the constructor builds from a statement and a witness can be proved, and proofs
come from such circuits only, as long as no public field is zero and the roots of a segment differ.
These conditions are the circuit's alone. -/
theorem lane_circuits_prove_derivations (H : List UInt8 → Bytes32) (w : LaneDiscoveryWitness) :
    (∀ s : LaneDiscoveryStatement,
      Proves (LaneDiscoveryCircuit.generateConstraints H) s.publicInputs w ↔
        s.Nonzero ∧ LaneDiscoveryCircuit.fromStatementAndWitness H s w = .ok ⟨s.publicInputs, w⟩) ∧
    (∀ (lanes : ℕ) (s : LaneGraphDiscoveryStatement lanes),
      Proves (LaneGraphDiscoveryCircuit.generateConstraints H lanes) s.publicInputs w ↔
        s.Nonzero ∧
          LaneGraphDiscoveryCircuit.fromStatementAndWitness H s w = .ok ⟨s.publicInputs, w⟩) ∧
    ∀ (lanes : ℕ) (s : LaneGraphSegmentStatement lanes),
      Proves (LaneGraphSegmentCircuit.generateConstraints H lanes) s.publicInputs w ↔
        s.Nonzero ∧
          LaneGraphSegmentCircuit.fromStatementAndWitness H s w = .ok ⟨s.publicInputs, w⟩ := by
  refine ⟨fun s => ?_, fun lanes s => ?_, fun lanes s => ?_⟩
  · rw [laneDiscovery_proves, LaneDiscoveryCircuit.fromStatementAndWitness, unit_bind_eq_ok,
      failIf_eq_ok, Bool.not_eq_false]
    simp only [and_true]
  · rw [laneGraphDiscovery_proves, LaneGraphDiscoveryCircuit.fromStatementAndWitness,
      unit_bind_eq_ok, unit_bind_eq_ok, failIf_eq_ok, failIf_eq_ok, Bool.not_eq_false]
    simp only [and_true]
    exact and_congr_right fun _ =>
      (and_iff_right_of_imp fun h => (s.matchesWitness_iff.mp h).1).symm
  · rw [laneGraphSegment_proves, LaneGraphSegmentCircuit.fromStatementAndWitness,
      unit_bind_eq_ok, unit_bind_eq_ok, failIf_eq_ok, failIf_eq_ok, Bool.not_eq_false]
    simp only [and_true]
    exact and_congr_right fun _ =>
      (and_iff_right_of_imp fun h => (s.matchesWitness_iff.mp h).1).symm

section Graphs
variable {H : List UInt8 → Bytes32}

/-- A segment with its proof. -/
structure ProvedSegment (H : List UInt8 → Bytes32) where
  lanes : ℕ
  statement : LaneGraphSegmentStatement lanes
  witness : LaneDiscoveryWitness
  proves : Proves (LaneGraphSegmentCircuit.generateConstraints H lanes) statement.publicInputs
    witness

/-- Segments that continue each other from a root and an index on. -/
def Contiguous : Bytes32 → UInt64 → List (ProvedSegment H) → Prop
  | _, _, [] => True
  | root, i, seg :: segs => seg.statement.previousRoot = root ∧ seg.statement.segmentIndex = i ∧
      Contiguous seg.statement.nextRoot (i+1) segs

def lastRoot : Bytes32 → List (ProvedSegment H) → Bytes32
  | root, [] => root
  | _, seg :: segs => lastRoot seg.statement.nextRoot segs

/-- A lane graph of any size: a contiguous chain of proved segments from the empty root. -/
structure LaneGraphProof (H : List UInt8 → Bytes32) where
  segments : List (ProvedSegment H)
  contiguous : Contiguous (privateLaneGraphEmptyRoot H) 0 segments

def LaneGraphProof.finalRoot (g : LaneGraphProof H) : Bytes32 :=
  lastRoot (privateLaneGraphEmptyRoot H) g.segments

def LaneGraphProof.nodes (g : LaneGraphProof H) : List (List RgkLaneGraphNode) :=
  g.segments.map fun seg => seg.statement.nativeNodes

/-- The string that a blinded lane id is the hash of. -/
def laneIdPreimage (w : LaneDiscoveryWitness) (epoch : UInt64) : List UInt8 :=
  taggedPreimage "rgk:lane:blinded-id:v1" (w.viewKey.toList ++ (w.assetId.toList ++ le64 epoch))

/-- The strings that are hashed for a graph. -/
def LaneGraphProof.strings (g : LaneGraphProof H) : List (List UInt8) :=
  laneGraphPreimages H g.nodes ++ g.segments.flatMap fun seg =>
    seg.statement.nodes.map fun node => laneIdPreimage seg.witness node.epoch

lemma ProvedSegment.matches (seg : ProvedSegment H) :
    seg.lanes ≠ 0 ∧ seg.statement.nextRoot = extendPrivateLaneGraphRoot H
        seg.statement.previousRoot seg.statement.segmentIndex seg.statement.nativeNodes ∧
      ∀ node ∈ seg.statement.nodes, node = .fromPrivate H seg.witness.viewKey seg.witness.assetId
        node.epoch := by
  obtain ⟨hlanes, hroot, hnodes⟩ :=
    seg.statement.matchesWitness_iff.mp ((laneGraphSegment_proves seg.statement).mp seg.proves).2
  refine ⟨hlanes, hroot, fun node hnode => ?_⟩
  have hmatches := List.all_eq_true.mp hnodes node hnode
  rwa [LaneDiscoveryStatement.matchesWitness, decide_eq_true_eq] at hmatches

/-- The last root of contiguous segments is the rolling root over their nodes. -/
lemma lastRoot_eq_rootFrom {root : Bytes32} {i : ℕ} {segs : List (ProvedSegment H)}
    (h : Contiguous root (UInt64.ofNat i) segs) :
    lastRoot root segs = rootFrom (extendLaneGraphAt H) root i
      (segs.map fun seg => seg.statement.nativeNodes) := by
  induction segs generalizing root i with
  | nil => rfl
  | cons seg segs ih =>
    obtain ⟨hprevious, hindex, hrest⟩ := h
    have hnext : seg.statement.nextRoot =
        extendLaneGraphAt H root i seg.statement.nativeNodes := by
      rw [seg.matches.2.1, hprevious, hindex]
      rfl
    rw [← UInt64.ofNat_one, ← UInt64.ofNat_add] at hrest
    rw [lastRoot, List.map_cons, rootFrom, ← hnext]
    exact ih hrest

lemma LaneGraphProof.finalRoot_eq (g : LaneGraphProof H) :
    g.finalRoot = laneGraphRoot H g.nodes :=
  lastRoot_eq_rootFrom (i := 0) g.contiguous

lemma LaneGraphProof.laneIdPreimage_mem (g : LaneGraphProof H) {seg : ProvedSegment H}
    (hseg : seg ∈ g.segments) {node : LaneDiscoveryStatement}
    (hnode : node ∈ seg.statement.nodes) :
    laneIdPreimage seg.witness node.epoch ∈ g.strings :=
  List.mem_append_right _ (List.mem_flatMap.mpr ⟨seg, hseg, List.mem_map_of_mem hnode⟩)

/-- Two segments with the same nodes were proved with the same key and asset. -/
lemma witness_eq_of_nodes_eq {Q : Set (List UInt8)} (hcf : CollisionFree H Q)
    {a b : ProvedSegment H} (hnodes : a.statement.nativeNodes = b.statement.nativeNodes)
    (ha : ∀ node ∈ a.statement.nodes, laneIdPreimage a.witness node.epoch ∈ Q)
    (hb : ∀ node ∈ b.statement.nodes, laneIdPreimage b.witness node.epoch ∈ Q) :
    a.witness = b.witness := by
  obtain ⟨hlanes, -, hfrom⟩ := a.matches
  obtain ⟨-, -, hfrom'⟩ := b.matches
  have hpos : 0 < a.statement.nodes.length := by
    rw [a.statement.nodes_length]
    exact Nat.pos_of_ne_zero hlanes
  -- A segment has a lane, which the other segment has too.
  obtain ⟨node, hnode⟩ := List.exists_mem_of_length_pos hpos
  have hmem : node.nativeNode ∈ b.statement.nativeNodes := hnodes ▸ List.mem_map_of_mem hnode
  obtain ⟨node', hnode', hsame⟩ := List.mem_map.mp hmem
  obtain rfl : node' = node := nativeNode_injective hsame
  have hlane : deriveBlindedLaneId H a.witness.viewKey a.witness.assetId node'.epoch =
      deriveBlindedLaneId H b.witness.viewKey b.witness.assetId node'.epoch := by
    have h := congrArg LaneDiscoveryStatement.laneId ((hfrom node' hnode).symm.trans
      (hfrom' node' hnode'))
    exact h
  have hpayload := payload_eq_of_domainHashStr_eq hcf (ha node' hnode) (hb node' hnode') hlane
  simp only [Bytes.append_inj] at hpayload
  obtain ⟨hkey, hasset, -⟩ := hpayload
  cases ha' : a.witness
  cases hb' : b.witness
  simp only [ha', hb'] at hkey hasset
  rw [hkey, hasset]

/-- The final root of a proved lane graph stands for the lanes in their segments and for the key and
the asset behind each segment; each lane is discovered with that key. -/
theorem graph_root_binds_lanes_and_keys (H : List UInt8 → Bytes32) (g g' : LaneGraphProof H)
    (hcf : CollisionFree H {x | x ∈ g.strings ∨ x ∈ g'.strings})
    (hroot : g.finalRoot = g'.finalRoot) :
    List.Forall₂ (fun a b => a.statement.nativeNodes = b.statement.nativeNodes ∧
        a.witness = b.witness) g.segments g'.segments ∧
      ∀ seg ∈ g.segments, ∀ node ∈ seg.statement.nodes,
        discoverLane H seg.witness.viewKey seg.witness.assetId node.epoch node.laneId = true := by
  rw [g.finalRoot_eq, g'.finalRoot_eq] at hroot
  have hnodes := segments_eq_of_laneGraphRoot_eq hcf
    (fun x hx => Or.inl (List.mem_append_left _ hx)) (fun x hx => Or.inr (List.mem_append_left _ hx))
    hroot
  refine ⟨?_, fun seg hseg node hnode => ?_⟩
  · have hmap : List.Forall₂ (fun a b => a.statement.nativeNodes = b.statement.nativeNodes)
        g.segments g'.segments := by
      rw [LaneGraphProof.nodes, LaneGraphProof.nodes, ← List.forall₂_eq_eq_eq,
        List.forall₂_map_left_iff, List.forall₂_map_right_iff] at hnodes
      exact hnodes
    rw [List.forall₂_iff_zip] at hmap ⊢
    refine ⟨hmap.1, fun {a b} hab => ?_⟩
    obtain ⟨ha, hb⟩ := List.of_mem_zip hab
    exact ⟨hmap.2 hab, witness_eq_of_nodes_eq hcf (hmap.2 hab)
      (fun node hnode => Or.inl (g.laneIdPreimage_mem ha hnode))
      (fun node hnode => Or.inr (g'.laneIdPreimage_mem hb hnode))⟩
  · rw [discoverLane, decide_eq_true_eq]
    exact (congrArg LaneDiscoveryStatement.laneId (seg.matches.2.2 node hnode)).symm

end Graphs

section Samples

/-- Two lanes at the start of a graph. -/
def sampleFirst : LaneGraphSegmentStatement 2 :=
  .fromPrivate Sha256.digest (Bytes.fill 32 1) (Bytes.fill 32 0x44)
    (privateLaneGraphEmptyRoot Sha256.digest) 0 [7, 8]

/-- One more lane behind them, under a key of its own. -/
def sampleSecond (key : UInt8) : LaneGraphSegmentStatement 1 :=
  .fromPrivate Sha256.digest (Bytes.fill 32 key) (Bytes.fill 32 0x44) sampleFirst.nextRoot 1 [9]

instance (s : LaneDiscoveryStatement) : Decidable s.Nonzero :=
  inferInstanceAs (Decidable (_ ∧ _))

instance {lanes : ℕ} (s : LaneGraphSegmentStatement lanes) : Decidable s.Nonzero :=
  inferInstanceAs (Decidable (_ ∧ _ ∧ _ ∧ _))

lemma proves_sampleFirst :
    Proves (LaneGraphSegmentCircuit.generateConstraints Sha256.digest 2) sampleFirst.publicInputs
      ⟨Bytes.fill 32 1, Bytes.fill 32 0x44⟩ :=
  (laneGraphSegment_proves _).mpr ⟨by decide +kernel, by decide +kernel⟩

lemma proves_sampleSecond {key : UInt8} (h : (sampleSecond key).Nonzero ∧
      (sampleSecond key).matchesWitness Sha256.digest ⟨Bytes.fill 32 key, Bytes.fill 32 0x44⟩) :
    Proves (LaneGraphSegmentCircuit.generateConstraints Sha256.digest 1)
      (sampleSecond key).publicInputs ⟨Bytes.fill 32 key, Bytes.fill 32 0x44⟩ :=
  (laneGraphSegment_proves _).mpr h

def sampleGraph (key : UInt8) (h : (sampleSecond key).Nonzero ∧
      (sampleSecond key).matchesWitness Sha256.digest ⟨Bytes.fill 32 key, Bytes.fill 32 0x44⟩) :
    LaneGraphProof Sha256.digest :=
  ⟨[⟨2, sampleFirst, _, proves_sampleFirst⟩, ⟨1, sampleSecond key, _, proves_sampleSecond h⟩],
    rfl, rfl, rfl, rfl, trivial⟩

end Samples

/-- The keys of a graph discover its lanes, and another key for the last lane gives another
root. -/
theorem graph_root_binds_lanes_and_keys_sample :
    ∃ g g' : LaneGraphProof Sha256.digest, g.segments.length = 2 ∧ g'.segments.length = 2 ∧
      (∀ seg ∈ g.segments, ∀ node ∈ seg.statement.nodes,
        discoverLane Sha256.digest seg.witness.viewKey seg.witness.assetId node.epoch node.laneId =
          true) ∧
      g.finalRoot ≠ g'.finalRoot := by
  let g := sampleGraph 1 (by decide +kernel)
  let g' := sampleGraph 2 (by decide +kernel)
  have hcf : CollisionFree Sha256.digest {x | x ∈ g.strings ++ g'.strings} :=
    CollisionFree.of_nodup_dedup (by decide +kernel)
  refine ⟨g, g', rfl, rfl, (graph_root_binds_lanes_and_keys Sha256.digest g g (hcf.mono ?_) rfl).2,
    fun hroot => ?_⟩
  · rintro x (hx | hx) <;> exact List.mem_append_left _ hx
  · have hbind := graph_root_binds_lanes_and_keys Sha256.digest g g'
      (hcf.mono fun x => List.mem_append.mpr) hroot
    have hkeys := (List.forall₂_cons.mp (List.forall₂_cons.mp hbind.1).2).1.2
    exact absurd hkeys (by decide)

end RgkProtocol.LaneCircuits
