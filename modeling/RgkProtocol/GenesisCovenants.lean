import RgkProtocol.ToccataTx
import Mathlib.Data.List.Nodup

/-!
# Genesis covenant groups

Groups of outputs are checked against the transaction first, all of them, and bound to their
covenants afterwards. A binding leaves the values and the scripts alone, so the covenant id of a
group does not depend on which groups were bound before it.
-/
namespace RgkProtocol.GenesisCovenants
open ByteStrings SelfDelimiting Hashing CoreTypes Checked TransitionOutputs ToccataTx

section CovenantId

/-- Index, value, script version and script of an output. -/
abbrev AuthorizedOutput := UInt32 × UInt64 × UInt16 × ByteVec

def writeAuthorizedOutput : AuthorizedOutput → List UInt8
  | (index, value, spkVersion, spkBytes) =>
    le32 index ++ le64 value ++ le16 spkVersion ++ writeVarBytes spkBytes

def covenantIdPreimage (genesisOutpoint : KaspaOutpoint)
    (authorizedOutputs : List AuthorizedOutput) : List UInt8 :=
  genesisOutpoint.transactionId.toList ++ le32 genesisOutpoint.index ++
    writeLen authorizedOutputs.length ++ authorizedOutputs.flatMap writeAuthorizedOutput

def computeCovenantId (H : KaspaHasher → List UInt8 → Bytes32) (genesisOutpoint : KaspaOutpoint)
    (authorizedOutputs : List AuthorizedOutput) : Bytes32 :=
  H .covenantID (covenantIdPreimage genesisOutpoint authorizedOutputs)

end CovenantId

section Population

structure ToccataGenesisCovenantGroup where
  authorizingInput : UInt16
  outputs : List UInt32
  deriving DecidableEq

variable (tx : ToccataV1Tx)

/-- Windows of two neighbours, one of which does not grow. -/
def unordered (outputs : List UInt32) : Bool :=
  (outputs.zip outputs.tail).any fun pair => pair.2 ≤ pair.1

def checkOutput (seenOutputs : List Bool) (outputIndex : UInt32) :
    Except TxBuildError (List Bool) := do
  failIf (tx.outputs.length ≤ outputIndex.toNat)
    (.invalidToccataCovenantGroup "output does not exist")
  failIf (seenOutputs.getD outputIndex.toNat false)
    (.invalidToccataCovenantGroup "output appears in more than one group")
  failIf (tx.outputs[outputIndex.toNat]?.any fun output => output.covenantBinding.isSome)
    (.invalidToccataCovenantGroup "output already has covenant binding")
  .ok (seenOutputs.set outputIndex.toNat true)

def checkOutputs : List Bool → List UInt32 → Except TxBuildError (List Bool)
  | seenOutputs, [] => .ok seenOutputs
  | seenOutputs, outputIndex :: rest => do
    let seenOutputs ← checkOutput tx seenOutputs outputIndex
    checkOutputs seenOutputs rest

def checkGroups : List Bool → List ToccataGenesisCovenantGroup → Except TxBuildError (List Bool)
  | seenOutputs, [] => .ok seenOutputs
  | seenOutputs, group :: rest => do
    failIf (tx.inputs.length ≤ group.authorizingInput.toNat)
      (.invalidToccataCovenantGroup "authorizing input does not exist")
    failIf (group.outputs = []) (.invalidToccataCovenantGroup "empty output group")
    failIf (unordered group.outputs)
      (.invalidToccataCovenantGroup "outputs are not strictly ordered")
    let seenOutputs ← checkOutputs tx seenOutputs group.outputs
    checkGroups seenOutputs rest

def authorizedOutputs (group : ToccataGenesisCovenantGroup) : List AuthorizedOutput :=
  group.outputs.filterMap fun outputIndex => tx.outputs[outputIndex.toNat]?.map fun output =>
    (outputIndex, output.value, output.scriptPublicKey.version, output.scriptPublicKey.script)

def withBinding (binding : CovenantBinding) (output : ToccataTxOutput) : ToccataTxOutput :=
  { output with covenantBinding := some binding }

def bindOutputs (binding : CovenantBinding) :
    List UInt32 → List ToccataTxOutput → List ToccataTxOutput
  | [], outputs => outputs
  | outputIndex :: rest, outputs =>
    bindOutputs binding rest (outputs.modify outputIndex.toNat (withBinding binding))

end Population

section Binding
variable (H : KaspaHasher → List UInt8 → Bytes32)

/-- The checks made before exclude an input that is not there. -/
def bindGroup (tx : ToccataV1Tx) (group : ToccataGenesisCovenantGroup) : ToccataV1Tx :=
  match tx.inputs[group.authorizingInput.toNat]? with
  | none => tx
  | some input =>
    let covenantId := computeCovenantId H input.previousOutpoint (authorizedOutputs tx group)
    { tx with outputs := bindOutputs ⟨group.authorizingInput, covenantId⟩ group.outputs tx.outputs }

def bindGroups : ToccataV1Tx → List ToccataGenesisCovenantGroup → ToccataV1Tx
  | tx, [] => tx
  | tx, group :: rest => bindGroups (bindGroup H tx group) rest

def populateGenesisCovenants (tx : ToccataV1Tx) (groups : List ToccataGenesisCovenantGroup) :
    Except TxBuildError Unit × ToccataV1Tx :=
  match checkGroups tx (List.replicate tx.outputs.length false) groups with
  | .error e => (.error e, tx)
  | .ok _ => (.ok (), bindGroups H tx groups)

end Binding

section Checks
variable {tx : ToccataV1Tx}

/-- The marks of the outputs that the checks have passed. -/
def marks (tx : ToccataV1Tx) (done : List UInt32) : List Bool :=
  done.foldl (fun seen k => seen.set k.toNat true) (List.replicate tx.outputs.length false)

def Unbound (tx : ToccataV1Tx) (k : UInt32) : Prop :=
  ∃ output, tx.outputs[k.toNat]? = some output ∧ output.covenantBinding = none

structure GroupFits (tx : ToccataV1Tx) (group : ToccataGenesisCovenantGroup) : Prop where
  input : group.authorizingInput.toNat < tx.inputs.length
  nonempty : group.outputs ≠ []
  ordered : unordered group.outputs = false
  unbound : ∀ k ∈ group.outputs, Unbound tx k

lemma marks_concat (done : List UInt32) (k : UInt32) :
    marks tx (done ++ [k]) = (marks tx done).set k.toNat true := by
  simp [marks]

lemma length_marks (done : List UInt32) : (marks tx done).length = tx.outputs.length := by
  induction done using List.reverseRecOn with
  | nil => simp [marks]
  | append_singleton done k ih => rw [marks_concat, List.length_set, ih]

lemma marks_getD {k : UInt32} (hk : k.toNat < tx.outputs.length) (done : List UInt32) :
    (marks tx done).getD k.toNat false = decide (k ∈ done) := by
  induction done using List.reverseRecOn with
  | nil => simp [marks, List.getD_eq_getElem?_getD, hk]
  | append_singleton done l ih =>
    rw [List.getD_eq_getElem?_getD] at ih ⊢
    rw [marks_concat, List.getElem?_set, length_marks]
    by_cases hkl : k = l
    · simp [hkl, hkl ▸ hk]
    · have hne : l.toNat ≠ k.toNat := fun h => hkl (UInt32.toNat_inj.mp h).symm
      simp [hne, ih, hkl]

lemma checkOutput_eq_ok {done : List UInt32} {k : UInt32} {seen : List Bool} :
    checkOutput tx (marks tx done) k = .ok seen ↔
      Unbound tx k ∧ k ∉ done ∧ marks tx (done ++ [k]) = seen := by
  simp only [checkOutput, unit_bind_eq_ok, failIf_eq_ok, not_le, Except.ok.injEq, marks_concat]
  constructor
  · rintro ⟨hk, hseen, hbound, hset⟩
    rw [marks_getD hk, decide_eq_true_eq] at hseen
    refine ⟨⟨tx.outputs[k.toNat], List.getElem?_eq_getElem hk, ?_⟩, hseen, hset⟩
    simpa [List.getElem?_eq_getElem hk] using hbound
  · rintro ⟨⟨output, houtput, hbound⟩, hseen, hset⟩
    have hk : k.toNat < tx.outputs.length := (List.getElem?_eq_some_iff.mp houtput).1
    rw [marks_getD hk, decide_eq_true_eq]
    exact ⟨hk, hseen, by simp [houtput, hbound], hset⟩

lemma checkOutputs_eq_ok {done ks : List UInt32} (hdone : done.Nodup) {seen : List Bool} :
    checkOutputs tx (marks tx done) ks = .ok seen ↔
      (∀ k ∈ ks, Unbound tx k) ∧ (done ++ ks).Nodup ∧ marks tx (done ++ ks) = seen := by
  induction ks generalizing done with
  | nil => simp [checkOutputs, hdone]
  | cons k ks ih =>
    have happend : done ++ k :: ks = (done ++ [k]) ++ ks := by simp
    simp only [checkOutputs, bind_eq_ok, checkOutput_eq_ok]
    constructor
    · rintro ⟨_, ⟨hk, hfresh, rfl⟩, hrest⟩
      have hhead : (done ++ [k]).Nodup := by
        rw [← List.concat_eq_append]
        exact hdone.concat hfresh
      obtain ⟨hks, hnodup, hseen⟩ := (ih hhead).mp hrest
      exact ⟨List.forall_mem_cons.mpr ⟨hk, hks⟩, happend ▸ hnodup, happend ▸ hseen⟩
    · rintro ⟨hks, hnodup, hseen⟩
      rw [happend] at hnodup hseen
      have hhead : (done ++ [k]).Nodup := hnodup.of_append_left
      refine ⟨_, ⟨hks k (by simp), ?_, rfl⟩, (ih hhead).mpr ⟨fun l hl => hks l (by simp [hl]),
        hnodup, hseen⟩⟩
      intro hmem
      exact List.disjoint_of_nodup_append hhead hmem (by simp)

def GroupsFit (tx : ToccataV1Tx) (groups : List ToccataGenesisCovenantGroup) : Prop :=
  (∀ group ∈ groups, GroupFits tx group) ∧
    (groups.flatMap ToccataGenesisCovenantGroup.outputs).Nodup

lemma checkGroups_eq_ok {done : List UInt32} (hdone : done.Nodup)
    {groups : List ToccataGenesisCovenantGroup} :
    (∃ seen, checkGroups tx (marks tx done) groups = .ok seen) ↔
      (∀ group ∈ groups, GroupFits tx group) ∧
        (done ++ groups.flatMap ToccataGenesisCovenantGroup.outputs).Nodup := by
  induction groups generalizing done with
  | nil => simp [checkGroups, hdone]
  | cons group groups ih =>
    simp only [checkGroups, unit_bind_eq_ok, failIf_eq_ok, not_le, Bool.not_eq_true,
      List.flatMap_cons, List.forall_mem_cons]
    simp only [bind_eq_ok, checkOutputs_eq_ok hdone]
    rw [← List.append_assoc]
    constructor
    · rintro ⟨seen, hinput, hnonempty, hordered, _, ⟨hunbound, hnodup, rfl⟩, hrest⟩
      obtain ⟨hgroups, hall⟩ := (ih hnodup).mp ⟨seen, hrest⟩
      exact ⟨⟨⟨hinput, hnonempty, hordered, hunbound⟩, hgroups⟩, hall⟩
    · rintro ⟨⟨hgroup, hgroups⟩, hall⟩
      obtain ⟨seen, hrest⟩ := (ih hall.of_append_left).mpr ⟨hgroups, hall⟩
      exact ⟨seen, hgroup.input, hgroup.nonempty, hgroup.ordered, _,
        ⟨hgroup.unbound, hall.of_append_left, rfl⟩, hrest⟩

end Checks

section Frame
variable {H : KaspaHasher → List UInt8 → Bytes32} {tx : ToccataV1Tx}

lemma bindOutputs_getElem? (binding : CovenantBinding) (ks : List UInt32)
    (outputs : List ToccataTxOutput) (j : ℕ) :
    (bindOutputs binding ks outputs)[j]? =
      if ∃ k ∈ ks, k.toNat = j then outputs[j]?.map (withBinding binding) else outputs[j]? := by
  induction ks generalizing outputs with
  | nil => simp [bindOutputs]
  | cons k ks ih =>
    rw [bindOutputs, ih, List.getElem?_modify]
    by_cases hk : k.toNat = j <;> by_cases hks : ∃ l ∈ ks, l.toNat = j
    · have htwice : withBinding binding ∘ withBinding binding = withBinding binding := rfl
      simp [hk, hks, htwice]
    · simp [hk, hks]
    · simp [hk, hks]
    · simp [hk, hks]

/-- The covenant id that a group gets from a transaction. -/
def groupId (H : KaspaHasher → List UInt8 → Bytes32) (tx : ToccataV1Tx)
    (group : ToccataGenesisCovenantGroup) : Option Bytes32 :=
  tx.inputs[group.authorizingInput.toNat]?.map fun input =>
    computeCovenantId H input.previousOutpoint (authorizedOutputs tx group)

lemma bindGroup_eq {group : ToccataGenesisCovenantGroup} {id : Bytes32}
    (h : groupId H tx group = some id) :
    bindGroup H tx group =
      { tx with outputs := bindOutputs ⟨group.authorizingInput, id⟩ group.outputs tx.outputs } := by
  obtain ⟨input, hinput, rfl⟩ := Option.map_eq_some_iff.mp h
  simp only [bindGroup, hinput]

lemma bindGroup_rest (tx : ToccataV1Tx) (group : ToccataGenesisCovenantGroup) :
    bindGroup H tx group = { tx with outputs := (bindGroup H tx group).outputs } := by
  unfold bindGroup
  split <;> rfl

lemma bindGroup_getElem?_of_not_mem {group : ToccataGenesisCovenantGroup} {j : ℕ}
    (hj : ∀ k ∈ group.outputs, k.toNat ≠ j) :
    (bindGroup H tx group).outputs[j]? = tx.outputs[j]? := by
  unfold bindGroup
  split
  · rfl
  · simp only [bindOutputs_getElem?]
    rw [if_neg]
    rintro ⟨k, hk, hkj⟩
    exact hj k hk hkj

lemma bindGroup_authorizedOutputs (tx : ToccataV1Tx) (bound group : ToccataGenesisCovenantGroup) :
    authorizedOutputs (bindGroup H tx bound) group = authorizedOutputs tx group := by
  unfold bindGroup
  split
  · rfl
  · refine List.filterMap_congr fun k _ => ?_
    simp only [bindOutputs_getElem?]
    split
    · rw [Option.map_map]
      rfl
    · rfl

lemma bindGroup_groupId (tx : ToccataV1Tx) (bound group : ToccataGenesisCovenantGroup) :
    groupId H (bindGroup H tx bound) group = groupId H tx group := by
  rw [groupId, groupId, bindGroup_authorizedOutputs, bindGroup_rest]

lemma bindGroups_rest (tx : ToccataV1Tx) (groups : List ToccataGenesisCovenantGroup) :
    bindGroups H tx groups = { tx with outputs := (bindGroups H tx groups).outputs } := by
  induction groups generalizing tx with
  | nil => rfl
  | cons group groups ih =>
    rw [bindGroups, ih, bindGroup_rest]

lemma bindGroups_getElem?_of_not_mem {groups : List ToccataGenesisCovenantGroup} {j : ℕ}
    (hj : ∀ group ∈ groups, ∀ k ∈ group.outputs, k.toNat ≠ j) :
    (bindGroups H tx groups).outputs[j]? = tx.outputs[j]? := by
  induction groups generalizing tx with
  | nil => rfl
  | cons group groups ih =>
    rw [bindGroups, ih fun g hg => hj g (by simp [hg]),
      bindGroup_getElem?_of_not_mem (hj group (by simp))]

lemma bindGroups_getElem?_of_mem {groups : List ToccataGenesisCovenantGroup}
    (hnodup : (groups.flatMap ToccataGenesisCovenantGroup.outputs).Nodup)
    {group : ToccataGenesisCovenantGroup} (hgroup : group ∈ groups) {k : UInt32}
    (hk : k ∈ group.outputs) {id : Bytes32} (hid : groupId H tx group = some id) :
    (bindGroups H tx groups).outputs[k.toNat]? =
      tx.outputs[k.toNat]?.map (withBinding ⟨group.authorizingInput, id⟩) := by
  induction groups generalizing tx with
  | nil => simp at hgroup
  | cons first groups ih =>
    rw [List.flatMap_cons, List.nodup_append] at hnodup
    obtain ⟨-, htail, hapart⟩ := hnodup
    rw [bindGroups]
    rcases List.mem_cons.mp hgroup with rfl | hmem
    · -- The later groups do not list the output.
      rw [bindGroups_getElem?_of_not_mem, bindGroup_eq hid]
      · simp only [bindOutputs_getElem?]
        rw [if_pos ⟨k, hk, rfl⟩]
      · intro later hlater l hl heq
        exact hapart k hk l (List.mem_flatMap.mpr ⟨later, hlater, hl⟩)
          (UInt32.toNat_inj.mp heq).symm
    · -- The first group does not list it.
      rw [ih htail hmem (by rw [bindGroup_groupId, hid]), bindGroup_getElem?_of_not_mem]
      intro l hl heq
      exact hapart l hl k (List.mem_flatMap.mpr ⟨group, hmem, hk⟩) (UInt32.toNat_inj.mp heq)

lemma GroupFits.groupId_eq {group : ToccataGenesisCovenantGroup} (h : GroupFits tx group) :
    ∃ input, tx.inputs[group.authorizingInput.toNat]? = some input ∧
      groupId H tx group =
        some (computeCovenantId H input.previousOutpoint (authorizedOutputs tx group)) := by
  have hinput := List.getElem?_eq_getElem h.input
  exact ⟨_, hinput, by rw [groupId, hinput, Option.map_some]⟩

lemma bindGroups_perm {groups groups' : List ToccataGenesisCovenantGroup}
    (hfit : GroupsFit tx groups)
    (hfit' : GroupsFit tx groups') (hperm : groups.Perm groups') :
    bindGroups H tx groups' = bindGroups H tx groups := by
  have houtputs : (bindGroups H tx groups').outputs = (bindGroups H tx groups).outputs := by
    refine List.ext_getElem? fun j => ?_
    by_cases hj : ∃ group ∈ groups, ∃ k ∈ group.outputs, k.toNat = j
    · obtain ⟨group, hgroup, k, hk, rfl⟩ := hj
      obtain ⟨input, -, hid⟩ := (hfit.1 group hgroup).groupId_eq (H := H)
      rw [bindGroups_getElem?_of_mem hfit'.2 (hperm.mem_iff.mp hgroup) hk hid,
        bindGroups_getElem?_of_mem hfit.2 hgroup hk hid]
    · push Not at hj
      rw [bindGroups_getElem?_of_not_mem hj,
        bindGroups_getElem?_of_not_mem fun group hgroup => hj group (hperm.mem_iff.mpr hgroup)]
  rw [bindGroups_rest tx groups', houtputs, ← bindGroups_rest]

lemma GroupsFit.perm {groups groups' : List ToccataGenesisCovenantGroup} (h : GroupsFit tx groups)
    (hperm : groups.Perm groups') : GroupsFit tx groups' :=
  ⟨fun group hgroup => h.1 group (hperm.mem_iff.mpr hgroup),
    (hperm.flatMap_right _).nodup_iff.mp h.2⟩

/-- The population binds the groups when they fit, and otherwise leaves the transaction. -/
lemma populateGenesisCovenants_cases (H : KaspaHasher → List UInt8 → Bytes32) (tx : ToccataV1Tx)
    (groups : List ToccataGenesisCovenantGroup) :
    (GroupsFit tx groups ∧ populateGenesisCovenants H tx groups = (.ok (), bindGroups H tx groups)) ∨
      (¬ GroupsFit tx groups ∧ ∃ e, populateGenesisCovenants H tx groups = (.error e, tx)) := by
  have hchecks : (∃ seen, checkGroups tx (marks tx []) groups = .ok seen) ↔ GroupsFit tx groups :=
    checkGroups_eq_ok List.nodup_nil
  unfold populateGenesisCovenants
  cases hc : checkGroups tx (List.replicate tx.outputs.length false) groups with
  | ok seen => exact .inl ⟨hchecks.mp ⟨seen, hc⟩, rfl⟩
  | error e =>
    refine .inr ⟨fun hfit => ?_, e, rfl⟩
    obtain ⟨seen, hseen⟩ := hchecks.mpr hfit
    cases hc.symm.trans hseen

end Frame

section Ids
variable {H : KaspaHasher → List UInt8 → Bytes32} {tx : ToccataV1Tx}

lemma covenantIdPreimage_head {o o' : KaspaOutpoint} {a a' : AuthorizedOutput}
    {l l' : List AuthorizedOutput}
    (h : covenantIdPreimage o (a :: l) = covenantIdPreimage o' (a' :: l')) : a.1 = a'.1 := by
  simp only [covenantIdPreimage, List.append_assoc, Bytes.append_inj, le32_append_inj,
    List.flatMap_cons] at h
  obtain ⟨-, -, h⟩ := h
  obtain ⟨-, hrecords⟩ := (append_cancel (by simp [writeLen])).mp h
  simp only [writeAuthorizedOutput, List.append_assoc, le32_append_inj] at hrecords
  exact hrecords.1

lemma GroupFits.authorizedOutputs_head {group : ToccataGenesisCovenantGroup}
    (h : GroupFits tx group) :
    ∃ k ∈ group.outputs, ∃ record rest, authorizedOutputs tx group = (k, record) :: rest := by
  obtain ⟨k, ks, hks⟩ := List.exists_cons_of_ne_nil h.nonempty
  have hk : k ∈ group.outputs := by simp [hks]
  obtain ⟨output, houtput, -⟩ := h.unbound k hk
  refine ⟨k, hk, ?_⟩
  simp [authorizedOutputs, hks, houtput]

/-- The strings that the covenant ids of the groups hash. -/
def idStrings (tx : ToccataV1Tx) (groups : List ToccataGenesisCovenantGroup) :
    List (List UInt8) :=
  groups.filterMap fun group => tx.inputs[group.authorizingInput.toNat]?.map fun input =>
    covenantIdPreimage input.previousOutpoint (authorizedOutputs tx group)

lemma mem_idStrings {groups : List ToccataGenesisCovenantGroup}
    {group : ToccataGenesisCovenantGroup} {input : ToccataTxInput} (hgroup : group ∈ groups)
    (hinput : tx.inputs[group.authorizingInput.toNat]? = some input) :
    covenantIdPreimage input.previousOutpoint (authorizedOutputs tx group) ∈
      idStrings tx groups :=
  List.mem_filterMap.mpr ⟨group, hgroup, by rw [hinput, Option.map_some]⟩

lemma groupId_ne {groups : List ToccataGenesisCovenantGroup}
    (hfree : CollisionFree (H .covenantID) {s | s ∈ idStrings tx groups})
    {g g' : ToccataGenesisCovenantGroup} (hg : g ∈ groups) (hg' : g' ∈ groups)
    (hfit : GroupFits tx g) (hfit' : GroupFits tx g') (hapart : g.outputs.Disjoint g'.outputs) :
    groupId H tx g ≠ groupId H tx g' := by
  obtain ⟨input, hinput, hid⟩ := hfit.groupId_eq (H := H)
  obtain ⟨input', hinput', hid'⟩ := hfit'.groupId_eq (H := H)
  obtain ⟨k, hk, record, rest, hhead⟩ := hfit.authorizedOutputs_head
  obtain ⟨k', hk', record', rest', hhead'⟩ := hfit'.authorizedOutputs_head
  rw [hid, hid', ne_eq, Option.some.injEq]
  intro heq
  have hpre := hfree.eq (mem_idStrings hg hinput) (mem_idStrings hg' hinput') heq
  rw [hhead, hhead'] at hpre
  obtain rfl : k = k' := covenantIdPreimage_head hpre
  exact hapart hk hk'

end Ids

section Main

/-- What the transaction is after a population that succeeds. -/
structure Populated (H : KaspaHasher → List UInt8 → Bytes32) (tx tx' : ToccataV1Tx)
    (groups : List ToccataGenesisCovenantGroup) : Prop where
  listed : ∀ group ∈ groups, ∀ k ∈ group.outputs, ∃ input output,
    tx.inputs[group.authorizingInput.toNat]? = some input ∧
      tx.outputs[k.toNat]? = some output ∧
      tx'.outputs[k.toNat]? = some { output with covenantBinding := some ⟨group.authorizingInput,
        computeCovenantId H input.previousOutpoint (authorizedOutputs tx group)⟩ }
  unlisted : ∀ j, (∀ group ∈ groups, ∀ k ∈ group.outputs, k.toNat ≠ j) →
    tx'.outputs[j]? = tx.outputs[j]?
  rest : tx' = { tx with outputs := tx'.outputs }
  apart : groups.Pairwise fun g g' => ∀ k ∈ g.outputs, k ∉ g'.outputs
  ids : groups.Pairwise fun g g' => groupId H tx g ≠ groupId H tx g'

variable {H : KaspaHasher → List UInt8 → Bytes32} {tx : ToccataV1Tx}
  {groups : List ToccataGenesisCovenantGroup}

lemma GroupsFit.populated (h : GroupsFit tx groups)
    (hfree : CollisionFree (H .covenantID) {s | s ∈ idStrings tx groups}) :
    Populated H tx (bindGroups H tx groups) groups where
  listed := by
    intro group hgroup k hk
    obtain ⟨input, hinput, hid⟩ := (h.1 group hgroup).groupId_eq (H := H)
    obtain ⟨output, houtput, -⟩ := (h.1 group hgroup).unbound k hk
    refine ⟨input, output, hinput, houtput, ?_⟩
    rw [bindGroups_getElem?_of_mem h.2 hgroup hk hid, houtput]
    rfl
  unlisted := fun j hj => bindGroups_getElem?_of_not_mem hj
  rest := bindGroups_rest tx groups
  apart := by
    refine (List.nodup_flatMap.mp h.2).2.imp fun hapart k hk hk' => ?_
    exact hapart hk hk'
  ids := by
    refine List.Pairwise.imp_of_mem ?_ (List.nodup_flatMap.mp h.2).2
    intro g g' hg hg' hapart
    exact groupId_ne hfree hg hg' (h.1 g hg) (h.1 g' hg') hapart

/-- A population that fails leaves the transaction. One that succeeds binds the listed outputs to
the covenants of their groups, touches nothing else, and does not depend on the order of groups. -/
theorem genesis_population (H : KaspaHasher → List UInt8 → Bytes32) (tx : ToccataV1Tx)
    (groups : List ToccataGenesisCovenantGroup)
    (hfree : CollisionFree (H .covenantID) {s | s ∈ idStrings tx groups}) :
    (∀ e, (populateGenesisCovenants H tx groups).1 = .error e →
      (populateGenesisCovenants H tx groups).2 = tx) ∧
    ((populateGenesisCovenants H tx groups).1 = .ok () →
      Populated H tx (populateGenesisCovenants H tx groups).2 groups ∧
      ∀ groups', groups.Perm groups' →
        populateGenesisCovenants H tx groups' = populateGenesisCovenants H tx groups) := by
  rcases populateGenesisCovenants_cases H tx groups with ⟨hfit, hok⟩ | ⟨-, e, herror⟩
  · rw [hok]
    refine ⟨fun e he => ?_, fun _ => ⟨hfit.populated hfree, fun groups' hperm => ?_⟩⟩
    · cases he
    · rcases populateGenesisCovenants_cases H tx groups' with ⟨hfit', hok'⟩ | ⟨hnot, -⟩
      · rw [hok', bindGroups_perm hfit hfit' hperm]
      · exact absurd (hfit.perm hperm) hnot
  · rw [herror]
    exact ⟨fun _ _ => rfl, fun h => nomatch h⟩

def sampleTx : ToccataV1Tx :=
  ⟨[⟨⟨Bytes.fill 32 1, 0⟩, ByteVec.empty, 0, 10⟩, ⟨⟨Bytes.fill 32 2, 1⟩, ByteVec.empty, 0, 10⟩],
    [⟨100, ⟨0, ByteVec.single 0x51⟩, none⟩, ⟨100, ⟨0, ByteVec.single 0x51⟩, none⟩,
      ⟨50, ⟨0, ByteVec.single 0x52⟩, none⟩], 0, subnetworkIdNative, 0, ByteVec.empty, 0⟩

def sampleGroups : List ToccataGenesisCovenantGroup := [⟨0, [0, 2]⟩, ⟨1, [1]⟩]

/-- Two groups that interleave: the population succeeds, and in the other order it gives the same. -/
theorem genesis_population_interleaved :
    Populated sampleHasher sampleTx (populateGenesisCovenants sampleHasher sampleTx sampleGroups).2
      sampleGroups ∧
    populateGenesisCovenants sampleHasher sampleTx [⟨1, [1]⟩, ⟨0, [0, 2]⟩] =
      populateGenesisCovenants sampleHasher sampleTx sampleGroups := by
  have hfree : CollisionFree (sampleHasher .covenantID) {s | s ∈ idStrings sampleTx sampleGroups} :=
    CollisionFree.of_nodup (by decide +kernel)
  have hok : (populateGenesisCovenants sampleHasher sampleTx sampleGroups).1 = .ok () := rfl
  obtain ⟨hpopulated, hperm⟩ := (genesis_population sampleHasher sampleTx sampleGroups hfree).2 hok
  exact ⟨hpopulated, hperm _ (List.Perm.swap _ _ _)⟩

end Main
end RgkProtocol.GenesisCovenants
