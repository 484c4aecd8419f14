import RgkProtocol.CovenantTransactions

/-!
# What a covenant does along a run

Before its opening no coin carries the covenant, at the opening the outputs of the group do, and
later a coin carries it only if a coin that carried it was spent. The script then says how.
-/
namespace RgkProtocol.CovenantRuns
open ByteStrings SelfDelimiting Hashing CoreTypes Checked ScriptMachine ScriptPushes CovenantScript
open CovenantSpend TransitionOutputs ToccataTx TransactionIdentity GenesisCovenants TransactionBuilders
open LinkedPath UtxoLedger CovenantLedger CovenantTransactions

section Listed
variable {tx : ToccataV1Tx}

lemma length_le_of_nodup {l : List UInt32} (h : l.Nodup) : l.length ≤ 2^32 := by
  have hnodup : (l.map UInt32.toNat).Nodup := h.map fun _ _ => UInt32.toNat_inj.mp
  have hsubset : l.map UInt32.toNat ⊆ List.range (2^32) := by
    intro n hn
    obtain ⟨k, -, rfl⟩ := List.mem_map.mp hn
    exact List.mem_range.mpr k.toNat_lt
  simpa using (hnodup.subperm hsubset).length_le

variable (tx) in
lemma mem_fst_authorizedOutputs {group : ToccataGenesisCovenantGroup} {k : UInt32} :
    k ∈ (authorizedOutputs tx group).map Prod.fst ↔
      k ∈ group.outputs ∧ k.toNat < tx.outputs.length := by
  simp only [authorizedOutputs, List.mem_map, List.mem_filterMap, Option.map_eq_some_iff]
  constructor
  · rintro ⟨_, ⟨k', hk', output, houtput, rfl⟩, rfl⟩
    exact ⟨hk', (List.getElem?_eq_some_iff.mp houtput).1⟩
  · rintro ⟨hk, hlt⟩
    exact ⟨_, ⟨k, hk, _, List.getElem?_eq_getElem hlt, rfl⟩, rfl⟩

lemma mem_boundOutputs {j : ℕ} {output : ToccataTxOutput}
    {b : TransitionOutputs.CovenantBinding} (hout : tx.outputs[j]? = some output)
    (hb : output.covenantBinding = some b) : UInt32.ofNat j ∈ boundOutputs tx b := by
  simp only [boundOutputs, List.mem_map, List.mem_filter, Prod.exists,
    List.mem_zipIdx_iff_getElem?, decide_eq_true_eq]
  exact ⟨output, j, ⟨hout, hb⟩, rfl⟩

variable (tx) in
lemma length_authorizedOutputs_le (group : ToccataGenesisCovenantGroup) :
    (authorizedOutputs tx group).length ≤ group.outputs.length := List.length_filterMap_le _ _

variable (tx) in
lemma length_boundOutputs_le (b : TransitionOutputs.CovenantBinding) :
    (boundOutputs tx b).length ≤ tx.outputs.length := by
  rw [boundOutputs, List.length_map]
  exact (List.length_filter_le _ _).trans_eq (List.length_zipIdx ..)

end Listed

section Opened

/-- A transaction, the covenant groups that are opened in it, one of them, and the transaction that
is sent. -/
structure Opening where
  tx : ToccataV1Tx
  groups : List ToccataGenesisCovenantGroup
  group : ToccataGenesisCovenantGroup
  signed : ToccataV1Tx

/-- A run with the opening of a covenant in its middle: the outputs of the group are locked by the
script, and no hash of the run collides. -/
structure OpenedRun (c : Chain) (L : Coins) (before : List ToccataV1Tx) (o : Opening)
    (later : List ToccataV1Tx) (id : Bytes32) (script : List UInt8) : Prop where
  runs : Runs c L (before ++ o.signed :: later)
  ids : IdsBind c L (before ++ o.signed :: later)
  populated : (populateGenesisCovenants c.hash o.tx o.groups).1 = .ok ()
  signed : unsigned o.signed = unsigned (populateGenesisCovenants c.hash o.tx o.groups).2
  listed : o.group ∈ o.groups
  groupId : groupId c.hash o.tx o.group = some id
  covenants : CollisionFree (c.hash .covenantID) {s | s ∈ idStrings o.tx o.groups ∨
    ∃ tx ∈ before ++ o.signed :: later, s ∈ openingStrings tx}
  new : ∀ x ∈ L, ¬ x.2.Carries id
  locked : ∀ k ∈ o.group.outputs, ∀ output, o.tx.outputs[k.toNat]? = some output →
    toVersionedBytes output.scriptPublicKey = c.lock script
  scripts : CollisionFree c.lock {r | r = script ∨
    ∃ tx ∈ later, ∃ input ∈ tx.inputs, ∃ stack, Reveals input r stack}

variable {c : Chain} {L : Coins} {before later : List ToccataV1Tx} {o : Opening} {id : Bytes32}
  {script : List UInt8} (h : OpenedRun c L before o later id script)
include h

lemma OpenedRun.fits : GroupsFit o.tx o.groups := (populated_signed h.populated h.signed).1

lemma OpenedRun.opener :
    ∃ p ∈ spentOutpoints o.signed,
      covenantIdPreimage p (authorizedOutputs o.tx o.group) ∈ idStrings o.tx o.groups ∧
      id = c.hash .covenantID (covenantIdPreimage p (authorizedOutputs o.tx o.group)) := by
  obtain ⟨input, hinput, hid⟩ := Option.map_eq_some_iff.mp h.groupId
  refine ⟨input.previousOutpoint, ?_, mem_idStrings h.listed hinput, hid.symm⟩
  rw [(populated_signed h.populated h.signed).2.2]
  exact List.mem_map_of_mem (List.mem_of_getElem? hinput)

lemma OpenedRun.nodup_group : o.group.outputs.Nodup :=
  (List.nodup_flatMap.mp h.fits.2).1 _ h.listed

lemma OpenedRun.output_at {k : UInt32} (hk : k ∈ o.group.outputs) :
    ∃ output, o.signed.outputs[k.toNat]? = some output ∧
      coinOf output = ⟨c.lock script, some id⟩ := by
  obtain ⟨output, houtput, -⟩ := (h.fits.1 _ h.listed).unbound k hk
  refine ⟨withBinding ⟨o.group.authorizingInput, id⟩ output, ?_, ?_⟩
  · rw [(populated_signed h.populated h.signed).2.1,
      bindGroups_getElem?_of_mem h.fits.2 h.listed hk h.groupId, houtput]
    rfl
  · rw [← h.locked k hk output houtput]
    rfl

/-- An output carries the covenant because a spent coin does, or because its transaction opens the
covenant once more, with the same outpoint and the same outputs. -/
lemma OpenedRun.carries_cases {L' : Coins} {tx : ToccataV1Tx}
    (htx : tx ∈ before ++ o.signed :: later) (hadm : Admitted c L' tx) {output : ToccataTxOutput}
    (hout : output ∈ tx.outputs) (hid : (coinOf output).Carries id) :
    (∃ p ∈ spentOutpoints tx, ∃ coin, coinAt L' p = some coin ∧ coin.Carries id) ∨
      (∃ p ∈ spentOutpoints tx, p ∈ spentOutpoints o.signed) ∧
      ∃ b, output.covenantBinding = some b ∧
        authorizedOutputs tx ⟨b.authorizingInput, boundOutputs tx b⟩ =
          authorizedOutputs o.tx o.group := by
  obtain ⟨b, hb, hbid⟩ := coinOf_carries.mp hid
  obtain ⟨input, hinput, hbinds⟩ := hadm.bound output hout b hb
  have hspent : input.previousOutpoint ∈ spentOutpoints tx :=
    List.mem_map_of_mem (List.mem_of_getElem? hinput)
  rcases hbinds with ⟨coin, hcoin, hcarries⟩ | hopens
  · exact .inl ⟨_, hspent, coin, hcoin, hbid ▸ hcarries⟩
  · obtain ⟨p, hp, hstring, hpid⟩ := h.opener
    have hmine : openingString tx input b ∈ openingStrings tx := by
      rw [openingStrings, List.mem_filterMap]
      exact ⟨output, hout, by rw [hb, Option.bind_some, hinput, Option.map_some]⟩
    have hsame : openingString tx input b =
        covenantIdPreimage p (authorizedOutputs o.tx o.group) := by
      refine h.covenants.eq (.inr ⟨tx, htx, hmine⟩) (.inl hstring) ?_
      rw [← hopens, hbid, hpid]
    have hlen : (authorizedOutputs tx ⟨b.authorizingInput, boundOutputs tx b⟩).length < 2^64 := by
      have h1 := length_authorizedOutputs_le tx ⟨b.authorizingInput, boundOutputs tx b⟩
      have h2 := length_boundOutputs_le tx b
      have h3 := hadm.short.outputs
      simp only at h1
      omega
    have hlen' : (authorizedOutputs o.tx o.group).length < 2^64 := by
      have h1 := length_authorizedOutputs_le o.tx o.group
      have h2 := length_le_of_nodup h.nodup_group
      omega
    obtain ⟨hp', hrecords⟩ := covenantIdPreimage_inj hlen hlen' hsame
    exact .inr ⟨⟨_, hspent, hp' ▸ hp⟩, b, hb, hrecords⟩

lemma OpenedRun.apart {tx : ToccataV1Tx} (htx : tx ∈ before ∨ tx ∈ later) {p : KaspaOutpoint}
    (hp : p ∈ spentOutpoints tx) : p ∉ spentOutpoints o.signed := by
  obtain ⟨-, hcons, hcross⟩ := List.pairwise_append.mp (h.runs.spends_apart h.ids)
  rcases htx with htx | htx
  · exact hcross tx htx o.signed (by simp) hp
  · exact fun hopen => (List.pairwise_cons.mp hcons).1 tx htx hopen hp

lemma OpenedRun.continued {L' : Coins} {tx : ToccataV1Tx} (htx : tx ∈ before ∨ tx ∈ later)
    (hadm : Admitted c L' tx) {x : KaspaOutpoint × Coin} (hx : x ∈ (moveOf c tx).creates)
    (hid : x.2.Carries id) :
    ∃ p ∈ spentOutpoints tx, ∃ coin, coinAt L' p = some coin ∧ coin.Carries id := by
  have hmem : tx ∈ before ++ o.signed :: later := by
    rcases htx with htx | htx <;> simp [htx]
  obtain ⟨k, output, hout, -, hcoin⟩ := mem_creates.mp hx
  rw [hcoin] at hid
  rcases h.carries_cases hmem hadm (List.mem_of_getElem? hout) hid with hspent | ⟨hopen, -⟩
  · exact hspent
  · obtain ⟨p, hp, hp'⟩ := hopen
    exact absurd hp' (h.apart htx hp)

lemma OpenedRun.admitted_before {done : List ToccataV1Tx} {tx : ToccataV1Tx}
    (hpre : done ++ [tx] <+: before) :
    tx ∈ before ∧ Admitted c (ledgerAfter c L done) tx := by
  obtain ⟨rest, rfl⟩ := hpre
  exact ⟨by simp, h.runs done tx (rest ++ o.signed :: later) (by simp)⟩

lemma OpenedRun.admitted_later {done : List ToccataV1Tx} {tx : ToccataV1Tx}
    (hpre : done ++ [tx] <+: later) :
    tx ∈ later ∧ Admitted c (ledgerAfter c L (before ++ o.signed :: done)) tx := by
  obtain ⟨rest, rfl⟩ := hpre
  exact ⟨by simp, h.runs (before ++ o.signed :: done) tx rest (by simp)⟩

lemma OpenedRun.absent_before {done : List ToccataV1Tx} (hdone : done <+: before) :
    ∀ x ∈ ledgerAfter c L done, ¬ x.2.Carries id := by
  induction done using List.reverseRecOn with
  | nil => exact h.new
  | append_singleton done tx ih =>
    have hold := ih ((List.prefix_append done [tx]).trans hdone)
    obtain ⟨htx, hadm⟩ := h.admitted_before hdone
    intro x hx hid
    rw [ledgerAfter_concat, Move.apply, List.mem_append] at hx
    rcases hx with hx | hx
    · exact hold x (List.mem_filter.mp hx).1 hid
    · obtain ⟨p, -, coin, hcoin, hcarries⟩ := h.continued (.inl htx) hadm hx hid
      exact hold _ (mem_of_coinAt hcoin) hcarries

lemma OpenedRun.creates_perm :
    (held (carrying id) (moveOf c o.signed).creates).Perm
      (o.group.outputs.map fun k => (⟨txid c.hash o.signed, k⟩, ⟨c.lock script, some id⟩)) := by
  have hadm : Admitted c (ledgerAfter c L before) o.signed := h.runs before o.signed later rfl
  refine (List.perm_ext_iff_of_nodup ?_ ?_).mpr fun x => ?_
  · exact (List.Nodup.of_map _ (nodup_creates hadm.short)).filter _
  · refine h.nodup_group.map fun k k' hk => ?_
    exact congrArg (fun x => x.1.index) hk
  · simp only [mem_held, carrying_eq_true, List.mem_map]
    constructor
    · rintro ⟨hx, hid⟩
      obtain ⟨j, output, hout, hplace, hcoin⟩ := mem_creates.mp hx
      have hj := toNat_ofNat_of_short hadm.short (List.getElem?_eq_some_iff.mp hout).1
      rw [hcoin] at hid
      rcases h.carries_cases (by simp) hadm (List.mem_of_getElem? hout) hid with
        ⟨p, -, coin, hspent, hcarries⟩ | ⟨-, b, hb, hrecords⟩
      · exact absurd hcarries (h.absent_before List.prefix_rfl _ (mem_of_coinAt hspent))
      · have hlisted : UInt32.ofNat j ∈ o.group.outputs := by
          refine (mem_fst_authorizedOutputs o.tx).mp (hrecords ▸ ?_) |>.1
          refine (mem_fst_authorizedOutputs _).mpr ⟨mem_boundOutputs hout hb, ?_⟩
          rw [hj]
          exact (List.getElem?_eq_some_iff.mp hout).1
        obtain ⟨output', hout', hcoin'⟩ := h.output_at hlisted
        rw [hj] at hout'
        obtain rfl := Option.some.inj (hout.symm.trans hout')
        exact ⟨_, hlisted, Prod.ext hplace.symm (hcoin'.symm.trans hcoin.symm)⟩
    · rintro ⟨k, hk, rfl⟩
      obtain ⟨output, hout, hcoin⟩ := h.output_at hk
      refine ⟨mem_creates.mpr ⟨k.toNat, output, hout, ?_, hcoin.symm⟩, rfl⟩
      simp

lemma OpenedRun.opened_perm :
    (held (carrying id) (ledgerAfter c L (before ++ [o.signed]))).Perm
      (o.group.outputs.map fun k => (⟨txid c.hash o.signed, k⟩, ⟨c.lock script, some id⟩)) := by
  have hnone : held (carrying id) (ledgerAfter c L before) = [] := by
    refine List.filter_eq_nil_iff.mpr fun x hx => ?_
    simpa using h.absent_before List.prefix_rfl x hx
  rw [ledgerAfter_concat, held_apply, hnone, List.filter_nil, List.nil_append]
  exact h.creates_perm

end Opened

section Later
variable {c : Chain} {L : Coins} {before later : List ToccataV1Tx} {o : Opening} {id : Bytes32}
  {script : List UInt8} {done : List ToccataV1Tx} {tx : ToccataV1Tx}

/-- The ledger after the opening and some of the transactions behind it. -/
def ledgerSince (c : Chain) (L : Coins) (before : List ToccataV1Tx) (o : Opening)
    (done : List ToccataV1Tx) : Coins :=
  ledgerAfter c L (before ++ o.signed :: done)

lemma ledgerSince_concat (done : List ToccataV1Tx) (tx : ToccataV1Tx) :
    ledgerSince c L before o (done ++ [tx]) =
      (moveOf c tx).apply (ledgerSince c L before o done) := by
  have hsplit : before ++ o.signed :: (done ++ [tx]) = (before ++ o.signed :: done) ++ [tx] := by
    simp
  rw [ledgerSince, hsplit, ledgerAfter_concat]
  rfl

variable (h : OpenedRun c L before o later id script)
include h

lemma OpenedRun.settled (hdone : done <+: later) :
    Settled KaspaOutpoint.transactionId L ((before ++ o.signed :: done).map (moveOf c)) := by
  obtain ⟨rest, rfl⟩ := hdone
  have hruns := h.runs
  have hids := h.ids
  rw [← List.cons_append, ← List.append_assoc] at hruns hids
  have hids' := hids.mono fun t ht => List.mem_append_left rest ht
  exact run_settled hids'.held (hids'.names hruns.of_append) hruns.of_append.lawful

lemma OpenedRun.nodup_since (hdone : done <+: later) :
    (places (ledgerSince c L before o done)).Nodup := (h.settled hdone).nodup

lemma OpenedRun.untouched (hdone : done ++ [tx] <+: later)
    (hnone : ∀ p ∈ spentOutpoints tx, ∀ coin, coinAt (ledgerSince c L before o done) p = some coin →
      ¬ coin.Carries id) :
    held (carrying id) (ledgerSince c L before o (done ++ [tx])) =
      held (carrying id) (ledgerSince c L before o done) := by
  obtain ⟨htx, hadm⟩ := h.admitted_later hdone
  have hnodup := h.nodup_since ((List.prefix_append done [tx]).trans hdone)
  have hkept : (held (carrying id) (ledgerSince c L before o done)).filter
      (fun x => x.1 ∉ (moveOf c tx).spends) = held (carrying id) (ledgerSince c L before o done) := by
    refine List.filter_eq_self.mpr fun x hx => decide_eq_true ?_
    obtain ⟨hx, hid⟩ := mem_held.mp hx
    intro hspent
    exact hnone x.1 hspent x.2 ((coinAt_eq_some hnodup).mpr hx) (carrying_eq_true.mp hid)
  have hcreated : held (carrying id) (moveOf c tx).creates = [] := by
    refine List.filter_eq_nil_iff.mpr fun x hx hid => ?_
    obtain ⟨p, hp, coin, hcoin, hcarries⟩ :=
      h.continued (.inr htx) hadm hx (carrying_eq_true.mp hid)
    exact hnone p hp coin hcoin hcarries
  rw [ledgerSince_concat, held_apply, hkept, hcreated, List.append_nil]

lemma OpenedRun.runs_script (hdone : done ++ [tx] <+: later) {p : KaspaOutpoint}
    (hp : p ∈ spentOutpoints tx) {coin : Coin}
    (hcoin : coinAt (ledgerSince c L before o done) p = some coin)
    (hlock : coin.scriptPublicKey = c.lock script) :
    ∃ (k : ℕ) (stack : Stack), (view (ledgerSince c L before o done) tx).inputs[k]? = some coin ∧
      SucceedsFrom (introspect c.absent (view (ledgerSince c L before o done) tx) k) stack
        script := by
  obtain ⟨htx, hadm⟩ := h.admitted_later hdone
  refine hadm.runs_script hp hcoin hlock (h.scripts.mono ?_)
  rintro r (rfl | ⟨input, hinput, hreveals⟩)
  · exact .inl rfl
  · exact .inr ⟨tx, htx, input, hinput, hreveals⟩

end Later

section Samples

/-- A transaction with outputs that are locked and bound alike. -/
def sampleGenesis (script : List UInt8) (n : ℕ)
    (binding : Option TransitionOutputs.CovenantBinding) : ToccataV1Tx :=
  ⟨[⟨sampleOutpoint, ByteVec.empty, 0, 10⟩], List.replicate n ⟨100, lockedBy script, binding⟩, 0,
    subnetworkIdNative, 0, payloadOf (sampleState Bytes.zero Bytes.zero), 0⟩

def sampleGroup (n : ℕ) : ToccataGenesisCovenantGroup := ⟨0, (List.range n).map UInt32.ofNat⟩

def sampleId (script : List UInt8) (n : ℕ) : Bytes32 :=
  computeCovenantId sampleHasher sampleOutpoint
    (authorizedOutputs (sampleGenesis script n none) (sampleGroup n))

def sampleOpening (script : List UInt8) (n : ℕ) : Opening :=
  ⟨sampleGenesis script n none, [sampleGroup n], sampleGroup n,
    sampleGenesis script n (some ⟨0, sampleId script n⟩)⟩

/-- One coin without a covenant, which no redeem script locks. -/
def sampleLedger : Coins := [(sampleOutpoint, ⟨[0x51], none⟩)]

/-- The population of the sample gives its opened form. -/
def Populates (script : List UInt8) (n : ℕ) : Prop :=
  populateGenesisCovenants sampleHasher (sampleOpening script n).tx (sampleOpening script n).groups =
    (.ok (), (sampleOpening script n).signed)

lemma populates_one (script : List UInt8) : Populates script 1 := rfl

lemma populates_two (script : List UInt8) : Populates script 2 := rfl

variable {script : List UInt8} {n : ℕ} {later : List ToccataV1Tx}

lemma short_sampleGenesis (binding : Option TransitionOutputs.CovenantBinding) (hn : n < 2^32) :
    Short (sampleGenesis script n binding) := by
  constructor
  · simp [sampleGenesis]
  · simpa [sampleGenesis] using hn
  · simp [sampleGenesis, payloadOf, length_encodePayload]
  · simp [sampleGenesis, ShortInput, ByteVec.empty]
  · simp [sampleGenesis, ShortOutput, lockedBy]

lemma opening_sampleGenesis (hpop : Populates script n) (hn : n < 2^32) {output : ToccataTxOutput}
    (hout : output ∈ (sampleOpening script n).signed.outputs)
    {b : TransitionOutputs.CovenantBinding} (hb : output.covenantBinding = some b) :
    ∃ input, (sampleOpening script n).signed.inputs[b.authorizingInput.toNat]? = some input ∧
      openingString (sampleOpening script n).signed input b ∈
        idStrings (sampleOpening script n).tx (sampleOpening script n).groups ∧
      b.covenantId = sampleHasher .covenantID
        (openingString (sampleOpening script n).signed input b) := by
  refine openingString_of_populated (c := sampleChain) ?_ ?_ (congrArg Prod.fst hpop)
    (congrArg (fun r => unsigned r.2) hpop.symm) (short_sampleGenesis _ hn) hout hb
  · simp [sampleOpening, sampleGenesis]
  · exact CollisionFree.of_nodup (List.nodup_singleton _)

lemma admitted_sampleGenesis (hpop : Populates script n) (hn : n < 2^32) :
    Admitted sampleChain sampleLedger (sampleOpening script n).signed := by
  constructor
  · exact short_sampleGenesis _ hn
  · simp [sampleOpening, sampleGenesis]
  · simp [sampleOpening, sampleGenesis, spentOutpoints]
  · simp [sampleOpening, sampleGenesis, spentOutpoints, sampleLedger, places]
  · intro k input coin hk hcoin hlocked
    obtain ⟨redeem, hredeem⟩ := hlocked
    have hmem := mem_of_coinAt hcoin
    rw [sampleLedger, List.mem_singleton, Prod.mk.injEq] at hmem
    rw [hmem.2] at hredeem
    have hlength := congrArg List.length hredeem
    simp [sampleChain, spkFromRedeemScript] at hlength
  · intro output hout b hb
    obtain ⟨input, hinput, -, hid⟩ := opening_sampleGenesis hpop hn hout hb
    exact ⟨input, hinput, .inr hid⟩

lemma openingStrings_sampleGenesis (hpop : Populates script n) (hn : n < 2^32) {s : List UInt8}
    (hs : s ∈ openingStrings (sampleOpening script n).signed) :
    s = covenantIdPreimage sampleOutpoint
      (authorizedOutputs (sampleGenesis script n none) (sampleGroup n)) := by
  obtain ⟨output, hout, hbind⟩ := List.mem_filterMap.mp hs
  obtain ⟨b, hb, hmap⟩ := Option.bind_eq_some_iff.mp hbind
  obtain ⟨input, hinput, rfl⟩ := Option.map_eq_some_iff.mp hmap
  obtain ⟨input', hinput', hmem, -⟩ := opening_sampleGenesis hpop hn hout hb
  obtain rfl := Option.some.inj (hinput.symm.trans hinput')
  exact List.mem_singleton.mp hmem

lemma openedRun_sample (hpop : Populates script n)
    (hruns : Runs sampleChain sampleLedger ((sampleOpening script n).signed :: later))
    (hids : IdsBind sampleChain sampleLedger ((sampleOpening script n).signed :: later))
    (hcovenants : CollisionFree (sampleHasher .covenantID)
      {s | s ∈ idStrings (sampleOpening script n).tx (sampleOpening script n).groups ∨
        ∃ tx ∈ (sampleOpening script n).signed :: later, s ∈ openingStrings tx})
    (hscripts : ∀ tx ∈ later, ∀ input ∈ tx.inputs, ∀ r stack, Reveals input r stack → r = script) :
    OpenedRun sampleChain sampleLedger [] (sampleOpening script n) later (sampleId script n)
      script where
  runs := hruns
  ids := hids
  populated := congrArg Prod.fst hpop
  signed := congrArg (fun r => unsigned r.2) hpop.symm
  listed := List.mem_singleton_self _
  groupId := rfl
  covenants := hcovenants
  new := by
    rintro x hx hid
    rw [List.mem_singleton.mp hx] at hid
    cases hid
  locked := by
    intro k hk output hout
    have hmem : output ∈ List.replicate n (⟨100, lockedBy script, none⟩ : ToccataTxOutput) :=
      List.mem_of_getElem? hout
    rw [List.eq_of_mem_replicate hmem]
    rfl
  scripts := by
    refine CollisionFree.mono (CollisionFree.of_nodup (l := [script]) (List.nodup_singleton _)) ?_
    rintro r (rfl | ⟨tx, htx, input, hinput, stack, hr⟩)
    · exact List.mem_singleton_self r
    · exact List.mem_singleton.mpr (hscripts tx htx input hinput r stack hr)

lemma idsCollisionFree_refl (H : KaspaHasher → List UInt8 → Bytes32) (tx : ToccataV1Tx) :
    IdsCollisionFree H tx tx := by
  constructor <;> simp [CollisionFree]

lemma idsCollisionFree_symm {H : KaspaHasher → List UInt8 → Bytes32} {t u : ToccataV1Tx}
    (h : IdsCollisionFree H t u) : IdsCollisionFree H u t := by
  constructor
  · exact Set.pair_comm _ _ ▸ h.id
  · exact Set.pair_comm _ _ ▸ h.payload
  · exact Set.pair_comm _ _ ▸ h.rest

lemma reveals_pushData {input : ToccataTxInput} (hlen : (pushData script).length < 2^32)
    (hsig : input.signatureScript.toList = pushData script) : Reveals input script [] := by
  have hyields : Yields (fun _ => none) _ _ := yields_pushData (length_lt_of_pushData hlen)
  have hpush := hyields []
  rwa [← hsig] at hpush

lemma ledger_sampleGenesis (script : List UInt8) (n : ℕ) :
    ledgerAfter sampleChain sampleLedger [(sampleOpening script n).signed] =
      (moveOf sampleChain (sampleOpening script n).signed).creates := by
  have hspent : (sampleLedger.filter fun x =>
      x.1 ∉ (moveOf sampleChain (sampleOpening script n).signed).spends) = [] := by
    rw [List.filter_eq_nil_iff]
    intro x hx
    rw [List.mem_singleton.mp hx, decide_eq_true_eq, not_not]
    exact List.mem_singleton_self _
  change (sampleLedger.filter fun x =>
    x.1 ∉ (moveOf sampleChain (sampleOpening script n).signed).spends) ++ _ = _
  rw [hspent]
  rfl

lemma openedRun_next {next : ToccataV1Tx} {s : List UInt8} (hpop : Populates script n)
    (hn : n < 2^32) (hlen : (pushData script).length < 2^32)
    (hsig : ∀ input ∈ next.inputs, input.signatureScript.toList = pushData script)
    (hnext : Admitted sampleChain (moveOf sampleChain (sampleOpening script n).signed).creates next)
    (hfree : IdsCollisionFree sampleHasher (sampleOpening script n).signed next)
    (hnew : ∀ t ∈ [(sampleOpening script n).signed, next], ∀ o ∈ places sampleLedger,
      o.transactionId ≠ txid sampleHasher t)
    (hopens : openingStrings next = [s])
    (hapart : sampleHasher .covenantID (covenantIdPreimage sampleOutpoint
      (authorizedOutputs (sampleGenesis script n none) (sampleGroup n))) ≠
        sampleHasher .covenantID s) :
    OpenedRun sampleChain sampleLedger [] (sampleOpening script n) [next] (sampleId script n)
      script := by
  refine openedRun_sample hpop ?_ ⟨List.nodup_singleton _, ?_, hnew⟩ ?_ ?_
  · rw [← ledger_sampleGenesis] at hnext
    exact everyStep_cons (admitted_sampleGenesis hpop hn) (everyStep_cons hnext (everyStep_nil _))
  · intro t ht u hu
    simp only [List.mem_cons, List.not_mem_nil, or_false] at ht hu
    rcases ht with rfl | rfl <;> rcases hu with rfl | rfl
    · exact idsCollisionFree_refl _ _
    · exact hfree
    · exact idsCollisionFree_symm hfree
    · exact idsCollisionFree_refl _ _
  · refine CollisionFree.mono (CollisionFree.pair hapart) ?_
    rintro r (hr | ⟨tx, htx, hr⟩)
    · exact .inl (List.mem_singleton.mp hr)
    · simp only [List.mem_cons, List.not_mem_nil, or_false] at htx
      rcases htx with rfl | rfl
      · exact .inl (openingStrings_sampleGenesis hpop hn hr)
      · rw [hopens] at hr
        exact .inr (List.mem_singleton.mp hr)
  · intro tx htx input hinput r stack hr
    obtain rfl := List.mem_singleton.mp htx
    have hsame := hr.symm.trans (reveals_pushData hlen (hsig input hinput))
    simp only [Option.some.injEq, Machine.mk.injEq, List.cons.injEq, true_and] at hsame
    exact hsame.1

end Samples

section Singleton
variable {c : Chain} {L : Coins} {before later : List ToccataV1Tx} {o : Opening} {id : Bytes32}
  {script : List UInt8} {done : List ToccataV1Tx}

/-- Where the covenant is open: at the opened output, or at the first output of the transaction
that spent it last. -/
def openAfter (c : Chain) (o : Opening) (k : UInt32) (done : List ToccataV1Tx) : KaspaOutpoint :=
  done.foldl (fun p tx => if p ∈ spentOutpoints tx then ⟨txid c.hash tx, 0⟩ else p)
    ⟨txid c.hash o.signed, k⟩

lemma openAfter_concat (k : UInt32) (done : List ToccataV1Tx) (tx : ToccataV1Tx) :
    openAfter c o k (done ++ [tx]) =
      if openAfter c o k done ∈ spentOutpoints tx then ⟨txid c.hash tx, 0⟩
      else openAfter c o k done := by
  rw [openAfter, List.foldl_append]
  rfl

variable (h : OpenedRun c L before o later id script) {spec : CovenantSpec}
  (hbuild : spec.buildScript = .ok script)
include h hbuild

lemma OpenedRun.singleton_spend {tx : ToccataV1Tx} (hdone : done ++ [tx] <+: later)
    {p : KaspaOutpoint} (hp : p ∈ spentOutpoints tx)
    (hcoin : coinAt (ledgerSince c L before o done) p = some ⟨c.lock script, some id⟩) :
    ∃ output, tx.outputs = [output] ∧ coinOf output = ⟨c.lock script, some id⟩ ∧
      CommitsTo spec tx.payload.toList := by
  obtain ⟨k, stack, hk, hsucceeds⟩ := h.runs_script hdone hp hcoin rfl
  obtain ⟨code, rfl, hchecks⟩ := checks_policyScript c.absent hbuild hk rfl
  have hpolicy := (hchecks.succeedsFrom_iff stack).mp hsucceeds
  have hcount : tx.outputs.length = 1 := by
    have hlength := hpolicy.outputCount
    rwa [view, List.length_map] at hlength
  obtain ⟨output, houtput⟩ := List.length_eq_one_iff.mp hcount
  obtain ⟨seen, hseen, hcontinues⟩ := hpolicy.continued 0 (by simp [CovenantContinuationPolicy.singleton])
  have hview : seen = outputView output := by
    simpa [view, houtput, eq_comm] using hseen
  refine ⟨output, houtput, ?_, hpolicy.payload⟩
  have hscript := hcontinues.script
  have hcarries : (coinOf output).Carries id := by
    rw [← outputView_carries, ← hview, CovenantSpend.TxOutput.Carries, hcontinues.covenant]
    rfl
  rw [hview] at hscript
  exact CovenantSpend.TxInput.mk.injEq .. |>.mpr ⟨hscript, hcarries⟩

lemma OpenedRun.sole {k : UInt32} (hk : o.group.outputs = [k]) (hdone : done <+: later) :
    held (carrying id) (ledgerSince c L before o done) =
      [(openAfter c o k done, ⟨c.lock script, some id⟩)] := by
  induction done using List.reverseRecOn with
  | nil =>
    have hopened := h.opened_perm
    rw [hk] at hopened
    exact List.perm_singleton.mp hopened
  | append_singleton done tx ih =>
    have hprefix := (List.prefix_append done [tx]).trans hdone
    have hsole := ih hprefix
    have hnodup := h.nodup_since hprefix
    rw [openAfter_concat]
    by_cases hspent : openAfter c o k done ∈ spentOutpoints tx
    · obtain ⟨output, houtputs, hcoin, -⟩ := h.singleton_spend hbuild hdone hspent
        ((coinAt_eq_some hnodup).mpr (mem_of_held_eq hsole))
      have hcreates : held (carrying id) (moveOf c tx).creates =
          [(⟨txid c.hash tx, 0⟩, ⟨c.lock script, some id⟩)] := by
        simp [held, moveOf, houtputs, hcoin, CovenantSpend.TxInput.Carries]
      have hgone : [(openAfter c o k done, (⟨c.lock script, some id⟩ : Coin))].filter
          (fun x => x.1 ∉ (moveOf c tx).spends) = [] := by
        rw [List.filter_eq_nil_iff]
        intro x hx
        rw [List.mem_singleton.mp hx, decide_eq_true_eq, not_not]
        exact hspent
      rw [if_pos hspent, ledgerSince_concat, held_apply, hsole, hcreates, hgone, List.nil_append]
    · rw [if_neg hspent, h.untouched hdone, hsole]
      intro p hp coin hcoin hcarries
      have hmem : (p, coin) ∈ held (carrying id) (ledgerSince c L before o done) :=
        mem_held.mpr ⟨mem_of_coinAt hcoin, carrying_eq_true.mpr hcarries⟩
      rw [hsole, List.mem_singleton, Prod.mk.injEq] at hmem
      exact hspent (hmem.1 ▸ hp)

end Singleton

/-- From its opening on, a covenant with one output and the singleton script is on one coin. The
coin keeps the script; each transaction that spends it has one output and a payload with a state of
the same covenant. -/
theorem singleton_covenant_is_on_one_coin (c : Chain) (L : Coins) (before later : List ToccataV1Tx)
    (o : Opening) (id : Bytes32) (script : List UInt8)
    (h : OpenedRun c L before o later id script) (spec : CovenantSpec)
    (hbuild : spec.buildScript = .ok script) (k : UInt32) (hk : o.group.outputs = [k])
    (done : List ToccataV1Tx) (hdone : done <+: later) :
    held (carrying id) (ledgerSince c L before o done) =
        [(openAfter c o k done, ⟨c.lock script, some id⟩)] ∧
      ∀ tx, done ++ [tx] <+: later → openAfter c o k done ∈ spentOutpoints tx →
        tx.outputs.length = 1 ∧ CommitsTo spec tx.payload.toList := by
  have hsole := h.sole hbuild hk hdone
  refine ⟨hsole, fun tx htx hspent => ?_⟩
  obtain ⟨output, houtputs, -, hpayload⟩ := h.singleton_spend hbuild htx hspent
    ((coinAt_eq_some (h.nodup_since hdone)).mpr (mem_of_held_eq hsole))
  exact ⟨by simp [houtputs], hpayload⟩

/-- An opening and one transition by the wallet behind it. -/
def sampleOpened : Opening := sampleOpening sampleScript 1

def sampleNext : ToccataV1Tx :=
  sampleTransition ⟨txid sampleHasher sampleOpened.signed, 0⟩ (sampleId sampleScript 1)

lemma openedRun_sampleNext :
    OpenedRun sampleChain sampleLedger [] sampleOpened [sampleNext] (sampleId sampleScript 1)
      sampleScript := by
  have hcreates : (moveOf sampleChain sampleOpened.signed).creates =
      [(⟨txid sampleHasher sampleOpened.signed, 0⟩,
        ⟨sampleChain.lock sampleScript, some (sampleId sampleScript 1)⟩)] := rfl
  have hcoin : coinAt (moveOf sampleChain sampleOpened.signed).creates
      ⟨txid sampleHasher sampleOpened.signed, 0⟩ =
        some ⟨sampleChain.lock sampleScript, some (sampleId sampleScript 1)⟩ := by
    rw [hcreates]
    simp [coinAt]
  have hnext : Admitted sampleChain (moveOf sampleChain sampleOpened.signed).creates sampleNext :=
    (built_sampleTransition hcoin (by decide +kernel)).parts.admitted buildScript_sample hcoin
  refine openedRun_next (populates_one _) (by norm_num) length_pushData_sample ?_ hnext ?_
    (by decide +kernel) rfl (by decide +kernel)
  · intro input hinput
    rw [List.mem_singleton.mp hinput]
    exact toList_sampleSignature
  · constructor <;> exact CollisionFree.pair (by decide +kernel)

theorem singleton_covenant_is_on_one_coin_sample :
    held (carrying (sampleId sampleScript 1))
        (ledgerSince sampleChain sampleLedger [] sampleOpened [sampleNext]) =
      [(openAfter sampleChain sampleOpened 0 [sampleNext],
        ⟨sampleChain.lock sampleScript, some (sampleId sampleScript 1)⟩)] :=
  (singleton_covenant_is_on_one_coin _ _ _ _ _ _ _ openedRun_sampleNext sampleSpec
    buildScript_sample 0 rfl [sampleNext] List.prefix_rfl).1

section Shared
variable {c : Chain} {L : Coins} {before later : List ToccataV1Tx} {o : Opening} {id : Bytes32}
  {script : List UInt8}

/-- How many of the transactions spend coins of the covenant. -/
def covenantSpends (c : Chain) (id : Bytes32) : Coins → List ToccataV1Tx → ℕ
  | _, [] => 0
  | L, tx :: rest => (if (view L tx).inputs.any (carrying id) then 1 else 0) +
      covenantSpends c id ((moveOf c tx).apply L) rest

lemma covenantSpends_concat (L : Coins) (done : List ToccataV1Tx) (tx : ToccataV1Tx) :
    covenantSpends c id L (done ++ [tx]) = covenantSpends c id L done +
      if (view (ledgerAfter c L done) tx).inputs.any (carrying id) then 1 else 0 := by
  induction done generalizing L with
  | nil => simp [covenantSpends, ledgerAfter]
  | cons first done ih =>
    rw [List.cons_append, covenantSpends, ih, covenantSpends, Nat.add_assoc]
    rfl

/-- Every coin of the covenant is locked by its script. -/
def AllLocked (c : Chain) (id : Bytes32) (script : List UInt8) (L : Coins) : Prop :=
  ∀ x ∈ held (carrying id) L, x.2.scriptPublicKey = c.lock script

variable (h : OpenedRun c L before o later id script) {spec : CovenantSpec}
  {policy : CovenantSharedContinuationPolicy}
  (hbuild : spec.buildScriptForSharedPolicy policy = .ok script) {done : List ToccataV1Tx}
  {tx : ToccataV1Tx} (hdone : done ++ [tx] <+: later)
  (hlocked : AllLocked c id script (ledgerSince c L before o done))
include h hbuild hdone hlocked

/-- The shared script runs on any coin of the covenant that is spent, and speaks about all. -/
lemma OpenedRun.shared_spend
    (hspends : (view (ledgerSince c L before o done) tx).inputs.any (carrying id) = true) :
    ∃ coin, coin.scriptPublicKey = c.lock script ∧
      SharedPolicyHolds spec policy (view (ledgerSince c L before o done) tx) coin id := by
  obtain ⟨coin, hmem, hcarries⟩ := List.any_eq_true.mp hspends
  obtain ⟨p, hp, hcoin⟩ := List.mem_filterMap.mp hmem
  have hlock := hlocked (p, coin) (mem_held.mpr ⟨mem_of_coinAt hcoin, hcarries⟩)
  obtain ⟨k, stack, hk, hsucceeds⟩ := h.runs_script hdone hp hcoin hlock
  obtain ⟨code, rfl, hchecks⟩ := checks_sharedPolicyScript c.absent hbuild hk
    (carrying_eq_true.mp hcarries)
  exact ⟨coin, hlock, (hchecks.succeedsFrom_iff stack).mp hsucceeds⟩

/-- One step: the script stays on every coin, and a transaction that spends coins of the covenant
takes away and puts back as many as the policy says. -/
lemma OpenedRun.shared_step :
    let spending := if (view (ledgerSince c L before o done) tx).inputs.any (carrying id)
      then 1 else 0
    AllLocked c id script (ledgerSince c L before o (done ++ [tx])) ∧
      (held (carrying id) (ledgerSince c L before o (done ++ [tx]))).length +
          spending*policy.covenantInputCount.toNat =
        (held (carrying id) (ledgerSince c L before o done)).length +
          spending*policy.covenantOutputCount.toNat := by
  intro spending
  by_cases hspends : (view (ledgerSince c L before o done) tx).inputs.any (carrying id) = true
  · obtain ⟨coin, hlock, hpolicy⟩ := h.shared_spend hbuild hdone hlocked hspends
    have hone : spending = 1 := if_pos hspends
    obtain ⟨-, hadm⟩ := h.admitted_later hdone
    have hnodup := h.nodup_since ((List.prefix_append done [tx]).trans hdone)
    have hcount := hadm.lawful.length_held_apply (carrying id) hnodup
    have hinputs : ((moveOf c tx).spends.filterMap
        (coinAt (ledgerAfter c L (before ++ o.signed :: done)))).countP (carrying id) =
        policy.covenantInputCount.toNat := hpolicy.covenantInputs
    have houtputs : (held (carrying id) (moveOf c tx).creates).length =
        policy.covenantOutputCount.toNat :=
      (length_held_creates (L := ledgerSince c L before o done)).trans hpolicy.covenantOutputs
    rw [hinputs, houtputs] at hcount
    rw [ledgerSince_concat, hone, Nat.one_mul, Nat.one_mul]
    refine ⟨?_, hcount⟩
    intro x hx
    rw [held_apply, List.mem_append] at hx
    rcases hx with hx | hx
    · exact hlocked x (List.mem_filter.mp hx).1
    · obtain ⟨hx, hid⟩ := mem_held.mp hx
      obtain ⟨k, output, hout, -, hcoin⟩ := mem_creates.mp hx
      rw [hcoin] at hid ⊢
      rw [← hlock]
      refine hpolicy.kept (outputView output) ?_ ?_
      · exact List.mem_map_of_mem (List.mem_of_getElem? hout)
      · exact outputView_carries.mpr (carrying_eq_true.mp hid)
  · have hzero : spending = 0 := if_neg hspends
    have hsame := h.untouched hdone (fun p hp coin hcoin hcarries => hspends (by
      refine List.any_eq_true.mpr ⟨coin, ?_, carrying_eq_true.mpr hcarries⟩
      exact List.mem_filterMap.mpr ⟨p, hp, hcoin⟩))
    rw [hzero, Nat.zero_mul, Nat.zero_mul, AllLocked, hsame]
    exact ⟨hlocked, rfl⟩

end Shared

/-- Under a shared policy every coin of the covenant keeps the script for ever, and their number is
the number of opened outputs, changed by the policy's counts once for each spending transaction. -/
theorem shared_covenant_coins_are_counted (c : Chain) (L : Coins)
    (before later : List ToccataV1Tx) (o : Opening) (id : Bytes32) (script : List UInt8)
    (h : OpenedRun c L before o later id script) (spec : CovenantSpec)
    (policy : CovenantSharedContinuationPolicy)
    (hbuild : spec.buildScriptForSharedPolicy policy = .ok script) (done : List ToccataV1Tx)
    (hdone : done <+: later) :
    let spends := covenantSpends c id (ledgerAfter c L (before ++ [o.signed])) done
    AllLocked c id script (ledgerSince c L before o done) ∧
      (held (carrying id) (ledgerSince c L before o done)).length +
          spends*policy.covenantInputCount.toNat =
        o.group.outputs.length + spends*policy.covenantOutputCount.toNat := by
  intro spends
  induction done using List.reverseRecOn with
  | nil =>
    have hopened := h.opened_perm
    refine ⟨fun x hx => ?_, ?_⟩
    · obtain ⟨k, -, rfl⟩ := List.mem_map.mp (hopened.mem_iff.mp hx)
      rfl
    · simpa [spends, covenantSpends, ledgerSince] using hopened.length_eq
  | append_singleton done tx ih =>
    obtain ⟨hlocked, hcount⟩ := ih ((List.prefix_append done [tx]).trans hdone)
    obtain ⟨hlocked', hcount'⟩ := h.shared_step hbuild hdone hlocked
    have hspends : spends = covenantSpends c id (ledgerAfter c L (before ++ [o.signed])) done +
        if (view (ledgerSince c L before o done) tx).inputs.any (carrying id) then 1 else 0 := by
      have hsplit : ledgerAfter c (ledgerAfter c L (before ++ [o.signed])) done =
          ledgerSince c L before o done := by
        rw [ledgerSince, ledgerAfter, ledgerAfter, ← after_append, ← List.map_append,
          List.append_assoc, List.singleton_append]
        rfl
      rw [← hsplit]
      exact covenantSpends_concat _ done tx
    refine ⟨hlocked', ?_⟩
    rw [hspends, Nat.add_mul, Nat.add_mul]
    omega

/-- Two coins may be merged into one. -/
@[irreducible] def sampleSharedScript : List UInt8 :=
  builtScript (sampleSpec.buildScriptForSharedPolicy ⟨2, 1, 1⟩)

lemma buildScript_sampleShared :
    sampleSpec.buildScriptForSharedPolicy ⟨2, 1, 1⟩ = .ok sampleSharedScript := by
  unfold sampleSharedScript
  exact eq_ok_builtScript (buildScriptForSharedPolicy_eq_ok sampleSpec rfl)

lemma length_pushData_shared : (pushData sampleSharedScript).length < 2^32 := by decide +kernel

def sharedOpened : Opening := sampleOpening sampleSharedScript 2

def sharedCoin : Coin :=
  ⟨sampleChain.lock sampleSharedScript, some (sampleId sampleSharedScript 2)⟩

/-- Both coins of the opening are spent into one. -/
def sampleMerge : ToccataV1Tx :=
  ⟨[0, 1].map fun k => ⟨⟨txid sampleHasher sharedOpened.signed, k⟩,
      ⟨pushData sampleSharedScript, length_pushData_shared.trans (by norm_num)⟩, 0, 10⟩,
    [⟨200, lockedBy sampleSharedScript, some ⟨0, sampleId sampleSharedScript 2⟩⟩], 0,
    subnetworkIdNative, 0, payloadOf (sampleState (Bytes.fill 32 9) (Bytes.fill 32 8)), 0⟩

lemma creates_sharedOpened : (moveOf sampleChain sharedOpened.signed).creates =
    [(⟨txid sampleHasher sharedOpened.signed, 0⟩, sharedCoin),
      (⟨txid sampleHasher sharedOpened.signed, 1⟩, sharedCoin)] := rfl

lemma coinAt_sampleMerge {input : ToccataTxInput} (hinput : input ∈ sampleMerge.inputs) :
    coinAt (moveOf sampleChain sharedOpened.signed).creates input.previousOutpoint =
      some sharedCoin := by
  rw [creates_sharedOpened]
  simp only [sampleMerge, List.map_cons, List.map_nil, List.mem_cons, List.not_mem_nil,
    or_false] at hinput
  rcases hinput with rfl | rfl
  · simp [coinAt]
  · simp [coinAt]

lemma view_sampleMerge : (view (moveOf sampleChain sharedOpened.signed).creates sampleMerge).inputs =
    List.replicate 2 sharedCoin := by
  simp [view, creates_sharedOpened, spentOutpoints, sampleMerge, coinAt]

lemma sharedPolicy_sampleMerge :
    SharedPolicyHolds sampleSpec ⟨2, 1, 1⟩
      (view (moveOf sampleChain sharedOpened.signed).creates sampleMerge) sharedCoin
      (sampleId sampleSharedScript 2) := by
  constructor
  · rfl
  · rw [view_sampleMerge]
    simp [sharedCoin, CovenantSpend.TxInput.Carries]
  · simp [view, sampleMerge, outputView, CovenantSpend.TxOutput.Carries]
  · intro output hout _
    rw [List.mem_singleton.mp hout]
    rfl
  · exact ⟨sampleState (Bytes.fill 32 9) (Bytes.fill 32 8), ⟨rfl, rfl, rfl, rfl, rfl, rfl⟩, rfl⟩

lemma admitted_sampleMerge :
    Admitted sampleChain (moveOf sampleChain sharedOpened.signed).creates sampleMerge := by
  constructor
  · constructor
    · simp [sampleMerge]
    · simp [sampleMerge]
    · simp [sampleMerge, payloadOf, length_encodePayload]
    · intro input hinput
      obtain ⟨k, -, rfl⟩ := List.mem_map.mp hinput
      exact length_pushData_shared
    · simp [sampleMerge, ShortOutput, lockedBy]
  · simp [sampleMerge]
  · simp [sampleMerge, spentOutpoints]
  · intro o ho
    obtain ⟨input, hinput, rfl⟩ := List.mem_map.mp ho
    exact List.mem_map_of_mem (mem_of_coinAt (coinAt_sampleMerge hinput))
  · intro k input coin hk hcoin _
    have hinput : input ∈ sampleMerge.inputs := List.mem_of_getElem? hk
    obtain rfl := Option.some.inj ((coinAt_sampleMerge hinput).symm.trans hcoin)
    have hseen : (view (moveOf sampleChain sharedOpened.signed).creates sampleMerge).inputs[k]? =
        some sharedCoin := by
      have hlt : k < 2 := (List.getElem?_eq_some_iff.mp hk).1
      rw [view_sampleMerge, List.getElem?_replicate_of_lt hlt]
    have hid : sharedCoin.Carries (sampleId sampleSharedScript 2) := rfl
    obtain ⟨code, hscript, hchecks⟩ := checks_sharedPolicyScript sampleChain.absent
      buildScript_sampleShared hseen hid
    refine ⟨sampleSharedScript, [], reveals_pushData length_pushData_shared ?_, rfl, ?_⟩
    · obtain ⟨k, -, rfl⟩ := List.mem_map.mp hinput
      rfl
    · rw [hscript]
      exact (hchecks.succeedsFrom_iff []).mpr sharedPolicy_sampleMerge
  · intro output hout b hb
    obtain rfl := List.mem_singleton.mp hout
    obtain rfl := Option.some.inj hb
    exact ⟨_, rfl, .inl ⟨_, coinAt_sampleMerge List.mem_cons_self, rfl⟩⟩

lemma openedRun_sampleMerge :
    OpenedRun sampleChain sampleLedger [] sharedOpened [sampleMerge] (sampleId sampleSharedScript 2)
      sampleSharedScript := by
  refine openedRun_next (populates_two _) (by norm_num) length_pushData_shared ?_
    admitted_sampleMerge ?_ (by decide +kernel) rfl (by decide +kernel)
  · intro input hinput
    obtain ⟨k, -, rfl⟩ := List.mem_map.mp hinput
    rfl
  · constructor <;> exact CollisionFree.pair (by decide +kernel)

/-- Two coins are opened, and a transaction merges them into one. -/
theorem shared_covenant_coins_are_counted_sample :
    sharedOpened.group.outputs.length = 2 ∧ covenantSpends sampleChain (sampleId sampleSharedScript 2)
        (ledgerAfter sampleChain sampleLedger [sharedOpened.signed]) [sampleMerge] = 1 ∧
      (held (carrying (sampleId sampleSharedScript 2))
        (ledgerSince sampleChain sampleLedger [] sharedOpened [sampleMerge])).length = 1 := by
  have h := (shared_covenant_coins_are_counted _ _ _ _ _ _ _ openedRun_sampleMerge sampleSpec
    ⟨2, 1, 1⟩ buildScript_sampleShared [sampleMerge] List.prefix_rfl).2
  have hspends : covenantSpends sampleChain (sampleId sampleSharedScript 2)
      (ledgerAfter sampleChain sampleLedger [sharedOpened.signed]) [sampleMerge] = 1 := by
    rw [covenantSpends, sharedOpened, ledger_sampleGenesis, ← sharedOpened, view_sampleMerge]
    simp [covenantSpends, carrying, sharedCoin, CovenantSpend.TxInput.Carries]
  refine ⟨rfl, hspends, ?_⟩
  rw [List.nil_append, hspends] at h
  simpa [sharedOpened, sampleOpening, sampleGroup] using h

end RgkProtocol.CovenantRuns
