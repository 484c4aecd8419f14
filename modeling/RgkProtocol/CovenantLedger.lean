import RgkProtocol.UtxoLedger
import RgkProtocol.GenesisCovenants
import RgkProtocol.TransactionBuilders

/-!
# Covenants on the ledger

The chain as the covenant scripts see it: a ledger of unspent outputs, transactions that reveal the
scripts behind what they spend, and covenant bindings that either continue a spent covenant or open
a new one. A covenant id commits to the outpoint that opened it, and an outpoint is spent once, so a
covenant is opened once; from then on only its own scripts move it.
-/
namespace RgkProtocol.CovenantLedger
open ByteStrings SelfDelimiting Hashing CoreTypes Checked ScriptMachine CovenantScript CovenantSpend
open TransitionOutputs ToccataTx TransactionIdentity GenesisCovenants TransactionBuilders
open LinkedPath UtxoLedger

section Chain

/-- The hashes of the chain, the script that stands for a redeem script in an output, and what the
opcodes read where there is no covenant. -/
structure Chain where
  hash : KaspaHasher → List UInt8 → Bytes32
  lock : List UInt8 → List UInt8
  absent : AbsentReads

/-- An unspent output: its script and its covenant. -/
abbrev Coin := CovenantSpend.TxInput

abbrev Coins := Ledger KaspaOutpoint Coin

def coinOf (output : ToccataTxOutput) : Coin :=
  ⟨toVersionedBytes output.scriptPublicKey, output.covenantBinding.map (·.covenantId)⟩

def outputView (output : ToccataTxOutput) : CovenantSpend.TxOutput :=
  ⟨toVersionedBytes output.scriptPublicKey,
    output.covenantBinding.map fun b => ⟨b.authorizingInput, b.covenantId⟩⟩

def spentOutpoints (tx : ToccataV1Tx) : List KaspaOutpoint :=
  tx.inputs.map ToccataTxInput.previousOutpoint

/-- The transaction as the introspection opcodes see it. -/
def view (L : Coins) (tx : ToccataV1Tx) : SpendingTransaction :=
  ⟨(spentOutpoints tx).filterMap (coinAt L), tx.outputs.map outputView, tx.payload.toList⟩

/-- The outputs that share a binding, in order. -/
def boundOutputs (tx : ToccataV1Tx) (binding : TransitionOutputs.CovenantBinding) : List UInt32 :=
  (tx.outputs.zipIdx.filter fun p => p.1.covenantBinding = some binding).map fun p =>
    UInt32.ofNat p.2

/-- The string whose hash opens a covenant with this binding. -/
def openingString (tx : ToccataV1Tx) (input : ToccataTxInput)
    (binding : TransitionOutputs.CovenantBinding) : List UInt8 :=
  covenantIdPreimage input.previousOutpoint
    (authorizedOutputs tx ⟨binding.authorizingInput, boundOutputs tx binding⟩)

/-- The strings that the bindings of a transaction may open covenants with. -/
def openingStrings (tx : ToccataV1Tx) : List (List UInt8) :=
  tx.outputs.filterMap fun output => output.covenantBinding.bind fun b =>
    tx.inputs[b.authorizingInput.toNat]?.map fun input => openingString tx input b

/-- The signature script pushes a redeem script on top of a stack of its own. -/
def Reveals (input : ToccataTxInput) (redeem : List UInt8) (stack : Stack) : Prop :=
  run (fun _ => none) input.signatureScript.toList ⟨.ready, []⟩ = some ⟨.ready, redeem :: stack⟩

variable (c : Chain)

def moveOf (tx : ToccataV1Tx) : Move Bytes32 KaspaOutpoint Coin :=
  ⟨txid c.hash tx, spentOutpoints tx, tx.outputs.zipIdx.map fun p =>
    (⟨txid c.hash tx, UInt32.ofNat p.2⟩, coinOf p.1)⟩

def ledgerAfter (L : Coins) (txs : List ToccataV1Tx) : Coins := after L (txs.map (moveOf c))

structure Unlocks (spending : SpendingTransaction) (k : ℕ) (input : ToccataTxInput) (coin : Coin)
    (redeem : List UInt8) (stack : Stack) : Prop where
  reveals : Reveals input redeem stack
  locked : c.lock redeem = coin.scriptPublicKey
  succeeds : SucceedsFrom (introspect c.absent spending k) stack redeem

/-- A binding continues the covenant of its authorizing input, or opens a covenant on it. -/
def Binds (L : Coins) (tx : ToccataV1Tx) (binding : TransitionOutputs.CovenantBinding) : Prop :=
  ∃ input, tx.inputs[binding.authorizingInput.toNat]? = some input ∧
    ((∃ coin, coinAt L input.previousOutpoint = some coin ∧ coin.Carries binding.covenantId) ∨
      binding.covenantId = c.hash .covenantID (openingString tx input binding))

/-- The rules of the chain for one transaction. Outputs that are not locked by a redeem script are
spent by rules of their own, which are left open. -/
structure Admitted (L : Coins) (tx : ToccataV1Tx) : Prop where
  short : Short tx
  inputs_ne_nil : tx.inputs ≠ []
  spends_nodup : (spentOutpoints tx).Nodup
  spends_held : ∀ o ∈ spentOutpoints tx, o ∈ places L
  unlocked : ∀ k input coin, tx.inputs[k]? = some input →
    coinAt L input.previousOutpoint = some coin → coin.scriptPublicKey ∈ Set.range c.lock →
      ∃ redeem stack, Unlocks c (view L tx) k input coin redeem stack
  bound : ∀ output ∈ tx.outputs, ∀ binding, output.covenantBinding = some binding →
    Binds c L tx binding

/-- A run of the chain: every transaction is admitted to the ledger that the ones before left. -/
def Runs (L : Coins) (txs : List ToccataV1Tx) : Prop :=
  EveryStep (fun done tx => Admitted c (ledgerAfter c L done) tx) txs

/-- The hashes of a run bind: the ids of its transactions are told apart, and from those of the
outputs that were there before. -/
structure IdsBind (L : Coins) (txs : List ToccataV1Tx) : Prop where
  held : (places L).Nodup
  free : ∀ t ∈ txs, ∀ u ∈ txs, IdsCollisionFree c.hash t u
  new : ∀ t ∈ txs, ∀ o ∈ places L, o.transactionId ≠ txid c.hash t

end Chain

section Moves
variable {c : Chain} {L : Coins} {tx : ToccataV1Tx} {txs : List ToccataV1Tx}

lemma ledgerAfter_concat (txs : List ToccataV1Tx) (tx : ToccataV1Tx) :
    ledgerAfter c L (txs ++ [tx]) = (moveOf c tx).apply (ledgerAfter c L txs) := by
  rw [ledgerAfter, List.map_append, List.map_singleton, after_concat]
  rfl

lemma mem_creates {o : KaspaOutpoint} {coin : Coin} :
    (o, coin) ∈ (moveOf c tx).creates ↔ ∃ k output, tx.outputs[k]? = some output ∧
      o = ⟨txid c.hash tx, UInt32.ofNat k⟩ ∧ coin = coinOf output := by
  simp only [moveOf, List.mem_map, Prod.exists, List.mem_zipIdx_iff_getElem?, Prod.mk.injEq]
  constructor
  · rintro ⟨output, k, hout, rfl, rfl⟩
    exact ⟨k, output, hout, rfl, rfl⟩
  · rintro ⟨k, output, hout, rfl, rfl⟩
    exact ⟨output, k, hout, rfl, rfl⟩

lemma toNat_ofNat_of_short (hshort : Short tx) {j : ℕ} (hj : j < tx.outputs.length) :
    (UInt32.ofNat j).toNat = j := by
  rw [UInt32.toNat_ofNat']
  exact Nat.mod_eq_of_lt (hj.trans hshort.outputs)

lemma nodup_creates (hshort : Short tx) : (places (moveOf c tx).creates).Nodup := by
  have hplaces : places (moveOf c tx).creates =
      (List.range tx.outputs.length).map fun k => ⟨txid c.hash tx, UInt32.ofNat k⟩ := by
    rw [places, moveOf, List.map_map, List.range_eq_range', ← List.zipIdx_map_snd 0 tx.outputs,
      List.map_map]
    rfl
  rw [hplaces]
  refine List.Nodup.map_on ?_ List.nodup_range
  intro i hi j hj h
  have hwords : UInt32.ofNat i = UInt32.ofNat j := congrArg KaspaOutpoint.index h
  have hnat := congrArg UInt32.toNat hwords
  rwa [toNat_ofNat_of_short hshort (List.mem_range.mp hi),
    toNat_ofNat_of_short hshort (List.mem_range.mp hj)] at hnat

lemma Admitted.lawful (h : Admitted c L tx) : Lawful KaspaOutpoint.transactionId L (moveOf c tx) where
  spends_ne_nil := by simpa [moveOf, spentOutpoints] using h.inputs_ne_nil
  spends_nodup := h.spends_nodup
  spends_held := h.spends_held
  creates_nodup := nodup_creates h.short
  creates_own := by
    intro o ho
    obtain ⟨⟨o', coin⟩, hmem, rfl⟩ := List.mem_map.mp ho
    obtain ⟨k, output, -, rfl, -⟩ := mem_creates.mp hmem
    rfl

lemma spentOutpoints_eq_of_txid {t u : ToccataV1Tx} (ht : Short t) (hu : Short u)
    (hfree : IdsCollisionFree c.hash t u) (h : txid c.hash t = txid c.hash u) :
    spentOutpoints t = spentOutpoints u := by
  obtain ⟨-, hrest⟩ := (txid_eq_iff hfree).mp h
  have herase := (writeTransaction_eq_iff ht.fits hu.fits).mp hrest
  have hinputs := congrArg (List.map ToccataTxInput.previousOutpoint)
    (congrArg ToccataV1Tx.inputs herase)
  simpa [spentOutpoints, ToccataV1Tx.erase, Function.comp_def, ToccataTxInput.erase] using hinputs

lemma Runs.short (h : Runs c L txs) {tx : ToccataV1Tx} (htx : tx ∈ txs) : Short tx := by
  obtain ⟨pre, post, rfl⟩ := List.append_of_mem htx
  exact (h pre tx post rfl).short

lemma Runs.lawful (h : Runs c L txs) :
    EveryStep (fun done m => Lawful KaspaOutpoint.transactionId (after L done) m)
      (txs.map (moveOf c)) := by
  intro pre m post hsplit
  obtain ⟨done, rest, rfl, rfl, hrest⟩ := List.map_eq_append_iff.mp hsplit
  obtain ⟨tx, later, rfl, rfl, -⟩ := List.map_eq_cons_iff.mp hrest
  exact (h done tx later rfl).lawful

lemma IdsBind.names (hids : IdsBind c L txs) (hrun : Runs c L txs) :
    NamesBind KaspaOutpoint.transactionId L (txs.map (moveOf c)) := by
  constructor
  · intro m hm n hn hname
    obtain ⟨t, ht, rfl⟩ := List.mem_map.mp hm
    obtain ⟨u, hu, rfl⟩ := List.mem_map.mp hn
    exact spentOutpoints_eq_of_txid (hrun.short ht) (hrun.short hu) (hids.free t ht u hu) hname
  · intro m hm o ho
    obtain ⟨t, ht, rfl⟩ := List.mem_map.mp hm
    exact hids.new t ht o ho

lemma Runs.nodup (hrun : Runs c L txs) (hids : IdsBind c L txs) :
    (places (ledgerAfter c L txs)).Nodup :=
  (run_settled hids.held (hids.names hrun) hrun.lawful).nodup

/-- No outpoint is spent twice in a run. -/
lemma Runs.spends_apart (hrun : Runs c L txs) (hids : IdsBind c L txs) :
    txs.Pairwise fun t u => (spentOutpoints t).Disjoint (spentOutpoints u) := by
  have h := run_spends_apart hids.held (hids.names hrun) hrun.lawful
  rwa [List.pairwise_map] at h

lemma IdsBind.mono {txs' : List ToccataV1Tx} (h : IdsBind c L txs) (hsub : ∀ t ∈ txs', t ∈ txs) :
    IdsBind c L txs' :=
  ⟨h.held, fun t ht u hu => h.free t (hsub t ht) u (hsub u hu), fun t ht => h.new t (hsub t ht)⟩

lemma Runs.of_append {txs' : List ToccataV1Tx} (h : Runs c L (txs ++ txs')) : Runs c L txs := by
  intro pre tx post hsplit
  exact h pre tx (post ++ txs') (by rw [hsplit, List.append_assoc, List.cons_append])

end Moves

section Spending
variable {c : Chain} {L : Coins} {tx : ToccataV1Tx} {id : Bytes32}

/-- The coins of a covenant. -/
def carrying (id : Bytes32) (coin : Coin) : Bool := decide (coin.Carries id)

@[simp] lemma carrying_eq_true {coin : Coin} : carrying id coin = true ↔ coin.Carries id := by
  simp [carrying]

lemma outputView_carries {output : ToccataTxOutput} :
    (outputView output).Carries id ↔ (coinOf output).Carries id := by
  simp [outputView, coinOf, CovenantSpend.TxOutput.Carries, CovenantSpend.TxInput.Carries,
    Function.comp_def]

lemma coinOf_carries {output : ToccataTxOutput} :
    (coinOf output).Carries id ↔ ∃ b, output.covenantBinding = some b ∧ b.covenantId = id := by
  simp [coinOf, CovenantSpend.TxInput.Carries]

lemma getElem?_filterMap_of_held {os : List KaspaOutpoint} (h : ∀ o ∈ os, o ∈ places L) (k : ℕ) :
    (os.filterMap (coinAt L))[k]? = os[k]?.bind (coinAt L) := by
  induction os generalizing k with
  | nil => rfl
  | cons o os ih =>
    have hsome : (coinAt L o).isSome := by
      obtain ⟨x, hx, hplace⟩ := List.mem_map.mp (h o (by simp))
      rw [coinAt, Option.isSome_map, List.find?_isSome]
      exact ⟨x, hx, by simpa using hplace⟩
    obtain ⟨coin, hcoin⟩ := Option.isSome_iff_exists.mp hsome
    rw [List.filterMap_cons_some hcoin]
    cases k with
    | zero => simp [hcoin]
    | succ k => simpa using ih (fun o' ho' => h o' (by simp [ho'])) k

/-- The script of a spent coin that is locked runs, on the transaction as it is. -/
lemma Admitted.runs_script (h : Admitted c L tx) {o : KaspaOutpoint} (ho : o ∈ spentOutpoints tx)
    {coin : Coin} (hcoin : coinAt L o = some coin) {script : List UInt8}
    (hlock : coin.scriptPublicKey = c.lock script)
    (hfree : CollisionFree c.lock
      {r | r = script ∨ ∃ input ∈ tx.inputs, ∃ stack, Reveals input r stack}) :
    ∃ (k : ℕ) (stack : Stack), (view L tx).inputs[k]? = some coin ∧
      SucceedsFrom (introspect c.absent (view L tx) k) stack script := by
  obtain ⟨input, hmem, rfl⟩ := List.mem_map.mp ho
  obtain ⟨k, hk⟩ := List.mem_iff_getElem?.mp hmem
  obtain ⟨redeem, stack, hunlocks⟩ := h.unlocked k input coin hk hcoin ⟨script, hlock.symm⟩
  have hredeem : redeem = script := by
    refine hfree.eq (.inr ⟨input, hmem, stack, hunlocks.reveals⟩) (.inl rfl) ?_
    rw [hunlocks.locked, hlock]
  refine ⟨k, stack, ?_, hredeem ▸ hunlocks.succeeds⟩
  rw [view, getElem?_filterMap_of_held h.spends_held, spentOutpoints, List.getElem?_map, hk]
  exact hcoin

lemma length_held_creates :
    (held (carrying id) (moveOf c tx).creates).length =
      (view L tx).outputs.countP (·.Carries id) := by
  simp only [held, moveOf, view, ← List.countP_eq_length_filter, List.countP_map]
  conv_rhs => rw [← List.zipIdx_map_fst 0 tx.outputs, List.countP_map]
  refine List.countP_congr fun p _ => ?_
  simp [outputView_carries]

end Spending

section Ids

/-- A covenant id binds the outpoint that opened it and the outputs it was opened with. -/
lemma covenantIdPreimage_inj {o o' : KaspaOutpoint} {l l' : List AuthorizedOutput}
    (hl : l.length < 2^64) (hl' : l'.length < 2^64)
    (h : covenantIdPreimage o l = covenantIdPreimage o' l') : o = o' ∧ l = l' := by
  have hrecord : Determines (fun _ => True) writeAuthorizedOutput id := by
    have hfields := (((Determines.word32 (P := fun _ : AuthorizedOutput => True) (·.1)).append
      (Determines.word64 (·.2.1))).append (Determines.word16 (·.2.2.1))).append
      (determines_varBytes (·.2.2.2))
    refine hfields.imp fun x y _ _ he => ?_
    simp only [Prod.mk.injEq] at he
    exact Prod.ext he.1.1.1 (Prod.ext he.1.1.2 (Prod.ext he.1.2 he.2))
  simp only [covenantIdPreimage, List.append_assoc, Bytes.append_inj, le32_append_inj] at h
  obtain ⟨hid, hindex, hrecords⟩ := h
  have hlist := (hrecord.counted 8).eq ⟨by simpa using hl, by simp⟩ ⟨by simpa using hl', by simp⟩
    hrecords
  exact ⟨KaspaOutpoint.ext hid hindex, by simpa using hlist⟩

lemma authorizedOutputs_congr {tx tx' : ToccataV1Tx} (h : tx.outputs = tx'.outputs)
    (group : ToccataGenesisCovenantGroup) :
    authorizedOutputs tx group = authorizedOutputs tx' group := by
  rw [authorizedOutputs, authorizedOutputs, h]

lemma bindGroups_authorizedOutputs (H : KaspaHasher → List UInt8 → Bytes32) (tx : ToccataV1Tx)
    (groups : List ToccataGenesisCovenantGroup) (group : ToccataGenesisCovenantGroup) :
    authorizedOutputs (bindGroups H tx groups) group = authorizedOutputs tx group := by
  induction groups generalizing tx with
  | nil => rfl
  | cons first groups ih => rw [bindGroups, ih, bindGroup_authorizedOutputs]

lemma spentOutpoints_unsigned (tx : ToccataV1Tx) :
    spentOutpoints (unsigned tx) = spentOutpoints tx := by
  simp [unsigned, ToccataV1Tx.erase, spentOutpoints, ToccataTxInput.erase, Function.comp_def]

end Ids
end RgkProtocol.CovenantLedger
