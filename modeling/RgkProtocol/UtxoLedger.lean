import RgkProtocol.LinkedPath
import Mathlib.Data.List.Nodup
import Mathlib.Data.List.Perm.Basic

/-!
# Ledgers of unspent coins

A ledger holds coins at places. A move takes away the coins at the places it spends and puts new
coins at places that bear its name. When a name determines what its move spends, no name is used
twice, because the coins that the second move would spend are gone. So a place that was spent stays
empty for ever, and the coins of one kind can be counted along a run.
-/
namespace RgkProtocol.UtxoLedger
open LinkedPath
variable {τ ι γ : Type*}

/-- The coins held, each at its place. -/
abbrev Ledger (ι γ : Type*) := List (ι × γ)

structure Move (τ ι γ : Type*) where
  name : τ
  spends : List ι
  creates : List (ι × γ)

def places (L : Ledger ι γ) : List ι := L.map Prod.fst

/-- The coins of one kind, with their places. -/
def held (P : γ → Bool) (L : Ledger ι γ) : Ledger ι γ := L.filter fun x => P x.2

lemma mem_held {P : γ → Bool} {L : Ledger ι γ} {x : ι × γ} :
    x ∈ held P L ↔ x ∈ L ∧ P x.2 := by
  simp [held]

lemma mem_of_held_eq {P : γ → Bool} {L : Ledger ι γ} {x : ι × γ} (h : held P L = [x]) : x ∈ L :=
  (mem_held.mp (h ▸ List.mem_singleton_self x)).1

section Moves
variable [DecidableEq ι]

def coinAt (L : Ledger ι γ) (o : ι) : Option γ := (L.find? fun x => x.1 = o).map Prod.snd

def Move.apply (m : Move τ ι γ) (L : Ledger ι γ) : Ledger ι γ :=
  (L.filter fun x => x.1 ∉ m.spends) ++ m.creates

/-- The ledger after a sequence of moves. -/
def after (L : Ledger ι γ) (ms : List (Move τ ι γ)) : Ledger ι γ :=
  ms.foldl (fun L m => m.apply L) L

@[simp] lemma after_nil (L : Ledger ι γ) : after L ([] : List (Move τ ι γ)) = L := rfl

lemma after_append (L : Ledger ι γ) (ms ns : List (Move τ ι γ)) :
    after L (ms ++ ns) = after (after L ms) ns := List.foldl_append

lemma after_concat (L : Ledger ι γ) (ms : List (Move τ ι γ)) (m : Move τ ι γ) :
    after L (ms ++ [m]) = m.apply (after L ms) := after_append L ms [m]

lemma mem_places_apply {m : Move τ ι γ} {L : Ledger ι γ} {o : ι} :
    o ∈ places (m.apply L) ↔ (o ∈ places L ∧ o ∉ m.spends) ∨ o ∈ places m.creates := by
  simp only [places, Move.apply, List.map_append, List.mem_append, List.mem_map, List.mem_filter,
    decide_eq_true_eq]
  constructor
  · rintro (⟨x, ⟨hx, hkept⟩, rfl⟩ | hnew)
    · exact .inl ⟨⟨x, hx, rfl⟩, hkept⟩
    · exact .inr hnew
  · rintro (⟨⟨x, hx, rfl⟩, hkept⟩ | hnew)
    · exact .inl ⟨x, ⟨hx, hkept⟩, rfl⟩
    · exact .inr hnew

lemma find?_place {L : Ledger ι γ} (hL : (places L).Nodup) {o : ι} {x : ι × γ} :
    (L.find? fun x => x.1 = o) = some x ↔ x ∈ L ∧ x.1 = o := by
  constructor
  · intro h
    exact ⟨List.mem_of_find?_eq_some h, by simpa using List.find?_some h⟩
  · rintro ⟨hmem, rfl⟩
    have hsome : (L.find? fun y => y.1 = x.1).isSome := by
      rw [List.find?_isSome]
      exact ⟨x, hmem, by simp⟩
    obtain ⟨y, hfind⟩ := Option.isSome_iff_exists.mp hsome
    have hplace : y.1 = x.1 := by simpa using List.find?_some hfind
    rw [hfind, List.inj_on_of_nodup_map hL (List.mem_of_find?_eq_some hfind) hmem hplace]

lemma mem_of_coinAt {L : Ledger ι γ} {o : ι} {c : γ} (h : coinAt L o = some c) : (o, c) ∈ L := by
  obtain ⟨x, hfind, rfl⟩ := Option.map_eq_some_iff.mp h
  have hplace : x.1 = o := by simpa using List.find?_some hfind
  exact hplace ▸ List.mem_of_find?_eq_some hfind

lemma coinAt_eq_some {L : Ledger ι γ} (hL : (places L).Nodup) {o : ι} {c : γ} :
    coinAt L o = some c ↔ (o, c) ∈ L := by
  simp only [coinAt, Option.map_eq_some_iff, find?_place hL]
  constructor
  · rintro ⟨x, ⟨hmem, rfl⟩, rfl⟩
    exact hmem
  · intro hmem
    exact ⟨(o, c), ⟨hmem, rfl⟩, rfl⟩

lemma held_apply (P : γ → Bool) (m : Move τ ι γ) (L : Ledger ι γ) :
    held P (m.apply L) = (held P L).filter (fun x => x.1 ∉ m.spends) ++ held P m.creates := by
  simp only [held, Move.apply, List.filter_append, List.filter_filter, Bool.and_comm]

end Moves

section Rules
variable (maker : ι → τ)

/-- What every ledger asks of a move: it spends coins that are there, each once, and puts its coins
at places of its own. -/
structure Lawful (L : Ledger ι γ) (m : Move τ ι γ) : Prop where
  spends_ne_nil : m.spends ≠ []
  spends_nodup : m.spends.Nodup
  spends_held : ∀ o ∈ m.spends, o ∈ places L
  creates_nodup : (places m.creates).Nodup
  creates_own : ∀ o ∈ places m.creates, maker o = m.name

/-- A name is used for one set of spent places only, and not for a place that was there before. -/
structure NamesBind (L : Ledger ι γ) (ms : List (Move τ ι γ)) : Prop where
  spends_eq : ∀ m ∈ ms, ∀ n ∈ ms, m.name = n.name → m.spends = n.spends
  new : ∀ m ∈ ms, ∀ o ∈ places L, maker o ≠ m.name

def Known (L : Ledger ι γ) (ms : List (Move τ ι γ)) (t : τ) : Prop :=
  (∃ o ∈ places L, maker o = t) ∨ ∃ m ∈ ms, m.name = t

variable {maker} {L : Ledger ι γ} {ms : List (Move τ ι γ)} {m : Move τ ι γ}

lemma NamesBind.mono {ns : List (Move τ ι γ)} (h : NamesBind maker L ms) (hsub : ∀ m ∈ ns, m ∈ ms) :
    NamesBind maker L ns :=
  ⟨fun m hm n hn => h.spends_eq m (hsub m hm) n (hsub n hn), fun m hm => h.new m (hsub m hm)⟩

lemma Known.concat {t : τ} (h : Known maker L ms t) : Known maker L (ms ++ [m]) t := by
  obtain h | ⟨n, hn, hname⟩ := h
  · exact .inl h
  · exact .inr ⟨n, List.mem_append_left _ hn, hname⟩

variable [DecidableEq ι]

variable (maker) in
/-- Places are held once, and those that were spent are empty. -/
structure Settled (L : Ledger ι γ) (ms : List (Move τ ι γ)) : Prop where
  nodup : (places (after L ms)).Nodup
  known : ∀ o ∈ places (after L ms), Known maker L ms (maker o)
  gone : ∀ m ∈ ms, ∀ o ∈ m.spends, o ∉ places (after L ms) ∧ Known maker L ms (maker o)

/-- A second move of one name would have to spend what the first has spent. -/
lemma Settled.name_new (h : Settled maker L ms) (hm : Lawful maker (after L ms) m)
    (hnames : NamesBind maker L (ms ++ [m])) : ¬ Known maker L ms m.name := by
  rintro (⟨o, ho, hname⟩ | ⟨n, hn, hname⟩)
  · exact hnames.new m (by simp) o ho hname
  · have hsame := hnames.spends_eq n (by simp [hn]) m (by simp) hname
    obtain ⟨o, ho⟩ := List.exists_mem_of_ne_nil _ hm.spends_ne_nil
    exact (h.gone n hn o (hsame ▸ ho)).1 (hm.spends_held o ho)

lemma Settled.concat (h : Settled maker L ms) (hm : Lawful maker (after L ms) m)
    (hnames : NamesBind maker L (ms ++ [m])) : Settled maker L (ms ++ [m]) := by
  have hnew := h.name_new hm hnames
  -- A place known before is none of the places that the move creates.
  have hapart : ∀ o, Known maker L ms (maker o) → o ∉ places m.creates := by
    intro o hknown hcreated
    exact hnew (hm.creates_own o hcreated ▸ hknown)
  constructor
  · rw [after_concat, places, Move.apply, List.map_append, List.nodup_append']
    refine ⟨h.nodup.sublist (List.filter_sublist.map _), hm.creates_nodup, ?_⟩
    intro o hold hcreated
    obtain ⟨x, hx, rfl⟩ := List.mem_map.mp hold
    exact hapart _ (h.known _ (List.mem_map_of_mem (List.mem_filter.mp hx).1)) hcreated
  · intro o ho
    rw [after_concat, mem_places_apply] at ho
    obtain ⟨hold, -⟩ | hcreated := ho
    · exact (h.known o hold).concat
    · exact .inr ⟨m, by simp, (hm.creates_own o hcreated).symm⟩
  · intro n hn o ho
    rw [after_concat, mem_places_apply, not_or, not_and, not_not]
    obtain hn | hn := List.mem_append.mp hn
    · obtain ⟨hgone, hknown⟩ := h.gone n hn o ho
      exact ⟨⟨fun hheld => absurd hheld hgone, hapart o hknown⟩, hknown.concat⟩
    · obtain rfl := List.mem_singleton.mp hn
      have hknown := h.known o (hm.spends_held o ho)
      exact ⟨⟨fun _ => ho, hapart o hknown⟩, hknown.concat⟩

/-- Along a run of lawful moves with binding names no place is held twice, and a place that was
spent is never held again. -/
theorem run_settled (hL : (places L).Nodup) (hnames : NamesBind maker L ms)
    (hrun : EveryStep (fun done m => Lawful maker (after L done) m) ms) : Settled maker L ms := by
  induction ms using List.reverseRecOn with
  | nil => exact ⟨hL, fun o ho => .inl ⟨o, ho, rfl⟩, by simp⟩
  | append_singleton ms m ih =>
    obtain ⟨hbefore, hm⟩ := everyStep_concat hrun
    exact (ih (hnames.mono fun n hn => by simp [hn]) hbefore).concat hm hnames

theorem run_spends_apart (hL : (places L).Nodup) (hnames : NamesBind maker L ms)
    (hrun : EveryStep (fun done m => Lawful maker (after L done) m) ms) :
    ms.Pairwise fun m n => m.spends.Disjoint n.spends := by
  induction ms using List.reverseRecOn with
  | nil => exact .nil
  | append_singleton ms m ih =>
    obtain ⟨hbefore, hm⟩ := everyStep_concat hrun
    have hold : NamesBind maker L ms := hnames.mono fun n hn => by simp [hn]
    refine List.pairwise_append.mpr ⟨ih hold hbefore, List.pairwise_singleton _ _, ?_⟩
    intro n hn n' hn' o ho ho'
    obtain rfl := List.mem_singleton.mp hn'
    exact ((run_settled hL hold hbefore).gone n hn o ho).1 (hm.spends_held o ho')

end Rules

section Counting
variable [DecidableEq ι] {maker : ι → τ} {L : Ledger ι γ} {m : Move τ ι γ}

/-- The coins that a lawful move spends, read off the places it names, are those it takes away. -/
lemma Lawful.spent_perm (hm : Lawful maker L m) (hL : (places L).Nodup) :
    (m.spends.filterMap (coinAt L)).Perm ((L.filter fun x => x.1 ∈ m.spends).map Prod.snd) := by
  have hfound : m.spends.filterMap (coinAt L) =
      (m.spends.filterMap fun o => L.find? fun x => x.1 = o).map Prod.snd := by
    rw [List.map_filterMap]
    rfl
  rw [hfound]
  refine List.Perm.map _ ((List.perm_ext_iff_of_nodup ?_ ?_).mpr fun x => ?_)
  · refine hm.spends_nodup.filterMap fun o o' x hx hx' => ?_
    exact ((find?_place hL).mp hx).2.symm.trans ((find?_place hL).mp hx').2
  · exact (List.Nodup.of_map _ hL).filter _
  · simp only [List.mem_filterMap, List.mem_filter, decide_eq_true_eq, find?_place hL]
    constructor
    · rintro ⟨o, ho, hmem, rfl⟩
      exact ⟨hmem, ho⟩
    · rintro ⟨hmem, hspent⟩
      exact ⟨x.1, hspent, hmem, rfl⟩

/-- The coins of one kind: those before, less those spent, and those created. -/
theorem Lawful.length_held_apply (P : γ → Bool) (hm : Lawful maker L m) (hL : (places L).Nodup) :
    (held P (m.apply L)).length + (m.spends.filterMap (coinAt L)).countP P =
      (held P L).length + (held P m.creates).length := by
  have hspent : (m.spends.filterMap (coinAt L)).countP P =
      ((held P L).filter fun x => x.1 ∈ m.spends).length := by
    rw [(hm.spent_perm hL).countP_eq, List.countP_map, List.countP_eq_length_filter, held]
    simp only [List.filter_filter, Function.comp_def, Bool.and_comm]
  have hsplit := List.length_eq_length_filter_add (l := held P L) fun x => x.1 ∈ m.spends
  rw [held_apply, List.length_append, hspent, hsplit]
  simp only [decide_not]
  omega

end Counting
end RgkProtocol.UtxoLedger
