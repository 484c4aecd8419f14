import RgkProtocol.Checked

/-!
# Replays that skip what is known

A replay applies a list of items to a state, skips the items the state already knows and stops at
the first one that fails. Where applying an item makes it known and forgets nothing, a replay that
stopped early is resumed by replaying the same list again, and a replay that came to its end is
changed by no further one.
-/
namespace RgkProtocol.SkippingReplay
open Checked
variable {σ ι ε : Type} (known : σ → ι → Prop) [DecidableRel known] (apply : σ → ι → Except ε σ)

def replay : σ → List ι → Except ε σ
  | s, [] => .ok s
  | s, i :: is => do
      let next ← if known s i then .ok s else apply s i
      replay next is

/-- Applying an item makes it known, and what was known stays known. -/
structure Remembers : Prop where
  entered : ∀ s i s', apply s i = .ok s' → known s' i
  kept : ∀ s i s' j, apply s i = .ok s' → known s j → known s' j

/-- The states in which a replay of the list can have stopped. -/
def Reached (s : σ) (is : List ι) (s' : σ) : Prop :=
  ∃ done, done <+: is ∧ replay known apply s done = .ok s'

variable {known apply} {s s' s'' : σ} {is js : List ι}

lemma replay_cons_known {i : ι} (h : known s i) :
    replay known apply s (i :: is) = replay known apply s is := by
  rw [replay, if_pos h]
  rfl

lemma replay_cons_fresh {i : ι} (h : ¬known s i) (happly : apply s i = .ok s') :
    replay known apply s (i :: is) = replay known apply s' is := by
  rw [replay, if_neg h, happly]
  rfl

lemma replay_cons_eq_ok {i : ι} (h : replay known apply s (i :: is) = .ok s'') :
    (known s i ∧ replay known apply s is = .ok s'') ∨
      ∃ s', ¬known s i ∧ apply s i = .ok s' ∧ replay known apply s' is = .ok s'' := by
  by_cases hk : known s i
  · rw [replay_cons_known hk] at h
    exact Or.inl ⟨hk, h⟩
  · rw [replay, if_neg hk] at h
    obtain ⟨s', hs', hrest⟩ := bind_eq_ok.mp h
    exact Or.inr ⟨s', hk, hs', hrest⟩

lemma replay_append (h : replay known apply s is = .ok s') :
    replay known apply s (is ++ js) = replay known apply s' js := by
  induction is generalizing s with
  | nil =>
    obtain rfl := Except.ok.inj h
    rfl
  | cons i is ih =>
    rw [List.cons_append]
    rcases replay_cons_eq_ok h with ⟨hk, hrest⟩ | ⟨t, hk, ht, hrest⟩
    · rw [replay_cons_known hk, ih hrest]
    · rw [replay_cons_fresh hk ht, ih hrest]

lemma replay_of_known (h : ∀ i ∈ is, known s i) : replay known apply s is = .ok s := by
  induction is with
  | nil => rfl
  | cons i is ih =>
    obtain ⟨hi, his⟩ := List.forall_mem_cons.mp h
    rw [replay_cons_known hi, ih his]

lemma Remembers.known_of_replay (hr : Remembers known apply)
    (h : replay known apply s is = .ok s') :
    (∀ i ∈ is, known s' i) ∧ ∀ j, known s j → known s' j := by
  induction is generalizing s with
  | nil =>
    obtain rfl := Except.ok.inj h
    exact ⟨fun i hi => absurd hi List.not_mem_nil, fun _ hj => hj⟩
  | cons i is ih =>
    rcases replay_cons_eq_ok h with ⟨hk, hrest⟩ | ⟨t, -, ht, hrest⟩
    · obtain ⟨hitems, hkept⟩ := ih hrest
      exact ⟨List.forall_mem_cons.mpr ⟨hkept i hk, hitems⟩, hkept⟩
    · obtain ⟨hitems, hkept⟩ := ih hrest
      refine ⟨List.forall_mem_cons.mpr ⟨hkept i (hr.entered s i t ht), hitems⟩, ?_⟩
      intro j hj
      exact hkept j (hr.kept s i t j ht hj)

/-- A replay that stopped early is resumed by the whole list. -/
theorem Remembers.replay_resume (hr : Remembers known apply) (h : Reached known apply s is s') :
    replay known apply s' is = replay known apply s is := by
  obtain ⟨done, ⟨rest, rfl⟩, hdone⟩ := h
  have hknown : replay known apply s' done = .ok s' :=
    replay_of_known (hr.known_of_replay hdone).1
  rw [replay_append hdone, replay_append hknown]

/-- What is reached from a reached state is reached from the start. -/
theorem Remembers.reached_trans (hr : Remembers known apply) (h : Reached known apply s is s')
    (h' : Reached known apply s' is s'') : Reached known apply s is s'' := by
  obtain ⟨done, hbegins, hdone⟩ := h
  obtain ⟨more, hmore, hreplay⟩ := h'
  rcases List.prefix_or_prefix_of_prefix hmore hbegins with hle | hle
  · -- nothing new was tried
    have hknown := (hr.known_of_replay hdone).1
    rw [replay_of_known (fun i hi => hknown i (hle.subset hi))] at hreplay
    exact ⟨done, hbegins, hdone.trans hreplay⟩
  · have hresume := hr.replay_resume ⟨done, hle, hdone⟩
    exact ⟨more, hmore, hresume.symm.trans hreplay⟩

theorem Remembers.eq_of_reached (hr : Remembers known apply)
    (h : replay known apply s is = .ok s') (h' : Reached known apply s' is s'') : s'' = s' := by
  obtain ⟨done, hbegins, hdone⟩ := h'
  have hknown := (hr.known_of_replay h).1
  rw [replay_of_known (fun i hi => hknown i (hbegins.subset hi))] at hdone
  exact (Except.ok.inj hdone).symm

end RgkProtocol.SkippingReplay
