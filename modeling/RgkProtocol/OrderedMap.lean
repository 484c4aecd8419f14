import Mathlib.Data.List.Basic
import Mathlib.Order.Lattice

/-!
# Ordered maps

A finite map as a list of entries in strictly increasing key order. The order is a field, so
two maps with the same lookups are equal and iteration visits the keys in order.
-/
namespace RgkProtocol.OrderedMap

section Entries
variable {κ V : Type*} [LinearOrder κ]

def lookup (k : κ) : List (κ × V) → Option V
  | [] => none
  | (j, v) :: l => if j = k then some v else lookup k l

/-- Insert an entry at its place, over an entry with the same key. -/
def insertEntry (k : κ) (v : V) : List (κ × V) → List (κ × V)
  | [] => [(k, v)]
  | (j, u) :: l =>
      if k < j then (k, v) :: (j, u) :: l
      else if j = k then (k, v) :: l
      else (j, u) :: insertEntry k v l

def eraseEntry (k : κ) (l : List (κ × V)) : List (κ × V) := l.filter (fun e => e.1 ≠ k)

/-- The keys strictly increase. -/
def KeysIncrease (l : List (κ × V)) : Prop := l.Pairwise (fun x y => x.1 < y.1)

lemma mem_insertEntry {k : κ} {v : V} {l : List (κ × V)} {e : κ × V}
    (h : e ∈ insertEntry k v l) : e = (k, v) ∨ e ∈ l := by
  induction l with
  | nil => simpa [insertEntry] using h
  | cons x l ih =>
    simp only [insertEntry] at h
    split_ifs at h with h1 h2
    · simpa using h
    · rcases List.mem_cons.mp h with h | h
      · exact Or.inl h
      · exact Or.inr (List.mem_cons_of_mem _ h)
    · rcases List.mem_cons.mp h with h | h
      · exact Or.inr (h ▸ List.mem_cons_self)
      · rcases ih h with h | h
        · exact Or.inl h
        · exact Or.inr (List.mem_cons_of_mem _ h)

lemma keysIncrease_insertEntry (k : κ) (v : V) {l : List (κ × V)} (h : KeysIncrease l) :
    KeysIncrease (insertEntry k v l) := by
  induction l with
  | nil => exact List.pairwise_singleton _ _
  | cons x l ih =>
    obtain ⟨hx, hl⟩ := List.pairwise_cons.mp h
    simp only [insertEntry]
    split_ifs with h1 h2
    · refine List.pairwise_cons.mpr ⟨fun y hy => ?_, h⟩
      rcases List.mem_cons.mp hy with rfl | hy
      · exact h1
      · exact lt_trans h1 (hx y hy)
    · exact List.pairwise_cons.mpr ⟨fun y hy => h2 ▸ hx y hy, hl⟩
    · refine List.pairwise_cons.mpr ⟨fun y hy => ?_, ih hl⟩
      rcases mem_insertEntry hy with rfl | hy
      · exact lt_of_le_of_ne (not_lt.mp h1) h2
      · exact hx y hy

lemma lookup_insertEntry (k j : κ) (v : V) (l : List (κ × V)) :
    lookup j (insertEntry k v l) = if k = j then some v else lookup j l := by
  induction l with
  | nil => simp [insertEntry, lookup]
  | cons x l ih =>
    simp only [insertEntry]
    split_ifs with h1 h2 h3 h4
    all_goals simp only [lookup, *]
    all_goals split_ifs <;> simp_all

lemma lookup_eq_some_iff {l : List (κ × V)} (h : KeysIncrease l) {k : κ} {v : V} :
    lookup k l = some v ↔ (k, v) ∈ l := by
  induction l with
  | nil => simp [lookup]
  | cons x l ih =>
    obtain ⟨hx, hl⟩ := List.pairwise_cons.mp h
    simp only [lookup, List.mem_cons]
    by_cases hk : x.1 = k
    · rw [if_pos hk, Option.some.injEq]
      constructor
      · rintro rfl
        exact Or.inl (Prod.ext hk.symm rfl)
      · rintro (he | hm)
        · rw [← he]
        · exact absurd hk (ne_of_lt (hx _ hm))
    · rw [if_neg hk, ih hl]
      constructor
      · exact Or.inr
      · rintro (he | hm)
        · exact absurd (congrArg Prod.fst he).symm hk
        · exact hm

lemma eq_of_lookup_eq {l m : List (κ × V)} (hl : KeysIncrease l) (hm : KeysIncrease m)
    (h : ∀ k, lookup k l = lookup k m) : l = m := by
  have hirr : ∀ a b : κ × V, a.1 < b.1 → ¬b.1 < a.1 := fun a b hab => not_lt_of_gt hab
  refine List.Perm.eq_of_pairwise (fun a b _ _ hab hba => absurd hba (hirr a b hab)) hl hm ?_
  refine (List.perm_ext_iff_of_nodup ?_ ?_).mpr ?_
  · exact hl.imp (fun hab he => absurd hab (by simp [he]))
  · exact hm.imp (fun hab he => absurd hab (by simp [he]))
  · rintro ⟨k, v⟩
    rw [← lookup_eq_some_iff hl, ← lookup_eq_some_iff hm, h k]

end Entries

end RgkProtocol.OrderedMap

/-- A finite map whose entries stand in key order. -/
structure RgkProtocol.OrderedMap (κ V : Type*) [LinearOrder κ] where
  entries : List (κ × V)
  sorted : OrderedMap.KeysIncrease entries

namespace RgkProtocol.OrderedMap
variable {κ V : Type*} [LinearOrder κ]

def empty : OrderedMap κ V := ⟨[], List.Pairwise.nil⟩

def get? (m : OrderedMap κ V) (k : κ) : Option V := lookup k m.entries

def insert (m : OrderedMap κ V) (k : κ) (v : V) : OrderedMap κ V :=
  ⟨insertEntry k v m.entries, keysIncrease_insertEntry k v m.sorted⟩

def erase (m : OrderedMap κ V) (k : κ) : OrderedMap κ V :=
  ⟨eraseEntry k m.entries, m.sorted.filter _⟩

def keys (m : OrderedMap κ V) : List κ := m.entries.map Prod.fst

@[ext] theorem ext {m n : OrderedMap κ V} (h : ∀ k, m.get? k = n.get? k) : m = n := by
  obtain ⟨l, hl⟩ := m
  obtain ⟨l', hl'⟩ := n
  obtain rfl : l = l' := eq_of_lookup_eq hl hl' h
  rfl

@[simp] lemma get?_empty (k : κ) : (empty : OrderedMap κ V).get? k = none := rfl

lemma get?_insert (m : OrderedMap κ V) (k j : κ) (v : V) :
    (m.insert k v).get? j = if k = j then some v else m.get? j :=
  lookup_insertEntry k j v m.entries

@[simp] lemma get?_insert_self (m : OrderedMap κ V) (k : κ) (v : V) :
    (m.insert k v).get? k = some v := by
  rw [get?_insert, if_pos rfl]

lemma get?_erase (m : OrderedMap κ V) (k j : κ) :
    (m.erase k).get? j = if k = j then none else m.get? j := by
  refine Option.ext (fun v => ?_)
  have hmem : (m.erase k).get? j = some v ↔ (j, v) ∈ m.entries ∧ j ≠ k := by
    rw [get?, lookup_eq_some_iff (m.erase k).sorted]
    simp [erase, eraseEntry]
  rw [hmem, ← lookup_eq_some_iff m.sorted]
  split_ifs with h
  · simp [h]
  · simp [Ne.symm h, get?]

lemma mem_keys {m : OrderedMap κ V} {k : κ} : k ∈ m.keys ↔ (m.get? k).isSome := by
  simp only [keys, List.mem_map, Prod.exists, exists_and_right, exists_eq_right,
    Option.isSome_iff_exists, get?, lookup_eq_some_iff m.sorted]

lemma keys_sorted (m : OrderedMap κ V) : m.keys.Pairwise (· < ·) := List.pairwise_map.mpr m.sorted

@[simp] lemma insert_insert (m : OrderedMap κ V) (k : κ) (v w : V) :
    (m.insert k v).insert k w = m.insert k w := by
  ext j
  simp only [get?_insert]
  split_ifs <;> rfl

lemma insert_of_get? {m : OrderedMap κ V} {k : κ} {v : V} (h : m.get? k = some v) :
    m.insert k v = m := by
  ext j
  rw [get?_insert]
  split_ifs with hj
  · rw [← hj, h]
  · rfl

end RgkProtocol.OrderedMap
