import RgkProtocol.OrderedMap
import Mathlib.Order.Bounds.Basic

/-!
# Rows with a tag index

A table keeps rows under ordered keys and, beside them, an index from the tag of a row to its key.
Writing a row drops the tag of the row it replaces and enters its own. Reading by tag goes through
the index, a scan takes the first row that carries the tag. The index finds what the scan finds as
long as no write takes a tag from a smaller key or drops one that another row still carries.
-/
namespace RgkProtocol.TaggedRows
variable {κ V τ : Type*} [LinearOrder κ] [LinearOrder τ]

structure Table (κ V τ : Type*) [LinearOrder κ] [LinearOrder τ] where
  rows : OrderedMap κ V
  byTag : OrderedMap τ κ

section Operations
variable (tag : V → Option τ)

def dropTag (m : Table κ V τ) (k : κ) : OrderedMap τ κ :=
  match (m.rows.get? k).bind tag with
  | some t => m.byTag.erase t
  | none => m.byTag

def put (m : Table κ V τ) (k : κ) (v : V) : Table κ V τ where
  rows := m.rows.insert k v
  byTag :=
    match tag v with
    | some t => (dropTag tag m k).insert t k
    | none => dropTag tag m k

def find (m : Table κ V τ) (t : τ) : Option V := (m.byTag.get? t).bind m.rows.get?

/-- The first row with the tag. -/
def scan (rows : OrderedMap κ V) (t : τ) : Option V :=
  (rows.entries.find? (fun e => tag e.2 = some t)).map Prod.snd

/-- The keys whose rows carry a tag. -/
def carriers (rows : OrderedMap κ V) (t : τ) : Set κ :=
  {k | ∃ v, rows.get? k = some v ∧ tag v = some t}

end Operations

section Scans
variable {tag : V → Option τ} {rows : OrderedMap κ V} {t : τ}

lemma scan_eq_none_iff : scan tag rows t = none ↔ carriers tag rows t = ∅ := by
  rw [scan, Option.map_eq_none_iff, List.find?_eq_none, Set.eq_empty_iff_forall_notMem]
  constructor
  · rintro h k ⟨v, hv, ht⟩
    exact h (k, v) ((OrderedMap.lookup_eq_some_iff rows.sorted).mp hv) (decide_eq_true ht)
  · rintro h ⟨k, v⟩ hmem ht
    exact h k ⟨v, (OrderedMap.lookup_eq_some_iff rows.sorted).mpr hmem, of_decide_eq_true ht⟩

/-- A scan answers with the row of the least key that carries the tag. -/
lemma scan_spec {v : V} (h : scan tag rows t = some v) :
    ∃ k, IsLeast (carriers tag rows t) k ∧ rows.get? k = some v := by
  obtain ⟨⟨k, w⟩, hfind, rfl⟩ := Option.map_eq_some_iff.mp h
  obtain ⟨ht, before, after, hsplit, hbefore⟩ := List.find?_eq_some_iff_append.mp hfind
  have hsorted := rows.sorted
  have hrow : ∀ j u, rows.get? j = some u ↔ (j, u) ∈ before ++ (k, w) :: after := by
    intro j u
    rw [← hsplit]
    exact OrderedMap.lookup_eq_some_iff rows.sorted
  rw [hsplit] at hsorted
  have hmem : rows.get? k = some w := (hrow k w).mpr (by simp)
  refine ⟨k, ⟨⟨w, hmem, of_decide_eq_true ht⟩, ?_⟩, hmem⟩
  rintro j ⟨u, hu, htu⟩
  -- a carrier is not before the row found, so it is that row or behind it
  rcases List.mem_append.mp ((hrow j u).mp hu) with hj | hj
  · have hnot := hbefore _ hj
    simp [htu] at hnot
  · rcases List.mem_cons.mp hj with heq | hj
    · exact (congrArg Prod.fst heq).symm.le
    · have hafter := (List.pairwise_append.mp hsorted).2.1
      exact ((List.pairwise_cons.mp hafter).1 _ hj).le

lemma scan_eq_of_isLeast {k : κ} (h : IsLeast (carriers tag rows t) k) :
    scan tag rows t = rows.get? k := by
  obtain ⟨v, hv⟩ : ∃ v, scan tag rows t = some v := by
    cases hs : scan tag rows t with
    | none => exact absurd h.1 (by rw [scan_eq_none_iff.mp hs]; exact Set.notMem_empty k)
    | some v => exact ⟨v, rfl⟩
  obtain ⟨j, hj, hrow⟩ := scan_spec hv
  rw [hv, h.unique hj, hrow]

lemma exists_isLeast_carriers (h : (carriers tag rows t).Nonempty) :
    ∃ k, IsLeast (carriers tag rows t) k := by
  cases hs : scan tag rows t with
  | none => exact absurd (scan_eq_none_iff.mp hs) h.ne_empty
  | some v =>
    obtain ⟨k, hk, -⟩ := scan_spec hs
    exact ⟨k, hk⟩

end Scans

section Index
variable (tag : V → Option τ)

/-- The index leads to rows that carry the tag. -/
def Sound (m : Table κ V τ) : Prop := ∀ t k, m.byTag.get? t = some k → k ∈ carriers tag m.rows t

/-- The index leads to the first row that carries the tag, if there is one. -/
def IndexesAt (m : Table κ V τ) (t : τ) : Prop :=
  ∀ k, m.byTag.get? t = some k ↔ IsLeast (carriers tag m.rows t) k

variable {tag} {m : Table κ V τ} {t : τ} {k : κ} {v : V}

lemma mem_carriers_put {j : κ} :
    j ∈ carriers tag (put tag m k v).rows t ↔
      (j = k ∧ tag v = some t) ∨ (j ≠ k ∧ j ∈ carriers tag m.rows t) := by
  simp only [carriers, put, Set.mem_ofPred_eq, OrderedMap.get?_insert]
  by_cases h : k = j
  · simp [h]
  · simp [h, Ne.symm h]

lemma byTag_put :
    (put tag m k v).byTag.get? t =
      if tag v = some t then some k
      else if (m.rows.get? k).bind tag = some t then none else m.byTag.get? t := by
  have hdrop : (dropTag tag m k).get? t =
      if (m.rows.get? k).bind tag = some t then none else m.byTag.get? t := by
    unfold dropTag
    cases (m.rows.get? k).bind tag with
    | none => simp
    | some u => simp [OrderedMap.get?_erase]
  simp only [put]
  cases tag v with
  | none => simp [hdrop]
  | some u => simp [OrderedMap.get?_insert, hdrop]

lemma mem_carriers_self : k ∈ carriers tag m.rows t ↔ (m.rows.get? k).bind tag = some t := by
  rw [Option.bind_eq_some_iff]
  rfl

lemma Sound.put (h : Sound tag m) : Sound tag (TaggedRows.put tag m k v) := by
  intro t j hj
  rw [byTag_put] at hj
  rw [mem_carriers_put]
  split_ifs at hj with hnew hold
  · exact Or.inl ⟨(Option.some.inj hj).symm, hnew⟩
  · refine Or.inr ⟨?_, h t j hj⟩
    rintro rfl
    exact hold (mem_carriers_self.mp (h t j hj))

lemma indexesAt_put_entered (hnew : tag v = some t) :
    IndexesAt tag (put tag m k v) t ↔ ∀ j ∈ carriers tag m.rows t, k ≤ j := by
  have hkey : (put tag m k v).byTag.get? t = some k := by rw [byTag_put, if_pos hnew]
  constructor
  · intro hall j hj
    have hleast := (hall k).mp hkey
    rcases eq_or_ne j k with rfl | hne
    · exact le_rfl
    · exact hleast.2 (mem_carriers_put.mpr (Or.inr ⟨hne, hj⟩))
  · intro hk
    have hleast : IsLeast (carriers tag (put tag m k v).rows t) k := by
      refine ⟨mem_carriers_put.mpr (Or.inl ⟨rfl, hnew⟩), fun j hj => ?_⟩
      rcases mem_carriers_put.mp hj with ⟨rfl, -⟩ | ⟨-, hj⟩
      · exact le_rfl
      · exact hk j hj
    intro j
    rw [hkey, Option.some.injEq]
    constructor
    · rintro rfl
      exact hleast
    · exact hleast.unique

lemma indexesAt_put_dropped (hnew : tag v ≠ some t) (hold : (m.rows.get? k).bind tag = some t) :
    IndexesAt tag (put tag m k v) t ↔ ∀ j ∈ carriers tag m.rows t, j = k := by
  have hkey : (put tag m k v).byTag.get? t = none := by rw [byTag_put, if_neg hnew, if_pos hold]
  constructor
  · intro hall j hj
    by_contra hne
    obtain ⟨l, hl⟩ := exists_isLeast_carriers ⟨j, mem_carriers_put.mpr (Or.inr ⟨hne, hj⟩)⟩
    have hfound := (hall l).mpr hl
    rw [hkey] at hfound
    cases hfound
  · intro honly l
    rw [hkey]
    refine iff_of_false nofun (fun hl => ?_)
    rcases mem_carriers_put.mp hl.1 with ⟨-, ht⟩ | ⟨hne, hmem⟩
    · exact hnew ht
    · exact hne (honly l hmem)

lemma indexesAt_put_other (hnew : tag v ≠ some t) (hold : (m.rows.get? k).bind tag ≠ some t) :
    IndexesAt tag (put tag m k v) t ↔ IndexesAt tag m t := by
  have hsame : carriers tag (put tag m k v).rows t = carriers tag m.rows t := by
    ext j
    rw [mem_carriers_put]
    constructor
    · rintro (⟨-, ht⟩ | ⟨-, hj⟩)
      · exact absurd ht hnew
      · exact hj
    · intro hj
      refine Or.inr ⟨?_, hj⟩
      rintro rfl
      exact hold (mem_carriers_self.mp hj)
  rw [IndexesAt, byTag_put, if_neg hnew, if_neg hold, hsame, IndexesAt]

/-- No smaller key carries the tag that the write enters, and no other key the one it drops. -/
def CleanPut (tag : V → Option τ) (rows : OrderedMap κ V) (k : κ) (v : V) : Prop :=
  (∀ t, tag v = some t → ∀ j ∈ carriers tag rows t, k ≤ j) ∧
    ∀ t, (rows.get? k).bind tag = some t → tag v ≠ some t → ∀ j ∈ carriers tag rows t, j = k

omit [LinearOrder τ] in
/-- Whether a write is clean can be read off the rows. -/
lemma cleanPut_iff {rows : OrderedMap κ V} :
    CleanPut tag rows k v ↔ ∀ e ∈ rows.entries, (tag e.2).isSome →
      (tag v = tag e.2 → k ≤ e.1) ∧
        ((rows.get? k).bind tag = tag e.2 → tag v ≠ tag e.2 → e.1 = k) := by
  have hrow : ∀ e : κ × V, e ∈ rows.entries ↔ rows.get? e.1 = some e.2 := fun e =>
    (OrderedMap.lookup_eq_some_iff rows.sorted).symm
  constructor
  · rintro ⟨hentered, hdropped⟩ e he hsome
    obtain ⟨t, ht⟩ := Option.isSome_iff_exists.mp hsome
    have hmem : e.1 ∈ carriers tag rows t := ⟨e.2, (hrow e).mp he, ht⟩
    rw [ht]
    exact ⟨fun hnew => hentered t hnew _ hmem, fun hold hnew => hdropped t hold hnew _ hmem⟩
  · intro hall
    refine ⟨?_, ?_⟩
    · rintro t hnew j ⟨u, hu, ht⟩
      have he := hall (j, u) ((hrow (j, u)).mpr hu) (by rw [ht]; rfl)
      exact he.1 (hnew.trans ht.symm)
    · rintro t hold hnew j ⟨u, hu, ht⟩
      have he := hall (j, u) ((hrow (j, u)).mpr hu) (by rw [ht]; rfl)
      exact he.2 (hold.trans ht.symm) (fun heq => hnew (heq.trans ht))

instance (rows : OrderedMap κ V) (k : κ) (v : V) : Decidable (CleanPut tag rows k v) :=
  decidable_of_iff _ cleanPut_iff.symm

/-- A write keeps the index right exactly when it is clean. -/
theorem indexes_put_iff (h : ∀ t, IndexesAt tag m t) :
    (∀ t, IndexesAt tag (put tag m k v) t) ↔ CleanPut tag m.rows k v := by
  constructor
  · intro hall
    exact ⟨fun t hnew => (indexesAt_put_entered hnew).mp (hall t),
      fun t hold hnew => (indexesAt_put_dropped hnew hold).mp (hall t)⟩
  · rintro ⟨hentered, hdropped⟩ t
    by_cases hnew : tag v = some t
    · exact (indexesAt_put_entered hnew).mpr (hentered t hnew)
    · by_cases hold : (m.rows.get? k).bind tag = some t
      · exact (indexesAt_put_dropped hnew hold).mpr (hdropped t hold hnew)
      · exact (indexesAt_put_other hnew hold).mpr (h t)

lemma IndexesAt.find_eq_scan (h : IndexesAt tag m t) : find m t = scan tag m.rows t := by
  unfold find
  cases hk : m.byTag.get? t with
  | some k => exact (scan_eq_of_isLeast ((h k).mp hk)).symm
  | none =>
    rw [Option.bind_none, eq_comm, scan_eq_none_iff]
    by_contra hne
    obtain ⟨k, hleast⟩ := exists_isLeast_carriers (Set.nonempty_iff_ne_empty.mpr hne)
    rw [(h k).mpr hleast] at hk
    cases hk

/-- Where rows name their keys, an index that finds what the scan finds is right. -/
lemma indexesAt_of_find_eq_scan (hsound : Sound tag m)
    (hkeyed : ∀ j k v, m.rows.get? j = some v → m.rows.get? k = some v → j = k)
    (h : find m t = scan tag m.rows t) : IndexesAt tag m t := by
  have hleast : ∀ k, m.byTag.get? t = some k → IsLeast (carriers tag m.rows t) k := by
    intro k hk
    obtain ⟨v, hv, -⟩ := hsound t k hk
    rw [find, hk, Option.bind_some, hv] at h
    obtain ⟨j, hj, hrow⟩ := scan_spec h.symm
    rwa [hkeyed k j v hv hrow]
  intro k
  refine ⟨hleast k, fun hk => ?_⟩
  cases hj : m.byTag.get? t with
  | some j => rw [(hleast j hj).unique hk]
  | none =>
    rw [find, hj, Option.bind_none, eq_comm, scan_eq_none_iff] at h
    exact absurd hk.1 (by rw [h]; exact Set.notMem_empty k)

end Index
end RgkProtocol.TaggedRows
