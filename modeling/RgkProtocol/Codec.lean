import RgkProtocol.Checked

/-!
# Readers and exact codecs

A reader takes a value off the front of a byte string and leaves the rest. It is exact for an
encoder when it accepts the encodings of the valid values and nothing else, with any bytes
behind them; exactness goes through field by field. Where only the way from a value to its
bytes and back matters, `Reads` is enough.
-/
namespace RgkProtocol.Codec
open ByteStrings Checked

abbrev Reader (ε : Type) := StateT (List UInt8) (Except ε)

section Rules
variable {ε ε' α β : Type}

/-- The reader accepts exactly the encodings of the valid values. -/
def Exact (r : Reader ε α) (enc : α → List UInt8) (Valid : α → Prop) : Prop :=
  ∀ bs a rest, r bs = .ok (a, rest) ↔ Valid a ∧ bs = enc a ++ rest

/-- The reader takes the bytes `x` for the value `a`, whatever follows. -/
def Reads (r : Reader ε α) (x : List UInt8) (a : α) : Prop :=
  ∀ rest, r (x ++ rest) = .ok (a, rest)

lemma Exact.reads {r : Reader ε α} {enc : α → List UInt8} {Valid : α → Prop}
    (h : Exact r enc Valid) {a : α} (ha : Valid a) : Reads r (enc a) a :=
  fun rest => (h _ a rest).mpr ⟨ha, rfl⟩

lemma reader_bind_eq_ok {r : Reader ε α} {k : α → Reader ε β} {bs : List UInt8}
    {p : β × List UInt8} :
    (r >>= k) bs = .ok p ↔ ∃ a mid, r bs = .ok (a, mid) ∧ k a mid = .ok p := by
  cases h : r bs with
  | error e => simp [bind, StateT.bind, Except.bind, h]
  | ok q =>
    obtain ⟨a, mid⟩ := q
    simp [bind, StateT.bind, Except.bind, h]

lemma Exact.bind_eq_ok {r : Reader ε α} {enc : α → List UInt8} {Valid : α → Prop}
    (h : Exact r enc Valid) {k : α → Reader ε β} {bs : List UInt8} {p : β × List UInt8} :
    (r >>= k) bs = .ok p ↔ ∃ a mid, (Valid a ∧ bs = enc a ++ mid) ∧ k a mid = .ok p := by
  simp only [reader_bind_eq_ok, h bs]

lemma reader_pure_eq_ok {a b : α} {bs rest : List UInt8} :
    (pure a : Reader ε α) bs = .ok (b, rest) ↔ a = b ∧ bs = rest := by
  have hpure : (pure a : Reader ε α) bs = .ok (a, bs) := rfl
  rw [hpure, Except.ok.injEq, Prod.mk.injEq]

lemma Reads.pure (a : α) : Reads (Pure.pure a : Reader ε α) [] a := fun _ => rfl

/-- Readers in sequence read what stands in sequence. -/
lemma Reads.bind {r : Reader ε α} {k : α → Reader ε β} {x y : List UInt8} {a : α} {b : β}
    (hr : Reads r x a) (hk : Reads (k a) y b) : Reads (r >>= k) (x ++ y) b := by
  intro rest
  rw [List.append_assoc]
  exact reader_bind_eq_ok.mpr ⟨a, y ++ rest, hr _, hk rest⟩

lemma Reads.bind_nil {r : Reader ε α} {k : α → Reader ε β} {x : List UInt8} {a : α} {b : β}
    (hr : Reads r x a) (hk : Reads (k a) [] b) : Reads (r >>= k) x b := by
  simpa using hr.bind hk

lemma Exact.reads_map {r : Reader ε α} {enc : α → List UInt8} {Valid : α → Prop}
    (h : Exact r enc Valid) (f : α → β) {a : α} (ha : Valid a) :
    Reads (do
      let x ← r
      Pure.pure (f x)) (enc a) (f a) :=
  (h.reads ha).bind_nil (.pure (f a))

lemma Exact.map_eq_ok {r : Reader ε α} {enc : α → List UInt8} {Valid : α → Prop}
    (h : Exact r enc Valid) {f : α → β} {bs rest : List UInt8} {b : β} :
    (do let x ← r
        pure (f x)) bs = .ok (b, rest) ↔ ∃ a, Valid a ∧ f a = b ∧ bs = enc a ++ rest := by
  simp only [h.bind_eq_ok, reader_pure_eq_ok]
  constructor
  · rintro ⟨a, _, ⟨ha, rfl⟩, hb, rfl⟩
    exact ⟨a, ha, hb, rfl⟩
  · rintro ⟨a, ha, hb, rfl⟩
    exact ⟨a, rest, ⟨ha, rfl⟩, hb, rfl⟩

/-- A check on what has been read. -/
def check (x : Except ε α) : Reader ε α := fun bs => x.map (fun a => (a, bs))

lemma check_eq_ok {x : Except ε α} {bs rest : List UInt8} {a : α} :
    check x bs = .ok (a, rest) ↔ x = .ok a ∧ bs = rest := by
  cases x <;> simp [check, Except.map]

lemma check_bind_eq_ok {x : Except ε α} {k : α → Reader ε β} {bs : List UInt8}
    {p : β × List UInt8} : (check x >>= k) bs = .ok p ↔ ∃ a, x = .ok a ∧ k a bs = .ok p := by
  cases x <;> simp [check, Except.map, bind, StateT.bind, Except.bind]

lemma Reads.check {x : Except ε α} {a : α} (h : x = .ok a) : Reads (check x) [] a := by
  intro rest
  rw [h]
  rfl

/-- A reader with its errors renamed. -/
def mapErr (f : ε → ε') (r : Reader ε α) : Reader ε' α := fun bs =>
  match r bs with
  | .ok p => .ok p
  | .error e => .error (f e)

lemma Reads.mapErr {f : ε → ε'} {r : Reader ε α} {x : List UInt8} {a : α} (h : Reads r x a) :
    Reads (mapErr f r) x a := by
  intro rest
  rw [Codec.mapErr, h rest]

lemma Exact.mapErr {f : ε → ε'} {r : Reader ε α} {enc : α → List UInt8} {Valid : α → Prop}
    (h : Exact r enc Valid) : Exact (mapErr f r) enc Valid := by
  intro bs a rest
  rw [← h bs a rest, Codec.mapErr]
  cases r bs <;> simp

lemma Exact.checked {r : Reader ε α} {enc : α → List UInt8} {Valid : α → Prop}
    (h : Exact r enc Valid) {f : α → Except ε β} {g : β → α} {Valid' : β → Prop}
    (hf : ∀ a b, Valid a ∧ f a = .ok b ↔ Valid' b ∧ a = g b) :
    Exact (do
      let a ← r
      check (f a)) (fun b => enc (g b)) Valid' := by
  intro bs b rest
  simp only [h.bind_eq_ok, check_eq_ok]
  constructor
  · rintro ⟨a, mid, ⟨ha, rfl⟩, hb, rfl⟩
    obtain ⟨hv, rfl⟩ := (hf a b).mp ⟨ha, hb⟩
    exact ⟨hv, rfl⟩
  · rintro ⟨hv, rfl⟩
    obtain ⟨ha, hb⟩ := (hf (g b) b).mpr ⟨hv, rfl⟩
    exact ⟨g b, rest, ⟨ha, rfl⟩, hb, rfl⟩

/-- What the reader takes for a value is what the writer produces for it. -/
def Recovers (r : Reader ε α) (write : α → Except ε' (List UInt8)) : Prop :=
  ∀ bs a rest, r bs = .ok (a, rest) → ∃ x, write a = .ok x ∧ bs = x ++ rest

lemma Recovers.bind_eq_ok {r : Reader ε α} {write : α → Except ε' (List UInt8)}
    (h : Recovers r write) {k : α → Reader ε β} {bs : List UInt8} {p : β × List UInt8}
    (hp : (r >>= k) bs = .ok p) :
    ∃ a x mid, write a = .ok x ∧ bs = x ++ mid ∧ k a mid = .ok p := by
  obtain ⟨a, mid, ha, hk⟩ := reader_bind_eq_ok.mp hp
  obtain ⟨x, hx, hbs⟩ := h bs a mid ha
  exact ⟨a, x, mid, hx, hbs, hk⟩

/-- Decode a whole byte string with a reader. -/
def runReader (r : Reader ε α) (bs : List UInt8) : Except ε α := (r bs).map Prod.fst

lemma runReader_eq_ok {r : Reader ε α} {bs : List UInt8} {a : α} :
    runReader r bs = .ok a ↔ ∃ rest, r bs = .ok (a, rest) := by
  cases h : r bs <;> simp [runReader, Except.map, h, Prod.ext_iff]

lemma Reads.run {r : Reader ε α} {x : List UInt8} {a : α} (h : Reads r x a) :
    runReader r x = .ok a := by
  have hr := h []
  rw [List.append_nil] at hr
  exact runReader_eq_ok.mpr ⟨[], hr⟩

end Rules

section Fields
variable {ε α β : Type} (eof : ε)

def readArray (n : ℕ) : Reader ε (Bytes n) := fun bs =>
  if h : n ≤ bs.length then .ok (⟨bs.take n, by simp [h]⟩, bs.drop n) else .error eof

def readU8 : Reader ε UInt8 := fun bs =>
  match bs with
  | [] => .error eof
  | b :: rest => .ok (b, rest)

def readU16 : Reader ε UInt16 := do
  let b ← readArray eof 2
  pure (u16OfLe b.toList)

def readU32 : Reader ε UInt32 := do
  let b ← readArray eof 4
  pure (u32OfLe b.toList)

def readU64 : Reader ε UInt64 := do
  let b ← readArray eof 8
  pure (u64OfLe b.toList)

/-- Any byte but zero stands for `true`, so this reader is not exact. -/
def readBool : Reader ε Bool := do
  let b ← readU8 eof
  pure (b != 0)

def takeBytes (n : ℕ) : Reader ε (List UInt8) := fun bs =>
  if n ≤ bs.length then .ok (bs.take n, bs.drop n) else .error eof

/-- A byte string behind its length, up to a maximal length. -/
def readBlob (tooLong : ℕ → ε) (max : ℕ) : Reader ε (List UInt8) := do
  let len ← readU32 eof
  check (failIf (len.toNat > max) (tooLong len.toNat))
  takeBytes eof len.toNat

/-- A value behind the byte that says whether it is there. -/
def readOption (r : Reader ε α) : Reader ε (Option α) := do
  let present ← readBool eof
  if present then do
    let a ← r
    pure (some a)
  else pure none

/-- Fail if bytes remain. -/
def ensureConsumed (trailing : ℕ → ε) : Reader ε Unit := fun bs =>
  if bs = [] then .ok ((), bs) else .error (trailing bs.length)

def readList (r : Reader ε α) : ℕ → Reader ε (List α)
  | 0 => pure []
  | n+1 => do
      let a ← r
      let as ← readList r n
      pure (a :: as)

/-- Read elements in turn, with the element's index for its error. -/
def readEnum (r : ℕ → Reader ε α) : ℕ → ℕ → Reader ε (List α)
  | _, 0 => pure []
  | i, n+1 => do
      let a ← r i
      let as ← readEnum r (i+1) n
      pure (a :: as)

variable {eof}

lemma exact_readArray (n : ℕ) : Exact (readArray eof n) Bytes.toList (fun _ => True) := by
  intro bs a rest
  rw [true_and]
  unfold readArray
  constructor
  · intro h
    split_ifs at h with hn
    simp only [Except.ok.injEq, Prod.mk.injEq] at h
    obtain ⟨rfl, rfl⟩ := h
    exact (List.take_append_drop n bs).symm
  · rintro rfl
    have hn : n ≤ (a.toList ++ rest).length := by simp
    rw [dif_pos hn]
    congr 2
    · exact Bytes.ext (List.take_left' a.length_toList)
    · exact List.drop_left' a.length_toList

lemma exact_readU8 : Exact (readU8 eof) (fun b => [b]) (fun _ => True) := by
  intro bs a rest
  rw [true_and]
  cases bs with
  | nil => simp [readU8]
  | cons b bs => simp [readU8]

lemma exact_word {n : ℕ} {ofLe : List UInt8 → α} {toLe : α → List UInt8}
    (hlen : ∀ a, (toLe a).length = n) (hto : ∀ bs, bs.length = n → toLe (ofLe bs) = bs)
    (hof : ∀ a, ofLe (toLe a) = a) :
    Exact (do
      let b ← readArray eof n
      pure (ofLe b.toList)) toLe (fun _ => True) := by
  intro bs a rest
  rw [(exact_readArray n).bind_eq_ok]
  simp only [reader_pure_eq_ok]
  constructor
  · rintro ⟨b, mid, ⟨-, rfl⟩, rfl, rfl⟩
    exact ⟨trivial, by rw [hto _ b.length_toList]⟩
  · rintro ⟨-, rfl⟩
    exact ⟨⟨toLe a, hlen a⟩, rest, ⟨trivial, rfl⟩, hof a, rfl⟩

lemma exact_readU16 : Exact (readU16 eof) le16 (fun _ => True) :=
  exact_word length_le16 (fun _ => le16_u16OfLe) u16OfLe_le16

lemma exact_readU32 : Exact (readU32 eof) le32 (fun _ => True) :=
  exact_word length_le32 (fun _ => le32_u32OfLe) u32OfLe_le32

lemma exact_readU64 : Exact (readU64 eof) le64 (fun _ => True) :=
  exact_word length_le64 (fun _ => le64_u64OfLe) u64OfLe_le64

/-- The byte written for a truth value. -/
def boolByte (b : Bool) : UInt8 := if b then 1 else 0

lemma reads_readBool (b : Bool) : Reads (readBool eof) [boolByte b] b := by
  intro rest
  cases b <;> rfl

/-- What is written for an optional value. -/
def optionBytes (enc : α → List UInt8) : Option α → List UInt8
  | some a => [boolByte true] ++ enc a
  | none => [boolByte false]

lemma reads_readOption {r : Reader ε α} {enc : α → List UInt8} {x : Option α}
    (h : ∀ a, x = some a → Reads r (enc a) a) : Reads (readOption eof r) (optionBytes enc x) x := by
  cases x with
  | none => exact (reads_readBool false).bind_nil (.pure none)
  | some a => exact (reads_readBool true).bind ((h a rfl).bind_nil (.pure _))

lemma reads_takeBytes (x : List UInt8) : Reads (takeBytes eof x.length) x x := by
  intro rest
  simp [takeBytes]

lemma reads_readBlob {tooLong : ℕ → ε} {max : ℕ} {x : List UInt8} (hmax : x.length ≤ max)
    (hlen : x.length < 2^32) :
    Reads (readBlob eof tooLong max) (le32 (UInt32.ofNat x.length) ++ x) x := by
  have hn : (UInt32.ofNat x.length).toNat = x.length := by
    rw [UInt32.toNat_ofNat']
    exact Nat.mod_eq_of_lt hlen
  refine (exact_readU32.reads trivial).bind ?_
  rw [hn]
  have hcheck : failIf (x.length > max) (tooLong x.length) = .ok () := by simpa using hmax
  exact (Reads.check hcheck).bind (reads_takeBytes x)

lemma takeBytes_eq_ok {n : ℕ} {bs x rest : List UInt8} :
    takeBytes eof n bs = .ok (x, rest) ↔ x.length = n ∧ bs = x ++ rest := by
  unfold takeBytes
  constructor
  · intro h
    split_ifs at h with hn
    simp only [Except.ok.injEq, Prod.mk.injEq] at h
    obtain ⟨rfl, rfl⟩ := h
    exact ⟨List.length_take_of_le hn, (List.take_append_drop n bs).symm⟩
  · rintro ⟨rfl, rfl⟩
    simp

/-- A blob is exact up to its maximal length, as far as the length fits its word. -/
lemma exact_readBlob {tooLong : ℕ → ε} {max : ℕ} (hmax : max < 2^32) :
    Exact (readBlob eof tooLong max) (fun x => le32 (UInt32.ofNat x.length) ++ x)
      (fun x => x.length ≤ max) := by
  intro bs x rest
  simp only [readBlob, exact_readU32.bind_eq_ok, check_bind_eq_ok, failIf_eq_ok, takeBytes_eq_ok,
    true_and, exists_const, not_lt, List.append_assoc]
  constructor
  · rintro ⟨len, _, rfl, hlen, hx, rfl⟩
    rw [hx, UInt32.ofNat_toNat]
    exact ⟨hlen, rfl⟩
  · rintro ⟨hx, rfl⟩
    have hn : (UInt32.ofNat x.length).toNat = x.length := by
      rw [UInt32.toNat_ofNat']
      exact Nat.mod_eq_of_lt (lt_of_le_of_lt hx hmax)
    exact ⟨UInt32.ofNat x.length, _, rfl, hn.symm ▸ hx, hn.symm, rfl⟩

lemma reads_readList {r : Reader ε α} {enc : α → List UInt8} {as : List α}
    (h : ∀ a ∈ as, Reads r (enc a) a) : Reads (readList r as.length) (as.flatMap enc) as := by
  induction as with
  | nil => exact .pure []
  | cons a as ih =>
    rw [List.forall_mem_cons] at h
    rw [List.flatMap_cons]
    exact h.1.bind ((ih h.2).bind_nil (.pure _))

lemma exact_readList {r : Reader ε α} {enc : α → List UInt8} {Valid : α → Prop}
    (h : Exact r enc Valid) (n : ℕ) : Exact (readList r n) (fun as => as.flatMap enc)
      (fun as => as.length = n ∧ ∀ a ∈ as, Valid a) := by
  induction n with
  | zero =>
    intro bs as rest
    simp only [readList, reader_pure_eq_ok, List.length_eq_zero_iff]
    constructor
    · rintro ⟨rfl, rfl⟩
      exact ⟨⟨rfl, by simp⟩, rfl⟩
    · rintro ⟨⟨rfl, -⟩, rfl⟩
      exact ⟨rfl, rfl⟩
  | succ n ih =>
    intro bs as rest
    simp only [readList, h.bind_eq_ok, ih.bind_eq_ok, reader_pure_eq_ok]
    constructor
    · rintro ⟨a, _, ⟨ha, rfl⟩, l, _, ⟨⟨hlen, hl⟩, rfl⟩, rfl, rfl⟩
      exact ⟨⟨by rw [List.length_cons, hlen], List.forall_mem_cons.mpr ⟨ha, hl⟩⟩, by simp⟩
    · rintro ⟨⟨hlen, hall⟩, rfl⟩
      obtain ⟨a, l, rfl⟩ := List.exists_cons_of_length_eq_add_one hlen
      rw [List.forall_mem_cons] at hall
      refine ⟨a, l.flatMap enc ++ rest, ⟨hall.1, by simp⟩, l, rest, ⟨⟨?_, hall.2⟩, rfl⟩, rfl, rfl⟩
      simpa using hlen

/-- A value behind the byte that says which form it has. -/
lemma exact_tagged {branch : UInt8 → Reader ε α} {tag : α → UInt8} {body : α → List UInt8}
    {Valid : α → Prop}
    (h : ∀ t bs a rest, branch t bs = .ok (a, rest) ↔ t = tag a ∧ Valid a ∧ bs = body a ++ rest) :
    Exact (do
      let t ← readU8 eof
      branch t) (fun a => [tag a] ++ body a) Valid := by
  intro bs a rest
  simp only [exact_readU8.bind_eq_ok, h, true_and, List.append_assoc]
  constructor
  · rintro ⟨_, _, rfl, rfl, ha, rfl⟩
    exact ⟨ha, rfl⟩
  · rintro ⟨ha, rfl⟩
    exact ⟨tag a, _, rfl, rfl, ha, rfl⟩

/-- Encodings that were each produced by a fallible writer are read back in turn. -/
lemma reads_readEnum {r : ℕ → Reader ε α} {write : α → Except ε (List UInt8)}
    (h : ∀ i a x, write a = .ok x → Reads (r i) x a) {as : List α} {xs : List (List UInt8)}
    (hw : List.Forall₂ (fun a x => write a = .ok x) as xs) (i : ℕ) :
    Reads (readEnum r i as.length) xs.flatten as := by
  induction hw generalizing i with
  | nil => exact .pure []
  | cons ha hl ih =>
    rw [List.flatten_cons]
    exact (h i _ _ ha).bind ((ih (i+1)).bind_nil (.pure _))

lemma recovers_readEnum {ε' : Type} {r : ℕ → Reader ε α} {write : α → Except ε' (List UInt8)}
    (h : ∀ i, Recovers (r i) write) {n i : ℕ} {bs rest : List UInt8} {as : List α}
    (hr : readEnum r i n bs = .ok (as, rest)) :
    as.length = n ∧ ∃ xs, mapEach write as = .ok xs ∧ bs = xs.flatten ++ rest := by
  induction n generalizing i bs as with
  | zero =>
    obtain ⟨rfl, rfl⟩ := reader_pure_eq_ok.mp hr
    exact ⟨rfl, [], rfl, rfl⟩
  | succ n ih =>
    obtain ⟨a, x, mid, hx, rfl, hk⟩ := (h i).bind_eq_ok hr
    obtain ⟨as, mid, has, hk⟩ := reader_bind_eq_ok.mp hk
    obtain ⟨rfl, rfl⟩ := reader_pure_eq_ok.mp hk
    obtain ⟨hlen, xs, hxs, rfl⟩ := ih has
    refine ⟨by rw [List.length_cons, hlen], x :: xs, ?_, by simp⟩
    exact mapEach_eq_ok.mpr (.cons hx (mapEach_eq_ok.mp hxs))

lemma run_ensureConsumed {r : Reader ε α} {trailing : ℕ → ε} {k : α → Except ε β} {x : List UInt8}
    {a : α} {b : β} (hr : Reads r x a) (hk : k a = .ok b) :
    runReader (do
      let a ← r
      ensureConsumed trailing
      check (k a)) x = .ok b := by
  have hx := hr []
  rw [List.append_nil] at hx
  refine runReader_eq_ok.mpr ⟨[], reader_bind_eq_ok.mpr ⟨a, [], hx, ?_⟩⟩
  exact reader_bind_eq_ok.mpr ⟨(), [], rfl, check_eq_ok.mpr ⟨hk, rfl⟩⟩

lemma ensureConsumed_bind_eq_ok {trailing : ℕ → ε} {k : Unit → Reader ε α} {bs : List UInt8}
    {p : α × List UInt8} :
    (ensureConsumed trailing >>= k) bs = .ok p ↔ bs = [] ∧ k () [] = .ok p := by
  cases bs <;> simp [bind, StateT.bind, Except.bind, ensureConsumed]

/-- What an exact reader takes to the last byte is the encoding of the value. -/
lemma Exact.run_eq_ok {r : Reader ε α} {enc : α → List UInt8} {Valid : α → Prop}
    (h : Exact r enc Valid) {trailing : ℕ → ε} {k : α → Except ε β} {bs : List UInt8} {b : β} :
    runReader (do
      let a ← r
      ensureConsumed trailing
      check (k a)) bs = .ok b ↔ ∃ a, Valid a ∧ bs = enc a ∧ k a = .ok b := by
  simp only [runReader_eq_ok, h.bind_eq_ok, ensureConsumed_bind_eq_ok, check_eq_ok]
  constructor
  · rintro ⟨_, a, _, ⟨ha, rfl⟩, rfl, hb, -⟩
    exact ⟨a, ha, List.append_nil _, hb⟩
  · rintro ⟨a, ha, rfl, hb⟩
    exact ⟨[], a, [], ⟨ha, (List.append_nil _).symm⟩, rfl, hb, rfl⟩

end Fields
end RgkProtocol.Codec
