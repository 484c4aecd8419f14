import Mathlib.Data.List.Basic

/-!
# Programs over a store whose calls can fail

A program makes its calls on a store one after the other. At any call the store may report an
error without effect, or the process may crash just before or just after the call takes effect,
and the program ends there. A sequence of writes is then cut off somewhere: what the store holds
is what the first so many of them wrote.
-/
namespace RgkProtocol.FaultyCalls
variable {σ δ ε α β ι : Type}

inductive Fault (δ : Type) where
  | fails (e : δ)
  | crashBefore
  | crashAfter

/-- What ends a program early. -/
inductive Stop (ε : Type) where
  | error (e : ε)
  | crash
  deriving DecidableEq

/-- The store and the number of calls that were made on it. -/
structure Session (σ : Type) where
  store : σ
  calls : ℕ

abbrev Program (σ ε : Type) := EStateM (Stop ε) (Session σ)

/-- One call on the store; the fault at its position, if any, hits it. -/
def call (wrap : δ → ε) (faults : ℕ → Option (Fault δ)) (f : σ → Except δ α × σ) :
    Program σ ε α := fun session =>
  match faults session.calls with
  | none =>
      match f session.store with
      | (.ok a, s) => .ok a ⟨s, session.calls+1⟩
      | (.error e, s) => .error (.error (wrap e)) ⟨s, session.calls+1⟩
  | some (.fails e) => .error (.error (wrap e)) ⟨session.store, session.calls+1⟩
  | some .crashBefore => .error .crash ⟨session.store, session.calls+1⟩
  | some .crashAfter => .error .crash ⟨(f session.store).2, session.calls+1⟩

/-- A call that only reads. -/
def readCall (wrap : δ → ε) (faults : ℕ → Option (Fault δ)) (g : σ → Except δ α) :
    Program σ ε α := call wrap faults (fun s => (g s, s))

/-- A step that does not touch the store. -/
def lift (x : Except ε α) : Program σ ε α := fun session =>
  match x with
  | .ok a => .ok a session
  | .error e => .error (.error e) session

section Laws

lemma lift_bind (x : Except ε α) (f : α → Except ε β) :
    (lift (x >>= f) : Program σ ε β) = lift x >>= fun a => lift (f a) := by
  cases x <;> rfl

@[simp] lemma lift_ok (a : α) : (lift (.ok a) : Program σ ε α) = pure a := rfl

lemma run_call_of_none {wrap : δ → ε} {faults : ℕ → Option (Fault δ)} {f : σ → Except δ α × σ}
    {session : Session σ} {a : α} {s : σ} (hfault : faults session.calls = none)
    (hf : f session.store = (.ok a, s)) :
    (call wrap faults f).run session = .ok a ⟨s, session.calls+1⟩ := by
  unfold EStateM.run call
  rw [hfault, hf]

lemma run_call_of_some (wrap : δ → ε) {faults : ℕ → Option (Fault δ)} (f : σ → Except δ α × σ)
    {session : Session σ} {fault : Fault δ} (hfault : faults session.calls = some fault) :
    ∃ e, (call wrap faults f).run session = .error e ⟨session.store, session.calls+1⟩ ∨
      e = .crash ∧
        (call wrap faults f).run session = .error e ⟨(f session.store).2, session.calls+1⟩ := by
  unfold EStateM.run call
  rw [hfault]
  cases fault with
  | fails e => exact ⟨.error (wrap e), Or.inl rfl⟩
  | crashBefore => exact ⟨.crash, Or.inl rfl⟩
  | crashAfter => exact ⟨.crash, Or.inr ⟨rfl, rfl⟩⟩

/-- A read leaves the store alone, and what it answers is what the store holds. -/
lemma run_readCall_cases (wrap : δ → ε) (faults : ℕ → Option (Fault δ)) (g : σ → Except δ α)
    (session : Session σ) :
    (∃ e, (readCall wrap faults g).run session = .error e ⟨session.store, session.calls+1⟩) ∨
      ∃ a, g session.store = .ok a ∧
        (readCall wrap faults g).run session = .ok a ⟨session.store, session.calls+1⟩ := by
  cases hfault : faults session.calls with
  | some fault =>
    obtain ⟨e, hcall | ⟨-, hcall⟩⟩ := run_call_of_some wrap (fun s => (g s, s)) hfault
    · exact Or.inl ⟨e, hcall⟩
    · exact Or.inl ⟨e, hcall⟩
  | none =>
    cases hg : g session.store with
    | ok a => exact Or.inr ⟨a, rfl, run_call_of_none hfault (Prod.ext hg rfl)⟩
    | error e =>
      refine Or.inl ⟨.error (wrap e), ?_⟩
      simp only [readCall, EStateM.run, call, hfault, hg]

lemma run_readCall_of_no_faults (wrap : δ → ε) {g : σ → Except δ α} {session : Session σ} {a : α}
    (hg : g session.store = .ok a) :
    (readCall wrap (fun _ => none) g).run session = .ok a ⟨session.store, session.calls+1⟩ :=
  run_call_of_none rfl (Prod.ext hg rfl)

end Laws

section Writes
variable {f : ι → σ → Except δ Unit × σ}

/-- What the store holds after some writes. -/
def writeAll (f : ι → σ → Except δ Unit × σ) (is : List ι) (s : σ) : σ :=
  is.foldl (fun s i => (f i s).2) s

@[simp] lemma writeAll_nil (s : σ) : writeAll f [] s = s := rfl

@[simp] lemma writeAll_cons (i : ι) (is : List ι) (s : σ) :
    writeAll f (i :: is) s = writeAll f is (f i s).2 := rfl

lemma writeAll_append (is js : List ι) (s : σ) :
    writeAll f (is ++ js) s = writeAll f js (writeAll f is s) := List.foldl_append

/-- How a sequence of writes can end. -/
inductive WritesEnd (f : ι → σ → Except δ Unit × σ) (is : List ι) (s : σ) :
    EStateM.Result (Stop ε) (Session σ) Unit → Prop
  | done (n : ℕ) : WritesEnd f is s (.ok () ⟨writeAll f is s, n⟩)
  | stopped (k n : ℕ) (e : Stop ε) (hk : k < is.length) :
      WritesEnd f is s (.error e ⟨writeAll f (is.take k) s, n⟩)
  | crashed (n : ℕ) : WritesEnd f is s (.error .crash ⟨writeAll f is s, n⟩)

lemma WritesEnd.cons {i : ι} {is : List ι} {s : σ}
    {r : EStateM.Result (Stop ε) (Session σ) Unit} (h : WritesEnd f is (f i s).2 r) :
    WritesEnd f (i :: is) s r := by
  cases h with
  | done n => exact .done n
  | stopped k n e hk => exact .stopped (k+1) n e (Nat.succ_lt_succ hk)
  | crashed n => exact .crashed n

/-- Writes that cannot fail by themselves are cut off by a fault or all made. -/
theorem writesEnd_forM (wrap : δ → ε) (hf : ∀ i s, (f i s).1 = .ok ())
    (faults : ℕ → Option (Fault δ)) (is : List ι) (session : Session σ) :
    WritesEnd f is session.store
      ((forM is (fun i => call wrap faults (f i))).run session) := by
  induction is generalizing session with
  | nil => exact .done session.calls
  | cons i is ih =>
    rw [List.forM_cons, EStateM.run_bind]
    cases hfault : faults session.calls with
    | none =>
      rw [run_call_of_none hfault (Prod.ext (hf i _) rfl)]
      exact (ih ⟨(f i session.store).2, session.calls+1⟩).cons
    | some fault =>
      obtain ⟨e, hcall | ⟨rfl, hcall⟩⟩ := run_call_of_some wrap (f i) hfault
      · rw [hcall]
        exact .stopped 0 _ e (Nat.succ_pos _)
      · rw [hcall]
        cases is with
        | nil => exact .crashed _
        | cons j is => exact .stopped 1 _ _ (Nat.succ_lt_succ (Nat.succ_pos _))

theorem run_forM_of_no_faults (wrap : δ → ε) (hf : ∀ i s, (f i s).1 = .ok ()) (is : List ι)
    (session : Session σ) :
    ∃ n, (forM is (fun i => call wrap (fun _ => none) (f i))).run session =
      .ok () ⟨writeAll f is session.store, n⟩ := by
  induction is generalizing session with
  | nil => exact ⟨session.calls, rfl⟩
  | cons i is ih =>
    obtain ⟨n, hn⟩ := ih ⟨(f i session.store).2, session.calls+1⟩
    refine ⟨n, ?_⟩
    rw [List.forM_cons, EStateM.run_bind, run_call_of_none rfl (Prod.ext (hf i _) rfl)]
    exact hn

end Writes
end RgkProtocol.FaultyCalls
