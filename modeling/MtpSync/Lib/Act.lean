import Mathlib.Order.Defs.Unbundled

/-!
# Effectful calls that may fail to return

`Act σ α` is a call that reads and writes a state `σ` and either returns an `α` or halts:
it waits for ever, or it does something the language leaves undefined.  The state reached is
kept in both cases, so that a property of the files and tables a run leaves behind can be
stated for the runs that never come back too.

`Keeps R m` says that `m` relates its initial state to its final one by `R`, however it ends.
For a preorder `R` it is closed under sequencing, branching and loops, which is how a whole
run is shown to keep what its steps keep.  `Maintains P Q m` is the same for what holds only
as long as the calls return: `P` between them, `Q` wherever they end.
-/

namespace MtpSync

/-- Why a call never returns. -/
inductive Halt where
  /-- it waits, or loops, for ever -/
  | hang
  /-- undefined behaviour: nothing is promised from here on -/
  | undefined
  deriving DecidableEq, Repr

/-- A call on a state `σ`: what it returns, or why it does not, and the state it leaves. -/
structure Act (σ α : Type) where
  /-- run the call in a state -/
  run : σ → Except Halt α × σ

namespace Act

variable {σ τ α β : Type}

/-! ## §1 Sequencing -/

/-- Sequencing: a halted call keeps its state and skips what follows. -/
def andThen (m : Act σ α) (f : α → Act σ β) : Act σ β where
  run s :=
    match m.run s with
    | (.ok a, s') => (f a).run s'
    | (.error h, s') => (.error h, s')

instance : Monad (Act σ) where
  pure a := ⟨fun s => (.ok a, s)⟩
  bind := andThen

/-- Never return. -/
def halt (h : Halt) : Act σ α := ⟨fun s => (.error h, s)⟩

/-- Read the state. -/
def read : Act σ σ := ⟨fun s => (.ok s, s)⟩

/-- Update the state. -/
def modify (f : σ → σ) : Act σ Unit := ⟨fun s => (.ok (), f s)⟩

/-- Short-circuit conjunction of two calls that report success. -/
def both (m n : Act σ Bool) : Act σ Bool := do
  if ← m then n else pure false

/-- Run a call on a part of the state. -/
def zoom (get : σ → τ) (put : τ → σ → σ) (m : Act τ α) : Act σ α where
  run s := ((m.run (get s)).1, put (m.run (get s)).2 s)

@[simp] theorem pure_run (a : α) (s : σ) : (pure a : Act σ α).run s = (.ok a, s) := rfl

@[simp] theorem read_run (s : σ) : (read : Act σ σ).run s = (.ok s, s) := rfl

@[simp] theorem modify_run (f : σ → σ) (s : σ) : (modify f).run s = (.ok (), f s) := rfl

@[simp] theorem zoom_run (get : σ → τ) (put : τ → σ → σ) (m : Act τ α) (s : σ) :
    (zoom get put m).run s = ((m.run (get s)).1, put (m.run (get s)).2 s) := rfl

theorem bind_run (m : Act σ α) (f : α → Act σ β) (s : σ) :
    (m >>= f).run s = match m.run s with
      | (.ok a, s') => (f a).run s'
      | (.error h, s') => (.error h, s') := rfl

/-- A call that returns passes its value and its state on. -/
theorem bind_run_ok {m : Act σ α} {f : α → Act σ β} {s s' : σ} {a : α}
    (h : m.run s = (.ok a, s')) : (m >>= f).run s = (f a).run s' := by
  rw [bind_run, h]

/-- A call that halts ends the sequence. -/
theorem bind_run_error {m : Act σ α} {f : α → Act σ β} {s s' : σ} {e : Halt}
    (h : m.run s = (.error e, s')) : (m >>= f).run s = (.error e, s') := by
  rw [bind_run, h]

/-- A sequence that returns comes from a call that returns. -/
theorem of_bind_run_ok {m : Act σ α} {f : α → Act σ β} {s s' : σ} {b : β}
    (h : (m >>= f).run s = (.ok b, s')) :
    ∃ a t, m.run s = (.ok a, t) ∧ (f a).run t = (.ok b, s') := by
  rcases hm : m.run s with ⟨e | a, t⟩
  · rw [bind_run_error hm] at h
    cases h
  · rw [bind_run_ok hm] at h
    exact ⟨a, t, rfl, h⟩

/-- Success of the first call hands over to the second. -/
theorem both_run_true {m n : Act σ Bool} {s s' : σ} (h : m.run s = (.ok true, s')) :
    (both m n).run s = n.run s' := by
  rw [both, bind_run_ok h]; rfl

/-- Failure of the first call is the answer. -/
theorem both_run_false {m n : Act σ Bool} {s s' : σ} (h : m.run s = (.ok false, s')) :
    (both m n).run s = (.ok false, s') := by
  rw [both, bind_run_ok h]; rfl

/-! ## §2 What a call keeps -/

/-- However `m` ends, `R` relates its initial state to the state it leaves. -/
def Keeps (R : σ → σ → Prop) (m : Act σ α) : Prop := ∀ s, R s (m.run s).2

variable {R : σ → σ → Prop}

theorem keeps_pure [Std.Refl R] (a : α) : Keeps R (pure a : Act σ α) :=
  fun s => refl_of R s

theorem keeps_halt [Std.Refl R] (h : Halt) : Keeps R (halt h : Act σ α) :=
  fun s => refl_of R s

theorem keeps_read [Std.Refl R] : Keeps R (read : Act σ σ) :=
  fun s => refl_of R s

theorem keeps_modify {f : σ → σ} (h : ∀ s, R s (f s)) : Keeps R (modify f) :=
  h

/-- Sequencing keeps what both parts keep. -/
theorem Keeps.bind [IsTrans σ R] {m : Act σ α} {f : α → Act σ β}
    (hm : Keeps R m) (hf : ∀ a, Keeps R (f a)) : Keeps R (m >>= f) := by
  intro s
  have h₁ := hm s
  rw [bind_run]
  rcases hms : m.run s with ⟨a | a, s'⟩
  · rw [hms] at h₁
    exact h₁
  · rw [hms] at h₁
    exact trans_of R h₁ (hf a s')

theorem Keeps.ite {c : Prop} [Decidable c] {m n : Act σ α}
    (hm : Keeps R m) (hn : Keeps R n) : Keeps R (if c then m else n) := by
  split
  · exact hm
  · exact hn

theorem Keeps.both [Std.Refl R] [IsTrans σ R] {m n : Act σ Bool}
    (hm : Keeps R m) (hn : Keeps R n) : Keeps R (both m n) :=
  hm.bind fun _ => Keeps.ite hn (keeps_pure false)

/-- What a call keeps of a part, it keeps of the whole. -/
theorem Keeps.zoom {Q : τ → τ → Prop} {get : σ → τ} {put : τ → σ → σ} {m : Act τ α}
    (hm : Keeps Q m) (h : ∀ s t, Q (get s) t → R s (put t s)) : Keeps R (zoom get put m) :=
  fun s => h s _ (hm (get s))

/-! ## §3 What holds as long as a call returns -/

/-- From states with `P` the call leaves states with `Q`, and states with `P` if it returns. -/
def Maintains (P Q : σ → Prop) (m : Act σ α) : Prop :=
  ∀ s, P s → Q (m.run s).2 ∧ ∀ a, (m.run s).1 = .ok a → P (m.run s).2

variable {P Q : σ → Prop}

theorem maintains_pure (h : ∀ s, P s → Q s) (a : α) : Maintains P Q (pure a : Act σ α) :=
  fun s hs => ⟨h s hs, fun _ _ => hs⟩

theorem Maintains.bind {m : Act σ α} {f : α → Act σ β} (hm : Maintains P Q m)
    (hf : ∀ a, Maintains P Q (f a)) : Maintains P Q (m >>= f) := by
  intro s hs
  obtain ⟨hQ, hP⟩ := hm s hs
  rcases hrun : m.run s with ⟨e | a, t⟩
  · rw [hrun] at hQ
    rw [bind_run_error hrun]
    exact ⟨hQ, fun _ hok => by cases hok⟩
  · rw [hrun] at hP
    rw [bind_run_ok hrun]
    exact hf a t (hP a rfl)

theorem Maintains.ite {c : Prop} [Decidable c] {m n : Act σ α} (hm : Maintains P Q m)
    (hn : Maintains P Q n) : Maintains P Q (if c then m else n) := by
  split
  · exact hm
  · exact hn

end Act

end MtpSync
