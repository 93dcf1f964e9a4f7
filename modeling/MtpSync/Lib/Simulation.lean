import MtpSync.Lib.Act

/-!
# Simulation of calls

`Simulates view I m n`: on states that meet `I`, the call `m` does what `n` does on the view of
the state, and keeps `I`.  A program written over an interface of calls simulates the same program
over another interface as soon as the calls do, by the rules for sequencing and branching.

`Respects R m` is about one program and two states: from states related by `R` it answers the same
and leaves states related by `R`.  Where `R` is "alike, but for a secret part", nothing of that part
gets out.
-/

namespace MtpSync

namespace Act

variable {σ τ α β : Type} {view : σ → τ} {I : σ → Prop}

/-! ## §1 Simulation -/

/-- What `m` does to a state is, on its view, what `n` does. -/
def Simulates (view : σ → τ) (I : σ → Prop) (m : Act σ α) (n : Act τ α) : Prop :=
  ∀ s, I s → n.run (view s) = ((m.run s).1, view (m.run s).2) ∧ I (m.run s).2

namespace Simulates

theorem pure (a : α) : Simulates view I (Pure.pure a) (Pure.pure a) :=
  fun _ h => ⟨rfl, h⟩

theorem halt (e : Halt) : Simulates view I (Act.halt e : Act σ α) (Act.halt e) :=
  fun _ h => ⟨rfl, h⟩

/-- A change of the state is one of the view. -/
theorem modify {f : σ → σ} {g : τ → τ} (h : ∀ s, I s → view (f s) = g (view s) ∧ I (f s)) :
    Simulates view I (Act.modify f) (Act.modify g) := by
  intro s hs
  obtain ⟨hview, hI⟩ := h s hs
  refine ⟨?_, hI⟩
  rw [modify_run, modify_run, hview]

theorem bind {m : Act σ α} {n : Act τ α} {f : α → Act σ β} {g : α → Act τ β}
    (h : Simulates view I m n) (h' : ∀ a, Simulates view I (f a) (g a)) :
    Simulates view I (m >>= f) (n >>= g) := by
  intro s hs
  obtain ⟨hrun, hI⟩ := h s hs
  rw [bind_run, bind_run, hrun]
  rcases hm : m.run s with ⟨e | a, t⟩
  · rw [hm] at hI
    exact ⟨rfl, hI⟩
  · rw [hm] at hI
    exact h' a t hI

theorem ite {c : Prop} [Decidable c] {m m' : Act σ α} {n n' : Act τ α}
    (h : Simulates view I m n) (h' : Simulates view I m' n') :
    Simulates view I (if c then m else m') (if c then n else n') := by
  split
  · exact h
  · exact h'

theorem both {m m' : Act σ Bool} {n n' : Act τ Bool} (h : Simulates view I m n)
    (h' : Simulates view I m' n') : Simulates view I (Act.both m m') (Act.both n n') :=
  h.bind fun _ => ite h' (pure false)

/-- A question is answered from the view. -/
theorem query {q : σ → α} {r : τ → α} (h : ∀ s, q s = r (view s)) :
    Simulates view I (q <$> Act.read) (r <$> Act.read) := by
  intro s hs
  refine ⟨?_, hs⟩
  show (Except.ok (r (view s)), view s) = (Except.ok (q s), view s)
  rw [h s]

end Simulates

/-! ## §2 Two runs of one call -/

/-- From states related by `R`, the same answer, and states related by `R`. -/
def Respects (R : σ → σ → Prop) (m : Act σ α) : Prop :=
  ∀ s t, R s t → (m.run s).1 = (m.run t).1 ∧ R (m.run s).2 (m.run t).2

variable {R : σ → σ → Prop}

namespace Respects

theorem pure (a : α) : Respects R (Pure.pure a : Act σ α) := fun _ _ h => ⟨rfl, h⟩

theorem halt (e : Halt) : Respects R (Act.halt e : Act σ α) := fun _ _ h => ⟨rfl, h⟩

theorem modify {f : σ → σ} (h : ∀ s t, R s t → R (f s) (f t)) : Respects R (Act.modify f) :=
  fun s t hst => ⟨rfl, h s t hst⟩

theorem bind {m : Act σ α} {f : α → Act σ β} (hm : Respects R m)
    (hf : ∀ a, Respects R (f a)) : Respects R (m >>= f) := by
  intro s t hst
  obtain ⟨hans, hR⟩ := hm s t hst
  rcases hs : m.run s with ⟨e | a, s'⟩
  · rcases ht : m.run t with ⟨e' | a', t'⟩
    · rw [hs, ht] at hans hR
      rw [bind_run_error hs, bind_run_error ht]
      exact ⟨congrArg Except.error (Except.error.inj hans), hR⟩
    · rw [hs, ht] at hans
      cases hans
  · rcases ht : m.run t with ⟨e' | a', t'⟩
    · rw [hs, ht] at hans
      cases hans
    · rw [hs, ht] at hans hR
      cases hans
      rw [bind_run_ok hs, bind_run_ok ht]
      exact hf a s' t' hR

/-- What is read is used for nothing the related states do not agree on. -/
theorem read_bind {f : σ → Act σ β}
    (hf : ∀ s t, R s t → ((f s).run s).1 = ((f t).run t).1 ∧ R ((f s).run s).2 ((f t).run t).2) :
    Respects R (Act.read >>= f) :=
  hf

theorem ite {c : Prop} [Decidable c] {m n : Act σ α} (hm : Respects R m) (hn : Respects R n) :
    Respects R (if c then m else n) := by
  split
  · exact hm
  · exact hn

theorem both {m n : Act σ Bool} (hm : Respects R m) (hn : Respects R n) :
    Respects R (Act.both m n) :=
  hm.bind fun _ => ite hn (pure false)

/-- A call on a part, if related states have related parts. -/
theorem zoom {Q : τ → τ → Prop} {get : σ → τ} {put : τ → σ → σ} {m : Act τ α}
    (hm : Respects Q m) (hget : ∀ s t, R s t → Q (get s) (get t))
    (hput : ∀ s t x y, R s t → Q x y → R (put x s) (put y t)) :
    Respects R (Act.zoom get put m) := by
  intro s t hst
  obtain ⟨hans, hQ⟩ := hm _ _ (hget s t hst)
  exact ⟨hans, hput s t _ _ hst hQ⟩

end Respects

end Act

end MtpSync
