import Mathlib.Data.List.Basic
import Mathlib.Data.Nat.Notation

/-!
# Input taken in by blocks

A state takes an input in by blocks of `n`; what is left at the end is shorter than a block and
waits for more.  `absorb_append` says that a first part and then the rest leave what the whole
leaves, wherever the input is cut.
-/

namespace MtpSync

variable {σ α : Type}

/-- Take blocks while there are any. -/
def absorbLoop (n : ℕ) (f : σ → List α → σ) : ℕ → σ → List α → σ × List α
  | 0, s, l => (s, l)
  | fuel + 1, s, l =>
    if l.length < n then (s, l) else absorbLoop n f fuel (f s (l.take n)) (l.drop n)

/-- The state after the whole blocks of an input, and the rest of it. -/
def absorb (n : ℕ) (f : σ → List α → σ) (s : σ) (l : List α) : σ × List α :=
  absorbLoop n f l.length s l

section Absorb

variable {n : ℕ} {f : σ → List α → σ}

theorem absorb_of_lt {l : List α} (h : l.length < n) (s : σ) : absorb n f s l = (s, l) := by
  rw [absorb]
  cases l.length with
  | zero => rfl
  | succ k => rw [absorbLoop, if_pos h]

variable (hn : 0 < n)

include hn

private theorem absorbLoop_nil (fuel : ℕ) (s : σ) : absorbLoop n f fuel s [] = (s, []) := by
  cases fuel with
  | zero => rfl
  | succ fuel => exact if_pos hn

/-- Fuel for every element is enough. -/
private theorem absorbLoop_eq {fuel fuel' : ℕ} {l : List α} (h : l.length ≤ fuel)
    (h' : l.length ≤ fuel') (s : σ) : absorbLoop n f fuel s l = absorbLoop n f fuel' s l := by
  induction fuel generalizing fuel' s l with
  | zero =>
    have hnil : l = [] := List.length_eq_zero_iff.1 (Nat.le_zero.1 h)
    rw [hnil, absorbLoop_nil hn, absorbLoop_nil hn]
  | succ fuel ih =>
    cases fuel' with
    | zero =>
      have hnil : l = [] := List.length_eq_zero_iff.1 (Nat.le_zero.1 h')
      rw [hnil, absorbLoop_nil hn, absorbLoop_nil hn]
    | succ fuel' =>
      rw [absorbLoop, absorbLoop]
      split
      · rfl
      · refine ih ?_ ?_ _ <;> rw [List.length_drop] <;> omega

/-- A block is taken, and then the rest. -/
theorem absorb_of_le {l : List α} (h : n ≤ l.length) (s : σ) :
    absorb n f s l = absorb n f (f s (l.take n)) (l.drop n) := by
  obtain ⟨k, hk⟩ : ∃ k, l.length = k + 1 := ⟨l.length - 1, by omega⟩
  rw [absorb, hk, absorbLoop, if_neg (Nat.not_lt.2 h), absorb]
  exact absorbLoop_eq hn (by rw [List.length_drop]; omega) (Nat.le_refl _) _

/-- One block after the other: what holds of an input and is passed on from the rest of an input
to the input holds of all. -/
theorem absorb_induction {motive : σ → List α → Prop}
    (hshort : ∀ s l, l.length < n → motive s l)
    (hblock : ∀ s l, n ≤ l.length → motive (f s (l.take n)) (l.drop n) → motive s l)
    (s : σ) (l : List α) : motive s l := by
  induction hlen : l.length using Nat.strongRecOn generalizing s l with
  | ind k ih =>
    rcases Nat.lt_or_ge l.length n with hlt | hle
    · exact hshort s l hlt
    · refine hblock s l hle (ih _ ?_ _ _ rfl)
      rw [List.length_drop]
      omega

/-- **Wherever an input is cut**, its parts leave what the whole leaves. -/
theorem absorb_append (s : σ) (l l' : List α) :
    absorb n f s (l ++ l') = absorb n f (absorb n f s l).1 ((absorb n f s l).2 ++ l') := by
  induction s, l using absorb_induction (f := f) hn with
  | hshort s l hlt => rw [absorb_of_lt hlt]
  | hblock s l hle ih =>
    have hle' : n ≤ (l ++ l').length := by rw [List.length_append]; omega
    rw [absorb_of_le hn hle', List.take_append_of_le_length hle, List.drop_append_of_le_length hle,
      ih, absorb_of_le hn hle]

theorem length_absorb (s : σ) (l : List α) : (absorb n f s l).2.length = l.length % n := by
  induction s, l using absorb_induction (f := f) hn with
  | hshort s l hlt => rw [absorb_of_lt hlt, Nat.mod_eq_of_lt hlt]
  | hblock s l hle ih =>
    rw [absorb_of_le hn hle, ih, List.length_drop, ← Nat.mod_eq_sub_mod hle]

end Absorb

end MtpSync
