import Mathlib.Data.Set.BooleanAlgebra
import Mathlib.Data.Set.Function
import Mathlib.Order.CompletePartialOrder

/-!
# Storing in passes

A set of keyed rows is stored into repeatedly.  A pass first drops the rows of a set `P`, then
stores new rows, each in place of the stored row of its key, and last drops the rows of a set
`Q`.  Neither `P` nor `Q` depends on what a pass stores.

The new rows may come in one pass or cut into several.  What is stored in the end differs by the
rows of `P` that are new in some pass but the last (`foldl_pass_eq_iff`).

- §1 passes
- §2 any number of passes
- §3 statements whose order and number do not matter
-/

namespace MtpSync

namespace Passes

variable {ρ κ : Type} (key : ρ → κ) (P Q : Set ρ)

/-! ## §1 Passes -/

/-- One pass: drop `P`, store `new`, drop `Q`. -/
def pass (S new : Set ρ) : Set ρ :=
  {x | (x ∈ new ∨ x ∈ S ∧ x ∉ P ∧ ∀ y ∈ new, key y ≠ key x) ∧ x ∉ Q}

/-- What is stored after passes with the new rows `U` in all and `L` in the last one, of a set
that has nothing in common with `P`. -/
def after (base U L : Set ρ) : Set ρ :=
  {x | (x ∈ U ∧ (x ∈ P → x ∈ L) ∨ x ∈ base ∧ ∀ y ∈ U, key y ≠ key x) ∧ x ∉ Q}

variable {key P Q} {base U L new : Set ρ}

/-- The first pass. -/
theorem pass_eq_after (hbase : Disjoint base P) :
    pass key P Q base new = after key P Q base new new := by
  ext x
  constructor
  · rintro ⟨hx | ⟨hx, -, hkey⟩, hQ⟩
    · exact ⟨.inl ⟨hx, fun _ => hx⟩, hQ⟩
    · exact ⟨.inr ⟨hx, hkey⟩, hQ⟩
  · rintro ⟨⟨hx, -⟩ | ⟨hx, hkey⟩, hQ⟩
    · exact ⟨.inl hx, hQ⟩
    · exact ⟨.inr ⟨hx, Set.disjoint_left.1 hbase hx, hkey⟩, hQ⟩

/-- Any later pass: it drops what of `P` was new before. -/
theorem pass_after (hbase : Disjoint base P) (hkey : Set.InjOn key (U ∪ new)) :
    pass key P Q (after key P Q base U L) new = after key P Q base (U ∪ new) new := by
  ext x
  constructor
  · rintro ⟨hx | ⟨⟨⟨hU, -⟩ | ⟨hx, hkeyU⟩, -⟩, hP, hkeyN⟩, hQ⟩
    · exact ⟨.inl ⟨.inr hx, fun _ => hx⟩, hQ⟩
    · exact ⟨.inl ⟨.inl hU, fun h => absurd h hP⟩, hQ⟩
    · exact ⟨.inr ⟨hx, fun y hy => hy.elim (hkeyU y) (hkeyN y)⟩, hQ⟩
  · rintro ⟨⟨hx, hL⟩ | ⟨hx, hkeyUN⟩, hQ⟩
    · by_cases hnew : x ∈ new
      · exact ⟨.inl hnew, hQ⟩
      · -- a row of an earlier pass stays, as no new row has its key
        have hU : x ∈ U := hx.resolve_right hnew
        have hP : x ∉ P := fun h => hnew (hL h)
        refine ⟨.inr ⟨⟨.inl ⟨hU, fun h => absurd h hP⟩, hQ⟩, hP, fun y hy hyx => ?_⟩, hQ⟩
        exact hnew (hkey (.inr hy) (.inl hU) hyx ▸ hy)
    · have hP : x ∉ P := Set.disjoint_left.1 hbase hx
      exact ⟨.inr ⟨⟨.inr ⟨hx, fun y hy => hkeyUN y (.inl hy)⟩, hQ⟩, hP,
        fun y hy => hkeyUN y (.inr hy)⟩, hQ⟩

/-! ## §2 Any number of passes -/

section Many

variable {ι : Type} {news : ι → Set ρ}

/-- What is new in some pass of a list. -/
def all (news : ι → Set ρ) (l : List ι) : Set ρ := {x | ∃ i ∈ l, x ∈ news i}

theorem all_cons {i : ι} {l : List ι} : all news (i :: l) = news i ∪ all news l := by
  ext x
  simp [all]

/-- From any state reached: the rest of the passes. -/
theorem foldl_pass_after (hbase : Disjoint base P) (l : List ι) (last : ι)
    (hkey : Set.InjOn key (U ∪ all news (l ++ [last]))) :
    (l ++ [last]).foldl (fun S i => pass key P Q S (news i)) (after key P Q base U L) =
      after key P Q base (U ∪ all news (l ++ [last])) (news last) := by
  induction l generalizing U L with
  | nil =>
    have hall : all news [last] = news last := by
      ext x
      simp [all]
    rw [List.nil_append, hall] at hkey ⊢
    exact pass_after hbase hkey
  | cons i l ih =>
    rw [List.cons_append, all_cons, ← Set.union_assoc] at hkey ⊢
    rw [List.foldl_cons, pass_after hbase (hkey.mono (Set.subset_union_left)), ih hkey]

/-- **All passes.** -/
theorem foldl_pass (hbase : Disjoint base P) (l : List ι) (last : ι)
    (hkey : Set.InjOn key (all news (l ++ [last]))) :
    (l ++ [last]).foldl (fun S i => pass key P Q S (news i)) base =
      after key P Q base (all news (l ++ [last])) (news last) := by
  cases l with
  | nil =>
    have hall : all news [last] = news last := by
      ext x
      simp [all]
    rw [List.nil_append, hall]
    exact pass_eq_after hbase
  | cons i l =>
    rw [List.cons_append, all_cons] at hkey ⊢
    rw [List.foldl_cons, pass_eq_after hbase]
    exact foldl_pass_after hbase l last hkey

/-- With nothing in `P`, cutting the new rows into passes makes no difference. -/
theorem foldl_pass_empty (l : List ι) (last : ι)
    (hkey : Set.InjOn key (all news (l ++ [last]))) :
    (l ++ [last]).foldl (fun S i => pass key ∅ Q S (news i)) base =
      pass key ∅ Q base (all news (l ++ [last])) := by
  rw [foldl_pass (Set.disjoint_empty base) l last hkey, pass_eq_after (Set.disjoint_empty base)]
  ext x
  simp [after]

/-- **Passes and one pass**: nothing new in a pass but the last is in `P`, unless it is dropped
anyway. -/
theorem foldl_pass_eq_iff (hbase : Disjoint base P) (l : List ι) (last : ι)
    (hkey : Set.InjOn key (all news (l ++ [last]))) :
    (l ++ [last]).foldl (fun S i => pass key P Q S (news i)) base =
        pass key P Q base (all news (l ++ [last])) ↔
      ∀ x ∈ all news l, x ∈ P → x ∈ news last ∨ x ∈ Q := by
  rw [foldl_pass hbase l last hkey, pass_eq_after hbase]
  constructor
  · intro heq x hx hP
    by_cases hQ : x ∈ Q
    · exact .inr hQ
    · obtain ⟨i, hi, hxi⟩ := hx
      -- one pass would leave x, so the last pass must have brought it
      have hall : x ∈ all news (l ++ [last]) := ⟨i, List.mem_append_left _ hi, hxi⟩
      have hin : x ∈ after key P Q base (all news (l ++ [last])) (all news (l ++ [last])) :=
        ⟨.inl ⟨hall, fun _ => hall⟩, hQ⟩
      rw [← heq] at hin
      rcases hin with ⟨⟨-, hlast⟩ | ⟨-, hno⟩, -⟩
      · exact .inl (hlast hP)
      · exact absurd rfl (hno x hall)
  · intro h
    ext x
    constructor
    · rintro ⟨⟨hx, -⟩ | hx, hQ⟩
      · exact ⟨.inl ⟨hx, fun _ => hx⟩, hQ⟩
      · exact ⟨.inr hx, hQ⟩
    · rintro ⟨⟨hx, -⟩ | hx, hQ⟩
      · -- x comes in an early pass, hence in the last one as well
        refine ⟨.inl ⟨hx, fun hP => ?_⟩, hQ⟩
        obtain ⟨i, hi, hxi⟩ := hx
        rcases List.mem_append.1 hi with hi | hi
        · exact (h x ⟨i, hi, hxi⟩ hP).resolve_right hQ
        · rwa [← List.mem_singleton.1 hi]
      · exact ⟨.inr hx, hQ⟩

end Many

/-! ## §3 Statements whose order and number do not matter -/

section Absorbing

variable {σ ε : Type} {f : σ → ε → σ} {ok : ε → Prop}
  (hcomm : ∀ s a b, ok a → ok b → f (f s a) b = f (f s b) a)
  (hidem : ∀ s a, ok a → f (f s a) a = f s a)

include hcomm

/-- A statement moves to the front. -/
private theorem foldl_move {l : List ε} (hl : ∀ b ∈ l, ok b) {a : ε} (ha : ok a) (s : σ) :
    f (l.foldl f s) a = l.foldl f (f s a) := by
  induction l generalizing s with
  | nil => rfl
  | cons b l ih =>
    rw [List.forall_mem_cons] at hl
    rw [List.foldl_cons, List.foldl_cons, ih hl.2, hcomm s b a hl.1 ha]

include hidem

/-- A statement run before has no effect. -/
private theorem foldl_absorbs {l : List ε} (hl : ∀ b ∈ l, ok b) {a : ε} (ha : a ∈ l) (s : σ) :
    f (l.foldl f s) a = l.foldl f s := by
  induction l generalizing s with
  | nil => exact absurd ha List.not_mem_nil
  | cons b l ih =>
    rw [List.forall_mem_cons] at hl
    rcases List.mem_cons.1 ha with rfl | ha
    · -- the second run is moved next to the first
      rw [List.foldl_cons, foldl_move hcomm hl.2 hl.1, hidem s a hl.1]
    · exact ih hl.2 ha (f s b)

/-- Statements all of which were run before have no effect. -/
private theorem foldl_of_subset {l l' : List ε} (hl : ∀ b ∈ l, ok b) (h : ∀ a ∈ l', a ∈ l)
    (s : σ) : l'.foldl f (l.foldl f s) = l.foldl f s := by
  induction l' with
  | nil => rfl
  | cons a l' ih =>
    rw [List.forall_mem_cons] at h
    rw [List.foldl_cons, foldl_absorbs hcomm hidem hl h.1]
    exact ih h.2

/-- **Only which statements are run matters**, when they commute and a repetition has no
effect. -/
theorem foldl_eq_of_mem_iff {l l' : List ε} (hl : ∀ b ∈ l, ok b) (h : ∀ a, a ∈ l ↔ a ∈ l')
    (s : σ) : l.foldl f s = l'.foldl f s := by
  have hl' : ∀ b ∈ l', ok b := fun b hb => hl b ((h b).2 hb)
  have hperm : l'.foldl f (l.foldl f s) = l.foldl f (l'.foldl f s) := by
    rw [← List.foldl_append, ← List.foldl_append]
    refine List.perm_append_comm.foldl_eq' (fun a ha b hb s => ?_) s
    exact hcomm s a b ((List.mem_append.1 ha).elim (hl a) (hl' a))
      ((List.mem_append.1 hb).elim (hl b) (hl' b))
  calc l.foldl f s = l'.foldl f (l.foldl f s) :=
        (foldl_of_subset hcomm hidem hl (fun a => (h a).2) s).symm
    _ = l.foldl f (l'.foldl f s) := hperm
    _ = l'.foldl f s := foldl_of_subset hcomm hidem hl' (fun a => (h a).1) s

end Absorbing

end Passes

end MtpSync
