import Mathlib.Data.List.Nodup
import Mathlib.Data.List.Basic

/-!
# Tables with a primary key

A table is a list of rows no two of which have the same key.  The four statements a client
uses on such tables are defined here with the membership lemma each of them is used through:

- `replaceInto`: insert a row, in place of the row of the same key if there is one;
- `deleteWhere`: delete the rows that meet a condition;
- `updateWhere`: change the columns of the rows that meet a condition;
- `select`: the rows that meet a condition.

Every operation carries the proof that keys stay distinct, so a table with a duplicate key
cannot be built.  Row order carries no meaning in SQL: `SameRows` compares tables by content.
-/

namespace MtpSync

/-- A row: its key and its other columns. -/
@[ext]
structure Row (κ C V : Type) where
  /-- the primary key -/
  Id : κ
  /-- the other columns -/
  col : C → V

/-- Rows with pairwise distinct keys. -/
structure Table (κ C V : Type) where
  /-- the rows, in the order they were stored -/
  rows : List (Row κ C V)
  /-- the key is unique -/
  nodup : (rows.map Row.Id).Nodup

namespace Table

variable {κ C V : Type}

/-! ## §1 Membership -/

instance : Membership (Row κ C V) (Table κ C V) where
  mem t r := r ∈ t.rows

theorem mem_def {t : Table κ C V} {r : Row κ C V} : r ∈ t ↔ r ∈ t.rows := Iff.rfl

/-- The key determines the row. -/
theorem eq_of_Id_eq {t : Table κ C V} {r r' : Row κ C V} (h : r ∈ t) (h' : r' ∈ t)
    (hId : r.Id = r'.Id) : r = r' :=
  List.inj_on_of_nodup_map t.nodup h h' hId

/-- Two tables with the same content. -/
def SameRows (t t' : Table κ C V) : Prop := ∀ r, r ∈ t ↔ r ∈ t'

/-- The table without rows. -/
def empty : Table κ C V := ⟨[], List.nodup_nil⟩

/-! ## §2 Statements -/

/-- `SELECT … WHERE p`. -/
def select (t : Table κ C V) (p : Row κ C V → Bool) : List (Row κ C V) := t.rows.filter p

/-- `DELETE … WHERE p`. -/
def deleteWhere (t : Table κ C V) (p : Row κ C V → Bool) : Table κ C V where
  rows := t.rows.filter fun r => !p r
  nodup := t.nodup.sublist (List.filter_sublist.map Row.Id)

/-- `UPDATE … SET col := f col WHERE p`. -/
def updateWhere (t : Table κ C V) (p : Row κ C V → Bool) (f : (C → V) → C → V) :
    Table κ C V where
  rows := t.rows.map fun r => if p r then { r with col := f r.col } else r
  nodup := by
    have h : (t.rows.map fun r => if p r then { r with col := f r.col } else r).map Row.Id
        = t.rows.map Row.Id := by
      rw [List.map_map]
      refine List.map_congr_left fun r _ => ?_
      by_cases hp : p r <;> simp [hp]
    rw [h]
    exact t.nodup

variable [DecidableEq κ]

/-- `REPLACE INTO`: the row of the same key, if any, makes way for the new one. -/
def replaceInto (t : Table κ C V) (r : Row κ C V) : Table κ C V where
  rows := t.rows.filter (fun x => x.Id ≠ r.Id) ++ [r]
  nodup := by
    rw [List.map_append, List.map_singleton]
    refine List.Nodup.append (t.nodup.sublist (List.filter_sublist.map Row.Id))
      (List.nodup_singleton _) ?_
    intro k hk hr
    rw [List.mem_singleton] at hr
    obtain ⟨x, hx, rfl⟩ := List.mem_map.1 hk
    exact (of_decide_eq_true (List.mem_filter.1 hx).2) hr

omit [DecidableEq κ] in
@[simp] theorem mem_select {t : Table κ C V} {p : Row κ C V → Bool} {r : Row κ C V} :
    r ∈ t.select p ↔ r ∈ t ∧ p r = true :=
  List.mem_filter

omit [DecidableEq κ] in
@[simp] theorem mem_deleteWhere {t : Table κ C V} {p : Row κ C V → Bool} {r : Row κ C V} :
    r ∈ t.deleteWhere p ↔ r ∈ t ∧ p r = false := by
  simp only [mem_def, deleteWhere, List.mem_filter, Bool.not_eq_true']

omit [DecidableEq κ] in
theorem mem_updateWhere {t : Table κ C V} {p : Row κ C V → Bool} {f : (C → V) → C → V}
    {r : Row κ C V} :
    r ∈ t.updateWhere p f ↔ ∃ x ∈ t, (if p x then { x with col := f x.col } else x) = r := by
  simp only [mem_def, updateWhere, List.mem_map]

@[simp] theorem mem_replaceInto {t : Table κ C V} {x r : Row κ C V} :
    r ∈ t.replaceInto x ↔ (r ∈ t ∧ r.Id ≠ x.Id) ∨ r = x := by
  simp only [mem_def, replaceInto, List.mem_append, List.mem_filter, List.mem_singleton,
    decide_eq_true_eq]

/-! ## §3 Row by row -/

/-- `REPLACE INTO` for each row of a list, in order. -/
def replaceAll (t : Table κ C V) (rs : List (Row κ C V)) : Table κ C V :=
  rs.foldl replaceInto t

/-- With distinct keys, the new rows are all there and push out exactly the rows of their
keys. -/
theorem mem_replaceAll {rs : List (Row κ C V)} (hrs : (rs.map Row.Id).Nodup)
    {t : Table κ C V} {r : Row κ C V} :
    r ∈ t.replaceAll rs ↔ r ∈ rs ∨ (r ∈ t ∧ r.Id ∉ rs.map Row.Id) := by
  induction rs generalizing t with
  | nil => simp [replaceAll]
  | cons x xs ih =>
    rw [List.map_cons, List.nodup_cons] at hrs
    have hstep : t.replaceAll (x :: xs) = (t.replaceInto x).replaceAll xs := rfl
    rw [hstep, ih hrs.2, mem_replaceInto, List.map_cons, List.mem_cons, List.mem_cons]
    constructor
    · rintro (h | ⟨⟨h, hx⟩ | rfl, hxs⟩)
      · exact Or.inl (Or.inr h)
      · exact Or.inr ⟨h, by simp [hx, hxs]⟩
      · exact Or.inl (Or.inl rfl)
    · rintro ((rfl | h) | ⟨h, hn⟩)
      · exact Or.inr ⟨Or.inr rfl, hrs.1⟩
      · exact Or.inl h
      · rw [not_or] at hn
        exact Or.inr ⟨Or.inl ⟨h, hn.1⟩, hn.2⟩

end Table

end MtpSync
