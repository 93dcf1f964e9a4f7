import Mathlib.Data.List.FinRange
import Mathlib.Logic.Function.Basic
import Std.Data.String.ToInt
import MtpSync.Fetch
import MtpSync.Lib.Int32
import MtpSync.Upload.RoundTrip

/-!
# The cells `QuickSelectData` hands out

For a delivered row `QuickSelectData` makes a `CStringArray` of `nColumn` empty texts and sets the
cells of the columns whose type it knows what to do with: an integer is read with 32 bits, a text
up to its NUL, and nothing is set for NULL, for a floating-point value and for a blob.

- §1 the values of a row and the cells made of them
- §2 a cell is made of the value of its own column
- §3 which values arrive
-/

namespace MtpSync

/-! ## §1 Values and cells -/

/-- A column of a delivered row, by its `sqlite3_column_type`. -/
inductive ColumnValue where
  | integer (n : Int64)
  /-- the bits of the double -/
  | float (bits : UInt64)
  | text (s : String)
  | blob (bytes : List UInt8)
  | null
  deriving DecidableEq

/-- A row with `n` columns. -/
abbrev ColumnRow (n : ℕ) := Fin n → ColumnValue

/-- A `CStringArray` of size `n`. -/
abbrev CellRow (n : ℕ) := Fin n → String

/-- `sqlite3_column_int`, written with `"%d"`. -/
def columnInt (n : Int64) : String := Int.repr n.toInt32.toInt

section Rows

variable {n : ℕ}

/-- The body of `for(i = 0 ; i < nColumn ; i++ )`. -/
def setCell (row : ColumnRow n) (cells : CellRow n) (i : Fin n) : CellRow n :=
  match row i with
  | .integer k => Function.update cells i (columnInt k)
  -- the double is read into a local variable
  | .float _ => cells
  | .text s => Function.update cells i (terminated s)
  | .null => cells
  -- no branch
  | .blob _ => cells

/-- `SetSize(nColumn)`, and the loop over the columns. -/
def fillRow (row : ColumnRow n) : CellRow n :=
  (List.finRange n).foldl (setCell row) fun _ => ""

/-- `strArr_in`, when the loop stands at `c`: every stored row has been written out. -/
def Cursor.strArr_in (c : Cursor (ColumnRow n)) : List (CellRow n) := c.stored.map fillRow

/-- What a cell is to hold of a value. -/
def ColumnValue.Arrives (v : ColumnValue) (cell : String) : Prop :=
  match v with
  | .integer k => cell = Int.repr k.toInt
  | .text s => cell = s
  | .null => cell = ""
  | .float _ | .blob _ => cell ≠ ""

/-- Row by row and column by column, the cells hold the values. -/
def CellsFaithful (rows : List (ColumnRow n)) (cells : List (CellRow n)) : Prop :=
  List.Forall₂ (fun row cell => ∀ i, (row i).Arrives (cell i)) rows cells

end Rows

/-! ## §2 Each cell is of its own column -/

/-- What a value becomes. -/
def ColumnValue.cell : ColumnValue → String
  | .integer k => columnInt k
  | .text s => terminated s
  | .float _ | .blob _ | .null => ""

section Rows

variable {n : ℕ} {row : ColumnRow n}

/-- The turn of column `i` writes cell `i`, if it writes any. -/
private theorem setCell_apply (cells : CellRow n) (i j : Fin n) (h : cells i = "") :
    setCell row cells i j = if j = i then (row i).cell else cells j := by
  unfold setCell
  by_cases hj : j = i
  · subst hj
    rw [if_pos rfl]
    cases hrow : row j with
    | integer k => exact Function.update_self ..
    | text s => exact Function.update_self ..
    | float _ => exact h
    | blob _ => exact h
    | null => exact h
  · rw [if_neg hj]
    cases hrow : row i with
    | integer k => exact Function.update_of_ne hj ..
    | text s => exact Function.update_of_ne hj ..
    | float _ => rfl
    | blob _ => rfl
    | null => rfl

/-- The loop over some columns, each of which is empty before its turn. -/
private theorem foldl_setCell {columns : List (Fin n)} (hnodup : columns.Nodup)
    {cells : CellRow n} (hempty : ∀ i ∈ columns, cells i = "") (j : Fin n) :
    columns.foldl (setCell row) cells j = if j ∈ columns then (row j).cell else cells j := by
  induction columns generalizing cells with
  | nil => simp
  | cons i columns ih =>
    obtain ⟨hi, hnodup⟩ := List.nodup_cons.1 hnodup
    have hhead := @setCell_apply n row cells i
    -- the columns to come are still empty
    have hrest : ∀ k ∈ columns, setCell row cells i k = "" := by
      intro k hk
      rw [hhead k (hempty i List.mem_cons_self), if_neg fun heq : k = i => hi (heq ▸ hk)]
      exact hempty k (List.mem_cons_of_mem i hk)
    rw [List.foldl_cons, ih hnodup hrest, hhead j (hempty i List.mem_cons_self)]
    by_cases hj : j = i
    · subst hj
      simp [hi]
    · simp [hj]

/-- **The cells of a row** are made of its values, each of the one in its column. -/
theorem fillRow_apply (j : Fin n) : fillRow row j = (row j).cell := by
  unfold fillRow
  rw [foldl_setCell (List.nodup_finRange n) (fun _ _ => rfl), if_pos (List.mem_finRange j)]

end Rows

/-- The value as the phone's tables keep it. -/
def ColumnValue.value : ColumnValue → SqliteValue
  | .integer k => .integer k.toInt
  | .text s => .text (terminated s)
  | .float _ | .blob _ => .real
  | .null => .null

/-- A cell is what an upload reads of the stored value. -/
theorem ColumnValue.cell_eq_fetch (v : ColumnValue) : v.cell = v.value.fetch := by
  cases v with
  | integer k =>
    simp only [cell, columnInt, value, SqliteValue.fetch, Int64.toInt_toInt32]
    rfl
  | float _ => rfl
  | text s => rfl
  | blob _ => rfl
  | null => rfl

/-! ## §3 Which values arrive -/

/-- NULL, an integer of 32 bits, or a text without NUL. -/
def ColumnValue.Carried : ColumnValue → Prop
  | .integer k => FitsInt k.toInt
  | .text s => charNUL ∉ s.toList
  | .null => True
  | .float _ | .blob _ => False

instance : DecidablePred ColumnValue.Carried
  | .integer k => inferInstanceAs (Decidable (FitsInt k.toInt))
  | .text s => inferInstanceAs (Decidable (charNUL ∉ s.toList))
  | .null => .isTrue trivial
  | .float _ | .blob _ => .isFalse id

/-- A text ends at its first NUL. -/
private theorem terminated_eq_iff (s : String) : terminated s = s ↔ charNUL ∉ s.toList := by
  refine ⟨fun h hmem => ?_, terminated_of_noNul⟩
  have hlist : s.toList.takeWhile (· ≠ charNUL) = s.toList := by
    refine Eq.trans ?_ (congrArg String.toList h)
    exact String.toList_ofList.symm
  have hall := List.takeWhile_eq_self_iff.1 hlist charNUL hmem
  simp at hall

theorem ColumnValue.arrives_iff (v : ColumnValue) : v.Arrives v.cell ↔ v.Carried := by
  cases v with
  | integer k => exact Int.repr_inj.trans (toInt_toInt32_eq_iff k)
  | float _ => exact ⟨fun h => absurd rfl h, fun h => h.elim⟩
  | text s => exact terminated_eq_iff s
  | blob _ => exact ⟨fun h => absurd rfl h, fun h => h.elim⟩
  | null => exact ⟨fun _ => trivial, fun _ => rfl⟩

/-- What is handed out holds the rows delivered if each of their values arrives. -/
private theorem cellsFaithful_map_iff {n : ℕ} (rows : List (ColumnRow n)) :
    CellsFaithful rows (rows.map fillRow) ↔ ∀ row ∈ rows, ∀ i, (row i).Carried := by
  unfold CellsFaithful
  rw [List.forall₂_map_right_iff, List.forall₂_same]
  refine forall_congr' fun row => forall_congr' fun _ => forall_congr' fun i => ?_
  rw [fillRow_apply, ColumnValue.arrives_iff]

/-- **What `QuickSelectData` hands out with `TRUE`** holds the values of the result if the rows
fetched hold NULLs, integers of 32 bits and texts without NUL only: of a floating-point value and
of a blob nothing arrives, and of a larger integer its low bits. -/
theorem cells_faithful_iff {n : ℕ} (rc : SelectCodes) (rows : List (ColumnRow n)) (count m : ℕ)
    (c : Cursor (ColumnRow n)) (h : rc.quickSelectData rows count m = some (true, c)) :
    CellsFaithful (rows.take count) c.strArr_in ↔
      ∀ row ∈ rows.take count, ∀ i, (row i).Carried := by
  rw [Cursor.strArr_in, (rc.stored_of_true h).1]
  exact cellsFaithful_map_iff _

/-- Every call succeeds. -/
def SelectCodes.allOk : SelectCodes :=
  ⟨true, true, true, fun _ => .advances, fun _ h => absurd h (by decide), true, true⟩

/-- An id, a number and a remark, row by row. -/
def numberedRows : List (ColumnRow 3) :=
  [fun | 0 => .text "r1" | 1 => .integer 7 | 2 => .null,
    fun | 0 => .text "r2" | 1 => .integer (-2147483648) | 2 => .text "",
    fun | 0 => .text "r3" | 1 => .float 4607182418800017408 | 2 => .blob [0]]

/-- The first two arrive; a double and a blob, in the third, do not. -/
theorem numbered_cells_faithful :
    (∃ c, SelectCodes.allOk.quickSelectData numberedRows 2 3 = some (true, c) ∧
      CellsFaithful (numberedRows.take 2) c.strArr_in) ∧
    ∃ c, SelectCodes.allOk.quickSelectData numberedRows 3 4 = some (true, c) ∧
      ¬CellsFaithful (numberedRows.take 3) c.strArr_in := by
  constructor
  · exact ⟨_, rfl, (cells_faithful_iff SelectCodes.allOk numberedRows 2 3 _ rfl).2 (by decide)⟩
  · refine ⟨_, rfl, fun h => ?_⟩
    exact absurd ((cells_faithful_iff SelectCodes.allOk numberedRows 3 4 _ rfl).1 h) (by decide)

/-- One row with one value. -/
def oneValue (v : ColumnValue) : List (ColumnRow 1) := [fun _ => v]

/-- The value `4294967303`, which is `7` more than 32 bits hold, comes out as `7`. -/
theorem large_integer_lost :
    ∃ c, SelectCodes.allOk.quickSelectData (oneValue (.integer 4294967303)) 1 2 = some (true, c) ∧
      ¬CellsFaithful ((oneValue (.integer 4294967303)).take 1) c.strArr_in := by
  refine ⟨_, rfl, fun h => ?_⟩
  have hcarried := (cellsFaithful_map_iff (oneValue (.integer 4294967303))).1 h _
    List.mem_cons_self 0
  exact absurd hcarried.2 (by decide)

end MtpSync
