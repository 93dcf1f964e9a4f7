import MtpSync.Lib.Table

/-!
# The two databases

The phone keeps a SQLite file, the server a MySQL database, with nearly the same tables.
Columns are named as in the source's enumerations (`work_record_CreateUserId` is stored by the
phone under the name `Executor`).  A column holds a text or NULL; keys are texts.

- §1 texts, NULL and the conditions the queries are built from
- §2 the columns of each table
- §3 the statements both databases are changed with
- §4 the phone database and the server database

`work_task.SynchronTime` exists on the server only, is written by one statement and read by
none, and is left out of the table.
-/

namespace MtpSync

/-! ## §1 Texts and conditions -/

/-- A column value: a text, or NULL. -/
abbrev Text := Option String

/-- `col = 's'`: never true of NULL. -/
def Text.eq (v : Text) (s : String) : Bool := v == some s

/-- `col <> 's'`: never true of NULL. -/
def Text.ne (v : Text) (s : String) : Bool := v.any fun t => t != s

/-- `col in ('a','b',…)`: never true of NULL. -/
def Text.isIn (v : Text) (ids : List String) : Bool := v.any ids.contains

/-- `col not in (SELECT Id …)`: NULL is outside the empty set only. -/
def Text.notIn (v : Text) (ids : List String) : Bool :=
  match v with
  | some t => !ids.contains t
  | none => ids.isEmpty

/-- What a client reads: NULL comes back as the empty string. -/
def Text.read (v : Text) : String := v.getD ""

/-- The half year before now, in the texts the queries compare `CreateDate` with. -/
structure Window where
  /-- midnight, `VALIDDAY` days ago -/
  strBeginTime : String
  /-- now -/
  strCurTime : String

/-- `CreateDate >= strBeginTime and CreateDate <= strCurTime`. -/
def Window.contains (w : Window) (v : Text) : Bool :=
  v.any fun t => decide (w.strBeginTime ≤ t) && decide (t ≤ w.strCurTime)

@[simp] theorem Text.eq_iff {v : Text} {s : String} : v.eq s = true ↔ v = some s :=
  beq_iff_eq

theorem Text.eq_false_iff {v : Text} {s : String} : v.eq s = false ↔ v ≠ some s := by
  rw [← Bool.not_eq_true, Text.eq_iff]

theorem Text.isIn_iff {v : Text} {ids : List String} :
    v.isIn ids = true ↔ ∃ t ∈ ids, v = some t := by
  cases v with
  | none => simp [Text.isIn]
  | some t => simp [Text.isIn]

/-- `NOT in` a part of a list. -/
theorem Text.notIn_mono {v : Text} {ids ids' : List String} (h : v.notIn ids = true)
    (hsub : ∀ i ∈ ids', i ∈ ids) : v.notIn ids' = true := by
  cases v with
  | none =>
    have hnil : ids = [] := by simpa [Text.notIn] using h
    subst hnil
    have hnil' : ids' = [] := List.eq_nil_iff_forall_not_mem.2 fun i hi => by
      exact absurd (hsub i hi) List.not_mem_nil
    simp [Text.notIn, hnil']
  | some t =>
    have ht : t ∉ ids := by simpa [Text.notIn] using h
    have ht' : t ∉ ids' := fun hmem => ht (hsub t hmem)
    simpa [Text.notIn] using ht'

/-- Outside a list: another text than each of it. -/
theorem Text.notIn_iff {v : Text} {ids : List String} :
    v.notIn ids = true ↔ ∀ i ∈ ids, ∃ t, v = some t ∧ t ≠ i := by
  cases v with
  | none => simp [Text.notIn, List.eq_nil_iff_forall_not_mem]
  | some t =>
    simp only [Text.notIn, List.contains_eq_mem, Bool.not_eq_true', decide_eq_false_iff_not,
      Option.some_inj, exists_eq_left']
    exact ⟨fun hnot i hi heq => hnot (heq ▸ hi), fun hne hmem => hne t hmem rfl⟩

/-- `v` is outside what is left of `ids` when those in `gone` are gone. -/
def Text.Outside (ids : List String) (gone : String → Prop) (v : Text) : Prop :=
  ∀ i ∈ ids, ¬gone i → ∃ t, v = some t ∧ t ≠ i

/-- `NOT in` what is left. -/
theorem Text.notIn_of_outside {v : Text} {ids ids' : List String} {gone : String → Prop}
    (h : Text.Outside ids gone v) (hleft : ∀ i ∈ ids', i ∈ ids ∧ ¬gone i) :
    v.notIn ids' = true :=
  Text.notIn_iff.2 fun i hi => h i (hleft i hi).1 (hleft i hi).2

theorem Text.outside_of_notIn {v : Text} {ids ids' : List String} {gone : String → Prop}
    (h : v.notIn ids' = true) (hleft : ∀ i ∈ ids, ¬gone i → i ∈ ids') :
    Text.Outside ids gone v :=
  fun i hi hgone => Text.notIn_iff.1 h i (hleft i hi hgone)

theorem Text.isIn_mono {v : Text} {ids ids' : List String} (h : v.isIn ids = true)
    (hsub : ∀ i ∈ ids, i ∈ ids') : v.isIn ids' = true := by
  obtain ⟨t, ht, rfl⟩ := Text.isIn_iff.1 h
  exact Text.isIn_iff.2 ⟨t, hsub t ht, rfl⟩

/-! ## §2 Columns -/

inductive AreasCol where
  | Code | Name | ParentId | CreateDate | CreateUserId | Info | SynchronState | isDelete
  deriving DecidableEq

inductive DeviceInfoCol where
  | RFID | Name | Picture | TypeId | Info | AreaId | SynchronState | CreateDate
  | CreateUserId | ParentId | IsBindRFID
  deriving DecidableEq

inductive WorkTypeCol where
  | Name | ProcessName | Results | SynchronState | CreateDate | CreateUserId | DeviceId
  deriving DecidableEq

inductive WorkTemplateCol where
  | DeviceId | WorkTypeId | ClassName | Number | ProcessName | Results | SynchronState
  | CreateDate | CreateUserId
  deriving DecidableEq

inductive WorkTaskCol where
  | DeviceId | RFId | WorkName | WorkTemplateId | Cycle | StartTime | Executor | State
  | SynchronState | CreateDate | CreateUserId | Level | Frequency | AllId | ExecutorTime
  | ExecutorLevel | TaskRemark | OverdueRemark
  deriving DecidableEq

inductive WorkRecordCol where
  | DeviceId | WorkTaskId | Number | ProcessName | Results | SynchronState | CreateDate
  | CreateUserId | ClassName
  deriving DecidableEq

/-- Server accounts. -/
inductive SysUserCol where
  | user_name | real_name | password | SynchronState | pwd_key | role_id | data_areas
  deriving DecidableEq

inductive SysRoleCol where
  | role_name
  deriving DecidableEq

/-- Phone accounts. -/
inductive UserTableCol where
  | LoginName | Name | Password | Role | AreaName | SynchronState | pwd_key | RoleId
  | data_areas
  deriving DecidableEq

/-- The columns of a table of the phone, in the order of the parameters of its `REPLACE INTO`, which
stand behind the key; those of `areas` that the statement leaves out come last. -/
class Columns (C : Type) where
  /-- the place of a column among the parameters -/
  position : C → ℕ
  all : List C
  mem_all : ∀ c, c ∈ all

instance : Columns AreasCol where
  position c := c.ctorIdx + 1
  all := [.Code, .Name, .ParentId, .CreateDate, .CreateUserId, .Info, .SynchronState, .isDelete]
  mem_all c := by cases c <;> decide

instance : Columns DeviceInfoCol where
  position c := c.ctorIdx + 1
  all := [.RFID, .Name, .Picture, .TypeId, .Info, .AreaId, .SynchronState, .CreateDate,
    .CreateUserId, .ParentId, .IsBindRFID]
  mem_all c := by cases c <;> decide

instance : Columns WorkTypeCol where
  position c := c.ctorIdx + 1
  all := [.Name, .ProcessName, .Results, .SynchronState, .CreateDate, .CreateUserId, .DeviceId]
  mem_all c := by cases c <;> decide

instance : Columns WorkTemplateCol where
  position c := c.ctorIdx + 1
  all := [.DeviceId, .WorkTypeId, .ClassName, .Number, .ProcessName, .Results, .SynchronState,
    .CreateDate, .CreateUserId]
  mem_all c := by cases c <;> decide

instance : Columns WorkTaskCol where
  position c := c.ctorIdx + 1
  all := [.DeviceId, .RFId, .WorkName, .WorkTemplateId, .Cycle, .StartTime, .Executor, .State,
    .SynchronState, .CreateDate, .CreateUserId, .Level, .Frequency, .AllId, .ExecutorTime,
    .ExecutorLevel, .TaskRemark, .OverdueRemark]
  mem_all c := by cases c <;> decide

instance : Columns WorkRecordCol where
  position c := c.ctorIdx + 1
  all := [.DeviceId, .WorkTaskId, .Number, .ProcessName, .Results, .SynchronState, .CreateDate,
    .CreateUserId, .ClassName]
  mem_all c := by cases c <;> decide

instance : Columns UserTableCol where
  position c := c.ctorIdx + 1
  all := [.LoginName, .Name, .Password, .Role, .AreaName, .SynchronState, .pwd_key, .RoleId,
    .data_areas]
  mem_all c := by cases c <;> decide

/-- A row with columns `C`. -/
abbrev SqlRow (C : Type) := Row String C Text

/-- Two rows are compared column by column. -/
instance {C : Type} [Columns C] : DecidableEq (SqlRow C) := fun r r' =>
  decidable_of_iff (r.Id = r'.Id ∧ ∀ c ∈ (Columns.all : List C), r.col c = r'.col c) <| by
    rw [Row.ext_iff, funext_iff]
    exact and_congr_right' ⟨fun h c => h c (Columns.mem_all c), fun h c _ => h c⟩

/-- A table with columns `C`. -/
abbrev SqlTable (C : Type) := Table String C Text

/-- The keys of a table, `SELECT Id FROM t`. -/
def Table.ids {C : Type} (t : SqlTable C) : List String := t.rows.map Row.Id

theorem Table.mem_ids {C : Type} {t : SqlTable C} {i : String} :
    i ∈ t.ids ↔ ∃ r ∈ t, r.Id = i :=
  List.mem_map

/-- A row as a client reads it: no NULLs left. -/
def Row.read {C : Type} (r : SqlRow C) : SqlRow C :=
  { r with col := fun c => some (r.col c).read }

@[simp] theorem Row.read_Id {C : Type} (r : SqlRow C) : r.read.Id = r.Id := rfl

/-- The columns after `SET c = 's'`. -/
def setText {C : Type} [DecidableEq C] (c : C) (s : String) (col : C → Text) : C → Text :=
  fun c' => if c' = c then some s else col c'

/-- A row with one column set. -/
def Row.setCol {C : Type} [DecidableEq C] (r : SqlRow C) (c : C) (s : String) : SqlRow C :=
  { r with col := setText c s r.col }

section SetCol

variable {C : Type} [DecidableEq C]

@[simp] theorem Row.setCol_Id (r : SqlRow C) (c : C) (s : String) : (r.setCol c s).Id = r.Id :=
  rfl

@[simp] theorem Row.setCol_self (r : SqlRow C) (c : C) (s : String) :
    (r.setCol c s).col c = some s :=
  if_pos rfl

theorem Row.setCol_of_ne (r : SqlRow C) {c c' : C} (h : c' ≠ c) (s : String) :
    (r.setCol c s).col c' = r.col c' :=
  if_neg h

@[simp] theorem Row.setCol_setCol (r : SqlRow C) (c : C) (s : String) :
    (r.setCol c s).setCol c s = r.setCol c s := by
  simp only [Row.setCol, Row.mk.injEq, true_and]
  funext c'
  by_cases h : c' = c <;> simp [setText, h]

end SetCol

/-! ## §3 Statements on one table -/

/-- `UPDATE t SET c = 's' WHERE Id = 'i'`. -/
def Table.setWhereId {C : Type} [DecidableEq C] (t : SqlTable C) (c : C) (s i : String) :
    SqlTable C :=
  t.updateWhere (fun r => r.Id == i) (setText c s)

/-- `DELETE FROM t WHERE Id = 'i'`. -/
def Table.deleteId {C : Type} (t : SqlTable C) (i : String) : SqlTable C :=
  t.deleteWhere fun r => r.Id == i

/-- `DELETE FROM t WHERE c = 's'`. -/
def Table.deleteEq {C : Type} (t : SqlTable C) (c : C) (s : String) : SqlTable C :=
  t.deleteWhere fun r => (r.col c).eq s

/-- `DELETE FROM t WHERE c NOT in (…)`. -/
def Table.deleteNotIn {C : Type} (t : SqlTable C) (c : C) (ids : List String) : SqlTable C :=
  t.deleteWhere fun r => (r.col c).notIn ids

section Statements

variable {C : Type} {t : SqlTable C} {r : SqlRow C} {i : String}

@[simp] theorem Table.mem_deleteId : r ∈ t.deleteId i ↔ r ∈ t ∧ r.Id ≠ i := by
  rw [Table.deleteId, Table.mem_deleteWhere, beq_eq_false_iff_ne]

@[simp] theorem Table.mem_deleteEq {c : C} {s : String} :
    r ∈ t.deleteEq c s ↔ r ∈ t ∧ r.col c ≠ some s := by
  rw [Table.deleteEq, Table.mem_deleteWhere, Text.eq_false_iff]

@[simp] theorem Table.mem_deleteNotIn {c : C} {ids : List String} :
    r ∈ t.deleteNotIn c ids ↔ r ∈ t ∧ (r.col c).notIn ids = false := by
  rw [Table.deleteNotIn, Table.mem_deleteWhere]

variable [DecidableEq C]

theorem Table.mem_setWhereId {c : C} {s : String} :
    r ∈ t.setWhereId c s i ↔ ∃ x ∈ t, (if x.Id = i then x.setCol c s else x) = r := by
  simp only [Table.setWhereId, Table.mem_updateWhere, beq_iff_eq, Row.setCol]

/-- What a run of `UPDATE t SET c = 's' WHERE Id = ?` leaves. -/
theorem Table.mem_foldl_setWhereId {c : C} {s : String} {ids : List String} :
    r ∈ ids.foldl (fun t i => t.setWhereId c s i) t ↔
      ∃ x ∈ t, (if x.Id ∈ ids then x.setCol c s else x) = r := by
  induction ids generalizing t with
  | nil => simp
  | cons i ids ih =>
    -- one update, then the rest: a row hit twice is as if hit once
    have hstep : ∀ x : SqlRow C,
        (if (if x.Id = i then x.setCol c s else x).Id ∈ ids then
          (if x.Id = i then x.setCol c s else x).setCol c s
          else if x.Id = i then x.setCol c s else x) =
        if x.Id ∈ i :: ids then x.setCol c s else x := by
      intro x
      by_cases hi : x.Id = i
      · simp [hi]
      · simp [hi]
    rw [List.foldl_cons, ih]
    constructor
    · rintro ⟨_, hy, rfl⟩
      obtain ⟨x, hx, rfl⟩ := Table.mem_setWhereId.1 hy
      exact ⟨x, hx, (hstep x).symm⟩
    · rintro ⟨x, hx, rfl⟩
      exact ⟨_, Table.mem_setWhereId.2 ⟨x, hx, rfl⟩, hstep x⟩

end Statements

/-! ## §4 Databases -/

/-- The tables of the phone's SQLite file. -/
structure SqliteDB where
  areas : SqlTable AreasCol
  device_info : SqlTable DeviceInfoCol
  work_type : SqlTable WorkTypeCol
  work_template : SqlTable WorkTemplateCol
  work_task : SqlTable WorkTaskCol
  work_record : SqlTable WorkRecordCol
  user_table : SqlTable UserTableCol

/-- The server's tables. -/
structure MysqlDB where
  areas : SqlTable AreasCol
  device_info : SqlTable DeviceInfoCol
  work_type : SqlTable WorkTypeCol
  work_template : SqlTable WorkTemplateCol
  work_task : SqlTable WorkTaskCol
  work_record : SqlTable WorkRecordCol
  sys_user : SqlTable SysUserCol
  sys_role : SqlTable SysRoleCol

/-- A phone file with the tables and no rows. -/
def SqliteDB.empty : SqliteDB :=
  ⟨Table.empty, Table.empty, Table.empty, Table.empty, Table.empty, Table.empty, Table.empty⟩

/-- A server database without rows. -/
def MysqlDB.empty : MysqlDB :=
  ⟨Table.empty, Table.empty, Table.empty, Table.empty, Table.empty, Table.empty, Table.empty,
    Table.empty⟩

end MtpSync
