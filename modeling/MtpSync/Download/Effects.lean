import MtpSync.Switch

/-!
# What the calls of a run to the phone do

A run to the phone touches the temporary file, the server's tables and the queue.  Every call it
is made of either leaves them alone or changes them in one way that depends on them only; this
module says for each call which way that is, so that a property of the three is kept by a whole
run as soon as these changes keep it.

- §1 statements repeated for a list
- §2 statements that only delete
- §3 the view of a run
- §4 single calls
- §5 the routines
- §6 the delete pass
-/

namespace MtpSync

/-! ## §1 Statements repeated for a list -/

/-- Repeating a statement that works on one part. -/
private theorem foldl_part {σ τ ρ : Type} (get : σ → τ) (put : τ → σ → σ) (g : τ → ρ → τ)
    (hget : ∀ t s, get (put t s) = t) (hput : ∀ t t' s, put t (put t' s) = put t s)
    (hself : ∀ s, put (get s) s = s) (rows : List ρ) (s : σ) :
    rows.foldl (fun s r => put (g (get s) r) s) s = put (rows.foldl g (get s)) s := by
  induction rows generalizing s with
  | nil => exact (hself s).symm
  | cons r rows ih => rw [List.foldl_cons, ih, hget, hput, List.foldl_cons]

namespace Table

variable {C : Type}

/-- `DELETE FROM t WHERE Id = ?` for each of `ids`. -/
def deleteIds (t : SqlTable C) (ids : List String) : SqlTable C := ids.foldl Table.deleteId t

@[simp] theorem mem_deleteIds {t : SqlTable C} {ids : List String} {r : SqlRow C} :
    r ∈ t.deleteIds ids ↔ r ∈ t ∧ r.Id ∉ ids := by
  induction ids generalizing t with
  | nil => simp [deleteIds]
  | cons i ids ih =>
    have hstep : t.deleteIds (i :: ids) = (t.deleteId i).deleteIds ids := rfl
    rw [hstep, ih, mem_deleteId, List.mem_cons, not_or, and_assoc]

/-- `DELETE FROM t WHERE c = ?` for each of `ids`. -/
def deleteEqs (t : SqlTable C) (c : C) (ids : List String) : SqlTable C :=
  ids.foldl (fun t i => t.deleteEq c i) t

@[simp] theorem mem_deleteEqs {t : SqlTable C} {c : C} {ids : List String} {r : SqlRow C} :
    r ∈ t.deleteEqs c ids ↔ r ∈ t ∧ ∀ i ∈ ids, r.col c ≠ some i := by
  induction ids generalizing t with
  | nil => simp [deleteEqs]
  | cons i ids ih =>
    have hstep : t.deleteEqs c (i :: ids) = (t.deleteEq c i).deleteEqs c ids := rfl
    rw [hstep, ih, mem_deleteEq, List.forall_mem_cons, and_assoc]

/-- Only rows of the table and rows of the list are there after a copy. -/
theorem mem_of_mem_replaceAll {rs : List (SqlRow C)} {t : SqlTable C} {r : SqlRow C}
    (h : r ∈ t.replaceAll rs) : r ∈ t ∨ r ∈ rs := by
  induction rs generalizing t with
  | nil => exact .inl h
  | cons x rs ih =>
    rcases ih (t := t.replaceInto x) h with h | h
    · rcases mem_replaceInto.1 h with ⟨h, -⟩ | rfl
      · exact .inl h
      · exact .inr List.mem_cons_self
    · exact .inr (List.mem_cons_of_mem x h)

/-- A row stays unless one of the list has its key. -/
theorem mem_replaceAll_of_not_mem {rs : List (SqlRow C)} {t : SqlTable C} {r : SqlRow C}
    (h : r ∈ t) (hr : ∀ x ∈ rs, x.Id ≠ r.Id) : r ∈ t.replaceAll rs := by
  induction rs generalizing t with
  | nil => exact h
  | cons x rs ih =>
    rw [List.forall_mem_cons] at hr
    exact ih (mem_replaceInto.2 (.inl ⟨h, hr.1.symm⟩)) hr.2

/-- A key stays, and the keys of the list are there. -/
theorem mem_ids_replaceAll {rs : List (SqlRow C)} {t : SqlTable C} {i : String} :
    i ∈ (t.replaceAll rs).ids ↔ i ∈ t.ids ∨ i ∈ rs.map Row.Id := by
  induction rs generalizing t with
  | nil => simp [replaceAll]
  | cons x rs ih =>
    have hstep : t.replaceAll (x :: rs) = (t.replaceInto x).replaceAll rs := rfl
    rw [hstep, ih, List.map_cons, List.mem_cons, ← or_assoc]
    refine or_congr_left ?_
    rw [mem_ids, mem_ids]
    constructor
    · rintro ⟨r, hr, rfl⟩
      rcases mem_replaceInto.1 hr with ⟨hr, -⟩ | rfl
      · exact .inl ⟨r, hr, rfl⟩
      · exact .inr rfl
    · rintro (⟨r, hr, rfl⟩ | rfl)
      · by_cases hx : r.Id = x.Id
        · exact ⟨x, mem_replaceInto.2 (.inr rfl), hx.symm⟩
        · exact ⟨r, mem_replaceInto.2 (.inl ⟨hr, hx⟩), rfl⟩
      · exact ⟨x, mem_replaceInto.2 (.inr rfl), rfl⟩

/-- The keys of a copy are those of the rows copied, whatever the binds return. -/
theorem mem_ids_replaceAll_bound {ρ : Type} [Columns C] {rc : QuickRc} {rows : List ρ}
    {toPhone : ρ → SqlRow C} {t : SqlTable C} {i : String}
    (h : i ∈ (t.replaceAll (rc.bound (rows.map toPhone))).ids) :
    i ∈ t.ids ∨ ∃ r ∈ rows, (toPhone r).Id = i := by
  refine (mem_ids_replaceAll.1 h).imp_right fun hi => ?_
  obtain ⟨x, hx, rfl⟩ := List.mem_map.1 hi
  obtain ⟨y, hy, hId⟩ := (QuickRc.mem_bound_row hx).1
  obtain ⟨r, hr, rfl⟩ := List.mem_map.1 hy
  exact ⟨r, hr, hId⟩

end Table

namespace SqliteDB

theorem foldl_replaceDevice (rows : List (SqlRow DeviceInfoCol)) (d : SqliteDB) :
    rows.foldl replaceDevice d = { d with device_info := d.device_info.replaceAll rows } :=
  foldl_part (fun d => d.device_info) (fun t d => { d with device_info := t })
    Table.replaceInto (fun _ _ => rfl) (fun _ _ _ => rfl) (fun _ => rfl) rows d

theorem foldl_replaceWorkType (rows : List (SqlRow WorkTypeCol)) (d : SqliteDB) :
    rows.foldl replaceWorkType d = { d with work_type := d.work_type.replaceAll rows } :=
  foldl_part (fun d => d.work_type) (fun t d => { d with work_type := t })
    Table.replaceInto (fun _ _ => rfl) (fun _ _ _ => rfl) (fun _ => rfl) rows d

theorem foldl_replaceTemplate (rows : List (SqlRow WorkTemplateCol)) (d : SqliteDB) :
    rows.foldl replaceTemplate d = { d with work_template := d.work_template.replaceAll rows } :=
  foldl_part (fun d => d.work_template) (fun t d => { d with work_template := t })
    Table.replaceInto (fun _ _ => rfl) (fun _ _ _ => rfl) (fun _ => rfl) rows d

theorem foldl_replaceTask (rows : List (SqlRow WorkTaskCol)) (d : SqliteDB) :
    rows.foldl replaceTask d = { d with work_task := d.work_task.replaceAll rows } :=
  foldl_part (fun d => d.work_task) (fun t d => { d with work_task := t })
    Table.replaceInto (fun _ _ => rfl) (fun _ _ _ => rfl) (fun _ => rfl) rows d

theorem foldl_replaceRecord (rows : List (SqlRow WorkRecordCol)) (d : SqliteDB) :
    rows.foldl replaceRecord d = { d with work_record := d.work_record.replaceAll rows } :=
  foldl_part (fun d => d.work_record) (fun t d => { d with work_record := t })
    Table.replaceInto (fun _ _ => rfl) (fun _ _ _ => rfl) (fun _ => rfl) rows d

theorem foldl_replaceUser (rows : List (SqlRow UserTableCol)) (d : SqliteDB) :
    rows.foldl replaceUser d = { d with user_table := d.user_table.replaceAll rows } :=
  foldl_part (fun d => d.user_table) (fun t d => { d with user_table := t })
    Table.replaceInto (fun _ _ => rfl) (fun _ _ _ => rfl) (fun _ => rfl) rows d

theorem foldl_replaceArea (rows : List (SqlRow AreasCol)) (d : SqliteDB) :
    rows.foldl replaceArea d = { d with areas := d.areas.replaceAll rows } :=
  foldl_part (fun d => d.areas) (fun t d => { d with areas := t })
    Table.replaceInto (fun _ _ => rfl) (fun _ _ _ => rfl) (fun _ => rfl) rows d

theorem foldl_deleteDevice (ids : List String) (d : SqliteDB) :
    ids.foldl deleteDevice d = { d with device_info := d.device_info.deleteIds ids } :=
  foldl_part (fun d => d.device_info) (fun t d => { d with device_info := t })
    Table.deleteId (fun _ _ => rfl) (fun _ _ _ => rfl) (fun _ => rfl) ids d

theorem foldl_deleteWorkType (ids : List String) (d : SqliteDB) :
    ids.foldl deleteWorkType d = { d with work_type := d.work_type.deleteIds ids } :=
  foldl_part (fun d => d.work_type) (fun t d => { d with work_type := t })
    Table.deleteId (fun _ _ => rfl) (fun _ _ _ => rfl) (fun _ => rfl) ids d

theorem foldl_deleteTemplate (ids : List String) (d : SqliteDB) :
    ids.foldl deleteTemplate d = { d with work_template := d.work_template.deleteIds ids } :=
  foldl_part (fun d => d.work_template) (fun t d => { d with work_template := t })
    Table.deleteId (fun _ _ => rfl) (fun _ _ _ => rfl) (fun _ => rfl) ids d

theorem foldl_deleteTask (ids : List String) (d : SqliteDB) :
    ids.foldl deleteTask d = { d with work_task := d.work_task.deleteIds ids } :=
  foldl_part (fun d => d.work_task) (fun t d => { d with work_task := t })
    Table.deleteId (fun _ _ => rfl) (fun _ _ _ => rfl) (fun _ => rfl) ids d

theorem foldl_deleteSubtasks (ids : List String) (d : SqliteDB) :
    ids.foldl deleteSubtasks d = { d with work_task := d.work_task.deleteEqs .AllId ids } :=
  foldl_part (fun d => d.work_task) (fun t d => { d with work_task := t })
    (fun t i => t.deleteEq .AllId i) (fun _ _ => rfl) (fun _ _ _ => rfl) (fun _ => rfl) ids d

theorem foldl_deleteRecordsOf (ids : List String) (d : SqliteDB) :
    ids.foldl deleteRecordsOf d =
      { d with work_record := d.work_record.deleteEqs .WorkTaskId ids } :=
  foldl_part (fun d => d.work_record) (fun t d => { d with work_record := t })
    (fun t i => t.deleteEq .WorkTaskId i) (fun _ _ => rfl) (fun _ _ _ => rfl) (fun _ => rfl)
    ids d

theorem foldl_deleteUser (ids : List String) (d : SqliteDB) :
    ids.foldl deleteUser d = { d with user_table := d.user_table.deleteIds ids } :=
  foldl_part (fun d => d.user_table) (fun t d => { d with user_table := t })
    Table.deleteId (fun _ _ => rfl) (fun _ _ _ => rfl) (fun _ => rfl) ids d

theorem foldl_deleteUsersOf (ids : List String) (d : SqliteDB) :
    ids.foldl deleteUsersOf d = { d with user_table := d.user_table.deleteEqs .data_areas ids } :=
  foldl_part (fun d => d.user_table) (fun t d => { d with user_table := t })
    (fun t i => t.deleteEq .data_areas i) (fun _ _ => rfl) (fun _ _ _ => rfl) (fun _ => rfl)
    ids d

theorem foldl_deleteArea (ids : List String) (d : SqliteDB) :
    ids.foldl deleteArea d = { d with areas := d.areas.deleteIds ids } :=
  foldl_part (fun d => d.areas) (fun t d => { d with areas := t })
    Table.deleteId (fun _ _ => rfl) (fun _ _ _ => rfl) (fun _ => rfl) ids d

end SqliteDB

/-! ## §2 Statements that only delete -/

/-- Every row of `db` is one of `db₀`. -/
structure MysqlDB.Sub (db db₀ : MysqlDB) : Prop where
  areas : ∀ r ∈ db.areas, r ∈ db₀.areas
  device_info : ∀ r ∈ db.device_info, r ∈ db₀.device_info
  work_type : ∀ r ∈ db.work_type, r ∈ db₀.work_type
  work_template : ∀ r ∈ db.work_template, r ∈ db₀.work_template
  work_task : ∀ r ∈ db.work_task, r ∈ db₀.work_task
  work_record : ∀ r ∈ db.work_record, r ∈ db₀.work_record
  sys_user : ∀ r ∈ db.sys_user, r ∈ db₀.sys_user
  sys_role : ∀ r ∈ db.sys_role, r ∈ db₀.sys_role

theorem MysqlDB.Sub.refl (db : MysqlDB) : db.Sub db :=
  ⟨fun _ h => h, fun _ h => h, fun _ h => h, fun _ h => h, fun _ h => h, fun _ h => h,
    fun _ h => h, fun _ h => h⟩

theorem MysqlDB.Sub.trans {db₂ db₁ db₀ : MysqlDB} (h : db₂.Sub db₁) (h' : db₁.Sub db₀) :
    db₂.Sub db₀ where
  areas r hr := h'.areas r (h.areas r hr)
  device_info r hr := h'.device_info r (h.device_info r hr)
  work_type r hr := h'.work_type r (h.work_type r hr)
  work_template r hr := h'.work_template r (h.work_template r hr)
  work_task r hr := h'.work_task r (h.work_task r hr)
  work_record r hr := h'.work_record r (h.work_record r hr)
  sys_user r hr := h'.sys_user r (h.sys_user r hr)
  sys_role r hr := h'.sys_role r (h.sys_role r hr)

/-! More ids, asked of a server with more rows, bring more rows. -/

namespace MysqlDB.Sub

variable {db db₀ : MysqlDB} {ids ids' : List String}

theorem newDevices (h : db.Sub db₀) (hsub : ∀ i ∈ ids, i ∈ ids') (fw : TongbuFw) (win : Window) :
    ∀ r ∈ db.newDevices fw win ids, r ∈ db₀.newDevices fw win ids' := by
  intro r hr
  rw [MysqlDB.newDevices, Table.mem_select, Bool.and_eq_true, Bool.and_eq_true] at hr ⊢
  refine ⟨h.device_info r hr.1, ⟨?_, hr.2.1.2⟩, hr.2.2⟩
  cases fw with
  | areas => exact Text.isIn_mono hr.2.1.1 hsub
  | devices => simpa using hsub r.Id (by simpa using hr.2.1.1)

theorem newWorkTypes (h : db.Sub db₀) (hsub : ∀ i ∈ ids, i ∈ ids') (win : Window) :
    ∀ r ∈ db.newWorkTypes win ids, r ∈ db₀.newWorkTypes win ids' := by
  intro r hr
  rw [MysqlDB.newWorkTypes, Table.mem_select, Bool.and_eq_true] at hr ⊢
  exact ⟨h.work_type r hr.1, hr.2.1, Text.isIn_mono hr.2.2 hsub⟩

/-- A template needs its type. -/
theorem newTemplates (h : db.Sub db₀) (hsub : ∀ i ∈ ids, i ∈ ids') (win : Window) :
    ∀ r ∈ db.newTemplates win ids, r ∈ db₀.newTemplates win ids' := by
  intro r hr
  rw [MysqlDB.newTemplates, Table.mem_select, Bool.and_eq_true, List.any_eq_true] at hr ⊢
  obtain ⟨hmem, hstate, tk, htk, hjoin⟩ := hr
  rw [Bool.and_eq_true, Bool.and_eq_true] at hjoin
  refine ⟨h.work_template r hmem, hstate, tk, h.work_type tk htk, ?_⟩
  rw [Bool.and_eq_true, Bool.and_eq_true]
  exact ⟨⟨Text.isIn_mono hjoin.1.1 hsub, hjoin.1.2⟩, hjoin.2⟩

theorem newTasks (h : db.Sub db₀) (hsub : ∀ i ∈ ids, i ∈ ids') (win : Window) :
    ∀ r ∈ db.newTasks win ids, r ∈ db₀.newTasks win ids' := by
  intro r hr
  rw [MysqlDB.newTasks, Table.mem_select, Bool.and_eq_true, Bool.and_eq_true,
    Bool.and_eq_true] at hr ⊢
  exact ⟨h.work_task r hr.1, ⟨⟨Text.isIn_mono hr.2.1.1.1 hsub, hr.2.1.1.2⟩, hr.2.1.2⟩, hr.2.2⟩

theorem newRecords (h : db.Sub db₀) (win : Window) :
    ∀ r ∈ db.newRecords win, r ∈ db₀.newRecords win := by
  intro r hr
  rw [MysqlDB.newRecords, Table.mem_select] at hr ⊢
  exact ⟨h.work_record r hr.1, hr.2⟩

/-- A user needs its area and its role. -/
theorem newUsers (h : db.Sub db₀) (hsub : ∀ i ∈ ids, i ∈ ids') :
    ∀ x ∈ db.newUsers ids, x ∈ db₀.newUsers ids' := by
  intro x hx
  simp only [MysqlDB.newUsers, List.mem_flatMap, List.mem_map, Table.mem_select,
    Bool.and_eq_true] at hx ⊢
  obtain ⟨u, ⟨hu, hstate, hin⟩, a, ⟨ha, harea⟩, r, ⟨hr, hrole⟩, rfl⟩ := hx
  exact ⟨u, ⟨h.sys_user u hu, hstate, Text.isIn_mono hin hsub⟩, a, ⟨h.areas a ha, harea⟩, r,
    ⟨h.sys_role r hr, hrole⟩, rfl⟩

end MysqlDB.Sub

/-- The statement marks one row. -/
def MyStmt.isMark : MyStmt → Bool
  | .mark _ _ | .markWorkTaskState2 _ => true
  | _ => false

theorem markTaskStmt_isMark (r : SqlRow WorkTaskCol) :
    (markTaskStmt r).isMark = true := by
  rw [markTaskStmt]
  split
  · rfl
  · rfl

/-- The statement is a `delete`. -/
def MyStmt.deletes : MyStmt → Bool
  | .replaceWorkRecord _ | .replaceWorkTask _ _ | .updateRFID _ _ | .mark _ _
  | .markWorkTaskState2 _ => false
  | _ => true

theorem MyStmt.exec_sub {st : MyStmt} (h : st.deletes = true) (db : MysqlDB) :
    (st.exec db).Sub db := by
  have hself := MysqlDB.Sub.refl db
  cases st with
  | replaceWorkRecord | replaceWorkTask | updateRFID | mark | markWorkTaskState2 => cases h
  | deleteDeviceInfo i =>
    exact { hself with device_info := fun r hr => (Table.mem_deleteId.1 hr).1 }
  | deleteAreas i => exact { hself with areas := fun r hr => (Table.mem_deleteId.1 hr).1 }
  | deleteSysUserOf i => exact { hself with sys_user := fun r hr => (Table.mem_deleteEq.1 hr).1 }
  | deleteSysUserReal => exact { hself with sys_user := fun r hr => (Table.mem_deleteEq.1 hr).1 }
  | deleteWorkTask i => exact { hself with work_task := fun r hr => (Table.mem_deleteId.1 hr).1 }
  | deleteWorkRecordOf i =>
    exact { hself with work_record := fun r hr => (Table.mem_deleteEq.1 hr).1 }
  | deleteOrphanWorkType =>
    exact { hself with work_type := fun r hr => (Table.mem_deleteNotIn.1 hr).1 }
  | deleteOrphanWorkTemplate =>
    exact { hself with work_template := fun r hr => (Table.mem_deleteNotIn.1 hr).1 }
  | deleteOrphanWorkTask =>
    exact { hself with work_task := fun r hr => (Table.mem_deleteNotIn.1 hr).1 }
  | deleteOrphanWorkRecord =>
    exact { hself with work_record := fun r hr => (Table.mem_deleteNotIn.1 hr).1 }

/-- The server's tables after statements. -/
def MysqlDB.execAll (db : MysqlDB) (sts : List MyStmt) : MysqlDB :=
  sts.foldl (fun db st => st.exec db) db

theorem MysqlDB.execAll_append (db : MysqlDB) (a b : List MyStmt) :
    db.execAll (a ++ b) = (db.execAll a).execAll b :=
  List.foldl_append

@[simp] theorem Server.execAll_db (s : Server) (sts : List MyStmt) :
    (s.execAll sts).db = s.db.execAll sts := by
  induction sts generalizing s with
  | nil => rfl
  | cons st sts ih => exact ih (s.exec st)

theorem MysqlDB.execAll_sub {sts : List MyStmt} (h : ∀ st ∈ sts, st.deletes = true)
    (db : MysqlDB) : (db.execAll sts).Sub db := by
  induction sts generalizing db with
  | nil => exact .refl db
  | cons st sts ih =>
    rw [List.forall_mem_cons] at h
    exact (ih h.2 (st.exec db)).trans (MyStmt.exec_sub h.1 db)

/-! ## §3 The view of a run -/

/-- What a run to the phone works on: the temporary file, the server's tables, the queue. -/
structure View where
  file : DbFile SqliteDB
  db : MysqlDB
  queue : List MyStmt

/-- What there is to see of a state. -/
def World.view (w : World) : View := ⟨w.sq.file, w.server.db, w.updateMysqlData⟩

namespace View

/-- `sqlite3_open` has been here. -/
def created (v : View) : View := { v with file := v.file.created }

/-- Change the tables of the file. -/
def onFile (f : SqliteDB → SqliteDB) (v : View) : View := { v with file := v.file.map f }

/-- Queue statements. -/
def enqueue (sts : List MyStmt) (v : View) : View := { v with queue := v.queue ++ sts }

/-- The server executes statements. -/
def execute (sts : List MyStmt) (v : View) : View := { v with db := v.db.execAll sts }

end View

/-- Outside a transaction `I` is kept, and so is being outside. -/
def KeepsView (I : View → Prop) (w w' : World) : Prop :=
  w.sq.tx = none ∧ I w.view → w'.sq.tx = none ∧ I w'.view

section Keeps

variable {α ρ τ : Type} {I : View → Prop}

instance : Std.Refl (KeepsView I) := ⟨fun _ h => h⟩

instance : IsTrans World (KeepsView I) := ⟨fun _ _ _ h h' hI => h' (h hI)⟩

open Act

/-! ## §4 Single calls -/

/-- `OpenDataBase` may create the file. -/
theorem keeps_openDataBase (hcreated : ∀ v, I v → I v.created) (ok : Bool) :
    Keeps (KeepsView I) (onSq (openDataBase ok)) := by
  rintro ⟨⟨file, tx, connected, gate⟩, server, queue⟩ ⟨htx, hI⟩
  cases gate with
  | false => exact ⟨htx, hI⟩
  | true =>
    cases ok with
    | false => exact ⟨rfl, hI⟩
    | true => exact ⟨rfl, hcreated _ hI⟩

theorem keeps_closeDataBase : Keeps (KeepsView I) (onSq closeDataBase) :=
  fun _ h => ⟨rfl, h.2⟩

/-- **`QuickInsertData`** outside a transaction, on a run's state. -/
theorem onSq_quickInsertData_run [Bound ρ] (rc : QuickRc) (f : SqliteDB → ρ → SqliteDB)
    (rows : List ρ) (w : World) (htx : w.sq.tx = none) :
    (onSq (quickInsertData rc f (rows.map some))).run w =
      if w.sq.connected && w.sq.file.tables.isSome && rc.ok rows.length then
        (.ok true, { w with
          sq := { w.sq with file := w.sq.file.map fun d => (rc.bound rows).foldl f d } })
      else (.ok false, { w with sq := w.sq.closed }) := by
  have hrun := quickInsertData_run rc f rows w.sq htx
  split at hrun
  · next hok => rw [if_pos hok, onSq_run hrun]
  · next hok => rw [if_neg hok, onSq_run hrun]

/-- It executes its statement for every row as it was bound, or nothing. -/
theorem keeps_quickInsertData [Bound ρ] {f : SqliteDB → ρ → SqliteDB} {rows : List ρ}
    (rc : QuickRc) (h : ∀ v, I v → I (v.onFile fun d => (rc.bound rows).foldl f d)) :
    Keeps (KeepsView I) (onSq (quickInsertData rc f (rows.map some))) := by
  rintro w ⟨htx, hI⟩
  rw [onSq_quickInsertData_run rc f rows w htx]
  split
  · exact ⟨htx, h _ hI⟩
  · exact ⟨rfl, hI⟩

/-- **`DeleteData`** executes the first of its statements. -/
theorem keeps_deleteData {fs : List (SqliteDB → SqliteDB)}
    (h : ∀ f ∈ fs, ∀ v, I v → I (v.onFile f)) (rc : ℕ → Bool) (i : ℕ) :
    Keeps (KeepsView I) (onSq (deleteData rc i fs)) := by
  induction fs generalizing i with
  | nil => exact fun _ hI => hI
  | cons f fs ih =>
    rintro ⟨⟨file, tx, connected, gate⟩, server, queue⟩ ⟨htx, hI⟩
    cases htx
    rw [List.forall_mem_cons] at h
    -- either this delete is done and the rest follows, or the loop ends here
    by_cases hok : (connected && rc i && (DbFile.tables file).isSome) = true
    · have hrun : (onSq (deleteData rc i (f :: fs))).run
          ⟨⟨file, none, connected, gate⟩, server, queue⟩ =
          (onSq (deleteData rc (i + 1) fs)).run
            ⟨⟨file.map f, none, connected, gate⟩, server, queue⟩ := by
        rw [onSq, onSq, zoom_run, zoom_run, deleteData, bind_run_ok (read_run _)]
        rw [if_pos (by simpa [Sq.content] using hok), bind_run_ok (modify_run _ _)]
        rfl
      rw [hrun]
      exact ih h.2 (i + 1) _ ⟨rfl, h.1 _ hI⟩
    · have hrun : (onSq (deleteData rc i (f :: fs))).run
          ⟨⟨file, none, connected, gate⟩, server, queue⟩ =
          (.ok false, ⟨⟨file, none, connected, gate⟩, server, queue⟩) := by
        rw [onSq, zoom_run, deleteData, bind_run_ok (read_run _)]
        rw [if_neg (by simpa [Sq.content] using hok)]
        rfl
      rw [hrun]
      exact ⟨rfl, hI⟩

/-- What is done with the rows of a query starts where the query was made. -/
theorem keeps_select {q : MysqlDB → List ρ} {f : Option (List ρ) → Act World α}
    (hnone : Keeps (KeepsView I) (f none))
    (hsome : ∀ w, w.sq.tx = none ∧ I w.view →
      ((f (some (q w.server.db))).run w).2.sq.tx = none ∧
        I ((f (some (q w.server.db))).run w).2.view)
    (rc : SelectRc) : Keeps (KeepsView I) (onServer (select rc q) >>= f) := by
  intro w hI
  cases rc with
  | ok => exact hsome w hI
  | queryFails => exact hnone w hI
  | storeFails => exact hI

/-- The same, as long as the result of the query stays what it was. -/
theorem keeps_select_fixed {q : MysqlDB → List ρ} {f : Option (List ρ) → Act World α}
    (hnone : Keeps (KeepsView I) (f none))
    (hsome : ∀ rows, Keeps (KeepsView fun v => I v ∧ q v.db = rows) (f (some rows)))
    (rc : SelectRc) : Keeps (KeepsView I) (onServer (select rc q) >>= f) := by
  refine keeps_select hnone (fun w hI => ?_) rc
  have hkeeps := hsome (q w.server.db) w ⟨hI.1, hI.2, rfl⟩
  exact ⟨hkeeps.1, hkeeps.2.1⟩

theorem onServer_updateMysqlDB_run (rc : ℕ → Bool) (sts : List MyStmt) (w : World) :
    (onServer (updateMysqlDB rc sts)).run w =
      (.ok (Batch.reported 99 rc 0 sts),
        { w with server := w.server.execAll (Batch.served 99 rc 0 sts) }) :=
  onServer_run (updateMysqlDB_run rc sts w.server)

/-- The queue is served in batches. -/
theorem updateQueued_run (rc : ℕ → Bool) (w : World) :
    (updateQueued rc).run w = (.ok (Batch.reported 99 rc 0 w.updateMysqlData),
      { w with server := w.server.execAll (Batch.served 99 rc 0 w.updateMysqlData) }) :=
  onServer_updateMysqlDB_run rc w.updateMysqlData w

/-- **`UpdateMysqlDB`** executes some of its statements. -/
theorem keeps_updateMysqlDB {sts : List MyStmt}
    (h : ∀ v, I v → ∀ done, (∀ st ∈ done, st ∈ sts) → I (v.execute done)) (rc : ℕ → Bool) :
    Keeps (KeepsView I) (onServer (updateMysqlDB rc sts)) := by
  rintro w ⟨htx, hI⟩
  rw [onServer_updateMysqlDB_run]
  refine ⟨htx, ?_⟩
  have hview : World.view { w with server := w.server.execAll (Batch.served 99 rc 0 sts) } =
      w.view.execute (Batch.served 99 rc 0 sts) := by
    simp [World.view, View.execute]
  rw [hview]
  exact h _ hI _ fun st hst => Batch.mem_of_mem_served hst

/-- What the server executes of a text is among its statements. -/
theorem mem_of_mem_okPrefix {rc : ℕ → Bool} {i : ℕ} {sts : List MyStmt} {st : MyStmt}
    (h : st ∈ Batch.okPrefix rc i sts) : st ∈ sts := by
  obtain ⟨j, hj, -⟩ := Batch.mem_okPrefix.1 h
  exact List.mem_of_getElem? hj

/-- **`Query`** and **`OneQuery`** execute some of their statements. -/
theorem keeps_query {sts : List MyStmt}
    (h : ∀ v, I v → ∀ done, (∀ st ∈ done, st ∈ sts) → I (v.execute done)) (rc : ℕ → Bool)
    (i : ℕ) : Keeps (KeepsView I) (onServer (query rc i sts)) := by
  rintro w ⟨htx, hI⟩
  rw [onServer_run (query_run rc i sts w.server)]
  refine ⟨htx, ?_⟩
  have hview : World.view { w with server := w.server.execAll (Batch.okPrefix rc i sts) } =
      w.view.execute (Batch.okPrefix rc i sts) := by
    simp [World.view, View.execute]
  rw [hview]
  exact h _ hI _ fun st hst => mem_of_mem_okPrefix hst

theorem keeps_addTail {sts : List MyStmt} (h : ∀ v, I v → I (v.enqueue sts)) :
    Keeps (KeepsView I) (addTail sts) :=
  fun _ hI => ⟨hI.1, h _ hI.2⟩

/-! ## §5 The routines -/

/-- What a routine does to the view that copies the rows of `q`, as they are bound, and queues their
marks. -/
def View.copied [Bound τ] (rc : QuickRc) (q : MysqlDB → List ρ) (toPhone : ρ → τ)
    (replace : SqliteDB → τ → SqliteDB) (mark : ρ → List MyStmt) (v : View) : View :=
  (v.onFile fun d => (rc.bound ((q v.db).map toPhone)).foldl replace d).enqueue
    ((q v.db).flatMap mark)

/-- What a routine does to the view that deletes what `q` names, as it is bound. -/
def View.purged (rc : QuickRc) (q : MysqlDB → List String) (delete : SqliteDB → String → SqliteDB)
    (v : View) : View :=
  v.onFile fun d => (rc.bound (q v.db)).foldl delete d

/-- The insert of `n` rows goes through: the file has tables, and every call succeeds. -/
def QuickRc.Stores (rc : QuickRc) (n : ℕ) (v : View) : Prop :=
  v.file.tables.isSome = true ∧ rc.ok n = true

/-- **A copy** stores the rows and queues their marks, or does nothing. -/
theorem keeps_copyNew [Bound τ] {q : MysqlDB → List ρ} {toPhone : ρ → τ}
    {replace : SqliteDB → τ → SqliteDB} {mark : ρ → List MyStmt}
    (rc : CopyNewRc)
    (h : ∀ v, I v → rc.insert.Stores (q v.db).length v →
      I (v.copied rc.insert q toPhone replace mark)) :
    Keeps (KeepsView I) (copyNew rc q toPhone replace mark) := by
  unfold copyNew
  refine keeps_select ?_ (fun w hI => ?_) rc.select
  · exact keeps_pure _
  -- nothing to copy, or one insert of all rows
  cases hrows : q w.server.db with
  | nil => exact hI
  | cons x xs =>
    dsimp only
    have hrun := onSq_quickInsertData_run rc.insert replace ((x :: xs).map toPhone) w hI.1
    split at hrun
    · next hok =>
      rw [bind_run_ok hrun, if_pos rfl, bind_run_ok (a := ()) rfl]
      refine ⟨hI.1, ?_⟩
      simp only [Bool.and_eq_true, List.length_map] at hok
      have hq : q w.view.db = x :: xs := hrows
      have hkept := h _ hI.2 ⟨hok.1.2, by rw [hq]; exact hok.2⟩
      rw [View.copied, hq] at hkept
      exact hkept
    · rw [bind_run_ok hrun, if_neg (by decide)]
      exact ⟨rfl, hI.2⟩

/-- **A delete** deletes all that the query names, or nothing. -/
theorem keeps_purge {q : MysqlDB → List String} {delete : SqliteDB → String → SqliteDB}
    (rc : PurgeRc) (h : ∀ v, I v → I (v.purged rc.delete q delete)) :
    Keeps (KeepsView I) (purge rc q delete) := by
  unfold purge
  refine keeps_select ?_ (fun w hI => ?_) rc.select
  · exact keeps_pure _
  cases hrows : q w.server.db with
  | nil => exact hI
  | cons x xs =>
    dsimp only
    have hrun := onSq_quickInsertData_run rc.delete delete (x :: xs) w hI.1
    split at hrun
    · rw [bind_run_ok hrun, if_pos rfl]
      refine ⟨hI.1, ?_⟩
      have hkept := h _ hI.2
      have hq : q w.view.db = x :: xs := hrows
      rw [View.purged, hq] at hkept
      exact hkept
    · rw [bind_run_ok hrun, if_neg (by decide)]
      exact ⟨rfl, hI.2⟩

/-- What is done between opening and closing. -/
theorem keeps_opened (hcreated : ∀ v, I v → I v.created) {body : Act World Bool}
    (hbody : Keeps (KeepsView I) body) (ok : Bool) :
    Keeps (KeepsView I) (onSq (openDataBase ok) >>= fun o => if o then body else pure false) :=
  (keeps_openDataBase hcreated ok).bind fun _ => Keeps.ite hbody (keeps_pure false)

/-- What is done when the file is there. -/
theorem keeps_whenExists {body : Act World Bool} (hbody : Keeps (KeepsView I) body) :
    Keeps (KeepsView I) (read >>= fun w =>
      if !w.sq.file.pathFileExists then pure false else body) :=
  keeps_read.bind fun _ => Keeps.ite (keeps_pure false) hbody

variable (hcreated : ∀ v, I v → I v.created)

include hcreated

theorem keeps_deviceInfoToPhone (ids : List String) (fw : TongbuFw) (rc : ToPhoneRc)
    (hcopy : ∀ v, I v → rc.copy.insert.Stores (v.db.newDevices fw rc.win ids).length v →
      I (v.copied rc.copy.insert (MysqlDB.newDevices fw rc.win ids) deviceToPhone
        SqliteDB.replaceDevice fun r => [.mark .device_info r.Id]))
    (hpurge : ∀ v, I v →
      I (v.purged rc.purge.delete (MysqlDB.deletedDevices fw rc.win ids) SqliteDB.deleteDevice)) :
    Keeps (KeepsView I) (synchrodataDeviceInfoToPhone ids fw rc) :=
  keeps_opened hcreated
    ((keeps_copyNew rc.copy hcopy).bind fun _ => (keeps_purge rc.purge hpurge).bind fun _ =>
      keeps_closeDataBase.bind fun _ => keeps_pure _) rc.openDb

theorem keeps_workTypeToPhone (ids : List String) (rc : ToPhoneRc)
    (hcopy : ∀ v, I v → rc.copy.insert.Stores (v.db.newWorkTypes rc.win ids).length v →
      I (v.copied rc.copy.insert (MysqlDB.newWorkTypes rc.win ids) Row.read
        SqliteDB.replaceWorkType fun r => [.mark .work_type r.Id]))
    (hpurge : ∀ v, I v →
      I (v.purged rc.purge.delete (MysqlDB.deletedWorkTypes rc.win) SqliteDB.deleteWorkType)) :
    Keeps (KeepsView I) (synchrodataWorkTypeToPhone ids rc) :=
  keeps_whenExists <| keeps_opened hcreated
    ((keeps_copyNew rc.copy hcopy).bind fun _ => (keeps_purge rc.purge hpurge).bind fun _ =>
      keeps_closeDataBase.bind fun _ => keeps_pure _) rc.openDb

theorem keeps_workTemplateToPhone (ids : List String) (rc : ToPhoneRc)
    (hcopy : ∀ v, I v → rc.copy.insert.Stores (v.db.newTemplates rc.win ids).length v →
      I (v.copied rc.copy.insert (MysqlDB.newTemplates rc.win ids) Row.read
        SqliteDB.replaceTemplate fun r => [.mark .work_template r.Id]))
    (hpurge : ∀ v, I v →
      I (v.purged rc.purge.delete (MysqlDB.deletedTemplates rc.win) SqliteDB.deleteTemplate)) :
    Keeps (KeepsView I) (synchrodataWorkTemplateToPhone ids rc) :=
  keeps_whenExists <| keeps_opened hcreated
    ((keeps_copyNew rc.copy hcopy).bind fun _ => (keeps_purge rc.purge hpurge).bind fun _ =>
      Keeps.ite (keeps_pure _) (keeps_closeDataBase.bind fun _ => keeps_pure _)) rc.openDb

/-- The two passes that delete tasks are looked at on their own. -/
theorem keeps_workTaskToPhone (ids : List String) (rc : TaskToPhoneRc)
    (h2 : Keeps (KeepsView I) (deleteTasks2 rc)) (h3 : Keeps (KeepsView I) (deleteTasks3 rc))
    (hcopy : ∀ v, I v → rc.copy.insert.Stores (v.db.newTasks rc.win ids).length v →
      I (v.copied rc.copy.insert (MysqlDB.newTasks rc.win ids) taskToPhone
        SqliteDB.replaceTask fun r => [markTaskStmt r])) :
    Keeps (KeepsView I) (synchrodataWorkTaskToPhone ids rc) :=
  keeps_whenExists <| keeps_opened hcreated
    (h2.bind fun _ => h3.bind fun _ => (keeps_copyNew rc.copy hcopy).bind fun _ =>
      keeps_closeDataBase.bind fun _ => keeps_pure _) rc.openDb

theorem keeps_workRecordToPhone (rc : RecordToPhoneRc)
    (hcopy : ∀ v, I v → rc.copy.insert.Stores (v.db.newRecords rc.win).length v →
      I (v.copied rc.copy.insert (MysqlDB.newRecords rc.win) recordToPhone
        SqliteDB.replaceRecord fun r => [.mark .work_record r.Id])) :
    Keeps (KeepsView I) (synchrodataWorkRecordToPhone rc) :=
  keeps_whenExists <| keeps_opened hcreated
    ((keeps_copyNew rc.copy hcopy).bind fun _ => keeps_closeDataBase.bind fun _ => keeps_pure _)
    rc.openDb

theorem keeps_areasToPhone (shown : List String) (rc : UserToPhoneRc)
    (hcopy : ∀ v, I v → rc.copy.insert.Stores (v.db.shownAreas shown).length v →
      I (v.copied rc.copy.insert (MysqlDB.shownAreas shown) areaToPhone SqliteDB.replaceArea
        fun _ => []))
    (hpurge : ∀ v, I v → I (v.purged rc.purge.delete MysqlDB.deletedAreas SqliteDB.deleteArea)) :
    Keeps (KeepsView I) (synchrodataAreasToPhone shown rc) := by
  have hrest : ∀ copied : Stage, Keeps (KeepsView I) (do
      let purged ← purge rc.purge MysqlDB.deletedAreas SqliteDB.deleteArea
      onSq closeDataBase
      pure (decide (copied = .stored) && decide (purged = .stored))) := fun copied =>
    (keeps_purge rc.purge hpurge).bind fun _ => keeps_closeDataBase.bind fun _ => keeps_pure _
  exact keeps_opened hcreated
    (Keeps.ite ((keeps_pure _).bind hrest) ((keeps_copyNew rc.copy hcopy).bind hrest)) rc.openDb

theorem keeps_sysUser (ids : List String) (rc : UserToPhoneRc)
    (hqueue : ∀ v, I v → I (v.enqueue ((v.db.newUsers ids).map fun r => .mark .sys_user r.Id)))
    (hstore : ∀ v, I v → I (v.onFile fun d =>
      (rc.copy.insert.bound (v.db.newUsers ids)).foldl SqliteDB.replaceUser d))
    (hpurge : ∀ v, I v →
      I (v.purged rc.purge.delete (MysqlDB.deletedUsers ids) SqliteDB.deleteUser)) :
    Keeps (KeepsView I) (synchrodataSysUser ids rc) := by
  have hcopy : Keeps (KeepsView I) (copyUsers rc.copy ids) := by
    unfold copyUsers
    refine keeps_select_fixed ?_ (fun rows => ?_) rc.copy.select
    · exact keeps_pure _
    · cases rows with
      | nil => exact keeps_pure _
      | cons x xs =>
        refine (keeps_addTail ?_).bind fun _ => (keeps_quickInsertData rc.copy.insert ?_).bind
          fun _ => Keeps.ite (keeps_pure _) (keeps_pure _)
        · rintro v ⟨hI, hrows⟩
          exact ⟨hrows ▸ hqueue v hI, hrows⟩
        · rintro v ⟨hI, hrows⟩
          exact ⟨hrows ▸ hstore v hI, hrows⟩
  exact keeps_whenExists <| keeps_opened hcreated
    (hcopy.bind fun _ => (keeps_purge rc.purge hpurge).bind fun _ =>
      keeps_closeDataBase.bind fun _ => keeps_pure _) rc.openDb

omit hcreated

/-- **Deleting tasks** is four statements, none of whose results is looked at. -/
theorem keeps_deleteTasks {ids : List String} (rc : TaskDeleteRc)
    (htasks : ∀ v, I v → I (v.onFile fun d => (rc.tasks.bound ids).foldl SqliteDB.deleteTask d))
    (hsubtasks : ∀ v, I v →
      I (v.onFile fun d => (rc.subtasks.bound ids).foldl SqliteDB.deleteSubtasks d))
    (hrecords : ∀ v, I v →
      I (v.onFile fun d => (rc.records.bound ids).foldl SqliteDB.deleteRecordsOf d))
    (htaskless : ∀ v, I v → I (v.onFile SqliteDB.deleteTasklessRecords)) :
    Keeps (KeepsView I) (deleteTasks rc ids) :=
  (keeps_quickInsertData rc.tasks htasks).bind fun _ =>
    (keeps_quickInsertData rc.subtasks hsubtasks).bind fun _ =>
    (keeps_quickInsertData rc.records hrecords).bind fun _ =>
    (keeps_deleteData (by simpa using htaskless) rc.taskless 0).bind fun _ => keeps_pure _

/-- **The first pass**, whatever tasks it deletes. -/
theorem keeps_deleteTasks2 {rc : TaskToPhoneRc}
    (h : ∀ ids, Keeps (KeepsView I) (deleteTasks rc.delete2 ids)) :
    Keeps (KeepsView I) (deleteTasks2 rc) := by
  unfold deleteTasks2
  refine keeps_select ?_ (fun w hI => ?_) rc.select2
  · exact keeps_pure _
  cases w.server.db.deletedTasks "2" with
  | nil => exact hI
  | cons i rest => exact ((h (i :: rest)).bind fun _ => keeps_pure true) w hI

/-- **The second pass**, whatever tasks it deletes. -/
theorem keeps_deleteTasks3 {rc : TaskToPhoneRc}
    (h : ∀ ids, Keeps (KeepsView I) (deleteTasks rc.delete3 ids))
    (hserver : ∀ (ids : List String) (v : View), I v → ∀ done,
      (∀ st ∈ done, st ∈ ids.flatMap deleteTaskStmts) → I (v.execute done)) :
    Keeps (KeepsView I) (deleteTasks3 rc) := by
  unfold deleteTasks3
  refine keeps_select ?_ (fun w hI => ?_) rc.select3
  · exact keeps_pure _
  cases w.server.db.deletedTasks "3" with
  | nil => exact hI
  | cons i rest =>
    exact ((h (i :: rest)).bind fun _ => (keeps_updateMysqlDB (hserver (i :: rest))
      rc.update3).bind fun _ => keeps_pure true) w hI

/-- The server's deletes of tasks are deletes. -/
theorem deletes_of_mem_deleteTaskStmts {ids : List String} {done : List MyStmt}
    (h : ∀ st ∈ done, st ∈ ids.flatMap deleteTaskStmts) : ∀ st ∈ done, st.deletes = true := by
  intro st hst
  obtain ⟨i, -, hi⟩ := List.mem_flatMap.1 (h st hst)
  rcases List.mem_cons.1 hi with rfl | hi
  · rfl
  · rw [List.mem_singleton.1 hi]
    rfl

/-- The chunks of a block, from chunk `k` on. -/
theorem keeps_forChunks {routine : ℕ → List String → Act World Bool}
    {chunks : List (List String)} {k : ℕ}
    (h : ∀ j ids, chunks[j]? = some ids → Keeps (KeepsView I) (routine (k + j) ids)) :
    Keeps (KeepsView I) (forChunks routine k chunks) := by
  induction chunks generalizing k with
  | nil => exact keeps_pure true
  | cons chunk chunks ih =>
    have hrest : ∀ ret : Bool, Keeps (KeepsView I) (do
        let ret' ← forChunks routine (k + 1) chunks
        pure (ret && ret')) := by
      refine fun ret => (ih fun j ids hids => ?_).bind fun _ => keeps_pure _
      rw [Nat.add_assoc, Nat.add_comm 1 j]
      exact h (j + 1) ids hids
    exact Keeps.ite ((keeps_pure true).bind hrest) ((h 0 chunk rfl).bind hrest)

/-! ## §6 The delete pass -/

theorem keeps_deleteDevices (rc : DeleteAreaRc) (a : DeleteArys)
    (hdelete : ∀ v, I v → I (v.onFile fun d =>
      (rc.devices.bound (a.strAryDevices ++ a.strAryDevicesWant)).foldl SqliteDB.deleteDevice d))
    (horphans : a.strAryDevices ++ a.strAryDevicesWant ≠ [] →
      ∀ f ∈ SqliteDB.deleteOrphans, ∀ v, I v → I (v.onFile f))
    (hserver : ∀ v, I v → ∀ done, (∀ st ∈ done, st ∈ a.strAryDevices.map .deleteDeviceInfo) →
      I (v.execute done))
    (hserverOrphans : ∀ v, I v → ∀ done, (∀ st ∈ done, st ∈ deleteOrphanStmts) →
      I (v.execute done)) :
    Keeps (KeepsView I) (deleteDevices rc a) := by
  unfold deleteDevices
  split
  · exact keeps_pure ()
  · next hne =>
    refine (keeps_quickInsertData rc.devices hdelete).bind fun _ =>
      (keeps_deleteData (horphans hne) rc.orphans 0).bind fun _ => Keeps.ite ?_ (keeps_pure ())
    exact (keeps_updateMysqlDB hserver rc.updateDevices).bind fun _ =>
      (keeps_query hserverOrphans rc.queryOrphans 0).bind fun _ => keeps_pure ()

theorem keeps_deleteAreas (rc : DeleteAreaRc) (a : DeleteArys)
    (hdelete : ∀ v, I v → I (v.onFile fun d =>
      (rc.areas.bound (a.strAryAreas ++ a.strAryAreasWant)).foldl SqliteDB.deleteArea d))
    (husers : ∀ v, I v → I (v.onFile fun d =>
      (rc.users.bound (a.strAryAreas ++ a.strAryAreasWant)).foldl SqliteDB.deleteUsersOf d))
    (hserver : ∀ v, I v → ∀ done, (∀ st ∈ done, st ∈ a.strAryAreas.flatMap deleteAreaStmts) →
      I (v.execute done)) :
    Keeps (KeepsView I) (deleteAreas rc a) :=
  Keeps.ite (keeps_pure true) <|
    (keeps_quickInsertData rc.areas hdelete).bind fun _ =>
    (keeps_quickInsertData rc.users husers).bind fun _ =>
    Keeps.ite (keeps_updateMysqlDB hserver rc.updateAreas) (keeps_pure false)

theorem keeps_deleteUsers (rc : DeleteAreaRc)
    (hpurge : ∀ v, I v → I (v.purged rc.marked MysqlDB.usersToDelete SqliteDB.deleteUser))
    (hserver : ∀ v, I v → ∀ done, (∀ st ∈ done, st ∈ [MyStmt.deleteSysUserReal]) →
      I (v.execute done)) :
    Keeps (KeepsView I) (deleteUsers rc) :=
  (keeps_purge ⟨rc.selectUsers, rc.marked⟩ hpurge).bind fun _ =>
    (keeps_query hserver rc.oneQuery 0).bind fun _ => keeps_pure _

/-- The whole pass, of the arrays its tree gives. -/
theorem keeps_deleteAreaAndDevice (hcreated : ∀ v, I v → I v.created) (o : MapOrder)
    (tree : DeleteTree) (rc : DeleteAreaRc)
    (hdevices : Keeps (KeepsView I) (deleteDevices rc (tree.arys o)))
    (hareas : Keeps (KeepsView I) (deleteAreas rc (tree.arys o)))
    (husers : Keeps (KeepsView I) (deleteUsers rc)) :
    Keeps (KeepsView I) (deleteAreaAndDevice o tree rc) := by
  cases tree with
  | nullptr => exact keeps_pure true
  | node i t f s child sibling =>
    exact keeps_whenExists <| keeps_opened hcreated
      (hdevices.bind fun _ => hareas.bind fun _ => husers.bind fun _ =>
        keeps_closeDataBase.bind fun _ => keeps_pure _) rc.openDb

/-! ## §7 A whole run -/

/-- A chunk holds some of the ids. -/
theorem mem_of_mem_getArrayItems {ids chunk : List String} (h : chunk ∈ getArrayItems ids)
    {i : String} (hi : i ∈ chunk) : i ∈ ids := by
  have hloop : ∀ (n : ℕ) (rest : List String), chunk ∈ getArrayItemsLoop n rest → i ∈ rest := by
    intro n
    induction n with
    | zero => exact fun rest hchunk => absurd hchunk List.not_mem_nil
    | succ n ih =>
      intro rest hchunk
      rw [getArrayItemsLoop] at hchunk
      rcases List.mem_cons.1 hchunk with rfl | hchunk
      · exact List.mem_of_mem_take ((List.takeWhile_prefix _).subset hi)
      · exact List.mem_of_mem_drop (ih _ hchunk)
  exact hloop _ _ h

/-- A state with `I`, after the server has executed some of what is queued. -/
def Ends (I : View → Prop) (w : World) : Prop :=
  ∃ v, I v ∧ ∃ done, (∀ st ∈ done, st ∈ v.queue) ∧ w.view = v.execute done

theorem Ends.of_view {w : World} (h : I w.view) : Ends I w :=
  ⟨w.view, h, [], fun _ h => absurd h List.not_mem_nil, rfl⟩

variable {w : World} (hI : I w.view) (htx : w.sq.tx = none)
  (hclear : ∀ v, I v → I { v with queue := [] })

include hI htx hclear

/-- A block does what its chunks do, and then the server executes some of what was queued. -/
theorem ends_chunked {routine : ℕ → List String → Act World Bool} {ids : List String}
    (h : ∀ k chunk, (getArrayItems ids)[k]? = some chunk → Keeps (KeepsView I) (routine k chunk))
    (update : ℕ → Bool) : Ends I ((chunked routine update ids).run w).2 := by
  have hchunks : Keeps (KeepsView I) (forChunks routine 0 (getArrayItems ids)) :=
    keeps_forChunks fun k chunk hk => by rw [Nat.zero_add]; exact h k chunk hk
  have hkeeps := hchunks { w with updateMysqlData := [] } ⟨htx, hclear _ hI⟩
  have hremove : (removeAll).run w = (.ok (), { w with updateMysqlData := [] }) := rfl
  rw [chunked, bind_run_ok hremove]
  rcases hrun : (forChunks routine 0 (getArrayItems ids)).run { w with updateMysqlData := [] }
    with ⟨e | ret, w'⟩
  · rw [hrun] at hkeeps
    rw [bind_run_error hrun]
    exact .of_view hkeeps.2
  · rw [hrun] at hkeeps
    have hupdate : (updateQueued update).run w' =
        (onServer (updateMysqlDB update w'.updateMysqlData)).run w' := rfl
    rw [bind_run_ok hrun, bind_run_ok (hupdate.trans (onServer_updateMysqlDB_run _ _ _))]
    refine ⟨w'.view, hkeeps.2, Batch.served 99 update 0 w'.updateMysqlData,
      fun st hst => Batch.mem_of_mem_served hst, ?_⟩
    simp [World.view, View.execute]

omit hI in
/-- **`BeginSwitchData`** to the phone: what its delete pass keeps and leads to, and its routines
keep, holds until the server executes what was queued. -/
theorem ends_beginSwitchData (sel : Selection) (mode : RadioChoose) (rc : SwitchRc)
    {P : View → Prop} (hP : P { w.view with queue := [] }) (hPI : ∀ v, P v → I v)
    (hpass : Keeps (KeepsView P) (deleteAreaAndDevice sel.mapOrder sel.m_deleteTree rc.deleteArea))
    (huser : mode = .radio_user →
      ∀ k ids, (getArrayItems (findChildID sel.m_treeCtrl_curItem))[k]? = some ids →
        Keeps (KeepsView I) (synchrodataSysUser ids (rc.user k)))
    (hareas : mode = .radio_devices →
      Keeps (KeepsView I) (synchrodataAreasToPhone sel.shownAreas rc.areas))
    (hdevices : mode = .radio_devices →
      ∀ k ids, (getArrayItems sel.deviceScope)[k]? = some ids →
        Keeps (KeepsView I) (synchrodataDeviceInfoToPhone ids sel.fw (rc.devices k).toPhone))
    (hwork : mode = .radio_work →
      ∀ k ids, (getArrayItems (findChildTypeID sel.m_treeCtrl_curItem))[k]? = some ids →
        Keeps (KeepsView I) (workChunk .tongbu_to_phone (rc.work k) ids)) :
    Ends I ((beginSwitchData sel .tongbu_to_phone mode rc).run w).2 := by
  have hremove : (removeAll).run w = (.ok (), { w with updateMysqlData := [] }) := rfl
  unfold beginSwitchData
  rw [bind_run_ok hremove]
  cases rc.init with
  | false => exact .of_view (hPI _ hP)
  | true =>
    have hkeeps := hpass { w with updateMysqlData := [] } ⟨htx, hP⟩
    -- the pass comes first, in every mode
    rcases hrun : (deleteAreaAndDevice sel.mapOrder sel.m_deleteTree rc.deleteArea).run
      { w with updateMysqlData := [] } with ⟨e | ret, w'⟩
    · rw [hrun] at hkeeps
      rw [if_pos rfl, bind_run_error hrun]
      exact .of_view (hPI _ hkeeps.2)
    · rw [hrun] at hkeeps
      replace hkeeps : w'.sq.tx = none ∧ I w'.view := ⟨hkeeps.1, hPI _ hkeeps.2⟩
      rw [if_pos rfl, bind_run_ok hrun]
      -- then one block, which ends with the queue
      cases mode with
      | radio_user =>
        dsimp only [userBlock]
        split
        · exact .of_view hkeeps.2
        · split
          · exact ends_chunked hkeeps.2 hkeeps.1 hclear (huser rfl) rc.update
          · exact .of_view hkeeps.2
      | radio_devices =>
        have hkeeps' := hareas rfl w' hkeeps
        dsimp only [devicesBlock]
        rcases hrun' : (synchrodataAreasToPhone sel.shownAreas rc.areas).run w'
          with ⟨e | ret', w''⟩
        · rw [hrun'] at hkeeps'
          rw [bind_run_error hrun']
          exact .of_view hkeeps'.2
        · rw [hrun'] at hkeeps'
          rw [bind_run_ok hrun']
          have hscope := hdevices rfl
          rw [Selection.deviceScope, Selection.fw] at hscope
          split
          · next hdev =>
            rw [if_pos hdev, if_pos hdev] at hscope
            exact ends_chunked hkeeps'.2 hkeeps'.1 hclear hscope rc.update
          · next hdev =>
            rw [if_neg hdev, if_neg hdev] at hscope
            split
            · exact ends_chunked hkeeps'.2 hkeeps'.1 hclear hscope rc.update
            · exact .of_view hkeeps'.2
      | radio_work =>
        dsimp only [workBlock]
        split
        · exact ends_chunked hkeeps.2 hkeeps.1 hclear (hwork rfl) rc.update
        · exact .of_view hkeeps.2

end Keeps

end MtpSync
