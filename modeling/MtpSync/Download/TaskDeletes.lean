import MtpSync.Download.Effects

/-!
# What the passes that delete tasks do

`Synchrodata_work_task` starts by deleting from the temporary file, and then from the server, the
tasks the server has marked.  The result of no single delete is looked at, and after a failed
statement the connection is gone, so which statements have an effect depends on those before.

- §1 the statements that have an effect
- §2 the two passes
- §3 what they look at and what they touch
- §4 the routine
-/

namespace MtpSync

open Act

/-! ## §1 The statements that have an effect -/

/-- The connection is still there after the deletes of `n` tasks. -/
def TaskDeleteRc.alive (rc : TaskDeleteRc) (n : ℕ) : Bool :=
  rc.tasks.ok n && rc.subtasks.ok n && rc.records.ok n

/-- What the deletes of the tasks `ids` make of a file; each statement deletes for the ids it is
bound to. -/
def TaskDeleteRc.effect (rc : TaskDeleteRc) (ids : List String) (d : SqliteDB) : SqliteDB :=
  if rc.tasks.ok ids.length then
    let d := (rc.tasks.bound ids).foldl SqliteDB.deleteTask d
    if rc.subtasks.ok ids.length then
      let d := (rc.subtasks.bound ids).foldl SqliteDB.deleteSubtasks d
      if rc.records.ok ids.length then
        let d := (rc.records.bound ids).foldl SqliteDB.deleteRecordsOf d
        if rc.taskless 0 then d.deleteTasklessRecords else d
      else d
    else d
  else d

/-- The tasks the first pass deletes. -/
def TaskToPhoneRc.ids2 (rc : TaskToPhoneRc) (db : MysqlDB) : List String :=
  if rc.select2 = .ok then db.deletedTasks "2" else []

/-- The tasks the second pass deletes. -/
def TaskToPhoneRc.ids3 (rc : TaskToPhoneRc) (db : MysqlDB) : List String :=
  if rc.select3 = .ok then db.deletedTasks "3" else []

/-- What the first pass makes of a file. -/
def TaskToPhoneRc.deletes2 (rc : TaskToPhoneRc) (db : MysqlDB) (d : SqliteDB) : SqliteDB :=
  if rc.ids2 db = [] then d else rc.delete2.effect (rc.ids2 db) d

/-- The connection is still there after the first pass. -/
def TaskToPhoneRc.alive2 (rc : TaskToPhoneRc) (db : MysqlDB) : Bool :=
  rc.ids2 db = [] || rc.delete2.alive (rc.ids2 db).length

/-- What both passes make of a file. -/
def TaskToPhoneRc.deletes (rc : TaskToPhoneRc) (db : MysqlDB) (d : SqliteDB) : SqliteDB :=
  if rc.ids3 db ≠ [] ∧ rc.alive2 db = true then
    rc.delete3.effect (rc.ids3 db) (rc.deletes2 db d)
  else rc.deletes2 db d

/-! ### The rows deleted -/

/-- The deletes of the tasks `ids` reach this task: by its key or as a subtask. -/
def TaskDeleteRc.Hits (rc : TaskDeleteRc) (ids : List String) (t : SqlRow WorkTaskCol) : Prop :=
  rc.tasks.ok ids.length = true ∧ (t.Id ∈ rc.tasks.bound ids ∨
    rc.subtasks.ok ids.length = true ∧ ∃ i ∈ rc.subtasks.bound ids, t.col .AllId = some i)

/-- One of the passes reaches this task. -/
def TaskToPhoneRc.Hits (rc : TaskToPhoneRc) (db : MysqlDB) (t : SqlRow WorkTaskCol) : Prop :=
  rc.delete2.Hits (rc.ids2 db) t ∨ rc.alive2 db = true ∧ rc.delete3.Hits (rc.ids3 db) t

/-- **The tasks left** are those not reached. -/
theorem TaskDeleteRc.mem_effect {rc : TaskDeleteRc} {ids : List String} {d : SqliteDB}
    {t : SqlRow WorkTaskCol} :
    t ∈ (rc.effect ids d).work_task ↔ t ∈ d.work_task ∧ ¬rc.Hits ids t := by
  have htasks : (rc.effect ids d).work_task =
      if rc.tasks.ok ids.length then
        if rc.subtasks.ok ids.length then
          (d.work_task.deleteIds (rc.tasks.bound ids)).deleteEqs .AllId (rc.subtasks.bound ids)
        else d.work_task.deleteIds (rc.tasks.bound ids)
      else d.work_task := by
    simp only [TaskDeleteRc.effect, SqliteDB.foldl_deleteTask, SqliteDB.foldl_deleteSubtasks,
      SqliteDB.foldl_deleteRecordsOf, SqliteDB.deleteTasklessRecords]
    split_ifs
    all_goals rfl
  rw [htasks, TaskDeleteRc.Hits]
  split_ifs with htasks hsubtasks
  · rw [Table.mem_deleteEqs, Table.mem_deleteIds, htasks, hsubtasks]
    grind
  · rw [Table.mem_deleteIds, htasks]
    grind
  · grind

theorem TaskToPhoneRc.mem_deletes {rc : TaskToPhoneRc} {db : MysqlDB} {d : SqliteDB}
    {t : SqlRow WorkTaskCol} :
    t ∈ (rc.deletes db d).work_task ↔ t ∈ d.work_task ∧ ¬rc.Hits db t := by
  have hnone : ∀ rc : TaskDeleteRc, ¬rc.Hits [] t := fun rc h => by
    rcases h.2 with h | ⟨-, i, hi, -⟩
    · exact List.not_mem_nil h
    · exact List.not_mem_nil hi
  have h2 : t ∈ (rc.deletes2 db d).work_task ↔
      t ∈ d.work_task ∧ ¬rc.delete2.Hits (rc.ids2 db) t := by
    rw [TaskToPhoneRc.deletes2]
    split_ifs with hnil
    · rw [hnil]
      exact ⟨fun h => ⟨h, hnone _⟩, fun h => h.1⟩
    · exact TaskDeleteRc.mem_effect
  rw [TaskToPhoneRc.deletes, TaskToPhoneRc.Hits]
  split_ifs with hpass
  · rw [TaskDeleteRc.mem_effect, h2, hpass.2]
    grind
  · rw [h2]
    -- the second pass has nothing to delete, or no connection
    have hno : ¬(rc.alive2 db = true ∧ rc.delete3.Hits (rc.ids3 db) t) := fun h =>
      hpass ⟨fun hnil => hnone _ (hnil ▸ h.2), h.1⟩
    grind

/-- The deletes of the tasks `ids` reach this record of the file: with one of these tasks, or
because they leave it without a task. -/
def TaskDeleteRc.HitsRecord (rc : TaskDeleteRc) (ids : List String) (d : SqliteDB)
    (x : SqlRow WorkRecordCol) : Prop :=
  rc.alive ids.length = true ∧ ((∃ i ∈ rc.records.bound ids, x.col .WorkTaskId = some i) ∨
    rc.taskless 0 = true ∧
      Text.Outside d.work_task.ids (fun i => ∃ t ∈ d.work_task, t.Id = i ∧ rc.Hits ids t)
        (x.col .WorkTaskId))

/-- One of the passes reaches this record of the file. -/
def TaskToPhoneRc.HitsRecord (rc : TaskToPhoneRc) (db : MysqlDB) (d : SqliteDB)
    (x : SqlRow WorkRecordCol) : Prop :=
  rc.ids2 db ≠ [] ∧ rc.delete2.HitsRecord (rc.ids2 db) d x ∨
    rc.ids3 db ≠ [] ∧ rc.alive2 db = true ∧
      rc.delete3.HitsRecord (rc.ids3 db) (rc.deletes2 db d) x

/-- **The records left** are those not reached. -/
theorem TaskDeleteRc.mem_effect_record {rc : TaskDeleteRc} {ids : List String} {d : SqliteDB}
    {x : SqlRow WorkRecordCol} :
    x ∈ (rc.effect ids d).work_record ↔ x ∈ d.work_record ∧ ¬rc.HitsRecord ids d x := by
  have hleft : ∀ i, i ∈ (rc.effect ids d).work_task.ids ↔
      i ∈ d.work_task.ids ∧ ¬∃ t ∈ d.work_task, t.Id = i ∧ rc.Hits ids t := by
    intro i
    simp only [Table.mem_ids, TaskDeleteRc.mem_effect]
    constructor
    · rintro ⟨t, ⟨ht, hhit⟩, rfl⟩
      refine ⟨⟨t, ht, rfl⟩, ?_⟩
      rintro ⟨t', ht', hId, hhit'⟩
      exact hhit (Table.eq_of_Id_eq ht' ht hId ▸ hhit')
    · rintro ⟨⟨t, ht, rfl⟩, hhit⟩
      exact ⟨t, ⟨ht, fun h => hhit ⟨t, ht, rfl, h⟩⟩, rfl⟩
  have hnotIn : (x.col .WorkTaskId).notIn (rc.effect ids d).work_task.ids = true ↔
      Text.Outside d.work_task.ids (fun i => ∃ t ∈ d.work_task, t.Id = i ∧ rc.Hits ids t)
        (x.col .WorkTaskId) :=
    ⟨fun h => Text.outside_of_notIn h fun i hi hgone => (hleft i).2 ⟨hi, hgone⟩,
      fun h => Text.notIn_of_outside h fun i hi => (hleft i).1 hi⟩
  have hrecords : (rc.effect ids d).work_record =
      if rc.alive ids.length then
        let records := d.work_record.deleteEqs .WorkTaskId (rc.records.bound ids)
        if rc.taskless 0 then
          records.deleteNotIn .WorkTaskId (rc.effect ids d).work_task.ids
        else records
      else d.work_record := by
    simp only [TaskDeleteRc.effect, TaskDeleteRc.alive, SqliteDB.foldl_deleteTask,
      SqliteDB.foldl_deleteSubtasks, SqliteDB.foldl_deleteRecordsOf,
      SqliteDB.deleteTasklessRecords]
    cases rc.tasks.ok ids.length <;> cases rc.subtasks.ok ids.length <;>
      cases rc.records.ok ids.length <;> cases rc.taskless 0 <;> rfl
  rw [hrecords, TaskDeleteRc.HitsRecord, ← hnotIn]
  split_ifs with halive htaskless
  · -- the connection is there for the records
    rw [Table.mem_deleteNotIn, Table.mem_deleteEqs, ← Bool.not_eq_true]
    grind
  · rw [Table.mem_deleteEqs]
    grind
  · grind

theorem TaskToPhoneRc.mem_deletes_record {rc : TaskToPhoneRc} {db : MysqlDB} {d : SqliteDB}
    {x : SqlRow WorkRecordCol} :
    x ∈ (rc.deletes db d).work_record ↔ x ∈ d.work_record ∧ ¬rc.HitsRecord db d x := by
  have h2 : x ∈ (rc.deletes2 db d).work_record ↔ x ∈ d.work_record ∧
      ¬(rc.ids2 db ≠ [] ∧ rc.delete2.HitsRecord (rc.ids2 db) d x) := by
    rw [TaskToPhoneRc.deletes2]
    split_ifs with hnil
    · exact ⟨fun h => ⟨h, fun hno => hno.1 hnil⟩, fun h => h.1⟩
    · rw [TaskDeleteRc.mem_effect_record]
      grind
  rw [TaskToPhoneRc.deletes, TaskToPhoneRc.HitsRecord]
  split_ifs with hpass
  · rw [TaskDeleteRc.mem_effect_record, h2]
    grind
  · rw [h2]
    grind

/-- A world with this file, outside a transaction. -/
def World.opened (w : World) (d : SqliteDB) (connected : Bool) : World :=
  { w with sq := { w.sq with file := .holds d, tx := none, connected := connected } }

@[simp]
theorem World.opened_server (w : World) (d : SqliteDB) (connected : Bool) :
    (w.opened d connected).server = w.server := rfl

section Deletes

variable {ρ : Type} [Bound ρ] (w : World) (d : SqliteDB)

/-- A statement repeated for rows, every call of which succeeds. -/
theorem quickInsert_alive (rc : QuickRc) (f : SqliteDB → ρ → SqliteDB) (rows : List ρ)
    (h : rc.ok rows.length = true) :
    (onSq (quickInsertData rc f (rows.map some))).run (w.opened d true) =
      (.ok true, w.opened ((rc.bound rows).foldl f d) true) := by
  rw [onSq_quickInsertData_run rc f rows (w.opened d true) rfl]
  exact if_pos (by simp [World.opened, h])

private theorem quickInsert_fails (rc : QuickRc) (f : SqliteDB → ρ → SqliteDB) (rows : List ρ)
    (connected : Bool) (h : (connected && rc.ok rows.length) = false) :
    (onSq (quickInsertData rc f (rows.map some))).run (w.opened d connected) =
      (.ok false, w.opened d false) := by
  rw [onSq_quickInsertData_run rc f rows (w.opened d connected) rfl]
  refine if_neg ?_
  simpa [World.opened] using h

private theorem deleteData_run (rc : ℕ → Bool) (f : SqliteDB → SqliteDB) (connected : Bool) :
    (onSq (deleteData rc 0 [f])).run (w.opened d connected) =
      (.ok (connected && rc 0), w.opened (if connected && rc 0 then f d else d) connected) := by
  cases connected with
  | false => rfl
  | true =>
    cases h : rc 0 with
    | false =>
      rw [onSq, zoom_run, deleteData, bind_run_ok (read_run _), if_neg (by simp [h])]
      rfl
    | true =>
      rw [onSq, zoom_run, deleteData, bind_run_ok (read_run _),
        if_pos (by simp [World.opened, h, Sq.content]), bind_run_ok (modify_run _ _)]
      rfl

/-- After a failed statement the rest has no effect. -/
private theorem deleteTasks_dead (rc : TaskDeleteRc) (ids : List String) :
    (deleteTasks rc ids).run (w.opened d false) = (.ok (), w.opened d false) := by
  rw [deleteTasks, bind_run_ok (quickInsert_fails w d rc.tasks _ ids false rfl),
    bind_run_ok (quickInsert_fails w d rc.subtasks _ ids false rfl),
    bind_run_ok (quickInsert_fails w d rc.records _ ids false rfl),
    bind_run_ok (deleteData_run w d rc.taskless _ false)]
  rfl

/-- **Deleting tasks**, from an open connection on. -/
theorem deleteTasks_run (rc : TaskDeleteRc) (ids : List String) :
    (deleteTasks rc ids).run (w.opened d true) =
      (.ok (), w.opened (rc.effect ids d) (rc.alive ids.length)) := by
  rw [deleteTasks, TaskDeleteRc.effect, TaskDeleteRc.alive]
  cases h1 : rc.tasks.ok ids.length with
  -- the first insert that fails closes the connection for the ones behind it
  | false =>
    rw [bind_run_ok (quickInsert_fails w d rc.tasks _ ids true h1),
      bind_run_ok (quickInsert_fails w d rc.subtasks _ ids false rfl),
      bind_run_ok (quickInsert_fails w d rc.records _ ids false rfl),
      bind_run_ok (deleteData_run w d rc.taskless _ false)]
    rfl
  | true =>
    rw [bind_run_ok (quickInsert_alive w d rc.tasks _ ids h1)]
    cases h2 : rc.subtasks.ok ids.length with
    | false =>
      rw [bind_run_ok (quickInsert_fails w _ rc.subtasks _ ids true h2),
        bind_run_ok (quickInsert_fails w _ rc.records _ ids false rfl),
        bind_run_ok (deleteData_run w _ rc.taskless _ false)]
      rfl
    | true =>
      rw [bind_run_ok (quickInsert_alive w _ rc.subtasks _ ids h2)]
      cases h3 : rc.records.ok ids.length with
      | false =>
        rw [bind_run_ok (quickInsert_fails w _ rc.records _ ids true h3),
          bind_run_ok (deleteData_run w _ rc.taskless _ false)]
        rfl
      | true =>
        rw [bind_run_ok (quickInsert_alive w _ rc.records _ ids h3),
          bind_run_ok (deleteData_run w _ rc.taskless _ true)]
        rfl

/-! ## §2 The two passes -/

/-- **The first pass**: it halts with nothing done, or has this effect. -/
theorem deleteTasks2_run (rc : TaskToPhoneRc) :
    (rc.select2 = .storeFails ∧
      (deleteTasks2 rc).run (w.opened d true) = (.error .undefined, w.opened d true)) ∨
    (deleteTasks2 rc).run (w.opened d true) = (.ok (rc.select2 = .ok),
      w.opened (rc.deletes2 w.server.db d) (rc.alive2 w.server.db)) := by
  unfold deleteTasks2
  rw [TaskToPhoneRc.deletes2, TaskToPhoneRc.alive2, TaskToPhoneRc.ids2]
  cases rc.select2 with
  | storeFails => exact .inl ⟨rfl, rfl⟩
  | queryFails => exact .inr rfl
  | ok =>
    refine .inr ?_
    rw [bind_run_ok (onServer_select_run _ _), World.opened_server]
    cases w.server.db.deletedTasks "2" with
    | nil => rfl
    | cons i rest =>
      dsimp only
      rw [bind_run_ok (deleteTasks_run w d rc.delete2 (i :: rest))]
      rfl

/-- The statements the second pass has the server execute. -/
def TaskToPhoneRc.hardDeletes (rc : TaskToPhoneRc) (db : MysqlDB) : List MyStmt :=
  Batch.served 99 rc.update3 0 ((rc.ids3 db).flatMap deleteTaskStmts)

/-- The connection is still there after the second pass. -/
def TaskToPhoneRc.alive3 (rc : TaskToPhoneRc) (db : MysqlDB) (alive : Bool) : Bool :=
  alive && (rc.ids3 db = [] || rc.delete3.alive (rc.ids3 db).length)

/-- **The second pass**: it halts with nothing done, or has this effect, here and on the
server. -/
theorem deleteTasks3_run (rc : TaskToPhoneRc) (alive : Bool) :
    (rc.select3 = .storeFails ∧
      (deleteTasks3 rc).run (w.opened d alive) = (.error .undefined, w.opened d alive)) ∨
    (deleteTasks3 rc).run (w.opened d alive) = (.ok (rc.select3 = .ok),
      { w.opened (if rc.ids3 w.server.db ≠ [] ∧ alive = true then
          rc.delete3.effect (rc.ids3 w.server.db) d else d) (rc.alive3 w.server.db alive) with
        server := w.server.execAll (rc.hardDeletes w.server.db) }) := by
  unfold deleteTasks3
  rw [TaskToPhoneRc.hardDeletes, TaskToPhoneRc.alive3, TaskToPhoneRc.ids3]
  cases rc.select3 with
  -- the lists are read although the query stored none
  | storeFails => exact .inl ⟨rfl, rfl⟩
  | queryFails => exact .inr (by simp [Batch.served_nil]; rfl)
  | ok =>
    refine .inr ?_
    rw [bind_run_ok (onServer_select_run _ _), World.opened_server]
    cases w.server.db.deletedTasks "3" with
    | nil => simp [Batch.served_nil]; rfl
    | cons i rest =>
      dsimp only
      cases alive with
      -- the phone keeps its rows, yet the server's deletes are still sent
      | false =>
        rw [bind_run_ok (deleteTasks_dead w d rc.delete3 (i :: rest)),
          bind_run_ok (onServer_updateMysqlDB_run _ _ _)]
        simp
      | true =>
        rw [bind_run_ok (deleteTasks_run w d rc.delete3 (i :: rest)),
          bind_run_ok (onServer_updateMysqlDB_run _ _ _)]
        simp

end Deletes

/-! ## §3 What they look at and what they touch -/

/-- Two files with the same tasks and records. -/
structure SameTasks (d d' : SqliteDB) : Prop where
  tasks : d'.work_task = d.work_task
  records : d'.work_record = d.work_record

/-- A change of the file that leaves tasks and records. -/
theorem holds_of_map {f : SqliteDB → SqliteDB} (hf : ∀ d, SameTasks d (f d))
    {x : DbFile SqliteDB} {d' : SqliteDB} (h : x.map f = .holds d') :
    ∃ d, x = .holds d ∧ SameTasks d d' := by
  cases x with
  | missing => cases h
  | blank => cases h
  | holds d =>
    cases h
    exact ⟨d, rfl, hf d⟩

/-- Two files that differ in tasks and records at most. -/
structure SameButTasks (d d' : SqliteDB) : Prop where
  areas : d'.areas = d.areas
  devices : d'.device_info = d.device_info
  types : d'.work_type = d.work_type
  templates : d'.work_template = d.work_template
  users : d'.user_table = d.user_table

theorem SameButTasks.trans {d d' d'' : SqliteDB} (h : SameButTasks d d')
    (h' : SameButTasks d' d'') : SameButTasks d d'' :=
  ⟨h'.areas.trans h.areas, h'.devices.trans h.devices, h'.types.trans h.types,
    h'.templates.trans h.templates, h'.users.trans h.users⟩

theorem TaskDeleteRc.effect_sameTasks (rc : TaskDeleteRc) (ids : List String) {d d' : SqliteDB}
    (h : SameTasks d d') : SameTasks (rc.effect ids d) (rc.effect ids d') := by
  simp only [TaskDeleteRc.effect, SqliteDB.foldl_deleteTask, SqliteDB.foldl_deleteSubtasks,
    SqliteDB.foldl_deleteRecordsOf, SqliteDB.deleteTasklessRecords, h.tasks, h.records]
  split_ifs
  all_goals first | exact ⟨rfl, rfl⟩ | exact ⟨rfl, h.records⟩ | exact h

theorem TaskDeleteRc.effect_sameButTasks (rc : TaskDeleteRc) (ids : List String)
    (d : SqliteDB) : SameButTasks d (rc.effect ids d) := by
  simp only [TaskDeleteRc.effect, SqliteDB.foldl_deleteTask, SqliteDB.foldl_deleteSubtasks,
    SqliteDB.foldl_deleteRecordsOf, SqliteDB.deleteTasklessRecords]
  split_ifs
  all_goals exact ⟨rfl, rfl, rfl, rfl, rfl⟩

theorem TaskToPhoneRc.deletes_sameTasks (rc : TaskToPhoneRc) (db : MysqlDB) {d d' : SqliteDB}
    (h : SameTasks d d') : SameTasks (rc.deletes db d) (rc.deletes db d') := by
  have h2 : SameTasks (rc.deletes2 db d) (rc.deletes2 db d') := by
    rw [TaskToPhoneRc.deletes2, TaskToPhoneRc.deletes2]
    split
    · exact h
    · exact rc.delete2.effect_sameTasks _ h
  rw [TaskToPhoneRc.deletes, TaskToPhoneRc.deletes]
  split
  · exact rc.delete3.effect_sameTasks _ h2
  · exact h2

theorem TaskToPhoneRc.deletes_sameButTasks (rc : TaskToPhoneRc) (db : MysqlDB) (d : SqliteDB) :
    SameButTasks d (rc.deletes db d) := by
  have h2 : SameButTasks d (rc.deletes2 db d) := by
    rw [TaskToPhoneRc.deletes2]
    split
    · exact ⟨rfl, rfl, rfl, rfl, rfl⟩
    · exact rc.delete2.effect_sameButTasks _ d
  rw [TaskToPhoneRc.deletes]
  split
  · exact h2.trans (rc.delete3.effect_sameButTasks _ _)
  · exact h2

/-! ## §4 The routine -/

/-- What the server has left after the hard deletes of a chunk. -/
def TaskToPhoneRc.left (rc : TaskToPhoneRc) (db : MysqlDB) : MysqlDB :=
  db.execAll (rc.hardDeletes db)

/-- `Synchrodata_work_task`, once the file is open. -/
private def taskSteps (ids : List String) (rc : TaskToPhoneRc) : Act World Bool := do
  let deleted2 ← deleteTasks2 rc
  let deleted3 ← deleteTasks3 rc
  let copied ← copyNew rc.copy (MysqlDB.newTasks rc.win ids) taskToPhone SqliteDB.replaceTask
    fun r => [markTaskStmt r]
  onSq closeDataBase
  pure (deleted2 && deleted3 && copied = .stored)

private theorem workTaskToPhone_eq (ids : List String) (rc : TaskToPhoneRc) :
    synchrodataWorkTaskToPhone ids rc = (do
      let w ← Act.read
      if !w.sq.file.pathFileExists then pure false
      else if ← onSq (openDataBase rc.openDb) then taskSteps ids rc
      else pure false) := rfl

section Routine

variable {I J : View → Prop} {rc : TaskToPhoneRc}

variable (rc) in
/-- In a file without tables nothing is deleted and nothing stored. -/
private theorem taskSteps_blank (ids : List String)
    (hserver : ∀ v, I v → ∀ done, (∀ st ∈ done, st.deletes = true) → I (v.execute done)) :
    Keeps (KeepsView fun v => I v ∧ v.file = .blank) (taskSteps ids rc) := by
  have hfile : ∀ (f : SqliteDB → SqliteDB) v, I v ∧ v.file = .blank →
      I (v.onFile f) ∧ (v.onFile f).file = .blank := by
    rintro f ⟨file, db, queue⟩ ⟨hI, hblank⟩
    cases hblank
    exact ⟨hI, rfl⟩
  have hdeletes : ∀ (rc : TaskDeleteRc) (ids : List String),
      Keeps (KeepsView fun v => I v ∧ v.file = .blank) (deleteTasks rc ids) := fun rc ids =>
    keeps_deleteTasks rc (hfile _) (hfile _) (hfile _) (hfile _)
  refine (keeps_deleteTasks2 fun _ => hdeletes _ _).bind fun _ =>
    (keeps_deleteTasks3 (fun _ => hdeletes _ _) fun _ v h done hdone =>
      ⟨hserver v h.1 done (deletes_of_mem_deleteTaskStmts hdone), h.2⟩).bind fun _ =>
    (keeps_copyNew rc.copy fun v h htables => ?_).bind fun _ =>
    keeps_closeDataBase.bind fun _ => keeps_pure _
  obtain ⟨htables, -⟩ := htables
  rw [h.2] at htables
  cases htables

/-- From a file with tables on: both passes have their effect, and then the copy. -/
private theorem taskSteps_holds (ids : List String) {d : SqliteDB} {server : Server}
    {queue : List MyStmt}
    (hdeleted : J ⟨.holds (rc.deletes server.db d), rc.left server.db, queue⟩)
    (hcopy : ∀ v, J v → rc.copy.insert.Stores (v.db.newTasks rc.win ids).length v →
      J (v.copied rc.copy.insert (MysqlDB.newTasks rc.win ids) taskToPhone SqliteDB.replaceTask
        fun r => [markTaskStmt r]))
    {b : Bool} {w' : World}
    (hrun : (taskSteps ids rc).run ⟨⟨.holds d, none, true, false⟩, server, queue⟩ =
      (.ok b, w')) : w'.sq.tx = none ∧ J w'.view := by
  have hrest : ∀ b b' : Bool, Keeps (KeepsView J) (do
      let copied ← copyNew rc.copy (MysqlDB.newTasks rc.win ids) taskToPhone
        SqliteDB.replaceTask fun r => [markTaskStmt r]
      onSq closeDataBase
      pure (b && b' && decide (copied = .stored))) := fun _ _ =>
    (keeps_copyNew rc.copy hcopy).bind fun _ => keeps_closeDataBase.bind fun _ => keeps_pure _
  -- the passes are run from a world with this file
  have hopened : (⟨⟨.holds d, none, true, false⟩, server, queue⟩ : World) =
      World.opened ⟨⟨.holds d, none, true, false⟩, server, queue⟩ d true := rfl
  rw [hopened, taskSteps] at hrun
  rcases deleteTasks2_run ⟨⟨.holds d, none, true, false⟩, server, queue⟩ d rc with ⟨-, h2⟩ | h2
  · rw [bind_run_error h2] at hrun
    cases hrun
  · rw [bind_run_ok h2] at hrun
    rcases deleteTasks3_run ⟨⟨.holds d, none, true, false⟩, server, queue⟩
      (rc.deletes2 server.db d) rc (rc.alive2 server.db) with ⟨-, h3⟩ | h3
    · rw [bind_run_error h3] at hrun
      cases hrun
    · rw [bind_run_ok h3] at hrun
      have hview : World.view { World.opened ⟨⟨.holds d, none, true, false⟩, server, queue⟩
          (rc.deletes server.db d) (rc.alive3 server.db (rc.alive2 server.db)) with
            server := server.execAll (rc.hardDeletes server.db) } =
          ⟨.holds (rc.deletes server.db d), rc.left server.db, queue⟩ := by
        simp [World.view, World.opened, TaskToPhoneRc.left]
      rw [← hview] at hdeleted
      have hkeeps := hrest (rc.select2 = .ok) (rc.select3 = .ok) _ ⟨rfl, hdeleted⟩
      obtain rfl : _ = w' := congrArg Prod.snd hrun
      exact hkeeps

/-- **`Synchrodata_work_task`**, when it returns: it does nothing; or the file has no tables, and
the server may execute its deletes; or both passes have their effect, and rows are copied. -/
theorem workTaskToPhone_ok (ids : List String)
    (hskip : ∀ v, I v → (∀ d, v.file = .holds d → rc.openDb = false) → J v)
    (hblank : ∀ v, J v → v.file = .blank → ∀ done, (∀ st ∈ done, st.deletes = true) →
      J (v.execute done))
    (hdeletes : ∀ v d, I v → rc.openDb = true → v.file = .holds d →
      J ⟨.holds (rc.deletes v.db d), rc.left v.db, v.queue⟩)
    (hcopy : ∀ v, J v → rc.copy.insert.Stores (v.db.newTasks rc.win ids).length v →
      J (v.copied rc.copy.insert (MysqlDB.newTasks rc.win ids) taskToPhone SqliteDB.replaceTask
        fun r => [markTaskStmt r]))
    {w w' : World} {b : Bool} (htx : w.sq.tx = none) (h : I w.view)
    (hrun : (synchrodataWorkTaskToPhone ids rc).run w = (.ok b, w')) :
    w'.sq.tx = none ∧ J w'.view := by
  rw [workTaskToPhone_eq, bind_run_ok (read_run w)] at hrun
  obtain ⟨⟨file, tx, connected, gate⟩, server, queue⟩ := w
  cases htx
  split at hrun
  · next hmissing =>
    cases hrun
    refine ⟨rfl, hskip _ h fun d hd => ?_⟩
    have hfile : file = .holds d := hd
    rw [hfile] at hmissing
    cases hmissing
  · next hexists =>
    cases gate with
    | false => cases hrun
    | true =>
      cases hopen : rc.openDb with
      | false =>
        rw [hopen] at hrun
        cases hrun
        exact ⟨rfl, hskip _ h fun _ _ => hopen⟩
      | true =>
        have hopened : (onSq (openDataBase true)).run
            (⟨⟨file, none, connected, true⟩, server, queue⟩ : World) =
            (.ok true, ⟨⟨file.created, none, true, false⟩, server, queue⟩) := rfl
        rw [hopen, bind_run_ok hopened, if_pos rfl] at hrun
        cases file with
        | missing => simp [DbFile.pathFileExists] at hexists
        -- without tables every insert fails: only the server's deletes go through
        | blank =>
          have hJ : ∀ v, (J v ∧ v.file = .blank) → ∀ done, (∀ st ∈ done, st.deletes = true) →
              J (v.execute done) ∧ (v.execute done).file = .blank := fun v hv done hdone =>
            ⟨hblank v hv.1 hv.2 done hdone, hv.2⟩
          have hskipped : J ⟨.blank, server.db, queue⟩ := hskip _ h fun _ hd => by cases hd
          have hkeeps := taskSteps_blank rc ids hJ
            ⟨⟨.blank, none, true, false⟩, server, queue⟩ ⟨rfl, ⟨hskipped, rfl⟩, rfl⟩
          have hrun' : (taskSteps ids rc).run
              ⟨⟨.blank, none, true, false⟩, server, queue⟩ = (.ok b, w') := hrun
          rw [hrun'] at hkeeps
          exact ⟨hkeeps.1, hkeeps.2.1.1⟩
        -- the deletes come first and the copies see what they left
        | holds d =>
          have hdeleted := hdeletes ⟨.holds d, server.db, queue⟩ d h hopen rfl
          exact taskSteps_holds ids hdeleted hcopy hrun

end Routine

end MtpSync
