import MtpSync.Download.TaskDeletes

/-!
# What the routines do when their calls succeed

- §1 copies and deletes
- §2 the records
- §3 the routines of a chunk
- §4 a chunk
-/

namespace MtpSync

open Act

/-! ## §1 Copies and deletes -/

@[simp] theorem CopyNewRc.allOk_bound {ρ : Type} [Bound ρ] (rows : List ρ) :
    CopyNewRc.allOk.insert.bound rows = rows := QuickRc.bound_allOk rows

@[simp] theorem PurgeRc.allOk_bound {ρ : Type} [Bound ρ] (rows : List ρ) :
    PurgeRc.allOk.delete.bound rows = rows := QuickRc.bound_allOk rows

section Calls

variable {ρ τ : Type} [Bound τ] (w : World) (d : SqliteDB)

/-- **A copy** that succeeds stores the rows of its query as they are bound, and queues all their
marks. -/
theorem copyNew_run_ok {rc : CopyNewRc} {q : MysqlDB → List ρ} (toPhone : ρ → τ)
    (replace : SqliteDB → τ → SqliteDB) (mark : ρ → List MyStmt) (hselect : rc.select = .ok)
    (hinsert : rc.insert.ok (q w.server.db).length = true) :
    (copyNew rc q toPhone replace mark).run (w.opened d true) =
      (.ok .stored, { w.opened ((rc.insert.bound ((q w.server.db).map toPhone)).foldl replace d)
          true with
        updateMysqlData := w.updateMysqlData ++ (q w.server.db).flatMap mark }) := by
  unfold copyNew
  rw [hselect, bind_run_ok (onServer_select_run _ _), World.opened_server]
  cases hrows : q w.server.db with
  -- no rows: nothing is opened and the table stays
  | nil =>
    simp only [List.map_nil, QuickRc.bound_nil, List.foldl_nil, List.flatMap_nil,
      List.append_nil]
    rfl
  | cons x xs =>
    have hlen : rc.insert.ok ((x :: xs).map toPhone).length = true := by
      rw [List.length_map, ← hrows]
      exact hinsert
    dsimp only
    rw [bind_run_ok (quickInsert_alive w d rc.insert replace _ hlen)]
    rfl

/-- **A delete** that succeeds deletes what its query names and a bind succeeds for. -/
theorem purge_run_ok {rc : PurgeRc} {q : MysqlDB → List String}
    (delete : SqliteDB → String → SqliteDB) (hselect : rc.select = .ok)
    (hdelete : rc.delete.ok (q w.server.db).length = true) :
    (purge rc q delete).run (w.opened d true) =
      (.ok .stored, w.opened ((rc.delete.bound (q w.server.db)).foldl delete d) true) := by
  unfold purge
  rw [hselect, bind_run_ok (onServer_select_run _ _), World.opened_server]
  cases hrows : q w.server.db with
  | nil => rfl
  | cons x xs =>
    rw [hrows] at hdelete
    dsimp only
    rw [bind_run_ok (quickInsert_alive w d rc.delete delete _ hdelete)]
    rfl

end Calls

/-! ## §2 The records -/

/-- Opening and closing the file. -/
theorem openDataBase_run_ok {w : World} {d : SqliteDB} (hfile : w.sq.file = .holds d)
    (hgate : w.sq.eventOpenDB = true) :
    (onSq (openDataBase true)).run w =
      (.ok true, { w with sq := ⟨.holds d, none, true, false⟩ }) := by
  obtain ⟨⟨file, tx, connected, gate⟩, server, queue⟩ := w
  cases hfile
  cases hgate
  rfl

/-- The records are copied: every call of the routine succeeds. -/
def RecordToPhoneRc.copies (rc : RecordToPhoneRc) (db : MysqlDB) : Prop :=
  rc.openDb = true ∧ rc.copy.select = .ok ∧
    rc.copy.insert.ok (db.newRecords rc.win).length = true

/-- **`Synchrodata_work_record`** when every call succeeds. -/
theorem workRecordToPhone_run_ok {w : World} {d : SqliteDB} {rc : RecordToPhoneRc}
    (hfile : w.sq.file = .holds d) (hgate : w.sq.eventOpenDB = true)
    (h : rc.copies w.server.db) :
    (synchrodataWorkRecordToPhone rc).run w =
      (.ok true, ⟨⟨.holds ((rc.copy.insert.bound
          ((w.server.db.newRecords rc.win).map recordToPhone)).foldl SqliteDB.replaceRecord d),
        none, false, true⟩, w.server,
        w.updateMysqlData ++ (w.server.db.newRecords rc.win).flatMap fun r =>
          [.mark .work_record r.Id]⟩) := by
  obtain ⟨hopen, hselect, hinsert⟩ := h
  have hexists : w.sq.file.pathFileExists = true := by
    rw [hfile]
    rfl
  have hcopy := copyNew_run_ok { w with sq := ⟨.holds d, none, true, false⟩ } d recordToPhone
    SqliteDB.replaceRecord (fun r => [.mark .work_record r.Id]) hselect hinsert
  unfold synchrodataWorkRecordToPhone
  rw [bind_run_ok (read_run w), hexists, hopen, if_neg (by decide),
    bind_run_ok (openDataBase_run_ok hfile hgate), if_pos rfl]
  exact (bind_run_ok hcopy).trans rfl

/-! ## §3 The routines of a chunk -/

/-- Between two routines: nothing is open. -/
def World.closed (d : SqliteDB) (server : Server) (queue : List MyStmt) : World :=
  ⟨⟨.holds d, none, false, true⟩, server, queue⟩

@[simp] theorem QuickRc.allOk_ok (n : ℕ) : QuickRc.allOk.ok n = true := by
  simp [QuickRc.allOk, QuickRc.ok]

@[simp] theorem TaskDeleteRc.allOk_alive (n : ℕ) : TaskDeleteRc.allOk.alive n = true := by
  simp [TaskDeleteRc.allOk, TaskDeleteRc.alive]

/-- The marks of the templates, the types, the tasks and the records a chunk copies. -/
def MysqlDB.chunkMarks (win : Window) (ids : List String) (db : MysqlDB) : List MyStmt :=
  let left := (TaskToPhoneRc.allOk win).left db
  (db.newTemplates win ids).map (fun r => .mark .work_template r.Id) ++
    (db.newWorkTypes win ids).map (fun r => .mark .work_type r.Id) ++
    (left.newTasks win ids).map markTaskStmt ++
    (left.newRecords win).map fun r => .mark .work_record r.Id

/-- A table after rows are copied to it and then rows deleted from it. -/
def Table.refreshed {C : Type} (t : SqlTable C) (rows : List (SqlRow C)) (ids : List String) :
    SqlTable C := (t.replaceAll rows).deleteIds ids

/-- The templates in the file after a chunk. -/
def SqliteDB.templatesAfter (win : Window) (ids : List String) (db : MysqlDB) (d : SqliteDB) :
    SqlTable WorkTemplateCol :=
  d.work_template.refreshed ((db.newTemplates win ids).map Row.read) (db.deletedTemplates win)

/-- The types in the file after a chunk. -/
def SqliteDB.typesAfter (win : Window) (ids : List String) (db : MysqlDB) (d : SqliteDB) :
    SqlTable WorkTypeCol :=
  d.work_type.refreshed ((db.newWorkTypes win ids).map Row.read) (db.deletedWorkTypes win)

/-- The tasks in the file after a chunk. -/
def SqliteDB.tasksAfter (win : Window) (ids : List String) (db : MysqlDB) (d : SqliteDB) :
    SqlTable WorkTaskCol :=
  ((TaskToPhoneRc.allOk win).deletes db d).work_task.replaceAll
    ((((TaskToPhoneRc.allOk win).left db).newTasks win ids).map taskToPhone)

/-- The records in the file after a chunk. -/
def SqliteDB.recordsAfter (win : Window) (db : MysqlDB) (d : SqliteDB) : SqlTable WorkRecordCol :=
  ((TaskToPhoneRc.allOk win).deletes db d).work_record.replaceAll
    ((((TaskToPhoneRc.allOk win).left db).newRecords win).map recordToPhone)

/-- What a chunk makes of the file. -/
def SqliteDB.afterChunk (win : Window) (ids : List String) (db : MysqlDB) (d : SqliteDB) :
    SqliteDB :=
  { d with
    work_template := d.templatesAfter win ids db
    work_type := d.typesAfter win ids db
    work_task := d.tasksAfter win ids db
    work_record := d.recordsAfter win db }

section Routines

variable (win : Window) (ids : List String) (d : SqliteDB) (server : Server)
  (queue : List MyStmt)

private theorem closed_exists : (World.closed d server queue).sq.file.pathFileExists = true :=
  rfl

/-- The world a routine works in once it has opened the file. -/
private abbrev World.inside (d : SqliteDB) (server : Server) (queue : List MyStmt) : World :=
  ⟨⟨.holds d, none, true, false⟩, server, queue⟩

private theorem closed_opens : (onSq (openDataBase true)).run (World.closed d server queue) =
    (.ok true, (World.inside d server queue).opened d true) :=
  openDataBase_run_ok rfl rfl

/-- A copy and a delete, one after the other. -/
private theorem copyNew_purge_run {ρ τ : Type} [Bound τ] (q : MysqlDB → List ρ) (toPhone : ρ → τ)
    (replace : SqliteDB → τ → SqliteDB) (mark : ρ → List MyStmt) (q' : MysqlDB → List String)
    (delete : SqliteDB → String → SqliteDB) (f : Stage → Stage → Act World Bool) :
    (copyNew CopyNewRc.allOk q toPhone replace mark >>= fun copied =>
      purge PurgeRc.allOk q' delete >>= fun purged => f copied purged).run
        ((World.inside d server queue).opened d true) =
      (f .stored .stored).run (World.inside
        ((q' server.db).foldl delete (((q server.db).map toPhone).foldl replace d)) server
        (queue ++ (q server.db).flatMap mark)) := by
  have hcopy := copyNew_run_ok (World.inside d server queue) d toPhone replace mark
    (show CopyNewRc.allOk.select = .ok from rfl) (QuickRc.allOk_ok (q server.db).length)
  rw [CopyNewRc.allOk_bound] at hcopy
  refine (bind_run_ok hcopy).trans ?_
  have hpurge := purge_run_ok
    { World.inside d server queue with updateMysqlData := queue ++ (q server.db).flatMap mark }
    (((q server.db).map toPhone).foldl replace d) delete
    (show PurgeRc.allOk.select = .ok from rfl) (QuickRc.allOk_ok (q' server.db).length)
  rw [PurgeRc.allOk_bound] at hpurge
  exact bind_run_ok hpurge

private theorem template_run_ok :
    (synchrodataWorkTemplateToPhone ids (ToPhoneRc.allOk win)).run
      (World.closed d server queue) =
    (.ok true, World.closed
      { d with work_template := d.templatesAfter win ids server.db } server
      (queue ++ (server.db.newTemplates win ids).map fun r => .mark .work_template r.Id)) := by
  unfold synchrodataWorkTemplateToPhone
  rw [bind_run_ok (read_run _), closed_exists, if_neg (by simp)]
  refine (bind_run_ok (closed_opens d server queue)).trans ?_
  rw [if_pos rfl]
  refine (copyNew_purge_run d server queue _ _ _ _ _ _ _).trans ?_
  rw [SqliteDB.foldl_replaceTemplate, SqliteDB.foldl_deleteTemplate, ← List.map_eq_flatMap]
  rfl

private theorem type_run_ok :
    (synchrodataWorkTypeToPhone ids (ToPhoneRc.allOk win)).run (World.closed d server queue) =
    (.ok true, World.closed
      { d with work_type := d.typesAfter win ids server.db } server
      (queue ++ (server.db.newWorkTypes win ids).map fun r => .mark .work_type r.Id)) := by
  unfold synchrodataWorkTypeToPhone
  rw [bind_run_ok (read_run _), closed_exists, if_neg (by simp)]
  refine (bind_run_ok (closed_opens d server queue)).trans ?_
  rw [if_pos rfl]
  refine (copyNew_purge_run d server queue _ _ _ _ _ _ _).trans ?_
  rw [SqliteDB.foldl_replaceWorkType, SqliteDB.foldl_deleteWorkType, ← List.map_eq_flatMap]
  rfl

/-- **`Synchrodata_work_task`** when every call succeeds. -/
theorem workTaskToPhone_run_ok :
    (synchrodataWorkTaskToPhone ids (TaskToPhoneRc.allOk win)).run
      (World.closed d server queue) =
    (.ok true, World.closed
      { (TaskToPhoneRc.allOk win).deletes server.db d with
        work_task := d.tasksAfter win ids server.db }
      (server.execAll ((TaskToPhoneRc.allOk win).hardDeletes server.db))
      (queue ++ (((TaskToPhoneRc.allOk win).left server.db).newTasks win ids).map
        markTaskStmt)) := by
  unfold synchrodataWorkTaskToPhone
  rw [bind_run_ok (read_run _), closed_exists, if_neg (by simp)]
  refine (bind_run_ok (closed_opens d server queue)).trans ?_
  rw [if_pos rfl]
  rcases deleteTasks2_run (World.inside d server queue) d (TaskToPhoneRc.allOk win) with
    ⟨hfails, -⟩ | h2
  · cases hfails
  rcases deleteTasks3_run (World.inside d server queue)
    ((TaskToPhoneRc.allOk win).deletes2 server.db d) (TaskToPhoneRc.allOk win)
    ((TaskToPhoneRc.allOk win).alive2 server.db) with ⟨hfails, -⟩ | h3
  · cases hfails
  refine (bind_run_ok h2).trans ((bind_run_ok h3).trans ?_)
  -- the connection survives both passes
  have halive2 : (TaskToPhoneRc.allOk win).alive2 server.db = true := by
    simp [TaskToPhoneRc.alive2, TaskToPhoneRc.allOk]
  have halive3 : (TaskToPhoneRc.allOk win).alive3 server.db
      ((TaskToPhoneRc.allOk win).alive2 server.db) = true := by
    rw [halive2]
    simp [TaskToPhoneRc.alive3, TaskToPhoneRc.allOk]
  have hcopy := copyNew_run_ok
    { World.inside d server queue with
      server := server.execAll ((TaskToPhoneRc.allOk win).hardDeletes server.db) }
    ((TaskToPhoneRc.allOk win).deletes server.db d) taskToPhone SqliteDB.replaceTask
    (fun r => [markTaskStmt r]) (show CopyNewRc.allOk.select = .ok from rfl)
    (QuickRc.allOk_ok (((server.execAll ((TaskToPhoneRc.allOk win).hardDeletes
      server.db)).db.newTasks win ids).length))
  rw [CopyNewRc.allOk_bound, SqliteDB.foldl_replaceTask, ← List.map_eq_flatMap] at hcopy
  rw [halive3]
  refine (bind_run_ok hcopy).trans ?_
  rw [Server.execAll_db]
  rfl

private theorem record_run_ok :
    (synchrodataWorkRecordToPhone (RecordToPhoneRc.allOk win)).run
      (World.closed d server queue) =
    (.ok true, World.closed
      { d with work_record :=
          d.work_record.replaceAll ((server.db.newRecords win).map recordToPhone) } server
      (queue ++ (server.db.newRecords win).map fun r => .mark .work_record r.Id)) := by
  have hcopies : (RecordToPhoneRc.allOk win).copies server.db :=
    ⟨rfl, rfl, QuickRc.allOk_ok _⟩
  have hrun := workRecordToPhone_run_ok (w := World.closed d server queue) rfl rfl hcopies
  rw [RecordToPhoneRc.allOk, CopyNewRc.allOk_bound, SqliteDB.foldl_replaceRecord,
    ← List.map_eq_flatMap] at hrun
  exact hrun

end Routines

/-! ## §4 A chunk -/

/-- The routines of a chunk, table by table. -/
private theorem afterChunk_eq (win : Window) (ids : List String) (db : MysqlDB) {d d' : SqliteDB}
    (hd' : d' = { d with
      work_template := d.templatesAfter win ids db
      work_type := d.typesAfter win ids db }) :
    { (TaskToPhoneRc.allOk win).deletes db d' with
      work_task := d'.tasksAfter win ids db
      work_record := d'.recordsAfter win db } = d.afterChunk win ids db := by
  have hsame : SameTasks d d' := by
    rw [hd']
    exact ⟨rfl, rfl⟩
  -- the deletes see the tasks and records of `d`, and leave the other tables of `d'`
  have hdeletes := (TaskToPhoneRc.allOk win).deletes_sameTasks db hsame
  have hother := (TaskToPhoneRc.allOk win).deletes_sameButTasks db d'
  have htasks : d'.tasksAfter win ids db = d.tasksAfter win ids db := by
    rw [SqliteDB.tasksAfter, hdeletes.tasks, SqliteDB.tasksAfter]
  have hrecords : d'.recordsAfter win db = d.recordsAfter win db := by
    rw [SqliteDB.recordsAfter, hdeletes.records, SqliteDB.recordsAfter]
  dsimp only
  rw [hother.areas, hother.devices, hother.types, hother.templates, hother.users, htasks,
    hrecords, hd']
  rfl

/-- **A chunk** when every call succeeds. -/
theorem workChunk_run_ok (win : Window) (ids : List String) (d : SqliteDB) (server : Server)
    (queue : List MyStmt) :
    (workChunk .tongbu_to_phone (WorkRc.allOk win) ids).run (World.closed d server queue) =
      (.ok true, World.closed (d.afterChunk win ids server.db)
        (server.execAll ((TaskToPhoneRc.allOk win).hardDeletes server.db))
        (queue ++ server.db.chunkMarks win ids)) := by
  have hleft : (server.execAll ((TaskToPhoneRc.allOk win).hardDeletes server.db)).db =
      (TaskToPhoneRc.allOk win).left server.db := Server.execAll_db _ _
  unfold workChunk
  refine (bind_run_ok (template_run_ok win ids d server queue)).trans ?_
  refine (bind_run_ok (type_run_ok win ids _ _ _)).trans ?_
  refine (bind_run_ok (workTaskToPhone_run_ok win ids _ _ _)).trans ?_
  refine (bind_run_ok (record_run_ok win _ _ _)).trans ?_
  rw [hleft, ← afterChunk_eq win ids server.db rfl, MysqlDB.chunkMarks]
  simp only [List.append_assoc]
  rfl

end MtpSync
