import MtpSync.Download.DeletePass
import MtpSync.SyncEnd

/-!
# What a run to the phone answers and queues

The push follows if every routine of the run answers `TRUE`, and what the server is sent at the
end are the marks queued on the way.  Both are seen from the state before each chunk and from
what the calls return: which rows the server has to send and to delete, and whether the file has
tables.  What the tables of the file hold plays no part in it.

- §1 copies and deletes
- §2 the routines
- §3 the chunks
- §4 the run
-/

namespace MtpSync

open Act

/-! ## §1 Copies and deletes -/

/-- The file has tables. -/
abbrev World.hasTables (w : World) : Bool := w.sq.file.tables.isSome

/-- A copy of `n` rows succeeds. -/
def CopyNewRc.Succeeds (rc : CopyNewRc) (tables : Bool) (n : ℕ) : Prop :=
  rc.select = .ok ∧ (n = 0 ∨ tables = true ∧ rc.insert.ok n = true)

/-- A delete of `n` rows succeeds. -/
def PurgeRc.Succeeds (rc : PurgeRc) (tables : Bool) (n : ℕ) : Prop :=
  rc.select = .ok ∧ (n = 0 ∨ tables = true ∧ rc.delete.ok n = true)

/-- The marks a copy queues: those of its rows, if they are stored. -/
def CopyNewRc.marks {ρ : Type} (rc : CopyNewRc) (tables : Bool) (rows : List ρ)
    (mark : ρ → List MyStmt) : List MyStmt :=
  if rc.select = .ok ∧ tables = true ∧ rc.insert.ok rows.length = true then rows.flatMap mark
  else []

section Calls

variable {ρ τ : Type} [Bound τ] (file : DbFile SqliteDB) (alive gate : Bool) (server : Server)
  (queue : List MyStmt)

/-- A statement repeated for rows, outside a transaction. -/
private theorem repeated_run (rc : QuickRc) (f : SqliteDB → τ → SqliteDB) (rows : List τ) :
    ∃ g, (onSq (quickInsertData rc f (rows.map some))).run
        ⟨⟨file, none, alive, gate⟩, server, queue⟩ =
      (.ok (alive && file.tables.isSome && rc.ok rows.length),
        ⟨⟨file.map g, none, alive && file.tables.isSome && rc.ok rows.length, gate⟩, server,
          queue⟩) := by
  have hrun := onSq_quickInsertData_run rc f rows ⟨⟨file, none, alive, gate⟩, server, queue⟩ rfl
  cases hok : alive && file.tables.isSome && rc.ok rows.length with
  | true =>
    rw [if_pos hok] at hrun
    rw [Bool.and_eq_true, Bool.and_eq_true] at hok
    rw [hrun, hok.1.1]
    exact ⟨_, rfl⟩
  | false =>
    rw [if_neg (by simp [hok])] at hrun
    exact ⟨fun d => d, by rw [hrun, DbFile.map_id]; rfl⟩

/-- **A copy** whose query does not crash returns. -/
theorem copyNew_run {rc : CopyNewRc} (q : MysqlDB → List ρ) (toPhone : ρ → τ)
    (replace : SqliteDB → τ → SqliteDB) (mark : ρ → List MyStmt) (h : rc.select ≠ .storeFails) :
    ∃ stage g alive', (copyNew rc q toPhone replace mark).run
        ⟨⟨file, none, alive, gate⟩, server, queue⟩ =
      (.ok stage, ⟨⟨file.map g, none, alive', gate⟩, server,
        queue ++ rc.marks (alive && file.tables.isSome) (q server.db) mark⟩) ∧
      (stage = .notSelected ↔ rc.select ≠ .ok) ∧
      (rc.Succeeds (alive && file.tables.isSome) (q server.db).length →
        stage = .stored ∧ alive' = alive) := by
  unfold copyNew
  rw [CopyNewRc.marks, CopyNewRc.Succeeds]
  cases hselect : rc.select with
  | storeFails => exact absurd hselect h
  | queryFails =>
    refine ⟨.notSelected, fun d => d, alive, ?_, by simp, by simp⟩
    rw [DbFile.map_id, if_neg (by simp), List.append_nil]
    rfl
  | ok =>
    rw [bind_run_ok (onServer_select_run _ _)]
    dsimp only
    cases q server.db with
    | nil =>
      refine ⟨.stored, fun d => d, alive, ?_, by simp, fun _ => ⟨rfl, rfl⟩⟩
      simp [DbFile.map_id]
    -- the marks follow the rows, if these are stored
    | cons x xs =>
      obtain ⟨g, hrun⟩ := repeated_run file alive gate server queue rc.insert replace
        ((x :: xs).map toPhone)
      rw [List.length_map] at hrun
      dsimp only
      rw [bind_run_ok hrun]
      cases hok : alive && file.tables.isSome && rc.insert.ok (x :: xs).length with
      | true =>
        rw [Bool.and_eq_true] at hok
        rw [if_pos rfl, if_pos ⟨rfl, hok⟩]
        refine ⟨.stored, g, true, rfl, by simp, fun _ => ⟨rfl, ?_⟩⟩
        rw [Bool.and_eq_true] at hok
        exact hok.1.1.symm
      | false =>
        have hfails : ¬((alive && file.tables.isSome) = true ∧
            rc.insert.ok (x :: xs).length = true) := by
          rw [← Bool.and_eq_true, hok]
          decide
        rw [if_neg (by decide), if_neg fun h => hfails h.2, List.append_nil]
        refine ⟨.notStored, g, false, rfl, by simp, fun hok' => ?_⟩
        exact absurd (hok'.2.resolve_left (by simp)) hfails

/-- **A delete** whose query does not crash returns. -/
theorem purge_run {rc : PurgeRc} (q : MysqlDB → List String)
    (delete : SqliteDB → String → SqliteDB) (h : rc.select ≠ .storeFails) :
    ∃ stage g alive', (purge rc q delete).run ⟨⟨file, none, alive, gate⟩, server, queue⟩ =
      (.ok stage, ⟨⟨file.map g, none, alive', gate⟩, server, queue⟩) ∧
      (rc.Succeeds (alive && file.tables.isSome) (q server.db).length → stage = .stored) := by
  unfold purge
  rw [PurgeRc.Succeeds]
  cases hselect : rc.select with
  | storeFails => exact absurd hselect h
  | queryFails =>
    refine ⟨.notSelected, fun d => d, alive, ?_, by simp⟩
    rw [DbFile.map_id]
    rfl
  | ok =>
    rw [bind_run_ok (onServer_select_run _ _)]
    dsimp only
    cases q server.db with
    | nil =>
      refine ⟨.stored, fun d => d, alive, ?_, fun _ => rfl⟩
      rw [DbFile.map_id]
      rfl
    | cons x xs =>
      obtain ⟨g, hrun⟩ := repeated_run file alive gate server queue rc.delete delete (x :: xs)
      dsimp only
      rw [bind_run_ok hrun]
      cases hok : alive && file.tables.isSome && rc.delete.ok (x :: xs).length with
      | true => exact ⟨.stored, g, true, rfl, fun _ => rfl⟩
      -- a statement fails, and with rows to delete that is no success
      | false =>
        refine ⟨.notStored, g, false, rfl, fun hok' => ?_⟩
        have hdone := hok'.2.resolve_left (by simp)
        rw [← Bool.and_eq_true, hok] at hdone
        cases hdone

/-- The tasks deleted, on whatever file. -/
private theorem deleteTasks_any (rc : TaskDeleteRc) (ids : List String) :
    ∃ g, (deleteTasks rc ids).run ⟨⟨file, none, alive, gate⟩, server, queue⟩ =
      (.ok (), ⟨⟨file.map g, none, alive && file.tables.isSome && rc.alive ids.length, gate⟩,
        server, queue⟩) := by
  obtain ⟨g₁, h₁⟩ := repeated_run file alive gate server queue rc.tasks SqliteDB.deleteTask ids
  obtain ⟨g₂, h₂⟩ := repeated_run (file.map g₁) (alive && file.tables.isSome &&
    rc.tasks.ok ids.length) gate server queue rc.subtasks SqliteDB.deleteSubtasks ids
  obtain ⟨g₃, h₃⟩ := repeated_run ((file.map g₁).map g₂) (alive && file.tables.isSome &&
    rc.tasks.ok ids.length && (file.map g₁).tables.isSome && rc.subtasks.ok ids.length) gate server
    queue rc.records SqliteDB.deleteRecordsOf ids
  have hdata : ∀ (x : DbFile SqliteDB) (c : Bool), ∃ g b,
      (onSq (deleteData rc.taskless 0 [SqliteDB.deleteTasklessRecords])).run
        ⟨⟨x, none, c, gate⟩, server, queue⟩ =
      (.ok b, ⟨⟨x.map g, none, c, gate⟩, server, queue⟩) := by
    intro x c
    by_cases hok : (c && rc.taskless 0 && x.tables.isSome) = true
    · refine ⟨SqliteDB.deleteTasklessRecords, true, ?_⟩
      rw [onSq, zoom_run, deleteData, bind_run_ok (read_run _),
        if_pos (by simpa [Sq.content] using hok), bind_run_ok (modify_run _ _)]
      rfl
    · refine ⟨fun d => d, false, ?_⟩
      rw [onSq, zoom_run, deleteData, bind_run_ok (read_run _),
        if_neg (by simpa [Sq.content] using hok), DbFile.map_id]
      rfl
  obtain ⟨g₄, b, h₄⟩ := hdata (((file.map g₁).map g₂).map g₃) (alive && file.tables.isSome &&
    rc.tasks.ok ids.length && (file.map g₁).tables.isSome && rc.subtasks.ok ids.length &&
    ((file.map g₁).map g₂).tables.isSome && rc.records.ok ids.length)
  refine ⟨fun d => g₄ (g₃ (g₂ (g₁ d))), ?_⟩
  rw [deleteTasks, bind_run_ok h₁, bind_run_ok h₂, bind_run_ok h₃, bind_run_ok h₄, pure_run,
    DbFile.map_map, DbFile.map_map, DbFile.map_map, TaskDeleteRc.alive]
  simp only [DbFile.tables_map, Option.isSome_map]
  -- the file has tables throughout, or the connection is gone at once
  cases file.tables.isSome with
  | true => simp only [Bool.and_true, Bool.and_assoc]
  | false => simp

/-- **The first pass** on whatever file. -/
private theorem deleteTasks2_any {rc : TaskToPhoneRc} (h : rc.select2 ≠ .storeFails) :
    ∃ g alive', (deleteTasks2 rc).run ⟨⟨file, none, alive, gate⟩, server, queue⟩ =
      (.ok (rc.select2 = .ok), ⟨⟨file.map g, none, alive', gate⟩, server, queue⟩) ∧
      (file.tables.isSome = true → alive' = (alive && rc.alive2 server.db)) := by
  unfold deleteTasks2
  rw [TaskToPhoneRc.alive2, TaskToPhoneRc.ids2]
  cases hselect : rc.select2 with
  | storeFails => exact absurd hselect h
  | queryFails => exact ⟨fun d => d, alive, by rw [DbFile.map_id]; rfl, fun _ => by simp⟩
  | ok =>
    rw [bind_run_ok (onServer_select_run _ _)]
    dsimp only
    cases server.db.deletedTasks "2" with
    | nil => exact ⟨fun d => d, alive, by rw [DbFile.map_id]; rfl, fun _ => by simp⟩
    | cons i rest =>
      obtain ⟨g, hrun⟩ := deleteTasks_any file alive gate server queue rc.delete2 (i :: rest)
      dsimp only
      rw [bind_run_ok hrun]
      exact ⟨g, _, rfl, fun htables => by simp [htables]⟩

/-- **The second pass** on whatever file: the server executes its deletes in any case. -/
private theorem deleteTasks3_any {rc : TaskToPhoneRc} (h : rc.select3 ≠ .storeFails) :
    ∃ g alive', (deleteTasks3 rc).run ⟨⟨file, none, alive, gate⟩, server, queue⟩ =
      (.ok (rc.select3 = .ok), ⟨⟨file.map g, none, alive', gate⟩,
        server.execAll (rc.hardDeletes server.db), queue⟩) ∧
      (file.tables.isSome = true → alive' = rc.alive3 server.db alive) := by
  unfold deleteTasks3
  rw [TaskToPhoneRc.hardDeletes, TaskToPhoneRc.alive3, TaskToPhoneRc.ids3]
  cases hselect : rc.select3 with
  | storeFails => exact absurd hselect h
  | queryFails =>
    refine ⟨fun d => d, alive, ?_, fun _ => by simp⟩
    rw [DbFile.map_id]
    simp [Batch.served_nil]
    rfl
  | ok =>
    rw [bind_run_ok (onServer_select_run _ _)]
    dsimp only
    cases server.db.deletedTasks "3" with
    | nil =>
      refine ⟨fun d => d, alive, ?_, fun _ => by simp⟩
      rw [DbFile.map_id]
      simp [Batch.served_nil]
    | cons i rest =>
      -- the answers of the phone's deletes are not looked at before the server's are sent
      obtain ⟨g, hrun⟩ := deleteTasks_any file alive gate server queue rc.delete3 (i :: rest)
      dsimp only
      rw [bind_run_ok hrun, bind_run_ok (onServer_updateMysqlDB_run _ _ _)]
      exact ⟨g, _, rfl, fun htables => by simp [htables]⟩

/-- **The accounts**, whose marks are queued before they are stored. -/
private theorem copyUsers_run {rc : CopyNewRc} (ids : List String) (h : rc.select ≠ .storeFails) :
    ∃ stage g alive', (copyUsers rc ids).run ⟨⟨file, none, alive, gate⟩, server, queue⟩ =
      (.ok stage, ⟨⟨file.map g, none, alive', gate⟩, server,
        queue ++ if rc.select = .ok then
          (server.db.newUsers ids).map fun r => .mark .sys_user r.Id else []⟩) ∧
      (rc.Succeeds (alive && file.tables.isSome) (server.db.newUsers ids).length →
        stage = .stored ∧ alive' = alive) := by
  unfold copyUsers
  rw [CopyNewRc.Succeeds]
  cases hselect : rc.select with
  | storeFails => exact absurd hselect h
  | queryFails =>
    refine ⟨.notSelected, fun d => d, alive, ?_, by simp⟩
    rw [DbFile.map_id, if_neg (by simp), List.append_nil]
    rfl
  | ok =>
    rw [bind_run_ok (onServer_select_run _ _), if_pos rfl]
    dsimp only
    cases server.db.newUsers ids with
    | nil =>
      refine ⟨.stored, fun d => d, alive, ?_, fun _ => ⟨rfl, rfl⟩⟩
      simp [DbFile.map_id]
    -- the marks are queued first, whatever becomes of the rows
    | cons x xs =>
      obtain ⟨g, hrun⟩ := repeated_run file alive gate server
        (queue ++ (x :: xs).map fun r => .mark .sys_user r.Id) rc.insert SqliteDB.replaceUser
        (x :: xs)
      have htail : (addTail ((x :: xs).map fun r => .mark .sys_user r.Id)).run
          ⟨⟨file, none, alive, gate⟩, server, queue⟩ = (.ok (), ⟨⟨file, none, alive, gate⟩, server,
            queue ++ (x :: xs).map fun r => .mark .sys_user r.Id⟩) := rfl
      dsimp only
      rw [bind_run_ok htail, bind_run_ok hrun]
      cases hok : alive && file.tables.isSome && rc.insert.ok (x :: xs).length with
      | true =>
        rw [Bool.and_eq_true, Bool.and_eq_true] at hok
        exact ⟨.stored, g, true, rfl, fun _ => ⟨rfl, hok.1.1.symm⟩⟩
      | false =>
        refine ⟨.notStored, g, false, rfl, fun hok' => ?_⟩
        have hdone := hok'.2.resolve_left (by simp)
        rw [← Bool.and_eq_true, hok] at hdone
        cases hdone

end Calls

/-! ## §2 The routines -/

/-- A routine that copies `n` rows and deletes `m` succeeds. -/
def ToPhoneRc.Answers (rc : ToPhoneRc) (tables : Bool) (n m : ℕ) : Prop :=
  rc.openDb = true ∧ rc.copy.Succeeds tables n ∧ rc.purge.Succeeds tables m

/-- `Synchrodata_sys_user` does. -/
def UserToPhoneRc.Answers (rc : UserToPhoneRc) (tables : Bool) (n m : ℕ) : Prop :=
  rc.openDb = true ∧ rc.copy.Succeeds tables n ∧ rc.purge.Succeeds tables m

/-- `Synchrodata_work_task` does: the deletes of tasks are not looked at, but for the connection
they leave. -/
def TaskToPhoneRc.Answers (rc : TaskToPhoneRc) (ids : List String) (tables : Bool)
    (db : MysqlDB) : Prop :=
  rc.openDb = true ∧ rc.select2 = .ok ∧ rc.select3 = .ok ∧
    rc.copy.Succeeds (rc.alive3 db (rc.alive2 db) && tables)
      ((rc.left db).newTasks rc.win ids).length

/-- `Synchrodata_work_record` does: its insert is not looked at. -/
def RecordToPhoneRc.Answers (rc : RecordToPhoneRc) : Prop :=
  rc.openDb = true ∧ rc.copy.select = .ok

section Routines

variable {file : DbFile SqliteDB} (alive : Bool) (server : Server) (queue : List MyStmt)
  (ids : List String)

private theorem opened_run (file : DbFile SqliteDB) (alive : Bool) (server : Server)
    (queue : List MyStmt) :
    (onSq (openDataBase true)).run ⟨⟨file, none, alive, true⟩, server, queue⟩ =
      (.ok true, ⟨⟨file.created, none, true, false⟩, server, queue⟩) := rfl

private theorem closed_run (file : DbFile SqliteDB) (alive : Bool) (server : Server)
    (queue : List MyStmt) :
    (onSq closeDataBase).run ⟨⟨file, none, alive, false⟩, server, queue⟩ =
      (.ok (), ⟨⟨file, none, false, true⟩, server, queue⟩) := rfl

/-- A copy and a delete that succeed, one after the other. -/
private theorem copyPurge_answers {ρ τ : Type} [Bound τ] (file : DbFile SqliteDB) {rc : CopyNewRc}
    {rc' : PurgeRc} (q : MysqlDB → List ρ) (toPhone : ρ → τ) (replace : SqliteDB → τ → SqliteDB)
    (mark : ρ → List MyStmt) (q' : MysqlDB → List String)
    (delete : SqliteDB → String → SqliteDB) (f : Stage → Stage → Act World Bool)
    (hcopy : rc.Succeeds file.tables.isSome (q server.db).length)
    (hpurge : rc'.Succeeds file.tables.isSome (q' server.db).length) :
    ∃ g alive' queue', (copyNew rc q toPhone replace mark >>= fun copied =>
        purge rc' q' delete >>= fun purged => f copied purged).run
          ⟨⟨file, none, true, false⟩, server, queue⟩ =
      (f .stored .stored).run ⟨⟨file.map g, none, alive', false⟩, server, queue'⟩ := by
  have hselect : rc.select ≠ .storeFails := by rw [hcopy.1]; decide
  have hselect' : rc'.select ≠ .storeFails := by rw [hpurge.1]; decide
  obtain ⟨stage, g, alive', hrun, -, hstored⟩ := copyNew_run file true false server queue q toPhone
    replace mark hselect
  obtain ⟨rfl, rfl⟩ := hstored hcopy
  obtain ⟨stage', g', alive', hrun', hstored'⟩ := purge_run (file.map g) true false server
    (queue ++ rc.marks (true && file.tables.isSome) (q server.db) mark) q' delete hselect'
  obtain rfl := hstored' (by simpa using hpurge)
  refine ⟨fun d => g' (g d), alive',
    queue ++ rc.marks (true && file.tables.isSome) (q server.db) mark, ?_⟩
  rw [bind_run_ok hrun, bind_run_ok hrun', DbFile.map_map]

/-- **`Synchrodata_work_template`.** -/
private theorem template_answers {rc : ToPhoneRc} (hexists : file.pathFileExists = true)
    (h : rc.Answers file.tables.isSome (server.db.newTemplates rc.win ids).length
      (server.db.deletedTemplates rc.win).length) :
    ∃ g queue', (synchrodataWorkTemplateToPhone ids rc).run
        ⟨⟨file, none, alive, true⟩, server, queue⟩ =
      (.ok true, ⟨⟨file.map g, none, false, true⟩, server, queue'⟩) := by
  obtain ⟨hopen, hcopy, hpurge⟩ := h
  obtain ⟨g, alive', queue', hrun⟩ := copyPurge_answers server queue file
    (MysqlDB.newTemplates rc.win ids) Row.read SqliteDB.replaceTemplate
    (fun r => [.mark .work_template r.Id]) (MysqlDB.deletedTemplates rc.win)
    SqliteDB.deleteTemplate (fun copied purged => if purged = .notSelected then pure false else do
      onSq closeDataBase
      pure (copied = .stored && purged = .stored)) hcopy hpurge
  refine ⟨g, queue', ?_⟩
  unfold synchrodataWorkTemplateToPhone
  rw [bind_run_ok (read_run _), if_neg (by simp [hexists]), hopen,
    bind_run_ok (opened_run file alive server queue), DbFile.created_of_exists hexists, if_pos rfl]
  exact hrun.trans rfl

/-- **`Synchrodata_work_type`.** -/
private theorem type_answers {rc : ToPhoneRc} (hexists : file.pathFileExists = true)
    (h : rc.Answers file.tables.isSome (server.db.newWorkTypes rc.win ids).length
      (server.db.deletedWorkTypes rc.win).length) :
    ∃ g queue', (synchrodataWorkTypeToPhone ids rc).run
        ⟨⟨file, none, alive, true⟩, server, queue⟩ =
      (.ok true, ⟨⟨file.map g, none, false, true⟩, server, queue'⟩) := by
  obtain ⟨hopen, hcopy, hpurge⟩ := h
  obtain ⟨g, alive', queue', hrun⟩ := copyPurge_answers server queue file
    (MysqlDB.newWorkTypes rc.win ids) Row.read SqliteDB.replaceWorkType
    (fun r => [.mark .work_type r.Id]) (MysqlDB.deletedWorkTypes rc.win)
    SqliteDB.deleteWorkType (fun copied purged => do
      onSq closeDataBase
      pure (copied = .stored && purged = .stored)) hcopy hpurge
  refine ⟨g, queue', ?_⟩
  unfold synchrodataWorkTypeToPhone
  rw [bind_run_ok (read_run _), if_neg (by simp [hexists]), hopen,
    bind_run_ok (opened_run file alive server queue), DbFile.created_of_exists hexists, if_pos rfl]
  exact hrun.trans rfl

/-- **`Synchrodata_device_info`**, which may create the file. -/
private theorem devices_answers {rc : ToPhoneRc} (fw : TongbuFw)
    (h : rc.Answers file.tables.isSome (server.db.newDevices fw rc.win ids).length
      (server.db.deletedDevices fw rc.win ids).length) :
    ∃ w', (synchrodataDeviceInfoToPhone ids fw rc).run
        ⟨⟨file, none, alive, true⟩, server, queue⟩ = (.ok true, w') ∧ w'.sq.tx = none := by
  obtain ⟨hopen, hcopy, hpurge⟩ := h
  rw [← DbFile.tables_created] at hcopy hpurge
  obtain ⟨g, alive', queue', hrun⟩ := copyPurge_answers server queue file.created
    (MysqlDB.newDevices fw rc.win ids) deviceToPhone SqliteDB.replaceDevice
    (fun r => [.mark .device_info r.Id]) (MysqlDB.deletedDevices fw rc.win ids)
    SqliteDB.deleteDevice (fun copied purged => do
      onSq closeDataBase
      pure (copied = .stored && purged = .stored)) hcopy hpurge
  refine ⟨⟨⟨file.created.map g, none, false, true⟩, server, queue'⟩, ?_, rfl⟩
  unfold synchrodataDeviceInfoToPhone
  rw [hopen, bind_run_ok (opened_run file alive server queue), if_pos rfl]
  exact hrun.trans rfl

/-- **`Synchrodata_work_task`.** -/
private theorem task_answers {rc : TaskToPhoneRc} (hexists : file.pathFileExists = true)
    (h : rc.Answers ids file.tables.isSome server.db) :
    ∃ g server' queue', (synchrodataWorkTaskToPhone ids rc).run
        ⟨⟨file, none, alive, true⟩, server, queue⟩ =
      (.ok true, ⟨⟨file.map g, none, false, true⟩, server', queue'⟩) := by
  obtain ⟨hopen, hselect2, hselect3, hcopy⟩ := h
  have h2 : rc.select2 ≠ .storeFails := by rw [hselect2]; decide
  have h3 : rc.select3 ≠ .storeFails := by rw [hselect3]; decide
  have hselect : rc.copy.select ≠ .storeFails := by rw [hcopy.1]; decide
  obtain ⟨g₂, alive₂, hrun₂, halive₂⟩ := deleteTasks2_any file true false server queue h2
  obtain ⟨g₃, alive₃, hrun₃, halive₃⟩ :=
    deleteTasks3_any (file.map g₂) alive₂ false server queue h3
  obtain ⟨stage, g₄, alive₄, hrun₄, -, hstored⟩ := copyNew_run ((file.map g₂).map g₃) alive₃ false
    (server.execAll (rc.hardDeletes server.db)) queue (MysqlDB.newTasks rc.win ids) taskToPhone
    SqliteDB.replaceTask (fun r => [markTaskStmt r]) hselect
  -- the copy reads what the second pass has left, over the connection it has left
  have hsucceeds : stage = .stored := by
    refine (hstored ⟨hcopy.1, ?_⟩).1
    rw [Server.execAll_db]
    refine hcopy.2.imp_right fun ⟨hfile, hok⟩ => ⟨?_, hok⟩
    rw [Bool.and_eq_true] at hfile
    rw [halive₃ (by simpa using hfile.2), halive₂ hfile.2, Bool.true_and, hfile.1]
    simpa using hfile.2
  subst hsucceeds
  refine ⟨fun d => g₄ (g₃ (g₂ d)), server.execAll (rc.hardDeletes server.db),
    queue ++ rc.copy.marks (alive₃ && ((file.map g₂).map g₃).tables.isSome)
      ((server.execAll (rc.hardDeletes server.db)).db.newTasks rc.win ids)
      fun r => [markTaskStmt r], ?_⟩
  unfold synchrodataWorkTaskToPhone
  rw [bind_run_ok (read_run _), if_neg (by simp [hexists]), hopen,
    bind_run_ok (opened_run file alive server queue), DbFile.created_of_exists hexists, if_pos rfl,
    bind_run_ok hrun₂, bind_run_ok hrun₃, bind_run_ok hrun₄, bind_run_ok (closed_run _ _ _ _),
    DbFile.map_map, DbFile.map_map, hselect2, hselect3]
  rfl

/-- **`Synchrodata_work_record`.** -/
private theorem record_answers {rc : RecordToPhoneRc} (hexists : file.pathFileExists = true)
    (h : rc.Answers) :
    ∃ w', (synchrodataWorkRecordToPhone rc).run ⟨⟨file, none, alive, true⟩, server, queue⟩ =
      (.ok true, w') ∧ w'.sq.tx = none := by
  have hselect : rc.copy.select ≠ .storeFails := by rw [h.2]; decide
  obtain ⟨stage, g, alive', hrun, hstage, -⟩ := copyNew_run file true false server queue
    (MysqlDB.newRecords rc.win) recordToPhone SqliteDB.replaceRecord
    (fun r => [.mark .work_record r.Id]) hselect
  -- of the copy it asks only whether the query went through
  have hselected : stage ≠ .notSelected := fun hstage' => hstage.1 hstage' h.2
  refine ⟨⟨⟨file.map g, none, false, true⟩, server, queue ++ rc.copy.marks
    (true && file.tables.isSome) (server.db.newRecords rc.win) fun r => [.mark .work_record r.Id]⟩,
    ?_, rfl⟩
  · unfold synchrodataWorkRecordToPhone
    rw [bind_run_ok (read_run _), if_neg (by simp [hexists]), h.1,
      bind_run_ok (opened_run file alive server queue), DbFile.created_of_exists hexists,
      if_pos rfl, bind_run_ok hrun, bind_run_ok (closed_run _ _ _ _)]
    simp only [ne_eq, hselected, not_false_eq_true, decide_true]
    rfl

/-- **`Synchrodata_sys_user`.** -/
private theorem users_answers {rc : UserToPhoneRc} (hexists : file.pathFileExists = true)
    (h : rc.Answers file.tables.isSome (server.db.newUsers ids).length
      (server.db.deletedUsers ids).length) :
    ∃ w', (synchrodataSysUser ids rc).run ⟨⟨file, none, alive, true⟩, server, queue⟩ =
      (.ok true, w') ∧ w'.sq.tx = none := by
  obtain ⟨hopen, hcopy, hpurge⟩ := h
  have hselect : rc.copy.select ≠ .storeFails := by rw [hcopy.1]; decide
  have hselect' : rc.purge.select ≠ .storeFails := by rw [hpurge.1]; decide
  obtain ⟨stage, g, alive', hrun, hstored⟩ := copyUsers_run file true false server queue ids hselect
  obtain ⟨rfl, rfl⟩ := hstored hcopy
  obtain ⟨stage', g', alive', hrun', hstored'⟩ := purge_run (file.map g) true false server
    (queue ++ if rc.copy.select = .ok then
      (server.db.newUsers ids).map fun r => .mark .sys_user r.Id else [])
    (MysqlDB.deletedUsers ids) SqliteDB.deleteUser hselect'
  obtain rfl := hstored' (by simpa using hpurge)
  refine ⟨⟨⟨(file.map g).map g', none, false, true⟩, server, queue ++ if rc.copy.select = .ok then
    (server.db.newUsers ids).map fun r => .mark .sys_user r.Id else []⟩, ?_, rfl⟩
  unfold synchrodataSysUser
  rw [bind_run_ok (read_run _), if_neg (by simp [hexists]), hopen,
    bind_run_ok (opened_run file alive server queue), DbFile.created_of_exists hexists, if_pos rfl,
    bind_run_ok hrun, bind_run_ok hrun', bind_run_ok (closed_run _ _ _ _)]
  rfl

/-! ### The marks queued -/

/-- A routine that returns has not met a query that crashed. -/
private theorem select_of_ok {ρ α : Type} {rc : SelectRc} {q : MysqlDB → List ρ}
    {f : Option (List ρ) → Act World α} {w w' : World} {a : α}
    (h : (onServer (select rc q) >>= f).run w = (.ok a, w')) : rc ≠ .storeFails := by
  rintro rfl
  cases h

private theorem copyNew_ok {ρ τ : Type} [Bound τ] {rc : CopyNewRc} {q : MysqlDB → List ρ}
    {toPhone : ρ → τ} {replace : SqliteDB → τ → SqliteDB} {mark : ρ → List MyStmt}
    {gate : Bool} {stage : Stage} {w' : World}
    (h : (copyNew rc q toPhone replace mark).run ⟨⟨file, none, alive, gate⟩, server, queue⟩ =
      (.ok stage, w')) :
    ∃ g alive', w' = ⟨⟨file.map g, none, alive', gate⟩, server,
      queue ++ rc.marks (alive && file.tables.isSome) (q server.db) mark⟩ := by
  obtain ⟨stage', g, alive', hrun, -⟩ := copyNew_run file alive gate server queue q toPhone replace
    mark (select_of_ok h)
  rw [hrun] at h
  cases h
  exact ⟨g, alive', rfl⟩

/-- A copy and a delete that return, one after the other. -/
private theorem copyPurge_ok {ρ τ : Type} [Bound τ] {rc : CopyNewRc} {rc' : PurgeRc}
    {q : MysqlDB → List ρ} {toPhone : ρ → τ} {replace : SqliteDB → τ → SqliteDB}
    {mark : ρ → List MyStmt} {q' : MysqlDB → List String}
    {delete : SqliteDB → String → SqliteDB} {f : Stage → Stage → Act World Bool} {b : Bool}
    {w' : World} (h : (copyNew rc q toPhone replace mark >>= fun copied =>
        purge rc' q' delete >>= fun purged => f copied purged).run
          ⟨⟨file, none, true, false⟩, server, queue⟩ = (.ok b, w')) :
    ∃ stage stage' g alive', (f stage stage').run ⟨⟨file.map g, none, alive', false⟩, server,
      queue ++ rc.marks file.tables.isSome (q server.db) mark⟩ = (.ok b, w') := by
  obtain ⟨stage, w₁, hcopy, h⟩ := of_bind_run_ok h
  obtain ⟨g, alive', rfl⟩ := copyNew_ok true server queue hcopy
  obtain ⟨stage', w₂, hpurge, h⟩ := of_bind_run_ok h
  obtain ⟨_, g', alive₂, hrun, -⟩ := purge_run (file.map g) alive' false server
    (queue ++ rc.marks (true && file.tables.isSome) (q server.db) mark) q' delete
    (select_of_ok hpurge)
  rw [hrun] at hpurge
  cases hpurge
  rw [DbFile.map_map] at h
  exact ⟨stage, stage', fun d => g' (g d), alive₂, h⟩

/-- A routine that returns: the file is not there, or cannot be opened, or the body returns. -/
private theorem whenExists_ok {openDb gate : Bool} {body : Act World Bool} {b : Bool} {w' : World}
    (h : (read >>= fun w : World => if !w.sq.file.pathFileExists then pure false
      else onSq (openDataBase openDb) >>= fun o => if o then body else pure false).run
        ⟨⟨file, none, alive, gate⟩, server, queue⟩ = (.ok b, w')) :
    (openDb && file.pathFileExists) = false ∧
        (∃ alive', w' = ⟨⟨file, none, alive', gate⟩, server, queue⟩) ∨
      (openDb && file.pathFileExists) = true ∧
        body.run ⟨⟨file, none, true, false⟩, server, queue⟩ = (.ok b, w') := by
  rw [bind_run_ok (read_run _)] at h
  cases hexists : file.pathFileExists with
  | false =>
    rw [if_pos (by simp [hexists])] at h
    cases h
    exact .inl ⟨Bool.and_false _, alive, rfl⟩
  | true =>
    rw [if_neg (by simp [hexists])] at h
    cases gate with
    -- a gate that is closed is waited for
    | false => cases h
    | true =>
      cases openDb with
      | false =>
        cases h
        exact .inl ⟨rfl, false, rfl⟩
      | true =>
        rw [bind_run_ok (opened_run file alive server queue), if_pos rfl,
          DbFile.created_of_exists hexists] at h
        exact .inr ⟨rfl, h⟩

private theorem CopyNewRc.marks_of_false {ρ : Type} (rc : CopyNewRc) (rows : List ρ)
    (mark : ρ → List MyStmt) : rc.marks false rows mark = [] :=
  if_neg fun h => Bool.false_ne_true h.2.1

/-- Without a file there are no tables. -/
private theorem opens_of_tables {openDb : Bool} {x : DbFile SqliteDB}
    (h : (openDb && x.pathFileExists) = false) : (openDb && x.tables.isSome) = false := by
  cases x with
  | missing => exact Bool.and_false _
  | blank => exact Bool.and_false _
  | holds d => exact h

private theorem opens_iff_tables {openDb : Bool} {x : DbFile SqliteDB}
    (h : (openDb && x.pathFileExists) = true) :
    (openDb && x.tables.isSome) = x.tables.isSome := by
  rw [Bool.and_eq_true] at h
  rw [h.1, Bool.true_and]

/-- **`Synchrodata_work_template`.** -/
private theorem template_marks {rc : ToPhoneRc} {gate b : Bool} {w' : World}
    (h : (synchrodataWorkTemplateToPhone ids rc).run
      ⟨⟨file, none, alive, gate⟩, server, queue⟩ = (.ok b, w')) :
    ∃ g alive' gate', w' = ⟨⟨file.map g, none, alive', gate'⟩, server,
      queue ++ rc.copy.marks (rc.openDb && file.tables.isSome)
        (server.db.newTemplates rc.win ids) fun r => [.mark .work_template r.Id]⟩ := by
  rcases whenExists_ok alive server queue h with ⟨hno, alive', rfl⟩ | ⟨hopen, hbody⟩
  · rw [opens_of_tables hno, CopyNewRc.marks_of_false, List.append_nil]
    exact ⟨fun d => d, alive', gate, by rw [DbFile.map_id]⟩
  · obtain ⟨stage, stage', g, alive', hrest⟩ := copyPurge_ok server queue hbody
    rw [opens_iff_tables hopen]
    split at hrest
    · cases hrest
      exact ⟨g, _, _, rfl⟩
    · cases hrest
      exact ⟨g, _, _, rfl⟩

/-- **`Synchrodata_work_type`.** -/
private theorem type_marks {rc : ToPhoneRc} {gate b : Bool} {w' : World}
    (h : (synchrodataWorkTypeToPhone ids rc).run
      ⟨⟨file, none, alive, gate⟩, server, queue⟩ = (.ok b, w')) :
    ∃ g alive' gate', w' = ⟨⟨file.map g, none, alive', gate'⟩, server,
      queue ++ rc.copy.marks (rc.openDb && file.tables.isSome)
        (server.db.newWorkTypes rc.win ids) fun r => [.mark .work_type r.Id]⟩ := by
  rcases whenExists_ok alive server queue h with ⟨hno, alive', rfl⟩ | ⟨hopen, hbody⟩
  · rw [opens_of_tables hno, CopyNewRc.marks_of_false, List.append_nil]
    exact ⟨fun d => d, alive', gate, by rw [DbFile.map_id]⟩
  · obtain ⟨stage, stage', g, alive', hrest⟩ := copyPurge_ok server queue hbody
    rw [opens_iff_tables hopen]
    cases hrest
    exact ⟨g, _, _, rfl⟩

/-- **`Synchrodata_device_info`.** -/
private theorem devices_marks {rc : ToPhoneRc} (fw : TongbuFw) {gate b : Bool} {w' : World}
    (h : (synchrodataDeviceInfoToPhone ids fw rc).run
      ⟨⟨file, none, alive, gate⟩, server, queue⟩ = (.ok b, w')) :
    w'.sq.tx = none ∧ w'.updateMysqlData = queue ++
      rc.copy.marks (rc.openDb && file.tables.isSome) (server.db.newDevices fw rc.win ids)
        fun r => [.mark .device_info r.Id] := by
  unfold synchrodataDeviceInfoToPhone at h
  cases gate with
  | false => cases h
  | true =>
    cases hopen : rc.openDb with
    | false =>
      rw [hopen] at h
      cases h
      rw [Bool.false_and, CopyNewRc.marks_of_false, List.append_nil]
      exact ⟨rfl, rfl⟩
    | true =>
      rw [hopen, bind_run_ok (opened_run file alive server queue), if_pos rfl] at h
      obtain ⟨stage, stage', g, alive', hrest⟩ := copyPurge_ok server queue h
      rw [DbFile.tables_created] at hrest
      cases hrest
      exact ⟨rfl, by rw [Bool.true_and]⟩

/-- **`Synchrodata_work_task`.** -/
private theorem task_marks {rc : TaskToPhoneRc} {gate b : Bool} {w' : World}
    (h : (synchrodataWorkTaskToPhone ids rc).run
      ⟨⟨file, none, alive, gate⟩, server, queue⟩ = (.ok b, w')) :
    ∃ g alive' gate' server', w' = ⟨⟨file.map g, none, alive', gate'⟩, server',
      queue ++ rc.copy.marks (rc.openDb && file.tables.isSome &&
          rc.alive3 server.db (rc.alive2 server.db)) ((rc.left server.db).newTasks rc.win ids)
        fun r => [markTaskStmt r]⟩ ∧
      (file.tables.isSome = true →
        server'.db = if rc.openDb then rc.left server.db else server.db) := by
  rcases whenExists_ok alive server queue h with ⟨hno, alive', rfl⟩ | ⟨hopen, hbody⟩
  · rw [opens_of_tables hno, Bool.false_and, CopyNewRc.marks_of_false, List.append_nil]
    refine ⟨fun d => d, alive', gate, server, by rw [DbFile.map_id], fun htables => ?_⟩
    -- there are tables, so it is the call that failed, and the server was not reached
    have hopenDb := opens_of_tables hno
    rw [htables, Bool.and_true] at hopenDb
    rw [hopenDb]
    rfl
  · obtain ⟨_, w₂, h2, hbody⟩ := of_bind_run_ok hbody
    obtain ⟨g₂, alive₂, hrun₂, halive₂⟩ := deleteTasks2_any file true false server queue
      (select_of_ok h2)
    rw [hrun₂] at h2
    cases h2
    obtain ⟨_, w₃, h3, hbody⟩ := of_bind_run_ok hbody
    obtain ⟨g₃, alive₃, hrun₃, halive₃⟩ := deleteTasks3_any (file.map g₂) alive₂ false server queue
      (select_of_ok h3)
    rw [hrun₃] at h3
    cases h3
    obtain ⟨_, w₄, hcopy, hbody⟩ := of_bind_run_ok hbody
    obtain ⟨g₄, alive₄, rfl⟩ := copyNew_ok alive₃ _ queue hcopy
    cases hbody
    refine ⟨fun d => g₄ (g₃ (g₂ d)), false, true, server.execAll (rc.hardDeletes server.db), ?_,
      fun _ => ?_⟩
    · -- the connection matters only if there are tables
      have halive : (alive₃ && ((file.map g₂).map g₃).tables.isSome) =
          (rc.openDb && file.tables.isSome && rc.alive3 server.db (rc.alive2 server.db)) := by
        rw [opens_iff_tables hopen]
        cases htables : file.tables.isSome with
        | false => simp [htables]
        | true =>
          rw [halive₃ (by simp [htables]), halive₂ htables]
          simp [htables]
      rw [halive, DbFile.map_map, DbFile.map_map, Server.execAll_db]
      rfl
    · rw [Bool.and_eq_true] at hopen
      rw [hopen.1, if_pos rfl, Server.execAll_db]
      rfl

/-- **`Synchrodata_work_record`.** -/
private theorem record_marks {rc : RecordToPhoneRc} {gate b : Bool} {w' : World}
    (h : (synchrodataWorkRecordToPhone rc).run
      ⟨⟨file, none, alive, gate⟩, server, queue⟩ = (.ok b, w')) :
    w'.sq.tx = none ∧ w'.updateMysqlData = queue ++
      rc.copy.marks (rc.openDb && file.tables.isSome) (server.db.newRecords rc.win)
        fun r => [.mark .work_record r.Id] := by
  rcases whenExists_ok alive server queue h with ⟨hno, alive', rfl⟩ | ⟨hopen, hbody⟩
  · rw [opens_of_tables hno, CopyNewRc.marks_of_false, List.append_nil]
    exact ⟨rfl, rfl⟩
  · obtain ⟨_, w₁, hcopy, hbody⟩ := of_bind_run_ok hbody
    obtain ⟨g, alive', rfl⟩ := copyNew_ok true server queue hcopy
    rw [opens_iff_tables hopen]
    cases hbody
    exact ⟨rfl, rfl⟩

/-- **`Synchrodata_sys_user`.** -/
private theorem users_marks {rc : UserToPhoneRc} {gate b : Bool} {w' : World}
    (h : (synchrodataSysUser ids rc).run ⟨⟨file, none, alive, gate⟩, server, queue⟩ =
      (.ok b, w')) :
    w'.sq.tx = none ∧ w'.updateMysqlData = queue ++
      if (rc.openDb && file.pathFileExists) = true ∧ rc.copy.select = .ok then
        (server.db.newUsers ids).map fun r => .mark .sys_user r.Id else [] := by
  rcases whenExists_ok alive server queue h with ⟨hno, alive', rfl⟩ | ⟨hopen, hbody⟩
  · have hnone : ¬((rc.openDb && file.pathFileExists) = true ∧ rc.copy.select = .ok) :=
      fun h => Bool.false_ne_true (hno.symm.trans h.1)
    rw [if_neg hnone, List.append_nil]
    exact ⟨rfl, rfl⟩
  · obtain ⟨_, w₁, hcopy, hbody⟩ := of_bind_run_ok hbody
    obtain ⟨_, g, alive', hrun, -⟩ := copyUsers_run file true false server queue ids
      (select_of_ok hcopy)
    rw [hrun] at hcopy
    cases hcopy
    obtain ⟨_, w₂, hpurge, hbody⟩ := of_bind_run_ok hbody
    obtain ⟨_, g', alive₂, hrun', -⟩ := purge_run (file.map g) alive' false server
      (queue ++ if rc.copy.select = .ok then
        (server.db.newUsers ids).map fun r => .mark .sys_user r.Id else [])
      (MysqlDB.deletedUsers ids) SqliteDB.deleteUser (select_of_ok hpurge)
    rw [hrun'] at hpurge
    cases hpurge
    cases hbody
    refine ⟨rfl, ?_⟩
    simp only [hopen, true_and]

end Routines

/-! ## §3 The chunks -/

/-- The routines for a chunk of devices' tasks all answer `TRUE`. -/
structure WorkRc.Answers (rc : WorkRc) (ids : List String) (tables : Bool) (db : MysqlDB) :
    Prop where
  template : rc.template.Answers tables (db.newTemplates rc.template.win ids).length
    (db.deletedTemplates rc.template.win).length
  type : rc.type.Answers tables (db.newWorkTypes rc.type.win ids).length
    (db.deletedWorkTypes rc.type.win).length
  task : rc.task.Answers ids tables db
  record : rc.record.Answers

/-- The marks they queue: the records are read from what the tasks have left. -/
def WorkRc.marks (rc : WorkRc) (ids : List String) (tables : Bool) (db : MysqlDB) :
    List MyStmt :=
  let left := if rc.task.openDb then rc.task.left db else db
  (rc.template.copy.marks (rc.template.openDb && tables) (db.newTemplates rc.template.win ids)
      fun r => [.mark .work_template r.Id]) ++
    (rc.type.copy.marks (rc.type.openDb && tables) (db.newWorkTypes rc.type.win ids)
      fun r => [.mark .work_type r.Id]) ++
    (rc.task.copy.marks (rc.task.openDb && tables && rc.task.alive3 db (rc.task.alive2 db))
      ((rc.task.left db).newTasks rc.task.win ids) fun r => [markTaskStmt r]) ++
    (rc.record.copy.marks (rc.record.openDb && tables) (left.newRecords rc.record.win)
      fun r => [.mark .work_record r.Id])

/-- The routine of a mode answers `TRUE` for a chunk, from this state on: the gate is open, and all
calls succeed that are looked at. -/
def ChunkAnswers (sel : Selection) (mode : RadioChoose) (rc : SwitchRc) (k : ℕ)
    (ids : List String) (w : World) : Prop :=
  w.sq.eventOpenDB = true ∧
  match mode with
  | .radio_user => w.sq.file.pathFileExists = true ∧ (rc.user k).Answers w.hasTables
      (w.server.db.newUsers ids).length (w.server.db.deletedUsers ids).length
  | .radio_devices => (rc.devices k).toPhone.Answers w.hasTables
      (w.server.db.newDevices sel.fw (rc.devices k).toPhone.win ids).length
      (w.server.db.deletedDevices sel.fw (rc.devices k).toPhone.win ids).length
  | .radio_work =>
      w.sq.file.pathFileExists = true ∧ (rc.work k).Answers ids w.hasTables w.server.db

/-- The marks the routine of a mode queues for a chunk, from this state on. -/
def chunkMarks (sel : Selection) (mode : RadioChoose) (rc : SwitchRc) (k : ℕ)
    (ids : List String) (w : World) : List MyStmt :=
  match mode with
  | .radio_user =>
    if ((rc.user k).openDb && w.sq.file.pathFileExists) = true ∧ (rc.user k).copy.select = .ok then
      (w.server.db.newUsers ids).map fun r => .mark .sys_user r.Id
    else []
  | .radio_devices =>
    (rc.devices k).toPhone.copy.marks ((rc.devices k).toPhone.openDb && w.hasTables)
      (w.server.db.newDevices sel.fw (rc.devices k).toPhone.win ids)
      fun r => [.mark .device_info r.Id]
  | .radio_work => (rc.work k).marks ids w.hasTables w.server.db

section Chunks

variable {sel : Selection} {mode : RadioChoose} {rc : SwitchRc} {k : ℕ} {ids : List String}
  {w w' : World} {b : Bool}

/-- **A chunk of tasks** that succeeds. -/
private theorem workChunk_answers {rc : WorkRc} {file : DbFile SqliteDB} (alive : Bool)
    (server : Server) (queue : List MyStmt) (hexists : file.pathFileExists = true)
    (h : rc.Answers ids file.tables.isSome server.db) :
    ∃ w', (workChunk .tongbu_to_phone rc ids).run ⟨⟨file, none, alive, true⟩, server, queue⟩ =
      (.ok true, w') ∧ w'.sq.tx = none := by
  obtain ⟨htemplate, htype, htask, hrecord⟩ := h
  obtain ⟨g₁, queue₁, h₁⟩ := template_answers alive server queue ids hexists htemplate
  -- each routine leaves the file with the tables it had
  have hexists₁ : (file.map g₁).pathFileExists = true := by simpa using hexists
  have htype₁ : rc.type.Answers (file.map g₁).tables.isSome
      (server.db.newWorkTypes rc.type.win ids).length
      (server.db.deletedWorkTypes rc.type.win).length := by simpa using htype
  obtain ⟨g₂, queue₂, h₂⟩ := type_answers false server queue₁ ids hexists₁ htype₁
  have hexists₂ : ((file.map g₁).map g₂).pathFileExists = true := by simpa using hexists
  have htask₂ : rc.task.Answers ids ((file.map g₁).map g₂).tables.isSome server.db := by
    simpa using htask
  obtain ⟨g₃, server', queue₃, h₃⟩ := task_answers false server queue₂ ids hexists₂ htask₂
  have hexists₃ : (((file.map g₁).map g₂).map g₃).pathFileExists = true := by simpa using hexists
  obtain ⟨w', h₄, htx⟩ := record_answers false server' queue₃ hexists₃ hrecord
  refine ⟨w', ?_, htx⟩
  unfold workChunk
  rw [bind_run_ok h₁, bind_run_ok h₂, bind_run_ok h₃, bind_run_ok h₄]
  rfl

/-- **A chunk** that answers. -/
theorem chunk_answers (htx : w.sq.tx = none) (h : ChunkAnswers sel mode rc k ids w) :
    ∃ w', (chunkRoutine sel mode rc k ids).run w = (.ok true, w') ∧ w'.sq.tx = none := by
  obtain ⟨⟨file, tx, alive, gate⟩, server, queue⟩ := w
  cases htx
  obtain ⟨hgate, h⟩ := h
  cases hgate
  cases mode with
  | radio_user => exact users_answers alive server queue ids h.1 h.2
  | radio_devices => exact devices_answers alive server queue ids sel.fw h
  | radio_work => exact workChunk_answers alive server queue h.1 h.2

/-- **A chunk of tasks** that returns. -/
private theorem workChunk_marks {rc : WorkRc} {file : DbFile SqliteDB} {alive gate : Bool}
    {server : Server} {queue : List MyStmt}
    (h : (workChunk .tongbu_to_phone rc ids).run ⟨⟨file, none, alive, gate⟩, server, queue⟩ =
      (.ok b, w')) :
    w'.sq.tx = none ∧
      w'.updateMysqlData = queue ++ rc.marks ids file.tables.isSome server.db := by
  unfold workChunk at h
  obtain ⟨_, w₁, htemplate, h⟩ := of_bind_run_ok h
  obtain ⟨g₁, alive₁, gate₁, rfl⟩ := template_marks alive server queue ids htemplate
  obtain ⟨_, w₂, htype, h⟩ := of_bind_run_ok h
  obtain ⟨g₂, alive₂, gate₂, rfl⟩ := type_marks alive₁ server _ ids htype
  obtain ⟨_, w₃, htask, h⟩ := of_bind_run_ok h
  obtain ⟨g₃, alive₃, gate₃, server', rfl, hserver⟩ := task_marks alive₂ server _ ids htask
  obtain ⟨_, w₄, hrecord, h⟩ := of_bind_run_ok h
  have hmarks := record_marks alive₃ server' _ hrecord
  cases h
  refine ⟨hmarks.1, ?_⟩
  rw [hmarks.2, WorkRc.marks]
  simp only [DbFile.tables_map, Option.isSome_map, List.append_assoc] at hserver ⊢
  cases htables : file.tables.isSome with
  | true => rw [hserver htables]
  -- without tables no record is marked
  | false => simp only [Bool.and_false, CopyNewRc.marks_of_false]

/-- **A chunk** that returns has queued its marks. -/
theorem chunk_marks (htx : w.sq.tx = none)
    (h : (chunkRoutine sel mode rc k ids).run w = (.ok b, w')) :
    w'.sq.tx = none ∧
      w'.updateMysqlData = w.updateMysqlData ++ chunkMarks sel mode rc k ids w := by
  obtain ⟨⟨file, tx, alive, gate⟩, server, queue⟩ := w
  cases htx
  cases mode with
  | radio_user => exact users_marks alive server queue ids h
  | radio_devices => exact devices_marks alive server queue ids sel.fw h
  | radio_work => exact workChunk_marks h

end Chunks

/-- The marks queued by the chunks that are worked on, each from the state it starts from. -/
def marksAlong (marks : ℕ → List String → World → List MyStmt)
    (routine : ℕ → List String → Act World Bool) : ℕ → List (List String) → World → List MyStmt
  | _, [], _ => []
  | k, chunk :: chunks, w =>
    if chunk = [] then marksAlong marks routine (k + 1) chunks w
    else marks k chunk w ++ marksAlong marks routine (k + 1) chunks ((routine k chunk).run w).2

/-- What the chunks of a mode queue, from the state before them on. -/
def Selection.marks (sel : Selection) (mode : RadioChoose) (rc : SwitchRc) (w : World) :
    List MyStmt :=
  marksAlong (chunkMarks sel mode rc) (chunkRoutine sel mode rc) 0
    (getArrayItems (sel.chunkIds mode)) w

/-- Every chunk of a mode answers, from the state before them on. -/
def Selection.ChunksAnswer (sel : Selection) (mode : RadioChoose) (rc : SwitchRc) (w : World) :
    Prop :=
  AlongChunks (ChunkAnswers sel mode rc) (chunkRoutine sel mode rc) 0
    (getArrayItems (sel.chunkIds mode)) w

section Loop

variable {sel : Selection} {mode : RadioChoose} {rc : SwitchRc} {k : ℕ}
  {chunks : List (List String)} {w w' : World} {b : Bool}

/-- The loop, a chunk that is empty being skipped. -/
theorem forChunks_cons_nil {routine : ℕ → List String → Act World Bool} :
    (forChunks routine k ([] :: chunks)).run w = (forChunks routine (k + 1) chunks).run w := by
  have hloop : forChunks routine k ([] :: chunks) = (pure true >>= fun ret =>
      forChunks routine (k + 1) chunks >>= fun ret' => pure (ret && ret')) := rfl
  rw [hloop, bind_run_ok (pure_run true w)]
  rcases hrun : (forChunks routine (k + 1) chunks).run w with ⟨e | ret, w'⟩
  · rw [bind_run_error hrun]
  · rw [bind_run_ok hrun]
    rfl

/-- **Chunks** that all answer. -/
private theorem forChunks_answers (htx : w.sq.tx = none)
    (h : AlongChunks (ChunkAnswers sel mode rc) (chunkRoutine sel mode rc) k chunks w) :
    ∃ w', (forChunks (chunkRoutine sel mode rc) k chunks).run w = (.ok true, w') := by
  induction chunks generalizing k w with
  | nil => exact ⟨w, rfl⟩
  | cons chunk chunks ih =>
    rw [AlongChunks] at h
    by_cases hempty : chunk = []
    · subst hempty
      rw [if_pos rfl] at h
      rw [forChunks_cons_nil]
      exact ih htx h
    · -- the condition on the rest is met in the state that this chunk leaves
      rw [if_neg hempty] at h
      obtain ⟨w₁, hrun, htx₁⟩ := chunk_answers htx h.1
      obtain ⟨w', hrest⟩ := ih htx₁ (h.2 true w₁ hrun)
      refine ⟨w', ?_⟩
      unfold forChunks
      rw [if_neg hempty, bind_run_ok hrun, bind_run_ok hrest]
      rfl

/-- **Chunks** that return have queued their marks. -/
private theorem forChunks_marks (htx : w.sq.tx = none)
    (h : (forChunks (chunkRoutine sel mode rc) k chunks).run w = (.ok b, w')) :
    w'.updateMysqlData = w.updateMysqlData ++
      marksAlong (chunkMarks sel mode rc) (chunkRoutine sel mode rc) k chunks w := by
  induction chunks generalizing k w b with
  | nil =>
    cases h
    exact (List.append_nil _).symm
  | cons chunk chunks ih =>
    rw [marksAlong]
    by_cases hempty : chunk = []
    · subst hempty
      rw [forChunks_cons_nil] at h
      rw [if_pos rfl]
      exact ih htx h
    · unfold forChunks at h
      rw [if_neg hempty] at h ⊢
      obtain ⟨_, w₁, hrun, hrest⟩ := of_bind_run_ok h
      obtain ⟨_, _, hchunks, hpure⟩ := of_bind_run_ok hrest
      cases hpure
      obtain ⟨htx₁, hqueue⟩ := chunk_marks htx hrun
      rw [ih htx₁ hchunks, hqueue, hrun, List.append_assoc]

end Loop

theorem Selection.chunks_answer {sel : Selection} {mode : RadioChoose} {rc : SwitchRc} {w : World}
    (htx : w.sq.tx = none) (h : sel.ChunksAnswer mode rc w) :
    ∃ w', (forChunks (chunkRoutine sel mode rc) 0 (getArrayItems (sel.chunkIds mode))).run w =
      (.ok true, w') :=
  forChunks_answers htx h

theorem Selection.queue_of_chunks {sel : Selection} {mode : RadioChoose} {rc : SwitchRc}
    {w w' : World} {b : Bool} (htx : w.sq.tx = none) (hqueue : w.updateMysqlData = [])
    (h : (forChunks (chunkRoutine sel mode rc) 0 (getArrayItems (sel.chunkIds mode))).run w =
      (.ok b, w')) : w'.updateMysqlData = sel.marks mode rc w := by
  rw [forChunks_marks htx h, hqueue]
  rfl

/-! ## §4 The run -/

/-- The statements the delete pass has the server execute, by what the file is: a file without
tables lets nothing be deleted but the users, and without a file nothing is done. -/
def DeleteAreaRc.passStmts (rc : DeleteAreaRc) (a : DeleteArys) : DbFile SqliteDB → List MyStmt
  | .missing => []
  | .blank => if rc.selectUsers = .storeFails then [] else rc.userStmts
  | .holds _ => rc.deviceStmts a ++ rc.areaStmts a ++
      if rc.selectUsers = .storeFails then [] else rc.userStmts

section Pass

variable (rc : DeleteAreaRc) (a : DeleteArys) (alive : Bool) (server : Server)
  (queue : List MyStmt)

/-- On a file without tables every statement fails. -/
private theorem quick_blank {ρ : Type} [Bound ρ] (rc : QuickRc) (f : SqliteDB → ρ → SqliteDB)
    (rows : List ρ) :
    (onSq (quickInsertData rc f (rows.map some))).run
        ⟨⟨.blank, none, alive, false⟩, server, queue⟩ =
      (.ok false, ⟨⟨.blank, none, false, false⟩, server, queue⟩) := by
  obtain ⟨g, hrun⟩ := repeated_run .blank alive false server queue rc f rows
  rw [hrun]
  cases alive <;> rfl

private theorem deleteDevices_blank :
    ∃ alive', (deleteDevices rc a).run ⟨⟨.blank, none, alive, false⟩, server, queue⟩ =
      (.ok (), ⟨⟨.blank, none, alive', false⟩, server, queue⟩) := by
  unfold deleteDevices
  split
  · exact ⟨alive, rfl⟩
  · rw [bind_run_ok (quick_blank alive server queue rc.devices _ _)]
    exact ⟨false, rfl⟩

private theorem deleteAreas_blank :
    ∃ ret alive', (deleteAreas rc a).run ⟨⟨.blank, none, alive, false⟩, server, queue⟩ =
      (.ok ret, ⟨⟨.blank, none, alive', false⟩, server, queue⟩) := by
  unfold deleteAreas
  split
  · exact ⟨true, alive, rfl⟩
  · rw [bind_run_ok (quick_blank alive server queue rc.areas _ _),
      bind_run_ok (quick_blank false server queue rc.users _ _)]
    exact ⟨false, false, rfl⟩

/-- **The users**, on whatever file: the server deletes its own, unless the query crashes. -/
private theorem deleteUsers_any (file : DbFile SqliteDB) :
    (rc.selectUsers = .storeFails ∧
      (deleteUsers rc).run ⟨⟨file, none, alive, false⟩, server, queue⟩ =
        (.error .undefined, ⟨⟨file, none, alive, false⟩, server, queue⟩)) ∨
    rc.selectUsers ≠ .storeFails ∧ ∃ ret file' alive',
      (deleteUsers rc).run ⟨⟨file, none, alive, false⟩, server, queue⟩ =
        (.ok ret, ⟨⟨file', none, alive', false⟩, server.execAll rc.userStmts, queue⟩) := by
  by_cases hselect : rc.selectUsers = .storeFails
  · refine .inl ⟨hselect, ?_⟩
    unfold deleteUsers purge
    rw [hselect]
    rfl
  · replace hselect : (PurgeRc.mk rc.selectUsers rc.marked).select ≠ .storeFails := hselect
    obtain ⟨stage, g, alive', hrun, -⟩ := purge_run file alive false server queue
      MysqlDB.usersToDelete SqliteDB.deleteUser hselect
    refine .inr ⟨hselect, decide (stage = .stored) && rc.oneQuery 0, file.map g, alive', ?_⟩
    unfold deleteUsers
    rw [bind_run_ok hrun]
    rfl

end Pass

section Run

variable {sel : Selection} {mode : RadioChoose} {rc : SwitchRc} {w : World}

/-- **The delete pass**, once the file is open. -/
theorem deleteAreaAndDevice_returns (o : MapOrder) {tree : DeleteTree} (hne : tree ≠ .nullptr)
    {rc : DeleteAreaRc} (hopen : rc.openDb = true) {file : DbFile SqliteDB}
    (hexists : file.pathFileExists = true) (alive : Bool) (server : Server)
    (queue : List MyStmt) :
    ∃ res w', (deleteAreaAndDevice o tree rc).run ⟨⟨file, none, alive, true⟩, server, queue⟩ =
        (res, w') ∧ w'.server = server.execAll (rc.passStmts (tree.arys o) file) ∧
      (rc.selectUsers ≠ .storeFails →
        (∃ ret, res = .ok ret) ∧ w'.sq.tx = none ∧ w'.sq.eventOpenDB = true) := by
  cases tree with
  | nullptr => exact absurd rfl hne
  | node i t f s child sibling =>
    dsimp only [deleteAreaAndDevice]
    generalize (DeleteTree.node i t f s child sibling).arys o = a
    rw [bind_run_ok (read_run _), if_neg (by simp [hexists]), hopen,
      bind_run_ok (opened_run file alive server queue), DbFile.created_of_exists hexists,
      if_pos rfl]
    cases file with
    | missing => cases hexists
    -- a file that holds no tables lets nothing be deleted but the users of the server
    | blank =>
      obtain ⟨alive₁, hdevices⟩ := deleteDevices_blank rc a true server queue
      obtain ⟨ret, alive₂, hareas⟩ := deleteAreas_blank rc a alive₁ server queue
      rw [bind_run_ok hdevices, bind_run_ok hareas, DeleteAreaRc.passStmts]
      rcases deleteUsers_any rc alive₂ server queue .blank with
        ⟨hselect, husers⟩ | ⟨hselect, ret', file', alive₃, husers⟩
      · rw [bind_run_error husers, if_pos hselect]
        exact ⟨_, _, rfl, rfl, fun h => absurd hselect h⟩
      · rw [bind_run_ok husers, if_neg hselect]
        exact ⟨_, _, rfl, rfl, fun _ => ⟨⟨_, rfl⟩, rfl, rfl⟩⟩
    | holds d =>
      obtain ⟨ret, hareas⟩ := deleteAreas_run (rc.devicesEffect a d)
        (server.execAll (rc.deviceStmts a)) queue rc a
      rw [bind_run_ok (deleteDevices_run d server queue rc a), bind_run_ok hareas,
        DeleteAreaRc.passStmts, Server.execAll_append, Server.execAll_append]
      rcases deleteUsers_any rc (rc.areasAlive a)
          ((server.execAll (rc.deviceStmts a)).execAll (rc.areaStmts a)) queue
          (.holds (rc.areasEffect a (rc.devicesEffect a d))) with
        ⟨hselect, husers⟩ | ⟨hselect, ret', file', alive₃, husers⟩
      · rw [bind_run_error husers, if_pos hselect]
        exact ⟨_, _, rfl, rfl, fun h => absurd hselect h⟩
      · rw [bind_run_ok husers, if_neg hselect]
        exact ⟨_, _, rfl, rfl, fun _ => ⟨⟨_, rfl⟩, rfl, rfl⟩⟩

/-- The run goes through to the push, from this state on: no query of the pass and of the areas
crashes, every chunk answers `TRUE`, and the server executes all that was queued. -/
structure SwitchAnswers (sel : Selection) (mode : RadioChoose) (rc : SwitchRc) (w : World) :
    Prop where
  init : rc.init = true
  gate : w.sq.eventOpenDB = true
  pass : sel.m_deleteTree ≠ .nullptr → rc.deleteArea.openDb = true →
    w.sq.file.pathFileExists = true → rc.deleteArea.selectUsers ≠ .storeFails
  areas : mode = .radio_devices → rc.areas.openDb = true →
    (sel.shownAreas ≠ [] → rc.areas.copy.select ≠ .storeFails) ∧
      rc.areas.purge.select ≠ .storeFails
  chunks : sel.hasChunks mode = true → ∀ w', (beforeChunks sel mode rc).run w = (.ok true, w') →
    sel.ChunksAnswer mode rc w' ∧ Batch.reported 99 rc.update 0 (sel.marks mode rc w') = true
  noChunks : sel.hasChunks mode = false → mode = .radio_user →
    sel.m_treeCtrl_curItem.isDevice = false

/-- **The delete pass** of such a run. -/
private theorem pass_returns (h : SwitchAnswers sel mode rc w) (htx : w.sq.tx = none) :
    ∃ ret w', (deleteAreaAndDevice sel.mapOrder sel.m_deleteTree rc.deleteArea).run
        { w with updateMysqlData := [] } = (.ok ret, w') ∧
      w'.sq.tx = none ∧ w'.sq.eventOpenDB = true := by
  obtain ⟨⟨file, tx, alive, gate⟩, server, queue⟩ := w
  cases htx
  obtain rfl : gate = true := h.gate
  have hpass := h.pass
  cases htree : sel.m_deleteTree with
  | nullptr => exact ⟨true, _, rfl, rfl, rfl⟩
  | node i t f s child sibling =>
    rw [htree] at hpass
    cases hexists : file.pathFileExists with
    | false =>
      refine ⟨false, ⟨⟨file, none, alive, true⟩, server, []⟩, ?_, rfl, rfl⟩
      dsimp only [deleteAreaAndDevice]
      rw [bind_run_ok (read_run _), if_pos (by simp [hexists])]
      rfl
    | true =>
      cases hopen : rc.deleteArea.openDb with
      | false =>
        refine ⟨false, ⟨⟨file, none, false, true⟩, server, []⟩, ?_, rfl, rfl⟩
        dsimp only [deleteAreaAndDevice]
        rw [bind_run_ok (read_run _), if_neg (by simp [hexists]), hopen]
        rfl
      | true =>
        have hnode : DeleteTree.node i t f s child sibling ≠ .nullptr := by simp
        obtain ⟨res, w', hrun, -, hreturns⟩ := deleteAreaAndDevice_returns sel.mapOrder hnode hopen
          hexists alive server []
        obtain ⟨⟨ret, rfl⟩, htx, hgate⟩ := hreturns (hpass (by simp) hopen hexists)
        exact ⟨ret, w', hrun, htx, hgate⟩

/-- **The areas** of such a run. -/
private theorem areas_returns (h : SwitchAnswers sel .radio_devices rc w) {w₁ : World}
    (htx : w₁.sq.tx = none) (hgate : w₁.sq.eventOpenDB = true) :
    ∃ ret w', (synchrodataAreasToPhone sel.shownAreas rc.areas).run w₁ = (.ok ret, w') ∧
      w'.sq.tx = none := by
  obtain ⟨⟨file, tx, alive, gate⟩, server, queue⟩ := w₁
  cases htx
  cases hgate
  have hareas := h.areas rfl
  unfold synchrodataAreasToPhone
  cases hopen : rc.areas.openDb with
  | false => exact ⟨false, _, rfl, rfl⟩
  | true =>
    obtain ⟨hcopy, hpurge⟩ := hareas hopen
    rw [bind_run_ok (opened_run file alive server queue), if_pos rfl]
    -- the delete runs whether or not areas are shown and copied
    have hrest : ∀ (stage : Stage) (x : DbFile SqliteDB) (alive' : Bool) (queue' : List MyStmt),
        ∃ ret w', (purge rc.areas.purge MysqlDB.deletedAreas SqliteDB.deleteArea >>= fun purged =>
          onSq closeDataBase >>= fun _ => pure (decide (stage = .stored) &&
            decide (purged = .stored))).run ⟨⟨x, none, alive', false⟩, server, queue'⟩ =
          (.ok ret, w') ∧ w'.sq.tx = none := by
      intro stage x alive' queue'
      obtain ⟨stage', g, alive'', hrun, -⟩ := purge_run x alive' false server queue'
        MysqlDB.deletedAreas SqliteDB.deleteArea hpurge
      rw [bind_run_ok hrun]
      exact ⟨_, _, rfl, rfl⟩
    split
    · rw [bind_run_ok (pure_run _ _)]
      exact hrest _ _ _ _
    · next hshown =>
      obtain ⟨stage, g, alive', hrun, -⟩ := copyNew_run file.created true false server queue
        (MysqlDB.shownAreas sel.shownAreas) areaToPhone SqliteDB.replaceArea (fun _ => [])
        (hcopy hshown)
      rw [bind_run_ok hrun]
      exact hrest _ _ _ _

/-- Up to the chunks such a run returns. -/
private theorem beforeChunks_returns (htx : w.sq.tx = none) (h : SwitchAnswers sel mode rc w) :
    ∃ ret w₁ w₂, (deleteAreaAndDevice sel.mapOrder sel.m_deleteTree rc.deleteArea).run
        { w with updateMysqlData := [] } = (.ok ret, w₁) ∧
      (areasFirst sel mode rc).run w₁ = (.ok (), w₂) ∧ w₂.sq.tx = none := by
  obtain ⟨ret, w₁, hpass, htx₁, hgate⟩ := pass_returns h htx
  cases mode with
  | radio_user => exact ⟨ret, w₁, w₁, hpass, rfl, htx₁⟩
  | radio_work => exact ⟨ret, w₁, w₁, hpass, rfl, htx₁⟩
  | radio_devices =>
    obtain ⟨ret', w₂, hrun, htx₂⟩ := areas_returns h htx₁ hgate
    refine ⟨ret, w₁, w₂, hpass, ?_, htx₂⟩
    rw [areasFirst, bind_run_ok hrun]
    rfl

/-- **A run** whose steps answer goes through to the push. -/
theorem beginSwitchData_answers (htx : w.sq.tx = none) (h : SwitchAnswers sel mode rc w) :
    ∃ w', (beginSwitchData sel .tongbu_to_phone mode rc).run w = (.ok true, w') := by
  have hremove : (removeAll).run w = (.ok (), { w with updateMysqlData := [] }) := rfl
  obtain ⟨ret, w₁, w₂, hpass, hareas, htx₂⟩ := beforeChunks_returns htx h
  cases hhas : sel.hasChunks mode with
  | true =>
    have hbefore : (beforeChunks sel mode rc).run w =
        (.ok true, { w₂ with updateMysqlData := [] }) := by
      rw [beforeChunks, bind_run_ok hremove, if_pos h.init, bind_run_ok hpass, bind_run_ok hareas,
        hhas]
      rfl
    obtain ⟨hanswer, hreported⟩ := h.chunks hhas _ hbefore
    obtain ⟨w₃, hchunks⟩ := Selection.chunks_answer (w := { w₂ with updateMysqlData := [] }) htx₂
      hanswer
    have hqueue := Selection.queue_of_chunks (w := { w₂ with updateMysqlData := [] }) htx₂ rfl
      hchunks
    rcases hrun : (beginSwitchData sel .tongbu_to_phone mode rc).run w with ⟨res, w'⟩
    -- the end is behind the chunks
    cases switchEnd_of_run hrun with
    | early hbefore' ho =>
      rw [hbefore] at hbefore'
      cases hbefore'
      exact absurd rfl ho
    | halts hbefore' hchunks' =>
      rw [hbefore] at hbefore'
      cases hbefore'
      rw [hchunks] at hchunks'
      cases hchunks'
    | updates hbefore' hchunks' =>
      rw [hbefore] at hbefore'
      cases hbefore'
      rw [hchunks] at hchunks'
      cases hchunks'
      rw [hqueue, hreported]
      exact ⟨_, rfl⟩
  -- the block answers at once
  | false =>
    unfold beginSwitchData
    rw [bind_run_ok hremove, if_pos h.init, bind_run_ok hpass]
    cases mode with
    | radio_user =>
      have hdevice := h.noChunks hhas rfl
      rw [Selection.hasChunks, hdevice, Bool.not_false, Bool.true_and] at hhas
      refine ⟨w₁, ?_⟩
      simp only [userBlock, hdevice, hhas]
      rfl
    | radio_work =>
      replace hhas : (sel.m_treeCtrl_curItem.isDevice || sel.m_treeCtrl_curItem.isArea) = false :=
        hhas
      refine ⟨w₁, ?_⟩
      simp only [workBlock, hhas]
      rfl
    | radio_devices =>
      replace hhas : (sel.m_treeCtrl_curItem.isDevice || sel.m_treeCtrl_curItem.isArea) = false :=
        hhas
      rw [Bool.or_eq_false_iff] at hhas
      obtain ⟨ret', w₂', hrun, hrest⟩ := of_bind_run_ok hareas
      refine ⟨w₂', ?_⟩
      dsimp only [devicesBlock]
      rw [bind_run_ok hrun, hhas.1, hhas.2]
      rfl

end Run

end MtpSync
