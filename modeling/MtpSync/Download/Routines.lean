import MtpSync.World

/-!
# From the server to the phone

The `tongbu_to_phone` branches of the table routines.  Each copies server rows into the temporary
file with `REPLACE INTO`, queues the statements that will mark them as synchronised, and deletes
from the file what the server has marked as deleted.

- §1 the rows copied and their marks
- §2 copying and deleting
- §3 the routines
- §4 clearing finished tasks

What a `Select` delivers has no NULLs left, and is bound as it stands.
-/

namespace MtpSync

/-! ## §1 Rows and marks -/

/-- A `device_info` row as it goes to the phone.  `IsBindRFID` is a bit on the server. -/
def deviceToPhone (r : SqlRow DeviceInfoCol) : SqlRow DeviceInfoCol where
  Id := r.Id
  col := fun c =>
    match c with
    | .SynchronState => some "1"
    | .IsBindRFID =>
      if (r.col .IsBindRFID).read = "" then some "0"
      else if (r.col .IsBindRFID).read = "\x01" then some "1"
      else some (r.col .IsBindRFID).read
    | c => some (r.col c).read

/-- A `work_task` row as it goes to the phone. -/
def taskToPhone (r : SqlRow WorkTaskCol) : SqlRow WorkTaskCol := r.read.setCol .SynchronState "1"

theorem taskToPhone_Id (r : SqlRow WorkTaskCol) : (taskToPhone r).Id = r.Id := rfl

/-- A `work_record` row as it goes to the phone. -/
def recordToPhone (r : SqlRow WorkRecordCol) : SqlRow WorkRecordCol :=
  r.read.setCol .SynchronState "1"

/-- An `areas` row as it goes to the phone: six columns of it. -/
def areaToPhone (r : SqlRow AreasCol) : SqlRow AreasCol where
  Id := r.Id
  col := fun c =>
    match c with
    | .Code | .Name | .ParentId | .CreateDate | .CreateUserId => some (r.col c).read
    | .Info | .SynchronState | .isDelete => none

/-- A server account, with its role and its area, as it goes to the phone. -/
def userToPhone (u : SqlRow SysUserCol) (r : SqlRow SysRoleCol) (a : SqlRow AreasCol) :
    SqlRow UserTableCol where
  Id := u.Id
  col := fun c =>
    match c with
    | .LoginName => some (u.col .user_name).read
    | .Name => some (u.col .real_name).read
    | .Password => some (u.col .password).read
    | .Role => some (r.col .role_name).read
    | .AreaName => some (a.col .Name).read
    | .SynchronState => some (u.col .SynchronState).read
    | .pwd_key => some (u.col .pwd_key).read
    | .RoleId => some (u.col .role_id).read
    | .data_areas => some (u.col .data_areas).read

/-- The statement that marks a task: one that was issued also becomes accepted. -/
def markTaskStmt (r : SqlRow WorkTaskCol) : MyStmt :=
  if (r.col .State).read = "1" then .markWorkTaskState2 r.Id else .mark .work_task r.Id

namespace MysqlDB

/-- `device_info where AreaId in(…)`, or `Id in(…)`, `and SynchronState='0' and CreateDate …`. -/
def newDevices (fw : TongbuFw) (win : Window) (ids : List String) (db : MysqlDB) :
    List (SqlRow DeviceInfoCol) :=
  db.device_info.select fun r =>
    (match fw with
      | .areas => (r.col .AreaId).isIn ids
      | .devices => ids.contains r.Id) &&
      (r.col .SynchronState).eq "0" && win.contains (r.col .CreateDate)

/-- `Id FROM device_info where SynchronState='2' and CreateDate …`, in the areas if these were
selected. -/
def deletedDevices (fw : TongbuFw) (win : Window) (ids : List String) (db : MysqlDB) :
    List String :=
  (db.device_info.select fun r =>
    (match fw with
      | .areas => (r.col .AreaId).isIn ids
      | .devices => true) &&
      (r.col .SynchronState).eq "2" && win.contains (r.col .CreateDate)).map Row.Id

/-- `work_type where SynchronState='0' and CreateDate … and DeviceId in(…)`. -/
def newWorkTypes (win : Window) (ids : List String) (db : MysqlDB) : List (SqlRow WorkTypeCol) :=
  db.work_type.select fun r =>
    (r.col .SynchronState).eq "0" && win.contains (r.col .CreateDate) &&
      (r.col .DeviceId).isIn ids

/-- `Id FROM work_type where SynchronState='2' and CreateDate …`. -/
def deletedWorkTypes (win : Window) (db : MysqlDB) : List String :=
  (db.work_type.select fun r =>
    (r.col .SynchronState).eq "2" && win.contains (r.col .CreateDate)).map Row.Id

/-- `work_template te, work_type tk where (te.SynchronState='0' or …='1') and tk.DeviceId in(…)
and tk.CreateDate … and tk.Id = te.WorkTypeId`. -/
def newTemplates (win : Window) (ids : List String) (db : MysqlDB) :
    List (SqlRow WorkTemplateCol) :=
  db.work_template.select fun te =>
    ((te.col .SynchronState).eq "0" || (te.col .SynchronState).eq "1") &&
      (db.work_type.rows.any fun tk =>
        (tk.col .DeviceId).isIn ids && win.contains (tk.col .CreateDate) &&
          (te.col .WorkTypeId).eq tk.Id)

/-- `Id FROM work_template where SynchronState='2' and CreateDate …`. -/
def deletedTemplates (win : Window) (db : MysqlDB) : List String :=
  (db.work_template.select fun r =>
    (r.col .SynchronState).eq "2" && win.contains (r.col .CreateDate)).map Row.Id

/-- `Id FROM work_task where Level='0' and SynchronState='…'`. -/
def mainTasks (state : String) (db : MysqlDB) : List String :=
  (db.work_task.select fun r => (r.col .Level).eq "0" && (r.col .SynchronState).eq state).map Row.Id

/-- The tasks to delete: the main tasks in this state, their subtasks, and the tasks of devices
the server does not have. -/
def deletedTasks (state : String) (db : MysqlDB) : List String :=
  (db.work_task.select fun r =>
    (r.col .AllId).isIn (db.mainTasks state) || (db.mainTasks state).contains r.Id ||
      (r.col .DeviceId).notIn db.device_info.ids).map Row.Id

/-- `work_task where DeviceId in(…) and SynchronState='0' and State<>'0' and CreateDate …`. -/
def newTasks (win : Window) (ids : List String) (db : MysqlDB) : List (SqlRow WorkTaskCol) :=
  db.work_task.select fun r =>
    (r.col .DeviceId).isIn ids && (r.col .SynchronState).eq "0" && (r.col .State).ne "0" &&
      win.contains (r.col .CreateDate)

/-- `work_record where SynchronState='0' and CreateDate …`: of every device. -/
def newRecords (win : Window) (db : MysqlDB) : List (SqlRow WorkRecordCol) :=
  db.work_record.select fun r =>
    (r.col .SynchronState).eq "0" && win.contains (r.col .CreateDate)

/-- `sys_user u, sys_role r, areas a where (u.SynchronState='0' or …='1') and
u.data_areas in(…) and u.data_areas = a.Id and u.role_id = r.id`. -/
def newUsers (ids : List String) (db : MysqlDB) : List (SqlRow UserTableCol) :=
  (db.sys_user.select fun u =>
    ((u.col .SynchronState).eq "0" || (u.col .SynchronState).eq "1") &&
      (u.col .data_areas).isIn ids).flatMap fun u =>
    (db.areas.select fun a => (u.col .data_areas).eq a.Id).flatMap fun a =>
      (db.sys_role.select fun r => (u.col .role_id).eq r.Id).map fun r => userToPhone u r a

/-- `id FROM sys_user where SynchronState='2' and data_areas in(…)`. -/
def deletedUsers (ids : List String) (db : MysqlDB) : List String :=
  (db.sys_user.select fun u =>
    (u.col .SynchronState).eq "2" && (u.col .data_areas).isIn ids).map Row.Id

/-- `areas where Id in(…)`. -/
def shownAreas (ids : List String) (db : MysqlDB) : List (SqlRow AreasCol) :=
  db.areas.select fun r => ids.contains r.Id

/-- `Id FROM areas where SynchronState='2'`. -/
def deletedAreas (db : MysqlDB) : List String :=
  (db.areas.select fun r => (r.col .SynchronState).eq "2").map Row.Id

end MysqlDB

namespace SqliteDB

/-- `REPLACE INTO device_info`. -/
def replaceDevice (d : SqliteDB) (r : SqlRow DeviceInfoCol) : SqliteDB :=
  { d with device_info := d.device_info.replaceInto r }

/-- `REPLACE INTO work_type`. -/
def replaceWorkType (d : SqliteDB) (r : SqlRow WorkTypeCol) : SqliteDB :=
  { d with work_type := d.work_type.replaceInto r }

/-- `REPLACE INTO work_template`. -/
def replaceTemplate (d : SqliteDB) (r : SqlRow WorkTemplateCol) : SqliteDB :=
  { d with work_template := d.work_template.replaceInto r }

/-- `REPLACE INTO work_task`. -/
def replaceTask (d : SqliteDB) (r : SqlRow WorkTaskCol) : SqliteDB :=
  { d with work_task := d.work_task.replaceInto r }

/-- `REPLACE INTO work_record`. -/
def replaceRecord (d : SqliteDB) (r : SqlRow WorkRecordCol) : SqliteDB :=
  { d with work_record := d.work_record.replaceInto r }

/-- `REPLACE INTO user_table`. -/
def replaceUser (d : SqliteDB) (r : SqlRow UserTableCol) : SqliteDB :=
  { d with user_table := d.user_table.replaceInto r }

/-- `REPLACE INTO areas`. -/
def replaceArea (d : SqliteDB) (r : SqlRow AreasCol) : SqliteDB :=
  { d with areas := d.areas.replaceInto r }

/-- `delete from device_info where Id=?`. -/
def deleteDevice (d : SqliteDB) (i : String) : SqliteDB :=
  { d with device_info := d.device_info.deleteId i }

/-- `delete from work_type where Id=?`. -/
def deleteWorkType (d : SqliteDB) (i : String) : SqliteDB :=
  { d with work_type := d.work_type.deleteId i }

/-- `delete from work_template where Id=?`. -/
def deleteTemplate (d : SqliteDB) (i : String) : SqliteDB :=
  { d with work_template := d.work_template.deleteId i }

/-- `delete from work_task where Id=?`. -/
def deleteTask (d : SqliteDB) (i : String) : SqliteDB :=
  { d with work_task := d.work_task.deleteId i }

/-- `delete from work_task where AllId=?`. -/
def deleteSubtasks (d : SqliteDB) (i : String) : SqliteDB :=
  { d with work_task := d.work_task.deleteEq .AllId i }

/-- `DELETE FROM work_record where WorkTaskId=?`. -/
def deleteRecordsOf (d : SqliteDB) (i : String) : SqliteDB :=
  { d with work_record := d.work_record.deleteEq .WorkTaskId i }

/-- `delete from work_record where WorkTaskId not in(select Id from work_task)`. -/
def deleteTasklessRecords (d : SqliteDB) : SqliteDB :=
  { d with work_record := d.work_record.deleteNotIn .WorkTaskId d.work_task.ids }

/-- `delete from user_table where id=?`. -/
def deleteUser (d : SqliteDB) (i : String) : SqliteDB :=
  { d with user_table := d.user_table.deleteId i }

/-- `delete from areas where Id=?`. -/
def deleteArea (d : SqliteDB) (i : String) : SqliteDB :=
  { d with areas := d.areas.deleteId i }

end SqliteDB

/-! ## §2 Copying and deleting -/

/-- Append to `m_updateMysqlData`. -/
def addTail (sts : List MyStmt) : Act World Unit :=
  Act.modify fun w => { w with updateMysqlData := w.updateMysqlData ++ sts }

/-- How far a copy or a delete got. -/
inductive Stage where
  | notSelected | notStored | stored
  deriving DecidableEq

/-- What the calls of a copy return. -/
structure CopyNewRc where
  select : SelectRc
  insert : QuickRc

/-- Copy the rows of `q` to the phone and queue their marks. -/
def copyNew {ρ τ : Type} [Bound τ] (rc : CopyNewRc) (q : MysqlDB → List ρ) (toPhone : ρ → τ)
    (replace : SqliteDB → τ → SqliteDB) (mark : ρ → List MyStmt) : Act World Stage := do
  match ← onServer (select rc.select q) with
  | none => pure .notSelected
  | some [] => pure .stored
  | some vecData =>
    if ← onSq (quickInsertData rc.insert replace ((vecData.map toPhone).map some)) then do
      addTail (vecData.flatMap mark)
      pure .stored
    else pure .notStored

/-- What the calls of a delete return. -/
structure PurgeRc where
  select : SelectRc
  delete : QuickRc

/-- Delete what `q` names from the phone. -/
def purge (rc : PurgeRc) (q : MysqlDB → List String)
    (delete : SqliteDB → String → SqliteDB) : Act World Stage := do
  match ← onServer (select rc.select q) with
  | none => pure .notSelected
  | some [] => pure .stored
  | some vecData =>
    if ← onSq (quickInsertData rc.delete delete (vecData.map some)) then pure .stored
    else pure .notStored

/-- What the calls of a routine return that copies and deletes. -/
structure ToPhoneRc where
  /-- the window computed from the clock -/
  win : Window
  openDb : Bool
  copy : CopyNewRc
  purge : PurgeRc

/-- Every call succeeds. -/
def CopyNewRc.allOk : CopyNewRc := ⟨.ok, QuickRc.allOk⟩

/-- Every call succeeds. -/
def PurgeRc.allOk : PurgeRc := ⟨.ok, QuickRc.allOk⟩

/-- Every call succeeds. -/
def ToPhoneRc.allOk (win : Window) : ToPhoneRc := ⟨win, true, CopyNewRc.allOk, PurgeRc.allOk⟩

/-! ## §3 The routines -/

/-- `Synchrodata_device_info`, to the phone. -/
def synchrodataDeviceInfoToPhone (ids : List String) (fw : TongbuFw) (rc : ToPhoneRc) :
    Act World Bool := do
  if ← onSq (openDataBase rc.openDb) then
    let copied ← copyNew rc.copy (MysqlDB.newDevices fw rc.win ids) deviceToPhone
      SqliteDB.replaceDevice fun r => [.mark .device_info r.Id]
    let purged ← purge rc.purge (MysqlDB.deletedDevices fw rc.win ids) SqliteDB.deleteDevice
    onSq closeDataBase
    pure (copied = .stored && purged = .stored)
  else pure false

/-- `Synchrodata_work_type`, to the phone. -/
def synchrodataWorkTypeToPhone (ids : List String) (rc : ToPhoneRc) : Act World Bool := do
  let w ← Act.read
  if !w.sq.file.pathFileExists then pure false
  else if ← onSq (openDataBase rc.openDb) then
    let copied ← copyNew rc.copy (MysqlDB.newWorkTypes rc.win ids) Row.read
      SqliteDB.replaceWorkType fun r => [.mark .work_type r.Id]
    let purged ← purge rc.purge (MysqlDB.deletedWorkTypes rc.win) SqliteDB.deleteWorkType
    onSq closeDataBase
    pure (copied = .stored && purged = .stored)
  else pure false

/-- `Synchrodata_work_template`, to the phone.  When the second `Select` fails it returns with
the database open. -/
def synchrodataWorkTemplateToPhone (ids : List String) (rc : ToPhoneRc) : Act World Bool := do
  let w ← Act.read
  if !w.sq.file.pathFileExists then pure false
  else if ← onSq (openDataBase rc.openDb) then
    let copied ← copyNew rc.copy (MysqlDB.newTemplates rc.win ids) Row.read
      SqliteDB.replaceTemplate fun r => [.mark .work_template r.Id]
    let purged ← purge rc.purge (MysqlDB.deletedTemplates rc.win) SqliteDB.deleteTemplate
    if purged = .notSelected then pure false
    else do
      onSq closeDataBase
      pure (copied = .stored && purged = .stored)
  else pure false

/-- What the four calls that delete tasks from the phone return. -/
structure TaskDeleteRc where
  tasks : QuickRc
  subtasks : QuickRc
  records : QuickRc
  /-- `DeleteData`; a NULL among the keys of the tasks lets its `not in` delete nothing, as if it
  had failed -/
  taskless : ℕ → Bool

/-- Delete the tasks `ids`, their subtasks and their records from the phone.  No result is
looked at. -/
def deleteTasks (rc : TaskDeleteRc) (ids : List String) : Act World Unit := do
  let _ ← onSq (quickInsertData rc.tasks SqliteDB.deleteTask (ids.map some))
  let _ ← onSq (quickInsertData rc.subtasks SqliteDB.deleteSubtasks (ids.map some))
  let _ ← onSq (quickInsertData rc.records SqliteDB.deleteRecordsOf (ids.map some))
  let _ ← onSq (deleteData rc.taskless 0 [SqliteDB.deleteTasklessRecords])

/-- What the calls of `Synchrodata_work_task` return, to the phone. -/
structure TaskToPhoneRc where
  win : Window
  openDb : Bool
  select2 : SelectRc
  delete2 : TaskDeleteRc
  select3 : SelectRc
  delete3 : TaskDeleteRc
  /-- `UpdateMysqlDB` of the deletes -/
  update3 : ℕ → Bool
  copy : CopyNewRc

/-- Every call succeeds. -/
def TaskDeleteRc.allOk : TaskDeleteRc :=
  ⟨QuickRc.allOk, QuickRc.allOk, QuickRc.allOk, fun _ => true⟩

/-- Every call succeeds. -/
def TaskToPhoneRc.allOk (win : Window) : TaskToPhoneRc where
  win := win
  openDb := true
  select2 := .ok
  delete2 := TaskDeleteRc.allOk
  select3 := .ok
  delete3 := TaskDeleteRc.allOk
  update3 _ := true
  copy := CopyNewRc.allOk

/-- The tasks marked `'2'` on the server: deleted from the phone. -/
def deleteTasks2 (rc : TaskToPhoneRc) : Act World Bool := do
  match ← onServer (select rc.select2 (MysqlDB.deletedTasks "2")) with
  | none => pure false
  | some [] => pure true
  | some vecData => do
    deleteTasks rc.delete2 vecData
    pure true

/-- The server's deletes of a task. -/
def deleteTaskStmts (i : String) : List MyStmt := [.deleteWorkTask i, .deleteWorkRecordOf i]

/-- The tasks marked `'3'` on the server: deleted from the phone and then, whatever came of
that, from the server. -/
def deleteTasks3 (rc : TaskToPhoneRc) : Act World Bool := do
  match ← onServer (select rc.select3 (MysqlDB.deletedTasks "3")) with
  | none => pure false
  | some [] => pure true
  | some vecData => do
    deleteTasks rc.delete3 vecData
    let _ ← onServer (updateMysqlDB rc.update3 (vecData.flatMap deleteTaskStmts))
    pure true

/-- `Synchrodata_work_task`, to the phone. -/
def synchrodataWorkTaskToPhone (ids : List String) (rc : TaskToPhoneRc) : Act World Bool := do
  let w ← Act.read
  if !w.sq.file.pathFileExists then pure false
  else if ← onSq (openDataBase rc.openDb) then
    let deleted2 ← deleteTasks2 rc
    let deleted3 ← deleteTasks3 rc
    let copied ← copyNew rc.copy (MysqlDB.newTasks rc.win ids) taskToPhone SqliteDB.replaceTask
      fun r => [markTaskStmt r]
    onSq closeDataBase
    pure (deleted2 && deleted3 && copied = .stored)
  else pure false

/-- What the calls of `Synchrodata_work_record` return, to the phone. -/
structure RecordToPhoneRc where
  win : Window
  openDb : Bool
  copy : CopyNewRc

/-- Every call succeeds. -/
def RecordToPhoneRc.allOk (win : Window) : RecordToPhoneRc := ⟨win, true, CopyNewRc.allOk⟩

/-- `Synchrodata_work_record`, to the phone; the selected devices play no part in it.  A failed
insert does not reach the result. -/
def synchrodataWorkRecordToPhone (rc : RecordToPhoneRc) : Act World Bool := do
  let w ← Act.read
  if !w.sq.file.pathFileExists then pure false
  else if ← onSq (openDataBase rc.openDb) then
    let copied ← copyNew rc.copy (MysqlDB.newRecords rc.win) recordToPhone
      SqliteDB.replaceRecord fun r => [.mark .work_record r.Id]
    onSq closeDataBase
    pure (copied ≠ .notSelected)
  else pure false

/-- What the calls of `Synchrodata_sys_user` and `Synchrodata_areas` return. -/
structure UserToPhoneRc where
  openDb : Bool
  copy : CopyNewRc
  purge : PurgeRc

/-- Every call succeeds. -/
def UserToPhoneRc.allOk : UserToPhoneRc := ⟨true, CopyNewRc.allOk, PurgeRc.allOk⟩

/-- `Synchrodata_sys_user`.  The marks are queued before the rows are stored. -/
def copyUsers (rc : CopyNewRc) (ids : List String) : Act World Stage := do
  match ← onServer (select rc.select (MysqlDB.newUsers ids)) with
  | none => pure .notSelected
  | some [] => pure .stored
  | some vecData => do
    addTail (vecData.map fun r => .mark .sys_user r.Id)
    if ← onSq (quickInsertData rc.insert SqliteDB.replaceUser (vecData.map some)) then
      pure .stored
    else pure .notStored

/-- `Synchrodata_sys_user`. -/
def synchrodataSysUser (ids : List String) (rc : UserToPhoneRc) : Act World Bool := do
  let w ← Act.read
  if !w.sq.file.pathFileExists then pure false
  else if ← onSq (openDataBase rc.openDb) then
    let copied ← copyUsers rc.copy ids
    let purged ← purge rc.purge (MysqlDB.deletedUsers ids) SqliteDB.deleteUser
    onSq closeDataBase
    pure (copied = .stored && purged = .stored)
  else pure false

/-- `Synchrodata_areas`, to the phone, of the areas `shown` in the tree.  Nothing is queued. -/
def synchrodataAreasToPhone (shown : List String) (rc : UserToPhoneRc) : Act World Bool := do
  if ← onSq (openDataBase rc.openDb) then
    let copied ←
      if shown = [] then pure .stored
      else copyNew rc.copy (MysqlDB.shownAreas shown) areaToPhone SqliteDB.replaceArea fun _ => []
    let purged ← purge rc.purge MysqlDB.deletedAreas SqliteDB.deleteArea
    onSq closeDataBase
    pure (copied = .stored && purged = .stored)
  else pure false

/-! ## §4 Clearing finished tasks -/

/-- What the calls of `Synchrodata_clear_record` return. -/
structure ClearRc where
  openDb : Bool
  count : CountRc
  select : FetchRc
  tasks : QuickRc
  records : QuickRc

/-- Every call succeeds. -/
def ClearRc.allOk : ClearRc :=
  ⟨true, CountRc.allOk, FetchRc.allOk, QuickRc.allOk, QuickRc.allOk⟩

/-- `Id FROM work_task where Level='0' and (State='3' or State='6') and CreateDate …`. -/
def SqliteDB.finishedTasks (range : Window) (d : SqliteDB) : List String :=
  (d.work_task.select fun r =>
    (r.col .Level).eq "0" && ((r.col .State).eq "3" || (r.col .State).eq "6") &&
      range.contains (r.col .CreateDate)).map Row.Id

/-- The finished main tasks and their subtasks. -/
def SqliteDB.clearedTasks (range : Window) (d : SqliteDB) : List String :=
  (d.work_task.select fun r =>
    (r.col .AllId).isIn (d.finishedTasks range) || (d.finishedTasks range).contains r.Id).map Row.Id

/-- `Synchrodata_clear_record`.  The flag the deletes are collected in is a local one: what is
returned tells only that the file was opened and counted. -/
def synchrodataClearRecord (range : Window) (rc : ClearRc) : Act World Bool := do
  let w ← Act.read
  if !w.sq.file.pathFileExists then pure false
  else if ← onSq (openDataBase rc.openDb) then
    let (ret, clearCount) ← onSq <| quickSelectDataCount rc.count
      (fun d => (d.clearedTasks range).length) 0
    if ret then
      if 0 < clearCount then do
        match ← onSq (quickSelectData rc.select (SqliteDB.clearedTasks range) clearCount) with
        | some ppAryData => do
          let slots := ptrArray clearCount ppAryData
          let _ ← derefFirst slots
          let _ ← onSq (quickInsertData rc.tasks SqliteDB.deleteTask slots)
          let _ ← onSq (quickInsertData rc.records SqliteDB.deleteRecordsOf slots)
          deleteAll slots
        | none => pure ()
        onSq closeDataBase
        pure true
      else do
        onSq closeDataBase
        pure true
    -- the database stays open
    else pure false
  else pure false

end MtpSync
