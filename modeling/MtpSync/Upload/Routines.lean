import MtpSync.World

/-!
# From the phone to the server

The `tongbu_to_pc` branches of `Synchrodata_work_record`, `Synchrodata_work_task` and
`Synchrodata_device_info`.  Each counts the phone rows not uploaded yet, selects them, sends one
statement per row to the server and then marks the rows as synchronised in the temporary file.

- §1 the selections, the statements and the marks
- §2 the routines

Statement texts are kept as data; that a row's text is the statement meant is a question about
quoting, which these routines share with the rest of the program and is not looked at here.
-/

namespace MtpSync

/-! ## §1 Selections, statements and marks -/

namespace SqliteDB

/-- `work_record where SynchronState='0' and CreateDate … and DeviceId in(…)`. -/
def pendingRecords (win : Window) (ids : List String) (d : SqliteDB) :
    List (SqlRow WorkRecordCol) :=
  d.work_record.select fun r =>
    (r.col .SynchronState).eq "0" && win.contains (r.col .CreateDate) &&
      (r.col .DeviceId).isIn ids

/-- `work_task where DeviceId in(…) and SynchronState='0' and CreateDate …`. -/
def pendingTasks (win : Window) (ids : List String) (d : SqliteDB) :
    List (SqlRow WorkTaskCol) :=
  d.work_task.select fun r =>
    (r.col .DeviceId).isIn ids && (r.col .SynchronState).eq "0" &&
      win.contains (r.col .CreateDate)

/-- `device_info where AreaId in(…)`, or `Id in(…)`, `and CreateDate … and SynchronState='0'`. -/
def pendingDevices (fw : TongbuFw) (win : Window) (ids : List String) (d : SqliteDB) :
    List (SqlRow DeviceInfoCol) :=
  d.device_info.select fun r =>
    (match fw with
      | .areas => (r.col .AreaId).isIn ids
      | .devices => ids.contains r.Id) &&
      win.contains (r.col .CreateDate) && (r.col .SynchronState).eq "0"

/-- `UPDATE work_record set SynchronState='1' where Id=?`. -/
def markRecord (d : SqliteDB) (i : String) : SqliteDB :=
  { d with work_record := d.work_record.setWhereId .SynchronState "1" i }

/-- `update work_task set SynchronState='1' where Id = ?`. -/
def markTask (d : SqliteDB) (i : String) : SqliteDB :=
  { d with work_task := d.work_task.setWhereId .SynchronState "1" i }

/-- `update device_info set SynchronState='1' where Id = ?`. -/
def markDevice (d : SqliteDB) (i : String) : SqliteDB :=
  { d with device_info := d.device_info.setWhereId .SynchronState "1" i }

end SqliteDB

/-- The statement that uploads a record: its texts as read, and `SynchronState` `'1'`. -/
def uploadRecord (r : SqlRow WorkRecordCol) : MyStmt :=
  .replaceWorkRecord (r.read.setCol .SynchronState "1")

/-- The statement that uploads a task: an empty `ExecutorTime` becomes NULL. -/
def uploadTask (Systemtime : String) (r : SqlRow WorkTaskCol) : MyStmt :=
  .replaceWorkTask
    { Id := r.Id
      col := fun c =>
        match c with
        | .SynchronState => some "1"
        | .ExecutorTime =>
          if (r.col .ExecutorTime).read = "" then none else some (r.col .ExecutorTime).read
        | c => some (r.col c).read }
    Systemtime

/-- The statement that uploads a device: its `RFID`. -/
def uploadDevice (r : SqlRow DeviceInfoCol) : MyStmt :=
  .updateRFID (r.col .RFID).read r.Id

/-! ## §2 The routines -/

/-- What the calls of a to-PC routine return, and the clock it reads. -/
structure ToPcRc where
  /-- the window computed from the clock -/
  win : Window
  /-- `OpenDataBase` -/
  openDb : Bool
  /-- `select now()` (work_task only) -/
  now : SelectRc
  /-- the server's time -/
  Systemtime : String
  /-- `QuickSelectDataCount` -/
  count : CountRc
  /-- `QuickSelectData` -/
  select : FetchRc
  /-- the statements of `UpdateMysqlDB` -/
  update : ℕ → Bool
  /-- `QuickInsertData` of the marks -/
  mark : QuickRc

/-- Every call succeeds, on 2018-06-21. -/
def ToPcRc.allOk : ToPcRc where
  win := ⟨"2017-12-23 00:00:00", "2018-06-21 12:00:00"⟩
  openDb := true
  now := .ok
  Systemtime := "2018-06-21 12:00:00"
  count := CountRc.allOk
  select := FetchRc.allOk
  update _ := true
  mark := QuickRc.allOk

/-- `Synchrodata_work_record`, to PC, with the selected rows: send them, mark them. -/
def uploadSelectedRecords (rc : ToPcRc) (RFidCount : ℕ)
    (ppAryData : List (SqlRow WorkRecordCol)) : Act World Unit := do
  let ppAryDataSqlite := ptrArray RFidCount (ppAryData.map Row.Id)
  if ← onServer (updateMysqlDB rc.update (ppAryData.map uploadRecord)) then
    let _ ← derefFirst ppAryDataSqlite
    let _ ← onSq (quickInsertData rc.mark SqliteDB.markRecord ppAryDataSqlite)
    deleteAll ppAryDataSqlite
  else
    -- `retFlag = false; retRes &= TRUE`
    deleteAll ppAryDataSqlite

/-- `Synchrodata_work_record`, to PC, with the count. -/
def uploadCountedRecords (ids : List String) (rc : ToPcRc) (ret : Bool) (RFidCount : ℕ) :
    Act World Unit :=
  if ret && 0 < RFidCount then do
    match ← onSq (quickSelectData rc.select (SqliteDB.pendingRecords rc.win ids) RFidCount) with
    | some ppAryData => uploadSelectedRecords rc RFidCount ppAryData
    | none => pure ()
  else pure ()

/-- `Synchrodata_work_record`, to PC. -/
def synchrodataWorkRecordToPc (ids : List String) (rc : ToPcRc) : Act World Bool := do
  let w ← Act.read
  if !w.sq.file.pathFileExists then pure false
  else if ← onSq (openDataBase rc.openDb) then
    let (ret, RFidCount) ← onSq <| quickSelectDataCount rc.count
      (fun d => (d.pendingRecords rc.win ids).length) 0
    uploadCountedRecords ids rc ret RFidCount
    onSq closeDataBase
    -- every failure above goes into the result as `retRes &= TRUE`
    pure true
  else pure false

/-- The statements of the selected tasks; `vecDataTime[0][0]` is read for each of them. -/
def uploadTasks (vecDataTime : List String) (ppAryData : List (SqlRow WorkTaskCol)) :
    Act World (List MyStmt) :=
  match ppAryData, vecDataTime with
  | [], _ => pure []
  | _ :: _, [] => Act.halt .undefined
  | rows, Systemtime :: _ => pure (rows.map (uploadTask Systemtime))

/-- `Synchrodata_work_task`, to PC, with the count: `ret`, `ppAryDataUpdate` (if it was
allocated) and `listUpdateSql`. -/
def selectCountedTasks (ids : List String) (rc : ToPcRc) (vecDataTime : List String)
    (ret : Bool) (RFidCount : ℕ) :
    Act World (Bool × Option (List (Option String)) × List MyStmt) :=
  if ret && 0 < RFidCount then do
    match ← onSq (quickSelectData rc.select (SqliteDB.pendingTasks rc.win ids) RFidCount) with
    | some ppAryData =>
      let listUpdateSql ← uploadTasks vecDataTime ppAryData
      pure (true, some (ptrArray RFidCount (ppAryData.map Row.Id)), listUpdateSql)
    | none => pure (false, some (ptrArray RFidCount []), [])
  else pure (ret, none, [])

/-- `Synchrodata_work_task`, to PC, with the statements: send them, mark the rows. -/
def sendTasks (rc : ToPcRc) (ret : Bool) (ppAryDataUpdate : Option (List (Option String)))
    (listUpdateSql : List MyStmt) : Act World Bool := do
  if ← onServer (updateMysqlDB rc.update listUpdateSql) then
    match ppAryDataUpdate with
    | some ppAryDataUpdate =>
      -- the result of the marking is not looked at
      let _ ← onSq (quickInsertData rc.mark SqliteDB.markTask ppAryDataUpdate)
      deleteAll ppAryDataUpdate
      pure ret
    | none => pure ret
  else pure false

/-- `Synchrodata_work_task`, to PC. -/
def synchrodataWorkTaskToPc (ids : List String) (rc : ToPcRc) : Act World Bool := do
  let w ← Act.read
  if !w.sq.file.pathFileExists then pure false
  else if ← onSq (openDataBase rc.openDb) then
    let vecDataTime ← onServer (select rc.now fun _ => [rc.Systemtime])
    -- an empty `vecDataTime` clears `ret`, and the count overwrites it
    let (ret, RFidCount) ← onSq <| quickSelectDataCount rc.count
      (fun d => (d.pendingTasks rc.win ids).length) 0
    let (ret, ppAryDataUpdate, listUpdateSql) ←
      selectCountedTasks ids rc (vecDataTime.getD []) ret RFidCount
    let ret ← sendTasks rc ret ppAryDataUpdate listUpdateSql
    onSq closeDataBase
    pure ret
  else pure false

/-- `Synchrodata_device_info`, to PC, with the count. -/
def selectCountedDevices (ids : List String) (fw : TongbuFw) (rc : ToPcRc) (ret : Bool)
    (RFidCount : ℕ) : Act World (Bool × Option (List (Option String)) × List MyStmt) :=
  if ret && 0 < RFidCount then do
    match ← onSq
        (quickSelectData rc.select (SqliteDB.pendingDevices fw rc.win ids) RFidCount) with
    | some ppAryData =>
      pure (true, some (ptrArray RFidCount (ppAryData.map Row.Id)), ppAryData.map uploadDevice)
    | none => pure (false, some (ptrArray RFidCount []), [])
  else pure (ret, none, [])

/-- `Synchrodata_device_info`, to PC, with the statements: send them, mark the rows. -/
def sendDevices (rc : ToPcRc) (retRes : Bool) (ppAryDataUpdate : Option (List (Option String)))
    (listUpdateSql : List MyStmt) : Act World Bool := do
  if ← onServer (updateMysqlDB rc.update listUpdateSql) then
    match ppAryDataUpdate with
    | some ppAryDataUpdate =>
      let marked ← onSq (quickInsertData rc.mark SqliteDB.markDevice ppAryDataUpdate)
      deleteAll ppAryDataUpdate
      pure (retRes && marked)
    | none => pure retRes
  else pure false

/-- `Synchrodata_device_info`, to PC. -/
def synchrodataDeviceInfoToPc (ids : List String) (fw : TongbuFw) (rc : ToPcRc) :
    Act World Bool := do
  if ← onSq (openDataBase rc.openDb) then
    let (ret, RFidCount) ← onSq <| quickSelectDataCount rc.count
      (fun d => (d.pendingDevices fw rc.win ids).length) 0
    let (retRes, ppAryDataUpdate, listUpdateSql) ← selectCountedDevices ids fw rc ret RFidCount
    let retRes ← sendDevices rc retRes ppAryDataUpdate listUpdateSql
    onSq closeDataBase
    pure retRes
  else pure false

end MtpSync
