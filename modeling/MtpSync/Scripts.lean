import MtpSync.Lib.Script
import MtpSync.Download.Copies

/-!
# The calls of a run

The calls `BeginSwitchData` makes, down to the operations on the temporary file and on the server:
a `REPLACE INTO` one of the tables with a mark and the query for the users are told apart from the
others.  The log has the states around each `REPLACE INTO` made so far.

- §1 the calls and the log
- §2 the routines to the phone
- §3 the routines to the server
- §4 `BeginSwitchData`
-/

namespace MtpSync

open Act

/-! ## §1 The calls -/

/-- `REPLACE INTO` the table, on the phone. -/
def MarkTable.replace : (T : MarkTable) → SqliteDB → SqlRow T.PhoneCol → SqliteDB
  | .device_info => SqliteDB.replaceDevice
  | .work_type => SqliteDB.replaceWorkType
  | .work_template => SqliteDB.replaceTemplate
  | .work_task => SqliteDB.replaceTask
  | .work_record => SqliteDB.replaceRecord
  | .sys_user => SqliteDB.replaceUser

/-- The calls of a run. -/
inductive SyncCall : Type → Type 1 where
  | read : SyncCall World
  /-- `QuickInsertData` of a `REPLACE INTO` the table -/
  | store (T : MarkTable) (rc : QuickRc) (rows : List (SqlRow T.PhoneCol)) : SyncCall Bool
  /-- any other operation on the temporary file -/
  | sq {α : Type} (m : Act (Sq SqliteDB) α) : SyncCall α
  /-- `Select` of the users to copy -/
  | users (rc : SelectRc) (ids : List String) : SyncCall (Option (List (SqlRow UserTableCol)))
  /-- any other call on the server -/
  | server {α : Type} (m : Act Server α) : SyncCall α
  /-- append to `m_updateMysqlData` -/
  | addTail (sts : List MyStmt) : SyncCall Unit
  /-- `m_updateMysqlData.RemoveAll()` -/
  | removeAll : SyncCall Unit

namespace SyncCall

def act {α : Type} : SyncCall α → Act World α
  | read => Act.read
  | store T rc rows => onSq (quickInsertData rc T.replace (rows.map some))
  | sq m => onSq m
  | users rc ids => onServer (select rc (MysqlDB.newUsers ids))
  | server m => onServer m
  | addTail sts => MtpSync.addTail sts
  | removeAll => MtpSync.removeAll

end SyncCall

/-- A `QuickInsertData` of a `REPLACE INTO` the table: the state it met and the state it left,
whatever it answered. -/
structure StoreCall where
  table : MarkTable
  before : World
  after : World

namespace SyncCall

/-- The `REPLACE INTO` calls so far. -/
abbrev Log := List StoreCall

def log {α : Type} : SyncCall α → World → World → Log → Log
  | store T _ _, w, w', done => done ++ [⟨T, w, w'⟩]
  | _, _, _, done => done

end SyncCall

/-- The calls of a run, and the log of the `REPLACE INTO` calls. -/
abbrev syncCalls : Calls World SyncCall.Log := ⟨SyncCall, SyncCall.act, SyncCall.log⟩

/-- A script of a part of a run. -/
abbrev SyncScript {α : Type} (m : Act World α) := Script syncCalls m

namespace SyncScript

open Script

def call {α : Type} (c : SyncCall α) : SyncScript c.act := Script.call (L := syncCalls) c

/-! ## §2 To the phone -/

variable {ρ τ : Type}

def copyNew (T : MarkTable) (rc : CopyNewRc) (q : MysqlDB → List ρ)
    (toPhone : ρ → SqlRow T.PhoneCol) (mark : ρ → List MyStmt) :
    SyncScript (MtpSync.copyNew rc q toPhone T.replace mark) :=
  seq (call (.server (select rc.select q))) fun
    | none => ret Stage.notSelected
    | some [] => ret Stage.stored
    | some (r :: rest) =>
      seq (call (.store T rc.insert ((r :: rest).map toPhone))) fun _ =>
        ite (seq (call (.addTail ((r :: rest).flatMap mark))) fun _ => ret Stage.stored)
          (ret Stage.notStored)

/-- The areas have no mark. -/
def copyAreas (rc : CopyNewRc) (shown : List String) :
    SyncScript (MtpSync.copyNew rc (MysqlDB.shownAreas shown) areaToPhone SqliteDB.replaceArea
      fun _ => []) :=
  seq (call (.server (select rc.select (MysqlDB.shownAreas shown)))) fun
    | none => ret Stage.notSelected
    | some [] => ret Stage.stored
    | some (r :: rest) =>
      seq (call (.sq (quickInsertData rc.insert SqliteDB.replaceArea
          (((r :: rest).map areaToPhone).map some)))) fun _ =>
        ite (seq (call (.addTail ((r :: rest).flatMap fun _ => []))) fun _ => ret Stage.stored)
          (ret Stage.notStored)

def copyUsers (rc : CopyNewRc) (ids : List String) : SyncScript (MtpSync.copyUsers rc ids) :=
  seq (call (.users rc.select ids)) fun
    | none => ret Stage.notSelected
    | some [] => ret Stage.stored
    | some (r :: rest) =>
      -- the marks come first
      seq (call (.addTail ((r :: rest).map fun (x : SqlRow UserTableCol) =>
        .mark .sys_user x.Id))) fun _ =>
      seq (call (.store .sys_user rc.insert (r :: rest))) fun _ =>
      ite (ret Stage.stored) (ret Stage.notStored)

def purge (rc : PurgeRc) (q : MysqlDB → List String) (delete : SqliteDB → String → SqliteDB) :
    SyncScript (MtpSync.purge rc q delete) :=
  seq (call (.server (select rc.select q))) fun
    | none => ret Stage.notSelected
    | some [] => ret Stage.stored
    | some (i :: rest) =>
      seq (call (.sq (quickInsertData rc.delete delete ((i :: rest).map some)))) fun _ =>
        ite (ret Stage.stored) (ret Stage.notStored)

/-- What a routine does with the file once it is open. -/
def opened {body : Act World Bool} (ok : Bool) (p : SyncScript body) :
    SyncScript (do if ← onSq (openDataBase ok) then body else pure false) :=
  seq (call (.sq (openDataBase ok))) fun _ => ite p (ret false)

/-- A routine that looks for the file first. -/
def whenExists {body : Act World Bool} (p : SyncScript body) :
    SyncScript (do
      let w ← Act.read
      if !w.sq.file.pathFileExists then pure false else body) :=
  seq (call .read) fun _ => ite (ret false) p

/-- The end of a routine. -/
def closed {m : Act World Bool} (p : SyncScript m) :
    SyncScript (do onSq closeDataBase; m) :=
  seq (call (.sq closeDataBase)) fun _ => p

def synchrodataDeviceInfoToPhone (ids : List String) (fw : TongbuFw) (rc : ToPhoneRc) :
    SyncScript (MtpSync.synchrodataDeviceInfoToPhone ids fw rc) :=
  opened rc.openDb <|
    seq (copyNew .device_info rc.copy (MysqlDB.newDevices fw rc.win ids) deviceToPhone
      fun r => [.mark .device_info r.Id]) fun _ =>
    seq (purge rc.purge (MysqlDB.deletedDevices fw rc.win ids) SqliteDB.deleteDevice) fun _ =>
    closed (ret _)

def synchrodataWorkTypeToPhone (ids : List String) (rc : ToPhoneRc) :
    SyncScript (MtpSync.synchrodataWorkTypeToPhone ids rc) :=
  whenExists <| opened rc.openDb <|
    seq (copyNew .work_type rc.copy (MysqlDB.newWorkTypes rc.win ids) Row.read
      fun r => [.mark .work_type r.Id]) fun _ =>
    seq (purge rc.purge (MysqlDB.deletedWorkTypes rc.win) SqliteDB.deleteWorkType) fun _ =>
    closed (ret _)

def synchrodataWorkTemplateToPhone (ids : List String) (rc : ToPhoneRc) :
    SyncScript (MtpSync.synchrodataWorkTemplateToPhone ids rc) :=
  whenExists <| opened rc.openDb <|
    seq (copyNew .work_template rc.copy (MysqlDB.newTemplates rc.win ids) Row.read
      fun r => [.mark .work_template r.Id]) fun _ =>
    seq (purge rc.purge (MysqlDB.deletedTemplates rc.win) SqliteDB.deleteTemplate) fun _ =>
    ite (ret false) (closed (ret _))

def deleteTasks (rc : TaskDeleteRc) (ids : List String) :
    SyncScript (MtpSync.deleteTasks rc ids) :=
  seq (call (.sq (quickInsertData rc.tasks SqliteDB.deleteTask (ids.map some)))) fun _ =>
  seq (call (.sq (quickInsertData rc.subtasks SqliteDB.deleteSubtasks (ids.map some)))) fun _ =>
  seq (call (.sq (quickInsertData rc.records SqliteDB.deleteRecordsOf (ids.map some)))) fun _ =>
  seq (call (.sq (deleteData rc.taskless 0 [SqliteDB.deleteTasklessRecords]))) fun _ =>
  ret ()

def deleteTasks2 (rc : TaskToPhoneRc) : SyncScript (MtpSync.deleteTasks2 rc) :=
  seq (call (.server (select rc.select2 (MysqlDB.deletedTasks "2")))) fun
    | none => ret false
    | some [] => ret true
    | some (i :: rest) => seq (deleteTasks rc.delete2 (i :: rest)) fun _ => ret true

def deleteTasks3 (rc : TaskToPhoneRc) : SyncScript (MtpSync.deleteTasks3 rc) :=
  seq (call (.server (select rc.select3 (MysqlDB.deletedTasks "3")))) fun
    | none => ret false
    | some [] => ret true
    | some (i :: rest) =>
      seq (deleteTasks rc.delete3 (i :: rest)) fun _ =>
      seq (call (.server (updateMysqlDB rc.update3 ((i :: rest).flatMap deleteTaskStmts))))
        fun _ => ret true

def synchrodataWorkTaskToPhone (ids : List String) (rc : TaskToPhoneRc) :
    SyncScript (MtpSync.synchrodataWorkTaskToPhone ids rc) :=
  whenExists <| opened rc.openDb <|
    seq (deleteTasks2 rc) fun _ => seq (deleteTasks3 rc) fun _ =>
    seq (copyNew .work_task rc.copy (MysqlDB.newTasks rc.win ids) taskToPhone
      fun r => [markTaskStmt r]) fun _ =>
    closed (ret _)

def synchrodataWorkRecordToPhone (rc : RecordToPhoneRc) :
    SyncScript (MtpSync.synchrodataWorkRecordToPhone rc) :=
  whenExists <| opened rc.openDb <|
    seq (copyNew .work_record rc.copy (MysqlDB.newRecords rc.win) recordToPhone
      fun r => [.mark .work_record r.Id]) fun _ =>
    closed (ret _)

def synchrodataSysUser (ids : List String) (rc : UserToPhoneRc) :
    SyncScript (MtpSync.synchrodataSysUser ids rc) :=
  whenExists <| opened rc.openDb <|
    seq (copyUsers rc.copy ids) fun _ =>
    seq (purge rc.purge (MysqlDB.deletedUsers ids) SqliteDB.deleteUser) fun _ =>
    closed (ret _)

def synchrodataAreasToPhone (shown : List String) (rc : UserToPhoneRc) :
    SyncScript (MtpSync.synchrodataAreasToPhone shown rc) :=
  opened rc.openDb <|
    -- both branches go on to the same deletes
    ite (seq (ret Stage.stored) fun _ =>
        seq (purge rc.purge MysqlDB.deletedAreas SqliteDB.deleteArea) fun _ => closed (ret _))
      (seq (copyAreas rc.copy shown) fun _ =>
        seq (purge rc.purge MysqlDB.deletedAreas SqliteDB.deleteArea) fun _ => closed (ret _))

/-! ## §3 To the server -/

/-- Following or deleting pointers: undefined, or nothing changes. -/
def derefFirst : (slots : List (Option ρ)) → SyncScript (MtpSync.derefFirst slots)
  | some r :: _ => ret r
  | none :: _ => halt .undefined
  | [] => halt .undefined

def deleteAll (slots : List (Option ρ)) : SyncScript (MtpSync.deleteAll slots) :=
  ite (ret ()) (halt .undefined)

def uploadSelectedRecords (rc : ToPcRc) (RFidCount : ℕ) (rows : List (SqlRow WorkRecordCol)) :
    SyncScript (MtpSync.uploadSelectedRecords rc RFidCount rows) :=
  seq (call (.server (updateMysqlDB rc.update (rows.map uploadRecord)))) fun _ =>
    ite
      (seq (derefFirst (ptrArray RFidCount (rows.map Row.Id))) fun _ =>
        seq (call (.sq (quickInsertData rc.mark SqliteDB.markRecord
          (ptrArray RFidCount (rows.map Row.Id))))) fun _ =>
        deleteAll (ptrArray RFidCount (rows.map Row.Id)))
      (deleteAll (ptrArray RFidCount (rows.map Row.Id)))

def uploadCountedRecords (ids : List String) (rc : ToPcRc) (b : Bool) (RFidCount : ℕ) :
    SyncScript (MtpSync.uploadCountedRecords ids rc b RFidCount) :=
  ite
    (seq (call (.sq (quickSelectData rc.select (SqliteDB.pendingRecords rc.win ids) RFidCount)))
      fun
        | some rows => uploadSelectedRecords rc RFidCount rows
        | none => ret ())
    (ret ())

def synchrodataWorkRecordToPc (ids : List String) (rc : ToPcRc) :
    SyncScript (MtpSync.synchrodataWorkRecordToPc ids rc) :=
  whenExists <| opened rc.openDb <|
    seq (call (.sq (quickSelectDataCount rc.count
      (fun d => (d.pendingRecords rc.win ids).length) 0))) fun (b, RFidCount) =>
    seq (uploadCountedRecords ids rc b RFidCount) fun _ =>
    closed (ret _)

def uploadTasks : (vecDataTime : List String) → (rows : List (SqlRow WorkTaskCol)) →
    SyncScript (MtpSync.uploadTasks vecDataTime rows)
  | _, [] => ret []
  | [], _ :: _ => halt .undefined
  | _ :: _, _ :: _ => ret _

def selectCountedTasks (ids : List String) (rc : ToPcRc) (vecDataTime : List String) (b : Bool)
    (RFidCount : ℕ) : SyncScript (MtpSync.selectCountedTasks ids rc vecDataTime b RFidCount) :=
  ite
    (seq (call (.sq (quickSelectData rc.select (SqliteDB.pendingTasks rc.win ids) RFidCount)))
      fun
        | some rows => seq (uploadTasks vecDataTime rows) fun _ => ret _
        | none => ret (false, some (ptrArray RFidCount []), []))
    (ret (b, none, []))

def sendTasks (rc : ToPcRc) (b : Bool) (ppAryDataUpdate : Option (List (Option String)))
    (listUpdateSql : List MyStmt) :
    SyncScript (MtpSync.sendTasks rc b ppAryDataUpdate listUpdateSql) :=
  seq (call (.server (updateMysqlDB rc.update listUpdateSql))) fun _ =>
    ite
      (match ppAryDataUpdate with
        | some slots =>
          seq (call (.sq (quickInsertData rc.mark SqliteDB.markTask slots))) fun _ =>
          seq (deleteAll slots) fun _ => ret b
        | none => ret b)
      (ret false)

def synchrodataWorkTaskToPc (ids : List String) (rc : ToPcRc) :
    SyncScript (MtpSync.synchrodataWorkTaskToPc ids rc) :=
  whenExists <| opened rc.openDb <|
    seq (call (.server (select rc.now fun _ => [rc.Systemtime]))) fun vecDataTime =>
    seq (call (.sq (quickSelectDataCount rc.count
      (fun d => (d.pendingTasks rc.win ids).length) 0))) fun (b, RFidCount) =>
    seq (selectCountedTasks ids rc (vecDataTime.getD []) b RFidCount)
      fun (b, ppAryDataUpdate, listUpdateSql) =>
    seq (sendTasks rc b ppAryDataUpdate listUpdateSql) fun _ =>
    closed (ret _)

def selectCountedDevices (ids : List String) (fw : TongbuFw) (rc : ToPcRc) (b : Bool)
    (RFidCount : ℕ) : SyncScript (MtpSync.selectCountedDevices ids fw rc b RFidCount) :=
  ite
    (seq (call (.sq
        (quickSelectData rc.select (SqliteDB.pendingDevices fw rc.win ids) RFidCount)))
      fun
        | some _ => ret _
        | none => ret (false, some (ptrArray RFidCount []), []))
    (ret (b, none, []))

def sendDevices (rc : ToPcRc) (b : Bool) (ppAryDataUpdate : Option (List (Option String)))
    (listUpdateSql : List MyStmt) :
    SyncScript (MtpSync.sendDevices rc b ppAryDataUpdate listUpdateSql) :=
  seq (call (.server (updateMysqlDB rc.update listUpdateSql))) fun _ =>
    ite
      (match ppAryDataUpdate with
        | some slots =>
          seq (call (.sq (quickInsertData rc.mark SqliteDB.markDevice slots))) fun _ =>
          seq (deleteAll slots) fun _ => ret _
        | none => ret b)
      (ret false)

def synchrodataDeviceInfoToPc (ids : List String) (fw : TongbuFw) (rc : ToPcRc) :
    SyncScript (MtpSync.synchrodataDeviceInfoToPc ids fw rc) :=
  opened rc.openDb <|
    seq (call (.sq (quickSelectDataCount rc.count
      (fun d => (d.pendingDevices fw rc.win ids).length) 0))) fun (b, RFidCount) =>
    seq (selectCountedDevices ids fw rc b RFidCount) fun (b, ppAryDataUpdate, listUpdateSql) =>
    seq (sendDevices rc b ppAryDataUpdate listUpdateSql) fun _ =>
    closed (ret _)

/-! ## §4 `BeginSwitchData` -/

def deleteDevices (rc : DeleteAreaRc) (a : DeleteArys) :
    SyncScript (MtpSync.deleteDevices rc a) :=
  ite (ret ()) <|
    seq (call (.sq (quickInsertData rc.devices SqliteDB.deleteDevice
      ((a.strAryDevices ++ a.strAryDevicesWant).map some)))) fun _ =>
    seq (call (.sq (deleteData rc.orphans 0 SqliteDB.deleteOrphans))) fun _ =>
    ite
      (seq (call (.server (updateMysqlDB rc.updateDevices
          (a.strAryDevices.map .deleteDeviceInfo)))) fun _ =>
        seq (call (.server (query rc.queryOrphans 0 deleteOrphanStmts))) fun _ => ret ())
      (ret ())

def deleteAreas (rc : DeleteAreaRc) (a : DeleteArys) : SyncScript (MtpSync.deleteAreas rc a) :=
  ite (ret true) <|
    seq (call (.sq (quickInsertData rc.areas SqliteDB.deleteArea
      ((a.strAryAreas ++ a.strAryAreasWant).map some)))) fun _ =>
    seq (call (.sq (quickInsertData rc.users SqliteDB.deleteUsersOf
      ((a.strAryAreas ++ a.strAryAreasWant).map some)))) fun _ =>
    ite (call (.server (updateMysqlDB rc.updateAreas (a.strAryAreas.flatMap deleteAreaStmts))))
      (ret false)

def deleteUsers (rc : DeleteAreaRc) : SyncScript (MtpSync.deleteUsers rc) :=
  seq (purge ⟨rc.selectUsers, rc.marked⟩ MysqlDB.usersToDelete SqliteDB.deleteUser) fun _ =>
  seq (call (.server (oneQuery rc.oneQuery 0 [.deleteSysUserReal]))) fun _ =>
  ret _

def deleteAreaAndDevice (o : MapOrder) (tree : DeleteTree) (rc : DeleteAreaRc) :
    SyncScript (MtpSync.deleteAreaAndDevice o tree rc) :=
  match tree with
  | .nullptr => ret true
  | .node i t f s child sibling =>
    whenExists <| opened rc.openDb <|
      seq (deleteDevices rc ((DeleteTree.node i t f s child sibling).arys o)) fun _ =>
      seq (deleteAreas rc ((DeleteTree.node i t f s child sibling).arys o)) fun _ =>
      seq (deleteUsers rc) fun _ =>
      closed (ret _)

def workChunk (dir : TongbuDir) (rc : WorkRc) (ids : List String) :
    SyncScript (MtpSync.workChunk dir rc ids) :=
  match dir with
  | .tongbu_to_phone =>
    seq (synchrodataWorkTemplateToPhone ids rc.template) fun _ =>
    seq (synchrodataWorkTypeToPhone ids rc.type) fun _ =>
    seq (synchrodataWorkTaskToPhone ids rc.task) fun _ =>
    seq (synchrodataWorkRecordToPhone rc.record) fun _ => ret _
  | .tongbu_to_pc =>
    seq (synchrodataWorkTaskToPc ids rc.taskToPc) fun _ =>
    seq (synchrodataWorkRecordToPc ids rc.recordToPc) fun _ => ret _

def devicesChunk (dir : TongbuDir) (fw : TongbuFw) (rc : DevicesRc) (ids : List String) :
    SyncScript (MtpSync.devicesChunk dir fw rc ids) :=
  match dir with
  | .tongbu_to_phone => synchrodataDeviceInfoToPhone ids fw rc.toPhone
  | .tongbu_to_pc => synchrodataDeviceInfoToPc ids fw rc.toPc

def forChunks {routine : ℕ → List String → Act World Bool}
    (p : ∀ k ids, SyncScript (routine k ids)) :
    (k : ℕ) → (chunks : List (List String)) → SyncScript (MtpSync.forChunks routine k chunks)
  | _, [] => ret true
  | k, chunk :: chunks =>
    -- an empty chunk is passed over
    ite (seq (ret true) fun _ => seq (forChunks p (k + 1) chunks) fun _ => ret _)
      (seq (p k chunk) fun _ => seq (forChunks p (k + 1) chunks) fun _ => ret _)

def chunked {routine : ℕ → List String → Act World Bool}
    (p : ∀ k ids, SyncScript (routine k ids)) (update : ℕ → Bool) (ids : List String) :
    SyncScript (MtpSync.chunked routine update ids) :=
  seq (call .removeAll) fun _ =>
  seq (forChunks p 0 (getArrayItems ids)) fun _ =>
  seq (seq (call .read) fun w => call (.server (updateMysqlDB update w.updateMysqlData)))
    fun _ => ret _

def userBlock (sel : Selection) (rc : SwitchRc) : SyncScript (MtpSync.userBlock sel rc) :=
  ite (ret false) <| ite
    (chunked (fun k ids => synchrodataSysUser ids (rc.user k)) rc.update
      (findChildID sel.m_treeCtrl_curItem))
    (ret true)

/-- The selected devices of `devicesBlock`. -/
def selectedDevices (sel : Selection) (dir : TongbuDir) (rc : SwitchRc) :
    SyncScript (
      if sel.m_treeCtrl_curItem.isDevice then
        MtpSync.chunked (fun k ids => MtpSync.devicesChunk dir .devices (rc.devices k) ids)
          rc.update (findChildTypeID sel.m_treeCtrl_curItem)
      else if sel.m_treeCtrl_curItem.isArea then
        MtpSync.chunked (fun k ids => MtpSync.devicesChunk dir .areas (rc.devices k) ids)
          rc.update (findChildID sel.m_treeCtrl_curItem)
      else pure true) :=
  ite
    (chunked (fun k ids => devicesChunk dir .devices (rc.devices k) ids) rc.update
      (findChildTypeID sel.m_treeCtrl_curItem)) <|
  ite
    (chunked (fun k ids => devicesChunk dir .areas (rc.devices k) ids) rc.update
      (findChildID sel.m_treeCtrl_curItem))
    (ret true)

def devicesBlock (sel : Selection) (dir : TongbuDir) (rc : SwitchRc) :
    SyncScript (MtpSync.devicesBlock sel dir rc) :=
  match dir with
  | .tongbu_to_phone =>
    seq (synchrodataAreasToPhone sel.shownAreas rc.areas) fun _ =>
    selectedDevices sel .tongbu_to_phone rc
  | .tongbu_to_pc => seq (ret ()) fun _ => selectedDevices sel .tongbu_to_pc rc

def workBlock (sel : Selection) (dir : TongbuDir) (rc : SwitchRc) :
    SyncScript (MtpSync.workBlock sel dir rc) :=
  ite
    (chunked (fun k ids => workChunk dir (rc.work k) ids) rc.update
      (findChildTypeID sel.m_treeCtrl_curItem))
    (ret true)

/-- **The calls of `BeginSwitchData`.** -/
def beginSwitchData (sel : Selection) (dir : TongbuDir) (mode : RadioChoose) (rc : SwitchRc) :
    SyncScript (MtpSync.beginSwitchData sel dir mode rc) :=
  seq (call .removeAll) fun _ => ite
    (seq (deleteAreaAndDevice sel.mapOrder sel.m_deleteTree rc.deleteArea) fun _ =>
      match mode with
      | .radio_user => userBlock sel rc
      | .radio_devices => devicesBlock sel dir rc
      | .radio_work => workBlock sel dir rc)
    (ret false)

end SyncScript

end MtpSync
