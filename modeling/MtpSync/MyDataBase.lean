import MtpSync.Lib.Act
import MtpSync.Lib.Batch
import MtpSync.Schema

/-!
# The MySQL session

The statements the program sends to the server, what each does to the server's tables, and
the four calls they are sent with: `Select`, `OneQuery` and `Query` of `CMyDataBase`, and
`UpdateMysqlDB`, which concatenates a list of statements into batches of `UPDATEMAX`.

A statement list is kept as data: concatenating texts is appending lists.  The outcome of
every statement is a parameter, `rc i` for the `i`-th statement of a call.  The server runs
the statements of one call in order and stops at the first that fails; `mysql_query` reports
the first statement only, and `Query` drains the later results without looking at them.
-/

namespace MtpSync

/-! ## §1 Statements -/

/-- The server tables with a synchronisation mark set by this program. -/
inductive MarkTable where
  | device_info | work_type | work_template | work_task | work_record | sys_user
  deriving DecidableEq

/-- One SQL statement sent to the server. -/
inductive MyStmt where
  /-- `REPLACE INTO work_record(…) values(…)` -/
  | replaceWorkRecord (r : SqlRow WorkRecordCol)
  /-- `Replace INTO work_task(…,SynchronTime) VALUES(…)` -/
  | replaceWorkTask (r : SqlRow WorkTaskCol) (SynchronTime : String)
  /-- `UPDATE device_info set RFID='…' where Id='…'` -/
  | updateRFID (RFID Id : String)
  /-- `UPDATE t set SynchronState='1' where Id='…'` -/
  | mark (t : MarkTable) (Id : String)
  /-- `UPDATE work_task set SynchronState='1',State='2' where Id='…'` -/
  | markWorkTaskState2 (Id : String)
  /-- `delete from device_info where Id='…'` -/
  | deleteDeviceInfo (Id : String)
  /-- `delete from areas where Id='…'` -/
  | deleteAreas (Id : String)
  /-- `delete from sys_user where data_areas='…'` -/
  | deleteSysUserOf (data_areas : String)
  /-- `delete from sys_user where SynchronState='3'` -/
  | deleteSysUserReal
  /-- `delete from work_task where Id='…'` -/
  | deleteWorkTask (Id : String)
  /-- `DELETE FROM work_record where WorkTaskId='…'` -/
  | deleteWorkRecordOf (WorkTaskId : String)
  /-- `DELETE FROM work_type WHERE DeviceId NOT in (SELECT id FROM device_info)` -/
  | deleteOrphanWorkType
  /-- `DELETE FROM work_template WHERE WorkTypeId NOT in (SELECT id FROM work_type)` -/
  | deleteOrphanWorkTemplate
  /-- `DELETE FROM work_task WHERE DeviceId NOT in (SELECT id FROM device_info)` -/
  | deleteOrphanWorkTask
  /-- `DELETE FROM work_record WHERE DeviceId NOT in (SELECT id FROM device_info)` -/
  | deleteOrphanWorkRecord

/-- The mark of one table. -/
def MysqlDB.mark (db : MysqlDB) (i : String) : MarkTable → MysqlDB
  | .device_info => { db with device_info := db.device_info.setWhereId .SynchronState "1" i }
  | .work_type => { db with work_type := db.work_type.setWhereId .SynchronState "1" i }
  | .work_template =>
    { db with work_template := db.work_template.setWhereId .SynchronState "1" i }
  | .work_task => { db with work_task := db.work_task.setWhereId .SynchronState "1" i }
  | .work_record => { db with work_record := db.work_record.setWhereId .SynchronState "1" i }
  | .sys_user => { db with sys_user := db.sys_user.setWhereId .SynchronState "1" i }

/-- What a statement does to the server's tables. -/
def MyStmt.exec : MyStmt → MysqlDB → MysqlDB
  | .replaceWorkRecord r, db => { db with work_record := db.work_record.replaceInto r }
  | .replaceWorkTask r _, db => { db with work_task := db.work_task.replaceInto r }
  | .updateRFID s i, db => { db with device_info := db.device_info.setWhereId .RFID s i }
  | .mark t i, db => db.mark i t
  | .markWorkTaskState2 i, db =>
    { db with work_task :=
        (db.work_task.setWhereId .SynchronState "1" i).setWhereId .State "2" i }
  | .deleteDeviceInfo i, db => { db with device_info := db.device_info.deleteId i }
  | .deleteAreas i, db => { db with areas := db.areas.deleteId i }
  | .deleteSysUserOf a, db => { db with sys_user := db.sys_user.deleteEq .data_areas a }
  | .deleteSysUserReal, db => { db with sys_user := db.sys_user.deleteEq .SynchronState "3" }
  | .deleteWorkTask i, db => { db with work_task := db.work_task.deleteId i }
  | .deleteWorkRecordOf i, db => { db with work_record := db.work_record.deleteEq .WorkTaskId i }
  | .deleteOrphanWorkType, db =>
    { db with work_type := db.work_type.deleteNotIn .DeviceId db.device_info.ids }
  | .deleteOrphanWorkTemplate, db =>
    { db with work_template := db.work_template.deleteNotIn .WorkTypeId db.work_type.ids }
  | .deleteOrphanWorkTask, db =>
    { db with work_task := db.work_task.deleteNotIn .DeviceId db.device_info.ids }
  | .deleteOrphanWorkRecord, db =>
    { db with work_record := db.work_record.deleteNotIn .DeviceId db.device_info.ids }

/-! ## §2 The server -/

/-- The server: its tables, and the statements it has executed so far.  The log is not part of
the program; it is there to say what was executed. -/
structure Server where
  db : MysqlDB
  executed : List MyStmt

/-- The server executes one statement. -/
def Server.exec (s : Server) (st : MyStmt) : Server :=
  { db := st.exec s.db, executed := s.executed ++ [st] }

/-- The server executes statements in order. -/
def Server.execAll (s : Server) (sts : List MyStmt) : Server := sts.foldl Server.exec s

@[simp] theorem Server.execAll_nil (s : Server) : s.execAll [] = s := rfl

theorem Server.execAll_append (s : Server) (a b : List MyStmt) :
    s.execAll (a ++ b) = (s.execAll a).execAll b :=
  List.foldl_append

@[simp] theorem Server.execAll_executed (s : Server) (sts : List MyStmt) :
    (s.execAll sts).executed = s.executed ++ sts := by
  induction sts generalizing s with
  | nil => simp
  | cons st sts ih =>
    have h : s.execAll (st :: sts) = (s.exec st).execAll sts := rfl
    rw [h, ih, Server.exec, List.append_assoc, List.singleton_append]

/-! ## §3 Calls -/

/-- How a `Select` ends: with its rows, with a failed query, or with no result set for a query
that succeeded, whose row count is then read through a null pointer. -/
inductive SelectRc where
  | ok | queryFails | storeFails
  deriving DecidableEq

/-- `CMyDataBase::Select`: the rows of `q`, or `none` for `false`. -/
def select {ρ : Type} (rc : SelectRc) (q : MysqlDB → List ρ) : Act Server (Option (List ρ)) :=
  match rc with
  | .ok => do
    let s ← Act.read
    pure (some (q s.db))
  | .queryFails => pure none
  | .storeFails => Act.halt .undefined

/-- `CMyDataBase::Query` of a text made of `sts`, whose first statement is number `i`. -/
def query (rc : ℕ → Bool) (i : ℕ) (sts : List MyStmt) : Act Server Bool := do
  Act.modify fun s => s.execAll (Batch.okPrefix rc i sts)
  pure (rc i)

/-- `CMyDataBase::OneQuery` of a text made of `sts`, whose first statement is number `i`;
callers pass a single statement. -/
def oneQuery (rc : ℕ → Bool) (i : ℕ) (sts : List MyStmt) : Act Server Bool := do
  Act.modify fun s => s.execAll (Batch.okPrefix rc i sts)
  pure (rc i)

/-- Statements concatenated into one text at most. -/
def UPDATEMAX : ℕ := 100

/-- The loop of `UpdateMysqlDB`: `strTemp` holds the `sqlNum` statements not sent yet, `i` have
been sent.  A full text is sent before the statement at hand is looked at again. -/
def updateMysqlDBLoop (rc : ℕ → Bool) :
    (list strTemp : List MyStmt) → (sqlNum i : ℕ) → Act Server Bool
  | [], strTemp, sqlNum, i =>
    if strTemp ≠ [] ∧ sqlNum = 1 then oneQuery rc i strTemp
    else if strTemp ≠ [] ∧ sqlNum > 1 then query rc i strTemp
    else pure true
  | st :: list, strTemp, sqlNum, i =>
    if sqlNum + 1 > UPDATEMAX then do
      if ← query rc i strTemp then updateMysqlDBLoop rc list [st] 1 (i + sqlNum)
      else pure false
    else updateMysqlDBLoop rc list (strTemp ++ [st]) (sqlNum + 1) i

/-- `CWPD_MTP_dataDlg::UpdateMysqlDB`. -/
def updateMysqlDB (rc : ℕ → Bool) (list : List MyStmt) : Act Server Bool :=
  updateMysqlDBLoop rc list [] 0 0

/-! ## §4 What the calls do -/

@[simp] theorem select_ok {ρ : Type} (q : MysqlDB → List ρ) (s : Server) :
    (select .ok q).run s = (.ok (some (q s.db)), s) := rfl

@[simp] theorem select_queryFails {ρ : Type} (q : MysqlDB → List ρ) (s : Server) :
    (select .queryFails q).run s = (.ok none, s) := rfl

@[simp] theorem select_storeFails {ρ : Type} (q : MysqlDB → List ρ) (s : Server) :
    (select .storeFails q).run s = (.error .undefined, s) := rfl

/-- A `Select` changes nothing. -/
theorem select_state {ρ : Type} (rc : SelectRc) (q : MysqlDB → List ρ) (s : Server) :
    ((select rc q).run s).2 = s := by
  cases rc <;> rfl

theorem query_run (rc : ℕ → Bool) (i : ℕ) (sts : List MyStmt) (s : Server) :
    (query rc i sts).run s = (.ok (rc i), s.execAll (Batch.okPrefix rc i sts)) := rfl

/-- A text that holds the whole rest of the list is its last batch. -/
private theorem query_last {rc : ℕ → Bool} {i : ℕ} {sts : List MyStmt} (hne : sts ≠ [])
    (hlen : sts.length ≤ UPDATEMAX) (s : Server) :
    (.ok (rc i), s.execAll (Batch.okPrefix rc i sts)) =
      ((.ok (Batch.reported 99 rc i sts), s.execAll (Batch.served 99 rc i sts)) :
        Except Halt Bool × Server) := by
  have htake : sts.take (99 + 1) = sts := List.take_of_length_le hlen
  have hdrop : sts.drop (99 + 1) = [] := List.drop_of_length_le hlen
  rw [Batch.reported_of_ne_nil hne, Batch.served_of_ne_nil hne, htake, hdrop,
    Batch.reported_nil, Batch.served_nil, ite_self, List.append_nil, Bool.and_true]

/-- The loop, from any accumulated text on: it deals with the text and what is left of the
list as one list cut into batches. -/
private theorem updateMysqlDBLoop_run (rc : ℕ → Bool) (list strTemp : List MyStmt)
    (sqlNum i : ℕ) (s : Server) (hnum : strTemp.length = sqlNum) (hmax : sqlNum ≤ UPDATEMAX) :
    (updateMysqlDBLoop rc list strTemp sqlNum i).run s =
      (.ok (Batch.reported 99 rc i (strTemp ++ list)),
        s.execAll (Batch.served 99 rc i (strTemp ++ list))) := by
  induction list generalizing strTemp sqlNum i s with
  -- the last text: one statement, several, or none left over
  | nil =>
    rw [List.append_nil, updateMysqlDBLoop]
    rcases eq_or_ne strTemp [] with rfl | hne
    · rw [if_neg (by simp), if_neg (by simp), Batch.reported_nil, Batch.served_nil]
      rfl
    · have hpos : 0 < sqlNum := hnum ▸ List.length_pos_iff.2 hne
      rcases Nat.eq_or_lt_of_le hpos with h1 | h1
      · rw [if_pos ⟨hne, h1.symm⟩]
        exact query_last hne (hnum ▸ hmax) s
      · rw [if_neg (fun h => by omega), if_pos ⟨hne, h1⟩]
        exact query_last hne (hnum ▸ hmax) s
  | cons st list ih =>
    rw [updateMysqlDBLoop]
    rcases Nat.lt_or_ge UPDATEMAX (sqlNum + 1) with hfull | hroom
    · -- the text is full: it is the next batch
      have hlen : strTemp.length = 99 + 1 := by rw [hnum]; rw [UPDATEMAX] at *; omega
      have hne : strTemp ++ st :: list ≠ [] := by simp
      have htake : (strTemp ++ st :: list).take (99 + 1) = strTemp := by
        rw [← hlen, List.take_left]
      have hdrop : (strTemp ++ st :: list).drop (99 + 1) = [st] ++ list := by
        rw [← hlen, List.drop_left, List.singleton_append]
      rw [if_pos hfull, Act.bind_run_ok (query_run rc i strTemp s),
        Batch.reported_of_ne_nil hne, Batch.served_of_ne_nil hne, htake, hdrop]
      -- a text that fails ends the loop; those behind it are not sent
      cases hi : rc i with
      | true =>
        rw [if_pos rfl, if_pos rfl,
          ih [st] 1 (i + sqlNum) (s.execAll (Batch.okPrefix rc i strTemp)) rfl (by decide),
          Bool.true_and, Server.execAll_append, ← hnum, hlen]
      | false =>
        rw [if_neg (by decide), if_neg (by decide), List.append_nil, Bool.false_and]
        rfl
    · rw [if_neg (by omega), ih (strTemp ++ [st]) (sqlNum + 1) i s (by simp [hnum]) hroom,
        List.append_assoc, List.singleton_append]

/-- **`UpdateMysqlDB`**: the list is served in batches of `UPDATEMAX`, and the answer is what
the first statements of the batches reported. -/
theorem updateMysqlDB_run (rc : ℕ → Bool) (list : List MyStmt) (s : Server) :
    (updateMysqlDB rc list).run s =
      (.ok (Batch.reported 99 rc 0 list), s.execAll (Batch.served 99 rc 0 list)) :=
  updateMysqlDBLoop_run rc list [] 0 0 s rfl (Nat.zero_le _)

end MtpSync
