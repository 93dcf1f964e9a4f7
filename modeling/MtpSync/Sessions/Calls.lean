import MtpSync.Lib.Prog
import MtpSync.MyDataBase

/-!
# The calls a sync locks and unlocks with

The SQLite gate `m_eventOpenDB`, the MySQL lock `g_clsMutex` and the MySQL connection, and the
calls the program makes while it has them.  Functions of the program are programs over these
calls: every call may answer either way, and those nothing protects may throw.

- §1 the calls
- §2 what they do to the gate, the lock and the connection
- §3 `CSQLite` and `CMyDataBase`

The operations of `CSQLite` catch everything and answer `FALSE` then; `CMyDataBase` catches
nothing.  The calls of the MySQL library other than the connection have no outcome that is looked
at before the lock is released, and are left out; so are the log calls.
-/

namespace MtpSync

namespace Sessions

/-! ## §1 The calls -/

inductive Table where
  | device_info | work_type | work_template | work_task | work_record | sys_user | areas
  deriving DecidableEq

/-- The `SELECT` statements sent to the server. -/
inductive Selected where
  /-- the rows to copy to the phone -/
  | news (t : Table)
  /-- the rows marked as deleted, `SynchronState='2'` -/
  | deleted (t : Table)
  /-- the rows to delete on both sides, `SynchronState='3'` -/
  | removed (t : Table)
  /-- `select now()` -/
  | now
  /-- the two tables of the tree, in `Init_areas_tree` -/
  | tree_areas | tree_device_info
  /-- the users, in `CLogDlg::OnInitDialog` -/
  | login_users
  deriving DecidableEq

/-- The rows counted on the phone. -/
inductive Counted where
  | unsynchronised (t : Table)
  /-- the finished tasks of `Synchrodata_clear_record` -/
  | finished
  deriving DecidableEq

/-- What `UpdateMysqlDB` is given. -/
inductive Sent where
  /-- `m_updateMysqlData`, the marks queued in the run -/
  | marks
  /-- the statements of a table routine -/
  | own
  deriving DecidableEq

inductive Call where
  /-- `WaitForSingleObject(m_eventOpenDB,INFINITE)` -/
  | waitForSingleObject
  /-- `SetEvent(m_eventOpenDB)` -/
  | setEvent
  | sqlite3_open
  /-- `sqlite3_close` in `OpenDataBase`, after `sqlite3_open` has failed -/
  | sqlite3_closeFailed
  | sqlite3_close
  | sqlite3_errmsg16
  | quickInsertData
  | quickDeletData
  | deleteData
  | quickSelectData
  | quickSelectDataCount (of : Counted)
  /-- `g_clsMutex.Lock()` -/
  | lock
  | mysql_real_connect
  | mysql_close
  /-- `g_clsMutex.Unlock()` -/
  | unlock
  | select (of : Selected)
  | query (of : Sent)
  | oneQuery (of : Sent)
  deriving DecidableEq

/-! ## §2 The gate, the lock and the connection -/

structure Locks where
  /-- the auto-reset event is signalled -/
  m_eventOpenDB : Bool
  /-- `Lock()` calls of the thread not yet followed by `Unlock()`; the mutex is recursive -/
  g_clsMutex : ℕ
  /-- connections opened and not closed -/
  connections : ℕ

/-- `CreateEvent(NULL,FALSE,TRUE,NULL)`, `CMutex(FALSE, NULL)`, and no connection. -/
def Locks.initial : Locks := ⟨true, 0, 0⟩

/-- What an answered call does.  A wait for an event that is not signalled does not come back. -/
def effect : Call × Option Bool → Locks → Option Locks
  | (.waitForSingleObject, _), s =>
    if s.m_eventOpenDB then some { s with m_eventOpenDB := false } else none
  | (.setEvent, _), s => some { s with m_eventOpenDB := true }
  | (.lock, _), s => some { s with g_clsMutex := s.g_clsMutex + 1 }
  | (.unlock, _), s => some { s with g_clsMutex := s.g_clsMutex - 1 }
  | (.mysql_real_connect, some true), s => some { s with connections := s.connections + 1 }
  | (.mysql_close, _), s => some { s with connections := s.connections - 1 }
  | _, s => some s

/-! ## §3 `CSQLite` and `CMyDataBase` -/

open Prog

def recordLastError : Prog Call Unit := do
  let _ ← must .sqlite3_errmsg16
  pure ()

/-- `CSQLite::OpenDataBase`, with `synchronous` left at `FALSE` as by every caller. -/
def openDataBase : Prog Call Bool :=
  tryCatch
    (do
      act .waitForSingleObject
      if ← must .sqlite3_open then pure true
      else
        let _ ← must .sqlite3_closeFailed
        act .setEvent
        recordLastError
        pure false)
    (do
      recordLastError
      pure false)

/-- `CSQLite::CloseDataBase` after `OpenDataBase` has succeeded. -/
def closeDataBase : Prog Call Bool :=
  tryCatch
    (do
      act .setEvent
      if ← must .sqlite3_close then pure true
      else
        recordLastError
        pure false)
    (do
      recordLastError
      pure false)

/-- `CMyDataBase::InitMyDataBase`: the lock is taken before the connection is tried. -/
def initMyDataBase : Prog Call Bool := do
  act .lock
  must .mysql_real_connect

/-- `CMyDataBase::Close`. -/
def close : Prog Call Unit := do
  act .mysql_close
  act .unlock

/-- The loop of `UpdateMysqlDB`: statements left, and statements in the text not sent yet. -/
def updateMysqlDBLoop (l : Sent) : (left sqlNum : ℕ) → Prog Call Bool
  | 0, sqlNum =>
    if sqlNum = 1 then must (.oneQuery l)
    else if sqlNum > 1 then must (.query l)
    else pure true
  | left + 1, sqlNum =>
    if sqlNum + 1 > UPDATEMAX then do
      if ← must (.query l) then updateMysqlDBLoop l left 1
      else pure false
    else updateMysqlDBLoop l left (sqlNum + 1)

/-- `CWPD_MTP_dataDlg::UpdateMysqlDB` of `n` statements. -/
def updateMysqlDB (l : Sent) (n : ℕ) : Prog Call Bool := updateMysqlDBLoop l n 0

end Sessions

end MtpSync
