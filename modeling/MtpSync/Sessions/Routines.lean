import MtpSync.Sessions.Calls
import MtpSync.World

/-!
# The table routines, call by call

`DeleteAreaAndDevice`, the `Synchrodata_*` routines and `Synchrodata_clear_record`, with every
exit: each test of an answer, each early return, and the `try` around the whole.

- §1 what the routines have in common
- §2 the deletes
- §3 the routines

What the tables hold is given with the call: how many rows a selection has if it succeeds.  Texts
and rows are left out here.
-/

namespace MtpSync

namespace Sessions

open Prog

/-! ## §1 What the routines have in common -/

/-- What one call of a routine finds. -/
structure Found where
  /-- `PathFileExists` -/
  file : Bool
  /-- rows of the selections -/
  news : ℕ
  deleted : ℕ
  removed : ℕ
  /-- rows counted on the phone, and rows read after that -/
  counted : ℕ
  fetched : ℕ

/-- `try { … } catch (...) { …; return FALSE; }` -/
def tried (p : Prog Call Bool) : Prog Call Bool := p.tryCatch (pure false)

/-- The test of `PathFileExists`. -/
def ifFile (d : Found) (p : Prog Call Bool) : Prog Call Bool :=
  if d.file then p else pure false

/-- Open the phone's database, work on it, close it.  Work that ends in `none` has returned
`FALSE` from inside, and nothing is closed. -/
def whenOpen (work : Prog Call (Option Bool)) : Prog Call Bool := do
  if ← openDataBase then
    match ← work with
    | some retRes =>
      let _ ← closeDataBase
      pure retRes
    | none => pure false
  else pure false

/-- Something is done with `n` rows, if there are any. -/
def ifRows (n : ℕ) (rows : Prog Call Bool) : Prog Call Bool :=
  if n > 0 then rows else pure true

/-- A selection on the server and what is done with its `n` rows. -/
def selected (of : Selected) (n : ℕ) (rows : Prog Call Bool) : Prog Call Bool := do
  if ← must (.select of) then ifRows n rows
  else pure false

/-- Copy the rows to synchronise. -/
def copied (t : Table) (d : Found) : Prog Call Bool :=
  selected (.news t) d.news (guarded .quickInsertData)

/-- Delete what the server marks as deleted. -/
def purged (t : Table) (d : Found) : Prog Call Bool :=
  selected (.deleted t) d.deleted (guarded .quickDeletData)

/-! ## §2 The deletes -/

/-- Ids collected from `m_deleteTree`, to delete on both sides and on the phone only. -/
structure Doomed where
  strAryDevices : ℕ
  strAryDevicesWant : ℕ
  strAryAreas : ℕ
  strAryAreasWant : ℕ

/-- Step 2.1, with devices to delete; its result is put into a `retRes` of its own, which nothing
reads. -/
def deleteDevices (m : Doomed) : Prog Call Unit :=
  if m.strAryDevices > 0 ∨ m.strAryDevicesWant > 0 then do
    let ret ← guarded .quickDeletData
    let ret' ← guarded .deleteData
    if ret && ret' then
      let _ ← updateMysqlDB .own m.strAryDevices
      let _ ← must (.query .own)
      pure ()
    else pure ()
  else pure ()

/-- Step 2.2, with areas to delete. -/
def deleteAreas (m : Doomed) : Prog Call Bool :=
  if m.strAryAreas > 0 ∨ m.strAryAreasWant > 0 then do
    let ret ← guarded .quickDeletData
    let ret' ← guarded .quickDeletData
    if ret && ret' then
      -- an area and its users, for every area
      updateMysqlDB .own (2 * m.strAryAreas)
    else pure false
  else pure true

/-- `DeleteAreaAndDevice`; there is nothing to collect from without a `m_deleteTree`. -/
def deleteAreaAndDevice (m_deleteTree : Option Doomed) (d : Found) : Prog Call Bool :=
  tried <| match m_deleteTree with
  | none => pure true
  | some m => ifFile d <| whenOpen do
    deleteDevices m
    let ret ← deleteAreas m
    let users ← selected (.removed .sys_user) d.removed (guarded .quickDeletData)
    let real ← must (.oneQuery .own)
    pure (some (ret && users && real))

/-! ## §3 The routines -/

/-- The areas shown in the tree are copied, if there are any. -/
def copiedAreas (shown : Bool) (d : Found) : Prog Call Bool :=
  if shown then copied .areas d else pure true

/-- `Synchrodata_areas`; `shown` says whether `m_mapTreeIDToCtrl` has an area. -/
def synchrodata_areas (dir : TongbuDir) (shown : Bool) (d : Found) : Prog Call Bool :=
  tried <| match dir with
  | .tongbu_to_pc => pure true
  | .tongbu_to_phone => whenOpen do
    let ret ← copiedAreas shown d
    let ret' ← purged .areas d
    pure (some (ret && ret'))

/-- `Synchrodata_sys_user`. -/
def synchrodata_sys_user (d : Found) : Prog Call Bool :=
  tried <| ifFile d <| whenOpen do
    let ret ← copied .sys_user d
    let ret' ← purged .sys_user d
    pure (some (ret && ret'))

/-- The upload of `Synchrodata_device_info`. -/
def deviceInfoToPc (d : Found) : Prog Call (Option Bool) := do
  if ← guarded (.quickSelectDataCount (.unsynchronised .device_info)) then
    if d.counted > 0 then
      let ret ← guarded .quickSelectData
      let sent ← updateMysqlDB .own (if ret then d.fetched else 0)
      if sent then
        let ret' ← guarded .quickInsertData
        pure (some (ret && ret'))
      else pure (some false)
    else updateMysqlDB .own 0 >>= fun sent => pure (some sent)
  else updateMysqlDB .own 0 >>= fun _ => pure (some false)

/-- `Synchrodata_device_info`. -/
def synchrodata_device_info (dir : TongbuDir) (d : Found) : Prog Call Bool :=
  tried <| whenOpen <| match dir with
  | .tongbu_to_pc => deviceInfoToPc d
  | .tongbu_to_phone => do
    let ret ← copied .device_info d
    let ret' ← purged .device_info d
    pure (some (ret && ret'))

/-- `Synchrodata_device_type`. -/
def synchrodata_device_type : Prog Call Bool := tried (pure true)

/-- `Synchrodata_work_type`. -/
def synchrodata_work_type (dir : TongbuDir) (d : Found) : Prog Call Bool :=
  tried <| match dir with
  | .tongbu_to_pc => pure true
  | .tongbu_to_phone => ifFile d <| whenOpen do
    let ret ← copied .work_type d
    let ret' ← purged .work_type d
    pure (some (ret && ret'))

/-- `Synchrodata_work_template`: a second selection that fails returns from inside. -/
def synchrodata_work_template (dir : TongbuDir) (d : Found) : Prog Call Bool :=
  tried <| match dir with
  | .tongbu_to_pc => pure true
  | .tongbu_to_phone => ifFile d <| whenOpen do
    let ret ← copied .work_template d
    if ← must (.select (.deleted .work_template)) then
      let ret' ← ifRows d.deleted (guarded .quickDeletData)
      pure (some (ret && ret'))
    else pure none

/-- The four deletes of one pass of `Synchrodata_work_task`, whose results nothing reads. -/
def deleteTasks : Prog Call Unit := do
  let _ ← guarded .quickDeletData
  let _ ← guarded .quickDeletData
  let _ ← guarded .quickDeletData
  let _ ← guarded .deleteData
  pure ()

/-- The upload of `Synchrodata_work_task`; a time the server does not give is forgotten when the
rows are counted. -/
def workTaskToPc (d : Found) : Prog Call (Option Bool) := do
  let _ ← must (.select .now)
  if ← guarded (.quickSelectDataCount (.unsynchronised .work_task)) then
    if d.counted > 0 then
      let ret ← guarded .quickSelectData
      let sent ← updateMysqlDB .own (if ret then d.fetched else 0)
      if sent then
        let _ ← guarded .quickInsertData
        pure (some ret)
      else pure (some false)
    else updateMysqlDB .own 0 >>= fun sent => pure (some sent)
  else updateMysqlDB .own 0 >>= fun _ => pure (some false)

/-- The download of `Synchrodata_work_task`. -/
def workTaskToPhone (d : Found) : Prog Call (Option Bool) := do
  let ret ← selected (.deleted .work_task) d.deleted (deleteTasks >>= fun _ => pure true)
  let ret' ← selected (.removed .work_task) d.removed do
    deleteTasks
    -- the task and its records, for every task
    let _ ← updateMysqlDB .own (2 * d.removed)
    pure true
  let ret'' ← copied .work_task d
  pure (some (ret && ret' && ret''))

/-- `Synchrodata_work_task`. -/
def synchrodata_work_task (dir : TongbuDir) (d : Found) : Prog Call Bool :=
  tried <| ifFile d <| whenOpen <| match dir with
  | .tongbu_to_pc => workTaskToPc d
  | .tongbu_to_phone => workTaskToPhone d

/-- The upload of `Synchrodata_work_record`, which reports no failure. -/
def workRecordToPc (d : Found) : Prog Call (Option Bool) := do
  if ← guarded (.quickSelectDataCount (.unsynchronised .work_record)) then
    if d.counted > 0 then
      if ← guarded .quickSelectData then
        if ← updateMysqlDB .own d.fetched then
          let _ ← guarded .quickInsertData
          pure (some true)
        else pure (some true)
      else pure (some true)
    else pure (some true)
  else pure (some true)

/-- `Synchrodata_work_record`; a failed insert is not reported either. -/
def synchrodata_work_record (dir : TongbuDir) (d : Found) : Prog Call Bool :=
  tried <| ifFile d <| whenOpen <| match dir with
  | .tongbu_to_pc => workRecordToPc d
  | .tongbu_to_phone =>
    selected (.news .work_record) d.news (guarded .quickInsertData >>= fun _ => pure true) >>=
      fun retRes => pure (some retRes)

/-- `Synchrodata_clear_record`: no `try`, and a count that fails returns from inside.  The result
is the outer `ret`, which nothing changes. -/
def synchrodata_clear_record (d : Found) : Prog Call Bool :=
  ifFile d <| whenOpen do
    if ← guarded (.quickSelectDataCount .finished) then
      if d.counted > 0 then
        if ← guarded .quickSelectData then
          let _ ← guarded .quickDeletData
          let _ ← guarded .quickDeletData
          pure (some true)
        else pure (some true)
      else pure (some true)
    else pure none

/-- A call of one of the routines. -/
inductive Routine where
  | DeleteAreaAndDevice (m_deleteTree : Option Doomed) (d : Found)
  | Synchrodata_areas (dir : TongbuDir) (shown : Bool) (d : Found)
  | Synchrodata_sys_user (d : Found)
  | Synchrodata_device_info (dir : TongbuDir) (d : Found)
  | Synchrodata_device_type
  | Synchrodata_work_type (dir : TongbuDir) (d : Found)
  | Synchrodata_work_template (dir : TongbuDir) (d : Found)
  | Synchrodata_work_task (dir : TongbuDir) (d : Found)
  | Synchrodata_work_record (dir : TongbuDir) (d : Found)
  | Synchrodata_clear_record (d : Found)

def Routine.body : Routine → Prog Call Bool
  | .DeleteAreaAndDevice m d => deleteAreaAndDevice m d
  | .Synchrodata_areas dir shown d => synchrodata_areas dir shown d
  | .Synchrodata_sys_user d => synchrodata_sys_user d
  | .Synchrodata_device_info dir d => synchrodata_device_info dir d
  | .Synchrodata_device_type => synchrodata_device_type
  | .Synchrodata_work_type dir d => synchrodata_work_type dir d
  | .Synchrodata_work_template dir d => synchrodata_work_template dir d
  | .Synchrodata_work_task dir d => synchrodata_work_task dir d
  | .Synchrodata_work_record dir d => synchrodata_work_record dir d
  | .Synchrodata_clear_record d => synchrodata_clear_record d

end Sessions

end MtpSync
