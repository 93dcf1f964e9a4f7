import MtpSync.Download.Routines
import Mathlib.Data.List.Perm.Basic

/-!
# The delete pass

`DeleteAreaAndDevice` runs at the start of every sync, in either direction.  It deletes the areas
and devices the server has marked `'2'` or `'3'`, with all that hangs below them in the tree, from
the temporary file, and those below a `'3'` from the server as well.

- §1 the tree of areas and devices
- §2 the pass
-/

namespace MtpSync

/-! ## §1 The tree -/

/-- `m_typeFlag`; a root that stands for no area has neither type. -/
inductive DeleteType where
  | delete_type_areas | delete_type_devices | root
  deriving DecidableEq

/-- `deleteTree`: first child, next sibling. -/
inductive DeleteTree where
  | nullptr
  | node (m_strID : String) (m_typeFlag : DeleteType) (m_deleteFlag : Bool)
      (m_strDeleteFlag : String) (m_fistchild m_nextsibling : DeleteTree)

/-- The keys collected for areas and for devices. -/
structure DeleteIds where
  areas : List String
  devices : List String

/-- `SetAt` on a map whose keys are its values. -/
def setAt (keys : List String) (i : String) : List String := if i ∈ keys then keys else keys ++ [i]

/-- Add a node's id to the areas or to the devices. -/
def DeleteIds.setAt (ids : DeleteIds) (t : DeleteType) (i : String) : DeleteIds :=
  match t with
  | .delete_type_areas => { ids with areas := MtpSync.setAt ids.areas i }
  | .delete_type_devices => { ids with devices := MtpSync.setAt ids.devices i }
  | .root => ids

/-- `DeleteFindID`: every node from here on, children and siblings. -/
def deleteFindID : DeleteTree → DeleteIds → DeleteIds
  | .nullptr, ids => ids
  | .node i t _ _ child sibling, ids =>
    deleteFindID sibling (deleteFindID child (ids.setAt t i))

def DELETEFLAG : String := "3"

def DELETEFLAG_WANT : String := "2"

/-- `DeleteAreaAndDeviceFindID`: the ids to delete for real and those wanted deleted. -/
def deleteAreaAndDeviceFindID : DeleteTree → DeleteIds × DeleteIds → DeleteIds × DeleteIds
  | .nullptr, ids => ids
  | .node i t deleteFlag strDeleteFlag child sibling, (real, want) =>
    let real :=
      if deleteFlag && strDeleteFlag = DELETEFLAG then deleteFindID child (real.setAt t i)
      else real
    let want :=
      if deleteFlag && strDeleteFlag = DELETEFLAG_WANT then deleteFindID child (want.setAt t i)
      else want
    deleteAreaAndDeviceFindID sibling (deleteAreaAndDeviceFindID child (real, want))

/-- The order in which a `CMap` hands out its keys. -/
structure MapOrder where
  arrange : List String → List String
  perm : ∀ keys, (arrange keys).Perm keys

/-- Keys in the order they were added. -/
def MapOrder.inserted : MapOrder := ⟨id, fun _ => .refl _⟩

/-- `FUNMAPTOSTRARY`: the keys of a map, empty ones left out. -/
def MapOrder.strAry (o : MapOrder) (keys : List String) : List String :=
  (o.arrange keys).filter fun i => i ≠ ""

@[simp] theorem MapOrder.mem_strAry {o : MapOrder} {keys : List String} {i : String} :
    i ∈ o.strAry keys ↔ i ∈ keys ∧ i ≠ "" := by
  rw [MapOrder.strAry, List.mem_filter, (o.perm keys).mem_iff, decide_eq_true_eq]

/-- The arrays `DeleteAreaAndDevice` works with. -/
structure DeleteArys where
  strAryAreas : List String
  strAryAreasWant : List String
  strAryDevices : List String
  strAryDevicesWant : List String

/-- The arrays of a tree. -/
def DeleteTree.arys (o : MapOrder) (tree : DeleteTree) : DeleteArys :=
  let (real, want) := deleteAreaAndDeviceFindID tree (⟨[], []⟩, ⟨[], []⟩)
  ⟨o.strAry real.areas, o.strAry want.areas, o.strAry real.devices, o.strAry want.devices⟩

/-- The devices the delete pass deletes from the phone. -/
def DeleteArys.devices (a : DeleteArys) : List String := a.strAryDevices ++ a.strAryDevicesWant

/-- The areas the delete pass deletes from the phone. -/
def DeleteArys.areas (a : DeleteArys) : List String := a.strAryAreas ++ a.strAryAreasWant

/-! ## §2 The pass -/

namespace SqliteDB

/-- `DELETE FROM work_type WHERE DeviceId NOT in (SELECT id FROM device_info)`. -/
def deleteOrphanWorkTypes (d : SqliteDB) : SqliteDB :=
  { d with work_type := d.work_type.deleteNotIn .DeviceId d.device_info.ids }

/-- `DELETE FROM work_template WHERE WorkTypeId NOT in(SELECT id FROM work_type)`. -/
def deleteOrphanTemplates (d : SqliteDB) : SqliteDB :=
  { d with work_template := d.work_template.deleteNotIn .WorkTypeId d.work_type.ids }

/-- `DELETE FROM work_task WHERE DeviceId NOT in(SELECT id FROM device_info)`. -/
def deleteOrphanTasks (d : SqliteDB) : SqliteDB :=
  { d with work_task := d.work_task.deleteNotIn .DeviceId d.device_info.ids }

/-- `DELETE FROM work_record WHERE DeviceId NOT in(SELECT id from device_info)`. -/
def deleteOrphanRecords (d : SqliteDB) : SqliteDB :=
  { d with work_record := d.work_record.deleteNotIn .DeviceId d.device_info.ids }

/-- The four statements of the phone's `DeleteData`. -/
def deleteOrphans : List (SqliteDB → SqliteDB) :=
  [deleteOrphanWorkTypes, deleteOrphanTemplates, deleteOrphanTasks, deleteOrphanRecords]

/-- `delete from user_table where data_areas=?`. -/
def deleteUsersOf (d : SqliteDB) (i : String) : SqliteDB :=
  { d with user_table := d.user_table.deleteEq .data_areas i }

end SqliteDB

/-- The same four statements for the server. -/
def deleteOrphanStmts : List MyStmt :=
  [.deleteOrphanWorkType, .deleteOrphanWorkTemplate, .deleteOrphanWorkTask,
    .deleteOrphanWorkRecord]

/-- The server's deletes of an area and its users. -/
def deleteAreaStmts (i : String) : List MyStmt := [.deleteAreas i, .deleteSysUserOf i]

/-- `id FROM sys_user where SynchronState='2' or SynchronState='3'`. -/
def MysqlDB.usersToDelete (db : MysqlDB) : List String :=
  (db.sys_user.select fun u =>
    (u.col .SynchronState).eq "2" || (u.col .SynchronState).eq "3").map Row.Id

/-- What the calls of `DeleteAreaAndDevice` return. -/
structure DeleteAreaRc where
  openDb : Bool
  devices : QuickRc
  /-- `DeleteData` -/
  orphans : ℕ → Bool
  /-- `UpdateMysqlDB` of the devices -/
  updateDevices : ℕ → Bool
  /-- `Query` of the four orphan deletes -/
  queryOrphans : ℕ → Bool
  areas : QuickRc
  users : QuickRc
  /-- `UpdateMysqlDB` of the areas -/
  updateAreas : ℕ → Bool
  /-- the users marked on the server -/
  selectUsers : SelectRc
  marked : QuickRc
  /-- `OneQuery` -/
  oneQuery : ℕ → Bool

/-- Every call succeeds. -/
def DeleteAreaRc.allOk : DeleteAreaRc where
  openDb := true
  devices := QuickRc.allOk
  orphans _ := true
  updateDevices _ := true
  queryOrphans _ := true
  areas := QuickRc.allOk
  users := QuickRc.allOk
  updateAreas _ := true
  selectUsers := .ok
  marked := QuickRc.allOk
  oneQuery _ := true

/-- 2.1: the devices, if there are any to delete. -/
def deleteDevices (rc : DeleteAreaRc) (a : DeleteArys) : Act World Unit :=
  if a.strAryDevices ++ a.strAryDevicesWant = [] then pure ()
  else do
    let ret ← onSq (quickInsertData rc.devices SqliteDB.deleteDevice
      ((a.strAryDevices ++ a.strAryDevicesWant).map some))
    let ret' ← onSq (deleteData rc.orphans 0 SqliteDB.deleteOrphans)
    if ret && ret' then do
      let _ ← onServer (updateMysqlDB rc.updateDevices (a.strAryDevices.map .deleteDeviceInfo))
      let _ ← onServer (query rc.queryOrphans 0 deleteOrphanStmts)
    else pure ()

/-- 2.2: the areas and their users, if there are any areas to delete; the result. -/
def deleteAreas (rc : DeleteAreaRc) (a : DeleteArys) : Act World Bool :=
  if a.strAryAreas ++ a.strAryAreasWant = [] then pure true
  else do
    let ret ← onSq (quickInsertData rc.areas SqliteDB.deleteArea
      ((a.strAryAreas ++ a.strAryAreasWant).map some))
    let ret' ← onSq (quickInsertData rc.users SqliteDB.deleteUsersOf
      ((a.strAryAreas ++ a.strAryAreasWant).map some))
    if ret && ret' then
      onServer (updateMysqlDB rc.updateAreas (a.strAryAreas.flatMap deleteAreaStmts))
    else pure false

/-- 2.3: the users; the server deletes its own whatever became of the phone's. -/
def deleteUsers (rc : DeleteAreaRc) : Act World Bool := do
  let purged ← purge ⟨rc.selectUsers, rc.marked⟩ MysqlDB.usersToDelete SqliteDB.deleteUser
  let ret ← onServer (oneQuery rc.oneQuery 0 [.deleteSysUserReal])
  pure (purged = .stored && ret)

/-- `DeleteAreaAndDevice`.  The result of the devices is kept in a variable of its own and does
not reach the result. -/
def deleteAreaAndDevice (o : MapOrder) (tree : DeleteTree) (rc : DeleteAreaRc) :
    Act World Bool :=
  match tree with
  | .nullptr => pure true
  | tree => do
    let w ← Act.read
    if !w.sq.file.pathFileExists then pure false
    else if ← onSq (openDataBase rc.openDb) then
      deleteDevices rc (tree.arys o)
      let retRes ← deleteAreas rc (tree.arys o)
      let retRes' ← deleteUsers rc
      onSq closeDataBase
      pure (retRes && retRes')
    else pure false

end MtpSync
