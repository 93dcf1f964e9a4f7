import MtpSync.Upload.Routines
import MtpSync.Download.DeleteAreas

/-!
# One sync

`BeginSwitchData`: the delete pass, then the table routines of the selected mode on the selected
ids, at most twenty at a time, and at the end the queued statements.

- §1 the selection
- §2 the chunks
- §3 the blocks and `BeginSwitchData`

The direction and the mode are fixed here for the whole run; what changing them during a run
leads to is the subject of the model of the threads.
-/

namespace MtpSync

/-! ## §1 The selection -/

/-- An item of `m_tree_areas`: the area id and the device id attached to it, one of them empty,
and its children. -/
inductive TreeItem where
  | item (m_mapTreeCtrToID m_mapTreeCtrToIDType : String) (children : List TreeItem)

mutual

/-- `FindChildTypeID`: the devices at an item and below. -/
def findChildTypeID : TreeItem → List String
  | .item _ idType children =>
    (if idType ≠ "" then [idType] else []) ++ findChildrenTypeID children

/-- The loop of `FindChildTypeID` over the children. -/
def findChildrenTypeID : List TreeItem → List String
  | [] => []
  | item :: items => findChildTypeID item ++ findChildrenTypeID items

end

mutual

/-- `FindChildID`: the areas at an item and below. -/
def findChildID : TreeItem → List String
  | .item id _ children => (if id ≠ "" then [id] else []) ++ findChildrenID children

/-- The loop of `FindChildID` over the children. -/
def findChildrenID : List TreeItem → List String
  | [] => []
  | item :: items => findChildID item ++ findChildrenID items

end

/-- What of the dialog a sync depends on. -/
structure Selection where
  m_treeCtrl_curItem : TreeItem
  /-- the areas shown in the tree, `m_mapTreeIDToCtrl` -/
  shownAreas : List String
  m_deleteTree : DeleteTree
  mapOrder : MapOrder

/-- A device is selected. -/
def TreeItem.isDevice : TreeItem → Bool
  | .item _ idType _ => idType ≠ ""

/-- An area is selected. -/
def TreeItem.isArea : TreeItem → Bool
  | .item id idType _ => idType = "" && id ≠ ""

/-- What the ids of the devices' block are compared with. -/
def Selection.fw (sel : Selection) : TongbuFw :=
  if sel.m_treeCtrl_curItem.isDevice then .devices else .areas

/-- The ids of the devices' block. -/
def Selection.deviceScope (sel : Selection) : List String :=
  if sel.m_treeCtrl_curItem.isDevice then findChildTypeID sel.m_treeCtrl_curItem
  else findChildID sel.m_treeCtrl_curItem

/-- A device is selected, and there is nothing to delete. -/
def Selection.ofDevice (i : String) : Selection where
  m_treeCtrl_curItem := .item "" i []
  shownAreas := []
  m_deleteTree := .nullptr
  mapOrder := MapOrder.inserted

/-- Device `dev`, with this RFID, not synchronised. -/
def newDevice (RFID : String) : SqlRow DeviceInfoCol where
  Id := "dev"
  col := fun
    | .RFID => some RFID
    | .SynchronState => some "0"
    | .CreateDate => some "2018-06-20 08:00:00"
    | _ => some ""

/-! ## §2 The chunks -/

def MAXARRAYSIZE : ℕ := 20

/-- The outer loop of `GetArrayItems`: a chunk ends early at an empty text, and the next one
starts there. -/
def getArrayItemsLoop : ℕ → List String → List (List String)
  | 0, _ => []
  | n + 1, rest =>
    let chunk := (rest.take MAXARRAYSIZE).takeWhile fun i => i ≠ ""
    chunk :: getArrayItemsLoop n (rest.drop chunk.length)

/-- `GetArrayItems`. -/
def getArrayItems (strAryItem : List String) : List (List String) :=
  getArrayItemsLoop (strAryItem.length / MAXARRAYSIZE +
    if strAryItem.length % MAXARRAYSIZE = 0 then 0 else 1) strAryItem

/-- A routine for every chunk that has items, from chunk `k` on; whether all succeeded. -/
def forChunks (routine : ℕ → List String → Act World Bool) :
    ℕ → List (List String) → Act World Bool
  | _, [] => pure true
  | k, chunk :: chunks => do
    let ret ← if chunk = [] then pure true else routine k chunk
    let ret' ← forChunks routine (k + 1) chunks
    pure (ret && ret')

/-! ## §3 `BeginSwitchData` -/

/-- What the calls for one chunk of tasks return, in either direction. -/
structure WorkRc where
  template : ToPhoneRc
  type : ToPhoneRc
  task : TaskToPhoneRc
  record : RecordToPhoneRc
  taskToPc : ToPcRc
  recordToPc : ToPcRc

/-- What the calls for one chunk of devices return, in either direction. -/
structure DevicesRc where
  toPhone : ToPhoneRc
  toPc : ToPcRc

/-- What the calls of `BeginSwitchData` return, chunk by chunk. -/
structure SwitchRc where
  /-- `InitMyDataBase` -/
  init : Bool
  deleteArea : DeleteAreaRc
  areas : UserToPhoneRc
  user : ℕ → UserToPhoneRc
  devices : ℕ → DevicesRc
  work : ℕ → WorkRc
  /-- `UpdateMysqlDB` of `m_updateMysqlData` -/
  update : ℕ → Bool

/-- Every call succeeds. -/
def WorkRc.allOk (win : Window) : WorkRc where
  template := ToPhoneRc.allOk win
  type := ToPhoneRc.allOk win
  task := TaskToPhoneRc.allOk win
  record := RecordToPhoneRc.allOk win
  taskToPc := ToPcRc.allOk
  recordToPc := ToPcRc.allOk

/-- Every call succeeds. -/
def SwitchRc.allOk (win : Window) : SwitchRc where
  init := true
  deleteArea := DeleteAreaRc.allOk
  areas := UserToPhoneRc.allOk
  user _ := UserToPhoneRc.allOk
  devices _ := ⟨ToPhoneRc.allOk win, ToPcRc.allOk⟩
  work _ := WorkRc.allOk win
  update _ := true

/-- `m_updateMysqlData.RemoveAll()`. -/
def removeAll : Act World Unit := Act.modify fun w => { w with updateMysqlData := [] }

/-- `UpdateMysqlDB(m_updateMysqlData)`. -/
def updateQueued (rc : ℕ → Bool) : Act World Bool := do
  let w ← Act.read
  onServer (updateMysqlDB rc w.updateMysqlData)

/-- The routines for one chunk of devices' tasks, in their order. -/
def workChunk (dir : TongbuDir) (rc : WorkRc) (ids : List String) : Act World Bool :=
  match dir with
  | .tongbu_to_phone => do
    let template ← synchrodataWorkTemplateToPhone ids rc.template
    let type ← synchrodataWorkTypeToPhone ids rc.type
    let task ← synchrodataWorkTaskToPhone ids rc.task
    let record ← synchrodataWorkRecordToPhone rc.record
    pure (template && type && task && record)
  | .tongbu_to_pc => do
    -- templates and types only go to the phone: both routines answer `TRUE` at once
    let task ← synchrodataWorkTaskToPc ids rc.taskToPc
    let record ← synchrodataWorkRecordToPc ids rc.recordToPc
    pure (task && record)

/-- `Synchrodata_device_info` for one chunk. -/
def devicesChunk (dir : TongbuDir) (fw : TongbuFw) (rc : DevicesRc) (ids : List String) :
    Act World Bool :=
  match dir with
  | .tongbu_to_phone => synchrodataDeviceInfoToPhone ids fw rc.toPhone
  | .tongbu_to_pc => synchrodataDeviceInfoToPc ids fw rc.toPc

/-- The chunks of `ids` and then the queue: `ret` of a block. -/
def chunked (routine : ℕ → List String → Act World Bool) (update : ℕ → Bool)
    (ids : List String) : Act World Bool := do
  removeAll
  let ret ← forChunks routine 0 (getArrayItems ids)
  let ret' ← updateQueued update
  pure (ret && ret')

/-- The block of the users: areas only, and to the phone in either direction. -/
def userBlock (sel : Selection) (rc : SwitchRc) : Act World Bool :=
  let item := sel.m_treeCtrl_curItem
  if item.isDevice then pure false
  else if item.isArea then
    chunked (fun k ids => synchrodataSysUser ids (rc.user k)) rc.update (findChildID item)
  else pure true

/-- The block of the devices. -/
def devicesBlock (sel : Selection) (dir : TongbuDir) (rc : SwitchRc) : Act World Bool := do
  let item := sel.m_treeCtrl_curItem
  -- the result of the areas is not looked at
  match dir with
  | .tongbu_to_phone => let _ ← synchrodataAreasToPhone sel.shownAreas rc.areas
  | .tongbu_to_pc => pure ()
  if item.isDevice then
    chunked (fun k ids => devicesChunk dir .devices (rc.devices k) ids) rc.update
      (findChildTypeID item)
  else if item.isArea then
    chunked (fun k ids => devicesChunk dir .areas (rc.devices k) ids) rc.update
      (findChildID item)
  else pure true

/-- The block of the tasks. -/
def workBlock (sel : Selection) (dir : TongbuDir) (rc : SwitchRc) : Act World Bool :=
  let item := sel.m_treeCtrl_curItem
  if item.isDevice || item.isArea then
    chunked (fun k ids => workChunk dir (rc.work k) ids) rc.update (findChildTypeID item)
  else pure true

/-- `BeginSwitchData`. -/
def beginSwitchData (sel : Selection) (dir : TongbuDir) (mode : RadioChoose) (rc : SwitchRc) :
    Act World Bool := do
  removeAll
  if rc.init then do
    let _ ← deleteAreaAndDevice sel.mapOrder sel.m_deleteTree rc.deleteArea
    match mode with
    | .radio_user => userBlock sel rc
    | .radio_devices => devicesBlock sel dir rc
    | .radio_work => workBlock sel dir rc
  else pure false

end MtpSync
