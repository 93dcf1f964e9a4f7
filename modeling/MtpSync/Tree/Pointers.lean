import MtpSync.Lib.Heap
import MtpSync.Tree.ItemMaps

/-!
# `m_deleteTree` on the heap

`m_deleteTree` is a tree of nodes made with `new` and linked by pointers; it is built from the
maps a refresh has filled, walked when a sync starts, and deleted node by node at the next refresh
and when the window closes.  `m_mapAreaIDToNode` keeps pointers into it beside.

- §1 nodes and variables
- §2 `InitDeleteTreeStruct`
- §3 `DeleteAreaAndDeviceFindID`
- §4 refreshes, syncs and the end

`MtpSync.initDeleteTreeStruct` and the other definitions of the same names say which tree comes
out; those here, in the namespace `Pointers`, how the code makes it.  Names and `m_parentID` are
stored in the nodes and read nowhere; they are left out.
-/

namespace MtpSync

/-! ## §1 Nodes and variables -/

/-- `deleteTree`, without its two pointers. -/
structure DeleteNode where
  m_strID : String
  m_typeFlag : DeleteType
  m_deleteFlag : Bool
  m_strDeleteFlag : String
  deriving DecidableEq

/-- A node as the constructor leaves it. -/
def DeleteNode.deleteTree : DeleteNode := ⟨"0", .root, false, ""⟩

/-- The node filled in from a row. -/
def TreeRow.toNode (n : TreeRow) : DeleteNode :=
  ⟨n.m_strID, n.m_typeFlag, n.m_deleteFlag, n.m_strDeleteFlag⟩

/-- The members that point into the tree. -/
structure TreeVars where
  m_deleteTree : Ptr
  m_mapAreaIDToNode : CMap String Ptr

/-- The members as the constructor of the dialog leaves them. -/
def TreeVars.start : TreeVars := ⟨none, .empty⟩

/-- Calls on the nodes and the members that point to them. -/
abbrev TreeAct := Act (Store DeleteNode TreeVars)

namespace TreeVars

/-- `m_mapAreaIDToNode[strKey] = node`. -/
def noteArea (strKey : String) (node : ℕ) (v : TreeVars) : TreeVars :=
  { v with m_mapAreaIDToNode := v.m_mapAreaIDToNode.setAt strKey (some node) }

end TreeVars

namespace Pointers

open Store

/-- `m_mapAreaIDToNode[i]`, read. -/
def indexArea (i : String) : TreeAct Ptr := do
  let s ← Act.read
  setVars fun v => { v with m_mapAreaIDToNode := (v.m_mapAreaIDToNode.index i).2 }
  pure (s.vars.m_mapAreaIDToNode.index i).1

/-- Walks and recursions over the nodes there are go no deeper than there are nodes, unless the
pointers lead in a circle. -/
def nodeFuel : TreeAct ℕ := (fun s => s.heap.live.card + 1) <$> Act.read

/-- `ClearDeleteTreeStruct(m_deleteTree)`. -/
def clearDeleteTreeStruct : TreeAct Bool := do
  let fuel ← nodeFuel
  let s ← Act.read
  let p ← clear fuel s.vars.m_deleteTree
  setVars fun v => { v with m_deleteTree := p }
  pure true

/-! ## §2 `InitDeleteTreeStruct` -/

section Init

variable (A : Allocator) (o : MapOrder) (m_userArea : String) (d : TreeData)

/-- What `CreateDeleteTreeStructAreasC` goes through: the areas, each noted in
`m_mapAreaIDToNode` when the areas below it are there. -/
def areaGrower : Grower (SqlRow AreasCol) DeleteNode TreeVars where
  rows := o.walk d.areas
  isChild r treeNode := (r.col .ParentId).read == treeNode.m_strID
  toNode r := (TreeRow.area r).toNode
  note n v := v.noteArea n.2.m_strID n.1

/-- What `CreateDeleteTreeStructDevices` goes through: the devices. -/
def deviceGrower : Grower (SqlRow DeviceInfoCol) DeleteNode TreeVars where
  rows := o.walk d.device_info
  isChild r treeNode := (r.col .ParentId).read == treeNode.m_strID
  toNode r := (TreeRow.device r).toNode
  note _ v := v

/-- `CreateDeleteTreeStructAreasC`. -/
def createDeleteTreeStructAreasC (treeNode : ℕ) : TreeAct Unit :=
  growBelow A (areaGrower o d) d.fuel treeNode

/-- `CreateDeleteTreeStructDevices`. -/
def createDeleteTreeStructDevices (treeNode : ℕ) : TreeAct Unit :=
  growBelow A (deviceGrower o d) d.fuel treeNode

/-- The root becomes the user's area, where it is met among the areas. -/
def fillRoot (treeNode : ℕ) : List (SqlRow AreasCol) → TreeAct Unit
  | [] => pure ()
  | r :: rows =>
    if r.Id = m_userArea then do
      assign (some treeNode) fun c => { c with val := (TreeRow.area r).toNode }
      setVars (·.noteArea r.Id treeNode)
      fillRoot treeNode rows
    else fillRoot treeNode rows

/-- There is a user whose area is the root. -/
def userRootArea (treeNode : ℕ) : TreeAct Unit :=
  if m_userArea ≠ "" then fillRoot m_userArea treeNode (o.walk d.areas) else pure ()

/-- `CreateDeleteTreeStructAreas(m_deleteTree)`, where `m_deleteTree` is null. -/
def createDeleteTreeStructAreas : TreeAct Unit := do
  setVars fun v => { v with m_mapAreaIDToNode := .empty }
  let treeNode ← new A .deleteTree
  setVars fun v => { v with m_deleteTree := some treeNode }
  userRootArea o m_userArea d treeNode
  createDeleteTreeStructAreasC A o d treeNode

/-- A root device is linked behind the last child of `p` and noted in `mapDeviceIDToNode`. -/
def linkDevice (p : Ptr) (r : SqlRow DeviceInfoCol) (mapDeviceIDToNode : List (String × ℕ)) :
    TreeAct (List (String × ℕ)) := do
  let treeNodeTemp ← new A (TreeRow.device r).toNode
  let fuel ← nodeFuel
  linkUnder fuel p treeNodeTemp
  pure (mapDeviceIDToNode ++ [(r.Id, treeNodeTemp)])

/-- The devices that have no parent, one after the other. -/
def addRootDevices : List (SqlRow DeviceInfoCol) → List (String × ℕ) →
    TreeAct (List (String × ℕ))
  | [], mapDeviceIDToNode => pure mapDeviceIDToNode
  | r :: rows, mapDeviceIDToNode =>
    if (r.col .ParentId).read = PARENTFLAG then
      let areaId := (r.col .AreaId).read
      if areaId = PARENTFLAG ∨ areaId = "" then do
        let s ← Act.read
        let mapDeviceIDToNode ← linkDevice A s.vars.m_deleteTree r mapDeviceIDToNode
        addRootDevices rows mapDeviceIDToNode
      else do
        let node ← indexArea areaId
        if node ≠ none then do
          let mapDeviceIDToNode ← linkDevice A node r mapDeviceIDToNode
          addRootDevices rows mapDeviceIDToNode
        else addRootDevices rows mapDeviceIDToNode
    else addRootDevices rows mapDeviceIDToNode

/-- The devices below the root devices. -/
def growDevices : List (String × ℕ) → TreeAct Unit
  | [] => pure ()
  | e :: es => do
    createDeleteTreeStructDevices A o d e.2
    growDevices es

/-- `InitDeleteTreeStruct`. -/
def initDeleteTreeStruct : TreeAct Bool := do
  let retRes ← clearDeleteTreeStruct
  createDeleteTreeStructAreas A o m_userArea d
  let mapDeviceIDToNode ← addRootDevices A (o.walk d.device_info) []
  growDevices A o d (o.entries mapDeviceIDToNode)
  pure retRes

end Init

/-! ## §3 `DeleteAreaAndDeviceFindID` -/

/-- `DeleteFindID`. -/
def deleteFindID : ℕ → Ptr → DeleteIds → TreeAct DeleteIds
  | 0, _, _ => .halt .hang
  | _ + 1, none, ids => pure ids
  | fuel + 1, some treeNode, ids => do
    let c ← deref (some treeNode)
    let ids ← deleteFindID fuel c.child (ids.setAt c.val.m_typeFlag c.val.m_strID)
    deleteFindID fuel c.sibling ids

/-- A marked node and what is below it, if its mark is `flag`. -/
def collectMarked (flag : String) (fuel : ℕ) (c : Cell DeleteNode) (ids : DeleteIds) :
    TreeAct DeleteIds :=
  if c.val.m_deleteFlag && c.val.m_strDeleteFlag = flag then
    deleteFindID fuel c.child (ids.setAt c.val.m_typeFlag c.val.m_strID)
  else pure ids

/-- `DeleteAreaAndDeviceFindID`: the ids to delete for real and those wanted deleted. -/
def deleteAreaAndDeviceFindID : ℕ → Ptr → DeleteIds × DeleteIds →
    TreeAct (DeleteIds × DeleteIds)
  | 0, _, _ => .halt .hang
  | _ + 1, none, ids => pure ids
  | fuel + 1, some treeNode, (real, want) => do
    let c ← deref (some treeNode)
    let real ← collectMarked DELETEFLAG fuel c real
    let want ← collectMarked DELETEFLAG_WANT fuel c want
    let ids ← deleteAreaAndDeviceFindID fuel c.child (real, want)
    deleteAreaAndDeviceFindID fuel c.sibling ids

/-! ## §4 Refreshes, syncs and the end -/

/-- What happens to the tree. -/
inductive TreeEvent where
  /-- `Init_areas_tree`, where both tables are read; `new` takes its addresses from `A` -/
  | refresh (A : Allocator) (o : MapOrder) (d : TreeData)
  /-- `Init_areas_tree`, where it returns before the tree is built -/
  | refreshFailed
  /-- `DeleteAreaAndDevice` -/
  | deleteAreaAndDevice
  /-- `OnClose` -/
  | close

/-- One event, and the ids it collects. -/
def treeEvent (m_userArea : String) : TreeEvent → TreeAct (List (DeleteIds × DeleteIds))
  | .refresh A o d => do
    let _ ← initDeleteTreeStruct A o m_userArea d
    pure []
  | .refreshFailed => pure []
  | .deleteAreaAndDevice => do
    let s ← Act.read
    if s.vars.m_deleteTree = none then pure []
    else do
      let fuel ← nodeFuel
      let ids ← deleteAreaAndDeviceFindID fuel s.vars.m_deleteTree (⟨[], []⟩, ⟨[], []⟩)
      pure [ids]
  | .close => do
    let _ ← clearDeleteTreeStruct
    pure []

/-- The events of a run, in turn, and all they collect. -/
def treeEvents (m_userArea : String) : List TreeEvent → TreeAct (List (DeleteIds × DeleteIds))
  | [] => pure []
  | e :: es => do
    let ids ← treeEvent m_userArea e
    let more ← treeEvents m_userArea es
    pure (ids ++ more)

end Pointers

end MtpSync
