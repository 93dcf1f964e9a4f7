import MtpSync.Download.DeleteAreas
import MtpSync.Lib.Forest

/-!
# The tree of areas and devices

`Init_areas_tree` reads the server's areas and devices and builds two trees from them: the items
of the tree control, from the rows that are not marked as deleted, and `m_deleteTree`, from all
rows.  Both look the parents up in maps, row by row, and recurse as far as there are children.

- §1 what the queries read
- §2 the nodes below a node
- §3 `InitDeleteTreeStruct`
- §4 the items of the tree control

Names of areas and devices are shown and not used otherwise; they are left out.
-/

namespace MtpSync

/-! ## §1 What the queries read -/

/-- The rows of a table in the order in which a map with their keys hands them out. -/
def MapOrder.walk {C : Type} (o : MapOrder) (t : SqlTable C) : List (SqlRow C) :=
  (o.arrange t.ids).filterMap fun i => t.rows.find? fun r => r.Id == i

/-- The two tables `Init_areas_tree` reads, one after the other. -/
structure TreeData where
  areas : SqlTable AreasCol
  device_info : SqlTable DeviceInfoCol

/-- A row that becomes a node. -/
inductive TreeRow where
  | area (r : SqlRow AreasCol)
  | device (r : SqlRow DeviceInfoCol)

namespace TreeRow

def m_strID : TreeRow → String
  | area r => r.Id
  | device r => r.Id

def m_typeFlag : TreeRow → DeleteType
  | area _ => .delete_type_areas
  | device _ => .delete_type_devices

def m_strDeleteFlag : TreeRow → String
  | area r => (r.col .SynchronState).read
  | device r => (r.col .SynchronState).read

def m_deleteFlag (n : TreeRow) : Bool :=
  n.m_strDeleteFlag == DELETEFLAG || n.m_strDeleteFlag == DELETEFLAG_WANT

/-- The node of the area `i`, in `m_mapAreaIDToNode`. -/
def isArea (i : String) : TreeRow → Bool
  | area r => r.Id == i
  | device _ => false

end TreeRow

def PARENTFLAG : String := "0"

/-! ## §2 The nodes below a node -/

section Below

variable (o : MapOrder) (d : TreeData)

/-- The areas whose parent is `m_strID`. -/
def areasBelow (m_strID : String) : List TreeRow :=
  ((o.walk d.areas).filter fun r => (r.col .ParentId).read == m_strID).map .area

/-- The devices whose parent is `m_strID`. -/
def devicesBelow (m_strID : String) : List TreeRow :=
  ((o.walk d.device_info).filter fun r => (r.col .ParentId).read == m_strID).map .device

/-- The rows whose nodes go directly below that of a row. -/
def rowsBelow : TreeRow → List TreeRow
  | .area r => areasBelow o d r.Id
  | .device r => devicesBelow o d r.Id

/-- The recursions stop by themselves or not at all; where they do, no chain of parents is longer
than there are rows. -/
def TreeData.fuel : ℕ := d.areas.rows.length + d.device_info.rows.length + 1

/-- `CreateDeleteTreeStructAreasC`, and `FindChildTree`: the areas below `m_strID`, each with
those below it.  `none` if the recursion does not end. -/
def createDeleteTreeStructAreasC (m_strID : String) : Option (Forest TreeRow) :=
  Forest.grow (rowsBelow o d) d.fuel (areasBelow o d m_strID)

/-- `CreateDeleteTreeStructDevices`, and `FindChildTreeType`: the devices below `m_strID`. -/
def createDeleteTreeStructDevices (m_strID : String) : Option (Forest TreeRow) :=
  Forest.grow (rowsBelow o d) d.fuel (devicesBelow o d m_strID)

/-- The node of a root device, with the devices below it.  The source adds the nodes of all root
devices first and the devices below them afterwards. -/
def deviceNode (r : SqlRow DeviceInfoCol) : Option (Forest TreeRow) := do
  let child ← createDeleteTreeStructDevices o d r.Id
  some (.node (.device r) child .nil)

/-- The root devices, those without a parent. -/
def rootDevices : List (SqlRow DeviceInfoCol) :=
  (o.walk d.device_info).filter fun r => (r.col .ParentId).read == PARENTFLAG

end Below

/-! ## §3 `InitDeleteTreeStruct` -/

/-- The node of a row, with its children and its siblings. -/
def DeleteTree.ofForest : Forest TreeRow → DeleteTree
  | .nil => .nullptr
  | .node n child sibling =>
    .node n.m_strID n.m_typeFlag n.m_deleteFlag n.m_strDeleteFlag (ofForest child)
      (ofForest sibling)

section InitDeleteTree

variable (o : MapOrder) (m_userArea : String) (d : TreeData)

/-- The area the root is made: the user's, if there is a user and it is found. -/
def userRoot : Option (SqlRow AreasCol) :=
  if m_userArea = "" then none else (o.walk d.areas).find? fun r => r.Id == m_userArea

/-- `m_strID` of the root. -/
def rootID : String :=
  match userRoot o m_userArea d with
  | some r => r.Id
  | none => "0"

/-- One root device: behind the last child of the root if its area is `"0"` or empty, behind the
last child of its area if the tree has it, and nowhere otherwise. -/
def attachDevice (t : Forest TreeRow) (r : SqlRow DeviceInfoCol) : Option (Forest TreeRow) :=
  let areaId := (r.col .AreaId).read
  if areaId = PARENTFLAG ∨ areaId = "" then do
    let node ← deviceNode o d r
    some (t.append node)
  else if (userRoot o m_userArea d).any fun a => a.Id == areaId then do
    -- the user's area is the root itself
    let node ← deviceNode o d r
    some (t.append node)
  else if t.any (TreeRow.isArea areaId) then do
    let node ← deviceNode o d r
    some (Forest.addUnder (TreeRow.isArea areaId) node t)
  else some t

/-- The nodes below the root. -/
def deleteForest : Option (Forest TreeRow) := do
  let areas ← createDeleteTreeStructAreasC o d (rootID o m_userArea d)
  (rootDevices o d).foldlM (attachDevice o m_userArea d) areas

/-- `InitDeleteTreeStruct`: the new `m_deleteTree`. -/
def initDeleteTreeStruct : Option DeleteTree := do
  let t ← deleteForest o m_userArea d
  match userRoot o m_userArea d with
  | some r =>
    let n := TreeRow.area r
    some (.node n.m_strID n.m_typeFlag n.m_deleteFlag n.m_strDeleteFlag (.ofForest t) .nullptr)
  | none => some (.node "0" .root false "" (.ofForest t) .nullptr)

end InitDeleteTree

/-! ## §4 The tree control -/

/-- A row the tree control shows: `'0'` or `'1'`. -/
def isShown (v : Text) : Bool := v.read == "0" || v.read == "1"

/-- `m_mapAreaParent` and `m_mapTypeParent`: the rows that are not deleted. -/
def TreeData.shown (d : TreeData) : TreeData where
  areas := d.areas.deleteWhere fun r => !isShown (r.col .SynchronState)
  device_info := d.device_info.deleteWhere fun r => !isShown (r.col .SynchronState)

section TreeControl

variable (o : MapOrder) (m_userArea : String) (d : TreeData)

/-- The areas inserted at `TVI_ROOT`. -/
def topAreas : List TreeRow :=
  if m_userArea ≠ "" then ((o.walk d.areas).filter fun r => r.Id == m_userArea).map .area
  else areasBelow o d PARENTFLAG

/-- One root device: below the item of its area, if there is one; a device without an area at
`TVI_ROOT`. -/
def showDevice (t : Forest TreeRow) (r : SqlRow DeviceInfoCol) : Option (Forest TreeRow) :=
  let areaId := (r.col .AreaId).read
  if areaId ≠ "" then
    if t.any (TreeRow.isArea areaId) then do
      let node ← deviceNode o d r
      some (Forest.addUnder (TreeRow.isArea areaId) node t)
    else some t
  else do
    let node ← deviceNode o d r
    some (t.append node)

/-- The items, from the rows shown. -/
def treeItems : Option (Forest TreeRow) := do
  let areas ← Forest.grow (rowsBelow o d) d.fuel (topAreas o m_userArea d)
  (rootDevices o d).foldlM (showDevice o d) areas

end TreeControl

/-- What a refresh that reads both tables makes: the items of `m_tree_areas` and `m_deleteTree`. -/
structure AreasTree where
  m_tree_areas : Forest TreeRow
  m_deleteTree : DeleteTree

/-- `Init_areas_tree` from the tables read on; `none` if a recursion does not end. -/
def initAreasTree (o : MapOrder) (m_userArea : String) (d : TreeData) : Option AreasTree := do
  let items ← treeItems o m_userArea d.shown
  let tree ← initDeleteTreeStruct o m_userArea d
  some ⟨items, tree⟩

end MtpSync
