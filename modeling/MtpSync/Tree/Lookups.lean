import MtpSync.Tree.ItemMaps
import MtpSync.SyncEnd

/-!
# What is looked up under the handles

`FindChildID`, `FindChildTypeID` and the test with which `BeginSwitchData` tells devices from areas
read the maps of the items with `operator[]`, so each of them may store empty entries.  None of
them changes what the maps say: every area shown keeps the one item it has, every device too, and
no item is taken for both.

- §1 the lookups
- §2 they change no value
- §3 the items they see
- §4 the maps stay inverse to each other
-/

namespace MtpSync

/-! ## §1 The lookups -/

/-- The branches of `BeginSwitchData`: a device is selected, or only an area. -/
inductive SelectionBranch where
  | device
  | area
  deriving DecidableEq

namespace ItemMaps

/-- `m_mapTreeCtrToID[item]`, read. -/
def indexCtrToID (item : HTREEITEM) (s : ItemMaps) : String × ItemMaps :=
  let (id, m_mapTreeCtrToID) := s.m_mapTreeCtrToID.index item
  (id, { s with m_mapTreeCtrToID := m_mapTreeCtrToID })

/-- `m_mapTreeCtrToIDType[item]`, read. -/
def indexCtrToIDType (item : HTREEITEM) (s : ItemMaps) : String × ItemMaps :=
  let (idType, m_mapTreeCtrToIDType) := s.m_mapTreeCtrToIDType.index item
  (idType, { s with m_mapTreeCtrToIDType := m_mapTreeCtrToIDType })

section Find

variable (index : HTREEITEM → ItemMaps → String × ItemMaps)

/-- The id of an item, if it has one: the map is read for the test and again for the array. -/
def addID (item : HTREEITEM) (s : ItemMaps) : List String × ItemMaps :=
  let (id, s) := index item s
  if id ≠ "" then
    let (id, s) := index item s
    ([id], s)
  else ([], s)

/-- The loop over the children, down to those without any. -/
def addChildren : Forest HTREEITEM → ItemMaps → List String × ItemMaps
  | .nil, s => ([], s)
  | .node item child sibling, s =>
    let (ids, s) := addID index item s
    let (idsBelow, s) := addChildren child s
    let (idsBehind, s) := addChildren sibling s
    (ids ++ idsBelow ++ idsBehind, s)

/-- What `FindChildID` and `FindChildTypeID` add for an item. -/
def findIDs (item : HTREEITEM) (s : ItemMaps) : List String × ItemMaps :=
  if item = nullptr then ([], s)
  else
    let (ids, s) := addID index item s
    let (idsBelow, s) := addChildren index (Forest.childOf (· == item) s.m_tree_areas) s
    (ids ++ idsBelow, s)

end Find

/-- `FindChildID`. -/
def findChildID : HTREEITEM → ItemMaps → List String × ItemMaps := findIDs indexCtrToID

/-- `FindChildTypeID`. -/
def findChildTypeID : HTREEITEM → ItemMaps → List String × ItemMaps := findIDs indexCtrToIDType

/-- Whether a device is selected, or an area. -/
def selectionTest (m_treeCtrl_curItem : HTREEITEM) (s : ItemMaps) :
    Option SelectionBranch × ItemMaps :=
  let (idType, s) := indexCtrToIDType m_treeCtrl_curItem s
  if idType ≠ "" then (some .device, s)
  else
    let (id, s) := indexCtrToID m_treeCtrl_curItem s
    if id ≠ "" then (some .area, s) else (none, s)

/-- The ids a branch collects in a mode, if it does. -/
def branchIDs : RadioChoose → SelectionBranch → HTREEITEM → ItemMaps →
    Option (List String) × ItemMaps
  -- users belong to areas only
  | .radio_user, .device, _, s => (none, s)
  | .radio_user, .area, m_treeCtrl_curItem, s =>
    let (ids, s) := findChildID m_treeCtrl_curItem s
    (some ids, s)
  | .radio_devices, .device, m_treeCtrl_curItem, s =>
    let (ids, s) := findChildTypeID m_treeCtrl_curItem s
    (some ids, s)
  | .radio_devices, .area, m_treeCtrl_curItem, s =>
    let (ids, s) := findChildID m_treeCtrl_curItem s
    (some ids, s)
  | .radio_work, _, m_treeCtrl_curItem, s =>
    let (ids, s) := findChildTypeID m_treeCtrl_curItem s
    (some ids, s)

/-- The ids `BeginSwitchData` collects in a mode, if it gets that far. -/
def beginSwitchDataIDs (m_radioChoose : RadioChoose) (m_treeCtrl_curItem : HTREEITEM)
    (s : ItemMaps) : Option (List String) × ItemMaps :=
  let (branch, s) := selectionTest m_treeCtrl_curItem s
  match branch with
  | some branch => branchIDs m_radioChoose branch m_treeCtrl_curItem s
  | none => (none, s)

end ItemMaps

/-- A call that reads the maps. -/
inductive Lookup where
  | FindChildID (item : HTREEITEM)
  | FindChildTypeID (item : HTREEITEM)
  | BeginSwitchData (m_radioChoose : RadioChoose) (m_treeCtrl_curItem : HTREEITEM)

/-- The maps after a call. -/
def ItemMaps.lookUp (s : ItemMaps) : Lookup → ItemMaps
  | .FindChildID item => (findChildID item s).2
  | .FindChildTypeID item => (findChildTypeID item s).2
  | .BeginSwitchData m_radioChoose m_treeCtrl_curItem =>
    (beginSwitchDataIDs m_radioChoose m_treeCtrl_curItem s).2

/-! ## §2 They change no value -/

namespace ItemMaps

/-- `index` reads the values `value`. -/
structure Reads (index : HTREEITEM → ItemMaps → String × ItemMaps)
    (value : ItemMaps → HTREEITEM → String) : Prop where
  reads : ∀ item s, (index item s).1 = value s item
  same : ∀ item s, SameValues s (index item s).2
  congr : ∀ ⦃s s'⦄, SameValues s s' → value s' = value s

theorem reads_CtrToID : Reads indexCtrToID fun s => s.m_mapTreeCtrToID.value where
  reads _ _ := CMap.index_fst
  same _ _ := ⟨rfl, rfl, fun _ => CMap.index_value, fun _ => rfl, fun _ => rfl⟩
  congr _ _ h := funext h.CtrToID

theorem reads_CtrToIDType : Reads indexCtrToIDType fun s => s.m_mapTreeCtrToIDType.value where
  reads _ _ := CMap.index_fst
  same _ _ := ⟨rfl, rfl, fun _ => rfl, fun _ => rfl, fun _ => CMap.index_value⟩
  congr _ _ h := funext h.CtrToIDType

/-- The values of these items, empty ones left out. -/
def idsOf (value : HTREEITEM → String) (items : List HTREEITEM) : List String :=
  (items.map value).filter fun i => i ≠ ""

theorem idsOf_append {value : HTREEITEM → String} {items items' : List HTREEITEM} :
    idsOf value (items ++ items') = idsOf value items ++ idsOf value items' := by
  rw [idsOf, List.map_append, List.filter_append]
  rfl

theorem idsOf_singleton {value : HTREEITEM → String} {item : HTREEITEM} :
    idsOf value [item] = if value item ≠ "" then [value item] else [] := by
  by_cases hempty : value item = "" <;> simp [idsOf, hempty]

section Find

variable {index : HTREEITEM → ItemMaps → String × ItemMaps}
  {value : ItemMaps → HTREEITEM → String} (hreads : Reads index value)

include hreads

theorem addID_spec (item : HTREEITEM) (s : ItemMaps) :
    (addID index item s).1 = idsOf (value s) [item] ∧ SameValues s (addID index item s).2 := by
  have hfirst := hreads.same item s
  have hsecond := hreads.same item (index item s).2
  simp only [addID, idsOf_singleton, hreads.reads, hreads.congr hfirst]
  split
  next => exact ⟨rfl, hfirst.trans hsecond⟩
  next => exact ⟨rfl, hfirst⟩

/-- Below an item its children are walked in preorder. -/
theorem addChildren_spec (t : Forest HTREEITEM) (s : ItemMaps) :
    (addChildren index t s).1 = idsOf (value s) t.nodes ∧
      SameValues s (addChildren index t s).2 := by
  induction t generalizing s with
  | nil => exact ⟨rfl, .refl s⟩
  | node item child sibling ihc ihs =>
    obtain ⟨hids, hsame⟩ := addID_spec hreads item s
    obtain ⟨hbelow, hsame'⟩ := ihc (addID index item s).2
    obtain ⟨hbehind, hsame''⟩ := ihs (addChildren index child (addID index item s).2).2
    have hsame₁ := hsame.trans hsame'
    simp only [addChildren, hids, hbelow, hbehind, hreads.congr hsame, hreads.congr hsame₁]
    refine ⟨?_, hsame₁.trans hsame''⟩
    rw [Forest.nodes, ← idsOf_append, ← idsOf_append, List.append_assoc, List.singleton_append]

/-- **What is found for an item**: the ids at it and below it, in preorder. -/
theorem findIDs_spec {item : HTREEITEM} (hne : item ≠ nullptr) (s : ItemMaps) :
    (findIDs index item s).1 =
        idsOf (value s) (item :: (Forest.childOf (· == item) s.m_tree_areas).nodes) ∧
      SameValues s (findIDs index item s).2 := by
  obtain ⟨hids, hsame⟩ := addID_spec hreads item s
  obtain ⟨hbelow, hsame'⟩ := addChildren_spec hreads
    (Forest.childOf (· == item) (addID index item s).2.m_tree_areas) (addID index item s).2
  simp only [findIDs, if_neg hne, hids, hbelow, hreads.congr hsame]
  refine ⟨?_, hsame.trans hsame'⟩
  rw [hsame.m_tree_areas, ← idsOf_append, List.singleton_append]

theorem findIDs_same (item : HTREEITEM) (s : ItemMaps) :
    SameValues s (findIDs index item s).2 := by
  by_cases hne : item = nullptr
  · rw [findIDs, if_pos hne]
    exact .refl s
  · exact (findIDs_spec hreads hne s).2

end Find

variable (s : ItemMaps) (item : HTREEITEM)

/-- The branch the values lead to. -/
theorem selectionTest_spec :
    (selectionTest item s).1 =
        (if s.m_mapTreeCtrToIDType.value item ≠ "" then some .device
        else if s.m_mapTreeCtrToID.value item ≠ "" then some .area else none) ∧
      SameValues s (selectionTest item s).2 := by
  have hfirst := reads_CtrToIDType.same item s
  have hsecond := reads_CtrToID.same item (indexCtrToIDType item s).2
  simp only [selectionTest, reads_CtrToIDType.reads, reads_CtrToID.reads, hfirst.CtrToID]
  split
  next => exact ⟨rfl, hfirst⟩
  next =>
    split
    next => exact ⟨rfl, hfirst.trans hsecond⟩
    next => exact ⟨rfl, hfirst.trans hsecond⟩

theorem branchIDs_same (m_radioChoose : RadioChoose) (branch : SelectionBranch) :
    SameValues s (branchIDs m_radioChoose branch item s).2 := by
  have hareas := findIDs_same reads_CtrToID item s
  have hdevices := findIDs_same reads_CtrToIDType item s
  cases m_radioChoose with
  | radio_user =>
    cases branch with
    | device => exact .refl s
    | area => exact hareas
  | radio_devices =>
    cases branch with
    | device => exact hdevices
    | area => exact hareas
  | radio_work => exact hdevices

theorem beginSwitchDataIDs_same (m_radioChoose : RadioChoose) :
    SameValues s (beginSwitchDataIDs m_radioChoose item s).2 := by
  have htest := (selectionTest_spec s item).2
  rw [beginSwitchDataIDs]
  generalize selectionTest item s = result at htest ⊢
  obtain ⟨_ | branch, s'⟩ := result
  · exact htest
  · exact htest.trans (branchIDs_same s' item m_radioChoose branch)

theorem lookUp_same (l : Lookup) : SameValues s (s.lookUp l) := by
  cases l with
  | FindChildID item => exact findIDs_same reads_CtrToID item s
  | FindChildTypeID item => exact findIDs_same reads_CtrToIDType item s
  | BeginSwitchData mode item => exact beginSwitchDataIDs_same s item mode

/-- **Any number of lookups** changes no value. -/
theorem lookUps_same (lookups : List Lookup) : SameValues s (lookups.foldl lookUp s) := by
  induction lookups generalizing s with
  | nil => exact .refl s
  | cons l lookups ih => exact (s.lookUp_same l).trans (ih (s.lookUp l))

end ItemMaps

/-! ## §3 The items they see -/

namespace ItemMaps

/-- The items of a part of the tree, with the ids attached to them. -/
def treeItems (s : ItemMaps) : Forest HTREEITEM → List TreeItem
  | .nil => []
  | .node item child sibling =>
    .item (s.m_mapTreeCtrToID.value item) (s.m_mapTreeCtrToIDType.value item)
      (treeItems s child) :: treeItems s sibling

/-- An item, with the ids attached to it and to the items below. -/
def treeItem (s : ItemMaps) (item : HTREEITEM) : TreeItem :=
  .item (s.m_mapTreeCtrToID.value item) (s.m_mapTreeCtrToIDType.value item)
    (s.treeItems (Forest.childOf (· == item) s.m_tree_areas))

/-- The items at an item and below, in preorder. -/
def subtree (s : ItemMaps) (item : HTREEITEM) : List HTREEITEM :=
  item :: (Forest.childOf (· == item) s.m_tree_areas).nodes

variable {s : ItemMaps} {item : HTREEITEM}

private theorem findChildrenID_treeItems (t : Forest HTREEITEM) :
    findChildrenID (s.treeItems t) = idsOf s.m_mapTreeCtrToID.value t.nodes := by
  induction t with
  | nil => rfl
  | node item child sibling ihc ihs =>
    rw [treeItems, findChildrenID, MtpSync.findChildID, ihc, ihs, ← idsOf_singleton,
      ← idsOf_append, ← idsOf_append, Forest.nodes, List.append_assoc, List.singleton_append]

private theorem findChildrenTypeID_treeItems (t : Forest HTREEITEM) :
    findChildrenTypeID (s.treeItems t) = idsOf s.m_mapTreeCtrToIDType.value t.nodes := by
  induction t with
  | nil => rfl
  | node item child sibling ihc ihs =>
    rw [treeItems, findChildrenTypeID, MtpSync.findChildTypeID, ihc, ihs, ← idsOf_singleton,
      ← idsOf_append, ← idsOf_append, Forest.nodes, List.append_assoc, List.singleton_append]

/-- The areas at an item and below. -/
theorem findChildID_treeItem :
    MtpSync.findChildID (s.treeItem item) =
      idsOf s.m_mapTreeCtrToID.value (s.subtree item) := by
  rw [treeItem, MtpSync.findChildID, findChildrenID_treeItems, ← idsOf_singleton, ← idsOf_append]
  rfl

/-- The devices at an item and below. -/
theorem findChildTypeID_treeItem :
    MtpSync.findChildTypeID (s.treeItem item) =
      idsOf s.m_mapTreeCtrToIDType.value (s.subtree item) := by
  rw [treeItem, MtpSync.findChildTypeID, findChildrenTypeID_treeItems, ← idsOf_singleton,
    ← idsOf_append]
  rfl

theorem subtree_congr {s' : ItemMaps} (h : SameValues s s') :
    s'.subtree item = s.subtree item := by
  rw [subtree, subtree, h.m_tree_areas]

/-- **`FindChildID` by the handles** finds what it finds in the items, after any lookups. -/
theorem findChildID_of_same {s' : ItemMaps} (h : SameValues s s') (hne : item ≠ nullptr) :
    (findChildID item s').1 = MtpSync.findChildID (s.treeItem item) := by
  rw [findChildID_treeItem, ← subtree_congr h, ← reads_CtrToID.congr h]
  exact (findIDs_spec reads_CtrToID hne s').1

theorem findChildTypeID_of_same {s' : ItemMaps} (h : SameValues s s') (hne : item ≠ nullptr) :
    (findChildTypeID item s').1 = MtpSync.findChildTypeID (s.treeItem item) := by
  rw [findChildTypeID_treeItem, ← subtree_congr h, ← reads_CtrToIDType.congr h]
  exact (findIDs_spec reads_CtrToIDType hne s').1

/-- **What `BeginSwitchData` collects by the handles** is what it collects from the items: the
ids of a sync are those at the selected item and below. -/
theorem beginSwitchDataIDs_eq (hne : item ≠ nullptr) {sel : Selection}
    (hcur : sel.m_treeCtrl_curItem = s.treeItem item) (m_radioChoose : RadioChoose) :
    (beginSwitchDataIDs m_radioChoose item s).1 =
      if sel.hasChunks m_radioChoose then some (sel.chunkIds m_radioChoose) else none := by
  have hdevice : sel.m_treeCtrl_curItem.isDevice =
      decide (s.m_mapTreeCtrToIDType.value item ≠ "") := by
    rw [hcur]
    rfl
  have harea : sel.m_treeCtrl_curItem.isArea =
      (decide (s.m_mapTreeCtrToIDType.value item = "") &&
        decide (s.m_mapTreeCtrToID.value item ≠ "")) := by
    rw [hcur]
    rfl
  obtain ⟨hbranch, hsame⟩ := selectionTest_spec s item
  rw [beginSwitchDataIDs]
  generalize selectionTest item s = result at hbranch hsame ⊢
  obtain ⟨branch, s'⟩ := result
  have hareas := findChildID_of_same hsame hne
  have hdevices := findChildTypeID_of_same hsame hne
  rw [← hcur] at hareas hdevices
  dsimp only at hbranch
  subst hbranch
  -- a device, an area, or neither
  by_cases hType : s.m_mapTreeCtrToIDType.value item = ""
  · by_cases hID : s.m_mapTreeCtrToID.value item = ""
    · cases m_radioChoose <;> simp [Selection.hasChunks, hdevice, harea, hType, hID]
    · cases m_radioChoose <;>
        simp [Selection.hasChunks, Selection.chunkIds, Selection.deviceScope, branchIDs, hdevice,
          harea, hType, hID, hareas, hdevices]
  · cases m_radioChoose <;>
      simp [Selection.hasChunks, Selection.chunkIds, Selection.deviceScope, branchIDs, hdevice,
        harea, hType, hdevices]

end ItemMaps

/-! ## §4 The maps stay inverse to each other -/

/-- **The maps agree with the rows shown**: every area and every device has one item, no item has
both ids, and every item leads to one of the two branches. -/
structure MapsAgree (m_userArea : String) (d : TreeData) (s : ItemMaps) : Prop where
  areas : ∀ a, d.ShownArea m_userArea a → ∃ h, s.m_tree_areas.Mem h ∧
    s.m_mapTreeCtrToID.value h = a.Id ∧ s.m_mapTreeIDToCtrl.value a.Id = h ∧
      ∀ h', s.m_mapTreeCtrToID.value h' = a.Id → h' = h
  devices : ∀ x, d.ShownDevice m_userArea x → ∃ h, s.m_tree_areas.Mem h ∧
    s.m_mapTreeCtrToIDType.value h = x.Id ∧
      ∀ h', s.m_mapTreeCtrToIDType.value h' = x.Id → h' = h
  apart : ∀ h, s.m_mapTreeCtrToID.value h = "" ∨ s.m_mapTreeCtrToIDType.value h = ""
  branch : ∀ h, s.m_tree_areas.Mem h →
    ((ItemMaps.selectionTest h s).1 = some .device ∧ s.m_mapTreeCtrToID.value h = "" ∧
        ∃ x, d.ShownDevice m_userArea x ∧ s.m_mapTreeCtrToIDType.value h = x.Id) ∨
      ((ItemMaps.selectionTest h s).1 = some .area ∧ s.m_mapTreeCtrToIDType.value h = "" ∧
        ∃ a, d.ShownArea m_userArea a ∧ s.m_mapTreeCtrToID.value h = a.Id)

section MapsAgree

variable {rc : InsertItemRc} {o : MapOrder} {m_userArea : String} {d : TreeData} {s : ItemMaps}

private theorem mem_of_shownArea {a : SqlRow AreasCol} (h : d.ShownArea m_userArea a) :
    a ∈ d.areas := by
  obtain ⟨top, htop, hchain⟩ := h
  exact mem_of_parents hchain htop.1

private theorem mem_of_shownDevice {x : SqlRow DeviceInfoCol} (h : d.ShownDevice m_userArea x) :
    x ∈ d.device_info := by
  obtain ⟨r, hr, hchain⟩ := h
  exact mem_of_parents hchain hr.1.1

/-- An item has one id, in one of the maps. -/
private theorem Noted.apart {keys : List ItemKey} (h : Noted rc s keys) (x : HTREEITEM) :
    s.m_mapTreeCtrToID.value x = "" ∨ s.m_mapTreeCtrToIDType.value x = "" := by
  by_contra hboth
  obtain ⟨harea, hdevice⟩ := not_or.1 hboth
  have hkey := ((h.CtrToID x _ harea).1 rfl).key_unique ((h.CtrToIDType x _ hdevice).1 rfl)
  cases hkey

section Values

variable {keys : List ItemKey} {x : HTREEITEM} {i : String}

/-- The item of an area has no device's id. -/
private theorem Noted.area_values (h : Noted rc s keys) (hi : i ≠ "")
    (hx : HandleOf rc keys (.area i) x) :
    s.m_mapTreeCtrToID.value x = i ∧ s.m_mapTreeCtrToIDType.value x = "" := by
  have hvalue := (h.CtrToID x i hi).2 hx
  exact ⟨hvalue, (h.apart x).resolve_left (hvalue ▸ hi)⟩

/-- The item of a device has no area's id. -/
private theorem Noted.device_values (h : Noted rc s keys) (hi : i ≠ "")
    (hx : HandleOf rc keys (.device i) x) :
    s.m_mapTreeCtrToIDType.value x = i ∧ s.m_mapTreeCtrToID.value x = "" := by
  have hvalue := (h.CtrToIDType x i hi).2 hx
  exact ⟨hvalue, (h.apart x).resolve_right (hvalue ▸ hi)⟩

/-- An area has one item, which `m_mapTreeIDToCtrl` leads to. -/
private theorem Noted.area_item (h : Noted rc s keys) (hnodup : keys.Nodup) (hi : i ≠ "")
    (hmem : .area i ∈ keys) :
    ∃ x, s.m_tree_areas.Mem x ∧ s.m_mapTreeCtrToID.value x = i ∧
      s.m_mapTreeIDToCtrl.value i = x ∧ ∀ x', s.m_mapTreeCtrToID.value x' = i → x' = x := by
  have hhandle := h.IDToCtrl i (h.IDToCtrl_ne i hmem)
  refine ⟨_, Forest.mem_nodes.1 (h.mem_nodes.2 hhandle.lt), (h.CtrToID _ _ hi).2 hhandle, rfl,
    fun x' hvalue => ?_⟩
  exact ((h.CtrToID x' _ hi).1 hvalue).unique hnodup hhandle

/-- A device has one item. -/
private theorem Noted.device_item (h : Noted rc s keys) (hnodup : keys.Nodup) (hi : i ≠ "")
    (hmem : .device i ∈ keys) :
    ∃ x, s.m_tree_areas.Mem x ∧ s.m_mapTreeCtrToIDType.value x = i ∧
      ∀ x', s.m_mapTreeCtrToIDType.value x' = i → x' = x := by
  obtain ⟨x, hhandle⟩ := @exists_handleOf rc _ _ hmem
  refine ⟨x, Forest.mem_nodes.1 (h.mem_nodes.2 hhandle.lt), (h.CtrToIDType _ _ hi).2 hhandle,
    fun x' hvalue => ?_⟩
  exact ((h.CtrToIDType x' _ hi).1 hvalue).unique hnodup hhandle

/-- An item in the tree stands for something. -/
private theorem Noted.exists_key (h : Noted rc s keys) (hx : s.m_tree_areas.Mem x) :
    ∃ k, HandleOf rc keys k x := by
  obtain ⟨n, hlt, hitem⟩ := h.mem_nodes.1 (Forest.mem_nodes.2 hx)
  exact ⟨_, n, List.getElem?_eq_getElem hlt, hitem⟩

end Values

/-- The maps of the items of the rows shown. -/
private theorem mapsAgree_of_noted {areas devices : List String} (hId : d.NoId "")
    (h : Noted rc s (areas.map .area ++ devices.map .device)) (hareas : areas.Nodup)
    (hdevices : devices.Nodup)
    (hareaMem : ∀ i, i ∈ areas ↔ ∃ a, d.ShownArea m_userArea a ∧ a.Id = i)
    (hdeviceMem : ∀ i, i ∈ devices ↔ ∃ x, d.ShownDevice m_userArea x ∧ x.Id = i) :
    MapsAgree m_userArea d s := by
  have hnodup := itemKeys_nodup hareas hdevices
  have hareaId : ∀ a, d.ShownArea m_userArea a → a.Id ≠ "" := fun a ha =>
    hId.1 a (mem_of_shownArea ha)
  have hdeviceId : ∀ x, d.ShownDevice m_userArea x → x.Id ≠ "" := fun x hx =>
    hId.2 x (mem_of_shownDevice hx)
  refine ⟨fun a ha => ?_, fun x hx => ?_, h.apart, fun x hx => ?_⟩
  · refine h.area_item hnodup (hareaId a ha) (List.mem_append_left _ ?_)
    exact List.mem_map_of_mem ((hareaMem _).2 ⟨a, ha, rfl⟩)
  · refine h.device_item hnodup (hdeviceId x hx) (List.mem_append_right _ ?_)
    exact List.mem_map_of_mem ((hdeviceMem _).2 ⟨x, hx, rfl⟩)
  · -- the item stands for an area or for a device
    obtain ⟨k, hhandle⟩ := h.exists_key hx
    rw [(ItemMaps.selectionTest_spec s x).1]
    rcases List.mem_append.1 hhandle.mem with hmem | hmem
    · obtain ⟨i, hi, rfl⟩ := List.mem_map.1 hmem
      obtain ⟨a, ha, rfl⟩ := (hareaMem i).1 hi
      obtain ⟨hvalue, hempty⟩ := h.area_values (hareaId a ha) hhandle
      refine .inr ⟨?_, hempty, a, ha, hvalue⟩
      rw [hempty, hvalue, if_neg (not_not.2 rfl), if_pos (hareaId a ha)]
    · obtain ⟨i, hi, rfl⟩ := List.mem_map.1 hmem
      obtain ⟨y, hy, rfl⟩ := (hdeviceMem i).1 hi
      obtain ⟨hvalue, hempty⟩ := h.device_values (hdeviceId y hy) hhandle
      refine .inl ⟨?_, hempty, y, hy, hvalue⟩
      rw [hvalue, if_pos (hdeviceId y hy)]

/-- Only rows of the tables are shown. -/
private theorem noId_shown {i : String} (h : d.NoId i) : d.shown.NoId i :=
  ⟨fun a ha => h.1 a (Table.mem_deleteWhere.1 ha).1,
    fun x hx => h.2 x (Table.mem_deleteWhere.1 hx).1⟩

/-- **The maps stay inverse to each other**, from a successful `Init_areas_tree` on and through
any lookups. -/
theorem maps_stay_inverse (rc : InsertItemRc) (o : MapOrder) (m_userArea : String) {d : TreeData}
    (hId : d.NoId "") {fuel : ℕ} {s : ItemMaps} {m_deleteTree : DeleteTree}
    (h : initAreasTreeMaps o rc m_userArea d fuel = some (s, m_deleteTree))
    (lookups : List Lookup) :
    MapsAgree m_userArea d.shown (lookups.foldl ItemMaps.lookUp s) := by
  obtain ⟨s', hitems, hrest⟩ := Option.bind_eq_some_iff.1 h
  obtain ⟨tree, -, heq⟩ := Option.bind_eq_some_iff.1 hrest
  cases heq
  obtain ⟨areas, devices, hnoted, hareas, hdevices, hareaMem, hdeviceMem⟩ :=
    noted_initItems hitems
  exact mapsAgree_of_noted (noId_shown hId) (hnoted.congr (s.lookUps_same lookups)) hareas hdevices
    hareaMem hdeviceMem

/-- The handles 1, 2, 3 and so on. -/
def InsertItemRc.counted : InsertItemRc := ⟨Nat.succ, Nat.succ_ne_zero, Nat.succ_injective⟩

/-- An area in an area, a device with one below it, and a device whose area is not there. -/
def TreeData.areaMissing : TreeData where
  areas := ⟨[areaRow "a" "0" "0", areaRow "b" "a" "1"], by decide⟩
  device_info := ⟨[deviceRow "x" "0" "b" "0", deviceRow "y" "x" "" "0",
    deviceRow "z" "0" "c" "0"], by decide⟩

/-- The missing area gets an empty entry, and the lookups store more. -/
theorem areaMissing_stays_inverse :
    ∃ s m_deleteTree,
      initAreasTreeMaps .inserted .counted "" .areaMissing 3 = some (s, m_deleteTree) ∧
        MapsAgree "" TreeData.areaMissing.shown
          ([.BeginSwitchData .radio_work 3, .FindChildID 1].foldl ItemMaps.lookUp s) := by
  have hsome : (initAreasTreeMaps .inserted .counted "" .areaMissing 3).isSome = true := by decide
  obtain ⟨⟨s, m_deleteTree⟩, h⟩ := Option.isSome_iff_exists.1 hsome
  exact ⟨s, m_deleteTree, h, maps_stay_inverse .counted .inserted "" (by decide) h _⟩

end MapsAgree

end MtpSync
