import MtpSync.Tree.Lookups
import MtpSync.Chunks

/-!
# What the routines of a sync are handed

`BeginSwitchData` collects the ids at the selected item and below, cuts them into chunks and calls
the routines of the mode once for each chunk.  However many items there are and however areas and
devices are mixed, the routines see every id once, in the order of the tree.

- §1 the ids of a part of the tree
- §2 one call after the other
- §3 `BeginSwitchData` by its chunks
- §4 every id is handed over once
-/

namespace MtpSync

open Act

/-! ## §1 The ids of a part of the tree -/

mutual

/-- The ids attached to an item and to the items below it, an item before those below it. -/
def TreeItem.preorder : TreeItem → List (String × String)
  | .item id idType children => (id, idType) :: preorderAll children

/-- The same for some items, one after the other. -/
def TreeItem.preorderAll : List TreeItem → List (String × String)
  | [] => []
  | first :: rest => first.preorder ++ preorderAll rest

end

/-- The area ids of an item and those below, empty ones left out. -/
def TreeItem.areaIDs (item : TreeItem) : List String :=
  (item.preorder.map Prod.fst).filter fun i => i ≠ ""

/-- The device ids of an item and those below, empty ones left out. -/
def TreeItem.deviceIDs (item : TreeItem) : List String :=
  (item.preorder.map Prod.snd).filter fun i => i ≠ ""

mutual

/-- The two walks collect the ids that are not empty, in their order. -/
private theorem findIDs_eq : ∀ item : TreeItem,
    findChildID item = item.areaIDs ∧ findChildTypeID item = item.deviceIDs
  | .item id idType children => by
    obtain ⟨hareas, hdevices⟩ := findChildrenIDs_eq children
    rw [findChildID, findChildTypeID, hareas, hdevices, TreeItem.areaIDs, TreeItem.deviceIDs,
      TreeItem.preorder, List.map_cons, List.map_cons]
    constructor
    · by_cases hempty : id = "" <;> simp [hempty]
    · by_cases hempty : idType = "" <;> simp [hempty]

private theorem findChildrenIDs_eq : ∀ items : List TreeItem,
    findChildrenID items =
        ((TreeItem.preorderAll items).map Prod.fst).filter (fun i => i ≠ "") ∧
      findChildrenTypeID items =
        ((TreeItem.preorderAll items).map Prod.snd).filter (fun i => i ≠ "")
  | [] => ⟨rfl, rfl⟩
  | item :: items => by
    obtain ⟨harea, hdevice⟩ := findIDs_eq item
    obtain ⟨hareas, hdevices⟩ := findChildrenIDs_eq items
    rw [findChildrenID, findChildrenTypeID, harea, hdevice, hareas, hdevices,
      TreeItem.preorderAll, List.map_append, List.map_append, List.filter_append,
      List.filter_append]
    exact ⟨rfl, rfl⟩

end

/-- **`FindChildID` collects the area ids**, in their order. -/
theorem findChildID_eq (item : TreeItem) : findChildID item = item.areaIDs := (findIDs_eq item).1

/-- **`FindChildTypeID` collects the device ids**, in their order. -/
theorem findChildTypeID_eq (item : TreeItem) : findChildTypeID item = item.deviceIDs :=
  (findIDs_eq item).2

/-! ## §2 One call after the other -/

/-- The chunks that have items, with their indices. -/
def handedOver : ℕ → List (List String) → List (ℕ × List String)
  | _, [] => []
  | k, chunk :: chunks =>
    if chunk = [] then handedOver (k + 1) chunks else (k, chunk) :: handedOver (k + 1) chunks

/-- A routine for each of these chunks; whether all succeeded. -/
def callEach (routine : ℕ → List String → Act World Bool) :
    List (ℕ × List String) → Act World Bool
  | [] => pure true
  | (k, chunk) :: chunks => do
    let ret ← routine k chunk
    let ret' ← callEach routine chunks
    pure (ret && ret')

section HandedOver

variable {routine : ℕ → List String → Act World Bool} {k : ℕ} {chunks : List (List String)}

private theorem bind_pure_eq {σ α : Type} (m : Act σ α) : (m >>= fun a => pure a) = m := by
  obtain ⟨run⟩ := m
  refine congrArg Act.mk (funext fun s => ?_)
  rcases hrun : run s with ⟨h | a, s'⟩
  · exact bind_run_error hrun
  · exact bind_run_ok hrun

/-- **The loop over the chunks** is a call for each of those that have items. -/
theorem forChunks_eq : forChunks routine k chunks = callEach routine (handedOver k chunks) := by
  induction chunks generalizing k with
  | nil => rfl
  | cons chunk chunks ih =>
    rw [forChunks, handedOver, ih]
    by_cases hempty : chunk = []
    · rw [if_pos hempty, if_pos hempty]
      exact bind_pure_eq _
    · rw [if_neg hempty, if_neg hempty, callEach]

/-- Nothing is left out where no chunk is empty. -/
theorem handedOver_chunks (h : ∀ chunk ∈ chunks, chunk ≠ []) :
    (handedOver k chunks).map Prod.snd = chunks := by
  induction chunks generalizing k with
  | nil => rfl
  | cons chunk chunks ih =>
    obtain ⟨hchunk, hchunks⟩ := List.forall_mem_cons.1 h
    rw [handedOver, if_neg hchunk, List.map_cons, ih hchunks]

end HandedOver

/-- A chunk holds twenty ids at most. -/
theorem length_le_of_mem_getArrayItems {ids chunk : List String} (h : chunk ∈ getArrayItems ids) :
    chunk.length ≤ MAXARRAYSIZE := by
  rw [getArrayItems] at h
  generalize ids.length / MAXARRAYSIZE + (if ids.length % MAXARRAYSIZE = 0 then 0 else 1) = n at h
  induction n generalizing ids with
  | zero => cases h
  | succ n ih =>
    rw [getArrayItemsLoop] at h
    rcases List.mem_cons.1 h with rfl | h
    · exact (List.takeWhile_sublist _).length_le.trans (List.length_take_le _ _)
    · exact ih h

/-! ## §3 `BeginSwitchData` by its chunks -/

section Blocks

variable (sel : Selection) (dir : TongbuDir) (mode : RadioChoose) (rc : SwitchRc)

/-- The routines of a mode for one chunk, in either direction. -/
def blockRoutine (k : ℕ) (ids : List String) : Act World Bool :=
  match mode, dir with
  -- users go to the phone only
  | .radio_user, _ => synchrodataSysUser ids (rc.user k)
  | .radio_devices, .tongbu_to_phone =>
    synchrodataDeviceInfoToPhone ids sel.fw (rc.devices k).toPhone
  | .radio_devices, .tongbu_to_pc => synchrodataDeviceInfoToPc ids sel.fw (rc.devices k).toPc
  | .radio_work, .tongbu_to_phone => do
    let template ← synchrodataWorkTemplateToPhone ids (rc.work k).template
    let type ← synchrodataWorkTypeToPhone ids (rc.work k).type
    let task ← synchrodataWorkTaskToPhone ids (rc.work k).task
    -- the records of every device, for each chunk again
    let record ← synchrodataWorkRecordToPhone (rc.work k).record
    pure (template && type && task && record)
  | .radio_work, .tongbu_to_pc => do
    let task ← synchrodataWorkTaskToPc ids (rc.work k).taskToPc
    let record ← synchrodataWorkRecordToPc ids (rc.work k).recordToPc
    pure (task && record)

/-- What the routines of a mode are handed, one by one. -/
def Selection.handed : List (ℕ × List String) :=
  if sel.hasChunks mode then handedOver 0 (getArrayItems (sel.chunkIds mode)) else []

/-- The part of a mode, up to the statements sent at the end: `switch` is what follows the areas. -/
def afterAreas (switch : Act World Bool) : Act World Bool :=
  match mode, dir with
  | .radio_devices, .tongbu_to_phone => do
    let _ ← synchrodataAreasToPhone sel.shownAreas rc.areas
    switch
  | _, _ => switch

/-- The calls of the routines, and the answer where there are none. -/
def switchBlock : Act World Bool :=
  if sel.hasChunks mode then do
    removeAll
    let ret ← callEach (blockRoutine sel dir mode rc) (sel.handed mode)
    let ret' ← updateQueued rc.update
    pure (ret && ret')
  else pure !(mode = .radio_user && sel.m_treeCtrl_curItem.isDevice)

/-- `BeginSwitchData`, as the calls it makes. -/
def switchByChunks : Act World Bool := do
  removeAll
  if rc.init then do
    let _ ← deleteAreaAndDevice sel.mapOrder sel.m_deleteTree rc.deleteArea
    afterAreas sel dir mode rc (switchBlock sel dir mode rc)
  else pure false

variable {sel mode}

/-- Where the mode gets to its chunks, its block is the loop over them. -/
private theorem switchBlock_of_has (h : sel.hasChunks mode = true) :
    switchBlock sel dir mode rc =
      chunked (blockRoutine sel dir mode rc) rc.update (sel.chunkIds mode) := by
  rw [switchBlock, if_pos h, Selection.handed, if_pos h, chunked, forChunks_eq]

private theorem switchBlock_of_none (h : sel.hasChunks mode = false) :
    switchBlock sel dir mode rc =
      pure !(mode = .radio_user && sel.m_treeCtrl_curItem.isDevice) := by
  rw [switchBlock, h, if_neg (by decide)]

variable (sel mode)

private theorem userBlock_eq : userBlock sel rc = switchBlock sel dir .radio_user rc := by
  rw [userBlock]
  by_cases hdevice : sel.m_treeCtrl_curItem.isDevice = true
  · rw [if_pos hdevice, switchBlock_of_none dir rc (by rw [Selection.hasChunks, hdevice]; rfl),
      hdevice]
    rfl
  · rw [if_neg hdevice]
    rw [Bool.not_eq_true] at hdevice
    by_cases harea : sel.m_treeCtrl_curItem.isArea = true
    · have hchunks : sel.hasChunks .radio_user = true := by
        rw [Selection.hasChunks, hdevice, harea]
        rfl
      rw [if_pos harea, switchBlock_of_has dir rc hchunks]
      rfl
    · rw [if_neg harea]
      rw [Bool.not_eq_true] at harea
      rw [switchBlock_of_none dir rc (by rw [Selection.hasChunks, hdevice, harea]; rfl), hdevice]
      rfl

/-- The devices' block, from the areas on. -/
private theorem selectedDevices_eq :
    (if sel.m_treeCtrl_curItem.isDevice then
        chunked (fun k ids => devicesChunk dir .devices (rc.devices k) ids) rc.update
          (findChildTypeID sel.m_treeCtrl_curItem)
      else if sel.m_treeCtrl_curItem.isArea then
        chunked (fun k ids => devicesChunk dir .areas (rc.devices k) ids) rc.update
          (findChildID sel.m_treeCtrl_curItem)
      else pure true) = switchBlock sel dir .radio_devices rc := by
  have hroutine : blockRoutine sel dir .radio_devices rc =
      fun k ids => devicesChunk dir sel.fw (rc.devices k) ids := by
    cases dir <;> rfl
  have hids : sel.chunkIds .radio_devices = sel.deviceScope := rfl
  have hhas : sel.hasChunks .radio_devices =
      (sel.m_treeCtrl_curItem.isDevice || sel.m_treeCtrl_curItem.isArea) := rfl
  by_cases hdevice : sel.m_treeCtrl_curItem.isDevice = true
  · rw [if_pos hdevice, switchBlock_of_has dir rc (by rw [hhas, hdevice, Bool.true_or]),
      hroutine, hids, Selection.fw, Selection.deviceScope, if_pos hdevice, if_pos hdevice]
  · rw [if_neg hdevice]
    by_cases harea : sel.m_treeCtrl_curItem.isArea = true
    · rw [if_pos harea,
        switchBlock_of_has dir rc (by rw [hhas, harea, Bool.or_true]), hroutine, hids,
        Selection.fw, Selection.deviceScope, if_neg hdevice, if_neg hdevice]
    · rw [if_neg harea]
      rw [Bool.not_eq_true] at hdevice harea
      rw [switchBlock_of_none dir rc (by rw [hhas, hdevice, harea, Bool.or_false])]
      rfl

private theorem workBlock_eq : workBlock sel dir rc = switchBlock sel dir .radio_work rc := by
  have hroutine : blockRoutine sel dir .radio_work rc =
      fun k ids => workChunk dir (rc.work k) ids := by
    cases dir <;> rfl
  rw [workBlock]
  by_cases hhas : sel.hasChunks .radio_work = true
  · rw [switchBlock_of_has dir rc hhas, hroutine]
    exact if_pos hhas
  · rw [switchBlock_of_none dir rc (Bool.not_eq_true _ ▸ hhas)]
    exact if_neg hhas

/-- **`BeginSwitchData` makes these calls**, in this order. -/
theorem beginSwitchData_eq : beginSwitchData sel dir mode rc = switchByChunks sel dir mode rc := by
  unfold beginSwitchData switchByChunks
  cases mode with
  | radio_user => rw [userBlock_eq sel dir]; rfl
  | radio_work => rw [workBlock_eq]; rfl
  | radio_devices =>
    have hblock : devicesBlock sel dir rc =
        afterAreas sel dir .radio_devices rc (switchBlock sel dir .radio_devices rc) := by
      rw [← selectedDevices_eq]
      cases dir with
      | tongbu_to_phone => rfl
      | tongbu_to_pc => rfl
    rw [hblock]

end Blocks

/-! ## §4 Every id is handed over once -/

/-- The ids a mode is about: the areas for users, and for devices if an area is selected; the
devices otherwise. -/
def Selection.subtreeIDs (sel : Selection) : RadioChoose → List String
  | .radio_user => sel.m_treeCtrl_curItem.areaIDs
  | .radio_devices =>
    if sel.m_treeCtrl_curItem.isDevice then sel.m_treeCtrl_curItem.deviceIDs
    else sel.m_treeCtrl_curItem.areaIDs
  | .radio_work => sel.m_treeCtrl_curItem.deviceIDs

/-- An item of a tree that `Init_areas_tree` made, after any lookups. -/
def DisplayedItem (cur : TreeItem) : Prop :=
  ∃ (o : MapOrder) (rc : InsertItemRc) (m_userArea : String) (d : TreeData) (fuel : ℕ)
    (s : ItemMaps) (m_deleteTree : DeleteTree) (lookups : List Lookup) (item : HTREEITEM),
    initAreasTreeMaps o rc m_userArea d fuel = some (s, m_deleteTree) ∧
      s.m_tree_areas.Mem item ∧ cur = (lookups.foldl ItemMaps.lookUp s).treeItem item

/-- **The chunks of a sync**: what `BeginSwitchData` hands to the routines of a mode. -/
structure HandsOver (sel : Selection) (dir : TongbuDir) (mode : RadioChoose) (rc : SwitchRc) :
    Prop where
  /-- the routines are called once for each chunk, one after the other -/
  calls : beginSwitchData sel dir mode rc = switchByChunks sel dir mode rc
  /-- what is collected under the handles are the ids at the selected item and below -/
  collected : ∀ (s : ItemMaps) (item : HTREEITEM), item ≠ nullptr →
    sel.m_treeCtrl_curItem = s.treeItem item →
      (ItemMaps.beginSwitchDataIDs mode item s).1 =
        if sel.hasChunks mode then some (sel.subtreeIDs mode) else none
  nonempty : ∀ chunk ∈ sel.handed mode, chunk.2 ≠ []
  atMost : ∀ chunk ∈ sel.handed mode, chunk.2.length ≤ MAXARRAYSIZE
  /-- the chunks are these ids -/
  inOrder : sel.hasChunks mode = true →
    ((sel.handed mode).map Prod.snd).flatten = sel.subtreeIDs mode
  /-- none of them is there twice -/
  once : DisplayedItem sel.m_treeCtrl_curItem → (sel.subtreeIDs mode).Nodup

section HandsOver

variable {sel : Selection} {mode : RadioChoose}

private theorem chunkIds_eq : sel.chunkIds mode = sel.subtreeIDs mode := by
  cases mode with
  | radio_user => exact findChildID_eq _
  | radio_devices =>
    rw [Selection.chunkIds, Selection.deviceScope, findChildID_eq, findChildTypeID_eq]
    rfl
  | radio_work => exact findChildTypeID_eq _

private theorem subtreeIDs_ne_empty : "" ∉ sel.subtreeIDs mode := by
  have hareas : "" ∉ sel.m_treeCtrl_curItem.areaIDs := by
    simp [TreeItem.areaIDs]
  have hdevices : "" ∉ sel.m_treeCtrl_curItem.deviceIDs := by
    simp [TreeItem.deviceIDs]
  cases mode with
  | radio_user => exact hareas
  | radio_devices =>
    rw [Selection.subtreeIDs]
    split
    · exact hdevices
    · exact hareas
  | radio_work => exact hdevices

/-- What is handed over, without the indices. -/
private theorem handed_chunks (h : sel.hasChunks mode = true) :
    (sel.handed mode).map Prod.snd = getArrayItems (sel.subtreeIDs mode) := by
  rw [Selection.handed, if_pos h, chunkIds_eq]
  exact handedOver_chunks fun chunk => ne_nil_of_mem_getArrayItems subtreeIDs_ne_empty

private theorem mem_handed {chunk : ℕ × List String} (h : chunk ∈ sel.handed mode) :
    chunk.2 ∈ getArrayItems (sel.subtreeIDs mode) := by
  cases hhas : sel.hasChunks mode with
  | true =>
    rw [← handed_chunks hhas]
    exact List.mem_map_of_mem h
  | false =>
    rw [Selection.handed, hhas] at h
    cases h

/-- Items with different ids have their ids once. -/
private theorem idsOf_nodup {value : HTREEITEM → String} {items : List HTREEITEM}
    (hitems : items.Nodup)
    (hvalue : ∀ h h', value h ≠ "" → value h = value h' → h = h') :
    (ItemMaps.idsOf value items).Nodup := by
  rw [ItemMaps.idsOf, List.filter_map]
  refine (hitems.filter _).map_on fun h hh h' _ heq => hvalue h h' ?_ heq
  simpa using (List.mem_filter.1 hh).2

/-- An id of a displayed item is that of no other. -/
private theorem ids_nodup {cur : TreeItem} (h : DisplayedItem cur) :
    cur.areaIDs.Nodup ∧ cur.deviceIDs.Nodup := by
  obtain ⟨o, rc, m_userArea, d, fuel, s₀, m_deleteTree, lookups, item, hinit, hmem, rfl⟩ := h
  obtain ⟨s', hitems, hrest⟩ := Option.bind_eq_some_iff.1 hinit
  obtain ⟨tree, -, heq⟩ := Option.bind_eq_some_iff.1 hrest
  cases heq
  obtain ⟨areas, devices, hnoted, hareas, hdevices, -, -⟩ := noted_initItems hitems
  have hkeys := itemKeys_nodup hareas hdevices
  have hsame := s₀.lookUps_same lookups
  have hafter := hnoted.congr hsame
  -- the items at and below the selected one are different ones
  have hsubtree : ((lookups.foldl ItemMaps.lookUp s₀).subtree item).Nodup := by
    refine hafter.nodes_nodup.sublist (Forest.nodes_childOf_sublist ?_)
    rw [hsame.m_tree_areas]
    exact Forest.mem_nodes.2 hmem
  rw [← findChildID_eq, ← findChildTypeID_eq, ItemMaps.findChildID_treeItem,
    ItemMaps.findChildTypeID_treeItem]
  refine ⟨idsOf_nodup hsubtree fun x x' hne hvalue => ?_,
    idsOf_nodup hsubtree fun x x' hne hvalue => ?_⟩
  · exact ((hafter.CtrToID x _ hne).1 rfl).unique hkeys ((hafter.CtrToID x' _ hne).1 hvalue.symm)
  · exact ((hafter.CtrToIDType x _ hne).1 rfl).unique hkeys
      ((hafter.CtrToIDType x' _ hne).1 hvalue.symm)

/-- **Every id is handed over once**: the chunks have ids, twenty at most, and are together the
ids at the selected item and below, in their order. -/
theorem chunks_handed_over (sel : Selection) (dir : TongbuDir) (mode : RadioChoose)
    (rc : SwitchRc) : HandsOver sel dir mode rc where
  calls := beginSwitchData_eq sel dir mode rc
  collected s item hne hcur := by
    rw [ItemMaps.beginSwitchDataIDs_eq hne hcur mode, chunkIds_eq]
  nonempty _ h := ne_nil_of_mem_getArrayItems subtreeIDs_ne_empty (mem_handed h)
  atMost _ h := length_le_of_mem_getArrayItems (mem_handed h)
  inOrder h := by
    rw [handed_chunks h, getArrayItems_flatten subtreeIDs_ne_empty]
  once h := by
    obtain ⟨hareas, hdevices⟩ := ids_nodup h
    cases mode with
    | radio_user => exact hareas
    | radio_devices =>
      rw [Selection.subtreeIDs]
      split
      · exact hdevices
      · exact hareas
    | radio_work => exact hdevices

end HandsOver

end MtpSync
