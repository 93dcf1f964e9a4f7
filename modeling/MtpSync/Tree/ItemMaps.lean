import MtpSync.Tree.Ends

/-!
# The items of the tree control, by their handles

`Init_areas_tree` inserts the items one by one and keeps three maps of them: from the handle of an
item to the id of its area, back from the id to the handle, and from the handle to the id of its
device.  `FindChildTree` and `FindChildTreeType` are given the handles of the parents in a map of
its own for every level; the loop over the root devices looks the handles of their areas up with
`operator[]`, which stores an empty entry for an id that is not there.

- §1 a map with `operator[]`
- §2 the maps of the items
- §3 what is inserted and noted
- §4 one item after the other
- §5 the recursions
-/

namespace MtpSync

/-! ## §1 A map with `operator[]` -/

/-- A `CMap`: the value stored under a key, if there is one. -/
structure CMap (κ β : Type) where
  Lookup : κ → Option β

namespace CMap

variable {κ β : Type} [Inhabited β]

/-- A map after `RemoveAll`. -/
def empty : CMap κ β := ⟨fun _ => none⟩

/-- What `operator[]` gives back for a key: a new entry is empty. -/
def value (m : CMap κ β) (k : κ) : β := (m.Lookup k).getD default

variable [DecidableEq κ]

/-- `m[k] = v`. -/
def setAt (m : CMap κ β) (k : κ) (v : β) : CMap κ β :=
  ⟨fun k' => if k' = k then some v else m.Lookup k'⟩

/-- `operator[]` where it is read: an entry is stored if there is none. -/
def index (m : CMap κ β) (k : κ) : β × CMap κ β :=
  match m.Lookup k with
  | some v => (v, m)
  | none => (default, m.setAt k default)

theorem value_setAt {m : CMap κ β} {k k' : κ} {v : β} :
    (m.setAt k v).value k' = if k' = k then v else m.value k' := by
  simp only [value, setAt]
  split
  next => rfl
  next => rfl

/-- Reading gives the value. -/
@[simp] theorem index_fst {m : CMap κ β} {k : κ} : (m.index k).1 = m.value k := by
  unfold index value
  split
  next v h => rw [h, Option.getD_some]
  next h => rw [h, Option.getD_none]

/-- Reading changes no value, whatever it stores. -/
@[simp] theorem index_value {m : CMap κ β} {k k' : κ} :
    (m.index k).2.value k' = m.value k' := by
  unfold index
  split
  next => rfl
  next h =>
    rw [value_setAt]
    split
    next heq => rw [heq, value, h, Option.getD_none]
    next => rfl

end CMap

/-! ## §2 The maps of the items -/

/-- A handle of an item. -/
abbrev HTREEITEM : Type := ℕ

def nullptr : HTREEITEM := 0

/-- The handles `InsertItem` returns, call by call: none is null and none is that of another
item. -/
structure InsertItemRc where
  item : ℕ → HTREEITEM
  ne_nullptr : ∀ n, item n ≠ nullptr
  fresh : Function.Injective item

/-- The items and the maps of them. -/
structure ItemMaps where
  m_tree_areas : Forest HTREEITEM
  /-- the calls of `InsertItem` since `DeleteAllItems` -/
  inserted : ℕ
  m_mapTreeCtrToID : CMap HTREEITEM String
  m_mapTreeIDToCtrl : CMap String HTREEITEM
  m_mapTreeCtrToIDType : CMap HTREEITEM String

/-- After `DeleteAllItems` and the `RemoveAll` of all three maps. -/
def ItemMaps.empty : ItemMaps where
  m_tree_areas := .nil
  inserted := 0
  m_mapTreeCtrToID := .empty
  m_mapTreeIDToCtrl := .empty
  m_mapTreeCtrToIDType := .empty

/-- `m_mapTreeIDToCtrl[i]`, read. -/
def indexIDToCtrl (i : String) (s : ItemMaps) : HTREEITEM × ItemMaps :=
  let (item, m_mapTreeIDToCtrl) := s.m_mapTreeIDToCtrl.index i
  (item, { s with m_mapTreeIDToCtrl := m_mapTreeIDToCtrl })

/-- The entries of a map with these keys, in the order in which it hands them out. -/
def MapOrder.entries (o : MapOrder) (mapParent : List (String × HTREEITEM)) :
    List (String × HTREEITEM) :=
  (o.arrange (mapParent.map Prod.fst)).filterMap fun key => mapParent.find? fun e => e.1 == key

section InitAreasTree

variable (o : MapOrder) (rc : InsertItemRc)

/-- `InsertItem`, behind the last child of `hParent`, or at `TVI_ROOT` without one. -/
def insertItem (hParent : Option HTREEITEM) (s : ItemMaps) : HTREEITEM × ItemMaps :=
  let item := rc.item s.inserted
  let node := Forest.node item .nil .nil
  (item, { s with
    m_tree_areas := match hParent with
      | none => s.m_tree_areas.append node
      | some h => Forest.addUnder (· == h) node s.m_tree_areas
    inserted := s.inserted + 1 })

/-- The entries for a new area. -/
def noteArea (strKey : String) (item : HTREEITEM) (s : ItemMaps) : ItemMaps :=
  if item ≠ nullptr then
    { s with
      m_mapTreeCtrToID := s.m_mapTreeCtrToID.setAt item strKey
      m_mapTreeIDToCtrl := s.m_mapTreeIDToCtrl.setAt strKey item }
  else s

/-- The entry for a new device. -/
def noteDevice (strKey : String) (item : HTREEITEM) (s : ItemMaps) : ItemMaps :=
  { s with m_mapTreeCtrToIDType := s.m_mapTreeCtrToIDType.setAt item strKey }

/-- An item for each of these keys; the keys with their items, and what is left. -/
def insertItems (note : String → HTREEITEM → ItemMaps → ItemMaps) (hParent : Option HTREEITEM) :
    List String → ItemMaps → List (String × HTREEITEM) × ItemMaps
  | [], s => ([], s)
  | strKey :: strKeys, s =>
    let (item, s) := insertItem rc hParent s
    let (mapParentItem, s) := insertItems note hParent strKeys (note strKey item s)
    ((strKey, item) :: mapParentItem, s)

/-- `FindChildTree` and `FindChildTreeType`: the items below the items of `mapParent`.  `none` if
the recursion is deeper than the fuel. -/
def findChildren (below : String → List String)
    (note : String → HTREEITEM → ItemMaps → ItemMaps) :
    ℕ → List (String × HTREEITEM) → ItemMaps → Option ItemMaps
  | 0, mapParent, s => if mapParent.isEmpty then some s else none
  | fuel + 1, mapParent, s =>
    if mapParent.isEmpty then some s
    else (o.entries mapParent).foldlM (fun s e =>
      let (mapParentItem, s) := insertItems rc note (some e.2) (below e.1) s
      findChildren below note fuel mapParentItem s) s

variable (m_userArea : String) (d : TreeData)

/-- The keys of the areas whose parent is `strKey`, as `m_mapAreaParent` hands them out. -/
def areaKeys (strKey : String) : List String := (areasBelow o d strKey).map TreeRow.m_strID

/-- The keys of the devices whose parent is `strKey`. -/
def deviceKeys (strKey : String) : List String := (devicesBelow o d strKey).map TreeRow.m_strID

/-- `FindChildTree`. -/
def findChildTree : ℕ → List (String × HTREEITEM) → ItemMaps → Option ItemMaps :=
  findChildren o rc (areaKeys o d) noteArea

/-- `FindChildTreeType`. -/
def findChildTreeType : ℕ → List (String × HTREEITEM) → ItemMaps → Option ItemMaps :=
  findChildren o rc (deviceKeys o d) noteDevice

/-- The item of a root device: below that of its area, if the area has one; a device without an
area at `TVI_ROOT`. -/
def insertRootDevice (r : SqlRow DeviceInfoCol) (s : ItemMaps) : HTREEITEM × ItemMaps :=
  let areaId := (r.col .AreaId).read
  if areaId ≠ "" then
    -- the second time it is read the entry is there
    let (hParent, s) := indexIDToCtrl areaId s
    if hParent ≠ nullptr then insertItem rc (some hParent) s else (nullptr, s)
  else insertItem rc none s

/-- The loop over the root devices: those that got an item, with it. -/
def insertRootDevices :
    List (SqlRow DeviceInfoCol) → ItemMaps → List (String × HTREEITEM) × ItemMaps
  | [], s => ([], s)
  | r :: rs, s =>
    let (itemType, s) := insertRootDevice rc r s
    if itemType ≠ nullptr then
      let (mapParentItemType, s) := insertRootDevices rs (noteDevice r.Id itemType s)
      ((r.Id, itemType) :: mapParentItemType, s)
    else insertRootDevices rs s

/-- The items of the rows shown, with the maps of them. -/
def initItems (fuel : ℕ) : Option ItemMaps := do
  let (mapParentItem, s) := insertItems rc noteArea none
    ((topAreas o m_userArea d).map TreeRow.m_strID) .empty
  let s ← findChildTree o rc d fuel mapParentItem s
  let (mapParentItemType, s) := insertRootDevices rc (rootDevices o d) s
  findChildTreeType o rc d fuel mapParentItemType s

/-- `Init_areas_tree` from the tables read on, where it returns `TRUE`. -/
def initAreasTreeMaps (fuel : ℕ) : Option (ItemMaps × DeleteTree) := do
  let s ← initItems o rc m_userArea d.shown fuel
  let tree ← initDeleteTreeStruct o m_userArea d
  some (s, tree)

end InitAreasTree

/-! ## §3 What is inserted and noted -/

/-- What an item stands for. -/
inductive ItemKey where
  | area (i : String)
  | device (i : String)
  deriving DecidableEq

private theorem ItemKey.area_ne_device (i j : String) : ItemKey.area i ≠ .device j := nofun

variable {rc : InsertItemRc}

/-- The item `h` stands for `k`, where `keys` are what the items stand for, in the order they were
inserted in. -/
def HandleOf (rc : InsertItemRc) (keys : List ItemKey) (k : ItemKey) (h : HTREEITEM) : Prop :=
  ∃ n, keys[n]? = some k ∧ rc.item n = h

section HandleOf

variable {keys : List ItemKey} {k k' : ItemKey} {h h' : HTREEITEM}

theorem HandleOf.lt (hk : HandleOf rc keys k h) : ∃ n < keys.length, rc.item n = h := by
  obtain ⟨n, hn, hitem⟩ := hk
  exact ⟨n, (List.getElem?_eq_some_iff.1 hn).1, hitem⟩

/-- The next handle is new. -/
theorem not_handleOf_next : ¬HandleOf rc keys k (rc.item keys.length) := by
  intro hk
  obtain ⟨n, hlt, hitem⟩ := hk.lt
  exact absurd (rc.fresh hitem) hlt.ne

theorem handleOf_concat :
    HandleOf rc (keys ++ [k']) k h ↔
      HandleOf rc keys k h ∨ (k = k' ∧ rc.item keys.length = h) := by
  constructor
  · rintro ⟨n, hn, hitem⟩
    rcases Nat.lt_or_ge n keys.length with hlt | hge
    · rw [List.getElem?_append_left hlt] at hn
      exact .inl ⟨n, hn, hitem⟩
    · rw [List.getElem?_append_right hge, List.getElem?_singleton] at hn
      split at hn
      next heq =>
        obtain rfl : n = keys.length := by omega
        exact .inr ⟨(Option.some.inj hn).symm, hitem⟩
      next => cases hn
  · rintro (⟨n, hn, hitem⟩ | ⟨rfl, hitem⟩)
    · exact ⟨n, by rw [List.getElem?_append_left (List.getElem?_eq_some_iff.1 hn).1, hn], hitem⟩
    · exact ⟨keys.length, List.getElem?_concat_length, hitem⟩

/-- A new item stands for nothing else. -/
theorem handleOf_concat_of_ne (hne : k ≠ k') :
    HandleOf rc (keys ++ [k']) k h ↔ HandleOf rc keys k h := by
  rw [handleOf_concat, or_iff_left fun hnew => hne hnew.1]

theorem HandleOf.mem (hk : HandleOf rc keys k h) : k ∈ keys := by
  obtain ⟨n, hn, -⟩ := hk
  exact List.mem_of_getElem? hn

theorem exists_handleOf (hk : k ∈ keys) : ∃ h, HandleOf rc keys k h := by
  obtain ⟨n, hn⟩ := List.mem_iff_getElem?.1 hk
  exact ⟨_, n, hn, rfl⟩

/-- An item stands for one thing. -/
theorem HandleOf.key_unique (hk : HandleOf rc keys k h) (hk' : HandleOf rc keys k' h) :
    k = k' := by
  obtain ⟨n, hn, hitem⟩ := hk
  obtain ⟨n', hn', hitem'⟩ := hk'
  obtain rfl := rc.fresh (hitem.trans hitem'.symm)
  exact Option.some.inj (hn.symm.trans hn')

/-- One item stands for each, where nothing was inserted twice. -/
theorem HandleOf.unique (hnodup : keys.Nodup) (hk : HandleOf rc keys k h)
    (hk' : HandleOf rc keys k h') : h = h' := by
  obtain ⟨n, hn, hitem⟩ := hk
  obtain ⟨n', hn', hitem'⟩ := hk'
  have hlt := (List.getElem?_eq_some_iff.1 hn).1
  rw [← hitem, ← hitem', (List.getElem?_inj hlt hnodup).1 (hn.trans hn'.symm)]

theorem HandleOf.ne_nullptr (hk : HandleOf rc keys k h) : h ≠ nullptr := by
  obtain ⟨n, -, hitem⟩ := hk
  exact hitem ▸ rc.ne_nullptr n

end HandleOf

/-- **The maps after some items**: what each of them stands for, as the maps say it. -/
structure Noted (rc : InsertItemRc) (s : ItemMaps) (keys : List ItemKey) : Prop where
  inserted : s.inserted = keys.length
  nodes : s.m_tree_areas.nodes.Perm ((List.range keys.length).map rc.item)
  CtrToID : ∀ h i, i ≠ "" →
    (s.m_mapTreeCtrToID.value h = i ↔ HandleOf rc keys (.area i) h)
  CtrToIDType : ∀ h i, i ≠ "" →
    (s.m_mapTreeCtrToIDType.value h = i ↔ HandleOf rc keys (.device i) h)
  IDToCtrl : ∀ i, s.m_mapTreeIDToCtrl.value i ≠ nullptr →
    HandleOf rc keys (.area i) (s.m_mapTreeIDToCtrl.value i)
  IDToCtrl_ne : ∀ i, .area i ∈ keys → s.m_mapTreeIDToCtrl.value i ≠ nullptr

/-- Both have the same items and the same values, whatever empty entries there are. -/
structure SameValues (s s' : ItemMaps) : Prop where
  m_tree_areas : s'.m_tree_areas = s.m_tree_areas
  inserted : s'.inserted = s.inserted
  CtrToID : ∀ h, s'.m_mapTreeCtrToID.value h = s.m_mapTreeCtrToID.value h
  IDToCtrl : ∀ i, s'.m_mapTreeIDToCtrl.value i = s.m_mapTreeIDToCtrl.value i
  CtrToIDType : ∀ h, s'.m_mapTreeCtrToIDType.value h = s.m_mapTreeCtrToIDType.value h

section Noted

variable {s s' : ItemMaps} {keys : List ItemKey}

theorem SameValues.refl (s : ItemMaps) : SameValues s s :=
  ⟨rfl, rfl, fun _ => rfl, fun _ => rfl, fun _ => rfl⟩

theorem SameValues.trans {s'' : ItemMaps} (h : SameValues s s') (h' : SameValues s' s'') :
    SameValues s s'' where
  m_tree_areas := h'.m_tree_areas.trans h.m_tree_areas
  inserted := h'.inserted.trans h.inserted
  CtrToID k := (h'.CtrToID k).trans (h.CtrToID k)
  IDToCtrl k := (h'.IDToCtrl k).trans (h.IDToCtrl k)
  CtrToIDType k := (h'.CtrToIDType k).trans (h.CtrToIDType k)

theorem Noted.congr (h : Noted rc s keys) (hsame : SameValues s s') : Noted rc s' keys where
  inserted := hsame.inserted.trans h.inserted
  nodes := hsame.m_tree_areas ▸ h.nodes
  CtrToID k i hi := by rw [hsame.CtrToID, h.CtrToID k i hi]
  CtrToIDType k i hi := by rw [hsame.CtrToIDType, h.CtrToIDType k i hi]
  IDToCtrl i := by
    rw [hsame.IDToCtrl]
    exact h.IDToCtrl i
  IDToCtrl_ne i := by
    rw [hsame.IDToCtrl]
    exact h.IDToCtrl_ne i

theorem sameValues_indexIDToCtrl {i : String} : SameValues s (indexIDToCtrl i s).2 :=
  ⟨rfl, rfl, fun _ => rfl, fun _ => CMap.index_value, fun _ => rfl⟩

theorem noted_empty : Noted rc .empty [] where
  inserted := rfl
  nodes := .nil
  CtrToID h i hi := ⟨fun heq => absurd heq.symm hi, fun ⟨n, hn, _⟩ => by cases hn⟩
  CtrToIDType h i hi := ⟨fun heq => absurd heq.symm hi, fun ⟨n, hn, _⟩ => by cases hn⟩
  IDToCtrl i hne := absurd rfl hne
  IDToCtrl_ne i hi := by cases hi

theorem Noted.mem_nodes (h : Noted rc s keys) {x : HTREEITEM} :
    x ∈ s.m_tree_areas.nodes ↔ ∃ n < keys.length, rc.item n = x := by
  simp only [h.nodes.mem_iff, List.mem_map, List.mem_range]

/-- No item is there twice. -/
theorem Noted.nodes_nodup (h : Noted rc s keys) : s.m_tree_areas.nodes.Nodup :=
  h.nodes.nodup_iff.2 (List.nodup_range.map rc.fresh)

/-- Items stay. -/
theorem Noted.nodes_mono {more : List ItemKey} (h : Noted rc s keys)
    (h' : Noted rc s' (keys ++ more)) {x : HTREEITEM} (hx : x ∈ s.m_tree_areas.nodes) :
    x ∈ s'.m_tree_areas.nodes := by
  obtain ⟨n, hn, hitem⟩ := h.mem_nodes.1 hx
  refine h'.mem_nodes.2 ⟨n, ?_, hitem⟩
  rw [List.length_append]
  exact Nat.lt_add_right _ hn

/-- The last item is there. -/
theorem Noted.last_mem {k : ItemKey} (h : Noted rc s (keys ++ [k])) :
    rc.item keys.length ∈ s.m_tree_areas.nodes := by
  refine h.mem_nodes.2 ⟨keys.length, ?_, rfl⟩
  rw [List.length_append]
  exact Nat.lt_add_one _

/-- The items after one more. -/
private theorem Noted.insertItem_nodes (h : Noted rc s keys) {hParent : Option HTREEITEM}
    (hp : ∀ p ∈ hParent, p ∈ s.m_tree_areas.nodes) :
    (insertItem rc hParent s).2.m_tree_areas.nodes.Perm
      ((List.range (keys.length + 1)).map rc.item) := by
  have hnew : (s.m_tree_areas.nodes ++ [rc.item s.inserted]).Perm
      ((List.range (keys.length + 1)).map rc.item) := by
    rw [List.range_succ, List.map_append, h.inserted]
    exact h.nodes.append_right _
  refine List.Perm.trans ?_ hnew
  cases hParent with
  | none => exact .of_eq Forest.nodes_append
  | some p => exact Forest.nodes_addUnder_perm h.nodes_nodup (hp p rfl)

private theorem Noted.insertItem_fst (h : Noted rc s keys) {hParent : Option HTREEITEM} :
    (insertItem rc hParent s).1 = rc.item keys.length := by
  rw [← h.inserted]
  rfl

private theorem Noted.insertItem_inserted (h : Noted rc s keys) (hParent : Option HTREEITEM)
    {k : ItemKey} : (insertItem rc hParent s).2.inserted = (keys ++ [k]).length := by
  rw [List.length_append, List.length_singleton, ← h.inserted]
  rfl

/-- The new item gets its id, and the others keep theirs. -/
private theorem setAt_handle {key : String → ItemKey} (hkey : Function.Injective key)
    {m : CMap HTREEITEM String} {strKey i : String} {x : HTREEITEM}
    (hm : m.value x = i ↔ HandleOf rc keys (key i) x) :
    (m.setAt (rc.item keys.length) strKey).value x = i ↔
      HandleOf rc (keys ++ [key strKey]) (key i) x := by
  rw [CMap.value_setAt, handleOf_concat]
  split
  next hx =>
    subst hx
    simp only [not_handleOf_next, hkey.eq_iff, and_true, false_or, eq_comm]
  next hx => rw [hm, or_iff_left fun hnew => hx hnew.2.symm]

/-- `note` keeps the maps right when a new item is to stand for `key strKey`. -/
def Notes (rc : InsertItemRc) (note : String → HTREEITEM → ItemMaps → ItemMaps)
    (key : String → ItemKey) : Prop :=
  ∀ ⦃s keys hParent⦄ (strKey : String), Noted rc s keys →
    (∀ p ∈ hParent, p ∈ s.m_tree_areas.nodes) →
    Noted rc (note strKey (insertItem rc hParent s).1 (insertItem rc hParent s).2)
      (keys ++ [key strKey])

/-- **A new area** gets its entries in both maps. -/
theorem notes_area : Notes rc noteArea .area := by
  intro s keys hParent strKey h hp
  rw [noteArea, h.insertItem_fst, if_pos (rc.ne_nullptr _)]
  refine ⟨h.insertItem_inserted hParent, ?_, ?_, ?_, ?_, ?_⟩
  · rw [List.length_append, List.length_singleton]
    exact h.insertItem_nodes hp
  · exact fun x i hi => setAt_handle (fun _ _ => ItemKey.area.inj) (h.CtrToID x i hi)
  · exact fun x i hi => (h.CtrToIDType x i hi).trans
      (handleOf_concat_of_ne (ItemKey.area_ne_device strKey i).symm).symm
  · intro i
    change (s.m_mapTreeIDToCtrl.setAt strKey (rc.item keys.length)).value i ≠ nullptr → _
    change _ → HandleOf rc _ _ ((s.m_mapTreeIDToCtrl.setAt strKey (rc.item keys.length)).value i)
    rw [CMap.value_setAt, handleOf_concat]
    split
    next hi => exact fun _ => .inr ⟨hi ▸ rfl, rfl⟩
    next => exact fun hne => .inl (h.IDToCtrl i hne)
  · intro i hmem
    change (s.m_mapTreeIDToCtrl.setAt strKey (rc.item keys.length)).value i ≠ nullptr
    rw [CMap.value_setAt]
    split
    next => exact rc.ne_nullptr _
    next hi =>
      refine h.IDToCtrl_ne i ((List.mem_append.1 hmem).resolve_right fun hnew => hi ?_)
      exact ItemKey.area.inj (List.mem_singleton.1 hnew)

/-- **A new device** gets its entry. -/
theorem notes_device : Notes rc noteDevice .device := by
  intro s keys hParent strKey h hp
  rw [noteDevice, h.insertItem_fst]
  refine ⟨h.insertItem_inserted hParent, ?_, ?_, ?_, ?_, ?_⟩
  · rw [List.length_append, List.length_singleton]
    exact h.insertItem_nodes hp
  · exact fun x i hi => (h.CtrToID x i hi).trans
      (handleOf_concat_of_ne (ItemKey.area_ne_device i strKey)).symm
  · exact fun x i hi => setAt_handle (fun _ _ => ItemKey.device.inj) (h.CtrToIDType x i hi)
  · intro i hne
    exact handleOf_concat.2 (.inl (h.IDToCtrl i hne))
  · intro i hmem
    refine h.IDToCtrl_ne i ((List.mem_append.1 hmem).resolve_right fun hnew => ?_)
    cases List.mem_singleton.1 hnew

end Noted

/-! ## §4 One item after the other -/

section InsertItems

variable {s s' : ItemMaps} {keys : List ItemKey} {note : String → HTREEITEM → ItemMaps → ItemMaps}
  {key : String → ItemKey}

/-- A key for each item. -/
theorem insertItems_keys {hParent : Option HTREEITEM} {strKeys : List String} :
    (insertItems rc note hParent strKeys s).1.map Prod.fst = strKeys := by
  induction strKeys generalizing s with
  | nil => rfl
  | cons strKey strKeys ih => exact congrArg (strKey :: ·) ih

/-- **The items of a list of keys**, below one item or at the top. -/
theorem noted_insertItems (hnote : Notes rc note key) {hParent : Option HTREEITEM}
    {strKeys : List String} (h : Noted rc s keys)
    (hp : ∀ p ∈ hParent, p ∈ s.m_tree_areas.nodes) :
    Noted rc (insertItems rc note hParent strKeys s).2 (keys ++ strKeys.map key) ∧
      ∀ e ∈ (insertItems rc note hParent strKeys s).1,
        e.2 ∈ (insertItems rc note hParent strKeys s).2.m_tree_areas.nodes := by
  induction strKeys generalizing s keys with
  | nil =>
    refine ⟨?_, fun e he => by cases he⟩
    simpa [insertItems] using h
  | cons strKey strKeys ih =>
    have hfirst := hnote strKey h hp
    obtain ⟨hnoted, hnodes⟩ := ih hfirst fun p hmem => h.nodes_mono hfirst (hp p hmem)
    rw [List.map_cons, List.append_cons]
    -- the new item stays
    refine ⟨hnoted, List.forall_mem_cons.2 ⟨?_, hnodes⟩⟩
    have hlast := hfirst.last_mem
    rw [← h.inserted] at hlast
    exact hfirst.nodes_mono hnoted hlast

/-- The area of a root device is there, or it has none. -/
def HasPlace (keys : List ItemKey) (r : SqlRow DeviceInfoCol) : Prop :=
  (r.col .AreaId).read = "" ∨ .area (r.col .AreaId).read ∈ keys

instance {r : SqlRow DeviceInfoCol} : Decidable (HasPlace keys r) :=
  inferInstanceAs (Decidable (_ ∨ _))

/-- The item of a root device; looking its area up stores an empty entry at most. -/
private theorem insertRootDevice_cases (h : Noted rc s keys) (r : SqlRow DeviceInfoCol) :
    ∃ s', Noted rc s' keys ∧
      ((HasPlace keys r ∧ ∃ hParent : Option HTREEITEM,
          (∀ p ∈ hParent, p ∈ s'.m_tree_areas.nodes) ∧
            insertRootDevice rc r s = insertItem rc hParent s') ∨
        (¬HasPlace keys r ∧ insertRootDevice rc r s = (nullptr, s'))) := by
  by_cases hempty : (r.col .AreaId).read = ""
  · refine ⟨s, h, .inl ⟨.inl hempty, none, fun p hp => (by cases hp), ?_⟩⟩
    rw [insertRootDevice, if_neg (not_not.2 hempty)]
  · have hread : (indexIDToCtrl (r.col .AreaId).read s).1 =
        s.m_mapTreeIDToCtrl.value (r.col .AreaId).read := CMap.index_fst
    refine ⟨(indexIDToCtrl (r.col .AreaId).read s).2, h.congr sameValues_indexIDToCtrl, ?_⟩
    simp only [insertRootDevice, if_pos hempty, hread]
    by_cases hvalue : s.m_mapTreeIDToCtrl.value (r.col .AreaId).read = nullptr
    · rw [if_neg (not_not.2 hvalue)]
      exact .inr ⟨fun hplace => h.IDToCtrl_ne _ (hplace.resolve_left hempty) hvalue, rfl⟩
    · -- the area has an item
      have harea := h.IDToCtrl _ hvalue
      rw [if_pos hvalue]
      refine .inl ⟨.inr harea.mem, some _, fun p hp => ?_, rfl⟩
      cases hp
      exact h.mem_nodes.2 harea.lt

private theorem insertRootDevices_of_item {r : SqlRow DeviceInfoCol}
    {rs : List (SqlRow DeviceInfoCol)} {item : HTREEITEM}
    (h : insertRootDevice rc r s = (item, s')) (hne : item ≠ nullptr) :
    insertRootDevices rc (r :: rs) s =
      ((r.Id, item) :: (insertRootDevices rc rs (noteDevice r.Id item s')).1,
        (insertRootDevices rc rs (noteDevice r.Id item s')).2) := by
  rw [insertRootDevices, h]
  exact if_pos hne

private theorem insertRootDevices_of_null {r : SqlRow DeviceInfoCol}
    {rs : List (SqlRow DeviceInfoCol)} (h : insertRootDevice rc r s = (nullptr, s')) :
    insertRootDevices rc (r :: rs) s = insertRootDevices rc rs s' := by
  rw [insertRootDevices, h]
  exact if_neg (not_not.2 rfl)

/-- **The items of the root devices**: of those without an area, and of those whose area has an
item. -/
theorem noted_insertRootDevices {rs : List (SqlRow DeviceInfoCol)} (h : Noted rc s keys)
    {p : SqlRow DeviceInfoCol → Bool} (hp : ∀ r, p r = true ↔ HasPlace keys r) :
    Noted rc (insertRootDevices rc rs s).2
        (keys ++ ((rs.filter p).map Row.Id).map .device) ∧
      (insertRootDevices rc rs s).1.map Prod.fst = (rs.filter p).map Row.Id ∧
      ∀ e ∈ (insertRootDevices rc rs s).1,
        e.2 ∈ (insertRootDevices rc rs s).2.m_tree_areas.nodes := by
  induction rs generalizing s keys with
  | nil =>
    refine ⟨?_, rfl, fun e he => by cases he⟩
    simpa [insertRootDevices] using h
  | cons r rs ih =>
    obtain ⟨s', h', ⟨hplace, hParent, hmem, heq⟩ | ⟨hplace, heq⟩⟩ := insertRootDevice_cases h r
    · have hfirst := notes_device r.Id h' hmem
      -- a new device is no new area
      have hp' : ∀ x, p x = true ↔ HasPlace (keys ++ [.device r.Id]) x := by
        intro x
        rw [hp, HasPlace, HasPlace, List.mem_append, List.mem_singleton]
        simp only [reduceCtorEq, or_false]
      obtain ⟨hnoted, hkeys, hnodes⟩ := ih hfirst hp'
      rw [insertRootDevices_of_item heq (rc.ne_nullptr s'.inserted),
        List.filter_cons_of_pos ((hp r).2 hplace), List.map_cons, List.map_cons, List.append_cons]
      refine ⟨hnoted, congrArg (r.Id :: ·) hkeys, List.forall_mem_cons.2 ⟨?_, hnodes⟩⟩
      have hlast := hfirst.last_mem
      rw [← h'.inserted] at hlast
      exact hfirst.nodes_mono hnoted hlast
    · rw [insertRootDevices_of_null heq, List.filter_cons_of_neg (mt (hp r).1 hplace)]
      exact ih h' hp

end InsertItems

/-! ## §5 The recursions -/

section FindChildren

variable {o : MapOrder} {s s' : ItemMaps} {keys : List ItemKey}
  {note : String → HTREEITEM → ItemMaps → ItemMaps} {key : String → ItemKey}
  {below : String → List String}

/-- The keys below each key, each of them below one key only. -/
structure OneParent (below : String → List String) : Prop where
  nodup : ∀ i, (below i).Nodup
  parent : ∀ i i' k, k ∈ below i → k ∈ below i' → i = i'

/-- A map hands out its entries once each. -/
theorem keys_entries {mapParent : List (String × HTREEITEM)} :
    (o.entries mapParent).map Prod.fst = o.arrange (mapParent.map Prod.fst) := by
  have hfind : ∀ k ∈ o.arrange (mapParent.map Prod.fst),
      (mapParent.find? fun e => e.1 == k).map Prod.fst = some k := by
    intro k hk
    obtain ⟨e, he, rfl⟩ := List.mem_map.1 ((o.perm _).mem_iff.1 hk)
    cases hfind : mapParent.find? fun x => x.1 == e.1 with
    | none => exact absurd (beq_self_eq_true e.1) (List.find?_eq_none.1 hfind e he)
    | some x =>
      have hkey : x.1 = e.1 := by simpa using List.find?_some hfind
      exact congrArg some hkey
  rw [MapOrder.entries, List.map_filterMap, List.filterMap_congr hfind, List.filterMap_some]

theorem mem_of_entries {mapParent : List (String × HTREEITEM)} {e : String × HTREEITEM}
    (he : e ∈ o.entries mapParent) : e ∈ mapParent := by
  obtain ⟨k, -, hk⟩ := List.mem_filterMap.1 he
  exact List.mem_of_find?_eq_some hk

/-- What a step of `FindChildTree` is to do with the items of `mapParent`: it inserts what is
below them, each key once. -/
def InsertsBelow (rc : InsertItemRc) (key : String → ItemKey) (below : String → List String)
    (mapParent : List (String × HTREEITEM)) (s s' : ItemMaps) : Prop :=
  ∀ ⦃keys⦄, Noted rc s keys → (mapParent.map Prod.fst).Nodup →
    Forest.Apart below (mapParent.map Prod.fst) →
    (∀ e ∈ mapParent, e.2 ∈ s.m_tree_areas.nodes) →
    ∃ new : List String, Noted rc s' (keys ++ new.map key) ∧ new.Nodup ∧
      ∀ i, i ∈ new ↔
        ∃ k ∈ mapParent.map Prod.fst, Relation.TransGen (Forest.Child below) k i

/-- Some keys and what is below them. -/
private theorem level_and_below {tops new : List String} (htops : tops.Nodup)
    (hapart : Forest.Apart below tops) (hnew : new.Nodup)
    (hmem : ∀ i, i ∈ new ↔ ∃ k ∈ tops, Relation.TransGen (Forest.Child below) k i) :
    (tops ++ new).Nodup ∧ ∀ i, i ∈ tops ++ new ↔ ∃ k ∈ tops, Forest.Desc below k i := by
  refine ⟨List.nodup_append'.2 ⟨htops, hnew, fun i hi hi' => ?_⟩, fun i => ?_⟩
  · obtain ⟨k, hk, hki⟩ := (hmem i).1 hi'
    exact hapart k hk i hi hki
  · rw [List.mem_append, hmem]
    simp only [Relation.reflTransGen_iff_eq_or_transGen, and_or_left, exists_or]
    exact or_congr_left ⟨fun hi => ⟨i, hi, rfl⟩, fun ⟨k, hk, heq⟩ => heq ▸ hk⟩

/-- The items of a level, which are there, and those below them. -/
private theorem InsertsBelow.level {es : List (String × HTREEITEM)} {ks : List String}
    (h : InsertsBelow rc key below es s s') (hks : es.map Prod.fst = ks)
    (hnoted : Noted rc s (keys ++ ks.map key)) (hnodup : ks.Nodup)
    (hapart : Forest.Apart below ks) (hnodes : ∀ e ∈ es, e.2 ∈ s.m_tree_areas.nodes) :
    ∃ all : List String, Noted rc s' (keys ++ all.map key) ∧ all.Nodup ∧
      ∀ i, i ∈ all ↔ ∃ k ∈ ks, Forest.Desc below k i := by
  subst hks
  obtain ⟨new, hnoted', hnew, hmem⟩ := h hnoted hnodup hapart hnodes
  rw [List.append_assoc, ← List.map_append] at hnoted'
  exact ⟨_, hnoted', level_and_below hnodup hapart hnew hmem⟩

/-- The items below one item and then those below the others. -/
private theorem insertsBelow_cons (hnote : Notes rc note key) (hbelow : OneParent below)
    {e : String × HTREEITEM} {es : List (String × HTREEITEM)} {s₁ : ItemMaps}
    (hfirst : InsertsBelow rc key below (insertItems rc note (some e.2) (below e.1) s).1
      (insertItems rc note (some e.2) (below e.1) s).2 s₁)
    (hrest : InsertsBelow rc key below es s₁ s') :
    InsertsBelow rc key below (e :: es) s s' := by
  intro keys h hnodup hapart hnodes
  rw [List.map_cons] at hnodup hapart
  obtain ⟨hnew, hnodup⟩ := List.nodup_cons.1 hnodup
  have hself := List.mem_cons_self (a := e.1) (l := es.map Prod.fst)
  have hkeys : (insertItems rc note (some e.2) (below e.1) s).1.map Prod.fst = below e.1 :=
    insertItems_keys
  obtain ⟨hitems, hmem⟩ := @noted_insertItems rc s keys note key hnote (some e.2) (below e.1) h
    fun p hp => Option.some.inj hp ▸ hnodes e List.mem_cons_self
  -- the children of the first, and what is below them
  obtain ⟨first, h₁, hlevel, hdesc⟩ := hfirst.level hkeys hitems (hbelow.nodup e.1)
    (Forest.Apart.children_of_mem hbelow.parent hapart hself) hmem
  have hmem₁ : ∀ i, i ∈ first ↔ Relation.TransGen (Forest.Child below) e.1 i :=
    fun i => (hdesc i).trans (@Relation.TransGen.head'_iff _ (Forest.Child below) e.1 i).symm
  -- what is below the others
  obtain ⟨new₂, h₂, hnodup₂, hnew₂⟩ := hrest h₁ hnodup
    (fun k hk k' hk' => hapart k (List.mem_cons_of_mem _ hk) k' (List.mem_cons_of_mem _ hk'))
    fun x hx => h.nodes_mono h₁ (hnodes x (List.mem_cons_of_mem _ hx))
  rw [List.append_assoc, ← List.map_append] at h₂
  refine ⟨first ++ new₂, h₂, ?_, fun i => ?_⟩
  · refine List.nodup_append'.2 ⟨hlevel, hnodup₂, fun i hi hi' => ?_⟩
    -- nothing is below both the first and another
    obtain ⟨k, hk, hki⟩ := (hnew₂ i).1 hi'
    have heq := Forest.Apart.eq_of_below hbelow.parent hapart hself (List.mem_cons_of_mem _ hk)
      ((hmem₁ i).1 hi) hki
    exact hnew (heq ▸ hk)
  · rw [List.mem_append, hmem₁, hnew₂, List.map_cons]
    simp only [List.exists_mem_cons_iff]

/-- **`FindChildTree` and `FindChildTreeType` insert what is below the parents**, once each. -/
theorem findChildren_insertsBelow (hnote : Notes rc note key) (hbelow : OneParent below)
    {fuel : ℕ} {mapParent : List (String × HTREEITEM)}
    (hrun : findChildren o rc below note fuel mapParent s = some s') :
    InsertsBelow rc key below mapParent s s' := by
  have hnil : ∀ s, InsertsBelow rc key below [] s s := by
    intro s keys h _ _ _
    refine ⟨[], by simpa using h, List.nodup_nil, fun i => ?_⟩
    simp
  induction fuel generalizing mapParent s s' with
  | zero =>
    rw [findChildren] at hrun
    split at hrun
    next hempty =>
      cases hrun
      rw [List.isEmpty_iff.1 hempty]
      exact hnil s
    next => cases hrun
  | succ fuel ih =>
    rw [findChildren] at hrun
    split at hrun
    next hempty =>
      cases hrun
      rw [List.isEmpty_iff.1 hempty]
      exact hnil s
    next =>
      have hentries : InsertsBelow rc key below (o.entries mapParent) s s' := by
        -- over the parents, with the recursion for each
        generalize o.entries mapParent = es at hrun
        induction es generalizing s with
        | nil =>
          cases hrun
          exact hnil _
        | cons e es ihe =>
          rw [List.foldlM_cons, Option.bind_eq_bind, Option.bind_eq_some_iff] at hrun
          obtain ⟨s₁, hfirst, hrest⟩ := hrun
          exact insertsBelow_cons hnote hbelow (ih hfirst) (ihe hrest)
      -- a map has the same keys, in whatever order
      have hperm : ((o.entries mapParent).map Prod.fst).Perm (mapParent.map Prod.fst) := by
        rw [keys_entries]
        exact o.perm _
      intro keys h hnodup hapart hnodes
      obtain ⟨new, hnoted, hnew, hmem⟩ := hentries h (hperm.nodup_iff.2 hnodup)
        (fun k hk k' hk' => hapart k (hperm.mem_iff.1 hk) k' (hperm.mem_iff.1 hk'))
        fun e he => hnodes e (mem_of_entries he)
      refine ⟨new, hnoted, hnew, fun i => ?_⟩
      rw [hmem]
      simp only [hperm.mem_iff]

/-- A recursion that ends has no longer line of descent than its fuel. -/
private theorem length_le_of_findChildren {fuel : ℕ} {mapParent : List (String × HTREEITEM)}
    (hrun : findChildren o rc below note fuel mapParent s = some s') {k : String}
    (hk : k ∈ mapParent.map Prod.fst) {l : List String}
    (hl : List.IsChain (Forest.Child below) (k :: l)) : (k :: l).length ≤ fuel := by
  induction fuel generalizing mapParent s s' k l with
  | zero =>
    rw [findChildren] at hrun
    split at hrun
    next hempty =>
      rw [List.isEmpty_iff.1 hempty] at hk
      cases hk
    next => cases hrun
  | succ fuel ih =>
    rw [findChildren, if_neg fun hempty => by
      rw [List.isEmpty_iff.1 hempty] at hk
      cases hk] at hrun
    rw [← (o.perm _).mem_iff, ← keys_entries] at hk
    -- the parent `k`, and the recursion for it
    generalize o.entries mapParent = es at hrun hk
    induction es generalizing s with
    | nil => cases hk
    | cons e es ihe =>
      rw [List.foldlM_cons, Option.bind_eq_bind, Option.bind_eq_some_iff] at hrun
      obtain ⟨s₁, hfirst, hrest⟩ := hrun
      rcases List.mem_cons.1 hk with rfl | hk
      · cases l with
        | nil => exact Nat.succ_le_succ (Nat.zero_le fuel)
        | cons c l =>
          rw [List.isChain_cons_cons] at hl
          refine Nat.succ_le_succ (ih hfirst ?_ hl.2)
          rw [insertItems_keys]
          exact hl.1
      · exact ihe hrest hk

/-- Where a recursion ends, no key that it starts from is below itself. -/
theorem acyclic_of_findChildren {fuel : ℕ} {mapParent : List (String × HTREEITEM)}
    (hrun : findChildren o rc below note fuel mapParent s = some s') {k : String}
    (hk : k ∈ mapParent.map Prod.fst) : ¬Relation.TransGen (Forest.Child below) k k := by
  have hgrow := Forest.grow_isSome_iff.2 fun k hk l hl => length_le_of_findChildren hrun hk hl
  obtain ⟨t, ht⟩ := Option.isSome_iff_exists.1 hgrow
  exact Forest.acyclic_of_grow ht ((Forest.mem_grow ht).2 ⟨k, hk, .refl⟩)

end FindChildren

/-! ## §6 What `Init_areas_tree` inserts -/

/-- The keys of the rows of a table with the parent `i`. -/
def keysBelow {C : Type} (o : MapOrder) (t : SqlTable C) (c : C) (i : String) : List String :=
  ((o.walk t).filter fun r => (r.col c).read == i).map Row.Id

section KeysBelow

variable {C : Type} {o : MapOrder} {t : SqlTable C} {c : C}

/-- A map hands out every key once. -/
theorem walk_nodup : ((o.walk t).map Row.Id).Nodup := by
  have hfind : ∀ i ∈ o.arrange t.ids, (t.rows.find? fun r => r.Id == i).map Row.Id = some i := by
    intro i hi
    obtain ⟨r, hr, rfl⟩ := Table.mem_ids.1 ((o.perm _).mem_iff.1 hi)
    rw [(Table.find_Id fun _ => Iff.rfl).2 ⟨hr, rfl⟩]
    rfl
  rw [MapOrder.walk, List.map_filterMap, List.filterMap_congr hfind, List.filterMap_some]
  exact (o.perm _).nodup_iff.2 t.nodup

private theorem walk_filter_nodup {p : SqlRow C → Bool} :
    (((o.walk t).filter p).map Row.Id).Nodup :=
  walk_nodup.sublist (List.filter_sublist.map Row.Id)

theorem mem_keysBelow {i k : String} :
    k ∈ keysBelow o t c i ↔ ∃ b ∈ t, (b.col c).read = i ∧ b.Id = k := by
  simp only [keysBelow, List.mem_map, List.mem_filter, MapOrder.mem_walk, beq_iff_eq, and_assoc]

/-- A row names one parent. -/
theorem oneParent_keysBelow : OneParent (keysBelow o t c) where
  nodup _ := walk_filter_nodup
  parent i i' k hk hk' := by
    obtain ⟨b, hb, rfl, rfl⟩ := mem_keysBelow.1 hk
    obtain ⟨b', hb', rfl, heq⟩ := mem_keysBelow.1 hk'
    rw [Table.eq_of_Id_eq hb hb' heq.symm]

/-- Below the key of a row are the keys of the rows whose chain of parents leads to it. -/
theorem desc_keysBelow {a : SqlRow C} (ha : a ∈ t) {i : String} :
    Forest.Desc (keysBelow o t c) a.Id i ↔
      ∃ b, Relation.ReflTransGen (ParentIn t c) a b ∧ b.Id = i := by
  constructor
  · intro h
    induction h with
    | refl => exact ⟨a, .refl, rfl⟩
    | tail _ hchild ih =>
      obtain ⟨b, hchain, rfl⟩ := ih
      obtain ⟨b', hb', hparent, rfl⟩ := mem_keysBelow.1 hchild
      exact ⟨b', hchain.tail ⟨mem_of_parents hchain ha, hb', hparent⟩, rfl⟩
  · rintro ⟨b, hchain, rfl⟩
    induction hchain with
    | refl => exact .refl
    | tail _ hparent ih => exact ih.tail (mem_keysBelow.2 ⟨_, hparent.2.1, hparent.2.2, rfl⟩)

/-- Some rows and those below them, by their keys. -/
private theorem below_keys_iff {P : SqlRow C → Prop} (hP : ∀ r, P r → r ∈ t) {ks : List String}
    (hks : ∀ k, k ∈ ks ↔ ∃ r, P r ∧ r.Id = k) {i : String} :
    (∃ k ∈ ks, Forest.Desc (keysBelow o t c) k i) ↔
      ∃ x, (∃ r, P r ∧ Relation.ReflTransGen (ParentIn t c) r x) ∧ x.Id = i := by
  constructor
  · rintro ⟨k, hk, hki⟩
    obtain ⟨r, hr, rfl⟩ := (hks k).1 hk
    obtain ⟨x, hchain, rfl⟩ := (desc_keysBelow (hP r hr)).1 hki
    exact ⟨x, ⟨r, hr, hchain⟩, rfl⟩
  · rintro ⟨x, ⟨r, hr, hchain⟩, rfl⟩
    exact ⟨_, (hks _).2 ⟨r, hr, rfl⟩, (desc_keysBelow (hP r hr)).2 ⟨x, hchain, rfl⟩⟩

end KeysBelow

/-- An area shown: at the top, or below an area at the top. -/
def TreeData.ShownArea (d : TreeData) (m_userArea : String) (a : SqlRow AreasCol) : Prop :=
  ∃ top, d.ShownTop m_userArea top ∧ d.AreaChain top a

/-- A device shown: a root device that is shown, or below one. -/
def TreeData.ShownDevice (d : TreeData) (m_userArea : String) (x : SqlRow DeviceInfoCol) : Prop :=
  ∃ r, d.ShownRoot m_userArea r ∧ d.DeviceChain r x

section InitItems

variable {o : MapOrder} {m_userArea : String} {d : TreeData} {s : ItemMaps}

private theorem areaKeys_eq : areaKeys o d = keysBelow o d.areas .ParentId := by
  funext i
  rw [areaKeys, areasBelow, List.map_map]
  rfl

private theorem deviceKeys_eq : deviceKeys o d = keysBelow o d.device_info .ParentId := by
  funext i
  rw [deviceKeys, devicesBelow, List.map_map]
  rfl

private theorem mem_topKeys {k : String} :
    k ∈ (topAreas o m_userArea d).map TreeRow.m_strID ↔
      ∃ a, d.ShownTop m_userArea a ∧ a.Id = k := by
  rw [List.mem_map]
  constructor
  · rintro ⟨n, hn, rfl⟩
    obtain ⟨a, ha, rfl⟩ := mem_topAreas.1 hn
    exact ⟨a, ha, rfl⟩
  · rintro ⟨a, ha, rfl⟩
    exact ⟨.area a, mem_topAreas.2 ⟨a, ha, rfl⟩, rfl⟩

private theorem topKeys_nodup : ((topAreas o m_userArea d).map TreeRow.m_strID).Nodup := by
  rw [topAreas]
  split
  · rw [List.map_map]
    exact walk_filter_nodup
  · rw [areasBelow, List.map_map]
    exact walk_filter_nodup

/-- The areas at the top are the user's alone or all below the id that means no parent. -/
private theorem topKeys_apart
    (hacyclic : ∀ k ∈ (topAreas o m_userArea d).map TreeRow.m_strID,
      ¬Relation.TransGen (Forest.Child (keysBelow o d.areas .ParentId)) k k) :
    Forest.Apart (keysBelow o d.areas .ParentId)
      ((topAreas o m_userArea d).map TreeRow.m_strID) := by
  by_cases huser : m_userArea = ""
  · have hchild : ∀ k ∈ (topAreas o m_userArea d).map TreeRow.m_strID,
        k ∈ keysBelow o d.areas .ParentId PARENTFLAG := by
      intro k hk
      obtain ⟨a, ⟨hmem, hparent⟩, rfl⟩ := mem_topKeys.1 hk
      rw [if_neg (not_not.2 huser)] at hparent
      exact mem_keysBelow.2 ⟨a, hmem, hparent, rfl⟩
    exact Forest.apart_of_children oneParent_keysBelow.parent hchild hacyclic
  · have huserKey : ∀ k ∈ (topAreas o m_userArea d).map TreeRow.m_strID, k = m_userArea := by
      intro k hk
      obtain ⟨a, ⟨-, hId⟩, rfl⟩ := mem_topKeys.1 hk
      rwa [if_pos huser] at hId
    intro k hk k' hk'
    rw [huserKey k' hk', ← huserKey k hk]
    exact hacyclic k hk

/-- The areas: those at the top, and what `FindChildTree` finds below them. -/
private theorem noted_areas {fuel : ℕ}
    (h : findChildTree o rc d fuel
      (insertItems rc noteArea none ((topAreas o m_userArea d).map TreeRow.m_strID) .empty).1
      (insertItems rc noteArea none ((topAreas o m_userArea d).map TreeRow.m_strID) .empty).2 =
        some s) :
    ∃ areas : List String, Noted rc s (areas.map .area) ∧ areas.Nodup ∧
      ∀ i, i ∈ areas ↔ ∃ a, d.ShownArea m_userArea a ∧ a.Id = i := by
  rw [findChildTree, areaKeys_eq] at h
  obtain ⟨hitems, hnodes⟩ := @noted_insertItems rc .empty [] noteArea .area notes_area none
    ((topAreas o m_userArea d).map TreeRow.m_strID) noted_empty fun p hp => by cases hp
  have hkeys : (insertItems rc noteArea none
      ((topAreas o m_userArea d).map TreeRow.m_strID) .empty).1.map Prod.fst =
        (topAreas o m_userArea d).map TreeRow.m_strID := insertItems_keys
  have hacyclic : ∀ k ∈ (topAreas o m_userArea d).map TreeRow.m_strID,
      ¬Relation.TransGen (Forest.Child (keysBelow o d.areas .ParentId)) k k := by
    intro k hk
    rw [← hkeys] at hk
    exact acyclic_of_findChildren h hk
  obtain ⟨areas, hnoted, hnodup, hmem⟩ :=
    (findChildren_insertsBelow notes_area oneParent_keysBelow h).level hkeys hitems topKeys_nodup
      (topKeys_apart hacyclic) hnodes
  exact ⟨areas, hnoted, hnodup, fun i =>
    (hmem i).trans (below_keys_iff (fun _ htop => htop.1) fun _ => mem_topKeys)⟩

/-- A root device has a place if it is shown. -/
private theorem hasPlace_iff {areas : List String}
    (hareas : ∀ i, i ∈ areas ↔ ∃ a, d.ShownArea m_userArea a ∧ a.Id = i)
    {r : SqlRow DeviceInfoCol} :
    HasPlace (areas.map .area) r ↔ (r.col .AreaId).read = "" ∨
      ∃ top a, d.ShownTop m_userArea top ∧ d.AreaChain top a ∧ a.Id = (r.col .AreaId).read := by
  rw [HasPlace, List.mem_map_of_injective fun _ _ => ItemKey.area.inj, hareas]
  refine or_congr_right ⟨?_, ?_⟩
  · rintro ⟨a, ⟨top, htop, hchain⟩, hId⟩
    exact ⟨top, a, htop, hchain, hId⟩
  · rintro ⟨top, a, htop, hchain, hId⟩
    exact ⟨a, ⟨top, htop, hchain⟩, hId⟩

/-- The devices: the root devices that have a place, and what `FindChildTreeType` finds below
them. -/
private theorem noted_devices {s' : ItemMaps} {fuel : ℕ} {areas : List String}
    (hs : Noted rc s (areas.map .area))
    (hareas : ∀ i, i ∈ areas ↔ ∃ a, d.ShownArea m_userArea a ∧ a.Id = i)
    (h : findChildTreeType o rc d fuel (insertRootDevices rc (rootDevices o d) s).1
      (insertRootDevices rc (rootDevices o d) s).2 = some s') :
    ∃ devices : List String, Noted rc s' (areas.map .area ++ devices.map .device) ∧
      devices.Nodup ∧ ∀ i, i ∈ devices ↔ ∃ x, d.ShownDevice m_userArea x ∧ x.Id = i := by
  rw [findChildTreeType, deviceKeys_eq] at h
  obtain ⟨hitems, hkeys, hnodes⟩ := @noted_insertRootDevices rc s (areas.map .area)
    (rootDevices o d) hs (fun r => decide (HasPlace (areas.map .area) r))
    fun r => decide_eq_true_iff
  generalize hroots : ((rootDevices o d).filter fun r =>
    decide (HasPlace (areas.map .area) r)).map Row.Id = roots at hitems hkeys
  have hmemRoots : ∀ k, k ∈ roots ↔ ∃ r, d.ShownRoot m_userArea r ∧ r.Id = k := by
    intro k
    simp only [← hroots, List.mem_map, List.mem_filter, mem_rootDevices, decide_eq_true_iff,
      hasPlace_iff hareas, TreeData.ShownRoot]
  have hnodup : roots.Nodup := by
    rw [← hroots, rootDevices, List.filter_filter]
    exact walk_filter_nodup
  -- they are all below the id that means no parent
  have hchild : ∀ k ∈ roots, k ∈ keysBelow o d.device_info .ParentId PARENTFLAG := by
    intro k hk
    obtain ⟨r, hr, rfl⟩ := (hmemRoots k).1 hk
    exact mem_keysBelow.2 ⟨r, hr.1.1, hr.1.2, rfl⟩
  have hapart := Forest.apart_of_children oneParent_keysBelow.parent hchild
    fun k hk => acyclic_of_findChildren h (hkeys ▸ hk)
  obtain ⟨devices, hnoted, hdistinct, hmem⟩ :=
    (findChildren_insertsBelow notes_device oneParent_keysBelow h).level hkeys hitems hnodup
      hapart hnodes
  exact ⟨devices, hnoted, hdistinct, fun i =>
    (hmem i).trans (below_keys_iff (fun _ hr => hr.1.1) hmemRoots)⟩

/-- Different areas and different devices are different things. -/
theorem itemKeys_nodup {areas devices : List String} (hareas : areas.Nodup)
    (hdevices : devices.Nodup) :
    (areas.map ItemKey.area ++ devices.map ItemKey.device).Nodup := by
  refine List.nodup_append'.2 ⟨hareas.map fun _ _ => ItemKey.area.inj,
    hdevices.map fun _ _ => ItemKey.device.inj, fun k hk hk' => ?_⟩
  obtain ⟨i, -, rfl⟩ := List.mem_map.1 hk
  obtain ⟨j, -, hj⟩ := List.mem_map.1 hk'
  cases hj

/-- **What the items of `Init_areas_tree` stand for**: each area shown and each device shown,
once. -/
theorem noted_initItems {fuel : ℕ} (h : initItems o rc m_userArea d fuel = some s) :
    ∃ areas devices : List String,
      Noted rc s (areas.map .area ++ devices.map .device) ∧ areas.Nodup ∧ devices.Nodup ∧
        (∀ i, i ∈ areas ↔ ∃ a, d.ShownArea m_userArea a ∧ a.Id = i) ∧
        ∀ i, i ∈ devices ↔ ∃ x, d.ShownDevice m_userArea x ∧ x.Id = i := by
  obtain ⟨s₁, hareas, hdevices⟩ := Option.bind_eq_some_iff.1 h
  obtain ⟨areas, hnoted, hnodup, hmem⟩ := noted_areas hareas
  obtain ⟨devices, hnoted', hnodup', hmem'⟩ := noted_devices hnoted hmem hdevices
  exact ⟨areas, devices, hnoted', hnodup, hnodup', hmem, hmem'⟩

end InitItems

end MtpSync
