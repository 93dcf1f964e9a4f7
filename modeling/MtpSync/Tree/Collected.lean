import MtpSync.Tree.Nodes

/-!
# What is collected from the delete tree

`DeleteAreaAndDeviceFindID` collects the marked nodes and all nodes below one, in one set for
`'3'` and in one for `'2'`.  With the nodes of the tree known, so is what it collects.

- §1 collecting from a forest
- §2 collecting from `m_deleteTree`
- §3 when the tree is built
- §4 every marked chain that hangs on the tree is collected
-/

namespace MtpSync

/-! ## §1 Collecting from a forest -/

/-- `i` was collected as an area or as a device. -/
def DeleteIds.Has (ids : DeleteIds) (k : DeleteType) (i : String) : Prop :=
  match k with
  | .delete_type_areas => i ∈ ids.areas
  | .delete_type_devices => i ∈ ids.devices
  | .root => False

/-- `n` has the type `k` and the id `i`. -/
def TreeRow.Is (n : TreeRow) (k : DeleteType) (i : String) : Prop :=
  n.m_typeFlag = k ∧ n.m_strID = i

theorem mem_setAt {keys : List String} {i j : String} : i ∈ setAt keys j ↔ i ∈ keys ∨ i = j := by
  rw [setAt]
  split
  next h =>
    constructor
    · exact .inl
    · rintro (hi | rfl)
      · exact hi
      · exact h
  next => simp

theorem DeleteIds.has_setAt {ids : DeleteIds} {n : TreeRow} {k : DeleteType} {i : String} :
    (ids.setAt n.m_typeFlag n.m_strID).Has k i ↔ ids.Has k i ∨ n.Is k i := by
  cases n <;> cases k <;>
    simp [DeleteIds.setAt, DeleteIds.Has, TreeRow.Is, TreeRow.m_typeFlag, TreeRow.m_strID,
      mem_setAt, eq_comm]

/-- `DeleteFindID` collects every node. -/
theorem has_deleteFindID {t : Forest TreeRow} {ids : DeleteIds} {k : DeleteType} {i : String} :
    (deleteFindID (.ofForest t) ids).Has k i ↔ ids.Has k i ∨ ∃ n, t.Mem n ∧ n.Is k i := by
  induction t generalizing ids with
  | nil => simp [DeleteTree.ofForest, deleteFindID]
  | node v child sibling ihc ihs =>
    rw [DeleteTree.ofForest, deleteFindID, ihs, ihc, DeleteIds.has_setAt]
    simp only [Forest.mem_node, or_and_right, exists_or, exists_eq_left, or_assoc]

theorem TreeRow.deleteFlag_of_eq {v : TreeRow} {flag : String}
    (hflag : flag = DELETEFLAG ∨ flag = DELETEFLAG_WANT) (h : v.m_strDeleteFlag = flag) :
    v.m_deleteFlag = true := by
  rcases hflag with rfl | rfl <;> simp [TreeRow.m_deleteFlag, h]

/-- What one node adds to the set for `flag`. -/
theorem has_marked {v : TreeRow} {child : Forest TreeRow} {ids : DeleteIds} {flag : String}
    (hflag : flag = DELETEFLAG ∨ flag = DELETEFLAG_WANT) {k : DeleteType} {i : String} :
    (if v.m_deleteFlag && v.m_strDeleteFlag = flag then
        deleteFindID (.ofForest child) (ids.setAt v.m_typeFlag v.m_strID)
      else ids).Has k i ↔
      ids.Has k i ∨ v.m_strDeleteFlag = flag ∧ ∃ n, (n = v ∨ child.Mem n) ∧ n.Is k i := by
  by_cases h : v.m_strDeleteFlag = flag
  · simp only [h, TreeRow.deleteFlag_of_eq hflag h, decide_true, Bool.and_self, if_true, true_and,
      has_deleteFindID, DeleteIds.has_setAt, or_and_right, exists_or, exists_eq_left, or_assoc]
  · simp only [h, decide_false, Bool.and_false, Bool.false_eq_true, if_false, false_and, or_false]

/-- What the nodes `t` add to the set for `flag`. -/
def Marked (t : Forest TreeRow) (flag : String) (k : DeleteType) (i : String) : Prop :=
  ∃ a n, t.Under a n ∧ a.m_strDeleteFlag = flag ∧ n.Is k i

theorem not_marked_nil {flag : String} {k : DeleteType} {i : String} : ¬Marked .nil flag k i := by
  rintro ⟨a, n, h, -⟩
  exact h

theorem marked_node {v : TreeRow} {child sibling : Forest TreeRow} {flag : String}
    {k : DeleteType} {i : String} :
    Marked (.node v child sibling) flag k i ↔
      (v.m_strDeleteFlag = flag ∧ ∃ n, (n = v ∨ child.Mem n) ∧ n.Is k i) ∨
        Marked child flag k i ∨ Marked sibling flag k i := by
  constructor
  · rintro ⟨a, n, ⟨rfl, hn⟩ | hunder | hunder, hflag, hIs⟩
    · exact .inl ⟨hflag, n, hn, hIs⟩
    · exact .inr (.inl ⟨a, n, hunder, hflag, hIs⟩)
    · exact .inr (.inr ⟨a, n, hunder, hflag, hIs⟩)
  · rintro (⟨hflag, n, hn, hIs⟩ | ⟨a, n, hunder, hflag, hIs⟩ | ⟨a, n, hunder, hflag, hIs⟩)
    · exact ⟨v, n, .inl ⟨rfl, hn⟩, hflag, hIs⟩
    · exact ⟨a, n, .inr (.inl hunder), hflag, hIs⟩
    · exact ⟨a, n, .inr (.inr hunder), hflag, hIs⟩

/-- **`DeleteAreaAndDeviceFindID` collects what is marked or below a marked node.** -/
theorem has_collected {t : Forest TreeRow} {ids : DeleteIds × DeleteIds} {k : DeleteType}
    {i : String} :
    ((deleteAreaAndDeviceFindID (.ofForest t) ids).1.Has k i ↔
      ids.1.Has k i ∨ Marked t DELETEFLAG k i) ∧
    ((deleteAreaAndDeviceFindID (.ofForest t) ids).2.Has k i ↔
      ids.2.Has k i ∨ Marked t DELETEFLAG_WANT k i) := by
  induction t generalizing ids with
  | nil => simp [DeleteTree.ofForest, deleteAreaAndDeviceFindID, not_marked_nil]
  | node v child sibling ihc ihs =>
    obtain ⟨real, want⟩ := ids
    rw [DeleteTree.ofForest, deleteAreaAndDeviceFindID]
    constructor
    · rw [ihs.1, ihc.1, has_marked (.inl rfl), marked_node, or_assoc, or_assoc]
    · rw [ihs.2, ihc.2, has_marked (.inr rfl), marked_node, or_assoc, or_assoc]

/-! ## §2 Collecting from `m_deleteTree` -/

section Collected

variable {o : MapOrder} {m_userArea : String} {d : TreeData} {tree : DeleteTree}

/-- `m_deleteTree` is its nodes for rows, below a root of its own if there is no user's area. -/
theorem of_initDeleteTreeStruct (h : initDeleteTreeStruct o m_userArea d = some tree) :
    ∃ t, deleteForest o m_userArea d = some t ∧
      (tree = .ofForest (deleteNodes o m_userArea d t) ∨
        tree = .node "0" .root false "" (.ofForest (deleteNodes o m_userArea d t)) .nullptr) := by
  obtain ⟨t, ht, hroot⟩ := Option.bind_eq_some_iff.1 h
  refine ⟨t, ht, ?_⟩
  rw [deleteNodes]
  cases hr : userRoot o m_userArea d with
  | none =>
    rw [hr] at hroot
    cases hroot
    exact .inr rfl
  | some r =>
    rw [hr] at hroot
    cases hroot
    exact .inl rfl

/-- An area the tree puts below one marked with `flag`, or marked itself. -/
def TreeData.MarkedArea (d : TreeData) (m_userArea flag : String) (a : SqlRow AreasCol) : Prop :=
  ∃ b, d.InTree m_userArea b ∧ d.AreaChain b a ∧ (b.col .SynchronState).read = flag

/-- A device the tree puts below an area or a device marked with `flag`, or marked itself. -/
def TreeData.MarkedDevice (d : TreeData) (m_userArea flag : String)
    (x : SqlRow DeviceInfoCol) : Prop :=
  ∃ r, d.DeviceChain r x ∧
    ((d.Attached m_userArea r ∧
        ∃ y, d.DeviceChain r y ∧ d.DeviceChain y x ∧ (y.col .SynchronState).read = flag) ∨
      ∃ b, d.AboveDevice m_userArea b r ∧ (b.col .SynchronState).read = flag)

theorem marked_area {t : Forest TreeRow} (h : deleteForest o m_userArea d = some t)
    {flag i : String} :
    Marked (deleteNodes o m_userArea d t) flag .delete_type_areas i ↔
      ∃ a, a.Id = i ∧ d.MarkedArea m_userArea flag a := by
  simp only [Marked, under_deleteForest h]
  constructor
  · rintro ⟨_, _, ⟨b, a, hb, hchain, rfl, rfl⟩ | ⟨_, _, _, _, _, _, _, rfl⟩ |
      ⟨_, _, _, _, _, _, rfl⟩, hflag, hIs⟩
    · exact ⟨a, hIs.2, b, hb, hchain, hflag⟩
    · cases hIs.1
    · cases hIs.1
  · rintro ⟨a, hId, b, hb, hchain, hflag⟩
    exact ⟨_, _, .inl ⟨b, a, hb, hchain, rfl, rfl⟩, hflag, rfl, hId⟩

theorem marked_device {t : Forest TreeRow} (h : deleteForest o m_userArea d = some t)
    {flag i : String} :
    Marked (deleteNodes o m_userArea d t) flag .delete_type_devices i ↔
      ∃ x, x.Id = i ∧ d.MarkedDevice m_userArea flag x := by
  simp only [Marked, under_deleteForest h]
  constructor
  · rintro ⟨_, _, ⟨b, a, _, _, _, rfl⟩ | ⟨r, y, x, hr, hchain, hchain', rfl, rfl⟩ |
      ⟨b, r, x, hb, hchain, rfl, rfl⟩, hflag, hIs⟩
    · cases hIs.1
    · exact ⟨x, hIs.2, r, hchain.trans hchain', .inl ⟨hr, y, hchain, hchain', hflag⟩⟩
    · exact ⟨x, hIs.2, r, hchain, .inr ⟨b, hb, hflag⟩⟩
  · rintro ⟨x, hId, r, hchain, ⟨hr, y, hy, hy', hflag⟩ | ⟨b, hb, hflag⟩⟩
    · exact ⟨_, _, .inr (.inl ⟨r, y, x, hr, hy, hy', rfl, rfl⟩), hflag, rfl, hId⟩
    · exact ⟨_, _, .inr (.inr ⟨b, r, x, hb, hchain, rfl, rfl⟩), hflag, rfl, hId⟩

/-- The sets of ids `DeleteAreaAndDevice` starts from. -/
def DeleteTree.ids (tree : DeleteTree) : DeleteIds × DeleteIds :=
  deleteAreaAndDeviceFindID tree (⟨[], []⟩, ⟨[], []⟩)

theorem has_ids (t : Forest TreeRow) (k : DeleteType) (i : String) :
    ((DeleteTree.ofForest t).ids.1.Has k i ↔ Marked t DELETEFLAG k i) ∧
      ((DeleteTree.ofForest t).ids.2.Has k i ↔ Marked t DELETEFLAG_WANT k i) := by
  have hempty : ¬DeleteIds.Has ⟨[], []⟩ k i := by
    intro hi
    cases k with
    | delete_type_areas => exact absurd hi List.not_mem_nil
    | delete_type_devices => exact absurd hi List.not_mem_nil
    | root => exact hi
  rw [DeleteTree.ids, has_collected.1, has_collected.2]
  simp only [hempty, false_or, and_self]

/-- `ids` are the ids of what is marked with `flag`. -/
structure CollectedFor (d : TreeData) (m_userArea flag : String) (ids : DeleteIds) : Prop where
  areas : ∀ i, i ∈ ids.areas ↔ ∃ a, a.Id = i ∧ d.MarkedArea m_userArea flag a
  devices : ∀ i, i ∈ ids.devices ↔ ∃ x, x.Id = i ∧ d.MarkedDevice m_userArea flag x

/-- **What is collected from a tree that was built.** -/
theorem ids_of_initDeleteTreeStruct (h : initDeleteTreeStruct o m_userArea d = some tree) :
    CollectedFor d m_userArea DELETEFLAG tree.ids.1 ∧
      CollectedFor d m_userArea DELETEFLAG_WANT tree.ids.2 := by
  obtain ⟨t, ht, hcases⟩ := of_initDeleteTreeStruct h
  -- a root without a row is collected in neither set
  have heq : tree.ids = (DeleteTree.ofForest (deleteNodes o m_userArea d t)).ids := by
    rcases hcases with rfl | rfl <;> rfl
  rw [heq]
  constructor
  · constructor
    · intro i
      rw [← marked_area ht]
      exact (has_ids _ .delete_type_areas i).1
    · intro i
      rw [← marked_device ht]
      exact (has_ids _ .delete_type_devices i).1
  · constructor
    · intro i
      rw [← marked_area ht]
      exact (has_ids _ .delete_type_areas i).2
    · intro i
      rw [← marked_device ht]
      exact (has_ids _ .delete_type_devices i).2

/-! ### Marked above -/

/-- The area or one above it has the state `flag`. -/
def TreeData.AreaMarkedAbove (d : TreeData) (flag : String) (a : SqlRow AreasCol) : Prop :=
  ∃ b, d.AreaChain b a ∧ (b.col .SynchronState).read = flag

/-- The device, one above it, or an area above the area of its root device has the state
`flag`. -/
def TreeData.DeviceMarkedAbove (d : TreeData) (flag : String) (x : SqlRow DeviceInfoCol) : Prop :=
  ∃ y, d.DeviceChain y x ∧ ((y.col .SynchronState).read = flag ∨
    d.RootDevice y ∧ ∃ a, a.Id = (y.col .AreaId).read ∧ d.AreaMarkedAbove flag a)

/-- The device hangs below one without an area, which the tree puts below the user's area, and the
user's area has the state `flag`. -/
def TreeData.MarkedWithUserArea (d : TreeData) (m_userArea flag : String)
    (x : SqlRow DeviceInfoCol) : Prop :=
  ∃ b, d.UserArea m_userArea b ∧ (b.col .SynchronState).read = flag ∧
    ∃ r, d.RootDevice r ∧ AreaLess r ∧ d.DeviceChain r x

variable {flag : String} {ids : DeleteIds}

/-- An area that was collected is marked, or below a marked one. -/
theorem CollectedFor.area_markedAbove (h : CollectedFor d m_userArea flag ids) {i : String}
    (hi : i ∈ ids.areas) : ∃ a ∈ d.areas, a.Id = i ∧ d.AreaMarkedAbove flag a := by
  obtain ⟨a, hId, b, hb, hchain, hflag⟩ := (h.areas i).1 hi
  exact ⟨a, (hb.trans hchain).mem, hId, b, hchain, hflag⟩

/-- So is a device, or it has no area and the user's area is marked. -/
theorem CollectedFor.device_markedAbove (h : CollectedFor d m_userArea flag ids) {i : String}
    (hi : i ∈ ids.devices) :
    ∃ x ∈ d.device_info, x.Id = i ∧
      (d.DeviceMarkedAbove flag x ∨ d.MarkedWithUserArea m_userArea flag x) := by
  obtain ⟨x, hId, r, hchain, hcases⟩ := (h.devices i).1 hi
  rcases hcases with ⟨hr, y, -, hy, hflag⟩ |
    ⟨b, ⟨hr, ⟨hless, huser⟩ | ⟨-, hb, a, habove, haId⟩⟩, hflag⟩
  · exact ⟨x, mem_of_parents hchain hr.1.1, hId, .inl ⟨y, hy, .inl hflag⟩⟩
  · exact ⟨x, mem_of_parents hchain hr.1, hId, .inr ⟨b, huser, hflag, r, hr, hless, hchain⟩⟩
  · exact ⟨x, mem_of_parents hchain hr.1, hId,
      .inl ⟨r, hchain, .inr ⟨hr, a, haId, b, habove, hflag⟩⟩⟩

/-- The tree a sync works on is the one built from the tables that were read last. -/
def TreeOfRead (m_userArea : String) (lastRead : Option TreeData) (tree : DeleteTree) : Prop :=
  match lastRead with
  | none => tree = .nullptr
  | some d => ∃ o, initDeleteTreeStruct o m_userArea d = some tree

/-- A tree that is not empty was built from tables that were read. -/
theorem TreeOfRead.built {lastRead : Option TreeData} (h : TreeOfRead m_userArea lastRead tree)
    (hne : tree ≠ .nullptr) :
    ∃ d o, lastRead = some d ∧ initDeleteTreeStruct o m_userArea d = some tree := by
  cases lastRead with
  | none => exact absurd h hne
  | some d =>
    obtain ⟨o, hbuilt⟩ := h
    exact ⟨d, o, rfl, hbuilt⟩

/-- So was a tree that collects anything. -/
theorem TreeOfRead.collected {lastRead : Option TreeData}
    (h : TreeOfRead m_userArea lastRead tree) {k : DeleteType} {i : String}
    (hi : tree.ids.1.Has k i ∨ tree.ids.2.Has k i) :
    ∃ d, lastRead = some d ∧ CollectedFor d m_userArea DELETEFLAG tree.ids.1 ∧
      CollectedFor d m_userArea DELETEFLAG_WANT tree.ids.2 := by
  have hne : tree ≠ .nullptr := by
    rintro rfl
    obtain ⟨hreal, hwant⟩ := has_ids .nil k i
    rcases hi with hi | hi
    · exact not_marked_nil (hreal.1 hi)
    · exact not_marked_nil (hwant.1 hi)
  obtain ⟨d, o, hread, hbuilt⟩ := h.built hne
  exact ⟨d, hread, ids_of_initDeleteTreeStruct hbuilt⟩

/-! ## §3 When the tree is built -/

/-- No row has the id `i`. -/
def TreeData.NoId (d : TreeData) (i : String) : Prop :=
  (∀ a ∈ d.areas, a.Id ≠ i) ∧ ∀ x ∈ d.device_info, x.Id ≠ i

instance {i : String} : Decidable (d.NoId i) :=
  inferInstanceAs (Decidable ((∀ a ∈ d.areas.rows, a.Id ≠ i) ∧
    ∀ x ∈ d.device_info.rows, x.Id ≠ i))

/-- A row without a parent is below no row, if none has the id that means no parent. -/
private theorem not_below_of_noId (h0 : d.NoId PARENTFLAG) {n n' : TreeRow} (hn : n ∈ d.rows)
    (hn' : n' ∈ areasBelow o d PARENTFLAG ∨ n' ∈ devicesBelow o d PARENTFLAG) :
    n' ∉ rowsBelow o d n := by
  intro hbelow
  rcases TreeData.mem_rows.1 hn with ⟨a, ha, rfl⟩ | ⟨x, hx, rfl⟩
  · obtain ⟨b, -, hparent, rfl⟩ := mem_areasBelow.1 hbelow
    rcases hn' with htop | htop
    · obtain ⟨_, -, hparent', heq⟩ := mem_areasBelow.1 htop
      cases heq
      exact h0.1 a ha (hparent.symm.trans hparent')
    · obtain ⟨_, -, -, heq⟩ := mem_devicesBelow.1 htop
      cases heq
  · obtain ⟨y, -, hparent, rfl⟩ := mem_devicesBelow.1 hbelow
    rcases hn' with htop | htop
    · obtain ⟨_, -, -, heq⟩ := mem_areasBelow.1 htop
      cases heq
    · obtain ⟨_, -, hparent', heq⟩ := mem_devicesBelow.1 htop
      cases heq
      exact h0.2 x hx (hparent.symm.trans hparent')

private theorem mem_rows_of_top {n : TreeRow}
    (hn : n ∈ areasBelow o d PARENTFLAG ∨ n ∈ devicesBelow o d PARENTFLAG) : n ∈ d.rows := by
  rcases hn with htop | htop
  · obtain ⟨b, hb, -, rfl⟩ := mem_areasBelow.1 htop
    exact TreeData.mem_rows.2 (.inl ⟨b, hb, rfl⟩)
  · obtain ⟨y, hy, -, rfl⟩ := mem_devicesBelow.1 htop
    exact TreeData.mem_rows.2 (.inr ⟨y, hy, rfl⟩)

/-- Below a row without a parent no row is below itself. -/
private theorem acyclic_of_noId (h0 : d.NoId PARENTFLAG) {v n : TreeRow}
    (hv : v ∈ areasBelow o d PARENTFLAG ∨ v ∈ devicesBelow o d PARENTFLAG)
    (hn : Forest.Desc (rowsBelow o d) v n) :
    ¬Relation.TransGen (Forest.Child (rowsBelow o d)) n n :=
  Forest.acyclic_of_parent (fun _ _ => mem_rows_of_below)
    (fun _ ha _ ha' _ h h' => rowsBelow_unique ha ha' h h') (mem_rows_of_top hv)
    (fun _ ha => not_below_of_noId h0 ha hv) hn

/-- The devices below a root device are found. -/
theorem deviceNode_isSome (h0 : d.NoId PARENTFLAG) {r : SqlRow DeviceInfoCol}
    (hr : d.RootDevice r) : (deviceNode o d r).isSome = true := by
  have hmem : TreeRow.device r ∈ devicesBelow o d PARENTFLAG :=
    mem_devicesBelow.2 ⟨r, hr.1, hr.2, rfl⟩
  have hchild : (createDeleteTreeStructDevices o d r.Id).isSome = true := by
    rw [createDeleteTreeStructDevices, TreeData.fuel_eq]
    refine Forest.grow_isSome_of_acyclic (fun _ _ => mem_rows_of_below) (fun v hv => ?_)
      fun v hv n hn => ?_
    · exact mem_rows_of_below (n := .device r) hv
    · have hchild : Forest.Child (rowsBelow o d) (.device r) v := hv
      exact acyclic_of_noId h0 (.inr hmem) (Relation.ReflTransGen.head hchild hn)
  obtain ⟨child, hsome⟩ := Option.isSome_iff_exists.1 hchild
  rw [deviceNode, hsome]
  rfl

/-- The areas below the root that stands for no area are found. -/
theorem createDeleteTreeStructAreasC_isSome (h0 : d.NoId PARENTFLAG) :
    (createDeleteTreeStructAreasC o d PARENTFLAG).isSome = true := by
  rw [createDeleteTreeStructAreasC, TreeData.fuel_eq]
  exact Forest.grow_isSome_of_acyclic (fun _ _ => mem_rows_of_below)
    (fun v hv => mem_rows_of_top (.inl hv)) fun v hv n hn => acyclic_of_noId h0 (.inl hv) hn

/-- One root device after the other is placed. -/
theorem foldlM_isSome {step : Forest TreeRow → SqlRow DeviceInfoCol → Option (Forest TreeRow)}
    {rs : List (SqlRow DeviceInfoCol)} (hstep : ∀ t, ∀ r ∈ rs, (step t r).isSome = true)
    {t : Forest TreeRow} : (rs.foldlM step t).isSome = true := by
  induction rs generalizing t with
  | nil => rfl
  | cons r rs ih =>
    obtain ⟨t', ht'⟩ := Option.isSome_iff_exists.1 (hstep t r List.mem_cons_self)
    rw [List.foldlM_cons, Option.bind_eq_bind, ht', Option.bind_some]
    exact ih fun t x hx => hstep t x (List.mem_cons_of_mem r hx)

/-- **Without a user the tree is built**, if no row has the id that means no parent. -/
theorem initDeleteTreeStruct_isSome (h0 : d.NoId PARENTFLAG) :
    ∃ tree, initDeleteTreeStruct o "" d = some tree := by
  have hroot : userRoot o "" d = none := rfl
  obtain ⟨areas, hareas⟩ :=
    Option.isSome_iff_exists.1 (createDeleteTreeStructAreasC_isSome (o := o) h0)
  -- every root device can be hung up: its chain of devices ends
  have hfold : ((rootDevices o d).foldlM (attachDevice o "" d) areas).isSome = true := by
    refine foldlM_isSome fun t r hr => ?_
    obtain ⟨node, hnode⟩ :=
      Option.isSome_iff_exists.1 (deviceNode_isSome (o := o) h0 (mem_rootDevices.1 hr))
    simp only [attachDevice, hnode]
    split
    · rfl
    · split
      · rfl
      · split <;> rfl
  obtain ⟨t, ht⟩ := Option.isSome_iff_exists.1 hfold
  refine ⟨.node "0" .root false "" (.ofForest t) .nullptr, ?_⟩
  have hforest : deleteForest o "" d = some t := by
    have hID : rootID o "" d = PARENTFLAG := rfl
    rw [deleteForest, hID, hareas]
    exact ht
  rw [initDeleteTreeStruct, hforest, hroot]
  rfl

/-! ## §4 Every marked chain that hangs on the tree is collected -/

/-- The chain of parents of the area `a` ends at one without a parent. -/
def TreeData.ReachesRoot (d : TreeData) (a : SqlRow AreasCol) : Prop :=
  ∃ top ∈ d.areas, (top.col .ParentId).read = "0" ∧ d.AreaChain top a

/-- `a` hangs on the root, and `a` or an area above it has the state `flag`. -/
def TreeData.AreaToDelete (d : TreeData) (flag : String) (a : SqlRow AreasCol) : Prop :=
  d.ReachesRoot a ∧ ∃ b, d.AreaChain b a ∧ (b.col .SynchronState).read = flag

/-- The chain of parents of the device `x` ends at a device `r` without a parent; `r` hangs on the
root or on an area that does, and a device on the chain or an area above it has the state
`flag`. -/
def TreeData.DeviceToDelete (d : TreeData) (flag : String) (x : SqlRow DeviceInfoCol) : Prop :=
  ∃ r ∈ d.device_info, (r.col .ParentId).read = "0" ∧ d.DeviceChain r x ∧
    (((r.col .AreaId).read = "0" ∨ (r.col .AreaId).read = "" ∨
          ∃ a, a.Id = (r.col .AreaId).read ∧ d.ReachesRoot a) ∧
        (∃ y, d.DeviceChain r y ∧ d.DeviceChain y x ∧ (y.col .SynchronState).read = flag) ∨
      ∃ a, a.Id = (r.col .AreaId).read ∧ d.AreaToDelete flag a)

private theorem not_userArea {a : SqlRow AreasCol} : ¬d.UserArea "" a :=
  fun h => h.1 rfl

/-- Without the user's area, the areas of the tree are those that hang on the root. -/
theorem inTree_iff_reachesRoot (hmissing : ¬∃ b, d.UserArea m_userArea b) {a : SqlRow AreasCol} :
    d.InTree m_userArea a ↔ d.ReachesRoot a := by
  constructor
  · rintro ⟨top, htop | ⟨-, hmem, hparent⟩, hchain⟩
    · exact absurd ⟨top, htop⟩ hmissing
    · exact ⟨top, hmem, hparent, hchain⟩
  · rintro ⟨top, hmem, hparent, hchain⟩
    exact ⟨top, .inr ⟨hmissing, hmem, hparent⟩, hchain⟩

private theorem inTree_iff {a : SqlRow AreasCol} : d.InTree "" a ↔ d.ReachesRoot a :=
  inTree_iff_reachesRoot fun ⟨_, hb⟩ => not_userArea hb

/-- What is above an area that hangs on the root hangs on the root. -/
private theorem reachesRoot_of_above (h0 : d.NoId PARENTFLAG) {a b : SqlRow AreasCol}
    (ha : d.ReachesRoot a) (hchain : d.AreaChain b a) : d.ReachesRoot b := by
  obtain ⟨top, hmem, hparent, htop⟩ := ha
  rcases parents_total htop hchain with habove | hbelow
  · exact ⟨top, hmem, hparent, habove⟩
  · -- nothing is above an area without a parent
    rcases Relation.ReflTransGen.cases_tail hbelow with rfl | ⟨c, -, hlast⟩
    · exact ⟨top, hmem, hparent, .refl⟩
    · exact absurd (hlast.2.2.symm.trans hparent) (h0.1 _ hlast.1)

theorem markedArea_iff (h0 : d.NoId PARENTFLAG) {flag : String} {a : SqlRow AreasCol} :
    d.MarkedArea "" flag a ↔ d.AreaToDelete flag a := by
  simp only [TreeData.MarkedArea, TreeData.AreaToDelete, inTree_iff]
  constructor
  · rintro ⟨b, ⟨top, hmem, hparent, htop⟩, hchain, hflag⟩
    exact ⟨⟨top, hmem, hparent, htop.trans hchain⟩, b, hchain, hflag⟩
  · rintro ⟨ha, b, hchain, hflag⟩
    exact ⟨b, reachesRoot_of_above h0 ha hchain, hchain, hflag⟩

theorem markedDevice_iff (h0 : d.NoId PARENTFLAG) (hempty : d.NoId "") {flag : String}
    {x : SqlRow DeviceInfoCol} : d.MarkedDevice "" flag x ↔ d.DeviceToDelete flag x := by
  -- without a user area every area that reaches the root is in the tree
  have hattached : ∀ r, d.Attached "" r ↔ d.RootDevice r ∧
      ((r.col .AreaId).read = "0" ∨ (r.col .AreaId).read = "" ∨
        ∃ a, a.Id = (r.col .AreaId).read ∧ d.ReachesRoot a) := by
    intro r
    simp only [TreeData.Attached, AreaLess, inTree_iff, or_assoc, and_comm (b := _ = _), PARENTFLAG]
  -- above a device stands its area, since no area has the id of no area
  have habove : ∀ r, d.RootDevice r →
      ((∃ b, d.AboveDevice "" b r ∧ (b.col .SynchronState).read = flag) ↔
        ∃ a, a.Id = (r.col .AreaId).read ∧ d.AreaToDelete flag a) := by
    intro r hr
    constructor
    · rintro ⟨b, ⟨-, ⟨-, huser⟩ | ⟨-, hb, a, hchain, hId⟩⟩, hflag⟩
      · exact absurd huser not_userArea
      · exact ⟨a, hId, (markedArea_iff h0).1 ⟨b, hb, hchain, hflag⟩⟩
    · rintro ⟨a, hId, hdelete⟩
      obtain ⟨b, hb, hchain, hflag⟩ := (markedArea_iff h0).2 hdelete
      refine ⟨b, ⟨hr, .inr ⟨?_, hb, a, hchain, hId⟩⟩, hflag⟩
      have hmem := mem_of_parents hchain hb.mem
      rintro (hzero | hblank)
      · exact h0.1 a hmem (hId.trans hzero)
      · exact hempty.1 a hmem (hId.trans hblank)
  constructor
  · rintro ⟨r, hchain, ⟨hr, hy⟩ | ⟨b, hb, hflag⟩⟩
    · obtain ⟨hroot, harea⟩ := (hattached r).1 hr
      exact ⟨r, hroot.1, hroot.2, hchain, .inl ⟨harea, hy⟩⟩
    · exact ⟨r, hb.1.1, hb.1.2, hchain, .inr ((habove r hb.1).1 ⟨b, hb, hflag⟩)⟩
  · rintro ⟨r, hmem, hparent, hchain, ⟨harea, hy⟩ | ha⟩
    · exact ⟨r, hchain, .inl ⟨(hattached r).2 ⟨⟨hmem, hparent⟩, harea⟩, hy⟩⟩
    · exact ⟨r, hchain, .inr ((habove r ⟨hmem, hparent⟩).2 ha)⟩

end Collected

/-- **Without a user the tree is built, and the two collections are exact**: the marked areas that
hang on the root with all areas below them, and the devices below a marked device or area, for
the mark `'3'` and for the mark `'2'`. -/
theorem collected_exactly (o : MapOrder) (d : TreeData) (h0 : d.NoId "0") (hempty : d.NoId "") :
    ∃ tree real want, initDeleteTreeStruct o "" d = some tree ∧
      deleteAreaAndDeviceFindID tree (⟨[], []⟩, ⟨[], []⟩) = (real, want) ∧
      (∀ i, i ∈ real.areas ↔ ∃ a, a.Id = i ∧ d.AreaToDelete "3" a) ∧
      (∀ i, i ∈ real.devices ↔ ∃ x, x.Id = i ∧ d.DeviceToDelete "3" x) ∧
      (∀ i, i ∈ want.areas ↔ ∃ a, a.Id = i ∧ d.AreaToDelete "2" a) ∧
      ∀ i, i ∈ want.devices ↔ ∃ x, x.Id = i ∧ d.DeviceToDelete "2" x := by
  obtain ⟨tree, htree⟩ := initDeleteTreeStruct_isSome (o := o) h0
  obtain ⟨hreal, hwant⟩ := ids_of_initDeleteTreeStruct htree
  refine ⟨tree, tree.ids.1, tree.ids.2, htree, rfl, ?_, ?_, ?_, ?_⟩
  · exact fun i => (hreal.areas i).trans
      (exists_congr fun a => and_congr_right fun _ => markedArea_iff h0)
  · exact fun i => (hreal.devices i).trans
      (exists_congr fun x => and_congr_right fun _ => markedDevice_iff h0 hempty)
  · exact fun i => (hwant.areas i).trans
      (exists_congr fun a => and_congr_right fun _ => markedArea_iff h0)
  · exact fun i => (hwant.devices i).trans
      (exists_congr fun x => and_congr_right fun _ => markedDevice_iff h0 hempty)

/-- An area with the parent `parent` in the state `state`. -/
def areaRow (i parent state : String) : SqlRow AreasCol where
  Id := i
  col
    | .ParentId => some parent
    | .SynchronState => some state
    | _ => some ""

theorem areaRow_nodup (i parent state : String) :
    ([areaRow i parent state].map Row.Id).Nodup :=
  List.nodup_singleton i

/-- A device of the area `area`. -/
def deviceRow (i parent area state : String) : SqlRow DeviceInfoCol where
  Id := i
  col
    | .ParentId => some parent
    | .AreaId => some area
    | .SynchronState => some state
    | _ => some ""

/-- A deleted area with a device in it that is not deleted itself. -/
def TreeData.deletedArea : TreeData where
  areas := ⟨[areaRow "a" "0" "3"], areaRow_nodup "a" "0" "3"⟩
  device_info := ⟨[deviceRow "d" "0" "a" "0"], by decide⟩

/-- The device is collected with its area. -/
theorem device_of_deleted_area :
    ∃ tree, initDeleteTreeStruct .inserted "" .deletedArea = some tree ∧
      "d" ∈ (deleteAreaAndDeviceFindID tree (⟨[], []⟩, ⟨[], []⟩)).1.devices := by
  obtain ⟨tree, real, want, htree, hids, -, hdevices, -⟩ :=
    collected_exactly .inserted .deletedArea (by decide) (by decide)
  refine ⟨tree, htree, ?_⟩
  rw [hids, hdevices]
  have ha : areaRow "a" "0" "3" ∈ TreeData.deletedArea.areas := List.mem_cons_self
  exact ⟨deviceRow "d" "0" "a" "0", rfl, _, List.mem_cons_self, rfl, .refl,
    .inr ⟨areaRow "a" "0" "3", rfl, ⟨_, ha, rfl, .refl⟩, _, .refl, rfl⟩⟩

end MtpSync
