import MtpSync.Tree.Displayed

/-!
# Whether the trees are built at all

`FindChildTree`, `FindChildTreeType`, `CreateDeleteTreeStructAreasC` and
`CreateDeleteTreeStructDevices` go from parents to children as long as there are any, and keep no
record of where they have been.  Every row has one parent, so a recursion comes back to a row only
if it was started at one of its own ancestors; then it does not end.

- §1 cycles of parents
- §2 what the recursions are started with
- §3 when they end
- §4 `Init_areas_tree`
-/

namespace MtpSync

/-! ## §1 Cycles of parents -/

/-- `x` is its own ancestor. -/
def OwnAncestor {C : Type} (t : SqlTable C) (ParentId : C) (x : SqlRow C) : Prop :=
  Relation.TransGen (ParentIn t ParentId) x x

section Cycles

variable {o : MapOrder} {d : TreeData}

/-- A row is below itself where it is its own ancestor. -/
private theorem cycle_rows {C : Type} {t : SqlTable C} {c : C} {mk : SqlRow C → TreeRow}
    (hmk : Function.Injective mk)
    (hbelow : ∀ a n, n ∈ rowsBelow o d (mk a) ↔ ∃ b ∈ t, (b.col c).read = a.Id ∧ n = mk b)
    {a : SqlRow C} (ha : a ∈ t) :
    Relation.TransGen (Forest.Child (rowsBelow o d)) (mk a) (mk a) ↔ OwnAncestor t c a := by
  rw [OwnAncestor, Relation.TransGen.head'_iff, Relation.TransGen.head'_iff]
  constructor
  · rintro ⟨w, hw, hdesc⟩
    obtain ⟨b, hb, hparent, rfl⟩ := (hbelow a w).1 hw
    obtain ⟨a', hchain, heq⟩ := (desc_rows hbelow hb).1 hdesc
    obtain rfl := hmk heq
    exact ⟨b, ⟨ha, hb, hparent⟩, hchain⟩
  · rintro ⟨b, ⟨-, hb, hparent⟩, hchain⟩
    exact ⟨mk b, (hbelow a _).2 ⟨b, hb, hparent, rfl⟩, (desc_rows hbelow hb).2 ⟨a, hchain, rfl⟩⟩

theorem cycle_area_iff {a : SqlRow AreasCol} (ha : a ∈ d.areas) :
    Relation.TransGen (Forest.Child (rowsBelow o d)) (.area a) (.area a) ↔
      OwnAncestor d.areas .ParentId a :=
  cycle_rows (fun _ _ => TreeRow.area.inj) (fun _ _ => mem_areasBelow) ha

theorem cycle_device_iff {x : SqlRow DeviceInfoCol} (hx : x ∈ d.device_info) :
    Relation.TransGen (Forest.Child (rowsBelow o d)) (.device x) (.device x) ↔
      OwnAncestor d.device_info .ParentId x :=
  cycle_rows (fun _ _ => TreeRow.device.inj) (fun _ _ => mem_devicesBelow) hx

end Cycles

/-! ## §2 What the recursions are started with -/

/-- The recursion from the rows `start` ends, after however many steps. -/
def RecursionEnds (o : MapOrder) (d : TreeData) (start : List TreeRow) : Prop :=
  ∃ fuel, (Forest.grow (rowsBelow o d) fuel start).isSome = true

section Starts

variable (o : MapOrder) (m_userArea : String) (d : TreeData)

/-- A root device that gets an item, so that `FindChildTreeType` is started with it: one without
an area, or of an area that `FindChildTree` has made an item for. -/
def GetsItem (r : SqlRow DeviceInfoCol) : Prop :=
  d.RootDevice r ∧ ((r.col .AreaId).read = "" ∨
    ∃ areas, Forest.grow (rowsBelow o d) d.fuel (topAreas o m_userArea d) = some areas ∧
      areas.any (TreeRow.isArea (r.col .AreaId).read) = true)

/-- A root device that gets a node, so that `CreateDeleteTreeStructDevices` is started with it: one
behind the root, or of an area that `CreateDeleteTreeStructAreasC` has made a node for. -/
def GetsNode (r : SqlRow DeviceInfoCol) : Prop :=
  d.RootDevice r ∧ (BehindRoot o m_userArea d r ∨
    ∃ areas, createDeleteTreeStructAreasC o d (rootID o m_userArea d) = some areas ∧
      areas.any (TreeRow.isArea (r.col .AreaId).read) = true)

/-- The recursive builders end, as `Init_areas_tree` and `InitDeleteTreeStruct` start them. -/
structure BuildersEnd : Prop where
  FindChildTree : RecursionEnds o d.shown (topAreas o m_userArea d.shown)
  FindChildTreeType : ∀ r, GetsItem o m_userArea d.shown r →
    RecursionEnds o d.shown (devicesBelow o d.shown r.Id)
  CreateDeleteTreeStructAreasC : RecursionEnds o d (areasBelow o d (rootID o m_userArea d))
  CreateDeleteTreeStructDevices : ∀ r, GetsNode o m_userArea d r →
    RecursionEnds o d (devicesBelow o d r.Id)

end Starts

/-- A root device that is shown: one without an area, or of an area shown. -/
def TreeData.ShownRoot (d : TreeData) (m_userArea : String) (r : SqlRow DeviceInfoCol) : Prop :=
  d.RootDevice r ∧ ((r.col .AreaId).read = "" ∨
    ∃ top a, d.ShownTop m_userArea top ∧ d.AreaChain top a ∧ a.Id = (r.col .AreaId).read)

/-- No row that a recursion starts from is its own ancestor, among the rows shown and among all
rows. -/
structure NoLoopAtTop (m_userArea : String) (d : TreeData) : Prop where
  shownAreas : ∀ a, d.shown.ShownTop m_userArea a → ¬OwnAncestor d.shown.areas .ParentId a
  shownDevices : ∀ r, d.shown.ShownRoot m_userArea r →
    ¬OwnAncestor d.shown.device_info .ParentId r
  areas : ∀ a, d.TopArea m_userArea a → ¬OwnAncestor d.areas .ParentId a
  devices : ∀ r, d.Attached m_userArea r → ¬OwnAncestor d.device_info .ParentId r

/-! ## §3 When they end -/

section Ends

variable {o : MapOrder} {m_userArea : String} {d : TreeData}

/-- **A recursion ends** if no row it starts from is below itself. -/
theorem recursionEnds_iff {start : List TreeRow} (hstart : ∀ n ∈ start, n ∈ d.rows) :
    RecursionEnds o d start ↔
      ∀ n ∈ start, ¬Relation.TransGen (Forest.Child (rowsBelow o d)) n n :=
  Forest.exists_grow_isSome_iff (fun _ _ => mem_rows_of_below) hstart
    fun _ ha _ ha' _ h h' => rowsBelow_unique ha ha' h h'

/-- Started at the rows below one row, it ends if that row is not below itself. -/
theorem recursionEnds_below_iff {n : TreeRow} (hn : n ∈ d.rows) :
    RecursionEnds o d (rowsBelow o d n) ↔
      ¬Relation.TransGen (Forest.Child (rowsBelow o d)) n n := by
  rw [recursionEnds_iff fun _ => mem_rows_of_below,
    ← Forest.cycle_child_iff (fun _ _ => mem_rows_of_below)
      (fun _ ha _ ha' _ h h' => rowsBelow_unique ha ha' h h') hn]
  simp only [not_exists, not_and]

private theorem topAreas_rows : ∀ n ∈ topAreas o m_userArea d, n ∈ d.rows := by
  intro n hn
  obtain ⟨a, ha, rfl⟩ := mem_topAreas.1 hn
  exact TreeData.mem_rows.2 (.inl ⟨a, ha.1, rfl⟩)

private theorem areasBelow_rows {i : String} : ∀ n ∈ areasBelow o d i, n ∈ d.rows := by
  intro n hn
  obtain ⟨a, ha, -, rfl⟩ := mem_areasBelow.1 hn
  exact TreeData.mem_rows.2 (.inl ⟨a, ha, rfl⟩)

private theorem recursionEnds_device_iff {r : SqlRow DeviceInfoCol} (hr : r ∈ d.device_info) :
    RecursionEnds o d (devicesBelow o d r.Id) ↔ ¬OwnAncestor d.device_info .ParentId r := by
  rw [← cycle_device_iff hr]
  exact recursionEnds_below_iff (TreeData.mem_rows.2 (.inr ⟨r, hr, rfl⟩))

/-- `FindChildTree`, from the areas inserted at the top. -/
private theorem findChildTree_iff :
    RecursionEnds o d (topAreas o m_userArea d) ↔
      ∀ a, d.ShownTop m_userArea a → ¬OwnAncestor d.areas .ParentId a := by
  rw [recursionEnds_iff topAreas_rows]
  constructor
  · intro h a ha
    rw [← cycle_area_iff ha.1]
    exact h _ (mem_topAreas.2 ⟨a, ha, rfl⟩)
  · intro h n hn
    obtain ⟨a, ha, rfl⟩ := mem_topAreas.1 hn
    rw [cycle_area_iff ha.1]
    exact h a ha

/-- `CreateDeleteTreeStructAreasC`, from the areas below the root. -/
private theorem createDeleteTreeStructAreasC_iff :
    RecursionEnds o d (areasBelow o d (rootID o m_userArea d)) ↔
      ∀ a, d.TopArea m_userArea a → ¬OwnAncestor d.areas .ParentId a := by
  cases hroot : userRoot o m_userArea d with
  | some q =>
    -- the root is the user's area
    have hq := userRoot_iff.1 hroot
    have hbelow := recursionEnds_below_iff (o := o) (TreeData.mem_rows.2 (.inl ⟨q, hq.2.1, rfl⟩))
    rw [rootID, hroot]
    refine hbelow.trans ?_
    rw [cycle_area_iff hq.2.1]
    constructor
    · rintro h a (ha | ⟨hnone, -⟩)
      · rwa [userArea_unique ha hq]
      · exact absurd ⟨q, hq⟩ hnone
    · exact fun h => h q (.inl hq)
  | none =>
    have hnone := userRoot_none_iff.1 hroot
    rw [rootID, hroot, recursionEnds_iff areasBelow_rows]
    constructor
    · rintro h a (ha | ⟨-, ha, hparent⟩)
      · exact absurd ⟨a, ha⟩ hnone
      · rw [← cycle_area_iff ha]
        exact h _ (mem_areasBelow.2 ⟨a, ha, hparent, rfl⟩)
    · intro h n hn
      obtain ⟨a, ha, hparent, rfl⟩ := mem_areasBelow.1 hn
      rw [cycle_area_iff ha]
      exact h a (.inr ⟨hnone, ha, hparent⟩)

/-- The result of a recursion that ends. -/
private theorem grow_of_recursionEnds {start : List TreeRow} (hstart : ∀ n ∈ start, n ∈ d.rows)
    (h : RecursionEnds o d start) :
    ∃ t, Forest.grow (rowsBelow o d) d.fuel start = some t := by
  rw [TreeData.fuel_eq]
  exact Option.isSome_iff_exists.1
    (Forest.grow_isSome_of_exists (fun _ _ => mem_rows_of_below) hstart h)

/-- The root devices with an item, once the items of the areas are there. -/
private theorem getsItem_iff {areas : Forest TreeRow}
    (h : Forest.grow (rowsBelow o d) d.fuel (topAreas o m_userArea d) = some areas)
    {r : SqlRow DeviceInfoCol} (hr : d.RootDevice r) :
    ((r.col .AreaId).read = "" ∨ HasArea areas r) ↔ d.ShownRoot m_userArea r := by
  have hmem : ∀ a, areas.Mem (.area a) ↔ ∃ top, d.ShownTop m_userArea top ∧ d.AreaChain top a := by
    intro a
    rw [Forest.mem_grow h]
    constructor
    · rintro ⟨v, hv, hdesc⟩
      obtain ⟨top, htop, rfl⟩ := mem_topAreas.1 hv
      obtain ⟨b, hchain, heq⟩ := (desc_area htop.1).1 hdesc
      cases heq
      exact ⟨top, htop, hchain⟩
    · rintro ⟨top, htop, hchain⟩
      exact ⟨_, mem_topAreas.2 ⟨top, htop, rfl⟩, (desc_area htop.1).2 ⟨a, hchain, rfl⟩⟩
  rw [TreeData.ShownRoot, and_iff_right hr]
  refine or_congr_right ?_
  constructor
  · rintro ⟨a, ha, hId⟩
    obtain ⟨top, htop, hchain⟩ := (hmem a).1 ha
    exact ⟨top, a, htop, hchain, hId⟩
  · rintro ⟨top, a, htop, hchain, hId⟩
    exact ⟨a, (hmem a).2 ⟨top, htop, hchain⟩, hId⟩

/-- **The tree builders end** exactly when no row that a recursion starts from is its own
ancestor: the user's own area, or an area or device whose parent has the id that means no
parent. -/
theorem buildersEnd_iff (o : MapOrder) (m_userArea : String) (d : TreeData) :
    BuildersEnd o m_userArea d ↔ NoLoopAtTop m_userArea d := by
  constructor
  · intro h
    obtain ⟨items, hitems⟩ := grow_of_recursionEnds topAreas_rows h.FindChildTree
    obtain ⟨areas, hareas⟩ := grow_of_recursionEnds areasBelow_rows h.CreateDeleteTreeStructAreasC
    refine ⟨findChildTree_iff.1 h.FindChildTree, fun r hr => ?_,
      createDeleteTreeStructAreasC_iff.1 h.CreateDeleteTreeStructAreasC, fun r hr => ?_⟩
    · -- a root device shown has an item, and the recursion below it ends
      refine (recursionEnds_device_iff hr.1.1).1 (h.FindChildTreeType r ⟨hr.1, ?_⟩)
      exact ((getsItem_iff hitems hr.1).2 hr).imp_right
        fun harea => ⟨items, hitems, any_isArea_iff.2 harea⟩
    · refine (recursionEnds_device_iff hr.1.1).1 (h.CreateDeleteTreeStructDevices r ⟨hr.1, ?_⟩)
      exact ((attached_iff hareas hr.1).2 hr).imp_right
        fun harea => ⟨areas, hareas, any_isArea_iff.2 harea⟩
  · intro h
    refine ⟨findChildTree_iff.2 h.shownAreas, fun r hr => ?_,
      createDeleteTreeStructAreasC_iff.2 h.areas, fun r hr => ?_⟩
    · refine (recursionEnds_device_iff hr.1.1).2 (h.shownDevices r ?_)
      rcases hr.2 with hempty | ⟨items, hitems, hany⟩
      · exact ⟨hr.1, .inl hempty⟩
      · exact (getsItem_iff hitems hr.1).1 (.inr (any_isArea_iff.1 hany))
    · refine (recursionEnds_device_iff hr.1.1).2 (h.devices r ?_)
      rcases hr.2 with hbehind | ⟨areas, hareas, hany⟩
      · obtain ⟨areas, hareas⟩ := grow_of_recursionEnds areasBelow_rows
          (createDeleteTreeStructAreasC_iff.2 h.areas)
        exact (attached_iff hareas hr.1).1 (.inl hbehind)
      · exact (attached_iff hareas hr.1).1 (.inr (any_isArea_iff.1 hany))

/-- The user's area is its own parent. -/
def TreeData.selfParent : TreeData where
  areas := ⟨[areaRow "a" "a" "0"], areaRow_nodup "a" "a" "0"⟩
  device_info := ⟨[], by decide⟩

/-- With such an area, `Init_areas_tree` does not end. -/
theorem selfParent_never_ends :
    ¬∀ (o : MapOrder) (m_userArea : String) (d : TreeData), BuildersEnd o m_userArea d := by
  intro h
  have hmem : areaRow "a" "a" "0" ∈ TreeData.selfParent.areas := List.mem_cons_self
  have hends := (h .inserted "a" .selfParent).CreateDeleteTreeStructAreasC
  have hnot := createDeleteTreeStructAreasC_iff.1 hends (areaRow "a" "a" "0")
    (.inl ⟨by decide, hmem, rfl⟩)
  exact hnot (.single ⟨hmem, hmem, rfl⟩)

/-! ## §4 `Init_areas_tree` -/

theorem recursionEnds_iff_fuel {start : List TreeRow} (hstart : ∀ n ∈ start, n ∈ d.rows) :
    RecursionEnds o d start ↔ (Forest.grow (rowsBelow o d) d.fuel start).isSome = true := by
  refine ⟨fun h => ?_, fun h => ⟨d.fuel, h⟩⟩
  obtain ⟨t, ht⟩ := grow_of_recursionEnds hstart h
  rw [ht]
  rfl

private theorem deviceNode_isSome_iff {r : SqlRow DeviceInfoCol} :
    (deviceNode o d r).isSome = true ↔ RecursionEnds o d (devicesBelow o d r.Id) := by
  have hstart : ∀ n ∈ devicesBelow o d r.Id, n ∈ d.rows := by
    intro n hn
    obtain ⟨y, hy, -, rfl⟩ := mem_devicesBelow.1 hn
    exact TreeData.mem_rows.2 (.inr ⟨y, hy, rfl⟩)
  rw [recursionEnds_iff_fuel hstart, deviceNode, createDeleteTreeStructDevices]
  cases Forest.grow (rowsBelow o d) d.fuel (devicesBelow o d r.Id) with
  | none => simp
  | some child => simp

/-- The root devices are placed one after the other if the recursion below each one ends that is
placed at all. -/
private theorem foldlM_isSome_iff {top : SqlRow DeviceInfoCol → Prop}
    {step : Forest TreeRow → SqlRow DeviceInfoCol → Option (Forest TreeRow)}
    (hstep : ∀ t r t', step t r = some t' → Placed o d top t r t')
    (hsome : ∀ t r, (top r ∨ HasArea t r → (deviceNode o d r).isSome = true) →
      (step t r).isSome = true)
    {rs : List (SqlRow DeviceInfoCol)} (hrs : ∀ r ∈ rs, d.RootDevice r) {t : Forest TreeRow} :
    (rs.foldlM step t).isSome = true ↔
      ∀ r ∈ rs, top r ∨ HasArea t r → (deviceNode o d r).isSome = true := by
  constructor
  · intro h r hr hplaced
    obtain ⟨t', ht'⟩ := Option.isSome_iff_exists.1 h
    exact Option.isSome_iff_exists.2 (deviceNode_of_foldlM hstep hrs ht' hr hplaced)
  · intro h
    induction rs generalizing t with
    | nil => rfl
    | cons r rs ih =>
      obtain ⟨t₁, ht₁⟩ := Option.isSome_iff_exists.1 (hsome t r (h r List.mem_cons_self))
      have hp := hstep t r t₁ ht₁
      rw [List.foldlM_cons, Option.bind_eq_bind, ht₁, Option.bind_some]
      -- placing a device adds no area
      refine ih (fun x hx => hrs x (List.mem_cons_of_mem r hx)) fun x hx hplaced => ?_
      exact h x (List.mem_cons_of_mem r hx)
        (hplaced.imp_right (hp.hasArea (hrs r List.mem_cons_self)).1)

private theorem showDevice_isSome {t : Forest TreeRow} {r : SqlRow DeviceInfoCol}
    (h : (r.col .AreaId).read = "" ∨ HasArea t r → (deviceNode o d r).isSome = true) :
    (showDevice o d t r).isSome = true := by
  rw [showDevice]
  split
  · split
    next hany =>
      obtain ⟨c, hc⟩ := Option.isSome_iff_exists.1 (h (.inr (any_isArea_iff.1 hany)))
      rw [hc]
      rfl
    next => rfl
  next hempty =>
    obtain ⟨c, hc⟩ := Option.isSome_iff_exists.1 (h (.inl (not_not.1 hempty)))
    rw [hc]
    rfl

private theorem attachDevice_isSome {t : Forest TreeRow} {r : SqlRow DeviceInfoCol}
    (h : BehindRoot o m_userArea d r ∨ HasArea t r → (deviceNode o d r).isSome = true) :
    (attachDevice o m_userArea d t r).isSome = true := by
  rw [attachDevice]
  split
  next hless =>
    obtain ⟨c, hc⟩ := Option.isSome_iff_exists.1 (h (.inl (.inl hless)))
    rw [hc]
    rfl
  next =>
    split
    next hroot =>
      obtain ⟨a, ha, hId⟩ := (Option.any_eq_true _ _).1 hroot
      obtain ⟨c, hc⟩ :=
        Option.isSome_iff_exists.1 (h (.inl (.inr ⟨a, ha, by simpa using hId⟩)))
      rw [hc]
      rfl
    next =>
      split
      next hany =>
        obtain ⟨c, hc⟩ := Option.isSome_iff_exists.1 (h (.inr (any_isArea_iff.1 hany)))
        rw [hc]
        rfl
      next => rfl

/-- The items are made if `FindChildTree` and `FindChildTreeType` end. -/
private theorem treeItems_isSome_iff :
    (treeItems o m_userArea d).isSome = true ↔
      RecursionEnds o d (topAreas o m_userArea d) ∧
        ∀ r, GetsItem o m_userArea d r → RecursionEnds o d (devicesBelow o d r.Id) := by
  rw [treeItems, recursionEnds_iff_fuel topAreas_rows]
  cases hareas : Forest.grow (rowsBelow o d) d.fuel (topAreas o m_userArea d) with
  | none => simp
  | some areas =>
    rw [Option.bind_eq_bind, Option.bind_some,
      foldlM_isSome_iff (fun _ _ _ => showDevice_placed) (fun _ _ => showDevice_isSome)
        fun r hr => mem_rootDevices.1 hr]
    simp only [GetsItem, hareas, Option.some.injEq, exists_eq_left', any_isArea_iff,
      mem_rootDevices, deviceNode_isSome_iff, Option.isSome_some, true_and, and_imp]

/-- `m_deleteTree` is made if the other two end. -/
private theorem initDeleteTreeStruct_isSome_iff :
    (initDeleteTreeStruct o m_userArea d).isSome = true ↔
      RecursionEnds o d (areasBelow o d (rootID o m_userArea d)) ∧
        ∀ r, GetsNode o m_userArea d r → RecursionEnds o d (devicesBelow o d r.Id) := by
  have hforest : (initDeleteTreeStruct o m_userArea d).isSome =
      (deleteForest o m_userArea d).isSome := by
    rw [initDeleteTreeStruct]
    cases deleteForest o m_userArea d with
    | none => rfl
    | some t => cases userRoot o m_userArea d <;> rfl
  rw [hforest, deleteForest, recursionEnds_iff_fuel areasBelow_rows]
  change _ ↔ (createDeleteTreeStructAreasC o d (rootID o m_userArea d)).isSome = true ∧ _
  cases hareas : createDeleteTreeStructAreasC o d (rootID o m_userArea d) with
  | none => simp
  | some areas =>
    rw [Option.bind_eq_bind, Option.bind_some,
      foldlM_isSome_iff (fun _ _ _ => attachDevice_placed) (fun _ _ => attachDevice_isSome)
        fun r hr => mem_rootDevices.1 hr]
    simp only [GetsNode, hareas, Option.some.injEq, exists_eq_left', any_isArea_iff,
      mem_rootDevices, deviceNode_isSome_iff, Option.isSome_some, true_and, and_imp]

/-- **`Init_areas_tree` makes both trees** if the builders end, and then only. -/
theorem initAreasTree_isSome_iff :
    (initAreasTree o m_userArea d).isSome = true ↔ BuildersEnd o m_userArea d := by
  have hboth : (initAreasTree o m_userArea d).isSome = true ↔
      (treeItems o m_userArea d.shown).isSome = true ∧
        (initDeleteTreeStruct o m_userArea d).isSome = true := by
    rw [initAreasTree]
    cases treeItems o m_userArea d.shown with
    | none => simp
    | some items => cases initDeleteTreeStruct o m_userArea d <;> simp
  rw [hboth, treeItems_isSome_iff, initDeleteTreeStruct_isSome_iff]
  constructor
  · rintro ⟨⟨hareas, hdevices⟩, hareas', hdevices'⟩
    exact ⟨hareas, hdevices, hareas', hdevices'⟩
  · intro h
    exact ⟨⟨h.FindChildTree, h.FindChildTreeType⟩, h.CreateDeleteTreeStructAreasC,
      h.CreateDeleteTreeStructDevices⟩

end Ends

end MtpSync
