import MtpSync.Tree.Build

/-!
# Which rows become nodes

What stands below what in the two trees, in terms of the rows of the two tables and the parents
they name.

- §1 chains of parents
- §2 the rows below a row
- §3 root devices, one after the other
- §4 the delete tree
- §5 what is collected from it
-/

namespace MtpSync

/-! ## §1 Chains of parents -/

/-- `y` names `x` as its parent. -/
def ParentIn {C : Type} (t : SqlTable C) (ParentId : C) (x y : SqlRow C) : Prop :=
  x ∈ t ∧ y ∈ t ∧ (y.col ParentId).read = x.Id

/-- `x` is `y` or an area above it. -/
abbrev TreeData.AreaChain (d : TreeData) : SqlRow AreasCol → SqlRow AreasCol → Prop :=
  Relation.ReflTransGen (ParentIn d.areas .ParentId)

/-- `x` is `y` or a device above it. -/
abbrev TreeData.DeviceChain (d : TreeData) : SqlRow DeviceInfoCol → SqlRow DeviceInfoCol → Prop :=
  Relation.ReflTransGen (ParentIn d.device_info .ParentId)

/-- A device of the table without a parent. -/
def TreeData.RootDevice (d : TreeData) (r : SqlRow DeviceInfoCol) : Prop :=
  r ∈ d.device_info ∧ (r.col .ParentId).read = PARENTFLAG

/-- A row has one parent. -/
theorem ParentIn.unique {C : Type} {t : SqlTable C} {c : C} {x x' y : SqlRow C}
    (h : ParentIn t c x y) (h' : ParentIn t c x' y) : x = x' :=
  Table.eq_of_Id_eq h.1 h'.1 (h.2.2.symm.trans h'.2.2)

/-- Whatever a chain leads to is in the table its start is in. -/
theorem mem_of_parents {C : Type} {t : SqlTable C} {c : C} {x y : SqlRow C}
    (h : Relation.ReflTransGen (ParentIn t c) x y) (hx : x ∈ t) : y ∈ t := by
  cases h with
  | refl => exact hx
  | tail _ hlast => exact hlast.2.1

/-- Two rows above the same row are above one another. -/
theorem parents_total {C : Type} {t : SqlTable C} {c : C} {x x' y : SqlRow C}
    (h : Relation.ReflTransGen (ParentIn t c) x y)
    (h' : Relation.ReflTransGen (ParentIn t c) x' y) :
    Relation.ReflTransGen (ParentIn t c) x x' ∨ Relation.ReflTransGen (ParentIn t c) x' x := by
  have hunique : Relator.RightUnique (Function.swap (ParentIn t c)) :=
    fun _ _ _ hb hb' => ParentIn.unique hb hb'
  rcases Relation.ReflTransGen.total_of_right_unique hunique (Relation.reflTransGen_swap.2 h)
    (Relation.reflTransGen_swap.2 h') with htotal | htotal
  · exact .inr (Relation.reflTransGen_swap.1 htotal)
  · exact .inl (Relation.reflTransGen_swap.1 htotal)

/-! ## §2 The rows below a row -/

/-- Looking a key up among the rows of a table, in whatever order. -/
theorem Table.find_Id {C : Type} {t : SqlTable C} {l : List (SqlRow C)}
    (hl : ∀ r, r ∈ l ↔ r ∈ t) {i : String} {r : SqlRow C} :
    l.find? (fun r => r.Id == i) = some r ↔ r ∈ t ∧ r.Id = i := by
  constructor
  · intro h
    exact ⟨(hl r).1 (List.mem_of_find?_eq_some h), by simpa using List.find?_some h⟩
  · rintro ⟨hr, rfl⟩
    cases hfind : l.find? (fun x => x.Id == r.Id) with
    | none => exact absurd (beq_self_eq_true r.Id) (List.find?_eq_none.1 hfind r ((hl r).2 hr))
    | some x =>
      have hId : x.Id = r.Id := by simpa using List.find?_some hfind
      rw [Table.eq_of_Id_eq ((hl x).1 (List.mem_of_find?_eq_some hfind)) hr hId]

/-- A map hands out every row. -/
@[simp] theorem MapOrder.mem_walk {C : Type} {o : MapOrder} {t : SqlTable C} {r : SqlRow C} :
    r ∈ o.walk t ↔ r ∈ t := by
  rw [MapOrder.walk, List.mem_filterMap]
  simp only [Table.find_Id fun _ => Iff.rfl, (o.perm t.ids).mem_iff]
  constructor
  · rintro ⟨i, -, hr, -⟩
    exact hr
  · intro hr
    exact ⟨r.Id, Table.mem_ids.2 ⟨r, hr, rfl⟩, hr, rfl⟩

section Below

variable {o : MapOrder} {d : TreeData}

theorem mem_areasBelow {i : String} {n : TreeRow} :
    n ∈ areasBelow o d i ↔ ∃ a ∈ d.areas, (a.col .ParentId).read = i ∧ n = .area a := by
  simp only [areasBelow, List.mem_map, List.mem_filter, MapOrder.mem_walk, beq_iff_eq, and_assoc,
    eq_comm (b := n)]

theorem mem_devicesBelow {i : String} {n : TreeRow} :
    n ∈ devicesBelow o d i ↔ ∃ x ∈ d.device_info, (x.col .ParentId).read = i ∧ n = .device x := by
  simp only [devicesBelow, List.mem_map, List.mem_filter, MapOrder.mem_walk, beq_iff_eq, and_assoc,
    eq_comm (b := n)]

@[simp] theorem mem_rootDevices {r : SqlRow DeviceInfoCol} :
    r ∈ rootDevices o d ↔ d.RootDevice r := by
  simp only [rootDevices, List.mem_filter, MapOrder.mem_walk, beq_iff_eq, TreeData.RootDevice]

/-- Below a row are the rows of its table whose chain of parents leads to it. -/
theorem desc_rows {C : Type} {t : SqlTable C} {c : C} {mk : SqlRow C → TreeRow}
    (hbelow : ∀ a n, n ∈ rowsBelow o d (mk a) ↔ ∃ b ∈ t, (b.col c).read = a.Id ∧ n = mk b)
    {a : SqlRow C} (ha : a ∈ t) {n : TreeRow} :
    Forest.Desc (rowsBelow o d) (mk a) n ↔
      ∃ b, Relation.ReflTransGen (ParentIn t c) a b ∧ n = mk b := by
  constructor
  · intro h
    induction h with
    | refl => exact ⟨a, .refl, rfl⟩
    | tail _ hchild ih =>
      obtain ⟨b, hchain, rfl⟩ := ih
      obtain ⟨b', hb', hparent, rfl⟩ := (hbelow b _).1 hchild
      exact ⟨b', hchain.tail ⟨mem_of_parents hchain ha, hb', hparent⟩, rfl⟩
  · rintro ⟨b, hchain, rfl⟩
    induction hchain with
    | refl => exact .refl
    | tail _ hparent ih => exact ih.tail ((hbelow _ _).2 ⟨_, hparent.2.1, hparent.2.2, rfl⟩)

theorem desc_area {a : SqlRow AreasCol} (ha : a ∈ d.areas) {n : TreeRow} :
    Forest.Desc (rowsBelow o d) (.area a) n ↔ ∃ b, d.AreaChain a b ∧ n = .area b :=
  desc_rows (fun _ _ => mem_areasBelow) ha

theorem desc_device {x : SqlRow DeviceInfoCol} (hx : x ∈ d.device_info) {n : TreeRow} :
    Forest.Desc (rowsBelow o d) (.device x) n ↔ ∃ y, d.DeviceChain x y ∧ n = .device y :=
  desc_rows (fun _ _ => mem_devicesBelow) hx

/-- All rows. -/
def TreeData.rows (d : TreeData) : List TreeRow :=
  d.areas.rows.map .area ++ d.device_info.rows.map .device

theorem TreeData.mem_rows {n : TreeRow} :
    n ∈ d.rows ↔ (∃ a ∈ d.areas, n = .area a) ∨ ∃ x ∈ d.device_info, n = .device x := by
  simp only [TreeData.rows, List.mem_append, List.mem_map, Table.mem_def, eq_comm (b := n)]

theorem TreeData.fuel_eq : d.fuel = d.rows.length + 1 := by
  simp only [TreeData.fuel, TreeData.rows, List.length_append, List.length_map]

theorem mem_rows_of_below {n n' : TreeRow} (h : n' ∈ rowsBelow o d n) : n' ∈ d.rows := by
  cases n with
  | area a =>
    obtain ⟨b, hb, -, rfl⟩ := mem_areasBelow.1 h
    exact TreeData.mem_rows.2 (.inl ⟨b, hb, rfl⟩)
  | device x =>
    obtain ⟨y, hy, -, rfl⟩ := mem_devicesBelow.1 h
    exact TreeData.mem_rows.2 (.inr ⟨y, hy, rfl⟩)

/-- A row is below one row only. -/
theorem rowsBelow_unique {a a' b : TreeRow} (ha : a ∈ d.rows) (ha' : a' ∈ d.rows)
    (h : b ∈ rowsBelow o d a) (h' : b ∈ rowsBelow o d a') : a = a' := by
  rcases TreeData.mem_rows.1 ha with ⟨r, hr, rfl⟩ | ⟨r, hr, rfl⟩ <;>
  rcases TreeData.mem_rows.1 ha' with ⟨r', hr', rfl⟩ | ⟨r', hr', rfl⟩
  · obtain ⟨b, -, hb, rfl⟩ := mem_areasBelow.1 h
    obtain ⟨_, -, hb', heq⟩ := mem_areasBelow.1 h'
    cases heq
    rw [Table.eq_of_Id_eq hr hr' (hb.symm.trans hb')]
  · obtain ⟨b, -, -, rfl⟩ := mem_areasBelow.1 h
    obtain ⟨_, -, -, heq⟩ := mem_devicesBelow.1 h'
    cases heq
  · obtain ⟨b, -, -, rfl⟩ := mem_devicesBelow.1 h
    obtain ⟨_, -, -, heq⟩ := mem_areasBelow.1 h'
    cases heq
  · obtain ⟨b, -, hb, rfl⟩ := mem_devicesBelow.1 h
    obtain ⟨_, -, hb', heq⟩ := mem_devicesBelow.1 h'
    cases heq
    rw [Table.eq_of_Id_eq hr hr' (hb.symm.trans hb')]

end Below

/-! ## §3 Root devices, one after the other -/

theorem TreeRow.isArea_iff {i : String} {n : TreeRow} :
    n.isArea i = true ↔ ∃ a, n = .area a ∧ a.Id = i := by
  cases n with
  | area r => simp [TreeRow.isArea]
  | device r => simp [TreeRow.isArea]

/-- The area of `r` has a node. -/
def HasArea (t : Forest TreeRow) (r : SqlRow DeviceInfoCol) : Prop :=
  ∃ a, t.Mem (.area a) ∧ a.Id = (r.col .AreaId).read

section Placed

variable {o : MapOrder} {d : TreeData}

theorem mem_deviceNode {r : SqlRow DeviceInfoCol} {c : Forest TreeRow}
    (h : deviceNode o d r = some c) {n : TreeRow} :
    c.Mem n ↔ Forest.Desc (rowsBelow o d) (.device r) n := by
  obtain ⟨child, hchild, hc⟩ := Option.bind_eq_some_iff.1 h
  cases hc
  rw [Forest.desc_iff, Forest.mem_node, Forest.mem_grow hchild]
  simp only [Forest.not_mem_nil, or_false]
  exact Iff.rfl

theorem under_deviceNode {r : SqlRow DeviceInfoCol} {c : Forest TreeRow}
    (h : deviceNode o d r = some c) {a n : TreeRow} :
    c.Under a n ↔ Forest.Desc (rowsBelow o d) (.device r) a ∧ Forest.Desc (rowsBelow o d) a n := by
  rw [← mem_deviceNode h]
  obtain ⟨child, hchild, hc⟩ := Option.bind_eq_some_iff.1 h
  have hself : n = .device r ∨ child.Mem n ↔ Forest.Desc (rowsBelow o d) (.device r) n := by
    rw [Forest.desc_iff, Forest.mem_grow hchild]
    exact Iff.rfl
  cases hc
  rw [Forest.under_node, hself, Forest.under_grow hchild, Forest.mem_node]
  simp only [Forest.not_mem_nil, Forest.not_under_nil, or_false]
  constructor
  · rintro (⟨rfl, hdesc⟩ | ⟨hmem, hdesc⟩)
    · exact ⟨.inl rfl, hdesc⟩
    · exact ⟨.inr hmem, hdesc⟩
  · rintro ⟨rfl | hmem, hdesc⟩
    · exact .inl ⟨rfl, hdesc⟩
    · exact .inr ⟨hmem, hdesc⟩

/-- What becomes of the nodes when the root device `r` is looked at; `top` are the devices that
go behind the top nodes. -/
inductive Placed (o : MapOrder) (d : TreeData) (top : SqlRow DeviceInfoCol → Prop)
    (t : Forest TreeRow) (r : SqlRow DeviceInfoCol) : Forest TreeRow → Prop
  | behind {c : Forest TreeRow} (htop : top r) (hc : deviceNode o d r = some c) :
    Placed o d top t r (t.append c)
  | under {c : Forest TreeRow} (htop : ¬top r) (harea : HasArea t r)
    (hc : deviceNode o d r = some c) :
    Placed o d top t r (Forest.addUnder (TreeRow.isArea (r.col .AreaId).read) c t)
  | skipped (htop : ¬top r) (harea : ¬HasArea t r) : Placed o d top t r t

variable {top : SqlRow DeviceInfoCol → Prop} {t t' : Forest TreeRow} {r : SqlRow DeviceInfoCol}

theorem exists_isArea_iff {t : Forest TreeRow} {r : SqlRow DeviceInfoCol} :
    (∃ n, t.Mem n ∧ n.isArea (r.col .AreaId).read = true) ↔ HasArea t r := by
  simp only [TreeRow.isArea_iff, HasArea]
  constructor
  · rintro ⟨_, hn, a, rfl, ha⟩
    exact ⟨a, hn, ha⟩
  · rintro ⟨a, hn, ha⟩
    exact ⟨_, hn, a, rfl, ha⟩

theorem any_isArea_iff {t : Forest TreeRow} {r : SqlRow DeviceInfoCol} :
    t.any (TreeRow.isArea (r.col .AreaId).read) = true ↔ HasArea t r := by
  rw [Forest.any_iff, exists_isArea_iff]

theorem Placed.mem_iff (h : Placed o d top t r t') {n : TreeRow} :
    t'.Mem n ↔
      t.Mem n ∨ (top r ∨ HasArea t r) ∧ Forest.Desc (rowsBelow o d) (.device r) n := by
  cases h with
  | behind htop hc => simp only [Forest.mem_append, mem_deviceNode hc, htop, true_or, true_and]
  | under htop harea hc =>
    rw [Forest.mem_addUnder, exists_isArea_iff, mem_deviceNode hc]
    simp only [harea, or_true]
  | skipped htop harea => simp only [htop, harea, or_self, false_and, or_false]

theorem Placed.under_iff (h : Placed o d top t r t') {a n : TreeRow} :
    t'.Under a n ↔ t.Under a n ∨
      ((top r ∨ HasArea t r) ∧ Forest.Desc (rowsBelow o d) (.device r) a ∧
        Forest.Desc (rowsBelow o d) a n) ∨
      (¬top r ∧ (∃ b, t.Under a (.area b) ∧ b.Id = (r.col .AreaId).read) ∧
        Forest.Desc (rowsBelow o d) (.device r) n) := by
  -- where the chain of the device was hung
  cases h with
  | behind htop hc =>
    simp only [Forest.under_append, under_deviceNode hc, htop, true_or, true_and,
      not_true_eq_false, false_and, or_false]
  | under htop harea hc =>
    have hunder : (∃ m, t.Under a m ∧ m.isArea (r.col .AreaId).read = true) ↔
        ∃ b, t.Under a (.area b) ∧ b.Id = (r.col .AreaId).read := by
      simp only [TreeRow.isArea_iff]
      constructor
      · rintro ⟨_, hm, b, rfl, hb⟩
        exact ⟨b, hm, hb⟩
      · rintro ⟨b, hm, hb⟩
        exact ⟨_, hm, b, rfl, hb⟩
    rw [Forest.under_addUnder, exists_isArea_iff, hunder, mem_deviceNode hc, under_deviceNode hc]
    simp only [harea, htop, or_true, true_and, not_false_eq_true]
  | skipped htop harea =>
    have hnone : ¬∃ b, t.Under a (.area b) ∧ b.Id = (r.col .AreaId).read := by
      rintro ⟨b, hb, hId⟩
      exact harea ⟨b, hb.mem_right, hId⟩
    simp only [htop, harea, hnone, or_self, false_and, and_false, or_false]

theorem not_desc_area {r : SqlRow DeviceInfoCol} (hr : d.RootDevice r) {a : SqlRow AreasCol} :
    ¬Forest.Desc (rowsBelow o d) (.device r) (.area a) := by
  rw [desc_device hr.1]
  rintro ⟨x, -, heq⟩
  cases heq

/-- Only devices come in. -/
theorem Placed.mem_area (h : Placed o d top t r t') (hr : d.RootDevice r) {a : SqlRow AreasCol} :
    t'.Mem (.area a) ↔ t.Mem (.area a) := by
  rw [h.mem_iff]
  simp only [not_desc_area hr, and_false, or_false]

theorem Placed.under_area (h : Placed o d top t r t') (hr : d.RootDevice r) {n : TreeRow}
    {a : SqlRow AreasCol} : t'.Under n (.area a) ↔ t.Under n (.area a) := by
  rw [h.under_iff]
  constructor
  · rintro (hunder | ⟨-, hdesc, hdesc'⟩ | ⟨-, -, hdesc⟩)
    · exact hunder
    · exact absurd (hdesc.trans hdesc') (not_desc_area hr)
    · exact absurd hdesc (not_desc_area hr)
  · exact .inl

theorem Placed.hasArea (h : Placed o d top t r t') (hr : d.RootDevice r)
    {x : SqlRow DeviceInfoCol} : HasArea t' x ↔ HasArea t x :=
  exists_congr fun _ => and_congr_left fun _ => h.mem_area hr

/-- **The nodes after all root devices.** -/
theorem mem_foldlM {step : Forest TreeRow → SqlRow DeviceInfoCol → Option (Forest TreeRow)}
    (hstep : ∀ t r t', step t r = some t' → Placed o d top t r t')
    {rs : List (SqlRow DeviceInfoCol)} (hrs : ∀ r ∈ rs, d.RootDevice r)
    (h : rs.foldlM step t = some t') {n : TreeRow} :
    t'.Mem n ↔ t.Mem n ∨ ∃ r ∈ rs, (top r ∨ HasArea t r) ∧
      Forest.Desc (rowsBelow o d) (.device r) n := by
  induction rs generalizing t with
  | nil =>
    cases h
    simp
  | cons r rs ih =>
    rw [List.foldlM_cons, Option.bind_eq_bind, Option.bind_eq_some_iff] at h
    obtain ⟨t₁, hfirst, hrest⟩ := h
    have hr := hrs r List.mem_cons_self
    have hp := hstep t r t₁ hfirst
    rw [ih (fun x hx => hrs x (List.mem_cons_of_mem r hx)) hrest, hp.mem_iff]
    simp only [hp.hasArea hr, List.exists_mem_cons_iff, or_assoc]

/-- **What is below a node after all root devices.** -/
theorem under_foldlM {step : Forest TreeRow → SqlRow DeviceInfoCol → Option (Forest TreeRow)}
    (hstep : ∀ t r t', step t r = some t' → Placed o d top t r t')
    {rs : List (SqlRow DeviceInfoCol)} (hrs : ∀ r ∈ rs, d.RootDevice r)
    (h : rs.foldlM step t = some t') {a n : TreeRow} :
    t'.Under a n ↔ t.Under a n ∨
      (∃ r ∈ rs, (top r ∨ HasArea t r) ∧ Forest.Desc (rowsBelow o d) (.device r) a ∧
        Forest.Desc (rowsBelow o d) a n) ∨
      ∃ r ∈ rs, ¬top r ∧ (∃ b, t.Under a (.area b) ∧ b.Id = (r.col .AreaId).read) ∧
        Forest.Desc (rowsBelow o d) (.device r) n := by
  induction rs generalizing t with
  | nil =>
    cases h
    simp
  | cons r rs ih =>
    rw [List.foldlM_cons, Option.bind_eq_bind, Option.bind_eq_some_iff] at h
    obtain ⟨t₁, hfirst, hrest⟩ := h
    have hr := hrs r List.mem_cons_self
    have hp := hstep t r t₁ hfirst
    rw [ih (fun x hx => hrs x (List.mem_cons_of_mem r hx)) hrest, hp.under_iff]
    simp only [hp.hasArea hr, hp.under_area hr, List.exists_mem_cons_iff]
    rw [or_assoc, or_or_or_comm]

/-- The devices below a root device that was placed were found. -/
theorem deviceNode_of_foldlM
    {step : Forest TreeRow → SqlRow DeviceInfoCol → Option (Forest TreeRow)}
    (hstep : ∀ t r t', step t r = some t' → Placed o d top t r t')
    {rs : List (SqlRow DeviceInfoCol)} (hrs : ∀ r ∈ rs, d.RootDevice r)
    (h : rs.foldlM step t = some t') (hr : r ∈ rs) (hplaced : top r ∨ HasArea t r) :
    ∃ c, deviceNode o d r = some c := by
  induction rs generalizing t with
  | nil => exact absurd hr List.not_mem_nil
  | cons r' rs ih =>
    rw [List.foldlM_cons, Option.bind_eq_bind, Option.bind_eq_some_iff] at h
    obtain ⟨t₁, hfirst, hrest⟩ := h
    have hp := hstep t r' t₁ hfirst
    rcases List.mem_cons.1 hr with rfl | hr
    · cases hp with
      | behind _ hc => exact ⟨_, hc⟩
      | under _ _ hc => exact ⟨_, hc⟩
      | skipped htop harea => exact absurd hplaced (not_or.2 ⟨htop, harea⟩)
    · exact ih (fun x hx => hrs x (List.mem_cons_of_mem r' hx)) hrest hr
        (hplaced.imp_right (hp.hasArea (hrs r' List.mem_cons_self)).2)

end Placed

/-! ## §4 The delete tree -/

/-- The row of the user's area. -/
def TreeData.UserArea (d : TreeData) (m_userArea : String) (a : SqlRow AreasCol) : Prop :=
  m_userArea ≠ "" ∧ a ∈ d.areas ∧ a.Id = m_userArea

/-- An area at the top of the delete tree: the user's, or those without a parent if there is no
user or the user's area is not in the table. -/
def TreeData.TopArea (d : TreeData) (m_userArea : String) (a : SqlRow AreasCol) : Prop :=
  d.UserArea m_userArea a ∨
    (¬∃ b, d.UserArea m_userArea b) ∧ a ∈ d.areas ∧ (a.col .ParentId).read = PARENTFLAG

/-- An area of the delete tree. -/
def TreeData.InTree (d : TreeData) (m_userArea : String) (a : SqlRow AreasCol) : Prop :=
  ∃ top, d.TopArea m_userArea top ∧ d.AreaChain top a

/-- A device whose area is empty or `"0"`. -/
def AreaLess (r : SqlRow DeviceInfoCol) : Prop :=
  (r.col .AreaId).read = PARENTFLAG ∨ (r.col .AreaId).read = ""

/-- A root device of the delete tree: one without an area, or of an area of the tree. -/
def TreeData.Attached (d : TreeData) (m_userArea : String) (r : SqlRow DeviceInfoCol) : Prop :=
  d.RootDevice r ∧ (AreaLess r ∨ ∃ a, d.InTree m_userArea a ∧ a.Id = (r.col .AreaId).read)

/-- `b` is above the root device `r`: the user's area above a device without one, and the areas
above the area of any other. -/
def TreeData.AboveDevice (d : TreeData) (m_userArea : String) (b : SqlRow AreasCol)
    (r : SqlRow DeviceInfoCol) : Prop :=
  d.RootDevice r ∧
    ((AreaLess r ∧ d.UserArea m_userArea b) ∨
      (¬AreaLess r ∧ d.InTree m_userArea b ∧
        ∃ a, d.AreaChain b a ∧ a.Id = (r.col .AreaId).read))

/-- The nodes of the delete tree that stand for rows. -/
def deleteNodes (o : MapOrder) (m_userArea : String) (d : TreeData) (t : Forest TreeRow) :
    Forest TreeRow :=
  match userRoot o m_userArea d with
  | some r => .node (.area r) t .nil
  | none => t

section DeleteNodes

variable {o : MapOrder} {m_userArea : String} {d : TreeData} {t : Forest TreeRow}

theorem userRoot_iff {a : SqlRow AreasCol} :
    userRoot o m_userArea d = some a ↔ d.UserArea m_userArea a := by
  rw [userRoot, TreeData.UserArea]
  split
  next h => simp [h]
  next h => simp [h, Table.find_Id fun _ => MapOrder.mem_walk]

theorem userRoot_none_iff :
    userRoot o m_userArea d = none ↔ ¬∃ a, d.UserArea m_userArea a := by
  rw [Option.eq_none_iff_forall_ne_some, not_exists]
  exact forall_congr' fun a => not_congr userRoot_iff

/-- The areas the recursion starts from. -/
private def topRows (o : MapOrder) (m_userArea : String) (d : TreeData) : List TreeRow :=
  match userRoot o m_userArea d with
  | some r => [.area r]
  | none => areasBelow o d PARENTFLAG

private theorem mem_topRows {n : TreeRow} :
    n ∈ topRows o m_userArea d ↔ ∃ a, d.TopArea m_userArea a ∧ n = .area a := by
  -- the user's area if there is one, else the areas of the root
  rw [topRows]
  split
  next r h =>
    have hr := userRoot_iff.1 h
    rw [List.mem_singleton]
    constructor
    · rintro rfl
      exact ⟨r, .inl hr, rfl⟩
    · rintro ⟨a, ha | ⟨hnone, -⟩, rfl⟩
      · rw [Table.eq_of_Id_eq ha.2.1 hr.2.1 (ha.2.2.trans hr.2.2.symm)]
      · exact absurd ⟨r, hr⟩ hnone
  next h =>
    have hnone := userRoot_none_iff.1 h
    rw [mem_areasBelow]
    constructor
    · rintro ⟨a, ha, hparent, rfl⟩
      exact ⟨a, .inr ⟨hnone, ha, hparent⟩, rfl⟩
    · rintro ⟨a, ha | ⟨-, ha, hparent⟩, rfl⟩
      · exact absurd ⟨a, ha⟩ hnone
      · exact ⟨a, ha, hparent, rfl⟩

theorem TreeData.TopArea.mem {a : SqlRow AreasCol} (h : d.TopArea m_userArea a) : a ∈ d.areas := by
  rcases h with h | h
  · exact h.2.1
  · exact h.2.1

theorem TreeData.InTree.mem {a : SqlRow AreasCol} (h : d.InTree m_userArea a) : a ∈ d.areas := by
  obtain ⟨top, htop, hchain⟩ := h
  exact mem_of_parents hchain htop.mem

theorem TreeData.InTree.trans {a b : SqlRow AreasCol} (h : d.InTree m_userArea b)
    (hchain : d.AreaChain b a) : d.InTree m_userArea a := by
  obtain ⟨top, htop, habove⟩ := h
  exact ⟨top, htop, habove.trans hchain⟩

theorem TreeData.AboveDevice.attached {b : SqlRow AreasCol} {r : SqlRow DeviceInfoCol}
    (h : d.AboveDevice m_userArea b r) : d.Attached m_userArea r := by
  rcases h with ⟨hr, ⟨hless, -⟩ | ⟨-, hb, a, hchain, hId⟩⟩
  · exact ⟨hr, .inl hless⟩
  · exact ⟨hr, .inr ⟨a, hb.trans hchain, hId⟩⟩

/-- The nodes of the areas, with the root among them if it is an area, are grown from the top
areas. -/
private theorem grow_areas {areas : Forest TreeRow}
    (h : createDeleteTreeStructAreasC o d (rootID o m_userArea d) = some areas) :
    ∃ fuel, Forest.grow (rowsBelow o d) fuel (topRows o m_userArea d) =
      some (deleteNodes o m_userArea d areas) := by
  rw [rootID] at h
  rw [topRows, deleteNodes]
  cases hroot : userRoot o m_userArea d with
  | none =>
    rw [hroot] at h
    exact ⟨d.fuel, h⟩
  | some r =>
    rw [hroot] at h
    refine ⟨d.fuel + 1, ?_⟩
    have hchild : Forest.grow (rowsBelow o d) d.fuel (rowsBelow o d (.area r)) = some areas := h
    rw [Forest.grow, Forest.growAll, hchild]
    rfl

private theorem mem_areas {areas : Forest TreeRow}
    (h : createDeleteTreeStructAreasC o d (rootID o m_userArea d) = some areas) {n : TreeRow} :
    (deleteNodes o m_userArea d areas).Mem n ↔ ∃ a, d.InTree m_userArea a ∧ n = .area a := by
  obtain ⟨fuel, hgrow⟩ := grow_areas h
  rw [Forest.mem_grow hgrow]
  constructor
  · rintro ⟨v, hv, hdesc⟩
    obtain ⟨top, htop, rfl⟩ := mem_topRows.1 hv
    obtain ⟨a, hchain, rfl⟩ := (desc_area htop.mem).1 hdesc
    exact ⟨a, ⟨top, htop, hchain⟩, rfl⟩
  · rintro ⟨a, ⟨top, htop, hchain⟩, rfl⟩
    exact ⟨_, mem_topRows.2 ⟨top, htop, rfl⟩, (desc_area htop.mem).2 ⟨a, hchain, rfl⟩⟩

private theorem under_areas {areas : Forest TreeRow}
    (h : createDeleteTreeStructAreasC o d (rootID o m_userArea d) = some areas) {n n' : TreeRow} :
    (deleteNodes o m_userArea d areas).Under n n' ↔
      ∃ b a, d.InTree m_userArea b ∧ d.AreaChain b a ∧ n = .area b ∧ n' = .area a := by
  obtain ⟨fuel, hgrow⟩ := grow_areas h
  rw [Forest.under_grow hgrow, mem_areas h]
  constructor
  · rintro ⟨⟨b, hb, rfl⟩, hdesc⟩
    obtain ⟨a, hchain, rfl⟩ := (desc_area hb.mem).1 hdesc
    exact ⟨b, a, hb, hchain, rfl, rfl⟩
  · rintro ⟨b, a, hb, hchain, rfl, rfl⟩
    exact ⟨⟨b, hb, rfl⟩, (desc_area hb.mem).2 ⟨a, hchain, rfl⟩⟩

/-- The root devices that go behind the children of the root. -/
def BehindRoot (o : MapOrder) (m_userArea : String) (d : TreeData)
    (r : SqlRow DeviceInfoCol) : Prop :=
  AreaLess r ∨ ∃ a, userRoot o m_userArea d = some a ∧ a.Id = (r.col .AreaId).read

/-- One root device of the delete tree. -/
theorem attachDevice_placed {t' : Forest TreeRow} {r : SqlRow DeviceInfoCol}
    (h : attachDevice o m_userArea d t r = some t') :
    Placed o d (BehindRoot o m_userArea d) t r t' := by
  rw [attachDevice] at h
  -- past both tests the device is not behind the root
  have hnot : ∀ hless : ¬((r.col .AreaId).read = PARENTFLAG ∨ (r.col .AreaId).read = ""),
      ∀ hroot : ¬((userRoot o m_userArea d).any fun a => a.Id == (r.col .AreaId).read) = true,
      ¬BehindRoot o m_userArea d r := by
    rintro hless hroot (hbehind | ⟨a, ha, hId⟩)
    · exact hless hbehind
    · exact hroot (by simp [ha, hId])
  split at h
  next hless =>
    obtain ⟨c, hc, heq⟩ := Option.bind_eq_some_iff.1 h
    cases heq
    exact .behind (.inl hless) hc
  next hless =>
    split at h
    next hroot =>
      obtain ⟨c, hc, heq⟩ := Option.bind_eq_some_iff.1 h
      cases heq
      obtain ⟨a, ha, hId⟩ := (Option.any_eq_true _ _).1 hroot
      exact .behind (.inr ⟨a, ha, by simpa using hId⟩) hc
    next hroot =>
      split at h
      next hany =>
        obtain ⟨c, hc, heq⟩ := Option.bind_eq_some_iff.1 h
        cases heq
        exact .under (hnot hless hroot) (any_isArea_iff.1 hany) hc
      next hany =>
        cases h
        exact .skipped (hnot hless hroot) fun harea => hany (any_isArea_iff.2 harea)

private theorem mem_deleteNodes {n : TreeRow} :
    (deleteNodes o m_userArea d t).Mem n ↔
      (∃ q, userRoot o m_userArea d = some q ∧ n = .area q) ∨ t.Mem n := by
  rw [deleteNodes]
  cases userRoot o m_userArea d with
  | none => simp
  | some q => simp

private theorem under_deleteNodes {a n : TreeRow} :
    (deleteNodes o m_userArea d t).Under a n ↔
      (∃ q, userRoot o m_userArea d = some q ∧ a = .area q ∧ (n = .area q ∨ t.Mem n)) ∨
        t.Under a n := by
  rw [deleteNodes]
  cases userRoot o m_userArea d with
  | none => simp
  | some q => simp

/-- No area goes where the root is. -/
private theorem root_not_below {areas : Forest TreeRow}
    (h : createDeleteTreeStructAreasC o d (rootID o m_userArea d) = some areas)
    {q : SqlRow AreasCol} (hq : userRoot o m_userArea d = some q) : ¬areas.Mem (.area q) := by
  intro hmem
  obtain ⟨fuel, hgrow⟩ := grow_areas h
  have hq' : (deleteNodes o m_userArea d areas).Mem (.area q) :=
    mem_deleteNodes.2 (.inl ⟨q, hq, rfl⟩)
  rw [rootID, hq] at h
  obtain ⟨v, hv, hdesc⟩ := (Forest.mem_grow h).1 hmem
  exact Forest.acyclic_of_grow hgrow hq' (Relation.TransGen.head' hv hdesc)

/-- `deleteForest`: the areas first, then the root devices. -/
theorem of_deleteForest (h : deleteForest o m_userArea d = some t) :
    ∃ areas, createDeleteTreeStructAreasC o d (rootID o m_userArea d) = some areas ∧
      (rootDevices o d).foldlM (attachDevice o m_userArea d) areas = some t :=
  Option.bind_eq_some_iff.1 h

/-- The user's area is not below itself in a tree that was built. -/
theorem userArea_acyclic (h : deleteForest o m_userArea d = some t) {q z : SqlRow AreasCol}
    (hq : d.UserArea m_userArea q) (hchain : d.AreaChain q z) (hback : d.AreaChain z q) :
    z = q := by
  obtain ⟨areas, hareas, -⟩ := of_deleteForest h
  have hroot : userRoot o m_userArea d = some q := userRoot_iff.2 hq
  rcases Relation.ReflTransGen.cases_head hchain with heq | ⟨c, hparent, hbelow⟩
  · exact heq.symm
  · refine absurd ?_ (root_not_below hareas hroot)
    rw [rootID, hroot] at hareas
    exact (Forest.mem_grow hareas).2 ⟨.area c,
      mem_areasBelow.2 ⟨c, hparent.2.1, hparent.2.2, rfl⟩,
      (desc_area hparent.2.1).2 ⟨q, hbelow.trans hback, rfl⟩⟩

/-- A root device is placed if it is attached. -/
theorem attached_iff {areas : Forest TreeRow}
    (h : createDeleteTreeStructAreasC o d (rootID o m_userArea d) = some areas)
    {r : SqlRow DeviceInfoCol} (hr : d.RootDevice r) :
    (BehindRoot o m_userArea d r ∨ HasArea areas r) ↔ d.Attached m_userArea r := by
  have hin : ∀ a, d.InTree m_userArea a ↔
      userRoot o m_userArea d = some a ∨ areas.Mem (.area a) := by
    intro a
    have hmem := (mem_areas h (n := .area a)).symm.trans mem_deleteNodes
    simpa using hmem
  simp only [TreeData.Attached, hr, true_and, BehindRoot, HasArea, hin, or_and_right, exists_or,
    or_assoc]

/-- **The nodes of the delete tree**: those of the areas, and those at or below an attached
root device. -/
theorem mem_deleteForest (h : deleteForest o m_userArea d = some t) {n : TreeRow} :
    (deleteNodes o m_userArea d t).Mem n ↔ (∃ a, d.InTree m_userArea a ∧ n = .area a) ∨
      ∃ r x, d.Attached m_userArea r ∧ d.DeviceChain r x ∧ n = .device x := by
  obtain ⟨areas, hareas, hfold⟩ := of_deleteForest h
  rw [mem_deleteNodes, mem_foldlM (fun _ _ _ => attachDevice_placed)
    (fun r hr => mem_rootDevices.1 hr) hfold, ← or_assoc, ← mem_deleteNodes, mem_areas hareas]
  refine or_congr_right (exists_congr fun r => ?_)
  rw [mem_rootDevices]
  constructor
  · rintro ⟨hr, hplaced, hdesc⟩
    obtain ⟨x, hchain, rfl⟩ := (desc_device hr.1).1 hdesc
    exact ⟨x, (attached_iff hareas hr).1 hplaced, hchain, rfl⟩
  · rintro ⟨x, hattached, hchain, rfl⟩
    have hr := hattached.1
    exact ⟨hr, (attached_iff hareas hr).2 hattached, (desc_device hr.1).2 ⟨x, hchain, rfl⟩⟩

/-- What the node `n` has to be for the root device `r` to be placed below it. -/
private theorem above_iff {areas : Forest TreeRow}
    (h : createDeleteTreeStructAreasC o d (rootID o m_userArea d) = some areas)
    {r : SqlRow DeviceInfoCol} (hr : d.RootDevice r) {n : TreeRow} :
    ((∃ q, userRoot o m_userArea d = some q ∧ n = .area q) ∧ d.Attached m_userArea r) ∨
        (¬BehindRoot o m_userArea d r ∧
          ∃ a, areas.Under n (.area a) ∧ a.Id = (r.col .AreaId).read) ↔
      ∃ b, d.AboveDevice m_userArea b r ∧ n = .area b := by
  -- above an area stand the root and the areas below it
  have hunder : ∀ a, (∃ b, d.InTree m_userArea b ∧ d.AreaChain b a ∧ n = .area b) ↔
      (∃ q, userRoot o m_userArea d = some q ∧ n = .area q ∧
        (a = q ∨ areas.Mem (.area a))) ∨ areas.Under n (.area a) := by
    intro a
    have hareas : (deleteNodes o m_userArea d areas).Under n (.area a) ↔ _ := under_areas h
    rw [under_deleteNodes] at hareas
    simpa using hareas.symm
  constructor
  · rintro (⟨⟨q, hq, rfl⟩, hattached⟩ | ⟨hbehind, a, ha, hId⟩)
    · refine ⟨q, ⟨hr, ?_⟩, rfl⟩
      by_cases hless : AreaLess r
      · exact .inl ⟨hless, userRoot_iff.1 hq⟩
      · -- the root is above every area of the tree
        obtain ⟨a, ha, hId⟩ := hattached.2.resolve_left hless
        have hmem := mem_deleteNodes.1 ((mem_areas h).2 ⟨a, ha, rfl⟩)
        simp only [hq, Option.some_inj, TreeRow.area.injEq, exists_eq_left'] at hmem
        obtain ⟨b, hb, hchain, heq⟩ := (hunder a).2 (.inl ⟨q, hq, rfl, hmem⟩)
        cases heq
        exact .inr ⟨hless, hb, a, hchain, hId⟩
    · obtain ⟨b, hb, hchain, rfl⟩ := (hunder a).2 (.inr ha)
      exact ⟨b, ⟨hr, .inr ⟨fun hless => hbehind (.inl hless), hb, a, hchain, hId⟩⟩, rfl⟩
  · rintro ⟨b, ⟨-, ⟨hless, huser⟩ | ⟨hless, hb, a, hchain, hId⟩⟩, rfl⟩
    · exact .inl ⟨⟨b, userRoot_iff.2 huser, rfl⟩, hr, .inl hless⟩
    · -- the root itself is above it, or an area below the root is
      rcases (hunder a).1 ⟨b, hb, hchain, rfl⟩ with ⟨q, hq, heq, -⟩ | hbelow
      · exact .inl ⟨⟨q, hq, heq⟩, hr, .inr ⟨a, hb.trans hchain, hId⟩⟩
      · refine .inr ⟨?_, a, hbelow, hId⟩
        rintro (hbehind | ⟨q, hq, hqId⟩)
        · exact hless hbehind
        · have hqa : q = a := Table.eq_of_Id_eq (userRoot_iff.1 hq).2.1 (hb.trans hchain).mem
            (hqId.trans hId.symm)
          exact root_not_below h hq (hqa ▸ hbelow.mem_right)

/-- No two root devices of a tree that was built are above the same device. -/
theorem attached_unique (h : deleteForest o m_userArea d = some t)
    {r r' x : SqlRow DeviceInfoCol} (hr : d.Attached m_userArea r) (hr' : d.Attached m_userArea r')
    (hchain : d.DeviceChain r x) (hchain' : d.DeviceChain r' x) : r = r' := by
  obtain ⟨areas, hareas, hfold⟩ := of_deleteForest h
  -- a root device below another would be below the device with the id that means no parent, and
  -- so would be the other
  have hnot : ∀ {r r'}, d.Attached m_userArea r → d.Attached m_userArea r' →
      d.DeviceChain r r' → r = r' := by
    intro r r' hr hr' habove
    rcases Relation.ReflTransGen.cases_tail habove with heq | ⟨c, hc, hlast⟩
    · exact heq.symm
    · obtain ⟨node, hnode⟩ := deviceNode_of_foldlM (fun _ _ _ => attachDevice_placed)
        (fun r hr => mem_rootDevices.1 hr) hfold (mem_rootDevices.2 hr.1)
        ((attached_iff hareas hr.1).2 hr)
      obtain ⟨child, hchild, -⟩ := Option.bind_eq_some_iff.1 hnode
      have hdesc : Forest.Desc (rowsBelow o d) (.device r) (.device c) :=
        (desc_device hr.1.1).2 ⟨c, hc, rfl⟩
      have hback : TreeRow.device r ∈ rowsBelow o d (.device c) :=
        mem_devicesBelow.2 ⟨r, hr.1.1, hr.1.2.trans (hr'.1.2.symm.trans hlast.2.2), rfl⟩
      have hcycle := Relation.TransGen.tail' hdesc hback
      obtain ⟨w, hw, hbelow⟩ := Relation.TransGen.head'_iff.1 hcycle
      have hmem := (Forest.mem_grow hchild).2 ⟨w, hw, hbelow⟩
      exact absurd hcycle (Forest.acyclic_of_grow hchild hmem)
  rcases parents_total hchain hchain' with habove | habove
  · exact hnot hr hr' habove
  · exact (hnot hr' hr habove).symm

section Placed

variable {areas : Forest TreeRow}
  (hareas : createDeleteTreeStructAreasC o d (rootID o m_userArea d) = some areas)

include hareas

/-- Devices below devices, from the placed root devices. -/
private theorem devices_iff {n n' : TreeRow} :
    (∃ r ∈ rootDevices o d, (BehindRoot o m_userArea d r ∨ HasArea areas r) ∧
      Forest.Desc (rowsBelow o d) (.device r) n ∧ Forest.Desc (rowsBelow o d) n n') ↔
    ∃ r y x, d.Attached m_userArea r ∧ d.DeviceChain r y ∧ d.DeviceChain y x ∧
      n = .device y ∧ n' = .device x := by
  refine exists_congr fun r => ?_
  rw [mem_rootDevices]
  constructor
  · rintro ⟨hr, hplaced, hdesc, hdesc'⟩
    obtain ⟨y, hchain, rfl⟩ := (desc_device hr.1).1 hdesc
    obtain ⟨x, hchain', rfl⟩ := (desc_device (mem_of_parents hchain hr.1)).1 hdesc'
    exact ⟨y, x, (attached_iff hareas hr).1 hplaced, hchain, hchain', rfl, rfl⟩
  · rintro ⟨y, x, hattached, hchain, hchain', rfl, rfl⟩
    have hr := hattached.1
    exact ⟨hr, (attached_iff hareas hr).2 hattached, (desc_device hr.1).2 ⟨y, hchain, rfl⟩,
      (desc_device (mem_of_parents hchain hr.1)).2 ⟨x, hchain', rfl⟩⟩

/-- Devices below areas, from the placed root devices. -/
private theorem devices_below_iff {n n' : TreeRow} :
    (∃ q, userRoot o m_userArea d = some q ∧ n = .area q ∧ ∃ r ∈ rootDevices o d,
        (BehindRoot o m_userArea d r ∨ HasArea areas r) ∧
          Forest.Desc (rowsBelow o d) (.device r) n') ∨
      (∃ r ∈ rootDevices o d, ¬BehindRoot o m_userArea d r ∧
        (∃ b, areas.Under n (.area b) ∧ b.Id = (r.col .AreaId).read) ∧
          Forest.Desc (rowsBelow o d) (.device r) n') ↔
    ∃ b r x, d.AboveDevice m_userArea b r ∧ d.DeviceChain r x ∧ n = .area b ∧ n' = .device x := by
  constructor
  · -- below the root, or below an area of the tree
    rintro (⟨q, hq, rfl, r, hmem, hplaced, hdesc⟩ | ⟨r, hmem, hbehind, hunder, hdesc⟩)
    · have hr := mem_rootDevices.1 hmem
      obtain ⟨x, hchain, rfl⟩ := (desc_device hr.1).1 hdesc
      obtain ⟨b, hb, heq⟩ := (above_iff hareas hr).1
        (.inl ⟨⟨q, hq, rfl⟩, (attached_iff hareas hr).1 hplaced⟩)
      exact ⟨b, r, x, hb, hchain, heq, rfl⟩
    · have hr := mem_rootDevices.1 hmem
      obtain ⟨x, hchain, rfl⟩ := (desc_device hr.1).1 hdesc
      obtain ⟨b, hb, heq⟩ := (above_iff hareas hr).1 (.inr ⟨hbehind, hunder⟩)
      exact ⟨b, r, x, hb, hchain, heq, rfl⟩
  · rintro ⟨b, r, x, hb, hchain, rfl, rfl⟩
    have hr := hb.1
    have hmem : r ∈ rootDevices o d := mem_rootDevices.2 hr
    have hdesc : Forest.Desc (rowsBelow o d) (.device r) (.device x) :=
      (desc_device hr.1).2 ⟨x, hchain, rfl⟩
    rcases (above_iff hareas hr).2 ⟨b, hb, rfl⟩ with ⟨⟨q, hq, heq⟩, hattached⟩ | ⟨hbehind, hunder⟩
    · exact .inl ⟨q, hq, heq, r, hmem, (attached_iff hareas hr).2 hattached, hdesc⟩
    · exact .inr ⟨r, hmem, hbehind, hunder, hdesc⟩

end Placed

/-- **What is below what** in the delete tree: areas below areas, devices below devices, and
devices below the areas above their root device. -/
theorem under_deleteForest (h : deleteForest o m_userArea d = some t) {n n' : TreeRow} :
    (deleteNodes o m_userArea d t).Under n n' ↔
      (∃ b a, d.InTree m_userArea b ∧ d.AreaChain b a ∧ n = .area b ∧ n' = .area a) ∨
      (∃ r y x, d.Attached m_userArea r ∧ d.DeviceChain r y ∧ d.DeviceChain y x ∧
        n = .device y ∧ n' = .device x) ∨
      ∃ b r x, d.AboveDevice m_userArea b r ∧ d.DeviceChain r x ∧
        n = .area b ∧ n' = .device x := by
  obtain ⟨areas, hareas, hfold⟩ := of_deleteForest h
  rw [← devices_below_iff hareas, ← devices_iff hareas, ← under_areas hareas, under_deleteNodes,
    under_deleteNodes, under_foldlM (fun _ _ _ => attachDevice_placed)
      (fun r hr => mem_rootDevices.1 hr) hfold, mem_foldlM (fun _ _ _ => attachDevice_placed)
      (fun r hr => mem_rootDevices.1 hr) hfold]
  simp only [and_or_left, exists_or]
  grind

end DeleteNodes

end MtpSync
