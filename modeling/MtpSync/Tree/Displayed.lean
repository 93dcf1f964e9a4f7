import MtpSync.Tree.UserArea

/-!
# The tree that is shown and the tree that is deleted from

The tree control leaves deleted rows out before it is built; `m_deleteTree` takes all rows in and
flags those.  What is shown should be what is in the delete tree and neither flagged nor below
something flagged.  It is, but for devices without an area and for users whose area is missing.

- §1 the items of the tree control
- §2 the unflagged part of the delete tree
- §3 chains among the rows shown
- §4 when the two agree
-/

namespace MtpSync

/-! ## §1 The items of the tree control -/

/-- An area inserted at the top. -/
def TreeData.ShownTop (d : TreeData) (m_userArea : String) (a : SqlRow AreasCol) : Prop :=
  a ∈ d.areas ∧
    if m_userArea ≠ "" then a.Id = m_userArea else (a.col .ParentId).read = PARENTFLAG

section Items

variable {o : MapOrder} {m_userArea : String} {d : TreeData} {items : Forest TreeRow}

/-- The areas inserted at the top, by their rows. -/
theorem mem_topAreas {n : TreeRow} :
    n ∈ topAreas o m_userArea d ↔ ∃ a, d.ShownTop m_userArea a ∧ n = .area a := by
  rw [topAreas]
  simp only [TreeData.ShownTop]
  split
  · simp only [List.mem_map, List.mem_filter, MapOrder.mem_walk, beq_iff_eq, eq_comm (b := n)]
  · simp only [mem_areasBelow, and_assoc]

/-- One root device of the tree control. -/
theorem showDevice_placed {t t' : Forest TreeRow} {r : SqlRow DeviceInfoCol}
    (h : showDevice o d t r = some t') :
    Placed o d (fun r => (r.col .AreaId).read = "") t r t' := by
  rw [showDevice] at h
  split at h
  next hne =>
    split at h
    next hany =>
      obtain ⟨c, hc, heq⟩ := Option.bind_eq_some_iff.1 h
      cases heq
      exact .under hne (any_isArea_iff.1 hany) hc
    next hany =>
      cases h
      exact .skipped hne fun harea => hany (any_isArea_iff.2 harea)
  next hempty =>
    obtain ⟨c, hc, heq⟩ := Option.bind_eq_some_iff.1 h
    cases heq
    exact .behind (not_not.1 hempty) hc

/-- The areas shown: those below one inserted at the top. -/
theorem mem_items_area (h : treeItems o m_userArea d = some items) {a : SqlRow AreasCol} :
    items.Mem (.area a) ↔ ∃ top, d.ShownTop m_userArea top ∧ d.AreaChain top a := by
  obtain ⟨areas, hareas, hfold⟩ := Option.bind_eq_some_iff.1 h
  rw [mem_foldlM (fun _ _ _ => showDevice_placed) (fun r hr => mem_rootDevices.1 hr) hfold,
    Forest.mem_grow hareas]
  constructor
  · rintro (⟨v, hv, hdesc⟩ | ⟨r, hr, -, hdesc⟩)
    · obtain ⟨top, htop, rfl⟩ := mem_topAreas.1 hv
      obtain ⟨b, hchain, heq⟩ := (desc_area htop.1).1 hdesc
      cases heq
      exact ⟨top, htop, hchain⟩
    · exact absurd hdesc (not_desc_area (mem_rootDevices.1 hr))
  · rintro ⟨top, htop, hchain⟩
    exact .inl ⟨_, mem_topAreas.2 ⟨top, htop, rfl⟩, (desc_area htop.1).2 ⟨a, hchain, rfl⟩⟩

/-- The devices shown: those below a root device without an area, or of an area shown. -/
theorem mem_items_device (h : treeItems o m_userArea d = some items)
    {x : SqlRow DeviceInfoCol} :
    items.Mem (.device x) ↔ ∃ r, d.RootDevice r ∧ d.DeviceChain r x ∧
      ((r.col .AreaId).read = "" ∨
        ∃ a, items.Mem (.area a) ∧ a.Id = (r.col .AreaId).read) := by
  obtain ⟨areas, hareas, hfold⟩ := Option.bind_eq_some_iff.1 h
  have hplaced : ∀ t r t', showDevice o d t r = some t' →
      Placed o d (fun r => (r.col .AreaId).read = "") t r t' := fun _ _ _ => showDevice_placed
  have hroots : ∀ r ∈ rootDevices o d, d.RootDevice r := fun r hr => mem_rootDevices.1 hr
  -- hanging up devices adds no area
  have hareaMem : ∀ a, items.Mem (.area a) ↔ areas.Mem (.area a) := by
    intro a
    rw [mem_foldlM hplaced hroots hfold]
    constructor
    · rintro (hmem | ⟨r, hr, -, hdesc⟩)
      · exact hmem
      · exact absurd hdesc (not_desc_area (mem_rootDevices.1 hr))
    · exact .inl
  simp only [hareaMem]
  rw [mem_foldlM hplaced hroots hfold]
  constructor
  · rintro (hmem | ⟨r, hr, hcases, hdesc⟩)
    · obtain ⟨v, hv, hdesc⟩ := (Forest.mem_grow hareas).1 hmem
      obtain ⟨top, htop, rfl⟩ := mem_topAreas.1 hv
      obtain ⟨b, -, heq⟩ := (desc_area htop.1).1 hdesc
      cases heq
    · have hroot := mem_rootDevices.1 hr
      obtain ⟨y, hchain, heq⟩ := (desc_device hroot.1).1 hdesc
      cases heq
      exact ⟨r, hroot, hchain, hcases⟩
  · rintro ⟨r, hroot, hchain, hcases⟩
    exact .inr ⟨r, mem_rootDevices.2 hroot, hcases, (desc_device hroot.1).2 ⟨x, hchain, rfl⟩⟩

end Items

/-! ## §2 The unflagged part of the delete tree -/

/-- The tree has a node of the type `k` with the id `i`. -/
def DeleteTree.Mem : DeleteTree → DeleteType → String → Prop
  | .nullptr, _, _ => False
  | .node m_strID m_typeFlag _ _ child sibling, k, i =>
    (m_typeFlag = k ∧ m_strID = i) ∨ child.Mem k i ∨ sibling.Mem k i

/-- Some node at or above such a node is flagged. -/
def DeleteTree.FlaggedAbove : DeleteTree → DeleteType → String → Prop
  | .nullptr, _, _ => False
  | .node m_strID m_typeFlag m_deleteFlag _ child sibling, k, i =>
    (m_deleteFlag = true ∧ ((m_typeFlag = k ∧ m_strID = i) ∨ child.Mem k i)) ∨
      child.FlaggedAbove k i ∨ sibling.FlaggedAbove k i

theorem mem_ofForest {t : Forest TreeRow} {k : DeleteType} {i : String} :
    (DeleteTree.ofForest t).Mem k i ↔ ∃ n, t.Mem n ∧ n.Is k i := by
  induction t with
  | nil => simp [DeleteTree.ofForest, DeleteTree.Mem]
  | node v child sibling ihc ihs =>
    simp only [DeleteTree.ofForest, DeleteTree.Mem, ihc, ihs, Forest.mem_node, or_and_right,
      exists_or, exists_eq_left, TreeRow.Is]

theorem TreeRow.deleteFlag_iff {n : TreeRow} :
    n.m_deleteFlag = true ↔
      n.m_strDeleteFlag = DELETEFLAG ∨ n.m_strDeleteFlag = DELETEFLAG_WANT := by
  rw [TreeRow.m_deleteFlag, Bool.or_eq_true, beq_iff_eq, beq_iff_eq]

theorem flaggedAbove_ofForest {t : Forest TreeRow} {k : DeleteType} {i : String} :
    (DeleteTree.ofForest t).FlaggedAbove k i ↔
      ∃ a n, t.Under a n ∧ a.m_deleteFlag = true ∧ n.Is k i := by
  induction t with
  | nil => simp [DeleteTree.ofForest, DeleteTree.FlaggedAbove]
  | node v child sibling ihc ihs =>
    rw [DeleteTree.ofForest, DeleteTree.FlaggedAbove, ihc, ihs, mem_ofForest]
    constructor
    · rintro (⟨hflag, hIs | ⟨n, hn, hIs⟩⟩ | ⟨a, n, hunder, hflag, hIs⟩ |
        ⟨a, n, hunder, hflag, hIs⟩)
      · exact ⟨v, v, .inl ⟨rfl, .inl rfl⟩, hflag, hIs⟩
      · exact ⟨v, n, .inl ⟨rfl, .inr hn⟩, hflag, hIs⟩
      · exact ⟨a, n, .inr (.inl hunder), hflag, hIs⟩
      · exact ⟨a, n, .inr (.inr hunder), hflag, hIs⟩
    · rintro ⟨a, n, ⟨rfl, rfl | hn⟩ | hunder | hunder, hflag, hIs⟩
      · exact .inl ⟨hflag, .inl hIs⟩
      · exact .inl ⟨hflag, .inr ⟨n, hn, hIs⟩⟩
      · exact .inr (.inl ⟨a, n, hunder, hflag, hIs⟩)
      · exact .inr (.inr ⟨a, n, hunder, hflag, hIs⟩)

/-- An area of the delete tree with nothing marked at or above it. -/
def TreeData.CleanArea (d : TreeData) (m_userArea : String) (a : SqlRow AreasCol) : Prop :=
  d.InTree m_userArea a ∧
    ∀ b, d.InTree m_userArea b → d.AreaChain b a → ¬IsMarked (b.col .SynchronState)

/-- A device of the delete tree with nothing marked at or above it. -/
def TreeData.CleanDevice (d : TreeData) (m_userArea : String) (x : SqlRow DeviceInfoCol) : Prop :=
  ∃ r, d.Attached m_userArea r ∧ d.DeviceChain r x ∧
    (∀ y, d.DeviceChain r y → d.DeviceChain y x → ¬IsMarked (y.col .SynchronState)) ∧
    ∀ b, d.AboveDevice m_userArea b r → ¬IsMarked (b.col .SynchronState)

section Clean

variable {o : MapOrder} {m_userArea : String} {d : TreeData} {tree : DeleteTree}

/-- The nodes of `m_deleteTree` that stand for rows, and what is flagged above them. -/
private theorem nodes_of_deleteTree (h : initDeleteTreeStruct o m_userArea d = some tree) :
    ∃ t, deleteForest o m_userArea d = some t ∧ ∀ k i, k ≠ .root →
      (tree.Mem k i ↔ ∃ n, (deleteNodes o m_userArea d t).Mem n ∧ n.Is k i) ∧
      (tree.FlaggedAbove k i ↔ ∃ a n, (deleteNodes o m_userArea d t).Under a n ∧
        a.m_deleteFlag = true ∧ n.Is k i) := by
  obtain ⟨t, ht, hcases⟩ := of_initDeleteTreeStruct h
  refine ⟨t, ht, fun k i hk => ?_⟩
  rw [← mem_ofForest, ← flaggedAbove_ofForest]
  rcases hcases with rfl | rfl
  · exact ⟨Iff.rfl, Iff.rfl⟩
  · simp [DeleteTree.Mem, DeleteTree.FlaggedAbove, hk.symm]

/-- The unflagged areas of `m_deleteTree`. -/
theorem clean_area_iff (h : initDeleteTreeStruct o m_userArea d = some tree) {i : String} :
    tree.Mem .delete_type_areas i ∧ ¬tree.FlaggedAbove .delete_type_areas i ↔
      ∃ a, a.Id = i ∧ d.CleanArea m_userArea a := by
  obtain ⟨t, ht, hnodes⟩ := nodes_of_deleteTree h
  obtain ⟨hmem, hflagged⟩ := hnodes .delete_type_areas i (by decide)
  rw [hmem, hflagged]
  simp only [mem_deleteForest ht, under_deleteForest ht, TreeRow.deleteFlag_iff]
  constructor
  · rintro ⟨⟨n, ⟨a, ha, rfl⟩ | ⟨r, x, -, -, rfl⟩, hIs⟩, hnone⟩
    · refine ⟨a, hIs.2, ha, fun b hb hchain hmarked => hnone ?_⟩
      exact ⟨_, _, .inl ⟨b, a, hb, hchain, rfl, rfl⟩, hmarked, hIs⟩
    · cases hIs.1
  · rintro ⟨a, hId, ha, hclean⟩
    refine ⟨⟨_, .inl ⟨a, ha, rfl⟩, rfl, hId⟩, ?_⟩
    rintro ⟨_, _, ⟨b, a', hb, hchain, rfl, rfl⟩ | ⟨_, _, _, _, _, _, _, rfl⟩ |
      ⟨_, _, _, _, _, _, rfl⟩, hmarked, hIs⟩
    · have heq : a' = a := Table.eq_of_Id_eq (hb.trans hchain).mem ha.mem (hIs.2.trans hId.symm)
      exact hclean b hb (heq ▸ hchain) hmarked
    · cases hIs.1
    · cases hIs.1

/-- The unflagged devices of `m_deleteTree`. -/
theorem clean_device_iff (h : initDeleteTreeStruct o m_userArea d = some tree) {i : String} :
    tree.Mem .delete_type_devices i ∧ ¬tree.FlaggedAbove .delete_type_devices i ↔
      ∃ x, x.Id = i ∧ d.CleanDevice m_userArea x := by
  obtain ⟨t, ht, hnodes⟩ := nodes_of_deleteTree h
  obtain ⟨hmem, hflagged⟩ := hnodes .delete_type_devices i (by decide)
  rw [hmem, hflagged]
  simp only [mem_deleteForest ht, under_deleteForest ht, TreeRow.deleteFlag_iff]
  constructor
  · rintro ⟨⟨n, ⟨a, -, rfl⟩ | ⟨r, x, hr, hchain, rfl⟩, hIs⟩, hnone⟩
    · cases hIs.1
    · refine ⟨x, hIs.2, r, hr, hchain, fun y hy hy' hmarked => hnone ?_,
        fun b hb hmarked => hnone ?_⟩
      · exact ⟨_, _, .inr (.inl ⟨r, y, x, hr, hy, hy', rfl, rfl⟩), hmarked, hIs⟩
      · exact ⟨_, _, .inr (.inr ⟨b, r, x, hb, hchain, rfl, rfl⟩), hmarked, hIs⟩
  · rintro ⟨x, hId, r, hr, hchain, hdevices, hareas⟩
    refine ⟨⟨_, .inr ⟨r, x, hr, hchain, rfl⟩, rfl, hId⟩, ?_⟩
    -- a device is below one root device only
    rintro ⟨_, _, ⟨_, _, _, _, _, rfl⟩ | ⟨r', y, x', hr', hy, hy', rfl, rfl⟩ |
      ⟨b, r', x', hb, hchain', rfl, rfl⟩, hmarked, hIs⟩
    · cases hIs.1
    · have hx : x' = x := Table.eq_of_Id_eq (mem_of_parents (hy.trans hy') hr'.1.1)
        (mem_of_parents hchain hr.1.1) (hIs.2.trans hId.symm)
      subst hx
      have heq := attached_unique ht hr' hr (hy.trans hy') hchain
      subst heq
      exact hdevices y hy hy' hmarked
    · have hx : x' = x := Table.eq_of_Id_eq (mem_of_parents hchain' hb.1.1)
        (mem_of_parents hchain hr.1.1) (hIs.2.trans hId.symm)
      subst hx
      have heq := attached_unique ht hb.attached hr hchain' hchain
      subst heq
      exact hareas b hb hmarked

end Clean

/-! ## §3 Chains among the rows shown -/

/-- A chain among the rows that are left is a chain all of whose rows are left. -/
private theorem chain_left {C : Type} {t t' : SqlTable C} {c : C} {p : SqlRow C → Prop}
    (hleft : ∀ r, r ∈ t' ↔ r ∈ t ∧ p r) {x y : SqlRow C} (hx : x ∈ t)
    (htop : ∀ z, Relation.ReflTransGen (ParentIn t c) x z →
      Relation.ReflTransGen (ParentIn t c) z x → z = x) :
    x ∈ t' ∧ Relation.ReflTransGen (ParentIn t' c) x y ↔
      Relation.ReflTransGen (ParentIn t c) x y ∧
        ∀ z, Relation.ReflTransGen (ParentIn t c) x z →
          Relation.ReflTransGen (ParentIn t c) z y → p z := by
  constructor
  · -- the chain lies in both tables, and each of its rows is one that was left
    rintro ⟨hx', h⟩
    induction h with
    | refl => exact ⟨.refl, fun z hz hz' => htop z hz hz' ▸ ((hleft x).1 hx').2⟩
    | @tail y' y _ hlast ih =>
      obtain ⟨hchain, hall⟩ := ih
      have hparent : ParentIn t c y' y :=
        ⟨((hleft y').1 hlast.1).1, ((hleft y).1 hlast.2.1).1, hlast.2.2⟩
      refine ⟨hchain.tail hparent, fun z hz hz' => ?_⟩
      rcases Relation.ReflTransGen.cases_tail hz' with rfl | ⟨y'', hz'', hlast''⟩
      · exact ((hleft y).1 hlast.2.1).2
      · rw [ParentIn.unique hlast'' hparent] at hz''
        exact hall z hz hz''
  · -- every row of the chain is left, so the chain is still one
    rintro ⟨h, hall⟩
    induction h with
    | refl => exact ⟨(hleft x).2 ⟨hx, hall x .refl .refl⟩, .refl⟩
    | @tail y' y hchain hlast ih =>
      obtain ⟨hx', hchain'⟩ := ih fun z hz hz' => hall z hz (hz'.tail hlast)
      have hy' : y' ∈ t' := (hleft y').2 ⟨hlast.1, hall y' hchain (.single hlast)⟩
      have hy : y ∈ t' := (hleft y).2 ⟨hlast.2.1, hall y (hchain.tail hlast) .refl⟩
      exact ⟨hx', hchain'.tail ⟨hy', hy, hlast.2.2⟩⟩

/-- Nothing is above a row without a parent. -/
theorem eq_of_above_root {C : Type} {t : SqlTable C} {c : C} {x z : SqlRow C}
    (h0 : ∀ r ∈ t, r.Id ≠ PARENTFLAG) (hx : (x.col c).read = PARENTFLAG)
    (h : Relation.ReflTransGen (ParentIn t c) z x) : z = x := by
  rcases Relation.ReflTransGen.cases_tail h with heq | ⟨y, -, hlast⟩
  · exact heq.symm
  · exact absurd (hlast.2.2.symm.trans hx) (h0 y hlast.1)

/-- The states of the server's rows: `'0'`, `'1'`, `'2'` and `'3'`. -/
def TreeData.KnownStates (d : TreeData) : Prop :=
  (∀ a ∈ d.areas, (a.col .SynchronState).read ∈ ["0", "1", "2", "3"]) ∧
    ∀ x ∈ d.device_info, (x.col .SynchronState).read ∈ ["0", "1", "2", "3"]

/-- A row in one of these states is shown or marked. -/
private theorem isShown_iff {v : Text} (h : v.read ∈ ["0", "1", "2", "3"]) :
    isShown v = true ↔ ¬IsMarked v := by
  rw [isShown, IsMarked, DELETEFLAG, DELETEFLAG_WANT]
  simp only [List.mem_cons, List.not_mem_nil, or_false] at h
  rcases h with h | h | h | h <;> simp [h]

section Shown

variable {o : MapOrder} {m_userArea : String} {d : TreeData} {tree : DeleteTree}

private theorem mem_shown_areas (hstates : d.KnownStates) (a : SqlRow AreasCol) :
    a ∈ d.shown.areas ↔ a ∈ d.areas ∧ ¬IsMarked (a.col .SynchronState) := by
  rw [TreeData.shown, Table.mem_deleteWhere]
  refine and_congr_right fun ha => ?_
  rw [← isShown_iff (hstates.1 a ha), Bool.not_eq_false']

private theorem mem_shown_devices (hstates : d.KnownStates) (x : SqlRow DeviceInfoCol) :
    x ∈ d.shown.device_info ↔ x ∈ d.device_info ∧ ¬IsMarked (x.col .SynchronState) := by
  rw [TreeData.shown, Table.mem_deleteWhere]
  refine and_congr_right fun hx => ?_
  rw [← isShown_iff (hstates.2 x hx), Bool.not_eq_false']

/-- Nothing in a tree that was built is above its top areas. -/
private theorem eq_of_above_top (h0 : d.NoId PARENTFLAG) {t : Forest TreeRow}
    (ht : deleteForest o m_userArea d = some t) {top z : SqlRow AreasCol}
    (htop : d.TopArea m_userArea top) (hz : d.InTree m_userArea z) (hchain : d.AreaChain z top) :
    z = top := by
  rcases htop with huser | ⟨-, -, hparent⟩
  · exact userArea_acyclic ht huser ((inTree_iff_below huser).1 hz) hchain
  · exact eq_of_above_root h0.1 hparent hchain

/-- The areas inserted at the top are the top areas of the delete tree, unless the user's area is
missing. -/
theorem shownTop_iff {a : SqlRow AreasCol} : d.ShownTop m_userArea a ↔
    d.TopArea m_userArea a ∧ (m_userArea = "" ∨ ∃ b, d.UserArea m_userArea b) := by
  rw [TreeData.ShownTop, TreeData.TopArea]
  by_cases hempty : m_userArea = ""
  · subst hempty
    have hnone : ∀ b, ¬d.UserArea "" b := fun b hb => hb.1 rfl
    simp [hnone]
  · have huser : ∀ b, d.UserArea m_userArea b ↔ b ∈ d.areas ∧ b.Id = m_userArea :=
      fun b => and_iff_right hempty
    rw [if_pos hempty, ← huser]
    constructor
    · intro ha
      exact ⟨.inl ha, .inr ⟨a, ha⟩⟩
    · rintro ⟨ha | ⟨hmissing, -⟩, hpresent⟩
      · exact ha
      · exact absurd (hpresent.resolve_left hempty) hmissing

/-- The unflagged areas are those with an unmarked chain from the top. -/
theorem cleanArea_iff (h0 : d.NoId PARENTFLAG) {t : Forest TreeRow}
    (ht : deleteForest o m_userArea d = some t) {a : SqlRow AreasCol} :
    d.CleanArea m_userArea a ↔ ∃ top, d.TopArea m_userArea top ∧ d.AreaChain top a ∧
      ∀ b, d.AreaChain top b → d.AreaChain b a → ¬IsMarked (b.col .SynchronState) := by
  constructor
  · rintro ⟨⟨top, htop, hchain⟩, hclean⟩
    exact ⟨top, htop, hchain, fun b hb => hclean b ⟨top, htop, hb⟩⟩
  · rintro ⟨top, htop, hchain, hclean⟩
    refine ⟨⟨top, htop, hchain⟩, fun b hb hba => ?_⟩
    rcases parents_total hchain hba with habove | hbelow
    · exact hclean b habove hba
    · exact eq_of_above_top h0 ht htop hb hbelow ▸ hclean top .refl hchain

/-- **The areas shown** are the unflagged ones, unless the user's area is missing. -/
theorem shown_area_iff (h0 : d.NoId PARENTFLAG) (hstates : d.KnownStates) {t : Forest TreeRow}
    (ht : deleteForest o m_userArea d = some t) {items : Forest TreeRow}
    (hitems : treeItems o m_userArea d.shown = some items) {a : SqlRow AreasCol} :
    items.Mem (.area a) ↔
      d.CleanArea m_userArea a ∧ (m_userArea = "" ∨ ∃ b, d.UserArea m_userArea b) := by
  have htop : ∀ {top}, d.TopArea m_userArea top → ∀ z, d.AreaChain top z → d.AreaChain z top →
      z = top := fun htop z hz => eq_of_above_top h0 ht htop ⟨_, htop, hz⟩
  rw [mem_items_area hitems, cleanArea_iff h0 ht]
  constructor
  · rintro ⟨top, ⟨hmem, hcond⟩, hchain⟩
    have hshown : d.ShownTop m_userArea top := ⟨((mem_shown_areas hstates top).1 hmem).1, hcond⟩
    obtain ⟨htopArea, hpresent⟩ := shownTop_iff.1 hshown
    obtain ⟨hchain', hclean⟩ :=
      (chain_left (mem_shown_areas hstates) hshown.1 (htop htopArea)).1 ⟨hmem, hchain⟩
    exact ⟨⟨top, htopArea, hchain', hclean⟩, hpresent⟩
  · rintro ⟨⟨top, htopArea, hchain, hclean⟩, hpresent⟩
    obtain ⟨hmem, hcond⟩ := shownTop_iff.2 ⟨htopArea, hpresent⟩
    obtain ⟨hmem', hchain'⟩ :=
      (chain_left (mem_shown_areas hstates) hmem (htop htopArea)).2 ⟨hchain, hclean⟩
    exact ⟨top, ⟨hmem', hcond⟩, hchain'⟩

/-- **The devices shown** are those with an unmarked chain from a root device without an area or
of an area shown. -/
theorem shown_device_iff (h0 : d.NoId PARENTFLAG) (hstates : d.KnownStates)
    {items : Forest TreeRow} (hitems : treeItems o m_userArea d.shown = some items)
    {x : SqlRow DeviceInfoCol} :
    items.Mem (.device x) ↔ ∃ r, d.RootDevice r ∧ d.DeviceChain r x ∧
      (∀ y, d.DeviceChain r y → d.DeviceChain y x → ¬IsMarked (y.col .SynchronState)) ∧
      ((r.col .AreaId).read = "" ∨
        ∃ a, items.Mem (.area a) ∧ a.Id = (r.col .AreaId).read) := by
  rw [mem_items_device hitems]
  constructor
  · rintro ⟨r, ⟨hmem, hparent⟩, hchain, hcases⟩
    have hr := ((mem_shown_devices hstates r).1 hmem).1
    obtain ⟨hchain', hclean⟩ := (chain_left (mem_shown_devices hstates) hr
      fun z _ => eq_of_above_root h0.2 hparent).1 ⟨hmem, hchain⟩
    exact ⟨r, ⟨hr, hparent⟩, hchain', hclean, hcases⟩
  · rintro ⟨r, ⟨hr, hparent⟩, hchain, hclean, hcases⟩
    obtain ⟨hmem, hchain'⟩ := (chain_left (mem_shown_devices hstates) hr
      fun z _ => eq_of_above_root h0.2 hparent).2 ⟨hchain, hclean⟩
    exact ⟨r, ⟨hmem, hparent⟩, hchain', hcases⟩

/-! ## §4 When the two agree -/

/-- A root device with nothing marked above it. -/
def TreeData.HangsClean (d : TreeData) (m_userArea : String) (r : SqlRow DeviceInfoCol) : Prop :=
  d.Attached m_userArea r ∧ ∀ b, d.AboveDevice m_userArea b r → ¬IsMarked (b.col .SynchronState)

/-- One without an area hangs below the user's. -/
theorem hangsClean_areaLess {r : SqlRow DeviceInfoCol} (hr : d.RootDevice r) (hless : AreaLess r) :
    d.HangsClean m_userArea r ↔
      ∀ b, d.UserArea m_userArea b → ¬IsMarked (b.col .SynchronState) := by
  constructor
  · rintro ⟨-, hclean⟩ b hb
    exact hclean b ⟨hr, .inl ⟨hless, hb⟩⟩
  · intro hclean
    refine ⟨⟨hr, .inl hless⟩, ?_⟩
    rintro b ⟨-, ⟨-, hb⟩ | ⟨hnot, -⟩⟩
    · exact hclean b hb
    · exact absurd hless hnot

/-- Any other hangs below an unflagged area. -/
theorem hangsClean_area {r : SqlRow DeviceInfoCol} (hr : d.RootDevice r) (hless : ¬AreaLess r) :
    d.HangsClean m_userArea r ↔
      ∃ a, d.CleanArea m_userArea a ∧ a.Id = (r.col .AreaId).read := by
  constructor
  · rintro ⟨hattached, hclean⟩
    obtain ⟨a, ha, hId⟩ := hattached.2.resolve_left hless
    exact ⟨a, ⟨ha, fun b hb hchain => hclean b ⟨hr, .inr ⟨hless, hb, a, hchain, hId⟩⟩⟩, hId⟩
  · rintro ⟨a, ⟨ha, hclean⟩, hId⟩
    refine ⟨⟨hr, .inr ⟨a, ha, hId⟩⟩, ?_⟩
    rintro b ⟨-, ⟨hnot, -⟩ | ⟨-, hb, a', hchain, hId'⟩⟩
    · exact absurd hnot hless
    · have heq : a' = a := Table.eq_of_Id_eq (hb.trans hchain).mem ha.mem (hId'.trans hId.symm)
      exact hclean b hb (heq ▸ hchain)

end Shown

/-- The items shown are the nodes of `m_deleteTree` with nothing flagged at or above them. -/
def TreesAgree (trees : AreasTree) : Prop :=
  ∀ k i, k ≠ .root → ((∃ n, trees.m_tree_areas.Mem n ∧ n.Is k i) ↔
    trees.m_deleteTree.Mem k i ∧ ¬trees.m_deleteTree.FlaggedAbove k i)

/-- What makes them agree. -/
structure ShownAsBuilt (d : TreeData) (m_userArea : String) : Prop where
  /-- for a user whose area is missing, every area without a parent is marked -/
  missing : m_userArea ≠ "" → (¬∃ b, d.UserArea m_userArea b) →
    ∀ a ∈ d.areas, (a.col .ParentId).read = "0" → IsMarked (a.col .SynchronState)
  /-- unless the user's area is marked, every root device of the area `"0"` is -/
  zero : (∀ b, d.UserArea m_userArea b → ¬IsMarked (b.col .SynchronState)) →
    ∀ r, d.RootDevice r → (r.col .AreaId).read = "0" → IsMarked (r.col .SynchronState)
  /-- if the user's area is marked, every root device without an area is -/
  blank : ∀ b, d.UserArea m_userArea b → IsMarked (b.col .SynchronState) →
    ∀ r, d.RootDevice r → (r.col .AreaId).read = "" → IsMarked (r.col .SynchronState)

section Agree

variable {o : MapOrder} {m_userArea : String} {d : TreeData} {trees : AreasTree}

private theorem exists_area {t : Forest TreeRow} {i : String} :
    (∃ n, t.Mem n ∧ n.Is .delete_type_areas i) ↔ ∃ a, a.Id = i ∧ t.Mem (.area a) := by
  constructor
  · rintro ⟨n, hn, hk, hId⟩
    cases n with
    | area a => exact ⟨a, hId, hn⟩
    | device x => cases hk
  · rintro ⟨a, hId, ha⟩
    exact ⟨_, ha, rfl, hId⟩

private theorem exists_device {t : Forest TreeRow} {i : String} :
    (∃ n, t.Mem n ∧ n.Is .delete_type_devices i) ↔ ∃ x, x.Id = i ∧ t.Mem (.device x) := by
  constructor
  · rintro ⟨n, hn, hk, hId⟩
    cases n with
    | area a => cases hk
    | device x => exact ⟨x, hId, hn⟩
  · rintro ⟨x, hId, hx⟩
    exact ⟨_, hx, rfl, hId⟩

/-- The agreement of the trees, row by row. -/
private theorem treesAgree_iff (h : initAreasTree o m_userArea d = some trees) :
    ∃ t items, deleteForest o m_userArea d = some t ∧
      treeItems o m_userArea d.shown = some items ∧
      (TreesAgree trees ↔
        (∀ i, (∃ a, a.Id = i ∧ items.Mem (.area a)) ↔
          ∃ a, a.Id = i ∧ d.CleanArea m_userArea a) ∧
        ∀ i, (∃ x, x.Id = i ∧ items.Mem (.device x)) ↔
          ∃ x, x.Id = i ∧ d.CleanDevice m_userArea x) := by
  obtain ⟨items, hitems, hrest⟩ := Option.bind_eq_some_iff.1 h
  obtain ⟨tree, htree, heq⟩ := Option.bind_eq_some_iff.1 hrest
  cases heq
  obtain ⟨t, ht, -⟩ := of_initDeleteTreeStruct htree
  refine ⟨t, items, ht, hitems, ?_⟩
  -- the clean rows are the flagless nodes of the tree
  simp only [← clean_area_iff htree, ← clean_device_iff htree, ← exists_area, ← exists_device]
  constructor
  · intro hagree
    exact ⟨fun i => hagree _ i (by decide), fun i => hagree _ i (by decide)⟩
  · rintro ⟨hareas, hdevices⟩ k i hk
    cases k with
    | delete_type_areas => exact hareas i
    | delete_type_devices => exact hdevices i
    | root => exact absurd rfl hk

section Rows

variable (h0 : d.NoId PARENTFLAG) (hstates : d.KnownStates)
  {t items : Forest TreeRow} (ht : deleteForest o m_userArea d = some t)
  (hitems : treeItems o m_userArea d.shown = some items)

include h0 ht

/-- An unmarked area without a parent is an unflagged one, for a user whose area is missing. -/
private theorem cleanArea_of_top {a : SqlRow AreasCol} (htop : d.TopArea m_userArea a)
    (hclean : ¬IsMarked (a.col .SynchronState)) : d.CleanArea m_userArea a := by
  refine (cleanArea_iff h0 ht).2 ⟨a, htop, .refl, fun b hb hback => ?_⟩
  exact eq_of_above_top h0 ht htop ⟨a, htop, hb⟩ hback ▸ hclean

include hstates hitems

private theorem items_area_mem {a : SqlRow AreasCol} (ha : items.Mem (.area a)) : a ∈ d.areas :=
  ((shown_area_iff h0 hstates ht hitems).1 ha).1.1.mem

omit ht in
/-- A root device is shown if it is unmarked, and without an area or of an area shown. -/
private theorem shown_root_iff {r : SqlRow DeviceInfoCol} (hr : d.RootDevice r) :
    items.Mem (.device r) ↔ ¬IsMarked (r.col .SynchronState) ∧
      ((r.col .AreaId).read = "" ∨ ∃ a, items.Mem (.area a) ∧ a.Id = (r.col .AreaId).read) := by
  rw [shown_device_iff h0 hstates hitems]
  constructor
  · rintro ⟨r', hr', hchain, hclean, hcases⟩
    have heq := eq_of_above_root h0.2 hr.2 hchain
    subst heq
    exact ⟨hclean r' .refl .refl, hcases⟩
  · rintro ⟨hclean, hcases⟩
    refine ⟨r, hr, .refl, fun y _ hy => ?_, hcases⟩
    exact eq_of_above_root h0.2 hr.2 hy ▸ hclean

omit ht hstates hitems in
/-- A root device is unflagged if it is unmarked and hangs below unmarked areas. -/
private theorem cleanDevice_root_iff {r : SqlRow DeviceInfoCol} (hr : d.RootDevice r) :
    d.CleanDevice m_userArea r ↔
      ¬IsMarked (r.col .SynchronState) ∧ d.HangsClean m_userArea r := by
  constructor
  · rintro ⟨r', hr', hchain, hclean, habove⟩
    have heq := eq_of_above_root h0.2 hr.2 hchain
    subst heq
    exact ⟨hclean r' .refl .refl, hr', habove⟩
  · rintro ⟨hclean, hattached, habove⟩
    refine ⟨r, hattached, .refl, fun y _ hy => ?_, habove⟩
    exact eq_of_above_root h0.2 hr.2 hy ▸ hclean

theorem shownAsBuilt_of_agree
    (hareas : ∀ i, (∃ a, a.Id = i ∧ items.Mem (.area a)) ↔
      ∃ a, a.Id = i ∧ d.CleanArea m_userArea a)
    (hdevices : ∀ i, (∃ x, x.Id = i ∧ items.Mem (.device x)) ↔
      ∃ x, x.Id = i ∧ d.CleanDevice m_userArea x) : ShownAsBuilt d m_userArea where
  missing huser hmissing a ha hparent := by
    by_contra hclean
    -- the tree shows it, and the control would have to
    have harea := cleanArea_of_top h0 ht (.inr ⟨hmissing, ha, hparent⟩) hclean
    obtain ⟨a', -, ha'⟩ := (hareas a.Id).2 ⟨a, rfl, harea⟩
    exact ((shown_area_iff h0 hstates ht hitems).1 ha').2.elim huser hmissing
  zero huser r hr hzero := by
    by_contra hclean
    -- a device of area 0 is in the tree, but the control looks for an area 0
    have hdevice := (cleanDevice_root_iff h0 hr).2
      ⟨hclean, (hangsClean_areaLess hr (.inl hzero)).2 huser⟩
    obtain ⟨x, hId, hx⟩ := (hdevices r.Id).2 ⟨r, rfl, hdevice⟩
    obtain ⟨r', hr', hchain, -, -⟩ := (shown_device_iff h0 hstates hitems).1 hx
    have heq : x = r := Table.eq_of_Id_eq (mem_of_parents hchain hr'.1) hr.1 hId
    subst heq
    rcases ((shown_root_iff h0 hstates hitems hr).1 hx).2 with hblank | ⟨a, ha, haId⟩
    · exact absurd (hzero.symm.trans hblank) (by decide)
    · exact h0.1 a (items_area_mem h0 hstates ht hitems ha) (haId.trans hzero)
  blank b hb hmarked r hr hblank := by
    by_contra hclean
    -- a device without an area is shown, whatever stands above it in the tree
    have hshown := (shown_root_iff h0 hstates hitems hr).2 ⟨hclean, .inl hblank⟩
    obtain ⟨x, hId, hx⟩ := (hdevices r.Id).1 ⟨r, rfl, hshown⟩
    have hmem : x ∈ d.device_info := by
      obtain ⟨r', hr', hchain, -⟩ := hx
      exact mem_of_parents hchain hr'.1.1
    have heq : x = r := Table.eq_of_Id_eq hmem hr.1 hId
    subst heq
    exact (hangsClean_areaLess hr (.inr hblank)).1 ((cleanDevice_root_iff h0 hr).1 hx).2 b hb
      hmarked

theorem shown_area_of_built (hbuilt : ShownAsBuilt d m_userArea) (a : SqlRow AreasCol) :
    items.Mem (.area a) ↔ d.CleanArea m_userArea a := by
  rw [shown_area_iff h0 hstates ht hitems]
  refine and_iff_left_of_imp fun ha => ?_
  obtain ⟨top, htop, hchain, hclean⟩ := (cleanArea_iff h0 ht).1 ha
  by_contra hnot
  obtain ⟨huser, hmissing⟩ := not_or.1 hnot
  rcases htop with htop | ⟨-, hmem, hparent⟩
  · exact hmissing ⟨top, htop⟩
  · exact hclean top .refl hchain (hbuilt.missing huser hmissing top hmem hparent)

/-- Above an unmarked root device, what is shown and what is unflagged agree. -/
theorem shown_hangs_iff (hbuilt : ShownAsBuilt d m_userArea) {r : SqlRow DeviceInfoCol}
    (hr : d.RootDevice r) (hclean : ¬IsMarked (r.col .SynchronState)) :
    ((r.col .AreaId).read = "" ∨ ∃ a, items.Mem (.area a) ∧ a.Id = (r.col .AreaId).read) ↔
      d.HangsClean m_userArea r := by
  by_cases hless : AreaLess r
  · rw [hangsClean_areaLess hr hless]
    rcases hless with hzero | hblank
    · constructor
      · rintro (hblank | ⟨a, ha, hId⟩)
        · exact absurd (hzero.symm.trans hblank) (by decide)
        · exact absurd (hId.trans hzero) (h0.1 a (items_area_mem h0 hstates ht hitems ha))
      · intro huser
        exact absurd (hbuilt.zero huser r hr hzero) hclean
    · constructor
      · intro _ b hb hmarked
        exact hclean (hbuilt.blank b hb hmarked r hr hblank)
      · exact fun _ => .inl hblank
  · rw [hangsClean_area hr hless]
    simp only [shown_area_of_built h0 hstates ht hitems hbuilt]
    exact or_iff_right fun hblank => hless (.inr hblank)

theorem shown_device_of_built (hbuilt : ShownAsBuilt d m_userArea) (x : SqlRow DeviceInfoCol) :
    items.Mem (.device x) ↔ d.CleanDevice m_userArea x := by
  rw [shown_device_iff h0 hstates hitems]
  constructor
  · rintro ⟨r, hr, hchain, hclean, hcases⟩
    obtain ⟨hattached, habove⟩ :=
      (shown_hangs_iff h0 hstates ht hitems hbuilt hr (hclean r .refl hchain)).1 hcases
    exact ⟨r, hattached, hchain, hclean, habove⟩
  · rintro ⟨r, hattached, hchain, hclean, habove⟩
    have hr := hattached.1
    exact ⟨r, hr, hchain, hclean, (shown_hangs_iff h0 hstates ht hitems hbuilt hr
      (hclean r .refl hchain)).2 ⟨hattached, habove⟩⟩

end Rows

end Agree

/-- **The tree shown is the unflagged part of the delete tree** exactly if no unmarked root device
has the area `"0"` (unless it is below a marked user's area), none is without an area below a
marked user's area, and, for a user whose area is missing, no area without a parent is
unmarked. -/
theorem trees_agree_iff (o : MapOrder) (m_userArea : String) (d : TreeData) (trees : AreasTree)
    (h0 : d.NoId "0") (hstates : d.KnownStates)
    (hinit : initAreasTree o m_userArea d = some trees) :
    TreesAgree trees ↔ ShownAsBuilt d m_userArea := by
  obtain ⟨t, items, ht, hitems, hagree⟩ := treesAgree_iff hinit
  rw [hagree]
  constructor
  · rintro ⟨hareas, hdevices⟩
    exact shownAsBuilt_of_agree h0 hstates ht hitems hareas hdevices
  · intro hbuilt
    simp only [shown_area_of_built h0 hstates ht hitems hbuilt,
      shown_device_of_built h0 hstates ht hitems hbuilt, implies_true, and_self]

/-- A device of the area `"0"`, not deleted. -/
def TreeData.deviceOfZero : TreeData where
  areas := ⟨[], by decide⟩
  device_info := ⟨[deviceRow "d" "0" "0" "0"], by decide⟩

/-- Without a user, an area and its device are shown as they were built. -/
theorem device_of_area_shown :
    ∃ trees, initAreasTree .inserted "" .deviceOfUser = some trees ∧ TreesAgree trees := by
  refine ⟨_, rfl, (trees_agree_iff .inserted "" .deviceOfUser _ (by decide) ⟨?_, ?_⟩ rfl).2
    ⟨?_, ?_, ?_⟩⟩
  · intro a ha
    rw [List.mem_singleton.1 ha]
    decide
  · intro x hx
    rw [List.mem_singleton.1 hx]
    decide
  · exact fun huser => absurd rfl huser
  · intro _ r hr hzero
    rw [List.mem_singleton.1 hr.1] at hzero
    exact absurd hzero (by decide)
  · exact fun b hb => absurd rfl hb.1

/-- A device of the area `"0"` is a node of the delete tree and is not shown. -/
theorem device_of_zero_not_shown :
    TreeData.deviceOfZero.NoId "0" ∧ TreeData.deviceOfZero.NoId "" ∧
      TreeData.deviceOfZero.KnownStates ∧
      ∃ trees, initAreasTree .inserted "" .deviceOfZero = some trees ∧ ¬TreesAgree trees := by
  refine ⟨by decide, by decide, ⟨?_, ?_⟩, _, rfl, fun hagree => ?_⟩
  · exact fun a ha => absurd ha List.not_mem_nil
  · intro x hx
    rw [List.mem_singleton.1 hx]
    decide
  · refine absurd ((hagree .delete_type_devices "d" (by decide)).2
      ⟨.inr (.inl (.inl ⟨rfl, rfl⟩)), ?_⟩) fun ⟨n, hn, _⟩ => hn
    rintro (⟨hflag, -⟩ | (⟨hflag, -⟩ | hchild | hsibling) | hsibling)
    · exact absurd hflag (by decide)
    · exact absurd hflag (by decide)
    · exact hchild
    · exact hsibling
    · exact hsibling

end MtpSync
