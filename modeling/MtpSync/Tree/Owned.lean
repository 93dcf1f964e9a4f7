import MtpSync.Tree.Pointers

/-!
# Who owns the nodes of `m_deleteTree`

Whatever the allocator hands out, the pointer code of `m_deleteTree` makes the tree that
`MtpSync.initDeleteTreeStruct` says, and between two events of a run the live nodes are those of
that tree: none is lost, none is deleted twice and no pointer that is followed dangles.

- §1 the tree the members point to
- §2 the areas
- §3 the root devices
- §4 the devices below them
- §5 `InitDeleteTreeStruct`
- §6 what is collected
- §7 refreshes, syncs and the end
-/

namespace MtpSync

namespace Pointers

open Store

/-! ## §1 The tree the members point to -/

/-- The live nodes are those of the tree `t` at `m_deleteTree`. -/
structure Owns (s : Store DeleteNode TreeVars) (t : Forest (ℕ × DeleteNode)) : Prop where
  ptr : s.vars.m_deleteTree = t.ptr
  held : Held s.heap t
  nodup : t.addrs.Nodup
  live : ∀ a ∈ s.heap.live, a ∈ t.addrs

/-- A tree of nodes as the tree that is walked. -/
def treeOf : Forest DeleteNode → DeleteTree
  | .nil => .nullptr
  | .node n child sibling =>
    .node n.m_strID n.m_typeFlag n.m_deleteFlag n.m_strDeleteFlag (treeOf child) (treeOf sibling)

/-- The members point to a tree, and to all there is. -/
def PointsTo (s : Store DeleteNode TreeVars) (tree : DeleteTree) : Prop :=
  ∃ t, Owns s t ∧ treeOf (t.map Prod.snd) = tree

theorem treeOf_toNode (t : Forest TreeRow) : treeOf (t.map TreeRow.toNode) = .ofForest t := by
  induction t with
  | nil => rfl
  | node n c s ihc ihs => rw [Forest.map, treeOf, ihc, ihs, DeleteTree.ofForest]; rfl

theorem nodeFuel_run (s : Store DeleteNode TreeVars) :
    nodeFuel.run s = (.ok (s.heap.live.card + 1), s) := rfl

/-- **Clearing** leaves nothing. -/
theorem clearDeleteTreeStruct_run {s : Store DeleteNode TreeVars} {t : Forest (ℕ × DeleteNode)}
    (hs : Owns s t) :
    clearDeleteTreeStruct.run s = (.ok true, ⟨.empty, { s.vars with m_deleteTree := none }⟩) := by
  obtain ⟨h, vars⟩ := s
  have hempty : h.drop t.addrs = .empty := Heap.ext_get fun a => by
    rw [Heap.get_drop]
    split
    · rfl
    · next ha => exact Heap.notMem_live.1 fun hlive => ha (hs.live a hlive)
  have hclear : (clear _ t.ptr).run ⟨h, vars⟩ = _ :=
    clear_run hs.held hs.nodup (Nat.lt_succ_of_le (hs.held.length_le hs.nodup))
  rw [← hs.ptr, hempty] at hclear
  rw [clearDeleteTreeStruct, Act.bind_run_ok (nodeFuel_run _), Act.bind_run_ok (Act.read_run _),
    Act.bind_run_ok hclear]
  rfl

/-! ## §2 The areas -/

section Areas

variable {A : Allocator} {o : MapOrder} {m_userArea : String} {d : TreeData}

/-- What the root is filled in with. -/
def rootNode (o : MapOrder) (m_userArea : String) (d : TreeData) : DeleteNode :=
  match userRoot o m_userArea d with
  | some r => (TreeRow.area r).toNode
  | none => .deleteTree

theorem rootNode_strID : (rootNode o m_userArea d).m_strID = rootID o m_userArea d := by
  rw [rootNode, rootID]
  cases userRoot o m_userArea d <;> rfl

/-- `m_mapAreaIDToNode` has the nodes of the areas, the root at `p` and those of `t`, and no
other. -/
structure AreaMap (o : MapOrder) (m_userArea : String) (d : TreeData) (p : ℕ)
    (t : Forest (ℕ × DeleteNode)) (m : CMap String Ptr) : Prop where
  root : ∀ q, userRoot o m_userArea d = some q → m.value q.Id = some p
  node : ∀ n ∈ t.nodes, n.2.m_typeFlag = .delete_type_areas → m.value n.2.m_strID = some n.1
  only : ∀ i a, m.value i = some a → (a = p ∧ ∃ q, userRoot o m_userArea d = some q ∧ q.Id = i) ∨
    ∃ n ∈ t.nodes, n.1 = a ∧ n.2.m_strID = i ∧ n.2.m_typeFlag = .delete_type_areas

section Notes

variable {x : Forest (ℕ × DeleteNode)} {v : TreeVars} {i : String} {a : ℕ}

theorem notes_deleteTree : ((areaGrower o d).notes x v).m_deleteTree = v.m_deleteTree := by
  induction x generalizing v with
  | nil => rfl
  | node n c s ihc ihs =>
    rw [Grower.notes, ihs]
    exact ihc

theorem notes_of_notMem (hi : ∀ n ∈ x.nodes, n.2.m_strID ≠ i) :
    ((areaGrower o d).notes x v).m_mapAreaIDToNode.value i = v.m_mapAreaIDToNode.value i := by
  induction x generalizing v with
  | nil => rfl
  | node n c s ihc ihs =>
    simp only [Forest.nodes, List.forall_mem_cons, List.forall_mem_append] at hi
    rw [Grower.notes, ihs hi.2.2]
    exact (CMap.value_setAt.trans (if_neg (Ne.symm hi.1))).trans (ihc hi.2.1)

theorem notes_only (h : ((areaGrower o d).notes x v).m_mapAreaIDToNode.value i = some a) :
    (∃ n ∈ x.nodes, n.1 = a ∧ n.2.m_strID = i) ∨ v.m_mapAreaIDToNode.value i = some a := by
  induction x generalizing v with
  | nil => exact .inr h
  | node n c s ihc ihs =>
    simp only [Forest.nodes, List.mem_cons, List.mem_append]
    rw [Grower.notes] at h
    rcases ihs h with ⟨m, hm, hma⟩ | h
    · exact .inl ⟨m, .inr (.inr hm), hma⟩
    · have hset := CMap.value_setAt.symm.trans h
      split at hset
      · next hin => exact .inl ⟨n, .inl rfl, Option.some.inj hset, hin.symm⟩
      · rcases ihc hset with ⟨m, hm, hma⟩ | h
        · exact .inl ⟨m, .inr (.inl hm), hma⟩
        · exact .inr h

theorem notes_node (hnodup : (x.nodes.map fun n => n.2.m_strID).Nodup) {n : ℕ × DeleteNode}
    (hn : n ∈ x.nodes) :
    ((areaGrower o d).notes x v).m_mapAreaIDToNode.value n.2.m_strID = some n.1 := by
  induction x generalizing v with
  | nil => cases hn
  | node m c s ihc ihs =>
    rw [Forest.nodes, List.map_cons, List.map_append, List.nodup_cons, List.nodup_append'] at hnodup
    obtain ⟨hm, hc, hs, hdisj⟩ := hnodup
    rw [List.mem_append, not_or] at hm
    rw [Forest.nodes, List.mem_cons, List.mem_append] at hn
    rw [Grower.notes]
    have hmem : ∀ {u : Forest (ℕ × DeleteNode)} {k : ℕ × DeleteNode} {i : String}, k ∈ u.nodes →
        k.2.m_strID = i → i ∈ u.nodes.map fun n => n.2.m_strID :=
      fun hk heq => List.mem_map.2 ⟨_, hk, heq⟩
    rcases hn with rfl | hn | hn
    · rw [notes_of_notMem fun k hk heq => hm.2 (hmem hk heq)]
      exact CMap.value_setAt.trans (if_pos rfl)
    · rw [notes_of_notMem fun k hk heq => hdisj (hmem hn rfl) (hmem hk heq)]
      have hne : n.2.m_strID ≠ m.2.m_strID := fun heq => hm.1 (hmem hn heq)
      exact (CMap.value_setAt.trans (if_neg hne)).trans (ihc hc hn)
    · exact ihs hs hn

end Notes

/-! The root is filled in once: no key is met twice. -/

theorem fillRoot_of_notMem {p : ℕ} {rows : List (SqlRow AreasCol)}
    (hnot : ∀ r ∈ rows, r.Id ≠ m_userArea) (s : Store DeleteNode TreeVars) :
    (fillRoot m_userArea p rows).run s = (.ok (), s) := by
  induction rows with
  | nil => rfl
  | cons r rows ih =>
    rw [List.forall_mem_cons] at hnot
    rw [fillRoot, if_neg hnot.1]
    exact ih hnot.2

theorem fillRoot_run {p : ℕ} {rows : List (SqlRow AreasCol)} {h : Heap DeleteNode}
    {vars : TreeVars} {v : DeleteNode} (hp : h.get p = some ⟨v, none, none⟩)
    (hnodup : (rows.map Row.Id).Nodup) :
    (fillRoot m_userArea p rows).run ⟨h, vars⟩ = (.ok (),
      match rows.find? fun r => r.Id == m_userArea with
      | some r => ⟨h.put p ⟨(TreeRow.area r).toNode, none, none⟩, vars.noteArea r.Id p⟩
      | none => ⟨h, vars⟩) := by
  induction rows with
  | nil => rfl
  | cons r rows ih =>
    rw [List.map_cons, List.nodup_cons] at hnodup
    rw [fillRoot]
    by_cases hr : r.Id = m_userArea
    · have hnot : ∀ k ∈ rows, k.Id ≠ m_userArea := fun k hk heq =>
        hnodup.1 (List.mem_map.2 ⟨k, hk, heq.trans hr.symm⟩)
      rw [if_pos hr, Act.bind_run_ok (assign_run hp _), Act.bind_run_ok (setVars_run _ _),
        fillRoot_of_notMem hnot, List.find?_cons_of_pos (by simpa using hr)]
    · rw [if_neg hr, List.find?_cons_of_neg (by simpa using hr)]
      exact ih hnodup.2

/-- `m_mapAreaIDToNode` when the root is there. -/
def rootMap (o : MapOrder) (m_userArea : String) (d : TreeData) (p : ℕ) : CMap String Ptr :=
  match userRoot o m_userArea d with
  | some r => CMap.empty.setAt r.Id (some p)
  | none => .empty

/-- The children of an area's node. -/
theorem areaGrower_children (v : DeleteNode) :
    (areaGrower o d).children v = (areasBelow o d v.m_strID).map TreeRow.toNode := by
  rw [areasBelow, List.map_map]
  rfl

private theorem areasBelow_area (i : String) : ∀ n ∈ areasBelow o d i, ∃ r, n = TreeRow.area r := by
  intro n hn
  obtain ⟨b, -, -, rfl⟩ := mem_areasBelow.1 hn
  exact ⟨b, rfl⟩

private theorem areasBelow_closed (n : TreeRow) (hn : ∃ r, n = TreeRow.area r) :
    ∀ k ∈ rowsBelow o d n, ∃ r, k = TreeRow.area r := by
  obtain ⟨r, rfl⟩ := hn
  exact areasBelow_area r.Id

/-- The areas as nodes. -/
theorem grow_areaGrower (i : String) :
    Forest.grow (areaGrower o d).children d.fuel ((areasBelow o d i).map TreeRow.toNode)
      = (MtpSync.createDeleteTreeStructAreasC o d i).map (Forest.map TreeRow.toNode) := by
  refine Forest.map_grow areasBelow_closed ?_ (areasBelow_area i)
  rintro _ ⟨r, rfl⟩
  exact areaGrower_children _

/-- No area has two nodes, and none a node beside the root. -/
theorem areas_nodup {areas : Forest TreeRow} {i : String}
    (h : MtpSync.createDeleteTreeStructAreasC o d i = some areas) :
    (areas.nodes.map TreeRow.m_strID).Nodup ∧ i ∉ areas.nodes.map TreeRow.m_strID := by
  -- the same forest with the keys for the rows
  have hbelow : ∀ k, keysBelow o d.areas .ParentId k = (areasBelow o d k).map TreeRow.m_strID := by
    intro k
    rw [areasBelow, List.map_map]
    rfl
  have hkeys : Forest.grow (keysBelow o d.areas .ParentId) d.fuel (keysBelow o d.areas .ParentId i)
      = some (areas.map TreeRow.m_strID) := by
    have hmap : Forest.grow (keysBelow o d.areas .ParentId) d.fuel
        ((areasBelow o d i).map TreeRow.m_strID)
          = (MtpSync.createDeleteTreeStructAreasC o d i).map (Forest.map TreeRow.m_strID) := by
      refine Forest.map_grow areasBelow_closed ?_ (areasBelow_area i)
      rintro _ ⟨r, rfl⟩
      exact hbelow r.Id
    rw [hbelow i, hmap, h]
    rfl
  have hacyclic : ∀ k, (areas.map TreeRow.m_strID).Mem k →
      ¬Relation.TransGen (Forest.Child (keysBelow o d.areas .ParentId)) k k := fun k hk =>
    Forest.acyclic_of_grow hkeys hk
  have hone := oneParent_keysBelow (o := o) (t := d.areas) (c := AreasCol.ParentId)
  rw [← Forest.nodes_map]
  constructor
  · refine Forest.nodes_grow_nodup hone.parent hone.nodup hkeys (hone.nodup i) ?_
    exact Forest.apart_of_children hone.parent (fun _ => id) fun k hk =>
      hacyclic k ((Forest.mem_grow hkeys).2 ⟨k, hk, .refl⟩)
  · intro hi
    have hmem := Forest.mem_nodes.1 hi
    obtain ⟨k, hk, hdesc⟩ := (Forest.mem_grow hkeys).1 hmem
    exact hacyclic i hmem (.head' hk hdesc)

theorem areas_only {areas : Forest TreeRow} {i : String}
    (h : MtpSync.createDeleteTreeStructAreasC o d i = some areas) {n : TreeRow}
    (hn : n ∈ areas.nodes) : ∃ r, n = .area r := by
  obtain ⟨k, hk, hdesc⟩ := (Forest.mem_grow h).1 (Forest.mem_nodes.1 hn)
  clear hn
  induction hdesc with
  | refl => exact areasBelow_area i k hk
  | tail _ hchild ih => exact areasBelow_closed _ ih _ hchild

/-- The root, before anything is below it. -/
theorem userRootArea_run (p : ℕ) :
    (userRootArea o m_userArea d p).run
        ⟨Heap.empty.put p ⟨.deleteTree, none, none⟩, ⟨some p, .empty⟩⟩
      = (.ok (), ⟨Heap.empty.put p ⟨rootNode o m_userArea d, none, none⟩,
          ⟨some p, rootMap o m_userArea d p⟩⟩) := by
  rw [userRootArea, rootNode, rootMap, userRoot]
  by_cases hu : m_userArea = ""
  · rw [if_neg (not_not.2 hu), if_pos hu]
    rfl
  · rw [if_pos hu, if_neg hu, fillRoot_run Heap.get_put_self walk_nodup]
    cases (o.walk d.areas).find? fun r => r.Id == m_userArea with
    | none => rfl
    | some r => exact congrArg _ (congrArg (Store.mk · _) Heap.put_put)

/-- **The areas** are below the root, each in `m_mapAreaIDToNode`; if the recursion ends. -/
theorem createDeleteTreeStructAreas_run (m : CMap String Ptr) :
    match MtpSync.createDeleteTreeStructAreasC o d (rootID o m_userArea d) with
    | none => ((createDeleteTreeStructAreas A o m_userArea d).run
        ⟨.empty, ⟨none, m⟩⟩).1 = .error .hang
    | some areas => ∃ p t s', (createDeleteTreeStructAreas A o m_userArea d).run
        ⟨.empty, ⟨none, m⟩⟩ = (.ok (), s') ∧
      Owns s' (.node (p, rootNode o m_userArea d) t .nil) ∧
      t.map Prod.snd = areas.map TreeRow.toNode ∧
      (∀ n ∈ t.nodes, n.2.m_typeFlag = .delete_type_areas) ∧
      AreaMap o m_userArea d p t s'.vars.m_mapAreaIDToNode := by
  obtain ⟨p, hp⟩ : ∃ p, A.next (∅ : Finset ℕ) = p := ⟨_, rfl⟩
  have hnew : (new A .deleteTree).run (⟨.empty, ⟨none, .empty⟩⟩ : Store DeleteNode TreeVars)
      = (.ok p, ⟨Heap.empty.put p ⟨.deleteTree, none, none⟩, ⟨none, .empty⟩⟩) := by
    rw [new_run]
    rw [← hp]
    rfl
  rw [createDeleteTreeStructAreas, Act.bind_run_ok (setVars_run _ _), Act.bind_run_ok hnew,
    Act.bind_run_ok (setVars_run _ _), Act.bind_run_ok (userRootArea_run p)]
  have hcell : (Heap.empty.put p ⟨rootNode o m_userArea d, none, none⟩).get p
      = some ⟨rootNode o m_userArea d, none, none⟩ := Heap.get_put_self
  have hgrow : GrowsTo (areaGrower o d) ⟨_, ⟨some p, rootMap o m_userArea d p⟩⟩ p _ none .nil _
      ((createDeleteTreeStructAreasC A o d p).run _) := growBelow_run d.fuel hcell
  rw [areaGrower_children, rootNode_strID, grow_areaGrower] at hgrow
  cases hareas : MtpSync.createDeleteTreeStructAreasC o d (rootID o m_userArea d) with
  | none =>
    rw [hareas] at hgrow
    exact hgrow
  | some areas =>
    rw [hareas] at hgrow
    obtain ⟨t, h', hmap, hrun, hgrown⟩ := hgrow
    obtain ⟨hids, hroot⟩ := areas_nodup hareas
    have hnodes : t.nodes.map Prod.snd = areas.nodes.map TreeRow.toNode := by
      rw [← Forest.nodes_map, hmap, Forest.nodes_map]
    have hkeys : (t.nodes.map fun n => n.2.m_strID) = areas.nodes.map TreeRow.m_strID := by
      have hcongr := congrArg (List.map DeleteNode.m_strID) hnodes
      rwa [List.map_map, List.map_map] at hcongr
    have htypes : ∀ n ∈ t.nodes, n.2.m_typeFlag = .delete_type_areas := by
      intro n hn
      have hmem : n.2 ∈ areas.nodes.map TreeRow.toNode := hnodes ▸ List.mem_map_of_mem hn
      obtain ⟨k, hk, hkn⟩ := List.mem_map.1 hmem
      obtain ⟨r, rfl⟩ := areas_only hareas hk
      exact hkn ▸ rfl
    refine ⟨p, t, _, hrun, ?_, hmap, htypes, ?_⟩
    · refine ⟨notes_deleteTree, ⟨hgrown.cell, hgrown.held, trivial⟩, ?_, fun a ha => ?_⟩
      · rw [Forest.addrs_node, Forest.addrs_nil, List.append_nil, List.nodup_cons]
        exact ⟨fun hp => hgrown.fresh p hp (Heap.mem_live_of_get hcell), hgrown.nodup⟩
      · rw [Forest.mem_addrs_node]
        by_contra hnot
        simp only [not_or] at hnot
        have hget := hgrown.frame a hnot.1 (by simp) hnot.2.1
        rw [Heap.get_put_of_ne hnot.1] at hget
        exact Heap.notMem_live.2 hget ha
    · constructor
      · intro q hq
        have hqid : q.Id = rootID o m_userArea d := by rw [rootID, hq]
        rw [notes_of_notMem fun n hn heq => hroot ?_]
        · rw [rootMap, hq]
          exact CMap.value_setAt.trans (if_pos rfl)
        · rw [← hkeys, ← hqid, ← heq]
          exact List.mem_map.2 ⟨n, hn, rfl⟩
      · exact fun n hn _ => notes_node (hkeys ▸ hids) hn
      · intro i a hi
        rcases notes_only hi with ⟨n, hn, hna, hni⟩ | hi
        · exact .inr ⟨n, hn, hna, hni, htypes n hn⟩
        · left
          rw [rootMap] at hi
          cases hq : userRoot o m_userArea d with
          | none =>
            rw [hq] at hi
            cases hi
          | some q =>
            rw [hq] at hi
            have hset := CMap.value_setAt.symm.trans hi
            split at hset
            · next hiq => exact ⟨(Option.some.inj hset).symm, q, rfl, hiq.symm⟩
            · cases hset

end Areas

/-! ## §3 The root devices -/

section Devices

variable {A : Allocator} {o : MapOrder} {m_userArea : String} {d : TreeData}

/-- The node of an area with this id. -/
def isAreaNode (i : String) (n : DeleteNode) : Bool :=
  n.m_typeFlag = .delete_type_areas && n.m_strID = i

theorem isAreaNode_toNode {i : String} {n : TreeRow} :
    n.isArea i = isAreaNode i n.toNode := by
  cases n with
  | area r => rfl
  | device r => rfl

/-- The devices that are still to be made below a node. -/
def pendingBelow (o : MapOrder) (d : TreeData) (n : ℕ × DeleteNode) : Forest DeleteNode :=
  if n.2.m_typeFlag = .delete_type_devices then
    ((MtpSync.createDeleteTreeStructDevices o d n.2.m_strID).map (Forest.map TreeRow.toNode)).getD
      .nil
  else .nil

theorem devices_only {devices : Forest TreeRow} {i : String}
    (h : MtpSync.createDeleteTreeStructDevices o d i = some devices) {n : TreeRow}
    (hn : n ∈ devices.nodes) : ∃ r, n = .device r := by
  have hbelow : ∀ i, ∀ k ∈ devicesBelow o d i, ∃ r, k = TreeRow.device r := fun i k hk => by
    obtain ⟨b, -, -, rfl⟩ := mem_devicesBelow.1 hk
    exact ⟨b, rfl⟩
  obtain ⟨k, hk, hdesc⟩ := (Forest.mem_grow h).1 (Forest.mem_nodes.1 hn)
  clear hn
  induction hdesc with
  | refl => exact hbelow i k hk
  | tail _ hchild ih =>
    obtain ⟨r, rfl⟩ := ih
    exact hbelow r.Id _ hchild

theorem pendingBelow_isAreaNode (n : ℕ × DeleteNode) (i : String) :
    ∀ k ∈ (pendingBelow o d n).nodes, isAreaNode i k = false := by
  intro k hk
  rw [pendingBelow] at hk
  split at hk
  · cases hdev : MtpSync.createDeleteTreeStructDevices o d n.2.m_strID with
    | none =>
      rw [hdev] at hk
      cases hk
    | some devices =>
      rw [hdev] at hk
      have hk' : k ∈ (devices.map TreeRow.toNode).nodes := hk
      rw [Forest.nodes_map] at hk'
      obtain ⟨r, hr, rfl⟩ := List.mem_map.1 hk'
      obtain ⟨x, rfl⟩ := devices_only hdev hr
      rfl
  · cases hk

/-- The nodes as the root devices are linked: which are noted in `mapDeviceIDToNode`, `m`, and
that nothing is below these. -/
structure Linked (o : MapOrder) (m_userArea : String) (d : TreeData)
    (s : Store DeleteNode TreeVars) (p : ℕ) (t : Forest (ℕ × DeleteNode))
    (m : List (String × ℕ)) : Prop where
  owns : Owns s (.node (p, rootNode o m_userArea d) t .nil)
  areaMap : AreaMap o m_userArea d p t s.vars.m_mapAreaIDToNode
  device : ∀ n ∈ t.nodes, n.2.m_typeFlag ≠ .delete_type_areas →
    n.2.m_typeFlag = .delete_type_devices ∧ (n.2.m_strID, n.1) ∈ m
  noted : ∀ e ∈ m, ∃ n ∈ t.nodes, n.2.m_typeFlag = .delete_type_devices ∧ n.1 = e.2 ∧
    n.2.m_strID = e.1 ∧ ∃ q, s.heap.get n.1 = some ⟨n.2, none, q⟩
  addrs : (m.map Prod.snd).Nodup

/-- With what is still to be made, the nodes are the forest so far; there is none if below one of
the devices the recursion will not end. -/
def Matches (o : MapOrder) (d : TreeData) (t : Forest (ℕ × DeleteNode)) (m : List (String × ℕ))
    (made : Option (Forest TreeRow)) : Prop :=
  match made with
  | some f => (∀ e ∈ m, (MtpSync.createDeleteTreeStructDevices o d e.1).isSome = true) ∧
      t.expand Prod.snd (pendingBelow o d) = f.map TreeRow.toNode
  | none => ∃ e ∈ m, MtpSync.createDeleteTreeStructDevices o d e.1 = none

/-- The node of a root device before the devices below it are made. -/
def deviceLeaf (b : ℕ) (r : SqlRow DeviceInfoCol) : Forest (ℕ × DeleteNode) :=
  .node (b, (TreeRow.device r).toNode) .nil .nil

/-- One root device gets a node of its own, behind the last child of `n`. -/
theorem linkDevice_run {s : Store DeleteNode TreeVars} {t : Forest (ℕ × DeleteNode)}
    {n : ℕ × DeleteNode} (hs : Owns s t) (hn : n ∈ t.nodes) (r : SqlRow DeviceInfoCol)
    (m : List (String × ℕ)) :
    ∃ b s', (linkDevice A (some n.1) r m).run s = (.ok (m ++ [(r.Id, b)]), s') ∧
      s'.vars = s.vars ∧ b ∉ t.addrs ∧
      Owns s' (Forest.addUnder (Forest.isAt n.1) (deviceLeaf b r) t) ∧
      s'.heap.get b = some ⟨(TreeRow.device r).toNode, none, none⟩ ∧
      ∀ a c, a ≠ n.1 → s.heap.get a = some c →
        ∃ q, s'.heap.get a = some { c with sibling := q } := by
  obtain ⟨h, vars⟩ := s
  obtain ⟨b, hb⟩ : ∃ b, A.next h.live = b := ⟨_, rfl⟩
  have hlive : b ∉ h.live := hb ▸ A.fresh h.live
  have hbt : b ∉ t.addrs := fun hbt => hlive (hs.held.live b hbt)
  have hold : ∀ {a}, a ∈ t.addrs → a ≠ b := fun ha heq => hbt (heq ▸ ha)
  obtain ⟨h₁, hh₁⟩ : ∃ h₁, h.put b ⟨(TreeRow.device r).toNode, none, none⟩ = h₁ := ⟨_, rfl⟩
  have hnew : (new A (TreeRow.device r).toNode).run (⟨h, vars⟩ : Store DeleteNode TreeVars)
      = (.ok b, ⟨h₁, vars⟩) := by
    rw [new_run, hb, hh₁]
  have hheld : Held h₁ t := hs.held.of_agree fun a ha => hh₁ ▸ Heap.get_put_of_ne (hold ha)
  have hcell : h₁.get b = some ⟨(TreeRow.device r).toNode, none, none⟩ := hh₁ ▸ Heap.get_put_self
  obtain ⟨h₂, hlink, hheld₂, hframe, hcells⟩ :
      ∃ h₂, (linkUnder _ (some n.1) b).run ⟨h₁, vars⟩ = (.ok (), ⟨h₂, vars⟩) ∧ _ :=
    linkUnder_run hheld hs.nodup hn hcell hbt (Nat.lt_succ_of_le (hheld.length_le hs.nodup))
  refine ⟨b, ⟨h₂, vars⟩, ?_, rfl, hbt, ?_, (hframe b hbt).trans hcell, fun a c hne hc => ?_⟩
  · rw [linkDevice, Act.bind_run_ok hnew, Act.bind_run_ok (nodeFuel_run _),
      Act.bind_run_ok hlink]
    rfl
  · have hperm := Forest.addrs_addUnder_perm (x := deviceLeaf b r) hs.nodup
      (Forest.mem_addrs_of_mem hn)
    refine ⟨hs.ptr.trans Forest.ptr_addUnder.symm, hheld₂, ?_, fun a ha => ?_⟩
    · rw [hperm.nodup_iff, List.nodup_append']
      refine ⟨hs.nodup, List.nodup_singleton b, fun a ha hab => ?_⟩
      exact hold ha (List.mem_singleton.1 hab)
    · rw [hperm.mem_iff, List.mem_append]
      by_cases hat : a ∈ t.addrs
      · exact .inl hat
      · refine .inr (List.mem_singleton.2 ?_)
        by_contra hab
        have hget : h₂.get a = h.get a := by
          rw [hframe a hat, ← hh₁, Heap.get_put_of_ne hab]
        exact hat (hs.live a ((Heap.mem_live _ _).2 (hget ▸ (Heap.mem_live _ _).1 ha)))
  · have hne' : a ≠ b := fun heq => hlive (heq ▸ Heap.mem_live_of_get hc)
    exact hcells a c hne (hh₁ ▸ (Heap.get_put_of_ne hne').trans hc)

section Linked

variable {s s' : Store DeleteNode TreeVars} {p b : ℕ} {t t' : Forest (ℕ × DeleteNode)}
  {m : List (String × ℕ)} {r : SqlRow DeviceInfoCol}

theorem Linked.root_notMem (hl : Linked o m_userArea d s p t m) : p ∉ t.addrs := by
  have hnodup := hl.owns.nodup
  rw [Forest.addrs_node, Forest.addrs_nil, List.append_nil, List.nodup_cons] at hnodup
  exact hnodup.1

theorem Linked.addr_ne_root (hl : Linked o m_userArea d s p t m) {n : ℕ × DeleteNode}
    (hn : n ∈ t.nodes) : n.1 ≠ p :=
  fun heq => hl.root_notMem (heq ▸ Forest.mem_addrs_of_mem hn)

theorem Linked.addrs_nodup (hl : Linked o m_userArea d s p t m) : t.addrs.Nodup := by
  have hnodup := hl.owns.nodup
  rw [Forest.addrs_node, Forest.addrs_nil, List.append_nil, List.nodup_cons] at hnodup
  exact hnodup.2

/-- Two nodes at one address are one. -/
theorem Linked.eq_of_addr (hl : Linked o m_userArea d s p t m) {n k : ℕ × DeleteNode}
    (hn : n ∈ t.nodes) (hk : k ∈ t.nodes) (heq : n.1 = k.1) : n = k :=
  List.inj_on_of_nodup_map hl.addrs_nodup hn hk heq

/-- One more leaf, noted. -/
theorem Linked.extend (hl : Linked o m_userArea d s p t m) (hvars : s'.vars = s.vars)
    (howns : Owns s' (.node (p, rootNode o m_userArea d) t' .nil))
    (hmem : ∀ k, k ∈ t'.nodes ↔ k ∈ t.nodes ∨ k = (b, (TreeRow.device r).toNode))
    (hb : b ∉ t.addrs) (hleaf : s'.heap.get b = some ⟨(TreeRow.device r).toNode, none, none⟩)
    (hcells : ∀ n ∈ t.nodes, n.2.m_typeFlag = .delete_type_devices →
      ∀ c, s.heap.get n.1 = some c → ∃ q, s'.heap.get n.1 = some { c with sibling := q }) :
    Linked o m_userArea d s' p t' (m ++ [(r.Id, b)]) := by
  refine ⟨howns, ⟨?_, fun n hn htype => ?_, fun i a hi => ?_⟩, fun n hn htype => ?_, fun e he => ?_,
    ?_⟩
  · rw [hvars]
    exact hl.areaMap.root
  · rw [hvars]
    rcases (hmem n).1 hn with hn | rfl
    · exact hl.areaMap.node n hn htype
    · cases htype
  · rw [hvars] at hi
    rcases hl.areaMap.only i a hi with hroot | ⟨n, hn, hna⟩
    · exact .inl hroot
    · exact .inr ⟨n, (hmem n).2 (.inl hn), hna⟩
  · rcases (hmem n).1 hn with hn | rfl
    · obtain ⟨hdev, hnoted⟩ := hl.device n hn htype
      exact ⟨hdev, List.mem_append_left _ hnoted⟩
    · exact ⟨rfl, List.mem_append_right _ (.head _)⟩
  · rcases List.mem_append.1 he with he | he
    · obtain ⟨n, hn, htype, hna, hni, q, hq⟩ := hl.noted e he
      obtain ⟨q', hq'⟩ := hcells n hn htype _ hq
      exact ⟨n, (hmem n).2 (.inl hn), htype, hna, hni, q', hq'⟩
    · obtain rfl := List.mem_singleton.1 he
      exact ⟨_, (hmem _).2 (.inr rfl), rfl, rfl, rfl, none, hleaf⟩
  · rw [List.map_append, List.nodup_append']
    refine ⟨hl.addrs, List.nodup_singleton b, fun a ha hab => ?_⟩
    obtain ⟨e, he, rfl⟩ := List.mem_map.1 ha
    obtain ⟨n, hn, -, hna, -⟩ := hl.noted e he
    have hnb : n.1 = b := hna.trans (List.mem_singleton.1 hab)
    exact hb (hnb ▸ Forest.mem_addrs_of_mem hn)

/-- A root device behind the last child of the root. -/
theorem Linked.link_root (hl : Linked o m_userArea d s p t m) (r : SqlRow DeviceInfoCol) :
    ∃ b s', (linkDevice A (some p) r m).run s = (.ok (m ++ [(r.Id, b)]), s') ∧
      Linked o m_userArea d s' p (t.append (deviceLeaf b r)) (m ++ [(r.Id, b)]) := by
  have hn : (p, rootNode o m_userArea d) ∈
      (Forest.node (p, rootNode o m_userArea d) t .nil).nodes := .head _
  obtain ⟨b, s', hrun, hvars, hb, howns, hleaf, hcells⟩ :=
    linkDevice_run (A := A) hl.owns hn r m
  have hnone : Forest.addUnder (Forest.isAt p) (deviceLeaf b r) t = t :=
    Forest.addUnder_of_forall fun k hk => Forest.isAt_of_ne (hl.addr_ne_root hk)
  rw [Forest.addUnder, if_pos (Forest.isAt_self _), hnone] at howns
  refine ⟨b, s', hrun, hl.extend hvars howns (fun k => ?_) ?_ hleaf fun n hn _ c hc =>
    hcells n.1 c (hl.addr_ne_root hn) hc⟩
  · rw [Forest.nodes_append, List.mem_append, deviceLeaf]
    simp [Forest.nodes]
  · exact fun hbt => hb (Forest.mem_addrs_node.2 (.inr (.inl hbt)))

/-- A root device behind the last child of its area. -/
theorem Linked.link_area (hl : Linked o m_userArea d s p t m) {n : ℕ × DeleteNode}
    (hn : n ∈ t.nodes) (htype : n.2.m_typeFlag = .delete_type_areas)
    (r : SqlRow DeviceInfoCol) :
    ∃ b s', (linkDevice A (some n.1) r m).run s = (.ok (m ++ [(r.Id, b)]), s') ∧
      Linked o m_userArea d s' p (Forest.addUnder (Forest.isAt n.1) (deviceLeaf b r) t)
        (m ++ [(r.Id, b)]) := by
  have hn' : n ∈ (Forest.node (p, rootNode o m_userArea d) t .nil).nodes :=
    .tail _ (List.mem_append_left _ hn)
  obtain ⟨b, s', hrun, hvars, hb, howns, hleaf, hcells⟩ :=
    linkDevice_run (A := A) hl.owns hn' r m
  have hpn : Forest.isAt n.1 (p, rootNode o m_userArea d) = false :=
    Forest.isAt_of_ne (hl.addr_ne_root hn).symm
  rw [Forest.addUnder, hpn, if_neg (by decide)] at howns
  refine ⟨b, s', hrun, hl.extend hvars howns (fun k => ?_) ?_ hleaf fun k hk hdev c hc =>
    hcells k.1 c ?_ hc⟩
  · rw [Forest.mem_nodes, Forest.mem_addUnder, ← Forest.mem_nodes]
    have hex : ∃ k, t.Mem k ∧ Forest.isAt n.1 k = true :=
      ⟨n, Forest.mem_nodes.1 hn, Forest.isAt_self n⟩
    simp [hex, deviceLeaf]
  · exact fun hbt => hb (Forest.mem_addrs_node.2 (.inr (.inl hbt)))
  · intro heq
    rw [hl.eq_of_addr hk hn heq, htype] at hdev
    cases hdev

end Linked

section Matches

variable {s : Store DeleteNode TreeVars} {p b : ℕ} {t t' : Forest (ℕ × DeleteNode)}
  {m : List (String × ℕ)} {made : Option (Forest TreeRow)} {r : SqlRow DeviceInfoCol}

/-- With what is to be made below it, the leaf is the node of the device. -/
theorem expand_deviceLeaf {child : Forest TreeRow}
    (h : MtpSync.createDeleteTreeStructDevices o d r.Id = some child) :
    (deviceLeaf b r).expand Prod.snd (pendingBelow o d)
      = (Forest.node (.device r) child .nil).map TreeRow.toNode := by
  have hpending : pendingBelow o d (b, (TreeRow.device r).toNode)
      = child.map TreeRow.toNode := by
    have htype : (TreeRow.device r).toNode.m_typeFlag = .delete_type_devices := rfl
    have hid : (TreeRow.device r).toNode.m_strID = r.Id := rfl
    rw [pendingBelow, if_pos htype, hid, h]
    rfl
  rw [deviceLeaf, Forest.expand, hpending]
  rfl

/-- One root device more, where `place` says. -/
theorem Matches.attach (hm : Matches o d t m made) {place : Forest TreeRow → Forest TreeRow →
      Forest TreeRow}
    (hplace : ∀ f child, made = some f →
      MtpSync.createDeleteTreeStructDevices o d r.Id = some child →
      t'.expand Prod.snd (pendingBelow o d)
        = (place f (.node (.device r) child .nil)).map TreeRow.toNode) :
    Matches o d t' (m ++ [(r.Id, b)])
      (made.bind fun f => (deviceNode o d r).map (place f)) := by
  cases made with
  | none =>
    obtain ⟨e, he, hnone⟩ := hm
    exact ⟨e, List.mem_append_left _ he, hnone⟩
  | some f =>
    obtain ⟨hends, -⟩ := hm
    rw [Option.bind_some, deviceNode]
    cases hdev : MtpSync.createDeleteTreeStructDevices o d r.Id with
    | none => exact ⟨(r.Id, b), List.mem_append_right _ (.head _), hdev⟩
    | some child =>
      refine ⟨fun e he => ?_, hplace f child rfl hdev⟩
      rcases List.mem_append.1 he with he | he
      · exact hends e he
      · obtain rfl := List.mem_singleton.1 he
        exact Option.isSome_of_mem hdev

theorem attachDevice_eq (f : Forest TreeRow) :
    attachDevice o m_userArea d f r =
      if (r.col .AreaId).read = PARENTFLAG ∨ (r.col .AreaId).read = "" then
        (deviceNode o d r).map f.append
      else if (userRoot o m_userArea d).any (fun a => a.Id == (r.col .AreaId).read) then
        (deviceNode o d r).map f.append
      else if f.any (TreeRow.isArea (r.col .AreaId).read) then
        (deviceNode o d r).map fun node =>
          Forest.addUnder (TreeRow.isArea (r.col .AreaId).read) node f
      else some f := by
  rw [attachDevice]
  cases deviceNode o d r <;> rfl

theorem Matches.attach_root (hm : Matches o d t m made) :
    Matches o d (t.append (deviceLeaf b r)) (m ++ [(r.Id, b)])
      (made.bind fun f => (deviceNode o d r).map f.append) := by
  refine hm.attach fun f child hf hdev => ?_
  subst hf
  rw [Forest.expand_append, hm.2, expand_deviceLeaf hdev, Forest.map_append]

theorem Matches.attach_area (hm : Matches o d t m made) (hl : Linked o m_userArea d s p t m)
    {i : String} {n : ℕ × DeleteNode} (hn : n ∈ t.nodes)
    (htype : n.2.m_typeFlag = .delete_type_areas) (hi : n.2.m_strID = i) :
    Matches o d (Forest.addUnder (Forest.isAt n.1) (deviceLeaf b r) t) (m ++ [(r.Id, b)])
      (made.bind fun f => (deviceNode o d r).map fun node =>
        Forest.addUnder (TreeRow.isArea i) node f) := by
  -- it is the one node of that area
  have hpq : ∀ k ∈ t.nodes, Forest.isAt n.1 k = isAreaNode i k.2 := by
    intro k hk
    rw [Bool.eq_iff_iff, Forest.isAt, beq_iff_eq, isAreaNode, Bool.and_eq_true, decide_eq_true_eq,
      decide_eq_true_eq]
    constructor
    · intro heq
      rw [hl.eq_of_addr hk hn heq]
      exact ⟨htype, hi⟩
    · rintro ⟨hktype, hki⟩
      have hkp := hl.areaMap.node k hk hktype
      rw [hki, ← hi, hl.areaMap.node n hn htype] at hkp
      exact (Option.some.inj hkp).symm
  refine hm.attach fun f child hf hdev => ?_
  subst hf
  rw [Forest.expand_addUnder hpq, hm.2, expand_deviceLeaf hdev,
    Forest.map_addUnder fun _ _ => isAreaNode_toNode]
  · intro k hk hat
    rw [hpq k hk, isAreaNode, Bool.and_eq_true, decide_eq_true_eq] at hat
    rw [pendingBelow, hat.1, if_neg (by decide)]
  · exact fun k _ => pendingBelow_isAreaNode k i

/-- Whether the forest has an area is seen from the nodes. -/
theorem Matches.any_iff {f : Forest TreeRow} (hm : Matches o d t m (some f)) (i : String) :
    f.any (TreeRow.isArea i) = true ↔
      ∃ n ∈ t.nodes, n.2.m_typeFlag = .delete_type_areas ∧ n.2.m_strID = i := by
  have hany : f.any (TreeRow.isArea i) = t.any fun n => isAreaNode i n.2 := by
    have hmap := Forest.any_map (f := TreeRow.toNode) (q := isAreaNode i) (t := f)
    rw [← hm.2, Forest.any_expand] at hmap
    · have hsame : TreeRow.isArea i = fun k => isAreaNode i k.toNode :=
        funext fun _ => isAreaNode_toNode
      rw [hsame]
      exact hmap.symm
    · intro n _
      rw [Bool.eq_false_iff, ne_eq, Forest.any_iff]
      rintro ⟨k, hk, hki⟩
      rw [pendingBelow_isAreaNode n i k (Forest.mem_nodes.2 hk)] at hki
      cases hki
  rw [hany, Forest.any_iff]
  simp only [isAreaNode, Bool.and_eq_true, decide_eq_true_eq, Forest.mem_nodes]

end Matches

section RootDevices

variable {s : Store DeleteNode TreeVars} {p : ℕ} {t : Forest (ℕ × DeleteNode)}
  {m : List (String × ℕ)} {made : Option (Forest TreeRow)}

/-- Reading `m_mapAreaIDToNode` leaves its values. -/
theorem Linked.index (hl : Linked o m_userArea d s p t m) (i : String) :
    ∃ s', (indexArea i).run s = (.ok (s'.vars.m_mapAreaIDToNode.value i), s') ∧
      Linked o m_userArea d s' p t m := by
  refine ⟨{ s with vars := { s.vars with
    m_mapAreaIDToNode := (s.vars.m_mapAreaIDToNode.index i).2 } }, ?_, ?_⟩
  · rw [indexArea, Act.bind_run_ok (Act.read_run s), Act.bind_run_ok (setVars_run _ _),
      CMap.index_fst, CMap.index_value]
    rfl
  · refine ⟨⟨hl.owns.ptr, hl.owns.held, hl.owns.nodup, hl.owns.live⟩, ⟨?_, ?_, ?_⟩, hl.device,
      hl.noted, hl.addrs⟩
    · exact fun q hq => CMap.index_value.trans (hl.areaMap.root q hq)
    · exact fun n hn htype => CMap.index_value.trans (hl.areaMap.node n hn htype)
    · exact fun j a hj => hl.areaMap.only j a (CMap.index_value.symm.trans hj)

/-- What one root device does to the nodes and to the forest. -/
private def Step (o : MapOrder) (m_userArea : String) (d : TreeData)
    (r : SqlRow DeviceInfoCol) (p : ℕ) (m : List (String × ℕ)) (made : Option (Forest TreeRow))
    (m' : List (String × ℕ)) (s' : Store DeleteNode TreeVars) : Prop :=
  ∃ t', Linked o m_userArea d s' p t' m' ∧
    Matches o d t' m' (made.bind fun f => attachDevice o m_userArea d f r) ∧
    (m'.map Prod.fst).Sublist (m.map Prod.fst ++ [r.Id])

/-- A device without an area. -/
private theorem step_root (hl : Linked o m_userArea d s p t m) (hm : Matches o d t m made)
    {r : SqlRow DeviceInfoCol}
    (hr : ∀ f, attachDevice o m_userArea d f r = (deviceNode o d r).map f.append) :
    ∃ m' s', (linkDevice A (some p) r m).run s = (.ok m', s') ∧
      Step o m_userArea d r p m made m' s' := by
  obtain ⟨b, s', hrun, hl'⟩ := hl.link_root (A := A) r
  refine ⟨_, s', hrun, _, hl', ?_, ?_⟩
  · simp only [hr]
    exact hm.attach_root
  · rw [List.map_append]
    exact .refl _

/-- A device whose area is looked up. -/
private theorem step_area (hl : Linked o m_userArea d s p t m) (hm : Matches o d t m made)
    {r : SqlRow DeviceInfoCol}
    (hless : ¬((r.col .AreaId).read = PARENTFLAG ∨ (r.col .AreaId).read = "")) :
    match s.vars.m_mapAreaIDToNode.value (r.col .AreaId).read with
    | some a => ∃ m' s', (linkDevice A (some a) r m).run s = (.ok m', s') ∧
        Step o m_userArea d r p m made m' s'
    | none => Matches o d t m (made.bind fun f => attachDevice o m_userArea d f r) := by
  have hmap := hl.areaMap
  cases hroot : (userRoot o m_userArea d).any fun q => q.Id == (r.col .AreaId).read with
  | true =>
    obtain ⟨q, hq, hqid⟩ := (Option.any_eq_true _ _).1 hroot
    rw [← eq_of_beq hqid, hmap.root q hq]
    refine step_root hl hm fun f => ?_
    rw [attachDevice_eq, if_neg hless, if_pos hroot]
  | false =>
    have hnot : ¬∃ q, userRoot o m_userArea d = some q ∧ q.Id = (r.col .AreaId).read := by
      rintro ⟨q, hq, hqid⟩
      rw [hq, Option.any_some, hqid, beq_self_eq_true] at hroot
      cases hroot
    have hattach : ∀ f, attachDevice o m_userArea d f r =
        if f.any (TreeRow.isArea (r.col .AreaId).read) then
          (deviceNode o d r).map fun node =>
            Forest.addUnder (TreeRow.isArea (r.col .AreaId).read) node f
        else some f := fun f => by
      rw [attachDevice_eq, if_neg hless, hroot, if_neg (by decide)]
    cases hvalue : s.vars.m_mapAreaIDToNode.value (r.col .AreaId).read with
    | some a =>
      obtain ⟨n, hn, rfl, hni, htype⟩ := (hmap.only _ a hvalue).resolve_left fun h => hnot h.2
      obtain ⟨b, s', hrun, hl'⟩ := hl.link_area (A := A) hn htype r
      refine ⟨_, s', hrun, _, hl', ?_, ?_⟩
      · have hattached := hm.attach_area (b := b) (r := r) hl hn htype hni
        cases made with
        | none => exact hattached
        | some f =>
          rwa [Option.bind_some, hattach, if_pos ((hm.any_iff _).2 ⟨n, hn, htype, hni⟩)]
      · rw [List.map_append]
        exact .refl _
    | none =>
      cases made with
      | none => exact hm
      | some f =>
        have hany : ¬f.any (TreeRow.isArea (r.col .AreaId).read) = true := by
          rw [hm.any_iff]
          rintro ⟨n, hn, htype, hni⟩
          have hnode := hmap.node n hn htype
          rw [hni, hvalue] at hnode
          cases hnode
        rwa [Option.bind_some, hattach, if_neg hany]

/-- **The root devices**, one after the other. -/
theorem addRootDevices_run (rows : List (SqlRow DeviceInfoCol))
    (hl : Linked o m_userArea d s p t m) (hm : Matches o d t m made) :
    ∃ s' t' m', (addRootDevices A rows m).run s = (.ok m', s') ∧
      Linked o m_userArea d s' p t' m' ∧
      Matches o d t' m' (made.bind fun f =>
        (rows.filter fun r => (r.col .ParentId).read == PARENTFLAG).foldlM
          (attachDevice o m_userArea d) f) ∧
      (m'.map Prod.fst).Sublist (m.map Prod.fst ++ rows.map Row.Id) := by
  induction rows generalizing s t m made with
  | nil =>
    refine ⟨s, t, m, rfl, hl, ?_, ?_⟩
    · cases made <;> exact hm
    · rw [List.map_nil, List.append_nil]
  | cons r rows ih =>
    rw [addRootDevices]
    by_cases hroot : (r.col .ParentId).read = PARENTFLAG
    · rw [if_pos hroot, List.filter_cons_of_pos (by simpa using hroot)]
      -- what the device does, and the devices that are left
      have hstep : ∀ {m₁ s₁}, Step o m_userArea d r p m made m₁ s₁ →
          ∃ s' t' m', (addRootDevices A rows m₁).run s₁ = (.ok m', s') ∧
            Linked o m_userArea d s' p t' m' ∧
            Matches o d t' m' (made.bind fun f =>
              (r :: rows.filter fun r => (r.col .ParentId).read == PARENTFLAG).foldlM
                (attachDevice o m_userArea d) f) ∧
            (m'.map Prod.fst).Sublist (m.map Prod.fst ++ (r :: rows).map Row.Id) := by
        rintro m₁ s₁ ⟨t₁, hl₁, hm₁, hkeys₁⟩
        obtain ⟨s', t', m', hrun, hl', hm', hkeys'⟩ := ih hl₁ hm₁
        refine ⟨s', t', m', hrun, hl', ?_, hkeys'.trans ?_⟩
        · rwa [Option.bind_assoc] at hm'
        · have happend := hkeys₁.append_right (rows.map Row.Id)
          rwa [List.append_assoc] at happend
      by_cases hless : (r.col .AreaId).read = PARENTFLAG ∨ (r.col .AreaId).read = ""
      · rw [if_pos hless, Act.bind_run_ok (Act.read_run s), hl.owns.ptr]
        obtain ⟨m₁, s₁, hrun, hs₁⟩ := step_root (A := A) hl hm (r := r) fun f => by
          rw [attachDevice_eq, if_pos hless]
        obtain ⟨s', t', m', hrest⟩ := hstep hs₁
        refine ⟨s', t', m', ?_⟩
        rwa [Forest.ptr, Act.bind_run_ok hrun]
      · rw [if_neg hless]
        obtain ⟨s₀, hindex, hl₀⟩ := hl.index (r.col .AreaId).read
        rw [Act.bind_run_ok hindex]
        have hs₀ := step_area (A := A) hl₀ hm hless
        cases hvalue : s₀.vars.m_mapAreaIDToNode.value (r.col .AreaId).read with
        | some a =>
          rw [hvalue] at hs₀
          obtain ⟨m₁, s₁, hrun, hs₁⟩ := hs₀
          obtain ⟨s', t', m', hrest⟩ := hstep hs₁
          refine ⟨s', t', m', ?_⟩
          rwa [if_pos (Option.some_ne_none a), Act.bind_run_ok hrun]
        | none =>
          rw [hvalue] at hs₀
          obtain ⟨s', t', m', hrest⟩ :=
            hstep ⟨t, hl₀, hs₀, List.sublist_append_left _ _⟩
          refine ⟨s', t', m', ?_⟩
          rwa [if_neg (not_not.2 rfl)]
    · rw [if_neg hroot, List.filter_cons_of_neg (by simpa using hroot)]
      obtain ⟨s', t', m', hrun, hl', hm', hkeys⟩ := ih hl hm
      exact ⟨s', t', m', hrun, hl', hm', hkeys.trans (.append_left (List.sublist_cons_self _ _) _)⟩

end RootDevices

/-! ## §4 The devices below them -/

section GrowDevices

variable {s : Store DeleteNode TreeVars} {p : ℕ} {t : Forest (ℕ × DeleteNode)}
  {es : List (String × ℕ)}

/-- The devices as nodes. -/
theorem grow_deviceGrower (v : DeleteNode) :
    Forest.grow (deviceGrower o d).children d.fuel ((deviceGrower o d).children v)
      = (MtpSync.createDeleteTreeStructDevices o d v.m_strID).map (Forest.map TreeRow.toNode) := by
  have hchildren : ∀ v : DeleteNode, (deviceGrower o d).children v
      = (devicesBelow o d v.m_strID).map TreeRow.toNode := fun v => by
    rw [devicesBelow, List.map_map]
    rfl
  have hbelow : ∀ i, ∀ n ∈ devicesBelow o d i, ∃ r, n = TreeRow.device r := fun i n hn => by
    obtain ⟨b, -, -, rfl⟩ := mem_devicesBelow.1 hn
    exact ⟨b, rfl⟩
  rw [hchildren]
  refine Forest.map_grow (P := fun n => ∃ r, n = TreeRow.device r) ?_ ?_ (hbelow _)
  · rintro _ ⟨r, rfl⟩
    exact hbelow r.Id
  · rintro _ ⟨r, rfl⟩
    exact hchildren _

theorem notes_device_vars (x : Forest (ℕ × DeleteNode)) (v : TreeVars) :
    (deviceGrower o d).notes x v = v := by
  induction x generalizing v with
  | nil => rfl
  | node n c s ihc ihs =>
    rw [Grower.notes, ihs]
    exact ihc v

/-- What is still to be made, below the nodes in `es` only. -/
def pendingAt (o : MapOrder) (d : TreeData) (es : List (String × ℕ)) (n : ℕ × DeleteNode) :
    Forest DeleteNode :=
  if n.1 ∈ es.map Prod.snd then pendingBelow o d n else .nil

/-- The root devices whose devices are still to be made: nothing is below them. -/
def Waiting (s : Store DeleteNode TreeVars) (t : Forest (ℕ × DeleteNode))
    (es : List (String × ℕ)) : Prop :=
  ∀ e ∈ es, ∃ n ∈ t.nodes, n.2.m_typeFlag = .delete_type_devices ∧ n.1 = e.2 ∧
    n.2.m_strID = e.1 ∧ ∃ q, s.heap.get n.1 = some ⟨n.2, none, q⟩

/-- The devices below one root device. -/
theorem growDevice_run {e : String × ℕ} (hs : Owns s t) (hwait : Waiting s t (e :: es))
    (hnodup : ((e :: es).map Prod.snd).Nodup) :
    match MtpSync.createDeleteTreeStructDevices o d e.1 with
    | none => ((createDeleteTreeStructDevices A o d e.2).run s).1 = .error .hang
    | some _ => ∃ x s', (createDeleteTreeStructDevices A o d e.2).run s = (.ok (), s') ∧
        Owns s' (Forest.addUnder (Forest.isAt e.2) x t) ∧
        Waiting s' (Forest.addUnder (Forest.isAt e.2) x t) es ∧
        (Forest.addUnder (Forest.isAt e.2) x t).expand Prod.snd (pendingAt o d es)
          = t.expand Prod.snd (pendingAt o d (e :: es)) := by
  obtain ⟨h, vars⟩ := s
  obtain ⟨n, hn, htype, hne, hni, q, hcell⟩ := hwait e (.head es)
  rw [List.map_cons, List.nodup_cons] at hnodup
  rw [← hne, ← hni]
  have hgrow : GrowsTo (deviceGrower o d) ⟨h, vars⟩ n.1 n.2 q .nil _
      ((createDeleteTreeStructDevices A o d n.1).run ⟨h, vars⟩) := growBelow_run d.fuel hcell
  rw [grow_deviceGrower] at hgrow
  cases hdev : MtpSync.createDeleteTreeStructDevices o d n.2.m_strID with
  | none =>
    rw [hdev] at hgrow
    exact hgrow
  | some devices =>
    rw [hdev] at hgrow
    obtain ⟨x, h', hmap, hrun, hgrown⟩ := hgrow
    rw [notes_device_vars] at hrun
    have hleaf : t.childOf (Forest.isAt n.1) = .nil := by
      obtain ⟨⟨q', hcell'⟩, -⟩ := hs.held.childOf hs.nodup hn
      have hsome := Option.some.inj (hcell'.symm.trans hcell)
      exact Forest.eq_nil_of_ptr (congrArg Cell.child hsome)
    obtain ⟨hheld', hnodup'⟩ := hgrown.addUnder hs.held hs.nodup hn hleaf hcell
    have hna := Forest.mem_addrs_of_mem hn
    -- the other root devices have other addresses, none of them new
    have hothers : ∀ e' ∈ es, e'.2 ≠ n.1 ∧ e'.2 ∉ x.addrs := fun e' he' => by
      obtain ⟨n', hn', -, hne', -⟩ := hwait e' (.tail e he')
      refine ⟨fun heq => hnodup.1 (List.mem_map.2 ⟨e', he', heq.trans hne⟩), fun hx => ?_⟩
      exact hgrown.fresh _ hx (hne' ▸ hs.held.live _ (Forest.mem_addrs_of_mem hn'))
    have hnew : ∀ k, k.1 = n.1 ∨ k.1 ∈ x.addrs → pendingAt o d es k = .nil := fun k hk => by
      rw [pendingAt, if_neg]
      intro hmem
      obtain ⟨e', he', heq⟩ := List.mem_map.1 hmem
      rcases hk with hk | hk
      · exact (hothers e' he').1 (heq.trans hk)
      · exact (hothers e' he').2 (heq ▸ hk)
    refine ⟨x, ⟨h', vars⟩, hrun, ⟨hs.ptr.trans Forest.ptr_addUnder.symm, hheld', hnodup',
      fun a ha => ?_⟩, fun e' he' => ?_, Forest.expand_addUnder_self (fun k hk hat => ?_)
      fun k hk hat => ?_⟩
    · rw [(Forest.addrs_addUnder_perm hs.nodup hna).mem_iff, List.mem_append]
      by_contra hnot
      rw [not_or] at hnot
      have hget := hgrown.frame a (fun heq => hnot.1 (heq ▸ hna)) (by simp) hnot.2
      exact hnot.1 (hs.live a ((Heap.mem_live _ _).2 (hget ▸ (Heap.mem_live _ _).1 ha)))
    · obtain ⟨n', hn', htype', hne', hni', q', hcell'⟩ := hwait e' (.tail e he')
      obtain ⟨hne'', hnx⟩ := hothers e' he'
      refine ⟨n', ?_, htype', hne', hni', q', ?_⟩
      · exact Forest.mem_nodes.2 (Forest.mem_addUnder.2 (.inl (Forest.mem_nodes.1 hn')))
      · rw [← hne'] at hne'' hnx
        exact (hgrown.frame n'.1 hne'' (by simp) hnx).trans hcell'
    · obtain rfl : k = n := List.inj_on_of_nodup_map hs.nodup hk hn (eq_of_beq hat)
      refine ⟨hnew k (.inl rfl), ?_⟩
      have hmem : k.1 ∈ (e :: es).map Prod.snd := hne ▸ .head _
      rw [pendingAt, if_pos hmem, pendingBelow, if_pos htype, hdev,
        Forest.expand_eq_map fun j hj => hnew j (.inr (Forest.mem_addrs_of_mem hj)), hmap]
      rfl
    · have hkn : k.1 ≠ n.1 := fun heq => by
        rw [Forest.isAt, heq, beq_self_eq_true] at hat
        cases hat
      have hiff : k.1 ∈ (e :: es).map Prod.snd ↔ k.1 ∈ es.map Prod.snd := by
        rw [List.map_cons, List.mem_cons, ← hne, or_iff_right hkn]
      simp only [pendingAt, hiff]

/-- **The devices below the root devices**, in any order. -/
theorem growDevices_run (hs : Owns s t) (hwait : Waiting s t es)
    (hnodup : (es.map Prod.snd).Nodup) :
    ((∀ e ∈ es, (MtpSync.createDeleteTreeStructDevices o d e.1).isSome = true) →
      ∃ t' s', (growDevices A o d es).run s = (.ok (), s') ∧ Owns s' t' ∧
        t'.map Prod.snd = t.expand Prod.snd (pendingAt o d es)) ∧
    ((∃ e ∈ es, MtpSync.createDeleteTreeStructDevices o d e.1 = none) →
      ((growDevices A o d es).run s).1 = .error .hang) := by
  induction es generalizing s t with
  | nil =>
    refine ⟨fun _ => ⟨t, s, rfl, hs, ?_⟩, ?_⟩
    · exact (Forest.expand_eq_map fun n _ => rfl).symm
    · rintro ⟨e, he, -⟩
      cases he
  | cons e es ih =>
    have hone := growDevice_run (A := A) (o := o) (d := d) hs hwait hnodup
    rw [growDevices]
    cases hdev : MtpSync.createDeleteTreeStructDevices o d e.1 with
    | none =>
      rw [hdev] at hone
      refine ⟨fun hall => ?_, fun _ => ?_⟩
      · have hsome := hall e (.head es)
        rw [hdev] at hsome
        cases hsome
      · rcases hrun : (createDeleteTreeStructDevices A o d e.2).run s with ⟨r, s'⟩
        rw [hrun] at hone
        obtain rfl : r = .error .hang := hone
        rw [Act.bind_run_error hrun]
    | some devices =>
      rw [hdev] at hone
      obtain ⟨x, s', hrun, hs', hwait', hexpand⟩ := hone
      rw [List.map_cons, List.nodup_cons] at hnodup
      obtain ⟨hall, hhang⟩ := ih hs' hwait' hnodup.2
      rw [Act.bind_run_ok hrun]
      refine ⟨fun hends => ?_, fun hends => ?_⟩
      · obtain ⟨t'', s'', hrun', hs'', hmap⟩ := hall fun e' he' => hends e' (.tail e he')
        exact ⟨t'', s'', hrun', hs'', hmap.trans hexpand⟩
      · obtain ⟨e', he', hnone⟩ := hends
        rcases List.mem_cons.1 he' with rfl | he'
        · rw [hdev] at hnone
          cases hnone
        · exact hhang ⟨e', he', hnone⟩

end GrowDevices

/-! ## §5 `InitDeleteTreeStruct` -/

/-- The entries of a map are those that were stored. -/
theorem entries_perm {m : List (String × ℕ)} (hnodup : (m.map Prod.fst).Nodup) :
    (o.entries m).Perm m := by
  have hkeys : ((o.entries m).map Prod.fst).Perm (m.map Prod.fst) := keys_entries ▸ o.perm _
  have hentries := List.Nodup.of_map Prod.fst (hkeys.nodup_iff.2 hnodup)
  refine (List.perm_ext_iff_of_nodup hentries (List.Nodup.of_map Prod.fst hnodup)).2 fun e =>
    ⟨mem_of_entries, fun he => ?_⟩
  obtain ⟨e', he', heq⟩ := List.mem_map.1 (hkeys.mem_iff.2 (List.mem_map_of_mem he))
  rwa [← List.inj_on_of_nodup_map hnodup (mem_of_entries he') he heq]

/-- The delete tree in terms of its nodes. -/
theorem initDeleteTreeStruct_eq : MtpSync.initDeleteTreeStruct o m_userArea d
    = (deleteForest o m_userArea d).map fun f =>
        treeOf (.node (rootNode o m_userArea d) (f.map TreeRow.toNode) .nil) := by
  simp only [treeOf, treeOf_toNode]
  rw [MtpSync.initDeleteTreeStruct, rootNode]
  cases deleteForest o m_userArea d with
  | none => rfl
  | some f => cases userRoot o m_userArea d <;> rfl

/-- Below every noted device what is pending is what is still to be made. -/
private theorem Linked.pendingAt_eq {s : Store DeleteNode TreeVars} {p : ℕ}
    {t : Forest (ℕ × DeleteNode)} {m es : List (String × ℕ)}
    (hl : Linked o m_userArea d s p t m) (hes : es.Perm m) {n : ℕ × DeleteNode}
    (hn : n ∈ t.nodes) : pendingAt o d es n = pendingBelow o d n := by
  have hiff : n.1 ∈ es.map Prod.snd ↔ n.2.m_typeFlag = .delete_type_devices := by
    rw [(hes.map Prod.snd).mem_iff, List.mem_map]
    constructor
    · rintro ⟨e, he, heq⟩
      obtain ⟨n', hn', htype, hne, -⟩ := hl.noted e he
      rwa [← hl.eq_of_addr hn' hn (hne.trans heq)]
    · intro htype
      exact ⟨_, (hl.device n hn (by rw [htype]; decide)).2, rfl⟩
  rw [pendingAt, pendingBelow]
  split
  · rfl
  · next hnot => rw [if_neg (mt hiff.2 hnot)]

/-- **`InitDeleteTreeStruct`** makes, from whatever tree there was, the tree of the rows, wherever
its nodes are put; or does not end where there is none. -/
theorem initDeleteTreeStruct_run {s : Store DeleteNode TreeVars} {tree : DeleteTree}
    (hs : PointsTo s tree) :
    match MtpSync.initDeleteTreeStruct o m_userArea d with
    | none => ((initDeleteTreeStruct A o m_userArea d).run s).1 = .error .hang
    | some tree' => ∃ s', (initDeleteTreeStruct A o m_userArea d).run s = (.ok true, s') ∧
        PointsTo s' tree' := by
  obtain ⟨t₀, hs₀, -⟩ := hs
  have hclear := clearDeleteTreeStruct_run hs₀
  have hareas := @createDeleteTreeStructAreas_run A o m_userArea d s.vars.m_mapAreaIDToNode
  rw [initDeleteTreeStruct_eq, deleteForest, initDeleteTreeStruct, Act.bind_run_ok hclear]
  cases hmade : MtpSync.createDeleteTreeStructAreasC o d (rootID o m_userArea d) with
  | none =>
    rw [hmade] at hareas
    rcases hrun : (createDeleteTreeStructAreas A o m_userArea d).run
      ⟨.empty, ⟨none, s.vars.m_mapAreaIDToNode⟩⟩ with ⟨r, s'⟩
    rw [hrun] at hareas
    obtain rfl : r = .error .hang := hareas
    exact congrArg Prod.fst (Act.bind_run_error hrun)
  | some areas =>
    rw [hmade] at hareas
    obtain ⟨p, t, s₁, hrun₁, hs₁, hmap, htypes, hareaMap⟩ := hareas
    have hlinked : Linked o m_userArea d s₁ p t [] :=
      ⟨hs₁, hareaMap, fun n hn hne => absurd (htypes n hn) hne, by simp, List.nodup_nil⟩
    have hmatches : Matches o d t [] (some areas) := by
      refine ⟨by simp, (Forest.expand_eq_map fun n hn => ?_).trans hmap⟩
      rw [pendingBelow, htypes n hn, if_neg (by decide)]
    obtain ⟨s₂, t₂, m, hrun₂, hl, hm, hkeys⟩ :=
      addRootDevices_run (A := A) (o.walk d.device_info) hlinked hmatches
    have hperm : (o.entries m).Perm m := entries_perm (walk_nodup.sublist hkeys)
    have hwait : Waiting s₂ (.node (p, rootNode o m_userArea d) t₂ .nil) (o.entries m) := by
      intro e he
      obtain ⟨n, hn, hnoted⟩ := hl.noted e (hperm.mem_iff.1 he)
      exact ⟨n, .tail _ (List.mem_append_left _ hn), hnoted⟩
    obtain ⟨hall, hhang⟩ := growDevices_run (A := A) (o := o) (d := d) hl.owns hwait
      ((hperm.map Prod.snd).nodup_iff.2 hl.addrs)
    rw [Act.bind_run_ok hrun₁, Act.bind_run_ok hrun₂]
    rw [Option.bind_some] at hm
    rw [Option.bind_eq_bind, Option.bind_some, rootDevices]
    cases hforest : ((o.walk d.device_info).filter fun r =>
        (r.col .ParentId).read == PARENTFLAG).foldlM (attachDevice o m_userArea d) areas with
    | none =>
      rw [hforest] at hm
      obtain ⟨e, he, hnone⟩ := hm
      have hfirst := hhang ⟨e, hperm.mem_iff.2 he, hnone⟩
      rcases hrun : (growDevices A o d (o.entries m)).run s₂ with ⟨r, s'⟩
      rw [hrun] at hfirst
      obtain rfl : r = .error .hang := hfirst
      exact congrArg Prod.fst (Act.bind_run_error hrun)
    | some f =>
      rw [hforest] at hm
      obtain ⟨hends, hexpand⟩ := hm
      obtain ⟨t₃, s₃, hrun₃, hs₃, hmap₃⟩ := hall fun e he => hends e (hperm.mem_iff.1 he)
      refine ⟨s₃, Act.bind_run_ok hrun₃, t₃, hs₃, congrArg treeOf ?_⟩
      have hroot : pendingAt o d (o.entries m) (p, rootNode o m_userArea d) = .nil := by
        rw [pendingAt, if_neg]
        intro hmem
        obtain ⟨e, he, heq⟩ := List.mem_map.1 hmem
        obtain ⟨n, hn, -, hne, -⟩ := hl.noted e (hperm.mem_iff.1 he)
        exact hl.addr_ne_root hn (hne.trans heq)
      rw [hmap₃, Forest.expand, hroot, Forest.append_nil, Forest.expand,
        Forest.expand_congr fun n hn => hl.pendingAt_eq hperm hn, hexpand]

end Devices

/-! ## §6 What is collected -/

section Collect

variable {s : Store DeleteNode TreeVars} {t : Forest (ℕ × DeleteNode)} {fuel : ℕ}

theorem deleteFindID_run (ht : Held s.heap t) (hfuel : t.addrs.length < fuel) (ids : DeleteIds) :
    (deleteFindID fuel t.ptr ids).run s
      = (.ok (MtpSync.deleteFindID (treeOf (t.map Prod.snd)) ids), s) := by
  induction t generalizing fuel ids with
  | nil =>
    obtain ⟨fuel, rfl⟩ : ∃ k, fuel = k + 1 := ⟨fuel - 1, by omega⟩
    rfl
  | node n c k ihc ihk =>
    obtain ⟨fuel, rfl⟩ : ∃ k, fuel = k + 1 := ⟨fuel - 1, by omega⟩
    obtain ⟨hn, hc, hk⟩ := ht
    rw [Forest.addrs_node, List.length_cons, List.length_append] at hfuel
    rw [Forest.ptr, deleteFindID, Act.bind_run_ok (deref_run hn),
      Act.bind_run_ok (ihc hc (by omega) _), ihk hk (by omega)]
    rfl

private theorem collectMarked_run {n : ℕ × DeleteNode} {c k : Forest (ℕ × DeleteNode)}
    (hc : Held s.heap c) (hfuel : c.addrs.length < fuel) (flag : String) (ids : DeleteIds) :
    (collectMarked flag fuel ⟨n.2, c.ptr, k.ptr⟩ ids).run s
      = (.ok (if n.2.m_deleteFlag && n.2.m_strDeleteFlag = flag then
          MtpSync.deleteFindID (treeOf (c.map Prod.snd)) (ids.setAt n.2.m_typeFlag n.2.m_strID)
        else ids), s) := by
  rw [collectMarked]
  split
  · exact deleteFindID_run hc hfuel _
  · rfl

theorem deleteAreaAndDeviceFindID_run (ht : Held s.heap t) (hfuel : t.addrs.length < fuel)
    (ids : DeleteIds × DeleteIds) :
    (deleteAreaAndDeviceFindID fuel t.ptr ids).run s
      = (.ok (MtpSync.deleteAreaAndDeviceFindID (treeOf (t.map Prod.snd)) ids), s) := by
  induction t generalizing fuel ids with
  | nil =>
    obtain ⟨fuel, rfl⟩ : ∃ k, fuel = k + 1 := ⟨fuel - 1, by omega⟩
    rfl
  | node n c k ihc ihk =>
    obtain ⟨fuel, rfl⟩ : ∃ k, fuel = k + 1 := ⟨fuel - 1, by omega⟩
    obtain ⟨hn, hc, hk⟩ := ht
    obtain ⟨real, want⟩ := ids
    rw [Forest.addrs_node, List.length_cons, List.length_append] at hfuel
    rw [Forest.ptr, deleteAreaAndDeviceFindID, Act.bind_run_ok (deref_run hn),
      Act.bind_run_ok (collectMarked_run hc (by omega) _ _),
      Act.bind_run_ok (collectMarked_run hc (by omega) _ _),
      Act.bind_run_ok (ihc hc (by omega) _), ihk hk (by omega)]
    rfl

end Collect

/-! ## §7 Refreshes, syncs and the end -/

/-- What an event makes of the tree, and the ids it collects; nothing if a recursion of the
refresh does not end. -/
def treeStep (m_userArea : String) (tree : DeleteTree) :
    TreeEvent → Option (DeleteTree × List (DeleteIds × DeleteIds))
  | .refresh _ o d => (MtpSync.initDeleteTreeStruct o m_userArea d).map fun tree' => (tree', [])
  | .refreshFailed => some (tree, [])
  | .deleteAreaAndDevice =>
    match tree with
    | .nullptr => some (.nullptr, [])
    | tree => some (tree, [MtpSync.deleteAreaAndDeviceFindID tree (⟨[], []⟩, ⟨[], []⟩)])
  | .close => some (.nullptr, [])

/-- The events of a run, in turn. -/
def treeSteps (m_userArea : String) (tree : DeleteTree) :
    List TreeEvent → Option (DeleteTree × List (DeleteIds × DeleteIds))
  | [] => some (tree, [])
  | e :: es => do
    let (tree', ids) ← treeStep m_userArea tree e
    let (tree'', more) ← treeSteps m_userArea tree' es
    some (tree'', ids ++ more)

/-- A call does on the nodes what is said of the tree. -/
def Refines (m : TreeAct (List (DeleteIds × DeleteIds)))
    (made : Option (DeleteTree × List (DeleteIds × DeleteIds)))
    (s : Store DeleteNode TreeVars) : Prop :=
  match made with
  | some (tree, ids) => ∃ s', m.run s = (.ok ids, s') ∧ PointsTo s' tree
  | none => (m.run s).1 = .error .hang

theorem pointsTo_start : PointsTo ⟨.empty, .start⟩ .nullptr :=
  ⟨.nil, ⟨rfl, trivial, List.nodup_nil, fun _ ha => absurd ha (Finset.notMem_empty _)⟩, rfl⟩

/-- Nothing is left when the tree is gone. -/
theorem live_of_nullptr {s : Store DeleteNode TreeVars} (hs : PointsTo s .nullptr) :
    s.heap.live = ∅ ∧ s.vars.m_deleteTree = none := by
  obtain ⟨t, ht, htree⟩ := hs
  cases t with
  | nil =>
    refine ⟨Finset.eq_empty_of_forall_notMem fun a ha => ?_, ht.ptr⟩
    cases ht.live a ha
  | node n c k => cases htree

theorem treeEvent_refines {m_userArea : String} {s : Store DeleteNode TreeVars} {tree : DeleteTree}
    (hs : PointsTo s tree) (e : TreeEvent) :
    Refines (treeEvent m_userArea e) (treeStep m_userArea tree e) s := by
  cases e with
  | refreshFailed => exact ⟨s, rfl, hs⟩
  | refresh A o d =>
    have hinit := @initDeleteTreeStruct_run A o m_userArea d s tree hs
    rw [treeStep, treeEvent]
    cases hmade : MtpSync.initDeleteTreeStruct o m_userArea d with
    | none =>
      rw [hmade] at hinit
      rcases hrun : (initDeleteTreeStruct A o m_userArea d).run s with ⟨r, s'⟩
      rw [hrun] at hinit
      obtain rfl : r = .error .hang := hinit
      exact congrArg Prod.fst (Act.bind_run_error hrun)
    | some tree' =>
      rw [hmade] at hinit
      obtain ⟨s', hrun, hs'⟩ := hinit
      exact ⟨s', Act.bind_run_ok hrun, hs'⟩
  | deleteAreaAndDevice =>
    obtain ⟨t, ht, rfl⟩ := hs
    rw [treeEvent]
    cases t with
    | nil =>
      have hptr : s.vars.m_deleteTree = none := ht.ptr
      refine ⟨s, ?_, .nil, ht, rfl⟩
      rw [Act.bind_run_ok (Act.read_run s), if_pos hptr]
      rfl
    | node n c k =>
      have hcollect := deleteAreaAndDeviceFindID_run ht.held
        (Nat.lt_succ_of_le (ht.held.length_le ht.nodup)) (⟨[], []⟩, ⟨[], []⟩)
      refine ⟨s, ?_, .node n c k, ht, rfl⟩
      rw [Act.bind_run_ok (Act.read_run s), ht.ptr, if_neg (by simp [Forest.ptr]),
        Act.bind_run_ok (nodeFuel_run s), Act.bind_run_ok hcollect]
      rfl
  | close =>
    obtain ⟨t, ht, -⟩ := hs
    exact ⟨_, Act.bind_run_ok (clearDeleteTreeStruct_run ht), .nil,
      ⟨rfl, trivial, List.nodup_nil, fun _ ha => absurd ha (Finset.notMem_empty _)⟩, rfl⟩

theorem treeEvents_refines {m_userArea : String} {s : Store DeleteNode TreeVars}
    {tree : DeleteTree} (hs : PointsTo s tree) (es : List TreeEvent) :
    Refines (treeEvents m_userArea es) (treeSteps m_userArea tree es) s := by
  induction es generalizing s tree with
  | nil => exact ⟨s, rfl, hs⟩
  | cons e es ih =>
    have hevent : Refines (treeEvent m_userArea e) _ s := treeEvent_refines hs e
    cases hstep : treeStep m_userArea tree e with
    | none =>
      rw [hstep] at hevent
      rcases hrun : (treeEvent m_userArea e).run s with ⟨r, s'⟩
      have hr : r = .error .hang := (congrArg Prod.fst hrun).symm.trans hevent
      subst hr
      rw [treeSteps, hstep]
      exact congrArg Prod.fst (Act.bind_run_error hrun)
    | some made =>
      obtain ⟨tree', ids⟩ := made
      rw [hstep] at hevent
      obtain ⟨s', hrun, hs'⟩ := hevent
      have hrest := ih hs'
      have hcons : (treeEvents m_userArea (e :: es)).run s
          = (treeEvents m_userArea es >>= fun more => pure (ids ++ more)).run s' :=
        Act.bind_run_ok hrun
      rw [treeSteps, hstep]
      cases hsteps : treeSteps m_userArea tree' es with
      | none =>
        rw [hsteps] at hrest
        rcases hrun' : (treeEvents m_userArea es).run s' with ⟨r, s''⟩
        have hr : r = .error .hang := (congrArg Prod.fst hrun').symm.trans hrest
        subst hr
        rw [Act.bind_run_error hrun'] at hcons
        simp only [Option.bind_eq_bind, Option.bind_some, hsteps, Option.bind_none]
        exact congrArg Prod.fst hcons
      | some made =>
        rw [hsteps] at hrest
        obtain ⟨s'', hrun', hs''⟩ := hrest
        rw [Act.bind_run_ok hrun'] at hcons
        simp only [Option.bind_eq_bind, Option.bind_some, hsteps]
        exact ⟨s'', hcons, hs''⟩

/-- The last event that closes the window leaves no tree. -/
theorem treeSteps_close {m_userArea : String} {tree tree' : DeleteTree} {es : List TreeEvent}
    {ids : List (DeleteIds × DeleteIds)}
    (h : treeSteps m_userArea tree (es ++ [.close]) = some (tree', ids)) : tree' = .nullptr := by
  induction es generalizing tree ids with
  | nil =>
    cases h
    rfl
  | cons e es ih =>
    obtain ⟨⟨tree₁, ids₁⟩, -, hrest⟩ := Option.bind_eq_some_iff.1 h
    obtain ⟨⟨tree₂, ids₂⟩, hsteps, heq⟩ := Option.bind_eq_some_iff.1 hrest
    cases heq
    exact ih hsteps

/-- **A run of the program** makes and walks on the heap the trees that are said of it, wherever
`new` puts the nodes; between two events the live nodes are those of the tree. -/
theorem tree_on_heap (m_userArea : String) (es : List TreeEvent) :
    Refines (treeEvents m_userArea es) (treeSteps m_userArea .nullptr es) ⟨.empty, .start⟩ :=
  treeEvents_refines pointsTo_start es

/-- **No run** follows a null or a dangling pointer or deletes a node twice, and one that ends with
the window leaves no node behind. -/
theorem tree_memory_safe (m_userArea : String) (es : List TreeEvent) :
    ((treeEvents m_userArea es).run ⟨.empty, .start⟩).1 ≠ .error .undefined ∧
      ∀ ids s', (treeEvents m_userArea (es ++ [.close])).run ⟨.empty, .start⟩ = (.ok ids, s') →
        s'.heap.live = ∅ ∧ s'.vars.m_deleteTree = none := by
  constructor
  · have hrun : Refines (treeEvents m_userArea es) _ _ := treeEvents_refines pointsTo_start es
    intro hundefined
    cases hsteps : treeSteps m_userArea .nullptr es with
    | none =>
      rw [hsteps] at hrun
      cases hundefined.symm.trans hrun
    | some made =>
      rw [hsteps] at hrun
      obtain ⟨s', hok, -⟩ := hrun
      rw [hok] at hundefined
      cases hundefined
  · intro ids s' hok
    have hrun : Refines (treeEvents m_userArea (es ++ [.close])) _ _ :=
      treeEvents_refines pointsTo_start (es ++ [.close])
    cases hsteps : treeSteps m_userArea .nullptr (es ++ [.close]) with
    | none =>
      rw [hsteps] at hrun
      rw [Refines, hok] at hrun
      cases hrun
    | some made =>
      obtain ⟨tree, ids'⟩ := made
      obtain rfl := treeSteps_close hsteps
      rw [hsteps] at hrun
      obtain ⟨s'', hok', hs''⟩ := hrun
      have heq := hok.symm.trans hok'
      injection heq with _ hstate
      exact hstate ▸ live_of_nullptr hs''

end Pointers

end MtpSync
