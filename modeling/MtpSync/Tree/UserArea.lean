import MtpSync.Tree.Collected

/-!
# The deletes of a logged-in user

The tree of a user is rooted at the user's area, so that a sync deletes what is marked below that
area.  Devices without an area hang on the root as well, whatever the root is; and where the
user's area is not in the table, the root is the one above all areas.

- §1 inside the user's area
- §2 when the deletes stay inside
-/

namespace MtpSync

/-! ## §1 Inside the user's area -/

/-- `i` is the id of the user's area or of an area below it. -/
def TreeData.InUserArea (d : TreeData) (m_userArea i : String) : Prop :=
  ∃ b a, d.UserArea m_userArea b ∧ d.AreaChain b a ∧ a.Id = i

/-- The ids collected are ids of the user's area, of areas below it, and of devices below a root
device of one of these; without the user's area none are collected. -/
structure DeletesInside (d : TreeData) (m_userArea : String) (ids : DeleteIds × DeleteIds) :
    Prop where
  areas : ∀ i, i ∈ ids.1.areas ∨ i ∈ ids.2.areas → d.InUserArea m_userArea i
  devices : ∀ i, i ∈ ids.1.devices ∨ i ∈ ids.2.devices →
    ∃ r x, d.RootDevice r ∧ d.DeviceChain r x ∧ x.Id = i ∧
      d.InUserArea m_userArea (r.col .AreaId).read
  missing : (¬∃ b, d.UserArea m_userArea b) →
    ids.1.areas = [] ∧ ids.1.devices = [] ∧ ids.2.areas = [] ∧ ids.2.devices = []

/-- The state `'2'` or `'3'`. -/
def IsMarked (v : Text) : Prop := v.read = DELETEFLAG ∨ v.read = DELETEFLAG_WANT

/-- What keeps the deletes inside: where the user's area is there, nothing is marked at or below
a root device without an area, and there is no such device if the user's area itself is marked;
where it is not there, nothing that hangs on the root is marked. -/
structure StaysInside (d : TreeData) (m_userArea : String) : Prop where
  areaLess : ∀ b r, d.UserArea m_userArea b → d.RootDevice r → AreaLess r →
    ¬d.InUserArea m_userArea (r.col .AreaId).read →
      ¬IsMarked (b.col .SynchronState) ∧
        ∀ x, d.DeviceChain r x → ¬IsMarked (x.col .SynchronState)
  areas : (¬∃ b, d.UserArea m_userArea b) →
    ∀ a, d.ReachesRoot a → ¬IsMarked (a.col .SynchronState)
  devices : (¬∃ b, d.UserArea m_userArea b) →
    ∀ r x, d.RootDevice r → (AreaLess r ∨ ∃ a, d.ReachesRoot a ∧ a.Id = (r.col .AreaId).read) →
      d.DeviceChain r x → ¬IsMarked (x.col .SynchronState)

section Inside

variable {o : MapOrder} {m_userArea : String} {d : TreeData} {tree : DeleteTree}

theorem userArea_unique {a b : SqlRow AreasCol} (ha : d.UserArea m_userArea a)
    (hb : d.UserArea m_userArea b) : a = b :=
  Table.eq_of_Id_eq ha.2.1 hb.2.1 (ha.2.2.trans hb.2.2.symm)

/-- With the user's area there, the areas of the tree are those inside it. -/
theorem inTree_iff_below {q a : SqlRow AreasCol} (hq : d.UserArea m_userArea q) :
    d.InTree m_userArea a ↔ d.AreaChain q a := by
  constructor
  · rintro ⟨top, htop | ⟨hmissing, -⟩, hchain⟩
    · exact userArea_unique htop hq ▸ hchain
    · exact absurd ⟨q, hq⟩ hmissing
  · intro hchain
    exact ⟨q, .inl hq, hchain⟩

/-- An area in one of the two sets: it is marked in either way, or below one that is. -/
theorem mem_areas_iff (h : initDeleteTreeStruct o m_userArea d = some tree) {i : String} :
    i ∈ tree.ids.1.areas ∨ i ∈ tree.ids.2.areas ↔
      ∃ a b, a.Id = i ∧ d.InTree m_userArea b ∧ d.AreaChain b a ∧
        IsMarked (b.col .SynchronState) := by
  obtain ⟨hreal, hwant⟩ := ids_of_initDeleteTreeStruct h
  rw [hreal.areas, hwant.areas]
  constructor
  · rintro (⟨a, hId, b, hb, hchain, hflag⟩ | ⟨a, hId, b, hb, hchain, hflag⟩)
    · exact ⟨a, b, hId, hb, hchain, .inl hflag⟩
    · exact ⟨a, b, hId, hb, hchain, .inr hflag⟩
  · rintro ⟨a, b, hId, hb, hchain, hflag | hflag⟩
    · exact .inl ⟨a, hId, b, hb, hchain, hflag⟩
    · exact .inr ⟨a, hId, b, hb, hchain, hflag⟩

/-- A device in one of the two sets. -/
theorem mem_devices_iff (h : initDeleteTreeStruct o m_userArea d = some tree) {i : String} :
    i ∈ tree.ids.1.devices ∨ i ∈ tree.ids.2.devices ↔
      ∃ x r, x.Id = i ∧ d.DeviceChain r x ∧
        ((d.Attached m_userArea r ∧
            ∃ y, d.DeviceChain r y ∧ d.DeviceChain y x ∧ IsMarked (y.col .SynchronState)) ∨
          ∃ b, d.AboveDevice m_userArea b r ∧ IsMarked (b.col .SynchronState)) := by
  obtain ⟨hreal, hwant⟩ := ids_of_initDeleteTreeStruct h
  rw [hreal.devices, hwant.devices]
  constructor
  · rintro (⟨x, hId, r, hchain, ⟨hr, y, hy, hy', hflag⟩ | ⟨b, hb, hflag⟩⟩ |
      ⟨x, hId, r, hchain, ⟨hr, y, hy, hy', hflag⟩ | ⟨b, hb, hflag⟩⟩)
    · exact ⟨x, r, hId, hchain, .inl ⟨hr, y, hy, hy', .inl hflag⟩⟩
    · exact ⟨x, r, hId, hchain, .inr ⟨b, hb, .inl hflag⟩⟩
    · exact ⟨x, r, hId, hchain, .inl ⟨hr, y, hy, hy', .inr hflag⟩⟩
    · exact ⟨x, r, hId, hchain, .inr ⟨b, hb, .inr hflag⟩⟩
  · rintro ⟨x, r, hId, hchain, ⟨hr, y, hy, hy', hflag | hflag⟩ | ⟨b, hb, hflag | hflag⟩⟩
    · exact .inl ⟨x, hId, r, hchain, .inl ⟨hr, y, hy, hy', hflag⟩⟩
    · exact .inr ⟨x, hId, r, hchain, .inl ⟨hr, y, hy, hy', hflag⟩⟩
    · exact .inl ⟨x, hId, r, hchain, .inr ⟨b, hb, hflag⟩⟩
    · exact .inr ⟨x, hId, r, hchain, .inr ⟨b, hb, hflag⟩⟩

/-! ## §2 When the deletes stay inside -/

/-- A root device of the tree is of an area inside the user's, or of none. -/
theorem inUserArea_of_attached {q : SqlRow AreasCol} (hq : d.UserArea m_userArea q)
    {r : SqlRow DeviceInfoCol} (hr : d.Attached m_userArea r) :
    AreaLess r ∨ d.InUserArea m_userArea (r.col .AreaId).read := by
  rcases hr.2 with hless | ⟨a, ha, hId⟩
  · exact .inl hless
  · exact .inr ⟨q, a, hq, (inTree_iff_below hq).1 ha, hId⟩

theorem attached_of_inUserArea {r : SqlRow DeviceInfoCol} (hr : d.RootDevice r)
    (hin : d.InUserArea m_userArea (r.col .AreaId).read) : d.Attached m_userArea r := by
  obtain ⟨q, a, hq, hchain, hId⟩ := hin
  exact ⟨hr, .inr ⟨a, (inTree_iff_below hq).2 hchain, hId⟩⟩

/-- What was collected below a device without an area outside the user's is outside as well. -/
private theorem outside_of_areaLess (h : initDeleteTreeStruct o m_userArea d = some tree)
    (hin : DeletesInside d m_userArea tree.ids) {r x : SqlRow DeviceInfoCol} (hr : d.RootDevice r)
    (hless : AreaLess r) (hchain : d.DeviceChain r x)
    (hout : ¬d.InUserArea m_userArea (r.col .AreaId).read) :
    ¬(x.Id ∈ tree.ids.1.devices ∨ x.Id ∈ tree.ids.2.devices) := by
  intro hmem
  obtain ⟨t, ht, -⟩ := of_initDeleteTreeStruct h
  obtain ⟨r', x', hr', hchain', hId, hin'⟩ := hin.devices x.Id hmem
  have hx : x' = x := Table.eq_of_Id_eq (mem_of_parents hchain' hr'.1)
    (mem_of_parents hchain hr.1) hId
  subst hx
  have heq := attached_unique ht ⟨hr, .inl hless⟩ (attached_of_inUserArea hr' hin') hchain hchain'
  subst heq
  exact hout hin'

theorem staysInside_of_inside (h : initDeleteTreeStruct o m_userArea d = some tree)
    (hin : DeletesInside d m_userArea tree.ids) : StaysInside d m_userArea where
  areaLess b r hb hr hless hout := by
    constructor
    · intro hmarked
      refine outside_of_areaLess h hin hr hless .refl hout ((mem_devices_iff h).2 ?_)
      exact ⟨r, r, rfl, .refl, .inr ⟨b, ⟨hr, .inl ⟨hless, hb⟩⟩, hmarked⟩⟩
    · intro x hchain hmarked
      refine outside_of_areaLess h hin hr hless hchain hout ((mem_devices_iff h).2 ?_)
      exact ⟨x, r, rfl, hchain, .inl ⟨⟨hr, .inl hless⟩, x, hchain, .refl, hmarked⟩⟩
  areas hmissing a ha hmarked := by
    -- the area would be collected, but nothing may be
    obtain ⟨hreal, -, hwant, -⟩ := hin.missing hmissing
    have hmem := (mem_areas_iff h).2
      ⟨a, a, rfl, (inTree_iff_reachesRoot hmissing).2 ha, .refl, hmarked⟩
    rw [hreal, hwant] at hmem
    simp at hmem
  devices hmissing r x hr harea hchain hmarked := by
    obtain ⟨-, hreal, -, hwant⟩ := hin.missing hmissing
    have hattached : d.Attached m_userArea r := by
      refine ⟨hr, harea.imp_right ?_⟩
      rintro ⟨a, ha, hId⟩
      exact ⟨a, (inTree_iff_reachesRoot hmissing).2 ha, hId⟩
    have hmem := (mem_devices_iff h).2
      ⟨x, r, rfl, hchain, .inl ⟨hattached, x, hchain, .refl, hmarked⟩⟩
    rw [hreal, hwant] at hmem
    simp at hmem

/-- Without the user's area nothing is collected, if nothing that hangs on the root is marked. -/
private theorem collected_nil (h : initDeleteTreeStruct o m_userArea d = some tree)
    (hstays : StaysInside d m_userArea) (hmissing : ¬∃ b, d.UserArea m_userArea b) {i : String} :
    ¬(i ∈ tree.ids.1.areas ∨ i ∈ tree.ids.2.areas) ∧
      ¬(i ∈ tree.ids.1.devices ∨ i ∈ tree.ids.2.devices) := by
  constructor
  · rw [mem_areas_iff h]
    rintro ⟨a, b, -, hb, -, hmarked⟩
    exact hstays.areas hmissing b ((inTree_iff_reachesRoot hmissing).1 hb) hmarked
  · rw [mem_devices_iff h]
    rintro ⟨x, r, -, hchain, ⟨hr, y, hy, -, hmarked⟩ | ⟨b, ⟨hr, ⟨-, huser⟩ | ⟨-, hb, -⟩⟩, hmarked⟩⟩
    · refine hstays.devices hmissing r y hr.1 (hr.2.imp_right ?_) hy hmarked
      rintro ⟨a, ha, hId⟩
      exact ⟨a, (inTree_iff_reachesRoot hmissing).1 ha, hId⟩
    · exact hmissing ⟨b, huser⟩
    · exact hstays.areas hmissing b ((inTree_iff_reachesRoot hmissing).1 hb) hmarked

theorem inside_of_staysInside (h : initDeleteTreeStruct o m_userArea d = some tree)
    (hstays : StaysInside d m_userArea) : DeletesInside d m_userArea tree.ids := by
  by_cases hmissing : ¬∃ b, d.UserArea m_userArea b
  · refine ⟨fun i hi => absurd hi (collected_nil h hstays hmissing).1,
      fun i hi => absurd hi (collected_nil h hstays hmissing).2, fun _ => ?_⟩
    simp only [List.eq_nil_iff_forall_not_mem]
    exact ⟨fun i hi => (collected_nil h hstays hmissing).1 (.inl hi),
      fun i hi => (collected_nil h hstays hmissing).2 (.inl hi),
      fun i hi => (collected_nil h hstays hmissing).1 (.inr hi),
      fun i hi => (collected_nil h hstays hmissing).2 (.inr hi)⟩
  · obtain ⟨q, hq⟩ := not_not.1 hmissing
    refine ⟨fun i hi => ?_, fun i hi => ?_, fun hno => absurd hno hmissing⟩
    · -- every area of the tree is below the user's
      obtain ⟨a, b, hId, hb, hchain, -⟩ := (mem_areas_iff h).1 hi
      exact ⟨q, a, hq, ((inTree_iff_below hq).1 hb).trans hchain, hId⟩
    · obtain ⟨x, r, hId, hchain, hcases⟩ := (mem_devices_iff h).1 hi
      refine ⟨r, x, ?_, hchain, hId, ?_⟩
      · rcases hcases with ⟨hr, -⟩ | ⟨b, hb, -⟩
        · exact hr.1
        · exact hb.1
      · -- a device outside is in the tree only as one without an area
        by_contra hout
        rcases hcases with ⟨hr, y, hy, -, hmarked⟩ |
          ⟨b, ⟨hr, ⟨hless, hb⟩ | ⟨-, hb, a, habove, ha⟩⟩, hmarked⟩
        · have hless := (inUserArea_of_attached hq hr).resolve_right hout
          exact (hstays.areaLess q r hq hr.1 hless hout).2 y hy hmarked
        · exact (hstays.areaLess b r hb hr hless hout).1 hmarked
        · exact hout ⟨q, a, hq, ((inTree_iff_below hq).1 hb).trans habove, ha⟩

end Inside

/-- **The deletes of a logged-in user stay inside the user's area** exactly if, with the area in
the table, nothing is marked at or below a root device without an area and the area itself is not
marked while there is such a device, and, with the area not in the table, nothing that hangs on
the root is marked. -/
theorem deletes_inside_iff (o : MapOrder) (m_userArea : String) (d : TreeData) (tree : DeleteTree)
    (hbuilt : initDeleteTreeStruct o m_userArea d = some tree) :
    DeletesInside d m_userArea (deleteAreaAndDeviceFindID tree (⟨[], []⟩, ⟨[], []⟩)) ↔
      StaysInside d m_userArea :=
  ⟨staysInside_of_inside hbuilt, inside_of_staysInside hbuilt⟩

/-- The user's area, and a deleted device without an area. -/
def TreeData.areaLessDevice : TreeData where
  areas := ⟨[areaRow "u" "0" "0"], by decide⟩
  device_info := ⟨[deviceRow "d" "0" "0" "3"], by decide⟩

/-- The user's area with a deleted device in it. -/
def TreeData.deviceOfUser : TreeData where
  areas := ⟨[areaRow "u" "0" "0"], by decide⟩
  device_info := ⟨[deviceRow "d" "0" "u" "3"], by decide⟩

/-- A deleted device of the user's area is collected, and nothing outside. -/
theorem device_of_user_inside :
    ∃ tree, initDeleteTreeStruct .inserted "u" .deviceOfUser = some tree ∧
      DeletesInside .deviceOfUser "u" (deleteAreaAndDeviceFindID tree (⟨[], []⟩, ⟨[], []⟩)) := by
  have hu : areaRow "u" "0" "0" ∈ TreeData.deviceOfUser.areas := List.mem_cons_self
  have hpresent : TreeData.deviceOfUser.UserArea "u" (areaRow "u" "0" "0") :=
    ⟨by decide, hu, rfl⟩
  refine ⟨_, rfl, (deletes_inside_iff .inserted "u" .deviceOfUser _ rfl).2 ⟨?_, ?_, ?_⟩⟩
  · intro b r _ hr hless hout
    rw [List.mem_singleton.1 hr.1] at hout
    exact absurd ⟨_, _, hpresent, .refl, rfl⟩ hout
  · exact fun hmissing => absurd ⟨_, hpresent⟩ hmissing
  · exact fun hmissing => absurd ⟨_, hpresent⟩ hmissing

/-- A deleted device without an area is collected for every user, and a deleted area with its
devices for a user whose area is not in the table. -/
theorem area_less_device_collected :
    (∃ tree, initDeleteTreeStruct .inserted "u" .areaLessDevice = some tree ∧
      ¬DeletesInside .areaLessDevice "u"
        (deleteAreaAndDeviceFindID tree (⟨[], []⟩, ⟨[], []⟩))) ∧
    ∃ tree, initDeleteTreeStruct .inserted "u" .deletedArea = some tree ∧
      ¬DeletesInside .deletedArea "u" (deleteAreaAndDeviceFindID tree (⟨[], []⟩, ⟨[], []⟩)) := by
  constructor
  · refine ⟨_, rfl, fun hin => ?_⟩
    obtain ⟨r, x, hr, -, -, b, a, hb, hchain, hId⟩ := hin.devices "d" (.inl List.mem_cons_self)
    rw [List.mem_singleton.1 hr.1, List.mem_singleton.1 (mem_of_parents hchain hb.2.1)] at hId
    exact absurd hId (by decide)
  · refine ⟨_, rfl, fun hin => ?_⟩
    have hmissing : ¬∃ b, TreeData.deletedArea.UserArea "u" b := by
      rintro ⟨b, -, hb, hId⟩
      rw [List.mem_singleton.1 hb] at hId
      exact absurd hId (by decide)
    exact absurd (hin.missing hmissing).1 (by decide)

end MtpSync
