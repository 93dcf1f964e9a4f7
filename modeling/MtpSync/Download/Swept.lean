import MtpSync.Download.DeletePass
import MtpSync.Download.Succeeds
import MtpSync.Tree.Collected

/-!
# What the delete pass leaves behind

The rows that hang on a deleted device go by four `NOT IN` deletes, those of a deleted area's users
by a delete of their own.  A device goes with its area only when the tree has it below the area:
the tree follows the area of the *root* device, so a device whose own area is another one, or
whose parent is missing, stays and keeps the area it no longer has.

- §1 the arrays, in terms of the rows the tree was built from
- §2 what a swept phone is
- §3 the pass when every call succeeds
- §4 when it sweeps
-/

namespace MtpSync

open Act

/-! ## §1 The arrays -/

/-- `i` is the id of an area marked `'3'` or `'2'`, or below one. -/
def TreeData.AreaCollected (t : TreeData) (m_userArea i : String) : Prop :=
  i ≠ "" ∧ ∃ a, a.Id = i ∧
    (t.MarkedArea m_userArea DELETEFLAG a ∨ t.MarkedArea m_userArea DELETEFLAG_WANT a)

/-- `i` is the id of a device the tree has below what is marked `'3'` or `'2'`, or marked itself. -/
def TreeData.DeviceCollected (t : TreeData) (m_userArea i : String) : Prop :=
  i ≠ "" ∧ ∃ x, x.Id = i ∧
    (t.MarkedDevice m_userArea DELETEFLAG x ∨ t.MarkedDevice m_userArea DELETEFLAG_WANT x)

section Arrays

variable {o : MapOrder} {m_userArea : String} {t : TreeData} {tree : DeleteTree}

theorem mem_arys_areas (h : initDeleteTreeStruct o m_userArea t = some tree) (o' : MapOrder)
    {i : String} : i ∈ (tree.arys o').areas ↔ t.AreaCollected m_userArea i := by
  obtain ⟨hreal, hwant⟩ := ids_of_initDeleteTreeStruct h
  have harys : (tree.arys o').areas = o'.strAry tree.ids.1.areas ++ o'.strAry tree.ids.2.areas :=
    rfl
  rw [harys, List.mem_append, MapOrder.mem_strAry, MapOrder.mem_strAry, hreal.areas, hwant.areas,
    ← or_and_right, and_comm, TreeData.AreaCollected]
  simp only [and_or_left, exists_or]

theorem mem_arys_devices (h : initDeleteTreeStruct o m_userArea t = some tree) (o' : MapOrder)
    {i : String} : i ∈ (tree.arys o').devices ↔ t.DeviceCollected m_userArea i := by
  obtain ⟨hreal, hwant⟩ := ids_of_initDeleteTreeStruct h
  have harys : (tree.arys o').devices =
      o'.strAry tree.ids.1.devices ++ o'.strAry tree.ids.2.devices := rfl
  rw [harys, List.mem_append, MapOrder.mem_strAry, MapOrder.mem_strAry, hreal.devices,
    hwant.devices, ← or_and_right, and_comm, TreeData.DeviceCollected]
  simp only [and_or_left, exists_or]

end Arrays

/-! ## §2 A swept phone -/

/-- `i` is a key that went. -/
def Table.Removed {C : Type} (t t' : SqlTable C) (i : String) : Prop := i ∈ t.ids ∧ i ∉ t'.ids

/-- No column `c` of `t` names a key for which `P` holds. -/
def Table.Unreferred {C : Type} (t : SqlTable C) (c : C) (P : String → Prop) : Prop :=
  ∀ r ∈ t, ∀ i, P i → r.col c ≠ some i

/-- After `DELETE FROM t WHERE c NOT in (…)` the column names keys of the list only. -/
theorem Table.unreferred_deleteNotIn {C : Type} {t : SqlTable C} {c : C} {ids : List String}
    {P : String → Prop} (hP : ∀ i, P i → i ∉ ids) : (t.deleteNotIn c ids).Unreferred c P := by
  intro r hr i hi href
  rw [Table.mem_deleteNotIn, href] at hr
  have hmem : i ∈ ids := by simpa [Text.notIn] using hr.2
  exact hP i hi hmem

/-- Nothing names a key when none went. -/
theorem Table.unreferred_same {C C' : Type} {t : SqlTable C} {c : C} (t' : SqlTable C') :
    t.Unreferred c (t'.Removed t') := by
  intro r _ i hi
  exact absurd hi.1 hi.2

/-- `d'` has nothing left of the arrays, and nothing in it names what went from `d`. -/
structure Swept (a : DeleteArys) (d d' : SqliteDB) : Prop where
  areas : ∀ i ∈ a.areas, i ∉ d'.areas.ids
  devices : ∀ i ∈ a.devices, i ∉ d'.device_info.ids
  deviceAreas : d'.device_info.Unreferred .AreaId (d.areas.Removed d'.areas)
  userAreas : d'.user_table.Unreferred .data_areas (d.areas.Removed d'.areas)
  types : d'.work_type.Unreferred .DeviceId (d.device_info.Removed d'.device_info)
  tasks : d'.work_task.Unreferred .DeviceId (d.device_info.Removed d'.device_info)
  records : d'.work_record.Unreferred .DeviceId (d.device_info.Removed d'.device_info)
  templates : d'.work_template.Unreferred .WorkTypeId (d.work_type.Removed d'.work_type)

/-! ## §3 Every call succeeds -/

section Pass

variable (a : DeleteArys) (db : MysqlDB) (d : SqliteDB)

/-- What the pass makes of a file when every call succeeds. -/
abbrev DeleteArys.swept : SqliteDB := DeleteAreaRc.allOk.passEffect a db d

private theorem allOk_devicesAlive : DeleteAreaRc.allOk.devicesAlive a = true := by
  simp [DeleteAreaRc.devicesAlive, DeleteAreaRc.allOk]

private theorem allOk_areasAlive : DeleteAreaRc.allOk.areasAlive a = true := by
  unfold DeleteAreaRc.areasAlive
  rw [allOk_devicesAlive]
  simp [DeleteAreaRc.allOk]

/-- The devices: without one to delete nothing is done. -/
private theorem allOk_devicesEffect : DeleteAreaRc.allOk.devicesEffect a d =
    if a.devices = [] then d
    else SqliteDB.deleteOrphans.foldl (fun d f => f d)
      (a.devices.foldl SqliteDB.deleteDevice d) := by
  have hbound : DeleteAreaRc.allOk.devices.bound a.devices = a.devices := QuickRc.bound_allOk _
  unfold DeleteAreaRc.devicesEffect
  by_cases hnil : a.devices = []
  · simp [hnil]
  · rw [if_pos ⟨hnil, QuickRc.allOk_ok _⟩, if_neg hnil, hbound]
    rfl

/-- The areas and their users; with no area to delete these change nothing. -/
private theorem allOk_areasEffect : DeleteAreaRc.allOk.areasEffect a d =
    a.areas.foldl SqliteDB.deleteUsersOf (a.areas.foldl SqliteDB.deleteArea d) := by
  unfold DeleteAreaRc.areasEffect
  have husers : DeleteAreaRc.allOk.users.ok a.areas.length = true := QuickRc.allOk_ok _
  have hareas : DeleteAreaRc.allOk.areas.bound a.areas = a.areas := QuickRc.bound_allOk _
  have husersOf : DeleteAreaRc.allOk.users.bound a.areas = a.areas := QuickRc.bound_allOk _
  by_cases hnil : a.areas = []
  · simp [hnil]
  · rw [if_pos ⟨hnil, allOk_devicesAlive a, QuickRc.allOk_ok _⟩]
    dsimp only
    rw [if_pos husers, hareas, husersOf]

/-- The users marked on the server. -/
private theorem allOk_usersEffect : DeleteAreaRc.allOk.usersEffect a db d =
    db.usersToDelete.foldl SqliteDB.deleteUser d := by
  have hbound : DeleteAreaRc.allOk.marked.bound db.usersToDelete = db.usersToDelete :=
    QuickRc.bound_allOk _
  unfold DeleteAreaRc.usersEffect
  rw [if_pos ⟨rfl, allOk_areasAlive a, QuickRc.allOk_ok _⟩, hbound]

/-- The pass on the tables of areas and users comes after the devices' on the others. -/
private theorem swept_eq : a.swept db d =
    { DeleteAreaRc.allOk.devicesEffect a d with
      areas := (DeleteAreaRc.allOk.devicesEffect a d).areas.deleteIds a.areas
      user_table := ((DeleteAreaRc.allOk.devicesEffect a d).user_table.deleteEqs .data_areas
        a.areas).deleteIds (DeleteAreaRc.allOk.areasLeft a db).usersToDelete } := by
  unfold DeleteArys.swept DeleteAreaRc.passEffect
  rw [allOk_usersEffect, allOk_areasEffect, SqliteDB.foldl_deleteArea,
    SqliteDB.foldl_deleteUsersOf, SqliteDB.foldl_deleteUser]

private theorem devices_eq : DeleteAreaRc.allOk.devicesEffect a d =
    if a.devices = [] then d
    else SqliteDB.deleteOrphans.foldl (fun d f => f d)
      { d with device_info := d.device_info.deleteIds a.devices } := by
  rw [allOk_devicesEffect, SqliteDB.foldl_deleteDevice]

theorem swept_areas : (a.swept db d).areas = d.areas.deleteIds a.areas := by
  rw [swept_eq, devices_eq]
  by_cases hnil : a.devices = []
  · rw [if_pos hnil]
  · rw [if_neg hnil]
    rfl

theorem swept_devices : (a.swept db d).device_info = d.device_info.deleteIds a.devices := by
  rw [swept_eq, devices_eq]
  by_cases hnil : a.devices = []
  · rw [if_pos hnil, hnil]
    rfl
  · rw [if_neg hnil]
    rfl

theorem swept_users : (a.swept db d).user_table =
    (d.user_table.deleteEqs .data_areas a.areas).deleteIds
      (DeleteAreaRc.allOk.areasLeft a db).usersToDelete := by
  rw [swept_eq, devices_eq]
  by_cases hnil : a.devices = []
  · rw [if_pos hnil]
  · rw [if_neg hnil]
    rfl

/-- Without a device to delete the tables of the work stay. -/
theorem swept_work_of_nil (h : a.devices = []) :
    (a.swept db d).work_type = d.work_type ∧
      (a.swept db d).work_template = d.work_template ∧
      (a.swept db d).work_task = d.work_task ∧
      (a.swept db d).work_record = d.work_record := by
  rw [swept_eq, devices_eq, if_pos h]
  exact ⟨rfl, rfl, rfl, rfl⟩

/-- With one they lose what names no device, and the templates what names no type. -/
theorem swept_work (h : a.devices ≠ []) :
    (a.swept db d).work_type =
        d.work_type.deleteNotIn .DeviceId (a.swept db d).device_info.ids ∧
      (a.swept db d).work_template =
        d.work_template.deleteNotIn .WorkTypeId (a.swept db d).work_type.ids ∧
      (a.swept db d).work_task =
        d.work_task.deleteNotIn .DeviceId (a.swept db d).device_info.ids ∧
      (a.swept db d).work_record =
        d.work_record.deleteNotIn .DeviceId (a.swept db d).device_info.ids := by
  rw [swept_eq, devices_eq, if_neg h]
  exact ⟨rfl, rfl, rfl, rfl⟩

/-! ## §4 When it sweeps -/

/-- Every device in an area that is deleted is deleted too. -/
def DeleteArys.CoversDevices : Prop :=
  ∀ r ∈ d.device_info, ∀ i ∈ a.areas, i ∈ d.areas.ids → r.col .AreaId = some i →
    r.Id ∈ a.devices

variable {a d} in
private theorem removed_area {i : String} :
    d.areas.Removed (a.swept db d).areas i ↔ i ∈ d.areas.ids ∧ i ∈ a.areas := by
  rw [swept_areas, Table.Removed, and_congr_right_iff]
  intro hi
  obtain ⟨r, hr, rfl⟩ := Table.mem_ids.1 hi
  constructor
  · intro hgone
    by_contra hkept
    exact hgone (Table.mem_ids.2 ⟨r, Table.mem_deleteIds.2 ⟨hr, hkept⟩, rfl⟩)
  · intro hmem hkept
    obtain ⟨x, hx, hId⟩ := Table.mem_ids.1 hkept
    exact (Table.mem_deleteIds.1 hx).2 (hId ▸ hmem)

/-- The pass sweeps when it covers the devices, and only then. -/
theorem swept_iff : Swept a d (a.swept db d) ↔ a.CoversDevices d := by
  constructor
  · intro h r hr i hi hmem href
    by_contra hkept
    -- the device stays, and names an area that went
    have hr' : r ∈ (a.swept db d).device_info := by
      rw [swept_devices]
      exact Table.mem_deleteIds.2 ⟨hr, hkept⟩
    exact h.deviceAreas r hr' i ((removed_area db).2 ⟨hmem, hi⟩) href
  · intro h
    have hgone : ∀ i, d.device_info.Removed (a.swept db d).device_info i →
        i ∉ (a.swept db d).device_info.ids := fun i hi => hi.2
    have htype : ∀ i, d.work_type.Removed (a.swept db d).work_type i →
        i ∉ (a.swept db d).work_type.ids := fun i hi => hi.2
    have hwork : (a.swept db d).work_type.Unreferred .DeviceId
          (d.device_info.Removed (a.swept db d).device_info) ∧
        (a.swept db d).work_task.Unreferred .DeviceId
          (d.device_info.Removed (a.swept db d).device_info) ∧
        (a.swept db d).work_record.Unreferred .DeviceId
          (d.device_info.Removed (a.swept db d).device_info) ∧
        (a.swept db d).work_template.Unreferred .WorkTypeId
          (d.work_type.Removed (a.swept db d).work_type) := by
      by_cases hnil : a.devices = []
      · -- no device went, and no type
        obtain ⟨htypes, -, -, -⟩ := swept_work_of_nil a db d hnil
        have hdevices : (a.swept db d).device_info = d.device_info := by
          rw [swept_devices, hnil]
          rfl
        rw [hdevices, htypes]
        exact ⟨Table.unreferred_same _, Table.unreferred_same _, Table.unreferred_same _,
          Table.unreferred_same _⟩
      · obtain ⟨htypes, htemplates, htasks, hrecords⟩ := swept_work a db d hnil
        refine ⟨?_, ?_, ?_, ?_⟩
        · rw [htypes]
          exact Table.unreferred_deleteNotIn hgone
        · rw [htasks]
          exact Table.unreferred_deleteNotIn hgone
        · rw [hrecords]
          exact Table.unreferred_deleteNotIn hgone
        · rw [htemplates]
          exact Table.unreferred_deleteNotIn htype
    constructor
    case areas =>
      intro i hi hkept
      rw [swept_areas] at hkept
      obtain ⟨x, hx, rfl⟩ := Table.mem_ids.1 hkept
      exact (Table.mem_deleteIds.1 hx).2 hi
    case devices =>
      intro i hi hkept
      rw [swept_devices] at hkept
      obtain ⟨x, hx, rfl⟩ := Table.mem_ids.1 hkept
      exact (Table.mem_deleteIds.1 hx).2 hi
    case deviceAreas =>
      intro r hr i hi href
      rw [swept_devices, Table.mem_deleteIds] at hr
      obtain ⟨hmem, harea⟩ := (removed_area db).1 hi
      exact hr.2 (h r hr.1 i harea hmem href)
    case userAreas =>
      intro r hr i hi href
      rw [swept_users, Table.mem_deleteIds, Table.mem_deleteEqs] at hr
      exact hr.1.2 i ((removed_area db).1 hi).2 href
    case types => exact hwork.1
    case tasks => exact hwork.2.1
    case records => exact hwork.2.2.1
    case templates => exact hwork.2.2.2

/-- The pass runs to its end. -/
theorem deleteAreaAndDevice_run (o : MapOrder) (tree : DeleteTree) (hne : tree ≠ .nullptr)
    (server : Server) (queue : List MyStmt) :
    ∃ ret, (deleteAreaAndDevice o tree DeleteAreaRc.allOk).run (World.closed d server queue) =
      (.ok ret, World.closed ((tree.arys o).swept server.db d)
        (((server.execAll (DeleteAreaRc.allOk.deviceStmts (tree.arys o))).execAll
          (DeleteAreaRc.allOk.areaStmts (tree.arys o))).execAll DeleteAreaRc.allOk.userStmts)
        queue) := by
  cases tree with
  | nullptr => exact absurd rfl hne
  | node i t f s child sibling =>
    unfold deleteAreaAndDevice
    dsimp only
    -- what the tree lists no longer matters
    generalize (DeleteTree.node i t f s child sibling).arys o = a
    have hexists : (World.closed d server queue).sq.file.pathFileExists = true := rfl
    have hopened : (onSq (openDataBase DeleteAreaRc.allOk.openDb)).run
        (World.closed d server queue) =
        (.ok true, ⟨⟨.holds d, none, true, false⟩, server, queue⟩) := rfl
    obtain ⟨ret, hareas⟩ := deleteAreas_run (DeleteAreaRc.allOk.devicesEffect a d)
      (server.execAll (DeleteAreaRc.allOk.deviceStmts a)) queue DeleteAreaRc.allOk a
    rw [bind_run_ok (read_run _), if_neg (by simp [hexists]), bind_run_ok hopened, if_pos rfl,
      bind_run_ok (deleteDevices_run d server queue DeleteAreaRc.allOk a), bind_run_ok hareas]
    rcases deleteUsers_run (DeleteAreaRc.allOk.areasEffect a (DeleteAreaRc.allOk.devicesEffect a d))
      ((server.execAll (DeleteAreaRc.allOk.deviceStmts a)).execAll
        (DeleteAreaRc.allOk.areaStmts a)) queue DeleteAreaRc.allOk a with
      ⟨hfails, -⟩ | ⟨ret', alive, husers⟩
    · -- the query for the users succeeds
      cases hfails
    · rw [bind_run_ok husers]
      refine ⟨ret && ret', ?_⟩
      have hdb : ((server.execAll (DeleteAreaRc.allOk.deviceStmts a)).execAll
          (DeleteAreaRc.allOk.areaStmts a)).db = DeleteAreaRc.allOk.areasLeft a server.db := by
        simp [DeleteAreaRc.areasLeft, DeleteAreaRc.devicesLeft]
      rw [hdb]
      rfl

end Pass

/-- `DeleteAreaAndDevice`, no call failing, leaves a swept phone. -/
def Sweeps (o : MapOrder) (tree : DeleteTree) (d : SqliteDB) (server : Server)
    (queue : List MyStmt) : Prop :=
  ∃ ret w' d', (deleteAreaAndDevice o tree DeleteAreaRc.allOk).run
      (World.closed d server queue) = (.ok ret, w') ∧
    w'.sq.file = .holds d' ∧ Swept (tree.arys o) d d'

/-- The pass of a tree sweeps when it covers the devices, and only then. -/
private theorem sweeps_iff_covers (o : MapOrder) (tree : DeleteTree) (d : SqliteDB)
    (server : Server) (queue : List MyStmt) :
    Sweeps o tree d server queue ↔ (tree.arys o).CoversDevices d := by
  cases tree with
  | nullptr =>
    -- nothing is deleted, and the arrays are empty
    have hnil : (DeleteTree.nullptr.arys o).areas = [] ∧
        (DeleteTree.nullptr.arys o).devices = [] := by
      have harys : ∀ i, i ∉ o.strAry [] := fun i hi => by
        exact absurd (MapOrder.mem_strAry.1 hi).1 List.not_mem_nil
      have hstr : o.strAry [] = [] := List.eq_nil_iff_forall_not_mem.2 harys
      constructor
      · show o.strAry [] ++ o.strAry [] = []
        rw [hstr]
        rfl
      · show o.strAry [] ++ o.strAry [] = []
        rw [hstr]
        rfl
    constructor
    · rintro - r - i hi
      rw [hnil.1] at hi
      exact absurd hi List.not_mem_nil
    · rintro -
      refine ⟨true, World.closed d server queue, d, rfl, rfl, ?_⟩
      constructor
      case areas => simp [hnil.1]
      case devices => simp [hnil.2]
      all_goals exact Table.unreferred_same _
  | node i t f s child sibling =>
    obtain ⟨ret, hrun⟩ := deleteAreaAndDevice_run d o
      (.node i t f s child sibling) (by simp) server queue
    rw [← swept_iff _ server.db d]
    constructor
    · rintro ⟨ret', w', d', hrun', hfile, hswept⟩
      rw [hrun] at hrun'
      cases hrun'
      cases hfile
      exact hswept
    · intro hswept
      exact ⟨_, _, _, hrun, rfl, hswept⟩

/-- Every device of the phone whose area is among those collected, and is on the phone, is
collected itself. -/
def TreeData.CollectsDevices (t : TreeData) (m_userArea : String) (d : SqliteDB) : Prop :=
  ∀ r ∈ d.device_info, ∀ i, t.AreaCollected m_userArea i → i ∈ d.areas.ids →
    r.col .AreaId = some i → t.DeviceCollected m_userArea r.Id

/-- **`DeleteAreaAndDevice` sweeps the phone** when every device in a deleted area is below a marked
device or area in the tree, and only then. -/
theorem deleteAreaAndDevice_sweeps_iff (o o' : MapOrder) (m_userArea : String) (t : TreeData)
    (tree : DeleteTree) (htree : initDeleteTreeStruct o m_userArea t = some tree) (d : SqliteDB)
    (server : Server) (queue : List MyStmt) :
    Sweeps o' tree d server queue ↔ t.CollectsDevices m_userArea d := by
  rw [sweeps_iff_covers, DeleteArys.CoversDevices, TreeData.CollectsDevices]
  constructor
  · intro h r hr i hi hmem href
    exact (mem_arys_devices htree o').1 (h r hr i ((mem_arys_areas htree o').2 hi) hmem href)
  · intro h r hr i hi hmem href
    exact (mem_arys_devices htree o').2 (h r hr i ((mem_arys_areas htree o').1 hi) hmem href)

/-- A phone with the areas and the devices of `t`, and nothing else. -/
def TreeData.phone (t : TreeData) : SqliteDB :=
  { SqliteDB.empty with areas := t.areas, device_info := t.device_info }

/-- A device that hangs on its deleted area is deleted with it. -/
theorem deleted_area_swept :
    ∃ tree, initDeleteTreeStruct .inserted "" .deletedArea = some tree ∧
      Sweeps .inserted tree TreeData.deletedArea.phone ⟨MysqlDB.empty, []⟩ [] := by
  obtain ⟨tree, htree⟩ := initDeleteTreeStruct_isSome (o := .inserted)
    (show TreeData.deletedArea.NoId PARENTFLAG by decide)
  refine ⟨tree, htree, ?_⟩
  rw [deleteAreaAndDevice_sweeps_iff _ _ _ _ _ htree]
  intro r hr i hi hmem href
  have hr' : r = deviceRow "d" "0" "a" "0" := List.mem_singleton.1 hr
  subst hr'
  refine ⟨by decide, _, rfl, .inl ?_⟩
  rw [markedDevice_iff (by decide) (by decide)]
  exact ⟨_, List.mem_cons_self, rfl, .refl, .inr ⟨areaRow "a" "0" "3", rfl,
    ⟨_, List.mem_cons_self, rfl, .refl⟩, _, .refl, rfl⟩⟩

/-- A deleted area, and a device in it whose parent is missing. -/
def TreeData.strayDevice : TreeData where
  areas := ⟨[areaRow "a" "0" "3"], areaRow_nodup "a" "0" "3"⟩
  device_info := ⟨[deviceRow "d" "p" "a" "0"], by decide⟩

/-- The area goes and the device keeps naming it. -/
theorem stray_device_left :
    ∃ tree, initDeleteTreeStruct .inserted "" .strayDevice = some tree ∧
      ¬Sweeps .inserted tree TreeData.strayDevice.phone ⟨MysqlDB.empty, []⟩ [] := by
  have hcollected : ∃ tree, initDeleteTreeStruct .inserted "" .strayDevice = some tree ∧
      (tree.arys .inserted).areas = ["a"] ∧ (tree.arys .inserted).devices = [] := by
    with_unfolding_all exact ⟨_, rfl, rfl, rfl⟩
  obtain ⟨tree, htree, hareas, hdevices⟩ := hcollected
  refine ⟨tree, htree, ?_⟩
  rw [sweeps_iff_covers]
  intro hcovers
  have hmem := hcovers (deviceRow "d" "p" "a" "0") List.mem_cons_self "a"
    (by rw [hareas]; decide) (by decide) rfl
  rw [hdevices] at hmem
  exact absurd hmem List.not_mem_nil

end MtpSync
