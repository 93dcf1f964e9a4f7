import MtpSync.Download.Effects
import MtpSync.Tree.Collected

/-!
# What a run discards

No statement that a sync to the phone or a clear executes on the temporary file looks at the
`SynchronState` of the phone's rows.  A row goes when the server's row is copied in its place, or
when a delete hits it; this module says which deletes and which copies these are.

- §1 why a row may go
- §2 what the delete pass and the routines keep
- §3 a sync to the phone discards nothing else
- §4 a clear discards nothing but finished tasks
- §5 what may be discarded
-/

namespace MtpSync

/-! ## §1 Why a row may go -/

/-- A sync to the phone, and what the server and the temporary file hold when it starts.  Its
delete tree is the one the last refresh has built. -/
structure SyncRun where
  sel : Selection
  mode : RadioChoose
  rc : SwitchRc
  db : MysqlDB
  d : SqliteDB
  m_userArea : String
  /-- the tables the last successful refresh has read -/
  lastRead : Option TreeData
  treeOfRead : TreeOfRead m_userArea lastRead sel.m_deleteTree

namespace SyncRun

variable (R : SyncRun)

/-- The arrays of its delete pass. -/
def arys : DeleteArys := R.sel.m_deleteTree.arys R.sel.mapOrder

/-- When the tree was built the device was marked with `flag`, or a device or an area above it. -/
def Marked (flag i : String) : Prop :=
  ∃ t, R.lastRead = some t ∧ ∃ y ∈ t.device_info, y.Id = i ∧
    (t.DeviceMarkedAbove flag y ∨ t.MarkedWithUserArea R.m_userArea flag y)

/-- The delete pass deletes the device from the phone. -/
def Doomed (i : String) : Prop := R.Marked DELETEFLAG i ∨ R.Marked DELETEFLAG_WANT i

/-- The delete pass has devices to delete, and this is not one of those the phone has left. -/
def Orphan (DeviceId : Text) : Prop :=
  (∃ i, R.Doomed i) ∧ Text.Outside R.d.device_info.ids R.Doomed DeviceId

/-- A task the server wants deleted: its main task is marked, or the server does not have its
device any more. -/
def TaskDead (i : String) : Prop :=
  ∃ r ∈ R.db.work_task, r.Id = i ∧
    ((∃ s, (s = "2" ∨ s = "3") ∧
        ((r.col .AllId).isIn (R.db.mainTasks s) = true ∨ r.Id ∈ R.db.mainTasks s)) ∨
      Text.Outside R.db.device_info.ids (R.Marked DELETEFLAG) (r.col .DeviceId))

/-- The task or its main task is such a one. -/
def TaskDeleted (t : SqlRow WorkTaskCol) : Prop :=
  R.TaskDead t.Id ∨ ∃ i, t.col .AllId = some i ∧ R.TaskDead i

/-- The server's task is copied. -/
def TaskCopied (r : SqlRow WorkTaskCol) : Prop :=
  ∃ k, r ∈ R.db.newTasks (R.rc.work k).task.win (findChildTypeID R.sel.m_treeCtrl_curItem)

/-- A row that the copy of the tasks can leave: without a failed bind one of the tasks copied. -/
structure TaskStored (t : SqlRow WorkTaskCol) : Prop where
  key : ∃ r, R.TaskCopied r ∧ (taskToPhone r).Id = t.Id
  cols : ∀ c, t.col c = none ∨ ∃ r, R.TaskCopied r ∧ t.col c = (taskToPhone r).col c

/-- The task with this key may be gone from the phone. -/
inductive TaskLost (i : String) : Prop where
  | phone (t : SqlRow WorkTaskCol) (ht : t ∈ R.d.work_task) (hId : t.Id = i)
      (h : R.Orphan (t.col .DeviceId) ∨ R.TaskDeleted t)
  | server (t : SqlRow WorkTaskCol) (ht : R.TaskStored t) (hId : t.Id = i)
      (h : R.TaskDeleted t)

/-- Why a device's row may go. -/
inductive DeviceDiscarded (x : SqlRow DeviceInfoCol) : Prop where
  /-- it was marked, or a device or an area above it -/
  | marked (h : R.Doomed x.Id)
  /-- it is marked on the server -/
  | purged (hmode : R.mode = .radio_devices) (k : ℕ)
      (h : x.Id ∈ R.db.deletedDevices R.sel.fw (R.rc.devices k).toPhone.win R.sel.deviceScope)
  /-- the server's row takes its place -/
  | replaced (hmode : R.mode = .radio_devices) (k : ℕ) (r : SqlRow DeviceInfoCol)
      (hr : r ∈ R.db.newDevices R.sel.fw (R.rc.devices k).toPhone.win R.sel.deviceScope)
      (hId : r.Id = x.Id)

/-- Why a task's row may go. -/
inductive TaskDiscarded (x : SqlRow WorkTaskCol) : Prop where
  /-- its device goes, or was not there -/
  | orphan (h : R.Orphan (x.col .DeviceId))
  /-- the server wants it, or its main task, deleted -/
  | deleted (hmode : R.mode = .radio_work) (h : R.TaskDeleted x)
  /-- the server's row takes its place -/
  | replaced (hmode : R.mode = .radio_work) (r : SqlRow WorkTaskCol) (hr : R.TaskCopied r)
      (hId : r.Id = x.Id)

/-- Why a record's row may go. -/
inductive RecordDiscarded (x : SqlRow WorkRecordCol) : Prop where
  /-- its device goes, or was not there -/
  | orphan (h : R.Orphan (x.col .DeviceId))
  /-- the server wants its task deleted -/
  | deleted (hmode : R.mode = .radio_work) (i : String) (hx : x.col .WorkTaskId = some i)
      (h : R.TaskDead i)
  /-- the server wants some task deleted, and its own task goes or was not there -/
  | taskless (hmode : R.mode = .radio_work) (i : String) (h : R.TaskDead i)
      (hx : ∀ t ∈ R.d.work_task, (∀ j, x.col .WorkTaskId = some j → t.Id = j) → R.TaskLost t.Id)
  /-- the server's row takes its place -/
  | replaced (hmode : R.mode = .radio_work) (k : ℕ) (r : SqlRow WorkRecordCol)
      (hr : r ∈ R.db.newRecords (R.rc.work k).record.win) (hId : r.Id = x.Id)

/-! ## §2 What is kept -/

/-- Every row of the start is still there, or may go. -/
structure FileKept (e : SqliteDB) : Prop where
  devices : ∀ x ∈ R.d.device_info, x ∈ e.device_info ∨ R.DeviceDiscarded x
  tasks : ∀ x ∈ R.d.work_task, x ∈ e.work_task ∨ R.TaskDiscarded x
  records : ∀ x ∈ R.d.work_record, x ∈ e.work_record ∨ R.RecordDiscarded x
  /-- where the tasks come from -/
  rows : ∀ t ∈ e.work_task, t ∈ R.d.work_task ∨ R.TaskStored t
  taskIds : ∀ t ∈ R.d.work_task, t.Id ∈ e.work_task.ids ∨ R.TaskLost t.Id

/-- Before the routines: nothing has been copied, and the devices not marked are there. -/
structure FilePassed (e : SqliteDB) : Prop where
  rows : ∀ t ∈ e.work_task, t ∈ R.d.work_task
  ids : ∀ i ∈ R.d.device_info.ids, i ∉ R.arys.devices → i ∈ e.device_info.ids

/-- The server has only lost rows, and of its devices only those to delete. -/
structure ServerKept (db : MysqlDB) : Prop where
  sub : db.Sub R.db
  ids : ∀ i ∈ R.db.device_info.ids, i ∉ R.arys.strAryDevices → i ∈ db.device_info.ids

/-- What the routines keep. -/
def Kept (v : View) : Prop :=
  (∃ e, v.file = .holds e ∧ R.FileKept e) ∧ R.ServerKept v.db

/-- What the delete pass keeps. -/
def Passed (v : View) : Prop :=
  (∃ e, v.file = .holds e ∧ R.FileKept e ∧ R.FilePassed e) ∧ R.ServerKept v.db

variable {R}

/-- What the pass deletes on the server was marked with `'3'`. -/
theorem marked_of_real {i : String} (hi : i ∈ R.arys.strAryDevices) : R.Marked DELETEFLAG i := by
  have hi' := (MapOrder.mem_strAry.1 hi).1
  obtain ⟨t, hread, hreal, -⟩ := R.treeOfRead.collected (k := .delete_type_devices) (.inl hi')
  exact ⟨t, hread, hreal.device_markedAbove hi'⟩

/-- What it deletes from the phone was marked. -/
theorem doomed_of_arys {i : String} (hi : i ∈ R.arys.devices) : R.Doomed i := by
  rcases List.mem_append.1 hi with hi | hi
  · exact .inl (marked_of_real hi)
  · have hi' := (MapOrder.mem_strAry.1 hi).1
    obtain ⟨t, hread, -, hwant⟩ := R.treeOfRead.collected (k := .delete_type_devices) (.inr hi')
    exact .inr ⟨t, hread, hwant.device_markedAbove hi'⟩

theorem Kept.created (v : View) (h : R.Kept v) : R.Kept v.created := by
  obtain ⟨⟨e, he, hkept⟩, hserver⟩ := h
  exact ⟨⟨e, by rw [View.created, he]; rfl, hkept⟩, hserver⟩

theorem Passed.created (v : View) (h : R.Passed v) : R.Passed v.created := by
  obtain ⟨⟨e, he, hkept⟩, hserver⟩ := h
  exact ⟨⟨e, by rw [View.created, he]; rfl, hkept⟩, hserver⟩

theorem Kept.onFile {f : SqliteDB → SqliteDB} {v : View} (h : R.Kept v)
    (hf : ∀ e, R.FileKept e → R.FileKept (f e)) : R.Kept (v.onFile f) := by
  obtain ⟨⟨e, he, hkept⟩, hserver⟩ := h
  exact ⟨⟨f e, by rw [View.onFile, he]; rfl, hf e hkept⟩, hserver⟩

theorem Passed.onFile {f : SqliteDB → SqliteDB} {v : View} (h : R.Passed v)
    (hf : ∀ e, R.FileKept e → R.FilePassed e → R.FileKept (f e) ∧ R.FilePassed (f e)) :
    R.Passed (v.onFile f) := by
  obtain ⟨⟨e, he, hkept, hpassed⟩, hserver⟩ := h
  exact ⟨⟨f e, by rw [View.onFile, he]; rfl, hf e hkept hpassed⟩, hserver⟩

/-- A `delete` that is not of this device leaves it. -/
private theorem mem_ids_exec {st : MyStmt} (hdel : st.deletes = true) {i : String}
    (hne : st ≠ .deleteDeviceInfo i) {db : MysqlDB} (h : i ∈ db.device_info.ids) :
    i ∈ (st.exec db).device_info.ids := by
  cases st with
  | replaceWorkRecord | replaceWorkTask | updateRFID | mark | markWorkTaskState2 => cases hdel
  | deleteDeviceInfo j =>
    obtain ⟨r, hr, rfl⟩ := Table.mem_ids.1 h
    refine Table.mem_ids.2 ⟨r, Table.mem_deleteId.2 ⟨hr, fun hj => hne ?_⟩, rfl⟩
    rw [hj]
  | _ => exact h

theorem ServerKept.execAll {done : List MyStmt} {db : MysqlDB} (h : R.ServerKept db)
    (hdel : ∀ st ∈ done, st.deletes = true)
    (hdev : ∀ i, .deleteDeviceInfo i ∈ done → i ∈ R.arys.strAryDevices) :
    R.ServerKept (db.execAll done) := by
  induction done generalizing db with
  | nil => exact h
  | cons st done ih =>
    rw [List.forall_mem_cons] at hdel
    refine ih ⟨(MyStmt.exec_sub hdel.1 db).trans h.sub, fun i hi hgone => ?_⟩ hdel.2
      fun i hi => hdev i (List.mem_cons_of_mem st hi)
    refine mem_ids_exec hdel.1 (fun hst => hgone (hdev i ?_)) (h.ids i hi hgone)
    rw [hst]
    exact List.mem_cons_self

/-- What the server wants deleted at some point, it wanted deleted from the start. -/
theorem ServerKept.taskDead {db : MysqlDB} (h : R.ServerKept db) {s : String}
    (hs : s = "2" ∨ s = "3") {i : String} (hi : i ∈ db.deletedTasks s) : R.TaskDead i := by
  have hmain : ∀ j ∈ db.mainTasks s, j ∈ R.db.mainTasks s := by
    intro j hj
    obtain ⟨r, hr, rfl⟩ := List.mem_map.1 hj
    rw [Table.mem_select] at hr
    exact List.mem_map.2 ⟨r, Table.mem_select.2 ⟨h.sub.work_task r hr.1, hr.2⟩, rfl⟩
  obtain ⟨r, hr, rfl⟩ := List.mem_map.1 hi
  rw [Table.mem_select, Bool.or_eq_true, Bool.or_eq_true] at hr
  refine ⟨r, h.sub.work_task r hr.1, rfl, ?_⟩
  rcases hr.2 with (hall | hself) | hdevice
  · exact .inl ⟨s, hs, .inl (Text.isIn_mono hall hmain)⟩
  · exact .inl ⟨s, hs, .inr (hmain _ (by simpa using hself))⟩
  · exact .inr (Text.outside_of_notIn hdevice fun j hj hleft =>
      h.ids j hj fun hgone => hleft (marked_of_real hgone))

/-! ### The delete pass -/

private theorem passed_execute {v : View} (h : R.Passed v) {done : List MyStmt}
    (hdel : ∀ st ∈ done, st.deletes = true)
    (hdev : ∀ i, .deleteDeviceInfo i ∈ done → i ∈ R.arys.strAryDevices) :
    R.Passed (v.execute done) :=
  ⟨h.1, h.2.execAll hdel hdev⟩

/-- Nothing that a row depends on is touched. -/
private theorem passed_same {f : SqliteDB → SqliteDB} {v : View} (h : R.Passed v)
    (hd : ∀ e, (f e).device_info = e.device_info) (ht : ∀ e, (f e).work_task = e.work_task)
    (hr : ∀ e, (f e).work_record = e.work_record) : R.Passed (v.onFile f) :=
  h.onFile fun e hkept hpassed =>
    ⟨⟨by rw [hd]; exact hkept.devices, by rw [ht]; exact hkept.tasks,
        by rw [hr]; exact hkept.records, by rw [ht]; exact hkept.rows,
        by rw [ht]; exact hkept.taskIds⟩,
      ⟨by rw [ht]; exact hpassed.rows, by rw [hd]; exact hpassed.ids⟩⟩

private theorem passed_devices {v : View} (h : R.Passed v) {ids : List String}
    (hids : ∀ i ∈ ids, i ∈ R.arys.devices) :
    R.Passed (v.onFile fun e => ids.foldl SqliteDB.deleteDevice e) := by
  refine h.onFile fun e hkept hpassed => ?_
  rw [SqliteDB.foldl_deleteDevice]
  refine ⟨⟨fun x hx => ?_, hkept.tasks, hkept.records, hkept.rows, hkept.taskIds⟩,
    ⟨hpassed.rows, fun i hi hgone => ?_⟩⟩
  · by_cases hmarked : x.Id ∈ ids
    · exact .inr (.marked (doomed_of_arys (hids _ hmarked)))
    · exact (hkept.devices x hx).imp_left fun hmem => Table.mem_deleteIds.2 ⟨hmem, hmarked⟩
  · obtain ⟨r, hr, rfl⟩ := Table.mem_ids.1 (hpassed.ids i hi hgone)
    exact Table.mem_ids.2 ⟨r, Table.mem_deleteIds.2 ⟨hr, fun h => hgone (hids _ h)⟩, rfl⟩

/-- What the phone no longer has a device for is an orphan. -/
private theorem FilePassed.orphan {e : SqliteDB} (hpassed : R.FilePassed e)
    (hne : R.arys.devices ≠ []) {v : Text} (h : v.notIn e.device_info.ids = true) :
    R.Orphan v := by
  obtain ⟨i, hi⟩ := List.exists_mem_of_ne_nil _ hne
  exact ⟨⟨i, doomed_of_arys hi⟩, Text.outside_of_notIn h fun j hj hleft =>
    hpassed.ids j hj fun hgone => hleft (doomed_of_arys hgone)⟩

private theorem passed_orphanTasks {v : View} (h : R.Passed v) (hne : R.arys.devices ≠ []) :
    R.Passed (v.onFile SqliteDB.deleteOrphanTasks) := by
  refine h.onFile fun e hkept hpassed => ?_
  -- a task that goes names a device that is not there any more
  have hmem : ∀ t, t ∈ e.work_task → t ∈ e.deleteOrphanTasks.work_task ∨
      R.Orphan (t.col .DeviceId) := by
    intro t ht
    cases hin : (t.col .DeviceId).notIn e.device_info.ids with
    | false => exact .inl (Table.mem_deleteNotIn.2 ⟨ht, hin⟩)
    | true => exact .inr (hpassed.orphan hne hin)
  refine ⟨⟨hkept.devices, fun x hx => ?_, hkept.records, fun t ht => ?_, fun t ht => ?_⟩,
    ⟨fun t ht => hpassed.rows t (Table.mem_deleteNotIn.1 ht).1, hpassed.ids⟩⟩
  · rcases hkept.tasks x hx with hx | hx
    · exact (hmem x hx).imp_right .orphan
    · exact .inr hx
  · exact hkept.rows t (Table.mem_deleteNotIn.1 ht).1
  · rcases hkept.taskIds t ht with hId | hlost
    · obtain ⟨y, hy, hyId⟩ := Table.mem_ids.1 hId
      rcases hmem y hy with hstays | horphan
      · exact .inl (Table.mem_ids.2 ⟨y, hstays, hyId⟩)
      · exact .inr (.phone y (hpassed.rows y hy) hyId (.inl horphan))
    · exact .inr hlost

private theorem passed_orphanRecords {v : View} (h : R.Passed v) (hne : R.arys.devices ≠ []) :
    R.Passed (v.onFile SqliteDB.deleteOrphanRecords) := by
  refine h.onFile fun e hkept hpassed => ?_
  refine ⟨⟨hkept.devices, hkept.tasks, fun x hx => ?_, hkept.rows, hkept.taskIds⟩,
    ⟨hpassed.rows, hpassed.ids⟩⟩
  rcases hkept.records x hx with hx | hx
  · cases hin : (x.col .DeviceId).notIn e.device_info.ids with
    | false => exact .inl (Table.mem_deleteNotIn.2 ⟨hx, hin⟩)
    | true => exact .inr (.orphan (hpassed.orphan hne hin))
  · exact .inr hx

open Act

/-- The delete pass. -/
theorem keeps_pass : Keeps (KeepsView R.Passed)
    (deleteAreaAndDevice R.sel.mapOrder R.sel.m_deleteTree R.rc.deleteArea) := by
  refine keeps_deleteAreaAndDevice Passed.created _ _ _ ?_ ?_ ?_
  · refine keeps_deleteDevices _ _ (fun v h => passed_devices h fun _ => QuickRc.mem_of_mem_bound)
      (fun hne f hf v h => ?_)
      (fun v h done hdone => ?_) (fun v h done hdone => ?_)
    · -- work types and templates are not looked at
      rcases List.mem_cons.1 hf with rfl | hf
      · exact passed_same h (fun _ => rfl) (fun _ => rfl) fun _ => rfl
      rcases List.mem_cons.1 hf with rfl | hf
      · exact passed_same h (fun _ => rfl) (fun _ => rfl) fun _ => rfl
      rcases List.mem_cons.1 hf with rfl | hf
      · exact passed_orphanTasks h hne
      · rw [List.mem_singleton.1 hf]
        exact passed_orphanRecords h hne
    · -- the server deletes devices of the list only
      refine passed_execute h (fun st hst => ?_) fun i hi => ?_
      · obtain ⟨j, -, rfl⟩ := List.mem_map.1 (hdone st hst)
        rfl
      · obtain ⟨j, hj, heq⟩ := List.mem_map.1 (hdone _ hi)
        cases heq
        exact hj
    · refine passed_execute h (fun st hst => ?_) fun i hi => ?_
      · have hall : ∀ st ∈ deleteOrphanStmts, st.deletes = true := by
          simp [deleteOrphanStmts, MyStmt.deletes]
        exact hall st (hdone st hst)
      · exact absurd (hdone _ hi) (by simp [deleteOrphanStmts])
  · refine keeps_deleteAreas _ _ (fun v h => ?_) (fun v h => ?_) (fun v h done hdone => ?_)
    · -- areas and users are other tables
      simp only [SqliteDB.foldl_deleteArea]
      exact passed_same h (fun _ => rfl) (fun _ => rfl) fun _ => rfl
    · simp only [SqliteDB.foldl_deleteUsersOf]
      exact passed_same h (fun _ => rfl) (fun _ => rfl) fun _ => rfl
    · refine passed_execute h (fun st hst => ?_) fun i hi => ?_
      · obtain ⟨j, -, hst⟩ := List.mem_flatMap.1 (hdone st hst)
        rcases List.mem_cons.1 hst with rfl | hst
        · rfl
        · rw [List.mem_singleton.1 hst]
          rfl
      · obtain ⟨j, -, hst⟩ := List.mem_flatMap.1 (hdone _ hi)
        simp [deleteAreaStmts] at hst
  · refine keeps_deleteUsers _ (fun v h => ?_) (fun v h done hdone => ?_)
    · -- the users marked as deleted
      simp only [View.purged, SqliteDB.foldl_deleteUser]
      exact passed_same h (fun _ => rfl) (fun _ => rfl) fun _ => rfl
    · refine passed_execute h (fun st hst => ?_) fun i hi => ?_
      · rw [List.mem_singleton.1 (hdone st hst)]
        rfl
      · exact absurd (hdone _ hi) (by simp)

/-! ### The routines -/

private theorem Passed.kept {v : View} (h : R.Passed v) : R.Kept v := by
  obtain ⟨⟨e, he, hkept, -⟩, hserver⟩ := h
  exact ⟨⟨e, he, hkept⟩, hserver⟩

/-- Queueing statements changes nothing that is looked at. -/
private theorem Kept.enqueue {v : View} (h : R.Kept v) (sts : List MyStmt) :
    R.Kept (v.enqueue sts) := h

/-- Nothing that a row depends on is touched. -/
private theorem kept_same {f : SqliteDB → SqliteDB} {v : View} (h : R.Kept v)
    (hd : ∀ e, (f e).device_info = e.device_info) (ht : ∀ e, (f e).work_task = e.work_task)
    (hr : ∀ e, (f e).work_record = e.work_record) : R.Kept (v.onFile f) :=
  h.onFile fun e hkept =>
    ⟨by rw [hd]; exact hkept.devices, by rw [ht]; exact hkept.tasks,
      by rw [hr]; exact hkept.records, by rw [ht]; exact hkept.rows,
      by rw [ht]; exact hkept.taskIds⟩

/-- A row of the phone stays, or one of the rows copied has its key. -/
private theorem mem_replaceAll_or {C ρ : Type} [Columns C] {t : SqlTable C} {x : SqlRow C}
    (hx : x ∈ t) (rc : QuickRc) (rows : List ρ) (toPhone : ρ → SqlRow C) :
    x ∈ t.replaceAll (rc.bound (rows.map toPhone)) ∨ ∃ r ∈ rows, (toPhone r).Id = x.Id := by
  by_cases h : ∃ r ∈ rows, (toPhone r).Id = x.Id
  · exact .inr h
  · refine .inl (Table.mem_replaceAll_of_not_mem hx fun y hy hId => h ?_)
    -- whatever the binds return, the key is that of a row copied
    obtain ⟨z, hz, hkey⟩ := (QuickRc.mem_bound_row hy).1
    obtain ⟨r, hr, rfl⟩ := List.mem_map.1 hz
    exact ⟨r, hr, hkey.trans hId⟩

private theorem deletedDevices_mono {db db₀ : MysqlDB} (h : db.Sub db₀) {ids ids' : List String}
    (hsub : ∀ i ∈ ids, i ∈ ids') (fw : TongbuFw) (win : Window) :
    ∀ i ∈ db.deletedDevices fw win ids, i ∈ db₀.deletedDevices fw win ids' := by
  intro i hi
  obtain ⟨r, hr, rfl⟩ := List.mem_map.1 hi
  rw [Table.mem_select, Bool.and_eq_true, Bool.and_eq_true] at hr
  refine List.mem_map.2 ⟨r, Table.mem_select.2 ⟨h.device_info r hr.1, ?_⟩, rfl⟩
  rw [Bool.and_eq_true, Bool.and_eq_true]
  refine ⟨⟨?_, hr.2.1.2⟩, hr.2.2⟩
  cases fw with
  | areas => exact Text.isIn_mono hr.2.1.1 hsub
  | devices => rfl

/-- Users and areas. -/
private theorem keeps_users (ids : List String) (rc : UserToPhoneRc) :
    Keeps (KeepsView R.Kept) (synchrodataSysUser ids rc) := by
  refine keeps_sysUser Kept.created ids rc (fun v h => h.enqueue _) (fun v h => ?_)
    fun v h => ?_
  · simp only [SqliteDB.foldl_replaceUser]
    exact kept_same h (fun _ => rfl) (fun _ => rfl) fun _ => rfl
  · simp only [View.purged, SqliteDB.foldl_deleteUser]
    exact kept_same h (fun _ => rfl) (fun _ => rfl) fun _ => rfl

private theorem keeps_areas (shown : List String) (rc : UserToPhoneRc) :
    Keeps (KeepsView R.Kept) (synchrodataAreasToPhone shown rc) := by
  refine keeps_areasToPhone Kept.created shown rc (fun v h _ => ?_) fun v h => ?_
  · simp only [View.copied, SqliteDB.foldl_replaceArea]
    refine Kept.enqueue ?_ _
    exact kept_same h (fun _ => rfl) (fun _ => rfl) fun _ => rfl
  · simp only [View.purged, SqliteDB.foldl_deleteArea]
    exact kept_same h (fun _ => rfl) (fun _ => rfl) fun _ => rfl

/-- The devices. -/
private theorem keeps_devices (hmode : R.mode = .radio_devices) (k : ℕ) {ids : List String}
    (hsub : ∀ i ∈ ids, i ∈ R.sel.deviceScope) :
    Keeps (KeepsView R.Kept)
      (synchrodataDeviceInfoToPhone ids R.sel.fw (R.rc.devices k).toPhone) := by
  refine keeps_deviceInfoToPhone Kept.created ids R.sel.fw _ (fun v h _ => ?_) fun v h => ?_
  · -- a row that the copy brings under a new content was replaced
    simp only [View.copied, SqliteDB.foldl_replaceDevice]
    refine (h.onFile fun e hkept => ?_).enqueue _
    refine { hkept with devices := fun x hx => ?_ }
    rcases hkept.devices x hx with hx | hx
    · refine (mem_replaceAll_or hx _ _ deviceToPhone).imp_right ?_
      rintro ⟨r, hr, hId⟩
      exact .replaced hmode k r (MysqlDB.Sub.newDevices h.2.sub hsub _ _ r hr) hId
    · exact .inr hx
  · simp only [View.purged, SqliteDB.foldl_deleteDevice]
    refine h.onFile fun e hkept => { hkept with devices := fun x hx => ?_ }
    by_cases hdel : x.Id ∈ (R.rc.devices k).toPhone.purge.delete.bound
        (v.db.deletedDevices R.sel.fw (R.rc.devices k).toPhone.win ids)
    · exact .inr (.purged hmode k
        (deletedDevices_mono h.2.sub hsub _ _ _ (QuickRc.mem_of_mem_bound hdel)))
    · exact (hkept.devices x hx).imp_left fun hmem => Table.mem_deleteIds.2 ⟨hmem, hdel⟩

/-- Work types and templates. -/
private theorem keeps_template (ids : List String) (rc : ToPhoneRc) :
    Keeps (KeepsView R.Kept) (synchrodataWorkTemplateToPhone ids rc) := by
  refine keeps_workTemplateToPhone Kept.created ids rc (fun v h _ => ?_) fun v h => ?_
  · simp only [View.copied, SqliteDB.foldl_replaceTemplate]
    refine Kept.enqueue ?_ _
    exact kept_same h (fun _ => rfl) (fun _ => rfl) fun _ => rfl
  · simp only [View.purged, SqliteDB.foldl_deleteTemplate]
    exact kept_same h (fun _ => rfl) (fun _ => rfl) fun _ => rfl

private theorem keeps_type (ids : List String) (rc : ToPhoneRc) :
    Keeps (KeepsView R.Kept) (synchrodataWorkTypeToPhone ids rc) := by
  refine keeps_workTypeToPhone Kept.created ids rc (fun v h _ => ?_) fun v h => ?_
  · simp only [View.copied, SqliteDB.foldl_replaceWorkType]
    refine Kept.enqueue ?_ _
    exact kept_same h (fun _ => rfl) (fun _ => rfl) fun _ => rfl
  · simp only [View.purged, SqliteDB.foldl_deleteWorkType]
    exact kept_same h (fun _ => rfl) (fun _ => rfl) fun _ => rfl

/-- Deleting tasks that are wanted deleted. -/
private theorem kept_deleteTasks (hmode : R.mode = .radio_work) {v : View} (h : R.Kept v)
    {g : SqlTable WorkTaskCol → SqlTable WorkTaskCol} (hsub : ∀ t x, x ∈ g t → x ∈ t)
    (hg : ∀ t x, x ∈ t → x ∈ g t ∨ R.TaskDeleted x) :
    R.Kept (v.onFile fun e => { e with work_task := g e.work_task }) := by
  refine h.onFile fun e hkept => ?_
  refine ⟨hkept.devices, fun x hx => ?_, hkept.records,
    fun t ht => hkept.rows t (hsub _ t ht), fun t ht => ?_⟩
  · rcases hkept.tasks x hx with hx | hx
    · exact (hg _ x hx).imp_right (.deleted hmode)
    · exact .inr hx
  · rcases hkept.taskIds t ht with hId | hlost
    · obtain ⟨y, hy, hyId⟩ := Table.mem_ids.1 hId
      rcases hg _ y hy with hstays | hdeleted
      · exact .inl (Table.mem_ids.2 ⟨y, hstays, hyId⟩)
      · refine .inr ?_
        -- the row deleted is the phone's own, or one copied in its place
        rcases hkept.rows y hy with hphone | hstored
        · exact .phone y hphone hyId (.inr hdeleted)
        · exact .server y hstored hyId hdeleted
    · exact .inr hlost

/-- Deleting records, each for a reason. -/
private theorem kept_deleteRecords {v : View} (h : R.Kept v) {f : SqliteDB → SqliteDB}
    {g : SqliteDB → SqlTable WorkRecordCol} (hf : f = fun e => { e with work_record := g e })
    (hg : ∀ e x, R.FileKept e → x ∈ e.work_record → x ∈ g e ∨ R.RecordDiscarded x) :
    R.Kept (v.onFile f) := by
  subst hf
  refine h.onFile fun e hkept => { hkept with records := fun x hx => ?_ }
  rcases hkept.records x hx with hx | hx
  · exact hg e x hkept hx
  · exact .inr hx

/-- The four statements that delete tasks the server wants deleted. -/
private theorem keeps_deleteDeadTasks (hmode : R.mode = .radio_work) (rc : TaskDeleteRc)
    {ids : List String} (hne : ids ≠ []) (hdead : ∀ i ∈ ids, R.TaskDead i) :
    Keeps (KeepsView R.Kept) (deleteTasks rc ids) := by
  refine keeps_deleteTasks rc (fun v h => ?_) (fun v h => ?_) (fun v h => ?_) fun v h => ?_
  · simp only [SqliteDB.foldl_deleteTask]
    refine kept_deleteTasks hmode h (g := fun t => t.deleteIds (rc.tasks.bound ids))
      (fun t x hx => (Table.mem_deleteIds.1 hx).1) fun t x hx => ?_
    by_cases hi : x.Id ∈ rc.tasks.bound ids
    · exact .inr (.inl (hdead _ (QuickRc.mem_of_mem_bound hi)))
    · exact .inl (Table.mem_deleteIds.2 ⟨hx, hi⟩)
  · simp only [SqliteDB.foldl_deleteSubtasks]
    refine kept_deleteTasks hmode h
      (g := fun t => t.deleteEqs .AllId (rc.subtasks.bound ids))
      (fun t x hx => (Table.mem_deleteEqs.1 hx).1) fun t x hx => ?_
    by_cases hi : ∃ i ∈ rc.subtasks.bound ids, x.col .AllId = some i
    · obtain ⟨i, hi, hall⟩ := hi
      exact .inr (.inr ⟨i, hall, hdead i (QuickRc.mem_of_mem_bound hi)⟩)
    · exact .inl (Table.mem_deleteEqs.2 ⟨hx, fun i hmem hall => hi ⟨i, hmem, hall⟩⟩)
  · simp only [SqliteDB.foldl_deleteRecordsOf]
    refine kept_deleteRecords h rfl fun e x _ hx => ?_
    by_cases hi : ∃ i ∈ rc.records.bound ids, x.col .WorkTaskId = some i
    · obtain ⟨i, hi, htask⟩ := hi
      exact .inr (.deleted hmode i htask (hdead i (QuickRc.mem_of_mem_bound hi)))
    · exact .inl (Table.mem_deleteEqs.2 ⟨hx, fun i hmem htask => hi ⟨i, hmem, htask⟩⟩)
  · refine kept_deleteRecords h rfl fun e x hkept hx => ?_
    cases hin : (x.col .WorkTaskId).notIn e.work_task.ids with
    | false => exact .inl (Table.mem_deleteNotIn.2 ⟨hx, hin⟩)
    | true =>
      obtain ⟨i, rest, rfl⟩ := List.exists_cons_of_ne_nil hne
      refine .inr (.taskless hmode i (hdead i List.mem_cons_self) fun t ht hown => ?_)
      refine (hkept.taskIds t ht).resolve_left fun hId => ?_
      -- a task of this key is there, so the record is not without one
      cases htask : x.col .WorkTaskId with
      | none =>
        rw [htask, Text.notIn, List.isEmpty_iff] at hin
        rw [hin] at hId
        exact absurd hId List.not_mem_nil
      | some j =>
        rw [htask] at hin
        rw [hown j htask] at hId
        simp [Text.notIn, hId] at hin

private theorem keeps_tasks2 (hmode : R.mode = .radio_work) (rc : TaskToPhoneRc) :
    Keeps (KeepsView R.Kept) (deleteTasks2 rc) := by
  unfold deleteTasks2
  refine keeps_select ?_ (fun w hI => ?_) rc.select2
  · exact keeps_pure _
  have hdead := fun i hi => hI.2.2.taskDead (.inl rfl) (i := i) hi
  cases hrows : w.server.db.deletedTasks "2" with
  | nil => exact hI
  | cons i rest =>
    rw [World.view, hrows] at hdead
    have hkeeps := keeps_deleteDeadTasks hmode rc.delete2 (List.cons_ne_nil i rest) hdead
    exact (hkeeps.bind fun _ => keeps_pure true) w hI

private theorem keeps_tasks3 (hmode : R.mode = .radio_work) (rc : TaskToPhoneRc) :
    Keeps (KeepsView R.Kept) (deleteTasks3 rc) := by
  unfold deleteTasks3
  refine keeps_select ?_ (fun w hI => ?_) rc.select3
  · exact keeps_pure _
  -- what is deleted by name are the tasks in state 3
  have hdead := fun i hi => hI.2.2.taskDead (.inr rfl) (i := i) hi
  cases hrows : w.server.db.deletedTasks "3" with
  | nil => exact hI
  | cons i rest =>
    rw [World.view, hrows] at hdead
    have hkeeps := keeps_deleteDeadTasks hmode rc.delete3 (List.cons_ne_nil i rest) hdead
    refine (hkeeps.bind fun _ => (keeps_updateMysqlDB (fun v h done hdone => ?_) rc.update3).bind
      fun _ => keeps_pure true) w hI
    -- the server deletes a task and its records, and marks nothing
    have hstmt : ∀ st ∈ done, ∃ j, st = .deleteWorkTask j ∨ st = .deleteWorkRecordOf j := by
      intro st hst
      obtain ⟨j, -, hj⟩ := List.mem_flatMap.1 (hdone st hst)
      exact ⟨j, by simpa [deleteTaskStmts] using hj⟩
    refine ⟨h.1, h.2.execAll (fun st hst => ?_) fun j hj => ?_⟩
    · obtain ⟨j, rfl | rfl⟩ := hstmt st hst
      · rfl
      · rfl
    · obtain ⟨k, hk | hk⟩ := hstmt _ hj
      · cases hk
      · cases hk

/-- The tasks. -/
private theorem keeps_task (hmode : R.mode = .radio_work) (k : ℕ) {ids : List String}
    (hsub : ∀ i ∈ ids, i ∈ findChildTypeID R.sel.m_treeCtrl_curItem) :
    Keeps (KeepsView R.Kept) (synchrodataWorkTaskToPhone ids (R.rc.work k).task) := by
  refine keeps_workTaskToPhone Kept.created ids _ (keeps_tasks2 hmode _) (keeps_tasks3 hmode _)
    fun v h _ => ?_
  have hcopied : ∀ r ∈ v.db.newTasks (R.rc.work k).task.win ids, R.TaskCopied r :=
    fun r hr => ⟨k, MysqlDB.Sub.newTasks h.2.sub hsub _ r hr⟩
  simp only [View.copied, SqliteDB.foldl_replaceTask]
  refine Kept.enqueue (h.onFile fun e hkept => ?_) _
  refine ⟨hkept.devices, fun x hx => ?_, hkept.records, fun t ht => ?_, fun t ht => ?_⟩
  · rcases hkept.tasks x hx with hx | hx
    · refine (mem_replaceAll_or hx _ _ taskToPhone).imp_right ?_
      rintro ⟨r, hr, hId⟩
      exact .replaced hmode r (hcopied r hr) hId
    · exact .inr hx
  · rcases Table.mem_of_mem_replaceAll ht with ht | ht
    · exact hkept.rows t ht
    · -- the columns of a row that is bound may come from different rows of the query
      obtain ⟨hkey, hcols⟩ := QuickRc.mem_bound_row ht
      refine .inr ⟨?_, fun c => (hcols c).imp_right ?_⟩
      · obtain ⟨y, hy, hId⟩ := hkey
        obtain ⟨r, hr, rfl⟩ := List.mem_map.1 hy
        exact ⟨r, hcopied r hr, hId⟩
      · rintro ⟨y, hy, hcol⟩
        obtain ⟨r, hr, rfl⟩ := List.mem_map.1 hy
        exact ⟨r, hcopied r hr, hcol⟩
  · exact (hkept.taskIds t ht).imp_left fun hId => Table.mem_ids_replaceAll.2 (.inl hId)

/-- The records. -/
private theorem keeps_record (hmode : R.mode = .radio_work) (k : ℕ) :
    Keeps (KeepsView R.Kept) (synchrodataWorkRecordToPhone (R.rc.work k).record) := by
  refine keeps_workRecordToPhone Kept.created _ fun v h _ => ?_
  simp only [View.copied, SqliteDB.foldl_replaceRecord]
  refine Kept.enqueue (kept_deleteRecords h rfl fun e x _ hx => ?_) _
  refine (mem_replaceAll_or hx _ _ recordToPhone).imp_right ?_
  rintro ⟨r, hr, hId⟩
  exact .replaced hmode k r (MysqlDB.Sub.newRecords h.2.sub _ r hr) hId

/-! ## §3 A sync to the phone -/

/-- The start of a run. -/
def start (R : SyncRun) (connected gate : Bool) (executed queue : List MyStmt) : World where
  sq := ⟨.holds R.d, none, connected, gate⟩
  server := ⟨R.db, executed⟩
  updateMysqlData := queue

/-- **A sync to the phone** discards nothing else from the temporary file, whatever its calls
return. -/
private theorem sync_discards_only (R : SyncRun) (connected gate : Bool)
    (executed queue : List MyStmt) :
    ∃ e, ((beginSwitchData R.sel .tongbu_to_phone R.mode R.rc).run
        (R.start connected gate executed queue)).2.sq.file = .holds e ∧
      (∀ x ∈ R.d.device_info, x ∈ e.device_info ∨ R.DeviceDiscarded x) ∧
      (∀ x ∈ R.d.work_task, x ∈ e.work_task ∨ R.TaskDiscarded x) ∧
      ∀ x ∈ R.d.work_record, x ∈ e.work_record ∨ R.RecordDiscarded x := by
  -- at the start nothing has been discarded
  have hstart : R.Passed ⟨.holds R.d, R.db, []⟩ :=
    ⟨⟨R.d, rfl,
        ⟨fun _ hx => .inl hx, fun _ hx => .inl hx, fun _ hx => .inl hx, fun _ ht => .inl ht,
          fun t ht => .inl (Table.mem_ids.2 ⟨t, ht, rfl⟩)⟩,
        ⟨fun _ ht => ht, fun _ hi _ => hi⟩⟩,
      ⟨.refl R.db, fun _ hi _ => hi⟩⟩
  -- every routine keeps the invariant, whichever block is run
  obtain ⟨v, ⟨⟨e, he, hkept⟩, -⟩, done, -, hend⟩ := ends_beginSwitchData (I := R.Kept)
    (w := R.start connected gate executed queue) rfl (fun _ h => h) R.sel R.mode R.rc hstart
    (fun _ h => h.kept) keeps_pass (fun _ k ids _ => keeps_users ids (R.rc.user k))
    (fun _ => keeps_areas R.sel.shownAreas R.rc.areas)
    (fun hmode k ids hids => keeps_devices hmode k fun i hi =>
      mem_of_mem_getArrayItems (List.mem_of_getElem? hids) hi)
    fun hmode k ids hids => (keeps_template ids _).bind fun _ => (keeps_type ids _).bind fun _ =>
      (keeps_task hmode k fun i hi =>
        mem_of_mem_getArrayItems (List.mem_of_getElem? hids) hi).bind fun _ =>
      (keeps_record hmode k).bind fun _ => keeps_pure _
  refine ⟨e, ?_, hkept.devices, hkept.tasks, hkept.records⟩
  have hfile := congrArg View.file hend
  exact hfile.trans he

end SyncRun

/-! ## §4 A clear -/

/-- Only the finished tasks of the days chosen and their records are gone. -/
structure ClearKept (range : Window) (d e : SqliteDB) : Prop where
  devices : e.device_info = d.device_info
  tasks : ∀ x ∈ d.work_task, x ∈ e.work_task ∨ x.Id ∈ d.clearedTasks range
  records : ∀ x ∈ d.work_record,
    x ∈ e.work_record ∨ ∃ i ∈ d.clearedTasks range, x.col .WorkTaskId = some i

section Clear

variable {range : Window} {d : SqliteDB}

/-- The file has only lost what a clear deletes. -/
def Cleared (range : Window) (d : SqliteDB) (v : View) : Prop :=
  ∃ e, v.file = .holds e ∧ ClearKept range d e

open Act

private theorem cleared_onFile {f : SqliteDB → SqliteDB} {v : View} (h : Cleared range d v)
    (hf : ∀ e, ClearKept range d e → ClearKept range d (f e)) : Cleared range d (v.onFile f) := by
  obtain ⟨e, he, hkept⟩ := h
  exact ⟨f e, by rw [View.onFile, he]; rfl, hf e hkept⟩

/-- Deleting some of the tasks to clear, and their records. -/
private theorem keeps_clearRows {ids : List String} (hids : ∀ i ∈ ids, i ∈ d.clearedTasks range)
    (rc : ClearRc) :
    Keeps (KeepsView (Cleared range d)) (do
      let _ ← derefFirst (ids.map some)
      let _ ← onSq (quickInsertData rc.tasks SqliteDB.deleteTask (ids.map some))
      let _ ← onSq (quickInsertData rc.records SqliteDB.deleteRecordsOf (ids.map some))
      deleteAll (ids.map some)
      onSq closeDataBase
      pure true) := by
  -- the two inserts are what changes the file
  have hderef : Keeps (KeepsView (Cleared range d)) (derefFirst (ids.map some)) := by
    cases ids with
    | nil => exact keeps_halt .undefined
    | cons i ids => exact keeps_pure i
  have hdelete : Keeps (KeepsView (Cleared range d)) (deleteAll (ids.map some)) :=
    Keeps.ite (keeps_pure ()) (keeps_halt .undefined)
  refine hderef.bind fun _ => (keeps_quickInsertData rc.tasks fun v h => ?_).bind fun _ =>
    (keeps_quickInsertData rc.records fun v h => ?_).bind fun _ => hdelete.bind fun _ =>
    keeps_closeDataBase.bind fun _ => keeps_pure true
  · -- the tasks that are deleted are among those to clear
    simp only [SqliteDB.foldl_deleteTask]
    refine cleared_onFile h fun e hkept => { hkept with tasks := fun x hx => ?_ }
    by_cases hi : x.Id ∈ rc.tasks.bound ids
    · exact .inr (hids _ (QuickRc.mem_of_mem_bound hi))
    · exact (hkept.tasks x hx).imp_left fun hmem => Table.mem_deleteIds.2 ⟨hmem, hi⟩
  · -- and so are the tasks whose records are
    simp only [SqliteDB.foldl_deleteRecordsOf]
    refine cleared_onFile h fun e hkept => { hkept with records := fun x hx => ?_ }
    by_cases hi : ∃ i ∈ rc.records.bound ids, x.col .WorkTaskId = some i
    · obtain ⟨i, hi, htask⟩ := hi
      exact .inr ⟨i, hids i (QuickRc.mem_of_mem_bound hi), htask⟩
    · exact (hkept.records x hx).imp_left fun hmem =>
        Table.mem_deleteEqs.2 ⟨hmem, fun i hmem htask => hi ⟨i, hmem, htask⟩⟩

/-- **A clear** discards nothing but finished tasks and their records. -/
private theorem clear_discards_only (range : Window) (rc : ClearRc) (d : SqliteDB)
    (connected gate : Bool) (server : Server) (queue : List MyStmt) :
    Cleared range d ((synchrodataClearRecord range rc).run
      ⟨⟨.holds d, none, connected, gate⟩, server, queue⟩).2.view := by
  have hsame : ClearKept range d d :=
    ⟨rfl, fun _ hx => .inl hx, fun _ hx => .inl hx⟩
  unfold synchrodataClearRecord
  rw [bind_run_ok (read_run _), if_neg (by simp [DbFile.pathFileExists])]
  cases gate with
  | false => exact ⟨d, rfl, hsame⟩
  | true =>
    cases hopen : rc.openDb with
    | false => exact ⟨d, rfl, hsame⟩
    | true =>
      have hopened : (onSq (openDataBase true)).run
          (⟨⟨.holds d, none, connected, true⟩, server, queue⟩ : World) =
          (.ok true, ⟨⟨.holds d, none, true, false⟩, server, queue⟩) := rfl
      rw [bind_run_ok hopened, if_pos rfl]
      cases hret : rc.count.returns with
      | false =>
        obtain ⟨c, hcount⟩ := quickSelectDataCount_false rc.count
          (fun d : SqliteDB => (d.clearedTasks range).length) 0
          (⟨.holds d, none, true, false⟩ : Sq SqliteDB) rfl (by rw [hret, Bool.and_false])
        rw [bind_run_ok (onSq_run hcount)]
        exact ⟨d, rfl, hsame⟩
      | true =>
        have hcount := quickSelectDataCount_true rc.count
          (fun d : SqliteDB => (d.clearedTasks range).length) 0
          (⟨.holds d, none, true, false⟩ : Sq SqliteDB) rfl rfl rfl hret
        rw [bind_run_ok (onSq_run hcount)]
        dsimp only
        rw [if_pos rfl]
        cases rc.count.row with
        | false => exact ⟨d, rfl, hsame⟩
        | true =>
          rw [if_pos rfl]
          split
          · have hselect := quickSelectData_run rc.select (SqliteDB.clearedTasks range)
              (d.clearedTasks range).length (⟨.holds d, none, true, false⟩ : Sq SqliteDB) rfl rfl
              rfl
            cases hfetch : rc.select.fetched (d.clearedTasks range)
              (d.clearedTasks range).length with
            | none =>
              rw [hfetch] at hselect
              rw [bind_run_error (onSq_run hselect)]
              exact ⟨d, rfl, hsame⟩
            | some o =>
              rw [hfetch] at hselect
              cases o with
              | none =>
                rw [bind_run_ok (onSq_run hselect)]
                exact ⟨d, rfl, hsame⟩
              | some stored =>
                -- every slot of the array is filled, with tasks to clear
                obtain ⟨hsub, hlen⟩ := FetchRc.fetched_some hfetch
                rw [bind_run_ok (onSq_run hselect)]
                dsimp only
                rw [← hlen, ptrArray_full]
                exact (keeps_clearRows hsub rc _ ⟨rfl, d, rfl, hsame⟩).2
          · exact ⟨d, rfl, hsame⟩

end Clear

/-! ## §5 What may be discarded -/

/-- **What a sync to the phone and a clear discard**, whatever their calls return: a sync
discards the rows listed in §1 and a clear finished tasks of the days chosen with their records,
and nothing else; the phone's own `SynchronState` plays no part in it. -/
theorem phone_rows_discarded_only (R : SyncRun) (range : Window) (rc : ClearRc)
    (connected gate : Bool) (executed queue : List MyStmt) :
    (∃ e, ((beginSwitchData R.sel .tongbu_to_phone R.mode R.rc).run
        (R.start connected gate executed queue)).2.sq.file = .holds e ∧
      (∀ x ∈ R.d.device_info, x ∈ e.device_info ∨ R.DeviceDiscarded x) ∧
      (∀ x ∈ R.d.work_task, x ∈ e.work_task ∨ R.TaskDiscarded x) ∧
      ∀ x ∈ R.d.work_record, x ∈ e.work_record ∨ R.RecordDiscarded x) ∧
    ∃ e, ((synchrodataClearRecord range rc).run
        (R.start connected gate executed queue)).2.sq.file = .holds e ∧ ClearKept range R.d e :=
  ⟨R.sync_discards_only connected gate executed queue,
    clear_discards_only range rc R.d connected gate ⟨R.db, executed⟩ queue⟩

/-- Marked as deleted on the server. -/
def Text.Marked (v : Text) : Prop := v = some "2" ∨ v = some "3"

namespace MysqlDB

/-- The device, or its area, is marked. -/
def DeviceMarked (db : MysqlDB) (DeviceId : Text) : Prop :=
  ∃ r ∈ db.device_info, DeviceId = some r.Id ∧ ((r.col .SynchronState).Marked ∨
    ∃ a ∈ db.areas, r.col .AreaId = some a.Id ∧ (a.col .SynchronState).Marked)

/-- The task, or its main task, is marked. -/
def TaskMarked (db : MysqlDB) (WorkTaskId : Text) : Prop :=
  ∃ r ∈ db.work_task, WorkTaskId = some r.Id ∧ ((r.col .SynchronState).Marked ∨
    ∃ m ∈ db.work_task, r.col .AllId = some m.Id ∧ (m.col .SynchronState).Marked)

end MysqlDB

/-- A run discards a row that was not uploaded only if its device, area or main task is marked on
the server. -/
def SyncRun.DiscardsMarkedOnly (R : SyncRun) (w : World) : Prop :=
  ∀ e, w.sq.file = .holds e →
    (∀ x ∈ R.d.device_info, x.col .SynchronState = some "0" →
      x ∈ e.device_info ∨ R.db.DeviceMarked (some x.Id)) ∧
    (∀ x ∈ R.d.work_task, x.col .SynchronState = some "0" →
      x ∈ e.work_task ∨ R.db.DeviceMarked (x.col .DeviceId) ∨ R.db.TaskMarked (some x.Id) ∨
        R.db.TaskMarked (x.col .AllId)) ∧
    ∀ x ∈ R.d.work_record, x.col .SynchronState = some "0" →
      x ∈ e.work_record ∨ R.db.DeviceMarked (x.col .DeviceId) ∨
        R.db.TaskMarked (x.col .WorkTaskId)

/-- The device was changed on the phone and on the server. -/
def SyncRun.bothChanged : SyncRun where
  sel := Selection.ofDevice "dev"
  mode := .radio_devices
  rc := SwitchRc.allOk ToPcRc.allOk.win
  db := { MysqlDB.empty with device_info := ⟨[newDevice "server"], by decide⟩ }
  d := { SqliteDB.empty with device_info := ⟨[newDevice "phone"], by decide⟩ }
  m_userArea := ""
  lastRead := none
  treeOfRead := rfl

/-- The phone's change is overwritten, and nothing is marked on the server. -/
theorem changed_device_overwritten :
    ¬SyncRun.bothChanged.DiscardsMarkedOnly
      ((beginSwitchData SyncRun.bothChanged.sel .tongbu_to_phone .radio_devices
        SyncRun.bothChanged.rc).run (SyncRun.bothChanged.start false true [] [])).2 := by
  intro h
  obtain ⟨hdevices, -, -⟩ := h
    { SqliteDB.empty with device_info := ⟨[deviceToPhone (newDevice "server")], by decide⟩ } rfl
  rcases hdevices (newDevice "phone") List.mem_cons_self rfl with hstays | ⟨r, hr, -, hmarked⟩
  · have heq := congrArg (fun r => r.col .RFID) (List.mem_singleton.1 hstays)
    exact absurd heq (by decide)
  · rw [List.mem_singleton.1 hr] at hmarked
    rcases hmarked with (h2 | h3) | ⟨a, ha, -⟩
    · exact absurd h2 (by decide)
    · exact absurd h3 (by decide)
    · exact absurd ha List.not_mem_nil

end MtpSync
