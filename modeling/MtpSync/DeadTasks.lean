import MtpSync.Chunks

/-!
# Tasks the phone should not have

`Synchrodata_work_task` first deletes from the phone what the server has marked, and then copies
the new tasks.  The query for the new tasks looks at a task's own state and device: the subtask of
a marked task comes back if it is new itself.  And the queries for the tasks to delete name tasks
the server has: a task of a missing device that is on the phone only stays there.

- §1 dead tasks
- §2 what the deletes leave of them
- §3 what the copy brings back
- §4 the routine
-/

namespace MtpSync

open Act

/-! ## §1 Dead tasks -/

/-- The main tasks the server has marked as deleted. -/
def MysqlDB.deadMains (db : MysqlDB) : List String := db.mainTasks "2" ++ db.mainTasks "3"

/-- The server does not have the device of the task, as the phone's row or the server's tells
it. -/
def Deviceless (db : MysqlDB) (x : SqlRow WorkTaskCol) : Prop :=
  (x.col .DeviceId).isIn db.device_info.ids = false ∨
    ∃ r ∈ db.work_task, r.Id = x.Id ∧ (r.col .DeviceId).isIn db.device_info.ids = false

/-- A task of the phone that should not be there. -/
inductive DeadTask (db : MysqlDB) (x : SqlRow WorkTaskCol) : Prop
  /-- it is a marked main task -/
  | main (h : x.Id ∈ db.deadMains)
  /-- it is a subtask of one -/
  | subtask (h : (x.col .AllId).isIn db.deadMains = true)
  /-- it is a subtask of one on the server -/
  | serverSubtask {r : SqlRow WorkTaskCol} (hr : r ∈ db.work_task) (hId : r.Id = x.Id)
      (h : (r.col .AllId).isIn db.deadMains = true)
  /-- it has no device -/
  | deviceless (h : Deviceless db x)

/-- What the two queries name. -/
def MysqlDB.named (db : MysqlDB) : List String := db.deletedTasks "2" ++ db.deletedTasks "3"

variable {win : Window} {ids : List String} {db : MysqlDB} {d : SqliteDB}

/-- A row the queries name: it is marked, or a subtask of a marked one, or has no device. -/
theorem mem_named {i : String} :
    i ∈ db.named ↔ ∃ r ∈ db.work_task, r.Id = i ∧ ((r.col .AllId).isIn db.deadMains = true ∨
      r.Id ∈ db.deadMains ∨ (r.col .DeviceId).notIn db.device_info.ids = true) := by
  -- one list for each of the two states, and the main tasks of both
  have hstate : ∀ state, i ∈ db.deletedTasks state ↔ ∃ r ∈ db.work_task, r.Id = i ∧
      ((r.col .AllId).isIn (db.mainTasks state) = true ∨ r.Id ∈ db.mainTasks state ∨
        (r.col .DeviceId).notIn db.device_info.ids = true) := by
    intro state
    simp only [MysqlDB.deletedTasks, List.mem_map, Table.mem_select, Bool.or_eq_true,
      List.contains_iff_mem, or_assoc]
    constructor
    · rintro ⟨r, ⟨hr, h⟩, hId⟩
      exact ⟨r, hr, hId, h⟩
    · rintro ⟨r, hr, hId, h⟩
      exact ⟨r, ⟨hr, h⟩, hId⟩
  have hmains : ∀ v : Text, v.isIn db.deadMains = true ↔
      v.isIn (db.mainTasks "2") = true ∨ v.isIn (db.mainTasks "3") = true := by
    intro v
    simp only [Text.isIn_iff, MysqlDB.deadMains, List.mem_append]
    constructor
    · rintro ⟨t, ht | ht, hv⟩
      · exact .inl ⟨t, ht, hv⟩
      · exact .inr ⟨t, ht, hv⟩
    · rintro (⟨t, ht, hv⟩ | ⟨t, ht, hv⟩)
      · exact ⟨t, .inl ht, hv⟩
      · exact ⟨t, .inr ht, hv⟩
  -- from the two lists to their union, reason by reason
  rw [MysqlDB.named, List.mem_append, hstate, hstate]
  constructor
  · rintro (⟨r, hr, hId, hsub | hself | hdevice⟩ | ⟨r, hr, hId, hsub | hself | hdevice⟩)
    · exact ⟨r, hr, hId, .inl ((hmains _).2 (.inl hsub))⟩
    · exact ⟨r, hr, hId, .inr (.inl (List.mem_append_left _ hself))⟩
    · exact ⟨r, hr, hId, .inr (.inr hdevice)⟩
    · exact ⟨r, hr, hId, .inl ((hmains _).2 (.inr hsub))⟩
    · exact ⟨r, hr, hId, .inr (.inl (List.mem_append_right _ hself))⟩
    · exact ⟨r, hr, hId, .inr (.inr hdevice)⟩
  · rintro ⟨r, hr, hId, hsub | hself | hdevice⟩
    · rcases (hmains _).1 hsub with h | h
      · exact .inl ⟨r, hr, hId, .inl h⟩
      · exact .inr ⟨r, hr, hId, .inl h⟩
    · rcases List.mem_append.1 hself with h | h
      · exact .inl ⟨r, hr, hId, .inr (.inl h)⟩
      · exact .inr ⟨r, hr, hId, .inr (.inl h)⟩
    · exact .inl ⟨r, hr, hId, .inr (.inr hdevice)⟩

/-- A marked main task is on the server. -/
theorem mem_deadMains {i : String} (h : i ∈ db.deadMains) :
    ∃ r ∈ db.work_task, r.Id = i ∧
      (r.col .SynchronState = some "2" ∨ r.col .SynchronState = some "3") := by
  rcases List.mem_append.1 h with h | h
  · obtain ⟨r, hr, rfl⟩ := List.mem_map.1 h
    rw [Table.mem_select, Bool.and_eq_true, Text.eq_iff, Text.eq_iff] at hr
    exact ⟨r, hr.1, rfl, .inl hr.2.2⟩
  · obtain ⟨r, hr, rfl⟩ := List.mem_map.1 h
    rw [Table.mem_select, Bool.and_eq_true, Text.eq_iff, Text.eq_iff] at hr
    exact ⟨r, hr.1, rfl, .inr hr.2.2⟩

theorem deadMains_subset_named {i : String} (h : i ∈ db.deadMains) : i ∈ db.named := by
  obtain ⟨r, hr, rfl, -⟩ := mem_deadMains h
  exact mem_named.2 ⟨r, hr, rfl, .inr (.inl h)⟩

/-! ## §2 The deletes -/

/-- What both passes leave of the phone's tasks. -/
theorem mem_deletes_named {x : SqlRow WorkTaskCol} :
    x ∈ ((TaskToPhoneRc.allOk win).deletes db d).work_task ↔
      x ∈ d.work_task ∧ x ∉ TakenWith db.named := by
  rw [mem_deletes_tasks, and_congr_right_iff]
  intro _
  simp only [TakenWith, MysqlDB.named, List.mem_append, Set.mem_ofPred_eq]
  constructor
  · rintro ⟨h2, h3⟩ (hself | ⟨i, hi, hsub⟩)
    · exact hself.elim (fun h => h2 (.inl h)) fun h => h3 (.inl h)
    · exact hi.elim (fun h => h2 (.inr ⟨i, h, hsub⟩)) fun h => h3 (.inr ⟨i, h, hsub⟩)
  · intro h
    constructor
    · rintro (hself | ⟨i, hi, hsub⟩)
      · exact h (.inl (.inl hself))
      · exact h (.inr ⟨i, .inl hi, hsub⟩)
    · rintro (hself | ⟨i, hi, hsub⟩)
      · exact h (.inl (.inr hself))
      · exact h (.inr ⟨i, .inr hi, hsub⟩)

/-- A task the deletes leave is dead only for want of a device. -/
theorem dead_of_spared {x : SqlRow WorkTaskCol} (hspared : x ∉ TakenWith db.named) :
    DeadTask db x ↔ Deviceless db x := by
  constructor
  · intro h
    cases h with
    | main h => exact absurd (.inl (deadMains_subset_named h)) hspared
    | subtask h =>
      obtain ⟨t, ht, hx⟩ := Text.isIn_iff.1 h
      exact absurd (.inr ⟨t, deadMains_subset_named ht, hx⟩) hspared
    | serverSubtask hr hId h =>
      have hnamed : x.Id ∈ db.named := mem_named.2 ⟨_, hr, hId, .inl h⟩
      exact absurd (.inl hnamed) hspared
    | deviceless h => exact h
  · exact DeadTask.deviceless

/-! ## §3 The copy -/

/-- What is known of a task that is copied. -/
private theorem of_mem_newTasks_left {r : SqlRow WorkTaskCol}
    (hr : r ∈ ((TaskToPhoneRc.allOk win).left db).newTasks win ids) :
    r ∈ db.work_task ∧ r.Id ∉ db.deletedTasks "3" ∧ r.col .SynchronState = some "0" ∧
      ∃ t, r.col .DeviceId = some t := by
  rw [allOk_left, MysqlDB.newTasks, Table.mem_select, Table.mem_deleteIds, Bool.and_eq_true,
    Bool.and_eq_true, Bool.and_eq_true, Text.eq_iff] at hr
  obtain ⟨⟨hr, hno⟩, ⟨⟨hdevice, hnew⟩, -⟩, -⟩ := hr
  obtain ⟨t, -, ht⟩ := Text.isIn_iff.1 hdevice
  exact ⟨hr, hno, hnew, t, ht⟩

/-- The device of a task that is copied is on the server: otherwise the task would have been
deleted there. -/
private theorem device_of_new {r : SqlRow WorkTaskCol}
    (hr : r ∈ ((TaskToPhoneRc.allOk win).left db).newTasks win ids) :
    ∃ t ∈ db.device_info.ids, r.col .DeviceId = some t := by
  obtain ⟨hr, hno, -, t, ht⟩ := of_mem_newTasks_left hr
  refine ⟨t, ?_, ht⟩
  by_contra hmissing
  apply hno
  refine List.mem_map_of_mem (Table.mem_select.2 ⟨hr, ?_⟩)
  rw [ht]
  simp [Text.notIn, hmissing]

/-- **A copied task is dead exactly when it is a subtask of a marked main task.** -/
theorem dead_of_new {r : SqlRow WorkTaskCol}
    (hr : r ∈ ((TaskToPhoneRc.allOk win).left db).newTasks win ids) :
    DeadTask db (taskToPhone r) ↔ (r.col .AllId).read ∈ db.deadMains := by
  obtain ⟨t, htdevice, ht⟩ := device_of_new hr
  obtain ⟨hr, -, hnew, -⟩ := of_mem_newTasks_left hr
  have hAllId : (taskToPhone r).col .AllId = some (r.col .AllId).read :=
    Row.setCol_of_ne r.read (by decide) "1"
  have hDeviceId : (taskToPhone r).col .DeviceId = some (r.col .DeviceId).read :=
    Row.setCol_of_ne r.read (by decide) "1"
  have hisIn : (r.col .DeviceId).isIn db.device_info.ids = true :=
    Text.isIn_iff.2 ⟨t, htdevice, ht⟩
  constructor
  · intro h
    cases h with
    | main h =>
      -- it is new, and so has no such mark
      obtain ⟨r', hr', hId, hmark⟩ := mem_deadMains h
      rw [Table.eq_of_Id_eq hr' hr hId, hnew] at hmark
      rcases hmark with hmark | hmark
      · exact absurd hmark (by decide)
      · exact absurd hmark (by decide)
    | subtask h =>
      rw [hAllId] at h
      obtain ⟨i, hi, hread⟩ := Text.isIn_iff.1 h
      rw [Option.some_inj] at hread
      rwa [hread]
    | serverSubtask hr' hId h =>
      rw [Table.eq_of_Id_eq hr' hr hId] at h
      obtain ⟨i, hi, hread⟩ := Text.isIn_iff.1 h
      rw [hread]
      exact hi
    | deviceless h =>
      rcases h with h | ⟨r', hr', hId, h⟩
      · rw [hDeviceId, ht] at h
        rw [ht] at hisIn
        exact absurd (hisIn.symm.trans h) (by decide)
      · rw [Table.eq_of_Id_eq hr' hr hId] at h
        exact absurd (hisIn.symm.trans h) (by decide)
  · intro h
    apply DeadTask.subtask
    rw [hAllId]
    exact Text.isIn_iff.2 ⟨_, h, rfl⟩

/-! ## §4 The routine -/

/-- The routine returns and leaves no dead task on the phone. -/
def LeavesNoDeadTask (db : MysqlDB) (run : Except Halt Bool × World) : Prop :=
  run.1 = .ok true ∧ ∃ d, run.2.sq.file = .holds d ∧ ∀ x ∈ d.work_task, ¬DeadTask db x

/-- No task that is copied is a subtask of a marked main task. -/
def NoDeadSubtaskCopied (win : Window) (ids : List String) (db : MysqlDB) : Prop :=
  ∀ r ∈ ((TaskToPhoneRc.allOk win).left db).newTasks win ids,
    (r.col .AllId).read ∉ db.deadMains

/-- A task without a device is one the queries name, or a subtask of one, or has its row replaced
by a copy. -/
def DevicelessNamed (win : Window) (ids : List String) (db : MysqlDB) (d : SqliteDB) : Prop :=
  ∀ x ∈ d.work_task, Deviceless db x → x ∈ TakenWith db.named ∨
    ∃ r ∈ ((TaskToPhoneRc.allOk win).left db).newTasks win ids, r.Id = x.Id

/-- The tasks on the phone after the routine. -/
private theorem mem_tasksAfter {x : SqlRow WorkTaskCol} :
    x ∈ d.tasksAfter win ids db ↔
      (∃ r ∈ ((TaskToPhoneRc.allOk win).left db).newTasks win ids, taskToPhone r = x) ∨
      (x ∈ d.work_task ∧ x ∉ TakenWith db.named) ∧
        ∀ r ∈ ((TaskToPhoneRc.allOk win).left db).newTasks win ids, r.Id ≠ x.Id := by
  have hrows : (taskQuery win).rows ((TaskToPhoneRc.allOk win).left db) ids =
      (((TaskToPhoneRc.allOk win).left db).newTasks win ids).map taskToPhone := rfl
  rw [SqliteDB.tasksAfter, ← hrows, DeviceQuery.mem_replaceAll_rows, mem_deletes_named]
  simp only [DeviceQuery.news, hrows, Set.mem_ofPred_eq, List.mem_map, forall_exists_index,
    and_imp, forall_apply_eq_imp_iff₂]
  rfl

/-- **No dead task is left** exactly when no subtask of a marked main task is copied, and the
tasks without a device are named or replaced. -/
theorem no_dead_task_left_iff (win : Window) (ids : List String) (d : SqliteDB)
    (server : Server) (queue : List MyStmt) :
    LeavesNoDeadTask server.db ((synchrodataWorkTaskToPhone ids (TaskToPhoneRc.allOk win)).run
        (World.closed d server queue)) ↔
      NoDeadSubtaskCopied win ids server.db ∧ DevicelessNamed win ids server.db d := by
  -- the run ends with `true`, so the property is about what the file holds
  have hleaves : LeavesNoDeadTask server.db
      ((synchrodataWorkTaskToPhone ids (TaskToPhoneRc.allOk win)).run
        (World.closed d server queue)) ↔
      ∀ x ∈ d.tasksAfter win ids server.db, ¬DeadTask server.db x := by
    rw [workTaskToPhone_run_ok]
    constructor
    · rintro ⟨-, d', hd', h⟩
      injection hd' with hd'
      rw [← hd'] at h
      exact h
    · intro h
      exact ⟨rfl, _, rfl, h⟩
  rw [hleaves]
  constructor
  · intro h
    constructor
    · -- a dead subtask that is copied is on the phone
      intro r hr hread
      exact h (taskToPhone r) (mem_tasksAfter.2 (.inl ⟨r, hr, rfl⟩)) ((dead_of_new hr).2 hread)
    · -- and so is a task without a device that nothing names
      intro x hx hdevice
      by_contra hno
      rw [not_or] at hno
      refine h x (mem_tasksAfter.2 (.inr ⟨⟨hx, hno.1⟩, fun r hr hId => ?_⟩)) (.deviceless hdevice)
      exact hno.2 ⟨r, hr, hId⟩
  · rintro ⟨hcopied, hnamed⟩ x hx hdead
    -- a task on the phone was copied now, or spared by the deletes
    rcases mem_tasksAfter.1 hx with ⟨r, hr, rfl⟩ | ⟨⟨hx, hspared⟩, hno⟩
    · exact hcopied r hr ((dead_of_new hr).1 hdead)
    · rcases hnamed x hx ((dead_of_spared hspared).1 hdead) with htaken | ⟨r, hr, hId⟩
      · exact hspared htaken
      · exact hno r hr hId

/-- A new subtask of a marked main task is copied. -/
theorem dead_subtask_copied :
    ¬LeavesNoDeadTask (MysqlDB.withSubtask "d01")
      ((synchrodataWorkTaskToPhone ["d01"] (TaskToPhoneRc.allOk ToPcRc.allOk.win)).run
        (World.closed SqliteDB.empty ⟨MysqlDB.withSubtask "d01", []⟩ [])) := by
  rintro ⟨-, d, hd, h⟩
  rw [workTaskToPhone_run_ok] at hd
  injection hd with hd
  rw [← hd] at h
  have hnew : newSubtask "d01" ∈ ((TaskToPhoneRc.allOk ToPcRc.allOk.win).left
      (MysqlDB.withSubtask "d01")).newTasks ToPcRc.allOk.win ["d01"] := by
    rw [allOk_left]
    refine mem_newTasks.2 ⟨Table.mem_deleteIds.2 ⟨?_, by decide⟩, by decide⟩
    exact List.mem_cons_of_mem _ List.mem_cons_self
  exact h (taskToPhone (newSubtask "d01")) (mem_tasksAfter.2 (.inl ⟨_, hnew, rfl⟩))
    ((dead_of_new hnew).2 (by decide))

end MtpSync
