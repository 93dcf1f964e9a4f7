import MtpSync.Download.Succeeds

/-!
# What a queued mark promises

A run to the phone queues, for every row it copies to the temporary file, the statement that
will mark the row as synchronised on the server.  The routines keep it so that the file holds
every row whose mark is queued, as long as the deletes of tasks do not take such rows away again.

- §1 the tables with a mark
- §2 queued rows are in the temporary file
- §3 the routines that delete nothing they have queued
- §4 the deletes of tasks
- §5 a chunk
-/

namespace MtpSync

open Act

/-! ## §1 The tables with a mark -/

/-- A table whose rows are copied to the phone and marked: where it is, what a row becomes, and
which statements mark it. -/
structure CopiedTable (C : Type) where
  server : MysqlDB → SqlTable C
  phone : SqliteDB → SqlTable C
  SynchronState : C
  toPhone : SqlRow C → SqlRow C
  marks : String → MyStmt → Prop
  toPhone_Id : ∀ r, (toPhone r).Id = r.Id
  sub : ∀ {db db₀ : MysqlDB}, db.Sub db₀ → ∀ r ∈ server db, r ∈ server db₀
  /-- marks change only the rows they mark -/
  exec_mark : ∀ {st : MyStmt} {db : MysqlDB}, st.isMark = true → ∀ r' ∈ server (st.exec db),
    ∃ r ∈ server db, r.Id = r'.Id ∧ (r' = r ∨ marks r.Id st)

/-- What `UPDATE … WHERE Id = ?` leaves of a table. -/
private theorem mem_setWhereId_or {C : Type} [DecidableEq C] {t : SqlTable C} {c : C}
    {s i : String} {r' : SqlRow C} (h : r' ∈ t.setWhereId c s i) :
    ∃ r ∈ t, r.Id = r'.Id ∧ (r' = r ∨ r.Id = i) := by
  obtain ⟨r, hr, hr'⟩ := Table.mem_setWhereId.1 h
  by_cases hi : r.Id = i
  · rw [if_pos hi] at hr'
    exact ⟨r, hr, by rw [← hr', Row.setCol_Id], .inr hi⟩
  · rw [if_neg hi] at hr'
    exact ⟨r, hr, by rw [hr'], .inl hr'.symm⟩

/-- `device_info`. -/
def deviceCopy : CopiedTable DeviceInfoCol where
  server db := db.device_info
  phone d := d.device_info
  SynchronState := .SynchronState
  toPhone := deviceToPhone
  marks i st := st = .mark .device_info i
  toPhone_Id _ := rfl
  sub h := h.device_info
  exec_mark {st db} hmark r' hr' := by
    cases st with
    | mark t i =>
      cases t with
      | device_info =>
        obtain ⟨r, hr, hId, h⟩ := mem_setWhereId_or hr'
        exact ⟨r, hr, hId, h.imp_right fun h => by rw [h]⟩
      | _ => exact ⟨r', hr', rfl, .inl rfl⟩
    | markWorkTaskState2 => exact ⟨r', hr', rfl, .inl rfl⟩
    | _ => cases hmark

/-- `work_type`. -/
def typeCopy : CopiedTable WorkTypeCol where
  server db := db.work_type
  phone d := d.work_type
  SynchronState := .SynchronState
  toPhone := Row.read
  marks i st := st = .mark .work_type i
  toPhone_Id := Row.read_Id
  sub h := h.work_type
  exec_mark {st db} hmark r' hr' := by
    cases st with
    | mark t i =>
      cases t with
      | work_type =>
        obtain ⟨r, hr, hId, h⟩ := mem_setWhereId_or hr'
        exact ⟨r, hr, hId, h.imp_right fun h => by rw [h]⟩
      | _ => exact ⟨r', hr', rfl, .inl rfl⟩
    | markWorkTaskState2 => exact ⟨r', hr', rfl, .inl rfl⟩
    | _ => cases hmark

/-- `work_task`: the mark of an issued task sets its `State` too. -/
def taskCopy : CopiedTable WorkTaskCol where
  server db := db.work_task
  phone d := d.work_task
  SynchronState := .SynchronState
  toPhone := taskToPhone
  marks i st := st = .mark .work_task i ∨ st = .markWorkTaskState2 i
  toPhone_Id := taskToPhone_Id
  sub h := h.work_task
  exec_mark {st db} hmark r' hr' := by
    cases st with
    | mark t i =>
      cases t with
      | work_task =>
        obtain ⟨r, hr, hId, h⟩ := mem_setWhereId_or hr'
        exact ⟨r, hr, hId, h.imp_right fun h => by rw [h]; exact .inl rfl⟩
      | _ => exact ⟨r', hr', rfl, .inl rfl⟩
    | markWorkTaskState2 i =>
      obtain ⟨r₁, hr₁, hId₁, h₁⟩ := mem_setWhereId_or hr'
      obtain ⟨r, hr, hId, h⟩ := mem_setWhereId_or hr₁
      refine ⟨r, hr, hId.trans hId₁, ?_⟩
      rcases h with rfl | h
      · exact h₁.imp_right fun h => by rw [h]; exact .inr rfl
      · rw [h]
        exact .inr (.inr rfl)
    | _ => cases hmark

/-- `work_record`. -/
def recordCopy : CopiedTable WorkRecordCol where
  server db := db.work_record
  phone d := d.work_record
  SynchronState := .SynchronState
  toPhone := recordToPhone
  marks i st := st = .mark .work_record i
  toPhone_Id _ := rfl
  sub h := h.work_record
  exec_mark {st db} hmark r' hr' := by
    cases st with
    | mark t i =>
      cases t with
      | work_record =>
        obtain ⟨r, hr, hId, h⟩ := mem_setWhereId_or hr'
        exact ⟨r, hr, hId, h.imp_right fun h => by rw [h]⟩
      | _ => exact ⟨r', hr', rfl, .inl rfl⟩
    | markWorkTaskState2 => exact ⟨r', hr', rfl, .inl rfl⟩
    | _ => cases hmark

/-! ## §2 Queued rows are in the temporary file -/

namespace CopiedTable

variable {C : Type} (T : CopiedTable C)

/-- Every row whose mark is queued is unmarked on the server and copied in the file, except for
the rows `E` that will be copied again. -/
def Stored (E : SqlRow C → Prop) (v : View) : Prop :=
  ∀ st ∈ v.queue, ∀ r ∈ T.server v.db, T.marks r.Id st →
    r.col T.SynchronState = some "0" ∧ ∃ d, v.file = .holds d ∧ (E r ∨ T.toPhone r ∈ T.phone d)

variable {T} {E : SqlRow C → Prop}

theorem Stored.created {v : View} (h : T.Stored E v) : T.Stored E v.created := by
  intro st hst r hr hmarks
  obtain ⟨hstate, d, hd, hmem⟩ := h st hst r hr hmarks
  exact ⟨hstate, d, by rw [View.created, hd]; rfl, hmem⟩

/-- A change of the file that keeps the rows of the table. -/
theorem Stored.onFile {v : View} (h : T.Stored E v) {f : SqliteDB → SqliteDB}
    (hf : ∀ d, T.phone (f d) = T.phone d) : T.Stored E (v.onFile f) := by
  intro st hst r hr hmarks
  obtain ⟨hstate, d, hd, hmem⟩ := h st hst r hr hmarks
  exact ⟨hstate, f d, by rw [View.onFile, hd]; rfl, by rw [hf]; exact hmem⟩

/-- Queueing statements that are not about the table. -/
theorem Stored.enqueue {v : View} (h : T.Stored E v) {sts : List MyStmt}
    (hsts : ∀ st ∈ sts, ∀ i, ¬T.marks i st) : T.Stored E (v.enqueue sts) := by
  intro st hst r hr hmarks
  rcases List.mem_append.1 hst with hst | hst
  · exact h st hst r hr hmarks
  · exact absurd hmarks (hsts st hst r.Id)

theorem Stored.execute {v : View} (h : T.Stored E v) {done : List MyStmt}
    (hdel : ∀ st ∈ done, st.deletes = true) : T.Stored E (v.execute done) :=
  fun st hst r hr => h st hst r (T.sub (MysqlDB.execAll_sub hdel v.db) r hr)

/-- A copy of rows of another table. -/
theorem Stored.copied_other {ρ τ : Type} [Bound τ] {v : View} (h : T.Stored E v) {rc : QuickRc}
    {q : MysqlDB → List ρ} {toPhone : ρ → τ} {replace : SqliteDB → τ → SqliteDB}
    {mark : ρ → List MyStmt}
    (hmark : ∀ r, ∀ st ∈ mark r, ∀ i, ¬T.marks i st)
    (hphone : ∀ (rows : List τ) d, T.phone (rows.foldl replace d) = T.phone d) :
    T.Stored E (v.copied rc q toPhone replace mark) := by
  refine (h.onFile fun d => hphone _ d).enqueue fun st hst => ?_
  obtain ⟨r, -, hst⟩ := List.mem_flatMap.1 hst
  exact hmark r st hst

/-- **A copy of rows of the table itself**, all of them unmarked and stored as they are, and among
them those that were left out. -/
theorem Stored.copied_own [Columns C] {v : View} {rc : QuickRc} {q : MysqlDB → List (SqlRow C)}
    (h : T.Stored E v) (hfaithful : rc.Faithful ((q v.db).map T.toPhone))
    (hE : ∀ r ∈ T.server v.db, E r → r ∈ q v.db)
    {replace : SqliteDB → SqlRow C → SqliteDB} {mark : SqlRow C → List MyStmt}
    (hstores : rc.Stores (q v.db).length v)
    (hq : ∃ p, q v.db = (T.server v.db).select p)
    (hstate : ∀ r ∈ q v.db, r.col T.SynchronState = some "0")
    (hmark : ∀ r, ∀ st ∈ mark r, ∀ i, T.marks i st → i = r.Id)
    (hphone : ∀ rows d, T.phone (rows.foldl replace d) = (T.phone d).replaceAll rows) :
    T.Stored (fun _ => False) (v.copied rc q T.toPhone replace mark) := by
  obtain ⟨d, hd⟩ := DbFile.eq_holds hstores.1
  have hbound := hfaithful (by rw [List.length_map]; exact hstores.2)
  obtain ⟨p, hp⟩ := hq
  -- the rows that are copied are rows of the server, one for each id
  have hsub : ∀ r ∈ q v.db, r ∈ T.server v.db := fun r hr => by
    rw [hp] at hr
    exact (Table.mem_select.1 hr).1
  have hIds : ((q v.db).map T.toPhone).map Row.Id = (q v.db).map Row.Id := by
    rw [List.map_map]
    exact List.map_congr_left fun r _ => T.toPhone_Id r
  have hnodup : (((q v.db).map T.toPhone).map Row.Id).Nodup := by
    rw [hIds, hp]
    exact (T.server v.db).nodup.sublist (List.filter_sublist.map Row.Id)
  intro st hst r hr hmarks
  have hr : r ∈ T.server v.db := hr
  have hfile' : (v.copied rc q T.toPhone replace mark).file =
      .holds (((q v.db).map T.toPhone).foldl replace d) := by
    rw [View.copied, View.enqueue, View.onFile, hd, hbound]
    rfl
  -- a statement of the queue marks a row copied now, or one copied before
  by_cases hnew : r ∈ q v.db
  · refine ⟨hstate r hnew, _, hfile', .inr ?_⟩
    rw [hphone]
    exact (Table.mem_replaceAll hnodup).2 (.inl (List.mem_map.2 ⟨r, hnew, rfl⟩))
  · -- a row not copied now was queued before, and no copy has its key
    have hother : ∀ x ∈ q v.db, x.Id ≠ r.Id := fun x hx hId =>
      hnew (Table.eq_of_Id_eq (hsub x hx) hr hId ▸ hx)
    have hold : st ∈ v.queue := by
      rcases List.mem_append.1 hst with hst | hst
      · exact hst
      · obtain ⟨x, hx, hst⟩ := List.mem_flatMap.1 hst
        exact absurd (hmark x st hst r.Id hmarks).symm (hother x hx)
    obtain ⟨hzero, d', hd', hmem⟩ := h st hold r hr hmarks
    rw [hd] at hd'
    cases hd'
    replace hmem := hmem.resolve_left fun hEr => hnew (hE r hr hEr)
    refine ⟨hzero, _, hfile', .inr ?_⟩
    rw [hphone]
    refine (Table.mem_replaceAll hnodup).2 (.inr ⟨hmem, fun hId => ?_⟩)
    rw [hIds, T.toPhone_Id] at hId
    obtain ⟨x, hx, hxr⟩ := List.mem_map.1 hId
    exact hother x hx hxr

/-- A delete of rows of another table. -/
theorem Stored.purged_other {v : View} (h : T.Stored E v) {rc : QuickRc}
    {q : MysqlDB → List String}
    {delete : SqliteDB → String → SqliteDB}
    (hphone : ∀ (ids : List String) d, T.phone (ids.foldl delete d) = T.phone d) :
    T.Stored E (v.purged rc q delete) :=
  h.onFile fun d => hphone _ d

/-- A delete of rows of the table itself, all of them marked as deleted. -/
theorem Stored.purged_own {v : View} (h : T.Stored E v) {rc : QuickRc}
    {q : MysqlDB → List String}
    {delete : SqliteDB → String → SqliteDB}
    (hq : ∀ i ∈ q v.db, ∃ r ∈ T.server v.db, r.Id = i ∧ r.col T.SynchronState = some "2")
    (hphone : ∀ ids d, T.phone (ids.foldl delete d) = (T.phone d).deleteIds ids) :
    T.Stored E (v.purged rc q delete) := by
  intro st hst r hr hmarks
  obtain ⟨hstate, d, hd, hmem⟩ := h st hst r hr hmarks
  refine ⟨hstate, (rc.bound (q v.db)).foldl delete d, by rw [View.purged, View.onFile, hd]; rfl,
    hmem.imp_right fun hmem => ?_⟩
  rw [hphone]
  refine Table.mem_deleteIds.2 ⟨hmem, fun hId => ?_⟩
  rw [T.toPhone_Id] at hId
  obtain ⟨x, hx, hxr, htwo⟩ := hq r.Id (QuickRc.mem_of_mem_bound hId)
  rw [Table.eq_of_Id_eq hx hr hxr, hstate] at htwo
  exact absurd htwo (by decide)

end CopiedTable

/-- What the routines keep; `E` are records that will be copied again. -/
structure Queued (E : SqlRow WorkRecordCol → Prop) (v : View) : Prop where
  devices : deviceCopy.Stored (fun _ => False) v
  types : typeCopy.Stored (fun _ => False) v
  tasks : taskCopy.Stored (fun _ => False) v
  records : recordCopy.Stored E v

variable {E : SqlRow WorkRecordCol → Prop}

/-- Nothing is queued at first. -/
theorem Queued.of_nil {v : View} (h : v.queue = []) : Queued E v := by
  have hnone : ∀ st, st ∉ v.queue := fun st hst => by
    rw [h] at hst
    exact absurd hst List.not_mem_nil
  exact ⟨fun st hst => absurd hst (hnone st), fun st hst => absurd hst (hnone st),
    fun st hst => absurd hst (hnone st), fun st hst => absurd hst (hnone st)⟩

theorem Queued.created (v : View) (h : Queued E v) : Queued E v.created :=
  ⟨h.devices.created, h.types.created, h.tasks.created, h.records.created⟩

/-! ## §3 The routines that delete nothing they have queued -/

theorem queued_users (ids : List String) (rc : UserToPhoneRc) :
    Keeps (KeepsView (Queued E)) (synchrodataSysUser ids rc) := by
  refine keeps_sysUser Queued.created ids rc (fun v h => ?_) (fun v h => ?_) fun v h => ?_
  · have hmark : ∀ st ∈ (v.db.newUsers ids).map fun r => MyStmt.mark .sys_user r.Id,
        ∃ i, st = .mark .sys_user i := fun st hst => by
      obtain ⟨r, -, rfl⟩ := List.mem_map.1 hst
      exact ⟨r.Id, rfl⟩
    -- marks of users are marks of no other table
    refine ⟨h.devices.enqueue fun st hst i => ?_, h.types.enqueue fun st hst i => ?_,
      h.tasks.enqueue fun st hst i => ?_, h.records.enqueue fun st hst i => ?_⟩
    · obtain ⟨j, rfl⟩ := hmark st hst
      exact fun hno => by cases hno
    · obtain ⟨j, rfl⟩ := hmark st hst
      exact fun hno => by cases hno
    · obtain ⟨j, rfl⟩ := hmark st hst
      rintro (hno | hno)
      · cases hno
      · cases hno
    · obtain ⟨j, rfl⟩ := hmark st hst
      exact fun hno => by cases hno
  · -- the users are a table of their own
    simp only [SqliteDB.foldl_replaceUser]
    exact ⟨h.devices.onFile fun _ => rfl, h.types.onFile fun _ => rfl,
      h.tasks.onFile fun _ => rfl, h.records.onFile fun _ => rfl⟩
  · simp only [View.purged, SqliteDB.foldl_deleteUser]
    exact ⟨h.devices.onFile fun _ => rfl, h.types.onFile fun _ => rfl,
      h.tasks.onFile fun _ => rfl, h.records.onFile fun _ => rfl⟩

/-- **A chunk of devices** that are stored as they are. -/
theorem queued_devices (ids : List String) (fw : TongbuFw) (rc : ToPhoneRc) :
    Keeps (KeepsView fun v => Queued E v ∧
        rc.copy.insert.Faithful ((v.db.newDevices fw rc.win ids).map deviceToPhone))
      (synchrodataDeviceInfoToPhone ids fw rc) := by
  refine keeps_deviceInfoToPhone (fun v h => ⟨h.1.created v, h.2⟩) ids fw rc
    (fun v h hstores => ⟨?_, h.2⟩) fun v h => ⟨?_, h.2⟩
  · -- devices are copied and marked, the other tables left
    refine ⟨h.1.devices.copied_own h.2 (fun _ _ hE => hE.elim) hstores ⟨_, rfl⟩ (fun r hr => ?_)
        (by simp [deviceCopy]) fun rows d => by rw [SqliteDB.foldl_replaceDevice]; rfl,
      h.1.types.copied_other (by simp [typeCopy]) fun rows d => by
        rw [SqliteDB.foldl_replaceDevice]; rfl,
      h.1.tasks.copied_other (by simp [taskCopy]) fun rows d => by
        rw [SqliteDB.foldl_replaceDevice]; rfl,
      h.1.records.copied_other (by simp [recordCopy]) fun rows d => by
        rw [SqliteDB.foldl_replaceDevice]; rfl⟩
    rw [MysqlDB.newDevices, Table.mem_select, Bool.and_eq_true, Bool.and_eq_true,
      Text.eq_iff] at hr
    exact hr.2.1.2
  · -- the devices deleted are marked as deleted, so none of them is queued
    refine ⟨h.1.devices.purged_own (fun i hi => ?_) fun ids d => by
        rw [SqliteDB.foldl_deleteDevice]; rfl,
      h.1.types.purged_other fun ids d => by rw [SqliteDB.foldl_deleteDevice]; rfl,
      h.1.tasks.purged_other fun ids d => by rw [SqliteDB.foldl_deleteDevice]; rfl,
      h.1.records.purged_other fun ids d => by rw [SqliteDB.foldl_deleteDevice]; rfl⟩
    obtain ⟨r, hr, rfl⟩ := List.mem_map.1 hi
    rw [Table.mem_select, Bool.and_eq_true, Bool.and_eq_true, Text.eq_iff] at hr
    exact ⟨r, hr.1, rfl, hr.2.1.2⟩

/-- The chunk copies this record, whether or not it was copied before. -/
def WorkRc.recopied (rc : WorkRc) (db : MysqlDB) (r : SqlRow WorkRecordCol) : Prop :=
  rc.record.copies db ∧ r ∈ db.newRecords rc.record.win

/-- A chunk of tasks loses none of the rows whose marks are queued: what it copies is stored as it
is, and its deletes of the file reach none of them, except for records that are copied again. -/
structure WorkRc.Spares (rc : WorkRc) (ids : List String) (v : View) : Prop where
  types : rc.type.copy.insert.Faithful ((v.db.newWorkTypes rc.type.win ids).map Row.read)
  tasks : rc.task.copy.insert.Faithful
    (((rc.task.left v.db).newTasks rc.task.win ids).map taskToPhone)
  records : rc.record.copy.insert.Faithful
    (((rc.task.left v.db).newRecords rc.record.win).map recordToPhone)
  queuedTasks : ∀ st ∈ v.queue, ∀ r ∈ (rc.task.left v.db).work_task, taskCopy.marks r.Id st →
    ¬rc.task.Hits v.db (taskToPhone r)
  queuedRecords : ∀ d, v.file = .holds d → ∀ st ∈ v.queue,
    ∀ r ∈ (rc.task.left v.db).work_record, recordCopy.marks r.Id st →
      rc.recopied (rc.task.left v.db) r ∨ ¬rc.task.HitsRecord v.db d (recordToPhone r)

/-- What reaches a record depends on tasks and records. -/
private theorem TaskToPhoneRc.HitsRecord.frame {rc : TaskToPhoneRc} {db : MysqlDB}
    {d d' : SqliteDB} {x : SqlRow WorkRecordCol} (hsame : SameTasks d d')
    (h : rc.HitsRecord db d' x) : rc.HitsRecord db d x := by
  have h2 : SameTasks (rc.deletes2 db d) (rc.deletes2 db d') := by
    rw [TaskToPhoneRc.deletes2, TaskToPhoneRc.deletes2]
    split
    · exact hsame
    · exact rc.delete2.effect_sameTasks _ hsame
  rw [TaskToPhoneRc.HitsRecord, TaskDeleteRc.HitsRecord, TaskDeleteRc.HitsRecord, hsame.tasks,
    h2.tasks] at h
  exact h

/-- What is spared depends on tasks and records, and on their marks. -/
private theorem WorkRc.Spares.frame {rc : WorkRc} {ids : List String} {v v' : View}
    (h : rc.Spares ids v) (hdb : v'.db = v.db)
    (hqueue : ∀ st ∈ v'.queue, st ∈ v.queue ∨
      ∀ i, ¬taskCopy.marks i st ∧ ¬recordCopy.marks i st)
    (hfile : ∀ d', v'.file = .holds d' → ∃ d, v.file = .holds d ∧ SameTasks d d') :
    rc.Spares ids v' := by
  refine ⟨by rw [hdb]; exact h.types, by rw [hdb]; exact h.tasks, by rw [hdb]; exact h.records,
    fun st hst r hr hmarks => ?_, fun d' hd' st hst r hr hmarks => ?_⟩
  · rw [hdb] at hr ⊢
    rcases hqueue st hst with hst | hno
    · exact h.queuedTasks st hst r hr hmarks
    · exact absurd hmarks (hno r.Id).1
  · rw [hdb] at hr ⊢
    obtain ⟨d, hd, hsame⟩ := hfile d' hd'
    rcases hqueue st hst with hst | hno
    · exact (h.queuedRecords d hd st hst r hr hmarks).imp_right fun hno hhits =>
        hno (hhits.frame hsame)
    · exact absurd hmarks (hno r.Id).2

/-- A copy to another table, marked there. -/
private theorem WorkRc.Spares.copied {ρ τ : Type} [Bound τ] {rc : WorkRc} {ids : List String}
    {v : View} (h : rc.Spares ids v) {rc' : QuickRc} {q : MysqlDB → List ρ} {toPhone : ρ → τ}
    {replace : SqliteDB → τ → SqliteDB} {mark : ρ → List MyStmt}
    (hmark : ∀ r, ∀ st ∈ mark r, ∀ i, ¬taskCopy.marks i st ∧ ¬recordCopy.marks i st)
    (hsame : ∀ (rows : List τ) d, SameTasks d (rows.foldl replace d)) :
    rc.Spares ids (v.copied rc' q toPhone replace mark) := by
  refine h.frame rfl (fun st hst => ?_) fun d' hd' => holds_of_map (fun d => hsame _ d) hd'
  refine (List.mem_append.1 hst).imp_right fun hst => ?_
  obtain ⟨r, -, hst⟩ := List.mem_flatMap.1 hst
  exact hmark r st hst

/-- A delete of rows of another table. -/
private theorem WorkRc.Spares.purged {rc : WorkRc} {ids : List String} {v : View}
    (h : rc.Spares ids v) {rc' : QuickRc} {q : MysqlDB → List String}
    {delete : SqliteDB → String → SqliteDB}
    (hsame : ∀ (ids : List String) d, SameTasks d (ids.foldl delete d)) :
    rc.Spares ids (v.purged rc' q delete) :=
  h.frame rfl (fun _ hst => .inl hst) fun _ hd' => holds_of_map (fun d => hsame _ d) hd'

section Work

variable {rc : WorkRc} {chunk : List String}

private theorem spared_created (v : View) (h : Queued E v ∧ rc.Spares chunk v) :
    Queued E v.created ∧ rc.Spares chunk v.created :=
  ⟨h.1.created v, h.2.frame rfl (fun _ hst => .inl hst) fun d' hd' =>
    ⟨d', DbFile.holds_of_created hd', ⟨rfl, rfl⟩⟩⟩

private theorem queued_template (ids : List String) (rc' : ToPhoneRc) :
    Keeps (KeepsView fun v => Queued E v ∧ rc.Spares chunk v)
      (synchrodataWorkTemplateToPhone ids rc') := by
  refine keeps_workTemplateToPhone spared_created ids rc' (fun v h _ => ⟨?_, ?_⟩)
    fun v h => ⟨?_, ?_⟩
  · -- templates are copied with their own marks, which are not looked at here
    exact ⟨h.1.devices.copied_other (by simp [deviceCopy]) fun rows d => by
        rw [SqliteDB.foldl_replaceTemplate]; rfl,
      h.1.types.copied_other (by simp [typeCopy]) fun rows d => by
        rw [SqliteDB.foldl_replaceTemplate]; rfl,
      h.1.tasks.copied_other (by simp [taskCopy]) fun rows d => by
        rw [SqliteDB.foldl_replaceTemplate]; rfl,
      h.1.records.copied_other (by simp [recordCopy]) fun rows d => by
        rw [SqliteDB.foldl_replaceTemplate]; rfl⟩
  · refine h.2.copied (by simp [taskCopy, recordCopy]) fun rows d => ?_
    rw [SqliteDB.foldl_replaceTemplate]
    exact ⟨rfl, rfl⟩
  · -- and no other table loses a row
    exact ⟨h.1.devices.purged_other fun ids d => by rw [SqliteDB.foldl_deleteTemplate]; rfl,
      h.1.types.purged_other fun ids d => by rw [SqliteDB.foldl_deleteTemplate]; rfl,
      h.1.tasks.purged_other fun ids d => by rw [SqliteDB.foldl_deleteTemplate]; rfl,
      h.1.records.purged_other fun ids d => by rw [SqliteDB.foldl_deleteTemplate]; rfl⟩
  · refine h.2.purged fun ids d => ?_
    rw [SqliteDB.foldl_deleteTemplate]
    exact ⟨rfl, rfl⟩

private theorem queued_type :
    Keeps (KeepsView fun v => Queued E v ∧ rc.Spares chunk v)
      (synchrodataWorkTypeToPhone chunk rc.type) := by
  refine keeps_workTypeToPhone spared_created chunk rc.type (fun v h hstores => ⟨?_, ?_⟩)
    fun v h => ⟨?_, ?_⟩
  · -- work types are copied and marked
    refine ⟨h.1.devices.copied_other (by simp [deviceCopy]) fun rows d => by
        rw [SqliteDB.foldl_replaceWorkType]; rfl,
      h.1.types.copied_own h.2.types (fun _ _ hE => hE.elim) hstores ⟨_, rfl⟩
        (fun r hr => ?_) (by simp [typeCopy]) fun rows d => by
          rw [SqliteDB.foldl_replaceWorkType]; rfl,
      h.1.tasks.copied_other (by simp [taskCopy]) fun rows d => by
        rw [SqliteDB.foldl_replaceWorkType]; rfl,
      h.1.records.copied_other (by simp [recordCopy]) fun rows d => by
        rw [SqliteDB.foldl_replaceWorkType]; rfl⟩
    rw [MysqlDB.newWorkTypes, Table.mem_select, Bool.and_eq_true, Bool.and_eq_true,
      Text.eq_iff] at hr
    exact hr.2.1.1
  · refine h.2.copied (by simp [taskCopy, recordCopy]) fun rows d => ?_
    rw [SqliteDB.foldl_replaceWorkType]
    exact ⟨rfl, rfl⟩
  · -- the work types deleted are marked as deleted
    refine ⟨h.1.devices.purged_other fun ids d => by rw [SqliteDB.foldl_deleteWorkType]; rfl,
      h.1.types.purged_own (fun i hi => ?_) fun ids d => by
        rw [SqliteDB.foldl_deleteWorkType]; rfl,
      h.1.tasks.purged_other fun ids d => by rw [SqliteDB.foldl_deleteWorkType]; rfl,
      h.1.records.purged_other fun ids d => by rw [SqliteDB.foldl_deleteWorkType]; rfl⟩
    obtain ⟨r, hr, rfl⟩ := List.mem_map.1 hi
    rw [Table.mem_select, Bool.and_eq_true, Text.eq_iff] at hr
    exact ⟨r, hr.1, rfl, hr.2.1⟩
  · refine h.2.purged fun ids d => ?_
    rw [SqliteDB.foldl_deleteWorkType]
    exact ⟨rfl, rfl⟩

/-- The tasks copied and marked. -/
private theorem queued_copyTasks {rc : QuickRc} (ids : List String) (win : Window) {v : View}
    (h : Queued E v) (hfaithful : rc.Faithful ((v.db.newTasks win ids).map taskToPhone))
    (hstores : rc.Stores (v.db.newTasks win ids).length v) :
    Queued E (v.copied rc (MysqlDB.newTasks win ids) taskToPhone SqliteDB.replaceTask
      fun r => [markTaskStmt r]) := by
  have hstmt : ∀ r, markTaskStmt r = .markWorkTaskState2 r.Id ∨
      markTaskStmt r = .mark .work_task r.Id := by
    intro r
    rw [markTaskStmt]
    split
    · exact .inl rfl
    · exact .inr rfl
  -- either way the statement marks the task copied and nothing else
  refine ⟨h.devices.copied_other (fun r st hst i => ?_) fun rows d => by
      rw [SqliteDB.foldl_replaceTask]; rfl,
    h.types.copied_other (fun r st hst i => ?_) fun rows d => by
      rw [SqliteDB.foldl_replaceTask]; rfl,
    h.tasks.copied_own hfaithful (fun _ _ hE => hE.elim) hstores ⟨_, rfl⟩ (fun r hr => ?_)
      (fun r st hst i hi => ?_) fun rows d => by rw [SqliteDB.foldl_replaceTask]; rfl,
    h.records.copied_other (fun r st hst i => ?_) fun rows d => by
      rw [SqliteDB.foldl_replaceTask]; rfl⟩
  · rw [List.mem_singleton.1 hst]
    rcases hstmt r with h | h <;> rw [h] <;> simp [deviceCopy]
  · rw [List.mem_singleton.1 hst]
    rcases hstmt r with h | h <;> rw [h] <;> simp [typeCopy]
  · rw [MysqlDB.newTasks, Table.mem_select, Bool.and_eq_true, Bool.and_eq_true,
      Bool.and_eq_true, Text.eq_iff] at hr
    exact hr.2.1.1.2
  · rw [List.mem_singleton.1 hst] at hi
    rcases hstmt r with h | h <;> rw [h] at hi <;> simp [taskCopy] at hi <;> exact hi.symm
  · rw [List.mem_singleton.1 hst]
    rcases hstmt r with h | h <;> rw [h] <;> simp [recordCopy]

/-- The records copied and marked, and with them those left out before. -/
private theorem queued_copyRecords {rc : QuickRc} (win : Window) {v : View} (h : Queued E v)
    (hfaithful : rc.Faithful ((v.db.newRecords win).map recordToPhone))
    (hE : ∀ r ∈ v.db.work_record, E r → r ∈ v.db.newRecords win)
    (hstores : rc.Stores (v.db.newRecords win).length v) :
    Queued (fun _ => False) (v.copied rc (MysqlDB.newRecords win) recordToPhone
      SqliteDB.replaceRecord fun r => [.mark .work_record r.Id]) := by
  refine ⟨h.devices.copied_other (by simp [deviceCopy]) fun rows d => by
      rw [SqliteDB.foldl_replaceRecord]; rfl,
    h.types.copied_other (by simp [typeCopy]) fun rows d => by
      rw [SqliteDB.foldl_replaceRecord]; rfl,
    h.tasks.copied_other (by simp [taskCopy]) fun rows d => by
      rw [SqliteDB.foldl_replaceRecord]; rfl,
    h.records.copied_own hfaithful hE hstores ⟨_, rfl⟩ (fun r hr => ?_) (by simp [recordCopy])
      fun rows d => by rw [SqliteDB.foldl_replaceRecord]; rfl⟩
  rw [MysqlDB.newRecords, Table.mem_select, Bool.and_eq_true, Text.eq_iff] at hr
  exact hr.2.1

private theorem queued_record (rc' : RecordToPhoneRc) :
    Keeps (KeepsView fun v => Queued (fun _ => False) v ∧ (v.file.tables.isSome = true →
        rc'.copy.insert.Faithful ((v.db.newRecords rc'.win).map recordToPhone)))
      (synchrodataWorkRecordToPhone rc') := by
  refine keeps_workRecordToPhone (fun v h => ⟨h.1.created v, fun hfile => h.2 ?_⟩) rc'
    fun v h hstores => ⟨queued_copyRecords rc'.win h.1 (h.2 hstores.1) (fun _ _ hE => hE.elim)
      hstores, fun _ => h.2 hstores.1⟩
  obtain ⟨d, hd⟩ := DbFile.eq_holds hfile
  rw [DbFile.holds_of_created hd]
  rfl

end Work

/-! ## §4 The deletes of tasks -/

section Deletes

/-- Nothing is left out that was not left out before. -/
theorem Queued.mono {E' : SqlRow WorkRecordCol → Prop} {v : View} (h : Queued E v)
    (hE : (∃ d, v.file = .holds d) → ∀ r, E r → E' r) : Queued E' v := by
  refine { h with records := fun st hst r hr hmarks => ?_ }
  obtain ⟨hstate, d, hd, hmem⟩ := h.records st hst r hr hmarks
  exact ⟨hstate, d, hd, hmem.imp_left (hE ⟨d, hd⟩ r)⟩

private theorem Queued.execute {v : View} (h : Queued E v) {done : List MyStmt}
    (hdel : ∀ st ∈ done, st.deletes = true) : Queued E (v.execute done) :=
  ⟨h.devices.execute hdel, h.types.execute hdel, h.tasks.execute hdel, h.records.execute hdel⟩

variable {rc : WorkRc} {chunk : List String}

/-- After both passes, if they spare what is queued. -/
private theorem queued_deleted {v : View} {d : SqliteDB} (hfile : v.file = .holds d)
    (h : Queued (fun _ => False) v) (hspares : rc.Spares chunk v) :
    Queued (rc.recopied (rc.task.left v.db))
      ⟨.holds (rc.task.deletes v.db d), rc.task.left v.db, v.queue⟩ := by
  obtain ⟨file, db, queue⟩ := v
  cases hfile
  have hsame := rc.task.deletes_sameButTasks db d
  have hsub : (rc.task.left db).Sub db := MysqlDB.execAll_sub
    (deletes_of_mem_deleteTaskStmts fun st hst => Batch.mem_of_mem_served hst) db
  -- devices and work types are not deleted here; tasks and records are spared
  refine ⟨fun st hst r hr hmarks => ?_, fun st hst r hr hmarks => ?_,
    fun st hst r hr hmarks => ?_, fun st hst r hr hmarks => ?_⟩
  · obtain ⟨hstate, d', hd', hmem⟩ := h.devices st hst r (hsub.device_info r hr) hmarks
    cases hd'
    have hphone : deviceCopy.phone (rc.task.deletes db d) = deviceCopy.phone d := hsame.devices
    exact ⟨hstate, _, rfl, by rw [hphone]; exact hmem⟩
  · obtain ⟨hstate, d', hd', hmem⟩ := h.types st hst r (hsub.work_type r hr) hmarks
    cases hd'
    have hphone : typeCopy.phone (rc.task.deletes db d) = typeCopy.phone d := hsame.types
    exact ⟨hstate, _, rfl, by rw [hphone]; exact hmem⟩
  · obtain ⟨hstate, d', hd', hmem⟩ := h.tasks st hst r (hsub.work_task r hr) hmarks
    cases hd'
    exact ⟨hstate, _, rfl, .inr (TaskToPhoneRc.mem_deletes.2
      ⟨hmem.resolve_left id, hspares.queuedTasks st hst r hr hmarks⟩)⟩
  · obtain ⟨hstate, d', hd', hmem⟩ := h.records st hst r (hsub.work_record r hr) hmarks
    cases hd'
    exact ⟨hstate, _, rfl, (hspares.queuedRecords d rfl st hst r hr hmarks).imp_right fun hno =>
      TaskToPhoneRc.mem_deletes_record.2 ⟨hmem.resolve_left id, hno⟩⟩

/-- The rows of the chunk that are still to be copied are stored as they are. -/
private def CopiesLeft (rc : WorkRc) (chunk : List String) (v : View) : Prop :=
  v.file.tables.isSome = true →
    rc.task.copy.insert.Faithful ((v.db.newTasks rc.task.win chunk).map taskToPhone) ∧
      rc.record.copy.insert.Faithful ((v.db.newRecords rc.record.win).map recordToPhone)

/-- **The deletes of a chunk** leave out what is copied again, and nothing else. -/
private theorem queued_task {w w' : World} {b : Bool} (hopen : rc.task.openDb = true)
    (htx : w.sq.tx = none) (h : Queued (fun _ => False) w.view)
    (hspares : rc.Spares chunk w.view)
    (hrun : (synchrodataWorkTaskToPhone chunk rc.task).run w = (.ok b, w')) :
    w'.sq.tx = none ∧ Queued (rc.recopied w'.server.db) w'.view ∧
      CopiesLeft rc chunk w'.view := by
  refine workTaskToPhone_ok
    (I := fun v => Queued (fun _ => False) v ∧ rc.Spares chunk v)
    (J := fun v => Queued (rc.recopied v.db) v ∧ CopiesLeft rc chunk v) chunk
    (fun v h hskip => ⟨h.1.mono fun _ _ hE => hE.elim, fun htables => ?_⟩)
    (fun v h hblank done hdone => ⟨(h.1.execute hdone).mono ?_, fun htables => ?_⟩)
    (fun v d h _ hfile => ⟨queued_deleted hfile h.1 h.2, fun _ => ⟨h.2.tasks, h.2.records⟩⟩)
    (fun v h hstores => ⟨queued_copyTasks chunk rc.task.win h.1 (h.2 hstores.1).1 hstores,
      fun _ => h.2 hstores.1⟩) htx ⟨h, hspares⟩ hrun
  · -- with tables in the file the routine is not skipped
    obtain ⟨d, hd⟩ := DbFile.eq_holds htables
    exact Bool.noConfusion (hopen.symm.trans (hskip d hd))
  · rintro ⟨d, hd⟩
    rw [View.execute, hblank] at hd
    cases hd
  · rw [View.execute, hblank] at htables
    cases htables

/-- The records of a chunk bring back what its deletes left out. -/
private theorem queued_recopied {w w' : World} {b : Bool} (htx : w.sq.tx = none)
    (h : Queued (rc.recopied w.server.db) w.view) (hleft : CopiesLeft rc chunk w.view)
    (hrun : (synchrodataWorkRecordToPhone rc.record).run w = (.ok b, w')) :
    w'.sq.tx = none ∧ Queued (fun _ => False) w'.view := by
  by_cases hcopies : rc.record.copies w.server.db ∧ ∃ d, w.sq.file = .holds d
  · obtain ⟨hcopies, d, hd⟩ := hcopies
    cases hgate : w.sq.eventOpenDB with
    | true =>
      rw [workRecordToPhone_run_ok hd hgate hcopies] at hrun
      cases hrun
      have htables : w.view.file.tables.isSome = true := by
        rw [World.view, hd]
        rfl
      have hqueued := queued_copyRecords rc.record.win h (hleft htables).2 (fun r _ hr => hr.2)
        ⟨htables, hcopies.2.2⟩
      refine ⟨rfl, ?_⟩
      rw [View.copied, View.enqueue, View.onFile, World.view, hd] at hqueued
      exact hqueued
    | false =>
      -- nobody answers
      have hhang : (onSq (openDataBase rc.record.openDb)).run w = (.error .hang, w) := by
        obtain ⟨⟨file, tx, connected, gate⟩, server, queue⟩ := w
        cases hgate
        rfl
      have hexists : w.sq.file.pathFileExists = true := by
        rw [hd]
        rfl
      unfold synchrodataWorkRecordToPhone at hrun
      rw [bind_run_ok (read_run w), hexists, if_neg (by decide), bind_run_error hhang] at hrun
      cases hrun
  · have hqueued := h.mono fun hfile r hr => hcopies ⟨hr.1, hfile⟩
    have hkeeps := queued_record rc.record w ⟨htx, hqueued, fun hfile => (hleft hfile).2⟩
    rw [hrun] at hkeeps
    exact ⟨hkeeps.1, hkeeps.2.1⟩

/-! ## §5 A chunk -/

/-- **A chunk of tasks** that loses nothing that is queued. -/
theorem queued_workChunk {w w' : World} {b : Bool} (hopen : rc.task.openDb = true)
    (h : w.sq.tx = none ∧ Queued (fun _ => False) w.view) (hspares : rc.Spares chunk w.view)
    (hrun : (workChunk .tongbu_to_phone rc chunk).run w = (.ok b, w')) :
    w'.sq.tx = none ∧ Queued (fun _ => False) w'.view := by
  unfold workChunk at hrun
  obtain ⟨_, w₁, htemplate, hrun⟩ := of_bind_run_ok hrun
  obtain ⟨_, w₂, htype, hrun⟩ := of_bind_run_ok hrun
  obtain ⟨_, w₃, htask, hrun⟩ := of_bind_run_ok hrun
  obtain ⟨_, w₄, hrecord, hrun⟩ := of_bind_run_ok hrun
  cases hrun
  have hkeeps : Keeps (KeepsView fun v => Queued (fun _ => False) v ∧ rc.Spares chunk v)
      (synchrodataWorkTemplateToPhone chunk rc.template) := queued_template chunk rc.template
  have h₁ := hkeeps w ⟨h.1, h.2, hspares⟩
  rw [htemplate] at h₁
  have h₂ := queued_type w₁ h₁
  rw [htype] at h₂
  obtain ⟨htx, hqueued, hleft⟩ := queued_task hopen h₂.1 h₂.2.1 h₂.2.2 htask
  exact queued_recopied htx hqueued hleft hrecord

end Deletes

end MtpSync
