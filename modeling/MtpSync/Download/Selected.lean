import MtpSync.Download.Copies
import MtpSync.Download.Succeeds

/-!
# What is sent to a phone

The routines get a list of selected ids.  Five of the six that copy rows with a mark put the list
into their query; `Synchrodata_work_record` does not, although its comment speaks of the selected
area and its other direction compares every record with the list.

- §1 what belongs to the selection
- §2 what a run may add
- §3 the routines that ask for the selection
- §4 the records
-/

namespace MtpSync

open Act

/-! ## §1 The selection -/

namespace MarkTable

/-- What the calls of the table's routine return. -/
abbrev Rc : MarkTable → Type
  | .device_info => ToPhoneRc
  | .work_type => ToPhoneRc
  | .work_template => ToPhoneRc
  | .work_task => TaskToPhoneRc
  | .work_record => RecordToPhoneRc
  | .sys_user => UserToPhoneRc

/-- The routine of the table, to the phone. -/
def routine (fw : TongbuFw) (ids : List String) : (t : MarkTable) → t.Rc → Act World Bool
  | .device_info, rc => synchrodataDeviceInfoToPhone ids fw rc
  | .work_type, rc => synchrodataWorkTypeToPhone ids rc
  | .work_template, rc => synchrodataWorkTemplateToPhone ids rc
  | .work_task, rc => synchrodataWorkTaskToPhone ids rc
  | .work_record, rc => synchrodataWorkRecordToPhone rc
  | .sys_user, rc => synchrodataSysUser ids rc

/-- What the calls of its insert return. -/
def insert : (t : MarkTable) → t.Rc → QuickRc
  | .device_info, rc => rc.copy.insert
  | .work_type, rc => rc.copy.insert
  | .work_template, rc => rc.copy.insert
  | .work_task, rc => rc.copy.insert
  | .work_record, rc => rc.copy.insert
  | .sys_user, rc => rc.copy.insert

/-- The row belongs to a device, or to an area, of the list: a template does through its type. -/
def Selected (fw : TongbuFw) (ids : List String) (db : MysqlDB) :
    (t : MarkTable) → SqlRow t.ServerCol → Prop
  | .device_info, r =>
    match fw with
    | .areas => (r.col DeviceInfoCol.AreaId).isIn ids = true
    | .devices => r.Id ∈ ids
  | .work_type, r => (r.col WorkTypeCol.DeviceId).isIn ids = true
  | .work_template, r => ∃ tk ∈ db.work_type,
      r.col WorkTemplateCol.WorkTypeId = some tk.Id ∧ (tk.col .DeviceId).isIn ids = true
  | .work_task, r => (r.col WorkTaskCol.DeviceId).isIn ids = true
  | .work_record, r => (r.col WorkRecordCol.DeviceId).isIn ids = true
  | .sys_user, r => (r.col SysUserCol.data_areas).isIn ids = true

end MarkTable

/-! ## §2 What is added -/

/-- From `v₀` to `v` the phone has got rows, and the queue marks, of the selection only; `rc` is
what the calls of the insert return. -/
structure SendsOnly (fw : TongbuFw) (ids : List String) (rc : QuickRc) (v₀ v : View) : Prop where
  /-- a row that was not there was stored for selected ones -/
  stored : ∀ (t : MarkTable) (d : SqliteDB), v.file = .holds d → ∀ x ∈ t.phone d,
    (∃ d₀, v₀.file = .holds d₀ ∧ x ∈ t.phone d₀) ∨
      t.StoredFrom rc.Binds (fun r => r ∈ t.server v₀.db ∧ t.Selected fw ids v₀.db r) x
  /-- a statement that was added is that of a selected row -/
  queued : ∃ added, v.queue = v₀.queue ++ added ∧ ∀ st ∈ added,
    ∃ (t : MarkTable), ∃ r ∈ t.server v₀.db, t.Selected fw ids v₀.db r ∧ st = t.stmt r

/-- Tables of a file that was changed come from tables. -/
private theorem holds_of_onFile {v : View} {f : SqliteDB → SqliteDB} {d : SqliteDB}
    (h : (v.onFile f).file = .holds d) : ∃ d', v.file = .holds d' ∧ f d' = d := by
  obtain ⟨file, db, queue⟩ := v
  cases file with
  | holds d' =>
    injection h with h
    exact ⟨d', rfl, h⟩
  | missing => cases h
  | blank => cases h

namespace SendsOnly

variable {fw : TongbuFw} {ids : List String} {rc : QuickRc} {v₀ v : View}

theorem refl (v : View) : SendsOnly fw ids rc v v where
  stored _ d hd _ hx := .inl ⟨d, hd, hx⟩
  queued := ⟨[], (List.append_nil _).symm, fun _ hst => absurd hst List.not_mem_nil⟩

/-- A file that has been created has no rows. -/
theorem created (h : SendsOnly fw ids rc v₀ v) : SendsOnly fw ids rc v₀ v.created where
  stored t d hd x hx := by
    obtain ⟨file, db, queue⟩ := v
    cases file with
    | holds d' => exact h.stored t d hd x hx
    | missing => cases hd
    | blank => cases hd
  queued := h.queued

/-- Deleting adds no row. -/
theorem onFile (h : SendsOnly fw ids rc v₀ v) {f : SqliteDB → SqliteDB}
    (hsub : ∀ d (t : MarkTable), ∀ x ∈ t.phone (f d), x ∈ t.phone d) :
    SendsOnly fw ids rc v₀ (v.onFile f) where
  stored t d hd x hx := by
    obtain ⟨d', hv, rfl⟩ := holds_of_onFile hd
    exact h.stored t d' hv x (hsub d' t x hx)
  queued := h.queued

/-- Storing copies of selected rows. -/
theorem stores (h : SendsOnly fw ids rc v₀ v) {T : MarkTable} {rows : List (SqlRow T.PhoneCol)}
    {replace : SqliteDB → SqlRow T.PhoneCol → SqliteDB} (hreplace : T.Stores replace)
    (hrows : ∀ x ∈ rows, ∃ r ∈ T.server v₀.db, T.Selected fw ids v₀.db r ∧ T.IsCopy r x) :
    SendsOnly fw ids rc v₀ (v.onFile fun d => (rc.bound rows).foldl replace d) where
  stored t d hd x hx := by
    obtain ⟨d', hv, rfl⟩ := holds_of_onFile hd
    by_cases ht : t = T
    · subst ht
      rw [hreplace.own] at hx
      rcases Table.mem_of_mem_replaceAll hx with hx | hx
      · exact h.stored t d' hv x hx
      · refine .inr (.of_mem_bound (fun y hy => ?_) hx)
        obtain ⟨r, hr, hsel, hcopy⟩ := hrows y hy
        exact ⟨r, ⟨hr, hsel⟩, hcopy⟩
    · rw [hreplace.other t ht] at hx
      exact h.stored t d' hv x hx
  queued := h.queued

/-- Queueing the statements of selected rows. -/
theorem enqueue (h : SendsOnly fw ids rc v₀ v) {sts : List MyStmt}
    (hsts : ∀ st ∈ sts, ∃ (t : MarkTable), ∃ r ∈ t.server v₀.db,
      t.Selected fw ids v₀.db r ∧ st = t.stmt r) : SendsOnly fw ids rc v₀ (v.enqueue sts) where
  stored := h.stored
  queued := by
    obtain ⟨added, hqueue, hadded⟩ := h.queued
    refine ⟨added ++ sts, ?_, fun st hst => ?_⟩
    · rw [View.enqueue, hqueue, List.append_assoc]
    · rcases List.mem_append.1 hst with hst | hst
      · exact hadded st hst
      · exact hsts st hst

/-- **A copy** of selected rows. -/
theorem copied (h : SendsOnly fw ids rc v₀ v) {T : MarkTable}
    {q : MysqlDB → List (SqlRow T.ServerCol)}
    {toPhone : SqlRow T.ServerCol → SqlRow T.PhoneCol}
    {replace : SqliteDB → SqlRow T.PhoneCol → SqliteDB}
    {mark : SqlRow T.ServerCol → List MyStmt} (hreplace : T.Stores replace)
    (hcopy : ∀ r, T.IsCopy r (toPhone r)) (hmark : ∀ r, mark r = [T.stmt r])
    (hq : ∀ r ∈ q v.db, r ∈ T.server v₀.db ∧ T.Selected fw ids v₀.db r) :
    SendsOnly fw ids rc v₀ (v.copied rc q toPhone replace mark) := by
  apply SendsOnly.enqueue
  · apply h.stores hreplace
    intro x hx
    obtain ⟨r, hr, rfl⟩ := List.mem_map.1 hx
    exact ⟨r, (hq r hr).1, (hq r hr).2, hcopy r⟩
  · intro st hst
    obtain ⟨r, hr, hst⟩ := List.mem_flatMap.1 hst
    rw [hmark r, List.mem_singleton] at hst
    exact ⟨T, r, (hq r hr).1, (hq r hr).2, hst⟩

end SendsOnly

/-! ## §3 The routines -/

/-- From the view `v₀` on, the server has lost rows at most. -/
private def Sends (fw : TongbuFw) (ids : List String) (rc : QuickRc) (v₀ v : View) : Prop :=
  SendsOnly fw ids rc v₀ v ∧ v.db.Sub v₀.db

section Routines

variable {fw : TongbuFw} {ids : List String} {v₀ : View}

private theorem sends_created {insert : QuickRc} (v : View) (h : Sends fw ids insert v₀ v) :
    Sends fw ids insert v₀ v.created :=
  ⟨h.1.created, h.2⟩

private theorem sends_purged {insert rc : QuickRc} {T : MarkTable} {q : MysqlDB → List String}
    {delete : SqliteDB → String → SqliteDB} (hdelete : T.Deletes delete) (v : View)
    (h : Sends fw ids insert v₀ v) : Sends fw ids insert v₀ (v.purged rc q delete) :=
  ⟨h.1.onFile fun _ _ _ hx => hdelete.subset hx, h.2⟩

private theorem sends_devices (rc : ToPhoneRc) :
    Keeps (KeepsView (Sends fw ids rc.copy.insert v₀))
      (synchrodataDeviceInfoToPhone ids fw rc) := by
  apply keeps_deviceInfoToPhone sends_created ids fw rc
  · intro v h _
    refine ⟨h.1.copied stores_device (fun _ => rfl) (fun _ => rfl) fun r hr => ?_, h.2⟩
    rw [MysqlDB.newDevices, Table.mem_select, Bool.and_eq_true, Bool.and_eq_true] at hr
    refine ⟨h.2.device_info r hr.1, ?_⟩
    have hsel := hr.2.1.1
    cases fw with
    | areas => exact hsel
    | devices => exact List.contains_iff_mem.1 hsel
  · exact sends_purged deletes_device

private theorem sends_type (rc : ToPhoneRc) :
    Keeps (KeepsView (Sends fw ids rc.copy.insert v₀)) (synchrodataWorkTypeToPhone ids rc) := by
  apply keeps_workTypeToPhone sends_created ids rc
  · intro v h _
    refine ⟨h.1.copied stores_type (fun _ => rfl) (fun _ => rfl) fun r hr => ?_, h.2⟩
    rw [MysqlDB.newWorkTypes, Table.mem_select, Bool.and_eq_true] at hr
    exact ⟨h.2.work_type r hr.1, hr.2.2⟩
  · exact sends_purged deletes_type

/-- The type a template belongs to is looked for on the server. -/
private theorem sends_template (rc : ToPhoneRc) :
    Keeps (KeepsView (Sends fw ids rc.copy.insert v₀)) (synchrodataWorkTemplateToPhone ids rc) := by
  apply keeps_workTemplateToPhone sends_created ids rc
  · intro v h _
    refine ⟨h.1.copied stores_template (fun _ => rfl) (fun _ => rfl) fun r hr => ?_, h.2⟩
    rw [MysqlDB.newTemplates, Table.mem_select, Bool.and_eq_true, List.any_eq_true] at hr
    obtain ⟨hr, -, tk, htk, hjoin⟩ := hr
    rw [Bool.and_eq_true, Bool.and_eq_true, Text.eq_iff] at hjoin
    exact ⟨h.2.work_template r hr, tk, h.2.work_type tk htk, hjoin.2, hjoin.1.1⟩
  · exact sends_purged deletes_template

/-- The four deletes of tasks add no row. -/
private theorem sends_deleteTasks {insert : QuickRc} (rc : TaskDeleteRc) (tasks : List String) :
    Keeps (KeepsView (Sends fw ids insert v₀)) (deleteTasks rc tasks) :=
  keeps_tasksDeleted rc tasks fun _ hsub _ _ h => ⟨h.1.onFile hsub, h.2⟩

/-- What the server has left when the tasks are read, it had when the routine started. -/
private theorem sends_task (rc : TaskToPhoneRc) :
    Keeps (KeepsView (Sends fw ids rc.copy.insert v₀)) (synchrodataWorkTaskToPhone ids rc) := by
  apply keeps_workTaskToPhone sends_created ids rc
  · exact keeps_deleteTasks2 fun _ => sends_deleteTasks _ _
  · apply keeps_deleteTasks3 fun _ => sends_deleteTasks _ _
    intro tasks v h done hdone
    have hsub := MysqlDB.execAll_sub (deletes_of_mem_deleteTaskStmts hdone) v.db
    exact ⟨⟨h.1.stored, h.1.queued⟩, hsub.trans h.2⟩
  · intro v h _
    refine ⟨h.1.copied stores_task (fun _ => rfl) (fun _ => rfl) fun r hr => ?_, h.2⟩
    rw [MysqlDB.newTasks, Table.mem_select, Bool.and_eq_true, Bool.and_eq_true,
      Bool.and_eq_true] at hr
    exact ⟨h.2.work_task r hr.1, hr.2.1.1.1⟩

/-- The accounts of the selected areas. -/
private theorem mem_newUsers_selected {insert : QuickRc} {x : SqlRow UserTableCol} {v : View}
    (h : Sends fw ids insert v₀ v) (hx : x ∈ v.db.newUsers ids) :
    ∃ u ∈ MarkTable.sys_user.server v₀.db, MarkTable.sys_user.Selected fw ids v₀.db u ∧
      MarkTable.sys_user.IsCopy u x := by
  rw [MysqlDB.newUsers] at hx
  obtain ⟨u, hu, hx⟩ := List.mem_flatMap.1 hx
  obtain ⟨area, -, hx⟩ := List.mem_flatMap.1 hx
  obtain ⟨role, -, rfl⟩ := List.mem_map.1 hx
  rw [Table.mem_select, Bool.and_eq_true] at hu
  exact ⟨u, h.2.sys_user u hu.1, hu.2.2, role, area, rfl⟩

private theorem sends_users (rc : UserToPhoneRc) :
    Keeps (KeepsView (Sends fw ids rc.copy.insert v₀)) (synchrodataSysUser ids rc) := by
  apply keeps_sysUser sends_created ids rc
  · intro v h
    refine ⟨h.1.enqueue fun st hst => ?_, h.2⟩
    obtain ⟨x, hx, rfl⟩ := List.mem_map.1 hst
    obtain ⟨u, hu, hsel, role, area, rfl⟩ := mem_newUsers_selected h hx
    exact ⟨.sys_user, u, hu, hsel, rfl⟩
  · intro v h
    exact ⟨h.1.stores stores_user fun x hx => mem_newUsers_selected h hx, h.2⟩
  · exact sends_purged deletes_user

/-- Records that all belong to the selection. -/
private theorem sends_record (rc : RecordToPhoneRc)
    (hall : ∀ r ∈ v₀.db.newRecords rc.win, (r.col .DeviceId).isIn ids = true) :
    Keeps (KeepsView (Sends fw ids rc.copy.insert v₀)) (synchrodataWorkRecordToPhone rc) := by
  apply keeps_workRecordToPhone sends_created rc
  intro v h _
  refine ⟨h.1.copied stores_record (fun _ => rfl) (fun _ => rfl) fun r hr => ?_, h.2⟩
  rw [MysqlDB.newRecords, Table.mem_select] at hr
  have hr₀ := h.2.work_record r hr.1
  exact ⟨hr₀, hall r (Table.mem_select.2 ⟨hr₀, hr.2⟩)⟩

end Routines

/-! ## §4 The records -/

/-- The records are sent: the file can be opened and holds tables, and the copy succeeds. -/
def RecordToPhoneRc.Sent (rc : RecordToPhoneRc) (w : World) : Prop :=
  w.sq.eventOpenDB = true ∧ w.sq.file.tables.isSome = true ∧ rc.copies w.server.db

/-- When `Synchrodata_work_record` sends its records, each belongs to the selection; the other
routines take care of that themselves. -/
def MarkTable.Confined (ids : List String) (w : World) : (t : MarkTable) → t.Rc → Prop
  | .work_record, rc => rc.Sent w →
      ∀ r ∈ w.server.db.newRecords rc.win, (r.col .DeviceId).isIn ids = true
  | .device_info, _ => True
  | .work_type, _ => True
  | .work_template, _ => True
  | .work_task, _ => True
  | .sys_user, _ => True

/-- A copy that fails adds nothing. -/
private theorem copyNew_view_of_fails {rc : CopyNewRc} {q : MysqlDB → List (SqlRow WorkRecordCol)}
    {mark : SqlRow WorkRecordCol → List MyStmt} {w : World} (htx : w.sq.tx = none)
    (hfails : ¬(w.sq.file.tables.isSome = true ∧ rc.select = .ok ∧
      rc.insert.ok (q w.server.db).length = true)) :
    ((copyNew rc q recordToPhone SqliteDB.replaceRecord mark).run w).2.view = w.view := by
  unfold copyNew
  cases hrc : rc.select with
  | queryFails => rfl
  | storeFails => rfl
  | ok =>
    have hselect : (onServer (select .ok q)).run w = (.ok (some (q w.server.db)), w) := rfl
    rw [bind_run_ok hselect]
    -- rows were selected, so it is the insert that fails
    cases hrows : q w.server.db with
    | nil => rfl
    | cons x xs =>
      have hrun := onSq_quickInsertData_run rc.insert SqliteDB.replaceRecord
        ((x :: xs).map recordToPhone) w htx
      rw [if_neg] at hrun
      · dsimp only
        rw [bind_run_ok hrun]
        rfl
      · -- the insert would have had to succeed
        intro hok
        rw [Bool.and_eq_true, Bool.and_eq_true, List.length_map] at hok
        rw [hrows] at hfails
        exact hfails ⟨hok.1.2, hrc, hok.2⟩

/-- What follows a call and leaves the view alone. -/
private theorem view_bind {α β : Type} {m : Act World α} {f : α → Act World β} {w : World}
    (hf : ∀ a w, ((f a).run w).2.view = w.view) :
    ((m >>= f).run w).2.view = (m.run w).2.view := by
  rcases hm : m.run w with ⟨e | a, w'⟩
  · rw [bind_run_error hm]
  · rw [bind_run_ok hm]
    exact hf a w'

/-- Records that are not sent: the file is created at most. -/
private theorem workRecord_view_of_not_sent {rc : RecordToPhoneRc} {w : World}
    (hsent : ¬rc.Sent w) :
    ((synchrodataWorkRecordToPhone rc).run w).2.view = w.view ∨
      ((synchrodataWorkRecordToPhone rc).run w).2.view = w.view.created := by
  unfold synchrodataWorkRecordToPhone
  rw [bind_run_ok (read_run w)]
  cases hexists : w.sq.file.pathFileExists with
  | false => exact .inl rfl
  | true =>
    rw [if_neg (by decide)]
    cases hgate : w.sq.eventOpenDB with
    | false =>
      have hopen : (onSq (openDataBase rc.openDb)).run w = (.error .hang, w) := by
        apply onSq_run
        simp [openDataBase, hgate]
      rw [bind_run_error hopen]
      exact .inl rfl
    | true =>
      cases hopenDb : rc.openDb with
      | false =>
        have hopen : (onSq (openDataBase false)).run w =
            (.ok false, { w with sq := w.sq.closed }) := by
          apply onSq_run
          simp [openDataBase, hgate]
        rw [bind_run_ok hopen]
        exact .inl rfl
      | true =>
        have hopen : (onSq (openDataBase true)).run w =
            (.ok true, { w with sq := ⟨w.sq.file.created, none, true, false⟩ }) := by
          apply onSq_run
          simp [openDataBase, hgate]
        rw [bind_run_ok hopen, if_pos rfl]
        -- the copy fails, and what comes after it closes the file
        rw [view_bind (fun _ _ => rfl)]
        refine .inr (copyNew_view_of_fails rfl fun h => hsent ?_)
        refine ⟨hgate, ?_, hopenDb, h.2⟩
        rw [← DbFile.tables_created]
        exact h.1

/-- A record that was sent has left its mark in the queue, and the mark is that of one row only:
it belongs to the selection if what was added does. -/
private theorem selected_of_sent {fw : TongbuFw} {ids : List String} {rc : RecordToPhoneRc}
    {w : World} (hsent : rc.Sent w)
    (h : SendsOnly fw ids rc.copy.insert w.view ((synchrodataWorkRecordToPhone rc).run w).2.view) :
    ∀ r ∈ w.server.db.newRecords rc.win, (r.col .DeviceId).isIn ids = true := by
  intro r hr
  obtain ⟨d, hd⟩ := DbFile.eq_holds hsent.2.1
  obtain ⟨added, hqueue, hadded⟩ := h.queued
  have hview : ((synchrodataWorkRecordToPhone rc).run w).2.view.queue =
      w.updateMysqlData ++ (w.server.db.newRecords rc.win).flatMap fun r =>
        [.mark .work_record r.Id] := by
    rw [workRecordToPhone_run_ok hd hsent.1 hsent.2.2]
    rfl
  rw [hview] at hqueue
  -- every new record's mark is queued, and what is queued is of a selected row
  have hmark : MyStmt.mark .work_record r.Id ∈ added := by
    rw [← List.append_cancel_left hqueue]
    exact List.mem_flatMap.2 ⟨r, hr, List.mem_singleton_self _⟩
  obtain ⟨t, r', hr', hsel, hst⟩ := hadded _ hmark
  have hmarks : (t.stmt r').Marks .work_record r.Id := by
    rw [← hst]
    exact ⟨rfl, rfl⟩
  obtain ⟨rfl, hId⟩ := MarkTable.stmt_marks.1 hmarks
  rw [MysqlDB.newRecords, Table.mem_select] at hr
  rw [← Table.eq_of_Id_eq hr' hr.1 hId]
  exact hsel

/-- **What is sent to a phone was selected**: the routine of a table stores rows of the
selection, and queues the marks of such rows, exactly when it is confined to them. -/
theorem sends_only_selected_iff (fw : TongbuFw) (ids : List String) (t : MarkTable) (rc : t.Rc)
    {w : World} (htx : w.sq.tx = none) :
    SendsOnly fw ids (t.insert rc) w.view ((t.routine fw ids rc).run w).2.view ↔
      t.Confined ids w rc := by
  -- a routine that keeps to the selection from any view on does so from this one
  have hkeeps : Keeps (KeepsView (Sends fw ids (t.insert rc) w.view)) (t.routine fw ids rc) →
      SendsOnly fw ids (t.insert rc) w.view ((t.routine fw ids rc).run w).2.view := fun h =>
    (h w ⟨htx, SendsOnly.refl w.view, MysqlDB.Sub.refl w.server.db⟩).2.1
  cases t with
  | device_info => exact iff_of_true (hkeeps (sends_devices rc)) trivial
  | work_type => exact iff_of_true (hkeeps (sends_type rc)) trivial
  | work_template => exact iff_of_true (hkeeps (sends_template rc)) trivial
  | work_task => exact iff_of_true (hkeeps (sends_task rc)) trivial
  | sys_user => exact iff_of_true (hkeeps (sends_users rc)) trivial
  | work_record =>
    constructor
    · exact fun h hsent => selected_of_sent hsent h
    · intro hconfined
      by_cases hsent : rc.Sent w
      · exact hkeeps (sends_record rc (hconfined hsent))
      · have hrefl : SendsOnly fw ids rc.copy.insert w.view w.view := SendsOnly.refl w.view
        show SendsOnly fw ids rc.copy.insert w.view
          ((synchrodataWorkRecordToPhone rc).run w).2.view
        rcases workRecord_view_of_not_sent hsent with hview | hview
        · rw [hview]
          exact hrefl
        · rw [hview]
          exact hrefl.created

/-- A record of device `dev` on the server, of the half year in question. -/
def recordOf (dev : String) : SqlRow WorkRecordCol where
  Id := "record"
  col := fun
    | .DeviceId => some dev
    | .SynchronState => some "0"
    | .CreateDate => some "2018-06-20 08:00:00"
    | _ => some ""

/-- An empty phone, and a server with this record. -/
def World.withRecordOf (dev : String) : World :=
  World.fresh SqliteDB.empty
    { MysqlDB.empty with work_record := ⟨[recordOf dev], List.nodup_singleton _⟩ }

/-- The half year of the record. -/
def halfYear2018 : Window := ⟨"2018-01-01 00:00:00", "2018-07-01 00:00:00"⟩

/-- The record is of the selected device. -/
theorem own_record_sent :
    SendsOnly .devices ["own"] .allOk (World.withRecordOf "own").view
      ((MarkTable.work_record.routine .devices ["own"] (RecordToPhoneRc.allOk halfYear2018)).run
        (World.withRecordOf "own")).2.view := by
  refine (sends_only_selected_iff .devices ["own"] .work_record
    (RecordToPhoneRc.allOk halfYear2018) rfl).2 fun _ r hr => ?_
  rw [MysqlDB.newRecords, Table.mem_select] at hr
  rw [List.mem_singleton.1 hr.1]
  decide

private theorem otherRecord_new :
    recordOf "other" ∈ (World.withRecordOf "other").server.db.newRecords halfYear2018 :=
  Table.mem_select.2 ⟨List.mem_singleton_self _, by decide⟩

/-- The record is of another device: it is stored, and marked as synchronised. -/
theorem other_record_sent :
    ¬SendsOnly .devices ["own"] .allOk (World.withRecordOf "other").view
      ((MarkTable.work_record.routine .devices ["own"] (RecordToPhoneRc.allOk halfYear2018)).run
        (World.withRecordOf "other")).2.view := by
  intro h
  have hsent : (RecordToPhoneRc.allOk halfYear2018).Sent (World.withRecordOf "other") :=
    ⟨rfl, rfl, rfl, rfl, QuickRc.allOk_ok _⟩
  have hsel := selected_of_sent hsent h _ otherRecord_new
  exact absurd hsel (by decide)

end MtpSync
