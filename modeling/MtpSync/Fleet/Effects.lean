import Mathlib.Logic.Relation
import MtpSync.Control
import MtpSync.Download.Copies
import MtpSync.Scripts
import MtpSync.Upload.Marked

/-!
# The effects a sync is made of

Seen from the rows, a sync is a sequence of small effects: a copy of one server row is stored on
the phone, one statement is executed on the server, a row is marked, rows are deleted.  Which
effects there are depends on the direction only, and a whole run of `BeginSwitchData`, for every
mode, selection and outcome, is a sequence of them.

- §1 the effects
- §2 what they do to the rows
- §3 sequences of effects
- §4 a sync to the phone
- §5 a sync to the server
-/

namespace MtpSync

open Act Relation

/-! ## §1 The effects -/

/-- Every row of `e` is one of `d`. -/
structure SqliteDB.Sub (e d : SqliteDB) : Prop where
  areas : ∀ x ∈ e.areas, x ∈ d.areas
  tables : ∀ (T : MarkTable), ∀ x ∈ T.phone e, x ∈ T.phone d

/-- What the delete pass and a clear do. -/
inductive DeleteEffect : View → View → Prop where
  /-- `sqlite3_open` creates the file it does not find -/
  | created (v : View) : DeleteEffect v v.created
  /-- rows are deleted from the phone -/
  | deletePhone (v : View) {f : SqliteDB → SqliteDB} (h : ∀ d, (f d).Sub d) :
      DeleteEffect v (v.onFile f)
  /-- rows are deleted from the server -/
  | deleteServer (v : View) {st : MyStmt} (h : st.deletes = true) :
      DeleteEffect v (v.execute [st])
  /-- `m_updateMysqlData.RemoveAll()` -/
  | removeAll (v : View) : DeleteEffect v { v with queue := [] }

/-- The rows that are sent: those not synchronised; templates and users also later on. -/
def MarkTable.Sent (T : MarkTable) (r : SqlRow T.ServerCol) : Prop :=
  r.col T.SynchronState = some "0" ∨
    (T = .work_template ∨ T = .sys_user) ∧ r.col T.SynchronState = some "1"

/-- What a sync to the phone does; `binds` says that no bind of a row it stores fails. -/
inductive ToPhoneEffect (binds : Prop) : View → View → Prop where
  | delete {v v' : View} (h : DeleteEffect v v') : ToPhoneEffect binds v v'
  /-- a row is stored for copies of server rows; it is a copy of one if the binds succeed -/
  | store (v : View) (T : MarkTable) {x : SqlRow T.PhoneCol}
      (h : T.StoredFrom binds (fun r => r ∈ T.server v.db ∧ T.Sent r) x) :
      ToPhoneEffect binds v (v.onFile fun d => T.replace d x)
  /-- a row is stored for copies of areas -/
  | storeArea (v : View) {x : SqlRow AreasCol}
      (h : BoundFrom binds (fun x => ∃ r ∈ v.db.areas, x = areaToPhone r) x) :
      ToPhoneEffect binds v (v.onFile fun d => d.replaceArea x)
  /-- the mark of a server row is queued -/
  | enqueue (v : View) (T : MarkTable) {r : SqlRow T.ServerCol} (hr : r ∈ T.server v.db)
      (hsent : T.Sent r) : ToPhoneEffect binds v (v.enqueue [T.stmt r])
  /-- a queued statement is executed -/
  | execute (v : View) {st : MyStmt} (h : st ∈ v.queue) : ToPhoneEffect binds v (v.execute [st])

/-- The statements a phone's file uploads: of its rows that are not synchronised. -/
inductive SqliteDB.Uploads (d : SqliteDB) : MyStmt → Prop where
  | record {r : SqlRow WorkRecordCol} (hr : r ∈ d.work_record)
      (h : r.col .SynchronState = some "0") : Uploads d (uploadRecord r)
  | task {r : SqlRow WorkTaskCol} (hr : r ∈ d.work_task) (h : r.col .SynchronState = some "0")
      (Systemtime : String) : Uploads d (uploadTask Systemtime r)
  | device {r : SqlRow DeviceInfoCol} (hr : r ∈ d.device_info)
      (h : r.col .SynchronState = some "0") : Uploads d (uploadDevice r)

/-- The statements that mark a row of the phone as synchronised. -/
inductive MarksPhone : (SqliteDB → SqliteDB) → Prop where
  | record (i : String) : MarksPhone fun d => d.markRecord i
  | task (i : String) : MarksPhone fun d => d.markTask i
  | device (i : String) : MarksPhone fun d => d.markDevice i

/-- What a sync to the server does. -/
inductive ToPcEffect : View → View → Prop where
  | delete {v v' : View} (h : DeleteEffect v v') : ToPcEffect v v'
  /-- a phone row is sent -/
  | upload (v : View) {d : SqliteDB} {st : MyStmt} (hd : v.file = .holds d) (h : d.Uploads st) :
      ToPcEffect v (v.execute [st])
  /-- a phone row is marked -/
  | mark (v : View) {f : SqliteDB → SqliteDB} (h : MarksPhone f) : ToPcEffect v (v.onFile f)

/-- What a sync starts from: it empties the queue first. -/
def World.begun (w : World) : View := ⟨w.sq.file, w.server.db, []⟩

/-- What a sync does: users go to the phone in either direction. -/
def SyncEffect (binds : Prop) (dir : TongbuDir) (mode : RadioChoose) : View → View → Prop :=
  match dir, mode with
  | .tongbu_to_pc, .radio_devices | .tongbu_to_pc, .radio_work => ToPcEffect
  | _, _ => ToPhoneEffect binds

/-- No bind of a row that is copied fails, in any chunk. -/
structure SwitchRc.AllBind (rc : SwitchRc) : Prop where
  areas : rc.areas.copy.insert.Binds
  chunks : ∀ k, rc.Binds k

/-! ## §2 What they do to the rows -/

namespace MarkTable

variable {T : MarkTable}

/-- `SynchronState`, on the phone. -/
def PhoneState : (T : MarkTable) → T.PhoneCol
  | .device_info => DeviceInfoCol.SynchronState
  | .work_type => WorkTypeCol.SynchronState
  | .work_template => WorkTemplateCol.SynchronState
  | .work_task => WorkTaskCol.SynchronState
  | .work_record => WorkRecordCol.SynchronState
  | .sys_user => UserTableCol.SynchronState

/-- Every table is stored into by its own `REPLACE INTO`. -/
theorem stores (T : MarkTable) : T.Stores T.replace := by
  cases T with
  | device_info => exact stores_device
  | work_type => exact stores_type
  | work_template => exact stores_template
  | work_task => exact stores_task
  | work_record => exact stores_record
  | sys_user => exact stores_user

/-- After a row has been stored. -/
theorem mem_replace {T' : MarkTable} {d : SqliteDB} {x : SqlRow T'.PhoneCol}
    {y : SqlRow T.PhoneCol} (hy : y ∈ T.phone (T'.replace d x)) :
    y ∈ T.phone d ∨ ∃ h : T' = T, y = h ▸ x := by
  by_cases hT : T = T'
  · subst hT
    have hown : T.phone (T.replace d x) = (T.phone d).replaceAll [x] := T.stores.own [x] d
    rw [hown] at hy
    rcases Table.mem_replaceInto.1 hy with ⟨hy, -⟩ | rfl
    · exact .inl hy
    · exact .inr ⟨rfl, rfl⟩
  · have hother : T.phone (T'.replace d x) = T.phone d := T'.stores.other T hT [x] d
    exact .inl (hother ▸ hy)

/-- After `UPDATE t SET c = '1' WHERE Id = 'j'`. -/
private theorem mem_setMark {C : Type} [DecidableEq C] {t : SqlTable C} {c : C} {j : String}
    {y : SqlRow C} (hy : y ∈ t.setWhereId c "1" j) :
    ∃ x ∈ t, y.Id = x.Id ∧ (∀ c' ≠ c, y.col c' = x.col c') ∧
      (y.col c = x.col c ∨ y.col c = some "1") := by
  obtain ⟨x, hx, rfl⟩ := Table.mem_setWhereId.1 hy
  refine ⟨x, hx, ?_⟩
  split
  · exact ⟨rfl, fun c' hc' => Row.setCol_of_ne x hc' "1", .inr (Row.setCol_self ..)⟩
  · exact ⟨rfl, fun _ _ => rfl, .inl rfl⟩

/-- After the mark of a row of the phone. -/
theorem mem_of_marksPhone {f : SqliteDB → SqliteDB} (hf : MarksPhone f) {d : SqliteDB}
    {y : SqlRow T.PhoneCol} (hy : y ∈ T.phone (f d)) :
    ∃ x ∈ T.phone d, y.Id = x.Id ∧ (∀ c ≠ T.PhoneState, y.col c = x.col c) ∧
      (y.col T.PhoneState = x.col T.PhoneState ∨ y.col T.PhoneState = some "1") := by
  -- a mark leaves the other tables as they are
  have hsame : y ∈ T.phone d → ∃ x ∈ T.phone d, y.Id = x.Id ∧
      (∀ c ≠ T.PhoneState, y.col c = x.col c) ∧
      (y.col T.PhoneState = x.col T.PhoneState ∨ y.col T.PhoneState = some "1") :=
    fun h => ⟨y, h, rfl, fun _ _ => rfl, .inl rfl⟩
  cases hf with
  | record j =>
    cases T with
    | work_record => exact mem_setMark hy
    | _ => exact hsame hy
  | task j =>
    cases T with
    | work_task => exact mem_setMark hy
    | _ => exact hsame hy
  | device j =>
    cases T with
    | device_info => exact mem_setMark hy
    | _ => exact hsame hy

/-- A row of the server after a statement of an upload: one that was there, one that was sent, or
a device with the `RFID` that was sent. -/
inductive OfUpload (d : SqliteDB) (db : MysqlDB) : (T : MarkTable) → SqlRow T.ServerCol → Prop where
  | same {T : MarkTable} {y : SqlRow T.ServerCol} (hy : y ∈ T.server db) : OfUpload d db T y
  | record {r : SqlRow WorkRecordCol} (hr : r ∈ d.work_record) :
      OfUpload d db .work_record (r.read.setCol .SynchronState "1")
  | task {r y : SqlRow WorkTaskCol} (hr : r ∈ d.work_task) {Systemtime : String}
      (hy : uploadTask Systemtime r = .replaceWorkTask y Systemtime) : OfUpload d db .work_task y
  | device {r x : SqlRow DeviceInfoCol} (hr : r ∈ d.device_info) (hx : x ∈ db.device_info)
      (hId : x.Id = r.Id) : OfUpload d db .device_info (x.setCol .RFID (r.col .RFID).read)

/-- After a statement of an upload. -/
theorem mem_exec_uploads {d : SqliteDB} {db : MysqlDB} {st : MyStmt} (hst : d.Uploads st)
    {y : SqlRow T.ServerCol} (hy : y ∈ T.server (st.exec db)) : OfUpload d db T y := by
  -- each statement is about one table
  cases hst with
  | record hr =>
    cases T with
    | work_record =>
      rcases Table.mem_replaceInto.1 hy with ⟨hy, -⟩ | rfl
      · exact .same hy
      · exact .record hr
    | _ => exact .same hy
  | task hr hzero Systemtime =>
    cases T with
    | work_task =>
      rcases Table.mem_replaceInto.1 hy with ⟨hy, -⟩ | rfl
      · exact .same hy
      · exact @OfUpload.task d db _ _ hr Systemtime rfl
    | _ => exact .same hy
  | @device r hr hzero =>
    cases T with
    | device_info =>
      obtain ⟨x, hx, rfl⟩ := Table.mem_setWhereId.1 hy
      by_cases hId : x.Id = r.Id
      · rw [if_pos hId]
        exact .device hr hx hId
      · rw [if_neg hId]
        exact .same hx
    | _ => exact .same hy

/-- What a row queues is a mark. -/
theorem stmt_isMark (T : MarkTable) (r : SqlRow T.ServerCol) :
    (T.stmt r).isMark = true := by
  cases T with
  | work_task => exact markTaskStmt_isMark r
  | _ => rfl

end MarkTable

/-! ## §3 Sequences of effects -/

section Sequences

variable {E : View → View → Prop} {v : View}

theorem View.onFile_onFile (f g : SqliteDB → SqliteDB) (v : View) :
    (v.onFile f).onFile g = v.onFile fun d => g (f d) := by
  simp only [View.onFile, DbFile.map_map]

@[simp] theorem View.onFile_id (v : View) : v.onFile (fun d => d) = v := by
  obtain ⟨file, db, queue⟩ := v
  cases file <;> rfl

/-- A statement repeated for a list, row by row. -/
theorem effects_onFile_foldl {ρ : Type} {f : SqliteDB → ρ → SqliteDB} {rows : List ρ}
    (h : ∀ v' : View, v'.db = v.db → ∀ x ∈ rows, E v' (v'.onFile fun d => f d x)) :
    ReflTransGen E v (v.onFile fun d => rows.foldl f d) := by
  induction rows generalizing v with
  | nil => simpa using ReflTransGen.refl
  | cons x rows ih =>
    have hfirst : E v (v.onFile fun d => f d x) := h v rfl x List.mem_cons_self
    have hrest := ih (v := v.onFile fun d => f d x) fun v' hv' y hy =>
      h v' hv' y (List.mem_cons_of_mem x hy)
    rw [View.onFile_onFile] at hrest
    exact hrest.head hfirst

/-- Statements queued one by one. -/
theorem effects_enqueue {sts : List MyStmt}
    (h : ∀ v' : View, v'.db = v.db → ∀ st ∈ sts, E v' (v'.enqueue [st])) :
    ReflTransGen E v (v.enqueue sts) := by
  induction sts generalizing v with
  | nil =>
    have hnil : v.enqueue [] = v := by simp [View.enqueue]
    rw [hnil]
  | cons st sts ih =>
    have hrest := ih (v := v.enqueue [st]) fun v' hv' y hy =>
      h v' hv' y (List.mem_cons_of_mem st hy)
    have happend : (v.enqueue [st]).enqueue sts = v.enqueue (st :: sts) := by
      simp [View.enqueue]
    rw [happend] at hrest
    exact hrest.head (h v rfl st List.mem_cons_self)

/-- Statements executed one by one. -/
theorem effects_execute {sts : List MyStmt}
    (h : ∀ v' : View, v'.file = v.file → v'.queue = v.queue → ∀ st ∈ sts,
      E v' (v'.execute [st])) :
    ReflTransGen E v (v.execute sts) := by
  induction sts generalizing v with
  | nil => exact .refl
  | cons st sts ih =>
    have hrest := ih (v := v.execute [st]) fun v' hfile hqueue y hy =>
      h v' hfile hqueue y (List.mem_cons_of_mem st hy)
    exact hrest.head (h v rfl rfl st List.mem_cons_self)

/-- What every effect keeps, a sequence of them keeps. -/
theorem effects_keep {P : View → Prop} {v' : View} (h : ReflTransGen E v v')
    (hstep : ∀ a b, E a b → P a → P b) (hP : P v) : P v' := by
  induction h with
  | refl => exact hP
  | tail _ hab ih => exact hstep _ _ hab ih

end Sequences

/-! ## §4 A sync to the phone -/

namespace SqliteDB.Sub

variable {d : SqliteDB}

theorem refl (d : SqliteDB) : d.Sub d := ⟨fun _ h => h, fun _ _ h => h⟩

/-- Rows of one table with a mark are deleted. -/
theorem ofDeletes {T : MarkTable} {delete : SqliteDB → String → SqliteDB} (h : T.Deletes delete)
    {ids : List String} (hareas : (ids.foldl delete d).areas = d.areas) :
    (ids.foldl delete d).Sub d :=
  ⟨fun _ hx => hareas ▸ hx, fun _ _ hx => h.subset hx⟩

theorem deleteDevices (ids : List String) : (ids.foldl deleteDevice d).Sub d :=
  .ofDeletes deletes_device (by rw [foldl_deleteDevice])

theorem deleteWorkTypes (ids : List String) : (ids.foldl deleteWorkType d).Sub d :=
  .ofDeletes deletes_type (by rw [foldl_deleteWorkType])

theorem deleteTemplates (ids : List String) : (ids.foldl deleteTemplate d).Sub d :=
  .ofDeletes deletes_template (by rw [foldl_deleteTemplate])

theorem deleteTasks (ids : List String) : (ids.foldl deleteTask d).Sub d :=
  .ofDeletes deletes_task (by rw [foldl_deleteTask])

theorem deleteUsers (ids : List String) : (ids.foldl deleteUser d).Sub d :=
  .ofDeletes deletes_user (by rw [foldl_deleteUser])

theorem deleteSubtasks (ids : List String) : (ids.foldl SqliteDB.deleteSubtasks d).Sub d := by
  rw [foldl_deleteSubtasks]
  refine ⟨fun _ hx => hx, fun T x hx => ?_⟩
  cases T with
  | work_task => exact (Table.mem_deleteEqs.1 hx).1
  | _ => exact hx

theorem deleteRecordsOf (ids : List String) : (ids.foldl SqliteDB.deleteRecordsOf d).Sub d := by
  rw [foldl_deleteRecordsOf]
  refine ⟨fun _ hx => hx, fun T x hx => ?_⟩
  cases T with
  | work_record => exact (Table.mem_deleteEqs.1 hx).1
  | _ => exact hx

theorem deleteTasklessRecords : d.deleteTasklessRecords.Sub d := by
  refine ⟨fun _ hx => hx, fun T x hx => ?_⟩
  cases T with
  | work_record => exact (Table.mem_deleteNotIn.1 hx).1
  | _ => exact hx

theorem deleteOrphans {f : SqliteDB → SqliteDB} (hf : f ∈ SqliteDB.deleteOrphans) :
    (f d).Sub d := by
  simp only [SqliteDB.deleteOrphans, List.mem_cons, List.not_mem_nil, or_false] at hf
  refine ⟨fun x hx => ?_, fun T x hx => ?_⟩
  · rcases hf with rfl | rfl | rfl | rfl <;> exact hx
  · -- each of the four statements is about one table
    rcases hf with rfl | rfl | rfl | rfl
    · cases T with
      | work_type => exact (Table.mem_deleteNotIn.1 hx).1
      | _ => exact hx
    · cases T with
      | work_template => exact (Table.mem_deleteNotIn.1 hx).1
      | _ => exact hx
    · cases T with
      | work_task => exact (Table.mem_deleteNotIn.1 hx).1
      | _ => exact hx
    · cases T with
      | work_record => exact (Table.mem_deleteNotIn.1 hx).1
      | _ => exact hx

theorem deleteAreas (ids : List String) : (ids.foldl deleteArea d).Sub d := by
  rw [foldl_deleteArea]
  exact ⟨fun _ hx => (Table.mem_deleteIds.1 hx).1, fun T _ hx => by cases T <;> exact hx⟩

theorem deleteUsersOf (ids : List String) : (ids.foldl SqliteDB.deleteUsersOf d).Sub d := by
  rw [foldl_deleteUsersOf]
  refine ⟨fun _ hx => hx, fun T x hx => ?_⟩
  cases T with
  | sys_user => exact (Table.mem_deleteEqs.1 hx).1
  | _ => exact hx

end SqliteDB.Sub

section Deletes

variable {E : View → View → Prop} (hE : ∀ a b, DeleteEffect a b → E a b) {v₀ v : View}

include hE

/-- **The delete pass** is a sequence of its effects, in either direction. -/
theorem effects_deleteAreaAndDevice (o : MapOrder) (tree : DeleteTree) (rc : DeleteAreaRc) :
    Keeps (KeepsView (ReflTransGen E v₀)) (deleteAreaAndDevice o tree rc) := by
  have hphone : ∀ {f : SqliteDB → SqliteDB}, (∀ d, (f d).Sub d) → ∀ v,
      ReflTransGen E v₀ v → ReflTransGen E v₀ (v.onFile f) :=
    fun hf v h => h.tail (hE _ _ (.deletePhone v hf))
  have hserver : ∀ {sts : List MyStmt}, (∀ st ∈ sts, st.deletes = true) → ∀ v,
      ReflTransGen E v₀ v → ∀ done, (∀ st ∈ done, st ∈ sts) → ReflTransGen E v₀ (v.execute done) :=
    fun hsts v h done hdone => h.trans <| effects_execute fun v' _ _ st hst =>
      hE _ _ (.deleteServer v' (hsts st (hdone st hst)))
  refine keeps_deleteAreaAndDevice (fun v h => h.tail (hE _ _ (.created v))) o tree rc
    (keeps_deleteDevices rc _ (hphone fun d => .deleteDevices _)
      (fun _ f hf => hphone fun d => .deleteOrphans hf) (hserver ?_) (hserver ?_))
    (keeps_deleteAreas rc _ (hphone fun d => .deleteAreas _) (hphone fun d => .deleteUsersOf _)
      (hserver ?_))
    (keeps_deleteUsers rc (fun v => hphone (fun d => .deleteUsers _) v) (hserver ?_))
  · simp [MyStmt.deletes]
  · simp [deleteOrphanStmts, MyStmt.deletes]
  · intro st hst
    obtain ⟨i, -, hi⟩ := List.mem_flatMap.1 hst
    simp only [deleteAreaStmts, List.mem_cons, List.not_mem_nil, or_false] at hi
    rcases hi with rfl | rfl <;> rfl
  · simp [MyStmt.deletes]

end Deletes

section ToPhone

variable {binds : Prop} {v₀ v : View}

/-- Rows are copied and their marks are queued. -/
private theorem effects_copied {T : MarkTable} {insert : QuickRc}
    {q : MysqlDB → List (SqlRow T.ServerCol)} {toPhone : SqlRow T.ServerCol → SqlRow T.PhoneCol}
    {mark : SqlRow T.ServerCol → List MyStmt} (hinsert : binds → insert.Binds)
    (hcopy : ∀ r, T.IsCopy r (toPhone r)) (hmark : ∀ r, mark r = [T.stmt r])
    (hq : ∀ db, ∀ r ∈ q db, r ∈ T.server db ∧ T.Sent r)
    (h : ReflTransGen (ToPhoneEffect binds) v₀ v) :
    ReflTransGen (ToPhoneEffect binds) v₀ (v.copied insert q toPhone T.replace mark) := by
  have hstored : ReflTransGen (ToPhoneEffect binds) v
      (v.onFile fun d => (insert.bound ((q v.db).map toPhone)).foldl T.replace d) :=
    effects_onFile_foldl fun v' hdb x hx => by
      refine .store v' T (BoundFrom.mono (.of_mem_bound (fun y hy => ?_) hx) hinsert fun _ h => h)
      obtain ⟨r, hr, rfl⟩ := List.mem_map.1 hy
      obtain ⟨hmem, hsent⟩ := hq _ r hr
      exact ⟨r, ⟨hdb ▸ hmem, hsent⟩, hcopy r⟩
  refine (h.trans hstored).trans (effects_enqueue fun v' hdb st hst => ?_)
  obtain ⟨r, hr, hst⟩ := List.mem_flatMap.1 hst
  obtain ⟨hmem, hsent⟩ := hq _ r hr
  rw [hmark, List.mem_singleton] at hst
  have hdb : v'.db = v.db := hdb
  exact hst ▸ .enqueue v' T (hdb ▸ hmem) hsent

private theorem effects_created (v : View) (h : ReflTransGen (ToPhoneEffect binds) v₀ v) :
    ReflTransGen (ToPhoneEffect binds) v₀ v.created :=
  h.tail (.delete (.created v))

private theorem effects_deletePhone {f : SqliteDB → SqliteDB} (hf : ∀ d, (f d).Sub d) (v : View)
    (h : ReflTransGen (ToPhoneEffect binds) v₀ v) :
    ReflTransGen (ToPhoneEffect binds) v₀ (v.onFile f) :=
  h.tail (.delete (.deletePhone v hf))

private theorem effects_deviceInfoToPhone (ids : List String) (fw : TongbuFw) {rc : ToPhoneRc}
    (hinsert : binds → rc.copy.insert.Binds) :
    Keeps (KeepsView (ReflTransGen (ToPhoneEffect binds) v₀))
      (synchrodataDeviceInfoToPhone ids fw rc) := by
  refine keeps_deviceInfoToPhone effects_created ids fw rc (fun v h _ => ?_)
    fun v => effects_deletePhone (fun d => .deleteDevices _) v
  refine effects_copied (T := .device_info) hinsert (fun _ => rfl) (fun _ => rfl)
    (fun db r hr => ?_) h
  rw [MysqlDB.newDevices, Table.mem_select, Bool.and_eq_true, Bool.and_eq_true, Text.eq_iff] at hr
  exact ⟨hr.1, .inl hr.2.1.2⟩

private theorem effects_workTypeToPhone (ids : List String) {rc : ToPhoneRc}
    (hinsert : binds → rc.copy.insert.Binds) :
    Keeps (KeepsView (ReflTransGen (ToPhoneEffect binds) v₀))
      (synchrodataWorkTypeToPhone ids rc) := by
  refine keeps_workTypeToPhone effects_created ids rc (fun v h _ => ?_)
    fun v => effects_deletePhone (fun d => .deleteWorkTypes _) v
  refine effects_copied (T := .work_type) hinsert (fun _ => rfl) (fun _ => rfl)
    (fun db r hr => ?_) h
  rw [MysqlDB.newWorkTypes, Table.mem_select, Bool.and_eq_true, Bool.and_eq_true,
    Text.eq_iff] at hr
  exact ⟨hr.1, .inl hr.2.1.1⟩

private theorem effects_workTemplateToPhone (ids : List String) {rc : ToPhoneRc}
    (hinsert : binds → rc.copy.insert.Binds) :
    Keeps (KeepsView (ReflTransGen (ToPhoneEffect binds) v₀))
      (synchrodataWorkTemplateToPhone ids rc) := by
  refine keeps_workTemplateToPhone effects_created ids rc (fun v h _ => ?_)
    fun v => effects_deletePhone (fun d => .deleteTemplates _) v
  refine effects_copied (T := .work_template) hinsert (fun _ => rfl) (fun _ => rfl)
    (fun db r hr => ?_) h
  rw [MysqlDB.newTemplates, Table.mem_select, Bool.and_eq_true, Bool.or_eq_true, Text.eq_iff,
    Text.eq_iff] at hr
  exact ⟨hr.1, hr.2.1.imp_right fun hone => ⟨.inl rfl, hone⟩⟩

private theorem effects_deleteTasks (rc : TaskDeleteRc) (ids : List String) :
    Keeps (KeepsView (ReflTransGen (ToPhoneEffect binds) v₀)) (deleteTasks rc ids) :=
  keeps_deleteTasks rc (fun v => effects_deletePhone (fun _ => .deleteTasks _) v)
    (fun v => effects_deletePhone (fun _ => .deleteSubtasks _) v)
    (fun v => effects_deletePhone (fun _ => .deleteRecordsOf _) v)
    fun v => effects_deletePhone (fun _ => .deleteTasklessRecords) v

private theorem effects_workTaskToPhone (ids : List String) {rc : TaskToPhoneRc}
    (hinsert : binds → rc.copy.insert.Binds) :
    Keeps (KeepsView (ReflTransGen (ToPhoneEffect binds) v₀))
      (synchrodataWorkTaskToPhone ids rc) := by
  refine keeps_workTaskToPhone effects_created ids rc
    (keeps_deleteTasks2 fun ids => effects_deleteTasks _ ids)
    (keeps_deleteTasks3 (fun ids => effects_deleteTasks _ ids) fun ids v h done hdone => ?_)
    (fun v h _ => ?_)
  · -- the tasks deleted from the server
    exact h.trans <| effects_execute fun v' _ _ st hst =>
      .delete (.deleteServer v' (deletes_of_mem_deleteTaskStmts hdone st hst))
  · refine effects_copied (T := .work_task) hinsert (fun _ => rfl) (fun _ => rfl)
      (fun db r hr => ?_) h
    rw [MysqlDB.newTasks, Table.mem_select, Bool.and_eq_true, Bool.and_eq_true, Bool.and_eq_true,
      Text.eq_iff] at hr
    exact ⟨hr.1, .inl hr.2.1.1.2⟩

private theorem effects_workRecordToPhone {rc : RecordToPhoneRc}
    (hinsert : binds → rc.copy.insert.Binds) :
    Keeps (KeepsView (ReflTransGen (ToPhoneEffect binds) v₀))
      (synchrodataWorkRecordToPhone rc) := by
  refine keeps_workRecordToPhone effects_created rc fun v h _ => ?_
  refine effects_copied (T := .work_record) hinsert (fun _ => rfl) (fun _ => rfl)
    (fun db r hr => ?_) h
  rw [MysqlDB.newRecords, Table.mem_select, Bool.and_eq_true, Text.eq_iff] at hr
  exact ⟨hr.1, .inl hr.2.1⟩

private theorem effects_areasToPhone (shown : List String) {rc : UserToPhoneRc}
    (hinsert : binds → rc.copy.insert.Binds) :
    Keeps (KeepsView (ReflTransGen (ToPhoneEffect binds) v₀))
      (synchrodataAreasToPhone shown rc) := by
  refine keeps_areasToPhone effects_created shown rc (fun v h _ => ?_)
    fun v => effects_deletePhone (fun d => .deleteAreas _) v
  have hnone : ((MysqlDB.shownAreas shown v.db).flatMap fun _ => ([] : List MyStmt)) = [] := by
    simp
  rw [View.copied, hnone]
  have hstored : ReflTransGen (ToPhoneEffect binds) v (v.onFile fun d =>
      (rc.copy.insert.bound ((MysqlDB.shownAreas shown v.db).map areaToPhone)).foldl
        SqliteDB.replaceArea d) :=
    effects_onFile_foldl fun v' hdb x hx => by
      refine .storeArea v' (BoundFrom.mono (.of_mem_bound (fun y hy => ?_) hx) hinsert fun _ h => h)
      obtain ⟨r, hr, rfl⟩ := List.mem_map.1 hy
      exact ⟨r, hdb ▸ (Table.mem_select.1 hr).1, rfl⟩
  have hqueue : ∀ v' : View, v'.enqueue [] = v' := fun v' => by simp [View.enqueue]
  rw [hqueue]
  exact h.trans hstored

/-- The rows of the users' query are copies of accounts that are sent. -/
theorem copy_of_mem_newUsers {ids : List String} {db : MysqlDB} {x : SqlRow UserTableCol}
    (hx : x ∈ db.newUsers ids) :
    ∃ u ∈ db.sys_user, MarkTable.sys_user.Sent u ∧ MarkTable.sys_user.IsCopy u x := by
  simp only [MysqlDB.newUsers, List.mem_flatMap, List.mem_map] at hx
  obtain ⟨u, hu, a, -, r, -, rfl⟩ := hx
  rw [Table.mem_select, Bool.and_eq_true, Bool.or_eq_true, Text.eq_iff, Text.eq_iff] at hu
  exact ⟨u, hu.1, hu.2.1.imp_right fun hone => ⟨.inr rfl, hone⟩, r, a, rfl⟩

private theorem effects_sysUser (ids : List String) {rc : UserToPhoneRc}
    (hinsert : binds → rc.copy.insert.Binds) :
    Keeps (KeepsView (ReflTransGen (ToPhoneEffect binds) v₀)) (synchrodataSysUser ids rc) := by
  refine keeps_sysUser effects_created ids rc (fun v h => ?_) (fun v h => ?_)
    fun v => effects_deletePhone (fun d => .deleteUsers _) v
  · refine h.trans (effects_enqueue fun v' hdb st hst => ?_)
    obtain ⟨x, hx, rfl⟩ := List.mem_map.1 hst
    obtain ⟨u, hu, hsent, hcopy⟩ := copy_of_mem_newUsers hx
    rw [hcopy.Id_eq]
    exact .enqueue v' .sys_user (hdb ▸ hu) hsent
  · refine h.trans (effects_onFile_foldl fun v' hdb x hx => ?_)
    refine .store v' .sys_user
      (BoundFrom.mono (.of_mem_bound (fun y hy => ?_) hx) hinsert fun _ h => h)
    obtain ⟨u, hu, hsent, hcopy⟩ := copy_of_mem_newUsers hy
    exact ⟨u, ⟨hdb ▸ hu, hsent⟩, hcopy⟩

/-- **A sync to the phone** is a sequence of effects to the phone. -/
private theorem toPhone_effects (sel : Selection) (mode : RadioChoose) (rc : SwitchRc) {w : World}
    (htx : w.sq.tx = none) :
    ReflTransGen (ToPhoneEffect rc.AllBind) w.begun
      ((beginSwitchData sel .tongbu_to_phone mode rc).run w).2.view := by
  obtain ⟨v, hv, done, hdone, hend⟩ := ends_beginSwitchData htx
    (fun v h => h.tail (.delete (.removeAll v))) sel mode rc
    (P := ReflTransGen (ToPhoneEffect rc.AllBind) w.begun)
    .refl (fun _ h => h)
    (effects_deleteAreaAndDevice (fun _ _ => .delete) _ _ _)
    (fun _ k ids _ => effects_sysUser ids fun h => (h.chunks k).user)
    (fun _ => effects_areasToPhone sel.shownAreas SwitchRc.AllBind.areas)
    (fun _ k ids _ => effects_deviceInfoToPhone ids sel.fw fun h => (h.chunks k).devices)
    fun _ k ids _ =>
      (effects_workTemplateToPhone ids fun h => (h.chunks k).template).bind fun _ =>
      (effects_workTypeToPhone ids fun h => (h.chunks k).type).bind fun _ =>
      (effects_workTaskToPhone ids fun h => (h.chunks k).task).bind fun _ =>
      (effects_workRecordToPhone fun h => (h.chunks k).record).bind fun _ => keeps_pure _
  rw [hend]
  exact hv.trans <| effects_execute fun v' _ hqueue st hst =>
    .execute v' (hqueue ▸ hdone st hst)

end ToPhone

/-! ## §5 A sync to the server -/

/-- When the call returns, no transaction is left open and the gate is released. -/
def Closes {α : Type} (m : Act World α) : Prop :=
  ∀ w a t, m.run w = (.ok a, t) → t.sq.tx = none ∧ t.sq.eventOpenDB = true

/-- Outside a transaction the call ends outside one, and it takes no gate away. -/
def Leaves {α : Type} (m : Act World α) : Prop :=
  ∀ w a t, w.sq.tx = none → m.run w = (.ok a, t) →
    t.sq.tx = none ∧ (w.sq.eventOpenDB = true → t.sq.eventOpenDB = true)

section Closes

variable {α γ : Type}

private theorem Closes.bind {m : Act World α} {f : α → Act World γ} (hf : ∀ a, Closes (f a)) :
    Closes (m >>= f) := by
  intro w a t h
  obtain ⟨b, u, -, hrest⟩ := of_bind_run_ok h
  exact hf b u a t hrest

private theorem Closes.leaves {m : Act World α} (hm : Closes m) : Leaves m := by
  intro w a t _ h
  obtain ⟨htx, hgate⟩ := hm w a t h
  exact ⟨htx, fun _ => hgate⟩

private theorem closes_closeDataBase (a : α) :
    Closes (onSq closeDataBase >>= fun _ => pure a) := by
  intro w b t h
  cases h
  exact ⟨rfl, rfl⟩

private theorem closes_opened {body : Act World Bool} (h : Closes body) (ok : Bool) :
    Closes (onSq (openDataBase ok) >>= fun o => if o then body else pure false) := by
  rintro ⟨⟨file, tx, connected, gate⟩, server, queue⟩ a t hrun
  cases gate with
  | false => cases hrun
  | true =>
    cases ok with
    | false =>
      cases hrun
      exact ⟨rfl, rfl⟩
    | true => exact h _ a t hrun

/-- Looking for the file first changes nothing. -/
private theorem leaves_found {body : Act World Bool} (h : Leaves body) :
    Leaves (Act.read >>= fun w => if !w.sq.file.pathFileExists then pure false else body) := by
  intro w a t htx hrun
  rw [bind_run_ok (read_run w)] at hrun
  split at hrun
  · cases hrun
    exact ⟨htx, fun hgate => hgate⟩
  · exact h w a t htx hrun

theorem leaves_workRecordToPc (ids : List String) (rc : ToPcRc) :
    Leaves (synchrodataWorkRecordToPc ids rc) :=
  leaves_found (closes_opened (Closes.bind fun _ => Closes.bind fun _ => closes_closeDataBase _)
    rc.openDb).leaves

theorem leaves_workTaskToPc (ids : List String) (rc : ToPcRc) :
    Leaves (synchrodataWorkTaskToPc ids rc) :=
  leaves_found (closes_opened (Closes.bind fun _ => Closes.bind fun _ => Closes.bind fun _ =>
    Closes.bind fun _ => closes_closeDataBase _) rc.openDb).leaves

theorem leaves_deviceInfoToPc (ids : List String) (fw : TongbuFw) (rc : ToPcRc) :
    Leaves (synchrodataDeviceInfoToPc ids fw rc) :=
  (closes_opened (Closes.bind fun _ => Closes.bind fun _ => Closes.bind fun _ =>
    closes_closeDataBase _) rc.openDb).leaves

/-- The delete pass, whether or not there is a tree. -/
theorem leaves_deleteAreaAndDevice (o : MapOrder) (tree : DeleteTree) (rc : DeleteAreaRc) :
    Leaves (deleteAreaAndDevice o tree rc) := by
  cases tree with
  | nullptr =>
    intro w a t htx hrun
    cases hrun
    exact ⟨htx, fun hgate => hgate⟩
  | node i t f s child sibling =>
    exact leaves_found (closes_opened (Closes.bind fun _ => Closes.bind fun _ =>
      Closes.bind fun _ => closes_closeDataBase _) rc.openDb).leaves

end Closes

/-- Nothing is queued. -/
def SameQueue (w w' : World) : Prop := w'.updateMysqlData = w.updateMysqlData

instance : Std.Refl SameQueue := ⟨fun _ => rfl⟩

instance : IsTrans World SameQueue := ⟨fun _ _ _ h h' => Eq.trans h' h⟩

section SameQueue

variable {α ρ : Type}

private theorem sameQueue_onSq (m : Act (Sq SqliteDB) α) : Keeps SameQueue (onSq m) := fun _ => rfl

private theorem sameQueue_onServer (m : Act Server α) : Keeps SameQueue (onServer m) := fun _ => rfl

private theorem sameQueue_derefFirst (slots : List (Option ρ)) :
    Keeps SameQueue (derefFirst slots) := by
  match slots with
  | some r :: _ => exact keeps_pure r
  | none :: _ => exact keeps_halt _
  | [] => exact keeps_halt _

private theorem sameQueue_deleteAll (slots : List (Option ρ)) :
    Keeps SameQueue (deleteAll slots) :=
  Keeps.ite (keeps_pure _) (keeps_halt _)

theorem sameQueue_workRecordToPc (ids : List String) (rc : ToPcRc) :
    Keeps SameQueue (synchrodataWorkRecordToPc ids rc) := by
  have hselected : ∀ n rows, Keeps SameQueue (uploadSelectedRecords rc n rows) := fun n rows =>
    (sameQueue_onServer _).bind fun _ => Keeps.ite
      ((sameQueue_derefFirst _).bind fun _ => (sameQueue_onSq _).bind fun _ =>
        sameQueue_deleteAll _) (sameQueue_deleteAll _)
  refine keeps_read.bind fun w => Keeps.ite (keeps_pure _) <| (sameQueue_onSq _).bind fun _ =>
    Keeps.ite ((sameQueue_onSq _).bind fun x => Keeps.bind (Keeps.ite ?_ (keeps_pure _)) fun _ =>
      (sameQueue_onSq _).bind fun _ => keeps_pure _) (keeps_pure _)
  refine (sameQueue_onSq _).bind fun ppAryData => ?_
  cases ppAryData with
  | none => exact keeps_pure _
  | some rows => exact hselected _ rows

theorem sameQueue_workTaskToPc (ids : List String) (rc : ToPcRc) :
    Keeps SameQueue (synchrodataWorkTaskToPc ids rc) := by
  have hselect : ∀ vec ret n, Keeps SameQueue (selectCountedTasks ids rc vec ret n) := by
    intro vec ret n
    refine Keeps.ite ((sameQueue_onSq _).bind fun ppAryData => ?_) (keeps_pure _)
    cases ppAryData with
    | none => exact keeps_pure _
    | some rows =>
      refine Keeps.bind ?_ fun _ => keeps_pure _
      -- the time is read for the rows that are there
      match rows, vec with
      | [], _ => exact keeps_pure _
      | _ :: _, [] => exact keeps_halt _
      | _ :: _, _ :: _ => exact keeps_pure _
  have hsend : ∀ ret slots sts, Keeps SameQueue (sendTasks rc ret slots sts) := by
    intro ret slots sts
    refine (sameQueue_onServer _).bind fun _ => Keeps.ite ?_ (keeps_pure _)
    cases slots with
    | none => exact keeps_pure _
    | some slots =>
      exact (sameQueue_onSq _).bind fun _ => (sameQueue_deleteAll _).bind fun _ => keeps_pure _
  exact keeps_read.bind fun w => Keeps.ite (keeps_pure _) <| (sameQueue_onSq _).bind fun _ =>
    Keeps.ite ((sameQueue_onServer _).bind fun _ => (sameQueue_onSq _).bind fun x =>
      (hselect _ _ _).bind fun y => (hsend _ _ _).bind fun _ =>
      (sameQueue_onSq _).bind fun _ => keeps_pure _) (keeps_pure _)

theorem sameQueue_deviceInfoToPc (ids : List String) (fw : TongbuFw) (rc : ToPcRc) :
    Keeps SameQueue (synchrodataDeviceInfoToPc ids fw rc) := by
  have hselect : ∀ ret n, Keeps SameQueue (selectCountedDevices ids fw rc ret n) := by
    intro ret n
    refine Keeps.ite ((sameQueue_onSq _).bind fun ppAryData => ?_) (keeps_pure _)
    cases ppAryData with
    | none => exact keeps_pure _
    | some rows => exact keeps_pure _
  have hsend : ∀ ret slots sts, Keeps SameQueue (sendDevices rc ret slots sts) := by
    intro ret slots sts
    refine (sameQueue_onServer _).bind fun _ => Keeps.ite ?_ (keeps_pure _)
    cases slots with
    | none => exact keeps_pure _
    | some slots =>
      exact (sameQueue_onSq _).bind fun _ => (sameQueue_deleteAll _).bind fun _ => keeps_pure _
  exact (sameQueue_onSq _).bind fun _ => Keeps.ite ((sameQueue_onSq _).bind fun x =>
    (hselect _ _).bind fun y => (hsend _ _ _).bind fun _ =>
    (sameQueue_onSq _).bind fun _ => keeps_pure _) (keeps_pure _)

end SameQueue

section ToPc

variable {w : World} {rc : ToPcRc} {o : Except Halt Bool × World} {r : Except Halt Bool}

/-- A routine that gets no rows in hand may create the file. -/
private theorem effects_of_not_selected (hqueue : o.2.updateMysqlData = w.updateMysqlData)
    (hfile : o.2.sq.file = w.sq.file ∨ o.2.sq.file = w.sq.file.created)
    (hserver : o.2.server = w.server) : ReflTransGen ToPcEffect w.view o.2.view := by
  have hview : o.2.view = ⟨o.2.sq.file, w.server.db, w.updateMysqlData⟩ := by
    rw [World.view, hserver, hqueue]
  rw [hview]
  rcases hfile with hf | hf
  · rw [hf]
    exact .refl
  · rw [hf]
    exact .single (.delete (.created w.view))

/-- A routine with rows in hand sends them, and then marks those it binds or none. -/
private theorem effects_of_selected {C : Type} [DecidableEq C] {t : UploadTable C}
    (hup : ∀ {d r}, r ∈ t.table d → r.col t.state = some "0" → d.Uploads (t.upload r))
    (hmark : ∀ i, MarksPhone fun d => t.mark d i) {stored : List (SqlRow C)}
    (hsel : uploadEnd t.pending rc w.sq = .selected stored)
    (hqueue : o.2.updateMysqlData = w.updateMysqlData)
    (h : Ended o r
      (if Batch.reported 99 rc.update 0 (stored.map t.upload) && rc.mark.ok stored.length then
        w.sq.file.map fun d => (rc.mark.bound (stored.map Row.Id)).foldl t.mark d
      else w.sq.file)
      (w.server.execAll (Batch.served 99 rc.update 0 (stored.map t.upload)))) :
    ReflTransGen ToPcEffect w.view o.2.view := by
  obtain ⟨d, hd, -, -, hsub⟩ := t.selected_file hsel
  -- every statement is sent from the file as it was pulled, before any row of it is marked
  have hsent : ReflTransGen ToPcEffect w.view
      (w.view.execute (Batch.served 99 rc.update 0 (stored.map t.upload))) :=
    effects_execute fun v' hfile _ st hst => by
      obtain ⟨r, hr, rfl⟩ := List.mem_map.1 (Batch.mem_of_mem_served hst)
      obtain ⟨hmem, hzero⟩ := t.pending_mem (hsub r hr)
      exact .upload v' (hfile.trans hd) (hup hmem hzero)
  have hview : o.2.view =
      ⟨o.2.sq.file, w.server.db.execAll (Batch.served 99 rc.update 0 (stored.map t.upload)),
        w.updateMysqlData⟩ := by
    rw [World.view, h.server, hqueue, Server.execAll_db]
  rw [hview, h.file]
  split
  · exact hsent.trans (effects_onFile_foldl fun v' _ i _ => .mark v' (hmark i))
  · exact hsent

private theorem effects_workRecordToPc (ids : List String) (rc : ToPcRc) (w : World) :
    ReflTransGen ToPcEffect w.view ((synchrodataWorkRecordToPc ids rc).run w).2.view := by
  have hqueue := sameQueue_workRecordToPc ids rc w
  rcases Bool.eq_false_or_eq_true w.sq.file.pathFileExists with hfile | hfile
  swap
  · rw [synchrodataWorkRecordToPc_missing ids rc hfile]
  have h := synchrodataWorkRecordToPc_run ids rc w hfile
  simp only at h
  cases he : uploadEnd (SqliteDB.pendingRecords rc.win ids) rc w.sq with
  | selected stored =>
    rw [he] at h
    exact effects_of_selected (t := recordUpload rc.win ids) .record .record he hqueue h
  | _ =>
    rw [he] at h
    exact effects_of_not_selected hqueue (.inl h.file) h.server

private theorem effects_deviceInfoToPc (ids : List String) (fw : TongbuFw) (rc : ToPcRc)
    (w : World) :
    ReflTransGen ToPcEffect w.view ((synchrodataDeviceInfoToPc ids fw rc).run w).2.view := by
  have hqueue := sameQueue_deviceInfoToPc ids fw rc w
  have h := synchrodataDeviceInfoToPc_run ids fw rc w
  simp only at h
  cases he : uploadEnd (SqliteDB.pendingDevices fw rc.win ids) rc w.sq with
  | selected stored =>
    rw [he] at h
    exact effects_of_selected (t := deviceUpload fw rc.win ids) .device .device he hqueue h
  | notCounted =>
    rw [he] at h
    exact effects_of_not_selected hqueue (.inr h.file) h.server
  | _ =>
    rw [he] at h
    exact effects_of_not_selected hqueue (.inl h.file) h.server

private theorem effects_workTaskToPc (ids : List String) (rc : ToPcRc) (w : World) :
    ReflTransGen ToPcEffect w.view ((synchrodataWorkTaskToPc ids rc).run w).2.view := by
  have hqueue := sameQueue_workTaskToPc ids rc w
  rcases Bool.eq_false_or_eq_true w.sq.file.pathFileExists with hfile | hfile
  swap
  · rw [synchrodataWorkTaskToPc_missing ids rc hfile]
  -- without a time nothing is sent
  by_cases hnow : rc.now = .storeFails
  · have h := synchrodataWorkTaskToPc_storeFails ids rc w hfile hnow
    simp only at h
    have hended : ∃ r, Ended ((synchrodataWorkTaskToPc ids rc).run w) r w.sq.file w.server := by
      rcases Bool.eq_false_or_eq_true w.sq.eventOpenDB with hgate | hgate
      · rcases Bool.eq_false_or_eq_true rc.openDb with hopen | hopen
        · exact ⟨_, h.2.2 hgate hopen⟩
        · exact ⟨_, h.2.1 hgate hopen⟩
      · exact ⟨_, h.1 hgate⟩
    obtain ⟨r, hended⟩ := hended
    exact effects_of_not_selected hqueue (.inl hended.file) hended.server
  have h := synchrodataWorkTaskToPc_run ids rc w hfile hnow
  simp only at h
  cases he : uploadEnd (SqliteDB.pendingTasks rc.win ids) rc w.sq with
  | selected stored =>
    rw [he] at h
    cases hn : rc.now with
    | ok =>
      rw [hn] at h
      exact effects_of_selected (t := taskUpload rc.win ids rc.Systemtime)
        (fun hr hzero => .task hr hzero rc.Systemtime) .task he hqueue h
    | queryFails =>
      rw [hn] at h
      exact effects_of_not_selected hqueue (.inl h.file) h.server
    | storeFails => exact absurd hn hnow
  | _ =>
    rw [he] at h
    exact effects_of_not_selected hqueue (.inl h.file) h.server

/-- Outside a transaction, with nothing queued, and these effects so far. -/
private def Uploading (v₀ : View) (w : World) : Prop :=
  w.sq.tx = none ∧ w.updateMysqlData = [] ∧ ReflTransGen ToPcEffect v₀ w.view

variable {v₀ : View}

private theorem maintains_of_effects {m : Act World Bool}
    (heffects : ∀ w, ReflTransGen ToPcEffect w.view (m.run w).2.view) (hqueue : Keeps SameQueue m)
    (hleaves : Leaves m) :
    Maintains (Uploading v₀) (fun w => ReflTransGen ToPcEffect v₀ w.view) m := by
  rintro w ⟨htx, hnil, h⟩
  refine ⟨h.trans (heffects w), fun a hok => ⟨?_, (hqueue w).trans hnil, h.trans (heffects w)⟩⟩
  exact (hleaves w a _ htx (Prod.ext hok rfl)).1

private theorem uploading_effects (w : World) (h : Uploading v₀ w) :
    ReflTransGen ToPcEffect v₀ w.view :=
  h.2.2

private theorem maintains_workChunk (rc : WorkRc) (ids : List String) :
    Maintains (Uploading v₀) (fun w => ReflTransGen ToPcEffect v₀ w.view)
      (workChunk .tongbu_to_pc rc ids) := by
  refine Maintains.bind ?_ fun _ => Maintains.bind ?_ fun _ => maintains_pure uploading_effects _
  · exact maintains_of_effects (effects_workTaskToPc ids _) (sameQueue_workTaskToPc ids _)
      (leaves_workTaskToPc ids _)
  · exact maintains_of_effects (effects_workRecordToPc ids _) (sameQueue_workRecordToPc ids _)
      (leaves_workRecordToPc ids _)

private theorem maintains_devicesChunk (fw : TongbuFw) (rc : DevicesRc) (ids : List String) :
    Maintains (Uploading v₀) (fun w => ReflTransGen ToPcEffect v₀ w.view)
      (devicesChunk .tongbu_to_pc fw rc ids) :=
  maintains_of_effects (effects_deviceInfoToPc ids fw _) (sameQueue_deviceInfoToPc ids fw _)
    (leaves_deviceInfoToPc ids fw _)

private theorem maintains_forChunks {routine : ℕ → List String → Act World Bool}
    (h : ∀ k ids, Maintains (Uploading v₀) (fun w => ReflTransGen ToPcEffect v₀ w.view)
      (routine k ids)) (k : ℕ) (chunks : List (List String)) :
    Maintains (Uploading v₀) (fun w => ReflTransGen ToPcEffect v₀ w.view)
      (forChunks routine k chunks) := by
  induction chunks generalizing k with
  | nil => exact maintains_pure uploading_effects true
  | cons chunk chunks ih =>
    have hrest : ∀ ret : Bool, Maintains (Uploading v₀)
        (fun w => ReflTransGen ToPcEffect v₀ w.view) (do
          let ret' ← forChunks routine (k + 1) chunks
          pure (ret && ret')) :=
      fun ret => (ih (k + 1)).bind fun _ => maintains_pure uploading_effects _
    exact .ite ((maintains_pure uploading_effects true).bind hrest) ((h k chunk).bind hrest)

private theorem maintains_removeAll :
    Maintains (Uploading v₀) (fun w => ReflTransGen ToPcEffect v₀ w.view) removeAll := by
  rintro w ⟨htx, -, h⟩
  exact ⟨h.tail (.delete (.removeAll _)), fun _ _ => ⟨htx, rfl, h.tail (.delete (.removeAll _))⟩⟩

/-- A block to the server: the queue stays empty, so nothing is executed at its end. -/
private theorem maintains_chunked {routine : ℕ → List String → Act World Bool}
    (h : ∀ k ids, Maintains (Uploading v₀) (fun w => ReflTransGen ToPcEffect v₀ w.view)
      (routine k ids)) (update : ℕ → Bool) (ids : List String) :
    Maintains (Uploading v₀) (fun w => ReflTransGen ToPcEffect v₀ w.view)
      (chunked routine update ids) := by
  refine maintains_removeAll.bind fun _ => (maintains_forChunks h 0 _).bind fun _ =>
    Maintains.bind ?_ fun _ => maintains_pure uploading_effects _
  rintro ⟨sq, server, queue⟩ ⟨htx, hnil, h⟩
  cases hnil
  have hrun := updateQueued_run update ⟨sq, server, []⟩
  rw [Batch.served_nil, Server.execAll_nil] at hrun
  rw [hrun]
  exact ⟨h, fun _ _ => ⟨htx, rfl, h⟩⟩

theorem sameQueue_deleteAreaAndDevice (o : MapOrder) (tree : DeleteTree)
    (rc : DeleteAreaRc) {w : World} (htx : w.sq.tx = none) :
    let w' := ((deleteAreaAndDevice o tree rc).run w).2
    w'.sq.tx = none ∧ w'.updateMysqlData = w.updateMysqlData := by
  have hkeeps : Keeps (KeepsView fun v => v.queue = w.updateMysqlData)
      (deleteAreaAndDevice o tree rc) :=
    keeps_deleteAreaAndDevice (fun _ h => h) o tree rc
      (keeps_deleteDevices rc _ (fun _ h => h) (fun _ _ _ _ h => h) (fun _ h _ _ => h)
        fun _ h _ _ => h)
      (keeps_deleteAreas rc _ (fun _ h => h) (fun _ h => h) fun _ h _ _ => h)
      (keeps_deleteUsers rc (fun _ h => h) fun _ h _ _ => h)
  exact hkeeps w ⟨htx, rfl⟩

/-- **A sync to the server**, of devices or of tasks, is a sequence of effects to the server. -/
private theorem toPc_effects (sel : Selection) {mode : RadioChoose} (hmode : mode ≠ .radio_user)
    (rc : SwitchRc) {w : World} (htx : w.sq.tx = none) :
    ReflTransGen ToPcEffect w.begun
      ((beginSwitchData sel .tongbu_to_pc mode rc).run w).2.view := by
  have hpass : Maintains (Uploading w.begun) (fun w' => ReflTransGen ToPcEffect w.begun w'.view)
      (deleteAreaAndDevice sel.mapOrder sel.m_deleteTree rc.deleteArea) := by
    rintro u ⟨htx, hnil, h⟩
    obtain ⟨-, hrest⟩ := effects_deleteAreaAndDevice (fun _ _ => ToPcEffect.delete)
      sel.mapOrder sel.m_deleteTree rc.deleteArea u ⟨htx, h⟩
    obtain ⟨htx', hqueue⟩ :=
      sameQueue_deleteAreaAndDevice sel.mapOrder sel.m_deleteTree rc.deleteArea htx
    exact ⟨hrest, fun _ _ => ⟨htx', hqueue.trans hnil, hrest⟩⟩
  -- the delete pass runs before either block, and its answer is dropped
  have hswitch : ∀ block : Act World Bool,
      Maintains (Uploading w.begun) (fun w' => ReflTransGen ToPcEffect w.begun w'.view) block →
      Maintains (Uploading w.begun) (fun w' => ReflTransGen ToPcEffect w.begun w'.view)
        (if rc.init then do
          let _ ← deleteAreaAndDevice sel.mapOrder sel.m_deleteTree rc.deleteArea
          block
        else pure false) :=
    fun block h => .ite (hpass.bind fun _ => h) (maintains_pure uploading_effects false)
  have hremove : (removeAll).run w = (.ok (), { w with updateMysqlData := [] }) := rfl
  have hstart : Uploading w.begun { w with updateMysqlData := [] } := ⟨htx, rfl, .refl⟩
  unfold beginSwitchData
  rw [bind_run_ok hremove]
  cases mode with
  | radio_user => exact absurd rfl hmode
  | radio_devices =>
    have hblock : Maintains (Uploading w.begun)
        (fun w' => ReflTransGen ToPcEffect w.begun w'.view)
        (devicesBlock sel .tongbu_to_pc rc) :=
      (maintains_pure uploading_effects ()).bind fun _ => Maintains.ite
        (maintains_chunked (fun k ids => maintains_devicesChunk .devices (rc.devices k) ids) _ _)
        (.ite (maintains_chunked
          (fun k ids => maintains_devicesChunk .areas (rc.devices k) ids) _ _)
          (maintains_pure uploading_effects true))
    exact (hswitch _ hblock _ hstart).1
  | radio_work =>
    have hblock : Maintains (Uploading w.begun)
        (fun w' => ReflTransGen ToPcEffect w.begun w'.view)
        (workBlock sel .tongbu_to_pc rc) :=
      .ite (maintains_chunked (fun k ids => maintains_workChunk (rc.work k) ids) _ _)
        (maintains_pure uploading_effects true)
    exact (hswitch _ hblock _ hstart).1

end ToPc

/-- **A sync is a sequence of effects** of its direction, for every mode, selection and outcome;
what it stores are copies as long as no bind fails. -/
theorem sync_is_effects (sel : Selection) (dir : TongbuDir) (mode : RadioChoose) (rc : SwitchRc)
    {w : World} (htx : w.sq.tx = none) :
    ReflTransGen (SyncEffect rc.AllBind dir mode) w.begun
      ((beginSwitchData sel dir mode rc).run w).2.view := by
  cases dir with
  | tongbu_to_phone => cases mode <;> exact toPhone_effects sel _ rc htx
  | tongbu_to_pc =>
    cases mode with
    | radio_user =>
      -- the block of the users does not look at the direction
      exact toPhone_effects sel .radio_user rc htx
    | radio_devices => exact toPc_effects sel (by decide) rc htx
    | radio_work => exact toPc_effects sel (by decide) rc htx

/-- A type of device `dev`, in this state. -/
def typeInState (i state : String) : SqlRow WorkTypeCol where
  Id := i
  col := fun
    | .DeviceId => some "dev"
    | .SynchronState => some state
    | .CreateDate => some "2018-06-20 08:00:00"
    | _ => some ""

/-- A phone with a type that the server has marked as deleted. -/
def World.oldType : World :=
  World.fresh { SqliteDB.empty with work_type := ⟨[typeInState "old" "1"], List.nodup_singleton _⟩ }
    { MysqlDB.empty with
      work_type := ⟨[typeInState "new" "0", typeInState "old" "2"], by decide⟩ }

/-- In the sync of its device the new type is copied and marked, and the old one deleted. -/
theorem oldType_sync_is_effects :
    let rc := SwitchRc.allOk ToPcRc.allOk.win
    let w' := ((beginSwitchData (Selection.ofDevice "dev") .tongbu_to_phone .radio_work rc).run
      World.oldType).2
    ReflTransGen (SyncEffect rc.AllBind .tongbu_to_phone .radio_work) World.oldType.begun w'.view ∧
      w'.sq.file.tables.map (fun d => d.work_type.ids) = some ["new"] ∧
      (w'.server.db.work_type.rows.map fun r => (r.Id, r.col .SynchronState)) =
        [("new", some "1"), ("old", some "2")] :=
  ⟨sync_is_effects (Selection.ofDevice "dev") .tongbu_to_phone .radio_work
    (SwitchRc.allOk ToPcRc.allOk.win) rfl, rfl, rfl⟩

end MtpSync
