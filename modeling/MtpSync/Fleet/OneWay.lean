import MtpSync.Fleet.Effects
import MtpSync.Marks

/-!
# A sync goes one way

What goes to the phone changes nothing on the server but the marks of what was sent, and what goes
to the server changes nothing on the phone but the marks of what was sent.  Rows that are deleted
on the way aside, the side a sync reads from is left as it was.

- §1 the rows a sync to the phone asks for
- §2 the server, in a sync to the phone
- §3 the phone, in a sync to the server
-/

namespace MtpSync

open Act Relation

/-! ## §1 The rows a run asks for -/

/-- The query of chunk `k`, the `ids`, brings the row from the tables `db`. -/
def MarkTable.Asked (sel : Selection) (rc : SwitchRc) (db : MysqlDB) (k : ℕ)
    (ids : List String) : RadioChoose → (T : MarkTable) → SqlRow T.ServerCol → Prop
  | .radio_devices, .device_info, r => r ∈ db.newDevices sel.fw (rc.devices k).toPhone.win ids
  | .radio_work, .work_template, r => r ∈ db.newTemplates (rc.work k).template.win ids
  | .radio_work, .work_type, r => r ∈ db.newWorkTypes (rc.work k).type.win ids
  | .radio_work, .work_task, r => r ∈ db.newTasks (rc.work k).task.win ids
  | .radio_work, .work_record, r => r ∈ db.newRecords (rc.work k).record.win
  | .radio_user, .sys_user, r => r ∈ db.sys_user ∧ ∃ x ∈ db.newUsers ids, x.Id = r.Id
  | _, _, _ => False

/-- A sync to the phone asks for the row: it is in the tables `db` and the query of some chunk
brings it. -/
def Selection.Asks (sel : Selection) (mode : RadioChoose) (rc : SwitchRc) (db : MysqlDB)
    (T : MarkTable) (r : SqlRow T.ServerCol) : Prop :=
  sel.hasChunks mode = true ∧ r ∈ T.server db ∧
    ∃ k ids, (getArrayItems (sel.chunkIds mode))[k]? = some ids ∧ T.Asked sel rc db k ids mode r

/-- Executing the statement leaves all areas and all rows but one as they are. -/
def MyStmt.TouchesOnly (st : MyStmt) (T : MarkTable) (i : String) : Prop :=
  ∀ db : MysqlDB, (st.exec db).areas = db.areas ∧
    ∀ (T' : MarkTable) (y : SqlRow T'.ServerCol), ¬(T = T' ∧ i = y.Id) →
      (y ∈ T'.server (st.exec db) ↔ y ∈ T'.server db)

/-- A mark leaves the areas alone. -/
private theorem areas_of_mark {st : MyStmt} (hmark : st.isMark = true) (db : MysqlDB) :
    (st.exec db).areas = db.areas := by
  cases st with
  | mark T i => cases T <;> rfl
  | markWorkTaskState2 i => rfl
  | _ => cases hmark

/-- What a row queues is about that row only. -/
theorem MarkTable.stmt_touchesOnly (T : MarkTable) (r : SqlRow T.ServerCol) :
    (T.stmt r).TouchesOnly T r.Id := by
  refine fun db => ⟨areas_of_mark (T.stmt_isMark r) db, fun T' y hother => ?_⟩
  have hsame : ∀ x : SqlRow T'.ServerCol, x.Id = y.Id → (T.stmt r).onRow T' x = x :=
    fun x hx => MyStmt.onRow_of_not_marks fun hm => hother (hx ▸ MarkTable.stmt_marks.1 hm)
  rw [MarkTable.mem_exec_iff (T.stmt_isMark r)]
  constructor
  · rintro ⟨x, hx, hxy⟩
    have hId : x.Id = y.Id := by rw [← hxy, MyStmt.onRow_Id]
    rw [hsame x hId] at hxy
    exact hxy ▸ hx
  · exact fun hy => ⟨y, hy, hsame y rfl⟩

/-! ## §2 The server -/

/-- The server has lost rows at most, and what is queued are marks of rows with `S`. -/
structure Marking (db₀ : MysqlDB) (S : (T : MarkTable) → SqlRow T.ServerCol → Prop) (v : View) :
    Prop where
  sub : v.db.Sub db₀
  queue : ∀ st ∈ v.queue, ∃ T : MarkTable, ∃ r ∈ T.server db₀, S T r ∧ st = T.stmt r

section Server

variable {db₀ : MysqlDB} {S : (T : MarkTable) → SqlRow T.ServerCol → Prop} {v : View}

namespace Marking

private theorem created (v : View) (h : Marking db₀ S v) : Marking db₀ S v.created :=
  ⟨h.sub, h.queue⟩

private theorem onFile (h : Marking db₀ S v) (f : SqliteDB → SqliteDB) :
    Marking db₀ S (v.onFile f) :=
  ⟨h.sub, h.queue⟩

private theorem enqueue (h : Marking db₀ S v) {sts : List MyStmt}
    (hsts : ∀ st ∈ sts, ∃ T : MarkTable, ∃ r ∈ T.server db₀, S T r ∧ st = T.stmt r) :
    Marking db₀ S (v.enqueue sts) := by
  refine ⟨h.sub, fun st hst => ?_⟩
  rcases List.mem_append.1 hst with hst | hst
  · exact h.queue st hst
  · exact hsts st hst

/-- Rows that a query brings from the tables as they are were in it from the start. -/
private theorem copied {T : MarkTable} (h : Marking db₀ S v) {rc : QuickRc}
    {q : MysqlDB → List (SqlRow T.ServerCol)} {toPhone : SqlRow T.ServerCol → SqlRow T.PhoneCol}
    {replace : SqliteDB → SqlRow T.PhoneCol → SqliteDB} {mark : SqlRow T.ServerCol → List MyStmt}
    (hmark : ∀ r, mark r = [T.stmt r]) (hq : ∀ r ∈ q v.db, r ∈ q db₀)
    (hS : ∀ r ∈ q db₀, r ∈ T.server db₀ ∧ S T r) :
    Marking db₀ S (v.copied rc q toPhone replace mark) := by
  refine (h.onFile _).enqueue fun st hst => ?_
  obtain ⟨r, hr, hst⟩ := List.mem_flatMap.1 hst
  rw [hmark, List.mem_singleton] at hst
  obtain ⟨hmem, hsel⟩ := hS r (hq r hr)
  exact ⟨T, r, hmem, hsel, hst⟩

private theorem deleteTasks (rc : TaskDeleteRc) (ids : List String) :
    Keeps (KeepsView (Marking db₀ S)) (deleteTasks rc ids) :=
  keeps_deleteTasks rc (fun _ h => h.onFile _) (fun _ h => h.onFile _) (fun _ h => h.onFile _)
    fun _ h => h.onFile _

private theorem execute (h : Marking db₀ S v) {done : List MyStmt}
    (hdone : ∀ st ∈ done, st.deletes = true) : Marking db₀ S (v.execute done) :=
  ⟨(MysqlDB.execAll_sub hdone v.db).trans h.sub, h.queue⟩

end Marking

/-- **A chunk** queues marks of the rows its queries bring. -/
private theorem marking_chunkRoutine (sel : Selection) (mode : RadioChoose) (rc : SwitchRc)
    {k : ℕ} {ids : List String}
    (hS : ∀ (T : MarkTable) (r : SqlRow T.ServerCol), r ∈ T.server db₀ →
      T.Asked sel rc db₀ k ids mode r → S T r) :
    Keeps (KeepsView (Marking db₀ S)) (chunkRoutine sel mode rc k ids) := by
  cases mode with
  | radio_user =>
    -- an account is queued under the `Id` of the user it is a copy of
    refine keeps_sysUser Marking.created ids (rc.user k) (fun v h => h.enqueue fun st hst => ?_)
      (fun _ h => h.onFile _) fun _ h => h.onFile _
    obtain ⟨x, hx, rfl⟩ := List.mem_map.1 hst
    have hx₀ := h.sub.newUsers (fun _ hi => hi) x hx
    obtain ⟨u, hu, -, hcopy⟩ := copy_of_mem_newUsers hx₀
    refine ⟨.sys_user, u, hu, hS .sys_user u hu ⟨hu, x, hx₀, hcopy.Id_eq⟩, ?_⟩
    rw [hcopy.Id_eq]
    rfl
  | radio_devices =>
    refine keeps_deviceInfoToPhone Marking.created ids sel.fw (rc.devices k).toPhone
      (fun v h _ => ?_) fun _ h => h.onFile _
    exact h.copied (T := .device_info) (fun _ => rfl) (h.sub.newDevices (fun _ hi => hi) _ _)
      fun r hr => ⟨(Table.mem_select.1 hr).1, hS .device_info r (Table.mem_select.1 hr).1 hr⟩
  | radio_work =>
    refine Keeps.bind ?_ fun _ => Keeps.bind ?_ fun _ => Keeps.bind ?_ fun _ =>
      Keeps.bind ?_ fun _ => keeps_pure _
    · refine keeps_workTemplateToPhone Marking.created ids (rc.work k).template
        (fun v h _ => ?_) fun _ h => h.onFile _
      exact h.copied (T := .work_template) (fun _ => rfl)
        (h.sub.newTemplates (fun _ hi => hi) _) fun r hr =>
          ⟨(Table.mem_select.1 hr).1, hS .work_template r (Table.mem_select.1 hr).1 hr⟩
    · refine keeps_workTypeToPhone Marking.created ids (rc.work k).type
        (fun v h _ => ?_) fun _ h => h.onFile _
      exact h.copied (T := .work_type) (fun _ => rfl) (h.sub.newWorkTypes (fun _ hi => hi) _)
        fun r hr => ⟨(Table.mem_select.1 hr).1, hS .work_type r (Table.mem_select.1 hr).1 hr⟩
    · -- the passes delete tasks on the server first, and the query brings what is left
      refine keeps_workTaskToPhone Marking.created ids (rc.work k).task
        (keeps_deleteTasks2 fun _ => Marking.deleteTasks _ _)
        (keeps_deleteTasks3 (fun _ => Marking.deleteTasks _ _) fun _ _ h _ hdone =>
          h.execute (deletes_of_mem_deleteTaskStmts hdone)) (fun v h _ => ?_)
      exact h.copied (T := .work_task) (fun _ => rfl) (h.sub.newTasks (fun _ hi => hi) _)
        fun r hr => ⟨(Table.mem_select.1 hr).1, hS .work_task r (Table.mem_select.1 hr).1 hr⟩
    · refine keeps_workRecordToPhone Marking.created (rc.work k).record (fun v h _ => ?_)
      exact h.copied (T := .work_record) (fun _ => rfl) (h.sub.newRecords _)
        fun r hr => ⟨(Table.mem_select.1 hr).1, hS .work_record r (Table.mem_select.1 hr).1 hr⟩

/-- The server's rows after some of the marks that are queued. -/
private theorem Marking.rows (h : Marking db₀ S v) {done : List MyStmt}
    (hdone : ∀ st ∈ done, st ∈ v.queue) {T : MarkTable} {y : SqlRow T.ServerCol}
    (hy : y ∈ T.server (v.db.execAll done)) :
    ∃ r ∈ T.server db₀, y = r ∨ S T r ∧ y = T.marked r := by
  have hmarks : ∀ st ∈ done, st.isMark = true := by
    intro st hst
    obtain ⟨T', r', -, -, rfl⟩ := h.queue st (hdone st hst)
    exact T'.stmt_isMark r'
  obtain ⟨r, hr, rfl⟩ := MarkTable.mem_execAll hmarks hy
  have hr₀ := h.sub.server T r hr
  -- a statement that marks the row is its own
  have hown : ∀ st ∈ done, st.Marks T r.Id → S T r ∧ st = T.stmt r := by
    intro st hst hm
    obtain ⟨T', r', hr', hsel, rfl⟩ := h.queue st (hdone st hst)
    obtain ⟨rfl, hId⟩ := MarkTable.stmt_marks.1 hm
    obtain rfl := Table.eq_of_Id_eq hr' hr₀ hId
    exact ⟨hsel, rfl⟩
  refine ⟨r, hr₀, ?_⟩
  by_cases hany : ∃ st ∈ done, st.Marks T r.Id
  · obtain ⟨st, hst, hm⟩ := hany
    exact .inr ⟨(hown st hst hm).1, foldl_onRow_own (fun st hst hm => (hown st hst hm).2) hst hm⟩
  · -- no statement is about the row, so each leaves it as it is
    refine .inl ?_
    clear hy hmarks hown hdone
    induction done with
    | nil => rfl
    | cons st done ih =>
      rw [List.foldl_cons, MyStmt.onRow_of_not_marks fun hm => hany ⟨st, List.mem_cons_self, hm⟩]
      exact ih fun ⟨st', hst', hm⟩ => hany ⟨st', List.mem_cons_of_mem st hst', hm⟩

private theorem Marking.areas (h : Marking db₀ S v) {done : List MyStmt}
    (hdone : ∀ st ∈ done, st ∈ v.queue) : ∀ x ∈ (v.db.execAll done).areas, x ∈ db₀.areas := by
  have hsame : (v.db.execAll done).areas = v.db.areas := by
    refine List.foldlRecOn (motive := fun db : MysqlDB => db.areas = v.db.areas) done _ rfl
      fun db hdb st hst => ?_
    obtain ⟨T', r', -, -, rfl⟩ := h.queue st (hdone st hst)
    exact (areas_of_mark (T'.stmt_isMark r') db).trans hdb
  intro x hx
  exact h.sub.areas x (hsame ▸ hx)

end Server

/-- Where a run to the phone ends: marks of rows it asks for are queued, and some are executed. -/
private theorem marking_end (sel : Selection) (mode : RadioChoose) (rc : SwitchRc) {w : World}
    (htx : w.sq.tx = none) :
    ∃ v done, Marking w.server.db (sel.Asks mode rc w.server.db) v ∧
      (∀ st ∈ done, st ∈ v.queue) ∧
      ((beginSwitchData sel .tongbu_to_phone mode rc).run w).2.view = v.execute done := by
  have hquiet := beforeChunks_quiet sel mode rc htx
  -- nothing is queued before the chunks
  have hbefore : ∀ o w₁, (beforeChunks sel mode rc).run w = (o, w₁) → w₁.sq.tx = none ∧
      Marking w.server.db (sel.Asks mode rc w.server.db) w₁.view := by
    intro o w₁ h
    rw [h] at hquiet
    refine ⟨hquiet.1, hquiet.2.2, fun st hst => ?_⟩
    rw [hquiet.2.1] at hst
    exact absurd hst List.not_mem_nil
  have hchunks : ∀ o w₁ w₂, (beforeChunks sel mode rc).run w = (.ok true, w₁) →
      (forChunks (chunkRoutine sel mode rc) 0 (getArrayItems (sel.chunkIds mode))).run w₁ =
        (o, w₂) → Marking w.server.db (sel.Asks mode rc w.server.db) w₂.view := by
    intro o w₁ w₂ h hrun
    have hkeeps : Keeps (KeepsView (Marking w.server.db (sel.Asks mode rc w.server.db)))
        (forChunks (chunkRoutine sel mode rc) 0 (getArrayItems (sel.chunkIds mode))) := by
      refine keeps_forChunks fun k ids hids => ?_
      rw [Nat.zero_add]
      exact marking_chunkRoutine sel mode rc fun T r hr hasked =>
        ⟨hasChunks_of_beforeChunks h, hr, k, ids, hids, hasked⟩
    have hend := hkeeps w₁ (hbefore _ w₁ h)
    rw [hrun] at hend
    exact hend.2
  have hnone : ∀ st ∈ ([] : List MyStmt), ∀ v : View, st ∈ v.queue :=
    fun _ hst => absurd hst List.not_mem_nil
  rcases hrun : (beginSwitchData sel .tongbu_to_phone mode rc).run w with ⟨res, w'⟩
  cases switchEnd_of_run hrun with
  | early h => exact ⟨_, [], (hbefore _ _ h).2, fun st hst => hnone st hst _, rfl⟩
  | halts h hforChunks =>
    exact ⟨_, [], hchunks _ _ _ h hforChunks, fun st hst => hnone st hst _, rfl⟩
  -- the server executes some of what is queued
  | @updates w₁ w₂ ret h hforChunks =>
    refine ⟨w₂.view, Batch.served 99 rc.update 0 w₂.updateMysqlData, hchunks _ _ _ h hforChunks,
      fun st hst => Batch.mem_of_mem_served hst, ?_⟩
    simp [World.view, View.execute]

/-- **A sync to the phone leaves the server as it is**, up to marks: whatever it is asked for and
whatever its calls return, every row that is left on the server is there as it was, or with its own
mark if the query of one of the chunks brings it; no row is new, and every statement left in the
queue is the mark of such a row and changes no other.  Users go to the phone whatever the
direction. -/
theorem toPhone_marks_only (sel : Selection) {dir : TongbuDir} {mode : RadioChoose}
    (hto : dir = .tongbu_to_phone ∨ mode = .radio_user) (rc : SwitchRc) {w : World}
    (htx : w.sq.tx = none) :
    let w' := ((beginSwitchData sel dir mode rc).run w).2
    (∀ x ∈ w'.server.db.areas, x ∈ w.server.db.areas) ∧
      (∀ T : MarkTable, ∀ y ∈ T.server w'.server.db, ∃ r ∈ T.server w.server.db,
        y = r ∨ sel.Asks mode rc w.server.db T r ∧ y = T.marked r) ∧
      ∀ st ∈ w'.updateMysqlData, ∃ (T : MarkTable) (r : SqlRow T.ServerCol),
        sel.Asks mode rc w.server.db T r ∧ st = T.stmt r ∧ st.TouchesOnly T r.Id := by
  have hsame : beginSwitchData sel dir mode rc = beginSwitchData sel .tongbu_to_phone mode rc := by
    rcases hto with rfl | rfl
    · rfl
    · cases dir <;> rfl
  obtain ⟨v, done, hmarking, hdone, hend⟩ := marking_end sel mode rc htx
  dsimp only
  rw [hsame]
  have hdb : ((beginSwitchData sel .tongbu_to_phone mode rc).run w).2.server.db =
      v.db.execAll done := congrArg View.db hend
  have hqueue : ((beginSwitchData sel .tongbu_to_phone mode rc).run w).2.updateMysqlData =
      v.queue := congrArg View.queue hend
  rw [hdb, hqueue]
  refine ⟨hmarking.areas hdone, fun T y hy => hmarking.rows hdone hy, fun st hst => ?_⟩
  obtain ⟨T, r, -, hasks, rfl⟩ := hmarking.queue st hst
  exact ⟨T, r, hasks, rfl, T.stmt_touchesOnly r⟩

/-- A device is sent: on the server nothing but its mark has changed. -/
theorem newDevice_marks_only :
    let w := World.fresh SqliteDB.empty
      { MysqlDB.empty with device_info := ⟨[newDevice ""], List.nodup_singleton _⟩ }
    let sel := Selection.ofDevice "dev"
    let rc := SwitchRc.allOk ToPcRc.allOk.win
    let w' := ((beginSwitchData sel .tongbu_to_phone .radio_devices rc).run w).2
    (∀ x ∈ w'.server.db.areas, x ∈ w.server.db.areas) ∧
      (∀ T : MarkTable, ∀ y ∈ T.server w'.server.db, ∃ r ∈ T.server w.server.db,
        y = r ∨ sel.Asks .radio_devices rc w.server.db T r ∧ y = T.marked r) ∧
      ∀ st ∈ w'.updateMysqlData, ∃ (T : MarkTable) (r : SqlRow T.ServerCol),
        sel.Asks .radio_devices rc w.server.db T r ∧ st = T.stmt r ∧ st.TouchesOnly T r.Id :=
  toPhone_marks_only (Selection.ofDevice "dev") (.inl rfl) (SwitchRc.allOk ToPcRc.allOk.win) rfl

/-! ## §3 The phone -/

/-- The row `y` is the row `x`, possibly with its mark. -/
structure MarkTable.SameButMark (T : MarkTable) (x y : SqlRow T.PhoneCol) : Prop where
  Id : y.Id = x.Id
  col : ∀ c ≠ T.PhoneState, y.col c = x.col c
  mark : y.col T.PhoneState = x.col T.PhoneState ∨ y.col T.PhoneState = some "1"

/-- Every row of `e` is one of `d`, possibly with its mark. -/
structure SqliteDB.SubButMarks (e d : SqliteDB) : Prop where
  areas : ∀ x ∈ e.areas, x ∈ d.areas
  tables : ∀ T : MarkTable, ∀ y ∈ T.phone e, ∃ x ∈ T.phone d, T.SameButMark x y

/-- The file has no tables, or rows of `f₀` only. -/
def RowsOf (f₀ f : DbFile SqliteDB) : Prop :=
  ∀ e, f = .holds e → ∃ d, f₀ = .holds d ∧ e.SubButMarks d

section Phone

variable {f₀ : DbFile SqliteDB} {a b : View}

private theorem MarkTable.SameButMark.trans {T : MarkTable} {x y z : SqlRow T.PhoneCol}
    (h : T.SameButMark x y) (h' : T.SameButMark y z) : T.SameButMark x z where
  Id := h'.Id.trans h.Id
  col c hc := (h'.col c hc).trans (h.col c hc)
  mark := by
    rcases h'.mark with hmark | hmark
    · exact hmark ▸ h.mark
    · exact .inr hmark

private theorem SqliteDB.SubButMarks.trans {d e e' : SqliteDB} (h : e.SubButMarks d)
    (h' : e'.SubButMarks e) : e'.SubButMarks d where
  areas x hx := h.areas x (h'.areas x hx)
  tables T z hz := by
    obtain ⟨y, hy, hyz⟩ := h'.tables T z hz
    obtain ⟨x, hx, hxy⟩ := h.tables T y hy
    exact ⟨x, hx, hxy.trans hyz⟩

private theorem RowsOf.map {f : DbFile SqliteDB} (h : RowsOf f₀ f) {g : SqliteDB → SqliteDB}
    (hg : ∀ e, (g e).SubButMarks e) : RowsOf f₀ (f.map g) := by
  intro e' he'
  cases f with
  | missing => cases he'
  | blank => cases he'
  | holds e =>
    cases he'
    obtain ⟨d, hd, hsub⟩ := h e rfl
    exact ⟨d, hd, hsub.trans (hg e)⟩

private theorem subButMarks_of_sub {d e : SqliteDB} (h : e.Sub d) : e.SubButMarks d :=
  ⟨h.areas, fun T y hy => ⟨y, h.tables T y hy, rfl, fun _ _ => rfl, .inl rfl⟩⟩

private theorem subButMarks_of_marksPhone {f : SqliteDB → SqliteDB} (hf : MarksPhone f)
    (d : SqliteDB) : (f d).SubButMarks d where
  areas x hx := by cases hf <;> exact hx
  tables T y hy := by
    obtain ⟨x, hx, hId, hcol, hmark⟩ := MarkTable.mem_of_marksPhone hf hy
    exact ⟨x, hx, hId, hcol, hmark⟩

/-- **One effect to the server** changes no row of the phone but by a mark. -/
private theorem rowsOf_toPc (h : RowsOf f₀ a.file) (hab : ToPcEffect a b) : RowsOf f₀ b.file := by
  cases hab with
  | delete hab =>
    cases hab with
    -- a file that is created has no tables, and so no rows
    | created =>
      intro e he
      cases hfile : a.file with
      | missing =>
        rw [View.created, hfile] at he
        cases he
      | blank =>
        rw [View.created, hfile] at he
        cases he
      | holds e' =>
        rw [View.created, hfile] at he
        exact h e (hfile.trans he)
    | deletePhone hf => exact h.map fun e => subButMarks_of_sub (hf e)
    | deleteServer => exact h
    | removeAll => exact h
  | upload => exact h
  | mark hf => exact h.map (subButMarks_of_marksPhone hf)

end Phone

/-- **A sync to the server leaves the phone as it is**, up to marks: whatever it is asked for and
whatever its calls return, every row that is left in the temporary file was in the file that was
pulled, the same in every column but its mark, and the mark is the old one or `'1'`. -/
theorem toPc_marks_only (sel : Selection) {mode : RadioChoose} (hmode : mode ≠ .radio_user)
    (rc : SwitchRc) {w : World} (htx : w.sq.tx = none) :
    RowsOf w.sq.file ((beginSwitchData sel .tongbu_to_pc mode rc).run w).2.sq.file := by
  have heffects := sync_is_effects sel .tongbu_to_pc mode rc htx
  have hto : SyncEffect rc.AllBind .tongbu_to_pc mode = ToPcEffect := by
    cases mode with
    | radio_user => exact absurd rfl hmode
    | _ => rfl
  rw [hto] at heffects
  have hbegun : RowsOf w.sq.file w.begun.file := fun e he =>
    ⟨e, he, subButMarks_of_sub (.refl e)⟩
  exact effects_keep (P := fun v => RowsOf w.sq.file v.file) heffects
    (fun _ _ hab ha => rowsOf_toPc ha hab) hbegun

/-- A phone uploads a device: on the phone nothing but its mark has changed. -/
theorem uploaded_marks_only :
    let w := World.fresh
      { SqliteDB.empty with device_info := ⟨[newDevice "rfid"], List.nodup_singleton _⟩ }
      MysqlDB.empty
    RowsOf w.sq.file ((beginSwitchData (Selection.ofDevice "dev") .tongbu_to_pc .radio_devices
      (SwitchRc.allOk ToPcRc.allOk.win)).run w).2.sq.file :=
  toPc_marks_only (Selection.ofDevice "dev") (by decide) (SwitchRc.allOk ToPcRc.allOk.win) rfl

end MtpSync
