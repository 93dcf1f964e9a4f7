import MtpSync.SyncEnd

/-!
# What a mark says about the copy

A run to the phone queues one mark for every row it copies.  As long as the marks are only queued,
the server's row is the one that was read, and every row the temporary file has under its key is
what the routine of its table made of it.

- §1 the tables with a mark, as one family
- §2 what the marks do to a row
- §3 a queued mark, its row and its copy
- §4 the routines
- §5 the chunks

The tables are a family over `MarkTable`, so that what is said about all six is said once.
-/

namespace MtpSync

open Act

/-! ## §1 The tables -/

namespace MarkTable

/-- The columns of a table on the server. -/
abbrev ServerCol : MarkTable → Type
  | .device_info => DeviceInfoCol
  | .work_type => WorkTypeCol
  | .work_template => WorkTemplateCol
  | .work_task => WorkTaskCol
  | .work_record => WorkRecordCol
  | .sys_user => SysUserCol

/-- The columns of a table on the phone, where `sys_user` is `user_table`. -/
abbrev PhoneCol : MarkTable → Type
  | .device_info => DeviceInfoCol
  | .work_type => WorkTypeCol
  | .work_template => WorkTemplateCol
  | .work_task => WorkTaskCol
  | .work_record => WorkRecordCol
  | .sys_user => UserTableCol

instance : (t : MarkTable) → Columns t.PhoneCol
  | .device_info => inferInstanceAs (Columns DeviceInfoCol)
  | .work_type => inferInstanceAs (Columns WorkTypeCol)
  | .work_template => inferInstanceAs (Columns WorkTemplateCol)
  | .work_task => inferInstanceAs (Columns WorkTaskCol)
  | .work_record => inferInstanceAs (Columns WorkRecordCol)
  | .sys_user => inferInstanceAs (Columns UserTableCol)

instance : (t : MarkTable) → DecidableEq t.ServerCol
  | .device_info => inferInstanceAs (DecidableEq DeviceInfoCol)
  | .work_type => inferInstanceAs (DecidableEq WorkTypeCol)
  | .work_template => inferInstanceAs (DecidableEq WorkTemplateCol)
  | .work_task => inferInstanceAs (DecidableEq WorkTaskCol)
  | .work_record => inferInstanceAs (DecidableEq WorkRecordCol)
  | .sys_user => inferInstanceAs (DecidableEq SysUserCol)

/-- The table on the server. -/
def server : (t : MarkTable) → MysqlDB → SqlTable t.ServerCol
  | .device_info, db => db.device_info
  | .work_type, db => db.work_type
  | .work_template, db => db.work_template
  | .work_task, db => db.work_task
  | .work_record, db => db.work_record
  | .sys_user, db => db.sys_user

/-- The table on the phone. -/
def phone : (t : MarkTable) → SqliteDB → SqlTable t.PhoneCol
  | .device_info, d => d.device_info
  | .work_type, d => d.work_type
  | .work_template, d => d.work_template
  | .work_task, d => d.work_task
  | .work_record, d => d.work_record
  | .sys_user, d => d.user_table

/-- The mark, on the server. -/
def SynchronState : (t : MarkTable) → t.ServerCol
  | .device_info => DeviceInfoCol.SynchronState
  | .work_type => WorkTypeCol.SynchronState
  | .work_template => WorkTemplateCol.SynchronState
  | .work_task => WorkTaskCol.SynchronState
  | .work_record => WorkRecordCol.SynchronState
  | .sys_user => SysUserCol.SynchronState

/-- `x` is what the routine of the table makes of the row `r`. -/
def IsCopy : (t : MarkTable) → SqlRow t.ServerCol → SqlRow t.PhoneCol → Prop
  | .device_info, r, x => x = deviceToPhone r
  | .work_type, r, x => x = r.read
  | .work_template, r, x => x = r.read
  | .work_task, r, x => x = taskToPhone r
  | .work_record, r, x => x = recordToPhone r
  | .sys_user, r, x => ∃ role area, x = userToPhone r role area

/-- The statement the routine queues for the row `r`. -/
def stmt : (t : MarkTable) → SqlRow t.ServerCol → MyStmt
  | .device_info, r => .mark .device_info r.Id
  | .work_type, r => .mark .work_type r.Id
  | .work_template, r => .mark .work_template r.Id
  | .work_task, r => markTaskStmt r
  | .work_record, r => .mark .work_record r.Id
  | .sys_user, r => .mark .sys_user r.Id

/-- Rows of the table are deleted from the phone for other reasons than their own mark: a later
chunk may delete a task it had copied before, and the records of that task. -/
def Pruned : MarkTable → Prop
  | .work_task | .work_record => True
  | _ => False

end MarkTable

/-- The statement marks the row `i` of the table. -/
def MyStmt.Marks : MyStmt → MarkTable → String → Prop
  | .mark t i, t', i' => t = t' ∧ i = i'
  | .markWorkTaskState2 i, t', i' => .work_task = t' ∧ i = i'
  | _, _, _ => False

/-- The rows of a server that has lost rows at most. -/
theorem MysqlDB.Sub.server {db db₀ : MysqlDB} (h : db.Sub db₀) (t : MarkTable) :
    ∀ r ∈ t.server db, r ∈ t.server db₀ := by
  cases t with
  | device_info => exact h.device_info
  | work_type => exact h.work_type
  | work_template => exact h.work_template
  | work_task => exact h.work_task
  | work_record => exact h.work_record
  | sys_user => exact h.sys_user

/-- A statement of a row marks that row, and no other. -/
theorem MarkTable.stmt_marks {t t' : MarkTable} {r : SqlRow t.ServerCol} {i : String} :
    (t.stmt r).Marks t' i ↔ t = t' ∧ r.Id = i := by
  cases t with
  | work_task =>
    show (markTaskStmt r).Marks t' i ↔ _
    rw [markTaskStmt]
    split <;> exact Iff.rfl
  | _ => exact Iff.rfl

/-- The key of a copy is the key of the row. -/
theorem MarkTable.IsCopy.Id_eq {t : MarkTable} {r : SqlRow t.ServerCol} {x : SqlRow t.PhoneCol}
    (h : t.IsCopy r x) : x.Id = r.Id := by
  cases t with
  | sys_user =>
    obtain ⟨role, area, rfl⟩ := h
    rfl
  | _ =>
    cases h
    rfl

/-! ## §2 Marks, row by row -/

/-- The row that is left of `r` after a mark. -/
def MyStmt.onRow : MyStmt → (t : MarkTable) → SqlRow t.ServerCol → SqlRow t.ServerCol
  | .mark t' i, t, r => if t' = t ∧ i = r.Id then r.setCol t.SynchronState "1" else r
  | .markWorkTaskState2 i, .work_task, r =>
    if i = r.Id then (r.setCol WorkTaskCol.SynchronState "1").setCol WorkTaskCol.State "2" else r
  | _, _, r => r

@[simp] theorem MyStmt.onRow_Id (st : MyStmt) (t : MarkTable) (r : SqlRow t.ServerCol) :
    (st.onRow t r).Id = r.Id := by
  unfold MyStmt.onRow
  split
  · split <;> rfl
  · split <;> rfl
  · rfl

/-- A statement leaves the rows alone that it does not mark. -/
theorem MyStmt.onRow_of_not_marks {st : MyStmt} {t : MarkTable} {r : SqlRow t.ServerCol}
    (h : ¬st.Marks t r.Id) : st.onRow t r = r := by
  unfold MyStmt.onRow
  split
  · exact if_neg h
  · exact if_neg fun hi => h ⟨rfl, hi⟩
  · rfl

private theorem mem_setWhereId_row {C : Type} [DecidableEq C] {t : SqlTable C} {c : C}
    {s i : String} {y : SqlRow C} :
    y ∈ t.setWhereId c s i ↔ ∃ r ∈ t, (if i = r.Id then r.setCol c s else r) = y := by
  rw [Table.mem_setWhereId]
  simp only [eq_comm (a := i)]

/-- One mark of a table, on the rows of any table. -/
private theorem mem_mark {t t' : MarkTable} {i : String} {db : MysqlDB} {y : SqlRow t.ServerCol} :
    y ∈ t.server (db.mark i t') ↔ ∃ r ∈ t.server db, (MyStmt.mark t' i).onRow t r = y := by
  by_cases htt : t' = t
  · subst htt
    have hrow : y ∈ t'.server (db.mark i t') ↔ ∃ r ∈ t'.server db,
        (if i = r.Id then r.setCol t'.SynchronState "1" else r) = y := by
      cases t' <;> exact mem_setWhereId_row
    simpa only [MyStmt.onRow, true_and] using hrow
  · have hsame : t.server (db.mark i t') = t.server db := by
      cases t' <;> cases t <;> first | rfl | exact absurd rfl htt
    have hrow : ∀ r, (MyStmt.mark t' i).onRow t r = r := fun r =>
      MyStmt.onRow_of_not_marks fun hm => htt hm.1
    simp only [hsame, hrow, exists_eq_right]

/-- **Marks work row by row.** -/
theorem MarkTable.mem_exec_iff {st : MyStmt} (hmark : st.isMark = true) {t : MarkTable}
    {db : MysqlDB} {y : SqlRow t.ServerCol} :
    y ∈ t.server (st.exec db) ↔ ∃ r ∈ t.server db, st.onRow t r = y := by
  cases st with
  | mark t' i => exact mem_mark
  | markWorkTaskState2 i =>
    cases t with
    | work_task =>
      have hrow : ∀ r : SqlRow WorkTaskCol,
          (if i = (if i = r.Id then r.setCol .SynchronState "1" else r).Id then
            (if i = r.Id then r.setCol .SynchronState "1" else r).setCol .State "2"
          else if i = r.Id then r.setCol .SynchronState "1" else r) =
            (MyStmt.markWorkTaskState2 i).onRow .work_task r := by
        intro r
        show _ = if i = r.Id then _ else r
        by_cases hi : i = r.Id
        · simp only [if_pos hi, Row.setCol_Id]
        · simp only [if_neg hi]
      -- the two columns are set one after the other
      constructor
      · intro h
        obtain ⟨r₁, hr₁, rfl⟩ := mem_setWhereId_row.1 h
        obtain ⟨r, hr, rfl⟩ := mem_setWhereId_row.1 hr₁
        exact ⟨r, hr, (hrow r).symm⟩
      · rintro ⟨r, hr, rfl⟩
        exact mem_setWhereId_row.2 ⟨_, mem_setWhereId_row.2 ⟨r, hr, rfl⟩, hrow r⟩
    | _ =>
      -- another table stays as it is
      constructor
      · exact fun h => ⟨y, h, rfl⟩
      · rintro ⟨r, hr, rfl⟩
        exact hr
  | _ => cases hmark

theorem MarkTable.mem_exec {st : MyStmt} (hmark : st.isMark = true) {t : MarkTable}
    {db : MysqlDB} {y : SqlRow t.ServerCol} (h : y ∈ t.server (st.exec db)) :
    ∃ r ∈ t.server db, st.onRow t r = y :=
  (MarkTable.mem_exec_iff hmark).1 h

/-- A run of marks does so too. -/
theorem MarkTable.mem_execAll {sts : List MyStmt} (hmarks : ∀ st ∈ sts, st.isMark = true)
    {t : MarkTable} {db : MysqlDB} {y : SqlRow t.ServerCol} (h : y ∈ t.server (db.execAll sts)) :
    ∃ r ∈ t.server db, sts.foldl (fun r st => st.onRow t r) r = y := by
  induction sts generalizing db with
  | nil => exact ⟨y, h, rfl⟩
  | cons st sts ih =>
    rw [List.forall_mem_cons] at hmarks
    have hrest : y ∈ t.server ((st.exec db).execAll sts) := h
    obtain ⟨r₁, hr₁, hy⟩ := ih hmarks.2 hrest
    obtain ⟨r, hr, rfl⟩ := MarkTable.mem_exec hmarks.1 hr₁
    exact ⟨r, hr, hy⟩

/-- The row `r` once its statement has been executed. -/
def MarkTable.marked (t : MarkTable) (r : SqlRow t.ServerCol) : SqlRow t.ServerCol :=
  (t.stmt r).onRow t r

/-- Executing the statement of a row again changes nothing. -/
theorem MarkTable.onRow_marked (t : MarkTable) (r : SqlRow t.ServerCol) :
    (t.stmt r).onRow t (t.marked r) = t.marked r := by
  have hmark : ∀ i, i = r.Id → (MyStmt.mark t i).onRow t ((MyStmt.mark t i).onRow t r) =
      (MyStmt.mark t i).onRow t r := by
    intro i hi
    simp [MyStmt.onRow, hi]
  cases t with
  | work_task =>
    show (markTaskStmt r).onRow .work_task ((markTaskStmt r).onRow .work_task r) =
      (markTaskStmt r).onRow .work_task r
    rw [markTaskStmt]
    split
    · -- both columns are set to what they are
      simp only [MyStmt.onRow, Row.setCol_Id, if_true]
      simp only [Row.setCol, Row.mk.injEq, true_and]
      funext c
      cases c <;> rfl
    · exact hmark r.Id rfl
  | _ => exact hmark r.Id rfl

section OwnMarks

variable {t : MarkTable} {r : SqlRow t.ServerCol} {sts : List MyStmt}

private theorem foldl_onRow_marked (hown : ∀ st ∈ sts, st.Marks t r.Id → st = t.stmt r) :
    sts.foldl (fun r st => st.onRow t r) (t.marked r) = t.marked r := by
  induction sts with
  | nil => rfl
  | cons st sts ih =>
    rw [List.forall_mem_cons] at hown
    have hstep : st.onRow t (t.marked r) = t.marked r := by
      by_cases hst : st.Marks t r.Id
      · rw [hown.1 hst, t.onRow_marked r]
      · refine MyStmt.onRow_of_not_marks ?_
        rw [MarkTable.marked, MyStmt.onRow_Id]
        exact hst
    rw [List.foldl_cons, hstep]
    exact ih hown.2

/-- **All marks of a row being its own statement**, it ends up as after that statement. -/
theorem foldl_onRow_own (hown : ∀ st ∈ sts, st.Marks t r.Id → st = t.stmt r) {st : MyStmt}
    (hst : st ∈ sts) (hmarks : st.Marks t r.Id) :
    sts.foldl (fun r st => st.onRow t r) r = t.marked r := by
  induction sts with
  | nil => exact absurd hst List.not_mem_nil
  | cons st' sts ih =>
    rw [List.forall_mem_cons] at hown
    rw [List.foldl_cons]
    by_cases hst' : st'.Marks t r.Id
    · -- from its first mark on the row stays as it is
      rw [hown.1 hst', ← MarkTable.marked]
      exact foldl_onRow_marked hown.2
    · rw [MyStmt.onRow_of_not_marks hst']
      rcases List.mem_cons.1 hst with rfl | hst
      · exact absurd hmarks hst'
      · exact ih hown.2 hst

end OwnMarks

/-! ## §3 A queued mark, its row and its copy -/

/-- What the queued mark `st` says of the row `r` it marks and of the tables `d` on the phone. -/
structure MarkTable.Reflects (t : MarkTable) (r : SqlRow t.ServerCol) (st : MyStmt)
    (d : SqliteDB) : Prop where
  own : st = t.stmt r
  live : r.col t.SynchronState = some "0" ∨ r.col t.SynchronState = some "1"
  there : ¬t.Pruned → ∃ x ∈ t.phone d, x.Id = r.Id
  copy : ∀ x ∈ t.phone d, x.Id = r.Id → t.IsCopy r x

/-- Every queued mark reflects what the temporary file holds. -/
def Copied (v : View) : Prop :=
  ∀ (t : MarkTable), ∀ st ∈ v.queue, ∀ r ∈ t.server v.db, st.Marks t r.Id →
    ∃ d, v.file = .holds d ∧ t.Reflects r st d

/-- Another file reflects the same, if its table has some of the rows, and none less unless rows
of the table are deleted for other reasons. -/
theorem MarkTable.Reflects.frame {t : MarkTable} {r : SqlRow t.ServerCol} {st : MyStmt}
    {d d' : SqliteDB} (h : t.Reflects r st d) (hsub : ∀ x ∈ t.phone d', x ∈ t.phone d)
    (hkept : ¬t.Pruned → ∀ x ∈ t.phone d, x.Id = r.Id → x ∈ t.phone d') : t.Reflects r st d' where
  own := h.own
  live := h.live
  there hp := by
    obtain ⟨x, hx, hId⟩ := h.there hp
    exact ⟨x, hkept hp x hx hId, hId⟩
  copy x hx := h.copy x (hsub x hx)

/-- `REPLACE INTO` this table, and no other. -/
structure MarkTable.Stores (T : MarkTable) (replace : SqliteDB → SqlRow T.PhoneCol → SqliteDB) :
    Prop where
  own : ∀ rows d, T.phone (rows.foldl replace d) = (T.phone d).replaceAll rows
  other : ∀ t ≠ T, ∀ (rows : List (SqlRow T.PhoneCol)) d,
    t.phone (rows.foldl replace d) = t.phone d

/-- `DELETE FROM` this table by keys, and from no other. -/
structure MarkTable.Deletes (T : MarkTable) (delete : SqliteDB → String → SqliteDB) : Prop where
  own : ∀ ids d, T.phone (ids.foldl delete d) = (T.phone d).deleteIds ids
  other : ∀ t ≠ T, ∀ (ids : List String) d, t.phone (ids.foldl delete d) = t.phone d

/-- A delete adds no row. -/
theorem MarkTable.Deletes.subset {T t : MarkTable} {delete : SqliteDB → String → SqliteDB}
    (h : T.Deletes delete) {ids : List String} {d : SqliteDB} {x : SqlRow t.PhoneCol}
    (hx : x ∈ t.phone (ids.foldl delete d)) : x ∈ t.phone d := by
  by_cases ht : t = T
  · subst ht
    rw [h.own] at hx
    exact (Table.mem_deleteIds.1 hx).1
  · rw [h.other t ht] at hx
    exact hx

/-- `x` was stored for copies of the rows with `P`: it has the key of one of them, and a column that
is not NULL is that of a copy.  If the binds succeed it is a whole copy. -/
abbrev MarkTable.StoredFrom (t : MarkTable) (binds : Prop) (P : SqlRow t.ServerCol → Prop) :
    SqlRow t.PhoneCol → Prop :=
  BoundFrom binds fun x => ∃ r, P r ∧ t.IsCopy r x

/-- The key is that of a row. -/
theorem MarkTable.StoredFrom.Id_eq {t : MarkTable} {binds : Prop} {P : SqlRow t.ServerCol → Prop}
    {x : SqlRow t.PhoneCol} (h : t.StoredFrom binds P x) : ∃ r, P r ∧ r.Id = x.Id := by
  obtain ⟨y, ⟨r, hr, hcopy⟩, hId⟩ := h.key
  exact ⟨r, hr, hcopy.Id_eq.symm.trans hId⟩

/-- After a copy a row is one of those copied, or one with a key that was not copied. -/
private theorem of_mem_replaceAll {C : Type} {rs : List (SqlRow C)} {t : SqlTable C}
    {x : SqlRow C} (h : x ∈ t.replaceAll rs) : x ∈ rs ∨ x ∈ t ∧ ∀ y ∈ rs, y.Id ≠ x.Id := by
  induction rs generalizing t with
  | nil => exact .inr ⟨h, fun _ hy => absurd hy List.not_mem_nil⟩
  | cons y rs ih =>
    have hrest : x ∈ (t.replaceInto y).replaceAll rs := h
    rcases ih hrest with hx | ⟨hx, hno⟩
    · exact .inl (List.mem_cons_of_mem y hx)
    · rcases Table.mem_replaceInto.1 hx with ⟨hx, hne⟩ | rfl
      · exact .inr ⟨hx, List.forall_mem_cons.2 ⟨hne.symm, hno⟩⟩
      · exact .inl List.mem_cons_self

namespace Copied

variable {v : View}

/-- Nothing is queued at first. -/
theorem of_nil (h : v.queue = []) : Copied v := by
  intro t st hst
  rw [h] at hst
  exact absurd hst List.not_mem_nil

theorem created (v : View) (h : Copied v) : Copied v.created := by
  intro t st hst r hr hmarks
  obtain ⟨d, hd, hreflects⟩ := h t st hst r hr hmarks
  refine ⟨d, ?_, hreflects⟩
  rw [View.created, hd]
  rfl

theorem execute (h : Copied v) {done : List MyStmt} (hdel : ∀ st ∈ done, st.deletes = true) :
    Copied (v.execute done) := by
  intro t st hst r hr hmarks
  exact h t st hst r ((MysqlDB.execAll_sub hdel v.db).server t r hr) hmarks

/-- A change of the file that only deletes, and leaves every row with a mark that is not `'2'`. -/
theorem onFile (h : Copied v) {f : SqliteDB → SqliteDB}
    (hsub : ∀ d (t : MarkTable), ∀ x ∈ t.phone (f d), x ∈ t.phone d)
    (hkept : ∀ d (t : MarkTable), ¬t.Pruned → ∀ r ∈ t.server v.db,
      r.col t.SynchronState ≠ some "2" → ∀ x ∈ t.phone d, x.Id = r.Id → x ∈ t.phone (f d)) :
    Copied (v.onFile f) := by
  intro t st hst r hr hmarks
  obtain ⟨d, hd, hreflects⟩ := h t st hst r hr hmarks
  refine ⟨f d, ?_, hreflects.frame (hsub d t) fun hp => hkept d t hp r hr ?_⟩
  · rw [View.onFile, hd]
    rfl
  · intro htwo
    rcases hreflects.live with hlive | hlive
    · rw [hlive] at htwo
      exact absurd htwo (by decide)
    · rw [hlive] at htwo
      exact absurd htwo (by decide)

/-- **Rows stored and marked.**  The rows `rows` are copies of rows of the server, and the
statements are those of the rows copied. -/
theorem stored {T : MarkTable} {rows : List (SqlRow T.PhoneCol)} {sts : List MyStmt}
    {replace : SqliteDB → SqlRow T.PhoneCol → SqliteDB} (hreplace : T.Stores replace)
    (h : Copied v) (hfile : v.file.tables.isSome = true)
    (hrows : ∀ x ∈ rows, ∃ r ∈ T.server v.db, T.IsCopy r x ∧
      (r.col T.SynchronState = some "0" ∨ r.col T.SynchronState = some "1"))
    (hsts : ∀ st ∈ sts, ∃ r ∈ T.server v.db, st = T.stmt r ∧ ∃ x ∈ rows, T.IsCopy r x) :
    Copied ((v.onFile fun d => rows.foldl replace d).enqueue sts) := by
  obtain ⟨d, hd⟩ := DbFile.eq_holds hfile
  intro t st hst r hr hmarks
  have hr : r ∈ t.server v.db := hr
  refine ⟨rows.foldl replace d, by rw [View.enqueue, View.onFile, hd]; rfl, ?_⟩
  -- what the mark says of the file as it was, if it was queued then
  have hold : st ∈ v.queue → t.Reflects r st d := fun hst => by
    obtain ⟨d', hd', hreflects⟩ := h t st hst r hr hmarks
    rw [hd] at hd'
    cases hd'
    exact hreflects
  by_cases htt : t = T
  · subst htt
    have hcopies : ∀ x ∈ rows, x.Id = r.Id → t.IsCopy r x := by
      intro x hx hId
      obtain ⟨r', hr', hcopy, -⟩ := hrows x hx
      obtain rfl : r' = r := Table.eq_of_Id_eq hr' hr (hcopy.Id_eq.symm.trans hId)
      exact hcopy
    rcases List.mem_append.1 hst with hst | hst
    · have hreflects := hold hst
      refine ⟨hreflects.own, hreflects.live, fun hp => ?_, fun x hx hId => ?_⟩
      · obtain ⟨x, hx, hId⟩ := hreflects.there hp
        rw [hreplace.own]
        exact Table.mem_ids.1 (Table.mem_ids_replaceAll.2 (.inl (Table.mem_ids.2 ⟨x, hx, hId⟩)))
      · rw [hreplace.own] at hx
        rcases of_mem_replaceAll hx with hx | ⟨hx, -⟩
        · exact hcopies x hx hId
        · exact hreflects.copy x hx hId
    · obtain ⟨r', hr', hown, x', hx', hcopy'⟩ := hsts st hst
      have hId' : r'.Id = r.Id := by
        rw [hown] at hmarks
        exact (MarkTable.stmt_marks.1 hmarks).2
      obtain rfl : r' = r := Table.eq_of_Id_eq hr' hr hId'
      refine ⟨hown, ?_, fun _ => ?_, fun x hx hId => ?_⟩
      · obtain ⟨r'', hr'', hcopy'', hlive⟩ := hrows x' hx'
        obtain rfl : r'' = r' :=
          Table.eq_of_Id_eq hr'' hr (hcopy''.Id_eq.symm.trans hcopy'.Id_eq)
        exact hlive
      · rw [hreplace.own]
        exact Table.mem_ids.1 (Table.mem_ids_replaceAll.2
          (.inr (List.mem_map.2 ⟨x', hx', hcopy'.Id_eq⟩)))
      · rw [hreplace.own] at hx
        rcases of_mem_replaceAll hx with hx | ⟨-, hno⟩
        · exact hcopies x hx hId
        · exact absurd (hcopy'.Id_eq.trans hId.symm) (hno x' hx')
  · rcases List.mem_append.1 hst with hst | hst
    · refine (hold hst).frame (fun x hx => ?_) fun _ x hx _ => ?_
      · rw [hreplace.other t htt] at hx
        exact hx
      · rw [hreplace.other t htt]
        exact hx
    · -- the statements are about the other table
      obtain ⟨r', -, hown, -⟩ := hsts st hst
      rw [hown] at hmarks
      exact absurd (MarkTable.stmt_marks.1 hmarks).1.symm htt

/-- A copy of rows selected from the server, each bound and with its own statement. -/
theorem copied {T : MarkTable} {rc : QuickRc} (hbinds : rc.Binds)
    {q : MysqlDB → List (SqlRow T.ServerCol)}
    {toPhone : SqlRow T.ServerCol → SqlRow T.PhoneCol}
    {replace : SqliteDB → SqlRow T.PhoneCol → SqliteDB}
    {mark : SqlRow T.ServerCol → List MyStmt} (hreplace : T.Stores replace)
    (hcopy : ∀ r, T.IsCopy r (toPhone r)) (hmark : ∀ r, mark r = [T.stmt r]) (h : Copied v)
    (hstores : rc.Stores (q v.db).length v) (hq : ∀ r ∈ q v.db, r ∈ T.server v.db ∧
      (r.col T.SynchronState = some "0" ∨ r.col T.SynchronState = some "1")) :
    Copied (v.copied rc q toPhone replace mark) := by
  rw [View.copied, hbinds.bound]
  refine h.stored hreplace hstores.1 (fun x hx => ?_) fun st hst => ?_
  · obtain ⟨r, hr, rfl⟩ := List.mem_map.1 hx
    exact ⟨r, (hq r hr).1, hcopy r, (hq r hr).2⟩
  · obtain ⟨r, hr, hst⟩ := List.mem_flatMap.1 hst
    rw [hmark r, List.mem_singleton] at hst
    exact ⟨r, (hq r hr).1, hst, toPhone r, List.mem_map.2 ⟨r, hr, rfl⟩, hcopy r⟩

/-- A delete of rows that are marked as deleted. -/
theorem purged {T : MarkTable} {rc : QuickRc} {q : MysqlDB → List String}
    {delete : SqliteDB → String → SqliteDB} (hdelete : T.Deletes delete) (h : Copied v)
    (hq : ∀ i ∈ q v.db, ∃ r ∈ T.server v.db, r.Id = i ∧ r.col T.SynchronState = some "2") :
    Copied (v.purged rc q delete) := by
  refine h.onFile (fun d t x hx => hdelete.subset hx) fun d t _ r hr hlive x hx hId => ?_
  by_cases htt : t = T
  · -- a row that is to be deleted has the mark `'2'`
    subst htt
    rw [hdelete.own]
    refine Table.mem_deleteIds.2 ⟨hx, fun hmem => ?_⟩
    obtain ⟨r', hr', hId', htwo⟩ := hq x.Id (QuickRc.mem_of_mem_bound hmem)
    rw [Table.eq_of_Id_eq hr' hr (hId'.trans hId)] at htwo
    exact hlive htwo
  · rw [hdelete.other t htt]
    exact hx

end Copied

/-! ## §4 The routines -/

section Statements

theorem stores_device : MarkTable.device_info.Stores SqliteDB.replaceDevice where
  own rows d := by
    rw [SqliteDB.foldl_replaceDevice]
    rfl
  other t ht rows d := by
    rw [SqliteDB.foldl_replaceDevice]
    cases t <;> first | rfl | exact absurd rfl ht

theorem stores_type : MarkTable.work_type.Stores SqliteDB.replaceWorkType where
  own rows d := by
    rw [SqliteDB.foldl_replaceWorkType]
    rfl
  other t ht rows d := by
    rw [SqliteDB.foldl_replaceWorkType]
    cases t <;> first | rfl | exact absurd rfl ht

theorem stores_template : MarkTable.work_template.Stores SqliteDB.replaceTemplate where
  own rows d := by
    rw [SqliteDB.foldl_replaceTemplate]
    rfl
  other t ht rows d := by
    rw [SqliteDB.foldl_replaceTemplate]
    cases t <;> first | rfl | exact absurd rfl ht

theorem stores_task : MarkTable.work_task.Stores SqliteDB.replaceTask where
  own rows d := by
    rw [SqliteDB.foldl_replaceTask]
    rfl
  other t ht rows d := by
    rw [SqliteDB.foldl_replaceTask]
    cases t <;> first | rfl | exact absurd rfl ht

theorem stores_record : MarkTable.work_record.Stores SqliteDB.replaceRecord where
  own rows d := by
    rw [SqliteDB.foldl_replaceRecord]
    rfl
  other t ht rows d := by
    rw [SqliteDB.foldl_replaceRecord]
    cases t <;> first | rfl | exact absurd rfl ht

theorem stores_user : MarkTable.sys_user.Stores SqliteDB.replaceUser where
  own rows d := by
    rw [SqliteDB.foldl_replaceUser]
    rfl
  other t ht rows d := by
    rw [SqliteDB.foldl_replaceUser]
    cases t <;> first | rfl | exact absurd rfl ht

theorem deletes_device : MarkTable.device_info.Deletes SqliteDB.deleteDevice where
  own ids d := by
    rw [SqliteDB.foldl_deleteDevice]
    rfl
  other t ht ids d := by
    rw [SqliteDB.foldl_deleteDevice]
    cases t <;> first | rfl | exact absurd rfl ht

theorem deletes_type : MarkTable.work_type.Deletes SqliteDB.deleteWorkType where
  own ids d := by
    rw [SqliteDB.foldl_deleteWorkType]
    rfl
  other t ht ids d := by
    rw [SqliteDB.foldl_deleteWorkType]
    cases t <;> first | rfl | exact absurd rfl ht

theorem deletes_template : MarkTable.work_template.Deletes SqliteDB.deleteTemplate where
  own ids d := by
    rw [SqliteDB.foldl_deleteTemplate]
    rfl
  other t ht ids d := by
    rw [SqliteDB.foldl_deleteTemplate]
    cases t <;> first | rfl | exact absurd rfl ht

theorem deletes_task : MarkTable.work_task.Deletes SqliteDB.deleteTask where
  own ids d := by
    rw [SqliteDB.foldl_deleteTask]
    rfl
  other t ht ids d := by
    rw [SqliteDB.foldl_deleteTask]
    cases t <;> first | rfl | exact absurd rfl ht

theorem deletes_user : MarkTable.sys_user.Deletes SqliteDB.deleteUser where
  own ids d := by
    rw [SqliteDB.foldl_deleteUser]
    rfl
  other t ht ids d := by
    rw [SqliteDB.foldl_deleteUser]
    cases t <;> first | rfl | exact absurd rfl ht

end Statements

section Routines

variable {w w' : World}

/-- **The four deletes of tasks** take rows away, and leave all but tasks and records alone. -/
theorem keeps_tasksDeleted {I : View → Prop} (rc : TaskDeleteRc) (ids : List String)
    (h : ∀ f : SqliteDB → SqliteDB, (∀ d (t : MarkTable), ∀ x ∈ t.phone (f d), x ∈ t.phone d) →
      (∀ d (t : MarkTable), ¬t.Pruned → t.phone (f d) = t.phone d) →
      ∀ v, I v → I (v.onFile f)) : Keeps (KeepsView I) (deleteTasks rc ids) := by
  refine keeps_deleteTasks rc ?_ ?_ ?_ ?_
  · -- the tasks
    apply h
    · exact fun d t x hx => deletes_task.subset hx
    · intro d t hp
      refine deletes_task.other t (fun ht => ?_) _ d
      rw [ht] at hp
      exact hp trivial
  · -- their subtasks
    apply h
    · intro d t x hx
      rw [SqliteDB.foldl_deleteSubtasks] at hx
      cases t with
      | work_task => exact (Table.mem_deleteEqs.1 hx).1
      | _ => exact hx
    · intro d t hp
      rw [SqliteDB.foldl_deleteSubtasks]
      cases t <;> first | rfl | exact absurd trivial hp
  · -- their records
    apply h
    · intro d t x hx
      rw [SqliteDB.foldl_deleteRecordsOf] at hx
      cases t with
      | work_record => exact (Table.mem_deleteEqs.1 hx).1
      | _ => exact hx
    · intro d t hp
      rw [SqliteDB.foldl_deleteRecordsOf]
      cases t <;> first | rfl | exact absurd trivial hp
  · -- the records left without a task
    apply h
    · intro d t x hx
      cases t with
      | work_record => exact (Table.mem_deleteNotIn.1 hx).1
      | _ => exact hx
    · intro d t hp
      cases t <;> first | rfl | exact absurd trivial hp

/-- No bind of a row that a chunk copies fails. -/
structure SwitchRc.Binds (rc : SwitchRc) (k : ℕ) : Prop where
  user : (rc.user k).copy.insert.Binds
  devices : (rc.devices k).toPhone.copy.insert.Binds
  template : (rc.work k).template.copy.insert.Binds
  type : (rc.work k).type.copy.insert.Binds
  task : (rc.work k).task.copy.insert.Binds
  record : (rc.work k).record.copy.insert.Binds

end Routines

end MtpSync
