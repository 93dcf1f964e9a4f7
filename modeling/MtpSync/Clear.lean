import MtpSync.Download.Effects
import MtpSync.Fetch

/-!
# Clearing finished tasks

`Synchrodata_clear_record` counts the tasks to clear, selects their ids, and deletes the tasks
and then their records in two transactions.  Its result `ret` is declared a second time inside the
block of the opened file: what the four operations answered stays in the inner one.

- §1 what a clear is for
- §2 what the two deletes leave
- §3 when the answer is true to the file
-/

namespace MtpSync

/-! ## §1 What a clear is for -/

section Spec

variable (range : Window) (d : SqliteDB)

/-- A finished main task of the days chosen. -/
def SqliteDB.Finished (m : SqlRow WorkTaskCol) : Prop :=
  m ∈ d.work_task ∧ m.col .Level = some "0" ∧
    (m.col .State = some "3" ∨ m.col .State = some "6") ∧ range.contains (m.col .CreateDate) = true

/-- A finished main task, or a task of one. -/
def SqliteDB.ToClear (t : SqlRow WorkTaskCol) : Prop :=
  t ∈ d.work_task ∧
    (d.Finished range t ∨ ∃ m, d.Finished range m ∧ t.col .AllId = some m.Id)

/-- A record of a task to clear. -/
def SqliteDB.RecordToClear (x : SqlRow WorkRecordCol) : Prop :=
  ∃ t, d.ToClear range t ∧ x.col .WorkTaskId = some t.Id

/-- Exactly the tasks to clear and their records are gone. -/
structure SqliteDB.ClearedTo (e : SqliteDB) : Prop where
  others : e = { d with work_task := e.work_task, work_record := e.work_record }
  tasks : ∀ t, t ∈ e.work_task ↔ t ∈ d.work_task ∧ ¬d.ToClear range t
  records : ∀ x, x ∈ e.work_record ↔ x ∈ d.work_record ∧ ¬d.RecordToClear range x

/-- `TRUE` with everything cleared, or `FALSE` with the file as it was. -/
def AnswersTruly (ret : Except Halt Bool) (file : DbFile SqliteDB) : Prop :=
  match ret with
  | .ok true => ∃ e, file = .holds e ∧ d.ClearedTo range e
  | .ok false => file = .holds d
  | .error _ => True

/-- The phone's database as a clear finds it. -/
def clearStart (connected gate : Bool) (server : Server) (queue : List MyStmt) : World :=
  ⟨⟨.holds d, none, connected, gate⟩, server, queue⟩

end Spec

variable {range : Window} {d : SqliteDB}

theorem SqliteDB.mem_finishedTasks {i : String} :
    i ∈ d.finishedTasks range ↔ ∃ m, d.Finished range m ∧ m.Id = i := by
  simp only [SqliteDB.finishedTasks, List.mem_map, Table.mem_select, SqliteDB.Finished,
    Bool.and_eq_true, Bool.or_eq_true, Text.eq_iff, and_assoc]

/-- The query selects the tasks to clear. -/
theorem SqliteDB.mem_clearedTasks {i : String} :
    i ∈ d.clearedTasks range ↔ ∃ t, d.ToClear range t ∧ t.Id = i := by
  simp only [SqliteDB.clearedTasks, List.mem_map, Table.mem_select, SqliteDB.ToClear,
    Bool.or_eq_true, Text.isIn_iff, List.contains_iff_mem, mem_finishedTasks]
  constructor
  · rintro ⟨t, ⟨ht, ⟨_, ⟨m, hm, rfl⟩, hall⟩ | ⟨m, hm, hId⟩⟩, rfl⟩
    · exact ⟨t, ⟨ht, .inr ⟨m, hm, hall⟩⟩, rfl⟩
    · -- keys are unique, so it is the task itself that is finished
      exact ⟨t, ⟨ht, .inl (Table.eq_of_Id_eq hm.1 ht hId ▸ hm)⟩, rfl⟩
  · rintro ⟨t, ⟨ht, hfinished | ⟨m, hm, hall⟩⟩, rfl⟩
    · exact ⟨t, ⟨ht, .inr ⟨t, hfinished, rfl⟩⟩, rfl⟩
    · exact ⟨t, ⟨ht, .inl ⟨m.Id, ⟨m, hm, rfl⟩, hall⟩⟩, rfl⟩

/-- A task is to be cleared if its id is selected. -/
theorem SqliteDB.toClear_iff {t : SqlRow WorkTaskCol} (ht : t ∈ d.work_task) :
    d.ToClear range t ↔ t.Id ∈ d.clearedTasks range := by
  rw [mem_clearedTasks]
  constructor
  · exact fun h => ⟨t, h, rfl⟩
  · rintro ⟨t', h, hId⟩
    exact Table.eq_of_Id_eq h.1 ht hId ▸ h

theorem SqliteDB.recordToClear_iff {x : SqlRow WorkRecordCol} :
    d.RecordToClear range x ↔ ∃ i ∈ d.clearedTasks range, x.col .WorkTaskId = some i := by
  simp only [SqliteDB.RecordToClear, mem_clearedTasks]
  constructor
  · rintro ⟨t, ht, hx⟩
    exact ⟨t.Id, ⟨t, ht, rfl⟩, hx⟩
  · rintro ⟨_, ⟨t, ht, rfl⟩, hx⟩
    exact ⟨t, ht, hx⟩

theorem SqliteDB.nodup_clearedTasks : (d.clearedTasks range).Nodup :=
  d.work_task.nodup.sublist (List.filter_sublist.map Row.Id)

/-- A task to clear is not left in a file that is cleared. -/
theorem SqliteDB.ClearedTo.gone {e : SqliteDB} (h : d.ClearedTo range e) {i : String}
    (hi : i ∈ d.clearedTasks range) : i ∉ e.work_task.ids := by
  intro hmem
  obtain ⟨t, ht, rfl⟩ := Table.mem_ids.1 hmem
  obtain ⟨htask, hkept⟩ := (h.tasks t).1 ht
  exact hkept ((toClear_iff htask).2 hi)

/-- The file as it is is cleared if there was nothing to clear. -/
theorem SqliteDB.clearedTo_self_iff : d.ClearedTo range d ↔ d.clearedTasks range = [] := by
  constructor
  · intro h
    apply List.eq_nil_iff_forall_not_mem.2
    intro i hi
    -- a task to clear would have to be gone from the file it is in
    obtain ⟨t, ht, rfl⟩ := mem_clearedTasks.1 hi
    exact h.gone hi (Table.mem_ids.2 ⟨t, ht.1, rfl⟩)
  · intro hnil
    refine ⟨rfl, fun t => ⟨fun ht => ⟨ht, fun h => ?_⟩, fun h => h.1⟩,
      fun x => ⟨fun hx => ⟨hx, fun h => ?_⟩, fun h => h.1⟩⟩
    · rw [toClear_iff ht, hnil] at h
      exact absurd h List.not_mem_nil
    · obtain ⟨i, hi, -⟩ := recordToClear_iff.1 h
      rw [hnil] at hi
      exact absurd hi List.not_mem_nil

/-- `TRUE`, and what the file then holds. -/
theorem answersTruly_holds {e : SqliteDB} :
    AnswersTruly range d (.ok true) (.holds e) ↔ d.ClearedTo range e := by
  constructor
  · rintro ⟨_, he, h⟩
    exact DbFile.holds.inj he ▸ h
  · exact fun h => ⟨e, rfl, h⟩

theorem answersTruly_same :
    AnswersTruly range d (.ok true) (.holds d) ↔ d.clearedTasks range = [] :=
  answersTruly_holds.trans SqliteDB.clearedTo_self_iff

/-! ## §2 The two deletes -/

/-- The file after the deletes of `ids`, as far as they succeed: a delete that fails closes the
connection, and one that succeeds is of the ids that were bound. -/
def SqliteDB.afterDeletes (d : SqliteDB) (ids : List String) (rc : ClearRc) : SqliteDB :=
  if rc.tasks.ok ids.length then
    if rc.records.ok ids.length then
      { d with
        work_task := d.work_task.deleteIds (rc.tasks.bound ids)
        work_record := d.work_record.deleteEqs .WorkTaskId (rc.records.bound ids) }
    else { d with work_task := d.work_task.deleteIds (rc.tasks.bound ids) }
  else d

open Act

/-- The deletes of the selected ids, and the end of the function. -/
theorem clearRows_run {ids : List String} (hne : ids ≠ []) (rc : ClearRc) (gate : Bool)
    (server : Server) (queue : List MyStmt) :
    ∃ w, (do
      let _ ← derefFirst (ids.map some)
      let _ ← onSq (quickInsertData rc.tasks SqliteDB.deleteTask (ids.map some))
      let _ ← onSq (quickInsertData rc.records SqliteDB.deleteRecordsOf (ids.map some))
      deleteAll (ids.map some)
      onSq closeDataBase
      pure true).run (⟨⟨.holds d, none, true, gate⟩, server, queue⟩ : World) = (.ok true, w) ∧
      w.sq.file = .holds (d.afterDeletes ids rc) := by
  obtain ⟨r, hderef⟩ := derefFirst_run hne (⟨⟨.holds d, none, true, gate⟩, server, queue⟩ : World)
  have htasks := quickInsertData_run rc.tasks SqliteDB.deleteTask ids
    (⟨.holds d, none, true, gate⟩ : Sq SqliteDB) rfl
  rw [bind_run_ok hderef]
  unfold SqliteDB.afterDeletes
  by_cases hok : rc.tasks.ok ids.length = true
  · rw [if_pos (by simpa using hok)] at htasks
    rw [bind_run_ok (onSq_run htasks), if_pos hok]
    simp only [DbFile.map_holds, SqliteDB.foldl_deleteTask]
    have hrecords := quickInsertData_run rc.records SqliteDB.deleteRecordsOf ids
      (⟨.holds { d with work_task := d.work_task.deleteIds (rc.tasks.bound ids) }, none, true,
        gate⟩ : Sq SqliteDB) rfl
    -- the tasks are gone, and the records are deleted on the same connection
    by_cases hok' : rc.records.ok ids.length = true
    · rw [if_pos (by simpa using hok')] at hrecords
      rw [bind_run_ok (onSq_run hrecords), bind_run_ok (deleteAll_run ids _), if_pos hok']
      simp only [DbFile.map_holds, SqliteDB.foldl_deleteRecordsOf]
      exact ⟨_, rfl, rfl⟩
    · rw [if_neg (by simpa using hok')] at hrecords
      rw [bind_run_ok (onSq_run hrecords), bind_run_ok (deleteAll_run ids _), if_neg hok']
      exact ⟨_, rfl, rfl⟩
  · -- the connection is gone, and the second delete fails on it
    rw [if_neg (by simpa using hok)] at htasks
    have hrecords := quickInsertData_run rc.records SqliteDB.deleteRecordsOf ids
      (⟨.holds d, none, false, gate⟩ : Sq SqliteDB) rfl
    rw [if_neg (by simp)] at hrecords
    rw [bind_run_ok (onSq_run htasks), bind_run_ok (onSq_run hrecords),
      bind_run_ok (deleteAll_run ids _), if_neg hok]
    exact ⟨_, rfl, rfl⟩

/-- The deletes clear the file if they reach every task to clear, and every record of one. -/
theorem SqliteDB.clearedTo_afterDeletes_iff {ids : List String} {rc : ClearRc}
    (hne : d.clearedTasks range ≠ []) (hsub : ∀ i ∈ ids, i ∈ d.clearedTasks range) :
    d.ClearedTo range (d.afterDeletes ids rc) ↔
      rc.tasks.ok ids.length = true ∧ (∀ i ∈ d.clearedTasks range, i ∈ rc.tasks.bound ids) ∧
        ∀ x ∈ d.work_record, d.RecordToClear range x →
          rc.records.ok ids.length = true ∧
            ∃ i ∈ rc.records.bound ids, x.col .WorkTaskId = some i := by
  have hsubTasks : ∀ i ∈ rc.tasks.bound ids, i ∈ d.clearedTasks range :=
    fun i hi => hsub i (QuickRc.mem_of_mem_bound hi)
  have hsubRecords : ∀ i ∈ rc.records.bound ids, i ∈ d.clearedTasks range :=
    fun i hi => hsub i (QuickRc.mem_of_mem_bound hi)
  -- the tasks that are left, once every id is reached
  have htasks : (∀ i ∈ d.clearedTasks range, i ∈ rc.tasks.bound ids) →
      ∀ t, t ∈ d.work_task.deleteIds (rc.tasks.bound ids) ↔
        t ∈ d.work_task ∧ ¬d.ToClear range t := by
    intro hall t
    rw [Table.mem_deleteIds]
    refine and_congr_right fun ht => not_congr ?_
    rw [toClear_iff ht]
    exact ⟨hsubTasks _, hall _⟩
  constructor
  · intro h
    unfold afterDeletes at h
    by_cases hok : rc.tasks.ok ids.length = true
    · refine ⟨hok, fun i hi => ?_, fun x hx hclear => ?_⟩
      · apply Classical.byContradiction
        intro hni
        obtain ⟨t, ht, rfl⟩ := mem_clearedTasks.1 hi
        refine h.gone hi ?_
        rw [if_pos hok]
        apply Table.mem_ids.2
        split <;> exact ⟨t, Table.mem_deleteIds.2 ⟨ht.1, hni⟩, rfl⟩
      · -- a record to clear is gone, so the second delete has reached it
        by_cases hok' : rc.records.ok ids.length = true
        · rw [if_pos hok, if_pos hok'] at h
          refine ⟨hok', ?_⟩
          apply Classical.byContradiction
          intro hnone
          have hstays : x ∈ d.work_record.deleteEqs .WorkTaskId (rc.records.bound ids) :=
            Table.mem_deleteEqs.2 ⟨hx, fun i hi hId => hnone ⟨i, hi, hId⟩⟩
          exact ((h.records x).1 hstays).2 hclear
        · rw [if_pos hok, if_neg hok'] at h
          exact absurd hclear ((h.records x).1 hx).2
    · -- nothing is deleted, and there is a task to clear
      rw [if_neg hok] at h
      obtain ⟨i, hi⟩ := List.exists_mem_of_ne_nil _ hne
      obtain ⟨t, ht, rfl⟩ := mem_clearedTasks.1 hi
      exact absurd (Table.mem_ids.2 ⟨t, ht.1, rfl⟩) (h.gone hi)
  · rintro ⟨hok, hall, hrecords⟩
    rw [afterDeletes, if_pos hok]
    by_cases hok' : rc.records.ok ids.length = true
    · rw [if_pos hok']
      refine ⟨rfl, htasks hall, fun x => ?_⟩
      rw [Table.mem_deleteEqs]
      refine and_congr_right fun hx => ⟨fun hstays hclear => ?_, fun hkept i hi hId => ?_⟩
      · obtain ⟨i, hi, hId⟩ := (hrecords x hx hclear).2
        exact hstays i hi hId
      · exact hkept (recordToClear_iff.2 ⟨i, hsubRecords i hi, hId⟩)
    · rw [if_neg hok']
      refine ⟨rfl, htasks hall, fun x => ⟨fun hx => ⟨hx, fun hclear => ?_⟩, fun h => h.1⟩⟩
      exact hok' (hrecords x hx hclear).1

/-! ## §3 When the answer is true -/

/-- The two deletes go through, and each task to clear is bound; for the second delete, each that a
record names. -/
structure DeletesReach (range : Window) (d : SqliteDB) (rc : ClearRc) : Prop where
  tasks : rc.tasks.ok (d.clearedTasks range).length = true
  bindTasks : ∀ j < (d.clearedTasks range).length, rc.tasks.bind j 0 = .ok
  records : ∀ x ∈ d.work_record, d.RecordToClear range x →
    rc.records.ok (d.clearedTasks range).length = true ∧
      ∃ j, (d.clearedTasks range)[j]? = x.col .WorkTaskId ∧ rc.records.bind j 0 = .ok

/-- Once the file is open and counted, a clear with something to do must do all of it: the answer
will be `TRUE`, unless it never comes. -/
def ClearDoes (range : Window) (d : SqliteDB) (gate : Bool) (rc : ClearRc) : Prop :=
  gate = true → rc.openDb = true → rc.count.returns = true → d.clearedTasks range ≠ [] →
    rc.count.row = true ∧
      (rc.select.LoopsForever (d.clearedTasks range).length ∨
        rc.select.DeliversAll (d.clearedTasks range).length ∧ DeletesReach range d rc)

/-- With every task to clear selected in its order, the deletes clear the file. -/
private theorem clearedTo_iff_deletesReach {rc : ClearRc} (hne : d.clearedTasks range ≠ []) :
    d.ClearedTo range (d.afterDeletes (d.clearedTasks range) rc) ↔ DeletesReach range d rc := by
  rw [SqliteDB.clearedTo_afterDeletes_iff hne fun _ hi => hi]
  simp only [QuickRc.mem_bound_id]
  constructor
  · rintro ⟨hok, hall, hrecords⟩
    refine ⟨hok, fun j hj => ?_, fun x hx hclear => ?_⟩
    · -- no task is selected twice
      obtain ⟨k, hk, hbind⟩ := hall _ (List.getElem_mem hj)
      obtain ⟨hlt, heq⟩ := List.getElem?_eq_some_iff.1 hk
      obtain rfl := (List.Nodup.getElem_inj_iff SqliteDB.nodup_clearedTasks).1 heq
      exact hbind
    · obtain ⟨hok', i, ⟨j, hj, hbind⟩, hId⟩ := hrecords x hx hclear
      exact ⟨hok', j, hj.trans hId.symm, hbind⟩
  · intro h
    refine ⟨h.tasks, fun i hi => ?_, fun x hx hclear => ?_⟩
    · obtain ⟨j, hj, rfl⟩ := List.mem_iff_getElem.1 hi
      exact ⟨j, List.getElem?_eq_getElem hj, h.bindTasks j hj⟩
    · obtain ⟨hok', j, hj, hbind⟩ := h.records x hx hclear
      obtain ⟨i, -, hId⟩ := SqliteDB.recordToClear_iff.1 hclear
      exact ⟨hok', i, ⟨j, hj.trans hId, hbind⟩, hId⟩

/-- What comes of the select: it never returns, fails, or stores ids of tasks to clear. -/
private theorem fetched_cases (rc : FetchRc) {ids : List String} (hnodup : ids.Nodup) :
    rc.fetched ids ids.length = none ∧ rc.LoopsForever ids.length ∨
    rc.fetched ids ids.length = some none ∧ ¬rc.LoopsForever ids.length ∧
      ¬rc.DeliversAll ids.length ∨
    ∃ stored, rc.fetched ids ids.length = some (some stored) ∧ ¬rc.LoopsForever ids.length ∧
      (rc.DeliversAll ids.length ↔ ∀ i ∈ ids, i ∈ stored) ∧
      (rc.DeliversAll ids.length → stored = ids) := by
  unfold FetchRc.fetched FetchRc.LoopsForever FetchRc.DeliversAll FetchRc.entersLoop
  by_cases henters : (rc.beginPrepare && rc.beginStep && rc.prepare) = true
  · rw [if_pos henters]
    simp only [henters, true_and]
    cases hfetch : fetch ids rc.persists rc.codes ids ids.length with
    | none => exact .inl ⟨rfl, (fetch_eq_none_iff (Nat.le_refl _) (Nat.le_refl _)).1 hfetch⟩
    | some stored =>
      -- a fetch that comes back has not run into errors for ever
      have hends : ¬(rc.persists = true ∧ rc.codes.count true < ids.length) := by
        rw [← fetch_eq_none_iff (Nat.le_refl _) (Nat.le_refl _), hfetch]
        simp
      have hall := fetch_stores_all_iff hnodup hfetch
      by_cases hcommit : (rc.commitPrepare && rc.commitStep) = true
      · refine .inr (.inr ⟨stored, by simp [hcommit], hends, ?_, fun h => ?_⟩)
        · rw [hall]
          exact ⟨fun h => h.1, fun h => ⟨h, hcommit⟩⟩
        · exact fetch_eq_rows hfetch h.1
      · exact .inr (.inl ⟨by simp [hcommit], hends, fun h => hcommit h.2⟩)
  · rw [if_neg henters]
    exact .inr (.inl ⟨rfl, fun h => henters h.1, fun h => henters h.1⟩)

/-- With something to clear, the part behind the count answers truly if it never comes back from the
select, or is told of every task and its deletes succeed. -/
private theorem clearSelected_answers (rc : ClearRc) (server : Server) (queue : List MyStmt)
    (hnil : d.clearedTasks range ≠ []) {m : Act World Bool}
    (hm : m = do
      match ← onSq (quickSelectData rc.select (SqliteDB.clearedTasks range)
          (d.clearedTasks range).length) with
      | some ppAryData => do
        let slots := ptrArray (d.clearedTasks range).length ppAryData
        let _ ← derefFirst slots
        let _ ← onSq (quickInsertData rc.tasks SqliteDB.deleteTask slots)
        let _ ← onSq (quickInsertData rc.records SqliteDB.deleteRecordsOf slots)
        deleteAll slots
      | none => pure ()
      onSq closeDataBase
      pure true) :
    AnswersTruly range d (m.run ⟨⟨.holds d, none, true, false⟩, server, queue⟩).1
        (m.run ⟨⟨.holds d, none, true, false⟩, server, queue⟩).2.sq.file ↔
      rc.select.LoopsForever (d.clearedTasks range).length ∨
        rc.select.DeliversAll (d.clearedTasks range).length ∧ DeletesReach range d rc := by
  have hpos : 0 < (d.clearedTasks range).length := List.length_pos_iff.2 hnil
  have hselect := quickSelectData_run rc.select (SqliteDB.clearedTasks range)
    (d.clearedTasks range).length (⟨.holds d, none, true, false⟩ : Sq SqliteDB) rfl rfl rfl
  rw [hm]
  rcases fetched_cases rc.select SqliteDB.nodup_clearedTasks with
    ⟨hfetch, hloops⟩ | ⟨hfetch, hends, hpart⟩ | ⟨stored, hfetch, hends, hall, hself⟩
  · rw [hfetch] at hselect
    -- the select never comes back, and neither does the answer
    rw [bind_run_error (onSq_run hselect)]
    exact iff_of_true trivial (.inl hloops)
  · rw [hfetch] at hselect
    rw [bind_run_ok (onSq_run hselect)]
    -- the select fails: nothing is deleted, and the answer is `TRUE` all the same
    refine iff_of_false (fun h => hnil (answersTruly_same.1 h)) fun h => ?_
    rcases h with hloops | ⟨hdelivers, -⟩
    · exact hends hloops
    · exact hpart hdelivers
  · rw [hfetch] at hselect
    rw [bind_run_ok (onSq_run hselect)]
    dsimp only
    obtain ⟨hsub, hlen⟩ := FetchRc.fetched_some hfetch
    have hne : stored ≠ [] := List.length_pos_iff.1 (by omega)
    obtain ⟨w, hrun, hfile⟩ := clearRows_run hne rc false server queue
    rw [← hlen, ptrArray_full]
    rw [hrun]
    dsimp only
    rw [hfile, answersTruly_holds, hlen, or_iff_right hends]
    by_cases hdelivers : rc.select.DeliversAll (d.clearedTasks range).length
    · rw [hself hdelivers, clearedTo_iff_deletesReach hnil]
      exact ⟨fun h => ⟨hdelivers, h⟩, fun h => h.2⟩
    · -- a task is not selected, and stays
      refine iff_of_false (fun h => hdelivers (hall.2 fun i hi => ?_)) fun h => hdelivers h.1
      exact QuickRc.mem_of_mem_bound
        (((SqliteDB.clearedTo_afterDeletes_iff hnil hsub).1 h).2.1 i hi)

/-- **`Synchrodata_clear_record` answers truly** if it does not open or count the file, if there is
nothing to clear, or if it is told of every task and its deletes reach all of them; in all other
cases it answers `TRUE` and rows that should have gone are left. -/
theorem clear_answers_truly_iff (range : Window) (rc : ClearRc) (d : SqliteDB)
    (connected gate : Bool) (server : Server) (queue : List MyStmt) :
    AnswersTruly range d
        ((synchrodataClearRecord range rc).run (clearStart d connected gate server queue)).1
        ((synchrodataClearRecord range rc).run
          (clearStart d connected gate server queue)).2.sq.file ↔
      ClearDoes range d gate rc := by
  unfold synchrodataClearRecord clearStart ClearDoes
  rw [bind_run_ok (read_run _), if_neg (by simp [DbFile.pathFileExists])]
  cases gate with
  -- the gate is never released
  | false => exact ⟨fun _ h => absurd h (by decide), fun _ => trivial⟩
  | true =>
    cases hopen : rc.openDb with
    | false => exact ⟨fun _ _ h => absurd h (by decide), fun _ => rfl⟩
    | true =>
      have hopened : (onSq (openDataBase true)).run
          (⟨⟨.holds d, none, connected, true⟩, server, queue⟩ : World) =
          (.ok true, ⟨⟨.holds d, none, true, false⟩, server, queue⟩) := rfl
      rw [bind_run_ok hopened, if_pos rfl]
      cases hret : rc.count.returns with
      | false =>
        obtain ⟨c, hcount⟩ := quickSelectDataCount_false rc.count
          (fun d : SqliteDB => (d.clearedTasks range).length) 0
          (⟨.holds d, none, true, false⟩ : Sq SqliteDB) rfl (by rw [hret, Bool.and_false])
        rw [bind_run_ok (onSq_run hcount)]
        exact ⟨fun _ _ _ h => absurd h (by decide), fun _ => rfl⟩
      | true =>
        have hcount := quickSelectDataCount_true rc.count
          (fun d : SqliteDB => (d.clearedTasks range).length) 0
          (⟨.holds d, none, true, false⟩ : Sq SqliteDB) rfl rfl rfl hret
        rw [bind_run_ok (onSq_run hcount)]
        dsimp only
        rw [if_pos rfl]
        simp only [forall_const]
        by_cases hnil : d.clearedTasks range = []
        · -- nothing to clear, and nothing is done
          refine ⟨fun _ hne => absurd hnil hne, fun _ => ?_⟩
          have hzero : (if rc.count.row then (d.clearedTasks range).length else 0) = 0 := by
            rw [hnil]
            simp
          rw [hzero, if_neg (Nat.lt_irrefl 0)]
          exact answersTruly_same.2 hnil
        · cases hrow : rc.count.row with
          -- the count has failed: zero, and so nothing is done
          | false =>
            refine ⟨fun h => absurd (answersTruly_same.1 h) hnil, fun h => ?_⟩
            exact absurd (h hnil).1 (by decide)
          | true =>
            have hpos : 0 < (d.clearedTasks range).length := List.length_pos_iff.2 hnil
            rw [if_pos rfl, if_pos hpos]
            exact (clearSelected_answers rc server queue hnil rfl).trans
              ⟨fun h _ => ⟨rfl, h⟩, fun h => (h hnil).2⟩

/-- A finished main task. -/
def finishedTask : SqlRow WorkTaskCol where
  Id := "task"
  col
    | .Level => some "0"
    | .State => some "3"
    | .CreateDate => some "2018-06-11"
    | _ => none

/-- A phone with that task. -/
def oneFinished : SqliteDB := { SqliteDB.empty with work_task := ⟨[finishedTask], by decide⟩ }

/-- The transaction that deletes the tasks is not committed. -/
def ClearRc.tasksFail : ClearRc :=
  { ClearRc.allOk with tasks := { QuickRc.allOk with commitStep := false } }

/-- Then the answer is `TRUE`, and the task is still there. -/
theorem clear_untrue_when_delete_fails :
    ¬AnswersTruly ⟨"2018-06-01", "2018-06-30"⟩ oneFinished
      ((synchrodataClearRecord ⟨"2018-06-01", "2018-06-30"⟩ .tasksFail).run
        (clearStart oneFinished false true ⟨MysqlDB.empty, []⟩ [])).1
      ((synchrodataClearRecord ⟨"2018-06-01", "2018-06-30"⟩ .tasksFail).run
        (clearStart oneFinished false true ⟨MysqlDB.empty, []⟩ [])).2.sq.file := by
  intro h
  have htasks : oneFinished.clearedTasks ⟨"2018-06-01", "2018-06-30"⟩ = ["task"] := by
    decide +kernel
  have hsame : AnswersTruly ⟨"2018-06-01", "2018-06-30"⟩ oneFinished (.ok true)
      (.holds oneFinished) := h
  rw [answersTruly_same, htasks] at hsame
  cases hsame

end MtpSync
