import MtpSync.Lib.Passes
import MtpSync.Download.Succeeds
import Mathlib.Data.List.TakeWhile

/-!
# Chunks and one pass

The tasks' block of a sync to the phone cuts the selected devices into chunks and runs its
routines once for each.  Every chunk deletes tasks again, and what it deletes has nothing to do
with its devices: new tasks of earlier chunks may be among them.

- §1 the chunks are the ids
- §2 what the first chunk leaves to delete
- §3 the runs
- §4 templates, types and tasks
- §5 records
- §6 marks
- §7 the chunks end as one pass does
-/

namespace MtpSync

open Act

/-! ## §1 The chunks are the ids -/

mutual

/-- No device has an empty id. -/
theorem findChildTypeID_ne_empty : ∀ item : TreeItem, "" ∉ findChildTypeID item
  | .item id idType children => by
    rw [findChildTypeID, List.mem_append, not_or]
    refine ⟨?_, findChildrenTypeID_ne_empty children⟩
    by_cases h : idType = "" <;> simp [h, eq_comm]

private theorem findChildrenTypeID_ne_empty :
    ∀ items : List TreeItem, "" ∉ findChildrenTypeID items
  | [] => by simp [findChildrenTypeID]
  | item :: items => by
    rw [findChildrenTypeID, List.mem_append, not_or]
    exact ⟨findChildTypeID_ne_empty item, findChildrenTypeID_ne_empty items⟩

end

/-- Without empty texts a chunk is the next twenty. -/
private theorem getArrayItemsLoop_succ (n : ℕ) {rest : List String} (h : "" ∉ rest) :
    getArrayItemsLoop (n + 1) rest =
      rest.take MAXARRAYSIZE :: getArrayItemsLoop n (rest.drop MAXARRAYSIZE) := by
  have hchunk : ((rest.take MAXARRAYSIZE).takeWhile fun i => i ≠ "") =
      rest.take MAXARRAYSIZE := by
    rw [List.takeWhile_eq_self_iff]
    refine fun i hi => decide_eq_true fun hempty => ?_
    exact h (hempty ▸ List.mem_of_mem_take hi)
  have hdrop : rest.drop (rest.take MAXARRAYSIZE).length = rest.drop MAXARRAYSIZE := by
    rw [List.length_take, ← List.drop_eq_drop_min]
  rw [getArrayItemsLoop, hchunk, hdrop]

private theorem getArrayItemsLoop_flatten (n : ℕ) {rest : List String} (h : "" ∉ rest) :
    (getArrayItemsLoop n rest).flatten = rest.take (n * MAXARRAYSIZE) := by
  induction n generalizing rest with
  | zero => simp [getArrayItemsLoop]
  | succ n ih =>
    have hrest : "" ∉ rest.drop MAXARRAYSIZE := fun hmem => h (List.mem_of_mem_drop hmem)
    rw [getArrayItemsLoop_succ n h, List.flatten_cons, ih hrest, Nat.succ_mul, Nat.add_comm,
      List.take_add]

/-- Every chunk of the loop has ids. -/
private theorem getArrayItemsLoop_ne_nil (n : ℕ) {rest : List String} (h : "" ∉ rest)
    (hlen : (n - 1) * MAXARRAYSIZE < rest.length) :
    ∀ chunk ∈ getArrayItemsLoop n rest, chunk ≠ [] := by
  induction n generalizing rest with
  | zero => simp [getArrayItemsLoop]
  | succ n ih =>
    have hrest : "" ∉ rest.drop MAXARRAYSIZE := fun hmem => h (List.mem_of_mem_drop hmem)
    rw [getArrayItemsLoop_succ n h, List.forall_mem_cons]
    constructor
    · intro hnil
      have := congrArg List.length hnil
      rw [List.length_take, MAXARRAYSIZE, List.length_nil] at this
      omega
    · cases n with
      | zero => simp [getArrayItemsLoop]
      | succ n =>
        refine ih hrest ?_
        rw [List.length_drop]
        rw [MAXARRAYSIZE] at hlen ⊢
        omega

/-- How many chunks there are. -/
private theorem chunkCount_mul (m : ℕ) (hm : 0 < m) :
    m ≤ (m / MAXARRAYSIZE + if m % MAXARRAYSIZE = 0 then 0 else 1) * MAXARRAYSIZE ∧
    ((m / MAXARRAYSIZE + if m % MAXARRAYSIZE = 0 then 0 else 1) - 1) * MAXARRAYSIZE < m := by
  rw [MAXARRAYSIZE]
  split <;> omega

/-- **The chunks are the ids**, in their order. -/
theorem getArrayItems_flatten {ids : List String} (h : "" ∉ ids) :
    (getArrayItems ids).flatten = ids := by
  rcases Nat.eq_zero_or_pos ids.length with hlen | hlen
  · rw [List.length_eq_zero_iff.1 hlen]
    rfl
  · rw [getArrayItems, getArrayItemsLoop_flatten _ h]
    exact List.take_of_length_le (chunkCount_mul ids.length hlen).1

/-- No chunk is empty. -/
theorem ne_nil_of_mem_getArrayItems {ids chunk : List String} (h : "" ∉ ids)
    (hchunk : chunk ∈ getArrayItems ids) : chunk ≠ [] := by
  rcases Nat.eq_zero_or_pos ids.length with hlen | hlen
  · rw [List.length_eq_zero_iff.1 hlen] at hchunk
    exact absurd hchunk List.not_mem_nil
  · exact getArrayItemsLoop_ne_nil _ h (chunkCount_mul ids.length hlen).2 chunk hchunk

/-! ## §2 What the first chunk leaves to delete -/

/-- The server's deletes of tasks, one after the other. -/
private theorem execAll_deleteTaskStmts (ids : List String) (db : MysqlDB) :
    db.execAll (ids.flatMap deleteTaskStmts) =
      { db with
        work_task := db.work_task.deleteIds ids
        work_record := db.work_record.deleteEqs .WorkTaskId ids } := by
  induction ids generalizing db with
  | nil => rfl
  | cons i ids ih =>
    rw [List.flatMap_cons, MysqlDB.execAll_append, ih]
    rfl

section Left

variable (win : Window) (db : MysqlDB)

/-- What the server has left after the hard deletes, which all succeed. -/
theorem allOk_left : (TaskToPhoneRc.allOk win).left db =
    { db with
      work_task := db.work_task.deleteIds (db.deletedTasks "3")
      work_record := db.work_record.deleteEqs .WorkTaskId (db.deletedTasks "3") } := by
  have hids : (TaskToPhoneRc.allOk win).ids3 db = db.deletedTasks "3" := rfl
  have hok : ∀ j, (TaskToPhoneRc.allOk win).update3 j = true := fun _ => rfl
  rw [TaskToPhoneRc.left, TaskToPhoneRc.hardDeletes, Batch.served_of_ok hok, hids,
    execAll_deleteTaskStmts]

/-- The main tasks in a state, after the hard deletes. -/
private theorem mem_mainTasks_left {state i : String} :
    i ∈ ((TaskToPhoneRc.allOk win).left db).mainTasks state ↔
      i ∈ db.mainTasks state ∧ i ∉ db.deletedTasks "3" := by
  rw [allOk_left, MysqlDB.mainTasks, MysqlDB.mainTasks]
  simp only [List.mem_map, Table.mem_select, Table.mem_deleteIds]
  constructor
  · rintro ⟨r, ⟨⟨hr, hno⟩, hstate⟩, rfl⟩
    exact ⟨⟨r, ⟨hr, hstate⟩, rfl⟩, hno⟩
  · rintro ⟨⟨r, ⟨hr, hstate⟩, rfl⟩, hno⟩
    exact ⟨r, ⟨⟨hr, hno⟩, hstate⟩, rfl⟩

/-- What is deleted after the hard deletes was to be deleted before. -/
private theorem mem_deletedTasks_left {state i : String}
    (h : i ∈ ((TaskToPhoneRc.allOk win).left db).deletedTasks state) :
    i ∈ db.deletedTasks state ∧ i ∉ db.deletedTasks "3" := by
  obtain ⟨r, hr, rfl⟩ := List.mem_map.1 h
  rw [Table.mem_select] at hr
  obtain ⟨hr, hdel⟩ := hr
  have hmem : r ∈ db.work_task ∧ r.Id ∉ db.deletedTasks "3" := by
    rwa [allOk_left, Table.mem_deleteIds] at hr
  have hdevices : ((TaskToPhoneRc.allOk win).left db).device_info.ids = db.device_info.ids := by
    rw [allOk_left]
  refine ⟨List.mem_map_of_mem (Table.mem_select.2 ⟨hmem.1, ?_⟩), hmem.2⟩
  rw [hdevices] at hdel
  simp only [Bool.or_eq_true] at hdel ⊢
  rcases hdel with (hsub | hself) | hdevice
  · exact .inl (.inl (Text.isIn_mono hsub fun i hi => ((mem_mainTasks_left win db).1 hi).1))
  · refine .inl (.inr ?_)
    rw [List.contains_iff_mem] at hself ⊢
    exact ((mem_mainTasks_left win db).1 hself).1
  · exact .inr hdevice

/-- **The hard deletes are done once**: they leave nothing to delete for real. -/
theorem deletedTasks_left : ((TaskToPhoneRc.allOk win).left db).deletedTasks "3" = [] :=
  List.eq_nil_iff_forall_not_mem.2 fun _ hi =>
    (mem_deletedTasks_left win db hi).2 (mem_deletedTasks_left win db hi).1

private theorem hardDeletes_left :
    (TaskToPhoneRc.allOk win).hardDeletes ((TaskToPhoneRc.allOk win).left db) = [] := by
  have hids : (TaskToPhoneRc.allOk win).ids3 ((TaskToPhoneRc.allOk win).left db) = [] :=
    deletedTasks_left win db
  rw [TaskToPhoneRc.hardDeletes, hids, List.flatMap_nil, Batch.served_nil]

theorem left_left : (TaskToPhoneRc.allOk win).left ((TaskToPhoneRc.allOk win).left db) =
    (TaskToPhoneRc.allOk win).left db := by
  rw [TaskToPhoneRc.left, hardDeletes_left]
  rfl

end Left

/-! ## §3 The runs -/

/-- What the chunks after the first make of the file. -/
def SqliteDB.afterChunks (win : Window) (db : MysqlDB) (d : SqliteDB)
    (chunks : List (List String)) : SqliteDB :=
  chunks.foldl (fun e ids => e.afterChunk win ids db) d

section Runs

variable (win : Window) (server : Server) (d : SqliteDB) (queue : List MyStmt)

/-- The chunks from some on, once the hard deletes are done. -/
private theorem forChunks_run_left {db : MysqlDB}
    (hserver : server.db = (TaskToPhoneRc.allOk win).left db) (k : ℕ)
    {chunks : List (List String)} (hne : ∀ chunk ∈ chunks, chunk ≠ []) :
    (forChunks (fun _ ids => workChunk .tongbu_to_phone (WorkRc.allOk win) ids) k chunks).run
      (World.closed d server queue) =
    (.ok true, World.closed (d.afterChunks win server.db chunks) server
      (queue ++ chunks.flatMap fun ids => server.db.chunkMarks win ids)) := by
  induction chunks generalizing d queue k with
  | nil =>
    rw [List.flatMap_nil, List.append_nil]
    rfl
  | cons ids chunks ih =>
    rw [List.forall_mem_cons] at hne
    -- the hard deletes of the first chunk have left none for the later ones
    have hhard : server.execAll ((TaskToPhoneRc.allOk win).hardDeletes server.db) = server := by
      rw [hserver, hardDeletes_left]
      rfl
    have hchunk := workChunk_run_ok win ids d server queue
    rw [hhard] at hchunk
    -- this chunk, and the rest from what it leaves
    rw [forChunks, if_neg hne.1]
    refine (bind_run_ok hchunk).trans ((bind_run_ok (ih _ _ _ hne.2)).trans ?_)
    rw [List.flatMap_cons, List.append_assoc]
    rfl

/-- The first chunk queues what it would queue after the hard deletes. -/
private theorem chunkMarks_left (ids : List String) (db : MysqlDB) :
    ((TaskToPhoneRc.allOk win).left db).chunkMarks win ids = db.chunkMarks win ids := by
  have htemplates : ((TaskToPhoneRc.allOk win).left db).newTemplates win ids =
      db.newTemplates win ids := by
    rw [allOk_left]
    rfl
  have htypes : ((TaskToPhoneRc.allOk win).left db).newWorkTypes win ids =
      db.newWorkTypes win ids := by
    rw [allOk_left]
    rfl
  rw [MysqlDB.chunkMarks, MysqlDB.chunkMarks, left_left, htemplates, htypes]

/-- The queue of a block. -/
def MysqlDB.blockMarks (win : Window) (db : MysqlDB) (chunks : List (List String)) :
    List MyStmt :=
  chunks.flatMap fun ids => ((TaskToPhoneRc.allOk win).left db).chunkMarks win ids

/-- The file of a block. -/
def SqliteDB.afterBlock (win : Window) (db : MysqlDB) (d : SqliteDB) :
    List (List String) → SqliteDB
  | [] => d
  | ids :: chunks =>
    (d.afterChunk win ids db).afterChunks win ((TaskToPhoneRc.allOk win).left db) chunks

/-- **The chunks** when every call succeeds. -/
private theorem forChunks_run_ok (db : MysqlDB) {chunks : List (List String)}
    (hchunks : chunks ≠ []) (hne : ∀ chunk ∈ chunks, chunk ≠ []) :
    ∃ log, (forChunks (fun _ ids => workChunk .tongbu_to_phone (WorkRc.allOk win) ids) 0
        chunks).run (World.closed d ⟨db, []⟩ []) =
      (.ok true, World.closed (d.afterBlock win db chunks)
        ⟨(TaskToPhoneRc.allOk win).left db, log⟩ (db.blockMarks win chunks)) := by
  obtain ⟨ids, chunks, rfl⟩ := List.exists_cons_of_ne_nil hchunks
  rw [List.forall_mem_cons] at hne
  have hserver : ((⟨db, []⟩ : Server).execAll ((TaskToPhoneRc.allOk win).hardDeletes db)).db =
      (TaskToPhoneRc.allOk win).left db := Server.execAll_db _ _
  refine ⟨((⟨db, []⟩ : Server).execAll ((TaskToPhoneRc.allOk win).hardDeletes db)).executed, ?_⟩
  rw [forChunks, if_neg hne.1]
  refine (bind_run_ok (workChunk_run_ok win ids d ⟨db, []⟩ [])).trans ?_
  refine (bind_run_ok (forChunks_run_left win _ _ _ hserver _ hne.2)).trans ?_
  have hstate : (⟨db, []⟩ : Server).execAll ((TaskToPhoneRc.allOk win).hardDeletes db) =
      ⟨(TaskToPhoneRc.allOk win).left db,
        ((⟨db, []⟩ : Server).execAll ((TaskToPhoneRc.allOk win).hardDeletes db)).executed⟩ := by
    rw [← hserver]
  rw [hserver, ← chunkMarks_left, ← hstate]
  rfl

/-- The chunks and then the queue, from the start of the block on. -/
def inChunks (routine : ℕ → List String → Act World Bool) (update : ℕ → Bool)
    (chunks : List (List String)) : Act World Bool := do
  removeAll
  let ret ← forChunks routine 0 chunks
  let ret' ← updateQueued update
  pure (ret && ret')

/-- **The block** when every call succeeds. -/
private theorem inChunks_run_ok (db : MysqlDB) {chunks : List (List String)}
    (hchunks : chunks ≠ []) (hne : ∀ chunk ∈ chunks, chunk ≠ []) :
    ∃ log, (inChunks (fun _ ids => workChunk .tongbu_to_phone (WorkRc.allOk win) ids)
        (fun _ => true) chunks).run (World.fresh d db) =
      (.ok true, World.closed (d.afterBlock win db chunks)
        ⟨((TaskToPhoneRc.allOk win).left db).execAll (db.blockMarks win chunks), log⟩
        (db.blockMarks win chunks)) := by
  obtain ⟨log, hrun⟩ := forChunks_run_ok win d db hchunks hne
  have hremoved : removeAll.run (World.fresh d db) = (.ok (), World.closed d ⟨db, []⟩ []) := rfl
  refine ⟨log ++ db.blockMarks win chunks, ?_⟩
  unfold inChunks
  refine (bind_run_ok hremoved).trans ((bind_run_ok hrun).trans ?_)
  refine (bind_run_ok (updateQueued_run _ _)).trans ?_
  have hstate : (⟨(TaskToPhoneRc.allOk win).left db, log⟩ : Server).execAll
      (db.blockMarks win chunks) =
      ⟨((TaskToPhoneRc.allOk win).left db).execAll (db.blockMarks win chunks),
        log ++ db.blockMarks win chunks⟩ := by
    rw [← Server.execAll_db ⟨_, log⟩, ← Server.execAll_executed ⟨_, log⟩]
  rw [Batch.served_of_ok fun _ => rfl, Batch.reported_of_ok fun _ => rfl, ← hstate]
  rfl

end Runs

/-! ## §4 Templates, types and tasks -/

/-- The rows of a table. -/
def Table.rowSet {C : Type} (t : SqlTable C) : Set (SqlRow C) := {x | x ∈ t}

/-- A query for the rows of some devices, and what becomes of a row. -/
structure DeviceQuery (C : Type) where
  server : MysqlDB → SqlTable C
  ofDevices : List String → SqlRow C → MysqlDB → Bool
  toPhone : SqlRow C → SqlRow C
  toPhone_Id : ∀ r, (toPhone r).Id = r.Id
  /-- the devices of several chunks are the devices of some chunk -/
  flatten : ∀ (chunks : List (List String)) (r : SqlRow C) (db : MysqlDB),
    ofDevices chunks.flatten r db = true ↔ ∃ ids ∈ chunks, ofDevices ids r db = true

namespace DeviceQuery

variable {C : Type} (T : DeviceQuery C) (db : MysqlDB)

/-- The rows of some devices. -/
def selected (ids : List String) : List (SqlRow C) :=
  (T.server db).select fun r => T.ofDevices ids r db

/-- The rows of some devices, as they go to the phone. -/
def rows (ids : List String) : List (SqlRow C) := (T.selected db ids).map T.toPhone

/-- The rows of some devices, as they go to the phone. -/
def news (ids : List String) : Set (SqlRow C) := {x | x ∈ T.rows db ids}

variable {T db}

theorem mem_news {ids : List String} {x : SqlRow C} :
    x ∈ T.news db ids ↔ ∃ r ∈ T.server db, T.ofDevices ids r db = true ∧ T.toPhone r = x := by
  simp [news, rows, selected, and_assoc]

/-- The rows of the devices of several chunks. -/
theorem mem_selected_flatten {chunks : List (List String)} {r : SqlRow C} :
    r ∈ T.selected db chunks.flatten ↔ ∃ ids ∈ chunks, r ∈ T.selected db ids := by
  simp only [selected, Table.mem_select, T.flatten]
  constructor
  · rintro ⟨hr, ids, hids, hdev⟩
    exact ⟨ids, hids, hr, hdev⟩
  · rintro ⟨ids, hids, hr, hdev⟩
    exact ⟨hr, ids, hids, hdev⟩

/-- The keys of the rows stay distinct. -/
theorem rows_nodup (ids : List String) : ((T.rows db ids).map Row.Id).Nodup := by
  have hId : (T.rows db ids).map Row.Id = (T.selected db ids).map Row.Id := by
    rw [rows, List.map_map]
    exact List.map_congr_left fun r _ => T.toPhone_Id r
  rw [hId]
  exact (T.server db).nodup.sublist (List.filter_sublist.map Row.Id)

/-- The key of a row tells which row of the server it is. -/
theorem eq_of_toPhone_Id {r r' : SqlRow C} (hr : r ∈ T.server db) (hr' : r' ∈ T.server db)
    (hId : (T.toPhone r).Id = (T.toPhone r').Id) : r = r' := by
  rw [T.toPhone_Id, T.toPhone_Id] at hId
  exact Table.eq_of_Id_eq hr hr' hId

theorem injOn_all (chunks : List (List String)) :
    Set.InjOn Row.Id (Passes.all (T.news db) chunks) := by
  rintro x ⟨ids, -, hx⟩ y ⟨ids', -, hy⟩ hId
  obtain ⟨r, hr, -, rfl⟩ := mem_news.1 hx
  obtain ⟨r', hr', -, rfl⟩ := mem_news.1 hy
  rw [eq_of_toPhone_Id hr hr' hId]

/-- The chunks copy what a single chunk copies. -/
theorem all_news (chunks : List (List String)) :
    Passes.all (T.news db) chunks = T.news db chunks.flatten := by
  ext x
  constructor
  · rintro ⟨ids, hids, hx⟩
    obtain ⟨r, hr, hdev, rfl⟩ := mem_news.1 hx
    exact mem_news.2 ⟨r, hr, (T.flatten chunks r db).2 ⟨ids, hids, hdev⟩, rfl⟩
  · intro hx
    obtain ⟨r, hr, hdev, rfl⟩ := mem_news.1 hx
    obtain ⟨ids, hids, hdev⟩ := (T.flatten chunks r db).1 hdev
    exact ⟨ids, hids, mem_news.2 ⟨r, hr, hdev, rfl⟩⟩

theorem mem_replaceAll_rows {t : SqlTable C} {ids : List String} {x : SqlRow C} :
    x ∈ t.replaceAll (T.rows db ids) ↔
      x ∈ T.news db ids ∨ x ∈ t ∧ ∀ y ∈ T.news db ids, y.Id ≠ x.Id := by
  rw [Table.mem_replaceAll (rows_nodup ids)]
  simp [news]

/-- A copy, with a delete after it, is a pass. -/
theorem refreshed_rowSet (t : SqlTable C) (ids dels : List String) :
    (t.refreshed (T.rows db ids) dels).rowSet =
      Passes.pass Row.Id ∅ {x | x.Id ∈ dels} t.rowSet (T.news db ids) := by
  ext x
  rw [Table.rowSet, Set.mem_ofPred_eq, Table.refreshed, Table.mem_deleteIds, mem_replaceAll_rows]
  simp [Passes.pass, Table.rowSet]

/-- A copy, with a delete before it, is a pass. -/
theorem replaceAll_rowSet {t : SqlTable C} {S P : Set (SqlRow C)}
    (ht : ∀ x, x ∈ t ↔ x ∈ S ∧ x ∉ P) (ids : List String) :
    (t.replaceAll (T.rows db ids)).rowSet =
      Passes.pass Row.Id P ∅ S (T.news db ids) := by
  ext x
  rw [Table.rowSet, Set.mem_ofPred_eq, mem_replaceAll_rows, ht]
  simp [Passes.pass, and_assoc]

end DeviceQuery

section Flatten

variable {chunks : List (List String)}

theorem Text.isIn_flatten {v : Text} :
    v.isIn chunks.flatten = true ↔ ∃ ids ∈ chunks, v.isIn ids = true := by
  simp only [Text.isIn_iff, List.mem_flatten]
  constructor
  · rintro ⟨t, ⟨ids, hids, ht⟩, rfl⟩
    exact ⟨ids, hids, t, ht, rfl⟩
  · rintro ⟨ids, hids, t, ht, rfl⟩
    exact ⟨t, ⟨ids, hids, ht⟩, rfl⟩

end Flatten

/-- The templates of some devices. -/
def templateQuery (win : Window) : DeviceQuery WorkTemplateCol where
  server db := db.work_template
  ofDevices ids te db :=
    ((te.col .SynchronState).eq "0" || (te.col .SynchronState).eq "1") &&
      (db.work_type.rows.any fun tk =>
        (tk.col .DeviceId).isIn ids && win.contains (tk.col .CreateDate) &&
          (te.col .WorkTypeId).eq tk.Id)
  toPhone := Row.read
  toPhone_Id _ := rfl
  flatten chunks te db := by
    simp only [Bool.and_eq_true, List.any_eq_true, Text.isIn_flatten]
    constructor
    · rintro ⟨hstate, tk, htk, ⟨⟨ids, hids, hdev⟩, hwin⟩, htype⟩
      exact ⟨ids, hids, hstate, tk, htk, ⟨hdev, hwin⟩, htype⟩
    · rintro ⟨ids, hids, hstate, tk, htk, ⟨hdev, hwin⟩, htype⟩
      exact ⟨hstate, tk, htk, ⟨⟨ids, hids, hdev⟩, hwin⟩, htype⟩

/-- The types of some devices. -/
def typeQuery (win : Window) : DeviceQuery WorkTypeCol where
  server db := db.work_type
  ofDevices ids r _ := (r.col .SynchronState).eq "0" && win.contains (r.col .CreateDate) &&
    (r.col .DeviceId).isIn ids
  toPhone := Row.read
  toPhone_Id _ := rfl
  flatten chunks r _ := by
    simp only [Bool.and_eq_true, Text.isIn_flatten]
    constructor
    · rintro ⟨hnew, ids, hids, hdev⟩
      exact ⟨ids, hids, hnew, hdev⟩
    · rintro ⟨ids, hids, hnew, hdev⟩
      exact ⟨hnew, ids, hids, hdev⟩

/-- The tasks of some devices. -/
def taskQuery (win : Window) : DeviceQuery WorkTaskCol where
  server db := db.work_task
  ofDevices ids r _ := (r.col .DeviceId).isIn ids && (r.col .SynchronState).eq "0" &&
    (r.col .State).ne "0" && win.contains (r.col .CreateDate)
  toPhone := taskToPhone
  toPhone_Id _ := rfl
  flatten chunks r _ := by
    simp only [Bool.and_eq_true, Text.isIn_flatten]
    constructor
    · rintro ⟨⟨⟨⟨ids, hids, hdev⟩, hnew⟩, hstate⟩, hwin⟩
      exact ⟨ids, hids, ⟨⟨hdev, hnew⟩, hstate⟩, hwin⟩
    · rintro ⟨ids, hids, ⟨⟨hdev, hnew⟩, hstate⟩, hwin⟩
      exact ⟨⟨⟨⟨ids, hids, hdev⟩, hnew⟩, hstate⟩, hwin⟩

/-- **A block is passes** on each of its tables. -/
private theorem rowSet_afterBlock {C : Type} {win : Window} {db : MysqlDB} {d : SqliteDB}
    (T : SqliteDB → SqlTable C) {P Q base : Set (SqlRow C)} {news : List String → Set (SqlRow C)}
    (hfirst : ∀ ids, (T (d.afterChunk win ids db)).rowSet = Passes.pass Row.Id P Q base (news ids))
    (hlater : ∀ e ids, (T (e.afterChunk win ids ((TaskToPhoneRc.allOk win).left db))).rowSet =
      Passes.pass Row.Id P Q (T e).rowSet (news ids))
    {chunks : List (List String)} (hchunks : chunks ≠ []) :
    (T (d.afterBlock win db chunks)).rowSet =
      chunks.foldl (fun S ids => Passes.pass Row.Id P Q S (news ids)) base := by
  obtain ⟨ids, chunks, rfl⟩ := List.exists_cons_of_ne_nil hchunks
  rw [SqliteDB.afterBlock, List.foldl_cons, ← hfirst, SqliteDB.afterChunks]
  exact (List.foldl_hom (fun e => (T e).rowSet) fun e ids => (hlater e ids).symm).symm

section Tables

variable {win : Window} {db : MysqlDB} {d : SqliteDB} {chunks : List (List String)}

/-- Where a chunk copies and then deletes, and does not look at tasks, cutting the devices into
chunks makes no difference. -/
private theorem refreshed_afterBlock {C : Type} (T : SqliteDB → SqlTable C) (query : DeviceQuery C)
    (dels : MysqlDB → List String)
    (hchunk : ∀ e ids db, T (SqliteDB.afterChunk win ids db e) =
      (T e).refreshed (query.rows db ids) (dels db))
    (hrows : ∀ ids, query.rows ((TaskToPhoneRc.allOk win).left db) ids = query.rows db ids)
    (hdels : dels ((TaskToPhoneRc.allOk win).left db) = dels db) (hchunks : chunks ≠ []) :
    (T (d.afterBlock win db chunks)).rowSet =
      (T (d.afterBlock win db [chunks.flatten])).rowSet := by
  have hblock : ∀ cs : List (List String), cs ≠ [] → (T (d.afterBlock win db cs)).rowSet =
      cs.foldl (fun S ids => Passes.pass Row.Id ∅ {x | x.Id ∈ dels db} S (query.news db ids))
        (T d).rowSet := by
    intro cs hcs
    refine rowSet_afterBlock T (fun ids => ?_) (fun e ids => ?_) hcs
    · rw [hchunk, DeviceQuery.refreshed_rowSet]
    · rw [hchunk, hrows, hdels, DeviceQuery.refreshed_rowSet]
  rw [hblock chunks hchunks, hblock _ (List.cons_ne_nil _ _), List.foldl_cons, List.foldl_nil,
    ← query.all_news chunks, ← List.dropLast_append_getLast hchunks]
  exact Passes.foldl_pass_empty _ _ (query.injOn_all _)

private theorem templates_afterBlock (hchunks : chunks ≠ []) :
    (d.afterBlock win db chunks).work_template.rowSet =
      (d.afterBlock win db [chunks.flatten]).work_template.rowSet := by
  refine refreshed_afterBlock SqliteDB.work_template (templateQuery win)
    (MysqlDB.deletedTemplates win) (fun _ _ _ => rfl) (fun _ => ?_) ?_ hchunks
  · rw [allOk_left]
    rfl
  · rw [allOk_left]
    rfl

private theorem types_afterBlock (hchunks : chunks ≠ []) :
    (d.afterBlock win db chunks).work_type.rowSet =
      (d.afterBlock win db [chunks.flatten]).work_type.rowSet := by
  refine refreshed_afterBlock SqliteDB.work_type (typeQuery win)
    (MysqlDB.deletedWorkTypes win) (fun _ _ _ => rfl) (fun _ => ?_) ?_ hchunks
  · rw [allOk_left]
    rfl
  · rw [allOk_left]
    rfl

end Tables

/-- What the deletes of `ids` take of the tasks: the tasks themselves and their subtasks. -/
def TakenWith (ids : List String) : Set (SqlRow WorkTaskCol) :=
  {x | x.Id ∈ ids ∨ ∃ i ∈ ids, x.col .AllId = some i}

theorem takenWith_mono {ids ids' : List String} (h : ∀ i ∈ ids, i ∈ ids') :
    TakenWith ids ⊆ TakenWith ids' := by
  rintro x (hx | ⟨i, hi, hx⟩)
  · exact .inl (h _ hx)
  · exact .inr ⟨i, h i hi, hx⟩

section Deletes

variable {win : Window} {db : MysqlDB} {d : SqliteDB} {ids : List String}

private theorem mem_effect_tasks {x : SqlRow WorkTaskCol} :
    x ∈ (TaskDeleteRc.allOk.effect ids d).work_task ↔ x ∈ d.work_task ∧ x ∉ TakenWith ids := by
  have heffect : (TaskDeleteRc.allOk.effect ids d).work_task =
      (d.work_task.deleteIds ids).deleteEqs .AllId ids := by
    simp [TaskDeleteRc.effect, TaskDeleteRc.allOk, SqliteDB.foldl_deleteTask,
      SqliteDB.foldl_deleteSubtasks, SqliteDB.foldl_deleteRecordsOf,
      SqliteDB.deleteTasklessRecords]
  rw [heffect, Table.mem_deleteEqs, Table.mem_deleteIds, and_assoc]
  simp [TakenWith]

private theorem mem_effect_records {x : SqlRow WorkRecordCol} :
    x ∈ (TaskDeleteRc.allOk.effect ids d).work_record ↔ x ∈ d.work_record ∧
      (∀ i ∈ ids, x.col .WorkTaskId ≠ some i) ∧
      (x.col .WorkTaskId).notIn (TaskDeleteRc.allOk.effect ids d).work_task.ids = false := by
  simp [TaskDeleteRc.effect, TaskDeleteRc.allOk, SqliteDB.foldl_deleteTask,
    SqliteDB.foldl_deleteSubtasks, SqliteDB.foldl_deleteRecordsOf,
    SqliteDB.deleteTasklessRecords, and_assoc]

variable (win db d) in
/-- The first chunk's deletes. -/
private theorem allOk_deletes : (TaskToPhoneRc.allOk win).deletes db d =
    if db.deletedTasks "3" = [] then
      if db.deletedTasks "2" = [] then d
      else TaskDeleteRc.allOk.effect (db.deletedTasks "2") d
    else TaskDeleteRc.allOk.effect (db.deletedTasks "3")
      (if db.deletedTasks "2" = [] then d
      else TaskDeleteRc.allOk.effect (db.deletedTasks "2") d) := by
  have halive : (TaskToPhoneRc.allOk win).alive2 db = true := by
    simp [TaskToPhoneRc.alive2, TaskToPhoneRc.allOk]
  rw [TaskToPhoneRc.deletes, halive, TaskToPhoneRc.deletes2]
  by_cases h3 : db.deletedTasks "3" = [] <;>
    simp [TaskToPhoneRc.ids2, TaskToPhoneRc.ids3, TaskToPhoneRc.allOk, h3]

private theorem not_takenWith_nil (x : SqlRow WorkTaskCol) : x ∉ TakenWith [] := by
  simp [TakenWith]

theorem mem_deletes_tasks {x : SqlRow WorkTaskCol} :
    x ∈ ((TaskToPhoneRc.allOk win).deletes db d).work_task ↔
      x ∈ d.work_task ∧ x ∉ TakenWith (db.deletedTasks "2") ∧
        x ∉ TakenWith (db.deletedTasks "3") := by
  rw [allOk_deletes]
  by_cases h2 : db.deletedTasks "2" = [] <;> by_cases h3 : db.deletedTasks "3" = [] <;>
    simp [h2, h3, mem_effect_tasks, not_takenWith_nil, and_assoc]

/-- The first chunk leaves no task that later chunks delete. -/
private theorem deletes_spares {x : SqlRow WorkTaskCol}
    (hx : x ∈ ((TaskToPhoneRc.allOk win).deletes db d).work_task) :
    x ∉ TakenWith (((TaskToPhoneRc.allOk win).left db).deletedTasks "2") := fun htaken =>
  (mem_deletes_tasks.1 hx).2.1
    (takenWith_mono (fun _ hi => (mem_deletedTasks_left win db hi).1) htaken)

/-- The tasks after the deletes of a later chunk. -/
private theorem mem_deletes_left_tasks {x : SqlRow WorkTaskCol} :
    x ∈ ((TaskToPhoneRc.allOk win).deletes ((TaskToPhoneRc.allOk win).left db) d).work_task ↔
      x ∈ d.work_task ∧
        x ∉ TakenWith (((TaskToPhoneRc.allOk win).left db).deletedTasks "2") := by
  rw [mem_deletes_tasks, deletedTasks_left]
  simp [not_takenWith_nil]

/-- The records after the deletes of a later chunk, if there is a task to delete. -/
private theorem mem_deletes_left_records {x : SqlRow WorkRecordCol}
    (hne : ((TaskToPhoneRc.allOk win).left db).deletedTasks "2" ≠ []) :
    x ∈ ((TaskToPhoneRc.allOk win).deletes ((TaskToPhoneRc.allOk win).left db) d).work_record ↔
      x ∈ d.work_record ∧
      (∀ i ∈ ((TaskToPhoneRc.allOk win).left db).deletedTasks "2",
        x.col .WorkTaskId ≠ some i) ∧
      (x.col .WorkTaskId).notIn ((TaskToPhoneRc.allOk win).deletes
        ((TaskToPhoneRc.allOk win).left db) d).work_task.ids = false := by
  rw [allOk_deletes, deletedTasks_left, if_pos rfl, if_neg hne, mem_effect_records]

/-- Without a task to delete, a later chunk deletes nothing. -/
private theorem deletes_left_nil
    (hnil : ((TaskToPhoneRc.allOk win).left db).deletedTasks "2" = []) :
    (TaskToPhoneRc.allOk win).deletes ((TaskToPhoneRc.allOk win).left db) d = d := by
  rw [allOk_deletes, deletedTasks_left, if_pos rfl, if_pos hnil]

/-- The records the first chunk leaves, if later chunks have tasks to delete: their tasks are
in the file, and not among those. -/
private theorem deletes_records {x : SqlRow WorkRecordCol}
    (hne : ((TaskToPhoneRc.allOk win).left db).deletedTasks "2" ≠ [])
    (hx : x ∈ ((TaskToPhoneRc.allOk win).deletes db d).work_record) :
    (∀ i ∈ ((TaskToPhoneRc.allOk win).left db).deletedTasks "2",
      x.col .WorkTaskId ≠ some i) ∧
    (x.col .WorkTaskId).notIn ((TaskToPhoneRc.allOk win).deletes db d).work_task.ids =
      false := by
  have hsub : ∀ i ∈ ((TaskToPhoneRc.allOk win).left db).deletedTasks "2",
      i ∈ db.deletedTasks "2" := fun i hi => (mem_deletedTasks_left win db hi).1
  have hne2 : db.deletedTasks "2" ≠ [] := by
    obtain ⟨i, hi⟩ := List.exists_mem_of_ne_nil _ hne
    exact List.ne_nil_of_mem (hsub i hi)
  rw [allOk_deletes, if_neg hne2] at hx ⊢
  by_cases h3 : db.deletedTasks "3" = []
  · rw [if_pos h3] at hx ⊢
    obtain ⟨-, hno, hin⟩ := mem_effect_records.1 hx
    exact ⟨fun i hi => hno i (hsub i hi), hin⟩
  · rw [if_neg h3] at hx ⊢
    obtain ⟨hx, -, hin⟩ := mem_effect_records.1 hx
    obtain ⟨-, hno, -⟩ := mem_effect_records.1 hx
    exact ⟨fun i hi => hno i (hsub i hi), hin⟩

end Deletes

/-! ### The tasks -/

section Tasks

variable {win : Window} {db : MysqlDB} {d : SqliteDB} {chunks : List (List String)}

/-- A copy of tasks, after deletes, is a pass. -/
private theorem tasks_afterBlock (hchunks : chunks ≠ []) :
    (d.afterBlock win db chunks).work_task.rowSet =
      chunks.foldl (fun S ids => Passes.pass Row.Id
        (TakenWith (((TaskToPhoneRc.allOk win).left db).deletedTasks "2")) ∅ S
        ((taskQuery win).news ((TaskToPhoneRc.allOk win).left db) ids))
        ((TaskToPhoneRc.allOk win).deletes db d).work_task.rowSet := by
  refine rowSet_afterBlock SqliteDB.work_task (fun ids => ?_) (fun e ids => ?_) hchunks
  · refine (taskQuery win).replaceAll_rowSet (fun x => ?_) ids
    exact ⟨fun hx => ⟨hx, deletes_spares hx⟩, And.left⟩
  · have hleft : (SqliteDB.afterChunk win ids ((TaskToPhoneRc.allOk win).left db) e).work_task =
        ((TaskToPhoneRc.allOk win).deletes ((TaskToPhoneRc.allOk win).left db)
          e).work_task.replaceAll ((taskQuery win).rows
            ((TaskToPhoneRc.allOk win).left ((TaskToPhoneRc.allOk win).left db)) ids) := rfl
    rw [hleft, left_left]
    exact (taskQuery win).replaceAll_rowSet (fun x => mem_deletes_left_tasks) ids

end Tasks

/-- A new task that the deletes of later chunks take from the file: it, or the task it is a
subtask of, is one of those to delete. -/
def Doomed (db : MysqlDB) (r : SqlRow WorkTaskCol) : Prop :=
  r.Id ∈ db.deletedTasks "2" ∨ (r.col .AllId).read ∈ db.deletedTasks "2"

theorem takenWith_taskToPhone {db : MysqlDB} {r : SqlRow WorkTaskCol} :
    taskToPhone r ∈ TakenWith (db.deletedTasks "2") ↔ Doomed db r := by
  have hcol : (taskToPhone r).col .AllId = some (r.col .AllId).read :=
    Row.setCol_of_ne r.read (by decide) "1"
  constructor
  · rintro (hself | ⟨i, hi, hparent⟩)
    · exact .inl hself
    · rw [hcol, Option.some_inj] at hparent
      exact .inr (hparent ▸ hi)
  · rintro (hself | hparent)
    · exact .inl hself
    · exact .inr ⟨_, hparent, hcol⟩

section Tasks

variable {win : Window} {db : MysqlDB} {d : SqliteDB} {chunks : List (List String)}

theorem mem_newTasks {r : SqlRow WorkTaskCol} {ids : List String} :
    r ∈ db.newTasks win ids ↔ r ∈ db.work_task ∧ (taskQuery win).ofDevices ids r db = true :=
  Table.mem_select

private theorem taskQuery_isIn {r : SqlRow WorkTaskCol} {ids : List String}
    (h : (taskQuery win).ofDevices ids r db = true) : (r.col .DeviceId).isIn ids = true := by
  simp only [taskQuery, Bool.and_eq_true] at h
  exact h.1.1.1

/-- **The tasks are the same** exactly when no chunk but the last copies a task that is to be
deleted. -/
private theorem tasks_same_iff (hchunks : chunks ≠ []) (hnodup : chunks.flatten.Nodup) :
    (d.afterBlock win db chunks).work_task.rowSet =
        (d.afterBlock win db [chunks.flatten]).work_task.rowSet ↔
      ∀ r ∈ ((TaskToPhoneRc.allOk win).left db).newTasks win chunks.dropLast.flatten,
        ¬Doomed ((TaskToPhoneRc.allOk win).left db) r := by
  generalize hleft : (TaskToPhoneRc.allOk win).left db = left
  have hsplit := List.dropLast_append_getLast hchunks
  have hspares : Disjoint ((TaskToPhoneRc.allOk win).deletes db d).work_task.rowSet
      (TakenWith (left.deletedTasks "2")) :=
    Set.disjoint_left.2 fun x hx => hleft ▸ deletes_spares hx
  have hkey : Set.InjOn Row.Id (Passes.all ((taskQuery win).news left) chunks) :=
    (taskQuery win).injOn_all chunks
  rw [tasks_afterBlock hchunks, tasks_afterBlock (List.cons_ne_nil _ _), hleft, List.foldl_cons,
    List.foldl_nil, ← (taskQuery win).all_news chunks]
  rw [← hsplit] at hkey
  have hiff := Passes.foldl_pass_eq_iff (Q := ∅) hspares chunks.dropLast
    (chunks.getLast hchunks) hkey
  rw [hsplit] at hiff
  rw [hiff, (taskQuery win).all_news]
  constructor
  · intro h r hr hdoomed
    rw [mem_newTasks] at hr
    have hnews : taskToPhone r ∈ (taskQuery win).news left chunks.dropLast.flatten :=
      DeviceQuery.mem_news.2 ⟨r, hr.1, hr.2, rfl⟩
    have hlast := (h _ hnews (takenWith_taskToPhone.2 hdoomed)).resolve_right id
    obtain ⟨r', hr', hdev', heq⟩ := DeviceQuery.mem_news.1 hlast
    obtain rfl : r' = r := DeviceQuery.eq_of_toPhone_Id hr' hr.1 (congrArg Row.Id heq)
    -- its device would be in two chunks
    obtain ⟨t, ht, hdevice⟩ := Text.isIn_iff.1 (taskQuery_isIn hr.2)
    obtain ⟨t', ht', hdevice'⟩ := Text.isIn_iff.1 (taskQuery_isIn hdev')
    obtain rfl : t = t' := Option.some_inj.1 (hdevice.symm.trans hdevice')
    rw [← hsplit, List.flatten_append, List.nodup_append] at hnodup
    exact hnodup.2.2 t ht t (by simpa using ht') rfl
  · intro h x hx htaken
    obtain ⟨r, hr, hdev, rfl⟩ := DeviceQuery.mem_news.1 hx
    exact absurd (takenWith_taskToPhone.1 htaken) (h r (mem_newTasks.2 ⟨hr, hdev⟩))

end Tasks

/-! ## §5 Records -/

section Records

variable {win : Window} {db : MysqlDB} {d e : SqliteDB} {ids : List String}

/-- The new records, as they go to the phone. -/
private def newsOfRecords (win : Window) (db : MysqlDB) : Set (SqlRow WorkRecordCol) :=
  {x | ∃ r ∈ db.newRecords win, recordToPhone r = x}

/-- A copy of the new records. -/
private theorem mem_replaceAll_records {t : SqlTable WorkRecordCol} {x : SqlRow WorkRecordCol} :
    x ∈ t.replaceAll ((db.newRecords win).map recordToPhone) ↔
      x ∈ newsOfRecords win db ∨ x ∈ t ∧ ∀ y ∈ newsOfRecords win db, y.Id ≠ x.Id := by
  have hId : ((db.newRecords win).map recordToPhone).map Row.Id =
      (db.newRecords win).map Row.Id := by
    rw [List.map_map]
    exact List.map_congr_left fun r _ => rfl
  have hnodup : (((db.newRecords win).map recordToPhone).map Row.Id).Nodup := by
    rw [hId]
    exact db.work_record.nodup.sublist (List.filter_sublist.map Row.Id)
  rw [Table.mem_replaceAll hnodup]
  simp [newsOfRecords]

variable (win db d) in
/-- The records in the file after any chunk, if nothing new is deleted again: the new ones, and
those that the first chunk's deletes leave. -/
private def keptRecords : Set (SqlRow WorkRecordCol) :=
  {x | x ∈ newsOfRecords win ((TaskToPhoneRc.allOk win).left db) ∨
    x ∈ ((TaskToPhoneRc.allOk win).deletes db d).work_record ∧
      ∀ y ∈ newsOfRecords win ((TaskToPhoneRc.allOk win).left db), y.Id ≠ x.Id}

variable (win db d) in
/-- Between two chunks: no task is one that is to be deleted, every task the first chunk's deletes
leave is still there, maybe with new columns, and so are the records. -/
private structure TasksStay (e : SqliteDB) : Prop where
  spared : ∀ x ∈ e.work_task,
    x ∉ TakenWith (((TaskToPhoneRc.allOk win).left db).deletedTasks "2")
  ids : ∀ i ∈ ((TaskToPhoneRc.allOk win).deletes db d).work_task.ids, i ∈ e.work_task.ids
  records : e.work_record.rowSet = keptRecords win db d

variable (win db d ids) in
private theorem records_first :
    (d.afterChunk win ids db).work_record.rowSet = keptRecords win db d :=
  Set.ext fun _ => mem_replaceAll_records

/-- The deletes of a later chunk leave the tasks. -/
private theorem TasksStay.deletes (h : TasksStay win db d e) {i : String}
    (hi : i ∈ ((TaskToPhoneRc.allOk win).deletes db d).work_task.ids) :
    i ∈ ((TaskToPhoneRc.allOk win).deletes ((TaskToPhoneRc.allOk win).left db)
      e).work_task.ids := by
  obtain ⟨x, hx, rfl⟩ := Table.mem_ids.1 (h.ids i hi)
  exact Table.mem_ids.2 ⟨x, mem_deletes_left_tasks.2 ⟨hx, h.spared x hx⟩, rfl⟩

/-- The deletes of a later chunk leave the records. -/
private theorem TasksStay.deletes_record (h : TasksStay win db d e) {x : SqlRow WorkRecordCol}
    (hx : x ∈ ((TaskToPhoneRc.allOk win).deletes db d).work_record) (he : x ∈ e.work_record) :
    x ∈ ((TaskToPhoneRc.allOk win).deletes ((TaskToPhoneRc.allOk win).left db)
      e).work_record := by
  by_cases hnil : ((TaskToPhoneRc.allOk win).left db).deletedTasks "2" = []
  · rwa [deletes_left_nil hnil]
  · obtain ⟨hno, hin⟩ := deletes_records hnil hx
    refine (mem_deletes_left_records hnil).2 ⟨he, hno, ?_⟩
    rw [← Bool.not_eq_true] at hin ⊢
    exact fun hout => hin (Text.notIn_mono hout fun i hi => h.deletes hi)

private theorem deletes_left_subset {x : SqlRow WorkRecordCol}
    (hx : x ∈ ((TaskToPhoneRc.allOk win).deletes ((TaskToPhoneRc.allOk win).left db)
      e).work_record) : x ∈ e.work_record := by
  by_cases hnil : ((TaskToPhoneRc.allOk win).left db).deletedTasks "2" = []
  · rwa [deletes_left_nil hnil] at hx
  · exact ((mem_deletes_left_records hnil).1 hx).1

/-- **A later chunk** leaves the records as they are. -/
private theorem TasksStay.records_later (h : TasksStay win db d e) (ids : List String) :
    (e.afterChunk win ids ((TaskToPhoneRc.allOk win).left db)).work_record.rowSet =
      keptRecords win db d := by
  have hafter : (e.afterChunk win ids ((TaskToPhoneRc.allOk win).left db)).work_record =
      ((TaskToPhoneRc.allOk win).deletes ((TaskToPhoneRc.allOk win).left db)
        e).work_record.replaceAll ((((TaskToPhoneRc.allOk win).left
          ((TaskToPhoneRc.allOk win).left db)).newRecords win).map recordToPhone) := rfl
  -- a second round of hard deletes finds the server as the first left it
  rw [left_left] at hafter
  ext x
  rw [Table.rowSet, Set.mem_ofPred_eq, hafter, mem_replaceAll_records]
  constructor
  · rintro (hnew | ⟨hx, hkey⟩)
    · exact .inl hnew
    · have he : x ∈ e.work_record := deletes_left_subset hx
      rw [← h.records]
      exact he
  · -- a record that is kept is also spared by the deletes of this chunk
    rintro (hnew | ⟨hx, hkey⟩)
    · exact .inl hnew
    · have he : x ∈ e.work_record.rowSet := by
        rw [h.records]
        exact .inr ⟨hx, hkey⟩
      exact .inr ⟨h.deletes_record hx he, hkey⟩

/-- What a chunk without tasks to be deleted makes of the tasks. -/
private theorem tasksStay_copied {t : SqlTable WorkTaskCol} {e' : SqliteDB}
    (hspared : ∀ x ∈ t, x ∉ TakenWith (((TaskToPhoneRc.allOk win).left db).deletedTasks "2"))
    (hids : ∀ i ∈ ((TaskToPhoneRc.allOk win).deletes db d).work_task.ids, i ∈ t.ids)
    (hnew : ∀ r ∈ ((TaskToPhoneRc.allOk win).left db).newTasks win ids,
      ¬Doomed ((TaskToPhoneRc.allOk win).left db) r)
    (htasks : e'.work_task = t.replaceAll
      ((((TaskToPhoneRc.allOk win).left db).newTasks win ids).map taskToPhone))
    (hrecords : e'.work_record.rowSet = keptRecords win db d) : TasksStay win db d e' where
  spared x hx := by
    rw [htasks] at hx
    rcases Table.mem_of_mem_replaceAll hx with hx | hx
    · exact hspared x hx
    · obtain ⟨r, hr, rfl⟩ := List.mem_map.1 hx
      rw [takenWith_taskToPhone]
      exact hnew r hr
  ids i hi := by
    rw [htasks, Table.mem_ids_replaceAll]
    exact .inl (hids i hi)
  records := hrecords

private theorem tasksStay_first
    (hnew : ∀ r ∈ ((TaskToPhoneRc.allOk win).left db).newTasks win ids,
      ¬Doomed ((TaskToPhoneRc.allOk win).left db) r) :
    TasksStay win db d (d.afterChunk win ids db) :=
  tasksStay_copied (fun _ hx => deletes_spares hx) (fun _ hi => hi) hnew rfl
    (records_first win db d ids)

private theorem TasksStay.later (h : TasksStay win db d e)
    (hnew : ∀ r ∈ ((TaskToPhoneRc.allOk win).left db).newTasks win ids,
      ¬Doomed ((TaskToPhoneRc.allOk win).left db) r) :
    TasksStay win db d (e.afterChunk win ids ((TaskToPhoneRc.allOk win).left db)) := by
  have hafter : (e.afterChunk win ids ((TaskToPhoneRc.allOk win).left db)).work_task =
      ((TaskToPhoneRc.allOk win).deletes ((TaskToPhoneRc.allOk win).left db)
        e).work_task.replaceAll ((((TaskToPhoneRc.allOk win).left
          ((TaskToPhoneRc.allOk win).left db)).newTasks win ids).map taskToPhone) := rfl
  rw [left_left] at hafter
  exact tasksStay_copied (fun _ hx => (mem_deletes_left_tasks.1 hx).2)
    (fun _ hi => h.deletes hi) hnew hafter (h.records_later ids)

/-- The rest of the chunks: only the last may copy a task that is to be deleted. -/
private theorem TasksStay.records_afterChunks (h : TasksStay win db d e)
    (chunks : List (List String))
    (hnew : ∀ r ∈ ((TaskToPhoneRc.allOk win).left db).newTasks win chunks.dropLast.flatten,
      ¬Doomed ((TaskToPhoneRc.allOk win).left db) r) :
    (e.afterChunks win ((TaskToPhoneRc.allOk win).left db) chunks).work_record.rowSet =
      keptRecords win db d := by
  induction chunks generalizing e with
  | nil => exact h.records
  | cons ids chunks ih =>
    cases chunks with
    | nil => exact h.records_later ids
    | cons ids' chunks =>
      rw [List.dropLast_cons_cons, List.flatten_cons] at hnew
      refine ih (h.later fun r hr => hnew r ?_) fun r hr => hnew r ?_
      · exact MysqlDB.Sub.newTasks (.refl _) (fun _ hi => List.mem_append_left _ hi) _ r hr
      · exact MysqlDB.Sub.newTasks (.refl _) (fun _ hi => List.mem_append_right _ hi) _ r hr

/-- **The records of a block**, if only its last chunk may copy a task that is to be deleted. -/
private theorem records_afterBlock {chunks : List (List String)} (hchunks : chunks ≠ [])
    (hnew : ∀ r ∈ ((TaskToPhoneRc.allOk win).left db).newTasks win chunks.dropLast.flatten,
      ¬Doomed ((TaskToPhoneRc.allOk win).left db) r) :
    (d.afterBlock win db chunks).work_record.rowSet = keptRecords win db d := by
  obtain ⟨ids, chunks, rfl⟩ := List.exists_cons_of_ne_nil hchunks
  cases chunks with
  | nil => exact records_first win db d ids
  | cons ids' chunks =>
    rw [List.dropLast_cons_cons, List.flatten_cons] at hnew
    refine (tasksStay_first fun r hr => hnew r ?_).records_afterChunks _ fun r hr => hnew r ?_
    · exact MysqlDB.Sub.newTasks (.refl _) (fun _ hi => List.mem_append_left _ hi) _ r hr
    · exact MysqlDB.Sub.newTasks (.refl _) (fun _ hi => List.mem_append_right _ hi) _ r hr

end Records

/-! ## §6 Marks -/

section Marks

/-- Two updates commute if they set different columns or set a column to the same text. -/
private theorem setText_comm {C : Type} [DecidableEq C] {c c' : C} {s s' : String}
    (h : c = c' → s = s') (col : C → Text) :
    setText c' s' (setText c s col) = setText c s (setText c' s' col) := by
  funext x
  by_cases hc : x = c
  · subst hc
    by_cases hc' : x = c'
    · simp [setText, hc', h hc']
    · simp [setText, hc']
  · by_cases hc' : x = c' <;> simp [setText, hc]

private theorem setWhereId_comm {C : Type} [DecidableEq C] (t : SqlTable C) {c c' : C}
    {s s' : String} (h : c = c' → s = s') (i j : String) :
    (t.setWhereId c s i).setWhereId c' s' j = (t.setWhereId c' s' j).setWhereId c s i := by
  simp only [Table.setWhereId, Table.updateWhere, Table.mk.injEq, List.map_map]
  refine List.map_congr_left fun r _ => ?_
  obtain ⟨k, col⟩ := r
  by_cases hi : k = i
  · subst hi
    by_cases hj : k = j <;> simp [hj, setText_comm h]
  · by_cases hj : k = j
    · subst hj
      simp [hi]
    · simp [hi, hj]

/-- An update repeated is done once. -/
private theorem setWhereId_idem {C : Type} [DecidableEq C] (t : SqlTable C) (c : C)
    (s i : String) : (t.setWhereId c s i).setWhereId c s i = t.setWhereId c s i := by
  simp only [Table.setWhereId, Table.updateWhere, Table.mk.injEq, List.map_map]
  refine List.map_congr_left fun r _ => ?_
  obtain ⟨k, col⟩ := r
  have hcol : setText c s (setText c s col) = setText c s col := by
    funext x
    by_cases hx : x = c <;> simp [setText, hx]
  by_cases hi : k = i <;> simp [hi, hcol]

private theorem mark_comm (db : MysqlDB) (i j : String) (t t' : MarkTable) :
    (db.mark i t).mark j t' = (db.mark j t').mark i t := by
  cases t <;> cases t' <;> first
    | rfl
    | simp only [MysqlDB.mark, MysqlDB.mk.injEq, true_and, and_true]
      exact setWhereId_comm _ (fun _ => rfl) i j

/-- **Marks commute.** -/
private theorem exec_mark_comm (db : MysqlDB) (a b : MyStmt) (ha : a.isMark = true)
    (hb : b.isMark = true) : b.exec (a.exec db) = a.exec (b.exec db) := by
  cases a with
  | mark t i =>
    cases b with
    | mark t' j => exact mark_comm db i j t t'
    | markWorkTaskState2 j =>
      cases t with
      | work_task =>
        simp only [MyStmt.exec, MysqlDB.mark, MysqlDB.mk.injEq, true_and, and_true]
        rw [setWhereId_comm db.work_task (fun _ => rfl) i j]
        exact setWhereId_comm _ (fun h => by cases h) i j
      | _ => rfl
    | _ => cases hb
  | markWorkTaskState2 i =>
    cases b with
    | mark t' j =>
      cases t' with
      | work_task =>
        simp only [MyStmt.exec, MysqlDB.mark, MysqlDB.mk.injEq, true_and, and_true]
        rw [setWhereId_comm db.work_task (fun _ => rfl) j i]
        exact setWhereId_comm _ (fun h => by cases h) i j
      | _ => rfl
    | markWorkTaskState2 j =>
      simp only [MyStmt.exec, MysqlDB.mk.injEq, true_and, and_true]
      -- the middle two, then each column, then the middle two again
      rw [setWhereId_comm (db.work_task.setWhereId .SynchronState "1" i) (fun h => by cases h) i j,
        setWhereId_comm db.work_task (fun _ => rfl) i j, setWhereId_comm _ (fun _ => rfl) i j,
        setWhereId_comm (db.work_task.setWhereId .SynchronState "1" j) (fun h => by cases h) i j]
    | _ => cases hb
  | _ => cases ha

private theorem exec_mark_idem (db : MysqlDB) (a : MyStmt) (ha : a.isMark = true) :
    a.exec (a.exec db) = a.exec db := by
  cases a with
  | mark t i => cases t <;> simp [MyStmt.exec, MysqlDB.mark, setWhereId_idem]
  | markWorkTaskState2 i =>
    simp only [MyStmt.exec, MysqlDB.mk.injEq, true_and, and_true]
    rw [setWhereId_comm (db.work_task.setWhereId .SynchronState "1" i) (fun h => by cases h) i i,
      setWhereId_idem, setWhereId_idem]
  | _ => cases ha

/-- **Only which rows are marked matters.** -/
theorem execAll_eq_of_mem_iff (db : MysqlDB) {sts sts' : List MyStmt}
    (hmarks : ∀ st ∈ sts, st.isMark = true) (h : ∀ st, st ∈ sts ↔ st ∈ sts') :
    db.execAll sts = db.execAll sts' :=
  Passes.foldl_eq_of_mem_iff (fun db a b ha hb => exec_mark_comm db a b ha hb)
    (fun db a ha => exec_mark_idem db a ha) hmarks h db

variable {win : Window} {db : MysqlDB}

private theorem chunkMarks_isMark {ids : List String} {st : MyStmt}
    (h : st ∈ db.chunkMarks win ids) : st.isMark = true := by
  simp only [MysqlDB.chunkMarks, List.mem_append, List.mem_map] at h
  rcases h with ((⟨r, -, rfl⟩ | ⟨r, -, rfl⟩) | ⟨r, -, rfl⟩) | ⟨r, -, rfl⟩
  · rfl
  · rfl
  · exact markTaskStmt_isMark r
  · rfl

/-- The rows of all devices are those of the devices of some chunk. -/
private theorem mem_chunkMarks_flatten {chunks : List (List String)} (hchunks : chunks ≠ [])
    (st : MyStmt) : st ∈ db.chunkMarks win chunks.flatten ↔
      ∃ ids ∈ chunks, st ∈ db.chunkMarks win ids := by
  -- three of the four routines select by the ids they are given
  have htemplates : ∀ r, r ∈ db.newTemplates win chunks.flatten ↔
      ∃ ids ∈ chunks, r ∈ db.newTemplates win ids :=
    fun r => (templateQuery win).mem_selected_flatten
  have htypes : ∀ r, r ∈ db.newWorkTypes win chunks.flatten ↔
      ∃ ids ∈ chunks, r ∈ db.newWorkTypes win ids :=
    fun r => (typeQuery win).mem_selected_flatten
  have htasks : ∀ r, r ∈ ((TaskToPhoneRc.allOk win).left db).newTasks win chunks.flatten ↔
      ∃ ids ∈ chunks, r ∈ ((TaskToPhoneRc.allOk win).left db).newTasks win ids :=
    fun r => (taskQuery win).mem_selected_flatten
  -- the records are marked whatever the ids are, so any chunk will do
  obtain ⟨ids₀, hids₀⟩ := List.exists_mem_of_ne_nil _ hchunks
  simp only [MysqlDB.chunkMarks, List.mem_append, List.mem_map, htemplates, htypes, htasks]
  constructor
  · rintro (((⟨r, ⟨ids, hids, hr⟩, rfl⟩ | ⟨r, ⟨ids, hids, hr⟩, rfl⟩) |
      ⟨r, ⟨ids, hids, hr⟩, rfl⟩) | hrecord)
    · exact ⟨ids, hids, .inl (.inl (.inl ⟨r, hr, rfl⟩))⟩
    · exact ⟨ids, hids, .inl (.inl (.inr ⟨r, hr, rfl⟩))⟩
    · exact ⟨ids, hids, .inl (.inr ⟨r, hr, rfl⟩)⟩
    · exact ⟨ids₀, hids₀, .inr hrecord⟩
  · rintro ⟨ids, hids, ((⟨r, hr, rfl⟩ | ⟨r, hr, rfl⟩) | ⟨r, hr, rfl⟩) | hrecord⟩
    · exact .inl (.inl (.inl ⟨r, ⟨ids, hids, hr⟩, rfl⟩))
    · exact .inl (.inl (.inr ⟨r, ⟨ids, hids, hr⟩, rfl⟩))
    · exact .inl (.inr ⟨r, ⟨ids, hids, hr⟩, rfl⟩)
    · exact .inr hrecord

/-- **The marks** set the same columns, cut into chunks or not. -/
private theorem marks_same (d : MysqlDB) {chunks : List (List String)} (hchunks : chunks ≠ []) :
    d.execAll (db.blockMarks win chunks) = d.execAll (db.blockMarks win [chunks.flatten]) := by
  refine execAll_eq_of_mem_iff d (fun st hst => ?_) fun st => ?_
  · obtain ⟨ids, -, hst⟩ := List.mem_flatMap.1 hst
    exact chunkMarks_isMark hst
  · rw [MysqlDB.blockMarks, MysqlDB.blockMarks, List.flatMap_singleton, List.mem_flatMap,
      mem_chunkMarks_flatten hchunks]

end Marks

/-! ## §7 The chunks end as one pass does -/

/-- Two phone files with the same content. -/
structure SamePhone (d d' : SqliteDB) : Prop where
  areas : d.areas.SameRows d'.areas
  device_info : d.device_info.SameRows d'.device_info
  work_type : d.work_type.SameRows d'.work_type
  work_template : d.work_template.SameRows d'.work_template
  work_task : d.work_task.SameRows d'.work_task
  work_record : d.work_record.SameRows d'.work_record
  user_table : d.user_table.SameRows d'.user_table

/-- Two runs end with the same answer, the same temporary file and the same server. -/
structure SameResult (o o' : Except Halt Bool × World) : Prop where
  answer : o.1 = o'.1
  phone : ∃ d d', o.2.sq.file = .holds d ∧ o'.2.sq.file = .holds d' ∧ SamePhone d d'
  server : o.2.server.db = o'.2.server.db

/-- The block of the tasks without chunks: the routines once, for all ids. -/
def onePass (routine : ℕ → List String → Act World Bool) (update : ℕ → Bool)
    (ids : List String) : Act World Bool := inChunks routine update [ids]

/-- The routines of the tasks' block to the phone, every call of which succeeds. -/
def workToPhone (win : Window) (_ : ℕ) (ids : List String) : Act World Bool :=
  workChunk .tongbu_to_phone (WorkRc.allOk win) ids

section Same

variable (win : Window) (d : SqliteDB) (db : MysqlDB) {ids : List String}

/-- What a block leaves of the tables it does not work on. -/
private theorem afterBlock_frame (chunks : List (List String)) :
    (d.afterBlock win db chunks).areas = d.areas ∧
    (d.afterBlock win db chunks).device_info = d.device_info ∧
    (d.afterBlock win db chunks).user_table = d.user_table := by
  have hlater : ∀ (chunks : List (List String)) (db : MysqlDB) (e : SqliteDB),
      (e.afterChunks win db chunks).areas = e.areas ∧
      (e.afterChunks win db chunks).device_info = e.device_info ∧
      (e.afterChunks win db chunks).user_table = e.user_table := by
    intro chunks db
    induction chunks with
    | nil => exact fun e => ⟨rfl, rfl, rfl⟩
    | cons ids chunks ih => exact fun e => ih (e.afterChunk win ids db)
  cases chunks with
  | nil => exact ⟨rfl, rfl, rfl⟩
  | cons ids chunks => exact hlater chunks _ (d.afterChunk win ids db)

private theorem sameRows_iff {C : Type} {t t' : SqlTable C} :
    t.SameRows t' ↔ t.rowSet = t'.rowSet := Set.ext_iff.symm

private theorem inChunks_same_iff {chunks : List (List String)} (hchunks : chunks ≠ [])
    (hne : ∀ chunk ∈ chunks, chunk ≠ []) (hnodup : chunks.flatten.Nodup) :
    SameResult ((inChunks (workToPhone win) (fun _ => true) chunks).run (World.fresh d db))
        ((onePass (workToPhone win) (fun _ => true) chunks.flatten).run (World.fresh d db)) ↔
      ∀ r ∈ ((TaskToPhoneRc.allOk win).left db).newTasks win chunks.dropLast.flatten,
        ¬Doomed ((TaskToPhoneRc.allOk win).left db) r := by
  -- both runs succeed, so only what they leave is compared
  have hids : chunks.flatten ≠ [] := by
    obtain ⟨ids, hids⟩ := List.exists_mem_of_ne_nil _ hchunks
    exact fun hnil => hne ids hids (List.flatten_eq_nil_iff.1 hnil ids hids)
  obtain ⟨log, hrun⟩ := inChunks_run_ok win d db hchunks hne
  obtain ⟨log', hrun'⟩ := inChunks_run_ok win d db (List.cons_ne_nil chunks.flatten [])
    (List.forall_mem_singleton.2 hids)
  have hchunked : (inChunks (workToPhone win) (fun _ => true) chunks).run
    (World.fresh d db) = _ := hrun
  have honePass : (onePass (workToPhone win) (fun _ => true) chunks.flatten).run
    (World.fresh d db) = _ := hrun'
  rw [hchunked, honePass, ← tasks_same_iff hchunks hnodup]
  constructor
  · rintro ⟨-, ⟨e, e', he, he', hsame⟩, -⟩
    cases he
    cases he'
    exact sameRows_iff.1 hsame.work_task
  · intro htasks
    -- equal tasks carry the other tables with them
    have hnew := (tasks_same_iff hchunks hnodup).1 htasks
    have hframe := afterBlock_frame win d db chunks
    have hframe' := afterBlock_frame win d db [chunks.flatten]
    have hrecords' : (d.afterBlock win db [chunks.flatten]).work_record.rowSet =
        keptRecords win db d := records_first win db d _
    refine ⟨rfl, ⟨_, _, rfl, rfl, ?_⟩, marks_same _ hchunks⟩
    refine ⟨?_, ?_, sameRows_iff.2 (types_afterBlock hchunks),
      sameRows_iff.2 (templates_afterBlock hchunks), sameRows_iff.2 htasks,
      sameRows_iff.2 ((records_afterBlock hchunks hnew).trans hrecords'.symm), ?_⟩
    · rw [hframe.1, hframe'.1]
      exact fun _ => Iff.rfl
    · rw [hframe.2.1, hframe'.2.1]
      exact fun _ => Iff.rfl
    · rw [hframe.2.2, hframe'.2.2]
      exact fun _ => Iff.rfl

/-- Without a device, neither way does anything. -/
private theorem chunked_nil : SameResult
    ((chunked (workToPhone win) (fun _ => true) []).run (World.fresh d db))
    ((onePass (workToPhone win) (fun _ => true) []).run (World.fresh d db)) :=
  ⟨rfl, ⟨d, d, rfl, rfl, ⟨fun _ => Iff.rfl, fun _ => Iff.rfl, fun _ => Iff.rfl,
    fun _ => Iff.rfl, fun _ => Iff.rfl, fun _ => Iff.rfl, fun _ => Iff.rfl⟩⟩, rfl⟩

private theorem chunked_same_iff {ids : List String} (hempty : "" ∉ ids) (hnodup : ids.Nodup) :
    SameResult ((chunked (workToPhone win) (fun _ => true) ids).run (World.fresh d db))
        ((onePass (workToPhone win) (fun _ => true) ids).run (World.fresh d db)) ↔
      ∀ r ∈ ((TaskToPhoneRc.allOk win).left db).newTasks win (getArrayItems ids).dropLast.flatten,
        ¬Doomed ((TaskToPhoneRc.allOk win).left db) r := by
  have hflatten := getArrayItems_flatten hempty
  rcases eq_or_ne ids [] with rfl | hids
  · refine iff_of_true (chunked_nil win d db) fun r hr => ?_
    obtain ⟨t, ht, -⟩ := Text.isIn_iff.1 (taskQuery_isIn (mem_newTasks.1 hr).2)
    exact absurd ht List.not_mem_nil
  · have hchunks : getArrayItems ids ≠ [] := by
      intro hnil
      rw [hnil] at hflatten
      exact hids hflatten.symm
    have hiff := inChunks_same_iff win d db hchunks
      (fun _ => ne_nil_of_mem_getArrayItems hempty) (hflatten.symm ▸ hnodup)
    rw [hflatten] at hiff
    exact hiff

/-- **The chunks end as one pass does** exactly when no chunk but the last copies a task that is
to be deleted: the deletes of a later chunk would take it from the phone again, while the server
has it marked as synchronised. -/
theorem chunks_as_one_pass_iff (item : TreeItem) (hnodup : (findChildTypeID item).Nodup) :
    SameResult
        ((chunked (workToPhone win) (fun _ => true) (findChildTypeID item)).run
          (World.fresh d db))
        ((onePass (workToPhone win) (fun _ => true) (findChildTypeID item)).run
          (World.fresh d db)) ↔
      ∀ r ∈ ((TaskToPhoneRc.allOk win).left db).newTasks win
          (getArrayItems (findChildTypeID item)).dropLast.flatten,
        ¬Doomed ((TaskToPhoneRc.allOk win).left db) r :=
  chunked_same_iff win d db (findChildTypeID_ne_empty item) hnodup

end Same

/-- An area with twenty-one devices. -/
def TreeItem.area21 : TreeItem :=
  .item "area" "" (["d01", "d02", "d03", "d04", "d05", "d06", "d07", "d08", "d09", "d10", "d11",
    "d12", "d13", "d14", "d15", "d16", "d17", "d18", "d19", "d20", "d21"].map fun i =>
      .item "" i [])

/-- A main task of device `d21` that is to be deleted. -/
def markedMainTask : SqlRow WorkTaskCol where
  Id := "main"
  col := fun
    | .DeviceId => some "d21"
    | .Level => some "0"
    | .State => some "1"
    | .SynchronState => some "2"
    | .CreateDate => some "2018-06-20 08:00:00"
    | _ => some ""

/-- A new subtask of it, of another device. -/
def newSubtask (DeviceId : String) : SqlRow WorkTaskCol where
  Id := "sub"
  col := fun
    | .DeviceId => some DeviceId
    | .Level => some "1"
    | .State => some "1"
    | .SynchronState => some "0"
    | .AllId => some "main"
    | .CreateDate => some "2018-06-20 08:00:00"
    | _ => some ""

/-- A server with these two tasks, and their devices. -/
def MysqlDB.withSubtask (DeviceId : String) : MysqlDB :=
  { MysqlDB.empty with
    device_info := ⟨["d01", "d21"].map fun i =>
      { newDevice "rfid" with Id := i }, by decide⟩
    work_task := ⟨[markedMainTask, newSubtask DeviceId],
      show ["main", "sub"].Nodup by decide⟩ }

/-- The subtask is of the last chunk: the chunks end as one pass does. -/
theorem last_chunk_as_one_pass :
    SameResult
      ((chunked (workToPhone ToPcRc.allOk.win) (fun _ => true)
        (findChildTypeID TreeItem.area21)).run
          (World.fresh SqliteDB.empty (MysqlDB.withSubtask "d21")))
      ((onePass (workToPhone ToPcRc.allOk.win) (fun _ => true)
        (findChildTypeID TreeItem.area21)).run
          (World.fresh SqliteDB.empty (MysqlDB.withSubtask "d21"))) := by
  refine (chunks_as_one_pass_iff _ _ _ TreeItem.area21 (by decide)).2 fun r hr => ?_
  have hnone : ((TaskToPhoneRc.allOk ToPcRc.allOk.win).left (MysqlDB.withSubtask "d21")).newTasks
      ToPcRc.allOk.win (getArrayItems (findChildTypeID TreeItem.area21)).dropLast.flatten =
      [] := by
    rw [allOk_left]
    rfl
  rw [hnone] at hr
  exact absurd hr List.not_mem_nil

/-- The subtask is of the first chunk: the second one deletes it from the phone. -/
theorem first_chunk_lost :
    ¬SameResult
      ((chunked (workToPhone ToPcRc.allOk.win) (fun _ => true)
        (findChildTypeID TreeItem.area21)).run
          (World.fresh SqliteDB.empty (MysqlDB.withSubtask "d01")))
      ((onePass (workToPhone ToPcRc.allOk.win) (fun _ => true)
        (findChildTypeID TreeItem.area21)).run
          (World.fresh SqliteDB.empty (MysqlDB.withSubtask "d01"))) := by
  intro hsame
  have hnew := (chunked_same_iff _ _ _ (findChildTypeID_ne_empty TreeItem.area21)
    (by decide)).1 hsame (newSubtask "d01")
  rw [allOk_left] at hnew
  refine hnew ?_ (.inr (by decide))
  refine mem_newTasks.2 ⟨Table.mem_deleteIds.2 ⟨?_, by decide⟩, by decide⟩
  exact List.mem_cons_of_mem _ List.mem_cons_self

end MtpSync
