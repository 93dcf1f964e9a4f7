import MtpSync.Upload.Ends

/-!
# What a mark on the phone promises

A phone row marked as synchronised is never uploaded again, so the mark ought to say that the
server executed the row's statement, and an upload that answers `TRUE` ought to have uploaded
and marked every pending row.  Neither holds of the three to-PC routines; this file says exactly
when they do.

- §1 a table to upload, and when its rows get marked
- §2 rows marked without having been uploaded
- §3 failures that do not reach the result
-/

namespace MtpSync

/-! ## §1 A table to upload -/

/-- What a to-PC routine does with its table: the rows it selects, the statement it sends for a
row and the mark it sets. -/
structure UploadTable (C : Type) [DecidableEq C] where
  table : SqliteDB → SqlTable C
  /-- the column `SynchronState` -/
  state : C
  pending : SqliteDB → List (SqlRow C)
  upload : SqlRow C → MyStmt
  mark : SqliteDB → String → SqliteDB
  /-- what else has to succeed before statements are built -/
  ready : ToPcRc → Prop
  /-- whether the routine looks for the file before it opens it -/
  looksForFile : Bool
  mark_table : ∀ d i, table (mark d i) = (table d).setWhereId state "1" i
  pending_mem : ∀ {d r}, r ∈ pending d → r ∈ table d ∧ r.col state = some "0"
  upload_Id : ∀ {r r'}, upload r = upload r' → r.Id = r'.Id

/-- `work_record`, for the devices `ids`. -/
def recordUpload (win : Window) (ids : List String) : UploadTable WorkRecordCol where
  table := SqliteDB.work_record
  state := .SynchronState
  pending := SqliteDB.pendingRecords win ids
  upload := uploadRecord
  mark := SqliteDB.markRecord
  ready _ := True
  looksForFile := true
  mark_table _ _ := rfl
  pending_mem {d r} h := by
    simp only [SqliteDB.pendingRecords, Table.mem_select, Bool.and_eq_true, Text.eq_iff] at h
    exact ⟨h.1, h.2.1.1⟩
  upload_Id {r r'} h := by
    simp only [uploadRecord, MyStmt.replaceWorkRecord.injEq] at h
    have hId := congrArg Row.Id h
    exact hId

/-- `work_task`, for the devices `ids`. -/
def taskUpload (win : Window) (ids : List String) (Systemtime : String) :
    UploadTable WorkTaskCol where
  table := SqliteDB.work_task
  state := .SynchronState
  pending := SqliteDB.pendingTasks win ids
  upload := uploadTask Systemtime
  mark := SqliteDB.markTask
  ready rc := rc.now = .ok
  looksForFile := true
  mark_table _ _ := rfl
  pending_mem {d r} h := by
    simp only [SqliteDB.pendingTasks, Table.mem_select, Bool.and_eq_true, Text.eq_iff] at h
    exact ⟨h.1, h.2.1.2⟩
  upload_Id {r r'} h := by
    simp only [uploadTask, MyStmt.replaceWorkTask.injEq] at h
    have hId := congrArg Row.Id h.1
    exact hId

/-- `device_info`, for the areas or devices `ids`. -/
def deviceUpload (fw : TongbuFw) (win : Window) (ids : List String) :
    UploadTable DeviceInfoCol where
  table := SqliteDB.device_info
  state := .SynchronState
  pending := SqliteDB.pendingDevices fw win ids
  upload := uploadDevice
  mark := SqliteDB.markDevice
  ready _ := True
  looksForFile := false
  mark_table _ _ := rfl
  pending_mem {d r} h := by
    simp only [SqliteDB.pendingDevices, Table.mem_select, Bool.and_eq_true, Text.eq_iff] at h
    exact ⟨h.1, h.2.2⟩
  upload_Id {r r'} h := by
    simp only [uploadDevice, MyStmt.updateRFID.injEq] at h
    exact h.2

namespace UploadTable

variable {C : Type} [DecidableEq C] (t : UploadTable C) {rc : ToPcRc} {w w' : World}

/-- The outcomes let the routine get as far as marking the rows `stored`: the first statement of
every batch succeeded, and so did every call of the marking. -/
structure Marks (rc : ToPcRc) (w : World) (stored : List (SqlRow C)) : Prop where
  selected : uploadEnd t.pending rc w.sq = .selected stored
  ready : t.ready rc
  firsts : ∀ j < stored.length, j % UPDATEMAX = 0 → rc.update j = true
  marked : rc.mark.ok stored.length = true

/-- What is known of the end of a routine as far as marks go. -/
structure Effect (rc : ToPcRc) (w w' : World) : Prop where
  marks : ∀ stored, t.Marks rc w stored →
    w'.sq.file = w.sq.file.map (fun d => (rc.mark.bound (stored.map Row.Id)).foldl t.mark d) ∧
    w'.server.executed =
      w.server.executed ++ Batch.served 99 rc.update 0 (stored.map t.upload)
  keeps : (∀ stored, ¬t.Marks rc w stored) →
    ∀ d', w'.sq.file = .holds d' → w.sq.file = .holds d'

theorem foldl_mark (d : SqliteDB) (ids : List String) :
    t.table (ids.foldl t.mark d) =
      ids.foldl (fun tb i => tb.setWhereId t.state "1" i) (t.table d) := by
  induction ids generalizing d with
  | nil => rfl
  | cons i ids ih => rw [List.foldl_cons, ih, t.mark_table, List.foldl_cons]

/-- Rows are selected from a file that has tables. -/
theorem selected_file {stored : List (SqlRow C)}
    (h : uploadEnd t.pending rc w.sq = .selected stored) :
    ∃ d, w.sq.file = .holds d ∧ stored ≠ [] ∧ stored.length = (t.pending d).length ∧
      ∀ r ∈ stored, r ∈ t.pending d := by
  rcases Bool.eq_false_or_eq_true w.sq.eventOpenDB with hgate | hgate
  swap
  · rw [uploadEnd_waits _ hgate] at h
    cases h
  rcases Bool.eq_false_or_eq_true rc.openDb with hopen | hopen
  swap
  · rw [uploadEnd_notOpened _ hgate hopen] at h
    cases h
  by_cases hcount : (w.sq.file.tables.isSome && rc.count.returns) = true
  swap
  · rw [uploadEnd_notCounted _ hgate hopen (Bool.not_eq_true _ ▸ hcount)] at h
    cases h
  obtain ⟨htab, hcount⟩ := (Bool.and_eq_true _ _).mp hcount
  obtain ⟨d, hd⟩ := DbFile.eq_holds htab
  -- only a count above zero is followed by the select
  rw [uploadEnd_counted _ hgate hopen hd hcount] at h
  split at h
  · next hpos =>
    obtain ⟨_, hpos⟩ := (Bool.and_eq_true _ _).mp hpos
    split at h
    · cases h
    · cases h
    · next st hf =>
      cases h
      obtain ⟨hsub, hlen⟩ := FetchRc.fetched_some hf
      refine ⟨d, hd, ?_, hlen, hsub⟩
      rw [← List.length_pos_iff, hlen]
      exact of_decide_eq_true hpos
  · cases h

/-! ## §2 Marked without having been uploaded -/

/-- A row gets its mark only if the server executed its statement. -/
def OnlyUploadedMarked (w w' : World) : Prop :=
  ∀ d d', w.sq.file = .holds d → w'.sq.file = .holds d' →
    ∀ r ∈ t.table d, ∀ r' ∈ t.table d', r'.Id = r.Id →
      r.col t.state ≠ some "1" → r'.col t.state = some "1" →
      ∃ new, w'.server.executed = w.server.executed ++ new ∧ t.upload r ∈ new

/-- Every row of `stored` whose key the marking binds has a statement that the server got to and
executed: in its batch, no statement up to it fails. -/
def Served {ρ : Type} (rc : ToPcRc) (stored : List ρ) : Prop :=
  ∀ i r, stored[i]? = some r → rc.mark.bind i 0 = .ok → ∃ j, stored[j]? = some r ∧
    ∀ k, j - j % UPDATEMAX ≤ k → k ≤ j → rc.update k = true

omit [DecidableEq C] in
/-- The keys that the marking binds, row by row. -/
private theorem mem_bound_Id {stored : List (SqlRow C)} {x : String} :
    x ∈ rc.mark.bound (stored.map Row.Id) ↔
      ∃ (i : ℕ) (r : SqlRow C), stored[i]? = some r ∧ r.Id = x ∧ rc.mark.bind i 0 = .ok := by
  rw [QuickRc.mem_bound_id]
  simp only [List.getElem?_map, Option.map_eq_some_iff]
  constructor
  · rintro ⟨i, ⟨r, hr, hx⟩, hbind⟩
    exact ⟨i, r, hr, hx, hbind⟩
  · rintro ⟨i, r, hr, hx, hbind⟩
    exact ⟨i, ⟨r, hr, hx⟩, hbind⟩

/-- The rows after the marking. -/
private theorem mem_marked {d : SqliteDB} {ids : List String} {r' : SqlRow C} :
    r' ∈ t.table (ids.foldl t.mark d) ↔
      ∃ r ∈ t.table d, (if r.Id ∈ ids then r.setCol t.state "1" else r) = r' := by
  rw [t.foldl_mark, Table.mem_foldl_setWhereId]

private theorem reported_of_firsts {stored : List (SqlRow C)}
    (h : ∀ j < stored.length, j % UPDATEMAX = 0 → rc.update j = true) :
    Batch.reported 99 rc.update 0 (stored.map t.upload) = true := by
  rw [Batch.reported_iff]
  intro j hj hmod
  rw [Nat.zero_add]
  exact h j (by simpa using hj) hmod

/-- What was executed of the statements of `stored`. -/
private theorem mem_served_iff {stored : List (SqlRow C)} {st : MyStmt}
    (h : ∀ j < stored.length, j % UPDATEMAX = 0 → rc.update j = true) :
    st ∈ Batch.served 99 rc.update 0 (stored.map t.upload) ↔
      ∃ j, ∃ r, stored[j]? = some r ∧ t.upload r = st ∧
        ∀ k, j - j % UPDATEMAX ≤ k → k ≤ j → rc.update k = true := by
  rw [Batch.mem_served (t.reported_of_firsts h)]
  simp only [List.getElem?_map, Option.map_eq_some_iff, Nat.zero_add]
  constructor
  · rintro ⟨j, ⟨r, hr, hst⟩, hall⟩
    exact ⟨j, r, hr, hst, hall⟩
  · rintro ⟨j, r, hr, hst, hall⟩
    exact ⟨j, ⟨r, hr, hst⟩, hall⟩

/-- **Marked means uploaded**, for a routine with the effect above: exactly when every row it
gets to mark was served. -/
theorem onlyUploadedMarked_iff (h : t.Effect rc w w') :
    t.OnlyUploadedMarked w w' ↔ ∀ stored, t.Marks rc w stored → Served rc stored := by
  constructor
  · intro hall stored hm i r hr hbind
    obtain ⟨d, hd, -, -, hsub⟩ := t.selected_file hm.selected
    obtain ⟨hfile, hexec⟩ := h.marks stored hm
    obtain ⟨hmem, hzero⟩ := t.pending_mem (hsub r (List.mem_of_getElem? hr))
    -- the row is marked, so its statement was executed
    have hIds : r.Id ∈ rc.mark.bound (stored.map Row.Id) := mem_bound_Id.2 ⟨i, r, hr, rfl, hbind⟩
    obtain ⟨new, hnew, hup⟩ := hall d _ hd (by rw [hfile, hd]; rfl) r hmem
      (r.setCol t.state "1") (t.mem_marked.2 ⟨r, hmem, if_pos hIds⟩) rfl
      (by rw [hzero]; decide) (Row.setCol_self r t.state "1")
    rw [hexec, List.append_cancel_left_eq] at hnew
    rw [← hnew, t.mem_served_iff hm.firsts] at hup
    obtain ⟨j, r', hj, heq, hserved⟩ := hup
    -- its statement names its key, and the key names the row
    have hr' := (t.pending_mem (hsub r' (List.mem_of_getElem? hj))).1
    rw [Table.eq_of_Id_eq hr' hmem (t.upload_Id heq)] at hj
    exact ⟨j, hj, hserved⟩
  · intro hall d d' hd hd' r hr r' hr' hId hne hone
    by_cases hm : ∃ stored, t.Marks rc w stored
    · obtain ⟨stored, hm⟩ := hm
      obtain ⟨hfile, hexec⟩ := h.marks stored hm
      obtain ⟨d₀, hd₀, -, -, hsub⟩ := t.selected_file hm.selected
      rw [hd] at hd₀
      cases hd₀
      rw [hd, DbFile.map_holds, hd'] at hfile
      cases hfile
      obtain ⟨x, hx, hxr'⟩ := t.mem_marked.1 hr'
      have hxId : x.Id = r.Id := by
        rw [← hId, ← hxr']
        split
        · rfl
        · rfl
      have hxr : x = r := Table.eq_of_Id_eq hx hr hxId
      subst hxr
      by_cases hids : x.Id ∈ rc.mark.bound (stored.map Row.Id)
      · obtain ⟨i, y, hy, hyId, hbind⟩ := mem_bound_Id.1 hids
        have hyx : y = x :=
          Table.eq_of_Id_eq (t.pending_mem (hsub y (List.mem_of_getElem? hy))).1 hx hyId
        obtain ⟨j, hj, hserved⟩ := hall stored hm i x (hyx ▸ hy) hbind
        exact ⟨_, hexec, (t.mem_served_iff hm.firsts).2 ⟨j, x, hj, rfl, hserved⟩⟩
      · rw [if_neg hids] at hxr'
        rw [← hxr'] at hone
        exact absurd hone hne
    · -- nothing was marked: the row is as it was
      have hkeep := h.keeps (fun stored hs => hm ⟨stored, hs⟩) d' hd'
      rw [hd] at hkeep
      cases hkeep
      have hrr' : r' = r := Table.eq_of_Id_eq hr' hr hId
      rw [hrr'] at hone
      exact absurd hone hne

end UploadTable

section Effects

variable {rc : ToPcRc} {w : World}

private theorem reported_and_marked_iff {C : Type} [DecidableEq C] {t : UploadTable C}
    {stored : List (SqlRow C)} :
    (Batch.reported 99 rc.update 0 (stored.map t.upload) && rc.mark.ok stored.length) = true ↔
      (∀ j < stored.length, j % UPDATEMAX = 0 → rc.update j = true) ∧
        rc.mark.ok stored.length = true := by
  rw [Bool.and_eq_true, Batch.reported_iff, List.length_map]
  simp only [Nat.zero_add]
  exact Iff.rfl

private theorem no_file_not_selected {C : Type} [DecidableEq C] (t : UploadTable C)
    (hfile : w.sq.file.pathFileExists = false) (stored : List (SqlRow C)) :
    ¬t.Marks rc w stored := by
  intro h
  obtain ⟨d, hd, -⟩ := t.selected_file h.selected
  rw [hd] at hfile
  cases hfile

/-- The content a routine leaves when the rows `stored` were in hand. -/
private theorem effect_of_selected {C : Type} [DecidableEq C] {t : UploadTable C}
    {stored : List (SqlRow C)} {o : Except Halt Bool × World} {r : Except Halt Bool}
    (hsel : uploadEnd t.pending rc w.sq = .selected stored) (hready : t.ready rc)
    (h : Ended o r
      (if Batch.reported 99 rc.update 0 (stored.map t.upload) && rc.mark.ok stored.length then
        w.sq.file.map fun d => (rc.mark.bound (stored.map Row.Id)).foldl t.mark d
      else w.sq.file)
      (w.server.execAll (Batch.served 99 rc.update 0 (stored.map t.upload)))) :
    t.Effect rc w o.2 where
  marks st hm := by
    -- the rows of the mark are those of the select
    have hst : st = stored := by
      have hsel' := hm.selected
      rw [hsel] at hsel'
      cases hsel'
      rfl
    subst hst
    rw [h.file, if_pos (reported_and_marked_iff.2 ⟨hm.firsts, hm.marked⟩), h.server,
      Server.execAll_executed]
    exact ⟨rfl, rfl⟩
  keeps hno d' hd' := by
    rw [h.file, if_neg] at hd'
    · exact hd'
    · intro hb
      obtain ⟨hfirsts, hmarked⟩ := reported_and_marked_iff.1 hb
      exact hno stored ⟨hsel, hready, hfirsts, hmarked⟩

/-- A routine that does not get rows in hand changes no table. -/
private theorem effect_of_not_selected {C : Type} [DecidableEq C] {t : UploadTable C}
    {w' : World} (hno : ∀ stored, ¬t.Marks rc w stored)
    (hfile : w'.sq.file = w.sq.file ∨ w'.sq.file = w.sq.file.created) :
    t.Effect rc w w' where
  marks stored hm := absurd hm (hno stored)
  keeps _ d' hd' := by
    rcases hfile with hf | hf
    · rwa [hf] at hd'
    · rw [hf] at hd'
      exact DbFile.holds_of_created hd'

/-- `Synchrodata_work_record` has the effect. -/
theorem workRecord_effect (ids : List String) :
    (recordUpload rc.win ids).Effect rc w ((synchrodataWorkRecordToPc ids rc).run w).2 := by
  rcases Bool.eq_false_or_eq_true w.sq.file.pathFileExists with hfile | hfile
  swap
  · refine effect_of_not_selected (no_file_not_selected _ hfile) (Or.inl ?_)
    rw [synchrodataWorkRecordToPc_missing ids rc hfile]
  have h := synchrodataWorkRecordToPc_run ids rc w hfile
  simp only at h
  have hno : ∀ e, uploadEnd (recordUpload rc.win ids).pending rc w.sq = e →
      (∀ st, e ≠ .selected st) → ∀ stored, ¬(recordUpload rc.win ids).Marks rc w stored :=
    fun e he hne stored hm => hne stored (he.symm.trans hm.selected)
  cases he : uploadEnd (SqliteDB.pendingRecords rc.win ids) rc w.sq with
  | selected stored =>
    rw [he] at h
    exact effect_of_selected (t := recordUpload rc.win ids) he trivial h
  | _ =>
    rw [he] at h
    exact effect_of_not_selected (hno _ he (by simp)) (Or.inl h.file)

/-- `Synchrodata_device_info` has the effect. -/
theorem deviceInfo_effect (ids : List String) (fw : TongbuFw) :
    (deviceUpload fw rc.win ids).Effect rc w
      ((synchrodataDeviceInfoToPc ids fw rc).run w).2 := by
  have h := synchrodataDeviceInfoToPc_run ids fw rc w
  simp only at h
  have hno : ∀ e, uploadEnd (deviceUpload fw rc.win ids).pending rc w.sq = e →
      (∀ st, e ≠ .selected st) → ∀ stored, ¬(deviceUpload fw rc.win ids).Marks rc w stored :=
    fun e he hne stored hm => hne stored (he.symm.trans hm.selected)
  cases he : uploadEnd (SqliteDB.pendingDevices fw rc.win ids) rc w.sq with
  | selected stored =>
    rw [he] at h
    exact effect_of_selected (t := deviceUpload fw rc.win ids) he trivial h
  | notCounted =>
    rw [he] at h
    exact effect_of_not_selected (hno _ he (by simp)) (Or.inr h.file)
  | _ =>
    rw [he] at h
    exact effect_of_not_selected (hno _ he (by simp)) (Or.inl h.file)

/-- `Synchrodata_work_task` has the effect. -/
theorem workTask_effect (ids : List String) :
    (taskUpload rc.win ids rc.Systemtime).Effect rc w
      ((synchrodataWorkTaskToPc ids rc).run w).2 := by
  rcases Bool.eq_false_or_eq_true w.sq.file.pathFileExists with hfile | hfile
  swap
  · refine effect_of_not_selected (no_file_not_selected _ hfile) (Or.inl ?_)
    rw [synchrodataWorkTaskToPc_missing ids rc hfile]
  -- without a time the routine reads an empty vector and marks nothing
  by_cases hnow : rc.now = .storeFails
  · have h := synchrodataWorkTaskToPc_storeFails ids rc w hfile hnow
    simp only at h
    refine effect_of_not_selected ?_ (Or.inl ?_)
    · intro stored hm
      have hready : rc.now = .ok := hm.ready
      rw [hnow] at hready
      cases hready
    · rcases Bool.eq_false_or_eq_true w.sq.eventOpenDB with hgate | hgate
      · rcases Bool.eq_false_or_eq_true rc.openDb with hopen | hopen
        · exact (h.2.2 hgate hopen).file
        · exact (h.2.1 hgate hopen).file
      · exact (h.1 hgate).file
  have h := synchrodataWorkTaskToPc_run ids rc w hfile hnow
  simp only at h
  -- the other ends have selected no rows
  have hno : ∀ e, uploadEnd (taskUpload rc.win ids rc.Systemtime).pending rc w.sq = e →
      (∀ st, e ≠ .selected st) →
      ∀ stored, ¬(taskUpload rc.win ids rc.Systemtime).Marks rc w stored :=
    fun e he hne stored hm => hne stored (he.symm.trans hm.selected)
  cases he : uploadEnd (SqliteDB.pendingTasks rc.win ids) rc w.sq with
  | selected stored =>
    rw [he] at h
    cases hn : rc.now with
    | ok =>
      rw [hn] at h
      exact effect_of_selected (t := taskUpload rc.win ids rc.Systemtime) he hn h
    | queryFails =>
      rw [hn] at h
      refine effect_of_not_selected (fun st hm => ?_) (Or.inl h.file)
      have hready : rc.now = .ok := hm.ready
      rw [hn] at hready
      cases hready
    | storeFails => exact absurd hn hnow
  | _ =>
    rw [he] at h
    exact effect_of_not_selected (hno _ he (by simp)) (Or.inl h.file)

end Effects

/-- **Marks and uploads, to PC.**  Each of the three routines marks only what the server
executed exactly when every row it gets to mark was served. -/
theorem toPc_marks_only_uploaded_iff (ids : List String) (fw : TongbuFw) (rc : ToPcRc)
    (w : World) :
    ((recordUpload rc.win ids).OnlyUploadedMarked w ((synchrodataWorkRecordToPc ids rc).run w).2 ↔
      ∀ stored, (recordUpload rc.win ids).Marks rc w stored → UploadTable.Served rc stored) ∧
    ((taskUpload rc.win ids rc.Systemtime).OnlyUploadedMarked w
        ((synchrodataWorkTaskToPc ids rc).run w).2 ↔
      ∀ stored, (taskUpload rc.win ids rc.Systemtime).Marks rc w stored →
        UploadTable.Served rc stored) ∧
    ((deviceUpload fw rc.win ids).OnlyUploadedMarked w
        ((synchrodataDeviceInfoToPc ids fw rc).run w).2 ↔
      ∀ stored, (deviceUpload fw rc.win ids).Marks rc w stored → UploadTable.Served rc stored) :=
  ⟨(recordUpload rc.win ids).onlyUploadedMarked_iff (workRecord_effect ids),
    (taskUpload rc.win ids rc.Systemtime).onlyUploadedMarked_iff (workTask_effect ids),
    (deviceUpload fw rc.win ids).onlyUploadedMarked_iff (deviceInfo_effect ids fw)⟩

/-- A record of device `dev`, not uploaded yet. -/
def pendingRecord (i : String) : SqlRow WorkRecordCol where
  Id := i
  col := fun
    | .DeviceId => some "dev"
    | .SynchronState => some "0"
    | .CreateDate => some "2018-06-20 08:00:00"
    | _ => some ""

/-- A phone with two records to upload. -/
def twoRecords : SqliteDB :=
  { SqliteDB.empty with
    work_record := ⟨[pendingRecord "r1", pendingRecord "r2"], by decide⟩ }

/-- The second of two records is refused by the server and marked all the same. -/
theorem refused_record_marked :
    ¬(recordUpload ToPcRc.allOk.win ["dev"]).OnlyUploadedMarked
      (World.fresh twoRecords MysqlDB.empty)
      ((synchrodataWorkRecordToPc ["dev"] { ToPcRc.allOk with update := fun i => i == 0 }).run
        (World.fresh twoRecords MysqlDB.empty)).2 := by
  intro h
  obtain ⟨new, hnew, hmem⟩ := h twoRecords
    ((twoRecords.markRecord "r1").markRecord "r2") rfl rfl (pendingRecord "r2")
    (List.mem_cons_of_mem _ List.mem_cons_self)
    ((pendingRecord "r2").setCol .SynchronState "1")
    (List.mem_cons_of_mem _ List.mem_cons_self) rfl (by decide) rfl
  have hnew' : new = [uploadRecord (pendingRecord "r1")] := hnew.symm
  rw [hnew', List.mem_singleton] at hmem
  have hId := (recordUpload ToPcRc.allOk.win ["dev"]).upload_Id hmem
  exact absurd hId (by decide)

/-! ## §3 Failures that do not reach the result -/

namespace UploadTable

variable {C : Type} [DecidableEq C] (t : UploadTable C) {rc : ToPcRc} {w w' : World}

/-- The routine gets its database opened. -/
structure Opened (rc : ToPcRc) (w : World) : Prop where
  file : t.looksForFile = true → w.sq.file.pathFileExists = true
  gate : w.sq.eventOpenDB = true
  openDb : rc.openDb = true

/-- A step that was taken failed: the question for the time, the count, the select, a statement
of the update, or the marking, down to the bind of a row's key. -/
inductive StepFailed (rc : ToPcRc) (w : World) : Prop where
  | time (h : t.Opened rc w) (hready : ¬t.ready rc)
  | count (h : t.Opened rc w) (hcount : (w.sq.file.tables.isSome && rc.count.ok) = false)
  | select {d : SqliteDB} (h : t.Opened rc w) (hd : w.sq.file = .holds d)
      (hcount : rc.count.returns = true) (hrow : rc.count.row = true)
      (hpos : 0 < (t.pending d).length) (hsel : rc.select.ok (t.pending d).length = false)
  | update {stored : List (SqlRow C)} {i : ℕ}
      (hsel : uploadEnd t.pending rc w.sq = .selected stored) (hi : i < stored.length)
      (hfail : rc.update i = false)
  | mark {stored : List (SqlRow C)}
      (hsel : uploadEnd t.pending rc w.sq = .selected stored)
      (hfirsts : ∀ j < stored.length, j % UPDATEMAX = 0 → rc.update j = true)
      (hfail : rc.mark.ok stored.length = false ∨
        ∃ i < stored.length, rc.mark.bind i 0 ≠ .ok)

/-- Every pending row was executed by the server and carries the mark. -/
def AllUploaded (w w' : World) : Prop :=
  ∀ d, w.sq.file = .holds d → ∀ r ∈ t.pending d,
    (∃ new, w'.server.executed = w.server.executed ++ new ∧ t.upload r ∈ new) ∧
    ∃ d' r', w'.sq.file = .holds d' ∧ r' ∈ t.table d' ∧ r'.Id = r.Id ∧
      r'.col t.state = some "1"

/-- `TRUE` means that everything was uploaded and marked, and a failed step makes `FALSE`. -/
structure ReportsUpload (rc : ToPcRc) (w : World) (o : Except Halt Bool × World) : Prop where
  all : o.1 = .ok true → t.AllUploaded w o.2
  failures : t.StepFailed rc w → o.1 = .ok false

/-- Rows are selected only once the database is open. -/
theorem selected_opened {stored : List (SqlRow C)}
    (h : uploadEnd t.pending rc w.sq = .selected stored) : t.Opened rc w := by
  obtain ⟨d, hd, -⟩ := t.selected_file h
  refine ⟨fun _ => by rw [hd]; rfl, ?_, ?_⟩
  · by_contra hgate
    rw [uploadEnd_waits _ (Bool.not_eq_true _ ▸ hgate)] at h
    cases h
  · by_contra hopen
    rcases Bool.eq_false_or_eq_true w.sq.eventOpenDB with hgate | hgate
    · rw [uploadEnd_notOpened _ hgate (Bool.not_eq_true _ ▸ hopen)] at h
      cases h
    · rw [uploadEnd_waits _ hgate] at h
      cases h

theorem StepFailed.opened (h : t.StepFailed rc w) : t.Opened rc w := by
  cases h with
  | time h => exact h
  | count h => exact h
  | select h => exact h
  | update hsel => exact t.selected_opened hsel
  | mark hsel => exact t.selected_opened hsel

/-- With every call of count and select successful, the rows in hand are the pending ones. -/
private theorem uploadEnd_of_no_failure {d : SqliteDB} (hopen : t.Opened rc w)
    (hno : ¬t.StepFailed rc w) (hd : w.sq.file = .holds d) (hpos : 0 < (t.pending d).length) :
    uploadEnd t.pending rc w.sq = .selected (t.pending d) := by
  have hcount : rc.count.ok = true := by
    by_contra hc
    have hc' := Bool.not_eq_true _ ▸ hc
    exact hno (.count hopen (by rw [hd, hc', Bool.and_false]))
  simp only [CountRc.ok, Bool.and_eq_true] at hcount
  obtain ⟨⟨hret, hrow⟩, -⟩ := hcount
  have hsel : rc.select.ok (t.pending d).length = true := by
    by_contra hs
    exact hno (.select hopen hd hret hrow hpos (Bool.not_eq_true _ ▸ hs))
  rw [uploadEnd_counted _ hopen.gate hopen.openDb hd hret, hrow,
    if_pos (by rw [Bool.true_and]; exact decide_eq_true hpos), FetchRc.fetched_ok hsel]

/-- When no step fails, everything is uploaded and marked. -/
theorem allUploaded_of_no_failure (h : t.Effect rc w w') (hopen : t.Opened rc w)
    (hno : ¬t.StepFailed rc w) : t.AllUploaded w w' := by
  intro d hd r hr
  have hsel := t.uploadEnd_of_no_failure hopen hno hd (List.length_pos_of_mem hr)
  have hupdate : ∀ i < (t.pending d).length, rc.update i = true := by
    intro i hi
    by_contra hu
    exact hno (.update hsel hi (Bool.not_eq_true _ ▸ hu))
  have hmark : rc.mark.ok (t.pending d).length = true := by
    by_contra hm
    exact hno (.mark hsel (fun j hj _ => hupdate j hj) (.inl (Bool.not_eq_true _ ▸ hm)))
  have hbind : ∀ i < (t.pending d).length, rc.mark.bind i 0 = .ok := by
    intro i hi
    by_contra hb
    exact hno (.mark hsel (fun j hj _ => hupdate j hj) (.inr ⟨i, hi, hb⟩))
  have hready : t.ready rc := by
    by_contra hr
    exact hno (.time hopen hr)
  have hfirsts : ∀ j < (t.pending d).length, j % UPDATEMAX = 0 → rc.update j = true :=
    fun j hj _ => hupdate j hj
  -- so the rows were marked, and every batch of them was executed
  obtain ⟨hfile, hexec⟩ := h.marks _ ⟨hsel, hready, hfirsts, hmark⟩
  obtain ⟨j, hj⟩ := List.getElem?_of_mem hr
  obtain ⟨hlt, -⟩ := List.getElem?_eq_some_iff.1 hj
  have hIds : r.Id ∈ rc.mark.bound ((t.pending d).map Row.Id) :=
    mem_bound_Id.2 ⟨j, r, hj, rfl, hbind j hlt⟩
  refine ⟨⟨_, hexec, ?_⟩, _, r.setCol t.state "1", by rw [hfile, hd]; rfl, ?_, rfl, ?_⟩
  · exact (t.mem_served_iff hfirsts).2
      ⟨j, r, hj, rfl, fun k _ hk => hupdate k (Nat.lt_of_le_of_lt hk hlt)⟩
  · exact t.mem_marked.2 ⟨r, (t.pending_mem hr).1, if_pos hIds⟩
  · exact Row.setCol_self r t.state "1"

/-- A routine that answers `TRUE` only over an open database tells the upload's result exactly
when no step failed, or it answers `FALSE`. -/
private theorem reportsUpload_iff {o : Except Halt Bool × World} {F : Prop}
    (heff : t.Effect rc w o.2) (htrue : o.1 = .ok true → t.Opened rc w)
    (hfalse : t.StepFailed rc w → (o.1 = .ok false ↔ F)) :
    t.ReportsUpload rc w o ↔ ¬t.StepFailed rc w ∨ F := by
  constructor
  · intro h
    by_cases hfail : t.StepFailed rc w
    · exact .inr ((hfalse hfail).1 (h.failures hfail))
    · exact .inl hfail
  · rintro (hno | hF)
    · exact ⟨fun ht => t.allUploaded_of_no_failure heff (htrue ht) hno, fun hf => absurd hf hno⟩
    · by_cases hfail : t.StepFailed rc w
      · have ho := (hfalse hfail).2 hF
        refine ⟨fun ht => ?_, fun _ => ho⟩
        rw [ho] at ht
        cases ht
      · exact ⟨fun ht => t.allUploaded_of_no_failure heff (htrue ht) hfail,
          fun hf => absurd hf hfail⟩

end UploadTable

/-- The first statement of some batch of the rows `stored` fails. -/
def FirstOfBatchFails {ρ : Type} (rc : ToPcRc) (stored : List ρ) : Prop :=
  ∃ j < stored.length, j % UPDATEMAX = 0 ∧ rc.update j = false

private theorem reported_false_iff {ρ : Type} {rc : ToPcRc} {stored : List ρ}
    {f : ρ → MyStmt} :
    Batch.reported 99 rc.update 0 (stored.map f) = false ↔ FirstOfBatchFails rc stored := by
  rw [← Bool.not_eq_true, Batch.reported_iff, FirstOfBatchFails]
  simp only [List.length_map, Nat.zero_add]
  push Not
  simp only [Bool.not_eq_true]
  exact Iff.rfl

section Reports

variable {rc : ToPcRc} {w : World}

/-- Past the opening, the database is open. -/
private theorem opened_of_uploadEnd {C : Type} [DecidableEq C] {t : UploadTable C}
    (hfile : t.looksForFile = true → w.sq.file.pathFileExists = true)
    (hwaits : uploadEnd t.pending rc w.sq ≠ .waits)
    (hnot : uploadEnd t.pending rc w.sq ≠ .notOpened) : t.Opened rc w := by
  refine ⟨hfile, ?_, ?_⟩
  · by_contra hgate
    exact hwaits (uploadEnd_waits _ (Bool.not_eq_true _ ▸ hgate))
  · by_contra hopen
    rcases Bool.eq_false_or_eq_true w.sq.eventOpenDB with hgate | hgate
    · exact hnot (uploadEnd_notOpened _ hgate (Bool.not_eq_true _ ▸ hopen))
    · exact hwaits (uploadEnd_waits _ hgate)

private theorem uploadEnd_of_opened {C : Type} [DecidableEq C] {t : UploadTable C}
    (h : t.Opened rc w) :
    uploadEnd t.pending rc w.sq ≠ .waits ∧ uploadEnd t.pending rc w.sq ≠ .notOpened := by
  rw [uploadEnd, if_pos h.gate, if_pos h.openDb]
  grind

/-- The work records: `TRUE` after every failure, so that a failed step is never reported. -/
private theorem workRecord_reports_iff (ids : List String) :
    (recordUpload rc.win ids).ReportsUpload rc w ((synchrodataWorkRecordToPc ids rc).run w) ↔
      ¬(recordUpload rc.win ids).StepFailed rc w := by
  rw [(recordUpload rc.win ids).reportsUpload_iff (F := False) (workRecord_effect ids), or_false]
  · -- a TRUE means that the database was opened
    intro htrue
    rcases Bool.eq_false_or_eq_true w.sq.file.pathFileExists with hfile | hfile
    swap
    · rw [synchrodataWorkRecordToPc_missing ids rc hfile] at htrue
      cases htrue
    have h := synchrodataWorkRecordToPc_run ids rc w hfile
    refine opened_of_uploadEnd (fun _ => hfile) (fun he => ?_) (fun he => ?_) <;>
    · simp only [show uploadEnd (SqliteDB.pendingRecords rc.win ids) rc w.sq = _ from he] at h
      rw [h.result] at htrue
      cases htrue
  · -- once it is open the routine answers TRUE, whatever fails after it
    intro hfail
    have hopen := hfail.opened
    obtain ⟨hwaits, hnot⟩ := uploadEnd_of_opened hopen
    have h := synchrodataWorkRecordToPc_run ids rc w (hopen.file rfl)
    rw [iff_false]
    intro hfalse
    cases he : uploadEnd (SqliteDB.pendingRecords rc.win ids) rc w.sq with
    | waits => exact hwaits he
    | notOpened => exact hnot he
    | _ =>
      simp only [he] at h
      rw [h.result] at hfalse
      cases hfalse

/-- The tasks: a failed count, and a batch that fails at its first statement, give `FALSE`. -/
private theorem workTask_reports_iff (ids : List String) :
    (taskUpload rc.win ids rc.Systemtime).ReportsUpload rc w
        ((synchrodataWorkTaskToPc ids rc).run w) ↔
      ¬(taskUpload rc.win ids rc.Systemtime).StepFailed rc w ∨
        (rc.now ≠ .storeFails ∧
          uploadEnd (SqliteDB.pendingTasks rc.win ids) rc w.sq = .notCounted ∨
        rc.now = .ok ∧ ∃ stored,
          uploadEnd (SqliteDB.pendingTasks rc.win ids) rc w.sq = .selected stored ∧
            FirstOfBatchFails rc stored) := by
  refine (taskUpload rc.win ids rc.Systemtime).reportsUpload_iff (workTask_effect ids)
    (fun htrue => ?_) (fun hfail => ?_)
  · rcases Bool.eq_false_or_eq_true w.sq.file.pathFileExists with hfile | hfile
    swap
    · rw [synchrodataWorkTaskToPc_missing ids rc hfile] at htrue
      cases htrue
    by_cases hnow : rc.now = .storeFails
    · obtain ⟨hw, hn, ho⟩ := synchrodataWorkTaskToPc_storeFails ids rc w hfile hnow
      refine ⟨fun _ => hfile, ?_, ?_⟩
      · by_contra hgate
        rw [(hw (Bool.not_eq_true _ ▸ hgate)).result] at htrue
        cases htrue
      · by_contra hopen
        rcases Bool.eq_false_or_eq_true w.sq.eventOpenDB with hgate | hgate
        · rw [(hn hgate (Bool.not_eq_true _ ▸ hopen)).result] at htrue
          cases htrue
        · rw [(hw hgate).result] at htrue
          cases htrue
    have h := synchrodataWorkTaskToPc_run ids rc w hfile hnow
    refine opened_of_uploadEnd (fun _ => hfile) (fun he => ?_) (fun he => ?_) <;>
    · simp only [show uploadEnd (SqliteDB.pendingTasks rc.win ids) rc w.sq = _ from he] at h
      rw [h.result] at htrue
      cases htrue
  · have hopen := hfail.opened
    obtain ⟨hwaits, hnot⟩ := uploadEnd_of_opened hopen
    -- the vector is empty: the routine does not come to an answer
    by_cases hnow : rc.now = .storeFails
    · have hend := (synchrodataWorkTaskToPc_storeFails ids rc w (hopen.file rfl) hnow).2.2
        hopen.gate hopen.openDb
      rw [hend.result, hnow]
      simp
    have h := synchrodataWorkTaskToPc_run ids rc w (hopen.file rfl) hnow
    cases he : uploadEnd (SqliteDB.pendingTasks rc.win ids) rc w.sq with
    | waits => exact absurd he hwaits
    | notOpened => exact absurd he hnot
    -- the answer is that of the update, where a time was read
    | selected stored =>
      simp only [he] at h
      cases hn : rc.now with
      | ok =>
        simp only [hn] at h
        rw [h.result]
        simp [reported_false_iff]
      | queryFails =>
        simp only [hn] at h
        rw [h.result]
        simp
      | storeFails => exact absurd hn hnow
    | _ =>
      simp only [he] at h
      rw [h.result]
      simp [hnow]

/-- The devices: here the marking is looked at, too. -/
private theorem deviceInfo_reports_iff (ids : List String) (fw : TongbuFw) :
    (deviceUpload fw rc.win ids).ReportsUpload rc w
        ((synchrodataDeviceInfoToPc ids fw rc).run w) ↔
      ¬(deviceUpload fw rc.win ids).StepFailed rc w ∨
        (uploadEnd (SqliteDB.pendingDevices fw rc.win ids) rc w.sq = .notCounted ∨
        ∃ stored,
          uploadEnd (SqliteDB.pendingDevices fw rc.win ids) rc w.sq = .selected stored ∧
            (FirstOfBatchFails rc stored ∨ rc.mark.ok stored.length = false)) := by
  have h := synchrodataDeviceInfoToPc_run ids fw rc w
  refine (deviceUpload fw rc.win ids).reportsUpload_iff (deviceInfo_effect ids fw)
    (fun htrue => ?_) (fun hfail => ?_)
  · refine opened_of_uploadEnd (fun hl => by cases hl) (fun he => ?_) (fun he => ?_) <;>
    · simp only [show uploadEnd (SqliteDB.pendingDevices fw rc.win ids) rc w.sq = _ from he] at h
      rw [h.result] at htrue
      cases htrue
  · obtain ⟨hwaits, hnot⟩ := uploadEnd_of_opened hfail.opened
    cases he : uploadEnd (SqliteDB.pendingDevices fw rc.win ids) rc w.sq with
    | waits => exact absurd he hwaits
    | notOpened => exact absurd he hnot
    -- the answer is that of the update and of the mark
    | selected stored =>
      simp only [he] at h
      rw [h.result]
      simp only [← reported_false_iff (f := uploadDevice)]
      cases hrep : Batch.reported 99 rc.update 0 (stored.map uploadDevice) <;> simp [hrep]
    | _ =>
      simp only [he] at h
      rw [h.result]
      simp

end Reports

/-- **What `TRUE` says, to PC.**  The answer of the record routine is right only when nothing
fails; the other two also report a failed count and a batch failing at its first statement, and
the device routine reports its marking. -/
theorem toPc_reports_upload_iff (ids : List String) (fw : TongbuFw) (rc : ToPcRc) (w : World) :
    ((recordUpload rc.win ids).ReportsUpload rc w ((synchrodataWorkRecordToPc ids rc).run w) ↔
      ¬(recordUpload rc.win ids).StepFailed rc w) ∧
    ((taskUpload rc.win ids rc.Systemtime).ReportsUpload rc w
        ((synchrodataWorkTaskToPc ids rc).run w) ↔
      ¬(taskUpload rc.win ids rc.Systemtime).StepFailed rc w ∨
        (rc.now ≠ .storeFails ∧
          uploadEnd (SqliteDB.pendingTasks rc.win ids) rc w.sq = .notCounted ∨
        rc.now = .ok ∧ ∃ stored,
          uploadEnd (SqliteDB.pendingTasks rc.win ids) rc w.sq = .selected stored ∧
            FirstOfBatchFails rc stored)) ∧
    ((deviceUpload fw rc.win ids).ReportsUpload rc w
        ((synchrodataDeviceInfoToPc ids fw rc).run w) ↔
      ¬(deviceUpload fw rc.win ids).StepFailed rc w ∨
        (uploadEnd (SqliteDB.pendingDevices fw rc.win ids) rc w.sq = .notCounted ∨
        ∃ stored,
          uploadEnd (SqliteDB.pendingDevices fw rc.win ids) rc w.sq = .selected stored ∧
            (FirstOfBatchFails rc stored ∨ rc.mark.ok stored.length = false))) :=
  ⟨workRecord_reports_iff ids, workTask_reports_iff ids, deviceInfo_reports_iff ids fw⟩

/-- The server refuses the first record, nothing is uploaded, and the answer is `TRUE`. -/
theorem refused_upload_answers_true :
    ¬(recordUpload ToPcRc.allOk.win ["dev"]).ReportsUpload
      { ToPcRc.allOk with update := fun _ => false } (World.fresh twoRecords MysqlDB.empty)
      ((synchrodataWorkRecordToPc ["dev"] { ToPcRc.allOk with update := fun _ => false }).run
        (World.fresh twoRecords MysqlDB.empty)) := by
  intro h
  have hsel : uploadEnd (SqliteDB.pendingRecords ToPcRc.allOk.win ["dev"])
      { ToPcRc.allOk with update := fun _ => false } (World.fresh twoRecords MysqlDB.empty).sq =
        .selected [pendingRecord "r1", pendingRecord "r2"] := rfl
  have hfail := h.failures (.update hsel (i := 0) (by decide) rfl)
  cases hfail

end MtpSync
