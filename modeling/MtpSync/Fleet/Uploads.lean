import MtpSync.Lib.Outbox
import MtpSync.Fleet.Effects
import MtpSync.SyncEnd

/-!
# What a sync uploads

To the server, the phone's database is an outbox: the rows with `SynchronState` `'0'` wait there,
each chunk of a sync sends those of its devices and marks them.  When no call fails, the routines
of all chunks together do what the rounds of an outbox do.

- §1 the outbox of a phone
- §2 marks
- §3 a routine that succeeds
- §4 the chunks
- §5 `BeginSwitchData`
-/

namespace MtpSync

open Act Outbox

/-! ## §1 The outbox of a phone -/

/-- A row of one of the tables that go to the server. -/
inductive PhoneRow where
  | device_info (r : SqlRow DeviceInfoCol)
  | work_task (r : SqlRow WorkTaskCol)
  | work_record (r : SqlRow WorkRecordCol)

namespace PhoneRow

/-- The row with `SynchronState` `'1'`. -/
def marked : PhoneRow → PhoneRow
  | device_info r => device_info (r.setCol .SynchronState "1")
  | work_task r => work_task (r.setCol .SynchronState "1")
  | work_record r => work_record (r.setCol .SynchronState "1")

/-- The table of a row and its id. -/
def key : PhoneRow → MarkTable × String
  | device_info r => (.device_info, r.Id)
  | work_task r => (.work_task, r.Id)
  | work_record r => (.work_record, r.Id)

/-- `SynchronState` is `'0'`. -/
def Waits : PhoneRow → Prop
  | device_info r => r.col .SynchronState = some "0"
  | work_task r => r.col .SynchronState = some "0"
  | work_record r => r.col .SynchronState = some "0"

@[simp] theorem marked_key (x : PhoneRow) : x.marked.key = x.key := by
  cases x <;> rfl

theorem not_waits_marked (x : PhoneRow) : ¬x.marked.Waits := by
  cases x <;> simp [marked, Waits]

end PhoneRow

/-- The rows of the tables that go to the server. -/
def SqliteDB.outbox (d : SqliteDB) : List PhoneRow :=
  d.device_info.rows.map .device_info ++ d.work_task.rows.map .work_task ++
    d.work_record.rows.map .work_record

theorem SqliteDB.outbox_nodup (d : SqliteDB) : (d.outbox.map PhoneRow.key).Nodup := by
  have hkeys : d.outbox.map PhoneRow.key =
      (d.device_info.ids.map fun i => (MarkTable.device_info, i)) ++
        (d.work_task.ids.map fun i => (MarkTable.work_task, i)) ++
        d.work_record.ids.map fun i => (MarkTable.work_record, i) := by
    simp only [outbox, Table.ids, List.map_append, List.map_map]
    rfl
  have htable : ∀ (t : MarkTable) (ids : List String), ids.Nodup →
      (ids.map fun i => (t, i)).Nodup := fun t ids h => h.map fun _ _ heq => (Prod.mk.inj heq).2
  rw [hkeys]
  refine ((htable _ _ d.device_info.nodup).append (htable _ _ d.work_task.nodup) ?_).append
    (htable _ _ d.work_record.nodup) ?_
  · intro k hk hk'
    obtain ⟨i, -, rfl⟩ := List.mem_map.1 hk
    simp at hk'
  · intro k hk hk'
    obtain ⟨i, -, rfl⟩ := List.mem_map.1 hk'
    simp at hk

/-- What `Synchrodata_work_task` sends, to PC, for one chunk. -/
def taskRound (win : Window) (Systemtime : String) (ids : List String) : Round PhoneRow MyStmt
  | .work_task r =>
    if (r.col .DeviceId).isIn ids && (r.col .SynchronState).eq "0" &&
      win.contains (r.col .CreateDate) then some (uploadTask Systemtime r) else none
  | _ => none

/-- What `Synchrodata_work_record` sends, to PC, for one chunk. -/
def recordRound (win : Window) (ids : List String) : Round PhoneRow MyStmt
  | .work_record r =>
    if (r.col .SynchronState).eq "0" && win.contains (r.col .CreateDate) &&
      (r.col .DeviceId).isIn ids then some (uploadRecord r) else none
  | _ => none

/-- What `Synchrodata_device_info` sends, to PC, for one chunk. -/
def deviceRound (fw : TongbuFw) (win : Window) (ids : List String) : Round PhoneRow MyStmt
  | .device_info r =>
    if (match fw with
        | .areas => (r.col .AreaId).isIn ids
        | .devices => ids.contains r.Id) &&
      win.contains (r.col .CreateDate) && (r.col .SynchronState).eq "0" then
      some (uploadDevice r) else none
  | _ => none

/-- What an upload is about: the table and the id of its row. -/
def MyStmt.uploadKey : MyStmt → Option (MarkTable × String)
  | .replaceWorkRecord r => some (.work_record, r.Id)
  | .replaceWorkTask r _ => some (.work_task, r.Id)
  | .updateRFID _ i => some (.device_info, i)
  | _ => none

/-- A round that sends waiting rows only, and for each a statement about it. -/
structure Uploads (c : Round PhoneRow MyStmt) : Prop where
  waits : ∀ x st, c x = some st → x.Waits
  key : ∀ x st, c x = some st → st.uploadKey = some x.key

theorem uploads_taskRound (win : Window) (Systemtime : String) (ids : List String) :
    Uploads (taskRound win Systemtime ids) where
  waits x st h := by
    cases x with
    | work_task r =>
      simp only [taskRound, Option.ite_none_right_eq_some, Bool.and_eq_true, Text.eq_iff] at h
      exact h.1.1.2
    | _ => cases h
  key x st h := by
    cases x with
    | work_task r =>
      simp only [taskRound, Option.ite_none_right_eq_some, Option.some_inj] at h
      rw [← h.2]
      rfl
    | _ => cases h

theorem uploads_recordRound (win : Window) (ids : List String) :
    Uploads (recordRound win ids) where
  waits x st h := by
    cases x with
    | work_record r =>
      simp only [recordRound, Option.ite_none_right_eq_some, Bool.and_eq_true, Text.eq_iff] at h
      exact h.1.1.1
    | _ => cases h
  key x st h := by
    cases x with
    | work_record r =>
      simp only [recordRound, Option.ite_none_right_eq_some, Option.some_inj] at h
      rw [← h.2]
      rfl
    | _ => cases h

theorem uploads_deviceRound (fw : TongbuFw) (win : Window) (ids : List String) :
    Uploads (deviceRound fw win ids) where
  waits x st h := by
    cases x with
    | device_info r =>
      simp only [deviceRound, Option.ite_none_right_eq_some, Bool.and_eq_true, Text.eq_iff] at h
      exact h.1.2
    | _ => cases h
  key x st h := by
    cases x with
    | device_info r =>
      simp only [deviceRound, Option.ite_none_right_eq_some, Option.some_inj] at h
      rw [← h.2]
      rfl
    | _ => cases h

/-- Marked rows are not sent. -/
theorem respected_of_uploads {cs : List (Round PhoneRow MyStmt)} (h : ∀ c ∈ cs, Uploads c) :
    Respected PhoneRow.marked cs := by
  intro c hc x
  rw [Option.eq_none_iff_forall_ne_some]
  exact fun st hst => x.not_waits_marked ((h c hc).waits _ st hst)

/-! ## §2 Marks -/

/-- The database with the rows marked that the rounds take. -/
def SqliteDB.uploaded (cs : List (Round PhoneRow MyStmt)) (d : SqliteDB) : SqliteDB :=
  { d with
    device_info := d.device_info.updateWhere (fun r => (first cs (.device_info r)).isSome)
      (setText .SynchronState "1")
    work_task := d.work_task.updateWhere (fun r => (first cs (.work_task r)).isSome)
      (setText .SynchronState "1")
    work_record := d.work_record.updateWhere (fun r => (first cs (.work_record r)).isSome)
      (setText .SynchronState "1") }

section Marks

variable {C : Type} [DecidableEq C] {cs cs' : List (Round PhoneRow MyStmt)}

omit [DecidableEq C] in
private theorem Table.ext_rows {t t' : SqlTable C} (h : t.rows = t'.rows) : t = t' := by
  cases t
  cases t'
  cases h
  rfl

/-- Marking the rows of some ids. -/
private theorem rows_foldl_setWhereId (t : SqlTable C) (c : C) (s : String) (ids : List String) :
    (ids.foldl (fun t i => t.setWhereId c s i) t).rows =
      t.rows.map fun r => if r.Id ∈ ids then r.setCol c s else r := by
  induction ids generalizing t with
  | nil => simp
  | cons i ids ih =>
    rw [List.foldl_cons, ih]
    have hone : (t.setWhereId c s i).rows =
        t.rows.map fun r => if r.Id = i then r.setCol c s else r := by
      simp only [Table.setWhereId, Table.updateWhere, beq_iff_eq, Row.setCol]
    rw [hone, List.map_map]
    refine List.map_congr_left fun r _ => ?_
    -- a row that is hit twice is as if hit once
    by_cases hi : r.Id = i <;> by_cases hmem : r.Id ∈ ids <;> simp [hi, hmem]

/-- **Marking selected rows** by their ids marks the rows selected. -/
private theorem foldl_setWhereId_select (t : SqlTable C) (c : C) (s : String)
    (p : SqlRow C → Bool) :
    ((t.select p).map Row.Id).foldl (fun t i => t.setWhereId c s i) t =
      t.updateWhere p (setText c s) := by
  refine Table.ext_rows ?_
  rw [rows_foldl_setWhereId]
  refine List.map_congr_left fun r hr => ?_
  have hiff : r.Id ∈ (t.select p).map Row.Id ↔ p r = true := by
    constructor
    · intro h
      obtain ⟨x, hx, hId⟩ := List.mem_map.1 h
      obtain ⟨hmem, hpx⟩ := Table.mem_select.1 hx
      rwa [← Table.eq_of_Id_eq hmem hr hId]
    · exact fun hp => List.mem_map_of_mem (Table.mem_select.2 ⟨hr, hp⟩)
  simp only [hiff]
  rfl

/-- The same, of the table that `put` puts into a database. -/
private theorem foldl_mark_select (put : SqlTable C → SqliteDB)
    {mark : SqliteDB → String → SqliteDB} (c : C)
    (hmark : ∀ t i, mark (put t) i = put (t.setWhereId c "1" i)) (t : SqlTable C)
    (p : SqlRow C → Bool) :
    ((t.select p).map Row.Id).foldl mark (put t) = put (t.updateWhere p (setText c "1")) := by
  have hfold : ∀ (ids : List String) (t : SqlTable C),
      ids.foldl mark (put t) = put (ids.foldl (fun t i => t.setWhereId c "1" i) t) := by
    intro ids
    induction ids with
    | nil => exact fun _ => rfl
    | cons i ids ih =>
      intro t
      rw [List.foldl_cons, List.foldl_cons, hmark, ih]
  rw [hfold, foldl_setWhereId_select]

omit [DecidableEq C] in
/-- A table of which no row is marked. -/
private theorem updateWhere_none (t : SqlTable C) (f : (C → Text) → C → Text)
    {p : SqlRow C → Bool} (h : ∀ r, p r = false) : t.updateWhere p f = t := by
  refine Table.ext_rows ?_
  simp [Table.updateWhere, h]

/-- Marks after marks. -/
private theorem updateWhere_twice (t : SqlTable C) (c : C) {row : SqlRow C → PhoneRow}
    (hrow : ∀ r, row (r.setCol c "1") = (row r).marked) (h : Respected PhoneRow.marked cs') :
    (t.updateWhere (fun r => (first cs (row r)).isSome) (setText c "1")).updateWhere
        (fun r => (first cs' (row r)).isSome) (setText c "1") =
      t.updateWhere (fun r => (first (cs ++ cs') (row r)).isSome) (setText c "1") := by
  refine Table.ext_rows ?_
  simp only [Table.updateWhere, List.map_map]
  refine List.map_congr_left fun r _ => ?_
  simp only [Function.comp_apply, first_append]
  rcases Option.eq_none_or_eq_some (first cs (row r)) with hfirst | ⟨st, hfirst⟩
  · simp [hfirst]
  · -- later rounds leave the marked row alone
    have hmarked : first cs' (row { r with col := setText c "1" r.col }) = none :=
      (congrArg (first cs') (hrow r)).trans (h.first_mark (row r))
    simp [hfirst, hmarked]

theorem SqliteDB.uploaded_append (h : Respected PhoneRow.marked cs') (d : SqliteDB) :
    (d.uploaded cs).uploaded cs' = d.uploaded (cs ++ cs') := by
  rw [uploaded, uploaded, uploaded]
  dsimp only
  rw [updateWhere_twice d.device_info .SynchronState (fun _ => rfl) h,
    updateWhere_twice d.work_task .SynchronState (fun _ => rfl) h,
    updateWhere_twice d.work_record .SynchronState (fun _ => rfl) h]

@[simp] theorem SqliteDB.uploaded_nil (d : SqliteDB) : d.uploaded [] = d := by
  have hnone : ∀ x : PhoneRow, (first ([] : List (Round PhoneRow MyStmt)) x).isSome = false :=
    fun _ => rfl
  rw [uploaded, updateWhere_none _ _ fun r => hnone (.device_info r),
    updateWhere_none _ _ fun r => hnone (.work_task r),
    updateWhere_none _ _ fun r => hnone (.work_record r)]

/-- What is left in the outbox. -/
theorem SqliteDB.uploaded_outbox (h : Respected PhoneRow.marked cs) (d : SqliteDB) :
    (d.uploaded cs).outbox = left PhoneRow.marked cs d.outbox := by
  have htable : ∀ {C : Type} [DecidableEq C] (t : SqlTable C) (c : C) (row : SqlRow C → PhoneRow),
      (∀ r, row (r.setCol c "1") = (row r).marked) →
      (t.updateWhere (fun r => (first cs (row r)).isSome) (setText c "1")).rows.map row =
        (t.rows.map row).map fun x => if (first cs x).isSome then x.marked else x := by
    intro C _ t c row hrow
    simp only [Table.updateWhere, List.map_map]
    refine List.map_congr_left fun r _ => ?_
    simp only [Function.comp_apply]
    split
    · exact hrow r
    · rfl
  rw [left_eq h, outbox, outbox, List.map_append, List.map_append]
  exact congrArg₂ _ (congrArg₂ _ (htable _ _ _ fun _ => rfl) (htable _ _ _ fun _ => rfl))
    (htable _ _ _ fun _ => rfl)

end Marks

/-! ## §3 A routine that succeeds -/

/-- No call of a to-PC routine fails. -/
structure ToPcRc.Succeeds (rc : ToPcRc) : Prop where
  openDb : rc.openDb = true
  now : rc.now = .ok
  count : rc.count.ok = true
  select : ∀ n, rc.select.ok n = true
  update : ∀ j, rc.update j = true
  mark : ∀ n, rc.mark.ok n = true
  bind : rc.mark.Binds

/-- Between two routines: the temporary file holds `d`, the gate is released, nothing is queued. -/
structure World.Waiting (w : World) (d : SqliteDB) : Prop where
  file : w.sq.file = .holds d
  tx : w.sq.tx = none
  gate : w.sq.eventOpenDB = true
  queue : w.updateMysqlData = []

/-- The routine answers `TRUE`, what the rounds send is executed and the rows are marked. -/
def Drains (m : Act World Bool) (cs : List (Round PhoneRow MyStmt)) : Prop :=
  ∀ w d, w.Waiting d → ∃ w', m.run w = (.ok true, w') ∧ w'.Waiting (d.uploaded cs) ∧
    w'.server = w.server.execAll (sent PhoneRow.marked cs d.outbox)

section Routines

variable {C ρ : Type} {rc : ToPcRc} {w : World} {d : SqliteDB}

/-- Every pending row is selected. -/
private theorem uploadEnd_of_succeeds (hrc : rc.Succeeds) (hw : w.Waiting d)
    (pending : SqliteDB → List ρ) : uploadEnd pending rc w.sq =
      if 0 < (pending d).length then .selected (pending d) else .nothing := by
  have hcount := hrc.count
  simp only [CountRc.ok, Bool.and_eq_true] at hcount
  obtain ⟨⟨hreturns, hrow⟩, -⟩ := hcount
  rw [uploadEnd_counted pending hw.gate hrc.openDb hw.file hreturns, hrow,
    FetchRc.fetched_ok (hrc.select _)]
  simp

private theorem ended_of_selected {rows : List (SqlRow C)} {upload : SqlRow C → MyStmt}
    {mark : SqliteDB → String → SqliteDB} {o : Except Halt Bool × World} {r : Except Halt Bool}
    (hrc : rc.Succeeds) (hw : w.Waiting d)
    (h : Ended o r
      (if Batch.reported 99 rc.update 0 (rows.map upload) && rc.mark.ok rows.length then
        w.sq.file.map fun d => (rc.mark.bound (rows.map Row.Id)).foldl mark d
      else w.sq.file)
      (w.server.execAll (Batch.served 99 rc.update 0 (rows.map upload)))) :
    Ended o r (.holds ((rows.map Row.Id).foldl mark d)) (w.server.execAll (rows.map upload)) := by
  rw [Batch.reported_of_ok hrc.update, Batch.served_of_ok hrc.update, hrc.mark, hrc.bind.bound,
    hw.file] at h
  exact h

/-- With nothing pending, nothing is sent and nothing is marked. -/
private theorem ended_of_nothing {rows : List (SqlRow C)} {upload : SqlRow C → MyStmt}
    {mark : SqliteDB → String → SqliteDB} {o : Except Halt Bool × World} {r : Except Halt Bool}
    (hw : w.Waiting d) (hrows : ¬0 < rows.length) (h : Ended o r w.sq.file w.server) :
    Ended o r (.holds ((rows.map Row.Id).foldl mark d)) (w.server.execAll (rows.map upload)) := by
  rw [List.length_eq_zero_iff.1 (Nat.eq_zero_of_not_pos hrows)]
  rw [hw.file] at h
  exact h

private theorem workTask_ended (hrc : rc.Succeeds) (hw : w.Waiting d) (ids : List String) :
    Ended ((synchrodataWorkTaskToPc ids rc).run w) (.ok true)
      (.holds (((d.pendingTasks rc.win ids).map Row.Id).foldl SqliteDB.markTask d))
      (w.server.execAll ((d.pendingTasks rc.win ids).map (uploadTask rc.Systemtime))) := by
  have hnow : rc.now ≠ .storeFails := by
    rw [hrc.now]
    decide
  have h := synchrodataWorkTaskToPc_run ids rc w (by rw [hw.file]; rfl) hnow
  simp only [uploadEnd_of_succeeds hrc hw] at h
  by_cases hpos : 0 < (d.pendingTasks rc.win ids).length
  · simp only [hpos, if_true, hrc.now] at h
    rw [Batch.reported_of_ok hrc.update] at h
    refine ended_of_selected hrc hw ?_
    rw [Batch.reported_of_ok hrc.update]
    exact h
  · rw [if_neg hpos] at h
    exact ended_of_nothing hw hpos h

private theorem workRecord_ended (hrc : rc.Succeeds) (hw : w.Waiting d) (ids : List String) :
    Ended ((synchrodataWorkRecordToPc ids rc).run w) (.ok true)
      (.holds (((d.pendingRecords rc.win ids).map Row.Id).foldl SqliteDB.markRecord d))
      (w.server.execAll ((d.pendingRecords rc.win ids).map uploadRecord)) := by
  have h := synchrodataWorkRecordToPc_run ids rc w (by rw [hw.file]; rfl)
  simp only [uploadEnd_of_succeeds hrc hw] at h
  by_cases hpos : 0 < (d.pendingRecords rc.win ids).length
  · rw [if_pos hpos] at h
    exact ended_of_selected hrc hw h
  · rw [if_neg hpos] at h
    exact ended_of_nothing hw hpos h

private theorem deviceInfo_ended (hrc : rc.Succeeds) (hw : w.Waiting d) (ids : List String)
    (fw : TongbuFw) :
    Ended ((synchrodataDeviceInfoToPc ids fw rc).run w) (.ok true)
      (.holds (((d.pendingDevices fw rc.win ids).map Row.Id).foldl SqliteDB.markDevice d))
      (w.server.execAll ((d.pendingDevices fw rc.win ids).map uploadDevice)) := by
  have h := synchrodataDeviceInfoToPc_run ids fw rc w
  simp only [uploadEnd_of_succeeds hrc hw] at h
  by_cases hpos : 0 < (d.pendingDevices fw rc.win ids).length
  · rw [if_pos hpos] at h
    have hres : (Batch.reported 99 rc.update 0 ((d.pendingDevices fw rc.win ids).map
        uploadDevice) && rc.mark.ok (d.pendingDevices fw rc.win ids).length) = true := by
      rw [Batch.reported_of_ok hrc.update, hrc.mark]
      rfl
    have hended := ended_of_selected hrc hw h
    rw [hres] at hended
    exact hended
  · rw [if_neg hpos] at h
    exact ended_of_nothing hw hpos h

/-- What one round sends of one table. -/
private theorem filterMap_rows {row : SqlRow C → PhoneRow} {c : Round PhoneRow MyStmt}
    {p : SqlRow C → Bool} {upload : SqlRow C → MyStmt}
    (hc : ∀ r, c (row r) = if p r then some (upload r) else none) (l : List (SqlRow C)) :
    (l.map row).filterMap c = (l.filter p).map upload := by
  induction l with
  | nil => rfl
  | cons r l ih =>
    rw [List.map_cons, List.filterMap_cons, hc, ih]
    cases hp : p r with
    | true => simp [hp]
    | false => simp [hp]

/-- A round of another table. -/
private theorem filterMap_none {row : SqlRow C → PhoneRow} {c : Round PhoneRow MyStmt}
    (hc : ∀ r, c (row r) = none) (l : List (SqlRow C)) : (l.map row).filterMap c = [] := by
  rw [List.filterMap_map, List.filterMap_eq_nil_iff]
  exact fun r _ => hc r

private theorem first_singleton (c : Round PhoneRow MyStmt) (x : PhoneRow) :
    first [c] x = c x := by
  rw [first_cons]
  exact Option.or_none

/-- A routine, from what it ends with. -/
private theorem drains_of_ended {m : Act World Bool} {c : Round PhoneRow MyStmt}
    (hleaves : Leaves m) (hqueue : Keeps SameQueue m)
    (h : ∀ w d, w.Waiting d → Ended (m.run w) (.ok true) (.holds (d.uploaded [c]))
      (w.server.execAll (d.outbox.filterMap c))) : Drains m [c] := by
  intro w d hw
  obtain ⟨hres, hfile, hserver⟩ := h w d hw
  have hrun : m.run w = (.ok true, (m.run w).2) := Prod.ext hres rfl
  obtain ⟨htx, hgate⟩ := hleaves w true _ hw.tx hrun
  refine ⟨_, hrun, ⟨hfile, htx, hgate hw.gate, (hqueue w).trans hw.queue⟩, ?_⟩
  rw [hserver, sent, sent, List.append_nil]

/-- What one round marks of its table. -/
private theorem updateWhere_round [DecidableEq C] {row : SqlRow C → PhoneRow}
    {c : Round PhoneRow MyStmt} {p : SqlRow C → Bool} {upload : SqlRow C → MyStmt}
    (hc : ∀ r, c (row r) = if p r then some (upload r) else none) (t : SqlTable C)
    (f : (C → Text) → C → Text) :
    t.updateWhere (fun r => (first [c] (row r)).isSome) f = t.updateWhere p f := by
  have hp : (fun r => (first [c] (row r)).isSome) = p := by
    funext r
    rw [first_singleton, hc]
    cases p r <;> rfl
  rw [hp]

/-- What one round marks of another table. -/
private theorem updateWhere_other [DecidableEq C] {row : SqlRow C → PhoneRow}
    {c : Round PhoneRow MyStmt} (hc : ∀ r, c (row r) = none) (t : SqlTable C)
    (f : (C → Text) → C → Text) :
    t.updateWhere (fun r => (first [c] (row r)).isSome) f = t :=
  updateWhere_none t f fun r => by rw [first_singleton, hc, Option.isSome_none]

/-- **`Synchrodata_work_task`**, to PC, when no call fails. -/
theorem workTask_drains (hrc : rc.Succeeds) (ids : List String) :
    Drains (synchrodataWorkTaskToPc ids rc) [taskRound rc.win rc.Systemtime ids] := by
  refine drains_of_ended (leaves_workTaskToPc ids rc) (sameQueue_workTaskToPc ids rc) ?_
  intro w d hw
  have hfile : ((d.pendingTasks rc.win ids).map Row.Id).foldl SqliteDB.markTask d =
      d.uploaded [taskRound rc.win rc.Systemtime ids] := by
    refine (foldl_mark_select (fun t => { d with work_task := t }) .SynchronState
      (fun _ _ => rfl) d.work_task _).trans ?_
    rw [SqliteDB.uploaded,
      updateWhere_other (fun _ => rfl), updateWhere_round (fun _ => rfl),
      updateWhere_other (fun _ => rfl)]
  have hsent : d.outbox.filterMap (taskRound rc.win rc.Systemtime ids) =
      (d.pendingTasks rc.win ids).map (uploadTask rc.Systemtime) := by
    rw [SqliteDB.outbox, List.filterMap_append, List.filterMap_append,
      filterMap_none (fun _ => rfl), filterMap_rows (fun _ => rfl), filterMap_none (fun _ => rfl),
      List.nil_append, List.append_nil]
    rfl
  rw [← hfile, hsent]
  exact workTask_ended hrc hw ids

/-- **`Synchrodata_work_record`**, to PC, when no call fails. -/
theorem workRecord_drains (hrc : rc.Succeeds) (ids : List String) :
    Drains (synchrodataWorkRecordToPc ids rc) [recordRound rc.win ids] := by
  refine drains_of_ended (leaves_workRecordToPc ids rc) (sameQueue_workRecordToPc ids rc) ?_
  intro w d hw
  have hfile : ((d.pendingRecords rc.win ids).map Row.Id).foldl SqliteDB.markRecord d =
      d.uploaded [recordRound rc.win ids] := by
    refine (foldl_mark_select (fun t => { d with work_record := t }) .SynchronState
      (fun _ _ => rfl) d.work_record _).trans ?_
    rw [SqliteDB.uploaded,
      updateWhere_other (fun _ => rfl), updateWhere_other (fun _ => rfl),
      updateWhere_round (fun _ => rfl)]
  have hsent : d.outbox.filterMap (recordRound rc.win ids) =
      (d.pendingRecords rc.win ids).map uploadRecord := by
    rw [SqliteDB.outbox, List.filterMap_append, List.filterMap_append,
      filterMap_none (fun _ => rfl), filterMap_none (fun _ => rfl), filterMap_rows (fun _ => rfl),
      List.nil_append, List.nil_append]
    rfl
  rw [← hfile, hsent]
  exact workRecord_ended hrc hw ids

/-- **`Synchrodata_device_info`**, to PC, when no call fails. -/
theorem deviceInfo_drains (hrc : rc.Succeeds) (ids : List String) (fw : TongbuFw) :
    Drains (synchrodataDeviceInfoToPc ids fw rc) [deviceRound fw rc.win ids] := by
  refine drains_of_ended (leaves_deviceInfoToPc ids fw rc) (sameQueue_deviceInfoToPc ids fw rc) ?_
  intro w d hw
  have hfile : ((d.pendingDevices fw rc.win ids).map Row.Id).foldl SqliteDB.markDevice d =
      d.uploaded [deviceRound fw rc.win ids] := by
    have hround := updateWhere_round
      (fun r => show deviceRound fw rc.win ids (.device_info r) = _ from rfl) d.device_info
      (setText .SynchronState "1")
    refine (foldl_mark_select (fun t => { d with device_info := t }) .SynchronState
      (fun _ _ => rfl) d.device_info _).trans ?_
    rw [SqliteDB.uploaded,
      updateWhere_other (fun _ => rfl) d.work_task, updateWhere_other (fun _ => rfl) d.work_record]
    exact congrArg (fun t => { d with device_info := t }) hround.symm
  have hsent : d.outbox.filterMap (deviceRound fw rc.win ids) =
      (d.pendingDevices fw rc.win ids).map uploadDevice := by
    rw [SqliteDB.outbox, List.filterMap_append, List.filterMap_append,
      filterMap_rows (fun _ => rfl), filterMap_none (fun _ => rfl), filterMap_none (fun _ => rfl),
      List.append_nil, List.append_nil]
    rfl
  rw [← hfile, hsent]
  exact deviceInfo_ended hrc hw ids fw

end Routines

/-! ## §4 The chunks -/

/-- What the routines to PC send for one chunk, in their order. -/
def chunkRounds (sel : Selection) (mode : RadioChoose) (rc : SwitchRc) (k : ℕ)
    (ids : List String) : List (Round PhoneRow MyStmt) :=
  match mode with
  | .radio_user => []
  | .radio_devices => [deviceRound sel.fw (rc.devices k).toPc.win ids]
  | .radio_work =>
    [taskRound (rc.work k).taskToPc.win (rc.work k).taskToPc.Systemtime ids,
      recordRound (rc.work k).recordToPc.win ids]

/-- What the chunks send, from chunk `k` on. -/
def roundsFrom (rounds : ℕ → List String → List (Round PhoneRow MyStmt)) :
    ℕ → List (List String) → List (Round PhoneRow MyStmt)
  | _, [] => []
  | k, chunk :: chunks =>
    (if chunk = [] then [] else rounds k chunk) ++ roundsFrom rounds (k + 1) chunks

/-- The rounds of a sync to the server. -/
def Selection.rounds (sel : Selection) (mode : RadioChoose) (rc : SwitchRc) :
    List (Round PhoneRow MyStmt) :=
  if sel.hasChunks mode then
    roundsFrom (chunkRounds sel mode rc) 0 (getArrayItems (sel.chunkIds mode))
  else []

/-- No call of the routines to PC of a mode fails, in no chunk. -/
def SwitchRc.Succeeds (rc : SwitchRc) : RadioChoose → Prop
  | .radio_user => True
  | .radio_devices => ∀ k, (rc.devices k).toPc.Succeeds
  | .radio_work => ∀ k, (rc.work k).taskToPc.Succeeds ∧ (rc.work k).recordToPc.Succeeds

theorem uploads_chunkRounds (sel : Selection) (mode : RadioChoose) (rc : SwitchRc) (k : ℕ)
    (ids : List String) : ∀ c ∈ chunkRounds sel mode rc k ids, Uploads c := by
  intro c hc
  cases mode with
  | radio_user => cases hc
  | radio_devices =>
    obtain rfl := List.mem_singleton.1 hc
    exact uploads_deviceRound _ _ _
  | radio_work =>
    rcases List.mem_cons.1 hc with rfl | hc
    · exact uploads_taskRound _ _ _
    · obtain rfl := List.mem_singleton.1 hc
      exact uploads_recordRound _ _

section Chunks

variable {m m' : Act World Bool} {cs cs' : List (Round PhoneRow MyStmt)}
  {routine : ℕ → List String → Act World Bool}
  {rounds : ℕ → List String → List (Round PhoneRow MyStmt)} {sel : Selection}
  {mode : RadioChoose} {rc : SwitchRc}

private theorem uploads_roundsFrom (h : ∀ k ids, ∀ c ∈ rounds k ids, Uploads c) (k : ℕ)
    (chunks : List (List String)) : ∀ c ∈ roundsFrom rounds k chunks, Uploads c := by
  induction chunks generalizing k with
  | nil => exact fun c hc => absurd hc List.not_mem_nil
  | cons chunk chunks ih =>
    intro c hc
    rcases List.mem_append.1 hc with hc | hc
    · split at hc
      · cases hc
      · exact h k chunk c hc
    · exact ih (k + 1) c hc

/-- Every round of a sync sends waiting rows only. -/
theorem Selection.uploads_rounds (sel : Selection) (mode : RadioChoose) (rc : SwitchRc) :
    ∀ c ∈ sel.rounds mode rc, Uploads c := by
  intro c hc
  rw [rounds] at hc
  split at hc
  · exact uploads_roundsFrom (uploads_chunkRounds sel mode rc) 0 _ c hc
  · cases hc

private theorem drains_pure : Drains (pure true) [] := by
  intro w d hw
  refine ⟨w, rfl, ?_, rfl⟩
  rw [SqliteDB.uploaded_nil]
  exact hw

/-- **One after the other**: the second meets the marks of the first. -/
theorem Drains.andAlso (hm : Drains m cs) (hm' : Drains m' cs')
    (h : Respected PhoneRow.marked cs) (h' : Respected PhoneRow.marked cs') :
    Drains (m >>= fun a => m' >>= fun b => pure (a && b)) (cs ++ cs') := by
  intro w d hw
  obtain ⟨w₁, hrun, hw₁, hserver⟩ := hm w d hw
  obtain ⟨w₂, hrun', hw₂, hserver'⟩ := hm' w₁ (d.uploaded cs) hw₁
  refine ⟨w₂, ?_, ?_, ?_⟩
  · rw [bind_run_ok hrun, bind_run_ok hrun']
    rfl
  · rw [← SqliteDB.uploaded_append h']
    exact hw₂
  · rw [hserver', hserver, sent_append, Server.execAll_append, SqliteDB.uploaded_outbox h]

/-- One chunk of devices' tasks. -/
private theorem workChunk_drains {rc : WorkRc} (htask : rc.taskToPc.Succeeds)
    (hrecord : rc.recordToPc.Succeeds) (ids : List String) :
    Drains (workChunk .tongbu_to_pc rc ids)
      [taskRound rc.taskToPc.win rc.taskToPc.Systemtime ids,
        recordRound rc.recordToPc.win ids] := by
  refine (workTask_drains htask ids).andAlso (workRecord_drains hrecord ids)
    (respected_of_uploads fun c hc => ?_) (respected_of_uploads fun c hc => ?_)
  · obtain rfl := List.mem_singleton.1 hc
    exact uploads_taskRound _ _ _
  · obtain rfl := List.mem_singleton.1 hc
    exact uploads_recordRound _ _

/-- **All chunks**, from one on. -/
private theorem forChunks_drains (hroutine : ∀ k ids, Drains (routine k ids) (rounds k ids))
    (hrounds : ∀ k ids, ∀ c ∈ rounds k ids, Uploads c) (k : ℕ) (chunks : List (List String)) :
    Drains (forChunks routine k chunks) (roundsFrom rounds k chunks) := by
  induction chunks generalizing k with
  | nil => exact drains_pure
  | cons chunk chunks ih =>
    have hrest := respected_of_uploads (uploads_roundsFrom hrounds (k + 1) chunks)
    unfold forChunks
    rw [roundsFrom]
    -- an empty chunk is skipped
    by_cases hempty : chunk = []
    · rw [if_pos hempty, if_pos hempty]
      exact drains_pure.andAlso (ih (k + 1))
        (respected_of_uploads fun _ hc => absurd hc List.not_mem_nil) hrest
    · rw [if_neg hempty, if_neg hempty]
      exact (hroutine k chunk).andAlso (ih (k + 1)) (respected_of_uploads (hrounds k chunk)) hrest

/-- A block to PC: at its end nothing is queued. -/
private theorem chunked_drains {ids : List String}
    (h : Drains (forChunks routine 0 (getArrayItems ids)) cs) (update : ℕ → Bool) :
    Drains (chunked routine update ids) cs := by
  intro w d hw
  have hremove : (removeAll).run w = (.ok (), { w with updateMysqlData := [] }) := rfl
  obtain ⟨w', hrun, hw', hserver⟩ :=
    h { w with updateMysqlData := [] } d ⟨hw.file, hw.tx, hw.gate, rfl⟩
  have hqueued : (updateQueued update).run w' = (.ok true, w') := by
    rw [updateQueued_run, hw'.queue, Batch.reported_nil, Batch.served_nil, Server.execAll_nil,
      ← hw'.queue]
  refine ⟨w', ?_, hw', hserver⟩
  rw [chunked, bind_run_ok hremove, bind_run_ok hrun, bind_run_ok hqueued]
  rfl

end Chunks

/-! ## §5 `BeginSwitchData` -/

section Sync

variable {sel : Selection} {mode : RadioChoose} {rc : SwitchRc}

/-- The block of a mode, from its routine for one chunk. -/
private theorem block_drains {block : Act World Bool} {routine : ℕ → List String → Act World Bool}
    (hblock : block = if sel.hasChunks mode then
      chunked routine rc.update (sel.chunkIds mode) else pure true)
    (hroutine : ∀ k ids, Drains (routine k ids) (chunkRounds sel mode rc k ids)) :
    Drains block (sel.rounds mode rc) := by
  rw [hblock, Selection.rounds]
  cases sel.hasChunks mode with
  | true =>
    exact chunked_drains
      (forChunks_drains hroutine (uploads_chunkRounds sel mode rc) 0 _) rc.update
  | false => exact drains_pure

private theorem devicesBlock_drains (hrc : rc.Succeeds .radio_devices) :
    Drains (devicesBlock sel .tongbu_to_pc rc) (sel.rounds .radio_devices rc) := by
  refine block_drains ?_ fun k ids => deviceInfo_drains (hrc k) ids sel.fw
  unfold devicesBlock
  simp only [Selection.hasChunks, Selection.chunkIds, Selection.deviceScope, Selection.fw,
    devicesChunk]
  by_cases hdev : sel.m_treeCtrl_curItem.isDevice = true
  · simp [hdev]
  · by_cases harea : sel.m_treeCtrl_curItem.isArea = true <;> simp [hdev, harea]

private theorem workBlock_drains (hrc : rc.Succeeds .radio_work) :
    Drains (workBlock sel .tongbu_to_pc rc) (sel.rounds .radio_work rc) :=
  block_drains rfl fun k ids => workChunk_drains (hrc k).1 (hrc k).2 ids

/-- **`BeginSwitchData`**, to PC, from the end of the delete pass on. -/
theorem beginSwitchData_drains (hmode : mode ≠ .radio_user) (hinit : rc.init = true)
    (hrc : rc.Succeeds mode) {w w₀ : World} {b : Bool} {d : SqliteDB}
    (hpass : (deleteAreaAndDevice sel.mapOrder sel.m_deleteTree rc.deleteArea).run
      { w with updateMysqlData := [] } = (.ok b, w₀)) (hw : w₀.Waiting d) :
    ∃ w', (beginSwitchData sel .tongbu_to_pc mode rc).run w = (.ok true, w') ∧
      w'.Waiting (d.uploaded (sel.rounds mode rc)) ∧
      w'.server = w₀.server.execAll (sent PhoneRow.marked (sel.rounds mode rc) d.outbox) := by
  have hremove : (removeAll).run w = (.ok (), { w with updateMysqlData := [] }) := rfl
  unfold beginSwitchData
  rw [bind_run_ok hremove, if_pos hinit, bind_run_ok hpass]
  cases mode with
  | radio_user => exact absurd rfl hmode
  | radio_devices => exact devicesBlock_drains hrc w₀ d hw
  | radio_work => exact workBlock_drains hrc w₀ d hw

end Sync

end MtpSync
