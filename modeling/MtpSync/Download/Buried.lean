import MtpSync.Download.DeletePass

/-!
# Rows deleted from the server

A row the server has marked as deleted stays there until the phone's copy is gone; then it is
deleted for real.  `Buried` says of the temporary file that it has no row that was deleted from
the server for real.  Nothing copied later can bring such a row back.

The passes keep this when their deletes of the file reach what the server loses.  Whether they do
is seen from the tables before a pass and from what its calls return.

- §1 the tables rows are deleted from, and how the server loses a row
- §2 changes of the file
- §3 the delete pass
- §4 the deletes of tasks
- §5 the other routines
- §6 the marks
-/

namespace MtpSync

open Act

/-! ## §1 The tables -/

/-- The keys of a table that is on the server and on the phone. -/
inductive BuriedTable where
  | areas | device_info | work_task | sys_user
  deriving DecidableEq

/-- The keys on the server. -/
def BuriedTable.serverIds (db : MysqlDB) : BuriedTable → List String
  | .areas => db.areas.ids
  | .device_info => db.device_info.ids
  | .work_task => db.work_task.ids
  | .sys_user => db.sys_user.ids

/-- The keys on the phone, where accounts are in `user_table`. -/
def BuriedTable.phoneIds (d : SqliteDB) : BuriedTable → List String
  | .areas => d.areas.ids
  | .device_info => d.device_info.ids
  | .work_task => d.work_task.ids
  | .sys_user => d.user_table.ids

/-- What the server has lost of a table is not in the file. -/
def BuriedTable.Buries (T : BuriedTable) (db db' : MysqlDB) (d : SqliteDB) : Prop :=
  ∀ i ∈ T.serverIds db, i ∉ T.serverIds db' → i ∉ T.phoneIds d

/-- What the server has lost is not in the file. -/
def Buried (db₀ : MysqlDB) (v : View) : Prop :=
  ∀ T : BuriedTable, ∀ d, v.file = .holds d → T.Buries db₀ v.db d

namespace BuriedTable

variable {T : BuriedTable} {db db' db'' : MysqlDB} {d d' : SqliteDB}

/-- The server has lost nothing. -/
theorem buries_of_subset (h : ∀ i ∈ T.serverIds db, i ∈ T.serverIds db') : T.Buries db db' d :=
  fun i hi hno => absurd (h i hi) hno

/-- What was lost before stays out of the file, and so does what is lost now. -/
theorem Buries.trans (h : T.Buries db db' d) (hsub : ∀ i ∈ T.phoneIds d', i ∈ T.phoneIds d)
    (h' : T.Buries db' db'' d') : T.Buries db db'' d' := by
  intro i hi hno
  by_cases hmem : i ∈ T.serverIds db'
  · exact h' i hmem hno
  · exact fun hphone => h i hi hmem (hsub i hphone)

end BuriedTable

/-- How statements delete the row of key `i` of the server: by its key, a user with an area or as a
marked one, a task as one whose device is not left. -/
def BuriedTable.LostBy (db : MysqlDB) (sts : List MyStmt) (i : String) : BuriedTable → Prop
  | .areas => .deleteAreas i ∈ sts
  | .device_info => .deleteDeviceInfo i ∈ sts
  | .work_task => .deleteWorkTask i ∈ sts ∨ .deleteOrphanWorkTask ∈ sts ∧
      ∃ r ∈ db.work_task, r.Id = i ∧
        Text.Outside db.device_info.ids (fun j => .deleteDeviceInfo j ∈ sts) (r.col .DeviceId)
  | .sys_user => ∃ u ∈ db.sys_user, u.Id = i ∧
      ((∃ j, u.col .data_areas = some j ∧ .deleteSysUserOf j ∈ sts) ∨
        .deleteSysUserReal ∈ sts ∧ u.col .SynchronState = some "3")

theorem BuriedTable.not_lostBy_nil {T : BuriedTable} {db : MysqlDB} {i : String} :
    ¬T.LostBy db [] i := by
  cases T <;> simp [BuriedTable.LostBy]

/-- One delete leaves the devices that are not its own. -/
private theorem mem_device_ids_exec {st : MyStmt} (hdel : st.deletes = true) {i : String}
    (hne : st ≠ .deleteDeviceInfo i) {db : MysqlDB} (hi : i ∈ db.device_info.ids) :
    i ∈ (st.exec db).device_info.ids := by
  cases st with
  | replaceWorkRecord | replaceWorkTask | updateRFID | mark | markWorkTaskState2 => cases hdel
  | deleteDeviceInfo j =>
    obtain ⟨r, hr, rfl⟩ := Table.mem_ids.1 hi
    refine Table.mem_ids.2 ⟨r, Table.mem_deleteId.2 ⟨hr, fun hj => hne ?_⟩, rfl⟩
    rw [hj]
  | _ => exact hi

private theorem mem_device_ids_execAll {sts : List MyStmt}
    (hdel : ∀ st ∈ sts, st.deletes = true) {i : String} (hno : .deleteDeviceInfo i ∉ sts)
    {db : MysqlDB} (hi : i ∈ db.device_info.ids) : i ∈ (db.execAll sts).device_info.ids := by
  induction sts generalizing db with
  | nil => exact hi
  | cons st sts ih =>
    rw [List.forall_mem_cons] at hdel
    rw [List.mem_cons, not_or] at hno
    exact ih hdel.2 hno.2 (mem_device_ids_exec hdel.1 (Ne.symm hno.1) hi)

/-- The delete that takes the row, after the deletes `before` it. -/
private theorem lostBy_of_exec {T : BuriedTable} {db db₀ : MysqlDB} {before sts : List MyStmt}
    {st : MyStmt} {i : String} (hdb : db = db₀.execAll before)
    (hbefore : ∀ st ∈ before, st.deletes = true) (hmem : ∀ st ∈ before, st ∈ sts)
    (hst : st ∈ sts) (hdel : st.deletes = true) (hi : i ∈ T.serverIds db)
    (hno : i ∉ T.serverIds (st.exec db)) : T.LostBy db₀ sts i := by
  have hsub : db.Sub db₀ := hdb ▸ MysqlDB.execAll_sub hbefore db₀
  cases st with
  | replaceWorkRecord | replaceWorkTask | updateRFID | mark | markWorkTaskState2 => cases hdel
  | deleteWorkRecordOf j | deleteOrphanWorkType | deleteOrphanWorkTemplate
  | deleteOrphanWorkRecord => cases T <;> exact absurd hi hno
  | deleteDeviceInfo j =>
    cases T with
    | device_info =>
      by_cases hj : j = i
      · exact hj ▸ hst
      · exact absurd (mem_device_ids_exec hdel (fun h => hj (MyStmt.deleteDeviceInfo.inj h)) hi)
          hno
    | _ => exact absurd hi hno
  | deleteAreas j =>
    cases T with
    | areas =>
      obtain ⟨r, hr, rfl⟩ := Table.mem_ids.1 hi
      by_cases hj : r.Id = j
      · exact hj ▸ hst
      · exact absurd (Table.mem_ids.2 ⟨r, Table.mem_deleteId.2 ⟨hr, hj⟩, rfl⟩) hno
    | _ => exact absurd hi hno
  | deleteWorkTask j =>
    cases T with
    | work_task =>
      obtain ⟨r, hr, rfl⟩ := Table.mem_ids.1 hi
      by_cases hj : r.Id = j
      · exact .inl (hj ▸ hst)
      · exact absurd (Table.mem_ids.2 ⟨r, Table.mem_deleteId.2 ⟨hr, hj⟩, rfl⟩) hno
    | _ => exact absurd hi hno
  | deleteSysUserOf j =>
    cases T with
    | sys_user =>
      obtain ⟨u, hu, rfl⟩ := Table.mem_ids.1 hi
      by_cases hj : u.col .data_areas = some j
      · exact ⟨u, hsub.sys_user u hu, rfl, .inl ⟨j, hj, hst⟩⟩
      · exact absurd (Table.mem_ids.2 ⟨u, Table.mem_deleteEq.2 ⟨hu, hj⟩, rfl⟩) hno
    | _ => exact absurd hi hno
  | deleteSysUserReal =>
    cases T with
    | sys_user =>
      obtain ⟨u, hu, rfl⟩ := Table.mem_ids.1 hi
      by_cases hj : u.col .SynchronState = some "3"
      · exact ⟨u, hsub.sys_user u hu, rfl, .inr ⟨hst, hj⟩⟩
      · exact absurd (Table.mem_ids.2 ⟨u, Table.mem_deleteEq.2 ⟨hu, hj⟩, rfl⟩) hno
    | _ => exact absurd hi hno
  | deleteOrphanWorkTask =>
    cases T with
    | work_task =>
      obtain ⟨r, hr, rfl⟩ := Table.mem_ids.1 hi
      cases horphan : (r.col .DeviceId).notIn db.device_info.ids with
      | false =>
        exact absurd (Table.mem_ids.2 ⟨r, Table.mem_deleteNotIn.2 ⟨hr, horphan⟩, rfl⟩) hno
      | true =>
        -- a device whose delete is not among the statements is still there
        refine .inr ⟨hst, r, hsub.work_task r hr, rfl,
          Text.outside_of_notIn horphan fun j hj hleft => ?_⟩
        rw [hdb]
        exact mem_device_ids_execAll hbefore (fun h => hleft (hmem _ h)) hj
    | _ => exact absurd hi hno

/-- **A row that deletes take from the server** is lost by one of them. -/
theorem BuriedTable.lostBy_of_execAll {T : BuriedTable} {db : MysqlDB} {sts : List MyStmt}
    (hdel : ∀ st ∈ sts, st.deletes = true) {i : String} (hi : i ∈ T.serverIds db)
    (hno : i ∉ T.serverIds (db.execAll sts)) : T.LostBy db sts i := by
  -- up to the first statement after which the row is gone
  have hrun : ∀ (before rest : List MyStmt), sts = before ++ rest →
      i ∈ T.serverIds (db.execAll before) →
      i ∉ T.serverIds ((db.execAll before).execAll rest) → T.LostBy db sts i := by
    intro before rest
    induction rest generalizing before with
    | nil => exact fun _ hi hno => absurd hi hno
    | cons st rest ih =>
      intro hsts hi hno
      have hbefore : ∀ st ∈ before, st ∈ sts := fun st hst =>
        hsts ▸ List.mem_append_left _ hst
      have hst : st ∈ sts := hsts ▸ List.mem_append_right _ List.mem_cons_self
      by_cases hleft : i ∈ T.serverIds (st.exec (db.execAll before))
      · have hnext : db.execAll (before ++ [st]) = st.exec (db.execAll before) :=
          MysqlDB.execAll_append db before [st]
        refine ih (before ++ [st]) (by rw [hsts, List.append_assoc]; rfl) ?_ ?_
        · rw [hnext]
          exact hleft
        · rw [hnext]
          exact hno
      · exact lostBy_of_exec rfl (fun st hst => hdel st (hbefore st hst)) hbefore hst
          (hdel st hst) hi hleft
  exact hrun [] sts rfl hi hno

/-! ## §2 Changes of the file -/

/-- Every key of the file is an old one or one of the server's. -/
def Grows (db : MysqlDB) (d d' : SqliteDB) : Prop :=
  ∀ T : BuriedTable, ∀ i ∈ T.phoneIds d', i ∈ T.phoneIds d ∨ i ∈ T.serverIds db

/-- Every key of the file is an old one. -/
def Narrows (d d' : SqliteDB) : Prop :=
  ∀ T : BuriedTable, ∀ i ∈ T.phoneIds d', i ∈ T.phoneIds d

section Changes

variable {db₀ : MysqlDB} {v : View}

theorem Narrows.refl (d : SqliteDB) : Narrows d d := fun _ _ h => h

theorem Narrows.trans {d d' d'' : SqliteDB} (h : Narrows d d') (h' : Narrows d' d'') :
    Narrows d d'' :=
  fun T i hi => h T i (h' T i hi)

theorem Buried.created (v : View) (h : Buried db₀ v) : Buried db₀ v.created := by
  obtain ⟨file, db, queue⟩ := v
  cases file with
  | missing => exact fun _ _ hd => by cases hd
  | blank => exact h
  | holds d => exact h

/-- A change that brings nothing back. -/
theorem Buried.onFile (h : Buried db₀ v) {f : SqliteDB → SqliteDB}
    (hf : ∀ d, Grows v.db d (f d)) : Buried db₀ (v.onFile f) := by
  obtain ⟨file, db, queue⟩ := v
  cases file with
  | missing => exact fun _ _ hd => by cases hd
  | blank => exact fun _ _ hd => by cases hd
  | holds d =>
    intro T d' hd' i hi hno hphone
    cases hd'
    rcases hf d T i hphone with hphone | hserver
    · exact h T d rfl i hi hno hphone
    · exact hno hserver

theorem Buried.narrowed (h : Buried db₀ v) {f : SqliteDB → SqliteDB}
    (hf : ∀ d, Narrows d (f d)) : Buried db₀ (v.onFile f) :=
  h.onFile fun d T i hi => .inl (hf d T i hi)

theorem Buried.copied {ρ τ : Type} [Bound τ] (h : Buried db₀ v) {rc : QuickRc}
    {q : MysqlDB → List ρ} {toPhone : ρ → τ} {replace : SqliteDB → τ → SqliteDB}
    {mark : ρ → List MyStmt}
    (hf : ∀ d, Grows v.db d ((rc.bound ((q v.db).map toPhone)).foldl replace d)) :
    Buried db₀ (v.copied rc q toPhone replace mark) :=
  h.onFile hf

/-- Without tables there is nothing to be found. -/
theorem Buried.of_blank (h : v.file = .blank) : Buried db₀ v := by
  intro T d hd
  rw [h] at hd
  cases hd

end Changes

/-- Keys after a delete are keys before it. -/
private theorem ids_deleteWhere {C : Type} {t t' : SqlTable C} (h : ∀ r ∈ t', r ∈ t) :
    ∀ i ∈ t'.ids, i ∈ t.ids := by
  intro i hi
  obtain ⟨r, hr, hId⟩ := Table.mem_ids.1 hi
  exact Table.mem_ids.2 ⟨r, h r hr, hId⟩

/-- Deletes of the file. -/
private theorem narrows_deleteDevice (ids : List String) (d : SqliteDB) :
    Narrows d (ids.foldl SqliteDB.deleteDevice d) := by
  rw [SqliteDB.foldl_deleteDevice]
  intro T i hi
  cases T with
  | device_info => exact ids_deleteWhere (fun r hr => (Table.mem_deleteIds.1 hr).1) i hi
  | _ => exact hi

private theorem narrows_deleteArea (ids : List String) (d : SqliteDB) :
    Narrows d (ids.foldl SqliteDB.deleteArea d) := by
  rw [SqliteDB.foldl_deleteArea]
  intro T i hi
  cases T with
  | areas => exact ids_deleteWhere (fun r hr => (Table.mem_deleteIds.1 hr).1) i hi
  | _ => exact hi

private theorem narrows_deleteUser (ids : List String) (d : SqliteDB) :
    Narrows d (ids.foldl SqliteDB.deleteUser d) := by
  rw [SqliteDB.foldl_deleteUser]
  intro T i hi
  cases T with
  | sys_user => exact ids_deleteWhere (fun r hr => (Table.mem_deleteIds.1 hr).1) i hi
  | _ => exact hi

private theorem narrows_deleteUsersOf (ids : List String) (d : SqliteDB) :
    Narrows d (ids.foldl SqliteDB.deleteUsersOf d) := by
  rw [SqliteDB.foldl_deleteUsersOf]
  intro T i hi
  cases T with
  | sys_user => exact ids_deleteWhere (fun r hr => (Table.mem_deleteEqs.1 hr).1) i hi
  | _ => exact hi

/-- The orphans go with their devices; of the tables here only tasks are among them. -/
private theorem narrows_dataEffect (rc : ℕ → Bool) (d : SqliteDB) :
    Narrows d (dataEffect rc 0 SqliteDB.deleteOrphans d) := by
  -- one delete first: only the third reaches a table of these
  have hstep : ∀ f ∈ SqliteDB.deleteOrphans, ∀ d, Narrows d (f d) := by
    intro f hf d
    simp only [SqliteDB.deleteOrphans, List.mem_cons, List.not_mem_nil, or_false] at hf
    rcases hf with rfl | rfl | rfl | rfl
    · exact fun T i hi => by cases T <;> exact hi
    · exact fun T i hi => by cases T <;> exact hi
    · intro T i hi
      cases T with
      | work_task => exact ids_deleteWhere (fun r hr => (Table.mem_deleteNotIn.1 hr).1) i hi
      | _ => exact hi
    · exact fun T i hi => by cases T <;> exact hi
  -- then a run of them, which may stop early
  have hall : ∀ (fs : List (SqliteDB → SqliteDB)) (i : ℕ) (d : SqliteDB),
      (∀ f ∈ fs, f ∈ SqliteDB.deleteOrphans) → Narrows d (dataEffect rc i fs d) := by
    intro fs
    induction fs with
    | nil => exact fun _ d _ => .refl d
    | cons f fs ih =>
      intro i d hfs
      rw [List.forall_mem_cons] at hfs
      rw [dataEffect]
      split
      · exact (hstep f hfs.1 d).trans (ih (i + 1) (f d) hfs.2)
      · exact .refl d
  exact hall SqliteDB.deleteOrphans 0 d fun _ h => h

/-! ## §3 The delete pass -/

namespace DeleteAreaRc

variable (rc : DeleteAreaRc) (a : DeleteArys)

/-- What the server loses in the first part the file loses before: a device by the delete of its
key, a task as an orphan of the file. -/
structure DevicesReach (db : MysqlDB) (d : SqliteDB) : Prop where
  devices : ∀ i ∈ d.device_info.ids, BuriedTable.device_info.LostBy db (rc.deviceStmts a) i →
    i ∈ rc.devices.bound a.devices
  tasks : ∀ t ∈ d.work_task, BuriedTable.work_task.LostBy db (rc.deviceStmts a) t.Id →
    Text.Outside d.device_info.ids (fun i => i ∈ rc.devices.bound a.devices) (t.col .DeviceId)

/-- The second part: an area by the delete of its key, a user as one of an area that is deleted. -/
structure AreasReach (db : MysqlDB) (d : SqliteDB) : Prop where
  areas : ∀ i ∈ d.areas.ids, BuriedTable.areas.LostBy db (rc.areaStmts a) i →
    i ∈ rc.areas.bound a.areas
  users : ∀ x ∈ d.user_table, BuriedTable.sys_user.LostBy db (rc.areaStmts a) x.Id →
    ∃ i ∈ rc.users.bound a.areas, x.col .data_areas = some i

/-- The third part: a user by the delete of its key. -/
def UsersReach (db : MysqlDB) (d : SqliteDB) : Prop :=
  ∀ x ∈ d.user_table, BuriedTable.sys_user.LostBy db rc.userStmts x.Id →
    rc.selectUsers = .ok ∧ rc.areasAlive a = true ∧
      rc.marked.ok db.usersToDelete.length = true ∧ x.Id ∈ rc.marked.bound db.usersToDelete

/-- Each part, from the tables it starts from. -/
structure Reaches (db : MysqlDB) (d : SqliteDB) : Prop where
  devices : rc.DevicesReach a db d
  areas : rc.AreasReach a (rc.devicesLeft a db) (rc.devicesEffect a d)
  users : rc.UsersReach a (rc.areasLeft a db) (rc.areasEffect a (rc.devicesEffect a d))

private theorem narrows_devicesEffect (d : SqliteDB) : Narrows d (rc.devicesEffect a d) := by
  rw [devicesEffect]
  split
  · exact (narrows_deleteDevice _ d).trans (narrows_dataEffect _ _)
  · exact .refl d

private theorem narrows_areasEffect (d : SqliteDB) : Narrows d (rc.areasEffect a d) := by
  rw [areasEffect]
  split
  · dsimp only
    split
    · exact (narrows_deleteArea _ d).trans (narrows_deleteUsersOf _ _)
    · exact narrows_deleteArea _ d
  · exact .refl d

private theorem narrows_usersEffect (db : MysqlDB) (d : SqliteDB) :
    Narrows d (rc.usersEffect a db d) := by
  rw [usersEffect]
  split
  · exact narrows_deleteUser _ d
  · exact .refl d

/-- A statement of the first part. -/
private theorem mem_deviceStmts {st : MyStmt} (h : st ∈ rc.deviceStmts a) :
    (∃ i, st = .deleteDeviceInfo i) ∨ st ∈ deleteOrphanStmts := by
  rw [deviceStmts] at h
  split at h
  · rcases List.mem_append.1 h with h | h
    · obtain ⟨i, -, rfl⟩ := List.mem_map.1 (Batch.mem_of_mem_served h)
      exact .inl ⟨i, rfl⟩
    · obtain ⟨j, hj, -⟩ := Batch.mem_okPrefix.1 h
      exact .inr (List.mem_of_getElem? hj)
  · exact absurd h List.not_mem_nil

/-- With one the file has lost its devices and their orphans. -/
private theorem devicesEffect_of_mem {st : MyStmt} (h : st ∈ rc.deviceStmts a) (d : SqliteDB) :
    rc.devicesEffect a d = SqliteDB.deleteOrphans.foldl (fun d f => f d)
      { d with device_info := d.device_info.deleteIds (rc.devices.bound a.devices) } := by
  rw [deviceStmts] at h
  split at h
  · next hdone =>
    rw [devicesEffect, if_pos ⟨hdone.1, hdone.2.1⟩, dataEffect_of_ok hdone.2.2,
      SqliteDB.foldl_deleteDevice]
  · exact absurd h List.not_mem_nil

/-- A statement of the second part. -/
private theorem mem_areaStmts {st : MyStmt} (h : st ∈ rc.areaStmts a) :
    ∃ i, st = .deleteAreas i ∨ st = .deleteSysUserOf i := by
  rw [areaStmts] at h
  split at h
  · obtain ⟨i, -, hst⟩ := List.mem_flatMap.1 (Batch.mem_of_mem_served h)
    refine ⟨i, ?_⟩
    rcases List.mem_cons.1 hst with rfl | hst
    · exact .inl rfl
    · exact .inr (List.mem_singleton.1 hst)
  · exact absurd h List.not_mem_nil

/-- With one the file has lost its areas and their users. -/
private theorem areasEffect_of_mem {st : MyStmt} (h : st ∈ rc.areaStmts a) (d : SqliteDB) :
    rc.areasEffect a d =
      { d with
        areas := d.areas.deleteIds (rc.areas.bound a.areas)
        user_table := d.user_table.deleteEqs .data_areas (rc.users.bound a.areas) } := by
  rw [areaStmts] at h
  split at h
  · next hdone =>
    have halive : rc.devicesAlive a = true ∧ rc.areas.ok a.areas.length = true ∧
        rc.users.ok a.areas.length = true := by
      simpa [areasAlive, hdone.1] using hdone.2
    rw [areasEffect, if_pos ⟨hdone.1, halive.1, halive.2.1⟩]
    dsimp only
    rw [if_pos halive.2.2, SqliteDB.foldl_deleteUsersOf, SqliteDB.foldl_deleteArea]
  · exact absurd h List.not_mem_nil

/-- The statement of the third part. -/
private theorem mem_userStmts {st : MyStmt} (h : st ∈ rc.userStmts) :
    st = .deleteSysUserReal := by
  obtain ⟨j, hj, -⟩ := Batch.mem_okPrefix.1 h
  exact List.mem_singleton.1 (List.mem_of_getElem? hj)

/-- The pass sends deletes only. -/
theorem deviceStmts_deletes : ∀ st ∈ rc.deviceStmts a, st.deletes = true := by
  intro st hst
  rcases rc.mem_deviceStmts a hst with ⟨i, rfl⟩ | hst
  · rfl
  · simp only [deleteOrphanStmts, List.mem_cons, List.not_mem_nil, or_false] at hst
    rcases hst with rfl | rfl | rfl | rfl <;> rfl

theorem areaStmts_deletes : ∀ st ∈ rc.areaStmts a, st.deletes = true := by
  intro st hst
  obtain ⟨i, rfl | rfl⟩ := rc.mem_areaStmts a hst <;> rfl

theorem userStmts_deletes : ∀ st ∈ rc.userStmts, st.deletes = true := by
  intro st hst
  rw [rc.mem_userStmts hst]
  rfl

/-- **The first part** buries what it reaches. -/
private theorem devices_buries {db : MysqlDB} {d : SqliteDB} (h : rc.DevicesReach a db d)
    (T : BuriedTable) : T.Buries db (rc.devicesLeft a db) (rc.devicesEffect a d) := by
  intro i hi hno hphone
  have hlost := BuriedTable.lostBy_of_execAll (rc.deviceStmts_deletes a) hi hno
  have hbefore := rc.narrows_devicesEffect a d T i hphone
  -- its deletes are about devices, and about the tasks left without one
  cases T with
  | areas =>
    rcases rc.mem_deviceStmts a hlost with ⟨j, hj⟩ | hst
    · cases hj
    · simp [deleteOrphanStmts] at hst
  | sys_user =>
    obtain ⟨u, -, -, ⟨j, -, hst⟩ | ⟨hst, -⟩⟩ := hlost
    · rcases rc.mem_deviceStmts a hst with ⟨k, hk⟩ | hst
      · cases hk
      · simp [deleteOrphanStmts] at hst
    · rcases rc.mem_deviceStmts a hst with ⟨k, hk⟩ | hst
      · cases hk
      · simp [deleteOrphanStmts] at hst
  | device_info =>
    have hdevices : i ∈ (rc.devicesEffect a d).device_info.ids := hphone
    rw [rc.devicesEffect_of_mem a hlost] at hdevices
    obtain ⟨r, hr, rfl⟩ := Table.mem_ids.1 hdevices
    exact (Table.mem_deleteIds.1 hr).2 (h.devices r.Id hbefore hlost)
  | work_task =>
    have hst : ∃ st, st ∈ rc.deviceStmts a := hlost.elim (fun h => ⟨_, h⟩) fun h => ⟨_, h.1⟩
    obtain ⟨st, hst⟩ := hst
    have htasks : i ∈ (rc.devicesEffect a d).work_task.ids := hphone
    rw [rc.devicesEffect_of_mem a hst] at htasks
    obtain ⟨t, ht, rfl⟩ := Table.mem_ids.1 htasks
    -- a task that is left names a device that is left
    obtain ⟨ht, hdevice⟩ := Table.mem_deleteNotIn.1 ht
    have horphan : (t.col .DeviceId).notIn
        (d.device_info.deleteIds (rc.devices.bound a.devices)).ids = true :=
      Text.notIn_of_outside (h.tasks t ht hlost) fun j hj => by
        obtain ⟨r, hr, rfl⟩ := Table.mem_ids.1 hj
        exact ⟨Table.mem_ids.2 ⟨r, (Table.mem_deleteIds.1 hr).1, rfl⟩,
          (Table.mem_deleteIds.1 hr).2⟩
    exact Bool.noConfusion (hdevice.symm.trans horphan)

/-- **The second part.** -/
private theorem areas_buries {db : MysqlDB} {d : SqliteDB} (h : rc.AreasReach a db d)
    (T : BuriedTable) : T.Buries db (db.execAll (rc.areaStmts a)) (rc.areasEffect a d) := by
  intro i hi hno hphone
  have hlost := BuriedTable.lostBy_of_execAll (rc.areaStmts_deletes a) hi hno
  have hbefore := rc.narrows_areasEffect a d T i hphone
  cases T with
  | device_info =>
    obtain ⟨j, hj | hj⟩ := rc.mem_areaStmts a hlost <;> cases hj
  | work_task =>
    rcases hlost with hst | ⟨hst, -⟩
    · obtain ⟨j, hj | hj⟩ := rc.mem_areaStmts a hst <;> cases hj
    · obtain ⟨j, hj | hj⟩ := rc.mem_areaStmts a hst <;> cases hj
  | areas =>
    have hareas : i ∈ (rc.areasEffect a d).areas.ids := hphone
    rw [rc.areasEffect_of_mem a hlost] at hareas
    obtain ⟨r, hr, rfl⟩ := Table.mem_ids.1 hareas
    exact (Table.mem_deleteIds.1 hr).2 (h.areas r.Id hbefore hlost)
  | sys_user =>
    have hst : ∃ st, st ∈ rc.areaStmts a := by
      obtain ⟨u, -, -, ⟨j, -, hst⟩ | ⟨hst, -⟩⟩ := hlost
      · exact ⟨_, hst⟩
      · exact ⟨_, hst⟩
    -- a delete is sent only after both statements on the phone have gone through
    obtain ⟨st, hst⟩ := hst
    have husers : i ∈ (rc.areasEffect a d).user_table.ids := hphone
    rw [rc.areasEffect_of_mem a hst] at husers
    obtain ⟨x, hx, rfl⟩ := Table.mem_ids.1 husers
    obtain ⟨hx, hkept⟩ := Table.mem_deleteEqs.1 hx
    obtain ⟨j, hj, harea⟩ := h.users x hx hlost
    exact hkept j hj harea

/-- **The third part.** -/
private theorem users_buries {db : MysqlDB} {d : SqliteDB} (h : rc.UsersReach a db d)
    (T : BuriedTable) : T.Buries db (db.execAll rc.userStmts) (rc.usersEffect a db d) := by
  intro i hi hno hphone
  have hlost := BuriedTable.lostBy_of_execAll rc.userStmts_deletes hi hno
  cases T with
  | areas => cases rc.mem_userStmts hlost
  | device_info => cases rc.mem_userStmts hlost
  | work_task =>
    rcases hlost with hst | ⟨hst, -⟩
    · cases rc.mem_userStmts hst
    · cases rc.mem_userStmts hst
  | sys_user =>
    obtain ⟨x, hx, rfl⟩ := Table.mem_ids.1 (rc.narrows_usersEffect a db d .sys_user i hphone)
    obtain ⟨hselect, halive, hok, hbound⟩ := h x hx hlost
    have husers : x.Id ∈ (rc.usersEffect a db d).user_table.ids := hphone
    rw [usersEffect, if_pos ⟨hselect, halive, hok⟩, SqliteDB.foldl_deleteUser] at husers
    obtain ⟨y, hy, hId⟩ := Table.mem_ids.1 husers
    exact (Table.mem_deleteIds.1 hy).2 (hId ▸ hbound)

/-- **The pass** buries what it deletes for real, if its deletes of the file reach it. -/
theorem pass_buries {db : MysqlDB} {d : SqliteDB} (h : rc.Reaches a db d) (T : BuriedTable) :
    T.Buries db (rc.passLeft a db) (rc.passEffect a db d) :=
  ((rc.devices_buries a h.devices T).trans (rc.narrows_areasEffect a _ T)
    (rc.areas_buries a h.areas T)).trans (rc.narrows_usersEffect a _ _ T)
    (rc.users_buries a h.users T)

end DeleteAreaRc

/-- **`DeleteAreaAndDevice`**, when it returns. -/
theorem buried_pass {o : MapOrder} {tree : DeleteTree} {rc : DeleteAreaRc} {w w' : World} {b : Bool}
    (htx : w.sq.tx = none) (hreaches : tree ≠ .nullptr → rc.openDb = true →
      ∀ d, w.sq.file = .holds d → rc.Reaches (tree.arys o) w.server.db d)
    (hrun : (deleteAreaAndDevice o tree rc).run w = (.ok b, w')) :
    w'.sq.tx = none ∧ Buried w.server.db w'.view := by
  refine deleteAreaAndDevice_ok (I := fun v => v = w.view) (J := Buried w.server.db) o tree
    (fun v hv => ?_) (fun v _ hblank _ _ => .of_blank hblank) (fun v d hv hne hopen hd => ?_) htx
    rfl hrun
  · rw [hv]
    exact fun T d _ => BuriedTable.buries_of_subset fun _ h => h
  · subst hv
    intro T d' hd'
    cases hd'
    exact rc.pass_buries (tree.arys o) (hreaches hne hopen d hd) T

/-! ## §4 The deletes of tasks -/

/-- The tasks that the server loses in a chunk are reached by the deletes of the file. -/
def TaskToPhoneRc.Reaches (rc : TaskToPhoneRc) (v : View) : Prop :=
  rc.openDb = true → ∀ d, v.file = .holds d → ∀ t ∈ d.work_task,
    BuriedTable.work_task.LostBy v.db (rc.hardDeletes v.db) t.Id → rc.Hits v.db t

section Tasks

variable {db₀ : MysqlDB} {rc : TaskToPhoneRc}

/-- It depends on the tasks in the file only. -/
private theorem TaskToPhoneRc.Reaches.frame {v v' : View} (h : rc.Reaches v) (hdb : v'.db = v.db)
    (hfile : ∀ d', v'.file = .holds d' → ∃ d, v.file = .holds d ∧ SameTasks d d') :
    rc.Reaches v' := by
  intro hopen d' hd'
  obtain ⟨d, hd, hsame⟩ := hfile d' hd'
  rw [hdb, hsame.tasks]
  exact h hopen d hd

private theorem TaskToPhoneRc.narrows_deletes (rc : TaskToPhoneRc) (db : MysqlDB)
    (d : SqliteDB) : Narrows d (rc.deletes db d) := by
  have hrest := rc.deletes_sameButTasks db d
  intro T i hi
  cases T with
  | areas => rwa [BuriedTable.phoneIds, hrest.areas] at hi
  | device_info => rwa [BuriedTable.phoneIds, hrest.devices] at hi
  | sys_user => rwa [BuriedTable.phoneIds, hrest.users] at hi
  | work_task => exact ids_deleteWhere (fun t ht => (TaskToPhoneRc.mem_deletes.1 ht).1) i hi

/-- A statement of the second pass. -/
private theorem TaskToPhoneRc.mem_hardDeletes {rc : TaskToPhoneRc} {db : MysqlDB} {st : MyStmt}
    (h : st ∈ rc.hardDeletes db) : ∃ i, st = .deleteWorkTask i ∨ st = .deleteWorkRecordOf i := by
  obtain ⟨i, -, hst⟩ := List.mem_flatMap.1 (Batch.mem_of_mem_served h)
  refine ⟨i, ?_⟩
  rcases List.mem_cons.1 hst with rfl | hst
  · exact .inl rfl
  · exact .inr (List.mem_singleton.1 hst)

/-- **The deletes of a chunk** bury what the server loses by them. -/
private theorem buried_deletes {v : View} {d : SqliteDB} (h : Buried db₀ v)
    (hreaches : rc.Reaches v) (hopen : rc.openDb = true) (hd : v.file = .holds d) :
    Buried db₀ ⟨.holds (rc.deletes v.db d), rc.left v.db, v.queue⟩ := by
  intro T d' hd'
  cases hd'
  refine (h T d hd).trans (rc.narrows_deletes v.db d T) fun i hi hno hphone => ?_
  have hdeletes : ∀ st ∈ rc.hardDeletes v.db, st.deletes = true := fun st hst => by
    obtain ⟨j, rfl | rfl⟩ := rc.mem_hardDeletes hst <;> rfl
  have hlost := BuriedTable.lostBy_of_execAll hdeletes hi hno
  -- only tasks and records are deleted here
  cases T with
  | areas => obtain ⟨j, hj | hj⟩ := rc.mem_hardDeletes hlost <;> cases hj
  | device_info => obtain ⟨j, hj | hj⟩ := rc.mem_hardDeletes hlost <;> cases hj
  | sys_user =>
    obtain ⟨u, -, -, ⟨j, -, hst⟩ | ⟨hst, -⟩⟩ := hlost
    · obtain ⟨k, hk | hk⟩ := rc.mem_hardDeletes hst <;> cases hk
    · obtain ⟨k, hk | hk⟩ := rc.mem_hardDeletes hst <;> cases hk
  | work_task =>
    obtain ⟨t, ht, rfl⟩ := Table.mem_ids.1 hphone
    obtain ⟨ht, hkept⟩ := TaskToPhoneRc.mem_deletes.1 ht
    exact hkept (hreaches hopen d hd t ht hlost)

/-- Tasks copied are on the server. -/
private theorem grows_tasks (rc : QuickRc) (win : Window) (ids : List String) (db : MysqlDB)
    (d : SqliteDB) : Grows db d
      ((rc.bound ((db.newTasks win ids).map taskToPhone)).foldl SqliteDB.replaceTask d) := by
  rw [SqliteDB.foldl_replaceTask]
  intro T i hi
  cases T with
  | work_task =>
    refine (Table.mem_ids_replaceAll_bound hi).imp_right ?_
    rintro ⟨r, hr, rfl⟩
    exact Table.mem_ids.2 ⟨r, (Table.mem_select.1 hr).1, rfl⟩
  | _ => exact .inl hi

/-- **`Synchrodata_work_task`**, when it returns. -/
private theorem buried_task (ids : List String) {w w' : World} {b : Bool}
    (h : w.sq.tx = none ∧ Buried db₀ w.view) (hreaches : rc.Reaches w.view)
    (hrun : (synchrodataWorkTaskToPhone ids rc).run w = (.ok b, w')) :
    w'.sq.tx = none ∧ Buried db₀ w'.view :=
  workTaskToPhone_ok (I := fun v => Buried db₀ v ∧ rc.Reaches v) (J := Buried db₀) ids
    (fun _ h _ => h.1) (fun _ _ hblank _ _ => .of_blank hblank)
    (fun _ _ h hopen hd => buried_deletes h.1 h.2 hopen hd)
    (fun _ h _ => h.copied fun d => grows_tasks _ rc.win ids _ d) h.1 ⟨h.2, hreaches⟩ hrun

end Tasks

/-! ## §5 The other routines -/

section Routines

variable {db₀ : MysqlDB} {rc : TaskToPhoneRc}

theorem buried_users (ids : List String) (rc' : UserToPhoneRc) :
    Keeps (KeepsView (Buried db₀)) (synchrodataSysUser ids rc') := by
  refine keeps_sysUser Buried.created ids rc' (fun _ h => h) (fun v h => h.onFile fun d => ?_)
    fun v h => h.narrowed fun d => narrows_deleteUser _ d
  rw [SqliteDB.foldl_replaceUser]
  intro T i hi
  cases T with
  | sys_user =>
    rw [← List.map_id (v.db.newUsers ids)] at hi
    refine (Table.mem_ids_replaceAll_bound hi).imp_right ?_
    rintro ⟨_, hr, rfl⟩
    -- an account copied is one of the server's, with its role and area
    obtain ⟨u, hu, hr⟩ := List.mem_flatMap.1 hr
    obtain ⟨_, _, hr⟩ := List.mem_flatMap.1 hr
    obtain ⟨_, _, rfl⟩ := List.mem_map.1 hr
    exact Table.mem_ids.2 ⟨u, (Table.mem_select.1 hu).1, rfl⟩
  | _ => exact .inl hi

theorem buried_areas (shown : List String) (rc' : UserToPhoneRc) :
    Keeps (KeepsView (Buried db₀)) (synchrodataAreasToPhone shown rc') := by
  refine keeps_areasToPhone Buried.created shown rc' (fun v h _ => h.copied fun d => ?_)
    fun v h => h.narrowed fun d => narrows_deleteArea _ d
  rw [SqliteDB.foldl_replaceArea]
  intro T i hi
  cases T with
  | areas =>
    refine (Table.mem_ids_replaceAll_bound hi).imp_right ?_
    rintro ⟨r, hr, rfl⟩
    exact Table.mem_ids.2 ⟨r, (Table.mem_select.1 hr).1, rfl⟩
  | _ => exact .inl hi

theorem buried_devices (ids : List String) (fw : TongbuFw) (rc' : ToPhoneRc) :
    Keeps (KeepsView (Buried db₀)) (synchrodataDeviceInfoToPhone ids fw rc') := by
  refine keeps_deviceInfoToPhone Buried.created ids fw rc' (fun v h _ => h.copied fun d => ?_)
    fun v h => h.narrowed fun d => narrows_deleteDevice _ d
  rw [SqliteDB.foldl_replaceDevice]
  intro T i hi
  cases T with
  | device_info =>
    refine (Table.mem_ids_replaceAll_bound hi).imp_right ?_
    rintro ⟨r, hr, rfl⟩
    exact Table.mem_ids.2 ⟨r, (Table.mem_select.1 hr).1, rfl⟩
  | _ => exact .inl hi

/-- Changes of templates and types are not about the tables here. -/
private theorem buried_frame {v : View} {f : SqliteDB → SqliteDB}
    (hnarrows : ∀ d, Narrows d (f d)) (hsame : ∀ d, SameTasks d (f d))
    (h : Buried db₀ v ∧ rc.Reaches v) :
    Buried db₀ (v.onFile f) ∧ rc.Reaches (v.onFile f) :=
  ⟨h.1.narrowed hnarrows, h.2.frame rfl fun _ hd' => holds_of_map hsame hd'⟩

private theorem buried_created (v : View) (h : Buried db₀ v ∧ rc.Reaches v) :
    Buried db₀ v.created ∧ rc.Reaches v.created :=
  ⟨h.1.created v, h.2.frame rfl fun d' hd' => ⟨d', DbFile.holds_of_created hd', rfl, rfl⟩⟩

private theorem buried_template (ids : List String) (rc' : ToPhoneRc) :
    Keeps (KeepsView fun v => Buried db₀ v ∧ rc.Reaches v)
      (synchrodataWorkTemplateToPhone ids rc') := by
  refine keeps_workTemplateToPhone buried_created ids rc'
    (fun v h _ => buried_frame (fun d => ?_) (fun d => ?_) h)
    fun v h => buried_frame (fun d => ?_) (fun d => ?_) h
  · rw [SqliteDB.foldl_replaceTemplate]
    exact fun T i hi => by cases T <;> exact hi
  · rw [SqliteDB.foldl_replaceTemplate]
    exact ⟨rfl, rfl⟩
  · rw [SqliteDB.foldl_deleteTemplate]
    exact fun T i hi => by cases T <;> exact hi
  · rw [SqliteDB.foldl_deleteTemplate]
    exact ⟨rfl, rfl⟩

private theorem buried_type (ids : List String) (rc' : ToPhoneRc) :
    Keeps (KeepsView fun v => Buried db₀ v ∧ rc.Reaches v)
      (synchrodataWorkTypeToPhone ids rc') := by
  refine keeps_workTypeToPhone buried_created ids rc'
    (fun v h _ => buried_frame (fun d => ?_) (fun d => ?_) h)
    fun v h => buried_frame (fun d => ?_) (fun d => ?_) h
  · rw [SqliteDB.foldl_replaceWorkType]
    exact fun T i hi => by cases T <;> exact hi
  · rw [SqliteDB.foldl_replaceWorkType]
    exact ⟨rfl, rfl⟩
  · rw [SqliteDB.foldl_deleteWorkType]
    exact fun T i hi => by cases T <;> exact hi
  · rw [SqliteDB.foldl_deleteWorkType]
    exact ⟨rfl, rfl⟩

private theorem buried_record (rc' : RecordToPhoneRc) :
    Keeps (KeepsView (Buried db₀)) (synchrodataWorkRecordToPhone rc') := by
  refine keeps_workRecordToPhone Buried.created rc' fun v h _ => h.copied fun d => ?_
  rw [SqliteDB.foldl_replaceRecord]
  exact fun T i hi => .inl (by cases T <;> exact hi)

/-- **A chunk of tasks** whose deletes of the file reach what the server loses. -/
theorem buried_workChunk {rc : WorkRc} {ids : List String} {w w' : World} {b : Bool}
    (h : w.sq.tx = none ∧ Buried db₀ w.view) (hreaches : rc.task.Reaches w.view)
    (hrun : (workChunk .tongbu_to_phone rc ids).run w = (.ok b, w')) :
    w'.sq.tx = none ∧ Buried db₀ w'.view := by
  unfold workChunk at hrun
  obtain ⟨_, w₁, htemplate, hrun⟩ := of_bind_run_ok hrun
  obtain ⟨_, w₂, htype, hrun⟩ := of_bind_run_ok hrun
  obtain ⟨_, w₃, htask, hrun⟩ := of_bind_run_ok hrun
  obtain ⟨_, w₄, hrecord, hrun⟩ := of_bind_run_ok hrun
  cases hrun
  have h₁ := buried_template ids rc.template w ⟨h.1, h.2, hreaches⟩
  rw [htemplate] at h₁
  have h₂ := buried_type ids rc.type w₁ h₁
  rw [htype] at h₂
  have h₃ := buried_task ids ⟨h₂.1, h₂.2.1⟩ h₂.2.2 htask
  have h₄ := buried_record rc.record w₃ h₃
  rw [hrecord] at h₄
  exact h₄

end Routines

/-! ## §6 The marks -/

/-- Marks leave the keys. -/
private theorem ids_setWhereId {C : Type} [DecidableEq C] (t : SqlTable C) (c : C)
    (s i : String) : (t.setWhereId c s i).ids = t.ids := by
  rw [Table.ids, Table.setWhereId, Table.updateWhere, List.map_map]
  refine List.map_congr_left fun r _ => ?_
  rw [Function.comp_apply]
  split
  · rfl
  · rfl

/-- A mark deletes nothing. -/
private theorem serverIds_exec_mark {st : MyStmt} (h : st.isMark = true) (db : MysqlDB)
    (T : BuriedTable) : T.serverIds (st.exec db) = T.serverIds db := by
  -- a mark sets a column, and the ids are as before
  cases st with
  | mark t i =>
    cases t with
    | device_info =>
      cases T with
      | device_info => exact ids_setWhereId _ _ _ _
      | _ => rfl
    | work_task =>
      cases T with
      | work_task => exact ids_setWhereId _ _ _ _
      | _ => rfl
    | sys_user =>
      cases T with
      | sys_user => exact ids_setWhereId _ _ _ _
      | _ => rfl
    | _ => cases T <;> rfl
  | markWorkTaskState2 i =>
    cases T with
    | work_task => exact (ids_setWhereId _ _ _ _).trans (ids_setWhereId _ _ _ _)
    | _ => rfl
  | _ => cases h

/-- **The marks** delete nothing. -/
theorem serverIds_execAll_marks {sts : List MyStmt} (h : ∀ st ∈ sts, st.isMark = true)
    (db : MysqlDB) (T : BuriedTable) : T.serverIds (db.execAll sts) = T.serverIds db := by
  induction sts generalizing db with
  | nil => rfl
  | cons st sts ih =>
    rw [List.forall_mem_cons] at h
    exact (ih h.2 (st.exec db)).trans (serverIds_exec_mark h.1 db T)

end MtpSync
