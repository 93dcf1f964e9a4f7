import MtpSync.Download.TaskDeletes

/-!
# What the delete pass does

`DeleteAreaAndDevice` deletes from the temporary file and from the server, in three parts.  After
a statement that failed on the file the connection is gone, and the parts differ in which results
they look at before they have the server delete.

- §1 the statements that have an effect
- §2 the three parts
- §3 the pass
-/

namespace MtpSync

open Act

/-! ## §1 The statements that have an effect -/

/-- What `DeleteData` makes of a file: the first of its statements, up to a failure. -/
def dataEffect (rc : ℕ → Bool) : ℕ → List (SqliteDB → SqliteDB) → SqliteDB → SqliteDB
  | _, [], d => d
  | i, f :: fs, d => if rc i then dataEffect rc (i + 1) fs (f d) else d

/-- `DeleteData` succeeds. -/
def dataOk (rc : ℕ → Bool) : ℕ → List (SqliteDB → SqliteDB) → Bool
  | _, [] => true
  | i, _ :: fs => rc i && dataOk rc (i + 1) fs

/-- `DeleteData` that succeeds has executed all of its statements. -/
theorem dataEffect_of_ok {rc : ℕ → Bool} {i : ℕ} {fs : List (SqliteDB → SqliteDB)}
    (h : dataOk rc i fs = true) (d : SqliteDB) :
    dataEffect rc i fs d = fs.foldl (fun d f => f d) d := by
  induction fs generalizing i d with
  | nil => rfl
  | cons f fs ih =>
    rw [dataOk, Bool.and_eq_true] at h
    rw [dataEffect, if_pos h.1, ih h.2]
    rfl

namespace DeleteAreaRc

variable (rc : DeleteAreaRc) (a : DeleteArys)

/-- The connection is still there after the devices. -/
def devicesAlive : Bool := a.devices = [] || rc.devices.ok a.devices.length

/-- What the first part makes of a file. -/
def devicesEffect (d : SqliteDB) : SqliteDB :=
  if a.devices ≠ [] ∧ rc.devices.ok a.devices.length = true then
    dataEffect rc.orphans 0 SqliteDB.deleteOrphans
      ((rc.devices.bound a.devices).foldl SqliteDB.deleteDevice d)
  else d

/-- What the server executes in the first part: nothing unless all of it was done here. -/
def deviceStmts : List MyStmt :=
  if a.devices ≠ [] ∧ rc.devices.ok a.devices.length = true ∧
      dataOk rc.orphans 0 SqliteDB.deleteOrphans = true then
    Batch.served 99 rc.updateDevices 0 (a.strAryDevices.map .deleteDeviceInfo) ++
      Batch.okPrefix rc.queryOrphans 0 deleteOrphanStmts
  else []

/-- The connection is still there after the areas. -/
def areasAlive : Bool :=
  rc.devicesAlive a && (a.areas = [] || rc.areas.ok a.areas.length && rc.users.ok a.areas.length)

/-- What the second part makes of a file. -/
def areasEffect (d : SqliteDB) : SqliteDB :=
  if a.areas ≠ [] ∧ rc.devicesAlive a = true ∧ rc.areas.ok a.areas.length = true then
    let d := (rc.areas.bound a.areas).foldl SqliteDB.deleteArea d
    if rc.users.ok a.areas.length then (rc.users.bound a.areas).foldl SqliteDB.deleteUsersOf d
    else d
  else d

/-- What the server executes in the second part: nothing unless all of it was done here. -/
def areaStmts : List MyStmt :=
  if a.areas ≠ [] ∧ rc.areasAlive a = true then
    Batch.served 99 rc.updateAreas 0 (a.strAryAreas.flatMap deleteAreaStmts)
  else []

/-- What the third part makes of a file. -/
def usersEffect (db : MysqlDB) (d : SqliteDB) : SqliteDB :=
  if rc.selectUsers = .ok ∧ rc.areasAlive a = true ∧
      rc.marked.ok db.usersToDelete.length = true then
    (rc.marked.bound db.usersToDelete).foldl SqliteDB.deleteUser d
  else d

/-- What the server executes in the third part, whatever was done here. -/
def userStmts : List MyStmt := Batch.okPrefix rc.oneQuery 0 [.deleteSysUserReal]

/-- The server after the first part. -/
def devicesLeft (db : MysqlDB) : MysqlDB := db.execAll (rc.deviceStmts a)

/-- The server after the second part. -/
def areasLeft (db : MysqlDB) : MysqlDB := (rc.devicesLeft a db).execAll (rc.areaStmts a)

/-- The server after the pass. -/
def passLeft (db : MysqlDB) : MysqlDB := (rc.areasLeft a db).execAll rc.userStmts

/-- What the pass makes of a file. -/
def passEffect (db : MysqlDB) (d : SqliteDB) : SqliteDB :=
  rc.usersEffect a (rc.areasLeft a db) (rc.areasEffect a (rc.devicesEffect a d))

end DeleteAreaRc

/-! ## §2 The three parts -/

section Parts

variable {ρ : Type} [Bound ρ] (d : SqliteDB) (alive : Bool) (server : Server) (queue : List MyStmt)
  (rc : DeleteAreaRc) (a : DeleteArys)

/-- A statement repeated for rows, in an open file. -/
private theorem quick_run (rc : QuickRc) (f : SqliteDB → ρ → SqliteDB) (rows : List ρ) :
    (onSq (quickInsertData rc f (rows.map some))).run
        ⟨⟨.holds d, none, alive, false⟩, server, queue⟩ =
      if alive && rc.ok rows.length then
        (.ok true, ⟨⟨.holds ((rc.bound rows).foldl f d), none, alive, false⟩, server, queue⟩)
      else (.ok false, ⟨⟨.holds d, none, false, false⟩, server, queue⟩) := by
  rw [onSq_quickInsertData_run rc f rows _ rfl]
  simp [Sq.closed]

private theorem data_run (rc : ℕ → Bool) (i : ℕ) (fs : List (SqliteDB → SqliteDB)) :
    (onSq (deleteData rc i fs)).run ⟨⟨.holds d, none, true, false⟩, server, queue⟩ =
      (.ok (dataOk rc i fs),
        ⟨⟨.holds (dataEffect rc i fs d), none, true, false⟩, server, queue⟩) := by
  induction fs generalizing i d with
  | nil => rfl
  | cons f fs ih =>
    rw [dataOk, dataEffect]
    cases hi : rc i with
    | true =>
      have hstep : (onSq (deleteData rc i (f :: fs))).run
          ⟨⟨.holds d, none, true, false⟩, server, queue⟩ =
          (onSq (deleteData rc (i + 1) fs)).run
            ⟨⟨.holds (f d), none, true, false⟩, server, queue⟩ := by
        rw [onSq, onSq, zoom_run, zoom_run, deleteData, bind_run_ok (read_run _)]
        rw [if_pos (by simp [Sq.content, hi]), bind_run_ok (modify_run _ _)]
        rfl
      rw [hstep, ih (f d) (i + 1), Bool.true_and, if_pos rfl]
    | false =>
      rw [onSq, zoom_run, deleteData, bind_run_ok (read_run _), if_neg (by simp [hi])]
      rfl

/-- After a failure before it, `DeleteData` fails too. -/
private theorem data_run_dead (rc : ℕ → Bool) :
    (onSq (deleteData rc 0 SqliteDB.deleteOrphans)).run
        ⟨⟨.holds d, none, false, false⟩, server, queue⟩ =
      (.ok false, ⟨⟨.holds d, none, false, false⟩, server, queue⟩) := rfl

/-- **The devices.** -/
theorem deleteDevices_run :
    (deleteDevices rc a).run ⟨⟨.holds d, none, true, false⟩, server, queue⟩ =
      (.ok (), ⟨⟨.holds (rc.devicesEffect a d), none, rc.devicesAlive a, false⟩,
        server.execAll (rc.deviceStmts a), queue⟩) := by
  unfold deleteDevices
  rw [DeleteAreaRc.devicesEffect, DeleteAreaRc.devicesAlive, DeleteAreaRc.deviceStmts]
  have hids : a.strAryDevices ++ a.strAryDevicesWant = a.devices := rfl
  rw [hids]
  by_cases hnil : a.devices = []
  · simp [hnil]
  · rw [if_neg hnil]
    have hquick := quick_run d true server queue rc.devices SqliteDB.deleteDevice a.devices
    cases hok : rc.devices.ok a.devices.length with
    -- the connection is closed, so the orphan statement runs on none
    | false =>
      rw [if_neg (by simp [hok])] at hquick
      rw [bind_run_ok hquick, bind_run_ok (data_run_dead d server queue rc.orphans)]
      simp [hnil]
    | true =>
      rw [if_pos (by simp [hok])] at hquick
      rw [bind_run_ok hquick, bind_run_ok (data_run _ server queue rc.orphans 0 _)]
      cases hdata : dataOk rc.orphans 0 SqliteDB.deleteOrphans with
      -- the devices are gone, and the server is told nothing
      | false => simp [hnil]
      | true =>
        rw [Bool.and_self, if_pos rfl, bind_run_ok (onServer_updateMysqlDB_run _ _ _),
          bind_run_ok (onServer_run (query_run _ _ _ _))]
        simp [hnil, Server.execAll_append]

/-- **The areas and their users**, when the devices left the connection `alive`. -/
theorem deleteAreas_run :
    ∃ ret, (deleteAreas rc a).run
        ⟨⟨.holds d, none, rc.devicesAlive a, false⟩, server, queue⟩ =
      (.ok ret, ⟨⟨.holds (rc.areasEffect a d), none, rc.areasAlive a, false⟩,
        server.execAll (rc.areaStmts a), queue⟩) := by
  unfold deleteAreas
  rw [DeleteAreaRc.areasEffect, DeleteAreaRc.areaStmts, DeleteAreaRc.areasAlive]
  have hids : a.strAryAreas ++ a.strAryAreasWant = a.areas := rfl
  rw [hids]
  by_cases hnil : a.areas = []
  · exact ⟨true, by simp [hnil]⟩
  · rw [if_neg hnil]
    have hareas := quick_run d (rc.devicesAlive a) server queue rc.areas SqliteDB.deleteArea
      a.areas
    cases hok : rc.devicesAlive a && rc.areas.ok a.areas.length with
    -- closed already or by this insert: the users' one finds no connection
    | false =>
      rw [if_neg (by simp [hok])] at hareas
      have husers := quick_run d false server queue rc.users SqliteDB.deleteUsersOf a.areas
      rw [if_neg (by simp)] at husers
      rw [bind_run_ok hareas, bind_run_ok husers]
      refine ⟨false, ?_⟩
      rw [Bool.and_eq_false_iff] at hok
      rcases hok with hok | hok <;> simp [hnil, hok]
    | true =>
      rw [if_pos hok] at hareas
      rw [Bool.and_eq_true] at hok
      have husers := quick_run ((rc.areas.bound a.areas).foldl SqliteDB.deleteArea d)
        (rc.devicesAlive a) server queue rc.users SqliteDB.deleteUsersOf a.areas
      rw [bind_run_ok hareas]
      cases hok' : rc.users.ok a.areas.length with
      -- the areas are gone, their users stay
      | false =>
        rw [if_neg (by simp [hok'])] at husers
        rw [bind_run_ok husers]
        exact ⟨false, by simp [hnil, hok.1, hok.2]⟩
      | true =>
        rw [if_pos (by simp [hok.1, hok'])] at husers
        rw [bind_run_ok husers, Bool.and_self, if_pos rfl, onServer_updateMysqlDB_run]
        exact ⟨_, by simp [hnil, hok.1, hok.2]; rfl⟩

/-- **The users**: the query halts, or the server deletes whatever was done here. -/
theorem deleteUsers_run :
    (rc.selectUsers = .storeFails ∧
      (deleteUsers rc).run ⟨⟨.holds d, none, rc.areasAlive a, false⟩, server, queue⟩ =
        (.error .undefined, ⟨⟨.holds d, none, rc.areasAlive a, false⟩, server, queue⟩)) ∨
    ∃ ret alive, (deleteUsers rc).run
        ⟨⟨.holds d, none, rc.areasAlive a, false⟩, server, queue⟩ =
      (.ok ret, ⟨⟨.holds (rc.usersEffect a server.db d), none, alive, false⟩,
        server.execAll rc.userStmts, queue⟩) := by
  unfold deleteUsers purge
  rw [DeleteAreaRc.usersEffect]
  -- the query decides whether users are deleted at all
  cases rc.selectUsers with
  | storeFails => exact .inl ⟨rfl, rfl⟩
  | queryFails => exact .inr ⟨_, _, rfl⟩
  | ok =>
    refine .inr ?_
    rw [bind_run, bind_run_ok (onServer_select_run _ _)]
    dsimp only
    cases hids : server.db.usersToDelete with
    | nil => exact ⟨_, _, by simp; rfl⟩
    | cons i rest =>
      dsimp only
      have hmarked := quick_run d (rc.areasAlive a) server queue rc.marked SqliteDB.deleteUser
        (i :: rest)
      -- the connection may have been closed by the parts before
      cases hok : rc.areasAlive a && rc.marked.ok (i :: rest).length with
      | false =>
        rw [if_neg (by rw [hok]; decide)] at hmarked
        rw [bind_run_ok hmarked]
        rw [Bool.and_eq_false_iff] at hok
        refine ⟨false && rc.oneQuery 0, false, ?_⟩
        have hfails : ¬(SelectRc.ok = SelectRc.ok ∧ rc.areasAlive a = true ∧
            rc.marked.ok (i :: rest).length = true) := fun h => by
          rcases hok with hok | hok
          · rw [hok] at h
            exact absurd h.2.1 (by decide)
          · rw [hok] at h
            exact absurd h.2.2 (by decide)
        rw [if_neg hfails]
        rfl
      | true =>
        rw [if_pos hok] at hmarked
        rw [bind_run_ok hmarked]
        rw [Bool.and_eq_true] at hok
        refine ⟨true && rc.oneQuery 0, rc.areasAlive a, ?_⟩
        have hdone : SelectRc.ok = SelectRc.ok ∧ rc.areasAlive a = true ∧
            rc.marked.ok (i :: rest).length = true := ⟨rfl, hok.1, hok.2⟩
        rw [if_pos hdone]
        rfl

end Parts

/-! ## §3 The pass -/

/-- The deletes of the areas are deletes. -/
theorem deletes_of_mem_deleteAreaStmts {ids : List String} {st : MyStmt}
    (h : st ∈ ids.flatMap deleteAreaStmts) : st.deletes = true := by
  obtain ⟨i, -, hi⟩ := List.mem_flatMap.1 h
  rcases List.mem_cons.1 hi with rfl | hi
  · rfl
  · rw [List.mem_singleton.1 hi]
    rfl

section Pass

variable {I J : View → Prop} {rc : DeleteAreaRc}

variable (rc) in
/-- In a file without tables nothing is deleted. -/
private theorem pass_blank (hserver : ∀ v, J v → v.file = .blank → ∀ done,
      (∀ st ∈ done, st.deletes = true) → J (v.execute done)) (o : MapOrder) (tree : DeleteTree)
    {w : World} (htx : w.sq.tx = none) (h : J w.view) (hblank : w.sq.file = .blank) :
    ((deleteAreaAndDevice o tree rc).run w).2.sq.tx = none ∧
      J ((deleteAreaAndDevice o tree rc).run w).2.view := by
  -- an empty file stays empty, so only the server changes
  have hfile : ∀ (f : SqliteDB → SqliteDB) v, J v ∧ v.file = .blank →
      J (v.onFile f) ∧ (v.onFile f).file = .blank := by
    rintro f ⟨file, db, queue⟩ ⟨hI, hblank⟩
    cases hblank
    exact ⟨hI, rfl⟩
  have hdone : ∀ {sts : List MyStmt}, (∀ st ∈ sts, st.deletes = true) → ∀ v,
      J v ∧ v.file = .blank → ∀ done, (∀ st ∈ done, st ∈ sts) →
        J (v.execute done) ∧ (v.execute done).file = .blank := fun hsts v hv done hmem =>
    ⟨hserver v hv.1 hv.2 done fun st hst => hsts st (hmem st hst), hv.2⟩
  have hcreated : ∀ v, J v ∧ v.file = .blank → J v.created ∧ v.created.file = .blank := by
    rintro ⟨file, db, queue⟩ ⟨hI, hblank⟩
    cases hblank
    exact ⟨hI, rfl⟩
  have hkeeps := keeps_deleteAreaAndDevice hcreated o tree rc
    (keeps_deleteDevices rc _ (hfile _) (fun _ f _ => hfile f)
      (hdone (by simp [MyStmt.deletes])) (hdone (by simp [deleteOrphanStmts, MyStmt.deletes])))
    (keeps_deleteAreas rc _ (hfile _) (hfile _)
      (hdone fun _ => deletes_of_mem_deleteAreaStmts))
    (keeps_deleteUsers rc (fun v hv => hfile _ v hv) (hdone (by simp [MyStmt.deletes])))
    w ⟨htx, h, hblank⟩
  exact ⟨hkeeps.1, hkeeps.2.1⟩

/-- **`DeleteAreaAndDevice`**, when it returns: it does nothing; or the file has no tables, and the
server may execute its deletes; or its three parts have their effect. -/
theorem deleteAreaAndDevice_ok (o : MapOrder) (tree : DeleteTree) (hskip : ∀ v, I v → J v)
    (hblank : ∀ v, J v → v.file = .blank → ∀ done, (∀ st ∈ done, st.deletes = true) →
      J (v.execute done))
    (hpass : ∀ v d, I v → tree ≠ .nullptr → rc.openDb = true → v.file = .holds d →
      J ⟨.holds (rc.passEffect (tree.arys o) v.db d), rc.passLeft (tree.arys o) v.db, v.queue⟩)
    {w w' : World} {b : Bool} (htx : w.sq.tx = none) (h : I w.view)
    (hrun : (deleteAreaAndDevice o tree rc).run w = (.ok b, w')) :
    w'.sq.tx = none ∧ J w'.view := by
  obtain ⟨⟨file, tx, connected, gate⟩, server, queue⟩ := w
  cases htx
  -- without tables on the phone the pass touches the server at most
  cases file with
  | blank =>
    have hkeeps := pass_blank rc hblank o tree
      (w := ⟨⟨.blank, none, connected, gate⟩, server, queue⟩) rfl (hskip _ h) rfl
    rw [hrun] at hkeeps
    exact hkeeps
  | missing =>
    cases tree with
    | nullptr =>
      cases hrun
      exact ⟨rfl, hskip _ h⟩
    | node i t f s child sibling =>
      cases hrun
      exact ⟨rfl, hskip _ h⟩
  | holds d =>
    have hpass' := fun hne hopen => hpass ⟨.holds d, server.db, queue⟩ d h hne hopen rfl
    cases tree with
    | nullptr =>
      cases hrun
      exact ⟨rfl, hskip _ h⟩
    | node i t f s child sibling =>
      dsimp only [deleteAreaAndDevice] at hrun
      generalize (DeleteTree.node i t f s child sibling).arys o = a at hrun hpass'
      rw [bind_run_ok (read_run _), if_neg (by simp [DbFile.pathFileExists])] at hrun
      -- an open gate is the one way on, since the run has ended with `ok`
      cases gate with
      | false => cases hrun
      | true =>
        cases hopen : rc.openDb with
        | false =>
          rw [hopen] at hrun
          cases hrun
          exact ⟨rfl, hskip _ h⟩
        | true =>
          have hopened : (onSq (openDataBase true)).run
              (⟨⟨.holds d, none, connected, true⟩, server, queue⟩ : World) =
              (.ok true, ⟨⟨.holds d, none, true, false⟩, server, queue⟩) := rfl
          obtain ⟨ret, hareas⟩ := deleteAreas_run (rc.devicesEffect a d)
            (server.execAll (rc.deviceStmts a)) queue rc a
          rw [hopen, bind_run_ok hopened, if_pos rfl,
            bind_run_ok (deleteDevices_run d server queue rc a), bind_run_ok hareas] at hrun
          rcases deleteUsers_run (rc.areasEffect a (rc.devicesEffect a d))
            ((server.execAll (rc.deviceStmts a)).execAll (rc.areaStmts a)) queue rc a with
            ⟨-, husers⟩ | ⟨ret', alive, husers⟩
          · rw [bind_run_error husers] at hrun
            cases hrun
          · rw [bind_run_ok husers] at hrun
            cases hrun
            have hJ := hpass' (by simp) hopen
            refine ⟨rfl, ?_⟩
            -- what the three parts leave is the effect of the pass
            have hview : ∀ d' : SqliteDB, World.view ⟨⟨.holds d', none, false, true⟩,
                ((server.execAll (rc.deviceStmts a)).execAll (rc.areaStmts a)).execAll
                  rc.userStmts, queue⟩ = ⟨.holds d', rc.passLeft a server.db, queue⟩ := by
              intro d'
              simp [World.view, DeleteAreaRc.passLeft, DeleteAreaRc.areasLeft,
                DeleteAreaRc.devicesLeft]
            have hdb : ((server.execAll (rc.deviceStmts a)).execAll (rc.areaStmts a)).db =
                rc.areasLeft a server.db := by
              simp [DeleteAreaRc.areasLeft, DeleteAreaRc.devicesLeft]
            rw [DeleteAreaRc.passEffect, ← hdb, ← hview] at hJ
            exact hJ

end Pass

end MtpSync
