import MtpSync.Upload.Routines

/-!
# How far an upload gets

The three to-PC routines make the same calls; `uploadEnd` says which call the outcomes let them
reach.  The run lemmas give, for each end, what the routine returns, the content it leaves in
the temporary file and what the server has executed.

- §1 the ends
- §2 phase by phase
- §3 the routines
-/

namespace MtpSync

/-! ## §1 The ends -/

/-- The last thing a to-PC routine gets to on the phone side. -/
inductive UploadEnd (ρ : Type) where
  | waits
  | notOpened
  | notCounted
  | nothing
  | neverSelected
  | notSelected
  | selected (stored : List ρ)

/-- How far the outcomes let a routine get that uploads `pending`. -/
def uploadEnd {ρ : Type} (pending : SqliteDB → List ρ) (rc : ToPcRc) (sq : Sq SqliteDB) :
    UploadEnd ρ :=
  if sq.eventOpenDB then
    if rc.openDb then
      match sq.file.tables with
      | some d =>
        if rc.count.returns then
          if rc.count.row && 0 < (pending d).length then
            match rc.select.fetched (pending d) (pending d).length with
            | none => .neverSelected
            | some none => .notSelected
            | some (some stored) => .selected stored
          else .nothing
        else .notCounted
      | none => .notCounted
    else .notOpened
  else .waits

section UploadEnd

variable {ρ : Type} (pending : SqliteDB → List ρ) {rc : ToPcRc} {sq : Sq SqliteDB}

theorem uploadEnd_waits (hgate : sq.eventOpenDB = false) :
    uploadEnd pending rc sq = .waits := by
  rw [uploadEnd, hgate, if_neg (by decide)]

theorem uploadEnd_notOpened (hgate : sq.eventOpenDB = true) (hopen : rc.openDb = false) :
    uploadEnd pending rc sq = .notOpened := by
  rw [uploadEnd, hgate, hopen, if_pos rfl, if_neg (by decide)]

theorem uploadEnd_notCounted (hgate : sq.eventOpenDB = true) (hopen : rc.openDb = true)
    (hcount : (sq.file.tables.isSome && rc.count.returns) = false) :
    uploadEnd pending rc sq = .notCounted := by
  rw [uploadEnd, hgate, hopen, if_pos rfl, if_pos rfl]
  cases htab : sq.file.tables with
  | none => rfl
  | some d =>
    rw [htab, Option.isSome_some, Bool.true_and] at hcount
    simp only [hcount, if_neg (show ¬false = true by decide)]

theorem uploadEnd_counted {d : SqliteDB} (hgate : sq.eventOpenDB = true)
    (hopen : rc.openDb = true) (hd : sq.file = .holds d) (hcount : rc.count.returns = true) :
    uploadEnd pending rc sq =
      if rc.count.row && 0 < (pending d).length then
        match rc.select.fetched (pending d) (pending d).length with
        | none => .neverSelected
        | some none => .notSelected
        | some (some stored) => .selected stored
      else .nothing := by
  rw [uploadEnd, hgate, hopen, hd, if_pos rfl, if_pos rfl, DbFile.tables_holds]
  simp only [hcount, if_true]

end UploadEnd

/-- A routine ended with result `r`, content `f` in the temporary file and server `srv`. -/
structure Ended (o : Except Halt Bool × World) (r : Except Halt Bool) (f : DbFile SqliteDB)
    (srv : Server) : Prop where
  result : o.1 = r
  file : o.2.sq.file = f
  server : o.2.server = srv

/-- The temporary file with the connection just opened. -/
def Sq.opened {D : Type} (sq : Sq D) : Sq D := ⟨sq.file.created, none, true, false⟩

private theorem ptrArray_ids {C : Type} (stored : List (SqlRow C)) :
    ptrArray stored.length (stored.map Row.Id) = (stored.map Row.Id).map some := by
  have h := ptrArray_full (stored.map Row.Id)
  rwa [List.length_map] at h

private theorem ptrArray_nil (n : ℕ) :
    ptrArray n ([] : List String) = List.replicate n none := by
  simp [ptrArray]

/-! ## §2 Phase by phase -/

section Phases

variable {ρ : Type} (pending : SqliteDB → List ρ) (rc : ToPcRc) {w : World}

private theorem open_waits (hgate : w.sq.eventOpenDB = false) :
    (onSq (openDataBase rc.openDb)).run w = (.error .hang, w) := by
  apply onSq_run
  simp [openDataBase, hgate]

private theorem open_fails (hgate : w.sq.eventOpenDB = true) (hopen : rc.openDb = false) :
    (onSq (openDataBase rc.openDb)).run w = (.ok false, { w with sq := w.sq.closed }) := by
  apply onSq_run
  simp [openDataBase, hgate, hopen]

private theorem open_run (hgate : w.sq.eventOpenDB = true) (hopen : rc.openDb = true) :
    (onSq (openDataBase rc.openDb)).run w = (.ok true, { w with sq := w.sq.opened }) := by
  apply onSq_run
  simp [openDataBase, hgate, hopen, Sq.opened]

private theorem count_run {d : SqliteDB} (srv : Server) (hd : w.sq.file = .holds d)
    (hcount : rc.count.returns = true) :
    (onSq (quickSelectDataCount rc.count (fun d => (pending d).length) 0)).run
        { w with sq := w.sq.opened, server := srv } =
      (.ok (true, if rc.count.row then (pending d).length else 0),
        { w with sq := w.sq.opened, server := srv }) := by
  apply onSq_run
  exact quickSelectDataCount_true rc.count _ 0 w.sq.opened rfl rfl
    (by rw [Sq.opened, hd]; rfl) hcount

private theorem count_fails (srv : Server)
    (hcount : (w.sq.file.tables.isSome && rc.count.returns) = false) :
    ∃ c, (onSq (quickSelectDataCount rc.count (fun d => (pending d).length) 0)).run
        { w with sq := w.sq.opened, server := srv } =
      (.ok (false, c), { w with sq := w.sq.opened.closed, server := srv }) := by
  have h := quickSelectDataCount_false rc.count (fun d => (pending d).length) 0 w.sq.opened rfl
    (by rw [Sq.opened, DbFile.tables_created, Bool.true_and, hcount])
  obtain ⟨c, hc⟩ := h
  exact ⟨c, onSq_run hc⟩

private theorem select_run {d : SqliteDB} (srv : Server) (hd : w.sq.file = .holds d) (n : ℕ) :
    (onSq (quickSelectData rc.select pending n)).run
        { w with sq := w.sq.opened, server := srv } =
      match rc.select.fetched (pending d) n with
      | some (some stored) => (.ok (some stored), { w with sq := w.sq.opened, server := srv })
      | some none => (.ok none, { w with sq := w.sq.opened.closed, server := srv })
      | none =>
        (.error .hang,
          { w with sq := { w.sq.opened with tx := some (.holds d) }, server := srv }) := by
  have h := quickSelectData_run rc.select pending n w.sq.opened (d := d) rfl rfl
    (by rw [Sq.opened, hd]; rfl)
  cases hf : rc.select.fetched (pending d) n with
  | none =>
    rw [hf] at h
    exact onSq_run (h.trans (by simp [Sq.opened, hd, DbFile.created]))
  | some o =>
    rw [hf] at h
    cases o with
    | none => exact onSq_run h
    | some stored => exact onSq_run h

/-- The marks, on the open connection: of every key that was bound, or none. -/
private theorem mark_run {d : SqliteDB} (srv : Server) (mark : SqliteDB → String → SqliteDB)
    (ids : List String) (hd : w.sq.file = .holds d) :
    ∃ q : Sq SqliteDB,
      (onSq (quickInsertData rc.mark mark (ids.map some))).run
          { w with sq := w.sq.opened, server := srv } =
        (.ok (rc.mark.ok ids.length), { w with sq := q, server := srv }) ∧
      q.file =
        if rc.mark.ok ids.length then .holds ((rc.mark.bound ids).foldl mark d) else .holds d := by
  have hopened : w.sq.opened.file = .holds d := by rw [Sq.opened, hd]; rfl
  have h := quickInsertData_run rc.mark mark ids w.sq.opened rfl
  cases hok : rc.mark.ok ids.length with
  | true =>
    rw [if_pos (by rw [hopened, hok]; rfl)] at h
    exact ⟨_, onSq_run h, by rw [if_pos rfl, hopened]; rfl⟩
  | false =>
    rw [if_neg (by rw [hok, Bool.and_false]; decide)] at h
    exact ⟨_, onSq_run h, by rw [if_neg (by decide)]; exact hopened⟩

/-- On a connection that is gone, marking fails. -/
private theorem mark_closed (srv : Server) (mark : SqliteDB → String → SqliteDB)
    (slots : List (Option String)) :
    (onSq (quickInsertData rc.mark mark slots)).run
        { w with sq := w.sq.opened.closed, server := srv } =
      (.ok false, { w with sq := w.sq.opened.closed, server := srv }) := by
  apply onSq_run
  rw [quickInsertData]
  apply Act.both_run_false
  rw [beginQuick_run _ _ _ _ rfl, if_neg]
  · rfl
  · simp [Sq.closed]

private theorem update_run (list : List MyStmt) (w : World) :
    (onServer (updateMysqlDB rc.update list)).run w =
      (.ok (Batch.reported 99 rc.update 0 list),
        { w with server := w.server.execAll (Batch.served 99 rc.update 0 list) }) :=
  onServer_run (updateMysqlDB_run rc.update list w.server)

/-- Rows in hand, on the open connection. -/
private theorem uploadSelectedRecords_run {d : SqliteDB} (hd : w.sq.file = .holds d)
    {stored : List (SqlRow WorkRecordCol)} (hne : stored ≠ []) :
    ∃ q : Sq SqliteDB,
      (uploadSelectedRecords rc stored.length stored).run { w with sq := w.sq.opened } =
        (.ok (), { w with
          sq := q
          server := w.server.execAll (Batch.served 99 rc.update 0 (stored.map uploadRecord)) }) ∧
      q.file =
        if Batch.reported 99 rc.update 0 (stored.map uploadRecord) && rc.mark.ok stored.length then
          .holds ((rc.mark.bound (stored.map Row.Id)).foldl SqliteDB.markRecord d)
        else .holds d := by
  have hupdate := update_run rc (stored.map uploadRecord) { w with sq := w.sq.opened }
  rw [uploadSelectedRecords, ptrArray_ids]
  cases hrep : Batch.reported 99 rc.update 0 (stored.map uploadRecord) with
  -- the upload has failed: nothing is marked on the phone
  | false =>
    rw [hrep] at hupdate
    refine ⟨w.sq.opened, ?_, ?_⟩
    · rw [Act.bind_run_ok hupdate, if_neg (by decide)]
      exact deleteAll_run _ _
    · rw [Sq.opened, hd, Bool.false_and, if_neg (by decide)]
      rfl
  | true =>
    rw [hrep] at hupdate
    obtain ⟨q, hq, hfile⟩ := mark_run rc
      (w.server.execAll (Batch.served 99 rc.update 0 (stored.map uploadRecord)))
      SqliteDB.markRecord (stored.map Row.Id) hd
    have hIds : stored.map Row.Id ≠ [] := List.map_eq_nil_iff.not.2 hne
    have hfirst := fun w => derefFirst_run hIds w
    refine ⟨q, ?_, ?_⟩
    · rw [Act.bind_run_ok hupdate, if_pos rfl]
      dsimp only
      obtain ⟨i, hi⟩ := hfirst { w with
        sq := w.sq.opened
        server := w.server.execAll (Batch.served 99 rc.update 0 (stored.map uploadRecord)) }
      rw [Act.bind_run_ok hi, Act.bind_run_ok hq]
      exact deleteAll_run _ _
    · rw [hfile, List.length_map, Bool.true_and]

private theorem uploadCountedRecords_skips (ids : List String) {ret : Bool} {n : ℕ}
    (h : (ret && decide (0 < n)) = false) (w : World) :
    (uploadCountedRecords ids rc ret n).run w = (.ok (), w) := by
  rw [uploadCountedRecords, if_neg (by rw [h]; decide)]
  rfl

/-- The select, then the rows in hand. -/
private theorem uploadCountedRecords_run (ids : List String) {d : SqliteDB}
    (hd : w.sq.file = .holds d) (hpos : 0 < (d.pendingRecords rc.win ids).length) :
    let rows := d.pendingRecords rc.win ids
    let o := (uploadCountedRecords ids rc true rows.length).run { w with sq := w.sq.opened }
    match rc.select.fetched rows rows.length with
    | none => ∃ q, o = (.error .hang, { w with sq := q }) ∧ q.file = .holds d
    | some none => ∃ q, o = (.ok (), { w with sq := q }) ∧ q.file = .holds d
    | some (some stored) => ∃ q,
      o = (.ok (), { w with
        sq := q
        server := w.server.execAll (Batch.served 99 rc.update 0 (stored.map uploadRecord)) }) ∧
      q.file =
        if Batch.reported 99 rc.update 0 (stored.map uploadRecord) && rc.mark.ok stored.length then
          .holds ((rc.mark.bound (stored.map Row.Id)).foldl SqliteDB.markRecord d)
        else .holds d := by
  have hsel := select_run (SqliteDB.pendingRecords rc.win ids) rc w.server hd
    (d.pendingRecords rc.win ids).length
  have hopened : w.sq.opened.file = .holds d := by rw [Sq.opened, hd]; rfl
  simp only
  rw [uploadCountedRecords, if_pos (by simpa using hpos)]
  cases hf : rc.select.fetched (d.pendingRecords rc.win ids)
      (d.pendingRecords rc.win ids).length with
  | none =>
    rw [hf] at hsel
    exact ⟨_, Act.bind_run_error hsel, hopened⟩
  | some o =>
    rw [hf] at hsel
    cases o with
    | none => exact ⟨_, Act.bind_run_ok hsel, hopened⟩
    | some stored =>
      -- as many rows as were counted, so the array is not empty
      have hlen := (FetchRc.fetched_some hf).2
      rw [Act.bind_run_ok hsel]
      rw [← hlen] at hpos ⊢
      exact uploadSelectedRecords_run rc hd (List.length_pos_iff.1 hpos)

/-- An empty list of statements reports success and leaves the server alone. -/
private theorem update_nil (w : World) :
    (onServer (updateMysqlDB rc.update [])).run w = (.ok true, w) := by
  rw [update_run, Batch.reported_nil, Batch.served_nil]
  rfl

/-- Statements in hand, on the open connection. -/
private theorem sendTasks_run {d : SqliteDB} (hd : w.sq.file = .holds d) (ids : List String)
    (list : List MyStmt) :
    ∃ q : Sq SqliteDB,
      (sendTasks rc true (some (ids.map some)) list).run { w with sq := w.sq.opened } =
        (.ok (Batch.reported 99 rc.update 0 list), { w with
          sq := q
          server := w.server.execAll (Batch.served 99 rc.update 0 list) }) ∧
      q.file =
        if Batch.reported 99 rc.update 0 list && rc.mark.ok ids.length then
          .holds ((rc.mark.bound ids).foldl SqliteDB.markTask d)
        else .holds d := by
  have hupdate := update_run rc list { w with sq := w.sq.opened }
  rw [sendTasks]
  cases hrep : Batch.reported 99 rc.update 0 list with
  -- the upload has failed: nothing is marked on the phone
  | false =>
    rw [hrep] at hupdate
    refine ⟨w.sq.opened, Act.bind_run_ok hupdate, ?_⟩
    rw [Sq.opened, hd, Bool.false_and, if_neg (by decide)]
    rfl
  | true =>
    rw [hrep] at hupdate
    obtain ⟨q, hq, hfile⟩ := mark_run rc
      (w.server.execAll (Batch.served 99 rc.update 0 list)) SqliteDB.markTask ids hd
    refine ⟨q, ?_, hfile⟩
    rw [Act.bind_run_ok hupdate, if_pos rfl]
    dsimp only
    rw [Act.bind_run_ok hq, Act.bind_run_ok (deleteAll_run _ _)]
    rfl

/-- After a failed select the array holds no pointer and the connection is gone. -/
private theorem sendTasks_unassigned {n : ℕ} (hn : 0 < n) (w : World) :
    (sendTasks rc false (some (List.replicate n none)) []).run
        { w with sq := w.sq.opened.closed } =
      (.error .undefined, { w with sq := w.sq.opened.closed }) := by
  rw [sendTasks, Act.bind_run_ok (update_nil rc _), if_pos rfl,
    Act.bind_run_ok (mark_closed rc w.server _ _),
    Act.bind_run_error (deleteAll_unassigned hn _)]

private theorem sendTasks_none (ret : Bool) (w : World) :
    (sendTasks rc ret none []).run w = (.ok ret, w) := by
  rw [sendTasks, Act.bind_run_ok (update_nil rc _)]
  rfl

private theorem sendDevices_run {d : SqliteDB} (hd : w.sq.file = .holds d) (ids : List String)
    (list : List MyStmt) :
    ∃ q : Sq SqliteDB,
      (sendDevices rc true (some (ids.map some)) list).run { w with sq := w.sq.opened } =
        (.ok (Batch.reported 99 rc.update 0 list && rc.mark.ok ids.length), { w with
          sq := q
          server := w.server.execAll (Batch.served 99 rc.update 0 list) }) ∧
      q.file =
        if Batch.reported 99 rc.update 0 list && rc.mark.ok ids.length then
          .holds ((rc.mark.bound ids).foldl SqliteDB.markDevice d)
        else .holds d := by
  have hupdate := update_run rc list { w with sq := w.sq.opened }
  rw [sendDevices]
  cases hrep : Batch.reported 99 rc.update 0 list with
  -- the upload has failed: nothing is marked on the phone
  | false =>
    rw [hrep] at hupdate
    refine ⟨w.sq.opened, Act.bind_run_ok hupdate, ?_⟩
    rw [Sq.opened, hd, Bool.false_and, if_neg (by decide)]
    rfl
  | true =>
    rw [hrep] at hupdate
    obtain ⟨q, hq, hfile⟩ := mark_run rc
      (w.server.execAll (Batch.served 99 rc.update 0 list)) SqliteDB.markDevice ids hd
    refine ⟨q, ?_, hfile⟩
    rw [Act.bind_run_ok hupdate, if_pos rfl]
    dsimp only
    rw [Act.bind_run_ok hq, Act.bind_run_ok (deleteAll_run _ _)]
    rfl

private theorem sendDevices_unassigned {n : ℕ} (hn : 0 < n) (w : World) :
    (sendDevices rc false (some (List.replicate n none)) []).run
        { w with sq := w.sq.opened.closed } =
      (.error .undefined, { w with sq := w.sq.opened.closed }) := by
  rw [sendDevices, Act.bind_run_ok (update_nil rc _), if_pos rfl,
    Act.bind_run_ok (mark_closed rc w.server _ _),
    Act.bind_run_error (deleteAll_unassigned hn _)]

private theorem sendDevices_none (ret : Bool) (w : World) :
    (sendDevices rc ret none []).run w = (.ok ret, w) := by
  rw [sendDevices, Act.bind_run_ok (update_nil rc _)]
  rfl

/-- The select of the tasks: `vecDataTime` is only read for the rows it delivers. -/
private theorem selectCountedTasks_run (ids vecDataTime : List String) {d : SqliteDB}
    (hd : w.sq.file = .holds d) (hpos : 0 < (d.pendingTasks rc.win ids).length) :
    let rows := d.pendingTasks rc.win ids
    let o := (selectCountedTasks ids rc vecDataTime true rows.length).run
      { w with sq := w.sq.opened }
    match rc.select.fetched rows rows.length with
    | none => ∃ q, o = (.error .hang, { w with sq := q }) ∧ q.file = .holds d
    | some none =>
      o = (.ok (false, some (List.replicate rows.length none), []),
        { w with sq := w.sq.opened.closed })
    | some (some stored) =>
      match vecDataTime with
      | [] => o = (.error .undefined, { w with sq := w.sq.opened })
      | Systemtime :: _ =>
        o = (.ok (true, some ((stored.map Row.Id).map some),
          stored.map (uploadTask Systemtime)), { w with sq := w.sq.opened }) := by
  have hsel := select_run (SqliteDB.pendingTasks rc.win ids) rc w.server hd
    (d.pendingTasks rc.win ids).length
  have hopened : w.sq.opened.file = .holds d := by rw [Sq.opened, hd]; rfl
  simp only
  rw [selectCountedTasks, if_pos (by simpa using hpos)]
  cases hf : rc.select.fetched (d.pendingTasks rc.win ids)
      (d.pendingTasks rc.win ids).length with
  -- the array is there, but its rows were never stored
  | none =>
    rw [hf] at hsel
    exact ⟨_, Act.bind_run_error hsel, hopened⟩
  | some o =>
    rw [hf] at hsel
    cases o with
    | none =>
      rw [Act.bind_run_ok hsel, ptrArray_nil]
      rfl
    | some stored =>
      have hlen := (FetchRc.fetched_some hf).2
      rw [Act.bind_run_ok hsel]
      rw [← hlen] at hpos ⊢
      dsimp only
      rw [ptrArray_ids]
      obtain ⟨r, rest, rfl⟩ := List.exists_cons_of_ne_nil (List.length_pos_iff.1 hpos)
      -- the first element of the times is read for every row
      cases vecDataTime <;> rfl

private theorem selectCountedTasks_skips (ids vecDataTime : List String) {ret : Bool} {n : ℕ}
    (h : (ret && decide (0 < n)) = false) (w : World) :
    (selectCountedTasks ids rc vecDataTime ret n).run w = (.ok (ret, none, []), w) := by
  rw [selectCountedTasks, if_neg (by rw [h]; decide)]
  rfl

private theorem selectCountedDevices_run (ids : List String) (fw : TongbuFw) {d : SqliteDB}
    (hd : w.sq.file = .holds d) (hpos : 0 < (d.pendingDevices fw rc.win ids).length) :
    let rows := d.pendingDevices fw rc.win ids
    let o := (selectCountedDevices ids fw rc true rows.length).run { w with sq := w.sq.opened }
    match rc.select.fetched rows rows.length with
    | none => ∃ q, o = (.error .hang, { w with sq := q }) ∧ q.file = .holds d
    | some none =>
      o = (.ok (false, some (List.replicate rows.length none), []),
        { w with sq := w.sq.opened.closed })
    | some (some stored) =>
      o = (.ok (true, some ((stored.map Row.Id).map some), stored.map uploadDevice),
        { w with sq := w.sq.opened }) := by
  have hsel := select_run (SqliteDB.pendingDevices fw rc.win ids) rc w.server hd
    (d.pendingDevices fw rc.win ids).length
  have hopened : w.sq.opened.file = .holds d := by rw [Sq.opened, hd]; rfl
  simp only
  rw [selectCountedDevices, if_pos (by simpa using hpos)]
  cases hf : rc.select.fetched (d.pendingDevices fw rc.win ids)
      (d.pendingDevices fw rc.win ids).length with
  -- the array is there, but its rows were never stored
  | none =>
    rw [hf] at hsel
    exact ⟨_, Act.bind_run_error hsel, hopened⟩
  | some o =>
    rw [hf] at hsel
    cases o with
    | none =>
      rw [Act.bind_run_ok hsel, ptrArray_nil]
      rfl
    | some stored =>
      have hlen := (FetchRc.fetched_some hf).2
      rw [Act.bind_run_ok hsel]
      rw [← hlen] at hpos ⊢
      dsimp only
      rw [ptrArray_ids]
      rfl

private theorem selectCountedDevices_skips (ids : List String) (fw : TongbuFw) {ret : Bool}
    {n : ℕ} (h : (ret && decide (0 < n)) = false) (w : World) :
    (selectCountedDevices ids fw rc ret n).run w = (.ok (ret, none, []), w) := by
  rw [selectCountedDevices, if_neg (by rw [h]; decide)]
  rfl

end Phases

/-! ## §3 The routines -/

/-- `Synchrodata_work_record` to PC, end by end.  It answers `TRUE` whenever the file could be
opened and the select came to an end. -/
theorem synchrodataWorkRecordToPc_run (ids : List String) (rc : ToPcRc) (w : World)
    (hfile : w.sq.file.pathFileExists = true) :
    let o := (synchrodataWorkRecordToPc ids rc).run w
    match uploadEnd (SqliteDB.pendingRecords rc.win ids) rc w.sq with
    | .waits => Ended o (.error .hang) w.sq.file w.server
    | .notOpened => Ended o (.ok false) w.sq.file w.server
    | .notCounted => Ended o (.ok true) w.sq.file w.server
    | .nothing => Ended o (.ok true) w.sq.file w.server
    | .neverSelected => Ended o (.error .hang) w.sq.file w.server
    | .notSelected => Ended o (.ok true) w.sq.file w.server
    | .selected stored =>
      Ended o (.ok true)
        (if Batch.reported 99 rc.update 0 (stored.map uploadRecord) &&
            rc.mark.ok stored.length then
          w.sq.file.map fun d => (rc.mark.bound (stored.map Row.Id)).foldl SqliteDB.markRecord d
        else w.sq.file)
        (w.server.execAll (Batch.served 99 rc.update 0 (stored.map uploadRecord))) := by
  have hcreated : w.sq.file.created = w.sq.file := by
    cases hf : w.sq.file with
    | missing => rw [hf] at hfile; exact absurd hfile (by decide)
    | blank => rfl
    | holds d => rfl
  simp only
  rw [synchrodataWorkRecordToPc, Act.bind_run_ok (Act.read_run w), if_neg (by simp [hfile])]
  rcases Bool.eq_false_or_eq_true w.sq.eventOpenDB with hgate | hgate
  swap
  · rw [uploadEnd_waits _ hgate, Act.bind_run_error (open_waits rc hgate)]
    exact ⟨rfl, rfl, rfl⟩
  rcases Bool.eq_false_or_eq_true rc.openDb with hopen | hopen
  swap
  · rw [uploadEnd_notOpened _ hgate hopen, Act.bind_run_ok (open_fails rc hgate hopen)]
    exact ⟨rfl, rfl, rfl⟩
  rw [Act.bind_run_ok (open_run rc hgate hopen), if_pos rfl]
  -- the connection is open: the count comes next
  by_cases hcount : (w.sq.file.tables.isSome && rc.count.returns) = true
  · obtain ⟨htab, hcount⟩ := (Bool.and_eq_true _ _).mp hcount
    obtain ⟨d, hd⟩ := DbFile.eq_holds htab
    rw [Act.bind_run_ok (count_run _ rc w.server hd hcount), hd,
      uploadEnd_counted _ hgate hopen hd hcount]
    by_cases hpos : (rc.count.row && decide (0 < (d.pendingRecords rc.win ids).length)) = true
    · obtain ⟨hrow, hpos'⟩ := (Bool.and_eq_true _ _).mp hpos
      have hrows := uploadCountedRecords_run rc ids hd (of_decide_eq_true hpos')
      simp only at hrows
      rw [if_pos hpos, if_pos hrow]
      cases hf : rc.select.fetched (d.pendingRecords rc.win ids)
          (d.pendingRecords rc.win ids).length with
      | none =>
        rw [hf] at hrows
        obtain ⟨q, hq, hqf⟩ := hrows
        rw [Act.bind_run_error hq]
        exact ⟨rfl, hqf, rfl⟩
      | some o =>
        rw [hf] at hrows
        cases o with
        | none =>
          obtain ⟨q, hq, hqf⟩ := hrows
          rw [Act.bind_run_ok hq]
          exact ⟨rfl, hqf, rfl⟩
        | some stored =>
          obtain ⟨q, hq, hqf⟩ := hrows
          rw [Act.bind_run_ok hq]
          exact ⟨rfl, hqf, rfl⟩
    · rw [if_neg hpos, Act.bind_run_ok (uploadCountedRecords_skips rc ids (by grind) _)]
      exact ⟨rfl, hcreated.trans hd, rfl⟩
  · have hcount' := Bool.not_eq_true _ ▸ hcount
    obtain ⟨c, hc⟩ := count_fails (SqliteDB.pendingRecords rc.win ids) rc w.server hcount'
    rw [Act.bind_run_ok hc, Act.bind_run_ok (uploadCountedRecords_skips rc ids rfl _),
      uploadEnd_notCounted _ hgate hopen hcount']
    exact ⟨rfl, hcreated, rfl⟩

/-- What `vecDataTime` holds after `select now()`. -/
def ToPcRc.vecDataTime (rc : ToPcRc) : List String :=
  if rc.now = .ok then [rc.Systemtime] else []

/-- `Synchrodata_work_task` to PC, end by end, when `select now()` comes back at all. -/
theorem synchrodataWorkTaskToPc_run (ids : List String) (rc : ToPcRc) (w : World)
    (hfile : w.sq.file.pathFileExists = true) (hnow : rc.now ≠ .storeFails) :
    let o := (synchrodataWorkTaskToPc ids rc).run w
    match uploadEnd (SqliteDB.pendingTasks rc.win ids) rc w.sq with
    | .waits => Ended o (.error .hang) w.sq.file w.server
    | .notOpened => Ended o (.ok false) w.sq.file w.server
    | .notCounted => Ended o (.ok false) w.sq.file w.server
    | .nothing => Ended o (.ok true) w.sq.file w.server
    | .neverSelected => Ended o (.error .hang) w.sq.file w.server
    | .notSelected => Ended o (.error .undefined) w.sq.file w.server
    | .selected stored =>
      match rc.now with
      | .ok =>
        Ended o (.ok (Batch.reported 99 rc.update 0 (stored.map (uploadTask rc.Systemtime))))
          (if Batch.reported 99 rc.update 0 (stored.map (uploadTask rc.Systemtime)) &&
              rc.mark.ok stored.length then
            w.sq.file.map fun d => (rc.mark.bound (stored.map Row.Id)).foldl SqliteDB.markTask d
          else w.sq.file)
          (w.server.execAll
            (Batch.served 99 rc.update 0 (stored.map (uploadTask rc.Systemtime))))
      | _ => Ended o (.error .undefined) w.sq.file w.server := by
  have hcreated : w.sq.file.created = w.sq.file := by
    cases hf : w.sq.file with
    | missing => rw [hf] at hfile; exact absurd hfile (by decide)
    | blank => rfl
    | holds d => rfl
  simp only
  rw [synchrodataWorkTaskToPc, Act.bind_run_ok (Act.read_run w), if_neg (by simp [hfile])]
  rcases Bool.eq_false_or_eq_true w.sq.eventOpenDB with hgate | hgate
  swap
  · rw [uploadEnd_waits _ hgate, Act.bind_run_error (open_waits rc hgate)]
    exact ⟨rfl, rfl, rfl⟩
  rcases Bool.eq_false_or_eq_true rc.openDb with hopen | hopen
  swap
  · rw [uploadEnd_notOpened _ hgate hopen, Act.bind_run_ok (open_fails rc hgate hopen)]
    exact ⟨rfl, rfl, rfl⟩
  rw [Act.bind_run_ok (open_run rc hgate hopen), if_pos rfl]
  -- the server is asked for its time
  obtain ⟨vec, hvec, htime⟩ : ∃ vec : Option (List String), vec.getD [] = rc.vecDataTime ∧
      (onServer (select rc.now fun _ => [rc.Systemtime])).run { w with sq := w.sq.opened } =
        (.ok vec, { w with sq := w.sq.opened }) := by
    rw [ToPcRc.vecDataTime]
    cases hn : rc.now with
    | ok => exact ⟨some [rc.Systemtime], rfl, rfl⟩
    | queryFails => exact ⟨none, rfl, rfl⟩
    | storeFails => exact absurd hn hnow
  rw [Act.bind_run_ok htime, hvec]
  by_cases hcount : (w.sq.file.tables.isSome && rc.count.returns) = true
  · obtain ⟨htab, hcount⟩ := (Bool.and_eq_true _ _).mp hcount
    obtain ⟨d, hd⟩ := DbFile.eq_holds htab
    have hopened : w.sq.opened.file = .holds d := by rw [Sq.opened, hd]; rfl
    rw [Act.bind_run_ok (count_run _ rc w.server hd hcount), hd,
      uploadEnd_counted _ hgate hopen hd hcount]
    by_cases hpos : (rc.count.row && decide (0 < (d.pendingTasks rc.win ids).length)) = true
    · obtain ⟨hrow, hpos'⟩ := (Bool.and_eq_true _ _).mp hpos
      have hrows := selectCountedTasks_run rc ids rc.vecDataTime hd (of_decide_eq_true hpos')
      simp only at hrows
      rw [if_pos hpos, if_pos hrow]
      cases hf : rc.select.fetched (d.pendingTasks rc.win ids)
          (d.pendingTasks rc.win ids).length with
      | none =>
        rw [hf] at hrows
        obtain ⟨q, hq, hqf⟩ := hrows
        rw [Act.bind_run_error hq]
        exact ⟨rfl, hqf, rfl⟩
      | some o =>
        rw [hf] at hrows
        cases o with
        | none =>
          rw [Act.bind_run_ok hrows]
          dsimp only
          rw [Act.bind_run_error (sendTasks_unassigned rc (of_decide_eq_true hpos') w)]
          exact ⟨rfl, hopened, rfl⟩
        | some stored =>
          cases hn : rc.now with
          | ok =>
            rw [ToPcRc.vecDataTime, hn, if_pos rfl] at hrows
            obtain ⟨q, hq, hqf⟩ := sendTasks_run rc hd (stored.map Row.Id)
              (stored.map (uploadTask rc.Systemtime))
            rw [List.length_map] at hqf
            rw [ToPcRc.vecDataTime, hn, if_pos rfl, Act.bind_run_ok hrows]
            dsimp only
            rw [Act.bind_run_ok hq]
            exact ⟨rfl, hqf, rfl⟩
          | queryFails =>
            rw [ToPcRc.vecDataTime, hn, if_neg (by decide)] at hrows
            rw [ToPcRc.vecDataTime, hn, if_neg (by decide), Act.bind_run_error hrows]
            exact ⟨rfl, hopened, rfl⟩
          | storeFails => exact absurd hn hnow
    · rw [if_neg hpos, Act.bind_run_ok (selectCountedTasks_skips rc ids _ (by grind) _)]
      dsimp only
      rw [Act.bind_run_ok (sendTasks_none rc _ _)]
      exact ⟨rfl, hopened, rfl⟩
  · have hcount' := Bool.not_eq_true _ ▸ hcount
    obtain ⟨c, hc⟩ := count_fails (SqliteDB.pendingTasks rc.win ids) rc w.server hcount'
    rw [Act.bind_run_ok hc, Act.bind_run_ok (selectCountedTasks_skips rc ids _ rfl _),
      uploadEnd_notCounted _ hgate hopen hcount']
    dsimp only
    rw [Act.bind_run_ok (sendTasks_none rc _ _)]
    exact ⟨rfl, hcreated, rfl⟩

/-- `Synchrodata_device_info` to PC, end by end. -/
theorem synchrodataDeviceInfoToPc_run (ids : List String) (fw : TongbuFw) (rc : ToPcRc)
    (w : World) :
    let o := (synchrodataDeviceInfoToPc ids fw rc).run w
    match uploadEnd (SqliteDB.pendingDevices fw rc.win ids) rc w.sq with
    | .waits => Ended o (.error .hang) w.sq.file w.server
    | .notOpened => Ended o (.ok false) w.sq.file w.server
    | .notCounted => Ended o (.ok false) w.sq.file.created w.server
    | .nothing => Ended o (.ok true) w.sq.file w.server
    | .neverSelected => Ended o (.error .hang) w.sq.file w.server
    | .notSelected => Ended o (.error .undefined) w.sq.file w.server
    | .selected stored =>
      Ended o
        (.ok (Batch.reported 99 rc.update 0 (stored.map uploadDevice) &&
          rc.mark.ok stored.length))
        (if Batch.reported 99 rc.update 0 (stored.map uploadDevice) &&
            rc.mark.ok stored.length then
          w.sq.file.map fun d => (rc.mark.bound (stored.map Row.Id)).foldl SqliteDB.markDevice d
        else w.sq.file)
        (w.server.execAll (Batch.served 99 rc.update 0 (stored.map uploadDevice))) := by
  simp only
  rw [synchrodataDeviceInfoToPc]
  rcases Bool.eq_false_or_eq_true w.sq.eventOpenDB with hgate | hgate
  swap
  · rw [uploadEnd_waits _ hgate, Act.bind_run_error (open_waits rc hgate)]
    exact ⟨rfl, rfl, rfl⟩
  rcases Bool.eq_false_or_eq_true rc.openDb with hopen | hopen
  swap
  · rw [uploadEnd_notOpened _ hgate hopen, Act.bind_run_ok (open_fails rc hgate hopen)]
    exact ⟨rfl, rfl, rfl⟩
  rw [Act.bind_run_ok (open_run rc hgate hopen), if_pos rfl]
  -- the connection is open: the count comes next
  by_cases hcount : (w.sq.file.tables.isSome && rc.count.returns) = true
  · obtain ⟨htab, hcount⟩ := (Bool.and_eq_true _ _).mp hcount
    obtain ⟨d, hd⟩ := DbFile.eq_holds htab
    have hopened : w.sq.opened.file = .holds d := by rw [Sq.opened, hd]; rfl
    rw [Act.bind_run_ok (count_run _ rc w.server hd hcount), hd,
      uploadEnd_counted _ hgate hopen hd hcount]
    by_cases hpos : (rc.count.row && decide (0 < (d.pendingDevices fw rc.win ids).length)) = true
    · obtain ⟨hrow, hpos'⟩ := (Bool.and_eq_true _ _).mp hpos
      have hrows := selectCountedDevices_run rc ids fw hd (of_decide_eq_true hpos')
      simp only at hrows
      rw [if_pos hpos, if_pos hrow]
      cases hf : rc.select.fetched (d.pendingDevices fw rc.win ids)
          (d.pendingDevices fw rc.win ids).length with
      | none =>
        rw [hf] at hrows
        obtain ⟨q, hq, hqf⟩ := hrows
        rw [Act.bind_run_error hq]
        exact ⟨rfl, hqf, rfl⟩
      | some o =>
        rw [hf] at hrows
        cases o with
        | none =>
          rw [Act.bind_run_ok hrows]
          dsimp only
          rw [Act.bind_run_error (sendDevices_unassigned rc (of_decide_eq_true hpos') w)]
          exact ⟨rfl, hopened, rfl⟩
        | some stored =>
          obtain ⟨q, hq, hqf⟩ := sendDevices_run rc hd (stored.map Row.Id)
            (stored.map uploadDevice)
          rw [List.length_map] at hq hqf
          rw [Act.bind_run_ok hrows]
          dsimp only
          rw [Act.bind_run_ok hq]
          exact ⟨rfl, hqf, rfl⟩
    · rw [if_neg hpos, Act.bind_run_ok (selectCountedDevices_skips rc ids fw (by grind) _)]
      dsimp only
      rw [Act.bind_run_ok (sendDevices_none rc _ _)]
      exact ⟨rfl, hopened, rfl⟩
  · have hcount' := Bool.not_eq_true _ ▸ hcount
    obtain ⟨c, hc⟩ := count_fails (SqliteDB.pendingDevices fw rc.win ids) rc w.server hcount'
    rw [Act.bind_run_ok hc, Act.bind_run_ok (selectCountedDevices_skips rc ids fw rfl _),
      uploadEnd_notCounted _ hgate hopen hcount']
    dsimp only
    rw [Act.bind_run_ok (sendDevices_none rc _ _)]
    exact ⟨rfl, rfl, rfl⟩

/-- Without a file, the routines that look for it give up at once. -/
theorem synchrodataWorkRecordToPc_missing (ids : List String) (rc : ToPcRc) {w : World}
    (hfile : w.sq.file.pathFileExists = false) :
    (synchrodataWorkRecordToPc ids rc).run w = (.ok false, w) := by
  rw [synchrodataWorkRecordToPc, Act.bind_run_ok (Act.read_run w), if_pos (by simp [hfile])]
  rfl

theorem synchrodataWorkTaskToPc_missing (ids : List String) (rc : ToPcRc) {w : World}
    (hfile : w.sq.file.pathFileExists = false) :
    (synchrodataWorkTaskToPc ids rc).run w = (.ok false, w) := by
  rw [synchrodataWorkTaskToPc, Act.bind_run_ok (Act.read_run w), if_pos (by simp [hfile])]
  rfl

/-- When `select now()` does not come back, the task routine gets no further. -/
theorem synchrodataWorkTaskToPc_storeFails (ids : List String) (rc : ToPcRc) (w : World)
    (hfile : w.sq.file.pathFileExists = true) (hnow : rc.now = .storeFails) :
    let o := (synchrodataWorkTaskToPc ids rc).run w
    (w.sq.eventOpenDB = false → Ended o (.error .hang) w.sq.file w.server) ∧
    (w.sq.eventOpenDB = true → rc.openDb = false → Ended o (.ok false) w.sq.file w.server) ∧
    (w.sq.eventOpenDB = true → rc.openDb = true →
      Ended o (.error .undefined) w.sq.file w.server) := by
  simp only
  rw [synchrodataWorkTaskToPc, Act.bind_run_ok (Act.read_run w), if_neg (by simp [hfile])]
  refine ⟨fun hgate => ?_, fun hgate hopen => ?_, fun hgate hopen => ?_⟩
  · rw [Act.bind_run_error (open_waits rc hgate)]
    exact ⟨rfl, rfl, rfl⟩
  · rw [Act.bind_run_ok (open_fails rc hgate hopen)]
    exact ⟨rfl, rfl, rfl⟩
  · rw [Act.bind_run_ok (open_run rc hgate hopen), if_pos rfl, hnow]
    refine ⟨rfl, ?_, rfl⟩
    cases hf : w.sq.file with
    | missing => rw [hf] at hfile; exact absurd hfile (by decide)
    | blank => simp [Act.bind_run, onServer, Sq.opened, hf, DbFile.created]
    | holds d => simp [Act.bind_run, onServer, Sq.opened, hf, DbFile.created]

end MtpSync
