import MtpSync.Download.Answers
import MtpSync.Download.Buried

/-!
# What the server loses in a run to the phone

The statements that delete rows of the server are sent by the delete pass and by the chunks of
tasks.  They are known from the state before each, and however the run ends no other row is lost.

- §1 the delete pass
- §2 the routines
- §3 a run that loses nothing
-/

namespace MtpSync

open Act

/-! ## §1 The delete pass -/

section Pass

variable {sel : Selection} {rc : SwitchRc} {w : World}

/-- The statements the delete pass of a run has the server execute, from this state on. -/
def Selection.passStmts (sel : Selection) (rc : SwitchRc) (w : World) : List MyStmt :=
  match sel.m_deleteTree with
  | .nullptr => []
  | tree =>
    if rc.init && rc.deleteArea.openDb && w.sq.eventOpenDB then
      rc.deleteArea.passStmts (tree.arys sel.mapOrder) w.sq.file
    else []

/-- **The delete pass**, however it ends, on the server. -/
theorem pass_server (hinit : rc.init = true) (htx : w.sq.tx = none) :
    ((deleteAreaAndDevice sel.mapOrder sel.m_deleteTree rc.deleteArea).run w).2.server =
      w.server.execAll (sel.passStmts rc w) := by
  obtain ⟨⟨file, tx, alive, gate⟩, server, queue⟩ := w
  cases htx
  rw [Selection.passStmts, hinit, Bool.true_and]
  cases htree : sel.m_deleteTree with
  | nullptr => rfl
  | node i t f s child sibling =>
    dsimp only
    cases hexists : file.pathFileExists with
    | false =>
      have hrun : (deleteAreaAndDevice sel.mapOrder (.node i t f s child sibling)
          rc.deleteArea).run ⟨⟨file, none, alive, gate⟩, server, queue⟩ =
          (.ok false, ⟨⟨file, none, alive, gate⟩, server, queue⟩) := by
        dsimp only [deleteAreaAndDevice]
        rw [bind_run_ok (read_run _), if_pos (by simp [hexists])]
        rfl
      have hnone : rc.deleteArea.passStmts
          ((DeleteTree.node i t f s child sibling).arys sel.mapOrder) file = [] := by
        cases file with
        | missing => rfl
        | blank => cases hexists
        | holds d => cases hexists
      rw [hrun, hnone, ite_self, Server.execAll_nil]
    | true =>
      cases hopens : rc.deleteArea.openDb && gate with
      | true =>
        rw [Bool.and_eq_true] at hopens
        obtain ⟨hopen, rfl⟩ := hopens
        have hnode : DeleteTree.node i t f s child sibling ≠ .nullptr := by simp
        obtain ⟨res, w', hrun, hserver, -⟩ := deleteAreaAndDevice_returns sel.mapOrder hnode hopen
          hexists alive server queue
        rw [hrun, hserver, if_pos rfl]
      | false =>
        rw [if_neg (by decide)]
        dsimp only [deleteAreaAndDevice]
        rw [bind_run_ok (read_run _), if_neg (by simp [hexists])]
        -- the gate is closed, or the open fails
        cases gate with
        | false => rfl
        | true =>
          rw [Bool.and_true] at hopens
          rw [hopens]
          rfl

end Pass

/-! ## §2 The routines -/

/-- The server stays as it is. -/
private def Unserved (w w' : World) : Prop := w'.server = w.server

private instance : Std.Refl Unserved := ⟨fun _ => rfl⟩

private instance : IsTrans World Unserved := ⟨fun _ _ _ h h' => Eq.trans h' h⟩

section Server

variable {α ρ τ : Type}

private theorem unserved_onSq (m : Act (Sq SqliteDB) α) : Keeps Unserved (onSq m) := fun w => by
  rw [onSq, zoom_run]
  rfl

private theorem unserved_select (rc : SelectRc) (q : MysqlDB → List ρ) :
    Keeps Unserved (onServer (select rc q)) := fun w => by
  rw [onServer, zoom_run]
  exact select_state rc q w.server

private theorem unserved_copyNew [Bound τ] (rc : CopyNewRc) (q : MysqlDB → List ρ)
    (toPhone : ρ → τ) (replace : SqliteDB → τ → SqliteDB) (mark : ρ → List MyStmt) :
    Keeps Unserved (copyNew rc q toPhone replace mark) := by
  refine (unserved_select rc.select q).bind fun rows => ?_
  split
  · exact keeps_pure _
  · exact keeps_pure _
  · exact (unserved_onSq _).bind fun _ => Keeps.ite
      (Keeps.bind (fun _ => rfl) fun _ => keeps_pure _) (keeps_pure _)

private theorem unserved_purge (rc : PurgeRc) (q : MysqlDB → List String)
    (delete : SqliteDB → String → SqliteDB) : Keeps Unserved (purge rc q delete) := by
  refine (unserved_select rc.select q).bind fun rows => ?_
  split
  · exact keeps_pure _
  · exact keeps_pure _
  · exact (unserved_onSq _).bind fun _ => Keeps.ite (keeps_pure _) (keeps_pure _)

private theorem unserved_copyUsers (rc : CopyNewRc) (ids : List String) :
    Keeps Unserved (copyUsers rc ids) := by
  refine (unserved_select rc.select _).bind fun rows => ?_
  split
  · exact keeps_pure _
  · exact keeps_pure _
  · exact Keeps.bind (fun _ => rfl) fun _ => (unserved_onSq _).bind fun _ =>
      Keeps.ite (keeps_pure _) (keeps_pure _)

private theorem unserved_opened (openDb : Bool) {body : Act World Bool}
    (h : Keeps Unserved body) :
    Keeps Unserved (onSq (openDataBase openDb) >>= fun o => if o then body else pure false) :=
  (unserved_onSq _).bind fun _ => Keeps.ite h (keeps_pure false)

private theorem unserved_whenExists {body : Act World Bool} (h : Keeps Unserved body) :
    Keeps Unserved (read >>= fun w : World =>
      if !w.sq.file.pathFileExists then pure false else body) :=
  keeps_read.bind fun _ => Keeps.ite (keeps_pure false) h

private theorem unserved_users (ids : List String) (rc : UserToPhoneRc) :
    Keeps Unserved (synchrodataSysUser ids rc) :=
  unserved_whenExists <| unserved_opened _ <| (unserved_copyUsers _ _).bind fun _ =>
    (unserved_purge _ _ _).bind fun _ => (unserved_onSq _).bind fun _ => keeps_pure _

private theorem unserved_devices (ids : List String) (fw : TongbuFw) (rc : ToPhoneRc) :
    Keeps Unserved (synchrodataDeviceInfoToPhone ids fw rc) :=
  unserved_opened _ <| (unserved_copyNew _ _ _ _ _).bind fun _ =>
    (unserved_purge _ _ _).bind fun _ => (unserved_onSq _).bind fun _ => keeps_pure _

private theorem unserved_areas (shown : List String) (rc : UserToPhoneRc) :
    Keeps Unserved (synchrodataAreasToPhone shown rc) := by
  have hrest : ∀ copied : Stage, Keeps Unserved (do
      let purged ← purge rc.purge MysqlDB.deletedAreas SqliteDB.deleteArea
      onSq closeDataBase
      pure (decide (copied = .stored) && decide (purged = .stored))) := fun copied =>
    (unserved_purge _ _ _).bind fun _ => (unserved_onSq _).bind fun _ => keeps_pure _
  exact unserved_opened _ (Keeps.ite ((keeps_pure _).bind hrest)
    ((unserved_copyNew _ _ _ _ _).bind hrest))

private theorem unserved_template (ids : List String) (rc : ToPhoneRc) :
    Keeps Unserved (synchrodataWorkTemplateToPhone ids rc) :=
  unserved_whenExists <| unserved_opened _ <| (unserved_copyNew _ _ _ _ _).bind fun _ =>
    (unserved_purge _ _ _).bind fun _ => Keeps.ite (keeps_pure _)
      ((unserved_onSq _).bind fun _ => keeps_pure _)

private theorem unserved_type (ids : List String) (rc : ToPhoneRc) :
    Keeps Unserved (synchrodataWorkTypeToPhone ids rc) :=
  unserved_whenExists <| unserved_opened _ <| (unserved_copyNew _ _ _ _ _).bind fun _ =>
    (unserved_purge _ _ _).bind fun _ => (unserved_onSq _).bind fun _ => keeps_pure _

private theorem unserved_record (rc : RecordToPhoneRc) :
    Keeps Unserved (synchrodataWorkRecordToPhone rc) :=
  unserved_whenExists <| unserved_opened _ <| (unserved_copyNew _ _ _ _ _).bind fun _ =>
    (unserved_onSq _).bind fun _ => keeps_pure _

private theorem unserved_deleteTasks (rc : TaskDeleteRc) (ids : List String) :
    Keeps Unserved (deleteTasks rc ids) :=
  (unserved_onSq _).bind fun _ => (unserved_onSq _).bind fun _ =>
    (unserved_onSq _).bind fun _ => (unserved_onSq _).bind fun _ => keeps_pure _

private theorem unserved_deleteTasks2 (rc : TaskToPhoneRc) :
    Keeps Unserved (deleteTasks2 rc) := by
  refine (unserved_select rc.select2 _).bind fun rows => ?_
  split
  · exact keeps_pure _
  · exact keeps_pure _
  · exact (unserved_deleteTasks _ _).bind fun _ => keeps_pure _

/-- The server has executed nothing, or all of the statements. -/
private def Served (sts : List MyStmt) (w w' : World) : Prop :=
  w'.server = w.server ∨ w'.server = w.server.execAll sts

/-- **The second pass** sends its deletes, if it does. -/
private theorem served_deleteTasks3 (rc : TaskToPhoneRc) (w : World) :
    Served (rc.hardDeletes w.server.db) w ((deleteTasks3 rc).run w).2 := by
  unfold deleteTasks3
  rw [TaskToPhoneRc.hardDeletes, TaskToPhoneRc.ids3]
  cases rc.select3 with
  | storeFails => exact .inl rfl
  | queryFails => exact .inl rfl
  | ok =>
    rw [bind_run_ok (onServer_select_run _ _), if_pos rfl]
    cases w.server.db.deletedTasks "3" with
    | nil => exact .inl rfl
    | cons i rest =>
      -- the deletes on the phone come first, and send nothing
      have hdeletes := unserved_deleteTasks rc.delete3 (i :: rest) w
      dsimp only
      rcases hrun : (deleteTasks rc.delete3 (i :: rest)).run w with ⟨e | _, w₁⟩
      · rw [hrun] at hdeletes
        rw [bind_run_error hrun]
        exact .inl hdeletes
      · rw [hrun] at hdeletes
        rw [bind_run_ok hrun, bind_run_ok (onServer_updateMysqlDB_run _ _ _)]
        refine .inr ?_
        replace hdeletes : w₁.server = w.server := hdeletes
        rw [← hdeletes]
        rfl

private theorem Served.bind_left {β : Type} {sts : List MyStmt} {m : Act World α}
    {f : α → Act World β} {w : World} (hm : Keeps Unserved m)
    (hf : ∀ a w', w'.server = w.server → Served sts w' ((f a).run w').2) :
    Served sts w ((m >>= f).run w).2 := by
  have hsame := hm w
  rcases hrun : m.run w with ⟨e | a, w'⟩
  · rw [hrun] at hsame
    rw [bind_run_error hrun]
    exact .inl hsame
  · rw [hrun] at hsame
    replace hsame : w'.server = w.server := hsame
    rw [bind_run_ok hrun, Served, ← hsame]
    exact hf a w' hsame

private theorem Served.bind_right {β : Type} {sts : List MyStmt} {m : Act World α}
    {f : α → Act World β} {w : World} (hm : Served sts w (m.run w).2)
    (hf : ∀ a, Keeps Unserved (f a)) : Served sts w ((m >>= f).run w).2 := by
  rcases hrun : m.run w with ⟨e | a, w'⟩
  · rw [hrun] at hm
    rw [bind_run_error hrun]
    exact hm
  · rw [hrun] at hm
    have hsame : ((f a).run w').2.server = w'.server := hf a w'
    rw [bind_run_ok hrun, Served, hsame]
    exact hm

/-- The statements a chunk has the server execute, from this state on. -/
def chunkStmts (mode : RadioChoose) (rc : SwitchRc) (k : ℕ) (w : World) : List MyStmt :=
  match mode with
  | .radio_work =>
    if (rc.work k).task.openDb && w.sq.file.pathFileExists then
      (rc.work k).task.hardDeletes w.server.db
    else []
  | _ => []

/-- **`Synchrodata_work_task`.** -/
private theorem served_task (ids : List String) {rc : TaskToPhoneRc} {db : MysqlDB}
    (w : World) (hdb : w.server.db = db) :
    Served (if rc.openDb then rc.hardDeletes db else []) w
      ((synchrodataWorkTaskToPhone ids rc).run w).2 := by
  obtain ⟨⟨file, tx, alive, gate⟩, server, queue⟩ := w
  subst hdb
  unfold synchrodataWorkTaskToPhone
  rw [bind_run_ok (read_run _)]
  cases hexists : file.pathFileExists with
  | false => exact .inl rfl
  | true =>
    cases gate with
    | false => exact .inl rfl
    | true =>
      cases rc.openDb with
      | false => exact .inl rfl
      | true =>
        have hopened : (onSq (openDataBase true)).run ⟨⟨file, tx, alive, true⟩, server, queue⟩ =
            (.ok true, ⟨⟨file.created, none, true, false⟩, server, queue⟩) := rfl
        rw [if_pos rfl, if_neg (show ¬(!true) = true by decide), bind_run_ok hopened, if_pos rfl]
        show Served (rc.hardDeletes server.db) ⟨⟨file.created, none, true, false⟩, server, queue⟩ _
        -- the second pass alone sends something
        refine Served.bind_left (unserved_deleteTasks2 rc) fun deleted2 w' hserver => ?_
        have h3 := served_deleteTasks3 rc w'
        rw [hserver] at h3
        exact h3.bind_right fun deleted3 => (unserved_copyNew _ _ _ _ _).bind fun _ =>
          (unserved_onSq _).bind fun _ => keeps_pure _

/-- Without a file a chunk of tasks does nothing. -/
private theorem workChunk_missing {rc : WorkRc} {ids : List String} {w : World}
    (h : w.sq.file.pathFileExists = false) :
    (workChunk .tongbu_to_phone rc ids).run w = (.ok false, w) := by
  have hnone : ∀ body : Act World Bool, (read >>= fun w : World =>
      if !w.sq.file.pathFileExists then pure false else body).run w = (.ok false, w) := by
    intro body
    rw [bind_run_ok (read_run w), if_pos (by simp [h])]
    rfl
  unfold workChunk
  exact (bind_run_ok (hnone _)).trans <| (bind_run_ok (hnone _)).trans <|
    (bind_run_ok (hnone _)).trans <| (bind_run_ok (hnone _)).trans rfl

/-- **A chunk** has the server execute its statements, or none. -/
theorem chunkRoutine_server (sel : Selection) (mode : RadioChoose) (rc : SwitchRc) (k : ℕ)
    (ids : List String) (w : World) :
    ((chunkRoutine sel mode rc k ids).run w).2.server = w.server ∨
      ((chunkRoutine sel mode rc k ids).run w).2.server =
        w.server.execAll (chunkStmts mode rc k w) := by
  cases mode with
  | radio_user => exact .inl (unserved_users ids (rc.user k) w)
  | radio_devices => exact .inl (unserved_devices ids sel.fw (rc.devices k).toPhone w)
  | radio_work =>
    rw [chunkRoutine, chunkStmts]
    cases hexists : w.sq.file.pathFileExists with
    | false =>
      rw [workChunk_missing hexists]
      exact .inl rfl
    | true =>
      rw [Bool.and_true]
      -- templates and types come before the tasks, records after them
      refine Served.bind_left (unserved_template ids _) fun template w₁ h₁ => ?_
      refine Served.bind_left (unserved_type ids _) fun type w₂ h₂ => ?_
      refine (served_task ids w₂ (by rw [h₂, h₁])).bind_right fun task => ?_
      exact (unserved_record _).bind fun _ => keeps_pure _

/-- **Up to the chunks** the pass alone has the server execute something. -/
theorem beforeChunks_server {sel : Selection} {mode : RadioChoose} {rc : SwitchRc} {w : World}
    (htx : w.sq.tx = none) :
    ((beforeChunks sel mode rc).run w).2.server = w.server.execAll (sel.passStmts rc w) := by
  have hremove : (removeAll).run w = (.ok (), { w with updateMysqlData := [] }) := rfl
  rw [beforeChunks, bind_run_ok hremove]
  cases hinit : rc.init with
  | false =>
    have hnone : sel.passStmts rc w = [] := by
      rw [Selection.passStmts, hinit]
      cases sel.m_deleteTree <;> rfl
    rw [hnone]
    rfl
  | true =>
    rw [if_pos rfl]
    have hpass : ((deleteAreaAndDevice sel.mapOrder sel.m_deleteTree rc.deleteArea).run
        { w with updateMysqlData := [] }).2.server =
          w.server.execAll (sel.passStmts rc { w with updateMysqlData := [] }) :=
      pass_server hinit htx
    -- what is behind the pass sends nothing, so it does not matter how the pass ends
    have hareas : Keeps Unserved (areasFirst sel mode rc) := by
      cases mode with
      | radio_user => exact keeps_pure ()
      | radio_work => exact keeps_pure ()
      | radio_devices => exact (unserved_areas _ _).bind fun _ => keeps_pure ()
    have hrest : Keeps Unserved (do
        areasFirst sel mode rc
        if sel.hasChunks mode then
          removeAll
          pure true
        else pure false) := hareas.bind fun _ =>
      Keeps.ite (Keeps.bind (fun _ => rfl) fun _ => keeps_pure _) (keeps_pure _)
    rcases hrun : (deleteAreaAndDevice sel.mapOrder sel.m_deleteTree rc.deleteArea).run
      { w with updateMysqlData := [] } with ⟨e | ret, w₁⟩
    · rw [hrun] at hpass
      rw [bind_run_error hrun]
      exact hpass
    · rw [hrun] at hpass
      rw [bind_run_ok hrun]
      exact (hrest w₁).trans hpass

end Server

/-! ## §3 A run that loses nothing -/

/-- The statements delete no row of the tables that are on the phone too. -/
def MysqlDB.SparedBy (db : MysqlDB) (sts : List MyStmt) : Prop :=
  ∀ T : BuriedTable, ∀ i ∈ T.serverIds db, ¬T.LostBy db sts i

/-- No row is deleted for real, from this state on: not by the pass, and not by a chunk. -/
def LosesNothing (sel : Selection) (mode : RadioChoose) (rc : SwitchRc) (w : World) : Prop :=
  w.server.db.SparedBy (sel.passStmts rc w) ∧
    ∀ w', (beforeChunks sel mode rc).run w = (.ok true, w') →
      AlongChunks (fun k _ w => w.server.db.SparedBy (chunkStmts mode rc k w))
        (chunkRoutine sel mode rc) 0 (getArrayItems (sel.chunkIds mode)) w'

/-- Every row of the tables is still there. -/
def MysqlDB.Kept (db₀ db : MysqlDB) : Prop :=
  ∀ T : BuriedTable, ∀ i ∈ T.serverIds db₀, i ∈ T.serverIds db

theorem MysqlDB.Kept.trans {db₀ db₁ db₂ : MysqlDB} (h : db₀.Kept db₁) (h' : db₁.Kept db₂) :
    db₀.Kept db₂ := fun T i hi => h' T i (h T i hi)

/-- Deletes that spare the rows keep them. -/
theorem MysqlDB.SparedBy.kept {db : MysqlDB} {sts : List MyStmt} (h : db.SparedBy sts)
    (hdeletes : ∀ st ∈ sts, st.deletes = true) : db.Kept (db.execAll sts) := by
  intro T i hi
  by_contra hno
  exact h T i hi (BuriedTable.lostBy_of_execAll hdeletes hi hno)

section Loses

variable {sel : Selection} {mode : RadioChoose} {rc : SwitchRc} {w : World}

/-- What the pass sends are deletes. -/
private theorem passStmts_deletes : ∀ st ∈ sel.passStmts rc w, st.deletes = true := by
  have hparts : ∀ (rc : DeleteAreaRc) a x, ∀ st ∈ rc.passStmts a x, st.deletes = true := by
    intro rc a x st hst
    have husers : ∀ st ∈ (if rc.selectUsers = .storeFails then [] else rc.userStmts),
        st.deletes = true := by
      intro st hst
      split at hst
      · exact absurd hst List.not_mem_nil
      · exact rc.userStmts_deletes st hst
    cases x with
    | missing => exact absurd hst List.not_mem_nil
    | blank => exact husers st hst
    | holds d =>
      rcases List.mem_append.1 hst with hst | hst
      · rcases List.mem_append.1 hst with hst | hst
        · exact rc.deviceStmts_deletes a st hst
        · exact rc.areaStmts_deletes a st hst
      · exact husers st hst
  intro st hst
  rw [Selection.passStmts] at hst
  split at hst
  · exact absurd hst List.not_mem_nil
  · split at hst
    · exact hparts _ _ _ st hst
    · exact absurd hst List.not_mem_nil

/-- What a chunk sends are deletes. -/
private theorem chunkStmts_deletes {k : ℕ} : ∀ st ∈ chunkStmts mode rc k w, st.deletes = true := by
  intro st hst
  cases mode with
  | radio_user => exact absurd hst List.not_mem_nil
  | radio_devices => exact absurd hst List.not_mem_nil
  | radio_work =>
    rw [chunkStmts] at hst
    split at hst
    · exact deletes_of_mem_deleteTaskStmts (fun _ h => Batch.mem_of_mem_served h) st hst
    · exact absurd hst List.not_mem_nil

/-- **The chunks**, however they end, keep the rows that they spare. -/
private theorem forChunks_keeps {k : ℕ} {chunks : List (List String)}
    (h : AlongChunks (fun k _ w => w.server.db.SparedBy (chunkStmts mode rc k w))
      (chunkRoutine sel mode rc) k chunks w) :
    w.server.db.Kept ((forChunks (chunkRoutine sel mode rc) k chunks).run w).2.server.db := by
  induction chunks generalizing k w with
  | nil => exact fun _ _ hi => hi
  | cons chunk chunks ih =>
    rw [AlongChunks] at h
    by_cases hempty : chunk = []
    · subst hempty
      rw [if_pos rfl] at h
      rw [forChunks_cons_nil]
      exact ih h
    · rw [if_neg hempty] at h
      unfold forChunks
      rw [if_neg hempty]
      -- the chunk keeps its rows whether it returns or halts
      have hchunk : w.server.db.Kept
          ((chunkRoutine sel mode rc k chunk).run w).2.server.db := by
        rcases chunkRoutine_server sel mode rc k chunk w with hsame | hserved
        · rw [hsame]
          exact fun _ _ hi => hi
        · rw [hserved, Server.execAll_db]
          exact h.1.kept chunkStmts_deletes
      rcases hrun : (chunkRoutine sel mode rc k chunk).run w with ⟨e | ret, w₁⟩
      · rw [hrun] at hchunk
        rw [bind_run_error hrun]
        exact hchunk
      · rw [hrun] at hchunk
        rw [bind_run_ok hrun]
        have hrest := ih (h.2 ret w₁ hrun)
        rcases hrun' : (forChunks (chunkRoutine sel mode rc) (k + 1) chunks).run w₁
          with ⟨e | ret', w₂⟩
        · rw [hrun'] at hrest
          rw [bind_run_error hrun']
          exact hchunk.trans hrest
        · rw [hrun'] at hrest
          rw [bind_run_ok hrun']
          exact hchunk.trans hrest

/-- **A run that loses nothing** keeps the rows up to the marks, which delete none. -/
theorem kept_of_losesNothing {res : Except Halt Bool} {w' : World} (htx : w.sq.tx = none)
    (h : LosesNothing sel mode rc w) (hend : SwitchEnd sel mode rc w res w')
    (hmarks : ∀ w₁ w₂ ret, (beforeChunks sel mode rc).run w = (.ok true, w₁) →
      (forChunks (chunkRoutine sel mode rc) 0 (getArrayItems (sel.chunkIds mode))).run w₁ =
        (.ok ret, w₂) → ∀ st ∈ w₂.updateMysqlData, st.isMark = true) :
    w.server.db.Kept w'.server.db := by
  have hbefore : w.server.db.Kept ((beforeChunks sel mode rc).run w).2.server.db := by
    rw [beforeChunks_server htx, Server.execAll_db]
    exact h.1.kept passStmts_deletes
  cases hend with
  | early hrun =>
    rw [hrun] at hbefore
    exact hbefore
  | halts hrun hchunks =>
    have hkeeps := forChunks_keeps (h.2 _ hrun)
    rw [hchunks] at hkeeps
    rw [hrun] at hbefore
    exact hbefore.trans hkeeps
  | @updates w₁ w₂ ret hrun hchunks =>
    -- the marks change columns, and leave the rows of every table
    have hkeeps := forChunks_keeps (h.2 _ hrun)
    rw [hchunks] at hkeeps
    rw [hrun] at hbefore
    intro T i hi
    rw [Server.execAll_db, serverIds_execAll_marks fun st hst =>
      hmarks w₁ w₂ ret hrun hchunks st (Batch.mem_of_mem_served hst)]
    exact hbefore.trans hkeeps T i hi

end Loses

end MtpSync
