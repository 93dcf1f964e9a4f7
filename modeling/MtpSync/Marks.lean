import MtpSync.Download.Answers
import MtpSync.Download.Queued

/-!
# Marked rows are on the phone

A row that is marked as synchronised on the server is never selected again.  The marks are sent
when all chunks are done, whatever came of them, and before the file is pushed; so a row can be
marked and never reach the phone.

- §1 the server until the marks are sent
- §2 the marks
- §3 a run that marks safely
-/

namespace MtpSync

open Act

variable {β : Type}

/-! ## §1 The server until the marks are sent -/

/-- The server has lost rows at most, and marks are all that is queued. -/
structure Shrinks (db₀ : MysqlDB) (v : View) : Prop where
  sub : v.db.Sub db₀
  marks : ∀ st ∈ v.queue, st.isMark = true

section Shrinks

variable {db₀ : MysqlDB} {v : View}

private theorem Shrinks.created (v : View) (h : Shrinks db₀ v) : Shrinks db₀ v.created :=
  ⟨h.sub, h.marks⟩

private theorem Shrinks.onFile (h : Shrinks db₀ v) (f : SqliteDB → SqliteDB) :
    Shrinks db₀ (v.onFile f) :=
  ⟨h.sub, h.marks⟩

private theorem Shrinks.enqueue (h : Shrinks db₀ v) {sts : List MyStmt}
    (hsts : ∀ st ∈ sts, st.isMark = true) : Shrinks db₀ (v.enqueue sts) := by
  refine ⟨h.sub, fun st hst => ?_⟩
  rcases List.mem_append.1 hst with hst | hst
  · exact h.marks st hst
  · exact hsts st hst

private theorem Shrinks.execute (h : Shrinks db₀ v) {done : List MyStmt}
    (hdone : ∀ st ∈ done, st.deletes = true) : Shrinks db₀ (v.execute done) :=
  ⟨(MysqlDB.execAll_sub hdone v.db).trans h.sub, h.marks⟩

private theorem Shrinks.copied {ρ τ : Type} [Bound τ] (h : Shrinks db₀ v) {rc : QuickRc}
    {q : MysqlDB → List ρ} {toPhone : ρ → τ} {replace : SqliteDB → τ → SqliteDB}
    {mark : ρ → List MyStmt}
    (hmark : ∀ r, ∀ st ∈ mark r, st.isMark = true) :
    Shrinks db₀ (v.copied rc q toPhone replace mark) := by
  refine (h.onFile _).enqueue fun st hst => ?_
  obtain ⟨r, -, hst⟩ := List.mem_flatMap.1 hst
  exact hmark r st hst

private theorem shrinks_deleteTasks (rc : TaskDeleteRc) (ids : List String) :
    Keeps (KeepsView (Shrinks db₀)) (deleteTasks rc ids) :=
  keeps_deleteTasks rc (fun _ h => h.onFile _) (fun _ h => h.onFile _) (fun _ h => h.onFile _)
    fun _ h => h.onFile _

/-- **A chunk** deletes from the server and queues marks, and does nothing else there. -/
theorem shrinks_chunkRoutine (sel : Selection) (mode : RadioChoose) (rc : SwitchRc) (k : ℕ)
    (ids : List String) : Keeps (KeepsView (Shrinks db₀)) (chunkRoutine sel mode rc k ids) := by
  have hcopied : ∀ r : SqlRow WorkTaskCol, ∀ st ∈ [markTaskStmt r], st.isMark = true :=
    fun r st hst => by
      rw [List.mem_singleton.1 hst]
      exact markTaskStmt_isMark r
  -- each routine queues marks only and sends deletes only
  cases mode with
  | radio_user =>
    refine keeps_sysUser Shrinks.created ids (rc.user k) (fun v h => h.enqueue fun st hst => ?_)
      (fun _ h => h.onFile _) fun _ h => h.onFile _
    obtain ⟨r, -, rfl⟩ := List.mem_map.1 hst
    rfl
  | radio_devices =>
    exact keeps_deviceInfoToPhone Shrinks.created ids sel.fw (rc.devices k).toPhone
      (fun _ h _ => h.copied (by simp [MyStmt.isMark])) fun _ h => h.onFile _
  | radio_work =>
    exact (keeps_workTemplateToPhone Shrinks.created ids (rc.work k).template
        (fun _ h _ => h.copied (by simp [MyStmt.isMark])) fun _ h => h.onFile _).bind fun _ =>
      (keeps_workTypeToPhone Shrinks.created ids (rc.work k).type
        (fun _ h _ => h.copied (by simp [MyStmt.isMark])) fun _ h => h.onFile _).bind fun _ =>
      (keeps_workTaskToPhone Shrinks.created ids (rc.work k).task
        (keeps_deleteTasks2 fun _ => shrinks_deleteTasks _ _)
        (keeps_deleteTasks3 (fun _ => shrinks_deleteTasks _ _) fun _ _ h _ hdone =>
          h.execute (deletes_of_mem_deleteTaskStmts hdone))
        fun _ h _ => h.copied hcopied).bind fun _ =>
      (keeps_workRecordToPhone Shrinks.created (rc.work k).record
        fun _ h _ => h.copied (by simp [MyStmt.isMark])).bind fun _ => keeps_pure _

/-- Nothing is queued, and the server has lost rows at most. -/
def Quiet (db₀ : MysqlDB) (v : View) : Prop := v.queue = [] ∧ v.db.Sub db₀

private theorem Quiet.execute {sts : List MyStmt} (hsts : ∀ st ∈ sts, st.deletes = true)
    (v : View) (h : Quiet db₀ v) (done : List MyStmt) (hdone : ∀ st ∈ done, st ∈ sts) :
    Quiet db₀ (v.execute done) :=
  ⟨h.1, (MysqlDB.execAll_sub (fun st hst => hsts st (hdone st hst)) v.db).trans h.2⟩

private theorem quiet_pass (o : MapOrder) (tree : DeleteTree) (rc : DeleteAreaRc) :
    Keeps (KeepsView (Quiet db₀)) (deleteAreaAndDevice o tree rc) := by
  have hareas : ∀ ids : List String, ∀ st ∈ ids.flatMap deleteAreaStmts, st.deletes = true := by
    intro ids st hst
    obtain ⟨i, -, hi⟩ := List.mem_flatMap.1 hst
    rcases List.mem_cons.1 hi with rfl | hi
    · rfl
    · rw [List.mem_singleton.1 hi]
      rfl
  exact keeps_deleteAreaAndDevice (fun _ h => h) o tree rc
    (keeps_deleteDevices rc _ (fun _ h => h) (fun _ _ _ _ h => h)
      (Quiet.execute (by simp [MyStmt.deletes]))
      (Quiet.execute (by simp [deleteOrphanStmts, MyStmt.deletes])))
    (keeps_deleteAreas rc _ (fun _ h => h) (fun _ h => h) (Quiet.execute (hareas _)))
    (keeps_deleteUsers rc (fun _ h => h) (Quiet.execute (by simp [MyStmt.deletes])))

private theorem quiet_areasFirst (sel : Selection) (mode : RadioChoose) (rc : SwitchRc) :
    Keeps (KeepsView (Quiet db₀)) (areasFirst sel mode rc) := by
  cases mode with
  | radio_user => exact keeps_pure ()
  | radio_work => exact keeps_pure ()
  | radio_devices =>
    refine Keeps.bind (keeps_areasToPhone (fun _ h => h) sel.shownAreas rc.areas
      (fun v h _ => ⟨?_, h.2⟩) fun _ h => h) fun _ => keeps_pure ()
    -- areas carry no marks
    have hnone : ((MysqlDB.shownAreas sel.shownAreas v.db).flatMap
        fun _ => ([] : List MyStmt)) = [] := by simp
    rw [View.copied, View.enqueue, hnone, List.append_nil]
    exact h.1

/-- **Up to the chunks** nothing is queued. -/
theorem beforeChunks_quiet (sel : Selection) (mode : RadioChoose) (rc : SwitchRc) {w : World}
    (htx : w.sq.tx = none) :
    ((beforeChunks sel mode rc).run w).2.sq.tx = none ∧
      Quiet w.server.db ((beforeChunks sel mode rc).run w).2.view := by
  have hremove : (removeAll).run w = (.ok (), { w with updateMysqlData := [] }) := rfl
  have hclear : Keeps (KeepsView (Quiet w.server.db)) removeAll := fun _ h => ⟨h.1, rfl, h.2.2⟩
  rw [beforeChunks, bind_run_ok hremove]
  have hrest : Keeps (KeepsView (Quiet w.server.db)) (if rc.init then do
      let _ ← deleteAreaAndDevice sel.mapOrder sel.m_deleteTree rc.deleteArea
      areasFirst sel mode rc
      if sel.hasChunks mode then
        removeAll
        pure true
      else pure false
    else pure false) :=
    Keeps.ite ((quiet_pass _ _ _).bind fun _ => (quiet_areasFirst _ _ _).bind fun _ =>
      Keeps.ite (hclear.bind fun _ => keeps_pure _) (keeps_pure _)) (keeps_pure _)
  exact hrest _ ⟨htx, rfl, .refl _⟩

/-- **The chunks** keep it so. -/
theorem shrinks_forChunks (sel : Selection) (mode : RadioChoose) (rc : SwitchRc) {w : World}
    (h : w.sq.tx = none ∧ Quiet db₀ w.view) :
    Shrinks db₀ ((forChunks (chunkRoutine sel mode rc) 0
      (getArrayItems (sel.chunkIds mode))).run w).2.view := by
  refine (keeps_forChunks (fun j ids _ => shrinks_chunkRoutine sel mode rc (0 + j) ids) w
    ⟨h.1, h.2.2, fun st hst => ?_⟩).2
  rw [h.2.1] at hst
  exact absurd hst List.not_mem_nil

end Shrinks

/-! ## §2 The marks -/

section Marks

variable {C : Type} {T : CopiedTable C}

/-- A row after marks is as before, or one of them marks it. -/
private theorem mem_execAll_marks {done : List MyStmt} (hdone : ∀ st ∈ done, st.isMark = true)
    {db : MysqlDB} {r' : SqlRow C} (hr' : r' ∈ T.server (db.execAll done)) :
    ∃ r ∈ T.server db, r.Id = r'.Id ∧ (r' = r ∨ ∃ st ∈ done, T.marks r.Id st) := by
  induction done generalizing db with
  | nil => exact ⟨r', hr', rfl, .inl rfl⟩
  | cons st done ih =>
    rw [List.forall_mem_cons] at hdone
    have hrest : r' ∈ T.server ((st.exec db).execAll done) := hr'
    obtain ⟨r₁, hr₁, hId₁, h₁⟩ := ih hdone.2 hrest
    obtain ⟨r, hr, hId, h⟩ := T.exec_mark hdone.1 r₁ hr₁
    refine ⟨r, hr, hId.trans hId₁, ?_⟩
    rcases h with rfl | hmarks
    · exact h₁.imp_right fun ⟨st', hst', hmarks⟩ =>
        ⟨st', List.mem_cons_of_mem st hst', hmarks⟩
    · exact .inr ⟨st, List.mem_cons_self, hmarks⟩

/-- **A row that becomes marked** is marked by a statement of the queue. -/
private theorem marked_of_execAll {db₀ db : MysqlDB} (hsub : db.Sub db₀) {done : List MyStmt}
    (hdone : ∀ st ∈ done, st.isMark = true) {r r' : SqlRow C} (hr : r ∈ T.server db₀)
    (hr' : r' ∈ T.server (db.execAll done)) (hId : r'.Id = r.Id)
    (hzero : r.col T.SynchronState = some "0") (hone : r'.col T.SynchronState = some "1") :
    r ∈ T.server db ∧ ∃ st ∈ done, T.marks r.Id st := by
  obtain ⟨r₁, hr₁, hId₁, h⟩ := mem_execAll_marks hdone hr'
  -- the row is the one the server had
  obtain rfl : r₁ = r := Table.eq_of_Id_eq (T.sub hsub r₁ hr₁) hr (hId₁.trans hId)
  refine ⟨hr₁, h.resolve_left fun hsame => ?_⟩
  rw [hsame, hzero] at hone
  exact absurd hone (by decide)

end Marks

/-! ## §3 A run that marks safely -/

/-- Every database file of the phone, and there is one, holds tables with `P`. -/
def Dlg.OnPhone (fmt : SqliteFormat β) (s : Dlg β) (strDevID : String)
    (P : SqliteDB → Prop) : Prop :=
  (∃ f, s.phoneDb fmt strDevID f) ∧ ∀ f, s.phoneDb fmt strDevID f → ∃ d, f = .holds d ∧ P d

/-- The rows of a table whose mark goes from `'0'` to `'1'` are on the connected phone. -/
def CopiedTable.MarkedOnPhone {C : Type} (T : CopiedTable C) (fmt : SqliteFormat β)
    (rc : SyncRc) (s t : Dlg β) : Prop :=
  ∀ r ∈ T.server s.world.server.db, ∀ r' ∈ T.server t.world.server.db, r'.Id = r.Id →
    r.col T.SynchronState = some "0" → r'.col T.SynchronState = some "1" →
    ∃ strDevID, rc.pull.connect.strDevID = some strDevID ∧
      t.OnPhone fmt strDevID fun d => T.toPhone r ∈ T.phone d

/-- The rows of the four tables whose mark goes from `'0'` to `'1'` are on the connected
phone. -/
structure MarkedOnPhone (fmt : SqliteFormat β) (rc : SyncRc) (s t : Dlg β) : Prop where
  devices : deviceCopy.MarkedOnPhone fmt rc s t
  types : typeCopy.MarkedOnPhone fmt rc s t
  tasks : taskCopy.MarkedOnPhone fmt rc s t
  records : recordCopy.MarkedOnPhone fmt rc s t

/-- The statement marks a row of one of the four tables. -/
def MyStmt.MarksRow (st : MyStmt) : Prop :=
  ∃ i, deviceCopy.marks i st ∨ typeCopy.marks i st ∨ taskCopy.marks i st ∨
    recordCopy.marks i st

/-- A chunk leaves every row in the file whose mark it queues, and takes none away that was queued
before it. -/
structure ChunkSpares (sel : Selection) (mode : RadioChoose) (rc : SwitchRc) (k : ℕ)
    (ids : List String) (w : World) : Prop where
  devices : mode = .radio_devices → (rc.devices k).toPhone.copy.insert.Faithful
    ((w.server.db.newDevices sel.fw (rc.devices k).toPhone.win ids).map deviceToPhone)
  work : mode = .radio_work → (rc.work k).Spares ids w.view

/-- The run marks safely.  If it gets through its chunks, then from the state `w` before them on
either the server executes no mark of a row; or every chunk answers `TRUE` and spares what is
queued, the server executes all marks, and the push does all of its work on the file it finds. -/
def MarksSafely (fmt : SqliteFormat β) (sel : Selection) (mode : RadioChoose) (rc : SyncRc)
    (s : Dlg β) : Prop :=
  rc.yes = true → ∀ strDevID t w, (beginPhoneToPc fmt rc.pull).run s = (.ok (some strDevID), t) →
    (beforeChunks sel mode rc.switch).run t.world = (.ok true, w) →
    ∀ ret w', (forChunks (chunkRoutine sel mode rc.switch) 0
        (getArrayItems (sel.chunkIds mode))).run w = (.ok ret, w') →
      (∀ st ∈ Batch.served 99 rc.switch.update 0 (sel.marks mode rc.switch w), ¬st.MarksRow) ∨
        sel.ChunksAnswer mode rc.switch w ∧
          AlongChunks (ChunkSpares sel mode rc.switch) (chunkRoutine sel mode rc.switch) 0
            (getArrayItems (sel.chunkIds mode)) w ∧
          Batch.reported 99 rc.switch.update 0 (sel.marks mode rc.switch w) = true ∧
          ∀ d, w'.sq.file = .holds d → rc.push.Replaces t strDevID (fmt.bytes d)

section Safe

variable {C : Type} {T : CopiedTable C} {fmt : SqliteFormat β} {rc : SyncRc} {s t : Dlg β}

/-- A server that has lost rows at most has no new marks. -/
private theorem markedOnPhone_of_sub (h : t.world.server.db.Sub s.world.server.db) :
    T.MarkedOnPhone fmt rc s t := by
  intro r hr r' hr' hId hzero hone
  rw [Table.eq_of_Id_eq (T.sub h r' hr') hr hId, hzero] at hone
  exact absurd hone (by decide)

private theorem MarkedOnPhone.of_sub (h : t.world.server.db.Sub s.world.server.db) :
    MarkedOnPhone fmt rc s t :=
  ⟨markedOnPhone_of_sub h, markedOnPhone_of_sub h, markedOnPhone_of_sub h,
    markedOnPhone_of_sub h⟩

/-- The same, if marks of other tables are all that was executed. -/
private theorem markedOnPhone_of_unmarked {db : MysqlDB} {done : List MyStmt}
    (hsub : db.Sub s.world.server.db) (hdone : ∀ st ∈ done, st.isMark = true)
    (hdb : t.world.server.db = db.execAll done) (hno : ∀ st ∈ done, ∀ i, ¬T.marks i st) :
    T.MarkedOnPhone fmt rc s t := by
  intro r hr r' hr' hId hzero hone
  rw [hdb] at hr'
  obtain ⟨-, st, hst, hmarks⟩ := marked_of_execAll hsub hdone hr hr' hId hzero hone
  exact absurd hmarks (hno st hst r.Id)

/-- The same, if what was queued is in the file and the file on the phone. -/
private theorem markedOnPhone_of_stored {v : View} {done : List MyStmt} {strDevID : String}
    (hstored : T.Stored (fun _ => False) v) (hsub : v.db.Sub s.world.server.db)
    (hmarks : ∀ st ∈ v.queue, st.isMark = true) (hdone : ∀ st ∈ done, st ∈ v.queue)
    (hdb : t.world.server.db = v.db.execAll done)
    (hdev : rc.pull.connect.strDevID = some strDevID)
    (hphone : ∀ d, v.file = .holds d → t.OnPhone fmt strDevID fun d' => d' = d) :
    T.MarkedOnPhone fmt rc s t := by
  intro r hr r' hr' hId hzero hone
  rw [hdb] at hr'
  obtain ⟨hmem, st, hst, hmark⟩ := marked_of_execAll hsub
    (fun st hst => hmarks st (hdone st hst)) hr hr' hId hzero hone
  obtain ⟨-, d, hd, hfile⟩ := hstored st (hdone st hst) r hmem hmark
  obtain ⟨hex, hall⟩ := hphone d hd
  refine ⟨strDevID, hdev, hex, fun f hf => ?_⟩
  obtain ⟨d', rfl, rfl⟩ := hall f hf
  exact ⟨d', rfl, hfile.resolve_left id⟩

/-- The chunks of a run that marks safely leave every queued row in the file. -/
private theorem queued_chunks {sel : Selection} {mode : RadioChoose} {w w' : World} {ret : Bool}
    (h : w.sq.tx = none ∧ w.view.queue = [])
    (hanswer : sel.ChunksAnswer mode rc.switch w)
    (halong : AlongChunks (ChunkSpares sel mode rc.switch) (chunkRoutine sel mode rc.switch) 0
      (getArrayItems (sel.chunkIds mode)) w)
    (hrun : (forChunks (chunkRoutine sel mode rc.switch) 0
      (getArrayItems (sel.chunkIds mode))).run w = (.ok ret, w')) :
    Queued (fun _ => False) w'.view := by
  refine (forChunks_along (I := fun w => w.sq.tx = none ∧ Queued (fun _ => False) w.view)
    (fun k ids w b w' hI hspares hchunk => ?_) ⟨h.1, .of_nil h.2⟩ (hanswer.and halong) hrun).2
  obtain ⟨hanswers, hspares⟩ := hspares
  -- what is queued stays in the file, for the deletes of a chunk spare it
  cases mode with
  | radio_user =>
    have hkeeps := queued_users ids (rc.switch.user k) w hI
    rw [chunkRoutine] at hchunk
    rw [hchunk] at hkeeps
    exact hkeeps
  | radio_devices =>
    have hkeeps := queued_devices ids sel.fw (rc.switch.devices k).toPhone w
      ⟨hI.1, hI.2, hspares.devices rfl⟩
    rw [chunkRoutine, devicesChunk] at hchunk
    rw [hchunk] at hkeeps
    exact ⟨hkeeps.1, hkeeps.2.1⟩
  | radio_work => exact queued_workChunk hanswers.2.2.task.1 hI (hspares.work rfl) hchunk

/-- From the state the chunks leave to the end of the run `t'`, in which the marks have been
executed. -/
private theorem markedOnPhone_of_updates {sel : Selection} {mode : RadioChoose} {t t' : Dlg β}
    {w w' : World} {ret : Bool} {strDevID : String} (hsafe : MarksSafely fmt sel mode rc s)
    (hyes : rc.yes = true) (hpull : (beginPhoneToPc fmt rc.pull).run s = (.ok (some strDevID), t))
    (htx : t.world.sq.tx = none) (hserver : t.world.server = s.world.server)
    (hbefore : (beforeChunks sel mode rc.switch).run t.world = (.ok true, w))
    (hchunks : (forChunks (chunkRoutine sel mode rc.switch) 0
      (getArrayItems (sel.chunkIds mode))).run w = (.ok ret, w'))
    (hdb : t'.world.server.db =
      w'.view.db.execAll (Batch.served 99 rc.switch.update 0 w'.updateMysqlData))
    (hphone : ret = true → Batch.reported 99 rc.switch.update 0 w'.updateMysqlData = true →
      ∀ d, w'.sq.file = .holds d → rc.push.Replaces t strDevID (fmt.bytes d) →
        t'.OnPhone fmt strDevID fun d' => d' = d) : MarkedOnPhone fmt rc s t' := by
  have hquiet := beforeChunks_quiet sel mode rc.switch htx
  rw [hbefore, hserver] at hquiet
  have hshrinks := shrinks_forChunks sel mode rc.switch hquiet
  rw [hchunks] at hshrinks
  have hserved : ∀ st ∈ Batch.served 99 rc.switch.update 0 w'.updateMysqlData,
      st ∈ w'.view.queue := fun st hst => Batch.mem_of_mem_served hst
  have hmarks : ∀ st ∈ Batch.served 99 rc.switch.update 0 w'.updateMysqlData,
      st.isMark = true := fun st hst => hshrinks.marks st (hserved st hst)
  have hqueue := Selection.queue_of_chunks hquiet.1 hquiet.2.1 hchunks
  -- either no mark is sent, or every chunk answers and the push replaces the file
  rcases hsafe hyes strDevID t w hpull hbefore ret w' hchunks with
    hno | ⟨hanswer, halong, hreported, hreplaces⟩
  · exact ⟨markedOnPhone_of_unmarked hshrinks.sub hmarks hdb
        fun st hst i hi => hno st (hqueue ▸ hst) ⟨i, .inl hi⟩,
      markedOnPhone_of_unmarked hshrinks.sub hmarks hdb
        fun st hst i hi => hno st (hqueue ▸ hst) ⟨i, .inr (.inl hi)⟩,
      markedOnPhone_of_unmarked hshrinks.sub hmarks hdb
        fun st hst i hi => hno st (hqueue ▸ hst) ⟨i, .inr (.inr (.inl hi))⟩,
      markedOnPhone_of_unmarked hshrinks.sub hmarks hdb
        fun st hst i hi => hno st (hqueue ▸ hst) ⟨i, .inr (.inr (.inr hi))⟩⟩
  · have hqueued := queued_chunks ⟨hquiet.1, hquiet.2.1⟩ hanswer halong hchunks
    obtain ⟨w₂, hanswered⟩ := Selection.chunks_answer hquiet.1 hanswer
    rw [hchunks] at hanswered
    cases hanswered
    have hdev := beginPhoneToPc_strDevID hpull
    have hfile : ∀ d, w'.view.file = .holds d → t'.OnPhone fmt strDevID fun d' => d' = d :=
      fun d hd => hphone rfl (hqueue ▸ hreported) d hd (hreplaces d hd)
    exact ⟨markedOnPhone_of_stored hqueued.devices hshrinks.sub hshrinks.marks hserved hdb hdev
        hfile,
      markedOnPhone_of_stored hqueued.types hshrinks.sub hshrinks.marks hserved hdb hdev hfile,
      markedOnPhone_of_stored hqueued.tasks hshrinks.sub hshrinks.marks hserved hdb hdev hfile,
      markedOnPhone_of_stored hqueued.records hshrinks.sub hshrinks.marks hserved hdb hdev
        hfile⟩

end Safe

/-- **A row marked on the server is on the phone**, after every run to the phone that marks
safely, whatever its calls return. -/
theorem marked_rows_on_phone (fmt : SqliteFormat β) (sel : Selection) (mode : RadioChoose)
    (rc : SyncRc) {s : Dlg β} (htx : s.world.sq.tx = none)
    (hsafe : MarksSafely fmt sel mode rc s) :
    MarkedOnPhone fmt rc s ((myControllingFunction fmt sel .tongbu_to_phone mode rc).run s).2 := by
  have hend := syncEnd fmt sel mode rc s
  generalize ((myControllingFunction fmt sel .tongbu_to_phone mode rc).run s).2 = t' at hend ⊢
  cases hend with
  -- without the pull the server is not touched
  | unpulled h => exact .of_sub (h ▸ .refl _)
  -- the switch did not answer true, so nothing was pushed
  | @unpushed strDevID t res w hyes hpull hswitch hres =>
    have hend := switchEnd_of_run hswitch
    have hsame := beginPhoneToPc_sameServer fmt rc.pull s
    rw [hpull] at hsame
    have htx' : t.world.sq.tx = none := hsame.tx.trans htx
    cases hend with
    | early hbefore =>
      have hquiet := beforeChunks_quiet sel mode rc.switch htx'
      rw [hbefore, hsame.server] at hquiet
      exact .of_sub hquiet.2.2
    | halts hbefore hchunks =>
      have hquiet := beforeChunks_quiet sel mode rc.switch htx'
      rw [hbefore, hsame.server] at hquiet
      have hshrinks := shrinks_forChunks sel mode rc.switch hquiet
      rw [hchunks] at hshrinks
      exact .of_sub hshrinks.sub
    | updates hbefore hchunks =>
      refine markedOnPhone_of_updates hsafe hyes hpull htx' hsame.server hbefore hchunks
        (Server.execAll_db _ _) fun hret hreported => absurd ?_ hres
      rw [hret, hreported]
      rfl
  -- what the push sends is the file the marks are about
  | @pushed strDevID t w hyes hpull hswitch =>
    have hend := switchEnd_of_run hswitch
    have hsame := beginPhoneToPc_sameServer fmt rc.pull s
    rw [hpull] at hsame
    have htx' : t.world.sq.tx = none := hsame.tx.trans htx
    have hserver := beginPcToPhone_server fmt rc.push strDevID { t with world := w }
    generalize hres : (.ok true : Except Halt Bool) = res at hend
    cases hend with
    | early hbefore =>
      have hquiet := beforeChunks_quiet sel mode rc.switch htx'
      rw [hbefore, hsame.server] at hquiet
      refine .of_sub ?_
      rw [hserver]
      exact hquiet.2.2
    | halts hbefore hchunks => cases hres
    | @updates _ w₂ _ hbefore hchunks =>
      refine markedOnPhone_of_updates hsafe hyes hpull htx' hsame.server hbefore hchunks ?_
        fun _ _ d hd hreplaces => ?_
      · rw [hserver]
        exact Server.execAll_db _ _
      · obtain ⟨hex, hall⟩ := beginPcToPhone_replaces fmt (s := { t with world := { w₂ with
            server := w₂.server.execAll (Batch.served 99 rc.switch.update 0 w₂.updateMysqlData) } })
          hd hreplaces
        exact ⟨hex, fun f hf => ⟨d, hall f hf, rfl⟩⟩

theorem newDevice_nodup (rfid : String) : ([newDevice rfid].map Row.Id).Nodup :=
  List.nodup_singleton _

/-- A new device on the server, and a phone whose database is empty. -/
def Dlg.newDevice : Dlg SqliteDB :=
  { Dlg.pushing with
    world := World.fresh SqliteDB.empty
      { MysqlDB.empty with device_info := ⟨[MtpSync.newDevice ""], newDevice_nodup ""⟩ } }

/-- A sync in which every call before the push succeeds. -/
def SyncRc.pushes (push : PushRc) : SyncRc where
  yes := true
  pull := PhoneToPcRc.allOk "2018-06-21-12-00-00"
  switch := SwitchRc.allOk ToPcRc.allOk.win
  push := push

/-- A push of one byte, all calls of which succeed. -/
theorem PushRc.allOk_replaces (s : Dlg SqliteDB) (strDevID : String) (d : SqliteDB)
    (hsole : ∀ o ∈ (s.phone strDevID).objects, o.id = s.gFileID) :
    PushRc.allOk.Replaces s strDevID (SqliteFormat.single.bytes d) where
  deletes := rfl
  past := ⟨rfl, .inr fun _ _ => ⟨rfl, rfl⟩⟩
  all := .inr ⟨rfl, .inl Nat.one_pos, fun i _ bytesWritten hwrite => by
    cases hwrite
    exact Nat.min_le_left 1 _⟩
  commit := rfl
  sole o ho _ _ _ := hsole o ho

/-- The device is marked, and on the phone. -/
theorem new_device_on_phone :
    MarkedOnPhone SqliteFormat.single (SyncRc.pushes PushRc.allOk) Dlg.newDevice
      ((myControllingFunction SqliteFormat.single (Selection.ofDevice "dev") .tongbu_to_phone
        .radio_devices (SyncRc.pushes PushRc.allOk)).run Dlg.newDevice).2 := by
  refine marked_rows_on_phone _ _ _ _ rfl fun _ strDevID t w hpull hbefore _ _ _ =>
    .inr ⟨?_, ?_, ?_, fun d _ => ?_⟩
  · cases hpull
    cases hbefore
    exact ⟨⟨rfl, rfl, ⟨rfl, .inr ⟨rfl, rfl⟩⟩, rfl, .inl rfl⟩, fun _ _ _ => trivial⟩
  · exact ⟨⟨fun _ => QuickRc.allOk_faithful _, fun hmode => RadioChoose.noConfusion hmode⟩,
      fun _ _ _ => trivial⟩
  · exact Batch.reported_iff.2 fun _ _ _ => rfl
  · cases hpull
    exact PushRc.allOk_replaces _ _ d fun o ho => by
      rw [List.mem_singleton.1 ho]
      rfl

/-- The push fails after its delete: the device is marked, and the phone has no database. -/
theorem new_device_lost :
    ¬MarkedOnPhone SqliteFormat.single (SyncRc.pushes PushRc.noContent) Dlg.newDevice
      ((myControllingFunction SqliteFormat.single (Selection.ofDevice "dev") .tongbu_to_phone
        .radio_devices (SyncRc.pushes PushRc.noContent)).run Dlg.newDevice).2 := by
  intro h
  obtain ⟨_, hdev, ⟨f, o, ho, -⟩, -⟩ := h.devices (newDevice "") List.mem_cons_self
    ((newDevice "").setCol .SynchronState "1") List.mem_cons_self rfl rfl rfl
  cases hdev
  exact absurd ho List.not_mem_nil

end MtpSync
