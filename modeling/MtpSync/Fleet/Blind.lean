import MtpSync.Lib.Simulation
import MtpSync.Marks

/-!
# Nothing of the phone gets to the server in a sync to the phone

A sync to the phone opens the phone's database and writes to it, but asks it nothing.  Two phones
with different rows, whatever is in them, get the same statements to the server, the same marks in
the queue and the same answer.

- §1 databases that are told apart by their rows only
- §2 the wrapper
- §3 the routines
- §4 a sync
-/

namespace MtpSync

open Act

/-! ## §1 Alike but for the rows -/

/-- Both files are missing, or blank, or hold some tables. -/
inductive DbFile.Alike {D : Type} : DbFile D → DbFile D → Prop where
  | missing : Alike .missing .missing
  | blank : Alike .blank .blank
  | holds (d e : D) : Alike (.holds d) (.holds e)

/-- Of the contents in a transaction. -/
inductive DbFile.TxAlike {D : Type} : Option (DbFile D) → Option (DbFile D) → Prop where
  | none : TxAlike none none
  | some {f g : DbFile D} (h : f.Alike g) : TxAlike (some f) (some g)

/-- Two states of the wrapper. -/
structure Sq.Alike {D : Type} (s t : Sq D) : Prop where
  file : s.file.Alike t.file
  tx : DbFile.TxAlike s.tx t.tx
  connected : s.connected = t.connected
  eventOpenDB : s.eventOpenDB = t.eventOpenDB

/-- Two states of a sync: the same server and queue. -/
structure World.Alike (w w' : World) : Prop where
  sq : w.sq.Alike w'.sq
  server : w.server = w'.server
  queue : w.updateMysqlData = w'.updateMysqlData

section Wrapper

variable {D ρ : Type}

namespace DbFile.Alike

variable {f g : DbFile D}

theorem tables (h : f.Alike g) : f.tables.isSome = g.tables.isSome := by cases h <;> rfl

theorem pathFileExists (h : f.Alike g) : f.pathFileExists = g.pathFileExists := by cases h <;> rfl

theorem map (h : f.Alike g) (φ ψ : D → D) : (f.map φ).Alike (g.map ψ) := by
  cases h with
  | missing => exact .missing
  | blank => exact .blank
  | holds d e => exact .holds (φ d) (ψ e)

theorem created (h : f.Alike g) : f.created.Alike g.created := by
  cases h with
  | missing => exact .blank
  | blank => exact .blank
  | holds d e => exact .holds d e

end DbFile.Alike

/-! ## §2 The wrapper -/

namespace Sq.Alike

variable {s t : Sq D}

theorem closed (h : s.Alike t) : s.closed.Alike t.closed :=
  ⟨h.file, .none, rfl, h.eventOpenDB⟩

theorem content (h : s.Alike t) : s.content.Alike t.content := by
  obtain ⟨file, tx, connected, gate⟩ := s
  obtain ⟨file', tx', connected', gate'⟩ := t
  obtain ⟨hfile, htx, -, -⟩ := h
  cases htx with
  | none => exact hfile
  | some h => exact h

end Sq.Alike

theorem respects_sqlite3Prepare (ok onTables : Bool) :
    Respects Sq.Alike (sqlite3Prepare (D := D) ok onTables) := by
  intro s t h
  simp only [sqlite3Prepare, h.connected, h.content.tables]
  split
  · exact ⟨rfl, h⟩
  · exact ⟨rfl, h.closed⟩

/-- Both statements fail, or both leave states alike. -/
def StepAlike (f : Sq D → Option (Sq D)) : Prop :=
  ∀ s t, s.Alike t → f s = none ∧ f t = none ∨ ∃ s' t', f s = some s' ∧ f t = some t' ∧ s'.Alike t'

theorem respects_sqliteStep {f : Sq D → Option (Sq D)} (hf : StepAlike f) (ok : Bool) :
    Respects Sq.Alike (sqliteStep ok f) := by
  intro s t h
  simp only [sqliteStep, h.connected]
  by_cases hok : (t.connected && ok) = true
  · rw [if_pos hok, if_pos hok]
    obtain ⟨hs, ht⟩ | ⟨s', t', hs, ht, h'⟩ := hf s t h
    · rw [hs, ht]
      exact ⟨rfl, h.closed⟩
    · rw [hs, ht]
      exact ⟨rfl, h'⟩
  · rw [if_neg hok, if_neg hok]
    exact ⟨rfl, h.closed⟩

theorem stepAlike_beginTransaction : StepAlike (beginTransaction (D := D)) := by
  rintro ⟨file, tx, connected, gate⟩ ⟨file', tx', connected', gate'⟩ ⟨hfile, htx, hc, hg⟩
  cases htx with
  | none => exact .inr ⟨_, _, rfl, rfl, hfile, .some hfile, hc, hg⟩
  | some h => exact .inl ⟨rfl, rfl⟩

theorem stepAlike_commit : StepAlike (commit (D := D)) := by
  rintro ⟨file, tx, connected, gate⟩ ⟨file', tx', connected', gate'⟩ ⟨hfile, htx, hc, hg⟩
  cases htx with
  | none => exact .inl ⟨rfl, rfl⟩
  | some h => exact .inr ⟨_, _, rfl, rfl, h, .none, hc, hg⟩

theorem stepAlike_change (f : D → D) : StepAlike (change f) := by
  rintro ⟨file, tx, connected, gate⟩ ⟨file', tx', connected', gate'⟩ ⟨hfile, htx, hc, hg⟩
  cases htx with
  | none => exact .inr ⟨_, _, rfl, rfl, hfile.map f f, .none, hc, hg⟩
  | some h => exact .inr ⟨_, _, rfl, rfl, hfile, .some (h.map f f), hc, hg⟩

theorem respects_stepRows [Bound ρ] (rc : QuickRc) (f : D → ρ → D) (i : ℕ)
    (params : Bound.Param ρ → Text) (rows : List (Option ρ)) :
    Respects Sq.Alike (stepRows rc f i params rows) := by
  induction rows generalizing i params with
  | nil => exact .pure true
  | cons row rows ih =>
    cases row with
    | none => exact .halt .undefined
    | some r => exact (respects_sqliteStep (stepAlike_change _) (rc.step i)).both (ih (i + 1) _)

/-- **`QuickInsertData`** asks nothing of the tables. -/
theorem respects_quickInsertData [Bound ρ] (rc : QuickRc) (f : D → ρ → D) (rows : List (Option ρ)) :
    Respects Sq.Alike (quickInsertData rc f rows) :=
  ((respects_sqlite3Prepare _ _).both
      ((respects_sqliteStep stepAlike_beginTransaction _).both
        (respects_sqlite3Prepare _ _))).both
    ((respects_stepRows _ _ _ _ _).both
      ((respects_sqlite3Prepare _ _).both (respects_sqliteStep stepAlike_commit _)))

theorem respects_openDataBase (ok : Bool) : Respects Sq.Alike (openDataBase (D := D) ok) := by
  intro s t h
  simp only [openDataBase, h.eventOpenDB]
  split
  · split
    · exact ⟨rfl, h.file.created, .none, rfl, rfl⟩
    · exact ⟨rfl, h.closed⟩
  · exact ⟨rfl, h⟩

theorem respects_closeDataBase : Respects Sq.Alike (closeDataBase (D := D)) :=
  .modify fun _ _ h => ⟨h.file, .none, rfl, rfl⟩

/-- **`DeleteData`** asks nothing of the tables. -/
theorem respects_deleteData (rc : ℕ → Bool) (fs : List (D → D)) (i : ℕ) :
    Respects Sq.Alike (deleteData rc i fs) := by
  induction fs generalizing i with
  | nil => exact .pure true
  | cons f fs ih =>
    refine .read_bind fun s t h => ?_
    simp only [h.connected, h.content.tables]
    refine Respects.ite ((Respects.modify fun s t h => ?_).bind fun _ => ih (i + 1))
      (.pure false) s t h
    obtain ⟨hs, ht⟩ | ⟨s', t', hs, ht, h'⟩ := stepAlike_change f s t h
    · rw [hs, ht]
      exact h
    · rw [hs, ht]
      exact h'

end Wrapper

/-! ## §3 The routines -/

section Routines

variable {α : Type}

private theorem respects_onSq {m : Act (Sq SqliteDB) α} (hm : Respects Sq.Alike m) :
    Respects World.Alike (onSq m) :=
  hm.zoom (fun _ _ h => h.sq) fun _ _ _ _ h hsq => ⟨hsq, h.server, h.queue⟩

private theorem respects_onServer (m : Act Server α) : Respects World.Alike (onServer m) := by
  intro w w' h
  rw [onServer, zoom_run, zoom_run, h.server]
  exact ⟨rfl, h.sq, rfl, h.queue⟩

private theorem respects_addTail (sts : List MyStmt) : Respects World.Alike (addTail sts) :=
  .modify fun _ _ h => ⟨h.sq, h.server, congrArg (· ++ sts) h.queue⟩

private theorem respects_removeAll : Respects World.Alike removeAll :=
  .modify fun _ _ h => ⟨h.sq, h.server, rfl⟩

/-- A routine that starts with `PathFileExists`. -/
private theorem respects_ifFile {m n : Act World α} (hm : Respects World.Alike m)
    (hn : Respects World.Alike n) : Respects World.Alike (do
      let w ← Act.read
      if !w.sq.file.pathFileExists then m else n) :=
  .read_bind fun w w' h => by
    rw [h.sq.file.pathFileExists]
    exact Respects.ite hm hn w w' h

private theorem respects_copyNew {ρ τ : Type} [Bound τ] (rc : CopyNewRc) (q : MysqlDB → List ρ)
    (toPhone : ρ → τ) (replace : SqliteDB → τ → SqliteDB) (mark : ρ → List MyStmt) :
    Respects World.Alike (copyNew rc q toPhone replace mark) := by
  refine (respects_onServer _).bind fun rows => ?_
  rcases rows with _ | _ | ⟨r, rows⟩
  · exact .pure _
  · exact .pure _
  · exact (respects_onSq (respects_quickInsertData _ _ _)).bind fun _ =>
      .ite ((respects_addTail _).bind fun _ => .pure _) (.pure _)

private theorem respects_purge (rc : PurgeRc) (q : MysqlDB → List String)
    (delete : SqliteDB → String → SqliteDB) : Respects World.Alike (purge rc q delete) := by
  refine (respects_onServer _).bind fun ids => ?_
  rcases ids with _ | _ | ⟨i, ids⟩
  · exact .pure _
  · exact .pure _
  · exact (respects_onSq (respects_quickInsertData _ _ _)).bind fun _ => .ite (.pure _) (.pure _)

private theorem respects_open (ok : Bool) : Respects World.Alike (onSq (openDataBase ok)) :=
  respects_onSq (respects_openDataBase ok)

private theorem respects_close : Respects World.Alike (onSq closeDataBase) :=
  respects_onSq respects_closeDataBase

private theorem respects_deviceInfoToPhone (ids : List String) (fw : TongbuFw) (rc : ToPhoneRc) :
    Respects World.Alike (synchrodataDeviceInfoToPhone ids fw rc) :=
  (respects_open _).bind fun _ => .ite ((respects_copyNew _ _ _ _ _).bind fun _ =>
    (respects_purge _ _ _).bind fun _ => respects_close.bind fun _ => .pure _) (.pure _)

private theorem respects_workTypeToPhone (ids : List String) (rc : ToPhoneRc) :
    Respects World.Alike (synchrodataWorkTypeToPhone ids rc) :=
  respects_ifFile (.pure _) <| (respects_open _).bind fun _ => .ite
    ((respects_copyNew _ _ _ _ _).bind fun _ => (respects_purge _ _ _).bind fun _ =>
      respects_close.bind fun _ => .pure _) (.pure _)

private theorem respects_workTemplateToPhone (ids : List String) (rc : ToPhoneRc) :
    Respects World.Alike (synchrodataWorkTemplateToPhone ids rc) :=
  respects_ifFile (.pure _) <| (respects_open _).bind fun _ => .ite
    ((respects_copyNew _ _ _ _ _).bind fun _ => (respects_purge _ _ _).bind fun _ =>
      .ite (.pure _) (respects_close.bind fun _ => .pure _)) (.pure _)

private theorem respects_deleteTasks (rc : TaskDeleteRc) (ids : List String) :
    Respects World.Alike (deleteTasks rc ids) :=
  (respects_onSq (respects_quickInsertData _ _ _)).bind fun _ =>
    (respects_onSq (respects_quickInsertData _ _ _)).bind fun _ =>
    (respects_onSq (respects_quickInsertData _ _ _)).bind fun _ =>
    (respects_onSq (respects_deleteData _ _ _)).bind fun _ => .pure _

private theorem respects_deleteTasks2 (rc : TaskToPhoneRc) :
    Respects World.Alike (deleteTasks2 rc) := by
  refine (respects_onServer _).bind fun ids => ?_
  rcases ids with _ | _ | ⟨i, ids⟩
  · exact .pure _
  · exact .pure _
  · exact (respects_deleteTasks _ _).bind fun _ => .pure _

private theorem respects_deleteTasks3 (rc : TaskToPhoneRc) :
    Respects World.Alike (deleteTasks3 rc) := by
  refine (respects_onServer _).bind fun ids => ?_
  rcases ids with _ | _ | ⟨i, ids⟩
  · exact .pure _
  · exact .pure _
  · exact (respects_deleteTasks _ _).bind fun _ => (respects_onServer _).bind fun _ => .pure _

private theorem respects_workTaskToPhone (ids : List String) (rc : TaskToPhoneRc) :
    Respects World.Alike (synchrodataWorkTaskToPhone ids rc) :=
  respects_ifFile (.pure _) <| (respects_open _).bind fun _ => .ite
    ((respects_deleteTasks2 rc).bind fun _ => (respects_deleteTasks3 rc).bind fun _ =>
      (respects_copyNew _ _ _ _ _).bind fun _ => respects_close.bind fun _ => .pure _) (.pure _)

private theorem respects_workRecordToPhone (rc : RecordToPhoneRc) :
    Respects World.Alike (synchrodataWorkRecordToPhone rc) :=
  respects_ifFile (.pure _) <| (respects_open _).bind fun _ => .ite
    ((respects_copyNew _ _ _ _ _).bind fun _ => respects_close.bind fun _ => .pure _) (.pure _)

private theorem respects_sysUser (ids : List String) (rc : UserToPhoneRc) :
    Respects World.Alike (synchrodataSysUser ids rc) := by
  have hcopy : Respects World.Alike (copyUsers rc.copy ids) := by
    refine (respects_onServer _).bind fun rows => ?_
    rcases rows with _ | _ | ⟨r, rows⟩
    · exact .pure _
    · exact .pure _
    · exact (respects_addTail _).bind fun _ =>
        (respects_onSq (respects_quickInsertData _ _ _)).bind fun _ => .ite (.pure _) (.pure _)
  exact respects_ifFile (.pure _) <| (respects_open _).bind fun _ => .ite
    (hcopy.bind fun _ => (respects_purge _ _ _).bind fun _ =>
      respects_close.bind fun _ => .pure _) (.pure _)

private theorem respects_areasToPhone (shown : List String) (rc : UserToPhoneRc) :
    Respects World.Alike (synchrodataAreasToPhone shown rc) :=
  have hrest : ∀ copied : Stage, Respects World.Alike (do
      let purged ← purge rc.purge MysqlDB.deletedAreas SqliteDB.deleteArea
      onSq closeDataBase
      pure (copied = .stored && purged = .stored)) := fun _ =>
    (respects_purge _ _ _).bind fun _ => respects_close.bind fun _ => .pure _
  (respects_open _).bind fun _ => .ite (.ite ((Respects.pure Stage.stored).bind hrest)
    ((respects_copyNew _ _ _ _ _).bind hrest)) (.pure _)

private theorem respects_deleteAreaAndDevice (o : MapOrder) (tree : DeleteTree)
    (rc : DeleteAreaRc) : Respects World.Alike (deleteAreaAndDevice o tree rc) := by
  have hdevices : ∀ a, Respects World.Alike (deleteDevices rc a) := fun a =>
    .ite (.pure _) <| (respects_onSq (respects_quickInsertData _ _ _)).bind fun _ =>
      (respects_onSq (respects_deleteData _ _ _)).bind fun _ =>
      .ite ((respects_onServer _).bind fun _ => (respects_onServer _).bind fun _ => .pure _)
        (.pure _)
  have hareas : ∀ a, Respects World.Alike (deleteAreas rc a) := fun a =>
    .ite (.pure _) <| (respects_onSq (respects_quickInsertData _ _ _)).bind fun _ =>
      (respects_onSq (respects_quickInsertData _ _ _)).bind fun _ =>
      .ite (respects_onServer _) (.pure _)
  have husers : Respects World.Alike (deleteUsers rc) :=
    (respects_purge _ _ _).bind fun _ => (respects_onServer _).bind fun _ => .pure _
  cases tree with
  | nullptr => exact .pure true
  | node id type strDeleteFlag deleteFlag child sibling =>
    exact respects_ifFile (.pure _) <| (respects_open _).bind fun _ => .ite
      ((hdevices _).bind fun _ => (hareas _).bind fun _ => husers.bind fun _ =>
        respects_close.bind fun _ => .pure _) (.pure _)

/-! ## §4 A sync -/

private theorem respects_updateQueued (rc : ℕ → Bool) : Respects World.Alike (updateQueued rc) :=
  .read_bind fun w w' h => by
    rw [h.queue]
    exact respects_onServer _ w w' h

private theorem respects_forChunks {routine : ℕ → List String → Act World Bool}
    (h : ∀ k ids, Respects World.Alike (routine k ids)) (k : ℕ) (chunks : List (List String)) :
    Respects World.Alike (forChunks routine k chunks) := by
  induction chunks generalizing k with
  | nil => exact .pure true
  | cons chunk chunks ih =>
    have hrest : ∀ ret : Bool, Respects World.Alike (do
        let ret' ← forChunks routine (k + 1) chunks
        pure (ret && ret')) := fun ret => (ih (k + 1)).bind fun _ => .pure _
    exact .ite ((Respects.pure true).bind hrest) ((h k chunk).bind hrest)

private theorem respects_chunked {routine : ℕ → List String → Act World Bool}
    (h : ∀ k ids, Respects World.Alike (routine k ids)) (update : ℕ → Bool) (ids : List String) :
    Respects World.Alike (chunked routine update ids) :=
  respects_removeAll.bind fun _ => (respects_forChunks h _ _).bind fun _ =>
    (respects_updateQueued update).bind fun _ => .pure _

private theorem respects_workChunk (rc : WorkRc) (ids : List String) :
    Respects World.Alike (workChunk .tongbu_to_phone rc ids) :=
  (respects_workTemplateToPhone _ _).bind fun _ => (respects_workTypeToPhone _ _).bind fun _ =>
    (respects_workTaskToPhone _ _).bind fun _ => (respects_workRecordToPhone _).bind fun _ =>
    .pure _

private theorem respects_userBlock (sel : Selection) (rc : SwitchRc) :
    Respects World.Alike (userBlock sel rc) :=
  .ite (.pure _) (.ite (respects_chunked (fun k ids => respects_sysUser ids (rc.user k)) _ _)
    (.pure _))

end Routines

/-- **A sync to the phone is blind to the phone.**  Whatever the calls return, two phones whose
databases differ in their rows only get the same answer of `BeginSwitchData`, and leave the server,
all that has been executed there and the queue the same. -/
theorem toPhone_blind (sel : Selection) {dir : TongbuDir} {mode : RadioChoose}
    (hto : dir = .tongbu_to_phone ∨ mode = .radio_user) (rc : SwitchRc) {w w' : World}
    (h : w.Alike w') :
    ((beginSwitchData sel dir mode rc).run w).1 = ((beginSwitchData sel dir mode rc).run w').1 ∧
      ((beginSwitchData sel dir mode rc).run w).2.Alike
        ((beginSwitchData sel dir mode rc).run w').2 := by
  have hswitch : ∀ block : Act World Bool, Respects World.Alike block →
      Respects World.Alike (do
        removeAll
        if rc.init then do
          let _ ← deleteAreaAndDevice sel.mapOrder sel.m_deleteTree rc.deleteArea
          block
        else pure false) :=
    fun block hblock => respects_removeAll.bind fun _ =>
      .ite ((respects_deleteAreaAndDevice _ _ _).bind fun _ => hblock) (.pure _)
  cases mode with
  | radio_user => exact hswitch _ (respects_userBlock sel rc) w w' h
  | radio_devices =>
    obtain rfl := hto.resolve_right (by decide)
    have hchunked : ∀ fw ids, Respects World.Alike (chunked (fun k ids =>
        devicesChunk .tongbu_to_phone fw (rc.devices k) ids) rc.update ids) := fun fw ids =>
      respects_chunked (fun k ids => respects_deviceInfoToPhone ids fw (rc.devices k).toPhone) _ _
    have hblock : Respects World.Alike (devicesBlock sel .tongbu_to_phone rc) :=
      (respects_areasToPhone _ _).bind fun _ => (Respects.pure ()).bind fun _ => .ite
        (hchunked .devices _) (.ite (hchunked .areas _) (.pure true))
    exact hswitch _ hblock w w' h
  | radio_work =>
    obtain rfl := hto.resolve_right (by decide)
    have hblock : Respects World.Alike (workBlock sel .tongbu_to_phone rc) :=
      .ite (respects_chunked (fun k ids => respects_workChunk (rc.work k) ids) _ _) (.pure true)
    exact hswitch _ hblock w w' h

/-- Two dialogs at two phones: what a pull finds there is alike. -/
structure Dlg.Alike {β : Type} (fmt : SqliteFormat β) (s s' : Dlg β) : Prop where
  world : s.world.Alike s'.world
  phone : ∀ strDevID fileID, Option.Rel (fun o o' => (fmt.parse o.bytes).Alike (fmt.parse o'.bytes))
    ((s.phone strDevID).objects.find? fun o => o.id = fileID)
    ((s'.phone strDevID).objects.find? fun o => o.id = fileID)

section Sync

variable {β : Type} {fmt : SqliteFormat β}

private theorem Dlg.Alike.setFile {s s' : Dlg β} (h : s.Alike fmt s') {f f' : DbFile SqliteDB}
    (hf : f.Alike f') : (s.setFile f).Alike fmt (s'.setFile f') :=
  ⟨⟨⟨hf, h.world.sq.tx, h.world.sq.connected, h.world.sq.eventOpenDB⟩, h.world.server,
    h.world.queue⟩, h.phone⟩

private theorem respects_connect (rc : ConnectRc) (strDevID : String) :
    Respects (Dlg.Alike fmt) (connect rc strDevID) := by
  unfold connect
  refine (Respects.modify fun _ _ h => ⟨h.world, h.phone⟩).bind fun _ => ?_
  cases rc.OpenDevice with
  | noDevice => exact .pure _
  | failed => exact .halt _
  | opened =>
    exact .ite (.pure _) (.ite (.pure _)
      ((Respects.modify fun _ _ h => ⟨h.world, h.phone⟩).bind fun _ => .pure _))

private theorem respects_beginPhoneToPc (rc : PhoneToPcRc) :
    Respects (Dlg.Alike fmt) (beginPhoneToPc fmt rc) := by
  unfold beginPhoneToPc
  cases rc.connect.strDevID with
  | none => exact .pure _
  | some strDevID =>
    refine (Respects.modify fun s s' h => ?_).bind fun _ =>
      (respects_connect rc.connect strDevID).bind fun o => ?_
    · split
      · exact h.setFile .missing
      · exact h
    cases o with
    | none => exact .pure _
    | some strDevID =>
      refine (Respects.modify fun s s' h => ?_).bind fun _ =>
        (Respects.modify fun s s' h => ?_).bind fun _ =>
        (Respects.modify fun s s' h => ?_).bind fun _ => .pure _
      · -- the file that is pulled
        cases rc.transfor with
        | leaves f =>
          refine h.setFile ?_
          cases f with
          | missing => exact .missing
          | blank => exact .blank
          | holds d => exact .holds d d
        | copies =>
          have hfound := h.phone strDevID rc.connect.fileID
          generalize (s.phone strDevID).objects.find? _ = x at hfound ⊢
          generalize (s'.phone strDevID).objects.find? _ = x' at hfound ⊢
          cases hfound with
          | none => exact h
          | some ho => exact h.setFile ho
      · unfold copyToBackUp
        rw [h.world.sq.file.pathFileExists]
        split
        · exact ⟨h.world, h.phone⟩
        · exact h
      · split <;> split <;> exact ⟨h.world, h.phone⟩

/-- What follows the pull does the same to the server. -/
private theorem server_of_pulled (sel : Selection) {dir : TongbuDir} {mode : RadioChoose}
    (hto : dir = .tongbu_to_phone ∨ mode = .radio_user) (rc : SyncRc) (strDevID : String)
    {t t' : Dlg β} (h : t.world.Alike t'.world) :
    let rest : Act (Dlg β) Bool := do
      if ← onWorld (beginSwitchData sel dir mode rc.switch) then
        beginPcToPhone fmt rc.push strDevID
      else pure false
    (rest.run t).2.world.server = (rest.run t').2.world.server := by
  obtain ⟨hans, hworld⟩ := toPhone_blind sel hto rc.switch h
  intro rest
  -- the push does nothing to the server
  have hserver : ∀ u : Dlg β, (rest.run u).2.world.server =
      ((beginSwitchData sel dir mode rc.switch).run u.world).2.server := by
    intro u
    rcases hrun : (onWorld (beginSwitchData sel dir mode rc.switch)).run u with ⟨e | ret, v⟩
    · rw [bind_run_error hrun]
      exact congrArg (fun o => o.2.world.server) hrun.symm
    · rw [bind_run_ok hrun]
      refine Eq.trans ?_ (congrArg (fun o => o.2.world.server) hrun.symm)
      cases ret with
      | true => exact beginPcToPhone_server fmt rc.push strDevID v
      | false => rfl
  rw [hserver t, hserver t', hworld.server]

end Sync

/-- **A whole sync to the phone is blind to the phone**: from two phones on which the pull finds
databases that differ in their rows only, `MyControllingFunction` leaves the server the same, with
the same statements executed. -/
theorem sync_blind {β : Type} (fmt : SqliteFormat β) (sel : Selection) {dir : TongbuDir}
    {mode : RadioChoose} (hto : dir = .tongbu_to_phone ∨ mode = .radio_user) (rc : SyncRc)
    {s s' : Dlg β} (h : s.Alike fmt s') :
    ((myControllingFunction fmt sel dir mode rc).run s).2.world.server =
      ((myControllingFunction fmt sel dir mode rc).run s').2.world.server := by
  unfold myControllingFunction
  split
  swap
  · exact h.world.server
  obtain ⟨hans, hpulled⟩ := respects_beginPhoneToPc rc.pull s s' h
  rcases hrun : (beginPhoneToPc fmt rc.pull).run s with ⟨e | o, t⟩
  · rcases hrun' : (beginPhoneToPc fmt rc.pull).run s' with ⟨e' | o', t'⟩
    · rw [hrun, hrun'] at hpulled
      rw [bind_run_error hrun, bind_run_error hrun']
      exact hpulled.world.server
    · rw [hrun, hrun'] at hans
      cases hans
  · rcases hrun' : (beginPhoneToPc fmt rc.pull).run s' with ⟨e' | o', t'⟩
    · rw [hrun, hrun'] at hans
      cases hans
    · rw [hrun, hrun'] at hans hpulled
      cases hans
      rw [bind_run_ok hrun, bind_run_ok hrun']
      cases o with
      | none => exact hpulled.world.server
      | some strDevID => exact server_of_pulled sel hto rc strDevID hpulled.world

/-- The same dialog at a phone that has device `dev` already. -/
def Dlg.otherPhone : Dlg SqliteDB :=
  { Dlg.newDevice with
    phone := fun _ => ⟨[⟨"o1", ⟨"dir", 1, "phone.db", "phone"⟩,
      [{ SqliteDB.empty with device_info := ⟨[MtpSync.newDevice "x"], newDevice_nodup "x"⟩ }],
      true⟩]⟩ }

/-- Whatever is on the phone, the new device is marked on the server alike. -/
theorem newDevice_sync_blind :
    ((myControllingFunction SqliteFormat.single (Selection.ofDevice "dev") .tongbu_to_phone
        .radio_devices (SyncRc.pushes PushRc.allOk)).run Dlg.newDevice).2.world.server =
      ((myControllingFunction SqliteFormat.single (Selection.ofDevice "dev") .tongbu_to_phone
        .radio_devices (SyncRc.pushes PushRc.allOk)).run Dlg.otherPhone).2.world.server := by
  refine sync_blind SqliteFormat.single (Selection.ofDevice "dev") (.inl rfl)
    (SyncRc.pushes PushRc.allOk) ⟨⟨⟨.holds _ _, .none, rfl, rfl⟩, rfl, rfl⟩, fun _ fileID => ?_⟩
  by_cases hid : "o1" = fileID
  · subst hid
    exact .some (.holds _ _)
  · have hnone : ∀ o : PhoneObject SqliteDB, o.id = "o1" →
        [o].find? (fun o => o.id = fileID) = none := by
      intro o ho
      rw [List.find?_singleton, ho, if_neg (by simpa using hid)]
    rw [show (Dlg.newDevice.phone _).objects.find? (fun o => o.id = fileID) = none from hnone _ rfl,
      show (Dlg.otherPhone.phone _).objects.find? (fun o => o.id = fileID) = none from hnone _ rfl]
    exact .none

end MtpSync
