import MtpSync.Scripts

/-!
# A mark is queued for what has been stored

Every routine to the phone stores its rows in one transaction and queues their marks when that has
been committed, except `Synchrodata_sys_user`: it queues the marks while it builds the rows, and
they stay queued when the transaction fails.

- §1 the invariant and the calls that keep it
- §2 what a routine does before its copy
- §3 a copy that marks afterwards
- §4 the routines
- §5 the runs
-/

namespace MtpSync

open Script

/-! ## §1 The invariant -/

theorem MarkTable.stores_replace (T : MarkTable) : T.Stores T.replace := by
  cases T with
  | device_info => exact stores_device
  | work_type => exact stores_type
  | work_template => exact stores_template
  | work_task => exact stores_task
  | work_record => exact stores_record
  | sys_user => exact stores_user

/-- The call was a `REPLACE INTO` the table, and the temporary file that it left is the one it met
with the copy of a row `i` of the server among the rows replaced. -/
def StoreCall.Commits (e : StoreCall) (T : MarkTable) (i : String) : Prop :=
  e.table = T ∧ ∃ r ∈ e.table.server e.before.server.db, r.Id = i ∧
    ∃ d, ∃ rows : List (SqlRow e.table.PhoneCol), e.before.sq.file = .holds d ∧
      e.after.sq.file = .holds (rows.foldl e.table.replace d) ∧ ∃ x ∈ rows, e.table.IsCopy r x

/-- After the commit the row is on the file. -/
theorem StoreCall.Commits.stored {e : StoreCall} {T : MarkTable} {i : String}
    (h : e.Commits T i) : ∃ d, e.after.sq.file = .holds d ∧ i ∈ (T.phone d).ids := by
  obtain ⟨rfl, r, -, rfl, d, rows, -, hafter, x, hx, hcopy⟩ := h
  refine ⟨_, hafter, ?_⟩
  rw [(e.table.stores_replace).own, Table.mem_ids_replaceAll]
  exact .inr (List.mem_map.2 ⟨x, hx, hcopy.Id_eq⟩)

/-- Every mark in `m_updateMysqlData` is of a row whose `REPLACE` has been committed. -/
def MarksCommitted (s : World × SyncCall.Log) : Prop :=
  ∀ st ∈ s.1.updateMysqlData, ∀ T i, st.Marks T i → ∃ e ∈ s.2, e.Commits T i

/-- What a call has to meet: a query for the users to copy does not bring a row, and a
`REPLACE INTO` that goes through is executed with every one of its rows as it is. -/
def SyncCall.safe {α : Type} : SyncCall α → World → Bool
  | .users .ok ids, w => (MysqlDB.newUsers ids w.server.db).isEmpty
  | .store _ rc rows, w =>
    !(w.sq.connected && w.sq.file.tables.isSome && rc.ok rows.length) ||
      rows.all fun x => x ∈ rc.bound rows
  | _, _ => true

/-- A call that queues nothing. -/
def SyncCall.Quiet {α : Type} : SyncCall α → Prop
  | .addTail _ => False
  | _ => True

/-- The log only grows. -/
theorem SyncCall.subset_log {α : Type} (c : SyncCall α) (w w' : World) (done : Log) :
    done ⊆ c.log w w' done := by
  unfold SyncCall.log
  split
  · exact List.subset_append_left _ _
  · exact List.Subset.refl _

/-- A quiet call leaves no statement in the queue that was not there. -/
theorem SyncCall.Quiet.queue_subset {α : Type} {c : SyncCall α} (h : c.Quiet) (w : World) :
    (c.act.run w).2.updateMysqlData ⊆ w.updateMysqlData := by
  cases c with
  | addTail sts => exact h.elim
  | removeAll => exact List.nil_subset _
  | _ => exact List.Subset.refl _

/-- Marks that were queued for stored rows stay marks of stored rows. -/
theorem MarksCommitted.mono {w w' : World} {done done' : SyncCall.Log}
    (h : MarksCommitted (w, done)) (hqueue : w'.updateMysqlData ⊆ w.updateMysqlData)
    (hlog : done ⊆ done') : MarksCommitted (w', done') := by
  intro st hst T i hmarks
  obtain ⟨e, he, hcommits⟩ := h st (hqueue hst) T i hmarks
  exact ⟨e, hlog he, hcommits⟩

theorem MarksCommitted.after {α : Type} {s : World × SyncCall.Log} (h : MarksCommitted s)
    (c : SyncCall α) (hc : c.Quiet) :
    MarksCommitted (Script.after (L := syncCalls) c s) :=
  h.mono (hc.queue_subset s.1) (c.subset_log _ _ _)

theorem steady_quiet {α : Type} (c : SyncCall α) (h : c.Quiet) :
    (SyncScript.call c).Steady SyncCall.safe MarksCommitted :=
  steady_call fun _ hs _ => hs.after c h

theorem steady_sq {α : Type} (m : Act (Sq SqliteDB) α) :
    (SyncScript.call (.sq m)).Steady SyncCall.safe MarksCommitted := steady_quiet (.sq m) trivial

theorem steady_server {α : Type} (m : Act Server α) :
    (SyncScript.call (.server m)).Steady SyncCall.safe MarksCommitted :=
  steady_quiet (.server m) trivial

theorem steady_ret {α : Type} (a : α) :
    (ret a : SyncScript (pure a)).Steady SyncCall.safe MarksCommitted :=
  passes_ret fun _ h => h

/-! ## §2 A routine before its copy -/

/-- Outside a transaction. -/
def Settled (s : World × SyncCall.Log) : Prop := MarksCommitted s ∧ s.1.sq.tx = none

theorem settled_ret {α : Type} (a : α) :
    (ret a : SyncScript (pure a)).Passes SyncCall.safe MarksCommitted Settled fun _ => Settled :=
  passes_ret fun _ h => h

/-- A call on the server leaves the file alone. -/
theorem settled_server {α : Type} (m : Act Server α) :
    (SyncScript.call (.server m)).Passes SyncCall.safe MarksCommitted Settled fun _ => Settled :=
  passes_call (fun _ hs _ => hs.1.after (.server m) trivial) fun _ _ hs _ _ =>
    ⟨hs.1.after (.server m) trivial, hs.2⟩

/-- An operation that leaves no transaction open. -/
theorem settled_sq {α : Type} {m : Act (Sq SqliteDB) α}
    (h : Act.Keeps (fun q q' => q.tx = none → q'.tx = none) m) :
    (SyncScript.call (.sq m)).Passes SyncCall.safe MarksCommitted Settled fun _ => Settled :=
  passes_call (fun _ hs _ => hs.1.after (.sq m) trivial) fun s _ hs _ _ =>
    ⟨hs.1.after (.sq m) trivial, h s.1.sq hs.2⟩

theorem settled_deleteTasks (rc : TaskDeleteRc) (ids : List String) :
    (SyncScript.deleteTasks rc ids).Passes SyncCall.safe MarksCommitted Settled
      fun _ => Settled := by
  apply Passes.seq (settled_sq (keeps_tx_quickInsertData _ _ _))
  intro tasks
  apply Passes.seq (settled_sq (keeps_tx_quickInsertData _ _ _))
  intro subtasks
  apply Passes.seq (settled_sq (keeps_tx_quickInsertData _ _ _))
  intro records
  exact Passes.seq (settled_sq (keeps_tx_deleteData _ _ _)) fun _ => settled_ret _

theorem settled_deleteTasks2 (rc : TaskToPhoneRc) :
    (SyncScript.deleteTasks2 rc).Passes SyncCall.safe MarksCommitted Settled
      fun _ => Settled := by
  apply Passes.seq (settled_server _)
  intro vecData
  match vecData with
  | none => exact settled_ret _
  | some [] => exact settled_ret _
  | some (i :: rest) => exact Passes.seq (settled_deleteTasks _ _) fun _ => settled_ret _

theorem settled_deleteTasks3 (rc : TaskToPhoneRc) :
    (SyncScript.deleteTasks3 rc).Passes SyncCall.safe MarksCommitted Settled
      fun _ => Settled := by
  apply Passes.seq (settled_server _)
  intro vecData
  match vecData with
  | none => exact settled_ret _
  | some [] => exact settled_ret _
  | some (i :: rest) =>
    apply Passes.seq (settled_deleteTasks _ _)
    intro u
    exact Passes.seq (settled_server _) fun _ => settled_ret _

section Frames

variable {m : Act World Bool} {p : SyncScript m}

/-- A routine that may rely on the file having just been opened. -/
theorem steady_justOpened (b : Bool)
    (h : p.Passes SyncCall.safe MarksCommitted Settled fun _ => MarksCommitted) :
    (SyncScript.opened b p).Steady SyncCall.safe MarksCommitted := by
  refine Passes.seq (Q := fun opened s => MarksCommitted s ∧ (opened = true → s.1.sq.tx = none))
    (passes_call (fun _ hs _ => hs.after (.sq _) trivial) fun s opened hs _ hrun =>
      ⟨hs.after (.sq _) trivial, ?_⟩) ?_
  · rintro rfl
    exact openDataBase_tx hrun
  · intro opened
    cases opened with
    | true => exact Passes.mono h (fun s hs => ⟨hs.1, hs.2 rfl⟩) fun _ _ hs => hs
    | false => exact (steady_ret false).mono (fun s hs => hs.1) fun _ _ hs => hs

/-- A routine that does not. -/
theorem steady_opened (b : Bool) (h : p.Steady SyncCall.safe MarksCommitted) :
    (SyncScript.opened b p).Steady SyncCall.safe MarksCommitted :=
  steady_justOpened b (Passes.mono h (fun _ hs => hs.1) fun _ _ hs => hs)

theorem steady_whenExists (h : p.Steady SyncCall.safe MarksCommitted) :
    (SyncScript.whenExists p).Steady SyncCall.safe MarksCommitted :=
  Passes.seq (steady_quiet .read trivial) fun _ => Passes.ite (steady_ret _) h

theorem steady_closed (h : p.Steady SyncCall.safe MarksCommitted) :
    (SyncScript.closed p).Steady SyncCall.safe MarksCommitted :=
  Passes.seq (steady_sq _) fun _ => h

end Frames

/-! ## §3 Copies -/

section Copies

variable {ρ : Type}

/-- After a store that succeeded, its rows have been committed. -/
theorem passes_store (T : MarkTable) (rc : QuickRc) (rows : List (SqlRow T.PhoneCol)) :
    (SyncScript.call (.store T rc rows)).Passes SyncCall.safe MarksCommitted
      (fun s => Settled s ∧ ∀ x ∈ rows, ∃ r ∈ T.server s.1.server.db, T.IsCopy r x)
      fun stored s => MarksCommitted s ∧
        (stored = true → ∀ x ∈ rows, ∃ e ∈ s.2, e.Commits T x.Id) := by
  apply passes_call
  · intro s hs _
    exact hs.1.1.after (.store T rc rows) trivial
  · rintro s stored ⟨hs, hcopies⟩ hsafe hrun
    refine ⟨hs.1.after (.store T rc rows) trivial, ?_⟩
    rintro rfl x hx
    have hstore := quickInsertData_run rc T.replace rows s.1.sq hs.2
    replace hrun : ((quickInsertData rc T.replace (rows.map some)).run s.1.sq).1 = .ok true := hrun
    rw [hstore] at hrun
    split at hrun
    next hok =>
      -- it went through, so the row is among those executed
      rw [if_pos hok] at hstore
      replace hsafe : (!(s.1.sq.connected && s.1.sq.file.tables.isSome && rc.ok rows.length) ||
        rows.all fun x => x ∈ rc.bound rows) = true := hsafe
      rw [hok, Bool.not_true, Bool.false_or, List.all_eq_true] at hsafe
      rw [Bool.and_eq_true, Bool.and_eq_true] at hok
      obtain ⟨d, hd⟩ := DbFile.eq_holds hok.1.2
      obtain ⟨r, hr, hcopy⟩ := hcopies x hx
      refine ⟨⟨T, s.1, (Script.after (L := syncCalls) (.store T rc rows) s).1⟩,
        List.mem_append_right _ List.mem_cons_self, rfl, r, hr, hcopy.Id_eq.symm, d, rc.bound rows,
        hd, ?_, x, of_decide_eq_true (hsafe x hx), hcopy⟩
      show ((quickInsertData rc T.replace (rows.map some)).run s.1.sq).2.file = _
      rw [hstore]
      show s.1.sq.file.map _ = _
      rw [hd]
      rfl
    next => cases hrun

/-- Marks of rows that have been committed may be queued. -/
theorem passes_addTail {sts : List MyStmt} {P : World × SyncCall.Log → Prop}
    (hP : ∀ s, P s → MarksCommitted s)
    (hsts : ∀ s, P s → ∀ st ∈ sts, ∀ T i, st.Marks T i → ∃ e ∈ s.2, e.Commits T i) :
    (SyncScript.call (.addTail sts)).Passes SyncCall.safe MarksCommitted P
      fun _ => MarksCommitted := by
  have hnext : ∀ s, P s → MarksCommitted (Script.after (L := syncCalls) (.addTail sts) s) := by
    intro s hs st hst T i hmarks
    rcases List.mem_append.1 hst with hst | hst
    · exact hP s hs st hst T i hmarks
    · exact hsts s hs st hst T i hmarks
  exact passes_call (fun s hs _ => hnext s hs) fun s _ hs _ _ => hnext s hs

/-- A `Select` of rows of the server. -/
theorem passes_select (rc : SelectRc) (q : MysqlDB → List ρ) :
    (SyncScript.call (.server (select rc q))).Passes SyncCall.safe MarksCommitted Settled
      fun vecData s => Settled s ∧ ∀ rows, vecData = some rows → rows = q s.1.server.db := by
  apply passes_call (fun _ hs _ => hs.1.after (.server _) trivial)
  intro s vecData hs _ hrun
  refine ⟨⟨hs.1.after (.server _) trivial, hs.2⟩, ?_⟩
  rintro rows rfl
  show rows = q ((select rc q).run s.1.server).2.db
  replace hrun : ((select rc q).run s.1.server).1 = .ok (some rows) := hrun
  rw [select_state]
  cases rc with
  | ok =>
    cases hrun
    rfl
  | queryFails => cases hrun
  | storeFails => cases hrun

/-- **A copy stores its rows and then queues their marks.** -/
theorem passes_copyNew (T : MarkTable) (rc : CopyNewRc) {q : MysqlDB → List (SqlRow T.ServerCol)}
    {toPhone : SqlRow T.ServerCol → SqlRow T.PhoneCol} {mark : SqlRow T.ServerCol → List MyStmt}
    (hq : ∀ db, ∀ r ∈ q db, r ∈ T.server db) (hcopy : ∀ r, T.IsCopy r (toPhone r))
    (hmark : ∀ r, mark r = [T.stmt r]) :
    (SyncScript.copyNew T rc q toPhone mark).Passes SyncCall.safe MarksCommitted Settled
      fun _ => MarksCommitted := by
  apply Passes.seq (passes_select rc.select q)
  intro vecData
  match vecData with
  | none => exact (steady_ret Stage.notSelected).mono (fun s hs => hs.1.1) fun _ _ hs => hs
  | some [] => exact (steady_ret Stage.stored).mono (fun s hs => hs.1.1) fun _ _ hs => hs
  | some (r :: rest) =>
    have hstore := passes_store T rc.insert ((r :: rest).map toPhone)
    refine Passes.seq (hstore.mono (fun s hs => ⟨hs.1, ?_⟩) fun _ _ hs => hs) ?_
    · intro x hx
      obtain ⟨y, hy, rfl⟩ := List.mem_map.1 hx
      rw [hs.2 _ rfl] at hy
      exact ⟨y, hq _ y hy, hcopy y⟩
    intro stored
    cases stored with
    | false =>
      -- nothing was stored, and nothing is queued
      exact (steady_ret Stage.notStored).mono (fun s hs => hs.1) fun _ _ hs => hs
    | true =>
      refine Passes.seq (Q := fun _ => MarksCommitted) ?_ fun _ => steady_ret _
      apply passes_addTail
      · intro s hs
        exact hs.1
      · intro s hs st hst T' i hmarks
        obtain ⟨y, hy, hst⟩ := List.mem_flatMap.1 hst
        rw [hmark y, List.mem_singleton] at hst
        subst hst
        obtain ⟨rfl, rfl⟩ := MarkTable.stmt_marks.1 hmarks
        rw [← (hcopy y).Id_eq]
        exact hs.2 rfl _ (List.mem_map_of_mem hy)

/-- The areas have no marks. -/
theorem steady_copyAreas (rc : CopyNewRc) (shown : List String) :
    (SyncScript.copyAreas rc shown).Steady SyncCall.safe MarksCommitted := by
  apply Passes.seq (steady_server _)
  intro vecData
  cases vecData with
  | none => exact steady_ret _
  | some rows =>
    cases rows with
    | nil => exact steady_ret _
    | cons r rest =>
      apply Passes.seq (steady_sq _)
      intro stored
      refine Passes.ite (Passes.seq (Q := fun _ => MarksCommitted) ?_ fun _ => steady_ret _)
        (steady_ret _)
      apply passes_addTail (fun _ hs => hs)
      intro s hs st hst
      obtain ⟨x, -, hst⟩ := List.mem_flatMap.1 hst
      exact absurd hst List.not_mem_nil

/-- The users: with none to copy nothing is queued. -/
theorem steady_copyUsers (rc : CopyNewRc) (ids : List String) :
    (SyncScript.copyUsers rc ids).Steady SyncCall.safe MarksCommitted := by
  have hread : (SyncScript.call (.users rc.select ids)).Passes SyncCall.safe MarksCommitted
      MarksCommitted fun vecData s => MarksCommitted s ∧ (vecData = none ∨ vecData = some []) := by
    apply passes_call (fun _ hs _ => hs.after (.users rc.select ids) trivial)
    intro s vecData hs hok hrun
    refine ⟨hs.after (.users rc.select ids) trivial, ?_⟩
    replace hrun : ((select rc.select (MysqlDB.newUsers ids)).run s.1.server).1 = .ok vecData :=
      hrun
    cases hselect : rc.select with
    | ok =>
      rw [hselect] at hok hrun
      have hnil : MysqlDB.newUsers ids s.1.server.db = [] := List.isEmpty_iff.1 hok
      cases hrun
      exact .inr (congrArg some hnil)
    | queryFails =>
      rw [hselect] at hrun
      cases hrun
      exact .inl rfl
    | storeFails =>
      rw [hselect] at hrun
      cases hrun
  apply Passes.seq hread
  intro vecData
  match vecData with
  | none => exact (steady_ret Stage.notSelected).mono (fun s hs => hs.1) fun _ _ hs => hs
  | some [] => exact (steady_ret Stage.stored).mono (fun s hs => hs.1) fun _ _ hs => hs
  | some (r :: rest) =>
    -- the condition does not let it come here
    intro s hs
    rcases hs.2 with h | h
    · cases h
    · cases h

end Copies

/-! ## §4 The routines -/

theorem steady_purge (rc : PurgeRc) (q : MysqlDB → List String)
    (delete : SqliteDB → String → SqliteDB) :
    (SyncScript.purge rc q delete).Steady SyncCall.safe MarksCommitted := by
  apply Passes.seq (steady_server _)
  intro vecData
  cases vecData with
  | none => exact steady_ret _
  | some rows =>
    cases rows with
    | nil => exact steady_ret _
    | cons i rest =>
      apply Passes.seq (steady_sq _)
      intro deleted
      exact Passes.ite (steady_ret _) (steady_ret _)

theorem steady_deviceInfoToPhone (ids : List String) (fw : TongbuFw) (rc : ToPhoneRc) :
    (SyncScript.synchrodataDeviceInfoToPhone ids fw rc).Steady SyncCall.safe MarksCommitted := by
  apply steady_justOpened
  apply Passes.seq (passes_copyNew .device_info rc.copy (fun _ _ hr => (Table.mem_select.1 hr).1)
    (fun _ => rfl) fun _ => rfl)
  intro copied
  apply Passes.seq (steady_purge _ _ _)
  intro purged
  exact steady_closed (steady_ret _)

theorem steady_workTypeToPhone (ids : List String) (rc : ToPhoneRc) :
    (SyncScript.synchrodataWorkTypeToPhone ids rc).Steady SyncCall.safe MarksCommitted := by
  apply steady_whenExists
  apply steady_justOpened
  apply Passes.seq (passes_copyNew .work_type rc.copy (fun _ _ hr => (Table.mem_select.1 hr).1)
    (fun _ => rfl) fun _ => rfl)
  intro copied
  apply Passes.seq (steady_purge _ _ _)
  intro purged
  exact steady_closed (steady_ret _)

theorem steady_workTemplateToPhone (ids : List String) (rc : ToPhoneRc) :
    (SyncScript.synchrodataWorkTemplateToPhone ids rc).Steady SyncCall.safe MarksCommitted := by
  apply steady_whenExists
  apply steady_justOpened
  apply Passes.seq (passes_copyNew .work_template rc.copy
    (fun _ _ hr => (Table.mem_select.1 hr).1) (fun _ => rfl) fun _ => rfl)
  intro copied
  apply Passes.seq (steady_purge _ _ _)
  intro purged
  exact Passes.ite (steady_ret _) (steady_closed (steady_ret _))

theorem steady_workTaskToPhone (ids : List String) (rc : TaskToPhoneRc) :
    (SyncScript.synchrodataWorkTaskToPhone ids rc).Steady SyncCall.safe MarksCommitted := by
  apply steady_whenExists
  apply steady_justOpened
  apply Passes.seq (settled_deleteTasks2 rc)
  intro deleted2
  apply Passes.seq (settled_deleteTasks3 rc)
  intro deleted3
  apply Passes.seq (passes_copyNew .work_task rc.copy (fun _ _ hr => (Table.mem_select.1 hr).1)
    (fun _ => rfl) fun _ => rfl)
  intro copied
  exact steady_closed (steady_ret _)

theorem steady_workRecordToPhone (rc : RecordToPhoneRc) :
    (SyncScript.synchrodataWorkRecordToPhone rc).Steady SyncCall.safe MarksCommitted := by
  apply steady_whenExists
  apply steady_justOpened
  apply Passes.seq (passes_copyNew .work_record rc.copy (fun _ _ hr => (Table.mem_select.1 hr).1)
    (fun _ => rfl) fun _ => rfl)
  intro copied
  exact steady_closed (steady_ret _)

theorem steady_sysUser (ids : List String) (rc : UserToPhoneRc) :
    (SyncScript.synchrodataSysUser ids rc).Steady SyncCall.safe MarksCommitted := by
  apply steady_whenExists
  apply steady_opened
  apply Passes.seq (steady_copyUsers rc.copy ids)
  intro copied
  apply Passes.seq (steady_purge _ _ _)
  intro purged
  exact steady_closed (steady_ret _)

theorem steady_areasToPhone (shown : List String) (rc : UserToPhoneRc) :
    (SyncScript.synchrodataAreasToPhone shown rc).Steady SyncCall.safe MarksCommitted := by
  have hrest : ∀ copied : Stage, Script.Steady (L := syncCalls) SyncCall.safe MarksCommitted
      (Script.seq (SyncScript.purge rc.purge MysqlDB.deletedAreas SqliteDB.deleteArea)
        fun purged => SyncScript.closed (ret (copied = .stored && purged = .stored))) :=
    fun copied => Passes.seq (steady_purge _ _ _) fun _ => steady_closed (steady_ret _)
  apply steady_opened
  apply Passes.ite
  · exact Passes.seq (steady_ret _) fun _ => hrest _
  · exact Passes.seq (steady_copyAreas _ _) fun _ => hrest _

theorem steady_halt {α : Type} (h : Halt) :
    (halt h : SyncScript (Act.halt h : Act World α)).Steady SyncCall.safe MarksCommitted :=
  passes_halt

section ToPc

variable {ρ : Type}

theorem steady_derefFirst (slots : List (Option ρ)) :
    (SyncScript.derefFirst slots).Steady SyncCall.safe MarksCommitted := by
  match slots with
  | some r :: _ => exact steady_ret _
  | none :: _ => exact steady_halt _
  | [] => exact steady_halt _

theorem steady_deleteAll (slots : List (Option ρ)) :
    (SyncScript.deleteAll slots).Steady SyncCall.safe MarksCommitted :=
  Passes.ite (steady_ret _) (steady_halt _)

theorem steady_workRecordToPc (ids : List String) (rc : ToPcRc) :
    (SyncScript.synchrodataWorkRecordToPc ids rc).Steady SyncCall.safe MarksCommitted := by
  have hselected : ∀ RFidCount rows,
      (SyncScript.uploadSelectedRecords rc RFidCount rows).Steady SyncCall.safe MarksCommitted := by
    intro RFidCount rows
    apply Passes.seq (steady_server _)
    intro sent
    refine Passes.ite ?_ (steady_deleteAll _)
    apply Passes.seq (steady_derefFirst _)
    intro first
    exact Passes.seq (steady_sq _) fun _ => steady_deleteAll _
  apply steady_whenExists
  apply steady_opened
  apply Passes.seq (steady_sq _)
  intro counted
  refine Passes.seq (Passes.ite ?_ (steady_ret _)) fun _ => steady_closed (steady_ret _)
  apply Passes.seq (steady_sq _)
  intro ppAryData
  cases ppAryData with
  | none => exact steady_ret _
  | some rows => exact hselected _ rows

theorem steady_uploadTasks (vecDataTime : List String) (rows : List (SqlRow WorkTaskCol)) :
    (SyncScript.uploadTasks vecDataTime rows).Steady SyncCall.safe MarksCommitted := by
  match vecDataTime, rows with
  | _, [] => exact steady_ret _
  | [], _ :: _ => exact steady_halt _
  | _ :: _, _ :: _ => exact steady_ret _

theorem steady_selectCountedTasks (ids : List String) (rc : ToPcRc) (vecDataTime : List String)
    (b : Bool) (RFidCount : ℕ) :
    (SyncScript.selectCountedTasks ids rc vecDataTime b RFidCount).Steady SyncCall.safe
      MarksCommitted := by
  refine Passes.ite ?_ (steady_ret _)
  apply Passes.seq (steady_sq _)
  intro ppAryData
  cases ppAryData with
  | none => exact steady_ret _
  | some rows => exact Passes.seq (steady_uploadTasks _ _) fun _ => steady_ret _

theorem steady_sendTasks (rc : ToPcRc) (b : Bool)
    (ppAryDataUpdate : Option (List (Option String))) (listUpdateSql : List MyStmt) :
    (SyncScript.sendTasks rc b ppAryDataUpdate listUpdateSql).Steady SyncCall.safe
      MarksCommitted := by
  apply Passes.seq (steady_server _)
  intro sent
  refine Passes.ite ?_ (steady_ret _)
  cases ppAryDataUpdate with
  | none => exact steady_ret _
  | some slots =>
    apply Passes.seq (steady_sq _)
    intro marked
    exact Passes.seq (steady_deleteAll _) fun _ => steady_ret _

theorem steady_workTaskToPc (ids : List String) (rc : ToPcRc) :
    (SyncScript.synchrodataWorkTaskToPc ids rc).Steady SyncCall.safe MarksCommitted := by
  apply steady_whenExists
  apply steady_opened
  apply Passes.seq (steady_server _)
  intro vecDataTime
  apply Passes.seq (steady_sq _)
  intro counted
  apply Passes.seq (steady_selectCountedTasks _ _ _ _ _)
  intro selected
  exact Passes.seq (steady_sendTasks _ _ _ _) fun _ => steady_closed (steady_ret _)

theorem steady_selectCountedDevices (ids : List String) (fw : TongbuFw) (rc : ToPcRc) (b : Bool)
    (RFidCount : ℕ) :
    (SyncScript.selectCountedDevices ids fw rc b RFidCount).Steady SyncCall.safe
      MarksCommitted := by
  refine Passes.ite ?_ (steady_ret _)
  apply Passes.seq (steady_sq _)
  intro ppAryData
  cases ppAryData with
  | none => exact steady_ret _
  | some rows => exact steady_ret _

theorem steady_sendDevices (rc : ToPcRc) (b : Bool)
    (ppAryDataUpdate : Option (List (Option String))) (listUpdateSql : List MyStmt) :
    (SyncScript.sendDevices rc b ppAryDataUpdate listUpdateSql).Steady SyncCall.safe
      MarksCommitted := by
  apply Passes.seq (steady_server _)
  intro sent
  refine Passes.ite ?_ (steady_ret _)
  cases ppAryDataUpdate with
  | none => exact steady_ret _
  | some slots =>
    apply Passes.seq (steady_sq _)
    intro marked
    exact Passes.seq (steady_deleteAll _) fun _ => steady_ret _

theorem steady_deviceInfoToPc (ids : List String) (fw : TongbuFw) (rc : ToPcRc) :
    (SyncScript.synchrodataDeviceInfoToPc ids fw rc).Steady SyncCall.safe MarksCommitted := by
  apply steady_opened
  apply Passes.seq (steady_sq _)
  intro counted
  apply Passes.seq (steady_selectCountedDevices _ _ _ _ _)
  intro selected
  exact Passes.seq (steady_sendDevices _ _ _ _) fun _ => steady_closed (steady_ret _)

end ToPc

/-! ## §5 The runs -/

theorem steady_deleteAreaAndDevice (o : MapOrder) (tree : DeleteTree) (rc : DeleteAreaRc) :
    (SyncScript.deleteAreaAndDevice o tree rc).Steady SyncCall.safe MarksCommitted := by
  -- the three parts of the pass, each from call to call
  have hdevices : ∀ a, (SyncScript.deleteDevices rc a).Steady SyncCall.safe MarksCommitted := by
    intro a
    apply Passes.ite (steady_ret _)
    apply Passes.seq (steady_sq _)
    intro deleted
    apply Passes.seq (steady_sq _)
    intro orphans
    refine Passes.ite ?_ (steady_ret _)
    apply Passes.seq (steady_server _)
    intro updated
    exact Passes.seq (steady_server _) fun _ => steady_ret _
  have hareas : ∀ a, (SyncScript.deleteAreas rc a).Steady SyncCall.safe MarksCommitted := by
    intro a
    apply Passes.ite (steady_ret _)
    apply Passes.seq (steady_sq _)
    intro deleted
    apply Passes.seq (steady_sq _)
    intro users
    exact Passes.ite (steady_server _) (steady_ret _)
  have husers : (SyncScript.deleteUsers rc).Steady SyncCall.safe MarksCommitted := by
    apply Passes.seq (steady_purge _ _ _)
    intro purged
    exact Passes.seq (steady_server _) fun _ => steady_ret _
  -- without a tree nothing is done
  cases tree with
  | nullptr => exact steady_ret _
  | node i t f s child sibling =>
    apply steady_whenExists
    apply steady_opened
    apply Passes.seq (hdevices _)
    intro u
    apply Passes.seq (hareas _)
    intro retRes
    exact Passes.seq husers fun _ => steady_closed (steady_ret _)

theorem steady_workChunk (dir : TongbuDir) (rc : WorkRc) (ids : List String) :
    (SyncScript.workChunk dir rc ids).Steady SyncCall.safe MarksCommitted := by
  cases dir with
  | tongbu_to_phone =>
    apply Passes.seq (steady_workTemplateToPhone _ _)
    intro template
    apply Passes.seq (steady_workTypeToPhone _ _)
    intro type
    apply Passes.seq (steady_workTaskToPhone _ _)
    intro task
    exact Passes.seq (steady_workRecordToPhone _) fun _ => steady_ret _
  | tongbu_to_pc =>
    apply Passes.seq (steady_workTaskToPc _ _)
    intro task
    exact Passes.seq (steady_workRecordToPc _ _) fun _ => steady_ret _

theorem steady_devicesChunk (dir : TongbuDir) (fw : TongbuFw) (rc : DevicesRc)
    (ids : List String) :
    (SyncScript.devicesChunk dir fw rc ids).Steady SyncCall.safe MarksCommitted := by
  cases dir with
  | tongbu_to_phone => exact steady_deviceInfoToPhone _ _ _
  | tongbu_to_pc => exact steady_deviceInfoToPc _ _ _

section Chunks

variable {routine : ℕ → List String → Act World Bool} {p : ∀ k ids, SyncScript (routine k ids)}

/-- What a routine keeps for one chunk, it keeps for all. -/
theorem steady_forChunks (h : ∀ k ids, (p k ids).Steady SyncCall.safe MarksCommitted) (k : ℕ)
    (chunks : List (List String)) :
    (SyncScript.forChunks p k chunks).Steady SyncCall.safe MarksCommitted := by
  induction chunks generalizing k with
  | nil => exact steady_ret _
  | cons chunk chunks ih =>
    apply Passes.ite
    · apply Passes.seq (steady_ret _)
      intro passed
      exact Passes.seq (ih (k + 1)) fun _ => steady_ret _
    · apply Passes.seq (h k chunk)
      intro done
      exact Passes.seq (ih (k + 1)) fun _ => steady_ret _

theorem steady_chunked (h : ∀ k ids, (p k ids).Steady SyncCall.safe MarksCommitted)
    (update : ℕ → Bool) (ids : List String) :
    (SyncScript.chunked p update ids).Steady SyncCall.safe MarksCommitted := by
  apply Passes.seq (steady_quiet .removeAll trivial)
  intro u
  apply Passes.seq (steady_forChunks h 0 _)
  intro done
  refine Passes.seq (Q := fun _ => MarksCommitted) ?_ fun _ => steady_ret _
  exact Passes.seq (steady_quiet .read trivial) fun _ => steady_server _

end Chunks

/-- `RemoveAll` leaves an empty queue, whatever was in it. -/
theorem passes_removeAll :
    (SyncScript.call .removeAll).Passes SyncCall.safe MarksCommitted (fun _ => True)
      fun _ => MarksCommitted := by
  have hnil : ∀ s, MarksCommitted (Script.after (L := syncCalls) .removeAll s) :=
    fun _ _ hst => absurd hst List.not_mem_nil
  exact passes_call (fun s _ _ => hnil s) fun s _ _ _ _ => hnil s

/-- The whole run. -/
theorem passes_beginSwitchData (sel : Selection) (dir : TongbuDir) (mode : RadioChoose)
    (rc : SwitchRc) :
    (SyncScript.beginSwitchData sel dir mode rc).Passes SyncCall.safe MarksCommitted
      (fun _ => True) fun _ => MarksCommitted := by
  -- devices are copied by the same loop in both directions
  have hdevices : ∀ dir, (SyncScript.selectedDevices sel dir rc).Steady SyncCall.safe
      MarksCommitted := fun dir =>
    Passes.ite (steady_chunked (fun _ _ => steady_devicesChunk _ _ _ _) _ _)
      (Passes.ite (steady_chunked (fun _ _ => steady_devicesChunk _ _ _ _) _ _) (steady_ret _))
  -- the queue is empty when the first routine runs
  apply Passes.seq passes_removeAll
  intro u
  refine Passes.ite ?_ (steady_ret _)
  apply Passes.seq (steady_deleteAreaAndDevice _ _ _)
  intro ret
  cases mode with
  | radio_user =>
    apply Passes.ite (steady_ret _)
    exact Passes.ite (steady_chunked (fun _ _ => steady_sysUser _ _) _ _) (steady_ret _)
  | radio_devices =>
    cases dir with
    | tongbu_to_phone => exact Passes.seq (steady_areasToPhone _ _) fun _ => hdevices _
    | tongbu_to_pc => exact Passes.seq (steady_ret _) fun _ => hdevices _
  | radio_work =>
    exact Passes.ite (steady_chunked (fun _ _ => steady_workChunk _ _ _) _ _) (steady_ret _)

/-- **In every run whose queries for users bring none** and whose inserts execute every row as it
is, a mark is in `m_updateMysqlData` only when the row's `REPLACE` has been committed to the
temporary file, after every call of the run. -/
theorem beginSwitchData_marks_committed (sel : Selection) (dir : TongbuDir) (mode : RadioChoose)
    (rc : SwitchRc) (w : World) :
    ∀ s ∈ (SyncScript.beginSwitchData sel dir mode rc).passed SyncCall.safe (w, []),
      MarksCommitted s :=
  (passes_beginSwitchData sel dir mode rc (w, []) trivial).1

/-- The server has a new device and nothing else. -/
def MysqlDB.oneDevice : MysqlDB :=
  { MysqlDB.empty with device_info := ⟨[newDevice "rfid"], by decide⟩ }

/-- The row a statement marks. -/
def MyStmt.marked : MyStmt → Option (MarkTable × String)
  | .mark T i => some (T, i)
  | .markWorkTaskState2 i => some (.work_task, i)
  | _ => none

theorem MyStmt.marks_of_marked {st : MyStmt} {T : MarkTable} {i : String}
    (h : st.marked = some (T, i)) : st.Marks T i := by
  cases st with
  | mark T' i' =>
    cases h
    exact ⟨rfl, rfl⟩
  | markWorkTaskState2 i' =>
    cases h
    exact ⟨rfl, rfl⟩
  | _ => cases h

/-- The device's mark is queued, and its row has been stored. -/
theorem device_mark_committed :
    ∃ s ∈ (SyncScript.beginSwitchData (Selection.ofDevice "dev") .tongbu_to_phone .radio_devices
        (SwitchRc.allOk ToPcRc.allOk.win)).passed SyncCall.safe
          (World.fresh SqliteDB.empty MysqlDB.oneDevice, []),
      s.1.updateMysqlData.filterMap MyStmt.marked = [(.device_info, "dev")] ∧
        MarksCommitted s := by
  have hqueued : ∃ s ∈ (SyncScript.beginSwitchData (Selection.ofDevice "dev") .tongbu_to_phone
      .radio_devices (SwitchRc.allOk ToPcRc.allOk.win)).passed SyncCall.safe
        (World.fresh SqliteDB.empty MysqlDB.oneDevice, []),
      s.1.updateMysqlData.filterMap MyStmt.marked = [(.device_info, "dev")] := by
    decide +kernel
  obtain ⟨s, hs, hqueue⟩ := hqueued
  exact ⟨s, hs, hqueue, beginSwitchData_marks_committed _ _ _ _ _ s hs⟩

/-- The server has an area, a role and a new user. -/
def MysqlDB.oneUser : MysqlDB :=
  { MysqlDB.empty with
    areas := ⟨[{ Id := "area", col := fun _ => some "0" }], by decide⟩
    sys_role := ⟨[{ Id := "role", col := fun _ => some "" }], by decide⟩
    sys_user := ⟨[{
      Id := "u"
      col := fun
        | .SynchronState => some "0"
        | .role_id => some "role"
        | .data_areas => some "area"
        | _ => some "" }], by decide⟩ }

/-- An area is selected, and there is nothing to delete. -/
def Selection.ofArea (i : String) : Selection :=
  { Selection.ofDevice "" with m_treeCtrl_curItem := .item i "" [] }

/-- A run in which the insert of the users fails. -/
def SwitchRc.usersFail : SwitchRc :=
  { SwitchRc.allOk ToPcRc.allOk.win with
    user := fun _ => { UserToPhoneRc.allOk with
      copy := ⟨.ok, { QuickRc.allOk with commitStep := false }⟩ } }

/-- The user's mark is queued, and its row is not stored. -/
theorem user_mark_uncommitted :
    ∃ s ∈ (SyncScript.beginSwitchData (Selection.ofArea "area") .tongbu_to_phone .radio_user
        SwitchRc.usersFail).passed (fun _ _ => true)
          (World.fresh SqliteDB.empty MysqlDB.oneUser, []), ¬MarksCommitted s := by
  have hqueued : ∃ s ∈ (SyncScript.beginSwitchData (Selection.ofArea "area") .tongbu_to_phone
      .radio_user SwitchRc.usersFail).passed (fun _ _ => true)
        (World.fresh SqliteDB.empty MysqlDB.oneUser, []),
      s.1.updateMysqlData.filterMap MyStmt.marked = [(.sys_user, "u")] ∧
        ∀ e ∈ s.2, e.after.sq.file.tables.map (fun d => d.user_table.ids) = some [] := by
    decide +kernel
  obtain ⟨s, hs, hqueue, hlog⟩ := hqueued
  refine ⟨s, hs, fun h => ?_⟩
  have hmem : (MarkTable.sys_user, "u") ∈ s.1.updateMysqlData.filterMap MyStmt.marked := by
    rw [hqueue]
    exact List.mem_cons_self
  obtain ⟨st, hst, hmarked⟩ := List.mem_filterMap.1 hmem
  -- no call has left a user on the file
  obtain ⟨e, he, hcommits⟩ := h st hst .sys_user "u" (MyStmt.marks_of_marked hmarked)
  obtain ⟨d, hafter, hu⟩ := hcommits.stored
  have hnone := hlog e he
  rw [hafter] at hnone
  replace hnone : (MarkTable.sys_user.phone d).ids = [] := Option.some_inj.1 hnone
  rw [hnone] at hu
  exact absurd hu List.not_mem_nil

end MtpSync
