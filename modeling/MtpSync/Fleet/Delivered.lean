import MtpSync.Fleet.Events
import MtpSync.Marks

/-!
# A row is sent to one phone

The mark of a row is kept on the server, in the row, and not for each phone: devices, types, tasks
and records are sent while they are not synchronised.  So a row that has been marked is sent to no
phone again, whichever phones come and whatever the other rows are, as long as nobody sets its mark
back; a second phone with the same area never gets it.

- §1 rows that are not waiting
- §2 what one effect does with such a row
- §3 runs of the fleet
-/

namespace MtpSync

open Act Relation

variable {β : Type}

/-! ## §1 Rows that are not waiting -/

namespace MarkTable

/-- The tables whose rows are sent while they are not synchronised, and not later. -/
def SentOnce (T : MarkTable) : Prop := T ≠ .work_template ∧ T ≠ .sys_user

/-- The row `i` of the server's table, if it is there, is not waiting to be sent. -/
def Settled (T : MarkTable) (i : String) (db : MysqlDB) : Prop :=
  ∀ r ∈ T.server db, r.Id = i → r.col T.SynchronState ≠ some "0"

/-- A row `i` in the file is one that was in the file `f₀`, up to its mark. -/
def OnlyOld (T : MarkTable) (i : String) (f₀ f : DbFile SqliteDB) : Prop :=
  ∀ d, f = .holds d → ∀ x ∈ T.phone d, x.Id = i →
    ∃ d₀, f₀ = .holds d₀ ∧ ∃ x₀ ∈ T.phone d₀, x₀.Id = i ∧ ∀ c ≠ T.PhoneState, x.col c = x₀.col c

variable {T : MarkTable} {i : String} {db : MysqlDB} {f₀ : DbFile SqliteDB} {v : View}

/-- A settled row is not sent. -/
theorem Settled.ne_of_sent (hT : T.SentOnce) (h : T.Settled i db) {r : SqlRow T.ServerCol}
    (hr : r ∈ T.server db) (hsent : T.Sent r) : r.Id ≠ i := by
  rintro rfl
  rcases hsent with hzero | ⟨rfl | rfl, -⟩
  · exact h r hr rfl hzero
  · exact hT.1 rfl
  · exact hT.2 rfl

/-! ## §2 One effect -/

/-- A mark makes no row wait. -/
private theorem onRow_settled (st : MyStmt) {r : SqlRow T.ServerCol}
    (h : r.col T.SynchronState ≠ some "0") : (st.onRow T r).col T.SynchronState ≠ some "0" := by
  unfold MyStmt.onRow
  split
  · split
    · simp
    · exact h
  · split
    · -- the state of the task is set after its mark
      intro hzero
      exact absurd (Option.some.inj hzero) (by decide)
    · exact h
  · exact h

theorem Settled.sub (h : T.Settled i db) {db' : MysqlDB} (hsub : db'.Sub db) :
    T.Settled i db' :=
  fun r hr => h r (hsub.server T r hr)

/-- No statement of a sync makes a row wait: an uploaded row comes with its mark. -/
theorem Settled.exec (h : T.Settled i db) {st : MyStmt}
    (hst : st.deletes = true ∨ st.isMark = true ∨ ∃ d : SqliteDB, d.Uploads st) :
    T.Settled i (st.exec db) := by
  rcases hst with hdel | hmark | ⟨d, hup⟩
  · exact h.sub (MyStmt.exec_sub hdel db)
  · intro y hy hId
    obtain ⟨r, hr, rfl⟩ := mem_exec hmark hy
    exact onRow_settled st (h r hr ((MyStmt.onRow_Id st T r).symm.trans hId))
  · intro y hy hId
    cases mem_exec_uploads hup hy with
    | same hy => exact h y hy hId
    | record => exact fun hzero => absurd (Option.some.inj hzero) (by decide)
    | task hr hrow =>
      cases hrow
      exact fun hzero => absurd (Option.some.inj hzero) (by decide)
    | @device r x hr hx =>
      -- the RFID is another column
      have hx' : x.col .SynchronState ≠ some "0" := h x hx hId
      exact hx'

end MarkTable

/-! ## §3 Runs -/

/-- Marks are queued, the row is settled, and the file has no such row but that of `f₀`. -/
structure SettledView (T : MarkTable) (i : String) (f₀ : DbFile SqliteDB) (v : View) : Prop where
  marks : ∀ st ∈ v.queue, st.isMark = true
  settled : T.Settled i v.db
  file : T.OnlyOld i f₀ v.file

section Effects

variable {T : MarkTable} {i : String} {f₀ : DbFile SqliteDB} {a b : View}

/-- A change of the file that brings no new row `i`. -/
private theorem OnlyOld.map {f : DbFile SqliteDB} {g : SqliteDB → SqliteDB}
    (h : T.OnlyOld i f₀ f) (hg : ∀ d, ∀ y ∈ T.phone (g d), y.Id = i →
      ∃ x ∈ T.phone d, x.Id = i ∧ ∀ c ≠ T.PhoneState, y.col c = x.col c) :
    T.OnlyOld i f₀ (f.map g) := by
  intro d' hd' y hy hId
  cases f with
  | missing => cases hd'
  | blank => cases hd'
  | holds d =>
    cases hd'
    obtain ⟨x, hx, hxId, hcol⟩ := hg d y hy hId
    obtain ⟨d₀, hd₀, x₀, hx₀, hId₀, hcol₀⟩ := h d rfl x hx hxId
    exact ⟨d₀, hd₀, x₀, hx₀, hId₀, fun c hc => (hcol c hc).trans (hcol₀ c hc)⟩

private theorem settledView_delete (h : SettledView T i f₀ a) (hab : DeleteEffect a b) :
    SettledView T i f₀ b := by
  cases hab with
  | created =>
    refine ⟨h.marks, h.settled, fun d hd => h.file d ?_⟩
    have hcreated : a.file.created = .holds d := hd
    exact DbFile.holds_of_created hcreated
  | deletePhone hf =>
    exact ⟨h.marks, h.settled, OnlyOld.map h.file fun d y hy hId =>
      ⟨y, (hf d).tables T y hy, hId, fun _ _ => rfl⟩⟩
  | deleteServer hst => exact ⟨h.marks, h.settled.exec (.inl hst), h.file⟩
  | removeAll => exact ⟨fun _ hst => absurd hst List.not_mem_nil, h.settled, h.file⟩

private theorem settledView_toPhone {binds : Prop} (hT : T.SentOnce) (h : SettledView T i f₀ a)
    (hab : ToPhoneEffect binds a b) : SettledView T i f₀ b := by
  cases hab with
  | delete hab => exact settledView_delete h hab
  | store T' hstored =>
    refine ⟨h.marks, h.settled, OnlyOld.map h.file fun d y hy hId => ?_⟩
    rcases MarkTable.mem_replace hy with hy | ⟨rfl, rfl⟩
    · exact ⟨y, hy, hId, fun _ _ => rfl⟩
    · -- the key is that of a row that is sent, and a settled row is not
      obtain ⟨r, ⟨hr, hsent⟩, hrId⟩ := hstored.Id_eq
      exact absurd (hrId.trans hId) (h.settled.ne_of_sent hT hr hsent)
  | storeArea =>
    refine ⟨h.marks, h.settled, OnlyOld.map h.file fun d y hy hId => ⟨y, ?_, hId, fun _ _ => rfl⟩⟩
    cases T <;> exact hy
  | enqueue T' =>
    refine ⟨fun st hst => ?_, h.settled, h.file⟩
    rcases List.mem_append.1 hst with hst | hst
    · exact h.marks st hst
    · exact List.mem_singleton.1 hst ▸ T'.stmt_isMark _
  | execute hst => exact ⟨h.marks, h.settled.exec (.inr (.inl (h.marks _ hst))), h.file⟩

private theorem settledView_toPc (h : SettledView T i f₀ a) (hab : ToPcEffect a b) :
    SettledView T i f₀ b := by
  cases hab with
  | delete hab => exact settledView_delete h hab
  | upload _ hst => exact ⟨h.marks, h.settled.exec (.inr (.inr ⟨_, hst⟩)), h.file⟩
  | mark hf =>
    refine ⟨h.marks, h.settled, OnlyOld.map h.file fun d y hy hId => ?_⟩
    obtain ⟨x, hx, hxId, hcol, -⟩ := MarkTable.mem_of_marksPhone hf hy
    exact ⟨x, hx, hxId.symm.trans hId, hcol⟩

/-- **One effect** brings no new row `i` to the phone, and leaves it settled. -/
theorem SettledView.step {binds : Prop} {dir : TongbuDir} {mode : RadioChoose} (hT : T.SentOnce)
    (h : SettledView T i f₀ a) (hab : SyncEffect binds dir mode a b) : SettledView T i f₀ b := by
  cases dir with
  | tongbu_to_phone => cases mode <;> exact settledView_toPhone hT h hab
  | tongbu_to_pc =>
    cases mode with
    | radio_user => exact settledView_toPhone hT h hab
    | radio_devices => exact settledView_toPc h hab
    | radio_work => exact settledView_toPc h hab

end Effects

/-- The file is the one the sync has started from. -/
private theorem settledView_begun {T : MarkTable} {i : String} {w : World}
    (h : T.Settled i w.server.db) : SettledView T i w.sq.file w.begun where
  marks _ hst := absurd hst List.not_mem_nil
  settled := h
  file d hd x hx hId := ⟨d, hd, x, hx, hId, fun _ _ => rfl⟩

/-- The others set no mark of the row back. -/
def LeavesSettled (T : MarkTable) (i : String) (s : Dlg β) : FleetEvent β → Prop
  | .edit f => T.Settled i s.world.server.db → T.Settled i (f s.world.server.db)
  | _ => True

/-- **A synchronised row is sent to no phone again.**  Along every run of the fleet in which nobody
sets its mark back the row stays synchronised, and no sync that follows brings it to a phone: what
`BeginSwitchData` leaves of it in the temporary file was in the file that was pulled. -/
theorem synchronised_row_not_sent (fmt : SqliteFormat β) {T : MarkTable} (hT : T.SentOnce)
    {i : String} {s s' : Dlg β} {es : List (FleetEvent β)} (h : T.Settled i s.world.server.db)
    (hrun : Run (fleetStep fmt) (LeavesSettled T i) s es s') :
    T.Settled i s'.world.server.db ∧
      ∀ hd sel dir mode rc w, FleetEvent.Pulls fmt s' hd rc w →
        T.OnlyOld i w.sq.file ((beginSwitchData sel dir mode rc.switch).run w).2.sq.file := by
  have hsettled : T.Settled i s'.world.server.db :=
    fleet_server_invariant (I := T.Settled i) (fun _ _ hok hI => hok hI)
      (fun _ _ _ dir mode _ w _ _ hI v hv => ?_) hrun h
  · refine ⟨hsettled, fun hd sel dir mode rc w hpulls => ?_⟩
    obtain ⟨-, strDevID, t, hpull, rfl⟩ := hpulls
    have hsame := beginPhoneToPc_sameServer fmt rc.pull (s'.startedWith hd)
    rw [hpull] at hsame
    have hbegun : T.Settled i t.world.server.db := by
      rw [hsame.server]
      exact hsettled
    exact (effects_keep (sync_is_effects sel dir mode rc.switch hsame.tx)
      (fun _ _ hab ha => SettledView.step hT ha hab) (settledView_begun hbegun)).file
  · exact (effects_keep hv (fun _ _ hab ha => SettledView.step hT ha hab)
      (settledView_begun hI)).settled

/-- Device `dev` has been synchronised, and the phone does not have it. -/
def Dlg.markedDevice : Dlg SqliteDB := Dlg.newDevice.edited fun db => db.mark "dev" .device_info

/-- A sync of that device, to its end. -/
def Dlg.markedDeviceEnd : Dlg SqliteDB :=
  ((myControllingFunction SqliteFormat.single (Selection.ofDevice "dev") .tongbu_to_phone
    .radio_devices (SyncRc.pushes PushRc.allOk)).run
      (Dlg.markedDevice.startedWith ⟨false, true⟩)).2

/-- The sync leaves the device where it was, and so do those that follow. -/
theorem markedDevice_not_sent :
    MarkTable.device_info.Settled "dev" Dlg.markedDeviceEnd.world.server.db ∧
      ∀ hd sel dir mode rc w, FleetEvent.Pulls SqliteFormat.single Dlg.markedDeviceEnd hd rc w →
        MarkTable.device_info.OnlyOld "dev" w.sq.file
          ((beginSwitchData sel dir mode rc.switch).run w).2.sq.file := by
  refine synchronised_row_not_sent SqliteFormat.single ⟨by decide, by decide⟩
    (s := Dlg.markedDevice) (fun r hr _ => ?_)
    (.cons (e := FleetEvent.sync ⟨false, true⟩ (Selection.ofDevice "dev") .tongbu_to_phone
      .radio_devices (SyncRc.pushes PushRc.allOk)) trivial rfl .nil)
  obtain rfl := List.mem_singleton.1 hr
  decide

end MtpSync
