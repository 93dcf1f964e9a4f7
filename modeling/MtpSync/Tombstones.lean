import MtpSync.Download.Losses
import MtpSync.Marks

/-!
# Rows deleted for real are not on the phone

Once a row is deleted from the server nothing will tell the phone to delete its copy.  The delete
on the phone's side is made in the temporary file and reaches the phone with the push, after the
server has deleted.

- §1 the file, up to the push
- §2 a run that deletes safely
-/

namespace MtpSync

open Act

variable {β : Type}

/-! ## §1 The file, up to the push -/

/-- The pass deletes from the file what it deletes from the server. -/
def PassReaches (sel : Selection) (rc : SwitchRc) (w : World) : Prop :=
  rc.init = true → sel.m_deleteTree ≠ .nullptr → rc.deleteArea.openDb = true →
    ∀ d, w.sq.file = .holds d →
      rc.deleteArea.Reaches (sel.m_deleteTree.arys sel.mapOrder) w.server.db d

/-- So does a chunk. -/
def ChunkReaches (mode : RadioChoose) (rc : SwitchRc) (k : ℕ) (w : World) : Prop :=
  mode = .radio_work → (rc.work k).task.Reaches w.view

section Switch

variable {sel : Selection} {mode : RadioChoose} {rc : SwitchRc} {w w' : World} {db₀ : MysqlDB}

variable (sel mode rc) in
private theorem buried_areasFirst :
    Keeps (KeepsView (Buried db₀)) (areasFirst sel mode rc) := by
  cases mode with
  | radio_user => exact keeps_pure ()
  | radio_work => exact keeps_pure ()
  | radio_devices =>
    exact (buried_areas sel.shownAreas rc.areas).bind fun _ => keeps_pure ()

/-- **Up to the chunks.** -/
private theorem buried_beforeChunks {b : Bool} (htx : w.sq.tx = none)
    (hreaches : PassReaches sel rc w) (hrun : (beforeChunks sel mode rc).run w = (.ok b, w')) :
    w'.sq.tx = none ∧ Buried w.server.db w'.view := by
  have hsame : Buried w.server.db w.view :=
    fun _ _ _ => BuriedTable.buries_of_subset fun _ h => h
  have hremove : (removeAll).run w = (.ok (), { w with updateMysqlData := [] }) := rfl
  rw [beforeChunks, bind_run_ok hremove] at hrun
  cases hinit : rc.init with
  | false =>
    rw [hinit] at hrun
    cases hrun
    exact ⟨htx, hsame⟩
  -- the pass buries what it deletes, and the areas bury nothing that is alive
  | true =>
    rw [hinit, if_pos rfl] at hrun
    obtain ⟨ret, w₁, hpass, hrun⟩ := of_bind_run_ok hrun
    obtain ⟨_, w₂, hareas, hrun⟩ := of_bind_run_ok hrun
    have h₁ := buried_pass (w := { w with updateMysqlData := [] }) htx (hreaches hinit) hpass
    have h₂ := buried_areasFirst sel mode rc w₁ h₁
    rw [hareas] at h₂
    split at hrun
    · cases hrun
      exact h₂
    · cases hrun
      exact h₂

/-- **A chunk.** -/
private theorem buried_chunk {k : ℕ} {ids : List String} {b : Bool}
    (h : w.sq.tx = none ∧ Buried db₀ w.view) (hreaches : ChunkReaches mode rc k w)
    (hrun : (chunkRoutine sel mode rc k ids).run w = (.ok b, w')) :
    w'.sq.tx = none ∧ Buried db₀ w'.view := by
  cases mode with
  | radio_user =>
    have hkeeps := buried_users ids (rc.user k) w h
    rw [chunkRoutine] at hrun
    rw [hrun] at hkeeps
    exact hkeeps
  | radio_devices =>
    have hkeeps := buried_devices ids sel.fw (rc.devices k).toPhone w h
    rw [chunkRoutine, devicesChunk] at hrun
    rw [hrun] at hkeeps
    exact hkeeps
  | radio_work => exact buried_workChunk h (hreaches rfl) hrun

/-- **`BeginSwitchData`**, when it returns: the marks change no key. -/
private theorem buried_switch {res : Except Halt Bool} {ret : Bool} (htx : w.sq.tx = none)
    (hpass : PassReaches sel rc w)
    (hchunks : ∀ w₁, (beforeChunks sel mode rc).run w = (.ok true, w₁) →
      AlongChunks (fun k _ => ChunkReaches mode rc k) (chunkRoutine sel mode rc) 0
        (getArrayItems (sel.chunkIds mode)) w₁)
    (hend : SwitchEnd sel mode rc w res w') (hres : res = .ok ret) :
    Buried w.server.db w'.view := by
  cases hend with
  | @early o _ hbefore ho _ hres' =>
    cases o with
    | error e =>
      rw [hres' e rfl] at hres
      cases hres
    | ok b => exact (buried_beforeChunks htx hpass hbefore).2
  | halts hbefore hrun => cases hres
  | @updates w₁ w₂ _ hbefore hrun =>
    have h₁ := buried_beforeChunks htx hpass hbefore
    have hstep : ∀ k ids v b v', v.sq.tx = none ∧ Buried w.server.db v.view →
        ChunkReaches mode rc k v → (chunkRoutine sel mode rc k ids).run v = (.ok b, v') →
        v'.sq.tx = none ∧ Buried w.server.db v'.view :=
      fun _ _ _ _ _ h hreaches hrun => buried_chunk h hreaches hrun
    have h₂ := forChunks_along (P := fun k _ => ChunkReaches mode rc k)
      (I := fun w₂ => w₂.sq.tx = none ∧ Buried w.server.db w₂.view) hstep h₁
      (hchunks w₁ hbefore) hrun
    have hquiet := beforeChunks_quiet sel mode rc htx
    rw [hbefore] at hquiet
    have hshrinks := shrinks_forChunks sel mode rc hquiet
    rw [hrun] at hshrinks
    -- what is sent at the end are marks: they bring no row back
    have hmarks : ∀ st ∈ Batch.served 99 rc.update 0 w₂.updateMysqlData, st.isMark = true :=
      fun st hst => hshrinks.marks st (Batch.mem_of_mem_served hst)
    intro T d hd i hi hno
    refine h₂.2 T d hd i hi ?_
    have hno : i ∉ T.serverIds (w₂.server.execAll
        (Batch.served 99 rc.update 0 w₂.updateMysqlData)).db := hno
    rw [Server.execAll_db, serverIds_execAll_marks hmarks] at hno
    exact hno

/-- Marks are all that the chunks queue. -/
private theorem marks_of_chunks (htx : w.sq.tx = none) :
    ∀ w₁ w₂ ret, (beforeChunks sel mode rc).run w = (.ok true, w₁) →
      (forChunks (chunkRoutine sel mode rc) 0 (getArrayItems (sel.chunkIds mode))).run w₁ =
        (.ok ret, w₂) → ∀ st ∈ w₂.updateMysqlData, st.isMark = true := by
  intro w₁ w₂ ret hbefore hrun
  have hquiet := beforeChunks_quiet sel mode rc htx
  rw [hbefore] at hquiet
  have hshrinks := shrinks_forChunks sel mode rc hquiet
  rw [hrun] at hshrinks
  exact hshrinks.marks

end Switch

/-! ## §2 A run that deletes safely -/

/-- What the server has lost in a run is on no database file of the connected phone. -/
def TombstonesGone (fmt : SqliteFormat β) (rc : SyncRc) (s t : Dlg β) : Prop :=
  ∀ T : BuriedTable, ∀ i ∈ T.serverIds s.world.server.db, i ∉ T.serverIds t.world.server.db →
    ∀ strDevID, rc.pull.connect.strDevID = some strDevID →
      ∀ d, t.phoneDb fmt strDevID (.holds d) → i ∉ T.phoneIds d

/-- The run deletes safely: the pass and the chunks delete from the file what they delete from the
server; and either no row is deleted for real, or the run goes through to a push that does all of
its work on the file it finds. -/
def DeletesSafely (fmt : SqliteFormat β) (sel : Selection) (mode : RadioChoose) (rc : SyncRc)
    (s : Dlg β) : Prop :=
  rc.yes = true → ∀ strDevID t, (beginPhoneToPc fmt rc.pull).run s = (.ok (some strDevID), t) →
    PassReaches sel rc.switch t.world ∧
    (∀ w, (beforeChunks sel mode rc.switch).run t.world = (.ok true, w) →
      AlongChunks (fun k _ => ChunkReaches mode rc.switch k) (chunkRoutine sel mode rc.switch) 0
        (getArrayItems (sel.chunkIds mode)) w) ∧
    (LosesNothing sel mode rc.switch t.world ∨ SwitchAnswers sel mode rc.switch t.world ∧
      ∀ w, (beginSwitchData sel .tongbu_to_phone mode rc.switch).run t.world = (.ok true, w) →
        ∃ d, w.sq.file = .holds d ∧ rc.push.Replaces t strDevID (fmt.bytes d))

/-- **A row deleted from the server is not on the phone**, after every run to the phone that
deletes safely, whatever its calls return. -/
theorem tombstones_gone (fmt : SqliteFormat β) (sel : Selection) (mode : RadioChoose)
    (rc : SyncRc) {s : Dlg β} (htx : s.world.sq.tx = none)
    (hsafe : DeletesSafely fmt sel mode rc s) :
    TombstonesGone fmt rc s
      ((myControllingFunction fmt sel .tongbu_to_phone mode rc).run s).2 := by
  have hend := syncEnd fmt sel mode rc s
  generalize ((myControllingFunction fmt sel .tongbu_to_phone mode rc).run s).2 = t' at hend ⊢
  intro T i hi hno strDevID hdev d hphone
  cases hend with
  | unpulled h =>
    rw [h] at hno
    exact absurd hi hno
  | @unpushed strDevID' t res w hyes hpull hswitch hres =>
    have hsame := beginPhoneToPc_sameServer fmt rc.pull s
    rw [hpull] at hsame
    have htx' : t.world.sq.tx = none := hsame.tx.trans htx
    have hserver : t.world.server = s.world.server := hsame.server
    rw [← hserver] at hi
    obtain ⟨-, -, hnone | ⟨hanswers, -⟩⟩ := hsafe hyes strDevID' t hpull
    · exact absurd (kept_of_losesNothing htx' hnone (switchEnd_of_run hswitch)
        (marks_of_chunks htx') T i hi) hno
    · obtain ⟨w', hrun⟩ := beginSwitchData_answers htx' hanswers
      rw [hswitch] at hrun
      cases hrun
      exact absurd rfl hres
  | @pushed strDevID' t w hyes hpull hswitch =>
    have hsame := beginPhoneToPc_sameServer fmt rc.pull s
    rw [hpull] at hsame
    have htx' : t.world.sq.tx = none := hsame.tx.trans htx
    have hserver : t.world.server = s.world.server := hsame.server
    rw [← hserver] at hi
    rw [beginPcToPhone_server] at hno
    obtain ⟨hpass, hchunks, hnone | ⟨-, hpush⟩⟩ := hsafe hyes strDevID' t hpull
    · exact absurd (kept_of_losesNothing htx' hnone (switchEnd_of_run hswitch)
        (marks_of_chunks htx') T i hi) hno
    · obtain ⟨d', hd', hreplaces⟩ := hpush w hswitch
      have hburied := buried_switch htx' hpass hchunks (switchEnd_of_run hswitch) rfl
      -- the phone looked at is the one pushed to
      rw [beginPhoneToPc_strDevID hpull] at hdev
      cases hdev
      obtain ⟨-, hall⟩ := beginPcToPhone_replaces fmt (s := { t with world := w }) hd' hreplaces
      cases hall _ hphone
      exact hburied T d hd' i hi hno

/-- A phone with one account. -/
def SqliteDB.oneUser : SqliteDB :=
  { SqliteDB.empty with user_table := ⟨[{ Id := "u", col := fun _ => some "" }], by decide⟩ }

/-- The account is marked for a real delete on the server. -/
def MysqlDB.markedUser : MysqlDB :=
  { MysqlDB.empty with sys_user := ⟨[{
      Id := "u"
      col := fun
        | .SynchronState => some "3"
        | _ => some "" }], by decide⟩ }

/-- That phone and that server. -/
def Dlg.markedUser : Dlg SqliteDB :=
  { Dlg.pushing with
    world := World.fresh SqliteDB.empty MysqlDB.markedUser
    phone := fun _ => ⟨[⟨"o1", ⟨"dir", 1, "phone.db", "phone"⟩, [SqliteDB.oneUser], true⟩]⟩ }

/-- Pulled, and deleted on the server only. -/
def Dlg.userLeft : Dlg SqliteDB :=
  { Dlg.markedUser with
    world := ⟨⟨.holds SqliteDB.oneUser, none, false, true⟩,
      ⟨MyStmt.deleteSysUserReal.exec MysqlDB.markedUser, [.deleteSysUserReal]⟩, []⟩
    backUp := Function.update Dlg.markedUser.backUp "2018-06-21-12-00-00"
      (.holds SqliteDB.oneUser) }

/-- A device is selected; no area or device is marked as deleted. -/
def Selection.unmarked : Selection :=
  { Selection.ofDevice "dev" with
    m_deleteTree := .node "area" .delete_type_areas false "0" .nullptr .nullptr }

/-- A sync in which only the delete of accounts from the temporary file may fail. -/
def SyncRc.deletesUsers (ok : Bool) : SyncRc :=
  { SyncRc.pushes PushRc.allOk with
    switch := { SwitchRc.allOk ToPcRc.allOk.win with
      deleteArea := { DeleteAreaRc.allOk with
        marked := { QuickRc.allOk with prepare := ok } } } }

/-- Nothing is deleted from the server before the users. -/
private theorem unmarked_stmts :
    (SyncRc.deletesUsers true).switch.deleteArea.deviceStmts
        (Selection.unmarked.m_deleteTree.arys Selection.unmarked.mapOrder) = [] ∧
      (SyncRc.deletesUsers true).switch.deleteArea.areaStmts
        (Selection.unmarked.m_deleteTree.arys Selection.unmarked.mapOrder) = [] :=
  ⟨rfl, rfl⟩

/-- The account is deleted from the temporary file and from the server, and the file pushed. -/
theorem marked_user_gone :
    TombstonesGone SqliteFormat.single (SyncRc.deletesUsers true) Dlg.markedUser
      ((myControllingFunction SqliteFormat.single Selection.unmarked .tongbu_to_phone .radio_work
        (SyncRc.deletesUsers true)).run Dlg.markedUser).2 := by
  refine tombstones_gone _ _ _ _ rfl fun _ strDevID t hpull =>
    ⟨fun _ _ _ d hd => ⟨?_, ?_, ?_⟩, fun w hbefore => ?_, .inr ⟨?_, fun w hswitch => ?_⟩⟩
  · -- the tree has no marked device, and no marked area
    constructor
    · intro i _ hlost
      rw [unmarked_stmts.1] at hlost
      exact absurd hlost BuriedTable.not_lostBy_nil
    · intro x _ hlost
      rw [unmarked_stmts.1] at hlost
      exact absurd hlost BuriedTable.not_lostBy_nil
  · constructor
    · intro i _ hlost
      rw [unmarked_stmts.2] at hlost
      exact absurd hlost BuriedTable.not_lostBy_nil
    · intro x _ hlost
      rw [unmarked_stmts.2] at hlost
      exact absurd hlost BuriedTable.not_lostBy_nil
  · -- the one account of the phone is deleted with its user
    cases hpull
    cases hd
    intro x hx _
    obtain rfl := List.mem_singleton.1 hx
    exact ⟨rfl, rfl, rfl, List.mem_cons_self⟩
  · cases hpull
    cases hbefore
    exact ⟨fun _ _ d hd t ht => by cases hd; exact absurd ht List.not_mem_nil, fun _ _ _ => trivial⟩
  · -- every call answers, and there are no marks to execute
    cases hpull
    refine ⟨rfl, rfl, fun _ _ _ => by decide, fun hmode => RadioChoose.noConfusion hmode,
      fun _ w hbefore => ?_, fun _ hmode => RadioChoose.noConfusion hmode⟩
    cases hbefore
    exact ⟨⟨⟨rfl, rfl, ⟨rfl, ⟨rfl, .inl rfl⟩, rfl, .inl rfl⟩, ⟨rfl, ⟨rfl, .inl rfl⟩, rfl, .inl rfl⟩,
      ⟨rfl, rfl, rfl, rfl, .inr ⟨rfl, QuickRc.allOk_ok _⟩⟩, rfl, rfl⟩, fun _ _ _ => trivial⟩,
      Batch.reported_iff.2 fun _ _ _ => rfl⟩
  · cases hpull
    cases hswitch
    refine ⟨_, rfl, PushRc.allOk_replaces _ _ _ fun o ho => ?_⟩
    rw [List.mem_singleton.1 ho]
    rfl

/-- The account stays in the temporary file, is deleted from the server, and the file is pushed. -/
theorem marked_user_stays :
    ¬TombstonesGone SqliteFormat.single (SyncRc.deletesUsers false) Dlg.markedUser
      ((myControllingFunction SqliteFormat.single Selection.unmarked .tongbu_to_phone .radio_work
        (SyncRc.deletesUsers false)).run Dlg.markedUser).2 := by
  intro h
  have hpush : (myControllingFunction SqliteFormat.single Selection.unmarked .tongbu_to_phone
      .radio_work (SyncRc.deletesUsers false)).run Dlg.markedUser =
      (beginPcToPhone SqliteFormat.single PushRc.allOk "dev").run Dlg.userLeft := rfl
  have hreplaces : PushRc.allOk.Replaces Dlg.userLeft "dev"
      (SqliteFormat.single.bytes SqliteDB.oneUser) := PushRc.allOk_replaces _ _ _ fun o ho => by
    rw [List.mem_singleton.1 ho]
    rfl
  obtain ⟨⟨f, hf⟩, hall⟩ := beginPcToPhone_replaces SqliteFormat.single (s := Dlg.userLeft)
    (d := SqliteDB.oneUser) rfl hreplaces
  cases hall f hf
  rw [hpush] at h
  refine h .sys_user "u" List.mem_cons_self ?_ "dev" rfl SqliteDB.oneUser hf List.mem_cons_self
  rw [beginPcToPhone_server]
  exact List.not_mem_nil

end MtpSync
