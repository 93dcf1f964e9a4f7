import MtpSync.Control
import MtpSync.Download.Effects

/-!
# How a sync to the phone ends

The places where `MyControllingFunction` and `BeginSwitchData` can end, and the database file the
phone is left with when the push at the end does all of its work.

- §1 the database files of a phone
- §2 a run of `BeginSwitchData`, up to its chunks and through them
- §3 a run of `MyControllingFunction`
-/

namespace MtpSync

open Act

variable {β : Type}

/-! ## §1 The database files of a phone -/

/-- `f` is what a database file on the phone `strDevID` holds. -/
def Dlg.phoneDb (fmt : SqliteFormat β) (s : Dlg β) (strDevID : String) (f : DbFile SqliteDB) :
    Prop :=
  ∃ o ∈ (s.phone strDevID).objects,
    o.IsDatabase s.gDirID s.gFileID (s.m_fileName ++ s.strType) ∧ fmt.parse o.bytes = f

/-- The push does all of its work, from this dialog to this phone. -/
def PushRc.Replaces (rc : PushRc) (s : Dlg β) (strDevID : String) (bytes : List β) : Prop :=
  MtpSync.Replaces rc.delete rc.transfer s.gDirID s.gFileID (s.m_fileName ++ s.strType) bytes
    (s.phone strDevID)

/-- **A push that does all of its work** leaves the phone with the temporary file, and with no
other database file; nothing happens to the server. -/
theorem beginPcToPhone_replaces (fmt : SqliteFormat β) {rc : PushRc} {strDevID : String}
    {s : Dlg β} {d : SqliteDB} (hfile : s.world.sq.file = .holds d)
    (h : rc.Replaces s strDevID (fmt.bytes d)) :
    (∃ f, ((beginPcToPhone fmt rc strDevID).run s).2.phoneDb fmt strDevID f) ∧
      ∀ f, ((beginPcToPhone fmt rc strDevID).run s).2.phoneDb fmt strDevID f → f = .holds d := by
  have hbytes : (s.localFile fmt).bytes = some (fmt.bytes d) := by
    rw [Dlg.localFile, hfile]
    rfl
  obtain ⟨p, hrun, ⟨o, ho, hdb⟩, hall⟩ := deleteThenTransfer_replaces hbytes h
  have hpush : (onPhone strDevID (deleteThenTransfer rc.delete rc.transfer s.gDirID s.gFileID
      (s.localFile fmt))).run s =
      (.ok true, { s with phone := Function.update s.phone strDevID p }) := by
    rw [onPhone_run, hrun]
  rw [beginPcToPhone, bind_run_ok (read_run s), bind_run_ok hpush,
    bind_run_ok (modify_run _ _)]
  -- deleting the temporary file changes nothing on the phone
  have hphone : ∀ f, Dlg.phoneDb fmt (if rc.DeleteFile then
      Dlg.setFile .missing { s with phone := Function.update s.phone strDevID p }
      else { s with phone := Function.update s.phone strDevID p }) strDevID f ↔
      ∃ o ∈ p.objects, o.IsDatabase s.gDirID s.gFileID (s.m_fileName ++ s.strType) ∧
        fmt.parse o.bytes = f := by
    intro f
    cases rc.DeleteFile with
    | true => simp [Dlg.phoneDb, Dlg.setFile]
    | false => simp [Dlg.phoneDb]
  refine ⟨⟨_, (hphone _).2 ⟨o, ho, hdb, rfl⟩⟩, fun f hf => ?_⟩
  obtain ⟨o', ho', hdb', rfl⟩ := (hphone f).1 hf
  rw [hall o' ho' hdb', fmt.parse_bytes]

/-- A push does nothing to the server and to what is queued. -/
theorem beginPcToPhone_frame (fmt : SqliteFormat β) (rc : PushRc) (strDevID : String)
    (s : Dlg β) :
    ((beginPcToPhone fmt rc strDevID).run s).2.world.server = s.world.server ∧
      ((beginPcToPhone fmt rc strDevID).run s).2.world.updateMysqlData =
        s.world.updateMysqlData := by
  let frame (s t : Dlg β) : Prop :=
    t.world.server = s.world.server ∧ t.world.updateMysqlData = s.world.updateMysqlData
  have hkeeps : Keeps frame (beginPcToPhone fmt rc strDevID) := by
    have : Std.Refl frame := ⟨fun _ => ⟨rfl, rfl⟩⟩
    have : IsTrans (Dlg β) frame :=
      ⟨fun _ _ _ h h' => ⟨h'.1.trans h.1, h'.2.trans h.2⟩⟩
    refine keeps_read.bind fun t => Keeps.bind (fun _ => ⟨rfl, rfl⟩) fun ret =>
      (keeps_modify fun t => ?_).bind fun _ => keeps_pure ret
    split
    · exact ⟨rfl, rfl⟩
    · exact ⟨rfl, rfl⟩
  exact hkeeps s

theorem beginPcToPhone_server (fmt : SqliteFormat β) (rc : PushRc) (strDevID : String)
    (s : Dlg β) :
    ((beginPcToPhone fmt rc strDevID).run s).2.world.server = s.world.server :=
  (beginPcToPhone_frame fmt rc strDevID s).1

/-! ## §2 A run of `BeginSwitchData` -/

/-- The routine of a mode, to the phone, for one chunk. -/
def chunkRoutine (sel : Selection) (mode : RadioChoose) (rc : SwitchRc) (k : ℕ)
    (ids : List String) : Act World Bool :=
  match mode with
  | .radio_user => synchrodataSysUser ids (rc.user k)
  | .radio_devices => devicesChunk .tongbu_to_phone sel.fw (rc.devices k) ids
  | .radio_work => workChunk .tongbu_to_phone (rc.work k) ids

/-- `P` of every chunk that is worked on, with the state it starts from. -/
def AlongChunks (P : ℕ → List String → World → Prop) (routine : ℕ → List String → Act World Bool) :
    ℕ → List (List String) → World → Prop
  | _, [], _ => True
  | k, chunk :: chunks, w =>
    if chunk = [] then AlongChunks P routine (k + 1) chunks w
    else P k chunk w ∧ ∀ ret w', (routine k chunk).run w = (.ok ret, w') →
      AlongChunks P routine (k + 1) chunks w'

/-- Two conditions on the chunks. -/
theorem AlongChunks.and {P Q : ℕ → List String → World → Prop}
    {routine : ℕ → List String → Act World Bool} {k : ℕ} {chunks : List (List String)} {w : World}
    (hP : AlongChunks P routine k chunks w) (hQ : AlongChunks Q routine k chunks w) :
    AlongChunks (fun k ids w => P k ids w ∧ Q k ids w) routine k chunks w := by
  induction chunks generalizing k w with
  | nil => trivial
  | cons chunk chunks ih =>
    rw [AlongChunks] at hP hQ ⊢
    by_cases hempty : chunk = []
    · rw [if_pos hempty] at hP hQ ⊢
      exact ih hP hQ
    · rw [if_neg hempty] at hP hQ ⊢
      exact ⟨⟨hP.1, hQ.1⟩, fun ret w' hrun => ih (hP.2 ret w' hrun) (hQ.2 ret w' hrun)⟩

/-- **The chunks** keep what the routine keeps, chunk by chunk. -/
theorem forChunks_along {P : ℕ → List String → World → Prop} {I : World → Prop}
    {routine : ℕ → List String → Act World Bool}
    (hstep : ∀ k ids w b w', I w → P k ids w → (routine k ids).run w = (.ok b, w') → I w')
    {k : ℕ} {chunks : List (List String)} {w w' : World} {b : Bool} (hI : I w)
    (halong : AlongChunks P routine k chunks w)
    (hrun : (forChunks routine k chunks).run w = (.ok b, w')) : I w' := by
  induction chunks generalizing k w b with
  | nil =>
    cases hrun
    exact hI
  | cons chunk chunks ih =>
    rw [AlongChunks] at halong
    unfold forChunks at hrun
    -- an empty chunk is skipped, and the condition with it
    by_cases hempty : chunk = []
    · rw [if_pos hempty] at halong hrun
      obtain ⟨_, _, hret, hrest⟩ := of_bind_run_ok hrun
      cases hret
      obtain ⟨_, _, hchunks, hpure⟩ := of_bind_run_ok hrest
      cases hpure
      exact ih hI halong hchunks
    · rw [if_neg hempty] at halong hrun
      obtain ⟨ret, w₁, hret, hrest⟩ := of_bind_run_ok hrun
      obtain ⟨_, _, hchunks, hpure⟩ := of_bind_run_ok hrest
      cases hpure
      exact ih (hstep k chunk w ret w₁ hI halong.1 hret) (halong.2 ret w₁ hret) hchunks

/-- The ids a mode cuts into chunks. -/
def Selection.chunkIds (sel : Selection) : RadioChoose → List String
  | .radio_user => findChildID sel.m_treeCtrl_curItem
  | .radio_devices => sel.deviceScope
  | .radio_work => findChildTypeID sel.m_treeCtrl_curItem

/-- Whether a mode gets to its chunks. -/
def Selection.hasChunks (sel : Selection) : RadioChoose → Bool
  | .radio_user => !sel.m_treeCtrl_curItem.isDevice && sel.m_treeCtrl_curItem.isArea
  | _ => sel.m_treeCtrl_curItem.isDevice || sel.m_treeCtrl_curItem.isArea

/-- The areas come before the devices. -/
def areasFirst (sel : Selection) (mode : RadioChoose) (rc : SwitchRc) : Act World Unit :=
  match mode with
  | .radio_devices => do
    let _ ← synchrodataAreasToPhone sel.shownAreas rc.areas
    pure ()
  | _ => pure ()

/-- `BeginSwitchData`, to the phone, up to the chunks; whether there are any. -/
def beforeChunks (sel : Selection) (mode : RadioChoose) (rc : SwitchRc) : Act World Bool := do
  removeAll
  if rc.init then
    let _ ← deleteAreaAndDevice sel.mapOrder sel.m_deleteTree rc.deleteArea
    areasFirst sel mode rc
    if sel.hasChunks mode then
      removeAll
      pure true
    else pure false
  else pure false

/-- Only a selection with chunks gets to them. -/
theorem hasChunks_of_beforeChunks {sel : Selection} {mode : RadioChoose} {rc : SwitchRc}
    {w w₁ : World} (h : (beforeChunks sel mode rc).run w = (.ok true, w₁)) :
    sel.hasChunks mode = true := by
  obtain ⟨_, _, -, h⟩ := of_bind_run_ok h
  split at h
  · obtain ⟨_, _, -, h⟩ := of_bind_run_ok h
    obtain ⟨_, _, -, h⟩ := of_bind_run_ok h
    by_contra hnone
    rw [if_neg hnone] at h
    cases h
  · cases h

/-- Where a run of `BeginSwitchData` to the phone ends: its result and its state. -/
inductive SwitchEnd (sel : Selection) (mode : RadioChoose) (rc : SwitchRc) (w : World) :
    Except Halt Bool → World → Prop where
  /-- before the chunks -/
  | early {o : Except Halt Bool} {w₁ : World} (h : (beforeChunks sel mode rc).run w = (o, w₁))
      (ho : o ≠ .ok true) {res : Except Halt Bool} (hres : ∀ e, o = .error e → res = .error e) :
      SwitchEnd sel mode rc w res w₁
  /-- in a chunk -/
  | halts {w₁ w₂ : World} {e : Halt} (h : (beforeChunks sel mode rc).run w = (.ok true, w₁))
      (hchunks : (forChunks (chunkRoutine sel mode rc) 0 (getArrayItems (sel.chunkIds mode))).run
        w₁ = (.error e, w₂)) : SwitchEnd sel mode rc w (.error e) w₂
  /-- after sending what is queued -/
  | updates {w₁ w₂ : World} {ret : Bool} (h : (beforeChunks sel mode rc).run w = (.ok true, w₁))
      (hchunks : (forChunks (chunkRoutine sel mode rc) 0 (getArrayItems (sel.chunkIds mode))).run
        w₁ = (.ok ret, w₂)) :
      SwitchEnd sel mode rc w (.ok (ret && Batch.reported 99 rc.update 0 w₂.updateMysqlData))
        { w₂ with server := w₂.server.execAll (Batch.served 99 rc.update 0 w₂.updateMysqlData) }

section SwitchEnd

variable {sel : Selection} {mode : RadioChoose} {rc : SwitchRc} {w : World}

/-- From the chunks on. -/
private theorem switchEnd_chunked {w₀ : World}
    (h : (beforeChunks sel mode rc).run w = (.ok true, { w₀ with updateMysqlData := [] })) :
    SwitchEnd sel mode rc w
      ((chunked (chunkRoutine sel mode rc) rc.update (sel.chunkIds mode)).run w₀).1
      ((chunked (chunkRoutine sel mode rc) rc.update (sel.chunkIds mode)).run w₀).2 := by
  have hremove : (removeAll).run w₀ = (.ok (), { w₀ with updateMysqlData := [] }) := rfl
  rw [chunked, bind_run_ok hremove]
  rcases hchunks : (forChunks (chunkRoutine sel mode rc) 0 (getArrayItems (sel.chunkIds mode))).run
    { w₀ with updateMysqlData := [] } with ⟨e | ret, w₂⟩
  · rw [bind_run_error hchunks]
    exact .halts h hchunks
  · rw [bind_run_ok hchunks, bind_run_ok (updateQueued_run _ _)]
    exact .updates h hchunks

/-- From the block of a mode on: its chunks, or an answer at once. -/
private theorem switchEnd_block {w₀ : World} {block : Act World Bool}
    (h : (beforeChunks sel mode rc).run w =
      (if sel.hasChunks mode then removeAll >>= fun _ => pure true else pure false).run w₀)
    (hchunks : sel.hasChunks mode = true →
      block = chunked (chunkRoutine sel mode rc) rc.update (sel.chunkIds mode))
    (hnone : sel.hasChunks mode = false → ∃ b, block = pure b) :
    SwitchEnd sel mode rc w (block.run w₀).1 (block.run w₀).2 := by
  cases hhas : sel.hasChunks mode with
  | true =>
    rw [hchunks hhas]
    rw [hhas, if_pos rfl] at h
    exact switchEnd_chunked h
  | false =>
    obtain ⟨b, rfl⟩ := hnone hhas
    rw [hhas, if_neg (by decide)] at h
    exact .early h (by simp) (by simp)

/-- **`BeginSwitchData`** ends in one of these places. -/
theorem switchEnd (sel : Selection) (mode : RadioChoose) (rc : SwitchRc) (w : World) :
    SwitchEnd sel mode rc w ((beginSwitchData sel .tongbu_to_phone mode rc).run w).1
      ((beginSwitchData sel .tongbu_to_phone mode rc).run w).2 := by
  have hremove : (removeAll).run w = (.ok (), { w with updateMysqlData := [] }) := rfl
  cases hinit : rc.init with
  -- the session is not opened
  | false =>
    have hbefore : (beforeChunks sel mode rc).run w =
        (.ok false, { w with updateMysqlData := [] }) := by
      rw [beforeChunks, bind_run_ok hremove, hinit]
      rfl
    have hrun : (beginSwitchData sel .tongbu_to_phone mode rc).run w =
        (.ok false, { w with updateMysqlData := [] }) := by
      unfold beginSwitchData
      rw [bind_run_ok hremove, hinit]
      rfl
    rw [hrun]
    exact .early hbefore (by simp) (by simp)
  | true =>
    rcases hpass : (deleteAreaAndDevice sel.mapOrder sel.m_deleteTree rc.deleteArea).run
      { w with updateMysqlData := [] } with ⟨e | ret, w₀⟩
    · -- the pass over the deleted areas does not return
      have hbefore : (beforeChunks sel mode rc).run w = (.error e, w₀) := by
        rw [beforeChunks, bind_run_ok hremove, if_pos hinit, bind_run_error hpass]
      have hrun : (beginSwitchData sel .tongbu_to_phone mode rc).run w = (.error e, w₀) := by
        unfold beginSwitchData
        rw [bind_run_ok hremove, if_pos hinit, bind_run_error hpass]
      rw [hrun]
      exact .early hbefore (by simp) (by simp)
    · have hbefore : (beforeChunks sel mode rc).run w = (areasFirst sel mode rc >>= fun _ =>
          if sel.hasChunks mode then removeAll >>= fun _ => pure true else pure false).run w₀ := by
        rw [beforeChunks, bind_run_ok hremove, if_pos hinit, bind_run_ok hpass]
      unfold beginSwitchData
      rw [bind_run_ok hremove, if_pos hinit, bind_run_ok hpass]
      -- the block of the mode, which alone does something
      cases mode with
      | radio_user =>
        have hareas : (areasFirst sel .radio_user rc).run w₀ = (.ok (), w₀) := rfl
        rw [bind_run_ok hareas] at hbefore
        refine switchEnd_block hbefore (fun hhas => ?_) fun hhas => ?_
        · simp only [Selection.hasChunks, Bool.and_eq_true, Bool.not_eq_true'] at hhas
          simp only [userBlock, hhas.1, hhas.2, if_true]
          rfl
        · simp only [userBlock]
          cases hdev : sel.m_treeCtrl_curItem.isDevice with
          | true => exact ⟨false, rfl⟩
          | false =>
            rw [Selection.hasChunks, hdev, Bool.not_false, Bool.true_and] at hhas
            rw [hhas]
            exact ⟨true, rfl⟩
      | radio_devices =>
        dsimp only [devicesBlock]
        rcases hareas : (synchrodataAreasToPhone sel.shownAreas rc.areas).run w₀
          with ⟨e | ret', w₁⟩
        · have hfirst : (areasFirst sel .radio_devices rc).run w₀ = (.error e, w₁) := by
            rw [areasFirst, bind_run_error hareas]
          rw [bind_run_error hfirst] at hbefore
          rw [bind_run_error hareas]
          exact .early hbefore (by simp) (by simp)
        · have hfirst : (areasFirst sel .radio_devices rc).run w₀ = (.ok (), w₁) := by
            rw [areasFirst, bind_run_ok hareas]
            rfl
          rw [bind_run_ok hfirst] at hbefore
          rw [bind_run_ok hareas]
          refine switchEnd_block hbefore (fun hhas => ?_) fun hhas => ?_
          · have hroutine : chunkRoutine sel .radio_devices rc =
                fun k ids => devicesChunk .tongbu_to_phone sel.fw (rc.devices k) ids := rfl
            rw [hroutine]
            simp only [Selection.chunkIds, Selection.deviceScope, Selection.fw]
            cases hdev : sel.m_treeCtrl_curItem.isDevice with
            | true => simp
            | false =>
              have harea : sel.m_treeCtrl_curItem.isArea = true := by
                simpa [Selection.hasChunks, hdev] using hhas
              simp [harea]
          · have hnone : sel.m_treeCtrl_curItem.isDevice = false ∧
                sel.m_treeCtrl_curItem.isArea = false := by
              simpa [Selection.hasChunks] using hhas
            rw [hnone.1, hnone.2]
            exact ⟨true, rfl⟩
      | radio_work =>
        have hareas : (areasFirst sel .radio_work rc).run w₀ = (.ok (), w₀) := rfl
        rw [bind_run_ok hareas] at hbefore
        refine switchEnd_block hbefore (fun hhas => ?_) fun hhas => ?_
        · exact if_pos hhas
        · exact ⟨true, if_neg (by rw [← Bool.not_eq_true] at hhas; exact hhas)⟩

theorem switchEnd_of_run {res : Except Halt Bool} {w' : World}
    (h : (beginSwitchData sel .tongbu_to_phone mode rc).run w = (res, w')) :
    SwitchEnd sel mode rc w res w' := by
  have hend := switchEnd sel mode rc w
  rw [h] at hend
  exact hend

end SwitchEnd

/-! ## §3 A run of `MyControllingFunction` -/

/-- Where a run of `MyControllingFunction` to the phone ends: its state. -/
inductive SyncEnd (fmt : SqliteFormat β) (sel : Selection) (mode : RadioChoose) (rc : SyncRc)
    (s : Dlg β) : Dlg β → Prop where
  /-- nothing was pulled -/
  | unpulled {t : Dlg β} (h : t.world.server = s.world.server) : SyncEnd fmt sel mode rc s t
  /-- nothing is pushed -/
  | unpushed {strDevID : String} {t : Dlg β} {res : Except Halt Bool} {w : World}
      (hyes : rc.yes = true) (hpull : (beginPhoneToPc fmt rc.pull).run s = (.ok (some strDevID), t))
      (hswitch : (beginSwitchData sel .tongbu_to_phone mode rc.switch).run t.world = (res, w))
      (hres : res ≠ .ok true) : SyncEnd fmt sel mode rc s { t with world := w }
  /-- the push -/
  | pushed {strDevID : String} {t : Dlg β} {w : World} (hyes : rc.yes = true)
      (hpull : (beginPhoneToPc fmt rc.pull).run s = (.ok (some strDevID), t))
      (hswitch : (beginSwitchData sel .tongbu_to_phone mode rc.switch).run t.world =
        (.ok true, w)) :
      SyncEnd fmt sel mode rc s ((beginPcToPhone fmt rc.push strDevID).run { t with world := w }).2

/-- Nothing happens to the server, and no transaction is opened. -/
structure SameServer (s t : Dlg β) : Prop where
  server : t.world.server = s.world.server
  tx : t.world.sq.tx = s.world.sq.tx

instance : Std.Refl (SameServer (β := β)) := ⟨fun _ => ⟨rfl, rfl⟩⟩

instance : IsTrans (Dlg β) SameServer :=
  ⟨fun _ _ _ h h' => ⟨h'.server.trans h.server, h'.tx.trans h.tx⟩⟩

/-- Nothing happens but to the temporary file and to what is outside the world. -/
def SameButFile (s t : Dlg β) : Prop :=
  ∃ f, t.world = { s.world with sq := { s.world.sq with file := f } }

instance : Std.Refl (SameButFile (β := β)) := ⟨fun s => ⟨s.world.sq.file, rfl⟩⟩

instance : IsTrans (Dlg β) SameButFile where
  trans s t u h h' := by
    obtain ⟨f, hf⟩ := h
    obtain ⟨f', hf'⟩ := h'
    exact ⟨f', by rw [hf', hf]⟩

/-- A pull does nothing but to the temporary file. -/
theorem beginPhoneToPc_sameButFile (fmt : SqliteFormat β) (rc : PhoneToPcRc) :
    Keeps SameButFile (beginPhoneToPc fmt rc) := by
  unfold beginPhoneToPc
  cases rc.connect.strDevID with
  | none => exact keeps_pure none
  | some strDevID =>
    refine (keeps_modify fun s => ?_).bind fun _ => Keeps.bind ?_ fun o => ?_
    · split <;> exact ⟨_, rfl⟩
    · -- the connection changes the dialog only
      unfold connect
      refine (keeps_modify fun _ => ⟨_, rfl⟩).bind fun _ => ?_
      cases rc.connect.OpenDevice with
      | noDevice => exact keeps_pure none
      | failed => exact keeps_halt .undefined
      | opened =>
        exact Keeps.ite (keeps_pure none) (Keeps.ite (keeps_pure none)
          ((keeps_modify fun _ => ⟨_, rfl⟩).bind fun _ => keeps_pure _))
    · cases o with
      | none => exact keeps_pure none
      | some strDevID =>
        -- so do the pull, the copy of it and the file it leaves
        unfold transforDataFromDevice
        refine (keeps_modify fun s => ?_).bind fun _ => (keeps_modify fun s => ?_).bind fun _ =>
          (keeps_modify fun s => ?_).bind fun _ => keeps_pure _
        · split
          · split <;> exact ⟨_, rfl⟩
          · exact ⟨_, rfl⟩
        · unfold copyToBackUp
          split <;> exact ⟨_, rfl⟩
        · split <;> exact ⟨_, rfl⟩

/-- A pull does nothing to the server. -/
theorem beginPhoneToPc_sameServer (fmt : SqliteFormat β) (rc : PhoneToPcRc) :
    Keeps SameServer (beginPhoneToPc fmt rc) := by
  intro s
  obtain ⟨f, hworld⟩ := beginPhoneToPc_sameButFile fmt rc s
  constructor
  · rw [hworld]
  · rw [hworld]

/-- A pull is of the connected device. -/
theorem beginPhoneToPc_strDevID {fmt : SqliteFormat β} {rc : PhoneToPcRc} {s t : Dlg β}
    {strDevID : String} (h : (beginPhoneToPc fmt rc).run s = (.ok (some strDevID), t)) :
    rc.connect.strDevID = some strDevID := by
  unfold beginPhoneToPc at h
  cases hdev : rc.connect.strDevID with
  | none =>
    rw [hdev] at h
    cases h
  | some dev =>
    rw [hdev] at h
    obtain ⟨_, s₁, -, h⟩ := of_bind_run_ok h
    obtain ⟨o, s₂, hconnect, h⟩ := of_bind_run_ok h
    cases o with
    | none => cases h
    | some dev' =>
      obtain ⟨_, _, -, h⟩ := of_bind_run_ok h
      obtain ⟨_, _, -, h⟩ := of_bind_run_ok h
      obtain ⟨_, _, -, h⟩ := of_bind_run_ok h
      cases h
      -- what `connect` answers is what it was asked for
      unfold connect at hconnect
      obtain ⟨_, _, -, hopen⟩ := of_bind_run_ok hconnect
      split at hopen
      · cases hopen
      · cases hopen
      · split at hopen
        · cases hopen
        · split at hopen
          · cases hopen
          · obtain ⟨_, _, -, hpure⟩ := of_bind_run_ok hopen
            cases hpure
            rfl

/-- A run that has pulled the database ends where `BeginSwitchData` ends, or after the push. -/
theorem sync_of_pulled {fmt : SqliteFormat β} {sel : Selection} {dir : TongbuDir}
    {mode : RadioChoose} {rc : SyncRc} {s t : Dlg β} {strDevID : String} (hyes : rc.yes = true)
    (hpull : (beginPhoneToPc fmt rc.pull).run s = (.ok (some strDevID), t))
    {res : Except Halt Bool} {w : World}
    (hswitch : (beginSwitchData sel dir mode rc.switch).run t.world = (res, w)) :
    (res ≠ .ok true ∧ ((myControllingFunction fmt sel dir mode rc).run s).2 =
        { t with world := w }) ∨
      (res = .ok true ∧ ((myControllingFunction fmt sel dir mode rc).run s).2 =
        ((beginPcToPhone fmt rc.push strDevID).run { t with world := w }).2) := by
  have hworld : (onWorld (beginSwitchData sel dir mode rc.switch)).run t =
      (res, { t with world := w }) := by
    rw [onWorld, zoom_run, hswitch]
  rw [myControllingFunction, if_pos hyes, bind_run_ok hpull]
  dsimp only
  -- only a switch that answers true is followed by the push
  cases res with
  | error e =>
    rw [bind_run_error hworld]
    exact .inl ⟨by simp, rfl⟩
  | ok ret =>
    rw [bind_run_ok hworld]
    cases ret with
    | false => exact .inl ⟨by simp, rfl⟩
    | true => exact .inr ⟨rfl, rfl⟩

/-- **`MyControllingFunction`** ends in one of these places. -/
theorem syncEnd (fmt : SqliteFormat β) (sel : Selection) (mode : RadioChoose) (rc : SyncRc)
    (s : Dlg β) : SyncEnd fmt sel mode rc s
      ((myControllingFunction fmt sel .tongbu_to_phone mode rc).run s).2 := by
  -- how far it comes: the question, the pull, the switch, the push
  cases hyes : rc.yes with
  | false =>
    rw [myControllingFunction, hyes, if_neg (by decide)]
    exact .unpulled rfl
  | true =>
    have hsame := (beginPhoneToPc_sameServer fmt rc.pull s).server
    rcases hpull : (beginPhoneToPc fmt rc.pull).run s with ⟨e | o, t⟩
    · rw [hpull] at hsame
      rw [myControllingFunction, if_pos hyes, bind_run_error hpull]
      exact .unpulled hsame
    · rw [hpull] at hsame
      cases o with
      | none =>
        rw [myControllingFunction, if_pos hyes, bind_run_ok hpull]
        exact .unpulled hsame
      | some strDevID =>
        rcases hswitch : (beginSwitchData sel .tongbu_to_phone mode rc.switch).run t.world
          with ⟨res, w⟩
        rcases sync_of_pulled hyes hpull hswitch with ⟨hres, hend⟩ | ⟨rfl, hend⟩
        · rw [hend]
          exact .unpushed hyes hpull hswitch hres
        · rw [hend]
          exact .pushed hyes hpull hswitch

end MtpSync
