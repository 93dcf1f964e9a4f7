import MtpSync.Push
import MtpSync.World
import Mathlib.Logic.Function.Basic

/-!
# The dialog: pulling the phone's database and pushing it back

`BeginPhoneToPc`, `BeginPcToPhone` and `BeginRebackData`, and the members of the dialog they
share with the workers.

- §1 the dialog
- §2 the pull
- §3 the two pushes
- §4 a push leaves a complete file

Which folder and which object the configured path names is looked up on the phone; the two
identifiers are outcomes of these look-ups, empty if nothing was found.
-/

namespace MtpSync

variable {β : Type}

/-! ## §1 The dialog -/

/-- How SQLite lays tables out in a file, and what it makes of a file it opens. -/
structure SqliteFormat (β : Type) where
  bytes : SqliteDB → List β
  parse : List β → DbFile SqliteDB
  parse_bytes : ∀ d, parse (bytes d) = .holds d
  parse_nil : parse [] = .blank

/-- The bytes of a file. -/
def SqliteFormat.fileBytes (fmt : SqliteFormat β) : DbFile SqliteDB → Option (List β)
  | .missing => none
  | .blank => some []
  | .holds d => some (fmt.bytes d)

/-- `CWPD_MTP_dataDlg`: what the workers read and write, and what is outside the program. -/
structure Dlg (β : Type) where
  /-- the temporary file `gFilePath`, the server and the queue -/
  world : World
  /-- the phones, by device id -/
  phone : String → Phone β
  /-- the folder `backUp`, by file name -/
  backUp : String → DbFile SqliteDB
  /-- `m_fileName`, without and with its type -/
  m_fileName : String
  strType : String
  gDirID : String
  gFileID : String
  m_clearFlag : Bool
  m_copyName : String
  m_clearDeviceID : String

/-- A call on the temporary file, the server and the queue. -/
def onWorld {α : Type} (m : Act World α) : Act (Dlg β) α :=
  m.zoom Dlg.world fun w s => { s with world := w }

/-- A call on the phone `strDevID`. -/
def onPhone {α : Type} (strDevID : String) (m : Act (Phone β) α) : Act (Dlg β) α :=
  m.zoom (fun s => s.phone strDevID)
    fun p s => { s with phone := Function.update s.phone strDevID p }

/-- The dialog with another temporary file. -/
def Dlg.setFile (f : DbFile SqliteDB) (s : Dlg β) : Dlg β :=
  { s with world := { s.world with sq := { s.world.sq with file := f } } }

/-- The temporary file, as a push reads it. -/
def Dlg.localFile (fmt : SqliteFormat β) (s : Dlg β) : LocalFile β where
  fileName := s.m_fileName
  fileExt := s.strType
  bytes := fmt.fileBytes s.world.sq.file

/-! ## §2 The pull -/

/-- What `OpenDevice` returns. -/
inductive OpenDeviceRc where
  | opened
  /-- `S_OK` and no device -/
  | noDevice
  /-- an error and no device; `!OpenDevice(…)` is false then -/
  | failed
  deriving DecidableEq

/-- What `TransforDataFromDevice` does: it copies the object, or leaves some file behind. -/
inductive TransforRc where
  | copies
  | leaves (f : DbFile SqliteDB)

/-- What the calls before a device is used return. -/
structure ConnectRc where
  /-- the device selected in the combo box, if one is -/
  strDevID : Option String
  OpenDevice : OpenDeviceRc
  Content : Bool
  /-- the folder and the file found -/
  dirID : String
  fileID : String

/-- Open the device, look the file up and keep the identifiers. -/
def connect (rc : ConnectRc) (strDevID : String) : Act (Dlg β) (Option String) := do
  Act.modify fun s => { s with gDirID := "", gFileID := "" }
  match rc.OpenDevice with
  | .noDevice => pure none
  | .failed => Act.halt .undefined
  | .opened =>
    if rc.Content = false then pure none
    else if rc.dirID = "" || rc.fileID = "" then pure none
    else do
      Act.modify fun s => { s with gDirID := rc.dirID, gFileID := rc.fileID }
      pure (some strDevID)

/-- What the calls of `BeginPhoneToPc` return. -/
structure PhoneToPcRc where
  connect : ConnectRc
  /-- `DeleteFile` of the temporary file -/
  DeleteFile : Bool
  transfor : TransforRc
  /-- the time, as the name of the backup -/
  strName : String
  CopyFile : Bool

/-- Every call of a connection succeeds. -/
def ConnectRc.allOk : ConnectRc where
  strDevID := some "dev"
  OpenDevice := .opened
  Content := true
  dirID := "dir"
  fileID := "o1"

/-- Every call of a pull succeeds. -/
def PhoneToPcRc.allOk (strName : String) : PhoneToPcRc where
  connect := ConnectRc.allOk
  DeleteFile := true
  transfor := .copies
  strName := strName
  CopyFile := true

/-- `TransforDataFromDevice`. -/
def transforDataFromDevice (fmt : SqliteFormat β) (rc : TransforRc) (strDevID fileID : String) :
    Act (Dlg β) Unit :=
  Act.modify fun s =>
    match rc with
    | .copies =>
      match (s.phone strDevID).objects.find? fun o => o.id = fileID with
      | some o => s.setFile (fmt.parse o.bytes)
      | none => s
    | .leaves f => s.setFile f

/-- `CopyFile` of the temporary file into the folder `backUp`. -/
def copyToBackUp (ok : Bool) (strName : String) (s : Dlg β) : Dlg β :=
  if ok && s.world.sq.file.pathFileExists then
    { s with backUp := Function.update s.backUp strName s.world.sq.file }
  else s

/-- `BeginPhoneToPc`: the device, if it returns `TRUE`. -/
def beginPhoneToPc (fmt : SqliteFormat β) (rc : PhoneToPcRc) : Act (Dlg β) (Option String) :=
  match rc.connect.strDevID with
  | none => pure none
  | some strDevID => do
    Act.modify fun s => if rc.DeleteFile then s.setFile .missing else s
    match ← connect rc.connect strDevID with
    | none => pure none
    | some strDevID => do
      transforDataFromDevice fmt rc.transfor strDevID rc.connect.fileID
      Act.modify (copyToBackUp rc.CopyFile rc.strName)
      -- the clear flag is consumed only here, past every early return
      Act.modify fun s =>
        if s.m_clearFlag then
          { s with m_copyName := rc.strName, m_clearDeviceID := strDevID, m_clearFlag := false }
        else { s with m_clearDeviceID := "", m_copyName := "" }
      pure (some strDevID)

/-! ## §3 The two pushes -/

/-- What the calls of a push return. -/
structure PushRc where
  delete : DeleteRc
  transfer : TransferRc
  /-- `DeleteFile` of the temporary file -/
  DeleteFile : Bool

/-- `BeginPcToPhone`. -/
def beginPcToPhone (fmt : SqliteFormat β) (rc : PushRc) (strDevID : String) :
    Act (Dlg β) Bool := do
  let s ← Act.read
  let ret ← onPhone strDevID <|
    deleteThenTransfer rc.delete rc.transfer s.gDirID s.gFileID (s.localFile fmt)
  Act.modify fun s => if rc.DeleteFile then s.setFile .missing else s
  pure ret

/-- What the calls of `BeginRebackData` return. -/
structure RebackRc where
  CopyFile : Bool
  connect : ConnectRc
  push : PushRc

/-- `BeginRebackData`, from `开始回滚` on. -/
def rebackPush (fmt : SqliteFormat β) (rc : PushRc) (strDevID : String) :
    Act (Dlg β) Bool := do
  let s ← Act.read
  onPhone strDevID <|
    deleteThenTransfer rc.delete rc.transfer s.gDirID s.gFileID (s.localFile fmt)

/-- The checks of `BeginRebackData`: the device, if it gets to pushing the backup. -/
def rebackChecks (rc : RebackRc) : Act (Dlg β) (Option String) := do
  let s ← Act.read
  let backup := s.backUp s.m_copyName
  if !backup.pathFileExists then pure none
  else if !rc.CopyFile then pure none
  else do
    Act.modify (Dlg.setFile backup)
    match rc.connect.strDevID with
    | none => pure none
    | some strDevID =>
      if strDevID ≠ s.m_clearDeviceID then pure none else connect rc.connect strDevID

/-- `BeginRebackData`, of the backup `m_copyName`. -/
def beginRebackData (fmt : SqliteFormat β) (rc : RebackRc) : Act (Dlg β) Bool := do
  match ← rebackChecks rc with
  | none => pure false
  | some strDevID => rebackPush fmt rc.push strDevID

/-! ## §4 A push leaves a complete file -/

/-- The result of a call of the dialog, with what it leaves on one phone. -/
def onePhone {α : Type} (strDevID : String) (o : Except Halt α × Dlg β) :
    Except Halt α × Phone β := (o.1, o.2.phone strDevID)

theorem onPhone_run {α : Type} (strDevID : String) (m : Act (Phone β) α) (s : Dlg β) :
    (onPhone strDevID m).run s =
      ((m.run (s.phone strDevID)).1,
        { s with phone := Function.update s.phone strDevID (m.run (s.phone strDevID)).2 }) :=
  rfl

/-- What is done on a phone is what is found there. -/
private theorem onePhone_onPhone {α : Type} (strDevID : String) (m : Act (Phone β) α)
    (s : Dlg β) : onePhone strDevID ((onPhone strDevID m).run s) = m.run (s.phone strDevID) := by
  simp [onPhone_run, onePhone]

/-- Deleting the temporary file changes neither the answer nor the phone. -/
private theorem onePhone_beginPcToPhone (fmt : SqliteFormat β) (rc : PushRc)
    (strDevID : String) (s : Dlg β) :
    onePhone strDevID ((beginPcToPhone fmt rc strDevID).run s) =
      (deleteThenTransfer rc.delete rc.transfer s.gDirID s.gFileID (s.localFile fmt)).run
        (s.phone strDevID) := by
  rw [← onePhone_onPhone strDevID _ s]
  rw [beginPcToPhone, Act.bind_run_ok (Act.read_run s)]
  cases hpush : (onPhone strDevID (deleteThenTransfer rc.delete rc.transfer s.gDirID s.gFileID
      (s.localFile fmt))).run s with
  | mk result s' =>
    cases result with
    | error e =>
      rw [Act.bind_run_error hpush]
    | ok ret =>
      rw [Act.bind_run_ok hpush]
      cases hdel : rc.DeleteFile with
      | true => rfl
      | false => rfl

/-- **A push leaves a complete file**, in `BeginPcToPhone` and at the end of
`BeginRebackData`, exactly when it copies and commits everything (or the folder had the file
anyway), or fails short of that with nothing deleted. -/
theorem push_leavesComplete_iff (fmt : SqliteFormat β) (rc : PushRc) (strDevID : String)
    (s : Dlg β) :
    (LeavesComplete s.gDirID s.gFileID (s.localFile fmt) (s.phone strDevID)
        (onePhone strDevID ((beginPcToPhone fmt rc strDevID).run s)) ↔
      PushComplete rc.delete rc.transfer s.gDirID s.gFileID (s.localFile fmt)
        (s.phone strDevID)) ∧
    (LeavesComplete s.gDirID s.gFileID (s.localFile fmt) (s.phone strDevID)
        (onePhone strDevID ((rebackPush fmt rc strDevID).run s)) ↔
      PushComplete rc.delete rc.transfer s.gDirID s.gFileID (s.localFile fmt)
        (s.phone strDevID)) := by
  have hiff := deleteThenTransfer_leavesComplete_iff rc.delete rc.transfer s.gDirID s.gFileID
    (s.localFile fmt) (s.phone strDevID)
  refine ⟨?_, ?_⟩
  · rw [onePhone_beginPcToPhone]
    exact hiff
  · rw [rebackPush, Act.bind_run_ok (Act.read_run s), onePhone_onPhone]
    exact hiff

/-- A format with one byte per database. -/
def SqliteFormat.single : SqliteFormat SqliteDB where
  bytes d := [d]
  parse
    | [d] => .holds d
    | _ => .blank
  parse_bytes _ := rfl
  parse_nil := rfl

/-- Every call of a push succeeds. -/
def PushRc.allOk : PushRc where
  delete := ⟨true, true, true, true, .S_OK⟩
  transfer :=
    { Content := true
      CreateStreamOnFile := true
      properties := ⟨true, true, true, true, true, true, true, true⟩
      CreateObject := true
      newObjectID := "o2"
      optimalTransferSizeBytes := 1
      QueryInterface := true
      copy := ⟨true, fun _ => true, fun _ => some 1⟩
      Commit := true }
  DeleteFile := true

/-- Every call of a push succeeds, except `Commit`. -/
def PushRc.commitFails : PushRc :=
  { PushRc.allOk with transfer := { PushRc.allOk.transfer with Commit := false } }

/-- Every call of a push succeeds, except that it cannot get at the phone's content. -/
def PushRc.noContent : PushRc :=
  { PushRc.allOk with transfer := { PushRc.allOk.transfer with Content := false } }

/-- A phone with its database in folder `dir`, and the temporary file to push. -/
def Dlg.pushing : Dlg SqliteDB where
  world := ⟨⟨.holds SqliteDB.empty, none, false, true⟩, ⟨MysqlDB.empty, []⟩, []⟩
  phone _ := ⟨[⟨"o1", ⟨"dir", 1, "phone.db", "phone"⟩, [SqliteDB.empty], true⟩]⟩
  backUp _ := .missing
  m_fileName := "phone"
  strType := ".db"
  gDirID := "dir"
  gFileID := "o1"
  m_clearFlag := false
  m_copyName := ""
  m_clearDeviceID := ""

/-- `Commit` fails: the answer is `TRUE`, and the phone has no database left. -/
theorem failed_commit_loses_file :
    ¬LeavesComplete "dir" "o1" (Dlg.pushing.localFile SqliteFormat.single)
      (Dlg.pushing.phone "dev")
      (onePhone "dev"
        ((beginPcToPhone SqliteFormat.single PushRc.commitFails "dev").run Dlg.pushing)) := by
  rw [onePhone_beginPcToPhone]
  intro h
  rcases (deleteThenTransfer_leavesComplete_iff _ _ _ _ _ _).1 h with
    ⟨bytes, -, -, ⟨hcommit, -⟩ | ⟨o, ho, -⟩⟩ | ⟨-, hdel, -⟩
  · cases hcommit
  · have hdel : PushRc.commitFails.delete.deletes = true := rfl
    rw [Phone.afterDelete, if_pos hdel, Phone.mem_delete] at ho
    obtain ⟨hmem, hid⟩ := ho
    rw [List.mem_singleton.1 hmem] at hid
    exact hid rfl
  · cases hdel

end MtpSync
