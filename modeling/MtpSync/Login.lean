import MtpSync.Lib.Run
import MtpSync.LogDlg
import MtpSync.MyDataBase
import MtpSync.Verity.MyVerify

/-!
# From the start to the main window

`InitInstance` opens the main window behind two dialogs: `CstartExeDlg`, if `VerityExe` does not
find a license, and `CLogDlg`, which compares the name and the password that are typed with the
users it has read from the server, and remembers a login in `config.ini`.

- §1 passwords and users
- §2 the program from start to start
- §3 what a step does
- §4 who gets to the main window
- §5 what is remembered
-/

namespace MtpSync

open Md5Standard (hex)

/-! ## §1 Passwords and users -/

/-- `EncryptStrMD5`; the MD5 object is built on whatever is in its memory. -/
def MyVerify.EncryptStrMD5 (memory : MD5) (strInput : ByteText) : Option ByteText :=
  if strInput.isEmpty then some strInput
  else do
    let md ← memory.reset.update strInput.cstr
    let (digits, _) ← md.toString
    some (.ofString digits)

/-- `user_infoStruct`. -/
structure UserInfo where
  m_strName : String
  m_strPwd : String
  m_strAreas : String
  m_strPwk : String
  m_strRealName : String
  deriving DecidableEq

/-- The rows of the query of `CLogDlg::OnInitDialog`. -/
def selectUserInfo (db : MysqlDB) : List (SqlRow SysUserCol) :=
  db.sys_user.select fun r => (r.col .SynchronState).eq "0" || (r.col .SynchronState).eq "1"

/-- A row as the dialog keeps it. -/
def UserInfo.ofRow (r : SqlRow SysUserCol) : UserInfo where
  m_strName := (r.col .user_name).read
  m_strPwd := (r.col .password).read
  m_strAreas := (r.col .data_areas).read
  m_strPwk := (r.col .pwd_key).read
  m_strRealName := (r.col .real_name).read

/-- `m_userInfo` after a query that succeeds. -/
def userInfos (db : MysqlDB) : List UserInfo := (selectUserInfo db).map UserInfo.ofRow

/-- How `OnBnClickedButtonLogin` ends. -/
inductive LoginAnswer where
  /-- `请输入完整用户名,和密码` -/
  | incomplete
  /-- `密码错误` -/
  | wrongPassword
  /-- `未找到用户信息` -/
  | notFound
  /-- `OnOK` -/
  | accepted (info : UserInfo)
  deriving DecidableEq

/-- The program's code page, and what the file system and the character tables do. -/
structure Env where
  p : SqlText.CodePage
  /-- every character becomes some bytes -/
  codes_ne : ∀ c, p.codes c ≠ []
  os : Profile
  /-- `MultiByteToWideChar` -/
  wide : ByteText → String
  wide_ascii : ∀ s : String, (∀ c ∈ s.toList, c.toNat < 128) → wide (.ofString s) = s
  iswspace : Char → Bool

namespace Env

variable (env : Env)

/-- `CpublicFun::UnicodeToAsc`, as a `CStringA`. -/
def UnicodeToAsc (strUnicode : String) : ByteText :=
  (MtpSync.UnicodeToAsc env.p strUnicode).map UInt8.toBitVec

/-- `CString::Trim`. -/
def Trim (s : String) : String :=
  .ofList ((s.toList.dropWhile env.iswspace).rdropWhile env.iswspace)

/-- The loop of `OnBnClickedButtonLogin`: the first user of the name decides. -/
def loginLoop (memory : MD5) (strName strPwd : String) : List UserInfo → Option LoginAnswer
  | [] => some .notFound
  | info :: rest =>
    if info.m_strName = strName then do
      let strPwdA ← MyVerify.EncryptStrMD5 memory (env.UnicodeToAsc (strPwd ++ info.m_strPwk))
      if info.m_strPwd = env.wide strPwdA then some (.accepted info) else some .wrongPassword
    else loginLoop memory strName strPwd rest

/-- The checks of `OnBnClickedButtonLogin`. -/
def checkLogin (memory : MD5) (strName strPwd : String) (m_userInfo : List UserInfo) :
    Option LoginAnswer :=
  if strName.isEmpty || strPwd.isEmpty then some .incomplete
  else env.loginLoop memory strName strPwd m_userInfo

end Env

/-- The password is the one of the user: its stored text is the digest of the password and the
user's key, in the bytes of the code page, as lower-case hexadecimal digits. -/
def UserInfo.HasPassword (env : Env) (info : UserInfo) (strPwd : String) : Prop :=
  info.m_strPwd = hex (Md5Standard.digest (env.UnicodeToAsc (strPwd ++ info.m_strPwk)).cstr)

instance (env : Env) (info : UserInfo) (strPwd : String) :
    Decidable (info.HasPassword env strPwd) :=
  inferInstanceAs (Decidable (_ = _))

/-! ## §2 The program from start to start -/

/-- How the calls in front of the dialogs end, and what `VerityExe` finds. -/
structure InitRc where
  InitLogRecord : Bool
  /-- `GetLastError` after `CreateEvent` -/
  err : ℕ
  CoInitializeEx : Bool
  memory : MD5
  present : List Adapter
  opens : Bool
  /-- the adapters `ReturnPcMac` finds -/
  presentMac : List Adapter

/-- What the two calls of `OnBnClickedButtonStart` find. -/
structure StartRc where
  memory : MD5
  present : List Adapter
  file : MyVerify.FileRc
  memoryVerity : MD5
  presentVerity : List Adapter
  opens : Bool

/-- How the calls of `CLogDlg::OnInitDialog` end, and what is on the server then. -/
structure LogDlgRc where
  InitMyDataBase : Bool
  Select : SelectRc
  db : MysqlDB

/-- What happens to the program. -/
inductive AppEvent where
  | InitInstance (rc : InitRc)
  | OnBnClickedButtonStart (strInput : String) (rc : StartRc)
  | OnInitDialog (rc : LogDlgRc)
  | OnBnClickedButtonLogin (strName strPwd : String) (memory : MD5)
  | OnBnClickedButtonClear (n : ℤ) (strName : String)
  /-- a dialog is closed, and the program ends -/
  | close
  /-- someone else writes or deletes the license file -/
  | license (file : Option ByteText)

/-- `CLogDlg`: the users of the server and the saved logins. -/
structure CLogDlg where
  m_userInfo : List UserInfo
  saved : SavedLogins

/-- Which window there is. -/
inductive AppWindow where
  /-- the program does not run -/
  | none
  | startDlg
  /-- `CLogDlg` before its `OnInitDialog` -/
  | logDlgOpens
  | logDlg (dlg : CLogDlg)
  | mainDlg (strUserArea strUserName : String)

/-- The program, with the two files that stay. -/
structure App where
  window : AppWindow
  verify : MyVerify
  license : Option ByteText
  user : UserSection

namespace App

variable (env : Env)

/-- The license file, if it can be opened. -/
def opened (opens : Bool) (s : App) : Option ByteText := if opens then s.license else none

/-- `InitInstance` up to the first dialog. -/
def InitInstance (rc : InitRc) (s : App) : Option App :=
  if !rc.InitLogRecord || rc.err == 183 || !rc.CoInitializeEx then
    some { s with verify := ⟨[]⟩ }
  else do
    let (registered, verify) ←
      MyVerify.VerityExe env.p rc.memory rc.present (s.opened rc.opens) ⟨[]⟩
    if registered then some { s with window := .logDlgOpens, verify }
    else some { s with window := .startDlg, verify := (verify.ReturnPcMac rc.presentMac).2 }

/-- `CstartExeDlg::OnBnClickedButtonStart`; the dialog stays if a `CFileException` gets out. -/
def OnBnClickedButtonStart (strInput : String) (rc : StartRc) (s : App) : Option App :=
  let strInput := env.Trim strInput
  if strInput.isEmpty then some s
  else do
    let (answer, license, verify) ← MyVerify.WriteAndVerityExe rc.memory rc.present
      (env.UnicodeToAsc strInput) rc.file s.license s.verify
    let s : App := { s with license, verify }
    if answer = .returned true then
      let (registered, verify) ← MyVerify.VerityExe env.p rc.memoryVerity rc.presentVerity
        (s.opened rc.opens) s.verify
      if registered then some { s with window := .logDlgOpens, verify }
      else some { s with verify }
    else some s

/-- `CLogDlg::OnInitDialog`. -/
def OnInitDialog (rc : LogDlgRc) (s : App) : Option App :=
  let dlg : CLogDlg := ⟨[], initConfig env.os s.user⟩
  if rc.InitMyDataBase then
    match rc.Select with
    | .ok => some { s with window := .logDlg { dlg with m_userInfo := userInfos rc.db } }
    | .queryFails => some { s with window := .logDlg dlg }
    | .storeFails => none
  else some { s with window := .logDlg dlg }

/-- `CLogDlg::OnBnClickedButtonLogin`, and `InitInstance` behind a login that is accepted. -/
def OnBnClickedButtonLogin (dlg : CLogDlg) (strName strPwd : String) (memory : MD5) (s : App) :
    Option App := do
  match ← env.checkLogin memory strName strPwd dlg.m_userInfo with
  | .accepted info =>
    some { s with
      window := .mainDlg info.m_strAreas info.m_strRealName
      user := recordUser dlg.saved strName strPwd s.user }
  | _ => some s

/-- One event. -/
def step (s : App) (e : AppEvent) : Option App :=
  match s.window, e with
  | _, .license file => some { s with license := file }
  | .none, .InitInstance rc => s.InitInstance env rc
  | .startDlg, .OnBnClickedButtonStart strInput rc => s.OnBnClickedButtonStart env strInput rc
  | .logDlgOpens, .OnInitDialog rc => s.OnInitDialog env rc
  | .logDlg dlg, .OnBnClickedButtonLogin strName strPwd memory =>
    s.OnBnClickedButtonLogin env dlg strName strPwd memory
  | .logDlg dlg, .OnBnClickedButtonClear n strName =>
    let (saved, user) := onBnClickedButtonClear dlg.saved n strName s.user
    some { s with window := .logDlg { dlg with saved }, user }
  | .startDlg, .close => some { s with window := .none }
  | .logDlg _, .close => some { s with window := .none }
  | .mainDlg _ _, .close => some { s with window := .none }
  | _, _ => none

end App

/-! ## §3 What a step does -/

/-- The digest of a text that fits a `CStringA`. -/
theorem MyVerify.EncryptStrMD5_eq (memory : MD5) {strInput : ByteText} (hne : strInput ≠ [])
    (hlen : strInput.length < 2 ^ 31) :
    EncryptStrMD5 memory strInput = some (.ofString (hex (Md5Standard.digest strInput.cstr))) := by
  have hshort : ∀ s ∈ [strInput.cstr], s.length < 2 ^ 32 - 64 := by
    intro s hs
    have hle : strInput.cstr.length ≤ strInput.length := (List.takeWhile_sublist _).length_le
    rw [List.mem_singleton.1 hs]
    omega
  obtain ⟨md', h⟩ := MD5.toString_digest memory hshort
  -- one `update` and one `toString`
  simp only [List.foldlM_cons, List.foldlM_nil, List.flatten_singleton, Option.bind_eq_bind,
    Option.bind_assoc] at h
  obtain ⟨md, hupdate, h⟩ := Option.bind_eq_some_iff.1 h
  simp only [EncryptStrMD5, List.isEmpty_iff, hne, if_false, hupdate, Option.bind_eq_bind,
    Option.bind_some]
  simp only [Option.pure_def, Option.bind_some] at h
  rw [h, Option.bind_some]

namespace Env

variable {env : Env}

/-- A text that is typed does not become empty. -/
theorem UnicodeToAsc_ne_nil {strPwd : String} (hne : strPwd ≠ "") (hNUL : charNUL ∉ strPwd.toList)
    (rest : String) : env.UnicodeToAsc (strPwd ++ rest) ≠ [] := by
  obtain ⟨c, cs, hcs⟩ : ∃ c cs, strPwd.toList = c :: cs :=
    List.exists_cons_of_ne_nil (mt String.toList_eq_nil_iff.1 hne)
  have hc : c ≠ charNUL := by
    rintro rfl
    exact hNUL (hcs ▸ List.mem_cons_self)
  obtain ⟨g, gs, hg⟩ := List.exists_cons_of_ne_nil (env.codes_ne c)
  have hb : g.bytes ≠ [] := by
    cases g <;> exact List.cons_ne_nil _ _
  -- the first byte of the first character
  simp [Env.UnicodeToAsc, MtpSync.UnicodeToAsc, terminated, hcs, hc, SqlText.CodePage.bytes,
    SqlText.CodePage.convert, hg, hb]

/-- The password and the key of every user fit a `CStringA` together. -/
def FitsCString (env : Env) (strPwd : String) (infos : List UserInfo) : Prop :=
  charNUL ∉ strPwd.toList ∧
    ∀ info ∈ infos, (env.UnicodeToAsc (strPwd ++ info.m_strPwk)).length < 2 ^ 31

instance (strPwd : String) (infos : List UserInfo) : Decidable (env.FitsCString strPwd infos) :=
  inferInstanceAs (Decidable (_ ∧ _))

/-- The digits of a digest are the same as a wide text. -/
private theorem wide_hex (bytes : List Byte) : env.wide (.ofString (hex bytes)) = hex bytes :=
  env.wide_ascii _ fun c hc => (ByteText.hex_ascii bytes c hc).2

/-- What the loop answers, from the first user of the name. -/
def answerOf (env : Env) (strPwd : String) : Option UserInfo → LoginAnswer
  | none => .notFound
  | some info => if info.HasPassword env strPwd then .accepted info else .wrongPassword

private theorem loginLoop_eq (memory : MD5) (strName : String) {strPwd : String}
    {infos : List UserInfo} (hne : strPwd ≠ "") (hfits : env.FitsCString strPwd infos) :
    env.loginLoop memory strName strPwd infos =
      some (env.answerOf strPwd (infos.find? fun info => info.m_strName = strName)) := by
  induction infos with
  | nil => rfl
  | cons info rest ih =>
    obtain ⟨hNUL, hlen⟩ := hfits
    by_cases hname : info.m_strName = strName
    · have htext : env.UnicodeToAsc (strPwd ++ info.m_strPwk) ≠ [] :=
        UnicodeToAsc_ne_nil hne hNUL info.m_strPwk
      have hdigest := MyVerify.EncryptStrMD5_eq memory htext (hlen info List.mem_cons_self)
      simp only [loginLoop, hname, if_true, hdigest, Option.bind_eq_bind, Option.bind_some,
        wide_hex, List.find?_cons_of_pos, decide_true, answerOf, UserInfo.HasPassword]
      split <;> rename_i hpwd <;> simp [hpwd]
    · -- another user's row is passed over
      rw [loginLoop, if_neg hname, List.find?_cons_of_neg (by simpa using hname)]
      exact ih ⟨hNUL, fun i hi => hlen i (List.mem_cons_of_mem _ hi)⟩

/-- **A login is accepted** if the first user of the name has the password. -/
theorem checkLogin_accepted_iff {memory : MD5} {strName strPwd : String} {infos : List UserInfo}
    (hfits : env.FitsCString strPwd infos) {info : UserInfo} :
    env.checkLogin memory strName strPwd infos = some (.accepted info) ↔
      (strName ≠ "" ∧ strPwd ≠ "") ∧
        (infos.find? fun info => info.m_strName = strName) = some info ∧
        info.HasPassword env strPwd := by
  unfold checkLogin
  by_cases hne : strName ≠ "" ∧ strPwd ≠ ""
  · rw [if_neg (by simpa using hne), loginLoop_eq memory strName hne.2 hfits]
    cases hfind : infos.find? fun info => info.m_strName = strName with
    | none => simp [answerOf]
    | some first =>
      rw [answerOf]
      by_cases hpwd : first.HasPassword env strPwd
      · rw [if_pos hpwd]
        simp only [Option.some.injEq, LoginAnswer.accepted.injEq, hne, true_and, ne_eq,
          not_false_eq_true]
        exact ⟨fun h => ⟨h, h ▸ hpwd⟩, fun h => h.1⟩
      · rw [if_neg hpwd]
        simp only [Option.some.injEq, reduceCtorEq, false_iff]
        rintro ⟨-, rfl, h⟩
        exact hpwd h
  · have hempty : (strName.isEmpty || strPwd.isEmpty) = true := by
      simp only [Bool.or_eq_true, String.isEmpty_iff]
      tauto
    rw [if_pos hempty]
    simp [hne]

end Env

/-- The users the dialog has read. -/
def LogDlgRc.users (rc : LogDlgRc) : List UserInfo :=
  if rc.InitMyDataBase = true ∧ rc.Select = .ok then userInfos rc.db else []

/-- The addresses of the adapters that an event sees. -/
def AppEvent.macs : AppEvent → List Mac
  | .InitInstance rc => (rc.present ++ rc.presentMac).map Adapter.mac
  | .OnBnClickedButtonStart _ rc => (rc.present ++ rc.presentVerity).map Adapter.mac
  | _ => []

namespace App

/-- The texts that are typed fit their buffers. -/
def Fits (env : Env) (s : App) : AppEvent → Prop
  | .OnBnClickedButtonLogin _ strPwd _ =>
    ∀ dlg, s.window = .logDlg dlg → env.FitsCString strPwd dlg.m_userInfo
  | _ => True

/-- The license file has the code of an address the singleton knows. -/
def Licensed (verify : MyVerify) (file : Option ByteText) : Prop :=
  ∃ content, file = some content ∧ Registers verify.m_strMac (MyVerify.readLicense content).strip

/-- The steps of the program. -/
inductive Does (env : Env) (s : App) : AppEvent → App → Prop where
  | license (file : Option ByteText) : Does env s (.license file) { s with license := file }
  /-- `InitInstance` returns before it opens a window -/
  | returned (rc : InitRc) (hw : s.window = .none) :
    Does env s (.InitInstance rc) { s with verify := ⟨[]⟩ }
  | registered (rc : InitRc) (hw : s.window = .none) (verify : MyVerify)
    (hmacs : verify.m_strMac ⊆ (AppEvent.InitInstance rc).macs)
    (hlicensed : Licensed verify s.license) :
    Does env s (.InitInstance rc) { s with window := .logDlgOpens, verify }
  | unregistered (rc : InitRc) (hw : s.window = .none) (verify : MyVerify)
    (hmacs : verify.m_strMac ⊆ (AppEvent.InitInstance rc).macs) :
    Does env s (.InitInstance rc) { s with window := .startDlg, verify }
  /-- the dialog for the license stays -/
  | asked (strInput : String) (rc : StartRc) (hw : s.window = .startDlg) (verify : MyVerify)
    (hmacs : verify.m_strMac ⊆
      s.verify.m_strMac ++ (AppEvent.OnBnClickedButtonStart strInput rc).macs)
    (license : Option ByteText) :
    Does env s (.OnBnClickedButtonStart strInput rc) { s with license, verify }
  | answered (strInput : String) (rc : StartRc) (hw : s.window = .startDlg) (verify : MyVerify)
    (hmacs : verify.m_strMac ⊆
      s.verify.m_strMac ++ (AppEvent.OnBnClickedButtonStart strInput rc).macs)
    (license : Option ByteText) (hlicensed : Licensed verify license) :
    Does env s (.OnBnClickedButtonStart strInput rc)
      { s with window := .logDlgOpens, license, verify }
  | shown (rc : LogDlgRc) (hw : s.window = .logDlgOpens) :
    Does env s (.OnInitDialog rc) { s with window := .logDlg ⟨rc.users, initConfig env.os s.user⟩ }
  | refused (dlg : CLogDlg) (hw : s.window = .logDlg dlg) (strName strPwd : String) (memory : MD5) :
    Does env s (.OnBnClickedButtonLogin strName strPwd memory) s
  | accepted (dlg : CLogDlg) (hw : s.window = .logDlg dlg) (strName strPwd : String)
    (memory : MD5) (info : UserInfo)
    (hfind : (dlg.m_userInfo.find? fun info => info.m_strName = strName) = some info)
    (hpwd : info.HasPassword env strPwd) :
    Does env s (.OnBnClickedButtonLogin strName strPwd memory)
      { s with
        window := .mainDlg info.m_strAreas info.m_strRealName
        user := recordUser dlg.saved strName strPwd s.user }
  | cleared (dlg : CLogDlg) (hw : s.window = .logDlg dlg) (n : ℤ) (strName : String) :
    Does env s (.OnBnClickedButtonClear n strName)
      { s with
        window := .logDlg
          { dlg with saved := (onBnClickedButtonClear dlg.saved n strName s.user).1 }
        user := (onBnClickedButtonClear dlg.saved n strName s.user).2 }
  | close (hw : s.window ≠ .none) : Does env s .close { s with window := .none }

section Steps

variable {env : Env} {s s' : App}

/-- What `VerityExe` accepts is in the license file. -/
private theorem licensed_of_verityExe {memory : MD5} {present : List Adapter} {opens : Bool}
    {verify verify' : MyVerify} {registered : Bool}
    (h : MyVerify.VerityExe env.p memory present (s.opened opens) verify =
      some (registered, verify')) :
    verify' = ⟨verify.known present⟩ ∧ (registered = true → Licensed verify' s.license) := by
  obtain ⟨retBool, heq, hret⟩ := MyVerify.VerityExe_eq env.p memory present (s.opened opens) verify
  rw [heq] at h
  cases h
  refine ⟨rfl, fun hregistered => ?_⟩
  obtain ⟨-, content, hfile, hreg⟩ := hret.1 hregistered
  refine ⟨content, ?_, hreg⟩
  -- the file was opened
  rw [opened] at hfile
  split at hfile
  · exact hfile
  · cases hfile

private theorem does_InitInstance {rc : InitRc} (hw : s.window = .none)
    (h : s.InitInstance env rc = some s') : Does env s (.InitInstance rc) s' := by
  unfold InitInstance at h
  split at h
  · cases h
    exact .returned rc hw
  · obtain ⟨⟨registered, verify⟩, hverity, h⟩ := Option.bind_eq_some_iff.1 h
    obtain ⟨rfl, hlicensed⟩ := licensed_of_verityExe hverity
    dsimp only at h
    split at h
    · rename_i hregistered
      cases h
      refine .registered rc hw _ (fun m hm => ?_) (hlicensed hregistered)
      rw [MyVerify.known, List.nil_append] at hm
      exact List.map_subset _ (List.subset_append_left _ _) hm
    · -- `CstartExeDlg` asks for the address it shows
      cases h
      refine .unregistered rc hw _ fun m hm => ?_
      rw [AppEvent.macs, List.map_append]
      exact hm

private theorem does_OnBnClickedButtonStart {strInput : String} {rc : StartRc}
    (hw : s.window = .startDlg) (h : s.OnBnClickedButtonStart env strInput rc = some s') :
    Does env s (.OnBnClickedButtonStart strInput rc) s' := by
  have hpresent : s.verify.known rc.present ⊆
      s.verify.m_strMac ++ (AppEvent.OnBnClickedButtonStart strInput rc).macs := by
    rw [MyVerify.known, AppEvent.macs, List.map_append]
    intro m hm
    simp only [List.mem_append] at hm ⊢
    tauto
  unfold OnBnClickedButtonStart at h
  dsimp only at h
  split at h
  · cases h
    exact .asked strInput rc hw s.verify (List.subset_append_left _ _) s.license
  obtain ⟨⟨answer, license, verify⟩, hwrite, h⟩ := Option.bind_eq_some_iff.1 h
  obtain rfl : verify = ⟨s.verify.known rc.present⟩ := by
    rw [MyVerify.WriteAndVerityExe_eq] at hwrite
    split at hwrite <;> cases hwrite <;> rfl
  dsimp only at h
  split at h
  · obtain ⟨⟨registered, verify'⟩, hverity, h⟩ := Option.bind_eq_some_iff.1 h
    obtain ⟨rfl, hlicensed⟩ := licensed_of_verityExe hverity
    have hmacs : MyVerify.known ⟨s.verify.known rc.present⟩ rc.presentVerity ⊆
        s.verify.m_strMac ++ (AppEvent.OnBnClickedButtonStart strInput rc).macs := by
      rw [MyVerify.known, MyVerify.known, AppEvent.macs, List.map_append, List.append_assoc]
      exact List.Subset.refl _
    dsimp only at h
    split at h
    · rename_i hregistered
      cases h
      exact .answered strInput rc hw _ hmacs _ (hlicensed hregistered)
    · cases h
      exact .asked strInput rc hw _ hmacs _
  · cases h
    exact .asked strInput rc hw _ hpresent _

private theorem does_OnInitDialog {rc : LogDlgRc} (hw : s.window = .logDlgOpens)
    (h : s.OnInitDialog env rc = some s') : Does env s (.OnInitDialog rc) s' := by
  have hshown := @Does.shown env s rc hw
  unfold OnInitDialog at h
  rw [LogDlgRc.users] at hshown
  split at h
  · rename_i hinit
    cases hselect : rc.Select with
    | ok =>
      simp only [hselect] at h
      rw [if_pos ⟨hinit, hselect⟩] at hshown
      cases h
      exact hshown
    | queryFails =>
      simp only [hselect] at h
      rw [if_neg (by simp [hselect])] at hshown
      cases h
      exact hshown
    | storeFails =>
      simp only [hselect] at h
      cases h
  · rename_i hinit
    rw [if_neg fun hrc => hinit hrc.1] at hshown
    cases h
    exact hshown

private theorem does_OnBnClickedButtonLogin {dlg : CLogDlg} (hw : s.window = .logDlg dlg)
    {strName strPwd : String} {memory : MD5} (hfits : env.FitsCString strPwd dlg.m_userInfo)
    (h : s.OnBnClickedButtonLogin env dlg strName strPwd memory = some s') :
    Does env s (.OnBnClickedButtonLogin strName strPwd memory) s' := by
  obtain ⟨answer, hcheck, h⟩ := Option.bind_eq_some_iff.1 h
  cases answer with
  | accepted info =>
    obtain ⟨-, hfind, hpwd⟩ := (Env.checkLogin_accepted_iff hfits).1 hcheck
    cases h
    exact .accepted dlg hw strName strPwd memory info hfind hpwd
  | _ =>
    -- a message, and the dialog stays
    cases h
    exact .refused dlg hw strName strPwd memory

/-- **What a step can do.** -/
theorem does_of_step {e : AppEvent} (hfits : s.Fits env e) (h : s.step env e = some s') :
    Does env s e s' := by
  unfold step at h
  split at h
  · cases h
    exact .license _
  · rename_i hw
    exact does_InitInstance hw h
  · rename_i hw
    exact does_OnBnClickedButtonStart hw h
  · rename_i hw
    exact does_OnInitDialog hw h
  · rename_i hw
    exact does_OnBnClickedButtonLogin hw (hfits _ hw) h
  · rename_i hw
    cases h
    exact .cleared _ hw _ _
  · rename_i hw
    cases h
    exact .close (by simp [hw])
  · rename_i hw
    cases h
    exact .close (by simp [hw])
  · rename_i hw
    cases h
    exact .close (by simp [hw])
  · cases h

end Steps

/-! ## §4 Who gets to the main window -/

/-- The addresses seen since the program was started last, after one more event. -/
def macsAfter (macs : List Mac) : AppEvent → List Mac
  | .InitInstance rc => (AppEvent.InitInstance rc).macs
  | e => macs ++ e.macs

/-- The addresses of the adapters seen since the program was started last. -/
def macsSinceStart (es : List AppEvent) : List Mac := es.foldl macsAfter []

/-- An event neither starts nor ends the program. -/
def Inside : AppEvent → Prop
  | .InitInstance _ => False
  | .close => False
  | _ => True

/-- The events up to the login dialog: the license is found in the step `check`. -/
structure Opening where
  started : List AppEvent
  check : AppEvent
  asked : List AppEvent
  rc : LogDlgRc
  typed : List AppEvent

def Opening.events (o : Opening) : List AppEvent :=
  o.started ++ o.check :: (o.asked ++ .OnInitDialog o.rc :: o.typed)

/-- At the step `check` the license file had the code of an adapter seen since the start. -/
structure Opening.Valid (env : Env) (s : App) (o : Opening) : Prop where
  licensed : ∃ t, Run (App.step env) (App.Fits env) s (o.started ++ [o.check]) t ∧
    Licensed ⟨macsSinceStart (o.started ++ [o.check])⟩ t.license
  inside : ∀ e ∈ o.asked ++ o.typed, Inside e

section Runs

variable {env : Env} {s s' : App} {es : List AppEvent}

/-- The singleton knows no other addresses, unless it is an old one. -/
def KnownSinceStart (past : List AppEvent) (t : App) : Prop :=
  t.window ≠ .none → t.verify.m_strMac ⊆ macsSinceStart past

private theorem known_step {past : List AppEvent} {t t' : App} {e : AppEvent}
    (hpast : KnownSinceStart past t) (h : Does env t e t') :
    KnownSinceStart (past ++ [e]) t' := by
  have hsnoc : macsSinceStart (past ++ [e]) = macsAfter (macsSinceStart past) e := by
    simp [macsSinceStart]
  -- a step inside the program adds what it sees
  have hstay : t.window ≠ .none → t.verify.m_strMac ⊆ macsSinceStart past ++ e.macs :=
    fun hw => List.Subset.trans (hpast hw) (List.subset_append_left _ _)
  have hmore : ∀ verify : MyVerify, t.window = .startDlg →
      verify.m_strMac ⊆ t.verify.m_strMac ++ e.macs →
        verify.m_strMac ⊆ macsSinceStart past ++ e.macs := by
    intro verify hw hmacs
    refine List.Subset.trans hmacs (List.append_subset.2 ⟨hstay ?_, List.subset_append_right _ _⟩)
    simp [hw]
  unfold KnownSinceStart
  rw [hsnoc]
  cases h with
  | license file => exact hstay
  | returned rc hw => exact fun h => absurd hw h
  | registered rc hw verify hmacs => exact fun _ => hmacs
  | unregistered rc hw verify hmacs => exact fun _ => hmacs
  | asked strInput rc hw verify hmacs license => exact fun _ => hmore verify hw hmacs
  | answered strInput rc hw verify hmacs license => exact fun _ => hmore verify hw hmacs
  | shown rc hw => exact fun _ => hstay (by simp [hw])
  | refused dlg hw strName strPwd memory => exact hstay
  | accepted dlg hw strName strPwd memory info => exact fun _ => hstay (by simp [hw])
  | cleared dlg hw n strName => exact fun _ => hstay (by simp [hw])
  | close hw => exact fun h => absurd rfl h

private theorem known_run (hrun : Run (App.step env) (App.Fits env) s es s')
    (hs : s.window = .none) : KnownSinceStart es s' :=
  have hstart : KnownSinceStart [] s := fun hw => absurd hs hw
  hrun.history (fun _ _ _ _ hpast hok hstep => known_step hpast (does_of_step hok hstep)) hstart

private theorem Licensed.mono {verify : MyVerify} {macs : List Mac} {file : Option ByteText}
    (h : Licensed verify file) (hmacs : verify.m_strMac ⊆ macs) : Licensed ⟨macs⟩ file := by
  obtain ⟨content, hfile, m, hm, hcode⟩ := h
  exact ⟨content, hfile, m, hmacs hm, hcode⟩

/-- A run in which the program is open throughout neither starts nor ends it. -/
private theorem inside_of_open {P : App → Prop} (hopen : ∀ t, P t → t.window ≠ .none)
    (hrun : Run (App.step env) (fun t e => App.Fits env t e ∧ P t) s es s') (hs' : P s') :
    ∀ e ∈ es, Inside e := by
  induction hrun with
  | nil => exact fun e he => absurd he List.not_mem_nil
  | @cons s₀ s₁ s₂ e es hok hstep hrest ih =>
    have hs₁ : s₁.window ≠ .none := by
      cases hrest with
      | nil => exact hopen _ hs'
      | cons hok' => exact hopen _ hok'.2
    have hinside : Inside e := by
      cases does_of_step hok.1 hstep with
      | returned rc hw => exact absurd hw (hopen _ hok.2)
      | registered rc hw => exact absurd hw (hopen _ hok.2)
      | unregistered rc hw => exact absurd hw (hopen _ hok.2)
      | close hw => exact absurd rfl hs₁
      | _ => trivial
    exact List.forall_mem_cons.2 ⟨hinside, ih hs'⟩

/-- The login dialog is open, with these users. -/
def LoginOpen (infos : List UserInfo) (t : App) : Prop :=
  ∃ dlg, t.window = .logDlg dlg ∧ dlg.m_userInfo = infos

/-- **The login dialog opens on a computer with a license**, and it has the users that its
`OnInitDialog` has read. -/
theorem opening_of_loginOpen (hrun : Run (App.step env) (App.Fits env) s es s')
    (hs : s.window = .none) {infos : List UserInfo} (hs' : LoginOpen infos s') :
    ∃ o : Opening, o.events = es ∧ o.Valid env s ∧ o.rc.users = infos := by
  have hclosed : ¬LoginOpen infos s := by
    rintro ⟨dlg, hw, -⟩
    rw [hs] at hw
    cases hw
  -- the step that opens the dialog
  obtain ⟨before, e, typed, t, t', rfl, hbefore, ht, hok, hstep, ht', htyped⟩ :=
    hrun.entered hclosed hs'
  obtain ⟨rc, rfl, hw, rfl⟩ : ∃ rc, e = .OnInitDialog rc ∧ t.window = .logDlgOpens ∧
      rc.users = infos := by
    obtain ⟨dlg, hdlg, rfl⟩ := ht'
    cases does_of_step hok hstep with
    | shown rc hw =>
      cases hdlg
      exact ⟨rc, rfl, hw, rfl⟩
    | cleared dlg' hw n strName =>
      cases hdlg
      exact absurd ⟨dlg', hw, rfl⟩ ht
    | license file => exact absurd ⟨dlg, hdlg, rfl⟩ ht
    | refused dlg' hw strName strPwd memory => exact absurd ⟨dlg, hdlg, rfl⟩ ht
    | returned rc hw => exact absurd ⟨dlg, hdlg, rfl⟩ ht
    | asked strInput rc hw verify hmacs license => exact absurd ⟨dlg, hdlg, rfl⟩ ht
    | _ => cases hdlg
  -- the step that finds the license
  obtain ⟨started, check, asked, u, u', rfl, hstarted, hu, hok', hstep', hu', hasked⟩ :=
    hbefore.entered (P := fun t => t.window = .logDlgOpens) (by simp [hs]) hw
  have hlicensed : Licensed u'.verify u'.license := by
    cases does_of_step hok' hstep' with
    | registered rc hw verify hmacs hlicensed => exact hlicensed
    | answered strInput rc hw verify hmacs license hlicensed => exact hlicensed
    | license file => exact absurd hu' hu
    | refused dlg hw strName strPwd memory => exact absurd hu' hu
    | returned rc hw => exact absurd hu' hu
    | asked strInput rc hw verify hmacs license => exact absurd hu' hu
    | _ => cases hu'
  have hcheck := hstarted.snoc hok' hstep'
  have hknown : u'.verify.m_strMac ⊆ macsSinceStart (started ++ [check]) :=
    known_run hcheck hs (by simp [hu'])
  refine ⟨⟨started, check, asked, rc, typed⟩, by simp [Opening.events],
    ⟨⟨u', hcheck, hlicensed.mono hknown⟩, ?_⟩, rfl⟩
  -- the program is not left in between
  have hasked := inside_of_open (fun t ht => by simp [ht]) hasked hw
  have htyped := inside_of_open (fun t ht => ?_) htyped hs'
  · exact fun e he => (List.mem_append.1 he).elim (hasked e) (htyped e)
  · obtain ⟨dlg, hdlg, -⟩ := ht
    simp [hdlg]

/-- The events of a login that opens the main window, and the user it is for. -/
structure Login where
  opening : Opening
  strName : String
  strPwd : String
  memory : MD5
  info : UserInfo

def Login.events (l : Login) : List AppEvent :=
  l.opening.events ++ [.OnBnClickedButtonLogin l.strName l.strPwd l.memory]

/-- The user is the first of the name among those read from the server, and has the password. -/
structure Login.Valid (env : Env) (s : App) (l : Login) : Prop where
  opening : l.opening.Valid env s
  first : (l.opening.rc.users.find? fun info => info.m_strName = l.strName) = some l.info
  password : l.info.HasPassword env l.strPwd

private theorem login_of_accepted (hrun : Run (App.step env) (App.Fits env) s es s')
    (hs : s.window = .none) {dlg : CLogDlg} (hw : s'.window = .logDlg dlg)
    {strName strPwd : String} {info : UserInfo}
    (hfind : (dlg.m_userInfo.find? fun info => info.m_strName = strName) = some info)
    (hpwd : info.HasPassword env strPwd) (memory : MD5) :
    ∃ l : Login, l.events = es ++ [.OnBnClickedButtonLogin strName strPwd memory] ∧
      l.Valid env s ∧ l.strName = strName ∧ l.strPwd = strPwd ∧ l.info = info := by
  obtain ⟨o, rfl, ho, husers⟩ := opening_of_loginOpen hrun hs ⟨dlg, hw, rfl⟩
  exact ⟨⟨o, strName, strPwd, memory, info⟩, rfl, ⟨ho, husers ▸ hfind, hpwd⟩, rfl, rfl, rfl⟩

end Runs

/-- **The main window opens for a user of the server on a computer with a license.**  Whatever is
typed, clicked and written to the license file, and however often the program has been started
before: since the last start the license file had the code of an adapter seen, `OnInitDialog` has
read the users, and the last login gave the password of the first user of its name; the window gets
the area and the name of that user. -/
theorem mainDlg_admitted (env : Env) {s s' : App} {es : List AppEvent}
    (hrun : Run (App.step env) (App.Fits env) s es s') (hs : s.window = .none)
    {strUserArea strUserName : String} (hs' : s'.window = .mainDlg strUserArea strUserName) :
    ∃ (l : Login) (after : List AppEvent), es = l.events ++ after ∧ l.Valid env s ∧
      (∀ e ∈ after, Inside e) ∧ strUserArea = l.info.m_strAreas ∧
      strUserName = l.info.m_strRealName := by
  obtain ⟨before, e, after, t, t', rfl, hbefore, ht, hok, hstep, ht', hafter⟩ :=
    hrun.entered (P := fun t => t.window = .mainDlg strUserArea strUserName) (by simp [hs]) hs'
  have hinside := inside_of_open (fun t ht => by simp [ht]) hafter hs'
  cases does_of_step hok hstep with
  | accepted dlg hw strName strPwd memory info hfind hpwd =>
    cases ht'
    obtain ⟨l, hevents, hl, -, -, rfl⟩ := login_of_accepted hbefore hs hw hfind hpwd memory
    exact ⟨l, after, by simp [hevents], hl, hinside, rfl, rfl⟩
  | license file => exact absurd ht' ht
  | refused dlg hw strName strPwd memory => exact absurd ht' ht
  | returned rc hw => exact absurd ht' ht
  | asked strInput rc hw verify hmacs license => exact absurd ht' ht
  | _ => cases ht'

open MyVerify (wired zeroMemory)

/-- A computer with code page 936. -/
def Env.plain : Env where
  p := page936
  codes_ne := page936_codes_ne
  os := plainProfile
  wide s := .ofList (s.map fun b => Char.ofNat b.toNat)
  wide_ascii s hs := by
    have hchar : ∀ c ∈ s.toList, Char.ofNat (BitVec.ofNat 8 c.toNat).toNat = c := by
      intro c hc
      have hlt := hs c hc
      rw [BitVec.toNat_ofNat, Nat.mod_eq_of_lt (by omega), Char.ofNat_toNat]
    rw [ByteText.ofString, List.map_map]
    exact (congrArg String.ofList ((List.map_congr_left hchar).trans (List.map_id _))).trans
      String.ofList_toList
  iswspace := isspace

/-- A user of the area `area`, with the password `p` and the key `k`. -/
def someUser : SqlRow SysUserCol where
  Id := "1"
  col
    | .user_name => some "u"
    | .real_name => some "U"
    | .password => some (hex (Md5Standard.digest (Env.plain.UnicodeToAsc "pk").cstr))
    | .SynchronState => some "1"
    | .pwd_key => some "k"
    | .role_id => none
    | .data_areas => some "area"

/-- The program on a computer with the license of its one adapter. -/
def registeredApp : App := ⟨.none, ⟨[]⟩, some wired.mac.code, fun _ => none⟩

/-- A start, and the login of the user. -/
def loginEvents : List AppEvent :=
  [.InitInstance ⟨true, 0, true, zeroMemory, [wired], true, []⟩,
    .OnInitDialog ⟨true, .ok, { MysqlDB.empty with
      sys_user := ⟨[someUser], List.nodup_singleton _⟩ }⟩,
    .OnBnClickedButtonLogin "u" "p" zeroMemory]

/-- What the dialog has read. -/
def someDlg : CLogDlg := ⟨[.ofRow someUser], initConfig plainProfile fun _ => none⟩

/-- The run of these events. -/
theorem login_run : ∃ t, Run (App.step Env.plain) (App.Fits Env.plain) registeredApp loginEvents t ∧
    t.window = .mainDlg "area" "U" := by
  obtain ⟨retBool, hverity, hret⟩ := MyVerify.VerityExe_eq Env.plain.p zeroMemory [wired]
    (some wired.mac.code) ⟨[]⟩
  obtain rfl := hret.2 ⟨List.cons_ne_nil _ _, _, rfl, by decide +kernel⟩
  have hfits : Env.plain.FitsCString "p" someDlg.m_userInfo := by decide +kernel
  have hcheck : Env.plain.checkLogin zeroMemory "u" "p" someDlg.m_userInfo =
      some (.accepted (.ofRow someUser)) :=
    (Env.checkLogin_accepted_iff hfits).2 ⟨by decide, by decide +kernel, rfl⟩
  -- the windows one after the other
  let opens : App := { registeredApp with window := .logDlgOpens, verify := ⟨[wired.mac]⟩ }
  let shown : App := { opens with window := .logDlg someDlg }
  let main : App := { shown with
    window := .mainDlg "area" "U"
    user := recordUser someDlg.saved "u" "p" shown.user }
  have hopens : registeredApp.step Env.plain
      (.InitInstance ⟨true, 0, true, zeroMemory, [wired], true, []⟩) = some opens := by
    simp [App.step, InitInstance, registeredApp, opened, hverity, opens, MyVerify.known]
  have hmain : shown.step Env.plain (.OnBnClickedButtonLogin "u" "p" zeroMemory) = some main := by
    simp [App.step, OnBnClickedButtonLogin, shown, hcheck, main, UserInfo.ofRow, someUser,
      Text.read]
  refine ⟨main, .cons trivial hopens (.cons trivial rfl (.cons ?_ hmain .nil)), rfl⟩
  rintro dlg hdlg
  cases hdlg
  exact hfits

/-- The user gets to the main window, with the area of the row. -/
theorem someUser_admitted : ∃ t : App, t.window = .mainDlg "area" "U" ∧
    ∃ (l : Login) (after : List AppEvent), loginEvents = l.events ++ after ∧
      l.Valid Env.plain registeredApp ∧ (∀ e ∈ after, Inside e) ∧ "area" = l.info.m_strAreas ∧
      "U" = l.info.m_strRealName := by
  obtain ⟨t, hrun, ht⟩ := login_run
  exact ⟨t, ht, mainDlg_admitted Env.plain hrun rfl ht⟩

/-! ## §5 What is remembered -/

section Remembered

variable {env : Env} {s s' : App} {es : List AppEvent}

/-- The record of a user that has been deleted. -/
def clearedRecord (env : Env) (strName : String) : UserRecord :=
  ⟨env.os.readBack strName, env.os.readBack ""⟩

/-- A record of `config.ini` was there at the start, or is of a login that opened the main window,
or of a user that was deleted. -/
def Remembers (env : Env) (s : App) (es : List AppEvent) (s' : App) (index : ℕ) : Prop :=
  userRecord env.os s'.user index = userRecord env.os s.user index ∨
    (∃ (l : Login) (after : List AppEvent), es = l.events ++ after ∧ l.Valid env s ∧
      userRecord env.os s'.user index = ⟨env.os.readBack l.strName, env.os.readBack l.strPwd⟩) ∨
    ∃ n strName, AppEvent.OnBnClickedButtonClear n strName ∈ es ∧
      userRecord env.os s'.user index = clearedRecord env strName

/-- A step that leaves the record as it is. -/
private theorem Remembers.snoc {index : ℕ} {s'' : App} (h : Remembers env s es s' index)
    (e : AppEvent)
    (huser : userRecord env.os s''.user index = userRecord env.os s'.user index) :
    Remembers env s (es ++ [e]) s'' index := by
  unfold Remembers
  rw [huser]
  rcases h with h | ⟨l, after, rfl, hl, h⟩ | ⟨n, strName, hmem, h⟩
  · exact .inl h
  · exact .inr (.inl ⟨l, after ++ [e], List.append_assoc _ _ _, hl, h⟩)
  · exact .inr (.inr ⟨n, strName, List.mem_append_left _ hmem, h⟩)

end Remembered

end App

end MtpSync
