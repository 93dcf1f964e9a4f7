import Mathlib.Data.List.Nodup
import Mathlib.Data.List.TakeWhile
import Mathlib.Logic.Function.Basic
import Std.Data.String.ToInt
import MtpSync.Lib.Int32

/-!
# The saved logins

`CLogDlg` keeps the logins of earlier days in `config.ini`: a name and a password under numbered
keys, and their count under `user_max`.  `RecordUser` writes one record and makes its number plus
one the count, so every record behind the one it writes is no longer there at the next start.

- §1 numbers as texts
- §2 the file
- §3 `InitConfig` and `RecordUser`
- §4 what the next start loads
- §5 when the list is kept
- §6 what the dialog shows at first
-/

namespace MtpSync

/-! ## §1 Numbers as texts -/

/-- The digits a text starts with, as a number. -/
def leadingNumber (text : List Char) : ℕ := Nat.ofDigitChars 10 (text.takeWhile Char.isDigit) 0

/-- `isspace`. -/
def isspace (c : Char) : Bool := [' ', '\t', '\n', '\x0b', '\x0c', '\r'].contains c

/-- `atoi`, with what does not fit cut to the ends of the range. -/
def atoi (text : String) : ℤ :=
  match text.toList.dropWhile isspace with
  | '-' :: rest => max (-2 ^ 31) (-leadingNumber rest)
  | '+' :: rest => min (2 ^ 31 - 1) (leadingNumber rest)
  | rest => min (2 ^ 31 - 1) (leadingNumber rest)

/-- `++` on an `int`. -/
def increment (n : ℤ) : ℤ := (n + 1).bmod (2 ^ 32)

theorem leadingNumber_toDigits (n : ℕ) : leadingNumber (Nat.toDigits 10 n) = n := by
  have hdigits : (Nat.toDigits 10 n).takeWhile Char.isDigit = Nat.toDigits 10 n := by
    rw [List.takeWhile_eq_self_iff]
    exact fun c hc => Nat.isDigit_of_mem_toDigits (by decide) (by decide) hc
  rw [leadingNumber, hdigits, Nat.ofDigitChars_toDigits (by decide) (by decide)]

/-- The digits of a number are neither blanks nor signs. -/
private theorem atoi_of_digits {text : String} {n : ℕ} (h : text.toList = Nat.toDigits 10 n) :
    atoi text = min (2 ^ 31 - 1) (n : ℤ) := by
  obtain ⟨c, rest, hcons⟩ := List.exists_cons_of_ne_nil (@Nat.toDigits_ne_nil n 10)
  have hdigit : c.isDigit = true :=
    @Nat.isDigit_of_mem_toDigits 10 n c (by decide) (by decide) (by simp [hcons])
  have hspace : ¬isspace c = true := by
    intro hspace
    simp only [isspace, List.contains_eq_mem, List.mem_cons, List.not_mem_nil, or_false,
      decide_eq_true_eq] at hspace
    -- no blank is a digit
    rcases hspace with rfl | rfl | rfl | rfl | rfl | rfl <;> exact absurd hdigit (by decide)
  rw [atoi, h, hcons, List.dropWhile_cons_of_neg hspace]
  split
  · rename_i heq
    cases heq
    exact absurd hdigit (by decide)
  · rename_i heq
    cases heq
    exact absurd hdigit (by decide)
  · rw [← hcons, leadingNumber_toDigits]

/-- `atoi` reads back what `%d` writes. -/
theorem atoi_repr {n : ℤ} (h : FitsInt n) : atoi (Int.repr n) = n := by
  obtain ⟨hle, hlt⟩ := h
  rw [Int.repr_eq_if]
  split
  · rw [atoi_of_digits (n := n.toNat) (by simp)]
    omega
  · -- a number below zero is written with its sign in front
    have htext : ("-" ++ (-n).toNat.repr).toList = '-' :: Nat.toDigits 10 (-n).toNat := by
      simp
    rw [atoi, htext, List.dropWhile_cons_of_neg (by decide)]
    simp only [leadingNumber_toDigits]
    omega

theorem fitsInt_atoi (text : String) : FitsInt (atoi text) := by
  unfold atoi FitsInt
  split <;> omega

/-! ## §2 The file -/

/-- The `[USER]` section of `config.ini`: the text written under each key. -/
abbrev UserSection := String → Option String

/-- What `GetPrivateProfileString` makes of a text that was written: it drops blanks and quotes
around it, cuts it to the buffer, and the text has gone through the code page.  A number has
nothing of that. -/
structure Profile where
  readBack : String → String
  readBack_number : ∀ n, FitsInt n → readBack (Int.repr n) = Int.repr n

/-- `GetPrivateProfileString`. -/
def Profile.getString (os : Profile) (user : UserSection) (key default : String) : String :=
  ((user key).map os.readBack).getD default

/-- `WritePrivateProfileString`. -/
def writeString (key value : String) (user : UserSection) : UserSection :=
  Function.update user key (some value)

/-- `"name_%d"` -/
def nameKey (index : ℤ) : String := "name_" ++ Int.repr index

/-- `"pwd_%d"` -/
def pwdKey (index : ℤ) : String := "pwd_" ++ Int.repr index

/-! ## §3 `InitConfig` and `RecordUser` -/

/-- `user_infoRecord`. -/
structure UserRecord where
  m_strName : String
  m_strPwd : String
  deriving DecidableEq, Repr

/-- `m_userInfoRecordNum`. -/
def userMax (os : Profile) (user : UserSection) : ℤ := atoi (os.getString user "user_max" "0")

/-- The record `InitConfig` reads at `index`. -/
def userRecord (os : Profile) (user : UserSection) (index : ℕ) : UserRecord where
  m_strName := os.getString user (nameKey index) ""
  m_strPwd := os.getString user (pwdKey index) ""

/-- The members `CLogDlg` keeps the records in. -/
structure SavedLogins where
  m_userInfoRecordNum : ℤ
  m_userInfoRecord : List UserRecord
  deriving DecidableEq

/-- The loop of `InitConfig` over the records. -/
def savedRecords (os : Profile) (user : UserSection) : List UserRecord :=
  (List.range (userMax os user).toNat).map (userRecord os user)

/-- `CLogDlg::InitConfig`. -/
def initConfig (os : Profile) (user : UserSection) : SavedLogins :=
  ⟨userMax os user, savedRecords os user⟩

/-- The loop of `RecordUser` over the records from `index` on. -/
def findUser (strName : String) (index : ℕ) (curIndex : ℤ) : List UserRecord → ℤ
  | [] => curIndex
  | record :: rest =>
    findUser strName (index + 1) (if record.m_strName = strName then index else curIndex) rest

/-- `CLogDlg::RecordUser`. -/
def recordUser (dlg : SavedLogins) (strName strPwd : String) (user : UserSection) : UserSection :=
  let curIndex := findUser strName 0 dlg.m_userInfoRecordNum dlg.m_userInfoRecord
  writeString "user_max" (Int.repr (increment curIndex)) <|
    writeString (pwdKey curIndex) strPwd <|
      writeString (nameKey curIndex) strName user

/-- `CLogDlg::OnBnClickedButtonClear` with entry `n` of the list box selected and `strName` in it:
an empty password marks the user as deleted. -/
def onBnClickedButtonClear (dlg : SavedLogins) (n : ℤ) (strName : String)
    (user : UserSection) : SavedLogins × UserSection :=
  if strName = "" then (dlg, user)
  else if 0 ≤ n ∧ n < dlg.m_userInfoRecordNum then
    let cleared : SavedLogins := ⟨dlg.m_userInfoRecordNum,
      dlg.m_userInfoRecord.modify n.toNat fun record => { record with m_strPwd := "" }⟩
    (cleared, recordUser cleared strName "" user)
  else (dlg, user)

/-- The list with the password of `strName` replaced, or with the record at its end. -/
def withRecord (strName strPwd : String) (records : List UserRecord) : List UserRecord :=
  if strName ∈ records.map UserRecord.m_strName then
    records.map fun record => if record.m_strName = strName then ⟨strName, strPwd⟩ else record
  else records ++ [⟨strName, strPwd⟩]

/-! ## §4 What the next start loads -/

section Keys

theorem nameKey_ne_pwdKey (i j : ℤ) : nameKey i ≠ pwdKey j := by
  intro h
  have hchars := congrArg String.toList h
  simp [nameKey, pwdKey] at hchars

theorem nameKey_ne_userMax (i : ℤ) : nameKey i ≠ "user_max" := by
  intro h
  have hchars := congrArg String.toList h
  simp [nameKey] at hchars

theorem pwdKey_ne_userMax (i : ℤ) : pwdKey i ≠ "user_max" := by
  intro h
  have hchars := congrArg String.toList h
  simp [pwdKey] at hchars

theorem nameKey_inj {i j : ℤ} : nameKey i = nameKey j ↔ i = j := by
  simp [nameKey, Int.repr_inj]

theorem pwdKey_inj {i j : ℤ} : pwdKey i = pwdKey j ↔ i = j := by
  simp [pwdKey, Int.repr_inj]

end Keys

@[simp]
theorem getString_writeString_self (os : Profile) (key value default : String)
    (user : UserSection) :
    os.getString (writeString key value user) key default = os.readBack value := by
  simp [Profile.getString, writeString]

theorem getString_writeString_of_ne (os : Profile) {key key' : String} (h : key' ≠ key)
    (value default : String) (user : UserSection) :
    os.getString (writeString key value user) key' default = os.getString user key' default := by
  simp [Profile.getString, writeString, h]

/-- A record of the new file: the one written, and every other as it was. -/
theorem userRecord_recordUser (os : Profile) (dlg : SavedLogins) (strName strPwd : String)
    (user : UserSection) (index : ℕ) :
    userRecord os (recordUser dlg strName strPwd user) index =
      if index = findUser strName 0 dlg.m_userInfoRecordNum dlg.m_userInfoRecord then
        ⟨os.readBack strName, os.readBack strPwd⟩
      else userRecord os user index := by
  rw [userRecord, userRecord, recordUser,
    getString_writeString_of_ne os (nameKey_ne_userMax _),
    getString_writeString_of_ne os (nameKey_ne_pwdKey _ _),
    getString_writeString_of_ne os (pwdKey_ne_userMax _)]
  split
  · rename_i hindex
    rw [hindex, getString_writeString_self, getString_writeString_self]
  · -- the keys of another record are neither of the two written
    rename_i hindex
    rw [getString_writeString_of_ne os (mt nameKey_inj.1 hindex),
      getString_writeString_of_ne os (mt pwdKey_inj.1 hindex),
      getString_writeString_of_ne os (nameKey_ne_pwdKey _ _).symm]

theorem userMax_recordUser (os : Profile) (dlg : SavedLogins) (strName strPwd : String)
    (user : UserSection) :
    userMax os (recordUser dlg strName strPwd user) =
      increment (findUser strName 0 dlg.m_userInfoRecordNum dlg.m_userInfoRecord) := by
  rw [userMax, recordUser, getString_writeString_self, increment,
    os.readBack_number _ (fitsInt_bmod _), atoi_repr (fitsInt_bmod _)]

theorem length_savedRecords (os : Profile) (user : UserSection) :
    (savedRecords os user).length = (userMax os user).toNat := by
  rw [savedRecords, List.length_map, List.length_range]

/-- **The next start loads** the records in front of the one written, and that one; the count of a
full list wraps round, and one below zero stays there or becomes zero. -/
theorem savedRecords_recordUser (os : Profile) (user : UserSection) (strName strPwd : String)
    {cur : ℤ} (hcur : findUser strName 0 (userMax os user) (savedRecords os user) = cur)
    (hge : -2 ^ 31 ≤ cur) (hle : cur ≤ (savedRecords os user).length) :
    savedRecords os (recordUser (initConfig os user) strName strPwd user) =
      if 0 ≤ cur ∧ cur + 1 < 2 ^ 31 then
        (savedRecords os user).take cur.toNat ++ [⟨os.readBack strName, os.readBack strPwd⟩]
      else [] := by
  have hmax : userMax os (recordUser (initConfig os user) strName strPwd user) =
      increment cur := by
    rw [userMax_recordUser]
    exact congrArg increment hcur
  -- the loop of the next start meets the new record and the old ones
  have hrecord (index : ℕ) :
      userRecord os (recordUser (initConfig os user) strName strPwd user) index =
        if index = cur then ⟨os.readBack strName, os.readBack strPwd⟩
        else userRecord os user index := by
    rw [← hcur]
    exact userRecord_recordUser os (initConfig os user) strName strPwd user index
  have hfits := fitsInt_atoi (os.getString user "user_max" "0")
  rw [length_savedRecords] at hle
  rw [savedRecords, hmax, increment]
  split
  · -- the new count is the number of the record written plus one
    rename_i hroom
    obtain ⟨k, rfl⟩ := Int.eq_ofNat_of_zero_le hroom.1
    rw [(bmod_eq_iff_fitsInt _).2 (by constructor <;> omega), Int.toNat_natCast]
    have hold : (List.range k).map
        (userRecord os (recordUser (initConfig os user) strName strPwd user)) =
        (savedRecords os user).take k := by
      rw [savedRecords, ← List.map_take, List.take_range, min_eq_left (by omega)]
      refine List.map_congr_left fun index hindex => ?_
      have hlt := List.mem_range.1 hindex
      rw [hrecord, if_neg (by omega)]
    have hcount : ((k : ℤ) + 1).toNat = k + 1 := by omega
    rw [hcount, List.range_succ, List.map_append, hold, List.map_singleton, hrecord, if_pos rfl]
  · rename_i hroom
    have hnothing : ((cur + 1).bmod (2 ^ 32)).toNat = 0 := by
      -- below zero the count only grows by one; at the end of the range it wraps round
      by_cases hnegative : cur < 0
      · rw [(bmod_eq_iff_fitsInt _).2 (by constructor <;> omega)]
        omega
      · have hfull : cur + 1 = 2 ^ 31 := by
          obtain ⟨-, hlt⟩ := hfits
          rw [userMax] at hle
          omega
        rw [hfull]
        decide
    rw [hnothing]
    rfl

/-! ## §5 When the list is kept -/

theorem findUser_of_notMem {strName : String} {records : List UserRecord}
    (h : strName ∉ records.map UserRecord.m_strName) (index : ℕ) (curIndex : ℤ) :
    findUser strName index curIndex records = curIndex := by
  induction records generalizing index with
  | nil => rfl
  | cons record rest ih =>
    simp only [List.map_cons, List.mem_cons, not_or] at h
    rw [findUser, if_neg (Ne.symm h.1)]
    exact ih h.2 (index + 1)

/-- The loop stops at the last record of the name. -/
theorem findUser_append (before : List UserRecord) {record : UserRecord} {after : List UserRecord}
    (h : record.m_strName ∉ after.map UserRecord.m_strName) (index : ℕ) (curIndex : ℤ) :
    findUser record.m_strName index curIndex (before ++ record :: after) =
      (index + before.length : ℕ) := by
  induction before generalizing index curIndex with
  -- nothing behind the record has its name, so the match stays
  | nil =>
    rw [List.nil_append, findUser, if_pos rfl]
    exact findUser_of_notMem h _ _
  | cons first before ih =>
    rw [List.cons_append, findUser, ih, List.length_cons]
    omega

/-- A record of another name stays as it is. -/
private theorem map_replace_eq_self {strName strPwd : String} {records : List UserRecord}
    (h : strName ∉ records.map UserRecord.m_strName) :
    (records.map fun record =>
      if record.m_strName = strName then (⟨strName, strPwd⟩ : UserRecord) else record) =
        records := by
  calc
    _ = records.map id := by
      refine List.map_congr_left fun record hrecord => if_neg fun hname => h ?_
      exact hname ▸ List.mem_map_of_mem hrecord
    _ = records := List.map_id records

/-- With names that differ the list is what is in front of the record, the record and the rest. -/
private theorem withRecord_append {strName strPwd : String} {before after : List UserRecord}
    {record : UserRecord} (hname : record.m_strName = strName)
    (hbefore : strName ∉ before.map UserRecord.m_strName)
    (hafter : strName ∉ after.map UserRecord.m_strName) :
    withRecord strName strPwd (before ++ record :: after) =
      before ++ ⟨strName, strPwd⟩ :: after := by
  rw [withRecord, if_pos (by simp [hname]), List.map_append, List.map_cons,
    map_replace_eq_self hbefore, map_replace_eq_self hafter, if_pos hname]

private theorem getLast?_append_cons_iff {α : Type*} (before : List α) {a : α} {after : List α}
    (h : a ∉ after) : (before ++ a :: after).getLast? = some a ↔ after = [] := by
  rw [List.getLast?_append_of_ne_nil _ (List.cons_ne_nil a after)]
  cases after with
  | nil => simp
  | cons next after =>
    rw [List.getLast?_cons_cons]
    simp only [reduceCtorEq, iff_false]
    exact fun hlast => h (List.mem_of_getLast? hlast)

/-- The record is new, and the count is not negative and has room for one more, or it is the last
one; and its name and its password come back from the file as they are. -/
def KeepsRecords (os : Profile) (dlg : SavedLogins) (strName strPwd : String) : Prop :=
  (strName ∉ dlg.m_userInfoRecord.map UserRecord.m_strName ∧
        0 ≤ dlg.m_userInfoRecordNum ∧ dlg.m_userInfoRecordNum + 1 < 2 ^ 31 ∨
      (dlg.m_userInfoRecord.map UserRecord.m_strName).getLast? = some strName) ∧
    os.readBack strName = strName ∧ os.readBack strPwd = strPwd

/-- The record of a name that is in the list. -/
private theorem savedRecords_keeps_of_mem {os : Profile} {user : UserSection}
    {strName strPwd : String} {before after : List UserRecord} {record : UserRecord}
    (hrecords : savedRecords os user = before ++ record :: after)
    (hname : record.m_strName = strName) (hbefore : strName ∉ before.map UserRecord.m_strName)
    (hafter : strName ∉ after.map UserRecord.m_strName) :
    savedRecords os (recordUser (initConfig os user) strName strPwd user) =
        withRecord strName strPwd (savedRecords os user) ↔
      after = [] ∧ os.readBack strName = strName ∧ os.readBack strPwd = strPwd := by
  have hlength := length_savedRecords os user
  have hfits := fitsInt_atoi (os.getString user "user_max" "0")
  rw [← userMax] at hfits
  obtain ⟨-, hlt⟩ := hfits
  rw [hrecords, List.length_append, List.length_cons] at hlength
  have hfind : findUser strName 0 (userMax os user) (savedRecords os user) = before.length := by
    have happend := findUser_append before (hname ▸ hafter) 0 (userMax os user)
    rwa [hname, Nat.zero_add, ← hrecords] at happend
  have hload := @savedRecords_recordUser os user strName strPwd _ hfind (by omega)
    (by rw [hrecords, List.length_append]; omega)
  rw [if_pos (by omega), Int.toNat_natCast, hrecords, List.take_left] at hload
  -- one side ends with the record, the other goes on with those behind it
  rw [hload, hrecords, withRecord_append hname hbefore hafter, List.append_cancel_left_eq,
    List.cons_eq_cons, UserRecord.mk.injEq, eq_comm (a := []), and_comm]

/-- A new record. -/
private theorem savedRecords_keeps_of_notMem {os : Profile} {user : UserSection}
    {strName strPwd : String}
    (hmem : strName ∉ (savedRecords os user).map UserRecord.m_strName) :
    savedRecords os (recordUser (initConfig os user) strName strPwd user) =
        withRecord strName strPwd (savedRecords os user) ↔
      (0 ≤ userMax os user ∧ userMax os user + 1 < 2 ^ 31) ∧
        os.readBack strName = strName ∧ os.readBack strPwd = strPwd := by
  have hlength := length_savedRecords os user
  have hfits := fitsInt_atoi (os.getString user "user_max" "0")
  rw [← userMax] at hfits
  have hload := @savedRecords_recordUser os user strName strPwd _ (findUser_of_notMem hmem 0 _)
    hfits.1 (by omega)
  rw [hload, withRecord, if_neg hmem]
  split
  · rename_i hroom
    rw [← hlength, List.take_length, List.append_cancel_left_eq, List.singleton_inj,
      UserRecord.mk.injEq]
    exact (and_iff_right hroom).symm
  · rename_i hroom
    exact iff_of_false (by simp) fun h => hroom h.1

/-- **The list is kept** if the record is new or the last one: a record in front of others takes
them with it. -/
theorem recordUser_keeps_iff (os : Profile) (user : UserSection) (strName strPwd : String)
    (hdistinct : ((initConfig os user).m_userInfoRecord.map UserRecord.m_strName).Nodup) :
    (initConfig os (recordUser (initConfig os user) strName strPwd user)).m_userInfoRecord =
        withRecord strName strPwd (initConfig os user).m_userInfoRecord ↔
      KeepsRecords os (initConfig os user) strName strPwd := by
  simp only [initConfig, KeepsRecords] at hdistinct ⊢
  by_cases hmem : strName ∈ (savedRecords os user).map UserRecord.m_strName
  · -- the records behind the one of that name are lost
    obtain ⟨record, hrec, hname⟩ := List.mem_map.1 hmem
    obtain ⟨before, after, hrecords⟩ := List.append_of_mem hrec
    -- names that differ: no other record has this one
    have hsides : strName ∉ before.map UserRecord.m_strName ∧
        strName ∉ after.map UserRecord.m_strName := by
      rw [hrecords, List.map_append, List.map_cons, hname, List.nodup_middle, List.nodup_cons,
        List.mem_append, not_or] at hdistinct
      exact hdistinct.1
    have hlast : ((savedRecords os user).map UserRecord.m_strName).getLast? = some strName ↔
        after = [] := by
      rw [hrecords, List.map_append, List.map_cons, hname, getLast?_append_cons_iff _ hsides.2,
        List.map_eq_nil_iff]
    rw [hlast]
    simp only [hmem, not_true_eq_false, false_and, false_or]
    exact savedRecords_keeps_of_mem hrecords hname hsides.1 hsides.2
  · have hlast : ((savedRecords os user).map UserRecord.m_strName).getLast? ≠ some strName :=
      fun hlast => hmem (List.mem_of_getLast? hlast)
    simp only [hmem, not_false_eq_true, true_and, hlast, or_false]
    exact savedRecords_keeps_of_notMem hmem

/-- Only the names decide which record is written. -/
theorem findUser_congr (strName : String) {records records' : List UserRecord}
    (h : records.map UserRecord.m_strName = records'.map UserRecord.m_strName)
    (index : ℕ) (curIndex : ℤ) :
    findUser strName index curIndex records = findUser strName index curIndex records' := by
  induction records generalizing records' index curIndex with
  | nil => rw [List.map_eq_nil_iff.1 h.symm]
  | cons record rest ih =>
    cases records' with
    | nil => cases h
    | cons record' rest' =>
      rw [List.map_cons, List.map_cons, List.cons_eq_cons] at h
      rw [findUser, findUser, h.1]
      exact ih h.2 (index + 1) (if record'.m_strName = strName then index else curIndex)

/-- Clearing a user is recording the user with an empty password: the users behind are lost. -/
theorem clear_eq_recordUser (dlg : SavedLogins) (user : UserSection) {n : ℤ} {strName : String}
    (hname : strName ≠ "") (hn : 0 ≤ n ∧ n < dlg.m_userInfoRecordNum) :
    (onBnClickedButtonClear dlg n strName user).2 = recordUser dlg strName "" user := by
  have hnames : (dlg.m_userInfoRecord.modify n.toNat fun record =>
      { record with m_strPwd := "" }).map UserRecord.m_strName =
        dlg.m_userInfoRecord.map UserRecord.m_strName := by
    refine List.ext_getElem (by simp) fun index _ _ => ?_
    rw [List.getElem_map, List.getElem_map, List.getElem_modify]
    split <;> rfl
  rw [onBnClickedButtonClear, if_neg hname, if_pos hn]
  simp only [recordUser, findUser_congr strName hnames]

/-- A file that gives every text back as it was written. -/
def plainProfile : Profile := ⟨id, fun _ _ => rfl⟩

/-- The file after the first logins of two users. -/
def twoUsers : UserSection :=
  recordUser ⟨1, [⟨"a", "1"⟩]⟩ "b" "2" (recordUser ⟨0, []⟩ "a" "1" fun _ => none)

/-- The second user gives a new password. -/
theorem second_user_kept :
    (initConfig plainProfile
        (recordUser (initConfig plainProfile twoUsers) "b" "3" twoUsers)).m_userInfoRecord =
      withRecord "b" "3" (initConfig plainProfile twoUsers).m_userInfoRecord :=
  (recordUser_keeps_iff plainProfile twoUsers "b" "3" (by decide +kernel)).2
    ⟨.inr (by decide +kernel), rfl, rfl⟩

/-- The first user logs in again, and the second one is forgotten. -/
theorem second_user_lost :
    ((initConfig plainProfile twoUsers).m_userInfoRecord.map UserRecord.m_strName).Nodup ∧
      (initConfig plainProfile
          (recordUser (initConfig plainProfile twoUsers) "a" "3" twoUsers)).m_userInfoRecord ≠
        withRecord "a" "3" (initConfig plainProfile twoUsers).m_userInfoRecord := by
  have hload : initConfig plainProfile twoUsers = ⟨2, [⟨"a", "1"⟩, ⟨"b", "2"⟩]⟩ := by
    decide +kernel
  have hreload : (initConfig plainProfile
      (recordUser ⟨2, [⟨"a", "1"⟩, ⟨"b", "2"⟩]⟩ "a" "3" twoUsers)).m_userInfoRecord =
        [⟨"a", "3"⟩] := by
    decide +kernel
  rw [hload, hreload]
  decide

/-! ## §6 What the dialog shows at first -/

/-- `CComboBox` of the style `CBS_DROPDOWN`, which does not sort. -/
structure ComboBox where
  items : List String
  /-- `GetCurSel`, `none` for `CB_ERR` -/
  curSel : Option ℕ
  text : String
  deriving DecidableEq

namespace ComboBox

def AddString (c : ComboBox) (s : String) : ComboBox := { c with items := c.items ++ [s] }

/-- An index behind the last entry takes the selection away, and the text with it. -/
def SetCurSel (c : ComboBox) (nSelect : ℕ) : ComboBox :=
  match c.items[nSelect]? with
  | some s => { c with curSel := some nSelect, text := s }
  | none => { c with curSel := none, text := "" }

theorem items_SetCurSel (c : ComboBox) (nSelect : ℕ) : (c.SetCurSel nSelect).items = c.items := by
  unfold SetCurSel
  split <;> rfl

theorem text_SetCurSel (c : ComboBox) (nSelect : ℕ) :
    (c.SetCurSel nSelect).text = (c.items[nSelect]?).getD "" := by
  unfold SetCurSel
  split <;> rename_i hget <;> simp [hget]

end ComboBox

/-- The controls of the dialog, and the passwords it has by name. -/
structure LoginControls where
  m_combox_user : ComboBox
  m_edit_pwd : String
  m_userMappwd : String → Option String

/-- The controls of a new dialog. -/
def LoginControls.empty : LoginControls := ⟨⟨[], none, ""⟩, "", fun _ => none⟩

/-- The loop of `OnInitDialog` over the saved logins: the selection is the number of the record,
not the one of the entry. -/
def LoginControls.fillLoop (index : ℕ) (c : LoginControls) : List UserRecord → LoginControls
  | [] => c
  | ⟨strNameRecord, strPwdRecord⟩ :: rest =>
    let c :=
      if strPwdRecord.isEmpty then c
      else
        { m_combox_user := (c.m_combox_user.AddString strNameRecord).SetCurSel index
          m_edit_pwd := strPwdRecord
          m_userMappwd := Function.update c.m_userMappwd strNameRecord (some strPwdRecord) }
    fillLoop (index + 1) c rest

/-- What the dialog shows at first. -/
def LoginControls.ofRecords (records : List UserRecord) : LoginControls :=
  fillLoop 0 .empty records

namespace LoginControls

/-- A login with a password is saved in the record. -/
def IsSaved (r : UserRecord) : Prop := r.m_strPwd ≠ ""

instance (r : UserRecord) : Decidable (IsSaved r) := inferInstanceAs (Decidable (_ ≠ _))

section Fill

variable {index : ℕ} {c : LoginControls} {r : UserRecord}

/-- One record that is saved. -/
private theorem fillLoop_saved (h : IsSaved r) (rest : List UserRecord) :
    fillLoop index c (r :: rest) = fillLoop (index + 1)
      { m_combox_user := (c.m_combox_user.AddString r.m_strName).SetCurSel index
        m_edit_pwd := r.m_strPwd
        m_userMappwd := Function.update c.m_userMappwd r.m_strName (some r.m_strPwd) } rest := by
  have hne : ¬r.m_strPwd.isEmpty = true := by simpa [IsSaved] using h
  rw [fillLoop]
  simp only [if_neg hne]

private theorem fillLoop_cleared (h : ¬IsSaved r) (rest : List UserRecord) :
    fillLoop index c (r :: rest) = fillLoop (index + 1) c rest := by
  have hempty : r.m_strPwd.isEmpty = true := by simpa [IsSaved] using h
  rw [fillLoop]
  simp only [if_pos hempty]

private theorem fillLoop_append (before after : List UserRecord) :
    fillLoop index c (before ++ after) =
      fillLoop (index + before.length) (fillLoop index c before) after := by
  induction before generalizing index c with
  | nil => rfl
  | cons r before ih =>
    have hindex : index + (r :: before).length = index + 1 + before.length := by
      rw [List.length_cons]
      omega
    rw [List.cons_append, hindex]
    by_cases h : IsSaved r
    · rw [fillLoop_saved h, fillLoop_saved h, ih]
    · rw [fillLoop_cleared h, fillLoop_cleared h, ih]

/-- Records that have been cleared leave the controls as they are. -/
private theorem fillLoop_all_cleared {records : List UserRecord}
    (h : ∀ r ∈ records, ¬IsSaved r) : fillLoop index c records = c := by
  induction records generalizing index with
  | nil => rfl
  | cons r records ih =>
    rw [fillLoop_cleared (h r List.mem_cons_self)]
    exact ih fun x hx => h x (List.mem_cons_of_mem _ hx)

/-- The entries are the names of the records that are saved. -/
private theorem items_fillLoop (index : ℕ) (c : LoginControls) (records : List UserRecord) :
    (fillLoop index c records).m_combox_user.items =
      c.m_combox_user.items ++
        (records.filter fun r => decide (IsSaved r)).map UserRecord.m_strName := by
  induction records generalizing index c with
  | nil => simp [fillLoop]
  | cons r records ih =>
    by_cases h : IsSaved r
    · rw [fillLoop_saved h, ih, ComboBox.items_SetCurSel]
      simp [h, ComboBox.AddString]
    · rw [fillLoop_cleared h, ih]
      simp [h]

end Fill

/-- **The name that is shown with a saved password**: the dialog fills in the password of the last
saved login, and its name if no record in front of it has been cleared, otherwise no name at all.
An entry of the box has the number of its record only then. -/
theorem shows_name_iff {before after : List UserRecord} {r : UserRecord} (hr : IsSaved r)
    (hname : r.m_strName ≠ "") (hafter : ∀ x ∈ after, ¬IsSaved x) :
    let c := ofRecords (before ++ r :: after)
    c.m_edit_pwd = r.m_strPwd ∧
      (c.m_combox_user.text = r.m_strName ∨ c.m_combox_user.text = "") ∧
        (c.m_combox_user.text = r.m_strName ↔ ∀ x ∈ before, IsSaved x) := by
  have hitems := items_fillLoop 0 .empty before
  have hlast : ofRecords (before ++ r :: after) =
      fillLoop (0 + before.length) (fillLoop 0 .empty before) [r] := by
    rw [ofRecords, fillLoop_append, fillLoop_saved hr, fillLoop_all_cleared hafter,
      fillLoop_saved hr]
    rfl
  have hall : (before.filter fun r => decide (IsSaved r)).length = before.length ↔
      ∀ x ∈ before, IsSaved x := by
    rw [List.length_filter_eq_length_iff]
    simp
  intro c
  have hedit : c.m_edit_pwd = r.m_strPwd := by
    show (ofRecords _).m_edit_pwd = _
    rw [hlast, fillLoop_saved hr]
    rfl
  have htext : c.m_combox_user.text =
      (((before.filter fun r => decide (IsSaved r)).map UserRecord.m_strName ++
        [r.m_strName])[before.length]?).getD "" := by
    show (ofRecords _).m_combox_user.text = _
    rw [hlast, fillLoop_saved hr, fillLoop, ComboBox.text_SetCurSel, ComboBox.AddString, hitems,
      Nat.zero_add]
    rfl
  refine ⟨hedit, ?_⟩
  rw [htext, ← hall]
  by_cases hcount : (before.filter fun r => decide (IsSaved r)).length = before.length
  · -- the entry has the number of the record
    rw [List.getElem?_append_right (by rw [List.length_map, hcount]), List.length_map, hcount,
      Nat.sub_self]
    simp
  · -- there are fewer entries than the number says
    have hle : (before.filter fun r => decide (IsSaved r)).length ≤ before.length :=
      List.length_filter_le _ _
    have hentries : ((before.filter fun r => decide (IsSaved r)).map UserRecord.m_strName ++
        [r.m_strName]).length ≤ before.length := by
      rw [List.length_append, List.length_map, List.length_singleton]
      omega
    rw [List.getElem?_eq_none hentries]
    simp [hcount, hname.symm]

/-- The first of two users has been deleted: the second one's password is there without a name. -/
theorem deleted_user_hides_name :
    let c := ofRecords ([⟨"a", ""⟩] ++ ⟨"b", "2"⟩ :: [])
    c.m_edit_pwd = "2" ∧ (c.m_combox_user.text = "b" ∨ c.m_combox_user.text = "") ∧
      (c.m_combox_user.text = "b" ↔ ∀ x ∈ [(⟨"a", ""⟩ : UserRecord)], IsSaved x) :=
  shows_name_iff (by decide) (by decide) (by decide)

end LoginControls

end MtpSync
