import Mathlib.Data.List.TakeWhile
import MtpSync.Batches
import MtpSync.Lib.CodePage
import MtpSync.Upload.Routines

/-!
# The texts an upload sends

The to-PC routines build the text of each statement from the texts of a row, and the server
reads the texts of a batch one behind the other.  Only `Synchrodata_work_record` escapes what it
puts between quotes.

- §1 the texts
- §2 the commands they are meant to be
- §3 the texts as sentences
-/

namespace MtpSync

open SqlText

/-! ## §1 Texts -/

/-- `GetAt` of a selected row: its `Id`, or a column. -/
def Row.GetAt {C : Type} (r : SqlRow C) : Option C → String
  | none => r.Id
  | some c => (r.col c).read

/-- `work_record_enum`, and `none` for the `Id`. -/
def work_record_enum : List (Option WorkRecordCol) :=
  [none, some .DeviceId, some .WorkTaskId, some .Number, some .ProcessName, some .Results,
    some .SynchronState, some .CreateDate, some .CreateUserId, some .ClassName]

/-- The columns of `work_task`, in the order of the enumeration. -/
def work_task_enum : List (Option WorkTaskCol) :=
  [none, some .DeviceId, some .RFId, some .WorkName, some .WorkTemplateId, some .Cycle,
    some .StartTime, some .Executor, some .State, some .SynchronState, some .CreateDate,
    some .CreateUserId, some .Level, some .Frequency, some .AllId, some .ExecutorTime,
    some .ExecutorLevel, some .TaskRemark, some .OverdueRemark]

def charNUL : Char := Char.ofNat 0

def charQuote : Char := Char.ofNat 0x27

def charBackslash : Char := Char.ofNat 0x5C

/-- What a function that is given a zero-terminated text sees of it. -/
def terminated (s : String) : String := String.ofList (s.toList.takeWhile (· ≠ charNUL))

/-- `CpublicFun::UnicodeToAsc`. -/
def UnicodeToAsc (p : CodePage) (strUnicode : String) : CStringA :=
  p.bytes (terminated strUnicode)

/-- `CString::Replace` of one character. -/
def replaceChar (s : String) (pszOld : Char) (pszNew : List Char) : String :=
  String.ofList (s.toList.flatMap fun c => if c = pszOld then pszNew else [c])

/-- The replacements of `Synchrodata_work_record` in one field. -/
def escapeField (strRepTemp : String) : String :=
  let strRepTemp :=
    if charBackslash ∈ strRepTemp.toList then
      replaceChar strRepTemp charBackslash [charBackslash, charBackslash]
    else strRepTemp
  if charQuote ∈ strRepTemp.toList then
    replaceChar strRepTemp charQuote [charBackslash, charQuote]
  else strRepTemp

section Texts

variable (p : CodePage)

/-- A text between quotes, and what follows. -/
def quoted (s : CStringA) (rest : String) : CStringA :=
  ascii "'" ++ s ++ ascii "'" ++ ascii rest

/-- The text before the values of a record. -/
def recordInto : String :=
  "REPLACE INTO work_record(`Id`,`DeviceId`,`WorkTaskId`,`Number`,`ProcessName`,`Results`," ++
    "`SynchronState`,`CreateDate`,`CreateUserId`,ClassName)\t\t\t\t\t\t\tvalues("

/-- The statement text of a record. -/
def recordText (r : SqlRow WorkRecordCol) : CStringA :=
  let field i := UnicodeToAsc p (escapeField (r.GetAt i))
  ascii recordInto ++
  quoted (field none) "," ++
  quoted (field (some .DeviceId)) "," ++
  quoted (field (some .WorkTaskId)) "," ++
  quoted (field (some .Number)) "," ++
  quoted (field (some .ProcessName)) "," ++
  quoted (field (some .Results)) "," ++
  quoted (ascii "1") "," ++
  quoted (field (some .CreateDate)) "," ++
  quoted (field (some .CreateUserId)) "," ++
  quoted (field (some .ClassName)) ");"

/-- The server's time: what `select now()` answers. -/
structure ServerTime where
  text : String
  chars : ∀ c ∈ text.toList, c.isDigit = true ∨ c ∈ ['-', ':', '.', ' ']

/-- One round of the loop over the columns of a task. -/
def taskField (r : SqlRow WorkTaskCol) (indEnum : Option WorkTaskCol) : CStringA :=
  if indEnum = some .SynchronState then ascii "'1',"
  else if indEnum = some .ExecutorTime then
    if r.GetAt indEnum = "" then ascii "null,"
    else quoted (UnicodeToAsc p (r.GetAt indEnum)) ","
  else quoted (UnicodeToAsc p (r.GetAt indEnum)) ","

/-- The text before the values of a task. -/
def taskInto : String :=
  "Replace  INTO `work_task` (`Id`,`DeviceId`,`RFId`,`WorkName`,`WorkTemplateId`,`Cycle`," ++
    "`StartTime`,`Executor`,`State`,`SynchronState`,`CreateDate`,`CreateUserId`,Level," ++
    "Frequency,AllId,ExecutorTime,ExecutorLevel,TaskRemark,OverdueRemark,SynchronTime) VALUES("

/-- The statement text of a task. -/
def taskText (Systemtime : ServerTime) (r : SqlRow WorkTaskCol) : CStringA :=
  ascii taskInto ++
  work_task_enum.dropLast.flatMap (taskField p r) ++
  quoted (UnicodeToAsc p (r.GetAt (some .OverdueRemark))) "," ++
  quoted (ascii Systemtime.text) ");"

/-- The statement text of a device. -/
def deviceText (r : SqlRow DeviceInfoCol) : CStringA :=
  ascii "UPDATE device_info set RFID =" ++
  quoted (UnicodeToAsc p (r.GetAt (some .RFID))) " where Id=" ++
  quoted (UnicodeToAsc p (r.GetAt none)) ";"

end Texts

/-! ## §2 Commands -/

/-- `REPLACE INTO work_record` with the values of the columns. -/
def storeRecord (v : Option WorkRecordCol → Text) : Command String :=
  .replace (ascii "WORK_RECORD")
    (["ID", "DEVICEID", "WORKTASKID", "NUMBER", "PROCESSNAME", "RESULTS", "SYNCHRONSTATE",
      "CREATEDATE", "CREATEUSERID", "CLASSNAME"].map ascii)
    (work_record_enum.map v)

/-- `REPLACE INTO work_task` with the values of the columns, and `SynchronTime`. -/
def storeTask (v : Option WorkTaskCol → Text) (SynchronTime : String) : Command String :=
  .replace (ascii "WORK_TASK")
    (["ID", "DEVICEID", "RFID", "WORKNAME", "WORKTEMPLATEID", "CYCLE", "STARTTIME", "EXECUTOR",
      "STATE", "SYNCHRONSTATE", "CREATEDATE", "CREATEUSERID", "LEVEL", "FREQUENCY", "ALLID",
      "EXECUTORTIME", "EXECUTORLEVEL", "TASKREMARK", "OVERDUEREMARK", "SYNCHRONTIME"].map ascii)
    (work_task_enum.map v ++ [some SynchronTime])

/-- `UPDATE device_info set RFID` of a row. -/
def setRFID (RFID Id : String) : Command String :=
  .update (ascii "DEVICE_INFO") (ascii "RFID") (some RFID) (ascii "ID") (some Id)

/-- The upload of a record: nine of its fields, and `SynchronState` `'1'`. -/
def recordCommand (r : SqlRow WorkRecordCol) : Command String :=
  storeRecord fun i => some (if i = some .SynchronState then "1" else r.GetAt i)

/-- A field of a task as it is uploaded: NULL for an empty `ExecutorTime`. -/
def taskValue (r : SqlRow WorkTaskCol) (i : Option WorkTaskCol) : Text :=
  if i = some .SynchronState then some "1"
  else if i = some .ExecutorTime ∧ r.GetAt i = "" then none
  else some (r.GetAt i)

/-- The upload of a task. -/
def taskCommand (Systemtime : ServerTime) (r : SqlRow WorkTaskCol) : Command String :=
  storeTask (taskValue r) Systemtime.text

/-- The upload of a device. -/
def deviceCommand (r : SqlRow DeviceInfoCol) : Command String :=
  setRFID (r.GetAt (some .RFID)) (r.GetAt none)

/-- The fields a record's upload copies. -/
def copiedOfRecord (r : SqlRow WorkRecordCol) : List String :=
  (work_record_enum.filter (· ≠ some .SynchronState)).map r.GetAt

/-- The fields a task's upload copies. -/
def copiedOfTask (r : SqlRow WorkTaskCol) : List String :=
  (work_task_enum.filter (· ≠ some .SynchronState)).map r.GetAt

/-- The fields a device's upload copies. -/
def copiedOfDevice (r : SqlRow DeviceInfoCol) : List String :=
  [r.GetAt (some .RFID), r.GetAt none]

theorem mem_copiedOfRecord {r : SqlRow WorkRecordCol} {s : String} :
    s ∈ copiedOfRecord r ↔
      ∃ i ∈ work_record_enum, i ≠ some .SynchronState ∧ r.GetAt i = s := by
  simp [copiedOfRecord, and_assoc]

theorem mem_copiedOfTask {r : SqlRow WorkTaskCol} {s : String} :
    s ∈ copiedOfTask r ↔ ∃ i ∈ work_task_enum, i ≠ some .SynchronState ∧ r.GetAt i = s := by
  simp [copiedOfTask, and_assoc]

/-- What a column is set to. -/
def Row.valueAt {C : Type} (r : SqlRow C) : Option C → Text
  | none => some r.Id
  | some c => r.col c

/-- The command a statement of an upload is. -/
def MyStmt.command : MyStmt → Option (Command String)
  | .replaceWorkRecord r => some (storeRecord r.valueAt)
  | .replaceWorkTask r SynchronTime => some (storeTask r.valueAt SynchronTime)
  | .updateRFID RFID Id => some (setRFID RFID Id)
  | _ => none

/-- **The commands are the statements of the upload routines.** -/
theorem uploadRecord_command (r : SqlRow WorkRecordCol) :
    (uploadRecord r).command = some (recordCommand r) := rfl

theorem uploadTask_command (Systemtime : ServerTime) (r : SqlRow WorkTaskCol) :
    (uploadTask Systemtime.text r).command = some (taskCommand Systemtime r) := by
  simp only [uploadTask, MyStmt.command, taskCommand, storeTask, work_task_enum,
    List.map_cons, List.map_nil, Row.valueAt, Row.GetAt, taskValue]
  simp

theorem uploadDevice_command (r : SqlRow DeviceInfoCol) :
    (uploadDevice r).command = some (deviceCommand r) := rfl

/-! ## §3 Sentences -/

def recordHead : RowHead where
  bytes := ascii recordInto
  tokens :=
    .word (ascii "REPLACE") :: .word (ascii "INTO") :: .word (ascii "work_record") ::
      .punct 0x28 :: (listed
        (["Id", "DeviceId", "WorkTaskId", "Number", "ProcessName", "Results", "SynchronState",
            "CreateDate", "CreateUserId"].map (fun c => .name (ascii c)) ++
          [.word (ascii "ClassName")]) ++
      [.word (ascii "values"), .punct 0x28])
  reads := by decide +kernel
  table := ascii "WORK_RECORD"
  columns :=
    ["ID", "DEVICEID", "WORKTASKID", "NUMBER", "PROCESSNAME", "RESULTS", "SYNCHRONSTATE",
      "CREATEDATE", "CREATEUSERID", "CLASSNAME"].map ascii
  no_semicolon := by decide +kernel
  opening :=
    ⟨_, _, _, _, .word (ascii "values"), rfl, by decide +kernel, by decide +kernel,
      by decide +kernel, by decide +kernel, by decide +kernel⟩

def taskHead : RowHead where
  bytes := ascii taskInto
  tokens :=
    .word (ascii "Replace") :: .word (ascii "INTO") :: .name (ascii "work_task") ::
      .punct 0x28 :: (listed
        (["Id", "DeviceId", "RFId", "WorkName", "WorkTemplateId", "Cycle", "StartTime",
            "Executor", "State", "SynchronState", "CreateDate", "CreateUserId"].map
            (fun c => .name (ascii c)) ++
          ["Level", "Frequency", "AllId", "ExecutorTime", "ExecutorLevel", "TaskRemark",
            "OverdueRemark", "SynchronTime"].map (fun c => .word (ascii c))) ++
      [.word (ascii "VALUES"), .punct 0x28])
  reads := by decide +kernel
  table := ascii "WORK_TASK"
  columns :=
    ["ID", "DEVICEID", "RFID", "WORKNAME", "WORKTEMPLATEID", "CYCLE", "STARTTIME", "EXECUTOR",
      "STATE", "SYNCHRONSTATE", "CREATEDATE", "CREATEUSERID", "LEVEL", "FREQUENCY", "ALLID",
      "EXECUTORTIME", "EXECUTORLEVEL", "TASKREMARK", "OVERDUEREMARK", "SYNCHRONTIME"].map ascii
  no_semicolon := by decide +kernel
  opening :=
    ⟨_, _, _, _, .word (ascii "VALUES"), rfl, by decide +kernel, by decide +kernel,
      by decide +kernel, by decide +kernel, by decide +kernel⟩

/-- No field contains the NUL character. -/
def Row.NoNul {C : Type} (r : SqlRow C) : Prop := ∀ i, charNUL ∉ (r.GetAt i).toList

theorem terminated_of_noNul {s : String} (h : charNUL ∉ s.toList) : terminated s = s := by
  have htake : s.toList.takeWhile (· ≠ charNUL) = s.toList := by
    rw [List.takeWhile_eq_self_iff]
    intro c hc
    have hne : c ≠ charNUL := fun heq => h (heq ▸ hc)
    simpa using hne
  rw [terminated, htake, String.ofList_toList]

/-- The constant of `SynchronState`. -/
theorem one_chars : ∀ c ∈ "1".toList, c.toNat < 128 ∧ c.toNat ≠ 0x27 ∧ c.toNat ≠ 0x5C :=
  forall_mem_of_all (by decide +kernel)

/-- What the replacements make of one character. -/
def escapeChar (c : Char) : List Char :=
  if c = charBackslash then [charBackslash, charBackslash]
  else if c = charQuote then [charBackslash, charQuote]
  else [c]

theorem replaceChar_toList (s : String) (c : Char) (cs : List Char) :
    (replaceChar s c cs).toList = s.toList.flatMap fun c' => if c' = c then cs else [c'] := by
  rw [replaceChar, String.toList_ofList]

/-- Nothing is replaced where the character does not occur. -/
theorem ite_replaceChar (s : String) (c : Char) (cs : List Char) :
    (if c ∈ s.toList then replaceChar s c cs else s) = replaceChar s c cs := by
  split_ifs with h
  · rfl
  · apply String.toList_injective
    rw [replaceChar_toList]
    have hall : ∀ c' ∈ s.toList, (if c' = c then cs else [c']) = [c'] := by
      intro c' hc'
      have hne : c' ≠ c := fun heq => h (heq ▸ hc')
      exact if_neg hne
    rw [List.flatMap_congr hall, List.flatMap_singleton']

/-- **The replacements escape character by character**: the backslashes that are put before
quotes are not doubled. -/
theorem escapeField_toList (s : String) :
    (escapeField s).toList = s.toList.flatMap escapeChar := by
  have hreplace : escapeField s =
      replaceChar (replaceChar s charBackslash [charBackslash, charBackslash]) charQuote
        [charBackslash, charQuote] := by
    unfold escapeField
    rw [ite_replaceChar s]
    exact ite_replaceChar _ _ _
  rw [hreplace, replaceChar_toList, replaceChar_toList, List.flatMap_assoc]
  congr 1
  funext c
  unfold escapeChar
  by_cases hslash : c = charBackslash
  · subst hslash
    decide
  · by_cases hquote : c = charQuote
    · subst hquote
      decide
    · simp [hslash, hquote]

theorem escapeField_noNul {s : String} (h : charNUL ∉ s.toList) :
    charNUL ∉ (escapeField s).toList := by
  rw [escapeField_toList]
  intro hmem
  obtain ⟨c, hc, hmem⟩ := List.mem_flatMap.1 hmem
  unfold escapeChar at hmem
  split_ifs at hmem
  · exact absurd hmem (by decide)
  · exact absurd hmem (by decide)
  · exact h (List.mem_singleton.1 hmem ▸ hc)

section Sentences

variable (p : CodePage)

/-- A piece is its text between quotes. -/
theorem piece_bytes (raw value : List Code) (sep : Separator) {rest : String}
    (h : ascii rest = sep.bytes) :
    (Piece.text raw value sep).bytes = quoted (raw.flatMap Code.bytes) rest := by
  have hquote : ascii "'" = [quote] := by decide +kernel
  rw [quoted, h, hquote, Piece.bytes]
  simp

theorem piece_comma (raw value : List Code) :
    (Piece.text raw value comma).bytes = quoted (raw.flatMap Code.bytes) "," :=
  piece_bytes raw value comma (by decide +kernel)

theorem piece_close (raw value : List Code) :
    (Piece.text raw value close).bytes = quoted (raw.flatMap Code.bytes) ");" :=
  piece_bytes raw value close (by decide +kernel)

/-- A value of a record: its field, escaped. -/
def recordItem (r : SqlRow WorkRecordCol) (i : Option WorkRecordCol) : Item :=
  if i = some .SynchronState then .text (p.convert "1") (p.convert "1")
  else .text (p.convert (escapeField (r.GetAt i))) (p.convert (r.GetAt i))

def recordSentence (r : SqlRow WorkRecordCol) : Sentence :=
  rowSentence recordHead (work_record_enum.dropLast.map (recordItem p r))
    (p.convert (escapeField (r.GetAt (some .ClassName))))
    (p.convert (r.GetAt (some .ClassName)))

theorem recordSentence_command (r : SqlRow WorkRecordCol) :
    (recordSentence p r).command = (recordCommand r).map p.bytes := rfl

theorem recordSentence_bytes {r : SqlRow WorkRecordCol} (h : r.NoNul) :
    (recordSentence p r).bytes = recordText p r := by
  have hfield : ∀ i, UnicodeToAsc p (escapeField (r.GetAt i)) =
      (p.convert (escapeField (r.GetAt i))).flatMap Code.bytes := by
    intro i
    rw [UnicodeToAsc, terminated_of_noNul (escapeField_noNul (h i))]
    rfl
  have hone : ascii "1" = (p.convert "1").flatMap Code.bytes :=
    (CodePage.bytes_of_ascii fun c hc => (one_chars c hc).1).symm
  simp only [recordText, hfield, hone, List.append_assoc]
  rw [recordSentence, rowSentence_bytes]
  simp [work_record_enum, recordItem, Item.piece, piece_comma, piece_close, recordHead]

/-- A value of a task: its field. -/
def taskItem (r : SqlRow WorkTaskCol) (i : Option WorkTaskCol) : Item :=
  if i = some .SynchronState then .text (p.convert "1") (p.convert "1")
  else if i = some .ExecutorTime ∧ r.GetAt i = "" then .null
  else .text (p.convert (r.GetAt i)) (p.convert (r.GetAt i))

def taskSentence (Systemtime : ServerTime) (r : SqlRow WorkTaskCol) : Sentence :=
  rowSentence taskHead (work_task_enum.map (taskItem p r)) (p.convert Systemtime.text)
    (p.convert Systemtime.text)

theorem taskItem_value (r : SqlRow WorkTaskCol) (i : Option WorkTaskCol) :
    (taskItem p r i).value = (taskValue r i).map p.bytes := by
  unfold taskItem taskValue
  split_ifs <;> rfl

theorem taskSentence_command (Systemtime : ServerTime) (r : SqlRow WorkTaskCol) :
    (taskSentence p Systemtime r).command = (taskCommand Systemtime r).map p.bytes := by
  have hvalues : (work_task_enum.map (taskItem p r)).map Item.value =
      (work_task_enum.map (taskValue r)).map (Option.map p.bytes) := by
    rw [List.map_map, List.map_map]
    exact List.map_congr_left fun i _ => taskItem_value p r i
  rw [taskSentence, taskCommand, storeTask, Command.map, List.map_append, ← hvalues]
  rfl

/-- The server's time is ASCII, and nothing in it needs an escape. -/
theorem ServerTime.char_cases (t : ServerTime) {c : Char} (hc : c ∈ t.text.toList) :
    c.toNat < 128 ∧ c.toNat ≠ 0x27 ∧ c.toNat ≠ 0x5C := by
  rcases t.chars c hc with hdigit | hmem
  · simp only [Char.isDigit, Bool.and_eq_true, decide_eq_true_eq, UInt32.le_iff_toNat_le] at hdigit
    have hle : c.toNat ≤ 57 := hdigit.2
    have hge : 48 ≤ c.toNat := hdigit.1
    omega
  · simp only [List.mem_cons, List.not_mem_nil, or_false] at hmem
    rcases hmem with rfl | rfl | rfl | rfl <;> decide

theorem ServerTime.bytes_text (t : ServerTime) : p.bytes t.text = ascii t.text :=
  CodePage.bytes_of_ascii fun _ hc => (t.char_cases hc).1

theorem taskItem_bytes {r : SqlRow WorkTaskCol} (h : r.NoNul) (i : Option WorkTaskCol) :
    (taskItem p r i).piece.bytes = taskField p r i := by
  have hfield : UnicodeToAsc p (r.GetAt i) = (p.convert (r.GetAt i)).flatMap Code.bytes := by
    rw [UnicodeToAsc, terminated_of_noNul (h i)]
    rfl
  have hone : (p.convert "1").flatMap Code.bytes = ascii "1" :=
    CodePage.bytes_of_ascii fun c hc => (one_chars c hc).1
  have htext : (Item.text (p.convert (r.GetAt i)) (p.convert (r.GetAt i))).piece.bytes =
      quoted (UnicodeToAsc p (r.GetAt i)) "," := by
    rw [Item.piece, piece_comma, hfield]
  unfold taskItem taskField
  -- the three ways a column is written
  by_cases hstate : i = some .SynchronState
  · rw [if_pos hstate, if_pos hstate, Item.piece, piece_comma, hone]
    decide +kernel
  · rw [if_neg hstate, if_neg hstate]
    by_cases htime : i = some .ExecutorTime
    · rw [if_pos htime]
      by_cases hempty : r.GetAt i = ""
      · rw [if_pos ⟨htime, hempty⟩, if_pos hempty]
        rfl
      · rw [if_neg fun hboth => hempty hboth.2, if_neg hempty]
        exact htext
    · rw [if_neg fun hboth => htime hboth.1, if_neg htime]
      exact htext

theorem taskSentence_bytes (Systemtime : ServerTime) {r : SqlRow WorkTaskCol} (h : r.NoNul) :
    (taskSentence p Systemtime r).bytes = taskText p Systemtime r := by
  have hlast : work_task_enum = work_task_enum.dropLast ++ [some .OverdueRemark] := rfl
  have hover : (taskItem p r (some .OverdueRemark)).piece.bytes =
      quoted (UnicodeToAsc p (r.GetAt (some .OverdueRemark))) "," :=
    taskItem_bytes p h _
  have htime : (p.convert Systemtime.text).flatMap Code.bytes = ascii Systemtime.text :=
    Systemtime.bytes_text p
  have hitems : ∀ l : List (Option WorkTaskCol),
      (l.map (taskItem p r)).flatMap (fun i => i.piece.bytes) = l.flatMap (taskField p r) := by
    intro l
    rw [List.flatMap_map]
    exact List.flatMap_congr fun i _ => taskItem_bytes p h i
  rw [taskSentence, rowSentence_bytes, hitems, piece_close, htime, taskText]
  conv_lhs => rw [hlast]
  rw [List.flatMap_append, List.flatMap_singleton, ← taskItem_bytes p h, hover]
  simp only [taskHead, List.append_assoc]

/-- What stands between the two literals of a device. -/
def whereId : Separator where
  bytes := ascii " where Id="
  tokens := [.word (ascii "where"), .word (ascii "Id"), .punct 0x3D]
  reads := by decide +kernel
  head_ne := ⟨0x20, ascii "where Id=", by decide +kernel, by decide⟩

def statementEnd : Separator where
  bytes := ascii ";"
  tokens := [.punct semicolon]
  reads := by decide +kernel
  head_ne := ⟨semicolon, [], by decide +kernel, by decide⟩

def deviceHead : Fixed where
  bytes := ascii "UPDATE device_info set RFID ="
  tokens := [.word (ascii "UPDATE"), .word (ascii "device_info"), .word (ascii "set"),
    .word (ascii "RFID"), .punct 0x3D]
  reads := by decide +kernel

def deviceSentence (r : SqlRow DeviceInfoCol) : Sentence where
  pieces := [.fixed deviceHead,
    .text (p.convert (r.GetAt (some .RFID))) (p.convert (r.GetAt (some .RFID))) whereId,
    .text (p.convert (r.GetAt none)) (p.convert (r.GetAt none)) statementEnd]
  statement := deviceHead.tokens ++
    (.text (p.bytes (r.GetAt (some .RFID))) :: (whereId.tokens ++
      [.text (p.bytes (r.GetAt none))]))
  command := (deviceCommand r).map p.bytes
  tokens_eq := by
    simp [Piece.tokens, statementEnd, CodePage.bytes]
  no_semicolon := by
    simp [deviceHead, whereId, semicolon]
  parse_eq := by
    have hreplace : isKeyword "REPLACE" (.word (ascii "UPDATE")) = false := by decide +kernel
    have hupdate : isKeyword "UPDATE" (.word (ascii "UPDATE")) = true := by decide +kernel
    have hwords : (isKeyword "SET" (.word (ascii "set")) &&
        isKeyword "WHERE" (.word (ascii "where"))) = true := by decide +kernel
    have htable : ident (.word (ascii "device_info")) = some (ascii "DEVICE_INFO") := by
      decide +kernel
    have hcolumn : ident (.word (ascii "RFID")) = some (ascii "RFID") := by decide +kernel
    have hkey : ident (.word (ascii "Id")) = some (ascii "ID") := by decide +kernel
    simp only [deviceHead, whereId, List.cons_append, List.nil_append, parse, hreplace, hupdate,
      parseUpdate, hwords, htable, hcolumn, hkey, value, Option.bind_some, Option.map_some]
    rfl

theorem deviceSentence_bytes {r : SqlRow DeviceInfoCol} (h : r.NoNul) :
    (deviceSentence p r).bytes = deviceText p r := by
  have hfield : ∀ i, UnicodeToAsc p (r.GetAt i) =
      (p.convert (r.GetAt i)).flatMap Code.bytes := by
    intro i
    rw [UnicodeToAsc, terminated_of_noNul (h i)]
    rfl
  have hwhere : ∀ raw value, (Piece.text raw value whereId).bytes =
      quoted (raw.flatMap Code.bytes) " where Id=" :=
    fun raw value => piece_bytes raw value whereId rfl
  have hend : ∀ raw value, (Piece.text raw value statementEnd).bytes =
      quoted (raw.flatMap Code.bytes) ";" :=
    fun raw value => piece_bytes raw value statementEnd rfl
  show deviceHead.bytes ++ ((Piece.text _ _ whereId).bytes ++
    ((Piece.text _ _ statementEnd).bytes ++ [])) = _
  rw [hwhere, hend, deviceText, hfield, hfield, List.append_nil, List.append_assoc]
  rfl

end Sentences

end MtpSync
