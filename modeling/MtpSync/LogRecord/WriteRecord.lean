import MtpSync.LogRecord.ClearLog
import MtpSync.Upload.Quoting
import Mathlib.Logic.Function.Basic

/-!
# Writing the log

`WriteRecordToFile` keeps one file open from call to call.  It names the log of the hour, looks
whether that is there and opens it if not; it closes the file it has open only then.  The folder,
the name and the stamp of a record come from three readings of the clock.

- §1 the logs and the open file
- §2 `WriteRecordToFile`
- §3 the file a record goes to
- §4 runs
-/

namespace MtpSync

open Calendar
open SqlText (Bytes CodePage)

/-! ## §1 The logs and the open file -/

/-- What is on the disk. -/
structure LogDisk where
  PathIsDirectory : Path → Bool
  file : Path → Option Bytes

def LogDisk.PathFileExists (d : LogDisk) (path : Path) : Bool :=
  d.PathIsDirectory path || (d.file path).isSome

/-- `CLogRecord`, with the disk. -/
structure CLogRecord where
  m_logFileDir : Path
  /-- the file that is open, unless the handle is `hFileNull` -/
  m_logFile : Option Path
  disk : LogDisk

/-- What one call is given, and what the calls it makes return. -/
structure WriteRc where
  strLog : List Char
  /-- the three readings of `GetCurrentTime` -/
  dirTime : ℤ
  nameTime : ℤ
  stampTime : ℤ
  CreateDirectory : Bool
  Open : Bool

namespace Zone

variable (z : Zone)

/-- `Format("%Y-%m-%d")`. -/
def dayText (t : ℤ) : Path := formatted t (z.date t).text

/-- `Format("%Y-%m-%d %H:%M:%S:\r\n")`. -/
def stamp (t : ℤ) : List Char :=
  let s := ((t + z.offset t) % 86400).toNat
  formatted t ((z.date t).text ++ ' ' :: (pad 2 (s / 3600) ++ ':' ::
    (pad 2 (s % 3600 / 60) ++ ':' :: (pad 2 (s % 60) ++ ":\r\n".toList))))

end Zone

/-! ## §2 `WriteRecordToFile` -/

/-- The bytes of a record: text up to a null character, in the code page of the system. -/
def recordBytes (z : Zone) (p : CodePage) (rc : WriteRc) : Bytes :=
  let strCurDate := z.stamp rc.stampTime ++ rc.strLog
  p.bytes (.ofList (strCurDate.takeWhile (· ≠ '\x00'))) ++ SqlText.ascii "\r\n"

/-- The folder of a day. -/
def dayDir (z : Zone) (m_logFileDir : Path) (t : ℤ) : Path :=
  m_logFileDir ++ '\\' :: z.dayText t

/-- `"%s\\%s\\%s.log"`. -/
def hourLog (z : Zone) (m_logFileDir : Path) (dirTime nameTime : ℤ) : Path :=
  dayDir z m_logFileDir dirTime ++ '\\' :: z.logName nameTime

/-- The folder of the day is there, or `CreateDirectory` makes it. -/
def folderReady (z : Zone) (rc : WriteRc) (s : CLogRecord) : Bool :=
  s.disk.PathIsDirectory (dayDir z s.m_logFileDir rc.dirTime) || rc.CreateDirectory

/-- The log to look for, `logStr`; without a folder for the day it is right in the folder of the
logs. -/
def logStr (z : Zone) (rc : WriteRc) (s : CLogRecord) : Path :=
  if folderReady z rc s then hourLog z s.m_logFileDir rc.dirTime rc.nameTime
  else s.m_logFileDir ++ '\\' :: z.logName rc.nameTime

/-- `CreateDirectory`, where the folder of the day is missing. -/
def makeDir (z : Zone) (rc : WriteRc) (s : CLogRecord) : CLogRecord :=
  let dir := dayDir z s.m_logFileDir rc.dirTime
  if s.disk.PathIsDirectory dir then s
  else if rc.CreateDirectory then
    { s with disk := { s.disk with
        PathIsDirectory := Function.update s.disk.PathIsDirectory dir true } }
  else s

/-- `SeekToEnd` and `Write`, if a file is open. -/
def writeOpen (record : Bytes) (s : CLogRecord) : CLogRecord :=
  match s.m_logFile with
  | none => s
  | some path =>
    { s with disk := { s.disk with
        file := Function.update s.disk.file path (some ((s.disk.file path).getD [] ++ record)) } }

/-- `Open` with `modeCreate`. -/
def createLog (path : Path) (s : CLogRecord) : CLogRecord :=
  { s with
    m_logFile := some path
    disk := { s.disk with file := Function.update s.disk.file path (some []) } }

/-- `CLogRecord::WriteRecordToFile`. -/
def writeRecordToFile (z : Zone) (p : CodePage) (rc : WriteRc) (s : CLogRecord) : CLogRecord :=
  let path := logStr z rc s
  let s := makeDir z rc s
  if s.disk.PathFileExists path then
    match s.m_logFile with
    | none =>
      if rc.Open then writeOpen (recordBytes z p rc) { s with m_logFile := some path } else s
    -- whichever file is open
    | some _ => writeOpen (recordBytes z p rc) s
  else if rc.Open then writeOpen (recordBytes z p rc) (createLog path s)
  else { s with m_logFile := none }

/-! ## §3 The file a record goes to -/

/-- The log whose folder and name match the stamp. -/
def stampLog (z : Zone) (rc : WriteRc) (s : CLogRecord) : Path :=
  hourLog z s.m_logFileDir rc.stampTime rc.stampTime

/-- The call writes nothing, or it appends its record to the log of the stamp and touches no other
file. -/
def RecordPlaced (z : Zone) (p : CodePage) (rc : WriteRc) (s s' : CLogRecord) : Prop :=
  s'.disk.file = s.disk.file ∨
    s'.disk.file = Function.update s.disk.file (stampLog z rc s)
      (some ((s.disk.file (stampLog z rc s)).getD [] ++ recordBytes z p rc))

/-- The readings of a call name one log, in a folder of its day. -/
def OneHour (z : Zone) (rc : WriteRc) (s : CLogRecord) : Prop :=
  folderReady z rc s = true ∧ z.dayText rc.dirTime = z.dayText rc.stampTime ∧
    z.logName rc.nameTime = z.logName rc.stampTime

/-- The log to look for is not there while another file is open, and a file that has to be opened
is that of the stamp. -/
def MeetsHour (z : Zone) (rc : WriteRc) (s : CLogRecord) : Prop :=
  match s.m_logFile with
  | some path =>
    if s.disk.PathFileExists (logStr z rc s) then path = stampLog z rc s
    else rc.Open = true → OneHour z rc s
  | none => rc.Open = true → OneHour z rc s

variable {z : Zone} {p : CodePage} {rc : WriteRc} {s : CLogRecord}

/-- The file a call writes to. -/
private def written (z : Zone) (rc : WriteRc) (s : CLogRecord) : Option Path :=
  match s.m_logFile with
  | some path =>
    if s.disk.PathFileExists (logStr z rc s) then some path
    else if rc.Open then some (logStr z rc s) else none
  | none => if rc.Open then some (logStr z rc s) else none

@[simp] private theorem makeDir_file : (makeDir z rc s).disk.file = s.disk.file := by
  unfold makeDir
  dsimp only
  split_ifs <;> rfl

@[simp] private theorem makeDir_m_logFile : (makeDir z rc s).m_logFile = s.m_logFile := by
  unfold makeDir
  dsimp only
  split_ifs <;> rfl

/-- The log to look for is not the folder that is made. -/
private theorem makeDir_PathFileExists :
    (makeDir z rc s).disk.PathFileExists (logStr z rc s) =
      s.disk.PathFileExists (logStr z rc s) := by
  unfold makeDir
  dsimp only
  split
  · rfl
  · split
    · rename_i hcreate
      have hne : logStr z rc s ≠ dayDir z s.m_logFileDir rc.dirTime := by
        intro h
        have hlen := congrArg List.length h
        simp [logStr, folderReady, hcreate, hourLog] at hlen
      simp [LogDisk.PathFileExists, Function.update_of_ne hne]
    · rfl

/-- Writing to the open file. -/
private theorem writeOpen_file {path : Path} (h : s.m_logFile = some path) (record : Bytes) :
    (writeOpen record s).m_logFile = some path ∧
      (writeOpen record s).disk.file =
        Function.update s.disk.file path (some ((s.disk.file path).getD [] ++ record)) := by
  obtain ⟨dir, handle, disk⟩ := s
  cases h
  exact ⟨rfl, rfl⟩

/-- A file that is not there is created and written. -/
private theorem createLog_file {path : Path} (h : s.disk.PathFileExists path = false)
    (record : Bytes) :
    (writeOpen record (createLog path s)).m_logFile = some path ∧
      (writeOpen record (createLog path s)).disk.file =
        Function.update s.disk.file path (some ((s.disk.file path).getD [] ++ record)) := by
  have hfile : s.disk.file path = none :=
    Option.isNone_iff_eq_none.1 (by simpa using (Bool.or_eq_false_iff.1 h).2)
  refine ⟨rfl, ?_⟩
  simp only [writeOpen, createLog, Function.update_self, Function.update_idem, Option.getD_some,
    List.nil_append, hfile, Option.getD_none]

/-- What a call does to the files, and the file it leaves open. -/
private theorem writeRecordToFile_eq (z : Zone) (p : CodePage) (rc : WriteRc) (s : CLogRecord) :
    (writeRecordToFile z p rc s).m_logFile = written z rc s ∧
      (writeRecordToFile z p rc s).disk.file =
        match written z rc s with
        | none => s.disk.file
        | some path => Function.update s.disk.file path
            (some ((s.disk.file path).getD [] ++ recordBytes z p rc)) := by
  have hfiles := @makeDir_file z rc s
  have hhandle := @makeDir_m_logFile z rc s
  have hexists := @makeDir_PathFileExists z rc s
  unfold writeRecordToFile written
  dsimp only
  rw [hexists, ← hfiles, ← hhandle]
  generalize makeDir z rc s = s₁ at hexists
  cases hthere : s.disk.PathFileExists (logStr z rc s) with
  | true =>
    rw [if_pos rfl]
    cases hopen : s₁.m_logFile with
    | none =>
      -- the log is there, and no file is open
      cases hrc : rc.Open with
      | true => exact writeOpen_file (s := { s₁ with m_logFile := some (logStr z rc s) }) rfl _
      | false => exact ⟨hopen, rfl⟩
    | some path => exact writeOpen_file hopen _
  | false =>
    rw [hthere] at hexists
    rw [if_neg Bool.false_ne_true]
    -- the log is not there: what was open plays no part
    cases hopen : s₁.m_logFile with
    | none =>
      cases hrc : rc.Open with
      | true => exact createLog_file hexists _
      | false => exact ⟨rfl, rfl⟩
    | some path =>
      cases hrc : rc.Open with
      | true => exact createLog_file hexists _
      | false => exact ⟨rfl, rfl⟩

@[simp] theorem writeRecordToFile_m_logFileDir :
    (writeRecordToFile z p rc s).m_logFileDir = s.m_logFileDir := by
  unfold writeRecordToFile makeDir writeOpen createLog
  dsimp only
  repeat' split
  all_goals rfl

/-- A record is not empty, so a file it is appended to changes. -/
private theorem append_record_ne (z : Zone) (p : CodePage) (rc : WriteRc) (old : Option Bytes) :
    some (old.getD [] ++ recordBytes z p rc) ≠ old := by
  have hend : SqlText.ascii "\r\n" ≠ [] := by decide +kernel
  have hne : recordBytes z p rc ≠ [] := List.append_ne_nil_of_right_ne_nil _ hend
  cases old with
  | none => simp
  | some old => simpa using hne

/-- A call that writes to a file places its record if that is the log of the stamp. -/
private theorem placed_iff_written :
    RecordPlaced z p rc s (writeRecordToFile z p rc s) ↔
      ∀ path, written z rc s = some path → path = stampLog z rc s := by
  obtain ⟨-, hfile⟩ := writeRecordToFile_eq z p rc s
  rw [RecordPlaced, hfile]
  cases hwritten : written z rc s with
  | none => simp
  | some path =>
    simp only [Option.some.injEq, forall_eq']
    refine ⟨fun h => ?_, fun h => h ▸ .inr rfl⟩
    by_contra hne
    -- the file written to has changed, and it is neither of the files that may be as they are
    have hsame : (some ((s.disk.file path).getD [] ++ recordBytes z p rc) : Option Bytes) =
        s.disk.file path := by
      rcases h with h | h
      · simpa using congrFun h path
      · simpa [Function.update_of_ne hne] using congrFun h path
    exact append_record_ne z p rc _ hsame

private theorem length_dayText (z : Zone) (t : ℤ) :
    (z.dayText t).length = 10 ∨ (z.dayText t).length = 0 := by
  unfold Zone.dayText formatted
  split
  · exact .inl (Date.length_text _)
  · exact .inr rfl

private theorem length_logName (z : Zone) (t : ℤ) :
    (z.logName t).length = 17 ∨ (z.logName t).length = 4 := by
  have hlog : ".log".toList.length = 4 := by decide +kernel
  unfold Zone.logName formatted
  split
  · exact .inl (by simp [Date.length_text])
  · exact .inr hlog

/-- The log looked for is that of the stamp if the readings name one log in a folder of its
day. -/
private theorem logStr_eq_iff : logStr z rc s = stampLog z rc s ↔ OneHour z rc s := by
  have hday := length_dayText z rc.dirTime
  have hday' := length_dayText z rc.stampTime
  have hname := length_logName z rc.nameTime
  have hname' := length_logName z rc.stampTime
  unfold logStr stampLog OneHour hourLog dayDir
  cases hready : folderReady z rc s with
  | true =>
    rw [if_pos rfl, List.append_assoc, List.append_assoc, List.append_cancel_left_eq,
      List.cons_append, List.cons_append, List.cons.injEq]
    constructor
    · rintro ⟨-, h⟩
      -- the lengths tell where the name of the folder ends
      have hlen := congrArg List.length h
      simp only [List.length_append, List.length_cons] at hlen
      obtain ⟨hfolder, hlog⟩ := List.append_inj h (by omega)
      exact ⟨rfl, hfolder, (List.cons.inj hlog).2⟩
    · rintro ⟨-, hfolder, hlog⟩
      rw [hfolder, hlog]
      exact ⟨rfl, rfl⟩
  | false =>
    refine ⟨fun h => ?_, fun h => absurd h.1 Bool.false_ne_true⟩
    have hlen := congrArg List.length h
    simp only [Bool.false_eq_true, if_false, List.length_append, List.length_cons] at hlen
    omega

/-- **What one call does**: it places its record if it meets the hour. -/
theorem placed_iff :
    RecordPlaced z p rc s (writeRecordToFile z p rc s) ↔ MeetsHour z rc s := by
  rw [placed_iff_written, written, MeetsHour, ← logStr_eq_iff]
  cases s.m_logFile with
  | none => cases rc.Open <;> simp
  | some path =>
    cases s.disk.PathFileExists (logStr z rc s) with
    | true => simp
    | false => cases rc.Open <;> simp

/-! ## §4 Runs -/

/-- A property of each call of a run, in the state it finds. -/
def Throughout (z : Zone) (p : CodePage) (P : WriteRc → CLogRecord → Prop) :
    CLogRecord → List WriteRc → Prop
  | _, [] => True
  | s, rc :: rest => P rc s ∧ Throughout z p P (writeRecordToFile z p rc s) rest

/-- **Every record is placed**, over any sequence of calls from any state, if every call meets the
hour. -/
theorem records_placed_iff (z : Zone) (p : CodePage) (s : CLogRecord) (calls : List WriteRc) :
    Throughout z p (fun rc s => RecordPlaced z p rc s (writeRecordToFile z p rc s)) s calls ↔
      Throughout z p (MeetsHour z) s calls := by
  induction calls generalizing s with
  | nil => exact Iff.rfl
  | cons rc rest ih => exact and_congr placed_iff (ih _)

/-- The clock does not go back, within a call and from call to call. -/
def ClockForward (calls : List WriteRc) : Prop :=
  (calls.flatMap fun rc => [rc.dirTime, rc.nameTime, rc.stampTime]).Pairwise (· ≤ ·)

/-- A call at one moment, whose folder can be made and whose file can be opened. -/
def callAt (t : ℤ) (strLog : List Char) : WriteRc := ⟨strLog, t, t, t, true, true⟩

/-- The log of 11 o'clock is there already, as a second start of the program leaves it. -/
def laterLogThere : CLogRecord where
  m_logFileDir := "logfiles".toList
  m_logFile := none
  disk :=
    { PathIsDirectory := fun path => path == dayDir utc "logfiles".toList 1529579400
      file := Function.update (fun _ => none)
        (hourLog utc "logfiles".toList 1529579400 1529579400) (some []) }

/-- A record of 11:10 on 2018-06-21 goes to the log of 10 o'clock, which is still open. -/
theorem second_record_misplaced : ¬∀ (z : Zone) (p : CodePage) (s : CLogRecord)
    (calls : List WriteRc), s.m_logFile = none → ClockForward calls →
      Throughout z p (fun rc s => RecordPlaced z p rc s (writeRecordToFile z p rc s)) s calls := by
  intro h
  have hforward : ClockForward [callAt 1529577000 ['a'], callAt 1529579400 ['b']] := by
    unfold ClockForward
    decide +kernel
  have hsecond := placed_iff.1 (h utc page936 laterLogThere _ rfl hforward).2.1
  -- the first call leaves the log of 10 o'clock open
  have hopen : (writeRecordToFile utc page936 (callAt 1529577000 ['a']) laterLogThere).m_logFile =
      some (hourLog utc "logfiles".toList 1529577000 1529577000) := by decide +kernel
  rw [MeetsHour, hopen] at hsecond
  dsimp only at hsecond
  rw [if_pos (by decide +kernel)] at hsecond
  exact absurd hsecond (by decide +kernel)

/-- **Where the records are** after a run in which every call meets the hour: some are not
written, and each log has those whose stamp names it behind what was there, in order. -/
theorem files_of_run {calls : List WriteRc} (h : Throughout z p (MeetsHour z) s calls) :
    ∃ kept : List WriteRc, kept.Sublist calls ∧ ∀ path,
      ((calls.foldl (fun s rc => writeRecordToFile z p rc s) s).disk.file path).getD [] =
        (s.disk.file path).getD [] ++
          (kept.filter fun rc => stampLog z rc s = path).flatMap (recordBytes z p) := by
  induction calls generalizing s with
  | nil => exact ⟨[], List.Sublist.refl [], fun path => (List.append_nil _).symm⟩
  | cons rc rest ih =>
    obtain ⟨kept, hkept, hfiles⟩ := ih h.2
    -- the folder of the logs stays the same, and with it the log of a stamp
    have hstamp : ∀ rc', stampLog z rc' (writeRecordToFile z p rc s) = stampLog z rc' s := by
      intro rc'
      rw [stampLog, writeRecordToFile_m_logFileDir]
      rfl
    simp only [hstamp] at hfiles
    rcases placed_iff.2 h.1 with hsame | hplaced
    · refine ⟨kept, hkept.cons rc, fun path => ?_⟩
      rw [List.foldl_cons, hfiles, hsame]
    · refine ⟨rc :: kept, hkept.cons_cons rc, fun path => ?_⟩
      rw [List.foldl_cons, hfiles, hplaced, List.filter_cons]
      by_cases hpath : stampLog z rc s = path
      · subst hpath
        simp
      · simp [Function.update_of_ne (Ne.symm hpath), hpath]

end MtpSync
