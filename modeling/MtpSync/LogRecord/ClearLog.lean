import Mathlib.Data.Int.Notation
import MtpSync.Lib.Calendar
import MtpSync.LogRecord.Traverse

/-!
# Clearing old logs

`WriteRecordToFile` names a log after the hour, `YYYY-MM-DD-HH.log`; `ClearLog` compares these
names with the name `YYYY-MM-DD.log` of a day.  The text of the day is the same length in both, so
an earlier day is smaller and a later one greater; on the day itself `-` is compared with `.`, and
`-` is the smaller of the two.

- §1 local time
- §2 `ClearLog`
- §3 the comparison
- §4 which logs are deleted
-/

namespace MtpSync

open Calendar

/-! ## §1 Local time -/

/-- A time zone: how far its clocks are ahead of UTC, in seconds, at each moment. -/
structure Zone where
  offset : ℤ → ℤ
  bound : ∀ t, -86400 ≤ offset t ∧ offset t ≤ 86400

/-- The last moment `_localtime64_s` accepts, at the end of the year 3000. -/
def maxTime : ℤ := 32535215999

/-- `_localtime64_s` accepts the moment. -/
def ValidTime (t : ℤ) : Prop := 0 ≤ t ∧ t ≤ maxTime

instance (t : ℤ) : Decidable (ValidTime t) := inferInstanceAs (Decidable (_ ∧ _))

/-- `CTime::Format`: a moment without a local time gives the empty text. -/
def formatted (t : ℤ) (text : List Char) : Path := if ValidTime t then text else []

namespace Zone

variable (z : Zone)

/-- The local day of a moment, in days from 1970-01-01. -/
def day (t : ℤ) : ℤ := (t + z.offset t) / 86400

/-- The local date. -/
def date (t : ℤ) : Date := .ofDay (z.day t + 25567).toNat

/-- `tm_hour`. -/
def tm_hour (t : ℤ) : ℕ := ((t + z.offset t) % 86400 / 3600).toNat

/-- `Format(_T("%Y-%m-%d.log"))`. -/
def dayName (t : ℤ) : Path := formatted t ((z.date t).text ++ ".log".toList)

/-- The log of an hour, `Format("%Y-%m-%d-%H")` and `.log`. -/
def logName (t : ℤ) : Path :=
  formatted t ((z.date t).text ++ '-' :: pad 2 (z.tm_hour t)) ++ ".log".toList

end Zone

/-! ## §2 `ClearLog` -/

/-- `strPath.Right(strPath.GetLength() - strPath.ReverseFind(_T('\\'))-1)`. -/
def fileName (strPath : Path) : Path := (strPath.reverse.takeWhile (· ≠ '\\')).reverse

/-- `GetCurrentTime() - CTimeSpan( day, 0, 0, 0 )`. -/
def cutoff (now : ℤ) (day : ℕ) : ℤ := now - 86400 * day

/-- The paths `ClearLog` hands to `DeleteFile`, of those it has listed. -/
def clearListed (z : Zone) (now : ℤ) (day : ℕ) (vec : List Path) : List Path :=
  vec.filter fun strPath => decide (fileName strPath < z.dayName (cutoff now day))

/-- `CLogRecord::ClearLog` on the folder of the logs. -/
def clearLog (z : Zone) (now : ℤ) (day : ℕ) (logStr : Path) (logfiles : Listing) : List Path :=
  clearListed z now day (logfiles.traverseDir logStr [])

/-- The listed path is that of the log written at `t`. -/
structure IsLog (z : Zone) (vec : List Path) (strPath : Path) (t : ℤ) : Prop where
  listed : strPath ∈ vec
  valid : ValidTime t
  name : fileName strPath = z.logName t

/-- A listed log is deleted if its date is earlier than today minus `day` days. -/
def KeepsRecentLogs (z : Zone) (now : ℤ) (day : ℕ) (vec deleted : List Path) : Prop :=
  ∀ strPath t, IsLog z vec strPath t → (strPath ∈ deleted ↔ z.day t < z.day now - day)

/-! ## §3 The comparison -/

/-- Local days of valid moments are on the calendar. -/
theorem day_bound (z : Zone) {t : ℤ} (ht : ValidTime t) :
    0 ≤ z.day t + 25567 ∧ z.day t + 25567 < 438000 := by
  have hbound := z.bound t
  obtain ⟨hle, hlt⟩ := ht
  unfold maxTime at hlt
  unfold Zone.day
  omega

/-- **A log's name is smaller than the name of a day** if its own day is not later: on the same
day the `-` before the hour is smaller than the `.` before `log`. -/
theorem logName_lt_iff (z : Zone) {t c : ℤ} (ht : ValidTime t) :
    z.logName t < z.dayName c ↔ ValidTime c ∧ z.day t ≤ z.day c := by
  unfold Zone.logName Zone.dayName formatted
  rw [if_pos ht]
  by_cases hc : ValidTime c
  · obtain ⟨hle, hlt⟩ := day_bound z ht
    obtain ⟨hle', hlt'⟩ := day_bound z hc
    -- on one day the names go on with `-` and with `.`
    have hdash : '-' :: pad 2 (z.tm_hour t) ++ ".log".toList < ".log".toList := by
      have htext : ".log".toList = '.' :: "log".toList := by decide +kernel
      rw [htext, List.cons_append, List.cons_lt_cons_iff]
      exact .inl (by decide)
    rw [if_pos hc, List.append_assoc, Zone.date, Zone.date,
      dateText_append_lt_iff (by omega) (by omega)]
    simp only [hc, hdash, and_true, true_and]
    omega
  · rw [if_neg hc]
    simp [hc]

/-! ## §4 Which logs are deleted -/

/-- What `ClearLog` does to a listed log. -/
theorem mem_clearListed_iff {z : Zone} {now : ℤ} {day : ℕ} {vec : List Path} {strPath : Path}
    {t : ℤ} (h : IsLog z vec strPath t) :
    strPath ∈ clearListed z now day vec ↔
      ValidTime (cutoff now day) ∧ z.day t ≤ z.day (cutoff now day) := by
  rw [clearListed, List.mem_filter, decide_eq_true_eq, h.name, logName_lt_iff z h.valid]
  exact and_iff_right h.listed

/-- No listed log is from a day on which `ClearLog` and its comment differ: from today minus `day`
days up to the day of the moment so many times 24 hours ago, which is the same day unless the
clocks were changed in between.  A moment before 1970 has no name. -/
def NoLogOnBoundary (z : Zone) (now : ℤ) (day : ℕ) (vec : List Path) : Prop :=
  ∀ strPath t, IsLog z vec strPath t →
    if ValidTime (cutoff now day) then
      ¬(z.day now - day ≤ z.day t ∧ z.day t ≤ z.day (cutoff now day)) ∧
        ¬(z.day (cutoff now day) < z.day t ∧ z.day t < z.day now - day)
    else z.day now - day ≤ z.day t

/-- **`ClearLog` deletes the logs its comment says** if no log it has listed is from the boundary
day; logs of that day are deleted too. -/
theorem clearLog_keeps_iff (z : Zone) (now : ℤ) (day : ℕ) (logStr : Path) (logfiles : Listing) :
    KeepsRecentLogs z now day (logfiles.traverseDir logStr [])
        (clearLog z now day logStr logfiles) ↔
      NoLogOnBoundary z now day (logfiles.traverseDir logStr []) := by
  unfold KeepsRecentLogs NoLogOnBoundary clearLog
  refine forall_congr' fun strPath => forall_congr' fun t => forall_congr' fun hlog => ?_
  rw [mem_clearListed_iff hlog]
  -- a moment before 1970 has the empty name, and no log is smaller than that
  by_cases hc : ValidTime (cutoff now day)
  · rw [if_pos hc]
    simp only [hc, true_and]
    omega
  · rw [if_neg hc]
    simp only [hc, false_and, false_iff]
    omega

/-- Clocks that show UTC. -/
def utc : Zone := ⟨fun _ => 0, fun _ => by decide⟩

/-- Two logs of 2018-06-21, the later of which is the one being written. -/
def todaysLogs : Listing :=
  .dots <| .dots <| .file (utc.logName 1529571600) <| .file (utc.logName 1529582400) .nil

/-- With a count of 0 the log of the same morning is deleted. -/
theorem todays_log_deleted :
    ¬KeepsRecentLogs utc 1529582400 0 (todaysLogs.traverseDir "logfiles".toList [])
      (clearLog utc 1529582400 0 "logfiles".toList todaysLogs) := by
  intro h
  have hlog : IsLog utc (todaysLogs.traverseDir "logfiles".toList [])
      (filePath "logfiles".toList (utc.logName 1529571600)) 1529571600 :=
    ⟨by decide +kernel, by decide +kernel, by decide +kernel⟩
  have hdeleted := (h _ _ hlog).1 (by decide +kernel)
  exact absurd hdeleted (by decide +kernel)

end MtpSync
