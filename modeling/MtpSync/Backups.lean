import MtpSync.Dialog
import MtpSync.LogRecord.ClearLog

/-!
# Old backups

`BeginPhoneToPc` copies every file it pulls into `backUp` under the time, `YYYY-MM-DD-HH-MM-SS`.
When the dialog closes, `DeleteDirectory` goes through that folder and compares the names with the
name a backup made `BACKUPSAVETIME` hours earlier would have.

- §1 names of backups
- §2 `DeleteDirectory`
- §3 names compare like times
- §4 which backups are deleted
-/

namespace MtpSync

open Calendar

/-! ## §1 Names of backups -/

namespace Zone

variable (z : Zone)

/-- The second of the local day. -/
def secondOfDay (t : ℤ) : ℕ := ((t + z.offset t) % 86400).toNat

/-- `Format(_T("%Y-%m-%d-%H-%M-%S"))`. -/
def backupName (t : ℤ) : Path :=
  formatted t ((z.date t).text ++ '-' :: timeText (z.secondOfDay t))

/-- The clocks are never changed. -/
def Fixed : Prop := ∃ o, ∀ t, z.offset t = o

end Zone

/-- What `_time64` returns: a moment up to the end of the year 3000, or −1. -/
def ClockReading (t : ℤ) : Prop := -1 ≤ t ∧ t ≤ maxTime

/-! ## §2 `DeleteDirectory` -/

def BACKUPSAVETIME : ℤ := 24

/-- The file with the description of the folder. -/
def description : Path := "说明.txt".toList

/-- The entry is passed over: its name is that of the description or not smaller. -/
def keepsName (strName fileName : Path) : Bool :=
  fileName == description || !decide (fileName < strName)

/-- A file handed to `DeleteFile`, by the folders that lead to it. -/
structure DeletedFile where
  folders : List Path
  fileName : Path
  deriving DecidableEq

/-- `DeleteDirectory`: the files it deletes.  Each call, known by the folders down to `strDir`,
reads the clock once, before it comes to the entries. -/
def deleteDirectory (z : Zone) (GetTickCount : List Path → ℤ) (strDir : List Path) :
    Listing → List DeletedFile
  | .nil => []
  | .dots rest => deleteDirectory z GetTickCount strDir rest
  | .file fileName rest =>
    let strName := z.backupName (GetTickCount strDir - BACKUPSAVETIME * 3600)
    if keepsName strName fileName then deleteDirectory z GetTickCount strDir rest
    else ⟨strDir, fileName⟩ :: deleteDirectory z GetTickCount strDir rest
  | .dir fileName entries rest =>
    let strName := z.backupName (GetTickCount strDir - BACKUPSAVETIME * 3600)
    if keepsName strName fileName then deleteDirectory z GetTickCount strDir rest
    else
      deleteDirectory z GetTickCount (strDir ++ [fileName]) entries ++
        deleteDirectory z GetTickCount strDir rest

/-- The names of the regular files right in a folder. -/
def Listing.fileNames : Listing → List Path
  | .nil => []
  | .dots rest => rest.fileNames
  | .file fileName rest => fileName :: rest.fileNames
  | .dir _ _ rest => rest.fileNames

/-- The folder has the backup made at `t`. -/
structure HasBackup (z : Zone) (backUp : Listing) (t : ℤ) : Prop where
  valid : ValidTime t
  listed : z.backupName t ∈ backUp.fileNames

/-! ## §3 Names compare like times -/

/-- The local time, split into days and seconds. -/
private theorem local_split (z : Zone) (t : ℤ) :
    t + z.offset t = 86400 * z.day t + z.secondOfDay t ∧ z.secondOfDay t < 86400 := by
  unfold Zone.day Zone.secondOfDay
  omega

/-- **A backup's name is smaller than the name for `c`** if it was made before `c`. -/
theorem backupName_lt_iff {z : Zone} (hz : z.Fixed) {t c : ℤ} (ht : ValidTime t) :
    z.backupName t < z.backupName c ↔ ValidTime c ∧ t < c := by
  unfold Zone.backupName formatted
  rw [if_pos ht]
  by_cases hc : ValidTime c
  · obtain ⟨o, ho⟩ := hz
    obtain ⟨hday, hsecond⟩ := local_split z t
    obtain ⟨hday', hsecond'⟩ := local_split z c
    obtain ⟨hle, hlt⟩ := day_bound z ht
    obtain ⟨hle', hlt'⟩ := day_bound z hc
    rw [ho] at hday hday'
    have hdash := append_lt_append_left_iff ['-'] (timeText (z.secondOfDay t))
      (timeText (z.secondOfDay c))
    rw [List.singleton_append, List.singleton_append] at hdash
    rw [if_pos hc, Zone.date, Zone.date, dateText_append_lt_iff (by omega) (by omega), hdash,
      timeText_lt_iff hsecond hsecond']
    -- an earlier day, or the same day and an earlier second
    simp only [hc, true_and]
    omega
  · rw [if_neg hc]
    simp [hc]

/-- The description is no backup. -/
theorem backupName_ne_description (z : Zone) (t : ℤ) : z.backupName t ≠ description := by
  intro h
  have hlen := congrArg List.length h
  have hdescription : description.length = 6 := by decide +kernel
  rw [hdescription, Zone.backupName, formatted] at hlen
  split at hlen
  · rw [List.length_append, Date.length_text] at hlen
    omega
  · cases hlen

/-- What the comparison makes of a backup. -/
theorem keepsName_backup_iff {z : Zone} (hz : z.Fixed) {t now : ℤ} (ht : ValidTime t)
    (hnow : ClockReading now) :
    keepsName (z.backupName (now - BACKUPSAVETIME * 3600)) (z.backupName t) = false ↔
      t < now - 86400 := by
  have hne : (z.backupName t == description) = false :=
    beq_eq_false_iff_ne.2 (backupName_ne_description z t)
  rw [keepsName, hne, Bool.false_or, Bool.not_eq_false', decide_eq_true_eq,
    backupName_lt_iff hz ht]
  obtain ⟨h0, -⟩ := ht
  obtain ⟨-, hmax⟩ := hnow
  -- in the first day of 1970 nothing is old enough, and the name to compare with is empty
  unfold ValidTime BACKUPSAVETIME
  omega

/-! ## §4 Which backups are deleted -/

variable {z : Zone} {GetTickCount : List Path → ℤ}

/-- A file is deleted if its name is not kept, and the walk goes on. -/
private theorem mem_deleteDirectory_file {strDir : List Path} {fileName : Path} {rest : Listing}
    {d : DeletedFile} :
    d ∈ deleteDirectory z GetTickCount strDir (.file fileName rest) ↔
      (keepsName (z.backupName (GetTickCount strDir - BACKUPSAVETIME * 3600)) fileName = false ∧
          d = ⟨strDir, fileName⟩) ∨
        d ∈ deleteDirectory z GetTickCount strDir rest := by
  rw [deleteDirectory]
  split
  next hkeeps => simp only [hkeeps, reduceCtorEq, false_and, false_or]
  next hkeeps =>
    rw [Bool.not_eq_true] at hkeeps
    simp only [hkeeps, List.mem_cons, true_and]

/-- A folder whose name is not kept is walked through, and the walk goes on. -/
private theorem mem_deleteDirectory_dir {strDir : List Path} {fileName : Path}
    {entries rest : Listing} {d : DeletedFile} :
    d ∈ deleteDirectory z GetTickCount strDir (.dir fileName entries rest) ↔
      (keepsName (z.backupName (GetTickCount strDir - BACKUPSAVETIME * 3600)) fileName = false ∧
          d ∈ deleteDirectory z GetTickCount (strDir ++ [fileName]) entries) ∨
        d ∈ deleteDirectory z GetTickCount strDir rest := by
  rw [deleteDirectory]
  split
  next hkeeps => simp only [hkeeps, reduceCtorEq, false_and, false_or]
  next hkeeps =>
    rw [Bool.not_eq_true] at hkeeps
    simp only [hkeeps, List.mem_append, true_and]

/-- What a call deletes is in its folder or below it. -/
private theorem prefix_of_mem_deleteDirectory {strDir : List Path} {entries : Listing}
    {d : DeletedFile} (h : d ∈ deleteDirectory z GetTickCount strDir entries) :
    strDir <+: d.folders := by
  induction entries generalizing strDir with
  | nil => cases h
  | dots rest ih => exact ih h
  | file fileName rest ih =>
    rcases mem_deleteDirectory_file.1 h with ⟨-, rfl⟩ | h
    · exact List.prefix_rfl
    · exact ih h
  | dir fileName entries rest ihentries ihrest =>
    rcases mem_deleteDirectory_dir.1 h with ⟨-, h⟩ | h
    · exact (List.prefix_append strDir [fileName]).trans (ihentries h)
    · exact ihrest h

/-- Every name deleted has been compared with the one of its own folder's call. -/
private theorem keepsName_of_mem_deleteDirectory {strDir : List Path} {entries : Listing}
    {d : DeletedFile} (h : d ∈ deleteDirectory z GetTickCount strDir entries) :
    keepsName (z.backupName (GetTickCount d.folders - BACKUPSAVETIME * 3600)) d.fileName =
      false := by
  induction entries generalizing strDir with
  | nil => cases h
  | dots rest ih => exact ih h
  | file fileName rest ih =>
    rcases mem_deleteDirectory_file.1 h with ⟨hkeeps, rfl⟩ | h
    · exact hkeeps
    · exact ih h
  | dir fileName entries rest ihentries ihrest =>
    rcases mem_deleteDirectory_dir.1 h with ⟨-, h⟩ | h
    · exact ihentries h
    · exact ihrest h

/-- A file right in the folder is deleted if its name is not kept. -/
private theorem mem_deleteDirectory_iff (strDir : List Path) (fileName : Path)
    (entries : Listing) :
    ⟨strDir, fileName⟩ ∈ deleteDirectory z GetTickCount strDir entries ↔
      fileName ∈ entries.fileNames ∧
        keepsName (z.backupName (GetTickCount strDir - BACKUPSAVETIME * 3600)) fileName =
          false := by
  induction entries with
  | nil => exact ⟨nofun, fun h => nomatch h.1⟩
  | dots rest ih => exact ih
  | file fileName' rest ih =>
    rw [mem_deleteDirectory_file, ih, Listing.fileNames, List.mem_cons]
    constructor
    · rintro (⟨hkeeps, heq⟩ | ⟨hlisted, hkeeps⟩)
      · cases heq
        exact ⟨.inl rfl, hkeeps⟩
      · exact ⟨.inr hlisted, hkeeps⟩
    · rintro ⟨rfl | hlisted, hkeeps⟩
      · exact .inl ⟨hkeeps, rfl⟩
      · exact .inr ⟨hlisted, hkeeps⟩
  | dir fileName' entries rest _ ihrest =>
    rw [mem_deleteDirectory_dir, ihrest, Listing.fileNames]
    refine or_iff_right ?_
    rintro ⟨-, h⟩
    -- the call on the subfolder deletes only below it
    have hlen := (prefix_of_mem_deleteDirectory h).length_le
    rw [List.length_append, List.length_singleton] at hlen
    exact absurd hlen (Nat.not_succ_le_self _)

/-- **When the dialog closes, exactly the backups older than 24 hours are deleted**, whatever else
is in the folder, and no younger file with a backup's name in a folder below; the backup that a
pending rollback would push is deleted only if it is that old. -/
theorem deleteDirectory_backups {β : Type} (hz : z.Fixed)
    (hclock : ∀ dir, ClockReading (GetTickCount dir)) (backUp : Listing) :
    (∀ t, HasBackup z backUp t →
      (⟨[], z.backupName t⟩ ∈ deleteDirectory z GetTickCount [] backUp ↔
        t < GetTickCount [] - 86400)) ∧
    (∀ d ∈ deleteDirectory z GetTickCount [] backUp, ∀ t, ValidTime t →
      d.fileName = z.backupName t → t < GetTickCount d.folders - 86400) ∧
    ∀ (dlg : Dlg β) (t : ℤ), HasBackup z backUp t → dlg.m_copyName.toList = z.backupName t →
      ⟨[], dlg.m_copyName.toList⟩ ∈ deleteDirectory z GetTickCount [] backUp →
        t < GetTickCount [] - 86400 := by
  have hold : ∀ d ∈ deleteDirectory z GetTickCount [] backUp, ∀ t, ValidTime t →
      d.fileName = z.backupName t → t < GetTickCount d.folders - 86400 := by
    intro d hd t ht hname
    have hkeeps := keepsName_of_mem_deleteDirectory hd
    rw [hname] at hkeeps
    exact (keepsName_backup_iff hz ht (hclock _)).1 hkeeps
  refine ⟨fun t ht => ?_, hold, fun dlg t ht hname hdeleted => hold _ hdeleted t ht.valid hname⟩
  rw [mem_deleteDirectory_iff, keepsName_backup_iff hz ht.valid (hclock [])]
  exact and_iff_right ht.listed

/-- Two backups of 2018-06-20 and one of the day after, with a folder of an older name between
them. -/
def threeBackups : Listing :=
  .dots <| .dots <| .file (utc.backupName 1529485200) <| .dir "2017".toList
    (.file (utc.backupName 1529571600) .nil) <| .file (utc.backupName 1529496000) <|
      .file (utc.backupName 1529575200) <| .file description .nil

/-- Closed at 11:00 of the day after, the first one goes. -/
theorem threeBackups_deleted :
    (⟨[], utc.backupName 1529485200⟩ : DeletedFile) ∈
      deleteDirectory utc (fun _ => 1529578800) [] threeBackups := by
  have hreading : ClockReading 1529578800 := ⟨by decide, by decide⟩
  have hfixed : utc.Fixed := ⟨0, fun _ => rfl⟩
  have hbackups := @deleteDirectory_backups utc (fun _ => 1529578800) Unit hfixed
    (fun _ => hreading) threeBackups
  exact (hbackups.1 1529485200 ⟨by decide, by decide +kernel⟩).2 (by decide)

end MtpSync
