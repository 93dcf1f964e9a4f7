import MtpSync.Dialog
import MtpSync.Switch

/-!
# The workers

`MyControllingFunction` and `BeginClearThread`: pull the phone's database, work on it, push it
back.

- §1 the workers
-/

namespace MtpSync

variable {β : Type}

/-! ## §1 The workers -/

/-- What the calls of `MyControllingFunction` return. -/
structure SyncRc where
  /-- the user confirms -/
  yes : Bool
  pull : PhoneToPcRc
  switch : SwitchRc
  push : PushRc

/-- `MyControllingFunction`: whether the sync is reported as complete. -/
def myControllingFunction (fmt : SqliteFormat β) (sel : Selection) (dir : TongbuDir)
    (mode : RadioChoose) (rc : SyncRc) : Act (Dlg β) Bool :=
  if rc.yes then do
    match ← beginPhoneToPc fmt rc.pull with
    | none => pure false
    | some strDevID =>
      if ← onWorld (beginSwitchData sel dir mode rc.switch) then
        beginPcToPhone fmt rc.push strDevID
      else pure false
  else pure false

/-- What the calls of `BeginClearThread` return. -/
structure ClearThreadRc where
  /-- the days chosen, as days -/
  timeBegin : ℕ
  timeEnd : ℕ
  /-- the same days, as the texts the query uses -/
  range : Window
  pull : PhoneToPcRc
  clear : ClearRc
  push : PushRc

/-- `BeginClearThread`. -/
def beginClearThread (fmt : SqliteFormat β) (rc : ClearThreadRc) : Act (Dlg β) Bool :=
  if rc.timeBegin > rc.timeEnd then pure false
  else do
    match ← beginPhoneToPc fmt rc.pull with
    | none => pure false
    | some strDevID =>
      if ← onWorld (synchrodataClearRecord rc.range rc.clear) then
        beginPcToPhone fmt rc.push strDevID
      else pure false

end MtpSync
