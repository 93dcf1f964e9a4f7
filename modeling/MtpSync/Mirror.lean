import MtpSync.Download.Copies
import MtpSync.Marks

/-!
# Copied rows, on the phone and on the server

A row is copied with what was read and then marked on the server by a statement of its own.  The
two rows that are left agree column by column, except where the copy and the statement differ:
the state of an issued task, the bit of a device, and the marks some routines leave as they were
read.

- §1 the columns both tables have
- §2 a copy and its marked row
- §3 a run in which nothing fails
- §4 an issued task
-/

namespace MtpSync

open Act

variable {β : Type}

/-! ## §1 Columns -/

namespace MarkTable

end MarkTable

namespace MarkTable

end MarkTable

/-! ## §3 A run in which nothing fails -/

/-- `P` of every row copied in the run that ended in `t'`, as far as the server still has it, and
its copy on the phone.  The copy is there, unless it is a task or a record. -/
def CopiedRows (fmt : SqliteFormat β) (t' : Dlg β) (strDevID : String)
    (P : (t : MarkTable) → SqlRow t.PhoneCol → SqlRow t.ServerCol → Prop) : Prop :=
  ∀ t : MarkTable, ∀ st ∈ t'.world.updateMysqlData, ∀ y ∈ t.server t'.world.server.db,
    st.Marks t y.Id → t'.OnPhone fmt strDevID fun d =>
      (¬t.Pruned → ∃ x ∈ t.phone d, x.Id = y.Id) ∧ ∀ x ∈ t.phone d, x.Id = y.Id → P t x y

section Run

variable {fmt : SqliteFormat β} {sel : Selection} {mode : RadioChoose} {rc : SyncRc}

/-- Nothing was copied if nothing is queued. -/
private theorem CopiedRows.of_nil {t' : Dlg β} {strDevID : String}
    {P : (t : MarkTable) → SqlRow t.PhoneCol → SqlRow t.ServerCol → Prop}
    (h : t'.world.updateMysqlData = []) : CopiedRows fmt t' strDevID P := by
  intro t st hst
  rw [h] at hst
  exact absurd hst List.not_mem_nil

end Run

/-- A task of device `dev` that was issued and is not on the phone yet. -/
def issuedTask : SqlRow WorkTaskCol where
  Id := "task"
  col := fun
    | .DeviceId => some "dev"
    | .Level => some "0"
    | .State => some "1"
    | .SynchronState => some "0"
    | .CreateDate => some "2018-06-20 08:00:00"
    | _ => some ""

/-- The task is on the server, with its device, and the phone's database is empty. -/
def Dlg.issuedTask : Dlg SqliteDB :=
  { Dlg.pushing with
    world := World.fresh SqliteDB.empty
      { MysqlDB.empty with
        device_info := ⟨[MtpSync.newDevice ""], newDevice_nodup ""⟩
        work_task := ⟨[MtpSync.issuedTask], by decide⟩ } }

/-- The phone's database in the end. -/
def SqliteDB.issuedTask : SqliteDB :=
  { SqliteDB.empty with work_task := ⟨[taskToPhone MtpSync.issuedTask], by decide⟩ }

end MtpSync
