import MtpSync.CSQLite
import MtpSync.MyDataBase

/-!
# What a sync run works on

The temporary copy of the phone's database, the server, and the statements queued for the end
of the run; and the pointer arrays (`CStringArray**`) rows are passed around in.
-/

namespace MtpSync

/-- The state a sync run works on. -/
structure World where
  /-- the temporary SQLite file `gFilePath` -/
  sq : Sq SqliteDB
  /-- the MySQL server -/
  server : Server
  /-- `m_updateMysqlData` -/
  updateMysqlData : List MyStmt

/-- The direction of a sync. -/
inductive TongbuDir where
  | tongbu_to_phone | tongbu_to_pc
  deriving DecidableEq

/-- What a sync is for. -/
inductive RadioChoose where
  | radio_user | radio_devices | radio_work
  deriving DecidableEq

/-- Which column the selected ids are compared with. -/
inductive TongbuFw where
  | areas | devices
  deriving DecidableEq

variable {α ρ : Type}

/-- Before the run: the temporary file holds `d`, nothing has been sent. -/
def World.fresh (d : SqliteDB) (db : MysqlDB) : World where
  sq := ⟨.holds d, none, false, true⟩
  server := ⟨db, []⟩
  updateMysqlData := []

/-- A call on the temporary file. -/
def onSq (m : Act (Sq SqliteDB) α) : Act World α :=
  m.zoom (fun w => w.sq) fun q w => { w with sq := q }

/-- A call on the server. -/
def onServer (m : Act Server α) : Act World α :=
  m.zoom (fun w => w.server) fun s w => { w with server := s }

/-- A call on the temporary file runs there. -/
theorem onSq_run {m : Act (Sq SqliteDB) α} {w : World} {e : Except Halt α}
    {q : Sq SqliteDB} (h : m.run w.sq = (e, q)) : (onSq m).run w = (e, { w with sq := q }) := by
  rw [onSq, Act.zoom_run, h]

/-- A call on the server runs there. -/
theorem onServer_run {m : Act Server α} {w : World} {e : Except Halt α} {s : Server}
    (h : m.run w.server = (e, s)) :
    (onServer m).run w = (e, { w with server := s }) := by
  rw [onServer, Act.zoom_run, h]

/-- A query that succeeds reads its rows and changes nothing. -/
theorem onServer_select_run (q : MysqlDB → List ρ) (w : World) :
    (onServer (select .ok q)).run w = (.ok (some (q w.server.db)), w) := rfl

/-- An array of `count` pointers, the first of which have been assigned. -/
def ptrArray (count : ℕ) (assigned : List ρ) : List (Option ρ) :=
  assigned.map some ++ List.replicate (count - assigned.length) none

/-- Follow the first pointer of an array: undefined if it was never assigned. -/
def derefFirst (slots : List (Option ρ)) : Act World ρ :=
  match slots with
  | some r :: _ => pure r
  | _ => Act.halt .undefined

/-- `delete` every pointer of an array: undefined if one was never assigned. -/
def deleteAll (slots : List (Option ρ)) : Act World Unit :=
  if slots.all Option.isSome then pure () else Act.halt .undefined

/-- An array with every slot assigned. -/
theorem ptrArray_full (rows : List ρ) : ptrArray rows.length rows = rows.map some := by
  simp [ptrArray]

theorem derefFirst_run {rows : List ρ} (hne : rows ≠ []) (w : World) :
    ∃ r, (derefFirst (rows.map some)).run w = (.ok r, w) := by
  obtain ⟨r, rest, rfl⟩ := List.exists_cons_of_ne_nil hne
  exact ⟨r, rfl⟩

theorem deleteAll_run (rows : List ρ) (w : World) :
    (deleteAll (rows.map some)).run w = (.ok (), w) := by
  rw [deleteAll, if_pos]
  · rfl
  · simp

/-- Deleting pointers none of which was assigned is undefined. -/
theorem deleteAll_unassigned {n : ℕ} (hn : 0 < n) (w : World) :
    (deleteAll (List.replicate n (none : Option ρ))).run w = (.error .undefined, w) := by
  rw [deleteAll, if_neg]
  · rfl
  · cases n with
    | zero => exact absurd hn (Nat.lt_irrefl 0)
    | succ m => simp [List.replicate_succ]

end MtpSync
