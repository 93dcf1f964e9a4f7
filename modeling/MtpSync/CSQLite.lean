import MtpSync.Lib.Act
import MtpSync.Schema

/-!
# The SQLite wrapper

`CSQLite` over a database content `D`.  Every operation of the wrapper is the sequence of SQLite
calls the source makes, and the return code of every call is a parameter.

After a failed `sqlite3_prepare_v2` or `sqlite3_step` the wrapper closes the connection and keeps
the stale handle; SQLite answers `SQLITE_MISUSE` to every later call on it, so such calls fail
here.  Closing a connection rolls its open transaction back.

`QuickInsertData` and `QuickDeletData` prepare one statement and bind and step it once for each
row.  `sqlite3_bind` looks at no result of `sqlite3_bind_text16`, and `sqlite3_reset` keeps the
bindings: a parameter whose bind fails keeps the value of an earlier row, or is NULL.

- §1 files and connections
- §2 the single calls
- §3 rows and parameters
- §4 the operations of the wrapper
- §5 what the operations do
- §6 transactions
-/

namespace MtpSync

/-! ## §1 Files and connections -/

/-- A database file. -/
inductive DbFile (D : Type) where
  /-- there is no such file -/
  | missing
  /-- the empty file `sqlite3_open` creates: no tables -/
  | blank
  /-- a database -/
  | holds (d : D)
  deriving DecidableEq

/-- The tables of the file, if it has any. -/
def DbFile.tables {D : Type} : DbFile D → Option D
  | .holds d => some d
  | _ => none

/-- Change the tables of the file. -/
def DbFile.map {D : Type} (f : D → D) : DbFile D → DbFile D
  | .holds d => .holds (f d)
  | x => x

/-- `sqlite3_open` creates the file it does not find. -/
def DbFile.created {D : Type} : DbFile D → DbFile D
  | .missing => .blank
  | x => x

/-- `PathFileExists`. -/
def DbFile.pathFileExists {D : Type} : DbFile D → Bool
  | .missing => false
  | _ => true

/-- The temporary database file, the connection to it and the gate in front of it. -/
structure Sq (D : Type) where
  /-- the committed content -/
  file : DbFile D
  /-- the content inside the open transaction -/
  tx : Option (DbFile D)
  /-- whether the handle is a live connection -/
  connected : Bool
  /-- whether the auto-reset event `m_eventOpenDB` is signalled -/
  eventOpenDB : Bool

variable {D ρ : Type}

/-- What a statement sees. -/
def Sq.content (s : Sq D) : DbFile D := s.tx.getD s.file

/-- `sqlite3_close`. -/
def Sq.closed (s : Sq D) : Sq D := { s with tx := none, connected := false }

/-! ## §2 Single calls -/

/-- `CSQLite::sqlite3_prepare`; a statement on a table needs the table. -/
def sqlite3Prepare (ok onTables : Bool) : Act (Sq D) Bool where
  run s :=
    if s.connected && ok && (!onTables || s.content.tables.isSome) then (.ok true, s)
    else (.ok false, s.closed)

/-- `CSQLite::sqlite_step` on a statement with effect `f`; `none` is an SQL error. -/
def sqliteStep (ok : Bool) (f : Sq D → Option (Sq D)) : Act (Sq D) Bool where
  run s :=
    match if s.connected && ok then f s else none with
    | some s' => (.ok true, s')
    | none => (.ok false, s.closed)

/-- `BEGIN TRANSACTION`. -/
def beginTransaction (s : Sq D) : Option (Sq D) :=
  if s.tx.isSome then none else some { s with tx := some s.file }

/-- `commit`. -/
def commit (s : Sq D) : Option (Sq D) :=
  s.tx.map fun d => { s with file := d, tx := none }

/-- A statement that changes the tables. -/
def change (f : D → D) (s : Sq D) : Option (Sq D) :=
  match s.tx with
  | some d => some { s with tx := some (d.map f) }
  | none => some { s with file := s.file.map f }

/-! ## §3 Rows and parameters -/

/-- How `sqlite3_bind_text16` ends: a failure leaves the parameter as it was (`SQLITE_RANGE`,
`SQLITE_MISUSE`), or NULL (`SQLITE_TOOBIG`, `SQLITE_NOMEM`). -/
inductive BindRc where
  | ok | unchanged | cleared
  deriving DecidableEq

/-- The rows a statement is executed for, as values of its parameters. -/
class Bound (ρ : Type) where
  Param : Type
  /-- the place of a parameter in the statement, from `0` on -/
  position : Param → ℕ
  value : ρ → Param → Text
  /-- the row that the statement stands for then; none if its key is NULL -/
  row : (Param → Text) → Option ρ
  row_value : ∀ r, row (value r) = some r

/-- A statement with an id as its only parameter. -/
instance : Bound String where
  Param := Unit
  position _ := 0
  value i _ := some i
  row params := params ()
  row_value _ := rfl

/-- A `REPLACE INTO`: the key and the columns. -/
instance {C : Type} [Columns C] : Bound (SqlRow C) where
  Param := Option C
  position p := p.elim 0 Columns.position
  value r p := p.elim (some r.Id) r.col
  row params := (params none).map fun i => ⟨i, fun c => params (some c)⟩
  row_value _ := rfl

/-- The parameters behind the binds of a row. -/
def bindParams {ρ : Type} [Bound ρ] (rc : ℕ → BindRc) (r : ρ) (params : Bound.Param ρ → Text) :
    Bound.Param ρ → Text :=
  fun p =>
    match rc (Bound.position p) with
    | .ok => Bound.value r p
    | .unchanged => params p
    | .cleared => none

/-! ## §4 Operations -/

/-- `CSQLite::OpenDataBase`: wait for the gate, open; the gate is released if the open fails. -/
def openDataBase (ok : Bool) : Act (Sq D) Bool where
  run s :=
    -- `WaitForSingleObject`: a gate that is not signalled is waited for
    if s.eventOpenDB then
      if ok then
        (.ok true,
          { file := s.file.created, tx := none, connected := true, eventOpenDB := false })
      -- the failed open signals the gate and closes
      else (.ok false, s.closed)
    else (.error .hang, s)

/-- `CSQLite::CloseDataBase`: release the gate, close. -/
def closeDataBase : Act (Sq D) Unit :=
  Act.modify fun s => { s.closed with eventOpenDB := true }

/-- The head of every `Quick…` operation: begin a transaction, prepare the statement. -/
def beginQuick (beginPrepare beginStep prepare : Bool) : Act (Sq D) Bool :=
  Act.both (sqlite3Prepare beginPrepare false) <|
  Act.both (sqliteStep beginStep beginTransaction) <|
  sqlite3Prepare prepare true

/-- The end of every `Quick…` operation. -/
def commitQuick (commitPrepare commitStep : Bool) : Act (Sq D) Bool :=
  Act.both (sqlite3Prepare commitPrepare false) (sqliteStep commitStep commit)

/-- Return codes of `QuickInsertData` and `QuickDeletData`. -/
structure QuickRc where
  beginPrepare : Bool
  beginStep : Bool
  prepare : Bool
  /-- the bind of parameter `p` for row `i` -/
  bind : ℕ → ℕ → BindRc
  /-- the step of row `i` -/
  step : ℕ → Bool
  commitPrepare : Bool
  commitStep : Bool

section Quick

variable [Bound ρ]

/-- Execute the statement on what its parameters are bound to.  With a NULL key it hits no row,
and a row it stores then is found by no key: the tables here are those of the rows with a key. -/
def execBound (f : D → ρ → D) (params : Bound.Param ρ → Text) (d : D) : D :=
  (Bound.row params).elim d (f d)

/-- Bind and step row after row, from row `i` on.  A row array may hold pointers never
assigned (`none`): binding one is undefined. -/
def stepRows (rc : QuickRc) (f : D → ρ → D) :
    ℕ → (Bound.Param ρ → Text) → List (Option ρ) → Act (Sq D) Bool
  | _, _, [] => pure true
  -- `ppAryData[i]->GetAt(…)` through a pointer that was never assigned
  | _, _, none :: _ => Act.halt .undefined
  | i, params, some r :: rows =>
    let params' := bindParams (rc.bind i) r params
    Act.both (sqliteStep (rc.step i) (change (execBound f params')))
      (stepRows rc f (i + 1) params' rows)

/-- `CSQLite::QuickInsertData`, and `CSQLite::QuickDeletData` which makes the same calls: the
statement `f` once for each row, in one transaction. -/
def quickInsertData (rc : QuickRc) (f : D → ρ → D) (rows : List (Option ρ)) :
    Act (Sq D) Bool :=
  Act.both (beginQuick rc.beginPrepare rc.beginStep rc.prepare) <|
  -- the parameters of a statement just prepared are NULL
  Act.both (stepRows rc f 0 (fun _ => none) rows) <|
  commitQuick rc.commitPrepare rc.commitStep

end Quick

/-- Return codes of `QuickSelectDataCount` on a query with one row. -/
structure CountRc where
  beginPrepare : Bool
  beginStep : Bool
  prepare : Bool
  /-- the step that delivers the row -/
  row : Bool
  /-- the step after it -/
  done : Bool
  commitPrepare : Bool
  commitStep : Bool

/-- `CSQLite::QuickSelectDataCount`: what it returns and what `count` holds then.  An error of
either step leaves the loop like the end of the rows does; before the row, `count` keeps the
value it came with. -/
def quickSelectDataCount (rc : CountRc) (q : D → ℕ) (count : ℕ) : Act (Sq D) (Bool × ℕ) := do
  if ← beginQuick rc.beginPrepare rc.beginStep rc.prepare then
    let s ← Act.read
    -- the loop is left after the first row, or after an error
    let count' := if rc.row then (s.content.tables.map q).getD count else count
    let ret ← commitQuick rc.commitPrepare rc.commitStep
    pure (ret, count')
  else
    pure (false, count)

/-- Return codes of `QuickSelectData`. -/
structure FetchRc where
  beginPrepare : Bool
  beginStep : Bool
  prepare : Bool
  /-- the codes of the first calls of `sqlite3_step`: `false` is an error -/
  codes : List Bool
  /-- whether every later call fails -/
  persists : Bool
  commitPrepare : Bool
  commitStep : Bool

/-- The loop of `QuickSelectData` with `need` slots of the array to fill and `rest` to come:
a row fills the next slot, the end of the rows leaves the loop, and after an error the loop
steps again.  SQLite resets a statement whose step failed, so the rows then come from the first
on.  `none`: the loop never ends. -/
def fetch (rows : List ρ) (persists : Bool) :
    (codes : List Bool) → (rest : List ρ) → (need : ℕ) → Option (List ρ)
  -- `curcnt` has reached `count`
  | _, _, 0 => some []
  -- `SQLITE_DONE`
  | true :: _, [], _ + 1 => some []
  | true :: codes, r :: rest, need + 1 => (fetch rows persists codes rest need).map (r :: ·)
  -- neither `SQLITE_ROW` nor `SQLITE_DONE`: the loop goes round again
  | false :: codes, _, need + 1 => fetch rows persists codes rows (need + 1)
  | [], rest, need + 1 => if persists then none else some (rest.take (need + 1))

/-- `CSQLite::QuickSelectData` of the rows of `q` into an array of `count` slots: the rows
stored, or `none` for `FALSE`. -/
def quickSelectData (rc : FetchRc) (q : D → List ρ) (count : ℕ) :
    Act (Sq D) (Option (List ρ)) := do
  if ← beginQuick rc.beginPrepare rc.beginStep rc.prepare then
    let s ← Act.read
    let rows := (s.content.tables.map q).getD []
    match fetch rows rc.persists rc.codes rows count with
    | some stored =>
      if ← commitQuick rc.commitPrepare rc.commitStep then pure (some stored)
      else pure none
    | none => Act.halt .hang
  else
    pure none

/-- `CSQLite::DeleteData` of a text of several statements: `sqlite3_exec` runs them one by one,
each in its own transaction, and stops at the first that fails.  The connection stays open. -/
def deleteData (rc : ℕ → Bool) : ℕ → List (D → D) → Act (Sq D) Bool
  | _, [] => pure true
  | i, f :: fs => do
    let s ← Act.read
    if s.connected && rc i && s.content.tables.isSome then
      -- outside a transaction every statement commits by itself
      Act.modify fun s => (change f s).getD s
      deleteData rc (i + 1) fs
    else pure false

/-- Every call succeeds. -/
def QuickRc.allOk : QuickRc := ⟨true, true, true, fun _ _ => .ok, fun _ => true, true, true⟩

/-- Every call succeeds. -/
def CountRc.allOk : CountRc := ⟨true, true, true, true, true, true, true⟩

/-- Every call succeeds. -/
def FetchRc.allOk : FetchRc := ⟨true, true, true, [], false, true, true⟩

/-! ## §5 What the operations do -/

@[simp] theorem DbFile.tables_holds (d : D) : (DbFile.holds d).tables = some d := rfl

@[simp] theorem DbFile.map_holds (f : D → D) (d : D) :
    (DbFile.holds d).map f = .holds (f d) := rfl

theorem DbFile.map_id (x : DbFile D) : x.map (fun d => d) = x := by
  cases x <;> rfl

theorem DbFile.eq_holds {x : DbFile D} (h : x.tables.isSome = true) : ∃ d, x = .holds d := by
  cases x with
  | holds d => exact ⟨d, rfl⟩
  | missing => simp [DbFile.tables] at h
  | blank => simp [DbFile.tables] at h

@[simp] theorem DbFile.map_map (f g : D → D) (x : DbFile D) :
    (x.map f).map g = x.map fun d => g (f d) := by
  cases x <;> rfl

@[simp] theorem DbFile.tables_map (f : D → D) (x : DbFile D) :
    (x.map f).tables = x.tables.map f := by
  cases x <;> rfl

@[simp] theorem DbFile.pathFileExists_map (f : D → D) (x : DbFile D) :
    (x.map f).pathFileExists = x.pathFileExists := by
  cases x <;> rfl

/-! `sqlite3_open` makes tables neither come nor go. -/

theorem DbFile.tables_created (x : DbFile D) : x.created.tables = x.tables := by
  cases x <;> rfl

theorem DbFile.created_of_exists {x : DbFile D} (h : x.pathFileExists = true) :
    x.created = x := by
  cases x with
  | missing => cases h
  | blank => rfl
  | holds => rfl

theorem DbFile.holds_of_created {x : DbFile D} {d : D} (h : x.created = .holds d) :
    x = .holds d := by
  cases x with
  | missing => cases h
  | blank => cases h
  | holds d' => exact h

/-- Outside a transaction, the head of an operation leaves one open on the committed
content, or leaves no connection. -/
theorem beginQuick_run (b₁ b₂ b₃ : Bool) (s : Sq D) (htx : s.tx = none) :
    (beginQuick b₁ b₂ b₃).run s =
      if s.connected && s.file.tables.isSome && (b₁ && b₂ && b₃) then
        (.ok true, { s with tx := some s.file })
      else (.ok false, s.closed) := by
  obtain ⟨file, tx, connected, gate⟩ := s
  cases htx
  cases file <;> cases connected <;> cases b₁ <;> cases b₂ <;> cases b₃ <;> rfl

/-- The end of an operation makes the transaction's content the committed one, or drops it with
the connection. -/
theorem commitQuick_run (b₁ b₂ : Bool) (s : Sq D) {d : DbFile D} (hc : s.connected = true)
    (htx : s.tx = some d) :
    (commitQuick b₁ b₂).run s =
      if b₁ && b₂ then (.ok true, { s with file := d, tx := none })
      else (.ok false, s.closed) := by
  obtain ⟨file, tx, connected, gate⟩ := s
  cases htx
  cases hc
  cases b₁ <;> cases b₂ <;> rfl

/-- Every call of the operation on `n` rows succeeds that is looked at. -/
def QuickRc.ok (rc : QuickRc) (n : ℕ) : Bool :=
  (rc.beginPrepare && rc.beginStep && rc.prepare) && (List.range n).all rc.step &&
    (rc.commitPrepare && rc.commitStep)

/-! ### The rows executed -/

section Quick

variable [Bound ρ]

/-- The rows the statement is executed with, from row `i` on. -/
def boundFrom (rc : QuickRc) : ℕ → (Bound.Param ρ → Text) → List ρ → List ρ
  | _, _, [] => []
  | i, params, r :: rows =>
    let params' := bindParams (rc.bind i) r params
    (Bound.row params').toList ++ boundFrom rc (i + 1) params' rows

/-- The rows the statement is executed with; without a failed bind these are its own. -/
def QuickRc.bound (rc : QuickRc) (rows : List ρ) : List ρ := boundFrom rc 0 (fun _ => none) rows

/-- Binding a row whose binds succeed. -/
theorem bindParams_ok {rc : ℕ → BindRc} {r : ρ} {params : Bound.Param ρ → Text}
    (h : ∀ p : Bound.Param ρ, rc (Bound.position p) = .ok) :
    bindParams rc r params = Bound.value r := by
  funext p
  rw [bindParams, h p]

private theorem boundFrom_ok {rc : QuickRc} {rows : List ρ} {i : ℕ}
    {params : Bound.Param ρ → Text}
    (h : ∀ k < rows.length, ∀ p : Bound.Param ρ, rc.bind (i + k) (Bound.position p) = .ok) :
    boundFrom rc i params rows = rows := by
  induction rows generalizing i params with
  | nil => rfl
  | cons r rows ih =>
    have hfirst : bindParams (rc.bind i) r params = Bound.value r :=
      bindParams_ok (h 0 (by simp))
    rw [boundFrom, hfirst, Bound.row_value, ih fun k hk => ?_]
    · rfl
    · rw [Nat.add_assoc, Nat.add_comm 1 k]
      exact h (k + 1) (by simpa using hk)

/-- **Without a failed bind** every row is executed as it is. -/
theorem QuickRc.bound_of_ok {rc : QuickRc} {rows : List ρ}
    (h : ∀ i < rows.length, ∀ p : Bound.Param ρ, rc.bind i (Bound.position p) = .ok) :
    rc.bound rows = rows :=
  boundFrom_ok fun k hk p => by rw [Nat.zero_add]; exact h k hk p

@[simp] theorem QuickRc.bound_allOk (rows : List ρ) : QuickRc.allOk.bound rows = rows :=
  bound_of_ok fun _ _ _ => rfl

/-- No bind fails. -/
def QuickRc.Binds (rc : QuickRc) : Prop := ∀ i p, rc.bind i p = .ok

theorem QuickRc.Binds.bound {rc : QuickRc} (h : rc.Binds) (rows : List ρ) : rc.bound rows = rows :=
  bound_of_ok fun i _ p => h i (Bound.position p)

@[simp] theorem QuickRc.bound_nil (rc : QuickRc) : rc.bound ([] : List ρ) = [] := rfl

/-- If the operation goes through, the statement is executed with every row as it is: each parameter
is bound, or was left with the very value. -/
def QuickRc.Faithful (rc : QuickRc) (rows : List ρ) : Prop :=
  rc.ok rows.length = true → rc.bound rows = rows

theorem QuickRc.allOk_faithful (rows : List ρ) : QuickRc.allOk.Faithful rows :=
  fun _ => bound_allOk rows

private theorem mem_boundFrom {rc : QuickRc} {all rows : List ρ} {i : ℕ}
    {params : Bound.Param ρ → Text} {x : ρ}
    (hparams : ∀ p, params p = none ∨ ∃ r ∈ all, params p = Bound.value r p)
    (hrows : ∀ r ∈ rows, r ∈ all) (h : x ∈ boundFrom rc i params rows) :
    ∃ params' : Bound.Param ρ → Text, Bound.row params' = some x ∧
      ∀ p, params' p = none ∨ ∃ r ∈ all, params' p = Bound.value r p := by
  -- the parameters of each row are its own values or what the row before has left
  induction rows generalizing i params with
  | nil => exact absurd h List.not_mem_nil
  | cons r rows ih =>
    rw [List.forall_mem_cons] at hrows
    have hbound : ∀ p, bindParams (rc.bind i) r params p = none ∨
        ∃ r' ∈ all, bindParams (rc.bind i) r params p = Bound.value r' p := by
      intro p
      rw [bindParams]
      cases rc.bind i (Bound.position p) with
      | ok => exact .inr ⟨r, hrows.1, rfl⟩
      | unchanged => exact hparams p
      | cleared => exact .inl rfl
    rcases List.mem_append.1 h with hx | hx
    · exact ⟨_, Option.mem_toList.1 hx, hbound⟩
    · exact ih hbound hrows.2 hx

/-- A parameter of a row that is executed is NULL or has the value of some row. -/
theorem QuickRc.mem_bound {rc : QuickRc} {rows : List ρ} {x : ρ} (h : x ∈ rc.bound rows) :
    ∃ params : Bound.Param ρ → Text, Bound.row params = some x ∧
      ∀ p, params p = none ∨ ∃ r ∈ rows, params p = Bound.value r p :=
  mem_boundFrom (fun _ => .inl rfl) (fun _ hr => hr) h

/-- **The rows stored**: each has the key of one of the rows to store, and each of its columns is
NULL or that of one of them. -/
theorem QuickRc.mem_bound_row {C : Type} [Columns C] {rc : QuickRc} {rows : List (SqlRow C)}
    {x : SqlRow C} (h : x ∈ rc.bound rows) :
    (∃ r ∈ rows, r.Id = x.Id) ∧ ∀ c, x.col c = none ∨ ∃ r ∈ rows, x.col c = r.col c := by
  obtain ⟨params, hrow, hparams⟩ := mem_bound h
  obtain ⟨i, hkey, rfl⟩ := Option.map_eq_some_iff.1 hrow
  constructor
  · rcases hparams none with hnull | ⟨r, hr, hvalue⟩
    · rw [hnull] at hkey
      cases hkey
    · rw [hvalue] at hkey
      exact ⟨r, hr, Option.some_inj.1 hkey⟩
  · exact fun c => hparams (some c)

/-- What a `REPLACE INTO` of rows with `P` may store: a row with the key of one of them, each of its
columns NULL or that of one; if the binds succeed it is one of them. -/
structure BoundFrom {C : Type} (binds : Prop) (P : SqlRow C → Prop) (x : SqlRow C) : Prop where
  key : ∃ r, P r ∧ r.Id = x.Id
  col : ∀ c, x.col c = none ∨ ∃ r, P r ∧ x.col c = r.col c
  whole : binds → P x

theorem BoundFrom.of_mem_bound {C : Type} [Columns C] {rc : QuickRc} {P : SqlRow C → Prop}
    {rows : List (SqlRow C)} (hrows : ∀ r ∈ rows, P r) {x : SqlRow C} (hx : x ∈ rc.bound rows) :
    BoundFrom rc.Binds P x where
  key := by
    obtain ⟨r, hr, hId⟩ := (QuickRc.mem_bound_row hx).1
    exact ⟨r, hrows r hr, hId⟩
  col c := by
    refine ((QuickRc.mem_bound_row hx).2 c).imp_right ?_
    rintro ⟨r, hr, hcol⟩
    exact ⟨r, hrows r hr, hcol⟩
  whole hbinds := by
    rw [hbinds.bound] at hx
    exact hrows x hx

/-- With fewer rows known to be whole, and more rows to come from. -/
theorem BoundFrom.mono {C : Type} {binds binds' : Prop} {P P' : SqlRow C → Prop} {x : SqlRow C}
    (h : BoundFrom binds P x) (hbinds : binds' → binds) (hP : ∀ r, P r → P' r) :
    BoundFrom binds' P' x where
  key := by
    obtain ⟨r, hr, hId⟩ := h.key
    exact ⟨r, hP r hr, hId⟩
  col c := by
    refine (h.col c).imp_right ?_
    rintro ⟨r, hr, hcol⟩
    exact ⟨r, hP r hr, hcol⟩
  whole hb := hP x (h.whole (hbinds hb))

private theorem mem_boundFrom_id {rc : QuickRc} {ids : List String} {i : ℕ}
    {params : Unit → Text} {x : String} :
    x ∈ boundFrom rc i params ids ↔
      (∃ j, ids[j]? = some x ∧ rc.bind (i + j) 0 = .ok) ∨
        params () = some x ∧ ids ≠ [] ∧ rc.bind i 0 = .unchanged := by
  induction ids generalizing i params with
  | nil => simp [boundFrom]
  | cons r ids ih =>
    -- the first row apart
    have hfirst : (∃ j, (r :: ids)[j]? = some x ∧ rc.bind (i + j) 0 = .ok) ↔
        (r = x ∧ rc.bind i 0 = .ok) ∨ ∃ j, ids[j]? = some x ∧ rc.bind (i + 1 + j) 0 = .ok := by
      constructor
      · rintro ⟨j, hj, hok⟩
        cases j with
        | zero => exact .inl ⟨Option.some_inj.1 hj, hok⟩
        | succ j => exact .inr ⟨j, hj, by rwa [Nat.add_assoc, Nat.add_comm 1 j]⟩
      · rintro (⟨rfl, hok⟩ | ⟨j, hj, hok⟩)
        · exact ⟨0, rfl, hok⟩
        · exact ⟨j + 1, hj, by rwa [Nat.add_assoc, Nat.add_comm 1 j] at hok⟩
    have hmem : x ∈ boundFrom rc i params (r :: ids) ↔
        bindParams (rc.bind i) r params () = some x ∨
          x ∈ boundFrom rc (i + 1) (bindParams (rc.bind i) r params) ids :=
      List.mem_append.trans (or_congr Option.mem_toList Iff.rfl)
    rw [hmem, ih, hfirst]
    have hparam : bindParams (rc.bind i) r params () =
        match rc.bind i 0 with
        | .ok => some r
        | .unchanged => params ()
        | .cleared => none := rfl
    rw [hparam]
    cases rc.bind i 0 with
    | ok => grind
    | unchanged => grind
    | cleared => grind

/-- **The ids a statement is executed for** are those that a bind succeeded for. -/
theorem QuickRc.mem_bound_id {rc : QuickRc} {ids : List String} {x : String} :
    x ∈ rc.bound ids ↔ ∃ j, ids[j]? = some x ∧ rc.bind j 0 = .ok := by
  rw [QuickRc.bound, mem_boundFrom_id]
  simp only [Nat.zero_add, reduceCtorEq, false_and, or_false]

theorem QuickRc.mem_of_mem_bound {rc : QuickRc} {ids : List String} {x : String}
    (h : x ∈ rc.bound ids) : x ∈ ids := by
  obtain ⟨j, hj, -⟩ := mem_bound_id.1 h
  exact List.mem_of_getElem? hj

/-- Stepping through the rows inside a transaction. -/
private theorem stepRows_run (rc : QuickRc) (f : D → ρ → D) (rows : List ρ) (i : ℕ)
    (params : Bound.Param ρ → Text) (s : Sq D) (d : D) (hc : s.connected = true)
    (htx : s.tx = some (.holds d)) :
    (stepRows rc f i params (rows.map some)).run s =
      if (List.range rows.length).all (fun k => rc.step (i + k)) then
        (.ok true, { s with tx := some (.holds ((boundFrom rc i params rows).foldl f d)) })
      else (.ok false, s.closed) := by
  induction rows generalizing i params s d with
  | nil => simp [stepRows, boundFrom, ← htx]
  | cons r rows ih =>
    rw [List.map_cons, stepRows, List.length_cons, List.range_succ_eq_map, List.all_cons,
      List.all_map]
    -- the first row, in the transaction as it stands
    cases hi : rc.step i with
    | true =>
      have h : (sqliteStep true (change (execBound f (bindParams (rc.bind i) r params)))).run s =
          (.ok true, { s with
            tx := some (.holds (execBound f (bindParams (rc.bind i) r params) d)) }) := by
        simp [sqliteStep, change, hc, htx]
      have hfold : ((Bound.row (bindParams (rc.bind i) r params)).toList).foldl f d =
          execBound f (bindParams (rc.bind i) r params) d := by
        rw [execBound]
        cases Bound.row (bindParams (rc.bind i) r params) with
        | none => rfl
        | some x => rfl
      rw [Act.both_run_true h, ih (i + 1) _
        { s with tx := some (.holds (execBound f (bindParams (rc.bind i) r params) d)) } _ hc rfl]
      simp only [Bool.true_and, Function.comp_def, boundFrom, List.foldl_append, hfold,
        Nat.succ_eq_add_one, Nat.add_assoc, Nat.add_comm 1]
      rfl
    -- the step fails, and the connection is closed with nothing committed
    | false =>
      have h : (sqliteStep false
          (change (execBound f (bindParams (rc.bind i) r params)))).run s =
          (.ok false, s.closed) := by
        simp [sqliteStep]
      rw [Act.both_run_false h]
      simp

/-- **`QuickInsertData`** outside a transaction is all or nothing: either every call that is looked
at succeeds and the statement has been executed for every row as it was bound, in order, or the
connection is gone and the file is as it was. -/
theorem quickInsertData_run (rc : QuickRc) (f : D → ρ → D) (rows : List ρ) (s : Sq D)
    (htx : s.tx = none) :
    (quickInsertData rc f (rows.map some)).run s =
      if s.connected && s.file.tables.isSome && rc.ok rows.length then
        (.ok true, { s with file := s.file.map fun d => (rc.bound rows).foldl f d })
      else (.ok false, s.closed) := by
  have hbegin := beginQuick_run rc.beginPrepare rc.beginStep rc.prepare s htx
  rw [quickInsertData, QuickRc.ok]
  by_cases hb : (s.connected && s.file.tables.isSome &&
      (rc.beginPrepare && rc.beginStep && rc.prepare)) = true
  · -- the transaction is open and the statement prepared
    rw [if_pos hb] at hbegin
    simp only [Bool.and_eq_true] at hb
    obtain ⟨⟨hc, hf⟩, ⟨hb₁, hb₂⟩, hb₃⟩ := hb
    obtain ⟨d, hd⟩ := DbFile.eq_holds hf
    have hrows := stepRows_run rc f rows 0 (fun _ => none) { s with tx := some s.file } d hc
      (by rw [hd])
    rw [Act.both_run_true hbegin]
    simp only [Nat.zero_add] at hrows
    by_cases hs : (List.range rows.length).all rc.step = true
    · -- all rows are bound and stepped; what is left is the commit
      rw [if_pos hs] at hrows
      have hcommit := commitQuick_run rc.commitPrepare rc.commitStep
        { s with tx := some (.holds ((rc.bound rows).foldl f d)) } hc rfl
      rw [Act.both_run_true hrows]
      refine hcommit.trans ?_
      simp [hc, hb₁, hb₂, hb₃, hs, hd, htx, Sq.closed]
    · -- a row fails
      rw [if_neg hs] at hrows
      rw [Act.both_run_false hrows]
      simp [hs, Sq.closed]
  · -- the head fails
    rw [if_neg hb] at hbegin
    rw [Act.both_run_false hbegin, if_neg]
    intro h
    simp only [Bool.and_eq_true] at h hb
    exact hb ⟨h.1, h.2.1.1⟩

end Quick

/-- The calls whose failure `QuickSelectDataCount` reports. -/
def CountRc.returns (rc : CountRc) : Bool :=
  (rc.beginPrepare && rc.beginStep && rc.prepare) && (rc.commitPrepare && rc.commitStep)

/-- Every call of the operation succeeds. -/
def CountRc.ok (rc : CountRc) : Bool := rc.returns && rc.row && rc.done

/-- What `QuickSelectData` makes of `rows`: nothing if the loop never ends, `none` for `FALSE`,
or the rows stored. -/
def FetchRc.fetched (rc : FetchRc) (rows : List ρ) (count : ℕ) : Option (Option (List ρ)) :=
  if rc.beginPrepare && rc.beginStep && rc.prepare then
    (fetch rows rc.persists rc.codes rows count).map fun stored =>
      if rc.commitPrepare && rc.commitStep then some stored else none
  else some none

/-- The code of step `i` of `QuickSelectData`. -/
def FetchRc.code (rc : FetchRc) (i : ℕ) : Bool := rc.codes.getD i !rc.persists

/-- Every call of `QuickSelectData` for `n` rows succeeds. -/
def FetchRc.ok (rc : FetchRc) (n : ℕ) : Bool :=
  (rc.beginPrepare && rc.beginStep && rc.prepare) && (List.range n).all rc.code &&
    (rc.commitPrepare && rc.commitStep)

/-- **`QuickSelectDataCount`** returns `TRUE` when the calls around the steps succeed, whether
or not the row arrived. -/
theorem quickSelectDataCount_true (rc : CountRc) (q : D → ℕ) (count : ℕ) (s : Sq D) {d : D}
    (htx : s.tx = none) (hc : s.connected = true) (hd : s.file = .holds d)
    (hret : rc.returns = true) :
    (quickSelectDataCount rc q count).run s =
      (.ok (true, if rc.row then q d else count), s) := by
  obtain ⟨file, tx, connected, gate⟩ := s
  cases htx
  cases hc
  cases hd
  simp only [CountRc.returns, Bool.and_eq_true] at hret
  obtain ⟨⟨⟨hb₁, hb₂⟩, hb₃⟩, hc₁, hc₂⟩ := hret
  rw [quickSelectDataCount, Act.bind_run_ok ((beginQuick_run _ _ _ _ rfl).trans
    (if_pos (by simp [hb₁, hb₂, hb₃])))]
  rw [if_pos rfl, Act.bind_run_ok (Act.read_run _),
    Act.bind_run_ok ((commitQuick_run _ _ _ rfl rfl).trans (if_pos (by simp [hc₁, hc₂])))]
  rfl

/-- When one of those calls fails, or there is no table, it returns `FALSE` and the connection
is gone. -/
theorem quickSelectDataCount_false (rc : CountRc) (q : D → ℕ) (count : ℕ) (s : Sq D)
    (htx : s.tx = none)
    (hret : (s.connected && s.file.tables.isSome && rc.returns) = false) :
    ∃ c, (quickSelectDataCount rc q count).run s = (.ok (false, c), s.closed) := by
  rw [quickSelectDataCount]
  have hbegin := beginQuick_run rc.beginPrepare rc.beginStep rc.prepare s htx
  by_cases hb : (s.connected && s.file.tables.isSome &&
      (rc.beginPrepare && rc.beginStep && rc.prepare)) = true
  · -- the head succeeds, so it is the commit that fails
    rw [if_pos hb] at hbegin
    simp only [Bool.and_eq_true] at hb
    have hcommit := commitQuick_run rc.commitPrepare rc.commitStep
      { s with tx := some s.file } hb.1.1 rfl
    -- the other guards hold, so hret leaves the commit's own codes
    rw [if_neg] at hcommit
    · rw [Act.bind_run_ok hbegin, if_pos rfl, Act.bind_run_ok (Act.read_run _),
        Act.bind_run_ok hcommit]
      exact ⟨_, rfl⟩
    · intro h
      rw [CountRc.returns, h, hb.1.1, hb.1.2, hb.2.1.1, hb.2.1.2, hb.2.2] at hret
      exact absurd hret (by decide)
  · -- the head fails
    rw [if_neg hb] at hbegin
    rw [Act.bind_run_ok hbegin, if_neg (by decide)]
    exact ⟨_, rfl⟩

/-- Only rows of the result are stored. -/
theorem fetch_subset {rows : List ρ} {persists : Bool} {codes : List Bool} {rest : List ρ}
    {need : ℕ} {stored : List ρ} (hrest : ∀ r ∈ rest, r ∈ rows)
    (h : fetch rows persists codes rest need = some stored) : ∀ r ∈ stored, r ∈ rows := by
  fun_induction fetch rows persists codes rest need generalizing stored with
  | case1 => simp at h; simp [h]
  | case2 => simp at h; simp [h]
  | case3 codes r rest need ih =>
    obtain ⟨st, hst, rfl⟩ := Option.map_eq_some_iff.1 h
    intro x hx
    rcases List.mem_cons.1 hx with rfl | hx
    · exact hrest x List.mem_cons_self
    · exact ih (fun y hy => hrest y (List.mem_cons_of_mem r hy)) hst x hx
  | case4 codes rest need ih => exact ih (fun _ hr => hr) h
  | case5 => simp at h
  | case6 rest need hp =>
    cases h
    exact fun x hx => hrest x (List.mem_of_mem_take hx)

/-- With enough rows every slot is filled. -/
theorem fetch_length {rows : List ρ} {persists : Bool} {codes : List Bool} {rest : List ρ}
    {need : ℕ} {stored : List ρ} (hrest : need ≤ rest.length) (hrows : need ≤ rows.length)
    (h : fetch rows persists codes rest need = some stored) : stored.length = need := by
  fun_induction fetch rows persists codes rest need generalizing stored with
  | case1 => simp at h; simp [h]
  | case2 => simp at hrest
  | case3 codes r rest need ih =>
    obtain ⟨st, hst, rfl⟩ := Option.map_eq_some_iff.1 h
    rw [List.length_cons, ih (by simpa using hrest) (by omega) hst]
  | case4 codes rest need ih => exact ih hrows hrows h
  | case5 => simp at h
  | case6 rest need hp =>
    cases h
    rw [List.length_take]
    omega

/-- Without an error code the rows come in order. -/
theorem fetch_clean {rows : List ρ} {persists : Bool} {codes : List Bool} {rest : List ρ}
    {need : ℕ} (hrest : need ≤ rest.length)
    (hcode : ∀ i < need, codes.getD i (!persists) = true) :
    fetch rows persists codes rest need = some (rest.take need) := by
  fun_induction fetch rows persists codes rest need with
  | case1 => simp
  | case2 => simp at hrest
  | case3 codes r rest need ih =>
    rw [ih (by simpa using hrest) (fun i hi => by simpa using hcode (i + 1) (by omega))]
    rfl
  | case4 codes rest need ih => exact absurd (hcode 0 (by omega)) (by simp)
  | case5 rest need hp => exact absurd (hcode 0 (by omega)) (by simp [hp])
  | case6 rest need hp => rfl

/-- **`QuickSelectData`** outside a transaction. -/
theorem quickSelectData_run (rc : FetchRc) (q : D → List ρ) (count : ℕ) (s : Sq D) {d : D}
    (htx : s.tx = none) (hc : s.connected = true) (hd : s.file = .holds d) :
    (quickSelectData rc q count).run s =
      match rc.fetched (q d) count with
      | some (some stored) => (.ok (some stored), s)
      | some none => (.ok none, s.closed)
      | none => (.error .hang, { s with tx := some s.file }) := by
  obtain ⟨file, tx, connected, gate⟩ := s
  cases htx
  cases hc
  cases hd
  have hbegin := beginQuick_run rc.beginPrepare rc.beginStep rc.prepare
    (⟨.holds d, none, true, gate⟩ : Sq D) rfl
  rw [quickSelectData, FetchRc.fetched]
  by_cases hb : (rc.beginPrepare && rc.beginStep && rc.prepare) = true
  · -- the head succeeds, and the loop reads the committed content
    rw [if_pos (by simpa using hb)] at hbegin
    rw [Act.bind_run_ok hbegin, if_pos rfl, if_pos hb, Act.bind_run_ok (Act.read_run _)]
    simp only [Sq.content, Option.getD_some, DbFile.tables_holds, Option.map_some]
    cases hf : fetch (q d) rc.persists rc.codes (q d) count with
    | none => rfl
    -- the rows are copied; only the commit can still fail
    | some stored =>
      have hcommit := commitQuick_run rc.commitPrepare rc.commitStep
        (⟨.holds d, some (.holds d), true, gate⟩ : Sq D) rfl rfl
      simp only [Option.map_some]
      by_cases hc : (rc.commitPrepare && rc.commitStep) = true
      · rw [if_pos hc] at hcommit ⊢
        rw [Act.bind_run_ok hcommit]
        rfl
      · rw [if_neg hc] at hcommit ⊢
        rw [Act.bind_run_ok hcommit]
        rfl
  · -- the head fails
    rw [if_neg (by simpa using hb)] at hbegin
    rw [Act.bind_run_ok hbegin, if_neg (by decide), if_neg hb]
    rfl

/-- What is stored comes from the result, one row for each slot. -/
theorem FetchRc.fetched_some {rc : FetchRc} {rows : List ρ} {stored : List ρ}
    (h : rc.fetched rows rows.length = some (some stored)) :
    (∀ r ∈ stored, r ∈ rows) ∧ stored.length = rows.length := by
  rw [FetchRc.fetched] at h
  split at h
  · obtain ⟨st, hst, hif⟩ := Option.map_eq_some_iff.1 h
    split at hif
    · cases hif
      exact ⟨fetch_subset (fun _ hr => hr) hst, fetch_length (Nat.le_refl _) (Nat.le_refl _) hst⟩
    · exact absurd hif (by simp)
  · exact absurd h (by simp)

/-- When every call succeeds, the whole result is stored. -/
theorem FetchRc.fetched_ok {rc : FetchRc} {rows : List ρ} (h : rc.ok rows.length = true) :
    rc.fetched rows rows.length = some (some rows) := by
  simp only [FetchRc.ok, Bool.and_eq_true, List.all_eq_true, List.mem_range] at h
  obtain ⟨⟨⟨⟨hb₁, hb₂⟩, hb₃⟩, hcode⟩, hc₁, hc₂⟩ := h
  -- no error, so the rows come once and in order
  have hfetch : fetch rows rc.persists rc.codes rows rows.length = some rows := by
    rw [fetch_clean (Nat.le_refl _) hcode, List.take_length]
  simp [FetchRc.fetched, hb₁, hb₂, hb₃, hfetch, hc₁, hc₂]

/-! ## §6 Transactions -/

section Transactions

open Act

/-- The file that has just been opened is in no transaction. -/
theorem openDataBase_tx {ok : Bool} {s : Sq D} (h : ((openDataBase ok).run s).1 = .ok true) :
    ((openDataBase ok).run s).2.tx = none := by
  rw [openDataBase] at h ⊢
  dsimp only at h ⊢
  split at h
  next hgate =>
    rw [if_pos hgate]
    split at h
    next hok =>
      rw [if_pos hok]
    next => cases h
  next => cases h

/-- Begun outside a transaction, `QuickInsertData` leaves none open. -/
theorem keeps_tx_quickInsertData [Bound ρ] (rc : QuickRc) (f : D → ρ → D) (rows : List ρ) :
    Keeps (fun s t => s.tx = none → t.tx = none) (quickInsertData rc f (rows.map some)) := by
  intro s htx
  rw [quickInsertData_run rc f rows s htx]
  split
  · exact htx
  · rfl

theorem keeps_tx_deleteData (rc : ℕ → Bool) (i : ℕ) (fs : List (D → D)) :
    Keeps (fun s t => s.tx = none → t.tx = none) (deleteData rc i fs) := by
  induction fs generalizing i with
  | nil => exact fun s htx => htx
  | cons f fs ih =>
    intro s htx
    rw [deleteData, bind_run_ok (read_run _)]
    split
    · rw [bind_run_ok (modify_run _ _)]
      refine ih (i + 1) _ ?_
      rw [change, htx]
      rfl
    · exact htx

end Transactions

end MtpSync
