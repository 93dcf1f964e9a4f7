import Mathlib.Data.Nat.Notation
import MtpSync.Lib.Simulation

/-!
# The SQLite calls of the wrapper

The operations of `CSQLite`, with every SQLite function they call on the connection `pDB` and on
the statement `stmt`.  They are written once over an interface of these calls; what a call does to
the handles, and what is remembered of it, is up to the interface.

- §1 the interface
- §2 the helpers
- §3 the operations
- §4 one operation after the other
- §5 operations over two interfaces

The return code of every call is a parameter.  An operation whose codes come to an end has not
come back yet.  The members that make no SQLite call (`GetLastErrorStr`, `DeleteThis`, the static
ones) are left out.
-/

namespace MtpSync

namespace Handles

/-! ## §1 The interface -/

/-- The functions called on a connection that leave it open. -/
inductive DbFn where
  | sqlite3_exec
  | sqlite3_errmsg16
  | sqlite3_get_table
  deriving DecidableEq

/-- The functions called on a statement that leave it in place. -/
inductive StmtFn where
  | sqlite3_step
  | sqlite3_reset
  | sqlite3_bind_text16
  | sqlite3_column_count
  /-- `sqlite3_column_type` and the functions that read the value -/
  | sqlite3_column
  deriving DecidableEq

/-- What `sqlite3_open` answers. -/
inductive OpenRc where
  | ok
  /-- an error, whether a connection was given all the same, and whether `sqlite3_close` then
  succeeds -/
  | fails (given closes : Bool)
  deriving DecidableEq

/-- The calls an object makes, on a state `σ` that has its two handles. -/
structure Calls (σ : Type) where
  /-- `sqlite3_open(…, &pDB)`, which gives a connection or `NULL` -/
  sqlite3_open : (given : Bool) → Act σ Unit
  onDb : DbFn → Act σ Unit
  sqlite3_close : (ok : Bool) → Act σ Unit
  /-- `pDB = NULL` -/
  clearDb : Act σ Unit
  /-- `if ( pDB )` -/
  hasDb : Act σ Bool
  /-- `sqlite3_prepare_v2(pDB, …, &stmt, …)`, which gives a statement or `NULL` -/
  sqlite3_prepare_v2 : (given : Bool) → Act σ Unit
  onStmt : StmtFn → Act σ Unit
  sqlite3_finalize : Act σ Unit
  /-- `if (stmt)` -/
  hasStmt : Act σ Bool

variable {σ : Type} (L : Calls σ)

/-! ## §2 The helpers -/

def recordLastError : Act σ Unit := L.onDb .sqlite3_errmsg16

/-- Report a failure and record it. -/
def recorded (m : Act σ Bool) : Act σ Bool := do
  if ← m then pure true
  else
    recordLastError L
    pure false

def execSql (ok : Bool) : Act σ Bool := do
  L.onDb .sqlite3_exec
  recorded L (pure ok)

/-- What a helper ends with. -/
inductive HelperRc where
  | ok
  /-- an error, and whether the `sqlite3_close` after it succeeds -/
  | fails (closes : Bool)
  deriving DecidableEq

/-- What both helpers do on an error. -/
def closeOnError (closes : Bool) : Act σ Bool := do
  L.onDb .sqlite3_errmsg16
  if ← L.hasStmt then
    L.sqlite3_finalize
  L.sqlite3_close closes
  pure false

/-- `CSQLite::sqlite_step`. -/
def sqlite_step (rc : HelperRc) : Act σ Bool := do
  L.onStmt .sqlite3_step
  match rc with
  | .ok => pure true
  | .fails closes => closeOnError L closes

/-- `CSQLite::sqlite3_prepare`.  A text without a statement gives none, and on an error SQLite
sets the statement to `NULL`. -/
def sqlite3_prepare (given : Bool) : HelperRc → Act σ Bool
  | .ok => do
    L.sqlite3_prepare_v2 given
    pure true
  | .fails closes => do
    L.sqlite3_prepare_v2 false
    closeOnError L closes

/-- A statement of its own: prepared, stepped once and finalized. -/
def single (prepare step : HelperRc) : Act σ Bool := do
  if ← Act.both (sqlite3_prepare L true prepare) (sqlite_step L step) then
    L.sqlite3_finalize
    pure true
  else pure false

/-! ## §3 The operations -/

/-- `OpenDataBase`, once the gate is passed; `synchronous` has the code of the pragma. -/
def openDataBase (rc : OpenRc) (synchronous : Option Bool) : Act σ Bool := do
  match rc with
  | .fails given closes =>
    L.sqlite3_open given
    L.sqlite3_close closes
    recordLastError L
    pure false
  | .ok =>
    L.sqlite3_open true
    match synchronous with
    | some pragma => recorded L (execSql L pragma)
    | none => pure true

def createTable (ok : Bool) : Act σ Bool := execSql L ok

def insertData (begins inserts commits : Bool) : Act σ Bool :=
  Act.both (execSql L begins) (Act.both (execSql L inserts) (execSql L commits))

def selectData (ok : Bool) : Act σ Bool := execSql L ok

def updataData (ok : Bool) : Act σ Bool := execSql L ok

def deleteData (ok : Bool) : Act σ Bool := execSql L ok

def droptable (ok : Bool) : Act σ Bool := execSql L ok

def closeDataBase (ok : Bool) : Act σ Bool := do
  if ← L.hasDb then
    L.sqlite3_close ok
    if ok then
      L.clearDb
      pure true
    else
      recordLastError L
      pure false
  else pure true

/-- Binding and stepping a row. -/
structure RowRc where
  bind : Bool
  step : HelperRc

/-- Return codes of `QuickInsertData` and `QuickDeletData`. -/
structure QuickRc where
  begin : HelperRc
  beginStep : HelperRc
  /-- whether the text has a statement -/
  given : Bool
  prepare : HelperRc
  rows : List RowRc
  commit : HelperRc
  commitStep : HelperRc

/-- The loop over the rows. -/
def stepRows : List RowRc → Act σ Bool
  | [] => pure true
  | row :: rows => do
    L.onStmt .sqlite3_bind_text16
    if row.bind then
      if ← sqlite_step L row.step then
        L.onStmt .sqlite3_reset
        stepRows rows
      else pure false
    else pure false

/-- What `QuickInsertData` and `QuickDeletData` have in common. -/
def quick (rc : QuickRc) : Act σ Bool :=
  Act.both (single L rc.begin rc.beginStep) <|
  Act.both (sqlite3_prepare L rc.given rc.prepare) <|
  Act.both (stepRows L rc.rows) do
    L.sqlite3_finalize
    single L rc.commit rc.commitStep

/-- `QuickInsertData` records every failure, `QuickDeletData` none. -/
def quickInsertData (rc : QuickRc) : Act σ Bool := recorded L (quick L rc)

def quickDeletData (rc : QuickRc) : Act σ Bool := quick L rc

/-- What `sqlite3_step` returns in a loop over the rows of a query. -/
inductive StepRc where
  | row
  | done
  | error
  deriving DecidableEq

/-- Return codes of a query. -/
structure SelectRc where
  begin : HelperRc
  beginStep : HelperRc
  given : Bool
  prepare : HelperRc
  codes : List StepRc
  commit : HelperRc
  commitStep : HelperRc

/-- The loop of `QuickSelectDataCount`: an error finalizes the statement and leaves it. -/
def countLoop : List StepRc → Act σ Unit
  | [] => Act.halt .hang
  | code :: codes => do
    L.onStmt .sqlite3_step
    match code with
    | .row =>
      L.onStmt .sqlite3_column
      countLoop codes
    | .done => pure ()
    | .error => L.sqlite3_finalize

/-- What both `QuickSelectDataCount` have in common; the one that counts in an `int` records a
query that is not prepared. -/
def quickCount (prepare : Act σ Bool) (rc : SelectRc) : Act σ Bool :=
  Act.both (single L rc.begin rc.beginStep) <|
  Act.both prepare do
    L.onStmt .sqlite3_column_count
    countLoop L rc.codes
    L.sqlite3_finalize
    single L rc.commit rc.commitStep

/-- `QuickSelectDataCount(const char*, int&)`. -/
def quickSelectDataCount (rc : SelectRc) : Act σ Bool :=
  quickCount L (recorded L (sqlite3_prepare L rc.given rc.prepare)) rc

/-- `QuickSelectDataCount(const char*, double&)`. -/
def quickSelectDataCountDouble (rc : SelectRc) : Act σ Bool :=
  quickCount L (sqlite3_prepare L rc.given rc.prepare) rc

/-- The loop of `QuickSelectData` with `need` slots to fill: after an error it steps again. -/
def fetchLoop : List StepRc → (need : ℕ) → Act σ Unit
  | _, 0 => pure ()
  | [], _ + 1 => Act.halt .hang
  | code :: codes, need + 1 => do
    L.onStmt .sqlite3_step
    match code with
    | .row =>
      L.onStmt .sqlite3_column
      fetchLoop codes need
    | .done => pure ()
    | .error => fetchLoop codes (need + 1)

def quickSelectData (rc : SelectRc) (count : ℕ) : Act σ Bool :=
  Act.both (single L rc.begin rc.beginStep) <|
  Act.both (sqlite3_prepare L rc.given rc.prepare) do
    L.onStmt .sqlite3_column_count
    fetchLoop L rc.codes count
    L.sqlite3_finalize
    single L rc.commit rc.commitStep

/-- `findDatabyID` and `findDatabyID_index`. -/
def findDatabyID : Act σ Unit := L.onDb .sqlite3_get_table

/-- `sqlite3_exec`, and `sqlite3_close` when it fails. -/
def execOrClose : HelperRc → Act σ Bool
  | .ok => do
    L.onDb .sqlite3_exec
    pure true
  | .fails closes => do
    L.onDb .sqlite3_exec
    L.sqlite3_close closes
    pure false

/-- `CreateIndex`: after an error the process ends. -/
def createIndex (rc : HelperRc) : Act σ Unit := do
  if ← execOrClose L rc then pure () else Act.halt .hang

/-- `replaceTest`: a query, then an update or an insert; after an error the process ends. -/
def replaceTest (rc : HelperRc) : Act σ Unit := do
  L.onDb .sqlite3_get_table
  if ← execOrClose L rc then pure () else Act.halt .hang

def replaceData (rc : HelperRc) : Act σ Bool := execOrClose L rc

def beginTransaction (prepare step : HelperRc) : Act σ Bool := single L prepare step

def commit (prepare step : HelperRc) : Act σ Bool := single L prepare step

/-! ## §4 One operation after the other -/

/-- A public operation, with the return codes of its calls. -/
inductive Op where
  | openDataBase (rc : OpenRc) (synchronous : Option Bool)
  | createTable (ok : Bool)
  | insertData (begins inserts commits : Bool)
  | selectData (ok : Bool)
  | updataData (ok : Bool)
  | deleteData (ok : Bool)
  | droptable (ok : Bool)
  | closeDataBase (ok : Bool)
  | quickInsertData (rc : QuickRc)
  | quickDeletData (rc : QuickRc)
  | quickSelectDataCount (rc : SelectRc)
  | quickSelectDataCountDouble (rc : SelectRc)
  | quickSelectData (rc : SelectRc) (count : ℕ)
  | findDatabyID
  | createIndex (rc : HelperRc)
  | replaceTest (rc : HelperRc)
  | replaceData (rc : HelperRc)
  | beginTransaction (prepare step : HelperRc)
  | commit (prepare step : HelperRc)

/-- An operation, without what it returns. -/
def Op.call : Op → Act σ Unit
  | .openDataBase rc synchronous => do
    let _ ← Handles.openDataBase L rc synchronous
  | .createTable ok => do
    let _ ← Handles.createTable L ok
  | .insertData begins inserts commits => do
    let _ ← Handles.insertData L begins inserts commits
  | .selectData ok => do
    let _ ← Handles.selectData L ok
  | .updataData ok => do
    let _ ← Handles.updataData L ok
  | .deleteData ok => do
    let _ ← Handles.deleteData L ok
  | .droptable ok => do
    let _ ← Handles.droptable L ok
  | .closeDataBase ok => do
    let _ ← Handles.closeDataBase L ok
  | .quickInsertData rc => do
    let _ ← Handles.quickInsertData L rc
  | .quickDeletData rc => do
    let _ ← Handles.quickDeletData L rc
  | .quickSelectDataCount rc => do
    let _ ← Handles.quickSelectDataCount L rc
  | .quickSelectDataCountDouble rc => do
    let _ ← Handles.quickSelectDataCountDouble L rc
  | .quickSelectData rc count => do
    let _ ← Handles.quickSelectData L rc count
  | .findDatabyID => Handles.findDatabyID L
  | .createIndex rc => Handles.createIndex L rc
  | .replaceTest rc => Handles.replaceTest L rc
  | .replaceData rc => do
    let _ ← Handles.replaceData L rc
  | .beginTransaction prepare step => do
    let _ ← Handles.beginTransaction L prepare step
  | .commit prepare step => do
    let _ ← Handles.commit L prepare step

/-- An object between two operations: whether the last one has come back. -/
structure Object (σ : Type) where
  state : σ
  returned : Bool

/-- The next operation, if the last one has come back. -/
def step (x : Object σ) (op : Op) : Option (Object σ) :=
  if x.returned then
    let (ret, state) := (op.call L).run x.state
    some ⟨state, ret.isOk⟩
  else none

/-! ## §5 Operations over two interfaces -/

/-- The calls of one interface simulate those of another. -/
structure CallsSimulate {τ : Type} (view : σ → τ) (I : σ → Prop) (L : Calls σ) (L' : Calls τ) :
    Prop where
  sqlite3_open : ∀ given, Act.Simulates view I (L.sqlite3_open given) (L'.sqlite3_open given)
  onDb : ∀ f, Act.Simulates view I (L.onDb f) (L'.onDb f)
  sqlite3_close : ∀ ok, Act.Simulates view I (L.sqlite3_close ok) (L'.sqlite3_close ok)
  clearDb : Act.Simulates view I L.clearDb L'.clearDb
  hasDb : Act.Simulates view I L.hasDb L'.hasDb
  sqlite3_prepare_v2 : ∀ given,
    Act.Simulates view I (L.sqlite3_prepare_v2 given) (L'.sqlite3_prepare_v2 given)
  onStmt : ∀ f, Act.Simulates view I (L.onStmt f) (L'.onStmt f)
  sqlite3_finalize : Act.Simulates view I L.sqlite3_finalize L'.sqlite3_finalize
  hasStmt : Act.Simulates view I L.hasStmt L'.hasStmt

namespace CallsSimulate

open Act.Simulates (pure halt bind ite both)

variable {τ : Type} {view : σ → τ} {I : σ → Prop} {L : Calls σ} {L' : Calls τ}
  (h : CallsSimulate view I L L')

include h

private theorem recorded {m : Act σ Bool} {n : Act τ Bool} (hm : Act.Simulates view I m n) :
    Act.Simulates view I (Handles.recorded L m) (Handles.recorded L' n) :=
  hm.bind fun _ => ite (pure true) ((h.onDb _).bind fun _ => pure false)

private theorem execSql (ok : Bool) :
    Act.Simulates view I (Handles.execSql L ok) (Handles.execSql L' ok) :=
  (h.onDb _).bind fun _ => h.recorded (pure ok)

private theorem closeOnError (closes : Bool) :
    Act.Simulates view I (Handles.closeOnError L closes) (Handles.closeOnError L' closes) := by
  apply (h.onDb _).bind
  intro _
  apply h.hasStmt.bind
  intro given
  have hclose := (h.sqlite3_close closes).bind fun _ => pure false
  exact ite (h.sqlite3_finalize.bind fun _ => hclose) hclose

private theorem sqlite_step (rc : HelperRc) :
    Act.Simulates view I (Handles.sqlite_step L rc) (Handles.sqlite_step L' rc) := by
  apply (h.onStmt _).bind
  intro _
  cases rc with
  | ok => exact pure true
  | fails closes => exact h.closeOnError closes

private theorem sqlite3_prepare (given : Bool) (rc : HelperRc) : Act.Simulates view I
    (Handles.sqlite3_prepare L given rc) (Handles.sqlite3_prepare L' given rc) := by
  cases rc with
  | ok => exact (h.sqlite3_prepare_v2 given).bind fun _ => pure true
  | fails closes => exact (h.sqlite3_prepare_v2 false).bind fun _ => h.closeOnError closes

theorem single (prepare step : HelperRc) :
    Act.Simulates view I (Handles.single L prepare step) (Handles.single L' prepare step) :=
  (both (h.sqlite3_prepare true prepare) (h.sqlite_step step)).bind fun _ =>
    ite (h.sqlite3_finalize.bind fun _ => pure true) (pure false)

private theorem openDataBase (rc : OpenRc) (synchronous : Option Bool) : Act.Simulates view I
    (Handles.openDataBase L rc synchronous) (Handles.openDataBase L' rc synchronous) := by
  cases rc with
  | fails given closes =>
    exact (h.sqlite3_open given).bind fun _ => (h.sqlite3_close closes).bind fun _ =>
      (h.onDb _).bind fun _ => pure false
  | ok =>
    apply (h.sqlite3_open true).bind
    intro _
    cases synchronous with
    | some pragma => exact h.recorded (h.execSql pragma)
    | none => exact pure true

private theorem closeDataBase (ok : Bool) : Act.Simulates view I
    (Handles.closeDataBase L ok) (Handles.closeDataBase L' ok) := by
  apply h.hasDb.bind
  intro given
  refine ite ((h.sqlite3_close ok).bind fun _ => ?_) (pure true)
  exact ite (h.clearDb.bind fun _ => pure true) ((h.onDb _).bind fun _ => pure false)

private theorem stepRows (rows : List RowRc) :
    Act.Simulates view I (Handles.stepRows L rows) (Handles.stepRows L' rows) := by
  induction rows with
  | nil => exact pure true
  | cons row rows ih =>
    apply (h.onStmt _).bind
    intro _
    refine ite ((h.sqlite_step row.step).bind fun _ => ?_) (pure false)
    exact ite ((h.onStmt _).bind fun _ => ih) (pure false)

private theorem quick (rc : QuickRc) :
    Act.Simulates view I (Handles.quick L rc) (Handles.quick L' rc) :=
  both (h.single rc.begin rc.beginStep) <| both (h.sqlite3_prepare rc.given rc.prepare) <|
    both (h.stepRows rc.rows) <| h.sqlite3_finalize.bind fun _ => h.single rc.commit rc.commitStep

private theorem countLoop (codes : List StepRc) :
    Act.Simulates view I (Handles.countLoop L codes) (Handles.countLoop L' codes) := by
  induction codes with
  | nil => exact halt .hang
  | cons code codes ih =>
    apply (h.onStmt _).bind
    intro _
    cases code with
    | row => exact (h.onStmt _).bind fun _ => ih
    | done => exact pure ()
    | error => exact h.sqlite3_finalize

private theorem quickCount {m : Act σ Bool} {n : Act τ Bool} (hm : Act.Simulates view I m n)
    (rc : SelectRc) :
    Act.Simulates view I (Handles.quickCount L m rc) (Handles.quickCount L' n rc) :=
  both (h.single rc.begin rc.beginStep) <| both hm <| (h.onStmt _).bind fun _ =>
    (h.countLoop rc.codes).bind fun _ => h.sqlite3_finalize.bind fun _ =>
      h.single rc.commit rc.commitStep

private theorem fetchLoop (codes : List StepRc) (need : ℕ) :
    Act.Simulates view I (Handles.fetchLoop L codes need) (Handles.fetchLoop L' codes need) := by
  induction codes generalizing need with
  | nil =>
    cases need with
    | zero => exact pure ()
    | succ need => exact halt .hang
  | cons code codes ih =>
    cases need with
    | zero => exact pure ()
    | succ need =>
      apply (h.onStmt _).bind
      intro _
      cases code with
      | row => exact (h.onStmt _).bind fun _ => ih need
      | done => exact pure ()
      | error => exact ih (need + 1)

private theorem quickSelectData (rc : SelectRc) (count : ℕ) : Act.Simulates view I
    (Handles.quickSelectData L rc count) (Handles.quickSelectData L' rc count) :=
  both (h.single rc.begin rc.beginStep) <| both (h.sqlite3_prepare rc.given rc.prepare) <|
    (h.onStmt _).bind fun _ => (h.fetchLoop rc.codes count).bind fun _ =>
      h.sqlite3_finalize.bind fun _ => h.single rc.commit rc.commitStep

private theorem execOrClose (rc : HelperRc) :
    Act.Simulates view I (Handles.execOrClose L rc) (Handles.execOrClose L' rc) := by
  cases rc with
  | ok => exact (h.onDb _).bind fun _ => pure true
  | fails closes =>
    exact (h.onDb _).bind fun _ => (h.sqlite3_close closes).bind fun _ => pure false

/-- **Every operation** over the one interface simulates the same operation over the other. -/
theorem call (op : Op) : Act.Simulates view I (op.call L) (op.call L') := by
  have hexit : ∀ rc, Act.Simulates view I
      (Handles.execOrClose L rc >>= fun ok => if ok = true then Pure.pure () else Act.halt .hang)
      (Handles.execOrClose L' rc >>= fun ok =>
        if ok = true then Pure.pure () else Act.halt .hang) :=
    fun rc => (h.execOrClose rc).bind fun _ => ite (pure ()) (halt .hang)
  -- one rule for each routine of the class, in the order of Op
  cases op with
  | openDataBase rc synchronous => exact (h.openDataBase rc synchronous).bind fun _ => pure ()
  | createTable ok => exact (h.execSql ok).bind fun _ => pure ()
  | insertData begins inserts commits =>
    exact (both (h.execSql begins) (both (h.execSql inserts) (h.execSql commits))).bind
      fun _ => pure ()
  | selectData ok => exact (h.execSql ok).bind fun _ => pure ()
  | updataData ok => exact (h.execSql ok).bind fun _ => pure ()
  | deleteData ok => exact (h.execSql ok).bind fun _ => pure ()
  | droptable ok => exact (h.execSql ok).bind fun _ => pure ()
  | closeDataBase ok => exact (h.closeDataBase ok).bind fun _ => pure ()
  | quickInsertData rc => exact (h.recorded (h.quick rc)).bind fun _ => pure ()
  | quickDeletData rc => exact (h.quick rc).bind fun _ => pure ()
  | quickSelectDataCount rc =>
    exact (h.quickCount (h.recorded (h.sqlite3_prepare rc.given rc.prepare)) rc).bind
      fun _ => pure ()
  | quickSelectDataCountDouble rc =>
    exact (h.quickCount (h.sqlite3_prepare rc.given rc.prepare) rc).bind fun _ => pure ()
  | quickSelectData rc count => exact (h.quickSelectData rc count).bind fun _ => pure ()
  | findDatabyID => exact h.onDb _
  | createIndex rc => exact hexit rc
  | replaceTest rc => exact (h.onDb _).bind fun _ => hexit rc
  | replaceData rc => exact (h.execOrClose rc).bind fun _ => pure ()
  | beginTransaction prepare step => exact (h.single prepare step).bind fun _ => pure ()
  | commit prepare step => exact (h.single prepare step).bind fun _ => pure ()

end CallsSimulate

end Handles

end MtpSync
