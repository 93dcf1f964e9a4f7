import MtpSync.Handles.Typestate

/-!
# When a handle that is over is passed again

The helpers close the connection when a call fails and leave `pDB` as it is; `QuickInsertData` and
`QuickSelectDataCount` then record the error of the closed connection, and every other operation
leaves it to the next one.  `QuickSelectDataCount` finalizes a statement twice when a step fails.

- §1 what an operation does to the states of the handles
- §2 the condition
- §3 runs
-/

namespace MtpSync

namespace Handles

/-! ## §1 What an operation does to the states -/

/-- Why an operation stops early. -/
inductive Stop where
  /-- a row is not bound -/
  | unbound
  /-- a helper fails, and whether it closes the connection -/
  | failed (closes : Bool)
  deriving DecidableEq

def HelperRc.stop : HelperRc → Option Stop
  | .ok => none
  | .fails closes => some (.failed closes)

def RowRc.stop (row : RowRc) : Option Stop := if row.bind then row.step.stop else some .unbound

/-- The first call of the operation that stops it. -/
def QuickRc.stop (rc : QuickRc) : Option Stop :=
  (rc.begin.stop.or rc.beginStep.stop).or <| rc.prepare.stop.or <|
    (rc.rows.findSome? RowRc.stop).or (rc.commit.stop.or rc.commitStep.stop)

/-- What is left of a connection when an operation stops. -/
def Stop.left (db : Handle) : Stop → Handle
  | .unbound => db
  | .failed closes => if closes then db.ended else db

/-- The call stops as `stop` says, and leaves the statement in the state `stmt` if it does not
stop. -/
def Ends (m : Act View Bool) (v : View) (stop : Option Stop) (stmt : Handle) : Prop :=
  match stop with
  | none => m.run v = (.ok true, { v with stmt := stmt })
  | some stop => ∃ stmt', m.run v = (.ok false, { v with db := stop.left v.db, stmt := stmt' })

variable {v : View} {stmt stmt' : Handle}

/-- Only the run counts. -/
private theorem Ends.of_run {m n : Act View Bool} {a : Option Stop}
    (hn : Ends n { v with stmt := stmt' } a stmt)
    (hrun : m.run v = n.run { v with stmt := stmt' }) : Ends m v a stmt := by
  cases a with
  | none => exact hrun.trans hn
  | some stop =>
    obtain ⟨st, hst⟩ := hn
    exact ⟨st, hrun.trans hst⟩

/-- One after the other, the first that stops ends both. -/
private theorem Ends.both {m n : Act View Bool} {a b : Option Stop} (hm : Ends m v a stmt)
    (hn : Ends n { v with stmt := stmt } b stmt') : Ends (Act.both m n) v (a.or b) stmt' := by
  cases a with
  | none =>
    rw [Option.none_or]
    exact hn.of_run (Act.both_run_true hm)
  | some stop =>
    obtain ⟨st, hst⟩ := hm
    exact ⟨st, Act.both_run_false hst⟩

/-- Nothing has been misused, and the connection is not over. -/
structure Sane (v : View) : Prop where
  misused : v.misused = false
  db : v.db ≠ .over

private theorem Sane.setStmt (h : Sane v) (stmt : Handle) : Sane { v with stmt := stmt } :=
  ⟨h.misused, h.db⟩

private theorem given_ne_over : ∀ given, Handle.given given ≠ .over := by decide

private theorem ends_prepare (h : Sane v) (given : Bool) (rc : HelperRc) :
    Ends (sqlite3_prepare typestate given rc) v rc.stop (.given given) := by
  obtain ⟨db, stmt, misused⟩ := v
  obtain ⟨hmis, hdb⟩ := h
  cases hmis
  cases rc with
  | ok => cases db <;> first | rfl | exact absurd rfl hdb
  | fails closes =>
    refine ⟨.null, ?_⟩
    cases db <;> cases closes <;> first | rfl | exact absurd rfl hdb

private theorem ends_step (h : Sane v) (hstmt : v.stmt ≠ .over) (rc : HelperRc) :
    Ends (sqlite_step typestate rc) v rc.stop v.stmt := by
  obtain ⟨db, stmt, misused⟩ := v
  obtain ⟨hmis, hdb⟩ := h
  cases hmis
  cases rc with
  | ok => cases stmt <;> first | rfl | exact absurd rfl hstmt
  | fails closes =>
    refine ⟨stmt.ended, ?_⟩
    cases db <;> cases stmt <;> cases closes <;>
      first | rfl | exact absurd rfl hdb | exact absurd rfl hstmt

private theorem ends_single (h : Sane v) (prepare step : HelperRc) :
    Ends (single typestate prepare step) v (prepare.stop.or step.stop) .over := by
  have hprepare := ends_prepare h true prepare
  have hused : Handle.used ≠ .over := by decide
  have hstep := ends_step (h.setStmt .used) hused step
  have hboth := Ends.both hprepare hstep
  revert hboth
  cases prepare.stop.or step.stop with
  | none =>
    intro hboth
    rw [Ends, single, Act.bind_run_ok hboth]
    obtain ⟨db, stmt, misused⟩ := v
    obtain ⟨hmis, hdb⟩ := h
    cases hmis
    rfl
  | some stop =>
    rintro ⟨st, hst⟩
    refine ⟨st, ?_⟩
    rw [single, Act.bind_run_ok hst]
    rfl

private theorem onStmt_run (h : Sane v) (hstmt : v.stmt ≠ .over) (f : StmtFn) :
    (typestate.onStmt f).run v = (.ok (), v) := by
  obtain ⟨db, stmt, misused⟩ := v
  obtain ⟨hmis, hdb⟩ := h
  cases hmis
  cases stmt <;> first | rfl | exact absurd rfl hstmt

private theorem ends_rows (h : Sane v) (hstmt : v.stmt ≠ .over) (rows : List RowRc) :
    Ends (stepRows typestate rows) v (rows.findSome? RowRc.stop) v.stmt := by
  -- the loop stops at the first row that has a stop
  induction rows with
  | nil => rfl
  | cons row rows ih =>
    have hbind := onStmt_run h hstmt .sqlite3_bind_text16
    have hreset := onStmt_run h hstmt .sqlite3_reset
    have hstep := ends_step h hstmt row.step
    rw [List.findSome?_cons, RowRc.stop]
    cases hb : row.bind with
    | false =>
      refine ⟨v.stmt, ?_⟩
      rw [stepRows, Act.bind_run_ok hbind, hb]
      rfl
    | true =>
      rw [if_pos rfl]
      cases hs : row.step.stop with
      | none =>
        rw [hs] at hstep
        have hrun : (stepRows typestate (row :: rows)).run v = (stepRows typestate rows).run v := by
          rw [stepRows, Act.bind_run_ok hbind, hb, if_pos rfl, Act.bind_run_ok hstep, if_pos rfl]
          exact Act.bind_run_ok hreset
        exact ih.of_run (v := v) hrun
      | some stop =>
        rw [hs] at hstep
        obtain ⟨st, hst⟩ := hstep
        refine ⟨st, ?_⟩
        rw [stepRows, Act.bind_run_ok hbind, hb, if_pos rfl, Act.bind_run_ok hst]
        rfl

/-- The statement of an operation is finalized, and the transaction committed. -/
private theorem ends_commit (h : Sane v) (hstmt : v.stmt ≠ .over) (prepare step : HelperRc) :
    Ends (do typestate.sqlite3_finalize; single typestate prepare step) v
      (prepare.stop.or step.stop) .over := by
  have hfinalize : ∃ st, typestate.sqlite3_finalize.run v = (.ok (), { v with stmt := st }) := by
    refine ⟨v.stmt.ended, ?_⟩
    obtain ⟨db, stmt, misused⟩ := v
    obtain ⟨hmis, hdb⟩ := h
    cases hmis
    cases stmt <;> first | rfl | exact absurd rfl hstmt
  obtain ⟨st, hst⟩ := hfinalize
  exact (ends_single (h.setStmt st) prepare step).of_run (Act.bind_run_ok hst)

/-- **`QuickInsertData` and `QuickDeletData`** stop where the first call stops them. -/
private theorem ends_quick (h : Sane v) (rc : QuickRc) :
    Ends (quick typestate rc) v rc.stop .over := by
  have hgiven := given_ne_over rc.given
  exact (ends_single h rc.begin rc.beginStep).both <|
    (ends_prepare (h.setStmt .over) rc.given rc.prepare).both <|
      (ends_rows (h.setStmt _) hgiven rc.rows).both <|
        ends_commit (h.setStmt _) hgiven rc.commit rc.commitStep

private theorem Ends.misused {m : Act View Bool} {stop : Option Stop} (h : Ends m v stop stmt) :
    (m.run v).2.misused = v.misused := by
  cases stop with
  | none => exact congrArg (fun r => r.2.misused) h
  | some stop =>
    obtain ⟨st, hst⟩ := h
    exact congrArg (fun r => r.2.misused) hst

/-- The loop of `QuickSelectDataCount` ends with the first code that is not a row. -/
private theorem countLoop_run (h : Sane v) (hstmt : v.stmt ≠ .over) (codes : List StepRc) :
    (countLoop typestate codes).run v =
      match codes.find? (· ≠ .row) with
      | none => (.error .hang, v)
      | some .error => (.ok (), { v with stmt := v.stmt.ended })
      | some _ => (.ok (), v) := by
  induction codes with
  | nil => rfl
  | cons code codes ih =>
    have hstep := onStmt_run h hstmt .sqlite3_step
    unfold countLoop
    rw [Act.bind_run_ok hstep]
    cases code with
    | row => exact (Act.bind_run_ok (onStmt_run h hstmt _)).trans ih
    | done => rfl
    | error =>
      obtain ⟨db, stmt, misused⟩ := v
      obtain ⟨hmis, hdb⟩ := h
      cases hmis
      cases stmt <;> first | rfl | exact absurd rfl hstmt

/-- The loop of `QuickSelectData` leaves the handles as they are. -/
private theorem fetchLoop_run (h : Sane v) (hstmt : v.stmt ≠ .over) (codes : List StepRc)
    (need : ℕ) : ((fetchLoop typestate codes need).run v).2 = v := by
  induction codes generalizing need with
  | nil => cases need <;> rfl
  | cons code codes ih =>
    cases need with
    | zero => rfl
    | succ need =>
      have hstep := onStmt_run h hstmt .sqlite3_step
      unfold fetchLoop
      rw [Act.bind_run_ok hstep]
      cases code with
      | row =>
        rw [Act.bind_run_ok (onStmt_run h hstmt _)]
        exact ih need
      | done => rfl
      | error => exact ih (need + 1)

/-- A misuse is not undone. -/
private theorem misused_simulates : CallsSimulate id (fun v : View => v.misused = true)
    typestate typestate := by
  have hkeep : ∀ f : View → View, (∀ v : View, v.misused = true → (f v).misused = true) →
      Act.Simulates id (fun v : View => v.misused = true) (Act.modify f) (Act.modify f) :=
    fun f hf => Act.Simulates.modify fun v hv => ⟨rfl, hf v hv⟩
  have hor : ∀ v : View, ∀ b, v.misused = true → (v.misused || b) = true := by
    intro v b hv
    rw [hv]
    rfl
  constructor
  · exact fun _ => hkeep _ fun _ hv => hv
  · exact fun _ => hkeep _ fun v hv => hor v _ hv
  · exact fun _ => hkeep _ fun v hv => hor v _ hv
  · exact hkeep _ fun _ hv => hv
  · exact Act.Simulates.query fun _ => rfl
  · exact fun _ => hkeep _ fun v hv => hor v _ hv
  · exact fun _ => hkeep _ fun v hv => hor v _ hv
  · exact hkeep _ fun v hv => hor v _ hv
  · exact Act.Simulates.query fun _ => rfl

/-- What `QuickSelectDataCount` does with its statement. -/
private theorem countBody_misused (h : Sane v) (hstmt : v.stmt ≠ .over) (codes : List StepRc)
    (prepare step : HelperRc) :
    ((do
      typestate.onStmt .sqlite3_column_count
      countLoop typestate codes
      typestate.sqlite3_finalize
      single typestate prepare step : Act View Bool).run v).2.misused = false ↔
      ¬ (v.stmt = .used ∧ codes.find? (· ≠ .row) = some .error) := by
  have hloop := countLoop_run h hstmt codes
  rw [Act.bind_run_ok (onStmt_run h hstmt _)]
  revert hloop
  cases hfind : codes.find? (· ≠ .row) with
  -- no code ends the loop: it never comes to a finalize
  | none =>
    intro hloop
    rw [Act.bind_run_error hloop]
    exact ⟨fun _ hand => absurd hand.2 nofun, fun _ => h.misused⟩
  | some code =>
    cases code with
    | row =>
      have hrow := List.find?_some hfind
      exact absurd hrow (by decide)
    | done =>
      intro hloop
      rw [Act.bind_run_ok hloop]
      have hmis := (ends_commit h hstmt prepare step).misused.trans h.misused
      exact ⟨fun _ hand => absurd hand.2 nofun, fun _ => hmis⟩
    | error =>
      intro hloop
      rw [Act.bind_run_ok hloop]
      -- the loop has finalized the statement; a null one may be finalized again
      by_cases hnull : v.stmt = .null
      · have hover : v.stmt.ended ≠ .over := by
          rw [hnull]
          decide
        have hmis := (ends_commit (h.setStmt _) hover prepare step).misused.trans h.misused
        exact ⟨fun _ hand => by rw [hnull] at hand; exact absurd hand.1 nofun, fun _ => hmis⟩
      · -- the statement is finalized for the second time
        have hused : v.stmt = .used := by
          cases hst : v.stmt with
          | null => exact absurd hst hnull
          | used => rfl
          | _ => exact absurd hst hstmt
        have htwice : ((do
            typestate.sqlite3_finalize
            single typestate prepare step : Act View Bool).run
              { v with stmt := v.stmt.ended }).2.misused = true := by
          have hended : v.stmt.ended = .over := by
            rw [hused]
            rfl
          rw [hended]
          have hfinalize : typestate.sqlite3_finalize.run { v with stmt := .over } =
              (.ok (), { v with stmt := .over, misused := true }) := by
            obtain ⟨db, stmt, misused⟩ := v
            obtain ⟨hmis, hdb⟩ := h
            cases hmis
            rfl
          rw [Act.bind_run_ok hfinalize]
          exact (misused_simulates.single prepare step _ rfl).2
        rw [htwice]
        exact ⟨fun hfalse => absurd hfalse nofun, fun hnot => absurd ⟨hused, rfl⟩ hnot⟩

/-! ## §2 The condition -/

/-- The query is not prepared, and the connection closed. -/
def SelectRc.Closed (rc : SelectRc) : Prop :=
  rc.begin = .ok ∧ rc.beginStep = .ok ∧ rc.prepare = .fails true

/-- A step fails in the loop over the rows of a query. -/
def SelectRc.Broken (rc : SelectRc) : Prop :=
  rc.begin = .ok ∧ rc.beginStep = .ok ∧ rc.prepare = .ok ∧ rc.given = true ∧
    rc.codes.find? (· ≠ .row) = some .error

/-- A helper closes the connection, and the operation then records the last error. -/
def Op.RecordsClosed : Op → Prop
  | .quickInsertData rc => rc.stop = some (.failed true)
  | .quickSelectDataCount rc => rc.Closed
  | _ => False

/-- A step fails in a loop that finalizes the statement, as is done behind the loop too. -/
def Op.FinalizesTwice : Op → Prop
  | .quickSelectDataCount rc | .quickSelectDataCountDouble rc => rc.Broken
  | _ => False

/-- The condition on an operation, where `db` is the connection the object holds: a database that
is not opened gives no connection, or one that cannot be closed; another operation finds no closed
connection, does not record the error of one it has closed, and finalizes its statement once. -/
def Op.Meets (db : Handle) : Op → Prop
  | .openDataBase rc _ => rc ≠ .fails true true
  | op => db ≠ .over ∧ ¬ (db = .used ∧ op.RecordsClosed) ∧ ¬ op.FinalizesTwice

private theorem Sane.onDb (h : Sane v) : v.onDb = v := by
  obtain ⟨db, stmt, misused⟩ := v
  obtain ⟨hmis, hdb⟩ := h
  cases hmis
  cases db <;> first | rfl | exact absurd rfl hdb

private theorem onDb_run (h : Sane v) (f : DbFn) : (typestate.onDb f).run v = (.ok (), v) :=
  congrArg (Prod.mk _) h.onDb

private theorem recorded_run_true {m : Act View Bool} {w : View} (h : m.run v = (.ok true, w)) :
    (recorded typestate m).run v = (.ok true, w) :=
  Act.bind_run_ok h

private theorem recorded_run_false {m : Act View Bool} {w : View} (h : m.run v = (.ok false, w)) :
    (recorded typestate m).run v = (.ok false, w.onDb) :=
  Act.bind_run_ok h

private theorem execSql_run (h : Sane v) (ok : Bool) :
    ∃ b, (execSql typestate ok).run v = (.ok b, v) := by
  rw [execSql, Act.bind_run_ok (onDb_run h _)]
  cases ok with
  | true => exact ⟨true, recorded_run_true rfl⟩
  | false => exact ⟨false, (recorded_run_false rfl).trans (congrArg (Prod.mk _) h.onDb)⟩

/-- Recording the error of what stops is a misuse when the connection is closed. -/
private theorem onDb_left (h : Sane v) (stop : Stop) :
    (View.onDb { v with db := stop.left v.db, stmt := stmt }).misused = false ↔
      ¬ (v.db = .used ∧ stop = .failed true) := by
  obtain ⟨db, st, misused⟩ := v
  obtain ⟨hmis, hdb⟩ := h
  cases hmis
  cases db <;> rcases stop with _ | ⟨_ | _⟩ <;>
    simp [Stop.left, View.onDb, Handle.ended] at hdb ⊢

/-- **`QuickInsertData`** records the error of what stops it. -/
private theorem quickInsert_misused (h : Sane v) (rc : QuickRc) :
    ((quickInsertData typestate rc).run v).2.misused = false ↔
      ¬ (v.db = .used ∧ rc.stop = some (.failed true)) := by
  have hquick := ends_quick h rc
  cases hstop : rc.stop with
  | none =>
    rw [hstop] at hquick
    rw [quickInsertData, recorded_run_true hquick]
    exact ⟨fun _ hand => absurd hand.2 nofun, fun _ => h.misused⟩
  | some stop =>
    rw [hstop] at hquick
    obtain ⟨st, hst⟩ := hquick
    rw [quickInsertData, recorded_run_false hst, onDb_left h, Option.some.injEq]

private theorem or_stop_eq_none {prepare step : HelperRc} :
    prepare.stop.or step.stop = none ↔ prepare = .ok ∧ step = .ok := by
  cases prepare <;> cases step <;> simp [HelperRc.stop]

/-- **`QuickSelectDataCount`**, whether it records the error of its query or not. -/
private theorem quickCount_misused (h : Sane v) (rc : SelectRc) {prepare : Act View Bool}
    {records : Bool} (hprepare : prepare = if records then
      recorded typestate (sqlite3_prepare typestate rc.given rc.prepare)
      else sqlite3_prepare typestate rc.given rc.prepare) :
    ((quickCount typestate prepare rc).run v).2.misused = false ↔
      ¬ (v.db = .used ∧ records = true ∧ rc.Closed) ∧ ¬ rc.Broken := by
  have hsingle := ends_single h rc.begin rc.beginStep
  cases hstop : rc.begin.stop.or rc.beginStep.stop with
  -- the transaction has not begun, so neither slip is reached
  | some stop =>
    rw [hstop] at hsingle
    obtain ⟨st, hst⟩ := hsingle
    have hneither : ¬ (rc.begin = .ok ∧ rc.beginStep = .ok) := by
      rw [← or_stop_eq_none, hstop]
      nofun
    rw [quickCount, Act.both_run_false hst]
    exact ⟨fun _ => ⟨fun hand => hneither ⟨hand.2.2.1, hand.2.2.2.1⟩,
      fun hand => hneither ⟨hand.1, hand.2.1⟩⟩, fun _ => h.misused⟩
  | none =>
    rw [hstop] at hsingle
    obtain ⟨hbegin, hstep⟩ := or_stop_eq_none.1 hstop
    have hprep := ends_prepare (h.setStmt .over) rc.given rc.prepare
    rw [quickCount, Act.both_run_true hsingle, SelectRc.Closed, SelectRc.Broken]
    cases hrc : rc.prepare with
    | ok =>
      rw [hrc] at hprep hprepare
      have hrun : prepare.run { v with stmt := .over } =
          (.ok true, { v with stmt := .given rc.given }) := by
        rw [hprepare]
        cases records with
        | true => exact recorded_run_true hprep
        | false => exact hprep
      have hused : Handle.given rc.given = .used ↔ rc.given = true := by
        cases rc.given <;> decide
      rw [Act.both_run_true hrun]
      have hbody := countBody_misused (h.setStmt (.given rc.given)) (given_ne_over rc.given)
        rc.codes rc.commit rc.commitStep
      rw [hused] at hbody
      rw [hbody]
      simp only [hbegin, hstep, reduceCtorEq, and_false, not_false_eq_true, true_and]
    -- a prepare that fails closes the connection, and recording its error uses it
    | fails closes =>
      rw [hrc] at hprep hprepare
      obtain ⟨st, hst⟩ := hprep
      simp only [hbegin, hstep, reduceCtorEq, false_and, and_false, not_false_eq_true, true_and,
        and_true, HelperRc.fails.injEq]
      cases records with
      | true =>
        rw [hprepare, if_pos rfl, Act.both_run_false (recorded_run_false hst), onDb_left h]
        simp only [Stop.failed.injEq, true_and]
      | false =>
        rw [hprepare, if_neg (by decide), Act.both_run_false hst]
        exact ⟨fun _ hand => absurd hand.2.1 nofun, fun _ => h.misused⟩

/-- An operation that neither records nor loops leaves nothing misused. -/
private theorem plain_misused (h : Sane v) {m : Act View Unit} {op : Op}
    (hmis : (m.run v).2.misused = false) (hmeets : op.Meets v.db ↔
      v.db ≠ .over ∧ ¬ (v.db = .used ∧ False) ∧ ¬ False) :
    (m.run v).2.misused = false ↔ op.Meets v.db := by
  rw [hmeets]
  exact ⟨fun _ => ⟨h.db, fun hand => hand.2, fun hf => hf⟩, fun _ => hmis⟩

private theorem ends_execOrClose (h : Sane v) (rc : HelperRc) :
    Ends (execOrClose typestate rc) v rc.stop v.stmt := by
  obtain ⟨db, stmt, misused⟩ := v
  obtain ⟨hmis, hdb⟩ := h
  cases hmis
  cases rc with
  | ok => cases db <;> first | rfl | exact absurd rfl hdb
  | fails closes =>
    refine ⟨stmt, ?_⟩
    cases db <;> cases closes <;> first | rfl | exact absurd rfl hdb

/-- Dropping what an operation returns changes nothing. -/
private theorem drop_misused (m : Act View Bool) :
    ((do let _ ← m : Act View Unit).run v).2.misused = (m.run v).2.misused := by
  rw [Act.bind_run]
  rcases m.run v with ⟨e | b, w⟩ <;> rfl

/-- Ending the process changes nothing. -/
private theorem exit_misused (m : Act View Bool) :
    ((do if ← m then pure () else Act.halt .hang : Act View Unit).run v).2.misused =
      (m.run v).2.misused := by
  rw [Act.bind_run]
  rcases m.run v with ⟨e | _ | _, w⟩ <;> rfl

private theorem insertData_misused (h : Sane v) (begins inserts commits : Bool) :
    ((insertData typestate begins inserts commits).run v).2.misused = false := by
  have hboth : ∀ {m : Act View Bool} (ok : Bool), (m.run v).2 = v →
      ((Act.both (execSql typestate ok) m).run v).2 = v := by
    intro m ok hm
    obtain ⟨b, hb⟩ := execSql_run h ok
    cases b with
    | true =>
      rw [Act.both_run_true hb]
      exact hm
    | false => rw [Act.both_run_false hb]
  obtain ⟨b, hb⟩ := execSql_run h commits
  have hlast : ((execSql typestate commits).run v).2 = v := by rw [hb]
  rw [insertData, hboth begins (hboth inserts hlast)]
  exact h.misused

private theorem closeDataBase_misused (h : Sane v) (ok : Bool) :
    ((closeDataBase typestate ok).run v).2.misused = false := by
  obtain ⟨db, stmt, misused⟩ := v
  obtain ⟨hmis, hdb⟩ := h
  cases hmis
  cases db <;> cases ok <;> first | rfl | exact absurd rfl hdb

private theorem quickSelectData_misused (h : Sane v) (rc : SelectRc) (count : ℕ) :
    ((quickSelectData typestate rc count).run v).2.misused = false := by
  have hgiven := given_ne_over rc.given
  have hsane : Sane { v with stmt := .given rc.given } := h.setStmt _
  have hhead := (ends_single h rc.begin rc.beginStep).both
    (ends_prepare (h.setStmt .over) rc.given rc.prepare)
  -- the head and the prepare together, so that one lemma ends both
  have hassoc : ∀ (a b c : Act View Bool) (w : View),
      (Act.both a (Act.both b c)).run w = (Act.both (Act.both a b) c).run w := by
    intro a b c w
    simp only [Act.both, Act.bind_run]
    rcases a.run w with ⟨e | _ | _, w'⟩ <;> rfl
  rw [quickSelectData, hassoc]
  cases hstop : (rc.begin.stop.or rc.beginStep.stop).or rc.prepare.stop with
  | some stop =>
    rw [hstop] at hhead
    obtain ⟨st, hst⟩ := hhead
    rw [Act.both_run_false hst]
    exact h.misused
  | none =>
    rw [hstop] at hhead
    rw [Act.both_run_true hhead, Act.bind_run_ok (onStmt_run hsane hgiven _)]
    have hloop := fetchLoop_run hsane hgiven rc.codes count
    rw [Act.bind_run]
    rcases hrun : (fetchLoop typestate rc.codes count).run { v with stmt := .given rc.given }
      with ⟨e | u, w⟩
    · rw [hrun] at hloop
      exact (congrArg View.misused hloop).trans h.misused
    · rw [hrun] at hloop
      have hw : w = { v with stmt := .given rc.given } := hloop
      rw [hw]
      exact (ends_commit hsane hgiven rc.commit rc.commitStep).misused.trans h.misused

/-- A database that is not opened. -/
private theorem openDataBase_misused (hmis : v.misused = false) (rc : OpenRc)
    (synchronous : Option Bool) :
    ((openDataBase typestate rc synchronous).run v).2.misused = false ↔ rc ≠ .fails true true := by
  obtain ⟨db, stmt, misused⟩ := v
  cases hmis
  rcases rc with _ | ⟨_ | _, _ | _⟩ <;> rcases synchronous with _ | _ | _ <;>
    simp [openDataBase, Act.bind_run, typestate, recorded, execSql, recordLastError, View.onDb,
      Handle.given, Handle.ended]

/-- **One operation** misuses a handle exactly when it does not meet the condition. -/
private theorem call_misused_of_sane (h : Sane v) (op : Op) :
    ((op.call typestate).run v).2.misused = false ↔ op.Meets v.db := by
  have hexec : ∀ ok, ((execSql typestate ok).run v).2.misused = false := by
    intro ok
    obtain ⟨b, hb⟩ := execSql_run h ok
    rw [hb]
    exact h.misused
  have hends : ∀ {m : Act View Bool} {stop stmt}, Ends m v stop stmt →
      (m.run v).2.misused = false :=
    fun he => he.misused.trans h.misused
  -- the three that can go wrong have their own lemmas, the others are plain
  cases op with
  | openDataBase rc synchronous =>
    rw [Op.call, drop_misused]
    exact openDataBase_misused h.misused rc synchronous
  | createTable ok => exact plain_misused h ((drop_misused _).trans (hexec ok)) Iff.rfl
  | insertData begins inserts commits =>
    exact plain_misused h ((drop_misused _).trans (insertData_misused h begins inserts commits))
      Iff.rfl
  | selectData ok => exact plain_misused h ((drop_misused _).trans (hexec ok)) Iff.rfl
  | updataData ok => exact plain_misused h ((drop_misused _).trans (hexec ok)) Iff.rfl
  | deleteData ok => exact plain_misused h ((drop_misused _).trans (hexec ok)) Iff.rfl
  | droptable ok => exact plain_misused h ((drop_misused _).trans (hexec ok)) Iff.rfl
  | closeDataBase ok =>
    exact plain_misused h ((drop_misused _).trans (closeDataBase_misused h ok)) Iff.rfl
  | quickInsertData rc =>
    show _ ↔ v.db ≠ .over ∧ ¬ (v.db = .used ∧ rc.stop = some (.failed true)) ∧ ¬ False
    rw [Op.call, drop_misused, quickInsert_misused h]
    exact ⟨fun hand => ⟨h.db, hand, fun hf => hf⟩, fun hand => hand.2.1⟩
  | quickDeletData rc =>
    exact plain_misused h ((drop_misused _).trans (hends (ends_quick h rc))) Iff.rfl
  | quickSelectDataCount rc =>
    show _ ↔ v.db ≠ .over ∧ ¬ (v.db = .used ∧ rc.Closed) ∧ ¬ rc.Broken
    have hprepare : recorded typestate (sqlite3_prepare typestate rc.given rc.prepare) =
      if true then recorded typestate (sqlite3_prepare typestate rc.given rc.prepare)
      else sqlite3_prepare typestate rc.given rc.prepare := rfl
    rw [Op.call, drop_misused, quickSelectDataCount, quickCount_misused h rc hprepare]
    simp only [true_and, ne_eq, h.db, not_false_eq_true]
  | quickSelectDataCountDouble rc =>
    show _ ↔ v.db ≠ .over ∧ ¬ (v.db = .used ∧ False) ∧ ¬ rc.Broken
    have hprepare : sqlite3_prepare typestate rc.given rc.prepare =
      if false then recorded typestate (sqlite3_prepare typestate rc.given rc.prepare)
      else sqlite3_prepare typestate rc.given rc.prepare := rfl
    rw [Op.call, drop_misused, quickSelectDataCountDouble, quickCount_misused h rc hprepare]
    simp only [reduceCtorEq, false_and, and_false, ne_eq, h.db, not_false_eq_true, true_and]
  | quickSelectData rc count =>
    exact plain_misused h ((drop_misused _).trans (quickSelectData_misused h rc count)) Iff.rfl
  | findDatabyID =>
    have hmis : ((findDatabyID typestate).run v).2.misused = false := by
      rw [findDatabyID, onDb_run h]
      exact h.misused
    exact plain_misused h hmis Iff.rfl
  | createIndex rc =>
    exact plain_misused h ((exit_misused _).trans (hends (ends_execOrClose h rc))) Iff.rfl
  | replaceTest rc =>
    have hrun := Act.bind_run_ok (f := fun _ => createIndex typestate rc)
      (onDb_run h .sqlite3_get_table)
    have hmis : ((createIndex typestate rc).run v).2.misused = false :=
      (exit_misused _).trans (hends (ends_execOrClose h rc))
    refine plain_misused h ?_ Iff.rfl
    show (((typestate.onDb .sqlite3_get_table) >>= fun _ => createIndex typestate rc).run
      v).2.misused = false
    rw [hrun]
    exact hmis
  | replaceData rc =>
    exact plain_misused h ((drop_misused _).trans (hends (ends_execOrClose h rc))) Iff.rfl
  | beginTransaction prepare step =>
    exact plain_misused h ((drop_misused _).trans (hends (ends_single h prepare step))) Iff.rfl
  | commit prepare step =>
    exact plain_misused h ((drop_misused _).trans (hends (ends_single h prepare step))) Iff.rfl

/-- The first call of every operation but `OpenDataBase` is one on the connection. -/
private theorem call_of_over (stmt : Handle) {op : Op}
    (hop : ∀ rc synchronous, op ≠ .openDataBase rc synchronous) :
    ((op.call typestate).run ⟨.over, stmt, false⟩).2.misused = true := by
  have hsame : (op.call typestate).run ⟨.over, stmt, false⟩ =
      (op.call typestate).run ⟨.over, stmt, true⟩ := by
    cases op with
    | openDataBase rc synchronous => exact absurd rfl (hop rc synchronous)
    | quickInsertData rc | quickDeletData rc | quickSelectDataCount rc
    | quickSelectDataCountDouble rc | quickSelectData rc count =>
      obtain ⟨begin⟩ := rc
      cases begin <;> rfl
    | createIndex rc | replaceTest rc | replaceData rc => cases rc <;> rfl
    | beginTransaction prepare step | commit prepare step => cases prepare <;> rfl
    | _ => rfl
  rw [hsame]
  exact (misused_simulates.call op _ rfl).2

/-- **One operation**, whatever its connection is. -/
private theorem call_misused (hmis : v.misused = false) (op : Op) :
    ((op.call typestate).run v).2.misused = false ↔ op.Meets v.db := by
  by_cases hdb : v.db = .over
  · have hview : v = ⟨.over, v.stmt, false⟩ := by
      rw [← hdb, ← hmis]
    by_cases hop : ∃ rc synchronous, op = .openDataBase rc synchronous
    · obtain ⟨rc, synchronous, rfl⟩ := hop
      rw [Op.call, drop_misused]
      exact openDataBase_misused hmis rc synchronous
    · have hno : ∀ rc synchronous, op ≠ .openDataBase rc synchronous :=
        fun rc synchronous heq => hop ⟨rc, synchronous, heq⟩
      have hmeets : ¬ op.Meets .over := by
        intro hmeets
        cases op with
        | openDataBase rc synchronous => exact hno rc synchronous rfl
        | _ => exact hmeets.1 rfl
      rw [hview, call_of_over v.stmt hno]
      exact ⟨fun h => absurd h nofun, fun h => absurd h hmeets⟩
  · exact call_misused_of_sane ⟨hmis, hdb⟩ op

/-! ## §3 Runs -/

private theorem misused_view {s : Trace} : s.view.misused = false ↔ WellUsed s.calls := by
  show (!decide (WellUsed s.calls)) = false ↔ _
  rw [Bool.not_eq_false', decide_eq_true_iff]

/-- What one operation does to the calls. -/
private theorem step_wellUsed {x y : Object Trace} {op : Op} (hfresh : Fresh x.state)
    (h : step traced x op = some y) : Fresh y.state ∧
      (WellUsed y.state.calls ↔ WellUsed x.state.calls ∧ op.Meets x.state.view.db) := by
  obtain ⟨hview, hfresh'⟩ := traced_simulates.call op x.state hfresh
  rw [step] at h
  split at h
  · obtain rfl := Option.some.inj h
    refine ⟨hfresh', ?_⟩
    have hafter : ((op.call typestate).run x.state.view).2 =
      ((op.call traced).run x.state).2.view := congrArg Prod.snd hview
    rw [← misused_view, ← misused_view, ← hafter]
    cases hmis : x.state.view.misused with
    | true =>
      have hkeep := (misused_simulates.call op _ hmis).2
      rw [hkeep]
      exact ⟨fun hf => absurd hf nofun, fun hand => absurd hand.1 nofun⟩
    | false =>
      rw [call_misused hmis op]
      exact ⟨fun hmeets => ⟨rfl, hmeets⟩, fun hand => hand.2⟩
  · exact absurd h nofun

private theorem run_wellUsed {ops : List Op} {x y : Object Trace}
    (h : Run (step traced) (fun _ _ => True) x ops y) (hfresh : Fresh x.state) :
    WellUsed y.state.calls ↔ WellUsed x.state.calls ∧
      Run (step traced) (fun z op => op.Meets z.state.view.db) x ops y := by
  induction h with
  | nil => exact ⟨fun hused => ⟨hused, .nil⟩, fun hand => hand.1⟩
  | cons _ hstep _ ih =>
    obtain ⟨hfresh', hiff⟩ := step_wellUsed hfresh hstep
    rw [ih hfresh', hiff]
    constructor
    · rintro ⟨⟨hused, hmeets⟩, hrest⟩
      exact ⟨hused, .cons hmeets hstep hrest⟩
    · rintro ⟨hused, hrun⟩
      cases hrun with
      | cons hmeets hstep' hrest =>
        rw [hstep, Option.some.injEq] at hstep'
        rw [hstep']
        exact ⟨⟨hused, hmeets⟩, hrest⟩

/-- **A run misuses no handle** exactly when each of its operations meets the condition. -/
theorem wellUsed_iff {ops : List Op} {x : Object Trace}
    (h : Run (step traced) (fun _ _ => True) newObject ops x) :
    WellUsed x.state.calls ↔
      Run (step traced) (fun y op => op.Meets y.state.view.db) newObject ops x := by
  have hfresh : Fresh newObject.state :=
    ⟨fun _ he => absurd he List.not_mem_nil, fun _ he => absurd he List.not_mem_nil, nofun, nofun⟩
  rw [run_wellUsed h hfresh]
  exact ⟨fun hand => hand.2, fun hrun => ⟨List.Pairwise.nil, hrun⟩⟩

/-- A database opened, read and closed. -/
private def readOps : List Op :=
  [.openDataBase .ok none, .deleteData true,
    .quickSelectDataCount ⟨.ok, .ok, true, .ok, [.row, .done], .ok, .ok⟩, .closeDataBase true]

/-- Opening, reading and closing misuses nothing. -/
theorem wellUsed_of_read : ∃ x, Run (step traced) (fun _ _ => True) newObject readOps x ∧
    (WellUsed x.state.calls ↔
      Run (step traced) (fun y op => op.Meets y.state.view.db) newObject readOps x) := by
  obtain ⟨x, hx⟩ : ∃ x, Run.eval (step traced) newObject readOps = some x :=
    Option.isSome_iff_exists.1 (by decide)
  have hrun : Run (step traced) (fun _ _ => True) newObject readOps x := Run.of_eval hx (by decide)
  exact ⟨x, hrun, wellUsed_iff hrun⟩

/-- An insert whose table is missing records the error of the connection it has closed. -/
theorem closed_connection_passed : ¬ ∀ (ops : List Op) (x : Object Trace),
    (∃ rc synchronous rest, ops = .openDataBase rc synchronous :: rest) →
      Run (step traced) (fun _ _ => True) newObject ops x → WellUsed x.state.calls := by
  intro h
  have hmisused : (Run.eval (step traced) newObject [.openDataBase .ok none,
      .quickInsertData ⟨.ok, .ok, true, .fails true, [], .ok, .ok⟩]).any
        (fun x => !decide (WellUsed x.state.calls)) = true := by decide
  cases hx : Run.eval (step traced) newObject [.openDataBase .ok none,
      .quickInsertData ⟨.ok, .ok, true, .fails true, [], .ok, .ok⟩] with
  | none =>
    rw [hx] at hmisused
    exact absurd hmisused nofun
  | some x =>
    rw [hx] at hmisused
    have hused := h _ x ⟨.ok, none, _, rfl⟩ (Run.of_eval hx (by decide))
    have hnot : (!decide (WellUsed x.state.calls)) = true := hmisused
    rw [decide_eq_true hused] at hnot
    exact absurd hnot nofun

end Handles

end MtpSync
