import MtpSync.CSQLite
import Mathlib.Logic.Function.Basic
import Mathlib.Data.List.Basic

/-!
# Parameters bound row by row

`QuickInsertData` and `QuickDeletData` as the source makes their calls: arrays of strings, a loop
over the parameters of each row, a statement that runs on whatever its parameters are bound to.

- §1 binding
- §2 the operation
- §3 what it executes
- §4 all or nothing
- §5 the operation on rows
-/

namespace MtpSync

open Act

/-! ## §1 Binding -/

/-- A connection and the parameters of its statement. -/
structure Prepared (D : Type) where
  sq : Sq D
  params : ℕ → Text

variable {D α : Type}

/-- A call on the connection. -/
def onConnection (m : Act (Sq D) α) : Act (Prepared D) α :=
  m.zoom (fun p => p.sq) fun q p => { p with sq := q }

/-- `sqlite3_bind_text16`, of parameter `i`. -/
def sqlite3BindText16 (rc : BindRc) (i : ℕ) (ch : String) (params : ℕ → Text) : ℕ → Text :=
  match rc with
  | .ok => Function.update params i (some ch)
  | .unchanged => params
  | .cleared => Function.update params i none

/-- The loop of `CSQLite::sqlite3_bind`, with `n` parameters to go.  No result of a bind is
looked at. -/
def sqlite3BindFrom (rc : ℕ → BindRc) (strArr_in : List String) :
    (i n : ℕ) → Act (Prepared D) Bool
  | _, 0 => pure true
  | i, n + 1 =>
    match strArr_in[i]? with
    -- `GetAt` throws past the end, and the exception ends in `catch ( ... )`
    | none => pure false
    | some ch => do
      Act.modify fun p => { p with params := sqlite3BindText16 (rc i) i ch p.params }
      sqlite3BindFrom rc strArr_in (i + 1) n

/-- `CSQLite::sqlite3_bind`. -/
def sqlite3Bind (rc : ℕ → BindRc) (strArr_in : List String) (number : ℕ) :
    Act (Prepared D) Bool :=
  sqlite3BindFrom rc strArr_in 0 number

/-- The parameters after a row was bound. -/
def bindRow (rc : ℕ → BindRc) (row : List String) (number : ℕ) (params : ℕ → Text) : ℕ → Text :=
  fun p =>
    if p < number then
      match rc p with
      | .ok => row[p]?
      | .unchanged => params p
      | .cleared => none
    else params p

theorem sqlite3BindText16_of_ne {rc : BindRc} {i q : ℕ} (ch : String) (params : ℕ → Text)
    (h : q ≠ i) :
    sqlite3BindText16 rc i ch params q = params q := by
  cases rc with
  | ok => exact Function.update_of_ne h _ _
  | unchanged => rfl
  | cleared => exact Function.update_of_ne h _ _

/-- The loop, from parameter `i` on. -/
private theorem sqlite3BindFrom_run (rc : ℕ → BindRc) {row : List String} {i n : ℕ}
    (hlen : i + n ≤ row.length) (sq : Sq D) (params : ℕ → Text) :
    (sqlite3BindFrom rc row i n).run ⟨sq, params⟩ =
      (.ok true, ⟨sq, fun q => if q < i then params q else bindRow rc row (i + n) params q⟩) := by
  -- induction on the parameters still to bind: those below `i` are not touched again
  induction n generalizing i params with
  -- none is left, so `bindRow` adds nothing to what is bound
  | zero =>
    have hsame : (fun q => if q < i then params q else bindRow rc row (i + 0) params q) =
        params := by
      funext q
      rw [Nat.add_zero, bindRow]
      split <;> rfl
    rw [sqlite3BindFrom, pure_run, hsame]
  | succ n ih =>
    have hi : i < row.length := by omega
    have hch : row[i]? = some row[i] := List.getElem?_eq_getElem hi
    -- one parameter more: compare it with the parameter `q` that is asked about
    have hsame : (fun q => if q < i + 1 then sqlite3BindText16 (rc i) i row[i] params q
          else bindRow rc row (i + 1 + n) (sqlite3BindText16 (rc i) i row[i] params) q) =
        fun q => if q < i then params q else bindRow rc row (i + (n + 1)) params q := by
      funext q
      rcases Nat.lt_trichotomy q i with hlt | rfl | hgt
      · rw [if_pos (by omega), if_pos hlt, sqlite3BindText16_of_ne _ _ (by omega)]
      · -- the parameter that was just bound
        rw [if_pos (by omega), if_neg (by omega), bindRow, if_pos (by omega), hch]
        cases rc q with
        | ok => exact Function.update_self _ _ _
        | unchanged => rfl
        | cleared => exact Function.update_self _ _ _
      · rw [if_neg (by omega), if_neg (by omega), bindRow, bindRow,
          sqlite3BindText16_of_ne _ _ (by omega), Nat.add_assoc, Nat.add_comm 1 n]
    rw [sqlite3BindFrom, hch]
    dsimp only
    rw [bind_run_ok (modify_run _ _), ih (by omega), hsame]

/-- **`sqlite3_bind`** of a row that is long enough. -/
theorem sqlite3Bind_run (rc : ℕ → BindRc) {row : List String} {number : ℕ}
    (hlen : number ≤ row.length) (p : Prepared D) :
    (sqlite3Bind rc row number).run p =
      (.ok true, { p with params := bindRow rc row number p.params }) := by
  have hlen' : 0 + number ≤ row.length := by omega
  have hrun := sqlite3BindFrom_run rc hlen' p.sq p.params
  rw [Nat.zero_add] at hrun
  exact hrun

/-- A row that is too short is noticed. -/
theorem sqlite3Bind_run_short (rc : ℕ → BindRc) {row : List String} {number : ℕ}
    (hlen : row.length < number) (p : Prepared D) :
    ∃ params, (sqlite3Bind rc row number).run p = (.ok false, { p with params := params }) := by
  -- `GetAt` fails at the end of the row, whatever has been bound before
  have hloop : ∀ n i, i ≤ row.length → row.length < i + n → ∀ params : ℕ → Text,
      ∃ params', (sqlite3BindFrom rc row i n).run ⟨p.sq, params⟩ =
        (.ok false, ⟨p.sq, params'⟩) := by
    intro n
    induction n with
    | zero =>
      intro i hi hlong
      exact absurd hlong (by omega)
    | succ n ih =>
      intro i hi hlong params
      rw [sqlite3BindFrom]
      rcases Nat.eq_or_lt_of_le hi with rfl | hlt
      · rw [List.getElem?_eq_none (Nat.le_refl _)]
        exact ⟨params, rfl⟩
      · rw [List.getElem?_eq_getElem hlt]
        dsimp only
        rw [bind_run_ok (modify_run _ _)]
        exact ih (i + 1) (by omega) (by omega) _
  exact hloop number 0 (Nat.zero_le _) (by omega) p.params

/-! ## §2 The operation -/

/-- The loop of `QuickInsertData`, from row `i` on: bind, step, reset. -/
def stepBoundRows (rc : QuickRc) (f : D → (ℕ → Text) → D) (number : ℕ) :
    ℕ → List (List String) → Act (Prepared D) Bool
  | _, [] => pure true
  | i, row :: rows =>
    Act.both (sqlite3Bind (rc.bind i) row number) <|
    Act.both (do
      let p ← Act.read
      onConnection (sqliteStep (rc.step i) (change fun d => f d p.params))) <|
    stepBoundRows rc f number (i + 1) rows

/-- `CSQLite::QuickInsertData` and `CSQLite::QuickDeletData`, with the binds: the statement `f`
runs on whatever its parameters are bound to. -/
def quickInsertBound (rc : QuickRc) (f : D → (ℕ → Text) → D) (strArr_in : List (List String))
    (number : ℕ) : Act (Prepared D) Bool :=
  Act.both (onConnection (beginQuick rc.beginPrepare rc.beginStep rc.prepare))
  do
    -- the parameters of a statement just prepared are NULL
    Act.modify fun p => { p with params := fun _ => none }
    Act.both (stepBoundRows rc f number 0 strArr_in) <|
      onConnection (commitQuick rc.commitPrepare rc.commitStep)

/-! ## §3 What is executed -/

/-- The parameters row `k` is executed with are `paramsOf … (k + 1)`: those of the row before,
as its own binds left them. -/
def paramsOf (rc : QuickRc) (strArr_in : List (List String)) (number : ℕ) : ℕ → ℕ → Text
  | 0 => fun _ => none
  | k + 1 =>
    match strArr_in[k]? with
    | some row => bindRow (rc.bind k) row number (paramsOf rc strArr_in number k)
    | none => paramsOf rc strArr_in number k

/-- The parameters of each execution. -/
def executedParams (rc : QuickRc) (strArr_in : List (List String)) (number : ℕ) :
    List (ℕ → Text) :=
  (List.range strArr_in.length).map fun k => paramsOf rc strArr_in number (k + 1)

/-- The first `number` values of a row. -/
def valuesOf (number : ℕ) (row : List String) : ℕ → Text :=
  fun p => if p < number then row[p]? else none

section Runs

variable {rc : QuickRc} {f : D → (ℕ → Text) → D} {strArr_in : List (List String)} {number : ℕ}

/-- A connection inside a transaction that has got as far as `d`. -/
private def Sq.inTx (s : Sq D) (d : D) : Sq D := { s with tx := some (.holds d) }

private theorem onConnection_run {m : Act (Sq D) α} {sq sq' : Sq D} {e : Except Halt α}
    (h : m.run sq = (e, sq')) (params : ℕ → Text) :
    (onConnection m).run ⟨sq, params⟩ = (e, ⟨sq', params⟩) := by
  rw [onConnection, zoom_run, h]

/-- One step inside a transaction, on the parameters as they are. -/
private theorem stepBound_run (ok : Bool) {sq : Sq D} (hc : sq.connected = true) (d : D)
    (params : ℕ → Text) :
    (do
      let p ← Act.read
      onConnection (sqliteStep ok (change fun d => f d p.params))).run
        (⟨sq.inTx d, params⟩ : Prepared D) =
      if ok then (.ok true, ⟨sq.inTx (f d params), params⟩)
      else (.ok false, ⟨sq.closed, params⟩) := by
  cases ok with
  | true =>
    have hstep : (sqliteStep true (change fun d => f d params)).run (sq.inTx d) =
        (.ok true, sq.inTx (f d params)) := by
      simp [sqliteStep, change, Sq.inTx, hc]
    exact onConnection_run hstep params
  | false =>
    have hstep : (sqliteStep false (change fun d => f d params)).run (sq.inTx d) =
        (.ok false, sq.closed) := by
      simp [sqliteStep, Sq.inTx, Sq.closed]
    exact onConnection_run hstep params

/-- The row at hand, its number and its parameters. -/
private theorem paramsOf_succ (rc : QuickRc) (number : ℕ) {row : List String}
    {rows : List (List String)} {i : ℕ}
    (hrows : strArr_in.drop i = row :: rows) :
    i < strArr_in.length ∧ strArr_in.drop (i + 1) = rows ∧
      paramsOf rc strArr_in number (i + 1) =
        bindRow (rc.bind i) row number (paramsOf rc strArr_in number i) := by
  have hrow : strArr_in[i]? = some row := by
    have h0 : (strArr_in.drop i)[0]? = strArr_in[i + 0]? := List.getElem?_drop
    rw [hrows, Nat.add_zero] at h0
    exact h0.symm
  refine ⟨(List.getElem?_eq_some_iff.1 hrow).1, ?_, ?_⟩
  · rw [← List.drop_drop, hrows]
    rfl
  · rw [paramsOf, hrow]

/-- Step through the rows inside a transaction: each is executed with its parameters. -/
private theorem stepBoundRows_run {rows : List (List String)} {i : ℕ}
    (hrows : strArr_in.drop i = rows) (hlen : ∀ row ∈ rows, number ≤ row.length)
    (hstep : ∀ k < strArr_in.length, rc.step k = true) {sq : Sq D}
    (hc : sq.connected = true) (d : D) :
    ∃ params,
      (stepBoundRows rc f number i rows).run ⟨sq.inTx d, paramsOf rc strArr_in number i⟩ =
        (.ok true, ⟨sq.inTx (((List.range' i rows.length).map fun k =>
          paramsOf rc strArr_in number (k + 1)).foldl f d), params⟩) := by
  -- each row starts from the parameters the one before it left
  induction rows generalizing i d with
  | nil => exact ⟨paramsOf rc strArr_in number i, rfl⟩
  | cons row rows ih =>
    rw [List.forall_mem_cons] at hlen
    obtain ⟨hi, hdrop, hparams⟩ := paramsOf_succ rc number hrows
    -- bind the row, execute it, and go on with the rest
    have hbind := sqlite3Bind_run (rc.bind i) hlen.1
      (⟨sq.inTx d, paramsOf rc strArr_in number i⟩ : Prepared D)
    rw [← hparams] at hbind
    have hone := stepBound_run (f := f) (rc.step i) hc d
      (paramsOf rc strArr_in number (i + 1))
    rw [hstep i hi, if_pos rfl] at hone
    obtain ⟨params, hrest⟩ := ih hdrop hlen.2 (f d (paramsOf rc strArr_in number (i + 1)))
    refine ⟨params, ?_⟩
    rw [stepBoundRows, Act.both_run_true hbind, hstep i hi, Act.both_run_true hone, hrest,
      List.length_cons, List.range'_succ, List.map_cons, List.foldl_cons]

/-- A row that is too short, or whose step fails: the committed content stays. -/
private theorem stepBoundRows_fails {rows : List (List String)} {i : ℕ}
    (hrows : strArr_in.drop i = rows)
    (hfails : ¬((∀ row ∈ rows, number ≤ row.length) ∧
      ∀ k < rows.length, rc.step (i + k) = true)) {sq : Sq D} (hc : sq.connected = true)
    (d : D) :
    ∃ p', (stepBoundRows rc f number i rows).run ⟨sq.inTx d, paramsOf rc strArr_in number i⟩ =
      (.ok false, p') ∧ p'.sq.file = sq.file := by
  induction rows generalizing i d with
  | nil => exact absurd ⟨by simp, by simp⟩ hfails
  | cons row rows ih =>
    obtain ⟨-, hdrop, hparams⟩ := paramsOf_succ rc number hrows
    rw [stepBoundRows]
    rcases Nat.lt_or_ge row.length number with hshort | hlong
    · obtain ⟨params, hbind⟩ := sqlite3Bind_run_short (rc.bind i) hshort
        (⟨sq.inTx d, paramsOf rc strArr_in number i⟩ : Prepared D)
      exact ⟨_, Act.both_run_false hbind, rfl⟩
    · have hbind := sqlite3Bind_run (rc.bind i) hlong
        (⟨sq.inTx d, paramsOf rc strArr_in number i⟩ : Prepared D)
      rw [← hparams] at hbind
      have hone := stepBound_run (f := f) (rc.step i) hc d
        (paramsOf rc strArr_in number (i + 1))
      rw [Act.both_run_true hbind]
      cases hi : rc.step i with
      | false =>
        rw [hi, if_neg (by decide)] at hone
        exact ⟨_, Act.both_run_false hone, rfl⟩
      | true =>
        rw [hi, if_pos rfl] at hone
        rw [Act.both_run_true hone]
        apply ih hdrop
        -- this row is not the one that fails
        rintro ⟨hlen, hstep⟩
        refine hfails ⟨List.forall_mem_cons.2 ⟨hlong, hlen⟩, fun k hk => ?_⟩
        cases k with
        | zero => exact hi
        | succ k =>
          have hnext := hstep k (Nat.lt_of_succ_lt_succ hk)
          rwa [Nat.add_assoc, Nat.add_comm 1 k] at hnext

/-- All that has to go well for the operation to succeed. -/
def QuickRc.Succeeds (rc : QuickRc) (strArr_in : List (List String)) (number : ℕ) : Prop :=
  rc.ok strArr_in.length = true ∧ ∀ row ∈ strArr_in, number ≤ row.length

/-- A connection that is closed, has no tables to work on or has a transaction open already does
not get to the rows. -/
private theorem beginQuick_run_cases (b₁ b₂ b₃ : Bool) (s : Sq D) :
    (∃ d, s.connected = true ∧ s.file = .holds d ∧ (b₁ && b₂ && b₃) = true ∧
      (beginQuick b₁ b₂ b₃).run s = (.ok true, s.inTx d)) ∨
    ∃ s', (beginQuick b₁ b₂ b₃).run s = (.ok false, s') ∧ s'.file = s.file ∧
      ¬(s.connected = true ∧ s.tx = none ∧ s.file.tables.isSome = true ∧
        (b₁ && b₂ && b₃) = true) := by
  obtain ⟨file, tx, connected, gate⟩ := s
  cases tx with
  | some x =>
    -- inside a transaction `BEGIN` fails
    refine .inr ?_
    cases connected <;> cases b₁ <;> cases b₂ <;> exact ⟨_, rfl, rfl, by simp⟩
  | none =>
    -- outside of one all three calls decide
    have hrun := beginQuick_run b₁ b₂ b₃ ⟨file, none, connected, gate⟩ rfl
    split at hrun
    · next h =>
      simp only [Bool.and_eq_true] at h
      obtain ⟨d, hd⟩ := DbFile.eq_holds h.1.2
      refine .inl ⟨d, h.1.1, hd, by simp [h.2], hrun.trans ?_⟩
      have hd : file = .holds d := hd
      rw [hd]
      rfl
    · next h =>
      refine .inr ⟨_, hrun, rfl, fun hall => h ?_⟩
      obtain ⟨hc, -, htables, hb⟩ := hall
      simp only [Bool.and_eq_true] at hb ⊢
      exact ⟨⟨hc, htables⟩, hb⟩

/-- **The operation**: when it answers `TRUE` the statement has been executed with the parameters
of each row, and otherwise the committed content is what it was. -/
theorem quickInsertBound_run (rc : QuickRc) (f : D → (ℕ → Text) → D)
    (strArr_in : List (List String)) (number : ℕ) (p : Prepared D) :
    (∃ d p', p.sq.connected = true ∧ p.sq.file = .holds d ∧ rc.Succeeds strArr_in number ∧
      (quickInsertBound rc f strArr_in number).run p = (.ok true, p') ∧
      p'.sq.file = .holds ((executedParams rc strArr_in number).foldl f d)) ∨
    ∃ p', (quickInsertBound rc f strArr_in number).run p = (.ok false, p') ∧
      p'.sq.file = p.sq.file ∧ ¬(p.sq.connected = true ∧ p.sq.tx = none ∧
        p.sq.file.tables.isSome = true ∧ rc.Succeeds strArr_in number) := by
  obtain ⟨s, params⟩ := p
  unfold quickInsertBound
  -- the head of the routine, then the rows, then the commit; any of them can fail
  rcases beginQuick_run_cases rc.beginPrepare rc.beginStep rc.prepare s with
    ⟨d, hc, hd, hbegin, hrun⟩ | ⟨s', hrun, hfile, hno⟩
  · rw [Act.both_run_true (onConnection_run hrun params), bind_run_ok (modify_run _ _)]
    by_cases hrows : (∀ row ∈ strArr_in, number ≤ row.length) ∧
        ∀ k < strArr_in.length, rc.step (0 + k) = true
    · -- all rows are executed; what is left is the commit
      have hstep : ∀ k < strArr_in.length, rc.step k = true := by
        intro k hk
        rw [← Nat.zero_add k]
        exact hrows.2 k hk
      obtain ⟨params', hstepped⟩ := stepBoundRows_run (f := f) List.drop_zero hrows.1 hstep hc d
      have hcommit := commitQuick_run rc.commitPrepare rc.commitStep
        (s.inTx ((executedParams rc strArr_in number).foldl f d)) hc rfl
      rw [← List.range_eq_range'] at hstepped
      have hstepped' : (stepBoundRows rc f number 0 strArr_in).run
          (⟨s.inTx d, fun _ => none⟩ : Prepared D) = _ := hstepped
      rw [Act.both_run_true hstepped']
      cases hend : (rc.commitPrepare && rc.commitStep) with
      | true =>
        rw [hend, if_pos rfl] at hcommit
        refine .inl ⟨d, _, hc, hd, ⟨?_, hrows.1⟩, onConnection_run hcommit params', rfl⟩
        rw [QuickRc.ok, hbegin, hend, Bool.true_and, Bool.and_true, List.all_eq_true]
        exact fun k hk => hstep k (List.mem_range.1 hk)
      | false =>
        rw [hend, if_neg (by decide)] at hcommit
        refine .inr ⟨_, onConnection_run hcommit params', rfl, fun h => ?_⟩
        have hok := h.2.2.2.1
        rw [QuickRc.ok, hend, Bool.and_false] at hok
        cases hok
    · -- a row is too short or is not executed: the file is as before
      obtain ⟨p', hfailed, hfile⟩ := stepBoundRows_fails (f := f) List.drop_zero hrows hc d
      have hfailed' : (stepBoundRows rc f number 0 strArr_in).run
          (⟨s.inTx d, fun _ => none⟩ : Prepared D) = _ := hfailed
      refine .inr ⟨p', Act.both_run_false hfailed', hfile, fun h => hrows ⟨h.2.2.2.2, ?_⟩⟩
      have hok := h.2.2.2.1
      rw [QuickRc.ok, Bool.and_eq_true, Bool.and_eq_true, List.all_eq_true] at hok
      intro k hk
      rw [Nat.zero_add]
      exact hok.1.2 k (List.mem_range.2 hk)
  · -- the head fails
    refine .inr ⟨_, Act.both_run_false (onConnection_run hrun params), hfile, fun h => hno ?_⟩
    have hok := h.2.2.2.1
    rw [QuickRc.ok, Bool.and_eq_true, Bool.and_eq_true] at hok
    exact ⟨h.1, h.2.1, h.2.2.1, hok.1.1⟩

end Runs

/-! ## §4 All or nothing -/

/-- All or nothing: `TRUE` when the statement has been executed once for each row, in order, on
its first `number` values, and `FALSE` with the committed content as it was. -/
def AllOrNothing (f : D → (ℕ → Text) → D) (strArr_in : List (List String)) (number : ℕ)
    (p : Prepared D) (run : Except Halt Bool × Prepared D) : Prop :=
  ∃ ret, run.1 = .ok ret ∧
    (ret = true → run.2.sq.file =
      p.sq.file.map fun d => strArr_in.foldl (fun d row => f d (valuesOf number row)) d) ∧
    (ret = false → run.2.sq.file = p.sq.file)

/-- Parameter `q` holds the value of row `k`: the last bind that changed it succeeded, with the
same value, and those after it left it alone. -/
def QuickRc.Holds (rc : QuickRc) (strArr_in : List (List String)) (k q : ℕ) (value : Text) :
    Prop :=
  ∃ j ≤ k, rc.bind j q = .ok ∧ (strArr_in[j]?.bind fun row => row[q]?) = value ∧
    ∀ m, j < m → m ≤ k → rc.bind m q = .unchanged

/-- Every row is executed on its own values. -/
def QuickRc.BindsRows (rc : QuickRc) (strArr_in : List (List String)) (number : ℕ) : Prop :=
  ∀ k row, strArr_in[k]? = some row → ∀ q < number, rc.Holds strArr_in k q row[q]?

section Values

variable {rc : QuickRc} {strArr_in : List (List String)} {number : ℕ}

/-- The parameters of a row, from those of the row before. -/
private theorem paramsOf_succ_apply {k q : ℕ} {row : List String} (hrow : strArr_in[k]? = some row)
    (hq : q < number) : paramsOf rc strArr_in number (k + 1) q =
      match rc.bind k q with
      | .ok => row[q]?
      | .unchanged => paramsOf rc strArr_in number k q
      | .cleared => none := by
  rw [paramsOf, hrow]
  exact if_pos hq

/-- What a parameter holds. -/
private theorem paramsOf_eq_some_iff {k q : ℕ} (hk : k < strArr_in.length) (hq : q < number)
    {v : String} :
    paramsOf rc strArr_in number (k + 1) q = some v ↔ rc.Holds strArr_in k q (some v) := by
  induction k with
  | zero =>
    rw [paramsOf_succ_apply (List.getElem?_eq_getElem hk) hq]
    constructor
    · intro h
      cases hbind : rc.bind 0 q with
      | ok =>
        rw [hbind] at h
        refine ⟨0, Nat.le_refl 0, hbind, ?_, fun m hm hm0 => absurd hm (by omega)⟩
        rw [List.getElem?_eq_getElem hk]
        exact h
      | unchanged =>
        rw [hbind] at h
        cases h
      | cleared =>
        rw [hbind] at h
        cases h
    · rintro ⟨j, hj, hbind, hvalue, -⟩
      obtain rfl : j = 0 := Nat.le_zero.1 hj
      rw [hbind]
      rwa [List.getElem?_eq_getElem hk] at hvalue
  | succ k ih =>
    rw [paramsOf_succ_apply (List.getElem?_eq_getElem hk) hq]
    cases hbind : rc.bind (k + 1) q with
    | ok =>
      constructor
      · intro h
        refine ⟨k + 1, Nat.le_refl _, hbind, ?_, fun m hm hmk => absurd hm (by omega)⟩
        rw [List.getElem?_eq_getElem hk]
        exact h
      · rintro ⟨j, hj, -, hvalue, hafter⟩
        -- the last bind that changed it is this one
        rcases Nat.eq_or_lt_of_le hj with rfl | hlt
        · rwa [List.getElem?_eq_getElem hk] at hvalue
        · rw [hafter (k + 1) hlt (Nat.le_refl _)] at hbind
          cases hbind
    | unchanged =>
      refine (ih (by omega)).trans ⟨?_, ?_⟩
      · rintro ⟨j, hj, hok, hvalue, hafter⟩
        refine ⟨j, by omega, hok, hvalue, fun m hm hmk => ?_⟩
        rcases Nat.eq_or_lt_of_le hmk with rfl | hlt
        · exact hbind
        · exact hafter m hm (by omega)
      · rintro ⟨j, hj, hok, hvalue, hafter⟩
        rcases Nat.eq_or_lt_of_le hj with rfl | hlt
        · rw [hok] at hbind
          cases hbind
        · exact ⟨j, by omega, hok, hvalue, fun m hm hmk => hafter m hm (by omega)⟩
    | cleared =>
      refine iff_of_false (fun h => by cases h) ?_
      rintro ⟨j, hj, hok, -, hafter⟩
      rcases Nat.eq_or_lt_of_le hj with rfl | hlt
      · rw [hok] at hbind
        cases hbind
      · rw [hafter (k + 1) hlt (Nat.le_refl _)] at hbind
        cases hbind

/-- Parameters the operation does not bind stay NULL. -/
private theorem paramsOf_of_le {k q : ℕ} (hq : number ≤ q) :
    paramsOf rc strArr_in number k q = none := by
  induction k with
  | zero => rfl
  | succ k ih =>
    rw [paramsOf]
    cases strArr_in[k]? with
    | none => exact ih
    | some row => exact (if_neg (by omega)).trans ih

/-- **Rows are executed on their own values exactly when the parameters hold them.** -/
theorem executedParams_eq_iff (hlen : ∀ row ∈ strArr_in, number ≤ row.length) :
    executedParams rc strArr_in number = strArr_in.map (valuesOf number) ↔
      rc.BindsRows strArr_in number := by
  -- row by row, and for each row parameter by parameter
  have hrow : ∀ k row, strArr_in[k]? = some row →
      (paramsOf rc strArr_in number (k + 1) = valuesOf number row ↔
        ∀ q < number, rc.Holds strArr_in k q row[q]?) := by
    intro k row hk
    have hlt : k < strArr_in.length := (List.getElem?_eq_some_iff.1 hk).1
    have hvalue : ∀ q < number, ∃ v, row[q]? = some v := fun q hq =>
      ⟨_, List.getElem?_eq_getElem (Nat.lt_of_lt_of_le hq (hlen row (List.mem_of_getElem? hk)))⟩
    constructor
    · intro h q hq
      obtain ⟨v, hv⟩ := hvalue q hq
      rw [hv, ← paramsOf_eq_some_iff hlt hq, h, valuesOf, if_pos hq, hv]
    · intro h
      funext q
      rw [valuesOf]
      split
      · next hq =>
        obtain ⟨v, hv⟩ := hvalue q hq
        rw [hv, paramsOf_eq_some_iff hlt hq, ← hv]
        exact h q hq
      · next hq => exact paramsOf_of_le (by omega)
  constructor
  · intro h k row hk
    rw [← hrow k row hk]
    have hat := congrArg (fun l => l[k]?) h
    obtain ⟨hlt, rfl⟩ := List.getElem?_eq_some_iff.1 hk
    simpa [executedParams, hlt] using hat
  · intro h
    apply List.ext_getElem?
    intro k
    rcases Nat.lt_or_ge k strArr_in.length with hlt | hge
    · have hk := List.getElem?_eq_getElem hlt
      have hparams := (hrow k _ hk).2 (h k _ hk)
      simp [executedParams, hlt, hparams]
    · rw [List.getElem?_eq_none (by simpa [executedParams] using hge),
        List.getElem?_eq_none (by simpa using hge)]

end Values

/-- A table that keeps every row. -/
private theorem foldl_keeps (l d : List α) : l.foldl (fun d x => d ++ [x]) d = d ++ l := by
  induction l generalizing d with
  | nil => rw [List.foldl_nil, List.append_nil]
  | cons x l ih => rw [List.foldl_cons, ih, List.append_assoc, List.singleton_append]

/-- **All or nothing**, for every statement and content, exactly when a call fails that is noticed
or every row is executed on its own values. -/
theorem quickInsertBound_allOrNothing_iff (rc : QuickRc) (strArr_in : List (List String))
    (number : ℕ) :
    (∀ (D : Type) (f : D → (ℕ → Text) → D) (p : Prepared D),
      AllOrNothing f strArr_in number p ((quickInsertBound rc f strArr_in number).run p)) ↔
    (rc.Succeeds strArr_in number → rc.BindsRows strArr_in number) := by
  constructor
  · intro h hsucceeds
    rw [← executedParams_eq_iff hsucceeds.2]
    -- a table that keeps the parameters it was changed with, on a connection that works
    obtain ⟨ret, hret, htrue, hfalse⟩ := h (List (ℕ → Text)) (fun d params => d ++ [params])
      ⟨⟨.holds [], none, true, true⟩, fun _ => none⟩
    rcases quickInsertBound_run rc (fun d params => d ++ [params]) strArr_in number
      ⟨⟨.holds [], none, true, true⟩, fun _ => none⟩ with
      ⟨d, p', -, hd, -, hrun, hfile⟩ | ⟨p', -, -, hno⟩
    · have hd : d = [] := by
        injection hd with hd
        exact hd.symm
      rw [hrun] at hret htrue
      obtain rfl : ret = true := by
        injection hret with hret
        exact hret.symm
      have hcontent := hfile.symm.trans (htrue rfl)
      rw [hd, DbFile.map_holds] at hcontent
      injection hcontent with hcontent
      rw [← List.foldl_map (f := valuesOf number) (g := fun d params => d ++ [params]),
        foldl_keeps, foldl_keeps] at hcontent
      exact hcontent
    · exact absurd ⟨rfl, rfl, rfl, hsucceeds⟩ hno
  · intro h D f p
    rcases quickInsertBound_run rc f strArr_in number p with
      ⟨d, p', -, hd, hsucceeds, hrun, hfile⟩ | ⟨p', hrun, hfile, -⟩
    · rw [hrun]
      refine ⟨true, rfl, fun _ => ?_, fun hfalse => absurd hfalse (by decide)⟩
      rw [hfile, hd, (executedParams_eq_iff hsucceeds.2).2 (h hsucceeds), List.foldl_map]
      rfl
    · rw [hrun]
      exact ⟨false, rfl, fun htrue => absurd htrue (by decide), fun _ => hfile⟩

/-- `delete from work_task where Id=?`. -/
def deleteTaskBound (t : SqlTable WorkTaskCol) (params : ℕ → Text) : SqlTable WorkTaskCol :=
  (params 0).elim t t.deleteId

/-- Tasks `t1` and `t2`. -/
def twoTasks : SqlTable WorkTaskCol :=
  ⟨[⟨"t1", fun _ => none⟩, ⟨"t2", fun _ => none⟩], show ["t1", "t2"].Nodup by decide⟩

/-- Every call succeeds but the bind for the second row. -/
def QuickRc.secondBindFails : QuickRc :=
  { allOk with bind := fun i _ => if i = 1 then .unchanged else .ok }

/-- The first task is deleted twice, and the answer is `TRUE`. -/
theorem failed_bind_unnoticed :
    ¬AllOrNothing deleteTaskBound [["t1"], ["t2"]] 1
      ⟨⟨.holds twoTasks, none, true, true⟩, fun _ => none⟩
      ((quickInsertBound QuickRc.secondBindFails deleteTaskBound [["t1"], ["t2"]] 1).run
        ⟨⟨.holds twoTasks, none, true, true⟩, fun _ => none⟩) := by
  rintro ⟨ret, hret, htrue, -⟩
  have hans : ret = true := by
    injection hret with hret
    exact hret.symm
  have hfile := congrArg (fun x => x.tables.map Table.ids) (htrue hans)
  exact absurd hfile (by decide)

/-! ## §5 The operation on rows -/

section Rows

variable {ρ : Type} [Bound ρ] {rc : QuickRc} {strArr_in : List (List String)} {number : ℕ}

/-- The strings of a row: its values, parameter by parameter. -/
def StringsOf (number : ℕ) (row : List String) (r : ρ) : Prop :=
  number ≤ row.length ∧
    ∀ p : Bound.Param ρ, Bound.value r p = valuesOf number row (Bound.position p)

/-- A statement on rows, run on what its parameters are bound to. -/
def onParams (f : D → ρ → D) (d : D) (params : ℕ → Text) : D :=
  execBound f (fun p => params (Bound.position p)) d

/-- Binding the strings of a row is binding the row. -/
private theorem bindRow_position {row : List String} {r : ρ} (hrow : StringsOf number row r)
    (k : ℕ) :
    (fun p : Bound.Param ρ => bindRow (rc.bind k) row number (paramsOf rc strArr_in number k)
        (Bound.position p)) =
      bindParams (rc.bind k) r
        fun p => paramsOf rc strArr_in number k (Bound.position p) := by
  funext p
  rw [bindRow, bindParams, hrow.2 p, valuesOf]
  split
  · rfl
  · -- a parameter that is not bound stays NULL
    next hlt =>
    rw [paramsOf_of_le (by omega)]
    cases rc.bind k (Bound.position p) <;> rfl

/-- From row `i` on both execute the same. -/
private theorem foldl_paramsOf (f : D → ρ → D) {strs : List (List String)} {rows : List ρ}
    (hrows : List.Forall₂ (StringsOf number) strs rows) {i : ℕ}
    (hdrop : strArr_in.drop i = strs) (d : D) :
    ((List.range' i strs.length).map fun k => paramsOf rc strArr_in number (k + 1)).foldl
        (onParams f) d =
      (boundFrom rc i (fun p => paramsOf rc strArr_in number i (Bound.position p)) rows).foldl
        f d := by
  induction hrows generalizing i d with
  | nil => rfl
  | @cons row r strs rows hrow _ ih =>
    obtain ⟨-, hrest, hparams⟩ := paramsOf_succ rc number hdrop
    have hbind : (fun p : Bound.Param ρ =>
        paramsOf rc strArr_in number (i + 1) (Bound.position p)) =
          bindParams (rc.bind i) r
            fun p => paramsOf rc strArr_in number i (Bound.position p) := by
      rw [hparams]
      exact bindRow_position hrow i
    have hfirst : onParams f d (paramsOf rc strArr_in number (i + 1)) =
        ((Bound.row (fun p : Bound.Param ρ =>
          paramsOf rc strArr_in number (i + 1) (Bound.position p))).toList).foldl f d := by
      rw [onParams, execBound]
      cases Bound.row fun p : Bound.Param ρ =>
        paramsOf rc strArr_in number (i + 1) (Bound.position p) <;> rfl
    rw [List.length_cons, List.range'_succ, List.map_cons, List.foldl_cons, ih hrest, boundFrom,
      List.foldl_append, ← hbind, hfirst]

/-- **The operation on rows** is the operation on their strings, whatever its calls return. -/
theorem quickInsertBound_eq_quickInsertData (f : D → ρ → D) {rows : List ρ}
    (hrows : List.Forall₂ (StringsOf number) strArr_in rows) {p : Prepared D}
    (htx : p.sq.tx = none) :
    ∃ ret sq' p', (quickInsertBound rc (onParams f) strArr_in number).run p = (.ok ret, p') ∧
      (quickInsertData rc f (rows.map some)).run p.sq = (.ok ret, sq') ∧
      p'.sq.file = sq'.file := by
  have hlen : ∀ row ∈ strArr_in, number ≤ row.length := ((List.forall₂_and_left _ _).1 hrows).1
  have hquick := quickInsertData_run rc f rows p.sq htx
  rw [← hrows.length_eq] at hquick
  rcases quickInsertBound_run rc (onParams f) strArr_in number p with
    ⟨d, p', hc, hd, hsucceeds, hrun, hfile⟩ | ⟨p', hrun, hfile, hno⟩
  · rw [if_pos (by simp [hc, hd, hsucceeds.1])] at hquick
    refine ⟨true, _, p', hrun, hquick, ?_⟩
    rw [hfile, hd, executedParams, List.range_eq_range', foldl_paramsOf f hrows List.drop_zero]
    rfl
  · rw [if_neg] at hquick
    · exact ⟨false, _, p', hrun, hquick, hfile⟩
    · intro h
      rw [Bool.and_eq_true, Bool.and_eq_true] at h
      exact hno ⟨h.1.1, htx, h.1.2, h.2, hlen⟩

end Rows

end MtpSync
