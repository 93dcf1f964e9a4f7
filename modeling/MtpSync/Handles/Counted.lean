import MtpSync.Handles.Typestate
import MtpSync.Lib.Int32

/-!
# The count, and the statements finalized for it

`QuickSelectDataCount(const char*, int&)` on a query with one row, with the count it leaves and
with the statements it finalizes.  All three exits of its loop lead to the same end, which
finalizes the statement, commits and answers `TRUE`; the exit for errors has finalized it already.

- §1 the operation with its count
- §2 what a truthful count is
- §3 the parts of the operation
- §4 when the count is truthful
-/

namespace MtpSync

namespace Handles

/-! ## §1 The operation with its count -/

section Operation

variable {σ : Type} (L : Calls σ)

/-- The loop of `QuickSelectDataCount`, with the value each row has in its column: `count` takes
the low 32 bits of it. -/
def countLoopValue (value : Int64) : List StepRc → (count : Int32) → Act σ Int32
  | [], _ => Act.halt .hang
  | code :: codes, count => do
    L.onStmt .sqlite3_step
    match code with
    | .row =>
      L.onStmt .sqlite3_column
      countLoopValue value codes value.toInt32
    | .done => pure count
    | .error =>
      L.sqlite3_finalize
      pure count

/-- `QuickSelectDataCount(const char*, int&)`, with what `count` then holds. -/
def quickSelectDataCountValue (rc : SelectRc) (value : Int64) (count : Int32) :
    Act σ (Bool × Int32) := do
  if ← single L rc.begin rc.beginStep then
    if ← recorded L (sqlite3_prepare L rc.given rc.prepare) then
      L.onStmt .sqlite3_column_count
      let count ← countLoopValue L value rc.codes count
      L.sqlite3_finalize
      let ret ← single L rc.commit rc.commitStep
      pure (ret, count)
    else pure (false, count)
  else pure (false, count)

/-- A call that makes the same calls as another, and returns `f` of what that returns. -/
def Returns {α β : Type} (f : α → β) (m : Act σ α) (n : Act σ β) : Prop :=
  ∀ s, n.run s = ((m.run s).1.map f, (m.run s).2)

private theorem returns_self {α : Type} (m : Act σ α) : Returns id m m := by
  intro s
  rcases hm : m.run s with ⟨e | a, t⟩ <;> rfl

private theorem Returns.bind {α β γ δ : Type} {f : α → β} {g : γ → δ} {m : Act σ α} {n : Act σ β}
    {k : α → Act σ γ} {l : β → Act σ δ} (h : Returns f m n)
    (hk : ∀ a, Returns g (k a) (l (f a))) : Returns g (m >>= k) (n >>= l) := by
  intro s
  rw [Act.bind_run, Act.bind_run, h s]
  rcases m.run s with ⟨e | a, t⟩
  · rfl
  · exact hk a t

private theorem returns_pure {α β : Type} {f : α → β} {a : α} {b : β} (h : f a = b) :
    Returns f (pure a : Act σ α) (pure b) :=
  fun _ => h ▸ rfl

private theorem returns_last {α β : Type} {m : Act σ β} {f : α → β} {g : β → α}
    (h : ∀ b, f (g b) = b) : Returns f (m >>= fun b => pure (g b)) m := by
  intro s
  rw [Act.bind_run]
  rcases m.run s with ⟨e | b, t⟩
  · rfl
  · show (Except.ok b, t) = (Except.ok (f (g b)), t)
    rw [h b]

private theorem Returns.ite {α β : Type} {f : α → β} {b : Bool} {m m' : Act σ α} {n n' : Act σ β}
    (h : Returns f m n) (h' : Returns f m' n') :
    Returns f (if b = true then m else m') (if b = true then n else n') := by
  cases b with
  | true => exact h
  | false => exact h'

/-- The loop makes the same calls whatever it counts. -/
private theorem countLoopValue_drop (value : Int64) (codes : List StepRc) (count : Int32) :
    Returns (fun _ => ()) (countLoopValue L value codes count) (countLoop L codes) := by
  induction codes generalizing count with
  | nil => exact fun _ => rfl
  | cons code codes ih =>
    apply (returns_self (L.onStmt .sqlite3_step)).bind
    intro _
    cases code with
    | row => exact (returns_self (L.onStmt .sqlite3_column)).bind fun _ => ih value.toInt32
    | done => exact returns_pure rfl
    | error => exact returns_last fun _ => rfl

/-- **Without the count it is the operation** of the class. -/
theorem quickSelectDataCountValue_drop (rc : SelectRc) (value : Int64) (count : Int32) :
    Returns Prod.fst (quickSelectDataCountValue L rc value count) (quickSelectDataCount L rc) := by
  apply (returns_self (single L rc.begin rc.beginStep)).bind
  intro _
  refine Returns.ite ?_ (returns_pure rfl)
  apply (returns_self (recorded L (sqlite3_prepare L rc.given rc.prepare))).bind
  intro _
  refine Returns.ite ?_ (returns_pure rfl)
  apply (returns_self (L.onStmt .sqlite3_column_count)).bind
  intro _
  apply (countLoopValue_drop L value rc.codes count).bind
  intro _
  apply (returns_self L.sqlite3_finalize).bind
  intro _
  exact returns_last fun _ => rfl

end Operation

/-! ## §2 A truthful count -/

/-- What the calls of a count of one row return. -/
structure CountCodes where
  begin : HelperRc
  beginStep : HelperRc
  prepare : HelperRc
  /-- the step that delivers the row -/
  row : Bool
  /-- the step after it -/
  done : Bool
  commit : HelperRc
  commitStep : HelperRc

def HelperRc.isOk : HelperRc → Bool
  | .ok => true
  | .fails _ => false

namespace CountCodes

variable (rc : CountCodes)

/-- The steps of the query: the row and the end, as far as they come. -/
def codes : List StepRc :=
  if rc.row then [.row, if rc.done then .done else .error] else [.error]

def selectRc : SelectRc :=
  ⟨rc.begin, rc.beginStep, true, rc.prepare, rc.codes, rc.commit, rc.commitStep⟩

/-- The calls before the loop succeed. -/
def entersLoop : Bool := rc.begin.isOk && rc.beginStep.isOk && rc.prepare.isOk

/-- The calls behind the loop succeed. -/
def commits : Bool := rc.commit.isOk && rc.commitStep.isOk

/-- Every call succeeds. -/
def allOk : Bool := rc.entersLoop && (rc.row && rc.done) && rc.commits

end CountCodes

/-- The statements finalized so far, in order. -/
def Trace.finalized (s : Trace) : List ℕ := s.calls.filterMap Call.finalizes

/-- `TRUE` only with the value of a query that ran to its end, `FALSE` if a call fails, and every
statement finalized once. -/
structure TruthfulCount (rc : CountCodes) (value : Int64) (ret : Except Halt (Bool × Int32))
    (finalized : List ℕ) : Prop where
  value : ∀ count, ret = .ok (true, count) → (rc.row && rc.done) = true ∧
    count.toInt = value.toInt
  failure : rc.allOk = false → ∃ count, ret = .ok (false, count)
  once : finalized.Nodup

/-! ## §3 The parts of the operation -/

section Parts

/-- The statement a `single` prepares is finalized, whatever its step returns. -/
private theorem single_run (prepare step : HelperRc) (s : Trace) :
    ∃ t, (single traced prepare step).run s = (.ok (prepare.isOk && step.isOk), t) ∧
      t.finalized = s.finalized ++ (if prepare.isOk then [s.next] else []) ∧
      t.next = s.next + 1 := by
  cases prepare with
  -- no statement is made, so none is finalized
  | fails closes =>
    refine ⟨_, rfl, ?_, rfl⟩
    simp [Trace.finalized, Trace.made, List.filterMap_cons, Call.finalizes, HelperRc.isOk]
  | ok =>
    cases step with
    | ok =>
      refine ⟨_, rfl, ?_, rfl⟩
      simp [Trace.finalized, Trace.made, List.filterMap_cons, Call.finalizes, HelperRc.isOk]
    | fails closes =>
      refine ⟨_, rfl, ?_, rfl⟩
      simp [Trace.finalized, Trace.made, List.filterMap_cons, Call.finalizes, HelperRc.isOk]

/-- A query that is prepared is the statement in use. -/
private theorem prepare_run (prepare : HelperRc) (s : Trace) :
    ∃ t, (recorded traced (sqlite3_prepare traced true prepare)).run s = (.ok prepare.isOk, t) ∧
      t.finalized = s.finalized ∧ (prepare.isOk = true → t.stmt = some s.next) ∧
      t.next = s.next + 1 := by
  cases prepare with
  | ok =>
    refine ⟨_, rfl, ?_, fun _ => rfl, rfl⟩
    simp [Trace.finalized, Trace.made, Call.finalizes]
  | fails closes =>
    refine ⟨_, rfl, ?_, fun h => absurd h (by simp [HelperRc.isOk]), rfl⟩
    simp [Trace.finalized, Trace.made, Call.finalizes]

/-- The loop finalizes its statement if a step fails. -/
private theorem loop_run (rc : CountCodes) (value : Int64) (count : Int32) {s : Trace} {h : ℕ}
    (hstmt : s.stmt = some h) :
    ∃ t, (countLoopValue traced value rc.codes count).run s =
        (.ok (if rc.row then value.toInt32 else count), t) ∧
      t.finalized = s.finalized ++ (if rc.row && rc.done then [] else [h]) ∧
      t.stmt = some h ∧ t.next = s.next := by
  obtain ⟨_, _, _, row, done, _, _⟩ := rc
  cases row with
  | false =>
    refine ⟨_, rfl, ?_, hstmt, rfl⟩
    simp [Trace.finalized, Trace.made, List.filterMap_cons, Call.finalizes, hstmt]
  | true =>
    cases done with
    -- the second step fails, after the count was read
    | false =>
      refine ⟨_, rfl, ?_, hstmt, rfl⟩
      simp [Trace.finalized, Trace.made, List.filterMap_cons, Call.finalizes, hstmt]
    | true =>
      refine ⟨_, rfl, ?_, hstmt, rfl⟩
      simp [Trace.finalized, Trace.made, Call.finalizes]

/-- Before the loop: it is entered with a new statement, or the answer is `FALSE`. -/
private theorem count_head (rc : CountCodes) (value : Int64) (count : Int32) (s : Trace)
    (henters : rc.entersLoop = false) :
    ∃ t l, (quickSelectDataCountValue traced rc.selectRc value count).run s =
        (.ok (false, count), t) ∧ t.finalized = s.finalized ++ l ∧ l.Nodup := by
  obtain ⟨t, hrun, hfinal, -⟩ := single_run rc.begin rc.beginStep s
  have hnodup : (if rc.begin.isOk then [s.next] else []).Nodup := by split <;> simp
  unfold quickSelectDataCountValue
  dsimp only [CountCodes.selectRc]
  by_cases hbegin : (rc.begin.isOk && rc.beginStep.isOk) = true
  · -- the transaction has begun, so it is the query that is not prepared
    have hprepare : rc.prepare.isOk = false := by
      rw [CountCodes.entersLoop, hbegin, Bool.true_and] at henters
      exact henters
    obtain ⟨u, hrun', hfinal', -⟩ := prepare_run rc.prepare t
    rw [hbegin] at hrun
    rw [hprepare] at hrun'
    refine ⟨u, _, ?_, hfinal'.trans hfinal, hnodup⟩
    rw [Act.bind_run_ok hrun, if_pos rfl, Act.bind_run_ok hrun', if_neg (by decide)]
    rfl
  · rw [Bool.not_eq_true] at hbegin
    rw [hbegin] at hrun
    refine ⟨t, _, ?_, hfinal, hnodup⟩
    rw [Act.bind_run_ok hrun, if_neg (by decide)]
    rfl

/-- From the loop on: the statement is finalized behind the loop, and in it if a step fails. -/
private theorem count_tail (rc : CountCodes) (value : Int64) (count : Int32) (s : Trace)
    (henters : rc.entersLoop = true) :
    ∃ t, (quickSelectDataCountValue traced rc.selectRc value count).run s =
        (.ok (rc.commits, if rc.row then value.toInt32 else count), t) ∧
      t.finalized = s.finalized ++ ([s.next] ++ (if rc.row && rc.done then [] else [s.next + 1]) ++
        [s.next + 1] ++ (if rc.commit.isOk then [s.next + 2] else [])) := by
  simp only [CountCodes.entersLoop, Bool.and_eq_true] at henters
  obtain ⟨⟨hbegin, hstep⟩, hprepare⟩ := henters
  obtain ⟨t₁, hrun₁, hfinal₁, hnext₁⟩ := single_run rc.begin rc.beginStep s
  obtain ⟨t₂, hrun₂, hfinal₂, hstmt₂, hnext₂⟩ := prepare_run rc.prepare t₁
  rw [hbegin, hstep, Bool.and_self] at hrun₁
  rw [hprepare] at hrun₂
  -- sqlite3_column_count leaves the handles as they are
  have hstmt₃ : (t₂.made (.onStmt .sqlite3_column_count t₂.stmt)).stmt = some t₁.next :=
    hstmt₂ hprepare
  obtain ⟨t₄, hrun₄, hfinal₄, hstmt₄, hnext₄⟩ := loop_run rc value count hstmt₃
  obtain ⟨t₆, hrun₆, hfinal₆, -⟩ :=
    single_run rc.commit rc.commitStep (t₄.made (.sqlite3_finalize t₄.stmt))
  refine ⟨t₆, ?_, ?_⟩
  · unfold quickSelectDataCountValue
    dsimp only [CountCodes.selectRc]
    rw [Act.bind_run_ok hrun₁, if_pos rfl, Act.bind_run_ok hrun₂, if_pos rfl]
    rw [Act.bind_run_ok (m := traced.onStmt .sqlite3_column_count) rfl]
    rw [Act.bind_run_ok hrun₄, Act.bind_run_ok (m := traced.sqlite3_finalize) rfl]
    rw [Act.bind_run_ok hrun₆]
    rfl
  · have hmade : ∀ (u : Trace) (f : StmtFn), (u.made (.onStmt f u.stmt)).finalized = u.finalized :=
      fun u f => by simp [Trace.finalized, Trace.made, Call.finalizes]
    have hfinalize : ∀ (u : Trace) (h : ℕ), u.stmt = some h →
        (u.made (.sqlite3_finalize u.stmt)).finalized = u.finalized ++ [h] :=
      fun u h hu => by simp [Trace.finalized, Trace.made, Call.finalizes, hu]
    have hnext : (t₄.made (.sqlite3_finalize t₄.stmt)).next = s.next + 2 := by
      have h₄ : t₄.next = t₂.next := hnext₄
      show t₄.next = s.next + 2
      omega
    rw [hfinal₆, hnext, hfinalize t₄ _ hstmt₄, hfinal₄, hmade, hfinal₂, hfinal₁, hbegin, hnext₁]
    simp only [if_true, List.append_assoc]

end Parts

/-! ## §4 When the count is truthful -/

/-- **`QuickSelectDataCount` is truthful** if it does not reach its loop, or if both steps of the
query succeed and, when it commits, the value is one an `int` holds; after a failed step it
finalizes the statement twice. -/
theorem truthfulCount_iff (rc : CountCodes) (value : Int64) (count : Int32) (s : Trace) :
    TruthfulCount rc value
        ((quickSelectDataCountValue traced rc.selectRc value count).run s).1
        (((quickSelectDataCountValue traced rc.selectRc value count).run s).2.finalized.drop
          s.finalized.length) ↔
      (rc.entersLoop = true → (rc.row && rc.done) = true ∧
        (rc.commits = true → FitsInt value.toInt)) := by
  by_cases henters : rc.entersLoop = true
  · obtain ⟨t, hrun, hfinal⟩ := count_tail rc value count s henters
    rw [hrun]
    dsimp only
    rw [hfinal, List.drop_left]
    simp only [henters, forall_const]
    constructor
    · intro h
      -- a failed step leaves the statement in the list twice
      have hsteps : (rc.row && rc.done) = true := by
        apply Classical.byContradiction
        intro hfail
        have honce := h.once
        rw [if_neg hfail] at honce
        simp at honce
      refine ⟨hsteps, fun hcommits => ?_⟩
      have hrow : rc.row = true := (Bool.and_eq_true_iff.1 hsteps).1
      have hvalue := (h.value value.toInt32 (by rw [hcommits, hrow, if_pos rfl])).2
      exact (toInt_toInt32_eq_iff value).1 hvalue
    · rintro ⟨hsteps, hfits⟩
      have hrow : rc.row = true := (Bool.and_eq_true_iff.1 hsteps).1
      rw [if_pos hrow, if_pos hsteps]
      refine ⟨fun c hc => ?_, fun hall => ?_, ?_⟩
      · simp only [Except.ok.injEq, Prod.mk.injEq] at hc
        obtain ⟨hcommits, rfl⟩ := hc
        exact ⟨hsteps, (toInt_toInt32_eq_iff value).2 (hfits hcommits)⟩
      · -- only the end can still have failed
        rw [CountCodes.allOk, henters, hsteps, Bool.true_and, Bool.true_and] at hall
        exact ⟨_, by rw [hall]⟩
      · split <;> simp
  · rw [Bool.not_eq_true] at henters
    obtain ⟨t, l, hrun, hfinal, hnodup⟩ := count_head rc value count s henters
    rw [hrun]
    dsimp only
    rw [hfinal, List.drop_left]
    refine ⟨fun _ h => absurd h (by simp [henters]), fun _ => ⟨fun c hc => ?_, fun _ => ⟨_, rfl⟩,
      hnodup⟩⟩
    simp at hc

/-- The step that should deliver the count fails, as on a busy database. -/
def CountCodes.stepFails : CountCodes := ⟨.ok, .ok, .ok, false, false, .ok, .ok⟩

/-- Then the answer is `TRUE` with the zero `count` came with, and the statement is finalized
twice. -/
theorem failed_count_is_true :
    ¬TruthfulCount .stepFails 3
      ((quickSelectDataCountValue traced CountCodes.stepFails.selectRc 3 0).run
        ⟨some 0, none, 1, []⟩).1
      (((quickSelectDataCountValue traced CountCodes.stepFails.selectRc 3 0).run
        ⟨some 0, none, 1, []⟩).2.finalized.drop 0) := by
  intro h
  obtain ⟨count, hret⟩ := h.failure rfl
  cases hret

end Handles

end MtpSync
