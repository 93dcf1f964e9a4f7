import MtpSync.Download.Routines
import MtpSync.Upload.Quoting

/-!
# A task there and back

`Synchrodata_work_task` copies a task of the server to the phone as texts, SQLite stores them by
the types its columns were declared with, and a later upload reads them as texts again.

- §1 what a column of the phone keeps
- §2 there and back
- §3 what comes back
-/

namespace MtpSync

open SqlText

/-! ## §1 Columns of the phone -/

/-- A stored value; `QuickSelectData` makes nothing of a floating-point one. -/
inductive SqliteValue where
  | null
  | integer (n : ℤ)
  | real
  | text (s : String)

def isBlank (c : Char) : Bool := c == ' ' || (9 ≤ c.toNat && c.toNat ≤ 13)

def trimBlanks (cs : List Char) : List Char :=
  ((cs.dropWhile isBlank).reverse.dropWhile isBlank).reverse

/-- Whether there is a minus sign, and what follows the sign. -/
def splitSign : List Char → Bool × List Char
  | [] => (false, [])
  | c :: cs => if c = '-' then (true, cs) else (false, if c = '+' then cs else c :: cs)

def allDigits (cs : List Char) : Bool := !cs.isEmpty && cs.all Char.isDigit

def digitsValue (cs : List Char) : ℕ := cs.foldl (fun n c => 10 * n + (c.toNat - 48)) 0

/-- The integer a text is a literal of. -/
def integerLiteral (s : String) : Option ℤ :=
  let (minus, digits) := splitSign (trimBlanks s.toList)
  if allDigits digits then some (if minus then -(digitsValue digits) else digitsValue digits)
  else none

/-- An exponent, or nothing. -/
def isExponent : List Char → Bool
  | [] => true
  | c :: cs => (c == 'e' || c == 'E') && allDigits (splitSign cs).2

/-- The text is a number: digits, perhaps with a point among them, perhaps with an exponent. -/
def isNumber (s : String) : Bool :=
  let cs := (splitSign (trimBlanks s.toList)).2
  let rest := cs.dropWhile Char.isDigit
  match rest with
  | '.' :: rest' =>
    (!(cs.takeWhile Char.isDigit).isEmpty || !(rest'.takeWhile Char.isDigit).isEmpty) &&
      isExponent (rest'.dropWhile Char.isDigit)
  | _ => !(cs.takeWhile Char.isDigit).isEmpty && isExponent rest

/-- What is not part of the program. -/
structure Platform where
  /-- `MultiByteToWideChar` of bytes that are no characters of the code page -/
  undecoded : CStringA → String
  /-- the integer that SQLite finds a literal with a point or an exponent to be -/
  realInteger : String → Option ℤ

variable (w : Platform) (p : CodePage)

/-- A text in a column with numeric affinity. -/
def Platform.numeric (s : String) : SqliteValue :=
  match integerLiteral s with
  | some n => if -2 ^ 63 ≤ n ∧ n < 2 ^ 63 then .integer n else .real
  | none =>
    if isNumber s then
      match w.realInteger s with
      | some n => .integer n
      | none => .real
    else .text s

/-- The columns the phone's `work_task` declares as `integer`, `datetime` and `datatime`; the
others are `varchar`, `nvarchar` and `text`. -/
def numericColumns : List (Option WorkTaskCol) :=
  [some .Frequency, some .State, some .Level, some .SynchronState, some .ExecutorTime,
    some .CreateDate]

/-- A text bound to a column. -/
def Platform.stored (i : Option WorkTaskCol) (s : String) : SqliteValue :=
  if i ∈ numericColumns then w.numeric s else .text s

/-- A column of `QuickSelectData`: `sqlite3_column_int` has 32 bits. -/
def SqliteValue.fetch : SqliteValue → String
  | .null => ""
  | .integer n => toString (n.bmod (2 ^ 32))
  | .real => ""
  | .text s => s

/-! ## §2 There and back -/

/-- `CpublicFun::AscToUnicode`. -/
def Platform.AscToUnicode (strAsc : CStringA) : String :=
  (p.read strAsc).getD (w.undecoded strAsc)

/-- The row the phone stores: what `Select` returns, converted, with `SynchronState` `'1'`, bound
up to its NUL. -/
def Platform.copyTask (r : SqlRow WorkTaskCol) (i : Option WorkTaskCol) : SqliteValue :=
  w.stored i (terminated
    (if i = some .SynchronState then "1"
      else w.AscToUnicode p (p.bytes (terminated (r.GetAt i)))))

/-- The row an upload selects. -/
def fetchTask (v : Option WorkTaskCol → SqliteValue) : SqlRow WorkTaskCol where
  Id := (v none).fetch
  col c := some (v (some c)).fetch

/-- The text that uploads the copy of a task. -/
def Platform.returnText (Systemtime : ServerTime) (r : SqlRow WorkTaskCol) : CStringA :=
  taskText p Systemtime (fetchTask (w.copyTask p r))

/-- The upload of the copy stores the task as it was: the text is one `REPLACE`, and every column
but `State` and `SynchronState` is set to the value it had. -/
def RoundTrips (Systemtime : ServerTime) (r : SqlRow WorkTaskCol) : Prop :=
  ∃ v, p.received (w.returnText p Systemtime r) = some [storeTask v Systemtime.text] ∧
    v none = some r.Id ∧ ∀ c, c ≠ .State → c ≠ .SynchronState → v (some c) = r.col c

/-! ## §3 What comes back -/

/-- The phone keeps the text: it is no number, or the plain numeral of an integer of 32 bits. -/
def KeptAsNumeric (s : String) : Prop :=
  (integerLiteral s = none ∧ isNumber s = false) ∨
    ∃ n, integerLiteral s = some n ∧ (-2 ^ 31 ≤ n ∧ n < 2 ^ 31) ∧ toString n = s

/-- Each step leaves the text as it is. -/
structure Carried (p : CodePage) (i : Option WorkTaskCol) (s : String) : Prop where
  noNul : charNUL ∉ s.toList
  holds : p.Holds s
  bare : NeedsNoEscape p s
  kept : i ∈ numericColumns → KeptAsNumeric s

variable {w p}

/-- An integer of 32 bits survives `sqlite3_column_int`. -/
theorem fetch_numeric {s : String} (h : KeptAsNumeric s) : (w.numeric s).fetch = s := by
  unfold Platform.numeric
  rcases h with ⟨hinteger, hnumber⟩ | ⟨n, hn, ⟨hle, hlt⟩, hs⟩
  · rw [hinteger]
    simp [hnumber, SqliteValue.fetch]
  · have hfits : -2 ^ 63 ≤ n ∧ n < 2 ^ 63 := by omega
    have hmod : n.bmod (2 ^ 32) = n := Int.bmod_eq_of_le_mul_two (by omega) (by omega)
    rw [hn]
    simp only [hfits, and_self, if_true, SqliteValue.fetch]
    rw [hmod, hs]

theorem fetch_stored {i : Option WorkTaskCol} {s : String}
    (h : i ∈ numericColumns → KeptAsNumeric s) : (w.stored i s).fetch = s := by
  unfold Platform.stored
  split_ifs with hi
  · exact fetch_numeric (h hi)
  · rfl

theorem AscToUnicode_bytes {s : String} (h : p.Holds s) :
    w.AscToUnicode p (p.bytes s) = s := by
  rw [Platform.AscToUnicode, CodePage.read_bytes h, Option.getD_some]

/-- **What is selected for the upload is what was read from the server.** -/
theorem fetchTask_copyTask {r : SqlRow WorkTaskCol}
    (h : ∀ i, i ≠ some .SynchronState → Carried p i (r.GetAt i)) :
    fetchTask (w.copyTask p r) = taskToPhone r := by
  have hfetch : ∀ i, i ≠ some .SynchronState → (w.copyTask p r i).fetch = r.GetAt i := by
    intro i hi
    have hc := h i hi
    rw [Platform.copyTask, if_neg hi, terminated_of_noNul hc.noNul, AscToUnicode_bytes hc.holds,
      terminated_of_noNul hc.noNul, fetch_stored hc.kept]
  have hmark : (w.copyTask p r (some .SynchronState)).fetch = "1" := by
    have hone : terminated "1" = "1" := by decide +kernel
    rw [Platform.copyTask, if_pos rfl, hone, fetch_stored]
    intro _
    exact .inr ⟨1, by decide +kernel, by decide, by decide +kernel⟩
  -- column by column: the mark of the copy, or the text that was read
  have hcol : ∀ c, some (w.copyTask p r (some c)).fetch = (taskToPhone r).col c := by
    intro c
    by_cases hc : c = .SynchronState
    · subst hc
      rw [hmark, taskToPhone, Row.setCol_self]
    · rw [hfetch (some c) fun hs => hc (Option.some.inj hs), taskToPhone, Row.setCol_of_ne _ hc]
      rfl
  rw [fetchTask, hfetch none (by decide), funext hcol]
  rfl

theorem GetAt_taskToPhone (r : SqlRow WorkTaskCol) {i : Option WorkTaskCol}
    (hi : i ≠ some .SynchronState) : (taskToPhone r).GetAt i = r.GetAt i := by
  cases i with
  | none => rfl
  | some c =>
    have hc : c ≠ .SynchronState := fun hc => hi (by rw [hc])
    show ((taskToPhone r).col c).read = (r.col c).read
    rw [taskToPhone, Row.setCol_of_ne _ hc]
    rfl

theorem taskToPhone_noNul {r : SqlRow WorkTaskCol}
    (h : ∀ i, i ≠ some .SynchronState → charNUL ∉ (r.GetAt i).toList) :
    (taskToPhone r).NoNul := by
  intro i
  by_cases hi : i = some .SynchronState
  · subst hi
    have hone : (taskToPhone r).GetAt (some .SynchronState) = "1" := by
      show ((taskToPhone r).col .SynchronState).read = "1"
      rw [taskToPhone, Row.setCol_self]
      rfl
    rw [hone]
    decide +kernel
  · rw [GetAt_taskToPhone r hi]
    exact h i hi

/-- The upload of the copy asks for what an upload of the task itself would. -/
theorem taskCommand_taskToPhone (Systemtime : ServerTime) (r : SqlRow WorkTaskCol) :
    taskCommand Systemtime (taskToPhone r) = taskCommand Systemtime r := by
  have hvalue : taskValue (taskToPhone r) = taskValue r := by
    funext i
    unfold taskValue
    by_cases hi : i = some .SynchronState
    · rw [if_pos hi, if_pos hi]
    · rw [if_neg hi, if_neg hi, GetAt_taskToPhone r hi]
  rw [taskCommand, hvalue, taskCommand]

/-- What the server receives of the copy. -/
theorem received_returnText (Systemtime : ServerTime) {r : SqlRow WorkTaskCol}
    (h : ∀ i, i ≠ some .SynchronState → Carried p i (r.GetAt i)) :
    p.received (w.returnText p Systemtime r) = some [taskCommand Systemtime r] := by
  have hnul : (taskToPhone r).NoNul := taskToPhone_noNul fun i hi => (h i hi).noNul
  have hcopied : ∀ s ∈ copiedOfTask (taskToPhone r), NeedsNoEscape p s ∧ p.Holds s := by
    intro s hs
    obtain ⟨i, -, hi, rfl⟩ := mem_copiedOfTask.1 hs
    rw [GetAt_taskToPhone r hi]
    exact ⟨(h i hi).bare, (h i hi).holds⟩
  have hbatch := (received_taskTexts_iff Systemtime (List.forall_mem_singleton.2 hnul)).2
    (List.forall_mem_singleton.2 hcopied)
  rw [List.map_singleton, List.map_singleton, taskCommand_taskToPhone, List.flatten_singleton]
    at hbatch
  rw [Platform.returnText, fetchTask_copyTask h, hbatch]

/-- NULL and the empty text are uploaded alike. -/
theorem taskValue_col (r : SqlRow WorkTaskCol) {c : WorkTaskCol} (hc : c ≠ .SynchronState) :
    taskValue r (some c) =
      if c = .ExecutorTime ∧ (r.col c = none ∨ r.col c = some "") then none
      else some ((r.col c).getD "") := by
  have hne : (some c : Option WorkTaskCol) ≠ some .SynchronState :=
    fun hs => hc (Option.some.inj hs)
  have hempty : r.GetAt (some c) = "" ↔ r.col c = none ∨ r.col c = some "" := by
    show (r.col c).getD "" = "" ↔ _
    cases r.col c with
    | none => simp
    | some s => simp
  rw [taskValue, if_neg hne]
  simp only [Option.some.injEq, hempty]
  rfl

/-- What a task is stored with is what its columns are set to. -/
theorem storeTask_inj {v v' : Option WorkTaskCol → Text} {t : String}
    (h : storeTask v t = storeTask v' t) : ∀ i ∈ work_task_enum, v i = v' i := by
  obtain ⟨-, -, hvalues⟩ := (Command.replace.injEq ..).mp h
  exact List.map_inj_left.1 (List.append_cancel_right hvalues)

/-- A task that is carried round-trips unless one of its columns is NULL, or `ExecutorTime` is
empty. -/
theorem roundTrips_iff {Systemtime : ServerTime} {r : SqlRow WorkTaskCol}
    (h : ∀ i, i ≠ some .SynchronState → Carried p i (r.GetAt i)) :
    RoundTrips w p Systemtime r ↔
      ∀ c, c ≠ .State → c ≠ .SynchronState →
        (r.col c = none → c = .ExecutorTime) ∧ (r.col c = some "" → c ≠ .ExecutorTime) := by
  have hreceived := received_returnText (w := w) Systemtime h
  -- NULL and the empty text change into each other, and nothing else changes
  have hsame : ∀ c, c ≠ .SynchronState →
      (taskValue r (some c) = r.col c ↔
        (r.col c = none → c = .ExecutorTime) ∧ (r.col c = some "" → c ≠ .ExecutorTime)) := by
    intro c hc
    rw [taskValue_col r hc]
    by_cases htime : c = .ExecutorTime
    · cases hcol : r.col c with
      | none => simp [htime]
      | some s => by_cases hs : s = "" <;> simp [htime, hs]
    · cases hcol : r.col c with
      | none => simp [htime]
      | some s => simp [htime]
  constructor
  · rintro ⟨v, hv, -, hcol⟩ c hstate hmark
    rw [hreceived] at hv
    -- the sentence received is one only, so its columns are those returned
    have hstore : storeTask (taskValue r) Systemtime.text = storeTask v Systemtime.text :=
      (List.cons.inj (Option.some.inj hv)).1
    have hmem : some c ∈ work_task_enum := by cases c <;> decide
    rw [← hsame c hmark, ← hcol c hstate hmark]
    exact storeTask_inj hstore (some c) hmem
  · intro hall
    refine ⟨taskValue r, hreceived, rfl, ?_⟩
    intro c hstate hmark
    exact (hsame c hmark).2 (hall c hstate hmark)

/-- **A task comes back with the texts it had**: NULL comes back as the empty text, and in
`ExecutorTime` both come back as NULL. -/
theorem task_comes_back (w : Platform) (p : CodePage) (Systemtime : ServerTime)
    (r : SqlRow WorkTaskCol) (h : ∀ i, i ≠ some .SynchronState → Carried p i (r.GetAt i)) :
    ∃ v, p.received (w.returnText p Systemtime r) = some [storeTask v Systemtime.text] ∧
      v none = some r.Id ∧
      ∀ c, c ≠ .State → c ≠ .SynchronState →
        v (some c) =
          if c = .ExecutorTime ∧ (r.col c = none ∨ r.col c = some "") then none
          else some ((r.col c).getD "") :=
  ⟨taskValue r, received_returnText Systemtime h, rfl, fun _ _ hc => taskValue_col r hc⟩

def someServerTask : SqlRow WorkTaskCol where
  Id := "t1"
  col
    | .WorkName => some "oil change"
    | .Frequency => some "-3"
    | .Level => some "0"
    | .CreateDate => some "2018-05-13 16:36:57"
    | .OverdueRemark => some ""
    | .ExecutorTime => none
    | .TaskRemark => none
    | _ => some "x1"

def somePlatform : Platform where
  undecoded := fun _ => ""
  realInteger := fun _ => none

/-- A text that the phone keeps and that needs no escape. -/
private theorem carried_of_check {i : Option WorkTaskCol} {s : String}
    (hchars : s.toList.all (fun c =>
      decide (c.toNat < 128 ∧ c.toNat ≠ 0x27 ∧ c.toNat ≠ 0x5C ∧ c ≠ charNUL)) = true)
    (hkept : i ∈ numericColumns → KeptAsNumeric s) : Carried page936 i s := by
  have hall := forall_mem_of_all hchars
  refine ⟨fun hnul => (hall _ hnul).2.2.2 rfl, ?_, ?_, hkept⟩
  · exact CodePage.holds_of_ascii fun c hc => (hall c hc).1
  · exact verbatim_of_ne fun c hc => ⟨(hall c hc).2.1, (hall c hc).2.2.1⟩

theorem someServerTask_comes_back :
    ∃ v, page936.received (somePlatform.returnText page936 someTime someServerTask) =
        some [storeTask v someTime.text] ∧ v none = some "t1" ∧
      v (some .WorkName) = some "oil change" ∧ v (some .Frequency) = some "-3" ∧
      v (some .TaskRemark) = some "" ∧ v (some .ExecutorTime) = none := by
  -- the texts of the numeric columns, each kept by its affinity
  have hinteger : KeptAsNumeric "-3" :=
    .inr ⟨-3, by decide +kernel, by decide, by decide +kernel⟩
  have hzero : KeptAsNumeric "0" := .inr ⟨0, by decide +kernel, by decide, by decide +kernel⟩
  have hdate : KeptAsNumeric "2018-05-13 16:36:57" :=
    .inl ⟨by decide +kernel, by decide +kernel⟩
  have hword : KeptAsNumeric "x1" := .inl ⟨by decide +kernel, by decide +kernel⟩
  have hempty : KeptAsNumeric "" := .inl ⟨by decide +kernel, by decide +kernel⟩
  have hcarried : ∀ i, i ≠ some .SynchronState →
      Carried page936 i (someServerTask.GetAt i) := by
    intro i _
    apply carried_of_check
    · cases i with
      | none => decide +kernel
      | some c => cases c <;> decide +kernel
    · intro hi
      cases i with
      | none => exact absurd hi (by decide)
      | some c =>
        cases c with
        | Frequency => exact hinteger
        | State => exact hword
        | Level => exact hzero
        | SynchronState => exact hword
        | ExecutorTime => exact hempty
        | CreateDate => exact hdate
        | _ => exact absurd hi (by decide)
  obtain ⟨v, hv, hid, hcol⟩ :=
    task_comes_back somePlatform page936 someTime someServerTask hcarried
  refine ⟨v, hv, hid, ?_, ?_, ?_, ?_⟩
  · rw [hcol .WorkName (by decide) (by decide)]
    rfl
  · rw [hcol .Frequency (by decide) (by decide)]
    rfl
  · rw [hcol .TaskRemark (by decide) (by decide)]
    rfl
  · rw [hcol .ExecutorTime (by decide) (by decide)]
    rfl

/-- A NULL remark comes back as an empty one. -/
theorem null_remark_comes_back_empty :
    page936.received (somePlatform.returnText page936 someTime someServerTask) =
        some [taskCommand someTime someServerTask] ∧
      ¬RoundTrips somePlatform page936 someTime someServerTask := by
  have hreceived : page936.received (somePlatform.returnText page936 someTime someServerTask) =
      some [taskCommand someTime someServerTask] := by decide +kernel
  refine ⟨hreceived, ?_⟩
  rintro ⟨v, hv, -, hcol⟩
  rw [hreceived] at hv
  have hstore : storeTask (taskValue someServerTask) someTime.text = storeTask v someTime.text :=
    (List.cons.inj (Option.some.inj hv)).1
  have hremark := storeTask_inj hstore (some .TaskRemark) (by decide)
  rw [hcol .TaskRemark (by decide) (by decide)] at hremark
  cases hremark

end MtpSync
