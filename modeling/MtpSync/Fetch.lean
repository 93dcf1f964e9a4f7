import Mathlib.Data.Nat.Count
import MtpSync.CSQLite

/-!
# The loop of `QuickSelectData`

The loop steps the query until `count` rows are stored: `SQLITE_ROW` stores a row, `SQLITE_DONE`
leaves the loop, and no other code has a branch.

- §1 the loop, turn by turn
- §2 what a turn keeps
- §3 when the function comes back
- §4 the loop as a function of its return codes
- §5 the whole result, each row once

SQLite resets a statement whose step failed: the call after an error starts with the first row
again.  A busy statement stays where it is.
-/

namespace MtpSync

/-! ## §1 The loop -/

/-- What `sqlite3_step` comes back with. -/
inductive StepCode where
  /-- `SQLITE_ROW` with the next row, or `SQLITE_DONE` if there is none -/
  | advances
  /-- `SQLITE_BUSY` -/
  | busy
  /-- any other code -/
  | error
  deriving DecidableEq

variable {ρ : Type}

/-- Where the loop stands. -/
structure Cursor (ρ : Type) where
  /-- the calls of `sqlite3_step` made -/
  calls : ℕ
  /-- the rows to come -/
  rest : List ρ
  /-- `strArr_in[0]` … `strArr_in[curcnt - 1]` -/
  stored : List ρ

/-- Inside the loop, or behind it. -/
inductive LoopState (ρ : Type) where
  | running (c : Cursor ρ)
  | left (c : Cursor ρ)

/-- The start of the loop over `rows`. -/
def Cursor.start (rows : List ρ) : Cursor ρ := ⟨0, rows, []⟩

section Turns

variable (code : ℕ → StepCode) (rows : List ρ) (count : ℕ)

/-- One turn of `while (curcnt < count)`. -/
def Cursor.turn (c : Cursor ρ) : LoopState ρ :=
  if c.stored.length < count then
    match code c.calls, c.rest with
    | .advances, r :: rest => .running ⟨c.calls + 1, rest, c.stored ++ [r]⟩
    | .advances, [] => .left { c with calls := c.calls + 1 }
    -- neither `SQLITE_ROW` nor `SQLITE_DONE`: the loop goes round again
    | .busy, _ => .running { c with calls := c.calls + 1 }
    | .error, _ => .running { c with calls := c.calls + 1, rest := rows }
  else .left c

def LoopState.next : LoopState ρ → LoopState ρ
  | .running c => c.turn code rows count
  | .left c => .left c

/-- The loop after `n` turns. -/
def LoopState.after : ℕ → LoopState ρ → LoopState ρ
  | 0, s => s
  | n + 1, s => after n (s.next code rows count)

/-- The loop is left in the end, and where it then stands. -/
def LoopState.Leaves (s : LoopState ρ) (c : Cursor ρ) : Prop :=
  ∃ n, s.after code rows count n = .left c

variable {code rows count}

theorem LoopState.after_left (n : ℕ) (c : Cursor ρ) :
    (LoopState.left c).after code rows count n = .left c := by
  induction n with
  | zero => rfl
  | succ n ih => exact ih

theorem LoopState.leaves_left {c c' : Cursor ρ} :
    (LoopState.left c).Leaves code rows count c' ↔ c' = c := by
  constructor
  · rintro ⟨n, hn⟩
    rw [LoopState.after_left] at hn
    exact (LoopState.left.inj hn).symm
  · rintro rfl
    exact ⟨0, rfl⟩

/-- The first turn of a loop that is not left yet. -/
theorem LoopState.leaves_running {c c' : Cursor ρ} :
    (LoopState.running c).Leaves code rows count c' ↔
      (c.turn code rows count).Leaves code rows count c' := by
  constructor
  · rintro ⟨n, hn⟩
    cases n with
    | zero => exact absurd hn (by simp [LoopState.after])
    | succ n => exact ⟨n, hn⟩
  · rintro ⟨n, hn⟩
    exact ⟨n + 1, hn⟩

/-- A loop whose next turn leaves it. -/
theorem LoopState.leaves_of_after {n : ℕ} {s : LoopState ρ} {c c' : Cursor ρ}
    (h : s.after code rows count n = .running c) (hturn : c.turn code rows count = .left c') :
    s.Leaves code rows count c' := by
  induction n generalizing s with
  | zero =>
    cases h
    exact leaves_running.2 (hturn ▸ leaves_left.2 rfl)
  | succ n ih =>
    cases s with
    | left c₀ =>
      rw [after_left] at h
      cases h
    | running c₀ => exact leaves_running.2 (ih h)

/-! ## §2 What a turn keeps -/

variable (code) in
/-- The calls among the first `n` that advance. -/
def advances (n : ℕ) : ℕ := Nat.count (fun i => code i = .advances) n

variable (code rows count) in
/-- No error so far: as many rows are stored as calls have advanced. -/
structure Cursor.Clean (c : Cursor ρ) : Prop where
  noError : ∀ i < c.calls, code i ≠ .error
  inCount : advances code c.calls ≤ count
  inRows : advances code c.calls ≤ rows.length
  rest : c.rest = rows.drop (advances code c.calls)
  stored : c.stored = rows.take (advances code c.calls)

variable (code count) in
/-- An error has come, and a slot is still to be filled. -/
structure Cursor.Failed (c : Cursor ρ) : Prop where
  failed : ∃ i < c.calls, code i = .error
  short : c.stored.length < count

variable (code rows count) in
/-- The loop has done its work. -/
structure Cursor.Done (c : Cursor ρ) : Prop where
  noError : ∀ i < c.calls, code i ≠ .error
  enough : min count (rows.length + 1) ≤ advances code c.calls
  stored : c.stored = rows.take count

variable (code rows count) in
/-- What every turn keeps. -/
def LoopState.Inv : LoopState ρ → Prop
  | .running c => c.Clean code rows count ∨ c.Failed code count
  | .left c => c.Done code rows count

private theorem noError_succ {n : ℕ} (h : ∀ i < n, code i ≠ .error) (hn : code n ≠ .error) :
    ∀ i < n + 1, code i ≠ .error := by
  intro i hi
  rcases Nat.lt_succ_iff_lt_or_eq.1 hi with hlt | rfl
  · exact h i hlt
  · exact hn

private theorem advances_succ {n : ℕ} (h : code n = .advances) :
    advances code (n + 1) = advances code n + 1 := by
  simp [advances, Nat.count_succ, h]

private theorem advances_same {n : ℕ} (h : code n ≠ .advances) :
    advances code (n + 1) = advances code n := by
  simp [advances, Nat.count_succ, h]

theorem Cursor.clean_start : (Cursor.start rows).Clean code rows count where
  noError i hi := absurd hi (Nat.not_lt_zero i)
  inCount := Nat.zero_le _
  inRows := Nat.zero_le _
  rest := rfl
  stored := rfl

/-- A turn that has met no error. -/
private theorem Cursor.Clean.turn {c : Cursor ρ} (h : c.Clean code rows count) :
    (c.turn code rows count).Inv code rows count := by
  have hlen : c.stored.length = advances code c.calls := by
    rw [h.stored, List.length_take, Nat.min_eq_left h.inRows]
  unfold Cursor.turn
  split_ifs with hshort
  · rw [hlen] at hshort
    cases hcode : code c.calls with
    | advances =>
      have hnoError := noError_succ h.noError (by simp [hcode])
      have hsucc := advances_succ hcode
      cases hrest : c.rest with
      | cons r rest =>
        -- the row at hand is number `advances`
        have hdrop : rows.drop (advances code c.calls) = r :: rest := by rw [← h.rest, hrest]
        have hlt : advances code c.calls < rows.length := by
          apply Nat.lt_of_not_le
          intro hle
          rw [List.drop_of_length_le hle] at hdrop
          cases hdrop
        have hget : rows[advances code c.calls] = r := by
          rw [List.drop_eq_getElem_cons hlt] at hdrop
          exact (List.cons.inj hdrop).1
        refine .inl ⟨hnoError, ?_, ?_, ?_, ?_⟩
        · rw [hsucc]; exact hshort
        · rw [hsucc]; exact hlt
        · rw [hsucc, ← List.drop_drop, hdrop]
          rfl
        · rw [hsucc, List.take_add_one, List.getElem?_eq_getElem hlt, hget, ← h.stored]
          rfl
      | nil =>
        -- every row has come
        have hall : rows.length ≤ advances code c.calls := by
          rw [← List.drop_eq_nil_iff, ← h.rest, hrest]
        refine ⟨hnoError, by rw [hsucc]; omega, ?_⟩
        rw [h.stored, List.take_of_length_le hall, List.take_of_length_le (by omega)]
    | busy =>
      have hsame : advances code (c.calls + 1) = advances code c.calls :=
        advances_same (by simp [hcode])
      exact .inl ⟨noError_succ h.noError (by simp [hcode]), hsame ▸ h.inCount,
        hsame ▸ h.inRows, hsame ▸ h.rest, hsame ▸ h.stored⟩
    | error => exact .inr ⟨⟨c.calls, Nat.lt_succ_self _, hcode⟩, hlen ▸ hshort⟩
  · -- `curcnt` has reached `count`
    have hcount : advances code c.calls = count := by have := h.inCount; omega
    exact ⟨h.noError, by omega, by rw [h.stored, hcount]⟩

/-- A turn after an error that persists. -/
private theorem Cursor.Failed.turn {c : Cursor ρ} (h : c.Failed code count)
    (hpersists : ∀ i, code i = .error → code (i + 1) = .error) :
    (c.turn code rows count).Inv code rows count := by
  obtain ⟨i, hi, herror⟩ := h.failed
  -- the error of an earlier call is still there at this one
  have hcode : code c.calls = .error := by
    obtain ⟨k, hk⟩ := Nat.exists_eq_add_of_lt hi
    rw [hk]
    clear hk
    induction k with
    | zero => exact hpersists i herror
    | succ k ih => exact hpersists _ ih
  unfold Cursor.turn
  rw [if_pos h.short, hcode]
  exact .inr ⟨⟨i, Nat.lt_succ_of_lt hi, herror⟩, h.short⟩

/-- **Every turn keeps the invariant**, if errors persist. -/
theorem LoopState.Inv.after (hpersists : ∀ i, code i = .error → code (i + 1) = .error) (n : ℕ)
    {s : LoopState ρ} (h : s.Inv code rows count) :
    (s.after code rows count n).Inv code rows count := by
  induction n generalizing s with
  | zero => exact h
  | succ n ih =>
    apply ih
    cases s with
    | left c => exact h
    | running c =>
      rcases h with hclean | hfailed
      · exact hclean.turn
      · exact hfailed.turn hpersists

/-- Every turn inside the loop makes a call. -/
theorem Cursor.calls_turn {c c' : Cursor ρ} (h : c.turn code rows count = .running c') :
    c'.calls = c.calls + 1 := by
  unfold Cursor.turn at h
  split_ifs at h
  split at h
  · rw [← LoopState.running.inj h]
  · cases h
  · rw [← LoopState.running.inj h]
  · rw [← LoopState.running.inj h]

theorem LoopState.calls_after {n : ℕ} {c c' : Cursor ρ}
    (h : (LoopState.running c).after code rows count n = .running c') :
    c'.calls = c.calls + n := by
  induction n generalizing c with
  | zero => rw [LoopState.running.inj h, Nat.add_zero]
  | succ n ih =>
    have h' : (c.turn code rows count).after code rows count n = .running c' := h
    cases hturn : c.turn code rows count with
    | left c₁ =>
      rw [hturn, LoopState.after_left] at h'
      cases h'
    | running c₁ =>
      rw [hturn] at h'
      rw [ih h', Cursor.calls_turn hturn]
      omega

/-- Enough calls advance before one fails. -/
def EnoughAdvance (code : ℕ → StepCode) (rows count : ℕ) : Prop :=
  ∃ n, (∀ i < n, code i ≠ .error) ∧ min count (rows + 1) ≤ advances code n

/-- The loop is left if enough calls advance before one fails, and only then. -/
theorem leaves_iff (hpersists : ∀ i, code i = .error → code (i + 1) = .error) :
    (∃ c, (LoopState.running (.start rows)).Leaves code rows count c) ↔
      EnoughAdvance code rows.length count := by
  -- the invariant carries both directions: it says what `n` turns have stored
  have hinv : (LoopState.running (.start rows)).Inv code rows count := .inl Cursor.clean_start
  constructor
  · rintro ⟨c, n, hn⟩
    have hdone := hinv.after hpersists n
    rw [hn] at hdone
    exact ⟨c.calls, hdone.noError, hdone.enough⟩
  · rintro ⟨n, hnoError, henough⟩
    have hafter := hinv.after hpersists n
    cases hs : (LoopState.running (.start rows)).after code rows count n with
    | left c => exact ⟨c, n, hs⟩
    | running c =>
      -- the loop has not left after `n` turns, so it has made `n` calls
      have hcalls : c.calls = n := by
        have := LoopState.calls_after hs
        simpa [Cursor.start] using this
      rw [hs] at hafter
      rcases hafter with hclean | hfailed
      · -- every slot is filled, and the next turn leaves
        have hcount : c.stored.length = count := by
          have hlen := hclean.stored
          have hc := hclean.inCount
          have hr := hclean.inRows
          rw [hcalls] at hlen hc hr
          rw [hlen, List.length_take]
          omega
        have hturn : c.turn code rows count = .left c := by
          rw [Cursor.turn, if_neg (by omega)]
        exact ⟨c, LoopState.leaves_of_after hs hturn⟩
      · obtain ⟨i, hi, herror⟩ := hfailed.failed
        exact absurd herror (hnoError i (hcalls ▸ hi))

end Turns

/-! ## §3 The function -/

/-- The return codes of a call of `QuickSelectData`: an error persists on every further call. -/
structure SelectCodes where
  beginPrepare : Bool
  beginStep : Bool
  prepare : Bool
  code : ℕ → StepCode
  persists : ∀ i, code i = .error → code (i + 1) = .error
  commitPrepare : Bool
  commitStep : Bool

namespace SelectCodes

variable (rc : SelectCodes) (rows : List ρ) (count : ℕ)

/-- The calls before the loop succeed. -/
def entersLoop : Bool := rc.beginPrepare && rc.beginStep && rc.prepare

/-- `QuickSelectData`, as far as it has come after `n` turns of its loop: what it has returned,
and where the loop then stands. -/
def quickSelectData (n : ℕ) : Option (Bool × Cursor ρ) :=
  if rc.entersLoop then
    match (LoopState.running (.start rows)).after rc.code rows count n with
    | .left c => some (rc.commitPrepare && rc.commitStep, c)
    | .running _ => none
  else some (false, .start rows)

/-- It returns, and `TRUE` only with the first rows stored and no error met. -/
structure ReturnsRows : Prop where
  returns : ∃ n r, rc.quickSelectData rows count n = some r
  stored : ∀ n c, rc.quickSelectData rows count n = some (true, c) →
    c.stored = rows.take count ∧ ∀ i < c.calls, rc.code i ≠ .error

variable {rows count} in
/-- `TRUE` comes with the first rows, and without an error. -/
theorem stored_of_true {n : ℕ} {c : Cursor ρ}
    (h : rc.quickSelectData rows count n = some (true, c)) :
    c.stored = rows.take count ∧ ∀ i < c.calls, rc.code i ≠ .error := by
  by_cases henters : rc.entersLoop = true
  · rw [quickSelectData, if_pos henters] at h
    have hinv : (LoopState.running (.start rows)).Inv rc.code rows count := .inl Cursor.clean_start
    have hdone := hinv.after rc.persists n
    -- what the loop leaves is what the invariant says of it
    cases hs : (LoopState.running (.start rows)).after rc.code rows count n with
    | running c' =>
      rw [hs] at h
      cases h
    | left c' =>
      rw [hs] at h hdone
      simp only [Option.some.injEq, Prod.mk.injEq] at h
      obtain ⟨-, rfl⟩ := h
      exact ⟨hdone.stored, hdone.noError⟩
  · rw [quickSelectData, if_neg henters] at h
    cases h

/-- **`QuickSelectData` comes back** if it does not reach its loop, or if enough of its calls
advance before one fails; otherwise it never does. -/
theorem returnsRows_iff : rc.ReturnsRows rows count ↔
    (rc.entersLoop = true → EnoughAdvance rc.code rows.length count) := by
  constructor
  · intro h henters
    obtain ⟨n, r, hr⟩ := h.returns
    rw [quickSelectData, if_pos henters] at hr
    -- it has returned, so the loop is left
    cases hs : (LoopState.running (.start rows)).after rc.code rows count n with
    | running c =>
      rw [hs] at hr
      cases hr
    | left c => exact (leaves_iff rc.persists).1 ⟨c, n, hs⟩
  · intro h
    refine ⟨?_, fun n c hc => ?_⟩
    · by_cases henters : rc.entersLoop = true
      · obtain ⟨c, n, hn⟩ := (leaves_iff rc.persists).2 (h henters)
        exact ⟨n, _, by rw [quickSelectData, if_pos henters, hn]⟩
      · exact ⟨0, _, by rw [quickSelectData, if_neg henters]⟩
    · exact rc.stored_of_true hc

/-- Every call of `sqlite3_step` on the query fails. -/
def allFail : SelectCodes := ⟨true, true, true, fun _ => .error, fun _ _ => rfl, true, true⟩

/-- Then one row is never delivered, and the loop never left. -/
theorem allFail_never_returns : ¬allFail.ReturnsRows ["row"] 1 := by
  intro h
  obtain ⟨n, r, hr⟩ := h.returns
  -- induction on the turns: each finds the slot still empty
  have hrunning : ∀ (n : ℕ) (c : Cursor String), c.stored.length < 1 →
      ∃ c', (LoopState.running c).after allFail.code ["row"] 1 n = .running c' := by
    intro n
    induction n with
    | zero => exact fun c _ => ⟨c, rfl⟩
    | succ n ih =>
      intro c hc
      have hturn : c.turn allFail.code ["row"] 1 =
          .running { c with calls := c.calls + 1, rest := ["row"] } := by
        rw [Cursor.turn, if_pos hc]
        rfl
      obtain ⟨c', hc'⟩ := ih { c with calls := c.calls + 1, rest := ["row"] } hc
      exact ⟨c', by rw [← hc', ← hturn]; rfl⟩
  obtain ⟨c', hc'⟩ := hrunning n (.start ["row"]) (by decide)
  rw [quickSelectData, if_pos (by decide), hc'] at hr
  cases hr

end SelectCodes

/-! ## §4 The loop as a function of its return codes -/

/-- The calls that `fetch` is told to fail, fail. -/
def stepCode (ok : Bool) : StepCode := if ok then .advances else .error

private theorem leaves_advancing {code : ℕ → StepCode} {rows : List ρ} {count need : ℕ}
    {c : Cursor ρ} (hneed : c.stored.length + need = count)
    (hcode : ∀ i, code (c.calls + i) = .advances) :
    ∃ c', (LoopState.running c).Leaves code rows count c' ∧
      c'.stored = c.stored ++ c.rest.take need := by
  obtain ⟨calls, rest, stored⟩ := c
  dsimp only at hneed hcode ⊢
  have hcalls : code calls = .advances := hcode 0
  induction rest generalizing calls stored need with
  | nil =>
    -- the end of the rows, or of the slots
    cases need with
    | zero =>
      refine ⟨⟨calls, [], stored⟩, LoopState.leaves_running.2 ?_, by simp⟩
      rw [Cursor.turn, if_neg (by dsimp only; omega)]
      exact LoopState.leaves_left.2 rfl
    | succ need =>
      refine ⟨⟨calls + 1, [], stored⟩, LoopState.leaves_running.2 ?_, by simp⟩
      rw [Cursor.turn, if_pos (by dsimp only; omega), hcalls]
      exact LoopState.leaves_left.2 rfl
  | cons r rest ih =>
    cases need with
    | zero =>
      refine ⟨⟨calls, r :: rest, stored⟩, LoopState.leaves_running.2 ?_, by simp⟩
      rw [Cursor.turn, if_neg (by dsimp only; omega)]
      exact LoopState.leaves_left.2 rfl
    | succ need =>
      obtain ⟨c', hleaves, hstored⟩ := @ih need (calls + 1) (stored ++ [r])
        (by simp; omega)
        (fun i => by rw [Nat.add_assoc, Nat.add_comm 1 i]; exact hcode (i + 1)) (hcode 1)
      refine ⟨c', LoopState.leaves_running.2 ?_, by simpa using hstored⟩
      rw [Cursor.turn, if_pos (by dsimp only; omega), hcalls]
      exact hleaves

/-- Every call fails from here on. -/
private theorem never_leaves_failing {code : ℕ → StepCode} {rows : List ρ} {count : ℕ}
    {c : Cursor ρ} (hshort : c.stored.length < count)
    (hcode : ∀ i, code (c.calls + i) = .error) (c' : Cursor ρ) :
    ¬(LoopState.running c).Leaves code rows count c' := by
  rintro ⟨n, hn⟩
  induction n generalizing c with
  | zero => cases hn
  | succ n ih =>
    -- a failed call starts the query again, and stores nothing
    have hturn : c.turn code rows count =
        .running { c with calls := c.calls + 1, rest := rows } := by
      rw [Cursor.turn, if_pos hshort, show code c.calls = .error from hcode 0]
    have hn' : (c.turn code rows count).after code rows count n = .left c' := hn
    rw [hturn] at hn'
    refine ih (c := { c with calls := c.calls + 1, rest := rows }) hshort (fun i => ?_) hn'
    dsimp only
    rw [Nat.add_assoc, Nat.add_comm 1 i]
    exact hcode (i + 1)

/-- The first of the calls to come, and the others. -/
private theorem code_cons {code : ℕ → StepCode} {codes : List Bool} {b later : Bool} {calls : ℕ}
    (h : ∀ i, code (calls + i) = stepCode ((b :: codes).getD i later)) :
    code calls = stepCode b ∧ ∀ i, code (calls + 1 + i) = stepCode (codes.getD i later) := by
  refine ⟨h 0, fun i => ?_⟩
  rw [Nat.add_assoc, Nat.add_comm 1 i]
  exact h (i + 1)

/-- The loop from any point on is `fetch` from there. -/
private theorem leaves_fetch {code : ℕ → StepCode} {rows : List ρ} {persists : Bool}
    {codes : List Bool} {rest : List ρ} {count need calls : ℕ} {stored : List ρ}
    (hneed : stored.length + need = count)
    (hcode : ∀ i, code (calls + i) = stepCode (codes.getD i !persists)) :
    match fetch rows persists codes rest need with
    | some fetched => ∃ c', (LoopState.running ⟨calls, rest, stored⟩).Leaves code rows count c' ∧
        c'.stored = stored ++ fetched
    | none => ∀ c', ¬(LoopState.running ⟨calls, rest, stored⟩).Leaves code rows count c' := by
  fun_induction fetch rows persists codes rest need generalizing calls stored with
  | case1 codes rest =>
    -- the slots are filled
    refine ⟨⟨calls, rest, stored⟩, LoopState.leaves_running.2 ?_, by simp⟩
    rw [Cursor.turn, if_neg (by dsimp only; omega)]
    exact LoopState.leaves_left.2 rfl
  | case2 codes need =>
    obtain ⟨hcalls, -⟩ := code_cons hcode
    refine ⟨⟨calls + 1, [], stored⟩, LoopState.leaves_running.2 ?_, by simp⟩
    rw [Cursor.turn, if_pos (by dsimp only; omega), show code calls = .advances from hcalls]
    exact LoopState.leaves_left.2 rfl
  | case3 codes r rest need ih =>
    obtain ⟨hcalls, hnext⟩ := code_cons hcode
    have hturn : (⟨calls, r :: rest, stored⟩ : Cursor ρ).turn code rows count =
        .running ⟨calls + 1, rest, stored ++ [r]⟩ := by
      rw [Cursor.turn, if_pos (by dsimp only; omega), show code calls = .advances from hcalls]
    have hrest := @ih (calls + 1) (stored ++ [r]) (by simp; omega) hnext
    cases hfetch : fetch rows persists codes rest need with
    | some fetched =>
      rw [hfetch] at hrest
      obtain ⟨c', hleaves, hstored⟩ := hrest
      exact ⟨c', LoopState.leaves_running.2 (hturn ▸ hleaves), by simpa using hstored⟩
    | none =>
      rw [hfetch] at hrest
      exact fun c' hleaves => hrest c' (hturn ▸ LoopState.leaves_running.1 hleaves)
  | case4 rest codes need ih =>
    -- an error: the next call starts over
    obtain ⟨hcalls, hnext⟩ := code_cons hcode
    have hturn : (⟨calls, rest, stored⟩ : Cursor ρ).turn code rows count =
        .running ⟨calls + 1, rows, stored⟩ := by
      rw [Cursor.turn, if_pos (by dsimp only; omega), show code calls = .error from hcalls]
    have hrest := @ih (calls + 1) stored hneed hnext
    cases hfetch : fetch rows persists codes rows (need + 1) with
    | some fetched =>
      rw [hfetch] at hrest
      obtain ⟨c', hleaves, hstored⟩ := hrest
      exact ⟨c', LoopState.leaves_running.2 (hturn ▸ hleaves), hstored⟩
    | none =>
      rw [hfetch] at hrest
      exact fun c' hleaves => hrest c' (hturn ▸ LoopState.leaves_running.1 hleaves)
  | case5 rest need hpersists =>
    refine never_leaves_failing (c := ⟨calls, rest, stored⟩) (by dsimp only; omega) fun i => ?_
    rw [hcode i]
    simp [stepCode, hpersists]
  | case6 rest need hpersists =>
    refine leaves_advancing (c := ⟨calls, rest, stored⟩) hneed fun i => ?_
    rw [hcode i]
    simp [stepCode, hpersists]

/-- **`fetch` is the loop** over its return codes: it gives the rows the loop has stored when it
is left, and nothing for a loop that never is. -/
theorem fetch_eq_loop (rows : List ρ) (rc : FetchRc) (count : ℕ) :
    match fetch rows rc.persists rc.codes rows count with
    | some stored => ∃ c, (LoopState.running (.start rows)).Leaves (fun i => stepCode (rc.code i))
        rows count c ∧ c.stored = stored
    | none => ∀ c, ¬(LoopState.running (.start rows)).Leaves (fun i => stepCode (rc.code i))
        rows count c :=
  @leaves_fetch ρ (fun i => stepCode (rc.code i)) rows rc.persists rc.codes rows count count
    0 [] (Nat.zero_add count) fun i => by rw [Nat.zero_add]; rfl

/-! ## §5 The whole result -/

namespace FetchRc

/-- The calls before the loop succeed. -/
def entersLoop (rc : FetchRc) : Bool := rc.beginPrepare && rc.beginStep && rc.prepare

/-- Once every call fails there are still rows to store, of the `n` there are. -/
def LoopsForever (rc : FetchRc) (n : ℕ) : Prop :=
  rc.entersLoop = true ∧ rc.persists = true ∧ rc.codes.count true < n

/-- Calls fail before the first row only, and the end of the operation succeeds. -/
def DeliversAll (rc : FetchRc) (n : ℕ) : Prop :=
  rc.entersLoop = true ∧ (∃ k, (∀ i < k, rc.code i = false) ∧ ∀ i < n, rc.code (k + i) = true) ∧
    (rc.commitPrepare && rc.commitStep) = true

end FetchRc

/-- The loop goes on for ever if every call fails from some point on and slots are left. -/
theorem fetch_eq_none_iff {rows : List ρ} {persists : Bool} {codes : List Bool} {rest : List ρ}
    {need : ℕ} (hrest : need ≤ rest.length) (hrows : need ≤ rows.length) :
    fetch rows persists codes rest need = none ↔ persists = true ∧ codes.count true < need := by
  fun_induction fetch rows persists codes rest need with
  | case1 => simp
  | case2 => simp at hrest
  | case3 codes r rest need ih =>
    rw [Option.map_eq_none_iff, ih (by simpa using hrest) (by omega), List.count_cons_self,
      Nat.succ_eq_add_one, Nat.add_lt_add_iff_right]
  | case4 rest codes need ih =>
    rw [ih hrows hrows, List.count_cons_of_ne (by decide)]
  | case5 rest need hpersists => simp [hpersists]
  | case6 rest need hpersists => simp [hpersists]

/-- A loop that starts with the first row stores it. -/
private theorem first_mem_fetch {r₀ : ρ} {rows stored : List ρ} {persists : Bool}
    {codes : List Bool} {need : ℕ}
    (h : fetch (r₀ :: rows) persists codes (r₀ :: rows) (need + 1) = some stored) :
    r₀ ∈ stored := by
  induction codes with
  | nil =>
    cases persists with
    | true => simp [fetch] at h
    | false =>
      simp only [fetch, Bool.false_eq_true, if_false, Option.some.injEq] at h
      exact h ▸ List.mem_cons_self
  | cons code codes ih =>
    cases code with
    | true =>
      obtain ⟨stored', -, rfl⟩ := Option.map_eq_some_iff.1 h
      exact List.mem_cons_self
    -- after a failure the query starts at the first row again
    | false => exact ih h

/-- Where the first row is not stored again, no call has failed. -/
private theorem code_of_not_mem_fetch {r₀ : ρ} {rows rest stored : List ρ} {persists : Bool}
    {codes : List Bool} {need : ℕ} (hrest : need ≤ rest.length)
    (h : fetch (r₀ :: rows) persists codes rest need = some stored) (hr₀ : r₀ ∉ stored) :
    ∀ i < need, codes.getD i (!persists) = true := by
  intro i hi
  induction codes generalizing rest need stored i with
  | nil =>
    cases need with
    | zero => exact absurd hi (Nat.not_lt_zero i)
    | succ need =>
      cases persists with
      | true => simp [fetch] at h
      | false => rfl
  | cons code codes ih =>
    cases need with
    | zero => exact absurd hi (Nat.not_lt_zero i)
    | succ need =>
      cases code with
      -- a failure here would bring the first row once more
      | false => exact absurd (first_mem_fetch h) hr₀
      | true =>
        obtain ⟨r, rest, rfl⟩ := List.exists_cons_of_length_pos (by omega : 0 < rest.length)
        obtain ⟨stored', hstored', rfl⟩ := Option.map_eq_some_iff.1 h
        cases i with
        | zero => rfl
        | succ i =>
          exact ih (by simpa using hrest) hstored'
            (fun hmem => hr₀ (List.mem_cons_of_mem r hmem)) i (by omega)

/-- If calls fail before the first row only, the rows come once and in order. -/
theorem fetch_eq_rows {rows stored : List ρ} {rc : FetchRc}
    (h : fetch rows rc.persists rc.codes rows rows.length = some stored)
    (hcodes : ∃ k, (∀ i < k, rc.code i = false) ∧ ∀ i < rows.length, rc.code (k + i) = true) :
    stored = rows := by
  obtain ⟨_, _, _, codes, persists, _, _⟩ := rc
  obtain ⟨k, hfail, hok⟩ := hcodes
  dsimp only [FetchRc.code] at h hfail hok
  -- past the failures the loop is as at the start
  have hdrop : fetch rows persists codes rows rows.length =
      fetch rows persists (codes.drop k) rows rows.length := by
    clear h hok
    induction k generalizing codes with
    | zero => rfl
    | succ k ih =>
      cases codes with
      | nil => simp
      | cons code codes =>
        have hcode : code = false := hfail 0 (Nat.succ_pos k)
        subst hcode
        rw [List.drop_succ_cons, ← ih codes fun i hi => hfail (i + 1) (by omega)]
        cases rows with
        | nil => rw [List.length_nil, fetch, fetch]
        | cons r rows => rfl
  have hcode : ∀ i < rows.length, (codes.drop k).getD i (!persists) = true := by
    intro i hi
    rw [List.getD_eq_getElem?_getD, List.getElem?_drop, ← List.getD_eq_getElem?_getD]
    exact hok i hi
  have hclean : fetch rows persists (codes.drop k) rows rows.length = _ :=
    fetch_clean (Nat.le_refl _) hcode
  rw [hdrop, hclean, List.take_length] at h
  exact (Option.some_inj.1 h).symm

/-- **Every row is stored** if calls fail before the first row only; after a later failure the
first row takes the place of another. -/
theorem fetch_stores_all_iff {rows stored : List ρ} (hnodup : rows.Nodup) {rc : FetchRc}
    (h : fetch rows rc.persists rc.codes rows rows.length = some stored) :
    (∀ r ∈ rows, r ∈ stored) ↔
      ∃ k, (∀ i < k, rc.code i = false) ∧ ∀ i < rows.length, rc.code (k + i) = true := by
  have hlen : stored.length = rows.length := fetch_length (Nat.le_refl _) (Nat.le_refl _) h
  constructor
  · intro hall
    obtain ⟨_, _, _, codes, persists, _, _⟩ := rc
    dsimp only [FetchRc.code] at h ⊢
    -- as many rows as slots, so none is stored twice
    have hstored : stored.Nodup :=
      ((hnodup.subperm hall).perm_of_length_le (by omega)).nodup_iff.1 hnodup
    cases rows with
    | nil => exact ⟨0, fun i hi => absurd hi (Nat.not_lt_zero i), fun i hi => absurd hi (by simp)⟩
    | cons r₀ rows =>
      clear hall hnodup hlen
      induction codes with
      | nil =>
        cases persists with
        | true => simp [fetch] at h
        | false => exact ⟨0, fun i hi => absurd hi (Nat.not_lt_zero i), fun i _ => rfl⟩
      | cons code codes ih =>
        cases code with
        | false =>
          obtain ⟨k, hfail, hok⟩ := ih h
          refine ⟨k + 1, fun i hi => ?_, fun i hi => ?_⟩
          · cases i with
            | zero => rfl
            | succ i => exact hfail i (by omega)
          · rw [Nat.add_right_comm]
            exact hok i hi
        | true =>
          obtain ⟨stored', hstored', rfl⟩ := Option.map_eq_some_iff.1 h
          have hcode := code_of_not_mem_fetch (Nat.le_refl _) hstored' (List.nodup_cons.1 hstored).1
          refine ⟨0, fun i hi => absurd hi (Nat.not_lt_zero i), fun i hi => ?_⟩
          rw [Nat.zero_add]
          cases i with
          | zero => rfl
          | succ i => exact hcode i (by simpa using hi)
  · intro hcodes
    rw [fetch_eq_rows h hcodes]
    exact fun r hr => hr

end MtpSync
