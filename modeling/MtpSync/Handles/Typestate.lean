import MtpSync.Handles.Operations
import MtpSync.Lib.Run
import MtpSync.Lib.Simulation

/-!
# Handles that are over

The calls an object has made, with the handles it passed, and the state of its two handles as far
as they matter: `NULL`, in use, or over.  What an operation does to the calls is what it does to
these states, so whether a closed connection or a finalized statement is ever passed again is
decided on eighteen states.

- §1 the calls made
- §2 the states of the handles
- §3 the operations on both
-/

namespace MtpSync

namespace Handles

/-! ## §1 The calls made -/

/-- A call, with the handle passed to it. -/
inductive Call where
  | sqlite3_open
  | onDb (f : DbFn) (db : Option ℕ)
  /-- with its success -/
  | sqlite3_close (db : Option ℕ) (ok : Bool)
  | sqlite3_prepare_v2 (db : Option ℕ)
  | onStmt (f : StmtFn) (stmt : Option ℕ)
  | sqlite3_finalize (stmt : Option ℕ)
  deriving DecidableEq

/-- The connection passed to a call. -/
def Call.db : Call → Option ℕ
  | .onDb _ db => db
  | .sqlite3_close db _ => db
  | .sqlite3_prepare_v2 db => db
  | _ => none

/-- The statement passed to a call. -/
def Call.stmt : Call → Option ℕ
  | .onStmt _ stmt => stmt
  | .sqlite3_finalize stmt => stmt
  | _ => none

/-- The connection a call has closed. -/
def Call.closes : Call → Option ℕ
  | .sqlite3_close db true => db
  | _ => none

/-- The statement a call has finalized. -/
def Call.finalizes : Call → Option ℕ
  | .sqlite3_finalize stmt => stmt
  | _ => none

/-- The later call `c` is not on what the earlier call `e` ended. -/
def Call.Respects (e c : Call) : Prop :=
  (e.closes.isSome = true → c.db ≠ e.closes) ∧ (e.finalizes.isSome = true → c.stmt ≠ e.finalizes)

instance (e c : Call) : Decidable (e.Respects c) :=
  inferInstanceAs (Decidable (_ ∧ _))

/-- No function is called on a connection that has been closed, nor on a statement that has been
finalized. -/
def WellUsed (calls : List Call) : Prop := calls.Pairwise Call.Respects

instance (calls : List Call) : Decidable (WellUsed calls) :=
  inferInstanceAs (Decidable (List.Pairwise _ _))

/-- The handles of an object, and all calls so far.  A new handle is one that was never given
out. -/
structure Trace where
  pDB : Option ℕ
  stmt : Option ℕ
  next : ℕ
  calls : List Call

/-- A call that changes no handle. -/
def Trace.made (s : Trace) (c : Call) : Trace := { s with calls := s.calls ++ [c] }

/-- The calls, written down. -/
def traced : Calls Trace where
  sqlite3_open given := Act.modify fun s =>
    { s.made .sqlite3_open with
      pDB := if given then some s.next else none
      next := s.next + 1 }
  onDb f := Act.modify fun s => s.made (.onDb f s.pDB)
  sqlite3_close ok := Act.modify fun s => s.made (.sqlite3_close s.pDB ok)
  clearDb := Act.modify fun s => { s with pDB := none }
  hasDb := (fun s => s.pDB.isSome) <$> Act.read
  sqlite3_prepare_v2 given := Act.modify fun s =>
    { s.made (.sqlite3_prepare_v2 s.pDB) with
      stmt := if given then some s.next else none
      next := s.next + 1 }
  onStmt f := Act.modify fun s => s.made (.onStmt f s.stmt)
  sqlite3_finalize := Act.modify fun s => s.made (.sqlite3_finalize s.stmt)
  hasStmt := (fun s => s.stmt.isSome) <$> Act.read

/-- A new object. -/
def newObject : Object Trace := ⟨⟨none, none, 0, []⟩, true⟩

/-! ## §2 The states of the handles -/

/-- What a handle is. -/
inductive Handle where
  | null
  | used
  /-- closed, or finalized -/
  | over
  deriving DecidableEq

/-- The states of the two handles, and whether one that is over has been passed to a call. -/
structure View where
  db : Handle
  stmt : Handle
  misused : Bool
  deriving DecidableEq

/-- A call on the connection. -/
def View.onDb (v : View) : View := { v with misused := v.misused || v.db = .over }

/-- A call on the statement. -/
def View.onStmt (v : View) : View := { v with misused := v.misused || v.stmt = .over }

/-- What a call gives out. -/
def Handle.given : Bool → Handle
  | true => .used
  | false => .null

/-- What is left of a handle that is ended. -/
def Handle.ended : Handle → Handle
  | .null => .null
  | _ => .over

/-- The calls, on the states. -/
def typestate : Calls View where
  sqlite3_open given := Act.modify fun v => { v with db := .given given }
  onDb _ := Act.modify View.onDb
  sqlite3_close ok := Act.modify fun v =>
    { v.onDb with db := if ok then v.db.ended else v.db }
  clearDb := Act.modify fun v => { v with db := .null }
  hasDb := (fun v => decide (v.db ≠ .null)) <$> Act.read
  sqlite3_prepare_v2 given := Act.modify fun v =>
    { v.onDb with stmt := .given given }
  onStmt _ := Act.modify View.onStmt
  sqlite3_finalize := Act.modify fun v =>
    { v.onStmt with stmt := v.stmt.ended }
  hasStmt := (fun v => decide (v.stmt ≠ .null)) <$> Act.read

/-- What the calls say of a handle, when `ends` is what a call ends. -/
def handleOf (ends : Call → Option ℕ) (calls : List Call) (handle : Option ℕ) : Handle :=
  if handle = none then .null
  else if ∃ e ∈ calls, ends e = handle then .over
  else .used

def Trace.view (s : Trace) : View where
  db := handleOf Call.closes s.calls s.pDB
  stmt := handleOf Call.finalizes s.calls s.stmt
  misused := !decide (WellUsed s.calls)

/-- No call has ended a handle that was never given out. -/
structure Fresh (s : Trace) : Prop where
  closes : ∀ e ∈ s.calls, ∀ h, e.closes = some h → h < s.next
  finalizes : ∀ e ∈ s.calls, ∀ h, e.finalizes = some h → h < s.next
  pDB : ∀ h, s.pDB = some h → h < s.next
  stmt : ∀ h, s.stmt = some h → h < s.next

section HandleOf

variable {ends : Call → Option ℕ} {calls : List Call} {handle : Option ℕ} {c : Call}

private theorem handleOf_none : handleOf ends calls none = .null := if_pos rfl

private theorem handleOf_ne_over_iff : handleOf ends calls handle ≠ .over ↔
    ∀ e ∈ calls, (ends e).isSome = true → handle ≠ ends e := by
  cases handle with
  -- a null handle is never over, and no end is of a null handle
  | none =>
    have hnull : handleOf ends calls none ≠ .over := by
      rw [handleOf_none]
      decide
    refine ⟨fun _ e _ hsome heq => ?_, fun _ => hnull⟩
    rw [← heq] at hsome
    exact absurd hsome (by decide)
  | some h =>
    have hsplit : handleOf ends calls (some h) = .over ↔ ∃ e ∈ calls, ends e = some h := by
      rw [handleOf, if_neg (by simp)]
      split
      · rename_i hex
        exact ⟨fun _ => hex, fun _ => rfl⟩
      · rename_i hno
        exact ⟨fun heq => absurd heq (by decide), fun hex => absurd hex hno⟩
    rw [Ne, hsplit]
    constructor
    · intro hno e he _ heq
      exact hno ⟨e, he, heq.symm⟩
    · rintro hall ⟨e, he, heq⟩
      exact hall e he (by rw [heq]; rfl) heq.symm

private theorem handleOf_eq_null : handleOf ends calls handle = .null ↔ handle = none := by
  rw [handleOf]
  split
  · rename_i h
    exact ⟨fun _ => h, fun _ => rfl⟩
  · rename_i h
    split <;> exact ⟨fun heq => absurd heq (by decide), fun heq => absurd heq h⟩

/-- A call that ends nothing. -/
private theorem handleOf_append_none (h : ends c = none) :
    handleOf ends (calls ++ [c]) handle = handleOf ends calls handle := by
  by_cases hnull : handle = none
  · rw [hnull, handleOf_none, handleOf_none]
  · have hiff : (∃ e ∈ calls ++ [c], ends e = handle) ↔ ∃ e ∈ calls, ends e = handle := by
      constructor
      · rintro ⟨e, he, heq⟩
        rcases List.mem_append.1 he with he | he
        · exact ⟨e, he, heq⟩
        · rw [List.mem_singleton.1 he, h] at heq
          exact absurd heq.symm hnull
      · rintro ⟨e, he, heq⟩
        exact ⟨e, List.mem_append_left [c] he, heq⟩
    rw [handleOf, if_neg hnull, handleOf, if_neg hnull]
    simp only [hiff]

/-- A call that ends the handle. -/
private theorem handleOf_append_self (h : ends c = handle) :
    handleOf ends (calls ++ [c]) handle = (handleOf ends calls handle).ended := by
  by_cases hnull : handle = none
  · rw [hnull, handleOf_none, handleOf_none]
    rfl
  · have hmem : ∃ e ∈ calls ++ [c], ends e = handle :=
      ⟨c, List.mem_append_right calls List.mem_cons_self, h⟩
    have hended : (handleOf ends calls handle).ended = .over := by
      have hne : handleOf ends calls handle ≠ .null := handleOf_eq_null.not.2 hnull
      revert hne
      cases handleOf ends calls handle with
      | null => exact fun hne => absurd rfl hne
      | used => exact fun _ => rfl
      | _ => exact fun _ => rfl
    rw [handleOf, if_neg hnull, if_pos hmem, hended]

private theorem handleOf_new {n : ℕ} (h : ∀ e ∈ calls, ∀ h, ends e = some h → h < n) :
    handleOf ends calls (some n) = .used := by
  rw [handleOf, if_neg (by simp), if_neg]
  rintro ⟨e, he, heq⟩
  exact absurd (h e he n heq) (Nat.lt_irrefl n)

end HandleOf

/-! ## §3 The operations on both -/

variable {s : Trace} {c : Call}

/-- A call is a misuse when it is on a handle that is over. -/
private theorem misused_append : (!decide (WellUsed (s.calls ++ [c]))) =
    (!decide (WellUsed s.calls) || decide (handleOf Call.closes s.calls c.db = .over) ||
      decide (handleOf Call.finalizes s.calls c.stmt = .over)) := by
  have hiff : WellUsed (s.calls ++ [c]) ↔ WellUsed s.calls ∧
      handleOf Call.closes s.calls c.db ≠ .over ∧
        handleOf Call.finalizes s.calls c.stmt ≠ .over := by
    rw [handleOf_ne_over_iff, handleOf_ne_over_iff, ← forall₂_and, WellUsed, List.pairwise_append]
    constructor
    · intro h
      exact ⟨h.1, fun e he => h.2.2 e he c List.mem_cons_self⟩
    · intro h
      refine ⟨h.1, List.pairwise_singleton _ c, fun e he d hd => ?_⟩
      rw [List.mem_singleton.1 hd]
      exact h.2 e he
  simp only [hiff, Bool.decide_and, Bool.not_and, decide_not, Bool.not_not, Bool.or_assoc]

private theorem fresh_append {s' : Trace} (hs : Fresh s) (hcalls : s'.calls = s.calls ++ [c])
    (hnext : s.next ≤ s'.next) (hcloses : ∀ h, c.closes = some h → s.pDB = some h)
    (hfinalizes : ∀ h, c.finalizes = some h → s.stmt = some h)
    (hpDB : ∀ h, s'.pDB = some h → h < s'.next) (hstmt : ∀ h, s'.stmt = some h → h < s'.next) :
    Fresh s' := by
  refine ⟨?_, ?_, hpDB, hstmt⟩
  · intro e he h heq
    rw [hcalls] at he
    rcases List.mem_append.1 he with he | he
    · exact Nat.lt_of_lt_of_le (hs.closes e he h heq) hnext
    · rw [List.mem_singleton.1 he] at heq
      exact Nat.lt_of_lt_of_le (hs.pDB h (hcloses h heq)) hnext
  · intro e he h heq
    rw [hcalls] at he
    rcases List.mem_append.1 he with he | he
    · exact Nat.lt_of_lt_of_le (hs.finalizes e he h heq) hnext
    · rw [List.mem_singleton.1 he] at heq
      exact Nat.lt_of_lt_of_le (hs.stmt h (hfinalizes h heq)) hnext

/-- **Each call** does to the view what the call on the states does. -/
private theorem simulates_onDb (f : DbFn) :
    Act.Simulates Trace.view Fresh (traced.onDb f) (typestate.onDb f) := by
  apply Act.Simulates.modify
  intro s hs
  refine ⟨?_, fresh_append (c := .onDb f s.pDB) hs rfl (Nat.le_refl _) nofun nofun hs.pDB hs.stmt⟩
  show View.mk (handleOf _ (s.calls ++ [_]) s.pDB) (handleOf _ (s.calls ++ [_]) s.stmt)
    (!decide (WellUsed (s.calls ++ [_]))) = _
  rw [handleOf_append_none rfl, handleOf_append_none rfl, misused_append]
  simp only [Call.db, Call.stmt, handleOf_none, reduceCtorEq, decide_false, Bool.or_false]
  rfl

private theorem simulates_onStmt (f : StmtFn) :
    Act.Simulates Trace.view Fresh (traced.onStmt f) (typestate.onStmt f) := by
  apply Act.Simulates.modify
  intro s hs
  refine ⟨?_, fresh_append (c := .onStmt f s.stmt) hs rfl (Nat.le_refl _) nofun nofun hs.pDB
    hs.stmt⟩
  show View.mk (handleOf _ (s.calls ++ [_]) s.pDB) (handleOf _ (s.calls ++ [_]) s.stmt)
    (!decide (WellUsed (s.calls ++ [_]))) = _
  rw [handleOf_append_none rfl, handleOf_append_none rfl, misused_append]
  simp only [Call.db, Call.stmt, handleOf_none, reduceCtorEq, decide_false, Bool.or_false]
  rfl

private theorem simulates_open (given : Bool) :
    Act.Simulates Trace.view Fresh (traced.sqlite3_open given) (typestate.sqlite3_open given) := by
  apply Act.Simulates.modify
  intro s hs
  constructor
  · show View.mk (handleOf _ (s.calls ++ [_]) _) (handleOf _ (s.calls ++ [_]) s.stmt)
      (!decide (WellUsed (s.calls ++ [_]))) = _
    rw [handleOf_append_none rfl, handleOf_append_none rfl, misused_append]
    simp only [Call.db, Call.stmt, handleOf_none, reduceCtorEq, decide_false, Bool.or_false]
    cases given with
    | true =>
      rw [if_pos rfl, handleOf_new hs.closes]
      rfl
    | false => rfl
  · refine fresh_append (c := .sqlite3_open) hs rfl (Nat.le_succ _) nofun nofun ?_ ?_
    · intro h heq
      cases given with
      | true => exact Option.some.inj heq ▸ Nat.lt_succ_self _
      | false => exact absurd heq nofun
    · exact fun h heq => Nat.lt_succ_of_lt (hs.stmt h heq)

private theorem simulates_prepare (given : Bool) : Act.Simulates Trace.view Fresh
    (traced.sqlite3_prepare_v2 given) (typestate.sqlite3_prepare_v2 given) := by
  apply Act.Simulates.modify
  intro s hs
  constructor
  · show View.mk (handleOf _ (s.calls ++ [_]) s.pDB) (handleOf _ (s.calls ++ [_]) _)
      (!decide (WellUsed (s.calls ++ [_]))) = _
    rw [handleOf_append_none rfl, handleOf_append_none rfl, misused_append]
    simp only [Call.db, Call.stmt, handleOf_none, reduceCtorEq, decide_false, Bool.or_false]
    cases given with
    | true =>
      rw [if_pos rfl, handleOf_new hs.finalizes]
      rfl
    | false => rfl
  · refine fresh_append (c := .sqlite3_prepare_v2 s.pDB) hs rfl (Nat.le_succ _) nofun nofun ?_ ?_
    · exact fun h heq => Nat.lt_succ_of_lt (hs.pDB h heq)
    · intro h heq
      cases given with
      | true => exact Option.some.inj heq ▸ Nat.lt_succ_self _
      | false => exact absurd heq nofun

private theorem simulates_close (ok : Bool) :
    Act.Simulates Trace.view Fresh (traced.sqlite3_close ok) (typestate.sqlite3_close ok) := by
  apply Act.Simulates.modify
  intro s hs
  constructor
  · show View.mk (handleOf _ (s.calls ++ [_]) s.pDB) (handleOf _ (s.calls ++ [_]) s.stmt)
      (!decide (WellUsed (s.calls ++ [_]))) = _
    have hstmt : handleOf Call.finalizes (s.calls ++ [.sqlite3_close s.pDB ok]) s.stmt =
      handleOf Call.finalizes s.calls s.stmt := handleOf_append_none rfl
    rw [hstmt, misused_append]
    simp only [Call.db, Call.stmt, handleOf_none, reduceCtorEq, decide_false, Bool.or_false]
    -- a close that fails leaves the handle as it was
    cases ok with
    | true =>
      have hself : Call.closes (.sqlite3_close s.pDB true) = s.pDB := rfl
      rw [handleOf_append_self hself]
      rfl
    | false =>
      rw [handleOf_append_none rfl]
      rfl
  · refine fresh_append (c := .sqlite3_close s.pDB ok) hs rfl (Nat.le_refl _) ?_ nofun hs.pDB
      hs.stmt
    intro h heq
    cases ok with
    | true => exact heq
    | false => exact absurd heq nofun

private theorem simulates_finalize :
    Act.Simulates Trace.view Fresh traced.sqlite3_finalize typestate.sqlite3_finalize := by
  apply Act.Simulates.modify
  intro s hs
  constructor
  · have hself : Call.finalizes (.sqlite3_finalize s.stmt) = s.stmt := rfl
    show View.mk (handleOf _ (s.calls ++ [_]) s.pDB) (handleOf _ (s.calls ++ [_]) s.stmt)
      (!decide (WellUsed (s.calls ++ [_]))) = _
    have hdb : handleOf Call.closes (s.calls ++ [.sqlite3_finalize s.stmt]) s.pDB =
      handleOf Call.closes s.calls s.pDB := handleOf_append_none rfl
    rw [hdb, handleOf_append_self hself, misused_append]
    simp only [Call.db, Call.stmt, handleOf_none, reduceCtorEq, decide_false, Bool.or_false]
    rfl
  · exact fresh_append (c := .sqlite3_finalize s.stmt) hs rfl (Nat.le_refl _) nofun
      (fun _ h => h) hs.pDB hs.stmt

private theorem simulates_clearDb :
    Act.Simulates Trace.view Fresh traced.clearDb typestate.clearDb := by
  apply Act.Simulates.modify
  intro s hs
  refine ⟨?_, hs.closes, hs.finalizes, nofun, hs.stmt⟩
  show View.mk (handleOf _ s.calls none) _ _ = View.mk _ _ _
  rw [handleOf_none]
  rfl

private theorem simulates_hasDb : Act.Simulates Trace.view Fresh traced.hasDb typestate.hasDb := by
  apply Act.Simulates.query
  intro s
  show s.pDB.isSome = decide (handleOf Call.closes s.calls s.pDB ≠ .null)
  simp only [ne_eq, handleOf_eq_null]
  cases s.pDB <;> rfl

private theorem simulates_hasStmt :
    Act.Simulates Trace.view Fresh traced.hasStmt typestate.hasStmt := by
  apply Act.Simulates.query
  intro s
  show s.stmt.isSome = decide (handleOf Call.finalizes s.calls s.stmt ≠ .null)
  simp only [ne_eq, handleOf_eq_null]
  cases s.stmt <;> rfl

/-- **Calls and states agree**, so every operation does to the view of the calls what it does to
the states. -/
theorem traced_simulates : CallsSimulate Trace.view Fresh traced typestate where
  sqlite3_open := simulates_open
  onDb := simulates_onDb
  sqlite3_close := simulates_close
  clearDb := simulates_clearDb
  hasDb := simulates_hasDb
  sqlite3_prepare_v2 := simulates_prepare
  onStmt := simulates_onStmt
  sqlite3_finalize := simulates_finalize
  hasStmt := simulates_hasStmt

end Handles

end MtpSync
