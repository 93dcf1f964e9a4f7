import MtpSync.MyDataBase

/-!
# What `UpdateMysqlDB` sends

`UpdateMysqlDB` concatenates statement texts into `strTemp` and hands them to the session a
hundred at a time.

- §1 the loop over the texts
- §2 the calls it makes
- §3 the loop over the texts and the loop over the statements
- §4 what it reports
-/

namespace MtpSync

open Act

/-! ## §1 Texts -/

/-- `CStringA` and `std::string`: bytes. -/
abbrev CStringA := List UInt8

/-- The two calls a text is sent with. -/
structure MysqlSession (σ : Type) where
  Query : CStringA → Act σ Bool
  OneQuery : CStringA → Act σ Bool

section Loop

variable {σ : Type} (db : MysqlSession σ)

/-- The loop of `UpdateMysqlDB` over the texts: `strTemp` holds `sqlNum` of them. -/
def updateTextsLoop (list : List CStringA) (strTemp : CStringA) (sqlNum : ℕ) : Act σ Bool :=
  match list with
  | [] =>
    if strTemp ≠ [] ∧ sqlNum = 1 then db.OneQuery strTemp
    else if strTemp ≠ [] ∧ sqlNum > 1 then db.Query strTemp
    else pure true
  | st :: list =>
    -- `++sqlNum > UPDATEMAX`
    if sqlNum + 1 > UPDATEMAX then do
      -- `continue`: the position has not moved, and the counter starts again
      if ← db.Query strTemp then updateTextsLoop (st :: list) [] 0
      else pure false
    else updateTextsLoop list (strTemp ++ st) (sqlNum + 1)
termination_by 2 * list.length + (sqlNum + 1 - UPDATEMAX)
decreasing_by
  · simp only [UPDATEMAX, List.length_cons] at *
    omega
  · simp only [UPDATEMAX, List.length_cons] at *
    omega

/-- `CWPD_MTP_dataDlg::UpdateMysqlDB`, on the texts. -/
def updateTexts (list : List CStringA) : Act σ Bool := updateTextsLoop db list [] 0

/-- One call after the other, until one fails. -/
def inTurn {α : Type} (send : α → Act σ Bool) : List α → Act σ Bool
  | [] => pure true
  | b :: bs => Act.both (send b) (inTurn send bs)

/-- The call for a batch. -/
def sendBatch (part : List CStringA) : Act σ Bool :=
  if part.length = 1 then db.OneQuery part.flatten else db.Query part.flatten

theorem inTurn_singleton {α : Type} (send : α → Act σ Bool) (b : α) (s : σ) :
    (inTurn send [b]).run s = (send b).run s := by
  rw [inTurn, Act.both, bind_run]
  rcases (send b).run s with ⟨e | ok, s'⟩
  · rfl
  · cases ok <;> rfl

/-- The loop, from any accumulated text on: the text and what is left of the list are sent batch
by batch. -/
private theorem updateTextsLoop_run {list : List CStringA} {strTemp : CStringA} {sqlNum : ℕ}
    {sofar : List CStringA} (htemp : sofar.flatten = strTemp) (hnum : sofar.length = sqlNum)
    (hmax : sqlNum ≤ UPDATEMAX) (hsofar : ∀ st ∈ sofar, st ≠ []) (hlist : ∀ st ∈ list, st ≠ [])
    (s : σ) : (updateTextsLoop db list strTemp sqlNum).run s =
      (inTurn (sendBatch db) (Batch.batches 99 (sofar ++ list))).run s := by
  fun_induction updateTextsLoop db list strTemp sqlNum generalizing sofar s with
  | case1 strTemp sqlNum h =>
    -- one text is left
    have hone : sofar.length = 1 := hnum.trans h.2
    rw [List.append_nil, Batch.batches_of_length_le (List.ne_nil_of_length_pos (by omega))
      (by omega), inTurn_singleton, sendBatch, if_pos hone, htemp]
  | case2 strTemp sqlNum h1 h =>
    rw [List.append_nil, Batch.batches_of_length_le (List.ne_nil_of_length_pos (by omega))
      (by rw [hnum]; exact hmax), inTurn_singleton, sendBatch, if_neg (by omega), htemp]
  | case3 strTemp sqlNum h1 h2 =>
    -- no text is left, since none is empty
    cases sofar with
    | nil =>
      rw [List.append_nil, Batch.batches_nil]
      rfl
    | cons x xs =>
      have hx : x ≠ [] := hsofar x List.mem_cons_self
      have htext : strTemp ≠ [] := by
        rw [← htemp, List.flatten_cons]
        exact List.append_ne_nil_of_left_ne_nil hx _
      have hlen : 1 ≤ sqlNum := by
        rw [← hnum]
        exact Nat.succ_pos _
      rcases Nat.eq_or_lt_of_le hlen with hone | hmore
      · exact absurd ⟨htext, hone.symm⟩ h1
      · exact absurd ⟨htext, hmore⟩ h2
  | case4 strTemp sqlNum st list hfull ih =>
    -- the text is full: it is the next batch
    have hlen : sofar.length = 99 + 1 := by
      rw [UPDATEMAX] at hfull hmax
      omega
    rw [Batch.batches_append hlen, inTurn, Act.both, bind_run, bind_run, sendBatch,
      if_neg (by omega), htemp]
    rcases (db.Query strTemp).run s with ⟨e | ok, s'⟩
    · rfl
    · cases ok with
      | false => rfl
      | true => exact ih rfl rfl (Nat.zero_le _) (fun _ h => absurd h List.not_mem_nil) hlist s'
  | case5 strTemp sqlNum st list hroom ih =>
    rw [List.forall_mem_cons] at hlist
    have htemp' : (sofar ++ [st]).flatten = strTemp ++ st := by
      rw [List.flatten_append, htemp, List.flatten_singleton]
    have hnum' : (sofar ++ [st]).length = sqlNum + 1 := by
      rw [List.length_append, hnum, List.length_singleton]
    have hsofar' : ∀ x ∈ sofar ++ [st], x ≠ [] := by
      intro x hx
      rcases List.mem_append.1 hx with hx | hx
      · exact hsofar x hx
      · rw [List.mem_singleton.1 hx]
        exact hlist.1
    rw [ih htemp' hnum' (by omega) hsofar' hlist.2 s, List.append_assoc, List.singleton_append]

/-- **`UpdateMysqlDB` sends the batches of its list in turn.** -/
theorem updateTexts_run {list : List CStringA} (hlist : ∀ st ∈ list, st ≠ []) (s : σ) :
    (updateTexts db list).run s =
      (inTurn (sendBatch db) (Batch.batches 99 list)).run s :=
  updateTextsLoop_run db rfl rfl (Nat.zero_le _) (fun _ h => absurd h List.not_mem_nil) hlist s

end Loop

/-! ## §2 The calls -/

/-- A call that was made. -/
inductive MysqlCall where
  | Query (Querystr : CStringA)
  | OneQuery (Querystr : CStringA)
  deriving DecidableEq

/-- The text of a call. -/
def MysqlCall.Querystr : MysqlCall → CStringA
  | .Query Querystr => Querystr
  | .OneQuery Querystr => Querystr

def MysqlCall.isOneQuery : MysqlCall → Bool
  | .Query _ => false
  | .OneQuery _ => true

/-- A session that keeps the calls made; call number `k` succeeds if `ok k`. -/
def recorded (ok : ℕ → Bool) : MysqlSession (List MysqlCall) where
  Query text := ⟨fun calls => (.ok (ok calls.length), calls ++ [.Query text])⟩
  OneQuery text := ⟨fun calls => (.ok (ok calls.length), calls ++ [.OneQuery text])⟩

/-- The call of a batch. -/
def callOf (part : List CStringA) : MysqlCall :=
  if part.length = 1 then .OneQuery part.flatten else .Query part.flatten

@[simp] theorem callOf_Querystr (part : List CStringA) :
    (callOf part).Querystr = part.flatten := by
  unfold callOf
  split <;> rfl

@[simp] theorem callOf_isOneQuery (part : List CStringA) :
    (callOf part).isOneQuery = true ↔ part.length = 1 := by
  unfold callOf
  split
  · next h => exact iff_of_true rfl h
  · next h => exact iff_of_false (by simp [MysqlCall.isOneQuery]) h

private theorem sendBatch_recorded (ok : ℕ → Bool) (part : List CStringA)
    (calls : List MysqlCall) : (sendBatch (recorded ok) part).run calls =
      (.ok (ok calls.length), calls ++ [callOf part]) := by
  unfold sendBatch callOf
  split <;> rfl

/-- When no call fails, there is one for each batch. -/
private theorem inTurn_recorded {ok : ℕ → Bool} (hok : ∀ k, ok k = true)
    (parts : List (List CStringA)) (calls : List MysqlCall) :
    (inTurn (sendBatch (recorded ok)) parts).run calls =
      (.ok true, calls ++ parts.map callOf) := by
  induction parts generalizing calls with
  | nil => rw [inTurn, List.map_nil, List.append_nil, pure_run]
  | cons part parts ih =>
    have hsend := sendBatch_recorded ok part calls
    rw [hok] at hsend
    rw [inTurn, Act.both_run_true hsend, ih, List.append_assoc, List.map_cons,
      List.singleton_append]

/-- The calls deliver the texts of `list`, all of them and in order: each call the texts of one
part, between one and a hundred of them, with `OneQuery` for a last part of one text only. -/
structure Delivers (list : List CStringA) (calls : List MysqlCall) : Prop where
  text : (calls.map MysqlCall.Querystr).flatten = list.flatten
  parts : ∃ parts : List (List CStringA), parts.flatten = list ∧
    calls.map MysqlCall.Querystr = parts.map List.flatten ∧
    (∀ part ∈ parts, 1 ≤ part.length ∧ part.length ≤ UPDATEMAX) ∧
    ∀ k call part, calls[k]? = some call → parts[k]? = some part →
      (call.isOneQuery = true ↔ k + 1 = calls.length ∧ part.length = 1)

/-- **Every statement is sent once and in order**, when no call fails. -/
theorem updateTexts_delivers {ok : ℕ → Bool} (hok : ∀ k, ok k = true) {list : List CStringA}
    (hlist : ∀ st ∈ list, st ≠ []) :
    ∃ calls, (updateTexts (recorded ok) list).run [] = (.ok true, calls) ∧
      Delivers list calls := by
  have hparts := Batch.flatten_batches 99 list
  have htexts : ((Batch.batches 99 list).map callOf).map MysqlCall.Querystr =
      (Batch.batches 99 list).map List.flatten := by
    rw [List.map_map]
    exact List.map_congr_left fun part _ => callOf_Querystr part
  refine ⟨(Batch.batches 99 list).map callOf, ?_, ?_, Batch.batches 99 list, hparts, htexts,
    fun part hpart => Batch.length_of_mem_batches hpart, ?_⟩
  · rw [updateTexts_run _ hlist, inTurn_recorded hok, List.nil_append]
  · rw [htexts, ← List.flatten_flatten, hparts]
  · intro k call part hcall hpart
    rw [List.getElem?_map, hpart] at hcall
    cases hcall
    rw [callOf_isOneQuery, List.length_map]
    refine ⟨fun hone => ⟨?_, hone⟩, fun h => h.2⟩
    -- a batch of one is not followed by another
    by_contra hlast
    have hlt : k < (Batch.batches 99 list).length := (List.getElem?_eq_some_iff.1 hpart).1
    have hlen := Batch.length_of_not_last hpart (by omega)
    omega

/-- A hundred and one texts go in two calls. -/
theorem hundred_and_one_delivered :
    ∃ calls, (updateTexts (recorded fun _ => true) (List.replicate 101 [59])).run [] =
      (.ok true, calls) ∧ Delivers (List.replicate 101 [59]) calls :=
  updateTexts_delivers (fun _ => rfl) fun st hst => by
    rw [List.eq_of_mem_replicate hst]
    decide

/-! ## §3 Texts and statements -/

/-- A session that understands the texts of statements: `rc i` is the outcome of the statement
that is number `i` of those sent to it. -/
structure MysqlSession.Serves (db : MysqlSession (Server × ℕ)) (sqlText : MyStmt → CStringA)
    (rc : ℕ → Bool) : Prop where
  Query : ∀ sts ≠ [], ∀ s i, (db.Query (sts.map sqlText).flatten).run (s, i) =
    (.ok (rc i), (s.execAll (Batch.okPrefix rc i sts), i + sts.length))
  OneQuery : ∀ st s i, (db.OneQuery (sqlText st)).run (s, i) =
    (.ok (rc i), (s.execAll (Batch.okPrefix rc i [st]), i + 1))

section Serves

variable {db : MysqlSession (Server × ℕ)} {sqlText : MyStmt → CStringA} {rc : ℕ → Bool}

private theorem sendBatch_serves (hserves : db.Serves sqlText rc) {sts : List MyStmt}
    (hne : sts ≠ []) (s : Server) (i : ℕ) :
    (sendBatch db (sts.map sqlText)).run (s, i) =
      (.ok (rc i), (s.execAll (Batch.okPrefix rc i sts), i + sts.length)) := by
  rw [sendBatch, List.length_map]
  by_cases hone : sts.length = 1
  · obtain ⟨st, rfl⟩ := List.length_eq_one_iff.1 hone
    rw [if_pos hone, List.map_singleton, List.flatten_singleton]
    exact hserves.OneQuery st s i
  · rw [if_neg hone]
    exact hserves.Query sts hne s i

private theorem inTurn_serves (hserves : db.Serves sqlText rc) (list : List MyStmt) (s : Server)
    (i : ℕ) : ∃ m, (inTurn (sendBatch db) ((Batch.batches 99 list).map (List.map sqlText))).run
      (s, i) = (.ok (Batch.reported 99 rc i list),
        (s.execAll (Batch.served 99 rc i list), m)) := by
  fun_induction Batch.batches 99 list generalizing s i with
  | case1 =>
    refine ⟨i, ?_⟩
    rw [Batch.reported_nil, Batch.served_nil]
    rfl
  | case2 x xs ih =>
    have hne : x :: xs ≠ [] := List.cons_ne_nil x xs
    have htake : (x :: xs).take (99 + 1) ≠ [] := by simp
    have hsend := sendBatch_serves hserves htake s i
    rw [List.map_cons, inTurn, Batch.reported_of_ne_nil hne, Batch.served_of_ne_nil hne]
    cases hi : rc i with
    | false =>
      rw [hi] at hsend
      rw [Act.both_run_false hsend, if_neg (by decide), List.append_nil, Bool.false_and]
      exact ⟨_, rfl⟩
    | true =>
      rw [hi] at hsend
      rw [Act.both_run_true hsend, if_pos rfl, Bool.true_and, Server.execAll_append]
      -- a batch that is not the last is a full one
      rcases Nat.lt_or_ge 99 (x :: xs).length with hlong | hshort
      · have hlen : ((x :: xs).take (99 + 1)).length = 99 + 1 := by
          rw [List.length_take]
          omega
        rw [hlen]
        exact ih _ _
      · have hdrop : (x :: xs).drop (99 + 1) = [] := List.drop_of_length_le (by omega)
        rw [hdrop, Batch.reported_nil, Batch.served_nil, Batch.batches_nil]
        exact ⟨_, rfl⟩

/-- **The loop over the texts does what the loop over the statements does.** -/
theorem updateTexts_serves (hserves : db.Serves sqlText rc) (hne : ∀ st, sqlText st ≠ [])
    (list : List MyStmt) (s : Server) :
    ∃ ret s' m, (updateMysqlDB rc list).run s = (.ok ret, s') ∧
      (updateTexts db (list.map sqlText)).run (s, 0) = (.ok ret, (s', m)) := by
  have htexts : ∀ text ∈ list.map sqlText, text ≠ [] := by
    intro text htext
    obtain ⟨st, -, rfl⟩ := List.mem_map.1 htext
    exact hne st
  obtain ⟨m, hrun⟩ := inTurn_serves hserves list s 0
  refine ⟨_, _, m, updateMysqlDB_run rc list s, ?_⟩
  rw [updateTexts_run db htexts, Batch.batches_map, hrun]

end Serves

/-! ## §4 What is reported -/

/-- The positions of the statements executed, of a list of `len`. -/
def executedPositions (rc : ℕ → Bool) (len : ℕ) : List ℕ :=
  Batch.served 99 rc 0 (List.range len)

/-- The statements at these positions. -/
def atPositions (list : List MyStmt) (positions : List ℕ) : List MyStmt :=
  positions.filterMap fun j => list[j]?

/-- `UpdateMysqlDB` answers `TRUE` only if every statement was executed, and what was executed
when it answers `FALSE` is a prefix of the list. -/
def ReportsTruly (rc : ℕ → Bool) (list : List MyStmt) (s : Server) : Prop :=
  ∃ ret, (updateMysqlDB rc list).run s =
      (.ok ret, s.execAll (atPositions list (executedPositions rc list.length))) ∧
    (ret = true → executedPositions rc list.length = List.range list.length) ∧
    (ret = false → executedPositions rc list.length <+: List.range list.length)

/-- What is executed is what stands at the executed positions. -/
theorem served_eq_atPositions (rc : ℕ → Bool) (list : List MyStmt) :
    Batch.served 99 rc 0 list = atPositions list (executedPositions rc list.length) := by
  have hlist : list.map some = (List.range list.length).map fun j => list[j]? := by
    apply List.ext_getElem?
    intro j
    rw [List.getElem?_map, List.getElem?_map]
    rcases Nat.lt_or_ge j list.length with hlt | hge
    · rw [List.getElem?_range hlt, List.getElem?_eq_getElem hlt]
      simp [hlt]
    · have hrange : (List.range list.length)[j]? = none := by simpa using hge
      rw [List.getElem?_eq_none hge, hrange]
      rfl
  have hserved : (Batch.served 99 rc 0 list).map some =
      (executedPositions rc list.length).map fun j => list[j]? := by
    rw [← Batch.served_map, hlist, Batch.served_map, executedPositions]
  have hread := congrArg (List.filterMap id) hserved
  rw [List.filterMap_map, List.filterMap_map] at hread
  exact List.filterMap_some.symm.trans hread

/-- **What `UpdateMysqlDB` reports is true exactly when the first failing statement is the first
of its batch, or the next batch starts with a failing statement.** -/
theorem updateMysqlDB_reports_truly_iff (rc : ℕ → Bool) (list : List MyStmt) (s : Server) :
    ReportsTruly rc list s ↔ Batch.FailureSeen 99 rc 0 list.length := by
  have hrun := updateMysqlDB_run rc list s
  have hfaithful : Batch.Faithful 99 rc 0 (List.range list.length) ↔ _ :=
    Batch.faithful_iff List.nodup_range
  rw [List.length_range] at hfaithful
  -- the answer is the same for the positions as for the statements there
  have hreported : Batch.reported 99 rc 0 (List.range list.length) =
      Batch.reported 99 rc 0 list := by
    rw [Bool.eq_iff_iff, Batch.reported_iff, Batch.reported_iff, List.length_range]
  rw [← hfaithful, Batch.Faithful, hreported]
  constructor
  · rintro ⟨ret, hret, htrue, hfalse⟩
    rw [hrun] at hret
    obtain rfl : Batch.reported 99 rc 0 list = ret := by
      injection hret with hret
      injection hret
    exact ⟨htrue, hfalse⟩
  · intro h
    refine ⟨Batch.reported 99 rc 0 list, ?_, h.1, h.2⟩
    rw [hrun, served_eq_atPositions]

/-- Of two statements the second fails. -/
theorem second_failure_unreported :
    ¬ReportsTruly (fun i => i == 0) [.deleteSysUserReal, .deleteOrphanWorkType]
      ⟨MysqlDB.empty, []⟩ := by
  rintro ⟨ret, hrun, htrue, -⟩
  rw [updateMysqlDB_run] at hrun
  -- one batch, whose first statement succeeds
  have hreported : Batch.reported 99 (fun i => i == 0) 0
      [MyStmt.deleteSysUserReal, .deleteOrphanWorkType] = true := by
    rw [Batch.reported_iff]
    intro j hj hmod
    have hlt : j < 2 := hj
    have hj0 : j = 0 := by omega
    rw [hj0]
    rfl
  have hret : ret = true := by
    injection hrun with hrun
    injection hrun with hrun
    exact hrun.symm.trans hreported
  have hall : executedPositions (fun i => i == 0) 2 = List.range 2 := htrue hret
  -- but the second statement was not executed
  have hpositions : executedPositions (fun i => i == 0) 2 = [0] := by
    rw [executedPositions, Batch.served_of_ne_nil (by decide)]
    simp [List.range_succ, Batch.okPrefix, Batch.served_nil]
  rw [hpositions] at hall
  exact absurd hall (by decide)

end MtpSync
