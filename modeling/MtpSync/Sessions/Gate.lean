import MtpSync.Sessions.Watched

/-!
# The SQLite gate over sequences of routines

Runs of the table routines, in any order and with any answers of their calls, from the start of
the program on.

- §1 one routine, and a run of routines
- §2 what waits when the gate is taken
- §3 the gate is signalled in the end exactly when no answer did harm
-/

namespace MtpSync

namespace Sessions

open Prog

/-! ## §1 Runs -/

/-- One routine runs and returns, or ends in an exception. -/
def gateStep : Locks → Routine × Trace Call → Option Locks := Prog.step effect Routine.body

/-- The runs of the routines, with every answer of every call. -/
abbrev GateRun : Locks → List (Routine × Trace Call) → Locks → Prop :=
  Run gateStep fun _ _ => True

/-- No call of a routine gets an answer that loses the gate. -/
def Harmless (e : Routine × Trace Call) : Prop := ∀ a ∈ e.2, harms a = false

/-- One routine keeps the gate as it was, unless an answer did harm. -/
theorem gateStep_signalled {s t : Locks} {e : Routine × Trace Call}
    (h : gateStep s e = some t) :
    t.m_eventOpenDB = (s.m_eventOpenDB && !e.2.any harms) := by
  obtain ⟨⟨r, t'⟩, hrun, rfl⟩ := Option.map_eq_some_iff.1 h
  have hgate := (gated_routine e.1 (s, Flags.down)).of_run (run_watch hrun)
  obtain ⟨harm, hflag, ht⟩ := hgate.signalled
  rw [foldl_note] at hflag
  simp only [Flags.down, Bool.false_or] at hflag
  rw [hflag]
  exact ht

/-- A run of routines keeps the gate as it was, unless an answer did harm. -/
theorem GateRun.signalled {s t : Locks} {es : List (Routine × Trace Call)}
    (h : GateRun s es t) :
    t.m_eventOpenDB = (s.m_eventOpenDB && !es.any fun e => e.2.any harms) := by
  induction h with
  | nil => simp
  | cons _ hstep _ ih =>
    rw [ih, gateStep_signalled hstep, List.any_cons, Bool.not_or, Bool.and_assoc]

/-! ## §2 Waiting -/

/-- Nothing that opens the database comes back while the gate is taken. -/
theorem whenOpen_waits {s : Locks} {work : Prog Call (Option Bool)}
    (h : s.m_eventOpenDB = false) : (whenOpen work).wp effect (fun _ _ => False) s := by
  intro b t ht
  rw [effect, if_neg (by rw [h]; decide)] at ht
  cases ht

/-- A routine that opens the database as soon as the file is there waits for ever. -/
theorem gateStep_waits {s : Locks} {d : Found} {work : Prog Call (Option Bool)} {f : Routine}
    (h : s.m_eventOpenDB = false) (hfile : d.file = true)
    (hf : f.body = tried (ifFile d (whenOpen work))) (tr : Trace Call) :
    gateStep s (f, tr) = none := by
  have hwait : f.body.wp effect (fun _ _ => False) s := by
    rw [hf, ifFile, if_pos hfile]
    exact wp.tryCatch (whenOpen_waits h) (fun _ _ h => h) (fun _ h => h.elim)
  rcases hrun : f.body.run effect tr s with _ | ⟨r, t⟩
  · rw [gateStep, Prog.step, hrun, Option.map_none]
  · exact (hwait.of_run hrun).elim

/-! ## §3 The gate is given back -/

/-- **When the gate is given back.**  After any sequence of routines it is signalled exactly when
none of their calls got an answer that loses it: an exception of a MySQL call, of `sqlite3_open`
or of the `sqlite3_close` after a failed open, a failed second selection of
`Synchrodata_work_template`, a failed count of `Synchrodata_clear_record`. -/
theorem signalled_iff {es : List (Routine × Trace Call)} {s : Locks}
    (hrun : GateRun Locks.initial es s) :
    s.m_eventOpenDB = true ↔ ∀ e ∈ es, Harmless e := by
  rw [hrun.signalled]
  simp only [Locks.initial, Bool.true_and, Bool.not_eq_true', List.any_eq_false, Harmless,
    Bool.not_eq_true]

/-- The file is there, and the server has no rows. -/
def Found.empty : Found := ⟨true, 0, 0, 0, 0, 0⟩

/-- Opening the database, a selection, and then `rest`. -/
def openedTrace (t : Table) (rest : Trace Call) : Trace Call :=
  (.waitForSingleObject, some true) :: (.sqlite3_open, some true) ::
    (.select (.news t), some true) :: rest

/-- Types are copied without trouble. -/
def typesCopied : Routine × Trace Call :=
  (.Synchrodata_work_type .tongbu_to_phone Found.empty,
    openedTrace .work_type [(.select (.deleted .work_type), some true), (.setEvent, some true),
      (.sqlite3_close, some true)])

/-- A healthy run is harmless, and gives the gate back. -/
theorem typesCopied_harmless :
    GateRun Locks.initial [typesCopied] Locks.initial ∧ Harmless typesCopied := by
  have hrun : GateRun Locks.initial [typesCopied] Locks.initial := Run.of_eval rfl rfl
  exact ⟨hrun, (signalled_iff hrun).1 rfl typesCopied List.mem_cons_self⟩

/-- The second selection of the templates fails. -/
def templatesRejected : Routine × Trace Call :=
  (.Synchrodata_work_template .tongbu_to_phone Found.empty,
    openedTrace .work_template [(.select (.deleted .work_template), some false)])

/-- After it the gate is taken, and the types of the same sync wait for ever. -/
theorem gate_lost : ∃ s, GateRun Locks.initial [templatesRejected] s ∧ s.m_eventOpenDB = false ∧
    ∀ tr, gateStep s (.Synchrodata_work_type .tongbu_to_phone Found.empty, tr) = none :=
  ⟨⟨false, 0, 0⟩, Run.of_eval rfl rfl, rfl, gateStep_waits rfl rfl rfl⟩

end Sessions

end MtpSync
