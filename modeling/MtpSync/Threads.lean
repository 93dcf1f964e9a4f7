import MtpSync.Lib.Run
import MtpSync.World
import Mathlib.Data.List.Basic

/-!
# The threads

The user interface thread and the workers it starts: `MyControllingFunction` for a sync,
`BeginClearThread` and `BeginRebackThread` for clear and rollback.  They share the members
`m_tongbu_dir`, `m_radioChoose`, `m_threadFlag` and the state of two buttons, and every read and
write of these is a step of its own.

- §1 the dialog and the workers
- §2 the steps of a sync worker
- §3 the steps of the system
- §4 when a sync run has one direction and one mode
- §5 when the flag tells whether a sync worker runs

What the workers do to databases and phones is modelled elsewhere; here a call is only the
direction it is passed and the mode it is made for.  `AfxBeginThread` may fail.
-/

namespace MtpSync

/-! ## §1 The dialog and the workers -/

/-- The table routines. -/
inductive Routine where
  | sys_user | areas | device_info | work_template | work_type | work_task | work_record
  deriving DecidableEq

/-- A step of `MyControllingFunction` and of the `BeginSwitchData` it calls. -/
inductive Instr where
  /-- `if (m_radioChoose == …) strText = …` -/
  | readText (m : RadioChoose)
  /-- `if (m_tongbu_dir == …) strTitle = …` -/
  | readTitle (d : TongbuDir)
  | confirm
  | beginPhoneToPc
  /-- `BeginSwitchData`, up to its first test of the mode -/
  | init
  /-- `if (… == m_radioChoose)` in `BeginSwitchData` -/
  | test (m : RadioChoose)
  /-- a table routine called in the block of mode `m` -/
  | call (m : RadioChoose) (r : Routine)
  /-- `BeginSwitchData` returns -/
  | switched
  | beginPcToPhone
  /-- `m_threadFlag = FALSE` -/
  | clearFlag
  | enableTophone
  | enableZdtopc
  /-- `if (m_radioChoose == radio_user) m_button_zdtopc.EnableWindow(FALSE)` -/
  | disableForUser
  deriving DecidableEq

/-- The end of `MyControllingFunction`. -/
def finish : List Instr := [.clearFlag, .enableTophone, .enableZdtopc, .disableForUser]

/-- `MyControllingFunction`. -/
def myControllingSteps : List Instr :=
  [.readText .radio_work, .readText .radio_user, .readText .radio_devices,
    .readTitle .tongbu_to_phone, .readTitle .tongbu_to_pc, .confirm, .beginPhoneToPc, .init,
    .test .radio_user, .test .radio_devices, .test .radio_work, .switched, .beginPcToPhone] ++
    finish

/-- A table routine called: in the block of which mode and with which direction. -/
structure Call where
  mode : RadioChoose
  dir : TongbuDir
  deriving DecidableEq

/-- A sync worker: what is left to do and what it has shown and called. -/
structure SyncWorker where
  rest : List Instr
  strText : Option RadioChoose
  strTitle : Option TongbuDir
  calls : List Call
  /-- the mode and the direction when the worker was started -/
  startMode : RadioChoose
  startDir : TongbuDir
  deriving DecidableEq

/-- Where the user interface thread is in a sync button's handler. -/
inductive UiPc where
  | idle
  /-- `m_tongbu_dir` is written and the other button disabled; `m_threadFlag` comes next -/
  | testing
  /-- `AfxBeginThread` has been called; `m_threadFlag = TRUE` comes next -/
  | storing
  deriving DecidableEq

/-- The shared members and the threads. -/
structure Threads where
  m_tongbu_dir : TongbuDir
  m_radioChoose : RadioChoose
  m_threadFlag : Bool
  /-- whether `m_bt_tophone` is enabled -/
  m_bt_tophone : Bool
  /-- whether `m_button_zdtopc` is enabled -/
  m_button_zdtopc : Bool
  ui : UiPc
  sync : List SyncWorker
  /-- how many clear workers run -/
  clear : ℕ
  /-- how many rollback workers run -/
  reback : ℕ
  deriving DecidableEq

/-! ## §2 The steps of a sync worker -/

/-- What a step of a worker meets. -/
structure Meets where
  /-- what the call returns, or the user answers -/
  ok : Bool
  /-- a device is selected, not an area -/
  device : Bool
  /-- the chunks the selection splits into -/
  chunks : ℕ
  deriving DecidableEq

/-- The calls of a block of `BeginSwitchData`; `none`: it returns `FALSE`. -/
def blockCalls (m : RadioChoose) (c : Meets) : Option (List Instr) :=
  match m with
  | .radio_user =>
    if c.device then none else some (List.replicate c.chunks (.call .radio_user .sys_user))
  | .radio_devices =>
    some (.call .radio_devices .areas ::
      List.replicate c.chunks (.call .radio_devices .device_info))
  | .radio_work =>
    some (List.replicate c.chunks
      [.call .radio_work .work_template, .call .radio_work .work_type,
        .call .radio_work .work_task, .call .radio_work .work_record]).flatten

/-- Where a step leads: `rest` comes next if nothing else does. -/
def Instr.next (c : Meets) (m_radioChoose : RadioChoose) (rest : List Instr) :
    Instr → List Instr
  -- cancelled, `m_button_zdtopc` is enabled whatever the mode
  | .confirm => if c.ok then rest else [.clearFlag, .enableTophone, .enableZdtopc]
  | .beginPhoneToPc | .init | .switched => if c.ok then rest else finish
  | .test m =>
    if m_radioChoose = m then
      match blockCalls m c with
      | some calls => calls ++ rest
      | none => finish
    else rest
  | _ => rest

/-- What a step does to the shared members. -/
def Threads.exec (s : Threads) : Instr → Threads
  | .clearFlag => { s with m_threadFlag := false }
  | .enableTophone => { s with m_bt_tophone := true }
  | .enableZdtopc => { s with m_button_zdtopc := true }
  | .disableForUser =>
    if s.m_radioChoose = .radio_user then { s with m_button_zdtopc := false } else s
  | _ => s

/-- What a step does in the worker. -/
def SyncWorker.exec (s : Threads) (w : SyncWorker) : Instr → SyncWorker
  | .readText m => if s.m_radioChoose = m then { w with strText := some m } else w
  | .readTitle d => if s.m_tongbu_dir = d then { w with strTitle := some d } else w
  | .call m _ => { w with calls := w.calls ++ [⟨m, s.m_tongbu_dir⟩] }
  | _ => w

/-- One step of worker `w`, with the shared members it leaves. -/
def SyncWorker.step (c : Meets) (s : Threads) (w : SyncWorker) : Option (Threads × SyncWorker) :=
  match w.rest with
  | [] => none
  | i :: rest => some (s.exec i, { w.exec s i with rest := i.next c s.m_radioChoose rest })

/-- The worker has something to do before it clears the flag. -/
def SyncWorker.live (w : SyncWorker) : Bool := .clearFlag ∈ w.rest

/-! ## §3 The steps of the system -/

inductive Event where
  /-- a radio button is clicked -/
  | radio (m : RadioChoose)
  /-- the sync button of direction `d` is clicked, with something selected in the tree -/
  | click (d : TongbuDir)
  /-- the handler tests the flag and starts a worker; `started`: `AfxBeginThread` succeeds -/
  | test (started : Bool)
  /-- the handler sets the flag -/
  | store
  /-- the worker at position `i` takes a step -/
  | sync (i : ℕ) (c : Meets)
  /-- the clear button is clicked and confirmed, and its worker starts -/
  | beginClear
  | endClear
  /-- the rollback button is clicked and confirmed, and its worker starts -/
  | beginReback
  | endReback
  deriving DecidableEq

/-- `OnBnClickedBtTophone` and `OnBnClickedButtonZdtopc`, up to the test of the flag. -/
def Threads.click (d : TongbuDir) (s : Threads) : Option Threads :=
  match d with
  | .tongbu_to_phone =>
    if s.m_bt_tophone then
      some { s with m_tongbu_dir := d, m_button_zdtopc := false, ui := .testing }
    else none
  | .tongbu_to_pc =>
    if s.m_button_zdtopc then
      some { s with m_tongbu_dir := d, m_bt_tophone := false, ui := .testing }
    else none

/-- The worker `AfxBeginThread` creates. -/
def Threads.newWorker (s : Threads) : SyncWorker :=
  ⟨myControllingSteps, none, none, [], s.m_radioChoose, s.m_tongbu_dir⟩

/-- One step of the system.  The user interface thread handles one click at a time. -/
def Threads.step (s : Threads) (e : Event) : Option Threads :=
  match e with
  | .radio m =>
    if s.ui = .idle then
      some { s with
        m_radioChoose := m
        m_button_zdtopc := decide (m ≠ .radio_user) }
    else none
  | .click d => if s.ui = .idle then s.click d else none
  | .test started =>
    if s.ui = .testing then
      if s.m_threadFlag then some { s with ui := .idle }
      else some { s with
        ui := .storing
        sync := if started then s.sync ++ [s.newWorker] else s.sync }
    else none
  | .store =>
    if s.ui = .storing then some { s with m_threadFlag := true, ui := .idle } else none
  | .sync i c =>
    match s.sync[i]? with
    | some w => (w.step c s).map fun (s', w') => { s' with sync := s'.sync.set i w' }
    | none => none
  | .beginClear => if s.ui = .idle then some { s with clear := s.clear + 1 } else none
  | .endClear => if 0 < s.clear then some { s with clear := s.clear - 1 } else none
  | .beginReback => if s.ui = .idle then some { s with reback := s.reback + 1 } else none
  | .endReback => if 0 < s.reback then some { s with reback := s.reback - 1 } else none

/-! ### What is left to do, at every point of a worker -/

/-- Where in `MyControllingFunction` a step stands. -/
def Instr.rank : Instr → ℕ
  | .readText _ | .readTitle _ => 0
  | .confirm => 1
  | .beginPhoneToPc => 2
  | .init => 3
  | .test _ | .call _ _ => 4
  | .switched => 5
  | .beginPcToPhone => 6
  | .clearFlag => 7
  | .enableTophone | .enableZdtopc | .disableForUser => 8

/-- Order of the steps; the flag is cleared once. -/
def Instr.Before (i j : Instr) : Prop := i.rank ≤ j.rank ∧ (i = .clearFlag → j ≠ .clearFlag)

instance (i j : Instr) : Decidable (i.Before j) :=
  inferInstanceAs (Decidable (_ ∧ _))

/-- What is left to a worker, at any point. -/
structure Shape (l : List Instr) : Prop where
  ordered : l.Pairwise Instr.Before
  clears : ∀ i ∈ l, i.rank < 7 → .clearFlag ∈ l

theorem Shape.tail {i : Instr} {l : List Instr} (h : Shape (i :: l)) : Shape l := by
  obtain ⟨hbefore, hordered⟩ := List.pairwise_cons.1 h.ordered
  refine ⟨hordered, ?_⟩
  intro j hj hrank
  rcases List.mem_cons.1 (h.clears j (List.mem_cons_of_mem i hj) hrank) with rfl | hmem
  · have hle := (hbefore j hj).1
    exact absurd (Nat.lt_of_le_of_lt hle hrank) (Nat.lt_irrefl 7)
  · exact hmem

theorem Shape.myControllingSteps : Shape myControllingSteps where
  ordered := by decide
  clears _ _ _ := by decide

theorem Shape.finish : Shape finish where
  ordered := by decide
  clears _ _ _ := by decide

theorem Shape.cancelled : Shape [.clearFlag, .enableTophone, .enableZdtopc] where
  ordered := by decide
  clears _ _ _ := by decide

/-- A block calls table routines for its own mode only. -/
theorem blockCalls_mode {m : RadioChoose} {c : Meets} {calls : List Instr}
    (h : blockCalls m c = some calls) : ∀ i ∈ calls, ∃ r, i = .call m r := by
  intro i hi
  -- each block calls routines of its own mode only
  cases m with
  | radio_user =>
    rw [blockCalls] at h
    split at h
    · cases h
    · cases h
      exact ⟨_, List.eq_of_mem_replicate hi⟩
  | radio_devices =>
    cases h
    rcases List.mem_cons.1 hi with rfl | hi
    · exact ⟨_, rfl⟩
    · exact ⟨_, List.eq_of_mem_replicate hi⟩
  | radio_work =>
    cases h
    obtain ⟨l, hl, hi⟩ := List.mem_flatten.1 hi
    rw [List.eq_of_mem_replicate hl] at hi
    simp only [List.mem_cons, List.not_mem_nil, or_false] at hi
    rcases hi with rfl | rfl | rfl | rfl
    · exact ⟨_, rfl⟩
    · exact ⟨_, rfl⟩
    · exact ⟨_, rfl⟩
    · exact ⟨_, rfl⟩

theorem Shape.block {m : RadioChoose} {c : Meets} {calls l : List Instr}
    (hcalls : blockCalls m c = some calls) (h : Shape (.test m :: l)) : Shape (calls ++ l) := by
  have hmode := blockCalls_mode hcalls
  obtain ⟨hbefore, hordered⟩ := List.pairwise_cons.1 h.ordered
  refine ⟨List.pairwise_append.2 ⟨?_, hordered, ?_⟩, ?_⟩
  · refine List.pairwise_of_forall_mem_list fun i hi j hj => ?_
    obtain ⟨r, rfl⟩ := hmode i hi
    obtain ⟨r', rfl⟩ := hmode j hj
    exact ⟨Nat.le_refl 4, fun h => by cases h⟩
  · intro i hi j hj
    obtain ⟨r, rfl⟩ := hmode i hi
    exact ⟨(hbefore j hj).1, fun h => by cases h⟩
  · intro i _ _
    rcases List.mem_cons.1 (h.clears _ List.mem_cons_self (show 4 < 7 by decide)) with hmem | hmem
    · cases hmem
    · exact List.mem_append_right calls hmem

theorem Shape.next {i : Instr} {rest : List Instr} (c : Meets) (m : RadioChoose)
    (h : Shape (i :: rest)) : Shape (i.next c m rest) := by
  cases i with
  | confirm =>
    rw [Instr.next]
    split
    · exact h.tail
    · exact Shape.cancelled
  | test m' =>
    rw [Instr.next]
    split
    · split
      · next hcalls => exact h.block hcalls
      · exact Shape.finish
    · exact h.tail
  | beginPhoneToPc | init | switched =>
    rw [Instr.next]
    split
    · exact h.tail
    · exact Shape.finish
  | _ => exact h.tail

/-- Only clearing the flag ends the part before it. -/
theorem Shape.mem_next_iff {i : Instr} {rest : List Instr} (c : Meets) (m : RadioChoose)
    (h : Shape (i :: rest)) :
    .clearFlag ∈ i.next c m rest ↔ .clearFlag ∈ i :: rest ∧ i ≠ .clearFlag := by
  -- before the clear of the flag the clear is still to come
  have hrest : i.rank < 7 → .clearFlag ∈ rest := by
    intro hrank
    rcases List.mem_cons.1 (h.clears i List.mem_cons_self hrank) with rfl | hmem
    · exact absurd hrank (Nat.lt_irrefl 7)
    · exact hmem
  -- from it on the steps run one after the other
  have hlate : ∀ (hle : 7 ≤ i.rank), i.next c m rest = rest := by
    intro hle
    cases i with
    | clearFlag | enableTophone | enableZdtopc | disableForUser => rfl
    | _ => simp [Instr.rank] at hle
  by_cases hrank : i.rank < 7
  · have hne : i ≠ .clearFlag := by
      rintro rfl
      exact Nat.lt_irrefl 7 hrank
    refine ⟨fun _ => ⟨List.mem_cons_of_mem i (hrest hrank), hne⟩, fun _ => ?_⟩
    have hmem := hrest hrank
    cases i with
    | confirm | beginPhoneToPc | init | switched =>
      rw [Instr.next]
      split
      · exact hmem
      · decide
    | test m' =>
      rw [Instr.next]
      split
      · split
        · exact List.mem_append_right _ hmem
        · decide
      · exact hmem
    | _ => exact hmem
  · rw [hlate (Nat.le_of_not_lt hrank)]
    constructor
    · intro hmem
      refine ⟨List.mem_cons_of_mem i hmem, ?_⟩
      rintro rfl
      exact ((List.pairwise_cons.1 h.ordered).1 _ hmem).2 rfl rfl
    · rintro ⟨hmem, hne⟩
      rcases List.mem_cons.1 hmem with heq | hmem
      · exact absurd heq.symm hne
      · exact hmem

section Exec

variable (s : Threads) (w : SyncWorker) (i : Instr)

@[simp] theorem Threads.exec_m_radioChoose : (s.exec i).m_radioChoose = s.m_radioChoose := by
  cases i <;> simp [Threads.exec, apply_ite Threads.m_radioChoose]

@[simp] theorem Threads.exec_m_tongbu_dir : (s.exec i).m_tongbu_dir = s.m_tongbu_dir := by
  cases i <;> simp [Threads.exec, apply_ite Threads.m_tongbu_dir]

@[simp] theorem Threads.exec_ui : (s.exec i).ui = s.ui := by
  cases i <;> simp [Threads.exec, apply_ite Threads.ui]

@[simp] theorem Threads.exec_sync : (s.exec i).sync = s.sync := by
  cases i <;> simp [Threads.exec, apply_ite Threads.sync]

@[simp] theorem Threads.exec_clear : (s.exec i).clear = s.clear := by
  cases i <;> simp [Threads.exec, apply_ite Threads.clear]

@[simp] theorem Threads.exec_reback : (s.exec i).reback = s.reback := by
  cases i <;> simp [Threads.exec, apply_ite Threads.reback]

theorem Threads.exec_m_threadFlag :
    (s.exec i).m_threadFlag = if i = .clearFlag then false else s.m_threadFlag := by
  cases i <;> simp [Threads.exec, apply_ite Threads.m_threadFlag]

@[simp] theorem SyncWorker.exec_startMode : (w.exec s i).startMode = w.startMode := by
  cases i <;> simp [SyncWorker.exec, apply_ite SyncWorker.startMode]

@[simp] theorem SyncWorker.exec_startDir : (w.exec s i).startDir = w.startDir := by
  cases i <;> simp [SyncWorker.exec, apply_ite SyncWorker.startDir]

theorem SyncWorker.exec_strText : (w.exec s i).strText =
    if i = .readText s.m_radioChoose then some s.m_radioChoose else w.strText := by
  cases i with
  | readText m =>
    simp only [SyncWorker.exec, Instr.readText.injEq, eq_comm (a := m)]
    split
    · next hm => rw [hm]
    · rfl
  | _ => simp [SyncWorker.exec, apply_ite SyncWorker.strText]

theorem SyncWorker.exec_strTitle : (w.exec s i).strTitle =
    if i = .readTitle s.m_tongbu_dir then some s.m_tongbu_dir else w.strTitle := by
  cases i with
  | readTitle d =>
    simp only [SyncWorker.exec, Instr.readTitle.injEq, eq_comm (a := d)]
    split
    · next hd => rw [hd]
    · rfl
  | _ => simp [SyncWorker.exec, apply_ite SyncWorker.strTitle]

theorem SyncWorker.mem_exec_calls {c : Call} (h : c ∈ (w.exec s i).calls) :
    c ∈ w.calls ∨ ∃ m r, i = .call m r ∧ c = ⟨m, s.m_tongbu_dir⟩ := by
  cases i with
  | call m r =>
    rcases List.mem_append.1 h with h | h
    · exact .inl h
    · exact .inr ⟨m, r, rfl, List.mem_singleton.1 h⟩
  | readText | readTitle =>
    simp only [SyncWorker.exec, apply_ite SyncWorker.calls, ite_self] at h
    exact .inl h
  | _ => exact .inl h

end Exec

/-- A step of the worker at position `i`. -/
theorem Threads.step_sync {s s' : Threads} {i : ℕ} {c : Meets}
    (h : s.step (.sync i c) = some s') :
    ∃ v t v', s.sync[i]? = some v ∧ v.step c s = some (t, v') ∧
      s' = { t with sync := t.sync.set i v' } := by
  rw [Threads.step] at h
  cases hi : s.sync[i]? with
  | none => rw [hi] at h; cases h
  | some v =>
    rw [hi] at h
    obtain ⟨⟨t, v'⟩, hv, heq⟩ := Option.map_eq_some_iff.1 h
    exact ⟨v, t, v', rfl, hv, heq.symm⟩

/-! ## §4 One direction and one mode -/

/-- Every call of the run was made in the mode and with the direction the run was started with,
and the confirmation dialog had shown both. -/
def SyncWorker.OneChoice (w : SyncWorker) : Prop :=
  ∀ c ∈ w.calls, c = ⟨w.startMode, w.startDir⟩ ∧
    w.strText = some w.startMode ∧ w.strTitle = some w.startDir

/-- A sync worker is at work. -/
def Threads.busy (s : Threads) : Bool := s.sync.any SyncWorker.live

/-- While a sync worker is at work, no click changes the mode or the direction. -/
def Threads.KeepsChoice (s : Threads) : Event → Prop
  | .radio m => s.busy = true → m = s.m_radioChoose
  | .click d => s.busy = true → d = s.m_tongbu_dir
  | _ => True

instance (s : Threads) : ∀ e, Decidable (s.KeepsChoice e)
  | .radio m => inferInstanceAs (Decidable (s.busy = true → m = s.m_radioChoose))
  | .click d => inferInstanceAs (Decidable (s.busy = true → d = s.m_tongbu_dir))
  | .test _ | .store | .sync _ _ | .beginClear | .endClear | .beginReback | .endReback =>
    inferInstanceAs (Decidable True)

/-- What holds of a worker while nobody changes the choice. -/
structure SyncWorker.Chosen (s : Threads) (w : SyncWorker) : Prop where
  shape : Shape w.rest
  oneChoice : w.OneChoice
  inForce : w.live = true → s.m_radioChoose = w.startMode ∧ s.m_tongbu_dir = w.startDir
  mode : ∀ m r, .call m r ∈ w.rest → m = w.startMode
  text : .readText w.startMode ∈ w.rest ∨ w.strText = some w.startMode
  title : .readTitle w.startDir ∈ w.rest ∨ w.strTitle = some w.startDir

/-- A call comes from what was left, or from the block of the mode in force. -/
private theorem mem_next_call {c : Meets} {m m' : RadioChoose} {r : Routine} {i : Instr}
    {rest : List Instr} (h : .call m' r ∈ i.next c m rest) :
    .call m' r ∈ rest ∨ i.rank < 7 ∧ m' = m := by
  -- only a test of the mode adds calls, those of the mode it has read
  cases i with
  | confirm | beginPhoneToPc | init | switched =>
    rw [Instr.next] at h
    split at h
    · exact .inl h
    · simp [finish] at h
  | test m'' =>
    rw [Instr.next] at h
    split at h
    · next hm =>
      split at h
      · next calls hcalls =>
        rcases List.mem_append.1 h with h | h
        · obtain ⟨r', hr'⟩ := blockCalls_mode hcalls _ h
          cases hr'
          exact .inr ⟨show 4 < 7 by decide, hm.symm⟩
        · exact .inl h
      · simp [finish] at h
    · exact .inl h
  | _ => exact .inl h

/-- Texts are read before anything else, so nothing skips a text still to be read. -/
private theorem mem_next_of_rank_zero {c : Meets} {m : RadioChoose} {i j : Instr}
    {rest : List Instr} (h : Shape (i :: rest)) (hj : j.rank = 0) (hmem : j ∈ rest) :
    j ∈ i.next c m rest := by
  have hzero : i.rank = 0 := by
    have hle := ((List.pairwise_cons.1 h.ordered).1 j hmem).1
    omega
  cases i with
  | readText | readTitle => exact hmem
  | _ => simp [Instr.rank] at hzero

/-- **One step of a worker** keeps it with its choice. -/
theorem SyncWorker.Chosen.step {c : Meets} {s s' : Threads} {w w' : SyncWorker}
    (h : w.Chosen s) (hstep : w.step c s = some (s', w')) : w'.Chosen s' := by
  rw [SyncWorker.step] at hstep
  cases hrest : w.rest with
  | nil => rw [hrest] at hstep; cases hstep
  | cons i rest =>
    rw [hrest] at hstep
    cases hstep
    have hshape := hrest ▸ h.shape
    have hlive : i.rank < 7 → w.live = true := by
      intro hrank
      rw [SyncWorker.live, hrest]
      exact decide_eq_true (hshape.clears i List.mem_cons_self hrank)
    have htext := hrest ▸ h.text
    have htitle := hrest ▸ h.title
    have hmode := hrest ▸ h.mode
    -- what was shown stays shown
    have hshown : w.strText = some w.startMode → (w.exec s i).strText = some w.startMode := by
      intro hsome
      rw [SyncWorker.exec_strText]
      split
      · next hi =>
        rw [(h.inForce (hlive (by rw [hi]; exact Nat.succ_pos 6))).1]
      · exact hsome
    have hshown' : w.strTitle = some w.startDir → (w.exec s i).strTitle = some w.startDir := by
      intro hsome
      rw [SyncWorker.exec_strTitle]
      split
      · next hi =>
        rw [(h.inForce (hlive (by rw [hi]; exact Nat.succ_pos 6))).2]
      · exact hsome
    refine ⟨hshape.next c _, ?_, ?_, ?_, ?_, ?_⟩
    · intro call hcall
      simp only [SyncWorker.exec_startMode, SyncWorker.exec_startDir]
      rcases SyncWorker.mem_exec_calls s w i hcall with hcall | ⟨m, r, rfl, rfl⟩
      · obtain ⟨heq, hsome, hsome'⟩ := h.oneChoice call hcall
        exact ⟨heq, hshown hsome, hshown' hsome'⟩
      · obtain ⟨hm, hd⟩ := h.inForce (hlive (show 4 < 7 by decide))
        have hbefore := (List.pairwise_cons.1 hshape.ordered).1
        refine ⟨by rw [hmode m r List.mem_cons_self, hd], hshown ?_, hshown' ?_⟩
        · rcases htext with htext | htext
          · rcases List.mem_cons.1 htext with heq | hmem
            · cases heq
            · exact absurd (hbefore _ hmem).1 (by simp [Instr.rank])
          · exact htext
        · rcases htitle with htitle | htitle
          · rcases List.mem_cons.1 htitle with heq | hmem
            · cases heq
            · exact absurd (hbefore _ hmem).1 (by simp [Instr.rank])
          · exact htitle
    · intro hlive'
      have hmem := (hshape.mem_next_iff c s.m_radioChoose).1 (of_decide_eq_true hlive')
      have hw : w.live = true := by
        rw [SyncWorker.live, hrest]
        exact decide_eq_true hmem.1
      simpa using h.inForce hw
    · intro m r hr
      rw [SyncWorker.exec_startMode]
      rcases mem_next_call hr with hr | ⟨hrank, hm⟩
      · exact hmode m r (List.mem_cons_of_mem i hr)
      · rw [hm, (h.inForce (hlive hrank)).1]
    · simp only [SyncWorker.exec_startMode]
      rcases htext with htext | htext
      · rcases List.mem_cons.1 htext with heq | hmem
        · right
          rw [SyncWorker.exec_strText, ← heq,
            (h.inForce (hlive (by rw [← heq]; exact Nat.succ_pos 6))).1, if_pos rfl]
        · exact .inl (mem_next_of_rank_zero hshape rfl hmem)
      · exact .inr (hshown htext)
    · simp only [SyncWorker.exec_startDir]
      rcases htitle with htitle | htitle
      · rcases List.mem_cons.1 htitle with heq | hmem
        · right
          rw [SyncWorker.exec_strTitle, ← heq,
            (h.inForce (hlive (by rw [← heq]; exact Nat.succ_pos 6))).2, if_pos rfl]
        · exact .inl (mem_next_of_rank_zero hshape rfl hmem)
      · exact .inr (hshown' htitle)

/-- Only the mode and the direction matter to a worker's choice. -/
theorem SyncWorker.Chosen.congr {s s' : Threads} {w : SyncWorker} (h : w.Chosen s)
    (hforce : w.live = true →
      s'.m_radioChoose = s.m_radioChoose ∧ s'.m_tongbu_dir = s.m_tongbu_dir) : w.Chosen s' := by
  refine ⟨h.shape, h.oneChoice, fun hlive => ?_, h.mode, h.text, h.title⟩
  obtain ⟨hm, hd⟩ := hforce hlive
  rw [hm, hd]
  exact h.inForce hlive

/-- A worker just created has nothing to answer for yet. -/
theorem Threads.newWorker_chosen (s : Threads) : s.newWorker.Chosen s where
  shape := Shape.myControllingSteps
  oneChoice := fun _ hc => by cases hc
  inForce _ := ⟨rfl, rfl⟩
  mode m r h := by simp [Threads.newWorker, MtpSync.myControllingSteps, finish] at h
  text := .inl (by cases h : s.m_radioChoose <;> simp [Threads.newWorker, h] <;> decide)
  title := .inl (by cases h : s.m_tongbu_dir <;> simp [Threads.newWorker, h] <;> decide)

/-- A worker at work makes the system busy. -/
theorem Threads.busy_of_live {s : Threads} {w : SyncWorker} (hw : w ∈ s.sync)
    (hlive : w.live = true) : s.busy = true :=
  List.any_eq_true.2 ⟨w, hw, hlive⟩

/-- **One step of the system** that keeps the choice keeps every worker with its choice. -/
theorem Threads.chosen_step {s s' : Threads} {e : Event} (h : ∀ w ∈ s.sync, w.Chosen s)
    (hok : s.KeepsChoice e) (hstep : s.step e = some s') : ∀ w ∈ s'.sync, w.Chosen s' := by
  intro w hw
  -- what the choice is read from changes by a radio button or a click only
  cases e with
  | radio m =>
    rw [Threads.step] at hstep
    split at hstep
    · cases hstep
      exact (h w hw).congr fun hlive => ⟨hok (busy_of_live hw hlive), rfl⟩
    · cases hstep
  | click d =>
    rw [Threads.step] at hstep
    split at hstep
    · cases d with
      | tongbu_to_phone | tongbu_to_pc =>
        rw [Threads.click] at hstep
        split at hstep
        · cases hstep
          exact (h w hw).congr fun hlive => ⟨rfl, hok (busy_of_live hw hlive)⟩
        · cases hstep
    · cases hstep
  | test started =>
    rw [Threads.step] at hstep
    split at hstep
    · split at hstep
      · cases hstep
        exact (h w hw).congr fun _ => ⟨rfl, rfl⟩
      · cases hstep
        cases started with
        | true =>
          -- the new worker has chosen nothing yet
          rcases List.mem_append.1 hw with hw | hw
          · exact (h w hw).congr fun _ => ⟨rfl, rfl⟩
          · rw [List.mem_singleton.1 hw]
            exact s.newWorker_chosen.congr fun _ => ⟨rfl, rfl⟩
        | false => exact (h w hw).congr fun _ => ⟨rfl, rfl⟩
    · cases hstep
  | sync i c =>
    obtain ⟨v, t, v', hi, hv, rfl⟩ := Threads.step_sync hstep
    have hforce : t.m_radioChoose = s.m_radioChoose ∧ t.m_tongbu_dir = s.m_tongbu_dir ∧
        t.sync = s.sync := by
      rw [SyncWorker.step] at hv
      split at hv
      · cases hv
      · cases hv
        simp
    obtain ⟨hm, hd, hs⟩ := hforce
    dsimp only at hw ⊢
    rw [hs] at hw
    rcases List.mem_or_eq_of_mem_set hw with hw | rfl
    · exact (h w hw).congr fun _ => ⟨hm, hd⟩
    · exact ((h v (List.mem_of_getElem? hi)).step hv).congr fun _ => ⟨rfl, rfl⟩
  | store | beginClear | endClear | beginReback | endReback =>
    rw [Threads.step] at hstep
    split at hstep
    · cases hstep
      exact (h w hw).congr fun _ => ⟨rfl, rfl⟩
    · cases hstep

/-- **One direction, one mode.**  In a run in which no click changes the mode or the direction
while a sync worker is at work, every table routine of every sync run is called in the mode and
with the direction the run was started with and confirmed for. -/
theorem sync_keeps_choice {s s' : Threads} {es : List Event} (hinit : s.sync = [])
    (hrun : Run Threads.step Threads.KeepsChoice s es s') : ∀ w ∈ s'.sync, w.OneChoice := by
  have hchosen : ∀ w ∈ s'.sync, w.Chosen s' := by
    refine Run.invariant (I := fun s => ∀ w ∈ s.sync, w.Chosen s) ?_ hrun ?_
    · intro t e t' h hok hstep
      exact Threads.chosen_step h hok hstep
    · intro w hw
      rw [hinit] at hw
      cases hw
  intro w hw
  exact (hchosen w hw).oneChoice

/-- The dialog as it opens, with the devices to be synchronised. -/
def Threads.idle : Threads :=
  ⟨.tongbu_to_phone, .radio_devices, false, true, true, .idle, [], 0, 0⟩

/-- The next steps of the first worker, every call of which succeeds. -/
def firstWorker (n : ℕ) : List Event := List.replicate n (.sync 0 ⟨true, false, 1⟩)

/-- A sync of the devices to the phone, to its end. -/
def devicesToPhone : List Event :=
  [.click .tongbu_to_phone, .test true, .store] ++ firstWorker 19

theorem devicesToPhone_keeps_choice :
    ∃ s, Run.eval Threads.step Threads.idle devicesToPhone = some s ∧
      (∃ w ∈ s.sync, w.calls.length = 2) ∧ ∀ w ∈ s.sync, w.OneChoice := by
  obtain ⟨s, hs⟩ : ∃ s, Run.eval Threads.step Threads.idle devicesToPhone = some s :=
    Option.isSome_iff_exists.1 (by decide)
  refine ⟨s, hs, ?_, sync_keeps_choice rfl (Run.of_eval hs (by decide))⟩
  have hcalls : (Run.eval Threads.step Threads.idle devicesToPhone).all
      (fun s => decide (∃ w ∈ s.sync, w.calls.length = 2)) = true := by decide
  rw [hs] at hcalls
  exact of_decide_eq_true hcalls

/-- While the devices go to the phone, clicking their radio button enables the other sync
button, and clicking that one turns the direction round before it finds the flag set. -/
def turnedRound : List Event :=
  [.click .tongbu_to_phone, .test true, .store] ++ firstWorker 11 ++
    [.radio .radio_devices, .click .tongbu_to_pc, .test true] ++ firstWorker 1

theorem turnedRound_calls_other_direction :
    ¬∀ es s, Run Threads.step (fun _ _ => True) Threads.idle es s →
      ∀ w ∈ s.sync, w.OneChoice := by
  intro h
  obtain ⟨s, hs⟩ : ∃ s, Run.eval Threads.step Threads.idle turnedRound = some s :=
    Option.isSome_iff_exists.1 (by decide)
  have hcall : (Run.eval Threads.step Threads.idle turnedRound).all
      (fun s => decide (∃ w ∈ s.sync, ∃ c ∈ w.calls, c.dir ≠ w.startDir)) = true := by decide
  rw [hs] at hcall
  obtain ⟨w, hw, c, hc, hne⟩ := of_decide_eq_true hcall
  have hone := h turnedRound s (Run.of_eval hs (by decide)) w hw c hc
  rw [hone.1] at hne
  exact hne rfl

/-! ## §5 The flag -/

/-- At most one sync worker is at work, and no clear or rollback worker beside it. -/
structure Threads.Exclusive (s : Threads) : Prop where
  one : s.sync.countP SyncWorker.live ≤ 1
  alone : s.busy = true → s.clear = 0 ∧ s.reback = 0

/-- What the flag is for. -/
structure Threads.FlagTells (s : Threads) : Prop extends s.Exclusive where
  /-- the flag is set exactly when a sync worker has been created and has not yet cleared it -/
  flag : s.m_threadFlag = true ↔ s.busy = true
  /-- with no sync worker at work, the next click on a sync button starts one -/
  next : s.busy = false → s.ui = .idle → ∀ d t t', s.step (.click d) = some t →
    t.step (.test true) = some t' → t'.busy = true

/-- `AfxBeginThread` succeeds, a worker does not clear the flag before its starter has set it,
and a clear or rollback and a sync are not started while the other is at work. -/
def Threads.OneAtATime (s : Threads) : Event → Prop
  | .test started => s.m_threadFlag = false → started = true ∧ s.clear = 0 ∧ s.reback = 0
  | .sync i _ => ∀ w ∈ s.sync[i]?, w.rest.head? = some .clearFlag → s.ui ≠ .storing
  | .beginClear | .beginReback => s.busy = false
  | _ => True

instance (s : Threads) : ∀ e, Decidable (s.OneAtATime e)
  | .test started =>
    inferInstanceAs (Decidable (_ = false → started = true ∧ s.clear = 0 ∧ s.reback = 0))
  | .sync i _ =>
    inferInstanceAs
      (Decidable (∀ w ∈ s.sync[i]?, w.rest.head? = some .clearFlag → _ ≠ UiPc.storing))
  | .beginClear | .beginReback => inferInstanceAs (Decidable (s.busy = false))
  | .radio _ | .click _ | .store | .endClear | .endReback => inferInstanceAs (Decidable True)

/-- The invariant.  Between `AfxBeginThread` and `m_threadFlag = TRUE` the worker is at work and
the flag is still clear; in every other state the flag tells. -/
structure Threads.FlagInv (s : Threads) : Prop extends s.Exclusive where
  shape : ∀ w ∈ s.sync, Shape w.rest
  flag : s.ui ≠ .storing → s.m_threadFlag = s.busy
  storing : s.ui = .storing → s.m_threadFlag = false ∧ s.busy = true

theorem Threads.busy_eq (s : Threads) :
    s.busy = decide (0 < s.sync.countP SyncWorker.live) := by
  rw [Threads.busy, Bool.eq_iff_iff, List.any_eq_true, decide_eq_true_eq, List.countP_pos_iff]

/-- Outside the window the invariant is what the flag is for. -/
theorem Threads.FlagInv.flagTells {s : Threads} (h : s.FlagInv) (hui : s.ui ≠ .storing) :
    s.FlagTells where
  toExclusive := h.toExclusive
  flag := by rw [h.flag hui]
  next hidle hui' d t t' hclick htest := by
    have hflag : s.m_threadFlag = false := by
      rw [h.flag hui, hidle]
    -- the click finds the flag down, and the test starts a worker
    have ht : t.ui = .testing ∧ t.m_threadFlag = false := by
      rw [Threads.step, if_pos hui'] at hclick
      cases d with
      | tongbu_to_phone | tongbu_to_pc =>
        rw [Threads.click] at hclick
        split at hclick
        · cases hclick
          exact ⟨rfl, hflag⟩
        · cases hclick
    rw [Threads.step, if_pos ht.1, ht.2] at htest
    cases htest
    simp [Threads.busy, Threads.newWorker, SyncWorker.live, MtpSync.myControllingSteps, finish]

/-- Inside it a worker is at work that the flag does not tell of. -/
theorem Threads.FlagInv.not_flagTells {s : Threads} (h : s.FlagInv) (hui : s.ui = .storing) :
    ¬s.FlagTells := by
  intro htells
  obtain ⟨hflag, hbusy⟩ := h.storing hui
  have hset := htells.flag.2 hbusy
  rw [hflag] at hset
  cases hset

/-- A worker is at work until it clears the flag. -/
theorem SyncWorker.step_live {c : Meets} {s s' : Threads} {w w' : SyncWorker}
    (hshape : Shape w.rest) (h : w.step c s = some (s', w')) :
    Shape w'.rest ∧ s'.ui = s.ui ∧ s'.sync = s.sync ∧ s'.clear = s.clear ∧
      s'.reback = s.reback ∧
      (w'.live = w.live ∧ s'.m_threadFlag = s.m_threadFlag ∨
        w.rest.head? = some .clearFlag ∧ w.live = true ∧ w'.live = false ∧
          s'.m_threadFlag = false) := by
  rw [SyncWorker.step] at h
  cases hrest : w.rest with
  | nil => rw [hrest] at h; cases h
  | cons i rest =>
    rw [hrest] at h hshape
    cases h
    have hiff := hshape.mem_next_iff c s.m_radioChoose
    refine ⟨hshape.next c _, s.exec_ui i, s.exec_sync i, s.exec_clear i, s.exec_reback i, ?_⟩
    rw [Threads.exec_m_threadFlag]
    simp only [SyncWorker.live, hrest]
    -- the worker dies with the clear of the flag, and by no other step
    by_cases hi : i = .clearFlag
    · rw [if_pos hi]
      refine .inr ⟨?_, ?_, ?_, rfl⟩
      · rw [hi]
        rfl
      · rw [hi]
        exact decide_eq_true List.mem_cons_self
      · exact decide_eq_false fun hmem => (hiff.1 hmem).2 hi
    · rw [if_neg hi]
      exact .inl ⟨decide_eq_decide.2 ⟨fun hmem => (hiff.1 hmem).1, fun hmem => hiff.2 ⟨hmem, hi⟩⟩,
        rfl⟩

/-- What changes nothing but the choice and the buttons keeps the invariant. -/
theorem Threads.FlagInv.congr {s s' : Threads} (h : s.FlagInv) (hsync : s'.sync = s.sync)
    (hflag : s'.m_threadFlag = s.m_threadFlag) (hui : s'.ui = s.ui)
    (hclear : s'.clear = s.clear) (hreback : s'.reback = s.reback) : s'.FlagInv := by
  have hbusy : s'.busy = s.busy := by rw [Threads.busy, Threads.busy, hsync]
  refine ⟨⟨?_, ?_⟩, ?_, ?_, ?_⟩
  · rw [hsync]
    exact h.one
  · rw [hbusy, hclear, hreback]
    exact h.alone
  · rw [hsync]
    exact h.shape
  · rw [hui, hflag, hbusy]
    exact h.flag
  · rw [hui, hflag, hbusy]
    exact h.storing

/-- A worker's step. -/
theorem Threads.flagInv_sync {s s' : Threads} {i : ℕ} {c : Meets} (h : s.FlagInv)
    (hok : s.OneAtATime (.sync i c)) (hstep : s.step (.sync i c) = some s') : s'.FlagInv := by
  obtain ⟨v, t, v', hi, hv, rfl⟩ := Threads.step_sync hstep
  have hmem : v ∈ s.sync := List.mem_of_getElem? hi
  obtain ⟨hlt, hget⟩ := List.getElem?_eq_some_iff.1 hi
  obtain ⟨hshape, hui, hsync, hclear, hreback, hlive⟩ := SyncWorker.step_live (h.shape v hmem) hv
  have hcount : (s.sync.set i v').countP SyncWorker.live =
      s.sync.countP SyncWorker.live - (if v.live then 1 else 0) + if v'.live then 1 else 0 := by
    rw [List.countP_set hlt, hget]
  have hle : (if v.live then 1 else 0) ≤ s.sync.countP SyncWorker.live := by
    rw [← hget]
    exact List.boole_getElem_le_countP hlt
  have hshapes : ∀ w ∈ t.sync.set i v', Shape w.rest := by
    intro w hw
    rw [hsync] at hw
    rcases List.mem_or_eq_of_mem_set hw with hw | rfl
    · exact h.shape w hw
    · exact hshape
  have hone := h.one
  rcases hlive with ⟨hsame, hflag⟩ | ⟨hhead, hv, hv', hflag⟩
  · -- as many workers are at work as before
    rw [hsame, Nat.sub_add_cancel hle] at hcount
    refine ⟨⟨?_, ?_⟩, hshapes, ?_, ?_⟩ <;> dsimp only
    · rw [hsync, hcount]
      exact hone
    · rw [Threads.busy_eq, hsync, hcount, ← Threads.busy_eq, hclear, hreback]
      exact h.alone
    · rw [Threads.busy_eq, hsync, hcount, ← Threads.busy_eq, hui, hflag]
      exact h.flag
    · rw [Threads.busy_eq, hsync, hcount, ← Threads.busy_eq, hui, hflag]
      exact h.storing
  · -- the only one clears the flag, and not before it is set
    rw [hv, hv', if_pos rfl] at hcount
    have hzero : (s.sync.set i v').countP SyncWorker.live = 0 := by
      rw [hcount]
      simp only [Bool.false_eq_true, if_false]
      omega
    refine ⟨⟨?_, ?_⟩, hshapes, ?_, ?_⟩ <;> dsimp only
    · rw [hsync, hzero]
      exact Nat.zero_le 1
    · rw [Threads.busy_eq, hsync, hzero]
      intro hfalse
      cases hfalse
    · rw [Threads.busy_eq, hsync, hzero, hflag]
      exact fun _ => rfl
    · rw [hui]
      intro hst
      exact absurd hst (hok v (Option.mem_def.2 hi) hhead)

/-- **One step of the system**, taken one at a time, keeps the invariant. -/
theorem Threads.flagInv_step {s s' : Threads} {e : Event} (h : s.FlagInv)
    (hok : s.OneAtATime e) (hstep : s.step e = some s') : s'.FlagInv := by
  cases e with
  | sync i c => exact Threads.flagInv_sync h hok hstep
  | radio m =>
    rw [Threads.step] at hstep
    split at hstep
    · cases hstep
      exact h.congr rfl rfl rfl rfl rfl
    · cases hstep
  | click d =>
    rw [Threads.step] at hstep
    split at hstep
    · next hui =>
      have hflag := h.flag (by rw [hui]; decide)
      cases d with
      | tongbu_to_phone | tongbu_to_pc =>
        rw [Threads.click] at hstep
        split at hstep
        · cases hstep
          exact ⟨⟨h.one, h.alone⟩, h.shape, fun _ => hflag, fun hst => by cases hst⟩
        · cases hstep
    · cases hstep
  | test started =>
    rw [Threads.step] at hstep
    split at hstep
    · next hui =>
      have hflag := h.flag (by rw [hui]; decide)
      split at hstep
      · cases hstep
        exact ⟨⟨h.one, h.alone⟩, h.shape, fun _ => hflag, fun hst => by cases hst⟩
      · -- the flag is down, so no worker lives and the new one is alone
        next hf =>
        have hf' := Bool.not_eq_true _ ▸ hf
        obtain ⟨rfl, hclear, hreback⟩ := hok hf'
        cases hstep
        have hzero : s.sync.countP SyncWorker.live = 0 := by
          rw [hf', Threads.busy_eq, eq_comm, decide_eq_false_iff_not] at hflag
          omega
        have hnew : s.newWorker.live = true := rfl
        refine ⟨⟨?_, fun _ => ⟨hclear, hreback⟩⟩, ?_, fun hst => absurd rfl hst,
          fun _ => ⟨hf', ?_⟩⟩
        · simp [List.countP_append, hzero, hnew]
        · intro w hw
          rcases List.mem_append.1 hw with hw | hw
          · exact h.shape w hw
          · rw [List.mem_singleton.1 hw]
            exact Shape.myControllingSteps
        · rw [Threads.busy_eq]
          simp [List.countP_append, hnew]
    · cases hstep
  -- the flag is set: from now on it tells of the worker
  | store =>
    rw [Threads.step] at hstep
    split at hstep
    · next hui =>
      cases hstep
      obtain ⟨-, hbusy⟩ := h.storing hui
      exact ⟨⟨h.one, h.alone⟩, h.shape, fun _ => hbusy.symm, fun hst => by cases hst⟩
    · cases hstep
  -- these start only while no synchronisation runs
  | beginClear | beginReback =>
    rw [Threads.step] at hstep
    split at hstep
    · cases hstep
      refine ⟨⟨h.one, fun hbusy => ?_⟩, h.shape, h.flag, h.storing⟩
      have hbusy' : s.busy = true := hbusy
      rw [show s.busy = false from hok] at hbusy'
      cases hbusy'
    · cases hstep
  | endClear | endReback =>
    rw [Threads.step] at hstep
    split at hstep
    · cases hstep
      refine ⟨⟨h.one, fun hbusy => ?_⟩, h.shape, h.flag, h.storing⟩
      obtain ⟨hclear, hreback⟩ := h.alone hbusy
      simp [hclear, hreback]
    · cases hstep

/-- **The flag tells whether a sync worker runs.**  From a dialog whose flag is clear and that
has no worker, in a run in which workers are started one at a time: at every moment at most one
sync worker is running or about to run, with no clear or rollback beside it; and the flag is set
exactly when there is one, and otherwise the next click starts one, except in the window between
`AfxBeginThread` and `m_threadFlag = TRUE`, in which the flag never tells. -/
theorem threadFlag_tells {s s' : Threads} {es : List Event} (hflag : s.m_threadFlag = false)
    (hsync : s.sync = []) (hui : s.ui = .idle)
    (hrun : Run Threads.step Threads.OneAtATime s es s') :
    s'.Exclusive ∧ (s'.FlagTells ↔ s'.ui ≠ .storing) := by
  have hinit : s.FlagInv := by
    refine ⟨⟨?_, ?_⟩, ?_, ?_, ?_⟩
    · rw [hsync]
      exact Nat.zero_le 1
    · rw [Threads.busy, hsync]
      exact fun hbusy => by cases hbusy
    · rw [hsync]
      exact fun _ hw => by cases hw
    · rw [Threads.busy, hsync, hflag]
      exact fun _ => rfl
    · rw [hui]
      exact fun hst => by cases hst
  have hinv : s'.FlagInv :=
    Run.invariant (fun _ _ _ h hok hstep => Threads.flagInv_step h hok hstep) hrun hinit
  exact ⟨hinv.toExclusive, fun htells hst => hinv.not_flagTells hst htells, hinv.flagTells⟩

/-- A sync that runs to its end, and the click that starts the next: its worker is there, the
flag not yet set. -/
def devicesTwice : List Event :=
  devicesToPhone ++ [.click .tongbu_to_phone, .test true]

theorem devicesToPhone_flag_tells :
    (∃ s, Run.eval Threads.step Threads.idle devicesToPhone = some s ∧ s.sync.length = 1 ∧
      s.Exclusive ∧ s.FlagTells) ∧
    ∃ s, Run.eval Threads.step Threads.idle devicesTwice = some s ∧ s.sync.length = 2 ∧
      s.Exclusive ∧ ¬s.FlagTells := by
  constructor
  · obtain ⟨s, hs⟩ : ∃ s, Run.eval Threads.step Threads.idle devicesToPhone = some s :=
      Option.isSome_iff_exists.1 (by decide)
    have hend : (Run.eval Threads.step Threads.idle devicesToPhone).all
        (fun s => decide (s.sync.length = 1 ∧ s.ui ≠ .storing)) = true := by decide
    rw [hs] at hend
    obtain ⟨hlength, hui⟩ := of_decide_eq_true hend
    obtain ⟨hone, htells⟩ := threadFlag_tells rfl rfl rfl (Run.of_eval hs (by decide))
    exact ⟨s, hs, hlength, hone, htells.2 hui⟩
  · obtain ⟨s, hs⟩ : ∃ s, Run.eval Threads.step Threads.idle devicesTwice = some s :=
      Option.isSome_iff_exists.1 (by decide)
    have hend : (Run.eval Threads.step Threads.idle devicesTwice).all
        (fun s => decide (s.sync.length = 2 ∧ s.ui = .storing)) = true := by decide
    rw [hs] at hend
    obtain ⟨hlength, hui⟩ := of_decide_eq_true hend
    obtain ⟨hone, htells⟩ := threadFlag_tells rfl rfl rfl (Run.of_eval hs (by decide))
    exact ⟨s, hs, hlength, hone, fun h => htells.1 h hui⟩

/-- A clear is started while the sync is past its confirmation. -/
def clearDuringSync : List Event :=
  [.click .tongbu_to_phone, .test true, .store] ++ firstWorker 7 ++ [.beginClear]

theorem clearDuringSync_not_alone :
    ¬∀ es s, Run Threads.step (fun _ _ => True) Threads.idle es s → s.FlagTells := by
  intro h
  obtain ⟨s, hs⟩ : ∃ s, Run.eval Threads.step Threads.idle clearDuringSync = some s :=
    Option.isSome_iff_exists.1 (by decide)
  have hboth : (Run.eval Threads.step Threads.idle clearDuringSync).all
      (fun s => s.busy && decide (s.clear = 1)) = true := by decide
  rw [hs] at hboth
  obtain ⟨hbusy, hclear⟩ := (Bool.and_eq_true _ _).mp hboth
  have hzero := ((h clearDuringSync s (Run.of_eval hs (by decide))).alone hbusy).1
  rw [of_decide_eq_true hclear] at hzero
  cases hzero

end MtpSync
