import MtpSync.Upload.Ends

/-!
# The slots of an upload

The to-PC routines size their pointer arrays by a count, fill them from a select that may store
fewer rows or fail, and bind and delete every slot later on.  Here the calls may answer anything:
the count, the rows of the select and the rows of the time query are independent of each other.

- §1 slots, and what is done to one that was never assigned
- §2 the three routines, slot by slot
- §3 arrays
- §4 when no slot is used unassigned
- §5 when count and select see the same rows
-/

namespace MtpSync

/-! ## §1 Slots -/

/-- A slot of a `CStringArray**`. -/
inductive Slot where
  /-- as `new` left it -/
  | unassigned
  | null
  | row
  deriving DecidableEq

/-- The arrays of the routines. -/
inductive SlotArray where
  | ppAryData | ppAryDataUpdate | ppAryDataSqlite
  deriving DecidableEq

/-- A use of what was never assigned. -/
inductive Fault where
  | bound (array : SlotArray) (index : ℕ)
  | deleted (array : SlotArray) (index : ℕ)
  /-- `vecDataTime[0][0]` of no row -/
  | noTime
  deriving DecidableEq

/-- A routine, with the faults that have come up. -/
abbrev SlotAct := Act (List Fault)

variable {α β : Type}

/-- What follows a fault is undefined. -/
def fault (f : Fault) : SlotAct α := ⟨fun s => (.error .undefined, s ++ [f])⟩

/-- `delete` of every slot, from slot `i` on. -/
def deleteSlots (array : SlotArray) : ℕ → List Slot → SlotAct Unit
  | _, [] => pure ()
  | i, .unassigned :: _ => fault (.deleted array i)
  | i, .null :: slots | i, .row :: slots => deleteSlots array (i + 1) slots

/-- The loop of `QuickInsertData`, from slot `i` on. -/
def bindSlots (array : SlotArray) (step : ℕ → Bool) : ℕ → List Slot → SlotAct Bool
  | _, [] => pure true
  | i, .unassigned :: _ => fault (.bound array i)
  -- `GetAt` of a null pointer
  | _, .null :: _ => Act.halt .undefined
  | i, .row :: slots => if step i then bindSlots array step (i + 1) slots else pure false

/-- `QuickInsertData` of an array. -/
def insertSlots (array : SlotArray) (rc : QuickRc) (slots : List Slot) : SlotAct Bool :=
  Act.both (pure (rc.beginPrepare && rc.beginStep && rc.prepare)) <|
  Act.both (bindSlots array rc.step 0 slots) <|
  pure (rc.commitPrepare && rc.commitStep)

/-! ## §2 The routines -/

/-- What `select now()` ends with. -/
inductive TimeRc where
  | rows (n : ℕ)
  | queryFails
  /-- the result is `NULL`, and its rows are counted all the same -/
  | storeFails

/-- The rows in `vecDataTime`. -/
def TimeRc.vecDataTime : TimeRc → ℕ
  | .rows n => n
  | _ => 0

/-- How `QuickSelectData` ends. -/
inductive SelectEnd where
  | neverReturns
  | fails
  /-- `TRUE`, with the rows of the result -/
  | stores (rows : ℕ)

/-- What the calls of a to-PC routine answer. -/
structure SlotCodes where
  openDb : Bool
  now : TimeRc
  /-- `RFidCount`, if the count is `TRUE` -/
  count : Option ℕ
  select : SelectEnd
  /-- the statements of `UpdateMysqlDB` -/
  update : ℕ → Bool
  mark : QuickRc

/-- `UpdateMysqlDB` of `n` statements. -/
def SlotCodes.updateMysqlDB (rc : SlotCodes) (n : ℕ) : Bool :=
  Batch.reported 99 rc.update 0 (List.replicate n ())

/-- `ppAryData` after a select: set to null, then the rows stored, `count` of them at most. -/
def selectedSlots (count rows : ℕ) : List Slot :=
  List.replicate (min rows count) .row ++ List.replicate (count - rows) .null

/-- The array allocated beside `ppAryData`: a slot is assigned where a row was stored. -/
def copySlots (ppAryData : List Slot) : List Slot :=
  ppAryData.map fun slot => if slot = .row then .row else .unassigned

/-- The same, where each row is sent with the server's time. -/
def copySlotsTimed (vecDataTime : ℕ) : List Slot → SlotAct (List Slot)
  | [] => pure []
  | .row :: slots =>
    if vecDataTime = 0 then fault .noTime
    else do
      let copied ← copySlotsTimed vecDataTime slots
      pure (.row :: copied)
  | .null :: slots | .unassigned :: slots => do
    let copied ← copySlotsTimed vecDataTime slots
    pure (.unassigned :: copied)

namespace SlotCodes

variable (rc : SlotCodes)

/-- `Synchrodata_work_record`, to PC.  The two loops meant to clear the arrays both clear
`ppAryData`. -/
def workRecordSlots : SlotAct Unit :=
  if rc.openDb then
    match rc.count with
    | some (n + 1) =>
      match rc.select with
      | .neverReturns => Act.halt .hang
      | .fails => pure ()
      | .stores rows => do
        let ppAryData := selectedSlots (n + 1) rows
        let ppAryDataSqlite := copySlots ppAryData
        let _retFlag ←
          if rc.updateMysqlDB (min rows (n + 1)) then
            insertSlots .ppAryDataSqlite rc.mark ppAryDataSqlite
          else pure false
        deleteSlots .ppAryData 0 ppAryData
        deleteSlots .ppAryDataSqlite 0 ppAryDataSqlite
    | _ => pure ()
  else pure ()

/-- The end of the other two: the statements are sent, and if an array was allocated its slots
are bound and deleted. -/
def sendSlots (sent : ℕ) (ppAryDataUpdate : Option (List Slot)) : SlotAct Unit :=
  if rc.updateMysqlDB sent then
    match ppAryDataUpdate with
    | some slots => do
      let _ ← insertSlots .ppAryDataUpdate rc.mark slots
      deleteSlots .ppAryDataUpdate 0 slots
    | none => pure ()
  else pure ()

/-- `Synchrodata_work_task`, to PC, from the count on. -/
def countedTaskSlots (vecDataTime : ℕ) : SlotAct Unit :=
  match rc.count with
  | some (n + 1) =>
    match rc.select with
    | .neverReturns => Act.halt .hang
    | .fails => rc.sendSlots 0 (some (List.replicate (n + 1) .unassigned))
    | .stores rows => do
      let ppAryData := selectedSlots (n + 1) rows
      let ppAryDataUpdate ← copySlotsTimed vecDataTime ppAryData
      deleteSlots .ppAryData 0 ppAryData
      rc.sendSlots (min rows (n + 1)) (some ppAryDataUpdate)
  | _ => rc.sendSlots 0 none

/-- `Synchrodata_work_task`, to PC. -/
def workTaskSlots : SlotAct Unit :=
  if rc.openDb then
    match rc.now with
    | .storeFails => Act.halt .undefined
    -- an empty `vecDataTime` is recorded, and the routine goes on
    | time => rc.countedTaskSlots time.vecDataTime
  else pure ()

/-- `Synchrodata_device_info`, to PC. -/
def deviceInfoSlots : SlotAct Unit :=
  if rc.openDb then
    match rc.count with
    | some (n + 1) =>
      match rc.select with
      | .neverReturns => Act.halt .hang
      | .fails => rc.sendSlots 0 (some (List.replicate (n + 1) .unassigned))
      | .stores rows => do
        let ppAryData := selectedSlots (n + 1) rows
        deleteSlots .ppAryData 0 ppAryData
        rc.sendSlots (min rows (n + 1)) (some (copySlots ppAryData))
    | _ => rc.sendSlots 0 none
  else pure ()

end SlotCodes

/-- No fault comes up. -/
def SlotAct.Clean (m : SlotAct α) : Prop := (m.run []).2 = []

/-! ## §3 Arrays -/

open Act

/-- A routine that has come through without a fault, or has met one. -/
private theorem deleteSlots_run (array : SlotArray) (i : ℕ) (slots : List Slot) :
    if .unassigned ∈ slots then ∃ f, (deleteSlots array i slots).run [] = (.error .undefined, [f])
    else (deleteSlots array i slots).run [] = (.ok (), []) := by
  induction slots generalizing i with
  | nil => simp [deleteSlots]
  | cons slot slots ih =>
    cases slot with
    | unassigned => simp [deleteSlots, fault]
    | null => simpa [deleteSlots] using ih (i + 1)
    | row => simpa [deleteSlots] using ih (i + 1)

/-- Binding stops at a slot that was never assigned, or before it. -/
private theorem bindSlots_run (array : SlotArray) (step : ℕ → Bool) (i : ℕ) {slots : List Slot}
    (hnull : .null ∉ slots) :
    (∃ b, (bindSlots array step i slots).run [] = (.ok b, [])) ∨
      .unassigned ∈ slots ∧
        ∃ f, (bindSlots array step i slots).run [] = (.error .undefined, [f]) := by
  induction slots generalizing i with
  | nil => exact .inl ⟨true, rfl⟩
  | cons slot slots ih =>
    cases slot with
    | unassigned => exact .inr ⟨List.mem_cons_self, .bound array i, rfl⟩
    | null => exact absurd List.mem_cons_self hnull
    -- an assigned slot is bound, and the step decides whether the next one is
    | row =>
      rw [bindSlots]
      split
      · refine (ih (i + 1) fun h => hnull (List.mem_cons_of_mem _ h)).imp_right ?_
        exact fun h => ⟨List.mem_cons_of_mem _ h.1, h.2⟩
      · exact .inl ⟨false, rfl⟩

private theorem insertSlots_run (array : SlotArray) (rc : QuickRc) {slots : List Slot}
    (hnull : .null ∉ slots) :
    (∃ b, (insertSlots array rc slots).run [] = (.ok b, [])) ∨
      .unassigned ∈ slots ∧
        ∃ f, (insertSlots array rc slots).run [] = (.error .undefined, [f]) := by
  unfold insertSlots
  cases hhead : (rc.beginPrepare && rc.beginStep && rc.prepare) with
  -- nothing is bound before the statement is prepared
  | false => exact .inl ⟨false, both_run_false rfl⟩
  | true =>
    rw [both_run_true (pure_run true [])]
    rcases bindSlots_run array rc.step 0 hnull with ⟨b, hb⟩ | ⟨hmem, f, hf⟩
    · cases b with
      | true => exact .inl ⟨_, both_run_true hb⟩
      | false => exact .inl ⟨_, both_run_false hb⟩
    · exact .inr ⟨hmem, f, bind_run_error hf⟩

/-- **Slots that are bound and then deleted** cause no fault if each was assigned. -/
private theorem markSlots_clean_iff (array : SlotArray) (rc : QuickRc) {slots : List Slot}
    (hnull : .null ∉ slots) :
    SlotAct.Clean (do
      let _ ← insertSlots array rc slots
      deleteSlots array 0 slots) ↔ .unassigned ∉ slots := by
  have hdelete := deleteSlots_run array 0 slots
  unfold SlotAct.Clean
  rcases insertSlots_run array rc hnull with ⟨b, hb⟩ | ⟨hmem, f, hf⟩
  · rw [bind_run_ok hb]
    by_cases hmem : Slot.unassigned ∈ slots
    · rw [if_pos hmem] at hdelete
      obtain ⟨f, hf⟩ := hdelete
      simp [hf, hmem]
    · rw [if_neg hmem] at hdelete
      simp [hdelete, hmem]
  · rw [bind_run_error hf]
    simp [hmem]

private theorem null_not_mem_copySlots (slots : List Slot) : .null ∉ copySlots slots := by
  intro h
  obtain ⟨slot, -, hslot⟩ := List.mem_map.1 h
  split at hslot <;> cases hslot

/-- The copy of a selection is assigned throughout if every slot was filled. -/
private theorem unassigned_mem_copySlots_iff (count rows : ℕ) :
    .unassigned ∈ copySlots (selectedSlots count rows) ↔ rows < count := by
  simp [copySlots, selectedSlots, List.mem_replicate]
  omega

private theorem unassigned_not_mem_selectedSlots (count rows : ℕ) :
    .unassigned ∉ selectedSlots count rows := by
  simp [selectedSlots, List.mem_replicate]

/-- With a time, the slots are copied; without one, the first row is a fault. -/
private theorem copySlotsTimed_run (vecDataTime : ℕ) (slots : List Slot) :
    if vecDataTime = 0 ∧ .row ∈ slots then
      (copySlotsTimed vecDataTime slots).run [] = (.error .undefined, [.noTime])
    else (copySlotsTimed vecDataTime slots).run [] = (.ok (copySlots slots), []) := by
  induction slots with
  | nil => simp [copySlotsTimed, copySlots]
  | cons slot slots ih =>
    by_cases htime : vecDataTime = 0
    · -- without a time it is the first row that decides
      by_cases hrow : Slot.row ∈ slots
      · rw [if_pos ⟨htime, hrow⟩] at ih
        rw [if_pos ⟨htime, List.mem_cons_of_mem _ hrow⟩]
        cases slot with
        | row => simp [copySlotsTimed, htime, fault]
        | null => exact bind_run_error ih
        | unassigned => exact bind_run_error ih
      · rw [if_neg fun h => hrow h.2] at ih
        cases slot with
        | row => simp [copySlotsTimed, htime, fault]
        | null =>
          rw [if_neg (by simp [hrow])]
          exact bind_run_ok ih
        | unassigned =>
          rw [if_neg (by simp [hrow])]
          exact bind_run_ok ih
    · rw [if_neg fun h => htime h.1] at ih ⊢
      cases slot with
      | row =>
        rw [copySlotsTimed, if_neg htime]
        exact bind_run_ok ih
      | null => exact bind_run_ok ih
      | unassigned => exact bind_run_ok ih

/-! ## §4 When no slot is used unassigned -/

namespace SlotCodes

variable (rc : SlotCodes)

/-- Where rows are counted, a select that succeeds stores as many. -/
def RecordFilled : Prop :=
  rc.openDb = true → ∀ n rows, rc.count = some (n + 1) → rc.select = .stores rows → n + 1 ≤ rows

/-- Where rows are counted, the select does not fail and stores as many, unless the server
refuses those it has stored. -/
def Filled (n : ℕ) : Prop :=
  match rc.select with
  | .neverReturns => True
  | .fails => False
  | .stores rows => 0 < rows ∧ (n ≤ rows ∨ rc.updateMysqlDB (min rows n) = false)

def DeviceFilled : Prop :=
  rc.openDb = true → ∀ n, rc.count = some (n + 1) → rc.Filled (n + 1)

/-- The server's time is there too, once a row is stored. -/
def TaskFilled : Prop :=
  rc.openDb = true → rc.now ≠ .storeFails → ∀ n, rc.count = some (n + 1) →
    rc.Filled (n + 1) ∧ ∀ rows, rc.select = .stores rows → rc.now.vecDataTime ≠ 0

variable {rc}

/-- No statement is refused where none is sent. -/
private theorem updateMysqlDB_zero : rc.updateMysqlDB 0 = true :=
  Batch.reported_nil 99 rc.update 0

private theorem sendSlots_clean_iff (sent : ℕ) {slots : List Slot} (hnull : .null ∉ slots) :
    (rc.sendSlots sent (some slots)).Clean ↔
      (rc.updateMysqlDB sent = true → .unassigned ∉ slots) := by
  unfold sendSlots
  cases rc.updateMysqlDB sent with
  | true => simpa using markSlots_clean_iff .ppAryDataUpdate rc.mark hnull
  | false => exact ⟨fun _ h => absurd h (by decide), fun _ => rfl⟩

private theorem sendSlots_none (sent : ℕ) : (rc.sendSlots sent none).Clean := by
  unfold sendSlots
  split <;> rfl

/-- What has come through without a fault plays no part in what follows. -/
private theorem clean_bind_iff {m : SlotAct α} {f : α → SlotAct β} {a : α}
    (h : m.run [] = (.ok a, [])) : (m >>= f).Clean ↔ (f a).Clean := by
  rw [SlotAct.Clean, bind_run_ok h, SlotAct.Clean]

private theorem not_clean_bind {m : SlotAct α} {f : α → SlotAct β} {e : Halt} {x : Fault}
    (h : m.run [] = (.error e, [x])) : ¬(m >>= f).Clean := by
  rw [SlotAct.Clean, bind_run_error h]
  simp

private theorem deleteSelected_run (count rows : ℕ) :
    (deleteSlots .ppAryData 0 (selectedSlots count rows)).run [] = (.ok (), []) := by
  have h := deleteSlots_run .ppAryData 0 (selectedSlots count rows)
  rwa [if_neg (unassigned_not_mem_selectedSlots count rows)] at h

/-- The slots that go with a select that failed. -/
private theorem fails_not_clean (n : ℕ) :
    ¬(rc.sendSlots 0 (some (List.replicate (n + 1) .unassigned))).Clean := by
  rw [sendSlots_clean_iff 0 (by simp [List.mem_replicate])]
  intro h
  exact h updateMysqlDB_zero (by simp [List.mem_replicate])

/-- The slots that go with the rows stored. -/
private theorem copied_clean_iff (n rows : ℕ) :
    (rc.sendSlots (min rows (n + 1)) (some (copySlots (selectedSlots (n + 1) rows)))).Clean ↔
      0 < rows ∧ (n + 1 ≤ rows ∨ rc.updateMysqlDB (min rows (n + 1)) = false) := by
  rw [sendSlots_clean_iff _ (null_not_mem_copySlots _), unassigned_mem_copySlots_iff, Nat.not_lt]
  constructor
  · intro h
    cases hsent : rc.updateMysqlDB (min rows (n + 1)) with
    | true =>
      have hle := h hsent
      exact ⟨by omega, .inl hle⟩
    | false =>
      -- an empty list of statements is not refused
      refine ⟨Nat.pos_of_ne_zero fun hzero => ?_, .inr rfl⟩
      rw [hzero, Nat.zero_min, updateMysqlDB_zero] at hsent
      cases hsent
  · rintro ⟨-, hle | hrefused⟩ hsent
    · exact hle
    · rw [hrefused] at hsent
      cases hsent

/-- The slots of the records, which are deleted whether or not they were sent. -/
private theorem stored_clean_iff (n rows : ℕ) {sent : Bool} :
    SlotAct.Clean (do
      let _ ←
        if sent = true then
          insertSlots .ppAryDataSqlite rc.mark (copySlots (selectedSlots (n + 1) rows))
        else pure false
      deleteSlots .ppAryData 0 (selectedSlots (n + 1) rows)
      deleteSlots .ppAryDataSqlite 0 (copySlots (selectedSlots (n + 1) rows))) ↔ n + 1 ≤ rows := by
  have hdelete := deleteSlots_run .ppAryDataSqlite 0 (copySlots (selectedSlots (n + 1) rows))
  -- sent or not, both arrays are deleted
  have hrest : SlotAct.Clean (do
      deleteSlots .ppAryData 0 (selectedSlots (n + 1) rows)
      deleteSlots .ppAryDataSqlite 0 (copySlots (selectedSlots (n + 1) rows))) ↔ n + 1 ≤ rows := by
    rw [clean_bind_iff (deleteSelected_run (n + 1) rows), SlotAct.Clean, ← Nat.not_lt,
      ← unassigned_mem_copySlots_iff]
    split at hdelete
    · rename_i hmem
      obtain ⟨f, hf⟩ := hdelete
      simp [hf, hmem]
    · rename_i hmem
      simp [hdelete, hmem]
  cases sent with
  | false => exact (clean_bind_iff (pure_run false [])).trans hrest
  | true =>
    rw [if_pos rfl]
    rcases insertSlots_run .ppAryDataSqlite rc.mark
      (null_not_mem_copySlots (selectedSlots (n + 1) rows)) with ⟨b, hb⟩ | ⟨hmem, f, hf⟩
    · exact (clean_bind_iff hb).trans hrest
    · -- binding has met a slot that was never assigned
      rw [unassigned_mem_copySlots_iff] at hmem
      exact ⟨fun h => absurd h (not_clean_bind hf), fun h => absurd hmem (Nat.not_lt.2 h)⟩

theorem workRecordSlots_clean_iff : rc.workRecordSlots.Clean ↔ rc.RecordFilled := by
  unfold workRecordSlots RecordFilled
  cases hopen : rc.openDb with
  | false => exact ⟨fun _ h => absurd h (by decide), fun _ => rfl⟩
  | true =>
    simp only [if_true, forall_const]
    cases hcount : rc.count with
    | none => exact ⟨fun _ n rows h => absurd h (by simp), fun _ => rfl⟩
    | some n =>
      cases n with
      | zero => exact ⟨fun _ n rows h => absurd h (by simp), fun _ => rfl⟩
      | succ n =>
        cases hselect : rc.select with
        | neverReturns => exact ⟨fun _ _ _ _ h => absurd h (by simp), fun _ => rfl⟩
        | fails => exact ⟨fun _ _ _ _ h => absurd h (by simp), fun _ => rfl⟩
        | stores rows =>
          simp only [Option.some.injEq, SelectEnd.stores.injEq]
          -- only here are slots allocated and filled
          rw [stored_clean_iff]
          constructor
          · rintro h _ _ hn rfl
            rwa [← hn]
          · exact fun h => h n rows rfl rfl

theorem deviceInfoSlots_clean_iff : rc.deviceInfoSlots.Clean ↔ rc.DeviceFilled := by
  unfold deviceInfoSlots DeviceFilled Filled
  cases hopen : rc.openDb with
  | false => exact ⟨fun _ h => absurd h (by decide), fun _ => rfl⟩
  | true =>
    simp only [if_true, forall_const]
    cases hcount : rc.count with
    | none => exact ⟨fun _ n h => absurd h (by simp), fun _ => sendSlots_none 0⟩
    | some n =>
      cases n with
      | zero => exact ⟨fun _ n h => absurd h (by simp), fun _ => sendSlots_none 0⟩
      | succ n =>
        cases hselect : rc.select with
        | neverReturns => exact ⟨fun _ _ _ => trivial, fun _ => rfl⟩
        | fails => exact ⟨fun h => absurd h (fails_not_clean n), fun h => (h n rfl).elim⟩
        | stores rows =>
          dsimp only
          -- the selection is deleted before the copy is sent
          rw [clean_bind_iff (deleteSelected_run (n + 1) rows), copied_clean_iff]
          constructor
          · rintro h _ hn
            rwa [← Option.some.inj hn]
          · exact fun h => h n rfl

/-- The slots of the tasks, each sent with the server's time. -/
private theorem timed_clean_iff (vecDataTime n rows : ℕ) :
    SlotAct.Clean (do
      let ppAryDataUpdate ← copySlotsTimed vecDataTime (selectedSlots (n + 1) rows)
      deleteSlots .ppAryData 0 (selectedSlots (n + 1) rows)
      rc.sendSlots (min rows (n + 1)) (some ppAryDataUpdate)) ↔
      (0 < rows ∧ (n + 1 ≤ rows ∨ rc.updateMysqlDB (min rows (n + 1)) = false)) ∧
        vecDataTime ≠ 0 := by
  have hrow : .row ∈ selectedSlots (n + 1) rows ↔ 0 < rows := by
    rw [selectedSlots, List.mem_append, List.mem_replicate, List.mem_replicate]
    constructor
    · rintro (⟨hne, -⟩ | ⟨-, heq⟩)
      · omega
      · cases heq
    · exact fun h => .inl ⟨by omega, rfl⟩
  have hcopy := copySlotsTimed_run vecDataTime (selectedSlots (n + 1) rows)
  split at hcopy
  · rename_i hnone
    -- a row is copied with a time that is not there
    exact ⟨fun h => absurd h (not_clean_bind hcopy), fun h => absurd hnone.1 h.2⟩
  · rename_i hsome
    rw [hrow] at hsome
    rw [clean_bind_iff hcopy, clean_bind_iff (deleteSelected_run (n + 1) rows), copied_clean_iff]
    exact ⟨fun h => ⟨h, fun htime => hsome ⟨htime, h.1⟩⟩, fun h => h.1⟩

private theorem countedTaskSlots_clean_iff (vecDataTime : ℕ) :
    (rc.countedTaskSlots vecDataTime).Clean ↔ ∀ n, rc.count = some (n + 1) →
      rc.Filled (n + 1) ∧ ∀ rows, rc.select = .stores rows → vecDataTime ≠ 0 := by
  unfold countedTaskSlots Filled
  cases hcount : rc.count with
  | none => exact ⟨fun _ n h => absurd h (by simp), fun _ => sendSlots_none 0⟩
  | some n =>
    cases n with
    | zero => exact ⟨fun _ n h => absurd h (by simp), fun _ => sendSlots_none 0⟩
    | succ n =>
      cases hselect : rc.select with
      | neverReturns =>
        exact ⟨fun _ _ _ => ⟨trivial, fun _ h => absurd h (by simp)⟩, fun _ => rfl⟩
      | fails => exact ⟨fun h => absurd h (fails_not_clean n), fun h => (h n rfl).1.elim⟩
      | stores rows =>
        dsimp only
        rw [timed_clean_iff]
        constructor
        · rintro ⟨hfilled, htime⟩ _ hn
          rw [← Option.some.inj hn]
          exact ⟨hfilled, fun _ _ => htime⟩
        · exact fun h => ⟨(h n rfl).1, (h n rfl).2 rows rfl⟩

theorem workTaskSlots_clean_iff : rc.workTaskSlots.Clean ↔ rc.TaskFilled := by
  unfold workTaskSlots TaskFilled
  cases hopen : rc.openDb with
  | false => exact ⟨fun _ h => absurd h (by decide), fun _ => rfl⟩
  | true =>
    simp only [if_true, forall_const]
    cases hnow : rc.now with
    -- the routine has returned before the count
    | storeFails => exact ⟨fun _ h => absurd rfl h, fun _ => rfl⟩
    | rows k =>
      dsimp only
      rw [countedTaskSlots_clean_iff]
      exact ⟨fun h _ => h, fun h => h (by simp)⟩
    | queryFails =>
      dsimp only
      rw [countedTaskSlots_clean_iff]
      exact ⟨fun h _ => h, fun h => h (by simp)⟩

/-- **No slot is bound or deleted unassigned, and no time is read that is not there**, if the
selects store what was counted and the time is there; the two routines that delete their slots
behind the update only fare better where the update is refused, and worse where the select fails
or stores nothing. -/
theorem upload_slots_clean_iff (record task device : SlotCodes) :
    record.workRecordSlots.Clean ∧ task.workTaskSlots.Clean ∧ device.deviceInfoSlots.Clean ↔
      record.RecordFilled ∧ task.TaskFilled ∧ device.DeviceFilled :=
  and_congr workRecordSlots_clean_iff
    (and_congr workTaskSlots_clean_iff deviceInfoSlots_clean_iff)

/-- One task is counted, and the select fails. -/
def oneTaskSelectFails : SlotCodes :=
  ⟨true, .rows 1, some 1, .fails, fun _ => true, QuickRc.allOk⟩

/-- The slot that was allocated for it is bound. -/
theorem unassigned_slot_bound : ¬oneTaskSelectFails.workTaskSlots.Clean :=
  fun h => @fails_not_clean oneTaskSelectFails 0 h

end SlotCodes

/-! ## §5 Count and select of the same rows -/

section SameRows

variable {ρ : Type}

/-- What the calls answer where the count and the select both see `pending`. -/
def ToPcRc.slotCodes (rc : ToPcRc) (pending : List ρ) : SlotCodes where
  openDb := rc.openDb
  now :=
    match rc.now with
    | .ok => .rows 1
    | .queryFails => .queryFails
    | .storeFails => .storeFails
  count := if rc.count.returns then some (if rc.count.row then pending.length else 0) else none
  select :=
    match rc.select.fetched pending pending.length with
    | none => .neverReturns
    | some none => .fails
    | some (some stored) => .stores stored.length
  update := rc.update
  mark := rc.mark

/-- A select of the rows counted stores all of them. -/
private theorem stores_length {rc : ToPcRc} {pending : List ρ} {rows : ℕ}
    (h : (rc.slotCodes pending).select = .stores rows) : rows = pending.length := by
  simp only [ToPcRc.slotCodes] at h
  split at h
  · cases h
  · cases h
  · rename_i stored hfetch
    rw [← SelectEnd.stores.inj h]
    exact (FetchRc.fetched_some hfetch).2

private theorem count_eq {rc : ToPcRc} {pending : List ρ} {n : ℕ}
    (h : (rc.slotCodes pending).count = some (n + 1)) :
    rc.count.returns = true ∧ rc.count.row = true ∧ pending.length = n + 1 := by
  simp only [ToPcRc.slotCodes] at h
  split_ifs at h with hreturns hrow
  · exact ⟨hreturns, hrow, Option.some.inj h⟩
  · cases h

/-- Once rows are counted, the select decides how the upload ends. -/
private theorem uploadEnd_of_count {pending : SqliteDB → List ρ} {rc : ToPcRc} {sq : Sq SqliteDB}
    {d : SqliteDB} (hgate : sq.eventOpenDB = true) (hopen : rc.openDb = true)
    (hd : sq.file = .holds d) {n : ℕ} (h : (rc.slotCodes (pending d)).count = some (n + 1)) :
    uploadEnd pending rc sq =
      match rc.select.fetched (pending d) (pending d).length with
      | none => .neverSelected
      | some none => .notSelected
      | some (some stored) => .selected stored := by
  obtain ⟨hreturns, hrow, hlen⟩ := count_eq h
  have hend := uploadEnd_counted pending hgate hopen hd hreturns
  rw [if_pos (by simp [hrow, hlen])] at hend
  cases hfetch : rc.select.fetched (pending d) (pending d).length with
  | none =>
    rw [hfetch] at hend
    exact hend
  | some fetched =>
    rw [hfetch] at hend
    cases fetched with
    | none => exact hend
    | some stored => exact hend

/-- Without rows counted the upload ends before the select. -/
private theorem count_cases {pending : SqliteDB → List ρ} {rc : ToPcRc} {sq : Sq SqliteDB}
    {d : SqliteDB} (hgate : sq.eventOpenDB = true) (hopen : rc.openDb = true)
    (hd : sq.file = .holds d) :
    (∃ n, (rc.slotCodes (pending d)).count = some (n + 1)) ∨
      uploadEnd pending rc sq = .notCounted ∨ uploadEnd pending rc sq = .nothing := by
  rcases Bool.eq_false_or_eq_true rc.count.returns with hreturns | hreturns
  · rw [uploadEnd_counted pending hgate hopen hd hreturns]
    by_cases hpos : (rc.count.row && decide (0 < (pending d).length)) = true
    · simp only [Bool.and_eq_true, decide_eq_true_eq] at hpos
      obtain ⟨n, hn⟩ := Nat.exists_eq_succ_of_ne_zero (Nat.pos_iff_ne_zero.1 hpos.2)
      exact .inl ⟨n, by simp [ToPcRc.slotCodes, hreturns, hpos.1, hn]⟩
    · exact .inr (.inr (if_neg hpos))
  · exact .inr (.inl (uploadEnd_notCounted pending hgate hopen (by simp [hreturns])))

/-- The slots are filled unless the select fails. -/
private theorem filled_iff {pending : SqliteDB → List ρ} {rc : ToPcRc} {sq : Sq SqliteDB}
    {d : SqliteDB} (hgate : sq.eventOpenDB = true) (hopen : rc.openDb = true)
    (hd : sq.file = .holds d) :
    (∀ n, (rc.slotCodes (pending d)).count = some (n + 1) →
      (rc.slotCodes (pending d)).Filled (n + 1)) ↔ uploadEnd pending rc sq ≠ .notSelected := by
  constructor
  · intro h hend
    rcases @count_cases _ pending _ _ _ hgate hopen hd with ⟨n, hcount⟩ | hother | hother
    · have hfilled := h n hcount
      unfold SlotCodes.Filled at hfilled
      rw [uploadEnd_of_count hgate hopen hd hcount] at hend
      cases hfetch : rc.select.fetched (pending d) (pending d).length with
      | none => simp [hfetch] at hend
      | some o =>
        cases o with
        | none => simp [ToPcRc.slotCodes, hfetch] at hfilled
        | some stored => simp [hfetch] at hend
    · rw [hother] at hend
      cases hend
    · rw [hother] at hend
      cases hend
  · intro hend n hcount
    obtain ⟨-, -, hlen⟩ := count_eq hcount
    rw [uploadEnd_of_count hgate hopen hd hcount] at hend
    unfold SlotCodes.Filled
    cases hselect : (rc.slotCodes (pending d)).select with
    | neverReturns => trivial
    | fails =>
      -- then it is the select of the upload that has failed
      simp only [ToPcRc.slotCodes] at hselect
      split at hselect
      · cases hselect
      · rename_i hfetch
        rw [hfetch] at hend
        exact hend rfl
      · cases hselect
    | stores rows =>
      have hrows := stores_length hselect
      exact ⟨by omega, .inl (by omega)⟩

/-- Rows are stored where the upload has selected some. -/
private theorem stores_iff {pending : SqliteDB → List ρ} {rc : ToPcRc} {sq : Sq SqliteDB}
    {d : SqliteDB} (hgate : sq.eventOpenDB = true) (hopen : rc.openDb = true)
    (hd : sq.file = .holds d) :
    (∃ n rows, (rc.slotCodes (pending d)).count = some (n + 1) ∧
      (rc.slotCodes (pending d)).select = .stores rows) ↔
      ∃ stored, uploadEnd pending rc sq = .selected stored := by
  constructor
  · rintro ⟨n, rows, hcount, hselect⟩
    rw [uploadEnd_of_count hgate hopen hd hcount]
    simp only [ToPcRc.slotCodes] at hselect
    cases hfetch : rc.select.fetched (pending d) (pending d).length with
    | none => simp [hfetch] at hselect
    | some fetched =>
      cases fetched with
      | none => simp [hfetch] at hselect
      | some stored => exact ⟨stored, rfl⟩
  · rintro ⟨stored, hend⟩
    -- an upload that selected rows has counted some
    rcases @count_cases _ pending _ _ _ hgate hopen hd with ⟨n, hcount⟩ | hother | hother
    · rw [uploadEnd_of_count hgate hopen hd hcount] at hend
      cases hfetch : rc.select.fetched (pending d) (pending d).length with
      | none => simp [hfetch] at hend
      | some o =>
        cases o with
        | none => simp [hfetch] at hend
        | some stored' =>
          exact ⟨n, stored'.length, hcount, by simp only [ToPcRc.slotCodes, hfetch]⟩
    · rw [hother] at hend
      cases hend
    · rw [hother] at hend
      cases hend

/-- The devices' routine runs into what is undefined exactly when one of its slots does. -/
theorem deviceInfo_undefined_iff (ids : List String) (fw : TongbuFw) (rc : ToPcRc) {w : World}
    {d : SqliteDB} (hgate : w.sq.eventOpenDB = true) (hd : w.sq.file = .holds d) :
    ((synchrodataDeviceInfoToPc ids fw rc).run w).1 = .error .undefined ↔
      ¬(rc.slotCodes (d.pendingDevices fw rc.win ids)).deviceInfoSlots.Clean := by
  have hrun := synchrodataDeviceInfoToPc_run ids fw rc w
  rw [SlotCodes.deviceInfoSlots_clean_iff, SlotCodes.DeviceFilled]
  rcases Bool.eq_false_or_eq_true rc.openDb with hopen | hopen
  · have hfilled := @filled_iff _ (SqliteDB.pendingDevices fw rc.win ids) _ _ _ hgate hopen hd
    have hcodes : (rc.slotCodes (d.pendingDevices fw rc.win ids)).openDb = true := hopen
    simp only [hcodes, forall_const]
    rw [hfilled, not_not]
    -- the run ends there for a select that fails, and returns or waits otherwise
    cases hend : uploadEnd (SqliteDB.pendingDevices fw rc.win ids) rc w.sq with
    | notSelected => simp only [hend] at hrun; simp [hrun.result]
    | waits => simp only [hend] at hrun; simp [hrun.result]
    | notOpened => simp only [hend] at hrun; simp [hrun.result]
    | notCounted => simp only [hend] at hrun; simp [hrun.result]
    | nothing => simp only [hend] at hrun; simp [hrun.result]
    | neverSelected => simp only [hend] at hrun; simp [hrun.result]
    | selected stored => simp only [hend] at hrun; simp [hrun.result]
  · rw [uploadEnd_notOpened _ hgate hopen] at hrun
    have hcodes : (rc.slotCodes (d.pendingDevices fw rc.win ids)).openDb = false := hopen
    simp [hrun.result, hcodes]

/-- The records' routine never does, and neither do its slots. -/
theorem workRecord_slots_clean (ids : List String) (rc : ToPcRc) (d : SqliteDB) :
    (rc.slotCodes (d.pendingRecords rc.win ids)).workRecordSlots.Clean := by
  rw [SlotCodes.workRecordSlots_clean_iff]
  intro _ n rows hcount hselect
  obtain ⟨-, -, hlen⟩ := count_eq hcount
  rw [stores_length hselect, hlen]

/-- The tasks' routine, once the server has been asked for its time. -/
theorem workTask_undefined_iff (ids : List String) (rc : ToPcRc) {w : World} {d : SqliteDB}
    (hgate : w.sq.eventOpenDB = true) (hd : w.sq.file = .holds d) (hnow : rc.now ≠ .storeFails) :
    ((synchrodataWorkTaskToPc ids rc).run w).1 = .error .undefined ↔
      ¬(rc.slotCodes (d.pendingTasks rc.win ids)).workTaskSlots.Clean := by
  have hrun := synchrodataWorkTaskToPc_run ids rc w (by rw [hd]; rfl) hnow
  rw [SlotCodes.workTaskSlots_clean_iff, SlotCodes.TaskFilled]
  rcases Bool.eq_false_or_eq_true rc.openDb with hopen | hopen
  · have hfilled := @filled_iff _ (SqliteDB.pendingTasks rc.win ids) _ _ _ hgate hopen hd
    have hstores := @stores_iff _ (SqliteDB.pendingTasks rc.win ids) _ _ _ hgate hopen hd
    have hcodes : (rc.slotCodes (d.pendingTasks rc.win ids)).openDb = true := hopen
    have htime : (rc.slotCodes (d.pendingTasks rc.win ids)).now ≠ .storeFails := by
      simp only [ToPcRc.slotCodes]
      cases hn : rc.now with
      | ok => simp
      | queryFails => simp
      | storeFails => exact absurd hn hnow
    simp only [hcodes, htime, ne_eq, not_false_eq_true, forall_const]
    -- the two conditions of the slots are those of the upload's end
    have hsplit : (∀ n, (rc.slotCodes (d.pendingTasks rc.win ids)).count = some (n + 1) →
        (rc.slotCodes (d.pendingTasks rc.win ids)).Filled (n + 1) ∧
          ∀ rows, (rc.slotCodes (d.pendingTasks rc.win ids)).select = .stores rows →
            ¬(rc.slotCodes (d.pendingTasks rc.win ids)).now.vecDataTime = 0) ↔
        uploadEnd (SqliteDB.pendingTasks rc.win ids) rc w.sq ≠ .notSelected ∧
          ((∃ stored, uploadEnd (SqliteDB.pendingTasks rc.win ids) rc w.sq = .selected stored) →
            ¬(rc.slotCodes (d.pendingTasks rc.win ids)).now.vecDataTime = 0) := by
      rw [← hfilled, ← hstores]
      constructor
      · exact fun h => ⟨fun n hn => (h n hn).1,
          fun ⟨n, rows, hn, hrows⟩ => (h n hn).2 rows hrows⟩
      · exact fun h n hn => ⟨h.1 n hn, fun rows hrows => h.2 ⟨n, rows, hn, hrows⟩⟩
    rw [hsplit]
    cases hend : uploadEnd (SqliteDB.pendingTasks rc.win ids) rc w.sq with
    | notSelected => simp only [hend] at hrun; simp [hrun.result]
    | waits => simp only [hend] at hrun; simp [hrun.result]
    | notOpened => simp only [hend] at hrun; simp [hrun.result]
    | notCounted => simp only [hend] at hrun; simp [hrun.result]
    | nothing => simp only [hend] at hrun; simp [hrun.result]
    | neverSelected => simp only [hend] at hrun; simp [hrun.result]
    | selected stored =>
      simp only [hend] at hrun
      cases hn : rc.now with
      | ok =>
        simp only [hn] at hrun
        simp [hrun.result, ToPcRc.slotCodes, hn, TimeRc.vecDataTime]
      | queryFails =>
        simp only [hn] at hrun
        simp [hrun.result, ToPcRc.slotCodes, hn, TimeRc.vecDataTime]
      | storeFails => exact absurd hn hnow
  · rw [uploadEnd_notOpened _ hgate hopen] at hrun
    have hcodes : (rc.slotCodes (d.pendingTasks rc.win ids)).openDb = false := hopen
    simp [hrun.result, hcodes]

end SameRows

end MtpSync
