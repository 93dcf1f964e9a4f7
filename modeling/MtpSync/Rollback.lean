import MtpSync.Control
import MtpSync.Lib.Run

/-!
# What a rollback undoes

A clear leaves the name of the backup it started from in `m_copyName` and the device in
`m_clearDeviceID`; a rollback pushes that backup back.  Which pulls belong to a clear is told by
`m_clearFlag`, raised by the clear button before the user confirms and consumed deep inside
`BeginPhoneToPc`.

- §1 sequences of operations
- §2 what the operations do to the three members
- §3 when a rollback undoes a clear
-/

namespace MtpSync

variable {β : Type}

/-! ## §1 Operations -/

/-- A pull of the phone's database: by a clear or by a sync, from which device, under which name
it was backed up, and the temporary file it ended with. -/
structure Pull where
  clear : Bool
  strDevID : String
  strName : String
  file : DbFile SqliteDB

/-- The dialog, and the last pull so far. -/
structure Session (β : Type) where
  dlg : Dlg β
  lastPull : Option Pull

/-- What the user does. -/
inductive Operation where
  /-- the clear button: confirmed, and a thread started, or not -/
  | beginClear (confirmed : Bool) (rc : ClearThreadRc)
  /-- a sync button -/
  | sync (sel : Selection) (dir : TongbuDir) (mode : RadioChoose) (rc : SyncRc)
  /-- the rollback button -/
  | reback (confirmed : Bool) (rc : RebackRc)

/-- The last pull after `BeginPhoneToPc` has been called. -/
def Session.pulled (fmt : SqliteFormat β) (clear : Bool) (rc : PhoneToPcRc) (s : Session β) :
    Option Pull :=
  match (beginPhoneToPc fmt rc).run s.dlg with
  | (.ok (some strDevID), t) => some ⟨clear, strDevID, rc.strName, t.world.sq.file⟩
  | _ => s.lastPull

/-- One operation, to its end. -/
def Session.step (fmt : SqliteFormat β) (s : Session β) : Operation → Option (Session β)
  | .beginClear confirmed rc =>
    -- `OnBnClickedButtonBeginClear`: the flag is raised before the confirmation
    let s := { s with dlg := { s.dlg with m_clearFlag := true } }
    if confirmed then
      some
        { dlg := ((beginClearThread fmt rc).run s.dlg).2
          lastPull :=
            if rc.timeBegin > rc.timeEnd then s.lastPull else s.pulled fmt true rc.pull }
    else some s
  | .sync sel dir mode rc =>
    some
      { dlg := ((myControllingFunction fmt sel dir mode rc).run s.dlg).2
        lastPull := if rc.yes then s.pulled fmt false rc.pull else s.lastPull }
  | .reback confirmed rc =>
    -- `OnBnClickedButtonReback`
    if confirmed && s.dlg.m_copyName ≠ "" then
      some { s with dlg := ((beginRebackData fmt rc).run s.dlg).2 }
    else some s

/-! ## §2 The three members -/

/-- Nothing happens to the backups, the clear flag and what it has led to. -/
structure SameClear (s t : Dlg β) : Prop where
  flag : t.m_clearFlag = s.m_clearFlag
  copyName : t.m_copyName = s.m_copyName
  deviceID : t.m_clearDeviceID = s.m_clearDeviceID
  backUp : t.backUp = s.backUp

instance : Std.Refl (SameClear (β := β)) := ⟨fun _ => ⟨rfl, rfl, rfl, rfl⟩⟩

instance : IsTrans (Dlg β) SameClear :=
  ⟨fun _ _ _ h h' => ⟨h'.flag.trans h.flag, h'.copyName.trans h.copyName,
    h'.deviceID.trans h.deviceID, h'.backUp.trans h.backUp⟩⟩

open Act

/-- What is done to databases leaves the clear alone. -/
theorem keeps_onWorld {α : Type} (m : Act World α) : Keeps SameClear (onWorld (β := β) m) :=
  fun _ => ⟨rfl, rfl, rfl, rfl⟩

/-- What is done to phones leaves the clear alone. -/
theorem keeps_onPhone {α : Type} (strDevID : String) (m : Act (Phone β) α) :
    Keeps SameClear (onPhone strDevID m) :=
  fun _ => ⟨rfl, rfl, rfl, rfl⟩

theorem keeps_beginPcToPhone (fmt : SqliteFormat β) (rc : PushRc) (strDevID : String) :
    Keeps SameClear (beginPcToPhone fmt rc strDevID) := by
  refine keeps_read.bind fun s => (keeps_onPhone _ _).bind fun ret => ?_
  refine (keeps_modify fun t => ?_).bind fun _ => keeps_pure ret
  split
  · exact ⟨rfl, rfl, rfl, rfl⟩
  · exact ⟨rfl, rfl, rfl, rfl⟩

theorem keeps_connect (rc : ConnectRc) (strDevID : String) :
    Keeps SameClear (connect (β := β) rc strDevID) := by
  refine (keeps_modify fun _ => ⟨rfl, rfl, rfl, rfl⟩).bind fun _ => ?_
  cases rc.OpenDevice with
  | noDevice => exact keeps_pure none
  | failed => exact keeps_halt .undefined
  | opened =>
    refine Keeps.ite (keeps_pure none) (Keeps.ite (keeps_pure none) ?_)
    exact (keeps_modify fun _ => ⟨rfl, rfl, rfl, rfl⟩).bind fun _ => keeps_pure _

theorem keeps_rebackChecks (rc : RebackRc) : Keeps SameClear (rebackChecks (β := β) rc) := by
  refine keeps_read.bind fun s => Keeps.ite (keeps_pure none) (Keeps.ite (keeps_pure none) ?_)
  refine (keeps_modify fun _ => ⟨rfl, rfl, rfl, rfl⟩).bind fun _ => ?_
  cases rc.connect.strDevID with
  | none => exact keeps_pure none
  | some dev => exact Keeps.ite (keeps_pure none) (keeps_connect _ _)

theorem keeps_beginRebackData (fmt : SqliteFormat β) (rc : RebackRc) :
    Keeps SameClear (beginRebackData fmt rc) := by
  refine (keeps_rebackChecks rc).bind fun o => ?_
  cases o with
  | none => exact keeps_pure false
  | some dev => exact keeps_read.bind fun s => keeps_onPhone _ _

/-- The device a pull gets to, if the outcomes let it. -/
def ConnectRc.device (rc : ConnectRc) : Option String :=
  if rc.OpenDevice = .opened ∧ rc.Content = true ∧ rc.dirID ≠ "" ∧ rc.fileID ≠ "" then
    rc.strDevID
  else none

/-- The temporary file a pull from `strDevID` ends with. -/
def PhoneToPcRc.received (fmt : SqliteFormat β) (rc : PhoneToPcRc) (strDevID : String)
    (s : Dlg β) : DbFile SqliteDB :=
  match rc.transfor with
  | .copies =>
    match (s.phone strDevID).objects.find? fun o => o.id = rc.connect.fileID with
    | some o => fmt.parse o.bytes
    | none => if rc.DeleteFile then .missing else s.world.sq.file
  | .leaves f => f

theorem connect_run_device {rc : ConnectRc} {strDevID : String}
    (h : rc.device = some strDevID) (s : Dlg β) :
    (connect rc strDevID).run s =
      (.ok (some strDevID), { s with gDirID := rc.dirID, gFileID := rc.fileID }) := by
  obtain ⟨ho, hc, hd, hf⟩ : rc.OpenDevice = .opened ∧ rc.Content = true ∧ rc.dirID ≠ "" ∧
      rc.fileID ≠ "" := by
    by_contra hno
    rw [ConnectRc.device, if_neg hno] at h
    cases h
  rw [connect, Act.bind_run_ok (Act.modify_run _ _), ho]
  dsimp only
  rw [if_neg (by simp [hc]), if_neg (by simp [hd, hf]), Act.bind_run_ok (Act.modify_run _ _)]
  rfl

theorem connect_run_none {rc : ConnectRc} {strDevID : String} (hdev : rc.strDevID = some strDevID)
    (h : rc.device = none) (s : Dlg β) {o : Option String} :
    ((connect rc strDevID).run s).1 = .ok o → o = none := by
  rw [connect, Act.bind_run_ok (Act.modify_run _ _)]
  cases hopen : rc.OpenDevice with
  | noDevice => exact fun hrun => by cases hrun; rfl
  | failed => exact fun hrun => by cases hrun
  | opened =>
    dsimp only
    by_cases hc : rc.Content = false
    · rw [if_pos hc]
      exact fun hrun => by cases hrun; rfl
    · by_cases hids : (rc.dirID = "" || rc.fileID = "") = true
      · rw [if_neg hc, if_pos hids]
        exact fun hrun => by cases hrun; rfl
      · -- nothing is missing, so there is a device after all
        rw [ConnectRc.device, if_pos, hdev] at h
        · cases h
        · simp only [Bool.or_eq_true, decide_eq_true_eq, not_or] at hids
          exact ⟨hopen, Bool.not_eq_false _ ▸ hc, hids.1, hids.2⟩

/-- **`BeginPhoneToPc`** consumes the clear flag when it pulls: it keeps the name of the backup
and the device for a clear, and forgets both otherwise. -/
theorem beginPhoneToPc_pulls {rc : PhoneToPcRc} {strDevID : String}
    (h : rc.connect.device = some strDevID) (fmt : SqliteFormat β) (s : Dlg β) :
    ∃ t, (beginPhoneToPc fmt rc).run s = (.ok (some strDevID), t) ∧
      t.m_clearFlag = false ∧
      t.m_copyName = (if s.m_clearFlag then rc.strName else "") ∧
      t.m_clearDeviceID = (if s.m_clearFlag then strDevID else "") ∧
      t.world.sq.file = rc.received fmt strDevID s ∧
      t.backUp = if rc.CopyFile && (rc.received fmt strDevID s).pathFileExists then
        Function.update s.backUp rc.strName (rc.received fmt strDevID s) else s.backUp := by
  have hdev : rc.connect.strDevID = some strDevID := by
    rw [ConnectRc.device] at h
    split at h
    · exact h
    · cases h
  rw [beginPhoneToPc, hdev]
  dsimp only
  rw [Act.bind_run_ok (Act.modify_run _ _), Act.bind_run_ok (connect_run_device h _)]
  dsimp only
  -- the temporary file is what the transfer brought; nothing else has happened yet
  obtain ⟨t, hrun, hfile, hback, hflag⟩ : ∃ t, (transforDataFromDevice fmt rc.transfor strDevID
      rc.connect.fileID).run { (if rc.DeleteFile then s.setFile .missing else s) with
        gDirID := rc.connect.dirID, gFileID := rc.connect.fileID } = (.ok (), t) ∧
      t.world.sq.file = rc.received fmt strDevID s ∧ t.backUp = s.backUp ∧
      t.m_clearFlag = s.m_clearFlag := by
    refine ⟨_, rfl, ?_⟩
    rw [PhoneToPcRc.received]
    have hphone : (if rc.DeleteFile then s.setFile .missing else s).phone = s.phone := by
      split <;> rfl
    have hrest : (if rc.DeleteFile then s.setFile .missing else s).backUp = s.backUp ∧
        (if rc.DeleteFile then s.setFile .missing else s).m_clearFlag = s.m_clearFlag := by
      split <;> exact ⟨rfl, rfl⟩
    cases rc.transfor with
    | leaves f => exact ⟨rfl, hrest⟩
    | copies =>
      dsimp only
      rw [hphone]
      cases (s.phone strDevID).objects.find? fun o => o.id = rc.connect.fileID with
      | some o => exact ⟨rfl, hrest⟩
      | none =>
        refine ⟨?_, hrest⟩
        dsimp only
        split <;> rfl
  rw [Act.bind_run_ok hrun, Act.bind_run_ok (Act.modify_run _ _),
    Act.bind_run_ok (Act.modify_run _ _)]
  refine ⟨_, rfl, ?_⟩
  have hcopy : copyToBackUp rc.CopyFile rc.strName t =
      { t with backUp := if rc.CopyFile && t.world.sq.file.pathFileExists then
          Function.update t.backUp rc.strName t.world.sq.file else t.backUp } := by
    rw [copyToBackUp]
    split <;> rfl
  rw [hcopy, ← hfile, ← hback, ← hflag]
  cases hclear : t.m_clearFlag with
  | true => exact ⟨rfl, rfl, rfl, rfl, rfl⟩
  | false => exact ⟨rfl, rfl, rfl, rfl, rfl⟩

/-- Without a device it leaves all of this alone. -/
theorem beginPhoneToPc_stops {rc : PhoneToPcRc} (h : rc.connect.device = none)
    (fmt : SqliteFormat β) (s : Dlg β) :
    (∀ dev, ((beginPhoneToPc fmt rc).run s).1 ≠ .ok (some dev)) ∧
      SameClear s ((beginPhoneToPc fmt rc).run s).2 := by
  rw [beginPhoneToPc]
  cases hdev : rc.connect.strDevID with
  | none => exact ⟨fun dev hrun => (by cases hrun), refl_of SameClear s⟩
  | some strDevID =>
    dsimp only
    rw [Act.bind_run_ok (Act.modify_run _ _)]
    -- only the temporary file goes, and no phone is connected after it
    have hstart : SameClear s (if rc.DeleteFile then s.setFile .missing else s) := by
      split <;> exact ⟨rfl, rfl, rfl, rfl⟩
    have hkeeps := keeps_connect rc.connect strDevID
      (if rc.DeleteFile then s.setFile .missing else s)
    rcases hrun : (connect rc.connect strDevID).run
      (if rc.DeleteFile then s.setFile .missing else s) with ⟨e | o, t⟩
    · rw [hrun] at hkeeps
      rw [Act.bind_run_error hrun]
      exact ⟨fun dev hrun => (by cases hrun), trans_of SameClear hstart hkeeps⟩
    · obtain rfl := connect_run_none hdev h _ (congrArg Prod.fst hrun)
      rw [hrun] at hkeeps
      rw [Act.bind_run_ok hrun]
      exact ⟨fun dev hrun => (by cases hrun), trans_of SameClear hstart hkeeps⟩

/-- A worker that pulls and goes on without touching the clear: what it makes of it is what its
pull makes of it. -/
theorem sameClear_after_pull {α : Type} (fmt : SqliteFormat β) (rc : PhoneToPcRc)
    {rest : Option String → Act (Dlg β) α} (hrest : ∀ o, Keeps SameClear (rest o))
    (s : Dlg β) :
    SameClear ((beginPhoneToPc fmt rc).run s).2
      ((beginPhoneToPc fmt rc >>= rest).run s).2 := by
  rcases hrun : (beginPhoneToPc fmt rc).run s with ⟨e | o, t⟩
  · rw [Act.bind_run_error hrun]
    exact refl_of SameClear t
  · rw [Act.bind_run_ok hrun]
    exact hrest o t

theorem beginClearThread_after_pull (fmt : SqliteFormat β) (rc : ClearThreadRc) (s : Dlg β)
    (hdays : ¬rc.timeBegin > rc.timeEnd) :
    SameClear ((beginPhoneToPc fmt rc.pull).run s).2 ((beginClearThread fmt rc).run s).2 := by
  rw [beginClearThread, if_neg hdays]
  refine sameClear_after_pull fmt rc.pull (fun o => ?_) s
  cases o with
  | none => exact keeps_pure false
  | some dev =>
    exact (keeps_onWorld _).bind fun _ =>
      Keeps.ite (keeps_beginPcToPhone fmt rc.push dev) (keeps_pure false)

theorem myControllingFunction_after_pull (fmt : SqliteFormat β) (sel : Selection)
    (dir : TongbuDir) (mode : RadioChoose) (rc : SyncRc) (s : Dlg β) (hyes : rc.yes = true) :
    SameClear ((beginPhoneToPc fmt rc.pull).run s).2
      ((myControllingFunction fmt sel dir mode rc).run s).2 := by
  rw [myControllingFunction, if_pos hyes]
  refine sameClear_after_pull fmt rc.pull (fun o => ?_) s
  cases o with
  | none => exact keeps_pure false
  | some dev =>
    exact (keeps_onWorld _).bind fun _ =>
      Keeps.ite (keeps_beginPcToPhone fmt rc.push dev) (keeps_pure false)

/-! ## §3 When a rollback undoes a clear -/

/-- The rollback button gets past the checks: the device it starts to push to. -/
def Session.rebackStarts (s : Session β) (rc : RebackRc) : Option String :=
  if s.dlg.m_copyName ≠ "" then
    match ((rebackChecks rc).run s.dlg).1 with
    | .ok o => o
    | .error _ => none
  else none

/-- If the rollback button starts to push, the last pull was by a clear of that device,
`m_copyName` names its backup, and that is what is pushed. -/
def Session.RebackUndoesClear (s : Session β) (rc : RebackRc) : Prop :=
  ∀ strDevID, s.rebackStarts rc = some strDevID →
    ∃ pull, s.lastPull = some pull ∧ pull.clear = true ∧ pull.strDevID = strDevID ∧
      pull.strName = s.dlg.m_copyName ∧
      ((rebackChecks rc).run s.dlg).2.world.sq.file = pull.file

/-- The backup of a pull is under its name: the file is copied, or no file has the name. -/
def PhoneToPcRc.NamesBackup (fmt : SqliteFormat β) (rc : PhoneToPcRc) (s : Dlg β) : Prop :=
  ∀ strDevID, rc.connect.device = some strDevID →
    (rc.CopyFile = true ∧ (rc.received fmt strDevID s).pathFileExists = true) ∨
      (s.backUp rc.strName).pathFileExists = false

/-- The clear flag is set exactly in the pulls of a clear, and a clear's backup gets its name. -/
def Operation.Marked (fmt : SqliteFormat β) (s : Session β) : Operation → Prop
  | .beginClear confirmed rc =>
    confirmed = true → rc.timeBegin ≤ rc.timeEnd → rc.pull.NamesBackup fmt s.dlg
  | .sync _ _ _ rc =>
    rc.yes = true → rc.pull.connect.device ≠ none → s.dlg.m_clearFlag = false
  | .reback _ _ => True

/-- The name kept is that of the last pull's backup, and that pull was a clear's. -/
def Session.Undoable (s : Session β) : Prop :=
  s.dlg.m_copyName = "" ∨
    ∃ pull, s.lastPull = some pull ∧ pull.clear = true ∧ pull.strDevID = s.dlg.m_clearDeviceID ∧
      pull.strName = s.dlg.m_copyName ∧
      (s.dlg.backUp s.dlg.m_copyName = pull.file ∨
        (s.dlg.backUp s.dlg.m_copyName).pathFileExists = false)

private theorem undoable_of_sameClear {s t : Dlg β} {lastPull : Option Pull}
    (h : SameClear s t) (hs : Session.Undoable ⟨s, lastPull⟩) :
    Session.Undoable ⟨t, lastPull⟩ := by
  rw [Session.Undoable] at hs ⊢
  dsimp only at hs ⊢
  rw [h.copyName, h.deviceID, h.backUp]
  exact hs

/-- A pull whose flag tells by whom it is. -/
private theorem undoable_pull (fmt : SqliteFormat β) (clear : Bool) (rc : PhoneToPcRc)
    (s : Session β) (hs : s.Undoable)
    (hflag : rc.connect.device ≠ none → s.dlg.m_clearFlag = clear)
    (hname : clear = true → rc.NamesBackup fmt s.dlg) :
    Session.Undoable ⟨((beginPhoneToPc fmt rc).run s.dlg).2, s.pulled fmt clear rc⟩ := by
  cases hdev : rc.connect.device with
  -- no phone: what is remembered of the last pull stays
  | none =>
    obtain ⟨hnone, hsame⟩ := beginPhoneToPc_stops hdev fmt s.dlg
    have hlast : s.pulled fmt clear rc = s.lastPull := by
      rw [Session.pulled]
      split
      · next dev t hrun => exact absurd (congrArg Prod.fst hrun) (hnone dev)
      · rfl
    rw [hlast]
    exact undoable_of_sameClear hsame hs
  | some dev =>
    obtain ⟨t, hrun, -, hcopy, hid, hfile, hback⟩ := beginPhoneToPc_pulls hdev fmt s.dlg
    have hlast : s.pulled fmt clear rc = some ⟨clear, dev, rc.strName, t.world.sq.file⟩ := by
      rw [Session.pulled, hrun]
    rw [hrun, hlast]
    rw [hflag (by rw [hdev]; exact Option.some_ne_none dev)] at hcopy hid
    cases clear with
    -- a pull that is not for a clear forgets the copy
    | false => exact .inl hcopy
    -- the copy kept is the file pulled, unless the name was free and stays so
    | true =>
      refine .inr ⟨_, rfl, rfl, hid.symm, hcopy.symm, ?_⟩
      dsimp only
      rw [hcopy, if_pos rfl, hback, hfile]
      rcases hname rfl dev hdev with ⟨hok, hexists⟩ | hfresh
      · rw [hok, hexists, if_pos (Bool.and_self true), Function.update_self]
        exact .inl rfl
      · split
        · rw [Function.update_self]
          exact .inl rfl
        · exact .inr hfresh

/-- Every operation keeps this. -/
private theorem step_undoable (fmt : SqliteFormat β) (s : Session β) (op : Operation)
    (s' : Session β) (hs : s.Undoable) (hop : op.Marked fmt s)
    (hstep : s.step fmt op = some s') : s'.Undoable := by
  cases op with
  -- the pull of the clear is the one remembered
  | beginClear confirmed rc =>
    rw [Session.step] at hstep
    cases confirmed with
    | false =>
      cases hstep
      exact hs
    | true =>
      cases hstep
      dsimp only
      by_cases hdays : rc.timeBegin > rc.timeEnd
      · rw [if_pos hdays, beginClearThread, if_pos hdays]
        exact hs
      · rw [if_neg hdays]
        refine undoable_of_sameClear (beginClearThread_after_pull fmt rc _ hdays) ?_
        exact undoable_pull fmt true rc.pull { s with dlg := { s.dlg with m_clearFlag := true } }
          hs (fun _ => rfl) fun _ => hop rfl (Nat.le_of_not_lt hdays)
  -- the pull of a synchronisation
  | sync sel dir mode rc =>
    rw [Session.step] at hstep
    cases hstep
    cases hyes : rc.yes with
    | false =>
      rw [if_neg (by decide), myControllingFunction, hyes, if_neg (by decide)]
      exact hs
    | true =>
      rw [if_pos rfl]
      refine undoable_of_sameClear (myControllingFunction_after_pull fmt sel dir mode rc _ hyes) ?_
      exact undoable_pull fmt false rc.pull s hs (hop hyes) fun h => by cases h
  -- a rollback pulls nothing
  | reback confirmed rc =>
    rw [Session.step] at hstep
    split at hstep
    · cases hstep
      exact undoable_of_sameClear (keeps_beginRebackData fmt rc s.dlg) hs
    · cases hstep
      exact hs

/-- What the checks of a rollback establish when it gets past them. -/
private theorem rebackChecks_some {rc : RebackRc} {s : Dlg β} {strDevID : String}
    (h : ((rebackChecks rc).run s).1 = .ok (some strDevID)) :
    (s.backUp s.m_copyName).pathFileExists = true ∧ strDevID = s.m_clearDeviceID ∧
      ((rebackChecks rc).run s).2.world.sq.file = s.backUp s.m_copyName := by
  rw [rebackChecks, Act.bind_run_ok (Act.read_run s)] at h ⊢
  dsimp only at h ⊢
  -- each check that fails returns without a device
  by_cases hexists : (s.backUp s.m_copyName).pathFileExists = true
  · rw [hexists, Bool.not_true, if_neg (by decide)] at h ⊢
    by_cases hcopy : (!rc.CopyFile) = true
    · rw [if_pos hcopy] at h
      cases h
    rw [if_neg hcopy, Act.bind_run_ok (Act.modify_run _ _)] at h ⊢
    cases hdev : rc.connect.strDevID with
    | none =>
      rw [hdev] at h
      cases h
    | some dev =>
      rw [hdev] at h
      dsimp only at h ⊢
      by_cases hne : dev ≠ s.m_clearDeviceID
      · rw [if_pos hne] at h
        cases h
      rw [if_neg hne] at h ⊢
      cases hconn : rc.connect.device with
      | none => cases connect_run_none hdev hconn _ h
      | some dev' =>
        obtain rfl : dev' = dev := by
          rw [ConnectRc.device, hdev] at hconn
          split at hconn
          · exact (Option.some.inj hconn).symm
          · cases hconn
        rw [connect_run_device hconn] at h ⊢
        cases h
        exact ⟨rfl, not_not.1 hne, rfl⟩
  · have hmissing : (s.backUp s.m_copyName).pathFileExists = false := Bool.not_eq_true _ ▸ hexists
    rw [hmissing, Bool.not_false, if_pos rfl] at h
    cases h

/-- **Rollback only ever undoes a clear**, in every run of operations in which the clear flag is
set exactly in the pulls of a clear. -/
theorem rollback_undoes_clear (fmt : SqliteFormat β) {s s' : Session β} {ops : List Operation}
    (hstart : s.dlg.m_copyName = "")
    (hrun : Run (Session.step fmt) (fun s op => op.Marked fmt s) s ops s') (rc : RebackRc) :
    s'.RebackUndoesClear rc := by
  have hundo : s'.Undoable := hrun.invariant (step_undoable fmt) (.inl hstart)
  intro strDevID hstarts
  rw [Session.rebackStarts] at hstarts
  split at hstarts
  · next hname =>
    split at hstarts
    · next o hchecks =>
      subst hstarts
      -- the rollback has begun, so there is a copy: that of the last clear
      obtain ⟨hexists, hid, hfile⟩ := rebackChecks_some hchecks
      rcases hundo with hnil | ⟨pull, hlast, hclear, hdev, hcopy, hback⟩
      · exact absurd hnil hname
      · refine ⟨pull, hlast, hclear, hdev.trans hid.symm, hcopy, ?_⟩
        rcases hback with hback | hback
        · rw [hfile, hback]
        · rw [hback] at hexists
          cases hexists
    · cases hstarts
  · cases hstarts

/-- A clear of one day, whose push fails. -/
def ClearThreadRc.pushFails : ClearThreadRc where
  timeBegin := 0
  timeEnd := 0
  range := ⟨"2024-01-01 00:00:00", "2024-01-01 23:59:59"⟩
  pull := PhoneToPcRc.allOk "2024-01-01-08-00-00"
  clear := ClearRc.allOk
  push := PushRc.noContent

/-- Every call of a rollback succeeds. -/
def RebackRc.allOk : RebackRc where
  CopyFile := true
  connect := ConnectRc.allOk
  push := PushRc.noContent

/-- A clear whose push fails, and then the rollback button. -/
theorem clear_then_rollback :
    ∃ s : Session SqliteDB,
      Run (Session.step SqliteFormat.single) (fun s op => op.Marked SqliteFormat.single s)
        ⟨Dlg.pushing, none⟩ [.beginClear true ClearThreadRc.pushFails] s ∧
      s.rebackStarts RebackRc.allOk = some "dev" ∧ s.RebackUndoesClear RebackRc.allOk := by
  refine ⟨_, .cons ?_ rfl .nil, rfl,
    rollback_undoes_clear SqliteFormat.single (s := ⟨Dlg.pushing, none⟩) rfl
      (.cons (e := .beginClear true ClearThreadRc.pushFails) ?_ rfl .nil) RebackRc.allOk⟩
  · exact fun _ _ dev hdev => .inr rfl
  · exact fun _ _ dev hdev => .inr rfl

/-- A sync that pulls and then cannot reach the server. -/
def SyncRc.noServer : SyncRc where
  yes := true
  pull := PhoneToPcRc.allOk "2024-01-01-08-00-00"
  switch := { SwitchRc.allOk ClearThreadRc.pushFails.range with init := false }
  push := PushRc.noContent

/-- A clear is cancelled, a sync pulls: the rollback button pushes the sync's backup. -/
theorem cancelled_clear_marks_sync :
    ¬∀ (ops : List Operation) (s : Session SqliteDB),
      Run (Session.step SqliteFormat.single) (fun _ _ => True) ⟨Dlg.pushing, none⟩ ops s →
        ∀ rc, s.RebackUndoesClear rc := by
  intro h
  obtain ⟨pull, hlast, hclear, -⟩ := h
    [.beginClear false ClearThreadRc.pushFails,
      .sync (Selection.ofDevice "d") .tongbu_to_phone .radio_work SyncRc.noServer]
    _ (.cons trivial rfl (.cons trivial rfl .nil)) RebackRc.allOk "dev" rfl
  have hsync : some (⟨false, "dev", "2024-01-01-08-00-00", .holds SqliteDB.empty⟩ : Pull) =
      some pull := hlast
  rw [← Option.some.inj hsync] at hclear
  cases hclear

end MtpSync
