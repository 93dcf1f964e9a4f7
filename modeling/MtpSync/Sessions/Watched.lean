import MtpSync.Sessions.Routines

/-!
# What a routine does to the gate and the lock

Two flags watch the answers of a run: `harmed` is raised by an answer after which a routine leaves
the gate taken, `broken` by one after which a session leaves the lock held.

- §1 the flags
- §2 opening and closing the phone's database
- §3 work that leaves the gate, the lock and the connection alone
- §4 the routines: a routine gives the gate back unless it was harmed, and has no part in the lock
-/

namespace MtpSync

namespace Sessions

open Prog

/-! ## §1 The flags -/

/-- The answers that lose the gate: an exception with the database open or half open, and the two
failures that make a routine return before `CloseDataBase`. -/
def harms : Call × Option Bool → Bool
  | (.sqlite3_open, none) => true
  | (.sqlite3_closeFailed, none) => true
  | (.select _, none) => true
  | (.query _, none) => true
  | (.oneQuery _, none) => true
  | (.select (.deleted .work_template), some false) => true
  | (.quickSelectDataCount .finished, b) => b ≠ some true
  | _ => false

/-- The answers that lose the lock: no connection, and an exception between `InitMyDataBase` and
`Close` that no routine catches. -/
def breaks : Call × Option Bool → Bool
  | (.mysql_real_connect, b) => b ≠ some true
  | (.select .tree_areas, none) => true
  | (.select .tree_device_info, none) => true
  | (.select .login_users, none) => true
  | (.query .marks, none) => true
  | (.oneQuery .marks, none) => true
  | _ => false

@[ext]
structure Flags where
  harmed : Bool
  broken : Bool

def Flags.down : Flags := ⟨false, false⟩

def note (m : Flags) (e : Call × Option Bool) : Flags :=
  ⟨m.harmed || harms e, m.broken || breaks e⟩

/-- After a trace the flags tell whether it has such an answer. -/
theorem foldl_note (tr : Trace Call) (m : Flags) :
    tr.foldl note m = ⟨m.harmed || tr.any harms, m.broken || tr.any breaks⟩ := by
  induction tr generalizing m with
  | nil => simp
  | cons e tr ih =>
    rw [List.foldl_cons, ih, note, List.any_cons, List.any_cons, Bool.or_assoc, Bool.or_assoc]

theorem note_harmless {e : Call × Option Bool} (m : Flags) (hh : harms e = false)
    (hb : breaks e = false) : note m e = m := by
  rw [note, hh, hb, Bool.or_false, Bool.or_false]

/-- The gate, the lock and the connection, with the flags. -/
abbrev Watched := Locks × Flags

/-- The effect of a call, with the flags. -/
abbrev watched : Call × Option Bool → Watched → Option Watched := watch effect note

/-- The same with the flag raised. -/
def Watched.harm (w : Watched) : Watched := (w.1, { w.2 with harmed := true })

theorem note_harms {e : Call × Option Bool} (w : Watched) (hh : harms e = true)
    (hb : breaks e = false) : (w.1, note w.2 e) = w.harm := by
  rw [note, hh, hb, Bool.or_true, Bool.or_false, Watched.harm]

/-! ## §2 Opening and closing -/

/-- However it ends, recording an error changes nothing. -/
theorem recordLastError_wp {Q : Option Unit → Watched → Prop} {w : Watched}
    (hsome : Q (some ()) w) (hnone : Q none w) : recordLastError.wp watched Q w := by
  have hm : ∀ b, note w.2 (.sqlite3_errmsg16, b) = w.2 := fun b => note_harmless _ rfl rfl
  rintro (_ | b) t ht
  · cases ht
    rw [hm]
    exact hnone
  · cases ht
    rw [hm]
    exact hsome

/-- Recording an error and answering `FALSE`. -/
private theorem recordedFalse_wp {Q : Option Bool → Watched → Prop} {w : Watched}
    (hsome : Q (some false) w) (hnone : Q none w) :
    (recordLastError >>= fun _ => pure false : Prog Call Bool).wp watched Q w :=
  wp.bind (recordLastError_wp (Q := fun _ t => t = w) rfl rfl) (fun _ _ h => h ▸ hsome)
    (fun _ h => h ▸ hnone)

/-- `OpenDataBase` comes back only through a signalled gate.  It has taken the gate if it answers
`TRUE`, and otherwise gives it back unless a call in between has thrown. -/
theorem openDataBase_wp (w : Watched) :
    openDataBase.wp watched (fun r t => w.1.m_eventOpenDB = true ∧ match r with
      | some true => t = ({ w.1 with m_eventOpenDB := false }, w.2)
      | _ => t = w ∨ t = Watched.harm ({ w.1 with m_eventOpenDB := false }, w.2)) w := by
  obtain ⟨⟨_ | _, n, k⟩, m⟩ := w
  · -- the gate is taken: the wait does not come back
    intro b t ht
    cases ht
  · refine wp.tryCatch (R := fun r t => match r with
      | some true => t = (⟨false, n, k⟩, m)
      | some false => t = (⟨true, n, k⟩, m)
      | none => t = (⟨true, n, k⟩, m) ∨ t = Watched.harm (⟨false, n, k⟩, m)) ?_ ?_ ?_
    · intro b t ht
      cases ht
      have hwait : note m (.waitForSingleObject, b) = m := note_harmless m rfl rfl
      rw [hwait]
      rintro (_ | _ | _) t ht <;> cases ht
      · exact Or.inr (by simp [note, harms, breaks, Watched.harm])
      · -- `sqlite3_open` has failed
        have hopen : note m (.sqlite3_open, some false) = m := note_harmless m rfl rfl
        rw [hopen]
        rintro (_ | b) t ht <;> cases ht
        · exact Or.inr (by simp [note, harms, breaks, Watched.harm])
        · intro b' t ht
          cases ht
          have hclose : note m (.sqlite3_closeFailed, some b) = m := note_harmless m rfl rfl
          have hset : note m (.setEvent, b') = m := note_harmless m rfl rfl
          rw [hclose, hset]
          exact recordedFalse_wp rfl (Or.inl rfl)
      · exact congrArg (Prod.mk _) (note_harmless m rfl rfl)
    · rintro (_ | _) t h
      · exact ⟨rfl, Or.inl h⟩
      · exact ⟨rfl, h⟩
    · intro t h
      exact recordedFalse_wp ⟨rfl, h⟩ ⟨rfl, h⟩

/-- `CloseDataBase` signals the gate, however it ends. -/
theorem closeDataBase_wp (w : Watched) :
    closeDataBase.wp watched (fun _ t => t = ({ w.1 with m_eventOpenDB := true }, w.2)) w := by
  obtain ⟨s, m⟩ := w
  refine wp.tryCatch (R := fun _ t => t = ({ s with m_eventOpenDB := true }, m)) ?_
    (fun _ _ h => h) (fun _ h => recordedFalse_wp h h)
  intro b t ht
  cases ht
  have hset : note m (.setEvent, b) = m := note_harmless m rfl rfl
  rw [hset]
  rintro (_ | _ | _) t ht <;> cases ht
  · exact congrArg (Prod.mk _) (note_harmless m rfl rfl)
  · have hclose : note m (.sqlite3_close, some false) = m := note_harmless m rfl rfl
    rw [hclose]
    exact recordedFalse_wp rfl rfl
  · exact congrArg (Prod.mk _) (note_harmless m rfl rfl)

/-! ## §3 Work -/

/-- Work with the database open: it leaves everything as it is, and raises `harmed` exactly when
it does not come to an end that `stays` for `CloseDataBase`. -/
def Quiet {α : Type} (stays : α → Bool) (p : Prog Call α) : Prop :=
  ∀ s m, p.wp watched (fun r t => t = (s, { m with harmed := m.harmed || !r.any stays })) (s, m)

section Quiet

variable {α β : Type} {stays : β → Bool}

/-- Work that always stays. -/
abbrev Stays (p : Prog Call α) : Prop := Quiet (fun _ => true) p

theorem quiet_pure (b : β) (h : stays b = true) : Quiet stays (pure b) := by
  intro s m
  apply wp_pure
  rw [Option.any_some, h, Bool.not_true, Bool.or_false]

theorem stays_pure (a : α) : Stays (pure a : Prog Call α) := quiet_pure a rfl

/-- Work after work. -/
theorem Quiet.bind {p : Prog Call α} {f : α → Prog Call β} (hp : Stays p)
    (hf : ∀ a, Quiet stays (f a)) : Quiet stays (p >>= f) := by
  intro s m
  refine wp.bind (hp s m) ?_ ?_
  · rintro a t rfl
    rw [Option.any_some, Bool.not_true, Bool.or_false]
    exact hf a s m
  · rintro t rfl
    rfl

theorem Quiet.ite {c : Prop} [Decidable c] {p q : Prog Call β} (hp : Quiet stays p)
    (hq : Quiet stays q) : Quiet stays (if c then p else q) := by
  split
  · exact hp
  · exact hq

/-- A call of `CSQLite`. -/
theorem stays_guarded (c : Call) (heffect : ∀ b s, effect (c, b) s = some s)
    (hharms : ∀ b, harms (c, b) = false) (hbreaks : ∀ b, breaks (c, b) = false) :
    Stays (guarded c) := by
  intro s m
  apply wp_guarded
  intro b t ht
  rw [watched, watch, heffect] at ht
  cases ht
  rw [note_harmless m (hharms b) (hbreaks b), Option.any_some, Bool.not_true, Bool.or_false]

/-- A call of `CMyDataBase`: an exception does harm, an answer does not. -/
theorem stays_must (c : Call) (heffect : ∀ b s, effect (c, b) s = some s)
    (hharms : ∀ b, harms (c, b) = b.isNone) (hbreaks : ∀ b, breaks (c, b) = false) :
    Stays (must c) := by
  intro s m
  refine wp_must ?_ ?_
  · intro b t ht
    rw [watched, watch, heffect] at ht
    cases ht
    rw [note_harmless m (hharms _) (hbreaks _), Option.any_some, Bool.not_true, Bool.or_false]
  · intro t ht
    rw [watched, watch, heffect] at ht
    cases ht
    rw [note, hharms, hbreaks, Bool.or_false]
    rfl

end Quiet

theorem stays_quickInsertData : Stays (guarded .quickInsertData) :=
  stays_guarded _ (fun _ _ => rfl) (fun _ => rfl) (fun _ => rfl)

theorem stays_quickDeletData : Stays (guarded .quickDeletData) :=
  stays_guarded _ (fun _ _ => rfl) (fun _ => rfl) (fun _ => rfl)

theorem stays_deleteData : Stays (guarded .deleteData) :=
  stays_guarded _ (fun _ _ => rfl) (fun _ => rfl) (fun _ => rfl)

theorem stays_quickSelectData : Stays (guarded .quickSelectData) :=
  stays_guarded _ (fun _ _ => rfl) (fun _ => rfl) (fun _ => rfl)

theorem stays_count (t : Table) :
    Stays (guarded (.quickSelectDataCount (.unsynchronised t))) :=
  stays_guarded _ (fun _ _ => rfl) (fun _ => rfl) (fun _ => rfl)

theorem stays_now : Stays (must (.select .now)) :=
  stays_must _ (fun _ _ => rfl) (fun b => by rcases b with _ | _ | _ <;> rfl) (fun _ => rfl)

theorem stays_news (t : Table) : Stays (must (.select (.news t))) :=
  stays_must _ (fun _ _ => rfl) (fun b => by rcases b with _ | _ | _ <;> rfl) (fun _ => rfl)

theorem stays_removed (t : Table) : Stays (must (.select (.removed t))) :=
  stays_must _ (fun _ _ => rfl) (fun b => by rcases b with _ | _ | _ <;> rfl) (fun _ => rfl)

theorem stays_deleted (t : Table) (h : t ≠ .work_template) :
    Stays (must (.select (.deleted t))) := by
  refine stays_must _ (fun _ _ => rfl) ?_ (fun _ => rfl)
  intro b
  cases t with
  | work_template => exact absurd rfl h
  | _ => rcases b with _ | _ | _ <;> rfl

theorem stays_query : Stays (must (.query .own)) :=
  stays_must _ (fun _ _ => rfl) (fun b => by cases b <;> rfl) (fun _ => rfl)

theorem stays_oneQuery : Stays (must (.oneQuery .own)) :=
  stays_must _ (fun _ _ => rfl) (fun b => by cases b <;> rfl) (fun _ => rfl)

/-- `UpdateMysqlDB`, whatever is in the text already. -/
private theorem stays_updateMysqlDBLoop (n sqlNum : ℕ) :
    Stays (updateMysqlDBLoop .own n sqlNum) := by
  induction n generalizing sqlNum with
  | zero => exact stays_oneQuery.ite (stays_query.ite (stays_pure true))
  | succ n ih =>
    refine Quiet.ite (stays_query.bind fun b => ?_) (ih (sqlNum + 1))
    exact Quiet.ite (ih 1) (stays_pure false)

theorem stays_updateMysqlDB (n : ℕ) : Stays (updateMysqlDB .own n) :=
  stays_updateMysqlDBLoop n 0

theorem Quiet.ifRows {n : ℕ} {rows : Prog Call Bool} (hrows : Stays rows) :
    Stays (ifRows n rows) :=
  hrows.ite (stays_pure true)

theorem Quiet.selected {of : Selected} {n : ℕ} {rows : Prog Call Bool}
    (hof : Stays (must (.select of))) (hrows : Stays rows) : Stays (selected of n rows) :=
  hof.bind fun _ => hrows.ifRows.ite (stays_pure false)

theorem stays_copied (t : Table) (d : Found) : Stays (copied t d) :=
  (stays_news t).selected stays_quickInsertData

theorem stays_purged (t : Table) (d : Found) (h : t ≠ .work_template) : Stays (purged t d) :=
  (stays_deleted t h).selected stays_quickDeletData

/-! ## §4 The routines -/

/-- From `w` to `t` the lock and the connection are as they were, and the gate is given back
unless `harmed` was raised. -/
structure Gate (w t : Watched) : Prop where
  g_clsMutex : t.1.g_clsMutex = w.1.g_clsMutex
  connections : t.1.connections = w.1.connections
  broken : t.2.broken = w.2.broken
  signalled : ∃ harm, t.2.harmed = (w.2.harmed || harm) ∧
    t.1.m_eventOpenDB = (w.1.m_eventOpenDB && !harm)

theorem Gate.refl (w : Watched) : Gate w w where
  g_clsMutex := rfl
  connections := rfl
  broken := rfl
  signalled := ⟨false, (Bool.or_false _).symm, (Bool.and_true _).symm⟩

/-- Harm was done with the gate taken. -/
theorem Gate.harm (w : Watched) : Gate w (Watched.harm ({ w.1 with m_eventOpenDB := false }, w.2))
    where
  g_clsMutex := rfl
  connections := rfl
  broken := rfl
  signalled := ⟨true, (Bool.or_true _).symm, (Bool.and_false _).symm⟩

/-- A routine has such a gate, however its calls answer. -/
def Gated (p : Prog Call Bool) : Prop := ∀ w, p.wp watched (fun _ t => Gate w t) w

theorem gated_pure (b : Bool) : Gated (pure b) := fun w => wp_pure (Gate.refl w)

theorem Gated.ifFile {d : Found} {p : Prog Call Bool} (hp : Gated p) : Gated (ifFile d p) := by
  intro w
  exact wp_ite (fun _ => hp w) (fun _ => gated_pure false w)

theorem Gated.tried {p : Prog Call Bool} (hp : Gated p) : Gated (tried p) := by
  intro w
  exact wp.tryCatch (hp w) (fun _ _ h => h) (fun _ h => wp_pure h)

/-- A routine that works quietly between `OpenDataBase` and `CloseDataBase`. -/
theorem Quiet.whenOpen {work : Prog Call (Option Bool)} (hw : Quiet Option.isSome work) :
    Gated (whenOpen work) := by
  intro w
  refine wp.bind (openDataBase_wp w) ?_ ?_
  · rintro (_ | _) t ⟨hopen, ht⟩
    · rcases ht with rfl | rfl
      · exact wp_pure (Gate.refl _)
      · exact wp_pure (Gate.harm w)
    · -- the gate is taken
      obtain rfl : t = ({ w.1 with m_eventOpenDB := false }, w.2) := ht
      refine wp.bind (hw _ _) ?_ ?_
      · rintro (_ | retRes) t rfl
        · -- the work has returned from inside
          apply wp_pure
          simpa [Watched.harm] using Gate.harm w
        · refine wp.bind (closeDataBase_wp _) ?_ ?_
          · rintro _ t rfl
            apply wp_pure
            have hback : ({ w.1 with m_eventOpenDB := true } : Locks) = w.1 := by rw [← hopen]
            simpa [hback] using Gate.refl w
          · rintro t rfl
            have hback : ({ w.1 with m_eventOpenDB := true } : Locks) = w.1 := by rw [← hopen]
            simpa [hback] using Gate.refl w
      · rintro t rfl
        simpa [Watched.harm] using Gate.harm w
  · rintro t ⟨_, rfl | rfl⟩
    · exact Gate.refl _
    · exact Gate.harm w

theorem gated_deleteAreaAndDevice (m : Option Doomed) (d : Found) :
    Gated (deleteAreaAndDevice m d) := by
  cases m with
  | none => exact (gated_pure true).tried
  | some m =>
    have hdevices : Stays (deleteDevices m) := by
      refine Quiet.ite (stays_quickDeletData.bind fun _ => stays_deleteData.bind fun _ => ?_)
        (stays_pure ())
      refine Quiet.ite ((stays_updateMysqlDB _).bind fun _ => ?_) (stays_pure ())
      exact stays_query.bind fun _ => stays_pure ()
    have hareas : Stays (deleteAreas m) := by
      refine Quiet.ite (stays_quickDeletData.bind fun _ => stays_quickDeletData.bind fun _ => ?_)
        (stays_pure true)
      exact Quiet.ite (stays_updateMysqlDB _) (stays_pure false)
    refine (Quiet.whenOpen ?_).ifFile.tried
    refine hdevices.bind fun _ => hareas.bind fun _ => ?_
    refine ((stays_removed .sys_user).selected stays_quickDeletData).bind fun _ => ?_
    exact stays_oneQuery.bind fun _ => quiet_pure _ rfl

/-- The routines that copy what is new and delete what is deleted. -/
theorem quiet_copied_purged (t : Table) (d : Found) (h : t ≠ .work_template) :
    Quiet Option.isSome (do
      let ret ← copied t d
      let ret' ← purged t d
      pure (some (ret && ret'))) :=
  (stays_copied t d).bind fun _ => (stays_purged t d h).bind fun _ => quiet_pure _ rfl

theorem gated_synchrodata_areas (dir : TongbuDir) (shown : Bool) (d : Found) :
    Gated (synchrodata_areas dir shown d) := by
  cases dir with
  | tongbu_to_pc => exact (gated_pure true).tried
  | tongbu_to_phone =>
    have hshown : Stays (copiedAreas shown d) := (stays_copied .areas d).ite (stays_pure true)
    refine (Quiet.whenOpen (hshown.bind fun _ => ?_)).tried
    exact (stays_purged .areas d (by decide)).bind fun _ => quiet_pure _ rfl

theorem gated_synchrodata_sys_user (d : Found) : Gated (synchrodata_sys_user d) :=
  (quiet_copied_purged .sys_user d (by decide)).whenOpen.ifFile.tried

/-- The end of an upload: the statements, and the marks on the phone if they went through. -/
private theorem quiet_sent {n : ℕ} {ret : Bool → Bool} {ret' : Bool} :
    Quiet Option.isSome (do
      let sent ← updateMysqlDB .own n
      if sent then
        let marked ← guarded .quickInsertData
        pure (some (ret marked))
      else pure (some ret')) := by
  refine (stays_updateMysqlDB n).bind fun sent => Quiet.ite ?_ (quiet_pure _ rfl)
  exact stays_quickInsertData.bind fun _ => quiet_pure _ rfl

theorem gated_synchrodata_device_info (dir : TongbuDir) (d : Found) :
    Gated (synchrodata_device_info dir d) := by
  cases dir with
  | tongbu_to_pc =>
    refine (Quiet.whenOpen ((stays_count .device_info).bind fun _ => ?_)).tried
    refine Quiet.ite (Quiet.ite (stays_quickSelectData.bind fun _ => quiet_sent) ?_) ?_
    · exact (stays_updateMysqlDB 0).bind fun _ => quiet_pure _ rfl
    · exact (stays_updateMysqlDB 0).bind fun _ => quiet_pure _ rfl
  | tongbu_to_phone =>
    exact (quiet_copied_purged .device_info d (by decide)).whenOpen.tried

theorem gated_synchrodata_work_type (dir : TongbuDir) (d : Found) :
    Gated (synchrodata_work_type dir d) := by
  cases dir with
  | tongbu_to_pc => exact (gated_pure true).tried
  | tongbu_to_phone =>
    exact (quiet_copied_purged .work_type d (by decide)).whenOpen.ifFile.tried

/-- The selection whose failure makes `Synchrodata_work_template` return: a failure does harm. -/
private theorem deletedTemplate_wp {Q : Option (Option Bool) → Watched → Prop}
    {next : Bool → Prog Call (Option Bool)} {w : Watched}
    (htrue : (next true).wp watched Q w)
    (hfalse : (next false).wp watched Q w.harm) (hnone : Q none w.harm) :
    (must (.select (.deleted .work_template)) >>= next).wp watched Q w := by
  rintro (_ | _ | _) t ht <;> cases ht
  · show Q none (w.1, note w.2 _)
    rwa [note_harms w rfl rfl]
  · show (next false).wp watched Q (w.1, note w.2 _)
    rwa [note_harms w rfl rfl]
  · show (next true).wp watched Q (w.1, note w.2 _)
    rwa [note_harmless _ rfl rfl]

theorem gated_synchrodata_work_template (dir : TongbuDir) (d : Found) :
    Gated (synchrodata_work_template dir d) := by
  cases dir with
  | tongbu_to_pc => exact (gated_pure true).tried
  | tongbu_to_phone =>
    refine (Quiet.whenOpen ((stays_copied .work_template d).bind fun _ => ?_)).ifFile.tried
    intro s m
    refine deletedTemplate_wp ?_ ?_ ?_
    · exact stays_quickDeletData.ifRows.bind (fun _ => quiet_pure _ rfl) s m
    · -- the routine returns from inside
      apply wp_pure
      simp [Watched.harm]
    · simp [Watched.harm]

theorem stays_deleteTasks : Stays deleteTasks :=
  stays_quickDeletData.bind fun _ => stays_quickDeletData.bind fun _ =>
    stays_quickDeletData.bind fun _ => stays_deleteData.bind fun _ => stays_pure ()

theorem gated_synchrodata_work_task (dir : TongbuDir) (d : Found) :
    Gated (synchrodata_work_task dir d) := by
  cases dir with
  | tongbu_to_pc =>
    refine (Quiet.whenOpen (stays_now.bind fun _ => ?_)).ifFile.tried
    refine (stays_count .work_task).bind fun _ => ?_
    refine Quiet.ite (Quiet.ite (stays_quickSelectData.bind fun _ => ?_) ?_) ?_
    · exact quiet_sent
    · exact (stays_updateMysqlDB 0).bind fun _ => quiet_pure _ rfl
    · exact (stays_updateMysqlDB 0).bind fun _ => quiet_pure _ rfl
  | tongbu_to_phone =>
    have hdelete : Stays (deleteTasks >>= fun _ => pure true) :=
      stays_deleteTasks.bind fun _ => stays_pure true
    refine (Quiet.whenOpen ?_).ifFile.tried
    refine ((stays_deleted .work_task (by decide)).selected hdelete).bind fun _ => ?_
    refine ((stays_removed .work_task).selected ?_).bind fun _ => ?_
    · exact stays_deleteTasks.bind fun _ => (stays_updateMysqlDB _).bind fun _ => stays_pure true
    · exact (stays_copied .work_task d).bind fun _ => quiet_pure _ rfl

theorem gated_synchrodata_work_record (dir : TongbuDir) (d : Found) :
    Gated (synchrodata_work_record dir d) := by
  have hdone : Quiet Option.isSome (pure (some true) : Prog Call (Option Bool)) :=
    quiet_pure _ rfl
  cases dir with
  | tongbu_to_pc =>
    refine (Quiet.whenOpen ((stays_count .work_record).bind fun _ => ?_)).ifFile.tried
    refine Quiet.ite (Quiet.ite (stays_quickSelectData.bind fun _ => ?_) hdone) hdone
    refine Quiet.ite ((stays_updateMysqlDB _).bind fun _ => ?_) hdone
    exact Quiet.ite (stays_quickInsertData.bind fun _ => hdone) hdone
  | tongbu_to_phone =>
    have hrows : Stays (guarded .quickInsertData >>= fun _ => pure true) :=
      stays_quickInsertData.bind fun _ => stays_pure true
    refine (Quiet.whenOpen ?_).ifFile.tried
    exact ((stays_news .work_record).selected hrows).bind fun _ => quiet_pure _ rfl

/-- The count of `Synchrodata_clear_record`: without a count the routine returns, which does
harm. -/
private theorem finishedCount_wp {Q : Option (Option Bool) → Watched → Prop}
    {next : Bool → Prog Call (Option Bool)} {w : Watched}
    (htrue : (next true).wp watched Q w) (hfalse : (next false).wp watched Q w.harm) :
    (guarded (.quickSelectDataCount .finished) >>= next).wp watched Q w := by
  rintro (_ | _ | _) t ht <;> cases ht
  · show (next false).wp watched Q (w.1, note w.2 _)
    rwa [note_harms w rfl rfl]
  · show (next false).wp watched Q (w.1, note w.2 _)
    rwa [note_harms w rfl rfl]
  · show (next true).wp watched Q (w.1, note w.2 _)
    rwa [note_harmless _ rfl rfl]

theorem gated_synchrodata_clear_record (d : Found) : Gated (synchrodata_clear_record d) := by
  have hdone : Quiet Option.isSome (pure (some true) : Prog Call (Option Bool)) :=
    quiet_pure _ rfl
  refine (Quiet.whenOpen fun s m => finishedCount_wp ?_ ?_).ifFile
  · refine Quiet.ite (Quiet.bind stays_quickSelectData fun _ => ?_) hdone s m
    refine Quiet.ite (stays_quickDeletData.bind fun _ => ?_) hdone
    exact stays_quickDeletData.bind fun _ => hdone
  · -- the routine returns from inside
    apply wp_pure
    simp [Watched.harm]

/-- **Every routine** gives the gate back unless one of its calls did harm, and leaves the lock
and the connection alone. -/
theorem gated_routine (f : Routine) : Gated f.body := by
  cases f with
  | DeleteAreaAndDevice m d => exact gated_deleteAreaAndDevice m d
  | Synchrodata_areas dir shown d => exact gated_synchrodata_areas dir shown d
  | Synchrodata_sys_user d => exact gated_synchrodata_sys_user d
  | Synchrodata_device_info dir d => exact gated_synchrodata_device_info dir d
  | Synchrodata_device_type => exact (gated_pure true).tried
  | Synchrodata_work_type dir d => exact gated_synchrodata_work_type dir d
  | Synchrodata_work_template dir d => exact gated_synchrodata_work_template dir d
  | Synchrodata_work_task dir d => exact gated_synchrodata_work_task dir d
  | Synchrodata_work_record dir d => exact gated_synchrodata_work_record dir d
  | Synchrodata_clear_record d => exact gated_synchrodata_clear_record d

end Sessions

end MtpSync
