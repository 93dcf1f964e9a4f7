import MtpSync.Sessions.Watched

/-!
# The MySQL lock over sequences of sessions

`Init_areas_tree`, `BeginSwitchData` and `CLogDlg::OnInitDialog`, the functions that open a MySQL
session, with the table routines they call.

- §1 the functions
- §2 what a session does to the lock and the connection
- §3 the lock is released and the connection closed exactly when the session connects, is not cut
  short by an exception, and its selection is not rejected
-/

namespace MtpSync

namespace Sessions

open Prog

/-! ## §1 The functions -/

/-- `Init_areas_tree`; `built` is the answer of `InitDeleteTreeStruct`, which makes no call. -/
def init_areas_tree (built : Bool) : Prog Call Bool :=
  tried do
    if ← initMyDataBase then
      let areas ← must (.select .tree_areas)
      let devices ← must (.select .tree_device_info)
      close
      if areas && devices then pure built else pure false
    else pure false

/-- `CLogDlg::OnInitDialog`; `config` is the answer of `InitConfig`.  There is no `try`. -/
def onInitDialog (config : Bool) : Prog Call Bool :=
  if config then do
    if ← initMyDataBase then
      let _ ← must (.select .login_users)
      close
      pure true
    else pure true
  else pure true

/-- What is selected in the tree. -/
inductive Item where
  | device | area | nothing
  deriving DecidableEq

/-- One chunk of the selected ids, and what the routines find for it. -/
structure Chunk where
  size : ℕ
  user : Found
  device_info : Found
  template : Found
  type : Found
  task : Found
  record : Found

/-- What one of the three blocks of `BeginSwitchData` reads: the mode it compares with, the
selection and its chunks, and how many marks are queued in the end.  The dialog may be changed
between the blocks. -/
structure Block where
  m_radioChoose : RadioChoose
  m_treeCtrl_curItem : Item
  chunks : List Chunk
  m_updateMysqlData : ℕ

/-- What a call of `BeginSwitchData` finds. -/
structure Switch where
  m_tongbu_dir : TongbuDir
  m_deleteTree : Option Doomed
  delete : Found
  areasShown : Bool
  areas : Found
  users : Block
  devices : Block
  work : Block

/-- The routines of one chunk, for every chunk that has items. -/
def forChunks (routine : Chunk → Prog Call Bool) : List Chunk → Prog Call Bool
  | [] => pure true
  | chunk :: chunks => do
    let ret ← ifRows chunk.size (routine chunk)
    let ret' ← forChunks routine chunks
    pure (ret && ret')

/-- The chunks of a block, and then the queue. -/
def chunked (routine : Chunk → Prog Call Bool) (b : Block) : Prog Call Bool := do
  let ret ← forChunks routine b.chunks
  let ret' ← updateMysqlDB .marks b.m_updateMysqlData
  pure (ret && ret')

/-- The block of the users.  With a device selected it returns `FALSE` from `BeginSwitchData`: the
`Close()` after that is never reached. -/
def userBlock (b : Block) : Prog Call (Option Bool) :=
  match b.m_radioChoose, b.m_treeCtrl_curItem with
  | .radio_user, .device => pure none
  | .radio_user, .area => do
    let ret ← chunked (fun c => synchrodata_sys_user c.user) b
    pure (some ret)
  | _, _ => pure (some true)

/-- The block of the devices, in the scope of devices or of areas. -/
def devicesBlock (d : Switch) (b : Block) : Prog Call Bool :=
  match b.m_radioChoose, b.m_treeCtrl_curItem with
  | .radio_devices, .nothing => do
    let _ ← synchrodata_areas d.m_tongbu_dir d.areasShown d.areas
    pure true
  | .radio_devices, _ => do
    let _ ← synchrodata_areas d.m_tongbu_dir d.areasShown d.areas
    chunked (fun c => synchrodata_device_info d.m_tongbu_dir c.device_info) b
  | _, _ => pure true

/-- The four routines of a chunk of tasks. -/
def workChunk (dir : TongbuDir) (c : Chunk) : Prog Call Bool := do
  let template ← synchrodata_work_template dir c.template
  let type ← synchrodata_work_type dir c.type
  let task ← synchrodata_work_task dir c.task
  let record ← synchrodata_work_record dir c.record
  pure (template && type && task && record)

/-- The block of the tasks. -/
def workBlock (dir : TongbuDir) (b : Block) : Prog Call Bool :=
  match b.m_radioChoose, b.m_treeCtrl_curItem with
  | .radio_work, .nothing => pure true
  | .radio_work, _ => chunked (workChunk dir) b
  | _, _ => pure true

/-- `BeginSwitchData`. -/
def beginSwitchData (d : Switch) : Prog Call Bool :=
  tried do
    if ← initMyDataBase then
      let _ ← deleteAreaAndDevice d.m_deleteTree d.delete
      match ← userBlock d.users with
      | none => pure false
      | some users =>
        let devices ← devicesBlock d d.devices
        let work ← workBlock d.m_tongbu_dir d.work
        close
        pure (users && devices && work)
    else pure false

/-- A call of one of the functions. -/
inductive Session where
  | Init_areas_tree (built : Bool)
  | BeginSwitchData (d : Switch)
  | OnInitDialog (config : Bool)

def Session.body : Session → Prog Call Bool
  | .Init_areas_tree built => init_areas_tree built
  | .BeginSwitchData d => beginSwitchData d
  | .OnInitDialog config => onInitDialog config

/-- Users are to be synchronised, and a device is selected. -/
def Session.Rejected : Session → Prop
  | .BeginSwitchData d =>
    d.users.m_radioChoose = .radio_user ∧ d.users.m_treeCtrl_curItem = .device
  | _ => False

/-! ## §2 What a session does -/

/-- Calls inside a session: the lock and the connection stay, and an exception raises `broken`. -/
def InSession {α : Type} (p : Prog Call α) : Prop :=
  ∀ w, p.wp watched (fun r t => t.1.g_clsMutex = w.1.g_clsMutex ∧
    t.1.connections = w.1.connections ∧ t.2.broken = (w.2.broken || r.isNone)) w

section InSession

variable {α β : Type}

theorem inSession_pure (a : α) : InSession (pure a : Prog Call α) :=
  fun _ => wp_pure ⟨rfl, rfl, (Bool.or_false _).symm⟩

theorem InSession.bind {p : Prog Call α} {f : α → Prog Call β} (hp : InSession p)
    (hf : ∀ a, InSession (f a)) : InSession (p >>= f) := by
  intro w
  refine wp.bind (hp w) ?_ (fun _ h => h)
  rintro a t ⟨hlock, hconn, hbroken⟩
  refine (hf a t).mono ?_
  rintro r u ⟨hlock', hconn', hbroken'⟩
  refine ⟨hlock'.trans hlock, hconn'.trans hconn, hbroken'.trans ?_⟩
  rw [hbroken, Option.isNone_some, Bool.or_false]

theorem InSession.ite {c : Prop} [Decidable c] {p q : Prog Call α} (hp : InSession p)
    (hq : InSession q) : InSession (if c then p else q) := by
  split
  · exact hp
  · exact hq

/-- A routine with a `try` around it is no more than a call that answers. -/
theorem inSession_of_gated {p : Prog Call Bool} (hp : Gated (tried p)) :
    InSession (tried p) := by
  intro w
  have hsome : (tried p).wp watched (fun r _ => r.isNone = false) w :=
    wp.tryCatch wp_true (fun _ _ _ => rfl) (fun t _ => rfl)
  refine ((hp w).and hsome).mono ?_
  rintro r t ⟨h, hr⟩
  exact ⟨h.g_clsMutex, h.connections, h.broken.trans (by rw [hr, Bool.or_false])⟩

/-- A call of `CMyDataBase` that no routine is around. -/
theorem inSession_must (c : Call) (heffect : ∀ b s, effect (c, b) s = some s)
    (hbreaks : ∀ b, breaks (c, b) = b.isNone) : InSession (must c) := by
  have hnote : ∀ m b, (note m (c, b)).broken = (m.broken || b.isNone) := by
    intro m b
    rw [note, hbreaks]
  intro w
  refine wp_must ?_ ?_
  · intro b t ht
    rw [watched, watch, heffect] at ht
    cases ht
    exact ⟨rfl, rfl, hnote _ _⟩
  · intro t ht
    rw [watched, watch, heffect] at ht
    cases ht
    exact ⟨rfl, rfl, hnote _ _⟩

theorem inSession_ifRows {n : ℕ} {p : Prog Call Bool} (hp : InSession p) :
    InSession (ifRows n p) :=
  hp.ite (inSession_pure true)

end InSession

theorem inSession_query : InSession (must (.query .marks)) :=
  inSession_must _ (fun _ _ => rfl) (fun b => by cases b <;> rfl)

theorem inSession_oneQuery : InSession (must (.oneQuery .marks)) :=
  inSession_must _ (fun _ _ => rfl) (fun b => by cases b <;> rfl)

/-- `UpdateMysqlDB` of the queue, whatever is in the text already. -/
private theorem inSession_updateMysqlDBLoop (n sqlNum : ℕ) :
    InSession (updateMysqlDBLoop .marks n sqlNum) := by
  induction n generalizing sqlNum with
  | zero => exact inSession_oneQuery.ite (inSession_query.ite (inSession_pure true))
  | succ n ih =>
    refine InSession.ite (inSession_query.bind fun b => ?_) (ih (sqlNum + 1))
    exact InSession.ite (ih 1) (inSession_pure false)

/-- The chunks, one after the other. -/
theorem inSession_forChunks {routine : Chunk → Prog Call Bool}
    (h : ∀ c, InSession (routine c)) (chunks : List Chunk) :
    InSession (forChunks routine chunks) := by
  induction chunks with
  | nil => exact inSession_pure true
  | cons c chunks ih =>
    exact (inSession_ifRows (h c)).bind fun _ => ih.bind fun _ => inSession_pure _

theorem inSession_chunked {routine : Chunk → Prog Call Bool}
    (h : ∀ c, InSession (routine c)) (b : Block) : InSession (chunked routine b) := by
  refine (inSession_forChunks h b.chunks).bind fun _ => ?_
  exact (inSession_updateMysqlDBLoop b.m_updateMysqlData 0).bind fun _ => inSession_pure _

theorem inSession_workChunk (dir : TongbuDir) (c : Chunk) : InSession (workChunk dir c) := by
  refine (inSession_of_gated (gated_synchrodata_work_template dir c.template)).bind fun _ => ?_
  refine (inSession_of_gated (gated_synchrodata_work_type dir c.type)).bind fun _ => ?_
  refine (inSession_of_gated (gated_synchrodata_work_task dir c.task)).bind fun _ => ?_
  refine (inSession_of_gated (gated_synchrodata_work_record dir c.record)).bind fun _ => ?_
  exact inSession_pure _

theorem inSession_userBlock (b : Block) : InSession (userBlock b) := by
  unfold userBlock
  split
  · exact inSession_pure none
  · refine (inSession_chunked (fun c => ?_) b).bind fun _ => inSession_pure _
    exact inSession_of_gated (gated_synchrodata_sys_user c.user)
  · exact inSession_pure _

theorem inSession_devicesBlock (d : Switch) (b : Block) : InSession (devicesBlock d b) := by
  have hareas : InSession (synchrodata_areas d.m_tongbu_dir d.areasShown d.areas) :=
    inSession_of_gated (gated_synchrodata_areas _ _ _)
  unfold devicesBlock
  split
  · exact hareas.bind fun _ => inSession_pure true
  · refine hareas.bind fun _ => inSession_chunked (fun c => ?_) b
    exact inSession_of_gated (gated_synchrodata_device_info d.m_tongbu_dir c.device_info)
  · exact inSession_pure true

theorem inSession_workBlock (dir : TongbuDir) (b : Block) : InSession (workBlock dir b) := by
  unfold workBlock
  split
  · exact inSession_pure true
  · exact inSession_chunked (inSession_workChunk dir) b
  · exact inSession_pure true

/-- The lock is free again and the connection closed. -/
def Released (w t : Watched) : Prop :=
  t.1.g_clsMutex = w.1.g_clsMutex ∧ t.1.connections = w.1.connections

/-- The lock is still held. -/
def Left (w t : Watched) : Prop :=
  t.1.g_clsMutex = w.1.g_clsMutex + 1 ∧ w.1.connections ≤ t.1.connections

/-- Inside a session the lock is held and a connection is open. -/
def Opened (w t : Watched) : Prop :=
  t.1.g_clsMutex = w.1.g_clsMutex + 1 ∧ t.1.connections = w.1.connections + 1 ∧
    t.2.broken = w.2.broken

/-- `InitMyDataBase` takes the lock; without a connection it raises `broken`. -/
theorem initMyDataBase_wp (w : Watched) :
    initMyDataBase.wp watched (fun r t => match r with
      | some true => Opened w t
      | _ => Left w t ∧ t.2.broken = true) w := by
  intro b t ht
  cases ht
  rintro (_ | _ | _) t ht <;> cases ht
  · exact ⟨⟨rfl, Nat.le_refl _⟩, Bool.or_true _⟩
  · exact ⟨⟨rfl, Nat.le_refl _⟩, Bool.or_true _⟩
  · exact ⟨rfl, rfl, by simp [note, breaks]⟩

/-- How a session ends: with the lock and the connection as before, or, if it was broken or
`rejected`, with the lock held. -/
def Ends (rejected : Prop) (w t : Watched) : Prop :=
  ∃ lost, t.2.broken = (w.2.broken || lost) ∧ (lost = true ∨ rejected → Left w t) ∧
    (lost = false → ¬ rejected → Released w t)

section Ends

variable {rejected : Prop} {w t : Watched}

theorem Ends.lost (hleft : Left w t) (hbroken : t.2.broken = true) : Ends rejected w t :=
  ⟨true, by rw [hbroken, Bool.or_true], fun _ => hleft, fun h => absurd h (by decide)⟩

theorem Ends.released (h : Released w t) (hbroken : t.2.broken = w.2.broken)
    (hr : ¬ rejected) : Ends rejected w t := by
  refine ⟨false, by rw [hbroken, Bool.or_false], ?_, fun _ _ => h⟩
  rintro (hlost | hrejected)
  · cases hlost
  · exact absurd hrejected hr

theorem Ends.of_rejected (h : Opened w t) (hr : rejected) : Ends rejected w t := by
  obtain ⟨hlock, hconn, hbroken⟩ := h
  refine ⟨false, by rw [hbroken, Bool.or_false], fun _ => ⟨hlock, ?_⟩, fun _ hn => absurd hr hn⟩
  omega

/-- A session starts with `InitMyDataBase`; what is done without a connection makes no call. -/
theorem ends_initMyDataBase {body : Bool → Prog Call Bool} {b : Bool}
    (hbody : ∀ t, Opened w t → (body true).wp watched (fun _ u => Ends rejected w u) t)
    (hfalse : body false = pure b) :
    (initMyDataBase >>= body).wp watched (fun _ u => Ends rejected w u) w := by
  refine wp.bind (initMyDataBase_wp w) ?_ ?_
  · rintro (_ | _) t h
    · rw [hfalse]
      exact wp_pure (Ends.lost h.1 h.2)
    · exact hbody t h
  · rintro t h
    exact Ends.lost h.1 h.2

/-- Calls inside a session either stay in it or break it. -/
theorem InSession.endsWhere {α : Type} {p : Prog Call α} {f : α → Prog Call Bool}
    {R : Option α → Prop} (hp : InSession p) (ht : Opened w t)
    (hR : p.wp watched (fun r _ => R r) t)
    (hf : ∀ a u, R (some a) → Opened w u →
      (f a).wp watched (fun _ v => Ends rejected w v) u) :
    (p >>= f).wp watched (fun _ v => Ends rejected w v) t := by
  obtain ⟨hlock, hconn, hbroken⟩ := ht
  refine wp.bind ((hp t).and hR) ?_ ?_
  · rintro a u ⟨⟨hl, hc, hb⟩, ha⟩
    refine hf a u ha ⟨hl.trans hlock, hc.trans hconn, ?_⟩
    rw [hb, hbroken, Option.isNone_some, Bool.or_false]
  · rintro u ⟨⟨hl, hc, hb⟩, _⟩
    refine Ends.lost ⟨hl.trans hlock, ?_⟩ (by rw [hb, Option.isNone_none, Bool.or_true])
    rw [hc, hconn]
    exact Nat.le_succ _

theorem InSession.ends {α : Type} {p : Prog Call α} {f : α → Prog Call Bool} (hp : InSession p)
    (ht : Opened w t)
    (hf : ∀ a u, Opened w u → (f a).wp watched (fun _ v => Ends rejected w v) u) :
    (p >>= f).wp watched (fun _ v => Ends rejected w v) t :=
  hp.endsWhere ht wp_true fun a u _ hu => hf a u hu

/-- `Close` ends the session. -/
theorem ends_close {b : Bool} (ht : Opened w t) (hr : ¬ rejected) :
    (close >>= fun _ => pure b : Prog Call Bool).wp watched
      (fun _ u => Ends rejected w u) t := by
  obtain ⟨hlock, hconn, hbroken⟩ := ht
  intro _ u hu
  cases hu
  intro _ u hu
  cases hu
  refine Ends.released ⟨?_, ?_⟩ ?_ hr
  · exact Nat.sub_eq_of_eq_add hlock
  · exact Nat.sub_eq_of_eq_add hconn
  · rw [note_harmless _ rfl rfl, note_harmless _ rfl rfl, hbroken]

end Ends

theorem ends_init_areas_tree (built : Bool) (w : Watched) :
    (init_areas_tree built).wp watched (fun _ t => Ends False w t) w := by
  have hareas : InSession (must (.select .tree_areas)) :=
    inSession_must _ (fun _ _ => rfl) (fun b => by cases b <;> rfl)
  have hdevices : InSession (must (.select .tree_device_info)) :=
    inSession_must _ (fun _ _ => rfl) (fun b => by cases b <;> rfl)
  refine wp.tryCatch (ends_initMyDataBase (fun t ht => ?_) rfl) (fun _ _ h => h) (fun _ h => h)
  refine hareas.ends ht fun areas u hu => hdevices.ends hu fun devices v hv => ?_
  have hclose := ends_close (b := if areas && devices then built else false) hv not_false
  cases areas <;> cases devices <;> exact hclose

theorem ends_onInitDialog (config : Bool) (w : Watched) :
    (onInitDialog config).wp watched (fun _ t => Ends False w t) w := by
  have husers : InSession (must (.select .login_users)) :=
    inSession_must _ (fun _ _ => rfl) (fun b => by cases b <;> rfl)
  cases config with
  | false => exact wp_pure (Ends.released ⟨rfl, rfl⟩ rfl not_false)
  | true =>
    refine ends_initMyDataBase (fun t ht => ?_) rfl
    exact husers.ends ht fun _ u hu => ends_close hu not_false

/-- The users' block returns from inside only with a device selected. -/
theorem userBlock_stays {b : Block} (w : Watched)
    (h : ¬ (b.m_radioChoose = .radio_user ∧ b.m_treeCtrl_curItem = .device)) :
    (userBlock b).wp watched (fun r _ => r ≠ some none) w := by
  unfold userBlock
  split
  · next hmode hitem => exact absurd ⟨hmode, hitem⟩ h
  · exact wp.bind wp_true (fun _ _ _ => wp_pure (by simp)) (fun _ _ => by simp)
  · exact wp_pure (by simp)

theorem ends_beginSwitchData (d : Switch) (w : Watched) :
    (beginSwitchData d).wp watched (fun _ t => Ends (Session.BeginSwitchData d).Rejected w t)
      w := by
  refine wp.tryCatch (ends_initMyDataBase (fun t ht => ?_) rfl) (fun _ _ h => h) (fun _ h => h)
  have hdelete : InSession (deleteAreaAndDevice d.m_deleteTree d.delete) := by
    cases hm : d.m_deleteTree with
    | none => exact inSession_of_gated (gated_pure true).tried
    | some m => exact inSession_of_gated (gated_deleteAreaAndDevice (some m) d.delete)
  refine hdelete.ends ht fun _ u hu => ?_
  by_cases hr : (Session.BeginSwitchData d).Rejected
  · -- `return FALSE` with the session open
    have hblock : userBlock d.users = pure none := by
      obtain ⟨hmode, hitem⟩ := hr
      rw [userBlock, hmode, hitem]
    rw [hblock]
    exact wp_pure (Ends.of_rejected hu hr)
  · -- the other blocks end where the session is closed
    refine (inSession_userBlock d.users).endsWhere hu (userBlock_stays u hr) ?_
    rintro (_ | users) v hsome hv
    · exact absurd rfl hsome
    · refine (inSession_devicesBlock d d.devices).ends hv fun _ x hx => ?_
      refine (inSession_workBlock d.m_tongbu_dir d.work).ends hx fun _ y hy => ?_
      exact ends_close hy hr

/-- **Every session**, however its calls answer. -/
theorem session_ends (f : Session) (w : Watched) :
    f.body.wp watched (fun _ t => Ends f.Rejected w t) w := by
  cases f with
  | Init_areas_tree built => exact ends_init_areas_tree built w
  | BeginSwitchData d => exact ends_beginSwitchData d w
  | OnInitDialog config => exact ends_onInitDialog config w

/-! ## §3 Runs of sessions -/

/-- One of the functions runs and returns, or ends in an exception. -/
def sessionStep : Locks → Session × Trace Call → Option Locks := Prog.step effect Session.body

/-- The runs of the functions, with every answer of every call. -/
abbrev SessionRun : Locks → List (Session × Trace Call) → Locks → Prop :=
  Run sessionStep fun _ _ => True

/-- The session connects if it tries to, no exception cuts it short, and its selection is not
rejected. -/
def Whole (e : Session × Trace Call) : Prop :=
  ¬ e.1.Rejected ∧ ∀ a ∈ e.2, breaks a = false

/-- One session gives back what it took, exactly when it is whole; otherwise it keeps the lock. -/
theorem sessionStep_ends {s t : Locks} {e : Session × Trace Call}
    (h : sessionStep s e = some t) :
    (Whole e → t.g_clsMutex = s.g_clsMutex ∧ t.connections = s.connections) ∧
    (¬ Whole e → t.g_clsMutex = s.g_clsMutex + 1 ∧ s.connections ≤ t.connections) := by
  obtain ⟨⟨r, t'⟩, hrun, rfl⟩ := Option.map_eq_some_iff.1 h
  obtain ⟨lost, hflag, hleft, hreleased⟩ :=
    (session_ends e.1 (s, Flags.down)).of_run (run_watch hrun)
  rw [foldl_note] at hflag
  simp only [Flags.down, Bool.false_or] at hflag
  have hany : lost = false ↔ ∀ a ∈ e.2, breaks a = false := by
    rw [← hflag, List.any_eq_false]
    simp only [Bool.not_eq_true]
  constructor
  · rintro ⟨hr, hwhole⟩
    exact hreleased (hany.2 hwhole) hr
  · intro hnot
    apply hleft
    by_cases hr : e.1.Rejected
    · exact Or.inr hr
    · refine Or.inl (eq_true_of_ne_false ?_)
      exact fun hlost => hnot ⟨hr, hany.1 hlost⟩

/-- The lock is never given back more often than it was taken. -/
theorem SessionRun.le {s t : Locks} {es : List (Session × Trace Call)} (h : SessionRun s es t) :
    s.g_clsMutex ≤ t.g_clsMutex := by
  apply h.invariant (I := fun x => s.g_clsMutex ≤ x.g_clsMutex) _ (Nat.le_refl _)
  intro x e y hx _ hstep
  obtain ⟨hwhole, hnot⟩ := sessionStep_ends hstep
  by_cases he : Whole e
  · rw [(hwhole he).1]
    exact hx
  · rw [(hnot he).1]
    exact Nat.le_succ_of_le hx

/-- **When the lock is balanced.**  After any sequence of sessions every `Lock()` has had its
`Unlock()` and every connection is closed exactly when each session that tried has connected, none
was cut short by an exception of a MySQL call outside the table routines, and none was a sync of
users with a device selected. -/
theorem balanced_iff {es : List (Session × Trace Call)} {s t : Locks}
    (hrun : SessionRun s es t) :
    (t.g_clsMutex = s.g_clsMutex ∧ t.connections = s.connections) ↔ ∀ e ∈ es, Whole e := by
  induction hrun with
  | nil => simp
  | @cons s u t e es _ hstep hrest ih =>
    obtain ⟨hwhole, hnot⟩ := sessionStep_ends hstep
    rw [List.forall_mem_cons]
    by_cases he : Whole e
    · obtain ⟨hlock, hconn⟩ := hwhole he
      rw [← hlock, ← hconn, ih]
      exact (and_iff_right he).symm
    · -- the lock this session keeps is not given back later
      have hle := SessionRun.le hrest
      rw [(hnot he).1] at hle
      constructor
      · rintro ⟨hlock, _⟩
        omega
      · intro h
        exact absurd h.1 he

/-- The tree is filled from an empty database. -/
def treeFilled : Session × Trace Call :=
  (.Init_areas_tree true,
    [(.lock, some true), (.mysql_real_connect, some true), (.select .tree_areas, some true),
      (.select .tree_device_info, some true), (.mysql_close, some true), (.unlock, some true)])

/-- It gives back the lock and the connection. -/
theorem treeFilled_whole :
    SessionRun Locks.initial [treeFilled] Locks.initial ∧ Whole treeFilled := by
  have hrun : SessionRun Locks.initial [treeFilled] Locks.initial := Run.of_eval rfl rfl
  exact ⟨hrun, (balanced_iff hrun).1 ⟨rfl, rfl⟩ treeFilled List.mem_cons_self⟩

/-- The login dialog does not reach the server. -/
def loginFailed : Session × Trace Call :=
  (.OnInitDialog true, [(.lock, some true), (.mysql_real_connect, some false)])

/-- Nothing to do in a block. -/
def Block.idle : Block := ⟨.radio_user, .device, [], 0⟩

/-- Users are to be synchronised, a device is selected, and nothing is to be deleted. -/
def deviceRejected : Session × Trace Call :=
  (.BeginSwitchData ⟨.tongbu_to_phone, none, ⟨true, 0, 0, 0, 0, 0⟩, false, ⟨true, 0, 0, 0, 0, 0⟩,
      Block.idle, Block.idle, Block.idle⟩,
    [(.lock, some true), (.mysql_real_connect, some true)])

/-- A failed connection keeps the lock; a rejected selection keeps the connection too. -/
theorem lock_kept : SessionRun Locks.initial [loginFailed] ⟨true, 1, 0⟩ ∧
    SessionRun Locks.initial [deviceRejected] ⟨true, 1, 1⟩ :=
  ⟨Run.of_eval rfl rfl, Run.of_eval rfl rfl⟩

end Sessions

end MtpSync
