import MtpSync.Download.Effects
import MtpSync.Lib.Run
import MtpSync.Tree.UserArea

/-!
# Deletes from an old tree

`m_deleteTree` is built by a refresh of the tree control and used by every sync until the next
one.  Between the two the server's rows go on changing, so that what a sync deletes there was
marked when the tree was built, and need not be any more.

- §1 what the delete pass takes from the server
- §2 refreshes, syncs and what others do
- §3 what is deleted was marked when the tree was built
-/

namespace MtpSync

open Act

/-! ## §1 What the delete pass takes from the server -/

/-- Only areas and devices with these ids are gone. -/
structure OnlyGone (areas devices : List String) (db db' : MysqlDB) : Prop where
  areas : ∀ a ∈ db.areas, a.Id ∉ areas → a ∈ db'.areas
  device_info : ∀ x ∈ db.device_info, x.Id ∉ devices → x ∈ db'.device_info

variable {areas devices : List String}

theorem OnlyGone.refl (db : MysqlDB) : OnlyGone areas devices db db :=
  ⟨fun _ ha _ => ha, fun _ hx _ => hx⟩

theorem OnlyGone.trans {db db' db'' : MysqlDB} (h : OnlyGone areas devices db db')
    (h' : OnlyGone areas devices db' db'') : OnlyGone areas devices db db'' :=
  ⟨fun a ha hId => h'.areas a (h.areas a ha hId) hId,
    fun x hx hId => h'.device_info x (h.device_info x hx hId) hId⟩

/-- One of the statements of the delete pass. -/
inductive PassStmt (areas devices : List String) : MyStmt → Prop
  | device {i : String} (hi : i ∈ devices) : PassStmt areas devices (.deleteDeviceInfo i)
  | area {i : String} (hi : i ∈ areas) : PassStmt areas devices (.deleteAreas i)
  | usersOf {i : String} : PassStmt areas devices (.deleteSysUserOf i)
  | orphan {st : MyStmt} (hst : st ∈ deleteOrphanStmts) : PassStmt areas devices st
  | users : PassStmt areas devices .deleteSysUserReal

theorem PassStmt.exec {st : MyStmt} (h : PassStmt areas devices st) (db : MysqlDB) :
    OnlyGone areas devices db (st.exec db) := by
  cases h with
  | device hi =>
    refine ⟨fun _ ha _ => ha, fun x hx hId => Table.mem_deleteId.2 ⟨hx, ?_⟩⟩
    rintro rfl
    exact hId hi
  | area hi =>
    refine ⟨fun a ha hId => Table.mem_deleteId.2 ⟨ha, ?_⟩, fun _ hx _ => hx⟩
    rintro rfl
    exact hId hi
  | usersOf => exact ⟨fun _ ha _ => ha, fun _ hx _ => hx⟩
  | orphan hst =>
    simp only [deleteOrphanStmts, List.mem_cons, List.not_mem_nil, or_false] at hst
    rcases hst with rfl | rfl | rfl | rfl <;> exact ⟨fun _ ha _ => ha, fun _ hx _ => hx⟩
  | users => exact ⟨fun _ ha _ => ha, fun _ hx _ => hx⟩

theorem onlyGone_execAll {sts : List MyStmt} (h : ∀ st ∈ sts, PassStmt areas devices st)
    (s : Server) : OnlyGone areas devices s.db (s.execAll sts).db := by
  induction sts generalizing s with
  | nil => exact .refl s.db
  | cons st sts ih =>
    have hfirst := (h st List.mem_cons_self).exec s.db
    exact hfirst.trans (ih (fun st' hst' => h st' (List.mem_cons_of_mem st hst')) (s.exec st))

/-- What a call of the pass may do to the server. -/
def GoneBy (areas devices : List String) (w w' : World) : Prop :=
  OnlyGone areas devices w.server.db w'.server.db

instance : Std.Refl (GoneBy areas devices) := ⟨fun _ => .refl _⟩

instance : IsTrans World (GoneBy areas devices) := ⟨fun _ _ _ h h' => OnlyGone.trans h h'⟩

section Calls

variable {α ρ : Type}

/-- The calls on the temporary file do nothing to the server. -/
private theorem gone_onSq (m : Act (Sq SqliteDB) α) : Keeps (GoneBy areas devices) (onSq m) :=
  fun w => .refl w.server.db

private theorem gone_select (rc : SelectRc) (q : MysqlDB → List ρ) :
    Keeps (GoneBy areas devices) (onServer (select rc q)) := by
  intro w
  rw [onServer, zoom_run, select_state]
  exact .refl w.server.db

private theorem gone_updateMysqlDB (rc : ℕ → Bool) {sts : List MyStmt}
    (h : ∀ st ∈ sts, PassStmt areas devices st) :
    Keeps (GoneBy areas devices) (onServer (updateMysqlDB rc sts)) := by
  intro w
  rw [onServer_updateMysqlDB_run]
  exact onlyGone_execAll (fun st hst => h st (Batch.mem_of_mem_served hst)) w.server

private theorem gone_query (rc : ℕ → Bool) (i : ℕ) {sts : List MyStmt}
    (h : ∀ st ∈ sts, PassStmt areas devices st) :
    Keeps (GoneBy areas devices) (onServer (query rc i sts)) := by
  intro w
  rw [onServer_run (query_run rc i sts w.server)]
  exact onlyGone_execAll (fun st hst => h st (mem_of_mem_okPrefix hst)) w.server

private theorem gone_purge (rc : PurgeRc) (q : MysqlDB → List String)
    (delete : SqliteDB → String → SqliteDB) :
    Keeps (GoneBy areas devices) (purge rc q delete) := by
  refine (gone_select rc.select q).bind fun rows => ?_
  cases rows with
  | none => exact keeps_pure _
  | some rows =>
    cases rows with
    | nil => exact keeps_pure _
    | cons i rest => exact (gone_onSq _).bind fun _ => Keeps.ite (keeps_pure _) (keeps_pure _)

private theorem gone_deleteDevices (rc : DeleteAreaRc) (a : DeleteArys)
    (h : ∀ i ∈ a.strAryDevices, i ∈ devices) :
    Keeps (GoneBy areas devices) (deleteDevices rc a) := by
  refine Keeps.ite (keeps_pure _) <| (gone_onSq _).bind fun _ => (gone_onSq _).bind fun _ =>
    Keeps.ite ?_ (keeps_pure _)
  refine (gone_updateMysqlDB rc.updateDevices fun st hst => ?_).bind fun _ =>
    (gone_query rc.queryOrphans 0 fun st hst => .orphan hst).bind fun _ => keeps_pure _
  obtain ⟨i, hi, rfl⟩ := List.mem_map.1 hst
  exact .device (h i hi)

private theorem gone_deleteAreas (rc : DeleteAreaRc) (a : DeleteArys)
    (h : ∀ i ∈ a.strAryAreas, i ∈ areas) :
    Keeps (GoneBy areas devices) (deleteAreas rc a) := by
  refine Keeps.ite (keeps_pure _) <| (gone_onSq _).bind fun _ => (gone_onSq _).bind fun _ =>
    Keeps.ite (gone_updateMysqlDB rc.updateAreas fun st hst => ?_) (keeps_pure _)
  obtain ⟨i, hi, hst⟩ := List.mem_flatMap.1 hst
  rcases List.mem_cons.1 hst with rfl | hst
  · exact .area (h i hi)
  · rw [List.mem_singleton.1 hst]
    exact .usersOf

private theorem gone_deleteUsers (rc : DeleteAreaRc) :
    Keeps (GoneBy areas devices) (deleteUsers rc) :=
  (gone_purge _ _ _).bind fun _ => (gone_query rc.oneQuery 0 fun st hst => by
    rw [List.mem_singleton.1 hst]
    exact .users).bind fun _ => keeps_pure _

/-- **The delete pass deletes areas and devices of its real sets only**, however it ends. -/
theorem gone_deleteAreaAndDevice (o : MapOrder) (tree : DeleteTree) (rc : DeleteAreaRc) :
    Keeps (GoneBy tree.ids.1.areas tree.ids.1.devices) (deleteAreaAndDevice o tree rc) := by
  have hareas : ∀ i ∈ (tree.arys o).strAryAreas, i ∈ tree.ids.1.areas :=
    fun i hi => (MapOrder.mem_strAry.1 hi).1
  have hdevices : ∀ i ∈ (tree.arys o).strAryDevices, i ∈ tree.ids.1.devices :=
    fun i hi => (MapOrder.mem_strAry.1 hi).1
  cases tree with
  | nullptr => exact keeps_pure true
  | node i t f s child sibling =>
    refine keeps_read.bind fun w => Keeps.ite (keeps_pure _) <| (gone_onSq _).bind fun _ =>
      Keeps.ite ?_ (keeps_pure _)
    exact (gone_deleteDevices rc _ hdevices).bind fun _ =>
      (gone_deleteAreas rc _ hareas).bind fun _ => (gone_deleteUsers rc).bind fun _ =>
      (gone_onSq _).bind fun _ => keeps_pure _

end Calls

/-! ## §2 Refreshes, syncs and what others do -/

/-- The program between two syncs, with the tables its tree was built from. -/
structure Station where
  world : World
  m_deleteTree : DeleteTree
  /-- what the last successful refresh read -/
  lastRead : Option TreeData

/-- The program as it starts. -/
def Station.start (w : World) : Station := ⟨w, .nullptr, none⟩

/-- What the calls of a refresh return. -/
structure RefreshRc where
  InitMyDataBase : Bool
  selectAreas : Bool
  selectDevices : Bool

/-- What can happen. -/
inductive StationEvent where
  /-- others change the server; all else a sync does counts as theirs -/
  | edit (w : World)
  /-- `Init_areas_tree`; others may have changed the server to `db` before its second query -/
  | refresh (o : MapOrder) (rc : RefreshRc) (db : MysqlDB)
  /-- `DeleteAreaAndDevice`, in a sync -/
  | deletePass (o : MapOrder) (rc : DeleteAreaRc)

/-- One event.  A refresh whose connection or one of whose queries fails returns before the tree
is built; one whose recursion does not end has no next state.  A pass that halts leaves what it
did so far. -/
def stationStep (m_userArea : String) (s : Station) : StationEvent → Option Station
  | .edit w => some { s with world := w }
  | .refresh o rc db =>
    let world := { s.world with server := { s.world.server with db := db } }
    if rc.InitMyDataBase && rc.selectAreas && rc.selectDevices then do
      let read : TreeData := ⟨s.world.server.db.areas, db.device_info⟩
      let trees ← initAreasTree o m_userArea read
      some ⟨world, trees.m_deleteTree, some read⟩
    else some { s with world := world }
  | .deletePass o rc =>
    some { s with world := ((deleteAreaAndDevice o s.m_deleteTree rc).run s.world).2 }

/-- Every event may happen at any time. -/
abbrev StationRun (m_userArea : String) : Station → List StationEvent → Station → Prop :=
  Run (stationStep m_userArea) fun _ _ => True

/-! ## §3 What is deleted was marked when the tree was built -/

/-- The tree is the one built from what was read last. -/
def Station.TreeOfRead (m_userArea : String) (s : Station) : Prop :=
  MtpSync.TreeOfRead m_userArea s.lastRead s.m_deleteTree

theorem treeOfRead_step {m_userArea : String} {s s' : Station} {e : StationEvent}
    (h : s.TreeOfRead m_userArea) (hstep : stationStep m_userArea s e = some s') :
    s'.TreeOfRead m_userArea := by
  cases e with
  | edit w =>
    cases hstep
    exact h
  | deletePass o rc =>
    cases hstep
    exact h
  | refresh o rc db =>
    rw [stationStep] at hstep
    split at hstep
    · -- all tables are read, and the trees built from them
      obtain ⟨trees, htrees, heq⟩ := Option.bind_eq_some_iff.1 hstep
      cases heq
      obtain ⟨items, -, hrest⟩ := Option.bind_eq_some_iff.1 htrees
      obtain ⟨tree, htree, heq⟩ := Option.bind_eq_some_iff.1 hrest
      cases heq
      exact ⟨o, htree⟩
    · cases hstep
      exact h

theorem treeOfRead_run {m_userArea : String} {w : World} {es : List StationEvent} {s : Station}
    (hrun : StationRun m_userArea (.start w) es s) : s.TreeOfRead m_userArea :=
  hrun.invariant (fun _ _ _ h _ hstep => treeOfRead_step h hstep) rfl

/-- What a pass deletes on the server was marked, or below something marked, in the tables the
last successful refresh read; nothing is said of a device without an area when the area of the
user logged in was marked there. -/
structure DeletesWereMarked (m_userArea : String) (s : Station) (db : MysqlDB) : Prop where
  areas : ∀ a ∈ s.world.server.db.areas, a ∉ db.areas →
    ∃ d, s.lastRead = some d ∧ ∃ a' ∈ d.areas, a'.Id = a.Id ∧
      d.AreaMarkedAbove DELETEFLAG a'
  devices : ∀ x ∈ s.world.server.db.device_info, x ∉ db.device_info →
    ∃ d, s.lastRead = some d ∧ ∃ x' ∈ d.device_info, x'.Id = x.Id ∧
      (d.DeviceMarkedAbove DELETEFLAG x' ∨ d.MarkedWithUserArea m_userArea DELETEFLAG x')

/-- **What a sync deletes on the server was marked when the tree was built**, after any number of
refreshes, syncs and changes by others in any order. -/
theorem deletes_were_marked (m_userArea : String) (w : World) (es : List StationEvent)
    (s : Station) (hrun : StationRun m_userArea (.start w) es s) (o : MapOrder)
    (rc : DeleteAreaRc) :
    DeletesWereMarked m_userArea s
      ((deleteAreaAndDevice o s.m_deleteTree rc).run s.world).2.server.db := by
  have htree := treeOfRead_run hrun
  have hgone := gone_deleteAreaAndDevice o s.m_deleteTree rc s.world
  constructor
  · intro a ha hnot
    have hi : a.Id ∈ s.m_deleteTree.ids.1.areas := by
      by_contra hId
      exact hnot (hgone.areas a ha hId)
    obtain ⟨d, hread, hreal, -⟩ := htree.collected (k := .delete_type_areas) (.inl hi)
    exact ⟨d, hread, hreal.area_markedAbove hi⟩
  · -- a device may be hung below the area of the user, whose mark then collects it
    intro x hx hnot
    have hi : x.Id ∈ s.m_deleteTree.ids.1.devices := by
      by_contra hId
      exact hnot (hgone.device_info x hx hId)
    obtain ⟨d, hread, hreal, -⟩ := htree.collected (k := .delete_type_devices) (.inl hi)
    exact ⟨d, hread, hreal.device_markedAbove hi⟩

/-- A server with one area, in the state `state`. -/
def MysqlDB.oneArea (state : String) : MysqlDB :=
  { MysqlDB.empty with areas := ⟨[areaRow "a" "0" state], List.nodup_singleton _⟩ }

/-- A refresh that reads the area as deleted, and the area restored after it. -/
def restoredAfterRefresh : List StationEvent :=
  [.refresh .inserted ⟨true, true, true⟩ (.oneArea "3"),
    .edit (World.fresh SqliteDB.empty (.oneArea "0"))]

/-- Where these lead. -/
def Station.restored : Station where
  world := World.fresh SqliteDB.empty (.oneArea "0")
  m_deleteTree := .node "0" .root false ""
    (.node "a" .delete_type_areas true "3" .nullptr .nullptr) .nullptr
  lastRead := some ⟨(MysqlDB.oneArea "3").areas, (MysqlDB.oneArea "3").device_info⟩

theorem restored_run :
    StationRun "" (.start (World.fresh SqliteDB.empty (.oneArea "3"))) restoredAfterRefresh
      .restored := by
  refine .cons trivial rfl (.cons trivial rfl .nil)

/-- The pass after them deletes an area that was marked when the tree was built. -/
theorem restored_was_marked :
    DeletesWereMarked "" .restored ((deleteAreaAndDevice .inserted
      Station.restored.m_deleteTree .allOk).run Station.restored.world).2.server.db :=
  deletes_were_marked "" _ _ _ restored_run .inserted .allOk

/-- **It is not marked any more**: the pass deletes a row that has the state `'0'`, and nothing
above it has another. -/
theorem restored_area_deleted :
    StationRun "" (.start (World.fresh SqliteDB.empty (.oneArea "3"))) restoredAfterRefresh
        .restored ∧
      ∃ a ∈ Station.restored.world.server.db.areas,
        a ∉ ((deleteAreaAndDevice .inserted Station.restored.m_deleteTree .allOk).run
          Station.restored.world).2.server.db.areas ∧
        ¬TreeData.AreaMarkedAbove ⟨Station.restored.world.server.db.areas,
          Station.restored.world.server.db.device_info⟩ DELETEFLAG a := by
  refine ⟨restored_run, areaRow "a" "0" "0", List.mem_cons_self, ?_, ?_⟩
  · exact List.not_mem_nil
  · rintro ⟨b, hchain, hflag⟩
    have hb : b = areaRow "a" "0" "0" := by
      rcases Relation.ReflTransGen.cases_head hchain with heq | ⟨c, hparent, -⟩
      · exact heq
      · exact List.mem_singleton.1 hparent.1
    rw [hb] at hflag
    exact absurd hflag (by decide)

end MtpSync
