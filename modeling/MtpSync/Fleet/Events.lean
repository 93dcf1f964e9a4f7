import MtpSync.Fleet.Effects
import MtpSync.Lib.Run
import MtpSync.SyncEnd

/-!
# The fleet: one server and many phones

The program is used again and again, on phones that come and go, while other clients edit the
server's tables and the phones are worked with.  A run of the fleet is any sequence of such events;
what the server's tables go through in it is the edits of the others and the effects of the syncs.

- §1 the events
- §2 what an event does to the server
- §3 what holds of the server along a run
-/

namespace MtpSync

open Act Relation

variable {β : Type}

/-! ## §1 The events -/

/-- What a worker finds of the temporary file: the handle and the gate as some worker left them.
No transaction is open: one left open belongs to a worker that never came back, and has gone with
its program. -/
structure Handle where
  connected : Bool
  eventOpenDB : Bool

/-- The dialog a worker starts from. -/
def Dlg.startedWith (s : Dlg β) (h : Handle) : Dlg β :=
  { s with world := { s.world with sq := ⟨s.world.sq.file, none, h.connected, h.eventOpenDB⟩ } }

/-- The dialog with other tables on the server. -/
def Dlg.edited (s : Dlg β) (f : MysqlDB → MysqlDB) : Dlg β :=
  { s with world := { s.world with server := { s.world.server with db := f s.world.server.db } } }

/-- What happens. -/
inductive FleetEvent (β : Type) where
  /-- `MyControllingFunction` -/
  | sync (h : Handle) (sel : Selection) (dir : TongbuDir) (mode : RadioChoose) (rc : SyncRc)
  /-- `BeginClearThread`, after the clear button has raised its flag -/
  | clear (h : Handle) (rc : ClearThreadRc)
  /-- `BeginRebackData` -/
  | reback (h : Handle) (rc : RebackRc)
  /-- another client of the server -/
  | edit (f : MysqlDB → MysqlDB)
  /-- a phone is worked with, or another one is connected -/
  | use (strDevID : String) (p : Phone β)

/-- One event, to its end. -/
def fleetStep (fmt : SqliteFormat β) (s : Dlg β) : FleetEvent β → Option (Dlg β)
  | .sync h sel dir mode rc =>
    some ((myControllingFunction fmt sel dir mode rc).run (s.startedWith h)).2
  | .clear h rc =>
    some ((beginClearThread fmt rc).run { s.startedWith h with m_clearFlag := true }).2
  | .reback h rc => some ((beginRebackData fmt rc).run (s.startedWith h)).2
  | .edit f => some (s.edited f)
  | .use strDevID p => some { s with phone := Function.update s.phone strDevID p }

/-- The sync works on the file `f`, with this server: the user has confirmed, and the database of
the phone has been pulled. -/
structure FleetEvent.Pulls (fmt : SqliteFormat β) (s : Dlg β) (h : Handle) (rc : SyncRc)
    (w : World) : Prop where
  yes : rc.yes = true
  pulled : ∃ strDevID t, (beginPhoneToPc fmt rc.pull).run (s.startedWith h) =
    (.ok (some strDevID), t) ∧ t.world = w

/-! ## §2 What an event does to the server -/

section Server

/-- Nothing happens to the server. -/
def KeepsServer (s t : Dlg β) : Prop := t.world.server = s.world.server

instance : Std.Refl (KeepsServer (β := β)) := ⟨fun _ => rfl⟩

instance : IsTrans (Dlg β) KeepsServer := ⟨fun _ _ _ h h' => Eq.trans h' h⟩

private theorem keepsServer_beginPhoneToPc (fmt : SqliteFormat β) (rc : PhoneToPcRc) :
    Keeps KeepsServer (beginPhoneToPc fmt rc) :=
  fun s => (beginPhoneToPc_sameServer fmt rc s).server

private theorem keepsServer_beginPcToPhone (fmt : SqliteFormat β) (rc : PushRc)
    (strDevID : String) : Keeps KeepsServer (beginPcToPhone fmt rc strDevID) :=
  beginPcToPhone_server fmt rc strDevID

/-- A clear works on the temporary file only. -/
private theorem keepsServer_clearRecord (range : Window) (rc : ClearRc) :
    Keeps (fun w w' : World => w'.server = w.server) (synchrodataClearRecord range rc) := by
  let same (w w' : World) : Prop := w'.server = w.server
  have : Std.Refl same := ⟨fun _ => rfl⟩
  have : IsTrans World same := ⟨fun _ _ _ h h' => Eq.trans h' h⟩
  have hsq : ∀ {α : Type} (m : Act (Sq SqliteDB) α), Keeps same (onSq m) := fun m _ => rfl
  have hderef : ∀ slots : List (Option String), Keeps same (derefFirst slots) := fun slots => by
    match slots with
    | some i :: _ => exact keeps_pure i
    | none :: _ => exact keeps_halt _
    | [] => exact keeps_halt _
  have hdelete : ∀ slots : List (Option String), Keeps same (deleteAll slots) := fun slots =>
    Keeps.ite (keeps_pure _) (keeps_halt _)
  show Keeps same _
  refine keeps_read.bind fun w => Keeps.ite (keeps_pure _) <| (hsq _).bind fun _ =>
    Keeps.ite ((hsq _).bind fun x => Keeps.ite (Keeps.ite ((hsq _).bind fun ppAryData => ?_)
      ((hsq _).bind fun _ => keeps_pure _)) (keeps_pure _)) (keeps_pure _)
  cases ppAryData with
  | none => exact (hsq _).bind fun _ => keeps_pure _
  | some rows =>
    exact (hderef _).bind fun _ => (hsq _).bind fun _ => (hsq _).bind fun _ =>
      (hdelete _).bind fun _ => (hsq _).bind fun _ => keeps_pure _

private theorem keepsServer_beginClearThread (fmt : SqliteFormat β) (rc : ClearThreadRc) :
    Keeps KeepsServer (beginClearThread fmt rc) := by
  refine Keeps.ite (keeps_pure _) ((keepsServer_beginPhoneToPc fmt rc.pull).bind fun o => ?_)
  cases o with
  | none => exact keeps_pure _
  | some strDevID =>
    refine Keeps.bind (fun s => ?_) fun _ =>
      Keeps.ite (keepsServer_beginPcToPhone fmt rc.push strDevID) (keeps_pure _)
    exact keepsServer_clearRecord rc.range rc.clear s.world

private theorem sameServer_connect (rc : ConnectRc) (strDevID : String) :
    Keeps SameServer (connect (β := β) rc strDevID) := by
  unfold connect
  refine (keeps_modify fun _ => ⟨rfl, rfl⟩).bind fun _ => ?_
  cases rc.OpenDevice with
  | noDevice => exact keeps_pure _
  | failed => exact keeps_halt _
  | opened =>
    exact Keeps.ite (keeps_pure _) (Keeps.ite (keeps_pure _)
      ((keeps_modify fun _ => ⟨rfl, rfl⟩).bind fun _ => keeps_pure _))

private theorem sameServer_beginRebackData (fmt : SqliteFormat β) (rc : RebackRc) :
    Keeps SameServer (beginRebackData fmt rc) := by
  have hchecks : Keeps SameServer (rebackChecks (β := β) rc) := by
    refine keeps_read.bind fun s => Keeps.ite (keeps_pure _) (Keeps.ite (keeps_pure _) ?_)
    refine (keeps_modify fun _ => ⟨rfl, rfl⟩).bind fun _ => ?_
    cases rc.connect.strDevID with
    | none => exact keeps_pure _
    | some strDevID => exact Keeps.ite (keeps_pure _) (sameServer_connect rc.connect strDevID)
  refine hchecks.bind fun o => ?_
  cases o with
  | none => exact keeps_pure _
  | some strDevID => exact keeps_read.bind fun s => fun _ => ⟨rfl, rfl⟩

/-- **A sync** leaves the server as `BeginSwitchData` does, if it gets that far. -/
theorem myControllingFunction_server (fmt : SqliteFormat β) (sel : Selection) (dir : TongbuDir)
    (mode : RadioChoose) (rc : SyncRc) (s : Dlg β) :
    ((myControllingFunction fmt sel dir mode rc).run s).2.world.server = s.world.server ∨
      ∃ strDevID t, rc.yes = true ∧
        (beginPhoneToPc fmt rc.pull).run s = (.ok (some strDevID), t) ∧
        ((myControllingFunction fmt sel dir mode rc).run s).2.world.server =
          ((beginSwitchData sel dir mode rc.switch).run t.world).2.server := by
  cases hyes : rc.yes with
  | false =>
    rw [myControllingFunction, hyes, if_neg (by decide)]
    exact .inl rfl
  | true =>
    have hsame := keepsServer_beginPhoneToPc fmt rc.pull s
    rw [myControllingFunction, if_pos hyes]
    rcases hpull : (beginPhoneToPc fmt rc.pull).run s with ⟨e | o, t⟩
    · rw [hpull] at hsame
      rw [bind_run_error hpull]
      exact .inl hsame
    rw [hpull] at hsame
    rw [bind_run_ok hpull]
    cases o with
    | none => exact .inl hsame
    | some strDevID =>
      refine .inr ⟨strDevID, t, rfl, rfl, ?_⟩
      dsimp only
      rcases hrun : (onWorld (beginSwitchData sel dir mode rc.switch)).run t with ⟨e | ret, u⟩
      · rw [bind_run_error hrun]
        exact congrArg (fun o => o.2.world.server) hrun.symm
      · -- the push does nothing to the server
        have hpush : Keeps KeepsServer (if ret then beginPcToPhone fmt rc.push strDevID
            else pure false) := Keeps.ite (keepsServer_beginPcToPhone fmt _ _) (keeps_pure _)
        rw [bind_run_ok hrun]
        exact (hpush u).trans (congrArg (fun o => o.2.world.server) hrun.symm)

/-- **An event and the server**: only the others' edits and the effects of a sync that has pulled
a database change the server's tables. -/
theorem fleetStep_server {fmt : SqliteFormat β} {s s' : Dlg β} {e : FleetEvent β}
    (hstep : fleetStep fmt s e = some s') :
    s'.world.server.db = s.world.server.db ∨
      (∃ f, e = .edit f ∧ s'.world.server.db = f s.world.server.db) ∨
      ∃ h sel dir mode rc w, e = .sync h sel dir mode rc ∧ FleetEvent.Pulls fmt s h rc w ∧
        w.sq.tx = none ∧ w.server.db = s.world.server.db ∧
        s'.world.server.db = ((beginSwitchData sel dir mode rc.switch).run w).2.server.db := by
  cases e with
  | sync h sel dir mode rc =>
    cases hstep
    rcases myControllingFunction_server fmt sel dir mode rc (s.startedWith h) with
      hsame | ⟨strDevID, t, hyes, hpull, hserver⟩
    · exact .inl (congrArg Server.db hsame)
    · have hsame := beginPhoneToPc_sameServer fmt rc.pull (s.startedWith h)
      rw [hpull] at hsame
      exact .inr (.inr ⟨h, sel, dir, mode, rc, t.world, rfl, ⟨hyes, strDevID, t, hpull, rfl⟩,
        hsame.tx, congrArg Server.db hsame.server, congrArg Server.db hserver⟩)
  | clear h rc =>
    cases hstep
    exact .inl (congrArg Server.db (keepsServer_beginClearThread fmt rc _))
  | reback h rc =>
    cases hstep
    exact .inl (congrArg Server.db (sameServer_beginRebackData fmt rc _).server)
  | edit f =>
    cases hstep
    exact .inr (.inl ⟨f, rfl, rfl⟩)
  | use strDevID p =>
    cases hstep
    exact .inl rfl

end Server

/-! ## §3 What holds of the server along a run -/

/-- **What edits and the effects of syncs keep** of the server's tables holds along every run of
the fleet; the effects are those on the file that was pulled. -/
theorem fleet_server_invariant {fmt : SqliteFormat β} {I : MysqlDB → Prop}
    {ok : Dlg β → FleetEvent β → Prop}
    (hedit : ∀ s f, ok s (.edit f) → I s.world.server.db → I (f s.world.server.db))
    (hsync : ∀ s h sel dir mode rc w, ok s (.sync h sel dir mode rc) →
      FleetEvent.Pulls fmt s h rc w → I w.server.db →
      ∀ v, ReflTransGen (SyncEffect rc.switch.AllBind dir mode) w.begun v → I v.db)
    {s s' : Dlg β} {es : List (FleetEvent β)} (hrun : Run (fleetStep fmt) ok s es s')
    (h : I s.world.server.db) : I s'.world.server.db := by
  refine hrun.invariant (I := fun s => I s.world.server.db) (fun a e b ha hok hstep => ?_) h
  rcases fleetStep_server hstep with
    hsame | ⟨f, rfl, hdb⟩ | ⟨h, sel, dir, mode, rc, w, rfl, hpulls, htx, hw, hdb⟩
  · exact hsame ▸ ha
  · exact hdb ▸ hedit a f hok ha
  · rw [hdb]
    exact hsync a h sel dir mode rc w hok hpulls (hw ▸ ha) _
      (sync_is_effects sel dir mode rc.switch htx)

end MtpSync
