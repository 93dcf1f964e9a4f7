import MtpSync.Lib.Run
import MtpSync.LogDlg

/-!
# The list of devices

The thread `ShowAllDevices` reads the devices that are attached into `m_strDevicesID` and into a
combo box, and suspends itself; a message that a device has come or gone resumes it, and so does the
refresh button.  A sync opens the device whose identifier has the index selected in the box.

- §1 the thread
- §2 the steps of the system
- §3 the entry that is selected
- §4 when the list is up to date
-/

namespace MtpSync

/-! ## §1 The thread -/

/-- A device, with its friendly name. -/
structure WpdDevice where
  id : String
  name : String
  deriving DecidableEq

/-- Where `ShowAllDevices` stands. -/
inductive ShowPc where
  /-- at the top of its loop -/
  | removeAll
  /-- `GetDevices` for the count -/
  | count
  /-- `GetDevices` for the devices -/
  | list (pnpDeviceIDCount : ℕ)
  /-- the loop of `GetWDPAllDevice`, with the devices it still has to add -/
  | add (left : List WpdDevice)
  | resetContent
  | addString (index : ℕ)
  | setCurSel (index : ℕ)
  | suspend
  /-- in `SuspendThread` -/
  | sleeping
  deriving DecidableEq

/-- What the calls of one step return. -/
structure ShowRc where
  /-- the calls of `GetWDPAllDevice` before it adds a device -/
  ok : Bool
  GetDeviceFriendlyName : Bool

/-- The devices that are attached, and what the program has of them. -/
structure Devices where
  attached : List WpdDevice
  /-- messages `WM_DEVICECHANGE` that have not been handled -/
  messages : ℕ
  m_strDevicesID : List String
  strNames : List String
  m_combox_devices : ComboBox
  pc : ShowPc
  deriving DecidableEq

namespace Devices

/-- One step of `ShowAllDevices`.  A call that fails leaves `GetWDPAllDevice` before it has added
anything, and the box as it is. -/
def showAllDevices (rc : ShowRc) (s : Devices) : Option Devices :=
  match s.pc with
  | .removeAll => some { s with m_strDevicesID := [], strNames := [], pc := .count }
  | .count =>
    if rc.ok then
      some { s with
        pc := if s.attached.length > 0 then .list s.attached.length else .resetContent }
    else some { s with pc := .suspend }
  | .list pnpDeviceIDCount =>
    if rc.ok then some { s with pc := .add (s.attached.take pnpDeviceIDCount) }
    else some { s with pc := .suspend }
  | .add [] => some { s with pc := .resetContent }
  | .add (d :: left) =>
    some { s with
      m_strDevicesID := s.m_strDevicesID ++ [d.id]
      strNames := s.strNames ++ [if rc.GetDeviceFriendlyName then d.name else ""]
      pc := .add left }
  | .resetContent => some { s with m_combox_devices := ⟨[], none, ""⟩, pc := .addString 0 }
  | .addString index =>
    if index < s.m_strDevicesID.length then
      s.strNames[index]?.map fun strName =>
        { s with
          m_combox_devices := s.m_combox_devices.AddString strName
          pc := .setCurSel index }
    else some { s with pc := .suspend }
  | .setCurSel index =>
    some { s with
      m_combox_devices := s.m_combox_devices.SetCurSel index
      pc := .addString (index + 1) }
  | .suspend => some { s with pc := .sleeping }
  | .sleeping => none

/-- `ResumeThread`, which does nothing to a thread that is not suspended. -/
def resumeThread (s : Devices) : Devices :=
  if s.pc = .sleeping then { s with pc := .removeAll } else s

/-! ## §2 The steps of the system -/

end Devices

inductive DeviceEvent where
  /-- devices come or go, and a message is posted -/
  | change (attached : List WpdDevice)
  /-- `OnMyDeviceChange` handles a message -/
  | onMyDeviceChange
  | onBnClickedRefreshDevs
  /-- an entry of the box is selected -/
  | choose (index : ℕ)
  /-- the thread takes a step -/
  | thread (rc : ShowRc)

namespace Devices

def step (s : Devices) : DeviceEvent → Option Devices
  | .change attached => some { s with attached, messages := s.messages + 1 }
  | .onMyDeviceChange =>
    if s.messages = 0 then none else some { s.resumeThread with messages := s.messages - 1 }
  | .onBnClickedRefreshDevs => some s.resumeThread
  | .choose index =>
    if index < s.m_combox_devices.items.length then
      some { s with m_combox_devices := s.m_combox_devices.SetCurSel index }
    else none
  | .thread rc => s.showAllDevices rc

/-- The dialog has just been opened. -/
def start (attached : List WpdDevice) : Devices := ⟨attached, 0, [], [], ⟨[], none, ""⟩, .removeAll⟩

/-- What the head of `BeginPhoneToPc` gets. -/
inductive Choice where
  /-- `请选择一项设备` -/
  | none
  /-- `GetAt` throws -/
  | outOfRange
  | device (strDevID : String)
  deriving DecidableEq

/-- `m_strDevicesID.GetAt(m_combox_devices.GetCurSel())`. -/
def choice (s : Devices) : Choice :=
  match s.m_combox_devices.curSel with
  | .none => .none
  | some curIndex =>
    match s.m_strDevicesID[curIndex]? with
    | .none => .outOfRange
    | some strDevID => .device strDevID

end Devices

/-! ## §3 The entry that is selected -/

/-- The text of a box is its selected entry. -/
def ComboBox.Valid (c : ComboBox) : Prop := ∀ i, c.curSel = some i → c.items[i]? = some c.text

private theorem ComboBox.Valid.addString {c : ComboBox} (h : c.Valid) (s : String) :
    (c.AddString s).Valid := by
  intro i hi
  have hget := h i hi
  have hlt : i < c.items.length := (List.getElem?_eq_some_iff.1 hget).1
  exact (List.getElem?_append_left hlt).trans hget

private theorem ComboBox.valid_setCurSel (c : ComboBox) (n : ℕ) : (c.SetCurSel n).Valid := by
  intro i hi
  unfold ComboBox.SetCurSel at hi ⊢
  split at hi
  · rename_i hget
    cases hi
    simp only [hget]
  · cases hi

/-- The texts are the names of the devices, or empty where a name could not be read. -/
def Named (strNames : List String) (ds : List WpdDevice) : Prop :=
  List.Forall₂ (fun strName d => strName = d.name ∨ strName = "") strNames ds

/-- The devices that an event makes known. -/
def DeviceEvent.arrivals : DeviceEvent → List WpdDevice
  | .change attached => attached
  | _ => []

/-- The devices that have been attached at some time. -/
def everAttached (attached : List WpdDevice) (es : List DeviceEvent) : List WpdDevice :=
  attached ++ es.flatMap DeviceEvent.arrivals

namespace Devices

/-- What the thread has read: devices of `known`, in their order. -/
structure HasRead (s : Devices) (known ds : List WpdDevice) : Prop where
  known : ds ⊆ known
  ids : s.m_strDevicesID = ds.map WpdDevice.id
  names : Named s.strNames ds

/-- What there is of the devices, at every point of the thread. -/
def Knows (known : List WpdDevice) (s : Devices) : ShowPc → Prop
  | .removeAll => True
  | .count => s.m_strDevicesID = [] ∧ s.strNames = []
  | .list _ => s.m_strDevicesID = [] ∧ s.strNames = []
  | .add left => left ⊆ known ∧ ∃ ds, s.HasRead known ds
  | .resetContent => ∃ ds, s.HasRead known ds
  | .addString index => ∃ ds, s.HasRead known ds ∧ index ≤ ds.length ∧
    s.m_combox_devices.items = s.strNames.take index
  | .setCurSel index => ∃ ds, s.HasRead known ds ∧ index < ds.length ∧
    s.m_combox_devices.items = s.strNames.take (index + 1)
  | .suspend => s.m_strDevicesID = [] ∨ ∃ ds ⊆ known,
    s.m_strDevicesID = ds.map WpdDevice.id ∧ Named s.m_combox_devices.items ds
  | .sleeping => s.m_strDevicesID = [] ∨ ∃ ds ⊆ known,
    s.m_strDevicesID = ds.map WpdDevice.id ∧ Named s.m_combox_devices.items ds

/-- The invariant. -/
structure Inv (known : List WpdDevice) (s : Devices) : Prop where
  attached : s.attached ⊆ known
  box : s.m_combox_devices.Valid
  knows : s.Knows known s.pc

section Steps

variable {known : List WpdDevice} {s s' : Devices}

/-- Only four members matter, and more devices may be known. -/
private theorem Knows.congr (s s' : Devices) {known' : List WpdDevice} (hsub : known ⊆ known')
    (hids : s'.m_strDevicesID = s.m_strDevicesID) (hnames : s'.strNames = s.strNames)
    (hitems : s'.m_combox_devices.items = s.m_combox_devices.items) {pc : ShowPc}
    (h : s.Knows known pc) : s'.Knows known' pc := by
  have hread : ∀ ds, s.HasRead known ds → s'.HasRead known' ds := fun ds h =>
    ⟨List.Subset.trans h.known hsub, hids.trans h.ids, hnames ▸ h.names⟩
  cases pc with
  | removeAll => trivial
  | count => exact ⟨hids.trans h.1, hnames.trans h.2⟩
  | list n => exact ⟨hids.trans h.1, hnames.trans h.2⟩
  | add left =>
    obtain ⟨hleft, ds, h⟩ := h
    exact ⟨List.Subset.trans hleft hsub, ds, hread ds h⟩
  | resetContent =>
    obtain ⟨ds, h⟩ := h
    exact ⟨ds, hread ds h⟩
  | addString index =>
    obtain ⟨ds, h, hle, hbox⟩ := h
    exact ⟨ds, hread ds h, hle, by rw [hitems, hnames, hbox]⟩
  | setCurSel index =>
    obtain ⟨ds, h, hlt, hbox⟩ := h
    exact ⟨ds, hread ds h, hlt, by rw [hitems, hnames, hbox]⟩
  | suspend =>
    rcases h with h | ⟨ds, hds, hmap, h⟩
    · exact .inl (hids.trans h)
    · exact .inr ⟨ds, List.Subset.trans hds hsub, hids.trans hmap, hitems ▸ h⟩
  | sleeping =>
    rcases h with h | ⟨ds, hds, hmap, h⟩
    · exact .inl (hids.trans h)
    · exact .inr ⟨ds, List.Subset.trans hds hsub, hids.trans hmap, hitems ▸ h⟩

private theorem Inv.resumeThread (h : Inv known s) : Inv known s.resumeThread := by
  unfold Devices.resumeThread
  split
  · exact ⟨h.attached, h.box, trivial⟩
  · exact h

/-- **One step of the thread.** -/
private theorem Inv.showAllDevices (h : Inv known s) {rc : ShowRc}
    (hstep : s.showAllDevices rc = some s') : Inv known s' := by
  obtain ⟨hattached, hbox, hknows⟩ := h
  unfold Devices.showAllDevices at hstep
  split at hstep
  -- one case for each point of the thread, which has left the box alone up to `resetContent`
  all_goals rename_i hpc; rw [hpc] at hknows
  · cases hstep
    exact ⟨hattached, hbox, rfl, rfl⟩
  · split at hstep
    · cases hstep
      refine ⟨hattached, hbox, ?_⟩
      dsimp only
      split
      · exact hknows
      · exact ⟨[], List.nil_subset _, hknows.1, hknows.2 ▸ .nil⟩
    · -- the call fails: no identifier is left, and the box keeps its old entries
      cases hstep
      exact ⟨hattached, hbox, .inl hknows.1⟩
  · split at hstep
    · cases hstep
      exact ⟨hattached, hbox, List.Subset.trans (List.take_subset _ _) hattached, [],
        List.nil_subset _, hknows.1, hknows.2 ▸ .nil⟩
    · cases hstep
      exact ⟨hattached, hbox, .inl hknows.1⟩
  · cases hstep
    obtain ⟨-, ds, hread⟩ := hknows
    exact ⟨hattached, hbox, ds, hread.known, hread.ids, hread.names⟩
  · -- the identifier and the name of one more device
    cases hstep
    obtain ⟨hleft, ds, hds, hids, hnames⟩ := hknows
    rename_i d left
    have hmem := List.cons_subset.1 hleft
    refine ⟨hattached, hbox, hmem.2, ds ++ [d], ?_, by simp [hids], ?_⟩
    · exact List.append_subset.2 ⟨hds, List.cons_subset.2 ⟨hmem.1, List.nil_subset _⟩⟩
    · refine List.rel_append hnames (.cons ?_ .nil)
      split
      · exact .inl rfl
      · exact .inr rfl
  · cases hstep
    obtain ⟨ds, hread⟩ := hknows
    have hempty : ComboBox.Valid ⟨[], none, ""⟩ := fun i hi => by cases hi
    exact ⟨hattached, hempty, ds, ⟨hread.known, hread.ids, hread.names⟩, Nat.zero_le _, rfl⟩
  · obtain ⟨ds, hread, hle, hitems⟩ := hknows
    have hlength : s.strNames.length = ds.length := hread.names.length_eq
    split at hstep
    · -- the next entry of the box is the next name
      rename_i index hlt
      rw [hread.ids, List.length_map] at hlt
      obtain ⟨strName, hget, rfl⟩ := Option.map_eq_some_iff.1 hstep
      refine ⟨hattached, hbox.addString strName, ds, ⟨hread.known, hread.ids, hread.names⟩, hlt, ?_⟩
      rw [List.take_add_one, hget]
      exact congrArg (· ++ [strName]) hitems
    · -- the loop ends behind the last name, so the entries are all of them
      rename_i index hge
      cases hstep
      rw [hread.ids, List.length_map] at hge
      refine ⟨hattached, hbox, .inr ⟨ds, hread.known, hread.ids, ?_⟩⟩
      rw [hitems, List.take_of_length_le (by omega)]
      exact hread.names
  · cases hstep
    obtain ⟨ds, hread, hlt, hitems⟩ := hknows
    refine ⟨hattached, ComboBox.valid_setCurSel _ _, ds, ⟨hread.known, hread.ids, hread.names⟩,
      hlt, ?_⟩
    rw [ComboBox.items_SetCurSel, hitems]
  · cases hstep
    exact ⟨hattached, hbox, hknows⟩
  · cases hstep

private theorem Inv.step (h : Inv known s) {e : DeviceEvent} (hstep : s.step e = some s') :
    Inv (known ++ e.arrivals) s' := by
  cases e with
  | change attached =>
    -- what the thread has read was attached before, and stays known
    cases hstep
    refine ⟨List.subset_append_right _ _, h.box, ?_⟩
    refine Knows.congr s _ (List.subset_append_left known attached) ?_ ?_ ?_ h.knows
    all_goals rfl
  | onMyDeviceChange =>
    show Inv (known ++ []) s'
    rw [List.append_nil]
    rw [Devices.step] at hstep
    split at hstep
    · cases hstep
    · cases hstep
      obtain ⟨hattached, hbox, hknows⟩ := h.resumeThread
      refine ⟨hattached, hbox, ?_⟩
      refine Knows.congr s.resumeThread _ (List.Subset.refl _) ?_ ?_ ?_ hknows
      all_goals rfl
  | onBnClickedRefreshDevs =>
    show Inv (known ++ []) s'
    rw [List.append_nil]
    cases hstep
    exact h.resumeThread
  | choose index =>
    show Inv (known ++ []) s'
    rw [List.append_nil]
    rw [Devices.step] at hstep
    split at hstep
    · cases hstep
      refine ⟨h.attached, ComboBox.valid_setCurSel _ _, ?_⟩
      refine Knows.congr s _ (List.Subset.refl _) ?_ ?_ ?_ h.knows
      · rfl
      · rfl
      · exact ComboBox.items_SetCurSel _ _
    · cases hstep
  | thread rc =>
    show Inv (known ++ []) s'
    rw [List.append_nil]
    exact h.showAllDevices hstep

end Steps

section Runs

variable {ok : Devices → DeviceEvent → Prop} {s : Devices} {es : List DeviceEvent}

private theorem Inv.snoc {attached : List WpdDevice} {t t' : Devices} {e : DeviceEvent}
    (h : Inv (everAttached attached es) t) (hstep : t.step e = some t') :
    Inv (everAttached attached (es ++ [e])) t' := by
  have hmore : everAttached attached (es ++ [e]) = everAttached attached es ++ e.arrivals := by
    simp [everAttached]
  rw [hmore]
  exact h.step hstep

private theorem inv_start (attached : List WpdDevice) :
    Inv (everAttached attached []) (start attached) := by
  refine ⟨List.subset_append_left _ _, fun i hi => ?_, trivial⟩
  cases hi

private theorem inv_run {attached : List WpdDevice} (hrun : Run step ok (start attached) es s) :
    Inv (everAttached attached es) s :=
  hrun.history (I := fun past t => Inv (everAttached attached past) t)
    (fun _ _ _ _ hpast _ hstep => hpast.snoc hstep) (inv_start attached)

end Runs

/-- **The device that a sync opens is the one whose name is selected**, whenever the thread sleeps:
after any order of devices coming and going, messages, refreshes, selections and steps of the
thread.  If nothing was read, because a call failed, the box has its old entries, and the index of
any of them is out of range. -/
theorem choice_of_sleeping {ok : Devices → DeviceEvent → Prop} {attached : List WpdDevice}
    {es : List DeviceEvent} {s : Devices} (hrun : Run step ok (start attached) es s)
    (hpc : s.pc = .sleeping) :
    (s.choice = .outOfRange ↔ s.m_strDevicesID = [] ∧ s.m_combox_devices.curSel ≠ none) ∧
      ∀ strDevID, s.choice = .device strDevID → ∃ d ∈ everAttached attached es,
        d.id = strDevID ∧ (s.m_combox_devices.text = d.name ∨ s.m_combox_devices.text = "") := by
  obtain ⟨-, hbox, hknows⟩ := inv_run hrun
  rw [hpc] at hknows
  unfold choice
  cases hsel : s.m_combox_devices.curSel with
  | none => simp
  | some i =>
    rcases hknows with hids | ⟨ds, hds, hids, hnamed⟩
    · -- an index of the old entries, and no identifiers
      simp [hids]
    · -- the entry and the identifier of that number
      have hget := hbox i hsel
      obtain ⟨hlt, htext⟩ := List.getElem?_eq_some_iff.1 hget
      have hlt' : i < ds.length := hnamed.length_eq ▸ hlt
      have hid : s.m_strDevicesID[i]? = some ds[i].id := by
        rw [hids, List.getElem?_map, List.getElem?_eq_getElem hlt']
        rfl
      have hname : s.m_combox_devices.items[i] = ds[i].name ∨ s.m_combox_devices.items[i] = "" :=
        hnamed.get hlt hlt'
      have hne : s.m_strDevicesID ≠ [] := by
        rintro hnil
        rw [hnil] at hid
        cases hid
      simp only [hid, reduceCtorEq, hne, false_and, true_and,
        Choice.device.injEq]
      rintro strDevID rfl
      exact ⟨ds[i], hds (List.getElem_mem hlt'), rfl, htext ▸ hname⟩

/-- The steps of the thread for one device, with every call succeeding. -/
def oneDeviceRead : List DeviceEvent := .replicate 10 (.thread ⟨true, true⟩)

/-- What it leaves. -/
def oneDevice : Devices :=
  ⟨[⟨"dev", "phone"⟩], 0, ["dev"], ["phone"], ⟨["phone"], some 0, "phone"⟩, .sleeping⟩

/-- A sync opens the one device. -/
theorem choice_of_oneDevice :
    (oneDevice.choice = .outOfRange ↔
        oneDevice.m_strDevicesID = [] ∧ oneDevice.m_combox_devices.curSel ≠ none) ∧
      ∀ strDevID, oneDevice.choice = .device strDevID →
        ∃ d ∈ everAttached [⟨"dev", "phone"⟩] oneDeviceRead, d.id = strDevID ∧
          (oneDevice.m_combox_devices.text = d.name ∨ oneDevice.m_combox_devices.text = "") := by
  have hrun : Run step (fun _ _ => True) (start [⟨"dev", "phone"⟩]) oneDeviceRead oneDevice :=
    Run.of_eval (by decide) (by decide)
  exact choice_of_sleeping hrun rfl

/-! ## §4 When the list is up to date -/

/-- Every message is handled while the thread is suspended. -/
def Awakes (s : Devices) : DeviceEvent → Prop
  | .onMyDeviceChange => s.pc = .sleeping
  | _ => True

instance (s : Devices) : ∀ e, Decidable (s.Awakes e)
  | .onMyDeviceChange => inferInstanceAs (Decidable (s.pc = .sleeping))
  | .change _ => .isTrue trivial
  | .onBnClickedRefreshDevs => .isTrue trivial
  | .choose _ => .isTrue trivial
  | .thread _ => .isTrue trivial

/-- Whether the last call of `GetDevices` failed, behind one more event. -/
def getDevicesFailed (s : Devices) (e : DeviceEvent) (failed : Bool) : Bool :=
  match e, s.pc with
  | .thread rc, .count => !rc.ok
  | .thread rc, .list _ => !rc.ok
  | _, _ => failed

/-- Whether the last call of `GetDevices` failed, of those that the events lead to. -/
def lastFailed (s : Devices) (es : List DeviceEvent) : Bool :=
  Run.observe step getDevicesFailed s false es

/-- What has been read is what is attached, at every point of the thread, unless `GetDevices`
failed. -/
def UpToDate (s : Devices) (failed : Bool) : ShowPc → Prop
  | .removeAll => True
  | .count => True
  | .list pnpDeviceIDCount => pnpDeviceIDCount = s.attached.length
  | .add left => failed = false ∧ ∃ done, s.HasRead s.attached done ∧ done ++ left = s.attached
  | .resetContent => failed = false ∧ s.HasRead s.attached s.attached
  | .addString _ => failed = false ∧ s.HasRead s.attached s.attached
  | .setCurSel _ => failed = false ∧ s.HasRead s.attached s.attached
  | .suspend => if failed then s.m_strDevicesID = [] else
    s.m_strDevicesID = s.attached.map WpdDevice.id ∧ Named s.m_combox_devices.items s.attached
  | .sleeping => if failed then s.m_strDevicesID = [] else
    s.m_strDevicesID = s.attached.map WpdDevice.id ∧ Named s.m_combox_devices.items s.attached

/-- A message is on its way, or the thread has what is attached. -/
def Fresh (s : Devices) (failed : Bool) : Prop := 0 < s.messages ∨ s.UpToDate failed s.pc

section Fresh

variable {known : List WpdDevice} {s s' : Devices} {failed : Bool}

/-- **One step of the thread.** -/
private theorem upToDate_showAllDevices (h : Inv known s) {rc : ShowRc}
    (hstep : s.showAllDevices rc = some s') (hdate : s.UpToDate failed s.pc) :
    s'.UpToDate (s.getDevicesFailed (.thread rc) failed) s'.pc := by
  obtain ⟨-, -, hknows⟩ := h
  unfold Devices.showAllDevices at hstep
  unfold getDevicesFailed
  split at hstep
  all_goals rename_i hpc; rw [hpc] at hknows hdate; rw [hpc]; dsimp only
  · cases hstep
    trivial
  · split at hstep
    · rename_i hok
      cases hstep
      rw [hok]
      dsimp only
      split
      · exact rfl
      · -- no devices
        rename_i hzero
        have hnil : s.attached = [] := List.length_eq_zero_iff.1 (by omega)
        exact ⟨rfl, List.Subset.refl _, by simp [hknows.1, hnil],
          by rw [hknows.2, hnil]; exact .nil⟩
    · rename_i hok
      cases hstep
      rw [Bool.not_eq_true] at hok
      rw [hok]
      exact hknows.1
  · split at hstep
    · -- nothing has come or gone since the count, so the list is complete
      rename_i hok
      cases hstep
      rw [hok]
      refine ⟨rfl, [], ⟨List.nil_subset _, hknows.1, hknows.2 ▸ .nil⟩, ?_⟩
      rw [List.nil_append, List.take_of_length_le (Nat.le_of_eq hdate.symm)]
    · rename_i hok
      cases hstep
      rw [Bool.not_eq_true] at hok
      rw [hok]
      exact hknows.1
  · cases hstep
    obtain ⟨hfailed, done, hread, happend⟩ := hdate
    rw [List.append_nil] at happend
    subst happend
    exact ⟨hfailed, hread.known, hread.ids, hread.names⟩
  · -- one more device goes from the ones that are left to the ones that are done
    cases hstep
    obtain ⟨hfailed, done, hread, happend⟩ := hdate
    rename_i d left
    have hmore : (done ++ [d]) ++ left = s.attached := by
      rw [List.append_assoc, List.singleton_append, happend]
    refine ⟨hfailed, done ++ [d], ⟨?_, by simp [hread.ids], ?_⟩, hmore⟩
    · exact hmore ▸ List.subset_append_left _ _
    · refine List.rel_append hread.names (.cons ?_ .nil)
      split
      · exact .inl rfl
      · exact .inr rfl
  · cases hstep
    exact ⟨hdate.1, hdate.2.known, hdate.2.ids, hdate.2.names⟩
  · split at hstep
    · obtain ⟨strName, hget, rfl⟩ := Option.map_eq_some_iff.1 hstep
      exact ⟨hdate.1, hdate.2.known, hdate.2.ids, hdate.2.names⟩
    · -- every name is in the box
      rename_i index hge
      cases hstep
      obtain ⟨ds, hread, hle, hitems⟩ := hknows
      rw [hread.ids, List.length_map] at hge
      have hlength : s.strNames.length = ds.length := hread.names.length_eq
      rw [hdate.1]
      refine ⟨hdate.2.ids, ?_⟩
      rw [hitems, List.take_of_length_le (by omega)]
      exact hdate.2.names
  · cases hstep
    exact ⟨hdate.1, hdate.2.known, hdate.2.ids, hdate.2.names⟩
  · cases hstep
    exact hdate
  · cases hstep

/-- A selection changes neither the entries nor what has been read. -/
private theorem UpToDate.choose {pc : ShowPc} (h : s.UpToDate failed pc) (index : ℕ) :
    UpToDate { s with m_combox_devices := s.m_combox_devices.SetCurSel index } failed pc := by
  have hitems := ComboBox.items_SetCurSel s.m_combox_devices index
  have hread : ∀ ds, s.HasRead s.attached ds → HasRead
      { s with m_combox_devices := s.m_combox_devices.SetCurSel index } s.attached ds :=
    fun ds h => ⟨h.known, h.ids, h.names⟩
  cases pc with
  | removeAll => trivial
  | count => trivial
  | list n => exact h
  | add left =>
    obtain ⟨hfailed, done, h, happend⟩ := h
    exact ⟨hfailed, done, hread done h, happend⟩
  | resetContent => exact ⟨h.1, hread _ h.2⟩
  | addString i => exact ⟨h.1, hread _ h.2⟩
  | setCurSel i => exact ⟨h.1, hread _ h.2⟩
  | suspend | sleeping =>
    cases failed with
    | true => exact h
    | false => exact ⟨h.1, hitems.symm ▸ h.2⟩

private theorem messages_showAllDevices {rc : ShowRc} (hstep : s.showAllDevices rc = some s') :
    s'.messages = s.messages := by
  unfold Devices.showAllDevices at hstep
  split at hstep
  case h_7 =>
    split at hstep
    · obtain ⟨strName, -, rfl⟩ := Option.map_eq_some_iff.1 hstep
      rfl
    · cases hstep
      rfl
  case h_10 => cases hstep
  all_goals first
    | (cases hstep; rfl)
    | (split at hstep <;> cases hstep <;> rfl)

private theorem fresh_resumeThread (h : s.Fresh failed) : s.resumeThread.Fresh failed := by
  unfold resumeThread
  split
  · exact .inr trivial
  · exact h

private theorem Fresh.step (hinv : Inv known s) {e : DeviceEvent} (hawakes : s.Awakes e)
    (hstep : s.step e = some s') (h : s.Fresh failed) :
    s'.Fresh (s.getDevicesFailed e failed) := by
  cases e with
  | change attached =>
    -- what has been read is out of date, and the message is on its way
    cases hstep
    exact .inl (Nat.succ_pos _)
  | onMyDeviceChange =>
    rw [Devices.step] at hstep
    split at hstep
    · cases hstep
    · -- the thread starts again
      cases hstep
      refine .inr ?_
      have hpc : s.resumeThread.pc = .removeAll := by
        have hsleeping : s.pc = .sleeping := hawakes
        rw [resumeThread, if_pos hsleeping]
      show UpToDate _ _ s.resumeThread.pc
      rw [hpc]
      trivial
  | onBnClickedRefreshDevs =>
    cases hstep
    exact fresh_resumeThread h
  | choose index =>
    rw [Devices.step] at hstep
    split at hstep
    · cases hstep
      exact h.imp id fun hdate => hdate.choose index
    · cases hstep
  | thread rc =>
    rcases h with hmessages | hdate
    · exact .inl ((messages_showAllDevices hstep).symm ▸ hmessages)
    · exact .inr (upToDate_showAllDevices hinv hstep hdate)

private theorem fresh_run {attached : List WpdDevice} {es : List DeviceEvent}
    (hrun : Run step Awakes (start attached) es s) :
    s.Fresh (lastFailed (start attached) es) := by
  refine (hrun.invariant_observe (I := fun failed t => (∃ known, Inv known t) ∧ t.Fresh failed)
    (fun failed t e t' h hok hstep => ?_) ⟨⟨_, inv_start attached⟩, .inr trivial⟩).2
  obtain ⟨⟨known, hinv⟩, hfresh⟩ := h
  exact ⟨⟨_, hinv.step hstep⟩, hfresh.step hinv hok hstep⟩

end Fresh

/-- **The list is up to date** when the thread sleeps and there is no message, if every message has
met it asleep: if the last call for the devices did not fail, the identifiers are those of the
devices attached, and the entries their names; if it failed, there are none.  A message that meets
the thread awake is lost. -/
theorem list_of_sleeping {attached : List WpdDevice} {es : List DeviceEvent} {s : Devices}
    (hrun : Run step Awakes (start attached) es s) (hpc : s.pc = .sleeping)
    (hmessages : s.messages = 0) :
    if lastFailed (start attached) es then s.m_strDevicesID = []
    else s.m_strDevicesID = s.attached.map WpdDevice.id ∧
      Named s.m_combox_devices.items s.attached := by
  have hfresh := fresh_run hrun
  rw [Fresh, hmessages, hpc] at hfresh
  exact hfresh.resolve_left (Nat.lt_irrefl 0)

/-- One device is read, a second one comes, and the list is read again, with every call
succeeding but for the second name. -/
def secondDeviceRead : List DeviceEvent :=
  oneDeviceRead ++ [.change [⟨"dev", "phone"⟩, ⟨"dev2", "tablet"⟩], .onMyDeviceChange] ++
    .replicate 4 (.thread ⟨true, true⟩) ++ [.thread ⟨true, false⟩] ++
    .replicate 8 (.thread ⟨true, true⟩)

/-- What it leaves. -/
def twoDevices : Devices :=
  ⟨[⟨"dev", "phone"⟩, ⟨"dev2", "tablet"⟩], 0, ["dev", "dev2"], ["phone", ""],
    ⟨["phone", ""], some 1, ""⟩, .sleeping⟩

/-- The list is read once more, and the call for the devices fails. -/
def thirdReadFails : List DeviceEvent :=
  secondDeviceRead ++ [.onBnClickedRefreshDevs] ++ .replicate 2 (.thread ⟨true, true⟩) ++
    .replicate 2 (.thread ⟨false, true⟩)

/-- Both devices are in the list; and none is, behind a call that fails. -/
theorem list_of_twoDevices :
    (lastFailed (start [⟨"dev", "phone"⟩]) secondDeviceRead = false ∧
      twoDevices.m_strDevicesID = twoDevices.attached.map WpdDevice.id ∧
      Named twoDevices.m_combox_devices.items twoDevices.attached) ∧
    lastFailed (start [⟨"dev", "phone"⟩]) thirdReadFails = true ∧
      { twoDevices with m_strDevicesID := [], strNames := [] }.m_strDevicesID = [] := by
  have hrun : Run step Awakes (start [⟨"dev", "phone"⟩]) secondDeviceRead twoDevices :=
    Run.of_eval (by decide) (by decide)
  have hrun' : Run step Awakes (start [⟨"dev", "phone"⟩]) thirdReadFails
      { twoDevices with m_strDevicesID := [], strNames := [] } :=
    Run.of_eval (by decide) (by decide)
  have hread : lastFailed (start [⟨"dev", "phone"⟩]) secondDeviceRead = false := by decide
  have hfails : lastFailed (start [⟨"dev", "phone"⟩]) thirdReadFails = true := by decide
  have hlist := list_of_sleeping hrun rfl rfl
  have hnone := list_of_sleeping hrun' rfl rfl
  rw [hread, if_neg (by decide)] at hlist
  rw [hfails, if_pos rfl] at hnone
  exact ⟨⟨hread, hlist⟩, hfails, hnone⟩

/-- A device that comes while the thread fills the box does not get into the list, though every
call succeeds. -/
theorem arrival_missed : ∃ (es : List DeviceEvent) (s : Devices),
    Run step (fun _ _ => True) (start []) es s ∧ s.pc = .sleeping ∧ s.messages = 0 ∧
      s.m_strDevicesID ≠ s.attached.map WpdDevice.id :=
  ⟨[.thread ⟨true, true⟩, .thread ⟨true, true⟩, .change [⟨"dev", "phone"⟩], .onMyDeviceChange,
      .thread ⟨true, true⟩, .thread ⟨true, true⟩, .thread ⟨true, true⟩],
    ⟨[⟨"dev", "phone"⟩], 0, [], [], ⟨[], none, ""⟩, .sleeping⟩,
    Run.of_eval (by decide) (by decide), rfl, rfl, by decide⟩

end Devices

end MtpSync
