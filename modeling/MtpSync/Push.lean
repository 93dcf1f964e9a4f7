import MtpSync.Lib.Act
import Mathlib.Data.List.Basic
import Mathlib.Data.Nat.Notation

/-!
# Putting a file on the phone

`DeleteDataFromDevice` and `TransferDataToDevice`: the file that is on the phone is deleted and
a new object is created and filled from a local file.  Every call may fail.

- §1 the objects on a phone
- §2 `StreamCopy`
- §3 deleting and transferring
- §4 when a push leaves a complete file
- §5 a push that replaces the file
-/

namespace MtpSync

variable {β : Type}

/-! ## §1 The objects on a phone -/

/-- The properties an object is created with. -/
structure ObjectProperties where
  PARENT_ID : String
  SIZE : ℕ
  ORIGINAL_FILE_NAME : String
  NAME : String

/-- An object on the phone.  Until it is committed its bytes are a transfer in progress. -/
structure PhoneObject (β : Type) where
  id : String
  properties : ObjectProperties
  bytes : List β
  committed : Bool

/-- The storage of a phone. -/
structure Phone (β : Type) where
  objects : List (PhoneObject β)

namespace Phone

/-- The phone without the object `objectID`. -/
def delete (objectID : String) (p : Phone β) : Phone β :=
  ⟨p.objects.filter fun o => o.id ≠ objectID⟩

/-- The phone with one more object. -/
def add (o : PhoneObject β) (p : Phone β) : Phone β := ⟨p.objects ++ [o]⟩

/-- Folder `parentID` has a complete object with these bytes. -/
def Holds (p : Phone β) (parentID : String) (bytes : List β) : Prop :=
  ∃ o ∈ p.objects, o.properties.PARENT_ID = parentID ∧ o.committed = true ∧ o.bytes = bytes

theorem mem_delete {objectID : String} {p : Phone β} {o : PhoneObject β} :
    o ∈ (p.delete objectID).objects ↔ o ∈ p.objects ∧ o.id ≠ objectID := by
  simp [delete]

theorem mem_add {p : Phone β} {o o' : PhoneObject β} :
    o' ∈ (p.add o).objects ↔ o' ∈ p.objects ∨ o' = o := by
  simp [add]

theorem holds_add {p : Phone β} {o : PhoneObject β} {parentID : String} {bytes : List β} :
    (p.add o).Holds parentID bytes ↔ p.Holds parentID bytes ∨
      o.properties.PARENT_ID = parentID ∧ o.committed = true ∧ o.bytes = bytes := by
  constructor
  · rintro ⟨x, hx, h⟩
    rcases mem_add.1 hx with hx | rfl
    · exact .inl ⟨x, hx, h⟩
    · exact .inr h
  · rintro (⟨x, hx, h⟩ | h)
    · exact ⟨x, mem_add.2 (.inl hx), h⟩
    · exact ⟨o, mem_add.2 (.inr rfl), h⟩

end Phone

/-! ## §2 `StreamCopy` -/

/-- What the calls of `StreamCopy` return, round by round. -/
structure CopyRc where
  /-- the buffer -/
  alloc : Bool
  /-- `Read` of round `i` -/
  read : ℕ → Bool
  /-- `Write` of round `i`: how many bytes it takes, unless it fails -/
  write : ℕ → Option ℕ

/-- The loop of `StreamCopy` from round `i` on: `sourceStream` is what is left to read,
`destStream` what has been written.  The number of bytes written is not compared with the
number read. -/
def streamCopyLoop (rc : CopyRc) (transferSizeBytes i : ℕ) (sourceStream destStream : List β) :
    Bool × List β :=
  if rc.read i then
    match rc.write i with
    | none => (false, destStream)
    | some bytesWritten =>
      let objectData := sourceStream.take transferSizeBytes
      if _hdone : objectData.length = 0 then (true, destStream)
      else streamCopyLoop rc transferSizeBytes (i + 1) (sourceStream.drop transferSizeBytes)
        (destStream ++ objectData.take bytesWritten)
  else (false, destStream)
termination_by sourceStream.length
decreasing_by
  simp only [objectData, List.length_take] at _hdone
  rw [List.length_drop]
  omega

/-- `StreamCopy`.  Without a buffer it copies nothing and reports success. -/
def streamCopy (rc : CopyRc) (transferSizeBytes : ℕ) (sourceStream : List β) :
    Bool × List β :=
  if rc.alloc then streamCopyLoop rc transferSizeBytes 0 sourceStream [] else (true, [])

/-- `StreamCopy` gets to round `i` of a stream of `n` bytes, if nothing fails before. -/
def CopyRound (transferSizeBytes n i : ℕ) : Prop :=
  i = 0 ∨ 0 < transferSizeBytes ∧ i * transferSizeBytes < n + transferSizeBytes

/-- The rounds after the first are those of what the first leaves. -/
theorem copyRound_succ {size n i : ℕ} :
    CopyRound size n (i + 1) ↔ 0 < min size n ∧ CopyRound size (n - size) i := by
  rw [CopyRound, CopyRound, Nat.succ_mul]
  rcases Nat.eq_zero_or_pos i with rfl | hi
  · omega
  · have hle : size ≤ i * size := Nat.le_mul_of_pos_left size hi
    omega

/-- Every `Read` and `Write` succeeds. -/
def CopyRc.Succeeds (rc : CopyRc) (size n : ℕ) : Prop :=
  ∀ i, CopyRound size n i → rc.read i = true ∧ (rc.write i).isSome = true

/-- Every `Write` takes all it is given, and the buffer is not empty for nothing. -/
def CopyRc.TakesAll (rc : CopyRc) (size n : ℕ) : Prop :=
  (0 < size ∨ n = 0) ∧
    ∀ i, CopyRound size n i → ∀ bytesWritten, rc.write i = some bytesWritten →
      min size (n - i * size) ≤ bytesWritten

/-- What holds in every round holds in the first and in those after it. -/
private theorem forall_copyRound {size n i : ℕ} {P : ℕ → ℕ → Prop} :
    (∀ j, CopyRound size n j → P j (i + j)) ↔
      P 0 i ∧ (0 < min size n → ∀ j, CopyRound size (n - size) j → P (j + 1) (i + 1 + j)) := by
  constructor
  · intro h
    refine ⟨h 0 (.inl rfl), fun hpos j hj => ?_⟩
    have hround := h (j + 1) (copyRound_succ.2 ⟨hpos, hj⟩)
    rwa [Nat.add_comm j 1, ← Nat.add_assoc, Nat.add_comm 1 j] at hround
  · rintro ⟨hzero, hsucc⟩ j hj
    cases j with
    | zero => exact hzero
    | succ j =>
      obtain ⟨hpos, hj⟩ := copyRound_succ.1 hj
      have hround := hsucc hpos j hj
      rwa [Nat.add_assoc, Nat.add_comm 1 j] at hround

/-- The loop succeeds when all calls of its rounds do. -/
private theorem streamCopyLoop_ok_iff (rc : CopyRc) (size i : ℕ) (source dest : List β) :
    (streamCopyLoop rc size i source dest).1 = true ↔
      ∀ j, CopyRound size source.length j →
        rc.read (i + j) = true ∧ (rc.write (i + j)).isSome = true := by
  rw [forall_copyRound (P := fun _ k => rc.read k = true ∧ (rc.write k).isSome = true)]
  fun_induction streamCopyLoop rc size i source dest with
  | case1 i source dest hread hwrite => simp [hwrite]
  | case2 i source dest hread written hwrite objectData hdone =>
    have hmin : ¬0 < min size source.length := by
      rw [List.length_take] at hdone
      omega
    simp [hread, hwrite, hmin]
  | case3 i source dest hread written hwrite objectData hdone ih =>
    have hmin : 0 < min size source.length := by
      rw [List.length_take] at hdone
      omega
    rw [ih, ← forall_copyRound (P := fun _ k => rc.read k = true ∧ (rc.write k).isSome = true)]
    simp [hread, hwrite, hmin]
  | case4 i source dest hread => simp [hread]

/-- What a loop that succeeds has copied: everything, if every `Write` took all it was given. -/
private theorem streamCopyLoop_copied (rc : CopyRc) (size i : ℕ) (source dest : List β)
    (hok : (streamCopyLoop rc size i source dest).1 = true) :
    ∃ copied, (streamCopyLoop rc size i source dest).2 = dest ++ copied ∧
      copied.length ≤ source.length ∧
      (copied = source ↔ (0 < size ∨ source.length = 0) ∧
        ∀ j, CopyRound size source.length j → ∀ bytesWritten,
          rc.write (i + j) = some bytesWritten →
            min size (source.length - j * size) ≤ bytesWritten) := by
  rw [forall_copyRound (P := fun j k => ∀ bytesWritten, rc.write k = some bytesWritten →
    min size (source.length - j * size) ≤ bytesWritten)]
  fun_induction streamCopyLoop rc size i source dest with
  | case1 i source dest hread hwrite => cases hok
  | case2 i source dest hread written hwrite objectData hdone =>
    refine ⟨[], (List.append_nil _).symm, Nat.zero_le _, ?_⟩
    rw [List.length_take] at hdone
    have hmin : ¬0 < min size source.length := by omega
    rw [eq_comm, ← List.length_eq_zero_iff]
    constructor
    · intro hnil
      exact ⟨.inr hnil, fun _ _ => by omega, fun hpos => absurd hpos hmin⟩
    · rintro ⟨hor, -, -⟩
      omega
  | case3 i source dest hread written hwrite objectData hdone ih =>
    obtain ⟨copied, hcopied, hlen, hall⟩ := ih hok
    rw [List.length_take] at hdone
    have hmin : 0 < min size source.length := by omega
    rw [List.length_drop] at hlen hall
    refine ⟨objectData.take written ++ copied, by rw [hcopied, List.append_assoc], ?_, ?_⟩
    · rw [List.length_append, List.length_take, List.length_take]
      omega
    -- a short write leaves the copy shorter than the stream
    have hsplit : objectData.take written ++ copied = source ↔
        min size source.length ≤ written ∧ copied = source.drop size := by
      constructor
      · intro heq
        have hlengths := congrArg List.length heq
        rw [List.length_append, List.length_take, List.length_take] at hlengths
        have hle : min size source.length ≤ written := by omega
        rw [List.take_of_length_le (by rw [List.length_take]; exact hle)] at heq
        exact ⟨hle, by
          have happ := heq.trans (List.take_append_drop size source).symm
          exact List.append_cancel_left happ⟩
      · rintro ⟨hle, rfl⟩
        rw [List.take_of_length_le (by rw [List.length_take]; exact hle)]
        exact List.take_append_drop size source
    rw [hsplit, hall, ← forall_copyRound (P := fun j k => ∀ bytesWritten,
      rc.write k = some bytesWritten → min size (source.length - size - j * size) ≤ bytesWritten)]
    have hshift : ∀ j, source.length - (j + 1) * size = source.length - size - j * size :=
      fun j => by rw [Nat.succ_mul]; omega
    simp only [hshift, hwrite]
    constructor
    · rintro ⟨hle, -, hrounds⟩
      exact ⟨.inl (by omega), fun n hn => by cases hn; omega, fun _ => hrounds⟩
    · rintro ⟨-, hfirst, hrounds⟩
      have hle := hfirst written rfl
      exact ⟨by omega, .inl (by omega), hrounds hmin⟩
  | case4 i source dest hread => cases hok

/-- **`StreamCopy`** reports success without a buffer, or when every call succeeds. -/
theorem streamCopy_ok_iff (rc : CopyRc) (size : ℕ) (source : List β) :
    (streamCopy rc size source).1 = true ↔ rc.alloc = false ∨ rc.Succeeds size source.length := by
  rw [streamCopy]
  rcases Bool.eq_false_or_eq_true rc.alloc with halloc | halloc
  · rw [if_pos halloc, streamCopyLoop_ok_iff, halloc]
    simp [CopyRc.Succeeds]
  · simp [halloc]

/-- When it reports success, the copy is complete exactly if there was a buffer and every
`Write` took all it was given, or the stream is empty. -/
theorem streamCopy_complete_iff (rc : CopyRc) (size : ℕ) (source : List β)
    (hok : (streamCopy rc size source).1 = true) :
    (streamCopy rc size source).2 = source ↔
      source = [] ∨ rc.alloc = true ∧ rc.TakesAll size source.length := by
  rw [streamCopy] at hok ⊢
  rcases Bool.eq_false_or_eq_true rc.alloc with halloc | halloc
  · rw [if_pos halloc] at hok ⊢
    obtain ⟨copied, hcopied, hlen, hall⟩ := streamCopyLoop_copied rc size 0 source [] hok
    rw [hcopied, List.nil_append, hall, halloc]
    simp only [true_and, Nat.zero_add]
    constructor
    · exact .inr
    · rintro (rfl | h)
      · refine ⟨.inr rfl, fun j hj n hn => ?_⟩
        simp
      · exact h
  · simp [halloc, eq_comm]

/-! ## §3 Deleting and transferring -/

/-- What `IPortableDeviceContent::Delete` returns. -/
inductive DeleteHr where
  | S_OK | S_FALSE | failed
  deriving DecidableEq

/-- What the calls of `DeleteDataFromDevice` return. -/
structure DeleteRc where
  Content : Bool
  CoCreateInstance : Bool
  AllocTaskWideString : Bool
  Add : Bool
  Delete : DeleteHr

/-- `DeleteDataFromDevice`.  It returns nothing. -/
def deleteDataFromDevice (rc : DeleteRc) (objectID : String) : Act (Phone β) Unit :=
  if rc.Content && rc.CoCreateInstance && rc.AllocTaskWideString && rc.Add then
    match rc.Delete with
    | .S_OK => Act.modify (Phone.delete objectID)
    -- `S_FALSE` says that the object failed to be deleted
    | .S_FALSE => pure ()
    | .failed => pure ()
  else pure ()

/-- A local file: its path, split, and its bytes, if it is there. -/
structure LocalFile (β : Type) where
  fileName : String
  fileExt : String
  bytes : Option (List β)

/-- What the calls that describe a new object return. -/
structure PropertiesRc where
  CoCreateInstance : Bool
  SetParentId : Bool
  Stat : Bool
  SetSize : Bool
  splitpath : Bool
  printf : Bool
  SetOriginalFileName : Bool
  SetName : Bool

/-- `GetRequiredPropertiesForContentType`, for `WPD_CONTENT_TYPE_ALL`. -/
def getRequiredProperties (rc : PropertiesRc) (parentID : String) (file : LocalFile β)
    (fileStream : List β) : Option ObjectProperties :=
  if rc.CoCreateInstance && rc.SetParentId && rc.Stat && rc.SetSize && rc.splitpath &&
      rc.printf && rc.SetOriginalFileName && rc.SetName then
    some
      { PARENT_ID := parentID
        SIZE := fileStream.length
        ORIGINAL_FILE_NAME := file.fileName ++ file.fileExt
        NAME := file.fileName }
  else none

/-- What the calls of `TransferDataToDevice` return. -/
structure TransferRc where
  Content : Bool
  /-- `SHCreateStreamOnFileEx`, when the file is there -/
  CreateStreamOnFile : Bool
  properties : PropertiesRc
  CreateObject : Bool
  /-- the identifier the phone gives the new object -/
  newObjectID : String
  optimalTransferSizeBytes : ℕ
  QueryInterface : Bool
  copy : CopyRc
  Commit : Bool

/-- `TransferDataToDevice`. -/
def transferDataToDevice (rc : TransferRc) (parentID : String) (file : LocalFile β) :
    Act (Phone β) Bool :=
  if rc.Content then
    match if rc.CreateStreamOnFile then file.bytes else none with
    | none => pure false
    | some fileStream =>
      match getRequiredProperties rc.properties parentID file fileStream with
      | none => pure false
      | some properties =>
        if rc.CreateObject then
          if rc.QueryInterface then
            let (ok, written) := streamCopy rc.copy rc.optimalTransferSizeBytes fileStream
            if ok then do
              -- `ret` is set here, before `Commit`, and `Commit` does not change it
              Act.modify (Phone.add ⟨rc.newObjectID, properties, written, rc.Commit⟩)
              pure true
            else do
              Act.modify (Phone.add ⟨rc.newObjectID, properties, written, false⟩)
              pure false
          else do
            Act.modify (Phone.add ⟨rc.newObjectID, properties, [], false⟩)
            pure false
        else pure false
  else pure false

/-- Delete the object, then transfer the file: how both `BeginPcToPhone` and `BeginRebackData`
end. -/
def deleteThenTransfer (delete : DeleteRc) (transfer : TransferRc) (gDirID gFileID : String)
    (file : LocalFile β) : Act (Phone β) Bool := do
  deleteDataFromDevice delete gFileID
  transferDataToDevice transfer gDirID file

/-! ## §4 When a push leaves a complete file -/

/-- The object was deleted. -/
def DeleteRc.deletes (rc : DeleteRc) : Bool :=
  rc.Content && rc.CoCreateInstance && rc.AllocTaskWideString && rc.Add && rc.Delete = .S_OK

/-- Every property could be set. -/
def PropertiesRc.ok (rc : PropertiesRc) : Bool :=
  rc.CoCreateInstance && rc.SetParentId && rc.Stat && rc.SetSize && rc.splitpath && rc.printf &&
    rc.SetOriginalFileName && rc.SetName

/-- The transfer gets to `StreamCopy`. -/
def TransferRc.reachesCopy (rc : TransferRc) : Bool :=
  rc.Content && rc.CreateStreamOnFile && rc.properties.ok && rc.CreateObject && rc.QueryInterface

/-- The transfer of `bytes` gets past `StreamCopy`. -/
def TransferRc.PastCopy (rc : TransferRc) (bytes : List β) : Prop :=
  rc.reachesCopy = true ∧
    (rc.copy.alloc = false ∨ rc.copy.Succeeds rc.optimalTransferSizeBytes bytes.length)

/-- Nothing of `bytes` is left behind by `StreamCopy`. -/
def TransferRc.CopiesAll (rc : TransferRc) (bytes : List β) : Prop :=
  bytes = [] ∨ rc.copy.alloc = true ∧ rc.copy.TakesAll rc.optimalTransferSizeBytes bytes.length

/-- What is on the phone after the delete. -/
def Phone.afterDelete (p : Phone β) (rc : DeleteRc) (objectID : String) : Phone β :=
  if rc.deletes then p.delete objectID else p

theorem deleteDataFromDevice_run (rc : DeleteRc) (objectID : String) (p : Phone β) :
    (deleteDataFromDevice rc objectID).run p = (.ok (), p.afterDelete rc objectID) := by
  rw [deleteDataFromDevice, Phone.afterDelete, DeleteRc.deletes]
  by_cases hcalls : (rc.Content && rc.CoCreateInstance && rc.AllocTaskWideString && rc.Add) = true
  · rw [if_pos hcalls, hcalls]
    cases rc.Delete <;> rfl
  · have hcalls' := Bool.not_eq_true _ ▸ hcalls
    rw [if_neg hcalls, hcalls']
    rfl

theorem getRequiredProperties_ok {rc : PropertiesRc} (parentID : String) (file : LocalFile β)
    (fileStream : List β) (hok : rc.ok = true) :
    ∃ properties, getRequiredProperties rc parentID file fileStream = some properties ∧
      properties.PARENT_ID = parentID := by
  rw [PropertiesRc.ok] at hok
  rw [getRequiredProperties, if_pos hok]
  exact ⟨_, rfl, rfl⟩

theorem getRequiredProperties_fails {rc : PropertiesRc} {parentID : String}
    {file : LocalFile β} {fileStream : List β} (hok : rc.ok = false) :
    getRequiredProperties rc parentID file fileStream = none := by
  rw [PropertiesRc.ok] at hok
  rw [getRequiredProperties, hok, if_neg (by decide)]

/-- Short of `StreamCopy`, the transfer answers `FALSE` and leaves at most an empty object that
is not committed. -/
private theorem transferDataToDevice_short (rc : TransferRc) (parentID : String)
    (file : LocalFile β) (p : Phone β) (h : (rc.reachesCopy && file.bytes.isSome) = false) :
    ∃ p', (transferDataToDevice rc parentID file).run p = (.ok false, p') ∧
      (p' = p ∨ ∃ o, p' = p.add o ∧ o.committed = false) := by
  -- step by step: the first that fails returns, and only the last leaves an object
  rw [transferDataToDevice]
  rcases Bool.eq_false_or_eq_true rc.Content with hcontent | hcontent
  swap
  · rw [hcontent, if_neg (by decide)]
    exact ⟨p, rfl, .inl rfl⟩
  rw [if_pos hcontent]
  rcases Bool.eq_false_or_eq_true rc.CreateStreamOnFile with hstream | hstream
  swap
  · rw [hstream, if_neg (by decide)]
    exact ⟨p, rfl, .inl rfl⟩
  rw [if_pos hstream]
  cases hbytes : file.bytes with
  | none => exact ⟨p, rfl, .inl rfl⟩
  | some bytes =>
    rcases Bool.eq_false_or_eq_true rc.properties.ok with hprops | hprops
    swap
    · dsimp only
      rw [getRequiredProperties_fails hprops]
      exact ⟨p, rfl, .inl rfl⟩
    obtain ⟨properties, hproperties, -⟩ := getRequiredProperties_ok parentID file bytes hprops
    dsimp only
    rw [hproperties]
    rcases Bool.eq_false_or_eq_true rc.CreateObject with hcreate | hcreate
    swap
    · simp only [hcreate]
      exact ⟨p, rfl, .inl rfl⟩
    rcases Bool.eq_false_or_eq_true rc.QueryInterface with hquery | hquery
    · rw [TransferRc.reachesCopy, hcontent, hstream, hprops, hcreate, hquery, hbytes] at h
      cases h
    · simp only [hcreate, hquery]
      exact ⟨_, rfl, .inr ⟨_, rfl, rfl⟩⟩

/-- From `StreamCopy` on. -/
private theorem transferDataToDevice_copies (rc : TransferRc) (parentID : String)
    (file : LocalFile β) (p : Phone β) {bytes : List β} (h : rc.reachesCopy = true)
    (hbytes : file.bytes = some bytes) :
    ∃ o, o.properties.PARENT_ID = parentID ∧
      o.bytes = (streamCopy rc.copy rc.optimalTransferSizeBytes bytes).2 ∧
      o.committed =
        ((streamCopy rc.copy rc.optimalTransferSizeBytes bytes).1 && rc.Commit) ∧
      (transferDataToDevice rc parentID file).run p =
        (.ok (streamCopy rc.copy rc.optimalTransferSizeBytes bytes).1, p.add o) := by
  simp only [TransferRc.reachesCopy, Bool.and_eq_true] at h
  obtain ⟨⟨⟨⟨hcontent, hstream⟩, hprops⟩, hcreate⟩, hquery⟩ := h
  obtain ⟨properties, hproperties, hparent⟩ := getRequiredProperties_ok parentID file bytes hprops
  rw [transferDataToDevice, if_pos hcontent, if_pos hstream, hbytes]
  dsimp only
  rw [hproperties]
  simp only [hcreate, hquery, if_true]
  cases hcopy : (streamCopy rc.copy rc.optimalTransferSizeBytes bytes).1 with
  | true => exact ⟨⟨rc.newObjectID, properties, _, rc.Commit⟩, hparent, rfl, rfl, rfl⟩
  | false => exact ⟨⟨rc.newObjectID, properties, _, false⟩, hparent, rfl, rfl, rfl⟩

/-- **`TransferDataToDevice`** adds at most one object.  It returns `TRUE` when it gets past
`StreamCopy`, and then the object it added holds what was copied and is committed if `Commit`
succeeded. -/
theorem transferDataToDevice_run (rc : TransferRc) (parentID : String) (file : LocalFile β)
    (p : Phone β) :
    ∃ ret p', (transferDataToDevice rc parentID file).run p = (.ok ret, p') ∧
      (ret = true ↔ ∃ bytes, file.bytes = some bytes ∧ rc.PastCopy bytes) ∧
      (∀ bytes, file.bytes = some bytes → ret = true →
        ∃ o, p' = p.add o ∧ o.properties.PARENT_ID = parentID ∧ o.committed = rc.Commit ∧
          (o.bytes = bytes ↔ rc.CopiesAll bytes)) ∧
      (p' = p ∨ ∃ o, p' = p.add o ∧ (ret = false → o.committed = false)) := by
  -- the copy loop is reached, or nothing was committed
  by_cases h : (rc.reachesCopy && file.bytes.isSome) = true
  · obtain ⟨hreach, hsome⟩ := (Bool.and_eq_true _ _).mp h
    obtain ⟨bytes, hbytes⟩ := Option.isSome_iff_exists.1 hsome
    obtain ⟨o, hparent, hcopied, hcommitted, hrun⟩ :=
      transferDataToDevice_copies rc parentID file p hreach hbytes
    refine ⟨_, _, hrun, ?_, ?_, .inr ⟨o, rfl, fun hfails => ?_⟩⟩
    · rw [streamCopy_ok_iff]
      constructor
      · exact fun hok => ⟨bytes, hbytes, hreach, hok⟩
      · rintro ⟨bytes', hbytes', -, hok⟩
        rw [hbytes] at hbytes'
        cases hbytes'
        exact hok
    · intro bytes' hbytes' hok
      rw [hbytes] at hbytes'
      cases hbytes'
      refine ⟨o, rfl, hparent, by rw [hcommitted, hok, Bool.true_and], ?_⟩
      rw [hcopied]
      exact streamCopy_complete_iff _ _ _ hok
    · rw [hcommitted, hfails, Bool.false_and]
  · obtain ⟨p', hrun, hp'⟩ :=
      transferDataToDevice_short rc parentID file p (Bool.not_eq_true _ ▸ h)
    refine ⟨_, _, hrun, ?_, fun _ _ hfalse => (by cases hfalse),
      hp'.imp_right fun ⟨o, ho, hc⟩ => ⟨o, ho, fun _ => hc⟩⟩
    constructor
    · exact fun hfalse => by cases hfalse
    · rintro ⟨bytes, hbytes, hreach, -⟩
      rw [hreach, hbytes] at h
      exact absurd rfl h

/-- A push leaves the phone with a complete file: it answers `TRUE` and the folder has the file
pushed, or it answers `FALSE` and the old file is still there. -/
def LeavesComplete (gDirID gFileID : String) (file : LocalFile β) (p : Phone β)
    (o : Except Halt Bool × Phone β) : Prop :=
  (o.1 = .ok true ∧ ∃ bytes, file.bytes = some bytes ∧ o.2.Holds gDirID bytes) ∨
  (o.1 = .ok false ∧
    ∃ old ∈ p.objects, old.id = gFileID ∧ old.committed = true ∧ old ∈ o.2.objects)

/-- When a push does: it gets past `StreamCopy` having copied everything and `Commit` succeeds
(or a copy of the file was in the folder anyway), or it does not get that far and nothing was
deleted. -/
def PushComplete (delete : DeleteRc) (transfer : TransferRc) (gDirID gFileID : String)
    (file : LocalFile β) (p : Phone β) : Prop :=
  (∃ bytes, file.bytes = some bytes ∧ transfer.PastCopy bytes ∧
    (transfer.Commit = true ∧ transfer.CopiesAll bytes ∨
      (p.afterDelete delete gFileID).Holds gDirID bytes)) ∨
  (∀ bytes, file.bytes = some bytes → ¬transfer.PastCopy bytes) ∧ delete.deletes = false ∧
    ∃ old ∈ p.objects, old.id = gFileID ∧ old.committed = true

/-- **The push leaves a complete file** exactly then. -/
theorem deleteThenTransfer_leavesComplete_iff (delete : DeleteRc) (transfer : TransferRc)
    (gDirID gFileID : String) (file : LocalFile β) (p : Phone β) :
    LeavesComplete gDirID gFileID file p
        ((deleteThenTransfer delete transfer gDirID gFileID file).run p) ↔
      PushComplete delete transfer gDirID gFileID file p := by
  obtain ⟨ret, p', hrun, hret, hadded, hp'⟩ :=
    transferDataToDevice_run transfer gDirID file (p.afterDelete delete gFileID)
  rw [deleteThenTransfer, Act.bind_run_ok (deleteDataFromDevice_run delete gFileID p), hrun]
  by_cases hpast : ∃ bytes, file.bytes = some bytes ∧ transfer.PastCopy bytes
  · obtain ⟨bytes, hbytes, hpast⟩ := hpast
    have htrue : ret = true := hret.2 ⟨bytes, hbytes, hpast⟩
    subst htrue
    obtain ⟨o, rfl, hparent, hcommitted, hcopied⟩ := hadded bytes hbytes rfl
    constructor
    · rintro (⟨-, bytes', hbytes', hheld⟩ | ⟨hfalse, -⟩)
      · rw [hbytes] at hbytes'
        cases hbytes'
        refine .inl ⟨bytes, hbytes, hpast, ?_⟩
        rcases Phone.holds_add.1 hheld with hheld | ⟨-, hc, hb⟩
        · exact .inr hheld
        · exact .inl ⟨hcommitted ▸ hc, hcopied.1 hb⟩
      · cases hfalse
    · rintro (⟨bytes', hbytes', -, hor⟩ | ⟨hno, -⟩)
      · rw [hbytes] at hbytes'
        cases hbytes'
        refine .inl ⟨rfl, bytes, hbytes, Phone.holds_add.2 ?_⟩
        rcases hor with ⟨hc, hall⟩ | hheld
        · exact .inr ⟨hparent, hcommitted.trans hc, hcopied.2 hall⟩
        · exact .inl hheld
      · exact absurd hpast (hno bytes hbytes)
  · have hfalse : ret = false := Bool.not_eq_true _ ▸ fun ht => hpast (hret.1 ht)
    subst hfalse
    have hno : ∀ bytes, file.bytes = some bytes → ¬transfer.PastCopy bytes :=
      fun bytes hbytes hp => hpast ⟨bytes, hbytes, hp⟩
    constructor
    · rintro (⟨htrue, -⟩ | ⟨-, old, hold, hid, hcommitted, hkept⟩)
      · cases htrue
      · refine .inr ⟨hno, ?_, old, hold, hid, hcommitted⟩
        by_contra hdel
        -- what the transfer added is not committed, so it is not the old file
        have hgone : old ∉ (p.afterDelete delete gFileID).objects := by
          rw [Phone.afterDelete, if_pos (Bool.not_eq_false _ ▸ hdel), Phone.mem_delete]
          exact fun h => h.2 hid
        rcases hp' with rfl | ⟨o, rfl, ho⟩
        · exact hgone hkept
        · rcases Phone.mem_add.1 hkept with h | rfl
          · exact hgone h
          · rw [ho rfl] at hcommitted
            cases hcommitted
    · rintro (⟨bytes, hbytes, hp, -⟩ | ⟨-, hdel, old, hold, hid, hcommitted⟩)
      · exact absurd hp (hno bytes hbytes)
      · refine .inr ⟨rfl, old, hold, hid, hcommitted, ?_⟩
        have hkept : old ∈ (p.afterDelete delete gFileID).objects := by
          rw [Phone.afterDelete, hdel, if_neg (by decide)]
          exact hold
        rcases hp' with rfl | ⟨o, rfl, -⟩
        · exact hkept
        · exact Phone.mem_add.2 (.inl hkept)

/-! ## §5 A push that replaces the file -/

/-- Every call of the push does its part, nothing is left behind, and the object deleted is the
only complete one of its name in the folder. -/
structure Replaces (delete : DeleteRc) (transfer : TransferRc) (gDirID gFileID name : String)
    (bytes : List β) (p : Phone β) : Prop where
  deletes : delete.deletes = true
  past : transfer.PastCopy bytes
  all : transfer.CopiesAll bytes
  commit : transfer.Commit = true
  sole : ∀ o ∈ p.objects, o.committed = true → o.properties.PARENT_ID = gDirID →
    o.properties.ORIGINAL_FILE_NAME = name → o.id = gFileID

/-- A complete object that is the database file: by its identifier, or by its name. -/
def PhoneObject.IsDatabase (gDirID gFileID name : String) (o : PhoneObject β) : Prop :=
  o.committed = true ∧ (o.id = gFileID ∨
    o.properties.PARENT_ID = gDirID ∧ o.properties.ORIGINAL_FILE_NAME = name)

/-- **After such a push** the database files of the phone are those with the bytes pushed. -/
theorem deleteThenTransfer_replaces {delete : DeleteRc} {transfer : TransferRc}
    {gDirID gFileID : String} {file : LocalFile β} {bytes : List β} {p : Phone β}
    (hbytes : file.bytes = some bytes)
    (h : Replaces delete transfer gDirID gFileID (file.fileName ++ file.fileExt) bytes p) :
    ∃ p', (deleteThenTransfer delete transfer gDirID gFileID file).run p = (.ok true, p') ∧
      (∃ o ∈ p'.objects, o.IsDatabase gDirID gFileID (file.fileName ++ file.fileExt)) ∧
      ∀ o ∈ p'.objects, o.IsDatabase gDirID gFileID (file.fileName ++ file.fileExt) →
        o.bytes = bytes := by
  have hcopied : streamCopy transfer.copy transfer.optimalTransferSizeBytes bytes =
      (true, bytes) := by
    have hok := (streamCopy_ok_iff transfer.copy transfer.optimalTransferSizeBytes bytes).2 h.past.2
    exact Prod.ext hok ((streamCopy_complete_iff _ _ _ hok).2 h.all)
  -- every step before the copy succeeds
  have hreach := h.past.1
  simp only [TransferRc.reachesCopy, Bool.and_eq_true] at hreach
  obtain ⟨⟨⟨⟨hcontent, hstream⟩, hprops⟩, hcreate⟩, hquery⟩ := hreach
  have hproperties : getRequiredProperties transfer.properties gDirID file bytes =
      some ⟨gDirID, bytes.length, file.fileName ++ file.fileExt, file.fileName⟩ := by
    rw [getRequiredProperties]
    exact if_pos hprops
  refine ⟨(p.delete gFileID).add ⟨transfer.newObjectID,
    ⟨gDirID, bytes.length, file.fileName ++ file.fileExt, file.fileName⟩, bytes, true⟩,
    ?_, ⟨_, Phone.mem_add.2 (.inr rfl), rfl, .inr ⟨rfl, rfl⟩⟩, fun o ho hdb => ?_⟩
  · rw [deleteThenTransfer, Act.bind_run_ok (deleteDataFromDevice_run delete gFileID p),
      Phone.afterDelete, if_pos h.deletes, transferDataToDevice, if_pos hcontent, if_pos hstream,
      hbytes]
    dsimp only
    rw [hproperties]
    simp only [hcreate, hquery, if_true, hcopied, h.commit]
    rfl
  · rcases Phone.mem_add.1 ho with hold | rfl
    · -- what was not deleted is not a database file
      obtain ⟨hmem, hid⟩ := Phone.mem_delete.1 hold
      rcases hdb.2 with hid' | ⟨hparent, hname⟩
      · exact absurd hid' hid
      · exact absurd (h.sole o hmem hdb.1 hparent hname) hid
    · rfl

end MtpSync
