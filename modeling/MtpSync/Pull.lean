import MtpSync.Dialog

/-!
# Reading the phone's database

`TransforDataFromDevice` copies an object of the phone into a local file of the object's name, with
`StreamCopy`.  It returns nothing, and `BeginPhoneToPc` goes on with whatever file there is then.

- §1 the calls
- §2 what `StreamCopy` leaves
- §3 what a pull leaves
-/

namespace MtpSync

variable {β : Type}

/-! ## §1 The calls -/

/-- What the calls of `TransforDataFromDevice` return. -/
structure TransforCalls where
  Content : Bool
  Transfer : Bool
  GetStream : Bool
  Properties : Bool
  /-- `GetStringValue` of `WPD_OBJECT_ORIGINAL_FILE_NAME` -/
  GetStringValue : Bool
  CoTaskMemAlloc : Bool
  SHCreateStreamOnFileEx : Bool
  optimalTransferSizeBytes : ℕ
  copy : CopyRc

/-- The length of a text in `WCHAR`s. -/
def wideLength (s : String) : ℕ :=
  s.toList.foldl (fun n c => if c.toNat < 0x10000 then n + 1 else n + 2) 0

/-- `originalFileName`: the property, or a name made of the identifier, which `StringCchPrintfW`
has to fit into `MAX_PATH`. -/
def TransforCalls.originalFileName (rc : TransforCalls) (o : PhoneObject β) : Option String :=
  if rc.Properties then
    if rc.GetStringValue then some o.properties.ORIGINAL_FILE_NAME
    else if rc.CoTaskMemAlloc && wideLength (o.id ++ ".data") < 260 then some (o.id ++ ".data")
    else none
  else none

/-- `StrCatW` writes past the 80 characters of `destFileName`. -/
def Overruns (originalFileName : String) : Prop := 80 < wideLength (".\\" ++ originalFileName) + 1

instance (originalFileName : String) : Decidable (Overruns originalFileName) :=
  inferInstanceAs (Decidable (_ < _))

/-- `TransforDataFromDevice`, as far as the temporary file is concerned: `names` says of a name
whether it is the one of that file. -/
def transforBytes (rc : TransforCalls) (names : String → Bool) (p : Phone β) (objectID : String) :
    Act (Option (List β)) Unit :=
  match p.objects.find? fun o => o.id = objectID with
  | none => pure ()
  | some o =>
    if rc.Content && rc.Transfer && rc.GetStream then
      match rc.originalFileName o with
      | none => pure ()
      | some originalFileName =>
        if Overruns originalFileName then Act.halt .undefined
        else if rc.SHCreateStreamOnFileEx && names originalFileName then
          Act.modify fun _ => some (streamCopy rc.copy rc.optimalTransferSizeBytes o.bytes).2
        else pure ()
    else pure ()

/-! ## §2 What `StreamCopy` leaves -/

/-- Every round that has bytes to copy reads and writes all of them. -/
def CopyRc.CopiesRounds (rc : CopyRc) (size n : ℕ) : Prop :=
  0 < size ∧ ∀ j, j * size < n →
    rc.read j = true ∧ ∃ bytesWritten, rc.write j = some bytesWritten ∧
      min size (n - j * size) ≤ bytesWritten

/-- The loop from round `i` on adds some of the bytes that are left, in their order. -/
private theorem streamCopyLoop_sublist (rc : CopyRc) (size i : ℕ) (source dest : List β) :
    ∃ copied, (streamCopyLoop rc size i source dest).2 = dest ++ copied ∧
      copied.Sublist source := by
  fun_induction streamCopyLoop rc size i source dest with
  | case1 i source dest hread hwrite => exact ⟨[], by simp, List.nil_sublist _⟩
  | case2 i source dest hread written hwrite objectData hdone =>
    exact ⟨[], by simp, List.nil_sublist _⟩
  | case3 i source dest hread written hwrite objectData hdone ih =>
    obtain ⟨copied, hcopied, hsub⟩ := ih
    refine ⟨objectData.take written ++ copied, by rw [hcopied, List.append_assoc], ?_⟩
    -- a short write drops the rest of its round only
    have htake : (objectData.take written).Sublist (source.take size) := List.take_sublist _ _
    have happend := htake.append hsub
    rwa [List.take_append_drop] at happend
  | case4 i source dest hread => exact ⟨[], by simp, List.nil_sublist _⟩

/-- Nothing is left out by a round and all rounds after it. -/
private theorem append_eq_iff {source : List β} {size written : ℕ} {copied : List β}
    (hsub : copied.Sublist (source.drop size)) :
    (source.take size).take written ++ copied = source ↔
      min size source.length ≤ written ∧ copied = source.drop size := by
  constructor
  · intro heq
    have hlengths := congrArg List.length heq
    have hle := hsub.length_le
    rw [List.length_append, List.length_take, List.length_take] at hlengths
    rw [List.length_drop] at hle
    have hwritten : min size source.length ≤ written := by omega
    rw [List.take_of_length_le (by rw [List.length_take]; exact hwritten)] at heq
    exact ⟨hwritten, List.append_cancel_left (heq.trans (List.take_append_drop size source).symm)⟩
  · rintro ⟨hwritten, rfl⟩
    rw [List.take_of_length_le (by rw [List.length_take]; exact hwritten)]
    exact List.take_append_drop size source

/-- The first round, and those of the rest. -/
private theorem forall_round {size n : ℕ} {P : ℕ → Prop} :
    (∀ j, j * size < n → P j) ↔ (0 < n → P 0) ∧ ∀ j, j * size < n - size → P (j + 1) := by
  constructor
  · intro h
    refine ⟨fun hpos => h 0 (by omega), fun j hj => h (j + 1) ?_⟩
    rw [Nat.succ_mul]
    omega
  · rintro ⟨hzero, hsucc⟩ j hj
    cases j with
    | zero => exact hzero (by omega)
    | succ j =>
      rw [Nat.succ_mul] at hj
      exact hsucc j (by omega)

/-- The loop copies all there is left. -/
private theorem streamCopyLoop_all_iff (rc : CopyRc) (size i : ℕ) (source dest : List β) :
    (streamCopyLoop rc size i source dest).2 = dest ++ source ↔
      source = [] ∨ 0 < size ∧ ∀ j, j * size < source.length →
        rc.read (i + j) = true ∧ ∃ bytesWritten, rc.write (i + j) = some bytesWritten ∧
          min size (source.length - j * size) ≤ bytesWritten := by
  fun_induction streamCopyLoop rc size i source dest with
  | case1 i source dest hread hwrite =>
    rw [List.self_eq_append_right]
    refine ⟨.inl, ?_⟩
    rintro (hnil | ⟨-, hall⟩)
    · exact hnil
    by_contra hne
    obtain ⟨-, n, hn, -⟩ := hall 0 (by simpa [List.length_pos_iff] using hne)
    rw [Nat.add_zero, hwrite] at hn
    cases hn
  | case2 i source dest hread written hwrite objectData hdone =>
    rw [List.self_eq_append_right]
    refine ⟨.inl, ?_⟩
    rintro (hnil | ⟨hpos, -⟩)
    · exact hnil
    rw [List.length_take] at hdone
    exact List.length_eq_zero_iff.1 (by omega)
  | case3 i source dest hread written hwrite objectData hdone ih =>
    rw [List.length_take] at hdone
    have hmin : 0 < min size source.length := by omega
    have hne : source ≠ [] := by
      rintro rfl
      exact absurd hmin (by simp)
    obtain ⟨copied, hcopied, hsub⟩ := streamCopyLoop_sublist rc size (i + 1) (source.drop size)
      (dest ++ objectData.take written)
    rw [hcopied] at ih ⊢
    rw [List.append_cancel_left_eq] at ih
    rw [List.append_assoc, List.append_cancel_left_eq, append_eq_iff hsub, ih, List.length_drop,
      forall_round (n := source.length)]
    have hshift : ∀ j, source.length - (j + 1) * size = source.length - size - j * size :=
      fun j => by rw [Nat.succ_mul]; omega
    have hround : ∀ j, i + 1 + j = i + (j + 1) := fun j => by omega
    simp only [hne, false_or, Nat.add_zero, Nat.zero_mul, Nat.sub_zero, hread, hwrite, true_and,
      hshift, hround, Option.some.injEq, exists_eq_left']
    constructor
    · rintro ⟨hwritten, hrest⟩
      refine ⟨by omega, fun _ => hwritten, fun j hj => ?_⟩
      -- there is a next round only if bytes are left
      rcases hrest with hnil | ⟨-, hrest⟩
      · rw [← List.length_eq_zero_iff, List.length_drop] at hnil
        omega
      · exact hrest j hj
    · rintro ⟨hpos, hwritten, hrest⟩
      exact ⟨hwritten (by omega), .inr ⟨hpos, hrest⟩⟩
  | case4 i source dest hread =>
    rw [List.self_eq_append_right]
    refine ⟨.inl, ?_⟩
    rintro (hnil | ⟨-, hall⟩)
    · exact hnil
    by_contra hne
    obtain ⟨hread', -⟩ := hall 0 (by simpa [List.length_pos_iff] using hne)
    rw [Nat.add_zero] at hread'
    exact hread hread'

/-- **What `StreamCopy` leaves** is part of the source, in its order. -/
theorem streamCopy_sublist (rc : CopyRc) (size : ℕ) (source : List β) :
    (streamCopy rc size source).2.Sublist source := by
  unfold streamCopy
  split
  · obtain ⟨copied, hcopied, hsub⟩ := streamCopyLoop_sublist rc size 0 source []
    rw [hcopied]
    exact hsub
  · exact List.nil_sublist _

/-- It is all of the source if every round that has bytes to copy does; the round behind the last
byte may fail. -/
theorem streamCopy_all_iff (rc : CopyRc) (size : ℕ) (source : List β) :
    (streamCopy rc size source).2 = source ↔
      source = [] ∨ rc.alloc = true ∧ rc.CopiesRounds size source.length := by
  unfold streamCopy
  split
  · rename_i halloc
    have hiff := streamCopyLoop_all_iff rc size 0 source []
    rw [List.nil_append] at hiff
    rw [hiff]
    simp only [Nat.zero_add, halloc, true_and]
    rfl
  · rename_i halloc
    simp [halloc, eq_comm]

/-! ## §3 What a pull leaves -/

/-- A local file as SQLite finds it. -/
def SqliteFormat.ofBytes (fmt : SqliteFormat β) : Option (List β) → DbFile SqliteDB
  | none => .missing
  | some bytes => fmt.parse bytes

namespace TransforCalls

variable (rc : TransforCalls)

/-- The calls up to the name of the local file succeed, and give it this name. -/
def Names (o : PhoneObject β) (originalFileName : String) : Prop :=
  (rc.Content && rc.Transfer && rc.GetStream) = true ∧
    rc.originalFileName o = some originalFileName

/-- Every byte of the object gets into the temporary file. -/
def Copies (names : String → Bool) (o : PhoneObject β) : Prop :=
  (∃ name, rc.Names o name ∧ ¬Overruns name ∧ names name = true) ∧
    rc.SHCreateStreamOnFileEx = true ∧
      (o.bytes = [] ∨
        rc.copy.alloc = true ∧ rc.copy.CopiesRounds rc.optimalTransferSizeBytes o.bytes.length)

end TransforCalls

section Pull

variable {rc : TransforCalls} {names : String → Bool} {p : Phone β} {objectID : String}
  {o : PhoneObject β}

/-- The calls end before there is a name, at the buffer for it, or with the copy. -/
private theorem transforBytes_run (ho : (p.objects.find? fun o => o.id = objectID) = some o)
    (file : Option (List β)) :
    ((∀ name, ¬rc.Names o name) ∧
        (transforBytes rc names p objectID).run file = (.ok (), file)) ∨
      ∃ name, rc.Names o name ∧
        (Overruns name ∧
            (transforBytes rc names p objectID).run file = (.error .undefined, file) ∨
          ¬Overruns name ∧ (transforBytes rc names p objectID).run file =
            (.ok (), if rc.SHCreateStreamOnFileEx && names name then
              some (streamCopy rc.copy rc.optimalTransferSizeBytes o.bytes).2 else file)) := by
  simp only [transforBytes, ho]
  by_cases hcalls : (rc.Content && rc.Transfer && rc.GetStream) = true
  · rw [if_pos hcalls]
    cases hname : rc.originalFileName o with
    | none => exact .inl ⟨fun name h => by simp [h.2] at hname, rfl⟩
    | some name =>
      refine .inr ⟨name, ⟨hcalls, hname⟩, ?_⟩
      dsimp only
      by_cases hover : Overruns name
      · rw [if_pos hover]
        exact .inl ⟨hover, rfl⟩
      · rw [if_neg hover]
        refine .inr ⟨hover, ?_⟩
        split <;> rfl
  · rw [if_neg hcalls]
    exact .inl ⟨fun name h => hcalls h.1, rfl⟩

/-- A pull has one name for the file. -/
private theorem TransforCalls.Names.eq {name name' : String} (h : rc.Names o name)
    (h' : rc.Names o name') : name = name' :=
  Option.some.inj (h.2.symm.trans h'.2)

end Pull

/-- **What a pull leaves of the temporary file**, once it has been deleted: nothing, or part of the
phone's file in its order, and the whole file exactly if every round that has bytes to copy copies
them into a file of its name; a name that is too long for the buffer is written past its end.  In
every other case the pull is one of databases, and copies the phone's if it is complete. -/
theorem pull_leaves (fmt : SqliteFormat β) (rc : TransforCalls) (names : String → Bool)
    {s : Dlg β} {strDevID fileID : String} {o : PhoneObject β}
    (ho : ((s.phone strDevID).objects.find? fun o => o.id = fileID) = some o) :
    let r := (transforBytes rc names (s.phone strDevID) fileID).run none
    (r.1 = .error .undefined ↔ ∃ name, rc.Names o name ∧ Overruns name) ∧
      (∀ part, r.2 = some part → part.Sublist o.bytes) ∧
      (r.2 = some o.bytes ↔ rc.Copies names o) ∧
      (r.1 = .ok () → ∃ abs, (transforDataFromDevice fmt abs strDevID fileID).run s =
        (.ok (), s.setFile (fmt.ofBytes r.2)) ∧ (rc.Copies names o → abs = .copies)) := by
  have hcopies : (transforDataFromDevice fmt .copies strDevID fileID).run s =
      (.ok (), s.setFile (fmt.parse o.bytes)) := by
    simp only [transforDataFromDevice, ho, Act.modify_run]
  intro r
  rcases transforBytes_run ho none with ⟨hname, hrun⟩ | ⟨name, hname, ⟨hover, hrun⟩ | ⟨hover, hrun⟩⟩
  · -- there is no name, and no file
    have hno : ¬rc.Copies names o := fun h => h.1.elim fun name h => hname name h.1
    have hr : r = (.ok (), none) := hrun
    rw [hr]
    refine ⟨by simp [hname], by simp, by simp [hno], fun _ => ⟨.leaves .missing, rfl, ?_⟩⟩
    exact fun h => absurd h hno
  · have hno : ¬rc.Copies names o := by
      rintro ⟨⟨name', hname', hover', -⟩, -⟩
      exact hover' (hname.eq hname' ▸ hover)
    have hr : r = (.error .undefined, none) := hrun
    rw [hr]
    exact ⟨by simpa using ⟨name, hname, hover⟩, by simp, by simp [hno], fun h => nomatch h⟩
  · have hdefined : ¬∃ name, rc.Names o name ∧ Overruns name := by
      rintro ⟨name', hname', hover'⟩
      exact hover (hname.eq hname' ▸ hover')
    by_cases hopens : (rc.SHCreateStreamOnFileEx && names name) = true
    · rw [if_pos hopens] at hrun
      have hr : r = (.ok (), some (streamCopy rc.copy rc.optimalTransferSizeBytes o.bytes).2) :=
        hrun
      have hiff : (streamCopy rc.copy rc.optimalTransferSizeBytes o.bytes).2 = o.bytes ↔
          rc.Copies names o := by
        rw [Bool.and_eq_true] at hopens
        rw [streamCopy_all_iff]
        exact ⟨fun h => ⟨⟨name, hname, hover, hopens.2⟩, hopens.1, h⟩, fun h => h.2.2⟩
      have hsub := streamCopy_sublist rc.copy rc.optimalTransferSizeBytes o.bytes
      rw [hr]
      refine ⟨by simpa using hdefined, fun part hpart => ?_, by simpa using hiff, fun _ => ?_⟩
      · cases hpart
        exact hsub
      by_cases hall : rc.Copies names o
      · exact ⟨.copies, by rw [hcopies, hiff.2 hall]; rfl, fun _ => rfl⟩
      · exact ⟨.leaves _, rfl, fun h => absurd h hall⟩
    · -- the file that is written is another one
      have hno : ¬rc.Copies names o := by
        rintro ⟨⟨name', hname', -, hnames⟩, hcreates, -⟩
        rw [← hname.eq hname'] at hnames
        exact hopens (by rw [hcreates, hnames]; rfl)
      rw [if_neg hopens] at hrun
      have hr : r = (.ok (), none) := hrun
      rw [hr]
      refine ⟨by simpa using hdefined, by simp, by simp [hno], fun _ => ⟨.leaves .missing, rfl, ?_⟩⟩
      exact fun h => absurd h hno

/-- The last `Read` of a pull fails, behind the one byte of the file. -/
def TransforCalls.readsLate : TransforCalls where
  Content := true
  Transfer := true
  GetStream := true
  Properties := true
  GetStringValue := true
  CoTaskMemAlloc := true
  SHCreateStreamOnFileEx := true
  optimalTransferSizeBytes := 1
  copy := ⟨true, fun i => i = 0, fun _ => some 1⟩

/-- The phone's database is pulled whole. -/
theorem late_read_leaves :
    let rc := TransforCalls.readsLate
    let o : PhoneObject SqliteDB :=
      ⟨"o1", ⟨"dir", 1, "phone.db", "phone"⟩, [SqliteDB.empty], true⟩
    let r := (transforBytes rc (· = "phone.db") (Dlg.pushing.phone "dev") "o1").run none
    (r.1 = .error .undefined ↔ ∃ name, rc.Names o name ∧ Overruns name) ∧
      (∀ part, r.2 = some part → part.Sublist o.bytes) ∧
      (r.2 = some o.bytes ↔ rc.Copies (· = "phone.db") o) ∧
      (r.1 = .ok () → ∃ abs,
        (transforDataFromDevice SqliteFormat.single abs "dev" "o1").run Dlg.pushing =
          (.ok (), Dlg.pushing.setFile (SqliteFormat.single.ofBytes r.2)) ∧
        (rc.Copies (· = "phone.db") o → abs = .copies)) :=
  pull_leaves SqliteFormat.single .readsLate (· = "phone.db") rfl

end MtpSync
