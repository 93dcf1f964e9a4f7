import MtpSync.Upload.Texts

/-!
# What the server makes of the texts of an upload

The texts of `Synchrodata_work_record` are read as one `REPLACE` for each row whatever the fields
hold, since each is escaped.  `Synchrodata_work_task` and `Synchrodata_device_info` put their
fields between quotes as they are, and the server reads the fields only where none contains a
quote, or a backslash that escapes.

- §1 escaped fields
- §2 records
- §3 tasks and devices
- §4 fixed inputs
-/

namespace MtpSync

open SqlText

variable {p : CodePage}

/-! ## §1 Escaped fields -/

theorem charQuote_toNat : charQuote.toNat = 0x27 := by decide

theorem charBackslash_toNat : charBackslash.toNat = 0x5C := by decide

/-- A character that stands alone in the code page, escaped. -/
private theorem reads_escaped {c : Char} (hc : c.toNat < 128)
    (hun : unescape (UInt8.ofNat c.toNat) = [UInt8.ofNat c.toNat]) :
    Reads (([charBackslash, c].flatMap p.codes).flatMap Code.bytes)
      ((p.codes c).flatMap Code.bytes) := by
  obtain ⟨g, hg, hb, -⟩ := p.codes_ascii c hc
  obtain ⟨k, hk, hkb, -⟩ := p.codes_ascii charBackslash (by decide)
  have hslash : k.bytes = [backslash] := hkb
  have hread := reads_escape (UInt8.ofNat c.toNat)
  rw [hun] at hread
  simpa [hg, hk, hb, hslash] using hread

/-- Each character is read back. -/
theorem reads_escapeChar (c : Char) :
    Reads (((escapeChar c).flatMap p.codes).flatMap Code.bytes)
      ((p.codes c).flatMap Code.bytes) := by
  unfold escapeChar
  split_ifs with hslash hquote
  · rw [hslash]
    exact reads_escaped (by decide) (by decide)
  · rw [hquote]
    exact reads_escaped (by decide) (by decide)
  · -- neither: its bytes stand for themselves
    have hplain : ∀ g ∈ p.codes c, g.Plain := by
      apply CodePage.plain_of_ne
      · intro hnat
        exact hquote (Char.toNat_inj.1 (hnat.trans charQuote_toNat.symm))
      · intro hnat
        exact hslash (Char.toNat_inj.1 (hnat.trans charBackslash_toNat.symm))
    rw [List.flatMap_singleton]
    exact Reads.flatMap fun g hg => reads_plain (hplain g hg)

/-- **An escaped field is read as the field.** -/
theorem reads_escapeField (s : String) : Reads (p.bytes (escapeField s)) (p.bytes s) := by
  have hraw : p.bytes (escapeField s) =
      s.toList.flatMap fun c => ((escapeChar c).flatMap p.codes).flatMap Code.bytes := by
    rw [CodePage.bytes, CodePage.convert, escapeField_toList]
    simp only [List.flatMap_assoc]
  have hvalue : p.bytes s = s.toList.flatMap fun c => (p.codes c).flatMap Code.bytes := by
    rw [CodePage.bytes, CodePage.convert, List.flatMap_assoc]
  rw [hraw, hvalue]
  exact Reads.flatMap fun c _ => reads_escapeChar c

/-- An ASCII text without quote and backslash is read as itself. -/
theorem verbatim_of_ne {s : String} (h : ∀ c ∈ s.toList, c.toNat ≠ 0x27 ∧ c.toNat ≠ 0x5C) :
    Verbatim (p.convert s) := by
  apply verbatim_of_plain
  intro g hg
  obtain ⟨c, hc, hg⟩ := List.mem_flatMap.1 hg
  exact CodePage.plain_of_ne (h c hc).1 (h c hc).2 g hg

/-! ### A code page -/

private theorem isLead_ascii {c : Char} (h : c.toNat < 128) :
    isLead (UInt8.ofNat c.toNat) = false :=
  isLead_of_lt (by simp; omega)

private theorem isLead_questionMark : isLead 0x3F = false := rfl

private theorem isLead_twoBytes : isLead 0xBF = true := rfl

private theorem isTrail_backslash : isTrail 0x5C = true := rfl

/-- What code page 936 converts these to: ASCII, and a character whose second byte is a backslash.
Every other becomes question marks, one for each of its UTF-16 units. -/
private def codes936 (c : Char) : List Code :=
  if h : c.toNat < 128 then [.single (UInt8.ofNat c.toNat) (isLead_ascii h)]
  else if c.toNat = 0x7E17 then [.pair 0xBF 0x5C isLead_twoBytes isTrail_backslash]
  else if c.toNat < 0x10000 then [.single 0x3F isLead_questionMark]
  else [.single 0x3F isLead_questionMark, .single 0x3F isLead_questionMark]

private def char936 : Code → Option Char
  | .single b _ => if b.toNat < 128 then some (Char.ofNat b.toNat) else none
  | .pair l t _ _ => if l = 0xBF ∧ t = 0x5C then some (Char.ofNat 0x7E17) else none

private theorem codes936_ascii (c : Char) (h : c.toNat < 128) :
    ∃ g : Code, codes936 c = [g] ∧ g.bytes = [UInt8.ofNat c.toNat] ∧ char936 g = some c := by
  have hmod : c.toNat % 256 = c.toNat := Nat.mod_eq_of_lt (by omega)
  refine ⟨_, dif_pos h, rfl, ?_⟩
  simp [char936, hmod, h]

private theorem codes936_plain (c : Char) (h : 128 ≤ c.toNat) : ∀ g ∈ codes936 c, g.Plain := by
  intro g hg
  rw [codes936, dif_neg (by omega)] at hg
  split_ifs at hg
  · rw [List.mem_singleton.1 hg]
    exact ⟨by decide, by decide⟩
  · rw [List.mem_singleton.1 hg]
    exact ⟨by decide, by decide⟩
  · have hg' : g = .single 0x3F rfl := by simpa using hg
    rw [hg']
    exact ⟨by decide, by decide⟩

private theorem codes936_char (g : Code) (c : Char) (h : char936 g = some c) :
    codes936 c = [g] := by
  cases g with
  | single b hb =>
    simp only [char936] at h
    split_ifs at h with hlt
    have hc : c.toNat = b.toNat := by
      have hvalid : b.toNat.isValidChar := Or.inl (by omega)
      rw [← Option.some.inj h, Char.ofNat, dif_pos hvalid]
      rfl
    have hofNat : UInt8.ofNat c.toNat = b := by rw [hc, UInt8.ofNat_toNat]
    rw [codes936, dif_pos (by omega)]
    simp [hofNat]
  | pair l t hl ht =>
    simp only [char936] at h
    split_ifs at h with hcode
    obtain ⟨rfl, rfl⟩ := hcode
    rw [← Option.some.inj h]
    rfl

/-- A part of code page 936. -/
def page936 : CodePage where
  codes := codes936
  char := char936
  codes_ascii := codes936_ascii
  codes_plain := codes936_plain
  codes_char := codes936_char

/-- Every character becomes some bytes. -/
theorem page936_codes_ne (c : Char) : page936.codes c ≠ [] := by
  show codes936 c ≠ []
  unfold codes936
  split_ifs <;> exact List.cons_ne_nil _ _

/-! ## §2 Records -/

theorem recordSentence_good (r : SqlRow WorkRecordCol) : (recordSentence p r).Good := by
  rw [recordSentence, rowSentence_good_iff]
  refine ⟨?_, reads_escapeField _⟩
  intro i hi
  obtain ⟨c, -, rfl⟩ := List.mem_map.1 hi
  unfold recordItem
  split_ifs
  · exact reads_verbatim (verbatim_of_ne fun c hc => (one_chars c hc).2)
  · exact reads_escapeField _

/-- Texts that are the bytes of sentences. -/
private theorem flatten_map_eq {α : Type} {f : α → CStringA} {g : α → Sentence} {l : List α}
    (h : ∀ a ∈ l, (g a).bytes = f a) :
    (l.map f).flatten = (l.map g).flatMap Sentence.bytes := by
  rw [List.flatMap_map, ← List.flatMap_def]
  exact (List.flatMap_congr h).symm

/-- The fields a record's command carries. -/
theorem holds_recordCommand {r : SqlRow WorkRecordCol} :
    (∀ v ∈ (recordCommand r).args, p.Holds v) ↔ ∀ s ∈ copiedOfRecord r, p.Holds s := by
  have hone : p.Holds "1" :=
    CodePage.holds_of_ascii fun c hc => (one_chars c hc).1
  constructor
  · intro h s hs
    obtain ⟨i, hi, hne, rfl⟩ := mem_copiedOfRecord.1 hs
    apply h
    rw [Command.mem_args]
    exact List.mem_map.2 ⟨i, hi, by rw [if_neg hne]⟩
  · intro h v hv
    rw [Command.mem_args] at hv
    obtain ⟨i, hi, hv⟩ := List.mem_map.1 hv
    split_ifs at hv with hstate
    · cases hv
      exact hone
    · cases hv
      exact h _ (mem_copiedOfRecord.2 ⟨i, hi, hstate, rfl⟩)

/-- The commands of a text of records. -/
theorem received_recordTexts {rows : List (SqlRow WorkRecordCol)} (h : ∀ r ∈ rows, r.NoNul) :
    SqlText.received (rows.map (recordText p)).flatten =
      some ((rows.map recordCommand).map (·.map p.bytes)) := by
  rw [flatten_map_eq fun r hr => recordSentence_bytes p (h r hr), received_sentences]
  · rw [List.map_map, List.map_map]
    exact congrArg some (List.map_congr_left fun r _ => recordSentence_command p r)
  · intro s hs
    obtain ⟨r, -, rfl⟩ := List.mem_map.1 hs
    exact recordSentence_good r

/-- Each text that `UpdateMysqlDB` sends is received as the commands of its own rows. -/
theorem received_batch {rows : List (SqlRow WorkRecordCol)} (h : ∀ r ∈ rows, r.NoNul)
    {part : List CStringA} (hpart : part ∈ Batch.batches 99 (rows.map (recordText p))) :
    ∃ sent ∈ Batch.batches 99 rows,
      SqlText.received part.flatten =
        some ((sent.map recordCommand).map (·.map p.bytes)) := by
  rw [Batch.batches_map] at hpart
  obtain ⟨sent, hsent, rfl⟩ := List.mem_map.1 hpart
  refine ⟨sent, hsent, received_recordTexts fun r hr => h r ?_⟩
  rw [← Batch.flatten_batches 99 rows]
  exact List.mem_flatten_of_mem hsent hr

/-- **Each record is received as one `REPLACE`, in order**, with the bytes its fields are
converted to; the fields themselves are received exactly when the code page has all their
characters. -/
theorem recordTexts_received (p : CodePage) (rows : List (SqlRow WorkRecordCol))
    (h : ∀ r ∈ rows, r.NoNul) :
    SqlText.received (rows.map (recordText p)).flatten =
        some ((rows.map recordCommand).map (·.map p.bytes)) ∧
      (p.received (rows.map (recordText p)).flatten = some (rows.map recordCommand) ↔
        ∀ r ∈ rows, ∀ s ∈ copiedOfRecord r, p.Holds s) := by
  have hbytes := received_recordTexts (p := p) h
  refine ⟨hbytes, ?_⟩
  rw [CodePage.received_eq_some_iff, and_iff_right hbytes, List.forall_mem_map]
  exact forall₂_congr fun r _ => holds_recordCommand

/-- A record with a quote, a backslash at the end, a semicolon and a line break, and a character
whose second byte is a backslash. -/
def awkwardRecord : SqlRow WorkRecordCol where
  Id := "r1"
  col
    | .Number => some "it's"
    | .ProcessName => some "C:\\"
    | .Results => some "');\n--"
    | .ClassName => some (String.ofList [Char.ofNat 0x7E17, charQuote])
    | _ => none

theorem awkwardRecord_noNul : awkwardRecord.NoNul := by
  intro i
  cases i with
  | none => decide +kernel
  | some c => cases c <;> decide +kernel

theorem awkwardRecord_received :
    SqlText.received ([awkwardRecord, awkwardRecord].map (recordText page936)).flatten =
      some (([awkwardRecord, awkwardRecord].map recordCommand).map (·.map page936.bytes)) :=
  (recordTexts_received page936 [awkwardRecord, awkwardRecord] (by
    intro r hr
    have hr' : r = awkwardRecord := by simpa using hr
    rw [hr']
    exact awkwardRecord_noNul)).1

/-- A record with a character that the code page lacks. -/
def unmappedRecord : SqlRow WorkRecordCol where
  Id := "r1"
  col
    | .Results => some (String.ofList [Char.ofNat 0x1F600])
    | _ => some "0"

/-- The server receives question marks. -/
theorem unmapped_character_lost :
    page936.received (recordText page936 unmappedRecord) =
        some [recordCommand (unmappedRecord.setCol .Results "??")] ∧
      page936.received ([unmappedRecord].map (recordText page936)).flatten ≠
        some ([unmappedRecord].map recordCommand) := by
  constructor
  · decide +kernel
  · decide +kernel

/-! ## §3 Tasks and devices -/

/-- What the field is converted to contains no quote, and no backslash but before `%` or `_`. -/
def NeedsNoEscape (p : CodePage) (s : String) : Prop := Verbatim (p.convert s)

/-- The fields a task's command carries. -/
theorem holds_taskCommand {Systemtime : ServerTime} {r : SqlRow WorkTaskCol} :
    (∀ v ∈ (taskCommand Systemtime r).args, p.Holds v) ↔ ∀ s ∈ copiedOfTask r, p.Holds s := by
  -- what the routine itself puts in is ASCII
  have hone : p.Holds "1" :=
    CodePage.holds_of_ascii fun c hc => (one_chars c hc).1
  have hempty : p.Holds "" := CodePage.holds_of_ascii fun c hc => absurd hc List.not_mem_nil
  have htime : p.Holds Systemtime.text :=
    CodePage.holds_of_ascii fun c hc => (Systemtime.char_cases hc).1
  constructor
  · intro h s hs
    obtain ⟨i, hi, hne, rfl⟩ := mem_copiedOfTask.1 hs
    by_cases hnull : i = some .ExecutorTime ∧ r.GetAt i = ""
    · rw [hnull.2]
      exact hempty
    · apply h
      rw [Command.mem_args]
      apply List.mem_append_left
      exact List.mem_map.2 ⟨i, hi, by rw [taskValue, if_neg hne, if_neg hnull]⟩
  · intro h v hv
    rw [Command.mem_args] at hv
    rcases List.mem_append.1 hv with hv | hv
    · obtain ⟨i, hi, hv⟩ := List.mem_map.1 hv
      unfold taskValue at hv
      split_ifs at hv with hstate hnull
      · cases hv
        exact hone
      · cases hv
        exact h _ (mem_copiedOfTask.2 ⟨i, hi, hstate, rfl⟩)
    · cases List.mem_singleton.1 hv
      exact htime

/-- A literal without escapes is read as the field only if the field is verbatim. -/
theorem taskItem_good_iff {r : SqlRow WorkTaskCol} {i : Option WorkTaskCol} :
    (taskItem p r i).piece.Good ↔
      (i ≠ some .SynchronState → Verbatim (p.convert (r.GetAt i))) := by
  unfold taskItem
  split_ifs with hstate hnull
  · -- the constant
    have hone : Verbatim (p.convert "1") := verbatim_of_ne fun c hc => (one_chars c hc).2
    exact iff_of_true (reads_verbatim hone) fun hne => absurd hstate hne
  · -- nothing is quoted
    refine iff_of_true trivial fun _ => ?_
    rw [hnull.2]
    trivial
  · exact reads_self_iff.trans (imp_iff_right hstate).symm

theorem taskItem_bare (r : SqlRow WorkTaskCol) (i : Option WorkTaskCol) :
    (taskItem p r i).piece.Bare := by
  unfold taskItem
  split_ifs
  · rfl
  · trivial
  · rfl

theorem taskSentence_good_iff {Systemtime : ServerTime} {r : SqlRow WorkTaskCol} :
    (taskSentence p Systemtime r).Good ↔ ∀ s ∈ copiedOfTask r, NeedsNoEscape p s := by
  have htime : Verbatim (p.convert Systemtime.text) :=
    verbatim_of_ne fun c hc => (Systemtime.char_cases hc).2
  rw [taskSentence, rowSentence_good_iff, List.forall_mem_map,
    and_iff_left (reads_verbatim htime)]
  constructor
  · intro h s hs
    obtain ⟨i, hi, hne, rfl⟩ := mem_copiedOfTask.1 hs
    exact taskItem_good_iff.1 (h i hi) hne
  · intro h i hi
    exact taskItem_good_iff.2 fun hne => h _ (mem_copiedOfTask.2 ⟨i, hi, hne, rfl⟩)

theorem taskSentence_bare (Systemtime : ServerTime) (r : SqlRow WorkTaskCol) :
    (taskSentence p Systemtime r).Bare := by
  apply rowSentence_bare
  rw [List.forall_mem_map]
  intro i _
  exact taskItem_bare r i

theorem deviceSentence_good_iff {r : SqlRow DeviceInfoCol} :
    (deviceSentence p r).Good ↔ ∀ s ∈ copiedOfDevice r, NeedsNoEscape p s := by
  simp [Sentence.Good, deviceSentence, Piece.Good, reads_self_iff, copiedOfDevice, NeedsNoEscape]

theorem deviceSentence_bare (r : SqlRow DeviceInfoCol) : (deviceSentence p r).Bare := by
  simp [Sentence.Bare, deviceSentence, Piece.Bare]

section Bare

variable {α : Type} {text : α → CStringA} {sentence : α → Sentence} {command : α → Command String}
  {copied : α → List String} {rows : List α}

/-- What a batch of bare sentences is received as. -/
theorem received_bare_iff (htext : ∀ r ∈ rows, (sentence r).bytes = text r)
    (hcommand : ∀ r, (sentence r).command = (command r).map p.bytes)
    (hbare : ∀ r, (sentence r).Bare)
    (hgood : ∀ r, (sentence r).Good ↔ ∀ s ∈ copied r, NeedsNoEscape p s) :
    SqlText.received (rows.map text).flatten = some ((rows.map command).map (·.map p.bytes)) ↔
      ∀ r ∈ rows, ∀ s ∈ copied r, NeedsNoEscape p s := by
  have hcommands : (rows.map sentence).map Sentence.command =
      (rows.map command).map (·.map p.bytes) := by
    rw [List.map_map, List.map_map]
    exact List.map_congr_left fun r _ => hcommand r
  rw [flatten_map_eq htext, ← hcommands, received_sentences_iff]
  · rw [List.forall_mem_map]
    exact forall₂_congr fun r _ => hgood r
  · rw [List.forall_mem_map]
    exact fun r _ => hbare r

/-- And with the fields read back. -/
theorem received_bare_texts_iff (htext : ∀ r ∈ rows, (sentence r).bytes = text r)
    (hcommand : ∀ r, (sentence r).command = (command r).map p.bytes)
    (hbare : ∀ r, (sentence r).Bare)
    (hgood : ∀ r, (sentence r).Good ↔ ∀ s ∈ copied r, NeedsNoEscape p s)
    (hholds : ∀ r, (∀ v ∈ (command r).args, p.Holds v) ↔ ∀ s ∈ copied r, p.Holds s) :
    p.received (rows.map text).flatten = some (rows.map command) ↔
      ∀ r ∈ rows, ∀ s ∈ copied r, NeedsNoEscape p s ∧ p.Holds s := by
  rw [CodePage.received_eq_some_iff, received_bare_iff htext hcommand hbare hgood,
    List.forall_mem_map]
  simp only [hholds]
  constructor
  · intro h r hr s hs
    exact ⟨h.1 r hr s hs, h.2 r hr s hs⟩
  · intro h
    exact ⟨fun r hr s hs => (h r hr s hs).1, fun r hr s hs => (h r hr s hs).2⟩

end Bare

section Batches

variable (Systemtime : ServerTime) {tasks : List (SqlRow WorkTaskCol)}
  {devices : List (SqlRow DeviceInfoCol)}

theorem received_taskBytes_iff (h : ∀ r ∈ tasks, r.NoNul) :
    SqlText.received (tasks.map (taskText p Systemtime)).flatten =
        some ((tasks.map (taskCommand Systemtime)).map (·.map p.bytes)) ↔
      ∀ r ∈ tasks, ∀ s ∈ copiedOfTask r, NeedsNoEscape p s :=
  received_bare_iff (fun r hr => taskSentence_bytes p Systemtime (h r hr))
    (taskSentence_command p Systemtime) (taskSentence_bare Systemtime)
    fun _ => taskSentence_good_iff

theorem received_taskTexts_iff (h : ∀ r ∈ tasks, r.NoNul) :
    p.received (tasks.map (taskText p Systemtime)).flatten =
        some (tasks.map (taskCommand Systemtime)) ↔
      ∀ r ∈ tasks, ∀ s ∈ copiedOfTask r, NeedsNoEscape p s ∧ p.Holds s :=
  received_bare_texts_iff (fun r hr => taskSentence_bytes p Systemtime (h r hr))
    (taskSentence_command p Systemtime) (taskSentence_bare Systemtime)
    (fun _ => taskSentence_good_iff) fun _ => holds_taskCommand

theorem received_deviceBytes_iff (h : ∀ r ∈ devices, r.NoNul) :
    SqlText.received (devices.map (deviceText p)).flatten =
        some ((devices.map deviceCommand).map (·.map p.bytes)) ↔
      ∀ r ∈ devices, ∀ s ∈ copiedOfDevice r, NeedsNoEscape p s :=
  received_bare_iff (fun r hr => deviceSentence_bytes p (h r hr)) (fun _ => rfl)
    deviceSentence_bare fun _ => deviceSentence_good_iff

theorem received_deviceTexts_iff (h : ∀ r ∈ devices, r.NoNul) :
    p.received (devices.map (deviceText p)).flatten = some (devices.map deviceCommand) ↔
      ∀ r ∈ devices, ∀ s ∈ copiedOfDevice r, NeedsNoEscape p s ∧ p.Holds s :=
  received_bare_texts_iff (fun r hr => deviceSentence_bytes p (h r hr)) (fun _ => rfl)
    deviceSentence_bare (fun _ => deviceSentence_good_iff) fun _ => Iff.rfl

end Batches

/-- **The tasks and the devices of a batch are received as one command each, with the bytes their
fields are converted to, exactly when no field needs an escape**; and with the fields themselves
exactly when the code page also has all their characters. -/
theorem bareTexts_received_iff (p : CodePage) (Systemtime : ServerTime)
    (tasks : List (SqlRow WorkTaskCol)) (devices : List (SqlRow DeviceInfoCol))
    (htasks : ∀ r ∈ tasks, r.NoNul) (hdevices : ∀ r ∈ devices, r.NoNul) :
    ((SqlText.received (tasks.map (taskText p Systemtime)).flatten =
          some ((tasks.map (taskCommand Systemtime)).map (·.map p.bytes)) ↔
        ∀ r ∈ tasks, ∀ s ∈ copiedOfTask r, NeedsNoEscape p s) ∧
      (p.received (tasks.map (taskText p Systemtime)).flatten =
          some (tasks.map (taskCommand Systemtime)) ↔
        ∀ r ∈ tasks, ∀ s ∈ copiedOfTask r, NeedsNoEscape p s ∧ p.Holds s)) ∧
    ((SqlText.received (devices.map (deviceText p)).flatten =
          some ((devices.map deviceCommand).map (·.map p.bytes)) ↔
        ∀ r ∈ devices, ∀ s ∈ copiedOfDevice r, NeedsNoEscape p s) ∧
      (p.received (devices.map (deviceText p)).flatten = some (devices.map deviceCommand) ↔
        ∀ r ∈ devices, ∀ s ∈ copiedOfDevice r, NeedsNoEscape p s ∧ p.Holds s)) := by
  refine ⟨⟨?_, ?_⟩, ?_, ?_⟩
  · exact received_taskBytes_iff Systemtime htasks
  · exact received_taskTexts_iff Systemtime htasks
  · exact received_deviceBytes_iff hdevices
  · exact received_deviceTexts_iff hdevices

def plainTask : SqlRow WorkTaskCol where
  Id := "t1"
  col
    | .WorkName => some "oil change"
    | .ExecutorTime => none
    | _ => some "0"

def plainDevice : SqlRow DeviceInfoCol where
  Id := "d3"
  col
    | .RFID => some "E2000017"
    | _ => some "0"

def someTime : ServerTime where
  text := "2019-05-01 08:30:00"
  chars := forall_mem_of_all (by decide +kernel)

theorem plain_rows_received :
    page936.received ([plainTask].map (taskText page936 someTime)).flatten =
        some ([plainTask].map (taskCommand someTime)) ∧
      page936.received ([plainDevice].map (deviceText page936)).flatten =
        some ([plainDevice].map deviceCommand) := by
  have htask : plainTask.NoNul := by
    intro i
    cases i with
    | none => decide +kernel
    | some c => cases c <;> decide +kernel
  have hdevice : plainDevice.NoNul := by
    intro i
    cases i with
    | none => decide +kernel
    | some c => cases c <;> decide +kernel
  -- ASCII without quotes and backslashes needs no escape
  have hclean : ∀ s : String,
      s.toList.all (fun c =>
        decide (c.toNat < 128 ∧ c.toNat ≠ 0x27 ∧ c.toNat ≠ 0x5C)) = true →
      NeedsNoEscape page936 s ∧ page936.Holds s := by
    intro s hs
    have hchars := forall_mem_of_all hs
    exact ⟨verbatim_of_ne fun c hc => (hchars c hc).2,
      CodePage.holds_of_ascii fun c hc => (hchars c hc).1⟩
  have hall := bareTexts_received_iff page936 someTime [plainTask] [plainDevice]
    (List.forall_mem_singleton.2 htask) (List.forall_mem_singleton.2 hdevice)
  constructor
  · apply hall.1.2.2
    rw [List.forall_mem_singleton]
    intro s hs
    apply hclean
    revert s
    decide +kernel
  · apply hall.2.2.2
    rw [List.forall_mem_singleton]
    intro s hs
    apply hclean
    revert s
    decide +kernel

/-- A device whose tag is a piece of SQL. -/
def hostileDevice : SqlRow DeviceInfoCol where
  Id := "d1"
  col
    | .RFID => some "x' where Id='d2';UPDATE device_info set RFID ='y"
    | _ => some "0"

/-- In a batch with another row, the tag of a third device is set too. -/
theorem hostile_tag_injects :
    page936.received ([hostileDevice, plainDevice].map (deviceText page936)).flatten =
        some [setRFID "x" "d2", setRFID "y" "d1", deviceCommand plainDevice] ∧
      page936.received ([hostileDevice, plainDevice].map (deviceText page936)).flatten ≠
        some ([hostileDevice, plainDevice].map deviceCommand) := by
  constructor
  · decide +kernel
  · decide +kernel

end MtpSync
