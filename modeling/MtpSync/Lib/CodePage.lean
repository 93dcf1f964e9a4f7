import MtpSync.Lib.SqlCommand

/-!
# Texts in a code page

A program converts its texts to the bytes of a code page before it puts them into literals, and
a character that the code page lacks is converted to others.

- §1 code pages
- §2 commands of texts
-/

namespace MtpSync.SqlText

/-- A property of each character, checked one by one. -/
theorem forall_mem_of_all {P : Char → Prop} [DecidablePred P] {cs : List Char}
    (h : cs.all (fun c => decide (P c)) = true) : ∀ c ∈ cs, P c := by
  intro c hc
  exact of_decide_eq_true (List.all_eq_true.1 h c hc)

/-! ## §1 Code pages -/

/-- What a character is converted to, and which character is stored under a code. -/
structure CodePage where
  codes : Char → List Code
  char : Code → Option Char
  /-- ASCII is kept -/
  codes_ascii : ∀ c : Char, c.toNat < 128 →
    ∃ g : Code, codes c = [g] ∧ g.bytes = [UInt8.ofNat c.toNat] ∧ char g = some c
  /-- no other character becomes a quote or a backslash -/
  codes_plain : ∀ c : Char, 128 ≤ c.toNat → ∀ g ∈ codes c, g.Plain
  /-- a character of the code page is converted to its own code -/
  codes_char : ∀ g c, char g = some c → codes c = [g]

namespace CodePage

variable (p : CodePage)

/-- A text as it is converted. -/
def convert (s : String) : List Code := s.toList.flatMap p.codes

def bytes (s : String) : Bytes := (p.convert s).flatMap Code.bytes

/-- A text as it is read back. -/
def read (v : Bytes) : Option String :=
  (Code.split v).bind fun gs => (gs.mapM p.char).map String.ofList

/-- The code page has the character. -/
def Has (c : Char) : Prop := ∃ g, p.codes c = [g] ∧ p.char g = some c

/-- The code page has every character of the text. -/
def Holds (s : String) : Prop := ∀ c ∈ s.toList, p.Has c

variable {p}

theorem has_of_ascii {c : Char} (h : c.toNat < 128) : p.Has c := by
  obtain ⟨g, hg, -, hc⟩ := p.codes_ascii c h
  exact ⟨g, hg, hc⟩

theorem holds_of_ascii {s : String} (h : ∀ c ∈ s.toList, c.toNat < 128) : p.Holds s :=
  fun c hc => has_of_ascii (h c hc)

/-- An ASCII text is kept. -/
theorem bytes_of_ascii {s : String} (h : ∀ c ∈ s.toList, c.toNat < 128) :
    p.bytes s = ascii s := by
  rw [bytes, convert, ascii_eq_map h]
  generalize s.toList = cs at h ⊢
  induction cs with
  | nil => rfl
  | cons c cs ih =>
    rw [List.forall_mem_cons] at h
    obtain ⟨g, hg, hb, -⟩ := p.codes_ascii c h.1
    rw [List.flatMap_cons, hg, List.singleton_append, List.flatMap_cons, hb, ih h.2]
    rfl

/-- A character other than the quote and the backslash. -/
theorem plain_of_ne {c : Char} (hquote : c.toNat ≠ 0x27) (hslash : c.toNat ≠ 0x5C) :
    ∀ g ∈ p.codes c, g.Plain := by
  by_cases hc : c.toNat < 128
  · obtain ⟨g, hg, hb, -⟩ := p.codes_ascii c hc
    have hne : ∀ n < 128, c.toNat ≠ n → g.bytes ≠ [UInt8.ofNat n] := by
      intro n hn hcn h
      rw [hb] at h
      have hmod := congrArg UInt8.toNat (List.cons.inj h).1
      simp only [UInt8.toNat_ofNat'] at hmod
      omega
    rw [hg]
    intro g' hg'
    rw [List.mem_singleton.1 hg']
    exact ⟨hne 0x27 (by omega) hquote, hne 0x5C (by omega) hslash⟩
  · exact p.codes_plain c (by omega)

/-- A text in the code page is read back. -/
theorem read_bytes {s : String} (h : p.Holds s) : p.read (p.bytes s) = some s := by
  have hchars : ∀ cs : List Char, (∀ c ∈ cs, p.Has c) →
      (cs.flatMap p.codes).mapM p.char = some cs := by
    intro cs hcs
    induction cs with
    | nil => rfl
    | cons c cs ih =>
      rw [List.forall_mem_cons] at hcs
      obtain ⟨g, hg, hc⟩ := hcs.1
      rw [List.flatMap_cons, hg, List.singleton_append, List.mapM_cons, hc, ih hcs.2]
      rfl
  rw [read, bytes, Code.split_flatMap, Option.bind_some, convert, hchars _ h, Option.map_some,
    String.ofList_toList]

/-- Only the bytes a text in the code page is converted to are read as the text. -/
theorem eq_of_read {v : Bytes} {s : String} (h : p.read v = some s) :
    v = p.bytes s ∧ p.Holds s := by
  obtain ⟨gs, hgs, hs⟩ := Option.bind_eq_some_iff.1 h
  obtain ⟨cs, hcs, rfl⟩ := Option.map_eq_some_iff.1 hs
  rw [mapM_eq_some_iff] at hcs
  have hall : cs.flatMap p.codes = gs ∧ ∀ c ∈ cs, p.Has c := by
    clear h hs hgs
    induction hcs with
    | nil => exact ⟨rfl, fun c hc => absurd hc List.not_mem_nil⟩
    | @cons g c gs cs hg hcs ih =>
      have hc := p.codes_char g c hg
      refine ⟨?_, ?_⟩
      · rw [List.flatMap_cons, hc, ih.1, List.singleton_append]
      · rw [List.forall_mem_cons]
        exact ⟨⟨g, hc, hg⟩, ih.2⟩
  refine ⟨?_, ?_⟩
  · rw [bytes, convert, String.toList_ofList, hall.1, Code.flatMap_of_split hgs]
  · rw [Holds, String.toList_ofList]
    exact hall.2

theorem read_eq_some_iff {v : Bytes} {s : String} :
    p.read v = some s ↔ v = p.bytes s ∧ p.Holds s := by
  constructor
  · exact eq_of_read
  · rintro ⟨rfl, hs⟩
    exact read_bytes hs

end CodePage

/-! ## §2 Commands -/

/-- Reading one by one what is read as `a` exactly where it is `g a` for a good `a`. -/
theorem mapM_eq_some_iff_map {α β : Type} {f : β → Option α} {g : α → β} {P : α → Prop}
    (h : ∀ b a, f b = some a ↔ b = g a ∧ P a) {l : List β} {l' : List α} :
    l.mapM f = some l' ↔ l = l'.map g ∧ ∀ a ∈ l', P a := by
  rw [mapM_eq_some_iff]
  induction l generalizing l' with
  | nil =>
    cases l' with
    | nil => simp
    | cons a l' => simp
  | cons b l ih =>
    cases l' with
    | nil => simp
    | cons a l' =>
      rw [List.forall₂_cons, h, ih, List.map_cons, List.cons.injEq, List.forall_mem_cons]
      exact and_and_and_comm

namespace Command

variable {α β : Type}

def map (f : α → β) : Command α → Command β
  | replace table columns values => replace table columns (values.map (Option.map f))
  | update table column value key keyValue =>
    update table column (value.map f) key (keyValue.map f)

/-- A value that may be NULL. -/
def readValue (f : β → Option α) : Option β → Option (Option α)
  | none => some none
  | some b => (f b).map some

/-- A command with its values read. -/
def read (f : β → Option α) : Command β → Option (Command α)
  | replace table columns values => (values.mapM (readValue f)).map (replace table columns)
  | update table column value key keyValue =>
    (readValue f value).bind fun v => (readValue f keyValue).map (update table column v key)

section Read

variable {f : β → Option α} {g : α → β} {P : α → Prop}
  (h : ∀ b a, f b = some a ↔ b = g a ∧ P a)
include h

theorem readValue_eq_some_iff (b : Option β) (v : Option α) :
    readValue f b = some v ↔ b = v.map g ∧ ∀ a, v = some a → P a := by
  cases b with
  | none =>
    cases v with
    | none => simp [readValue]
    | some a => simp [readValue]
  | some b =>
    cases v with
    | none => simp [readValue]
    | some a => simp [readValue, h]

/-- What is read of the values of a command. -/
theorem read_eq_some_iff (c : Command β) (c' : Command α) :
    c.read f = some c' ↔ c = c'.map g ∧ ∀ a ∈ c'.args, P a := by
  have hvalue := readValue_eq_some_iff h
  simp only [mem_args]
  cases c with
  | replace table columns vs =>
    rw [read, Option.map_eq_some_iff]
    constructor
    · rintro ⟨vs', hvs, rfl⟩
      obtain ⟨rfl, hP⟩ := (mapM_eq_some_iff_map hvalue).1 hvs
      exact ⟨rfl, fun a ha => hP _ ha a rfl⟩
    · rintro ⟨hc, hP⟩
      cases c' with
      | update => cases hc
      | replace table' columns' vs' =>
        obtain ⟨rfl, rfl, hvs⟩ := (replace.injEq ..).mp hc
        refine ⟨vs', (mapM_eq_some_iff_map hvalue).2 ⟨hvs, ?_⟩, rfl⟩
        rintro v hv a rfl
        exact hP a hv
  | update table column b key kb =>
    rw [read, Option.bind_eq_some_iff]
    constructor
    · rintro ⟨v, hv, hkv⟩
      obtain ⟨kv, hkv', rfl⟩ := Option.map_eq_some_iff.1 hkv
      obtain ⟨rfl, hP⟩ := (hvalue _ _).1 hv
      obtain ⟨rfl, hkP⟩ := (hvalue _ _).1 hkv'
      refine ⟨rfl, fun a ha => ?_⟩
      rcases List.mem_cons.1 ha with ha | ha
      · exact hP a ha.symm
      · exact hkP a (List.mem_singleton.1 ha).symm
    · rintro ⟨hc, hP⟩
      cases c' with
      | replace => cases hc
      | update table' column' v key' kv =>
        obtain ⟨rfl, rfl, hv, rfl, hkv⟩ := (update.injEq ..).mp hc
        have hv' : readValue f b = some v :=
          (hvalue _ _).2 ⟨hv, fun a ha => hP a (by simp [values, ha])⟩
        have hkv' : readValue f kb = some kv :=
          (hvalue _ _).2 ⟨hkv, fun a ha => hP a (by simp [values, ha])⟩
        exact ⟨v, hv', by rw [hkv', Option.map_some]⟩

end Read

end Command

namespace CodePage

variable (p : CodePage)

/-- The commands of a text, their values read in the code page. -/
def received (s : Bytes) : Option (List (Command String)) :=
  (SqlText.received s).bind fun cs => cs.mapM (Command.read p.read)

variable {p}

/-- **What is received as texts is received as their bytes**, and the code page holds the
texts. -/
theorem received_eq_some_iff {s : Bytes} {cs : List (Command String)} :
    p.received s = some cs ↔
      SqlText.received s = some (cs.map (Command.map p.bytes)) ∧
        ∀ c ∈ cs, ∀ v ∈ c.args, p.Holds v := by
  have hread := Command.read_eq_some_iff fun v s => p.read_eq_some_iff (v := v) (s := s)
  rw [received, Option.bind_eq_some_iff]
  constructor
  · rintro ⟨cs', hcs', hcs⟩
    obtain ⟨rfl, hholds⟩ := (mapM_eq_some_iff_map hread).1 hcs
    exact ⟨hcs', hholds⟩
  · rintro ⟨hcs, hholds⟩
    exact ⟨_, hcs, (mapM_eq_some_iff_map hread).2 ⟨rfl, hholds⟩⟩

end CodePage

end MtpSync.SqlText
