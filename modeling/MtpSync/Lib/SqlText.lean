import Mathlib.Data.List.Basic
import Mathlib.Data.UInt

/-!
# How a MySQL server reads a text

The bytes of a query become tokens: words, quoted names, literals and single characters, with
comments and blanks between them.
In a literal a backslash escapes the next byte, a doubled quote stands for one, and in a
double-byte character set a character is taken whole, so that a backslash in its second byte is
none.

- §1 characters of a double-byte set
- §2 tokens
- §3 what a literal stands for
- §4 texts that stand for themselves
- §5 texts built from pieces
-/

namespace MtpSync.SqlText

/-- A text as it is sent. -/
abbrev Bytes := List UInt8

/-! ## §1 Characters -/

/-- The first byte of a character of two bytes. -/
def isLead (b : UInt8) : Bool := 0x81 ≤ b && b ≤ 0xFE

/-- The second byte of a character of two bytes. -/
def isTrail (b : UInt8) : Bool := 0x40 ≤ b && b ≤ 0xFE && b != 0x7F

theorem isLead_of_lt {b : UInt8} (h : b.toNat < 128) : isLead b = false := by
  rw [isLead, Bool.and_eq_false_iff]
  left
  rw [decide_eq_false_iff_not, UInt8.le_iff_toNat_le]
  exact Nat.not_le_of_lt (Nat.lt_of_lt_of_le h (by decide))

/-- A character: one byte that starts no character of two, or two bytes. -/
inductive Code where
  | single (b : UInt8) (h : isLead b = false)
  | pair (l t : UInt8) (hl : isLead l = true) (ht : isTrail t = true)

namespace Code

def bytes : Code → Bytes
  | single b _ => [b]
  | pair l t _ _ => [l, t]

/-- The characters of a text, if it consists of whole ones. -/
def split : Bytes → Option (List Code)
  | [] => some []
  | b :: s =>
    if hb : isLead b = true then
      match s with
      | [] => none
      | t :: s' =>
        if ht : isTrail t = true then (split s').map (pair b t hb ht :: ·) else none
    else (split s).map (single b (by simpa using hb) :: ·)

theorem split_bytes (g : Code) (s : Bytes) :
    split (g.bytes ++ s) = (split s).map (g :: ·) := by
  cases g with
  | single b h =>
    show split (b :: s) = _
    rw [split, dif_neg (by simp [h])]
  | pair l t hl ht =>
    show split (l :: t :: s) = _
    rw [split, dif_pos hl]
    simp only [dif_pos ht]

/-- **A text of whole characters is read back.** -/
theorem split_flatMap (gs : List Code) : split (gs.flatMap bytes) = some gs := by
  induction gs with
  | nil => rfl
  | cons g gs ih => rw [List.flatMap_cons, split_bytes, ih, Option.map_some]

/-- Only its own characters make up a text. -/
theorem flatMap_of_split {s : Bytes} {gs : List Code} (h : split s = some gs) :
    gs.flatMap bytes = s := by
  fun_induction split s generalizing gs with
  | case1 =>
    cases h
    rfl
  | case2 b hb => cases h
  | case3 b hb t s' ht ih =>
    obtain ⟨rest, hrest, rfl⟩ := Option.map_eq_some_iff.1 h
    rw [List.flatMap_cons, ih hrest]
    rfl
  | case4 b hb t s' ht => cases h
  | case5 b s hb ih =>
    obtain ⟨rest, hrest, rfl⟩ := Option.map_eq_some_iff.1 h
    rw [List.flatMap_cons, ih hrest]
    rfl

end Code

/-! ## §2 Tokens -/

def quote : UInt8 := 0x27

def doubleQuote : UInt8 := 0x22

def backslash : UInt8 := 0x5C

def backtick : UInt8 := 0x60

inductive Token where
  | word (w : Bytes)
  /-- between backticks -/
  | name (w : Bytes)
  /-- a literal and what it stands for -/
  | text (v : Bytes)
  | punct (b : UInt8)
  deriving DecidableEq

/-- Where in the text the reader is. -/
inductive Mode where
  | code
  | word (w : Bytes)
  | name (w : Bytes)
  /-- after a backtick in a name -/
  | nameEnd (w : Bytes)
  /-- in a literal between quotes `q` -/
  | text (q : UInt8) (v : Bytes)
  /-- after the first byte of a character of two -/
  | lead (q : UInt8) (v : Bytes) (l : UInt8)
  /-- after a backslash -/
  | escape (q : UInt8) (v : Bytes)
  /-- after a quote in a literal -/
  | textEnd (q : UInt8) (v : Bytes)
  | dash
  | dashes
  | slash
  /-- in a comment up to the end of the line -/
  | line
  /-- in a comment up to its own end -/
  | block
  /-- after an asterisk in such a comment -/
  | star
  deriving DecidableEq

def isSpace (b : UInt8) : Bool := b == 0x20 || (0x09 ≤ b && b ≤ 0x0D)

/-- Letters, digits, `_`, `$` and everything beyond ASCII. -/
def isWord (b : UInt8) : Bool :=
  (0x30 ≤ b && b ≤ 0x39) || (0x41 ≤ b && b ≤ 0x5A) || (0x61 ≤ b && b ≤ 0x7A) || b == 0x5F ||
    b == 0x24 || 0x80 ≤ b

/-- What a backslash and the byte stand for. -/
def unescape (b : UInt8) : Bytes :=
  if b = 0x30 then [0x00]
  else if b = 0x62 then [0x08]
  else if b = 0x6E then [0x0A]
  else if b = 0x72 then [0x0D]
  else if b = 0x74 then [0x09]
  else if b = 0x5A then [0x1A]
  else if b = 0x25 ∨ b = 0x5F then [backslash, b]
  else [b]

/-- Where the reader is, and the tokens read so far. -/
abbrev Reader := Mode × List Token

/-- The first byte of a token, or a blank. -/
def beginToken (out : List Token) (b : UInt8) : Reader :=
  if isSpace b then (.code, out)
  else if isWord b then (.word [b], out)
  else if b = backtick then (.name [], out)
  else if b = quote ∨ b = doubleQuote then (.text b [], out)
  else if b = 0x23 then (.line, out)
  else if b = 0x2D then (.dash, out)
  else if b = 0x2F then (.slash, out)
  else (.code, out ++ [.punct b])

/-- A byte of a literal. -/
def inText (q : UInt8) (v : Bytes) (b : UInt8) : Mode :=
  if b = q then .textEnd q v
  else if b = backslash then .escape q v
  else if isLead b then .lead q v b
  else .text q (v ++ [b])

/-- The next byte. -/
def step : Reader → UInt8 → Reader
  | (.code, out), b => beginToken out b
  | (.word w, out), b =>
    if isWord b then (.word (w ++ [b]), out) else beginToken (out ++ [.word w]) b
  | (.name w, out), b => if b = backtick then (.nameEnd w, out) else (.name (w ++ [b]), out)
  | (.nameEnd w, out), b =>
    if b = backtick then (.name (w ++ [b]), out) else beginToken (out ++ [.name w]) b
  | (.text q v, out), b => (inText q v b, out)
  | (.lead q v l, out), b =>
    if isTrail b then (.text q (v ++ [l, b]), out) else (inText q (v ++ [l]) b, out)
  | (.escape q v, out), b => (.text q (v ++ unescape b), out)
  | (.textEnd q v, out), b =>
    if b = q then (.text q (v ++ [q]), out) else beginToken (out ++ [.text v]) b
  | (.dash, out), b =>
    if b = 0x2D then (.dashes, out) else beginToken (out ++ [.punct 0x2D]) b
  | (.dashes, out), b =>
    if b = 0x0A then (.code, out)
    else if b ≤ 0x20 ∨ b = 0x7F then (.line, out)
    else beginToken (out ++ [.punct 0x2D, .punct 0x2D]) b
  | (.slash, out), b =>
    if b = 0x2A then (.block, out) else beginToken (out ++ [.punct 0x2F]) b
  | (.line, out), b => if b = 0x0A then (.code, out) else (.line, out)
  | (.block, out), b => if b = 0x2A then (.star, out) else (.block, out)
  | (.star, out), b =>
    if b = 0x2F then (.code, out) else if b = 0x2A then (.star, out) else (.block, out)

/-- The end of the text: an open literal, name or comment is an error. -/
def finish : Reader → Option (List Token)
  | (.code, out) => some out
  | (.word w, out) => some (out ++ [.word w])
  | (.nameEnd w, out) => some (out ++ [.name w])
  | (.textEnd _ v, out) => some (out ++ [.text v])
  | (.dash, out) => some (out ++ [.punct 0x2D])
  | (.dashes, out) => some out
  | (.slash, out) => some (out ++ [.punct 0x2F])
  | (.line, out) => some out
  | _ => none

/-- The tokens of what is left to read. -/
def tokensFrom (out : List Token) (s : Bytes) : Option (List Token) :=
  finish (s.foldl step (.code, out))

/-- The tokens of a text. -/
def tokens (s : Bytes) : Option (List Token) := tokensFrom [] s

/-- The tokens read so far play no part in what is read next. -/
theorem beginToken_append (out more : List Token) (b : UInt8) :
    beginToken (out ++ more) b = ((beginToken more b).1, out ++ (beginToken more b).2) := by
  unfold beginToken
  split_ifs <;> simp

theorem step_append (m : Mode) (out more : List Token) (b : UInt8) :
    step (m, out ++ more) b = ((step (m, more) b).1, out ++ (step (m, more) b).2) := by
  cases m <;> unfold step <;> dsimp only
  all_goals try split_ifs
  all_goals simp only [List.append_assoc, beginToken_append]

theorem foldl_step_append (m : Mode) (out more : List Token) (s : Bytes) :
    s.foldl step (m, out ++ more) =
      ((s.foldl step (m, more)).1, out ++ (s.foldl step (m, more)).2) := by
  induction s generalizing m more with
  | nil => rfl
  | cons b s ih =>
    rw [List.foldl_cons, List.foldl_cons, step_append, ih]

theorem finish_append (m : Mode) (out more : List Token) :
    finish (m, out ++ more) = (finish (m, more)).map (out ++ ·) := by
  cases m <;> simp [finish]

/-- **What has been read stays in front.** -/
theorem tokensFrom_append (out more : List Token) (s : Bytes) :
    tokensFrom (out ++ more) s = (tokensFrom more s).map (out ++ ·) := by
  unfold tokensFrom
  rw [foldl_step_append, finish_append]

theorem tokensFrom_eq (out : List Token) (s : Bytes) :
    tokensFrom out s = (tokens s).map (out ++ ·) := by
  have h := tokensFrom_append out [] s
  rw [List.append_nil] at h
  exact h

/-! ## §3 Literals -/

/-- A literal between quotes `q`, after its first quote: what it stands for, and the text after
it. -/
def readText (q : UInt8) : Bytes → Option (Bytes × Bytes)
  | [] => none
  | b :: s =>
    if b = q then
      match s with
      | [] => some ([], [])
      | c :: s' =>
        if c = q then (readText q s').map fun r => (q :: r.1, r.2) else some ([], c :: s')
    else if b = backslash then
      match s with
      | [] => none
      | c :: s' => (readText q s').map fun r => (unescape c ++ r.1, r.2)
    else if isLead b then
      match s with
      | [] => none
      | c :: s' =>
        if isTrail c then (readText q s').map fun r => (b :: c :: r.1, r.2)
        else (readText q (c :: s')).map fun r => (b :: r.1, r.2)
    else (readText q s).map fun r => (b :: r.1, r.2)

/-- A literal that has ended is a token, and the next byte begins another. -/
theorem finish_textEnd (q : UInt8) (v : Bytes) (out : List Token) (s : Bytes)
    (h : s.head? ≠ some q) :
    finish (s.foldl step (.textEnd q v, out)) = tokensFrom (out ++ [.text v]) s := by
  cases s with
  | nil => rfl
  | cons c s =>
    have hc : c ≠ q := fun hcq => h (by rw [hcq, List.head?_cons])
    show finish (s.foldl step (step (.textEnd q v, out) c)) =
      finish (s.foldl step (step (.code, out ++ [.text v]) c))
    rw [show step (.textEnd q v, out) c = step (.code, out ++ [.text v]) c from if_neg hc]

/-- What follows in a literal after a byte that has been read. -/
private theorem bind_map_text {x : Option (Bytes × Bytes)} {f : Bytes → Bytes} {v w : Bytes}
    {out : List Token} (hf : ∀ r, v ++ f r = w ++ r) :
    ((x.map fun r => (f r.1, r.2)).bind fun r => tokensFrom (out ++ [.text (v ++ r.1)]) r.2) =
      x.bind fun r => tokensFrom (out ++ [.text (w ++ r.1)]) r.2 := by
  cases x with
  | none => rfl
  | some r => simp [hf]

/-- **The reader reads a literal as `readText` does.** -/
theorem finish_text (q : UInt8) (s v : Bytes) (out : List Token) :
    finish (s.foldl step (.text q v, out)) =
      (readText q s).bind fun r => tokensFrom (out ++ [.text (v ++ r.1)]) r.2 := by
  fun_induction readText q s generalizing v with
  | case1 => rfl
  | case2 =>
    -- the closing quote ends the text
    show finish (inText q v q, out) = _
    rw [inText, if_pos rfl, Option.bind_some, List.append_nil]
    rfl
  | case3 s' ih =>
    -- a doubled quote
    rw [bind_map_text (f := (q :: ·)) (w := v ++ [q]) (by simp), ← ih]
    simp [step, inText]
  | case4 c s' hc =>
    rw [List.foldl_cons, show step (.text q v, out) q = (.textEnd q v, out) by
      simp [step, inText], finish_textEnd q v out (c :: s') (by simpa using hc)]
    simp
  | case5 hq => simp [step, inText, hq, finish]
  | case6 c s' hq ih =>
    rw [bind_map_text (f := (unescape c ++ ·)) (w := v ++ unescape c) (by simp), ← ih]
    simp [step, inText, hq]
  | case7 b hq hb hl => simp [step, inText, hq, hb, hl, finish]
  | case8 b hq hb hl t s' ht ih =>
    rw [bind_map_text (f := (b :: t :: ·)) (w := v ++ [b, t]) (by simp), ← ih]
    simp [step, inText, hq, hb, hl, ht]
  | case9 b hq hb hl t s' ht ih =>
    -- the byte was no first byte after all
    rw [bind_map_text (f := (b :: ·)) (w := v ++ [b]) (by simp), ← ih]
    simp [step, inText, hq, hb, hl, ht]
  | case10 b s hq hb hl ih =>
    rw [bind_map_text (f := (b :: ·)) (w := v ++ [b]) (by simp), ← ih]
    simp [step, inText, hq, hb, hl]

/-- A quoted text is one token, and the text goes on behind it. -/
theorem tokens_quoted (s : Bytes) :
    tokens (quote :: s) =
      (readText quote s).bind fun r => (tokens r.2).map (.text r.1 :: ·) := by
  have hstep : step (.code, []) quote = (.text quote [], []) := rfl
  show finish (s.foldl step (step (.code, []) quote)) = _
  rw [hstep, finish_text]
  cases readText quote s with
  | none => rfl
  | some r => exact tokensFrom_eq [.text r.1] r.2

/-! ## §4 Texts that stand for themselves -/

/-- In a literal, `raw` stands for `value`. -/
def Reads (raw value : Bytes) : Prop :=
  ∀ s, readText quote (raw ++ s) = (readText quote s).map fun r => (value ++ r.1, r.2)

theorem Reads.nil : Reads [] [] := by
  intro s
  simp

theorem Reads.append {a b v w : Bytes} (ha : Reads a v) (hb : Reads b w) :
    Reads (a ++ b) (v ++ w) := by
  intro s
  rw [List.append_assoc, ha, hb, Option.map_map]
  simp [Function.comp_def]

theorem Reads.flatMap {α : Type} {f g : α → Bytes} {l : List α} (h : ∀ a ∈ l, Reads (f a) (g a)) :
    Reads (l.flatMap f) (l.flatMap g) := by
  induction l with
  | nil => exact .nil
  | cons a l ih =>
    rw [List.forall_mem_cons] at h
    rw [List.flatMap_cons, List.flatMap_cons]
    exact h.1.append (ih h.2)

/-- The closing quote, with no other behind it. -/
theorem readText_close {c : UInt8} (hc : c ≠ quote) (s : Bytes) :
    readText quote (quote :: c :: s) = some ([], c :: s) := by
  simp [readText, hc]

theorem Reads.close {raw value : Bytes} (h : Reads raw value) {c : UInt8} (hc : c ≠ quote)
    (s : Bytes) : readText quote (raw ++ quote :: c :: s) = some (value, c :: s) := by
  rw [h, readText_close hc]
  simp

/-- An escaped byte. -/
theorem reads_escape (b : UInt8) : Reads [backslash, b] (unescape b) := by
  intro s
  show readText quote (backslash :: b :: s) = _
  rw [readText, if_neg (by decide), if_pos rfl]

/-- Neither the quote nor the backslash. -/
def Code.Plain (g : Code) : Prop := g.bytes ≠ [quote] ∧ g.bytes ≠ [backslash]

/-- Any other character stands for itself. -/
theorem reads_plain {g : Code} (h : g.Plain) : Reads g.bytes g.bytes := by
  intro s
  cases g with
  | single b hb =>
    have hq : b ≠ quote := fun hbq => h.1 (by rw [Code.bytes, hbq])
    have hs : b ≠ backslash := fun hbs => h.2 (by rw [Code.bytes, hbs])
    show readText quote (b :: s) = _
    rw [readText.eq_def]
    simp [hq, hs, hb, Code.bytes]
  | pair l t hl ht =>
    have hq : l ≠ quote := fun hlq => by
      rw [hlq] at hl
      exact absurd hl (by decide)
    have hs : l ≠ backslash := fun hls => by
      rw [hls] at hl
      exact absurd hl (by decide)
    show readText quote (l :: t :: s) = _
    rw [readText]
    simp [hq, hs, hl, ht, Code.bytes]

/-- A byte behind a backslash stands for a quote or a backslash only if it is one. -/
theorem unescape_special {b : UInt8} (h : ¬(b = 0x25 ∨ b = 0x5F)) :
    ∃ d, unescape b = [d] ∧ (d = quote ∨ d = backslash → d = b) := by
  unfold unescape
  rw [if_neg h]
  split_ifs
  case neg => exact ⟨b, rfl, fun _ => rfl⟩
  all_goals exact ⟨_, rfl, fun hd => absurd hd (by decide)⟩

/-- Any other byte comes first in what the literal stands for. -/
theorem readText_head {b : UInt8} {s v r : Bytes} (hq : b ≠ quote) (hs : b ≠ backslash)
    (h : readText quote (b :: s) = some (v, r)) : ∃ v', v = b :: v' := by
  rw [readText.eq_def] at h
  simp only [if_neg hq, if_neg hs] at h
  split_ifs at h with hl
  · cases s with
    | nil => cases h
    | cons c s =>
      simp only at h
      split_ifs at h
      · obtain ⟨a, -, ha⟩ := Option.map_eq_some_iff.1 h
        cases ha
        exact ⟨_, rfl⟩
      · obtain ⟨a, -, ha⟩ := Option.map_eq_some_iff.1 h
        cases ha
        exact ⟨_, rfl⟩
  · obtain ⟨a, -, ha⟩ := Option.map_eq_some_iff.1 h
    cases ha
    exact ⟨_, rfl⟩

/-- **A reader that lags never catches up**: with a run `x` of quotes and backslashes between what
has been read and where the reader is, the rest does not stand for what it should. -/
theorem no_catch_up {x y e r s : Bytes} {c : UInt8} (hx : x ≠ [])
    (hspecial : ∀ b ∈ x, b = quote ∨ b = backslash) (h : x ++ y = e ++ quote :: c :: s)
    (hc : c ≠ quote ∧ c ≠ backslash) : readText quote y ≠ some (e, r) := by
  intro hread
  induction e generalizing x y r with
  | nil =>
    obtain ⟨b, x', rfl⟩ := List.exists_cons_of_ne_nil hx
    cases x' with
    | nil =>
      -- the reader is at `c`, which ends no literal
      have hy : y = c :: s := (List.cons.inj h).2
      rw [hy] at hread
      obtain ⟨v', hv'⟩ := readText_head hc.1 hc.2 hread
      cases hv'
    | cons b' x' =>
      have hb' : b' = c := (List.cons.inj (List.cons.inj h).2).1
      rcases hspecial b' (by simp) with hb | hb
      · exact hc.1 (hb'.symm.trans hb)
      · exact hc.2 (hb'.symm.trans hb)
  | cons d e ih =>
    obtain ⟨b, x', rfl⟩ := List.exists_cons_of_ne_nil hx
    obtain ⟨rfl, hrest⟩ := List.cons.inj h
    replace hrest : x' ++ y = e ++ quote :: c :: s := hrest
    rw [List.forall_mem_cons] at hspecial
    -- one more pair of bytes for one of them: the reader lags one byte more
    have hfarther : ∀ t t' y' r', y = t :: t' :: y' → (t = quote ∨ t = backslash) →
        (t' = quote ∨ t' = backslash) → readText quote y' = some (e, r') → False := by
      intro t t' y' r' hy ht ht' hy'
      refine ih (x := x' ++ [t, t']) (by simp) ?_ ?_ hy'
      · intro b' hb'
        rcases List.mem_append.1 hb' with hb' | hb'
        · exact hspecial.2 b' hb'
        · rcases List.mem_cons.1 hb' with rfl | hb'
          · exact ht
          · rw [List.mem_singleton.1 hb']
            exact ht'
      · rw [List.append_assoc, ← hrest, hy]
        rfl
    cases y with
    | nil => cases hread
    | cons t y =>
      by_cases htq : t = quote
      · subst htq
        cases y with
        | nil => cases hread
        | cons t' y =>
          rw [readText, if_pos rfl] at hread
          split_ifs at hread with ht'
          · -- a doubled quote
            obtain ⟨a, ha, heq⟩ := Option.map_eq_some_iff.1 hread
            cases heq
            exact hfarther quote t' y a.2 rfl (.inl rfl) (.inl ht') ha
          · cases hread
      · by_cases hts : t = backslash
        · subst hts
          cases y with
          | nil => cases hread
          | cons t' y =>
            rw [readText, if_neg htq, if_pos rfl] at hread
            obtain ⟨a, ha, heq⟩ := Option.map_eq_some_iff.1 hread
            by_cases hkept : t' = 0x25 ∨ t' = 0x5F
            · -- both bytes stay, and the second is none of those in between
              have hun : unescape t' = [backslash, t'] := by
                rcases hkept with rfl | rfl <;> rfl
              rw [hun] at heq
              obtain ⟨-, he⟩ := List.cons.inj (Prod.mk.inj heq).1
              rw [← he] at hrest
              have ht' : t' ≠ quote ∧ t' ≠ backslash := by
                rcases hkept with rfl | rfl <;> decide
              cases x' with
              | nil => exact ht'.2 (List.cons.inj hrest).1.symm
              | cons b' x' =>
                have hb' : b' = t' := (List.cons.inj hrest).1
                rcases hspecial.2 b' List.mem_cons_self with hb | hb
                · exact ht'.1 (hb'.symm.trans hb)
                · exact ht'.2 (hb'.symm.trans hb)
            · obtain ⟨d, hun, hd⟩ := unescape_special hkept
              rw [hun] at heq
              obtain ⟨rfl, he⟩ := List.cons.inj (Prod.mk.inj heq).1
              have ht' : t' = quote ∨ t' = backslash := by
                rw [← hd hspecial.1]
                exact hspecial.1
              have hread' : readText quote y = some (e, a.2) := by
                rw [ha, ← he]
                rfl
              exact hfarther backslash t' y a.2 rfl (.inr rfl) ht' hread'
        · -- an ordinary byte where there should be a quote or a backslash
          obtain ⟨v', hv'⟩ := readText_head htq hts hread
          have hbt := (List.cons.inj hv').1
          rcases hspecial.1 with hb | hb
          · exact htq (hbt.symm.trans hb)
          · exact hts (hbt.symm.trans hb)

/-- No quote, and no backslash but before `%` or `_`. -/
def Verbatim : List Code → Prop
  | [] => True
  | g :: gs =>
    g.bytes ≠ [quote] ∧
      (g.bytes = [backslash] → ∃ h, gs.head? = some h ∧ (h.bytes = [0x25] ∨ h.bytes = [0x5F])) ∧
      Verbatim gs

theorem verbatim_of_plain {gs : List Code} (h : ∀ g ∈ gs, g.Plain) : Verbatim gs := by
  induction gs with
  | nil => trivial
  | cons g gs ih =>
    rw [List.forall_mem_cons] at h
    exact ⟨h.1.1, fun hg => absurd hg h.1.2, ih h.2⟩

/-- A backslash that stays. -/
theorem reads_kept {b : UInt8} (hb : b = 0x25 ∨ b = 0x5F) :
    Reads [backslash, b] [backslash, b] := by
  have h := reads_escape b
  rcases hb with rfl | rfl
  · exact h
  · exact h

/-- Such a text stands for itself. -/
theorem reads_verbatim : ∀ {gs : List Code}, Verbatim gs →
    Reads (gs.flatMap Code.bytes) (gs.flatMap Code.bytes)
  | [], _ => .nil
  | [g], ⟨hquote, hslash, _⟩ => by
    -- a backslash is never last: it needs a character that keeps it
    have hg : g.bytes ≠ [backslash] := by
      intro hg
      obtain ⟨k, hk, -⟩ := hslash hg
      cases hk
    exact (reads_plain ⟨hquote, hg⟩).append .nil
  | g :: k :: gs, ⟨hquote, hslash, hrest⟩ => by
    by_cases hg : g.bytes = [backslash]
    · -- the backslash goes with the character behind it
      obtain ⟨k', hk, hkept⟩ := hslash hg
      cases hk
      obtain ⟨b, hb, hb'⟩ : ∃ b, k.bytes = [b] ∧ (b = 0x25 ∨ b = 0x5F) := by
        rcases hkept with hkept | hkept
        · exact ⟨_, hkept, .inl rfl⟩
        · exact ⟨_, hkept, .inr rfl⟩
      have hrun := (reads_kept hb').append (reads_verbatim hrest.2.2)
      rw [List.flatMap_cons, List.flatMap_cons, hg, hb]
      exact hrun
    · exact (reads_plain ⟨hquote, hg⟩).append (reads_verbatim hrest)

/-- A character whose first byte is no first byte of two is that byte. -/
theorem Code.bytes_eq_of_head {g : Code} {b : UInt8} {s t : Bytes} (h : g.bytes ++ s = b :: t)
    (hb : isLead b = false) : g.bytes = [b] ∧ s = t := by
  cases g with
  | single b' h' =>
    obtain ⟨rfl, rfl⟩ := List.cons.inj h
    exact ⟨rfl, rfl⟩
  | pair l t' hl ht =>
    obtain ⟨rfl, -⟩ := List.cons.inj h
    rw [hb] at hl
    cases hl

/-- A quote is read with the byte behind it, and the reader is one byte behind. -/
private theorem quote_lags {e r s : Bytes} {c : UInt8} (hc : c ≠ quote ∧ c ≠ backslash) :
    readText quote (quote :: (e ++ quote :: c :: s)) ≠ some (quote :: e, r) := by
  intro h
  cases hy : e ++ quote :: c :: s with
  | nil => simp at hy
  | cons t y =>
    rw [hy, readText, if_pos rfl] at h
    split_ifs at h with ht
    · obtain ⟨a, ha, heq⟩ := Option.map_eq_some_iff.1 h
      have hread : readText quote y = some (e, a.2) := by
        rw [ha, ← (List.cons.inj (Prod.mk.inj heq).1).2]
      have hlag : [quote] ++ y = e ++ quote :: c :: s := by
        rw [hy, ht]
        rfl
      exact no_catch_up (by simp) (by simp) hlag hc hread
    · cases h

/-- So is a backslash, unless it stays. -/
private theorem backslash_lags {e r s y : Bytes} {c t : UInt8} (hc : c ≠ quote ∧ c ≠ backslash)
    (hy : e ++ quote :: c :: s = t :: y) (hkept : ¬(t = 0x25 ∨ t = 0x5F)) :
    readText quote (backslash :: t :: y) ≠ some (backslash :: e, r) := by
  intro h
  rw [readText, if_neg (by decide), if_pos rfl] at h
  obtain ⟨a, ha, heq⟩ := Option.map_eq_some_iff.1 h
  obtain ⟨d, hun, hd⟩ := unescape_special hkept
  rw [hun] at heq
  obtain ⟨rfl, he⟩ := List.cons.inj (Prod.mk.inj heq).1
  have ht : t = backslash := (hd (.inr rfl)).symm
  have hread : readText quote y = some (e, a.2) := by
    rw [ha, ← he]
    rfl
  have hlag : [backslash] ++ y = e ++ quote :: c :: s := by
    rw [hy, ht]
    rfl
  exact no_catch_up (by simp) (by simp) hlag hc hread

/-- A text that is read as itself is verbatim. -/
theorem verbatim_of_readText {gs : List Code} {r s : Bytes} {c : UInt8}
    (hc : c ≠ quote ∧ c ≠ backslash)
    (h : readText quote (gs.flatMap Code.bytes ++ quote :: c :: s) =
      some (gs.flatMap Code.bytes, r)) : Verbatim gs := by
  induction gs generalizing r with
  | nil => trivial
  | cons g gs ih =>
    rw [List.flatMap_cons, List.append_assoc] at h
    -- a quote would end the text early
    by_cases hquote : g.bytes = [quote]
    · rw [hquote] at h
      exact absurd h (quote_lags hc)
    · by_cases hslash : g.bytes = [backslash]
      · -- the character behind the backslash must be one that keeps it
        rw [hslash] at h
        cases hy : gs.flatMap Code.bytes ++ quote :: c :: s with
        | nil => simp at hy
        | cons t y =>
          rw [hy] at h
          by_cases hkept : t = 0x25 ∨ t = 0x5F
          · have hlead : isLead t = false := by rcases hkept with rfl | rfl <;> rfl
            have hplain : t ≠ quote ∧ t ≠ backslash := by
              rcases hkept with rfl | rfl <;> decide
            cases gs with
            | nil => exact absurd (List.cons.inj hy).1.symm hplain.1
            | cons k gs =>
              rw [List.flatMap_cons, List.append_assoc] at hy
              obtain ⟨hk, hy'⟩ := Code.bytes_eq_of_head hy hlead
              rw [List.flatMap_cons, hk] at h
              change readText quote ([backslash, t] ++ y) =
                some ([backslash, t] ++ gs.flatMap Code.bytes, r) at h
              rw [reads_kept hkept] at h
              obtain ⟨a, ha, heq⟩ := Option.map_eq_some_iff.1 h
              obtain ⟨he, hr⟩ := Prod.mk.inj heq
              have hkPlain : k.Plain := by
                rw [Code.Plain, hk]
                exact ⟨fun hq => hplain.1 (List.cons.inj hq).1,
                  fun hs => hplain.2 (List.cons.inj hs).1⟩
              refine ⟨hquote, fun _ => ⟨k, rfl, ?_⟩, ih (r := r) ?_⟩
              · rcases hkept with rfl | rfl
                · exact .inl hk
                · exact .inr hk
              · rw [List.flatMap_cons, List.append_assoc, reads_plain hkPlain, hy', ha, ← hr,
                  ← List.append_cancel_left he]
                rfl
          · exact absurd h (backslash_lags hc hy hkept)
      · -- a plain character is read back and goes
        rw [reads_plain ⟨hquote, hslash⟩] at h
        obtain ⟨a, ha, heq⟩ := Option.map_eq_some_iff.1 h
        obtain ⟨he, hr⟩ := Prod.mk.inj heq
        refine ⟨hquote, fun hs => absurd hs hslash, ih (r := r) ?_⟩
        rw [ha, ← hr, ← List.append_cancel_left he]

/-- **A text stands for itself exactly when it is verbatim.** -/
theorem reads_self_iff {gs : List Code} :
    Reads (gs.flatMap Code.bytes) (gs.flatMap Code.bytes) ↔ Verbatim gs := by
  constructor
  · intro h
    exact verbatim_of_readText (c := 0x2C) (by decide) (h.close (by decide) [])
  · exact reads_verbatim

/-! ## §5 Texts built from pieces -/

/-- A part without free text: it begins and ends between tokens. -/
structure Fixed where
  bytes : Bytes
  tokens : List Token
  reads : bytes.foldl step (.code, []) = (.code, tokens)

theorem Fixed.tokens_append (f : Fixed) (s : Bytes) :
    SqlText.tokens (f.bytes ++ s) = (SqlText.tokens s).map (f.tokens ++ ·) := by
  rw [← tokensFrom_eq]
  unfold SqlText.tokens tokensFrom
  rw [List.foldl_append, f.reads]

/-- What follows a literal. -/
structure Separator extends Fixed where
  head_ne : ∃ c s, bytes = c :: s ∧ c ≠ quote ∧ c ≠ backslash

inductive Piece where
  | fixed (f : Fixed)
  /-- the characters between two quotes, those they are meant to stand for, and what follows -/
  | text (raw value : List Code) (sep : Separator)

namespace Piece

def bytes : Piece → Bytes
  | fixed f => f.bytes
  | text raw _ sep => quote :: (raw.flatMap Code.bytes ++ quote :: sep.bytes)

/-- The tokens the piece is meant to be. -/
def tokens : Piece → List Token
  | fixed f => f.tokens
  | text _ value sep => .text (value.flatMap Code.bytes) :: sep.tokens

/-- Its literal stands for what it is meant to. -/
def Good : Piece → Prop
  | fixed _ => True
  | text raw value _ => Reads (raw.flatMap Code.bytes) (value.flatMap Code.bytes)

/-- Its literal is the text itself. -/
def Bare : Piece → Prop
  | fixed _ => True
  | text raw value _ => raw = value

/-- A literal that is read right ends at its quote. -/
theorem tokens_text_append {raw value : List Code} {sep : Separator}
    (h : Reads (raw.flatMap Code.bytes) (value.flatMap Code.bytes)) (s : Bytes) :
    SqlText.tokens ((text raw value sep).bytes ++ s) =
      (SqlText.tokens s).map ((text raw value sep).tokens ++ ·) := by
  obtain ⟨c, s', hsep, hc, -⟩ := sep.head_ne
  have hclose := h.close hc (s' ++ s)
  rw [bytes, List.cons_append, List.append_assoc, List.cons_append, hsep, List.cons_append,
    tokens_quoted, hclose, Option.bind_some, ← List.cons_append, ← hsep, sep.tokens_append,
    Option.map_map]
  rfl

theorem tokens_append {p : Piece} (h : p.Good) (s : Bytes) :
    SqlText.tokens (p.bytes ++ s) = (SqlText.tokens s).map (p.tokens ++ ·) := by
  cases p with
  | fixed f => exact f.tokens_append s
  | text raw value sep => exact tokens_text_append h s

end Piece

/-- **Good pieces are read as what they are meant to be.** -/
theorem tokens_pieces {ps : List Piece} (h : ∀ p ∈ ps, p.Good) :
    tokens (ps.flatMap Piece.bytes) = some (ps.flatMap Piece.tokens) := by
  induction ps with
  | nil => rfl
  | cons p ps ih =>
    rw [List.forall_mem_cons] at h
    rw [List.flatMap_cons, Piece.tokens_append h.1, ih h.2]
    rfl

end MtpSync.SqlText
