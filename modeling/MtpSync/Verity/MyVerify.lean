import MtpSync.Upload.Quoting
import MtpSync.Verity.Md5Digest
import Mathlib.Data.List.DropRight

/-!
# The license

A copy of the program is registered by the MD5 digest of a MAC address of the computer and the
name of the license file.  `WriteAndVerityExe` takes a code, compares it and writes it to that
file, and `VerityExe` reads the file and compares.  Both add the addresses of the adapters to
`m_strMac`, and nothing takes them out again.

- §1 texts
- §2 adapters
- §3 the calls
- §4 the comparison
- §5 what each call answers
- §6 which codes are accepted
- §7 registering
-/

namespace MtpSync

open Md5Standard (hex)

/-! ## §1 Texts -/

/-- The bytes of a `CStringA`. -/
abbrev ByteText := List Byte

namespace ByteText

/-- What a function sees that takes a text up to its zero byte. -/
def cstr (s : ByteText) : ByteText := s.takeWhile (· ≠ 0)

def isspace (b : Byte) : Bool := (9 ≤ b.toNat && b.toNat ≤ 13) || b.toNat == 32

/-- `TrimRight` looks for the spaces at the end up to a zero byte. -/
def trimRight (s : ByteText) : ByteText :=
  let kept := s.cstr.rdropWhile isspace
  if kept.length < s.cstr.length then kept else s

def trimLeft (s : ByteText) : ByteText := s.dropWhile isspace

def Trim (s : ByteText) : ByteText := s.trimRight.trimLeft

/-- A text without the spaces at both ends. -/
def strip (s : ByteText) : ByteText := (s.rdropWhile isspace).dropWhile isspace

/-- `operator==` compares up to a zero byte. -/
def same (a b : ByteText) : Bool := a.cstr == b.cstr

/-- The bytes of an ASCII `std::string`. -/
def ofString (s : String) : ByteText := s.toList.map fun c => .ofNat 8 c.toNat

/-- A narrow text made wide and narrow again, `CString(…)` assigned to a `CStringA`. -/
def viaCString (p : SqlText.CodePage) (s : String) : ByteText := (p.bytes s).map UInt8.toBitVec

end ByteText

/-! ## §2 Adapters -/

/-- `IP_ADAPTER_INFO`: the bytes of the address, at most `MAX_ADAPTER_ADDRESS_LENGTH`. -/
structure Adapter where
  Address : List Byte
  short : Address.length ≤ 8

/-- An upper-case hexadecimal digit. -/
def upperHex (d : ℕ) : Byte := if d < 10 then .ofNat 8 (48 + d) else .ofNat 8 (55 + d)

/-- `"%02X"`. -/
def format02X (b : Byte) : ByteText := [upperHex (b.toNat / 16), upperHex (b.toNat % 16)]

/-- The loop over the bytes of an address: `"%02X-"`, and `"%02X"` for the last one. -/
def formatAddress : List Byte → ByteText
  | [] => []
  | [b] => format02X b
  | b :: b' :: rest => format02X b ++ 0x2D :: formatAddress (b' :: rest)

/-- A MAC address as a text. -/
structure Mac where
  text : ByteText
  short : text.length ≤ 24
  noNul : ∀ b ∈ text, b ≠ 0

namespace ByteText

theorem Trim_sublist (s : ByteText) : s.Trim.Sublist s := by
  refine (List.dropWhile_sublist _).trans ?_
  unfold trimRight
  dsimp only
  split
  · exact (List.rdropWhile_prefix isspace _).sublist.trans (List.takeWhile_sublist _)
  · exact List.Sublist.refl s

end ByteText

private theorem upperHex_ne (d : ℕ) (h : d < 16) : upperHex d ≠ 0 := by
  have hall : ∀ d < 16, upperHex d ≠ 0 := by decide
  exact hall d h

private theorem format02X_ne (b : Byte) : ∀ c ∈ format02X b, c ≠ 0 := by
  have hlt : b.toNat < 2 ^ 8 := b.isLt
  intro c hc
  rw [format02X, List.mem_cons, List.mem_singleton] at hc
  rcases hc with rfl | rfl
  · exact upperHex_ne _ (by omega)
  · exact upperHex_ne _ (by omega)

private theorem formatAddress_ne (address : List Byte) : ∀ c ∈ formatAddress address, c ≠ 0 := by
  induction address using formatAddress.induct with
  | case1 => exact fun c hc => absurd hc List.not_mem_nil
  | case2 b => exact format02X_ne b
  | case3 b b' rest ih =>
    intro c hc
    rw [formatAddress, List.mem_append, List.mem_cons] at hc
    rcases hc with hc | rfl | hc
    · exact format02X_ne b c hc
    · decide
    · exact ih c hc

private theorem length_formatAddress (address : List Byte) :
    (formatAddress address).length ≤ 3 * address.length := by
  induction address using formatAddress.induct with
  | case1 => exact Nat.le_refl 0
  | case2 b => exact Nat.le_succ 2
  | case3 b b' rest ih =>
    rw [formatAddress, List.length_append, List.length_cons, List.length_cons]
    have hbyte : (format02X b).length = 2 := rfl
    omega

/-- `myMAC`, trimmed. -/
def Adapter.mac (a : Adapter) : Mac where
  text := (formatAddress a.Address).Trim
  short := by
    have hlen := (ByteText.Trim_sublist (formatAddress a.Address)).length_le
    have hformat := length_formatAddress a.Address
    have hshort := a.short
    omega
  noNul b hb := formatAddress_ne a.Address b ((ByteText.Trim_sublist _).subset hb)

/-! ## §3 The calls -/

/-- `m_strFileName`. -/
def m_strFileName : ByteText := .ofString "KLD_license"

/-- The singleton. -/
structure MyVerify where
  m_strMac : List Mac

namespace MyVerify

/-- `GetLocoalIPandMac`: the addresses of the adapters that are there are added. -/
def GetLocoalIPandMac (present : List Adapter) (s : MyVerify) : Bool × MyVerify :=
  (!present.isEmpty, ⟨s.m_strMac ++ present.map Adapter.mac⟩)

/-- The loop over `m_strMac`, with one MD5 object that is reset between the addresses; `narrow` is
how the digits become a `CStringA`. -/
def verityLoop (narrow : String → ByteText) (strMac : ByteText) : List Mac → MD5 → Option Bool
  | [], _ => some false
  | mac :: macs, md => do
    let md ← md.update (mac.text ++ m_strFileName).cstr
    let (digits, md) ← md.toString
    if (narrow digits).same strMac then some true else verityLoop narrow strMac macs md.reset

/-- `ReturnPcMac`. -/
def ReturnPcMac (present : List Adapter) (s : MyVerify) : ByteText × MyVerify :=
  let (found, s) := s.GetLocoalIPandMac present
  (if found then (s.m_strMac.head?.map Mac.text).getD [] else [], s)

/-- `GetEncryptStr`; the MD5 object is built on whatever is in its memory. -/
def GetEncryptStr (memory : MD5) (present : List Adapter) (strInput : ByteText) (s : MyVerify) :
    Option (ByteText × MyVerify) :=
  let (strRet, s) :=
    if strInput.isEmpty then
      let (found, s) := s.GetLocoalIPandMac present
      (if found then (s.m_strMac.head?.map fun m => m.text ++ m_strFileName).getD [] else [], s)
    else (strInput ++ m_strFileName, s)
  if strRet.isEmpty then some (strRet, s)
  else do
    let md ← memory.reset.update strRet.cstr
    let (digits, _) ← md.toString
    some (.ofString digits, s)

/-- What `VerityExe` reads of a license file: `GetLength` is cut to 32 bits, and the buffer is
taken up to a zero byte. -/
def readLicense (content : ByteText) : ByteText :=
  ByteText.cstr (content.take (content.length % 2 ^ 32))

/-- `VerityExe`, with the license file if it can be opened. -/
def VerityExe (p : SqlText.CodePage) (memory : MD5) (present : List Adapter)
    (file : Option ByteText) (s : MyVerify) : Option (Bool × MyVerify) :=
  let (found, s) := s.GetLocoalIPandMac present
  if !found then some (false, s)
  else
    match file with
    | none => some (false, s)
    | some content =>
      if content.length % 2 ^ 32 = 0 then some (false, s)
      else do
        let retBool ← verityLoop (.viaCString p) (readLicense content).Trim s.m_strMac memory.reset
        some (retBool, s)

/-- What becomes of the license file when a code is accepted. -/
inductive FileRc where
  /-- `Open` fails -/
  | notOpened
  /-- `Write` throws and leaves something behind -/
  | thrown (left : ByteText)
  | written

/-- How a call ends. -/
inductive Answer where
  | returned (retBool : Bool)
  /-- a `CFileException` leaves the call -/
  | thrown
  deriving DecidableEq

/-- `WriteAndVerityExe`: its answer, the license file after it and the singleton. -/
def WriteAndVerityExe (memory : MD5) (present : List Adapter) (strVerity : ByteText) (rc : FileRc)
    (file : Option ByteText) (s : MyVerify) : Option (Answer × Option ByteText × MyVerify) :=
  let (found, s) := s.GetLocoalIPandMac present
  if !found then some (.returned false, file, s)
  else do
    let strMac := strVerity.Trim
    let retBool ← verityLoop .ofString strMac s.m_strMac memory.reset
    if !retBool then some (.returned false, file, s)
    else
      match rc with
      | .notOpened => some (.returned true, file, s)
      | .thrown left => some (.thrown, some left, s)
      | .written => some (.returned true, some strMac, s)

end MyVerify

/-! ## §4 The comparison -/

namespace ByteText

theorem cstr_eq_self {s : ByteText} (h : ∀ b ∈ s, b ≠ 0) : s.cstr = s := by
  rw [cstr, List.takeWhile_eq_self_iff]
  exact fun b hb => decide_eq_true (h b hb)

theorem ne_of_mem_cstr {s : ByteText} {b : Byte} (h : b ∈ s.cstr) : b ≠ 0 := by
  simpa using List.mem_takeWhile_imp h

/-- A zero byte is no space. -/
private theorem cstr_dropWhile (s : ByteText) :
    cstr (s.dropWhile isspace) = s.cstr.dropWhile isspace := by
  induction s with
  | nil => rfl
  | cons b s ih =>
    by_cases hspace : isspace b = true
    · have hne : b ≠ 0 := by
        rintro rfl
        exact absurd hspace (by decide)
      have hcons : cstr (b :: s) = b :: cstr s := List.takeWhile_cons_of_pos (by simpa using hne)
      rw [List.dropWhile_cons_of_pos hspace, ih, hcons, List.dropWhile_cons_of_pos hspace]
    · rw [List.dropWhile_cons_of_neg hspace, cstr, List.takeWhile_cons]
      split
      · rw [List.dropWhile_cons_of_neg hspace]
      · rfl

/-- **What `Trim` leaves, up to a zero byte**, is what the text has up to one, without the spaces
at its ends. -/
theorem cstr_Trim (s : ByteText) : s.Trim.cstr = s.cstr.strip := by
  have hkept : s.cstr.rdropWhile isspace <+: s.cstr := List.rdropWhile_prefix isspace _
  rw [Trim, trimLeft, cstr_dropWhile, strip, trimRight]
  split
  · rw [cstr_eq_self fun b hb => ne_of_mem_cstr (hkept.subset hb)]
  · -- there are no spaces before the zero byte
    rw [hkept.eq_of_length (by have hle := hkept.length_le; omega)]

/-- The digits of a digest are ASCII, and behind the spaces. -/
theorem hex_ascii (bytes : List Byte) :
    ∀ c ∈ (hex bytes).toList, 48 ≤ c.toNat ∧ c.toNat < 128 := by
  have hall : ∀ d < 16, 48 ≤ (Nat.digitChar d).toNat ∧ (Nat.digitChar d).toNat < 128 := by decide
  intro c hc
  rw [hex, String.toList_ofList, List.mem_flatMap] at hc
  obtain ⟨b, -, hc⟩ := hc
  have hlt : b.toNat < 2 ^ 8 := b.isLt
  rw [List.mem_cons, List.mem_singleton] at hc
  rcases hc with rfl | rfl
  · exact hall _ (by omega)
  · exact hall _ (by omega)

private theorem hex_bytes (bytes : List Byte) :
    ∀ b ∈ ofString (hex bytes), 48 ≤ b.toNat := by
  intro b hb
  obtain ⟨c, hc, rfl⟩ := List.mem_map.1 hb
  obtain ⟨hle, hlt⟩ := hex_ascii bytes c hc
  rwa [BitVec.toNat_ofNat, Nat.mod_eq_of_lt (by omega)]

theorem cstr_hex (bytes : List Byte) : cstr (.ofString (hex bytes)) = .ofString (hex bytes) := by
  apply cstr_eq_self
  rintro b hb rfl
  exact absurd (hex_bytes bytes _ hb) (by decide)

theorem strip_hex (bytes : List Byte) : strip (.ofString (hex bytes)) = .ofString (hex bytes) := by
  have hspace : ∀ b ∈ ofString (hex bytes), ¬isspace b = true := by
    intro b hb h
    have hle := hex_bytes bytes b hb
    simp only [isspace, Bool.or_eq_true, Bool.and_eq_true, decide_eq_true_eq, beq_iff_eq] at h
    omega
  have hright : (ofString (hex bytes)).rdropWhile isspace = ofString (hex bytes) :=
    List.rdropWhile_eq_self_iff.2 fun hne => hspace _ (List.getLast_mem hne)
  rw [strip, hright, List.dropWhile_eq_self_iff]
  exact fun hpos => hspace _ (List.getElem_mem hpos)

/-- The digits survive the way through a wide text. -/
theorem viaCString_hex (p : SqlText.CodePage) (bytes : List Byte) :
    viaCString p (hex bytes) = .ofString (hex bytes) := by
  have hascii : ∀ c ∈ (hex bytes).toList, c.toNat < 128 := fun c hc => (hex_ascii bytes c hc).2
  rw [viaCString, SqlText.CodePage.bytes_of_ascii hascii, SqlText.ascii_eq_map hascii,
    List.map_map]
  rfl

end ByteText

/-- The code of an address: the MD5 digest of the address and the file's name, in lower-case
hexadecimal digits. -/
def Mac.code (m : Mac) : ByteText :=
  .ofString (hex (Md5Standard.digest (m.text ++ m_strFileName)))

/-- The text is the code of one of the addresses. -/
def Registers (macs : List Mac) (text : ByteText) : Prop := ∃ m ∈ macs, m.code = text

instance (macs : List Mac) (text : ByteText) : Decidable (Registers macs text) :=
  inferInstanceAs (Decidable (∃ m ∈ macs, m.code = text))

theorem registers_append {macs macs' : List Mac} {text : ByteText} :
    Registers (macs ++ macs') text ↔ Registers macs text ∨ Registers macs' text := by
  simp only [Registers, List.mem_append, or_and_right, exists_or]

namespace MyVerify

/-- The digest of a short text, from an object that has been reset. -/
private theorem digest_text (memory : MD5) {text : ByteText} (hne : ∀ b ∈ text, b ≠ 0)
    (hlen : text.length ≤ 100) :
    ∃ md md', memory.reset.update text.cstr = some md ∧
      md.toString = some (hex (Md5Standard.digest text), md') := by
  have hshort : ∀ s ∈ [text], s.length < 2 ^ 32 - 64 := by
    intro s hs
    rw [List.mem_singleton.1 hs]
    omega
  obtain ⟨md', h⟩ := MD5.toString_digest memory hshort
  rw [List.foldlM_cons, List.flatten_singleton, Option.bind_eq_bind, Option.bind_assoc,
    Option.bind_eq_some_iff] at h
  obtain ⟨md, hupdate, h⟩ := h
  rw [ByteText.cstr_eq_self hne]
  exact ⟨md, md', hupdate, h⟩

private theorem licenseText_ne (m : Mac) : ∀ b ∈ m.text ++ m_strFileName, b ≠ 0 := by
  intro b hb
  rcases List.mem_append.1 hb with hb | hb
  · exact m.noNul b hb
  · have hall : ∀ b ∈ m_strFileName, b ≠ 0 := by decide +kernel
    exact hall b hb

private theorem length_licenseText (m : Mac) : (m.text ++ m_strFileName).length ≤ 100 := by
  have hname : m_strFileName.length = 11 := by decide +kernel
  have hshort := m.short
  rw [List.length_append]
  omega

/-- **The loop compares the text with the code of every address.** -/
theorem verityLoop_eq {narrow : String → ByteText}
    (hnarrow : ∀ bytes, narrow (hex bytes) = .ofString (hex bytes)) (strMac : ByteText)
    (macs : List Mac) (memory : MD5) :
    verityLoop narrow strMac macs memory.reset = some (decide (Registers macs strMac.cstr)) := by
  induction macs generalizing memory with
  | nil => simp [verityLoop, Registers]
  | cons mac macs ih =>
    obtain ⟨md, md', hupdate, hdigest⟩ :=
      digest_text memory (licenseText_ne mac) (length_licenseText mac)
    rw [verityLoop, hupdate, Option.bind_eq_bind, Option.bind_some, hdigest, Option.bind_eq_bind,
      Option.bind_some]
    dsimp only
    rw [hnarrow, ih, ByteText.same, ByteText.cstr_hex, ← Mac.code]
    by_cases hcode : mac.code = strMac.cstr
    · rw [if_pos (beq_iff_eq.2 hcode)]
      simp [Registers, hcode]
    · -- the object is reset, and the next address is compared
      rw [if_neg fun h => hcode (beq_iff_eq.1 h)]
      congr 2
      simp [Registers, hcode]

/-! ## §5 What each call answers -/

/-- The addresses `m_strMac` has once a call has looked at the adapters. -/
def known (s : MyVerify) (present : List Adapter) : List Mac :=
  s.m_strMac ++ present.map Adapter.mac

/-- What `WriteAndVerityExe` leaves when the code is accepted. -/
def FileRc.outcome (rc : FileRc) (strMac : ByteText) (file : Option ByteText) :
    Answer × Option ByteText :=
  match rc with
  | .notOpened => (.returned true, file)
  | .thrown left => (.thrown, some left)
  | .written => (.returned true, some strMac)

private theorem code_ne_nil (m : Mac) : m.code ≠ [] := by
  have hlen : (Md5Standard.digest (m.text ++ m_strFileName)).length = 16 := by
    simp [Md5Standard.digest, Md5Standard.lowBytes]
  rw [Mac.code, hex, ByteText.ofString, String.toList_ofList]
  cases hdigest : Md5Standard.digest (m.text ++ m_strFileName) with
  | nil => simp [hdigest] at hlen
  | cons b bytes => simp

private theorem GetLocoalIPandMac_eq (present : List Adapter) (s : MyVerify) :
    s.GetLocoalIPandMac present = (!present.isEmpty, ⟨s.known present⟩) := rfl

private theorem strip_readLicense (content : ByteText) :
    (readLicense content).Trim.cstr = (readLicense content).strip := by
  have hread : (readLicense content).cstr = readLicense content :=
    ByteText.cstr_eq_self fun b hb => ByteText.ne_of_mem_cstr hb
  rw [ByteText.cstr_Trim, hread]

/-- `VerityExe` compares what it reads with the code of every address it knows. -/
theorem VerityExe_eq (p : SqlText.CodePage) (memory : MD5) (present : List Adapter)
    (file : Option ByteText) (s : MyVerify) :
    ∃ retBool, VerityExe p memory present file s = some (retBool, ⟨s.known present⟩) ∧
      (retBool = true ↔ present ≠ [] ∧ ∃ content, file = some content ∧
        Registers (s.known present) (readLicense content).strip) := by
  rw [VerityExe, GetLocoalIPandMac_eq]
  dsimp only
  cases present with
  | nil => exact ⟨false, rfl, by simp⟩
  | cons a present =>
    rw [List.isEmpty_cons, Bool.not_false, Bool.not_true, if_neg Bool.false_ne_true]
    cases file with
    | none => exact ⟨false, rfl, by simp⟩
    | some content =>
      dsimp only
      by_cases hlen : content.length % 2 ^ 32 = 0
      · -- nothing is read, and no code is empty
        rw [if_pos hlen]
        refine ⟨false, rfl, ?_⟩
        have hread : (readLicense content).strip = [] := by
          rw [readLicense, hlen, List.take_zero]
          rfl
        simp [hread, Registers, code_ne_nil]
      · rw [if_neg hlen, verityLoop_eq (ByteText.viaCString_hex p), strip_readLicense,
          Option.bind_eq_bind, Option.bind_some]
        exact ⟨_, rfl, by simp⟩

/-- `WriteAndVerityExe` compares the code with that of every address it knows. -/
theorem WriteAndVerityExe_eq (memory : MD5) (present : List Adapter) (strVerity : ByteText)
    (rc : FileRc) (file : Option ByteText) (s : MyVerify) :
    WriteAndVerityExe memory present strVerity rc file s =
      if present ≠ [] ∧ Registers (s.known present) strVerity.cstr.strip then
        some ((rc.outcome strVerity.Trim file).1, (rc.outcome strVerity.Trim file).2,
          ⟨s.known present⟩)
      else some (.returned false, file, ⟨s.known present⟩) := by
  rw [WriteAndVerityExe, GetLocoalIPandMac_eq]
  dsimp only
  cases present with
  | nil => rfl
  | cons a present =>
    rw [List.isEmpty_cons, Bool.not_false, Bool.not_true, if_neg Bool.false_ne_true,
      verityLoop_eq fun _ => rfl, ByteText.cstr_Trim, Option.bind_eq_bind, Option.bind_some]
    by_cases hcode : Registers (s.known (a :: present)) strVerity.cstr.strip
    · rw [decide_eq_true hcode, Bool.not_true, if_neg Bool.false_ne_true,
        if_pos ⟨List.cons_ne_nil _ _, hcode⟩]
      cases rc with
      | notOpened => rfl
      | thrown left => rfl
      | written => rfl
    · rw [decide_eq_false hcode, Bool.not_false, if_pos rfl]
      exact (if_neg fun h => hcode h.2).symm

/-! ## §6 Which codes are accepted -/

/-- A call of a run, with the adapters that are there and what it finds or gets. -/
inductive Call where
  | VerityExe (memory : MD5) (present : List Adapter) (file : Option ByteText)
  | WriteAndVerityExe (memory : MD5) (present : List Adapter) (strVerity : ByteText) (rc : FileRc)
      (file : Option ByteText)
  | ReturnPcMac (present : List Adapter)

/-- The adapters a call sees. -/
def Call.present : Call → List Adapter
  | .VerityExe _ present _ => present
  | .WriteAndVerityExe _ present _ _ _ => present
  | .ReturnPcMac present => present

/-- A call of a run; `ReturnPcMac` verifies nothing. -/
def Call.run (p : SqlText.CodePage) (s : MyVerify) : Call → Option (Answer × MyVerify)
  | .VerityExe memory present file => do
    let (retBool, s) ← MyVerify.VerityExe p memory present file s
    some (.returned retBool, s)
  | .WriteAndVerityExe memory present strVerity rc file => do
    let (answer, _, s) ← MyVerify.WriteAndVerityExe memory present strVerity rc file s
    some (answer, s)
  | .ReturnPcMac present => some (.returned false, (s.ReturnPcMac present).2)

/-- A run of calls. -/
def exec (p : SqlText.CodePage) (s : MyVerify) : List Call → Option MyVerify
  | [] => some s
  | c :: calls => do
    let (_, s) ← c.run p s
    exec p s calls

/-- The addresses of the adapters that calls have seen. -/
def seen (calls : List Call) : List Mac := calls.flatMap fun c => c.present.map Adapter.mac

/-- The call accepts exactly the codes of the addresses it sees: of the license file's content, or
of the code it is given, without the spaces at the ends. -/
def Call.Exact (answer : Answer) : Call → Prop
  | .VerityExe _ present file =>
    answer = .returned true ↔
      ∃ content, file = some content ∧ Registers (present.map Adapter.mac) content.strip
  | .WriteAndVerityExe _ present strVerity _ _ =>
    answer ≠ .returned false ↔ Registers (present.map Adapter.mac) strVerity.strip
  | .ReturnPcMac _ => True

/-- What a call compares with the codes: the file's content up to a zero byte, of as many bytes as
its length has modulo `2 ^ 32`, or the code it is given up to a zero byte. -/
def Call.compared : Call → Option ByteText
  | .VerityExe _ _ file => file.map fun content => (readLicense content).strip
  | .WriteAndVerityExe _ _ strVerity _ _ => some strVerity.cstr.strip
  | .ReturnPcMac _ => none

/-- The text as a whole. -/
def Call.text : Call → Option ByteText
  | .VerityExe _ _ file => file.map ByteText.strip
  | .WriteAndVerityExe _ _ strVerity _ _ => some strVerity.strip
  | .ReturnPcMac _ => none

/-- The call is not misled: the text it compares is not the code of an address that only an
earlier call has seen, and if it is not all of the text, the rest makes no difference. -/
def Call.Undisturbed (earlier : List Mac) (c : Call) : Prop :=
  ∀ compared text, c.compared = some compared → c.text = some text →
    let now := c.present.map Adapter.mac
    (Registers earlier compared → Registers now text) ∧
      (compared ≠ text → (Registers now compared → Registers now text) ∧
        (Registers now text → Registers (earlier ++ now) compared))

/-- A license file without a zero byte and shorter than 4 GiB is compared as it is, and then only
an address that is no longer there can mislead the call. -/
theorem undisturbed_iff_of_whole {earlier : List Mac} {memory : MD5} {present : List Adapter}
    {content : ByteText} (hne : ∀ b ∈ content, b ≠ 0) (hlen : content.length < 2 ^ 32) :
    (Call.VerityExe memory present (some content)).Undisturbed earlier ↔
      (Registers earlier content.strip →
        Registers (present.map Adapter.mac) content.strip) := by
  have hread : readLicense content = content := by
    rw [readLicense, Nat.mod_eq_of_lt hlen, List.take_length, ByteText.cstr_eq_self hne]
  simp [Call.Undisturbed, Call.compared, Call.text, Call.present, hread]

/-- Every call adds the addresses it sees. -/
private theorem run_known (p : SqlText.CodePage) (s : MyVerify) (c : Call) :
    ∃ answer, c.run p s = some (answer, ⟨s.known c.present⟩) := by
  cases c with
  | VerityExe memory present file =>
    obtain ⟨retBool, h, -⟩ := VerityExe_eq p memory present file s
    exact ⟨.returned retBool, by rw [Call.run, h]; rfl⟩
  | WriteAndVerityExe memory present strVerity rc file =>
    rw [Call.run, WriteAndVerityExe_eq]
    split
    · exact ⟨_, rfl⟩
    · exact ⟨_, rfl⟩
  | ReturnPcMac present => exact ⟨_, rfl⟩

/-- **After a run** the singleton has the addresses of all adapters that were seen. -/
theorem exec_eq (p : SqlText.CodePage) (s : MyVerify) (calls : List Call) :
    exec p s calls = some ⟨s.m_strMac ++ seen calls⟩ := by
  induction calls generalizing s with
  | nil => simp [exec, seen]
  | cons c calls ih =>
    obtain ⟨answer, h⟩ := run_known p s c
    rw [exec, h, Option.bind_eq_bind, Option.bind_some]
    dsimp only
    rw [ih]
    simp [known, seen, List.append_assoc]

/-- The condition is that the two comparisons agree. -/
private theorem comparisons_agree_iff {earlier now : List Mac} {compared text : ByteText} :
    (Registers (earlier ++ now) compared ↔ Registers now text) ↔
      (Registers earlier compared → Registers now text) ∧
        (compared ≠ text → (Registers now compared → Registers now text) ∧
          (Registers now text → Registers (earlier ++ now) compared)) := by
  rw [registers_append]
  by_cases hsame : compared = text
  · subst hsame
    tauto
  · tauto

/-- One call, by the addresses the singleton has before it. -/
private theorem exact_iff (p : SqlText.CodePage) (earlier : List Mac) (c : Call)
    (hpresent : c.present ≠ []) :
    ∃ answer s', c.run p ⟨earlier⟩ = some (answer, s') ∧
      (c.Exact answer ↔ c.Undisturbed earlier) := by
  cases c with
  | VerityExe memory present file =>
    obtain ⟨retBool, h, hret⟩ := VerityExe_eq p memory present file ⟨earlier⟩
    refine ⟨.returned retBool, ⟨known ⟨earlier⟩ present⟩, by rw [Call.run, h]; rfl, ?_⟩
    change present ≠ [] at hpresent
    simp only [hpresent, ne_eq, not_false_eq_true, true_and] at hret
    rw [Call.Exact, Answer.returned.injEq, hret]
    cases file with
    | none => simp [Call.Undisturbed, Call.compared]
    | some content =>
      simp only [Option.some.injEq, exists_eq_left']
      exact comparisons_agree_iff.trans (by simp [Call.Undisturbed, Call.compared, Call.text,
        Call.present])
  | WriteAndVerityExe memory present strVerity rc file =>
    change present ≠ [] at hpresent
    -- what becomes of the file is no matter of the code
    have hanswer : ∃ answer s', Call.run p ⟨earlier⟩
        (.WriteAndVerityExe memory present strVerity rc file) = some (answer, s') ∧
        (answer ≠ .returned false ↔ Registers (known ⟨earlier⟩ present) strVerity.cstr.strip) := by
      rw [Call.run, WriteAndVerityExe_eq]
      by_cases hcode : Registers (known ⟨earlier⟩ present) strVerity.cstr.strip
      · rw [if_pos ⟨hpresent, hcode⟩]
        refine ⟨_, _, rfl, ?_⟩
        cases rc with
        | notOpened => simpa [FileRc.outcome] using hcode
        | thrown left => simpa [FileRc.outcome] using hcode
        | written => simpa [FileRc.outcome] using hcode
      · rw [if_neg fun h => hcode h.2]
        exact ⟨_, _, rfl, by simpa using hcode⟩
    obtain ⟨answer, s', hrun, hanswer⟩ := hanswer
    refine ⟨answer, s', hrun, ?_⟩
    rw [Call.Exact, hanswer]
    exact comparisons_agree_iff.trans (by simp [Call.Undisturbed, Call.compared, Call.text,
      Call.present])
  | ReturnPcMac present =>
    exact ⟨.returned false, _, rfl, by simp [Call.Exact, Call.Undisturbed, Call.compared]⟩

/-- **The calls of a run accept exactly the codes of the addresses they see** if they are
undisturbed: by the addresses that earlier calls have left in `m_strMac`, and by a zero byte or a
length of 32 bits and more. -/
theorem accepts_exactly_iff (p : SqlText.CodePage) (earlier : List Call) (c : Call)
    (hpresent : c.present ≠ []) :
    ∃ s answer s', exec p ⟨[]⟩ earlier = some s ∧ c.run p s = some (answer, s') ∧
      (c.Exact answer ↔ c.Undisturbed (seen earlier)) := by
  obtain ⟨answer, s', hrun, hexact⟩ := exact_iff p (seen earlier) c hpresent
  exact ⟨⟨seen earlier⟩, answer, s', exec_eq p ⟨[]⟩ earlier, hrun, hexact⟩

/-- Two adapters. -/
def wired : Adapter := ⟨[0x00, 0x1A, 0x2B, 0x3C, 0x4D, 0x5E], by decide⟩

def wireless : Adapter := ⟨[0x00, 0x1A, 0x2B, 0x3C, 0x4D, 0x5F], by decide⟩

/-- Memory in which an object is built. -/
def zeroMemory : MD5 := ⟨.replicate 4 0, .replicate 2 0, .replicate 64 0, [], false⟩

/-- A run that shows the wired adapter, and registers the wireless one when both are there. -/
def registering : List Call :=
  [.ReturnPcMac [wired],
    .WriteAndVerityExe zeroMemory [wired, wireless] wireless.mac.code .written none]

/-- Then the file has the code of the wireless adapter, and again both are there. -/
theorem accepts_exactly_wireless : ∃ s answer s', exec page936 ⟨[]⟩ registering = some s ∧
    (Call.VerityExe zeroMemory [wired, wireless] (some wireless.mac.code)).run page936 s =
      some (answer, s') ∧
    ((Call.VerityExe zeroMemory [wired, wireless] (some wireless.mac.code)).Exact answer ↔
      (Call.VerityExe zeroMemory [wired, wireless] (some wireless.mac.code)).Undisturbed
        (seen registering)) :=
  accepts_exactly_iff page936 registering _ (List.cons_ne_nil _ _)

/-- The license of an adapter that was there at an earlier call is accepted without it. -/
theorem removed_adapter_accepted : ¬∀ (p : SqlText.CodePage) (earlier : List Call) (c : Call)
    (s : MyVerify) (answer : Answer) (s' : MyVerify), c.present ≠ [] →
      exec p ⟨[]⟩ earlier = some s → c.run p s = some (answer, s') → c.Exact answer := by
  intro h
  have hpresent : (Call.VerityExe zeroMemory [wireless] (some wired.mac.code)).present ≠ [] :=
    List.cons_ne_nil _ _
  obtain ⟨answer, s', hrun, hexact⟩ := exact_iff page936 [wired.mac] _ hpresent
  have hundisturbed := hexact.1 (h page936 [.ReturnPcMac [wired]] _ _ answer s' hpresent rfl hrun)
  have haccepted := (hundisturbed _ _ rfl rfl).1 (by decide +kernel)
  exact absurd haccepted (by decide +kernel)

/-! ## §7 Registering -/

/-- A `CStringA`, whose length is an `int`. -/
abbrev CStringText := {s : ByteText // s.length < 2 ^ 31}

/-- Where `WriteAndVerityExe` returns `TRUE`, `VerityExe` does so next. -/
def RoundTrip (p : SqlText.CodePage) (memory memory' : MD5) (present : List Adapter)
    (strVerity : CStringText) (rc : FileRc) (file : Option ByteText) (s : MyVerify) : Prop :=
  ∀ file' s', WriteAndVerityExe memory present strVerity rc file s =
      some (.returned true, file', s') →
    ∃ s'', VerityExe p memory' present file' s' = some (true, s'')

/-- `WriteAndVerityExe` returns `TRUE` for what `GetEncryptStr` makes of the address of any
adapter that is there. -/
def AcceptsOwn (memory memory' : MD5) (present : List Adapter) (rc : FileRc)
    (file : Option ByteText) (s : MyVerify) : Prop :=
  ∀ a ∈ present, ∃ code s₁ file' s₂,
    GetEncryptStr memory present a.mac.text s = some (code, s₁) ∧
      WriteAndVerityExe memory' present code rc file s₁ = some (.returned true, file', s₂)

/-- The code is written, or it is refused, or the file that is there holds a code of a known
address. -/
def FileServes (present : List Adapter) (strVerity : CStringText) (rc : FileRc)
    (file : Option ByteText) (s : MyVerify) : Prop :=
  match rc with
  | .written => True
  | .thrown _ => False
  | .notOpened => Registers (s.known present) (ByteText.cstr strVerity).strip →
      ∃ content, file = some content ∧ Registers (s.known present) (readLicense content).strip

private theorem code_strip (m : Mac) : m.code.cstr.strip = m.code := by
  rw [Mac.code, ByteText.cstr_hex, ByteText.strip_hex]

/-- `GetEncryptStr` gives the code of a known address; the first one, if the address is empty. -/
private theorem GetEncryptStr_eq (memory : MD5) {present : List Adapter} {a : Adapter}
    (ha : a ∈ present) (s : MyVerify) :
    ∃ m s₁, GetEncryptStr memory present a.mac.text s = some (m.code, s₁) ∧
      m ∈ s₁.known present := by
  have hdigest : ∀ m : Mac, ∀ s₁ : MyVerify,
      (if (m.text ++ m_strFileName).isEmpty then some (m.text ++ m_strFileName, s₁)
      else do
        let md ← memory.reset.update (ByteText.cstr (m.text ++ m_strFileName))
        let (digits, _) ← md.toString
        some (.ofString digits, s₁)) = some (m.code, s₁) := by
    intro m s₁
    obtain ⟨md, md', hupdate, htoString⟩ :=
      digest_text memory (licenseText_ne m) (length_licenseText m)
    have hne : (m.text ++ m_strFileName).isEmpty = false := by
      have hname : m_strFileName ≠ [] := by decide +kernel
      simp [hname]
    rw [hne, if_neg Bool.false_ne_true, hupdate, Option.bind_eq_bind, Option.bind_some, htoString]
    rfl
  unfold GetEncryptStr
  rw [GetLocoalIPandMac_eq]
  dsimp only
  cases hempty : a.mac.text.isEmpty with
  | true =>
    -- the first address known is taken
    have hfound : present.isEmpty = false := by
      cases present with
      | nil => cases ha
      | cons a present => rfl
    obtain ⟨m, rest, hknown⟩ : ∃ m rest, s.known present = m :: rest := by
      cases hknown : s.known present with
      | nil =>
        have hmem : a.mac ∈ s.known present := List.mem_append_right _ (List.mem_map_of_mem ha)
        rw [hknown] at hmem
        cases hmem
      | cons m rest => exact ⟨m, rest, rfl⟩
    rw [if_pos rfl, hfound, Bool.not_false, if_pos rfl, hknown, List.head?_cons, Option.map_some,
      Option.getD_some]
    exact ⟨m, _, hdigest m _, List.mem_append_left _ List.mem_cons_self⟩
  | false =>
    rw [if_neg Bool.false_ne_true]
    exact ⟨a.mac, s, hdigest a.mac s, List.mem_append_right _ (List.mem_map_of_mem ha)⟩

/-- The second call knows the same addresses, some twice. -/
private theorem registers_known_again {present : List Adapter} {s : MyVerify} {text : ByteText} :
    Registers (known ⟨s.known present⟩ present) text ↔ Registers (s.known present) text := by
  rw [known, known, registers_append, registers_append]
  tauto

private theorem acceptsOwn_iff {memory memory' : MD5} {present : List Adapter} {rc : FileRc}
    {file : Option ByteText} {s : MyVerify} (hpresent : present ≠ []) :
    AcceptsOwn memory memory' present rc file s ↔ ∀ left, rc ≠ .thrown left := by
  have haccepted : ∀ a ∈ present, ∃ (m : Mac) (s₁ : MyVerify),
      GetEncryptStr memory present a.mac.text s = some (m.code, s₁) ∧
      WriteAndVerityExe memory' present m.code rc file s₁ =
        some ((rc.outcome m.code.Trim file).1, (rc.outcome m.code.Trim file).2,
          ⟨s₁.known present⟩) := by
    intro a ha
    obtain ⟨m, s₁, hcode, hknown⟩ := GetEncryptStr_eq memory ha s
    refine ⟨m, s₁, hcode, ?_⟩
    rw [WriteAndVerityExe_eq, code_strip, if_pos ⟨hpresent, m, hknown, rfl⟩]
  constructor
  · rintro h left rfl
    obtain ⟨a, ha⟩ := List.exists_mem_of_ne_nil present hpresent
    obtain ⟨code, s₁, file', s₂, hcode, hwrite⟩ := h a ha
    obtain ⟨m, s₁', hcode', hwrite'⟩ := haccepted a ha
    -- the code is accepted, and then `Write` throws
    rw [hcode] at hcode'
    cases hcode'
    rw [hwrite'] at hwrite
    cases hwrite
  · intro h a ha
    obtain ⟨m, s₁, hcode, hwrite⟩ := haccepted a ha
    have hanswer : (rc.outcome m.code.Trim file).1 = .returned true := by
      cases rc with
      | notOpened => rfl
      | thrown left => exact absurd rfl (h left)
      | written => rfl
    rw [hanswer] at hwrite
    exact ⟨m.code, s₁, _, _, hcode, hwrite⟩

/-- `VerityExe` right after a call that has seen the same adapters. -/
private theorem verityExe_again_iff {p : SqlText.CodePage} {memory : MD5}
    {present : List Adapter} {file : Option ByteText} {s : MyVerify} (hpresent : present ≠ []) :
    (∃ s', VerityExe p memory present file ⟨s.known present⟩ = some (true, s')) ↔
      ∃ content, file = some content ∧
        Registers (s.known present) (readLicense content).strip := by
  obtain ⟨retBool, h, hret⟩ := VerityExe_eq p memory present file ⟨s.known present⟩
  simp only [registers_known_again, hpresent, ne_eq, not_false_eq_true, true_and] at hret
  rw [h, ← hret]
  simp

/-- A code that is written is read again. -/
private theorem registers_written {macs : List Mac} {strVerity : CStringText}
    (h : Registers macs (ByteText.cstr strVerity).strip) :
    Registers macs (readLicense (ByteText.Trim strVerity)).strip := by
  obtain ⟨m, hm, hcode⟩ := h
  have hshort := (ByteText.Trim_sublist strVerity).length_le
  have hlt : (ByteText.Trim strVerity).length < 2 ^ 32 := by
    have hint := strVerity.2
    omega
  have hread : readLicense (ByteText.Trim strVerity) = m.code := by
    rw [readLicense, Nat.mod_eq_of_lt hlt, List.take_length, ByteText.cstr_Trim, hcode]
  refine ⟨m, hm, ?_⟩
  rw [hread, Mac.code, ByteText.strip_hex]

private theorem roundTrip_iff {p : SqlText.CodePage} {memory memory' : MD5}
    {present : List Adapter} {strVerity : CStringText} {rc : FileRc} {file : Option ByteText}
    {s : MyVerify} (hpresent : present ≠ []) :
    RoundTrip p memory memory' present strVerity rc file s ↔
      ((∀ left, rc ≠ .thrown left) → FileServes present strVerity rc file s) := by
  unfold RoundTrip
  rw [WriteAndVerityExe_eq]
  by_cases hcode : Registers (s.known present) (ByteText.cstr strVerity).strip
  · rw [if_pos ⟨hpresent, hcode⟩]
    cases rc with
    | notOpened =>
      -- the file is the one that was there before
      constructor
      · intro h _ _
        exact (verityExe_again_iff hpresent).1 (h file _ rfl)
      · intro h file' s' heq
        cases heq
        exact (verityExe_again_iff hpresent).2 (h (fun _ hrc => nomatch hrc) hcode)
    | thrown left =>
      exact ⟨fun _ h => absurd rfl (h left), fun _ file' s' heq => nomatch heq⟩
    | written =>
      refine ⟨fun _ _ => trivial, fun _ file' s' heq => ?_⟩
      cases heq
      exact (verityExe_again_iff hpresent).2 ⟨_, rfl, registers_written hcode⟩
  · -- the code is refused
    rw [if_neg fun h => hcode h.2]
    refine ⟨fun _ h => ?_, fun _ file' s' heq => nomatch heq⟩
    cases rc with
    | notOpened => exact fun h' => absurd h' hcode
    | thrown left => exact absurd rfl (h left)
    | written => trivial

/-- **Registering lasts** if the license file is written, or is there with a code that serves; a
file that cannot be opened goes unnoticed. -/
theorem registration_iff (p : SqlText.CodePage) (memory memory' : MD5) (present : List Adapter)
    (strVerity : CStringText) (rc : FileRc) (file : Option ByteText) (s : MyVerify) :
    RoundTrip p memory memory' present strVerity rc file s ∧
        AcceptsOwn memory memory' present rc file s ↔
      present = [] ∨ FileServes present strVerity rc file s := by
  by_cases hpresent : present = []
  · subst hpresent
    -- without an adapter no code is accepted
    refine ⟨fun _ => .inl rfl, fun _ => ⟨fun file' s' h => ?_, fun a ha => ?_⟩⟩
    · rw [WriteAndVerityExe_eq, if_neg fun h => h.1 rfl] at h
      cases h
    · cases ha
  · rw [roundTrip_iff hpresent, acceptsOwn_iff hpresent, or_iff_right hpresent]
    cases rc with
    | notOpened => simp
    | thrown left => simp [FileServes]
    | written => simp [FileServes]

/-- Without a license file that can be opened, no code lasts. -/
private theorem not_roundTrip (p : SqlText.CodePage) (memory memory' : MD5) (a : Adapter)
    (hlen : a.mac.code.length < 2 ^ 31) :
    ¬RoundTrip p memory memory' [a] ⟨a.mac.code, hlen⟩ .notOpened none ⟨[]⟩ := by
  intro h
  have hserves := (roundTrip_iff (List.cons_ne_nil a [])).1 h fun _ hrc => nomatch hrc
  have hcode : Registers (known ⟨[]⟩ [a]) a.mac.code.cstr.strip := by
    rw [code_strip]
    exact ⟨a.mac, List.mem_cons_self, rfl⟩
  obtain ⟨content, hfile, -⟩ := hserves hcode
  cases hfile

/-- The file cannot be opened: the code is accepted, and there is no license. -/
theorem registration_lost : ¬∀ (p : SqlText.CodePage) (memory memory' : MD5)
    (present : List Adapter) (strVerity : CStringText) (rc : FileRc) (file : Option ByteText)
    (s : MyVerify), RoundTrip p memory memory' present strVerity rc file s ∧
      AcceptsOwn memory memory' present rc file s := by
  intro h
  have hlen : wired.mac.code.length < 2 ^ 31 := by
    have hdigits : wired.mac.code.length = 32 := by decide +kernel
    omega
  exact not_roundTrip page936 zeroMemory zeroMemory wired hlen
    (h page936 zeroMemory zeroMemory [wired] ⟨_, hlen⟩ .notOpened none ⟨[]⟩).1

end MyVerify

end MtpSync
