import Mathlib.Data.List.Perm.Subperm

/-!
# Traversing a directory

`CLogRecord::TraverseDir`, of which `CpublicFun` has a copy.  It asks `FindNextFile` for the next
entry and looks at that entry only if more follow: `FindNextFile` loads an entry and says whether
there is another one behind it.  So the last entry of every directory is left out, and with a
directory everything below it.

- §1 directories
- §2 `TraverseDir`
- §3 what is found
- §4 when everything is found
-/

namespace MtpSync

/-! ## §1 Directories -/

/-- A path or a file name: the characters of a `CString`. -/
abbrev Path := List Char

/-- The entries of a directory, in the order `CFileFind` delivers them. -/
inductive Listing where
  | nil
  /-- `.` or `..` -/
  | dots (rest : Listing)
  /-- a regular file -/
  | file (name : Path) (rest : Listing)
  /-- a directory and its own entries -/
  | dir (name : Path) (entries : Listing) (rest : Listing)

/-- `if (dir.Right(1) != "\\") dir += "\\"`. -/
def withSeparator (dir : Path) : Path :=
  if dir.getLast? = some '\\' then dir else dir ++ ['\\']

/-- `GetFilePath`. -/
def filePath (dir name : Path) : Path := withSeparator dir ++ name

namespace Listing

def isNil : Listing → Bool
  | nil => true
  | _ => false

/-- What `FindNextFile` returns when `rest` is behind the entry it loads. -/
def findNextFile (rest : Listing) : Bool := !rest.isNil

/-! ## §2 `TraverseDir` -/

/-- `CLogRecord::TraverseDir`: the loop over the entries of `dir`, each with `vec` as it stands. -/
def traverseDir (dir : Path) (vec : List Path) : Listing → List Path
  | nil => vec
  | dots rest => if rest.findNextFile then traverseDir dir vec rest else vec
  | file name rest =>
    if rest.findNextFile then traverseDir dir (vec ++ [filePath dir name]) rest else vec
  | Listing.dir name entries rest =>
    if rest.findNextFile then
      traverseDir dir (traverseDir (filePath dir name) vec entries) rest
    else vec

/-- `CpublicFun::TraverseDir`. -/
def publicTraverseDir (dir : Path) (vec : List Path) (entries : Listing) : List Path :=
  entries.traverseDir dir vec

/-- The regular files of a tree. -/
def files (dir : Path) : Listing → List Path
  | nil => []
  | dots rest => rest.files dir
  | file name rest => filePath dir name :: rest.files dir
  | Listing.dir name entries rest => entries.files (filePath dir name) ++ rest.files dir

/-- `vec` is extended by every regular file of the tree, once, and by nothing else. -/
def AppendsFiles (entries : Listing) (dir : Path) (vec vec' : List Path) : Prop :=
  ∃ found, vec' = vec ++ found ∧ found.Perm (entries.files dir)

/-! ## §3 What is found -/

/-- The files `TraverseDir` comes to. -/
def found (dir : Path) : Listing → List Path
  | nil => []
  | dots rest => rest.found dir
  | file name rest => if rest.isNil then [] else filePath dir name :: rest.found dir
  | Listing.dir name entries rest =>
    if rest.isNil then [] else entries.found (filePath dir name) ++ rest.found dir

theorem found_of_isNil {rest : Listing} (h : rest.isNil = true) (dir : Path) :
    rest.found dir = [] := by
  cases rest with
  | nil => rfl
  | dots _ => cases h
  | file _ _ => cases h
  | dir _ _ _ => cases h

/-- They are appended. -/
theorem traverseDir_eq (entries : Listing) (dir : Path) (vec : List Path) :
    entries.traverseDir dir vec = vec ++ entries.found dir := by
  induction entries generalizing dir vec with
  | nil => simp [traverseDir, found]
  | dots rest ih =>
    rw [traverseDir, found, findNextFile]
    cases hnil : rest.isNil with
    | true => simp [found_of_isNil hnil]
    | false => simpa using ih dir vec
  | file name rest ih =>
    rw [traverseDir, found, findNextFile]
    -- a file is looked at if more entries follow
    cases hnil : rest.isNil with
    | true => simp
    | false => simp [ih]
  | dir name entries rest ihentries ihrest =>
    rw [traverseDir, found, findNextFile]
    -- so is a directory, and then everything it leads to
    cases hnil : rest.isNil with
    | true => simp
    | false => simp [ihentries, ihrest]

/-- Nothing but files of the tree is found. -/
theorem found_sublist (entries : Listing) (dir : Path) :
    (entries.found dir).Sublist (entries.files dir) := by
  induction entries generalizing dir with
  | nil => exact List.Sublist.refl []
  | dots rest ih => exact ih dir
  | file name rest ih =>
    rw [found, files]
    split
    · exact List.nil_sublist _
    · exact (ih dir).cons_cons _
  | dir name entries rest ihentries ihrest =>
    rw [found, files]
    split
    · -- the directory is the last entry and is not entered
      exact List.nil_sublist _
    · exact (ihentries _).append (ihrest dir)

theorem appendsFiles_iff (entries : Listing) (dir : Path) (vec : List Path) :
    entries.AppendsFiles dir vec (entries.traverseDir dir vec) ↔
      entries.found dir = entries.files dir := by
  rw [AppendsFiles, traverseDir_eq]
  constructor
  · rintro ⟨found', heq, hperm⟩
    rw [← List.append_cancel_left heq] at hperm
    exact (entries.found_sublist dir).eq_of_length hperm.length_eq
  · exact fun h => ⟨_, rfl, h ▸ List.Perm.refl _⟩

/-! ## §4 When everything is found -/

/-- There is a regular file in the directory or below it. -/
def holdsFile : Listing → Bool
  | nil => false
  | dots rest => rest.holdsFile
  | file _ _ => true
  | Listing.dir _ entries rest => entries.holdsFile || rest.holdsFile

/-- The last entry of the directory is a regular file, or a directory with one in it or below. -/
def lastHoldsFile : Listing → Bool
  | nil => false
  | dots rest => rest.lastHoldsFile
  | file _ rest => rest.isNil || rest.lastHoldsFile
  | Listing.dir _ entries rest => (rest.isNil && entries.holdsFile) || rest.lastHoldsFile

/-- The directories below a directory. -/
def subdirs : Listing → List Listing
  | nil => []
  | dots rest => rest.subdirs
  | file _ rest => rest.subdirs
  | Listing.dir _ entries rest => (entries :: entries.subdirs) ++ rest.subdirs

theorem files_eq_nil_iff (entries : Listing) (dir : Path) :
    entries.files dir = [] ↔ entries.holdsFile = false := by
  induction entries generalizing dir with
  | nil => simp [files, holdsFile]
  | dots rest ih => exact ih dir
  | file name rest _ => simp [files, holdsFile]
  | dir name entries rest ihentries ihrest => simp [files, holdsFile, ihentries, ihrest]

/-- A directory without a regular file in it or below has none below either. -/
theorem lastHoldsFile_of_not_holdsFile {entries : Listing} (h : entries.holdsFile = false) :
    ∀ l ∈ entries :: entries.subdirs, l.lastHoldsFile = false := by
  induction entries with
  | nil => simp [subdirs, lastHoldsFile]
  | dots rest ih => simpa [subdirs, lastHoldsFile] using ih h
  | file name rest _ => cases h
  | dir name entries rest ihentries ihrest =>
    rw [holdsFile, Bool.or_eq_false_iff] at h
    have hentries := ihentries h.1
    have hrest := ihrest h.2
    simp only [List.mem_cons, forall_eq_or_imp] at hentries hrest
    simp only [subdirs, lastHoldsFile, List.mem_cons, List.mem_append, forall_eq_or_imp, h.1,
      Bool.and_false, Bool.false_or]
    -- a directory below is this one, below this one, or below the rest
    refine ⟨hrest.1, fun l hl => ?_⟩
    rcases hl with (rfl | hl) | hl
    · exact hentries.1
    · exact hentries.2 l hl
    · exact hrest.2 l hl

/-- What is found is everything if no directory ends with what holds a file. -/
theorem found_eq_files_iff (entries : Listing) (dir : Path) :
    entries.found dir = entries.files dir ↔
      ∀ l ∈ entries :: entries.subdirs, l.lastHoldsFile = false := by
  induction entries generalizing dir with
  | nil => simp [found, files, subdirs, lastHoldsFile]
  | dots rest ih => simpa [found, files, subdirs, lastHoldsFile] using ih dir
  | file name rest ih =>
    rw [found, files]
    cases hnil : rest.isNil with
    | true => simp [lastHoldsFile, hnil]
    | false => simpa [subdirs, lastHoldsFile, hnil] using ih dir
  | dir name entries rest ihentries ihrest =>
    rw [found, files]
    cases hnil : rest.isNil with
    | true =>
      -- the directory is the last entry, and its files are lost
      have hrest : rest = nil := by
        cases rest with
        | nil => rfl
        | dots _ => cases hnil
        | file _ _ => cases hnil
        | dir _ _ _ => cases hnil
      subst hrest
      have hfiles := entries.files_eq_nil_iff (filePath dir name)
      have hlast := @lastHoldsFile_of_not_holdsFile entries
      simp only [if_true, files, List.append_nil, subdirs, lastHoldsFile, isNil, Bool.true_and,
        Bool.or_false, List.mem_cons, forall_eq_or_imp] at hlast ⊢
      rw [eq_comm, hfiles]
      exact ⟨fun h => ⟨h, hlast h⟩, fun h => h.1⟩
    | false =>
      have hsplit : entries.found (filePath dir name) ++ rest.found dir =
          entries.files (filePath dir name) ++ rest.files dir ↔
          entries.found (filePath dir name) = entries.files (filePath dir name) ∧
            rest.found dir = rest.files dir := by
        constructor
        · intro h
          -- neither part is longer than the files it comes from
          have hlen := congrArg List.length h
          rw [List.length_append, List.length_append] at hlen
          have hentries := (entries.found_sublist (filePath dir name)).length_le
          have hrest := (rest.found_sublist dir).length_le
          exact ⟨(entries.found_sublist _).eq_of_length (by omega),
            (rest.found_sublist dir).eq_of_length (by omega)⟩
        · rintro ⟨hentries, hrest⟩
          rw [hentries, hrest]
      rw [if_neg (by decide), hsplit, ihentries, ihrest]
      simp only [subdirs, lastHoldsFile, hnil, Bool.false_and, Bool.false_or, List.mem_cons,
        List.mem_append, forall_eq_or_imp]
      constructor
      · rintro ⟨⟨hentries, hbelow⟩, hrest, hrestBelow⟩
        refine ⟨hrest, fun l hl => ?_⟩
        rcases hl with (rfl | hl) | hl
        · exact hentries
        · exact hbelow l hl
        · exact hrestBelow l hl
      · rintro ⟨hrest, hall⟩
        exact ⟨⟨hall _ (.inl (.inl rfl)), fun l hl => hall l (.inl (.inr hl))⟩, hrest,
          fun l hl => hall l (.inr hl)⟩

/-- **`TraverseDir` finds every file** if in no directory of the tree the last entry is a regular
file or a directory with one in it or below; both copies do. -/
theorem traverseDir_complete_iff (entries : Listing) (dir : Path) (vec : List Path) :
    entries.AppendsFiles dir vec (entries.traverseDir dir vec) ∧
        entries.AppendsFiles dir vec (entries.publicTraverseDir dir vec) ↔
      ∀ l ∈ entries :: entries.subdirs, l.lastHoldsFile = false := by
  have hfound := (entries.appendsFiles_iff dir vec).trans (entries.found_eq_files_iff dir)
  exact ⟨fun h => hfound.1 h.1, fun h => ⟨hfound.2 h, hfound.2 h⟩⟩

/-- A directory with one file. -/
def oneFile : Listing := dots (dots (file ['a'] nil))

/-- The file is not found. -/
theorem last_file_lost : ¬oneFile.AppendsFiles ['d'] [] (oneFile.traverseDir ['d'] []) := by
  rw [appendsFiles_iff]
  decide

end Listing

end MtpSync
