import Mathlib.Data.List.Nodup
import MtpSync.Content.Enumeration

/-!
# Following the phone path

`BeginPhoneToPc` and `BeginRebackData` take the path of the database on the phone apart and follow
it: the first name is searched for on the whole phone, the second with `.db` below what was found,
and every further one without it.  Only a path of two names is read this way; at the third the
second name has already been taken for the file.

- §1 the path
- §2 the phone
- §3 the loop
- §4 what the loop finds
- §5 when it finds the database
-/

namespace MtpSync

open Act

/-! ## §1 The path -/

/-- `MyStringSplit` with `left` in front of the part still to be searched for `division`. -/
def splitFrom (division : Char) (left : Path) : Path → List Path
  | [] => [left]
  | c :: rest =>
    if c = division then left :: if rest = [] then [] else splitFrom division [] rest
    else splitFrom division (left ++ [c]) rest

/-- `MyStringSplit`, what it adds to `dest`. -/
def myStringSplit (source : Path) (division : Char) : List Path :=
  if source = [] then [] else splitFrom division [] source

/-- The names of a path with the separator between them. -/
def joinPath (division : Char) : List Path → Path
  | [] => []
  | [name] => name
  | name :: rest => name ++ division :: joinPath division rest

private theorem splitFrom_append {division : Char} {name : Path} (h : division ∉ name)
    (left rest : Path) :
    splitFrom division left (name ++ rest) = splitFrom division (left ++ name) rest := by
  induction name generalizing left with
  | nil => simp
  | cons c name ih =>
    rw [List.mem_cons, not_or] at h
    rw [List.cons_append, splitFrom, if_neg (Ne.symm h.1), ih h.2]
    simp

theorem joinPath_ne_nil {division : Char} {names : List Path} (hne : names ≠ [])
    (hlast : names.getLast? ≠ some []) : joinPath division names ≠ [] := by
  match names with
  | [] => exact absurd rfl hne
  | [name] => simpa [joinPath] using hlast
  | name :: next :: rest => simp [joinPath]

/-- **A path is split into its names** if the last one is not empty. -/
theorem myStringSplit_joinPath {division : Char} {names : List Path} (hne : names ≠ [])
    (hnames : ∀ name ∈ names, division ∉ name) (hlast : names.getLast? ≠ some []) :
    myStringSplit (joinPath division names) division = names := by
  rw [myStringSplit, if_neg (joinPath_ne_nil hne hlast)]
  induction names with
  | nil => exact absurd rfl hne
  | cons name rest ih =>
    have hname := hnames name (List.mem_cons_self ..)
    cases rest with
    | nil =>
      have hend := splitFrom_append hname [] []
      simpa [joinPath, splitFrom] using hend
    | cons next rest =>
      -- the separator ends the first name, and a name follows
      rw [List.getLast?_cons_cons] at hlast
      rw [joinPath, splitFrom_append hname, splitFrom, if_pos rfl,
        if_neg (joinPath_ne_nil (List.cons_ne_nil _ _) hlast), List.nil_append]
      have hrest : ∀ name ∈ next :: rest, division ∉ name :=
        fun name hmem => hnames name (List.mem_cons_of_mem _ hmem)
      rw [ih (List.cons_ne_nil _ _) hrest hlast]
      exact List.cons_ne_nil _ _

/-! ## §2 The phone -/

namespace Objects

/-- `o` is somewhere on the phone, and `below` is below it. -/
def Holds : Objects → ContentObject → Objects → Prop
  | done, _, _ => False
  | next rest, o, below => rest.Holds o below
  | object o' children rest, o, below =>
    (o' = o ∧ children = below) ∨ children.Holds o below ∨ rest.Holds o below

/-- `o` is directly below the parent, and `below` is below it. -/
def HasChild : Objects → ContentObject → Objects → Prop
  | done, _, _ => False
  | next rest, o, below => rest.HasChild o below
  | object o' children rest, o, below =>
    (o' = o ∧ children = below) ∨ rest.HasChild o below

/-- What is below the object with the id. -/
def belowID (objectID : Path) : Objects → Option Objects
  | done => none
  | next rest => rest.belowID objectID
  | object o children rest =>
    if o.objectID = objectID then some children
    else (children.belowID objectID).or (rest.belowID objectID)

/-- `WPD_DEVICE_OBJECT_ID`. -/
def deviceObjectID : Path := ['D', 'E', 'V', 'I', 'C', 'E']

/-- `EnumObjects` on a parent: its id, or the empty text or `DEVICE` for the root.  It fails if
there is no such object. -/
def enumObjects (phone : Objects) (parentID : Path) : Objects :=
  if parentID = [] ∨ parentID = deviceObjectID then phone
  else (phone.belowID parentID).getD done

end Objects

/-! ## §3 The loop -/

/-- `_T(".db")`. -/
def dbSuffix : Path := ['.', 'd', 'b']

/-- One round of the loop at `index`: `ids` are `dirID` and `fileID`. -/
def pathStep (phone : Objects) (index : ℕ) (ids : Path × Path) (name : Path) :
    Act (Option Path) (Path × Path) :=
  if index = 0 then do
    let objID ← getSpecifiedObjectID (some phone) name
    pure (objID.getD [], ids.2)
  else if index = 1 then do
    let objID ← getIDByParentID (phone.enumObjects ids.1) (name ++ dbSuffix)
    pure (ids.1, objID.getD [])
  else do
    let objID ← getIDByParentID (phone.enumObjects ids.2) name
    pure (ids.2, objID.getD [])

/-- The loop over `m_aryFileName` from `index` on. -/
def pathLoop (phone : Objects) (index : ℕ) (ids : Path × Path) :
    List Path → Act (Option Path) (Path × Path)
  | [] => pure ids
  | name :: rest => do
    let ids' ← pathStep phone index ids name
    pathLoop phone (index + 1) ids' rest

/-- `gDirID` and `gFileID` as `BeginPhoneToPc` and `BeginRebackData` set them behind the loop; they
return `FALSE` if one of the ids is empty. -/
def locateDatabase (phone : Objects) (m_aryFileName : List Path) :
    Act (Option Path) (Option (Path × Path)) := do
  let ids ← pathLoop phone 0 ([], []) m_aryFileName
  if ids.1 = [] ∨ ids.2 = [] then pure none else pure (some ids)

/-! ## §4 What the loop finds -/

namespace Objects

theorem HasChild.mem {objects below : Objects} {o : ContentObject}
    (h : objects.HasChild o below) : o ∈ objects.children := by
  induction objects with
  | done => exact h.elim
  | next rest ih => exact ih h
  | object o' children rest _ ih =>
    rcases h with ⟨rfl, -⟩ | h
    · exact List.mem_cons_self ..
    · exact List.mem_cons_of_mem _ (ih h)

theorem exists_hasChild {objects : Objects} {o : ContentObject} (h : o ∈ objects.children) :
    ∃ below, objects.HasChild o below := by
  induction objects with
  | done => cases h
  | next rest ih => exact ih h
  | object o' children rest _ ih =>
    rcases List.mem_cons.1 h with rfl | h
    · exact ⟨children, .inl ⟨rfl, rfl⟩⟩
    · obtain ⟨below, hbelow⟩ := ih h
      exact ⟨below, .inr hbelow⟩

theorem HasChild.holds {objects below : Objects} {o : ContentObject}
    (h : objects.HasChild o below) : objects.Holds o below := by
  induction objects with
  | done => exact h
  | next rest ih => exact ih h
  | object o' children rest _ ih =>
    rcases h with h | h
    · exact .inl h
    · exact .inr (.inr (ih h))

theorem Holds.trans {phone objects below : Objects} {o o' : ContentObject}
    (h : phone.Holds o objects) (h' : objects.Holds o' below) : phone.Holds o' below := by
  induction phone with
  | done => exact h
  | next rest ih => exact ih h
  | object first children rest ihchildren ihrest =>
    rcases h with ⟨-, rfl⟩ | h | h
    · exact .inr (.inl h')
    · exact .inr (.inl (ihchildren h))
    · exact .inr (.inr (ihrest h))

theorem Holds.mem {phone below : Objects} {o : ContentObject} (h : phone.Holds o below) :
    o ∈ phone.delivered := by
  induction phone with
  | done => exact h.elim
  | next rest ih => exact ih h
  | object first children rest ihchildren ihrest =>
    rw [delivered, List.mem_cons, List.mem_append]
    rcases h with ⟨rfl, -⟩ | h | h
    · exact .inl rfl
    · exact .inr (.inl (ihchildren h))
    · exact .inr (.inr (ihrest h))

/-- What is found under an id is below the object of that id. -/
theorem holds_of_belowID {phone below : Objects} {objectID : Path}
    (h : phone.belowID objectID = some below) :
    ∃ o, phone.Holds o below ∧ o.objectID = objectID := by
  induction phone with
  | done => cases h
  | next rest ih => exact ih h
  | object first children rest ihchildren ihrest =>
    rw [belowID] at h
    split at h
    · rename_i hid
      cases h
      exact ⟨first, .inl ⟨rfl, rfl⟩, hid⟩
    · -- below the object, or behind it
      rcases Option.or_eq_some_iff.1 h with h | ⟨-, h⟩
      · obtain ⟨o, ho, hid⟩ := ihchildren h
        exact ⟨o, .inr (.inl ho), hid⟩
      · obtain ⟨o, ho, hid⟩ := ihrest h
        exact ⟨o, .inr (.inr ho), hid⟩

/-- With ids that differ the id of an object leads to what is below it. -/
theorem belowID_of_holds {phone below : Objects} {o : ContentObject}
    (hids : (phone.delivered.map ContentObject.objectID).Nodup) (h : phone.Holds o below) :
    phone.belowID o.objectID = some below := by
  induction phone with
  | done => exact h.elim
  | next rest ih => exact ih hids h
  | object first children rest ihchildren ihrest =>
    rw [delivered, List.map_cons, List.map_append, List.nodup_cons, List.mem_append, not_or,
      List.nodup_append'] at hids
    obtain ⟨⟨hchildren, hrest⟩, hnodup, hnodup', hdisjoint⟩ := hids
    rw [belowID]
    rcases h with ⟨rfl, rfl⟩ | h | h
    · rw [if_pos rfl]
    · -- the id is not that of the object at hand
      have hmem := List.mem_map_of_mem (f := ContentObject.objectID) h.mem
      have hne : first.objectID ≠ o.objectID := fun hid => hchildren (hid ▸ hmem)
      rw [if_neg hne, ihchildren hnodup h, Option.some_or]
    · have hmem := List.mem_map_of_mem (f := ContentObject.objectID) h.mem
      -- nor is it the id of one below it
      have hnone : children.belowID o.objectID = none := by
        rw [Option.eq_none_iff_forall_ne_some]
        intro below' hsome
        obtain ⟨o', ho', hid⟩ := holds_of_belowID hsome
        exact hdisjoint (hid ▸ List.mem_map_of_mem (f := ContentObject.objectID) ho'.mem) hmem
      have hne : first.objectID ≠ o.objectID := fun hid => hrest (hid ▸ hmem)
      rw [if_neg hne, hnone, Option.none_or, ihrest hnodup' h]

/-- What `EnumObjects` delivers is on the phone. -/
theorem mem_delivered_of_enumObjects {phone : Objects} {parentID : Path} {o : ContentObject}
    (h : o ∈ (phone.enumObjects parentID).children) : o ∈ phone.delivered := by
  obtain ⟨below, hchild⟩ := exists_hasChild h
  revert hchild
  rw [enumObjects]
  split
  · exact fun hchild => hchild.holds.mem
  · cases hbelow : phone.belowID parentID with
    | none => exact fun hchild => hchild.elim
    | some objects =>
      obtain ⟨parent, hparent, -⟩ := holds_of_belowID hbelow
      exact fun hchild => (hparent.trans hchild.holds).mem

end Objects

/-- The id `getIDByParentID` returns is that of an object of the name on the phone. -/
theorem getIDByParentID_named {phone : Objects} {parentID name : Path}
    {strObjID objID strObjID' : Option Path}
    (h : (getIDByParentID (phone.enumObjects parentID) name).run strObjID =
      (.ok objID, strObjID')) :
    objID.getD [] = [] ∨
      ∃ o ∈ phone.delivered, o.isNamed name = true ∧ o.objectID = objID.getD [] := by
  rw [getIDByParentID_run] at h
  cases hfind : (phone.enumObjects parentID).children.find? (·.isNamed name) with
  | none =>
    rw [hfind] at h
    cases h
    exact .inl rfl
  | some o =>
    rw [hfind, searchOutcome] at h
    split at h
    · cases h
      -- the id is stored, and returned
      exact .inr ⟨o, Objects.mem_delivered_of_enumObjects (List.mem_of_find?_eq_some hfind),
        List.find?_some hfind, rfl⟩
    · cases h

/-- **From the third name on** `fileID` ends as the id of an object that has the last name, without
`.db`, or empty. -/
theorem pathLoop_fileID {phone : Objects} {index : ℕ} (hindex : 2 ≤ index) {names : List Path}
    (hne : names ≠ []) {ids ids' : Path × Path} {strObjID strObjID' : Option Path}
    (h : (pathLoop phone index ids names).run strObjID = (.ok ids', strObjID')) :
    ids'.2 = [] ∨
      ∃ o ∈ phone.delivered, o.isNamed (names.getLast hne) = true ∧ o.objectID = ids'.2 := by
  induction names generalizing index ids strObjID with
  | nil => exact absurd rfl hne
  | cons name rest ih =>
    obtain ⟨next, s, hstep, hloop⟩ := of_bind_run_ok h
    cases rest with
    | nil =>
      -- the last name: what is found under it becomes `fileID`
      rw [pathStep, if_neg (by omega), if_neg (by omega)] at hstep
      obtain ⟨objID, s', hcall, hids⟩ := of_bind_run_ok hstep
      cases hids
      cases hloop
      exact getIDByParentID_named hcall
    | cons name' rest =>
      -- another name follows, and overwrites it
      rw [List.getLast_cons (List.cons_ne_nil _ _)]
      exact ih (by omega) (List.cons_ne_nil _ _) hloop

/-! ## §5 When it finds the database -/

/-- `names` lead from `folder`, with `objects` below it, to the folder `dir` and the database
`file` in it: the last name has `.db` behind it. -/
inductive Leads : ContentObject → Objects → List Path → ContentObject → ContentObject → Prop where
  /-- the file is in the folder itself -/
  | file {folder file : ContentObject} {objects below : Objects} {name : Path}
      (hchild : objects.HasChild file below) (hname : file.isNamed (name ++ dbSuffix) = true) :
      Leads folder objects [name] folder file
  /-- the path goes on in a folder of it -/
  | folder {folder sub dir file : ContentObject} {objects below : Objects} {name : Path}
      {rest : List Path} (hchild : objects.HasChild sub below) (hname : sub.isNamed name = true)
      (hrest : Leads sub below rest dir file) : Leads folder objects (name :: rest) dir file

/-- Objects side by side have different names. -/
def NamesDistinct (objects : Objects) : Prop :=
  ∀ o ∈ objects.children, ∀ o' ∈ objects.children, ∀ name,
    o.isNamed name = true → o'.isNamed name = true → o = o'

/-- The phone has the database at the path: its objects have ids of their own, the first name is
that of one object only, and from there the other names lead to the file. -/
structure DatabaseAt (phone : Objects) (names : List Path) (dir file : ContentObject) : Prop where
  ids_nodup : (phone.delivered.map ContentObject.objectID).Nodup
  ids_ne : ∀ o ∈ phone.delivered, o.objectID ≠ [] ∧ o.objectID ≠ Objects.deviceObjectID
  siblings : ∀ o below, phone.Holds o below → NamesDistinct below
  leads : ∃ name rest folder objects, names = name :: rest ∧ phone.Holds folder objects ∧
    folder.isNamed name = true ∧ (∀ o ∈ phone.delivered, o.isNamed name = true → o = folder) ∧
    Leads folder objects rest dir file

/-- The file is on the phone, under the last name with `.db`. -/
theorem Leads.file_named {phone objects : Objects} {folder dir file : ContentObject}
    {names : List Path} (h : Leads folder objects names dir file)
    (hfolder : phone.Holds folder objects) :
    file ∈ phone.delivered ∧
      ∃ hne : names ≠ [], file.isNamed (names.getLast hne ++ dbSuffix) = true := by
  induction h with
  | file hchild hname =>
    exact ⟨(hfolder.trans hchild.holds).mem, List.cons_ne_nil _ _, hname⟩
  | folder hchild hname hrest ih =>
    obtain ⟨hmem, hne, hlast⟩ := ih (hfolder.trans hchild.holds)
    exact ⟨hmem, List.cons_ne_nil _ _, by rwa [List.getLast_cons hne]⟩

private theorem find?_eq_some_of_unique {l : List ContentObject} {p : ContentObject → Bool}
    {o : ContentObject} (hmem : o ∈ l) (ho : p o = true)
    (hunique : ∀ o' ∈ l, p o' = true → o' = o) :
    l.find? p = some o := by
  cases hfind : l.find? p with
  | none => exact absurd ho (List.find?_eq_none.1 hfind o hmem)
  | some o' =>
    rw [hunique o' (List.mem_of_find?_eq_some hfind) (List.find?_some hfind)]

/-- The round at the first name. -/
private theorem pathStep_zero {phone : Objects} {name : Path} {o : ContentObject}
    (h : phone.searched.find? (·.isNamed name) = some o) (ids : Path × Path)
    (strObjID : Option Path) :
    (pathStep phone 0 ids name).run strObjID =
      if o.objectID.length < 20 then (.ok (o.objectID, ids.2), some o.objectID)
      else (.error .undefined, strObjID) := by
  rw [pathStep, if_pos rfl, bind_run, getSpecifiedObjectID_run, h, searchOutcome]
  by_cases hfits : o.objectID.length < 20
  · simp only [if_pos hfits]
    rfl
  · simp only [if_neg hfits]

/-- The round at the second name. -/
private theorem pathStep_one {phone : Objects} {name : Path} {o : ContentObject}
    {ids : Path × Path}
    (h : (phone.enumObjects ids.1).children.find? (·.isNamed (name ++ dbSuffix)) = some o)
    (strObjID : Option Path) :
    (pathStep phone 1 ids name).run strObjID =
      if o.objectID.length < 20 then (.ok (ids.1, o.objectID), some o.objectID)
      else (.error .undefined, strObjID) := by
  rw [pathStep, if_neg (by decide), if_pos rfl, bind_run, getIDByParentID_run, h, searchOutcome]
  by_cases hfits : o.objectID.length < 20
  · simp only [if_pos hfits]
    rfl
  · simp only [if_neg hfits]

/-- **A path of two names** is followed. -/
theorem locateDatabase_two {phone : Objects} {name name' : Path} {dir file : ContentObject}
    (hdir : phone.searched.find? (·.isNamed name) = some dir)
    (hfile : (phone.enumObjects dir.objectID).children.find? (·.isNamed (name' ++ dbSuffix)) =
      some file)
    (hne : dir.objectID ≠ [] ∧ file.objectID ≠ []) (strObjID : Option Path) :
    ((locateDatabase phone [name, name']).run strObjID).1 =
        .ok (some (dir.objectID, file.objectID)) ↔
      dir.objectID.length < 20 ∧ file.objectID.length < 20 := by
  have hstep := pathStep_zero hdir ([], []) strObjID
  by_cases hdirFits : dir.objectID.length < 20
  · rw [if_pos hdirFits] at hstep
    -- the folder's id is there, and the file is looked for in it
    have hstep' := @pathStep_one phone name' file (dir.objectID, []) hfile (some dir.objectID)
    by_cases hfileFits : file.objectID.length < 20
    · rw [if_pos hfileFits] at hstep'
      have hloop : (pathLoop phone 0 ([], []) [name, name']).run strObjID =
          (.ok (dir.objectID, file.objectID), some file.objectID) := by
        rw [pathLoop, bind_run_ok hstep, pathLoop, bind_run_ok hstep', pathLoop, pure_run]
      rw [locateDatabase, bind_run_ok hloop, if_neg (by simp [hne])]
      simp [hdirFits, hfileFits]
    · rw [if_neg hfileFits] at hstep'
      have hloop : (pathLoop phone 0 ([], []) [name, name']).run strObjID =
          (.error .undefined, some dir.objectID) := by
        rw [pathLoop, bind_run_ok hstep, pathLoop, bind_run_error hstep']
      rw [locateDatabase, bind_run_error hloop]
      simp [hfileFits]
  · rw [if_neg hdirFits] at hstep
    have hloop : (pathLoop phone 0 ([], []) [name, name']).run strObjID =
        (.error .undefined, strObjID) := by
      rw [pathLoop, bind_run_error hstep]
    rw [locateDatabase, bind_run_error hloop]
    simp [hdirFits]

/-- A name is not that name with `.db`. -/
private theorem not_isNamed_dbSuffix {name : Path} {o : ContentObject} (h : o.isNamed name = true) :
    ¬o.isNamed (name ++ dbSuffix) = true := by
  intro hsuffix
  rw [ContentObject.isNamed, beq_iff_eq] at h hsuffix
  rw [h, Option.some_inj] at hsuffix
  simpa [dbSuffix] using congrArg List.length hsuffix

/-- **At the third name** the ids are those of the path no longer: what ends as the file has the
last name without `.db`. -/
theorem locateDatabase_three {phone : Objects} {name name' name'' : Path} {rest : List Path}
    {dir file : ContentObject} (hids : (phone.delivered.map ContentObject.objectID).Nodup)
    (hmem : file ∈ phone.delivered) (hne : file.objectID ≠ [])
    (hfile : file.isNamed ((name'' :: rest).getLast (List.cons_ne_nil _ _) ++ dbSuffix) = true)
    (strObjID : Option Path) :
    ((locateDatabase phone (name :: name' :: name'' :: rest)).run strObjID).1 ≠
      .ok (some (dir.objectID, file.objectID)) := by
  intro hrun
  rcases hresult : (locateDatabase phone (name :: name' :: name'' :: rest)).run strObjID with ⟨r, s⟩
  rw [hresult] at hrun
  subst hrun
  obtain ⟨ids, s₁, hloop, hids'⟩ := of_bind_run_ok hresult
  -- the loop returned, so `fileID` is the id set
  have hlast : ids.2 = file.objectID := by
    split at hids'
    · cases hids'
    · cases hids'
      rfl
  obtain ⟨_, _, -, hloop⟩ := of_bind_run_ok hloop
  obtain ⟨_, _, -, hloop⟩ := of_bind_run_ok hloop
  have hlastID := pathLoop_fileID (Nat.le_refl 2) (List.cons_ne_nil _ _) hloop
  rcases hlastID with hnil | ⟨o, ho, hnamed, hid⟩
  · exact hne (hlast ▸ hnil)
  · -- the two objects have one id, so they are one object with two names
    have heq : o = file := List.inj_on_of_nodup_map hids ho hmem (hid.trans hlast)
    subst heq
    exact not_isNamed_dbSuffix hnamed hfile

/-- **The loops find the database** at a path of two names, if the two ids fit into the buffer
they are copied to; with more names they never do. -/
theorem locateDatabase_sets_iff {phone : Objects} {path : Path} {division : Char}
    {dir file : ContentObject} (h : DatabaseAt phone (myStringSplit path division) dir file)
    (strObjID : Option Path) :
    ((locateDatabase phone (myStringSplit path division)).run strObjID).1 =
        .ok (some (dir.objectID, file.objectID)) ↔
      (myStringSplit path division).length = 2 ∧ dir.objectID.length < 20 ∧
        file.objectID.length < 20 := by
  obtain ⟨hids, hne, hsiblings, name, rest, folder, objects, hnames, hfolder, hname, hunique,
    hleads⟩ := h
  rw [hnames]
  cases hleads with
  | file hchild hfileName =>
    -- the only object of the first name is the one the search finds
    have hdir := find?_eq_some_of_unique (Objects.mem_searched.2 hfolder.mem) hname
      fun o ho => hunique o (Objects.mem_searched.1 ho)
    have henum : phone.enumObjects dir.objectID = objects := by
      rw [Objects.enumObjects, if_neg (by simpa using hne _ hfolder.mem),
        Objects.belowID_of_holds hids hfolder, Option.getD_some]
    -- the only object of the second name below it is the file
    have hfind := find?_eq_some_of_unique hchild.mem hfileName fun o ho ho' =>
      hsiblings _ _ hfolder o ho file hchild.mem _ ho' hfileName
    rw [← henum] at hfind
    rw [locateDatabase_two hdir hfind
      ⟨(hne _ hfolder.mem).1, (hne _ (hfolder.trans hchild.holds).mem).1⟩]
    simp
  | folder hchild hsub hrest =>
    obtain ⟨hmem, hnil, hlast⟩ := hrest.file_named (hfolder.trans hchild.holds)
    obtain ⟨name'', rest, rfl⟩ := List.exists_cons_of_ne_nil hnil
    refine iff_of_false (locateDatabase_three hids hmem (hne _ hmem).1 hlast strObjID) ?_
    simp

section Examples

/-- The folder `a`. -/
def folderA : ContentObject := ⟨['o', '1'], some ['a']⟩

/-- The folder `b`. -/
def folderB : ContentObject := ⟨['o', '2'], some ['b']⟩

/-- The database `c.db`. -/
def databaseC : ContentObject := ⟨['o', '3'], some (['c'] ++ dbSuffix)⟩

/-- The database in `a`. -/
def flatPhone : Objects := .object folderA (.object databaseC .done .done) .done

/-- The database in `b`, which is in `a`. -/
def nestedPhone : Objects :=
  .object folderA (.object folderB (.object databaseC .done .done) .done) .done

/-- The path `a#c`. -/
theorem flat_database_found :
    ((locateDatabase flatPhone (myStringSplit ['a', '#', 'c'] '#')).run none).1 =
      .ok (some (['o', '1'], ['o', '3'])) := by
  have hphone : DatabaseAt flatPhone (myStringSplit ['a', '#', 'c'] '#') folderA databaseC := by
    refine ⟨by decide, by decide, ?_, ['a'], [['c']], folderA, _, rfl, .inl ⟨rfl, rfl⟩, rfl,
      by decide, .file (.inl ⟨rfl, rfl⟩) rfl⟩
    rintro o below (⟨-, rfl⟩ | (⟨-, rfl⟩ | h | h) | h)
    · simp [NamesDistinct, Objects.children]
    · simp [NamesDistinct, Objects.children]
    · exact h.elim
    · exact h.elim
    · exact h.elim
  exact (locateDatabase_sets_iff hphone none).2 ⟨rfl, by decide, by decide⟩

/-- The path `a#b#c`: below `a` there is no `b.db`, and the loop goes on from the root. -/
theorem nested_database_lost :
    DatabaseAt nestedPhone (myStringSplit ['a', '#', 'b', '#', 'c'] '#') folderB databaseC ∧
      ((locateDatabase nestedPhone (myStringSplit ['a', '#', 'b', '#', 'c'] '#')).run none).1 ≠
        .ok (some (folderB.objectID, databaseC.objectID)) := by
  constructor
  · refine ⟨by decide, by decide, ?_, ['a'], [['b'], ['c']], folderA, _, rfl, .inl ⟨rfl, rfl⟩, rfl,
      by decide, .folder (.inl ⟨rfl, rfl⟩) rfl (.file (.inl ⟨rfl, rfl⟩) rfl)⟩
    rintro o below (⟨-, rfl⟩ | (⟨-, rfl⟩ | (⟨-, rfl⟩ | h | h) | h) | h)
    · simp [NamesDistinct, Objects.children]
    · simp [NamesDistinct, Objects.children]
    · simp [NamesDistinct, Objects.children]
    · exact h.elim
    · exact h.elim
    · exact h.elim
    · exact h.elim
  · have hnothing : ((locateDatabase nestedPhone
        (myStringSplit ['a', '#', 'b', '#', 'c'] '#')).run none).1 = .ok none := rfl
    rw [hnothing]
    intro h
    cases h

end Examples

end MtpSync
