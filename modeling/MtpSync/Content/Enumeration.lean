import Mathlib.Data.List.Perm.Basic
import MtpSync.Lib.Act
import MtpSync.LogRecord.Traverse

/-!
# Searching the phone for an object

`getSpecifiedObjectID` goes through the objects of a phone, batch by batch: the objects of a batch
are compared with the name before any of them is entered.  The id of the first one of that name is
copied to `strObjID`, a variable of the program, and that variable is what is returned; nothing
ever clears it, so a search that finds nothing returns what an earlier one found.

- §1 what the enumeration calls deliver
- §2 `RecursiveEnumerate` and `getIDByParentID`
- §3 the objects in the order of the search
- §4 one call
- §5 the calls of a run
-/

namespace MtpSync

open Act

/-! ## §1 What the enumeration calls deliver -/

/-- An object of the phone: its id, and its original file name if that can be read. -/
structure ContentObject where
  objectID : Path
  originalFileName : Option Path
  deriving DecidableEq

/-- `getNameByID`: an empty name is none. -/
def ContentObject.getNameByID (o : ContentObject) : Option Path :=
  o.originalFileName.filter fun value => decide (0 < value.length)

/-- `StrCmpW(getNameByID(o), name) == 0`; a null pointer is equal to no name. -/
def ContentObject.isNamed (name : Path) (o : ContentObject) : Bool := o.getNameByID == some name

/-- What `EnumObjects` on a parent and the calls of `Next` behind it deliver. -/
inductive Objects where
  /-- the end: a call failed, or `Next` did not return `S_OK` -/
  | done
  /-- `Next` returned `S_OK`, and is called again -/
  | next (rest : Objects)
  /-- an object, what the same calls deliver on it as a parent, and what follows it -/
  | object (o : ContentObject) (children rest : Objects)

namespace Objects

/-- The objects up to the end of the batch. -/
def batch : Objects → List ContentObject
  | done => []
  | next _ => []
  | object o _ rest => o :: rest.batch

/-- All objects, each in front of those below it. -/
def delivered : Objects → List ContentObject
  | done => []
  | next rest => rest.delivered
  | object o children rest => o :: (children.delivered ++ rest.delivered)

/-- The objects directly below the parent. -/
def children : Objects → List ContentObject
  | done => []
  | next rest => rest.children
  | object o _ rest => o :: rest.children

end Objects

/-! ## §2 `RecursiveEnumerate` and `getIDByParentID` -/

/-- `strObjID = new WCHAR[20]` and the copy of the id with its terminator into it. -/
def storeID (objectID : Path) : Act (Option Path) Unit :=
  if objectID.length < 20 then modify fun _ => some objectID else halt .undefined

/-- The id of an object of the batch is stored; without one the search goes on. -/
def storeOr (hit : Option ContentObject) (search : Act (Option Path) Bool) :
    Act (Option Path) Bool :=
  match hit with
  | some o => do
    storeID o.objectID
    pure true
  | none => search

/-- The second loop of `RecursiveEnumerate` over a batch, which enters its objects, and the
batches that follow. -/
def descend (fileName : Path) : Objects → Act (Option Path) Bool
  | .done => pure false
  | .next rest => storeOr (rest.batch.find? (·.isNamed fileName)) (descend fileName rest)
  | .object _ children rest => do
    if ← storeOr (children.batch.find? (·.isNamed fileName)) (descend fileName children) then
      pure true
    else descend fileName rest

/-- `RecursiveEnumerate`. -/
def recursiveEnumerate (fileName : Path) (objects : Objects) : Act (Option Path) Bool :=
  storeOr (objects.batch.find? (·.isNamed fileName)) (descend fileName objects)

/-- `getSpecifiedObjectID` with `EnumerateAllContent`; without a content interface nothing is
enumerated. -/
def getSpecifiedObjectID (content : Option Objects) (fileName : Path) :
    Act (Option Path) (Option Path) := do
  match content with
  | some objects => let _ ← recursiveEnumerate fileName objects
  | none => pure ()
  read

/-- `getIDByParentID`, with what is delivered below the parent. -/
def getIDByParentID (objects : Objects) (name : Path) : Act (Option Path) (Option Path) :=
  match objects.children.find? (·.isNamed name) with
  | some o => do
    storeID o.objectID
    read
  | none => pure none

/-! ## §3 The objects in the order of the search -/

namespace Objects

/-- The objects compared after those of the batch. -/
def searchedBelow : Objects → List ContentObject
  | done => []
  | next rest => rest.batch ++ rest.searchedBelow
  | object _ children rest => children.batch ++ children.searchedBelow ++ rest.searchedBelow

/-- The objects in the order in which they are compared. -/
def searched (objects : Objects) : List ContentObject := objects.batch ++ objects.searchedBelow

/-- Every object is compared once. -/
theorem searched_perm_delivered (objects : Objects) : objects.searched.Perm objects.delivered := by
  unfold searched
  induction objects with
  | done => exact List.Perm.refl _
  | next rest ih => exact ih
  | object o children rest ihchildren ihrest =>
    -- the rest of the batch is compared before what is below the object
    simp only [batch, searchedBelow, delivered, List.cons_append, List.perm_cons]
    exact (List.perm_append_comm_assoc ..).trans (ihchildren.append ihrest)

theorem mem_searched {objects : Objects} {o : ContentObject} :
    o ∈ objects.searched ↔ o ∈ objects.delivered := objects.searched_perm_delivered.mem_iff

end Objects

theorem storeOr_or (hit hit' : Option ContentObject) (search : Act (Option Path) Bool) :
    storeOr (hit.or hit') search = storeOr hit (storeOr hit' search) := by
  cases hit with
  | none => rfl
  | some o => rfl

/-- A search that succeeds ends the loop around it. -/
private theorem storeOr_bind (hit : Option ContentObject) (search : Act (Option Path) Bool) :
    (do if ← storeOr hit (pure false) then pure true else search) = storeOr hit search := by
  cases hit with
  | none => rfl
  | some o =>
    -- stored, or the copy has run over the buffer
    rw [storeOr, storeOr, storeID]
    split
    · rfl
    · rfl

theorem descend_eq (fileName : Path) (objects : Objects) :
    descend fileName objects =
      storeOr (objects.searchedBelow.find? (·.isNamed fileName)) (pure false) := by
  induction objects with
  | done => rfl
  | next rest ih => rw [descend, ih, Objects.searchedBelow, List.find?_append, storeOr_or]
  | object o children rest ihchildren ihrest =>
    -- what is below the object is searched first, and then the rest
    rw [descend, ihchildren, ihrest, ← storeOr_or, storeOr_bind, ← storeOr_or,
      Objects.searchedBelow, List.find?_append, List.find?_append]

/-- **The search stores the first object** of the name, in the order in which it compares them. -/
theorem recursiveEnumerate_eq (fileName : Path) (objects : Objects) :
    recursiveEnumerate fileName objects =
      storeOr (objects.searched.find? (·.isNamed fileName)) (pure false) := by
  rw [recursiveEnumerate, descend_eq, ← storeOr_or, Objects.searched, List.find?_append]

/-! ## §4 One call -/

/-- What a call does that finds `hit`, and returns `missed` without one. -/
def searchOutcome (hit : Option ContentObject) (missed strObjID : Option Path) :
    Except Halt (Option Path) × Option Path :=
  match hit with
  | some o =>
    if o.objectID.length < 20 then (.ok (some o.objectID), some o.objectID)
    else (.error .undefined, strObjID)
  | none => (.ok missed, strObjID)

theorem getSpecifiedObjectID_run (objects : Objects) (fileName : Path) (strObjID : Option Path) :
    (getSpecifiedObjectID (some objects) fileName).run strObjID =
      searchOutcome (objects.searched.find? (·.isNamed fileName)) strObjID strObjID := by
  simp only [getSpecifiedObjectID, recursiveEnumerate_eq]
  cases objects.searched.find? (·.isNamed fileName) with
  | none => rfl
  | some o =>
    simp only [storeOr, storeID, searchOutcome]
    split
    · rfl
    · rfl

theorem getIDByParentID_run (objects : Objects) (name : Path) (strObjID : Option Path) :
    (getIDByParentID objects name).run strObjID =
      searchOutcome (objects.children.find? (·.isNamed name)) none strObjID := by
  rw [getIDByParentID]
  cases objects.children.find? (·.isNamed name) with
  | none => rfl
  | some o =>
    simp only [storeID, searchOutcome]
    split
    · rfl
    · rfl

/-- A call on some device: the devices, and what their enumeration calls deliver, are different
from call to call. -/
inductive SearchCall where
  | getSpecifiedObjectID (content : Option Objects) (fileName : Path)
  | getIDByParentID (objects : Objects) (name : Path)

namespace SearchCall

/-- The call, on `strObjID`. -/
def act : SearchCall → Act (Option Path) (Option Path)
  | getSpecifiedObjectID content fileName => MtpSync.getSpecifiedObjectID content fileName
  | getIDByParentID objects name => MtpSync.getIDByParentID objects name

/-- The object a call finds. -/
def found : SearchCall → Option ContentObject
  | getSpecifiedObjectID content fileName =>
    content.bind fun objects => objects.searched.find? (·.isNamed fileName)
  | getIDByParentID objects name => objects.children.find? (·.isNamed name)

/-- What a call returns that finds nothing. -/
def leftover (strObjID : Option Path) : SearchCall → Option Path
  | getSpecifiedObjectID _ _ => strObjID
  | getIDByParentID _ _ => none

theorem act_run (call : SearchCall) (strObjID : Option Path) :
    call.act.run strObjID = searchOutcome call.found (call.leftover strObjID) strObjID := by
  cases call with
  | getSpecifiedObjectID content fileName =>
    cases content with
    | none => rfl
    | some objects => exact getSpecifiedObjectID_run objects fileName strObjID
  | getIDByParentID objects name => exact getIDByParentID_run objects name strObjID

/-- The enumeration delivers `o`, and `o` has the name. -/
def Asked (content : Option Objects) (fileName : Path) (o : ContentObject) : Prop :=
  o ∈ content.elim [] Objects.delivered ∧ o.originalFileName = some fileName

/-- `getSpecifiedObjectID` returns the id of an object of that name, and a null pointer if none is
delivered; nothing is asked of `getIDByParentID`. -/
def Right : SearchCall → Option Path → Prop
  | getSpecifiedObjectID content fileName, some id =>
    ∃ o, Asked content fileName o ∧ o.objectID = id
  | getSpecifiedObjectID content fileName, none => ∀ o, ¬Asked content fileName o
  | getIDByParentID _ _, _ => True

/-- The call returns what is right, and what it would return had no call been made before it. -/
def Answers (call : SearchCall) (strObjID : Option Path) : Prop :=
  ∃ id, (call.act.run strObjID).1 = .ok id ∧ call.Right id ∧ (call.act.run none).1 = .ok id

theorem originalFileName_of_isNamed {name : Path} {o : ContentObject} (h : o.isNamed name = true) :
    o.originalFileName = some name := by
  rw [ContentObject.isNamed, beq_iff_eq, ContentObject.getNameByID, Option.filter_eq_some_iff] at h
  exact h.1

/-- What a search finds it was asked for. -/
theorem asked_of_found {content : Option Objects} {fileName : Path} {o : ContentObject}
    (h : (getSpecifiedObjectID content fileName).found = some o) : Asked content fileName o := by
  obtain ⟨objects, rfl, hfind⟩ := Option.bind_eq_some_iff.1 h
  exact ⟨Objects.mem_searched.1 (List.mem_of_find?_eq_some hfind),
    originalFileName_of_isNamed (List.find?_some hfind)⟩

/-- What a search that finds nothing needs: nothing was found before, and nothing has the name. -/
def MayMiss (foundNothing : Prop) : SearchCall → Prop
  | getSpecifiedObjectID content fileName => foundNothing ∧ ∀ o, ¬Asked content fileName o
  | getIDByParentID _ _ => True

/-- **A call answers** if what it finds has an id that fits, or if there is nothing to find and
nothing was found before. -/
theorem answers_iff (call : SearchCall) (strObjID : Option Path) :
    call.Answers strObjID ↔
      match call.found with
      | some o => o.objectID.length < 20
      | none => call.MayMiss (strObjID = none) := by
  rw [Answers, act_run, act_run]
  cases hfound : call.found with
  | some o =>
    simp only [searchOutcome]
    split
    · rename_i hfits
      -- what is found is returned, whatever was found before
      refine iff_of_true ⟨some o.objectID, rfl, ?_, rfl⟩ hfits
      cases call with
      | getSpecifiedObjectID content fileName => exact ⟨o, asked_of_found hfound, rfl⟩
      | getIDByParentID objects name => trivial
    · rename_i hlong
      exact iff_of_false (fun ⟨_, h, _⟩ => nomatch h) hlong
  | none =>
    cases call with
    | getSpecifiedObjectID content fileName =>
      -- nothing is found: what is returned is what earlier calls have left
      simp only [searchOutcome, leftover, MayMiss, Except.ok.injEq]
      constructor
      · rintro ⟨id, rfl, hright, hnone⟩
        subst hnone
        exact ⟨rfl, hright⟩
      · rintro ⟨rfl, hnone⟩
        exact ⟨none, rfl, hnone, rfl⟩
    | getIDByParentID objects name => exact iff_of_true ⟨none, rfl, trivial, rfl⟩ trivial

end SearchCall

/-! ## §5 The calls of a run -/

namespace SearchCall

/-- Each call of a run answers, at what the calls before it have left in `strObjID`. -/
def AllAnswer (strObjID : Option Path) : List SearchCall → Prop
  | [] => True
  | call :: later => call.Answers strObjID ∧ AllAnswer (call.act.run strObjID).2 later

/-- What a call finds has an id that fits; a search that finds nothing has nothing to find, and no
call before it has found anything. -/
def Finds (earlier : List SearchCall) (call : SearchCall) : Prop :=
  match call.found with
  | some o => o.objectID.length < 20
  | none => call.MayMiss (∀ before ∈ earlier, before.found = none)

/-- `strObjID` is null as long as nothing was found. -/
def LeftBy (earlier : List SearchCall) (strObjID : Option Path) : Prop :=
  strObjID = none ↔ ∀ before ∈ earlier, before.found = none

theorem answers_iff_finds {earlier : List SearchCall} {strObjID : Option Path}
    (h : LeftBy earlier strObjID) (call : SearchCall) :
    call.Answers strObjID ↔ call.Finds earlier := by
  rw [answers_iff, Finds, propext h]

/-- One call passes `strObjID` on. -/
theorem leftBy_append {earlier : List SearchCall} {strObjID : Option Path}
    (h : LeftBy earlier strObjID) {call : SearchCall} (hcall : call.Finds earlier) :
    LeftBy (earlier ++ [call]) (call.act.run strObjID).2 := by
  rw [Finds] at hcall
  rw [act_run, LeftBy]
  cases hfound : call.found with
  | some o =>
    simp only [hfound] at hcall
    simp [searchOutcome, hcall, hfound]
  | none =>
    simp only [List.forall_mem_append, List.forall_mem_singleton, hfound, and_true]
    exact h

/-- The calls of a run from any point on. -/
theorem allAnswer_iff {calls earlier : List SearchCall} {strObjID : Option Path}
    (h : LeftBy earlier strObjID) :
    AllAnswer strObjID calls ↔
      ∀ front call later, calls = front ++ call :: later → call.Finds (earlier ++ front) := by
  induction calls generalizing earlier strObjID with
  | nil => simp [AllAnswer]
  | cons call calls ih =>
    rw [AllAnswer, answers_iff_finds h]
    -- the call at hand is that behind an empty front, the later ones those behind the others
    constructor
    · rintro ⟨hcall, hlater⟩ front call' later heq
      cases front with
      | nil =>
        rw [List.nil_append, List.cons_eq_cons] at heq
        rw [List.append_nil, ← heq.1]
        exact hcall
      | cons first front =>
        rw [List.cons_append, List.cons_eq_cons] at heq
        rw [← heq.1, List.append_cons]
        exact (ih (leftBy_append h hcall)).1 hlater front call' later heq.2
    · intro hall
      have hcall : call.Finds earlier := by
        simpa using hall [] call calls rfl
      refine ⟨hcall, (ih (leftBy_append h hcall)).2 fun front call' later heq => ?_⟩
      rw [← List.append_cons]
      exact hall (call :: front) call' later (by rw [heq, List.cons_append])

/-- **Every call of a run answers**, from the start of the program on, if what the calls find has
an id that fits, and no search that finds nothing comes after a call that found something. -/
theorem calls_answer_iff (calls : List SearchCall) :
    AllAnswer none calls ↔
      ∀ earlier call later, calls = earlier ++ call :: later → call.Finds earlier :=
  @allAnswer_iff calls [] none (by simp [LeftBy])

/-- A phone with one object. -/
def onePhone : Objects := .object ⟨['o', '1'], some ['p']⟩ .done .done

/-- The search on a second phone, which is empty, returns the id found on the first. -/
theorem found_on_other_phone :
    ¬AllAnswer none [getSpecifiedObjectID (some onePhone) ['p'],
      getSpecifiedObjectID (some .done) ['p']] := by
  intro h
  obtain ⟨-, ⟨id, hreturn, hright, -⟩, -⟩ := h
  have hstale : ((getSpecifiedObjectID (some .done) ['p']).act.run
      ((getSpecifiedObjectID (some onePhone) ['p']).act.run none).2).1 =
        Except.ok (some ['o', '1']) := rfl
  rw [hstale] at hreturn
  cases hreturn
  obtain ⟨o, ⟨hdelivered, -⟩, -⟩ := hright
  cases hdelivered

end SearchCall

end MtpSync
