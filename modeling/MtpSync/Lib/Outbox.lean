import Mathlib.Data.List.Perm.Basic
import Mathlib.Tactic.Common

/-!
# Rows sent in rounds

The rows of an outbox are sent in rounds.  A round sends a message for each row it takes and marks
those rows as sent, and a row with the mark is taken by no round.  So whatever the rounds take,
and however often they take the same, each row is sent once, by the first round that takes it.

- §1 rounds
- §2 each row is sent once
- §3 what is left to send
-/

namespace MtpSync

namespace Outbox

variable {ρ μ κ : Type}

/-! ## §1 Rounds -/

/-- A round: what it sends for a row, if it takes the row. -/
abbrev Round (ρ μ : Type) := ρ → Option μ

/-- What a round leaves: the rows it has taken are marked. -/
def Round.left (mark : ρ → ρ) (c : Round ρ μ) (l : List ρ) : List ρ :=
  l.map fun r => if (c r).isSome then mark r else r

/-- What several rounds send, one after the other. -/
def sent (mark : ρ → ρ) : List (Round ρ μ) → List ρ → List μ
  | [], _ => []
  | c :: cs, l => l.filterMap c ++ sent mark cs (c.left mark l)

/-- What several rounds leave. -/
def left (mark : ρ → ρ) (cs : List (Round ρ μ)) (l : List ρ) : List ρ :=
  cs.foldl (fun l c => c.left mark l) l

/-- What the first round that takes a row sends for it. -/
def first (cs : List (Round ρ μ)) (r : ρ) : Option μ := cs.findSome? fun c => c r

/-- A marked row is taken by none of the rounds. -/
def Respected (mark : ρ → ρ) (cs : List (Round ρ μ)) : Prop := ∀ c ∈ cs, ∀ r, c (mark r) = none

variable {mark : ρ → ρ} {cs cs' : List (Round ρ μ)} {c : Round ρ μ}

theorem sent_append (l : List ρ) :
    sent mark (cs ++ cs') l = sent mark cs l ++ sent mark cs' (left mark cs l) := by
  induction cs generalizing l with
  | nil => rfl
  | cons c cs ih =>
    rw [List.cons_append, sent, sent, ih, List.append_assoc]
    rfl

theorem Respected.tail (h : Respected mark (c :: cs)) : Respected mark cs :=
  fun c' hc' => h c' (List.mem_cons_of_mem c hc')

/-- A marked row is not sent. -/
theorem Respected.first_mark (h : Respected mark cs) (r : ρ) : first cs (mark r) = none := by
  rw [first, List.findSome?_eq_none_iff]
  exact fun c hc => h c hc r

theorem first_append (r : ρ) : first (cs ++ cs') r = (first cs r).or (first cs' r) :=
  List.findSome?_append

theorem first_cons (r : ρ) : first (c :: cs) r = (c r).or (first cs r) := by
  rw [first, List.findSome?_cons]
  cases c r <;> rfl

/-! ## §2 Each row is sent once -/

/-- The rows of a round come before the others. -/
private theorem filterMap_perm (f g : ρ → Option μ) (l : List ρ) :
    (l.filterMap f ++ l.filterMap fun r => if (f r).isSome then none else g r).Perm
      (l.filterMap fun r => (f r).or (g r)) := by
  induction l with
  | nil => exact List.Perm.refl _
  | cons r l ih =>
    cases hf : f r with
    | some m => simpa [hf] using ih
    | none =>
      cases hg : g r with
      | none => simpa [hf, hg] using ih
      | some m =>
        -- the message of `r` moves in front of those of the round
        simp only [List.filterMap_cons, hf, hg, Option.isSome_none, Bool.false_eq_true, if_false,
          Option.none_or]
        exact List.perm_middle.trans (ih.cons m)

/-- **Each row is sent once**, by the first round that takes it: up to their order, these are all
messages of the rounds. -/
theorem sent_perm (h : Respected mark cs) (l : List ρ) :
    (sent mark cs l).Perm (l.filterMap (first cs)) := by
  induction cs generalizing l with
  | nil => simp [sent, first]
  | cons c cs ih =>
    -- what the first round has marked, the others do not send
    have hleft : (c.left mark l).filterMap (first cs) =
        l.filterMap fun r => if (c r).isSome then none else first cs r := by
      rw [Round.left, List.filterMap_map]
      refine List.filterMap_congr fun r _ => ?_
      cases hr : c r with
      | some m => simp [hr, h.tail.first_mark r]
      | none => simp [hr]
    have hfirst : first (c :: cs) = fun r => (c r).or (first cs r) := funext first_cons
    rw [sent, hfirst]
    refine ((ih h.tail (c.left mark l)).append_left (l.filterMap c)).trans ?_
    rw [hleft]
    exact filterMap_perm c (first cs) l

/-- A message is of a row some round has taken. -/
theorem mem_sent (h : Respected mark cs) {l : List ρ} {m : μ} :
    m ∈ sent mark cs l ↔ ∃ r ∈ l, first cs r = some m := by
  rw [(sent_perm h l).mem_iff, List.mem_filterMap]

/-- Whatever tells the rows apart tells the messages apart. -/
theorem sent_nodup (h : Respected mark cs) {l : List ρ} {key : ρ → κ} {key' : μ → κ}
    (hkey : ∀ c ∈ cs, ∀ r m, c r = some m → key' m = key r) (hl : (l.map key).Nodup) :
    ((sent mark cs l).map key').Nodup := by
  have hsub : ((l.filterMap (first cs)).map key').Sublist (l.map key) := by
    clear hl
    induction l with
    | nil => exact List.Sublist.slnil
    | cons r l ih =>
      cases hfirst : first cs r with
      | none =>
        rw [List.filterMap_cons_none hfirst]
        exact ih.cons _
      | some m =>
        obtain ⟨c, hc, hm⟩ := List.exists_of_findSome?_eq_some hfirst
        rw [List.filterMap_cons_some hfirst, List.map_cons, List.map_cons, hkey c hc r m hm]
        exact ih.cons_cons _
  exact (((sent_perm h l).map key').nodup_iff).2 (hl.sublist hsub)

/-! ## §3 What is left to send -/

/-- **What the rounds leave**: exactly the rows one of them has taken are marked. -/
theorem left_eq (h : Respected mark cs) (l : List ρ) :
    left mark cs l = l.map fun r => if (first cs r).isSome then mark r else r := by
  induction cs generalizing l with
  | nil => simp [left, first]
  | cons c cs ih =>
    have hstep : left mark (c :: cs) l = left mark cs (c.left mark l) := rfl
    rw [hstep, ih h.tail, Round.left, List.map_map]
    refine List.map_congr_left fun r _ => ?_
    rw [Function.comp_apply, first_cons]
    cases hr : c r with
    | some m =>
      -- the other rounds leave the marked row alone
      simp [h.tail.first_mark r]
    | none => rfl

end Outbox

end MtpSync
