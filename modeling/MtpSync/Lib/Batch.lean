import Mathlib.Data.List.Basic
import Mathlib.Data.Nat.Find
import Mathlib.Tactic.Common

/-!
# Requests handed over in batches

A list of requests is handed to a server in batches of a fixed size.  The server executes a
batch in order and stops at its first failure; the client looks at the first request of each
batch only, and goes on with the next batch if that one succeeded.

`rc i` is the outcome of request `i`, counted over the whole list.

- `batches`: how the list is cut
- `okPrefix`: what the server executes of one batch
- `served`: what it executes of the whole list
- `reported`: what the client is told
- `FailureSeen`: when the client is told of the first failure
-/

namespace MtpSync

namespace Batch

variable {α : Type}

/-! ## §1 One batch -/

/-- The requests before the first failure; the first of them has number `i`. -/
def okPrefix (rc : ℕ → Bool) : ℕ → List α → List α
  | _, [] => []
  | i, x :: xs => if rc i then x :: okPrefix rc (i + 1) xs else []

/-- A request is executed when it and all before it succeed. -/
theorem mem_okPrefix {rc : ℕ → Bool} {i : ℕ} {l : List α} {x : α} :
    x ∈ okPrefix rc i l ↔ ∃ j, l[j]? = some x ∧ ∀ k ≤ j, rc (i + k) = true := by
  induction l generalizing i with
  | nil => simp [okPrefix]
  | cons y ys ih =>
    -- the first one that fails ends the prefix
    by_cases hi : rc i = true
    · rw [okPrefix, if_pos hi, List.mem_cons, ih]
      constructor
      · rintro (rfl | ⟨j, hj, hall⟩)
        · exact ⟨0, rfl, fun k hk => by rwa [Nat.le_zero.1 hk]⟩
        · refine ⟨j + 1, by simpa using hj, fun k hk => ?_⟩
          cases k with
          | zero => exact hi
          | succ k =>
            have h := hall k (by omega)
            rwa [Nat.add_assoc, Nat.add_comm 1 k] at h
      · rintro ⟨j, hj, hall⟩
        cases j with
        | zero => exact Or.inl (by simpa using hj.symm)
        | succ j =>
          refine Or.inr ⟨j, by simpa using hj, fun k hk => ?_⟩
          have h := hall (k + 1) (by omega)
          rwa [Nat.add_assoc, Nat.add_comm 1 k]
    · rw [okPrefix, if_neg hi]
      constructor
      · intro h
        exact absurd h List.not_mem_nil
      · rintro ⟨j, _, hall⟩
        exact absurd (hall 0 (Nat.zero_le j)) hi

/-- A batch without a failure is executed. -/
theorem okPrefix_of_all {rc : ℕ → Bool} {i : ℕ} {l : List α}
    (h : ∀ k < l.length, rc (i + k) = true) : okPrefix rc i l = l := by
  induction l generalizing i with
  | nil => rfl
  | cons x xs ih =>
    have hfirst : rc i = true := h 0 (Nat.succ_pos _)
    rw [okPrefix, if_pos hfirst, ih]
    intro k hk
    have hnext := h (k + 1) (Nat.succ_lt_succ hk)
    rwa [Nat.add_assoc, Nat.add_comm 1 k]

/-! ## §2 The whole list -/

/-- What the server executes of `l` in batches of `n + 1`. -/
def served (n : ℕ) (rc : ℕ → Bool) (i : ℕ) (l : List α) : List α :=
  match l with
  | [] => []
  | x :: xs =>
    okPrefix rc i ((x :: xs).take (n + 1)) ++
      if rc i then served n rc (i + (n + 1)) ((x :: xs).drop (n + 1)) else []
termination_by l.length
decreasing_by simp only [List.length_drop, List.length_cons]; omega

/-- What the client is told: whether the first request of every batch succeeded. -/
def reported (n : ℕ) (rc : ℕ → Bool) (i : ℕ) (l : List α) : Bool :=
  match l with
  | [] => true
  | x :: xs => rc i && reported n rc (i + (n + 1)) ((x :: xs).drop (n + 1))
termination_by l.length
decreasing_by simp only [List.length_drop, List.length_cons]; omega

theorem served_nil (n : ℕ) (rc : ℕ → Bool) (i : ℕ) : served n rc i ([] : List α) = [] := by
  rw [served]

theorem reported_nil (n : ℕ) (rc : ℕ → Bool) (i : ℕ) :
    reported n rc i ([] : List α) = true := by
  rw [reported]

/-- One batch, then the rest. -/
theorem served_of_ne_nil {n : ℕ} {rc : ℕ → Bool} {i : ℕ} {l : List α} (h : l ≠ []) :
    served n rc i l = okPrefix rc i (l.take (n + 1)) ++
      if rc i then served n rc (i + (n + 1)) (l.drop (n + 1)) else [] := by
  cases l with
  | nil => exact absurd rfl h
  | cons x xs => rw [served]

theorem reported_of_ne_nil {n : ℕ} {rc : ℕ → Bool} {i : ℕ} {l : List α} (h : l ≠ []) :
    reported n rc i l = (rc i && reported n rc (i + (n + 1)) (l.drop (n + 1))) := by
  cases l with
  | nil => exact absurd rfl h
  | cons x xs => rw [reported]

private theorem take_eq_some {l : List α} {n j : ℕ} {x : α} :
    (l.take n)[j]? = some x ↔ j < n ∧ l[j]? = some x := by
  rw [List.getElem?_take]
  split
  · next h => exact ⟨fun hx => ⟨h, hx⟩, fun hx => hx.2⟩
  · next h => exact ⟨fun hx => absurd hx (by simp), fun hx => absurd hx.1 h⟩

/-- The client is told of success exactly when every batch starts with a success. -/
theorem reported_iff {n : ℕ} {rc : ℕ → Bool} {i : ℕ} {l : List α} :
    reported n rc i l = true ↔
      ∀ j, j < l.length → j % (n + 1) = 0 → rc (i + j) = true := by
  fun_induction reported n rc i l with
  | case1 i => simp
  | case2 i x xs ih =>
    rw [Bool.and_eq_true, ih, List.length_drop]
    constructor
    · rintro ⟨hi, hrest⟩ j hj hmod
      rcases Nat.lt_or_ge j (n + 1) with hlt | hge
      · rw [Nat.mod_eq_of_lt hlt] at hmod
        rw [hmod]
        exact hi
      · have h := hrest (j - (n + 1)) (by omega) (by rwa [Nat.mod_eq_sub_mod hge] at hmod)
        rwa [Nat.add_assoc, Nat.add_sub_cancel' hge] at h
    · intro h
      refine ⟨h 0 (by simp) (Nat.zero_mod _), fun j hj hmod => ?_⟩
      have h' := h (n + 1 + j) (by omega) (by rwa [Nat.add_mod_left])
      rwa [← Nat.add_assoc] at h'

/-- When the client is told of success, a request was executed exactly when no request of its
batch up to and including it failed. -/
theorem mem_served {n : ℕ} {rc : ℕ → Bool} {i : ℕ} {l : List α}
    (hrep : reported n rc i l = true) {x : α} :
    x ∈ served n rc i l ↔
      ∃ j, l[j]? = some x ∧ ∀ k, j - j % (n + 1) ≤ k → k ≤ j → rc (i + k) = true := by
  fun_induction served n rc i l with
  | case1 i => simp
  | case2 i y ys ih =>
    rw [reported_of_ne_nil (List.cons_ne_nil y ys), Bool.and_eq_true] at hrep
    rw [if_pos hrep.1, List.mem_append, mem_okPrefix, ih hrep.2]
    constructor
    · -- in the first batch, or one batch further in the rest
      rintro (⟨j, hj, hall⟩ | ⟨j, hj, hall⟩)
      · exact ⟨j, (take_eq_some.1 hj).2, fun k _ hk => hall k hk⟩
      · rw [List.getElem?_drop] at hj
        refine ⟨n + 1 + j, hj, fun k hk hkj => ?_⟩
        rw [Nat.add_mod_left] at hk
        have hmod := Nat.mod_le j (n + 1)
        have h := hall (k - (n + 1)) (by omega) (by omega)
        rwa [Nat.add_assoc, Nat.add_sub_cancel' (by omega)] at h
    · rintro ⟨j, hj, hall⟩
      rcases Nat.lt_or_ge j (n + 1) with hlt | hge
      · refine Or.inl ⟨j, take_eq_some.2 ⟨hlt, hj⟩, fun k hk => ?_⟩
        exact hall k (by rw [Nat.mod_eq_of_lt hlt]; omega) hk
      · refine Or.inr ⟨j - (n + 1), ?_, fun k hk hkj => ?_⟩
        · rwa [List.getElem?_drop, Nat.add_sub_cancel' hge]
        · rw [← Nat.mod_eq_sub_mod hge] at hk
          have h := hall (n + 1 + k) (by omega) (by omega)
          rwa [← Nat.add_assoc] at h

/-- Nothing is executed that was not handed over. -/
theorem mem_of_mem_served {n : ℕ} {rc : ℕ → Bool} {i : ℕ} {l : List α} {x : α}
    (h : x ∈ served n rc i l) : x ∈ l := by
  fun_induction served n rc i l with
  | case1 i => exact absurd h List.not_mem_nil
  | case2 i y ys ih =>
    rcases List.mem_append.1 h with h | h
    · obtain ⟨j, hj, _⟩ := mem_okPrefix.1 h
      exact List.mem_of_getElem? (take_eq_some.1 hj).2
    · split at h
      · exact List.mem_of_mem_drop (ih h)
      · exact absurd h List.not_mem_nil

theorem okPrefix_map {β : Type} (f : α → β) (rc : ℕ → Bool) (i : ℕ) (l : List α) :
    okPrefix rc i (l.map f) = (okPrefix rc i l).map f := by
  induction l generalizing i with
  | nil => rfl
  | cons x xs ih =>
    rw [List.map_cons, okPrefix, okPrefix, ih]
    split <;> rfl

/-- What is executed depends on the places of the requests only. -/
theorem served_map {β : Type} (f : α → β) (n : ℕ) (rc : ℕ → Bool) (i : ℕ) (l : List α) :
    served n rc i (l.map f) = (served n rc i l).map f := by
  fun_induction served n rc i l with
  | case1 i => rw [List.map_nil, served_nil]
  | case2 i x xs ih =>
    rw [served_of_ne_nil (by simp), ← List.map_take, ← List.map_drop, okPrefix_map,
      List.map_append, ih]
    split <;> rfl

/-- When every request succeeds, all are executed. -/
theorem served_of_ok {rc : ℕ → Bool} (h : ∀ j, rc j = true) (n i : ℕ) (l : List α) :
    served n rc i l = l := by
  fun_induction served n rc i l with
  | case1 i => rfl
  | case2 i y ys ih =>
    rw [okPrefix_of_all fun k _ => h (i + k), if_pos (h i), ih, List.take_append_drop]

/-- When every request succeeds, the client is told so. -/
theorem reported_of_ok {rc : ℕ → Bool} (h : ∀ j, rc j = true) (n i : ℕ) (l : List α) :
    reported n rc i l = true :=
  reported_iff.2 fun j _ _ => h (i + j)

/-! ## §3 The batches -/

/-- `l` cut into lists of `n + 1`, the last of which may be shorter. -/
def batches (n : ℕ) (l : List α) : List (List α) :=
  match l with
  | [] => []
  | x :: xs => (x :: xs).take (n + 1) :: batches n ((x :: xs).drop (n + 1))
termination_by l.length
decreasing_by simp only [List.length_drop, List.length_cons]; omega

@[simp] theorem batches_nil (n : ℕ) : batches n ([] : List α) = [] := by
  rw [batches]

theorem batches_of_ne_nil {n : ℕ} {l : List α} (h : l ≠ []) :
    batches n l = l.take (n + 1) :: batches n (l.drop (n + 1)) := by
  cases l with
  | nil => exact absurd rfl h
  | cons x xs => rw [batches]

/-- A list that fits is one batch. -/
theorem batches_of_length_le {n : ℕ} {l : List α} (hne : l ≠ []) (hlen : l.length ≤ n + 1) :
    batches n l = [l] := by
  rw [batches_of_ne_nil hne, List.take_of_length_le hlen, List.drop_of_length_le hlen,
    batches_nil]

/-- A full batch, and a list that goes on. -/
theorem batches_append {n : ℕ} {b l : List α} (hb : b.length = n + 1) :
    batches n (b ++ l) = b :: batches n l := by
  have hne : b ++ l ≠ [] := by
    apply List.append_ne_nil_of_left_ne_nil
    apply List.ne_nil_of_length_pos
    omega
  rw [batches_of_ne_nil hne, ← hb, List.take_left, List.drop_left]

theorem batches_map {β : Type} (f : α → β) (n : ℕ) (l : List α) :
    batches n (l.map f) = (batches n l).map (List.map f) := by
  fun_induction batches n l with
  | case1 => rw [List.map_nil, batches_nil, List.map_nil]
  | case2 x xs ih =>
    rw [batches_of_ne_nil (by simp), ← List.map_take, ← List.map_drop, ih, List.map_cons]

/-- Nothing is lost, repeated or moved. -/
theorem flatten_batches (n : ℕ) (l : List α) : (batches n l).flatten = l := by
  fun_induction batches n l with
  | case1 => rfl
  | case2 x xs ih => rw [List.flatten_cons, ih, List.take_append_drop]

/-- No batch is empty, and none is too long. -/
theorem length_of_mem_batches {n : ℕ} {l b : List α} (h : b ∈ batches n l) :
    1 ≤ b.length ∧ b.length ≤ n + 1 := by
  fun_induction batches n l with
  | case1 => exact absurd h List.not_mem_nil
  | case2 x xs ih =>
    rcases List.mem_cons.1 h with rfl | h
    · rw [List.length_take, List.length_cons]
      omega
    · exact ih h

/-- Only the last batch can be short. -/
theorem length_of_not_last {n : ℕ} {l b : List α} {k : ℕ} (h : (batches n l)[k]? = some b)
    (hlast : k + 1 < (batches n l).length) : b.length = n + 1 := by
  fun_induction batches n l generalizing k with
  | case1 => exact absurd hlast (Nat.not_lt_zero _)
  | case2 x xs ih =>
    cases k with
    | zero =>
      -- a batch follows, so the list was longer than this one
      have hb : (x :: xs).take (n + 1) = b := by simpa using h
      have hrest : (x :: xs).drop (n + 1) ≠ [] := by
        intro hnil
        rw [hnil, batches_nil] at hlast
        exact absurd hlast (Nat.lt_irrefl 1)
      rw [← hb, List.length_take]
      have hlen := List.length_pos_iff.2 hrest
      rw [List.length_drop] at hlen
      omega
    | succ k =>
      apply ih (k := k)
      · simpa using h
      · simpa using hlast

/-! ## §4 What the client misses -/

/-- The first failure, if there is one, is reported to the client and ends the sending: it is the
first request of its batch, or the next batch starts with a failure too. -/
def FailureSeen (n : ℕ) (rc : ℕ → Bool) (i len : ℕ) : Prop :=
  ∀ k < len, rc (i + k) = false → (∀ j < k, rc (i + j) = true) →
    k % (n + 1) = 0 ∨
      (n + 1) * (k / (n + 1) + 1) < len ∧ rc (i + (n + 1) * (k / (n + 1) + 1)) = false

/-- What the client is told is true: all was executed, or all before a certain request was. -/
def Faithful (n : ℕ) (rc : ℕ → Bool) (i : ℕ) (l : List α) : Prop :=
  (reported n rc i l = true → served n rc i l = l) ∧
    (reported n rc i l = false → served n rc i l <+: l)

theorem Faithful.isPrefix {n : ℕ} {rc : ℕ → Bool} {i : ℕ} {l : List α}
    (h : Faithful n rc i l) : served n rc i l <+: l := by
  cases hrep : reported n rc i l with
  | true =>
    have heq := h.1 hrep
    exact ⟨[], by rw [List.append_nil, heq]⟩
  | false => exact h.2 hrep

/-- A batch is executed up to its first failure. -/
theorem okPrefix_of_first {rc : ℕ → Bool} {i k : ℕ} {l : List α} (hk : k < l.length)
    (hfail : rc (i + k) = false) (hbefore : ∀ j < k, rc (i + j) = true) :
    okPrefix rc i l = l.take k := by
  induction l generalizing i k with
  | nil => exact absurd hk (Nat.not_lt_zero k)
  | cons x xs ih =>
    cases k with
    | zero =>
      rw [okPrefix, if_neg]
      · rfl
      · rw [Nat.add_zero] at hfail
        simp [hfail]
    | succ k =>
      have hfirst : rc i = true := hbefore 0 (Nat.succ_pos k)
      rw [okPrefix, if_pos hfirst, List.take_succ_cons, ih]
      · exact Nat.lt_of_succ_lt_succ hk
      · rwa [Nat.add_assoc, Nat.add_comm 1 k]
      · intro j hj
        have hnext := hbefore (j + 1) (Nat.succ_lt_succ hj)
        rwa [Nat.add_assoc, Nat.add_comm 1 j]

section FirstBatch

variable {n : ℕ} {rc : ℕ → Bool} {i : ℕ} {l : List α}

/-- The first request fails: the client is told so, and nothing is executed. -/
private theorem faithful_of_failed (hne : l ≠ []) (hi : rc i = false) :
    Faithful n rc i l := by
  constructor
  · intro hrep
    rw [reported_of_ne_nil hne, hi] at hrep
    cases hrep
  · intro _
    have hfirst : okPrefix rc i (l.take (n + 1)) = [] := by
      obtain ⟨x, xs, rfl⟩ := List.exists_cons_of_ne_nil hne
      rw [List.take_succ_cons, okPrefix, if_neg (by simp [hi])]
    rw [served_of_ne_nil hne, hfirst, if_neg (by simp [hi])]
    exact List.nil_prefix

/-- The first batch succeeds: it comes down to the others. -/
private theorem faithful_of_whole (hne : l ≠ [])
    (hall : ∀ k < (l.take (n + 1)).length, rc (i + k) = true) :
    Faithful n rc i l ↔ Faithful n rc (i + (n + 1)) (l.drop (n + 1)) := by
  have hi : rc i = true := by
    apply hall 0
    rw [List.length_take]
    have hpos := List.length_pos_iff.2 hne
    omega
  -- all of the first batch is served and reported, so only the rest decides
  have hserved : served n rc i l =
      l.take (n + 1) ++ served n rc (i + (n + 1)) (l.drop (n + 1)) := by
    rw [served_of_ne_nil hne, okPrefix_of_all hall, if_pos hi]
  have hreported : reported n rc i l = reported n rc (i + (n + 1)) (l.drop (n + 1)) := by
    rw [reported_of_ne_nil hne, hi, Bool.true_and]
  have hall : ∀ s : List α, l.take (n + 1) ++ s = l ↔ s = l.drop (n + 1) := by
    intro s
    constructor
    · intro h
      exact List.append_cancel_left (h.trans (List.take_append_drop _ _).symm)
    · intro h
      rw [h, List.take_append_drop]
  have hprefix : ∀ s : List α, l.take (n + 1) ++ s <+: l ↔ s <+: l.drop (n + 1) := by
    intro s
    have h : l.take (n + 1) ++ s <+: l.take (n + 1) ++ l.drop (n + 1) ↔ s <+: l.drop (n + 1) :=
      List.prefix_append_right_inj _
    rwa [List.take_append_drop] at h
  rw [Faithful, Faithful, hserved, hreported, hall, hprefix]

/-- The numbers of the other batches, counted from their own start. -/
private theorem failureSeen_of_whole
    (hall : ∀ k < (l.take (n + 1)).length, rc (i + k) = true) :
    FailureSeen n rc i l.length ↔ FailureSeen n rc (i + (n + 1)) (l.drop (n + 1)).length := by
  rw [List.length_take] at hall
  rw [List.length_drop]
  constructor
  · intro h k hk hfail hbefore
    -- a failure of the rest is one of the list, a whole batch later
    have hshift : i + (n + 1) + k = i + (k + (n + 1)) := by omega
    have hseen := h (k + (n + 1)) (by omega) (by rwa [← hshift]) fun j hj => ?_
    · rw [Nat.add_mod_right, Nat.add_div_right k (Nat.succ_pos n)] at hseen
      refine hseen.imp_right fun hnext => ?_
      rw [Nat.mul_succ (n + 1) (k / (n + 1)).succ, Nat.succ_eq_add_one] at hnext
      refine ⟨by omega, ?_⟩
      rw [Nat.add_assoc, Nat.add_comm (n + 1)]
      exact hnext.2
    · -- before the first failure of the rest, or in the first batch
      rcases Nat.lt_or_ge j (n + 1) with hlt | hge
      · exact hall j (by omega)
      · have hrest := hbefore (j - (n + 1)) (by omega)
        rwa [Nat.add_assoc, Nat.add_sub_cancel' hge] at hrest
  · intro h k hk hfail hbefore
    -- no failure is in the first batch
    have hlate : n + 1 ≤ k := by
      by_contra hlt
      have hok := hall k (by omega)
      rw [hfail] at hok
      cases hok
    have hshift : i + (n + 1) + (k - (n + 1)) = i + k := by omega
    have hseen := h (k - (n + 1)) (by omega) (by rwa [hshift]) fun j hj => ?_
    · rw [← Nat.mod_eq_sub_mod hlate] at hseen
      refine hseen.imp_right fun hnext => ?_
      have hdiv : k / (n + 1) = (k - (n + 1)) / (n + 1) + 1 := by
        rw [← Nat.add_div_right (k - (n + 1)) (Nat.succ_pos n)]
        congr 1
        omega
      rw [hdiv, Nat.mul_succ (n + 1) ((k - (n + 1)) / (n + 1) + 1)]
      refine ⟨by omega, ?_⟩
      rw [← hnext.2]
      congr 1
      omega
    · have hrest := hbefore (j + (n + 1)) (by omega)
      rwa [Nat.add_assoc, Nat.add_comm (n + 1) j]

/-- The first batch fails, but not at once: what matters is the first request after it. -/
private theorem faithful_of_cut {k : ℕ} (hnodup : l.Nodup) (hk : k < (l.take (n + 1)).length)
    (hfail : rc (i + k) = false) (hbefore : ∀ j < k, rc (i + j) = true) (hpos : 0 < k) :
    Faithful n rc i l ↔ n + 1 < l.length ∧ rc (i + (n + 1)) = false := by
  have hlen := hk
  rw [List.length_take] at hlen
  have hne : l ≠ [] := by
    apply List.ne_nil_of_length_pos
    omega
  have hi : rc i = true := hbefore 0 hpos
  have hserved : served n rc i l = l.take k ++ served n rc (i + (n + 1)) (l.drop (n + 1)) := by
    rw [served_of_ne_nil hne, okPrefix_of_first hk hfail hbefore, if_pos hi, List.take_take,
      Nat.min_eq_left (by omega)]
  have hreported : reported n rc i l = reported n rc (i + (n + 1)) (l.drop (n + 1)) := by
    rw [reported_of_ne_nil hne, hi, Bool.true_and]
  have hcut : l.take k ≠ l := by
    intro h
    have hlen' := congrArg List.length h
    rw [List.length_take] at hlen'
    omega
  constructor
  · intro h
    have hrest : l.drop (n + 1) ≠ [] := by
      -- otherwise the client is told that all went well
      intro hnil
      rw [hnil, reported_nil] at hreported
      have hwhole := h.1 hreported
      rw [hserved, hnil, served_nil, List.append_nil] at hwhole
      exact hcut hwhole
    obtain ⟨y, ys, hy⟩ := List.exists_cons_of_ne_nil hrest
    have hmore := List.length_pos_iff.2 hrest
    rw [List.length_drop] at hmore
    refine ⟨by omega, ?_⟩
    by_contra hnext
    have hnext : rc (i + (n + 1)) = true := by simpa using hnext
    -- the first request of the next batch was executed in the place of the one that failed
    obtain ⟨t, ht⟩ : ∃ t, served n rc (i + (n + 1)) (l.drop (n + 1)) = y :: t := by
      rw [hy, served_of_ne_nil (List.cons_ne_nil y ys), List.take_succ_cons, okPrefix,
        if_pos hnext, List.cons_append]
      exact ⟨_, rfl⟩
    obtain ⟨u, hu⟩ := h.isPrefix
    rw [hserved, ht] at hu
    have hat : l[k]? = some y := by
      rw [← hu, List.append_assoc, List.getElem?_append_right (by rw [List.length_take]; omega),
        List.length_take, Nat.min_eq_left (by omega), Nat.sub_self]
      rfl
    have hat' : l[n + 1]? = some y := by
      have h0 : (l.drop (n + 1))[0]? = some y := by
        rw [hy]
        rfl
      rwa [List.getElem?_drop, Nat.add_zero] at h0
    have hsame : k = n + 1 := (List.getElem?_inj (by omega) hnodup).1
      (hat.trans hat'.symm)
    omega
  · rintro ⟨hmore, hnext⟩
    have hrest : l.drop (n + 1) ≠ [] := by
      apply List.ne_nil_of_length_pos
      rw [List.length_drop]
      omega
    constructor
    · intro hrep
      rw [hreported, reported_of_ne_nil hrest, hnext] at hrep
      cases hrep
    · intro _
      have hfirst : served n rc (i + (n + 1)) (l.drop (n + 1)) = [] := by
        obtain ⟨y, ys, hy⟩ := List.exists_cons_of_ne_nil hrest
        rw [hy, served_of_ne_nil (List.cons_ne_nil y ys), List.take_succ_cons, okPrefix,
          if_neg (by simp [hnext]), if_neg (by simp [hnext])]
        rfl
      rw [hserved, hfirst, List.append_nil]
      exact List.take_prefix k l

private theorem failureSeen_of_cut {k : ℕ} (hk : k < (l.take (n + 1)).length)
    (hfail : rc (i + k) = false) (hbefore : ∀ j < k, rc (i + j) = true) (hpos : 0 < k) :
    FailureSeen n rc i l.length ↔ n + 1 < l.length ∧ rc (i + (n + 1)) = false := by
  rw [List.length_take] at hk
  have hdiv : k / (n + 1) = 0 := Nat.div_eq_of_lt (by omega)
  have hmod : k % (n + 1) = k := Nat.mod_eq_of_lt (by omega)
  constructor
  · intro h
    rcases h k (by omega) hfail hbefore with hzero | hnext
    · omega
    · rwa [hdiv, Nat.zero_add, Nat.mul_one] at hnext
  · intro h j _ hj hjbefore
    -- there is one first failure
    have hjk : j = k := by
      rcases Nat.lt_trichotomy j k with hlt | heq | hgt
      · have hok := hbefore j hlt
        rw [hj] at hok
        cases hok
      · exact heq
      · have hok := hjbefore k hgt
        rw [hfail] at hok
        cases hok
    rw [hjk, hdiv, Nat.zero_add, Nat.mul_one]
    exact .inr h

end FirstBatch

/-- **The client is told the truth exactly when it sees the first failure.** -/
theorem faithful_iff {n : ℕ} {rc : ℕ → Bool} {i : ℕ} {l : List α} (hnodup : l.Nodup) :
    Faithful n rc i l ↔ FailureSeen n rc i l.length := by
  fun_induction batches n l generalizing i with
  | case1 =>
    refine iff_of_true ⟨fun _ => served_nil n rc i, fun h => ?_⟩ fun k hk => ?_
    · rw [reported_nil] at h
      cases h
    · exact absurd hk (Nat.not_lt_zero k)
  | case2 x xs ih =>
    have hne : x :: xs ≠ [] := List.cons_ne_nil x xs
    by_cases hall : ∀ k < ((x :: xs).take (n + 1)).length, rc (i + k) = true
    · rw [faithful_of_whole hne hall, failureSeen_of_whole hall]
      exact ih (hnodup.sublist (List.drop_sublist _ _))
    · -- the first failure of this batch
      have hex : ∃ k, k < ((x :: xs).take (n + 1)).length ∧ rc (i + k) = false := by
        by_contra hnone
        apply hall
        intro k hk
        cases hrc : rc (i + k) with
        | true => rfl
        | false => exact absurd ⟨k, hk, hrc⟩ hnone
      obtain ⟨hk, hfail⟩ := Nat.find_spec hex
      have hbefore : ∀ j < Nat.find hex, rc (i + j) = true := by
        intro j hj
        have hmin := Nat.find_min hex hj
        have hlt : j < ((x :: xs).take (n + 1)).length := Nat.lt_trans hj hk
        by_contra hno
        exact hmin ⟨hlt, by simpa using hno⟩
      rcases Nat.eq_zero_or_pos (Nat.find hex) with hzero | hpos
      · rw [hzero, Nat.add_zero] at hfail
        refine iff_of_true (faithful_of_failed hne hfail) fun k _ _ hkbefore => ?_
        -- the first failure is the first request
        rcases Nat.eq_zero_or_pos k with rfl | hkpos
        · exact .inl (Nat.zero_mod _)
        · have hok := hkbefore 0 hkpos
          rw [Nat.add_zero, hfail] at hok
          cases hok
      · rw [faithful_of_cut hnodup hk hfail hbefore hpos,
          failureSeen_of_cut hk hfail hbefore hpos]

end Batch

end MtpSync
