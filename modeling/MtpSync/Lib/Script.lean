import MtpSync.Lib.Act
import Mathlib.Data.Set.Basic

/-!
# The states a call passes through

An `Act` tells what a call leaves, not what it passes through.  A script of a call says which
calls it makes: it carries the call it is a script of in its type, so that a call and its script
cannot disagree.  Over a script there are the states after each of its calls, with a log that a
monitor keeps of the states around them, and a condition that the calls made so far have met.

- §1 scripts
- §2 the states reached
- §3 rules for what holds in all of them
-/

namespace MtpSync

/-! ## §1 Scripts -/

/-- The calls a script may make, and what a monitor logs of each. -/
structure Calls (σ μ : Type) where
  /-- the calls, by what they answer -/
  Call : Type → Type 1
  act : {α : Type} → Call α → Act σ α
  /-- the log after a call, by the state before it and the state it leaves -/
  log : {α : Type} → Call α → σ → σ → μ → μ

variable {σ μ α β : Type}

/-- A script of a call: the calls it makes, in their order. -/
inductive Script (L : Calls σ μ) : {α : Type} → Act σ α → Type 1 where
  | ret {α : Type} (a : α) : Script L (pure a)
  | halt {α : Type} (h : Halt) : Script L (Act.halt h : Act σ α)
  | call {α : Type} (c : L.Call α) : Script L (L.act c)
  | seq {α β : Type} {m : Act σ α} {f : α → Act σ β} (p : Script L m)
      (q : ∀ a, Script L (f a)) : Script L (m >>= f)

namespace Script

variable {L : Calls σ μ}

/-- The script of a choice. -/
def ite {c : Prop} [h : Decidable c] {m n : Act σ α} (p : Script L m) (q : Script L n) :
    Script L (if c then m else n) :=
  match h with
  | .isTrue _ => p
  | .isFalse _ => q

/-! ## §2 The states reached -/

variable (ok : {α : Type} → L.Call α → σ → Bool)

/-- What the script returns, with the state and the log then, if it comes to its end and all its
calls meet `ok`. -/
def final : {α : Type} → {m : Act σ α} → Script L m → σ × μ → Option (α × (σ × μ))
  | _, _, ret a, s => some (a, s)
  | _, _, halt _, _ => none
  | _, _, call c, s =>
    if ok c s.1 then
      match (L.act c).run s.1 with
      | (.ok a, t) => some (a, (t, L.log c s.1 t s.2))
      | (.error _, _) => none
    else none
  | _, _, seq p q, s => (p.final s).bind fun r => (q r.1).final r.2

/-- The state and the log after a call. -/
def after (c : L.Call α) (s : σ × μ) : σ × μ :=
  (((L.act c).run s.1).2, L.log c s.1 ((L.act c).run s.1).2 s.2)

/-- The states and the logs after the calls of the script, up to the first call that does not
meet `ok`. -/
def passed : {α : Type} → {m : Act σ α} → Script L m → σ × μ → List (σ × μ)
  | _, _, ret _, _ => []
  | _, _, halt _, _ => []
  | _, _, call c, s =>
    if ok c s.1 then [after c s] else []
  | _, _, seq p q, s =>
    p.passed s ++ match p.final ok s with
      | some r => (q r.1).passed r.2
      | none => []

variable {ok} {m : Act σ α} {p : Script L m}

theorem mem_passed_call {c : L.Call α} {s t : σ × μ} :
    t ∈ (call c).passed ok s ↔ ok c s.1 = true ∧ t = after c s := by
  unfold passed
  split
  next hok => simp [hok]
  next hok => simp [hok]

theorem mem_passed_seq {f : α → Act σ β} {q : ∀ a, Script L (f a)} {s t : σ × μ} :
    t ∈ (seq p q).passed ok s ↔
      t ∈ p.passed ok s ∨ ∃ a u, p.final ok s = some (a, u) ∧ t ∈ (q a).passed ok u := by
  rw [passed, List.mem_append]
  refine or_congr_right ?_
  cases hp : p.final ok s with
  | none => simp
  | some r =>
    obtain ⟨a, u⟩ := r
    constructor
    · intro ht
      exact ⟨a, u, rfl, ht⟩
    · rintro ⟨b, v, hv, ht⟩
      cases hv
      exact ht

theorem final_call {c : L.Call α} {s t : σ × μ} {a : α} :
    (call c).final ok s = some (a, t) ↔
      ok c s.1 = true ∧ ((L.act c).run s.1).1 = .ok a ∧ t = after c s := by
  unfold final
  split
  next hok =>
    rw [after]
    rcases (L.act c).run s.1 with ⟨e | b, u⟩
    · simp [hok]
    · simp only [hok, true_and, Option.some.injEq, Prod.mk.injEq, Except.ok.injEq]
      exact and_congr_right' eq_comm
  next hok => simp [hok]

theorem final_seq {f : α → Act σ β} {q : ∀ a, Script L (f a)} {s t : σ × μ} {b : β} :
    (seq p q).final ok s = some (b, t) ↔
      ∃ a u, p.final ok s = some (a, u) ∧ (q a).final ok u = some (b, t) := by
  rw [final, Option.bind_eq_some_iff, Prod.exists]

/-! ## §3 Rules -/

variable (ok) in
/-- From a state as `P` says, the script passes through states as `J` says only, and ends, if it
does, as `Q` says. -/
def Passes (J P : σ × μ → Prop) (p : Script L m) (Q : α → σ × μ → Prop) : Prop :=
  ∀ s, P s → (∀ t ∈ p.passed ok s, J t) ∧ ∀ a t, p.final ok s = some (a, t) → Q a t

variable {J P P' : σ × μ → Prop} {Q Q' : α → σ × μ → Prop}

theorem passes_ret {a : α} (h : ∀ s, P s → Q a s) :
    (ret a : Script L (pure a)).Passes ok J P Q := by
  intro s hs
  constructor
  · intro t ht
    exact absurd ht List.not_mem_nil
  · intro b t ht
    cases ht
    exact h s hs

theorem passes_halt {e : Halt} : (halt e : Script L (Act.halt e)).Passes ok J P Q := by
  intro s hs
  constructor
  · intro t ht
    exact absurd ht List.not_mem_nil
  · intro b t ht
    cases ht

/-- A call: what holds of the state it leaves, however it ends, and what if it answers. -/
theorem passes_call {c : L.Call α} (hJ : ∀ s, P s → ok c s.1 = true → J (after c s))
    (hQ : ∀ s a, P s → ok c s.1 = true → ((L.act c).run s.1).1 = .ok a → Q a (after c s)) :
    (call c).Passes ok J P Q := by
  intro s hs
  constructor
  · intro t ht
    obtain ⟨hok, rfl⟩ := mem_passed_call.1 ht
    exact hJ s hs hok
  · intro a t ht
    obtain ⟨hok, hrun, rfl⟩ := final_call.1 ht
    exact hQ s a hs hok hrun

/-- The rule of sequencing. -/
theorem Passes.seq {f : α → Act σ β} {q : ∀ a, Script L (f a)} {R : β → σ × μ → Prop}
    (hp : p.Passes ok J P Q) (hq : ∀ a, (q a).Passes ok J (Q a) R) :
    (seq p q).Passes ok J P R := by
  intro s hs
  obtain ⟨hreach, hend⟩ := hp s hs
  constructor
  · intro t ht
    rcases mem_passed_seq.1 ht with ht | ⟨a, u, hu, ht⟩
    · exact hreach t ht
    · exact (hq a u (hend a u hu)).1 t ht
  · intro b t ht
    obtain ⟨a, u, hu, ht⟩ := final_seq.1 ht
    exact (hq a u (hend a u hu)).2 b t ht

/-- The rule of choice. -/
theorem Passes.ite {c : Prop} [h : Decidable c] {n : Act σ α} {q : Script L n}
    (hp : p.Passes ok J P Q) (hq : q.Passes ok J P Q) :
    (Script.ite (c := c) p q).Passes ok J P Q := by
  cases h with
  | isTrue h => exact hp
  | isFalse h => exact hq

/-- The rule of consequence. -/
theorem Passes.mono (h : p.Passes ok J P Q) (hP : ∀ s, P' s → P s) (hQ : ∀ a s, Q a s → Q' a s) :
    p.Passes ok J P' Q' := by
  intro s hs
  obtain ⟨hreach, hend⟩ := h s (hP s hs)
  exact ⟨hreach, fun a t ht => hQ a t (hend a t ht)⟩

/-- What holds before every call and after it. -/
abbrev Steady (ok : {α : Type} → L.Call α → σ → Bool) (J : σ × μ → Prop) (p : Script L m) :
    Prop := p.Passes ok J J fun _ => J

/-- A call that keeps `J`. -/
theorem steady_call {c : L.Call α} (h : ∀ s, J s → ok c s.1 = true → J (after c s)) :
    (call c).Steady ok J :=
  passes_call h fun s _ hs hok _ => h s hs hok

end Script

end MtpSync
