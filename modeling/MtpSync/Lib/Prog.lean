import MtpSync.Lib.Run

/-!
# Programs over calls that answer or throw

A program makes calls; each answers with a truth value or ends in an exception, and the program
goes on from there or catches the exception.  What a call does to the state is given apart, as a
partial effect: a call without an effect waits, and what waits does not come back.

- §1 programs, sequencing, `try`
- §2 runs along a trace of answered calls
- §3 weakest preconditions over every answer
- §4 states watched by a monitor
-/

namespace MtpSync

/-- A program over the calls `C`.  A call is answered by `some b`, or by `none` if it throws. -/
inductive Prog (C α : Type) where
  | ret (a : α)
  /-- an exception nothing has caught so far -/
  | threw
  | call (c : C) (next : Option Bool → Prog C α)

namespace Prog

variable {C σ μ α β : Type}

/-! ## §1 Programs -/

def andThen : Prog C α → (α → Prog C β) → Prog C β
  | ret a, f => f a
  | threw, _ => threw
  | call c next, f => call c fun b => (next b).andThen f

instance : Monad (Prog C) where
  pure := ret
  bind := andThen

/-- `try { p } catch ( ... ) { h }` -/
def tryCatch : Prog C α → Prog C α → Prog C α
  | ret a, _ => ret a
  | threw, h => h
  | call c next, h => call c fun b => (next b).tryCatch h

/-- A call whose exception goes on to the caller. -/
def must (c : C) : Prog C Bool :=
  call c fun
    | some b => ret b
    | none => threw

/-- A call that catches its own exceptions and answers `FALSE` then. -/
def guarded (c : C) : Prog C Bool := call c fun b => ret (b.getD false)

/-- A call whose answer is not looked at. -/
def act (c : C) : Prog C Unit := call c fun _ => ret ()

/-! ## §2 Runs -/

/-- The calls of a run, with their answers. -/
abbrev Trace (C : Type) := List (C × Option Bool)

variable (effect : C × Option Bool → σ → Option σ)

/-- Run a program along a trace: what it returns, `none` for an exception, and the state it
leaves.  There is no such run if the trace is not one of the program or a call waits. -/
def run [DecidableEq C] : Prog C α → Trace C → σ → Option (Option α × σ)
  | ret a, [], s => some (some a, s)
  | threw, [], s => some (none, s)
  | call c next, e :: tr, s =>
    if c = e.1 then (effect e s).bind fun t => (next e.2).run tr t else none
  | _, _, _ => none

/-- One step of a machine whose events are functions with the trace of their calls. -/
def step {ι : Type} [DecidableEq C] (body : ι → Prog C α) (s : σ) (e : ι × Trace C) : Option σ :=
  ((body e.1).run effect e.2 s).map Prod.snd

/-! ## §3 Weakest preconditions -/

/-- However the calls answer, the program ends, if it does, as `Q` says. -/
def wp : Prog C α → (Option α → σ → Prop) → σ → Prop
  | ret a, Q, s => Q (some a) s
  | threw, Q, s => Q none s
  | call c next, Q, s => ∀ b t, effect (c, b) s = some t → (next b).wp Q t

variable {effect} {p : Prog C α} {Q R : Option α → σ → Prop} {s : σ}

theorem wp_pure {a : α} (h : Q (some a) s) : (pure a : Prog C α).wp effect Q s := h

/-- What holds of every run holds of a run along a trace. -/
theorem wp.of_run [DecidableEq C] {tr : Trace C} {r : Option α} {t : σ} (h : p.wp effect Q s)
    (hrun : p.run effect tr s = some (r, t)) : Q r t := by
  -- the trace answers each call, so it is used up with the program
  induction p generalizing tr s with
  | ret a =>
    cases tr with
    | nil => cases hrun; exact h
    | cons e tr => cases hrun
  | threw =>
    cases tr with
    | nil => cases hrun; exact h
    | cons e tr => cases hrun
  | call c next ih =>
    cases tr with
    | nil => cases hrun
    | cons e tr =>
      rw [run] at hrun
      split at hrun
      · next hc =>
        obtain ⟨u, hu, hnext⟩ := Option.bind_eq_some_iff.1 hrun
        subst hc
        exact ih e.2 (h e.2 u hu) hnext
      · cases hrun

theorem wp.mono (h : p.wp effect R s) (hQ : ∀ r t, R r t → Q r t) : p.wp effect Q s := by
  induction p generalizing s with
  | ret a => exact hQ _ _ h
  | threw => exact hQ _ _ h
  | call c next ih => exact fun b t ht => ih b (h b t ht)

theorem wp_true : p.wp effect (fun _ _ => True) s := by
  induction p generalizing s with
  | ret a => trivial
  | threw => trivial
  | call c next ih => exact fun b t _ => ih b

theorem wp.and (hQ : p.wp effect Q s) (hR : p.wp effect R s) :
    p.wp effect (fun r t => Q r t ∧ R r t) s := by
  induction p generalizing s with
  | ret a => exact ⟨hQ, hR⟩
  | threw => exact ⟨hQ, hR⟩
  | call c next ih => exact fun b t ht => ih b (hQ b t ht) (hR b t ht)

/-- The rule of sequencing. -/
theorem wp.bind {f : α → Prog C β} {Q : Option β → σ → Prop} (h : p.wp effect R s)
    (hsome : ∀ a t, R (some a) t → (f a).wp effect Q t) (hnone : ∀ t, R none t → Q none t) :
    (p >>= f).wp effect Q s := by
  induction p generalizing s with
  | ret a => exact hsome a s h
  | threw => exact hnone s h
  | call c next ih => exact fun b t ht => ih b (h b t ht)

/-- The rule of `try`. -/
theorem wp.tryCatch {h : Prog C α} (hp : p.wp effect R s)
    (hsome : ∀ a t, R (some a) t → Q (some a) t) (hnone : ∀ t, R none t → h.wp effect Q t) :
    (p.tryCatch h).wp effect Q s := by
  induction p generalizing s with
  | ret a => exact hsome a s hp
  | threw => exact hnone s hp
  | call c next ih => exact fun b t ht => ih b (hp b t ht)

theorem wp_ite {c : Prop} [Decidable c] {q : Prog C α} (hp : c → p.wp effect Q s)
    (hq : ¬ c → q.wp effect Q s) : (if c then p else q).wp effect Q s := by
  split
  · next h => exact hp h
  · next h => exact hq h

theorem wp_must {c : C} {Q : Option Bool → σ → Prop}
    (hsome : ∀ b t, effect (c, some b) s = some t → Q (some b) t)
    (hnone : ∀ t, effect (c, none) s = some t → Q none t) : (must c).wp effect Q s := by
  intro b t ht
  cases b with
  | none => exact hnone t ht
  | some b => exact hsome b t ht

theorem wp_guarded {c : C} {Q : Option Bool → σ → Prop}
    (h : ∀ b t, effect (c, b) s = some t → Q (some (b.getD false)) t) :
    (guarded c).wp effect Q s := h

/-! ## §4 Monitors -/

/-- The effect, with a monitor that reads every answered call. -/
def watch (effect : C × Option Bool → σ → Option σ) (note : μ → C × Option Bool → μ) :
    C × Option Bool → σ × μ → Option (σ × μ) :=
  fun e w => (effect e w.1).map fun t => (t, note w.2 e)

/-- A run is a watched run, and the monitor has read its trace. -/
theorem run_watch [DecidableEq C] {note : μ → C × Option Bool → μ} {tr : Trace C} {m : μ}
    {r : Option α} {t : σ} (h : p.run effect tr s = some (r, t)) :
    p.run (watch effect note) tr (s, m) = some (r, (t, tr.foldl note m)) := by
  -- each call is noted as its answer is read off the trace
  induction p generalizing tr s m with
  | ret a =>
    cases tr with
    | nil => cases h; rfl
    | cons e tr => cases h
  | threw =>
    cases tr with
    | nil => cases h; rfl
    | cons e tr => cases h
  | call c next ih =>
    cases tr with
    | nil => cases h
    | cons e tr =>
      rw [run] at h ⊢
      split at h
      · next hc =>
        obtain ⟨u, hu, hnext⟩ := Option.bind_eq_some_iff.1 h
        have hw : watch effect note e (s, m) = some (u, note m e) := by
          rw [watch, hu, Option.map_some]
        rw [if_pos hc, hw, Option.bind_some]
        exact ih e.2 hnext
      · cases h

end Prog

end MtpSync
