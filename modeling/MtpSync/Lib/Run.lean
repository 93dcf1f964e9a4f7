import Mathlib.Data.List.Basic

/-!
# Runs of a state machine

A machine is a partial step function on states and events.  `Run step ok` are its runs all of
whose steps meet the condition `ok`; what holds at the start and is kept by every such step
holds at the end.  `Run.of_eval` builds a run by evaluation.
-/

namespace MtpSync

variable {σ ε : Type}

/-- The runs of `step` in which every step meets `ok`, with their events. -/
inductive Run (step : σ → ε → Option σ) (ok : σ → ε → Prop) : σ → List ε → σ → Prop where
  | nil {s : σ} : Run step ok s [] s
  | cons {s s' s'' : σ} {e : ε} {es : List ε} (hok : ok s e) (hstep : step s e = some s')
      (hrest : Run step ok s' es s'') : Run step ok s (e :: es) s''

namespace Run

variable {step : σ → ε → Option σ} {ok : σ → ε → Prop} {s s' : σ} {es : List ε}

/-- An invariant of the steps is an invariant of the runs. -/
theorem invariant {I : σ → Prop}
    (hstep : ∀ s e s', I s → ok s e → step s e = some s' → I s')
    (hrun : Run step ok s es s') (h : I s) : I s' := by
  induction hrun with
  | nil => exact h
  | cons hok hs _ ih => exact ih (hstep _ _ _ h hok hs)

/-- An invariant of the events so far and the state they have led to. -/
theorem history {I : List ε → σ → Prop}
    (hstep : ∀ past s e s', I past s → ok s e → step s e = some s' → I (past ++ [e]) s')
    (hrun : Run step ok s es s') {past : List ε} (h : I past s) : I (past ++ es) s' := by
  induction hrun generalizing past with
  | nil => rwa [List.append_nil]
  | @cons s₀ s₁ s₂ e es hok hs hrest ih =>
    have hnext := ih (hstep past s₀ e s₁ h hok hs)
    rwa [List.append_assoc, List.singleton_append] at hnext

/-- What is seen of a run: each event, met in its state, updates it. -/
def observe {β : Type} (step : σ → ε → Option σ) (see : σ → ε → β → β) (s : σ) (b : β) :
    List ε → β
  | [] => b
  | e :: es =>
    match step s e with
    | some s' => observe step see s' (see s e b) es
    | none => b

/-- An invariant of what has been seen and the state reached. -/
theorem invariant_observe {β : Type} {see : σ → ε → β → β} {I : β → σ → Prop}
    (hstep : ∀ b s e s', I b s → ok s e → step s e = some s' → I (see s e b) s')
    (hrun : Run step ok s es s') {b : β} (h : I b s) : I (observe step see s b es) s' := by
  induction hrun generalizing b with
  | nil => exact h
  | cons hok hs _ ih =>
    rw [observe, hs]
    exact ih (hstep _ _ _ _ h hok hs)

/-- A run stays in `P`, or a step brings it there for good. -/
private theorem stays_or_entered {P : σ → Prop} (hrun : Run step ok s es s') (hs' : P s') :
    (P s ∧ Run step (fun a e => ok a e ∧ P a) s es s') ∨
      ∃ es₁ e es₂ t t', es = es₁ ++ e :: es₂ ∧ Run step ok s es₁ t ∧ ¬P t ∧ ok t e ∧
        step t e = some t' ∧ P t' ∧ Run step (fun a e => ok a e ∧ P a) t' es₂ s' := by
  induction hrun with
  | nil => exact .inl ⟨hs', .nil⟩
  | @cons s₀ s₁ s₂ e es hok hs hrest ih =>
    rcases ih hs' with ⟨hP, hstays⟩ | ⟨es₁, e', es₂, t, t', rfl, hbefore, hentered⟩
    · by_cases hP₀ : P s₀
      · exact .inl ⟨hP₀, .cons ⟨hok, hP₀⟩ hs hstays⟩
      · exact .inr ⟨[], e, es, s₀, s₁, rfl, .nil, hP₀, hok, hs, hP, hstays⟩
    · exact .inr ⟨e :: es₁, e', es₂, t, t', rfl, .cons hok hs hbefore, hentered⟩

/-- **The step that brings a run to `P`**, if `P` does not hold at the start: behind it the run
stays there. -/
theorem entered {P : σ → Prop} (hrun : Run step ok s es s') (hs : ¬P s) (hs' : P s') :
    ∃ es₁ e es₂ t t', es = es₁ ++ e :: es₂ ∧ Run step ok s es₁ t ∧ ¬P t ∧ ok t e ∧
      step t e = some t' ∧ P t' ∧ Run step (fun a e => ok a e ∧ P a) t' es₂ s' :=
  (stays_or_entered hrun hs').resolve_left fun h => hs h.1

/-- One more step. -/
theorem snoc {s'' : σ} {e : ε} (hrun : Run step ok s es s') (hok : ok s' e)
    (hstep : step s' e = some s'') : Run step ok s (es ++ [e]) s'' := by
  induction hrun with
  | nil => exact .cons hok hstep .nil
  | cons hok₁ hs _ ih => exact .cons hok₁ hs (ih hok hstep)

/-- Where the events lead, if every step can be taken. -/
def eval (step : σ → ε → Option σ) (s : σ) : List ε → Option σ
  | [] => some s
  | e :: es => (step s e).bind fun s' => eval step s' es

/-- The condition along the events, as a decision. -/
def along (step : σ → ε → Option σ) (ok : σ → ε → Prop) [∀ s e, Decidable (ok s e)] (s : σ) :
    List ε → Bool
  | [] => true
  | e :: es => decide (ok s e) && match step s e with
    | some s' => along step ok s' es
    | none => true

/-- Evaluating the events gives a run. -/
theorem of_eval [∀ s e, Decidable (ok s e)] (h : eval step s es = some s')
    (hok : along step ok s es = true) : Run step ok s es s' := by
  induction es generalizing s with
  | nil =>
    cases h
    exact .nil
  | cons e es ih =>
    obtain ⟨t, ht, hrest⟩ := Option.bind_eq_some_iff.1 h
    simp only [along, ht, Bool.and_eq_true, decide_eq_true_eq] at hok
    exact .cons hok.1 ht (ih hrest hok.2)

end Run

end MtpSync
