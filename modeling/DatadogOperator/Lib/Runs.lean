import Mathlib.Order.Basic

/-!
# Runs of a step function

A system is a total step function over states and events; a run is a list
of events from a first state. `Along` states a property of every step of a
run, as a relation between the state before the step and its event. Safety
results are proved with the two rules below: one step keeps the invariant
under a condition, so a run whose steps all meet the condition keeps it too.
-/

namespace Runs

variable {σ ε : Type} (step : σ → ε → σ)

def run (s : σ) (es : List ε) : σ := es.foldl step s

/-- `P` holds of the state before and the event of every step of the run. -/
def Along (P : σ → ε → Prop) : σ → List ε → Prop
  | _, [] => True
  | s, e :: es => P s e ∧ Along P (step s e) es

variable {step} {I : σ → Prop} {C P : σ → ε → Prop} {s : σ} {es : List ε}

instance decidableAlong [∀ s e, Decidable (P s e)] : (s : σ) → (es : List ε) →
    Decidable (Along step P s es)
  | _, [] => isTrue trivial
  | s, e :: es =>
    have := decidableAlong (step s e) es
    inferInstanceAs (Decidable (P s e ∧ Along step P (step s e) es))

theorem Along.and (hc : Along step C s es) (hp : Along step P s es) :
    Along step (fun s e => C s e ∧ P s e) s es := by
  induction es generalizing s with
  | nil => trivial
  | cons e es ih => exact ⟨⟨hc.1, hp.1⟩, ih hc.2 hp.2⟩

theorem Along.of_events {D : ε → Prop} (hd : ∀ e ∈ es, D e) : Along step (fun _ e => D e) s es := by
  induction es generalizing s with
  | nil => trivial
  | cons e es ih =>
    refine ⟨hd e (.head _), ih ?_⟩
    intro e' he'
    exact hd e' (.tail _ he')

theorem run_invariant (hstep : ∀ s e, I s → C s e → I (step s e)) (hi : I s)
    (ha : Along step C s es) : I (run step s es) := by
  induction es generalizing s with
  | nil => exact hi
  | cons e es ih => exact ih (hstep s e hi ha.1) ha.2

theorem run_related {τ : Type} {step' : τ → ε → τ} {R : σ → τ → Prop} {D : ε → Prop} {t : τ}
    (hstep : ∀ s t e, R s t → D e → R (step s e) (step' t e)) (h : R s t) (hd : ∀ e ∈ es, D e) :
    R (run step s es) (run step' t es) := by
  induction es generalizing s t with
  | nil => exact h
  | cons e es ih =>
    refine ih (hstep s t e h (hd e (.head _))) fun e' he' => hd e' (.tail _ he')

theorem run_always (hstep : ∀ s e, I s → I (step s e)) (hi : I s) (es : List ε) :
    I (run step s es) := by
  induction es generalizing s with
  | nil => exact hi
  | cons e es ih => exact ih (hstep s e hi)

/-- The invariant carries the property: it need only be shown of one step
that starts in the invariant and meets the condition. -/
theorem Along.of_invariant (hstep : ∀ s e, I s → C s e → I (step s e))
    (hp : ∀ s e, I s → C s e → P s e) (hi : I s) (ha : Along step C s es) :
    Along step P s es := by
  induction es generalizing s with
  | nil => trivial
  | cons e es ih => exact ⟨hp s e hi ha.1, ih (hstep s e hi ha.1) ha.2⟩

theorem Along.of_invariant_always (hstep : ∀ s e, I s → I (step s e)) (hp : ∀ s e, I s → P s e)
    (hi : I s) (es : List ε) : Along step P s es := by
  induction es generalizing s with
  | nil => trivial
  | cons e es ih => exact ⟨hp s e hi, ih (hstep s e hi)⟩

end Runs
