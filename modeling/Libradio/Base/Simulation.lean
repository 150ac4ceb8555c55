import Libradio.Base.Run

/-!
# Runs that another machine explains

A machine that takes a step of another one for some of its own steps, and none for the others.
What it shows of its steps is the input of the other machine; a relation that holds across one
step holds across a run.
-/

namespace Libradio.Base

universe u v w x

section Observed

variable {σ : Type u} {ε : Type v} {ω : Type w} {τ : Type x} (step : σ → ε → σ)
  (shows : σ → ε → Option ω)

/-- What a run shows of its steps. -/
def observed : σ → List ε → List ω
  | _, [] => []
  | s, e :: es => (shows s e).toList ++ observed (step s e) es

/-- An empty run shows nothing. -/
@[simp] theorem observed_nil (s : σ) : observed step shows s [] = [] := rfl

/-- What the first step shows, and then the others. -/
@[simp] theorem observed_cons (s : σ) (e : ε) (es : List ε) :
    observed step shows s (e :: es) = (shows s e).toList ++ observed step shows (step s e) es := rfl

/-- The other machine takes a step for what is shown, and none if nothing is. -/
def follow (next : τ → ω → τ) (t : τ) (o : Option ω) : τ := o.elim t (next t)

/-- What is not seen moves nothing. -/
@[simp] theorem follow_none (next : τ → ω → τ) (t : τ) : follow next t none = t := rfl

/-- What is seen is a step of the abstract machine. -/
@[simp] theorem follow_some (next : τ → ω → τ) (t : τ) (o : ω) :
    follow next t (some o) = next t o := rfl

private theorem run_toList (next : τ → ω → τ) (t : τ) (o : Option ω) :
    run next t o.toList = follow next t o := by
  cases o with
  | none => rfl
  | some o => rfl

/-- A relation that holds across one step of the machine and what the other one does for it holds
across a run. -/
theorem simulates {R : σ → τ → Prop} {next : τ → ω → τ}
    (hstep : ∀ s e t, R s t → R (step s e) (follow next t (shows s e))) {s : σ} {t : τ}
    (es : List ε) (h : R s t) : R (run step s es) (run next t (observed step shows s es)) := by
  induction es generalizing s t with
  | nil => exact h
  | cons e es ih =>
    rw [run_cons, observed_cons, run_append, run_toList]
    exact ih (hstep s e t h)

end Observed

end Libradio.Base
