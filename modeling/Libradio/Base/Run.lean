/-!
# Finite runs of a step function and what holds along them

A step function over states and labels, the state after a list of labels, and a
predicate judged at every step of the run. The rules turn facts about one step
into facts about a whole run: an invariant kept by the steps that meet a guard,
and the exact rule, where the property of a step is equivalent to its guard as
long as the invariant holds.
-/

namespace Libradio.Base

universe u v

section Runs

variable {σ : Type u} {ε : Type v} (step : σ → ε → σ)

/-- The state after the steps `es`, taken in order. -/
def run (s : σ) (es : List ε) : σ := es.foldl step s

/-- `P` holds at each step of the run, judged at the state the step starts from. -/
def Along (P : σ → ε → Prop) : σ → List ε → Prop
  | _, [] => True
  | s, e :: es => P s e ∧ Along P (step s e) es

/-- No step leaves the state as it is. -/
@[simp] theorem run_nil (s : σ) : run step s [] = s := rfl

/-- The first label is taken first. -/
@[simp] theorem run_cons (s : σ) (e : ε) (es : List ε) :
    run step s (e :: es) = run step (step s e) es := rfl

/-- A run over two lists is the second run after the first. -/
theorem run_append (s : σ) (es fs : List ε) :
    run step s (es ++ fs) = run step (run step s es) fs := by
  simp only [run, List.foldl_append]

/-- A run that ends in one more label takes that step last. -/
theorem run_concat (s : σ) (es : List ε) (e : ε) :
    run step s (es ++ [e]) = step (run step s es) e := by
  rw [run_append, run_cons, run_nil]

/-- Nothing is asked of a run without steps. -/
@[simp] theorem along_nil (P : σ → ε → Prop) (s : σ) : Along step P s [] := trivial

/-- A predicate along a run is the predicate at the first step and along the rest. -/
@[simp] theorem along_cons (P : σ → ε → Prop) (s : σ) (e : ε) (es : List ε) :
    Along step P s (e :: es) ↔ P s e ∧ Along step P (step s e) es := Iff.rfl

/-- A predicate along a composed run is the predicate along both parts. -/
theorem along_append (P : σ → ε → Prop) (s : σ) (es fs : List ε) :
    Along step P s (es ++ fs) ↔
      Along step P s es ∧ Along step P (run step s es) fs := by
  induction es generalizing s with
  | nil => simp
  | cons e es ih => simp only [List.cons_append, along_cons, run_cons, ih, and_assoc]

/-- A predicate along a run is the predicate at every split point of the run. -/
theorem along_iff_split (P : σ → ε → Prop) (s : σ) (es : List ε) :
    Along step P s es ↔
      ∀ pre e post, es = pre ++ e :: post → P (run step s pre) e := by
  constructor
  · rintro h pre e post rfl
    rw [along_append, along_cons] at h
    exact h.2.1
  · intro h
    induction es generalizing s with
    | nil => trivial
    | cons e es ih =>
      refine ⟨h [] e es rfl, ih (step s e) fun pre e' post he ↦ ?_⟩
      exact h (e :: pre) e' post (by rw [he, List.cons_append])

/-- What is asked of the labels alone holds along every run over them. -/
theorem along_of_forall_mem {P : ε → Prop} {es : List ε} (h : ∀ e ∈ es, P e) (s : σ) :
    Along step (fun _ e ↦ P e) s es := by
  induction es generalizing s with
  | nil => trivial
  | cons e es ih =>
    obtain ⟨he, hes⟩ := List.forall_mem_cons.mp h
    exact ⟨he, ih hes (step s e)⟩

/-- Two predicates along a run are their conjunction along it. -/
theorem along_and (P Q : σ → ε → Prop) (s : σ) (es : List ε) :
    Along step (fun s e ↦ P s e ∧ Q s e) s es ↔ Along step P s es ∧ Along step Q s es := by
  induction es generalizing s with
  | nil => exact (and_self_iff).symm
  | cons e es ih =>
    rw [along_cons, along_cons, along_cons, ih]
    exact and_and_and_comm

/-- An invariant kept by every step that meets the guard holds after a guarded run. -/
theorem run_inv {I : σ → Prop} {G : σ → ε → Prop}
    (hstep : ∀ s e, I s → G s e → I (step s e)) {s : σ} {es : List ε}
    (hs : I s) (hg : Along step G s es) : I (run step s es) := by
  induction es generalizing s with
  | nil => exact hs
  | cons e es ih => exact ih (hstep s e hs hg.1) hg.2

/-- The invariant rule with nothing asked of the steps. -/
theorem run_inv_of_step {I : σ → Prop} (hstep : ∀ s e, I s → I (step s e)) {s : σ}
    (es : List ε) (hs : I s) : I (run step s es) := by
  induction es generalizing s with
  | nil => exact hs
  | cons e es ih => exact ih (hstep s e hs)

/-- What the invariant and the guard give at one step holds along a guarded run. -/
theorem along_of_inv {I : σ → Prop} {G P : σ → ε → Prop}
    (hstep : ∀ s e, I s → G s e → I (step s e))
    (hp : ∀ s e, I s → G s e → P s e) {s : σ} {es : List ε}
    (hs : I s) (hg : Along step G s es) : Along step P s es := by
  induction es generalizing s with
  | nil => trivial
  | cons e es ih => exact ⟨hp s e hs hg.1, ih (hstep s e hs hg.1) hg.2⟩

/-- The exact rule: where the property of a step is its guard as long as the invariant
holds, the property holds along a run exactly when the guard does. -/
theorem along_iff_of_inv {I : σ → Prop} {G P : σ → ε → Prop}
    (hstep : ∀ s e, I s → G s e → I (step s e))
    (hp : ∀ s e, I s → (P s e ↔ G s e)) {s : σ} {es : List ε} (hs : I s) :
    Along step P s es ↔ Along step G s es := by
  induction es generalizing s with
  | nil => exact Iff.rfl
  | cons e es ih =>
    simp only [along_cons]
    constructor
    · rintro ⟨h, hrest⟩
      have hg : G s e := (hp s e hs).mp h
      exact ⟨hg, (ih (hstep s e hs hg)).mp hrest⟩
    · rintro ⟨hg, hrest⟩
      exact ⟨(hp s e hs).mpr hg, (ih (hstep s e hs hg)).mpr hrest⟩

/-- A property of states holds at every point of a run exactly when it holds at the
start and after each step. -/
theorem forall_prefix_iff (Q : σ → Prop) (s : σ) (es : List ε) :
    (∀ pre, pre <+: es → Q (run step s pre)) ↔
      Q s ∧ Along step (fun s e ↦ Q (step s e)) s es := by
  rw [along_iff_split]
  constructor
  · intro h
    refine ⟨h [] List.nil_prefix, ?_⟩
    rintro pre e post rfl
    rw [← run_concat step s pre e]
    exact h _ ⟨post, by simp⟩
  · rintro ⟨h0, h⟩ pre ⟨post, hpre⟩
    rcases List.eq_nil_or_concat pre with rfl | ⟨init, e, rfl⟩
    · exact h0
    · rw [List.concat_eq_append, run_concat]
      exact h init e post (by rw [← hpre, List.concat_eq_append]; simp)

instance Along.decidable (P : σ → ε → Prop) [∀ s e, Decidable (P s e)] :
    ∀ (s : σ) (es : List ε), Decidable (Along step P s es)
  | _, [] => .isTrue trivial
  | s, e :: es =>
    have := Along.decidable P (step s e) es
    inferInstanceAs (Decidable (P s e ∧ Along step P (step s e) es))

end Runs

end Libradio.Base
