import Libradio.Base.Run

/-!
# A countdown that is fed

A countdown is lowered once in each round. A round that is fed puts it back to a full count
before it is lowered; a countdown that was never fed started with a count of its own. It has
run out exactly when the rounds since the last feeding make up the count.
-/

namespace Libradio.Base.Watchdog

/-- One round. -/
def round (full : Nat) (left : Nat) (fed : Bool) : Nat := (if fed then full else left) - 1

/-- The rounds from the latest fed one on, with that one, are `full`, or none was fed and there
were `first` of them. -/
def Expired (first full : Nat) (rounds : List Bool) : Prop :=
  (∃ before quiet, rounds = before ++ true :: quiet ∧ true ∉ quiet ∧ quiet.length + 1 = full) ∨
    true ∉ rounds ∧ rounds.length = first

/-- Unless no round was fed, there is a latest one that was. -/
theorem quiet_or_latest (rounds : List Bool) :
    true ∉ rounds ∨
      ∃ before quiet, rounds = before ++ true :: quiet ∧ true ∉ quiet := by
  induction rounds with
  | nil => exact .inl (List.not_mem_nil)
  | cons fed rounds ih =>
    rcases ih with hquiet | ⟨before, quiet, rfl, hquiet⟩
    · cases fed with
      | false => exact .inl (by simpa using hquiet)
      | true => exact .inr ⟨[], rounds, rfl, hquiet⟩
    · exact .inr ⟨fed :: before, quiet, rfl, hquiet⟩

variable {full : Nat}

private theorem run_quiet {rounds : List Bool} (h : true ∉ rounds) (left : Nat) :
    run (round full) left rounds = left - rounds.length := by
  induction rounds generalizing left with
  | nil => rfl
  | cons fed rounds ih =>
    simp only [List.mem_cons, not_or] at h
    have hfed : fed = false := by simpa using h.1
    rw [run_cons, ih h.2, hfed, List.length_cons]
    simp only [round, Bool.false_eq_true, if_false]
    omega

/-- Only the rounds from the latest feeding on count. -/
theorem run_latest (before : List Bool) {quiet : List Bool} (h : true ∉ quiet) (left : Nat) :
    run (round full) left (before ++ true :: quiet) = full - (quiet.length + 1) := by
  rw [run_append, run_cons, run_quiet h]
  simp only [round, if_true]
  omega

/-- The countdown runs out for the first time in the round that makes up the count. -/
theorem run_eq_zero_iff {first : Nat} (hfull : 0 < full) {rounds : List Bool}
    (h : ∀ pre, pre <+: rounds → pre ≠ rounds → ¬Expired first full pre) :
    run (round full) first rounds = 0 ↔ Expired first full rounds := by
  constructor
  · intro hzero
    rcases quiet_or_latest rounds with hquiet | ⟨before, quiet, rfl, hquiet⟩
    · rw [run_quiet hquiet] at hzero
      rcases Nat.lt_or_ge first rounds.length with hlt | hge
      · have hearly : Expired first full (rounds.take first) :=
          .inr ⟨fun hmem ↦ hquiet (List.mem_of_mem_take hmem), by simp; omega⟩
        exact absurd hearly (h _ (List.take_prefix _ _) fun heq ↦ by
          have := congrArg List.length heq
          simp at this
          omega)
      · exact .inr ⟨hquiet, by omega⟩
    · rw [run_latest before hquiet] at hzero
      rcases Nat.lt_or_ge full (quiet.length + 1) with hlt | hge
      · have hearly : Expired first full (before ++ true :: quiet.take (full - 1)) :=
          .inl ⟨before, quiet.take (full - 1), rfl, fun hmem ↦ hquiet (List.mem_of_mem_take hmem),
            by simp; omega⟩
        have hpre : before ++ true :: quiet.take (full - 1) <+: before ++ true :: quiet :=
          (List.prefix_append_right_inj before).mpr
            (List.cons_prefix_cons.mpr ⟨rfl, List.take_prefix _ _⟩)
        exact absurd hearly (h _ hpre fun heq ↦ by
          have := congrArg List.length heq
          simp at this
          omega)
      · exact .inl ⟨before, quiet, rfl, hquiet, by omega⟩
  · rintro (⟨before, quiet, rfl, hquiet, hlen⟩ | ⟨hquiet, hlen⟩)
    · rw [run_latest before hquiet]
      omega
    · rw [run_quiet hquiet]
      omega

end Libradio.Base.Watchdog
