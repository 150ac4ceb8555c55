/-!
# Lines of a stream that comes in chunks

A list is cut at the elements that meet a predicate. All pieces but the last are completed: a
later chunk does not change them. The last one is pending, and stands for everything that was
read before: what follows is cut as if only the pending piece had come before it.
-/

namespace Libradio.Base

universe u

variable {α : Type u} (p : α → Bool)

/-- The pieces that are followed by a separator. -/
def completed (l : List α) : List (List α) := (l.splitOnP p).dropLast

/-- The piece behind the last separator. -/
def pending (l : List α) : List α := (l.splitOnP p).getLast (List.splitOnP_ne_nil p l)

/-- The completed pieces that are not empty. -/
def wholeLines (l : List α) : List (List α) := (completed p l).filter (!·.isEmpty)

variable {p}

/-- The pieces are the completed ones and the pending one. -/
theorem splitOnP_eq (l : List α) : l.splitOnP p = completed p l ++ [pending p l] :=
  (List.dropLast_concat_getLast _).symm

/-- Without separators nothing is completed. -/
theorem completed_of_none {l : List α} (h : ∀ x ∈ l, p x = false) : completed p l = [] := by
  unfold completed
  rw [List.splitOnP_eq_singleton h]
  rfl

/-- Without a separator everything is pending. -/
theorem pending_of_none {l : List α} (h : ∀ x ∈ l, p x = false) : pending p l = l := by
  unfold pending
  simp only [List.splitOnP_eq_singleton h, List.getLast_singleton]

/-- Without a separator no line is whole. -/
theorem wholeLines_of_none {l : List α} (h : ∀ x ∈ l, p x = false) : wholeLines p l = [] := by
  unfold wholeLines
  rw [completed_of_none h]
  rfl

/-- A separator completes the piece in front of it. -/
theorem completed_append_cons (l m : List α) {x : α} (hx : p x) :
    completed p (l ++ x :: m) = completed p l ++ pending p l :: completed p m := by
  unfold completed
  rw [List.splitOnP_append_cons l m hx,
    List.dropLast_append_of_ne_nil (List.splitOnP_ne_nil p m), splitOnP_eq l,
    List.append_assoc, List.singleton_append, ← splitOnP_eq]
  rfl

/-- A separator takes what is in front of it off. -/
theorem pending_append_cons (l m : List α) {x : α} (hx : p x) :
    pending p (l ++ x :: m) = pending p m := by
  unfold pending
  simp only [List.splitOnP_append_cons l m hx]
  exact List.getLast_append_of_ne_nil _ (List.splitOnP_ne_nil p m)

/-- A list has no separator, or a last one. -/
theorem none_or_last (l : List α) :
    (∀ x ∈ l, p x = false) ∨
      ∃ xs x ys, l = xs ++ x :: ys ∧ p x = true ∧ ∀ y ∈ ys, p y = false := by
  induction l with
  | nil => exact .inl fun x hx ↦ absurd hx List.not_mem_nil
  | cons a l ih =>
    rcases ih with hnone | ⟨xs, x, ys, rfl, hx, hys⟩
    · cases ha : p a with
      | false => exact .inl (List.forall_mem_cons.mpr ⟨ha, hnone⟩)
      | true => exact .inr ⟨[], a, l, rfl, ha, hnone⟩
    · exact .inr ⟨a :: xs, x, ys, rfl, hx, hys⟩

/-- What is pending is the end of the list. -/
theorem pending_suffix (l : List α) : pending p l <:+ l := by
  rcases none_or_last (p := p) l with hnone | ⟨xs, x, ys, rfl, hx, hys⟩
  · refine ⟨[], ?_⟩
    rw [pending_of_none hnone, List.nil_append]
  · rw [pending_append_cons xs ys hx, pending_of_none hys]
    exact (List.suffix_cons x ys).trans (List.suffix_append xs _)

/-- There is no separator in it. -/
theorem pending_none (l : List α) : ∀ x ∈ pending p l, p x = false := by
  rcases none_or_last (p := p) l with hnone | ⟨xs, x, ys, rfl, hx, hys⟩
  · rw [pending_of_none hnone]
    exact hnone
  · rw [pending_append_cons xs ys hx, pending_of_none hys]
    exact hys

/-- The pending piece is all that counts for what comes next. -/
theorem split_append (l m : List α) :
    completed p (l ++ m) = completed p l ++ completed p (pending p l ++ m) ∧
      pending p (l ++ m) = pending p (pending p l ++ m) := by
  rcases none_or_last (p := p) l with hnone | ⟨xs, x, ys, rfl, hx, hys⟩
  · rw [completed_of_none hnone, pending_of_none hnone]
    exact ⟨rfl, rfl⟩
  · rw [List.append_assoc, List.cons_append, completed_append_cons xs _ hx,
      completed_append_cons xs _ hx, pending_append_cons xs _ hx, pending_append_cons xs _ hx,
      completed_of_none hys, pending_of_none hys, List.append_assoc]
    exact ⟨rfl, rfl⟩

/-- The lines of a list in two parts: what the first part leaves is read with the second. -/
theorem wholeLines_append (l m : List α) :
    wholeLines p (l ++ m) = wholeLines p l ++ wholeLines p (pending p l ++ m) := by
  unfold wholeLines
  rw [(split_append l m).1, List.filter_append]

/-- What is pending of the two parts is pending of the second behind what the first leaves. -/
theorem pending_append (l m : List α) : pending p (l ++ m) = pending p (pending p l ++ m) :=
  (split_append l m).2

/-- The first separator completes a line, unless there is nothing in front of it. -/
theorem wholeLines_append_cons {l : List α} (h : ∀ x ∈ l, p x = false) {x : α} (hx : p x)
    (m : List α) :
    wholeLines p (l ++ x :: m) = if l = [] then wholeLines p m else l :: wholeLines p m := by
  unfold wholeLines
  rw [completed_append_cons l m hx, completed_of_none h, pending_of_none h, List.nil_append]
  cases l with
  | nil => rfl
  | cons a l => rfl

/-- Separators in front change nothing. -/
theorem wholeLines_append_all {l : List α} (h : ∀ x ∈ l, p x = true) (m : List α) :
    wholeLines p (l ++ m) = wholeLines p m ∧ pending p (l ++ m) = pending p m := by
  induction l with
  | nil => exact ⟨rfl, rfl⟩
  | cons a l ih =>
    rw [List.forall_mem_cons] at h
    have hnil : ∀ x ∈ ([] : List α), p x = false := fun x hx ↦ absurd hx List.not_mem_nil
    have hlines := wholeLines_append_cons hnil h.1 (l ++ m)
    have hrest := pending_append_cons [] (l ++ m) h.1
    rw [if_pos rfl, (ih h.2).1] at hlines
    rw [(ih h.2).2] at hrest
    exact ⟨hlines, hrest⟩

end Libradio.Base
