/-!
# Sequences stored as differences

A sequence of labelled times kept as the difference of each entry from the one before it.
`undelta` gives the times back; the lemmas say how the times behave when sequences are
joined, when the starting time moves, and when a new entry is put between two others.
-/

namespace Libradio.Base

universe u

variable {ι : Type u}

/-- The times of a sequence of differences, counted from `t`. -/
def undelta (t : Int) : List (ι × Int) → List (ι × Int)
  | [] => []
  | x :: xs => (x.1, t + x.2) :: undelta (t + x.2) xs

/-- The sum of all differences. -/
def total : List (ι × Int) → Int
  | [] => 0
  | x :: xs => x.2 + total xs

/-- No entry's time is below the one before it. -/
def Ascending (xs : List (ι × Int)) : Prop := xs.Pairwise fun x y ↦ x.2 ≤ y.2

instance (xs : List (ι × Int)) : Decidable (Ascending xs) :=
  inferInstanceAs (Decidable (List.Pairwise _ _))

/-- No differences add up to nothing. -/
@[simp] theorem total_nil : total ([] : List (ι × Int)) = 0 := rfl

/-- The first difference and the others. -/
@[simp] theorem total_cons (x : ι × Int) (xs : List (ι × Int)) :
    total (x :: xs) = x.2 + total xs := rfl

/-- The times of a joined sequence. -/
theorem undelta_append (t : Int) (xs ys : List (ι × Int)) :
    undelta t (xs ++ ys) = undelta t xs ++ undelta (t + total xs) ys := by
  induction xs generalizing t with
  | nil => simp [undelta]
  | cons x xs ih =>
    simp only [List.cons_append, undelta, ih, total_cons]
    rw [Int.add_assoc]

/-- Differences say nothing about the labels. -/
@[simp] theorem map_fst_undelta (t : Int) (xs : List (ι × Int)) :
    (undelta t xs).map Prod.fst = xs.map Prod.fst := by
  induction xs generalizing t with
  | nil => rfl
  | cons x xs ih => simp only [undelta, List.map_cons, ih]

/-- Unless there are none, the times move with the starting time. -/
theorem undelta_left_inj {t u : Int} {xs : List (ι × Int)} :
    undelta t xs = undelta u xs ↔ xs = [] ∨ t = u := by
  constructor
  · intro h
    cases xs with
    | nil => exact .inl rfl
    | cons x xs =>
      simp only [undelta, List.cons.injEq, Prod.mk.injEq, true_and] at h
      exact .inr (by omega)
  · rintro (rfl | rfl) <;> rfl

/-- Times counted from an entry in front ascend exactly when no difference is negative. -/
theorem ascending_cons_undelta {i : ι} {t : Int} {xs : List (ι × Int)} :
    Ascending ((i, t) :: undelta t xs) ↔ ∀ x ∈ xs, 0 ≤ x.2 := by
  induction xs generalizing i t with
  | nil => simp [Ascending, undelta]
  | cons x xs ih =>
    have hx : Ascending ((x.1, t + x.2) :: undelta (t + x.2) xs) ↔ ∀ y ∈ xs, 0 ≤ y.2 := ih
    simp only [List.forall_mem_cons, ← hx]
    simp only [Ascending, undelta, List.pairwise_cons, List.forall_mem_cons]
    constructor
    · rintro ⟨⟨hle, -⟩, hrest⟩
      exact ⟨by omega, hrest⟩
    · rintro ⟨hle, hrest⟩
      refine ⟨⟨by omega, fun y hy ↦ ?_⟩, hrest⟩
      have := hrest.1 y hy
      omega

/-- An entry whose label occurs nowhere before it can be split off in one way only. -/
theorem split_at_fresh {x y : ι × Int} {pre pre' post post' : List (ι × Int)}
    (hlabel : x.1 = y.1) (hpre : x.1 ∉ pre.map Prod.fst) (hpre' : x.1 ∉ pre'.map Prod.fst)
    (h : pre ++ x :: post = pre' ++ y :: post') : pre = pre' ∧ x = y ∧ post = post' := by
  induction pre generalizing pre' with
  | nil =>
    cases pre' with
    | nil =>
      simp only [List.nil_append, List.cons.injEq] at h
      exact ⟨rfl, h⟩
    | cons z pre' =>
      simp only [List.nil_append, List.cons_append, List.cons.injEq] at h
      exact absurd (by simp [h.1]) hpre'
  | cons z pre ih =>
    cases pre' with
    | nil =>
      simp only [List.nil_append, List.cons_append, List.cons.injEq] at h
      exact absurd (by simp [h.1, hlabel]) hpre
    | cons z' pre' =>
      simp only [List.cons_append, List.cons.injEq] at h
      simp only [List.map_cons, List.mem_cons, not_or] at hpre hpre'
      obtain ⟨hpp, hxy, hqq⟩ := ih hpre.2 hpre'.2 h.2
      exact ⟨by rw [h.1, hpp], hxy, hqq⟩

/-- A new entry between two others is in its place exactly when it gets its own time and
the entries behind it, if there are any, are counted from where they were before. -/
theorem splice_iff {pre : List (ι × Int)} {i : ι} {t u due : Int} {behind : List (ι × Int)}
    (hpre : i ∉ pre.map Prod.fst) (hbehind : i ∉ behind.map Prod.fst) :
    (∃ l₁ l₂, pre ++ undelta t behind = l₁ ++ l₂ ∧
        pre ++ (i, u) :: undelta u behind = l₁ ++ (i, due) :: l₂) ↔
      u = due ∧ (behind = [] ∨ t = u) := by
  constructor
  · rintro ⟨l₁, l₂, hold, hnew⟩
    have hl₁ : i ∉ l₁.map Prod.fst := by
      intro hi
      have hmem : i ∈ (l₁ ++ l₂).map Prod.fst := by
        rw [List.map_append, List.mem_append]
        exact .inl hi
      rw [← hold, List.map_append, map_fst_undelta, List.mem_append] at hmem
      exact hmem.elim hpre hbehind
    obtain ⟨rfl, hx, rfl⟩ :=
      split_at_fresh (x := (i, u)) (y := (i, due)) rfl hpre hl₁ hnew
    simp only [Prod.mk.injEq, true_and] at hx
    exact ⟨hx, undelta_left_inj.mp (List.append_cancel_left hold)⟩
  · rintro ⟨rfl, h⟩
    exact ⟨pre, undelta t behind, rfl, by rw [undelta_left_inj.mpr h]⟩

/-- A label that occurs in both sequences has the same time in both. -/
def Agree (old new : List (ι × Int)) : Prop :=
  ∀ x ∈ new, x.1 ∈ old.map Prod.fst → x ∈ old

/-- A new label does not matter. -/
theorem agree_cons_fresh {x : ι × Int} {old new : List (ι × Int)}
    (h : x.1 ∉ old.map Prod.fst) : Agree old (x :: new) ↔ Agree old new := by
  constructor
  · exact fun hall y hy ↦ hall y (List.mem_cons_of_mem x hy)
  · intro hall y hy hlabel
    rcases List.mem_cons.mp hy with rfl | hnew
    · exact absurd hlabel h
    · exact hall y hnew hlabel

/-- Neither does one that is gone. -/
theorem agree_cons_gone {x : ι × Int} {old new : List (ι × Int)}
    (h : x.1 ∉ new.map Prod.fst) : Agree (x :: old) new ↔ Agree old new := by
  have hne {y : ι × Int} (hy : y ∈ new) : y.1 ≠ x.1 := fun heq ↦
    h (heq ▸ List.mem_map_of_mem hy)
  constructor
  · intro hall y hy hlabel
    rcases List.mem_cons.mp (hall y hy (List.mem_cons_of_mem _ hlabel)) with rfl | hold
    · exact absurd rfl (hne hy)
    · exact hold
  · intro hall y hy hlabel
    rcases List.mem_cons.mp hlabel with heq | hold
    · exact absurd heq (hne hy)
    · exact List.mem_cons_of_mem x (hall y hy hold)

/-- Nor an entry that is in front of both. -/
theorem agree_cons {x : ι × Int} {old new : List (ι × Int)} (h : x.1 ∉ new.map Prod.fst) :
    Agree (x :: old) (x :: new) ↔ Agree old new := by
  rw [← agree_cons_gone (x := x) h]
  constructor
  · exact fun hall y hy ↦ hall y (List.mem_cons_of_mem x hy)
  · intro hall y hy hlabel
    rcases List.mem_cons.mp hy with rfl | hnew
    · exact List.mem_cons_self
    · exact hall y hnew hlabel

/-- Nor several entries. -/
theorem agree_append {pre old new : List (ι × Int)}
    (h : ∀ x ∈ pre, x.1 ∉ new.map Prod.fst) (hpre : (pre.map Prod.fst).Nodup) :
    Agree (pre ++ old) (pre ++ new) ↔ Agree old new := by
  induction pre with
  | nil => exact Iff.rfl
  | cons x pre ih =>
    rw [List.map_cons, List.nodup_cons] at hpre
    have hx : x.1 ∉ (pre ++ new).map Prod.fst := by
      rw [List.map_append, List.mem_append]
      rintro (hin | hin)
      · exact hpre.1 hin
      · exact h x List.mem_cons_self hin
    rw [List.cons_append, List.cons_append, agree_cons hx]
    exact ih (fun y hy ↦ h y (List.mem_cons_of_mem x hy)) hpre.2

/-- Entries with labels of their own that are counted from two times agree only if there are
none or the times are the same. -/
theorem agree_undelta {t u : Int} {xs : List (ι × Int)} (h : (xs.map Prod.fst).Nodup) :
    Agree (undelta t xs) (undelta u xs) ↔ xs = [] ∨ t = u := by
  constructor
  · intro hall
    cases xs with
    | nil => exact .inl rfl
    | cons x xs =>
      rw [List.map_cons, List.nodup_cons] at h
      rcases List.mem_cons.mp (hall (x.1, u + x.2) List.mem_cons_self List.mem_cons_self)
        with heq | hrest
      · have htime := (Prod.mk.inj heq).2
        exact .inr (by omega)
      · have hlabel : x.1 ∈ (undelta (t + x.2) xs).map Prod.fst :=
          List.mem_map.mpr ⟨_, hrest, rfl⟩
        rw [map_fst_undelta] at hlabel
        exact absurd hlabel h.1
  · rintro (rfl | rfl)
    · exact fun y hy _ ↦ hy
    · exact fun y hy _ ↦ hy

/-- `new` has the entries of `old` whose label does not meet `p`, with their times, and no
entry whose label meets it. -/
structure Without (p : ι → Prop) (old new : List (ι × Int)) : Prop where
  gone : ∀ x ∈ new, ¬ p x.1
  kept : ∀ x ∈ old, ¬ p x.1 → x ∈ new

/-- A label of its own belongs to one entry. -/
theorem eq_of_label {xs : List (ι × Int)} (h : (xs.map Prod.fst).Nodup) {x y : ι × Int}
    (hx : x ∈ xs) (hy : y ∈ xs) (heq : x.1 = y.1) : x = y := by
  induction xs with
  | nil => exact absurd hx List.not_mem_nil
  | cons z xs ih =>
    rw [List.map_cons, List.nodup_cons] at h
    rcases List.mem_cons.mp hx with rfl | hx'
    · rcases List.mem_cons.mp hy with rfl | hy'
      · rfl
      · exact absurd (heq ▸ List.mem_map_of_mem hy') h.1
    · rcases List.mem_cons.mp hy with rfl | hy'
      · exact absurd (heq ▸ List.mem_map_of_mem hx') h.1
      · exact ih h.2 hx' hy'

/-- Where the labels that are left are those of `old` that do not meet `p`, only the times have
to be looked at. -/
theorem without_iff_agree {p : ι → Prop} {old new : List (ι × Int)}
    (hold : (old.map Prod.fst).Nodup) (hnew : (new.map Prod.fst).Sublist (old.map Prod.fst))
    (hleft : ∀ i ∈ old.map Prod.fst, ¬ p i → i ∈ new.map Prod.fst) :
    Without p old new ↔ (∀ x ∈ new, ¬ p x.1) ∧ Agree old new := by
  constructor
  · intro h
    refine ⟨h.gone, fun x hx hlabel ↦ ?_⟩
    obtain ⟨y, hy, heq⟩ := List.mem_map.mp hlabel
    have hy' := h.kept y hy (heq ▸ h.gone x hx)
    rw [eq_of_label (hnew.nodup hold) hx hy' heq.symm]
    exact hy
  · rintro ⟨hgone, hagree⟩
    refine ⟨hgone, fun x hx hp ↦ ?_⟩
    obtain ⟨y, hy, heq⟩ := List.mem_map.mp (hleft x.1 (List.mem_map_of_mem hx) hp)
    have hy' := hagree y hy (heq ▸ List.mem_map_of_mem hx)
    rw [eq_of_label hold hx hy' heq.symm]
    exact hy

end Libradio.Base
