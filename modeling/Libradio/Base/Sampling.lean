import Mathlib.Data.List.Chain
import Mathlib.Data.List.Nodup

/-!
# Slots found by sampling a clock

A clock is read at irregular instants, and a new slot of `m` ticks is recognised by the remainder
of the clock modulo `m`, which is less than it was at the sample before. As long as samples are less
than `m` ticks apart this happens once in every slot.
-/

namespace Libradio.Base

universe u

section Sampling

variable {α : Type u} (m : Nat) (time : α → Nat) (mark : α → Bool)

/-- Samples after one at time `t`: the clock does not go back, and a sample is marked exactly if the
remainder has become less. -/
def Sampled : Nat → List α → Prop
  | _, [] => True
  | t, x :: xs => t ≤ time x ∧ (mark x = true ↔ time x % m < t % m) ∧ Sampled (time x) xs

/-- Samples are less than `m` ticks apart. -/
def Close (t : Nat) (xs : List α) : Prop := (t :: xs.map time).IsChain fun t u ↦ u < t + m

/-- The time of the last sample. -/
def lastTime (t : Nat) (xs : List α) : Nat := (xs.map time).getLastD t

variable {m time mark} {t : Nat} {xs : List α}

/-- Neighbours that are close make a close row. -/
theorem close_of_isChain {x : α} (h : (x :: xs).IsChain fun x y ↦ time y < time x + m) :
    Close m time (time x) xs := by
  show ((x :: xs).map time).IsChain fun t u ↦ u < t + m
  exact (List.isChain_map time).mpr h

/-- Less than `m` ticks later the clock is in the same slot or in the next one, and it is in the
next one exactly if the remainder is less. -/
theorem div_of_close {u : Nat} (hle : t ≤ u) (hlt : u < t + m) :
    u / m = if u % m < t % m then t / m + 1 else t / m := by
  have hm : 0 < m := by omega
  have hmono : t / m ≤ u / m := Nat.div_le_div_right hle
  have hnext : u / m ≤ t / m + 1 := by
    rw [← Nat.add_div_right t hm]
    exact Nat.div_le_div_right (Nat.le_of_lt hlt)
  have ht := Nat.div_add_mod t m
  have hu := Nat.div_add_mod u m
  rcases Nat.lt_or_eq_of_le hnext with hsame | hnext
  · have heq : u / m = t / m := by omega
    rw [heq] at hu ⊢
    rw [if_neg (by omega)]
  · rw [hnext] at hu ⊢
    rw [Nat.mul_succ] at hu
    rw [if_pos (by omega)]

private theorem lastTime_cons (t : Nat) (x : α) (xs : List α) :
    lastTime time t (x :: xs) = lastTime time (time x) xs := List.getLastD_cons

/-- The last time is that of the last sample. -/
theorem lastTime_eq (x : α) (xs : List α) :
    lastTime time (time x) xs = time (xs.getLastD x) := by
  induction xs generalizing x with
  | nil => rfl
  | cons y ys ih => rw [lastTime_cons, ih, List.getLastD_cons]

private theorem Sampled.le_lastTime (h : Sampled m time mark t xs) : t ≤ lastTime time t xs := by
  induction xs generalizing t with
  | nil => exact Nat.le_refl t
  | cons x xs ih =>
    obtain ⟨hle, -, hrest⟩ := h
    rw [lastTime_cons]
    exact Nat.le_trans hle (ih hrest)

/-- The marked samples are one in each slot that the clock has entered, in order. -/
theorem Sampled.slots (h : Sampled m time mark t xs) (hclose : Close m time t xs) :
    (xs.filter mark).map (fun x ↦ time x / m) =
      List.range' (t / m + 1) (lastTime time t xs / m - t / m) := by
  induction xs generalizing t with
  | nil =>
    show [] = List.range' (t / m + 1) (t / m - t / m)
    rw [Nat.sub_self]
    rfl
  | cons x xs ih =>
    obtain ⟨hle, hmark, hrest⟩ := h
    obtain ⟨hlt, hclose⟩ := List.isChain_cons_cons.mp hclose
    have hend : time x / m ≤ lastTime time (time x) xs / m :=
      Nat.div_le_div_right hrest.le_lastTime
    have hslot := div_of_close hle hlt
    rw [lastTime_cons]
    by_cases hx : mark x = true
    · rw [if_pos (hmark.mp hx)] at hslot
      rw [List.filter_cons_of_pos hx, List.map_cons, ih hrest hclose, hslot]
      rw [hslot] at hend
      obtain ⟨k, hk⟩ := Nat.exists_eq_add_of_le hend
      rw [hk, Nat.add_sub_cancel_left, show t / m + 1 + k - t / m = k + 1 by omega,
        List.range'_succ]
    · rw [if_neg fun hfall ↦ hx (hmark.mpr hfall)] at hslot
      rw [List.filter_cons_of_neg hx, ih hrest hclose, hslot]

/-- What is counted over the marked samples by their slots is counted over the slots. -/
theorem Sampled.countP_slots (h : Sampled m time mark t xs) (hclose : Close m time t xs)
    (q : Nat → Bool) :
    xs.countP (fun x ↦ mark x && q (time x / m)) =
      (List.range' (t / m + 1) (lastTime time t xs / m - t / m)).countP q := by
  rw [← h.slots hclose, List.countP_map, List.countP_filter]
  apply List.countP_congr
  intro x hx
  rw [Bool.and_eq_true, Bool.and_eq_true, and_comm]
  rfl

/-- Of some slots in a row exactly one is counted if the test names one of them. -/
theorem countP_range'_eq_one {a n j : Nat} {q : Nat → Bool} (hj : a ≤ j ∧ j < a + n)
    (hq : ∀ x, a ≤ x → x < a + n → (q x = true ↔ x = j)) :
    (List.range' a n).countP q = 1 := by
  have hmem : j ∈ List.range' a n := List.mem_range'_1.mpr hj
  have hone := List.count_eq_one_of_mem List.nodup_range' hmem
  rw [List.count] at hone
  refine Eq.trans (List.countP_congr ?_) hone
  intro x hx
  obtain ⟨hge, hlt⟩ := List.mem_range'_1.mp hx
  rw [hq x hge hlt, beq_iff_eq]

end Sampling

end Libradio.Base
