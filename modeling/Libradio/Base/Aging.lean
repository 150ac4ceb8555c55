import Mathlib.Data.Fintype.Card

/-!
# Bounded waiting under aging

Clients with levels, of which one of the highest is served in each round while the others rise.
A client that is served comes back at most at the level `limit`; between the rounds levels may
change too, but not above `limit`. A client that waits is then overtaken only a bounded number
of times: its own level grows with the rounds, so after the first of them nobody who has been
served once gets in front of it again.
-/

namespace Libradio.Base

universe u

variable {ι : Type u}

/-- What all moves and rounds of a run have in common: how much a round raises the levels, up to
which level a waiting client rises at least, and where the others may start again. -/
structure Aging where
  rise : Nat
  cap : Nat
  limit : Nat

/-- Levels change between the rounds: the client `w` does not fall, and nobody gets above the
limit. -/
structure Aging.Moves (g : Aging) (w : ι) (l l' : ι → Nat) : Prop where
  waits : l w ≤ l' w
  others : ∀ x, x ≠ w → l' x ≤ max (l x) g.limit

/-- A round serves `x` in front of `w`, which rises. -/
structure Aging.Overtakes (g : Aging) (w x : ι) (l l' : ι → Nat) : Prop where
  other : x ≠ w
  chosen : l w ≤ l x
  waits : min (l w + g.rise) g.cap ≤ l' w
  served : l' x ≤ g.limit
  others : ∀ y, y ≠ w → l' y ≤ max (l y + g.rise) g.limit

/-- A run in which others are served in front of `w`, those served last first. -/
inductive Aging.Run (g : Aging) (w : ι) (l : ι → Nat) : List ι → (ι → Nat) → Prop
  | start : Run g w l [] l
  | moved {xs : List ι} {m n : ι → Nat} (run : Run g w l xs m) (moves : g.Moves w m n) :
      Run g w l xs n
  | round {xs : List ι} {m n : ι → Nat} {x : ι} (run : Run g w l xs m)
      (overtakes : g.Overtakes w x m n) : Run g w l (x :: xs) n

namespace Aging

variable {g : Aging} {w : ι} {l m n : ι → Nat} {xs : List ι}

/-- The client that waits is at a level that grows with the rounds. -/
theorem Run.waits (h : g.Run w l xs m) (hw : 1 ≤ l w) :
    min (1 + g.rise * xs.length) g.cap ≤ m w := by
  induction h with
  | start =>
    rw [List.length_nil, Nat.mul_zero]
    exact Nat.le_trans (Nat.min_le_left _ _) hw
  | moved run moves ih => exact Nat.le_trans ih moves.waits
  | round run overtakes ih =>
    have hround := overtakes.waits
    rw [List.length_cons, Nat.mul_succ]
    omega

/-- Those that were served after the first `first` rounds. -/
def late (first : Nat) (xs : List ι) : List ι := xs.take (xs.length - first)

private theorem late_cons (first : Nat) (x : ι) (xs : List ι) (h : first ≤ xs.length) :
    late first (x :: xs) = x :: late first xs := by
  rw [late, List.length_cons, Nat.succ_sub h, List.take_succ_cons, late]

private theorem late_of_le {first : Nat} {xs : List ι} (h : xs.length ≤ first) :
    late first xs = [] := by
  rw [late, Nat.sub_eq_zero_of_le h, List.take_zero]

/-- Those served late stay below the level that the client that waits has by then, and none of
them has been served twice. -/
theorem Run.late_low (h : g.Run w l xs m) (hw : 1 ≤ l w) {first : Nat}
    (hfirst : g.limit ≤ g.rise * first) (hcap : g.rise * xs.length < g.cap) :
    (∀ x ∈ late first xs, x ≠ w ∧ m x ≤ g.rise * xs.length) ∧ (late first xs).Nodup := by
  induction h with
  | start =>
    rw [late_of_le (Nat.zero_le first)]
    exact ⟨fun x hx ↦ absurd hx List.not_mem_nil, List.nodup_nil⟩
  | @moved xs m n run moves ih =>
    obtain ⟨hlow, hnodup⟩ := ih hcap
    refine ⟨fun x hx ↦ ⟨(hlow x hx).1, ?_⟩, hnodup⟩
    have hfew : first ≤ xs.length := by
      refine Nat.le_of_not_lt fun hlt ↦ ?_
      rw [late_of_le (Nat.le_of_lt hlt)] at hx
      exact absurd hx List.not_mem_nil
    have hlimit := Nat.mul_le_mul_left g.rise hfew
    have hmove := moves.others x (hlow x hx).1
    have hx := (hlow x hx).2
    omega
  | @round xs m n x run overtakes ih =>
    have hcap' : g.rise * xs.length < g.cap :=
      Nat.lt_of_le_of_lt (Nat.mul_le_mul_left _ (Nat.le_succ _)) hcap
    obtain ⟨hlow, hnodup⟩ := ih hcap'
    rw [List.length_cons, Nat.mul_succ]
    by_cases hfew : first ≤ xs.length
    · rw [late_cons first x xs hfew]
      have hlimit := Nat.mul_le_mul_left g.rise hfew
      -- who was served late is below the client that waits, so it is not chosen again
      have hfresh : x ∉ late first xs := fun hx ↦ by
        have hwait := run.waits hw
        have hchosen := overtakes.chosen
        have hx := (hlow x hx).2
        omega
      refine ⟨fun y hy ↦ ?_, List.nodup_cons.mpr ⟨hfresh, hnodup⟩⟩
      rcases List.mem_cons.mp hy with rfl | hy
      · have hserved := overtakes.served
        exact ⟨overtakes.other, by omega⟩
      · have hothers := overtakes.others y (hlow y hy).1
        have hbelow := (hlow y hy).2
        exact ⟨(hlow y hy).1, by omega⟩
    · rw [late_of_le (by rw [List.length_cons]; omega)]
      exact ⟨fun y hy ↦ absurd hy List.not_mem_nil, List.nodup_nil⟩

/-- A client that waits is overtaken less than `k + n` times by `n` clients in all, where
`k` rounds are enough to rise above the limit. -/
theorem Run.length_lt [Fintype ι] (h : g.Run w l xs m) (hw : 1 ≤ l w) {k : Nat}
    (hk : g.limit ≤ g.rise * k) (hcap : g.rise * (k + Fintype.card ι) < g.cap) :
    xs.length < k + Fintype.card ι := by
  have hcard : 0 < Fintype.card ι := Fintype.card_pos_iff.mpr ⟨w⟩
  -- the late ones are different from each other and from the client that waits
  have hcount {ys : List ι} {n : ι → Nat} (run : g.Run w l ys n)
      (hlen : ys.length ≤ k + Fintype.card ι) : ys.length < k + Fintype.card ι := by
    have hbound : g.rise * ys.length < g.cap :=
      Nat.lt_of_le_of_lt (Nat.mul_le_mul_left _ hlen) hcap
    obtain ⟨hlow, hnodup⟩ := run.late_low hw hk hbound
    have hall : (w :: late k ys).Nodup :=
      List.nodup_cons.mpr ⟨fun hw ↦ (hlow w hw).1 rfl, hnodup⟩
    have hle := hall.length_le_card
    rw [List.length_cons, late, List.length_take] at hle
    omega
  induction h with
  | start => exact hcount .start (Nat.zero_le _)
  | moved run moves ih => exact ih
  | round run overtakes ih => exact hcount (.round run overtakes) ih

end Aging

end Libradio.Base
