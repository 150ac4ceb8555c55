/-!
# A counter with a carry

Amounts are added to a counter that gives off at most one carry for each of them. Nothing is
ever lost, but the counter is a remainder and the carries are a quotient only as long as one
carry is enough.
-/

namespace Libradio.Base

/-- What is left in the counter, the carries so far and the amounts so far. -/
structure Tally where
  left : Nat
  carries : Nat
  total : Nat
  deriving DecidableEq, Repr

namespace Tally

/-- One amount is added, with one carry at `m`. -/
def add (m : Nat) (t : Tally) (amount : Nat) : Tally :=
  if m ≤ t.left + amount then ⟨t.left + amount - m, t.carries + 1, t.total + amount⟩
  else ⟨t.left + amount, t.carries, t.total + amount⟩

/-- The counter is below `m`, and the carries are the whole multiples of `m`. -/
def Divides (m : Nat) (t : Tally) : Prop := t.left < m ∧ t.carries = t.total / m

/-- Carries and counter make up the amounts. -/
def Conserves (m : Nat) (t : Tally) : Prop := t.total = m * t.carries + t.left

instance (m : Nat) (t : Tally) : Decidable (t.Divides m) := inferInstanceAs (Decidable (_ ∧ _))

variable {m : Nat} {t : Tally}

/-- With enough in it the counter carries once. -/
theorem add_of_le {amount : Nat} (h : m ≤ t.left + amount) :
    t.add m amount = ⟨t.left + amount - m, t.carries + 1, t.total + amount⟩ := if_pos h

/-- Otherwise it only adds up. -/
theorem add_of_lt {amount : Nat} (h : t.left + amount < m) :
    t.add m amount = ⟨t.left + amount, t.carries, t.total + amount⟩ :=
  if_neg (Nat.not_le.mpr h)

/-- No addition loses anything. -/
theorem Conserves.add (h : t.Conserves m) (amount : Nat) : (t.add m amount).Conserves m := by
  unfold Conserves at h ⊢
  unfold Tally.add
  split
  · simp only [Nat.mul_add, Nat.mul_one]
    omega
  · simp only
    omega

/-- A counter that loses nothing divides as long as it stays small. -/
theorem Conserves.divides_iff (h : t.Conserves m) : t.Divides m ↔ t.left < m := by
  constructor
  · intro hd
    exact hd.1
  · intro hlt
    refine ⟨hlt, ?_⟩
    rw [h, Nat.mul_add_div (by omega), Nat.div_eq_of_lt hlt, Nat.add_zero]

private theorem Divides.left_eq (h : t.Divides m) (hc : t.Conserves m) : t.left = t.total % m := by
  rw [hc, Nat.mul_add_mod, Nat.mod_eq_of_lt h.1]

private theorem left_add_lt_iff (amount : Nat) :
    (t.add m amount).left < m ↔ t.left + amount < 2 * m := by
  unfold Tally.add
  split
  · simp only
    omega
  · simp only
    omega

/-- One step: an amount is divided exactly when one carry is enough for it. -/
theorem divides_add_iff (amount : Nat) (h : t.Divides m) (hc : t.Conserves m) :
    (t.add m amount).Divides m ↔ t.total % m + amount < 2 * m := by
  rw [(hc.add amount).divides_iff, left_add_lt_iff, h.left_eq hc]

/-- Amounts of at most `m` never need a second carry. -/
theorem enough_of_le {amount : Nat} (hm : 0 < m) (h : amount ≤ m) :
    t.total % m + amount < 2 * m := by
  have := Nat.mod_lt t.total hm
  omega

end Tally

end Libradio.Base
