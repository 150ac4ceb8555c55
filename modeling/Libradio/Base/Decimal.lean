/-!
# Decimal numerals as bytes

The digits of a number as text, and the number that a text of digits stands for. A text of
any digits stands for a number, the empty one for zero; the digits of a number read back as
that number.
-/

namespace Libradio.Base

/-- A decimal digit. -/
def IsDigit (ch : UInt8) : Prop := 48 ≤ ch ∧ ch ≤ 57

instance (ch : UInt8) : Decidable (IsDigit ch) := inferInstanceAs (Decidable (_ ∧ _))

/-- A text of digits only. -/
def Digits (ds : List UInt8) : Prop := ∀ ch ∈ ds, IsDigit ch

instance (ds : List UInt8) : Decidable (Digits ds) := inferInstanceAs (Decidable (∀ _ ∈ _, _))

/-- The number a text of digits stands for. -/
def decimal (ds : List UInt8) : Nat := ds.foldl (fun n ch ↦ n * 10 + (ch.toNat - 48)) 0

/-- The digits of a number, without leading zeros. -/
def digits (n : Nat) : List UInt8 :=
  if n < 10 then [UInt8.ofNat (48 + n)] else digits (n / 10) ++ [UInt8.ofNat (48 + n % 10)]

/-- No digit at all is zero. -/
@[simp] theorem decimal_nil : decimal [] = 0 := rfl

/-- One more digit. -/
theorem decimal_concat (ds : List UInt8) (ch : UInt8) :
    decimal (ds ++ [ch]) = decimal ds * 10 + (ch.toNat - 48) := by
  simp only [decimal, List.foldl_append, List.foldl_cons, List.foldl_nil]

/-- The empty list is one of digits. -/
theorem digits_nil : Digits [] := nofun

/-- One more digit behind digits. -/
theorem digits_concat {ds : List UInt8} {ch : UInt8} (hds : Digits ds) (hch : IsDigit ch) :
    Digits (ds ++ [ch]) := by
  intro x hx
  rcases List.mem_append.mp hx with h | h
  · exact hds x h
  · obtain rfl := List.mem_singleton.mp h
    exact hch

private theorem toNat_digit {n : Nat} (h : n < 10) : (UInt8.ofNat (48 + n)).toNat = 48 + n := by
  rw [UInt8.toNat_ofNat']
  omega

private theorem isDigit_digit {n : Nat} (h : n < 10) : IsDigit (UInt8.ofNat (48 + n)) := by
  rw [IsDigit, UInt8.le_iff_toNat_le, UInt8.le_iff_toNat_le, toNat_digit h]
  simp only [UInt8.reduceToNat]
  omega

/-- The digits of a number are digits. -/
theorem digits_digits (n : Nat) : Digits (digits n) := by
  induction n using digits.induct with
  | case1 n h =>
    rw [digits, if_pos h]
    intro ch hch
    obtain rfl := List.mem_singleton.mp hch
    exact isDigit_digit h
  | case2 n h ih =>
    rw [digits, if_neg h]
    exact digits_concat ih (isDigit_digit (Nat.mod_lt n (by decide)))

/-- The digits of a number read back as that number. -/
theorem decimal_digits (n : Nat) : decimal (digits n) = n := by
  induction n using digits.induct with
  | case1 n h =>
    rw [digits, if_pos h, ← List.nil_append [_], decimal_concat, toNat_digit h, decimal_nil]
    omega
  | case2 n h ih =>
    rw [digits, if_neg h, decimal_concat, ih, toNat_digit (Nat.mod_lt n (by decide))]
    omega

/-- Two texts that start with digits and go on with something else have the same digits. -/
theorem digits_append_inj {ds ds' rest rest' : List UInt8} {x x' : UInt8} (hds : Digits ds)
    (hds' : Digits ds') (hx : ¬ IsDigit x) (hx' : ¬ IsDigit x')
    (h : ds ++ x :: rest = ds' ++ x' :: rest') : ds = ds' ∧ x = x' ∧ rest = rest' := by
  induction ds generalizing ds' with
  | nil =>
    cases ds' with
    | nil =>
      obtain ⟨rfl, rfl⟩ := List.cons.inj h
      exact ⟨rfl, rfl, rfl⟩
    | cons d ds' =>
      obtain ⟨rfl, -⟩ := List.cons.inj h
      exact absurd (hds' _ List.mem_cons_self) hx
  | cons d ds ih =>
    cases ds' with
    | nil =>
      obtain ⟨rfl, -⟩ := List.cons.inj h
      exact absurd (hds _ List.mem_cons_self) hx'
    | cons d' ds' =>
      obtain ⟨rfl, htail⟩ := List.cons.inj h
      obtain ⟨rfl, hrest⟩ := ih (fun ch hch ↦ hds ch (List.mem_cons_of_mem _ hch))
        (fun ch hch ↦ hds' ch (List.mem_cons_of_mem _ hch)) htail
      exact ⟨rfl, hrest⟩

end Libradio.Base
