/-!
# Exclusive-or sums over byte lists

The running exclusive or of a list of bytes, as checksum loops compute it, and the two
laws a checksum rests on: the sum of two parts, and that a byte which holds the sum of
the others makes the whole sum zero.
-/

namespace Libradio.Base

/-- The exclusive or of all bytes, folded from the left. -/
def xorSum (bs : List UInt8) : UInt8 := bs.foldl (· ^^^ ·) 0

private theorem foldl_xor (bs : List UInt8) (a : UInt8) :
    bs.foldl (· ^^^ ·) a = a ^^^ xorSum bs := by
  induction bs generalizing a with
  | nil => simp [xorSum]
  | cons b bs ih =>
    have hb : xorSum (b :: bs) = b ^^^ xorSum bs := by
      simp only [xorSum, List.foldl_cons, UInt8.zero_xor]
      rw [ih b]
      rfl
    rw [List.foldl_cons, ih, hb, UInt8.xor_assoc]

/-- The empty sum. -/
@[simp] theorem xorSum_nil : xorSum [] = 0 := rfl

/-- The first byte enters the sum once. -/
@[simp] theorem xorSum_cons (b : UInt8) (bs : List UInt8) :
    xorSum (b :: bs) = b ^^^ xorSum bs := by
  rw [xorSum, List.foldl_cons, UInt8.zero_xor, foldl_xor]

/-- The sum over two parts. -/
theorem xorSum_append (as bs : List UInt8) :
    xorSum (as ++ bs) = xorSum as ^^^ xorSum bs := by
  rw [xorSum, List.foldl_append, foldl_xor]
  rfl

/-- A byte that holds the sum taken with that byte zero makes the whole sum zero. -/
theorem xorSum_balanced (as bs : List UInt8) :
    xorSum (as ++ xorSum (as ++ 0 :: bs) :: bs) = 0 := by
  simp only [xorSum_append, xorSum_cons, UInt8.zero_xor]
  rw [← UInt8.xor_assoc, UInt8.xor_comm (xorSum as), UInt8.xor_assoc, UInt8.xor_self]

/-- A change of one byte changes the sum by the same bits. -/
theorem xorSum_modify (bs : List UInt8) (j : Nat) (x : UInt8) (h : j < bs.length) :
    xorSum (bs.modify j (· ^^^ x)) = xorSum bs ^^^ x := by
  induction bs generalizing j with
  | nil => exact absurd h (Nat.not_lt_zero j)
  | cons b bs ih =>
    cases j with
    | zero =>
      rw [List.modify_zero_cons, xorSum_cons, xorSum_cons, UInt8.xor_assoc, UInt8.xor_comm x,
        UInt8.xor_assoc]
    | succ j =>
      rw [List.modify_succ_cons, xorSum_cons, xorSum_cons, ih j (Nat.lt_of_succ_lt_succ h),
        UInt8.xor_assoc]

/-- The sum of equal bytes is one of them or zero. -/
theorem xorSum_replicate (n : Nat) (x : UInt8) :
    xorSum (List.replicate n x) = x ∨ xorSum (List.replicate n x) = 0 := by
  induction n with
  | zero => exact .inr rfl
  | succ n ih =>
    rw [List.replicate_succ, xorSum_cons]
    rcases ih with hx | hzero
    · right
      rw [hx, UInt8.xor_self]
    · left
      rw [hzero, UInt8.xor_zero]

end Libradio.Base
