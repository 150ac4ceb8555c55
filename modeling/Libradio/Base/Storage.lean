import Mathlib.Data.List.Basic

/-!
# What a memory stores at an address

A memory that is read cell by cell stores a sequence at an address. A table of rows, each behind its
length, is such a sequence.
-/

namespace Libradio.Base

variable {α : Type}

/-- From address `addr` on, the memory stores `xs`. -/
def Stores (mem : List α) (addr : Nat) (xs : List α) : Prop := xs <+: mem.drop addr

private theorem stores_append {mem : List α} {addr : Nat} {xs ys : List α}
    (h : Stores mem addr (xs ++ ys)) :
    Stores mem addr xs ∧ Stores mem (addr + xs.length) ys := by
  obtain ⟨zs, hmem⟩ := h
  constructor
  · refine ⟨ys ++ zs, ?_⟩
    rw [← List.append_assoc, hmem]
  · refine ⟨zs, ?_⟩
    rw [← List.drop_drop, ← hmem, List.append_assoc, List.drop_left]

/-- The first cell and the memory behind it. -/
theorem stores_cons {mem : List α} {addr : Nat} {x : α} {xs : List α}
    (h : Stores mem addr (x :: xs)) : mem[addr]? = some x ∧ Stores mem (addr + 1) xs := by
  obtain ⟨zs, hmem⟩ := h
  constructor
  · rw [← List.head?_drop, ← hmem]
    rfl
  · refine ⟨zs, ?_⟩
    rw [← List.drop_drop, ← hmem]
    rfl

/-- The rows of a table, each behind its length, and the length 0 at the end. -/
def table : List (List UInt8) → List UInt8
  | [] => [0]
  | row :: rows => UInt8.ofNat row.length :: (row ++ table rows)

/-- A row that has a length byte of its own: it is not empty, and its length fits the byte. -/
def IsRow (row : List UInt8) : Prop := 0 < row.length ∧ row.length < 256

instance (row : List UInt8) : Decidable (IsRow row) := inferInstanceAs (Decidable (_ ∧ _))

/-- The length of a row fits its byte. -/
theorem IsRow.toNat_length {row : List UInt8} (h : IsRow row) :
    (UInt8.ofNat row.length).toNat = row.length := by
  rw [UInt8.toNat_ofNat']
  exact Nat.mod_eq_of_lt h.2

/-- No row is empty. -/
theorem IsRow.length_ne_zero {row : List UInt8} (h : IsRow row) :
    UInt8.ofNat row.length ≠ 0 := by
  intro hzero
  have hlen := h.toNat_length
  rw [hzero] at hlen
  have hpos := h.1
  have hzero' : (0 : UInt8).toNat = 0 := rfl
  omega

/-- What is read of a table at a row. -/
theorem stores_table_cons {mem row : List UInt8} {rows : List (List UInt8)} {addr : Nat}
    (h : Stores mem addr (table (row :: rows))) :
    mem[addr]? = some (UInt8.ofNat row.length) ∧ Stores mem (addr + 1) row ∧
      Stores mem (addr + 1 + row.length) (table rows) := by
  obtain ⟨hlen, hrest⟩ := stores_cons h
  obtain ⟨hrow, hrows⟩ := stores_append hrest
  exact ⟨hlen, hrow, hrows⟩

end Libradio.Base
