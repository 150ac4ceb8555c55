/-!
# Queues of whole blocks

A queue of elements that is a row of blocks of one size, each with a property. Blocks are
appended at the end and taken off the front; whatever is taken off in whole blocks leaves whole
blocks behind.
-/

namespace Libradio.Base

universe u

variable {α : Type u}

/-- A row of blocks of `n` elements with the property `P`. -/
inductive Blocks (n : Nat) (P : List α → Prop) : List α → Prop
  | nil : Blocks n P []
  | cons {block rest : List α} (length : block.length = n) (holds : P block)
      (blocks : Blocks n P rest) : Blocks n P (block ++ rest)

/-- `ys` is `xs` without some blocks of `n` elements at its front. -/
def Shifted (n : Nat) (xs ys : List α) : Prop := ∃ k, ys = xs.drop (n * k)

namespace Shifted

variable {n : Nat} {xs ys zs : List α}

/-- No block is taken away. -/
theorem refl (n : Nat) (xs : List α) : Shifted n xs xs := ⟨0, rfl⟩

/-- First some blocks are taken away, and then others. -/
theorem trans (h₁ : Shifted n xs ys) (h₂ : Shifted n ys zs) : Shifted n xs zs := by
  obtain ⟨k, rfl⟩ := h₁
  obtain ⟨l, rfl⟩ := h₂
  refine ⟨k + l, ?_⟩
  rw [List.drop_drop, Nat.mul_add]

/-- One block is taken off. -/
theorem block (n : Nat) (xs : List α) : Shifted n xs (xs.drop n) := ⟨1, by rw [Nat.mul_one]⟩

/-- A queue is cleared. -/
theorem clear (hn : 0 < n) (xs : List α) : Shifted n xs [] := by
  refine ⟨xs.length, ?_⟩
  have hle : xs.length ≤ n * xs.length := Nat.le_mul_of_pos_left _ hn
  rw [List.drop_of_length_le hle]

end Shifted

namespace Blocks

variable {n : Nat} {P Q : List α → Prop} {xs ys : List α}

/-- Blocks with a property have every weaker property. -/
theorem mono (h : Blocks n P xs) (hPQ : ∀ b, P b → Q b) : Blocks n Q xs := by
  induction h with
  | nil => exact .nil
  | cons length holds _ ih => exact .cons length (hPQ _ holds) ih

/-- A block by itself. -/
theorem single (length : xs.length = n) (holds : P xs) : Blocks n P xs := by
  have h := Blocks.cons length holds (.nil : Blocks n P [])
  rw [List.append_nil] at h
  exact h

private theorem append (h : Blocks n P xs) (h' : Blocks n P ys) : Blocks n P (xs ++ ys) := by
  induction h with
  | nil => exact h'
  | cons length holds _ ih =>
    rw [List.append_assoc]
    exact .cons length holds ih

/-- One more block at the end. -/
theorem snoc (h : Blocks n P xs) (length : ys.length = n) (holds : P ys) :
    Blocks n P (xs ++ ys) := h.append (.single length holds)

/-- What is in front of a queue that is not empty. -/
theorem front (h : Blocks n P xs) (hne : xs ≠ []) :
    ∃ block rest, xs = block ++ rest ∧ block.length = n ∧ P block ∧ Blocks n P rest := by
  cases h with
  | nil => exact absurd rfl hne
  | cons length holds blocks => exact ⟨_, _, rfl, length, holds, blocks⟩

/-- The first `n` elements of a queue that is not empty are its first block. -/
theorem take (h : Blocks n P xs) (hne : xs ≠ []) : (xs.take n).length = n ∧ P (xs.take n) := by
  obtain ⟨block, rest, rfl, rfl, hblock, -⟩ := h.front hne
  rw [List.take_left]
  exact ⟨rfl, hblock⟩

/-- Without its first `n` elements a queue is a row of blocks still. -/
theorem drop (h : Blocks n P xs) : Blocks n P (xs.drop n) := by
  cases h with
  | nil =>
    rw [List.drop_nil]
    exact .nil
  | cons length holds blocks =>
    rw [List.drop_left' length]
    exact blocks

/-- A queue of blocks is one after any number of blocks was taken off. -/
theorem shifted (h : Blocks n P xs) (hs : Shifted n xs ys) : Blocks n P ys := by
  obtain ⟨k, rfl⟩ := hs
  induction k with
  | zero => exact h
  | succ k ih =>
    rw [Nat.mul_succ, ← List.drop_drop]
    exact ih.drop

end Blocks

end Libradio.Base
