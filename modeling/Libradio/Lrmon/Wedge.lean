import Mathlib.Data.List.TakeWhile
import Libradio.Lrmon.Serial

/-!
# Noise on the serial line

`process_sio` asks for as many bytes as there is room for behind the start of a line that is not
complete. The comment at `src/lrmon/serial.c:183-187` wants the buffer dumped when half of it has
been filled without a line end; nothing does that.
-/

namespace Libradio.Lrmon.Sio
open Libradio.Base

/-- What `process_sio` takes from a read: there is no more than the room that is left, and a NUL
ends the string. -/
def taken (room : Nat) (chunk : List UInt8) : List UInt8 :=
  (chunk.take room).takeWhile (· ≠ 0)

/-- What one read leaves behind of a line that has begun with `left`. -/
def leave (left chunk : List UInt8) : List UInt8 :=
  pending IsLineEnd (left ++ taken (1023 - left.length) chunk)

/-- What the reads leave behind: the bytes since the last line end, without those that a NUL hid
in the read they came with. -/
def leftover (chunks : List (List UInt8)) : List UInt8 := chunks.foldl leave []

/-- The start of the line is one string without line ends. -/
structure Tidy (s : Sio) : Prop where
  noNul : ∀ ch ∈ s.text, ch ≠ 0
  noEnd : ∀ ch ∈ s.text, IsLineEnd ch = false

private theorem length_text (s : Sio) : s.text.length = s.offset := by
  have hroom := s.room
  simp only [text, List.length_take, s.size]
  omega

private theorem tidy_init : init.Tidy :=
  ⟨fun _ hch ↦ absurd hch List.not_mem_nil, fun _ hch ↦ absurd hch List.not_mem_nil⟩

-- The string in a block ends at its first NUL, or at the one that is put behind it.
private theorem string_of (got tail : List UInt8) :
    ∃ junk, got ++ 0 :: tail = got.takeWhile (· ≠ 0) ++ 0 :: junk := by
  induction got with
  | nil => exact ⟨tail, rfl⟩
  | cons ch got ih =>
    obtain ⟨junk, hjunk⟩ := ih
    by_cases hch : ch = 0
    · exact ⟨got ++ 0 :: tail, by simp [hch]⟩
    · exact ⟨junk, by simpa [hch] using hjunk⟩

private theorem taken_noNul (room : Nat) (chunk : List UInt8) :
    ∀ ch ∈ taken room chunk, ch ≠ 0 := by
  intro ch hch
  simpa using List.mem_takeWhile_imp hch

-- A chunk without NUL that fits is taken whole.
private theorem taken_of_fits {room : Nat} {chunk : List UInt8} (hfits : chunk.length ≤ room)
    (hnul : ∀ ch ∈ chunk, ch ≠ 0) : taken room chunk = chunk := by
  rw [taken, List.take_of_length_le hfits, List.takeWhile_eq_self_iff]
  simpa using hnul

/-- The stream was read and cut behind what was there. -/
structure Extends (s : Sio) (stream : List UInt8) (s' : Sio) : Prop where
  text : s'.text = pending IsLineEnd (s.text ++ stream)
  passed : s'.passed = s.passed ++ wholeLines IsLineEnd (s.text ++ stream)

/-- One call, whatever `read` returns. -/
theorem Tidy.processSio {s : Sio} (h : s.Tidy) (chunk : List UInt8) :
    Extends s (taken s.free chunk) (s.processSio chunk) := by
  by_cases hgot : chunk.take s.free = []
  · have hsame : s.processSio chunk = s := by simp only [Sio.processSio, hgot, if_true]
    have hnone : taken s.free chunk = [] := by simp only [taken, hgot, List.takeWhile_nil]
    rw [hsame, hnone]
    constructor
    · rw [List.append_nil, pending_of_none h.noEnd]
    · rw [List.append_nil, wholeLines_of_none h.noEnd, List.append_nil]
  · obtain ⟨junk, hjunk⟩ := string_of (chunk.take s.free)
      (s.buffer.drop (s.offset + (chunk.take s.free).length + 1))
    have hfilled : s.filled (chunk.take s.free) = (s.text ++ taken s.free chunk) ++ 0 :: junk := by
      rw [filled, hjunk, List.append_assoc]
      rfl
    have hnul : ∀ ch ∈ s.text ++ taken s.free chunk, ch ≠ 0 :=
      List.forall_mem_append.mpr ⟨h.noNul, taken_noNul s.free chunk⟩
    obtain ⟨hlines, hleft, _, _⟩ := cutLines_text hnul junk
    rw [← hfilled] at hlines hleft
    simp only [Sio.processSio, hgot, if_false]
    exact ⟨hleft, congrArg (s.passed ++ ·) hlines⟩

private theorem Extends.tidy {s s' : Sio} {stream : List UInt8} (h : Extends s stream s')
    (hnul : ∀ ch ∈ s.text ++ stream, ch ≠ 0) : s'.Tidy := by
  constructor
  · rw [h.text]
    exact fun ch hch ↦ hnul ch ((pending_suffix _).mem hch)
  · rw [h.text]
    exact pending_none _

private theorem Extends.trans {s s' s'' : Sio} {stream stream' : List UInt8}
    (h : Extends s stream s')
    (h' : Extends s' stream' s'') : Extends s (stream ++ stream') s'' := by
  constructor
  · rw [h'.text, h.text, ← pending_append, List.append_assoc]
  · rw [h'.passed, h.passed, h.text, List.append_assoc, ← wholeLines_append, List.append_assoc]

/-- One read. -/
theorem Tidy.step {s : Sio} (h : s.Tidy) (chunk : List UInt8) : (s.processSio chunk).Tidy :=
  (h.processSio chunk).tidy (List.forall_mem_append.mpr ⟨h.noNul, taken_noNul s.free chunk⟩)

private theorem Tidy.text_step {s : Sio} (h : s.Tidy) (chunk : List UInt8) :
    (s.processSio chunk).text = leave s.text chunk := by
  have hfree : s.free = 1023 - s.offset := by
    simp only [free]
    omega
  rw [(h.processSio chunk).text, leave, length_text, hfree]

/-- The start of a line in the buffer is what the reads have left. -/
theorem Tidy.text_run {s : Sio} (h : s.Tidy) (chunks : List (List UInt8)) :
    (run Sio.processSio s chunks).Tidy ∧
      (run Sio.processSio s chunks).text = chunks.foldl leave s.text := by
  induction chunks generalizing s with
  | nil => exact ⟨h, rfl⟩
  | cons chunk chunks ih =>
    rw [run_cons, List.foldl_cons, ← h.text_step]
    exact ih (h.step chunk)

/-- A stream that fits behind what is there is read to its end, in whatever pieces it comes. -/
theorem Tidy.reads {s : Sio} (h : s.Tidy) (pieces : List (List UInt8))
    (hnul : ∀ ch ∈ pieces.flatten, ch ≠ 0) (hfits : s.offset + pieces.flatten.length ≤ 1023) :
    Extends s pieces.flatten (run Sio.processSio s pieces) := by
  induction pieces generalizing s with
  | nil =>
    constructor
    · simp [pending_of_none h.noEnd]
    · simp [wholeLines_of_none h.noEnd]
  | cons chunk pieces ih =>
    rw [List.flatten_cons] at hnul hfits ⊢
    rw [List.length_append] at hfits
    rw [List.forall_mem_append] at hnul
    have htaken : taken s.free chunk = chunk :=
      taken_of_fits (by simp only [free]; omega) hnul.1
    have hstep := h.processSio chunk
    rw [htaken] at hstep
    have hoffset : (s.processSio chunk).offset ≤ s.offset + chunk.length := by
      rw [← length_text, ← length_text, hstep.text, ← List.length_append]
      exact (pending_suffix _).length_le
    exact hstep.trans (ih (h.step chunk) hnul.2 (by omega))

/-- There is room for another byte, and a line that fits behind what is there is handed to
`parse_data` with it when its end is read, in whatever pieces it comes. -/
def Receptive (s : Sio) : Prop :=
  s.offset < 1023 ∧ ∀ (line : List UInt8) (pieces : List (List UInt8)),
    line ≠ [] → (∀ ch ∈ line, ch ≠ 0 ∧ IsLineEnd ch = false) →
    s.offset + line.length ≤ 1022 → pieces.flatten = line ++ [chNewline] →
    (run processSio s pieces).passed = s.passed ++ [s.text ++ line]

/-- Room for a byte is all that is needed. -/
theorem Tidy.receptive_iff {s : Sio} (h : s.Tidy) : s.Receptive ↔ s.offset ≤ 1022 := by
  constructor
  · intro hr
    exact Nat.le_of_lt_succ hr.1
  · intro hroom
    refine ⟨by omega, fun line pieces hne hline hfits hpieces ↦ ?_⟩
    have hnul : ∀ ch ∈ pieces.flatten, ch ≠ 0 := by
      rw [hpieces, List.forall_mem_append]
      exact ⟨fun ch hch ↦ (hline ch hch).1, List.forall_mem_singleton.mpr (by decide)⟩
    have hread := h.reads pieces hnul (by rw [hpieces, List.length_append]; simp; omega)
    have hnone : ∀ ch ∈ s.text ++ line, IsLineEnd ch = false :=
      List.forall_mem_append.mpr ⟨h.noEnd, fun ch hch ↦ (hline ch hch).2⟩
    have hsome : ¬s.text ++ line = [] := fun hnil ↦ hne (List.append_eq_nil_iff.mp hnil).2
    rw [hread.passed, hpieces, ← List.append_assoc,
      wholeLines_append_cons hnone (by decide : IsLineEnd chNewline = true), if_neg hsome,
      wholeLines_of_none (l := []) (by simp)]

/-- After every read there is room for another byte, and a later line that fits is handed to
`parse_data`, exactly as long as the reads never leave 1023 bytes without a line end behind. -/
theorem receptive_iff_leftover (chunks : List (List UInt8)) :
    (∀ pre, pre <+: chunks → (run processSio init pre).Receptive) ↔
      ∀ pre, pre <+: chunks → (leftover pre).length ≤ 1022 := by
  have hiff (pre : List (List UInt8)) :
      (run processSio init pre).Receptive ↔ (leftover pre).length ≤ 1022 := by
    obtain ⟨htidy, htext⟩ := tidy_init.text_run pre
    rw [htidy.receptive_iff, ← length_text, htext]
    rfl
  simp only [hiff]

/-- A buffer that is full stays as it is, whatever is sent. -/
theorem run_of_full {s : Sio} (h : s.offset = 1023) (chunks : List (List UInt8)) :
    run processSio s chunks = s := by
  have hstep (chunk : List UInt8) : s.processSio chunk = s := by
    have hnone : chunk.take s.free = [] := by simp [free, h]
    simp only [processSio, hnone, if_true]
  induction chunks with
  | nil => rfl
  | cons chunk chunks ih => rw [run_cons, hstep, ih]

/-- 1023 bytes without a line end fill the buffer. -/
theorem not_receptive_noise :
    ¬∀ pre, pre <+: [List.replicate 1023 65] → (run processSio init pre).Receptive := by
  intro h
  have hfull := (h _ (List.prefix_refl _)).1
  obtain ⟨_, htext⟩ := tidy_init.text_run [List.replicate 1023 65]
  have hempty : init.text = [] := rfl
  have heq {ch : UInt8} (hch : ch ∈ List.replicate 1023 (65 : UInt8)) : ch = 65 :=
    List.eq_of_mem_replicate hch
  have hnone : ∀ ch ∈ List.replicate 1023 (65 : UInt8), IsLineEnd ch = false := by
    intro ch hch
    rw [heq hch]
    decide
  have htaken : taken 1023 (List.replicate 1023 65) = List.replicate 1023 65 := by
    apply taken_of_fits
    · rw [List.length_replicate]
    · intro ch hch
      rw [heq hch]
      decide
  rw [hempty, List.foldl_cons, List.foldl_nil, leave, List.length_nil, Nat.sub_zero, htaken,
    List.nil_append, pending_of_none hnone] at htext
  rw [← length_text, htext, List.length_replicate] at hfull
  exact absurd hfull (by decide)

end Libradio.Lrmon.Sio
