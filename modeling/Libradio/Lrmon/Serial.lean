import Libradio.Base.Lines
import Libradio.Base.Run
import Libradio.Lrmon.ParseData

/-!
# The serial line of lrmond

`process_sio` of `src/lrmon/serial.c:157-193`. What `read` returns is put behind what is left in
the buffer, the lines are cut out of the buffer where they are, which `parse_data` writes to as
well, and the start of a line that is not complete is moved to the front.
-/

namespace Libradio
open Libradio.Base

namespace Lrmon

/-! ### What `parse_data` leaves in the buffer -/

/-- `crack`, `src/lrmon/main.c:204-220`, on the memory: the separators become NUL. -/
def cracked (delim : UInt8) : (nargs : Nat) → List UInt8 → List UInt8
  | 0, line => line
  | nargs + 1, line =>
    match line.dropWhile (· ≠ delim) with
    | [] => line
    | _ :: rest => line.takeWhile (· ≠ delim) ++ 0 :: cracked delim nargs rest

/-- The fields of a response, and the arguments of one that is for lrmond itself,
`src/lrmon/response.c:84-92`. -/
def crackedResponse (data : List UInt8) : List UInt8 :=
  let left := cracked chColon 8 data
  match readResponse data with
  | .status _ node _ args =>
    let start := data.length - args.length
    if node < 2 then left.take start ++ cracked chComma 16 (left.drop start) else left
  | _ => left

/-- What `parse_data` leaves of the line in the buffer, `src/lrmon/main.c:135-199`. -/
def parsed (data : List UInt8) : List UInt8 :=
  match data with
  | [] => []
  | ch :: rest =>
    if ch ≠ chLess then data
    else
      match rest with
      | [] => data
      | sign :: more =>
        if sign = chPlus then data
        else if sign = chMinus then ch :: sign :: cracked chSlash 1 more
        else ch :: crackedResponse rest

private theorem length_cracked (delim : UInt8) (nargs : Nat) (line : List UInt8) :
    (cracked delim nargs line).length = line.length := by
  induction nargs generalizing line with
  | zero => rfl
  | succ nargs ih =>
    unfold cracked
    split
    · rfl
    · next ch rest h =>
      have hline := List.takeWhile_append_dropWhile (p := (· ≠ delim)) (l := line)
      have hlen := congrArg List.length hline
      rw [h, List.length_append, List.length_cons] at hlen
      rw [List.length_append, List.length_cons, ih]
      exact hlen

/-- Only bytes of the line are changed. -/
theorem length_parsed (data : List UInt8) : (parsed data).length = data.length := by
  have hresponse (data : List UInt8) : (crackedResponse data).length = data.length := by
    unfold crackedResponse
    dsimp only
    split
    · split
      · rw [List.length_append, length_cracked, ← List.length_append, List.take_append_drop,
          length_cracked]
      · exact length_cracked _ _ _
    · exact length_cracked _ _ _
  unfold parsed
  split
  · rfl
  · split
    · rfl
    · split
      · rfl
      · split
        · rfl
        · split
          · rw [List.length_cons, List.length_cons, length_cracked]
            rfl
          · rw [List.length_cons, hresponse]
            rfl

/-! ### The lines in the buffer -/

/-- The characters of `strpbrk(startp, "\r\n")`. -/
def IsLineEnd (ch : UInt8) : Bool := ch = chReturn ∨ ch = chNewline

/-- `strpbrk(startp, "\r\n")`: the bytes of the string in front of the first line end, and the
memory behind it. -/
def strpbrk : List UInt8 → Option (List UInt8 × List UInt8)
  | [] => none
  | ch :: rest =>
    if ch = 0 then none
    else if IsLineEnd ch then some ([], rest)
    else (strpbrk rest).map fun r ↦ (ch :: r.1, r.2)

private theorem strpbrk_split {mem line rest : List UInt8} (h : strpbrk mem = some (line, rest)) :
    ∃ ch, IsLineEnd ch ∧ mem = line ++ ch :: rest := by
  induction mem generalizing line with
  | nil => exact absurd h (Option.some_ne_none _).symm
  | cons ch mem ih =>
    unfold strpbrk at h
    split at h
    · exact absurd h (Option.some_ne_none _).symm
    · split at h
      · next hend =>
        cases h
        exact ⟨ch, hend, rfl⟩
      · obtain ⟨r, hr, heq⟩ := Option.map_eq_some_iff.mp h
        cases heq
        obtain ⟨e, he, hmem⟩ := ih hr
        exact ⟨e, he, congrArg (ch :: ·) hmem⟩

/-- The buffer from its start to `startp`, from there on, and the strings that were handed to
`parse_data`. -/
structure Scan where
  before : List UInt8
  rest : List UInt8
  lines : List (List UInt8)

/-- The line end and what follows it are shorter than the string. -/
theorem length_behind {mem line behind : List UInt8} (h : strpbrk mem = some (line, behind)) :
    (behind.dropWhile IsLineEnd).length < mem.length := by
  obtain ⟨ch, -, rfl⟩ := strpbrk_split h
  have hle := (List.dropWhile_suffix (l := behind) IsLineEnd).length_le
  rw [List.length_append, List.length_cons]
  omega

/-- The loop of `process_sio`, `src/lrmon/serial.c:171-184`. -/
def scanLines (before rest : List UInt8) : Scan :=
  match h : strpbrk rest with
  | none => ⟨before, rest, []⟩
  | some (line, behind) =>
    have := length_behind h
    let ends := behind.takeWhile IsLineEnd
    let r := scanLines (before ++ (parsed line ++ 0 :: ends)) (behind.dropWhile IsLineEnd)
    if line = [] then r else { r with lines := line :: r.lines }
termination_by rest.length

private theorem scanLines_none {before rest : List UInt8} (h : strpbrk rest = none) :
    scanLines before rest = ⟨before, rest, []⟩ := by
  unfold scanLines
  split
  · rfl
  · next heq => exact absurd (h.symm.trans heq) (Option.some_ne_none _).symm

private theorem scanLines_some {before rest line behind : List UInt8}
    (h : strpbrk rest = some (line, behind)) :
    scanLines before rest =
      let r := scanLines (before ++ (parsed line ++ 0 :: behind.takeWhile IsLineEnd))
        (behind.dropWhile IsLineEnd)
      if line = [] then r else { r with lines := line :: r.lines } := by
  rw [scanLines]
  split
  · next heq => exact absurd (heq.symm.trans h) (Option.some_ne_none _).symm
  · next heq =>
    cases h.symm.trans heq
    rfl

/-- The last loop of `process_sio`, `src/lrmon/serial.c:190-192`: the string at `startp` is
copied to `cp`. -/
def moveDown (cp startp : Nat) (buffer : List UInt8) : List UInt8 × Nat :=
  if h : startp < buffer.length then
    if buffer[startp] = 0 then (buffer, cp)
    else moveDown (cp + 1) (startp + 1) (buffer.set cp buffer[startp])
  else (buffer, cp)
termination_by buffer.length - startp
decreasing_by
  rw [List.length_set]
  omega

/-- A string without a line end. -/
theorem strpbrk_none {text : List UInt8} (hnul : ∀ ch ∈ text, ch ≠ 0)
    (hends : ∀ ch ∈ text, IsLineEnd ch = false) (junk : List UInt8) :
    strpbrk (text ++ 0 :: junk) = none := by
  induction text with
  | nil => rfl
  | cons ch text ih =>
    rw [List.forall_mem_cons] at hnul hends
    rw [List.cons_append, strpbrk, if_neg hnul.1, hends.1, ih hnul.2 hends.2]
    rfl

/-- A string with a line end behind `line`. -/
theorem strpbrk_some {line : List UInt8} (hnul : ∀ ch ∈ line, ch ≠ 0)
    (hends : ∀ ch ∈ line, IsLineEnd ch = false) {ch : UInt8} (hch : IsLineEnd ch)
    (rest : List UInt8) : strpbrk (line ++ ch :: rest) = some (line, rest) := by
  induction line with
  | nil =>
    have hne : ch ≠ 0 := by
      rintro rfl
      exact absurd hch (by decide)
    rw [List.nil_append, strpbrk, if_neg hne, if_pos hch]
  | cons c line ih =>
    rw [List.forall_mem_cons] at hnul hends
    rw [List.cons_append, strpbrk, if_neg hnul.1, hends.1, ih hnul.2 hends.2]
    rfl

/-- The NUL behind a text is no line end. -/
theorem lineEnds_append_nul (text junk : List UInt8) :
    (text ++ 0 :: junk).takeWhile IsLineEnd = text.takeWhile IsLineEnd ∧
      (text ++ 0 :: junk).dropWhile IsLineEnd = text.dropWhile IsLineEnd ++ 0 :: junk := by
  induction text with
  | nil => exact ⟨rfl, rfl⟩
  | cons ch text ih =>
    rw [List.cons_append, List.takeWhile_cons, List.takeWhile_cons, List.dropWhile_cons,
      List.dropWhile_cons, ih.1, ih.2]
    cases IsLineEnd ch with
    | true => exact ⟨rfl, rfl⟩
    | false => exact ⟨rfl, rfl⟩

/-- The loop finds the whole lines of the text that the buffer holds up to the NUL, and stops
at the start of the line that is pending. -/
theorem scanLines_text (before : List UInt8) {text : List UInt8} (hnul : ∀ ch ∈ text, ch ≠ 0)
    (junk : List UInt8) :
    ∃ gone, gone.length + (pending IsLineEnd text).length = before.length + text.length ∧
      scanLines before (text ++ 0 :: junk) =
        ⟨gone, pending IsLineEnd text ++ 0 :: junk, wholeLines IsLineEnd text⟩ := by
  induction hn : text.length using Nat.strongRecOn generalizing before text with
  | ind n ih =>
    cases hfind : text.find? IsLineEnd with
    | none =>
      have hends : ∀ ch ∈ text, IsLineEnd ch = false := fun ch hch ↦
        Bool.eq_false_iff.mpr (List.find?_eq_none.mp hfind ch hch)
      refine ⟨before, ?_, ?_⟩
      · rw [pending_of_none hends, hn]
      · rw [scanLines_none (strpbrk_none hnul hends junk), pending_of_none hends,
          wholeLines_of_none hends]
    | some ch =>
      obtain ⟨hch, line, behind, rfl, hline⟩ := List.find?_eq_some_iff_append.mp hfind
      have hends : ∀ ch ∈ line, IsLineEnd ch = false := fun ch hch ↦
        Bool.not_eq_true' _ ▸ hline ch hch
      rw [List.forall_mem_append, List.forall_mem_cons] at hnul
      -- the characters behind the line end are skipped as far as they are line ends as well
      have hsplit := List.takeWhile_append_dropWhile (p := IsLineEnd) (l := behind)
      have hall := List.all_eq_true.mp (List.all_takeWhile (p := IsLineEnd) (l := behind))
      have hskip := wholeLines_append_all hall (behind.dropWhile IsLineEnd)
      rw [hsplit] at hskip
      have hrest : ∀ ch ∈ behind.dropWhile IsLineEnd, ch ≠ 0 := fun ch hch ↦
        hnul.2.2 ch ((List.dropWhile_suffix _).mem hch)
      have hlen := congrArg List.length hsplit
      rw [List.length_append] at hlen
      rw [List.length_append, List.length_cons] at hn
      obtain ⟨gone, hgone, hscan⟩ := ih (behind.dropWhile IsLineEnd).length (by omega)
        (before ++ (parsed line ++ 0 :: behind.takeWhile IsLineEnd)) hrest rfl
      have hnul' := lineEnds_append_nul behind junk
      refine ⟨gone, ?_, ?_⟩
      · rw [pending_append_cons _ _ hch, hskip.2, hgone]
        simp only [List.length_append, List.length_cons, length_parsed]
        omega
      · rw [List.append_assoc, List.cons_append,
          scanLines_some (strpbrk_some hnul.1 hends hch _), hnul'.1, hnul'.2]
        dsimp only
        rw [hscan, wholeLines_append_cons hends hch, pending_append_cons _ _ hch, hskip.1,
          hskip.2]
        split
        · rfl
        · rfl

/-- One round of the loop looks at the byte at `startp`. -/
theorem moveDown_cons (cp : Nat) (pre : List UInt8) (ch : UInt8) (rest : List UInt8) :
    moveDown cp pre.length (pre ++ ch :: rest) =
      if ch = 0 then (pre ++ ch :: rest, cp)
      else moveDown (cp + 1) (pre.length + 1) ((pre ++ ch :: rest).set cp ch) := by
  have hlt : pre.length < (pre ++ ch :: rest).length := by
    rw [List.length_append, List.length_cons]
    omega
  have hget : (pre ++ ch :: rest)[pre.length] = ch := by
    rw [List.getElem_append_right (Nat.le_refl _)]
    simp only [Nat.sub_self, List.getElem_cons_zero]
  rw [moveDown, dif_pos hlt, hget]

/-- The loop copies the string at `startp` behind what is in front of `cp`. -/
theorem moveDown_eq {line : List UInt8} (hnul : ∀ ch ∈ line, ch ≠ 0) (junk : List UInt8)
    (pre : List UInt8) (cp : Nat) (hcp : cp ≤ pre.length) :
    let r := moveDown cp pre.length (pre ++ (line ++ 0 :: junk))
    r.2 = cp + line.length ∧ r.1.take (cp + line.length) = pre.take cp ++ line ∧
      r.1.length = (pre ++ (line ++ 0 :: junk)).length := by
  induction line generalizing pre cp with
  | nil =>
    rw [List.nil_append, moveDown_cons, if_pos rfl]
    refine ⟨rfl, ?_, rfl⟩
    rw [List.append_nil]
    exact List.take_append_of_le_length hcp
  | cons ch line ih =>
    rw [List.forall_mem_cons] at hnul
    -- the byte at `startp` goes to the place of `cp`, which is not read again
    have hlt : cp < (pre ++ [ch]).length := by
      rw [List.length_append, List.length_singleton]
      omega
    have hset : (pre ++ ch :: (line ++ 0 :: junk)).set cp ch =
        (pre ++ [ch]).set cp ch ++ (line ++ 0 :: junk) := by
      rw [← List.set_append_left cp ch hlt, List.append_assoc, List.singleton_append]
    have hlen : ((pre ++ [ch]).set cp ch).length = pre.length + 1 := by
      rw [List.length_set, List.length_append, List.length_singleton]
    have htake : ((pre ++ [ch]).set cp ch).take (cp + 1) = pre.take cp ++ [ch] := by
      rw [List.take_succ_eq_append_getElem (by omega), List.take_set_of_le (Nat.le_refl cp),
        List.getElem_set_self, List.take_append_of_le_length hcp]
    obtain ⟨hcp', htext, hsize⟩ := ih hnul.2 ((pre ++ [ch]).set cp ch) (cp + 1) (by omega)
    rw [hlen] at hcp' htext hsize
    rw [htake] at htext
    rw [List.cons_append, moveDown_cons, if_neg hnul.1, hset, List.length_cons]
    have hsum : cp + 1 + line.length = cp + (line.length + 1) := by omega
    rw [hsum] at hcp' htext
    refine ⟨hcp', htext.trans ?_, hsize.trans ?_⟩
    · rw [List.append_assoc, List.singleton_append]
    · rw [← hset, List.length_set]

/-- `process_sio` behind `read`, `src/lrmon/serial.c:170-192`: the buffer, the new offset, and
the strings for `parse_data`. -/
def cutLines (buffer : List UInt8) : (List UInt8 × Nat) × List (List UInt8) :=
  let r := scanLines [] buffer
  (moveDown 0 r.before.length (r.before ++ r.rest), r.lines)

/-- The text up to the NUL is cut into its whole lines, and what is pending is in front. -/
theorem cutLines_text {text : List UInt8} (hnul : ∀ ch ∈ text, ch ≠ 0) (junk : List UInt8) :
    let r := cutLines (text ++ 0 :: junk)
    r.2 = wholeLines IsLineEnd text ∧ r.1.1.take r.1.2 = pending IsLineEnd text ∧
      r.1.1.length = (text ++ 0 :: junk).length ∧ r.1.2 ≤ text.length := by
  obtain ⟨gone, hlen, hscan⟩ := scanLines_text [] hnul junk
  have hpending : ∀ ch ∈ pending IsLineEnd text, ch ≠ 0 := fun ch hch ↦
    hnul ch ((pending_suffix text).mem hch)
  obtain ⟨hoffset, htext, hsize⟩ := moveDown_eq hpending junk gone 0 (Nat.zero_le _)
  unfold cutLines
  dsimp only
  rw [hscan]
  dsimp only
  rw [List.length_nil] at hlen
  refine ⟨rfl, ?_, ?_, ?_⟩
  · rw [hoffset, htext]
    rfl
  · rw [hsize, List.length_append, List.length_append, List.length_append]
    omega
  · rw [hoffset]
    omega

/-- The buffer keeps its size, and the offset stays inside. -/
theorem cutLines_size {buffer : List UInt8} (h : 0 ∈ buffer) :
    (cutLines buffer).1.1.length = buffer.length ∧ (cutLines buffer).1.2 < buffer.length := by
  obtain ⟨text, junk, rfl, hnul⟩ := List.eq_append_cons_of_mem h
  have hcut := cutLines_text (fun ch hch hzero ↦ hnul (hzero ▸ hch)) junk
  refine ⟨hcut.2.2.1, Nat.lt_of_le_of_lt hcut.2.2.2 ?_⟩
  rw [List.length_append, List.length_cons]
  omega

/-! ### The buffer -/

/-- `buffer` and `offset`, `src/lrmon/serial.c:74-75`, and the strings that were handed to
`parse_data` so far, which the program does not keep. -/
structure Sio where
  buffer : List UInt8
  offset : Nat
  passed : List (List UInt8)
  size : buffer.length = 1024
  room : offset < 1024

namespace Sio

/-- `sio_init`, `src/lrmon/serial.c:80-132`, in a new process. -/
def init : Sio := ⟨.replicate 1024 0, 0, [], List.length_replicate, by decide⟩

/-- The number of bytes that `read` is asked for: one is kept for the NUL. -/
def free (s : Sio) : Nat := 1024 - s.offset - 1

/-- The bytes of a line that is not complete. -/
def text (s : Sio) : List UInt8 := s.buffer.take s.offset

/-- The buffer when `read` has returned `chunk`, with the NUL behind it. -/
def filled (chunk : List UInt8) (s : Sio) : List UInt8 :=
  s.text ++ (chunk ++ 0 :: s.buffer.drop (s.offset + chunk.length + 1))

private theorem length_filled {chunk : List UInt8} {s : Sio} (h : chunk.length ≤ s.free) :
    (s.filled chunk).length = 1024 := by
  have hroom := s.room
  unfold free at h
  unfold filled text
  rw [List.length_append, List.length_append, List.length_cons, List.length_take,
    List.length_drop, s.size]
  omega

private theorem nul_mem_filled (chunk : List UInt8) (s : Sio) : 0 ∈ s.filled chunk :=
  List.mem_append_right _ (List.mem_append_right _ List.mem_cons_self)

/-- `process_sio`, `src/lrmon/serial.c:157-193`: `read` returns no more than it is asked for. -/
def processSio (s : Sio) (chunk : List UInt8) : Sio :=
  let got := chunk.take s.free
  if got = [] then s
  else
    let r := cutLines (s.filled got)
    have hsize := length_filled (List.length_take_le s.free chunk)
    have hcut := cutLines_size (nul_mem_filled got s)
    { buffer := r.1.1
      offset := r.1.2
      passed := s.passed ++ r.2
      size := hcut.1.trans hsize
      room := hsize ▸ hcut.2 }

/-- What `read` can return: some bytes, as many as there is room for. -/
def Fits (s : Sio) (chunk : List UInt8) : Prop := chunk ≠ [] ∧ chunk.length ≤ s.free

/-- The buffer holds what is pending of the stream, and the whole lines were handed over. -/
structure Reassembles (stream : List UInt8) (s : Sio) : Prop where
  text : s.text = pending IsLineEnd stream
  passed : s.passed = wholeLines IsLineEnd stream

/-- One read keeps the buffer and the lines in step with the stream. -/
theorem reassembles_processSio {stream chunk : List UInt8} {s : Sio} (h : Reassembles stream s)
    (hfit : Fits s chunk) (hnul : ∀ ch ∈ stream ++ chunk, ch ≠ 0) :
    Reassembles (stream ++ chunk) (s.processSio chunk) := by
  have htake : chunk.take s.free = chunk := List.take_of_length_le hfit.2
  have htext : ∀ ch ∈ s.text ++ chunk, ch ≠ 0 := by
    rw [List.forall_mem_append] at hnul ⊢
    rw [h.text]
    exact ⟨fun ch hch ↦ hnul.1 ch ((pending_suffix stream).mem hch), hnul.2⟩
  have hcut := cutLines_text htext (s.buffer.drop (s.offset + chunk.length + 1))
  rw [List.append_assoc] at hcut
  obtain ⟨hlines, hleft, -, -⟩ := hcut
  unfold processSio
  dsimp only
  simp only [htake, if_neg hfit.1]
  constructor
  · show (cutLines (s.filled chunk)).1.1.take (cutLines (s.filled chunk)).1.2 = _
    unfold filled
    rw [hleft, h.text, ← pending_append]
  · show s.passed ++ (cutLines (s.filled chunk)).2 = _
    unfold filled
    rw [hlines, h.passed, h.text, ← wholeLines_append]

/-- Any number of reads keep the buffer and the lines in step with the stream. -/
theorem reassembles_run {chunks : List (List UInt8)} {stream : List UInt8} {s : Sio}
    (h : Reassembles stream s) (hfit : Along processSio Fits s chunks)
    (hnul : ∀ ch ∈ stream ++ chunks.flatten, ch ≠ 0) :
    Reassembles (stream ++ chunks.flatten) (run processSio s chunks) := by
  induction chunks generalizing stream s with
  | nil =>
    rw [List.flatten_nil, List.append_nil]
    exact h
  | cons chunk chunks ih =>
    rw [List.flatten_cons, ← List.append_assoc] at hnul ⊢
    rw [along_cons] at hfit
    apply ih
    · exact reassembles_processSio h hfit.1 (List.forall_mem_append.mp hnul).1
    · exact hfit.2
    · exact hnul

/-- However a stream without NUL is read, its non-empty lines are handed to `parse_data`, each
once and in their order, when they are complete; and as long as no line has more than 1022
bytes there is always room for another byte. -/
theorem lines_of_chunks {chunks : List (List UInt8)} (hnul : ∀ ch ∈ chunks.flatten, ch ≠ 0)
    (hlines : ∀ line ∈ chunks.flatten.splitOnP IsLineEnd, line.length ≤ 1022)
    (hfit : Along processSio Fits init chunks) :
    (run processSio init chunks).passed = wholeLines IsLineEnd chunks.flatten ∧
      0 < (run processSio init chunks).free := by
  have hinit : Reassembles [] init := ⟨rfl, rfl⟩
  have hrun := reassembles_run hinit hfit hnul
  rw [List.nil_append] at hrun
  generalize run processSio init chunks = s at hrun
  refine ⟨hrun.passed, ?_⟩
  have hpending := hlines (pending IsLineEnd chunks.flatten)
    (List.getLast_mem (List.splitOnP_ne_nil _ _))
  have hlen := congrArg List.length hrun.text
  have hroom := s.room
  unfold text at hlen
  rw [List.length_take, s.size] at hlen
  unfold free
  omega

/-- A line whose CR and LF come in different chunks, a line that is put together from what two
of them leave, and the start of a third one. -/
theorem lines_of_three_chunks :
    (run processSio init (["<+\r", "\n<A5:3", "00:9:1\n<"].map characters)).passed =
        [characters "<+", characters "<A5:300:9:1"] ∧
      0 < (run processSio init (["<+\r", "\n<A5:3", "00:9:1\n<"].map characters)).free := by
  obtain ⟨chunks, hchunks⟩ : ∃ chunks, chunks =
      ["<+\r", "\n<A5:3", "00:9:1\n<"].map characters := ⟨_, rfl⟩
  have hwhole : wholeLines IsLineEnd chunks.flatten =
      [characters "<+", characters "<A5:300:9:1"] := by
    rw [hchunks]
    decide +kernel
  have hnul : ∀ ch ∈ chunks.flatten, ch ≠ 0 := by
    rw [hchunks]
    decide +kernel
  have hlines : ∀ line ∈ chunks.flatten.splitOnP IsLineEnd, line.length ≤ 1022 := by
    rw [hchunks]
    decide +kernel
  have hfit : Along processSio Fits init chunks := by
    rw [hchunks]
    exact ⟨⟨by decide, by decide⟩, ⟨by decide, by decide +kernel⟩, ⟨by decide, by decide +kernel⟩,
      trivial⟩
  rw [← hchunks]
  have h := lines_of_chunks hnul hlines hfit
  exact ⟨h.1.trans hwhole, h.2⟩

end Sio

end Lrmon
end Libradio
