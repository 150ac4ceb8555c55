import Libradio.Lrmon.ParseData

/-!
# The lines of the controller as lrmond reads them

`parse_data` of `src/lrmon/main.c` with the checks that it makes on a line and its complaints,
and what becomes of each kind of line that the controller prints. Three kinds are read as they
were printed; the report of READ_EEPROM (`src/control/command.c:137-143`) has a field too few
and is refused.
-/

namespace Libradio
open Libradio.Base

namespace Lrmon

/-- The complaints of `parse_data`, `src/lrmon/main.c:167-182`: "Invalid command/response",
"Invalid channel number", "Invalid node number", "Invalid clock ticks", "Invalid command". -/
inductive Malformed
  | response
  | channel
  | node
  | ticks
  | command
  deriving DecidableEq, Repr

/-- The variables of `parse_data` behind its checks. -/
structure Fields where
  chan : Int
  node : Int
  ticks : Int
  cmd : Int
  args : List UInt8
  deriving DecidableEq, Repr

/-- The number of the channel letter; the terminator of an empty string is 0. -/
def channelNumber (place : List UInt8) : Int := ((place.headD 0).toNat : Int) - chA.toNat

/-- The checks of `parse_data`, `src/lrmon/main.c:167-182`. -/
def readFields (data : List UInt8) : Except Malformed Fields :=
  match crack chColon 8 data with
  | [place, ticks, cmd, args] =>
    if channelNumber place < 0 ∨ channelNumber place > 15 then .error .channel
    else if atoi (place.drop 1) < 0 ∨ atoi (place.drop 1) > 255 then .error .node
    else if atoi ticks < 0 then .error .ticks
    else if atoi cmd < 0 ∨ atoi cmd > 255 then .error .command
    else .ok ⟨channelNumber place, atoi (place.drop 1), atoi ticks, atoi cmd, args⟩
  | _ => .error .response

/-- What a line is to `parse_data`: a debug line, a success, a failure, or fields that are
checked. -/
inductive Upstream
  | debug
  | good
  | failed (code : Int)
  | fields (read : Except Malformed Fields)

/-- The kinds of lines, `src/lrmon/main.c:140-167`. -/
def readUpstream : List UInt8 → Upstream
  | [] => .debug
  | ch :: rest =>
    if ch ≠ chLess then .debug
    else if rest.head? = some chPlus then .good
    else if rest.head? = some chMinus then
      let code := atoi (rest.tail.takeWhile (· ≠ chSlash))
      .failed (if code < 1 then 99 else code)
    else .fields (readFields rest)

/-- The `switch` of `parse_data`, `src/lrmon/main.c:184-198`. -/
def Upstream.heard : Upstream → Heard
  | .debug => .ignored
  | .good => .good
  | .failed code => .failed code
  | .fields (.error _) => .ignored
  | .fields (.ok f) =>
    if f.cmd = RADIO_STATUS_RESPONSE.toNat then .status f.chan f.node f.ticks f.args else .ignored

/-- Without its complaints this is what lrmond makes of a line. -/
theorem readLine_eq (data : List UInt8) : readLine data = (readUpstream data).heard := by
  have hfields (rest : List UInt8) :
      readResponse rest = (Upstream.fields (readFields rest)).heard := by
    unfold readResponse readFields
    rcases crack chColon 8 rest with
      _ | ⟨place, _ | ⟨ticks, _ | ⟨cmd, _ | ⟨args, _ | ⟨more, rest⟩⟩⟩⟩⟩
    · rfl
    · cases place <;> rfl
    · cases place <;> rfl
    · cases place <;> rfl
    · cases place with
      | nil => rfl
      | cons letter node =>
        have hplace : channelNumber (letter :: node) = (letter.toNat : Int) - chA.toNat := rfl
        have hdrop : (letter :: node).drop 1 = node := rfl
        dsimp only
        rw [hplace, hdrop]
        by_cases hchan : (letter.toNat : Int) - chA.toNat < 0 ∨
            (letter.toNat : Int) - chA.toNat > 15
        · rw [if_pos hchan, if_pos hchan]
          rfl
        rw [if_neg hchan, if_neg hchan]
        by_cases hnode : atoi node < 0 ∨ atoi node > 255
        · rw [if_pos hnode, if_pos hnode]
          rfl
        rw [if_neg hnode, if_neg hnode]
        by_cases hticks : atoi ticks < 0
        · rw [if_pos hticks, if_pos hticks]
          rfl
        rw [if_neg hticks, if_neg hticks]
        have hnine : (RADIO_STATUS_RESPONSE.toNat : Int) = 9 := rfl
        by_cases hcmd : atoi cmd < 0 ∨ atoi cmd > 255
        · rw [if_pos hcmd, if_neg (by omega)]
          rfl
        · rw [if_neg hcmd]
          rfl
    · cases place <;> rfl
  cases data with
  | nil => rfl
  | cons ch rest =>
    unfold readLine readUpstream
    dsimp only
    split
    · rfl
    · cases rest with
      | nil => exact hfields []
      | cons ch more =>
        dsimp only [List.head?_cons, List.tail_cons, Option.some.injEq]
        simp only [Option.some.injEq]
        split
        · rfl
        · split
          · rfl
          · exact hfields (ch :: more)

/-! ### Pieces of a line -/

/-- A piece ends at the first delimiter. -/
theorem crack_append_cons {delim : UInt8} {piece : List UInt8} (h : delim ∉ piece) (n : Nat)
    (rest : List UInt8) :
    crack delim (n + 1) (piece ++ delim :: rest) = piece :: crack delim n rest := by
  have hne : ∀ ch ∈ piece, decide (ch ≠ delim) = true := fun ch hch ↦
    decide_eq_true fun heq ↦ h (heq ▸ hch)
  have htake : (piece ++ delim :: rest).takeWhile (· ≠ delim) = piece := by
    rw [List.takeWhile_append_of_pos hne, List.takeWhile_cons_of_neg (by simp), List.append_nil]
  have hdrop : (piece ++ delim :: rest).dropWhile (· ≠ delim) = delim :: rest := by
    rw [List.dropWhile_append_of_pos hne, List.dropWhile_cons_of_neg (by simp)]
  rw [crack, htake, hdrop]

/-- What meets the condition as a whole is taken as a whole. -/
theorem takeWhile_of_all {l : List UInt8} {p : UInt8 → Bool} (h : ∀ ch ∈ l, p ch = true) :
    l.takeWhile p = l := by
  have hall : (l ++ []).takeWhile p = l ++ [].takeWhile p := List.takeWhile_append_of_pos h
  rwa [List.append_nil, List.takeWhile_nil, List.append_nil] at hall

/-- What has no delimiter is one piece. -/
theorem crack_of_notMem {delim : UInt8} {piece : List UInt8} (h : delim ∉ piece) (n : Nat) :
    crack delim (n + 1) piece = [piece] := by
  have hne : ∀ ch ∈ piece, decide (ch ≠ delim) = true := fun ch hch ↦
    decide_eq_true fun heq ↦ h (heq ▸ hch)
  have hdrop : piece.dropWhile (· ≠ delim) = [] := by
    have hall : (piece ++ []).dropWhile (· ≠ delim) = [].dropWhile (· ≠ delim) :=
      List.dropWhile_append_of_pos hne
    rwa [List.append_nil, List.dropWhile_nil] at hall
  rw [crack, takeWhile_of_all hne, hdrop]

/-- A character that is no digit does not occur in a number. -/
theorem notMem_digits {ch : UInt8} (h : ¬ IsDigit ch) (n : Nat) : ch ∉ digits n :=
  fun hmem ↦ h (digits_digits n ch hmem)

/-- A number is not empty. -/
theorem digits_ne_nil (n : Nat) : digits n ≠ [] := by
  unfold digits
  split
  · exact List.cons_ne_nil _ _
  · exact List.append_ne_nil_of_right_ne_nil _ (List.cons_ne_nil _ _)

/-- A number that was printed is read back. -/
theorem atoi_digits (n : Nat) : atoi (digits n) = n := by
  have hdigits := digits_digits n
  have hvalue : decimal ((digits n).takeWhile fun ch ↦ IsDigit ch) = n := by
    rw [takeWhile_of_all fun ch hch ↦ decide_eq_true (hdigits ch hch), decimal_digits]
  obtain ⟨ch, rest, hcons⟩ := List.exists_cons_of_ne_nil (digits_ne_nil n)
  have hch : IsDigit ch := hdigits ch (by rw [hcons]; exact List.mem_cons_self)
  have hlow := UInt8.le_iff_toNat_le.mp hch.1
  have hspace : ¬ IsSpace ch := by
    rintro (⟨-, h⟩ | rfl)
    · have := UInt8.le_iff_toNat_le.mp h
      simp only [UInt8.reduceToNat] at hlow this
      omega
    · simp only [UInt8.reduceToNat] at hlow
      omega
  have hminus : ch ≠ chMinus := by
    rintro rfl
    exact absurd hch (by decide)
  have hplus : ch ≠ chPlus := by
    rintro rfl
    exact absurd hch (by decide)
  have hdrop : (digits n).dropWhile (fun ch ↦ IsSpace ch) = ch :: rest := by
    rw [hcons, List.dropWhile_cons_of_neg (by simpa using hspace)]
  unfold atoi
  rw [hdrop]
  dsimp only
  rw [if_neg hminus, if_neg hplus, ← hcons, hvalue]

private theorem not_isDigit_colon : ¬ IsDigit chColon := by decide
private theorem not_isDigit_slash : ¬ IsDigit chSlash := by decide

/-- The data of a report is one piece between colons. -/
theorem colon_notMem_commaSeparated (data : List UInt8) : chColon ∉ commaSeparated data := by
  cases data with
  | nil => exact List.not_mem_nil
  | cons d ds =>
    rw [commaSeparated, List.map_cons, CommandLine.intercalate_eq_flatMap]
    intro h
    rcases List.mem_append.mp h with h | h
    · exact notMem_digits not_isDigit_colon _ h
    · obtain ⟨piece, hpiece, hmem⟩ := List.mem_flatMap.mp h
      obtain ⟨e, -, rfl⟩ := List.mem_map.mp hpiece
      rcases List.mem_cons.mp hmem with heq | hmem
      · exact absurd heq (by decide)
      · exact notMem_digits not_isDigit_colon _ hmem

/-! ### The four kinds of lines -/

/-- The channel letter of a line gives the channel back. -/
theorem channelNumber_letter {chan : UInt8} (h : chan < 16) (node : List UInt8) :
    channelNumber ((chan + chA) :: node) = chan.toNat := by
  have hlt : chan.toNat < 16 := UInt8.lt_iff_toNat_lt.mp h
  have hA : chA.toNat = 65 := rfl
  have hsum : (chan + chA).toNat = chan.toNat + chA.toNat := by
    rw [UInt8.toNat_add]
    omega
  rw [channelNumber, List.headD_cons, hsum]
  omega

/-- The channel letter is no delimiter and starts no reply. -/
theorem channelLetter_ne {chan : UInt8} (h : chan < 16) {ch : UInt8} (hch : ch < chA) :
    chan + chA ≠ ch := by
  have hlt : chan.toNat < 16 := UInt8.lt_iff_toNat_lt.mp h
  have hA : chA.toNat = 65 := rfl
  rintro rfl
  have hlow := UInt8.lt_iff_toNat_lt.mp hch
  rw [UInt8.toNat_add] at hlow
  omega

/-- What a line should be to `parse_data`: the reply with its code, or the fields that were
printed, as far as the line has them, and the data as a text. -/
def ReadAs (l : Line) (u : Upstream) : Prop :=
  match l with
  | .reply code _ => if code = 0 then u = .good else u = .failed code.toNat
  | .report chan node ticks cmd data =>
    u = .fields (.ok ⟨chan.toNat, node.toNat, ticks.toNat, cmd.toNat, commaSeparated data⟩)
  | .eeprom chan node data =>
    ∃ ticks cmd, u = .fields (.ok ⟨chan.toNat, node.toNat, ticks, cmd, commaSeparated data⟩)

/-- A reply is read as its code. -/
theorem readUpstream_reply (code radioState : UInt8) :
    ReadAs (.reply code radioState) (readUpstream (Line.reply code radioState).text) := by
  unfold ReadAs
  dsimp only
  split
  · next h =>
    rw [Line.text, if_pos h]
    rfl
  · next h =>
    have hpos : ¬ (code.toNat : Int) < 1 := fun hlt ↦ h (UInt8.toNat_inj.mp (by
      change code.toNat = 0
      omega))
    have htake : (digits code.toNat ++ chSlash :: digits radioState.toNat).takeWhile
        (fun ch ↦ decide (ch ≠ chSlash)) =
        digits code.toNat ++ (chSlash :: digits radioState.toNat).takeWhile
          (fun ch ↦ decide (ch ≠ chSlash)) :=
      List.takeWhile_append_of_pos fun ch hch ↦
        decide_eq_true fun heq ↦ notMem_digits not_isDigit_slash _ (heq ▸ hch)
    rw [List.takeWhile_cons_of_neg (by simp), List.append_nil] at htake
    rw [Line.text, if_neg h, readUpstream, if_neg (by decide), List.head?_cons, if_neg (by decide),
      if_pos rfl]
    dsimp only [List.tail_cons]
    rw [htake, atoi_digits, if_neg hpos]

/-- A line with a channel letter is no debug line and no reply. -/
theorem readUpstream_letter {chan : UInt8} (h : chan < 16) (rest : List UInt8) :
    readUpstream (chLess :: (chan + chA) :: rest) =
      .fields (readFields ((chan + chA) :: rest)) := by
  rw [readUpstream, if_neg (by decide), if_neg, if_neg]
  · rw [List.head?_cons, Option.some.injEq]
    exact channelLetter_ne h (by decide)
  · rw [List.head?_cons, Option.some.injEq]
    exact channelLetter_ne h (by decide)

/-- A report is read as the fields that were printed. -/
theorem readUpstream_report {chan : UInt8} (h : chan < 16) (node : UInt8) (ticks : UInt16)
    (cmd : UInt8) (data : List UInt8) :
    readUpstream (Line.report chan node ticks cmd data).text =
      .fields (.ok ⟨chan.toNat, node.toNat, ticks.toNat, cmd.toNat, commaSeparated data⟩) := by
  have hplace : chColon ∉ (chan + chA) :: digits node.toNat := by
    intro hmem
    rcases List.mem_cons.mp hmem with heq | hmem
    · exact channelLetter_ne h (by decide) heq.symm
    · exact notMem_digits not_isDigit_colon _ hmem
  have hcrack : crack chColon 8 ((chan + chA) :: (digits node.toNat ++ chColon ::
      (digits ticks.toNat ++ chColon :: (digits cmd.toNat ++ chColon :: commaSeparated data)))) =
      [(chan + chA) :: digits node.toNat, digits ticks.toNat, digits cmd.toNat,
        commaSeparated data] := by
    rw [← List.cons_append, crack_append_cons hplace,
      crack_append_cons (notMem_digits not_isDigit_colon _),
      crack_append_cons (notMem_digits not_isDigit_colon _),
      crack_of_notMem (colon_notMem_commaSeparated data)]
  have hchan : chan.toNat < 16 := UInt8.lt_iff_toNat_lt.mp h
  have hnode := node.toNat_lt
  have hcmd := cmd.toNat_lt
  rw [Line.text, readUpstream_letter h, readFields, hcrack]
  dsimp only
  rw [channelNumber_letter h, List.drop_succ_cons, List.drop_zero, atoi_digits, atoi_digits,
    atoi_digits, if_neg (by omega), if_neg (by omega), if_neg (by omega), if_neg (by omega)]

/-- The report of READ_EEPROM has three fields only. -/
theorem readUpstream_eeprom {chan : UInt8} (h : chan < 16) (node : UInt8) (data : List UInt8) :
    readUpstream (Line.eeprom chan node data).text = .fields (.error .response) := by
  have hplace : chColon ∉ [chan + chA] := by
    rw [List.mem_singleton]
    exact fun heq ↦ channelLetter_ne h (by decide) heq.symm
  have hcrack : crack chColon 8 ((chan + chA) :: chColon :: (digits node.toNat ++ chColon ::
      commaSeparated data)) = [[chan + chA], digits node.toNat, commaSeparated data] := by
    have hfirst := crack_append_cons hplace 7 (digits node.toNat ++ chColon :: commaSeparated data)
    rw [List.singleton_append] at hfirst
    rw [hfirst, crack_append_cons (notMem_digits not_isDigit_colon _),
      crack_of_notMem (colon_notMem_commaSeparated data)]
  rw [Line.text, readUpstream_letter h, readFields, hcrack]

/-- The line is the one that READ_EEPROM prints. -/
def IsEeprom : Line → Prop
  | .eeprom .. => True
  | _ => False

/-- The channel a line names. -/
def channelOf : Line → Option UInt8
  | .reply .. => none
  | .report chan .. => some chan
  | .eeprom chan .. => some chan

/-- For every line that the controller can print, with a channel below 16: lrmond accepts it and
reads on it what was printed exactly if it is not the line of READ_EEPROM. -/
theorem upstream_read_iff (l : Line) (h : ∀ chan ∈ channelOf l, chan < 16) :
    ReadAs l (readUpstream l.text) ↔ ¬ IsEeprom l := by
  cases l with
  | reply code radioState => exact iff_of_true (readUpstream_reply code radioState) id
  | report chan node ticks cmd data =>
    exact iff_of_true (readUpstream_report (h chan rfl) node ticks cmd data) id
  | eeprom chan node data =>
    refine iff_of_false ?_ (not_not_intro trivial)
    rw [readUpstream_eeprom (h chan rfl)]
    rintro ⟨ticks, cmd, heq⟩
    cases heq

/-- A status report without data on the highest channel. -/
theorem upstream_read_report :
    ReadAs (.report 15 255 65535 RADIO_STATUS_RESPONSE [])
        (readUpstream (Line.report 15 255 65535 RADIO_STATUS_RESPONSE []).text) ↔
      ¬ IsEeprom (.report 15 255 65535 RADIO_STATUS_RESPONSE []) :=
  upstream_read_iff (.report 15 255 65535 RADIO_STATUS_RESPONSE []) fun chan h ↦ by
    cases h
    decide

/-- `<A:5:1,2,3`, which the controller prints for `>A1:7:0,5,3,0,0.`, is refused. -/
theorem eeprom_line_refused :
    (∀ chan ∈ channelOf (.eeprom 0 5 [1, 2, 3]), chan < 16) ∧
      ¬ ReadAs (.eeprom 0 5 [1, 2, 3]) (readUpstream (Line.eeprom 0 5 [1, 2, 3]).text) := by
  refine ⟨fun chan h ↦ by cases h; decide, ?_⟩
  rw [readUpstream_eeprom (by decide)]
  rintro ⟨ticks, cmd, heq⟩
  cases heq

end Lrmon
end Libradio
