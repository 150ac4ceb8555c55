import Mathlib.Algebra.Group.Int.Defs
import Mathlib.Algebra.Group.Nat.Defs
import Libradio.Lrmon.Serial
import Libradio.Lrmon.Upstream

/-!
# What lrmond publishes

`response` of `src/lrmon/response.c` makes a message for third parties of every status report that
`parse_data` accepts, in a buffer of 64 bytes more than its data has, and publishes it with
`rmq_publish`. The messages are those of the reports the controller has printed on channels that
there are, in their order, however the serial line splits them and whatever debug lines stand in
between.
-/

namespace Libradio
open Libradio.Base

namespace Lrmon

/-! ### A message -/

/-- `%d`. -/
def printInt : Int → List UInt8
  | .ofNat n => digits n
  | .negSucc n => chMinus :: digits (n + 1)

/-- The message of `response`, `src/lrmon/response.c:72-73`. -/
def responseJson (chan node ticks : Int) (argp : List UInt8) : List UInt8 :=
  characters "\x7b\"chan\":" ++ printInt chan ++
    (characters ",\"node\":" ++ printInt node ++
      (characters ",\"cmd\":" ++ printInt RADIO_STATUS_RESPONSE.toNat ++
        (characters ",\"ticks\":" ++ printInt ticks ++
          (characters ",\"data\":[" ++ argp ++ characters "]\x7d"))))

/-- The size of the buffer that `response` asks for, `src/lrmon/response.c:68`. -/
def jsonRoom (argp : List UInt8) : Nat := argp.length + 64

/-- What `parse_data` passes to `rmq_publish` for a line. -/
def publishes (data : List UInt8) : Option (List UInt8) :=
  match readLine data with
  | .status chan node ticks args => some (responseJson chan node ticks args)
  | _ => none

/-- A number below ten to the power of `k` has no more than `k` digits. -/
theorem length_digits_le {k : Nat} (hk : 0 < k) {n : Nat} (h : n < 10 ^ k) :
    (digits n).length ≤ k := by
  induction n using digits.induct generalizing k with
  | case1 n hn =>
    rw [digits, if_pos hn]
    exact hk
  | case2 n hn ih =>
    rw [digits, if_neg hn, List.length_append, List.length_singleton]
    cases k with
    | zero => omega
    | succ k =>
      cases k with
      | zero => omega
      | succ k =>
        rw [Nat.pow_succ] at h
        have hle := ih (Nat.succ_pos k) (by omega)
        omega

private theorem length_printInt_le {k : Nat} (hk : 0 < k) {i : Int} (hpos : 0 ≤ i)
    (h : i < 10 ^ k) :
    (printInt i).length ≤ k := by
  obtain ⟨n, rfl⟩ := Int.eq_ofNat_of_zero_le hpos
  apply length_digits_le hk
  exact_mod_cast h

/-- The fields that pass the checks are in range. -/
theorem range_readFields {data : List UInt8} {f : Fields} (h : readFields data = .ok f) :
    (0 ≤ f.chan ∧ f.chan ≤ 15) ∧ (0 ≤ f.node ∧ f.node ≤ 255) ∧ 0 ≤ f.ticks := by
  unfold readFields at h
  split at h
  · split at h
    · cases h
    · split at h
      · cases h
      · split at h
        · cases h
        · split at h
          · cases h
          · cases h
            dsimp only
            omega
  · cases h

/-- A status report is fields that pass the checks. -/
theorem fields_of_status {data args : List UInt8} {chan node ticks : Int}
    (h : readLine data = .status chan node ticks args) :
    (0 ≤ chan ∧ chan ≤ 15) ∧ (0 ≤ node ∧ node ≤ 255) ∧ 0 ≤ ticks := by
  rw [readLine_eq] at h
  cases hread : readUpstream data with
  | debug | good | failed code =>
    rw [hread] at h
    cases h
  | fields read =>
    rw [hread] at h
    cases read with
    | error e => cases h
    | ok f =>
      have hfields : ∃ rest, readFields rest = .ok f := by
        unfold readUpstream at hread
        split at hread
        · cases hread
        · split at hread
          · cases hread
          · split at hread
            · cases hread
            · split at hread
              · cases hread
              · exact ⟨_, Upstream.fields.inj hread⟩
      obtain ⟨rest, hrest⟩ := hfields
      unfold Upstream.heard at h
      dsimp only at h
      split at h
      · obtain ⟨rfl, rfl, rfl, -⟩ := Heard.status.inj h
        exact range_readFields hrest
      · cases h

/-- Whatever line it is made for, a message fits its buffer with the NUL behind it, if the number
of ticks is a number at all, which `atoi` does not see to. -/
theorem message_fits {data args : List UInt8} {chan node ticks : Int}
    (h : readLine data = .status chan node ticks args) (hticks : ticks < 2 ^ 31) :
    (responseJson chan node ticks args).length + 1 ≤ jsonRoom args := by
  obtain ⟨hchan, hnode, hpos⟩ := fields_of_status h
  have hchan' := length_printInt_le (k := 2) (by decide) hchan.1 (by omega)
  have hnode' := length_printInt_le (k := 3) (by decide) hnode.1 (by omega)
  have hticks' := length_printInt_le (k := 10) (by decide) hpos (by omega)
  have hcmd := length_printInt_le (k := 1) (i := RADIO_STATUS_RESPONSE.toNat) (by decide)
    (by decide) (by decide)
  have hfixed : (characters "\x7b\"chan\":").length = 8 ∧ (characters ",\"node\":").length = 8 ∧
      (characters ",\"cmd\":").length = 7 ∧ (characters ",\"ticks\":").length = 9 ∧
      (characters ",\"data\":[").length = 9 ∧ (characters "]\x7d").length = 2 := by decide
  obtain ⟨h₁, h₂, h₃, h₄, h₅, h₆⟩ := hfixed
  unfold responseJson jsonRoom
  simp only [List.length_append, h₁, h₂, h₃, h₄, h₅, h₆]
  omega

/-- A message at the edge: the highest channel, the highest node and the most ticks there are. -/
theorem message_fits_highest :
    (responseJson 15 255 2147483647 (characters "1,2")).length + 1 ≤
      jsonRoom (characters "1,2") := by
  have hread : readLine (characters "<P255:2147483647:9:1,2") =
      .status 15 255 2147483647 (characters "1,2") := by decide +kernel
  exact message_fits hread (by decide)

/-- A number ends where text without a digit begins. -/
theorem digits_literal_inj {ch : UInt8} {lit rest rest' : List UInt8} {m n : Nat}
    (hch : ¬ IsDigit ch)
    (h : digits m ++ (ch :: lit ++ rest) = digits n ++ (ch :: lit ++ rest')) :
    m = n ∧ rest = rest' := by
  obtain ⟨hdigits, -, hrest⟩ :=
    digits_append_inj (digits_digits m) (digits_digits n) hch hch h
  constructor
  · rw [← decimal_digits m, hdigits, decimal_digits]
  · exact List.append_cancel_left hrest

/-- A message tells the channel, the node, the ticks and the data it was made of. -/
theorem responseJson_inj {chan node ticks chan' node' ticks' : Nat} {argp argp' : List UInt8}
    (h : responseJson chan node ticks argp = responseJson chan' node' ticks' argp') :
    chan = chan' ∧ node = node' ∧ ticks = ticks' ∧ argp = argp' := by
  unfold responseJson at h
  simp only [List.append_assoc] at h
  obtain ⟨hchan, h⟩ := digits_literal_inj (by decide) (List.append_cancel_left h)
  obtain ⟨hnode, h⟩ := digits_literal_inj (by decide) h
  obtain ⟨hticks, h⟩ := digits_literal_inj (by decide)
    (List.append_cancel_left (List.append_cancel_left h))
  exact ⟨hchan, hnode, hticks, List.append_cancel_right h⟩

/-! ### The serial line -/

/-- What the controller writes to the serial line: its lines and debug lines, which do not start
with `<`, each with one or more line ends behind it. -/
inductive Written : List Line → List UInt8 → Prop
  | nil : Written [] []
  | line {ls : List Line} {stops bytes : List UInt8} (l : Line) (some : stops ≠ [])
      (ends : ∀ ch ∈ stops, IsLineEnd ch = true) (rest : Written ls bytes) :
      Written (l :: ls) (l.text ++ (stops ++ bytes))
  | debug {ls : List Line} {said stops bytes : List UInt8} (no : said.head? ≠ some chLess)
      (text : ∀ ch ∈ said, IsLineEnd ch = false ∧ ch ≠ 0) (some : stops ≠ [])
      (ends : ∀ ch ∈ stops, IsLineEnd ch = true) (rest : Written ls bytes) :
      Written ls (said ++ (stops ++ bytes))

private theorem isLineEnd_newline : ∀ ch ∈ [chNewline], IsLineEnd ch = true := by
  simp [IsLineEnd]

/-- Every list of lines can be written, each with its newline. -/
theorem written_lines (ls : List Line) :
    Written ls (ls.flatMap fun l ↦ l.text ++ [chNewline]) := by
  induction ls with
  | nil => exact .nil
  | cons l ls ih =>
    rw [List.flatMap_cons, List.append_assoc]
    exact .line l (List.cons_ne_nil _ _) isLineEnd_newline ih

/-- What is published for a line of the controller: a message for each status report on a channel
that there is. -/
def message : Line → Option (List UInt8)
  | .report chan node ticks cmd data =>
    if chan < 16 ∧ cmd = RADIO_STATUS_RESPONSE then
      some (responseJson chan.toNat node.toNat ticks.toNat (commaSeparated data))
    else none
  | _ => none

/-- A line with a letter behind the channels is refused, whatever it looks like else. -/
theorem publishes_letter {chan : UInt8} (h : 16 ≤ chan) (rest : List UInt8) :
    publishes (chLess :: (chan + chA) :: rest) = none := by
  have hnumber (node : List UInt8) : channelNumber ((chan + chA) :: node) < 0 ∨
      channelNumber ((chan + chA) :: node) > 15 := by
    have hlow : 16 ≤ chan.toNat := UInt8.le_iff_toNat_le.mp h
    have hhigh := chan.toNat_lt
    have hA : chA.toNat = 65 := rfl
    rw [channelNumber, List.headD_cons, UInt8.toNat_add]
    omega
  have herror : ∃ e, readFields ((chan + chA) :: rest) = .error e := by
    unfold readFields
    split
    · next place ticks cmd args hcrack =>
      have hplace : place = ((chan + chA) :: rest).takeWhile (· ≠ chColon) := by
        unfold crack at hcrack
        dsimp only at hcrack
        split at hcrack
        · cases hcrack
        · exact (List.cons.inj hcrack).1.symm
      -- a colon for a letter leaves nothing in front of it
      by_cases hcolon : chan + chA = chColon
      · rw [List.takeWhile_cons_of_neg (by simp [hcolon])] at hplace
        subst hplace
        exact ⟨_, if_pos (.inl (by decide))⟩
      · rw [List.takeWhile_cons_of_pos (by simp [hcolon])] at hplace
        subst hplace
        exact ⟨_, if_pos (hnumber _)⟩
    · exact ⟨_, rfl⟩
  obtain ⟨e, herror⟩ := herror
  unfold publishes
  rw [readLine_eq, readUpstream, if_neg (by decide), herror]
  split
  · next heq =>
    split at heq
    · cases heq
    · split at heq <;> cases heq
  · rfl

/-- `parse_data` publishes that. -/
theorem publishes_text (l : Line) : publishes l.text = message l := by
  cases l with
  | reply code radioState =>
    have hread := readUpstream_reply code radioState
    unfold publishes
    rw [readLine_eq]
    unfold ReadAs at hread
    dsimp only at hread
    split at hread <;>
      · rw [hread]
        rfl
  | report chan node ticks cmd data =>
    by_cases h : chan < 16
    · unfold publishes
      rw [readLine_eq, readUpstream_report h]
      unfold Upstream.heard message
      dsimp only
      have hnine : (cmd.toNat : Int) = RADIO_STATUS_RESPONSE.toNat ↔
          cmd = RADIO_STATUS_RESPONSE := by
        rw [Int.natCast_inj, UInt8.toNat_inj]
      by_cases hcmd : cmd = RADIO_STATUS_RESPONSE
      · rw [if_pos (hnine.mpr hcmd), if_pos ⟨h, hcmd⟩]
      · rw [if_neg fun heq ↦ hcmd (hnine.mp heq), if_neg fun hboth ↦ hcmd hboth.2]
    · rw [Line.text, publishes_letter (UInt8.not_lt.mp h)]
      exact (if_neg fun hboth ↦ h hboth.1).symm
  | eeprom chan node data =>
    by_cases h : chan < 16
    · unfold publishes
      rw [readLine_eq, readUpstream_eeprom h]
      rfl
    · exact publishes_letter (UInt8.not_lt.mp h) _

/-- A debug line is not for third parties. -/
theorem publishes_debug {text : List UInt8} (h : text.head? ≠ some chLess) :
    publishes text = none := by
  unfold publishes readLine
  cases text with
  | nil => rfl
  | cons ch rest =>
    have hne : ch ≠ chLess := fun heq ↦ h (congrArg some heq)
    dsimp only
    rw [if_pos hne]

private theorem le_of_mem_digits {n : Nat} {ch : UInt8} (h : ch ∈ digits n) : 43 ≤ ch := by
  have hlow := UInt8.le_iff_toNat_le.mp (digits_digits n ch h).1
  apply UInt8.le_iff_toNat_le.mpr
  simp only [UInt8.reduceToNat] at hlow ⊢
  omega

private theorem le_of_mem_commaSeparated {data : List UInt8} {ch : UInt8}
    (h : ch ∈ commaSeparated data) : 43 ≤ ch := by
  cases data with
  | nil => cases h
  | cons d ds =>
    rw [commaSeparated, List.map_cons, CommandLine.intercalate_eq_flatMap] at h
    rcases List.mem_append.mp h with h | h
    · exact le_of_mem_digits h
    · obtain ⟨piece, hpiece, hmem⟩ := List.mem_flatMap.mp h
      obtain ⟨e, -, rfl⟩ := List.mem_map.mp hpiece
      rcases List.mem_cons.mp hmem with rfl | hmem
      · decide
      · exact le_of_mem_digits hmem

private theorem head?_digits_append_ne (n : Nat) (rest : List UInt8) :
    (digits n ++ rest).head? ≠ some chLess := by
  cases h : digits n with
  | nil => exact absurd h (digits_ne_nil n)
  | cons ch more =>
    have hch : IsDigit ch := digits_digits n ch (by rw [h]; exact List.mem_cons_self)
    intro heq
    rw [List.cons_append, List.head?_cons, Option.some.injEq] at heq
    rw [heq] at hch
    exact absurd hch (by decide)

/-- The controller's lines are made of digits, letters and signs, but for the channel letter, and
what stands behind that looks like no line of the controller. -/
theorem exists_text_eq (l : Line) : ∃ ch rest, l.text = chLess :: ch :: rest ∧
    (∀ x ∈ rest, 43 ≤ x) ∧ rest.head? ≠ some chLess ∧
      (43 ≤ ch ∨ ∃ chan ∈ channelOf l, ch = chan + chA) := by
  cases l with
  | reply code radioState =>
    unfold Line.text
    dsimp only
    split
    · exact ⟨chPlus, [], rfl, fun x hx ↦ absurd hx List.not_mem_nil, nofun, .inl (by decide)⟩
    · refine ⟨chMinus, _, rfl, fun x hx ↦ ?_, head?_digits_append_ne _ _, .inl (by decide)⟩
      rw [List.mem_append, List.mem_cons] at hx
      rcases hx with hx | rfl | hx
      · exact le_of_mem_digits hx
      · decide
      · exact le_of_mem_digits hx
  | report chan node ticks cmd data =>
    refine ⟨chan + chA, _, rfl, fun x hx ↦ ?_, head?_digits_append_ne _ _, .inr ⟨chan, rfl, rfl⟩⟩
    simp only [List.mem_cons, List.mem_append] at hx
    rcases hx with hx | rfl | hx | rfl | hx | rfl | hx
    · exact le_of_mem_digits hx
    · decide
    · exact le_of_mem_digits hx
    · decide
    · exact le_of_mem_digits hx
    · decide
    · exact le_of_mem_commaSeparated hx
  | eeprom chan node data =>
    refine ⟨chan + chA, _, rfl, fun x hx ↦ ?_, ?_, .inr ⟨chan, rfl, rfl⟩⟩
    · simp only [List.mem_cons, List.mem_append] at hx
      rcases hx with rfl | hx | rfl | hx
      · decide
      · exact le_of_mem_digits hx
      · decide
      · exact le_of_mem_commaSeparated hx
    · exact fun heq ↦ absurd (Option.some.inj heq) (by decide)

/-- What stands in front of line ends is a line, unless it is empty. -/
theorem wholeLines_append_stops {said stops : List UInt8}
    (hsaid : ∀ ch ∈ said, IsLineEnd ch = false)
    (hsome : stops ≠ []) (hstops : ∀ ch ∈ stops, IsLineEnd ch = true) (bytes : List UInt8) :
    wholeLines IsLineEnd (said ++ (stops ++ bytes)) =
      if said = [] then wholeLines IsLineEnd bytes else said :: wholeLines IsLineEnd bytes := by
  cases stops with
  | nil => exact absurd rfl hsome
  | cons stop stops =>
    rw [List.forall_mem_cons] at hstops
    rw [List.cons_append, wholeLines_append_cons hsaid hstops.1,
      (wholeLines_append_all hstops.2 bytes).1]

private theorem not_isLineEnd_of_le {ch : UInt8} (h : 43 ≤ ch) : IsLineEnd ch = false ∧ ch ≠ 0 := by
  have hlow := UInt8.le_iff_toNat_le.mp h
  have hne {x : UInt8} (hx : x.toNat < 43) : ch ≠ x := by
    rintro rfl
    simp only [UInt8.reduceToNat] at hlow
    omega
  constructor
  · unfold IsLineEnd
    simp [hne (x := chReturn) (by decide), hne (x := chNewline) (by decide)]
  · exact hne (by decide)

/-- The serial line carries no NUL, unless a channel letter is one. -/
theorem Written.ne_nul {ls : List Line} {bytes : List UInt8} (h : Written ls bytes)
    (hletter : ∀ l ∈ ls, ∀ chan ∈ channelOf l, chan + chA ≠ 0) : ∀ ch ∈ bytes, ch ≠ 0 := by
  have hend {stops : List UInt8} (hstops : ∀ ch ∈ stops, IsLineEnd ch = true) :
      ∀ ch ∈ stops, ch ≠ 0 := by
    rintro ch hch rfl
    exact absurd (hstops 0 hch) (by decide)
  induction h with
  | nil => exact fun ch hch ↦ absurd hch List.not_mem_nil
  | line l some ends rest ih =>
    rw [List.forall_mem_cons] at hletter
    rw [List.forall_mem_append, List.forall_mem_append]
    refine ⟨?_, hend ends, ih hletter.2⟩
    obtain ⟨ch, behind, htext, hbehind, -, hch⟩ := exists_text_eq l
    rw [htext, List.forall_mem_cons, List.forall_mem_cons]
    refine ⟨by decide, ?_, fun x hx ↦ (not_isLineEnd_of_le (hbehind x hx)).2⟩
    rcases hch with hch | ⟨chan, hchan, rfl⟩
    · exact (not_isLineEnd_of_le hch).2
    · exact hletter.1 chan hchan
  | debug no text some ends rest ih =>
    rw [List.forall_mem_append, List.forall_mem_append]
    exact ⟨fun ch hch ↦ (text ch hch).2, hend ends, ih hletter⟩

/-- Nothing is published for a line whose letter is a line end. -/
theorem message_of_isLineEnd {l : Line} {ch : UInt8} (hend : IsLineEnd ch = true)
    (hch : 43 ≤ ch ∨ ∃ chan ∈ channelOf l, ch = chan + chA) : message l = none := by
  rcases hch with hch | ⟨chan, hchan, rfl⟩
  · rw [(not_isLineEnd_of_le hch).1] at hend
    cases hend
  · have hbehind : ¬ chan < 16 := by
      intro hlt
      unfold IsLineEnd at hend
      rcases of_decide_eq_true hend with heq | heq
      · exact channelLetter_ne hlt (by decide) heq
      · exact channelLetter_ne hlt (by decide) heq
    cases l with
    | reply code radioState => cases hchan
    | report chan' node ticks cmd data =>
      cases hchan
      exact if_neg fun hboth ↦ hbehind hboth.1
    | eeprom chan' node data => rfl

/-- Each line is published for, or not, and the debug lines are not. -/
theorem Written.published {ls : List Line} {bytes : List UInt8} (h : Written ls bytes) :
    (wholeLines IsLineEnd bytes).filterMap publishes = ls.filterMap message := by
  induction h with
  | nil => rfl
  | @line ls stops bytes l some ends rest ih =>
    obtain ⟨ch, behind, htext, hbehind, hhead, hch⟩ := exists_text_eq l
    have hsaid : ∀ x ∈ behind, IsLineEnd x = false := fun x hx ↦
      (not_isLineEnd_of_le (hbehind x hx)).1
    have hless : ∀ x ∈ [chLess], IsLineEnd x = false := fun x hx ↦ by
      rw [List.mem_singleton.mp hx]
      rfl
    cases hend : IsLineEnd ch with
    | false =>
      have hall : ∀ x ∈ l.text, IsLineEnd x = false := by
        rw [htext, List.forall_mem_cons, List.forall_mem_cons]
        exact ⟨by decide, hend, hsaid⟩
      have hne : l.text ≠ [] := by
        rw [htext]
        exact List.cons_ne_nil _ _
      rw [wholeLines_append_stops hall some ends, if_neg hne, List.filterMap_cons,
        publishes_text l, List.filterMap_cons, ih]
    | true =>
      -- the letter cuts the line in two, of which lrmond makes nothing
      have hcut : publishes [chLess] = none := by decide
      have hlines := wholeLines_append_cons hless hend (behind ++ (stops ++ bytes))
      rw [if_neg (List.cons_ne_nil _ _), wholeLines_append_stops hsaid some ends] at hlines
      rw [List.filterMap_cons_none (message_of_isLineEnd hend hch), htext]
      refine (congrArg (List.filterMap publishes) hlines).trans ?_
      rw [List.filterMap_cons_none hcut]
      split
      · exact ih
      · rw [List.filterMap_cons_none (publishes_debug hhead)]
        exact ih
  | debug no text some ends rest ih =>
    rw [wholeLines_append_stops (fun ch hch ↦ (text ch hch).1) some ends]
    split
    · exact ih
    · rw [List.filterMap_cons, publishes_debug no]
      exact ih

/-- What has been published when a part of the serial line has been read. -/
theorem Written.published_read {ls : List Line} {bytes : List UInt8} {chunks : List (List UInt8)}
    (h : Written ls bytes) (hletter : ∀ l ∈ ls, ∀ chan ∈ channelOf l, chan + chA ≠ 0)
    (hread : chunks.flatten <+: bytes) (hfit : Along Sio.processSio Sio.Fits Sio.init chunks) :
    (run Sio.processSio Sio.init chunks).passed.filterMap publishes <+: ls.filterMap message ∧
      (run Sio.processSio Sio.init chunks).passed =
        wholeLines IsLineEnd chunks.flatten := by
  obtain ⟨rest, hbytes⟩ := hread
  have hnul : ∀ ch ∈ [] ++ chunks.flatten, ch ≠ 0 := by
    intro ch hch
    apply h.ne_nul hletter ch
    rw [← hbytes]
    exact List.mem_append_left rest hch
  have hinit : Sio.Reassembles [] Sio.init := ⟨rfl, rfl⟩
  have hrun := (Sio.reassembles_run hinit hfit hnul).passed
  have hpublished := h.published
  rw [List.nil_append] at hrun
  rw [← hbytes, wholeLines_append, List.filterMap_append] at hpublished
  rw [hrun]
  exact ⟨⟨_, hpublished⟩, rfl⟩

/-- However the serial line of the controller is split into reads, and however far it has been read,
if no channel letter is a NUL: what was published are the messages of the status reports that the
controller has printed on the channels below 16, each once and in their order, up to some of them;
and all of them when everything was read. -/
theorem published_in_order {ls : List Line} {bytes : List UInt8} {chunks : List (List UInt8)}
    (hwritten : Written ls bytes) (hletter : ∀ l ∈ ls, ∀ chan ∈ channelOf l, chan + chA ≠ 0)
    (hread : chunks.flatten <+: bytes) (hfit : Along Sio.processSio Sio.Fits Sio.init chunks) :
    (run Sio.processSio Sio.init chunks).passed.filterMap publishes <+: ls.filterMap message ∧
      (chunks.flatten = bytes →
        (run Sio.processSio Sio.init chunks).passed.filterMap publishes =
          ls.filterMap message) := by
  obtain ⟨hpre, hpassed⟩ := hwritten.published_read hletter hread hfit
  refine ⟨hpre, fun hall ↦ ?_⟩
  rw [hpassed, hall]
  exact hwritten.published

/-- A debug line, a report on channel 20, and a report on channel 0, in two reads. -/
theorem published_in_order_report :
    (run Sio.processSio Sio.init [characters "ENQ:S6\n<U1:7:9:1\n<A5:30",
        characters "0:9:1,2\n"]).passed.filterMap publishes =
      [responseJson 0 5 300 (characters "1,2")] := by
  have hreport : (Line.report 0 5 300 RADIO_STATUS_RESPONSE [1, 2]).text =
      characters "<A5:300:9:1,2" := by decide +kernel
  have hrefused : (Line.report 20 1 7 RADIO_STATUS_RESPONSE [1]).text =
      characters "<U1:7:9:1" := by decide +kernel
  have hwritten : Written
      [.report 20 1 7 RADIO_STATUS_RESPONSE [1], .report 0 5 300 RADIO_STATUS_RESPONSE [1, 2]]
      (characters "ENQ:S6" ++ ([chNewline] ++
        ((Line.report 20 1 7 RADIO_STATUS_RESPONSE [1]).text ++ ([chNewline] ++
          ((Line.report 0 5 300 RADIO_STATUS_RESPONSE [1, 2]).text ++ ([chNewline] ++ [])))))) :=
    .debug (by decide +kernel) (by decide +kernel) (List.cons_ne_nil _ _) isLineEnd_newline
      (.line _ (List.cons_ne_nil _ _) isLineEnd_newline
        (.line _ (List.cons_ne_nil _ _) isLineEnd_newline .nil))
  have hmessage : [Line.report 20 1 7 RADIO_STATUS_RESPONSE [1],
      .report 0 5 300 RADIO_STATUS_RESPONSE [1, 2]].filterMap message =
      [responseJson 0 5 300 (characters "1,2")] := by decide +kernel
  have hfit : Along Sio.processSio Sio.Fits Sio.init
      [characters "ENQ:S6\n<U1:7:9:1\n<A5:30", characters "0:9:1,2\n"] :=
    ⟨⟨by decide, by decide +kernel⟩, ⟨by decide, by decide +kernel⟩, trivial⟩
  rw [hreport, hrefused] at hwritten
  rw [← hmessage]
  exact (published_in_order hwritten (by simp [channelOf]; decide) List.prefix_rfl hfit).2 rfl

end Lrmon
end Libradio
