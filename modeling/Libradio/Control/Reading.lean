import Libradio.Control.CommandLine

/-!
# What the parser has read

At every point the parser's state says what the current line has been so far, and the packet
it is filling holds what the line says, whatever was in that packet before. A packet that is
handed over at a dot is the packet of the line.
-/

namespace Libradio
open Libradio.Base

/-- The requests that are complete without a line end: `>S`, `>T` and `>R`. -/
inductive Requests : List UInt8 → Prop
  | nil : Requests []
  | snoc {r : List UInt8} (ch : UInt8) (h : ch = chS ∨ ch = chT ∨ ch = chR) (hr : Requests r) :
      Requests (r ++ [chGreater, ch])

/-- The current line, a character further. -/
def nextLine (line : List UInt8) (ch : UInt8) : List UInt8 :=
  if IsLineEnd ch then [] else line ++ [ch]

/-- The current line of a text: what follows its last line end. -/
def currentLine (text : List UInt8) : List UInt8 := text.foldl nextLine []

/-- The line after one more character. -/
theorem currentLine_concat (text : List UInt8) (ch : UInt8) :
    currentLine (text ++ [ch]) = nextLine (currentLine text) ch := by
  rw [currentLine, List.foldl_append]
  rfl

/-- A text without a line end is its own current line. -/
theorem currentLine_eq_self {text : List UInt8} (h : ∀ ch ∈ text, ¬ IsLineEnd ch) :
    currentLine text = text := by
  have hfold (text : List UInt8) (h : ∀ ch ∈ text, ¬ IsLineEnd ch) (line : List UInt8) :
      text.foldl nextLine line = line ++ text := by
    induction text generalizing line with
    | nil => simp
    | cons ch text ih =>
      rw [List.foldl_cons, nextLine, if_neg (h ch List.mem_cons_self),
        ih (fun x hx ↦ h x (List.mem_cons_of_mem _ hx)), List.append_assoc, List.singleton_append]
  rw [currentLine, hfold text h, List.nil_append]

/-- A line that goes on behind a request starts like one. -/
theorem head_of_requests {r : List UInt8} (h : Requests r) :
    r = [] ∨ ∃ ch rest, (ch = chS ∨ ch = chT ∨ ch = chR) ∧ r = chGreater :: ch :: rest := by
  induction h with
  | nil => exact .inl rfl
  | snoc ch hch hr ih =>
    right
    rcases ih with rfl | ⟨ch', rest, hch', rfl⟩
    · exact ⟨ch, [], hch, rfl⟩
    · exact ⟨ch', rest ++ [chGreater, ch], hch', rfl⟩

/-- The letter of a channel is none of the characters that lead to a request. -/
theorem letter_ne {c : Fin 6} {ch : UInt8} (h : ch = chS ∨ ch = chT ∨ ch = chR) :
    letter c ≠ ch := by
  rcases h with rfl | rfl | rfl <;> revert c <;> decide

/-- No request has a dot in it. -/
theorem dot_notMem_requests {r : List UInt8} (h : Requests r) : chDot ∉ r := by
  induction h with
  | nil => exact List.not_mem_nil
  | snoc ch hch hr ih =>
    have hne : chDot ≠ ch := by rcases hch with rfl | rfl | rfl <;> decide
    have hgreater : chDot ≠ chGreater := by decide
    simp [ih, hne, hgreater]

namespace CommandLine

/-- One more data byte. -/
def push (k : CommandLine) (last : List UInt8) (h : Digits last) (hlt : k.data.length < 10) :
    CommandLine where
  channel := k.channel
  node := k.node
  cmd := k.cmd
  data := k.data ++ [last]
  node_digits := k.node_digits
  cmd_digits := k.cmd_digits
  data_digits := by
    intro ds hds
    rcases List.mem_append.mp hds with hmem | hmem
    · exact k.data_digits ds hmem
    · obtain rfl := List.mem_singleton.mp hmem
      exact h
  data_le := by
    rw [List.length_append, List.length_singleton]
    omega

/-- The line up to the data byte that is being read. -/
def dataSoFar (k : CommandLine) (last : List UInt8) : List UInt8 :=
  header k.channel k.node ++ (k.cmd ++ chColon :: (k.data.flatMap (· ++ [chComma]) ++ last))

private theorem dataSoFar_push (k : CommandLine) (last : List UInt8) (h : Digits last)
    (hlt : k.data.length < 10) :
    (k.push last h hlt).dataSoFar [] = k.dataSoFar last ++ [chComma] := by
  simp [dataSoFar, push]

private theorem text_push (k : CommandLine) (last : List UInt8) (h : Digits last)
    (hlt : k.data.length < 10) : (k.push last h hlt).text = k.dataSoFar last ++ [chDot] := by
  simp only [text, push, dataText, if_neg (List.append_ne_nil_of_right_ne_nil _
    (List.cons_ne_nil last [])), intercalate_concat, dataSoFar, List.append_assoc, List.cons_append]

private theorem take_set_length {α : Type} (xs : List α) (n : Nat) (v : α) (h : n < xs.length) :
    (xs.set n v).take (n + 1) = xs.take n ++ [v] := by
  rw [List.take_succ_eq_append_getElem (by rwa [List.length_set]), List.getElem_set_self,
    List.take_set_of_le (Nat.le_refl n)]

/-- Storing a data byte, `src/control/input.c:186`, writes one more data byte. -/
theorem Writes.push {k : CommandLine} {p : Packet} (hw : k.Writes p.content)
    (last : List UInt8) (h : Digits last) (hlt : k.data.length < 10) :
    (k.push last h hlt).Writes (p.push (number last)).content := by
  obtain ⟨hnode, hcmd, hlen, hdata⟩ := hw
  change p.len.toNat = k.data.length at hlen
  refine ⟨hnode, hcmd, ?_, ?_⟩
  · change (p.len + 1).toNat = (k.data ++ [last]).length
    rw [UInt8.toNat_add, hlen, List.length_append, List.length_singleton]
    simp only [UInt8.reduceToNat]
    omega
  · change ((p.data.setIfInBounds p.len.toNat (number last)).toList.take
      (k.data ++ [last]).length) = (k.data ++ [last]).map number
    rw [List.length_append, List.length_singleton, Vector.toList_setIfInBounds, hlen,
      take_set_length _ _ _ (by simpa using hlt), List.map_append]
    congr 1

end CommandLine

namespace Ctl

variable {σ : Type}

/-- The parser's state says what the current line has been so far. -/
def Reads (s : Ctl σ) (line : List UInt8) : Prop :=
  match s.state with
  | .newline => Requests line
  | .waitnl => True
  | .waitchan => ∃ r, Requests r ∧ line = r ++ [chGreater]
  | .waitnode => ∃ r node, Requests r ∧ Digits node ∧
      line = r ++ chGreater :: letter s.currChp :: node ∧ s.value = number node
  | .waitcmd => ∃ r node cmd, Requests r ∧ Digits node ∧ Digits cmd ∧
      line = r ++ (header s.currChp node ++ cmd) ∧
      (s.chan s.currChp).packet.node = number node ∧ s.value = number cmd
  | .waitdata => ∃ r k last, Requests r ∧ Digits last ∧ k.channel = s.currChp ∧
      line = r ++ CommandLine.dataSoFar k last ∧
      k.Writes (s.chan s.currChp).packet.content ∧ s.value = number last

private theorem reads_waitnl {s : Ctl σ} (h : s.state = .waitnl) (line : List UInt8) :
    Reads s line := by
  rw [Reads, h]
  trivial

/-- The character after `>`. -/
theorem reads_inputChan (b : Board σ) (ch : UInt8) {s : Ctl σ} {r : List UInt8}
    (hr : Requests r) : Reads (inputChan b ch s) (r ++ [chGreater, ch]) := by
  unfold inputChan
  split
  · unfold claimChannel
    dsimp only
    split
    · next hlt =>
      split
      · exact reads_waitnl rfl _
      · refine ⟨r, [], hr, digits_nil, ?_, rfl⟩
        have hletter : letter ⟨(ch - chA).toNat, hlt⟩ = ch := by
          rw [letter, UInt8.ofNat_toNat, UInt8.add_comm, UInt8.sub_add_cancel]
        exact congrArg (fun x ↦ r ++ [chGreater, x]) hletter.symm
    · exact reads_waitnl rfl _
  · split
    · next h => exact .snoc ch (.inr (.inr h)) hr
    · split
      · next h => exact .snoc ch (h.imp_right .inl) hr
      · exact reads_waitnl rfl _

/-- A character of the node number. -/
theorem reads_inputNode {ch : UInt8} {s : Ctl σ} {line : List UInt8} (hst : s.state = .waitnode)
    (h : Reads s line) : Reads (inputNode ch s) (line ++ [ch]) := by
  rw [Reads, hst] at h
  obtain ⟨r, node, hr, hnode, hline, hvalue⟩ := h
  unfold inputNode
  split
  · next hdigit =>
    rw [Reads]
    dsimp only
    rw [hst]
    refine ⟨r, node ++ [ch], hr, digits_concat hnode hdigit, ?_, ?_⟩
    · rw [hline]
      simp
    · rw [hvalue, number_concat hdigit]
  · split
    · next hcolon =>
      refine ⟨r, node, [], hr, hnode, digits_nil, ?_, ?_, rfl⟩
      · rw [hline, hcolon]
        simp [header, storeNode]
      · rw [← hvalue]
        simp [storeNode, chan, modify]
    · exact reads_waitnl rfl _

/-- A character of the command number. -/
theorem reads_inputCmd (b : Board σ) {ch : UInt8} {s : Ctl σ} {line : List UInt8}
    (hst : s.state = .waitcmd) (h : Reads s line) :
    Reads (inputCmd b ch s) (line ++ [ch]) := by
  rw [Reads, hst] at h
  obtain ⟨r, node, cmd, hr, hnode, hcmd, hline, hpacket, hvalue⟩ := h
  unfold inputCmd
  split
  · next hdigit =>
    rw [Reads]
    dsimp only
    rw [hst]
    refine ⟨r, node, cmd ++ [ch], hr, hnode, digits_concat hcmd hdigit, ?_, hpacket, ?_⟩
    · rw [hline]
      simp
    · rw [hvalue, number_concat hdigit]
  · split
    · next hcolon =>
      have hown : ((storeCmd s).chan s.currChp).packet =
          { (s.chan s.currChp).packet with cmd := s.value, len := 0 } := by
        simp [storeCmd, chan, modify]
      refine ⟨r, ⟨s.currChp, node, cmd, [], hnode, hcmd, by simp, by simp⟩, [], hr, digits_nil,
        rfl, ?_, ⟨?_, ?_, ?_, rfl⟩, rfl⟩
      · rw [hline, hcolon]
        simp [CommandLine.dataSoFar]
      · exact (congrArg Packet.node hown).trans hpacket
      · exact (congrArg Packet.cmd hown).trans hvalue
      · exact congrArg (fun p : Packet ↦ p.len.toNat) hown
    · split <;> exact reads_waitnl rfl _

/-- A character of the data. -/
theorem reads_inputData (b : Board σ) {ch : UInt8} {s : Ctl σ} {line : List UInt8}
    (hst : s.state = .waitdata) (h : Reads s line) :
    Reads (inputData b ch s) (line ++ [ch]) := by
  rw [Reads, hst] at h
  obtain ⟨r, k, last, hr, hlast, hchan, hline, hw, hvalue⟩ := h
  unfold inputData
  split
  · next hdigit =>
    rw [Reads]
    dsimp only
    rw [hst]
    refine ⟨r, k, last ++ [ch], hr, digits_concat hlast hdigit, hchan, ?_, hw, ?_⟩
    · rw [hline]
      simp [CommandLine.dataSoFar]
    · rw [hvalue, number_concat hdigit]
  · split
    · next hsep =>
      split
      · exact reads_waitnl rfl _
      · next hlen =>
        split
        · exact reads_waitnl rfl _
        · next hdot =>
          have hlt : k.data.length < 10 := by
            have := UInt8.lt_iff_toNat_lt.mp (UInt8.not_le.mp hlen)
            rw [← hw.len]
            exact this
          have hown : ((storeData s).chan s.currChp).packet =
              (s.chan s.currChp).packet.push (number last) := by
            rw [← hvalue]
            simp [storeData, chan, modify]
          have hst' : (storeData s).state = .waitdata := hst
          rw [Reads, hst']
          refine ⟨r, k.push last hlast hlt, [], hr, digits_nil, hchan, ?_, ?_, rfl⟩
          · rw [hline, hsep.resolve_right hdot, CommandLine.dataSoFar_push, List.append_assoc]
          · change (k.push last hlast hlt).Writes ((storeData s).chan s.currChp).packet.content
            rw [hown]
            exact hw.push last hlast hlt
    · exact reads_waitnl rfl _

/-- One more character. -/
theorem reads_processInput (b : Board σ) (ch : UInt8) {s : Ctl σ} {line : List UInt8}
    (h : Reads s line) : Reads (processInput b ch s) (nextLine line ch) := by
  have hnote : Reads (s.note (.input ch)) line := h
  unfold processInput nextLine
  dsimp only
  split
  · split <;> exact Requests.nil
  · rw [state_note]
    cases hst : s.state with
    | newline =>
      dsimp only
      split
      · next hgt =>
        rw [Reads, hst] at h
        exact ⟨line, h, by rw [hgt]⟩
      · exact reads_waitnl rfl _
    | waitnl => exact reads_waitnl hst _
    | waitchan =>
      rw [Reads, hst] at h
      obtain ⟨r, hr, rfl⟩ := h
      rw [List.append_assoc]
      exact reads_inputChan b ch hr
    | waitnode => exact reads_inputNode hst hnote
    | waitcmd => exact reads_inputCmd b hst hnote
    | waitdata => exact reads_inputData b hst hnote

/-- While a packet is assembled, the line has a channel letter and has not come to its dot. -/
theorem assembling_of_reads {s : Ctl σ} {line : List UInt8} (h : Reads s line)
    (hasm : s.state.IsAssembling) :
    ∃ r rest, Requests r ∧ line = r ++ chGreater :: letter s.currChp :: rest ∧ chDot ∉ rest := by
  have hdigit {ds : List UInt8} (hds : Digits ds) : chDot ∉ ds := fun hmem ↦
    absurd (hds chDot hmem) (by decide)
  have hcolon : chDot ≠ chColon := by decide
  rw [Reads] at h
  cases hst : s.state with
  | waitnode =>
    rw [hst] at h
    obtain ⟨r, node, hr, hnode, hline, -⟩ := h
    exact ⟨r, node, hr, hline, hdigit hnode⟩
  | waitcmd =>
    rw [hst] at h
    obtain ⟨r, node, cmd, hr, hnode, hcmd, hline, -⟩ := h
    refine ⟨r, node ++ chColon :: cmd, hr, ?_, ?_⟩
    · rw [hline]
      simp [header]
    · simp [hdigit hnode, hdigit hcmd, hcolon]
  | waitdata =>
    rw [hst] at h
    obtain ⟨r, k, last, hr, hlast, hchan, hline, -⟩ := h
    refine ⟨r, k.node ++ chColon :: (k.cmd ++ chColon ::
      (k.data.flatMap (· ++ [chComma]) ++ last)), hr, ?_, ?_⟩
    · rw [hline, ← hchan]
      simp [CommandLine.dataSoFar, header]
    · have hdata : chDot ∉ k.data.flatMap (· ++ [chComma]) := by
        intro hmem
        obtain ⟨ds, hds, hch⟩ := List.mem_flatMap.mp hmem
        rcases List.mem_append.mp hch with hch | hch
        · exact hdigit (k.data_digits ds hds) hch
        · exact absurd hch (by decide)
      simp [hdigit k.node_digits, hdigit k.cmd_digits, hdigit hlast, hdata, hcolon]
  | _ => exact absurd hasm (by rw [hst]; decide)

/-- The character hands packet `p` in channel `c` to `enqueue`. -/
def Hands (b : Board σ) (s : Ctl σ) (ch : UInt8) (c : Fin 6) (p : Packet.Content) : Prop :=
  ∃ later, (processInput b ch s).hist = later ++ .handed c p :: .input ch :: s.hist

/-- Only a character that completes a packet hands one over. -/
theorem completed_of_hands {b : Board σ} {s : Ctl σ} {ch : UInt8} {c : Fin 6}
    {p : Packet.Content} (h : Hands b s ch c p) : completed ch s = some (c, p) := by
  obtain ⟨later, hlater⟩ := h
  -- the entry behind the character is the one that was handed over
  have hentry (pre : List Obs) {o : Obs}
      (ho : (processInput b ch s).hist = pre ++ o :: .input ch :: s.hist) : o = .handed c p := by
    have := List.append_inj_right' (ho.symm.trans hlater) rfl
    exact (List.cons.inj this).1
  have hsome : (processInput b ch s).hist ≠ .input ch :: s.hist := fun ho ↦ by
    have := congrArg List.length (ho.symm.trans hlater)
    simp only [List.length_append, List.length_cons] at this
    omega
  cases effect_processInput b ch s with
  | idle before after chan respChp hist => exact absurd hist hsome
  | claimed before free own others after respChp hist =>
    cases hentry [] hist
  | stored before after currChp state others respChp hist => exact absurd hist hsome
  | left before leaves after chan respChp hist => exact absurd hist hsome
  | handed before completes enqueued after =>
    have hhist := (filled_spec ch s).2.2.2.2.2
    have hp : Obs.handed s.currChp ((filled ch s).chan s.currChp).packet.content =
        .handed c p := by
      cases enqueued.fate with
      | executed code own state others hist =>
        rw [hhist] at hist
        exact hentry (.finish _ :: .exec _ code :: configObs _) hist
      | refused own active state others hist =>
        rw [hhist] at hist
        exact hentry [.finish _] hist
      | queued own active state others hist =>
        rw [hhist] at hist
        exact hentry [.ack _ _] hist
    rw [completed, if_pos completes]
    simp only [Obs.handed.injEq] at hp
    rw [hp.2, ← hp.1]
  | reset eq =>
    have := (boot_fresh b (s.note (.input ch))).2.2.2
    rw [← eq] at this
    cases hentry [] this

/-- A packet that a parser which has read `line` hands over is, at a dot, the packet of the
line; at a line end the line has a node number that was closed by its colon. -/
theorem handed_of_reads {s : Ctl σ} {line : List UInt8} (hr : Reads s line) {ch : UInt8}
    {c : Fin 6} {p : Packet.Content} (h : completed ch s = some (c, p)) :
    (ch = chDot ∧ ∃ r l, Requests r ∧ line ++ [ch] = r ++ CommandLine.text l ∧ l.channel = c ∧
        l.Writes p) ∨
      (IsLineEnd ch ∧ ∃ r node rest, Requests r ∧ Digits node ∧
        line = r ++ (header c node ++ rest)) := by
  rw [completed] at h
  split at h
  · next hcomp =>
    cases h
    by_cases hend : IsLineEnd ch
    · refine .inr ⟨hend, ?_⟩
      rcases hcomp with ⟨hst, -⟩ | ⟨hst, -⟩
      · rw [Reads, hst] at hr
        obtain ⟨r, node, cmd, hreq, hnode, -, hline, -⟩ := hr
        exact ⟨r, node, cmd, hreq, hnode, hline⟩
      · rw [Reads, hst] at hr
        obtain ⟨r, k, last, hreq, -, hchan, hline, -⟩ := hr
        rw [CommandLine.dataSoFar, hchan] at hline
        exact ⟨r, k.node, _, hreq, k.node_digits, hline⟩
    · left
      rcases hcomp with ⟨hst, hdot⟩ | ⟨hst, hdot⟩
      · obtain rfl := hdot.resolve_left hend
        rw [Reads, hst] at hr
        obtain ⟨r, node, cmd, hreq, hnode, hcmd, hline, hpacket, hvalue⟩ := hr
        have hown : ((filled chDot s).chan s.currChp).packet =
            { (s.chan s.currChp).packet with cmd := s.value, len := 0 } := by
          rw [filled, if_neg hend, if_pos hst]
          simp [storeCmd, chan, modify]
        refine ⟨rfl, r, ⟨s.currChp, node, cmd, [], hnode, hcmd, by simp, by simp⟩, hreq, ?_,
          rfl, ?_⟩
        · rw [hline]
          simp [CommandLine.text, CommandLine.dataText]
        · rw [hown]
          exact ⟨hpacket, hvalue, rfl, rfl⟩
      · obtain ⟨rfl, hlen⟩ := hdot.resolve_left hend
        rw [Reads, hst] at hr
        obtain ⟨r, k, last, hreq, hlast, hchan, hline, hw, hvalue⟩ := hr
        have hlt : k.data.length < 10 := by
          rw [← hw.len]
          exact UInt8.lt_iff_toNat_lt.mp hlen
        have hown : ((filled chDot s).chan s.currChp).packet =
            (s.chan s.currChp).packet.push (number last) := by
          rw [filled, if_neg hend, if_neg (by rw [hst]; decide), ← hvalue]
          simp [storeData, chan, modify]
        refine ⟨rfl, r, k.push last hlast hlt, hreq, ?_, hchan, ?_⟩
        · rw [hline, CommandLine.text_push, List.append_assoc]
        · rw [hown]
          exact hw.push last hlast hlt
  · cases h

/-- What a parser that starts a line has read of a text. -/
theorem reads_run (b : Board σ) {s : Ctl σ} (hs : s.state = .newline) (text : List UInt8) :
    Reads (run (fun s ch ↦ processInput b ch s) s text) (currentLine text) := by
  have hreads : ∀ (line : List UInt8) (s : Ctl σ), Reads s line →
      Reads (run (fun s ch ↦ processInput b ch s) s text) (text.foldl nextLine line) := by
    induction text with
    | nil => exact fun line s h ↦ h
    | cons ch text ih => exact fun line s h ↦ ih _ _ (reads_processInput b ch h)
  refine hreads [] s ?_
  rw [Reads, hs]
  exact Requests.nil

/-- For every text: a packet is handed over at a dot or at a line end only. At a dot it is
the packet that the current line says, each number taken modulo 256; at a line end the line
has a node number that was closed by its colon. -/
theorem handed_as_written (b : Board σ) (s : Ctl σ) (hs : s.state = .newline)
    (text : List UInt8) (ch : UInt8) (c : Fin 6) (p : Packet.Content)
    (h : Hands b (run (fun s ch ↦ processInput b ch s) s text) ch c p) :
    (ch = chDot ∧ ∃ r l, Requests r ∧ currentLine (text ++ [ch]) = r ++ CommandLine.text l ∧
        l.channel = c ∧ l.Writes p) ∨
      (IsLineEnd ch ∧ ∃ r node rest, Requests r ∧ Digits node ∧
        currentLine text = r ++ (header c node ++ rest)) := by
  refine (handed_of_reads (reads_run b hs text) (completed_of_hands h)).imp_left ?_
  rintro ⟨rfl, hline⟩
  have hcurrent : currentLine (text ++ [chDot]) = currentLine text ++ [chDot] := by
    rw [currentLine_concat, nextLine, if_neg (by decide)]
  exact ⟨rfl, hcurrent ▸ hline⟩

private def anyRadio : Board Nat := .scripted fun _ _ ↦ 0

private def wrapped : List UInt8 := characters ">A300:5"

private theorem hands_wrapped :
    Hands anyRadio (run (fun s ch ↦ processInput anyRadio ch s)
      (start anyRadio 0 (fun _ ↦ 0) 0) wrapped) chDot 0 ⟨44, 5, 0, Vector.replicate 10 0⟩ :=
  ⟨[.finish 0], by decide +kernel⟩

/-- A line for node 300 is handed over for node 44. -/
theorem handed_as_written_wrapped :
    ∃ r l, Requests r ∧ currentLine (wrapped ++ [chDot]) = r ++ CommandLine.text l ∧
      l.channel = 0 ∧ l.Writes ⟨44, 5, 0, Vector.replicate 10 0⟩ :=
  ((handed_as_written anyRadio (start anyRadio 0 (fun _ ↦ 0) 0) rfl wrapped chDot 0 _
    hands_wrapped).resolve_right fun h ↦ absurd h.1 (by decide)).2

/-- Not every line that is handed over has its numbers within a byte. -/
theorem wide_number_handed :
    ¬ ∀ (text : List UInt8) (ch : UInt8) (c : Fin 6) (p : Packet.Content),
      Hands anyRadio (run (fun s ch ↦ processInput anyRadio ch s)
        (start anyRadio 0 (fun _ ↦ 0) 0) text) ch c p →
      ∃ l : CommandLine, currentLine (text ++ [ch]) = l.text ∧ l.InRange ∧ l.channel = c ∧
        l.Writes p := by
  intro h
  obtain ⟨l, hline, hrange, -⟩ := h wrapped chDot 0 _ hands_wrapped
  have hl : l = ⟨0, characters "300", characters "5", [], by decide +kernel,
      by decide +kernel, by simp, by decide⟩ :=
    CommandLine.text_inj (hline.symm.trans (by decide +kernel))
  subst hl
  have := (hrange _ List.mem_cons_self).2
  exact absurd this (by decide +kernel)

end Ctl
end Libradio
