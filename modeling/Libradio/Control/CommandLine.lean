import Libradio.Control.InputEffects

/-!
# Command lines

What a command line of the serial protocol looks like, and what it says: a channel, a node,
a command and up to ten data bytes, each written as a text of digits
(`src/control/input.c:84-192`, the samples in `src/control/cmds`). A line can be read in one
way only.
-/

namespace Libradio
open Libradio.Base

/-- The byte that a text of digits stands for: the parser counts modulo 256. -/
def number (ds : List UInt8) : UInt8 := UInt8.ofNat (decimal ds)

/-- No text is the number zero. -/
@[simp] theorem number_nil : number [] = 0 := rfl

/-- Reading one more digit, `src/control/input.c:155`. -/
theorem number_concat {ds : List UInt8} {ch : UInt8} (h : IsDigit ch) :
    number (ds ++ [ch]) = addDigit (number ds) ch := by
  have hge : 48 ≤ ch.toNat := UInt8.le_iff_toNat_le.mp h.1
  apply UInt8.toNat_inj.mp
  simp only [number, addDigit, decimal_concat, UInt8.toNat_sub, UInt8.toNat_add, UInt8.toNat_mul,
    UInt8.toNat_ofNat', UInt8.reduceToNat]
  have hzero : chZero.toNat = 48 := rfl
  have hlt := ch.toNat_lt
  omega

/-- The letter of a channel. -/
def letter (c : Fin 6) : UInt8 := chA + UInt8.ofNat c.val

private theorem letter_inj {c d : Fin 6} (h : letter c = letter d) : c = d := by
  revert h
  revert c d
  decide

/-- No channel letter is a dot. -/
theorem letter_ne_dot (c : Fin 6) : letter c ≠ chDot := by
  revert c
  decide

/-- The start of a command line: a channel and a node. -/
def header (c : Fin 6) (node : List UInt8) : List UInt8 :=
  chGreater :: letter c :: node ++ [chColon]

/-- A command line, as texts of digits. -/
structure CommandLine where
  channel : Fin 6
  node : List UInt8
  cmd : List UInt8
  data : List (List UInt8)
  node_digits : Digits node
  cmd_digits : Digits cmd
  data_digits : ∀ ds ∈ data, Digits ds
  data_le : data.length ≤ 10

namespace CommandLine

/-- The data of a command line up to its dot. -/
def dataText (data : List (List UInt8)) : List UInt8 :=
  if data = [] then [] else chColon :: List.intercalate [chComma] data

/-- The line itself. -/
def text (l : CommandLine) : List UInt8 :=
  header l.channel l.node ++ (l.cmd ++ (dataText l.data ++ [chDot]))

/-- The packet says what the line says. -/
structure Writes (l : CommandLine) (p : Packet.Content) : Prop where
  node : p.node = number l.node
  cmd : p.cmd = number l.cmd
  len : p.len.toNat = l.data.length
  data : p.data.toList.take l.data.length = l.data.map number

/-- Every number of the line is written out and fits a byte. -/
def InRange (l : CommandLine) : Prop :=
  ∀ ds ∈ l.node :: l.cmd :: l.data, ds ≠ [] ∧ decimal ds ≤ 255

end CommandLine

/-- A data byte behind those already written. -/
theorem intercalate_concat (x : UInt8) (data : List (List UInt8)) (last : List UInt8) :
    List.intercalate [x] (data ++ [last]) = data.flatMap (· ++ [x]) ++ last := by
  induction data with
  | nil => simp
  | cons d data ih =>
    rw [List.cons_append, List.intercalate_cons_of_ne_nil (by simp), ih, List.flatMap_cons,
      List.append_assoc, List.append_assoc, List.append_assoc]

/-- The data, the first one and then those behind a comma. -/
theorem CommandLine.intercalate_eq_flatMap (x : UInt8) (d : List UInt8) (ds : List (List UInt8)) :
    List.intercalate [x] (d :: ds) = d ++ ds.flatMap (x :: ·) := by
  induction ds generalizing d with
  | nil => simp
  | cons e ds ih =>
    rw [List.intercalate_cons_cons, ih, List.flatMap_cons]
    simp

private theorem not_isDigit_dot : ¬ IsDigit chDot := by decide
private theorem not_isDigit_comma : ¬ IsDigit chComma := by decide
private theorem not_isDigit_colon : ¬ IsDigit chColon := by decide

/-- Data texts can be read in one way. -/
theorem intercalate_inj {data data' : List (List UInt8)} (hds : ∀ ds ∈ data, Digits ds)
    (hds' : ∀ ds ∈ data', Digits ds) (hne : data ≠ []) (hne' : data' ≠ [])
    (h : List.intercalate [chComma] data ++ [chDot] =
      List.intercalate [chComma] data' ++ [chDot]) : data = data' := by
  induction data generalizing data' with
  | nil => exact absurd rfl hne
  | cons d data ih =>
    obtain ⟨d', data', rfl⟩ := List.exists_cons_of_ne_nil hne'
    have hd := hds d List.mem_cons_self
    have hd' := hds' d' List.mem_cons_self
    cases data with
    | nil =>
      cases data' with
      | nil =>
        rw [List.intercalate_singleton, List.intercalate_singleton] at h
        rw [(digits_append_inj hd hd' not_isDigit_dot not_isDigit_dot h).1]
      | cons e data' =>
        rw [List.intercalate_singleton, List.intercalate_cons_cons] at h
        simp only [List.append_assoc, List.cons_append, List.nil_append] at h
        have := (digits_append_inj hd hd' not_isDigit_dot not_isDigit_comma h).2.1
        exact absurd this (by decide)
    | cons e data =>
      cases data' with
      | nil =>
        rw [List.intercalate_singleton, List.intercalate_cons_cons] at h
        simp only [List.append_assoc, List.cons_append, List.nil_append] at h
        have := (digits_append_inj hd hd' not_isDigit_comma not_isDigit_dot h).2.1
        exact absurd this (by decide)
      | cons e' data' =>
        rw [List.intercalate_cons_cons, List.intercalate_cons_cons] at h
        simp only [List.append_assoc, List.cons_append, List.nil_append] at h
        obtain ⟨rfl, -, hrest⟩ :=
          digits_append_inj hd hd' not_isDigit_comma not_isDigit_comma h
        rw [ih (fun ds hx ↦ hds ds (List.mem_cons_of_mem _ hx))
          (fun ds hx ↦ hds' ds (List.mem_cons_of_mem _ hx)) (by simp) (by simp) hrest]

namespace CommandLine

/-- A command line can be read in one way. -/
theorem text_inj {l l' : CommandLine} (h : l.text = l'.text) : l = l' := by
  obtain ⟨c, node, cmd, data, hnode, hcmd, hdata, hle⟩ := l
  obtain ⟨c', node', cmd', data', hnode', hcmd', hdata', hle'⟩ := l'
  simp only [text, header, List.cons_append, List.append_assoc, List.nil_append,
    List.cons.injEq, true_and] at h
  obtain ⟨hc, h⟩ := h
  obtain rfl := letter_inj hc
  obtain ⟨rfl, -, h⟩ := digits_append_inj hnode hnode' not_isDigit_colon not_isDigit_colon h
  -- what follows the command is a dot or, before data, a colon
  by_cases hd : data = [] <;> by_cases hd' : data' = []
  · subst hd hd'
    obtain ⟨rfl, -⟩ := digits_append_inj hcmd hcmd' not_isDigit_dot not_isDigit_dot h
    rfl
  · rw [dataText, dataText, if_pos hd, if_neg hd'] at h
    have := (digits_append_inj hcmd hcmd' not_isDigit_dot not_isDigit_colon h).2.1
    exact absurd this (by decide)
  · rw [dataText, dataText, if_neg hd, if_pos hd'] at h
    have := (digits_append_inj hcmd hcmd' not_isDigit_colon not_isDigit_dot h).2.1
    exact absurd this (by decide)
  · rw [dataText, dataText, if_neg hd, if_neg hd'] at h
    obtain ⟨rfl, -, h⟩ := digits_append_inj hcmd hcmd' not_isDigit_colon not_isDigit_colon h
    obtain rfl := intercalate_inj hdata hdata' hd hd' h
    rfl

/-- The line starts with its channel. -/
theorem text_head (l : CommandLine) :
    ∃ rest, l.text = chGreater :: letter l.channel :: rest := ⟨_, rfl⟩

/-- A command line ends with its only dot. -/
theorem exists_text_eq (l : CommandLine) :
    ∃ body, l.text = body ++ [chDot] ∧ ∀ ch ∈ body,
      ch = chGreater ∨ ch = letter l.channel ∨ IsDigit ch ∨ ch = chColon ∨ ch = chComma := by
  have hdata {ch : UInt8} (data : List (List UInt8)) (hds : ∀ ds ∈ data, Digits ds)
      (hch : ch ∈ List.intercalate [chComma] data) : IsDigit ch ∨ ch = chComma := by
    cases data with
    | nil => simp at hch
    | cons d data =>
      rw [intercalate_eq_flatMap, List.mem_append, List.mem_flatMap] at hch
      rcases hch with hch | ⟨ds, hmem, hch⟩
      · exact .inl (hds d List.mem_cons_self ch hch)
      · rcases List.mem_cons.mp hch with rfl | hch
        · exact .inr rfl
        · exact .inl (hds ds (List.mem_cons_of_mem _ hmem) ch hch)
  refine ⟨header l.channel l.node ++ (l.cmd ++ dataText l.data), ?_, ?_⟩
  · simp [text]
  · intro ch h
    simp only [header, dataText, List.cons_append, List.append_assoc, List.mem_cons,
      List.mem_append, List.nil_append] at h
    rcases h with h | h | h | h | h | h
    · exact .inl h
    · exact .inr (.inl h)
    · exact .inr (.inr (.inl (l.node_digits ch h)))
    · exact .inr (.inr (.inr (.inl h)))
    · exact .inr (.inr (.inl (l.cmd_digits ch h)))
    · split at h
      · cases h
      · rcases List.mem_cons.mp h with h | h
        · exact .inr (.inr (.inr (.inl h)))
        · rcases hdata l.data l.data_digits h with h | h
          · exact .inr (.inr (.inl h))
          · exact .inr (.inr (.inr (.inr h)))

/-- No command line starts with another one. -/
theorem eq_of_text_eq_append {l l' : CommandLine} {x : List UInt8} (h : l.text = l'.text ++ x) :
    l = l' := by
  have hno {k : CommandLine} {body : List UInt8} (hbody : ∀ ch ∈ body,
      ch = chGreater ∨ ch = letter k.channel ∨ IsDigit ch ∨ ch = chColon ∨ ch = chComma) :
      ∀ ch ∈ body, (ch != chDot) = true := by
    intro ch hch
    rw [bne_iff_ne]
    rcases hbody ch hch with rfl | rfl | h | rfl | rfl
    · decide
    · exact letter_ne_dot _
    · rintro rfl
      exact not_isDigit_dot h
    · decide
    · decide
  obtain ⟨body, htext, hbody⟩ := exists_text_eq l
  obtain ⟨body', htext', hbody'⟩ := exists_text_eq l'
  rw [htext, htext', List.append_assoc, List.singleton_append] at h
  -- both bodies are what comes before the first dot
  have hfirst := congrArg (List.takeWhile (· != chDot)) h
  rw [List.takeWhile_append_of_pos (hno hbody), List.takeWhile_append_of_pos (hno hbody'),
    List.takeWhile_cons_of_neg (by decide), List.takeWhile_cons_of_neg (by decide),
    List.append_nil, List.append_nil] at hfirst
  exact text_inj (by rw [htext, htext', hfirst])

end CommandLine
end Libradio
