import Libradio.Control.Execution
import Libradio.Startup.Link

/-!
# What lrmond asks for, and what the controller makes of it

The lines that lrmond writes on its way to `STATE_READY`, the tasks they are for, and what
the controller does with one character of such a line: a task that is answered with `<+` is
done, and what has been done stays done until a reset.
-/

namespace Libradio
open Libradio.Base

namespace Startup
open Lrmon

/-- What the controller has to do before lrmond is in `STATE_READY`. -/
inductive Task
  | activate
  | time
  | date
  | channel (i : Fin 4)
  deriving DecidableEq, Repr

/-- A line that lrmond writes. The one that is called `early` sets channel 3 to EMPTY: it is
written when lrmond enters `STATE_ACTIVATE_CH3`, with the channel state computed for channel
2 (`src/lrmon/state.c:204-206`). -/
inductive Request
  | bootstrap
  | reset
  | status (dynamic : Bool)
  | activate
  | time (high low tens : Nat)
  | date (high low : Nat)
  | channel (i : Fin 4)
  | early
  deriving DecidableEq, Repr

namespace Request

/-- The message. -/
def text : Request → List UInt8
  | .bootstrap => [chR]
  | .reset => resetController
  | .status dynamic =>
    requestLocalStatus (if dynamic then RADIO_STATUS_DYNAMIC else RADIO_STATUS_STATIC)
  | .activate => localActivate
  | .time high low tens => sendCommand 0 1 RADIO_CMD_SET_TIME.toNat [high, low, tens]
  | .date high low => sendCommand 0 1 RADIO_CMD_SET_DATE.toNat [high, low]
  | .channel i => setChannel i.val (chstate i)
  | .early => setChannel 3 ChState.empty.toNat

/-- The line. -/
def line (r : Request) : List UInt8 := sioSend r.text

/-- The task that the line is for. -/
def task : Request → Option Task
  | .bootstrap | .reset | .status _ => none
  | .activate => some .activate
  | .time .. => some .time
  | .date .. => some .date
  | .channel i => some (.channel i)
  | .early => some (.channel (Fin.last 3))

/-- Channel A is one of the six. -/
theorem channelA_lt : 0 < 6 := Nat.zero_lt_succ 5

/-- A command on channel A. -/
def onChannelA (node cmd : Nat) (data : List Nat) (h : data.length ≤ 10) : CommandLine :=
  commandLine ⟨0, channelA_lt⟩ node cmd data h

/-- The line as a command on channel A, if it is one. -/
def command : Request → Option CommandLine
  | .bootstrap | .reset | .status _ => none
  | .activate =>
    some (onChannelA 0 RADIO_CMD_ACTIVATE.toNat [0, 1, 0] (Nat.le_of_ble_eq_true rfl))
  | .time high low tens =>
    some (onChannelA 1 RADIO_CMD_SET_TIME.toNat [high, low, tens] (Nat.le_of_ble_eq_true rfl))
  | .date high low =>
    some (onChannelA 1 RADIO_CMD_SET_DATE.toNat [high, low] (Nat.le_of_ble_eq_true rfl))
  | .channel i =>
    some (onChannelA 1 RADIO_CMD_SET_CHANNEL.toNat [i.val, chstate i]
      (Nat.le_of_ble_eq_true rfl))
  | .early =>
    some (onChannelA 1 RADIO_CMD_SET_CHANNEL.toNat [3, ChState.empty.toNat]
      (Nat.le_of_ble_eq_true rfl))

/-- A command is written as its line on channel A. -/
theorem text_of_command {r : Request} {l : CommandLine} (h : r.command = some l) :
    r.text = l.text ∧ l.channel = 0 := by
  cases r with
  | bootstrap | reset | status dynamic => cases h
  | activate | time high low tens | date high low | channel i | early =>
    cases h
    exact ⟨sendCommand_eq_text 0 _ _ _ _, rfl⟩

/-- The other lines are two characters long at most, and none of them starts a command. -/
theorem text_of_no_command {r : Request} (h : r.command = none) :
    r.text = [chR] ∨ r.text = [chGreater, chS] ∨ r.text = [chGreater, chT] ∨
      (r = .reset ∧ r.text = [chGreater, chR]) := by
  cases r with
  | bootstrap => exact .inl rfl
  | reset => exact .inr (.inr (.inr ⟨rfl, rfl⟩))
  | status dynamic =>
    cases dynamic
    · exact .inr (.inl rfl)
    · exact .inr (.inr (.inl rfl))
  | activate | time high low tens | date high low | channel i | early => cases h

end Request

/-! ### Reading a line -/

variable {σ : Type}

namespace Request

/-- No message has a line end in it. -/
theorem not_lineEnd_text (r : Request) : ∀ ch ∈ r.text, ¬ IsLineEnd ch := by
  intro ch hch
  cases hcmd : r.command with
  | none =>
    have hmem : ch = chGreater ∨ ch = chR ∨ ch = chS ∨ ch = chT := by
      rcases text_of_no_command hcmd with h | h | h | ⟨-, h⟩ <;> rw [h] at hch <;>
        simp only [List.mem_cons, List.not_mem_nil, or_false] at hch <;> grind
    rcases hmem with rfl | rfl | rfl | rfl <;> decide
  | some l =>
    obtain ⟨body, htext, hbody⟩ := l.exists_text_eq
    rw [(text_of_command hcmd).1, htext, List.mem_append, List.mem_singleton] at hch
    rcases hch with hch | rfl
    · rcases hbody ch hch with rfl | rfl | h | rfl | rfl
      · decide
      · rw [(text_of_command hcmd).2]
        decide
      · rintro (rfl | rfl) <;> revert h <;> decide
      · decide
      · decide
    · decide

/-- Where a character of the line stands: in the message, at the line end behind it, or behind
that. -/
theorem line_cases {r : Request} {k : Nat} {ch : UInt8} (h : r.line[k]? = some ch) :
    (currentLine (r.line.take k) = r.text.take k ∧ r.text[k]? = some ch) ∨
      (currentLine (r.line.take k) = r.text ∧ IsLineEnd ch) ∨
      (currentLine (r.line.take k) = [] ∧ IsLineEnd ch) := by
  have hend := not_lineEnd_text r
  have hline : r.line = r.text ++ [chReturn, chNewline] := rfl
  rw [hline] at h ⊢
  rcases Nat.lt_trichotomy k r.text.length with hlt | rfl | hgt
  · left
    rw [List.getElem?_append_left hlt] at h
    rw [List.take_append_of_le_length (Nat.le_of_lt hlt)]
    exact ⟨currentLine_eq_self fun x hx ↦ hend x (List.mem_of_mem_take hx), h⟩
  · right; left
    rw [List.getElem?_append_right (Nat.le_refl _), Nat.sub_self] at h
    rw [List.take_left]
    cases h
    exact ⟨currentLine_eq_self hend, .inr rfl⟩
  · right; right
    obtain ⟨n, rfl⟩ : ∃ n, k = r.text.length + 1 + n := ⟨k - r.text.length - 1, by omega⟩
    have hlen := (List.getElem?_eq_some_iff.mp h).1
    rw [List.length_append] at hlen
    obtain rfl : n = 0 := by
      simp only [List.length_cons, List.length_nil] at hlen
      omega
    rw [List.getElem?_append_right (by omega)] at h
    simp only [Nat.add_zero, Nat.add_sub_cancel_left] at h
    cases h
    refine ⟨?_, .inl rfl⟩
    have htake : (r.text ++ [chReturn, chNewline]).take (r.text.length + 1) =
        r.text ++ [chReturn] := by
      rw [List.take_append, List.take_of_length_le (Nat.le_succ _), Nat.add_sub_cancel_left]
      rfl
    rw [Nat.add_zero, htake, currentLine_concat, nextLine, if_pos (.inr rfl)]

/-- A line that is no command never fills a channel. -/
theorem not_assembling {s : Ctl σ} {r : Request} (hr : r.command = none) {k : Nat}
    {ch : UInt8} (hch : r.line[k]? = some ch) (h : s.Reads (currentLine (r.line.take k))) :
    ¬ s.state.IsAssembling := by
  intro hasm
  obtain ⟨q, rest, hq, hline, -⟩ := Ctl.assembling_of_reads h hasm
  -- the line so far is a part of the message
  obtain ⟨n, hn⟩ : ∃ n, currentLine (r.line.take k) = r.text.take n := by
    rcases line_cases hch with ⟨h, -⟩ | ⟨h, -⟩ | ⟨h, -⟩
    · exact ⟨k, h⟩
    · exact ⟨r.text.length, by rw [h, List.take_length]⟩
    · exact ⟨0, by rw [h, List.take_zero]⟩
  rw [hn] at hline
  have hlen := congrArg List.length hline
  have htext : ∃ x y, r.text = [x] ∨ (r.text = [x, y] ∧ (y = chS ∨ y = chT ∨ y = chR)) := by
    rcases text_of_no_command hr with h | h | h | ⟨-, h⟩
    · exact ⟨_, 0, .inl h⟩
    · exact ⟨_, _, .inr ⟨h, .inl rfl⟩⟩
    · exact ⟨_, _, .inr ⟨h, .inr (.inl rfl)⟩⟩
    · exact ⟨_, _, .inr ⟨h, .inr (.inr rfl)⟩⟩
  obtain ⟨x, y, htext | ⟨htext, hy⟩⟩ := htext
  · rw [htext, List.length_take] at hlen
    simp only [List.length_append, List.length_cons, List.length_nil] at hlen
    omega
  · rw [htext] at hline hlen
    rw [List.length_take] at hlen
    simp only [List.length_append, List.length_cons, List.length_nil] at hlen
    rcases head_of_requests hq with rfl | ⟨x', rest', -, rfl⟩
    · obtain ⟨m, rfl⟩ : ∃ m, n = m + 2 := ⟨n - 2, by omega⟩
      simp only [List.take_succ_cons, List.nil_append, List.cons.injEq] at hline
      exact letter_ne hy hline.2.1.symm
    · simp only [List.length_cons] at hlen
      omega

/-- A packet that is handed over while a line of lrmond's is read is what the line says. -/
theorem command_of_completed {s : Ctl σ} {r : Request} {k : Nat} {ch : UInt8}
    (hch : r.line[k]? = some ch) (h : s.Reads (currentLine (r.line.take k))) {c : Fin 6}
    {p : Packet.Content} (hp : Ctl.completed ch s = some (c, p)) :
    ∃ l, r.command = some l ∧ l.channel = c ∧ l.Writes p := by
  have hcomp : Ctl.Completes s ch := by
    rw [Ctl.completed] at hp
    split at hp
    · assumption
    · cases hp
  have hasm : s.state.IsAssembling := by
    rcases hcomp with ⟨hst, -⟩ | ⟨hst, -⟩ <;> rw [hst] <;> decide
  cases hcmd : r.command with
  | none => exact absurd hasm (not_assembling hcmd hch h)
  | some l =>
    obtain ⟨htext, hchan⟩ := text_of_command hcmd
    obtain ⟨q, rest, hq, hline, hdot⟩ := Ctl.assembling_of_reads h hasm
    rcases line_cases hch with ⟨hcur, hk⟩ | ⟨hcur, -⟩ | ⟨hcur, -⟩
    · rcases Ctl.handed_of_reads h hp with ⟨rfl, q', l', hq', hline', hchan', hw⟩ | ⟨hend, -⟩
      · refine ⟨l, rfl, ?_⟩
        have hsplit : l.text = q' ++ l'.text ++ r.text.drop (k + 1) := by
          obtain ⟨hlt, hget⟩ := List.getElem?_eq_some_iff.mp hk
          rw [← hline', hcur, ← htext, ← hget, ← List.take_succ_eq_append_getElem hlt,
            List.take_append_drop]
        rcases head_of_requests hq' with rfl | ⟨x, rest', hx, rfl⟩
        · obtain rfl := CommandLine.eq_of_text_eq_append hsplit
          exact ⟨hchan', hw⟩
        · obtain ⟨tail, htail⟩ := l.text_head
          rw [htail, List.cons_append, List.cons_append] at hsplit
          exact absurd (List.cons.inj (List.cons.inj hsplit).2).1 (letter_ne hx)
      · exact absurd hend (not_lineEnd_text r ch (List.mem_of_getElem? hk))
    · rw [hcur, htext] at hline
      obtain ⟨body, hbody, -⟩ := l.exists_text_eq
      have hmem : chDot ∈ q ++ chGreater :: letter s.currChp :: rest := by
        rw [← hline, hbody]
        simp
      rcases List.mem_append.mp hmem with hmem | hmem
      · exact absurd hmem (dot_notMem_requests hq)
      · rcases List.mem_cons.mp hmem with hmem | hmem
        · exact absurd hmem (by decide)
        · rcases List.mem_cons.mp hmem with hmem | hmem
          · exact absurd hmem.symm (letter_ne_dot _)
          · exact absurd hmem hdot
    · rw [hcur] at hline
      exact absurd hline.symm (by simp)

/-- Only the reset line restarts the controller. -/
theorem eq_reset_of_restart {s : Ctl σ} {r : Request} {k : Nat}
    (hch : r.line[k]? = some chR) (h : s.Reads (currentLine (r.line.take k)))
    (hst : s.state = .waitchan) : r = .reset := by
  rw [Ctl.Reads, hst] at h
  obtain ⟨q, -, hline⟩ := h
  have hend : ¬ IsLineEnd chR := by decide
  rcases line_cases hch with ⟨hcur, hk⟩ | ⟨-, h⟩ | ⟨-, h⟩
  · cases hcmd : r.command with
    | none =>
      rcases text_of_no_command hcmd with htext | htext | htext | ⟨rfl, -⟩
      · rw [htext] at hk hcur
        obtain rfl : k = 0 := by
          have := (List.getElem?_eq_some_iff.mp hk).1
          simpa using this
        rw [hcur, List.take_zero] at hline
        exact absurd hline.symm (by simp)
      · exact absurd (List.mem_of_getElem? hk) (by rw [htext]; decide)
      · exact absurd (List.mem_of_getElem? hk) (by rw [htext]; decide)
      · rfl
    | some l =>
      obtain ⟨body, hbody, hmem⟩ := l.exists_text_eq
      have hch := List.mem_of_getElem? hk
      rw [(text_of_command hcmd).1, hbody, List.mem_append, List.mem_singleton] at hch
      rcases hch with hch | hch
      · rcases hmem chR hch with h | h | h | h | h
        · exact absurd h (by decide)
        · exact absurd h.symm (letter_ne (.inr (.inr rfl)))
        · exact absurd h (by decide)
        · exact absurd h (by decide)
        · exact absurd h (by decide)
      · exact absurd hch (by decide)
  · exact absurd h hend
  · exact absurd h hend

end Request

end Startup
end Libradio
